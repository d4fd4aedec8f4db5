import Shamarx.Fleet.TerminalRegistry
import Shamarx.Foundation.Runs

/-!
# Requests of the terminal manager

`provision` takes a slot before a chain of steps that may raise; its clean-up runs
for one class of exceptions and gives the slot up, whoever held it before.  Requests
come one after another, and each carries what raises in it.
-/

namespace Shamarx
namespace Fleet

open Foundation

/-!
# The host
-/

inductive Fault where
  | http
  | other
  deriving DecidableEq, Repr

/-- `state.json`: never written, holding slots, or cut short by a write that failed. -/
inductive StateFile where
  | missing
  | holds (slots : Slots)
  | torn
  deriving DecidableEq

/-- The slots `load` reads; a torn file does not parse. -/
def StateFile.slots : StateFile -> Option Slots
  | .missing => some []
  | .holds slots => some slots
  | .torn => none

inductive SaveOutcome where
  | written
  | unopened (fault : Fault)
  | torn (fault : Fault)
  deriving DecidableEq, Repr

def SaveOutcome.fault : SaveOutcome -> Option Fault
  | .written => none
  | .unopened fault => some fault
  | .torn fault => some fault

/-- The registry, its file, and the worker process of each account, by its port. -/
structure Host where
  slots : Slots
  file : StateFile
  procs : InsertionMap String Nat
  deriving DecidableEq

def Host.boot (file : StateFile) : Host :=
  { slots := file.slots.getD [], file := file, procs := [] }

def Host.save (s : Host) : SaveOutcome -> Host × Option Fault
  | .written => ({ s with file := .holds s.slots }, none)
  | .unopened fault => (s, some fault)
  | .torn fault => ({ s with file := .torn }, some fault)

/-!
# Requests

A fault of a step is what it raises, if anything; `request` covers the secret, the
body and the account id.
-/

structure TearDownFaults where
  killWorker : Option Fault
  killTerminal : Option Fault
  removeDir : Option Fault
  save : SaveOutcome

structure ProvisionFaults where
  request : Option Fault
  unpack : Option Fault
  config : Option Fault
  spawn : Option Fault
  launch : Option Fault
  seedLogin : Option Fault
  workerReady : Option Fault
  save : SaveOutcome
  cleanUp : TearDownFaults

namespace ProvisionFaults

/-- What is raised before the worker is in the process table. -/
def early (f : ProvisionFaults) : Option Fault :=
  f.unpack <|> f.config <|> f.spawn

def late (f : ProvisionFaults) : Option Fault :=
  f.launch <|> f.seedLogin <|> f.workerReady

end ProvisionFaults

structure RestartFaults where
  request : Option Fault
  killWorker : Option Fault
  killTerminal : Option Fault
  spawn : Option Fault
  launch : Option Fault
  workerReady : Option Fault

inductive ProvisionResult where
  | connected (port : Nat)
  | failed (fault : Fault)
  deriving DecidableEq, Repr

def Host.dropWorker (s : Host) (accountId : String) (kill : Option Fault) :
    Host × Option Fault :=
  match s.procs.get accountId with
  | none => (s, none)
  | some _ => ({ s with procs := s.procs.erase accountId }, kill)

def Host.tearDown (s : Host) (accountId : String) (f : TearDownFaults) : Host × Option Fault :=
  let (s, killed) := s.dropWorker accountId f.killWorker
  match killed <|> f.killTerminal <|> f.removeDir with
  | some fault => (s, some fault)
  | none => Host.save { s with slots := s.slots.erase accountId } f.save

def Host.bringUp (s : Host) (accountId : String) (port : Nat) (f : ProvisionFaults) :
    Host × Option Fault :=
  match f.early with
  | some fault => (s, some fault)
  | none =>
      let s := { s with procs := s.procs.set accountId port }
      match f.late with
      | some fault => (s, some fault)
      | none => s.save f.save

def AllocateError.fault : AllocateError -> Fault
  | .fleetFull => .http
  | .noPort => .other

def provision (cfg : FleetConfig) (s : Host) (accountId : String) (f : ProvisionFaults) :
    Host × ProvisionResult :=
  match f.request with
  | some fault => (s, .failed fault)
  | none =>
      match allocate cfg s.slots accountId with
      | .error e => (s, .failed e.fault)
      | .ok (slots, port) =>
          match Host.bringUp { s with slots := slots } accountId port f with
          | (s, none) => (s, .connected port)
          | (s, some .other) => (s, .failed .other)
          | (s, some .http) =>
              let (s, fault) := s.tearDown accountId f.cleanUp
              (s, .failed (fault.getD .http))

def restart (s : Host) (accountId : String) (f : RestartFaults) : Host × Option Fault :=
  match f.request, s.slots.get accountId with
  | some fault, _ => (s, some fault)
  | none, none => (s, some .http)
  | none, some port =>
      let (s, killed) := s.dropWorker accountId f.killWorker
      match killed <|> f.killTerminal <|> f.spawn with
      | some fault => (s, some fault)
      | none =>
          ({ s with procs := s.procs.set accountId port }, f.launch <|> f.workerReady)

def deprovision (s : Host) (accountId : String) (request : Option Fault)
    (f : TearDownFaults) : Host × Option Fault :=
  match request with
  | some fault => (s, some fault)
  | none => s.tearDown accountId f

inductive FleetOp where
  | provision (accountId : String) (f : ProvisionFaults)
  | restart (accountId : String) (f : RestartFaults)
  | deprovision (accountId : String) (request : Option Fault) (f : TearDownFaults)

def fleetStep (cfg : FleetConfig) (s : Host) : FleetOp -> Host
  | .provision accountId f => (provision cfg s accountId f).1
  | .restart accountId f => (restart s accountId f).1
  | .deprovision accountId request f => (deprovision s accountId request f).1

/-!
# What the parts do to the slots and the file
-/

theorem save_slots (s : Host) (outcome : SaveOutcome) : (s.save outcome).1.slots = s.slots := by
  cases outcome <;> rfl

theorem save_file (s : Host) (outcome : SaveOutcome) :
    (s.save outcome).1.file.slots =
      match outcome with
      | .written => some s.slots
      | .unopened _ => s.file.slots
      | .torn _ => none := by
  cases outcome <;> rfl

@[simp] theorem dropWorker_slots (s : Host) (accountId : String) (kill : Option Fault) :
    (s.dropWorker accountId kill).1.slots = s.slots := by
  unfold Host.dropWorker
  split <;> rfl

@[simp] theorem dropWorker_file (s : Host) (accountId : String) (kill : Option Fault) :
    (s.dropWorker accountId kill).1.file = s.file := by
  unfold Host.dropWorker
  split <;> rfl

/-- What the clean-up raises before it frees the slot. -/
def tearDownFault (hasWorker : Bool) (f : TearDownFaults) : Option Fault :=
  (if hasWorker then f.killWorker else none) <|> f.killTerminal <|> f.removeDir

theorem dropWorker_fault (s : Host) (accountId : String) (kill : Option Fault) :
    (s.dropWorker accountId kill).2 =
      if (s.procs.get accountId).isSome then kill else none := by
  unfold Host.dropWorker
  split
  · next hget =>
      rw [hget]
      rfl
  · next port hget =>
      rw [hget]
      rfl

theorem tearDown_eq (s : Host) (accountId : String) (f : TearDownFaults) :
    s.tearDown accountId f =
      match tearDownFault (s.procs.get accountId).isSome f with
      | some fault => ((s.dropWorker accountId f.killWorker).1, some fault)
      | none =>
          Host.save { (s.dropWorker accountId f.killWorker).1 with
            slots := s.slots.erase accountId } f.save := by
  unfold Host.tearDown tearDownFault
  dsimp only
  rw [dropWorker_fault, dropWorker_slots]

theorem tearDown_slots (s : Host) (accountId : String) (f : TearDownFaults) :
    (s.tearDown accountId f).1.slots = s.slots ∨
      (s.tearDown accountId f).1.slots = s.slots.erase accountId := by
  rw [tearDown_eq]
  split
  · exact Or.inl (dropWorker_slots s accountId _)
  · exact Or.inr (save_slots _ _)

theorem bringUp_slots (s : Host) (accountId : String) (port : Nat) (f : ProvisionFaults) :
    (s.bringUp accountId port f).1.slots = s.slots := by
  unfold Host.bringUp
  split
  · rfl
  · dsimp only
    split
    · rfl
    · exact save_slots _ _

theorem provision_slots (cfg : FleetConfig) (s : Host) (accountId : String)
    (f : ProvisionFaults) :
    (provision cfg s accountId f).1.slots = s.slots ∨
      exists slots port, allocate cfg s.slots accountId = .ok (slots, port) ∧
        ((provision cfg s accountId f).1.slots = slots ∨
          (provision cfg s accountId f).1.slots = slots.erase accountId) := by
  unfold provision
  split
  · exact Or.inl rfl
  · split
    · exact Or.inl rfl
    · next slots port hallocate =>
        refine Or.inr ⟨slots, port, hallocate, ?_⟩
        have hup := bringUp_slots { s with slots := slots } accountId port f
        split
        · next s' hrun =>
            rw [hrun] at hup
            exact Or.inl hup
        · next s' hrun =>
            rw [hrun] at hup
            exact Or.inl hup
        · next s' hrun =>
            rw [hrun] at hup
            rcases tearDown_slots s' accountId f.cleanUp with hsame | herased
            · exact Or.inl (hsame.trans hup)
            · exact Or.inr (herased.trans (by rw [show s'.slots = slots from hup]))

theorem restart_slots (s : Host) (accountId : String) (f : RestartFaults) :
    (restart s accountId f).1.slots = s.slots := by
  unfold restart
  split
  · rfl
  · rfl
  · dsimp only
    split
    · exact dropWorker_slots s accountId _
    · exact dropWorker_slots s accountId _

theorem soundSlots_step {cfg : FleetConfig} {s : Host} (h : SoundSlots cfg s.slots)
    (op : FleetOp) : SoundSlots cfg (fleetStep cfg s op).slots := by
  cases op with
  | provision accountId f =>
      rcases provision_slots cfg s accountId f with hsame | ⟨slots, port, hok, htaken | herased⟩
      · exact hsame.symm ▸ h
      · exact htaken.symm ▸ h.allocate hok
      · exact herased.symm ▸ (h.allocate hok).erase accountId
  | restart accountId f =>
      exact (restart_slots s accountId f).symm ▸ h
  | deprovision accountId request f =>
      cases request with
      | some fault =>
          exact h
      | none =>
          rcases tearDown_slots s accountId f with hsame | herased
          · exact hsame.symm ▸ h
          · exact herased.symm ▸ h.erase accountId

/-!
# When a failed provision leaves no trace
-/

def ProvisionFaults.steps (f : ProvisionFaults) : Option Fault :=
  f.early <|> f.late <|> f.save.fault

/-- The body fails in its save, with the file cut short. -/
def ProvisionFaults.TearsFile (f : ProvisionFaults) : Prop :=
  f.early = none ∧ f.late = none ∧ exists fault, f.save = .torn fault

def KeepsFile (s : Host) (f : ProvisionFaults) : Prop :=
  f.TearsFile -> s.file.slots = none

def hasWorker (s : Host) (accountId : String) (f : ProvisionFaults) : Bool :=
  f.early.isNone || (s.procs.get accountId).isSome

/-- A body that raises leaves slots and file as they were: either nothing frees a
slot that the account had, or the clean-up frees one that it did not have, and the
file was in step with the registry. -/
def RestoredOnFailure (s : Host) (accountId : String) (f : ProvisionFaults) : Prop :=
  match f.steps with
  | none => True
  | some .other => (s.slots.get accountId).isSome ∧ KeepsFile s f
  | some .http =>
      match tearDownFault (hasWorker s accountId f) f.cleanUp with
      | some _ => (s.slots.get accountId).isSome ∧ KeepsFile s f
      | none =>
          s.slots.get accountId = none ∧
            match f.cleanUp.save with
            | .written => s.file.slots = some s.slots
            | .unopened _ => KeepsFile s f
            | .torn _ => s.file.slots = none

theorem bringUp_fault (s : Host) (accountId : String) (port : Nat) (f : ProvisionFaults) :
    (s.bringUp accountId port f).2 = f.steps := by
  unfold Host.bringUp ProvisionFaults.steps
  cases f.early with
  | some fault =>
      rfl
  | none =>
      cases f.late with
      | some fault =>
          rfl
      | none =>
          cases hsave : f.save <;> rfl

theorem bringUp_hasWorker (s : Host) (accountId : String) (port : Nat) (f : ProvisionFaults) :
    (((s.bringUp accountId port f).1.procs.get accountId).isSome) = hasWorker s accountId f := by
  unfold Host.bringUp hasWorker
  cases f.early with
  | some fault =>
      rfl
  | none =>
      cases f.late with
      | some fault =>
          simp
      | none =>
          cases f.save <;> simp [Host.save]

theorem bringUp_file {s : Host} {accountId : String} {port : Nat} {f : ProvisionFaults}
    {fault : Fault} (h : f.steps = some fault) :
    (s.bringUp accountId port f).1.file.slots = s.file.slots ↔ KeepsFile s f := by
  unfold Host.bringUp KeepsFile ProvisionFaults.TearsFile
  unfold ProvisionFaults.steps at h
  cases hearly : f.early with
  | some early =>
      simp
  | none =>
      cases hlate : f.late with
      | some late =>
          simp
      | none =>
          cases hsave : f.save with
          | written =>
              rw [hearly, hlate, hsave] at h
              cases h
          | unopened fault =>
              simp [Host.save]
          | torn fault =>
              simp [Host.save, StateFile.slots, eq_comm]

theorem tearDown_restores_iff {cfg : FleetConfig} {s : Host} {slots : Slots}
    {accountId : String} {port : Nat} {f : ProvisionFaults} {fault : Fault}
    (hok : allocate cfg s.slots accountId = .ok (slots, port)) (hsteps : f.steps = some fault) :
    let after := (Host.bringUp { s with slots := slots } accountId port f).1
    let cleaned := (after.tearDown accountId f.cleanUp).1
    cleaned.slots = s.slots ∧ cleaned.file.slots = s.file.slots ↔
      match tearDownFault (hasWorker s accountId f) f.cleanUp with
      | some _ => (s.slots.get accountId).isSome ∧ KeepsFile s f
      | none =>
          s.slots.get accountId = none ∧
            match f.cleanUp.save with
            | .written => s.file.slots = some s.slots
            | .unopened _ => KeepsFile s f
            | .torn _ => s.file.slots = none := by
  have hslots : (Host.bringUp { s with slots := slots } accountId port f).1.slots = slots :=
    bringUp_slots _ _ _ _
  have hfile : (Host.bringUp { s with slots := slots } accountId port f).1.file.slots =
      s.file.slots ↔ KeepsFile s f := bringUp_file hsteps
  have hworker : ((Host.bringUp { s with slots := slots } accountId port f).1.procs.get
      accountId).isSome = hasWorker s accountId f := bringUp_hasWorker _ _ _ _
  have hkept := allocate_slots_eq_iff hok
  have hfreed := allocate_erase_eq_iff hok
  dsimp only
  rw [tearDown_eq, hworker]
  split
  · rw [dropWorker_slots, dropWorker_file, hslots, hkept, hfile]
  · rw [save_slots, save_file, hslots, dropWorker_file]
    cases f.cleanUp.save with
    | written =>
        dsimp only
        constructor
        · rintro ⟨hsame, hwritten⟩
          exact ⟨hfreed.mp hsame, hwritten.symm.trans (congrArg some hsame)⟩
        · rintro ⟨hnew, hsync⟩
          have hsame := hfreed.mpr hnew
          exact ⟨hsame, (congrArg some hsame).trans hsync.symm⟩
    | unopened fault =>
        exact and_congr hfreed hfile
    | torn fault =>
        exact and_congr hfreed eq_comm

def LeavesNoTrace (cfg : FleetConfig) (s : Host) (accountId : String) (f : ProvisionFaults) :
    Prop :=
  forall fault, (provision cfg s accountId f).2 = .failed fault ->
    (provision cfg s accountId f).1.slots = s.slots ∧
      (provision cfg s accountId f).1.file.slots = s.file.slots

theorem leavesNoTrace_iff_of_slot {cfg : FleetConfig} {s : Host} {slots : Slots}
    {accountId : String} {port : Nat} {f : ProvisionFaults} (hrequest : f.request = none)
    (hok : allocate cfg s.slots accountId = .ok (slots, port)) :
    LeavesNoTrace cfg s accountId f ↔ RestoredOnFailure s accountId f := by
  have hfault := bringUp_fault { s with slots := slots } accountId port f
  unfold LeavesNoTrace RestoredOnFailure provision
  rw [hrequest, hok]
  dsimp only
  generalize hrun : Host.bringUp { s with slots := slots } accountId port f = run at *
  rcases run with ⟨after, outcome⟩
  change outcome = f.steps at hfault
  subst hfault
  have hslots : after.slots = slots := by
    have h := bringUp_slots { s with slots := slots } accountId port f
    rw [hrun] at h
    exact h
  cases hsteps : f.steps with
  | none =>
      simp
  | some fault =>
      have hfile :
          (({ s with slots := slots } : Host).bringUp accountId port f).1.file.slots =
            s.file.slots ↔ KeepsFile { s with slots := slots } f := bringUp_file hsteps
      have hcleaned := tearDown_restores_iff hok hsteps
      rw [hrun] at hfile hcleaned
      cases fault with
      | other =>
          simp only [ProvisionResult.failed.injEq, forall_eq', hslots]
          exact and_congr (allocate_slots_eq_iff hok) hfile
      | http =>
          simp only [ProvisionResult.failed.injEq, forall_eq']
          exact hcleaned

theorem leavesNoTrace_of_refused {cfg : FleetConfig} {s : Host} {accountId : String}
    {f : ProvisionFaults}
    (h : f.request ≠ none ∨ exists e, allocate cfg s.slots accountId = .error e) :
    LeavesNoTrace cfg s accountId f := by
  unfold LeavesNoTrace provision
  cases hrequest : f.request with
  | some fault =>
      exact fun _ _ => ⟨rfl, rfl⟩
  | none =>
      rcases h with hraised | ⟨e, hfull⟩
      · exact absurd hrequest hraised
      · rw [hfull]
        exact fun _ _ => ⟨rfl, rfl⟩

/-!
# Fleet bookkeeping over runs
-/

/-- What each request keeps: bounded slots with distinct ports, refusals only by a
full fleet, and no trace of a failed provision. -/
structure FleetKept (cfg : FleetConfig) (s : Host) (op : FleetOp) : Prop where
  before : SoundSlots cfg s.slots
  after : SoundSlots cfg (fleetStep cfg s op).slots
  refusals : forall accountId e, allocate cfg s.slots accountId = .error e ->
    cfg.maxTerminals ≤ (s.slots.erase accountId).length
  noTrace : forall accountId f, op = .provision accountId f -> LeavesNoTrace cfg s accountId f

def RestoresOnFailure (cfg : FleetConfig) (s : Host) : FleetOp -> Prop
  | .provision accountId f =>
      f.request = none ->
        ((s.slots.get accountId).isSome ∨ s.slots.length < cfg.maxTerminals) ->
          RestoredOnFailure s accountId f
  | .restart _ _ => True
  | .deprovision _ _ _ => True

theorem leavesNoTrace_iff {cfg : FleetConfig} {s : Host} {accountId : String}
    {f : ProvisionFaults} :
    LeavesNoTrace cfg s accountId f ↔ RestoresOnFailure cfg s (.provision accountId f) := by
  unfold RestoresOnFailure
  cases hrequest : f.request with
  | some fault =>
      refine iff_of_true (leavesNoTrace_of_refused (Or.inl (by simp [hrequest]))) ?_
      intro h
      rw [hrequest] at h
      cases h
  | none =>
      cases hallocate : allocate cfg s.slots accountId with
      | error e =>
          refine iff_of_true (leavesNoTrace_of_refused (Or.inr ⟨e, hallocate⟩)) ?_
          rcases allocate_error hallocate with ⟨hnew, hfull⟩
          rw [InsertionMap.erase_of_get_none hnew] at hfull
          rintro - (hknown | hroom)
          · rw [hnew] at hknown
            cases hknown
          · omega
      | ok taken =>
          rcases taken with ⟨slots, port⟩
          have hslot : (s.slots.get accountId).isSome ∨ s.slots.length < cfg.maxTerminals := by
            rcases allocate_ok hallocate with ⟨hknown, -⟩ | ⟨-, -, hroom, -⟩
            · exact Or.inl (by rw [hknown]; rfl)
            · exact Or.inr hroom
          rw [leavesNoTrace_iff_of_slot hrequest hallocate]
          exact ⟨fun h _ _ => h, fun h => h hrequest hslot⟩

theorem fleetKept_iff {cfg : FleetConfig} {s : Host} (hs : SoundSlots cfg s.slots)
    (op : FleetOp) : FleetKept cfg s op ↔ RestoresOnFailure cfg s op := by
  constructor
  · intro h
    cases op with
    | provision accountId f =>
        exact leavesNoTrace_iff.mp (h.noTrace accountId f rfl)
    | restart accountId f =>
        exact trivial
    | deprovision accountId request f =>
        exact trivial
  · intro h
    refine ⟨hs, soundSlots_step hs op, ?_, ?_⟩
    · intro accountId e hfull
      exact (allocate_error hfull).2
    · rintro accountId f rfl
      exact leavesNoTrace_iff.mpr h

/-- From a loaded registry, every request keeps the books exactly if every provision
that gets a slot either succeeds or restores what it found. -/
theorem fleet_bookkeeping_iff (cfg : FleetConfig) (file : StateFile) (slots : Slots)
    (ops : List FleetOp) (hfile : file.slots = some slots) (hslots : SoundSlots cfg slots) :
    EveryStep (fleetStep cfg) (FleetKept cfg) (Host.boot file) ops ↔
      EveryStep (fleetStep cfg) (RestoresOnFailure cfg) (Host.boot file) ops := by
  have hboot : SoundSlots cfg (Host.boot file).slots := by
    unfold Host.boot
    rw [hfile]
    exact hslots
  constructor
  · exact everyStep_of_inv (fun s => SoundSlots cfg s.slots)
      (fun s op hs _ => soundSlots_step hs op) (fun s op hs => (fleetKept_iff hs op).mp) hboot
  · exact everyStep_of_inv (fun s => SoundSlots cfg s.slots)
      (fun s op hs _ => soundSlots_step hs op) (fun s op hs => (fleetKept_iff hs op).mpr) hboot

/-!
# Two accounts on a host for two
-/

def pairOfTerminals : FleetConfig :=
  { basePort := 9100, maxTerminals := 2 }

def smoothTearDown : TearDownFaults :=
  { killWorker := none, killTerminal := none, removeDir := none, save := .written }

def smoothProvision : ProvisionFaults :=
  { request := none
    unpack := none
    config := none
    spawn := none
    launch := none
    seedLogin := none
    workerReady := none
    save := .written
    cleanUp := smoothTearDown }

def rejectedLogin : ProvisionFaults :=
  { smoothProvision with workerReady := some .http }

def missingTemplate : ProvisionFaults :=
  { smoothProvision with unpack := some .other }

/-- A new account whose login is rejected leaves the slot of the other account. -/
theorem rejected_login_of_new_account :
    EveryStep (fleetStep pairOfTerminals) (FleetKept pairOfTerminals) (Host.boot .missing)
      [.provision "a" smoothProvision, .provision "b" rejectedLogin] :=
  (fleet_bookkeeping_iff pairOfTerminals .missing [] _ rfl (soundSlots_nil _)).mpr
    ⟨fun _ _ => trivial, fun _ _ => ⟨rfl, rfl⟩, trivial⟩

/-- A rejected login of a provisioned account takes its slot away, and a missing
template leaves the slot of an account that was never provisioned. -/
theorem failed_provisions_leave_traces :
    ¬ EveryStep (fleetStep pairOfTerminals) (FleetKept pairOfTerminals) (Host.boot .missing)
        [.provision "a" smoothProvision, .provision "a" rejectedLogin] ∧
      ¬ EveryStep (fleetStep pairOfTerminals) (FleetKept pairOfTerminals) (Host.boot .missing)
        [.provision "a" missingTemplate] := by
  constructor
  · rintro ⟨-, h, -⟩
    have hkept := (h.noTrace "a" rejectedLogin rfl .http (by decide +kernel)).1
    exact absurd hkept (by decide +kernel)
  · rintro ⟨h, -⟩
    have hkept := (h.noTrace "a" missingTemplate rfl .other (by decide +kernel)).1
    exact absurd hkept (by decide +kernel)

end Fleet
end Shamarx
