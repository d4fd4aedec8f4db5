import Mathlib.Data.List.Basic

/-!
# Runs of a deterministic step function

## Finite runs

A component with an explicit state is modelled by a step function.  A run is
the fold of that function over a list of operations, and a property of a run is
a property of each of its steps, read at the state before the step.
-/

namespace Shamarx
namespace Foundation

def runFrom (step : state -> op -> state) (s : state) (ops : List op) : state :=
  ops.foldl step s

@[simp] theorem runFrom_cons (step : state -> op -> state) (s : state) (o : op)
    (rest : List op) :
    runFrom step s (o :: rest) = runFrom step (step s o) rest := rfl

theorem runFrom_append (step : state -> op -> state) (s : state)
    (front back : List op) :
    runFrom step s (front ++ back) = runFrom step (runFrom step s front) back := by
  simp [runFrom, List.foldl_append]

def EveryStep (step : state -> op -> state) (P : state -> op -> Prop) :
    state -> List op -> Prop
  | _, [] => True
  | s, o :: rest => P s o ∧ EveryStep step P (step s o) rest

instance everyStepDecidable (step : state -> op -> state) (P : state -> op -> Prop)
    [forall s o, Decidable (P s o)] :
    forall s ops, Decidable (EveryStep step P s ops)
  | _, [] => isTrue trivial
  | s, o :: rest =>
      have : Decidable (EveryStep step P (step s o) rest) :=
        everyStepDecidable step P (step s o) rest
      inferInstanceAs (Decidable (P s o ∧ EveryStep step P (step s o) rest))

/-!
# Invariants of runs

An invariant may need a side condition on each step; the condition is read at
the state before the step, where the invariant already holds.
-/

theorem runFrom_inv {step : state -> op -> state} (Inv : state -> Prop)
    (hstep : forall s o, Inv s -> Inv (step s o)) {s : state} (hs : Inv s)
    (ops : List op) : Inv (runFrom step s ops) := by
  induction ops generalizing s with
  | nil =>
      exact hs
  | cons o rest ih =>
      exact ih (hstep s o hs)

theorem runFrom_inv_of_mem {step : state -> op -> state} (Inv : state -> Prop) {ops : List op}
    (hstep : forall s o, o ∈ ops -> Inv s -> Inv (step s o)) {s : state} (hs : Inv s) :
    Inv (runFrom step s ops) := by
  induction ops generalizing s with
  | nil =>
      exact hs
  | cons o rest ih =>
      exact ih (fun s o ho => hstep s o (List.mem_cons_of_mem _ ho))
        (hstep s o List.mem_cons_self hs)

theorem EveryStep.run_inv {step : state -> op -> state} (Inv : state -> Prop)
    {C : state -> op -> Prop} (hstep : forall s o, Inv s -> C s o -> Inv (step s o))
    {s : state} (hs : Inv s) {ops : List op} (hC : EveryStep step C s ops) :
    Inv (runFrom step s ops) := by
  induction ops generalizing s with
  | nil =>
      exact hs
  | cons o rest ih =>
      exact ih (hstep s o hs hC.1) hC.2

theorem everyStep_of_inv {step : state -> op -> state} (Inv : state -> Prop)
    {C P : state -> op -> Prop}
    (hstep : forall s o, Inv s -> C s o -> Inv (step s o))
    (hP : forall s o, Inv s -> C s o -> P s o)
    {s : state} (hs : Inv s) {ops : List op} (hC : EveryStep step C s ops) :
    EveryStep step P s ops := by
  induction ops generalizing s with
  | nil =>
      exact trivial
  | cons o rest ih =>
      rcases hC with ⟨hCs, hrest⟩
      exact ⟨hP s o hs hCs, ih (hstep s o hs hCs) hrest⟩

theorem everyStep_of_forall {step : state -> op -> state} {P : state -> op -> Prop}
    (hP : forall s o, P s o) (s : state) (ops : List op) : EveryStep step P s ops := by
  induction ops generalizing s with
  | nil =>
      exact trivial
  | cons o rest ih =>
      exact ⟨hP s o, ih (step s o)⟩

theorem everyStep_of_mem {step : state -> op -> state} {P : op -> Prop} (s : state)
    {ops : List op} (hP : forall o, o ∈ ops -> P o) : EveryStep step (fun _ o => P o) s ops := by
  induction ops generalizing s with
  | nil =>
      exact trivial
  | cons o rest ih =>
      exact ⟨hP o List.mem_cons_self, ih (step s o) fun o ho => hP o (List.mem_cons_of_mem _ ho)⟩

theorem EveryStep.and {step : state -> op -> state} {P Q : state -> op -> Prop} {s : state}
    {ops : List op} (hP : EveryStep step P s ops) (hQ : EveryStep step Q s ops) :
    EveryStep step (fun s o => P s o ∧ Q s o) s ops := by
  induction ops generalizing s with
  | nil =>
      exact trivial
  | cons o rest ih =>
      exact ⟨⟨hP.1, hQ.1⟩, ih hP.2 hQ.2⟩

theorem everyStep_append {step : state -> op -> state} {P : state -> op -> Prop}
    {s : state} {front back : List op} :
    EveryStep step P s (front ++ back) ↔
      EveryStep step P s front ∧ EveryStep step P (runFrom step s front) back := by
  induction front generalizing s with
  | nil =>
      simp [EveryStep, runFrom]
  | cons o rest ih =>
      simp only [List.cons_append, EveryStep, runFrom_cons, ih, and_assoc]

theorem EveryStep.at_split {step : state -> op -> state} {P : state -> op -> Prop}
    {s : state} {front : List op} {o : op} {back : List op}
    (h : EveryStep step P s (front ++ o :: back)) : P (runFrom step s front) o :=
  (everyStep_append.mp h).2.1

/-- A property that no step regains holds after a run exactly when each step met
the condition under which it keeps the property. -/
theorem runFrom_iff_everyStep {step : state -> op -> state} (Inv Good : state -> Prop)
    {C : state -> op -> Prop} (hinv : forall s o, Inv s -> Inv (step s o))
    (hiff : forall s o, Inv s -> Good s -> (Good (step s o) ↔ C s o))
    (hlost : forall s o, Inv s -> Good (step s o) -> Good s) {s : state} (hs : Inv s)
    (hgood : Good s) (ops : List op) :
    Good (runFrom step s ops) ↔ EveryStep step C s ops := by
  have hback : forall (rest : List op) (s : state), Inv s -> Good (runFrom step s rest) ->
      Good s := by
    intro rest
    induction rest with
    | nil =>
        exact fun s _ h => h
    | cons o rest ih =>
        exact fun s hs h => hlost s o hs (ih (step s o) (hinv s o hs) h)
  induction ops generalizing s with
  | nil =>
      exact iff_of_true hgood trivial
  | cons o rest ih =>
      rw [runFrom_cons, EveryStep]
      constructor
      · intro h
        have hnext := hback rest _ (hinv s o hs) h
        exact ⟨(hiff s o hs hgood).mp hnext, (ih (hinv s o hs) hnext).mp h⟩
      · rintro ⟨hC, hrest⟩
        exact (ih (hinv s o hs) ((hiff s o hs hgood).mpr hC)).mpr hrest

theorem everyStep_iff {step : state -> op -> state} (Good : state -> Prop)
    {P C : state -> op -> Prop} (hiff : forall s o, Good s -> (P s o ↔ C s o))
    (hnext : forall s o, Good s -> P s o -> Good (step s o)) {s : state} (hs : Good s)
    (ops : List op) : EveryStep step P s ops ↔ EveryStep step C s ops := by
  induction ops generalizing s with
  | nil =>
      exact Iff.rfl
  | cons o rest ih =>
      rw [EveryStep, EveryStep, hiff s o hs]
      refine and_congr_right fun hC => ?_
      exact ih (hnext s o hs ((hiff s o hs).mpr hC))

/-!
# Two runs side by side
-/

theorem runFrom_related {step step' : state -> op -> state} (Rel : state -> state -> Prop)
    {C : state -> op -> Prop}
    (hstep : forall s t o, Rel s t -> C s o -> Rel (step s o) (step' t o))
    {s t : state} (hst : Rel s t) {ops : List op} (hC : EveryStep step C s ops) :
    Rel (runFrom step s ops) (runFrom step' t ops) := by
  induction ops generalizing s t with
  | nil =>
      exact hst
  | cons o rest ih =>
      exact ih (hstep s t o hst hC.1) hC.2

def outputsFrom (step : state -> op -> state) (out : state -> op -> output) :
    state -> List op -> List output
  | _, [] => []
  | s, o :: rest => out s o :: outputsFrom step out (step s o) rest

theorem outputsFrom_eq {step : state -> op -> state} {out : state -> op -> output}
    (Rel : state -> state -> Prop) {ops : List op}
    (hstep : forall s t o, Rel s t -> o ∈ ops ->
      out t o = out s o ∧ Rel (step s o) (step t o))
    {s t : state} (hst : Rel s t) :
    outputsFrom step out t ops = outputsFrom step out s ops := by
  induction ops generalizing s t with
  | nil =>
      rfl
  | cons o rest ih =>
      rcases hstep s t o hst List.mem_cons_self with ⟨hout, hnext⟩
      rw [outputsFrom, outputsFrom, hout,
        ih (fun s t o h ho => hstep s t o h (List.mem_cons_of_mem _ ho)) hnext]

end Foundation
end Shamarx
