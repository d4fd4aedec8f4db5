import Shamarx.Bridge.FileBridge
import Mathlib.Data.List.Nodup

/-!
# One execution for each request

The expert remembers only the id it read last, and only until it is restarted; the worker
takes a response for complete as soon as it starts with the id of its request.
-/

namespace Shamarx
namespace Bridge

open Foundation

/-!
# At most once, and correctly correlated
-/

def FileBridge.ids (b : FileBridge) : List (List Char) :=
  b.executed.map Execution.id

def Once (b : FileBridge) : Prop :=
  b.ids.Nodup

/-- A call that returned or raised read the complete line of the response to its own
request. -/
def FromOwnLine (b : FileBridge) : Prop :=
  forall e, e ∈ b.ended -> exists x, x ∈ b.executed ∧ x.id = e.request.rid.text ∧
    e.raw = Text.strip isSpace x.line

/-- The request in the file has not been executed. -/
def Unexecuted (b : FileBridge) : Prop :=
  match b.request with
  | some content => requestId content ∉ b.ids
  | none => True

/-- What a call reads, once it starts with the call's own id, is the complete line. -/
def ReadsComplete (b : FileBridge) (n : Nat) : Prop :=
  match b.active, b.response with
  | some (.polling r), some file =>
      FileBridge.Own r (Text.strip isSpace (file.shown n)) ->
        Text.strip isSpace (file.shown n) = Text.strip isSpace file.line
  | _, _ => True

/-- The expert is not restarted while an executed request is in the file, and no call
takes a part of its response for the whole. -/
def Undisturbed (b : FileBridge) : BridgeOp -> Prop
  | .restart => Unexecuted b
  | .polls n => ReadsComplete b n
  | _ => True

instance (b : FileBridge) : Decidable (Once b) :=
  inferInstanceAs (Decidable b.ids.Nodup)

instance (b : FileBridge) : Decidable (FromOwnLine b) :=
  inferInstanceAs (Decidable (forall e, e ∈ b.ended -> _))

instance (b : FileBridge) : Decidable (Unexecuted b) := by
  unfold Unexecuted
  split <;> infer_instance

instance (b : FileBridge) (n : Nat) : Decidable (ReadsComplete b n) := by
  unfold ReadsComplete
  split <;> infer_instance

instance (b : FileBridge) (op : BridgeOp) : Decidable (Undisturbed b op) := by
  unfold Undisturbed
  split <;> infer_instance

/-!
# The ids
-/

section Ids

theorem hexDigits_plain :
    forall c, c ∈ hexDigits -> c ≠ '|' ∧ isSpace c = false ∧ c ≠ '\n' ∧ c ≠ '\x00' ∧
      c ≠ '\r' := by
  decide

theorem bar_not_mem (rid : RequestId) : '|' ∉ rid.text :=
  fun h => (hexDigits_plain _ (rid.hex _ h)).1 rfl

theorem rid_ext {a b : RequestId} (h : a.text = b.text) : a = b := by
  cases a
  cases b
  cases h
  rfl

theorem text_ne_nil (rid : RequestId) : rid.text ≠ [] := by
  intro h
  have hlength := rid.length
  rw [h] at hlength
  cases hlength

theorem writeText_plain {s : List Char} (h : '\n' ∉ s) : writeText s = s := by
  induction s with
  | nil => rfl
  | cons c rest ih =>
      rw [List.mem_cons, not_or] at h
      rw [writeText, List.flatMap_cons, if_neg (fun heq => h.1 heq.symm)]
      exact congrArg (List.cons c) (ih h.2)

theorem writeText_append (front back : List Char) :
    writeText (front ++ back) = writeText front ++ writeText back :=
  List.flatMap_append

theorem readString_append {front : List Char} (back : List Char)
    (h : forall c, c ∈ front -> c ≠ '\x00' ∧ c ≠ '\r') :
    readString (front ++ back) = front ++ readString back := by
  induction front with
  | nil => rfl
  | cons c rest ih =>
      rcases h c List.mem_cons_self with ⟨hzero, hreturn⟩
      have hgoes : ¬ (c = '\x00' ∨ c = '\r' ∧ (rest ++ back).head? = some '\n') :=
        not_or.mpr ⟨hzero, fun hline => hreturn hline.1⟩
      rw [List.cons_append, readString, if_neg hgoes,
        ih fun d hd => h d (List.mem_cons_of_mem _ hd), List.cons_append]

theorem requestLine_content (r : Request) :
    exists args, requestLine r.content = r.rid.text ++ '|' :: args := by
  have hfields : r.line =
      (r.rid.text ++ ['|']) ++ (['|'].intercalate (r.op :: r.args) ++ ['\n']) := by
    simp only [Request.line, List.intercalate_cons_cons, List.append_assoc]
  have hplain : forall c, c ∈ r.rid.text ++ ['|'] -> c ≠ '\n' ∧ c ≠ '\x00' ∧ c ≠ '\r' := by
    intro c hc
    rcases List.mem_append.mp hc with hid | hbar
    · exact (hexDigits_plain c (r.rid.hex c hid)).2.2
    · rw [List.mem_singleton.mp hbar]
      decide
  rw [requestLine, Request.content, hfields, writeText_append,
    writeText_plain fun hmem => (hplain _ hmem).1 rfl,
    readString_append _ fun c hc => (hplain c hc).2, List.append_assoc, List.singleton_append,
    Text.trimRight_append_cons _ _ (by decide)]
  exact ⟨_, rfl⟩

theorem requestId_content (r : Request) : requestId r.content = r.rid.text := by
  rcases requestLine_content r with ⟨args, hline⟩
  rw [requestId, hline, Text.partition_field (bar_not_mem r.rid)]

theorem bar_mem_line (r : Request) : '|' ∈ requestLine r.content := by
  rcases requestLine_content r with ⟨args, hline⟩
  rw [hline]
  exact List.mem_append_right _ List.mem_cons_self

theorem own_id {r : Request} {rid : RequestId} {x : Execution} (hid : x.id = rid.text)
    {file : ResponseFile} (hline : file.line = x.line) {n : Nat}
    (hown : FileBridge.Own r (Text.strip isSpace (file.shown n))) : x.id = r.rid.text := by
  have hx : x.line = rid.text ++ '|' :: x.reply.text := by rw [Execution.line, hid]
  have hshown : file.shown n <+: x.line := by
    rw [<- hline, ResponseFile.shown]
    split_ifs
    · exact List.prefix_rfl
    · exact List.take_prefix n file.line
  have hhead : forall c, (file.shown n).head? = some c -> isSpace c = false := by
    intro c hc
    rcases List.exists_cons_of_ne_nil (text_ne_nil rid) with ⟨d, rest, htext⟩
    rw [hx, htext] at hshown
    cases hfile : file.shown n with
    | nil =>
        rw [hfile] at hc
        cases hc
    | cons e more =>
        rw [hfile] at hc hshown
        cases hc
        rw [(List.cons_prefix_cons.mp hshown).1]
        exact (hexDigits_plain d (rid.hex d (htext ▸ List.mem_cons_self))).2.1
  have hprefix : r.rid.text <+: x.line :=
    ((List.prefix_append _ _).trans hown).trans ((Text.strip_prefix hhead).trans hshown)
  have hxid : rid.text <+: x.line := by
    rw [hx]
    exact List.prefix_append _ _
  have hlength : r.rid.text.length = rid.text.length := by rw [r.rid.length, rid.length]
  rw [hid]
  exact ((List.prefix_of_prefix_length_le hprefix hxid (Nat.le_of_eq hlength)).eq_of_length
    hlength).symm

end Ids

/-!
# What holds in every run
-/

section Known

variable {b : FileBridge}

def Issued (used : List RequestId) (id : List Char) : Prop :=
  exists rid, rid ∈ used ∧ id = rid.text

def Produced (executed : List Execution) (line : List Char) : Prop :=
  exists x, x ∈ executed ∧ line = x.line

/-- The id has not been read by the expert, nor is it in the request file. -/
structure Unsent (executed : List Execution) (lastId : List Char)
    (request : Option (List Char)) (id : List Char) : Prop where
  unexecuted : id ∉ executed.map Execution.id
  unread : id ≠ lastId
  unwritten : forall content, request = some content -> requestId content ≠ id

def ExpertOk (used : List RequestId) (executed : List Execution) (lastId : List Char) :
    Expert -> Prop
  | .idle => True
  | .handling line => (Text.partition '|' line).1 = lastId ∧ Issued used lastId
  | .sending line => Produced executed line
  | .opening line => Produced executed line
  | .writing => True

structure FileBridge.Known (b : FileBridge) : Prop where
  executed : forall x, x ∈ b.executed -> Issued b.used x.id
  request : forall content, b.request = some content ->
    exists r : Request, content = r.content ∧ r.rid ∈ b.used
  lastId : b.lastId = [] ∨ Issued b.used b.lastId
  starting : forall r, b.active = some (.starting r) ->
    r.rid ∈ b.used ∧ Unsent b.executed b.lastId b.request r.rid.text
  expert : ExpertOk b.used b.executed b.lastId b.expert
  response : forall file, b.response = some file -> Produced b.executed file.line

theorem known_empty : FileBridge.empty.Known := by
  refine ⟨?_, ?_, Or.inl rfl, ?_, trivial, ?_⟩
  · intro x hx
    cases hx
  · intro content h
    cases h
  · intro r h
    cases h
  · intro file h
    cases h

theorem unsent_of_unused (h : b.Known) {rid : RequestId} (hrid : rid ∉ b.used) :
    Unsent b.executed b.lastId b.request rid.text := by
  have hissued : ¬ Issued b.used rid.text := by
    rintro ⟨other, hother, htext⟩
    rw [rid_ext htext] at hrid
    exact hrid hother
  refine ⟨?_, ?_, ?_⟩
  · intro hmem
    rcases List.mem_map.mp hmem with ⟨x, hx, hid⟩
    exact hissued (hid ▸ h.executed x hx)
  · intro heq
    rcases h.lastId with hnil | hlast
    · exact text_ne_nil rid (heq.trans hnil)
    · exact hissued (heq ▸ hlast)
  · intro content hcontent heq
    rcases h.request content hcontent with ⟨r, rfl, hr⟩
    exact hissued ⟨r.rid, hr, by rw [<- heq, requestId_content]⟩

theorem call_known (h : b.Known) (r : Request) : (b.call r).Known := by
  unfold FileBridge.call
  split
  · exact h
  · next hnone =>
      split_ifs with hused
      · exact h
      · have hissued : forall id, Issued b.used id -> Issued (b.used ++ [r.rid]) id :=
          fun id ⟨rid, hrid, hid⟩ => ⟨rid, List.mem_append_left _ hrid, hid⟩
        refine ⟨fun x hx => hissued _ (h.executed x hx), ?_, ?_, ?_, ?_, ?_⟩
        · intro content hcontent
          rcases h.request content hcontent with ⟨r', hline, hr'⟩
          exact ⟨r', hline, List.mem_append_left _ hr'⟩
        · exact h.lastId.imp_right fun hlast => hissued _ hlast
        · intro r' hr'
          cases hr'
          exact ⟨List.mem_append_right _ List.mem_cons_self, unsent_of_unused h hused⟩
        · have hexpert := h.expert
          cases hphase : b.expert with
          | idle => trivial
          | handling line =>
              rw [hphase] at hexpert
              exact ⟨hexpert.1, hissued _ hexpert.2⟩
          | sending line =>
              rw [hphase] at hexpert
              exact hexpert
          | opening line =>
              rw [hphase] at hexpert
              exact hexpert
          | writing => trivial
        · intro file hfile
          cases hfile

theorem sends_known (h : b.Known) (ok : Bool) : (b.sends ok).Known := by
  unfold FileBridge.sends
  split
  · next r hactive =>
      split_ifs
      · refine ⟨h.executed, ?_, h.lastId, ?_, h.expert, h.response⟩
        · intro content hcontent
          cases hcontent
          exact ⟨r, rfl, (h.starting r hactive).1⟩
        · intro r' hr'
          cases hr'
      · exact ⟨h.executed, h.request, h.lastId, fun r' hr' => (by cases hr'), h.expert, h.response⟩
  · exact h

theorem polls_known (h : b.Known) (n : Nat) : (b.polls n).Known := by
  unfold FileBridge.polls
  split
  · split_ifs
    · exact ⟨h.executed, h.request, h.lastId, fun r' hr' => (by cases hr'), h.expert, h.response⟩
    · exact h
  · exact h

theorem timesOut_known (h : b.Known) : b.timesOut.Known := by
  unfold FileBridge.timesOut
  split
  · exact ⟨h.executed, h.request, h.lastId, fun r' hr' => (by cases hr'), h.expert, h.response⟩
  · exact h

theorem tick_known (h : b.Known) : b.tick.Known := by
  unfold FileBridge.tick
  split
  · next content hidle hrequest =>
      split_ifs with hempty hlast
      · exact h
      · exact h
      · rcases h.request content hrequest with ⟨r, hline, hr⟩
        have hissued : Issued b.used (requestId content) :=
          ⟨r.rid, hr, by rw [hline, requestId_content]⟩
        refine ⟨h.executed, h.request, Or.inr hissued, ?_, ⟨rfl, hissued⟩, h.response⟩
        intro r' hr'
        rcases h.starting r' hr' with ⟨hused, hunsent⟩
        exact ⟨hused, hunsent.unexecuted, (hunsent.unwritten content hrequest).symm,
          hunsent.unwritten⟩
  · exact h

theorem handles_known (h : b.Known) (reply : Reply) : (b.handles reply).Known := by
  unfold FileBridge.handles
  split
  · next line hphase =>
      have hexpert := h.expert
      rw [hphase] at hexpert
      refine ⟨?_, h.request, h.lastId, ?_, ?_, ?_⟩
      · intro x hx
        rcases List.mem_append.mp hx with hold | hnew
        · exact h.executed x hold
        · rw [List.mem_singleton.mp hnew]
          show Issued b.used (Text.partition '|' line).1
          rw [hexpert.1]
          exact hexpert.2
      · intro r hr
        rcases h.starting r hr with ⟨hused, hunsent⟩
        refine ⟨hused, ?_, hunsent.unread, hunsent.unwritten⟩
        simp only [List.map_append, List.mem_append, List.map_cons, List.map_nil,
          List.mem_singleton, not_or]
        exact ⟨hunsent.unexecuted, fun heq => hunsent.unread (heq.trans hexpert.1)⟩
      · exact ⟨_, List.mem_append_right _ List.mem_cons_self, rfl⟩
      · intro file hfile
        rcases h.response file hfile with ⟨x, hx, hline⟩
        exact ⟨x, List.mem_append_left _ hx, hline⟩
  · exact h

theorem deletes_known (h : b.Known) (ok : Bool) : (b.deletes ok).Known := by
  unfold FileBridge.deletes
  split
  · next line hphase =>
      have hexpert := h.expert
      rw [hphase] at hexpert
      refine ⟨h.executed, h.request, h.lastId, h.starting, hexpert, ?_⟩
      intro file hfile
      split_ifs at hfile
      exact h.response file hfile
  · exact h

theorem opens_known (h : b.Known) (ok : Bool) : (b.opens ok).Known := by
  unfold FileBridge.opens
  split
  · next line hphase =>
      have hexpert := h.expert
      rw [hphase] at hexpert
      split_ifs
      · refine ⟨h.executed, h.request, h.lastId, h.starting, trivial, ?_⟩
        intro file hfile
        cases hfile
        exact hexpert
      · exact ⟨h.executed, h.request, h.lastId, h.starting, trivial, h.response⟩
  · exact h

theorem closes_known (h : b.Known) : b.closes.Known := by
  unfold FileBridge.closes
  split
  · refine ⟨h.executed, h.request, h.lastId, h.starting, trivial, ?_⟩
    intro file hfile
    rcases Option.map_eq_some_iff.mp hfile with ⟨old, hold, rfl⟩
    exact h.response old hold
  · exact h

theorem restart_known (h : b.Known) : b.restart.Known := by
  refine ⟨h.executed, h.request, Or.inl rfl, ?_, trivial, h.response⟩
  intro r hr
  rcases h.starting r hr with ⟨hused, hunsent⟩
  exact ⟨hused, hunsent.unexecuted, text_ne_nil r.rid, hunsent.unwritten⟩

theorem bridgeStep_known (h : b.Known) (op : BridgeOp) : (bridgeStep b op).Known := by
  cases op with
  | call r => exact call_known h r
  | sends ok => exact sends_known h ok
  | polls n => exact polls_known h n
  | timesOut => exact timesOut_known h
  | tick => exact tick_known h
  | handles reply => exact handles_known h reply
  | deletes ok => exact deletes_known h ok
  | opens ok => exact opens_known h ok
  | closes => exact closes_known h
  | restart => exact restart_known h

end Known

/-!
# What holds while the bridge is undisturbed
-/

section Fresh

variable {b : FileBridge}

/-- The request that the expert handles or will read next has not been executed. -/
structure FileBridge.Fresh (b : FileBridge) : Prop where
  once : Once b
  handling : forall line, b.expert = .handling line -> b.lastId ∉ b.ids
  request : forall content, b.request = some content -> requestId content ≠ b.lastId ->
    requestId content ∉ b.ids

theorem fresh_empty : FileBridge.empty.Fresh :=
  ⟨List.nodup_nil, fun line h => (by cases h), fun content h => (by cases h)⟩

theorem sends_fresh (hknown : b.Known) (h : b.Fresh) (ok : Bool) : (b.sends ok).Fresh := by
  unfold FileBridge.sends
  split
  · next r hactive =>
      split_ifs
      · refine ⟨h.once, h.handling, ?_⟩
        intro content hcontent _
        cases hcontent
        rw [requestId_content]
        exact (hknown.starting r hactive).2.unexecuted
      · exact ⟨h.once, h.handling, h.request⟩
  · exact h

theorem tick_fresh (h : b.Fresh) : b.tick.Fresh := by
  unfold FileBridge.tick
  split
  · next content hidle hrequest =>
      split_ifs with hempty hlast
      · exact h
      · exact h
      · refine ⟨h.once, fun _ _ => h.request content hrequest hlast, ?_⟩
        intro content' hcontent' hne
        rw [hrequest] at hcontent'
        cases hcontent'
        exact absurd rfl hne
  · exact h

theorem handles_fresh (hknown : b.Known) (h : b.Fresh) (reply : Reply) :
    (b.handles reply).Fresh := by
  unfold FileBridge.handles
  split
  · next line hphase =>
      have hexpert := hknown.expert
      rw [hphase] at hexpert
      have hid : (Text.partition '|' line).1 ∉ b.ids := by
        rw [hexpert.1]
        exact h.handling line hphase
      refine ⟨?_, fun _ hnext => (by cases hnext), ?_⟩
      · simp only [Once, FileBridge.ids, List.map_append, List.map_cons, List.map_nil]
        rw [<- List.concat_eq_append, List.nodup_concat]
        exact ⟨hid, h.once⟩
      · intro content hcontent hne
        simp only [FileBridge.ids, List.map_append, List.mem_append, List.map_cons, List.map_nil,
          List.mem_singleton, not_or, hexpert.1]
        exact ⟨h.request content hcontent hne, hne⟩
  · exact h

theorem restart_fresh (h : b.Fresh) (hop : Unexecuted b) : b.restart.Fresh := by
  refine ⟨h.once, fun line hline => (by cases hline), ?_⟩
  intro content hcontent _
  have hrequest : b.request = some content := hcontent
  rw [Unexecuted, hrequest] at hop
  exact hop

theorem bridgeStep_fresh (hknown : b.Known) (h : b.Fresh) {op : BridgeOp}
    (hop : Undisturbed b op) : (bridgeStep b op).Fresh := by
  cases op with
  | call r =>
      simp only [bridgeStep, FileBridge.call]
      split
      · exact h
      · split_ifs
        · exact h
        · exact ⟨h.once, h.handling, h.request⟩
  | sends ok => exact sends_fresh hknown h ok
  | polls n =>
      simp only [bridgeStep, FileBridge.polls]
      split
      · split_ifs
        · exact ⟨h.once, h.handling, h.request⟩
        · exact h
      · exact h
  | timesOut =>
      simp only [bridgeStep, FileBridge.timesOut]
      split
      · exact ⟨h.once, h.handling, h.request⟩
      · exact h
  | tick => exact tick_fresh h
  | handles reply => exact handles_fresh hknown h reply
  | deletes ok =>
      simp only [bridgeStep, FileBridge.deletes]
      split
      · exact ⟨h.once, fun line hline => (by cases hline), h.request⟩
      · exact h
  | opens ok =>
      simp only [bridgeStep, FileBridge.opens]
      split
      · split_ifs <;> exact ⟨h.once, fun line hline => (by cases hline), h.request⟩
      · exact h
  | closes =>
      simp only [bridgeStep, FileBridge.closes]
      split
      · exact ⟨h.once, fun line hline => (by cases hline), h.request⟩
      · exact h
  | restart => exact restart_fresh h hop

theorem polled_own (hknown : b.Known) {r : Request} {file : ResponseFile}
    (hfile : b.response = some file) {n : Nat}
    (hown : FileBridge.Own r (Text.strip isSpace (file.shown n))) :
    exists x, x ∈ b.executed ∧ x.id = r.rid.text ∧ file.line = x.line := by
  rcases hknown.response file hfile with ⟨x, hx, hline⟩
  rcases hknown.executed x hx with ⟨rid, -, hid⟩
  exact ⟨x, hx, own_id hid hline hown, hline⟩

theorem polls_fromOwnLine (hknown : b.Known) (h : FromOwnLine b) {n : Nat}
    (hop : ReadsComplete b n) : FromOwnLine (b.polls n) := by
  unfold FileBridge.polls
  split
  · next r file hactive hfile =>
      split_ifs with hown
      · intro e he
        rcases List.mem_append.mp he with hold | hnew
        · exact h e hold
        · rcases polled_own hknown hfile hown with ⟨x, hx, hid, hline⟩
          simp only [ReadsComplete, hactive, hfile] at hop
          rw [List.mem_singleton.mp hnew]
          exact ⟨x, hx, hid, by rw [<- hline]; exact hop hown⟩
      · exact h
  · exact h

theorem bridgeStep_fromOwnLine (hknown : b.Known) (h : FromOwnLine b) {op : BridgeOp}
    (hop : Undisturbed b op) : FromOwnLine (bridgeStep b op) := by
  cases op with
  | call r =>
      simp only [bridgeStep, FileBridge.call]
      split
      · exact h
      · split_ifs <;> exact h
  | sends ok =>
      simp only [bridgeStep, FileBridge.sends]
      split
      · split_ifs <;> exact h
      · exact h
  | polls n => exact polls_fromOwnLine hknown h hop
  | timesOut =>
      simp only [bridgeStep, FileBridge.timesOut]
      split <;> exact h
  | tick =>
      simp only [bridgeStep, FileBridge.tick]
      split
      · split_ifs <;> exact h
      · exact h
  | handles reply =>
      simp only [bridgeStep, FileBridge.handles]
      split
      · intro e he
        rcases h e he with ⟨x, hx, hread⟩
        exact ⟨x, List.mem_append_left _ hx, hread⟩
      · exact h
  | deletes ok =>
      simp only [bridgeStep, FileBridge.deletes]
      split <;> exact h
  | opens ok =>
      simp only [bridgeStep, FileBridge.opens]
      split
      · split_ifs <;> exact h
      · exact h
  | closes =>
      simp only [bridgeStep, FileBridge.closes]
      split <;> exact h
  | restart => exact h

end Fresh

/-!
# A disturbed bridge
-/

section Disturbed

variable {b : FileBridge}

theorem restart_executes_again (hknown : b.Known) (hdone : ¬ Unexecuted b) :
    exists more, ¬ Once (runFrom bridgeStep (bridgeStep b .restart) more) := by
  cases hrequest : b.request with
  | none =>
      rw [Unexecuted, hrequest] at hdone
      exact absurd trivial hdone
  | some content =>
      rw [Unexecuted, hrequest] at hdone
      rcases hknown.request content hrequest with ⟨r, rfl, -⟩
      have hne : requestId r.content ≠ [] := by
        rw [requestId_content]
        exact text_ne_nil r.rid
      have hnot : ¬ ('|' ∉ requestLine r.content ∨ requestId r.content = []) :=
        not_or.mpr ⟨not_not.mpr (bar_mem_line r), hne⟩
      refine ⟨[.tick, .handles (.ok [])], fun honce => ?_⟩
      have htick : (b.restart).tick =
          { b with
            lastId := requestId r.content
            expert := .handling (requestLine r.content) } := by
        simp only [FileBridge.tick, FileBridge.restart, hrequest, if_neg hnot, if_neg hne]
      have hrun : runFrom bridgeStep (bridgeStep b .restart) [.tick, .handles (.ok [])] =
          b.restart.tick.handles (.ok []) := rfl
      rw [hrun, htick] at honce
      simp only [FileBridge.handles, Once, FileBridge.ids, List.map_append, List.map_cons,
        List.map_nil] at honce
      rw [<- List.concat_eq_append, List.nodup_concat] at honce
      exact hdone honce.1

theorem part_is_read (hknown : b.Known) (honce : Once b) {n : Nat} (hpart : ¬ ReadsComplete b n) :
    ¬ FromOwnLine (b.polls n) := by
  intro hread
  unfold ReadsComplete at hpart
  unfold FileBridge.polls at hread
  split at hpart
  · next r file hactive hfile =>
      rcases Classical.not_imp.mp hpart with ⟨hown, hne⟩
      rw [hactive, hfile] at hread
      simp only [if_pos hown] at hread
      rcases hread _ (List.mem_append_right _ List.mem_cons_self) with ⟨x, hx, hid, hraw⟩
      rcases polled_own hknown hfile hown with ⟨y, hy, hidy, hline⟩
      have heq : x = y := List.inj_on_of_nodup_map honce hx hy (hid.trans hidy.symm)
      rw [heq, <- hline] at hraw
      exact hne hraw
  · exact absurd trivial hpart

end Disturbed

/-!
# The bridge
-/

theorem run_known (ops : List BridgeOp) : (runFrom bridgeStep .empty ops).Known :=
  runFrom_inv FileBridge.Known (fun _ op h => bridgeStep_known h op) known_empty ops

/-- In every run in which the expert is not restarted while an executed request is in the
file and no call takes a part of its response for the whole, each request is executed at
most once and each call that returns or raises does so from the complete line of its own
response.  After any other restart or read some continuation breaks one of the two. -/
theorem once_when_undisturbed (ops : List BridgeOp)
    (hops : EveryStep bridgeStep Undisturbed .empty ops) :
    (Once (runFrom bridgeStep .empty ops) ∧ FromOwnLine (runFrom bridgeStep .empty ops)) ∧
      (forall op, ¬ Undisturbed (runFrom bridgeStep .empty ops) op ->
        exists more, ¬ (Once (runFrom bridgeStep .empty (ops ++ op :: more)) ∧
          FromOwnLine (runFrom bridgeStep .empty (ops ++ op :: more)))) := by
  have hinv := EveryStep.run_inv (fun b => b.Known ∧ b.Fresh ∧ FromOwnLine b)
    (fun b op h hop => ⟨bridgeStep_known h.1 op, bridgeStep_fresh h.1 h.2.1 hop,
      bridgeStep_fromOwnLine h.1 h.2.2 hop⟩)
    ⟨known_empty, fresh_empty, fun e he => by cases he⟩ hops
  refine ⟨⟨hinv.2.1.once, hinv.2.2⟩, ?_⟩
  intro op hop
  cases op with
  | restart =>
      rcases restart_executes_again hinv.1 hop with ⟨more, hmore⟩
      refine ⟨more, fun h => hmore ?_⟩
      rw [runFrom_append] at h
      exact h.1
  | polls n =>
      refine ⟨[], fun h => part_is_read hinv.1 hinv.2.1.once hop ?_⟩
      rw [runFrom_append] at h
      exact h.2
  | call _ => exact absurd trivial hop
  | sends _ => exact absurd trivial hop
  | timesOut => exact absurd trivial hop
  | tick => exact absurd trivial hop
  | handles _ => exact absurd trivial hop
  | deletes _ => exact absurd trivial hop
  | opens _ => exact absurd trivial hop
  | closes => exact absurd trivial hop

def openRequest : Request :=
  { rid := { text := "0a1b2c3d".toList, hex := by decide, length := by decide }
    op := "order".toList
    args := ["EURUSD".toList, "BUY".toList, "0.1".toList] }

/-- The order is executed while the expert's answer is read once too early and once in
full; the expert is restarted once the next request is in the file. -/
theorem order_is_executed_once :
    let ops : List BridgeOp :=
      [.call openRequest, .sends true, .restart, .tick, .handles (.ok "12345|1.1".toList),
        .deletes true, .opens true, .polls 8, .closes, .polls 0]
    Once (runFrom bridgeStep .empty ops) ∧ FromOwnLine (runFrom bridgeStep .empty ops) :=
  (once_when_undisturbed _ (by decide +kernel)).1

/-- The expert is restarted after it has executed an order and executes it again; and a
call that reads the ticket before it is written in full returns a part of it. -/
theorem order_is_executed_twice :
    ¬ Once (runFrom bridgeStep .empty
      [.call openRequest, .sends true, .tick, .handles (.ok "12345|1.1".toList), .restart, .tick,
        .handles (.ok "12346|1.1".toList)]) ∧
    ¬ FromOwnLine (runFrom bridgeStep .empty
      [.call openRequest, .sends true, .tick, .handles (.ok "12345|1.1".toList), .deletes true,
        .opens true, .polls 14]) := by
  constructor <;> decide +kernel

end Bridge
end Shamarx
