import Shamarx.Foundation.InFlight
import Mathlib.Data.List.Nodup

/-!
# Credentials for one use

A credential is live until something withdraws it.  A call takes a live credential, and
later uses it; the withdrawal comes before the use, with it, or after it, and then the
call that has used the credential is still closing it.
-/

namespace Shamarx
namespace Foundation

variable {key : Type} {live live' : key -> Prop} {held closing : InFlight key}
  {used : List key} {call : Nat} {k : key}

def InFlight.Lacks (calls : InFlight key) (k : key) : Prop :=
  calls.Forall fun _ k' => k' ≠ k

/-- Each credential is with one call at most before its use, and is live after its use
only while it is being closed. -/
structure SingleUse (live : key -> Prop) (held closing : InFlight key) (used : List key) :
    Prop where
  alone : held.Distinct id
  unused : held.Forall fun _ k => k ∉ used
  guarded : forall k, k ∈ used -> live k -> ¬ closing.Lacks k
  once : used.Nodup

namespace SingleUse

theorem start (live : key -> Prop) : SingleUse live InFlight.empty InFlight.empty [] where
  alone := InFlight.distinct_empty id
  unused := InFlight.forall_empty _
  guarded := fun _ hmem => absurd hmem List.not_mem_nil
  once := List.nodup_nil

theorem renew (h : SingleUse live held closing used)
    (hlive : forall k, k ∈ used -> live' k -> live k) : SingleUse live' held closing used :=
  { h with guarded := fun k hk hnow => h.guarded k hk (hlive k hk hnow) }

theorem not_used (h : SingleUse live held closing used) (hlive : live k)
    (hclosing : closing.Lacks k) : k ∉ used :=
  fun hk => h.guarded k hk hlive hclosing

theorem take (h : SingleUse live held closing used) (hlive : live k) (hheld : held.Lacks k)
    (hclosing : closing.Lacks k) : SingleUse live (held.put call k) closing used where
  alone := h.alone.put fun other q _ hq => hheld other q hq
  unused := h.unused.put (h.not_used hlive hclosing)
  guarded := h.guarded
  once := h.once

theorem release (h : SingleUse live held closing used) (call : Nat) :
    SingleUse live (held.drop call) closing used where
  alone := h.alone.drop call
  unused := h.unused.drop call
  guarded := h.guarded
  once := h.once

theorem use_record (h : SingleUse live held closing used) (hheld : held call = some k) :
    (held.drop call).Forall (fun _ k' => k' ∉ used ++ [k]) ∧ (used ++ [k]).Nodup := by
  constructor
  · intro other k' hother hmem
    rcases InFlight.drop_cases hother with ⟨hne, hold⟩
    rcases List.mem_append.mp hmem with hused | hsame
    · exact h.unused other k' hold hused
    · exact hne (h.alone other k' call k hold hheld (List.mem_singleton.mp hsame))
  · rw [<- List.concat_eq_append]
    exact h.once.concat (h.unused call k hheld)

theorem useUp (h : SingleUse live held closing used) (hheld : held call = some k)
    (hlive : forall k', k' ∈ used -> live' k' -> live k') (hdead : ¬ live' k) :
    SingleUse live' (held.drop call) closing (used ++ [k]) where
  alone := h.alone.drop call
  unused := (h.use_record hheld).1
  guarded := by
    intro k' hmem hnow
    rcases List.mem_append.mp hmem with hused | hsame
    · exact h.guarded k' hused (hlive k' hused hnow)
    · rw [List.mem_singleton.mp hsame] at hnow
      exact absurd hnow hdead
  once := (h.use_record hheld).2

theorem serve (h : SingleUse live held closing used) (hk : live k) (hheld : held.Lacks k)
    (hclosing : closing.Lacks k) (hlive : forall k', k' ∈ used -> live' k' -> live k')
    (hdead : ¬ live' k) : SingleUse live' held closing (used ++ [k]) where
  alone := h.alone
  unused := by
    intro other q hq hmem
    rcases List.mem_append.mp hmem with hused | hsame
    · exact h.unused other q hq hused
    · exact hheld other q hq (List.mem_singleton.mp hsame)
  guarded := by
    intro k' hmem hnow
    rcases List.mem_append.mp hmem with hused | hsame
    · exact h.guarded k' hused (hlive k' hused hnow)
    · rw [List.mem_singleton.mp hsame] at hnow
      exact absurd hnow hdead
  once := by
    rw [<- List.concat_eq_append]
    exact h.once.concat (h.not_used hk hclosing)

theorem useOpen (h : SingleUse live held closing used) (hheld : held call = some k)
    (hnew : closing call = none) :
    SingleUse live (held.drop call) (closing.put call k) (used ++ [k]) where
  alone := h.alone.drop call
  unused := (h.use_record hheld).1
  guarded := by
    intro k' hmem hnow hlacks
    rcases List.mem_append.mp hmem with hused | hsame
    · apply h.guarded k' hused hnow
      intro other q hq
      apply hlacks other q
      rw [InFlight.put_of_ne]
      · exact hq
      · rintro rfl
        rw [hnew] at hq
        cases hq
    · exact hlacks call k (InFlight.put_self closing call k) (List.mem_singleton.mp hsame).symm
  once := (h.use_record hheld).2

theorem close (h : SingleUse live held closing used) (hclosing : closing call = some k)
    (hlive : forall k', k' ∈ used -> live' k' -> live k') (hdead : ¬ live' k) :
    SingleUse live' held (closing.drop call) used where
  alone := h.alone
  unused := h.unused
  guarded := by
    intro k' hmem hnow hlacks
    apply h.guarded k' hmem (hlive k' hmem hnow)
    intro other q hq
    by_cases heq : other = call
    · rw [heq, hclosing] at hq
      rintro rfl
      rw [Option.some.inj hq] at hdead
      exact hdead hnow
    · exact hlacks other q ((InFlight.drop_of_ne closing heq).trans hq)
  once := h.once

end SingleUse

/-!
# Credentials that are drawn

A credential becomes live when it is drawn, and nothing is drawn twice.
-/

structure OneTime (live : key -> Prop) (held closing : InFlight key) (used drawn : List key) :
    Prop where
  single : SingleUse live held closing used
  liveDrawn : forall k, live k -> k ∈ drawn
  heldDrawn : held.Forall fun _ k => k ∈ drawn
  usedDrawn : forall k, k ∈ used -> k ∈ drawn

namespace OneTime

variable {drawn : List key}

theorem start (hlive : forall k, ¬ live k) :
    OneTime live InFlight.empty InFlight.empty [] [] where
  single := SingleUse.start live
  liveDrawn := fun k h => absurd h (hlive k)
  heldDrawn := InFlight.forall_empty _
  usedDrawn := fun _ hk => hk

theorem draw (h : OneTime live held closing used drawn) (hnew : k ∉ drawn)
    (hlive : forall k', live' k' -> k' = k ∨ live k') :
    OneTime live' held closing used (drawn ++ [k]) where
  single := by
    apply h.single.renew
    intro k' hused hnow
    rcases hlive k' hnow with rfl | hbefore
    · exact absurd (h.usedDrawn k' hused) hnew
    · exact hbefore
  liveDrawn := by
    intro k' hnow
    rcases hlive k' hnow with rfl | hbefore
    · exact List.mem_append_right _ List.mem_cons_self
    · exact List.mem_append_left _ (h.liveDrawn k' hbefore)
  heldDrawn := h.heldDrawn.imp fun _ _ hk => List.mem_append_left _ hk
  usedDrawn := fun k' hk => List.mem_append_left _ (h.usedDrawn k' hk)

theorem withdraw (h : OneTime live held closing used drawn)
    (hlive : forall k', live' k' -> live k') : OneTime live' held closing used drawn where
  single := h.single.renew fun k' _ hnow => hlive k' hnow
  liveDrawn := fun k' hnow => h.liveDrawn k' (hlive k' hnow)
  heldDrawn := h.heldDrawn
  usedDrawn := h.usedDrawn

theorem take (h : OneTime live held closing used drawn) (hlive : live k) (hheld : held.Lacks k)
    (hclosing : closing.Lacks k) : OneTime live (held.put call k) closing used drawn where
  single := h.single.take hlive hheld hclosing
  liveDrawn := h.liveDrawn
  heldDrawn := h.heldDrawn.put (h.liveDrawn k hlive)
  usedDrawn := h.usedDrawn

theorem release (h : OneTime live held closing used drawn) (call : Nat) :
    OneTime live (held.drop call) closing used drawn where
  single := h.single.release call
  liveDrawn := h.liveDrawn
  heldDrawn := h.heldDrawn.drop call
  usedDrawn := h.usedDrawn

theorem usedDrawn_append (h : OneTime live held closing used drawn)
    (hheld : held call = some k) : forall k', k' ∈ used ++ [k] -> k' ∈ drawn := by
  intro k' hk
  rcases List.mem_append.mp hk with hold | hnew
  · exact h.usedDrawn k' hold
  · rw [List.mem_singleton.mp hnew]
    exact h.heldDrawn call k hheld

theorem useUp (h : OneTime live held closing used drawn) (hheld : held call = some k)
    (hdead : ¬ live k) : OneTime live (held.drop call) closing (used ++ [k]) drawn where
  single := h.single.useUp hheld (fun _ _ hnow => hnow) hdead
  liveDrawn := h.liveDrawn
  heldDrawn := h.heldDrawn.drop call
  usedDrawn := h.usedDrawn_append hheld

theorem useOpen (h : OneTime live held closing used drawn) (hheld : held call = some k)
    (hnew : closing call = none) :
    OneTime live (held.drop call) (closing.put call k) (used ++ [k]) drawn where
  single := h.single.useOpen hheld hnew
  liveDrawn := h.liveDrawn
  heldDrawn := h.heldDrawn.drop call
  usedDrawn := h.usedDrawn_append hheld

theorem close (h : OneTime live held closing used drawn) (hclosing : closing call = some k)
    (hdead : ¬ live k) : OneTime live held (closing.drop call) used drawn where
  single := h.single.close hclosing (fun _ _ hnow => hnow) hdead
  liveDrawn := h.liveDrawn
  heldDrawn := h.heldDrawn
  usedDrawn := h.usedDrawn

end OneTime
end Foundation
end Shamarx
