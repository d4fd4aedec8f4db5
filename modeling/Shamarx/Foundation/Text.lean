import Mathlib.Data.List.DropRight

/-!
# Delimited text

Text is a list of characters.  A field ends at the first delimiter, and what a reader
strips are the spaces around it.
-/

namespace Shamarx
namespace Foundation
namespace Text

def partition (sep : Char) (s : List Char) : List Char × List Char :=
  (s.takeWhile (fun c => c ≠ sep), (s.dropWhile (fun c => c ≠ sep)).tail)

def trimRight (space : Char -> Bool) (s : List Char) : List Char :=
  s.rdropWhile space

def strip (space : Char -> Bool) (s : List Char) : List Char :=
  trimRight space (s.dropWhile space)

/-- The length that the strings of the source have: in UTF-16 code units. -/
def utf16Length (s : String) : Nat :=
  s.toList.foldl (fun n c => n + if c.toNat < 0x10000 then 1 else 2) 0

/-- What is asked of each character of a text is decided along the text, not over all
characters. -/
instance (priority := 2000) decidableForallMem (p : Char -> Prop) [DecidablePred p]
    (s : List Char) : Decidable (forall c, c ∈ s -> p c) :=
  List.decidableBAll p s

section Fields

variable {p : Char -> Bool} {sep : Char} {front back : List Char}

theorem takeWhile_run (hfront : forall c, c ∈ front -> p c = true)
    (hback : forall c, back.head? = some c -> p c = false) :
    (front ++ back).takeWhile p = front := by
  have hstop : back.takeWhile p = [] := by
    cases back with
    | nil => rfl
    | cons c rest =>
        apply List.takeWhile_cons_of_neg
        rw [hback c rfl]
        exact Bool.false_ne_true
  rw [List.takeWhile_append_of_pos hfront, hstop, List.append_nil]

theorem dropWhile_run (hfront : forall c, c ∈ front -> p c = true)
    (hback : forall c, back.head? = some c -> p c = false) :
    (front ++ back).dropWhile p = back := by
  have hstop : back.dropWhile p = back := by
    cases back with
    | nil => rfl
    | cons c rest =>
        apply List.dropWhile_cons_of_neg
        rw [hback c rfl]
        exact Bool.false_ne_true
  rw [List.dropWhile_append_of_pos hfront, hstop]

theorem partition_field (h : sep ∉ front) :
    partition sep (front ++ sep :: back) = (front, back) := by
  have hfront : forall c, c ∈ front -> decide (c ≠ sep) = true := by
    intro c hc
    exact decide_eq_true fun heq => h (heq ▸ hc)
  have hback : forall c, (sep :: back).head? = some c -> decide (c ≠ sep) = false := by
    intro c hc
    cases hc
    exact decide_eq_false fun hne => hne rfl
  rw [partition, takeWhile_run hfront hback, dropWhile_run hfront hback, List.tail_cons]

theorem partition_absent {s : List Char} (h : sep ∉ s) : partition sep s = (s, []) := by
  have hs : forall c, c ∈ s -> decide (c ≠ sep) = true := by
    intro c hc
    exact decide_eq_true fun heq => h (heq ▸ hc)
  rw [partition, List.takeWhile_eq_self_iff.mpr hs, List.dropWhile_eq_nil_iff.mpr hs,
    List.tail_nil]

theorem not_mem_partition (s : List Char) : sep ∉ (partition sep s).1 := by
  intro h
  have hne := List.mem_takeWhile_imp (p := fun c => decide (c ≠ sep)) h
  exact of_decide_eq_true hne rfl

theorem splitOn_head (sep : Char) (s : List Char) :
    exists more, s.splitOn sep = (partition sep s).1 :: more := by
  by_cases hmem : sep ∈ s
  · rcases List.eq_append_cons_of_mem hmem with ⟨front, back, rfl, hfront⟩
    rw [partition_field hfront, List.splitOn_append_cons_self_of_not_mem hfront]
    exact ⟨back.splitOn sep, rfl⟩
  · rw [partition_absent hmem, List.splitOn_eq_singleton hmem]
    exact ⟨[], rfl⟩

end Fields

section Joined

variable {sep : Char} {fields : List (List Char)}

/-- Each field ends with the delimiter. -/
def ended (sep : Char) (fields : List (List Char)) : List Char :=
  fields.flatMap fun field => field ++ [sep]

theorem ended_cons (sep : Char) (field : List Char) (fields : List (List Char)) :
    ended sep (field :: fields) = field ++ sep :: ended sep fields := by
  rw [ended, List.flatMap_cons, List.append_assoc]
  rfl

theorem ended_concat (sep : Char) (fields : List (List Char)) (last : List Char) :
    ended sep (fields ++ [last]) = ended sep fields ++ last ++ [sep] := by
  rw [ended, List.flatMap_append, List.flatMap_singleton, List.append_assoc]
  rfl

theorem intercalate_concat (fields : List (List Char)) (last : List Char) :
    [sep].intercalate (fields ++ [last]) = ended sep fields ++ last := by
  induction fields with
  | nil => exact List.intercalate_singleton
  | cons field rest ih =>
      rw [List.cons_append, List.intercalate_cons_of_ne_nil (by simp), ih, ended_cons,
        List.append_assoc, List.append_assoc, List.singleton_append, List.cons_append]

theorem ended_eq_intercalate (h : fields ≠ []) :
    ended sep fields = [sep].intercalate fields ++ [sep] := by
  rcases List.eq_nil_or_concat fields with rfl | ⟨front, last, rfl⟩
  · exact absurd rfl h
  · rw [List.concat_eq_append, intercalate_concat, ended_concat]

theorem intercalate_concat_pair (fields : List (List Char)) (field last : List Char) :
    [sep].intercalate (fields ++ [field, last]) =
      ended sep fields ++ field ++ sep :: last := by
  have hpair : fields ++ [field, last] = fields ++ [field] ++ [last] := by
    rw [List.append_assoc]
    rfl
  rw [hpair, intercalate_concat, ended_concat, List.append_assoc, List.singleton_append]

theorem mem_intercalate {c : Char} (h : c ∈ [sep].intercalate fields) :
    c = sep ∨ exists field, field ∈ fields ∧ c ∈ field := by
  induction fields with
  | nil => cases h
  | cons field rest ih =>
      have hrest : c ∈ [sep].intercalate rest -> c = sep ∨ exists f, f ∈ field :: rest ∧ c ∈ f :=
        fun hc => (ih hc).imp_right fun ⟨f, hf, hcf⟩ => ⟨f, List.mem_cons_of_mem _ hf, hcf⟩
      cases rest with
      | nil =>
          rw [List.intercalate_singleton] at h
          exact Or.inr ⟨field, List.mem_cons_self, h⟩
      | cons next more =>
          rw [List.intercalate_cons_cons, List.append_assoc] at h
          rcases List.mem_append.mp h with hfield | hmore
          · exact Or.inr ⟨field, List.mem_cons_self, hfield⟩
          · rcases List.mem_cons.mp hmore with hsep | htail
            · exact Or.inl hsep
            · exact hrest htail

theorem splitOn_ended (h : forall field, field ∈ fields -> sep ∉ field) (tail : List Char) :
    (ended sep fields ++ tail).splitOn sep = fields ++ tail.splitOn sep := by
  induction fields with
  | nil => rfl
  | cons field rest ih =>
      rw [ended_cons, List.append_assoc, List.cons_append,
        List.splitOn_append_cons_self_of_not_mem (h field List.mem_cons_self),
        ih fun f hf => h f (List.mem_cons_of_mem _ hf), List.cons_append]

theorem intercalate_eq_nil_iff (h : forall field, field ∈ fields -> field ≠ []) :
    [sep].intercalate fields = [] ↔ fields = [] := by
  constructor
  · intro hnil
    cases fields with
    | nil => rfl
    | cons field rest =>
        have hfield := h field List.mem_cons_self
        cases rest with
        | nil => exact absurd (List.intercalate_singleton.symm.trans hnil) hfield
        | cons next more =>
            rw [List.intercalate_cons_cons, List.append_assoc, List.append_eq_nil_iff] at hnil
            exact absurd hnil.1 hfield
  · rintro rfl
    rfl

end Joined

section Strip

variable {space : Char -> Bool} {s : List Char}

theorem trimRight_prefix (space : Char -> Bool) (s : List Char) : trimRight space s <+: s :=
  List.rdropWhile_prefix space s

theorem strip_eq_trimRight (h : forall c, s.head? = some c -> space c = false) :
    strip space s = trimRight space s := by
  cases s with
  | nil => rfl
  | cons c rest =>
      rw [strip, List.dropWhile_cons_of_neg]
      rw [h c rfl]
      exact Bool.false_ne_true

theorem strip_prefix (h : forall c, s.head? = some c -> space c = false) :
    strip space s <+: s := by
  rw [strip_eq_trimRight h]
  exact trimRight_prefix space s

theorem trimRight_append_cons {c : Char} (front back : List Char) (h : space c = false) :
    trimRight space (front ++ c :: back) = front ++ c :: trimRight space back := by
  have hstop : (c :: front.reverse).dropWhile space = c :: front.reverse := by
    apply List.dropWhile_cons_of_neg
    rw [h]
    exact Bool.false_ne_true
  have hdrop : (back.reverse ++ c :: front.reverse).dropWhile space =
      back.reverse.dropWhile space ++ c :: front.reverse := by
    rw [List.dropWhile_append, hstop]
    split
    · next hempty => rw [List.isEmpty_iff.mp hempty, List.nil_append]
    · rfl
  simp only [trimRight, List.rdropWhile, List.reverse_append, List.reverse_cons,
    List.append_assoc, List.singleton_append, hdrop, List.reverse_reverse]

theorem trimRight_eq_of_last (h : forall c, s.getLast? = some c -> space c = false) :
    trimRight space s = s := by
  rw [trimRight, List.rdropWhile_eq_self_iff]
  intro hne
  rw [h _ (List.getLast?_eq_some_getLast hne)]
  exact Bool.false_ne_true

theorem strip_eq_self (h : forall c, c ∈ s -> space c = false) : strip space s = s := by
  rw [strip_eq_trimRight fun c hc => h c (List.mem_of_mem_head? hc)]
  exact trimRight_eq_of_last fun c hc => h c (List.mem_of_getLast? hc)

end Strip

end Text
end Foundation
end Shamarx
