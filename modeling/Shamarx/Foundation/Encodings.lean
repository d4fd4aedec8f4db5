import Shamarx.Foundation.Text

/-!
# Text files in two encodings

One side writes UTF-8 and the other reads a code page of one byte for each character.
They agree on ASCII and on nothing else.
-/

namespace Shamarx
namespace Foundation

structure CodePage where
  char : UInt8 -> Char
  ascii : forall b, b.toNat < 128 -> (char b).toNat = b.toNat
  high : forall b, 128 ≤ b.toNat -> 128 ≤ (char b).toNat

theorem toNat_ofNat_byte (b : UInt8) : (Char.ofNat b.toNat).toNat = b.toNat := by
  have hvalid : b.toNat.isValidChar := Or.inl (Nat.lt_trans b.toNat_lt (by decide))
  rw [Char.ofNat, dif_pos hvalid]
  rfl

/-- ISO 8859-1. -/
def CodePage.latin1 : CodePage :=
  { char := fun b => Char.ofNat b.toNat
    ascii := fun b _ => toNat_ofNat_byte b
    high := fun b h => by rw [toNat_ofNat_byte]; exact h }

def utf8 (s : List Char) : List UInt8 :=
  s.flatMap String.utf8EncodeChar

/-- What a reader of the code page makes of a text written in UTF-8. -/
def CodePage.reads (page : CodePage) (s : List Char) : List Char :=
  (utf8 s).map page.char

def IsHigh (c : Char) : Bool :=
  128 ≤ c.toNat

def highs (s : List Char) : Nat :=
  s.countP IsHigh

namespace CodePage

variable (page : CodePage)

theorem reads_cons (c : Char) (s : List Char) :
    page.reads (c :: s) = (String.utf8EncodeChar c).map page.char ++ page.reads s := by
  rw [reads, utf8, List.flatMap_cons, List.map_append]
  rfl

theorem reads_append (front back : List Char) :
    page.reads (front ++ back) = page.reads front ++ page.reads back := by
  rw [reads, utf8, List.flatMap_append, List.map_append]
  rfl

theorem reads_low {c : Char} (h : IsHigh c = false) :
    (String.utf8EncodeChar c).map page.char = [c] := by
  have hlt : c.toNat < 128 := by simpa [IsHigh] using h
  have hbyte : (UInt8.ofNat c.val.toNat).toNat = c.toNat := by
    rw [UInt8.toNat_ofNat']
    exact Nat.mod_eq_of_lt (Nat.lt_trans hlt (by decide))
  have hchar : page.char (UInt8.ofNat c.val.toNat) = c := by
    apply Char.toNat_inj.mp
    rw [page.ascii _ (by rw [hbyte]; exact hlt), hbyte]
  have hsmall : c.val.toNat ≤ 0x7f := Nat.le_of_lt_succ hlt
  simp only [String.utf8EncodeChar]
  rw [if_pos hsmall, List.map_cons, List.map_nil, hchar]

theorem utf8_high {c : Char} (h : IsHigh c = true) :
    2 ≤ (String.utf8EncodeChar c).length ∧
      forall b, b ∈ String.utf8EncodeChar c -> 128 ≤ b.toNat := by
  have hge : ¬ c.val.toNat ≤ 0x7f := by
    have hhigh : 128 ≤ c.toNat := by simpa [IsHigh] using h
    exact Nat.not_le_of_lt hhigh
  have hbyte : forall n : Nat, 128 ≤ n % 256 -> 128 ≤ (UInt8.ofNat n).toNat := by
    intro n hn
    rw [UInt8.toNat_ofNat']
    exact hn
  simp only [String.utf8EncodeChar]
  rw [if_neg hge]
  split_ifs
  all_goals
    refine ⟨by simp, ?_⟩
    simp only [List.mem_cons, List.not_mem_nil, or_false, forall_eq_or_imp, forall_eq]
    repeat' constructor
  all_goals
    apply hbyte
    omega

theorem isHigh_of_mem {c d : Char} (h : IsHigh c = true)
    (hd : d ∈ (String.utf8EncodeChar c).map page.char) : IsHigh d = true := by
  rcases List.mem_map.mp hd with ⟨b, hb, rfl⟩
  exact decide_eq_true (page.high b ((utf8_high h).2 b hb))

theorem reads_ascii {s : List Char} (h : forall c, c ∈ s -> IsHigh c = false) :
    page.reads s = s := by
  induction s with
  | nil => rfl
  | cons c rest ih =>
      rw [reads_cons, reads_low page (h c List.mem_cons_self),
        ih fun d hd => h d (List.mem_cons_of_mem _ hd), List.singleton_append]

theorem mem_of_mem_reads {s : List Char} {d : Char} (hd : d ∈ page.reads s)
    (hlow : IsHigh d = false) : d ∈ s := by
  induction s with
  | nil => exact hd
  | cons c rest ih =>
      rw [reads_cons] at hd
      rcases List.mem_append.mp hd with hc | hrest
      · cases hhigh : IsHigh c with
        | true =>
            rw [isHigh_of_mem page hhigh hc] at hlow
            cases hlow
        | false =>
            rw [reads_low page hhigh] at hc
            exact List.mem_cons.mpr (Or.inl (List.mem_singleton.mp hc))
      · exact List.mem_cons_of_mem _ (ih hrest)

theorem highs_reads (s : List Char) : 2 * highs s ≤ highs (page.reads s) := by
  induction s with
  | nil => exact Nat.le_refl _
  | cons c rest ih =>
      have happend : highs (page.reads (c :: rest)) =
          highs ((String.utf8EncodeChar c).map page.char) + highs (page.reads rest) := by
        rw [reads_cons]
        exact List.countP_append
      rw [happend]
      cases hhigh : IsHigh c with
      | true =>
          have hall : highs ((String.utf8EncodeChar c).map page.char) =
              (String.utf8EncodeChar c).length := by
            rw [highs, List.countP_eq_length.mpr fun d hd => isHigh_of_mem page hhigh hd,
              List.length_map]
          have hcons : highs (c :: rest) = highs rest + 1 := List.countP_cons_of_pos hhigh
          have htwo := (utf8_high hhigh).1
          omega
      | false =>
          have hcons : highs (c :: rest) = highs rest :=
            List.countP_cons_of_neg (by rw [hhigh]; exact Bool.false_ne_true)
          omega

theorem ascii_of_reads {space : Char -> Bool}
    (hspace : forall c, space c = true -> IsHigh c = false) {s : List Char}
    (h : Text.trimRight space (page.reads s) = s) : forall c, c ∈ s -> IsHigh c = false := by
  have htrim : highs (Text.trimRight space (page.reads s)) = highs (page.reads s) := by
    have hsplit := List.takeWhile_append_dropWhile (p := space) (l := (page.reads s).reverse)
    have hnone : ((page.reads s).reverse.takeWhile space).countP IsHigh = 0 := by
      rw [List.countP_eq_zero]
      intro c hc
      rw [hspace c (List.mem_takeWhile_imp hc)]
      exact Bool.false_ne_true
    have hcount : highs (page.reads s) =
        ((page.reads s).reverse.dropWhile space).countP IsHigh := by
      rw [highs, <- List.countP_reverse, <- hsplit, List.countP_append, hnone, Nat.zero_add, hsplit]
    rw [hcount, highs, Text.trimRight, List.rdropWhile, List.countP_reverse]
  have htwo := page.highs_reads s
  rw [<- htrim, h] at htwo
  have hzero : highs s = 0 := by omega
  intro c hc
  exact Bool.eq_false_iff.mpr (List.countP_eq_zero.mp hzero c hc)

end CodePage

end Foundation
end Shamarx
