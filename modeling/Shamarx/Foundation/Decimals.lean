import Shamarx.Foundation.Rounding
import Shamarx.Foundation.Text

/-!
# Decimal notation

Numbers as text: integers, fixed-point decimals and the shortest notation of a double,
with the reader that takes them back.
-/

namespace Shamarx
namespace Foundation
namespace Decimals

/-!
# Digits
-/

def IsDigits (s : List Char) : Prop :=
  forall c, c ∈ s -> c.isDigit = true

instance (s : List Char) : Decidable (IsDigits s) :=
  inferInstanceAs (Decidable (forall c, c ∈ s -> _))

def value (ds : List Char) : Nat :=
  Nat.ofDigitChars 10 ds 0

def digits (n : Nat) : List Char :=
  Nat.toDigits 10 n

def zeros (n : Nat) : List Char :=
  List.replicate n '0'

def padded (places n : Nat) : List Char :=
  zeros (places - (digits n).length) ++ digits n

section Digits

theorem isDigits_digits (n : Nat) : IsDigits (digits n) :=
  fun _ hc => Nat.isDigit_of_mem_toDigits (by decide) (by decide) hc

theorem isDigits_zeros (n : Nat) : IsDigits (zeros n) := by
  intro c hc
  rw [(List.mem_replicate.mp hc).2]
  rfl

theorem IsDigits.append {front back : List Char} (hfront : IsDigits front)
    (hback : IsDigits back) : IsDigits (front ++ back) := by
  intro c hc
  rcases List.mem_append.mp hc with h | h
  · exact hfront c h
  · exact hback c h

theorem isDigits_padded (places n : Nat) : IsDigits (padded places n) :=
  (isDigits_zeros _).append (isDigits_digits n)

theorem digits_ne_nil (n : Nat) : digits n ≠ [] :=
  Nat.toDigits_ne_nil

theorem value_digits (n : Nat) : value (digits n) = n :=
  Nat.ofDigitChars_ten_toDigits

theorem value_append (front back : List Char) :
    value (front ++ back) = value front * 10 ^ back.length + value back := by
  rw [value, Nat.ofDigitChars_append, Nat.ofDigitChars_eq_ofDigitChars_zero, Nat.mul_comm]
  rfl

theorem value_zeros (n : Nat) : value (zeros n) = 0 := by
  rw [value, zeros, Nat.ofDigitChars_replicate_zero, Nat.mul_zero]

theorem length_zeros (n : Nat) : (zeros n).length = n :=
  List.length_replicate

theorem value_padded (places n : Nat) : value (padded places n) = n := by
  rw [padded, value_append, value_zeros, Nat.zero_mul, Nat.zero_add, value_digits]

theorem length_padded {places n : Nat} (hplaces : 0 < places) (hn : n < 10 ^ places) :
    (padded places n).length = places := by
  have hlength : (digits n).length ≤ places :=
    (Nat.length_toDigits_le_iff (by decide) hplaces).mpr hn
  rw [padded, List.length_append, length_zeros, Nat.sub_add_cancel hlength]

end Digits

/-!
# Writing
-/

def signText (negative : Bool) : List Char :=
  if negative then ['-'] else []

def signed (negative : Bool) (x : ℚ) : ℚ :=
  if negative then -x else x

def intText (n : Int) : List Char :=
  signText (n < 0) ++ digits n.natAbs

def fixed (places : Nat) (n : Int) : List Char :=
  signText (n < 0) ++
    (digits (n.natAbs / 10 ^ places) ++ '.' :: padded places (n.natAbs % 10 ^ places))

/-!
# Reading
-/

def scanSign : List Char -> Bool × List Char
  | '-' :: rest => (true, rest)
  | '+' :: rest => (false, rest)
  | s => (false, s)

def scanDigits (s : List Char) : List Char × List Char :=
  (s.takeWhile Char.isDigit, s.dropWhile Char.isDigit)

def scanFraction : List Char -> List Char × List Char
  | '.' :: rest => scanDigits rest
  | s => ([], s)

def scanExponent : List Char -> Int × List Char
  | [] => (0, [])
  | c :: rest =>
      let ds := scanDigits (scanSign rest).2
      if (c = 'e' ∨ c = 'E') ∧ ds.1 ≠ [] then
        (if (scanSign rest).1 then -(value ds.1 : Int) else value ds.1, ds.2)
      else (0, c :: rest)

def scanNumber (s : List Char) : Option (ℚ × List Char) :=
  let whole := scanDigits (scanSign s).2
  let fraction := scanFraction whole.2
  let exponent := scanExponent fraction.2
  if whole.1 ++ fraction.1 = [] then none
  else
    some (signed (scanSign s).1
        ((value (whole.1 ++ fraction.1) : ℚ) * 10 ^ (exponent.1 - fraction.1.length)),
      exponent.2)

def readNumber (s : List Char) : Option ℚ :=
  match scanNumber s with
  | some (x, []) => some x
  | _ => none

def readInt (s : List Char) : Option Int :=
  match scanDigits (scanSign s).2 with
  | ([], _) => none
  | (ds, []) => some (if (scanSign s).1 then -(value ds : Int) else value ds)
  | _ => none

/-!
# What is written is read back
-/

section Scan

variable {ds whole frac tail : List Char}

theorem scanDigits_run (hds : IsDigits ds)
    (htail : forall c, tail.head? = some c -> c.isDigit = false) :
    scanDigits (ds ++ tail) = (ds, tail) := by
  rw [scanDigits, Text.takeWhile_run hds htail, Text.dropWhile_run hds htail]

theorem scanDigits_all (hds : IsDigits ds) : scanDigits ds = (ds, []) := by
  rw [scanDigits, List.takeWhile_eq_self_iff.mpr hds, List.dropWhile_eq_nil_iff.mpr hds]

theorem scanSign_signText (negative : Bool) {s : List Char}
    (h : forall c, s.head? = some c -> c.isDigit = true) :
    scanSign (signText negative ++ s) = (negative, s) := by
  cases negative with
  | true => rfl
  | false =>
      rw [signText, if_neg Bool.false_ne_true, List.nil_append]
      unfold scanSign
      split
      · exact absurd (h '-' rfl) (by decide)
      · exact absurd (h '+' rfl) (by decide)
      · rfl

theorem head_isDigit (hds : IsDigits ds) (hne : ds ≠ []) (tail : List Char) :
    forall c, (ds ++ tail).head? = some c -> c.isDigit = true := by
  intro c hc
  rw [List.head?_append_of_ne_nil _ hne] at hc
  exact hds c (List.mem_of_mem_head? hc)

theorem scanNumber_point (negative : Bool) (hwhole : IsDigits whole) (hne : whole ≠ [])
    (hfrac : IsDigits frac) (htail : forall c, tail.head? = some c -> c.isDigit = false) :
    scanNumber (signText negative ++ (whole ++ '.' :: (frac ++ tail))) =
      some (signed negative ((value (whole ++ frac) : ℚ) *
          10 ^ ((scanExponent tail).1 - frac.length)), (scanExponent tail).2) := by
  have hpoint : forall c, ('.' :: (frac ++ tail)).head? = some c -> c.isDigit = false := by
    intro c hc
    cases hc
    rfl
  have hsome : whole ++ frac ≠ [] := List.append_ne_nil_of_left_ne_nil hne frac
  simp only [scanNumber, scanSign_signText negative (head_isDigit hwhole hne _),
    scanDigits_run hwhole hpoint, scanFraction, scanDigits_run hfrac htail, if_neg hsome]

theorem scanNumber_plain (negative : Bool) (hwhole : IsDigits whole) (hne : whole ≠ [])
    (htail : forall c, tail.head? = some c -> c.isDigit = false ∧ c ≠ '.') :
    scanNumber (signText negative ++ (whole ++ tail)) =
      some (signed negative ((value whole : ℚ) * 10 ^ (scanExponent tail).1),
        (scanExponent tail).2) := by
  have hfraction : scanFraction tail = ([], tail) := by
    unfold scanFraction
    split
    · exact absurd rfl (htail '.' rfl).2
    · rfl
  simp only [scanNumber, scanSign_signText negative (head_isDigit hwhole hne _),
    scanDigits_run hwhole fun c hc => (htail c hc).1, hfraction, List.append_nil, if_neg hne,
    List.length_nil, Nat.cast_zero, sub_zero]

theorem readNumber_of_scan {s : List Char} {x : ℚ} (h : scanNumber s = some (x, [])) :
    readNumber s = some x := by
  rw [readNumber, h]

theorem readNumber_point (negative : Bool) (hwhole : IsDigits whole) (hne : whole ≠ [])
    (hfrac : IsDigits frac) :
    readNumber (signText negative ++ (whole ++ '.' :: frac)) =
      some (signed negative ((value (whole ++ frac) : ℚ) * 10 ^ (-(frac.length : Int)))) := by
  have hend : forall c, ([] : List Char).head? = some c -> c.isDigit = false := by
    intro c hc
    cases hc
  have hscan := scanNumber_point negative hwhole hne hfrac hend
  rw [List.append_nil] at hscan
  simp only [scanExponent, zero_sub] at hscan
  exact readNumber_of_scan hscan

theorem signed_natAbs (n : Int) : signed (n < 0) (n.natAbs : ℚ) = n := by
  simp only [signed, decide_eq_true_eq]
  split_ifs with hneg
  · rw [Nat.cast_natAbs, abs_of_neg hneg, Int.cast_neg, neg_neg]
  · rw [Nat.cast_natAbs, abs_of_nonneg (Int.not_lt.mp hneg)]

theorem signed_mul (negative : Bool) (x y : ℚ) :
    signed negative (x * y) = signed negative x * y := by
  cases negative with
  | true => exact (neg_mul x y).symm
  | false => rfl

theorem readNumber_fixed {places : Nat} (hplaces : 0 < places) (n : Int) :
    readNumber (fixed places n) = some ((n : ℚ) / 10 ^ places) := by
  have hlt : n.natAbs % 10 ^ places < 10 ^ places := Nat.mod_lt _ (Nat.pow_pos (by decide))
  have hvalue : value (digits (n.natAbs / 10 ^ places) ++
      padded places (n.natAbs % 10 ^ places)) = n.natAbs := by
    rw [value_append, value_digits, value_padded, length_padded hplaces hlt, Nat.div_add_mod']
  rw [fixed, readNumber_point _ (isDigits_digits _) (digits_ne_nil _) (isDigits_padded _ _),
    hvalue, length_padded hplaces hlt, signed_mul, signed_natAbs, zpow_neg, zpow_natCast,
    div_eq_mul_inv]

theorem readInt_intText (n : Int) : readInt (intText n) = some n := by
  have hsign : scanSign (intText n) = (decide (n < 0), digits n.natAbs) := by
    apply scanSign_signText
    intro c hc
    exact isDigits_digits _ c (List.mem_of_mem_head? hc)
  rw [readInt, hsign, scanDigits_all (isDigits_digits _)]
  cases hdigits : digits n.natAbs with
  | nil => exact absurd hdigits (digits_ne_nil _)
  | cons c rest =>
      simp only [<- hdigits, value_digits, decide_eq_true_eq]
      split_ifs with hneg
      · rw [Int.ofNat_natAbs_of_nonpos (Int.le_of_lt hneg), neg_neg]
      · rw [Int.natAbs_of_nonneg (Int.not_lt.mp hneg)]

end Scan

/-!
# The shortest notation
-/

/-- A finite double, by the shortest decimal that denotes it: its digits behind `0.`, times
`10 ^ point`. -/
structure Double where
  negative : Bool
  ds : List Char
  point : Int
  isDigits : IsDigits ds
  nonempty : ds ≠ []

def Double.value (x : Double) : ℚ :=
  signed x.negative ((Decimals.value x.ds : ℚ) * 10 ^ (x.point - x.ds.length))

def exponentText (e : Int) : List Char :=
  'e' :: (if e < 0 then '-' else '+') :: padded 2 e.natAbs

def Double.repr (x : Double) : List Char :=
  signText x.negative ++
    if x.point ≤ -4 ∨ 16 < x.point then
      x.ds.take 1 ++ ((if x.ds.drop 1 = [] then [] else '.' :: x.ds.drop 1) ++
        exponentText (x.point - 1))
    else if x.point ≤ 0 then zeros 1 ++ '.' :: (zeros x.point.natAbs ++ x.ds)
    else if x.point < x.ds.length then
      x.ds.take x.point.natAbs ++ '.' :: x.ds.drop x.point.natAbs
    else x.ds ++ zeros (x.point - x.ds.length).natAbs ++ '.' :: zeros 1

section Double

theorem IsDigits.take {ds : List Char} (h : IsDigits ds) (n : Nat) : IsDigits (ds.take n) :=
  fun c hc => h c (List.mem_of_mem_take hc)

theorem IsDigits.drop {ds : List Char} (h : IsDigits ds) (n : Nat) : IsDigits (ds.drop n) :=
  fun c hc => h c (List.mem_of_mem_drop hc)

theorem scanExponent_exponentText (e : Int) : scanExponent (exponentText e) = (e, []) := by
  have hdigits := isDigits_padded 2 e.natAbs
  have hne : padded 2 e.natAbs ≠ [] :=
    List.append_ne_nil_of_right_ne_nil _ (digits_ne_nil _)
  have hscan : scanSign ((if e < 0 then '-' else '+') :: padded 2 e.natAbs) =
      (decide (e < 0), padded 2 e.natAbs) := by
    by_cases hneg : e < 0
    · rw [if_pos hneg, decide_eq_true hneg]
      rfl
    · rw [if_neg hneg, decide_eq_false hneg]
      rfl
  simp only [exponentText, scanExponent, hscan, scanDigits_all hdigits, value_padded,
    decide_eq_true_eq]
  rw [if_pos ⟨Or.inl trivial, hne⟩]
  split_ifs with hneg
  · rw [Int.ofNat_natAbs_of_nonpos (Int.le_of_lt hneg), neg_neg]
  · rw [Int.natAbs_of_nonneg (Int.not_lt.mp hneg)]

theorem exponentText_head (e : Int) :
    forall c, (exponentText e).head? = some c -> c.isDigit = false ∧ c ≠ '.' := by
  intro c hc
  cases hc
  decide

theorem readNumber_repr (x : Double) : readNumber x.repr = some x.value := by
  have hpos : 0 < x.ds.length := List.length_pos_of_ne_nil x.nonempty
  have htake : x.ds.take 1 ++ x.ds.drop 1 = x.ds := List.take_append_drop 1 x.ds
  have hone : x.ds.take 1 ≠ [] := by
    rw [ne_eq, List.take_eq_nil_iff, not_or]
    exact ⟨Nat.one_ne_zero, x.nonempty⟩
  have htail : forall c, (exponentText (x.point - 1)).head? = some c -> c.isDigit = false :=
    fun c hc => (exponentText_head _ c hc).1
  unfold Double.repr Double.value
  split_ifs with hexp hrest hsmall hinside
  · -- one digit and an exponent
    have hscan := scanNumber_plain x.negative (x.isDigits.take 1) hone
      (exponentText_head (x.point - 1))
    have hall : x.ds.take 1 = x.ds := by rwa [hrest, List.append_nil] at htake
    have hlength : x.ds.length = 1 :=
      Nat.le_antisymm (List.drop_eq_nil_iff.mp hrest) hpos
    rw [scanExponent_exponentText, hall] at hscan
    rw [List.nil_append, hall, readNumber_of_scan hscan, hlength, Nat.cast_one]
  · -- more digits and an exponent
    have hscan := scanNumber_point x.negative (x.isDigits.take 1) hone (x.isDigits.drop 1) htail
    have hplace : x.point - 1 - ((x.ds.drop 1).length : Int) = x.point - x.ds.length := by
      rw [List.length_drop]
      omega
    rw [scanExponent_exponentText, htake, hplace] at hscan
    exact readNumber_of_scan hscan
  · -- zeros after the point
    have hvalue : value (zeros 1 ++ (zeros x.point.natAbs ++ x.ds)) = value x.ds := by
      rw [value_append, value_append, value_zeros, value_zeros, Nat.zero_mul, Nat.zero_mul,
        Nat.zero_add, Nat.zero_add]
    have hplace : -((zeros x.point.natAbs ++ x.ds).length : Int) = x.point - x.ds.length := by
      rw [List.length_append, length_zeros]
      omega
    rw [readNumber_point x.negative (isDigits_zeros 1) (List.cons_ne_nil _ _)
      ((isDigits_zeros _).append x.isDigits), hplace, hvalue]
  · -- the point between two digits
    have hplace : -((x.ds.drop x.point.natAbs).length : Int) = x.point - x.ds.length := by
      rw [List.length_drop]
      omega
    have hne : x.ds.take x.point.natAbs ≠ [] := by
      rw [ne_eq, List.take_eq_nil_iff, not_or]
      exact ⟨by omega, x.nonempty⟩
    rw [readNumber_point x.negative (x.isDigits.take _) hne (x.isDigits.drop _),
      List.take_append_drop, hplace]
  · -- zeros before the point
    have hplaces : exists k : Nat, x.point - x.ds.length = k :=
      ⟨(x.point - x.ds.length).natAbs, by omega⟩
    rcases hplaces with ⟨k, hk⟩
    have hvalue : value (x.ds ++ zeros k ++ zeros 1) = value x.ds * 10 ^ k * 10 := by
      rw [value_append, value_append, value_zeros, value_zeros, length_zeros, length_zeros,
        Nat.add_zero, Nat.add_zero, pow_one]
    rw [hk, Int.natAbs_natCast, readNumber_point x.negative (x.isDigits.append (isDigits_zeros k))
      (List.append_ne_nil_of_left_ne_nil x.nonempty _) (isDigits_zeros 1), hvalue, length_zeros,
      zpow_natCast, Nat.cast_one, zpow_neg_one]
    push_cast
    rw [mul_inv_cancel_right₀ (by norm_num)]

end Double

end Decimals
end Foundation
end Shamarx
