import Mathlib.Data.Char
import Mathlib.Data.List.Lex
import Mathlib.Data.List.Forall2
import Mathlib.Order.Lattice
import Shamarx.Foundation.Decimals

/-!
# Timestamps as text

Texts made of number fields of fixed widths compare as their numbers do, so the
instants of one fixed-width notation sort alike as texts and as times.
-/

namespace Shamarx
namespace Foundation

/-!
# Digits of equal width
-/

theorem append_lt_append_iff {alpha : Type} [LinearOrder alpha] {a b : List alpha}
    (hlen : a.length = b.length) (c d : List alpha) :
    a ++ c < b ++ d <-> a < b ∨ (a = b ∧ c < d) := by
  induction a generalizing b with
  | nil =>
      rw [List.length_nil, eq_comm, List.length_eq_zero_iff] at hlen
      subst hlen
      simp
  | cons x rest ih =>
      cases b with
      | nil =>
          cases hlen
      | cons y rest' =>
          have hrest := ih (Nat.succ.inj hlen)
          rw [List.cons_append, List.cons_append, List.cons_lt_cons_iff, hrest,
            List.cons_lt_cons_iff, List.cons.injEq]
          tauto

namespace Decimals

theorem value_cons (c : Char) (ds : List Char) :
    value (c :: ds) = value [c] * 10 ^ ds.length + value ds :=
  value_append [c] ds

theorem value_digit (c : Char) : value [c] = c.toNat - 48 := by
  simp [value, Nat.ofDigitChars]

theorem digit_bounds {c : Char} (hc : c.isDigit = true) : 48 ≤ c.toNat ∧ c.toNat ≤ 57 := by
  simpa [Char.isDigit, UInt32.le_iff_toNat_le] using hc

theorem value_lt {ds : List Char} (hds : IsDigits ds) : value ds < 10 ^ ds.length := by
  induction ds with
  | nil =>
      decide
  | cons c rest ih =>
      have hrest := ih fun d hd => hds d (List.mem_cons_of_mem c hd)
      have hc := digit_bounds (hds c List.mem_cons_self)
      have hdigit : value [c] ≤ 9 := by
        rw [value_digit]
        omega
      rw [value_cons, List.length_cons, pow_succ]
      calc value [c] * 10 ^ rest.length + value rest
          < value [c] * 10 ^ rest.length + 10 ^ rest.length := by omega
        _ = (value [c] + 1) * 10 ^ rest.length := by ring
        _ ≤ 10 * 10 ^ rest.length := Nat.mul_le_mul_right _ (by omega)
        _ = 10 ^ rest.length * 10 := Nat.mul_comm _ _

theorem lt_iff_value_lt {a b : List Char} (ha : IsDigits a) (hb : IsDigits b)
    (hlen : a.length = b.length) : a < b <-> value a < value b := by
  induction a generalizing b with
  | nil =>
      rw [List.length_nil, eq_comm, List.length_eq_zero_iff] at hlen
      subst hlen
      simp
  | cons x rest ih =>
      cases b with
      | nil =>
          cases hlen
      | cons y rest' =>
          have hlen' : rest.length = rest'.length := Nat.succ.inj hlen
          have hrestDigits : IsDigits rest := fun d hd => ha d (List.mem_cons_of_mem x hd)
          have hrestDigits' : IsDigits rest' := fun d hd => hb d (List.mem_cons_of_mem y hd)
          have hx := digit_bounds (ha x List.mem_cons_self)
          have hy := digit_bounds (hb y List.mem_cons_self)
          have hlt := value_lt hrestDigits
          have hlt' := value_lt hrestDigits'
          have hchar : x < y <-> value [x] < value [y] := by
            rw [value_digit, value_digit, Char.lt_def, UInt32.lt_iff_toNat_lt]
            change x.toNat < y.toNat <-> _
            omega
          have hsame : x = y <-> value [x] = value [y] := by
            rw [value_digit, value_digit, Char.ext_iff, <- UInt32.toNat_inj]
            change x.toNat = y.toNat <-> _
            omega
          rw [List.cons_lt_cons_iff, ih hrestDigits hrestDigits' hlen', value_cons x,
            value_cons y, hchar, hsame, hlen']
          rw [hlen'] at hlt
          generalize 10 ^ rest'.length = unit at hlt hlt' ⊢
          rcases Nat.lt_trichotomy (value [x]) (value [y]) with hless | heq | hmore
          · have hstep : (value [x] + 1) * unit ≤ value [y] * unit :=
              Nat.mul_le_mul_right unit hless
            rw [Nat.add_mul, Nat.one_mul] at hstep
            constructor
            · intro _
              omega
            · intro _
              exact Or.inl hless
          · rw [heq]
            omega
          · have hstep : (value [y] + 1) * unit ≤ value [x] * unit :=
              Nat.mul_le_mul_right unit hmore
            rw [Nat.add_mul, Nat.one_mul] at hstep
            omega

theorem padded_inj {places n m : Nat} : padded places n = padded places m <-> n = m := by
  constructor
  · intro h
    rw [<- value_padded places n, h, value_padded]
  · intro h
    rw [h]

theorem eq_of_value_eq {a b : List Char} (ha : IsDigits a) (hb : IsDigits b)
    (hlen : a.length = b.length) (hvalue : value a = value b) : a = b := by
  rcases lt_trichotomy a b with hlt | heq | hgt
  · exact absurd hvalue ((lt_iff_value_lt ha hb hlen).mp hlt).ne
  · exact heq
  · exact absurd hvalue ((lt_iff_value_lt hb ha hlen.symm).mp hgt).ne'

theorem padded_mul_pow {places n : Nat} (hplaces : 0 < places) (hn : n < 10 ^ places)
    (tail : Nat) : padded (places + tail) (n * 10 ^ tail) = padded places n ++ zeros tail := by
  have hwide : n * 10 ^ tail < 10 ^ (places + tail) := by
    rw [pow_add]
    exact Nat.mul_lt_mul_of_pos_right hn (Nat.pow_pos (by decide))
  apply eq_of_value_eq (isDigits_padded _ _) ((isDigits_padded _ _).append (isDigits_zeros _))
  · rw [length_padded (Nat.add_pos_left hplaces tail) hwide, List.length_append,
      length_padded hplaces hn, length_zeros]
  · rw [value_padded, value_append, value_padded, value_zeros, length_zeros, Nat.add_zero]

theorem padded_lt_iff {places n m : Nat} (hplaces : 0 < places) (hn : n < 10 ^ places)
    (hm : m < 10 ^ places) : padded places n < padded places m <-> n < m := by
  rw [lt_iff_value_lt (isDigits_padded places n) (isDigits_padded places m)
    ((length_padded hplaces hn).trans (length_padded hplaces hm).symm), value_padded,
    value_padded]

end Decimals

/-!
# Records of fixed-width fields
-/

structure TextField where
  width : Nat
  after : List Char
  width_pos : 0 < width

def fieldsText : List TextField -> List Nat -> List Char
  | f :: fs, n :: ns => Decimals.padded f.width n ++ (f.after ++ fieldsText fs ns)
  | _, _ => []

def Fits (fs : List TextField) (ns : List Nat) : Prop :=
  List.Forall₂ (fun f n => n < 10 ^ f.width) fs ns

section Fields

variable {fs : List TextField} {ns ms : List Nat}

theorem fieldsText_length (hns : Fits fs ns) (hms : Fits fs ms) :
    (fieldsText fs ns).length = (fieldsText fs ms).length := by
  induction hns generalizing ms with
  | nil =>
      cases hms
      rfl
  | cons hn hrest ih =>
      cases hms with
      | cons hm hrest' =>
          simp only [fieldsText, List.length_append, ih hrest',
            Decimals.length_padded (TextField.width_pos _) hn,
            Decimals.length_padded (TextField.width_pos _) hm]

theorem fieldsText_lt_iff (hns : Fits fs ns) (hms : Fits fs ms) :
    fieldsText fs ns < fieldsText fs ms <-> ns < ms := by
  induction hns generalizing ms with
  | nil =>
      cases hms
      simp [fieldsText]
  | @cons f n fs' ns' hn hrest ih =>
      cases hms with
      | @cons _ m _ ms' hm hrest' =>
          have hwidth := (Decimals.length_padded f.width_pos hn).trans
            (Decimals.length_padded f.width_pos hm).symm
          rw [fieldsText, fieldsText, append_lt_append_iff hwidth,
            append_lt_append_iff rfl, Decimals.padded_lt_iff f.width_pos hn hm,
            Decimals.padded_inj, ih hrest', List.cons_lt_cons_iff]
          simp

theorem fieldsText_inj (hns : Fits fs ns) (hms : Fits fs ms) :
    fieldsText fs ns = fieldsText fs ms <-> ns = ms := by
  constructor
  · intro heq
    rcases lt_trichotomy ns ms with hlt | hsame | hgt
    · exact absurd ((fieldsText_lt_iff hns hms).mpr hlt) (heq ▸ lt_irrefl _)
    · exact hsame
    · exact absurd ((fieldsText_lt_iff hms hns).mpr hgt) (heq ▸ lt_irrefl _)
  · intro heq
    rw [heq]

end Fields

/-!
# Calendar stamps

An instant by the fields of its UTC date and time.  Instants are ordered by these,
the year first.
-/

def daysIn (year month : Nat) : Nat :=
  if month = 2 then
    if year % 4 = 0 ∧ (year % 100 ≠ 0 ∨ year % 400 = 0) then 29 else 28
  else if month = 4 ∨ month = 6 ∨ month = 9 ∨ month = 11 then 30
  else 31

structure Stamp where
  year : Nat
  month : Nat
  day : Nat
  hour : Nat
  minute : Nat
  second : Nat
  microsecond : Nat
  year_bounds : 1 ≤ year ∧ year ≤ 9999
  month_bounds : 1 ≤ month ∧ month ≤ 12
  day_bounds : 1 ≤ day ∧ day ≤ daysIn year month
  hour_lt : hour < 24
  minute_lt : minute < 60
  second_lt : second < 60
  microsecond_lt : microsecond < 1000000
  deriving DecidableEq

namespace Stamp

def clock (s : Stamp) : List Nat :=
  [s.year, s.month, s.day, s.hour, s.minute, s.second]

def key (s : Stamp) : List Nat :=
  s.clock ++ [s.microsecond]

theorem key_injective : Function.Injective key := by
  intro a b h
  cases a
  cases b
  simp only [key, clock, List.cons_append, List.nil_append, List.cons.injEq, and_true] at h
  simp only [mk.injEq]
  tauto

instance : LinearOrder Stamp :=
  LinearOrder.lift' key key_injective

theorem lt_iff_key (a b : Stamp) : a < b <-> a.key < b.key :=
  Iff.rfl

theorem clock_length (s : Stamp) : s.clock.length = 6 :=
  rfl

theorem lt_iff (a b : Stamp) :
    a < b <-> a.clock < b.clock ∨ (a.clock = b.clock ∧ a.microsecond < b.microsecond) := by
  rw [lt_iff_key, key, key, append_lt_append_iff (by rw [clock_length, clock_length]),
    List.cons_lt_cons_iff]
  simp

/-- `%Y-%m-%dT%H:%M:%S` with a fixed ending. -/
def clockFields (ending : String) : List TextField :=
  [⟨4, ['-'], by decide⟩, ⟨2, ['-'], by decide⟩, ⟨2, ['T'], by decide⟩,
    ⟨2, [':'], by decide⟩, ⟨2, [':'], by decide⟩, ⟨2, ending.toList, by decide⟩]

theorem day_lt (s : Stamp) : s.day < 100 := by
  have hmonth : daysIn s.year s.month ≤ 31 := by
    unfold daysIn
    split_ifs <;> omega
  have hday := s.day_bounds.2
  omega

theorem clock_fits (s : Stamp) (ending : String) : Fits (clockFields ending) s.clock := by
  have hyear := s.year_bounds.2
  have hmonth := s.month_bounds.2
  have hday := s.day_lt
  have hhour := s.hour_lt
  have hminute := s.minute_lt
  have hsecond := s.second_lt
  unfold Fits clockFields clock
  refine .cons ?_ (.cons ?_ (.cons ?_ (.cons ?_ (.cons ?_ (.cons ?_ .nil)))))
  all_goals
    norm_num
    omega

def isoText (ending : String) (s : Stamp) : List Char :=
  fieldsText (clockFields ending) s.clock

theorem isoText_lt_iff (ending : String) (a b : Stamp) :
    isoText ending a < isoText ending b <-> a.clock < b.clock :=
  fieldsText_lt_iff (a.clock_fits ending) (b.clock_fits ending)

theorem isoText_inj (ending : String) (a b : Stamp) :
    isoText ending a = isoText ending b <-> a.clock = b.clock :=
  fieldsText_inj (a.clock_fits ending) (b.clock_fits ending)

end Stamp
end Foundation
end Shamarx
