import Shamarx.Bridge.AtMostOnce
import Shamarx.Bridge.Format

/-!
# What the bridge carries unchanged

Positions and closed deals are read back as they were written.  Candles never are, and an
order is when its comment is plain ASCII text.
-/

namespace Shamarx
namespace Bridge

open Foundation
open Foundation.Decimals

/-!
# The values of the rows
-/

def Position.value (p : Position) : PositionRow :=
  { ticket := p.ticket
    symbol := p.symbol.text
    side := p.side.text
    lotSize := p.volume
    entryPrice := p.priceOpen.toRat
    currentPrice := p.priceCurrent.toRat
    sl := p.sl.toRat
    tp := p.tp.toRat
    pnl := p.profit.toRat
    openTime := intText p.time }

def Closing.value (ticket : Int) (s : Closing) : HistoryRow :=
  { ticket := ticket
    closePrice := s.closePrice.toRat
    realizedPnl := s.pnl.toRat
    exitReason := s.reason
    closeTime := intText s.closeTime }

def historyValue (ticket : Int) (deals : Option (List Deal)) : Option HistoryRow :=
  match deals with
  | some deals =>
      if (closingOf deals).found then some ((closingOf deals).value ticket) else none
  | none => none

def OrderBody.args (body : OrderBody) : OrderArgs :=
  { symbol := body.symbol.text
    side := body.side.text
    lot := body.lotSize.value
    sl := body.slPrice.value
    tp := body.tpPrice.value
    comment := body.sentComment }

/-!
# Number texts
-/

section Numbers

def numberChars : List Char :=
  "0123456789.-+e".toList

def IsNumberText (s : List Char) : Prop :=
  forall c, c ∈ s -> c ∈ numberChars

theorem mem_numberChars_of_isDigit {c : Char} (h : c.isDigit = true) : c ∈ numberChars := by
  have hrange : 48 ≤ c.toNat ∧ c.toNat ≤ 57 := by
    simpa [Char.isDigit, UInt32.le_iff_toNat_le] using h
  have hlist : forall n : Nat, n < 58 -> 48 ≤ n -> Char.ofNat n ∈ numberChars := by decide
  have hmem := hlist c.toNat (Nat.lt_succ_of_le hrange.2) hrange.1
  rwa [Char.ofNat_toNat] at hmem

/-- Number characters are no delimiters, no spaces and no characters that end a line. -/
theorem numberChars_plain :
    forall c, c ∈ numberChars -> c ≠ ',' ∧ c ≠ ';' ∧ c ≠ '|' ∧ isSpace c = false ∧
      IsHigh c = false ∧ c ≠ '\n' ∧ c ≠ '\r' ∧ c ≠ '\x00' := by
  decide

theorem isNumberText_of_isDigits {ds : List Char} (h : IsDigits ds) : IsNumberText ds :=
  fun c hc => mem_numberChars_of_isDigit (h c hc)

theorem IsNumberText.append {front back : List Char} (hfront : IsNumberText front)
    (hback : IsNumberText back) : IsNumberText (front ++ back) := by
  intro c hc
  rcases List.mem_append.mp hc with h | h
  · exact hfront c h
  · exact hback c h

theorem IsNumberText.cons {c : Char} {s : List Char} (hc : c ∈ numberChars)
    (hs : IsNumberText s) : IsNumberText (c :: s) := by
  intro d hd
  rcases List.mem_cons.mp hd with rfl | h
  · exact hc
  · exact hs d h

theorem isNumberText_signText (negative : Bool) : IsNumberText (signText negative) := by
  intro c hc
  cases negative with
  | true =>
      rw [List.mem_singleton.mp hc]
      decide
  | false => cases hc

theorem isNumberText_intText (n : Int) : IsNumberText (intText n) :=
  (isNumberText_signText _).append (isNumberText_of_isDigits (isDigits_digits _))

theorem isNumberText_fixed (places : Nat) (n : Int) : IsNumberText (fixed places n) := by
  refine (isNumberText_signText _).append (IsNumberText.append ?_ (IsNumberText.cons ?_ ?_))
  · exact isNumberText_of_isDigits (isDigits_digits _)
  · decide
  · exact isNumberText_of_isDigits (isDigits_padded _ _)

theorem strip_number {s : List Char} (h : IsNumberText s) : Text.strip isSpace s = s :=
  Text.strip_eq_self fun c hc => (numberChars_plain c (h c hc)).2.2.2.1

theorem pyFloat_doubleToString (x : ℚ) {places : Nat} (hplaces : 0 < places) :
    pyFloat (doubleToString x places) = some (roundTo (10 ^ places) x) := by
  rw [pyFloat, doubleToString, strip_number (isNumberText_fixed _ _), readNumber_fixed hplaces]
  rfl

theorem pyFloat_decimal {places : Nat} (hplaces : 0 < places) (x : Decimal places) :
    pyFloat (doubleToString x.toRat places) = some x.toRat := by
  rw [pyFloat_doubleToString _ hplaces, Decimal.toRat, roundTo_intCast_div (by positivity)]

theorem pyInt_intText (n : Int) : pyInt (intText n) = some n := by
  rw [pyInt, strip_number (isNumberText_intText n), readInt_intText]

theorem digits_eq_intText (n : Nat) : digits n = intText n := by
  have hneg : ¬ (n : Int) < 0 := Int.not_lt.mpr (Int.natCast_nonneg n)
  rw [intText, decide_eq_false hneg, Int.natAbs_natCast]
  rfl

end Numbers

/-!
# The reply as it is delivered
-/

section Delivery

theorem hex_head (rid : RequestId) (tail : List Char) :
    forall c, (rid.text ++ tail).head? = some c -> isSpace c = false := by
  intro c hc
  rw [List.head?_append_of_ne_nil _ (text_ne_nil rid)] at hc
  exact (hexDigits_plain c (rid.hex c (List.mem_of_mem_head? hc))).2.1

theorem delivered_ok (rid : RequestId) (op fields : List Char) :
    delivered rid.text op (.ok fields) = .returned (Text.trimRight isSpace fields) := by
  have hline : Text.strip isSpace (Execution.line { id := rid.text, reply := .ok fields }) =
      rid.text ++ '|' :: (['o', 'k'] ++ '|' :: Text.trimRight isSpace fields) := by
    rw [Execution.line, Text.strip_eq_trimRight (hex_head rid _),
      Text.trimRight_append_cons _ _ (by decide)]
    exact congrArg (fun t => rid.text ++ '|' :: t)
      (Text.trimRight_append_cons ['o', 'k'] fields (by decide))
  rw [delivered, hline, answer, Text.partition_field (bar_not_mem rid)]
  simp only
  rw [Text.partition_field (by decide)]
  rfl

theorem delivered_err (rid : RequestId) (op message : List Char) :
    exists m, delivered rid.text op (.err message) = .raised m := by
  have hline : Text.strip isSpace (Execution.line { id := rid.text, reply := .err message }) =
      rid.text ++ '|' :: (['e', 'r', 'r'] ++ '|' :: Text.trimRight isSpace message) := by
    rw [Execution.line, Text.strip_eq_trimRight (hex_head rid _),
      Text.trimRight_append_cons _ _ (by decide)]
    exact congrArg (fun t => rid.text ++ '|' :: t)
      (Text.trimRight_append_cons ['e', 'r', 'r'] message (by decide))
  rw [delivered, hline, answer, Text.partition_field (bar_not_mem rid)]
  simp only
  rw [Text.partition_field (by decide)]
  exact ⟨_, rfl⟩

end Delivery

/-!
# Rows
-/

section Rows

theorem addRow_intercalate {rows : List (List Char)} (h : forall row, row ∈ rows -> row ≠ [])
    (row : List Char) :
    addRow ([';'].intercalate rows) row = [';'].intercalate (rows ++ [row]) := by
  rw [addRow, Text.intercalate_concat]
  by_cases hnil : rows = []
  · rw [hnil]
    rfl
  · rw [if_pos ((not_congr (Text.intercalate_eq_nil_iff h)).mpr hnil),
      Text.ended_eq_intercalate hnil]

theorem foldl_addRow {alpha : Type} (kept : alpha -> Prop) [DecidablePred kept]
    {text : alpha -> List Char} (hne : forall x, text x ≠ []) (xs done : List alpha) :
    xs.foldl (fun rows x => if kept x then addRow rows (text x) else rows)
        ([';'].intercalate (done.map text)) =
      [';'].intercalate ((done ++ xs.filter kept).map text) := by
  induction xs generalizing done with
  | nil => rw [List.foldl_nil, List.filter_nil, List.append_nil]
  | cons x rest ih =>
      have hrows : forall row, row ∈ done.map text -> row ≠ [] := by
        intro row hrow
        rcases List.mem_map.mp hrow with ⟨y, -, rfl⟩
        exact hne y
      rw [List.foldl_cons]
      split_ifs with hkept
      · have hdone : (done.map text) ++ [text x] = (done ++ [x]).map text := by
          rw [List.map_append, List.map_singleton]
        have hfilter : (x :: rest).filter kept = x :: rest.filter kept :=
          List.filter_cons_of_pos (decide_eq_true hkept)
        rw [addRow_intercalate hrows, hdone, ih, hfilter, List.append_assoc,
          List.singleton_append]
      · have hfilter : (x :: rest).filter kept = rest.filter kept :=
          List.filter_cons_of_neg (by simpa using hkept)
        rw [ih, hfilter]

theorem rowsOf_intercalate {rows : List (List Char)}
    (h : forall row, row ∈ rows -> row ≠ [] ∧ ';' ∉ row) :
    rowsOf ([';'].intercalate rows) = rows := by
  cases rows with
  | nil => rfl
  | cons row rest =>
      rw [rowsOf, List.splitOn_intercalate ';' (fun l hl => (h l hl).2) (List.cons_ne_nil _ _),
        List.filter_eq_self]
      intro l hl
      exact decide_eq_true (h l hl).1

theorem mapM_map {alpha beta : Type} {read : List Char -> Option beta}
    {text : alpha -> List Char} {val : alpha -> beta} (xs : List alpha)
    (h : forall x, read (text x) = some (val x)) :
    (xs.map text).mapM read = some (xs.map val) := by
  induction xs with
  | nil => rfl
  | cons x rest ih =>
      rw [List.map_cons, List.mapM_cons, h x, ih]
      rfl

theorem trimRight_number {sep : Char} (hsep : isSpace sep = false) (front : List Char)
    {tail : List Char} (htail : IsNumberText tail) :
    Text.trimRight isSpace (front ++ sep :: tail) = front ++ sep :: tail := by
  have htrim : Text.trimRight isSpace tail = tail :=
    Text.trimRight_eq_of_last fun c hc =>
      (numberChars_plain c (htail c (List.mem_of_getLast? hc))).2.2.2.1
  rw [Text.trimRight_append_cons _ _ hsep, htrim]

theorem trimRight_rows {rows : List (List Char)}
    (h : forall row, row ∈ rows -> exists front tail, row = front ++ ',' :: tail ∧
      IsNumberText tail) :
    Text.trimRight isSpace ([';'].intercalate rows) = [';'].intercalate rows := by
  rcases List.eq_nil_or_concat rows with rfl | ⟨front, last, rfl⟩
  · rfl
  · rw [List.concat_eq_append] at h ⊢
    rcases h last (List.mem_append_right _ List.mem_cons_self) with ⟨row, tail, rfl, htail⟩
    rw [Text.intercalate_concat, <- List.append_assoc, trimRight_number (by decide) _ htail]

end Rows

/-!
# Positions
-/

section Positions

theorem symbol_plain (s : Symbol) : ',' ∉ s.text ∧ ';' ∉ s.text ∧ '|' ∉ s.text := by
  refine ⟨fun h => ?_, fun h => ?_, fun h => ?_⟩
  all_goals exact absurd (s.plain _ h) (by decide)

theorem side_plain (s : Side) : ',' ∉ s.text ∧ ';' ∉ s.text ∧ '|' ∉ s.text := by
  cases s <;> decide

theorem number_plain {s : List Char} (h : IsNumberText s) : ',' ∉ s ∧ ';' ∉ s ∧ '|' ∉ s := by
  refine ⟨fun hc => ?_, fun hc => ?_, fun hc => ?_⟩
  all_goals exact absurd (h _ hc) (by decide)

theorem position_fields_plain (p : Position) :
    forall field, field ∈ p.fields -> ',' ∉ field ∧ ';' ∉ field ∧ '|' ∉ field := by
  intro field hfield
  have hdecimal : forall (x : ℚ) (places : Nat), IsNumberText (doubleToString x places) :=
    fun x places => isNumberText_fixed places _
  simp only [Position.fields, List.mem_cons, List.not_mem_nil, or_false] at hfield
  rcases hfield with rfl | rfl | rfl | rfl | rfl | rfl | rfl | rfl | rfl | rfl
  · exact number_plain (isNumberText_of_isDigits (isDigits_digits _))
  · exact symbol_plain p.symbol
  · exact side_plain p.side
  · exact number_plain (hdecimal _ _)
  · exact number_plain (hdecimal _ _)
  · exact number_plain (hdecimal _ _)
  · exact number_plain (hdecimal _ _)
  · exact number_plain (hdecimal _ _)
  · exact number_plain (hdecimal _ _)
  · exact number_plain (isNumberText_intText _)

theorem row_splitOn (p : Position) : p.row.splitOn ',' = p.fields :=
  List.splitOn_intercalate ',' (fun f hf => (position_fields_plain p f hf).1)
    (List.cons_ne_nil _ _)

theorem row_ends (p : Position) :
    exists front tail, p.row = front ++ ',' :: tail ∧ IsNumberText tail :=
  ⟨_, intText p.time, Text.intercalate_concat_pair
    [digits p.ticket, p.symbol.text, p.side.text, doubleToString p.volume 2,
      doubleToString p.priceOpen.toRat 5, doubleToString p.priceCurrent.toRat 5,
      doubleToString p.sl.toRat 5, doubleToString p.tp.toRat 5] _ _,
    isNumberText_intText p.time⟩

theorem row_ne_nil (p : Position) : p.row ≠ [] := by
  rcases row_ends p with ⟨front, tail, hrow, -⟩
  rw [hrow]
  exact List.append_ne_nil_of_right_ne_nil _ (List.cons_ne_nil _ _)

theorem row_no_delimiter (p : Position) : ';' ∉ p.row := by
  intro h
  rcases Text.mem_intercalate h with hsep | ⟨field, hfield, hmem⟩
  · cases hsep
  · exact (position_fields_plain p field hfield).2.1 hmem

def Position.printed (p : Position) : PositionRow :=
  { p.value with lotSize := roundTo (10 ^ 2) p.volume }

theorem positionRowToDict_row (p : Position) : positionRowToDict p.row = some p.printed := by
  have hprice : forall x : Decimal 5, pyFloat (doubleToString x.toRat 5) = some x.toRat :=
    pyFloat_decimal (by decide)
  have hmoney : forall x : Decimal 2, pyFloat (doubleToString x.toRat 2) = some x.toRat :=
    pyFloat_decimal (by decide)
  have hvolume : pyFloat (doubleToString p.volume 2) = some (roundTo (10 ^ 2) p.volume) :=
    pyFloat_doubleToString _ (by decide)
  rw [positionRowToDict, row_splitOn, Position.fields]
  simp only [digits_eq_intText, pyInt_intText, hprice, hmoney, hvolume, Option.bind_eq_bind,
    Option.bind_some]
  rfl

theorem positions_delivered (rid : RequestId) (op symbol : List Char) (ps : List Position) :
    positions (delivered rid.text op (opPositions symbol ps)) =
      some ((ps.filter (Reported symbol)).map Position.printed) := by
  have hrows : forall row, row ∈ (ps.filter (Reported symbol)).map Position.row ->
      exists p : Position, row = p.row := by
    intro row hrow
    rcases List.mem_map.mp hrow with ⟨p, -, rfl⟩
    exact ⟨p, rfl⟩
  have hjoined := foldl_addRow (Reported symbol) row_ne_nil ps []
  rw [List.map_nil, List.intercalate_nil, List.nil_append] at hjoined
  rw [opPositions, delivered_ok, hjoined, trimRight_rows, positions, rowsOf_intercalate,
    mapM_map _ positionRowToDict_row]
  · intro row hrow
    rcases hrows row hrow with ⟨p, rfl⟩
    exact ⟨row_ne_nil p, row_no_delimiter p⟩
  · intro row hrow
    rcases hrows row hrow with ⟨p, rfl⟩
    exact row_ends p

def TwoDecimals (x : ℚ) : Prop :=
  exists n : Int, x = n / 100

theorem roundTo_hundred_iff (x : ℚ) : roundTo (10 ^ 2) x = x ↔ TwoDecimals x := by
  have hscale : (10 : ℚ) ^ 2 = 100 := by norm_num
  rw [hscale]
  constructor
  · intro h
    exact ⟨roundHalfUp (x * 100), h.symm⟩
  · rintro ⟨n, rfl⟩
    exact roundTo_intCast_div (by norm_num) n

theorem positions_round_trip (rid : RequestId) (op symbol : List Char) (ps : List Position) :
    positions (delivered rid.text op (opPositions symbol ps)) =
        some ((ps.filter (Reported symbol)).map Position.value) ↔
      forall p, p ∈ ps -> Reported symbol p -> TwoDecimals p.volume := by
  have hprinted : forall p : Position, p.printed = p.value ↔ TwoDecimals p.volume := by
    intro p
    rw [<- roundTo_hundred_iff]
    constructor
    · intro h
      exact congrArg PositionRow.lotSize h
    · intro h
      rw [Position.printed, h]
      rfl
  rw [positions_delivered, Option.some.injEq, List.map_inj_left]
  simp only [List.mem_filter, decide_eq_true_eq, hprinted, and_imp]

end Positions

/-!
# Closed deals
-/

section History

theorem reason_plain (s : Closing) (h : '|' ∉ s.reason) (deals : List Deal) :
    '|' ∉ (deals.foldl Closing.add s).reason := by
  induction deals generalizing s with
  | nil => exact h
  | cons d rest ih =>
      apply ih
      unfold Closing.add
      split_ifs
      · cases d.reason with
        | sl =>
            show '|' ∉ "SL".toList
            decide
        | tp =>
            show '|' ∉ "TP".toList
            decide
        | other => exact h
      · exact h

theorem closing_fields_plain (deals : List Deal) :
    forall field, field ∈ (closingOf deals).fields -> '|' ∉ field := by
  intro field hfield
  simp only [Closing.fields, List.mem_cons, List.not_mem_nil, or_false] at hfield
  rcases hfield with rfl | rfl | rfl | rfl
  · exact (number_plain (isNumberText_fixed 5 _)).2.2
  · exact (number_plain (isNumberText_fixed 2 _)).2.2
  · exact reason_plain .none (by decide) deals
  · exact (number_plain (isNumberText_intText _)).2.2

theorem closing_ends (s : Closing) :
    exists front, ['|'].intercalate s.fields = front ++ '|' :: intText s.closeTime :=
  ⟨_, Text.intercalate_concat_pair
    [doubleToString s.closePrice.toRat 5, doubleToString s.pnl.toRat 2] _ _⟩

theorem history_round_trip (rid : RequestId) (op : List Char) (ticket : Int)
    (deals : Option (List Deal)) :
    history ticket (delivered rid.text op (opHistory deals)) =
      some (historyValue ticket deals) := by
  cases deals with
  | none =>
      rw [opHistory, delivered_ok]
      rfl
  | some deals =>
      rw [opHistory, delivered_ok, historyValue]
      split_ifs with hfound
      · rcases closing_ends (closingOf deals) with ⟨front, hjoined⟩
        have hpayload : Text.trimRight isSpace (['|'].intercalate (closingOf deals).fields) =
            ['|'].intercalate (closingOf deals).fields := by
          rw [hjoined, trimRight_number (by decide) _ (isNumberText_intText _)]
        have hne : ['|'].intercalate (closingOf deals).fields ≠ [] := by
          rw [hjoined]
          exact List.append_ne_nil_of_right_ne_nil _ (List.cons_ne_nil _ _)
        have hprice : pyFloat (doubleToString (closingOf deals).closePrice.toRat 5) =
            some (closingOf deals).closePrice.toRat := pyFloat_decimal (by decide) _
        have hpnl : pyFloat (doubleToString (closingOf deals).pnl.toRat 2) =
            some (closingOf deals).pnl.toRat := pyFloat_decimal (by decide) _
        rw [hpayload, history, if_neg hne,
          List.splitOn_intercalate '|' (closing_fields_plain deals) (List.cons_ne_nil _ _),
          Closing.fields]
        simp only [hprice, hpnl, Option.bind_eq_bind, Option.bind_some]
        rfl
      · rfl

end History

/-!
# Candles
-/

section Candles

theorem datetimeText_split (t : Int) :
    exists rest, datetimeText t = padded 4 (yearOf (t / 86400)).toNat ++ '.' :: rest :=
  ⟨_, by rw [datetimeText, dateText, List.append_assoc, List.cons_append]⟩

theorem mem_datetimeText {t : Int} {c : Char} (h : c ∈ datetimeText t) :
    c ∈ numberChars ∨ c = ' ' ∨ c = ':' := by
  have hpadded : forall places n, c ∈ padded places n -> c ∈ numberChars :=
    fun places n hc => mem_numberChars_of_isDigit (isDigits_padded places n c hc)
  simp only [datetimeText, dateText, clockText, List.mem_append, List.mem_cons,
    List.append_assoc, List.cons_append] at h
  rcases h with h | rfl | h | rfl | h | rfl | h | rfl | h | rfl | h
  · exact Or.inl (hpadded _ _ h)
  · exact Or.inl (by decide)
  · exact Or.inl (hpadded _ _ h)
  · exact Or.inl (by decide)
  · exact Or.inl (hpadded _ _ h)
  · exact Or.inr (Or.inl rfl)
  · exact Or.inl (hpadded _ _ h)
  · exact Or.inr (Or.inr rfl)
  · exact Or.inl (hpadded _ _ h)
  · exact Or.inr (Or.inr rfl)
  · exact Or.inl (hpadded _ _ h)

theorem datetimeText_plain (t : Int) : ',' ∉ datetimeText t ∧ ';' ∉ datetimeText t := by
  constructor
  all_goals
    intro h
    rcases mem_datetimeText h with hnumber | heq | heq
    · exact absurd hnumber (by decide)
    · cases heq
    · cases heq

theorem pyInt_datetimeText (t : Int) : pyInt (datetimeText t) = none := by
  rcases datetimeText_split t with ⟨rest, hsplit⟩
  have hyear := isDigits_padded 4 (yearOf (t / 86400)).toNat
  have hne : padded 4 (yearOf (t / 86400)).toNat ≠ [] :=
    List.append_ne_nil_of_right_ne_nil _ (digits_ne_nil _)
  have hhead : forall c, (padded 4 (yearOf (t / 86400)).toNat ++ '.' :: rest).head? = some c ->
      isSpace c = false := by
    intro c hc
    have hdigit := head_isDigit hyear hne _ c hc
    exact (numberChars_plain c (mem_numberChars_of_isDigit hdigit)).2.2.2.1
  have hsign := scanSign_signText false
    (head_isDigit hyear hne ('.' :: Text.trimRight isSpace rest))
  rw [signText, if_neg Bool.false_ne_true, List.nil_append] at hsign
  have hpoint : forall c, ('.' :: Text.trimRight isSpace rest).head? = some c ->
      c.isDigit = false := by
    intro c hc
    cases hc
    rfl
  rw [pyInt, hsplit, Text.strip_eq_trimRight hhead, Text.trimRight_append_cons _ _ (by decide),
    readInt, hsign]
  simp only
  rw [scanDigits_run hyear hpoint]
  cases hdigits : padded 4 (yearOf (t / 86400)).toNat with
  | nil => exact absurd hdigits hne
  | cons c more => rfl

theorem rate_fields_plain (r : Rate) :
    forall field, field ∈ r.fields -> ',' ∉ field ∧ ';' ∉ field := by
  intro field hfield
  have hnumber : forall {s : List Char}, IsNumberText s -> ',' ∉ s ∧ ';' ∉ s :=
    fun h => ⟨(number_plain h).1, (number_plain h).2.1⟩
  simp only [Rate.fields, List.mem_cons, List.not_mem_nil, or_false] at hfield
  rcases hfield with rfl | rfl | rfl | rfl | rfl | rfl
  · exact datetimeText_plain r.time
  · exact hnumber (isNumberText_fixed 5 _)
  · exact hnumber (isNumberText_fixed 5 _)
  · exact hnumber (isNumberText_fixed 5 _)
  · exact hnumber (isNumberText_fixed 5 _)
  · exact hnumber (isNumberText_intText _)

theorem rate_ends (r : Rate) :
    exists front tail, r.row = front ++ ',' :: tail ∧ IsNumberText tail :=
  ⟨_, intText r.tickVolume, Text.intercalate_concat_pair
    [datetimeText r.time, doubleToString r.openPrice.toRat 5, doubleToString r.high.toRat 5,
      doubleToString r.low.toRat 5] _ _,
    isNumberText_intText r.tickVolume⟩

theorem rate_ne_nil (r : Rate) : r.row ≠ [] := by
  rcases rate_ends r with ⟨front, tail, hrow, -⟩
  rw [hrow]
  exact List.append_ne_nil_of_right_ne_nil _ (List.cons_ne_nil _ _)

theorem rate_no_delimiter (r : Rate) : ';' ∉ r.row := by
  intro h
  rcases Text.mem_intercalate h with hsep | ⟨field, hfield, hmem⟩
  · cases hsep
  · exact (rate_fields_plain r field hfield).2 hmem

theorem candleRow_row (symbol timeframe : List Char) (r : Rate) :
    candleRow symbol timeframe r.row = none := by
  have hsplit : r.row.splitOn ',' = r.fields :=
    List.splitOn_intercalate ',' (fun f hf => (rate_fields_plain r f hf).1) (List.cons_ne_nil _ _)
  rw [candleRow, hsplit, Rate.fields]
  simp only [pyInt_datetimeText, Option.bind_eq_bind, Option.bind_none]

theorem candles_not_read (rid : RequestId) (op symbol timeframe : List Char) (rates : List Rate)
    (lastError : Int) :
    candles symbol timeframe (delivered rid.text op (opCandles rates lastError)) = none := by
  rw [opCandles]
  split_ifs with hnil
  · rcases delivered_err rid op ("CopyRates failed ".toList ++ intText lastError) with ⟨m, hm⟩
    rw [hm]
    rfl
  · have hjoined := foldl_addRow (fun _ : Rate => True) rate_ne_nil rates []
    simp only [if_true, List.map_nil, List.intercalate_nil, decide_true, List.nil_append,
      List.filter_true] at hjoined
    have hrow : forall row, row ∈ rates.map Rate.row -> exists r : Rate, row = r.row := by
      intro row h
      rcases List.mem_map.mp h with ⟨r, -, rfl⟩
      exact ⟨r, rfl⟩
    rw [delivered_ok, hjoined, trimRight_rows, candles, rowsOf_intercalate]
    · cases rates with
      | nil => exact absurd rfl hnil
      | cons r rest =>
          rw [List.map_cons, List.mapM_cons, candleRow_row]
          rfl
    · intro row h
      rcases hrow row h with ⟨r, rfl⟩
      exact ⟨rate_ne_nil r, rate_no_delimiter r⟩
    · intro row h
      rcases hrow row h with ⟨r, rfl⟩
      exact rate_ends r

end Candles

/-!
# Orders
-/

/-- ASCII text of one line, without the delimiter and without a space at its end. -/
def Carried (comment : List Char) : Prop :=
  (forall c, c ∈ comment -> IsHigh c = false ∧ c ≠ '\x00' ∧ c ≠ '\n' ∧ c ≠ '|') ∧
    Text.trimRight isTrimmed comment = comment

instance (comment : List Char) : Decidable (Carried comment) :=
  inferInstanceAs (Decidable (_ ∧ _))

section Orders

variable {page : CodePage}

def lastField (page : CodePage) (s : List Char) : List Char :=
  (Text.partition '|' (Text.trimRight isTrimmed
    (readString (page.reads (writeText (s ++ ['\n'])))))).1

theorem isTrimmed_low {c : Char} (h : isTrimmed c = true) : IsHigh c = false := by
  simp only [isTrimmed, Bool.or_eq_true, decide_eq_true_eq] at h
  rcases h with ((rfl | rfl) | rfl) | rfl <;> decide

theorem zero_not_mem_readString (s : List Char) : '\x00' ∉ readString s := by
  induction s with
  | nil => exact List.not_mem_nil
  | cons c rest ih =>
      rw [readString]
      split_ifs with hstop
      · exact List.not_mem_nil
      · rw [List.mem_cons, not_or]
        exact ⟨fun heq => hstop (Or.inl heq.symm), ih⟩

theorem newline_mem_readString_append {front back : List Char} (hfront : '\n' ∉ front)
    (h : '\n' ∈ readString (front ++ back)) : '\n' ∈ readString back := by
  induction front with
  | nil => exact h
  | cons c rest ih =>
      rw [List.mem_cons, not_or] at hfront
      rw [List.cons_append, readString] at h
      split_ifs at h with hstop
      · cases h
      · exact ih hfront.2 ((List.mem_cons.mp h).resolve_left hfront.1)

theorem newline_not_mem_read (s : List Char) : '\n' ∉ readString (page.reads (writeText s)) := by
  induction s with
  | nil => exact List.not_mem_nil
  | cons c rest ih =>
      intro h
      have hcons : writeText (c :: rest) =
          (if c = '\n' then ['\r', '\n'] else [c]) ++ writeText rest := List.flatMap_cons
      rw [hcons, CodePage.reads_append] at h
      split_ifs at h with hc
      · rw [CodePage.reads_ascii page (by decide)] at h
        cases h
      · apply ih
        apply newline_mem_readString_append _ h
        intro hmem
        have hsingle := CodePage.mem_of_mem_reads page hmem (by decide)
        exact hc (List.mem_singleton.mp hsingle).symm

theorem readString_line {s : List Char} (hzero : '\x00' ∉ s) (hline : '\n' ∉ s) :
    readString (s ++ ['\r', '\n']) = s := by
  induction s with
  | nil => rfl
  | cons c rest ih =>
      rw [List.mem_cons, not_or] at hzero hline
      have hgoes : ¬ (c = '\x00' ∨ c = '\r' ∧ (rest ++ ['\r', '\n']).head? = some '\n') := by
        rintro (heq | ⟨-, hhead⟩)
        · exact hzero.1 heq.symm
        · cases rest with
          | nil => cases hhead
          | cons d more =>
              cases hhead
              exact hline.2 List.mem_cons_self
      rw [List.cons_append, readString, if_neg hgoes, ih hzero.2 hline.2]

theorem lastField_eq {s : List Char} (hzero : '\x00' ∉ s) (hline : '\n' ∉ s)
    (hbar : '|' ∉ s) : lastField page s = Text.trimRight isTrimmed (page.reads s) := by
  have hreads : forall {c : Char}, c ∉ s -> IsHigh c = false -> c ∉ page.reads s :=
    fun hc hlow hmem => hc (CodePage.mem_of_mem_reads page hmem hlow)
  have hbreak : page.reads (writeText ['\n']) = ['\r', '\n'] :=
    CodePage.reads_ascii page (by decide)
  have hread : readString (page.reads (writeText (s ++ ['\n']))) = page.reads s := by
    rw [writeText_append, writeText_plain hline, CodePage.reads_append, hbreak,
      readString_line (hreads hzero (by decide)) (hreads hline (by decide))]
  have hnot : '|' ∉ Text.trimRight isTrimmed (page.reads s) :=
    fun hmem => hreads hbar (by decide) ((Text.trimRight_prefix _ _).subset hmem)
  rw [lastField, hread, Text.partition_absent hnot]

theorem lastField_eq_self_iff (s : List Char) : lastField page s = s ↔ Carried s := by
  have hbar : lastField page s = s -> '|' ∉ s := by
    intro h
    rw [<- h]
    exact Text.not_mem_partition _
  have hread : forall {c : Char}, lastField page s = s -> c ∈ s ->
      c ∈ readString (page.reads (writeText (s ++ ['\n']))) := by
    intro c h hc
    rw [<- h] at hc
    exact (Text.trimRight_prefix _ _).subset ((List.takeWhile_prefix _).subset hc)
  constructor
  · intro h
    have hzero : '\x00' ∉ s := fun hmem => zero_not_mem_readString _ (hread h hmem)
    have hline : '\n' ∉ s := fun hmem => newline_not_mem_read _ (hread h hmem)
    have heq := h
    rw [lastField_eq hzero hline (hbar h)] at heq
    have hlow := CodePage.ascii_of_reads page (fun _ => isTrimmed_low) heq
    rw [CodePage.reads_ascii page hlow] at heq
    refine ⟨fun c hc => ⟨hlow c hc, ?_, ?_, ?_⟩, heq⟩
    · rintro rfl
      exact hzero hc
    · rintro rfl
      exact hline hc
    · rintro rfl
      exact hbar h hc
  · rintro ⟨hplain, htrim⟩
    rw [lastField_eq (fun h => (hplain _ h).2.1 rfl) (fun h => (hplain _ h).2.2.1 rfl)
      (fun h => (hplain _ h).2.2.2 rfl), CodePage.reads_ascii page fun c hc => (hplain c hc).1,
      htrim]

def IsField (field : List Char) : Prop :=
  forall c, c ∈ field ->
    c ≠ '|' ∧ IsHigh c = false ∧ c ≠ '\n' ∧ c ≠ '\r' ∧ c ≠ '\x00'

instance (field : List Char) : Decidable (IsField field) :=
  inferInstanceAs (Decidable (forall c, c ∈ field -> _))

theorem isField_of_number {s : List Char} (h : IsNumberText s) : IsField s := by
  intro c hc
  rcases numberChars_plain c (h c hc) with ⟨-, -, hbar, -, hlow, hline, hreturn, hzero⟩
  exact ⟨hbar, hlow, hline, hreturn, hzero⟩

theorem isNumberText_repr (x : Double) : IsNumberText x.repr := by
  have hdigits : forall {ds : List Char}, IsDigits ds -> IsNumberText ds := isNumberText_of_isDigits
  have hzeros : forall n, IsNumberText (zeros n) := fun n => hdigits (isDigits_zeros n)
  have hexponent : IsNumberText (exponentText (x.point - 1)) := by
    refine IsNumberText.cons (by decide) (IsNumberText.cons ?_ (hdigits (isDigits_padded _ _)))
    split_ifs <;> decide
  refine (isNumberText_signText _).append ?_
  split_ifs
  · exact (hdigits (x.isDigits.take 1)).append
      (IsNumberText.append (fun c hc => by cases hc) hexponent)
  · exact (hdigits (x.isDigits.take 1)).append
      ((IsNumberText.cons (by decide) (hdigits (x.isDigits.drop 1))).append hexponent)
  · exact (hzeros 1).append (.cons (by decide) ((hzeros _).append (hdigits x.isDigits)))
  · exact (hdigits (x.isDigits.take _)).append (.cons (by decide) (hdigits (x.isDigits.drop _)))
  · exact ((hdigits x.isDigits).append (hzeros _)).append (.cons (by decide) (hzeros 1))

theorem isField_rid (rid : RequestId) : IsField rid.text := by
  have hplain : forall c, c ∈ hexDigits ->
      c ≠ '|' ∧ IsHigh c = false ∧ c ≠ '\n' ∧ c ≠ '\r' ∧ c ≠ '\x00' := by decide
  exact fun c hc => hplain c (rid.hex c hc)

theorem isField_symbol (s : Symbol) : IsField s.text := by
  intro c hc
  have hplain := s.plain c hc
  simp only [isPlain, Bool.and_eq_true, decide_eq_true_eq] at hplain
  refine ⟨hplain.1.1.2, decide_eq_false (by omega), ?_, ?_, ?_⟩
  all_goals
    rintro rfl
    exact absurd hplain.1.1.1.1 (by decide)

theorem isField_side (s : Side) : IsField s.text := by
  cases s <;> decide

def orderFields (rid : RequestId) (body : OrderBody) : List (List Char) :=
  [rid.text, "order".toList, body.symbol.text, body.side.text, body.lotSize.repr,
    body.slPrice.repr, body.tpPrice.repr]

theorem orderFields_plain (rid : RequestId) (body : OrderBody) :
    forall field, field ∈ orderFields rid body -> IsField field := by
  intro field hfield
  simp only [orderFields, List.mem_cons, List.not_mem_nil, or_false] at hfield
  rcases hfield with rfl | rfl | rfl | rfl | rfl | rfl | rfl
  · exact isField_rid rid
  · show IsField "order".toList
    decide
  · exact isField_symbol body.symbol
  · exact isField_side body.side
  · exact isField_of_number (isNumberText_repr _)
  · exact isField_of_number (isNumberText_repr _)
  · exact isField_of_number (isNumberText_repr _)

theorem ended_plain {fields : List (List Char)} (h : forall f, f ∈ fields -> IsField f) :
    forall c, c ∈ Text.ended '|' fields ->
      IsHigh c = false ∧ c ≠ '\n' ∧ c ≠ '\r' ∧ c ≠ '\x00' := by
  intro c hc
  rcases List.mem_flatMap.mp hc with ⟨field, hfield, hmem⟩
  rcases List.mem_append.mp hmem with hin | hbar
  · exact (h field hfield c hin).2
  · rw [List.mem_singleton.mp hbar]
    decide

theorem requestLine_order (rid : RequestId) (body : OrderBody) :
    requestLine (page.reads (orderRequest rid body).content) =
      Text.ended '|' (orderFields rid body) ++ Text.trimRight isTrimmed
        (readString (page.reads (writeText (body.sentComment ++ ['\n'])))) := by
  have hline : (orderRequest rid body).line =
      Text.ended '|' (orderFields rid body) ++ (body.sentComment ++ ['\n']) := by
    rw [<- List.append_assoc, <- Text.intercalate_concat]
    rfl
  have hplain := ended_plain (orderFields_plain rid body)
  have hlast : exists front, Text.ended '|' (orderFields rid body) = front ++ ['|'] :=
    ⟨_, Text.ended_eq_intercalate (List.cons_ne_nil _ _)⟩
  rcases hlast with ⟨front, hfront⟩
  rw [requestLine, Request.content, hline, writeText_append,
    writeText_plain fun h => (hplain _ h).2.1 rfl, CodePage.reads_append,
    CodePage.reads_ascii page fun c hc => (hplain c hc).1,
    readString_append _ fun c hc => ⟨(hplain c hc).2.2.2, (hplain c hc).2.2.1⟩, hfront,
    List.append_assoc, List.singleton_append, Text.trimRight_append_cons _ _ (by decide),
    List.append_assoc, List.singleton_append]

theorem stringToDouble_repr (x : Double) : stringToDouble x.repr = x.value := by
  have hread := readNumber_repr x
  rw [readNumber] at hread
  split at hread
  · next y hscan =>
      cases hread
      rw [stringToDouble, hscan]
  · cases hread

theorem orderParsed_eq (rid : RequestId) (body : OrderBody) :
    orderParsed page rid body =
      some { body.args with comment := lastField page body.sentComment } := by
  rcases Text.splitOn_head '|' (Text.trimRight isTrimmed
    (readString (page.reads (writeText (body.sentComment ++ ['\n']))))) with ⟨more, hmore⟩
  have hfields : forall f, f ∈ orderFields rid body -> '|' ∉ f :=
    fun f hf hbar => (orderFields_plain rid body f hf _ hbar).1 rfl
  have hsplit := Text.splitOn_ended hfields
    (Text.trimRight isTrimmed
      (readString (page.reads (writeText (body.sentComment ++ ['\n'])))))
  rw [orderParsed, requestLine_order, handleOrder, hsplit, hmore, orderFields]
  simp only [List.cons_append, List.nil_append, if_true, stringToDouble_repr]
  rfl

theorem order_round_trip (page : CodePage) (rid : RequestId) (body : OrderBody) :
    orderParsed page rid body = some body.args ↔ Carried body.sentComment := by
  have hlast : lastField page body.sentComment = body.sentComment <->
      Carried body.sentComment := lastField_eq_self_iff body.sentComment
  rw [orderParsed_eq, Option.some.injEq, <- hlast]
  constructor
  · intro h
    exact congrArg OrderArgs.comment h
  · intro h
    rw [h]
    rfl

end Orders

/-!
# The bridge as a whole
-/

/-- Positions come back as they were exactly when no reported volume has more than two
decimals, closed deals always do, candles never, and an order is read as it was sent
exactly when its comment is plain ASCII text of one line. -/
theorem format_round_trip (page : CodePage) (rid : RequestId) (op symbol timeframe : List Char)
    (ps : List Position) (ticket : Int) (deals : Option (List Deal)) (rates : List Rate)
    (lastError : Int) (body : OrderBody) :
    (positions (delivered rid.text op (opPositions symbol ps)) =
          some ((ps.filter (Reported symbol)).map Position.value) ↔
        forall p, p ∈ ps -> Reported symbol p -> TwoDecimals p.volume) ∧
      history ticket (delivered rid.text op (opHistory deals)) =
        some (historyValue ticket deals) ∧
      candles symbol timeframe (delivered rid.text op (opCandles rates lastError)) = none ∧
      (orderParsed page rid body = some body.args ↔ Carried body.sentComment) :=
  ⟨positions_round_trip rid op symbol ps, history_round_trip rid op ticket deals,
    candles_not_read rid op symbol timeframe rates lastError, order_round_trip page rid body⟩

def sampleRate : Rate :=
  { time := 1767225600
    openPrice := { units := 110000 }
    high := { units := 110100 }
    low := { units := 109900 }
    close := { units := 110050 }
    tickVolume := 12 }

def sampleOrder : OrderBody :=
  { symbol := { text := "EURUSD".toList, plain := by decide }
    side := .buy
    lotSize := ⟨false, ['1'], 0, by decide, by decide⟩
    slPrice := ⟨false, ['1', '0', '9'], 1, by decide, by decide⟩
    tpPrice := ⟨false, ['1', '1', '1'], 1, by decide, by decide⟩
    comment := some "A|B".toList }

/-- One candle is not read, and a comment with the delimiter in it is cut. -/
theorem candle_and_comment_are_lost :
    candles "EURUSD".toList "M15".toList
        (delivered openRequest.rid.text "candles".toList (opCandles [sampleRate] 0)) = none ∧
      (orderParsed .latin1 openRequest.rid sampleOrder).map OrderArgs.comment =
        some "A".toList := by
  decide +kernel

end Bridge
end Shamarx
