import Shamarx.Foundation.CallLog
import Shamarx.Market.DailyBars

/-!
# The candle stream

`fetchAndStoreCandles` asks the broker for the last bars, stores the closed ones and
announces the M15 bars that are new.  The fetches of a poll run side by side, polls may
overlap, and every call may fail.
-/

namespace Shamarx
namespace Market

open Foundation
open Engine

/-- A `createMany` that took place, with the rows that were new. -/
structure Insertion where
  symbol : Instrument
  timeframe : Timeframe
  fresh : List CandleRow
  deriving DecidableEq

inductive Announcing where
  | announced (at_ : Int)
  | publishFailed
  | notNeeded
  | answerLost
  deriving DecidableEq, Repr

inductive FetchPhase where
  | requested (symbol : Instrument) (timeframe : Timeframe)
  | storing (symbol : Instrument) (timeframe : Timeframe) (closed : List CandleRow)
  | publishing (symbol : Instrument) (insertion : Nat)

/-- The clock, the candle table, the fetches under way, the insertions so far and the
messages on the `CANDLE_STORED` channel. -/
structure CandleStream where
  now : Int
  rows : List CandleRow
  fetches : InFlight FetchPhase
  insertions : CallLog Insertion Announcing
  announced : List (Instrument × Int)

namespace CandleStream

def opened (now : Int) (rows : List CandleRow) : CandleStream :=
  { now := now, rows := rows, fetches := .empty, insertions := [], announced := [] }

/-- The broker's answer: the bars that are closed by now are stored, if there are any. -/
def receive (s : CandleStream) (id : Nat) (symbol : Instrument) (timeframe : Timeframe)
    (candles : List CandleDto) : CandleStream :=
  match closedRows s.now symbol timeframe candles with
  | [] => { s with fetches := s.fetches.drop id }
  | closed => { s with fetches := s.fetches.put id (.storing symbol timeframe closed) }

def freshRows (s : CandleStream) (closed : List CandleRow) : List CandleRow :=
  (createMany CandleRow.key s.rows closed).drop s.rows.length

/-- The table has taken the rows; the answer says how many, unless it is lost. -/
def insert (s : CandleStream) (id : Nat) (symbol : Instrument) (timeframe : Timeframe)
    (closed : List CandleRow) (answered : Bool) : CandleStream :=
  let fresh := s.freshRows closed
  let insertion : Insertion := { symbol := symbol, timeframe := timeframe, fresh := fresh }
  let stored := { s with rows := createMany CandleRow.key s.rows closed }
  if answered = false then
    { stored with
      insertions := s.insertions ++ [{ arg := insertion, result := some .answerLost }]
      fetches := s.fetches.drop id }
  else if 0 < fresh.length ∧ timeframe = .m15 then
    { stored with
      insertions := s.insertions.start insertion
      fetches := s.fetches.put id (.publishing symbol s.insertions.length) }
  else
    { stored with
      insertions := s.insertions ++ [{ arg := insertion, result := some .notNeeded }]
      fetches := s.fetches.drop id }

def publish (s : CandleStream) (id : Nat) (symbol : Instrument) (insertion : Nat)
    (published : Bool) : CandleStream :=
  if published then
    { s with
      insertions := s.insertions.settle insertion (.announced s.now)
      announced := s.announced ++ [(symbol, s.now)]
      fetches := s.fetches.drop id }
  else
    { s with
      insertions := s.insertions.settle insertion .publishFailed
      fetches := s.fetches.drop id }

end CandleStream

/-- The clock, a fetch of a poll, or what becomes of the call a fetch waits for. -/
inductive StreamOp where
  | clock (ms : Nat)
  | fetch (id : Nat) (symbol : Instrument) (timeframe : Timeframe)
  | answer (id : Nat) (candles : List CandleDto)
  | stored (id : Nat) (answered : Bool)
  | published (id : Nat) (done : Bool)
  | fail (id : Nat)

/-- A call that fails ends its fetch; a failed publication also settles its insertion. -/
def streamStep (s : CandleStream) : StreamOp -> CandleStream
  | .clock ms => { s with now := s.now + ms }
  | .fetch id symbol timeframe =>
      match s.fetches id with
      | none =>
          if Polled timeframe then
            { s with fetches := s.fetches.put id (.requested symbol timeframe) }
          else s
      | some _ => s
  | .answer id candles =>
      match s.fetches id with
      | some (.requested symbol timeframe) => s.receive id symbol timeframe candles
      | _ => s
  | .stored id answered =>
      match s.fetches id with
      | some (.storing symbol timeframe closed) => s.insert id symbol timeframe closed answered
      | _ => s
  | .published id done =>
      match s.fetches id with
      | some (.publishing symbol insertion) => s.publish id symbol insertion done
      | _ => s
  | .fail id =>
      match s.fetches id with
      | some (.publishing symbol insertion) => s.publish id symbol insertion false
      | some _ => { s with fetches := s.fetches.drop id }
      | none => s

/-!
# What the stream keeps
-/

def messagesOf (i : Insertion) : Announcing -> List (Instrument × Int)
  | .announced at_ => [(i.symbol, at_)]
  | _ => []

/-- An insertion of new M15 bars is announced, its publication failed or its answer was
lost; the others are not announced. -/
def Insertion.Fits (i : Insertion) : Announcing -> Prop
  | .announced _ => i.fresh ≠ [] ∧ i.timeframe = .m15
  | .publishFailed => i.fresh ≠ [] ∧ i.timeframe = .m15
  | .notNeeded => i.fresh = [] ∨ i.timeframe ≠ .m15
  | .answerLost => True

def FetchPhase.insertion : FetchPhase -> Option Nat
  | .publishing _ insertion => some insertion
  | _ => none

def FetchPhase.Sound (s : CandleStream) : FetchPhase -> Prop
  | .requested _ _ => True
  | .storing symbol timeframe closed => forall r, r ∈ closed ->
      r.symbol = symbol ∧ r.timeframe = timeframe ∧
        r.bar.openTime + timeframeMs timeframe ≤ s.now
  | .publishing symbol insertion => exists i, s.insertions.pending insertion = some i ∧
      i.symbol = symbol ∧ i.fresh ≠ [] ∧ i.timeframe = .m15

structure Streamed (history : List CandleRow) (s : CandleStream) : Prop where
  rows : s.rows = history ++ s.insertions.args.flatMap Insertion.fresh
  keys : (s.rows.map CandleRow.key).Nodup
  closed : forall i, i ∈ s.insertions.args -> forall r, r ∈ i.fresh ->
    r.symbol = i.symbol ∧ r.timeframe = i.timeframe ∧
      r.bar.openTime + timeframeMs i.timeframe ≤ s.now
  settled : forall c, c ∈ s.insertions -> forall r, c.result = some r -> c.arg.Fits r
  messages : s.announced.Perm (s.insertions.effects messagesOf)
  fetches : s.fetches.Forall fun _ phase => phase.Sound s
  publishers : (s.fetches.view FetchPhase.insertion).Distinct id
  waiting : forall n i, s.insertions.pending n = some i ->
    s.fetches.Any fun phase => phase.insertion = some n

theorem Streamed.publishers_put {history : List CandleRow} {s : CandleStream}
    (h : Streamed history s) (fetch : Nat) :
    ((s.fetches.view FetchPhase.insertion).put fetch s.insertions.length).Distinct id := by
  refine h.publishers.put ?_
  intro other n _ hother hsame
  rcases Option.bind_eq_some_iff.mp hother with ⟨phase, hphase, hinsertion⟩
  cases phase with
  | publishing symbol' m =>
      rcases h.fetches other _ hphase with ⟨i, hi, -⟩
      have hlt := CallLog.pending_lt hi
      cases hinsertion
      exact absurd hsame (Nat.ne_of_lt hlt)
  | _ =>
      cases hinsertion

section Keeps

variable {history : List CandleRow} {s : CandleStream} {id : Nat}

theorem closed_of_mem_closedRows {now : Int} {symbol : Instrument} {timeframe : Timeframe}
    {candles : List CandleDto} {r : CandleRow}
    (h : r ∈ closedRows now symbol timeframe candles) :
    r.symbol = symbol ∧ r.timeframe = timeframe ∧
      r.bar.openTime + timeframeMs timeframe ≤ now := by
  rcases List.mem_map.mp h with ⟨c, hc, rfl⟩
  exact ⟨rfl, rfl, of_decide_eq_true (List.mem_filter.mp hc).2⟩

theorem Streamed.drop (h : Streamed history s) {before : FetchPhase}
    (hbefore : s.fetches id = some before) (hnone : before.insertion = none) :
    Streamed history { s with fetches := s.fetches.drop id } where
  rows := h.rows
  keys := h.keys
  closed := h.closed
  settled := h.settled
  messages := h.messages
  fetches := h.fetches.drop id
  publishers := by
    dsimp only
    rw [InFlight.view_drop]
    exact h.publishers.drop id
  waiting := by
    intro n i hn
    refine (h.waiting n i hn).drop hbefore ?_
    rw [hnone]
    intro hsome
    cases hsome

theorem Streamed.put (h : Streamed history s) {phase : FetchPhase}
    (hbefore : forall before, s.fetches id = some before -> before.insertion = none)
    (hnone : phase.insertion = none) (hsound : phase.Sound s) :
    Streamed history { s with fetches := s.fetches.put id phase } where
  rows := h.rows
  keys := h.keys
  closed := h.closed
  settled := h.settled
  messages := h.messages
  fetches := h.fetches.put hsound
  publishers := by
    dsimp only
    rw [InFlight.view_put_none hnone]
    exact h.publishers.drop id
  waiting := by
    intro n i hn
    cases hfetch : s.fetches id with
    | none =>
        exact (h.waiting n i hn).put_free hfetch phase
    | some before =>
        refine (h.waiting n i hn).put hfetch ?_
        rw [hbefore before hfetch]
        intro hsome
        cases hsome

theorem Streamed.clock (h : Streamed history s) (ms : Nat) :
    Streamed history { s with now := s.now + ms } where
  rows := h.rows
  keys := h.keys
  closed := by
    intro i hi r hr
    rcases h.closed i hi r hr with ⟨hsymbol, htf, hclosed⟩
    exact ⟨hsymbol, htf, by dsimp only; omega⟩
  settled := h.settled
  messages := h.messages
  fetches := by
    refine h.fetches.imp ?_
    intro id phase hphase
    cases phase with
    | requested symbol timeframe =>
        exact trivial
    | storing symbol timeframe closed =>
        intro r hr
        rcases hphase r hr with ⟨hsymbol, htf, hclosed⟩
        exact ⟨hsymbol, htf, by dsimp only; omega⟩
    | publishing symbol insertion =>
        exact hphase
  publishers := h.publishers
  waiting := h.waiting

theorem Streamed.receive (h : Streamed history s) {symbol : Instrument} {timeframe : Timeframe}
    (hfetch : s.fetches id = some (.requested symbol timeframe)) (candles : List CandleDto) :
    Streamed history (s.receive id symbol timeframe candles) := by
  unfold CandleStream.receive
  split
  · exact h.drop hfetch rfl
  · next closed hclosed =>
      refine h.put ?_ rfl ?_
      · intro before hbefore
        rw [hfetch] at hbefore
        cases hbefore
        rfl
      · intro r hr
        exact closed_of_mem_closedRows hr

theorem createMany_eq_append_freshRows (s : CandleStream) (closed : List CandleRow) :
    createMany CandleRow.key s.rows closed = s.rows ++ s.freshRows closed ∧
      forall r, r ∈ s.freshRows closed -> r ∈ closed := by
  rcases exists_createMany_eq_append CandleRow.key s.rows closed with ⟨fresh, heq, hfresh⟩
  have hdrop : s.freshRows closed = fresh := by
    rw [CandleStream.freshRows, heq, List.drop_left]
  rw [hdrop]
  exact ⟨heq, fun r hr => (hfresh r hr).1⟩

theorem sound_of_appended {rows : List CandleRow} {fetches : InFlight FetchPhase}
    (c : LoggedCall Insertion Announcing) {phase : FetchPhase} (h : phase.Sound s) :
    phase.Sound { s with
      rows := rows
      insertions := s.insertions ++ [c]
      fetches := fetches } := by
  cases phase with
  | requested symbol timeframe =>
      exact trivial
  | storing symbol timeframe closed =>
      exact h
  | publishing symbol insertion =>
      rcases h with ⟨i, hi, hfacts⟩
      exact ⟨i, (CallLog.pending_append_of_lt (CallLog.pending_lt hi) c).trans hi, hfacts⟩

section Insert

variable {symbol : Instrument} {timeframe : Timeframe} {closed : List CandleRow}
  {c : LoggedCall Insertion Announcing}

theorem Streamed.rows_appended (h : Streamed history s) (hfresh : c.arg.fresh = s.freshRows closed) :
    createMany CandleRow.key s.rows closed =
      history ++ (CallLog.args (s.insertions ++ [c])).flatMap Insertion.fresh := by
  rw [(createMany_eq_append_freshRows s closed).1, h.rows, CallLog.args, CallLog.args,
    List.map_append, List.flatMap_append, List.append_assoc, List.map_singleton,
    List.flatMap_singleton, hfresh]

theorem Streamed.closed_appended (h : Streamed history s)
    (hnew : forall r, r ∈ c.arg.fresh -> r.symbol = c.arg.symbol ∧
      r.timeframe = c.arg.timeframe ∧
        r.bar.openTime + timeframeMs c.arg.timeframe ≤ s.now) :
    forall i, i ∈ CallLog.args (s.insertions ++ [c]) -> forall r, r ∈ i.fresh ->
      r.symbol = i.symbol ∧ r.timeframe = i.timeframe ∧
        r.bar.openTime + timeframeMs i.timeframe ≤ s.now := by
  intro i hi
  rw [CallLog.args, List.map_append] at hi
  rcases List.mem_append.mp hi with hold | hlast
  · exact h.closed i hold
  · rw [List.mem_singleton.mp hlast]
    exact hnew

theorem Streamed.settled_appended (h : Streamed history s)
    (hnew : forall r, c.result = some r -> c.arg.Fits r) :
    forall c', c' ∈ s.insertions ++ [c] -> forall r, c'.result = some r -> c'.arg.Fits r := by
  intro c' hc'
  rcases List.mem_append.mp hc' with hold | hlast
  · exact h.settled c' hold
  · rw [List.mem_singleton.mp hlast]
    exact hnew

theorem Streamed.ended (h : Streamed history s)
    (hfetch : s.fetches id = some (.storing symbol timeframe closed)) {result : Announcing}
    (hfits : Insertion.Fits
      { symbol := symbol, timeframe := timeframe, fresh := s.freshRows closed } result)
    (hmessages : messagesOf
      { symbol := symbol, timeframe := timeframe, fresh := s.freshRows closed } result = []) :
    Streamed history
      { s with
        rows := createMany CandleRow.key s.rows closed
        insertions := s.insertions ++
          [{ arg := { symbol := symbol, timeframe := timeframe, fresh := s.freshRows closed }
             result := some result }]
        fetches := s.fetches.drop id } where
  rows := h.rows_appended rfl
  keys := nodup_keys_createMany h.keys closed
  closed := h.closed_appended fun r hr =>
    h.fetches id _ hfetch r ((createMany_eq_append_freshRows s closed).2 r hr)
  settled := by
    apply h.settled_appended
    intro r hr
    cases hr
    exact hfits
  messages := by
    dsimp only
    rw [CallLog.effects_append]
    simpa [hmessages] using h.messages
  fetches := (h.fetches.imp fun _ phase hphase => sound_of_appended _ hphase).drop id
  publishers := by
    dsimp only
    rw [InFlight.view_drop]
    exact h.publishers.drop id
  waiting := by
    intro n i hn
    rcases CallLog.pending_append hn with hold | ⟨-, hnew⟩
    · refine (h.waiting n i hold).drop hfetch ?_
      intro hsome
      cases hsome
    · cases hnew

theorem Streamed.started (h : Streamed history s)
    (hfetch : s.fetches id = some (.storing symbol timeframe closed))
    (hneeded : 0 < (s.freshRows closed).length ∧ timeframe = .m15) :
    Streamed history
      { s with
        rows := createMany CandleRow.key s.rows closed
        insertions := s.insertions.start
          { symbol := symbol, timeframe := timeframe, fresh := s.freshRows closed }
        fetches := s.fetches.put id (.publishing symbol s.insertions.length) } where
  rows := h.rows_appended rfl
  keys := nodup_keys_createMany h.keys closed
  closed := h.closed_appended fun r hr =>
    h.fetches id _ hfetch r ((createMany_eq_append_freshRows s closed).2 r hr)
  settled := by
    apply h.settled_appended
    intro r hr
    cases hr
  messages := by
    dsimp only
    rw [CallLog.effects_start]
    exact h.messages
  fetches := by
    refine (h.fetches.imp fun _ phase hphase => sound_of_appended _ hphase).put ?_
    exact ⟨_, CallLog.pending_start_self s.insertions _, rfl,
      List.ne_nil_of_length_pos hneeded.1, hneeded.2⟩
  publishers := by
    dsimp only
    rw [InFlight.view_put (f := FetchPhase.insertion) (x := List.length s.insertions) rfl]
    exact h.publishers_put id
  waiting := by
    intro n i hn
    rcases CallLog.pending_append hn with hold | ⟨rfl, -⟩
    · refine (h.waiting n i hold).put hfetch ?_
      intro hsome
      cases hsome
    · exact InFlight.any_put_self _ id rfl

theorem Streamed.insert (h : Streamed history s)
    (hfetch : s.fetches id = some (.storing symbol timeframe closed)) (answered : Bool) :
    Streamed history (s.insert id symbol timeframe closed answered) := by
  unfold CandleStream.insert
  dsimp only
  split_ifs with hlost hneeded
  · exact h.ended hfetch trivial rfl
  · exact h.started hfetch hneeded
  · refine h.ended hfetch ?_ rfl
    rw [not_and_or, Nat.pos_iff_ne_zero, not_not, List.length_eq_zero_iff] at hneeded
    exact hneeded

end Insert

theorem Streamed.publish (h : Streamed history s) {symbol : Instrument} {insertion : Nat}
    (hfetch : s.fetches id = some (.publishing symbol insertion)) (done : Bool) :
    Streamed history (s.publish id symbol insertion done) := by
  rcases h.fetches id _ hfetch with ⟨i, hi, hsymbol, hneeded⟩
  have hview : s.fetches.view FetchPhase.insertion id = some insertion :=
    InFlight.view_eq hfetch
  have hsettle : forall (result : Announcing) (announced : List (Instrument × Int)),
      i.Fits result ->
      announced.Perm (s.announced ++ messagesOf i result) ->
      Streamed history
        { s with
          insertions := s.insertions.settle insertion result
          announced := announced
          fetches := s.fetches.drop id } := by
    intro result announced hfits hmessages
    refine ⟨?_, h.keys, ?_, ?_, ?_, ?_, ?_, ?_⟩
    · dsimp only
      rw [CallLog.args_settle]
      exact h.rows
    · dsimp only
      rw [CallLog.args_settle]
      exact h.closed
    · intro c hc r hr
      rcases CallLog.mem_settle hi hc with hold | rfl
      · exact h.settled c hold r hr
      · cases hr
        exact hfits
    · exact hmessages.trans ((h.messages.append_right _).trans
        (CallLog.effects_settle messagesOf result hi).symm)
    · intro other phase hother
      rcases InFlight.drop_cases hother with ⟨hne, hphase⟩
      have hold := h.fetches other phase hphase
      cases phase with
      | publishing symbol' m =>
          rcases hold with ⟨j, hj, hfacts⟩
          have hm : m ≠ insertion := by
            rintro rfl
            exact hne (h.publishers other m id m (InFlight.view_eq hphase) hview rfl)
          exact ⟨j, (CallLog.pending_settle_of_ne result hm).trans hj, hfacts⟩
      | requested symbol' timeframe =>
          exact trivial
      | storing symbol' timeframe closed =>
          exact hold
    · dsimp only
      rw [InFlight.view_drop]
      exact h.publishers.drop id
    · intro n j hn
      dsimp only at hn
      by_cases hsame : n = insertion
      · subst hsame
        rw [CallLog.pending_settle_self result hi] at hn
        cases hn
      · rw [CallLog.pending_settle_of_ne result hsame] at hn
        refine (h.waiting n j hn).drop hfetch ?_
        intro heq
        exact hsame (Option.some.inj heq).symm
  unfold CandleStream.publish
  split_ifs
  · refine hsettle (.announced s.now) _ hneeded ?_
    rw [messagesOf, hsymbol]
  · refine hsettle .publishFailed _ hneeded ?_
    change s.announced.Perm (s.announced ++ [])
    rw [List.append_nil]

theorem Streamed.step (h : Streamed history s) (op : StreamOp) :
    Streamed history (streamStep s op) := by
  cases op with
  | clock ms =>
      exact h.clock ms
  | fetch id symbol timeframe =>
      dsimp only [streamStep]
      split
      · next hfetch =>
          split_ifs
          · refine h.put ?_ ?_ ?_
            · intro before hbefore
              rw [hfetch] at hbefore
              cases hbefore
            · rfl
            · exact trivial
          · exact h
      · exact h
  | answer id candles =>
      dsimp only [streamStep]
      split
      · next symbol timeframe hfetch =>
          exact h.receive hfetch candles
      · exact h
  | stored id answered =>
      dsimp only [streamStep]
      split
      · next symbol timeframe closed hfetch =>
          exact h.insert hfetch answered
      · exact h
  | published id done =>
      dsimp only [streamStep]
      split
      · next symbol insertion hfetch =>
          exact h.publish hfetch done
      · exact h
  | fail id =>
      dsimp only [streamStep]
      split
      · next symbol insertion hfetch =>
          exact h.publish hfetch false
      · next phase hother hfetch =>
          refine h.drop hfetch ?_
          cases phase with
          | publishing symbol insertion =>
              exact absurd rfl (hother symbol insertion)
          | _ =>
              rfl
      · exact h

end Keeps

theorem streamed_opened (now : Int) {rows : List CandleRow} (h : (rows.map CandleRow.key).Nodup) :
    Streamed rows (.opened now rows) where
  rows := (List.append_nil rows).symm
  keys := h
  closed := fun _ hi => nomatch hi
  settled := fun _ hc => nomatch hc
  messages := List.Perm.refl _
  fetches := InFlight.forall_empty _
  publishers := InFlight.distinct_empty _
  waiting := fun _ _ hn => nomatch hn

/-- Fetches interleave and fail as they may: the table is the history followed by what
the insertions added, bars that were closed, under distinct keys; and each insertion of
new M15 bars is announced exactly once, unless its publication fails, waits or the answer
to the insertion is lost, while the others are not announced. -/
theorem stream_announced (now : Int) (history : List CandleRow)
    (hkeys : (history.map CandleRow.key).Nodup) (ops : List StreamOp) :
    Streamed history (runFrom streamStep (.opened now history) ops) :=
  runFrom_inv (Streamed history) (fun _ op h => h.step op) (streamed_opened now hkeys) ops

def exampleFetch : List StreamOp :=
  [.clock 900000,
    .fetch 0 .XAUUSD .m15,
    .answer 0
      [{ openTime := 0, open_ := 2650, high := 2652, low := 2649, close := 2651, volume := 120 },
        { openTime := 900000, open_ := 2651, high := 2651, low := 2651, close := 2651,
          volume := 1 }],
    .stored 0 true,
    .published 0 true]

theorem stream_announced_of_fetch :
    Streamed [] (runFrom streamStep (.opened 0 []) exampleFetch) :=
  stream_announced 0 [] List.nodup_nil exampleFetch

end Market
end Shamarx
