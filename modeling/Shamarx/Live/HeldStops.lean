import Shamarx.Live.PositionManager

/-!
# Stops held at the broker

A pass starts from the stop that the broker reports, which may have been tightened by
hand.  The trail never gives it up; break-even sets its own stop without looking.
-/

namespace Shamarx
namespace Live

open Engine
open Broker

structure HeldTrade where
  ticket : Nat
  trade : ManagedTrade

def sentRequest (symbol : Instrument) (ticket : Nat) (trade : ManagedTrade)
    (broker : BrokerPosition) (candle : BacktestCandle) : Option ModifyRequest :=
  let pos := managedPosition trade broker
  let updated := updatedPosition symbol trade broker candle
  if updated = pos then none
  else if NeedsModify symbol pos updated then some (modifyRequest ticket updated)
  else none

/-- What `manageSymbol` and `manageSymbolForAccount` send, each for the open trades that
they have read; a trade that the broker does not list is left out. -/
def manageSymbol (symbol : Instrument) (byTicket : Nat -> Option BrokerPosition)
    (candle : BacktestCandle) (trades : List HeldTrade) : List (HeldTrade × ModifyRequest) :=
  trades.filterMap fun open_ =>
    (byTicket open_.ticket).bind fun broker =>
      (sentRequest symbol open_.ticket open_.trade broker candle).map fun r => (open_, r)

def HoldsStop (side : Side) (current new : ℚ) : Prop :=
  0 < current -> side.AtLeast new current

instance (side : Side) (current new : ℚ) : Decidable (HoldsStop side current new) :=
  inferInstanceAs (Decidable (_ -> _))

/-- No modification of the pass carries a stop less protective than the broker's. -/
def NeverLoosens (symbol : Instrument) (byTicket : Nat -> Option BrokerPosition)
    (candle : BacktestCandle) (trades : List HeldTrade) : Prop :=
  forall open_ r, (open_, r) ∈ manageSymbol symbol byTicket candle trades ->
    forall broker, byTicket open_.ticket = some broker ->
      HoldsStop open_.trade.side broker.sl r.slPrice

def activationStop (pos : ManagedPosition) (peak : ℚ) : ℚ :=
  pos.side.best (pos.trailStop peak) pos.breakevenStop

/-- The candle activates break-even while the broker has a better stop than break-even
and the trail give, by enough to be sent or with a target to remove. -/
def OverwritesBetterStop (symbol : Instrument) (trade : ManagedTrade) (broker : BrokerPosition)
    (candle : BacktestCandle) : Prop :=
  let pos := managedPosition trade broker
  let peak := pos.updatedPeak candle (getSpread symbol candle.openTime)
  pos.Activates peak ∧ 0 < broker.sl ∧
    pos.side.Beyond broker.sl (activationStop pos peak) ∧
      (minSlChangeAbs symbol ≤ pos.side.gain broker.sl (activationStop pos peak) ∨
        pos.RemovesTp peak)

instance (symbol : Instrument) (trade : ManagedTrade) (broker : BrokerPosition)
    (candle : BacktestCandle) : Decidable (OverwritesBetterStop symbol trade broker candle) :=
  inferInstanceAs (Decidable (_ ∧ _ ∧ _ ∧ _))

/-!
# One trade
-/

section Trade

variable {symbol : Instrument} {trade : ManagedTrade} {broker : BrokerPosition}
  {candle : BacktestCandle} (ticket : Nat)

theorem managedPosition_slPrice (h : 0 < broker.sl) :
    (managedPosition trade broker).slPrice = broker.sl := if_pos h

theorem updatedPosition_atLeast
    (hnot : ¬ (managedPosition trade broker).Activates
      ((managedPosition trade broker).updatedPeak candle (getSpread symbol candle.openTime))) :
    trade.side.AtLeast (updatedPosition symbol trade broker candle).slPrice
      (managedPosition trade broker).slPrice := by
  unfold updatedPosition
  cases hbe : (managedPosition trade broker).breakevenActivated with
  | false =>
      rw [ManagedPosition.update_waiting rfl hbe hnot]
      exact Side.atLeast_refl _ _
  | true =>
      rw [ManagedPosition.update_active rfl (Or.inl hbe)]
      dsimp only
      rw [if_neg hnot]
      exact Side.best_right _ _ _

theorem updatedPosition_of_activates {pos : ManagedPosition} {peak : ℚ}
    (hpos : pos = managedPosition trade broker)
    (hpeak : peak = pos.updatedPeak candle (getSpread symbol candle.openTime))
    (hnow : pos.Activates peak) :
    updatedPosition symbol trade broker candle =
      { pos with
        peakFavorablePrice := peak
        breakevenActivated := true
        tpPrice := if pos.RemovesTp peak then none else pos.tpPrice
        slPrice := activationStop pos peak } := by
  subst hpos hpeak
  unfold updatedPosition
  rw [ManagedPosition.update_active rfl (Or.inr hnow), if_pos hnow]
  rfl

theorem needsModify_of_activates {pos : ManagedPosition} {peak : ℚ}
    (hpos : pos = managedPosition trade broker)
    (hpeak : peak = pos.updatedPeak candle (getSpread symbol candle.openTime))
    (hnow : pos.Activates peak) :
    NeedsModify symbol pos (updatedPosition symbol trade broker candle) ↔
      minSlChangeAbs symbol ≤ |activationStop pos peak - pos.slPrice| ∨ pos.RemovesTp peak := by
  have hsome : pos.tpPrice.isSome = true := by
    rw [hpos]
    rfl
  rw [updatedPosition_of_activates hpos hpeak hnow]
  unfold NeedsModify SlChanged TpRemoved TpChanged
  cases htp : pos.tpPrice with
  | none =>
      rw [htp] at hsome
      cases hsome
  | some tp =>
      by_cases hremoves : pos.RemovesTp peak
      · simp [hremoves]
      · simp [hremoves, minSlChangeAbs_pos]

theorem sentRequest_of_activates {pos : ManagedPosition} {peak : ℚ}
    (hpos : pos = managedPosition trade broker)
    (hpeak : peak = pos.updatedPeak candle (getSpread symbol candle.openTime))
    (hnow : pos.Activates peak) :
    (sentRequest symbol ticket trade broker candle).map ModifyRequest.slPrice =
      if minSlChangeAbs symbol ≤ |activationStop pos peak - pos.slPrice| ∨ pos.RemovesTp peak then
        some (activationStop pos peak)
      else none := by
  have hupdated := updatedPosition_of_activates hpos hpeak hnow
  have hne : updatedPosition symbol trade broker candle ≠ pos := by
    intro hsame
    have hbe := congrArg ManagedPosition.breakevenActivated hsame
    rw [hupdated, hnow.1] at hbe
    cases hbe
  have hneeds := needsModify_of_activates hpos hpeak hnow
  unfold sentRequest
  rw [<- hpos]
  dsimp only
  rw [if_neg hne]
  by_cases hsent : NeedsModify symbol pos (updatedPosition symbol trade broker candle)
  · rw [if_pos hsent, if_pos (hneeds.mp hsent), hupdated]
    rfl
  · rw [if_neg hsent, if_neg (fun h => hsent (hneeds.mpr h))]
    rfl

theorem sentRequest_slPrice {r : ModifyRequest}
    (h : sentRequest symbol ticket trade broker candle = some r) :
    r.slPrice = (updatedPosition symbol trade broker candle).slPrice := by
  unfold sentRequest at h
  dsimp only at h
  split_ifs at h
  rw [<- Option.some.inj h]
  rfl

theorem abs_sub_of_beyond {side : Side} {a b : ℚ} (h : side.Beyond a b) :
    |b - a| = side.gain a b := by
  cases side with
  | buy =>
      have hlt : b < a := h
      rw [abs_sub_comm, abs_of_pos (sub_pos.mpr hlt)]
      rfl
  | sell =>
      have hlt : a < b := h
      rw [abs_of_pos (sub_pos.mpr hlt)]
      rfl

theorem holdsStop_iff_of_activates
    (hnow : (managedPosition trade broker).Activates
      ((managedPosition trade broker).updatedPeak candle (getSpread symbol candle.openTime))) :
    (forall r, sentRequest symbol ticket trade broker candle = some r ->
      HoldsStop trade.side broker.sl r.slPrice) ↔
      ¬ OverwritesBetterStop symbol trade broker candle := by
  have hsent := sentRequest_of_activates ticket rfl rfl hnow
  have hside : (managedPosition trade broker).side = trade.side := rfl
  unfold OverwritesBetterStop
  dsimp only
  generalize (managedPosition trade broker).updatedPeak candle
    (getSpread symbol candle.openTime) = peak at hsent hnow ⊢
  constructor
  · intro hholds hover
    rcases hover with ⟨-, hsl, hbeyond, hlarge⟩
    rw [managedPosition_slPrice hsl, abs_sub_of_beyond hbeyond, if_pos hlarge] at hsent
    rcases Option.map_eq_some_iff.mp hsent with ⟨r, hr, hstop⟩
    have hkept := hholds r hr hsl
    rw [hstop, <- hside] at hkept
    exact Side.not_beyond.mpr hkept hbeyond
  · intro hover r hr hsl
    rw [hr, managedPosition_slPrice hsl, Option.map_some] at hsent
    split_ifs at hsent with hlarge
    rw [Option.some.inj hsent, <- hside]
    by_contra hloose
    have hbeyond : (managedPosition trade broker).side.Beyond broker.sl
        (activationStop (managedPosition trade broker) peak) := by
      by_contra hnot
      exact hloose (Side.not_beyond.mp hnot)
    rw [abs_sub_of_beyond hbeyond] at hlarge
    exact hover ⟨hnow, hsl, hbeyond, hlarge⟩

theorem holdsStop_iff :
    (forall r, sentRequest symbol ticket trade broker candle = some r ->
      HoldsStop trade.side broker.sl r.slPrice) ↔
      ¬ OverwritesBetterStop symbol trade broker candle := by
  by_cases hnow : (managedPosition trade broker).Activates
    ((managedPosition trade broker).updatedPeak candle (getSpread symbol candle.openTime))
  · exact holdsStop_iff_of_activates ticket hnow
  · constructor
    · intro _ hover
      exact hnow hover.1
    · intro _ r hr hsl
      have hkept := updatedPosition_atLeast hnow
      rw [managedPosition_slPrice hsl] at hkept
      rw [sentRequest_slPrice ticket hr]
      exact hkept

end Trade

theorem mem_manageSymbol {symbol : Instrument} {byTicket : Nat -> Option BrokerPosition}
    {candle : BacktestCandle} {trades : List HeldTrade} {open_ : HeldTrade} {r : ModifyRequest} :
    (open_, r) ∈ manageSymbol symbol byTicket candle trades ↔
      open_ ∈ trades ∧ exists broker, byTicket open_.ticket = some broker ∧
        sentRequest symbol open_.ticket open_.trade broker candle = some r := by
  constructor
  · intro h
    rcases List.mem_filterMap.mp h with ⟨other, hother, hr⟩
    rcases Option.bind_eq_some_iff.mp hr with ⟨broker, hbroker, hmap⟩
    rcases Option.map_eq_some_iff.mp hmap with ⟨request, hrequest, hpair⟩
    cases hpair
    exact ⟨hother, broker, hbroker, hrequest⟩
  · intro hsent
    rcases hsent with ⟨hopen, broker, hbroker, hr⟩
    refine List.mem_filterMap.mpr ⟨open_, hopen, ?_⟩
    rw [hbroker, Option.bind_some, hr]
    rfl

/-- A pass never loosens a stop at the broker exactly when it activates break-even on no
trade whose stop at the broker is already better. -/
theorem never_loosens_iff (symbol : Instrument) (byTicket : Nat -> Option BrokerPosition)
    (candle : BacktestCandle) (trades : List HeldTrade) :
    NeverLoosens symbol byTicket candle trades ↔
      forall open_, open_ ∈ trades -> forall broker, byTicket open_.ticket = some broker ->
        ¬ OverwritesBetterStop symbol open_.trade broker candle := by
  constructor
  · intro hnever open_ hopen broker hbroker
    apply (holdsStop_iff open_.ticket).mp
    intro r hr
    exact hnever open_ r (mem_manageSymbol.mpr ⟨hopen, broker, hbroker, hr⟩) broker hbroker
  · intro hsafe open_ r hsent broker hbroker
    rcases mem_manageSymbol.mp hsent with ⟨hopen, listed, hlisted, hr⟩
    rw [hbroker] at hlisted
    cases hlisted
    exact (holdsStop_iff open_.ticket).mpr (hsafe open_ hopen broker hbroker) r hr

/-!
# A stop tightened by hand
-/

/-- The gold position of a first target, its stop moved by hand above the entry. -/
def handTightened : BrokerPosition :=
  { goldPosition with sl := 2003 }

/-- The rally of the gold trade activates break-even of the first target, and the
modification puts the stop back by two dollars. -/
theorem hand_tightened_stop_loosened :
    ¬ NeverLoosens .XAUUSD (fun _ => some handTightened) { goldRally with high := 2008 }
      [{ ticket := 1, trade := managedGold .tp1 }] := by
  intro h
  have hsafe := (holdsStop_iff 1).mp fun r hr =>
    h { ticket := 1, trade := managedGold .tp1 } r
      (mem_manageSymbol.mpr ⟨List.mem_cons_self, handTightened, rfl, hr⟩) handTightened rfl
  exact hsafe (by decide +kernel)

end Live
end Shamarx
