import Shamarx.Orchestrator.Sizing

/-!
# The shape of a fired signal

What a caller of `evaluate` may rely on: the order of stop, entry and targets
after rounding to the price tick, a split into whole hundredths that adds up, and
the bounded risk of the total lot.
-/

namespace Shamarx
namespace Orchestrator

open Foundation
open Engine

/-!
# Prices
-/

/-- `b` is at least as far as `a` in the direction of a trade. -/
def Ahead : Side -> ℚ -> ℚ -> Prop
  | .buy, a, b => a ≤ b
  | .sell, a, b => b ≤ a

def priceScale (symbol : Instrument) : ℚ :=
  10 ^ (getInstrumentConfig symbol).pricePrecision

def priceTick (symbol : Instrument) : ℚ :=
  1 / priceScale symbol

theorem priceScale_pos (symbol : Instrument) : 0 < priceScale symbol :=
  pow_pos (by norm_num) _

theorem Ahead.roundTo {side : Side} {a b scale : ℚ} (hscale : 0 < scale)
    (h : Ahead side a b) :
    Ahead side (Foundation.roundTo scale a) (Foundation.roundTo scale b) := by
  cases side with
  | buy =>
      exact roundTo_mono hscale h
  | sell =>
      exact roundTo_mono hscale h

theorem stop_ahead {setup : PendingSetup} {p : EntryPlan} (h : SlProtective setup p) :
    Ahead setup.direction p.slPrice p.entryPrice := by
  unfold SlProtective at h
  cases hdir : setup.direction with
  | buy =>
      rw [hdir] at h
      exact le_of_lt h
  | sell =>
      rw [hdir] at h
      exact le_of_lt h

theorem targetPrice_ahead (setup : PendingSetup) (p : EntryPlan) {r s : ℚ} (h : r ≤ s) :
    Ahead setup.direction (targetPrice setup p r) (targetPrice setup p s) := by
  have hdist := mul_le_mul_of_nonneg_left h (abs_nonneg (p.entryPrice - p.slPrice))
  unfold targetPrice EntryPlan.slPoints
  cases setup.direction with
  | buy =>
      exact add_le_add_right hdist _
  | sell =>
      exact sub_le_sub_left hdist _

theorem targetPrice_zero (setup : PendingSetup) (p : EntryPlan) :
    targetPrice setup p 0 = p.entryPrice := by
  unfold targetPrice
  cases setup.direction <;> simp

theorem rounded_stop_ne (symbol : Instrument) (p : EntryPlan)
    (h : priceTick symbol ≤ p.slPoints) :
    roundTo (priceScale symbol) p.slPrice ≠ roundTo (priceScale symbol) p.entryPrice := by
  unfold priceTick EntryPlan.slPoints at h
  rcases le_total p.slPrice p.entryPrice with hle | hle
  · rw [abs_of_nonneg (sub_nonneg.mpr hle)] at h
    exact (roundTo_lt_of_tick_le (priceScale_pos symbol) h).ne
  · rw [abs_of_nonpos (sub_nonpos.mpr hle), neg_sub] at h
    exact (roundTo_lt_of_tick_le (priceScale_pos symbol) h).ne'

/-!
# Legs
-/

def IsLot (lot : ℚ) : Prop :=
  exists n : Nat, 1 ≤ n ∧ lot = n / 100

theorem tp1LotOf_hundredths (cfg : SmcPairConfig) (n : Nat) :
    tp1LotOf cfg (n / 100) = (wholeUnits (n * cfg.tp1PartialFraction) : ℚ) / 100 := by
  have hpart : (n : ℚ) / 100 * cfg.tp1PartialFraction * 100 = n * cfg.tp1PartialFraction := by
    ring
  rw [tp1LotOf, RiskManager.floored_lot, hpart]

/-- At most seven tenths on the first leg leave at least one hundredth for the
runner, so neither floor adds to the total. -/
theorem ladder_split {cfg : SmcPairConfig} {n : Nat} (hn : 2 ≤ n)
    (hfrac : cfg.tp1PartialFraction ≤ 7 / 10) :
    exists a : Nat, (a : Int) = wholeUnits (n * cfg.tp1PartialFraction) ∧ 1 ≤ a ∧ a < n ∧
      tp1LotOf cfg (n / 100) = a / 100 ∧ runnerLotOf cfg (n / 100) = (n - a : Nat) / 100 := by
  have htp1 := tp1LotOf_hundredths cfg n
  have hround : roundHalfUp (n * cfg.tp1PartialFraction) < n := by
    have hcount : (2 : ℚ) ≤ n := by exact_mod_cast hn
    have hpart := mul_le_mul_of_nonneg_left hfrac (by linarith : (0 : ℚ) ≤ n)
    rw [roundHalfUp_lt_iff]
    push_cast
    linarith
  have hsplit : wholeUnits (n * cfg.tp1PartialFraction) < (n : Int) := max_lt (by omega) hround
  have hone := one_le_wholeUnits (n * cfg.tp1PartialFraction)
  generalize wholeUnits (n * cfg.tp1PartialFraction) = a at *
  lift a to Nat using by omega
  have han : a < n := by exact_mod_cast hsplit
  refine ⟨a, rfl, by exact_mod_cast hone, han, htp1, ?_⟩
  have hrest : ((n : ℚ) / 100 - tp1LotOf cfg (n / 100)) * 100 = ((n - a : Nat) : Int) := by
    rw [htp1]
    push_cast [Nat.cast_sub han.le]
    ring
  unfold runnerLotOf
  rw [RiskManager.floored_lot, hrest, wholeUnits_intCast (by omega), Int.cast_natCast]

/-!
# Signals
-/

/-- What a fired signal promises, with `p` the unrounded entry and stop. -/
structure SoundSignal (env : EngineEnv) (symbol : Instrument) (ctx : LiveContext)
    (p : EntryPlan) (signal : SmcLiveSignal) : Prop where
  stop_ahead : Ahead signal.side signal.slPrice signal.entryPrice
  targets_ahead : forall leg, leg ∈ signal.legs ->
    Ahead signal.side signal.entryPrice leg.tpPrice
  runner_ahead : forall tp1 runner, tp1 ∈ signal.legs -> runner ∈ signal.legs ->
    SetupTag.tp1 ∈ tp1.setupTags -> SetupTag.runner ∈ runner.setupTags ->
    Ahead signal.side tp1.tpPrice runner.tpPrice
  stop_ne : priceTick symbol ≤ p.slPoints -> signal.slPrice ≠ signal.entryPrice
  lots : forall leg, leg ∈ signal.legs -> IsLot leg.lotSize
  total : (signal.legs.map SmcLiveSignalLeg.lotSize).sum = signal.totalLot
  total_le : signal.totalLot ≤ 1
  risk_le : dollarRisk symbol p signal.totalLot ≤
    110 / 100 *
      max (1 / 2) (min 4 (9 / 10 * (sizingConfig env symbol ctx).riskPercent)) / 100 *
      ctx.accountEquity

/-- The target order of a pair, with a first leg of at most seven tenths. -/
structure LadderSane (cfg : SmcPairConfig) : Prop where
  tp1R_pos : 0 < cfg.tp1R
  tp1R_le : cfg.tp1R ≤ cfg.tp2R
  fraction_le : cfg.tp1PartialFraction ≤ 7 / 10
  plain : cfg.convictionSizing = none

inductive LegsOf (cfg : SmcPairConfig) (totalLot tp1Price tp2Price : ℚ) :
    List SmcLiveSignalLeg -> Prop where
  | single (leg : SmcLiveSignalLeg) (hfrac : ¬ 0 < cfg.tp1PartialFraction)
      (hlot : leg.lotSize = totalLot) (htp : leg.tpPrice = tp2Price)
      (htag : SetupTag.tp1 ∉ leg.setupTags) :
      LegsOf cfg totalLot tp1Price tp2Price [leg]
  | ladder (tp1 runner : SmcLiveSignalLeg) (hfrac : 0 < cfg.tp1PartialFraction)
      (htp1 : tp1.lotSize = tp1LotOf cfg totalLot ∧ tp1.tpPrice = tp1Price)
      (hrunner : runner.lotSize = runnerLotOf cfg totalLot ∧ runner.tpPrice = tp2Price)
      (htag : SetupTag.tp1 ∉ runner.setupTags) :
      LegsOf cfg totalLot tp1Price tp2Price [tp1, runner]

namespace LegsOf

theorem lots {cfg : SmcPairConfig} {n : Nat} {tp1Price tp2Price : ℚ}
    {legs : List SmcLiveSignalLeg} (h : LegsOf cfg (n / 100) tp1Price tp2Price legs)
    (hcfg : LadderSane cfg) (hone : 1 ≤ n) (htwo : 0 < cfg.tp1PartialFraction -> 2 ≤ n) :
    (forall leg, leg ∈ legs -> IsLot leg.lotSize) ∧
      (legs.map SmcLiveSignalLeg.lotSize).sum = n / 100 := by
  cases h with
  | single leg hfrac hlot htp htag =>
      constructor
      · intro only honly
        rw [List.mem_singleton] at honly
        exact ⟨n, hone, honly ▸ hlot⟩
      · simpa using hlot
  | ladder tp1 runner hfrac htp1 hrunner htag =>
      rcases ladder_split (htwo hfrac) hcfg.fraction_le with ⟨a, -, ha, han, hsplit, hrest⟩
      rw [hsplit] at htp1
      rw [hrest] at hrunner
      constructor
      · intro leg hleg
        rcases List.mem_pair.mp hleg with rfl | rfl
        · exact ⟨a, ha, htp1.1⟩
        · exact ⟨n - a, by omega, hrunner.1⟩
      · simp only [List.map_cons, List.map_nil, List.sum_cons, List.sum_nil, htp1.1, hrunner.1]
        rw [Nat.cast_sub han.le]
        ring

theorem target {cfg : SmcPairConfig} {totalLot tp1Price tp2Price : ℚ}
    {legs : List SmcLiveSignalLeg} (h : LegsOf cfg totalLot tp1Price tp2Price legs)
    {leg : SmcLiveSignalLeg} (hleg : leg ∈ legs) :
    leg.tpPrice = tp1Price ∨ leg.tpPrice = tp2Price := by
  cases h with
  | single only hfrac hlot htp htag =>
      rw [List.mem_singleton] at hleg
      exact Or.inr (hleg ▸ htp)
  | ladder tp1 runner hfrac htp1 hrunner htag =>
      rcases List.mem_pair.mp hleg with rfl | rfl
      · exact Or.inl htp1.2
      · exact Or.inr hrunner.2

theorem tp1_target {cfg : SmcPairConfig} {totalLot tp1Price tp2Price : ℚ}
    {legs : List SmcLiveSignalLeg} (h : LegsOf cfg totalLot tp1Price tp2Price legs)
    {leg : SmcLiveSignalLeg} (hleg : leg ∈ legs) (htp1 : SetupTag.tp1 ∈ leg.setupTags) :
    leg.tpPrice = tp1Price := by
  cases h with
  | single only hfrac hlot htp htag =>
      rw [List.mem_singleton] at hleg
      exact absurd (hleg ▸ htp1) htag
  | ladder tp1 runner hfrac hfirst hrunner htag =>
      rcases List.mem_pair.mp hleg with rfl | rfl
      · exact hfirst.2
      · exact absurd htp1 htag

theorem ladder_lots {cfg : SmcPairConfig} {totalLot tp1Price tp2Price : ℚ}
    {legs : List SmcLiveSignalLeg} (h : LegsOf cfg totalLot tp1Price tp2Price legs)
    (hladder : 0 < cfg.tp1PartialFraction) :
    legs.map SmcLiveSignalLeg.lotSize = [tp1LotOf cfg totalLot, runnerLotOf cfg totalLot] := by
  cases h with
  | single only hfrac hlot htp htag =>
      exact absurd hladder hfrac
  | ladder tp1 runner hfrac htp1 hrunner htag =>
      rw [List.map_cons, List.map_singleton, htp1.1, hrunner.1]

end LegsOf

theorem buildSignal_legs (symbol : Instrument) (cfg : SmcPairConfig) (f : Frame)
    (setup : PendingSetup) (p : EntryPlan) (gates : GateZones) (totalLot : ℚ) :
    LegsOf cfg totalLot (roundTo (priceScale symbol) (targetPrice setup p cfg.tp1R))
      (roundTo (priceScale symbol) (targetPrice setup p cfg.tp2R))
      (buildSignal symbol cfg f setup p gates totalLot).legs := by
  unfold buildSignal
  dsimp only
  split_ifs with hladder
  · exact .ladder _ _ (of_decide_eq_true hladder) ⟨rfl, rfl⟩ ⟨rfl, rfl⟩ (by simp)
  · exact .single _ (fun hfrac => hladder (decide_eq_true hfrac)) rfl rfl (by simp)

theorem judge_fire_legs {env : EngineEnv} {symbol : Instrument} {cfg : SmcPairConfig}
    {f : Frame} {ctx : LiveContext} {actioned : List Int} {setup : PendingSetup}
    {signal : SmcLiveSignal} (h : judge env symbol cfg f ctx actioned setup = .fire signal) :
    exists tp1Price tp2Price, LegsOf cfg signal.totalLot tp1Price tp2Price signal.legs := by
  rcases (judge_fired h).built with ⟨gates, rfl⟩
  exact ⟨_, _, buildSignal_legs symbol cfg f setup _ gates _⟩

theorem judge_fire_hundredths {env : EngineEnv} {symbol : Instrument} {cfg : SmcPairConfig}
    {f : Frame} {ctx : LiveContext} {actioned : List Int} {setup : PendingSetup}
    {signal : SmcLiveSignal} (hplain : cfg.convictionSizing = none)
    (h : judge env symbol cfg f ctx actioned setup = .fire signal) :
    exists n : Nat, 1 ≤ n ∧ n ≤ 100 ∧ (0 < cfg.tp1PartialFraction -> 2 ≤ n) ∧
      signal.totalLot = n / 100 := by
  rcases judge_fire h with ⟨hsl, hlot, hbig⟩
  have hbase : signal.totalLot = baseLot env symbol ctx (planEntry symbol cfg f setup) := by
    rw [hlot, totalLotOf, convictionLot, hplain]
  have hne := ne_zero_of_not_lotTooSmall hbig
  rw [hbase] at hne
  rcases RiskManager.calculateLotSize_hundredths _ _ _ _ _ _ hne with ⟨n, hone, hhundred, hn⟩
  have htotal : signal.totalLot = n / 100 := hbase.trans hn
  refine ⟨n, hone, hhundred, ?_, htotal⟩
  intro hfrac
  unfold LotTooSmall at hbig
  have hladder : usesLadder cfg = true := decide_eq_true hfrac
  rw [htotal, if_pos hladder] at hbig
  have htwo : (2 : ℚ) ≤ n := by linarith
  exact_mod_cast htwo

theorem judge_fire_sound {env : EngineEnv} {symbol : Instrument} {cfg : SmcPairConfig}
    {f : Frame} {ctx : LiveContext} {actioned : List Int} {setup : PendingSetup}
    {signal : SmcLiveSignal} (hcfg : LadderSane cfg) (hequity : 0 ≤ ctx.accountEquity)
    (h : judge env symbol cfg f ctx actioned setup = .fire signal) :
    SoundSignal env symbol ctx (planEntry symbol cfg f setup) signal := by
  have hrisk := judge_fire_risk_le hcfg.plain hequity h
  have htotal := (judge_fire h).2.1
  rcases judge_fire_hundredths hcfg.plain h with ⟨n, hone, hhundred, htwo, hn⟩
  have hprot := (judge_fired h).protective
  rcases (judge_fired h).built with ⟨gates, rfl⟩
  generalize planEntry symbol cfg f setup = p at *
  generalize totalLotOf env symbol cfg ctx setup p = totalLot at *
  have hscale := priceScale_pos symbol
  have hlegs := buildSignal_legs symbol cfg f setup p gates totalLot
  change totalLot = n / 100 at hn
  subst hn
  have hentry : forall r, 0 ≤ r -> Ahead setup.direction (roundTo (priceScale symbol) p.entryPrice)
      (roundTo (priceScale symbol) (targetPrice setup p r)) := by
    intro r hr
    have hahead := targetPrice_ahead setup p hr
    rw [targetPrice_zero] at hahead
    exact hahead.roundTo hscale
  have htp1 := hcfg.tp1R_pos.le
  constructor
  case stop_ahead =>
    exact (Orchestrator.stop_ahead hprot).roundTo hscale
  case targets_ahead =>
    intro leg hleg
    rcases hlegs.target hleg with htp | htp
    · rw [htp]
      exact hentry _ htp1
    · rw [htp]
      exact hentry _ (htp1.trans hcfg.tp1R_le)
  case runner_ahead =>
    intro tp1 runner htp1Leg hrunner htag _
    rw [hlegs.tp1_target htp1Leg htag]
    rcases hlegs.target hrunner with htp | htp
    · rw [htp]
      exact (targetPrice_ahead setup p (le_refl _)).roundTo hscale
    · rw [htp]
      exact (targetPrice_ahead setup p hcfg.tp1R_le).roundTo hscale
  case stop_ne =>
    exact rounded_stop_ne symbol p
  case lots =>
    exact (hlegs.lots hcfg hone htwo).1
  case total =>
    exact (hlegs.lots hcfg hone htwo).2
  case total_le =>
    change (n : ℚ) / 100 ≤ 1
    rw [div_le_one (by norm_num)]
    exact_mod_cast hhundred
  case risk_le =>
    exact hrisk

/-- A returned signal is sound against the entry and stop it was fired from. -/
theorem evaluate_signal_sound (env : EngineEnv) (o : LiveSmcOrchestrator)
    (symbol : Instrument) (b : CandleBundle) (ctx : LiveContext)
    (precomputed : Option PrecomputedIndicators) (cursor : Option (Cursor b))
    (cfg : SmcPairConfig) (signal : SmcLiveSignal)
    (hpair : getSmcPairConfig env.overrides symbol = some cfg) (hcfg : LadderSane cfg)
    (hequity : 0 < ctx.accountEquity)
    (h : (evaluate env o symbol b ctx precomputed cursor).2 = .ok (some signal)) :
    (exists p, FiredFrom env o symbol b ctx precomputed cursor signal p) ∧
      forall p, FiredFrom env o symbol b ctx precomputed cursor signal p ->
        SoundSignal env symbol ctx p signal := by
  refine ⟨evaluate_fired h, ?_⟩
  rintro p ⟨fired, lastM15, setup, hfired, hlast, hfire, rfl⟩
  rw [hpair] at hfired
  cases hfired
  exact judge_fire_sound hcfg hequity.le hfire

theorem xauusdSmcConfig_sane : LadderSane xauusdSmcConfig where
  tp1R_pos := by decide +kernel
  tp1R_le := by decide +kernel
  fraction_le := by decide +kernel
  plain := rfl

def goldFirstCall : Except EngineError (Option SmcLiveSignal) :=
  (evaluate documentedEnv (LiveSmcOrchestrator.create standardRiskCfg) .XAUUSD goldBundle
    goldContext none none).2

def returnsSignal : Except EngineError (Option SmcLiveSignal) -> Bool
  | .ok (some _) => true
  | _ => false

set_option maxRecDepth 20000 in
/-- The gold setup fires, and its signal is sound. -/
theorem gold_signal_sound :
    exists signal, goldFirstCall = .ok (some signal) ∧
      (exists p, FiredFrom documentedEnv (LiveSmcOrchestrator.create standardRiskCfg) .XAUUSD
        goldBundle goldContext none none signal p) ∧
      forall p, FiredFrom documentedEnv (LiveSmcOrchestrator.create standardRiskCfg) .XAUUSD
          goldBundle goldContext none none signal p ->
        SoundSignal documentedEnv .XAUUSD goldContext p signal := by
  have hfires : returnsSignal goldFirstCall = true := by decide +kernel
  unfold returnsSignal at hfires
  split at hfires
  · next signal hcall =>
      exact ⟨signal, hcall, evaluate_signal_sound documentedEnv _ .XAUUSD goldBundle goldContext
        none none xauusdSmcConfig signal rfl xauusdSmcConfig_sane (by norm_num [goldContext])
        hcall⟩
  · cases hfires

end Orchestrator
end Shamarx
