import OxideArb.Risk.Context
import OxideArb.Types.Rounding

/-!
# Position sizing

The bet is the smallest of a list of limits; the caps of the control factors scale the smallest
of the others. `size_betUsd` writes it as one expression.
-/

namespace OxideArb.Risk

open ControlFactor (FactorDecisionContext clampUnit clampUnit_nonneg clampUnit_le_one)

/-! ## The Kelly amount -/

structure QuarterKellyCalculator where
  kellyFraction : Decimal
  minEdgeBps : Decimal
  maxKellyFraction : Decimal
  minProbabilityConfidence : Decimal
  minCalibrationSamples : Nat
  maxProbabilityStalenessSecs : Nat
deriving DecidableEq, Repr

structure KellyResult where
  betUsd : Usd
  kellyRaw : Decimal
  kellyFractional : Decimal
  edgeBps : Decimal
  effectiveWinProb : Decimal
  netOdds : Decimal
  bindingReason : String
deriving DecidableEq, Repr

def KellyResult.zero (bindingReason : String) : KellyResult := ⟨0, 0, 0, 0, 0, 0, bindingReason⟩

namespace QuarterKellyCalculator

def effectiveP (kelly : QuarterKellyCalculator) (prob : ProbabilityInput) : Decimal :=
  prob.calibratedWinProb * prob.fillProb * prob.calibrationConfidence *
    max (1 - (prob.modelStalenessSecs : Decimal) / kelly.maxProbabilityStalenessSecs) 0

def calculate (kelly : QuarterKellyCalculator) (prob : ProbabilityInput) (entryPrice : Decimal)
    (bankroll : Usd) : KellyResult :=
  if entryPrice ≤ 0 ∨ 1 ≤ entryPrice ∨ bankroll ≤ 0 then .zero "invalid_input"
  else if prob.calibrationConfidence < kelly.minProbabilityConfidence then .zero "low_confidence"
  else if prob.sampleSize < kelly.minCalibrationSamples then .zero "insufficient_samples"
  else if kelly.maxProbabilityStalenessSecs < prob.modelStalenessSecs then .zero "stale_model"
  else
    let effectiveP := kelly.effectiveP prob
    let grossOdds := (1 - entryPrice) / entryPrice
    let netOdds := grossOdds - prob.expectedSlippagePct - prob.expectedFailureCostPct
    if netOdds ≤ 0 then
      { KellyResult.zero "negative_odds_after_costs" with effectiveWinProb := effectiveP, netOdds }
    else
      let edgeBps := (effectiveP - entryPrice) / entryPrice * 10000
      if edgeBps < kelly.minEdgeBps then
        { KellyResult.zero "below_min_edge" with edgeBps, effectiveWinProb := effectiveP, netOdds }
      else
        let kellyRaw := max ((effectiveP * netOdds - (1 - effectiveP)) / netOdds) 0
        let kellyFractional := min (kellyRaw * kelly.kellyFraction) kelly.maxKellyFraction
        { betUsd := roundDp (bankroll * kellyFractional) 2, kellyRaw, kellyFractional, edgeBps
          effectiveWinProb := effectiveP, netOdds, bindingReason := "kelly" }

variable {kelly : QuarterKellyCalculator} {prob : ProbabilityInput} {entryPrice : Decimal}
  {bankroll : Usd}

def netOdds (prob : ProbabilityInput) (entryPrice : Decimal) : Decimal :=
  (1 - entryPrice) / entryPrice - prob.expectedSlippagePct - prob.expectedFailureCostPct

/-- The input passes all guards of `calculate`. -/
structure Bets (kelly : QuarterKellyCalculator) (prob : ProbabilityInput) (entryPrice : Decimal)
    (bankroll : Usd) : Prop where
  price : 0 < entryPrice ∧ entryPrice < 1
  bankroll : 0 < bankroll
  confidence : kelly.minProbabilityConfidence ≤ prob.calibrationConfidence
  samples : kelly.minCalibrationSamples ≤ prob.sampleSize
  staleness : prob.modelStalenessSecs ≤ kelly.maxProbabilityStalenessSecs
  odds : 0 < netOdds prob entryPrice
  edge : kelly.minEdgeBps ≤ (kelly.effectiveP prob - entryPrice) / entryPrice * 10000

def fractional (kelly : QuarterKellyCalculator) (p odds : Decimal) : Decimal :=
  min (max ((p * odds - (1 - p)) / odds) 0 * kelly.kellyFraction) kelly.maxKellyFraction

theorem calculate_of_bets (h : kelly.Bets prob entryPrice bankroll) :
    (kelly.calculate prob entryPrice bankroll).betUsd =
      roundDp (bankroll * kelly.fractional (kelly.effectiveP prob) (netOdds prob entryPrice)) 2 := by
  have hodds := h.odds
  unfold netOdds at hodds
  unfold calculate
  rw [if_neg (by simp [h.price, h.bankroll]), if_neg (not_lt.mpr h.confidence),
    if_neg (not_lt.mpr h.samples), if_neg (not_lt.mpr h.staleness)]
  dsimp only
  rw [if_neg (not_le.mpr hodds), if_neg (not_lt.mpr h.edge)]
  rfl

theorem calculate_of_not_bets (h : ¬ kelly.Bets prob entryPrice bankroll) :
    (kelly.calculate prob entryPrice bankroll).betUsd = 0 := by
  by_contra hbet
  refine h ?_
  unfold calculate KellyResult.zero at hbet
  dsimp only at hbet
  split_ifs at hbet with hinput hconfidence hsamples hstaleness hodds hedge <;>
    first | exact absurd rfl hbet | skip
  simp only [not_or, not_le] at hinput
  exact ⟨⟨hinput.1, hinput.2.1⟩, hinput.2.2, not_lt.mp hconfidence, not_lt.mp hsamples,
    not_lt.mp hstaleness, not_le.mp hodds, not_lt.mp hedge⟩

theorem fractional_mono {p q odds : Decimal} (hk : 0 ≤ kelly.kellyFraction) (hodds : 0 < odds)
    (h : p ≤ q) : kelly.fractional p odds ≤ kelly.fractional q odds := by
  have hraw : (p * odds - (1 - p)) / odds ≤ (q * odds - (1 - q)) / odds := by
    rw [div_le_div_iff_of_pos_right hodds]
    have hmul := mul_le_mul_of_nonneg_right h hodds.le
    linarith
  exact min_le_min (mul_le_mul_of_nonneg_right (max_le_max hraw le_rfl) hk) le_rfl

/-- **The Kelly amount grows with the effective win probability.** A negative fraction admits
no bet at all. -/
theorem calculate_mono {win fill : Decimal}
    (hp : kelly.effectiveP { prob with calibratedWinProb := win, fillProb := fill } ≤
      kelly.effectiveP prob) :
    max (kelly.calculate { prob with calibratedWinProb := win, fillProb := fill } entryPrice
        bankroll).betUsd 0 ≤
      max (kelly.calculate prob entryPrice bankroll).betUsd 0 := by
  by_cases hbets : kelly.Bets { prob with calibratedWinProb := win, fillProb := fill } entryPrice
      bankroll
  · have hprice := hbets.price.1
    have hbets' : kelly.Bets prob entryPrice bankroll :=
      { hbets with edge := hbets.edge.trans (by gcongr) }
    rw [calculate_of_bets hbets, calculate_of_bets hbets']
    rcases le_or_gt 0 kelly.kellyFraction with hk | hk
    · refine max_le_max (roundDp_mono 2 ?_) le_rfl
      exact mul_le_mul_of_nonneg_left (fractional_mono hk hbets.odds hp) hbets.bankroll.le
    · have hnone : ∀ p odds : Decimal, roundDp (bankroll * kelly.fractional p odds) 2 ≤ 0 := by
        intro p odds
        have hshare : kelly.fractional p odds ≤ 0 := (min_le_left _ _).trans
          (mul_nonpos_of_nonneg_of_nonpos (le_max_right _ _) hk.le)
        simpa using roundDp_mono 2 (mul_nonpos_of_nonneg_of_nonpos hbets.bankroll.le hshare)
      exact max_le ((hnone _ _).trans (le_max_right _ _)) (le_max_right _ _)
  · rw [calculate_of_not_bets hbets]
    exact max_le (le_max_right _ _) (le_max_right _ _)

end QuarterKellyCalculator

/-! ## The limits -/

structure SizeConstraint where
  name : String
  maxUsd : Usd
deriving DecidableEq, Repr

variable (minTradeUsd : Decimal) (context : Option FactorDecisionContext) (first : SizeConstraint)

def tightest (rest : List SizeConstraint) : SizeConstraint :=
  rest.foldl (fun best c => if c.maxUsd < best.maxUsd then c else best) first

theorem tightest_cons (c : SizeConstraint) (rest : List SizeConstraint) :
    tightest first (c :: rest) = tightest (if c.maxUsd < first.maxUsd then c else first) rest :=
  rfl

theorem tightest_append (rest more : List SizeConstraint) :
    tightest first (rest ++ more) = tightest (tightest first rest) more :=
  List.foldl_append

theorem tightest_mem (rest : List SizeConstraint) : tightest first rest ∈ first :: rest := by
  induction rest generalizing first with
  | nil => exact List.mem_singleton.mpr rfl
  | cons c rest ih =>
    rw [tightest_cons]
    split
    · exact List.mem_cons_of_mem _ (ih c)
    · rcases List.mem_cons.mp (ih first) with heq | hmem
      · exact List.mem_cons.mpr (.inl heq)
      · exact List.mem_cons_of_mem _ (List.mem_cons_of_mem _ hmem)

theorem tightest_maxUsd (rest : List SizeConstraint) :
    (tightest first rest).maxUsd = rest.foldl (fun least c => min least c.maxUsd) first.maxUsd := by
  induction rest generalizing first with
  | nil => rfl
  | cons c rest ih =>
    rw [tightest_cons, ih, List.foldl_cons]
    congr 1
    split
    · rename_i hlt
      exact (min_eq_right hlt.le).symm
    · rename_i hge
      exact (min_eq_left (not_lt.mp hge)).symm

theorem foldl_min_le (least : Decimal) (rest : List SizeConstraint) :
    rest.foldl (fun least c => min least c.maxUsd) least ≤ least := by
  induction rest generalizing least with
  | nil => exact le_rfl
  | cons c rest ih => exact (ih _).trans (min_le_left _ _)

theorem tightest_le {first c : SizeConstraint} {rest : List SizeConstraint}
    (h : c ∈ first :: rest) : (tightest first rest).maxUsd ≤ c.maxUsd := by
  rw [tightest_maxUsd]
  induction rest generalizing first with
  | nil =>
    rw [List.mem_singleton.mp h]
    exact le_rfl
  | cons d rest ih =>
    rcases List.mem_cons.mp h with rfl | hmem
    · exact (foldl_min_le _ rest).trans (min_le_left _ _)
    · rcases List.mem_cons.mp hmem with rfl | hrest
      · exact (foldl_min_le _ rest).trans (min_le_right _ _)
      · exact @ih ⟨"", min first.maxUsd d.maxUsd⟩ (List.mem_cons_of_mem _ hrest)

/-! ## Caps of the control factors -/

def factorMultipliers (context : FactorDecisionContext) : List (String × Decimal) :=
  [("factor_bucket_size_cap", context.bucketSizeMultiplier),
    ("factor_portfolio_size_cap", context.portfolioRisk.globalSizeMultiplier *
      context.portfolioRisk.categorySizeMultiplier.getD 1),
    ("factor_reconciliation_size_cap", context.reconciliationHealth.sizeMultiplier)].filter
      (·.2 < 1)

/-- `push_factor_constraints`: each tightening multiplier caps the base size. -/
def factorConstraints (base : Usd) : List SizeConstraint :=
  (context.elim [] factorMultipliers).map fun m => ⟨m.1, max (base * clampUnit m.2) 0⟩

def factorShare : Decimal :=
  (context.elim [] factorMultipliers).foldl (fun share m => min share (clampUnit m.2)) 1

theorem foldl_min_clampUnit_mem (multipliers : List (String × Decimal)) {share : Decimal}
    (h0 : 0 ≤ share) :
    0 ≤ multipliers.foldl (fun share m => min share (clampUnit m.2)) share ∧
      multipliers.foldl (fun share m => min share (clampUnit m.2)) share ≤ share := by
  induction multipliers generalizing share with
  | nil => exact ⟨h0, le_rfl⟩
  | cons m multipliers ih =>
    obtain ⟨hlow, hhigh⟩ := ih (le_min h0 (clampUnit_nonneg m.2))
    exact ⟨hlow, hhigh.trans (min_le_left _ _)⟩

theorem factorShare_nonneg : 0 ≤ factorShare context :=
  (foldl_min_clampUnit_mem _ zero_le_one).1

theorem factorShare_le_one : factorShare context ≤ 1 :=
  (foldl_min_clampUnit_mem _ zero_le_one).2

@[simp]
theorem factorShare_neutral : factorShare (some .neutral) = 1 := by decide +kernel

theorem tightest_factorConstraints (base : SizeConstraint)
    (context : Option FactorDecisionContext) :
    max (tightest base (factorConstraints context base.maxUsd)).maxUsd 0 =
      max base.maxUsd 0 * factorShare context := by
  rw [tightest_maxUsd, factorConstraints, factorShare, List.foldl_map]
  generalize context.elim [] factorMultipliers = multipliers
  rcases le_or_gt 0 base.maxUsd with hbase | hbase
  · -- every cap is the base times its multiplier
    have hfold : ∀ share : Decimal, 0 ≤ share →
        multipliers.foldl (fun least m => min least (max (base.maxUsd * clampUnit m.2) 0))
          (base.maxUsd * share) =
        base.maxUsd * multipliers.foldl (fun share m => min share (clampUnit m.2)) share := by
      induction multipliers with
      | nil => exact fun _ _ => rfl
      | cons m multipliers ih =>
        intro share hshare
        rw [List.foldl_cons, List.foldl_cons,
          max_eq_left (mul_nonneg hbase (clampUnit_nonneg m.2)), ← mul_min_of_nonneg _ _ hbase]
        exact ih _ (le_min hshare (clampUnit_nonneg m.2))
    have hone := hfold 1 zero_le_one
    rw [mul_one] at hone
    rw [hone, max_eq_left hbase,
      max_eq_left (mul_nonneg hbase (foldl_min_clampUnit_mem _ zero_le_one).1)]
  · -- every cap is zero, above the base
    have hfold : multipliers.foldl (fun least m => min least (max (base.maxUsd * clampUnit m.2) 0))
        base.maxUsd ≤ 0 := by
      have hle : ∀ least : Decimal, multipliers.foldl
          (fun least m => min least (max (base.maxUsd * clampUnit m.2) 0)) least ≤ least := by
        induction multipliers with
        | nil => exact fun _ => le_rfl
        | cons m multipliers ih => exact fun _ => (ih _).trans (min_le_left _ _)
      exact (hle _).trans hbase.le
    rw [max_eq_right hfold, max_eq_right hbase.le, zero_mul]

/-! ## The sizer -/

structure MultiConstraintSizer where
  kelly : QuarterKellyCalculator
  maxSingleBetUsd : Decimal
  maxSingleLossUsd : Decimal
  maxSingleMarketExposureUsd : Decimal
  maxTotalExposureUsd : Decimal
  maxWeeklyLossUsd : Decimal
  reserveBalanceUsd : Decimal
  minTradeUsd : Decimal
deriving DecidableEq, Repr

structure SizeDetail extends SizeResult where
  kellyResult : KellyResult
  breakdown : List SizeConstraint

namespace MultiConstraintSizer

variable (sizer : MultiConstraintSizer) (ctx : TradeContext) (bankroll : Usd)
  (drawdownFactor : Decimal)

def kellyResult : KellyResult :=
  sizer.kelly.calculate ctx.request.probability ctx.request.opportunity.entryPrice bankroll

def kellyConstraint : SizeConstraint :=
  ⟨"kelly_upper_bound", (sizer.kellyResult ctx bankroll).betUsd⟩

/-- The limits that the configuration and the accounts set. -/
def accountConstraints : List SizeConstraint :=
  [⟨"max_single_bet", sizer.maxSingleBetUsd⟩,
    ⟨"max_single_loss", sizer.maxSingleLossUsd⟩,
    ⟨"market_exposure_headroom",
      max (sizer.maxSingleMarketExposureUsd - ctx.metrics.marketExposure) 0⟩,
    ⟨"portfolio_exposure_headroom",
      max (sizer.maxTotalExposureUsd - ctx.metrics.totalExposure) 0⟩,
    ⟨"daily_budget_remaining", max ctx.snap.dailyBudgetRemaining 0⟩,
    ⟨"weekly_loss_headroom", max (sizer.maxWeeklyLossUsd - ctx.snap.weeklyLoss) 0⟩,
    ⟨"available_balance",
      max (ctx.metrics.equity - sizer.reserveBalanceUsd - ctx.metrics.reservedUsd -
        ctx.snap.totalPotentialLoss) 0⟩]

def drawdownConstraint : SizeConstraint :=
  ⟨"drawdown_scaled", if drawdownFactor ≤ 0 then 0 else bankroll * drawdownFactor⟩

def baseConstraint : SizeConstraint :=
  tightest (sizer.kellyConstraint ctx bankroll)
    (sizer.accountConstraints ctx ++ [drawdownConstraint bankroll drawdownFactor])

/-- Every limit that applies, in the order of the audit trail. -/
def constraints : List SizeConstraint :=
  sizer.kellyConstraint ctx bankroll ::
    (sizer.accountConstraints ctx ++ [drawdownConstraint bankroll drawdownFactor] ++
      factorConstraints ctx.request.factorContext
        (sizer.baseConstraint ctx bankroll drawdownFactor).maxUsd)

def size : SizeDetail :=
  let constraints := sizer.constraints ctx bankroll drawdownFactor
  let binding := tightest (sizer.kellyConstraint ctx bankroll) constraints.tail
  let capped := max binding.maxUsd 0
  let finalUsd := if capped < sizer.minTradeUsd then 0 else capped
  { betUsd := roundDp finalUsd 2
    bindingConstraint := binding.name
    kellyResult := sizer.kellyResult ctx bankroll
    breakdown := constraints }

def bindingConstraint : SizeConstraint :=
  tightest (sizer.kellyConstraint ctx bankroll)
    (sizer.constraints ctx bankroll drawdownFactor).tail

theorem bindingConstraint_mem :
    sizer.bindingConstraint ctx bankroll drawdownFactor ∈
      sizer.constraints ctx bankroll drawdownFactor :=
  tightest_mem _ _

theorem bindingConstraint_le {c : SizeConstraint}
    (h : c ∈ sizer.constraints ctx bankroll drawdownFactor) :
    (sizer.bindingConstraint ctx bankroll drawdownFactor).maxUsd ≤ c.maxUsd :=
  tightest_le h

end MultiConstraintSizer

def settledSize (amount : Decimal) : Decimal :=
  roundDp (if amount < minTradeUsd then 0 else amount) 2

variable {amount : Decimal}

theorem settledSize_nonneg (h : 0 ≤ amount) : 0 ≤ settledSize minTradeUsd amount := by
  unfold settledSize
  split
  · simp
  · exact roundDp_nonneg 2 h

theorem settledSize_mono {a b : Decimal} (h0 : 0 ≤ a) (h : a ≤ b) :
    settledSize minTradeUsd a ≤ settledSize minTradeUsd b := by
  by_cases ha : a < minTradeUsd
  · have hzero : settledSize minTradeUsd a = 0 := by simp [settledSize, ha]
    rw [hzero]
    exact settledSize_nonneg minTradeUsd (h0.trans h)
  · have hb : ¬ b < minTradeUsd := not_lt.mpr ((not_lt.mp ha).trans h)
    unfold settledSize
    rw [if_neg ha, if_neg hb]
    exact roundDp_mono 2 h

theorem settledSize_le (h : 0 ≤ amount) : settledSize minTradeUsd amount ≤ amount + 1 / 200 := by
  unfold settledSize
  split
  · simp only [roundDp_zero]
    linarith
  · exact roundDp_two_le amount

namespace MultiConstraintSizer

variable (sizer : MultiConstraintSizer) (ctx : TradeContext) (bankroll : Usd)
  (drawdownFactor : Decimal)

theorem size_betUsd_binding : (sizer.size ctx bankroll drawdownFactor).betUsd =
    settledSize sizer.minTradeUsd
      (max (sizer.bindingConstraint ctx bankroll drawdownFactor).maxUsd 0) :=
  rfl

def undrawnLimit : Decimal :=
  (tightest (sizer.kellyConstraint ctx bankroll) (sizer.accountConstraints ctx)).maxUsd

theorem baseConstraint_maxUsd : (sizer.baseConstraint ctx bankroll drawdownFactor).maxUsd =
    min (sizer.undrawnLimit ctx bankroll) (drawdownConstraint bankroll drawdownFactor).maxUsd := by
  unfold baseConstraint undrawnLimit
  rw [tightest_append, tightest_maxUsd]
  rfl

/-- **The bet in one expression.** -/
theorem size_betUsd : (sizer.size ctx bankroll drawdownFactor).betUsd =
    settledSize sizer.minTradeUsd
      (max (min (sizer.undrawnLimit ctx bankroll)
        (drawdownConstraint bankroll drawdownFactor).maxUsd) 0 *
          factorShare ctx.request.factorContext) := by
  rw [size_betUsd_binding, ← baseConstraint_maxUsd, ← tightest_factorConstraints]
  congr 2

/-! ## Limits and cents -/

/-- An amount that the last two steps leave within its own limit: it is below the minimum
trade, or its cents are not rounded up and still reach the minimum trade. -/
def FitsCents (minTradeUsd amount : Decimal) : Prop :=
  0 ≤ amount ∧ (amount < minTradeUsd ∨
    (¬ RoundsUp (amount * 10 ^ 2) ∧ (wholeCents amount = 0 ∨ minTradeUsd ≤ wholeCents amount)))

theorem settledSize_fits_iff (minTradeUsd amount : Decimal) :
    ((settledSize minTradeUsd (max amount 0) = 0 ∨
        minTradeUsd ≤ settledSize minTradeUsd (max amount 0)) ∧
      settledSize minTradeUsd (max amount 0) ≤ amount) ↔ FitsCents minTradeUsd amount := by
  unfold FitsCents
  rcases lt_or_ge amount 0 with hneg | hnonneg
  · -- a negative limit admits no bet, not even none
    have hzero : 0 ≤ settledSize minTradeUsd (max amount 0) :=
      settledSize_nonneg _ (le_max_right _ _)
    constructor
    · exact fun h => absurd (hzero.trans h.2) (not_le.mpr hneg)
    · exact fun h => absurd h.1 (not_le.mpr hneg)
  · rw [max_eq_left hnonneg]
    unfold settledSize
    by_cases hmin : amount < minTradeUsd
    · simp [hmin, hnonneg]
    · simp only [hmin, if_false, false_or, hnonneg, true_and, roundDp_two_le_self_iff]
      constructor
      · rintro ⟨hbet, hdown⟩
        rw [roundDp_two_eq_wholeCents hdown] at hbet
        exact ⟨hdown, hbet⟩
      · rintro ⟨hdown, hcents⟩
        rw [roundDp_two_eq_wholeCents hdown]
        exact ⟨hcents, hdown⟩

/-- **A bet keeps its limits** exactly when the last two steps leave the smallest of them
alone. -/
theorem size_keeps_limits_iff :
    ((((sizer.size ctx bankroll drawdownFactor).betUsd = 0 ∨
        sizer.minTradeUsd ≤ (sizer.size ctx bankroll drawdownFactor).betUsd) ∧
      ∀ c ∈ sizer.constraints ctx bankroll drawdownFactor,
        (sizer.size ctx bankroll drawdownFactor).betUsd ≤ c.maxUsd) ↔
      ∃ cap ∈ sizer.constraints ctx bankroll drawdownFactor,
        (∀ c ∈ sizer.constraints ctx bankroll drawdownFactor, cap.maxUsd ≤ c.maxUsd) ∧
          FitsCents sizer.minTradeUsd cap.maxUsd) := by
  rw [size_betUsd_binding]
  have hmem := sizer.bindingConstraint_mem ctx bankroll drawdownFactor
  have hle := fun c => sizer.bindingConstraint_le ctx bankroll drawdownFactor (c := c)
  constructor
  · rintro ⟨hmin, hall⟩
    exact ⟨_, hmem, fun c hc => hle c hc,
      (settledSize_fits_iff _ _).mp ⟨hmin, hall _ hmem⟩⟩
  · rintro ⟨cap, hcap, hleast, hfits⟩
    have heq : (sizer.bindingConstraint ctx bankroll drawdownFactor).maxUsd = cap.maxUsd :=
      le_antisymm (hle cap hcap) (hleast _ hmem)
    rw [← heq] at hfits
    obtain ⟨hmin, hbet⟩ := (settledSize_fits_iff _ _).mpr hfits
    exact ⟨hmin, fun c hc => hbet.trans (hle c hc)⟩

end MultiConstraintSizer

/-! ## Sample inputs -/

def sampleSizer : MultiConstraintSizer :=
  { kelly :=
      { kellyFraction := 1 / 4, minEdgeBps := 200, maxKellyFraction := 1 / 4
        minProbabilityConfidence := 3 / 10, minCalibrationSamples := 10
        maxProbabilityStalenessSecs := 7200 }
    maxSingleBetUsd := 25, maxSingleLossUsd := 30, maxSingleMarketExposureUsd := 500
    maxTotalExposureUsd := 5000, maxWeeklyLossUsd := 120, reserveBalanceUsd := 100, minTradeUsd }

def sampleOpportunity : Opportunity :=
  { marketId := ⟨"m"⟩, eventId := ⟨"e"⟩, tokenId := ⟨"t"⟩, side := .buy
    payoutModel :=
      { projectedPayoutIfCorrect := 20, expectedPayout := 19, predictedSide := .buy }
    shares := 20, entryPrice := 1 / 2, totalCost := 10, totalFees := 0, netProfit := 10
    expectedNetProfit := 9, edgeBps := 9000, resolutionAdjust := 19 / 20, depthUsedPct := 1
    staleness := .fresh, category := .politics
    info :=
      { predictedYes := true, confidence := 19 / 20, convergenceDurationSecs := 3600
        priceZone := .z97, durationBucket := .medium, settlementDeadline := none }
    calibration :=
      { bucketKey :=
          { category := .politics, priceZone := .z97, durationBucket := .medium }
        posteriorMean := 19 / 20, sampleSize := 100, alphaPrior := 1, betaPrior := 1
        fallbackTier := 0, fusedProbability := 19 / 20 }
    detectedAt := 0 }

def sampleContext (dailyBudgetRemaining : Usd) : TradeContext :=
  { request :=
      { opportunity := sampleOpportunity
        probability :=
          { calibratedWinProb := 1, fillProb := 1, calibrationConfidence := 1, sampleSize := 100
            modelStalenessSecs := 0, expectedSlippagePct := 0, expectedFailureCostPct := 0 }
        factorContext := none
        settlementGate := { mode := .live, marketNegRisk := none, redeemPolicy := none }
        integrity := ⟨0⟩
        sizedIntent := none }
    snap := { RiskSnapshot.zeroed with dailyBudgetRemaining }
    blacklist := fun _ => none
    metrics := { RiskMetricsSnapshot.zeroed with equity := 1000, isStale := false
                                                 metricsAgeSecs := 0, isAuthoritative := true }
    now := 0 }

/-- A budget of 10.006 left for the day is overspent by a bet of 10.01, and one of 5.004
that just reaches the minimum trade becomes a bet below it. -/
theorem size_breaks_limits :
    (let sizer := sampleSizer 1
      let ctx := sampleContext (10006 / 1000)
      ∃ c ∈ sizer.constraints ctx 1000 1, c.name = "daily_budget_remaining" ∧
        c.maxUsd < (sizer.size ctx 1000 1).betUsd) ∧
    (let sizer := sampleSizer (5004 / 1000)
      let bet := (sizer.size (sampleContext (5004 / 1000)) 1000 1).betUsd
      bet ≠ 0 ∧ bet < sizer.minTradeUsd) := by
  decide +kernel

/-! ## Drawdown -/

theorem settledSize_zero : settledSize minTradeUsd 0 = 0 := by
  simp [settledSize]

theorem settledSize_mul_le {d : Decimal} (h0 : 0 ≤ d) (h1 : d ≤ 1) (ha : 0 ≤ amount) :
    settledSize minTradeUsd (d * amount) ≤ d * settledSize minTradeUsd amount + 1 / 100 := by
  have hle : d * amount ≤ amount := mul_le_of_le_one_left ha h1
  by_cases hmin : amount < minTradeUsd
  · have hshare : d * amount < minTradeUsd := hle.trans_lt hmin
    simp [settledSize, hmin, hshare]
  · have hfull : amount - 1 / 200 ≤ settledSize minTradeUsd amount := by
      unfold settledSize
      rw [if_neg hmin]
      exact le_roundDp_two amount
    have hscaled : d * (amount - 1 / 200) ≤ d * settledSize minTradeUsd amount := by gcongr
    have hbet := settledSize_le minTradeUsd (mul_nonneg h0 ha)
    linarith

namespace MultiConstraintSizer

variable (sizer : MultiConstraintSizer) (ctx : TradeContext) (bankroll : Usd)

variable {d : Decimal}

theorem max_drawdownConstraint (bankroll : Usd) (h0 : 0 ≤ d) :
    max (drawdownConstraint bankroll d).maxUsd 0 = d * max bankroll 0 := by
  unfold drawdownConstraint
  dsimp only
  rcases h0.lt_or_eq with hpos | rfl
  · rw [if_neg (not_le.mpr hpos), mul_comm, mul_max_of_nonneg _ _ h0, mul_zero]
  · simp

/-- What is settled into a bet at drawdown factor `d`. -/
def drawnAmount (d : Decimal) : Decimal :=
  min (max (sizer.undrawnLimit ctx bankroll) 0) (d * max bankroll 0) *
    factorShare ctx.request.factorContext

theorem size_betUsd_drawn (h0 : 0 ≤ d) : (sizer.size ctx bankroll d).betUsd =
      settledSize sizer.minTradeUsd (sizer.drawnAmount ctx bankroll d) := by
  rw [size_betUsd, max_min_distrib_right, max_drawdownConstraint bankroll h0]
  rfl

theorem drawnAmount_nonneg (h0 : 0 ≤ d) : 0 ≤ sizer.drawnAmount ctx bankroll d :=
  mul_nonneg (le_min (le_max_right _ _) (mul_nonneg h0 (le_max_right _ _)))
    (factorShare_nonneg _)

theorem drawnAmount_le (h0 : 0 ≤ d) : sizer.drawnAmount ctx bankroll d ≤ d * max bankroll 0 := by
  have hdrawn : 0 ≤ d * max bankroll 0 := mul_nonneg h0 (le_max_right _ _)
  have hmin : 0 ≤ min (max (sizer.undrawnLimit ctx bankroll) 0) (d * max bankroll 0) :=
    le_min (le_max_right _ _) hdrawn
  exact (mul_le_of_le_one_right hmin (factorShare_le_one _)).trans (min_le_right _ _)

theorem drawnAmount_mono {e : Decimal} (h : d ≤ e) :
    sizer.drawnAmount ctx bankroll d ≤ sizer.drawnAmount ctx bankroll e := by
  have hB : (0 : Decimal) ≤ max bankroll 0 := le_max_right _ _
  have hshare := factorShare_nonneg ctx.request.factorContext
  unfold drawnAmount
  gcongr

theorem drawnAmount_scales (h1 : d ≤ 1) (h : bankroll ≤ sizer.undrawnLimit ctx bankroll) :
    sizer.drawnAmount ctx bankroll d = d * sizer.drawnAmount ctx bankroll 1 := by
  have hlimit : max bankroll 0 ≤ max (sizer.undrawnLimit ctx bankroll) 0 := max_le_max_right 0 h
  have hdrawn : d * max bankroll 0 ≤ max (sizer.undrawnLimit ctx bankroll) 0 :=
    (mul_le_of_le_one_left (le_max_right _ _) h1).trans hlimit
  unfold drawnAmount
  rw [min_eq_right hdrawn, one_mul, min_eq_right hlimit, mul_assoc]

/-- **The drawdown factor caps the bet**: it never raises it, limits it to the scaled
bankroll up to half a cent, and scales it where the bankroll is the smallest limit. -/
theorem size_drawdown_caps {d : Decimal} (h0 : 0 ≤ d) (h1 : d ≤ 1) :
    (sizer.size ctx bankroll d).betUsd ≤ (sizer.size ctx bankroll 1).betUsd ∧
      (sizer.size ctx bankroll d).betUsd ≤ d * max bankroll 0 + 1 / 200 ∧
      (d = 0 → (sizer.size ctx bankroll d).betUsd = 0) ∧
      ((∀ c ∈ sizer.kellyConstraint ctx bankroll :: sizer.accountConstraints ctx,
          bankroll ≤ c.maxUsd) →
        (sizer.size ctx bankroll d).betUsd ≤ d * (sizer.size ctx bankroll 1).betUsd + 1 / 100) := by
  rw [sizer.size_betUsd_drawn ctx bankroll h0, sizer.size_betUsd_drawn ctx bankroll zero_le_one]
  have hdrawn := sizer.drawnAmount_nonneg ctx bankroll h0
  refine ⟨?_, ?_, ?_, ?_⟩
  · exact settledSize_mono _ hdrawn (sizer.drawnAmount_mono ctx bankroll h1)
  · exact (settledSize_le _ hdrawn).trans
      (add_le_add_left (sizer.drawnAmount_le ctx bankroll h0) _)
  · rintro rfl
    have hzero : sizer.drawnAmount ctx bankroll 0 = 0 :=
      le_antisymm (by simpa using sizer.drawnAmount_le ctx bankroll le_rfl) hdrawn
    rw [hzero, settledSize_zero]
  · intro hall
    have hlimit : bankroll ≤ sizer.undrawnLimit ctx bankroll := hall _ (tightest_mem _ _)
    rw [sizer.drawnAmount_scales ctx bankroll h1 hlimit]
    exact settledSize_mul_le _ h0 h1 (sizer.drawnAmount_nonneg ctx bankroll zero_le_one)

end MultiConstraintSizer

/-- With 20 left for the day, half the drawdown factor leaves the bet of 20 as it was. -/
theorem size_not_halved :
    ((sampleSizer 1).size (sampleContext 20) 1000 1).betUsd = 20 ∧
      ((sampleSizer 1).size (sampleContext 20) 1000 (1 / 2)).betUsd = 20 := by
  decide +kernel

theorem size_drawdown_caps_tenth :
    ((sampleSizer 1).size (sampleContext 20) 10 (1 / 10)).betUsd ≤
      1 / 10 * max (10 : Decimal) 0 + 1 / 200 :=
  ((sampleSizer 1).size_drawdown_caps (sampleContext 20) 10 (by norm_num) (by norm_num)).2.1

end OxideArb.Risk
