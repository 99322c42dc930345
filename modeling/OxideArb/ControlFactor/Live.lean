import OxideArb.ControlFactor.Snapshot
import OxideArb.Execution.Validator

/-!
# Consumption of a snapshot

The trading path reads the published snapshot in the opportunity pipeline, in validation and in
the risk engine. Each haircut, multiplier and addon only tightens what it is applied to.
-/

namespace OxideArb.ControlFactor

/-! ## Arithmetic of the factors -/

variable (value : Decimal)

def clampUnit : Decimal := max 0 (min 1 value)

def effectiveResolutionProb (base haircut : Decimal) : Decimal :=
  clampUnit (base * clampUnit haircut)

def expectedNetProfit (payoutIfCorrect totalCost totalFees : Usd) (effectiveP : Decimal) : Usd :=
  payoutIfCorrect * effectiveP - totalCost - totalFees

def effectiveFillProbability (base multiplier : Decimal) : Decimal :=
  clampUnit (base * clampUnit multiplier)

/-- May become negative: no admissible slippage is left. -/
def effectiveSlippageLimitBps (baseLimitBps addon : Decimal) : Decimal := baseLimitBps - max addon 0

theorem clampUnit_nonneg : 0 ≤ clampUnit value := le_max_left _ _

theorem clampUnit_le_one : clampUnit value ≤ 1 :=
  max_le zero_le_one (min_le_left _ _)

theorem clampUnit_of_mem {value : Decimal} (h0 : 0 ≤ value) (h1 : value ≤ 1) :
    clampUnit value = value := by
  rw [clampUnit, min_eq_right h1, max_eq_right h0]

theorem clampUnit_mono {a b : Decimal} (h : a ≤ b) : clampUnit a ≤ clampUnit b :=
  max_le_max le_rfl (min_le_min le_rfl h)

theorem clampUnit_mul_le_iff {x : Decimal} {settled won : Nat} (hle : won ≤ settled) :
    clampUnit x * settled ≤ won ↔ won = settled ∨ x * settled ≤ won := by
  have hsettled : (0 : Decimal) ≤ settled := Nat.cast_nonneg _
  have hwon : (0 : Decimal) ≤ won := Nat.cast_nonneg _
  rw [clampUnit, max_mul_of_nonneg _ _ hsettled, min_mul_of_nonneg _ _ hsettled, zero_mul, one_mul,
    max_le_iff, min_le_iff, Nat.cast_le, and_iff_right hwon]
  exact or_congr_left ⟨fun h => le_antisymm hle h, fun h => h.ge⟩

theorem clampUnit_le_clampUnit_iff {x y : Decimal} :
    clampUnit x ≤ clampUnit y ↔ x ≤ y ∨ x ≤ 0 ∨ 1 ≤ y := by
  constructor
  · intro h
    by_contra hnot
    simp only [not_or, not_le] at hnot
    obtain ⟨hxy, hx, hy⟩ := hnot
    rw [clampUnit, clampUnit, min_eq_right hy.le, max_le_iff] at h
    rcases min_le_iff.mp h.2 with hone | hle
    · rcases le_max_iff.mp hone with h0 | h1
      · exact absurd h0 (by norm_num)
      · exact absurd h1 hy.not_ge
    · rcases le_max_iff.mp hle with h0 | h1
      · exact absurd h0 hx.not_ge
      · exact absurd h1 hxy.not_ge
  · rintro (h | h | h)
    · exact clampUnit_mono h
    · have hzero : clampUnit x = 0 := max_eq_left ((min_le_right _ _).trans h)
      rw [hzero]
      exact clampUnit_nonneg y
    · have hone : clampUnit y = 1 := by
        rw [clampUnit, min_eq_left h, max_eq_right zero_le_one]
      rw [hone]
      exact clampUnit_le_one x

theorem clampUnit_mul_le {base : Decimal} (h0 : 0 ≤ base) (multiplier : Decimal) :
    clampUnit (base * clampUnit multiplier) ≤ base := by
  have hle : base * clampUnit multiplier ≤ base := mul_le_of_le_one_right h0 (clampUnit_le_one _)
  exact max_le h0 ((min_le_right _ _).trans hle)

theorem effectiveSlippageLimitBps_le (baseLimitBps addon : Decimal) :
    effectiveSlippageLimitBps baseLimitBps addon ≤ baseLimitBps :=
  sub_le_self _ (le_max_right _ _)

/-! ## Classification of the traded book -/

def spreadBucket (bestBid bestAsk : Option Price) : SpreadBucket :=
  match bestBid, bestAsk with
  | some bid, some ask =>
    let spread := max (ask - bid) 0
    if spread < 1 / 100 then .tight
    else if spread < 3 / 100 then .normal
    else if spread < 6 / 100 then .wide
    else .veryWide
  | _, _ => .veryWide

def depthBucket (askDepthUsd : Decimal) : DepthBucket :=
  if 1000 ≤ askDepthUsd then .deep
  else if 100 ≤ askDepthUsd then .normal
  else .thin

def bookAgeBucket (ageMs : Nat) : BookAgeBucket :=
  if ageMs < 500 then .fresh
  else if ageMs < 2000 then .recent
  else if ageMs < 5000 then .stale
  else .veryStale

/-- Latency is not classified live. -/
def executionQualityDimensions (category : MarketCategory) (priceZone : PriceZone)
    (stalenessLevel : StalenessLevel) (book : BookSnapshot) (nowMs : Nat) :
    ExecutionQualityDimensions :=
  { category, priceZone, spreadBucket := spreadBucket book.bestBid book.bestAsk
    depthBucket := depthBucket (Micro.toDecimal book.totalAskDepthUsd)
    bookAgeBucket := bookAgeBucket (nowMs - book.timestampMs), latencyBucket := .unknown
    stalenessLevel }

/-! ## The decision bundle of the risk engine -/

structure FactorDecisionContext where
  publicationId : Option FactorPublicationId
  snapshotExpired : Bool
  failClosed : Bool
  reconciliationHealth : ReconciliationHealthDecision
  marketAnomaly : MarketAnomalyDecision
  portfolioRisk : PortfolioRiskDecision
  bucketSizeMultiplier : Decimal
  appliedFactors : List AppliedControlFactor
deriving DecidableEq, Repr

namespace FactorDecisionContext

def neutral : FactorDecisionContext :=
  { publicationId := none, snapshotExpired := false, failClosed := false
    reconciliationHealth := .default, marketAnomaly := .default, portfolioRisk := .default
    bucketSizeMultiplier := 1, appliedFactors := [] }

def isSnapshotStaleFailClosed (context : FactorDecisionContext) : Bool :=
  context.snapshotExpired && context.failClosed

end FactorDecisionContext

def buildFactorContext (published : ControlFactorSnapshot) (opp : Opportunity) (now : DateTime)
    (failClosed : Bool) : FactorDecisionContext :=
  match published.publicationId with
  | none => .neutral
  | some publicationId =>
    let reconciliationHealth := published.reconciliationHealth.decision publicationId
    let marketAnomaly := published.marketAnomalies.decision publicationId opp.marketId opp.eventId
    let portfolioRisk := published.portfolioRisk.decision publicationId opp.category
    let bucket := published.bucketRisk.lookup
      (.coarse opp.category opp.info.priceZone opp.info.durationBucket)
    { publicationId := some publicationId
      snapshotExpired := published.isExpiredAt now
      failClosed, reconciliationHealth, marketAnomaly, portfolioRisk
      bucketSizeMultiplier := bucket.elim 1 (·.payload.sizeMultiplier)
      appliedFactors := reconciliationHealth.source.toList ++ marketAnomaly.source.toList ++
        portfolioRisk.source.toList }

/-- `execution_quality_violation`: why the execution-quality factor of the traded book
rejects what validation accepted. -/
def executionQualityViolation (published : ControlFactorSnapshot) (book : Option BookSnapshot)
    (nowMs : Nat) (maxSlippageBps : Decimal) (opp : Opportunity) (slippageBps : Decimal) :
    Option String := do
  let _ ← published.publicationId
  let book ← book
  let dims :=
    executionQualityDimensions opp.category opp.info.priceZone opp.staleness book nowMs
  let found ← published.executionQuality.lookup dims
  let payload := found.payload
  let usedFraction := opp.depthUsedPct / 100
  let effectiveLimit := effectiveSlippageLimitBps maxSlippageBps payload.slippageBpsAddon
  match payload.maxDepthUsagePct.filter (· < usedFraction) with
  | some maxDepthUsage =>
    some (s!"execution-quality depth usage {usedFraction} exceeds factor cap " ++
      s!"{maxDepthUsage}")
  | none =>
    if effectiveLimit < 0 then
      some "execution-quality slippage addon leaves no admissible slippage"
    else if effectiveLimit < slippageBps then
      some (s!"slippage {slippageBps} exceeds execution-quality tightened limit " ++
        s!"{effectiveLimit} bps")
    else none

end OxideArb.ControlFactor
