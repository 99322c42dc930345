import OxideArb.Detection.Detector

/-!
# Scoring

An opportunity is ranked by its expected profit times the probability of a fill, scaled by
urgency, category and freshness, in fixed-point arithmetic that truncates.
-/

namespace OxideArb

structure FillProbabilityConfig where
  baseFillProb : Decimal
  depthPenaltyThresholdPct : Decimal
  depthPenaltyPerPct : Decimal
  stalenessPenaltyPerLevel : Decimal
  resolutionProximityBonus : Decimal
deriving DecidableEq, Repr

def FillProbabilityConfig.default : FillProbabilityConfig :=
  { baseFillProb := 9 / 10, depthPenaltyThresholdPct := 20, depthPenaltyPerPct := 2 / 100
    stalenessPenaltyPerLevel := 5 / 100, resolutionProximityBonus := 5 / 100 }

abbrev MicroPct := Int

abbrev MicroScore := Int

/-- `try_from_pct_decimal`: a percentage as a fraction in micro-units. -/
def MicroPct.tryFromPctDecimal (d : Decimal) : Option MicroPct := Micro.tryFromDecimal (d / 100)

/-- `from_factor_micro`: no upper clamp. -/
def MicroProb.fromFactorMicro (v : Int) : MicroProb := if v < 0 then 0 else v

/-! ## The probability of a fill -/

structure FillProbabilityEstimator where
  baseFillProb : MicroProb
  depthPenaltyThresholdPct : MicroPct
  depthPenaltyPerPct : MicroProb
  stalenessPenaltyPerLevel : MicroProb
  resolutionProximityBonus : MicroProb
deriving DecidableEq, Repr

namespace FillProbabilityEstimator

def new (config : FillProbabilityConfig) : FillProbabilityEstimator :=
  { baseFillProb := (Micro.tryFromDecimal config.baseFillProb).getD 0
    depthPenaltyThresholdPct :=
      (MicroPct.tryFromPctDecimal config.depthPenaltyThresholdPct).getD 0
    depthPenaltyPerPct := (Micro.tryFromDecimal config.depthPenaltyPerPct).getD 0
    stalenessPenaltyPerLevel := (Micro.tryFromDecimal config.stalenessPenaltyPerLevel).getD 0
    resolutionProximityBonus := (Micro.tryFromDecimal config.resolutionProximityBonus).getD 0 }

def stalenessSteps : StalenessLevel → Int
  | .fresh => 0
  | .acceptable => 1
  | .stale => 2
  | .expired => 3

def estimate (est : FillProbabilityEstimator) (depthUsedPct : MicroPct)
    (staleness : StalenessLevel) (hoursToSettlement : Int) : MicroProb :=
  let excess := saturateI64 (depthUsedPct - est.depthPenaltyThresholdPct)
  let p :=
    if 0 < excess then
      saturateI64 (est.baseFillProb -
        Micro.saturate ((excess * est.depthPenaltyPerPct * 100).tdiv MICRO_SCALE))
    else est.baseFillProb
  let p := saturateI64 (p - stalenessSteps staleness * est.stalenessPenaltyPerLevel)
  let p :=
    -- a bonus within six hours of the settlement
    if 0 ≤ hoursToSettlement ∧ hoursToSettlement ≤ 6 then
      let fraction := MICRO_SCALE - (hoursToSettlement * MICRO_SCALE).tdiv 6
      let bonus := (est.resolutionProximityBonus * fraction).tdiv MICRO_SCALE
      saturateI64 (p + if bonus ≤ i64Max then bonus else 0)
    else p
  (MicroProb.fromMicro p).clampProb (MicroProb.fromMicro 100000) (MicroProb.fromMicro 990000)

end FillProbabilityEstimator

/-! ## Urgency and freshness -/

/-- `UrgencyFactor::compute`: a smooth step from one at the window to three at the deadline. -/
def urgencyFactor (hoursRemaining : Int) (windowHours : Nat) : MicroProb :=
  if windowHours = 0 then MICRO_SCALE
  else
    let hRem := min (max hoursRemaining 0) (windowHours : Int)
    let t := max 0 (min MICRO_SCALE (((windowHours - hRem) * MICRO_SCALE).tdiv windowHours))
    let smoothstep := ((t * t * (3 * MICRO_SCALE - 2 * t)).tdiv MICRO_SCALE).tdiv MICRO_SCALE
    MicroProb.fromFactorMicro (MICRO_SCALE + 2 * smoothstep)

namespace StalenessLevel

def confidenceDiscount : StalenessLevel → MicroProb
  | .fresh => MICRO_SCALE
  | .acceptable => 950000
  | .stale => 700000
  | .expired => 0

def isTradeable : StalenessLevel → Bool
  | .fresh => true
  | .acceptable => true
  | .stale => false
  | .expired => false

end StalenessLevel

/-! ## The score -/

structure ScorerConfig where
  minScore : Decimal
  maxDepthUsagePct : Decimal
  categoryWeights : MarketCategory → Option Decimal

structure ScorerParams where
  categoryWeights : MarketCategory → MicroProb
  fillEstimator : FillProbabilityEstimator
  settlementWindowHours : Nat

def ScorerParams.fromConfig (config : ScorerConfig) (fillConfig : FillProbabilityConfig)
    (settlementWindowHours : Nat) : ScorerParams :=
  { categoryWeights := fun category =>
      ((config.categoryWeights category).bind Micro.tryFromDecimal).elim MICRO_SCALE
        MicroProb.fromFactorMicro
    fillEstimator := FillProbabilityEstimator.new fillConfig
    settlementWindowHours }

namespace MicroScore

def fromProfitProb (profit : MicroUsd) (prob : MicroProb) : MicroScore :=
  Micro.saturate ((profit * prob).tdiv MICRO_SCALE)

def scaleByFactor (score : MicroScore) (factor : MicroProb) : MicroScore :=
  Micro.saturate ((score * factor).tdiv MICRO_SCALE)

end MicroScore

structure ScoreDraft where
  score : MicroScore
  fillProbability : MicroProb
  urgencyFactor : MicroProb
  categoryWeight : MicroProb
  stalenessDiscount : MicroProb
deriving DecidableEq, Repr

namespace ScorerParams

def hoursToSettlement (opp : Opportunity) (now : DateTime) : Int :=
  opp.info.settlementDeadline.elim i64Max fun deadline => Duration.numHours (deadline - now)

def estimateFill (params : ScorerParams) (opp : Opportunity) (now : DateTime) : MicroProb :=
  params.fillEstimator.estimate ((MicroPct.tryFromPctDecimal opp.depthUsedPct).getD 0)
    opp.staleness (hoursToSettlement opp now)

def score (params : ScorerParams) (opp : Opportunity) (now : DateTime)
    (fillOverride : Option MicroProb) : ScoreDraft :=
  let categoryWeight := params.categoryWeights opp.category
  let fillProb := fillOverride.getD (params.estimateFill opp now)
  let urgency := OxideArb.urgencyFactor (max (hoursToSettlement opp now) 0)
    params.settlementWindowHours
  let stalenessDiscount := opp.staleness.confidenceDiscount
  let profit := (Micro.tryFromDecimal opp.expectedNetProfit).getD 0
  { score := (((MicroScore.fromProfitProb profit fillProb).scaleByFactor urgency).scaleByFactor
      categoryWeight).scaleByFactor stalenessDiscount
    fillProbability := fillProb
    urgencyFactor := urgency
    categoryWeight
    stalenessDiscount }

end ScorerParams

end OxideArb
