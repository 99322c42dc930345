import OxideArb.Calibration.Calibrator

/-!
# Control factors

Typed dimensions say where a factor applies, a typed payload what it restricts. A payload is
accepted only when it cannot expand risk (`FactorPayload.validateSafety`).
-/

namespace OxideArb.ControlFactor

structure ControlFactorId where
  raw : String
deriving DecidableEq, Repr

structure FactorPublicationId where
  raw : String
deriving DecidableEq, Repr

inductive ControlFactorType
  | bucketRisk
  | executionQuality
  | portfolioRisk
  | reconciliationHealth
  | marketAnomaly
deriving DecidableEq, Repr

def ControlFactorType.asStr : ControlFactorType → String
  | .bucketRisk => "bucket_risk"
  | .executionQuality => "execution_quality"
  | .portfolioRisk => "portfolio_risk"
  | .reconciliationHealth => "reconciliation_health"
  | .marketAnomaly => "market_anomaly"

inductive FactorSeverity
  | info
  | warning
  | critical
deriving DecidableEq, Repr

inductive FactorExpiryBehavior
  | failNeutral
  | failClosedIfCritical
  | neutralAfterTtlUnlessManualHalt
deriving DecidableEq, Repr

namespace ControlFactorType

def expiryBehavior : ControlFactorType → FactorExpiryBehavior
  | .bucketRisk | .executionQuality | .portfolioRisk => .failNeutral
  | .reconciliationHealth => .failClosedIfCritical
  | .marketAnomaly => .neutralAfterTtlUnlessManualHalt

def effectiveExpiryBehavior (factorType : ControlFactorType) (severity : FactorSeverity) :
    FactorExpiryBehavior :=
  match factorType, factorType.expiryBehavior with
  | .reconciliationHealth, .failClosedIfCritical =>
    match severity with
    | .critical => .failClosedIfCritical
    | .info | .warning => .failNeutral
  | _, behavior => behavior

end ControlFactorType

/-! ## Dimensions -/

inductive TimeToSettlementBucket
  | underOneHour
  | oneToSixHours
  | sixToTwentyFourHours
  | overTwentyFourHours
deriving DecidableEq, Repr

inductive FeeProfileBucket
  | zero
  | low
  | standard
  | high
deriving DecidableEq, Repr

inductive SpreadBucket
  | tight
  | normal
  | wide
  | veryWide
deriving DecidableEq, Repr

inductive DepthBucket
  | thin
  | normal
  | deep
deriving DecidableEq, Repr

inductive BookAgeBucket
  | fresh
  | recent
  | stale
  | veryStale
deriving DecidableEq, Repr

inductive LatencyBucket
  | named (name : String)
  | unknown
deriving DecidableEq, Repr

structure BucketRiskDimensions where
  category : MarketCategory
  priceZone : PriceZone
  durationBucket : DurationBucket
  hoursToSettlementBucket : Option TimeToSettlementBucket
  negRisk : Option Bool
  feeProfile : Option FeeProfileBucket
deriving DecidableEq, Repr

/-- The key a live lookup uses: the optional dimensions are left unset. -/
def BucketRiskDimensions.coarse (category : MarketCategory) (priceZone : PriceZone)
    (durationBucket : DurationBucket) : BucketRiskDimensions :=
  { category, priceZone, durationBucket, hoursToSettlementBucket := none, negRisk := none
    feeProfile := none }

structure ExecutionQualityDimensions where
  category : MarketCategory
  priceZone : PriceZone
  spreadBucket : SpreadBucket
  depthBucket : DepthBucket
  bookAgeBucket : BookAgeBucket
  latencyBucket : LatencyBucket
  stalenessLevel : StalenessLevel
deriving DecidableEq, Repr

inductive PortfolioRegime
  | normal
  | capitalPressure
  | drawdown
  | settlementBacklog
  | incident
deriving DecidableEq, Repr

inductive CountBucket
  | zero
  | one
  | twoToFive
  | sixToTen
  | overTen
deriving DecidableEq, Repr

inductive UsdExposureBucket
  | none
  | low
  | medium
  | high
  | critical
deriving DecidableEq, Repr

inductive DrawdownBucket
  | none
  | low
  | medium
  | high
  | critical
deriving DecidableEq, Repr

structure PortfolioRiskDimensions where
  portfolioRegime : PortfolioRegime
  category : Option MarketCategory
  openPositionBucket : CountBucket
  potentialLossBucket : UsdExposureBucket
  drawdownBucket : DrawdownBucket
  settlementBacklogBucket : CountBucket
deriving DecidableEq, Repr

inductive AccountScope
  | global
  | holder (holder : String)
deriving DecidableEq, Repr

inductive AssetScope
  | all
  | collateral
  | conditionalTokens
  | market (marketId : MarketId)
deriving DecidableEq, Repr

inductive MetricsFreshnessBucket
  | fresh
  | delayed
  | stale
  | expired
deriving DecidableEq, Repr

inductive RedeemStatusBucket
  | notRedeemable
  | redeemable
  | delayed
  | failed
deriving DecidableEq, Repr

structure ReconciliationHealthDimensions where
  accountScope : AccountScope
  assetScope : AssetScope
  driftSeverity : FactorSeverity
  metricsFreshnessBucket : MetricsFreshnessBucket
  redeemStatusBucket : RedeemStatusBucket
deriving DecidableEq, Repr

inductive AnomalyType
  | priceReversal
  | abnormalBook
  | oracleMismatch
  | settlementDelay
  | manualIncident
  | categorySpike
deriving DecidableEq, Repr

structure MarketAnomalyDimensions where
  marketId : Option MarketId
  eventId : Option EventId
  category : Option MarketCategory
  anomalyType : AnomalyType
  severity : FactorSeverity
deriving DecidableEq, Repr

inductive FactorDimensions
  | bucketRisk (dims : BucketRiskDimensions)
  | executionQuality (dims : ExecutionQualityDimensions)
  | portfolioRisk (dims : PortfolioRiskDimensions)
  | reconciliationHealth (dims : ReconciliationHealthDimensions)
  | marketAnomaly (dims : MarketAnomalyDimensions)
  | unspecified
deriving DecidableEq, Repr

def FactorDimensions.factorType : FactorDimensions → Option ControlFactorType
  | .bucketRisk _ => some .bucketRisk
  | .executionQuality _ => some .executionQuality
  | .portfolioRisk _ => some .portfolioRisk
  | .reconciliationHealth _ => some .reconciliationHealth
  | .marketAnomaly _ => some .marketAnomaly
  | .unspecified => none

/-! ## Payloads -/

inductive PayloadSafetyError
  | multiplierOutOfRange (field : String)
  | negativeAddon (field : String)
  | riskExpandingWithoutApproval (field : String)
deriving DecidableEq, Repr

variable (value : Decimal)

def ensureMultiplier (field : String) : Except PayloadSafetyError Unit :=
  if value < 0 ∨ 1 < value then .error (.multiplierOutOfRange field) else .ok ()

def ensureNonNegative (field : String) : Except PayloadSafetyError Unit :=
  if value < 0 then .error (.negativeAddon field) else .ok ()

def ensureOptionalMultiplier (value : Option Decimal) (field : String) :
    Except PayloadSafetyError Unit :=
  match value with
  | some value => ensureMultiplier value field
  | none => .ok ()

structure BucketRiskPayload where
  resolutionHaircutFactor : Decimal
  sizeMultiplier : Decimal
  minEdgeBpsAddon : Decimal
  blockNewEntries : Bool
deriving DecidableEq, Repr

def BucketRiskPayload.validateSafety (payload : BucketRiskPayload) :
    Except PayloadSafetyError Unit := do
  ensureMultiplier payload.resolutionHaircutFactor "resolution_haircut_factor"
  ensureMultiplier payload.sizeMultiplier "size_multiplier"
  ensureNonNegative payload.minEdgeBpsAddon "min_edge_bps_addon"

structure ExecutionQualityPayload where
  fillProbabilityMultiplier : Decimal
  maxDepthUsagePct : Option Decimal
  slippageBpsAddon : Decimal
  minLiquidityScore : Option Decimal
deriving DecidableEq, Repr

def ExecutionQualityPayload.validateSafety (payload : ExecutionQualityPayload) :
    Except PayloadSafetyError Unit := do
  ensureMultiplier payload.fillProbabilityMultiplier "fill_probability_multiplier"
  ensureOptionalMultiplier payload.maxDepthUsagePct "max_depth_usage_pct"
  ensureOptionalMultiplier payload.minLiquidityScore "min_liquidity_score"
  ensureNonNegative payload.slippageBpsAddon "slippage_bps_addon"

structure PortfolioRiskPayload where
  globalSizeMultiplier : Decimal
  categorySizeMultiplier : Option Decimal
  dailyBudgetMultiplier : Decimal
  maxOpenPositions : Option Nat
  kellyFractionMultiplier : Decimal
deriving DecidableEq, Repr

def PortfolioRiskPayload.validateSafety (payload : PortfolioRiskPayload) :
    Except PayloadSafetyError Unit := do
  ensureMultiplier payload.globalSizeMultiplier "global_size_multiplier"
  ensureOptionalMultiplier payload.categorySizeMultiplier "category_size_multiplier"
  ensureMultiplier payload.dailyBudgetMultiplier "daily_budget_multiplier"
  ensureMultiplier payload.kellyFractionMultiplier "kelly_fraction_multiplier"

inductive TradingHealth
  | healthy
  | degraded
  | maintenanceRequired
  | halted
deriving DecidableEq, Repr

structure ReconciliationHealthPayload where
  tradingHealth : TradingHealth
  sizeMultiplier : Decimal
  requireManualAck : Bool
  forceMaintenanceMode : Bool
  failClosedAfterSecs : Option Nat
deriving DecidableEq, Repr

def ReconciliationHealthPayload.validateSafety (payload : ReconciliationHealthPayload) :
    Except PayloadSafetyError Unit :=
  ensureMultiplier payload.sizeMultiplier "size_multiplier"

structure MarketAnomalyPayload where
  severity : FactorSeverity
  blockMarket : Bool
  blockEvent : Bool
  categoryCooldownSecs : Option Nat
  reasonCode : String
  manualAckRequired : Bool
deriving DecidableEq, Repr

def isWhitespace (c : Char) : Bool :=
  (9 ≤ c.toNat && c.toNat ≤ 13) || (8192 ≤ c.toNat && c.toNat ≤ 8202) ||
    [32, 133, 160, 5760, 8232, 8233, 8239, 8287, 12288].contains c.toNat

def MarketAnomalyPayload.validateSafety (payload : MarketAnomalyPayload) :
    Except PayloadSafetyError Unit :=
  if payload.reasonCode.toList.all isWhitespace then
    .error (.riskExpandingWithoutApproval "reason_code")
  else .ok ()

inductive FactorPayload
  | bucketRisk (payload : BucketRiskPayload)
  | executionQuality (payload : ExecutionQualityPayload)
  | portfolioRisk (payload : PortfolioRiskPayload)
  | reconciliationHealth (payload : ReconciliationHealthPayload)
  | marketAnomaly (payload : MarketAnomalyPayload)
deriving DecidableEq, Repr

namespace FactorPayload

def factorType : FactorPayload → ControlFactorType
  | .bucketRisk _ => .bucketRisk
  | .executionQuality _ => .executionQuality
  | .portfolioRisk _ => .portfolioRisk
  | .reconciliationHealth _ => .reconciliationHealth
  | .marketAnomaly _ => .marketAnomaly

def validateSafety : FactorPayload → Except PayloadSafetyError Unit
  | .bucketRisk payload => payload.validateSafety
  | .executionQuality payload => payload.validateSafety
  | .portfolioRisk payload => payload.validateSafety
  | .reconciliationHealth payload => payload.validateSafety
  | .marketAnomaly payload => payload.validateSafety

def severity : FactorPayload → Option FactorSeverity
  | .reconciliationHealth payload =>
    if payload.forceMaintenanceMode then some .critical else some .warning
  | .marketAnomaly payload => some payload.severity
  | _ => none

end FactorPayload

/-! ## What safety validation guarantees -/

variable {field : String} {u : Unit}

theorem bind_ok {ε : Type} {x : Except ε Unit} {y : Unit → Except ε Unit} :
    (x >>= y) = .ok u ↔ x = .ok () ∧ y () = .ok () := by
  cases x with
  | error e => exact ⟨nofun, fun h => absurd h.1 nofun⟩
  | ok v => exact ⟨fun h => ⟨rfl, h⟩, fun h => h.2⟩

/-! ## Factor values and their lifecycle -/

inductive FactorStatus
  | draft
  | reportOnly
  | candidate
  | rejected
  | shadow
  | published
  | superseded
  | expired
  | rolledBack
deriving DecidableEq, Repr

def FactorStatus.asStr : FactorStatus → String
  | .draft => "draft"
  | .reportOnly => "report_only"
  | .candidate => "candidate"
  | .rejected => "rejected"
  | .shadow => "shadow"
  | .published => "published"
  | .superseded => "superseded"
  | .expired => "expired"
  | .rolledBack => "rolled_back"

structure DataCoverageReport where
  observedRows : Nat
  missingRows : Nat
  coverageRatio : Decimal
  insufficientReasons : List String
deriving DecidableEq, Repr

def DataCoverageReport.isSufficient (report : DataCoverageReport) : Bool :=
  report.missingRows = 0 && 0 < report.observedRows && 1 ≤ report.coverageRatio &&
    report.insufficientReasons.isEmpty

structure FactorEvidence where
  stageReportIds : List String
  windowFrom : DateTime
  windowTo : DateTime
  sampleCount : Nat
  dataCoverage : DataCoverageReport
  productionEligible : Bool
  baselineConfigHash : String
  codeGitSha : String
  datasetHash : String
  featureSchemaHash : String
  labelSchemaHash : String
  queryFingerprint : String
deriving DecidableEq, Repr

def FactorEvidence.isSufficientForCandidate (evidence : FactorEvidence) : Bool :=
  evidence.windowFrom < evidence.windowTo && 0 < evidence.sampleCount &&
    !evidence.stageReportIds.isEmpty && evidence.baselineConfigHash ≠ "" &&
    evidence.codeGitSha ≠ "" && evidence.datasetHash ≠ "" && evidence.featureSchemaHash ≠ "" &&
    evidence.labelSchemaHash ≠ "" && evidence.queryFingerprint ≠ "" &&
    evidence.dataCoverage.isSufficient && evidence.productionEligible

structure ControlFactorValue where
  factorId : ControlFactorId
  factorType : ControlFactorType
  dimensions : FactorDimensions
  payload : FactorPayload
  evidence : FactorEvidence
  status : FactorStatus
  generatedAt : DateTime
  expiresAt : DateTime
  schemaVersion : Nat
deriving DecidableEq, Repr

inductive FactorValueError
  | payloadTypeMismatch (factorType payloadType : String)
  | invalidExpiry
  | insufficientEvidence
  | illegalTransition (source target : String)
  | reportOnlyPromotionForbidden (target : String)
  | payloadSafety (source : PayloadSafetyError)
deriving DecidableEq, Repr

namespace FactorLifecycle

def transitions : List (FactorStatus × FactorStatus) :=
  [(.draft, .candidate), (.draft, .rejected), (.draft, .reportOnly), (.reportOnly, .draft),
    (.reportOnly, .rejected), (.candidate, .shadow), (.candidate, .rejected),
    (.shadow, .published), (.shadow, .rejected), (.published, .superseded),
    (.published, .expired), (.published, .rolledBack), (.superseded, .rolledBack),
    (.candidate, .expired), (.shadow, .expired), (.reportOnly, .expired)]

variable (source target : FactorStatus)

def canTransition : Bool :=
  source = target || transitions.contains (source, target)

def requiresGovernedEvidence : FactorStatus → Bool
  | .candidate | .shadow | .published => true
  | _ => false

def assertTransition : Except FactorValueError Unit :=
  if canTransition source target then .ok ()
  else .error (.illegalTransition source.asStr target.asStr)

def assertNotReportOnlyPromotion : Except FactorValueError Unit :=
  if source = .reportOnly ∧ (target = .candidate ∨ target = .shadow ∨ target = .published) then
    .error (.reportOnlyPromotionForbidden target.asStr)
  else .ok ()

end FactorLifecycle

def ControlFactorValue.validateForTransition (factor : ControlFactorValue)
    (target : FactorStatus) : Except FactorValueError Unit := do
  FactorLifecycle.assertTransition factor.status target
  FactorLifecycle.assertNotReportOnlyPromotion factor.status target
  if factor.factorType ≠ factor.payload.factorType then
    .error (.payloadTypeMismatch factor.factorType.asStr factor.payload.factorType.asStr)
  if factor.dimensions.factorType.any (· ≠ factor.factorType) then
    .error (.payloadTypeMismatch factor.factorType.asStr
      (factor.dimensions.factorType.elim "unspecified" ControlFactorType.asStr))
  if factor.expiresAt ≤ factor.generatedAt then .error .invalidExpiry
  factor.payload.validateSafety.mapError .payloadSafety
  if FactorLifecycle.requiresGovernedEvidence target && !factor.evidence.isSufficientForCandidate
  then .error .insufficientEvidence

end OxideArb.ControlFactor
