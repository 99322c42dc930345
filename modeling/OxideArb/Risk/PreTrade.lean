import OxideArb.Risk.State

/-!
# Admission of a trade

The gates are evaluated in a fixed order, in two phases. The first two read the published
snapshot alone; the others, the metrics and the sizing are parameters here.
-/

namespace OxideArb.Risk

inductive RiskCheckId
  | manualHalt
  | circuitBreaker
  | blacklistTradingPath
  | tokenBlacklist
  | marketAnomalyBlock
  | reconciliationMaintenance
  | controlFactorManualAckRequired
  | controlFactorSnapshotExpired
  | blockingTrades
  | redeemRouteResolvable
  | metricsFreshness
  | minDepth
  | maxDepthUsage
  | staleness
  | dailyBudget
  | dailyLossCap
  | weeklyLossCap
  | hourlyLossCap
  | feeSpend
  | maxSingleBet
  | marketExposure
  | totalExposure
  | exposurePct
  | potentialLossCap
  | maxPositions
  | wsConnectivity
  | minBalance
  | directionalConcentration
  | dailyDirectionalBudget
  | duplicateMarket
  | drawdownGuard
  | apiErrorRate
deriving DecidableEq, Repr

def RiskCheckId.display : RiskCheckId → String
  | .manualHalt => "ManualHalt"
  | .circuitBreaker => "CircuitBreaker"
  | .blacklistTradingPath => "BlacklistTradingPath"
  | .tokenBlacklist => "TokenBlacklist"
  | .marketAnomalyBlock => "MarketAnomalyBlock"
  | .reconciliationMaintenance => "ReconciliationMaintenance"
  | .controlFactorManualAckRequired => "ControlFactorManualAckRequired"
  | .controlFactorSnapshotExpired => "ControlFactorSnapshotExpired"
  | .blockingTrades => "BlockingTrades"
  | .redeemRouteResolvable => "RedeemRouteResolvable"
  | .metricsFreshness => "MetricsFreshness"
  | .minDepth => "MinDepth"
  | .maxDepthUsage => "MaxDepthUsage"
  | .staleness => "Staleness"
  | .dailyBudget => "DailyBudget"
  | .dailyLossCap => "DailyLossCap"
  | .weeklyLossCap => "WeeklyLossCap"
  | .hourlyLossCap => "HourlyLossCap"
  | .feeSpend => "FeeSpend"
  | .maxSingleBet => "MaxSingleBet"
  | .marketExposure => "MarketExposure"
  | .totalExposure => "TotalExposure"
  | .exposurePct => "ExposurePct"
  | .potentialLossCap => "PotentialLossCap"
  | .maxPositions => "MaxPositions"
  | .wsConnectivity => "WsConnectivity"
  | .minBalance => "MinBalance"
  | .directionalConcentration => "DirectionalConcentration"
  | .dailyDirectionalBudget => "DailyDirectionalBudget"
  | .duplicateMarket => "DuplicateMarket"
  | .drawdownGuard => "DrawdownGuard"
  | .apiErrorRate => "ApiErrorRate"

structure RiskCheckResult where
  checkId : RiskCheckId
  passed : Bool
  detail : Option String
  threshold : Option String
  actual : Option String
deriving DecidableEq, Repr

namespace RiskCheckResult

def ofPassed (checkId : RiskCheckId) : RiskCheckResult := ⟨checkId, true, none, none, none⟩

def ofFailed (checkId : RiskCheckId) (detail threshold actual : String) : RiskCheckResult :=
  ⟨checkId, false, some detail, some threshold, some actual⟩

end RiskCheckResult

inductive ReportMode
  | shortCircuit
  | fullReport
deriving DecidableEq, Repr

structure PreTradeContext (ω μ : Type) where
  request : ω
  snap : RiskSnapshot
  blacklist : BlacklistKey → Option BlacklistInfo
  metrics : μ
  now : DateTime

structure RiskCheck (ω μ : Type) where
  id : RiskCheckId
  requiresMetrics : Bool
  evaluate : PreTradeContext ω μ → RiskCheckResult

section Gates

variable {ω μ : Type}

def manualHaltCheck : RiskCheck ω μ where
  id := .manualHalt
  requiresMetrics := false
  evaluate ctx :=
    match ctx.snap.manualHalt with
    | .clear => .ofPassed .manualHalt
    | .halted reason => .ofFailed .manualHalt reason "not halted" "halted"

def circuitBreakerCheck : RiskCheck ω μ where
  id := .circuitBreaker
  requiresMetrics := false
  evaluate ctx :=
    if ctx.snap.circuitBreaker.allowsTrading then .ofPassed .circuitBreaker
    else .ofFailed .circuitBreaker "circuit breaker is open" "closed or half-open" "open"

/-! ## The pipeline -/

structure PipelineReport where
  results : List RiskCheckResult
  hasFailedHardGate : Bool
  firstFailure : Option RiskCheckId

namespace PipelineReport

def empty : PipelineReport := ⟨[], false, none⟩

def add (report : PipelineReport) (result : RiskCheckResult) (id : RiskCheckId) :
    PipelineReport where
  results := report.results ++ [result]
  hasFailedHardGate := report.hasFailedHardGate || !result.passed
  firstFailure := if result.passed then report.firstFailure else report.firstFailure.or (some id)

def merge (report other : PipelineReport) : PipelineReport where
  results := report.results ++ other.results
  hasFailedHardGate := report.hasFailedHardGate || other.hasFailedHardGate
  firstFailure := report.firstFailure.or other.firstFailure

end PipelineReport

/-- The gates one after the other; in the short-circuit mode up to the first failure. -/
def evaluateGates (mode : ReportMode) (ctx : PreTradeContext ω μ) :
    List (RiskCheck ω μ) → PipelineReport → PipelineReport
  | [], report => report
  | check :: checks, report =>
    let report := report.add (check.evaluate ctx) check.id
    if report.hasFailedHardGate && mode = .shortCircuit then report
    else evaluateGates mode ctx checks report

/-- The gates at the positions from `start` up to `stop`. -/
def evaluateRange (checks : List (RiskCheck ω μ)) (mode : ReportMode) (ctx : PreTradeContext ω μ)
    (start stop : Nat) : PipelineReport :=
  evaluateGates mode ctx ((checks.take stop).drop start) .empty

def metricsSplit (checks : List (RiskCheck ω μ)) : Nat := checks.findIdx (·.requiresMetrics)

/-- The pipeline, with the gates behind the first two given. -/
def pipeline (gates : List (RiskCheck ω μ)) : List (RiskCheck ω μ) :=
  manualHaltCheck :: circuitBreakerCheck :: gates

theorem evaluateGates_hasFailed (mode : ReportMode) (ctx : PreTradeContext ω μ)
    (checks : List (RiskCheck ω μ)) (report : PipelineReport) :
    (evaluateGates mode ctx checks report).hasFailedHardGate =
      (report.hasFailedHardGate || checks.any fun check => !(check.evaluate ctx).passed) := by
  induction checks generalizing report with
  | nil => simp [evaluateGates]
  | cons check checks ih =>
    unfold evaluateGates
    dsimp only
    split
    next hstop =>
      have hfailed := (Bool.and_eq_true_iff.mp hstop).1
      have hadd : (report.hasFailedHardGate || !(check.evaluate ctx).passed) = true := hfailed
      rw [hfailed, List.any_cons, ← Bool.or_assoc, hadd, Bool.true_or]
    next =>
      rw [ih, List.any_cons, ← Bool.or_assoc]
      rfl

/-! ## The decision -/

structure SizeResult where
  betUsd : Usd
  bindingConstraint : String

/-- The rest of the pipeline and the sizing, as they are built from the configuration. -/
structure EngineParams (ω μ : Type) where
  gates : List (RiskCheck ω μ)
  sizer : PreTradeContext ω μ → SizeResult
  minTradeUsd : Decimal

structure RiskDecision where
  allowed : Bool
  denialReason : Option String
  recommendedSize : Option SizeResult
  evaluatedAt : DateTime
  stateVersion : Nat
  checkResults : List RiskCheckResult

def preTradeCheckCore (e : Engine) (now : DateTime) (params : EngineParams ω μ) (request : ω)
    (zeroed metrics : μ) (mode : ReportMode) : RiskDecision :=
  let checks := pipeline params.gates
  let split := metricsSplit checks
  let phase1Ctx : PreTradeContext ω μ :=
    { request, snap := e.riskSnapshot, blacklist := e.publishedBlacklist, metrics := zeroed, now }
  let phase1 := evaluateRange checks mode phase1Ctx 0 split
  let stopped := phase1.hasFailedHardGate && mode = .shortCircuit
  let ctx := if stopped then phase1Ctx else { phase1Ctx with metrics }
  let report :=
    if stopped then phase1
    else phase1.merge (evaluateRange checks mode ctx split checks.length)
  let size := params.sizer ctx
  let allowed := !report.hasFailedHardGate && (0 < size.betUsd && params.minTradeUsd ≤ size.betUsd)
  { allowed
    denialReason :=
      if report.hasFailedHardGate then
        (report.results.find? (!·.passed)).map fun c =>
          c.checkId.display ++ ": " ++ c.detail.getD "failed"
      else if allowed then none
      else some (s!"sizing returned {size.betUsd} (binding: {size.bindingConstraint}, " ++
        s!"min_trade: {params.minTradeUsd})")
    recommendedSize := if allowed then some size else none
    evaluatedAt := now
    stateVersion := e.stateVersion
    checkResults := report.results }

/-- An engine that publishes no trading denies every trade. -/
theorem preTradeCheckCore_denies {e : Engine} (h : e.allowsTrading = false) (now : DateTime)
    (params : EngineParams ω μ) (request : ω) (zeroed metrics : μ) (mode : ReportMode) :
    (preTradeCheckCore e now params request zeroed metrics mode).allowed = false := by
  let ctx : PreTradeContext ω μ :=
    { request, snap := e.riskSnapshot, blacklist := e.publishedBlacklist, metrics := zeroed, now }
  -- one of the first two gates fails, and both are in the first phase
  have hgate : (!((manualHaltCheck : RiskCheck ω μ).evaluate ctx).passed ||
      !((circuitBreakerCheck : RiskCheck ω μ).evaluate ctx).passed) = true := by
    unfold Engine.allowsTrading at h
    simp only [manualHaltCheck, circuitBreakerCheck, ctx]
    cases hm : e.riskSnapshot.manualHalt with
    | halted reason => simp [RiskCheckResult.ofFailed]
    | clear =>
      have hcb : e.riskSnapshot.circuitBreaker.allowsTrading = false := by
        simpa [hm, ManualHaltGate.allowsTrading] using h
      simp [hcb, RiskCheckResult.ofFailed, RiskCheckResult.ofPassed]
  have hsplit : metricsSplit (pipeline params.gates) = metricsSplit params.gates + 2 := by
    simp [metricsSplit, pipeline, manualHaltCheck, circuitBreakerCheck, List.findIdx_cons]
  have hphase1 : (evaluateRange (pipeline params.gates) mode ctx 0
      (metricsSplit (pipeline params.gates))).hasFailedHardGate = true := by
    unfold evaluateRange
    rw [evaluateGates_hasFailed, hsplit, pipeline, List.take_succ_cons, List.take_succ_cons,
      List.drop_zero, List.any_cons, List.any_cons, ← Bool.or_assoc (!_), hgate]
    simp
  have hreport : ∀ other : PipelineReport, ((evaluateRange (pipeline params.gates) mode ctx 0
      (metricsSplit (pipeline params.gates))).merge other).hasFailedHardGate = true := by
    intro other
    simp [PipelineReport.merge, hphase1]
  unfold preTradeCheckCore
  dsimp only
  split
  · simp [ctx] at hphase1
    simp [hphase1]
  · simp [ctx] at hreport
    simp [hreport]

end Gates

end OxideArb.Risk
