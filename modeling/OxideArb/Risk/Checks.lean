import OxideArb.Risk.Sizing

/-!
# The gates

The core gates in their canonical order, with the texts of their denials; a decimal in a text is
written as the fraction it is. The first ten read no live metrics (`MetricsFree`).
-/

def OxideArb.StalenessLevel.asStr : StalenessLevel → String
  | .fresh => "fresh"
  | .acceptable => "acceptable"
  | .stale => "stale"
  | .expired => "expired"

namespace OxideArb.Risk

open ControlFactor (FactorDecisionContext)

structure PreTradeConfig extends RiskConfig where
  minDepthUsd : Decimal
  maxDepthUsagePct : Decimal
  wsDisconnectThresholdSecs : Nat
  minBalanceUsd : Decimal
  maxTotalExposureUsd : Decimal
  reserveBalanceUsd : Decimal
  maxOpenPositions : Nat
  maxSingleMarketExposureUsd : Decimal
  maxSingleBetUsd : Decimal
  maxTotalExposurePct : Decimal
  maxMetricsStalenessSecs : Nat
  kelly : QuarterKellyCalculator
  bankrollUsd : Decimal
  minTradeUsd : Decimal
  maxConcurrentDirectional : Nat
  dailyDirectionalBudget : Nat
deriving DecidableEq, Repr

abbrev TradeCheck := RiskCheck TradeRequest RiskMetricsSnapshot

/-! ## Gates on the request and the published snapshot -/

def BlacklistScope.asStr : BlacklistScope → String
  | .dataPath => "data_path"
  | .tradingPath => "trading_path"
  | .full => "full"

def BlacklistReason.asStr : BlacklistReason → String
  | .consecutiveFokFailures => "consecutive_fok_failures"
  | .tradeFailedAfterMatched => "trade_failed_after_matched"
  | .depthDrop => "depth_drop"
  | .tickChange => "tick_change"
  | .manual => "manual"
  | .dataNotFound => "data_not_found"

def blacklistCheck : TradeCheck where
  id := .blacklistTradingPath
  requiresMetrics := false
  evaluate ctx :=
    let block := (ctx.blacklist (.market ctx.request.opportunity.marketId)).filter fun info =>
      BlacklistScope.rank .tradingPath ≤ info.scope.rank
    match block with
    | some info =>
      .ofFailed .blacklistTradingPath
        (info.reason.asStr ++ " (scope: " ++ info.scope.asStr ++ ")") "not blacklisted"
        "blacklisted"
    | none => .ofPassed .blacklistTradingPath

def tokenBlacklistCheck : TradeCheck where
  id := .tokenBlacklist
  requiresMetrics := false
  evaluate ctx :=
    if (ctx.blacklist (.token ctx.request.opportunity.tokenId)).isSome then
      .ofFailed .tokenBlacklist "token is blacklisted" "not blacklisted" "blacklisted"
    else .ofPassed .tokenBlacklist

variable (config : PreTradeConfig) (id : RiskCheckId)

def factorCheck (evaluate : FactorDecisionContext → RiskCheckResult) : TradeCheck where
  id := id
  requiresMetrics := false
  evaluate ctx := ctx.request.factorContext.elim (.ofPassed id) evaluate

def marketAnomalyBlockCheck : TradeCheck :=
  factorCheck .marketAnomalyBlock fun context =>
    if context.marketAnomaly.isBlocking then
      .ofFailed .marketAnomalyBlock
        (context.marketAnomaly.reasonCode.getD "market anomaly block") "no active anomaly block"
        "blocked"
    else .ofPassed .marketAnomalyBlock

def reconciliationMaintenanceCheck : TradeCheck :=
  factorCheck .reconciliationMaintenance fun context =>
    if context.reconciliationHealth.forceMaintenanceMode then
      .ofFailed .reconciliationMaintenance "reconciliation health forced maintenance mode"
        "trading healthy" "maintenance"
    else .ofPassed .reconciliationMaintenance

def controlFactorManualAckRequiredCheck : TradeCheck :=
  factorCheck .controlFactorManualAckRequired fun context =>
    if context.reconciliationHealth.requireManualAck then
      .ofFailed .controlFactorManualAckRequired
        "reconciliation health requires manual acknowledgement" "acknowledged" "pending"
    else if context.marketAnomaly.manualAckRequired then
      .ofFailed .controlFactorManualAckRequired
        (context.marketAnomaly.reasonCode.elim "market anomaly requires manual acknowledgement"
          fun code => s!"market anomaly {code} requires manual acknowledgement")
        "acknowledged" "pending"
    else .ofPassed .controlFactorManualAckRequired

def controlFactorSnapshotExpiredCheck : TradeCheck :=
  factorCheck .controlFactorSnapshotExpired fun context =>
    if context.isSnapshotStaleFailClosed then
      .ofFailed .controlFactorSnapshotExpired "control-factor publication TTL expired"
        "publication active" "expired"
    else .ofPassed .controlFactorSnapshotExpired

def blockingTradesCheck : TradeCheck where
  id := .blockingTrades
  requiresMetrics := false
  evaluate ctx :=
    let count := ctx.request.integrity.blockingCount
    if ctx.request.integrity.blocksAdmission ctx.request.settlementGate.mode then
      .ofFailed .blockingTrades
        (s!"{count} durable trade(s) block new entries — reconcile via " ++
          "GET /api/trades/reconciliation")
        "0 blocking" (toString count)
    else .ofPassed .blockingTrades

def redeemRouteResolvableCheck : TradeCheck where
  id := .redeemRouteResolvable
  requiresMetrics := false
  evaluate ctx :=
    let market := ctx.request.opportunity.marketId
    if ctx.request.settlementGate.mode ≠ .live then .ofPassed .redeemRouteResolvable
    else
      match ctx.request.settlementGate.marketNegRisk, ctx.request.settlementGate.redeemPolicy with
      | none, _ =>
        .ofFailed .redeemRouteResolvable ("market " ++ market.raw ++ " not in registry")
          "registry neg_risk" "missing"
      | some _, none =>
        .ofFailed .redeemRouteResolvable "settlement.redeem policy unavailable" "policy present"
          "missing"
      | some negRisk, some policy =>
        if (policy.resolve market negRisk).isSome then .ofPassed .redeemRouteResolvable
        else
          .ofFailed .redeemRouteResolvable
            ("settlement.redeem: no route for market " ++ market.raw ++ s!" (neg_risk={negRisk})")
            "resolvable route" "none"

/-! ## Gates on the opportunity and the live metrics -/

def limitCheck (passes : TradeContext → Bool) (detail threshold actual : TradeContext → String) :
    TradeCheck where
  id := id
  requiresMetrics := true
  evaluate ctx :=
    if passes ctx then .ofPassed id
    else .ofFailed id (detail ctx) (threshold ctx) (actual ctx)

def metricsFreshnessCheck : TradeCheck where
  id := .metricsFreshness
  requiresMetrics := true
  evaluate ctx :=
    let age := ctx.metrics.metricsAgeSecs
    let maxAge := config.maxMetricsStalenessSecs
    if !ctx.metrics.isAuthoritative then
      .ofFailed .metricsFreshness "risk metrics source is not authoritative" "authoritative"
        "non-authoritative"
    else if ctx.metrics.isStale then
      .ofFailed .metricsFreshness "risk metrics snapshot has been marked stale" "not stale" "stale"
    else if age ≤ maxAge then .ofPassed .metricsFreshness
    else .ofFailed .metricsFreshness s!"risk metrics snapshot is stale: {age}s" s!"≤ {maxAge}s"
      s!"{age}s"

def minDepthCheck : TradeCheck where
  id := .minDepth
  requiresMetrics := true
  evaluate ctx :=
    let depthPct := ctx.request.opportunity.depthUsedPct
    let minDepth := config.minDepthUsd
    let availableDepth := ctx.request.opportunity.totalCost * 100 / depthPct
    if depthPct = 0 then
      .ofFailed .minDepth "depth_used_pct is zero — cannot infer available depth"
        s!"≥ ${minDepth}" "unknown"
    else if minDepth ≤ availableDepth then .ofPassed .minDepth
    else
      .ofFailed .minDepth s!"available depth ${availableDepth} below min ${minDepth}"
        s!"≥ ${minDepth}" s!"${availableDepth}"

def maxDepthUsageCheck : TradeCheck :=
  let limit := config.maxDepthUsagePct
  limitCheck .maxDepthUsage (fun ctx => ctx.request.opportunity.depthUsedPct ≤ limit)
    (fun ctx => "depth usage " ++ toString ctx.request.opportunity.depthUsedPct ++
      s!"% exceeds max {limit}%")
    (fun _ => s!"≤ {limit}%")
    (fun ctx => toString ctx.request.opportunity.depthUsedPct ++ "%")

def stalenessCheck : TradeCheck :=
  limitCheck .staleness (fun ctx => !ctx.request.opportunity.staleness.tooStale)
    (fun ctx => "data staleness '" ++ ctx.request.opportunity.staleness.asStr ++
      "' is unacceptable")
    (fun _ => "< stale") (fun ctx => ctx.request.opportunity.staleness.asStr)

def dailyBudgetCheck : TradeCheck :=
  limitCheck .dailyBudget
    (fun ctx => TradeContext.intendedCostUsd ctx ≤ ctx.snap.dailyBudgetRemaining)
    (fun ctx => "budget exhausted (remaining: " ++ toString ctx.snap.dailyBudgetRemaining ++ ")")
    (fun _ => "> $0") (fun ctx => "$" ++ toString ctx.snap.dailyBudgetRemaining)

def lossCapCheck (period : String) (loss : TradeContext → Usd) (cap : Decimal) : TradeCheck :=
  limitCheck id (fun ctx => loss ctx < cap)
    (fun ctx => period ++ " loss $" ++ toString (loss ctx) ++ s!" ≥ cap ${cap}")
    (fun _ => s!"< ${cap}") (fun ctx => "$" ++ toString (loss ctx))

def dailyLossCapCheck : TradeCheck :=
  lossCapCheck .dailyLossCap "daily" (·.snap.dailyLoss) config.maxDailyLossUsd

def weeklyLossCapCheck : TradeCheck :=
  lossCapCheck .weeklyLossCap "weekly" (·.snap.weeklyLoss) config.maxWeeklyLossUsd

def hourlyLossCapCheck : TradeCheck :=
  lossCapCheck .hourlyLossCap "hourly" (·.snap.hourlyLoss) config.maxHourlyLossUsd

def feeSpendCheck : TradeCheck where
  id := .feeSpend
  requiresMetrics := false
  evaluate ctx :=
    let daily := ctx.snap.dailyFee
    let hourly := ctx.snap.hourlyFee
    let dailyCap := config.maxDailyFeeSpendUsd
    let hourlyCap := config.maxHourlyFeeSpendUsd
    if dailyCap ≤ daily then
      .ofFailed .feeSpend s!"daily fees ${daily} ≥ cap ${dailyCap}" s!"< ${dailyCap}" s!"${daily}"
    else if hourlyCap ≤ hourly then
      .ofFailed .feeSpend s!"hourly fees ${hourly} ≥ cap ${hourlyCap}" s!"< ${hourlyCap}"
        s!"${hourly}"
    else .ofPassed .feeSpend

def amountCheck (what : String) (amount : TradeContext → Usd) (limit : Usd) : TradeCheck :=
  limitCheck id (fun ctx => amount ctx ≤ limit)
    (fun ctx => what ++ " $" ++ toString (amount ctx) ++ s!" exceeds max ${limit}")
    (fun _ => s!"≤ ${limit}") (fun ctx => "$" ++ toString (amount ctx))

def maxSingleBetCheck : TradeCheck :=
  amountCheck .maxSingleBet "bet" (fun ctx => TradeContext.intendedCostUsd ctx)
    config.maxSingleBetUsd

def marketExposureCheck : TradeCheck :=
  amountCheck .marketExposure "post-trade market exposure"
    (fun ctx => ctx.metrics.marketExposure + TradeContext.intendedCostUsd ctx)
    config.maxSingleMarketExposureUsd

def totalExposureCheck : TradeCheck :=
  amountCheck .totalExposure "post-trade total exposure"
    (fun ctx => ctx.metrics.totalExposure + TradeContext.intendedCostUsd ctx)
    config.maxTotalExposureUsd

def exposurePctCheck : TradeCheck where
  id := .exposurePct
  requiresMetrics := true
  evaluate ctx :=
    let limit := config.maxTotalExposurePct
    let postTrade := ctx.metrics.totalExposure + TradeContext.intendedCostUsd ctx
    let pct := postTrade / ctx.metrics.cashBalance * 100
    if ctx.metrics.cashBalance ≤ 0 then
      .ofFailed .exposurePct "cash balance is zero or negative — cannot compute exposure %"
        s!"≤ {limit}%" "N/A"
    else if pct ≤ limit then .ofPassed .exposurePct
    else .ofFailed .exposurePct s!"exposure {pct}% exceeds max {limit}%" s!"≤ {limit}%" s!"{pct}%"

def potentialLossCapCheck : TradeCheck where
  id := .potentialLossCap
  requiresMetrics := true
  evaluate ctx :=
    let postTrade := ctx.snap.totalPotentialLoss + TradeContext.intendedCostUsd ctx +
      TradeContext.intendedFeeUsd ctx
    let cash := ctx.metrics.cashBalance
    if postTrade ≤ cash then .ofPassed .potentialLossCap
    else
      .ofFailed .potentialLossCap s!"potential loss ${postTrade} exceeds balance ${cash}"
        s!"≤ ${cash}" s!"${postTrade}"

def countCheck (what limitName : String) (count : TradeContext → Nat) (limit : Nat) : TradeCheck :=
  limitCheck id (fun ctx => count ctx < limit)
    (fun ctx => what ++ " " ++ toString (count ctx) ++ " ≥ " ++ limitName ++ s!" {limit}")
    (fun _ => s!"< {limit}") (fun ctx => toString (count ctx))

def maxPositionsCheck : TradeCheck :=
  countCheck .maxPositions "open positions" "max" (·.metrics.openPositionCount)
    config.maxOpenPositions

def wsConnectivityCheck : TradeCheck :=
  let limit := config.wsDisconnectThresholdSecs
  limitCheck .wsConnectivity (fun ctx => TradeContext.wsDisconnectSecs ctx < limit)
    (fun ctx => "WS disconnected for " ++ toString (TradeContext.wsDisconnectSecs ctx) ++ "s")
    (fun _ => s!"< {limit}s") (fun ctx => toString (TradeContext.wsDisconnectSecs ctx) ++ "s")

def apiErrorRateCheck : TradeCheck where
  id := .apiErrorRate
  requiresMetrics := true
  evaluate ctx :=
    let threshold := config.apiErrorRateThreshold
    let rate : Decimal := ctx.metrics.apiErrorCount / ctx.metrics.apiRequestCount
    if ctx.metrics.apiRequestCount = 0 then .ofPassed .apiErrorRate
    else if rate < threshold then .ofPassed .apiErrorRate
    else
      .ofFailed .apiErrorRate s!"API error rate {rate} >= threshold {threshold}" s!"< {threshold}"
        s!"{rate}"

def minBalanceCheck : TradeCheck :=
  let limit := config.minBalanceUsd
  limitCheck .minBalance (fun ctx => limit ≤ ctx.metrics.cashBalance)
    (fun ctx => "balance $" ++ toString ctx.metrics.cashBalance ++ s!" below min ${limit}")
    (fun _ => s!"≥ ${limit}") (fun ctx => "$" ++ toString ctx.metrics.cashBalance)

def directionalConcentrationCheck : TradeCheck :=
  countCheck .directionalConcentration "directional concentration" "max"
    (fun ctx => ctx.metrics.openDirectionalCount ctx.request.opportunity.side)
    config.maxConcurrentDirectional

def dailyDirectionalBudgetCheck : TradeCheck :=
  countCheck .dailyDirectionalBudget "daily directional trades" "budget"
    (fun ctx => ctx.metrics.dailyDirectionalTrades ctx.request.opportunity.side)
    config.dailyDirectionalBudget

def duplicateMarketCheck : TradeCheck :=
  limitCheck .duplicateMarket (fun ctx => ctx.metrics.marketExposure ≤ 0)
    (fun ctx => "market already has exposure $" ++ toString ctx.metrics.marketExposure)
    (fun _ => "$0") (fun ctx => "$" ++ toString ctx.metrics.marketExposure)

def drawdownGuardCheck : TradeCheck where
  id := .drawdownGuard
  requiresMetrics := true
  evaluate ctx :=
    let guard := TradeContext.drawdown ctx
    let factor := guard.sizingFactor ctx.metrics.equity
    if (guard.evaluate ctx.metrics.equity).2 = .halt then
      .ofFailed .drawdownGuard s!"drawdown halt (factor: {factor})" "!= Halt" "Halt"
    else .ofPassed .drawdownGuard

/-! ## The pipeline -/

def publishedGates : List TradeCheck :=
  [blacklistCheck, tokenBlacklistCheck, marketAnomalyBlockCheck, reconciliationMaintenanceCheck,
    controlFactorManualAckRequiredCheck, controlFactorSnapshotExpiredCheck, blockingTradesCheck,
    redeemRouteResolvableCheck]

def metricsGates : List TradeCheck :=
  [metricsFreshnessCheck config, minDepthCheck config, maxDepthUsageCheck config, stalenessCheck,
    dailyBudgetCheck, dailyLossCapCheck config, weeklyLossCapCheck config,
    hourlyLossCapCheck config, feeSpendCheck config, maxSingleBetCheck config,
    marketExposureCheck config, totalExposureCheck config, exposurePctCheck config,
    potentialLossCapCheck, maxPositionsCheck config, wsConnectivityCheck config,
    apiErrorRateCheck config, minBalanceCheck config, directionalConcentrationCheck config,
    dailyDirectionalBudgetCheck config, duplicateMarketCheck, drawdownGuardCheck]

def coreGates : List TradeCheck := publishedGates ++ metricsGates config

def availableBankroll (equity reserve reservedUsd potentialLoss configBankroll : Usd) : Usd :=
  max (min configBankroll (max (equity - reserve - reservedUsd - potentialLoss) 0)) 0

def sizerOf : MultiConstraintSizer where
  kelly := config.kelly
  maxSingleBetUsd := config.maxSingleBetUsd
  maxSingleLossUsd := config.maxSingleLossUsd
  maxSingleMarketExposureUsd := config.maxSingleMarketExposureUsd
  maxTotalExposureUsd := config.maxTotalExposureUsd
  maxWeeklyLossUsd := config.maxWeeklyLossUsd
  reserveBalanceUsd := config.reserveBalanceUsd
  minTradeUsd := config.minTradeUsd

/-- The gates and the sizing of the engine. -/
def engineParams : EngineParams TradeRequest RiskMetricsSnapshot where
  gates := coreGates config
  sizer ctx :=
    let bankroll := availableBankroll ctx.metrics.equity config.reserveBalanceUsd
      ctx.metrics.reservedUsd ctx.snap.totalPotentialLoss config.bankrollUsd
    let drawdownFactor := (TradeContext.drawdown ctx).sizingFactor ctx.metrics.equity
    ((sizerOf config).size ctx bankroll drawdownFactor).toSizeResult
  minTradeUsd := config.minTradeUsd

/-! ## Evaluation in two phases -/

section Phases

variable {ω μ : Type}

theorem PipelineReport.merge_add (r₁ r₂ : PipelineReport) (result : RiskCheckResult)
    (id : RiskCheckId) : (r₁.merge r₂).add result id = r₁.merge (r₂.add result id) := by
  unfold PipelineReport.add PipelineReport.merge
  simp only [List.append_assoc, Bool.or_assoc, PipelineReport.mk.injEq, true_and]
  split
  · rfl
  · exact Option.or_assoc

theorem evaluateGates_merge {mode : ReportMode} {r₁ : PipelineReport}
    (h : (r₁.hasFailedHardGate && mode = .shortCircuit) = false) (ctx : PreTradeContext ω μ)
    (checks : List (RiskCheck ω μ)) (r₂ : PipelineReport) :
    evaluateGates mode ctx checks (r₁.merge r₂) = r₁.merge (evaluateGates mode ctx checks r₂) := by
  induction checks generalizing r₂ with
  | nil => rfl
  | cons check checks ih =>
    have hstop : ∀ r : PipelineReport,
        ((r₁.merge r).hasFailedHardGate && mode = .shortCircuit) =
          (r.hasFailedHardGate && mode = .shortCircuit) := by
      intro r
      change ((r₁.hasFailedHardGate || r.hasFailedHardGate) && decide (mode = .shortCircuit)) = _
      rw [Bool.and_or_distrib_right, h, Bool.false_or]
    unfold evaluateGates
    simp only [PipelineReport.merge_add, hstop]
    split
    · rfl
    · exact ih _

theorem evaluateGates_append {mode : ReportMode} (ctx : PreTradeContext ω μ)
    (first rest : List (RiskCheck ω μ)) {report : PipelineReport}
    (h : (report.hasFailedHardGate && mode = .shortCircuit) = false) :
    evaluateGates mode ctx (first ++ rest) report =
      let front := evaluateGates mode ctx first report
      if front.hasFailedHardGate && mode = .shortCircuit then front
      else evaluateGates mode ctx rest front := by
  induction first generalizing report with
  | nil => simp only [List.nil_append, evaluateGates, h, Bool.false_eq_true, if_false]
  | cons check first ih =>
    simp only [List.cons_append, evaluateGates]
    by_cases hstop : ((report.add (check.evaluate ctx) check.id).hasFailedHardGate &&
        mode = .shortCircuit) = true
    · simp only [hstop, if_true]
    · simp only [hstop]
      exact ih (Bool.eq_false_iff.mpr hstop)

theorem evaluateGates_congr {ctx ctx' : PreTradeContext ω μ} {checks : List (RiskCheck ω μ)}
    (h : ∀ check ∈ checks, check.evaluate ctx = check.evaluate ctx') (mode : ReportMode)
    (report : PipelineReport) :
    evaluateGates mode ctx checks report = evaluateGates mode ctx' checks report := by
  induction checks generalizing report with
  | nil => rfl
  | cons check checks ih =>
    unfold evaluateGates
    rw [h check List.mem_cons_self]
    simp only [ih fun c hc => h c (List.mem_cons_of_mem _ hc)]

def MetricsFree (check : RiskCheck ω μ) : Prop :=
  ∀ (ctx : PreTradeContext ω μ) (metrics : μ),
    check.evaluate { ctx with metrics } = check.evaluate ctx

/-- **Two phases are one**: gates that read no metrics may run before they are loaded. -/
theorem evaluateGates_split {first : List (RiskCheck ω μ)} (hfree : ∀ c ∈ first, MetricsFree c)
    (rest : List (RiskCheck ω μ)) (mode : ReportMode) (ctx : PreTradeContext ω μ) (zeroed : μ) :
    (let phase1 := evaluateGates mode { ctx with metrics := zeroed } first .empty
      if phase1.hasFailedHardGate && mode = .shortCircuit then phase1
      else phase1.merge (evaluateGates mode ctx rest .empty)) =
      evaluateGates mode ctx (first ++ rest) .empty := by
  have hphase1 : evaluateGates mode { ctx with metrics := zeroed } first .empty =
      evaluateGates mode ctx first .empty :=
    evaluateGates_congr (fun c hc => hfree c hc ctx zeroed) mode _
  rw [evaluateGates_append ctx first rest (by simp [PipelineReport.empty]), hphase1]
  dsimp only
  split
  · rfl
  · rename_i hgo
    have hempty : (evaluateGates mode ctx first .empty).merge .empty =
        evaluateGates mode ctx first .empty := by
      simp [PipelineReport.merge, PipelineReport.empty]
    rw [← evaluateGates_merge (Bool.eq_false_iff.mpr hgo), hempty]

/-! ## The two modes -/

theorem results_prefix_evaluateGates (mode : ReportMode) (ctx : PreTradeContext ω μ)
    (checks : List (RiskCheck ω μ)) (report : PipelineReport) :
    report.results <+: (evaluateGates mode ctx checks report).results := by
  induction checks generalizing report with
  | nil => exact List.prefix_rfl
  | cons check checks ih =>
    have hadd : report.results <+: (report.add (check.evaluate ctx) check.id).results :=
      List.prefix_append _ _
    unfold evaluateGates
    dsimp only
    split
    · exact hadd
    · exact hadd.trans (ih _)

theorem shortCircuit_prefix_fullReport (ctx : PreTradeContext ω μ)
    (checks : List (RiskCheck ω μ)) (report : PipelineReport) :
    (evaluateGates .shortCircuit ctx checks report).results <+:
      (evaluateGates .fullReport ctx checks report).results := by
  induction checks generalizing report with
  | nil => exact List.prefix_rfl
  | cons check checks ih =>
    have hfull : evaluateGates .fullReport ctx (check :: checks) report =
        evaluateGates .fullReport ctx checks (report.add (check.evaluate ctx) check.id) := by
      simp [evaluateGates]
    rw [hfull, evaluateGates.eq_2]
    split
    · exact results_prefix_evaluateGates _ _ _ _
    · exact ih _

theorem evaluateGates_find (mode : ReportMode) (ctx : PreTradeContext ω μ)
    (checks : List (RiskCheck ω μ)) {report : PipelineReport}
    (h : report.hasFailedHardGate = (report.results.find? (!·.passed)).isSome) :
    (evaluateGates mode ctx checks report).results.find? (!·.passed) =
      (report.results.find? (!·.passed)).or
        ((checks.map (·.evaluate ctx)).find? (!·.passed)) := by
  induction checks generalizing report with
  | nil => simp [evaluateGates]
  | cons check checks ih =>
    have hadd : (report.add (check.evaluate ctx) check.id).results.find? (!·.passed) =
        (report.results.find? (!·.passed)).or ([check.evaluate ctx].find? (!·.passed)) :=
      List.find?_append
    have hsplit : (report.results.find? (!·.passed)).or
          (((check :: checks).map (·.evaluate ctx)).find? (!·.passed)) =
        ((report.add (check.evaluate ctx) check.id).results.find? (!·.passed)).or
          ((checks.map (·.evaluate ctx)).find? (!·.passed)) := by
      rw [hadd, Option.or_assoc]
      congr 1
      rw [← List.find?_append]
      rfl
    have hcoherent : (report.add (check.evaluate ctx) check.id).hasFailedHardGate =
        ((report.add (check.evaluate ctx) check.id).results.find? (!·.passed)).isSome := by
      rw [hadd, Option.isSome_or, ← h]
      cases hpassed : (check.evaluate ctx).passed <;> simp [PipelineReport.add, hpassed]
    rw [hsplit]
    unfold evaluateGates
    dsimp only
    split
    · rename_i hstop
      have hfound := (Bool.and_eq_true_iff.mp hstop).1
      rw [hcoherent] at hfound
      obtain ⟨result, hresult⟩ := Option.isSome_iff_exists.mp hfound
      rw [hresult]
      rfl
    · exact ih hcoherent

theorem preTradeCheckCore_split {params : EngineParams ω μ} {first rest : List (RiskCheck ω μ)}
    (hchecks : pipeline params.gates = first ++ rest)
    (hsplit : metricsSplit (pipeline params.gates) = first.length)
    (hfree : ∀ c ∈ first, MetricsFree c) (e : Engine) (now : DateTime) (request : ω)
    (zeroed metrics : μ) (mode : ReportMode) :
    let decision := preTradeCheckCore e now params request zeroed metrics mode
    let ctx : PreTradeContext ω μ :=
      { request, snap := e.riskSnapshot, blacklist := e.publishedBlacklist, metrics, now }
    let report := evaluateGates mode ctx (pipeline params.gates) .empty
    decision.checkResults = report.results ∧
      decision.allowed = (!report.hasFailedHardGate &&
        (0 < (params.sizer ctx).betUsd && params.minTradeUsd ≤ (params.sizer ctx).betUsd)) := by
  intro decision ctx report
  have hreport := evaluateGates_split hfree rest mode ctx zeroed
  have hphase1 : ∀ ctx, evaluateRange (pipeline params.gates) mode ctx 0
      (metricsSplit (pipeline params.gates)) = evaluateGates mode ctx first .empty := by
    intro ctx
    unfold evaluateRange
    rw [hsplit, hchecks, List.take_left, List.drop_zero]
  have hphase2 : ∀ ctx, evaluateRange (pipeline params.gates) mode ctx
      (metricsSplit (pipeline params.gates)) (pipeline params.gates).length =
      evaluateGates mode ctx rest .empty := by
    intro ctx
    unfold evaluateRange
    rw [hsplit, List.take_length, hchecks, List.drop_left]
  rw [← hchecks] at hreport
  unfold decision preTradeCheckCore
  simp only [hphase1, hphase2]
  change (let phase1 := evaluateGates mode { ctx with metrics := zeroed } first .empty
    if phase1.hasFailedHardGate && mode = .shortCircuit then phase1
    else phase1.merge (evaluateGates mode ctx rest .empty)) = report at hreport
  by_cases hstop : ((evaluateGates mode { ctx with metrics := zeroed } first
      .empty).hasFailedHardGate && decide (mode = .shortCircuit)) = true
  · obtain ⟨hfailed, hmode⟩ := Bool.and_eq_true_iff.mp hstop
    simp only [hstop, if_true] at hreport
    rw [← hreport]
    unfold ctx at hfailed ⊢
    simp only [hfailed, hmode, Bool.and_self, if_true, Bool.not_true, Bool.false_and, and_self]
  · simp only [hstop] at hreport
    rw [← hreport]
    unfold ctx at hstop ⊢
    simp [hstop]

end Phases

/-! ## The decision -/

def RiskDecision.firstFailing (decision : RiskDecision) : Option RiskCheckId :=
  (decision.checkResults.find? (!·.passed)).map (·.checkId)

def Named (check : TradeCheck) : Prop := ∀ ctx, (check.evaluate ctx).checkId = check.id

theorem limitCheck_named {id : RiskCheckId} {passes : TradeContext → Bool}
    {detail threshold actual : TradeContext → String} :
    Named (limitCheck id passes detail threshold actual) := by
  intro ctx
  simp only [limitCheck]
  split <;> rfl

theorem factorCheck_named {id : RiskCheckId} {evaluate : FactorDecisionContext → RiskCheckResult}
    (h : ∀ context, (evaluate context).checkId = id) : Named (factorCheck id evaluate) := by
  intro ctx
  simp only [factorCheck]
  cases ctx.request.factorContext with
  | none => rfl
  | some context => exact h context

theorem metricsFree_publishedGates :
    ∀ check ∈ (manualHaltCheck :: circuitBreakerCheck :: publishedGates : List TradeCheck),
      MetricsFree check := by
  simp only [publishedGates, List.forall_mem_cons]
  refine ⟨?_, ?_, ?_, ?_, ?_, ?_, ?_, ?_, ?_, ?_, List.forall_mem_nil _⟩ <;> exact fun _ _ => rfl

theorem metricsSplit_coreGates : metricsSplit (pipeline (coreGates config)) = 10 :=
  rfl

theorem named_publishedGates : ∀ check ∈ publishedGates, Named check := by
  simp only [publishedGates, List.forall_mem_cons]
  refine ⟨?_, ?_, ?_, ?_, ?_, ?_, ?_, ?_, List.forall_mem_nil _⟩
  · intro ctx
    simp only [blacklistCheck]
    split <;> rfl
  · intro ctx
    simp only [tokenBlacklistCheck]
    split <;> rfl
  · exact factorCheck_named fun context => by split <;> rfl
  · exact factorCheck_named fun context => by split <;> rfl
  · refine factorCheck_named fun context => ?_
    split
    · rfl
    · split <;> rfl
  · exact factorCheck_named fun context => by split <;> rfl
  · intro ctx
    simp only [blockingTradesCheck]
    split <;> rfl
  · intro ctx
    simp only [redeemRouteResolvableCheck]
    split
    · rfl
    · split
      · rfl
      · rfl
      · split <;> rfl

theorem named_metricsGates : ∀ check ∈ metricsGates config, Named check := by
  have hfreshness : Named (metricsFreshnessCheck config) := by
    intro ctx
    simp only [metricsFreshnessCheck]
    split_ifs <;> rfl
  have hdepth : Named (minDepthCheck config) := by
    intro ctx
    simp only [minDepthCheck]
    split_ifs <;> rfl
  have hfee : Named (feeSpendCheck config) := by
    intro ctx
    simp only [feeSpendCheck]
    split_ifs <;> rfl
  have hpct : Named (exposurePctCheck config) := by
    intro ctx
    simp only [exposurePctCheck]
    split_ifs <;> rfl
  have hloss : Named potentialLossCapCheck := by
    intro ctx
    simp only [potentialLossCapCheck]
    split <;> rfl
  have hrate : Named (apiErrorRateCheck config) := by
    intro ctx
    simp only [apiErrorRateCheck]
    split_ifs <;> rfl
  have hdrawdown : Named drawdownGuardCheck := by
    intro ctx
    simp only [drawdownGuardCheck]
    split <;> rfl
  simp only [metricsGates, List.forall_mem_cons]
  exact ⟨hfreshness, hdepth, limitCheck_named, limitCheck_named, limitCheck_named,
    limitCheck_named, limitCheck_named, limitCheck_named, hfee, limitCheck_named,
    limitCheck_named, limitCheck_named, hpct, hloss, limitCheck_named,
    limitCheck_named, hrate, limitCheck_named, limitCheck_named, limitCheck_named,
    limitCheck_named, hdrawdown, List.forall_mem_nil _⟩

theorem named_pipeline : ∀ check ∈ pipeline (coreGates config), Named check := by
  have hhalt : Named manualHaltCheck := by
    intro ctx
    simp only [manualHaltCheck]
    split <;> rfl
  have hbreaker : Named circuitBreakerCheck := by
    intro ctx
    simp only [circuitBreakerCheck]
    split <;> rfl
  intro check hc
  simp only [pipeline, coreGates, List.mem_cons, List.mem_append] at hc
  rcases hc with rfl | rfl | hpublished | hmetrics
  · exact hhalt
  · exact hbreaker
  · exact named_publishedGates check hpublished
  · exact named_metricsGates config check hmetrics

/-! ## One evaluation on the live metrics -/

/-- What the gates read once the metrics are loaded. -/
def liveContext (e : Engine) (now : DateTime) (request : TradeRequest)
    (metrics : RiskMetricsSnapshot) : TradeContext :=
  { request, snap := e.riskSnapshot, blacklist := e.publishedBlacklist, metrics, now }

/-- All gates pass, and the bet is worth a trade. -/
def liveAllowed (ctx : TradeContext) : Bool :=
  (pipeline (coreGates config)).all (fun check => (check.evaluate ctx).passed) &&
    (0 < ((engineParams config).sizer ctx).betUsd &&
      config.minTradeUsd ≤ ((engineParams config).sizer ctx).betUsd)

def liveFirstFailing (ctx : TradeContext) : Option RiskCheckId :=
  ((pipeline (coreGates config)).find? fun check => !(check.evaluate ctx).passed).map (·.id)

theorem liveAllowed_eq (mode : ReportMode) (ctx : TradeContext) : liveAllowed config ctx =
      (!(evaluateGates mode ctx (pipeline (coreGates config)) .empty).hasFailedHardGate &&
        (0 < ((engineParams config).sizer ctx).betUsd &&
          config.minTradeUsd ≤ ((engineParams config).sizer ctx).betUsd)) := by
  rw [evaluateGates_hasFailed]
  simp only [PipelineReport.empty, Bool.false_or, liveAllowed, List.not_any_eq_all_not,
    Bool.not_not]

theorem firstFailing_evaluateGates (mode : ReportMode) (ctx : TradeContext) :
    ((evaluateGates mode ctx (pipeline (coreGates config)) .empty).results.find?
      (!·.passed)).map (·.checkId) = liveFirstFailing config ctx := by
  rw [@evaluateGates_find _ _ mode ctx (pipeline (coreGates config)) .empty rfl]
  unfold liveFirstFailing
  simp only [PipelineReport.empty, List.find?_nil, Option.none_or, List.find?_map, Option.map_map]
  -- the answer of the gate found carries its id
  refine Option.map_congr fun check hfound => ?_
  exact named_pipeline config check (List.mem_of_find?_eq_some hfound) ctx

/-- **The two phases decide as one evaluation on the live metrics does**, in either mode,
and the short report is the beginning of the full one. -/
theorem preTradeCheck_phases_agree (e : Engine) (now : DateTime) (config : PreTradeConfig)
    (request : TradeRequest) (metrics : RiskMetricsSnapshot) :
    let decision (mode : ReportMode) :=
      preTradeCheckCore e now (engineParams config) request .zeroed metrics mode
    (∀ mode,
      (decision mode).allowed = liveAllowed config (liveContext e now request metrics) ∧
        (decision mode).firstFailing =
          liveFirstFailing config (liveContext e now request metrics)) ∧
      (decision .shortCircuit).checkResults <+: (decision .fullReport).checkResults := by
  intro decision
  have heq : ∀ mode, _ := @preTradeCheckCore_split _ _ (engineParams config)
    (manualHaltCheck :: circuitBreakerCheck :: publishedGates) (metricsGates config) rfl
    (metricsSplit_coreGates config) metricsFree_publishedGates e now request .zeroed metrics
  constructor
  · intro mode
    obtain ⟨hresults, hallowed⟩ := heq mode
    constructor
    · exact hallowed.trans (liveAllowed_eq config mode _).symm
    · unfold RiskDecision.firstFailing
      rw [hresults]
      exact firstFailing_evaluateGates config mode _
  · rw [(heq .shortCircuit).1, (heq .fullReport).1]
    exact shortCircuit_prefix_fullReport _ _ _

end OxideArb.Risk
