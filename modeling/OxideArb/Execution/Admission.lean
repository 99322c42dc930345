import OxideArb.ControlFactor.Haircut
import OxideArb.Execution.Dispatch
import OxideArb.Risk.Checks
import OxideArb.Risk.Recovery

/-!
# Admission of an execution

`prepareDispatch` takes a scored opportunity to a plan with capital and a trade row: validation
against the books, the execution-quality factor, the gates with the sizing, six of the gates once
more on the size that came out, the decision context, the reservation. Each stage reads the shared
state anew, so the parts of `Readings` are of different moments.

The sizer rounds to cents and can pass a limit by half a cent. The second look at the limits is at
the rounded amount, and this amount is what is reserved and ordered (`dispatched_within_limits`).
-/

namespace OxideArb

open ControlFactor

namespace Risk

/-! ## The gates on an approved size -/

variable (config : PreTradeConfig)

/-- `sized_gate_refs`. -/
def sizedGates : List TradeCheck :=
  [dailyBudgetCheck, maxSingleBetCheck config, marketExposureCheck config,
    totalExposureCheck config, exposurePctCheck config, potentialLossCapCheck]

structure SizedPreTradeInput where
  opportunity : Opportunity
  approvedSize : Usd
  approvedFee : Usd
  metrics : RiskMetricsSnapshot
  factorContext : Option FactorDecisionContext
  settlementGate : SettlementGateInput
  integrity : TradeIntegritySnapshot
  mode : ReportMode

def SizedPreTradeInput.request (input : SizedPreTradeInput) : TradeRequest where
  opportunity := input.opportunity
  probability :=
    { calibratedWinProb := input.opportunity.calibration.fusedProbability
      fillProb := 1
      calibrationConfidence := input.opportunity.info.confidence
      sampleSize := input.opportunity.calibration.sampleSize
      modelStalenessSecs := 0
      expectedSlippagePct := 0
      expectedFailureCostPct := 0 }
  factorContext := input.factorContext
  settlementGate := input.settlementGate
  integrity := input.integrity
  sizedIntent := some { betUsd := input.approvedSize, feeUsd := input.approvedFee }

def preTradeCheckSized (e : Engine) (now : DateTime) (input : SizedPreTradeInput) : RiskDecision :=
  let ctx := liveContext e now input.request input.metrics
  let report := evaluateGates input.mode ctx (sizedGates config) .empty
  { allowed := !report.hasFailedHardGate
    denialReason :=
      if report.hasFailedHardGate then
        (report.results.find? (!·.passed)).map fun c =>
          c.checkId.display ++ ": " ++ c.detail.getD "failed"
      else none
    recommendedSize := none
    evaluatedAt := now
    stateVersion := e.stateVersion
    checkResults := report.results }

/-- A bet and its fee under every limit of the configuration, beside what is already at stake. -/
structure WithinLimits (snap : RiskSnapshot) (metrics : RiskMetricsSnapshot) (bet fee : Usd) :
    Prop where
  budget : bet ≤ snap.dailyBudgetRemaining
  single : bet ≤ config.maxSingleBetUsd
  market : metrics.marketExposure + bet ≤ config.maxSingleMarketExposureUsd
  total : metrics.totalExposure + bet ≤ config.maxTotalExposureUsd
  cash : 0 < metrics.cashBalance
  pct : (metrics.totalExposure + bet) / metrics.cashBalance * 100 ≤ config.maxTotalExposurePct
  loss : snap.totalPotentialLoss + bet + fee ≤ metrics.cashBalance

theorem limitCheck_passed (id : RiskCheckId) (passes : TradeContext → Bool)
    (detail threshold actual : TradeContext → String) (ctx : TradeContext) :
    ((limitCheck id passes detail threshold actual).evaluate ctx).passed = passes ctx := by
  cases h : passes ctx <;> simp [limitCheck, h, RiskCheckResult.ofPassed, RiskCheckResult.ofFailed]

theorem exposurePctCheck_passed (ctx : TradeContext) :
    ((exposurePctCheck config).evaluate ctx).passed = true ↔
      0 < ctx.metrics.cashBalance ∧ (ctx.metrics.totalExposure + TradeContext.intendedCostUsd ctx) /
        ctx.metrics.cashBalance * 100 ≤ config.maxTotalExposurePct := by
  unfold exposurePctCheck
  dsimp only
  by_cases hcash : ctx.metrics.cashBalance ≤ 0
  · simp [hcash, RiskCheckResult.ofFailed, not_lt.mpr hcash]
  · rw [if_neg hcash]
    split
    next hpct => simp [RiskCheckResult.ofPassed, not_le.mp hcash, hpct]
    next hpct => simp [RiskCheckResult.ofFailed, hpct]

theorem potentialLossCapCheck_passed (ctx : TradeContext) :
    (potentialLossCapCheck.evaluate ctx).passed = true ↔
      ctx.snap.totalPotentialLoss + TradeContext.intendedCostUsd ctx +
        TradeContext.intendedFeeUsd ctx ≤ ctx.metrics.cashBalance := by
  unfold potentialLossCapCheck
  dsimp only
  split
  next h => simp [RiskCheckResult.ofPassed, h]
  next h => simp [RiskCheckResult.ofFailed, h]

theorem preTradeCheckSized_allowed_iff (e : Engine) (now : DateTime)
    (input : SizedPreTradeInput) : (preTradeCheckSized config e now input).allowed = true ↔
      WithinLimits config e.riskSnapshot input.metrics input.approvedSize input.approvedFee := by
  have hgates : (preTradeCheckSized config e now input).allowed = true ↔
      ∀ check ∈ sizedGates config,
        (check.evaluate (liveContext e now input.request input.metrics)).passed = true := by
    unfold preTradeCheckSized
    dsimp only
    rw [evaluateGates_hasFailed]
    simp [PipelineReport.empty]
  rw [hgates]
  simp only [sizedGates, List.forall_mem_cons, exposurePctCheck_passed,
    potentialLossCapCheck_passed, dailyBudgetCheck, maxSingleBetCheck, marketExposureCheck,
    totalExposureCheck, amountCheck, limitCheck_passed, decide_eq_true_eq]
  constructor
  · rintro ⟨hbudget, hsingle, hmarket, htotal, ⟨hcash, hpct⟩, hloss, -⟩
    exact ⟨hbudget, hsingle, hmarket, htotal, hcash, hpct, hloss⟩
  · rintro ⟨hbudget, hsingle, hmarket, htotal, hcash, hpct, hloss⟩
    exact ⟨hbudget, hsingle, hmarket, htotal, ⟨hcash, hpct⟩, hloss, List.forall_mem_nil _⟩

/-! ## The first decision -/

/-- The bet that the engine's sizer gives in a context. -/
def betIn (ctx : TradeContext) : Usd := ((engineParams config).sizer ctx).betUsd

/-- What an admitted trade has shown. -/
structure Admitted (ctx : TradeContext) : Prop where
  gates : ∀ gate ∈ pipeline (coreGates config), (gate.evaluate ctx).passed = true
  bets : 0 < betIn config ctx
  trades : config.minTradeUsd ≤ betIn config ctx

theorem preTradeCheckCore_allowed_iff (e : Engine) (now : DateTime) (request : TradeRequest)
    (metrics : RiskMetricsSnapshot) (mode : ReportMode) :
    (preTradeCheckCore e now (engineParams config) request .zeroed metrics mode).allowed = true ↔
      Admitted config (liveContext e now request metrics) := by
  have hphases := @preTradeCheckCore_split _ _ (engineParams config)
    (manualHaltCheck :: circuitBreakerCheck :: publishedGates) (metricsGates config) rfl
    (metricsSplit_coreGates config) metricsFree_publishedGates e now request .zeroed metrics mode
  have hallowed := hphases.2.trans (liveAllowed_eq config mode _).symm
  rw [hallowed, liveAllowed, Bool.and_eq_true, Bool.and_eq_true, List.all_eq_true,
    decide_eq_true_eq, decide_eq_true_eq]
  constructor
  · rintro ⟨hgates, hbets, htrades⟩
    exact ⟨hgates, hbets, htrades⟩
  · rintro ⟨hgates, hbets, htrades⟩
    exact ⟨hgates, hbets, htrades⟩

/-- An allowed trade comes with the size for the live metrics: the zeroed ones are sized only
when a gate has failed on them. -/
theorem preTradeCheckCore_size {e : Engine} {now : DateTime} {request : TradeRequest}
    {metrics : RiskMetricsSnapshot} {mode : ReportMode}
    (h : (preTradeCheckCore e now (engineParams config) request .zeroed metrics mode).allowed =
      true) :
    (preTradeCheckCore e now (engineParams config) request .zeroed metrics mode).recommendedSize =
      some ((engineParams config).sizer (liveContext e now request metrics)) := by
  unfold preTradeCheckCore at h ⊢
  dsimp only at h ⊢
  rw [if_pos h]
  split
  next hstopped =>
    rw [if_pos hstopped, (Bool.and_eq_true_iff.mp hstopped).1] at h
    cases h
  next => rfl

end Risk

/-! ## The stages -/

namespace Admission

open Risk

/-- The risk engine and its surroundings at one moment. -/
structure RiskReading where
  engine : Engine
  config : PreTradeConfig
  now : DateTime
  metrics : RiskMetricsSnapshot
  settlementGate : SettlementGateInput
  integrity : TradeIntegritySnapshot

/-- The captured decision context: whether the two books were there, whether the row was accepted
by its writer and whether it counts as production evidence. The mode is read twice. -/
structure ContextReading where
  pairLoaded : Bool
  written : Bool
  writeMode : ExecutionMode
  mode : ExecutionMode
  productionEligible : Bool

/-- What an execution reads, stage by stage. -/
structure Readings where
  validator : Validator
  nowMs : Nat
  validatedAt : DateTime
  published : ControlFactorSnapshot
  /-- The books and the validator's limit when the execution quality is classified. -/
  books : BookStore
  booksNowMs : Nat
  maxSlippageBps : Decimal
  decidedAt : DateTime
  mode : ExecutionMode
  core : RiskReading
  planBuilder : PlanBuilder
  feeMode : ExecutionMode
  sized : RiskReading
  context : ContextReading

def RiskReading.coreRequest (reading : RiskReading) (scored : ScoredOpportunity)
    (factorContext : FactorDecisionContext) : TradeRequest where
  opportunity := scored.opportunity
  probability := buildProbabilityInput scored
  factorContext := some factorContext
  settlementGate := reading.settlementGate
  integrity := reading.integrity
  sizedIntent := none

def RiskReading.preTradeRiskDecision (reading : RiskReading) (scored : ScoredOpportunity)
    (factorContext : FactorDecisionContext) : RiskDecision :=
  preTradeCheckCore reading.engine reading.now (engineParams reading.config)
    (reading.coreRequest scored factorContext) .zeroed reading.metrics .shortCircuit

def RiskReading.sizedDecision (reading : RiskReading) (opportunity : Opportunity)
    (factorContext : FactorDecisionContext) (approvedSize approvedFee : Usd) : RiskDecision :=
  preTradeCheckSized reading.config reading.engine reading.now
    { opportunity, approvedSize, approvedFee, metrics := reading.metrics
      factorContext := some factorContext, settlementGate := reading.settlementGate
      integrity := reading.integrity, mode := .shortCircuit }

theorem RiskReading.sizedDecision_allowed_iff (reading : RiskReading) (opportunity : Opportunity)
    (factorContext : FactorDecisionContext) (approvedSize approvedFee : Usd) :
    (reading.sizedDecision opportunity factorContext approvedSize approvedFee).allowed = true ↔
      WithinLimits reading.config reading.engine.riskSnapshot reading.metrics approvedSize
        approvedFee :=
  preTradeCheckSized_allowed_iff ..

def recordRiskDenial (decision : RiskDecision) : PreSubmit.Abort :=
  ⟨"risk", decision.denialReason.getD "risk denied", none⟩

variable (r : Readings) (scored : ScoredOpportunity)

def tradedBook : Option BookSnapshot :=
  r.books.load (if scored.opportunity.info.predictedYes then scored.tokenYes else scored.tokenNo)

def factorContext : FactorDecisionContext :=
  buildFactorContext r.published scored.opportunity r.decidedAt (r.mode = .live)

/-- What the gates of the first decision read. -/
def coreContext : TradeContext :=
  liveContext r.core.engine r.core.now (r.core.coreRequest scored (factorContext r scored))
    r.core.metrics

def gateSizedExposure (approvedSize : Usd) : Except PreSubmit.Abort Usd :=
  match r.planBuilder.previewFee r.feeMode scored.opportunity approvedSize with
  | .error e => .error ⟨"fee_quote", e.display, none⟩
  | .ok approvedFee =>
    let decision :=
      r.sized.sizedDecision scored.opportunity (factorContext r scored) approvedSize approvedFee
    if decision.allowed then .ok approvedSize else .error (recordRiskDenial decision)

def validateAndSize : Except PreSubmit.Abort Usd :=
  match r.validator.validate r.nowMs r.validatedAt scored.opportunity scored.tokenYes
      scored.tokenNo scored.bookYesVersion scored.bookNoVersion with
  | .error reason => .error ⟨"validation", reason, none⟩
  | .ok validation =>
    match executionQualityViolation r.published (tradedBook r scored) r.booksNowMs
        r.maxSlippageBps scored.opportunity validation.slippageBps with
    | some reason => .error ⟨"factor_validation", reason, none⟩
    | none =>
      let decision := r.core.preTradeRiskDecision scored (factorContext r scored)
      if !decision.allowed then .error (recordRiskDenial decision)
      else
        let approvedSize := decision.recommendedSize.elim 0 (·.betUsd)
        if approvedSize ≤ 0 then .error ⟨"sizing", "Kelly sizing returned zero", none⟩
        else gateSizedExposure r scored approvedSize

def captureRequiredContext (reading : ContextReading) : Except PreSubmit.Abort Unit :=
  if !reading.pairLoaded then .error ⟨"decision_context", "book pair unavailable", none⟩
  else if !reading.written && reading.writeMode = .live then
    .error ⟨"decision_context", "book decision context writer unavailable", none⟩
  else if reading.mode = .live && !reading.productionEligible then
    .error ⟨"decision_context",
      "book decision context is insufficient for Live order admission", none⟩
  else .ok ()

def prepareDispatch (env : Dispatch.Env) (held : InMemoryExposureReservation) (db : TradeDb) :
    Except PreSubmit.Abort Dispatch.PreparedDispatch × InMemoryExposureReservation × TradeDb :=
  match validateAndSize r scored with
  | .error abort => (.error abort, held, db)
  | .ok approvedSize =>
    match captureRequiredContext r.context with
    | .error abort => (.error abort, held, db)
    | .ok () => Dispatch.persistDispatchPlan env scored.opportunity approvedSize held db

/-! ## What an approved size has passed -/

variable {r : Readings} {scored : ScoredOpportunity} {size : Usd}

theorem gateSizedExposure_ok_iff {approvedSize : Usd} :
    gateSizedExposure r scored approvedSize = .ok size ↔
      size = approvedSize ∧
        ∃ fee, r.planBuilder.previewFee r.feeMode scored.opportunity approvedSize = .ok fee ∧
          WithinLimits r.sized.config r.sized.engine.riskSnapshot r.sized.metrics approvedSize
            fee := by
  unfold gateSizedExposure
  cases hfee : r.planBuilder.previewFee r.feeMode scored.opportunity approvedSize with
  | error e => simp
  | ok fee =>
    simp only [Except.ok.injEq, exists_eq_left',
      ← r.sized.sizedDecision_allowed_iff scored.opportunity (factorContext r scored)]
    by_cases hallowed : (r.sized.sizedDecision scored.opportunity (factorContext r scored)
        approvedSize fee).allowed = true
    · simp [hallowed, eq_comm]
    · simp [hallowed]

/-- **An approved size** is the one the sizer gave for the state of the first decision, and it
was within every limit of the state of the second. -/
theorem validateAndSize_ok (h : validateAndSize r scored = .ok size) :
    Admitted r.core.config (coreContext r scored) ∧
      size = betIn r.core.config (coreContext r scored) ∧
      ∃ fee, r.planBuilder.previewFee r.feeMode scored.opportunity size = .ok fee ∧
        WithinLimits r.sized.config r.sized.engine.riskSnapshot r.sized.metrics size fee := by
  unfold validateAndSize at h
  split at h
  · cases h
  split at h
  · cases h
  dsimp only at h
  split at h
  · cases h
  next hnot =>
    have hallowed : (r.core.preTradeRiskDecision scored (factorContext r scored)).allowed = true :=
      by simpa using hnot
    split at h
    · cases h
    obtain ⟨hsize, fee, hfee, hlimits⟩ := gateSizedExposure_ok_iff.mp h
    rw [← hsize] at hfee hlimits
    refine ⟨(preTradeCheckCore_allowed_iff ..).mp hallowed, ?_, fee, hfee, hlimits⟩
    rw [hsize, RiskReading.preTradeRiskDecision, preTradeCheckCore_size _ hallowed]
    rfl

end Admission

theorem InMemoryExposureReservation.tryReserveSync_entry {held held' : InMemoryExposureReservation}
    {config : ExposureReservationConfig} {id : ReservationId} {now : DateTime}
    {marketId : MarketId} {amount : Usd} {ttl : Duration}
    (h : held.tryReserveSync config id now marketId amount ttl = .ok held') :
    ∃ amountCents, usdToCents amount = .ok amountCents ∧ held'.reservations.get id =
      some { id, marketId, amountCents, expiresAt := now + ttl, reconcilePinned := false } := by
  unfold tryReserveSync at h
  split at h
  · cases h
  next amountCents hcents =>
    refine ⟨amountCents, hcents, ?_⟩
    rw [insertChecked_get h, if_pos rfl]

/-- What an order can cost at its limit price. -/
def OrderRequest.worth (req : OrderRequest) : Usd :=
  match req.amount with
  | .usd amount => amount
  | .shares shares => shares * req.price

theorem PlanBuilder.sharesForSize_mul_le (opp : Opportunity) {size : Usd} (h : 0 ≤ size) :
    sharesForSize opp size * opp.entryPrice ≤ size := by
  unfold sharesForSize
  split
  next => simpa using h
  next hprice =>
    -- the lots are rounded down
    have hpos : 0 < opp.entryPrice := not_le.mp hprice
    have hlots : (⌊size / opp.entryPrice * 10 ^ 2⌋ : Decimal) / 10 ^ 2 ≤ size / opp.entryPrice := by
      rw [div_le_iff₀ (by norm_num)]
      exact Int.floor_le _
    calc (⌊size / opp.entryPrice * 10 ^ 2⌋ : Decimal) / 10 ^ 2 * opp.entryPrice
        ≤ size / opp.entryPrice * opp.entryPrice := by gcongr
      _ = size := div_mul_cancel₀ size hpos.ne'

theorem PlanBuilder.build_worth_le {builder : PlanBuilder} {mode : ExecutionMode}
    {opp : Opportunity} {size : Usd} {id : ReservationId} {plan : PricedPlan}
    (h : builder.build mode opp size id = .ok plan) (hsize : 0 ≤ size) :
    (FokOrderStrategy.request plan.toExecutionPlan).worth ≤ size := by
  unfold build at h
  cases hfee : builder.previewFee mode opp size with
  | error e =>
    rw [hfee] at h
    cases h
  | ok fee =>
    rw [hfee] at h
    cases h
    unfold FokOrderStrategy.request OrderRequest.worth
    cases opp.side with
    | buy => exact le_rfl
    | sell => exact sharesForSize_mul_le opp hsize

theorem Dispatch.persistDispatchPlan_parts {env : Env} {opp : Opportunity} {size : Usd}
    {held held' : InMemoryExposureReservation} {db db' : TradeDb} {prepared : PreparedDispatch}
    (h : persistDispatchPlan env opp size held db = (.ok prepared, held', db')) :
    held.tryReserveSync env.config env.reservationId env.now opp.marketId size env.ttl =
        .ok held' ∧
      env.planBuilder.build env.mode opp size env.reservationId = .ok prepared.plan := by
  unfold persistDispatchPlan at h
  split at h
  · cases h
  next reserved hreserve =>
    dsimp only at h
    split at h
    · cases h
    next plan hplan =>
      split at h
      · cases h
      next =>
        split at h
        · cases h
        next =>
          cases h
          exact ⟨hreserve, hplan⟩

namespace Admission

open Risk

theorem betIn_cents (config : PreTradeConfig) (ctx : TradeContext) :
    ∃ cents : Int, betIn config ctx * 100 = cents := by
  have hround : ∀ q : Decimal, roundDp q 2 * 100 = roundHalfEven (q * 10 ^ 2) := by
    intro q
    unfold roundDp
    norm_num
  exact ⟨_, hround _⟩

/-- **What is dispatched is within the limits.** However the state changes between the stages, a
prepared execution has passed every gate, and its cost is an amount of whole cents that the limits
were checked on a second time, with its fee. This amount is reserved for the market to the cent,
stands in the trade row, and is all that the order can cost at its limit price. -/
theorem dispatched_within_limits {r : Readings} {scored : ScoredOpportunity} {env : Dispatch.Env}
    {held held' : InMemoryExposureReservation} {db db' : TradeDb}
    {prepared : Dispatch.PreparedDispatch}
    (h : prepareDispatch r scored env held db = (.ok prepared, held', db')) :
    let bet := prepared.plan.estimatedCost
    Admitted r.core.config (coreContext r scored) ∧
    bet = betIn r.core.config (coreContext r scored) ∧
    (∃ fee, r.planBuilder.previewFee r.feeMode scored.opportunity bet = .ok fee ∧
      WithinLimits r.sized.config r.sized.engine.riskSnapshot r.sized.metrics bet fee) ∧
    (∃ entry, held'.reservations.get prepared.plan.reservationId = some entry ∧
      entry.marketId = scored.opportunity.marketId ∧ (entry.amountCents : Decimal) = bet * 100) ∧
    (∃ row, db'.get prepared.tradeId = some row ∧ row.state = .intent ∧ row.costUsd = bet ∧
      row.reservationId = prepared.plan.reservationId) ∧
    (FokOrderStrategy.request prepared.plan.toExecutionPlan).worth ≤ bet := by
  unfold prepareDispatch at h
  split at h
  · cases h
  next size hsize =>
    split at h
    · cases h
    obtain ⟨hadmitted, hbet, hlimits⟩ := validateAndSize_ok hsize
    obtain ⟨hreserve, hplan⟩ := Dispatch.persistDispatchPlan_parts h
    obtain ⟨-, row, hrow, hstate, hcost, hheld⟩ := Dispatch.persistDispatchPlan_ok h
    obtain ⟨hestimate, hid⟩ := PlanBuilder.build_ok hplan
    obtain ⟨amountCents, hcents, hentry⟩ :=
      InMemoryExposureReservation.tryReserveSync_entry hreserve
    have hpos : 0 ≤ size := hbet ▸ hadmitted.bets.le
    -- the reservation counts whole cents, and the bet is made of them
    have hexact : (amountCents : Decimal) = size * 100 := by
      obtain ⟨cents, hwhole⟩ := betIn_cents r.core.config (coreContext r scored)
      rw [← hbet] at hwhole
      have hfloor := (usdToCents_eq_ok.mp hcents).1
      rw [hwhole, Int.floor_intCast] at hfloor
      rw [hwhole, hfloor]
      norm_num
    intro bet
    have hbetSize : bet = size := hestimate
    rw [hbetSize]
    refine ⟨hadmitted, hbet, hlimits, ⟨_, hid ▸ hentry, rfl, hexact⟩,
      ⟨row, hrow, hstate, hcost, hheld⟩, PlanBuilder.build_worth_le hplan hpos⟩

/-! ## A dry run -/

def sampleConfig : PreTradeConfig :=
  { RiskConfig.default with
    minDepthUsd := 100, maxDepthUsagePct := 30, wsDisconnectThresholdSecs := 30
    minBalanceUsd := 100, maxTotalExposureUsd := 5000, reserveBalanceUsd := 100
    maxOpenPositions := 20, maxSingleMarketExposureUsd := 500, maxSingleBetUsd := 25
    maxTotalExposurePct := 80, maxMetricsStalenessSecs := 60, kelly := (sampleSizer 1).kelly
    bankrollUsd := 1000, minTradeUsd := 1, maxConcurrentDirectional := 20
    dailyDirectionalBudget := 100 }

/-- The engine after a first start, with a thousand dollars in cash. -/
def sampleReading : RiskReading :=
  { engine := Boot.first.seeded, config := sampleConfig, now := 0
    metrics :=
      { RiskMetricsSnapshot.zeroed with
        cashBalance := 1000, equity := 1000, isStale := false, metricsAgeSecs := 0
        isAuthoritative := true }
    settlementGate := { mode := .dryRun, marketNegRisk := none, redeemPolicy := none }
    integrity := ⟨0⟩ }

def sampleScored : ScoredOpportunity :=
  { opportunity := { sampleOpportunity with tokenId := ⟨"yes"⟩ }, tokenYes := ⟨"yes"⟩
    tokenNo := ⟨"no"⟩, bookYesVersion := 1, bookNoVersion := 1
    draft := ⟨0, 1000000, 1000000, 1000000, 1000000⟩, appliedFactors := [] }

def sampleBooks : BookStore :=
  (BookStore.new.applySnapshot ⟨"yes"⟩ [] [⟨500000, 100000000⟩] 1000).applySnapshot ⟨"no"⟩ []
    [⟨500000, 100000000⟩] 1000

def samplePlanBuilder : PlanBuilder :=
  { feeCalculator :=
      { rateCache :=
          { marketSchedules := fun _ => some ⟨true, 2 / 100, 1⟩, categoryDefaults := fun _ => none }
        calculateFee := fun shares price rate _ => shares * rate * price * (1 - price) }
    negRisk := fun _ => none }

def sampleReadings : Readings :=
  { validator := ⟨sampleBooks, ⟨1000, 3000, 5000⟩, ⟨50, 2000⟩⟩, nowMs := 1500, validatedAt := 0
    published := .neutral 0, books := sampleBooks, booksNowMs := 1500, maxSlippageBps := 50
    decidedAt := 0, mode := .dryRun, core := sampleReading, planBuilder := samplePlanBuilder
    feeMode := .dryRun, sized := sampleReading
    context := ⟨true, true, .dryRun, .dryRun, false⟩ }

def sampleEnv : Dispatch.Env :=
  { mode := .dryRun, planBuilder := samplePlanBuilder, tradeId := ⟨1⟩, reservationId := ⟨"r"⟩
    config := ⟨100000, 100000⟩, now := 0, ttl := Duration.seconds 60
    snapshot := .ok (99 / 100), createFails := false, createText := "" }

/-- The largest single bet is dispatched. -/
theorem dispatched_within_limits_single_bet :
    ∃ prepared held db,
      prepareDispatch sampleReadings sampleScored sampleEnv .new .empty =
        (.ok prepared, held, db) ∧ prepared.plan.estimatedCost = 25 ∧
      (∃ fee, samplePlanBuilder.previewFee .dryRun sampleScored.opportunity
          prepared.plan.estimatedCost = .ok fee ∧
        WithinLimits sampleConfig Boot.first.seeded.riskSnapshot sampleReading.metrics
          prepared.plan.estimatedCost fee) := by
  have hfacts : ∃ prepared ∈
      (prepareDispatch sampleReadings sampleScored sampleEnv .new .empty).1.toOption,
      prepared.plan.estimatedCost = 25 := by
    decide +kernel
  obtain ⟨prepared, hprepared, hcost⟩ := hfacts
  rcases hrun : prepareDispatch sampleReadings sampleScored sampleEnv .new .empty with
    ⟨result, held, db⟩
  rw [hrun] at hprepared
  have hok : result = .ok prepared := by
    cases result with
    | error e => cases hprepared
    | ok p => exact congrArg _ (Option.some.inj hprepared)
  subst hok
  exact ⟨prepared, held, db, rfl, hcost, (dispatched_within_limits hrun).2.2.1⟩

end Admission

end OxideArb
