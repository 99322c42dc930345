import OxideArb.ControlFactor.Haircut
import OxideArb.Detection.Thresholds
import OxideArb.Risk.Checks

/-!
# Control factors on the trading path

`tradingPath` runs a detected opportunity through the four stages that read factors: scan,
pipeline, validation and risk engine. Against the neutral snapshot every stage only tightens.
-/

namespace OxideArb

open ControlFactor Risk

/-! ## The path -/

def ControlFactor.ControlFactorSnapshot.blocksScan (snapshot : ControlFactorSnapshot)
    (scan : MarketScanInput) : Bool :=
  (snapshot.marketAnomalies.marketBlock scan.marketId).isSome ||
    (snapshot.marketAnomalies.eventBlock scan.eventId).isSome ||
    (snapshot.marketAnomalies.categoryCooldownSecs scan.category).isSome

variable (published : ControlFactorSnapshot) (book : Option BookSnapshot)

def executionQualityFactor (nowMs : Nat) (opp : Opportunity) :
    Option (IndexedFactor ExecutionQualityPayload) := do
  let _ ← published.publicationId
  let book ← book
  published.executionQuality.lookup
    (executionQualityDimensions opp.category opp.info.priceZone opp.staleness book nowMs)

def admissibleSlippageBps (nowMs : Nat) (maxSlippageBps : Decimal) (opp : Opportunity) : Decimal :=
  (executionQualityFactor published book nowMs opp).elim maxSlippageBps fun found =>
    effectiveSlippageLimitBps maxSlippageBps found.payload.slippageBpsAddon

/-- What the stages read besides the snapshot: the scan, the traded book at validation, and
the decision context and sizing inputs of the risk engine. -/
structure PathInput where
  scan : MarketScanInput
  scorer : ScorerParams
  scannedAt : DateTime
  book : Option BookSnapshot
  validatedAtMs : Nat
  maxSlippageBps : Decimal
  slippageBps : Decimal
  decidedAt : DateTime
  failClosed : Bool
  context : TradeContext
  sizer : MultiConstraintSizer
  bankroll : Usd
  drawdownFactor : Decimal

structure PathOutcome where
  scored : ScoredOpportunity
  slippageLimitBps : Decimal
  violation : Option String
  context : TradeContext
  sized : SizeDetail

def scoreUnder (input : PathInput) (opp : Opportunity) (bucketTrace : List AppliedControlFactor) :
    ScoredOpportunity :=
  let quality :=
    applyExecutionQuality input.scorer published opp input.scan.book input.scannedAt
  { opportunity := opp, tokenYes := input.scan.tokenYes, tokenNo := input.scan.tokenNo
    bookYesVersion := input.scan.book.yes.version, bookNoVersion := input.scan.book.no.version
    draft := input.scorer.score opp input.scannedAt (quality.map (·.1))
    appliedFactors := bucketTrace ++ (quality.map (·.2)).toList }

def PathInput.contextUnder (input : PathInput) (published : ControlFactorSnapshot)
    (scored : ScoredOpportunity) : TradeContext :=
  { input.context with
    request :=
      { input.context.request with
        opportunity := scored.opportunity
        probability := buildProbabilityInput scored
        factorContext := some
          (buildFactorContext published scored.opportunity input.decidedAt input.failClosed) } }

def tradingPath (input : PathInput) (detected : Opportunity) :
    Except DetectionRejectReason PathOutcome :=
  if published.blocksScan input.scan then .error .marketAnomaly
  else
    match applyBucketRisk published detected with
    | .error reason => .error reason
    | .ok (opp, trace) =>
      let scored := scoreUnder published input opp trace
      let context := input.contextUnder published scored
      .ok
        { scored
          slippageLimitBps := admissibleSlippageBps published input.book input.validatedAtMs
            input.maxSlippageBps opp
          violation := executionQualityViolation published input.book input.validatedAtMs
            input.maxSlippageBps opp input.slippageBps
          context
          sized := input.sizer.size context input.bankroll input.drawdownFactor }

/-- The gates of the risk engine that read the factor bundle. -/
def controlFactorGates : List TradeCheck :=
  [marketAnomalyBlockCheck, reconciliationMaintenanceCheck, controlFactorManualAckRequiredCheck,
    controlFactorSnapshotExpiredCheck]

variable {now : DateTime} {det : EndgameDetector} {input : EndgameDetectInput} {opp : Opportunity}

/-! ## The opportunity -/

theorem WalkState.totalShares_le_walk (priceFloor : MicroPrice) (levels : List BookLevel)
    (s : WalkState) : s.totalShares ≤ (WalkState.walk priceFloor levels s).totalShares := by
  induction levels generalizing s with
  | nil => exact le_rfl
  | cons level rest ih =>
    unfold WalkState.walk
    split
    · exact ih s
    · rename_i hpos
      rw [not_or, not_le, not_le] at hpos
      split
      · exact le_rfl
      · split
        · exact le_rfl
        · rename_i hbudget
          have hfill : 0 ≤ min (MicroPrice.affordableShares level.price s.remainingBudget)
              level.size :=
            le_min (MicroPrice.affordableShares_nonneg _ (not_le.mp hbudget).le) hpos.2.le
          refine le_trans ?_ (ih (s.take level))
          exact le_add_of_nonneg_right hfill

theorem walkAsksByCost_shares_nonneg {asks : List BookLevel} {maxCostUsd depth : MicroUsd}
    {priceFloor : MicroPrice} {r : WalkResult}
    (h : walkAsksByCost asks maxCostUsd priceFloor depth = some r) : 0 ≤ r.shares := by
  unfold walkAsksByCost at h
  dsimp only at h
  split at h
  · cases h
  · cases h
    exact WalkState.totalShares_le_walk _ _ _

theorem EndgameDetector.detectWithDirection_payout_nonneg
    (h : (det.detectWithDirection input now).1 = .ok opp) :
    0 ≤ opp.payoutModel.projectedPayoutIfCorrect := by
  obtain ⟨deadline, walk, -, -, -, -, hwalk, -, rfl⟩ := detectWithDirection_emits h
  exact Micro.toDecimal_nonneg (walkAsksByCost_shares_nonneg hwalk)

theorem Opportunity.expectedNetProfitAt_mono
    (hpayout : 0 ≤ opp.payoutModel.projectedPayoutIfCorrect) {p q : Decimal} (h : p ≤ q) :
    opp.expectedNetProfitAt p ≤ opp.expectedNetProfitAt q := by
  have hmul := mul_le_mul_of_nonneg_left h hpayout
  unfold Opportunity.expectedNetProfitAt Opportunity.expectedPayoutAt
  linarith

theorem applyBucketRisk_tightens {detected : Opportunity} {snapshot : ControlFactorSnapshot}
    {trace : List AppliedControlFactor}
    (hdetected : (det.detectWithDirection input now).1 = .ok detected)
    (h : applyBucketRisk snapshot detected = .ok (opp, trace)) :
    opp.expectedNetProfit ≤ detected.expectedNetProfit ∧
      opp = { detected with
        expectedNetProfit := opp.expectedNetProfit
        resolutionAdjust := opp.resolutionAdjust } := by
  refine ⟨?_, applyBucketRisk_ok h⟩
  have hcoherent := EndgameDetector.detectWithDirection_coherent hdetected
  have hpayout := EndgameDetector.detectWithDirection_payout_nonneg hdetected
  rcases applyBucketRisk_cases hcoherent h with ⟨-, rfl⟩ | ⟨found, -, -, -, rfl⟩
  · exact le_rfl
  · rw [hcoherent.expectedNetProfit]
    exact Opportunity.expectedNetProfitAt_mono hpayout
      (clampUnit_mul_le hcoherent.probability.1 _)

/-! ## The fill probability -/

theorem ScorerParams.estimateFill_nonneg (scorer : ScorerParams) (opp : Opportunity)
    (now : DateTime) : 0 ≤ scorer.estimateFill opp now :=
  (MicroProb.fromMicro_mem _).1

theorem Micro.toDecimal_le_of_some {d : Decimal} {v : Int} (h : tryFromDecimal d = some v) :
    toDecimal v ≤ d := by
  unfold tryFromDecimal at h
  dsimp only at h
  split at h
  · cases h
  · split at h
    · cases h
      have hscale : (0 : ℚ) < MICRO_SCALE := by norm_num [MICRO_SCALE]
      unfold toDecimal
      rw [div_le_iff₀ hscale]
      exact Int.floor_le _
    · cases h

theorem scoreUnder_fill_le (input : PathInput) (opp : Opportunity)
    (trace : List AppliedControlFactor) :
    (scoreUnder published input opp trace).draft.fillProbability ≤
      input.scorer.estimateFill opp input.scannedAt := by
  have hbase := input.scorer.estimateFill_nonneg opp input.scannedAt
  unfold scoreUnder
  cases hquality : applyExecutionQuality input.scorer published opp input.scan.book
      input.scannedAt with
  | none => exact le_rfl
  | some quality =>
    unfold applyExecutionQuality at hquality
    cases hpub : published.publicationId with
    | none =>
      rw [hpub] at hquality
      cases hquality
    | some publicationId =>
      rw [hpub] at hquality
      simp only [Option.bind_eq_bind, Option.bind_some] at hquality
      obtain ⟨found, -, hresult⟩ := Option.bind_eq_some_iff.mp hquality
      cases hresult
      change (Micro.tryFromDecimal _).getD _ ≤ _
      cases hread : Micro.tryFromDecimal (effectiveFillProbability
          (Micro.toDecimal (input.scorer.estimateFill opp input.scannedAt))
          found.payload.fillProbabilityMultiplier) with
      | none => exact le_rfl
      | some fill =>
        have hle := (Micro.toDecimal_le_of_some hread).trans
          (clampUnit_mul_le (Micro.toDecimal_nonneg hbase) _)
        exact Micro.toDecimal_le_iff.mp hle

/-! ## The bet -/

namespace Risk

theorem QuarterKellyCalculator.effectiveP_mono (kelly : QuarterKellyCalculator)
    {prob : ProbabilityInput} (hwin : 0 ≤ prob.calibratedWinProb)
    (hconfidence : 0 ≤ prob.calibrationConfidence) {fill : Decimal} (h : fill ≤ prob.fillProb) :
    kelly.effectiveP { prob with fillProb := fill } ≤ kelly.effectiveP prob := by
  unfold QuarterKellyCalculator.effectiveP
  gcongr

theorem foldl_min_mono (rest : List SizeConstraint) {a b : Decimal} (h : max a 0 ≤ max b 0) :
    max (rest.foldl (fun least c => min least c.maxUsd) a) 0 ≤
      max (rest.foldl (fun least c => min least c.maxUsd) b) 0 := by
  induction rest generalizing a b with
  | nil => exact h
  | cons c rest ih =>
    refine ih ?_
    rw [max_min_distrib_right, max_min_distrib_right]
    exact min_le_min h le_rfl

namespace MultiConstraintSizer

theorem size_betUsd_tightens (sizer : MultiConstraintSizer) {ctx base : TradeContext}
    (bankroll : Usd) (drawdownFactor : Decimal)
    (haccounts : sizer.accountConstraints ctx = sizer.accountConstraints base)
    (hkelly : max (sizer.kellyResult ctx bankroll).betUsd 0 ≤
      max (sizer.kellyResult base bankroll).betUsd 0)
    (hneutral : factorShare base.request.factorContext = 1) :
    (sizer.size ctx bankroll drawdownFactor).betUsd ≤
      (sizer.size base bankroll drawdownFactor).betUsd := by
  have hundrawn : max (sizer.undrawnLimit ctx bankroll) 0 ≤
      max (sizer.undrawnLimit base bankroll) 0 := by
    unfold undrawnLimit
    rw [tightest_maxUsd, tightest_maxUsd, haccounts]
    exact foldl_min_mono _ hkelly
  rw [size_betUsd, size_betUsd, hneutral, mul_one]
  refine settledSize_mono _ (mul_nonneg (le_max_right _ _) (factorShare_nonneg _)) ?_
  refine (mul_le_of_le_one_right (le_max_right _ _) (factorShare_le_one _)).trans ?_
  rw [max_min_distrib_right, max_min_distrib_right]
  exact min_le_min hundrawn le_rfl

end MultiConstraintSizer

end Risk

/-! ## The whole path -/

theorem tradingPath_neutral (loadedAt : DateTime) (input : PathInput) (detected : Opportunity) :
    ∃ base, tradingPath (.neutral loadedAt) input detected = .ok base ∧
      base.scored = scoreUnder (.neutral loadedAt) input detected [] ∧
      base.slippageLimitBps = input.maxSlippageBps ∧ base.violation = none ∧
      base.context = input.contextUnder (.neutral loadedAt) base.scored ∧
      base.sized = input.sizer.size base.context input.bankroll input.drawdownFactor :=
  ⟨_, rfl, rfl, rfl, rfl, rfl, rfl⟩

theorem admissibleSlippageBps_le (nowMs : Nat) (maxSlippageBps : Decimal) (opp : Opportunity) :
    admissibleSlippageBps published book nowMs maxSlippageBps opp ≤ maxSlippageBps := by
  unfold admissibleSlippageBps
  cases executionQualityFactor published book nowMs opp with
  | none => exact le_rfl
  | some found => exact effectiveSlippageLimitBps_le _ _

theorem controlFactorGates_neutral {ctx : TradeContext}
    (h : ctx.request.factorContext = some .neutral) :
    ∀ check ∈ controlFactorGates, (check.evaluate ctx).passed = true := by
  simp only [controlFactorGates, List.forall_mem_cons]
  refine ⟨?_, ?_, ?_, ?_, fun _ hcheck => absurd hcheck List.not_mem_nil⟩ <;>
    simp only [marketAnomalyBlockCheck, reconciliationMaintenanceCheck,
      controlFactorManualAckRequiredCheck, controlFactorSnapshotExpiredCheck, factorCheck, h] <;>
    rfl

/-- **A snapshot only tightens.** Under the neutral snapshot no stage rejects for a factor;
and whatever passes under another one has there no higher expected profit, fill
probability, slippage limit or bet. -/
theorem tradingPath_tightens {det : EndgameDetector} {detectInput : EndgameDetectInput}
    {now : DateTime} {detected : Opportunity}
    (hdetected : (det.detectWithDirection detectInput now).1 = .ok detected)
    (published : ControlFactorSnapshot) (loadedAt : DateTime) (input : PathInput) :
    ∃ base, tradingPath (.neutral loadedAt) input detected = .ok base ∧
      base.violation = none ∧
      (∀ check ∈ controlFactorGates, (check.evaluate base.context).passed = true) ∧
      ∀ outcome, tradingPath published input detected = .ok outcome →
        outcome.scored.opportunity.expectedNetProfit ≤ base.scored.opportunity.expectedNetProfit ∧
        outcome.scored.draft.fillProbability ≤ base.scored.draft.fillProbability ∧
        outcome.slippageLimitBps ≤ base.slippageLimitBps ∧
        outcome.sized.betUsd ≤ base.sized.betUsd := by
  obtain ⟨base, hbase, hscored, hslippage, hviolation, hcontext, hsized⟩ :=
    tradingPath_neutral loadedAt input detected
  refine ⟨base, hbase, hviolation, controlFactorGates_neutral (by rw [hcontext]; rfl), ?_⟩
  intro outcome houtcome
  have hcoherent := EndgameDetector.detectWithDirection_coherent hdetected
  unfold tradingPath at houtcome
  split at houtcome
  · cases houtcome
  · split at houtcome
    · cases houtcome
    · rename_i opp trace hbucket
      cases houtcome
      obtain ⟨hprofit, hopp⟩ := applyBucketRisk_tightens hdetected hbucket
      have hfill : (scoreUnder published input opp trace).draft.fillProbability ≤
          base.scored.draft.fillProbability := by
        have hle := scoreUnder_fill_le published input opp trace
        rw [hopp] at hle ⊢
        rw [hscored]
        exact hle
      refine ⟨?_, hfill, ?_, ?_⟩
      · rw [hscored]
        exact hprofit
      · rw [hslippage]
        exact admissibleSlippageBps_le _ _ _ _ _
      · rw [hsized, hcontext]
        refine MultiConstraintSizer.size_betUsd_tightens _ _ _ rfl ?_ factorShare_neutral
        -- the two requests differ in the fill probability only
        have hprobability : buildProbabilityInput (scoreUnder published input opp trace) =
            { buildProbabilityInput base.scored with
              fillProb := Micro.toDecimal
                (scoreUnder published input opp trace).draft.fillProbability } := by
          rw [hscored]
          unfold buildProbabilityInput scoreUnder
          rw [hopp]
        have hprice : opp.entryPrice = base.scored.opportunity.entryPrice := by
          rw [hscored, hopp]
          rfl
        have hwin : (buildProbabilityInput base.scored).calibratedWinProb =
            detected.resolutionAdjust := by
          rw [hscored]
          exact hcoherent.calibration
        have hconfidence : (buildProbabilityInput base.scored).calibrationConfidence =
            detected.resolutionAdjust := by
          rw [hscored]
          exact hcoherent.confidence
        change max (input.sizer.kelly.calculate (buildProbabilityInput
            (scoreUnder published input opp trace)) opp.entryPrice input.bankroll).betUsd 0 ≤
          max (input.sizer.kelly.calculate (buildProbabilityInput base.scored)
            base.scored.opportunity.entryPrice input.bankroll).betUsd 0
        rw [hprobability, hprice]
        exact QuarterKellyCalculator.calculate_mono (input.sizer.kelly.effectiveP_mono
          (hwin ▸ hcoherent.probability.1) (hconfidence ▸ hcoherent.probability.1)
          (Micro.toDecimal_mono hfill))

theorem tradingPath_tightens_sample :
    ∃ detected, sampleDetected = .ok detected ∧ ∀ published input outcome,
      tradingPath published input detected = .ok outcome →
        ∃ base, tradingPath (.neutral 0) input detected = .ok base ∧
          outcome.scored.opportunity.expectedNetProfit ≤
            base.scored.opportunity.expectedNetProfit ∧
          outcome.scored.draft.fillProbability ≤ base.scored.draft.fillProbability ∧
          outcome.slippageLimitBps ≤ base.slippageLimitBps ∧
          outcome.sized.betUsd ≤ base.sized.betUsd := by
  have hdetects : sampleDetected.toOption.isSome = true := by decide +kernel
  cases hdetected : sampleDetected with
  | error reason =>
    rw [hdetected] at hdetects
    cases hdetects
  | ok detected =>
    refine ⟨detected, rfl, fun published input outcome houtcome => ?_⟩
    obtain ⟨base, hbase, -, -, hall⟩ := tradingPath_tightens hdetected published 0 input
    exact ⟨base, hbase, hall outcome houtcome⟩

end OxideArb
