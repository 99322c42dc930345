import OxideArb.ControlFactor.TradingPath
import OxideArb.Lib.Checked

/-!
# What a shadow publication would do

`ShadowEvaluator::evaluate` multiplies the size multipliers of a snapshot and applies the product
to the size that was approved. The live path takes the smallest of the caps, on the size before
the factors, and rejects for reasons the evaluator does not read (`unreadReject`).
-/

namespace OxideArb

open ControlFactor Risk

namespace ControlFactor

def sizeCap (baseSize : Usd) (multiplier : Decimal) : Usd := max (baseSize * clampUnit multiplier) 0

structure FactorEffect where
  resolutionMultiplier : Decimal
  fillMultiplier : Decimal
  sizeMultiplier : Decimal
  wouldReject : Bool
  applied : List AppliedControlFactor
deriving DecidableEq, Repr

def FactorEffect.neutral : FactorEffect := ⟨1, 1, 1, false, []⟩

def FactorEffect.compute (snapshot : ControlFactorSnapshot) (opp : Opportunity)
    (bucketDims : BucketRiskDimensions) (eqDims : ExecutionQualityDimensions) : FactorEffect :=
  match snapshot.publicationId with
  | none => neutral
  | some publicationId =>
    let bucket := snapshot.bucketRisk.lookup bucketDims
    let quality := snapshot.executionQuality.lookup eqDims
    let anomaly := snapshot.marketAnomalies.decision publicationId opp.marketId opp.eventId
    let recon := snapshot.reconciliationHealth.decision publicationId
    let portfolio := snapshot.portfolioRisk.decision publicationId opp.category
    { resolutionMultiplier := bucket.elim 1 (·.payload.resolutionHaircutFactor)
      fillMultiplier := quality.elim 1 (·.payload.fillProbabilityMultiplier)
      sizeMultiplier := bucket.elim 1 (·.payload.sizeMultiplier) * recon.sizeMultiplier *
        portfolio.globalSizeMultiplier * portfolio.categorySizeMultiplier.getD 1
      wouldReject := bucket.any (·.payload.blockNewEntries) || anomaly.isBlocking ||
        recon.forceMaintenanceMode
      applied :=
        (bucket.map fun found =>
          { factorId := found.factorId, factorType := .bucketRisk, publicationId
            inputValue := opp.resolutionAdjust
            outputValue := effectiveResolutionProb opp.resolutionAdjust
              found.payload.resolutionHaircutFactor
            reason := "bucket resolution haircut" }).toList ++
        (quality.map fun found =>
          { factorId := found.factorId, factorType := .executionQuality, publicationId
            inputValue := 1, outputValue := found.payload.fillProbabilityMultiplier
            reason := "execution quality fill probability discount" }).toList ++
        (if anomaly.isBlocking then anomaly.source.toList else []) ++ recon.source.toList ++
        portfolio.source.toList }

inductive ShadowDecisionType
  | wouldReject
  | wouldSize
  | wouldScore
  | noEffect
deriving DecidableEq, Repr

/-- One side of the record, `baseline` or `shadow`. -/
structure ShadowSide where
  sizeUsd : Usd
  resolutionMultiplier : Decimal
  fillMultiplier : Decimal
  wouldReject : Bool
deriving DecidableEq, Repr

structure NewShadowDecision where
  publicationId : FactorPublicationId
  eventId : EventId
  marketId : MarketId
  decisionType : ShadowDecisionType
  baseline : ShadowSide
  shadow : ShadowSide
  sizeDeltaUsd : Usd
  wouldRejectDelta : Int
  affectedFactorIds : List ControlFactorId
deriving DecidableEq, Repr

def FactorEffect.side (effect : FactorEffect) (baselineSizeUsd : Usd) : ShadowSide :=
  ⟨sizeCap baselineSizeUsd effect.sizeMultiplier, effect.resolutionMultiplier,
    effect.fillMultiplier, effect.wouldReject⟩

def ShadowSide.decisionType (candidate baseline : ShadowSide) : ShadowDecisionType :=
  if candidate.wouldReject && !baseline.wouldReject then .wouldReject
  else if candidate.sizeUsd ≠ baseline.sizeUsd then .wouldSize
  else if candidate.fillMultiplier ≠ baseline.fillMultiplier ∨
      candidate.resolutionMultiplier ≠ baseline.resolutionMultiplier then .wouldScore
  else .noEffect

/-- `ShadowEvaluator::evaluate`. -/
def ShadowEvaluator.evaluate (published shadow : ControlFactorSnapshot) (opp : Opportunity)
    (bucketDims : BucketRiskDimensions) (eqDims : ExecutionQualityDimensions)
    (baselineSizeUsd : Usd) : Option NewShadowDecision :=
  shadow.publicationId.map fun publicationId =>
    let effect := FactorEffect.compute shadow opp bucketDims eqDims
    let baseline := (FactorEffect.compute published opp bucketDims eqDims).side baselineSizeUsd
    let candidate := effect.side baselineSizeUsd
    { publicationId, eventId := opp.eventId, marketId := opp.marketId
      decisionType := candidate.decisionType baseline
      baseline, shadow := candidate, sizeDeltaUsd := candidate.sizeUsd - baseline.sizeUsd
      wouldRejectDelta := candidate.wouldReject.toInt - baseline.wouldReject.toInt
      affectedFactorIds := effect.applied.map (·.factorId) }

/-- `record_shadow`: nothing is recorded without a shadow publication or a traded book. -/
def recordShadow (published shadow : ControlFactorSnapshot) (book : Option BookSnapshot)
    (nowMs : Nat) (opp : Opportunity) (baselineSize : Usd) : Option NewShadowDecision := do
  let _ ← shadow.publicationId
  let book ← book
  ShadowEvaluator.evaluate published shadow opp
    (.coarse opp.category opp.info.priceZone opp.info.durationBucket)
    (executionQualityDimensions opp.category opp.info.priceZone opp.staleness book nowMs)
    baselineSize

end ControlFactor

/-! ## The verdict of the live path -/

variable {input : PathInput} {detected opp : Opportunity} {P S : ControlFactorSnapshot}
  {outcome : PathOutcome} {pid : FactorPublicationId}

/-- Some stage rejects for a factor of the snapshot. -/
def liveRejects (snapshot : ControlFactorSnapshot) (input : PathInput) (detected : Opportunity) :
    Bool :=
  match tradingPath snapshot input detected with
  | .error _ => true
  | .ok outcome => outcome.violation.isSome ||
      controlFactorGates.any fun check => !(check.evaluate outcome.context).passed

/-- The opportunity is one of the scanned market. -/
structure Opportunity.Of (opp : Opportunity) (scan : MarketScanInput) : Prop where
  market : opp.marketId = scan.marketId
  event : opp.eventId = scan.eventId
  category : opp.category = scan.category

namespace ControlFactor.ControlFactorSnapshot

/-- The reasons the evaluator reads. -/
def readReject (s : ControlFactorSnapshot) (opp : Opportunity) : Bool :=
  (bucketFactor s opp).any (·.payload.blockNewEntries) ||
    ((s.marketAnomalies.marketBlock opp.marketId).isSome ||
      (s.marketAnomalies.eventBlock opp.eventId).isSome) ||
    s.reconciliationHealth.forceMaintenanceMode

/-- The reasons it does not read: a category in cooldown, the bucket's edge floor, the depth and
slippage limits of the execution quality, an acknowledgement, an expired publication. -/
def unreadReject (s : ControlFactorSnapshot) (input : PathInput) (opp : Opportunity) : Bool :=
  (s.marketAnomalies.categoryCooldownSecs opp.category).isSome ||
    (bucketFactor s opp).any
      (fun found => (opp.edgeBps : Decimal) < found.payload.minEdgeBpsAddon) ||
    (executionQualityViolation s input.book input.validatedAtMs input.maxSlippageBps opp
      input.slippageBps).isSome ||
    (s.reconciliationHealth.requireManualAck ||
      (s.marketAnomalies.blockedMarkets opp.marketId).any (·.payload.manualAckRequired) ||
      (s.marketAnomalies.blockedEvents opp.eventId).any (·.payload.manualAckRequired)) ||
    (s.isExpiredAt input.decidedAt && input.failClosed)

end ControlFactor.ControlFactorSnapshot

theorem gates_any_eq {ctx : TradeContext} {c : FactorDecisionContext}
    (h : ctx.request.factorContext = some c) :
    (controlFactorGates.any fun check => !(check.evaluate ctx).passed) =
      (c.marketAnomaly.isBlocking || c.reconciliationHealth.forceMaintenanceMode ||
        (c.reconciliationHealth.requireManualAck || c.marketAnomaly.manualAckRequired) ||
        c.isSnapshotStaleFailClosed) := by
  simp only [controlFactorGates, List.any_cons, List.any_nil, marketAnomalyBlockCheck,
    reconciliationMaintenanceCheck, controlFactorManualAckRequiredCheck,
    controlFactorSnapshotExpiredCheck, factorCheck, h, Option.elim_some]
  cases c.marketAnomaly.isBlocking <;> cases c.reconciliationHealth.forceMaintenanceMode <;>
    cases c.reconciliationHealth.requireManualAck <;> cases c.marketAnomaly.manualAckRequired <;>
    cases c.isSnapshotStaleFailClosed <;> rfl

theorem applyBucketRisk_isOk (hpub : S.publicationId = some pid) (detected : Opportunity) :
    (applyBucketRisk S detected).isOk =
      !((bucketFactor S detected).any (·.payload.blockNewEntries) ||
        (bucketFactor S detected).any
          (fun found => (detected.edgeBps : Decimal) < found.payload.minEdgeBpsAddon)) := by
  unfold applyBucketRisk bucketFactor
  rw [hpub]
  cases h : S.bucketRisk.lookup
      (.coarse detected.category detected.info.priceZone detected.info.durationBucket) with
  | none => rfl
  | some found =>
    dsimp only [Option.any_some]
    split_ifs <;> simp_all [Except.isOk, Except.toBool]

/-- The gates of the risk engine, for an opportunity that differs from the detected one in its
probability and expected profit. -/
theorem gates_any_under (hpub : S.publicationId = some pid) {profit : Usd} {prob : Decimal}
    (hopp : opp = { detected with expectedNetProfit := profit, resolutionAdjust := prob })
    (trace : List AppliedControlFactor) :
    (controlFactorGates.any fun check =>
        !(check.evaluate (input.contextUnder S (scoreUnder S input opp trace))).passed) =
      ((S.marketAnomalies.marketBlock detected.marketId).isSome ||
        (S.marketAnomalies.eventBlock detected.eventId).isSome ||
        S.reconciliationHealth.forceMaintenanceMode ||
        (S.reconciliationHealth.requireManualAck ||
          ((S.marketAnomalies.blockedMarkets detected.marketId).any
              (·.payload.manualAckRequired) ||
            (S.marketAnomalies.blockedEvents detected.eventId).any
              (·.payload.manualAckRequired))) ||
        (S.isExpiredAt input.decidedAt && input.failClosed)) := by
  rw [gates_any_eq rfl, hopp]
  simp only [scoreUnder, buildFactorContext, hpub]
  rfl

/-- **The live verdict** is that of the evaluator and of the reasons it does not read. -/
theorem liveRejects_eq (hpub : S.publicationId = some pid) (hof : detected.Of input.scan) :
    liveRejects S input detected =
      (S.readReject detected || S.unreadReject input detected) := by
  have hok := applyBucketRisk_isOk hpub detected
  unfold liveRejects tradingPath ControlFactorSnapshot.blocksScan
  rw [← hof.market, ← hof.event, ← hof.category]
  unfold ControlFactorSnapshot.readReject ControlFactorSnapshot.unreadReject
  cases hscan : (S.marketAnomalies.marketBlock detected.marketId).isSome ||
      (S.marketAnomalies.eventBlock detected.eventId).isSome ||
      (S.marketAnomalies.categoryCooldownSecs detected.category).isSome with
  | true =>
    simp only [Bool.or_eq_true] at hscan
    rcases hscan with (h | h) | h <;> simp [h]
  | false =>
    simp only [Bool.or_eq_false_iff] at hscan
    obtain ⟨⟨hm, he⟩, hc⟩ := hscan
    cases hb : applyBucketRisk S detected with
    | error e =>
      rw [hb, eq_comm] at hok
      simp only [Except.isOk, Except.toBool, Bool.not_eq_false', Bool.or_eq_true] at hok
      rcases hok with h | h <;> simp [h]
    | ok r =>
      obtain ⟨opp, trace⟩ := r
      have hopp := applyBucketRisk_ok hb
      rw [hb, eq_comm] at hok
      simp only [Except.isOk, Except.toBool, Bool.not_eq_true', Bool.or_eq_false_iff] at hok
      have hviol : executionQualityViolation S input.book input.validatedAtMs
          input.maxSlippageBps opp input.slippageBps = executionQualityViolation S input.book
            input.validatedAtMs input.maxSlippageBps detected input.slippageBps := by
        rw [hopp]
        rfl
      simp only [Bool.false_eq_true, if_false, gates_any_under hpub hopp, hviol, hm, he, hc,
        hok.1, hok.2]
      cases (executionQualityViolation S input.book input.validatedAtMs input.maxSlippageBps
        detected input.slippageBps).isSome <;> cases S.reconciliationHealth.forceMaintenanceMode <;>
        simp [Bool.or_assoc]

/-! ## The record -/

/-- The product the evaluator takes. -/
def ControlFactor.ControlFactorSnapshot.sizeProduct (s : ControlFactorSnapshot)
    (opp : Opportunity) : Decimal :=
  if s.publicationId.isSome then
    (bucketFactor s opp).elim 1 (·.payload.sizeMultiplier) *
      s.reconciliationHealth.sizeMultiplier * s.portfolioRisk.globalSizeMultiplier *
      (s.portfolioRisk.categoryMultipliers opp.category).getD 1
  else 1

theorem recordShadow_eq {book : Option BookSnapshot} {nowMs : Nat} {size : Usd}
    {d : NewShadowDecision} (h : recordShadow P S book nowMs opp size = some d) :
    (∃ pid, S.publicationId = some pid) ∧ d.shadow.wouldReject = S.readReject opp ∧
      d.shadow.sizeUsd = sizeCap size (S.sizeProduct opp) ∧
      d.baseline.sizeUsd = sizeCap size (P.sizeProduct opp) := by
  obtain ⟨pid, hpid, h⟩ := Option.bind_eq_some_iff.mp h
  obtain ⟨book, -, h⟩ := Option.bind_eq_some_iff.mp h
  unfold ShadowEvaluator.evaluate at h
  rw [hpid] at h
  cases h
  refine ⟨⟨pid, hpid⟩, ?_, ?_, ?_⟩
  · simp only [FactorEffect.side, FactorEffect.compute, hpid]
    rfl
  · simp only [FactorEffect.side, FactorEffect.compute, ControlFactorSnapshot.sizeProduct, hpid]
    rfl
  · cases hP : P.publicationId <;>
      simp only [FactorEffect.side, FactorEffect.compute, ControlFactorSnapshot.sizeProduct, hP] <;>
      rfl

theorem clampUnit_eq_one_iff {m : Decimal} : clampUnit m = 1 ↔ 1 ≤ m := by
  unfold clampUnit
  grind

theorem sizeCap_eq_mul {size : Usd} (h : 0 ≤ size) (m : Decimal) :
    sizeCap size m = size * clampUnit m :=
  max_eq_left (mul_nonneg h (clampUnit_nonneg m))

/-- The limit on the bet before the factors. -/
def PathInput.limit (input : PathInput) (ctx : TradeContext) : Decimal :=
  max (min (input.sizer.undrawnLimit ctx input.bankroll)
    (MultiConstraintSizer.drawdownConstraint input.bankroll input.drawdownFactor).maxUsd) 0

theorem tradingPath_ok {s : ControlFactorSnapshot} {o : PathOutcome}
    (h : tradingPath s input detected = .ok o) :
    (∃ profit prob, o.scored.opportunity =
        { detected with expectedNetProfit := profit, resolutionAdjust := prob }) ∧
      o.sized.betUsd = settledSize input.sizer.minTradeUsd
        (input.limit o.context * factorShare o.context.request.factorContext) := by
  unfold tradingPath at h
  split at h
  · cases h
  · split at h
    · cases h
    next opp trace hb =>
      cases h
      exact ⟨⟨_, _, applyBucketRisk_ok hb⟩, MultiConstraintSizer.size_betUsd _ _ _ _⟩

/-- For an opportunity that was approved under `P`, the record for `S` is right exactly when `P`
scales nothing down, `S` rejects for a reason the evaluator reads or for none, and the product of
its multipliers takes the approved size to the bet that its caps allow. -/
theorem recordShadow_faithful_iff (hof : detected.Of input.scan)
    (hP : tradingPath P input detected = .ok outcome) (hpos : 0 < outcome.sized.betUsd)
    {nowMs : Nat} {d : NewShadowDecision}
    (hd : recordShadow P S input.book nowMs outcome.scored.opportunity outcome.sized.betUsd =
      some d) :
    (d.shadow.wouldReject = liveRejects S input detected ∧
        (liveRejects S input detected = false → ∃ o, tradingPath S input detected = .ok o ∧
          d.shadow.sizeUsd = o.sized.betUsd) ∧
        d.baseline.sizeUsd = outcome.sized.betUsd) ↔
      (S.readReject detected = true ∨ S.unreadReject input detected = false) ∧
        (liveRejects S input detected = false → ∃ o, tradingPath S input detected = .ok o ∧
          outcome.sized.betUsd * clampUnit (S.sizeProduct detected) =
            settledSize input.sizer.minTradeUsd
              (input.limit o.context * factorShare o.context.request.factorContext)) ∧
        1 ≤ P.sizeProduct detected := by
  obtain ⟨⟨pid, hpid⟩, hreject, hsize, hbase⟩ := recordShadow_eq hd
  obtain ⟨⟨profit, prob, hopp⟩, -⟩ := tradingPath_ok hP
  have hread : S.readReject outcome.scored.opportunity = S.readReject detected := by rw [hopp]; rfl
  have hprod (s : ControlFactorSnapshot) :
      s.sizeProduct outcome.scored.opportunity = s.sizeProduct detected := by rw [hopp]; rfl
  rw [hreject, hsize, hbase, hread, hprod, hprod, sizeCap_eq_mul hpos.le, sizeCap_eq_mul hpos.le,
    mul_eq_left₀ hpos.ne', clampUnit_eq_one_iff, liveRejects_eq hpid hof]
  refine and_congr ?_ (and_congr_left' (imp_congr_right fun _ => exists_congr fun o =>
    and_congr_right fun ho => ?_))
  · cases S.readReject detected <;> cases S.unreadReject input detected <;> simp
  · rw [(tradingPath_ok ho).2]

/-! ## A size that is halved twice -/

def sampleHalving : Except SnapshotBuildError ControlFactorSnapshot :=
  ControlFactorSnapshot.compile samplePublication
    [sampleFactor "half" (.portfolioRisk ⟨.normal, none, .zero, .none, .none, .zero⟩)
      (.portfolioRisk ⟨1 / 2, none, 1, none, 1⟩)] 10 true

def sampleShadowInput : PathInput :=
  { scan := sampleScan true 0, scorer := samplePipeline.scorer, scannedAt := 0
    book := some (sampleScan true 0).book.yes, validatedAtMs := 0, maxSlippageBps := 100
    slippageBps := 0, decidedAt := 10, failClosed := true, context := sampleContext 20
    sizer := sampleSizer 1, bankroll := 1000, drawdownFactor := 1 }

def sampleShadowRun : Option (PathOutcome × NewShadowDecision) := do
  let s ← sampleHalving.toOption
  let o ← (tradingPath s sampleShadowInput sampleOpportunity).toOption
  let d ← recordShadow s s sampleShadowInput.book 0 o.scored.opportunity o.sized.betUsd
  return (o, d)

/-- A published factor halves the size to 10; the record says that the baseline is 5. -/
theorem halved_twice :
    sampleShadowRun.map (fun r => (r.1.sized.betUsd, r.2.baseline.sizeUsd)) = some (10, 5) := by
  decide +kernel

theorem recordShadow_faithful_iff_halved :
    ∃ s o d, tradingPath s sampleShadowInput sampleOpportunity = .ok o ∧
      ((d : NewShadowDecision).shadow.wouldReject =
            liveRejects s sampleShadowInput sampleOpportunity ∧
          (liveRejects s sampleShadowInput sampleOpportunity = false →
            ∃ o', tradingPath s sampleShadowInput sampleOpportunity = .ok o' ∧
              d.shadow.sizeUsd = o'.sized.betUsd) ∧
          d.baseline.sizeUsd = o.sized.betUsd →
        1 ≤ s.sizeProduct sampleOpportunity) := by
  have hrun : (sampleShadowRun.filter (0 < ·.1.sized.betUsd)).isSome = true := by decide +kernel
  obtain ⟨⟨o, d⟩, h⟩ := Option.isSome_iff_exists.mp hrun
  obtain ⟨h, hpos⟩ := Option.filter_eq_some_iff.mp h
  obtain ⟨s, -, h⟩ := Option.bind_eq_some_iff.mp h
  obtain ⟨o', ho, h⟩ := Option.bind_eq_some_iff.mp h
  obtain ⟨d', hd, h⟩ := Option.bind_eq_some_iff.mp h
  cases h
  have ho := Checked.toOption_eq_some.mp ho
  exact ⟨s, o, d, ho, fun hf => ((recordShadow_faithful_iff ⟨rfl, rfl, rfl⟩ ho
    (of_decide_eq_true hpos) hd).mp hf).2.2⟩

end OxideArb
