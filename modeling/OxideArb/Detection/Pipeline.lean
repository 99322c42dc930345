import OxideArb.ControlFactor.Live
import OxideArb.Detection.Scorer

/-!
# The opportunity pipeline

One scan of a market: the gates before detection, detection, the bucket-risk factor, the emit
gates and the score. `processRef_ok` says all that an emission implies.
-/

namespace OxideArb

open ControlFactor

structure MarketScanInput where
  marketId : MarketId
  eventId : EventId
  tokenYes : TokenId
  tokenNo : TokenId
  book : EndgameBookPair
  category : MarketCategory
  staleness : StalenessLevel
  settlementDeadline : Option DateTime
deriving DecidableEq, Repr

def MarketScanInput.detectInput (input : MarketScanInput) (direction : ConvergenceDirection) :
    EndgameDetectInput :=
  { marketId := input.marketId, eventId := input.eventId, tokenYes := input.tokenYes
    tokenNo := input.tokenNo, book := input.book, direction, category := input.category
    staleness := input.staleness, settlementDeadline := input.settlementDeadline }

/-! ## Emission cooldown -/

structure EmissionCooldownConfig where
  baseCooldownSecs : Nat
  maxMultiplier : Decimal
deriving DecidableEq, Repr

structure CooldownEntry where
  emittedAt : DateTime
  consecutiveHits : Nat
deriving DecidableEq, Repr

structure EmissionCooldown where
  entries : MarketId → Option CooldownEntry
  config : EmissionCooldownConfig

namespace EmissionCooldown

def effectiveMultiplier (consecutiveHits : Nat) (maxMultiplier : Decimal) : Decimal :=
  min (2 ^ min consecutiveHits 30) maxMultiplier

variable (cooldown : EmissionCooldown) (marketId : MarketId)

/-- `may_emit`, by the monotonic clock. -/
def mayEmit (clock : DateTime) : Bool :=
  (cooldown.entries marketId).all fun entry =>
    (cooldown.config.baseCooldownSecs : Decimal) * 1000000000 *
      effectiveMultiplier entry.consecutiveHits cooldown.config.maxMultiplier ≤
        (clock - entry.emittedAt : Int)

def recordEmission (clock : DateTime) : EmissionCooldown :=
  let hits := (cooldown.entries marketId).elim 0 (·.consecutiveHits)
  { cooldown with
    entries := Function.update cooldown.entries marketId (some ⟨clock, hits + 1⟩) }

def reset : EmissionCooldown :=
  { cooldown with entries := Function.update cooldown.entries marketId none }

end EmissionCooldown

/-! ## The pipeline -/

structure DetectionConfig where
  minProfitThresholdUsd : Decimal
  endgame : EndgameDetectionConfig
  scorer : ScorerConfig
  fillProbability : FillProbabilityConfig
  emissionCooldown : EmissionCooldownConfig
  calibration : CalibrationConfig

structure PipelineParams where
  minProfitThresholdUsd : MicroUsd
  maxDepthUsagePct : MicroPct
  minScore : MicroScore
deriving DecidableEq, Repr

def PipelineParams.fromConfig (config : DetectionConfig) : PipelineParams :=
  { minProfitThresholdUsd := (Micro.tryFromDecimal config.minProfitThresholdUsd).getD 0
    maxDepthUsagePct := (MicroPct.tryFromPctDecimal config.scorer.maxDepthUsagePct).getD 0
    minScore := (Micro.tryFromDecimal config.scorer.minScore).getD 0 }

structure ScoredOpportunity where
  opportunity : Opportunity
  tokenYes : TokenId
  tokenNo : TokenId
  bookYesVersion : Nat
  bookNoVersion : Nat
  draft : ScoreDraft
  appliedFactors : List AppliedControlFactor
deriving DecidableEq, Repr

/-- The pipeline with its caches; `snapshot` is what the factor provider publishes. -/
structure OpportunityPipeline where
  detector : EndgameDetector
  scorer : ScorerParams
  cooldown : EmissionCooldown
  snapshot : ControlFactorSnapshot
  params : PipelineParams

def OpportunityPipeline.new (config : DetectionConfig) (calibrator : ResolutionCalibrator)
    (estimateFee : Shares → Price → MarketCategory → TokenId → Usd)
    (snapshot : ControlFactorSnapshot) : OpportunityPipeline :=
  { detector :=
      { params := DetectorParams.fromConfig config.endgame config.calibration
        convergence := ⟨fun _ => none⟩, calibrator, estimateFee }
    scorer := ScorerParams.fromConfig config.scorer config.fillProbability
      config.endgame.settlementWindowHours
    cooldown := ⟨fun _ => none, config.emissionCooldown⟩
    snapshot
    params := PipelineParams.fromConfig config }

def EndgameDetector.shouldResetMarketState (det : EndgameDetector)
    (direction : Option ConvergenceDirection) (settlementDeadline : Option DateTime)
    (now : DateTime) : Bool :=
  match settlementDeadline with
  | none => true
  | some deadline =>
    let hoursRemaining := Duration.numHours (deadline - now)
    if hoursRemaining < 0 ∨ min (det.params.settlementWindowHours : Int) i64Max < hoursRemaining
    then true
    else direction.isNone

/-- The opportunity under the bucket-risk factor of its bucket, with the trace it leaves. -/
def applyBucketRisk (snapshot : ControlFactorSnapshot) (opp : Opportunity) :
    Except DetectionRejectReason (Opportunity × List AppliedControlFactor) :=
  match snapshot.publicationId,
    snapshot.bucketRisk.lookup
      (.coarse opp.category opp.info.priceZone opp.info.durationBucket) with
  | some publicationId, some found =>
    let payload := found.payload
    if payload.blockNewEntries then .error .bucketRiskBlocked
    else if (opp.edgeBps : Decimal) < payload.minEdgeBpsAddon then .error .bucketRiskEdgeFloor
    else
      let effectiveProb :=
        effectiveResolutionProb opp.resolutionAdjust payload.resolutionHaircutFactor
      let payoutIfCorrect := opp.netProfit + opp.totalCost + opp.totalFees
      .ok ({ opp with
        expectedNetProfit :=
          ControlFactor.expectedNetProfit payoutIfCorrect opp.totalCost opp.totalFees effectiveProb
        resolutionAdjust := effectiveProb },
        [{ factorId := found.factorId, factorType := .bucketRisk, publicationId
           inputValue := opp.resolutionAdjust, outputValue := effectiveProb
           reason := "bucket resolution haircut" }])
  | _, _ => .ok (opp, [])

/-- The fill probability under the execution-quality factor of the traded book, with its
trace. -/
def applyExecutionQuality (scorer : ScorerParams) (snapshot : ControlFactorSnapshot)
    (opp : Opportunity) (book : EndgameBookPair) (now : DateTime) :
    Option (MicroProb × AppliedControlFactor) := do
  let publicationId ← snapshot.publicationId
  let tradedBook := if opp.info.predictedYes then book.yes else book.no
  let dims := executionQualityDimensions opp.category opp.info.priceZone opp.staleness tradedBook
    (timestampMillis now)
  let found ← snapshot.executionQuality.lookup dims
  let baseFill := scorer.estimateFill opp now
  let effective := effectiveFillProbability (Micro.toDecimal baseFill)
    found.payload.fillProbabilityMultiplier
  let effectiveFill := (Micro.tryFromDecimal effective).getD baseFill
  return (effectiveFill,
    { factorId := found.factorId, factorType := .executionQuality, publicationId
      inputValue := Micro.toDecimal baseFill, outputValue := Micro.toDecimal effectiveFill
      reason := "execution quality fill probability discount" })

namespace OpportunityPipeline

variable (p : OpportunityPipeline) (input : MarketScanInput)

def anomalyBlocks : Bool :=
  (p.snapshot.marketAnomalies.marketBlock input.marketId).isSome ||
    (p.snapshot.marketAnomalies.eventBlock input.eventId).isSome ||
    (p.snapshot.marketAnomalies.categoryCooldownSecs input.category).isSome

def emit (now : DateTime) (detected : Opportunity) :
    Except DetectionRejectReason ScoredOpportunity := do
  let (opp, bucketTrace) ← applyBucketRisk p.snapshot detected
  let profit := (Micro.tryFromDecimal opp.expectedNetProfit).getD 0
  if profit < p.params.minProfitThresholdUsd then throw .minProfitThreshold
  let depthPct := (MicroPct.tryFromPctDecimal opp.depthUsedPct).getD 0
  if p.params.maxDepthUsagePct < depthPct then throw .maxDepthUsage
  let quality := applyExecutionQuality p.scorer p.snapshot opp input.book now
  let draft := p.scorer.score opp now (quality.map (·.1))
  if draft.score < p.params.minScore then throw .minScore
  return { opportunity := opp, tokenYes := input.tokenYes, tokenNo := input.tokenNo
           bookYesVersion := input.book.yes.version, bookNoVersion := input.book.no.version, draft
           appliedFactors := bucketTrace ++ (quality.map (·.2)).toList }

def resetMarket (direction : Option ConvergenceDirection) (now : DateTime) : OpportunityPipeline :=
  if p.detector.shouldResetMarketState direction input.settlementDeadline now then
    { p with cooldown := p.cooldown.reset input.marketId }
  else p

/-- `process_ref`: one scan, at a wall-clock and a monotonic time. -/
def processRef (now clock : DateTime) :
    Except DetectionRejectReason ScoredOpportunity × OpportunityPipeline :=
  if p.anomalyBlocks input then (.error .marketAnomaly, p)
  else if !p.cooldown.mayEmit input.marketId clock then (.error .emissionCooldown, p)
  else if !input.staleness.isTradeable then (.error .stalenessExpired, p)
  else
    let direction := p.detector.detectDirection input.book
    let p := p.resetMarket input direction now
    match direction with
    | none => (.error .noConvergenceDirection, p)
    | some direction =>
      let (detected, convergence) :=
        p.detector.detectWithDirection (input.detectInput direction) now
      let p := { p with detector := { p.detector with convergence } }
      match detected.bind (p.emit input now) with
      | .error reason => (.error reason, p)
      | .ok scored =>
        (.ok scored, { p with cooldown := p.cooldown.recordEmission input.marketId clock })

end OpportunityPipeline

theorem applyBucketRisk_ok {snapshot : ControlFactorSnapshot} {detected opp : Opportunity}
    {trace : List AppliedControlFactor} (h : applyBucketRisk snapshot detected = .ok (opp, trace)) :
    opp = { detected with
      expectedNetProfit := opp.expectedNetProfit, resolutionAdjust := opp.resolutionAdjust } := by
  unfold applyBucketRisk at h
  split at h
  · dsimp only at h
    split at h
    · cases h
    · split at h
      · cases h
      · cases h
        rfl
  · cases h
    rfl

namespace OpportunityPipeline

variable {p : OpportunityPipeline} {input : MarketScanInput} {scored : ScoredOpportunity}
  {clock : DateTime}

theorem emit_ok {now : DateTime} {detected : Opportunity}
    (h : p.emit input now detected = .ok scored) :
    ∃ trace, applyBucketRisk p.snapshot detected = .ok (scored.opportunity, trace) ∧
      p.params.minProfitThresholdUsd ≤
        (Micro.tryFromDecimal scored.opportunity.expectedNetProfit).getD 0 ∧
      (MicroPct.tryFromPctDecimal scored.opportunity.depthUsedPct).getD 0 ≤
        p.params.maxDepthUsagePct ∧
      scored.draft = p.scorer.score scored.opportunity now
        ((applyExecutionQuality p.scorer p.snapshot scored.opportunity input.book now).map (·.1)) ∧
      p.params.minScore ≤ scored.draft.score := by
  unfold emit at h
  cases hbucket : applyBucketRisk p.snapshot detected with
  | error reason =>
    rw [hbucket] at h
    cases h
  | ok result =>
    obtain ⟨opp, trace⟩ := result
    rw [hbucket] at h
    simp only [bind, Except.bind] at h
    split at h
    · cases h
    · rename_i hprofit
      split at h
      · cases h
      · rename_i hdepth
        split at h
        · cases h
        · rename_i hscore
          cases h
          exact ⟨trace, rfl, not_lt.mp hprofit, not_lt.mp hdepth, rfl, not_lt.mp hscore⟩

theorem resetMarket_eq (p : OpportunityPipeline) (input : MarketScanInput)
    (direction : Option ConvergenceDirection) (now : DateTime) :
    p.resetMarket input direction now =
      { p with cooldown := (p.resetMarket input direction now).cooldown } := by
  unfold resetMarket
  split <;> rfl

def Admits (p : OpportunityPipeline) (input : MarketScanInput) (clock : DateTime) : Prop :=
  p.anomalyBlocks input = false ∧ p.cooldown.mayEmit input.marketId clock = true ∧
    input.staleness.isTradeable = true

instance (p : OpportunityPipeline) (input : MarketScanInput) (clock : DateTime) :
    Decidable (p.Admits input clock) :=
  inferInstanceAs (Decidable (_ ∧ _ ∧ _))

/-! A scan stops at the gates, stops without a direction, or goes on to the detector. -/

theorem processRef_blocked (h : ¬ p.Admits input clock) (now : DateTime) :
    ∃ reason, p.processRef input now clock = (.error reason, p) := by
  unfold processRef
  split
  · exact ⟨_, rfl⟩
  · rename_i hanomaly
    split
    · exact ⟨_, rfl⟩
    · rename_i hcooldown
      split
      · exact ⟨_, rfl⟩
      · rename_i hstale
        exact absurd ⟨by simpa using hanomaly, by simpa using hcooldown, by simpa using hstale⟩ h

theorem processRef_admitted (h : p.Admits input clock) (now : DateTime) :
    (p.processRef input now clock).1 =
        (match p.detector.detectDirection input.book with
        | none => .error .noConvergenceDirection
        | some direction =>
          (p.detector.detectWithDirection (input.detectInput direction) now).1.bind
            (p.emit input now)) ∧
      (p.processRef input now clock).2.detector =
        (match p.detector.detectDirection input.book with
        | none => p.detector
        | some direction =>
          { p.detector with
            convergence :=
              (p.detector.detectWithDirection (input.detectInput direction) now).2 }) := by
  obtain ⟨hanomaly, hcooldown, hstale⟩ := h
  unfold processRef
  simp only [hanomaly, hcooldown, hstale, Bool.false_eq_true, if_false, Bool.not_true]
  rw [resetMarket_eq]
  cases p.detector.detectDirection input.book with
  | none => exact ⟨rfl, rfl⟩
  | some direction =>
    dsimp only
    split
    · rename_i reason hreason
      exact ⟨hreason.symm, rfl⟩
    · rename_i scored hscored
      exact ⟨hscored.symm, rfl⟩

/-- **An emission passed every gate.** -/
theorem processRef_ok {now : DateTime} (h : (p.processRef input now clock).1 = .ok scored) :
    p.Admits input clock ∧
      ∃ direction detected, p.detector.detectDirection input.book = some direction ∧
        (p.detector.detectWithDirection (input.detectInput direction) now).1 = .ok detected ∧
        p.emit input now detected = .ok scored := by
  by_cases hadmits : p.Admits input clock
  · refine ⟨hadmits, ?_⟩
    rw [(processRef_admitted hadmits now).1] at h
    cases hdirection : p.detector.detectDirection input.book with
    | none =>
      rw [hdirection] at h
      cases h
    | some direction =>
      simp only [hdirection] at h
      cases hdetected : (p.detector.detectWithDirection (input.detectInput direction) now).1 with
      | error reason =>
        rw [hdetected] at h
        cases h
      | ok detected =>
        rw [hdetected] at h
        exact ⟨direction, detected, rfl, hdetected, h⟩
  · obtain ⟨reason, hblocked⟩ := processRef_blocked hadmits now
    rw [hblocked] at h
    cases h

end OpportunityPipeline

end OxideArb
