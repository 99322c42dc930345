import OxideArb.ControlFactor.Restrictions
import OxideArb.Detection.EmissionTiming
import OxideArb.Risk.Context

/-!
# The resolution haircut

The detector stores one probability in several fields of an opportunity. The haircut rewrites
the resolution probability and the expected profit; the Kelly amount is computed from the
calibration snapshot, which keeps the probability before the haircut.
-/

namespace OxideArb

open ControlFactor

namespace Risk

/-- `build_probability_input`: what the Kelly amount is computed from. -/
def buildProbabilityInput (scored : ScoredOpportunity) : ProbabilityInput :=
  { calibratedWinProb := scored.opportunity.calibration.fusedProbability
    fillProb := Micro.toDecimal scored.draft.fillProbability
    calibrationConfidence := scored.opportunity.info.confidence
    sampleSize := scored.opportunity.calibration.sampleSize
    modelStalenessSecs := 0
    expectedSlippagePct := 5 / 1000
    expectedFailureCostPct := 2 / 1000 }

end Risk

/-! ## One probability in many fields -/

namespace Opportunity

variable (opp : Opportunity) (probability : Decimal)

def expectedPayoutAt : Usd :=
  opp.payoutModel.projectedPayoutIfCorrect * probability

def expectedNetProfitAt : Usd :=
  opp.expectedPayoutAt probability - opp.totalCost - opp.totalFees

def edgeBpsAt : Int :=
  if opp.totalCost + opp.totalFees = 0 then 0
  else roundHalfEven
    (opp.expectedNetProfitAt probability / (opp.totalCost + opp.totalFees) * 10000)

structure Coherent (opp : Opportunity) : Prop where
  probability : 0 ≤ opp.resolutionAdjust ∧ opp.resolutionAdjust ≤ 1
  calibration : opp.calibration.fusedProbability = opp.resolutionAdjust
  confidence : opp.info.confidence = opp.resolutionAdjust
  payout : opp.netProfit + opp.totalCost + opp.totalFees =
    opp.payoutModel.projectedPayoutIfCorrect
  expectedPayout : opp.payoutModel.expectedPayout = opp.expectedPayoutAt opp.resolutionAdjust
  expectedNetProfit : opp.expectedNetProfit = opp.expectedNetProfitAt opp.resolutionAdjust
  edgeBps : opp.edgeBps = opp.edgeBpsAt opp.resolutionAdjust

end Opportunity

theorem MicroProb.fromMicro_mem (v : Int) :
    0 ≤ MicroProb.fromMicro v ∧ MicroProb.fromMicro v ≤ MICRO_SCALE := by
  unfold MicroProb.fromMicro
  split
  · decide
  · split
    · decide
    · rename_i hneg hle
      exact ⟨not_lt.mp hneg, not_lt.mp hle⟩

theorem EndgameDetector.buildOpportunity_coherent (det : EndgameDetector)
    (input : EndgameDetectInput) (walk : WalkResult) (targetToken : TokenId) (entryPrice : Price)
    (convergenceSecs : Nat) (deadline now : DateTime) :
    (det.buildOpportunity input walk targetToken entryPrice convergenceSecs deadline
      now).Coherent where
  probability := by
    obtain ⟨hlow, hhigh⟩ := MicroProb.fromMicro_mem _
    exact ⟨Micro.toDecimal_nonneg hlow, Micro.toDecimal_le_one hhigh⟩
  calibration := rfl
  confidence := rfl
  payout := by
    unfold buildOpportunity
    dsimp only
    ring
  expectedPayout := rfl
  expectedNetProfit := rfl
  edgeBps := rfl

theorem EndgameDetector.detectWithDirection_coherent {det : EndgameDetector}
    {input : EndgameDetectInput} {now : DateTime} {opp : Opportunity}
    (h : (det.detectWithDirection input now).1 = .ok opp) : opp.Coherent := by
  obtain ⟨deadline, walk, -, -, -, -, -, -, rfl⟩ := EndgameDetector.detectWithDirection_emits h
  exact det.buildOpportunity_coherent _ _ _ _ _ _ _

/-! ## The haircut -/

def bucketFactor (snapshot : ControlFactorSnapshot) (opp : Opportunity) :
    Option (IndexedFactor BucketRiskPayload) :=
  snapshot.bucketRisk.lookup (.coarse opp.category opp.info.priceZone opp.info.durationBucket)

def Opportunity.withProbability (opp : Opportunity) (probability : Decimal) : Opportunity :=
  { opp with
    expectedNetProfit := opp.expectedNetProfitAt probability, resolutionAdjust := probability }

/-- **What the bucket-risk stage does** to a coherent opportunity: nothing without a factor,
and a haircut under one that neither blocks nor wants more edge. -/
theorem applyBucketRisk_cases {snapshot : ControlFactorSnapshot} {detected opp : Opportunity}
    {trace : List AppliedControlFactor} (hcoherent : detected.Coherent)
    (h : applyBucketRisk snapshot detected = .ok (opp, trace)) :
    ((snapshot.publicationId = none ∨ bucketFactor snapshot detected = none) ∧ opp = detected) ∨
      ∃ found, bucketFactor snapshot detected = some found ∧
        found.payload.blockNewEntries = false ∧
        found.payload.minEdgeBpsAddon ≤ detected.edgeBps ∧
        opp = detected.withProbability
          (effectiveResolutionProb detected.resolutionAdjust
            found.payload.resolutionHaircutFactor) := by
  unfold applyBucketRisk at h
  cases hpub : snapshot.publicationId with
  | none =>
    rw [hpub] at h
    cases h
    exact .inl ⟨.inl rfl, rfl⟩
  | some publicationId =>
    cases hfound : bucketFactor snapshot detected with
    | none =>
      unfold bucketFactor at hfound
      rw [hpub, hfound] at h
      cases h
      exact .inl ⟨.inr rfl, rfl⟩
    | some found =>
      have hlookup := hfound
      unfold bucketFactor at hlookup
      rw [hpub, hlookup] at h
      dsimp only at h
      split at h
      · cases h
      · rename_i hblock
        split at h
        · cases h
        · rename_i hedge
          cases h
          refine .inr ⟨found, rfl, by simpa using hblock, not_lt.mp hedge, ?_⟩
          unfold Opportunity.withProbability Opportunity.expectedNetProfitAt
            Opportunity.expectedPayoutAt
          rw [← hcoherent.payout]
          rfl

theorem effectiveResolutionProb_eq_iff {base haircut : Decimal} (h0 : 0 ≤ base) (h1 : base ≤ 1) :
    base ≤ effectiveResolutionProb base haircut ↔ 1 ≤ haircut ∨ base = 0 := by
  have hunit := clampUnit_nonneg haircut
  have hone := clampUnit_le_one haircut
  have hmul : 0 ≤ base * clampUnit haircut := mul_nonneg h0 hunit
  have hle : base * clampUnit haircut ≤ base := mul_le_of_le_one_right h0 hone
  unfold effectiveResolutionProb
  rw [clampUnit_of_mem hmul (hle.trans h1)]
  constructor
  · intro hkept
    by_contra hno
    rw [not_or, not_le] at hno
    have hpos : 0 < base := lt_of_le_of_ne h0 (Ne.symm hno.2)
    have hless : clampUnit haircut < 1 :=
      max_lt zero_lt_one ((min_le_right _ _).trans_lt hno.1)
    exact absurd hkept (not_le.mpr (mul_lt_of_lt_one_right hpos hless))
  · rintro (hcut | hzero)
    · have hfull : clampUnit haircut = 1 := le_antisymm hone (by
        unfold clampUnit
        rw [min_eq_left hcut]
        exact le_max_right _ _)
      rw [hfull, mul_one]
    · rw [hzero, zero_mul]

/-- **After the haircut the opportunity agrees with its probability** exactly when there was
nothing to cut. -/
theorem haircut_consistent_iff {det : EndgameDetector} {input : EndgameDetectInput}
    {now : DateTime} {detected opp : Opportunity} {snapshot : ControlFactorSnapshot}
    {publicationId : FactorPublicationId} {found : IndexedFactor BucketRiskPayload}
    {trace : List AppliedControlFactor} {scored : ScoredOpportunity}
    (hdetected : (det.detectWithDirection input now).1 = .ok detected)
    (hpublished : snapshot.publicationId = some publicationId)
    (hmatches : bucketFactor snapshot detected = some found)
    (happlied : applyBucketRisk snapshot detected = .ok (opp, trace))
    (hscored : scored.opportunity = opp) :
    ((Risk.buildProbabilityInput scored).calibratedWinProb ≤ opp.resolutionAdjust ∧
        opp.edgeBps = opp.edgeBpsAt opp.resolutionAdjust ∧
        opp.payoutModel.expectedPayout = opp.expectedPayoutAt opp.resolutionAdjust) ↔
      1 ≤ found.payload.resolutionHaircutFactor ∨ detected.resolutionAdjust = 0 := by
  have hcoherent := EndgameDetector.detectWithDirection_coherent hdetected
  rcases applyBucketRisk_cases hcoherent happlied with ⟨hnone, -⟩ | ⟨found', hfound, -, -, rfl⟩
  · rw [hpublished, hmatches] at hnone
    rcases hnone with hnone | hnone <;> cases hnone
  · rw [hmatches, Option.some.injEq] at hfound
    subst hfound
    rw [← effectiveResolutionProb_eq_iff hcoherent.probability.1 hcoherent.probability.2]
    have hkelly : (Risk.buildProbabilityInput scored).calibratedWinProb =
        detected.resolutionAdjust := by
      unfold Risk.buildProbabilityInput
      rw [hscored]
      exact hcoherent.calibration
    rw [hkelly]
    constructor
    · exact fun h => h.1
    · intro hkept
      -- nothing was cut: the opportunity is the detected one
      have hsame : effectiveResolutionProb detected.resolutionAdjust
          found.payload.resolutionHaircutFactor = detected.resolutionAdjust :=
        le_antisymm (clampUnit_mul_le hcoherent.probability.1 _) hkept
      refine ⟨hkept, ?_, ?_⟩
      · rw [hsame]
        exact hcoherent.edgeBps
      · rw [hsame]
        exact hcoherent.expectedPayout

/-! ## Sample haircuts -/

def sampleDetected : Except DetectionRejectReason Opportunity :=
  ((sampleSeen (Duration.hours 12)).detector.detectWithDirection
    ((sampleScan true (Duration.hours 12)).detectInput .yesLikely) (Duration.seconds 600)).1

def sampleHaircutSnapshot (haircut : Decimal) : Option ControlFactorSnapshot :=
  (ControlFactorSnapshot.compile samplePublication
    [sampleFactor "f" (.bucketRisk (.coarse .politics (PriceZone.fromPrice (96 / 100))
        (DurationBucket.fromSecs 600)))
      (.bucketRisk ⟨haircut, 1, 0, false⟩)] 10 true).toOption

def sampleHaircut (haircut : Decimal) : Option Opportunity := do
  let detected ← sampleDetected.toOption
  let snapshot ← sampleHaircutSnapshot haircut
  let applied ← (applyBucketRisk snapshot detected).toOption
  return applied.1

/-- A haircut to nine tenths leaves the win probability at 0.99, the edge and the expected
payout as they were. -/
theorem haircut_leaves_kelly :
    (sampleHaircut (9 / 10)).any fun opp =>
      opp.resolutionAdjust = 891 / 1000 ∧ opp.calibration.fusedProbability = 99 / 100 ∧
        0 < opp.edgeBps ∧ opp.edgeBpsAt opp.resolutionAdjust < 0 ∧
        opp.payoutModel.expectedPayout ≠ opp.expectedPayoutAt opp.resolutionAdjust := by
  decide +kernel

theorem haircut_consistent_iff_nine_tenths :
    ∃ detected snapshot found applied,
      sampleDetected = .ok detected ∧ sampleHaircutSnapshot (9 / 10) = some snapshot ∧
      applyBucketRisk snapshot detected = .ok applied ∧
      ∀ scored : ScoredOpportunity, scored.opportunity = applied.1 →
        (((Risk.buildProbabilityInput scored).calibratedWinProb ≤ applied.1.resolutionAdjust ∧
            applied.1.edgeBps = applied.1.edgeBpsAt applied.1.resolutionAdjust ∧
            applied.1.payoutModel.expectedPayout =
              applied.1.expectedPayoutAt applied.1.resolutionAdjust) ↔
          1 ≤ (found : IndexedFactor BucketRiskPayload).payload.resolutionHaircutFactor ∨
            detected.resolutionAdjust = 0) := by
  have hrun : (sampleDetected.toOption.bind fun detected =>
      (sampleHaircutSnapshot (9 / 10)).bind fun snapshot => snapshot.publicationId.bind fun _ =>
        (bucketFactor snapshot detected).bind fun _ =>
          (applyBucketRisk snapshot detected).toOption).isSome = true := by
    decide +kernel
  obtain ⟨result, hresult⟩ := Option.isSome_iff_exists.mp hrun
  obtain ⟨detected, hdetected, hresult⟩ := Option.bind_eq_some_iff.mp hresult
  obtain ⟨snapshot, hsnapshot, hresult⟩ := Option.bind_eq_some_iff.mp hresult
  obtain ⟨publicationId, hpublished, hresult⟩ := Option.bind_eq_some_iff.mp hresult
  obtain ⟨found, hfound, hresult⟩ := Option.bind_eq_some_iff.mp hresult
  have hok : ∀ {ε α : Type} {x : Except ε α} {a : α}, x.toOption = some a → x = .ok a := by
    rintro ε α (e | b) a h
    · cases h
    · cases h
      rfl
  exact ⟨detected, snapshot, found, result, hok hdetected, hsnapshot, hok hresult,
    fun _ hscored => haircut_consistent_iff (hok hdetected) hpublished hfound (hok hresult) hscored⟩

end OxideArb
