import Mathlib.Data.List.Sort
import OxideArb.ControlFactor.Live
import OxideArb.Lib.Grouping

/-!
# The builder of bucket-risk factors

A materialization run groups training examples by bucket and gives each group a factor whose
multipliers are a lower bound of an observed win rate. The numerator of that rate counts the won
rows of the whole run, the denominator the samples of the group alone.
-/

namespace OxideArb.ControlFactor

structure OpportunityId where
  raw : String
deriving DecidableEq, Repr

/-! ## Evidence -/

/-- The part of a training example that the grouping reads. -/
structure FactorTrainingExample where
  opportunityId : OpportunityId
  factorType : ControlFactorType
  entityKey : FactorDimensions
deriving DecidableEq, Repr

inductive OpportunityAuditStage
  | detected
  | validationRejected
  | riskRejected
  | sizingRejected
  | filled
  | missed
  | failed
  | settled
  | factorValidationRejected
deriving DecidableEq, Repr

inductive SettlementOutcome
  | won
  | lost
deriving DecidableEq, Repr

structure OpportunityAuditRow where
  opportunityId : OpportunityId
  stage : OpportunityAuditStage
  settlementStatus : Option SettlementOutcome
deriving DecidableEq, Repr

structure SettlementAccumulator where
  wonCount : Nat := 0
  lostCount : Nat := 0
deriving DecidableEq, Repr

def SettlementAccumulator.recordOutcome (acc : SettlementAccumulator) (row : OpportunityAuditRow) :
    SettlementAccumulator :=
  match row.settlementStatus with
  | some .won => { acc with wonCount := acc.wonCount + 1 }
  | some .lost => { acc with lostCount := acc.lostCount + 1 }
  | none => acc

def settlementReport (audits : List OpportunityAuditRow) : SettlementAccumulator :=
  (audits.filter fun row => row.stage = .settled).foldl SettlementAccumulator.recordOutcome {}

/-! ## Estimates -/

structure RatioEstimate where
  lower : Decimal
  point : Decimal
  upper : Decimal
deriving DecidableEq, Repr

structure ConfidenceInterval where
  lower : Decimal
  pointEstimate : Decimal
  upper : Decimal
  confidenceLevel : Decimal
deriving DecidableEq, Repr

def RatioEstimate.toConfidenceInterval (estimate : RatioEstimate) : ConfidenceInterval :=
  { lower := estimate.lower, pointEstimate := estimate.point, upper := estimate.upper
    confidenceLevel := 95 / 100 }

def unestimatedConfidenceInterval : ConfidenceInterval :=
  { lower := 0, pointEstimate := 1, upper := 1, confidenceLevel := 95 / 100 }

inductive StatsError
  | emptySample
  | zeroDenominator
deriving DecidableEq, Repr

def uncertaintyBps (samples : Nat) : Decimal :=
  if 400 ≤ samples then 500 / 10 ^ 4
  else if 100 ≤ samples then 1000 / 10 ^ 4
  else if 25 ≤ samples then 2000 / 10 ^ 4
  else 4000 / 10 ^ 4

def observedRateLowerBound (successes samples : Nat) : Except StatsError RatioEstimate :=
  if samples = 0 then .error .emptySample
  else
    let point : Decimal := successes / samples
    .ok { lower := clampUnit (point - uncertaintyBps samples)
          point := clampUnit point
          upper := clampUnit (point + uncertaintyBps samples) }

def parentBucketRequired (childSamples minSamples : Nat) : Bool := childSamples < minSamples

/-! ## Groups -/

structure BucketBuildGroup where
  dimensions : BucketRiskDimensions
  sampleCount : Nat
  parentShrunk : Bool
deriving DecidableEq, Repr

def shrinkBucketDimensions (dimensions : BucketRiskDimensions) : BucketRiskDimensions :=
  { dimensions with hoursToSettlementBucket := none, negRisk := none, feeProfile := none }

def FactorTrainingExample.bucket (x : FactorTrainingExample) : Option BucketRiskDimensions :=
  match x.factorType, x.entityKey with
  | .bucketRisk, .bucketRisk dimensions => some dimensions
  | _, _ => none

def rawCounts (examples : List FactorTrainingExample) : List (BucketRiskDimensions × Nat) :=
  group id (fun _ => 1) (· + ·) (examples.filterMap FactorTrainingExample.bucket)

/-- The bucket that a bucket with `count` samples is built into. -/
def mergeTarget (minSamples count : Nat) (dimensions : BucketRiskDimensions) :
    BucketRiskDimensions :=
  if parentBucketRequired count minSamples then shrinkBucketDimensions dimensions else dimensions

def mergedCounts (minSamples : Nat) (raw : List (BucketRiskDimensions × Nat)) :
    List (BucketRiskDimensions × (Nat × Bool)) :=
  group (fun r => mergeTarget minSamples r.2 r.1)
    (fun r => (r.2, parentBucketRequired r.2 minSamples))
    (fun a b => (a.1 + b.1, a.2 || b.2)) raw

def bucketBuildGroups (examples : List FactorTrainingExample) (minSamples : Nat) :
    List BucketBuildGroup :=
  ((mergedCounts minSamples (rawCounts examples)).map fun m =>
    { dimensions := m.1, sampleCount := m.2.1, parentShrunk := m.2.2 }).insertionSort
      fun a b => a.dimensions.category.tableIndex ≤ b.dimensions.category.tableIndex

/-! ## Factors -/

structure EvidenceWarning where
  code : String
  message : String
deriving DecidableEq, Repr

structure BucketFactor where
  dimensions : FactorDimensions
  payload : BucketRiskPayload
  status : FactorStatus
  confidence : ConfidenceInterval
  warnings : List EvidenceWarning
deriving DecidableEq, Repr

inductive BuilderOutput
  | draft (factor : BucketFactor)
  | reportOnly (factor : BucketFactor)
deriving DecidableEq, Repr

def BuilderOutput.factor : BuilderOutput → BucketFactor
  | .draft factor | .reportOnly factor => factor

def neutralBucketPayload : BucketRiskPayload :=
  { resolutionHaircutFactor := 1, sizeMultiplier := 1, minEdgeBpsAddon := 0
    blockNewEntries := false }

structure BuildEvidence where
  examples : List FactorTrainingExample
  audits : List OpportunityAuditRow
deriving DecidableEq, Repr

def parentShrinkWarning : EvidenceWarning :=
  { code := "bucket.parent_shrink"
    message := "bucket estimate shrunk to parent dimensions due to insufficient child samples" }

def buildBucketGroup (evidence : BuildEvidence) (minOpportunities : Nat) (g : BucketBuildGroup) :
    BuilderOutput :=
  let wins := (settlementReport evidence.audits).wonCount
  let sampleSufficient := !parentBucketRequired g.sampleCount minOpportunities
  let warnings := if g.parentShrunk then [parentShrinkWarning] else []
  match observedRateLowerBound wins g.sampleCount with
  | .error _ =>
    .reportOnly
      { dimensions := .bucketRisk g.dimensions, payload := neutralBucketPayload
        status := .reportOnly, confidence := unestimatedConfidenceInterval, warnings }
  | .ok estimate =>
    let payload :=
      { resolutionHaircutFactor := estimate.lower, sizeMultiplier := estimate.lower
        minEdgeBpsAddon := 0, blockNewEntries := estimate.lower = 0 }
    let status := if sampleSufficient then .draft else .reportOnly
    let factor :=
      { dimensions := .bucketRisk g.dimensions, payload, status
        confidence := estimate.toConfidenceInterval, warnings }
    if sampleSufficient then .draft factor else .reportOnly factor

def BucketRiskBuilder.build (evidence : BuildEvidence) (minOpportunities : Nat) :
    List BuilderOutput :=
  match bucketBuildGroups evidence.examples minOpportunities with
  | [] =>
    [.reportOnly
      { dimensions := .unspecified, payload := neutralBucketPayload, status := .reportOnly
        confidence := unestimatedConfidenceInterval, warnings := [] }]
  | groups => groups.map (buildBucketGroup evidence minOpportunities)

/-! ## A bucket's own evidence -/

namespace BuildEvidence

variable (e : BuildEvidence) (minSamples : Nat) (bucket : BucketRiskDimensions)

def targetOf (dimensions : BucketRiskDimensions) : BucketRiskDimensions :=
  mergeTarget minSamples ((e.examples.filterMap FactorTrainingExample.bucket).count dimensions)
    dimensions

/-- The examples that a bucket's factor is built from. -/
def own : List FactorTrainingExample :=
  e.examples.filter fun x => x.bucket.any fun d => e.targetOf minSamples d = bucket

/-- The evidence that remains when no other bucket has any. -/
def only : BuildEvidence :=
  { examples := e.own minSamples bucket
    audits := e.audits.filter fun row =>
      row.opportunityId ∈ (e.own minSamples bucket).map (·.opportunityId) }

def Settled (x : FactorTrainingExample) (outcome : SettlementOutcome) : Prop :=
  ∃ row ∈ e.audits, row.opportunityId = x.opportunityId ∧ row.stage = .settled ∧
    row.settlementStatus = some outcome

instance (e : BuildEvidence) (x : FactorTrainingExample) (outcome : SettlementOutcome) :
    Decidable (e.Settled x outcome) :=
  inferInstanceAs (Decidable (∃ row ∈ e.audits, _))

def settledOwn : Nat :=
  (e.own minSamples bucket).countP fun x => e.Settled x .won ∨ e.Settled x .lost

def wonOwn : Nat :=
  (e.own minSamples bucket).countP fun x => e.Settled x .won

/-- A payload stays within a bucket's evidence: its multipliers are at most the win rate of the
bucket's own settled examples, and at most what the bucket's own evidence gives. -/
structure Supports (e : BuildEvidence) (minSamples : Nat) (bucket : BucketRiskDimensions)
    (payload : BucketRiskPayload) : Prop where
  haircut : payload.resolutionHaircutFactor * e.settledOwn minSamples bucket ≤
    e.wonOwn minSamples bucket
  size : payload.sizeMultiplier * e.settledOwn minSamples bucket ≤ e.wonOwn minSamples bucket
  notRaised : ∃ alone ∈ BucketRiskBuilder.build (e.only minSamples bucket) minSamples,
    alone.factor.dimensions = .bucketRisk bucket ∧
    payload.resolutionHaircutFactor ≤ alone.factor.payload.resolutionHaircutFactor ∧
    payload.sizeMultiplier ≤ alone.factor.payload.sizeMultiplier

/-- The wins of the run, spread over the bucket's own examples, stay within the bucket's
evidence: their rate less the margin is at most the bucket's win rate, and either all wins are the
bucket's, or the margin or the cap at one hides the others. -/
structure WithinOwn (e : BuildEvidence) (minSamples : Nat) (bucket : BucketRiskDimensions) :
    Prop where
  rate : e.wonOwn minSamples bucket = e.settledOwn minSamples bucket ∨
    ((settlementReport e.audits).wonCount / (e.own minSamples bucket).length -
        uncertaintyBps (e.own minSamples bucket).length : Decimal) *
      e.settledOwn minSamples bucket ≤ e.wonOwn minSamples bucket
  others : (settlementReport e.audits).wonCount =
      (settlementReport (e.only minSamples bucket).audits).wonCount ∨
    ((settlementReport e.audits).wonCount / (e.own minSamples bucket).length : Decimal) ≤
      uncertaintyBps (e.own minSamples bucket).length ∨
    1 + uncertaintyBps (e.own minSamples bucket).length ≤
      ((settlementReport (e.only minSamples bucket).audits).wonCount /
        (e.own minSamples bucket).length : Decimal)

end BuildEvidence

/-! ## Counts of outcomes -/

theorem wonCount_foldl (rows : List OpportunityAuditRow) (acc : SettlementAccumulator) :
    (rows.foldl SettlementAccumulator.recordOutcome acc).wonCount =
      acc.wonCount + rows.countP fun row => row.settlementStatus = some .won := by
  induction rows generalizing acc with
  | nil => rfl
  | cons row rows ih =>
    rw [List.foldl_cons, ih]
    unfold SettlementAccumulator.recordOutcome
    rcases hstatus : row.settlementStatus with - | - | - <;> simp [hstatus]
    omega

theorem wonCount_settlementReport (audits : List OpportunityAuditRow) :
    (settlementReport audits).wonCount =
      audits.countP fun row => row.settlementStatus = some .won ∧ row.stage = .settled := by
  rw [settlementReport, wonCount_foldl, List.countP_filter, Nat.zero_add]
  simp only [Bool.decide_and]

theorem wonCount_only_le (e : BuildEvidence) (minSamples : Nat) (bucket : BucketRiskDimensions) :
    (settlementReport (e.only minSamples bucket).audits).wonCount ≤
      (settlementReport e.audits).wonCount := by
  rw [wonCount_settlementReport, wonCount_settlementReport]
  exact List.filter_sublist.countP_le

theorem wonOwn_le_settledOwn (e : BuildEvidence) (minSamples : Nat)
    (bucket : BucketRiskDimensions) :
    e.wonOwn minSamples bucket ≤ e.settledOwn minSamples bucket :=
  List.countP_mono_left fun _ _ hwon => decide_eq_true (.inl (of_decide_eq_true hwon))

/-! ## The groups of a run -/

section Groups

variable (e : BuildEvidence) (minSamples : Nat)

variable {e minSamples} in
theorem mem_own {bucket : BucketRiskDimensions} {x : FactorTrainingExample} :
    x ∈ e.own minSamples bucket ↔
      x ∈ e.examples ∧ ∃ d, x.bucket = some d ∧ e.targetOf minSamples d = bucket := by
  rw [BuildEvidence.own, List.mem_filter]
  cases x.bucket <;> simp

variable {examples : List FactorTrainingExample} {g : BucketBuildGroup}

theorem count_of_mem_rawCounts {r : BucketRiskDimensions × Nat} (hr : r ∈ rawCounts examples) :
    r.2 = (examples.filterMap FactorTrainingExample.bucket).count r.1 := by
  have hcount : r.2 = tally (fun _ => 1) ((examples.filterMap FactorTrainingExample.bucket).filter
      fun d => id d = r.1) := value_of_mem_group (f := id) (fun _ _ => rfl) hr
  rw [hcount, tally_one, ← List.countP_eq_length_filter]
  rfl

variable (bucket : BucketRiskDimensions)

theorem keys_own : (e.own minSamples bucket).filterMap FactorTrainingExample.bucket =
      (e.examples.filterMap FactorTrainingExample.bucket).filter
        fun d => e.targetOf minSamples d = bucket := by
  rw [BuildEvidence.own, List.filterMap_filter, List.filter_filterMap]
  congr 1
  funext x
  cases x.bucket <;> simp [Option.filter]

theorem rawCounts_own : rawCounts (e.own minSamples bucket) =
      (rawCounts e.examples).filter fun r => e.targetOf minSamples r.1 = bucket := by
  rw [rawCounts, keys_own]
  exact group_filter (fun d => decide (e.targetOf minSamples d = bucket)) _

theorem mergedCounts_own : mergedCounts minSamples (rawCounts (e.own minSamples bucket)) =
      (mergedCounts minSamples (rawCounts e.examples)).filter fun m => m.1 = bucket := by
  rw [mergedCounts, mergedCounts, ← group_filter (fun d => d = bucket), rawCounts_own]
  congr 1
  refine List.filter_congr fun r hr => ?_
  rw [BuildEvidence.targetOf, ← count_of_mem_rawCounts hr]

theorem mem_bucketBuildGroups : g ∈ bucketBuildGroups examples minSamples ↔
      (g.dimensions, g.sampleCount, g.parentShrunk) ∈
        mergedCounts minSamples (rawCounts examples) := by
  rw [bucketBuildGroups, List.mem_insertionSort, List.mem_map]
  constructor
  · rintro ⟨m, hm, rfl⟩
    exact hm
  · exact fun hm => ⟨_, hm, rfl⟩

theorem mergedCounts_of_group (hg : g ∈ bucketBuildGroups e.examples minSamples) :
    mergedCounts minSamples (rawCounts (e.own minSamples g.dimensions)) =
      [(g.dimensions, g.sampleCount, g.parentShrunk)] := by
  rw [mergedCounts_own]
  exact filter_key_of_nodup (nodup_group _) ((mem_bucketBuildGroups minSamples).mp hg)

theorem bucketBuildGroups_own (hg : g ∈ bucketBuildGroups e.examples minSamples) :
    bucketBuildGroups (e.own minSamples g.dimensions) minSamples = [g] := by
  rw [bucketBuildGroups, mergedCounts_of_group e minSamples hg]
  rfl

theorem tally_mergedCounts (examples : List FactorTrainingExample) :
    tally (fun m => m.2.1) (mergedCounts minSamples (rawCounts examples)) =
      (examples.filterMap FactorTrainingExample.bucket).length := by
  calc tally (fun m => m.2.1) (mergedCounts minSamples (rawCounts examples))
    _ = tally (fun r => r.2) (rawCounts examples) :=
        tally_group (f := fun m : Nat × Bool => m.1) (fun _ _ => rfl) _
    _ = tally (fun _ => 1) (examples.filterMap FactorTrainingExample.bucket) :=
        tally_group (f := id) (fun _ _ => rfl) _
    _ = (examples.filterMap FactorTrainingExample.bucket).length := tally_one _

theorem sampleCount_eq_length_own (hg : g ∈ bucketBuildGroups e.examples minSamples) :
    g.sampleCount = (e.own minSamples g.dimensions).length := by
  have hall : ∀ x ∈ e.own minSamples g.dimensions, x.bucket.isSome = true := by
    intro x hx
    obtain ⟨-, d, hd, -⟩ := mem_own.mp hx
    rw [hd, Option.isSome_some]
  have htally := tally_mergedCounts minSamples (e.own minSamples g.dimensions)
  rw [mergedCounts_of_group e minSamples hg, List.length_filterMap_eq_countP,
    List.countP_eq_length.mpr hall] at htally
  exact htally

theorem exists_group {bucket : BucketRiskDimensions} (h : e.own minSamples bucket ≠ []) :
    ∃ g ∈ bucketBuildGroups e.examples minSamples, g.dimensions = bucket := by
  obtain ⟨x, hx⟩ := List.exists_mem_of_ne_nil _ h
  obtain ⟨hmem, d, hd, rfl⟩ := mem_own.mp hx
  have hkey : d ∈ (rawCounts e.examples).map Prod.fst :=
    (mem_keys_group _).mpr ⟨d, List.mem_filterMap.mpr ⟨x, hmem, hd⟩, rfl⟩
  obtain ⟨r, hr, rfl⟩ := List.mem_map.mp hkey
  have hmerged : e.targetOf minSamples r.1 ∈
      (mergedCounts minSamples (rawCounts e.examples)).map Prod.fst := by
    refine (mem_keys_group _).mpr ⟨r, hr, ?_⟩
    rw [count_of_mem_rawCounts hr]
    rfl
  obtain ⟨m, hm, hbucket⟩ := List.mem_map.mp hmerged
  exact ⟨⟨m.1, m.2.1, m.2.2⟩, (mem_bucketBuildGroups minSamples).mpr hm, hbucket⟩

theorem own_ne_nil_of_group (hg : g ∈ bucketBuildGroups e.examples minSamples) :
    e.own minSamples g.dimensions ≠ [] := by
  intro hnil
  have hone := bucketBuildGroups_own e minSamples hg
  rw [hnil] at hone
  cases hone

end Groups

/-! ## What the multipliers are -/

namespace BucketRiskBuilder

def rateLower (wins samples : Nat) : Decimal :=
  clampUnit ((wins / samples : Decimal) - uncertaintyBps samples)

theorem rateLower_le_iff {wins few samples : Nat} (hle : few ≤ wins) (hsamples : samples ≠ 0) :
    rateLower wins samples ≤ rateLower few samples ↔
      wins = few ∨ (wins / samples : Decimal) ≤ uncertaintyBps samples ∨
        1 + uncertaintyBps samples ≤ (few / samples : Decimal) := by
  have hpos : (0 : Decimal) < samples := Nat.cast_pos.mpr (Nat.pos_of_ne_zero hsamples)
  rw [rateLower, rateLower, clampUnit_le_clampUnit_iff, sub_le_sub_iff_right,
    div_le_div_iff_of_pos_right hpos, Nat.cast_le, sub_nonpos, le_sub_iff_add_le]
  exact or_congr_left ⟨fun h => le_antisymm h hle, fun h => h.le⟩

theorem observedRateLowerBound_of_ne_zero (wins : Nat) {samples : Nat} (h : samples ≠ 0) :
    observedRateLowerBound wins samples =
      .ok { lower := rateLower wins samples
            point := clampUnit (wins / samples)
            upper := clampUnit (wins / samples + uncertaintyBps samples) } :=
  if_neg h

theorem buildBucketGroup_factor (e : BuildEvidence) (minSamples : Nat) {g : BucketBuildGroup}
    (hcount : g.sampleCount ≠ 0) :
    (buildBucketGroup e minSamples g).factor.dimensions = .bucketRisk g.dimensions ∧
    (buildBucketGroup e minSamples g).factor.payload.resolutionHaircutFactor =
      rateLower (settlementReport e.audits).wonCount g.sampleCount ∧
    (buildBucketGroup e minSamples g).factor.payload.sizeMultiplier =
      rateLower (settlementReport e.audits).wonCount g.sampleCount := by
  unfold buildBucketGroup
  simp only [observedRateLowerBound_of_ne_zero _ hcount]
  split <;> exact ⟨rfl, rfl, rfl⟩

section

variable {e : BuildEvidence} {minSamples : Nat} {g : BucketBuildGroup}

theorem build_of_groups {evidence : BuildEvidence} {groups : List BucketBuildGroup}
    (h : bucketBuildGroups evidence.examples minSamples = groups) (hne : groups ≠ []) :
    build evidence minSamples = groups.map (buildBucketGroup evidence minSamples) := by
  unfold build
  rw [h]
  cases groups with
  | nil => exact absurd rfl hne
  | cons g groups => rfl

theorem mem_build_bucket {out : BuilderOutput} {bucket : BucketRiskDimensions} :
    (out ∈ build e minSamples ∧ out.factor.dimensions = .bucketRisk bucket) ↔
      ∃ g ∈ bucketBuildGroups e.examples minSamples,
        g.dimensions = bucket ∧ buildBucketGroup e minSamples g = out := by
  cases hgroups : bucketBuildGroups e.examples minSamples with
  | nil =>
    unfold build
    rw [hgroups]
    constructor
    · rintro ⟨hout, hbucket⟩
      rw [List.mem_singleton.mp hout] at hbucket
      cases hbucket
    · rintro ⟨g, hg, -⟩
      cases hg
  | cons first rest =>
    rw [build_of_groups hgroups (List.cons_ne_nil _ _), List.mem_map]
    have hdims : ∀ g ∈ first :: rest,
        (buildBucketGroup e minSamples g).factor.dimensions = .bucketRisk g.dimensions := by
      intro g hg
      rw [← hgroups] at hg
      refine (buildBucketGroup_factor e minSamples ?_).1
      rw [sampleCount_eq_length_own e minSamples hg]
      exact fun hzero => own_ne_nil_of_group e minSamples hg (List.length_eq_zero_iff.mp hzero)
    constructor
    · rintro ⟨⟨g, hg, rfl⟩, hbucket⟩
      rw [hdims g hg] at hbucket
      exact ⟨g, hg, FactorDimensions.bucketRisk.inj hbucket, rfl⟩
    · rintro ⟨g, hg, rfl, rfl⟩
      exact ⟨⟨g, hg, rfl⟩, hdims g hg⟩

theorem supports_group_iff (hg : g ∈ bucketBuildGroups e.examples minSamples) :
    e.Supports minSamples g.dimensions (buildBucketGroup e minSamples g).factor.payload ↔
      e.WithinOwn minSamples g.dimensions := by
  have hlength := sampleCount_eq_length_own e minSamples hg
  have hne : g.sampleCount ≠ 0 := fun hzero =>
    own_ne_nil_of_group e minSamples hg (List.length_eq_zero_iff.mp (hlength ▸ hzero))
  obtain ⟨-, hhaircut, hsize⟩ := buildBucketGroup_factor e minSamples hne
  have halone : build (e.only minSamples g.dimensions) minSamples =
      [buildBucketGroup (e.only minSamples g.dimensions) minSamples g] := by
    rw [build_of_groups (bucketBuildGroups_own e minSamples hg) (List.cons_ne_nil g [])]
    rfl
  obtain ⟨hdims, hhaircut', hsize'⟩ :=
    buildBucketGroup_factor (e.only minSamples g.dimensions) minSamples hne
  rw [hlength] at hhaircut hsize hhaircut' hsize'
  have hothers := rateLower_le_iff (wonCount_only_le e minSamples g.dimensions) (hlength ▸ hne)
  have hwon := wonOwn_le_settledOwn e minSamples g.dimensions
  -- both multipliers are one rate
  constructor
  · intro h
    obtain ⟨alone, hmem, -, hle, -⟩ := h.notRaised
    rw [halone, List.mem_singleton] at hmem
    rw [hmem, hhaircut, hhaircut'] at hle
    have hown := h.haircut
    rw [hhaircut] at hown
    exact ⟨(clampUnit_mul_le_iff hwon).mp hown, hothers.mp hle⟩
  · intro h
    refine ⟨?_, ?_, _, halone ▸ List.mem_singleton_self _, hdims, ?_, ?_⟩
    · rw [hhaircut]
      exact (clampUnit_mul_le_iff hwon).mpr h.rate
    · rw [hsize]
      exact (clampUnit_mul_le_iff hwon).mpr h.rate
    · rw [hhaircut, hhaircut']
      exact hothers.mpr h.others
    · rw [hsize, hsize']
      exact hothers.mpr h.others

/-- The multipliers of every bucket's factor are at most the win rate of its own settled examples
and not raised by the evidence of other buckets, if and only if the wins of the whole run stay
within the evidence of each bucket. -/
theorem multipliers_supported_iff (e : BuildEvidence) (minSamples : Nat) :
    (∀ out ∈ build e minSamples, ∀ bucket, out.factor.dimensions = .bucketRisk bucket →
        e.Supports minSamples bucket out.factor.payload) ↔
      ∀ bucket, e.own minSamples bucket ≠ [] → e.WithinOwn minSamples bucket := by
  constructor
  · intro h bucket hown
    obtain ⟨g, hg, rfl⟩ := exists_group e minSamples hown
    obtain ⟨hout, hbucket⟩ := mem_build_bucket.mpr ⟨g, hg, rfl, rfl⟩
    exact (supports_group_iff hg).mp (h _ hout _ hbucket)
  · intro h out hout bucket hbucket
    obtain ⟨g, hg, rfl, rfl⟩ := mem_build_bucket.mp ⟨hout, hbucket⟩
    exact (supports_group_iff hg).mpr (h _ (own_ne_nil_of_group e minSamples hg))

end

/-- Four wins in sports and one loss in politics: politics gets a draft factor without any
haircut. -/
theorem wins_of_other_bucket_lift_haircut :
    let bucket (category : MarketCategory) : BucketRiskDimensions :=
      .coarse category .z95 .short
    let entry (id : String) (category : MarketCategory) : FactorTrainingExample :=
      ⟨⟨id⟩, .bucketRisk, .bucketRisk (bucket category)⟩
    let e : BuildEvidence :=
      { examples := [entry "p" .politics, entry "a" .sports, entry "b" .sports, entry "c" .sports,
          entry "d" .sports]
        audits := [⟨⟨"p"⟩, .settled, some .lost⟩, ⟨⟨"a"⟩, .settled, some .won⟩,
          ⟨⟨"b"⟩, .settled, some .won⟩, ⟨⟨"c"⟩, .settled, some .won⟩,
          ⟨⟨"d"⟩, .settled, some .won⟩] }
    (∃ out ∈ build e 1, out.factor.dimensions = .bucketRisk (bucket .politics) ∧
      out.factor.status = .draft ∧ out.factor.payload.resolutionHaircutFactor = 1 ∧
      out.factor.payload.sizeMultiplier = 1) ∧
    e.settledOwn 1 (bucket .politics) = 1 ∧ e.wonOwn 1 (bucket .politics) = 0 ∧
    (∃ alone ∈ build (e.only 1 (bucket .politics)) 1,
      alone.factor.dimensions = .bucketRisk (bucket .politics) ∧
      alone.factor.payload.resolutionHaircutFactor = 0) := by
  decide +kernel

end BucketRiskBuilder

end OxideArb.ControlFactor
