import OxideArb.ControlFactor.BucketBuilder

/-!
# The quality gates and the stability of a factor

A draft factor becomes a candidate when no enabled gate fails. The stability gate looks at the
markets of all examples of the factor's type, of which a bucket's factor is built from a part.
-/

namespace OxideArb.ControlFactor

/-! ## Gates -/

structure MarketExample extends FactorTrainingExample where
  marketId : MarketId
deriving DecidableEq, Repr

inductive QualityGateName
  | pointInTime | upstreamStage | coverage | sample | leakage | stability | tailRisk
  | conservative | ttl | owner | rollback
deriving DecidableEq, Repr

inductive MaterializationOutputPolicy
  | emitDraftCandidates | emitDraftOnly | reportOnly | noFactorOutput
deriving DecidableEq, Repr

inductive QualityGateOutcome
  | passed | failed
deriving DecidableEq, Repr

structure QualityGateDecision where
  gateName : QualityGateName
  outcome : QualityGateOutcome
  blocking : Bool
  code : String
  message : String
deriving DecidableEq, Repr

def QualityGateDecision.isBlockingFailure (decision : QualityGateDecision) : Bool :=
  decision.outcome = .failed && decision.blocking

structure QualityGatePolicy where
  enabledGates : List QualityGateName
  maxSingleMarketShareBps : Nat
deriving DecidableEq, Repr

/-- What an evaluation reads: the policy, the examples, and what the gates other than the stability
gate check. -/
structure QualityGateContext where
  policy : QualityGatePolicy
  training : List MarketExample
  checks : QualityGateName → ControlFactorValue → Bool

def dominanceBps (largestGroupCount totalCount : Nat) : Except StatsError Nat :=
  if totalCount = 0 then .error .emptySample
  else .ok (min (largestGroupCount * 10000 / totalCount) (2 ^ 32 - 1))

def trainingExamplesFor (training : List MarketExample) (factorType : ControlFactorType) :
    List MarketExample :=
  training.filter fun x => x.factorType = factorType

def marketCounts (examples : List MarketExample) : List (MarketId × Nat) :=
  group (·.marketId) (fun _ => 1) (· + ·) examples

def largestCount (examples : List MarketExample) : Nat :=
  ((marketCounts examples).map Prod.snd).max?.getD 0

def marketStabilityOk (context : QualityGateContext) (factor : ControlFactorValue) : Bool :=
  let examples := trainingExamplesFor context.training factor.factorType
  if examples.isEmpty then false
  else if (marketCounts examples).length ≤ 1 then true
  else
    match dominanceBps (largestCount examples) examples.length with
    | .ok bps => bps ≤ context.policy.maxSingleMarketShareBps
    | .error _ => false

/-- The gates in the order they are evaluated, with the code and message of a failure. -/
def evaluatedGates : List (QualityGateName × String × String) :=
  [(.pointInTime, "gate.pit_ineligible", "point-in-time inputs are not production eligible"),
    (.upstreamStage, "gate.upstream_stage_blocked",
      "required upstream evidence stages are not production-ready"),
    (.coverage, "gate.coverage_insufficient", "factor evidence coverage is insufficient"),
    (.sample, "gate.sample_insufficient", "factor sample thresholds are not satisfied"),
    (.leakage, "gate.leakage_detected",
      "historical evidence shows calibration/bucket leakage or lookahead"),
    (.stability, "gate.stability_dominance",
      "factor estimate is dominated by a single market or event"),
    (.tailRisk, "gate.tail_risk_exceeded",
      "portfolio tail drawdown exceeds policy bounds for this factor"),
    (.conservative, "gate.not_conservative", "factor payload is not conservative"),
    (.ttl, "gate.ttl_invalid", "factor TTL is missing or already expired"),
    (.owner, "gate.owner_missing", "factor owner is required")]

section Evaluation

variable (context : QualityGateContext) (factor : ControlFactorValue)

def gatePasses (gateName : QualityGateName) : Bool :=
  if gateName = .stability then marketStabilityOk context factor
  else context.checks gateName factor

def boolDecision (gate : QualityGateName × String × String) : QualityGateDecision :=
  if gatePasses context factor gate.1 then
    { gateName := gate.1, outcome := .passed, blocking := false, code := "gate.passed"
      message := "gate passed" }
  else
    { gateName := gate.1, outcome := .failed, blocking := true, code := gate.2.1
      message := gate.2.2 }

def evaluateFactor : List QualityGateDecision :=
  (evaluatedGates.filter fun gate => gate.1 ∈ context.policy.enabledGates).map
    (boolDecision context factor)

def statusAfter (outputPolicy : MaterializationOutputPolicy) : FactorStatus :=
  let hasBlockingFailure := (evaluateFactor context factor).any (·.isBlockingFailure)
  match outputPolicy, factor.status, hasBlockingFailure with
  | _, .rejected, _ => .rejected
  | .emitDraftCandidates, .draft, false => .candidate
  | .emitDraftCandidates, .draft, true => .rejected
  | .emitDraftOnly, .draft, _ => .draft
  | _, .reportOnly, _ => .reportOnly
  | _, status, _ => status

end Evaluation

def evaluate (outputPolicy : MaterializationOutputPolicy) (context : QualityGateContext)
    (factors : List ControlFactorValue) : List ControlFactorValue :=
  factors.map fun factor => { factor with status := statusAfter context factor outputPolicy }

/-! ## A factor's own examples -/

/-- The examples that a factor is built from: those of its bucket, as the builder merges them, or
all of its type. -/
def ownExamples (training : List MarketExample) (minOpportunities : Nat)
    (factor : ControlFactorValue) : List MarketExample :=
  match factor.factorType, factor.dimensions with
  | .bucketRisk, .bucketRisk bucket =>
    training.filter fun x => x.bucket.any fun d =>
      BuildEvidence.targetOf ⟨training.map (·.toFactorTrainingExample), []⟩ minOpportunities d =
        bucket
  | factorType, _ => trainingExamplesFor training factorType

def shareOf (market : MarketId) (examples : List MarketExample) : Nat :=
  examples.countP fun x => x.marketId = market

variable {training : List MarketExample} {minOpportunities : Nat} {factor : ControlFactorValue}
  {context : QualityGateContext} {examples : List MarketExample}

theorem bucket_factorType {x : FactorTrainingExample} {d : BucketRiskDimensions}
    (h : x.bucket = some d) : x.factorType = .bucketRisk := by
  unfold FactorTrainingExample.bucket at h
  split at h
  · assumption
  · cases h

theorem mem_trainingExamplesFor_of_own {x : MarketExample}
    (h : x ∈ ownExamples training minOpportunities factor) :
    x ∈ trainingExamplesFor training factor.factorType := by
  unfold ownExamples at h
  split at h
  · rename_i htype _
    obtain ⟨hmem, hany⟩ := List.mem_filter.mp h
    obtain ⟨d, hd, -⟩ := (Option.any_eq_true _ _).mp hany
    rw [htype]
    exact List.mem_filter.mpr ⟨hmem, decide_eq_true (bucket_factorType hd)⟩
  · exact h

/-! ## Counts of markets -/

theorem length_le_one_iff_of_nodup {α : Type} {l : List α} (h : l.Nodup) :
    l.length ≤ 1 ↔ ∀ a ∈ l, ∀ b ∈ l, a = b := by
  match l with
  | [] => simp
  | [a] => simp
  | a :: b :: rest =>
    have hne : a ≠ b := fun heq => (List.nodup_cons.mp h).1 (heq ▸ List.mem_cons_self)
    refine iff_of_false (by simp) fun hall => hne ?_
    exact hall a List.mem_cons_self b (List.mem_cons_of_mem a List.mem_cons_self)

/-- There is at most one count when all examples are of one market. -/
theorem marketCounts_length_le_one :
    (marketCounts examples).length ≤ 1 ↔
      ∀ a ∈ examples, ∀ b ∈ examples, a.marketId = b.marketId := by
  unfold marketCounts
  rw [← List.length_map (f := Prod.fst), length_le_one_iff_of_nodup (nodup_group examples)]
  constructor
  · intro h a ha b hb
    exact h _ ((mem_keys_group examples).mpr ⟨a, ha, rfl⟩) _
      ((mem_keys_group examples).mpr ⟨b, hb, rfl⟩)
  · intro h market hmarket market' hmarket'
    obtain ⟨a, ha, rfl⟩ := (mem_keys_group examples).mp hmarket
    obtain ⟨b, hb, rfl⟩ := (mem_keys_group examples).mp hmarket'
    exact h a ha b hb

theorem marketCounts_value {count : MarketId × Nat} (h : count ∈ marketCounts examples) :
    count.2 = shareOf count.1 examples := by
  have hvalue : count.2 = tally (fun _ => 1) (examples.filter fun x => x.marketId = count.1) :=
    value_of_mem_group (f := id) (fun _ _ => rfl) h
  rw [hvalue, tally_one, ← List.countP_eq_length_filter]
  rfl

theorem mem_values_of_pos {market : MarketId} (h : 0 < shareOf market examples) :
    shareOf market examples ∈ (marketCounts examples).map Prod.snd := by
  obtain ⟨x, hx, hmarket⟩ := List.countP_pos_iff.mp h
  obtain ⟨count, hcount, hkey⟩ :=
    List.mem_map.mp ((mem_keys_group examples).mpr ⟨x, hx, of_decide_eq_true hmarket⟩)
  exact List.mem_map.mpr ⟨count, hcount, (marketCounts_value hcount).trans (by rw [hkey])⟩

theorem shareOf_le_largestCount (market : MarketId) (examples : List MarketExample) :
    shareOf market examples ≤ largestCount examples := by
  rcases Nat.eq_zero_or_pos (shareOf market examples) with hzero | hpos
  · rw [hzero]
    exact Nat.zero_le _
  · have hmem := mem_values_of_pos hpos
    unfold largestCount
    cases hmax : ((marketCounts examples).map Prod.snd).max? with
    | none =>
      rw [List.max?_eq_none_iff.mp hmax] at hmem
      exact absurd hmem List.not_mem_nil
    | some largest => exact (List.max?_eq_some_iff.mp hmax).2 _ hmem

theorem exists_largestCount (h : examples ≠ []) :
    ∃ market, shareOf market examples = largestCount examples := by
  obtain ⟨x, hx⟩ := List.exists_mem_of_ne_nil _ h
  have hpos : 0 < shareOf x.marketId examples :=
    List.countP_pos_iff.mpr ⟨x, hx, decide_eq_true rfl⟩
  unfold largestCount
  cases hmax : ((marketCounts examples).map Prod.snd).max? with
  | none =>
    have hmem := mem_values_of_pos hpos
    rw [List.max?_eq_none_iff.mp hmax] at hmem
    exact absurd hmem List.not_mem_nil
  | some largest =>
    obtain ⟨count, hcount, rfl⟩ := List.mem_map.mp (List.max?_eq_some_iff.mp hmax).1
    exact ⟨count.1, (marketCounts_value hcount).symm⟩

theorem largestCount_le_length : largestCount examples ≤ examples.length := by
  rcases List.eq_nil_or_concat examples with rfl | ⟨_, _, hne⟩
  · exact Nat.zero_le _
  · obtain ⟨market, hmarket⟩ := exists_largestCount (show examples ≠ [] by simp [hne])
    rw [← hmarket]
    exact List.countP_le_length

/-! ## The stability gate -/

theorem dominanceBps_eq (h : examples ≠ []) :
    dominanceBps (largestCount examples) examples.length =
      .ok (largestCount examples * 10000 / examples.length) := by
  have hpos : 0 < examples.length := List.length_pos_iff.mpr h
  have hle : largestCount examples * 10000 / examples.length ≤ 10000 :=
    Nat.div_le_of_le_mul (Nat.mul_le_mul_right _ largestCount_le_length)
  unfold dominanceBps
  rw [if_neg hpos.ne', min_eq_left (by omega)]

theorem marketStabilityOk_iff :
    marketStabilityOk context factor = true ↔
      trainingExamplesFor context.training factor.factorType ≠ [] ∧
        ((∀ a ∈ trainingExamplesFor context.training factor.factorType,
            ∀ b ∈ trainingExamplesFor context.training factor.factorType,
              a.marketId = b.marketId) ∨
          largestCount (trainingExamplesFor context.training factor.factorType) * 10000 /
              (trainingExamplesFor context.training factor.factorType).length ≤
            context.policy.maxSingleMarketShareBps) := by
  unfold marketStabilityOk
  dsimp only
  split
  · rename_i hempty
    exact iff_of_false Bool.false_ne_true fun h => h.1 (List.isEmpty_iff.mp hempty)
  · rename_i hne
    have hne : trainingExamplesFor context.training factor.factorType ≠ [] :=
      fun heq => hne (List.isEmpty_iff.mpr heq)
    split
    · rename_i hone
      exact iff_of_true rfl ⟨hne, .inl (marketCounts_length_le_one.mp hone)⟩
    · rename_i hmany
      rw [dominanceBps_eq hne, decide_eq_true_eq, and_iff_right hne,
        or_iff_right (mt marketCounts_length_le_one.mpr hmany)]

/-- A draft becomes a candidate exactly if candidates are emitted and every enabled gate passes. -/
theorem statusAfter_eq_candidate_iff (hdraft : factor.status = .draft)
    {outputPolicy : MaterializationOutputPolicy} :
    statusAfter context factor outputPolicy = .candidate ↔
      outputPolicy = .emitDraftCandidates ∧
        ∀ gate ∈ evaluatedGates, gate.1 ∈ context.policy.enabledGates →
          gatePasses context factor gate.1 = true := by
  have hfailures : (evaluateFactor context factor).any (·.isBlockingFailure) = false ↔
      ∀ gate ∈ evaluatedGates, gate.1 ∈ context.policy.enabledGates →
        gatePasses context factor gate.1 = true := by
    unfold evaluateFactor boolDecision
    rw [List.any_map, List.any_eq_false]
    simp only [List.mem_filter, decide_eq_true_eq, and_imp, Function.comp]
    refine forall₃_congr fun gate _ _ => ?_
    cases gatePasses context factor gate.1 <;> simp [QualityGateDecision.isBlockingFailure]
  unfold statusAfter
  rw [hdraft, ← hfailures]
  cases outputPolicy <;>
    cases (evaluateFactor context factor).any (·.isBlockingFailure) <;> simp

/-- The stability gate alone, with a limit. -/
def stabilityContext (training : List MarketExample) (limit : Nat) : QualityGateContext where
  policy := ⟨[.stability], limit⟩
  training
  checks := fun _ _ => true

theorem candidate_of_stabilityOk (hdraft : factor.status = .draft) {limit : Nat}
    (h : marketStabilityOk (stabilityContext training limit) factor = true) :
    statusAfter (stabilityContext training limit) factor .emitDraftCandidates = .candidate := by
  refine (statusAfter_eq_candidate_iff hdraft).mpr ⟨rfl, fun gate _ henabled => ?_⟩
  rw [gatePasses, if_pos (List.mem_singleton.mp henabled), h]

theorem stabilityOk_of_candidate (hdraft : factor.status = .draft)
    (henabled : .stability ∈ context.policy.enabledGates)
    {outputPolicy : MaterializationOutputPolicy}
    (h : statusAfter context factor outputPolicy = .candidate) :
    marketStabilityOk context factor = true := by
  have hpasses := ((statusAfter_eq_candidate_iff hdraft).mp h).2
    (.stability, "gate.stability_dominance",
      "factor estimate is dominated by a single market or event")
    (by simp [evaluatedGates]) henabled
  rwa [gatePasses, if_pos rfl] at hpasses

/-- No market has more than its share of the examples. -/
def SharesWithin (limit : Nat) (examples : List MarketExample) : Prop :=
  ∀ market, shareOf market examples * 10000 ≤ limit * examples.length

theorem SharesWithin.eq_nil (h : SharesWithin 0 examples) : examples = [] := by
  cases examples with
  | nil => rfl
  | cons x examples =>
    have hshare := h x.marketId
    have hpos : 0 < shareOf x.marketId (x :: examples) :=
      List.countP_pos_iff.mpr ⟨x, List.mem_cons_self, decide_eq_true rfl⟩
    omega

/-- Whatever the policy with the stability gate, a draft becomes a candidate only within the limit
on the markets of its own examples, exactly if it has none, or the examples of its type are of two
markets at least and one of these has a share of them, in whole basis points, that no market
exceeds among the factor's own. -/
theorem candidate_sharesWithin_iff (training : List MarketExample) (minOpportunities : Nat)
    {factor : ControlFactorValue} (hdraft : factor.status = .draft) :
    (∀ (context : QualityGateContext) (outputPolicy : MaterializationOutputPolicy),
        context.training = training → .stability ∈ context.policy.enabledGates →
        statusAfter context factor outputPolicy = .candidate →
        SharesWithin context.policy.maxSingleMarketShareBps
          (ownExamples training minOpportunities factor)) ↔
      ownExamples training minOpportunities factor = [] ∨
        (∃ a ∈ trainingExamplesFor training factor.factorType,
          ∃ b ∈ trainingExamplesFor training factor.factorType, a.marketId ≠ b.marketId) ∧
        ∃ market, SharesWithin
          (shareOf market (trainingExamplesFor training factor.factorType) * 10000 /
            (trainingExamplesFor training factor.factorType).length)
          (ownExamples training minOpportunities factor) := by
  constructor
  · intro h
    have hlimit : ∀ limit, marketStabilityOk (stabilityContext training limit) factor = true →
        SharesWithin limit (ownExamples training minOpportunities factor) := fun limit hok =>
      h _ _ rfl (List.mem_singleton.mpr rfl) (candidate_of_stabilityOk hdraft hok)
    by_cases hown : ownExamples training minOpportunities factor = []
    · exact .inl hown
    have hne : trainingExamplesFor training factor.factorType ≠ [] := by
      obtain ⟨x, hx⟩ := List.exists_mem_of_ne_nil _ hown
      exact List.ne_nil_of_mem (mem_trainingExamplesFor_of_own hx)
    refine .inr ⟨?_, ?_⟩
    · by_contra hone
      push Not at hone
      exact hown (hlimit 0 (marketStabilityOk_iff.mpr ⟨hne, .inl hone⟩)).eq_nil
    · obtain ⟨market, hmarket⟩ := exists_largestCount hne
      refine ⟨market, hlimit _ (marketStabilityOk_iff.mpr ⟨hne, .inr ?_⟩)⟩
      rw [hmarket]
      exact le_rfl
  · rintro (hown | ⟨⟨a, ha, b, hb, hab⟩, market, hshares⟩)
      context outputPolicy rfl henabled hcandidate other
    · rw [hown, shareOf, List.countP_nil, Nat.zero_mul]
      exact Nat.zero_le _
    · obtain ⟨-, hone | hle⟩ :=
        marketStabilityOk_iff.mp (stabilityOk_of_candidate hdraft henabled hcandidate)
      · exact absurd (hone a ha b hb) hab
      · refine (hshares other).trans (Nat.mul_le_mul_right _ (le_trans ?_ hle))
        exact Nat.div_le_div_right (Nat.mul_le_mul_right _ (shareOf_le_largestCount market _))

def politicsBucket : BucketRiskDimensions := .coarse .politics .z95 .short

/-- An example of a bucket of politics or of sports, on a market. -/
def marketExample (category : MarketCategory) (market : String) : MarketExample where
  opportunityId := ⟨market⟩
  factorType := .bucketRisk
  entityKey := .bucketRisk (.coarse category .z95 .short)
  marketId := ⟨market⟩

/-- The draft factor of the politics bucket. -/
def politicsDraft : ControlFactorValue where
  factorId := ⟨"f"⟩
  factorType := .bucketRisk
  dimensions := .bucketRisk politicsBucket
  payload := .bucketRisk neutralBucketPayload
  evidence :=
    { stageReportIds := [], windowFrom := 0, windowTo := 1, sampleCount := 1
      dataCoverage := ⟨1, 0, 1, []⟩, productionEligible := true, baselineConfigHash := ""
      codeGitSha := "", datasetHash := "", featureSchemaHash := "", labelSchemaHash := ""
      queryFingerprint := "" }
  status := .draft
  generatedAt := 0
  expiresAt := 1
  schemaVersion := 1

def balancedExamples : List MarketExample :=
  [marketExample .politics "a", marketExample .politics "b"]

/-- Two markets with an example each pass at half the share. -/
theorem balanced_draft_within :
    statusAfter (stabilityContext balancedExamples 5000) politicsDraft .emitDraftCandidates =
        .candidate ∧
      SharesWithin 5000 (ownExamples balancedExamples 1 politicsDraft) := by
  have hcandidate : statusAfter (stabilityContext balancedExamples 5000) politicsDraft
      .emitDraftCandidates = .candidate := by decide +kernel
  refine ⟨hcandidate, (candidate_sharesWithin_iff balancedExamples 1 rfl).mpr
    (.inr ⟨by decide +kernel, ⟨"a"⟩, fun market => ?_⟩) _ _ rfl (by decide) hcandidate⟩
  have hown : ownExamples balancedExamples 1 politicsDraft = balancedExamples := by
    decide +kernel
  have hlimit : shareOf ⟨"a"⟩ (trainingExamplesFor balancedExamples politicsDraft.factorType) *
      10000 / (trainingExamplesFor balancedExamples politicsDraft.factorType).length = 5000 := by
    decide +kernel
  have hshare : shareOf market balancedExamples ≤ 1 := by
    unfold shareOf balancedExamples marketExample
    by_cases ha : (⟨"a"⟩ : MarketId) = market
    · subst ha
      decide
    · simp only [List.countP_cons, List.countP_nil, ha, decide_false]
      split <;> simp
  rw [hown, hlimit]
  exact Nat.mul_le_mul_right 10000 hshare

/-- A factor from one market alone is a candidate at a limit of zero. Beside a sports bucket on
another market it is one at the half, though all of its own examples are of one market. -/
theorem single_market_is_candidate :
    (evaluate .emitDraftCandidates (stabilityContext [marketExample .politics "a"] 0)
        [politicsDraft]).map (·.status) = [.candidate] ∧
      ownExamples [marketExample .politics "a"] 1 politicsDraft =
        [marketExample .politics "a"] ∧
      (evaluate .emitDraftCandidates
        (stabilityContext [marketExample .politics "a", marketExample .sports "b"] 5000)
        [politicsDraft]).map (·.status) = [.candidate] ∧
      ownExamples [marketExample .politics "a", marketExample .sports "b"] 1 politicsDraft =
        [marketExample .politics "a"] := by
  decide +kernel

end OxideArb.ControlFactor
