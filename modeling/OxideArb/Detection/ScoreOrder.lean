import OxideArb.Detection.Fusion
import OxideArb.Detection.Thresholds

/-!
# The order of scores

Every factor of a score and every truncation between them keeps the order. Amounts that do not
fit into 64 bits are read as zero and fall out of it.
-/

namespace OxideArb

/-! ## Reading decimals -/

namespace Micro

/-- The value fits into 64 bits. -/
def Fits (d : Decimal) : Prop := ⌊d * MICRO_SCALE⌋ ≤ i64Max

instance (d : Decimal) : Decidable (Fits d) := inferInstanceAs (Decidable (_ ≤ _))

theorem getD_mono {d d' : Decimal} (h : d ≤ d') (hfits : Fits d') :
    (tryFromDecimal d).getD 0 ≤ (tryFromDecimal d').getD 0 := by
  rcases lt_or_ge d 0 with hneg | hnonneg
  · rw [getD_of_neg hneg]
    exact getD_nonneg d'
  · have hscaled : d * MICRO_SCALE ≤ d' * MICRO_SCALE :=
      mul_le_mul_of_nonneg_right h (by norm_num [MICRO_SCALE])
    have hfloor := Int.floor_mono hscaled
    rw [tryFromDecimal_of_fits hnonneg (hfloor.trans hfits),
      tryFromDecimal_of_fits (hnonneg.trans h) hfits]
    exact hfloor

theorem saturateI64_mono {v w : Int} (h : v ≤ w) : saturateI64 v ≤ saturateI64 w :=
  max_le_max_left _ (min_le_min_left _ h)

theorem le_saturateI64 {v w : Int} (h : v ≤ w) (hv : v ≤ i64Max) : v ≤ saturateI64 w :=
  (le_min hv h).trans (le_max_right _ _)

theorem saturateI64_le {v w : Int} (h : v ≤ w) (hw : 0 ≤ w) : saturateI64 v ≤ w :=
  max_le ((by decide : i64Min ≤ 0).trans hw) ((min_le_right _ _).trans h)

/-- Products of the scorer: truncated and saturated. -/
theorem saturate_mul_mono {a b c d : Int} (ha : 0 ≤ a) (hac : a ≤ c) (hb : 0 ≤ b) (hbd : b ≤ d) :
    saturate ((a * b).tdiv MICRO_SCALE) ≤ saturate ((c * d).tdiv MICRO_SCALE) :=
  saturate_mono (Int.tdiv_le_tdiv (by decide) (mul_le_mul hac hbd hb (ha.trans hac)))

theorem saturate_mul_nonneg {a b : Int} (ha : 0 ≤ a) (hb : 0 ≤ b) :
    0 ≤ saturate ((a * b).tdiv MICRO_SCALE) :=
  saturate_nonneg (Int.tdiv_nonneg (mul_nonneg ha hb) (by decide))

end Micro

/-! ## The probability of a fill -/

namespace FillProbabilityEstimator

structure Nonneg (est : FillProbabilityEstimator) : Prop where
  base : 0 ≤ est.baseFillProb
  depth : 0 ≤ est.depthPenaltyPerPct
  staleness : 0 ≤ est.stalenessPenaltyPerLevel
  bonus : 0 ≤ est.resolutionProximityBonus
  bonus_le : est.resolutionProximityBonus ≤ i64Max

theorem new_nonneg (config : FillProbabilityConfig) : (new config).Nonneg :=
  ⟨Micro.getD_nonneg _, Micro.getD_nonneg _, Micro.getD_nonneg _, Micro.getD_nonneg _,
    Micro.getD_le_i64Max _⟩

variable (est : FillProbabilityEstimator)

def afterDepth (depthUsedPct : MicroPct) : Int :=
  if 0 < saturateI64 (depthUsedPct - est.depthPenaltyThresholdPct) then
    saturateI64 (est.baseFillProb - Micro.saturate ((saturateI64
      (depthUsedPct - est.depthPenaltyThresholdPct) * est.depthPenaltyPerPct * 100).tdiv
        MICRO_SCALE))
  else est.baseFillProb

def proximityBonus (hours : Int) : Int :=
  (est.resolutionProximityBonus * (MICRO_SCALE - (hours * MICRO_SCALE).tdiv 6)).tdiv MICRO_SCALE

def withBonus (hours p : Int) : Int :=
  if 0 ≤ hours ∧ hours ≤ 6 then
    saturateI64 (p + if est.proximityBonus hours ≤ i64Max then est.proximityBonus hours else 0)
  else p

theorem estimate_eq (depth : MicroPct) (level : StalenessLevel) (hours : Int) :
    est.estimate depth level hours =
      (MicroProb.fromMicro (est.withBonus hours (saturateI64 (est.afterDepth depth -
        stalenessSteps level * est.stalenessPenaltyPerLevel)))).clampProb
        (MicroProb.fromMicro 100000) (MicroProb.fromMicro 990000) := rfl

variable {est} (h : est.Nonneg)
include h

theorem afterDepth_anti {depth depth' : Int} (hle : depth' ≤ depth) :
    est.afterDepth depth ≤ est.afterDepth depth' := by
  have hexcess : saturateI64 (depth' - est.depthPenaltyThresholdPct) ≤
      saturateI64 (depth - est.depthPenaltyThresholdPct) :=
    Micro.saturateI64_mono (sub_le_sub_right hle _)
  unfold afterDepth
  by_cases hover' : 0 < saturateI64 (depth' - est.depthPenaltyThresholdPct)
  · rw [if_pos (hover'.trans_le hexcess), if_pos hover']
    refine Micro.saturateI64_mono (sub_le_sub_left (Micro.saturate_mono ?_) _)
    refine Int.tdiv_le_tdiv (by decide) (mul_le_mul_of_nonneg_right ?_ (by decide))
    exact mul_le_mul_of_nonneg_right hexcess h.depth
  · rw [if_neg hover']
    split
    · rename_i hover
      have hpenalty := Micro.saturate_nonneg (Int.tdiv_nonneg
        (mul_nonneg (mul_nonneg hover.le h.depth) (by decide : (0 : Int) ≤ 100))
        (by decide : 0 ≤ MICRO_SCALE))
      exact Micro.saturateI64_le (sub_le_self _ hpenalty) h.base
    · exact le_rfl

theorem proximityBonus_mem {hours : Int} (h0 : 0 ≤ hours) (h6 : hours ≤ 6) :
    0 ≤ est.proximityBonus hours ∧ est.proximityBonus hours ≤ i64Max := by
  have hused : 0 ≤ (hours * MICRO_SCALE).tdiv 6 :=
    Int.tdiv_nonneg (mul_nonneg h0 (by decide)) (by decide)
  have hfraction : (hours * MICRO_SCALE).tdiv 6 ≤ MICRO_SCALE := by
    rw [Int.tdiv_eq_ediv_of_nonneg (mul_nonneg h0 (by decide))]
    refine Int.ediv_le_of_le_mul (by decide) ?_
    rw [mul_comm]
    exact mul_le_mul_of_nonneg_left h6 (by decide)
  have hnonneg := mul_nonneg h.bonus (sub_nonneg.mpr hfraction)
  refine ⟨Int.tdiv_nonneg hnonneg (by decide), le_trans ?_ h.bonus_le⟩
  unfold proximityBonus
  rw [Int.tdiv_eq_ediv_of_nonneg hnonneg]
  exact Int.ediv_le_of_le_mul (by decide)
    (mul_le_mul_of_nonneg_left (sub_le_self _ hused) h.bonus)

theorem proximityBonus_anti {hours hours' : Int} (hle : hours' ≤ hours) :
    est.proximityBonus hours ≤ est.proximityBonus hours' := by
  refine Int.tdiv_le_tdiv (by decide) (mul_le_mul_of_nonneg_left ?_ h.bonus)
  exact sub_le_sub_left (Int.tdiv_le_tdiv (by decide)
    (mul_le_mul_of_nonneg_right hle (by decide))) _

theorem withBonus_anti {hours hours' p : Int} (h0 : 0 ≤ hours') (hle : hours' ≤ hours)
    (hmax : p ≤ i64Max) : est.withBonus hours p ≤ est.withBonus hours' p := by
  unfold withBonus
  by_cases h6 : hours ≤ 6
  · obtain ⟨-, hfits⟩ := proximityBonus_mem h (h0.trans hle) h6
    obtain ⟨-, hfits'⟩ := proximityBonus_mem h h0 (hle.trans h6)
    rw [if_pos (And.intro (h0.trans hle) h6), if_pos hfits, if_pos (And.intro h0 (hle.trans h6)),
      if_pos hfits']
    exact Micro.saturateI64_mono (add_le_add_right (proximityBonus_anti h hle) _)
  · rw [if_neg fun hin => h6 hin.2]
    split
    · rename_i hin
      obtain ⟨hbonus, hfits⟩ := proximityBonus_mem h hin.1 hin.2
      rw [if_pos hfits]
      exact Micro.le_saturateI64 (le_add_of_nonneg_right hbonus) hmax
    · exact le_rfl

omit h in
theorem withBonus_mono (hours : Int) {p p' : Int} (hp : p ≤ p') :
    est.withBonus hours p ≤ est.withBonus hours p' := by
  unfold withBonus
  split
  · exact Micro.saturateI64_mono (add_le_add_left hp _)
  · exact hp

theorem estimate_mono {depth depth' : Int} {level level' : StalenessLevel} {hours hours' : Int}
    (hdepth : depth' ≤ depth) (hlevel : stalenessSteps level' ≤ stalenessSteps level)
    (hhours : hours' = hours ∨ (0 ≤ hours' ∧ hours' ≤ hours)) :
    est.estimate depth level hours ≤ est.estimate depth' level' hours' := by
  rw [estimate_eq, estimate_eq]
  refine MicroProb.clampProb_mono _ _ (MicroProb.fromMicro_mono ?_)
  have hp : saturateI64 (est.afterDepth depth - stalenessSteps level * est.stalenessPenaltyPerLevel)
      ≤ saturateI64 (est.afterDepth depth' -
        stalenessSteps level' * est.stalenessPenaltyPerLevel) :=
    Micro.saturateI64_mono (sub_le_sub (afterDepth_anti h hdepth)
      (mul_le_mul_of_nonneg_right hlevel h.staleness))
  refine le_trans ?_ (withBonus_mono hours' hp)
  rcases hhours with rfl | ⟨h0, hle⟩
  · exact le_rfl
  · exact withBonus_anti h h0 hle (max_le (by decide) (min_le_left _ _))

omit h in
theorem estimate_nonneg (depth : MicroPct) (level : StalenessLevel) (hours : Int) :
    0 ≤ est.estimate depth level hours := by
  rw [estimate_eq, MicroProb.clampProb, MicroProb.fromMicro_eq]
  exact le_max_left _ _

end FillProbabilityEstimator

/-! ## Urgency and freshness -/

theorem smoothstep_mono {s t u : Int} (hs : 0 ≤ s) (hst : s ≤ t) (ht : t ≤ u) :
    s * s * (3 * u - 2 * s) ≤ t * t * (3 * u - 2 * t) := by
  have hu : 0 ≤ u := (hs.trans hst).trans ht
  have hslope : 0 ≤ 3 * u * (t + s) - 2 * (t * t + t * s + s * s) := by
    nlinarith [mul_nonneg (hs.trans hst) (sub_nonneg.mpr ht),
      mul_nonneg hs (sub_nonneg.mpr (hst.trans ht)), mul_nonneg hs (sub_nonneg.mpr ht),
      mul_nonneg (hs.trans hst) (sub_nonneg.mpr (hst.trans ht))]
  have hgap := mul_nonneg (sub_nonneg.mpr hst) hslope
  linarith

theorem MicroProb.fromFactorMicro_eq (v : Int) : fromFactorMicro v = max 0 v := by
  unfold fromFactorMicro
  split
  · rename_i hneg
    exact (max_eq_left hneg.le).symm
  · rename_i hnonneg
    exact (max_eq_right (not_lt.mp hnonneg)).symm

theorem urgencyFactor_anti {hours hours' : Int} (window : Nat) (h : hours' ≤ hours) :
    urgencyFactor hours window ≤ urgencyFactor hours' window := by
  unfold urgencyFactor
  split
  · exact le_rfl
  rename_i hwindow
  have hpos : (0 : Int) < window := by exact_mod_cast Nat.pos_of_ne_zero hwindow
  have hrem : min (max hours' 0) (window : Int) ≤ min (max hours 0) window :=
    min_le_min_right _ (max_le_max_right _ h)
  have hprogress : max 0 (min MICRO_SCALE
      (((window - min (max hours 0) (window : Int)) * MICRO_SCALE).tdiv window)) ≤
      max 0 (min MICRO_SCALE
        (((window - min (max hours' 0) (window : Int)) * MICRO_SCALE).tdiv window)) := by
    refine max_le_max_left _ (min_le_min_left _ (Int.tdiv_le_tdiv hpos ?_))
    exact mul_le_mul_of_nonneg_right (sub_le_sub_left hrem _) (by decide)
  have hone : max 0 (min MICRO_SCALE
      (((window - min (max hours' 0) (window : Int)) * MICRO_SCALE).tdiv window)) ≤ MICRO_SCALE :=
    max_le (by decide) (min_le_left _ _)
  simp only [MicroProb.fromFactorMicro_eq]
  refine max_le_max_left _ (add_le_add_right (mul_le_mul_of_nonneg_left ?_ (by decide)) _)
  exact Int.tdiv_le_tdiv (by decide) (Int.tdiv_le_tdiv (by decide)
    (smoothstep_mono (le_max_left _ _) hprogress hone))

theorem urgencyFactor_nonneg (hours : Int) (window : Nat) : 0 ≤ urgencyFactor hours window := by
  unfold urgencyFactor
  split
  · decide
  · simp only [MicroProb.fromFactorMicro_eq]
    exact le_max_left _ _

namespace StalenessLevel

open FillProbabilityEstimator (stalenessSteps)

theorem confidenceDiscount_nonneg (level : StalenessLevel) : 0 ≤ level.confidenceDiscount := by
  cases level <;> decide

theorem confidenceDiscount_anti {level level' : StalenessLevel}
    (h : stalenessSteps level' ≤ stalenessSteps level) :
    level.confidenceDiscount ≤ level'.confidenceDiscount := by
  cases level <;> cases level' <;> first | decide | exact absurd h (by decide)

end StalenessLevel

/-! ## The score -/

namespace ScorerParams

open FillProbabilityEstimator (stalenessSteps)

/-- What the scorer reads of the second opportunity is nowhere worse than of the first. -/
structure NoWorse (now : DateTime) (opp opp' : Opportunity) : Prop where
  category : opp'.category = opp.category
  profit : (Micro.tryFromDecimal opp.expectedNetProfit).getD 0 ≤
    (Micro.tryFromDecimal opp'.expectedNetProfit).getD 0
  depth : (MicroPct.tryFromPctDecimal opp'.depthUsedPct).getD 0 ≤
    (MicroPct.tryFromPctDecimal opp.depthUsedPct).getD 0
  staleness : stalenessSteps opp'.staleness ≤ stalenessSteps opp.staleness
  hours : hoursToSettlement opp' now = hoursToSettlement opp now ∨
    (0 ≤ hoursToSettlement opp' now ∧ hoursToSettlement opp' now ≤ hoursToSettlement opp now)

variable {params : ScorerParams} {opp opp' : Opportunity} {now : DateTime}
  {fill fill' : Option MicroProb}

theorem NoWorse.refl (now : DateTime) (opp : Opportunity) : NoWorse now opp opp :=
  ⟨rfl, le_rfl, le_rfl, le_rfl, .inl rfl⟩

theorem NoWorse.estimateFill (h : NoWorse now opp opp') (hest : params.fillEstimator.Nonneg) :
    params.estimateFill opp now ≤ params.estimateFill opp' now :=
  FillProbabilityEstimator.estimate_mono hest h.depth h.staleness h.hours

theorem NoWorse.score (h : NoWorse now opp opp')
    (hweight : 0 ≤ params.categoryWeights opp.category)
    (hfill0 : 0 ≤ fill.getD (params.estimateFill opp now))
    (hfill : fill.getD (params.estimateFill opp now) ≤ fill'.getD (params.estimateFill opp' now)) :
    (params.score opp now fill).score ≤ (params.score opp' now fill').score := by
  have hp0 := Micro.getD_nonneg opp.expectedNetProfit
  have hhours : hoursToSettlement opp' now ≤ hoursToSettlement opp now :=
    h.hours.elim le_of_eq And.right
  have hurgency := urgencyFactor_anti params.settlementWindowHours (max_le_max_right 0 hhours)
  have hu0 := urgencyFactor_nonneg (max (hoursToSettlement opp now) 0) params.settlementWindowHours
  have hbase := Micro.saturate_mul_mono hp0 h.profit hfill0 hfill
  have hbase0 := Micro.saturate_mul_nonneg hp0 hfill0
  have hurged := Micro.saturate_mul_mono hbase0 hbase hu0 hurgency
  have hurged0 := Micro.saturate_mul_nonneg hbase0 hu0
  have hweighted := Micro.saturate_mul_mono hurged0 hurged hweight (le_refl _)
  have hweighted0 := Micro.saturate_mul_nonneg hurged0 hweight
  have hfinal := Micro.saturate_mul_mono hweighted0 hweighted
    (opp.staleness.confidenceDiscount_nonneg) (StalenessLevel.confidenceDiscount_anti h.staleness)
  unfold ScorerParams.score
  simp only [h.category]
  exact hfinal

theorem fromConfig_weight_nonneg (config : ScorerConfig) (fillConfig : FillProbabilityConfig)
    (window : Nat) (category : MarketCategory) :
    0 ≤ (fromConfig config fillConfig window).categoryWeights category := by
  unfold fromConfig
  dsimp only
  cases (config.categoryWeights category).bind Micro.tryFromDecimal with
  | none => exact (by decide : (0 : Int) ≤ MICRO_SCALE)
  | some weight =>
    rw [Option.elim_some, MicroProb.fromFactorMicro_eq]
    exact le_max_left _ _

theorem NoWorse.score_fromConfig (h : NoWorse now opp opp') (config : ScorerConfig)
    (fillConfig : FillProbabilityConfig) (window : Nat) (hfill : ∀ p ∈ fill, 0 ≤ p) :
    ((fromConfig config fillConfig window).score opp now fill).score ≤
      ((fromConfig config fillConfig window).score opp' now fill).score := by
  refine h.score (fromConfig_weight_nonneg _ _ _ _) ?_ ?_
  · cases fill with
    | none => exact FillProbabilityEstimator.estimate_nonneg _ _ _
    | some p => exact hfill p rfl
  · cases fill with
    | none => exact h.estimateFill (FillProbabilityEstimator.new_nonneg fillConfig)
    | some p => exact le_rfl

/-- **The score never decreases** with more profit, more probability of a fill, a fresher book,
less of the depth used or fewer hours to the settlement, as long as profit and depth fit. -/
theorem score_order (config : ScorerConfig) (fillConfig : FillProbabilityConfig) (window : Nat)
    (opp : Opportunity) (now : DateTime) (fill : Option MicroProb) (hfill : ∀ p ∈ fill, 0 ≤ p) :
    let score := fun opp fill => ((fromConfig config fillConfig window).score opp now fill).score
    (∀ profit, opp.expectedNetProfit ≤ profit → Micro.Fits profit →
      score opp fill ≤ score { opp with expectedNetProfit := profit } fill) ∧
    (∀ p p' : MicroProb, 0 ≤ p → p ≤ p' → score opp (some p) ≤ score opp (some p')) ∧
    (∀ level, stalenessSteps level ≤ stalenessSteps opp.staleness →
      score opp fill ≤ score { opp with staleness := level } fill) ∧
    (∀ depth ≤ opp.depthUsedPct, Micro.Fits (opp.depthUsedPct / 100) →
      score opp fill ≤ score { opp with depthUsedPct := depth } fill) ∧
    (∀ deadline deadline', opp.info.settlementDeadline = some deadline → now ≤ deadline' →
      Duration.numHours (deadline' - now) ≤ Duration.numHours (deadline - now) →
      score opp fill ≤
        score { opp with info := { opp.info with settlementDeadline := some deadline' } } fill) := by
  intro score
  refine ⟨fun profit hle hfits => ?_, fun p p' h0 hle => ?_, fun level hle => ?_,
    fun depth hle hfits => ?_, fun deadline deadline' hdeadline hfuture hle => ?_⟩
  · have h : NoWorse now opp { opp with expectedNetProfit := profit } :=
      { NoWorse.refl now opp with profit := Micro.getD_mono hle hfits }
    exact h.score_fromConfig config fillConfig window hfill
  · exact (NoWorse.refl now opp).score (fromConfig_weight_nonneg _ _ _ _) h0 hle
  · have h : NoWorse now opp { opp with staleness := level } :=
      { NoWorse.refl now opp with staleness := hle }
    exact h.score_fromConfig config fillConfig window hfill
  · have h : NoWorse now opp { opp with depthUsedPct := depth } :=
      { NoWorse.refl now opp with
        depth := Micro.getD_mono (div_le_div_of_nonneg_right hle (by norm_num)) hfits }
    exact h.score_fromConfig config fillConfig window hfill
  · have hpast : 0 ≤ Duration.numHours (deadline' - now) :=
      Int.tdiv_nonneg (Int.tdiv_nonneg (sub_nonneg.mpr hfuture) (by decide)) (by decide)
    have h : NoWorse now opp
        { opp with info := { opp.info with settlementDeadline := some deadline' } } :=
      { NoWorse.refl now opp with
        hours := .inr ⟨hpast, by rw [hoursToSettlement, hoursToSettlement, hdeadline]; exact hle⟩ }
    exact h.score_fromConfig config fillConfig window hfill

end ScorerParams

theorem sampleDetectionConfig_valid : sampleDetectionConfig.Valid := by
  constructor
  case categoryWeights => exact fun _ _ h => by cases h
  all_goals decide +kernel

/-- The sample opportunity with another profit and another share of the depth. -/
def sampleScore (profit depthUsedPct : Decimal) : Option MicroScore :=
  (sampleEmission (Duration.hours 12)).toOption.map fun scored =>
    (samplePipeline.scorer.score
      { scored.opportunity with expectedNetProfit := profit, depthUsedPct }
      (Duration.seconds 600) none).score

/-- A profit of ten trillion dollars is read as zero and scores less than one dollar, and so is
a share of the depth that does not fit. -/
theorem sampleScore_overflow :
    sampleDetectionConfig.Valid ∧
      samplePipeline.scorer = .fromConfig sampleDetectionConfig.scorer
        sampleDetectionConfig.fillProbability
        sampleDetectionConfig.endgame.settlementWindowHours ∧
      sampleScore (10 ^ 13) 40 = some 0 ∧ (sampleScore 1 40).any (0 < ·) ∧
      (sampleScore 1 90).any (fun low => (sampleScore 1 (10 ^ 16)).any (low < ·)) :=
  ⟨sampleDetectionConfig_valid, rfl, by decide +kernel, by decide +kernel, by decide +kernel⟩

theorem ScorerParams.score_order_two_dollars :
    ∃ opp : Opportunity, ∃ now, opp.expectedNetProfit = 1 ∧
      (samplePipeline.scorer.score opp now (some 500000)).score ≤
        (samplePipeline.scorer.score { opp with expectedNetProfit := 2 } now
          (some 500000)).score := by
  have hemits : (sampleEmission (Duration.hours 12)).toOption.isSome = true := by decide +kernel
  obtain ⟨scored, -⟩ := Option.isSome_iff_exists.mp hemits
  refine ⟨{ scored.opportunity with expectedNetProfit := 1 }, Duration.seconds 600, rfl, ?_⟩
  have hfill : ∀ p ∈ some (500000 : MicroProb), 0 ≤ p := by
    intro p hp
    obtain rfl := Option.mem_some_iff.mp hp
    decide
  exact (score_order _ _ _ _ _ _ hfill).1 2 (by norm_num) (by decide +kernel)

end OxideArb
