import OxideArb.Detection.EmissionTiming

/-!
# The configured thresholds

Least expected profit, largest share of the depth and least score gate an emission. The gates
compare fixed-point values, so a threshold is read with what its truncation drops.
-/

namespace OxideArb

open ControlFactor (ControlFactorSnapshot)

/-! ## Valid configurations -/

/-- What `validate_detection` accepts, on the fields the pipeline reads. -/
structure DetectionConfig.Valid (config : DetectionConfig) : Prop where
  minProfitThreshold : 0 < config.minProfitThresholdUsd
  highThreshold : 1 / 2 < config.endgame.highThreshold ∧ config.endgame.highThreshold < 1
  minProfitPerShare : 0 < config.endgame.minProfitPerShare ∧ config.endgame.minProfitPerShare < 1
  maxInvestment : 0 < config.endgame.maxInvestmentUsd
  window : config.endgame.settlementWindowHours ≠ 0
  minConvergence : config.endgame.minConvergenceDurationSecs ≠ 0
  minScore : 0 ≤ config.scorer.minScore ∧ config.scorer.minScore ≤ 1
  maxDepthUsage : 0 < config.scorer.maxDepthUsagePct ∧ config.scorer.maxDepthUsagePct ≤ 100
  categoryWeights : ∀ category, ∀ weight ∈ config.scorer.categoryWeights category,
    0 ≤ weight ∧ weight ≤ 10
  baseFill : 0 < config.fillProbability.baseFillProb ∧ config.fillProbability.baseFillProb ≤ 1
  depthPenaltyThreshold : 0 < config.fillProbability.depthPenaltyThresholdPct ∧
    config.fillProbability.depthPenaltyThresholdPct ≤ 100
  depthPenalty : 0 ≤ config.fillProbability.depthPenaltyPerPct ∧
    config.fillProbability.depthPenaltyPerPct ≤ 1
  stalenessPenalty : 0 ≤ config.fillProbability.stalenessPenaltyPerLevel ∧
    config.fillProbability.stalenessPenaltyPerLevel ≤ 1
  resolutionBonus : 0 ≤ config.fillProbability.resolutionProximityBonus ∧
    config.fillProbability.resolutionProximityBonus ≤ 1
  baseCooldown : config.emissionCooldown.baseCooldownSecs ≠ 0
  maxMultiplier : 1 ≤ config.emissionCooldown.maxMultiplier
  fusedOrder : config.calibration.fusedPFloor < config.calibration.fusedPCeiling
  fusedRange : 0 ≤ config.calibration.fusedPFloor ∧ config.calibration.fusedPCeiling ≤ 1
  samples : config.calibration.minSampleSize ≠ 0 ∧ config.calibration.fusionPriorStrength ≠ 0
  bootstrap : 0 < config.calibration.bootstrapAlpha ∧ 0 < config.calibration.bootstrapBeta

/-! ## Reading a threshold -/

namespace Micro

theorem toDecimal_le_iff {v w : Int} : toDecimal v ≤ toDecimal w ↔ v ≤ w := by
  have hscale : (0 : ℚ) < MICRO_SCALE := by norm_num [MICRO_SCALE]
  unfold toDecimal
  rw [div_le_div_iff_of_pos_right hscale, Int.cast_le]

variable {d : Decimal}

theorem saturate_mono {v w : Int} (h : v ≤ w) : saturate v ≤ saturate w := by
  unfold saturate
  by_cases hw : w ≤ i64Max
  · rw [if_pos hw, if_pos (h.trans hw)]
    exact h
  · rw [if_neg hw]
    split
    · assumption
    · exact le_rfl

theorem getD_le_i64Max (d : Decimal) : (tryFromDecimal d).getD 0 ≤ i64Max := by
  cases h : tryFromDecimal d with
  | none => decide
  | some v => exact tryFromDecimal_le h

theorem getD_nonneg (d : Decimal) : 0 ≤ (tryFromDecimal d).getD 0 := by
  cases h : tryFromDecimal d with
  | none => decide
  | some v => exact tryFromDecimal_nonneg h

theorem getD_of_neg (hd : d < 0) : (tryFromDecimal d).getD 0 = 0 := by
  have hscaled : d * MICRO_SCALE < 0 := mul_neg_of_neg_of_pos hd (by norm_num [MICRO_SCALE])
  simp only [tryFromDecimal, hscaled, if_true, Option.getD_none]

end Micro

end OxideArb
