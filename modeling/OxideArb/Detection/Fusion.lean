import OxideArb.Detection.Detector

/-!
# Fused and real-time confidence

The blend truncates its weight and then the weighted sum, and loses less than a unit each time.
The configured bounds are truncated to micro-units before they clamp.
-/

namespace OxideArb

/-! ## Order -/

theorem Micro.toDecimal_floor_le (d : Decimal) : toDecimal ⌊d * MICRO_SCALE⌋ ≤ d := by
  unfold toDecimal
  rw [div_le_iff₀ (by norm_num [MICRO_SCALE])]
  exact Int.floor_le _

namespace MicroProb

theorem fromMicro_eq (v : Int) : fromMicro v = max 0 (min MICRO_SCALE v) := by
  have hscale : (0 : Int) ≤ MICRO_SCALE := by decide
  unfold fromMicro
  split
  · rename_i hneg
    exact (max_eq_left ((min_le_right _ _).trans hneg.le)).symm
  rename_i hnonneg
  split
  · rename_i hover
    rw [min_eq_left hover.le, max_eq_right hscale]
  · rename_i hle
    rw [min_eq_right (not_lt.mp hle), max_eq_right (not_lt.mp hnonneg)]

theorem fromMicro_mono {v w : Int} (h : v ≤ w) : fromMicro v ≤ fromMicro w := by
  rw [fromMicro_eq, fromMicro_eq]
  exact max_le_max_left _ (min_le_min_left _ h)

theorem fromMicro_of_mem {v : Int} (h0 : 0 ≤ v) (h1 : v ≤ MICRO_SCALE) : fromMicro v = v := by
  rw [fromMicro_eq, min_eq_right h1, max_eq_right h0]

theorem clampProb_mono {p q : Int} (floor ceiling : Int) (h : p ≤ q) :
    clampProb p floor ceiling ≤ clampProb q floor ceiling :=
  fromMicro_mono (max_le_max_left _ (min_le_min_left _ h))

theorem clampProb_mem (p : Int) {floor ceiling : Int} (h0 : 0 ≤ floor) (h : floor ≤ ceiling)
    (h1 : ceiling ≤ MICRO_SCALE) :
    floor ≤ clampProb p floor ceiling ∧ clampProb p floor ceiling ≤ ceiling := by
  have hlow : floor ≤ max floor (min ceiling p) := le_max_left _ _
  have hhigh : max floor (min ceiling p) ≤ ceiling := max_le h (min_le_left _ _)
  rw [clampProb, fromMicro_of_mem (h0.trans hlow) (hhigh.trans h1)]
  exact ⟨hlow, hhigh⟩

end MicroProb

/-! ## The blend -/

namespace MicroProb

/-- The weight of the blend, truncated. -/
def blendWeight (weightNum weightDen : Nat) : Int := weightNum * MICRO_SCALE / weightDen

theorem blendWeight_bounds {n d : Nat} (hd : d ≠ 0) :
    (blendWeight n d : ℚ) ≤ n / d * MICRO_SCALE ∧
      n / d * MICRO_SCALE < (blendWeight n d : ℚ) + 1 := by
  have hpos : (0 : Int) < d := by exact_mod_cast Nat.pos_of_ne_zero hd
  have hposq : (0 : ℚ) < d := by exact_mod_cast hpos
  have hlow : blendWeight n d * d ≤ n * MICRO_SCALE := Int.ediv_mul_le _ hpos.ne'
  have hhigh : n * MICRO_SCALE < (blendWeight n d + 1) * d := Int.lt_ediv_add_one_mul_self _ hpos
  rw [div_mul_eq_mul_div, le_div_iff₀ hposq, div_lt_iff₀ hposq]
  exact_mod_cast And.intro hlow hhigh

theorem blendWeight_mem {n d : Nat} (hd : d ≠ 0) (hn : n ≤ d) :
    0 ≤ blendWeight n d ∧ blendWeight n d ≤ MICRO_SCALE := by
  have hpos : (0 : Int) < d := by exact_mod_cast Nat.pos_of_ne_zero hd
  have hle : (n : Int) ≤ d := by exact_mod_cast hn
  refine ⟨Int.ediv_nonneg (mul_nonneg (Int.natCast_nonneg n) (by decide)) hpos.le, ?_⟩
  refine Int.ediv_le_of_le_mul hpos ?_
  rw [mul_comm]
  exact mul_le_mul_of_nonneg_left hle (by decide)

variable {p q : Int} {n d : Nat}

theorem blend_sum_mem (hp : 0 ≤ p ∧ p ≤ MICRO_SCALE) (hq : 0 ≤ q ∧ q ≤ MICRO_SCALE) {w : Int}
    (hw : 0 ≤ w ∧ w ≤ MICRO_SCALE) :
    0 ≤ p * (MICRO_SCALE - w) + q * w ∧
      p * (MICRO_SCALE - w) + q * w ≤ MICRO_SCALE * MICRO_SCALE := by
  have hrest : 0 ≤ MICRO_SCALE - w := sub_nonneg.mpr hw.2
  refine ⟨add_nonneg (mul_nonneg hp.1 hrest) (mul_nonneg hq.1 hw.1), ?_⟩
  calc p * (MICRO_SCALE - w) + q * w
      ≤ MICRO_SCALE * (MICRO_SCALE - w) + MICRO_SCALE * w :=
        add_le_add (mul_le_mul_of_nonneg_right hp.2 hrest) (mul_le_mul_of_nonneg_right hq.2 hw.1)
    _ = MICRO_SCALE * MICRO_SCALE := by ring

/-- Of two probabilities the blend neither saturates nor clamps. -/
theorem blend_eq (hd : d ≠ 0) (hn : n ≤ d) (hp : 0 ≤ p ∧ p ≤ MICRO_SCALE)
    (hq : 0 ≤ q ∧ q ≤ MICRO_SCALE) :
    blend p q n d =
      (p * (MICRO_SCALE - blendWeight n d) + q * blendWeight n d) / MICRO_SCALE := by
  obtain ⟨hlow, hhigh⟩ := blend_sum_mem hp hq (blendWeight_mem hd hn)
  have hdiv : 0 ≤ (p * (MICRO_SCALE - blendWeight n d) + q * blendWeight n d) / MICRO_SCALE :=
    Int.ediv_nonneg hlow (by decide)
  have hone : (p * (MICRO_SCALE - blendWeight n d) + q * blendWeight n d) / MICRO_SCALE ≤
      MICRO_SCALE := Int.ediv_le_of_le_mul (by decide) hhigh
  have hweight : ((n : Int) * MICRO_SCALE).tdiv d = blendWeight n d :=
    Int.tdiv_eq_ediv_of_nonneg (mul_nonneg (Int.natCast_nonneg n) (by decide))
  unfold blend
  rw [if_neg hd]
  simp only [hweight]
  rw [Int.tdiv_eq_ediv_of_nonneg hlow, Micro.saturate, if_pos (hone.trans (by decide)),
    fromMicro_of_mem hdiv hone]

theorem blend_mono {p' q' : Int} (hd : d ≠ 0) (hn : n ≤ d) (hp0 : 0 ≤ p) (hp : p ≤ p')
    (hp1 : p' ≤ MICRO_SCALE) (hq0 : 0 ≤ q) (hq : q ≤ q') (hq1 : q' ≤ MICRO_SCALE) :
    blend p q n d ≤ blend p' q' n d := by
  obtain ⟨hw0, hw1⟩ := blendWeight_mem hd hn
  rw [blend_eq hd hn ⟨hp0, hp.trans hp1⟩ ⟨hq0, hq.trans hq1⟩,
    blend_eq hd hn ⟨hp0.trans hp, hp1⟩ ⟨hq0.trans hq, hq1⟩]
  refine Int.ediv_le_ediv (by decide) ?_
  exact add_le_add (mul_le_mul_of_nonneg_right hp (sub_nonneg.mpr hw1))
    (mul_le_mul_of_nonneg_right hq hw0)

/-- One unit for the weight, one for the sum. -/
theorem blend_near (hd : d ≠ 0) (hn : n ≤ d) (hp : 0 ≤ p ∧ p ≤ MICRO_SCALE)
    (hq : 0 ≤ q ∧ q ≤ MICRO_SCALE) :
    |(blend p q n d : ℚ) - ((n : ℚ) / d * q + (1 - (n : ℚ) / d) * p)| ≤ 2 := by
  obtain ⟨hwlow, hwhigh⟩ := @blendWeight_bounds n d hd
  rw [blend_eq hd hn hp hq]
  generalize blendWeight n d = w at hwlow hwhigh ⊢
  generalize (n : ℚ) / d = weight at hwlow hwhigh ⊢
  set sum := p * (MICRO_SCALE - w) + q * w with hsum
  have hlow : sum / MICRO_SCALE * MICRO_SCALE ≤ sum := Int.ediv_mul_le _ (by decide)
  have hhigh : sum < (sum / MICRO_SCALE + 1) * MICRO_SCALE :=
    Int.lt_ediv_add_one_mul_self _ (by decide)
  -- the weight is off by at most one unit, which moves the sum by at most the scale
  have hshift : |(w - weight * MICRO_SCALE) * ((q : ℚ) - p)| ≤ 1 * MICRO_SCALE := by
    rw [abs_mul]
    refine mul_le_mul ?_ ?_ (abs_nonneg _) zero_le_one
    · rw [abs_le]
      constructor <;> linarith
    · have hdiff : |q - p| ≤ MICRO_SCALE := by
        rw [abs_le]
        constructor <;> linarith [hp.1, hp.2, hq.1, hq.2]
      exact_mod_cast hdiff
  have hmoved : (sum : ℚ) - (weight * q + (1 - weight) * p) * MICRO_SCALE =
      (w - weight * MICRO_SCALE) * ((q : ℚ) - p) := by
    rw [hsum]
    push_cast
    ring
  rw [← hmoved, abs_le] at hshift
  generalize sum / MICRO_SCALE = v at hlow hhigh ⊢
  have hlowq : (v : ℚ) * MICRO_SCALE ≤ sum := by exact_mod_cast hlow
  have hhighq : (sum : ℚ) < (v + 1) * MICRO_SCALE := by exact_mod_cast hhigh
  norm_num only [MICRO_SCALE] at hshift hlowq hhighq
  rw [abs_le]
  constructor <;> linarith

end MicroProb

/-! ## Real-time confidence -/

theorem durationConfidenceFactor_mono {secs secs' : Nat} (h : secs ≤ secs') :
    durationConfidenceFactor secs ≤ durationConfidenceFactor secs' := by
  refine MicroProb.fromMicro_mono ?_
  unfold MICRO_SCALE
  split_ifs <;> omega

theorem computeRealtimeConfidence_mono {price price' : Int} {secs secs' : Nat}
    (highThreshold : MicroPrice) (hprice : price ≤ price') (hsecs : secs ≤ secs') :
    computeRealtimeConfidence price secs highThreshold ≤
      computeRealtimeConfidence price' secs' highThreshold := by
  unfold computeRealtimeConfidence
  refine MicroProb.clampProb_mono _ _ (MicroProb.fromMicro_mono ?_)
  refine Int.tdiv_le_tdiv (by decide) (add_le_add ?_ ?_)
  · refine mul_le_mul_of_nonneg_right ?_ (by decide)
    split
    · exact le_rfl
    · rename_i hrange
      refine MicroProb.fromMicro_mono (add_le_add_right ?_ _)
      refine Int.tdiv_le_tdiv (not_le.mp hrange) (mul_le_mul_of_nonneg_right ?_ (by decide))
      exact sub_le_sub_right hprice _
  · exact mul_le_mul_of_nonneg_right (durationConfidenceFactor_mono hsecs) (by decide)

/-! ## Fusion -/

namespace ConfidenceFusion

variable {config : CalibrationConfig}

/-- The bounds of the configuration, cut to micro-units. -/
theorem new_bounds (h0 : 0 ≤ config.fusedPFloor) (h : config.fusedPFloor ≤ config.fusedPCeiling)
    (h1 : config.fusedPCeiling ≤ 1) :
    (new config).pFloor = ⌊config.fusedPFloor * MICRO_SCALE⌋ ∧
      (new config).pCeiling = ⌊config.fusedPCeiling * MICRO_SCALE⌋ := by
  have hfits : ∀ {d : Decimal}, d ≤ 1 → ⌊d * MICRO_SCALE⌋ ≤ i64Max := fun hd =>
    (Micro.floor_le_scale hd).trans (by decide)
  unfold new
  rw [Micro.tryFromDecimal_of_fits h0 (hfits (h.trans h1)),
    Micro.tryFromDecimal_of_fits (h0.trans h) (hfits h1)]
  exact ⟨rfl, rfl⟩

theorem fuse_eq_blend (p q : MicroProb) {n : Nat} (hpos : 0 < n + config.fusionPriorStrength)
    (hfits : n + config.fusionPriorStrength < 2 ^ 32) :
    (new config).fuse q p n = (p.blend q n (n + config.fusionPriorStrength)).clampProb
      (new config).pFloor (new config).pCeiling := by
  have hdenom : satAddU32 n (new config).priorStrength = n + config.fusionPriorStrength :=
    min_eq_left (Nat.le_of_lt_succ hfits)
  unfold fuse
  simp only [hdenom, if_neg hpos.ne']

/-- **The fused probability** lies between the floor, cut to six decimals, and the ceiling, is two
micro-units off the weighted mean at most before it is clamped, and is monotone, as is the
real-time confidence. -/
theorem fuse_near_mean (h0 : 0 ≤ config.fusedPFloor)
    (h : config.fusedPFloor ≤ config.fusedPCeiling) (h1 : config.fusedPCeiling ≤ 1) {n : Nat}
    (hpos : 0 < n + config.fusionPriorStrength)
    (hfits : n + config.fusionPriorStrength < 2 ^ 32) :
    (∀ pCal pRt : MicroProb, 0 ≤ pCal ∧ pCal ≤ MICRO_SCALE → 0 ≤ pRt ∧ pRt ≤ MICRO_SCALE →
      let fused := (new config).fuse pCal pRt n
      let blended := pRt.blend pCal n (n + config.fusionPriorStrength)
      (Micro.toDecimal ⌊config.fusedPFloor * MICRO_SCALE⌋ ≤ Micro.toDecimal fused ∧
        Micro.toDecimal fused ≤ config.fusedPCeiling) ∧
      fused = blended.clampProb (new config).pFloor (new config).pCeiling ∧
      |(blended : ℚ) - ((n : ℚ) / (n + config.fusionPriorStrength) * pCal +
        (config.fusionPriorStrength : ℚ) / (n + config.fusionPriorStrength) * pRt)| ≤ 2) ∧
    (∀ pCal pCal' pRt pRt' : MicroProb, 0 ≤ pCal → pCal ≤ pCal' → pCal' ≤ MICRO_SCALE →
      0 ≤ pRt → pRt ≤ pRt' → pRt' ≤ MICRO_SCALE →
      (new config).fuse pCal pRt n ≤ (new config).fuse pCal' pRt' n) ∧
    (∀ highThreshold price price' : MicroPrice, ∀ secs secs' : Nat,
      0 ≤ highThreshold ∧ highThreshold ≤ MICRO_SCALE → 0 ≤ price → price ≤ price' →
      price' ≤ MICRO_SCALE → secs ≤ secs' →
      computeRealtimeConfidence price secs highThreshold ≤
        computeRealtimeConfidence price' secs' highThreshold) := by
  obtain ⟨hfloor, hceiling⟩ := new_bounds h0 h h1
  have hmicro : ⌊config.fusedPFloor * MICRO_SCALE⌋ ≤ ⌊config.fusedPCeiling * MICRO_SCALE⌋ := by
    refine Int.floor_mono (mul_le_mul_of_nonneg_right h ?_)
    norm_num [MICRO_SCALE]
  have hfloor0 : 0 ≤ ⌊config.fusedPFloor * MICRO_SCALE⌋ :=
    Int.floor_nonneg.mpr (mul_nonneg h0 (by norm_num [MICRO_SCALE]))
  refine ⟨fun pCal pRt hcal hrt => ?_, fun pCal pCal' pRt pRt' c0 c c1 r0 r r1 => ?_,
    fun threshold _ _ _ _ _ _ hprice _ hsecs =>
      computeRealtimeConfidence_mono threshold hprice hsecs⟩
  · have hmean := @MicroProb.blend_near pRt pCal n _ hpos.ne' (Nat.le_add_right n _) hrt hcal
    have hmem := MicroProb.clampProb_mem (pRt.blend pCal n (n + config.fusionPriorStrength))
      hfloor0 hmicro (Micro.floor_le_scale h1)
    have hrest : (1 : ℚ) - n / (n + config.fusionPriorStrength : Nat) =
        config.fusionPriorStrength / (n + config.fusionPriorStrength) := by
      have hne : (n : ℚ) + config.fusionPriorStrength ≠ 0 := by exact_mod_cast hpos.ne'
      push_cast
      field_simp
      ring
    rw [hrest, Nat.cast_add] at hmean
    simp only [fuse_eq_blend pRt pCal hpos hfits, hfloor, hceiling]
    exact ⟨⟨Micro.toDecimal_mono hmem.1,
      (Micro.toDecimal_mono hmem.2).trans (Micro.toDecimal_floor_le _)⟩, trivial, hmean⟩
  · rw [fuse_eq_blend pRt pCal hpos hfits, fuse_eq_blend pRt' pCal' hpos hfits]
    exact MicroProb.clampProb_mono _ _ (MicroProb.blend_mono hpos.ne' (Nat.le_add_right n _) r0 r r1
      c0 c c1)

theorem fuse_near_mean_default :
    Micro.toDecimal ((new CalibrationConfig.default).fuse 900000 850000 10) ≤
      CalibrationConfig.default.fusedPCeiling :=
  ((@fuse_near_mean CalibrationConfig.default (by decide +kernel) (by decide +kernel)
    (by decide +kernel) 10 (by decide) (by decide)).1 900000 850000 (by decide) (by decide)).1.2

/-- A floor of 0.8000005 lets 0.8 through. -/
theorem fuse_below_floor :
    let config := { CalibrationConfig.default with fusedPFloor := 8000005 / 10000000 }
    (0 ≤ config.fusedPFloor ∧ config.fusedPFloor < config.fusedPCeiling ∧
        config.fusedPCeiling ≤ 1) ∧
      Micro.toDecimal ((new config).fuse 0 0 10) < config.fusedPFloor := by
  decide +kernel

end ConfidenceFusion

end OxideArb
