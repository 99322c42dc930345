import Mathlib.Tactic.Linarith
import OxideArb.Types.Micro
import OxideArb.Types.Rounding

/-!
# The fee formula

A fee is `shares × rate × (price × (1 − price))^exponent`, computed in micro-units and rounded to
five decimals. From 95 cents on, the middle factor is read from a table of whole cents.
-/

namespace OxideArb

namespace FeeFormula

/-! ## The production path -/

/-- `trunc().to_i64().unwrap_or(0)`. -/
def truncI64 (d : Decimal) : Int :=
  let truncated := if 0 ≤ d then ⌊d⌋ else ⌈d⌉
  if i64Min ≤ truncated ∧ truncated ≤ i64Max then truncated else 0

/-- The row of the table for an exponent. -/
def expIndex (exponent : Decimal) : Option (Fin 2) :=
  if exponent = 1 then some 0 else if exponent = 3 / 2 then some 1 else none

section

variable (powd : Decimal → Decimal → Decimal)

/-- `ENDGAME_VOL_MICRO_LUT`, at the cents 95 to 99. -/
def endgameVolMicroLut (row : Fin 2) (cent : Int) : Int :=
  let p : Decimal := cent / 100
  let pc := p * (1 - p)
  if row = 0 then truncI64 (pc * MICRO_SCALE) else truncI64 (powd pc (3 / 2) * MICRO_SCALE)

def computedVolMicro (price : MicroPrice) (exponent : Decimal) : Int :=
  let p := Micro.toDecimal price
  truncI64 (powd (p * (1 - p)) exponent * MICRO_SCALE)

def volatilityFactorMicro (price : MicroPrice) (exponent : Decimal) : Int :=
  match expIndex exponent with
  | none => computedVolMicro powd price exponent
  | some row =>
    let cents := ⌊Micro.toDecimal price * 100⌋
    if 95 ≤ cents ∧ cents ≤ 99 then endgameVolMicroLut powd row cents
    else computedVolMicro powd price exponent

def calculateFeeMicro (shares : MicroShares) (price : MicroPrice) (feeRateMicro : Int)
    (exponent : Decimal) : MicroUsd :=
  if price ≤ 0 ∨ MICRO_SCALE ≤ price ∨ shares ≤ 0 then 0
  else
    let vol := volatilityFactorMicro powd price exponent
    let raw := ((shares * feeRateMicro * vol).tdiv MICRO_SCALE).tdiv MICRO_SCALE
    if i64Min ≤ raw ∧ raw ≤ i64Max then raw else i64Max

/-- The decimals' power function is the caller's. -/
def calculateFee (shares : Shares) (price : Price) (feeRate exponent : Decimal) : Usd :=
  if price = 0 ∨ price = 1 then 0
  else
    let fee := calculateFeeMicro powd ((Micro.tryFromDecimal shares).getD 0)
      ((Micro.tryFromDecimal price).getD 0) (truncI64 (feeRate * MICRO_SCALE)) exponent
    let rounded := roundDp (Micro.toDecimal fee) 5
    if rounded < 1 / 100000 then 0 else rounded

end

/-! ## The factor read at a price -/

/-- The price the factor is taken at, for a price of `k` hundredths of a cent. -/
def factorPrice (k : Nat) : Decimal :=
  if 9500 ≤ k then (k / 100 : Nat) / 100 else k / 10000

theorem truncI64_near {d : Decimal} (h0 : 0 ≤ d) (h1 : d ≤ i64Max) :
    (truncI64 d : ℚ) ≤ d ∧ d < truncI64 d + 1 ∧ 0 ≤ truncI64 d := by
  have hfloor : 0 ≤ ⌊d⌋ := Int.floor_nonneg.mpr h0
  have hmax : ⌊d⌋ ≤ i64Max := Int.cast_le.mp ((Int.floor_le d).trans h1)
  have htrunc : truncI64 d = ⌊d⌋ := by
    unfold truncI64
    rw [if_pos h0, if_pos ⟨(by decide : i64Min ≤ 0).trans hfloor, hmax⟩]
  rw [htrunc]
  exact ⟨Int.floor_le d, Int.lt_floor_add_one d, hfloor⟩

theorem roundDp_five_near (q : Decimal) : |roundDp q 5 - q| ≤ 1 / 200000 := by
  have hle := roundHalfEven_le (q * 10 ^ 5)
  have hge := le_roundHalfEven (q * 10 ^ 5)
  unfold roundDp
  rw [abs_le, le_sub_iff_add_le, sub_le_iff_le_add, le_div_iff₀ (by norm_num),
    div_le_iff₀ (by norm_num)]
  exact ⟨by linarith, by linarith⟩

/-- A rounded amount below the least one is zero already. -/
theorem roundDp_five_cutoff {q : Decimal} (h0 : 0 ≤ q) :
    (if roundDp q 5 < 1 / 100000 then 0 else roundDp q 5) = roundDp q 5 := by
  split
  · rename_i hsmall
    have hnonneg := roundDp_nonneg 5 h0
    unfold roundDp at hsmall hnonneg ⊢
    rw [div_lt_iff₀ (by norm_num)] at hsmall
    rw [le_div_iff₀ (by norm_num), zero_mul] at hnonneg
    have hlt : roundHalfEven (q * 10 ^ 5) < 1 := by
      have : (roundHalfEven (q * 10 ^ 5) : ℚ) < 1 := hsmall.trans_eq (by norm_num)
      exact_mod_cast this
    have hge : 0 ≤ roundHalfEven (q * 10 ^ 5) := by exact_mod_cast hnonneg
    have hzero : roundHalfEven (q * 10 ^ 5) = 0 := by omega
    rw [hzero]
    norm_num
  · rfl

section

variable {powd : Decimal → Decimal → Decimal} (hpowd : ∀ x, powd x 1 = x) {k : Nat}
include hpowd

theorem volatilityFactorMicro_eq (hk : k < 10000) :
    volatilityFactorMicro powd (100 * k) 1 =
      truncI64 (factorPrice k * (1 - factorPrice k) * MICRO_SCALE) := by
  have hprice : Micro.toDecimal (100 * k) = (k : ℚ) / 10000 := by
    unfold Micro.toDecimal MICRO_SCALE
    push_cast
    ring
  have hcents : ⌊Micro.toDecimal (100 * k) * 100⌋ = (k / 100 : Nat) := by
    rw [hprice, Int.floor_eq_iff]
    have hdiv := Nat.div_add_mod k 100
    have hmod := Nat.mod_lt k (by decide : 100 > 0)
    have hdivQ : (k : ℚ) = 100 * (k / 100 : Nat) + (k % 100 : Nat) := by exact_mod_cast hdiv.symm
    have hmodQ : ((k % 100 : Nat) : ℚ) < 100 := by exact_mod_cast hmod
    have hmod0 : (0 : ℚ) ≤ (k % 100 : Nat) := Nat.cast_nonneg _
    rw [Int.cast_natCast]
    exact ⟨by linarith, by linarith⟩
  unfold volatilityFactorMicro expIndex factorPrice
  rw [if_pos rfl]
  dsimp only
  rw [hcents]
  by_cases hlut : 9500 ≤ k
  · rw [if_pos ⟨by omega, by omega⟩, if_pos hlut]
    rfl
  · rw [if_neg fun h => hlut (by omega), if_neg hlut]
    unfold computedVolMicro
    dsimp only
    rw [hpowd, hprice]

omit hpowd in
theorem factorPrice_mem (hk : k < 10000) : 0 ≤ factorPrice k ∧ factorPrice k ≤ 1 := by
  unfold factorPrice
  split
  · have hcents : ((k / 100 : Nat) : ℚ) ≤ 100 := by exact_mod_cast (by omega : k / 100 ≤ 100)
    exact ⟨by positivity, by linarith⟩
  · have hunits : (k : ℚ) ≤ 10000 := by exact_mod_cast hk.le
    exact ⟨by positivity, by linarith⟩

/-- The factor in micro-units: truncated, and at most a quarter. -/
theorem volatilityFactorMicro_near (hk : k < 10000) :
    let q := factorPrice k
    let vol := volatilityFactorMicro powd (100 * k) 1
    (vol : ℚ) ≤ q * (1 - q) * MICRO_SCALE ∧ q * (1 - q) * MICRO_SCALE < vol + 1 ∧ 0 ≤ vol ∧
      vol ≤ 250000 := by
  intro q vol
  obtain ⟨hq0, hq1⟩ := factorPrice_mem hk
  have hnonneg : 0 ≤ q * (1 - q) * MICRO_SCALE :=
    mul_nonneg (mul_nonneg hq0 (sub_nonneg.mpr hq1)) (by norm_num [MICRO_SCALE])
  have hquarter : q * (1 - q) * MICRO_SCALE ≤ 250000 := by
    have hsquare : q * (1 - q) ≤ 1 / 4 := by nlinarith [sq_nonneg (q - 1 / 2)]
    calc q * (1 - q) * MICRO_SCALE ≤ 1 / 4 * MICRO_SCALE :=
          mul_le_mul_of_nonneg_right hsquare (by norm_num [MICRO_SCALE])
      _ = 250000 := by norm_num [MICRO_SCALE]
  have hvol : vol = truncI64 (q * (1 - q) * MICRO_SCALE) := volatilityFactorMicro_eq hpowd hk
  obtain ⟨hle, hlt, h0⟩ := truncI64_near hnonneg
    (hquarter.trans (by norm_num [i64Max] : (250000 : ℚ) ≤ i64Max))
  rw [hvol]
  exact ⟨hle, hlt, h0, by exact_mod_cast hle.trans hquarter⟩

/-- The micro fee is the product truncated once. -/
theorem calculateFeeMicro_near (hk0 : 0 < k) (hk : k < 10000) {n r : Int} (hn0 : 0 < n)
    (hn : n ≤ i64Max) (hr0 : 0 ≤ r) (hr : r ≤ MICRO_SCALE) :
    let fee := calculateFeeMicro powd n (100 * k) r 1
    let product := n * r * volatilityFactorMicro powd (100 * k) 1
    0 ≤ fee ∧ fee * 1000000000000 ≤ product ∧ product < (fee + 1) * 1000000000000 := by
  intro fee product
  obtain ⟨-, -, hvol0, hvol⟩ := volatilityFactorMicro_near hpowd hk
  have hproduct0 : 0 ≤ product := mul_nonneg (mul_nonneg hn0.le hr0) hvol0
  have hraw : (product.tdiv MICRO_SCALE).tdiv MICRO_SCALE = product / 1000000000000 := by
    rw [Int.tdiv_eq_ediv_of_nonneg hproduct0,
      Int.tdiv_eq_ediv_of_nonneg (Int.ediv_nonneg hproduct0 (by decide)),
      Int.ediv_ediv_of_nonneg (by decide)]
    rfl
  have hsmall : product ≤ n * 1000000000000 :=
    calc product ≤ n * MICRO_SCALE * 250000 :=
          mul_le_mul (mul_le_mul_of_nonneg_left hr hn0.le) hvol hvol0
            (mul_nonneg hn0.le (by decide))
      _ ≤ n * 1000000000000 := by
          rw [mul_assoc]
          exact mul_le_mul_of_nonneg_left (by decide) hn0.le
  have hmax : product / 1000000000000 ≤ i64Max :=
    (Int.ediv_le_of_le_mul (by decide) hsmall).trans hn
  have hmin : 0 ≤ product / 1000000000000 := Int.ediv_nonneg hproduct0 (by decide)
  have hfee : fee = product / 1000000000000 := by
    have hguard : ¬ ((100 * k : Int) ≤ 0 ∨ MICRO_SCALE ≤ (100 * k : Int) ∨ n ≤ 0) := by
      unfold MICRO_SCALE
      omega
    change calculateFeeMicro powd n (100 * k) r 1 = _
    unfold calculateFeeMicro
    rw [if_neg hguard]
    change (if i64Min ≤ (product.tdiv MICRO_SCALE).tdiv MICRO_SCALE ∧ _ then _ else _) = _
    rw [hraw, if_pos ⟨(by decide : i64Min ≤ 0).trans hmin, hmax⟩]
  rw [hfee]
  exact ⟨hmin, Int.ediv_mul_le _ (by decide), Int.lt_ediv_add_one_mul_self _ (by decide)⟩

/-- The fee is the micro fee, rounded to five decimals. -/
theorem calculateFee_eq_roundDp (hk0 : 0 < k) (hk : k < 10000) {n r : Int} (hn0 : 0 < n)
    (hn : n ≤ i64Max) (hr0 : 0 ≤ r) (hr : r ≤ MICRO_SCALE) :
    calculateFee powd (Micro.toDecimal n) (k / 10000) (Micro.toDecimal r) 1 =
      roundDp (Micro.toDecimal (calculateFeeMicro powd n (100 * k) r 1)) 5 := by
  obtain ⟨hfee0, -, -⟩ := calculateFeeMicro_near hpowd hk0 hk hn0 hn hr0 hr
  have hrate : truncI64 (Micro.toDecimal r * MICRO_SCALE) = r := by
    have hrmax : r ≤ i64Max := hr.trans (by decide)
    rw [Micro.toDecimal_mul_scale, truncI64, if_pos (Int.cast_nonneg hr0), Int.floor_intCast,
      if_pos ⟨(by decide : i64Min ≤ 0).trans hr0, hrmax⟩]
  have hk0Q : (0 : ℚ) < k := by exact_mod_cast hk0
  have hkQ : (k : ℚ) < 10000 := by exact_mod_cast hk
  have hguard : ¬ ((k / 10000 : ℚ) = 0 ∨ (k / 10000 : ℚ) = 1) := by
    rintro (h | h) <;> linarith
  have hprice : (k / 10000 : ℚ) = Micro.toDecimal (100 * k) := by
    unfold Micro.toDecimal MICRO_SCALE
    push_cast
    ring
  have hpriceM : Micro.tryFromDecimal (k / 10000 : ℚ) = some (100 * k : Int) := by
    rw [hprice]
    exact Micro.tryFromDecimal_toDecimal (by omega) (by unfold i64Max; omega)
  unfold calculateFee
  rw [if_neg hguard, hrate, hpriceM, Micro.tryFromDecimal_toDecimal hn0.le hn]
  exact roundDp_five_cutoff (Micro.toDecimal_nonneg hfee0)

omit hpowd in
/-- A micro amount truncated from a product of three is within a micro-unit of it. -/
theorem toDecimal_near_product {n r vol fee : Int} (hle : fee * 1000000000000 ≤ n * r * vol)
    (hlt : n * r * vol < (fee + 1) * 1000000000000) :
    |Micro.toDecimal fee - Micro.toDecimal n * Micro.toDecimal r * Micro.toDecimal vol| ≤
      1 / 1000000 := by
  have hleQ : (fee : ℚ) * 1000000000000 ≤ n * r * vol := by exact_mod_cast hle
  have hltQ : (n : ℚ) * r * vol < (fee + 1) * 1000000000000 := by exact_mod_cast hlt
  have hproduct : Micro.toDecimal n * Micro.toDecimal r * Micro.toDecimal vol =
      n * r * vol / 1000000000000000000 := by
    unfold Micro.toDecimal MICRO_SCALE
    push_cast
    ring
  rw [hproduct, abs_le]
  unfold Micro.toDecimal MICRO_SCALE
  push_cast
  exact ⟨by linarith, by linarith⟩

/-- The factor against the formula at the price it is taken at. -/
theorem volatilityFactor_near (hk : k < 10000) :
    |Micro.toDecimal (volatilityFactorMicro powd (100 * k) 1) -
        factorPrice k * (1 - factorPrice k)| ≤ 1 / 1000000 := by
  obtain ⟨hle, hlt, -⟩ := volatilityFactorMicro_near hpowd hk
  unfold MICRO_SCALE at hle hlt
  push_cast at hle hlt
  unfold Micro.toDecimal MICRO_SCALE
  push_cast
  rw [abs_le]
  exact ⟨by linarith, by linarith⟩

/-- The fee against the formula at the price the factor is taken at. -/
theorem calculateFee_near (hk0 : 0 < k) (hk : k < 10000) {n r : Int} (hn0 : 0 < n)
    (hn : n ≤ i64Max) (hr0 : 0 ≤ r) (hr : r ≤ MICRO_SCALE) :
    |calculateFee powd (Micro.toDecimal n) (k / 10000) (Micro.toDecimal r) 1 -
        Micro.toDecimal n * Micro.toDecimal r * (factorPrice k * (1 - factorPrice k))| ≤
      6 / 1000000 + 1 / 1000000 * (Micro.toDecimal n * Micro.toDecimal r) := by
  obtain ⟨-, hfeeLe, hfeeLt⟩ := calculateFeeMicro_near hpowd hk0 hk hn0 hn hr0 hr
  have hround := abs_le.mp
    (roundDp_five_near (Micro.toDecimal (calculateFeeMicro powd n (100 * k) r 1)))
  have hmicro := abs_le.mp (toDecimal_near_product hfeeLe hfeeLt)
  have hfactor := volatilityFactor_near hpowd hk
  have hvalue : 0 ≤ Micro.toDecimal n * Micro.toDecimal r :=
    mul_nonneg (Micro.toDecimal_nonneg hn0.le) (Micro.toDecimal_nonneg hr0)
  rw [calculateFee_eq_roundDp hpowd hk0 hk hn0 hn hr0 hr]
  generalize volatilityFactorMicro powd (100 * k) 1 = vol at *
  have hscaled : |Micro.toDecimal n * Micro.toDecimal r * Micro.toDecimal vol -
      Micro.toDecimal n * Micro.toDecimal r * (factorPrice k * (1 - factorPrice k))| ≤
        1 / 1000000 * (Micro.toDecimal n * Micro.toDecimal r) := by
    rw [← mul_sub, abs_mul, abs_of_nonneg hvalue, mul_comm]
    exact mul_le_mul_of_nonneg_right hfactor hvalue
  have hbounds := abs_le.mp hscaled
  rw [abs_le]
  exact ⟨by linarith [hround.1, hmicro.1, hbounds.1], by linarith [hround.2, hmicro.2, hbounds.2]⟩

end

/-! ## Agreement with the formula -/

/-- The amount the fee is meant to be. -/
def exactFee (shares price feeRate : Decimal) : Decimal := shares * feeRate * price * (1 - price)

theorem factorPrice_eq_iff (k : Nat) :
    factorPrice k = k / 10000 ↔ k < 9500 ∨ k % 100 = 0 := by
  unfold factorPrice
  split
  · rename_i hlut
    rw [div_eq_div_iff (by norm_num) (by norm_num)]
    constructor
    · intro h
      have hnat : k / 100 * 10000 = k * 100 := by exact_mod_cast h
      omega
    · intro h
      have hnat : k / 100 * 10000 = k * 100 := by omega
      exact_mod_cast hnat
  · rename_i hbelow
    exact iff_of_true rfl (.inl (not_le.mp hbelow))

/-- Within a cent from 95 cents on, the formula falls by more than the bound allows. -/
theorem factorPrice_gap {k : Nat} (hlut : 9500 ≤ k) (hk : k < 10000) (hpart : k % 100 ≠ 0) :
    9 / 100000 ≤
      factorPrice k * (1 - factorPrice k) - (k / 10000 : ℚ) * (1 - (k / 10000 : ℚ)) := by
  have hsteps : k / 100 * 100 + 1 ≤ k := by omega
  have hcents : 95 ≤ k / 100 := by omega
  have hstepsQ : ((k / 100 : Nat) : ℚ) * 100 + 1 ≤ k := by exact_mod_cast hsteps
  have hcentsQ : (95 : ℚ) ≤ (k / 100 : Nat) := by exact_mod_cast hcents
  have hlutQ : (9500 : ℚ) ≤ k := by exact_mod_cast hlut
  unfold factorPrice
  rw [if_pos hlut]
  generalize ((k / 100 : Nat) : ℚ) = c at *
  nlinarith [mul_nonneg (sub_nonneg.mpr hstepsQ)
    (by linarith : (0 : ℚ) ≤ (k : ℚ) + c * 100 - 10000 - 9000)]

/-- **The fee follows the formula exactly below 95 cents and at whole cents**: at such a price, and
at no other, every fee is off by no more than rounding and a truncated factor explain. -/
theorem calculateFee_near_exactFee_iff {powd : Decimal → Decimal → Decimal}
    (hpowd : ∀ x, powd x 1 = x) {k : Nat} (hk0 : 0 < k) (hk : k < 10000) :
    (∀ n r : Int, 0 < n → n ≤ i64Max → 0 ≤ r → r ≤ MICRO_SCALE →
      |calculateFee powd (Micro.toDecimal n) (k / 10000) (Micro.toDecimal r) 1 -
          exactFee (Micro.toDecimal n) (k / 10000) (Micro.toDecimal r)| ≤
        1 / 100000 + 1 / 1000000 * (Micro.toDecimal n * Micro.toDecimal r)) ↔
      k < 9500 ∨ k % 100 = 0 := by
  constructor
  · intro h
    by_contra hnot
    rw [not_or, not_lt] at hnot
    have hgap := factorPrice_gap hnot.1 hk hnot.2
    have hn : (1000000000 : Int) ≤ i64Max := by decide
    have hbound := h 1000000000 1000000 (by decide) hn (by decide) le_rfl
    have hnear := calculateFee_near hpowd hk0 hk (n := 1000000000) (r := 1000000) (by decide) hn
      (by decide) le_rfl
    have hshares : Micro.toDecimal 1000000000 = 1000 := by norm_num [Micro.toDecimal, MICRO_SCALE]
    have hrate : Micro.toDecimal 1000000 = 1 := by norm_num [Micro.toDecimal, MICRO_SCALE]
    unfold exactFee at hbound
    rw [hshares, hrate] at hbound hnear
    rw [abs_le] at hbound hnear
    linarith [hbound.2, hnear.1]
  · intro h n r hn0 hn hr0 hr
    have hnear := calculateFee_near hpowd hk0 hk hn0 hn hr0 hr
    rw [(factorPrice_eq_iff k).mpr h] at hnear
    unfold exactFee
    rw [mul_assoc (Micro.toDecimal n * Micro.toDecimal r)]
    exact hnear.trans (by linarith)

/-- At 95.5 cents a hundred shares at 2 % pay more than nine cents, and the formula says less than
eight and three quarters. -/
theorem calculateFee_off_between_cents :
    |calculateFee (fun x _ => x) 100 (955 / 1000) (2 / 100) 1 -
        exactFee 100 (955 / 1000) (2 / 100)| >
      1 / 100000 + 1 / 1000000 * (100 * (2 / 100)) := by
  decide +kernel

theorem calculateFee_near_exactFee_ninety_seven :
    |calculateFee (fun x _ => x) (Micro.toDecimal 100000000) ((9700 : Nat) / 10000)
          (Micro.toDecimal 20000) 1 -
        exactFee (Micro.toDecimal 100000000) ((9700 : Nat) / 10000) (Micro.toDecimal 20000)| ≤
      1 / 100000 + 1 / 1000000 * (Micro.toDecimal 100000000 * Micro.toDecimal 20000) :=
  (calculateFee_near_exactFee_iff (fun _ => rfl) (by decide) (by decide)).mpr (.inr (by decide))
    100000000 20000 (by decide) (by decide) (by decide) (by decide)

end FeeFormula

end OxideArb
