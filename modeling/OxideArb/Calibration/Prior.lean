import Mathlib.Tactic.FieldSimp
import OxideArb.Calibration.Calibrator
import OxideArb.Lib.Table
import OxideArb.Lib.Transition
import OxideArb.Risk.Kelly

/-!
# The prior of a new bucket

The Beta distribution whose mean and variance are those of the observed rates.
-/

namespace OxideArb

open Risk (checkedDiv checkedDiv_eq)

/-- `estimate_mom_prior` with its divisions checked: one by zero panics in the source and is `none`
here. -/
def checkedMomPrior (entries : List CalibrationEntry) (minSamples : Nat)
    (fallbackAlpha fallbackBeta : Decimal) : Option (Decimal × Decimal) := do
  let rates ← ((entries.filter fun e => minSamples ≤ e.totalCount).filter
    fun e => 0 < e.totalCount).mapM fun e => checkedDiv e.correctCount e.totalCount
  if rates.length < 3 then return (fallbackAlpha, fallbackBeta)
  -- `to_u32` of the length
  if u32Max < rates.length then return (fallbackAlpha, fallbackBeta)
  let n : Decimal := rates.length
  let mu ← checkedDiv rates.sum n
  let variance ← checkedDiv (rates.map fun p => (p - mu) * (p - mu)).sum (n - 1)
  if variance = 0 ∨ variance < 0 then return (fallbackAlpha, fallbackBeta)
  let muComplement := 1 - mu
  let ratio ← checkedDiv (mu * muComplement) variance
  let common := ratio - 1
  if common ≤ 0 then return (fallbackAlpha, fallbackBeta)
  let alpha := mu * common
  let beta := muComplement * common
  if 0 < alpha ∧ 0 < beta then return (alpha, beta)
  return (fallbackAlpha, fallbackBeta)

/-! ## Moments -/

section Moments

variable {K : Type*} [Field K]

def sampleMean (xs : List K) : K := xs.sum / xs.length

/-- The unbiased one. -/
def sampleVariance (xs : List K) : K :=
  (xs.map fun x => (x - sampleMean xs) ^ 2).sum / (xs.length - 1)

def betaMean (a b : K) : K := a / (a + b)

def betaVariance (a b : K) : K := a * b / ((a + b) ^ 2 * (a + b + 1))

theorem betaMean_scaled (μ : K) {c : K} (hc : c ≠ 0) : betaMean (μ * c) ((1 - μ) * c) = μ := by
  have hsum : μ * c + (1 - μ) * c = c := by ring
  rw [betaMean, hsum, mul_div_cancel_right₀ μ hc]

/-- The factor `μ(1 - μ)/v - 1` gives the variance `v` back. -/
theorem betaVariance_scaled {μ v c : K} (hv : v ≠ 0) (hc : c ≠ 0) (hc1 : c + 1 ≠ 0)
    (h : c = μ * (1 - μ) / v - 1) : betaVariance (μ * c) ((1 - μ) * c) = v := by
  have hsum : μ * c + (1 - μ) * c = c := by ring
  have hspread : μ * (1 - μ) = v * (c + 1) := by
    rw [h, sub_add_cancel, mul_div_cancel₀ _ hv]
  calc betaVariance (μ * c) ((1 - μ) * c)
      = μ * (1 - μ) * c ^ 2 / (c ^ 2 * (c + 1)) := by
        rw [betaVariance, hsum]
        congr 1
        ring
    _ = v * (c + 1) * c ^ 2 / (c ^ 2 * (c + 1)) := by rw [hspread]
    _ = v := by field_simp

end Moments

/-! ## The estimate -/

def eligibleRates (entries : List CalibrationEntry) (minSamples : Nat) : List Decimal :=
  (entries.filter fun e => minSamples ≤ e.totalCount ∧ 0 < e.totalCount).map
    fun e => (e.correctCount : Decimal) / e.totalCount

theorem mapM_checkedDiv (entries : List CalibrationEntry)
    (h : ∀ e ∈ entries, 0 < e.totalCount) :
    (entries.mapM fun e => checkedDiv e.correctCount e.totalCount) =
      some (entries.map fun e => (e.correctCount : Decimal) / e.totalCount) := by
  induction entries with
  | nil => rfl
  | cons e rest ih =>
    have hpos : (e.totalCount : Decimal) ≠ 0 := by
      exact_mod_cast (h e List.mem_cons_self).ne'
    rw [List.mapM_cons, checkedDiv_eq hpos, ih fun e he => h e (List.mem_cons_of_mem _ he)]
    rfl

theorem mapM_eligible (entries : List CalibrationEntry) (minSamples : Nat) :
    (((entries.filter fun e => minSamples ≤ e.totalCount).filter fun e => 0 < e.totalCount).mapM
        fun e => checkedDiv e.correctCount e.totalCount) =
      some (eligibleRates entries minSamples) := by
  rw [mapM_checkedDiv _ fun e he => of_decide_eq_true (List.mem_filter.mp he).2, List.filter_filter]
  unfold eligibleRates
  congr 3
  funext e
  simp [Bool.and_comm]

/-- **The estimate** never divides by zero, and is the fallback or has the mean and the variance
of the eligible rates. -/
theorem checkedMomPrior_moments (entries : List CalibrationEntry) (minSamples : Nat)
    (fallbackAlpha fallbackBeta : Decimal) :
    ∃ a b, checkedMomPrior entries minSamples fallbackAlpha fallbackBeta = some (a, b) ∧
      ((a, b) = (fallbackAlpha, fallbackBeta) ∨
        (0 < a ∧ 0 < b ∧ betaMean a b = sampleMean (eligibleRates entries minSamples) ∧
          betaVariance a b = sampleVariance (eligibleRates entries minSamples))) := by
  unfold checkedMomPrior
  rw [mapM_eligible]
  generalize eligibleRates entries minSamples = rates
  simp only [Option.bind_eq_bind, Option.bind_some]
  split
  · exact ⟨_, _, rfl, .inl rfl⟩
  rename_i hthree
  split
  · exact ⟨_, _, rfl, .inl rfl⟩
  have hlength : (3 : Decimal) ≤ rates.length := by exact_mod_cast not_lt.mp hthree
  have hmu : checkedDiv rates.sum rates.length = some (sampleMean rates) :=
    checkedDiv_eq (by linarith)
  have hvariance : checkedDiv
      (rates.map fun p => (p - sampleMean rates) * (p - sampleMean rates)).sum
      (rates.length - 1) = some (sampleVariance rates) := by
    rw [checkedDiv_eq (by linarith)]
    simp only [sampleVariance, sq]
  simp only [hmu, hvariance, Option.bind_some]
  generalize sampleMean rates = μ
  generalize sampleVariance rates = v
  split
  · exact ⟨_, _, rfl, .inl rfl⟩
  rename_i hv
  have hv0 : v ≠ 0 := fun h => hv (.inl h)
  rw [checkedDiv_eq hv0, Option.bind_some]
  split
  · exact ⟨_, _, rfl, .inl rfl⟩
  rename_i hc
  have hcommon : 0 < μ * (1 - μ) / v - 1 := not_le.mp hc
  split
  · rename_i hpos
    exact ⟨_, _, rfl, .inr ⟨hpos.1, hpos.2, betaMean_scaled μ hcommon.ne',
      betaVariance_scaled hv0 hcommon.ne' (by linarith) rfl⟩⟩
  · exact ⟨_, _, rfl, .inl rfl⟩

end OxideArb
