import Mathlib.Tactic.Positivity
import OxideArb.Types.Basic

/-!
# Rounding of decimals

`Decimal::round` and `round_dp` take the nearest value on their grid, a tie going to the even
neighbour.
-/

namespace OxideArb

def RoundsUp (q : Decimal) : Prop :=
  1 / 2 < Int.fract q ∨ (Int.fract q = 1 / 2 ∧ ⌊q⌋ % 2 ≠ 0)

instance (q : Decimal) : Decidable (RoundsUp q) := inferInstanceAs (Decidable (_ ∨ _))

theorem roundHalfEven_eq (q : Decimal) :
    roundHalfEven q = if RoundsUp q then ⌊q⌋ + 1 else ⌊q⌋ := by
  have hfract : q - ⌊q⌋ = Int.fract q := rfl
  unfold roundHalfEven
  simp only [hfract]
  rcases lt_trichotomy (Int.fract q) (1 / 2) with h | h | h
  · have hdown : ¬ RoundsUp q := by
      rintro (hgt | ⟨heq, -⟩)
      · exact absurd hgt (not_lt.mpr h.le)
      · exact h.ne heq
    rw [if_pos h, if_neg hdown]
  · by_cases hodd : ⌊q⌋ % 2 = 0
    · have hdown : ¬ RoundsUp q := by simp [RoundsUp, h, hodd]
      simp [h, hodd, hdown]
    · have hup : RoundsUp q := .inr ⟨h, hodd⟩
      simp [h, hodd, hup]
  · have hup : RoundsUp q := .inl h
    rw [if_neg (not_lt.mpr h.le), if_pos h, if_pos hup]

@[simp]
theorem roundHalfEven_intCast (n : Int) : roundHalfEven n = n := by
  rw [roundHalfEven_eq, if_neg]
  · exact Int.floor_intCast n
  · norm_num [RoundsUp]

theorem floor_le_roundHalfEven (q : Decimal) : ⌊q⌋ ≤ roundHalfEven q := by
  rw [roundHalfEven_eq]
  split <;> omega

theorem roundHalfEven_le (q : Decimal) : roundHalfEven q ≤ q + 1 / 2 := by
  have hq := Int.floor_add_fract q
  rw [roundHalfEven_eq]
  split
  next hup =>
    have hhalf : 1 / 2 ≤ Int.fract q := hup.elim le_of_lt fun h => h.1.ge
    push_cast
    linarith
  next => linarith [Int.fract_nonneg q]

theorem le_roundHalfEven (q : Decimal) : q - 1 / 2 ≤ roundHalfEven q := by
  have hq := Int.floor_add_fract q
  rw [roundHalfEven_eq]
  split
  next =>
    push_cast
    linarith [Int.fract_lt_one q]
  next hdown =>
    have hhalf : Int.fract q ≤ 1 / 2 := not_lt.mp fun h => hdown (.inl h)
    linarith

variable {q : Decimal}

theorem roundHalfEven_mono {p : Decimal} (h : p ≤ q) : roundHalfEven p ≤ roundHalfEven q := by
  rcases (Int.floor_mono h).lt_or_eq with hlt | heq
  · -- one step apart: the smaller value reaches at most the floor of the larger one
    have hp : roundHalfEven p ≤ ⌊p⌋ + 1 := by
      rw [roundHalfEven_eq]
      split <;> omega
    have hq := floor_le_roundHalfEven q
    omega
  · -- the same floor: what sends the smaller value up sends the larger one up
    have hfract : Int.fract p ≤ Int.fract q := by
      unfold Int.fract
      rw [heq]
      linarith
    rw [roundHalfEven_eq p, roundHalfEven_eq q]
    by_cases hup : RoundsUp p
    · have hup' : RoundsUp q := by
        rcases hup with hgt | ⟨hhalf, hodd⟩
        · exact .inl (hgt.trans_le hfract)
        · rcases hfract.lt_or_eq with hlt | hsame
          · exact .inl (hhalf ▸ hlt)
          · exact .inr ⟨hsame ▸ hhalf, heq ▸ hodd⟩
      rw [if_pos hup, if_pos hup', heq]
    · rw [if_neg hup, heq]
      split <;> omega

/-! ## Rounding to decimal places -/

/-- `round_dp`: the nearest value with `dp` decimal places. -/
def roundDp (q : Decimal) (dp : Nat) : Decimal := roundHalfEven (q * 10 ^ dp) / 10 ^ dp

@[simp]
theorem roundDp_zero (dp : Nat) : roundDp 0 dp = 0 := by
  have h := roundHalfEven_intCast 0
  simp only [Int.cast_zero] at h
  simp [roundDp, h]

theorem roundDp_mono {p : Decimal} (dp : Nat) (h : p ≤ q) : roundDp p dp ≤ roundDp q dp := by
  have hscaled : p * 10 ^ dp ≤ q * 10 ^ dp := by gcongr
  have hint : (roundHalfEven (p * 10 ^ dp) : Decimal) ≤ roundHalfEven (q * 10 ^ dp) := by
    exact_mod_cast roundHalfEven_mono hscaled
  unfold roundDp
  gcongr

theorem roundDp_nonneg (dp : Nat) (h : 0 ≤ q) : 0 ≤ roundDp q dp := by
  simpa using roundDp_mono dp h

theorem roundDp_two_le (q : Decimal) : roundDp q 2 ≤ q + 1 / 200 := by
  have h := roundHalfEven_le (q * 10 ^ 2)
  unfold roundDp
  rw [div_le_iff₀ (by norm_num)]
  linarith

theorem le_roundDp_two (q : Decimal) : q - 1 / 200 ≤ roundDp q 2 := by
  have h := le_roundHalfEven (q * 10 ^ 2)
  unfold roundDp
  rw [le_div_iff₀ (by norm_num)]
  linarith

def wholeCents (q : Decimal) : Decimal := ⌊q * 10 ^ 2⌋ / 10 ^ 2

theorem roundDp_two_le_self_iff (q : Decimal) : roundDp q 2 ≤ q ↔ ¬ RoundsUp (q * 10 ^ 2) := by
  unfold roundDp
  rw [div_le_iff₀ (by norm_num), roundHalfEven_eq]
  split
  next hup =>
    have hlt := Int.lt_floor_add_one (q * 10 ^ 2)
    simp only [hup, not_true_eq_false, iff_false, not_le]
    exact_mod_cast hlt
  next hdown =>
    simp only [hdown, not_false_eq_true, iff_true]
    exact Int.floor_le _

theorem roundDp_two_eq_wholeCents (h : ¬ RoundsUp (q * 10 ^ 2)) : roundDp q 2 = wholeCents q := by
  unfold roundDp wholeCents
  rw [roundHalfEven_eq, if_neg h]

end OxideArb
