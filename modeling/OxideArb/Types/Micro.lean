import OxideArb.Types.Basic

/-!
# Fixed-point micro units

Prices, shares and USD are `i64` counts of `1 / MICRO_SCALE`. The three newtypes of the source
share one conversion pair, so they are one integer type here.
-/

namespace OxideArb

/-- Scale factor: one unit is `1 / MICRO_SCALE`. -/
def MICRO_SCALE : Int := 1000000

abbrev MicroPrice := Int

abbrev MicroShares := Int

abbrev MicroUsd := Int

namespace Micro

/-- `to_i64().unwrap_or(i64::MAX)` on a non-negative 128-bit value. -/
def saturate (v : Int) : Int := if v ≤ i64Max then v else i64Max

/-- `try_from_decimal`: scale, reject a negative or oversized value, truncate. -/
def tryFromDecimal (d : Decimal) : Option Int :=
  let scaled := d * MICRO_SCALE
  if scaled < 0 then none
  else if ⌊scaled⌋ ≤ i64Max then some ⌊scaled⌋
  else none

def toDecimal (v : Int) : Decimal := (v : ℚ) / MICRO_SCALE

variable {d : Decimal} {v : Int}

theorem tryFromDecimal_nonneg (h : tryFromDecimal d = some v) : 0 ≤ v := by
  simp only [tryFromDecimal] at h
  split at h
  · cases h
  · rename_i hneg
    split at h
    · cases h
      exact Int.floor_nonneg.mpr (not_lt.mp hneg)
    · cases h

theorem tryFromDecimal_le (h : tryFromDecimal d = some v) : v ≤ i64Max := by
  simp only [tryFromDecimal] at h
  split at h
  · cases h
  · split at h
    · rename_i hle
      cases h
      exact hle
    · cases h

theorem tryFromDecimal_of_fits (h0 : 0 ≤ d) (h : ⌊d * MICRO_SCALE⌋ ≤ i64Max) :
    tryFromDecimal d = some ⌊d * MICRO_SCALE⌋ := by
  have hscaled : ¬ d * MICRO_SCALE < 0 := not_lt.mpr (mul_nonneg h0 (by norm_num [MICRO_SCALE]))
  simp only [tryFromDecimal, if_neg hscaled, if_pos h]

theorem floor_le_scale (h1 : d ≤ 1) : ⌊d * MICRO_SCALE⌋ ≤ MICRO_SCALE := by
  refine Int.floor_le_iff.mpr ?_
  unfold MICRO_SCALE
  push_cast
  linarith

theorem toDecimal_mul_scale (v : Int) : toDecimal v * MICRO_SCALE = v := by
  unfold toDecimal MICRO_SCALE
  norm_num

theorem tryFromDecimal_toDecimal (h0 : 0 ≤ v) (h1 : v ≤ i64Max) :
    tryFromDecimal (toDecimal v) = some v := by
  have hnn : ¬ ((v : ℚ) < 0) := not_lt.mpr (by exact_mod_cast h0)
  simp only [tryFromDecimal, toDecimal_mul_scale, Int.floor_intCast, hnn, if_false, h1, if_true]

theorem toDecimal_mono {w : Int} (h : v ≤ w) : toDecimal v ≤ toDecimal w := by
  unfold toDecimal MICRO_SCALE
  have : (v : ℚ) ≤ w := by exact_mod_cast h
  gcongr

theorem toDecimal_nonneg (h : 0 ≤ v) : 0 ≤ toDecimal v := by
  simpa [toDecimal] using toDecimal_mono h

theorem toDecimal_le_one (h : v ≤ MICRO_SCALE) : toDecimal v ≤ 1 := by
  unfold toDecimal
  unfold MICRO_SCALE at *
  have h' : (v : ℚ) ≤ 1000000 := by exact_mod_cast h
  rw [div_le_one (by norm_num)]
  exact_mod_cast h'

end Micro

namespace MicroPrice

/-- `mul_shares`: cost of `shares` at this price. -/
def mulShares (price : MicroPrice) (shares : MicroShares) : MicroUsd :=
  Micro.saturate ((price * shares).tdiv MICRO_SCALE)

/-- `affordable_shares`: shares a budget buys at this price, rounded down. -/
def affordableShares (price : MicroPrice) (budget : MicroUsd) : MicroShares :=
  if price ≤ 0 then 0
  else Micro.saturate ((budget * MICRO_SCALE).tdiv price)

/-- `vwap_from_cost`: volume-weighted price, rounded to the nearest unit. -/
def vwapFromCost (totalCost : MicroUsd) (totalShares : MicroShares) : MicroPrice :=
  if totalShares ≤ 0 then 0
  else Micro.saturate ((totalCost * MICRO_SCALE + totalShares.tdiv 2).tdiv totalShares)

end MicroPrice

namespace MicroUsd

/-- `percent_of`: percentage of `total`, an integer between 0 and 100. -/
def percentOf (amount total : MicroUsd) : Int :=
  if total ≤ 0 then 0
  else
    let pct := (amount * 100).tdiv total
    if pct ≤ i64Max then pct else 0

/-- Saturating `i64` addition of two non-negative amounts. -/
def satAdd (a b : MicroUsd) : MicroUsd := Micro.saturate (a + b)

end MicroUsd

abbrev MicroProb := Int

namespace MicroProb

/-- `from_micro`: clamped to `[0, 1]`. -/
def fromMicro (v : Int) : MicroProb :=
  if v < 0 then 0 else if MICRO_SCALE < v then MICRO_SCALE else v

/-- `blend`: `self × (1 − w) + other × w` with `w = weightNum / weightDen`. -/
def blend (self other : MicroProb) (weightNum weightDen : Nat) : MicroProb :=
  if weightDen = 0 then self
  else
    let w := (weightNum * MICRO_SCALE).tdiv weightDen
    let oneMinusW := MICRO_SCALE - w
    fromMicro (Micro.saturate ((self * oneMinusW + other * w).tdiv MICRO_SCALE))

def clampProb (self floor ceiling : MicroProb) : MicroProb :=
  fromMicro (max floor (min ceiling self))

end MicroProb

end OxideArb
