import Mathlib.Order.Bounds.Basic
import OxideArb.Risk.Validation

/-!
# The Kelly amount and the drawdown factor

Under a validated configuration both are bounded and monotone, and no division is by zero. The
Kelly amount is rounded to the nearest cent and may pass its cap by half a cent.
-/

namespace OxideArb.Risk

def checkedDiv (a b : Decimal) : Option Decimal := if b = 0 then none else some (a / b)

theorem checkedDiv_eq {a b : Decimal} (h : b ≠ 0) : checkedDiv a b = some (a / b) := if_neg h

/-! ## The Kelly amount -/

namespace QuarterKellyCalculator

variable {kelly : QuarterKellyCalculator} {prob : ProbabilityInput} {entryPrice : Decimal}
  {bankroll : Usd}

/-- `calculate` with its four divisions checked. -/
def calculateChecked (kelly : QuarterKellyCalculator) (prob : ProbabilityInput)
    (entryPrice : Decimal) (bankroll : Usd) : Option KellyResult :=
  if entryPrice ≤ 0 ∨ 1 ≤ entryPrice ∨ bankroll ≤ 0 then some (.zero "invalid_input")
  else if prob.calibrationConfidence < kelly.minProbabilityConfidence then
    some (.zero "low_confidence")
  else if prob.sampleSize < kelly.minCalibrationSamples then some (.zero "insufficient_samples")
  else if kelly.maxProbabilityStalenessSecs < prob.modelStalenessSecs then
    some (.zero "stale_model")
  else do
    let stalenessRatio ← checkedDiv prob.modelStalenessSecs kelly.maxProbabilityStalenessSecs
    let effectiveP := prob.calibratedWinProb * prob.fillProb * prob.calibrationConfidence *
      max (1 - stalenessRatio) 0
    let grossOdds ← checkedDiv (1 - entryPrice) entryPrice
    let netOdds := grossOdds - prob.expectedSlippagePct - prob.expectedFailureCostPct
    if netOdds ≤ 0 then
      some { KellyResult.zero "negative_odds_after_costs" with
        effectiveWinProb := effectiveP, netOdds }
    else
      let edge ← checkedDiv (effectiveP - entryPrice) entryPrice
      let edgeBps := edge * 10000
      if edgeBps < kelly.minEdgeBps then
        some { KellyResult.zero "below_min_edge" with
          edgeBps, effectiveWinProb := effectiveP, netOdds }
      else
        let raw ← checkedDiv (effectiveP * netOdds - (1 - effectiveP)) netOdds
        let kellyRaw := max raw 0
        let kellyFractional := min (kellyRaw * kelly.kellyFraction) kelly.maxKellyFraction
        some { betUsd := roundDp (bankroll * kellyFractional) 2, kellyRaw, kellyFractional, edgeBps
               effectiveWinProb := effectiveP, netOdds, bindingReason := "kelly" }

theorem calculateChecked_eq (h : kelly.maxProbabilityStalenessSecs ≠ 0) :
    kelly.calculateChecked prob entryPrice bankroll =
      some (kelly.calculate prob entryPrice bankroll) := by
  unfold calculateChecked calculate
  split
  · rfl
  · next hinput =>
    rw [not_or, not_le] at hinput
    have hstale : ∀ d : Decimal, checkedDiv d kelly.maxProbabilityStalenessSecs =
        some (d / kelly.maxProbabilityStalenessSecs) := fun _ => checkedDiv_eq (by simpa using h)
    have hprice : ∀ d : Decimal, checkedDiv d entryPrice = some (d / entryPrice) :=
      fun _ => checkedDiv_eq hinput.1.ne'
    have hp : prob.calibratedWinProb * prob.fillProb * prob.calibrationConfidence *
        max (1 - (prob.modelStalenessSecs : Decimal) / kelly.maxProbabilityStalenessSecs) 0 =
          kelly.effectiveP prob := rfl
    simp only [hstale, hprice, Option.bind_eq_bind, Option.bind_some, hp]
    by_cases hodds : (1 - entryPrice) / entryPrice - prob.expectedSlippagePct -
        prob.expectedFailureCostPct ≤ 0
    · simp only [hodds, if_true]
      split_ifs <;> rfl
    · simp only [hodds, if_false, checkedDiv_eq (not_le.mp hodds).ne', Option.bind_some]
      split_ifs <;> rfl

theorem fractional_nonneg (hk : 0 ≤ kelly.kellyFraction) (hcap : 0 ≤ kelly.maxKellyFraction)
    (p odds : Decimal) : 0 ≤ kelly.fractional p odds :=
  le_min (mul_nonneg (le_max_right _ _) hk) hcap

theorem betUsd_nonneg (hk : 0 ≤ kelly.kellyFraction) (hcap : 0 ≤ kelly.maxKellyFraction) :
    0 ≤ (kelly.calculate prob entryPrice bankroll).betUsd := by
  by_cases hbets : kelly.Bets prob entryPrice bankroll
  · rw [calculate_of_bets hbets]
    exact roundDp_nonneg 2 (mul_nonneg hbets.bankroll.le (fractional_nonneg hk hcap _ _))
  · rw [calculate_of_not_bets hbets]

theorem betUsd_le (hcap : 0 ≤ kelly.maxKellyFraction) :
    (kelly.calculate prob entryPrice bankroll).betUsd ≤
      max bankroll 0 * kelly.maxKellyFraction + 1 / 200 := by
  by_cases hbets : kelly.Bets prob entryPrice bankroll
  · rw [calculate_of_bets hbets, max_eq_left hbets.bankroll.le]
    refine (roundDp_two_le _).trans ?_
    gcongr
    · exact hbets.bankroll.le
    · exact min_le_right _ _
  · rw [calculate_of_not_bets hbets]
    have hcapped := mul_nonneg (le_max_right bankroll 0) hcap
    linarith

theorem betUsd_mono (hk : 0 ≤ kelly.kellyFraction) (hcap : 0 ≤ kelly.maxKellyFraction)
    (hmin : 0 ≤ kelly.minProbabilityConfidence) (hfill : 0 ≤ prob.fillProb) {win : Decimal}
    (hwin : prob.calibratedWinProb ≤ win) :
    (kelly.calculate prob entryPrice bankroll).betUsd ≤
      (kelly.calculate { prob with calibratedWinProb := win } entryPrice bankroll).betUsd := by
  by_cases hbets : kelly.Bets prob entryPrice bankroll
  · have hconfidence := hmin.trans hbets.confidence
    have hmono := @calculate_mono kelly { prob with calibratedWinProb := win } entryPrice bankroll
      prob.calibratedWinProb prob.fillProb (by unfold effectiveP; gcongr)
    rwa [max_eq_left (betUsd_nonneg hk hcap), max_eq_left (betUsd_nonneg hk hcap)] at hmono
  · rw [calculate_of_not_bets hbets]
    exact betUsd_nonneg hk hcap

/-- **The Kelly bet of a valid configuration** is not negative, within half a cent of its cap,
free of divisions by zero, and grows with the calibrated win probability. -/
theorem kelly_bet_bounded (hvalid : validateRiskSizing kelly = []) (prob : ProbabilityInput)
    (entryPrice : Decimal) (bankroll : Usd) :
    0 ≤ (kelly.calculate prob entryPrice bankroll).betUsd ∧
      (kelly.calculate prob entryPrice bankroll).betUsd ≤
        max bankroll 0 * kelly.maxKellyFraction + 1 / 200 ∧
      kelly.calculateChecked prob entryPrice bankroll =
        some (kelly.calculate prob entryPrice bankroll) ∧
      (0 ≤ prob.fillProb → ∀ win, prob.calibratedWinProb ≤ win →
        (kelly.calculate prob entryPrice bankroll).betUsd ≤
          (kelly.calculate { prob with calibratedWinProb := win } entryPrice bankroll).betUsd) := by
  simp only [validateRiskSizing, List.append_eq_nil_iff, errorIf_eq_nil, not_or, not_le,
    not_lt] at hvalid
  obtain ⟨⟨⟨⟨⟨hk, -⟩, hcap, -⟩, -⟩, hmin, -⟩, -, hstaleness⟩ := hvalid
  exact ⟨betUsd_nonneg hk.le hcap.le, betUsd_le hcap.le, calculateChecked_eq hstaleness,
    fun hfill _ hwin => betUsd_mono hk.le hcap.le hmin hfill hwin⟩

end QuarterKellyCalculator

/-- A trade that is sure to win, at the configured defaults. -/
def sureTrade : ProbabilityInput := ⟨1, 1, 1, 100, 0, 0, 0⟩

theorem kelly_bet_bounded_sample :
    0 ≤ ((sampleSizer 5).kelly.calculate sureTrade (1 / 2) 1000).betUsd ∧
      ((sampleSizer 5).kelly.calculate sureTrade (1 / 2) 1000).betUsd ≤
        max 1000 0 * (1 / 4) + 1 / 200 :=
  have h := @QuarterKellyCalculator.kelly_bet_bounded (sampleSizer 5).kelly
    (by decide +kernel) sureTrade (1 / 2) 1000
  ⟨h.1, h.2.1⟩

/-- A quarter of six cents is a cent and a half, which is rounded up. -/
theorem kelly_bet_above_cap :
    validateRiskSizing (sampleSizer 5).kelly = [] ∧
      6 / 100 * (sampleSizer 5).kelly.maxKellyFraction <
        ((sampleSizer 5).kelly.calculate sureTrade (1 / 2) (6 / 100)).betUsd := by
  decide +kernel

/-! ## The drawdown factor -/

namespace DrawdownGuard

variable {guard : DrawdownGuard}

def evaluateChecked (guard : DrawdownGuard) (currentEquity : Usd) :
    Option (Decimal × DrawdownAction) :=
  if guard.hwm ≤ 0 then some (0, .normal)
  else do
    let drawdown := guard.hwm - currentEquity
    let drawdownPct ← if 0 < drawdown then checkedDiv (drawdown * 100) guard.hwm else some 0
    if guard.maxDrawdownPct ≤ drawdownPct then some (drawdownPct, .halt)
    else if 0 < drawdownPct then some (drawdownPct, .reduce)
    else some (drawdownPct, .normal)

def sizingFactorChecked (guard : DrawdownGuard) (currentEquity : Usd) : Option Decimal := do
  let (drawdownPct, action) ← guard.evaluateChecked currentEquity
  match action with
  | .normal => some 1
  | .reduce => do
    let ratio ← checkedDiv drawdownPct guard.maxDrawdownPct
    some (1 - ratio * (1 - guard.reductionFactor))
  | .halt => some 0

theorem evaluateChecked_eq (guard : DrawdownGuard) (currentEquity : Usd) :
    guard.evaluateChecked currentEquity = some (guard.evaluate currentEquity) := by
  unfold evaluateChecked evaluate
  split
  · rfl
  · next hhwm =>
    have hdiv : ∀ d : Decimal, checkedDiv d guard.hwm = some (d / guard.hwm) :=
      fun _ => checkedDiv_eq (not_le.mp hhwm).ne'
    simp only [hdiv, Option.bind_eq_bind, Option.bind_some]
    split_ifs <;> rfl

theorem sizingFactorChecked_eq (hmax : 0 < guard.maxDrawdownPct) (currentEquity : Usd) :
    guard.sizingFactorChecked currentEquity = some (guard.sizingFactor currentEquity) := by
  unfold sizingFactorChecked sizingFactor
  have hdiv : ∀ d : Decimal, checkedDiv d guard.maxDrawdownPct = some (d / guard.maxDrawdownPct) :=
    fun _ => checkedDiv_eq hmax.ne'
  simp only [evaluateChecked_eq, hdiv, Option.bind_eq_bind, Option.bind_some]
  split <;> simp only [*]

def pct (guard : DrawdownGuard) (currentEquity : Usd) : Decimal :=
  if 0 < guard.hwm then max (guard.hwm - currentEquity) 0 * 100 / guard.hwm else 0

theorem pct_nonneg (guard : DrawdownGuard) (currentEquity : Usd) : 0 ≤ guard.pct currentEquity := by
  unfold pct
  split
  · positivity
  · exact le_rfl

theorem pct_antitone {equity equity' : Usd} (h : equity' ≤ equity) :
    guard.pct equity ≤ guard.pct equity' := by
  unfold pct
  split
  · gcongr
  · exact le_rfl

theorem pct_eq_zero {currentEquity : Usd} (h : guard.hwm ≤ currentEquity) :
    guard.pct currentEquity = 0 := by
  simp [pct, max_eq_right (sub_nonpos.mpr h)]

theorem evaluate_eq (hmax : 0 < guard.maxDrawdownPct) (currentEquity : Usd) :
    guard.evaluate currentEquity = (guard.pct currentEquity,
      if guard.maxDrawdownPct ≤ guard.pct currentEquity then .halt
      else if 0 < guard.pct currentEquity then .reduce else .normal) := by
  unfold evaluate
  split
  · next hhwm => simp [pct, not_lt.mpr hhwm, hmax]
  · next hhwm =>
    have hpct : (if 0 < guard.hwm - currentEquity then
        (guard.hwm - currentEquity) * 100 / guard.hwm else 0) = guard.pct currentEquity := by
      unfold pct
      rw [if_pos (not_le.mp hhwm)]
      split
      · next hpos => rw [max_eq_left hpos.le]
      · next hneg => simp [max_eq_right (not_lt.mp hneg)]
    simp only [hpct]
    split_ifs <;> rfl

theorem sizingFactor_eq (hmax : 0 < guard.maxDrawdownPct) (currentEquity : Usd) :
    guard.sizingFactor currentEquity =
      if guard.maxDrawdownPct ≤ guard.pct currentEquity then 0
      else 1 - guard.pct currentEquity / guard.maxDrawdownPct * (1 - guard.reductionFactor) := by
  unfold sizingFactor
  rw [evaluate_eq hmax]
  dsimp only
  split_ifs with hhalt hpos
  · rfl
  · rfl
  · have hzero : guard.pct currentEquity = 0 := le_antisymm (not_lt.mp hpos) (guard.pct_nonneg _)
    simp [hzero]

theorem halt_iff (hmax : 0 < guard.maxDrawdownPct) (currentEquity : Usd) :
    (guard.evaluate currentEquity).2 = .halt ↔
      guard.maxDrawdownPct ≤ guard.pct currentEquity := by
  rw [evaluate_eq hmax]
  dsimp only
  split_ifs <;> simp_all

section Factor

variable (hmax : 0 < guard.maxDrawdownPct) (h0 : 0 < guard.reductionFactor)
  (h1 : guard.reductionFactor ≤ 1)
include hmax h0 h1

theorem sizingFactor_of_not_halt {currentEquity : Usd}
    (h : guard.pct currentEquity < guard.maxDrawdownPct) :
    0 < guard.sizingFactor currentEquity ∧ guard.sizingFactor currentEquity ≤ 1 := by
  have hratio : guard.pct currentEquity / guard.maxDrawdownPct ≤ 1 := (div_le_one hmax).mpr h.le
  have hratio0 : 0 ≤ guard.pct currentEquity / guard.maxDrawdownPct :=
    div_nonneg (guard.pct_nonneg _) hmax.le
  have hcut := mul_le_of_le_one_left (sub_nonneg.mpr h1) hratio
  have hcut0 := mul_nonneg hratio0 (sub_nonneg.mpr h1)
  rw [sizingFactor_eq hmax, if_neg (not_le.mpr h)]
  exact ⟨by linarith, by linarith⟩

theorem sizingFactor_mem (currentEquity : Usd) :
    0 ≤ guard.sizingFactor currentEquity ∧ guard.sizingFactor currentEquity ≤ 1 := by
  rcases le_or_gt guard.maxDrawdownPct (guard.pct currentEquity) with h | h
  · rw [sizingFactor_eq hmax, if_pos h]
    exact ⟨le_rfl, zero_le_one⟩
  · have hpos := sizingFactor_of_not_halt hmax h0 h1 h
    exact ⟨hpos.1.le, hpos.2⟩

theorem sizingFactor_eq_zero_iff (currentEquity : Usd) :
    guard.sizingFactor currentEquity = 0 ↔ (guard.evaluate currentEquity).2 = .halt := by
  rw [halt_iff hmax]
  refine ⟨fun hzero => ?_, fun h => by rw [sizingFactor_eq hmax, if_pos h]⟩
  by_contra h
  exact (sizingFactor_of_not_halt hmax h0 h1 (not_le.mp h)).1.ne' hzero

theorem sizingFactor_antitone {other : DrawdownGuard}
    (hpct : other.maxDrawdownPct = guard.maxDrawdownPct)
    (hreduction : other.reductionFactor = guard.reductionFactor) {equity equity' : Usd}
    (h : guard.pct equity ≤ other.pct equity') :
    other.sizingFactor equity' ≤ guard.sizingFactor equity := by
  rcases le_or_gt guard.maxDrawdownPct (other.pct equity') with hhalt | hlt
  · rw [sizingFactor_eq (hpct ▸ hmax), if_pos (hpct ▸ hhalt)]
    exact (sizingFactor_mem hmax h0 h1 equity).1
  · rw [sizingFactor_eq (hpct ▸ hmax), sizingFactor_eq hmax, hpct, hreduction,
      if_neg (not_le.mpr hlt), if_neg (not_le.mpr (h.trans_lt hlt))]
    have hloss := sub_nonneg.mpr h1
    gcongr

end Factor

/-! ### Histories -/

theorem updateEquity_eq (guard : DrawdownGuard) (equity : Usd) :
    guard.updateEquity equity = { guard with hwm := max guard.hwm equity } := by
  unfold updateEquity
  split
  · next h => rw [max_eq_right h.le]
  · next h => rw [max_eq_left (not_lt.mp h)]

theorem foldl_updateEquity (guard : DrawdownGuard) (history : List Usd) :
    history.foldl updateEquity guard = { guard with hwm := history.foldl max guard.hwm } := by
  induction history generalizing guard with
  | nil => rfl
  | cons equity history ih => rw [List.foldl_cons, updateEquity_eq, ih, List.foldl_cons]

theorem validate_foldl (guard : DrawdownGuard) (history : List Usd) :
    validateDrawdown (history.foldl updateEquity guard) = validateDrawdown guard := by
  rw [foldl_updateEquity]
  rfl

theorem valid_iff : validateDrawdown guard = [] ↔
    (0 < guard.maxDrawdownPct ∧ guard.maxDrawdownPct ≤ 100) ∧
      0 < guard.reductionFactor ∧ guard.reductionFactor ≤ 1 := by
  simp only [validateDrawdown, List.append_eq_nil_iff, errorIf_eq_nil, not_or, not_le, not_lt]

theorem isGreatest_foldl_max (initial : Usd) (history : List Usd) :
    IsGreatest {equity | equity ∈ initial :: history} (history.foldl max initial) := by
  induction history generalizing initial with
  | nil => simp
  | cons equity history ih =>
    obtain ⟨hmem, hle⟩ := ih (max initial equity)
    rw [List.foldl_cons]
    constructor
    · rcases List.mem_cons.mp hmem with heq | hrest
      · rw [heq]
        rcases max_choice initial equity with h | h <;> simp [h]
      · simp [hrest]
    · intro e he
      have htop := hle (List.mem_cons_self (a := max initial equity) (l := history))
      rcases List.mem_cons.mp he with rfl | he
      · exact (le_max_left _ _).trans htop
      · rcases List.mem_cons.mp he with rfl | he
        · exact (le_max_right _ _).trans htop
        · exact hle (List.mem_cons_of_mem _ he)

end DrawdownGuard

/-- **The drawdown guard** of a valid configuration, after any history of equity. -/
theorem drawdown_guard_sound {start : DrawdownGuard} (hvalid : validateDrawdown start = [])
    (history : List Usd) (equity : Usd) :
    let guard := history.foldl DrawdownGuard.updateEquity start
    IsGreatest {e | e ∈ start.hwm :: history} guard.hwm ∧
      0 ≤ guard.sizingFactor equity ∧ guard.sizingFactor equity ≤ 1 ∧
      (guard.hwm ≤ equity → guard.sizingFactor equity = 1) ∧
      (∀ equity' ≤ equity, guard.sizingFactor equity' ≤ guard.sizingFactor equity) ∧
      (∀ (later : List Usd) (equity' : Usd), (guard.evaluate equity).1 ≤
          ((later.foldl DrawdownGuard.updateEquity guard).evaluate equity').1 →
        (later.foldl DrawdownGuard.updateEquity guard).sizingFactor equity' ≤
          guard.sizingFactor equity) ∧
      (guard.sizingFactor equity = 0 ↔ (guard.evaluate equity).2 = .halt) ∧
      guard.evaluateChecked equity = some (guard.evaluate equity) ∧
      guard.sizingFactorChecked equity = some (guard.sizingFactor equity) := by
  intro guard
  have hguard : validateDrawdown guard = [] := (start.validate_foldl history).trans hvalid
  obtain ⟨⟨hmax, -⟩, h0, h1⟩ := DrawdownGuard.valid_iff.mp hguard
  have hmark : IsGreatest {e | e ∈ start.hwm :: history} guard.hwm := by
    change IsGreatest _ (history.foldl DrawdownGuard.updateEquity start).hwm
    rw [DrawdownGuard.foldl_updateEquity]
    exact DrawdownGuard.isGreatest_foldl_max _ _
  clear_value guard
  have hmem := DrawdownGuard.sizingFactor_mem hmax h0 h1 equity
  refine ⟨hmark, hmem.1, hmem.2, fun h => ?_, fun equity' h => ?_, fun later equity' h => ?_,
    DrawdownGuard.sizingFactor_eq_zero_iff hmax h0 h1 _, DrawdownGuard.evaluateChecked_eq _ _,
    DrawdownGuard.sizingFactorChecked_eq hmax _⟩
  · rw [DrawdownGuard.sizingFactor_eq hmax, DrawdownGuard.pct_eq_zero h, if_neg (not_le.mpr hmax)]
    simp
  · exact DrawdownGuard.sizingFactor_antitone hmax h0 h1 rfl rfl (DrawdownGuard.pct_antitone h)
  · have hlater := guard.foldl_updateEquity later
    generalize later.foldl DrawdownGuard.updateEquity guard = guard' at h hlater
    have hpct : guard'.maxDrawdownPct = guard.maxDrawdownPct := by rw [hlater]
    rw [DrawdownGuard.evaluate_eq hmax, DrawdownGuard.evaluate_eq (hpct ▸ hmax)] at h
    exact DrawdownGuard.sizingFactor_antitone hmax h0 h1 hpct (by rw [hlater]) h

theorem drawdown_guard_sound_sample :
    let guard := [120, 110].foldl DrawdownGuard.updateEquity ⟨100, 10, 1 / 2⟩
    guard.hwm = 120 ∧ (guard.sizingFactor 108 = 0 ↔ (guard.evaluate 108).2 = .halt) :=
  have h := @drawdown_guard_sound ⟨100, 10, 1 / 2⟩ (by decide +kernel) [120, 110] 108
  ⟨by decide +kernel, h.2.2.2.2.2.2.1⟩

end OxideArb.Risk
