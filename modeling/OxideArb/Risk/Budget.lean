import OxideArb.Risk.Accounting

/-!
# The daily budget

The daily window keeps what remains of its budget. `Spending` keeps the costs themselves. A new
budget below the costs cuts what the window reports as spent, and raising the budget again does
not bring the difference back.
-/

namespace OxideArb

namespace DailyAccounting

def new (budget : Usd) (now : DateTime) : DailyAccounting where
  windowStart := DateTime.dateNaive now
  stats := {}
  budgetRemaining := budget
  initialBudget := budget

@[simp] theorem fromSnapshot_budgetSpent (windowStart : NaiveDate) (stats : PeriodStats)
    (budget spent : Usd) : (fromSnapshot windowStart stats budget spent).budgetSpent = spent :=
  sub_sub_cancel budget spent

theorem setBudget_budgetSpent (d : DailyAccounting) (budget : Usd) :
    (d.setBudget budget).budgetSpent = min d.budgetSpent budget := by
  change budget - max (budget - d.budgetSpent) 0 = min d.budgetSpent budget
  rcases le_total d.budgetSpent budget with hcovered | hcut
  · rw [max_eq_left (sub_nonneg.mpr hcovered), min_eq_left hcovered, sub_sub_cancel]
  · rw [max_eq_right (sub_nonpos.mpr hcut), min_eq_right hcut, sub_zero]

theorem recordTrade_budgetSpent (d : DailyAccounting) (now : DateTime)
    (netProfit fees cost : Usd) (outcome : TradeBusinessOutcome) :
    (d.recordTrade now netProfit fees cost outcome).budgetSpent =
      (d.maybeRollover now).budgetSpent + cost := by
  unfold recordTrade budgetSpent
  ring

end DailyAccounting

/-! ## Operations on the budget -/

inductive BudgetOp
  | recordTrade (now : DateTime) (netProfit fees cost : Usd) (outcome : TradeBusinessOutcome)
  | setBudget (budget : Usd)
  | maybeRollover (now : DateTime)
deriving DecidableEq, Repr

def DailyAccounting.perform (d : DailyAccounting) : BudgetOp → DailyAccounting
  | .recordTrade now netProfit fees cost outcome => d.recordTrade now netProfit fees cost outcome
  | .setBudget budget => d.setBudget budget
  | .maybeRollover now => d.maybeRollover now

/-- The operations by themselves: the day, the budget in force, the costs since the last
rollover, and whether a budget below these costs was set since then. -/
structure Spending where
  day : NaiveDate
  budget : Usd
  costs : List Usd
  cut : Bool
deriving DecidableEq, Repr

namespace Spending

def spent (s : Spending) : Usd := s.costs.sum

def roll (s : Spending) (now : DateTime) : Spending :=
  if s.day < DateTime.dateNaive now then
    { s with day := DateTime.dateNaive now, costs := [], cut := false }
  else s

def perform (s : Spending) : BudgetOp → Spending
  | .recordTrade now _ _ cost _ => { s.roll now with costs := cost :: (s.roll now).costs }
  | .setBudget budget => { s with budget, cut := s.cut || budget < s.spent }
  | .maybeRollover now => s.roll now

theorem roll_of_lt {s : Spending} {now : DateTime} (h : s.day < DateTime.dateNaive now) :
    s.roll now = ⟨DateTime.dateNaive now, s.budget, [], false⟩ :=
  if_pos h

theorem roll_of_le {s : Spending} {now : DateTime} (h : DateTime.dateNaive now ≤ s.day) :
    s.roll now = s :=
  if_neg (not_lt.mpr h)

end Spending

/-- What the window reports of the operations. It reports the costs, or less than the costs
once these were cut. -/
structure DailyAccounting.Reports (d : DailyAccounting) (s : Spending) : Prop where
  day : d.windowStart = s.day
  budget : d.initialBudget = s.budget
  uncut : s.cut = false → d.budgetSpent = s.spent
  cut : s.cut = true → d.budgetSpent < s.spent

namespace DailyAccounting.Reports

variable {d : DailyAccounting} {s : Spending}

theorem fromSnapshot (windowStart : NaiveDate) (stats : PeriodStats) (budget spent : Usd) :
    (DailyAccounting.fromSnapshot windowStart stats budget spent).Reports
      ⟨windowStart, budget, [spent], false⟩ where
  day := rfl
  budget := rfl
  uncut := fun _ => by simp [Spending.spent]
  cut := nofun

theorem maybeRollover (h : d.Reports s) (now : DateTime) :
    (d.maybeRollover now).Reports (s.roll now) := by
  rcases lt_or_ge d.windowStart (DateTime.dateNaive now) with hroll | hkeep
  · rw [maybeRollover_of_lt hroll, Spending.roll_of_lt (h.day ▸ hroll)]
    exact ⟨rfl, h.budget, fun _ => sub_self _, nofun⟩
  · rw [maybeRollover_of_le hkeep, Spending.roll_of_le (h.day ▸ hkeep)]
    exact h

theorem recordTrade (h : d.Reports s) (now : DateTime) (netProfit fees cost : Usd)
    (outcome : TradeBusinessOutcome) :
    (d.recordTrade now netProfit fees cost outcome).Reports
      (s.perform (.recordTrade now netProfit fees cost outcome)) := by
  have hroll := h.maybeRollover now
  have hcosts : (s.perform (.recordTrade now netProfit fees cost outcome)).spent =
      (s.roll now).spent + cost := by
    simp [Spending.perform, Spending.spent, add_comm]
  refine ⟨hroll.day, hroll.budget, fun huncut => ?_, fun hcut => ?_⟩
  · rw [recordTrade_budgetSpent, hcosts, hroll.uncut huncut]
  · rw [recordTrade_budgetSpent, hcosts]
    linarith [hroll.cut hcut]

theorem setBudget (h : d.Reports s) (budget : Usd) :
    (d.setBudget budget).Reports (s.perform (.setBudget budget)) := by
  refine ⟨h.day, rfl, fun huncut => ?_, fun hcut => ?_⟩
  · obtain ⟨hbefore, hcovers⟩ := Bool.or_eq_false_iff.mp huncut
    have hle : s.spent ≤ budget := not_lt.mp (of_decide_eq_false hcovers)
    rw [setBudget_budgetSpent, h.uncut hbefore, min_eq_left hle]
    rfl
  · rw [setBudget_budgetSpent]
    change min d.budgetSpent budget < s.spent
    cases hbefore : s.cut with
    -- a cut is never undone by a budget
    | true => exact lt_of_le_of_lt (min_le_left _ _) (h.cut hbefore)
    | false =>
      have hlow : budget < s.spent := by
        have hor : (s.cut || decide (budget < s.spent)) = true := hcut
        rw [hbefore] at hor
        exact of_decide_eq_true hor
      exact lt_of_le_of_lt (min_le_right _ _) hlow

theorem perform (h : d.Reports s) (op : BudgetOp) : (d.perform op).Reports (s.perform op) := by
  cases op with
  | recordTrade now netProfit fees cost outcome =>
    exact h.recordTrade now netProfit fees cost outcome
  | setBudget budget => exact h.setBudget budget
  | maybeRollover now => exact h.maybeRollover now

theorem run (h : d.Reports s) (ops : List BudgetOp) :
    (ops.foldl DailyAccounting.perform d).Reports (ops.foldl Spending.perform s) := by
  induction ops generalizing d s with
  | nil => exact h
  | cons op ops ih => exact ih (h.perform op)

theorem budgetSpent_eq_iff (h : d.Reports s) : d.budgetSpent = s.spent ↔ s.cut = false := by
  refine ⟨fun heq => ?_, h.uncut⟩
  by_contra hcut
  have hless := h.cut (Bool.eq_true_of_not_eq_false hcut)
  exact hless.ne heq

end DailyAccounting.Reports

structure DailyAccounting.BudgetExact (d : DailyAccounting) (s : Spending) : Prop where
  spent : d.budgetSpent = s.spent
  remaining : d.budgetRemaining = max 0 (s.budget - s.spent)

theorem DailyAccounting.Reports.remaining_iff {d : DailyAccounting} {s : Spending}
    (h : d.Reports s) (hspent : d.budgetSpent = s.spent) :
    d.budgetRemaining = max 0 (s.budget - s.spent) ↔ s.spent ≤ s.budget := by
  have hremaining : d.budgetRemaining = s.budget - s.spent := by
    rw [← hspent, ← h.budget]
    exact (sub_sub_cancel d.initialBudget d.budgetRemaining).symm
  rw [hremaining, eq_comm, max_eq_right_iff, sub_nonneg]

/-- Whatever operations were performed on a window, the budget it reports is that of the
operations exactly if no budget below the costs was set since the last rollover and the
costs are within the budget. -/
theorem DailyAccounting.budgetExact_iff (windowStart : NaiveDate) (stats : PeriodStats)
    (budget spent : Usd) (ops : List BudgetOp) :
    let s := ops.foldl Spending.perform ⟨windowStart, budget, [spent], false⟩
    (ops.foldl perform (fromSnapshot windowStart stats budget spent)).BudgetExact s ↔
      s.cut = false ∧ s.spent ≤ s.budget := by
  intro s
  have h := (Reports.fromSnapshot windowStart stats budget spent).run ops
  constructor
  · intro hexact
    exact ⟨h.budgetSpent_eq_iff.mp hexact.spent, (h.remaining_iff hexact.spent).mp hexact.remaining⟩
  · rintro ⟨huncut, hwithin⟩
    have hspent := h.budgetSpent_eq_iff.mpr huncut
    exact ⟨hspent, (h.remaining_iff hspent).mpr hwithin⟩

/-- Eighty of a hundred are spent, the budget is lowered to fifty and raised to a hundred
again: fifty are reported as spent, and fifty remain. -/
theorem DailyAccounting.lowered_budget_forgets :
    let ops : List BudgetOp :=
      [.recordTrade 0 0 0 80 .success, .setBudget 50, .setBudget 100]
    let d := ops.foldl perform (new 100 0)
    let s := ops.foldl Spending.perform ⟨0, 100, [], false⟩
    s.spent = 80 ∧ s.budget = 100 ∧ d.budgetSpent = 50 ∧ d.budgetRemaining = 50 ∧
      ¬ d.BudgetExact s := by
  intro ops d s
  have hspent : s.spent = 80 := by decide +kernel
  have hreported : d.budgetSpent = 50 := by decide +kernel
  refine ⟨hspent, rfl, hreported, by decide +kernel, fun hexact => ?_⟩
  have heq := hexact.spent
  rw [hspent, hreported] at heq
  exact absurd heq (by decide)

end OxideArb
