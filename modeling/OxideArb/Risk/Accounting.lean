import OxideArb.Types.Basic

/-!
# Accounting windows

Daily, weekly and hourly accounting. A window starts over when a trade is recorded after the
clock has left it. Dates count days from the epoch: day `0` is a Thursday.
-/

namespace OxideArb

abbrev NaiveDate := Int

namespace DateTime

def dateNaive (t : DateTime) : NaiveDate := t / 86400000000000

def hour (t : DateTime) : Int := t / 3600000000000 % 24

end DateTime

def numDaysFromMonday (day : NaiveDate) : Int := (day + 3) % 7

structure PeriodStats where
  loss : Usd := 0
  fees : Usd := 0
  pnl : Usd := 0
  tradeCount : Nat := 0
  successCount : Nat := 0
  missCount : Nat := 0
  maxSingleLoss : Usd := 0
  maxSingleProfit : Usd := 0
deriving DecidableEq, Repr

namespace PeriodStats

variable (s : PeriodStats) (netProfit : Usd)

def record (fees : Usd) (outcome : TradeBusinessOutcome) : PeriodStats :=
  { s with
    tradeCount := s.tradeCount + 1
    pnl := s.pnl + netProfit
    fees := s.fees + fees
    successCount := if outcome = .success then s.successCount + 1 else s.successCount
    missCount := if outcome = .miss then s.missCount + 1 else s.missCount
    loss := if netProfit < 0 then s.loss + |netProfit| else s.loss }

def recordExtremes : PeriodStats :=
  if netProfit < 0 then { s with maxSingleLoss := max s.maxSingleLoss |netProfit| }
  else { s with maxSingleProfit := max s.maxSingleProfit netProfit }

@[simp] theorem record_pnl (fees : Usd) (outcome : TradeBusinessOutcome) :
    (s.record netProfit fees outcome).pnl = s.pnl + netProfit :=
  rfl

@[simp] theorem recordExtremes_pnl : (s.recordExtremes netProfit).pnl = s.pnl := by
  unfold recordExtremes
  split <;> rfl

end PeriodStats

/-! ## Daily -/

structure DailyAccounting where
  windowStart : NaiveDate
  stats : PeriodStats
  budgetRemaining : Usd
  initialBudget : Usd
deriving DecidableEq, Repr

namespace DailyAccounting

def fromSnapshot (windowStart : NaiveDate) (stats : PeriodStats) (budget spent : Usd) :
    DailyAccounting :=
  { windowStart, stats, budgetRemaining := budget - spent, initialBudget := budget }

variable (d : DailyAccounting)

def maybeRollover (now : DateTime) : DailyAccounting :=
  let today := DateTime.dateNaive now
  if d.windowStart < today then
    { d with windowStart := today, stats := {}, budgetRemaining := d.initialBudget }
  else d

theorem maybeRollover_of_lt {d : DailyAccounting} {now : DateTime}
    (h : d.windowStart < DateTime.dateNaive now) :
    d.maybeRollover now =
      { windowStart := DateTime.dateNaive now, stats := {}, budgetRemaining := d.initialBudget
        initialBudget := d.initialBudget } :=
  if_pos h

theorem maybeRollover_of_le {d : DailyAccounting} {now : DateTime}
    (h : DateTime.dateNaive now ≤ d.windowStart) : d.maybeRollover now = d :=
  if_neg (not_lt.mpr h)

def recordTrade (now : DateTime) (netProfit fees cost : Usd) (outcome : TradeBusinessOutcome) :
    DailyAccounting :=
  let d := d.maybeRollover now
  { d with
    stats := (d.stats.record netProfit fees outcome).recordExtremes netProfit
    budgetRemaining := d.budgetRemaining - cost }

def budgetSpent : Usd := d.initialBudget - d.budgetRemaining

/-- What was spent today is kept, up to the new budget. -/
def setBudget (budget : Usd) : DailyAccounting :=
  { d with initialBudget := budget, budgetRemaining := max (budget - d.budgetSpent) 0 }

end DailyAccounting

/-! ## Weekly -/

structure WeeklyAccounting where
  weekStart : NaiveDate
  stats : PeriodStats
deriving DecidableEq, Repr

namespace WeeklyAccounting

def currentMonday (now : DateTime) : NaiveDate :=
  let today := DateTime.dateNaive now
  today - numDaysFromMonday today

def maybeRollover (k : WeeklyAccounting) (now : DateTime) : WeeklyAccounting :=
  let monday := currentMonday now
  if k.weekStart < monday then { weekStart := monday, stats := {} } else k

theorem maybeRollover_of_lt {k : WeeklyAccounting} {now : DateTime}
    (h : k.weekStart < currentMonday now) :
    k.maybeRollover now = { weekStart := currentMonday now, stats := {} } :=
  if_pos h

theorem maybeRollover_of_le {k : WeeklyAccounting} {now : DateTime}
    (h : currentMonday now ≤ k.weekStart) : k.maybeRollover now = k :=
  if_neg (not_lt.mpr h)

/-- `record_trade`. The weekly window keeps no extremes. -/
def recordTrade (k : WeeklyAccounting) (now : DateTime) (netProfit fees : Usd)
    (outcome : TradeBusinessOutcome) : WeeklyAccounting :=
  let k := k.maybeRollover now
  { k with stats := k.stats.record netProfit fees outcome }

end WeeklyAccounting

/-! ## Hourly -/

structure HourlyAccounting where
  windowStartHour : Int
  windowStartDate : NaiveDate
  stats : PeriodStats
deriving DecidableEq, Repr

namespace HourlyAccounting

variable (h : HourlyAccounting) (now : DateTime)

def windowStart : DateTime :=
  h.windowStartDate * 86400000000000 + h.windowStartHour * 3600000000000

def shouldRollover : Bool :=
  DateTime.dateNaive now ≠ h.windowStartDate || DateTime.hour now ≠ h.windowStartHour

def maybeRollover : HourlyAccounting :=
  if h.shouldRollover now then
    { windowStartHour := DateTime.hour now, windowStartDate := DateTime.dateNaive now, stats := {} }
  else h

theorem maybeRollover_of_rollover {h : HourlyAccounting} {now : DateTime}
    (hroll : h.shouldRollover now = true) :
    h.maybeRollover now =
      { windowStartHour := DateTime.hour now, windowStartDate := DateTime.dateNaive now
        stats := {} } :=
  if_pos hroll

theorem maybeRollover_of_not {h : HourlyAccounting} {now : DateTime}
    (hroll : h.shouldRollover now = false) : h.maybeRollover now = h :=
  if_neg (Bool.eq_false_iff.mp hroll)

def recordTrade (netProfit fees : Usd) (outcome : TradeBusinessOutcome) : HourlyAccounting :=
  let h := h.maybeRollover now
  { h with stats := (h.stats.record netProfit fees outcome).recordExtremes netProfit }

end HourlyAccounting

/-! ## A recorded profit counts once in its window -/

theorem DailyAccounting.recordTrade_pnl (d : DailyAccounting) (now : DateTime)
    (netProfit fees cost : Usd) (outcome : TradeBusinessOutcome) :
    (d.recordTrade now netProfit fees cost outcome).stats.pnl =
      (d.maybeRollover now).stats.pnl + netProfit := by
  simp [recordTrade]

theorem WeeklyAccounting.recordTrade_pnl (k : WeeklyAccounting) (now : DateTime)
    (netProfit fees : Usd) (outcome : TradeBusinessOutcome) :
    (k.recordTrade now netProfit fees outcome).stats.pnl =
      (k.maybeRollover now).stats.pnl + netProfit := by
  simp [recordTrade]

theorem HourlyAccounting.recordTrade_pnl (h : HourlyAccounting) (now : DateTime)
    (netProfit fees : Usd) (outcome : TradeBusinessOutcome) :
    (h.recordTrade now netProfit fees outcome).stats.pnl =
      (h.maybeRollover now).stats.pnl + netProfit := by
  simp [recordTrade]

end OxideArb
