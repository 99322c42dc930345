import OxideArb.Risk.Endings

/-!
# The accounting windows through a restart

A start dates the windows by the time of the row's write, the running engine by their own starts.
The two agree when the windows were current at the write, up to what has no column or does not
fit its column.
-/

namespace OxideArb

/-! ## Figures of a window -/

namespace PeriodStats

variable (s : PeriodStats)

def figures : Usd × Usd × Nat × Nat × Nat :=
  (s.loss, s.fees, s.tradeCount, s.successCount, s.missCount)

def Empty : Prop := s.figures = (0, 0, 0, 0, 0)

def Fits : Prop :=
  (s.tradeCount : Int) ≤ i32Max ∧ (s.successCount : Int) ≤ i32Max ∧ (s.missCount : Int) ≤ i32Max

instance (s : PeriodStats) : Decidable s.Empty := inferInstanceAs (Decidable (_ = _))

instance (s : PeriodStats) : Decidable s.Fits := inferInstanceAs (Decidable (_ ∧ _ ∧ _))

def storedCount (n : Nat) : Nat := u32OfI32 0 (i32OfU32 n)

def storedFigures : Usd × Usd × Nat × Nat × Nat :=
  (s.loss, s.fees, storedCount s.tradeCount, storedCount s.successCount, storedCount s.missCount)

theorem figures_empty : ({} : PeriodStats).figures = (0, 0, 0, 0, 0) := rfl

theorem storedCount_eq (n : Nat) : storedCount n = min n 2147483647 := by
  unfold storedCount u32OfI32 i32OfU32 i32Max
  split <;> omega

theorem storedCount_eq_self_iff {n : Nat} : storedCount n = n ↔ (n : Int) ≤ i32Max := by
  rw [storedCount_eq]
  unfold i32Max
  omega

theorem storedCount_eq_zero_iff {n : Nat} : storedCount n = 0 ↔ n = 0 := by
  rw [storedCount_eq]
  omega

theorem storedFigures_eq_iff : s.storedFigures = s.figures ↔ s.Fits := by
  simp [storedFigures, figures, Fits, storedCount_eq_self_iff]

theorem storedFigures_eq_zero_iff : s.storedFigures = (0, 0, 0, 0, 0) ↔ s.Empty := by
  simp [storedFigures, figures, Empty, storedCount_eq_zero_iff]

end PeriodStats

@[simp] theorem DailyAccounting.maybeRollover_initialBudget (d : DailyAccounting)
    (now : DateTime) : (d.maybeRollover now).initialBudget = d.initialBudget := by
  rcases lt_or_ge d.windowStart (DateTime.dateNaive now) with hroll | hkeep
  · rw [maybeRollover_of_lt hroll]
  · rw [maybeRollover_of_le hkeep]

theorem sameHour_of_le {t t' : Int} (hle : t ≤ t')
    (hstart : t' / 86400000000000 * 86400000000000 + t' / 3600000000000 % 24 * 3600000000000 ≤ t) :
    t' / 86400000000000 = t / 86400000000000 ∧
      t' / 3600000000000 % 24 = t / 3600000000000 % 24 := by
  omega

def DateTime.SameHour (t t' : DateTime) : Prop := dateNaive t' = dateNaive t ∧ hour t' = hour t

instance (t t' : DateTime) : Decidable (t.SameHour t') := inferInstanceAs (Decidable (_ ∧ _))

variable {t t' : DateTime} {h : HourlyAccounting}

theorem HourlyAccounting.shouldRollover_eq_false_iff {now : DateTime} :
    h.shouldRollover now = false ↔
      DateTime.dateNaive now = h.windowStartDate ∧ DateTime.hour now = h.windowStartHour := by
  simp [shouldRollover]

theorem HourlyAccounting.sameHour_of_open (hle : t ≤ t') (hstart : h.windowStart ≤ t)
    (hopen : h.shouldRollover t' = false) : t.SameHour t' := by
  rw [shouldRollover_eq_false_iff] at hopen
  unfold windowStart at hstart
  rw [← hopen.1, ← hopen.2] at hstart
  exact sameHour_of_le hle hstart

theorem DateTime.dateNaive_mono (h : t ≤ t') : dateNaive t ≤ dateNaive t' :=
  Int.ediv_le_ediv (by decide) h

/-! ## Stored and brought back -/

theorem DailyAccounting.restored_iff {d : DailyAccounting} (hle : t ≤ t')
    (hstart : d.windowStart ≤ DateTime.dateNaive t) {r : DailyAccounting}
    (hr : r.windowStart = DateTime.dateNaive t) (hfigures : r.stats.figures = d.stats.storedFigures)
    (hbudget : r.initialBudget = d.initialBudget) (hleft : r.budgetRemaining = d.budgetRemaining) :
    ((r.maybeRollover t').stats.figures = (d.maybeRollover t').stats.figures ∧
        (r.maybeRollover t').budgetRemaining = (d.maybeRollover t').budgetRemaining) ↔
      DateTime.dateNaive t < DateTime.dateNaive t' ∨
        (d.windowStart = DateTime.dateNaive t ∧ d.stats.Fits) ∨
        (d.windowStart < DateTime.dateNaive t ∧ d.stats.Empty ∧
          d.budgetRemaining = d.initialBudget) := by
  by_cases hday : DateTime.dateNaive t < DateTime.dateNaive t'
  · -- both windows are over
    rw [maybeRollover_of_lt (hr ▸ hday), maybeRollover_of_lt (hstart.trans_lt hday)]
    simp [hbudget, hday]
  · have hsame : DateTime.dateNaive t' = DateTime.dateNaive t :=
      le_antisymm (not_lt.mp hday) (DateTime.dateNaive_mono hle)
    rw [maybeRollover_of_le (hsame.trans hr.symm).le, hfigures, hleft]
    rcases hstart.lt_or_eq with hold | hcurrent
    · rw [maybeRollover_of_lt (hsame ▸ hold), PeriodStats.figures_empty]
      simp [hday, hold, hold.ne, PeriodStats.storedFigures_eq_zero_iff]
    · rw [maybeRollover_of_le (hsame.trans hcurrent.symm).le]
      simp [hday, hcurrent, PeriodStats.storedFigures_eq_iff]

theorem WeeklyAccounting.restored_iff {k : WeeklyAccounting} (t' : DateTime)
    (hstart : k.weekStart ≤ DateTime.dateNaive t) {r : WeeklyAccounting}
    (hr : r.weekStart = DateTime.dateNaive t)
    (hfigures : r.stats.figures =
      (k.stats.loss, 0, PeriodStats.storedCount k.stats.tradeCount, 0, 0)) :
    (r.maybeRollover t').stats.figures = (k.maybeRollover t').stats.figures ↔
      DateTime.dateNaive t < currentMonday t' ∨
        (currentMonday t' ≤ k.weekStart ∧ k.stats.fees = 0 ∧
          (k.stats.tradeCount : Int) ≤ i32Max ∧ k.stats.successCount = 0 ∧
          k.stats.missCount = 0) ∨
        (k.weekStart < currentMonday t' ∧ k.stats.loss = 0 ∧ k.stats.tradeCount = 0) := by
  by_cases hweek : DateTime.dateNaive t < currentMonday t'
  · rw [maybeRollover_of_lt (hr ▸ hweek), maybeRollover_of_lt (hstart.trans_lt hweek)]
    simp [hweek]
  · rw [maybeRollover_of_le (hr ▸ not_lt.mp hweek), hfigures]
    by_cases hold : k.weekStart < currentMonday t'
    · rw [maybeRollover_of_lt hold, PeriodStats.figures_empty]
      simp [hweek, hold, not_le.mpr hold, PeriodStats.storedCount_eq_zero_iff]
    · rw [maybeRollover_of_le (not_lt.mp hold)]
      simp [hweek, hold, not_lt.mp hold, PeriodStats.figures, PeriodStats.storedCount_eq_self_iff,
        @eq_comm Usd 0, @eq_comm Nat 0]

theorem HourlyAccounting.restored_iff (hle : t ≤ t') (hstart : h.windowStart ≤ t)
    {r : HourlyAccounting} (hdate : r.windowStartDate = DateTime.dateNaive t)
    (hhour : r.windowStartHour = DateTime.hour t)
    (hfigures : r.stats.figures = h.stats.storedFigures) :
    (r.maybeRollover t').stats.figures = (h.maybeRollover t').stats.figures ↔
      ¬ t.SameHour t' ∨
        (h.shouldRollover t = false ∧ h.stats.Fits) ∨
        (h.shouldRollover t = true ∧ h.stats.Empty) := by
  by_cases hsame : t.SameHour t'
  · have hkept : r.shouldRollover t' = false :=
      shouldRollover_eq_false_iff.mpr ⟨hsame.1.trans hdate.symm, hsame.2.trans hhour.symm⟩
    have hroll : h.shouldRollover t' = h.shouldRollover t := by
      unfold shouldRollover
      rw [hsame.1, hsame.2]
    rw [maybeRollover_of_not hkept, hfigures]
    cases hopen : h.shouldRollover t with
    | true =>
      rw [maybeRollover_of_rollover (hroll.trans hopen), PeriodStats.figures_empty]
      simp [hsame, PeriodStats.storedFigures_eq_zero_iff]
    | false =>
      rw [maybeRollover_of_not (hroll.trans hopen)]
      simp [hsame, PeriodStats.storedFigures_eq_iff]
  · -- both windows are over
    have hr : r.shouldRollover t' = true := by
      by_contra hopen
      rw [Bool.not_eq_true, shouldRollover_eq_false_iff, hdate, hhour] at hopen
      exact hsame hopen
    have hh : h.shouldRollover t' = true := by
      by_contra hopen
      exact hsame (sameHour_of_open hle hstart (Bool.not_eq_true _ ▸ hopen))
    rw [maybeRollover_of_rollover hr, maybeRollover_of_rollover hh]
    simp [hsame]

/-! ## Windows of a running engine -/

theorem PeriodStats.record_loss {s : PeriodStats} (h : 0 ≤ s.loss) (netProfit fees : Usd)
    (outcome : TradeBusinessOutcome) : 0 ≤ (s.record netProfit fees outcome).loss := by
  unfold record
  dsimp only
  split
  · exact add_nonneg h (abs_nonneg _)
  · exact h

@[simp] theorem PeriodStats.recordExtremes_tradeCount (s : PeriodStats) (netProfit : Usd) :
    (s.recordExtremes netProfit).tradeCount = s.tradeCount := by
  unfold recordExtremes
  split <;> rfl

@[simp] theorem PeriodStats.recordExtremes_loss (s : PeriodStats) (netProfit : Usd) :
    (s.recordExtremes netProfit).loss = s.loss := by
  unfold recordExtremes
  split <;> rfl

structure DailyAccounting.Regular (d : DailyAccounting) (now : DateTime) : Prop where
  start : d.windowStart ≤ DateTime.dateNaive now
  loss : 0 ≤ d.stats.loss

structure WeeklyAccounting.Regular (k : WeeklyAccounting) (now : DateTime) : Prop where
  start : k.weekStart ≤ DateTime.dateNaive now
  loss : 0 ≤ k.stats.loss

structure HourlyAccounting.Regular (h : HourlyAccounting) (now : DateTime) : Prop where
  start : h.windowStart ≤ now
  loss : 0 ≤ h.stats.loss

namespace DailyAccounting.Regular

variable {d : DailyAccounting} {now : DateTime}

theorem later (h : d.Regular now) {now' : DateTime} (hle : now ≤ now') : d.Regular now' :=
  ⟨h.start.trans (DateTime.dateNaive_mono hle), h.loss⟩

theorem maybeRollover (h : d.Regular now) : (d.maybeRollover now).Regular now := by
  rcases lt_or_ge d.windowStart (DateTime.dateNaive now) with hroll | hkeep
  · rw [maybeRollover_of_lt hroll]
    exact ⟨le_refl _, le_refl _⟩
  · rw [maybeRollover_of_le hkeep]
    exact h

theorem recordTrade (h : d.Regular now) (netProfit fees cost : Usd)
    (outcome : TradeBusinessOutcome) :
    (d.recordTrade now netProfit fees cost outcome).Regular now := by
  refine ⟨h.maybeRollover.start, ?_⟩
  unfold DailyAccounting.recordTrade
  rw [PeriodStats.recordExtremes_loss]
  exact PeriodStats.record_loss h.maybeRollover.loss netProfit fees outcome

end DailyAccounting.Regular

theorem WeeklyAccounting.currentMonday_le (now : DateTime) :
    WeeklyAccounting.currentMonday now ≤ DateTime.dateNaive now := by
  unfold WeeklyAccounting.currentMonday numDaysFromMonday
  dsimp only
  have := Int.emod_nonneg (DateTime.dateNaive now + 3) (by decide : (7 : Int) ≠ 0)
  linarith

namespace WeeklyAccounting.Regular

variable {k : WeeklyAccounting} {now : DateTime}

theorem later (h : k.Regular now) {now' : DateTime} (hle : now ≤ now') : k.Regular now' :=
  ⟨h.start.trans (DateTime.dateNaive_mono hle), h.loss⟩

theorem maybeRollover (h : k.Regular now) : (k.maybeRollover now).Regular now := by
  rcases lt_or_ge k.weekStart (WeeklyAccounting.currentMonday now) with hroll | hkeep
  · rw [maybeRollover_of_lt hroll]
    exact ⟨WeeklyAccounting.currentMonday_le now, le_refl _⟩
  · rw [maybeRollover_of_le hkeep]
    exact h

theorem recordTrade (h : k.Regular now) (netProfit fees : Usd) (outcome : TradeBusinessOutcome) :
    (k.recordTrade now netProfit fees outcome).Regular now :=
  ⟨h.maybeRollover.start, PeriodStats.record_loss h.maybeRollover.loss netProfit fees outcome⟩

end WeeklyAccounting.Regular

namespace HourlyAccounting.Regular

variable {k : HourlyAccounting} {now : DateTime}

theorem later (h : k.Regular now) {now' : DateTime} (hle : now ≤ now') : k.Regular now' :=
  ⟨h.start.trans hle, h.loss⟩

theorem hour_start (now : Int) :
    now / 86400000000000 * 86400000000000 + now / 3600000000000 % 24 * 3600000000000 ≤ now := by
  omega

theorem of_rollover (h : k.shouldRollover now = true) : (k.maybeRollover now).Regular now := by
  rw [maybeRollover_of_rollover h]
  exact ⟨hour_start now, le_refl _⟩

theorem of_open (h : k.shouldRollover now = false) (hloss : 0 ≤ k.stats.loss) :
    k.Regular now := by
  obtain ⟨hdate, hhour⟩ := shouldRollover_eq_false_iff.mp h
  refine ⟨?_, hloss⟩
  unfold windowStart
  rw [← hdate, ← hhour]
  exact hour_start now

theorem maybeRollover (h : k.Regular now) : (k.maybeRollover now).Regular now := by
  cases hroll : k.shouldRollover now with
  | true => exact of_rollover hroll
  | false =>
    rw [maybeRollover_of_not hroll]
    exact h

theorem recordTrade (h : k.Regular now) (netProfit fees : Usd) (outcome : TradeBusinessOutcome) :
    (k.recordTrade now netProfit fees outcome).Regular now := by
  refine ⟨h.maybeRollover.start, ?_⟩
  unfold HourlyAccounting.recordTrade
  rw [PeriodStats.recordExtremes_loss]
  exact PeriodStats.record_loss h.maybeRollover.loss netProfit fees outcome

end HourlyAccounting.Regular

namespace Risk

structure Engine.Regular (e : Engine) (now : DateTime) : Prop where
  daily : e.daily.Regular now
  weekly : e.weekly.Regular now
  hourly : e.hourly.Regular now
  budget : e.daily.initialBudget = e.config.dailyBudgetUsd

theorem Engine.Regular.later {e : Engine} {now now' : DateTime} (h : e.Regular now)
    (hle : now ≤ now') : e.Regular now' :=
  ⟨h.daily.later hle, h.weekly.later hle, h.hourly.later hle, h.budget⟩

theorem tradeEffects_regular {w : World} (h : w.engine.Regular w.clock)
    (phase : TradeAccountingPhase) (trade : PostTradeInput) (readings : Readings) :
    (w.tradeEffects phase trade readings).2.engine.Regular w.clock := by
  cases phase with
  | fill =>
    exact ⟨h.daily.recordTrade .., h.weekly.recordTrade .., h.hourly.recordTrade ..,
      (DailyAccounting.maybeRollover_initialBudget ..).trans h.budget⟩
  | settlement =>
    exact ⟨h.daily.recordTrade .., h.weekly.recordTrade .., h.hourly.recordTrade ..,
      (DailyAccounting.maybeRollover_initialBudget ..).trans h.budget⟩

theorem mutation_regular {w : World} (h : w.engine.Regular w.clock) (mutation : Mutation) :
    (mutation.apply w).engine.Regular w.clock := by
  cases mutation with
  | fill trade readings =>
    exact tradeEffects_regular (w := w.countTrade trade) h .fill trade readings
  | settlement trade readings => exact tradeEffects_regular h .settlement trade readings
  | _ => exact ⟨h.daily, h.weekly, h.hourly, h.budget⟩

theorem regular_step {effect : Effect} (hne : effect.isRollback = false) (a : Answer) {w : World}
    (h : w.engine.Regular w.clock) :
    (effect.apply (w.advance a)).engine.Regular (effect.apply (w.advance a)).clock := by
  have hnow : (w.advance a).engine.Regular (w.advance a).clock := h.later (le_max_left _ _)
  rw [Effect.apply_clock]
  cases effect with
  | rollback => cases hne
  | tick =>
    exact ⟨hnow.daily.maybeRollover, hnow.weekly.maybeRollover, hnow.hourly.maybeRollover,
      (DailyAccounting.maybeRollover_initialBudget ..).trans hnow.budget⟩
  | bump mutation readings =>
    obtain ⟨hdaily, hweekly, hhourly, hbudget⟩ := mutation_regular hnow mutation
    exact ⟨hdaily, hweekly, hhourly, hbudget⟩
  | reload config => exact ⟨⟨hnow.daily.start, hnow.daily.loss⟩, hnow.weekly, hnow.hourly, rfl⟩
  | execution event =>
    obtain ⟨breaker, version, snapshot, blacklist, hevent⟩ :=
      (w.advance a).engine.onExecutionEvent_frame (w.advance a).clock event
    change ((w.advance a).engine.onExecutionEvent (w.advance a).clock event).Regular _
    rw [hevent]
    exact ⟨hnow.daily, hnow.weekly, hnow.hourly, hnow.budget⟩
  | commit trade p => simpa [Effect.apply] using hnow
  | resolve id => simpa [Effect.apply] using hnow
  | updateDebounced readings => simpa [Effect.apply] using hnow
  | _ => exact ⟨hnow.daily, hnow.weekly, hnow.hourly, hnow.budget⟩

structure World.WindowsStored (w : World) : Prop where
  decodes : w.db.row.Decodes
  accounting : w.engine.AccountingIn w.db.row
  regular : w.engine.Regular w.db.row.snapshotAt

theorem windows_endings (written : List Nat) :
    Endings (fun w => w.written = written) (fun w => w.engine.Regular w.clock)
      (fun w => w.written = written ∨ w.WindowsStored) (fun w => w.engine.Regular w.clock) where
  idle := fun _ _ h => h
  tick := fun _ h => h
  setBlacklist := fun _ _ h => h
  begun := fun _ h => .inl h
  wait := fun _ _ h => h.imp_right fun hs => ⟨hs.decodes, hs.accounting, hs.regular⟩
  emergency := fun _ _ h => h.imp_right fun hs =>
    ⟨hs.decodes, hs.accounting, hs.regular.daily, hs.regular.weekly, hs.regular.hourly,
      hs.regular.budget⟩
  step := fun _ a _ hne h => regular_step hne a h
  stored := fun w h hs => .inr ⟨hs.decodes, hs.accounting, hs.time ▸ h⟩
  stale := fun _ _ _ _ h _ => .inl h
  returned := fun _ h _ => h
  failed := fun _ _ h => ⟨h.daily, h.weekly, h.hourly, h.budget⟩
  rolledBack := by
    intro w w' reason h hle hconfig
    have hbudget : w.engine.daily.initialBudget = w'.engine.config.dailyBudgetUsd := by
      rw [hconfig]
      exact h.budget
    exact ⟨h.daily.later hle, h.weekly.later hle, h.hourly.later hle, hbudget⟩

/-! ## Histories -/

theorem perform_regular {w : World} (h : w.engine.Regular w.clock) (step : Call × List Answer) :
    (w.perform step).engine.Regular (w.perform step).clock := by
  obtain ⟨c, answers⟩ := step
  by_cases hc : c.stores = true
  · have hcall := (windows_endings w.written).call hc
    exact Routine.spec_exec ((hcall.pre fun v hv => hv).post (fun _ _ hv => hv.1) fun _ _ hv => hv)
      answers ⟨h, rfl⟩
  · refine perform_invariant (I := fun v => v.engine.Regular v.clock) ?_ answers h
    intro effect a v hof hv
    refine regular_step ?_ a hv
    cases effect with
    | rollback image reason =>
      obtain ⟨trade, rfl⟩ := hof
      exact absurd rfl hc
    | _ => rfl

theorem history_regular {w : World} (h : w.engine.Regular w.clock)
    (history : List (Call × List Answer)) :
    (history.foldl World.perform w).engine.Regular (history.foldl World.perform w).clock :=
  List.foldlRecOn history World.perform (motive := fun w => w.engine.Regular w.clock) h
    fun _ h step _ => perform_regular h step

namespace Boot

variable {boot : Boot} {db : Database}

theorem recoveryError_eq_none_iff {row : EngineState} {ledger : Ledger} :
    boot.recoveryError row ledger = none ↔
      DateTime.dateNaive row.snapshotAt ≤ DateTime.dateNaive boot.now ∧
        (0 ≤ row.dailyLossUsd ∧ 0 ≤ row.weeklyLossUsd ∧ 0 ≤ row.hourlyLossUsd) ∧
        ledger.activeCount ≤ boot.openPositions := by
  unfold recoveryError
  dsimp only
  by_cases hdate : DateTime.dateNaive boot.now < DateTime.dateNaive row.snapshotAt
  · simp [hdate, not_le.mpr hdate]
  by_cases hdaily : row.dailyLossUsd < 0
  · simp [hdate, hdaily, not_le.mpr hdaily]
  by_cases hweekly : row.weeklyLossUsd < 0
  · simp [hdate, hdaily, hweekly, not_le.mpr hweekly]
  by_cases hhourly : row.hourlyLossUsd < 0
  · simp [hdate, hdaily, hweekly, hhourly, not_le.mpr hhourly]
  simp only [if_neg hdate, if_neg hdaily, if_neg hweekly, if_neg hhourly, not_lt.mp hdate,
    not_lt.mp hdaily, not_lt.mp hweekly, not_lt.mp hhourly, true_and]
  by_cases hactive : ledger.activeCount ≤ boot.openPositions
  · have hpositions : ¬ (0 < ledger.activeCount ∧ boot.openPositions = 0) := by omega
    simp [hactive, hpositions]
  · simp only [if_pos (not_le.mp hactive), hactive, iff_false]
    split <;> exact Option.some_ne_none _

theorem restart_regular {e : Engine} (h : boot.restart db = .ok e) : e.Regular boot.now := by
  obtain ⟨breaker, -, hchecks, rfl⟩ := restart_ok_iff.mp h
  obtain ⟨hdate, ⟨hdaily, hweekly, hhourly⟩, -⟩ := recoveryError_eq_none_iff.mp hchecks
  have hday : (db.row.daily boot.config.dailyBudgetUsd).Regular boot.now := ⟨hdate, hdaily⟩
  have hweek : db.row.weekly.Regular boot.now := ⟨hdate, hweekly⟩
  refine ⟨hday.maybeRollover, hweek.maybeRollover, ?_, ?_⟩
  · -- a row written later this day comes back with a new window unless it is of this hour
    change (db.row.hourly.maybeRollover boot.now).Regular boot.now
    cases hroll : db.row.hourly.shouldRollover boot.now with
    | true => exact HourlyAccounting.Regular.of_rollover hroll
    | false =>
      rw [HourlyAccounting.maybeRollover_of_not hroll]
      exact HourlyAccounting.Regular.of_open hroll hhourly
  · exact DailyAccounting.maybeRollover_initialBudget ..

end Boot

/-! ## The row of an engine -/

namespace Engine.AccountingIn

variable {e : Engine} {row : EngineState}

theorem daily_figures (h : e.AccountingIn row) (budget : Usd) :
    (row.daily budget).stats.figures = e.daily.stats.storedFigures := by
  unfold EngineState.daily
  rw [h]
  rfl

theorem daily_budgetRemaining (h : e.AccountingIn row) :
    (row.daily e.daily.initialBudget).budgetRemaining = e.daily.budgetRemaining := by
  unfold EngineState.daily
  rw [h]
  exact sub_sub_cancel _ _

theorem weekly_figures (h : e.AccountingIn row) :
    row.weekly.stats.figures =
      (e.weekly.stats.loss, 0, PeriodStats.storedCount e.weekly.stats.tradeCount, 0, 0) := by
  unfold EngineState.weekly
  rw [h]
  rfl

theorem hourly_figures (h : e.AccountingIn row) :
    row.hourly.stats.figures = e.hourly.stats.storedFigures := by
  unfold EngineState.hourly
  rw [h]
  rfl

theorem losses (h : e.AccountingIn row) :
    row.dailyLossUsd = e.daily.stats.loss ∧ row.weeklyLossUsd = e.weekly.stats.loss ∧
      row.hourlyLossUsd = e.hourly.stats.loss := by
  rw [h]
  exact ⟨rfl, rfl, rfl⟩

end Engine.AccountingIn

/-- The restarted engine shows the windows of `e` after its own rollovers. -/
structure SameWindows (restarted e : Engine) (now : DateTime) : Prop where
  daily : restarted.daily.stats.figures = (e.daily.maybeRollover now).stats.figures ∧
    restarted.daily.budgetRemaining = (e.daily.maybeRollover now).budgetRemaining
  weekly : restarted.weekly.stats.figures = (e.weekly.maybeRollover now).stats.figures
  hourly : restarted.hourly.stats.figures = (e.hourly.maybeRollover now).stats.figures

/-- Each window is over at `now`, was current when it was written at `written` and lost nothing
to its columns, or was out of date with nothing in it. -/
structure Engine.WindowsCurrent (e : Engine) (written now : DateTime) : Prop where
  daily : DateTime.dateNaive written < DateTime.dateNaive now ∨
    (e.daily.windowStart = DateTime.dateNaive written ∧ e.daily.stats.Fits) ∨
    (e.daily.windowStart < DateTime.dateNaive written ∧ e.daily.stats.Empty ∧
      e.daily.budgetRemaining = e.daily.initialBudget)
  weekly : DateTime.dateNaive written < WeeklyAccounting.currentMonday now ∨
    (WeeklyAccounting.currentMonday now ≤ e.weekly.weekStart ∧ e.weekly.stats.fees = 0 ∧
      (e.weekly.stats.tradeCount : Int) ≤ i32Max ∧ e.weekly.stats.successCount = 0 ∧
      e.weekly.stats.missCount = 0) ∨
    (e.weekly.weekStart < WeeklyAccounting.currentMonday now ∧ e.weekly.stats.loss = 0 ∧
      e.weekly.stats.tradeCount = 0)
  hourly : ¬ written.SameHour now ∨
    (e.hourly.shouldRollover written = false ∧ e.hourly.stats.Fits) ∨
    (e.hourly.shouldRollover written = true ∧ e.hourly.stats.Empty)

instance (e : Engine) (written now : DateTime) : Decidable (e.WindowsCurrent written now) :=
  decidable_of_iff (_ ∧ _ ∧ _)
    ⟨fun h => ⟨h.1, h.2.1, h.2.2⟩, fun h => ⟨h.daily, h.weekly, h.hourly⟩⟩

namespace World.WindowsStored

variable {w : World} {boot : Boot}

theorem restart_iff (h : w.WindowsStored) (hnow : w.db.row.snapshotAt ≤ boot.now) :
    (∃ e, boot.restart w.db = .ok e) ↔
      (Ledger.fromEntries w.db.findActive).activeCount ≤ boot.openPositions := by
  obtain ⟨breaker, hbreaker⟩ := h.decodes boot.config.circuitBreaker
  obtain ⟨hdaily, hweekly, hhourly⟩ := h.accounting.losses
  have hchecks : boot.recoveryError w.db.row (.fromEntries w.db.findActive) = none ↔
      (Ledger.fromEntries w.db.findActive).activeCount ≤ boot.openPositions := by
    rw [Boot.recoveryError_eq_none_iff, hdaily, hweekly, hhourly]
    exact ⟨fun hall => hall.2.2, fun hactive => ⟨DateTime.dateNaive_mono hnow,
      ⟨h.regular.daily.loss, h.regular.weekly.loss, h.regular.hourly.loss⟩, hactive⟩⟩
  rw [← hchecks]
  constructor
  · rintro ⟨e, he⟩
    obtain ⟨-, -, hnone, -⟩ := Boot.restart_ok_iff.mp he
    exact hnone
  · intro hnone
    exact ⟨_, Boot.restart_ok_iff.mpr ⟨breaker, hbreaker, hnone, rfl⟩⟩

theorem sameWindows_iff (h : w.WindowsStored) (hnow : w.db.row.snapshotAt ≤ boot.now)
    (hbudget : boot.config.dailyBudgetUsd = w.engine.config.dailyBudgetUsd) {e : Engine}
    (he : boot.restart w.db = .ok e) :
    SameWindows e w.engine boot.now ↔
      w.engine.WindowsCurrent w.db.row.snapshotAt boot.now := by
  obtain ⟨breaker, -, -, rfl⟩ := Boot.restart_ok_iff.mp he
  have hinitial : boot.config.dailyBudgetUsd = w.engine.daily.initialBudget :=
    hbudget.trans h.regular.budget.symm
  have hdaily := DailyAccounting.restored_iff hnow h.regular.daily.start
    (r := w.db.row.daily boot.config.dailyBudgetUsd) rfl (h.accounting.daily_figures _) hinitial
    (by rw [hinitial]; exact h.accounting.daily_budgetRemaining)
  have hweekly := WeeklyAccounting.restored_iff boot.now h.regular.weekly.start
    (r := w.db.row.weekly) rfl h.accounting.weekly_figures
  have hhourly := HourlyAccounting.restored_iff hnow h.regular.hourly.start
    (r := w.db.row.hourly) rfl rfl h.accounting.hourly_figures
  constructor
  · intro hsame
    exact ⟨hdaily.mp hsame.daily, hweekly.mp hsame.weekly, hhourly.mp hsame.hourly⟩
  · intro hcurrent
    exact ⟨hdaily.mpr hcurrent.daily, hweekly.mpr hcurrent.weekly, hhourly.mpr hcurrent.hourly⟩

end World.WindowsStored

end Risk

end OxideArb
