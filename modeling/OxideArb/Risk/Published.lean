import OxideArb.Lib.Transition
import OxideArb.Risk.Recovery

/-!
# The published snapshot

The hot path reads a copy of the engine's state. Every operation publishes what it has changed,
except a tick whose lookup of stale entries fails; that does no harm if the tick had nothing to
change (`Engine.TickQuiet`).
-/

namespace OxideArb.Risk

/-- The published values are those of the locked state. -/
def Engine.Published (e : Engine) : Prop := e.riskSnapshot = e.compileRiskSnapshot

instance (e : Engine) : Decidable e.Published :=
  inferInstanceAs (Decidable (e.riskSnapshot = e.compileRiskSnapshot))

variable {e : Engine} {w : World} {b : CircuitBreaker} {now : DateTime} {report : TickReport}
  {answers : List Answer}

theorem Boot.restart_published {boot : Boot} {db : Database} (h : boot.restart db = .ok e) :
    e.Published := by
  obtain ⟨breaker, -, -, rfl⟩ := restart_ok_iff.mp h
  rfl

/-! ## All steps but one -/

/-- The engine has published, or neither the copy nor what it is a copy of has changed. -/
def Engine.PublishesFrom (e e' : Engine) : Prop :=
  e'.Published ∨ e'.riskSnapshot = e.riskSnapshot ∧ e'.compileRiskSnapshot = e.compileRiskSnapshot

theorem Engine.PublishesFrom.published {e' : Engine} (h : e.PublishesFrom e') (he : e.Published) :
    e'.Published := by
  obtain hnew | ⟨hcopy, hstate⟩ := h
  · exact hnew
  · unfold Engine.Published
    rw [hcopy, hstate]
    exact he

theorem Engine.onExecutionEvent_publishes (e : Engine) (now : DateTime)
    (event : ExecutionRiskEvent) : e.PublishesFrom (e.onExecutionEvent now event) := by
  cases event with
  | heartbeatFailure =>
    unfold Engine.onExecutionEvent CircuitBreaker.onHeartbeatFailure
    dsimp only
    split
    · exact .inl rfl
    · exact .inr ⟨rfl, rfl⟩
  | heartbeatSuccess => exact .inr ⟨rfl, rfl⟩
  | fokFailure marketId tokenId consecutive =>
    unfold Engine.onExecutionEvent
    dsimp only
    split
    · exact .inl rfl
    · exact .inr ⟨rfl, rfl⟩
  | tradeFailed => exact .inr ⟨rfl, rfl⟩
  | depthDrop => exact .inr ⟨rfl, rfl⟩

theorem step_publishes {effect : Effect} (hne : effect ≠ .tick) (w : World) :
    w.engine.PublishesFrom (effect.apply w).engine := by
  cases effect with
  | tick => exact absurd rfl hne
  | execution event => exact w.engine.onExecutionEvent_publishes _ event
  | idle => exact .inr ⟨rfl, rfl⟩
  | recordEmergency => exact .inr ⟨rfl, rfl⟩
  | setBlacklist => exact .inr ⟨rfl, rfl⟩
  | discard => exact .inr ⟨rfl, rfl⟩
  | takeDebounced => exact .inr ⟨rfl, rfl⟩
  | write => exact .inr ⟨rfl, rfl⟩
  | commit => exact .inr (by simp [Effect.apply])
  | resolve => exact .inr (by simp [Effect.apply])
  | updateDebounced => exact .inr (by simp [Effect.apply])
  | failClosed => exact .inl rfl
  | rollback => exact .inl rfl
  | haltStale => exact .inl rfl
  | halt => exact .inl rfl
  | acknowledge => exact .inl rfl
  | reload => exact .inl rfl
  | publish => exact .inl rfl
  | bump => exact .inl rfl

theorem perform_published {c : Call} (hc : c ≠ .tick) (answers : List Answer)
    (h : w.engine.Published) : (w.perform (c, answers)).engine.Published := by
  refine perform_invariant (I := fun w => w.engine.Published) ?_ answers h
  intro effect a w hof hw
  have hne : effect ≠ .tick := by
    rintro rfl
    exact hc hof
  exact (step_publishes hne (w.advance a)).published hw

/-! ## The tick -/

def BreakerState.dueAt : BreakerState → Option DateTime
  | .opened _ _ _ cooldownUntil => some cooldownUntil
  | .recovered _ observationUntil => some observationUntil
  | _ => none

/-- A tick at this time changes nothing that is published: the breaker is not due, and every
window is current or has nothing in it. -/
structure Engine.TickQuiet (e : Engine) (now : DateTime) : Prop where
  breaker : ∀ due ∈ e.circuitBreaker.state.dueAt, now < due
  daily : DateTime.dateNaive now ≤ e.daily.windowStart ∨
    e.daily.stats.loss = 0 ∧ e.daily.stats.fees = 0 ∧ e.daily.stats.pnl = 0 ∧
      e.daily.budgetRemaining = e.daily.initialBudget
  weekly : WeeklyAccounting.currentMonday now ≤ e.weekly.weekStart ∨ e.weekly.stats.loss = 0
  hourly : e.hourly.shouldRollover now = false ∨
    e.hourly.stats.loss = 0 ∧ e.hourly.stats.fees = 0

theorem CircuitBreaker.tick_of_not_due (h : ∀ due ∈ b.state.dueAt, now < due) :
    b.tick now = (false, b) := by
  unfold CircuitBreaker.tick
  cases hs : b.state with
  | opened level reason at_ cooldownUntil =>
    rw [hs] at h
    simp [not_le.mpr (h cooldownUntil rfl)]
  | recovered at_ observationUntil =>
    rw [hs] at h
    simp [not_le.mpr (h observationUntil rfl)]
  | closed => rfl
  | halfOpen => rfl
  | halted => rfl

theorem CircuitBreaker.tick_of_due {due : DateTime} (hdue : due ∈ b.state.dueAt) (h : due ≤ now) :
    (b.tick now).1 = true ∧ b.state.allowsTrading = false ∧
      (b.tick now).2.state.allowsTrading = true := by
  unfold CircuitBreaker.tick
  cases hs : b.state with
  | opened level reason at_ cooldownUntil =>
    rw [hs] at hdue
    cases hdue
    simp [h, BreakerState.allowsTrading]
  | recovered at_ observationUntil =>
    rw [hs] at hdue
    cases hdue
    simp [h, BreakerState.allowsTrading]
  | closed => rw [hs] at hdue; cases hdue
  | halfOpen => rw [hs] at hdue; cases hdue
  | halted => rw [hs] at hdue; cases hdue

theorem daily_rollover_same_iff (d : DailyAccounting) (now : DateTime) :
    ((d.maybeRollover now).stats.loss = d.stats.loss ∧
      (d.maybeRollover now).stats.fees = d.stats.fees ∧
      (d.maybeRollover now).stats.pnl = d.stats.pnl ∧
      (d.maybeRollover now).budgetRemaining = d.budgetRemaining) ↔
    (DateTime.dateNaive now ≤ d.windowStart ∨
      d.stats.loss = 0 ∧ d.stats.fees = 0 ∧ d.stats.pnl = 0 ∧
        d.budgetRemaining = d.initialBudget) := by
  rcases lt_or_ge d.windowStart (DateTime.dateNaive now) with hroll | hkeep
  · rw [DailyAccounting.maybeRollover_of_lt hroll, or_iff_right (not_le.mpr hroll)]
    exact ⟨fun ⟨h1, h2, h3, h4⟩ => ⟨h1.symm, h2.symm, h3.symm, h4.symm⟩,
      fun ⟨h1, h2, h3, h4⟩ => ⟨h1.symm, h2.symm, h3.symm, h4.symm⟩⟩
  · simp [DailyAccounting.maybeRollover_of_le hkeep, hkeep]

theorem weekly_rollover_same_iff (k : WeeklyAccounting) (now : DateTime) :
    (k.maybeRollover now).stats.loss = k.stats.loss ↔
      (WeeklyAccounting.currentMonday now ≤ k.weekStart ∨ k.stats.loss = 0) := by
  rcases lt_or_ge k.weekStart (WeeklyAccounting.currentMonday now) with hroll | hkeep
  · rw [WeeklyAccounting.maybeRollover_of_lt hroll, or_iff_right (not_le.mpr hroll)]
    exact eq_comm
  · simp [WeeklyAccounting.maybeRollover_of_le hkeep, hkeep]

theorem hourly_rollover_same_iff (h : HourlyAccounting) (now : DateTime) :
    ((h.maybeRollover now).stats.loss = h.stats.loss ∧
      (h.maybeRollover now).stats.fees = h.stats.fees) ↔
    (h.shouldRollover now = false ∨ h.stats.loss = 0 ∧ h.stats.fees = 0) := by
  cases hroll : h.shouldRollover now with
  | true =>
    rw [HourlyAccounting.maybeRollover_of_rollover hroll]
    simp only [Bool.true_eq_false, false_or]
    exact and_congr eq_comm eq_comm
  | false => simp [HourlyAccounting.maybeRollover_of_not hroll]

theorem Engine.compile_tick_iff (e : Engine) (now : DateTime) :
    (e.tick now).compileRiskSnapshot = e.compileRiskSnapshot ↔ e.TickQuiet now := by
  constructor
  · intro h
    have hbreaker : ∀ due ∈ e.circuitBreaker.state.dueAt, now < due := by
      intro due hdue
      by_contra hlate
      obtain ⟨-, hbefore, hafter⟩ := CircuitBreaker.tick_of_due hdue (not_lt.mp hlate)
      have hgate := congrArg (fun snap : RiskSnapshot => snap.circuitBreaker.allowsTrading) h
      have hcontra := hafter.symm.trans (hgate.trans hbefore)
      cases hcontra
    exact
      { breaker := hbreaker
        daily := (daily_rollover_same_iff e.daily now).mp
          ⟨congrArg RiskSnapshot.dailyLoss h, congrArg RiskSnapshot.dailyFee h,
            congrArg RiskSnapshot.dailyPnl h, congrArg RiskSnapshot.dailyBudgetRemaining h⟩
        weekly := (weekly_rollover_same_iff e.weekly now).mp (congrArg RiskSnapshot.weeklyLoss h)
        hourly := (hourly_rollover_same_iff e.hourly now).mp
          ⟨congrArg RiskSnapshot.hourlyLoss h, congrArg RiskSnapshot.hourlyFee h⟩ }
  · intro h
    obtain ⟨hloss, hfee, hpnl, hbudget⟩ := (daily_rollover_same_iff e.daily now).mpr h.daily
    have hweekly := (weekly_rollover_same_iff e.weekly now).mpr h.weekly
    obtain ⟨hhourly, hhourlyFee⟩ := (hourly_rollover_same_iff e.hourly now).mpr h.hourly
    unfold compileRiskSnapshot Engine.tick
    simp only [CircuitBreaker.tick_of_not_due h.breaker, hloss, hfee, hpnl, hbudget, hweekly,
      hhourly, hhourlyFee]

theorem Engine.tickQuiet_of_not_anyChange (h : (e.tickReport now).anyChange = false) :
    e.TickQuiet now := by
  simp only [TickReport.anyChange, Engine.tickReport, Bool.or_eq_false_iff,
    decide_eq_false_iff_not, not_lt] at h
  obtain ⟨⟨⟨hmoved, hdaily⟩, hweekly⟩, hhourly⟩ := h
  refine ⟨fun due hdue => ?_, .inl hdaily, .inl hweekly, .inl hhourly⟩
  by_contra hlate
  have hmoves := (CircuitBreaker.tick_of_due hdue (not_lt.mp hlate)).1
  rw [hmoved] at hmoves
  cases hmoves

/-! ## Ticks of a history -/

def sectionAnswer (answers : List Answer) : Answer := answers.headD default

def lookupAnswer (answers : List Answer) : Answer := answers.tail.headD default

/-- The call is no tick, or a tick whose lookup succeeds, or a quiet one. -/
def PublishesAll (w : World) (step : Call × List Answer) : Prop :=
  step.1 = .tick → (lookupAnswer step.2).fault = .none ∨
    w.engine.TickQuiet (w.advance (sectionAnswer step.2)).clock

theorem common_ne_tick : Common (· ≠ Effect.tick) where
  idle := nofun
  failClosed := fun _ => nofun
  recordEmergency := fun _ => nofun
  write := fun _ => nofun
  discard := fun _ => nofun

theorem spec_published {α : Type} {t : Op α} (ht : t.Within (StepIn (· ≠ Effect.tick))) :
    Prog.Spec t.toProg (fun w => w.engine.Published) (fun _ w => w.engine.Published)
      (fun _ w => w.engine.Published) := by
  refine ht.spec ?_
  rintro a w _ hw ⟨effect, hne, rfl⟩
  exact (step_publishes hne (w.advance a)).published hw

theorem persistTick_spec (report : TickReport) :
    Prog.Spec (persistTick report).toProg
      (fun w => report.anyChange = true ∨ w.engine.Published) (fun _ w => w.engine.Published)
      (fun _ w => w.engine.Published) := by
  unfold persistTick
  split
  next =>
    rw [Routine.toProg_bind]
    refine Prog.Spec.bind (R := fun _ w => w.engine.Published)
      (Routine.spec_atomically fun _ _ _ => rfl) fun p => ?_
    refine spec_published (Routine.within_bind (upsertState_within common_ne_tick p) ?_)
    exact fun r => orHalt_within common_ne_tick.toQuiet _ r
  next hnone => exact Prog.Spec.pure fun w h => h.resolve_left hnone

theorem finishTick_spec (report : TickReport) :
    Prog.Spec (finishTick report).toProg
      (fun w => report.anyChange = true ∨ w.engine.Published) (fun _ w => w.engine.Published)
      (fun _ w => w.engine.Published) := by
  unfold finishTick
  rw [Routine.toProg_bind]
  refine Prog.Spec.bind (persistTick_spec report) fun _ => spec_published ?_
  refine Routine.within_bind (recordIf_within common_ne_tick.toQuiet _) fun _ => ?_
  refine Routine.within_bind (recordIf_within common_ne_tick.toQuiet _) fun _ => ?_
  refine Routine.within_bind (recordIf_within common_ne_tick.toQuiet _) fun _ => ?_
  exact recordIf_within common_ne_tick.toQuiet _

theorem escalateStale_spec (count secs : Nat) :
    Prog.Spec (escalateStale count secs).toProg (fun _ => True) (fun _ w => w.engine.Published)
      (fun _ w => w.engine.Published) := by
  unfold escalateStale
  rw [Routine.toProg_bind]
  refine Prog.Spec.bind (R := fun _ w => w.engine.Published)
    (Routine.spec_atomically fun _ _ _ => rfl) fun _ => ?_
  refine spec_published (Routine.within_bind (record_within common_ne_tick.toQuiet) fun r => ?_)
  cases r with
  | error e => exact Routine.within_throw e
  | ok => exact Routine.within_pure ()

theorem afterTick_published (hfault : (answers.headD default).fault = .none)
    (h : report.anyChange = true ∨ w.engine.Published) :
    ((afterTick report).exec answers w).engine.Published := by
  unfold afterTick findStale call
  rw [Routine.exec_atomically_bind]
  simp only [hfault, Fault.apply]
  cases (w.advance (answers.headD default)).staleCount report.escalationSecs with
  | zero => exact Routine.spec_exec (finishTick_spec report) answers.tail h
  | succ n => exact Routine.spec_exec (escalateStale_spec (n + 1) _) answers.tail trivial

theorem afterTick_failed (hfault : (answers.headD default).fault ≠ .none) :
    (afterTick report).exec answers w = w.advance (answers.headD default) := by
  unfold afterTick findStale call
  rw [Routine.exec_atomically_bind]
  cases hf : (answers.headD default).fault with
  | none => exact absurd hf hfault
  | failed error => rfl
  | lost error => rfl

theorem perform_tick_published_iff (h : w.engine.Published) (answers : List Answer) :
    (w.perform (.tick, answers)).engine.Published ↔ PublishesAll w (.tick, answers) := by
  have hrun : w.perform (.tick, answers) =
      (afterTick (w.advance (sectionAnswer answers)).tickSection.1).exec answers.tail
        (w.advance (sectionAnswer answers)).tickSection.2 := rfl
  have hsection : (w.advance (sectionAnswer answers)).tickSection.2.engine.Published ↔
      w.engine.TickQuiet (w.advance (sectionAnswer answers)).clock := by
    rw [← Engine.compile_tick_iff]
    unfold Engine.Published at h ⊢
    exact h ▸ eq_comm
  rw [hrun]
  by_cases hfault : (lookupAnswer answers).fault = .none
  · refine ⟨fun _ _ => .inl hfault, fun _ => afterTick_published hfault ?_⟩
    by_cases hchange :
        (w.engine.tickReport (w.advance (sectionAnswer answers)).clock).anyChange = true
    · exact .inl hchange
    · exact .inr (hsection.mpr
        (Engine.tickQuiet_of_not_anyChange (Bool.eq_false_iff.mpr hchange)))
  · rw [afterTick_failed hfault]
    exact ⟨fun hp _ => .inr (hsection.mp hp),
      fun hq => hsection.mpr ((hq rfl).resolve_left hfault)⟩

/-- The copy is right after every call of a history exactly if every tick of it succeeds in
its lookup or has nothing to change. -/
theorem published_after_every_call_iff {w : World} (h : w.engine.Published)
    (history : List (Call × List Answer)) :
    Transition.Along World.perform (fun w => w.engine.Published) w history ↔
      Transition.Meets (fun w step => some (w.perform step)) PublishesAll w history := by
  refine Transition.along_iff_meets (fun w : World => w.engine.Published) (fun _ hw => hw) ?_ ?_ h
  · rintro w ⟨c, answers⟩ hw hok
    by_cases hc : c = .tick
    · subst hc
      exact (perform_tick_published_iff hw answers).mpr hok
    · exact perform_published hc answers hw
  · rintro w ⟨c, answers⟩ hw hno
    have hc : c = .tick := by
      by_contra hc
      exact hno fun ht => absurd ht hc
    subst hc
    exact fun hp => hno ((perform_tick_published_iff hw answers).mp hp)

/-- Three failed orders trip the breaker, and a tick after the cooldown finds its entries. -/
theorem published_after_cooldown :
    Transition.Along World.perform (fun w => w.engine.Published) World.first
      [(.execution (.fokFailure ⟨"m"⟩ ⟨"t"⟩ 3), []),
        (.tick, [.timed 900000000000 .none, .timed 900000000000 .none])] :=
  (published_after_every_call_iff (Boot.restart_published Boot.first.restart_seed) _).mpr
    ⟨nofun, fun _ => .inl rfl, trivial⟩

/-- The same tick with a failed lookup: the breaker is half open and lets trades pass, while
the copy still denies them. -/
theorem failed_lookup_leaves_copy_behind :
    let w := [(Call.execution (.fokFailure ⟨"m"⟩ ⟨"t"⟩ 3), []),
      (.tick, [.timed 900000000000 .none, .timed 900000000000 (.failed "timeout")])].foldl
        World.perform World.first
    w.engine.circuitBreaker.state.allowsTrading = true ∧ w.engine.allowsTrading = false ∧
      ¬ w.engine.Published := by
  decide +kernel

end OxideArb.Risk
