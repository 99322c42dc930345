import OxideArb.Risk.Steps

/-!
# The caps of a settlement

A settlement adds its profit to the windows and checks their totals against the caps. No check
undoes what an earlier one did (`Sticky`), so the breaker ends at the highest level asked for.
-/

namespace OxideArb.Risk

open CircuitBreaker (Sticky sticky_haltedAt sticky_blocked)

/-! ## A series of checks -/

section Checks

variable {P : BreakerState → Bool} {now : DateTime} {level : CircuitBreakerLevel}
  {breached : Bool} {reason : String} {c : Checked}

theorem keeps_haltIf (hP : Sticky P) (h : P c.2.state = true) :
    P (haltIf now level breached reason c).2.state = true := by
  unfold haltIf
  split
  · exact hP.halt now level reason h
  · exact h

theorem keeps_tripIf (hP : Sticky P) (h : P c.2.state = true) :
    P (tripIf now level breached reason c).2.state = true := by
  unfold tripIf
  split
  · exact hP.trip now level reason h
  · exact h

theorem haltIf_haltedAt (h : breached = true) :
    (haltIf now level breached reason c).2.state.haltedAt level = true := by
  rw [haltIf, if_pos h]
  exact c.2.halt_haltedAt now level reason

theorem tripIf_blocked (h : breached = true) :
    (tripIf now level breached reason c).2.state.blocked = true := by
  rw [tripIf, if_pos h]
  exact c.2.trip_blocked now level reason

end Checks

namespace Engine

variable {P : BreakerState → Bool} {e : Engine} {now : DateTime} {c : Checked}

theorem keeps_lossCaps (hP : Sticky P) (h : P c.2.state = true) :
    P (e.lossCaps now c).2.state = true :=
  keeps_tripIf hP (keeps_haltIf hP (keeps_haltIf hP (keeps_haltIf hP (keeps_haltIf hP h))))

theorem lossCaps_dailyLoss (h : e.config.maxDailyLossUsd ≤ e.daily.stats.loss) :
    (e.lossCaps now c).2.state.haltedAt .daily = true :=
  have hP := sticky_haltedAt .daily
  keeps_tripIf hP (keeps_haltIf hP (keeps_haltIf hP (keeps_haltIf hP
    (haltIf_haltedAt (decide_eq_true h)))))

theorem lossCaps_weeklyLoss (h : e.config.maxWeeklyLossUsd ≤ e.weekly.stats.loss) :
    (e.lossCaps now c).2.state.haltedAt .system = true :=
  have hP := sticky_haltedAt .system
  keeps_tripIf hP (keeps_haltIf hP (keeps_haltIf hP (haltIf_haltedAt (decide_eq_true h))))

theorem lossCaps_singleLoss (h : e.config.maxSingleLossUsd ≤ e.daily.stats.maxSingleLoss) :
    (e.lossCaps now c).2.state.haltedAt .daily = true :=
  have hP := sticky_haltedAt .daily
  keeps_tripIf hP (keeps_haltIf hP (haltIf_haltedAt (decide_eq_true h)))

theorem lossCaps_dailyFee (h : e.config.maxDailyFeeSpendUsd ≤ e.daily.stats.fees) :
    (e.lossCaps now c).2.state.haltedAt .daily = true :=
  keeps_tripIf (sticky_haltedAt .daily) (haltIf_haltedAt (decide_eq_true h))

theorem lossCaps_hourlyLoss (h : e.config.maxHourlyLossUsd ≤ e.hourly.stats.loss) :
    (e.lossCaps now c).2.state.blocked = true :=
  tripIf_blocked (decide_eq_true h)

variable {readings : Readings} {misses : Nat}

theorem keeps_commonCaps (hP : Sticky P) (h : P c.2.state = true) :
    P (e.commonCaps now readings misses c).2.state = true :=
  keeps_tripIf hP (keeps_tripIf hP (keeps_haltIf hP (keeps_tripIf hP h)))

theorem commonCaps_hourlyFee (h : e.config.maxHourlyFeeSpendUsd ≤ e.hourly.stats.fees) :
    (e.commonCaps now readings misses c).2.state.blocked = true :=
  keeps_tripIf sticky_blocked (tripIf_blocked (decide_eq_true h))

theorem keeps_probe (hP : Sticky P) {b : CircuitBreaker} (success : Bool)
    (h : P b.state = true) : P (probe b now success).state = true := by
  unfold probe
  split
  · exact hP.onTradeResult now success h
  · exact h

theorem keeps_applyCommonChecks (hP : Sticky P) {trade : PostTradeInput}
    (h : P e.circuitBreaker.state = true) :
    P (e.applyCommonChecks now trade readings misses).2.circuitBreaker.state = true :=
  keeps_commonCaps hP (keeps_probe hP trade.isSuccess h)

end Engine

/-! ## Where a settlement leaves the breaker -/

/-- Every total that has reached its cap has the breaker where the cap wants it, and what the
breaker does not allow is not published as allowed. -/
structure Engine.CapsEnforced (e : Engine) : Prop where
  dailyLoss : e.config.maxDailyLossUsd ≤ e.daily.stats.loss →
    e.circuitBreaker.state.haltedAt .daily = true
  weeklyLoss : e.config.maxWeeklyLossUsd ≤ e.weekly.stats.loss →
    e.circuitBreaker.state.haltedAt .system = true
  singleLoss : e.config.maxSingleLossUsd ≤ e.daily.stats.maxSingleLoss →
    e.circuitBreaker.state.haltedAt .daily = true
  dailyFee : e.config.maxDailyFeeSpendUsd ≤ e.daily.stats.fees →
    e.circuitBreaker.state.haltedAt .daily = true
  hourlyLoss : e.config.maxHourlyLossUsd ≤ e.hourly.stats.loss →
    e.circuitBreaker.state.allowsTrading = false
  hourlyFee : e.config.maxHourlyFeeSpendUsd ≤ e.hourly.stats.fees →
    e.circuitBreaker.state.allowsTrading = false
  published : e.circuitBreaker.state.allowsTrading = false → e.allowsTrading = false

theorem Engine.haltInternal_capsEnforced (e : Engine) (now : DateTime) (reason : String) :
    (e.haltInternal now reason).CapsEnforced := by
  have hsystem := e.haltInternal_haltedAt now reason
  have hdaily := BreakerState.haltedAt_mono CircuitBreakerLevel.daily.le_system hsystem
  have hblocked := BreakerState.allowsTrading_of_blocked (sticky_blocked.system hsystem)
  exact
    { dailyLoss := fun _ => hdaily
      weeklyLoss := fun _ => hsystem
      singleLoss := fun _ => hdaily
      dailyFee := fun _ => hdaily
      hourlyLoss := fun _ => hblocked
      hourlyFee := fun _ => hblocked
      published := fun _ => allowsTrading_publish hblocked now }

theorem bump_settlement_capsEnforced (w : World) (trade : PostTradeInput)
    (readings readings' : Readings) :
    (Effect.apply w (.bump (.settlement trade readings) readings')).engine.CapsEnforced where
  dailyLoss h := Engine.keeps_applyCommonChecks (sticky_haltedAt .daily)
    (Engine.lossCaps_dailyLoss h)
  weeklyLoss h := Engine.keeps_applyCommonChecks (sticky_haltedAt .system)
    (Engine.lossCaps_weeklyLoss h)
  singleLoss h := Engine.keeps_applyCommonChecks (sticky_haltedAt .daily)
    (Engine.lossCaps_singleLoss h)
  dailyFee h := Engine.keeps_applyCommonChecks (sticky_haltedAt .daily)
    (Engine.lossCaps_dailyFee h)
  hourlyLoss h := BreakerState.allowsTrading_of_blocked
    (Engine.keeps_applyCommonChecks sticky_blocked (Engine.lossCaps_hourlyLoss h))
  hourlyFee h := BreakerState.allowsTrading_of_blocked (Engine.commonCaps_hourlyFee h)
  published h := Engine.allowsTrading_publish h _

theorem capsEnforced_step {trade : PostTradeInput} (effect : Effect) (a : Answer) (w : World)
    (hof : effect.Of (.settlement trade)) (h : w.engine.CapsEnforced) :
    (effect.apply (w.advance a)).engine.CapsEnforced := by
  cases effect with
  | idle => exact h
  | failClosed reason => exact w.engine.haltInternal_capsEnforced _ reason
  | recordEmergency reason =>
    -- the record of the emergency is no part of what the caps speak of
    exact ⟨h.1, h.2, h.3, h.4, h.5, h.6, h.7⟩
  | write p => exact h
  | discard ticket => exact h
  | resolve id => simpa [Effect.apply, World.advance] using h
  | bump mutation readings =>
    cases mutation with
    | settlement trade' readings' => exact bump_settlement_capsEnforced ..
    | _ => simp [Effect.Of] at hof
  | _ => simp [Effect.Of] at hof

theorem orHalt_spec {Inv : World → Prop} (what : String) (r : Except String Unit) :
    Prog.Spec (orHalt what r).toProg Inv (fun _ => Inv) (fun _ w => w.engine.CapsEnforced) := by
  cases r with
  | ok => exact Prog.Spec.pure fun _ h => h
  | error e =>
    have hhalt : Prog.Spec (failClosed s!"{what}: {e}").toProg Inv
        (fun _ w => w.engine.CapsEnforced) (fun _ w => w.engine.CapsEnforced) :=
      Routine.spec_atomically fun _ w _ => w.engine.haltInternal_capsEnforced _ _
    unfold orHalt
    rw [Routine.toProg_bind]
    exact Prog.Spec.bind hhalt fun _ => Prog.Spec.throw fun _ h => h

/-- A settlement, with whatever fails on its way, leaves every reached cap enforced. -/
theorem settlement_enforces_caps (w : World) (trade : PostTradeInput) (answers : List Answer) :
    (w.perform (.settlement trade, answers)).engine.CapsEnforced := by
  have hstep : ∀ a w w', w.engine.CapsEnforced → StepOf (.settlement trade) a w w' →
      w'.engine.CapsEnforced := by
    rintro a w _ h ⟨effect, hof, rfl⟩
    exact capsEnforced_step effect a w hof h
  have hcommon := common_of (.settlement trade)
  -- before the section nothing is known, but an error there has halted the engine
  have hresolve : Prog.Spec (persistSettlementPotentialLoss trade).toProg (fun _ => True)
      (fun _ _ => True) (fun _ w => w.engine.CapsEnforced) := by
    unfold persistSettlementPotentialLoss
    split
    · rw [Routine.toProg_bind]
      refine Prog.Spec.bind (R := fun _ _ => True) ?_ fun r => orHalt_spec _ r
      exact Routine.spec_atomically fun _ _ _ => trivial
    · exact Prog.Spec.pure fun _ _ => trivial
  have hsection : Prog.Spec
      (sync fun readings w => w.applyTradeResult .settlement trade readings).toProg
      (fun _ => True) (fun _ w => w.engine.CapsEnforced) (fun _ w => w.engine.CapsEnforced) :=
    Routine.spec_atomically fun a w _ =>
      bump_settlement_capsEnforced (w.advance a) trade a.readings a.readings
  have hall : Prog.Spec (Call.settlement trade).op.toProg (fun _ => True)
      (fun _ w => w.engine.CapsEnforced) (fun _ w => w.engine.CapsEnforced) := by
    change Prog.Spec (onSettlement trade).toProg _ _ _
    unfold onSettlement
    simp only [Routine.toProg_bind]
    refine Prog.Spec.bind hresolve fun _ => ?_
    refine Prog.Spec.bind hsection fun report => ?_
    refine Prog.Spec.bind ((persistAndAudit_within hcommon report.snapshot).spec hstep) fun _ => ?_
    exact (persistPostTradeFollowups_within hcommon.toQuiet report).spec hstep
  exact Routine.spec_exec hall answers trivial

end OxideArb.Risk
