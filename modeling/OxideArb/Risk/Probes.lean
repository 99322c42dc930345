import OxideArb.Lib.Transition
import OxideArb.Risk.LossCaps
import OxideArb.Risk.Recovery

/-!
# Probe trades

A half-open breaker counts the results it is told of: the fills it has let pass, and settlements
of older positions, always as successes. `ProbeStep` says what one step does to such a breaker.
-/

namespace OxideArb.Risk

/-! ## Settled markets -/

structure MarketSettlementInput where
  tradeId : TradeId
  marketId : MarketId
  side : Side
  costUsd : Usd
  feeUsd : Usd
  realizedPnlUsd : Usd
deriving DecidableEq, Repr

/-- The trade result that `on_market_settled` makes of a settlement. -/
def MarketSettlementInput.trade (input : MarketSettlementInput) : PostTradeInput where
  tradeId := input.tradeId
  marketId := input.marketId
  side := input.side
  outcome := .success
  costUsd := input.costUsd
  feeUsd := input.feeUsd
  netProfitUsd := some input.realizedPnlUsd

def onMarketSettled (input : MarketSettlementInput) : Op Unit :=
  onTradeResult .settlement input.trade

/-! ## Steps -/

/-- A step of an operation, with the answer it meets. -/
abbrev EngineStep := Answer × Effect

def World.take (w : World) (step : EngineStep) : World := step.2.apply (w.advance step.1)

def World.run (w : World) (steps : List EngineStep) : World := steps.foldl World.take w

variable (phase : TradeAccountingPhase)

/-- The step records the result of a trade in this phase, as a success. -/
def Effect.success : Effect → Bool
  | .bump (.fill trade _) _ => phase = .fill && trade.isSuccess
  | .bump (.settlement trade _) _ => phase = .settlement && trade.isSuccess
  | _ => false

/-- The successes that the steps record in this phase. -/
def successes (steps : List EngineStep) : Nat :=
  steps.countP (·.2.success phase)

theorem successes_append (before after : List EngineStep) :
    successes phase (before ++ after) = successes phase before + successes phase after :=
  List.countP_append

theorem run_steps {κ : Type} [DecidableEq κ] (w : World) (calls : κ → Call)
    (schedule : List (κ × Answer)) :
    ∃ steps : List EngineStep, (∀ step ∈ steps, ∃ j, step.2.Of (calls j)) ∧
      ((start w calls).run schedule).state = w.run steps := by
  refine run_invariant (start_within w calls) (I := fun v =>
    ∃ steps : List EngineStep, (∀ step ∈ steps, ∃ j, step.2.Of (calls j)) ∧ v = w.run steps)
    ?_ ⟨[], fun _ h => absurd h List.not_mem_nil, rfl⟩
  rintro e - effect _ hof ⟨steps, hsteps, rfl⟩
  refine ⟨steps ++ [(e.2, effect)], fun step hstep => ?_, ?_⟩
  · rcases List.mem_append.mp hstep with hearlier | hlast
    · exact hsteps step hearlier
    · rw [List.mem_singleton.mp hlast]
      exact ⟨e.1, hof⟩
  · unfold World.run
    rw [List.foldl_append]
    rfl

/-! ## Checks leave the breaker or block it -/

def KeptOrBlocked (st st' : BreakerState) : Prop := st' = st ∨ st'.blocked = true

namespace KeptOrBlocked

variable {st st' st'' : BreakerState}

theorem trans (h : KeptOrBlocked st st') (h' : KeptOrBlocked st' st'') :
    KeptOrBlocked st st'' := by
  rcases h' with hkept | hblocked
  · rw [hkept]
    exact h
  · exact .inr hblocked

theorem haltIf (now : DateTime) (level : CircuitBreakerLevel) (breached : Bool)
    (reason : String) (c : Checked) :
    KeptOrBlocked c.2.state (haltIf now level breached reason c).2.state := by
  cases breached with
  | false => exact .inl rfl
  | true => exact .inr (c.2.halt_blocked now level reason)

theorem tripIf (now : DateTime) (level : CircuitBreakerLevel) (breached : Bool)
    (reason : String) (c : Checked) :
    KeptOrBlocked c.2.state (tripIf now level breached reason c).2.state := by
  cases breached with
  | false => exact .inl rfl
  | true => exact .inr (c.2.trip_blocked now level reason)

theorem lossCaps (e : Engine) (now : DateTime) (c : Checked) :
    KeptOrBlocked c.2.state (e.lossCaps now c).2.state :=
  ((((haltIf ..).trans (haltIf ..)).trans (haltIf ..)).trans (haltIf ..)).trans (tripIf ..)

theorem commonCaps (e : Engine) (now : DateTime) (readings : Readings) (misses : Nat)
    (c : Checked) : KeptOrBlocked c.2.state (e.commonCaps now readings misses c).2.state :=
  (((tripIf ..).trans (haltIf ..)).trans (tripIf ..)).trans (tripIf ..)

theorem onExecutionEvent (e : Engine) (now : DateTime) (event : ExecutionRiskEvent) :
    KeptOrBlocked e.circuitBreaker.state (e.onExecutionEvent now event).circuitBreaker.state := by
  cases event with
  | heartbeatFailure =>
    unfold Engine.onExecutionEvent CircuitBreaker.onHeartbeatFailure
    dsimp only
    split
    · exact .inr (CircuitBreaker.halt_blocked ..)
    · exact .inl rfl
  | fokFailure marketId tokenId consecutive =>
    unfold Engine.onExecutionEvent
    dsimp only
    split
    · exact .inr (CircuitBreaker.trip_blocked ..)
    · exact .inl rfl
  | heartbeatSuccess => exact .inl rfl
  | tradeFailed => exact .inl rfl
  | depthDrop => exact .inl rfl

end KeptOrBlocked

/-! ## One step from a half-open breaker -/

/-- Where a step may leave a breaker that has `probes` of `required` successes. -/
inductive ProbeStep (level : CircuitBreakerLevel) (enteredAt : DateTime) (probes required : Nat) :
    Bool → BreakerState → Prop
  | quiet : ProbeStep level enteredAt probes required false
      (.halfOpen level enteredAt probes required)
  | counted : probes + 1 < required → ProbeStep level enteredAt probes required true
      (.halfOpen level enteredAt (probes + 1) required)
  | recovered (now until_ : DateTime) : required ≤ probes + 1 →
      ProbeStep level enteredAt probes required true (.recovered now until_)
  | blocked {success : Bool} {st : BreakerState} : st.blocked = true →
      ProbeStep level enteredAt probes required success st
  | closed {success : Bool} : ProbeStep level enteredAt probes required success .closed

section HalfOpen

variable {level : CircuitBreakerLevel} {enteredAt : DateTime} {probes required : Nat}
  {success : Bool} {st st' : BreakerState}

theorem ProbeStep.then (h : ProbeStep level enteredAt probes required success st)
    (hkept : KeptOrBlocked st st') : ProbeStep level enteredAt probes required success st' := by
  rcases hkept with rfl | hblocked
  · exact h
  · exact .blocked hblocked

theorem ProbeStep.of_kept
    (h : KeptOrBlocked (.halfOpen level enteredAt probes required) st) :
    ProbeStep level enteredAt probes required false st :=
  ProbeStep.quiet.then h

theorem ProbeStep.onTradeResult {b : CircuitBreaker}
    (h : b.state = .halfOpen level enteredAt probes required) (now : DateTime)
    (success : Bool) :
    ProbeStep level enteredAt probes required success (b.onTradeResult now success).state := by
  unfold CircuitBreaker.onTradeResult
  rw [h]
  dsimp only
  cases success with
  | false => exact .blocked rfl
  | true =>
    rw [if_pos rfl]
    split
    next hlast => exact .recovered _ _ hlast
    next hmore => exact .counted (not_le.mp hmore)

theorem ProbeStep.applyCommonChecks {e : Engine}
    (h : KeptOrBlocked (.halfOpen level enteredAt probes required) e.circuitBreaker.state)
    (now : DateTime) (trade : PostTradeInput) (readings : Readings) (misses : Nat) :
    ProbeStep level enteredAt probes required trade.isSuccess
      (e.applyCommonChecks now trade readings misses).2.circuitBreaker.state := by
  refine ProbeStep.then ?_ (KeptOrBlocked.commonCaps e now readings misses
    (none, Engine.probe e.circuitBreaker now trade.isSuccess))
  rcases h with hsame | hblocked
  · have hprobe : e.circuitBreaker.state.isProbeMode = true := by rw [hsame]; rfl
    unfold Engine.probe
    rw [if_pos hprobe]
    exact ProbeStep.onTradeResult hsame now trade.isSuccess
  · exact .blocked (Engine.keeps_probe CircuitBreaker.sticky_blocked trade.isSuccess hblocked)

theorem ProbeStep.take {w : World}
    (h : w.engine.circuitBreaker.state = .halfOpen level enteredAt probes required)
    (step : EngineStep) :
    ProbeStep level enteredAt probes required
      (step.2.success .fill || step.2.success .settlement)
      (w.take step).engine.circuitBreaker.state := by
  obtain ⟨a, effect⟩ := step
  have hsame : (w.advance a).engine.circuitBreaker.state =
      .halfOpen level enteredAt probes required := h
  have hquiet : ProbeStep level enteredAt probes required false
      (w.advance a).engine.circuitBreaker.state := hsame ▸ .quiet
  cases effect with
  | bump mutation readings =>
    cases mutation with
    | fill trade readings' =>
      have hstep := ProbeStep.applyCommonChecks (.inl hsame) (w.advance a).clock trade readings'
        (((w.advance a).countTrade trade).counters.marketMisses trade.marketId)
        (e := { (w.advance a).engine.applyFill (w.advance a).clock trade with
          blacklist := (((w.advance a).countTrade trade).autoBlacklist trade).2 })
      rw [show (Effect.bump (.fill trade readings') readings).success .fill = trade.isSuccess
        from rfl, show (Effect.bump (.fill trade readings') readings).success .settlement = false
        from rfl, Bool.or_false]
      exact hstep
    | settlement trade readings' =>
      have hcaps := KeptOrBlocked.lossCaps ((w.advance a).engine.applySettlement
        (w.advance a).clock trade) (w.advance a).clock (none, (w.advance a).engine.circuitBreaker)
      have hstep := ProbeStep.applyCommonChecks (hsame ▸ hcaps) (w.advance a).clock trade readings'
        ((w.advance a).counters.marketMisses trade.marketId)
        (e := { (((w.advance a).engine.applySettlement (w.advance a).clock trade).checkLossCaps
            (w.advance a).clock).2 with
          blacklist := ((w.advance a).autoBlacklist trade).2 })
      exact hstep
    | drift mismatches =>
      exact .blocked (CircuitBreaker.halt_blocked ..)
    | reset => exact .closed
    | none => exact hquiet
    | resolve id => exact hquiet
  | tick =>
    have htick : ((w.advance a).engine.circuitBreaker.tick (w.advance a).clock).2 =
        (w.advance a).engine.circuitBreaker := by
      unfold CircuitBreaker.tick
      rw [hsame]
    change ProbeStep _ _ _ _ _
      ((w.advance a).engine.circuitBreaker.tick (w.advance a).clock).2.state
    rw [htick]
    exact hquiet
  | acknowledge =>
    have hack : ((w.advance a).engine.circuitBreaker.acknowledgeAndResume
        (w.advance a).clock).2 = (w.advance a).engine.circuitBreaker := by
      unfold CircuitBreaker.acknowledgeAndResume
      rw [hsame]
      rfl
    change ProbeStep _ _ _ _ _
      ((w.advance a).engine.circuitBreaker.acknowledgeAndResume (w.advance a).clock).2.state
    rw [hack]
    exact hquiet
  | execution event =>
    exact .of_kept (hsame ▸ KeptOrBlocked.onExecutionEvent (w.advance a).engine _ event)
  | failClosed reason => exact .blocked (CircuitBreaker.halt_blocked ..)
  | rollback image reason => exact .blocked (CircuitBreaker.halt_blocked ..)
  | haltStale count secs => exact .blocked (CircuitBreaker.halt_blocked ..)
  | halt reason => exact .blocked (CircuitBreaker.halt_blocked ..)
  | commit trade p => simpa [World.take, Effect.apply, Effect.success] using hquiet
  | resolve id => simpa [World.take, Effect.apply, Effect.success] using hquiet
  | updateDebounced readings => simpa [World.take, Effect.apply, Effect.success] using hquiet
  | _ => exact hquiet

end HalfOpen

/-! ## From half open to recovered -/

def World.Probing (w : World) : Prop := w.engine.circuitBreaker.state.isProbeMode = true

instance (w : World) : Decidable w.Probing :=
  inferInstanceAs (Decidable (w.engine.circuitBreaker.state.isProbeMode = true))

theorem successes_cons (step : EngineStep) (steps : List EngineStep) :
    successes .fill (step :: steps) + successes .settlement (step :: steps) =
      (step.2.success .fill || step.2.success .settlement).toNat +
        (successes .fill steps + successes .settlement steps) := by
  obtain ⟨a, effect⟩ := step
  have hone : (effect.success .fill && effect.success .settlement) = false := by
    cases effect with
    | bump mutation readings => cases mutation <;> simp [Effect.success]
    | _ => rfl
  unfold successes
  rw [List.countP_cons, List.countP_cons]
  dsimp only
  cases hfill : effect.success .fill <;> cases hsettle : effect.success .settlement
  · simp
  · simp only [Bool.false_or, Bool.toNat_true, Bool.false_eq_true, if_false, if_true]
    omega
  · simp only [Bool.true_or, Bool.toNat_true, Bool.false_eq_true, if_false, if_true]
    omega
  · rw [hfill, hsettle] at hone
    cases hone

variable {level : CircuitBreakerLevel} {enteredAt : DateTime} {required : Nat}

/-- While a breaker stays half open, it counts the successes of both phases. -/
theorem probes_run : ∀ {steps : List EngineStep} {w : World} {probes : Nat},
      w.engine.circuitBreaker.state = .halfOpen level enteredAt probes required →
      probes < required → Transition.Along World.take World.Probing w steps →
        (w.run steps).engine.circuitBreaker.state = .halfOpen level enteredAt
            (probes + (successes .fill steps + successes .settlement steps)) required ∧
          probes + (successes .fill steps + successes .settlement steps) < required := by
  intro steps
  induction steps with
  | nil => exact fun h hless _ => ⟨h, hless⟩
  | cons step steps ih =>
    intro w probes h hless hhalf
    have hprobing : (w.take step).Probing := hhalf.2.start
    have hstep := ProbeStep.take h step
    rw [successes_cons]
    unfold World.Probing at hprobing
    generalize hsuccess : (step.2.success .fill || step.2.success .settlement) = success
      at hstep ⊢
    generalize hst : (w.take step).engine.circuitBreaker.state = st at hstep hprobing
    cases hstep with
    | quiet =>
      rw [Bool.toNat_false, Nat.zero_add]
      exact ih hst hless hhalf.2
    | counted hmore =>
      rw [Bool.toNat_true, ← Nat.add_assoc]
      exact ih hst hmore hhalf.2
    | recovered => cases hprobing
    | blocked hblocked => cases st <;> simp_all [BreakerState.blocked, BreakerState.isProbeMode]
    | closed => cases hprobing

theorem recovered_last {probes : Nat} {w : World}
    (h : w.engine.circuitBreaker.state = .halfOpen level enteredAt probes required)
    {step : EngineStep} (hmoved : (w.take step).engine.circuitBreaker.state.toName = .recovered) :
    (step.2.success .fill || step.2.success .settlement) = true ∧ required ≤ probes + 1 := by
  have hstep := ProbeStep.take h step
  generalize (w.take step).engine.circuitBreaker.state = st at hstep hmoved
  generalize (step.2.success .fill || step.2.success .settlement) = success at hstep ⊢
  cases hstep with
  | quiet => cases hmoved
  | counted => cases hmoved
  | recovered _ _ hlast => exact ⟨rfl, hlast⟩
  | blocked hblocked => cases st <;> simp_all [BreakerState.blocked, BreakerState.toName]
  | closed => cases hmoved

/-- The successes between the first moment of a half-open breaker and its recovery, in both
phases together, are as many as it asks for. -/
theorem successes_of_recovered {w : World} {steps : List EngineStep} {last : EngineStep}
    (hrequired : 0 < required)
    (hentered : w.engine.circuitBreaker.state = .halfOpen level enteredAt 0 required)
    (hhalf : Transition.Along World.take World.Probing w steps)
    (hmoved : ((w.run steps).take last).engine.circuitBreaker.state.toName = .recovered) :
    successes .fill (steps ++ [last]) + successes .settlement (steps ++ [last]) = required := by
  obtain ⟨hstate, hless⟩ := probes_run hentered hrequired hhalf
  obtain ⟨hsuccess, hlast⟩ := recovered_last hstate hmoved
  have hone := successes_cons last []
  rw [hsuccess] at hone
  simp only [successes_append]
  have hnil : ∀ phase, successes phase [] = 0 := fun _ => rfl
  simp only [hnil, Bool.toNat_true] at hone
  omega

/-- A half-open breaker recovers with as many successful fills as it asks for exactly if it
has met no successful settlement since it became half open. -/
theorem recovered_by_fills_iff {w : World} {steps : List EngineStep} {last : EngineStep}
    {level : CircuitBreakerLevel} {enteredAt : DateTime}
    (hprobes : 0 < w.engine.circuitBreaker.config.halfOpenProbes)
    (hentered : w.engine.circuitBreaker.state =
      .halfOpen level enteredAt 0 w.engine.circuitBreaker.config.halfOpenProbes)
    (hhalf : Transition.Along World.take World.Probing w steps)
    (hmoved : ((w.run steps).take last).engine.circuitBreaker.state.toName = .recovered) :
    w.engine.circuitBreaker.config.halfOpenProbes ≤ successes .fill (steps ++ [last]) ↔
      successes .settlement (steps ++ [last]) = 0 := by
  have hsum := successes_of_recovered hprobes hentered hhalf hmoved
  omega

/-! ## Two lost positions -/

def lostMarket (n : Nat) : MarketSettlementInput where
  tradeId := ⟨n⟩
  marketId := ⟨"market-2"⟩
  side := .buy
  costUsd := 5
  feeUsd := 0
  realizedPnlUsd := -5

/-- Two positions are bought, failed orders trip the breaker, and a tick after the cooldown
makes it half open. -/
def halfOpenWorld : World :=
  [(Call.fill (lostMarket 1).trade, []), (.fill (lostMarket 2).trade, []),
    (.execution (.fokFailure ⟨"market-3"⟩ ⟨"token-3"⟩ 3), []),
    (.tick, [Answer.timed 1000000000000 .none])].foldl World.perform World.first

def lostSection (n : Nat) : EngineStep :=
  (default, .bump (.settlement (lostMarket n).trade ⟨0, 0, 0, 0⟩) ⟨0, 0, 0, 0⟩)

def filledSection (n : Nat) : EngineStep :=
  (default, .bump (.fill (lostMarket n).trade ⟨0, 0, 0, 0⟩) ⟨0, 0, 0, 0⟩)

/-- Two fills recover the breaker. -/
theorem two_fills_recover :
    halfOpenWorld.engine.circuitBreaker.config.halfOpenProbes ≤
      successes .fill ([filledSection 3] ++ [filledSection 4]) := by
  have hentered : halfOpenWorld.engine.circuitBreaker.state = .halfOpen .session 1000000000000 0
      halfOpenWorld.engine.circuitBreaker.config.halfOpenProbes := by
    decide +kernel
  have hhalf : Transition.Along World.take World.Probing halfOpenWorld [filledSection 3] :=
    ⟨by decide +kernel, show (halfOpenWorld.take (filledSection 3)).Probing by decide +kernel⟩
  have hmoved : ((halfOpenWorld.run [filledSection 3]).take
      (filledSection 4)).engine.circuitBreaker.state.toName = .recovered := by
    decide +kernel
  exact (recovered_by_fills_iff (by decide +kernel) hentered hhalf hmoved).mpr (by decide +kernel)

/-- The breaker asks for two successful fills. Two markets are settled, both at a loss: it is
recovered, and no fill was recorded. -/
theorem lost_settlements_recover :
    let settled := [lostMarket 1, lostMarket 2].foldl
      (fun w input => (onMarketSettled input).exec [] w) halfOpenWorld
    halfOpenWorld.engine.circuitBreaker.state = .halfOpen .session 1000000000000 0 2 ∧
      settled.engine.circuitBreaker.state.toName = .recovered ∧
      (halfOpenWorld.run [lostSection 1]).Probing ∧
      ((halfOpenWorld.run [lostSection 1]).take
        (lostSection 2)).engine.circuitBreaker.state.toName = .recovered ∧
      ¬ halfOpenWorld.engine.circuitBreaker.config.halfOpenProbes ≤
        successes .fill ([lostSection 1] ++ [lostSection 2]) := by
  decide +kernel

end OxideArb.Risk
