import Mathlib.Data.List.Chain
import OxideArb.Control.ModeTransition

/-!
# Health alerts

Each tick of the health checker probes four subsystems and compares every outcome with the one it
has recorded for the subsystem before. A turn to unhealthy and a turn back are dispatched as alerts.
A tick in a starting phase records nothing. The phase and the mode are read for the probes and
again for the alerts, so the two may differ.

The alerts about one subsystem are the edges of the outcomes recorded for it (`run_alerts`). As long
as no probe is skipped they take turns; the outcome after a skipped one is compared with the
skipped one, so a subsystem may turn unhealthy and nobody is told.
-/

namespace OxideArb.Health

open Control (OperationalPhase)

/-! ## The probes -/

inductive SubsystemCheckStatus
  | healthy
  | unhealthy
  | skipped (reason : String)
deriving DecidableEq, Repr

structure SubsystemHealth where
  name : String
  status : SubsystemCheckStatus
  latencyMs : Option Nat
  detail : Option String
deriving DecidableEq, Repr

namespace SubsystemHealth

def healthy (name : String) (latencyMs : Option Nat) : SubsystemHealth :=
  ⟨name, .healthy, latencyMs, none⟩

def unhealthy (name : String) (latencyMs : Option Nat) (detail : String) : SubsystemHealth :=
  ⟨name, .unhealthy, latencyMs, some detail⟩

def skipped (name reason : String) : SubsystemHealth := ⟨name, .skipped reason, none, none⟩

end SubsystemHealth

/-- What the probes of a tick come back with: the answers of the two databases, the shards, the age
of the last message, and the open orders if there is a client, each with its latency. -/
structure Probes where
  postgres : Except String Unit × Nat
  clickhouse : Except String Unit × Nat
  shardsDisconnected : Nat
  shards : String
  lastMessageAgeMs : Option Nat
  openOrders : Option (Except String Nat × Nat)

/-- `check_postgres` and `check_clickhouse`. -/
def checkPool (name : String) : Except String Unit × Nat → SubsystemHealth
  | (.ok (), latency) => .healthy name (some latency)
  | (.error error, latency) => .unhealthy name (some latency) error

def wsProbeSkipped : OperationalPhase → Option String
  | .catalogWarming => some "catalog_warming"
  | .marketDataConnecting => some "market_data_connecting"
  | .operational | .degraded _ | .halted => none

def wsMarketDataStaleThresholdMs : Nat := 30000

def evaluateWsProbe (lastMessageAgeMs : Option Nat) (shards : String) : SubsystemHealth :=
  match lastMessageAgeMs with
  | some ageMs =>
    if ageMs < wsMarketDataStaleThresholdMs then .healthy "websocket" (some ageMs)
    else .unhealthy "websocket" (some ageMs) s!"no message for {ageMs}ms; {shards}"
  | none => .unhealthy "websocket" none s!"never connected; {shards}"

def checkWs (phase : OperationalPhase) (probes : Probes) : SubsystemHealth :=
  match wsProbeSkipped phase with
  | some reason => .skipped "websocket" reason
  | none =>
    if 0 < probes.shardsDisconnected then .unhealthy "websocket" none probes.shards
    else evaluateWsProbe probes.lastMessageAgeMs probes.shards

def openOrdersName : String := "clob_open_orders"

def checkOpenOrdersInvariant (mode : ExecutionMode)
    (openOrders : Option (Except String Nat × Nat)) : SubsystemHealth :=
  if mode ≠ .live then .skipped openOrdersName "skipped_outside_live_mode"
  else
    match openOrders with
    | none => .skipped openOrdersName "skipped_without_clob_client"
    | some (.ok 0, latency) => .healthy openOrdersName (some latency)
    | some (.ok orders, latency) =>
      .unhealthy openOrdersName (some latency)
        s!"FOK-only invariant violated: {orders} open orders"
    | some (.error error, latency) => .unhealthy openOrdersName (some latency) error

/-- A tick: the phase and the mode as read for the probes, and as read for the alerts. -/
structure Tick where
  phaseProbed : OperationalPhase
  modeProbed : ExecutionMode
  probes : Probes
  phase : OperationalPhase
  mode : ExecutionMode

/-- The checks of `check_all`. -/
def Tick.checks (tick : Tick) : List SubsystemHealth :=
  [checkPool "postgres" tick.probes.postgres, checkPool "clickhouse" tick.probes.clickhouse,
    checkWs tick.phaseProbed tick.probes,
    checkOpenOrdersInvariant tick.modeProbed tick.probes.openOrders]

/-! ## The alerts -/

inductive ProbeOutcome
  | healthy
  | unhealthy
  | skipped
deriving DecidableEq, Repr

def SubsystemHealth.outcome (check : SubsystemHealth) : ProbeOutcome :=
  match check.status with
  | .healthy => .healthy
  | .unhealthy => .unhealthy
  | .skipped _ => .skipped

inductive AlertKind
  | unhealthy
  | recovered
deriving DecidableEq, Repr

inductive AlertLevel
  | info
  | warning
  | critical
  | emergency
deriving DecidableEq, Repr

/-- The alert as handed to the dispatcher, with the subsystem and the kind it is about. Category
and source are the same for all. -/
structure Alert where
  subsystem : String
  kind : AlertKind
  idempotencyKey : String
  severity : AlertLevel
  title : String
  body : String
  affectsTrading : Bool
  visibleToast : Bool
deriving DecidableEq, Repr

def dispatchUnhealthyAlert (check : SubsystemHealth) (phase : OperationalPhase)
    (mode : ExecutionMode) : Alert where
  subsystem := check.name
  kind := .unhealthy
  idempotencyKey := s!"health.unhealthy.{check.name}"
  severity := .critical
  title := "Health check unhealthy"
  body :=
    let detail := check.detail.getD "subsystem unhealthy"
    s!"unhealthy subsystem {check.name}: {detail}"
  affectsTrading :=
    check.name = "websocket" && mode = .live &&
      match phase with
      | .operational | .degraded _ => true
      | .catalogWarming | .marketDataConnecting | .halted => false
  visibleToast := true

def dispatchRecoveryAlert (subsystem : String) : Alert where
  subsystem
  kind := .recovered
  idempotencyKey := s!"health.recovered.{subsystem}"
  severity := .info
  title := "Health check recovered"
  body := s!"subsystem {subsystem} is healthy again"
  affectsTrading := false
  visibleToast := false

/-- The edge from the recorded outcome to the new one. -/
def edge : Option ProbeOutcome → ProbeOutcome → Option AlertKind
  | some .healthy, .unhealthy | none, .unhealthy => some .unhealthy
  | some .unhealthy, .healthy => some .recovered
  | _, _ => none

def alertFor (phase : OperationalPhase) (mode : ExecutionMode) (previous : Option ProbeOutcome)
    (check : SubsystemHealth) : Option Alert :=
  match edge previous check.outcome with
  | some .unhealthy => some (dispatchUnhealthyAlert check phase mode)
  | some .recovered => some (dispatchRecoveryAlert check.name)
  | none => none

/-- The outcomes recorded by name, and the alerts dispatched. -/
structure State where
  last : String → Option ProbeOutcome
  alerts : List Alert

def State.initial : State := ⟨fun _ => none, []⟩

/-- The pass that records the outcomes under the lock; each check comes with what it replaced. -/
def transitions : (String → Option ProbeOutcome) → List SubsystemHealth →
    (String → Option ProbeOutcome) × List (Option ProbeOutcome × SubsystemHealth)
  | last, [] => (last, [])
  | last, check :: checks =>
    let rest := transitions (Function.update last check.name (some check.outcome)) checks
    (rest.1, (last check.name, check) :: rest.2)

def starting : OperationalPhase → Bool
  | .catalogWarming | .marketDataConnecting => true
  | .operational | .degraded _ | .halted => false

/-- `on_report`. The nudge is sent exactly when a recovery alert is. -/
def onReport (s : State) (tick : Tick) : State :=
  if starting tick.phase then s
  else
    let collected := transitions s.last tick.checks
    ⟨collected.1, s.alerts ++
      collected.2.filterMap fun (previous, check) => alertFor tick.phase tick.mode previous check⟩

def run (ticks : List Tick) : State := ticks.foldl onReport .initial

/-! ## One subsystem -/

/-- The kinds of the alerts about a subsystem, in order. -/
def State.kinds (s : State) (name : String) : List AlertKind :=
  (s.alerts.filter (·.subsystem = name)).map (·.kind)

/-- The outcomes a tick records for a subsystem. -/
def Tick.recorded (tick : Tick) (name : String) : List ProbeOutcome :=
  if starting tick.phase then [] else (tick.checks.filter (·.name = name)).map (·.outcome)

def edges : Option ProbeOutcome → List ProbeOutcome → List AlertKind
  | _, [] => []
  | previous, outcome :: outcomes => (edge previous outcome).toList ++ edges (some outcome) outcomes

theorem edges_append (previous : Option ProbeOutcome) (first second : List ProbeOutcome) :
    edges previous (first ++ second) =
      edges previous first ++ edges (first.getLast?.or previous) second := by
  induction first generalizing previous with
  | nil => rfl
  | cons outcome first ih =>
    rw [List.cons_append, edges, ih, edges, List.append_assoc, List.getLast?_cons]
    cases first.getLast? <;> rfl

variable {name : String}

theorem alertFor_kind (phase : OperationalPhase) (mode : ExecutionMode)
    (previous : Option ProbeOutcome) (check : SubsystemHealth) :
    (alertFor phase mode previous check).map (fun alert => (alert.subsystem, alert.kind)) =
      (edge previous check.outcome).map fun kind => (check.name, kind) := by
  unfold alertFor
  split <;> next h => rw [h]; rfl

theorem kinds_append (s : State) (last : String → Option ProbeOutcome) (alerts : List Alert) :
    State.kinds ⟨last, s.alerts ++ alerts⟩ name =
      s.kinds name ++ (alerts.filter (·.subsystem = name)).map (·.kind) := by
  simp only [State.kinds, List.filter_append, List.map_append]

/-- The pass over the checks gives each subsystem the edges of its own outcomes. -/
theorem transitions_edges (phase : OperationalPhase) (mode : ExecutionMode)
    (checks : List SubsystemHealth) (last : String → Option ProbeOutcome) :
    (transitions last checks).1 name =
        ((checks.filter (·.name = name)).map (·.outcome)).getLast?.or (last name) ∧
      (((transitions last checks).2.filterMap fun (previous, check) =>
          alertFor phase mode previous check).filter (·.subsystem = name)).map (·.kind) =
        edges (last name) ((checks.filter (·.name = name)).map (·.outcome)) := by
  induction checks generalizing last with
  | nil => exact ⟨rfl, rfl⟩
  | cons check checks ih =>
    obtain ⟨hlast, hkinds⟩ := ih (Function.update last check.name (some check.outcome))
    have hkind := alertFor_kind phase mode (last check.name) check
    by_cases hname : check.name = name
    · subst hname
      rw [Function.update_self] at hlast hkinds
      simp only [transitions, List.filter_cons, decide_true, if_true, List.map_cons,
        List.getLast?_cons, edges]
      refine ⟨?_, ?_⟩
      · rw [hlast]
        cases ((checks.filter (·.name = check.name)).map (·.outcome)).getLast? <;> rfl
      · rw [List.filterMap_cons]
        cases halert : alertFor phase mode (last check.name) check with
        | none =>
          rw [halert, Option.map_none, eq_comm, Option.map_eq_none_iff] at hkind
          simp only [hkind, Option.toList_none, List.nil_append]
          exact hkinds
        | some alert =>
          rw [halert, Option.map_some, eq_comm, Option.map_eq_some_iff] at hkind
          obtain ⟨kind, hedge, hpair⟩ := hkind
          simp only [Prod.mk.injEq] at hpair
          simp only [hedge, Option.toList_some, List.filter_cons, ← hpair.1, decide_true, if_true,
            List.map_cons, List.singleton_append, hpair.2]
          rw [hkinds]
    · rw [Function.update_of_ne (Ne.symm hname)] at hlast hkinds
      simp only [transitions, List.filter_cons, hname, decide_false, Bool.false_eq_true, if_false]
      refine ⟨hlast, ?_⟩
      rw [List.filterMap_cons]
      cases halert : alertFor phase mode (last check.name) check with
      | none => exact hkinds
      | some alert =>
        rw [halert, Option.map_some, eq_comm, Option.map_eq_some_iff] at hkind
        obtain ⟨kind, -, hpair⟩ := hkind
        simp only [Prod.mk.injEq] at hpair
        simp only [List.filter_cons, ← hpair.1, hname, decide_false, Bool.false_eq_true, if_false]
        exact hkinds

theorem onReport_edges (name : String) (s : State) (tick : Tick) :
    (onReport s tick).last name = (tick.recorded name).getLast?.or (s.last name) ∧
      (onReport s tick).kinds name = s.kinds name ++ edges (s.last name) (tick.recorded name) := by
  unfold onReport Tick.recorded
  split
  · exact ⟨rfl, (List.append_nil _).symm⟩
  · obtain ⟨hlast, hkinds⟩ := transitions_edges tick.phase tick.mode tick.checks s.last
    refine ⟨hlast, ?_⟩
    rw [kinds_append, hkinds]

/-- The alerts about a subsystem are the edges of the outcomes recorded for it. -/
theorem run_alerts (name : String) (ticks : List Tick) :
    (run ticks).last name = (ticks.flatMap (·.recorded name)).getLast? ∧
      (run ticks).kinds name = edges none (ticks.flatMap (·.recorded name)) := by
  induction ticks using List.reverseRecOn with
  | nil => exact ⟨rfl, rfl⟩
  | append_singleton ticks tick ih =>
    have hrun : run (ticks ++ [tick]) = onReport (run ticks) tick := by
      unfold run
      rw [List.foldl_append, List.foldl_cons, List.foldl_nil]
    obtain ⟨hlast, hkinds⟩ := onReport_edges name (run ticks) tick
    rw [hrun, hlast, hkinds, ih.1, ih.2, List.flatMap_append, List.flatMap_singleton, edges_append,
      Option.or_none, List.getLast?_append]
    exact ⟨rfl, rfl⟩

/-! ## Without skipped probes -/

/-- The kind the next alert has after the outcome. -/
def following : Option ProbeOutcome → AlertKind
  | some .unhealthy => .recovered
  | _ => .unhealthy

theorem edge_following {previous : Option ProbeOutcome} {outcome : ProbeOutcome} {kind : AlertKind}
    (h : edge previous outcome = some kind) :
    kind = following previous ∧ following (some outcome) ≠ kind := by
  unfold edge at h
  split at h <;> cases h <;> decide

/-- No alert leaves what the next one is about as it was. -/
theorem following_of_edge_none {previous : Option ProbeOutcome} {outcome : ProbeOutcome}
    (hprevious : previous ≠ some .skipped) (houtcome : outcome ≠ .skipped)
    (h : edge previous outcome = none) : following (some outcome) = following previous := by
  rcases previous with _ | previous
  · cases outcome <;> first | rfl | contradiction
  · cases previous <;> cases outcome <;> first | rfl | contradiction

theorem edges_head {outcomes : List ProbeOutcome} {previous : Option ProbeOutcome}
    (hprevious : previous ≠ some .skipped) (hskip : .skipped ∉ outcomes) :
    ∀ kind ∈ (edges previous outcomes).head?, kind = following previous := by
  induction outcomes generalizing previous with
  | nil => exact fun _ hkind => absurd hkind (Option.not_mem_none _)
  | cons outcome outcomes ih =>
    rw [List.mem_cons, not_or] at hskip
    have houtcome : some outcome ≠ some .skipped := (Option.some_injective _).ne (Ne.symm hskip.1)
    intro kind hkind
    cases hedge : edge previous outcome with
    | none =>
      rw [edges, hedge, Option.toList_none, List.nil_append] at hkind
      rw [ih houtcome hskip.2 kind hkind]
      exact following_of_edge_none hprevious (Ne.symm hskip.1) hedge
    | some first =>
      rw [edges, hedge] at hkind
      simp only [Option.toList_some, List.singleton_append, List.head?_cons, Option.mem_def,
        Option.some.injEq] at hkind
      exact hkind ▸ (edge_following hedge).1

theorem edges_isChain {outcomes : List ProbeOutcome} {previous : Option ProbeOutcome}
    (hskip : .skipped ∉ outcomes) : (edges previous outcomes).IsChain (· ≠ ·) := by
  induction outcomes generalizing previous with
  | nil => exact .nil
  | cons outcome outcomes ih =>
    rw [List.mem_cons, not_or] at hskip
    have houtcome : some outcome ≠ some .skipped := (Option.some_injective _).ne (Ne.symm hskip.1)
    rw [edges]
    cases hedge : edge previous outcome with
    | none => exact ih hskip.2
    | some first =>
      rw [Option.toList_some, List.singleton_append, List.isChain_cons]
      refine ⟨fun kind hkind => ?_, ih hskip.2⟩
      rw [edges_head houtcome hskip.2 kind hkind]
      exact (edge_following hedge).2.symm

/-- After the outcomes the last alert is about the last outcome, if it was before them. -/
theorem edges_getLast {outcomes : List ProbeOutcome} {previous : Option ProbeOutcome}
    {last : Option AlertKind} (hprevious : previous ≠ some .skipped)
    (hlast : last = some .unhealthy ↔ previous = some .unhealthy)
    (hskip : .skipped ∉ outcomes) :
    (edges previous outcomes).getLast?.or last = some .unhealthy ↔
      outcomes.getLast?.or previous = some .unhealthy := by
  induction outcomes generalizing previous last with
  | nil => exact hlast
  | cons outcome outcomes ih =>
    rw [List.mem_cons, not_or] at hskip
    have houtcome : some outcome ≠ some .skipped := (Option.some_injective _).ne (Ne.symm hskip.1)
    have hstep : (edge previous outcome).or last = some .unhealthy ↔
        (some outcome : Option ProbeOutcome) = some .unhealthy := by
      rcases previous with _ | previous
      · cases outcome <;> simp_all [edge]
      · cases previous <;> cases outcome <;> simp_all [edge]
    have hrest := ih houtcome hstep hskip.2
    rw [edges, List.getLast?_append, List.getLast?_cons]
    cases hedges : (edges (some outcome) outcomes).getLast? <;>
      cases houtcomes : outcomes.getLast? <;> rw [hedges, houtcomes] at hrest <;>
      cases hedge : edge previous outcome <;> rw [hedge] at hrest <;> simpa using hrest

/-- **What operators rely on.** When no probe of the subsystem was skipped, its alerts take turns,
the first says that it is unhealthy, and the last one says what was recorded last. -/
theorem alerts_alternate {ticks : List Tick} {name : String}
    (hskip : ∀ tick ∈ ticks, .skipped ∉ tick.recorded name) :
    ((run ticks).kinds name).IsChain (· ≠ ·) ∧
      ((run ticks).kinds name).head? ≠ some .recovered ∧
      (((run ticks).kinds name).getLast? = some .unhealthy ↔
        (run ticks).last name = some .unhealthy) := by
  obtain ⟨hlast, hkinds⟩ := run_alerts name ticks
  have hnone : .skipped ∉ ticks.flatMap (·.recorded name) := by
    rw [List.mem_flatMap]
    rintro ⟨tick, htick, hmem⟩
    exact hskip tick htick hmem
  rw [hlast, hkinds]
  refine ⟨edges_isChain hnone, fun hhead => ?_, ?_⟩
  · exact absurd (edges_head (by decide) hnone _ hhead) (by decide)
  · have h : (edges none _).getLast?.or none = some .unhealthy ↔ _ :=
      edges_getLast (by decide) (by decide) hnone
    rwa [Option.or_none, Option.or_none] at h

def sampleProbes (openOrders : Nat) : Probes where
  postgres := (.ok (), 2)
  clickhouse := (.ok (), 3)
  shardsDisconnected := 0
  shards := "all WS shards connected"
  lastMessageAgeMs := some 40
  openOrders := some (.ok openOrders, 5)

def sampleTick (mode : ExecutionMode) (openOrders : Nat) : Tick :=
  ⟨.operational, mode, sampleProbes openOrders, .operational, mode⟩

theorem alerts_alternate_twice :
    (run [sampleTick .live 0, sampleTick .live 2, sampleTick .live 2, sampleTick .live 0]).kinds
        openOrdersName = [.unhealthy, .recovered] ∧
      ((run [sampleTick .live 0, sampleTick .live 2, sampleTick .live 2, sampleTick .live 0]).kinds
        openOrdersName).IsChain (· ≠ ·) :=
  ⟨by decide +kernel, (alerts_alternate (by decide +kernel)).1⟩

/-! ## After a skipped probe -/

/-- From an outcome that is not healthy, outcomes that are not healthy have no edge. -/
theorem edges_eq_nil {outcomes : List ProbeOutcome} {previous : ProbeOutcome}
    (hprevious : previous ≠ .healthy) (h : .healthy ∉ outcomes) :
    edges (some previous) outcomes = [] := by
  induction outcomes generalizing previous with
  | nil => rfl
  | cons outcome outcomes ih =>
    rw [List.mem_cons, not_or] at h
    have hedge : edge (some previous) outcome = none := by
      cases previous <;> cases outcome <;> first | rfl | simp_all
    rw [edges, hedge, Option.toList_none, List.nil_append]
    exact ih (Ne.symm h.1) h.2

theorem checkPool_name (name : String) (answer : Except String Unit × Nat) :
    (checkPool name answer).name = name := by
  rcases answer with ⟨_ | _, _⟩ <;> rfl

theorem checkWs_name (phase : OperationalPhase) (probes : Probes) :
    (checkWs phase probes).name = "websocket" := by
  unfold checkWs evaluateWsProbe
  repeat' split
  all_goals rfl

theorem checkOpenOrdersInvariant_name (mode : ExecutionMode)
    (openOrders : Option (Except String Nat × Nat)) :
    (checkOpenOrdersInvariant mode openOrders).name = openOrdersName := by
  unfold checkOpenOrdersInvariant
  repeat' split
  all_goals rfl

theorem recorded_openOrders {tick : Tick} (hphase : starting tick.phase = false) :
    tick.recorded openOrdersName =
      [(checkOpenOrdersInvariant tick.modeProbed tick.probes.openOrders).outcome] := by
  simp only [Tick.recorded, hphase, Bool.false_eq_true, if_false, Tick.checks, List.filter_cons,
    checkPool_name, checkWs_name, checkOpenOrdersInvariant_name]
  rfl

theorem recorded_of_starting {tick : Tick} (hphase : starting tick.phase = true) (name : String) :
    tick.recorded name = [] := by
  rw [Tick.recorded, if_pos hphase]

/-- The open orders are healthy only when the venue answers that there are none. -/
theorem openOrders_of_healthy {mode : ExecutionMode} {openOrders : Option (Except String Nat × Nat)}
    (h : (checkOpenOrdersInvariant mode openOrders).outcome = .healthy) :
    mode = .live ∧ ∃ latency, openOrders = some (.ok 0, latency) := by
  unfold checkOpenOrdersInvariant at h
  split at h
  · cases h
  · next hmode =>
    split at h <;> cases h
    exact ⟨not_not.mp hmode, _, rfl⟩

/-- **A violation that nobody is told of.** If the first tick that records was taken outside of live
mode, no alert about the open orders is dispatched until a check finds none: the venue may hold
orders, against the invariant of the execution, at every check after the switch to live mode. -/
theorem open_orders_silent {before : List Tick} {first : Tick} {ticks : List Tick}
    (hbefore : ∀ tick ∈ before, starting tick.phase = true) (hphase : starting first.phase = false)
    (hmode : first.modeProbed ≠ .live)
    (horders : ∀ tick ∈ ticks, tick.modeProbed = .live →
      ∀ latency, tick.probes.openOrders ≠ some (.ok 0, latency)) :
    (run (before ++ first :: ticks)).kinds openOrdersName = [] := by
  have hnothing : before.flatMap (·.recorded openOrdersName) = [] := by
    rw [List.flatMap_eq_nil_iff]
    exact fun tick htick => recorded_of_starting (hbefore tick htick) _
  have hskipped : (checkOpenOrdersInvariant first.modeProbed first.probes.openOrders).outcome =
      .skipped := by
    unfold checkOpenOrdersInvariant
    rw [if_pos hmode]
    rfl
  rw [(run_alerts openOrdersName _).2, List.flatMap_append, hnothing, List.nil_append,
    List.flatMap_cons, recorded_openOrders hphase, hskipped, List.singleton_append, edges]
  refine edges_eq_nil (by decide) (fun hmem => ?_)
  obtain ⟨tick, htick, hmem⟩ := List.mem_flatMap.mp hmem
  cases htickPhase : starting tick.phase with
  | true =>
    rw [recorded_of_starting htickPhase] at hmem
    exact absurd hmem List.not_mem_nil
  | false =>
    rw [recorded_openOrders htickPhase, List.mem_singleton] at hmem
    obtain ⟨hlive, latency, hnone⟩ := openOrders_of_healthy hmem.symm
    exact horders tick htick hlive latency hnone

theorem open_orders_silent_switched :
    (sampleTick .live 3).checks.map (·.outcome) = [.healthy, .healthy, .healthy, .unhealthy] ∧
      (run [sampleTick .paper 0, sampleTick .live 3, sampleTick .live 3]).kinds openOrdersName =
        [] := by
  have horders : ∀ tick ∈ [sampleTick .live 3, sampleTick .live 3], tick.modeProbed = .live →
      ∀ latency, tick.probes.openOrders ≠ some (.ok 0, latency) := by
    intro tick htick _ latency
    simp only [List.mem_cons, List.not_mem_nil, or_false, or_self] at htick
    subst htick
    simp [sampleTick, sampleProbes]
  have hsilent : (run ([] ++ sampleTick .paper 0 :: [sampleTick .live 3, sampleTick .live 3])).kinds
      openOrdersName = [] :=
    open_orders_silent (by simp) rfl (by decide) horders
  exact ⟨by decide +kernel, hsilent⟩

end OxideArb.Health
