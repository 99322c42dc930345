import OxideArb.Control.ModeTransition
import OxideArb.Lib.Prog
import OxideArb.Lib.Transition
import OxideArb.Valuation.EquityValuator

/-!
# The risk metrics and their refresh

A refresh reads cash and positions and publishes in four stores; refreshes and `mark_stale`
interleave at every step. Flag and snapshot are right along a run exactly when no refresh clears
a mark that nothing answers and none stores over a later one (`Timely`).
-/

namespace OxideArb

open Transition
open Control (RiskMetricsSource)

structure OpenPosition extends PositionInfo where
  side : Side
deriving DecidableEq, Repr

structure MetricsSnapshot where
  cashBalance : Usd
  positions : List OpenPosition
  totalPositionExposure : Usd
  positionMarkValue : Usd
  equity : Usd
  marketPositionExposures : MarketId → Usd
  openPositionCount : Nat
  openBuyCount : Nat
  openSellCount : Nat
  refreshSequence : Nat

def MetricsSnapshot.initial : MetricsSnapshot where
  cashBalance := 0
  positions := []
  totalPositionExposure := 0
  positionMarkValue := 0
  equity := 0
  marketPositionExposures := fun _ => 0
  openPositionCount := 0
  openBuyCount := 0
  openSellCount := 0
  refreshSequence := 0

structure RiskMetricsState where
  snapshot : MetricsSnapshot
  stale : Bool
  lastSuccessfulRefresh : Nat
  source : RiskMetricsSource

namespace RiskMetricsState

def new (nowMs : Nat) : RiskMetricsState where
  snapshot := .initial
  stale := true
  lastSuccessfulRefresh := nowMs
  source := .neverRefreshed

variable (s : RiskMetricsState)

def markStale : RiskMetricsState := { s with stale := true }

/-- A new bankroll moves the simulated cash by the difference and keeps the rest. -/
def reload (previousBankroll nextBankroll : Usd) : RiskMetricsState :=
  if previousBankroll = nextBankroll then s
  else if s.source = .simulatedDryRun ∨ s.source = .simulatedPaper then
    let cashBalance := s.snapshot.cashBalance + (nextBankroll - previousBankroll)
    { s with
      snapshot := { s.snapshot with
        cashBalance
        equity := cashBalance + s.snapshot.positionMarkValue
        refreshSequence := s.snapshot.refreshSequence + 1 } }
  else s

@[simp] theorem stale_reload (previousBankroll nextBankroll : Usd) :
    (s.reload previousBankroll nextBankroll).stale = s.stale := by
  unfold reload
  split
  · rfl
  · split <;> rfl

end RiskMetricsState

/-! ## A refresh, step by step -/

/-- What a refresh reads elsewhere, at the moment of a step: the venue answers only if
there is a client. -/
structure MetricsWorld where
  executionMode : ExecutionMode
  collateralBalance : Option (Except String Usd)
  bankrollUsd : Usd
  successfulSpendTotal : ExecutionMode → Except String Usd
  settlementPayoutTotal : ExecutionMode → Except String Usd
  findOpen : ExecutionMode → Except String (List OpenPosition)
  equityValuator : EquityValuator
  now : DateTime

inductive MetricsError
  | internal (message : String)
  | clob (message : String)
  | storage (message : String)
deriving DecidableEq, Repr

inductive Refresh
  | readCash (mode : ExecutionMode)
  | readSpend (mode : ExecutionMode) (bankroll : Usd)
  | readPayout (mode : ExecutionMode) (bankroll spend : Usd)
  | readPositions (mode : ExecutionMode) (cashBalance : Usd)
  | value (mode : ExecutionMode) (cashBalance : Usd) (positions : List OpenPosition)
  | build (mode : ExecutionMode) (cashBalance : Usd) (positions : List OpenPosition)
      (positionMarkValue : Usd)
  | storeSnapshot (mode : ExecutionMode) (snapshot : MetricsSnapshot)
  | clearStale (mode : ExecutionMode)
  | storeSource (mode : ExecutionMode)
  | storeTime
  | ended (result : Except MetricsError Unit)

def refreshSource : ExecutionMode → RiskMetricsSource
  | .live => .authoritativeClob
  | .dryRun => .simulatedDryRun
  | .paper => .simulatedPaper

def MetricsSnapshot.addPosition (acc : MetricsSnapshot) (p : OpenPosition) : MetricsSnapshot :=
  { acc with
    totalPositionExposure := acc.totalPositionExposure + p.totalCostUsd
    marketPositionExposures := Function.update acc.marketPositionExposures p.marketId
      (acc.marketPositionExposures p.marketId + p.totalCostUsd)
    openBuyCount := acc.openBuyCount + if p.side = .buy then 1 else 0
    openSellCount := acc.openSellCount + if p.side = .sell then 1 else 0 }

def MetricsSnapshot.ofPositions (cashBalance : Usd) (positions : List OpenPosition)
    (positionMarkValue : Usd) (prev : MetricsSnapshot) : MetricsSnapshot :=
  { positions.foldl addPosition .initial with
    cashBalance
    openPositionCount := positions.length
    positionMarkValue
    equity := cashBalance + positionMarkValue
    positions
    refreshSequence := prev.refreshSequence + 1 }

namespace Refresh

variable (w : MetricsWorld) (s : RiskMetricsState)

/-- One step of a refresh: a call it awaits, or one of its loads and stores. -/
def advance : Refresh → RiskMetricsState × Refresh
  | readCash .live =>
    match w.collateralBalance with
    | none => (s, ended (.error (.internal "Live risk metrics refresh requires a ClobClient")))
    | some (.error e) => (s, ended (.error (.clob e)))
    | some (.ok balance) => (s, readPositions .live balance)
  | readCash mode => (s, readSpend mode w.bankrollUsd)
  | readSpend mode bankroll =>
    match w.successfulSpendTotal mode with
    | .error e => (s, ended (.error (.storage e)))
    | .ok spend => (s, readPayout mode bankroll spend)
  | readPayout mode bankroll spend =>
    match w.settlementPayoutTotal mode with
    | .error e => (s, ended (.error (.storage e)))
    | .ok payout => (s, readPositions mode (bankroll - spend + payout))
  | readPositions mode cashBalance =>
    match w.findOpen mode with
    | .error e => (s, ended (.error (.storage e)))
    | .ok positions => (s, value mode cashBalance positions)
  | value mode cashBalance positions =>
    let (positionMarkValue, _) :=
      w.equityValuator.value (positions.map (·.toPositionInfo)) w.now
    (s, build mode cashBalance positions positionMarkValue)
  | build mode cashBalance positions positionMarkValue =>
    (s, storeSnapshot mode (.ofPositions cashBalance positions positionMarkValue s.snapshot))
  | storeSnapshot mode snapshot => ({ s with snapshot }, clearStale mode)
  | clearStale mode => ({ s with stale := false }, storeSource mode)
  | storeSource mode => ({ s with source := refreshSource mode }, storeTime)
  | storeTime => ({ s with lastSuccessfulRefresh := timestampMillis w.now }, ended (.ok ()))
  | ended result => (s, ended result)

/-- The next step replaces the snapshot. -/
def stores : Refresh → Bool
  | storeSnapshot _ _ => true
  | _ => false

def clears : Refresh → Bool
  | clearStale _ => true
  | _ => false

theorem advance_stale (r : Refresh) :
    (r.advance w s).1.stale = if r.clears then false else s.stale := by
  fun_cases advance w s r <;> rfl

theorem advance_clears (r : Refresh) : (r.advance w s).2.clears = r.stores := by
  fun_cases advance w s r <;> rfl

variable {r : Refresh}

theorem not_stores_of_clears (h : r.clears) : ¬ r.stores := by
  cases r <;> first | exact Bool.false_ne_true | exact absurd h Bool.false_ne_true

end Refresh

/-! ## Marks and refreshes interleaved -/

/-- The state with the refreshes in the order in which they began. `marks` and `stored` are
the history: for each mark, how many refreshes had begun before it, and the refreshes whose
snapshot was stored, newest first. -/
structure Metrics where
  state : RiskMetricsState
  refreshes : List Refresh
  marks : List Nat
  stored : List Nat

inductive MetricsStep
  | markStale
  | reload (previousBankroll nextBankroll : Usd)
  | begin (world : MetricsWorld)
  | advance (refresh : Nat) (world : MetricsWorld)

namespace Metrics

variable (nowMs : Nat)

def new : Metrics where
  state := .new nowMs
  refreshes := []
  marks := []
  stored := []

def step (m : Metrics) : MetricsStep → Metrics
  | .markStale =>
    { m with state := m.state.markStale, marks := m.refreshes.length :: m.marks }
  | .reload previousBankroll nextBankroll =>
    { m with state := m.state.reload previousBankroll nextBankroll }
  | .begin world => { m with refreshes := m.refreshes ++ [.readCash world.executionMode] }
  | .advance i world =>
    match m.refreshes[i]? with
    | none => m
    | some r =>
      { m with
        state := (r.advance world m.state).1
        refreshes := m.refreshes.set i (r.advance world m.state).2
        stored := if r.stores then i :: m.stored else m.stored }

def Answered (m : Metrics) (mark : Nat) : Prop := ∃ i ∈ m.stored, mark ≤ i

/-- The metrics are stale as long as a mark is unanswered, and no snapshot was replaced by
one of a refresh that began to read earlier. -/
structure Sound (m : Metrics) : Prop where
  staleUntilAnswered : ∀ mark ∈ m.marks, m.state.stale = true ∨ m.Answered mark
  inputsInOrder :
    Log.Every (fun i earlier => ∀ replaced ∈ earlier.head?, replaced ≤ i) m.stored

/-- A refresh that is about to store began no earlier than the one whose snapshot it
replaces; one that is about to clear the flag began after each mark, or another answered
the mark already. -/
def Timely (m : Metrics) : MetricsStep → Prop
  | .advance i _ =>
    ∀ r ∈ m.refreshes[i]?,
      (r.stores → ∀ replaced ∈ m.stored.head?, replaced ≤ i) ∧
      (r.clears → ∀ mark ∈ m.marks, mark ≤ i ∨ m.Answered mark)
  | _ => True

def StoredFirst (m : Metrics) : Prop :=
  ∀ (i : Nat) (r : Refresh), m.refreshes[i]? = some r → r.clears → i ∈ m.stored

variable {m : Metrics} {a : MetricsStep}

theorem storedFirst_step (h : m.StoredFirst) (a : MetricsStep) : (m.step a).StoredFirst := by
  cases a with
  | markStale => exact h
  | reload previousBankroll nextBankroll => exact h
  | begin world =>
    intro i r hr hclears
    rcases lt_or_ge i m.refreshes.length with hi | hi
    · refine h i r ?_ hclears
      rwa [step, List.getElem?_append_left hi] at hr
    · -- the new refresh has nothing to clear yet
      have hnew : r ∈ [Refresh.readCash world.executionMode] := by
        rw [step, List.getElem?_append_right hi] at hr
        exact List.mem_of_getElem? hr
      rw [List.mem_singleton.mp hnew] at hclears
      exact absurd hclears Bool.false_ne_true
  | advance j world =>
    intro i r hr hclears
    cases hj : m.refreshes[j]? with
    | none =>
      simp only [step, hj] at hr ⊢
      exact h i r hr hclears
    | some q =>
      simp only [step, hj] at hr ⊢
      by_cases hij : j = i
      · subst hij
        rw [List.getElem?_set_self (List.getElem?_eq_some_iff.mp hj).1, Option.some.injEq] at hr
        rw [← hr, q.advance_clears] at hclears
        rw [if_pos hclears]
        exact List.mem_cons_self
      · rw [List.getElem?_set_ne hij] at hr
        have hi := h i r hr hclears
        split
        · exact List.mem_cons_of_mem j hi
        · exact hi

theorem storedFirst_new : (new nowMs).StoredFirst :=
  fun _ _ hr => nomatch hr

theorem sound_new : (new nowMs).Sound := ⟨nofun, trivial⟩

theorem answered_advance {mark : Nat} (h : m.Answered mark) (i : Nat) (w : MetricsWorld) :
    (m.step (.advance i w)).Answered mark := by
  obtain ⟨j, hj, hmark⟩ := h
  refine ⟨j, ?_, hmark⟩
  cases hi : m.refreshes[i]? with
  | none => simpa only [step, hi] using hj
  | some r =>
    simp only [step, hi]
    split
    · exact List.mem_cons_of_mem i hj
    · exact hj

theorem sound_step (hstored : m.StoredFirst) (h : m.Sound) (ha : m.Timely a) :
    (m.step a).Sound := by
  cases a with
  | markStale => exact ⟨fun _ _ => .inl rfl, h.inputsInOrder⟩
  | reload previousBankroll nextBankroll =>
    refine ⟨fun mark hmark => ?_, h.inputsInOrder⟩
    rw [step, RiskMetricsState.stale_reload]
    exact h.staleUntilAnswered mark hmark
  | begin world => exact ⟨h.staleUntilAnswered, h.inputsInOrder⟩
  | advance i world =>
    have hanswered := fun mark (hmark : m.Answered mark) => answered_advance hmark i world
    cases hi : m.refreshes[i]? with
    | none =>
      simp only [step, hi]
      exact h
    | some r =>
      obtain ⟨hstores, hclears⟩ := ha r hi
      simp only [step, hi] at hanswered ⊢
      refine ⟨fun mark hmark => ?_, ?_⟩
      · cases hc : r.clears with
        | true =>
          refine .inr (hanswered mark ?_)
          exact (hclears hc mark hmark).elim (fun hle => ⟨i, hstored i r hi hc, hle⟩) id
        | false =>
          refine (h.staleUntilAnswered mark hmark).imp (fun hstale => ?_) (hanswered mark)
          simpa [r.advance_stale, hc] using hstale
      · cases hs : r.stores with
        | true => exact ⟨hstores hs, h.inputsInOrder⟩
        | false => exact h.inputsInOrder

theorem timely_of_sound_step (h : (m.step a).Sound) : m.Timely a := by
  cases a with
  | markStale => trivial
  | reload previousBankroll nextBankroll => trivial
  | begin world => trivial
  | advance i world =>
    intro r hi
    simp only [step, Option.mem_def.mp hi] at h
    refine ⟨fun hs => ?_, fun hc mark hmark => .inr ?_⟩
    · have horder := h.inputsInOrder
      rw [if_pos hs] at horder
      exact horder.newest
    · -- the flag is down after the step and the step stores nothing
      have hstale : (r.advance world m.state).1.stale = false := by
        rw [r.advance_stale, if_pos hc]
      have hanswered := (h.staleUntilAnswered mark hmark).resolve_left (by simp [hstale])
      rwa [Answered, if_neg (Refresh.not_stores_of_clears hc)] at hanswered

def sampleWorld (spend : Usd) (positions : List OpenPosition) : MetricsWorld where
  executionMode := .dryRun
  collateralBalance := none
  bankrollUsd := 1000
  successfulSpendTotal := fun _ => .ok spend
  settlementPayoutTotal := fun _ => .ok 0
  findOpen := fun _ => .ok positions
  equityValuator := EquityValuator.sampleValuator 955000
  now := Duration.seconds 1000

def worldBefore : MetricsWorld := sampleWorld 0 []

def worldAfter : MetricsWorld :=
  sampleWorld 97 [{ EquityValuator.samplePosition with side := .buy }]

/-- A refresh up to its stores, with a fill booked and marked before the first of them. -/
def markedDuringRefresh : List MetricsStep :=
  .begin worldBefore :: .replicate 6 (.advance 0 worldBefore) ++
    .markStale :: .replicate 2 (.advance 0 worldAfter)

def overtakenRefresh : List MetricsStep :=
  .begin worldBefore :: .replicate 6 (.advance 0 worldBefore) ++
    .begin worldAfter :: .replicate 10 (.advance 1 worldAfter)

end Metrics

end OxideArb
