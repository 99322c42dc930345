import OxideArb.ControlFactor.Acquisition
import OxideArb.Types.Basic

/-!
# Transition, retry and cancellation of a materialization run

Each call is a transaction: it reads the run, updates it where it still has the status read, and
reads it again for the answer. An update waits for the row lock and then sees the last committed
row; the number of rows it has changed is not looked at.
-/

open Transition

namespace OxideArb.ControlFactor.RunTransitions

structure Run where
  status : MaterializationRunStatus
  startedAt : Option DateTime
  finishedAt : Option DateTime
  failureCode : Option String
  failureDetail : Option String
  report : Option String
  reportUri : Option String
deriving DecidableEq, Repr

structure MaterializationRunStatusPatch where
  finishedAt : Option DateTime
  failureCode : Option String
  failureDetail : Option String
  report : Option String
  reportUri : Option String
deriving DecidableEq, Repr

def Run.patched (run : Run) (target : MaterializationRunStatus)
    (patch : MaterializationRunStatusPatch) : Run where
  status := target
  startedAt := run.startedAt
  finishedAt := patch.finishedAt.or run.finishedAt
  failureCode := patch.failureCode.or run.failureCode
  failureDetail := patch.failureDetail.or run.failureDetail
  report := patch.report.or run.report
  reportUri := patch.reportUri.or run.reportUri

/-- `RunTransitionOutcome`, `CancelMaterializationRunOutcome` and the error before any query. -/
inductive Outcome
  | transitioned (run : Run)
  | invalidTransition (currentStatus : MaterializationRunStatus)
  | cancelled (run : Run)
  | alreadyTerminal (run : Run)
  | notFound
  | codec (message : String)
deriving DecidableEq, Repr

inductive Call
  | transition (expectedFrom target : MaterializationRunStatus)
    (patch : MaterializationRunStatusPatch)
  | retry
  | cancel (reason : String) (cancelledAt : DateTime)
deriving DecidableEq, Repr

namespace Call

def target : Call → MaterializationRunStatus
  | transition _ target _ => target
  | retry => .queued
  | cancel .. => .cancelled

/-- The statuses from which the call may move the run. -/
def expects : Call → MaterializationRunStatus → Bool
  | transition expectedFrom .., status => status = expectedFrom
  | retry, status => status = .failed ∨ status = .cancelled
  | cancel .., status => !isTerminalRunStatus status

def update : Call → Run → Run
  | transition _ target patch, run => run.patched target patch
  | retry, run =>
    { run with
      status := .queued
      startedAt := none
      finishedAt := none
      failureCode := none
      failureDetail := none }
  | cancel reason cancelledAt, run =>
    run.patched .cancelled ⟨some cancelledAt, some "run.cancelled", some reason, none, none⟩

def success : Call → Run → Outcome
  | cancel .., run => .cancelled run
  | _, run => .transitioned run

theorem update_status (call : Call) (run : Run) : (call.update run).status = call.target := by
  cases call <;> rfl

end Call

inductive Phase
  | opened
  /-- A cancellation has read the run and calls the transition. -/
  | cancelling
  | checked
  | updated
  /-- The transition of a cancellation has found another status. -/
  | overtaken
  | decided (outcome : Outcome)
deriving DecidableEq, Repr

/-- Nothing has been written, and the answer, if there is one, is a refusal. -/
def Phase.quiet : Phase → Bool
  | cancelling | checked | updated | decided (.transitioned _) | decided (.cancelled _) => false
  | _ => true

/-- An open call: the status its update asks for, the row it has written, and the status its
update met. -/
structure Txn where
  call : Call
  phase : Phase
  expected : Option MaterializationRunStatus
  own : Option Run
  found : Option MaterializationRunStatus
deriving DecidableEq, Repr

namespace Txn

def start (call : Call) : Txn :=
  { call
    phase :=
      match call with
      | .transition _ .failed patch =>
        if patch.failureCode.isNone then
          .decided (.codec "failed materialization transition requires failure_code")
        else .opened
      | _ => .opened
    expected := none
    own := none
    found := none }

def goto (t : Txn) (phase : Phase) : Txn := { t with phase }

def first (t : Txn) (run : Run) : Txn :=
  if t.call.expects run.status then
    { t with
      expected := some run.status
      phase := match t.call with | .cancel .. => .cancelling | _ => .checked }
  else
    t.goto (.decided (match t.call with
      | .cancel .. => .alreadyTerminal run
      | _ => .invalidTransition run.status))

/-- The next query of the call, which sees `row`. -/
def read (t : Txn) (row : Option Run) : Option Txn :=
  match t.phase, row with
  | .checked, _ | .decided _, _ => none
  | _, none => some (t.goto (.decided .notFound))
  | .opened, some run => some (t.first run)
  | .cancelling, some run =>
    some (t.goto (if t.expected = some run.status then .checked else .overtaken))
  | .updated, some run => some (t.goto (.decided (t.call.success run)))
  | .overtaken, some run => some (t.goto (.decided (.alreadyTerminal run)))

def write (t : Txn) (row : Option Run) : Txn :=
  { t with
    phase := .updated
    found := row.map (·.status)
    own := row.bind fun run =>
      if t.expected = some run.status then some (t.call.update run) else none }

end Txn

/-- The answer of a committed call, with the change of the row it has made. -/
structure Answer where
  call : Call
  outcome : Outcome
  expected : Option MaterializationRunStatus
  found : Option MaterializationRunStatus
  moved : Option (Run × Run)
deriving DecidableEq, Repr

def Txn.answer (t : Txn) (outcome : Outcome) (row : Option Run) : Answer :=
  ⟨t.call, outcome, t.expected, t.found, t.own.bind fun after => row.map (·, after)⟩

namespace Answer

/-- Success is answered for the call's own move from the expected status to the target, with the
row so written. -/
def Sound (a : Answer) : Prop :=
  match a.outcome with
  | .transitioned run | .cancelled run =>
    ∃ before, a.moved = some (before, run) ∧ a.expected = some before.status ∧
      a.call.expects before.status = true ∧ run.status = a.call.target
  | .invalidTransition _ | .alreadyTerminal _ | .notFound | .codec _ => a.moved = none

/-- The update, if there was one, met the status that the call has read. -/
def Current (a : Answer) : Prop := ∀ status ∈ a.found, a.expected = some status

end Answer

structure State where
  row : Option Run
  writer : Option Nat
  txns : Nat → Option Txn
  answers : List Answer

inductive Label
  | start (id : Nat) (call : Call)
  | read (id : Nat)
  | update (id : Nat)
  | commit (id : Nat)
  | abort (id : Nat)
  /-- A worker acquires the run. -/
  | acquire (startedAt : DateTime)

namespace State

def initial (row : Option Run) : State := ⟨row, none, fun _ => none, []⟩

variable (s : State)

def set (id : Nat) (t : Option Txn) : State := { s with txns := Function.update s.txns id t }

def unlock (t : Txn) : Option Nat := if t.own.isSome then none else s.writer

def commit (id : Nat) (t : Txn) (outcome : Outcome) : State :=
  { s.set id none with
    row := t.own.or s.row
    writer := s.unlock t
    answers := s.answers ++ [t.answer outcome s.row] }

def next : Label → Option State
  | .start id call => if s.txns id = none then some (s.set id (Txn.start call)) else none
  | .read id => do
    let t ← s.txns id
    let t' ← t.read (t.own.or s.row)
    some (s.set id t')
  | .update id => do
    let t ← s.txns id
    if t.phase = .checked ∧ s.writer = none then
      let t' := t.write s.row
      some { s.set id t' with writer := t'.own.map fun _ => id }
    else none
  | .commit id => do
    let t ← s.txns id
    match t.phase with
    | .decided outcome => some (s.commit id t outcome)
    | _ => none
  | .abort id => do
    let t ← s.txns id
    some { s.set id none with writer := s.unlock t }
  | .acquire startedAt =>
    if s.writer = none then
      some { s with row := s.row.map fun run =>
        if run.status = .queued then { run with status := .running, startedAt := some startedAt }
        else run }
    else none

end State

/-! ## The invariant -/

namespace Txn

variable {t t' : Txn} {row row' : Option Run}

/-- The update has changed the row that is still committed. -/
structure Held (t : Txn) (row : Option Run) (before : Run) : Prop where
  row : row = some before
  expected : t.expected = some before.status
  expects : t.call.expects before.status = true
  found : t.found = some before.status
  own : t.own = some (t.call.update before)

structure Missed (t : Txn) (row : Option Run) (status : MaterializationRunStatus) : Prop where
  row : row.isSome = true
  own : t.own = none
  found : t.found = some status
  expected : t.expected ≠ some status

structure Unwritten (t : Txn) : Prop where
  own : t.own = none
  found : t.found = none

structure Ready (t : Txn) (row : Option Run) (status : MaterializationRunStatus) : Prop
    extends t.Unwritten where
  row : row.isSome = true
  expected : t.expected = some status
  expects : t.call.expects status = true

/-- What is known of a call in each of its phases. -/
inductive Ok (t : Txn) (row : Option Run) : Prop
  | quiet (hphase : t.phase.quiet = true) (h : t.Unwritten)
  | ready (hphase : t.phase = .cancelling ∨ t.phase = .checked)
    (status : MaterializationRunStatus) (h : t.Ready row status)
  | held (before : Run)
    (hphase : t.phase = .updated ∨ t.phase = .decided (t.call.success (t.call.update before)))
    (h : t.Held row before)
  | missed (hphase : t.phase = .updated ∨ ∃ run, t.phase = .decided (t.call.success run))
    (status : MaterializationRunStatus) (h : t.Missed row status)

namespace Ok

theorem start (call : Call) : (Txn.start call).Ok row := by
  refine .quiet ?_ ⟨rfl, rfl⟩
  unfold Txn.start
  dsimp only
  split
  · split <;> rfl
  · rfl

/-- What a call that has written nothing knows does not depend on the data of the row. -/
theorem of_own_none (h : t.Ok row) (hown : t.own = none)
    (hrow : row.isSome = true → row'.isSome = true) : t.Ok row' := by
  cases h with
  | quiet hphase h => exact .quiet hphase h
  | ready hphase status h => exact .ready hphase status { h with row := hrow h.row }
  | held before hphase h => cases hown.symm.trans h.own
  | missed hphase status h => exact .missed hphase status { h with row := hrow h.row }

theorem first (h : t.Unwritten) {run : Run} : (t.first run).Ok (some run) := by
  unfold Txn.first
  split
  · rename_i hexpects
    refine .ready ?_ run.status ⟨⟨h.own, h.found⟩, rfl, rfl, hexpects⟩
    dsimp only
    split
    · exact .inl rfl
    · exact .inr rfl
  · refine .quiet ?_ ⟨h.own, h.found⟩
    unfold Txn.goto
    dsimp only
    split <;> rfl

theorem read (h : t.Ok row) (hr : t.read (t.own.or row) = some t') :
    t'.Ok row ∧ t'.own = t.own := by
  cases h with
  | quiet hphase h =>
    rw [h.own, Option.none_or] at hr
    unfold Txn.read at hr
    split at hr
    · cases hr
    · cases hr
    · cases hr
      exact ⟨.quiet rfl ⟨h.own, h.found⟩, rfl⟩
    · cases hr
      refine ⟨.first h, ?_⟩
      unfold Txn.first
      split <;> rfl
    · rename_i hp
      rw [hp] at hphase
      cases hphase
    · rename_i hp
      rw [hp] at hphase
      cases hphase
    · cases hr
      exact ⟨.quiet rfl ⟨h.own, h.found⟩, rfl⟩
  | ready hphase status h =>
    obtain ⟨run, rfl⟩ := Option.isSome_iff_exists.mp h.row
    obtain hp | hp := hphase
    · simp only [Txn.read, hp, h.own, Option.none_or, Option.some.injEq] at hr
      subst hr
      refine ⟨?_, rfl⟩
      by_cases hs : t.expected = some run.status
      · rw [if_pos hs]
        exact .ready (.inr rfl) status ⟨⟨h.own, h.found⟩, rfl, h.expected, h.expects⟩
      · rw [if_neg hs]
        exact .quiet rfl ⟨h.own, h.found⟩
    · simp [Txn.read, hp] at hr
  | held before hphase h =>
    obtain hp | hp := hphase
    · simp only [Txn.read, hp, h.own, Option.some_or, Option.some.injEq] at hr
      subst hr
      exact ⟨.held before (.inr rfl) ⟨h.row, h.expected, h.expects, h.found, h.own⟩, rfl⟩
    · simp [Txn.read, hp] at hr
  | missed hphase status h =>
    obtain ⟨run, rfl⟩ := Option.isSome_iff_exists.mp h.row
    obtain hp | ⟨_, hp⟩ := hphase
    · simp only [Txn.read, hp, h.own, Option.none_or, Option.some.injEq] at hr
      subst hr
      exact ⟨.missed (.inr ⟨run, rfl⟩) status ⟨rfl, h.own, h.found, h.expected⟩, rfl⟩
    · simp [Txn.read, hp] at hr

theorem write (h : t.Ok row) (hphase : t.phase = .checked) : (t.write row).Ok row := by
  cases h with
  | quiet hp h => rw [hphase] at hp; cases hp
  | held before hp h => rw [hphase] at hp; obtain hp | hp := hp <;> cases hp
  | missed hp status h => rw [hphase] at hp; obtain hp | ⟨_, hp⟩ := hp <;> cases hp
  | ready hp status h =>
    obtain ⟨run, rfl⟩ := Option.isSome_iff_exists.mp h.row
    by_cases hs : t.expected = some run.status
    · refine .held run (.inl rfl) ⟨rfl, hs, ?_, rfl, if_pos hs⟩
      cases h.expected.symm.trans hs
      exact h.expects
    · exact .missed (.inl rfl) run.status ⟨rfl, if_neg hs, rfl, hs⟩

end Ok

end Txn

theorem Answer.sound_success {a : Answer} {run : Run} (h : a.outcome = a.call.success run) :
    a.Sound ↔ ∃ before, a.moved = some (before, run) ∧ a.expected = some before.status ∧
      a.call.expects before.status = true ∧ run.status = a.call.target := by
  unfold Answer.Sound
  rw [h]
  cases a.call <;> rfl

/-- The answer of a call is sound exactly if its update met the status read. -/
theorem Txn.Ok.answer_sound_iff {t : Txn} {row : Option Run} (h : t.Ok row) {outcome : Outcome}
    (hphase : t.phase = .decided outcome) :
    (t.answer outcome row).Sound ↔ (t.answer outcome row).Current := by
  cases h with
  | quiet hp h =>
    rw [hphase] at hp
    refine iff_of_true ?_ (by simp [Answer.Current, answer, h.found])
    unfold Answer.Sound
    cases outcome with
    | transitioned _ | cancelled _ => cases hp
    | invalidTransition _ | alreadyTerminal _ | notFound | codec _ => simp [answer, h.own]
  | ready hp =>
    rw [hphase] at hp
    obtain hp | hp := hp <;> cases hp
  | held before hp h =>
    rw [hphase] at hp
    obtain hp | hp := hp
    · cases hp
    · cases hp
      have hmoved : (t.answer (t.call.success (t.call.update before)) row).moved =
          some (before, t.call.update before) := by
        simp [answer, h.own, h.row]
      refine iff_of_true ((Answer.sound_success rfl).mpr ?_) ?_
      · exact ⟨before, hmoved, h.expected, h.expects, t.call.update_status before⟩
      · simp [Answer.Current, answer, h.found, h.expected]
  | missed hp status h =>
    rw [hphase] at hp
    obtain hp | ⟨run, hp⟩ := hp
    · cases hp
    · cases hp
      refine iff_of_false (fun hs => ?_) fun hc => h.expected (hc status h.found)
      obtain ⟨before, hmoved, -⟩ := (Answer.sound_success rfl).mp hs
      simp [answer, h.own] at hmoved

namespace State

variable {s s' : State} {id : Nat} {t : Txn}

structure Inv (s : State) : Prop where
  txns : ∀ id t, s.txns id = some t → t.Ok s.row
  writer : ∀ id t, s.txns id = some t → t.own.isSome = true → s.writer = some id
  answers : ∀ a ∈ s.answers, a.Sound ↔ a.Current

theorem set_txns {t' : Option Txn} {k : Nat} {u : Txn} (h : (s.set id t').txns k = some u) :
    k = id ∧ t' = some u ∨ k ≠ id ∧ s.txns k = some u := by
  by_cases hk : k = id
  · subst hk
    exact .inl ⟨rfl, by simpa [set] using h⟩
  · exact .inr ⟨hk, by simpa [set, hk] using h⟩

namespace Inv

variable (h : s.Inv)

include h

/-- No call has written while nothing holds the row. -/
theorem own_none (hfree : s.writer = none) (ht : s.txns id = some t) : t.own = none := by
  by_contra hown
  cases hfree.symm.trans (h.writer id t ht (Option.isSome_iff_ne_none.mpr hown))

theorem set (hok : t.Ok s.row) (hown : t.own.isSome = true → s.writer = some id) :
    (s.set id t).Inv := by
  refine ⟨fun k u hu => ?_, fun k u hu => ?_, h.answers⟩
  · obtain ⟨-, htu⟩ | ⟨-, hu⟩ := set_txns hu
    · exact Option.some.inj htu ▸ hok
    · exact h.txns k u hu
  · obtain ⟨rfl, htu⟩ | ⟨-, hu⟩ := set_txns hu
    · exact Option.some.inj htu ▸ hown
    · exact h.writer k u hu

theorem update (hfree : s.writer = none) (ht : s.txns id = some t) (hphase : t.phase = .checked) :
    State.Inv { s.set id (t.write s.row) with writer := (t.write s.row).own.map fun _ => id } := by
  refine ⟨fun k u hu => ?_, fun k u hu hown => ?_, h.answers⟩
  · obtain ⟨-, htu⟩ | ⟨-, hu⟩ := set_txns hu
    · exact Option.some.inj htu ▸ (h.txns id t ht).write hphase
    · exact h.txns k u hu
  · obtain ⟨rfl, htu⟩ | ⟨-, hu⟩ := set_txns hu
    · cases htu
      obtain ⟨run, hrun⟩ := Option.isSome_iff_exists.mp hown
      simp [hrun]
    · rw [h.own_none hfree hu] at hown
      cases hown

/-- When a call ends, its lock goes, and the calls that are left have written nothing if it
has. -/
theorem ended (ht : s.txns id = some t) {row : Option Run} (hrow : t.own = none → row = s.row)
    (hsome : s.row.isSome = true → row.isSome = true) {answers : List Answer}
    (ha : ∀ a ∈ answers, a.Sound ↔ a.Current) :
    State.Inv { s.set id none with row, writer := s.unlock t, answers } := by
  have hother : ∀ k u, k ≠ id → s.txns k = some u → t.own.isSome = true → u.own = none := by
    intro k u hk hu hown
    by_contra hsome
    have hku := h.writer k u hu (Option.isSome_iff_ne_none.mpr hsome)
    cases hku.symm.trans (h.writer id t ht hown)
    exact hk rfl
  refine ⟨fun k u hu => ?_, fun k u hu hown => ?_, ha⟩
  · obtain ⟨-, hu⟩ | ⟨hk, hu⟩ := set_txns hu
    · cases hu
    · by_cases hown : t.own.isSome = true
      · exact (h.txns k u hu).of_own_none (hother k u hk hu hown) hsome
      · rw [hrow (Option.not_isSome_iff_eq_none.mp hown)]
        exact h.txns k u hu
  · obtain ⟨-, hu⟩ | ⟨hk, hu⟩ := set_txns hu
    · cases hu
    · by_cases ht' : t.own.isSome = true
      · rw [hother k u hk hu ht'] at hown
        cases hown
      · unfold unlock
        rw [if_neg ht']
        exact h.writer k u hu hown

theorem next {l : Label} (hn : s.next l = some s') : s'.Inv := by
  cases l with
  | start id call =>
    obtain ⟨-, hn⟩ := Option.ite_none_right_eq_some.mp hn
    cases hn
    exact h.set (.start call) nofun
  | read id =>
    obtain ⟨t, ht, hn⟩ := Option.bind_eq_some_iff.mp hn
    obtain ⟨t', hr, hn⟩ := Option.bind_eq_some_iff.mp hn
    cases hn
    obtain ⟨hok, hown⟩ := (h.txns id t ht).read hr
    exact h.set hok fun hsome => h.writer id t ht (hown ▸ hsome)
  | update id =>
    obtain ⟨t, ht, hn⟩ := Option.bind_eq_some_iff.mp hn
    obtain ⟨⟨hphase, hfree⟩, hn⟩ := Option.ite_none_right_eq_some.mp hn
    cases hn
    exact h.update hfree ht hphase
  | commit id =>
    obtain ⟨t, ht, hn⟩ := Option.bind_eq_some_iff.mp hn
    split at hn
    · rename_i outcome hphase
      cases hn
      refine h.ended ht (fun hown => by rw [hown, Option.none_or]) (by simp +contextual) ?_
      intro a ha
      rcases List.mem_append.mp ha with hold | hnew
      · exact h.answers a hold
      · rw [List.mem_singleton.mp hnew]
        exact (h.txns id t ht).answer_sound_iff hphase
    · cases hn
  | abort id =>
    obtain ⟨t, ht, hn⟩ := Option.bind_eq_some_iff.mp hn
    cases hn
    exact h.ended ht (fun _ => rfl) (fun hsome => hsome) h.answers
  | acquire startedAt =>
    obtain ⟨hfree, hn⟩ := Option.ite_none_right_eq_some.mp hn
    cases hn
    refine ⟨fun k u hu => ?_, h.writer, h.answers⟩
    exact (h.txns k u hu).of_own_none (h.own_none hfree hu) (by simp)

end Inv

/-- **In every interleaving a call answers success for its own move** exactly if its update met
the status that it has read. -/
theorem answers_sound_iff {row : Option Run} {labels : List Label}
    (hrun : exec next (initial row) labels = some s) {a : Answer} (ha : a ∈ s.answers) :
    a.Sound ↔ a.Current := by
  have hstart : (initial row).Inv := ⟨by simp [initial], by simp [initial], by simp [initial]⟩
  exact (exec_preserves Inv (fun _ _ _ h hn => h.next hn) hstart hrun).answers a ha

end State

/-! ### A run that completes while it is cancelled -/

def runningRun : Run := ⟨.running, some 100, none, none, none, none, none⟩

def completion : Call := .transition .running .completed ⟨some 200, none, none, none, none⟩

def completionLabels : List Label := [.start 1 completion, .read 1, .update 1, .read 1, .commit 1]

def cancelledReads : List Label := [.start 2 (.cancel "stop" 300), .read 2, .read 2]

def cancelledAnswer : Answer :=
  let run := { runningRun with
    status := .cancelled, finishedAt := some 300, failureCode := some "run.cancelled",
    failureDetail := some "stop" }
  ⟨.cancel "stop" 300, .cancelled run, some .running, some .running, some (runningRun, run)⟩

/-- The cancellation is answered `Cancelled` with a run that has completed. -/
theorem completed_run_cancelled :
    (exec State.next (.initial (some runningRun))
        (cancelledReads ++ completionLabels ++ [.update 2, .read 2, .commit 2])).map
      (fun s => (s.row, s.answers.map fun a => (a.outcome, a.moved))) =
        let completed := { runningRun with status := .completed, finishedAt := some 200 }
        some (some completed, [(.transitioned completed, some (runningRun, completed)),
          (.cancelled completed, none)]) := by
  decide

theorem answers_sound_iff_cancelled :
    ∃ s, exec State.next (.initial (some runningRun))
        (cancelledReads ++ [.update 2, .read 2, .commit 2]) = some s ∧
      cancelledAnswer ∈ s.answers ∧ cancelledAnswer.Sound := by
  have hanswers : (exec State.next (.initial (some runningRun))
      (cancelledReads ++ [.update 2, .read 2, .commit 2])).map (·.answers) =
        some [cancelledAnswer] := by
    decide
  obtain ⟨s, hs, ha⟩ := Option.map_eq_some_iff.mp hanswers
  have hmem : cancelledAnswer ∈ s.answers := ha ▸ List.mem_singleton_self _
  exact ⟨s, hs, hmem, (State.answers_sound_iff hs hmem).mpr (by simp [Answer.Current,
    cancelledAnswer])⟩

end OxideArb.ControlFactor.RunTransitions
