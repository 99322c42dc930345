import Mathlib.Algebra.BigOperators.Group.List.Basic
import Mathlib.Data.List.Basic
import OxideArb.Types.Basic

/-!
# The staged drain at shutdown

Every background task runs under the token of its stage. At shutdown the registry goes through the
stages in order: it cancels the stage's token, waits for the stage's tasks up to the stage's budget,
and aborts those that are left.

The stage tokens are children of the root token, and the drain starts because the root was
cancelled. So every task has been cancelled since the signal, whatever its stage; the order of the
stages is the order in which the tasks are waited for. Times are milliseconds, and what a task does
is given by how long it runs after its cancellation and after an abort.
-/

namespace OxideArb.Shutdown

inductive ShutdownStage
  | wsIngress
  | cacheWorkers
  | reconciliation
  | healthMonitor
  | detection
  | execution
  | audit
  | analytics
  | persistence
  | dbClose
deriving DecidableEq, Repr

namespace ShutdownStage

def all : List ShutdownStage :=
  [wsIngress, cacheWorkers, reconciliation, healthMonitor, detection, execution, audit, analytics,
    persistence, dbClose]

def index : ShutdownStage → Nat
  | wsIngress => 0
  | cacheWorkers => 1
  | reconciliation => 2
  | healthMonitor => 3
  | detection => 4
  | execution => 5
  | audit => 6
  | analytics => 7
  | persistence => 8
  | dbClose => 9

end ShutdownStage

inductive TaskKind
  | apiIngress
  | wsIngress
  | catalogSync
  | cacheWorker
  | bookReconciliation
  | ledgerReconciliation
  | healthMonitor
  | detection
  | execution
  | executionHeartbeat
  | audit
  | analyticsWriter
  | positionPersistence
  | reportScheduler
deriving DecidableEq, Repr

def TaskKind.shutdownStage : TaskKind → ShutdownStage
  | apiIngress | wsIngress | catalogSync => .wsIngress
  | cacheWorker => .cacheWorkers
  | bookReconciliation | ledgerReconciliation => .reconciliation
  | healthMonitor => .healthMonitor
  | detection => .detection
  | execution | executionHeartbeat | reportScheduler => .execution
  | audit => .audit
  | analyticsWriter => .analytics
  | positionPersistence => .persistence

/-- The budget of each stage. -/
abbrev ShutdownBudget := ShutdownStage → Nat

namespace ShutdownBudget

def fromSecs (secs : List Nat) : ShutdownBudget := fun stage => secs.getD stage.index 0 * 1000

def forMode : ExecutionMode → ShutdownBudget
  | .dryRun => fromSecs [3, 4, 3, 2, 3, 8, 3, 4, 3, 1]
  | .paper => fromSecs [3, 6, 3, 2, 3, 15, 5, 5, 5, 3]
  | .live => fromSecs [5, 10, 5, 2, 5, 20, 5, 5, 5, 3]

def total (budget : ShutdownBudget) : Nat := (ShutdownStage.all.map budget).sum

end ShutdownBudget

/-- When the root and the stages were cancelled themselves. -/
structure Tokens where
  root : Option Nat
  stages : ShutdownStage → Option Nat

namespace Tokens

/-- A child is cancelled with its parent. -/
def cancelledAt (tokens : Tokens) (stage : ShutdownStage) : Option Nat :=
  match tokens.root, tokens.stages stage with
  | some root, some own => some (min root own)
  | some root, none => some root
  | none, own => own

def cancel (tokens : Tokens) (stage : ShutdownStage) (now : Nat) : Tokens :=
  { tokens with
    stages := fun s => if s = stage then (tokens.stages s).or (some now) else tokens.stages s }

end Tokens

/-- A task, and how long it runs after its cancellation and after an abort; `none` is for ever. -/
structure Task where
  kind : TaskKind
  ends : Option Nat
  endsAborted : Option Nat
deriving DecidableEq, Repr

namespace Task

def stage (task : Task) : ShutdownStage := task.kind.shutdownStage

def doneAt (task : Task) (tokens : Tokens) : Option Nat := do
  let cancelled ← tokens.cancelledAt task.stage
  let runs ← task.ends
  return cancelled + runs

/-- The task is still tracked at `now`. -/
def tracked (task : Task) (tokens : Tokens) (now : Nat) : Bool := (task.doneAt tokens).all (now < ·)

end Task

/-- The latest of the times, and at least `start`; `none` when one of them never comes. -/
def latest (start : Nat) : List (Option Nat) → Option Nat
  | [] => some start
  | time :: times => do
    let rest ← latest start times
    let time ← time
    return max time rest

structure StageReport where
  stage : ShutdownStage
  start : Nat
  finish : Nat
  aborted : List Task
deriving DecidableEq, Repr

def abortGraceMs : Nat := 100

/-- The branch of the deadline: the tasks left are aborted and given a grace. -/
def timeOut (tokens : Tokens) (stage : ShutdownStage) (start deadline : Nat)
    (bucket : List Task) : StageReport :=
  let aborted := bucket.filter (·.tracked tokens deadline)
  let ended := latest deadline (aborted.map fun task => task.endsAborted.map (deadline + ·))
  ⟨stage, start, min (ended.getD (deadline + abortGraceMs)) (deadline + abortGraceMs), aborted⟩

def drainStage (tokens : Tokens) (stage : ShutdownStage) (bucket : List Task) (start budget : Nat) :
    StageReport :=
  let waiting := bucket.filter (·.tracked tokens start)
  if waiting = [] then ⟨stage, start, start, []⟩
  else
    match latest start (waiting.map (·.doneAt tokens)) with
    | some finish =>
      -- the branches are polled in order, so at the deadline itself the deadline wins
      if finish < start + budget then ⟨stage, start, finish, []⟩
      else timeOut tokens stage start (start + budget) bucket
    | none => timeOut tokens stage start (start + budget) bucket

/-- `TaskRegistry::drain`. -/
def drain (tasks : List Task) (budget : ShutdownBudget) :
    List ShutdownStage → Tokens → Nat → List StageReport
  | [], _, _ => []
  | stage :: stages, tokens, now =>
    let tokens := tokens.cancel stage now
    let report := drainStage tokens stage (tasks.filter (·.stage = stage)) now (budget stage)
    report :: drain tasks budget stages tokens report.finish

/-- `AppRunner::run` from the signal on: it cancels the root, which starts the drain. -/
def run (tasks : List Task) (budget : ShutdownBudget) (signal : Nat) : List StageReport :=
  drain tasks budget ShutdownStage.all ⟨some signal, fun _ => none⟩ signal

/-! ## One stage -/

theorem le_latest {start finish : Nat} {times : List (Option Nat)}
    (h : latest start times = some finish) :
    start ≤ finish ∧ ∀ time ∈ times, ∃ t, time = some t ∧ t ≤ finish := by
  induction times generalizing finish with
  | nil =>
    simp only [latest, Option.some.injEq] at h
    exact ⟨h.le, fun _ hmem => absurd hmem List.not_mem_nil⟩
  | cons time times ih =>
    simp only [latest, Option.bind_eq_bind, Option.bind_eq_some_iff, Option.pure_def,
      Option.some.injEq] at h
    obtain ⟨rest, hrest, t, rfl, rfl⟩ := h
    obtain ⟨hstart, htimes⟩ := ih hrest
    refine ⟨hstart.trans (le_max_right _ _), fun other hother => ?_⟩
    rcases List.mem_cons.mp hother with rfl | hother
    · exact ⟨t, rfl, le_max_left _ _⟩
    · obtain ⟨u, rfl, hu⟩ := htimes other hother
      exact ⟨u, rfl, hu.trans (le_max_right _ _)⟩

theorem Task.not_tracked {task : Task} {tokens : Tokens} {now : Nat}
    (h : task.tracked tokens now = false) :
    ∃ done, task.doneAt tokens = some done ∧ done ≤ now := by
  unfold Task.tracked at h
  cases hdone : task.doneAt tokens with
  | none => simp [hdone] at h
  | some done => exact ⟨done, rfl, by simpa [hdone] using h⟩

/-- What the drain of a stage comes to, whatever its tasks do. -/
structure Drained (tokens : Tokens) (bucket : List Task) (start budget : Nat)
    (report : StageReport) : Prop where
  start_le : start ≤ report.finish
  finish_le : report.finish ≤ start + (budget + abortGraceMs)
  settled : ∀ task ∈ bucket, task ∈ report.aborted ∨
    ∃ done, task.doneAt tokens = some done ∧ done ≤ report.finish
  aborted : ∀ task ∈ report.aborted, task ∈ bucket ∧
    ∀ done, task.doneAt tokens = some done → start + budget < done

variable {tokens : Tokens} {stage : ShutdownStage} {bucket : List Task} {start budget : Nat}

theorem timeOut_drained :
    Drained tokens bucket start budget (timeOut tokens stage start (start + budget) bucket) := by
  have hdeadline : start + budget ≤
      (timeOut tokens stage start (start + budget) bucket).finish := by
    refine le_min ?_ (Nat.le_add_right _ _)
    cases hended : latest (start + budget) (((bucket.filter (·.tracked tokens (start + budget))).map
        fun task => task.endsAborted.map (start + budget + ·))) with
    | none => exact Nat.le_add_right _ _
    | some ended => exact (le_latest hended).1
  refine ⟨(Nat.le_add_right _ _).trans hdeadline, ?_, fun task htask => ?_, fun task htask => ?_⟩
  · exact (min_le_right _ _).trans (Nat.add_assoc _ _ _).le
  · cases htracked : task.tracked tokens (start + budget) with
    | true => exact .inl (List.mem_filter.mpr ⟨htask, htracked⟩)
    | false =>
      obtain ⟨done, hdone, hle⟩ := Task.not_tracked htracked
      exact .inr ⟨done, hdone, hle.trans hdeadline⟩
  · obtain ⟨hmem, htracked⟩ := List.mem_filter.mp htask
    refine ⟨hmem, fun done hdone => ?_⟩
    simpa only [Task.tracked, hdone, Option.all_some, decide_eq_true_eq] using htracked

theorem drainStage_drained (tokens : Tokens) (stage : ShutdownStage) (bucket : List Task)
    (start budget : Nat) :
    Drained tokens bucket start budget (drainStage tokens stage bucket start budget) := by
  unfold drainStage
  dsimp only
  split
  · next hwaiting =>
    refine ⟨le_rfl, Nat.le_add_right _ _, fun task htask => .inr ?_,
      fun _ hmem => absurd hmem List.not_mem_nil⟩
    refine Task.not_tracked (Bool.eq_false_iff.mpr fun htracked => ?_)
    exact absurd (List.mem_filter.mpr ⟨htask, htracked⟩) (hwaiting ▸ List.not_mem_nil)
  · split
    · next finish hfinish =>
      split
      · next hlt =>
        obtain ⟨hstart, htimes⟩ := le_latest hfinish
        refine ⟨hstart, hlt.le.trans (Nat.add_le_add_left (Nat.le_add_right _ _) _),
          fun task htask => .inr ?_, fun _ hmem => absurd hmem List.not_mem_nil⟩
        cases htracked : task.tracked tokens start with
        | true =>
          obtain ⟨done, hdone, hle⟩ := htimes _ (List.mem_map_of_mem
            (List.mem_filter.mpr ⟨htask, htracked⟩))
          exact ⟨done, hdone, hle⟩
        | false =>
          obtain ⟨done, hdone, hle⟩ := Task.not_tracked htracked
          exact ⟨done, hdone, hle.trans hstart⟩
      · exact timeOut_drained
    · exact timeOut_drained

/-! ## The drain -/

/-- The root was cancelled at `signal`, and no token before. -/
structure Tokens.Since (tokens : Tokens) (signal : Nat) : Prop where
  root : tokens.root = some signal
  stages : ∀ stage, ∀ own ∈ tokens.stages stage, signal ≤ own

theorem Tokens.Since.cancelledAt {signal : Nat} (h : tokens.Since signal) (stage : ShutdownStage) :
    tokens.cancelledAt stage = some signal := by
  unfold Tokens.cancelledAt
  rw [h.root]
  cases hown : tokens.stages stage with
  | none => rfl
  | some own => exact congrArg some (min_eq_left (h.stages stage own hown))

theorem Tokens.Since.cancel {signal now : Nat} (h : tokens.Since signal) (hnow : signal ≤ now)
    (stage : ShutdownStage) : (tokens.cancel stage now).Since signal := by
  refine ⟨h.root, fun other own hown => ?_⟩
  simp only [Tokens.cancel] at hown
  split at hown
  · cases hstages : tokens.stages other with
    | none =>
      rw [hstages, Option.none_or, Option.mem_def, Option.some.injEq] at hown
      exact hown ▸ hnow
    | some before =>
      rw [hstages, Option.some_or, Option.mem_def, Option.some.injEq] at hown
      exact hown ▸ h.stages other before hstages
  · exact h.stages other own hown

theorem Tokens.Since.doneAt {signal : Nat} (h : tokens.Since signal) (task : Task) :
    task.doneAt tokens = task.ends.map (signal + ·) := by
  unfold Task.doneAt
  rw [h.cancelledAt]
  cases task.ends <;> rfl

/-- What a stage's report says, with the times counted from the signal. -/
structure Reported (tasks : List Task) (budget : ShutdownBudget) (signal : Nat)
    (report : StageReport) : Prop where
  settled : ∀ task ∈ tasks, task.stage = report.stage → task ∈ report.aborted ∨
    ∃ runs, task.ends = some runs ∧ signal + runs ≤ report.finish
  aborted : ∀ task ∈ report.aborted, task ∈ tasks ∧ task.stage = report.stage ∧
    ∀ runs, task.ends = some runs → budget report.stage < runs

theorem Drained.reported {tasks : List Task} {budget : ShutdownBudget} {signal now : Nat}
    (hsince : tokens.Since signal) (hnow : signal ≤ now) {report : StageReport}
    (h : Drained tokens (tasks.filter (·.stage = report.stage)) now (budget report.stage) report) :
    Reported tasks budget signal report := by
  refine ⟨fun task htask hstage => ?_, fun task htask => ?_⟩
  · refine (h.settled task (List.mem_filter.mpr ⟨htask, by simpa using hstage⟩)).imp_right ?_
    rintro ⟨done, hdone, hle⟩
    rw [hsince.doneAt, Option.map_eq_some_iff] at hdone
    obtain ⟨runs, hruns, rfl⟩ := hdone
    exact ⟨runs, hruns, hle⟩
  · obtain ⟨hmem, hlate⟩ := h.aborted task htask
    obtain ⟨hmem, hstage⟩ := List.mem_filter.mp hmem
    refine ⟨hmem, by simpa using hstage, fun runs hruns => ?_⟩
    have hdone := hlate (signal + runs) (by rw [hsince.doneAt, hruns]; rfl)
    omega

theorem drainStage_stage (tokens : Tokens) (stage : ShutdownStage) (bucket : List Task)
    (start budget : Nat) : (drainStage tokens stage bucket start budget).stage = stage := by
  unfold drainStage
  dsimp only
  repeat' split
  all_goals rfl

theorem drain_reported {tasks : List Task} {budget : ShutdownBudget} {signal : Nat}
    (stages : List ShutdownStage) {tokens : Tokens} {now : Nat} (hsince : tokens.Since signal)
    (hnow : signal ≤ now) :
    (drain tasks budget stages tokens now).map (·.stage) = stages ∧
      ∀ report ∈ drain tasks budget stages tokens now, Reported tasks budget signal report ∧
        report.finish ≤ now + (stages.map fun stage => budget stage + abortGraceMs).sum := by
  induction stages generalizing tokens now with
  | nil => exact ⟨rfl, fun _ hmem => absurd hmem List.not_mem_nil⟩
  | cons stage stages ih =>
    have hsince' := hsince.cancel hnow stage
    have hdrained := drainStage_drained (tokens.cancel stage now) stage
      (tasks.filter (·.stage = stage)) now (budget stage)
    have hstage := drainStage_stage (tokens.cancel stage now) stage
      (tasks.filter (·.stage = stage)) now (budget stage)
    obtain ⟨hstages, hreports⟩ := ih hsince' (hnow.trans hdrained.start_le)
    have hfinish := hdrained.finish_le
    refine ⟨?_, fun report hreport => ?_⟩
    · rw [drain, List.map_cons, hstage, hstages]
    · rw [List.map_cons, List.sum_cons]
      rcases List.mem_cons.mp hreport with rfl | hreport
      · refine ⟨Drained.reported hsince' hnow (by rw [hstage]; exact hdrained), ?_⟩
        omega
      · obtain ⟨hreported, hle⟩ := hreports report hreport
        refine ⟨hreported, ?_⟩
        omega

/-- **The drain ends in time and aborts nobody who keeps to the budget.** Whatever the tasks do, the
stages are drained in order, each within the budgets and graces up to the end; a task of a drained
stage has ended on its own or was aborted; and a task is aborted only if it runs for longer than
the budget of its stage after the signal, not after its turn: all stages are cancelled at once. -/
theorem drain_spec (tasks : List Task) (budget : ShutdownBudget) (signal : Nat) :
    (run tasks budget signal).map (·.stage) = ShutdownStage.all ∧
      ∀ report ∈ run tasks budget signal,
        report.finish ≤ signal + (budget.total + 10 * abortGraceMs) ∧
        (∀ task ∈ tasks, task.stage = report.stage → task ∈ report.aborted ∨
          ∃ runs, task.ends = some runs ∧ signal + runs ≤ report.finish) ∧
        ∀ task ∈ report.aborted, task ∈ tasks ∧ task.stage = report.stage ∧
          ∀ runs, task.ends = some runs → budget report.stage < runs := by
  have hsince : Tokens.Since ⟨some signal, fun _ => none⟩ signal :=
    ⟨rfl, fun _ _ hown => absurd hown (Option.not_mem_none _)⟩
  obtain ⟨hstages, hreports⟩ := drain_reported ShutdownStage.all hsince le_rfl
  refine ⟨hstages, fun report hreport => ?_⟩
  obtain ⟨hreported, hfinish⟩ := hreports report hreport
  rw [List.sum_map_add] at hfinish
  exact ⟨hfinish, hreported.settled, hreported.aborted⟩

/-- In live mode everything has ended or been aborted after 66 seconds. -/
example : (ShutdownBudget.forMode .live).total + 10 * abortGraceMs = 66000 := by decide

end OxideArb.Shutdown
