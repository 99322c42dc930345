import Mathlib.Data.List.Flatten
import OxideArb.Infra.AsyncWriter

/-!
# The batch inserters of the time series store

A `BatchInserter` has a channel of its own. Its loop appends each message's rows to a buffer and
inserts the buffer with up to three attempts. A batch that fails three times is dropped and counted;
when no write permit can be had, the buffer is kept for the next round. A writer of the hot path
flushes into an inserter, so a row passes two channels; the last section joins the two loops.

The loop ends by cancellation only: the tick is a branch that is never disabled, so the `else`
branch for a closed channel is not reached.
-/

namespace OxideArb.BatchInserter

open Batcher Transition
open AsyncWriter (Phase Worker WorkerConfig)

variable {T : Type*}

inductive InsertMessage (T : Type*) where
  | row (item : T)
  | batch (rows : List T)
  deriving DecidableEq

def InsertMessage.rows : InsertMessage T → List T
  | .row item => [item]
  | .batch rows => rows

/-- How one attempt to insert the buffer ends. -/
inductive Attempt where
  | noPermit
  | stored
  | failed
  deriving DecidableEq

structure Inserter (T : Type*) where
  pipe : Pipe (InsertMessage T) T
  phase : Phase
  rowsWritten : Nat
  insertErrors : Nat
  deriving DecidableEq

def Inserter.new : Inserter T := ⟨.empty, .running, 0, 0⟩

def maxRetries : Nat := 3

/-- The attempts from `attempt` on, with `left` of them to go. -/
def flushAttempts (outcome : Nat → Attempt) : (attempt left : Nat) → Inserter T → Inserter T
  | _, 0, s => s
  | attempt, left + 1, s =>
    match outcome attempt with
    | .noPermit => { s with insertErrors := s.insertErrors + 1 }
    | .stored =>
      { s with pipe := s.pipe.handOver true, rowsWritten := s.rowsWritten + s.pipe.buffer.length }
    | .failed =>
      if attempt + 1 < maxRetries then flushAttempts outcome (attempt + 1) left s
      else { s with pipe := s.pipe.handOver false, insertErrors := s.insertErrors + 1 }

def flushWithRetry (outcome : Nat → Attempt) (s : Inserter T) : Inserter T :=
  flushAttempts outcome 0 maxRetries s

def flushNonempty (outcome : Nat → Attempt) (s : Inserter T) : Inserter T :=
  if s.pipe.buffer.isEmpty then s else flushWithRetry outcome s

/-- `send` waits for room in the channel and fails once the loop has ended; an empty batch is not
sent. `none`: the call has not returned, or returned the error. -/
def send (batchSize : Nat) (s : Inserter T) (message : InsertMessage T) : Option (Inserter T) :=
  if message.rows = [] then some s
  else if s.phase = .ended ∨ batchSize * 4 ≤ s.pipe.queue.length then none
  else some { s with pipe := s.pipe.enter message }

inductive Event (T : Type*) where
  | send (message : InsertMessage T)
  | recv (outcome : Nat → Attempt)
  | tick (outcome : Nat → Attempt)
  | cancelled
  | tryRecv
  | drained (outcome : Nat → Attempt)
  | returned

def step (batchSize : Nat) (s : Inserter T) : Event T → Option (Inserter T)
  | .send message => send batchSize s message
  | .recv outcome =>
    if s.phase = .running then
      (s.pipe.receive InsertMessage.rows).map fun pipe =>
        if batchSize ≤ pipe.buffer.length then flushWithRetry outcome { s with pipe }
        else { s with pipe }
    else none
  | .tick outcome => if s.phase = .running then some (flushNonempty outcome s) else none
  | .cancelled => if s.phase = .running then some { s with phase := .draining } else none
  | .tryRecv =>
    if s.phase = .draining then
      (s.pipe.receive InsertMessage.rows).map fun pipe => { s with pipe }
    else none
  | .drained outcome =>
    if s.phase = .draining ∧ s.pipe.queue = [] then
      some { flushNonempty outcome s with phase := .closing }
    else none
  | .returned => if s.phase = .closing then some { s with phase := .ended } else none

/-- The rows of the inserts that succeeded. -/
def stored (s : Inserter T) : List T := (s.pipe.batches.filter (·.1)).flatMap (·.2)

def dropped (s : Inserter T) : List (Bool × List T) := s.pipe.batches.filter (!·.1)

/-! ## One flush -/

/-- A flush hands the buffer over and counts it, or changes only the count of errors. -/
inductive Flushed (s : Inserter T) : Inserter T → Prop where
  | kept (errors : Nat) (h : s.insertErrors ≤ errors) : Flushed s { s with insertErrors := errors }
  | stored : Flushed s
      { s with pipe := s.pipe.handOver true, rowsWritten := s.rowsWritten + s.pipe.buffer.length }
  | dropped : Flushed s
      { s with pipe := s.pipe.handOver false, insertErrors := s.insertErrors + 1 }

theorem flushAttempts_flushed (outcome : Nat → Attempt) (s : Inserter T) (attempt left : Nat) :
    Flushed s (flushAttempts outcome attempt left s) := by
  induction left generalizing attempt with
  | zero => exact .kept _ (Nat.le_refl _)
  | succ left ih =>
    rw [flushAttempts]
    split
    · exact .kept _ (Nat.le_succ _)
    · exact .stored
    · split
      · exact ih (attempt + 1)
      · exact .dropped

/-! ## The loop -/

structure Inv (s : Inserter T) : Prop where
  conserved : s.pipe.Conserved InsertMessage.rows
  written : s.rowsWritten = (stored s).length
  errors : (dropped s).length ≤ s.insertErrors

variable {batchSize : Nat} {s s' : Inserter T}

theorem inv_new : Inv (Inserter.new : Inserter T) :=
  ⟨Pipe.conserved_empty, rfl, Nat.le_refl 0⟩

/-- The counters and the batches move together in a flush. -/
theorem Inv.flushed (h : Inv s) (hflush : Flushed s s') : Inv s' := by
  cases hflush with
  | kept errors hle => exact ⟨h.conserved, h.written, Nat.le_trans h.errors hle⟩
  | stored =>
    by_cases hempty : s.pipe.buffer = []
    · simp only [Pipe.handOver_of_empty hempty, hempty, List.length_nil, Nat.add_zero]
      exact h
    · refine ⟨h.conserved.handOver true, ?_, ?_⟩
      · simp [stored, Pipe.handOver_of_ne hempty, h.written]
      · simpa [dropped, Pipe.handOver_of_ne hempty] using h.errors
  | dropped =>
    by_cases hempty : s.pipe.buffer = []
    · simp only [Pipe.handOver_of_empty hempty]
      exact ⟨h.conserved, h.written, Nat.le_succ_of_le h.errors⟩
    · refine ⟨h.conserved.handOver false, ?_, ?_⟩
      · simpa [stored, Pipe.handOver_of_ne hempty] using h.written
      · simpa [dropped, Pipe.handOver_of_ne hempty] using h.errors

theorem Inv.flushNonempty (h : Inv s) (outcome : Nat → Attempt) :
    Inv (flushNonempty outcome s) := by
  rw [BatchInserter.flushNonempty]
  split
  · exact h
  · exact h.flushed (flushAttempts_flushed outcome s 0 maxRetries)

theorem Inv.receive (h : Inv s) {pipe : Pipe (InsertMessage T) T}
    (hpipe : s.pipe.receive InsertMessage.rows = some pipe) : Inv { s with pipe } := by
  have hconserved := h.conserved.receive hpipe
  obtain ⟨message, -, hpipe⟩ := Pipe.receive_eq_some hpipe
  have hbatches : pipe.batches = s.pipe.batches := by rw [hpipe]
  refine ⟨hconserved, ?_, ?_⟩
  · simpa [stored, hbatches] using h.written
  · simpa [dropped, hbatches] using h.errors

theorem step_inv (h : Inv s) {e : Event T} (hstep : step batchSize s e = some s') : Inv s' := by
  cases e with
  | send message =>
    rw [step, send] at hstep
    split at hstep
    · cases hstep
      exact h
    · simp only [Option.ite_none_left_eq_some, Option.some.injEq] at hstep
      rw [← hstep.2]
      exact ⟨h.conserved.enter message, h.written, h.errors⟩
  | recv outcome =>
    simp only [step, Option.ite_none_right_eq_some, Option.map_eq_some_iff] at hstep
    obtain ⟨-, pipe, hpipe, rfl⟩ := hstep
    split
    · exact (h.receive hpipe).flushed (flushAttempts_flushed outcome _ 0 maxRetries)
    · exact h.receive hpipe
  | tick outcome =>
    simp only [step, Option.ite_none_right_eq_some, Option.some.injEq] at hstep
    exact hstep.2 ▸ h.flushNonempty outcome
  | tryRecv =>
    simp only [step, Option.ite_none_right_eq_some, Option.map_eq_some_iff] at hstep
    obtain ⟨-, pipe, hpipe, rfl⟩ := hstep
    exact h.receive hpipe
  | drained outcome =>
    simp only [step, Option.ite_none_right_eq_some, Option.some.injEq] at hstep
    have hflush := h.flushNonempty outcome
    exact hstep.2 ▸ ⟨hflush.conserved, hflush.written, hflush.errors⟩
  | cancelled | returned =>
    simp only [step, Option.ite_none_right_eq_some, Option.some.injEq] at hstep
    exact hstep.2 ▸ ⟨h.conserved, h.written, h.errors⟩

theorem exec_inv {events : List (Event T)} (hrun : exec (step batchSize) .new events = some s) :
    Inv s :=
  exec_preserves Inv (fun _ _ _ h hstep => step_inv h hstep) inv_new hrun

/-- In every run the rows that were sent are those of the inserted and the dropped batches, the
buffer and the channel, in the order they were sent and each once. The counter of written rows is
the number of rows in the inserted batches, and every dropped batch is counted as an error. -/
theorem inserter_accounting (batchSize : Nat) (events : List (Event T)) (s : Inserter T)
    (hrun : exec (step batchSize) .new events = some s) :
    s.pipe.entered.flatMap InsertMessage.rows =
        s.pipe.handed ++ s.pipe.buffer ++ s.pipe.queue.flatMap InsertMessage.rows ∧
      s.rowsWritten = (stored s).length ∧ (dropped s).length ≤ s.insertErrors ∧
      (stored s).length + ((dropped s).flatMap (·.2)).length = s.pipe.handed.length := by
  have hinv := exec_inv hrun
  refine ⟨hinv.conserved.whole, hinv.written, hinv.errors, ?_⟩
  rw [stored, dropped, Pipe.handed, ← List.length_append, ← List.flatMap_append]
  exact ((List.filter_append_perm (·.1) s.pipe.batches).flatMap_right (·.2)).length_eq

theorem inserter_accounting_dropped :
    ∃ s : Inserter Nat,
      exec (step 2) .new [.send (.batch [1, 2]), .send (.row 3), .recv fun _ => .failed,
        .recv fun _ => .stored, .tick fun n => if n = 0 then .failed else .stored] = some s ∧
      s.rowsWritten = (stored s).length ∧ stored s = [3] ∧ dropped s = [(false, [1, 2])] :=
  ⟨⟨⟨[.batch [1, 2], .row 3], [], [], [(false, [1, 2]), (true, [3])]⟩, .running, 1, 1⟩, by decide,
    (inserter_accounting 2 [.send (.batch [1, 2]), .send (.row 3), .recv fun _ => .failed,
      .recv fun _ => .stored, .tick fun n => if n = 0 then .failed else .stored] _
      (by decide)).2.1, rfl, rfl⟩

/-! ## From the hot path to the table

The flush function of a time series writer is `insert_batch` of its inserter. The call waits while
the inserter's channel is full; it fails only when the inserter's loop has ended. -/

structure Path (T : Type*) where
  writer : Worker T
  /-- The batch of the call that has not returned, with the result it will have. -/
  calling : Option (Bool × List T)
  inserter : Inserter T

inductive PathEvent (T : Type*) where
  | writer (e : AsyncWriter.Event T)
  | callReturned
  | inserter (e : Event T)

/-- The producers go on while the worker awaits its call. -/
def producer : AsyncWriter.Event T → Bool
  | .write _ | .dropSenders => true
  | _ => false

def pathStep (c : WorkerConfig) (batchSize : Nat) (p : Path T) : PathEvent T → Option (Path T)
  | .writer e =>
    if p.calling.isNone ∨ producer e then
      (AsyncWriter.step c p.writer e).map fun writer =>
        { p with
          writer
          calling := (writer.pipe.batches.drop p.writer.pipe.batches.length).head?.or p.calling }
    else none
  | .callReturned =>
    match p.calling with
    | none => none
    | some (true, rows) =>
      (send batchSize p.inserter (.batch rows)).map fun inserter =>
        { p with calling := none, inserter }
    | some (false, _) =>
      if p.inserter.phase = .ended then some { p with calling := none } else none
  -- Rows reach this inserter through the writer only.
  | .inserter (.send _) => none
  | .inserter e => (step batchSize p.inserter e).map fun inserter => { p with inserter }

theorem writer_step_batches {c : WorkerConfig} {w w' : Worker T} {e : AsyncWriter.Event T}
    (hstep : AsyncWriter.step c w e = some w') :
    w'.pipe.batches = w.pipe.batches ∨
      producer e = false ∧ ∃ b, b.2 ≠ [] ∧ w'.pipe.batches = w.pipe.batches ++ [b] := by
  cases e with
  | write item =>
    simp only [AsyncWriter.step, Option.ite_none_right_eq_some, Option.some.injEq] at hstep
    rw [← hstep.2, AsyncWriter.write]
    split <;> exact .inl rfl
  | dropSenders =>
    cases hstep
    exact .inl rfl
  | recv flushed =>
    simp only [AsyncWriter.step, Option.ite_none_right_eq_some, Option.map_eq_some_iff] at hstep
    obtain ⟨-, pipe, hpipe, rfl⟩ := hstep
    obtain ⟨-, -, hbatches⟩ := AsyncWriter.take_spec hpipe
    rw [← hbatches]
    split
    · exact (pipe.handOver_batches flushed).imp_right fun h => ⟨rfl, h⟩
    · exact .inl rfl
  | tryRecv =>
    simp only [AsyncWriter.step, Option.ite_none_right_eq_some, Option.map_eq_some_iff] at hstep
    obtain ⟨-, pipe, hpipe, rfl⟩ := hstep
    exact .inl (AsyncWriter.take_spec hpipe).2.2
  | tick flushed | drained flushed | disconnected flushed =>
    simp only [AsyncWriter.step, Option.ite_none_right_eq_some, Option.some.injEq] at hstep
    rw [← hstep.2]
    exact (w.pipe.handOver_batches flushed).imp_right fun h => ⟨rfl, h⟩
  | cancelled | returned =>
    simp only [AsyncWriter.step, Option.ite_none_right_eq_some, Option.some.injEq] at hstep
    exact .inl (by rw [← hstep.2])

theorem flushed_entered (h : Flushed s s') : s'.pipe.entered = s.pipe.entered := by
  cases h with
  | kept => rfl
  | stored | dropped => exact Pipe.handOver_entered _

theorem flushNonempty_entered (outcome : Nat → Attempt) :
    (flushNonempty outcome s).pipe.entered = s.pipe.entered := by
  rw [flushNonempty]
  split
  · rfl
  · exact flushed_entered (flushAttempts_flushed outcome s 0 maxRetries)

theorem receive_entered {pipe : Pipe (InsertMessage T) T}
    (hpipe : s.pipe.receive InsertMessage.rows = some pipe) : pipe.entered = s.pipe.entered := by
  obtain ⟨message, -, hpipe⟩ := Pipe.receive_eq_some hpipe
  rw [hpipe]

theorem step_entered {e : Event T} (hstep : step batchSize s e = some s')
    (hsend : ∀ message, e ≠ .send message) : s'.pipe.entered = s.pipe.entered := by
  cases e with
  | send message => exact absurd rfl (hsend message)
  | recv outcome =>
    simp only [step, Option.ite_none_right_eq_some, Option.map_eq_some_iff] at hstep
    obtain ⟨-, pipe, hpipe, rfl⟩ := hstep
    have hentered := receive_entered hpipe
    split
    · exact (flushed_entered (flushAttempts_flushed outcome _ 0 maxRetries)).trans hentered
    · exact hentered
  | tryRecv =>
    simp only [step, Option.ite_none_right_eq_some, Option.map_eq_some_iff] at hstep
    obtain ⟨-, pipe, hpipe, rfl⟩ := hstep
    exact receive_entered hpipe
  | tick outcome | drained outcome =>
    simp only [step, Option.ite_none_right_eq_some, Option.some.injEq] at hstep
    rw [← hstep.2]
    exact flushNonempty_entered outcome
  | cancelled | returned =>
    simp only [step, Option.ite_none_right_eq_some, Option.some.injEq] at hstep
    rw [← hstep.2]

/-- The rows of the batches that are marked as taken. -/
def takenRows (batches : List (Bool × List T)) : List T := (batches.filter (·.1)).flatMap (·.2)

/-- What the writer's calls took over has reached the inserter, but for the call under way. -/
structure PathInv (c : WorkerConfig) (p : Path T) : Prop where
  writer : AsyncWriter.Inv c p.writer
  inserter : Inv p.inserter
  reached : takenRows p.writer.pipe.batches =
    p.inserter.pipe.entered.flatMap InsertMessage.rows ++ takenRows p.calling.toList

def Path.new : Path T := ⟨.new, none, .new⟩

variable {c : WorkerConfig} {p p' : Path T}

theorem pathInv_new : PathInv c (Path.new : Path T) :=
  ⟨AsyncWriter.inv_new, inv_new, rfl⟩

theorem send_entered {message : InsertMessage T} (h : send batchSize s message = some s') :
    s'.pipe.entered.flatMap InsertMessage.rows =
      s.pipe.entered.flatMap InsertMessage.rows ++ message.rows := by
  rw [send] at h
  split at h
  · next hempty =>
    cases h
    rw [hempty, List.append_nil]
  · simp only [Option.ite_none_left_eq_some, Option.some.injEq] at h
    rw [← h.2]
    simp [Pipe.enter]

theorem takenRows_append (left right : List (Bool × List T)) :
    takenRows (left ++ right) = takenRows left ++ takenRows right := by
  rw [takenRows, List.filter_append, List.flatMap_append]
  rfl

theorem takenRows_sublist (batches : List (Bool × List T)) :
    List.Sublist (takenRows batches) (batches.flatMap (·.2)) :=
  List.filter_sublist.flatMap _

theorem pathStep_inv (h : PathInv c p) {e : PathEvent T}
    (hstep : pathStep c batchSize p e = some p') : PathInv c p' := by
  cases e with
  | writer e =>
    simp only [pathStep, Option.ite_none_right_eq_some, Option.map_eq_some_iff] at hstep
    obtain ⟨hidle, writer, hwriter, rfl⟩ := hstep
    refine ⟨AsyncWriter.step_inv h.writer hwriter, h.inserter, ?_⟩
    rcases writer_step_batches hwriter with hsame | ⟨hworker, b, -, hnew⟩
    · simpa [hsame] using h.reached
    · -- A worker that hands a batch over was not awaiting a call.
      have hcalling : p.calling = none := by simpa [hworker] using hidle
      have hreached := h.reached
      rw [hcalling] at hreached
      simp only [hnew, takenRows_append, hreached, List.drop_left, List.head?_cons,
        Option.some_or, Option.toList_some, Option.toList_none]
      simp [takenRows]
  | callReturned =>
    rw [pathStep] at hstep
    split at hstep
    · cases hstep
    · next rows hcalling =>
      obtain ⟨inserter, hsend, rfl⟩ := Option.map_eq_some_iff.mp hstep
      refine ⟨h.writer, step_inv (e := .send (.batch rows)) h.inserter hsend, ?_⟩
      have hreached := h.reached
      rw [hcalling] at hreached
      rw [hreached, send_entered hsend]
      simp [takenRows, InsertMessage.rows]
    · next rows hcalling =>
      simp only [Option.ite_none_right_eq_some, Option.some.injEq] at hstep
      rw [← hstep.2]
      refine ⟨h.writer, h.inserter, ?_⟩
      simpa [hcalling, takenRows] using h.reached
  | inserter e =>
    have hstep' : (∀ message, e ≠ .send message) ∧
        ∃ inserter, step batchSize p.inserter e = some inserter ∧ { p with inserter } = p' := by
      cases e <;> simp_all [pathStep]
    obtain ⟨hsend, inserter, hinserter, rfl⟩ := hstep'
    refine ⟨h.writer, step_inv h.inserter hinserter, ?_⟩
    rw [step_entered hinserter hsend]
    exact h.reached

/-- In every interleaving of the producers, the writer and its inserter, the rows that the table
has confirmed are rows the writer accepted, in that order and none twice. As long as no insert was
given up and no call failed, the accepted rows are the confirmed ones, those under way in the
inserter and the call, and those still in the writer, in this order. -/
theorem rows_reach_table (c : WorkerConfig) (batchSize : Nat) (events : List (PathEvent T))
    (p : Path T) (hrun : exec (pathStep c batchSize) .new events = some p) :
    List.Sublist (stored p.inserter) p.writer.pipe.entered ∧
      (dropped p.inserter = [] → (∀ b ∈ p.writer.pipe.batches, b.1 = true) →
        p.writer.pipe.entered =
          stored p.inserter ++ p.inserter.pipe.buffer ++
            p.inserter.pipe.queue.flatMap InsertMessage.rows ++ takenRows p.calling.toList ++
            p.writer.pipe.buffer ++ p.writer.pipe.queue) := by
  have hinv : PathInv c p :=
    exec_preserves (PathInv c) (fun _ _ _ h hstep => pathStep_inv h hstep) pathInv_new hrun
  have hwriter : p.writer.pipe.entered =
      p.writer.pipe.handed ++ p.writer.pipe.buffer ++ p.writer.pipe.queue := by
    simpa using hinv.writer.conserved.whole
  have hinserter := hinv.inserter.conserved.whole
  constructor
  · have hstored : List.Sublist (stored p.inserter) p.inserter.pipe.handed :=
      takenRows_sublist p.inserter.pipe.batches
    have hsent : List.Sublist p.inserter.pipe.handed (takenRows p.writer.pipe.batches) := by
      rw [hinv.reached, hinserter, List.append_assoc, List.append_assoc]
      exact List.sublist_append_left _ _
    have htaken : List.Sublist (takenRows p.writer.pipe.batches) p.writer.pipe.handed :=
      takenRows_sublist p.writer.pipe.batches
    refine ((hstored.trans hsent).trans htaken).trans ?_
    rw [hwriter, List.append_assoc]
    exact List.sublist_append_left _ _
  · intro hdropped htaken
    have hstored : p.inserter.pipe.handed = stored p.inserter := by
      have hall : ∀ b ∈ p.inserter.pipe.batches, b.1 = true := by
        simpa [dropped, List.filter_eq_nil_iff] using hdropped
      rw [stored, List.filter_eq_self.mpr hall]
      rfl
    have hhanded : p.writer.pipe.handed = takenRows p.writer.pipe.batches := by
      rw [takenRows, List.filter_eq_self.mpr htaken]
      rfl
    rw [hwriter, hhanded, hinv.reached, hinserter, hstored]

/-- The inserter's loop may end while the writer's last call is under way: its rows are lost. -/
theorem rows_reach_table_ended :
    ∃ p : Path Nat,
      exec (pathStep AsyncWriter.asyncWriterConfig 100) .new
        [.writer (.write 1), .writer (.recv true), .writer (.tick true), .callReturned,
          .inserter (.recv fun _ => .stored), .inserter .cancelled,
          .inserter (.drained fun _ => .stored), .inserter .returned, .writer (.write 2),
          .writer .cancelled, .writer .tryRecv, .writer (.drained false), .callReturned,
          .writer .returned] = some p ∧
      List.Sublist (stored p.inserter) p.writer.pipe.entered ∧ stored p.inserter = [1] ∧
        p.writer.pipe.entered = [1, 2] := by
  refine ⟨⟨⟨⟨[1, 2], [], [], [(true, [1]), (false, [2])]⟩, .ended, 0, true⟩, none,
    ⟨⟨[.batch [1]], [], [], [(true, [1])]⟩, .ended, 1, 0⟩⟩, rfl, ?_, rfl, rfl⟩
  exact (rows_reach_table AsyncWriter.asyncWriterConfig 100
    [.writer (.write 1), .writer (.recv true), .writer (.tick true), .callReturned,
      .inserter (.recv fun _ => .stored), .inserter .cancelled,
      .inserter (.drained fun _ => .stored), .inserter .returned, .writer (.write 2),
      .writer .cancelled, .writer .tryRecv, .writer (.drained false), .callReturned,
      .writer .returned] _ rfl).1

end OxideArb.BatchInserter
