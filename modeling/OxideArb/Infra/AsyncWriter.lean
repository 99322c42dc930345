import OxideArb.Lib.Batcher
import OxideArb.Lib.Transition

/-!
# The background writers

Hot paths put items into a bounded channel without waiting; a worker collects them and calls the
flush function with batches. The persistence writers log a failed flush and go on, the drain of the
risk decision audit returns the error and ends. A run is any interleaving of the producers' writes,
the branches of the worker's `select!`, the cancellation and the end of the senders.

The flush function is awaited, so its calls do not overlap; what arrives meanwhile stays in the
channel. A batch is noted with the result of its call.
-/

namespace OxideArb.AsyncWriter

open Batcher Transition

structure WorkerConfig where
  capacity : Nat
  batchSize : Nat
  /-- The error of a flush ends the worker. -/
  stopOnError : Bool

/-- `AsyncWriterConfig::new`: the writers log the error of a flush. -/
def asyncWriterConfig : WorkerConfig := ⟨4096, 100, false⟩

/-- The drain of the audit channel, whose capacity the buffer was built with. -/
def auditDrainConfig (capacity : Nat) : WorkerConfig := ⟨capacity, 64, true⟩

inductive Phase where
  | running
  /-- The worker saw the cancellation and empties the channel. -/
  | draining
  /-- The last flush is awaited; the channel is still open. -/
  | closing
  | ended
  deriving DecidableEq

structure Worker (T : Type*) where
  pipe : Pipe T T
  phase : Phase
  drops : Nat
  senders : Bool
  deriving DecidableEq

def Worker.new {T : Type*} : Worker T := ⟨.empty, .running, 0, true⟩

/-- The flag of an event is the result of the flush it may lead to. -/
inductive Event (T : Type*) where
  | write (item : T)
  | dropSenders
  | recv (flushed : Bool)
  | tick (flushed : Bool)
  | cancelled
  | tryRecv
  /-- `try_recv` finds the channel empty. -/
  | drained (flushed : Bool)
  | disconnected (flushed : Bool)
  | returned
  deriving DecidableEq

variable {T : Type*}

def take (p : Pipe T T) : Option (Pipe T T) := p.receive fun item => [item]

/-- `write` and `try_enqueue`: the item enters, or the drop is counted. -/
def write (c : WorkerConfig) (w : Worker T) (item : T) : Worker T :=
  if w.phase = .ended ∨ c.capacity ≤ w.pipe.queue.length then { w with drops := w.drops + 1 }
  else { w with pipe := w.pipe.enter item }

def flush (c : WorkerConfig) (w : Worker T) (flushed : Bool) : Worker T :=
  { w with
    pipe := w.pipe.handOver flushed
    phase := if c.stopOnError && !flushed && !w.pipe.buffer.isEmpty then .closing else w.phase }

def step (c : WorkerConfig) (w : Worker T) : Event T → Option (Worker T)
  | .write item => if w.senders then some (write c w item) else none
  | .dropSenders => some { w with senders := false }
  | .recv flushed =>
    if w.phase = .running then
      (take w.pipe).map fun pipe =>
        if c.batchSize ≤ pipe.buffer.length then flush c { w with pipe } flushed
        else { w with pipe }
    else none
  | .tick flushed => if w.phase = .running then some (flush c w flushed) else none
  | .cancelled => if w.phase = .running then some { w with phase := .draining } else none
  | .tryRecv =>
    if w.phase = .draining then (take w.pipe).map fun pipe => { w with pipe } else none
  | .drained flushed =>
    if w.phase = .draining ∧ w.pipe.queue = [] then
      some { w with pipe := w.pipe.handOver flushed, phase := .closing }
    else none
  | .disconnected flushed =>
    if w.phase = .running ∧ w.senders = false ∧ w.pipe.queue = [] then
      some { w with pipe := w.pipe.handOver flushed, phase := .closing }
    else none
  | .returned => if w.phase = .closing then some { w with phase := .ended } else none

/-- A batch that does not end the worker: not above the size, and flushed where the worker stops
on an error. -/
def Regular (c : WorkerConfig) (b : Bool × List T) : Prop :=
  b.2.length ≤ max 1 c.batchSize ∧ (c.stopOnError = true → b.1 = true)

/-- What every event of a run keeps. -/
structure Inv (c : WorkerConfig) (w : Worker T) : Prop where
  conserved : w.pipe.Conserved fun item => [item]
  bounded : w.pipe.queue.length ≤ c.capacity
  regular : ∀ b ∈ w.pipe.batches.dropLast, Regular c b
  all_regular : w.phase = .running ∨ w.phase = .draining → ∀ b ∈ w.pipe.batches, Regular c b
  buffered : w.phase = .running → w.pipe.buffer.length < max 1 c.batchSize

variable {c : WorkerConfig} {w w' : Worker T}

theorem inv_new : Inv c (Worker.new : Worker T) where
  conserved := Pipe.conserved_empty
  bounded := Nat.zero_le _
  regular := fun _ h => absurd h List.not_mem_nil
  all_regular := fun _ _ h => absurd h List.not_mem_nil
  buffered := fun _ => Nat.lt_of_lt_of_le Nat.zero_lt_one (Nat.le_max_left _ _)

theorem Inv.write (h : Inv c w) (item : T) : Inv c (write c w item) := by
  rw [AsyncWriter.write]
  split
  · exact ⟨h.conserved, h.bounded, h.regular, h.all_regular, h.buffered⟩
  · next hroom =>
    refine ⟨h.conserved.enter item, ?_, h.regular, h.all_regular, h.buffered⟩
    rw [not_or] at hroom
    change (w.pipe.queue ++ [item]).length ≤ c.capacity
    rw [List.length_append, List.length_singleton]
    omega

/-- A flush of a running worker, whose buffer may have just reached the size. -/
theorem flush_inv {pipe : Pipe T T} (hconserved : pipe.Conserved fun item => [item])
    (hbounded : pipe.queue.length ≤ c.capacity) (hall : ∀ b ∈ pipe.batches, Regular c b)
    (hbuffer : pipe.buffer.length ≤ max 1 c.batchSize) (flushed : Bool) :
    Inv c (flush c { w with pipe } flushed) := by
  refine ⟨hconserved.handOver flushed, ?_, Pipe.forall_dropLast_handOver hall, ?_, ?_⟩
  · change (pipe.handOver flushed).queue.length ≤ _
    rwa [Pipe.handOver_queue]
  · intro hphase
    refine Pipe.forall_handOver hall fun hne => ⟨hbuffer, fun hstop => ?_⟩
    -- A failed flush would have closed the worker.
    by_contra hfailed
    obtain rfl : flushed = false := by simpa using hfailed
    simp [flush, hstop, hne] at hphase
  · intro _
    change (pipe.handOver flushed).buffer.length < _
    rw [Pipe.handOver_buffer, List.length_nil]
    omega

/-- The last flush takes whatever the buffer holds. -/
theorem Inv.closing (h : Inv c w) (hopen : w.phase = .running ∨ w.phase = .draining)
    (flushed : Bool) :
    Inv c { w with pipe := w.pipe.handOver flushed, phase := .closing } := by
  refine ⟨h.conserved.handOver flushed, ?_,
    Pipe.forall_dropLast_handOver (h.all_regular hopen), by simp, by simp⟩
  change (w.pipe.handOver flushed).queue.length ≤ _
  rw [Pipe.handOver_queue]
  exact h.bounded

theorem take_spec {p q : Pipe T T} (h : take p = some q) :
    q.buffer.length = p.buffer.length + 1 ∧ p.queue.length = q.queue.length + 1 ∧
      q.batches = p.batches := by
  obtain ⟨item, hqueue, hq⟩ := Pipe.receive_eq_some h
  rw [hqueue, hq]
  simp

theorem step_inv (h : Inv c w) {e : Event T} (hstep : step c w e = some w') : Inv c w' := by
  cases e with
  | write item =>
    simp only [step, Option.ite_none_right_eq_some, Option.some.injEq] at hstep
    exact hstep.2 ▸ h.write item
  | dropSenders =>
    cases hstep
    exact ⟨h.conserved, h.bounded, h.regular, h.all_regular, h.buffered⟩
  | recv flushed =>
    simp only [step, Option.ite_none_right_eq_some, Option.map_eq_some_iff] at hstep
    obtain ⟨hrunning, pipe, hpipe, rfl⟩ := hstep
    obtain ⟨hlength, hqueue, hbatches⟩ := take_spec hpipe
    have hconserved := h.conserved.receive hpipe
    have hall : ∀ b ∈ pipe.batches, Regular c b := hbatches ▸ h.all_regular (.inl hrunning)
    have hbuffer := h.buffered hrunning
    have hbounded := h.bounded
    split
    · exact flush_inv hconserved (by omega) hall (by omega) flushed
    · refine ⟨hconserved, by simp only; omega, fun b hb => hall b (List.dropLast_subset _ hb),
        fun _ => hall, fun _ => by simp only; omega⟩
  | tick flushed =>
    simp only [step, Option.ite_none_right_eq_some, Option.some.injEq] at hstep
    obtain ⟨hrunning, rfl⟩ := hstep
    exact flush_inv h.conserved h.bounded (h.all_regular (.inl hrunning))
      (Nat.le_of_lt (h.buffered hrunning)) flushed
  | cancelled =>
    simp only [step, Option.ite_none_right_eq_some, Option.some.injEq] at hstep
    obtain ⟨hrunning, rfl⟩ := hstep
    exact ⟨h.conserved, h.bounded, h.regular, fun _ => h.all_regular (.inl hrunning), by simp⟩
  | tryRecv =>
    simp only [step, Option.ite_none_right_eq_some, Option.map_eq_some_iff] at hstep
    obtain ⟨hdraining, pipe, hpipe, rfl⟩ := hstep
    obtain ⟨-, hqueue, hbatches⟩ := take_spec hpipe
    have hall : ∀ b ∈ pipe.batches, Regular c b := hbatches ▸ h.all_regular (.inr hdraining)
    have hbounded := h.bounded
    exact ⟨h.conserved.receive hpipe, by simp only; omega,
      fun b hb => hall b (List.dropLast_subset _ hb), fun _ => hall, by simp [hdraining]⟩
  | drained flushed =>
    simp only [step, Option.ite_none_right_eq_some, Option.some.injEq] at hstep
    obtain ⟨⟨hdraining, -⟩, rfl⟩ := hstep
    exact h.closing (.inr hdraining) flushed
  | disconnected flushed =>
    simp only [step, Option.ite_none_right_eq_some, Option.some.injEq] at hstep
    obtain ⟨⟨hrunning, -, -⟩, rfl⟩ := hstep
    exact h.closing (.inl hrunning) flushed
  | returned =>
    simp only [step, Option.ite_none_right_eq_some, Option.some.injEq] at hstep
    obtain ⟨-, rfl⟩ := hstep
    exact ⟨h.conserved, h.bounded, h.regular, by simp, by simp⟩

theorem exec_inv {events : List (Event T)} (hrun : exec (step c) .new events = some w) :
    Inv c w :=
  exec_preserves (Inv c) (fun _ _ _ h hstep => step_inv h hstep) inv_new hrun

def Event.isWrite : Event T → Bool
  | .write _ => true
  | _ => false

/-- No event but a write changes what entered or was dropped. -/
theorem step_frame {e : Event T} (hstep : step c w e = some w') (hwrite : e.isWrite = false) :
    w'.pipe.entered = w.pipe.entered ∧ w'.drops = w.drops := by
  cases e with
  | write item => simp [Event.isWrite] at hwrite
  | dropSenders =>
    cases hstep
    exact ⟨rfl, rfl⟩
  | recv flushed =>
    simp only [step, Option.ite_none_right_eq_some, Option.map_eq_some_iff] at hstep
    obtain ⟨-, pipe, hpipe, rfl⟩ := hstep
    obtain ⟨item, -, hpipe⟩ := Pipe.receive_eq_some hpipe
    have hentered : pipe.entered = w.pipe.entered := by rw [hpipe]
    split
    · exact ⟨(Pipe.handOver_entered flushed).trans hentered, rfl⟩
    · exact ⟨hentered, rfl⟩
  | tryRecv =>
    simp only [step, Option.ite_none_right_eq_some, Option.map_eq_some_iff] at hstep
    obtain ⟨-, pipe, hpipe, rfl⟩ := hstep
    obtain ⟨item, -, hpipe⟩ := Pipe.receive_eq_some hpipe
    exact ⟨by rw [hpipe], rfl⟩
  | tick flushed | drained flushed | disconnected flushed =>
    simp only [step, Option.ite_none_right_eq_some, Option.some.injEq] at hstep
    obtain ⟨-, rfl⟩ := hstep
    exact ⟨Pipe.handOver_entered flushed, rfl⟩
  | cancelled | returned =>
    simp only [step, Option.ite_none_right_eq_some, Option.some.injEq] at hstep
    obtain ⟨-, rfl⟩ := hstep
    exact ⟨rfl, rfl⟩

theorem write_count (item : T) :
    (write c w item).pipe.entered.length + (write c w item).drops =
      w.pipe.entered.length + w.drops + 1 := by
  rw [write]
  split
  · rfl
  · simp [Pipe.enter]
    omega

theorem exec_count {events : List (Event T)} (hrun : exec (step c) w events = some w') :
    w'.pipe.entered.length + w'.drops =
      w.pipe.entered.length + w.drops + events.countP Event.isWrite := by
  induction events generalizing w with
  | nil =>
    cases hrun
    rfl
  | cons e events ih =>
    obtain ⟨next, hstep, hrest⟩ := exec_cons hrun
    rw [ih hrest, List.countP_cons]
    cases hwrite : e.isWrite with
    | false =>
      obtain ⟨hentered, hdrops⟩ := step_frame hstep hwrite
      simp [hentered, hdrops]
    | true =>
      obtain ⟨item, rfl⟩ : ∃ item, e = .write item := by
        cases e <;> simp [Event.isWrite] at hwrite ⊢
      simp only [step, Option.ite_none_right_eq_some, Option.some.injEq] at hstep
      rw [← hstep.2, write_count, if_pos rfl]
      omega

/-- In every interleaving the items that entered the channel are those of the flushed batches, the
buffer and the channel, in the order of entry and each once; no batch is empty, none but the last
one exceeds the batch size, the channel keeps to its capacity, and every write either entered or
was counted as dropped. -/
theorem worker_accounting (c : WorkerConfig) (events : List (Event T)) (w : Worker T)
    (hrun : exec (step c) .new events = some w) :
    w.pipe.entered = w.pipe.handed ++ w.pipe.buffer ++ w.pipe.queue ∧
      (∀ b ∈ w.pipe.batches, b.2 ≠ []) ∧
      (∀ b ∈ w.pipe.batches.dropLast, b.2.length ≤ max 1 c.batchSize) ∧
      w.pipe.queue.length ≤ c.capacity ∧
      events.countP Event.isWrite = w.pipe.entered.length + w.drops := by
  have hinv := exec_inv hrun
  refine ⟨?_, hinv.conserved.nonempty, fun b hb => (hinv.regular b hb).1, hinv.bounded, ?_⟩
  · simpa using hinv.conserved.whole
  · have hcount := exec_count hrun
    simp only [Worker.new, Pipe.empty, List.length_nil] at hcount
    omega

theorem worker_accounting_full :
    ∃ w : Worker Nat,
      exec (step ⟨2, 2, false⟩) .new
        [.write 1, .write 2, .write 3, .recv true, .recv false, .write 4] = some w ∧
      w.pipe.entered = w.pipe.handed ++ w.pipe.buffer ++ w.pipe.queue ∧ w.drops = 1 :=
  ⟨⟨⟨[1, 2, 4], [4], [], [(false, [1, 2])]⟩, .running, 1, true⟩, by decide,
    (worker_accounting ⟨2, 2, false⟩ [.write 1, .write 2, .write 3, .recv true, .recv false,
      .write 4] _ (by decide)).1, rfl⟩

/-- The worker no longer takes items. -/
def Closed (handed : List T) (w : Worker T) : Prop :=
  (w.phase = .closing ∨ w.phase = .ended) ∧ w.pipe.handed = handed ∧ w.pipe.buffer = []

theorem step_closed {handed : List T} (h : Closed handed w) {e : Event T}
    (hstep : step c w e = some w') : Closed handed w' := by
  obtain ⟨hphase, hhanded, hbuffer⟩ := h
  have hrunning : w.phase ≠ .running := by rcases hphase with h | h <;> simp [h]
  have hdraining : w.phase ≠ .draining := by rcases hphase with h | h <;> simp [h]
  cases e with
  | write item =>
    simp only [step, Option.ite_none_right_eq_some, Option.some.injEq] at hstep
    rw [← hstep.2, write]
    split <;> exact ⟨hphase, hhanded, hbuffer⟩
  | dropSenders =>
    cases hstep
    exact ⟨hphase, hhanded, hbuffer⟩
  | returned =>
    simp only [step, Option.ite_none_right_eq_some, Option.some.injEq] at hstep
    obtain ⟨-, rfl⟩ := hstep
    exact ⟨.inr rfl, hhanded, hbuffer⟩
  | recv | tick | cancelled | tryRecv | drained | disconnected =>
    simp [step, hrunning, hdraining] at hstep

/-- Once the cancelled worker finds the channel empty, or all senders are gone, its batches hold
exactly the items that had entered by then, whatever happens afterwards; an item that enters during
the last flush stays in the channel and is lost. -/
theorem shutdown_hands_over (c : WorkerConfig) (before after : List (Event T)) (last : Event T)
    (mid w : Worker T) (hlast : ∃ flushed, last = .drained flushed ∨ last = .disconnected flushed)
    (hbefore : exec (step c) .new before = some mid)
    (hafter : exec (step c) mid (last :: after) = some w) :
    w.pipe.handed = mid.pipe.entered ∧ w.pipe.buffer = [] ∧
      w.pipe.entered = mid.pipe.entered ++ w.pipe.queue := by
  obtain ⟨next, hstep, hrest⟩ := exec_cons hafter
  have hmid := (exec_inv hbefore).conserved.whole
  have hnext : Closed mid.pipe.entered next := by
    obtain ⟨flushed, rfl | rfl⟩ := hlast <;>
      simp only [step, Option.ite_none_right_eq_some, Option.some.injEq] at hstep <;>
      obtain ⟨hidle, rfl⟩ := hstep <;>
      refine ⟨.inl rfl, ?_, Pipe.handOver_buffer flushed⟩ <;>
      simpa [hidle, Pipe.handed_handOver] using hmid.symm
  obtain ⟨-, hhanded, hbuffer⟩ :=
    exec_preserves (Closed mid.pipe.entered) (fun _ _ _ h hstep => step_closed h hstep) hnext hrest
  have hw := (step_inv (exec_inv hbefore) hstep |> fun h =>
    exec_preserves (Inv c) (fun _ _ _ h hstep => step_inv h hstep) h hrest).conserved.whole
  exact ⟨hhanded, hbuffer, by simpa [hhanded, hbuffer] using hw⟩

theorem shutdown_hands_over_late :
    ∃ mid w : Worker Nat,
      exec (step asyncWriterConfig) .new [.write 1, .cancelled, .tryRecv] = some mid ∧
      exec (step asyncWriterConfig) mid [.drained true, .write 2, .returned] = some w ∧
      w.pipe.handed = mid.pipe.entered ∧ w.pipe.queue = [2] := by
  refine ⟨⟨⟨[1], [], [1], []⟩, .draining, 0, true⟩,
    ⟨⟨[1, 2], [2], [], [(true, [1])]⟩, .ended, 0, true⟩, by decide, by decide, ?_, rfl⟩
  exact (shutdown_hands_over asyncWriterConfig [.write 1, .cancelled, .tryRecv]
    [.write 2, .returned] (.drained true) _ _ ⟨true, .inl rfl⟩ (by decide) (by decide)).1

/-- The items of the batches whose flush succeeded. -/
def persisted (w : Worker T) : List T := (w.pipe.batches.filter (·.1)).flatMap (·.2)

/-- The batches before the last one are flushed, so that only the last can be missing. -/
theorem filter_flushed_isPrefix {batches : List (Bool × List T)}
    (h : ∀ b ∈ batches.dropLast, b.1 = true) : batches.filter (·.1) <+: batches := by
  rcases List.eq_nil_or_concat batches with rfl | ⟨front, last, rfl⟩
  · exact List.prefix_rfl
  · rw [List.concat_eq_append, List.dropLast_concat] at h
    rw [List.concat_eq_append, List.filter_append, List.filter_eq_self.mpr h]
    exact List.prefix_append_right_inj front |>.mpr (by cases hlast : last.1 <;> simp [hlast])

/-- The audit events that are stored are an initial segment of those that entered the channel: the
drain ends at the first batch that fails, so it never leaves a gap. While it runs, every batch it
has taken is stored. -/
theorem audit_drain_stores_segment (capacity : Nat) (events : List (Event T)) (w : Worker T)
    (hrun : exec (step (auditDrainConfig capacity)) .new events = some w) :
    persisted w <+: w.pipe.entered ∧
      (w.phase = .running → w.pipe.entered = persisted w ++ w.pipe.buffer ++ w.pipe.queue) := by
  have hinv := exec_inv hrun
  have hwhole : w.pipe.entered = w.pipe.handed ++ w.pipe.buffer ++ w.pipe.queue := by
    simpa using hinv.conserved.whole
  constructor
  · obtain ⟨rest, hrest⟩ := filter_flushed_isPrefix fun b hb => (hinv.regular b hb).2 rfl
    have hhanded : w.pipe.handed = persisted w ++ rest.flatMap (·.2) := by
      rw [Pipe.handed, ← hrest, List.flatMap_append]
      rfl
    rw [hwhole, hhanded, List.append_assoc, List.append_assoc]
    exact List.prefix_append _ _
  · intro hrunning
    have hall := List.filter_eq_self.mpr fun b hb => (hinv.all_regular (.inl hrunning) b hb).2 rfl
    rw [hwhole, persisted, hall]
    rfl

theorem audit_drain_stores_segment_failed :
    ∃ w : Worker Nat,
      exec (step (auditDrainConfig 8)) .new
        [.write 1, .recv true, .tick true, .write 2, .recv true, .write 3, .tick false, .returned] =
          some w ∧
      persisted w <+: w.pipe.entered ∧ persisted w = [1] :=
  ⟨⟨⟨[1, 2, 3], [3], [], [(true, [1]), (false, [2])]⟩, .ended, 0, true⟩, by decide,
    (audit_drain_stores_segment 8 [.write 1, .recv true, .tick true, .write 2, .recv true,
      .write 3, .tick false, .returned] _ (by decide)).1, rfl⟩

end OxideArb.AsyncWriter
