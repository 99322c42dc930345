import Mathlib.Data.List.Basic

/-!
# A channel that is emptied in batches

Producers put messages into a queue. A worker takes them out in order, appends their items to a
buffer and hands the buffer over as one batch, with a note whether the batch was taken. Whatever
the order of these operations, the items of the messages that entered are those of the batches, the
buffer and the queue, in that order.
-/

namespace Batcher

structure Pipe (μ α : Type*) where
  entered : List μ
  queue : List μ
  buffer : List α
  batches : List (Bool × List α)
  deriving DecidableEq

namespace Pipe

variable {μ α : Type*} (items : μ → List α)

def empty : Pipe μ α := ⟨[], [], [], []⟩

def enter (p : Pipe μ α) (m : μ) : Pipe μ α :=
  { p with entered := p.entered ++ [m], queue := p.queue ++ [m] }

def receive (p : Pipe μ α) : Option (Pipe μ α) :=
  match p.queue with
  | [] => none
  | m :: rest => some { p with queue := rest, buffer := p.buffer ++ items m }

/-- An empty buffer is not handed over. -/
def handOver (p : Pipe μ α) (taken : Bool) : Pipe μ α :=
  if p.buffer.isEmpty then p
  else { p with buffer := [], batches := p.batches ++ [(taken, p.buffer)] }

/-- The items of the batches, in the order in which they were handed over. -/
def handed (p : Pipe μ α) : List α := p.batches.flatMap (·.2)

structure Conserved (p : Pipe μ α) : Prop where
  whole : p.entered.flatMap items = p.handed ++ p.buffer ++ p.queue.flatMap items
  nonempty : ∀ b ∈ p.batches, b.2 ≠ []

variable {items} {p q : Pipe μ α}

theorem conserved_empty : Conserved items (empty : Pipe μ α) :=
  ⟨rfl, fun _ h => absurd h List.not_mem_nil⟩

theorem Conserved.enter (h : Conserved items p) (m : μ) : Conserved items (p.enter m) where
  whole := by
    change (p.entered ++ [m]).flatMap items =
      p.handed ++ p.buffer ++ (p.queue ++ [m]).flatMap items
    rw [List.flatMap_append, List.flatMap_append, h.whole, List.append_assoc]
  nonempty := h.nonempty

theorem receive_eq_some (h : p.receive items = some q) :
    ∃ m, p.queue = m :: q.queue ∧
      q = { p with queue := q.queue, buffer := p.buffer ++ items m } := by
  rw [receive] at h
  split at h
  · cases h
  · next m rest hqueue =>
    cases h
    exact ⟨m, hqueue, rfl⟩

theorem Conserved.receive (h : Conserved items p) (hq : p.receive items = some q) :
    Conserved items q := by
  obtain ⟨m, hqueue, hq⟩ := receive_eq_some hq
  refine ⟨?_, by rw [hq]; exact h.nonempty⟩
  have hwhole := h.whole
  rw [hqueue, List.flatMap_cons] at hwhole
  rw [hq]
  change p.entered.flatMap items = p.handed ++ (p.buffer ++ items m) ++ q.queue.flatMap items
  rw [hwhole]
  simp only [List.append_assoc]

theorem handOver_of_empty {taken : Bool} (h : p.buffer = []) : p.handOver taken = p := by
  rw [handOver, h, List.isEmpty_nil, if_pos rfl]

theorem handOver_of_ne {taken : Bool} (h : p.buffer ≠ []) :
    p.handOver taken = { p with buffer := [], batches := p.batches ++ [(taken, p.buffer)] } := by
  rw [handOver, if_neg (by simpa using h)]

@[simp] theorem handOver_buffer (taken : Bool) : (p.handOver taken).buffer = [] := by
  by_cases h : p.buffer = []
  · rw [handOver_of_empty h, h]
  · rw [handOver_of_ne h]

@[simp] theorem handOver_queue (taken : Bool) : (p.handOver taken).queue = p.queue := by
  rw [handOver]
  split <;> rfl

@[simp] theorem handOver_entered (taken : Bool) : (p.handOver taken).entered = p.entered := by
  rw [handOver]
  split <;> rfl

theorem handed_handOver (taken : Bool) : (p.handOver taken).handed = p.handed ++ p.buffer := by
  by_cases h : p.buffer = []
  · rw [handOver_of_empty h, h, List.append_nil]
  · rw [handOver_of_ne h]
    simp [handed]

/-- A hand-over adds one batch, the buffer, or none. -/
theorem handOver_batches (p : Pipe μ α) (taken : Bool) :
    (p.handOver taken).batches = p.batches ∨
      ∃ b, b.2 ≠ [] ∧ (p.handOver taken).batches = p.batches ++ [b] := by
  by_cases h : p.buffer = []
  · exact .inl (by rw [handOver_of_empty h])
  · exact .inr ⟨(taken, p.buffer), h, by rw [handOver_of_ne h]⟩

theorem forall_handOver {good : Bool × List α → Prop} {taken : Bool}
    (h : ∀ b ∈ p.batches, good b) (hbuffer : p.buffer ≠ [] → good (taken, p.buffer)) :
    ∀ b ∈ (p.handOver taken).batches, good b := by
  by_cases hempty : p.buffer = []
  · rw [handOver_of_empty hempty]
    exact h
  · rw [handOver_of_ne hempty]
    intro b hb
    rcases List.mem_append.mp hb with hb | hb
    · exact h b hb
    · exact List.mem_singleton.mp hb ▸ hbuffer hempty

/-- What held for all batches holds for all but the last. -/
theorem forall_dropLast_handOver {good : Bool × List α → Prop} {taken : Bool}
    (h : ∀ b ∈ p.batches, good b) : ∀ b ∈ (p.handOver taken).batches.dropLast, good b := by
  intro b hb
  by_cases hempty : p.buffer = []
  · rw [handOver_of_empty hempty] at hb
    exact h b (List.dropLast_subset _ hb)
  · rw [handOver_of_ne hempty, List.dropLast_concat] at hb
    exact h b hb

theorem Conserved.handOver (h : Conserved items p) (taken : Bool) :
    Conserved items (p.handOver taken) where
  whole := by
    rw [handOver_entered, handed_handOver, handOver_buffer, handOver_queue, List.append_nil,
      h.whole]
  nonempty := forall_handOver h.nonempty id

end Pipe

end Batcher
