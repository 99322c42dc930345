import OxideArb.Exposure.Interleaving
import OxideArb.Lib.WaitFor

/-!
# The locks under the exposure reservation

The two maps are spread over shards, each a lock; a step that takes a lock is possible only
while no other thread holds it. `try_reserve_sync` inserts with its market's guard in its hand,
`gc_expired` goes to the counters with a shard of the reservations: these two can deadlock.
-/

namespace OxideArb

namespace Exposure

open Transition

inductive ShardLock
  | reservations (shard : Nat)
  | perMarket (shard : Nat)
deriving DecidableEq, Repr

/-- How both maps spread their keys. -/
structure LockSetup extends Setup where
  marketShardOf : MarketId → Nat

namespace Pc

/-- `try_reserve_sync` with the guard of its counter. -/
def guards : Pc → Bool
  | .insertEntry ⟨.reserve _, _, _⟩ => true
  | _ => false

/-- `gc_expired` inside a shard. -/
def inside : Pc → Bool
  | .gcTotal .. | .gcMarket .. => true
  | _ => false

def holds (setup : LockSetup) : Pc → List ShardLock
  | .insertEntry ⟨.reserve _, marketId, _⟩ => [.perMarket (setup.marketShardOf marketId)]
  | .gcTotal _ shard _ _ | .gcMarket _ shard _ _ _ => [.reservations shard]
  | _ => []

/-- The lock that the next step takes. A new reservation goes to the shard of the id that was drawn
for it. -/
def wants (setup : LockSetup) (drawn : Option ReservationId) : Pc → Option ShardLock
  | .containsKey id .. | .pinEntry id | .removeEntry id | .resizeEntry id _ =>
    some (.reservations (setup.shardOf id))
  | .addMarket r => some (.perMarket (setup.marketShardOf r.marketId))
  | .insertEntry ⟨.reserve _, _, _⟩ => drawn.map fun id => .reservations (setup.shardOf id)
  | .insertEntry ⟨.restore id _ _, _, _⟩ => some (.reservations (setup.shardOf id))
  | .subMarket marketId _ => some (.perMarket (setup.marketShardOf marketId))
  | .gcShard _ shard _ => if shard < setup.shards then some (.reservations shard) else none
  | .gcMarket _ _ entry _ _ => some (.perMarket (setup.marketShardOf entry.marketId))
  | _ => none

end Pc

/-- The threads, with the id that a thread has drawn for its reservation. -/
structure LockedState where
  state : State
  drawn : Nat → Option ReservationId

/-- A thread starts a call, draws the id of its reservation, or takes its next step. -/
inductive LockLabel
  | call (tid : Nat) (c : Call)
  | draw (tid : Nat) (id : ReservationId)
  | step (tid : Nat) (answers : Answers)
deriving DecidableEq, Repr

namespace LockedState

def new (n : Nat) : LockedState := { state := .new n, drawn := fun _ => none }

variable (setup : LockSetup) (s : LockedState) (tid : Nat)

def Holds (lock : ShardLock) : Prop :=
  ∃ thread ∈ s.state.threads[tid]?, lock ∈ thread.pc.holds setup

def wants : Option ShardLock :=
  s.state.threads[tid]?.bind fun thread => thread.pc.wants setup (s.drawn tid)

instance (setup : LockSetup) (s : LockedState) (tid : Nat) (lock : ShardLock) :
    Decidable (s.Holds setup tid lock) :=
  inferInstanceAs (Decidable (∃ thread ∈ s.state.threads[tid]?, _))

/-- Another thread holds the lock that the next step takes. -/
def Blocked : Prop :=
  ∃ lock ∈ s.wants setup tid, ∃ other < s.state.threads.length,
    other ≠ tid ∧ s.Holds setup other lock

instance (setup : LockSetup) (s : LockedState) (tid : Nat) : Decidable (s.Blocked setup tid) :=
  inferInstanceAs (Decidable (∃ lock ∈ s.wants setup tid, _))

def draws : Bool := s.state.threads[tid]?.any (·.pc.guards)

def next : LockLabel → Option LockedState
  | .call tid c =>
    (Exposure.next setup.toSetup s.state (.call tid c)).map fun state => { s with state }
  | .draw tid id =>
    if s.draws tid ∧ s.drawn tid = none then
      some { s with drawn := Function.update s.drawn tid (some id) }
    else none
  | .step tid a =>
    if s.Blocked setup tid ∨ s.draws tid ∧ s.drawn tid ≠ some a.freshId then none
    else
      (Exposure.next setup.toSetup s.state (.step tid a)).map fun state =>
        { state, drawn := Function.update s.drawn tid none }

theorem next_state {setup : LockSetup} {s t : LockedState} {label : LockLabel}
    (h : s.next setup label = some t) :
    t.state = s.state ∨
      (∃ tid c, label = .call tid c ∧
        Exposure.next setup.toSetup s.state (.call tid c) = some t.state) ∨
      ∃ tid a, label = .step tid a ∧
        Exposure.next setup.toSetup s.state (.step tid a) = some t.state := by
  cases label with
  | call tid c =>
    obtain ⟨u, hu, rfl⟩ := Option.map_eq_some_iff.mp h
    exact .inr (.inl ⟨tid, c, rfl, hu⟩)
  | draw tid id =>
    simp only [next] at h
    split at h
    · cases h
      exact .inl rfl
    · cases h
  | step tid a =>
    simp only [next] at h
    split at h
    · cases h
    · obtain ⟨u, hu, rfl⟩ := Option.map_eq_some_iff.mp h
      exact .inr (.inr ⟨tid, a, rfl, hu⟩)

end LockedState

/-! ## Guards and passes apart -/

/-- No thread has the guard of a counter while another is inside a shard. -/
def State.Apart (s : State) : Prop :=
  ¬ ((∃ thread ∈ s.threads, thread.pc.guards = true) ∧
    ∃ thread ∈ s.threads, thread.pc.inside = true)

/-- A guard is taken only while no thread is inside a shard, and a shard is entered only while no
thread has a guard. -/
def Pc.exclusive (threads : List Thread) : Pc → Bool
  | .addMarket ⟨.reserve _, _, _⟩ => threads.all fun other => !other.pc.inside
  | .gcShard _ _ _ => threads.all fun other => !other.pc.guards
  | _ => true

def LockLabel.Exclusive (s : LockedState) : LockLabel → Prop
  | .step tid _ => s.state.threads[tid]?.all fun thread => thread.pc.exclusive s.state.threads
  | _ => True

instance (s : LockedState) : (label : LockLabel) → Decidable (label.Exclusive s)
  | .call _ _ | .draw _ _ => isTrue trivial
  | .step tid _ => inferInstanceAs (Decidable (Option.all _ s.state.threads[tid]? = true))

theorem addMarket_pc (setup : Setup) (s : State) (r : Request) :
    (addMarket setup s r).2 = .insertEntry r ∨
      ∃ error, (addMarket setup s r).2 = .undoTotal r error := by
  unfold addMarket
  dsimp only
  split
  · exact .inr ⟨_, rfl⟩
  · split
    · exact .inr ⟨_, rfl⟩
    · exact .inl rfl

theorem count_pc (source : Source) (marketId : MarketId) (amount : Usd) :
    (count source marketId amount).guards = false ∧
      (count source marketId amount).inside = false := by
  unfold count
  split <;> exact ⟨rfl, rfl⟩

theorem entry_pc (c : Call) : c.entry.guards = false ∧ c.entry.inside = false := by
  cases c with
  | tryReserve marketId amount ttl => exact count_pc _ _ _
  | resize id newAmount =>
    simp only [Call.entry]
    split <;> exact ⟨rfl, rfl⟩
  | _ => exact ⟨rfl, rfl⟩

theorem stepAt_pc {setup : Setup} {s u : State} {a : Answers} {pc pc' : Pc}
    (h : stepAt setup s a pc = some (u, pc')) :
    (pc'.guards = true → ∃ ttl marketId cents, pc = .addMarket ⟨.reserve ttl, marketId, cents⟩) ∧
      (pc'.inside = true → pc.inside = true ∨ ∃ now shard n, pc = .gcShard now shard n) := by
  -- a step that goes to neither
  have hplain : ∀ {v : State} {q : Pc}, some (v, q) = some (u, pc') → q.guards = false →
      q.inside = false →
      (pc'.guards = true → ∃ ttl marketId cents, pc = .addMarket ⟨.reserve ttl, marketId, cents⟩) ∧
        (pc'.inside = true → pc.inside = true ∨ ∃ now shard n, pc = .gcShard now shard n) := by
    intro v q heq hguards hinside
    cases heq
    rw [hguards, hinside]
    exact ⟨(absurd · Bool.false_ne_true), (absurd · Bool.false_ne_true)⟩
  cases pc with
  | idle | returned => cases h
  | containsKey id marketId amount pinned expiresAt =>
    simp only [stepAt] at h
    split at h
    · exact hplain h rfl rfl
    · exact hplain h (count_pc _ _ _).1 (count_pc _ _ _).2
  | loadTotal r =>
    simp only [stepAt] at h
    split at h
    · exact hplain h rfl rfl
    · split at h <;> exact hplain h rfl rfl
  | casTotal r current =>
    simp only [stepAt] at h
    split at h <;> exact hplain h rfl rfl
  | addMarket r =>
    simp only [stepAt, Option.some.injEq] at h
    have hpc : pc' = (addMarket setup s r).2 := by rw [h]
    rcases addMarket_pc setup s r with hinsert | ⟨error, hundo⟩
    · rw [hpc, hinsert]
      obtain ⟨source, marketId, cents⟩ := r
      cases source with
      | reserve ttl => exact ⟨fun _ => ⟨ttl, marketId, cents, rfl⟩, (absurd · Bool.false_ne_true)⟩
      | restore => exact ⟨(absurd · Bool.false_ne_true), (absurd · Bool.false_ne_true)⟩
    · rw [hpc, hundo]
      exact ⟨(absurd · Bool.false_ne_true), (absurd · Bool.false_ne_true)⟩
  | undoTotal | insertEntry | subTotal | subMarket | gcNow => exact hplain h rfl rfl
  | pinEntry id | removeEntry id =>
    simp only [stepAt] at h
    split at h <;> exact hplain h rfl rfl
  | resizeEntry id newCents =>
    simp only [stepAt] at h
    split at h
    · exact hplain h rfl rfl
    · split at h
      · exact hplain h rfl rfl
      · split at h <;> exact hplain h rfl rfl
  | gcShard now shard n =>
    simp only [stepAt] at h
    split at h
    · cases h
      exact ⟨(absurd · Bool.false_ne_true), fun _ => .inr ⟨now, shard, n, rfl⟩⟩
    · exact hplain h rfl rfl
  | gcTotal now shard expired n =>
    cases expired with
    | nil => exact hplain h rfl rfl
    | cons entry expired =>
      cases h
      exact ⟨(absurd · Bool.false_ne_true), fun _ => .inl rfl⟩
  | gcMarket now shard entry expired n =>
    cases h
    exact ⟨(absurd · Bool.false_ne_true), fun _ => .inl rfl⟩

namespace LockedState

variable {setup : LockSetup} {s t : LockedState} {label : LockLabel}

theorem mem_after {thread : Thread} (h : s.next setup label = some t)
    (hmem : thread ∈ t.state.threads) :
    thread ∈ s.state.threads ∨ (thread.pc.guards = false ∧ thread.pc.inside = false) ∨
      ∃ tid a old u, label = .step tid a ∧ s.state.threads[tid]? = some old ∧
        stepAt setup.toSetup s.state a old.pc = some (u, thread.pc) := by
  rcases next_state h with hsame | ⟨tid, c, rfl, hcall⟩ | ⟨tid, a, rfl, hstep⟩
  · exact .inl (hsame ▸ hmem)
  · rcases next_cases hcall with ⟨tid', c', old, -, -, -, heq⟩ | ⟨_, _, _, _, _, hlabel, -⟩
    · rw [heq] at hmem
      rcases List.mem_or_eq_of_mem_set hmem with hold | rfl
      · exact .inl hold
      · exact .inr (.inl (entry_pc c'))
    · cases hlabel
  · rcases next_cases hstep with ⟨_, _, _, hlabel, -⟩ |
      ⟨tid', a', old, u, pc, hlabel, hget, hat, heq⟩
    · cases hlabel
    · cases hlabel
      rw [heq] at hmem
      rcases List.mem_or_eq_of_mem_set hmem with hold | rfl
      · exact .inl hold
      · exact .inr (.inr ⟨tid, a, old, u, rfl, hget, hat⟩)

theorem exclusive_of_step {tid : Nat} {a : Answers} {thread : Thread}
    (h : (LockLabel.step tid a).Exclusive s) (hget : s.state.threads[tid]? = some thread) :
    thread.pc.exclusive s.state.threads = true := by
  simp only [LockLabel.Exclusive, hget, Option.all_some] at h
  exact h

theorem apart_next (hs : s.state.Apart) (hexclusive : label.Exclusive s)
    (h : s.next setup label = some t) : t.state.Apart := by
  rintro ⟨⟨g, hg, hguards⟩, i, hi, hinside⟩
  rcases mem_after h hg with hg | ⟨hnot, -⟩ | ⟨tid, a, old, u, rfl, hget, hstep⟩
  · rcases mem_after h hi with hi | ⟨-, hnot⟩ | ⟨tid, a, old, u, rfl, hget, hstep⟩
    · exact hs ⟨⟨g, hg, hguards⟩, i, hi, hinside⟩
    · rw [hinside] at hnot
      cases hnot
    · -- the step is one of the collection
      rcases (stepAt_pc hstep).2 hinside with hold | ⟨now, shard, n, hpc⟩
      · exact hs ⟨⟨g, hg, hguards⟩, old, List.mem_of_getElem? hget, hold⟩
      · have hnone := exclusive_of_step hexclusive hget
        rw [hpc] at hnone
        have hfree := List.all_eq_true.mp hnone g hg
        rw [hguards] at hfree
        cases hfree
  · rw [hguards] at hnot
    cases hnot
  · -- the step takes the guard
    obtain ⟨ttl, marketId, cents, hpc⟩ := (stepAt_pc hstep).1 hguards
    have hnone := exclusive_of_step hexclusive hget
    rw [hpc] at hnone
    rcases mem_after h hi with hi | ⟨-, hnot⟩ | ⟨tid', a', old', u', hlabel, hget', hstep'⟩
    · have hfree := List.all_eq_true.mp hnone i hi
      rw [hinside] at hfree
      cases hfree
    · rw [hinside] at hnot
      cases hnot
    · cases hlabel
      obtain rfl : old = old' := Option.some.inj (hget.symm.trans hget')
      rcases (stepAt_pc hstep').2 hinside with hold | ⟨now, shard, n, hpc'⟩
      · rw [hpc] at hold
        cases hold
      · rw [hpc] at hpc'
        cases hpc'

theorem guards_of_holds_perMarket {tid shard : Nat} (h : s.Holds setup tid (.perMarket shard)) :
    ∃ thread ∈ s.state.threads, thread.pc.guards = true := by
  obtain ⟨thread, hget, hlock⟩ := h
  refine ⟨thread, List.mem_of_getElem? hget, ?_⟩
  unfold Pc.holds at hlock
  split at hlock
  next hpc => rw [hpc]; rfl
  · cases List.mem_singleton.mp hlock
  · cases List.mem_singleton.mp hlock
  · cases hlock

theorem inside_of_holds_reservations {tid shard : Nat}
    (h : s.Holds setup tid (.reservations shard)) :
    ∃ thread ∈ s.state.threads, thread.pc.inside = true := by
  obtain ⟨thread, hget, hlock⟩ := h
  refine ⟨thread, List.mem_of_getElem? hget, ?_⟩
  unfold Pc.holds at hlock
  split at hlock
  · cases List.mem_singleton.mp hlock
  next hpc => rw [hpc]; rfl
  next hpc => rw [hpc]; rfl
  · cases hlock

/-- Only a reserve with its guard and a collection inside a shard wait with a lock in their hand,
and each waits for a lock of the other's. -/
theorem not_deadlock_of_apart (hs : s.state.Apart) :
    ¬ Deadlock (s.wants setup) (s.Holds setup) := by
  intro hdead
  obtain ⟨tid, other, ⟨held, thread, hget, hheld⟩, -, lock, hwants, hother⟩ := hdead.waits_holding
  have hmem : thread ∈ s.state.threads := List.mem_of_getElem? hget
  have hget' : s.state.threads[tid]? = some thread := hget
  have hlock : thread.pc.wants setup (s.drawn tid) = some lock := by
    rw [wants, hget', Option.bind_some] at hwants
    exact hwants
  unfold Pc.holds at hheld
  split at hheld
  next hpc =>
    rw [hpc] at hlock
    obtain ⟨id, -, rfl⟩ := Option.map_eq_some_iff.mp hlock
    exact hs ⟨⟨thread, hmem, by rw [hpc]; rfl⟩, inside_of_holds_reservations hother⟩
  next hpc =>
    rw [hpc] at hlock
    cases hlock
  next hpc =>
    rw [hpc] at hlock
    cases hlock
    exact hs ⟨guards_of_holds_perMarket hother, thread, hmem, by rw [hpc]; rfl⟩
  · cases hheld

theorem apart_new (n : Nat) : (new n).state.Apart := by
  rintro ⟨⟨thread, hthread, hguards⟩, -⟩
  rw [List.eq_of_mem_replicate hthread] at hguards
  cases hguards

/-- In every run in which no guard is taken while a collection is inside a shard, and no shard is
entered while a guard is out, no state has threads that wait for each other. -/
theorem no_deadlock_of_exclusive (setup : LockSetup) (n : Nat) {labels : List LockLabel}
    {s : LockedState} (hrun : exec (next setup) (new n) labels = some s)
    (hexclusive : Meets (next setup) (fun s label => label.Exclusive s) (new n) labels) :
    ¬ Deadlock (s.wants setup) (s.Holds setup) :=
  not_deadlock_of_apart (exec_invariant (fun s => s.state.Apart)
    (fun _ _ _ hs hexclusive h => apart_next hs hexclusive h) (apart_new n) hexclusive hrun)

def sampleLocks : LockSetup :=
  { config := { maxTotalExposureCents := 1000, maxPerMarketCents := 500 }, shards := 1
    shardOf := fun _ => 0, marketShardOf := fun _ => 0 }

/-- A reservation up to its insertion, under the id `r`. -/
def reserveUpTo (tid : Nat) : List LockLabel :=
  .call tid (.tryReserve ⟨"m"⟩ 1 0) :: List.replicate 3 (.step tid ⟨⟨"r"⟩, 0, false⟩)

/-- The reservation is made, and collected after it has expired. -/
def reserveThenCollect : List LockLabel :=
  reserveUpTo 0 ++ [.draw 0 ⟨"r"⟩, .step 0 ⟨⟨"r"⟩, 0, false⟩, .call 1 .gcExpired] ++
    List.replicate 3 (.step 1 ⟨⟨"r"⟩, 10, false⟩)

theorem no_deadlock_reserve_then_collect :
    ∃ s, exec (next sampleLocks) (new 2) reserveThenCollect = some s ∧
      ¬ Deadlock (s.wants sampleLocks) (s.Holds sampleLocks) := by
  have hrun : (exec (next sampleLocks) (new 2) reserveThenCollect).isSome = true := by
    decide +kernel
  obtain ⟨s, hs⟩ := Option.isSome_iff_exists.mp hrun
  exact ⟨s, hs, no_deadlock_of_exclusive sampleLocks 2 hs (by decide +kernel)⟩

/-- While the market's first reservation is collected a second one is made: it has the guard of the
counter that the collection wants, and wants the shard that the collection is in. -/
def reserveWhileCollecting : List LockLabel :=
  reserveUpTo 0 ++ [.draw 0 ⟨"r"⟩, .step 0 ⟨⟨"r"⟩, 0, false⟩] ++ reserveUpTo 0 ++
    [.call 1 .gcExpired] ++ List.replicate 3 (.step 1 ⟨⟨"r"⟩, 10, false⟩) ++ [.draw 0 ⟨"s"⟩]

theorem reserve_and_gc_deadlock :
    ∃ s, exec (next sampleLocks) (new 2) reserveWhileCollecting = some s ∧
      Deadlock (s.wants sampleLocks) (s.Holds sampleLocks) := by
  have hrun : ∃ s ∈ exec (next sampleLocks) (new 2) reserveWhileCollecting,
      (s.wants sampleLocks 0 = some (.reservations 0) ∧
        s.Holds sampleLocks 1 (.reservations 0)) ∧
      s.wants sampleLocks 1 = some (.perMarket 0) ∧ s.Holds sampleLocks 0 (.perMarket 0) := by
    decide +kernel
  obtain ⟨s, hs, ⟨hwants₀, hholds₁⟩, hwants₁, hholds₀⟩ := hrun
  exact ⟨s, hs, .of_pair ⟨Nat.one_ne_zero, _, hwants₀, hholds₁⟩
    ⟨Nat.zero_ne_one, _, hwants₁, hholds₀⟩⟩

end LockedState

end Exposure

end OxideArb
