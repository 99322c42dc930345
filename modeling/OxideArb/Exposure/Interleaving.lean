import OxideArb.Exposure.InMemory
import OxideArb.Lib.Transition

/-!
# Interleaved calls on the exposure reservation

A step of a thread is one operation on one of the concurrent structures; what it does to a
counter under one guard is one step.
-/

namespace OxideArb

namespace Exposure

open Transition

/-- What `try_reserve_sync` and `restore_sync` will insert. The id and the end of
the lifetime of a new reservation are made when it is inserted. -/
inductive Source
  | reserve (ttl : Duration)
  | restore (id : ReservationId) (reconcilePinned : Bool) (expiresAt : DateTime)
deriving DecidableEq, Repr

/-- A reservation on its way into the map. -/
structure Request where
  source : Source
  marketId : MarketId
  amountCents : Nat
deriving DecidableEq, Repr

inductive Value
  | unit
  | id (id : ReservationId)
  | count (n : Nat)
deriving DecidableEq, Repr

inductive Call
  | tryReserve (marketId : MarketId) (amount : Usd) (ttl : Duration)
  | pinForReconciliation (id : ReservationId)
  | restore (id : ReservationId) (marketId : MarketId) (amount : Usd) (reconcilePinned : Bool)
      (expiresAt : DateTime)
  | release (id : ReservationId)
  | resize (id : ReservationId) (newAmount : Usd)
  | gcExpired
deriving DecidableEq, Repr

inductive Pc
  | idle
  | returned (result : Except ReservationError Value)
  | containsKey (id : ReservationId) (marketId : MarketId) (amount : Usd) (reconcilePinned : Bool)
      (expiresAt : DateTime)
  | loadTotal (r : Request)
  | casTotal (r : Request) (current : Nat)
  | addMarket (r : Request)
  | undoTotal (r : Request) (error : ReservationError)
  | insertEntry (r : Request)
  | pinEntry (id : ReservationId)
  | removeEntry (id : ReservationId)
  | resizeEntry (id : ReservationId) (newCents : Nat)
  | subTotal (marketId : MarketId) (cents : Nat)
  | subMarket (marketId : MarketId) (cents : Nat)
  | gcNow
  | gcShard (now : DateTime) (shard : Nat) (expiredCount : Nat)
  | gcTotal (now : DateTime) (shard : Nat) (expired : List ReservationEntry) (expiredCount : Nat)
  | gcMarket (now : DateTime) (shard : Nat) (entry : ReservationEntry)
      (expired : List ReservationEntry) (expiredCount : Nat)

inductive Counter
  | total
  | market (marketId : MarketId)
deriving DecidableEq, Repr

/-- A thread, with what its present call has done to the counters so far, which
the code does not keep. -/
structure Thread where
  pc : Pc
  moved : Counter → Int

/-- The reservation and its threads. The code does not keep the last two fields:
whether a subtraction has ever wrapped around, and the entries that an insert of
the same id has replaced. -/
structure State where
  store : InMemoryExposureReservation
  threads : List Thread
  wrapped : Bool
  overwritten : List ReservationEntry

/-- What never changes during a run: the limits, and how the map spreads the ids
over its shards. -/
structure Setup where
  config : ExposureReservationConfig
  shards : Nat
  shardOf : ReservationId → Nat

/-- What the id generator and the clock answer at a step, and whether the weak
compare-and-swap fails without a reason. -/
structure Answers where
  freshId : ReservationId
  now : DateTime
  spurious : Bool
deriving DecidableEq, Repr

inductive Label
  | call (tid : Nat) (c : Call)
  | step (tid : Nat) (answers : Answers)
deriving DecidableEq, Repr

def Thread.new : Thread := { pc := .idle, moved := fun _ => 0 }

def State.new (n : Nat) : State :=
  { store := { reservations := .empty, totalReservedCents := 0, perMarketCents := fun _ => none }
    threads := List.replicate n .new, wrapped := false, overwritten := [] }

variable (s : State) (m : MarketId) (cents : Nat)

/-- The value a counter shows; a market without a counter has nothing reserved. -/
def State.value : Counter → Nat
  | .total => s.store.totalReservedCents
  | .market m => (s.store.perMarketCents m).getD 0

def State.setTotal : State :=
  { s with store := { s.store with totalReservedCents := cents } }

def State.setMarket : State :=
  { s with store := { s.store with
      perMarketCents := fun m' => if m' = m then some cents else s.store.perMarketCents m' } }

def State.setReservations (reservations : Table ReservationEntry.id) : State :=
  { s with store := { s.store with reservations } }

def State.note (wraps : Bool) : State := { s with wrapped := s.wrapped || wraps }

/-- `total_reserved_cents.fetch_sub`. -/
def State.fetchSubTotal : State :=
  (s.note (s.store.totalReservedCents < cents)).setTotal
    (fetchSub s.store.totalReservedCents cents)

/-- `market_total.fetch_sub`, when the market has a counter. -/
def State.fetchSubMarket : State :=
  match s.store.perMarketCents m with
  | none => s
  | some current => (s.note (current < cents)).setMarket m (fetchSub current cents)

/-- `reservations.insert`, which replaces a stored entry of the same id. -/
def State.insert (entry : ReservationEntry) : State :=
  { s with overwritten := (s.store.reservations.get entry.id).toList ++ s.overwritten
    }.setReservations (s.store.reservations.put entry)

def Request.entry (r : Request) (a : Answers) : ReservationEntry :=
  match r.source with
  | .reserve ttl =>
    { id := a.freshId, marketId := r.marketId, amountCents := r.amountCents
      expiresAt := a.now + ttl, reconcilePinned := false }
  | .restore id reconcilePinned expiresAt =>
    { id, marketId := r.marketId, amountCents := r.amountCents, expiresAt, reconcilePinned }

def Request.value (r : Request) (a : Answers) : Value :=
  match r.source with
  | .reserve _ => .id a.freshId
  | .restore _ _ _ => .unit

def Request.overflow (r : Request) (message : String) : ReservationError :=
  match r.source with
  | .reserve _ => .backend message
  | .restore _ _ _ => .backend (message ++ " on restore")

/-- The shared start of `try_reserve_sync` and `restore_sync`: the amount in cents. -/
def count (source : Source) (marketId : MarketId) (amount : Usd) : Pc :=
  match usdToCents amount with
  | .error e => .returned (.error e)
  | .ok amountCents => .loadTotal { source, marketId, amountCents }

def Call.entry : Call → Pc
  | .tryReserve marketId amount ttl => count (.reserve ttl) marketId amount
  | .pinForReconciliation id => .pinEntry id
  | .restore id marketId amount reconcilePinned expiresAt =>
    .containsKey id marketId amount reconcilePinned expiresAt
  | .release id => .removeEntry id
  | .resize id newAmount =>
    match usdToCents newAmount with
    | .error e => .returned (.error e)
    | .ok newCents => .resizeEntry id newCents
  | .gcExpired => .gcNow

def Pc.ready : Pc → Bool
  | .idle => true
  | .returned _ => true
  | _ => false

/-- The entries `gc_expired` takes from a shard. -/
def Setup.expires (setup : Setup) (now : DateTime) (shard : Nat) (e : ReservationEntry) : Bool :=
  setup.shardOf e.id = shard && (e.expiresAt ≤ now && !e.reconcilePinned)

/-- `market_counter.fetch_add` on a counter that is made when there is none. -/
def State.fetchAddMarket : State :=
  s.setMarket m ((s.value (.market m) + cents) % (u64Max + 1))

/-- Under the guard of the market's counter: the amount is added, checked, and taken
off again when it does not fit. -/
def addMarket (setup : Setup) (s : State) (r : Request) : State × Pc :=
  let marketCurrent := s.value (.market r.marketId)
  let added := s.fetchAddMarket r.marketId r.amountCents
  if u64Max < marketCurrent + r.amountCents then
    (added.fetchSubMarket r.marketId r.amountCents,
      .undoTotal r (r.overflow "reservation market total overflow"))
  else if setup.config.maxPerMarketCents < marketCurrent + r.amountCents then
    (added.fetchSubMarket r.marketId r.amountCents,
      .undoTotal r
        (.exceedsLimit marketCurrent r.amountCents setup.config.maxPerMarketCents))
  else (added, .insertEntry r)

/-- One step of a thread at `pc`: the state it leaves and where the thread goes. A
thread that is in no call has no step. -/
def stepAt (setup : Setup) (s : State) (a : Answers) : Pc → Option (State × Pc)
  | .idle => none
  | .returned _ => none
  -- restore_sync
  | .containsKey id marketId amount reconcilePinned expiresAt =>
    if (s.store.reservations.get id).isSome then some (s, .returned (.ok .unit))
    else some (s, count (.restore id reconcilePinned expiresAt) marketId amount)
  -- try_reserve_sync and restore_sync: the compare-and-swap loop on the total
  | .loadTotal r =>
    let current := s.store.totalReservedCents
    if u64Max < current + r.amountCents then
      some (s, .returned (.error (r.overflow "reservation total overflow")))
    else if setup.config.maxTotalExposureCents < current + r.amountCents then
      some (s, .returned (.error
        (.exceedsLimit current r.amountCents setup.config.maxTotalExposureCents)))
    else some (s, .casTotal r current)
  | .casTotal r current =>
    if s.store.totalReservedCents = current ∧ a.spurious = false then
      some (s.setTotal (current + r.amountCents), .addMarket r)
    else some (s, .loadTotal r)
  | .addMarket r => some (addMarket setup s r)
  | .undoTotal r error => some (s.fetchSubTotal r.amountCents, .returned (.error error))
  | .insertEntry r => some (s.insert (r.entry a), .returned (.ok (r.value a)))
  -- pin_for_reconciliation_sync
  | .pinEntry id =>
    match s.store.reservations.get id with
    | none => some (s, .returned (.error (.notFound id)))
    | some entry =>
      some (s.setReservations (s.store.reservations.put { entry with reconcilePinned := true }),
        .returned (.ok .unit))
  -- release_sync
  | .removeEntry id =>
    match s.store.reservations.get id with
    | none => some (s, .returned (.error (.notFound id)))
    | some entry =>
      some (s.setReservations (s.store.reservations.without id),
        .subTotal entry.marketId entry.amountCents)
  -- resize_sync, under the guard of the entry
  | .resizeEntry id newCents =>
    match s.store.reservations.get id with
    | none => some (s, .returned (.error (.notFound id)))
    | some entry =>
      if newCents = entry.amountCents then some (s, .returned (.ok .unit))
      else if entry.amountCents < newCents then
        some (s, .returned (.error (.backend "resize cannot increase reservation amount")))
      else
        some (s.setReservations (s.store.reservations.put { entry with amountCents := newCents }),
          .subTotal entry.marketId (entry.amountCents - newCents))
  | .subTotal marketId cents => some (s.fetchSubTotal cents, .subMarket marketId cents)
  | .subMarket marketId cents => some (s.fetchSubMarket marketId cents, .returned (.ok .unit))
  -- gc_expired visits one shard after the other under its lock: no other thread meets
  -- an entry between the subtractions and its removal, so it goes when it is visited
  | .gcNow => some (s, .gcShard a.now 0 0)
  | .gcShard now shard expiredCount =>
    if shard < setup.shards then
      some (s.setReservations
          (s.store.reservations.filter fun e => !setup.expires now shard e),
        .gcTotal now shard (s.store.reservations.rows.filter (setup.expires now shard))
          expiredCount)
    else some (s, .returned (.ok (.count expiredCount)))
  | .gcTotal now shard [] expiredCount => some (s, .gcShard now (shard + 1) expiredCount)
  | .gcTotal now shard (entry :: expired) expiredCount =>
    some (s.fetchSubTotal entry.amountCents, .gcMarket now shard entry expired expiredCount)
  | .gcMarket now shard entry expired expiredCount =>
    some (s.fetchSubMarket entry.marketId entry.amountCents,
      .gcTotal now shard expired (expiredCount + 1))

/-- The thread goes to `pc`; what its step did to the counters is added to its record. -/
def State.record (t : State) (tid : Nat) (thread : Thread) (pc : Pc) : State :=
  { t with
    threads := s.threads.set tid ⟨pc, fun c => thread.moved c + (t.value c - s.value c)⟩ }

def next (setup : Setup) (s : State) : Label → Option State
  | .call tid c =>
    match s.threads[tid]? with
    | none => none
    | some thread =>
      if thread.pc.ready then
        some { s with threads := s.threads.set tid ⟨c.entry, fun _ => 0⟩ }
      else none
  | .step tid a =>
    match s.threads[tid]? with
    | none => none
    | some thread => (stepAt setup s a thread.pc).map fun t => s.record t.1 tid thread t.2

theorem next_cases {setup : Setup} {s t : State} {i : Label} (h : next setup s i = some t) :
    (∃ tid c thread, i = .call tid c ∧ s.threads[tid]? = some thread ∧ thread.pc.ready = true ∧
      t = { s with threads := s.threads.set tid ⟨c.entry, fun _ => 0⟩ }) ∨
    (∃ tid a thread u pc, i = .step tid a ∧ s.threads[tid]? = some thread ∧
      stepAt setup s a thread.pc = some (u, pc) ∧ t = s.record u tid thread pc) := by
  cases i with
  | call tid c =>
    simp only [next] at h
    split at h
    next => cases h
    next thread hget =>
      split at h
      next hready =>
        cases h
        exact .inl ⟨tid, c, thread, rfl, hget, hready, rfl⟩
      next => cases h
  | step tid a =>
    simp only [next] at h
    split at h
    next => cases h
    next thread hget =>
      rw [Option.map_eq_some_iff] at h
      obtain ⟨⟨u, pc⟩, hstep, rfl⟩ := h
      exact .inr ⟨tid, a, thread, u, pc, rfl, hget, hstep, rfl⟩

end Exposure

end OxideArb
