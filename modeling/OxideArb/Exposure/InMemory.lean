import OxideArb.Lib.Table
import OxideArb.Types.Basic

/-!
# In-memory exposure reservations

A reservation is an entry of a map; its amount is also counted in a total and in the counter of
its market.
-/

namespace OxideArb

structure ReservationEntry where
  id : ReservationId
  marketId : MarketId
  amountCents : Nat
  expiresAt : DateTime
  reconcilePinned : Bool
deriving DecidableEq, Repr

inductive ReservationError
  | exceedsLimit (currentCents requestedCents maxCents : Nat)
  | notFound (id : ReservationId)
  | backend (message : String)
deriving DecidableEq, Repr

/-- `fetch_sub` on an `AtomicU64` wraps around. -/
def fetchSub (a b : Nat) : Nat := (a + (u64Max + 1) - b) % (u64Max + 1)

structure ExposureReservationConfig where
  maxTotalExposureCents : Nat
  maxPerMarketCents : Nat
deriving DecidableEq, Repr

def usdToCents (amount : Usd) : Except ReservationError Nat :=
  let cents := ⌊amount * 100⌋
  if cents < 0 then .error (.backend "amount overflow or negative")
  else if cents.toNat ≤ u64Max then .ok cents.toNat
  else .error (.backend "amount overflow or negative")

theorem usdToCents_eq_ok {amount : Usd} {cents : Nat} :
    usdToCents amount = .ok cents ↔ ⌊amount * 100⌋ = (cents : Int) ∧ cents ≤ u64Max := by
  unfold usdToCents
  dsimp only
  split
  next hneg =>
    refine ⟨nofun, fun h => ?_⟩
    omega
  next hpos =>
    split
    next hle =>
      rw [Except.ok.injEq]
      omega
    next hover =>
      refine ⟨nofun, fun h => ?_⟩
      omega

structure InMemoryExposureReservation where
  reservations : Table ReservationEntry.id
  totalReservedCents : Nat
  perMarketCents : MarketId → Option Nat

namespace InMemoryExposureReservation

def new : InMemoryExposureReservation where
  reservations := .empty
  totalReservedCents := 0
  perMarketCents := fun _ => none

/-- What `try_reserve_sync` and `restore_sync` share: the amount is counted against both
limits and the entry stored. The overflow messages end in the name of the path. A refusal
by the market's limit undoes both additions. -/
def insertChecked (r : InMemoryExposureReservation) (config : ExposureReservationConfig) (path : String)
    (entry : ReservationEntry) : Except ReservationError InMemoryExposureReservation :=
  let total := r.totalReservedCents
  let market := (r.perMarketCents entry.marketId).getD 0
  let cents := entry.amountCents
  if u64Max < total + cents then .error (.backend ("reservation total overflow" ++ path))
  else if config.maxTotalExposureCents < total + cents then
    .error (.exceedsLimit total cents config.maxTotalExposureCents)
  else if u64Max < market + cents then
    .error (.backend ("reservation market total overflow" ++ path))
  else if config.maxPerMarketCents < market + cents then
    .error (.exceedsLimit market cents config.maxPerMarketCents)
  else
    .ok
      { reservations := r.reservations.put entry
        totalReservedCents := total + cents
        perMarketCents := fun m =>
          if m = entry.marketId then some (market + cents) else r.perMarketCents m }

/-- `try_reserve_sync`, given the id it draws and the time of the insert. -/
def tryReserveSync (r : InMemoryExposureReservation) (config : ExposureReservationConfig)
    (id : ReservationId) (now : DateTime) (marketId : MarketId) (amount : Usd) (ttl : Duration) :
    Except ReservationError InMemoryExposureReservation :=
  match usdToCents amount with
  | .error e => .error e
  | .ok amountCents =>
    r.insertChecked config ""
      { id, marketId, amountCents, expiresAt := now + ttl, reconcilePinned := false }

def restoreSync (r : InMemoryExposureReservation) (config : ExposureReservationConfig)
    (id : ReservationId) (marketId : MarketId) (amount : Usd) (reconcilePinned : Bool)
    (expiresAt : DateTime) : Except ReservationError InMemoryExposureReservation :=
  if (r.reservations.get id).isSome then .ok r
  else
    match usdToCents amount with
    | .error e => .error e
    | .ok amountCents =>
      r.insertChecked config " on restore" { id, marketId, amountCents, expiresAt, reconcilePinned }

def pinForReconciliationSync (r : InMemoryExposureReservation) (id : ReservationId) :
    Except ReservationError InMemoryExposureReservation :=
  match r.reservations.get id with
  | none => .error (.notFound id)
  | some entry =>
    .ok { r with reservations := r.reservations.put { entry with reconcilePinned := true } }

/-- The entries whose time is over and that nothing pins. -/
def isExpired (now : DateTime) (entry : ReservationEntry) : Bool :=
  entry.expiresAt ≤ now && !entry.reconcilePinned

def gcExpired (r : InMemoryExposureReservation) (now : DateTime) : InMemoryExposureReservation :=
  let expired := r.reservations.rows.filter (isExpired now)
  { reservations := r.reservations.filter fun entry => !isExpired now entry
    totalReservedCents :=
      expired.foldl (fun total entry => fetchSub total entry.amountCents) r.totalReservedCents
    perMarketCents := fun m => (r.perMarketCents m).map fun total =>
      (expired.filter fun entry => entry.marketId = m).foldl
        (fun total entry => fetchSub total entry.amountCents) total }

def removeReservationEntry (r : InMemoryExposureReservation) (id : ReservationId) :
    Except ReservationError (ReservationEntry × InMemoryExposureReservation) :=
  match r.reservations.get id with
  | none => .error (.notFound id)
  | some entry =>
    .ok (entry,
      { reservations := r.reservations.filter (·.id ≠ id)
        totalReservedCents := fetchSub r.totalReservedCents entry.amountCents
        perMarketCents := fun m =>
          if m = entry.marketId then (r.perMarketCents m).map (fetchSub · entry.amountCents)
          else r.perMarketCents m })

def releaseSync (r : InMemoryExposureReservation) (id : ReservationId) :
    Except ReservationError InMemoryExposureReservation :=
  (r.removeReservationEntry id).map Prod.snd

/-- `resize_sync`: a reservation only shrinks. -/
def resizeSync (r : InMemoryExposureReservation) (id : ReservationId) (newAmount : Usd) :
    Except ReservationError InMemoryExposureReservation :=
  match usdToCents newAmount with
  | .error e => .error e
  | .ok newCents =>
    match r.reservations.get id with
    | none => .error (.notFound id)
    | some entry =>
      if newCents = entry.amountCents then .ok r
      else if entry.amountCents < newCents then
        .error (.backend "resize cannot increase reservation amount")
      else
        let delta := entry.amountCents - newCents
        .ok
          { reservations := r.reservations.put { entry with amountCents := newCents }
            totalReservedCents := fetchSub r.totalReservedCents delta
            perMarketCents := fun m =>
              if m = entry.marketId then (r.perMarketCents m).map (fetchSub · delta)
              else r.perMarketCents m }

/-! ### Which reservations are there -/

def Reserved (r : InMemoryExposureReservation) (id : ReservationId) : Prop :=
  (r.reservations.get id).isSome = true

instance (r : InMemoryExposureReservation) (id : ReservationId) : Decidable (r.Reserved id) :=
  inferInstanceAs (Decidable (_ = true))

section Reserved

variable {r r' : InMemoryExposureReservation} {config : ExposureReservationConfig}
  {id : ReservationId}

variable {entry : ReservationEntry} {marketId : MarketId} {amount : Usd} {expiresAt : DateTime}

theorem insertChecked_get {path : String} (h : r.insertChecked config path entry = .ok r')
    (k : ReservationId) :
    r'.reservations.get k = if k = entry.id then some entry else r.reservations.get k := by
  unfold insertChecked at h
  dsimp only at h
  split at h
  · cases h
  · split at h
    · cases h
    · split at h
      · cases h
      · split at h
        · cases h
        · cases h
          exact r.reservations.get_put entry k

theorem tryReserveSync_get {now : DateTime} {ttl : Duration}
    (h : r.tryReserveSync config id now marketId amount ttl = .ok r') :
    ∃ entry : ReservationEntry, entry.id = id ∧ usdToCents amount = .ok entry.amountCents ∧
      ∀ k, r'.reservations.get k = if k = id then some entry else r.reservations.get k := by
  unfold tryReserveSync at h
  split at h
  · cases h
  next hcents => exact ⟨_, rfl, hcents, insertChecked_get h⟩

theorem restoreSync_get_ne {pinned : Bool}
    (h : r.restoreSync config id marketId amount pinned expiresAt = .ok r') {k : ReservationId}
    (hk : k ≠ id) : r'.reservations.get k = r.reservations.get k := by
  unfold restoreSync at h
  split at h
  · cases h
    rfl
  · split at h
    · cases h
    · rw [insertChecked_get h, if_neg hk]

theorem restoreSync_reserved {pinned : Bool}
    (h : r.restoreSync config id marketId amount pinned expiresAt = .ok r') (k : ReservationId) :
    r'.Reserved k ↔ r.Reserved k ∨ k = id := by
  unfold restoreSync at h
  split at h
  next hthere =>
    cases h
    refine ⟨.inl, ?_⟩
    rintro (hk | rfl)
    · exact hk
    · exact hthere
  next =>
    split at h
    · cases h
    · unfold Reserved
      rw [insertChecked_get h]
      dsimp only
      split
      next hk => simp [hk]
      next hk => simp [hk]

theorem pinForReconciliationSync_get (h : r.pinForReconciliationSync id = .ok r') :
    ∃ entry, r.reservations.get id = some entry ∧ ∀ k, r'.reservations.get k =
      if k = id then some { entry with reconcilePinned := true } else r.reservations.get k := by
  unfold pinForReconciliationSync at h
  split at h
  · cases h
  next entry hentry =>
    cases h
    have hid : entry.id = id := (r.reservations.get_eq_some_iff.mp hentry).2
    refine ⟨entry, hentry, fun k => ?_⟩
    rw [← hid]
    exact r.reservations.get_put _ k

theorem pinForReconciliationSync_reserved (h : r.pinForReconciliationSync id = .ok r')
    (k : ReservationId) : r'.Reserved k ↔ r.Reserved k := by
  obtain ⟨entry, hentry, hget⟩ := pinForReconciliationSync_get h
  unfold Reserved
  rw [hget]
  split
  next hk => simp [hk, hentry]
  next => rfl

theorem releaseSync_get (h : r.releaseSync id = .ok r') (k : ReservationId) :
    r'.reservations.get k = if k = id then none else r.reservations.get k := by
  unfold releaseSync removeReservationEntry at h
  cases hget : r.reservations.get id with
  | none =>
    rw [hget] at h
    cases h
  | some entry =>
    rw [hget] at h
    cases h
    change (r.reservations.filter _).get k = _
    rw [Table.get_filter]
    cases hk : r.reservations.get k with
    | none => simp
    | some e =>
      have hid : e.id = k := (r.reservations.get_eq_some_iff.mp hk).2
      by_cases hkid : k = id <;> simp [Option.filter, hid, hkid]

theorem resizeSync_get {newAmount : Usd} (h : r.resizeSync id newAmount = .ok r') :
    ∃ entry newCents, r.reservations.get id = some entry ∧ usdToCents newAmount = .ok newCents ∧
      newCents ≤ entry.amountCents ∧
      ∀ k, r'.reservations.get k =
        if k = id then some { entry with amountCents := newCents } else r.reservations.get k := by
  unfold resizeSync at h
  split at h
  · cases h
  next newCents hcents =>
    split at h
    · cases h
    next entry hget =>
      have hid : entry.id = id := (r.reservations.get_eq_some_iff.mp hget).2
      refine ⟨entry, newCents, hget, hcents, ?_⟩
      split at h
      next hsame =>
        cases h
        refine ⟨hsame.le, fun k => ?_⟩
        rw [hsame]
        split
        next hk => rw [hk, hget]
        next => rfl
      next hother =>
        split at h
        · cases h
        next hle =>
          cases h
          refine ⟨Nat.le_of_not_lt hle, fun k => ?_⟩
          rw [← hid]
          exact r.reservations.get_put _ k

theorem resizeSync_ok_iff {newAmount : Usd} (hget : r.reservations.get id = some entry) :
    (∃ r', r.resizeSync id newAmount = .ok r') ↔
      ∃ newCents, usdToCents newAmount = .ok newCents ∧ newCents ≤ entry.amountCents := by
  constructor
  · rintro ⟨r', h⟩
    obtain ⟨entry', newCents, hget', hcents, hle, -⟩ := resizeSync_get h
    obtain rfl : entry = entry' := Option.some.inj (hget.symm.trans hget')
    exact ⟨newCents, hcents, hle⟩
  · rintro ⟨newCents, hcents, hle⟩
    unfold resizeSync
    simp only [hcents, hget]
    split
    · exact ⟨_, rfl⟩
    · rw [if_neg (Nat.not_lt.mpr hle)]
      exact ⟨_, rfl⟩

theorem gcExpired_get (now : DateTime) (k : ReservationId) :
    (r.gcExpired now).reservations.get k =
      (r.reservations.get k).filter fun entry => !isExpired now entry :=
  r.reservations.get_filter _ k

end Reserved

end InMemoryExposureReservation

end OxideArb
