import OxideArb.Exposure.InMemory
import OxideArb.Lib.Checked
import OxideArb.Trade.Lifecycle

/-!
# Reservations after a restart

At a start the reservations of unfinished trades are made again from the trade rows, the oldest
ten thousand of them.
-/

namespace OxideArb.TradeIntegrity

def reservationLifecycle (trade : TradeInfo) (ttlSecs : Nat) : Bool × Nat :=
  match trade.state with
  | .submitted => (false, ttlSecs)
  | .intent => (true, 86400 * 365)
  | .fillObserved | .fillProcessing => (false, min (ttlSecs * 24) u64Max)
  | _ => (true, min (ttlSecs * 24) u64Max)

def rehydrateTradeReservation (config : ExposureReservationConfig) (ttlSecs : Nat) (now : DateTime)
    (r : InMemoryExposureReservation) (trade : TradeInfo) :
    Except ReservationError InMemoryExposureReservation :=
  let lifecycle := reservationLifecycle trade ttlSecs
  r.restoreSync config trade.reservationId trade.marketId trade.costUsd lifecycle.1
    (now + Duration.seconds lifecycle.2)

/-- `boot_rehydrate`, as far as the reservations go: the first one that cannot be made
ends the start. -/
def bootRehydrate (trades : TradeDb) (config : ExposureReservationConfig) (ttlSecs : Nat)
    (now : DateTime) : Except ReservationError InMemoryExposureReservation :=
  (TradeDb.findReservationObligations trades 10000).foldlM
    (rehydrateTradeReservation config ttlSecs now) .new

variable {config : ExposureReservationConfig} {r : InMemoryExposureReservation}

theorem reserved_foldlM {ttlSecs : Nat} {now : DateTime} {rows : List TradeInfo}
    {r' : InMemoryExposureReservation}
    (h : rows.foldlM (rehydrateTradeReservation config ttlSecs now) r = .ok r') (id : ReservationId) :
    r'.Reserved id ↔ r.Reserved id ∨ ∃ trade ∈ rows, trade.reservationId = id := by
  induction rows generalizing r with
  | nil =>
    cases h
    simp
  | cons trade rows ih =>
    rw [List.foldlM_cons] at h
    obtain ⟨r₁, hone, h⟩ := Checked.bind_eq_ok.mp h
    have hrest := ih h
    have hstored := InMemoryExposureReservation.restoreSync_reserved hone id
    rw [hrest, hstored, or_assoc, List.exists_mem_cons_iff, eq_comm]

theorem bootRehydrate_reserved {trades : TradeDb} {ttlSecs : Nat} {now : DateTime}
    (h : bootRehydrate trades config ttlSecs now = .ok r) (id : ReservationId) : r.Reserved id ↔
      ∃ trade ∈ TradeDb.findReservationObligations trades 10000, trade.reservationId = id := by
  have hall := reserved_foldlM h id
  have hnone : ¬ InMemoryExposureReservation.new.Reserved id := nofun
  rw [hall, or_iff_right hnone]

/-! ### Exactly the obligations -/

/-- The trades that must hold a reservation after a restart, all of them. -/
def obligations (trades : TradeDb) : List TradeInfo :=
  trades.rows.filter TradeDb.reservationObligationFilter

def held (r : InMemoryExposureReservation) :
    List (ReservationId × MarketId × Except ReservationError Nat) :=
  r.reservations.rows.map fun e => (e.id, e.marketId, .ok e.amountCents)

def owed (rows : List TradeInfo) :
    List (ReservationId × MarketId × Except ReservationError Nat) :=
  rows.map fun t => (t.reservationId, t.marketId, usdToCents t.costUsd)

/-- The admission of the trades one after another, as `try_reserve_sync` makes it. -/
def admitAll (config : ExposureReservationConfig) (now : DateTime) (ttl : Duration)
    (rows : List TradeInfo) (r : InMemoryExposureReservation) :
    Except ReservationError InMemoryExposureReservation :=
  rows.foldlM (fun r t => r.tryReserveSync config t.reservationId now t.marketId t.costUsd ttl) r

def SameCounters (r s : InMemoryExposureReservation) : Prop :=
  r.totalReservedCents = s.totalReservedCents ∧ r.perMarketCents = s.perMarketCents

variable {r' s : InMemoryExposureReservation} {ttlSecs : Nat} {now : DateTime} {ttl : Duration}
  {t : TradeInfo} {rows : List TradeInfo}

-- Only the counters decide an insertion.
theorem insertChecked_sim {id : ReservationId} {m : MarketId} {c : Nat} {x : DateTime}
    {pin : Bool} {p : String} (hs : SameCounters r s)
    (h : r.insertChecked config p ⟨id, m, c, x, pin⟩ = .ok r') (x' : DateTime) (pin' : Bool)
    (q : String) :
    ∃ s', s.insertChecked config q ⟨id, m, c, x', pin'⟩ = .ok s' ∧ SameCounters r' s' := by
  obtain ⟨ht, hp⟩ := hs
  simp only [InMemoryExposureReservation.insertChecked, Checked.ite_error_eq_ok, ht, hp] at h ⊢
  obtain ⟨h₁, h₂, h₃, h₄, h⟩ := h
  cases h
  exact ⟨_, ⟨h₁, h₂, h₃, h₄, rfl⟩, rfl, rfl⟩

theorem SameCounters.symm (h : SameCounters r s) : SameCounters s r := ⟨h.1.symm, h.2.symm⟩

theorem rehydrate_fresh (hn : r.reservations.get t.reservationId = none) :
    rehydrateTradeReservation config ttlSecs now r t = .ok r' ↔
      ∃ c, usdToCents t.costUsd = .ok c ∧ r.insertChecked config " on restore"
        { id := t.reservationId, marketId := t.marketId, amountCents := c
          expiresAt := now + Duration.seconds (reservationLifecycle t ttlSecs).2
          reconcilePinned := (reservationLifecycle t ttlSecs).1 } = .ok r' := by
  unfold rehydrateTradeReservation InMemoryExposureReservation.restoreSync
  cases h : usdToCents t.costUsd <;> simp [hn]

theorem tryReserveSync_eq_ok :
    r.tryReserveSync config t.reservationId now t.marketId t.costUsd ttl = .ok r' ↔
      ∃ c, usdToCents t.costUsd = .ok c ∧ r.insertChecked config ""
        { id := t.reservationId, marketId := t.marketId, amountCents := c
          expiresAt := now + ttl, reconcilePinned := false } = .ok r' := by
  unfold InMemoryExposureReservation.tryReserveSync
  cases h : usdToCents t.costUsd <;> simp

theorem held_insertChecked {e : ReservationEntry} {p : String}
    (hn : r.reservations.get e.id = none) (h : r.insertChecked config p e = .ok r') :
    held r' = held r ++ [(e.id, e.marketId, .ok e.amountCents)] := by
  simp only [InMemoryExposureReservation.insertChecked, Checked.ite_error_eq_ok] at h
  obtain ⟨-, -, -, -, h⟩ := h
  cases h
  simp [held, Table.put, r.reservations.without_of_get_eq_none hn]

def Fresh (r : InMemoryExposureReservation) (rows : List TradeInfo) : Prop :=
  ∀ t ∈ rows, r.reservations.get t.reservationId = none

theorem Fresh.next (hf : Fresh r (t :: rows))
    (hnd : ((t :: rows).map (·.reservationId)).Nodup)
    (h : rehydrateTradeReservation config ttlSecs now r t = .ok r') : Fresh r' rows := by
  intro u hu
  have hne : u.reservationId ≠ t.reservationId := by
    intro heq
    have hmem := List.mem_map_of_mem (f := (·.reservationId)) hu
    exact (List.nodup_cons.mp hnd).1 (by simpa [heq] using hmem)
  rw [InMemoryExposureReservation.restoreSync_get_ne h hne]
  exact hf u (List.mem_cons_of_mem _ hu)

theorem held_foldlM (hf : Fresh r rows) (hnd : (rows.map (·.reservationId)).Nodup)
    (h : rows.foldlM (rehydrateTradeReservation config ttlSecs now) r = .ok r') :
    held r' = held r ++ owed rows := by
  induction rows generalizing r with
  | nil =>
    cases h
    simp [owed]
  | cons t rows ih =>
    rw [List.foldlM_cons] at h
    obtain ⟨r₁, h₁, h⟩ := Checked.bind_eq_ok.mp h
    have hn := hf t List.mem_cons_self
    obtain ⟨c, hc, hi⟩ := (rehydrate_fresh hn).mp h₁
    have hrest := ih (hf.next hnd h₁) (List.nodup_cons.mp hnd).2 h
    rw [hrest, held_insertChecked hn hi]
    simp [owed, hc]

/-- New trades are restored exactly when they could be admitted. -/
theorem foldlM_ok_iff (hf : Fresh r rows) (hnd : (rows.map (·.reservationId)).Nodup)
    (hs : SameCounters r s) :
    (∃ r', rows.foldlM (rehydrateTradeReservation config ttlSecs now) r = .ok r') ↔
      ∃ s', admitAll config now ttl rows s = .ok s' := by
  induction rows generalizing r s with
  | nil => exact ⟨fun _ => ⟨s, rfl⟩, fun _ => ⟨r, rfl⟩⟩
  | cons t rows ih =>
    have hn := hf t List.mem_cons_self
    unfold admitAll at ih ⊢
    simp only [List.foldlM_cons, Checked.bind_eq_ok]
    constructor
    · rintro ⟨r', r₁, h₁, h⟩
      obtain ⟨c, hc, hi⟩ := (rehydrate_fresh hn).mp h₁
      obtain ⟨s₁, hi', hs₁⟩ := insertChecked_sim hs hi (now + ttl) false ""
      obtain ⟨s', h'⟩ := (ih (hf.next hnd h₁) (List.nodup_cons.mp hnd).2 hs₁).mp ⟨r', h⟩
      exact ⟨s', s₁, tryReserveSync_eq_ok.mpr ⟨c, hc, hi'⟩, h'⟩
    · rintro ⟨s', s₁, h₁, h⟩
      obtain ⟨c, hc, hi⟩ := tryReserveSync_eq_ok.mp h₁
      obtain ⟨r₁, hi', hs₁⟩ := insertChecked_sim hs.symm hi
        (now + Duration.seconds (reservationLifecycle t ttlSecs).2)
        (reservationLifecycle t ttlSecs).1 " on restore"
      have h₁' := (rehydrate_fresh hn).mpr ⟨c, hc, hi'⟩
      obtain ⟨r', h'⟩ := (ih (hf.next hnd h₁') (List.nodup_cons.mp hnd).2 hs₁.symm).mpr ⟨s', h⟩
      exact ⟨r', r₁, h₁', h'⟩

theorem foldlM_of_reserved (h : ∀ t ∈ rows, r.Reserved t.reservationId) :
    rows.foldlM (rehydrateTradeReservation config ttlSecs now) r = .ok r := by
  induction rows with
  | nil => rfl
  | cons t rows ih =>
    have hone : rehydrateTradeReservation config ttlSecs now r t = .ok r :=
      if_pos (h t List.mem_cons_self)
    rw [List.foldlM_cons, hone]
    exact ih fun u hu => h u (List.mem_cons_of_mem _ hu)

theorem length_held_le {trades : TradeDb} (h : bootRehydrate trades config ttlSecs now = .ok r) :
    (held r).length ≤ 10000 := by
  have hsub : r.reservations.rows.map (·.id) ⊆
      (TradeDb.findReservationObligations trades 10000).map (·.reservationId) := by
    intro id hid
    obtain ⟨e, he, rfl⟩ := List.mem_map.mp hid
    have hget := r.reservations.get_eq_some_iff.mpr ⟨he, rfl⟩
    have hres : r.Reserved e.id := Option.isSome_iff_exists.mpr ⟨e, hget⟩
    obtain ⟨t, ht, hid⟩ := (bootRehydrate_reserved h _).mp hres
    exact hid ▸ List.mem_map_of_mem ht
  have hle := (List.subperm_of_subset r.reservations.nodup hsub).length_le
  have htake := List.length_take_le 10000 (obligations trades)
  simp only [held, List.length_map] at hle ⊢
  exact hle.trans htake

theorem nodup_of_perm {trades : TradeDb} (h : (held r).Perm (owed (obligations trades))) :
    ((obligations trades).map (·.reservationId)).Nodup := by
  have hids := (h.map Prod.fst).nodup_iff
  simp only [held, owed, List.map_map, Function.comp_def] at hids
  exact hids.mp r.reservations.nodup

/-- A start makes exactly the reservations of the unfinished trades when there are at most ten
thousand of them, no two share a reservation, and the limits let all of them be admitted at once.
Running it again from what it made changes nothing. -/
theorem bootRehydrate_exact_iff (trades : TradeDb) (config : ExposureReservationConfig)
    (ttlSecs : Nat) (now : DateTime) (ttl : Duration) :
    ((∃ r, bootRehydrate trades config ttlSecs now = .ok r ∧
        (held r).Perm (owed (obligations trades))) ↔
      (obligations trades).length ≤ 10000 ∧
        ((obligations trades).map (·.reservationId)).Nodup ∧
        ∃ s, admitAll config now ttl (obligations trades) .new = .ok s) ∧
    ∀ r later, bootRehydrate trades config ttlSecs now = .ok r →
      (TradeDb.findReservationObligations trades 10000).foldlM
        (rehydrateTradeReservation config ttlSecs later) r = .ok r := by
  have hfresh : Fresh .new (obligations trades) := fun _ _ => Table.get_empty _
  have hall (hlen : (obligations trades).length ≤ 10000) :
      TradeDb.findReservationObligations trades 10000 = obligations trades :=
    List.take_of_length_le hlen
  refine ⟨⟨?_, ?_⟩, ?_⟩
  · rintro ⟨r, hboot, hperm⟩
    have hlen : (obligations trades).length ≤ 10000 := by
      have hle := length_held_le hboot
      rw [hperm.length_eq] at hle
      simpa [owed] using hle
    have hnd := nodup_of_perm hperm
    unfold bootRehydrate at hboot
    rw [hall hlen] at hboot
    exact ⟨hlen, hnd, (foldlM_ok_iff hfresh hnd ⟨rfl, rfl⟩).mp ⟨r, hboot⟩⟩
  · rintro ⟨hlen, hnd, hadmit⟩
    obtain ⟨r, hr⟩ : ∃ r, (obligations trades).foldlM
        (rehydrateTradeReservation config ttlSecs now) .new = .ok r :=
      (foldlM_ok_iff hfresh hnd ⟨rfl, rfl⟩).mpr hadmit
    refine ⟨r, ?_, ?_⟩
    · unfold bootRehydrate
      rw [hall hlen]
      exact hr
    · rw [held_foldlM hfresh hnd hr]
      exact List.Perm.refl _
  · intro r later hboot
    refine foldlM_of_reserved fun t ht => ?_
    exact (bootRehydrate_reserved hboot _).mpr ⟨t, ht, rfl⟩

/-- A filled trade whose reservation of the whole limit was collected before its fill was
processed, and the trade that was admitted in its place. -/
def collectedFill : TradeDb :=
  let first := { sampleNewTrade.toRow with costUsd := 100, state := .fillObserved }
  let second := { first with tradeId := ⟨2⟩, reservationId := ⟨"s"⟩, state := .submitted }
  ⟨[first, second], by decide⟩

theorem collected_fill_fails_boot :
    let config : ExposureReservationConfig := ⟨10000, 10000⟩
    let before := do
      let r ← InMemoryExposureReservation.new.tryReserveSync config ⟨"r"⟩ 0 ⟨"m"⟩ 100 60
      (r.gcExpired 60).tryReserveSync config ⟨"s"⟩ 60 ⟨"m"⟩ 100 60
    before.isOk = true ∧ (bootRehydrate collectedFill config 60 70).isOk = false := by
  decide +kernel

end OxideArb.TradeIntegrity
