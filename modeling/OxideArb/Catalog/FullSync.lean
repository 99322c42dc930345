import Mathlib.Data.Int.ConditionallyCompleteOrder
import OxideArb.Catalog.Gamma

/-!
# How often the whole catalog is read

A full sync is due when the last sync, of either kind, is more than the interval back. Since
incremental syncs store the time as well, a call is full exactly if it is the first or comes more
than the interval after the end of the call before it (`SyncRun.isFull_iff`).
-/

namespace OxideArb.Catalog

def stateAt (fullSyncIntervalSecs : Nat) (calls : Nat → SyncCall) : Nat → GammaService
  | 0 => .new fullSyncIntervalSecs
  | n + 1 => ((stateAt fullSyncIntervalSecs calls n).syncInner (calls n)).2

/-- An infinite sequence of successful calls, one after the other, made at most `d` apart. -/
structure SyncRun where
  fullSyncIntervalSecs : Nat
  d : Duration
  calls : Nat → SyncCall
  inOrder : ∀ n, (calls n).startedAt ≤ (calls n).finishedAt ∧
    (calls n).finishedAt ≤ (calls (n + 1)).startedAt
  apart : ∀ n, (calls (n + 1)).startedAt - (calls n).startedAt ≤ d
  succeeds : ∀ n, ((stateAt fullSyncIntervalSecs calls n).syncInner (calls n)).1 = .ok ()

def SyncCall.Names (call : SyncCall) (id : MarketId) : Prop :=
  (∃ batch, call.fullSync = .ok batch ∧ id ∈ batch.registryMarkets.map (·.marketId)) ∨
  (∃ since batch, call.incrementalSync since = .ok batch ∧
    id ∈ batch.registryMarkets.map (·.marketId)) ∨
  ∃ wanted market, call.getMarket wanted = .ok market ∧ market.marketId = id

theorem GammaService.syncInner_ok {s : GammaService} {call : SyncCall}
    (h : (s.syncInner call).1 = .ok ()) :
    ∃ registry, (s.fetch call).1 = .ok registry ∧
      (s.syncInner call).2 = { s with registry, lastSyncAt := some call.finishedAt } := by
  cases hfetch : (s.fetch call).1 with
  | error e =>
    rw [syncInner_of_error hfetch] at h
    cases h
  | ok registry => exact ⟨registry, rfl, congrArg Prod.snd (syncInner_of_fetch hfetch)⟩

theorem GammaService.syncInner_inactive {s : GammaService} (hs : s.registry.Sound)
    {call : SyncCall} (hok : (s.syncInner call).1 = .ok ()) {id : MarketId}
    (hnot : ¬ call.Names id)
    (h : s.needsFull call.startedAt = true ∨ id ∉ s.registry.activeMarkets) :
    id ∉ (s.syncInner call).2.registry.activeMarkets := by
  obtain ⟨registry, hfetch, hrun⟩ := syncInner_ok hok
  rw [hrun]
  unfold fetch at hfetch
  split at hfetch
  · obtain ⟨batch, hbatch, hactive⟩ := fullSync_active hs hfetch
    exact fun hid => hnot (.inl ⟨batch, hbatch, hactive id hid⟩)
  next hincremental =>
    have hout : id ∉ s.registry.activeMarkets := h.resolve_left hincremental
    split at hfetch
    next since _ =>
      obtain ⟨batch, entries, hbatch, rfl, hentries⟩ := incrementalSync_ok hfetch
      refine fun hid => hout ((Registry.active_registerMarkets_of_not_mem ?_).mp hid)
      rintro entry hentry rfl
      obtain ⟨market, hmarket, hembedded | ⟨wanted, -, hget⟩⟩ := hentries entry hentry
      · refine hnot (.inr (.inl ⟨since, batch, hbatch, ?_⟩))
        exact hmarket ▸ List.mem_map_of_mem hembedded
      · exact hnot (.inr (.inr ⟨wanted, market, hget, hmarket⟩))
    · cases hfetch
      exact hout

namespace SyncRun

variable (run : SyncRun)

variable (n : Nat)

def state : GammaService := stateAt run.fullSyncIntervalSecs run.calls n

def startedAt : DateTime := (run.calls n).startedAt

def finishedAt : DateTime := (run.calls n).finishedAt

def intervalSecs : Int := min (max run.fullSyncIntervalSecs 60) i64Max

def IsFull : Prop := (run.state n).needsFull (run.startedAt n) = true

/-- The call is the first, or comes more than the interval after the end of the one before. -/
def LongPause : Nat → Prop
  | 0 => True
  | n + 1 => run.intervalSecs < Duration.numSeconds (run.startedAt (n + 1) - run.finishedAt n)

/-- Each full sync is followed by another, which starts no later than the interval and `d`
after its end. -/
def Recurs : Prop :=
  ∀ i, run.IsFull i → ∃ j, i < j ∧ run.IsFull j ∧
    run.startedAt j ≤ run.finishedAt i + Duration.seconds run.intervalSecs + run.d

def Vanished (id : MarketId) (k : Nat) : Prop := ∀ n, k ≤ n → ¬ (run.calls n).Names id

/-! ## Which calls are full -/

theorem state_succ : (run.state (n + 1)).lastSyncAt = some (run.finishedAt n) ∧
      (run.state (n + 1)).fullSyncIntervalSecs = (run.state n).fullSyncIntervalSecs := by
  obtain ⟨registry, -, hrun⟩ := GammaService.syncInner_ok (run.succeeds n)
  have hstate : run.state (n + 1) = ((run.state n).syncInner (run.calls n)).2 := rfl
  rw [hstate]
  unfold state
  rw [hrun]
  exact ⟨rfl, rfl⟩

theorem state_intervalSecs : (run.state n).intervalSecs = run.intervalSecs := by
  have hkept : (run.state n).fullSyncIntervalSecs = max run.fullSyncIntervalSecs 60 := by
    induction n with
    | zero => rfl
    | succ n ih => exact (run.state_succ n).2.trans ih
  unfold GammaService.intervalSecs intervalSecs
  rw [hkept]
  simp

theorem isFull_iff : run.IsFull n ↔ run.LongPause n := by
  cases n with
  | zero => exact iff_of_true rfl trivial
  | succ n =>
    unfold IsFull GammaService.needsFull LongPause
    rw [(run.state_succ n).1, run.state_intervalSecs]
    exact decide_eq_true_iff

theorem isFull_iff_zero (hd : run.d < Duration.seconds (run.intervalSecs + 1)) (n : Nat) :
    run.IsFull n ↔ n = 0 := by
  rw [isFull_iff]
  cases n with
  | zero => exact iff_of_true trivial rfl
  | succ n =>
    refine iff_of_false (fun hlong => ?_) (Nat.succ_ne_zero n)
    have hpause : run.startedAt (n + 1) - run.finishedAt n ≤ run.d :=
      (Int.sub_le_sub_left (run.inOrder n).1 _).trans (run.apart n)
    have hnonneg : 0 ≤ run.startedAt (n + 1) - run.finishedAt n :=
      Int.sub_nonneg_of_le (run.inOrder n).2
    have hshort : Duration.numSeconds (run.startedAt (n + 1) - run.finishedAt n) <
        run.intervalSecs + 1 := by
      unfold Duration.numSeconds
      rw [Int.tdiv_eq_ediv_of_nonneg hnonneg]
      exact Int.ediv_lt_of_lt_mul (by decide) (hpause.trans_lt hd)
    exact absurd hlong (Int.not_lt.mpr (Int.lt_add_one_iff.mp hshort))

/-! ## Markets that vanish -/

theorem state_sound : (run.state n).registry.Sound := by
  induction n with
  | zero => exact Registry.sound_new
  | succ n ih => exact GammaService.syncInner_sound ih (run.calls n)

theorem startedAt_mono : Monotone run.startedAt :=
  monotone_nat_of_le_succ fun n => (run.inOrder n).1.trans (run.inOrder n).2

theorem d_nonneg : 0 ≤ run.d :=
  (Int.sub_nonneg_of_le (run.startedAt_mono (Nat.le_succ 0))).trans (run.apart 0)

theorem interval_nonneg : 0 ≤ Duration.seconds run.intervalSecs :=
  mul_nonneg (le_min (by positivity) (by decide)) (by decide)

theorem exists_last_full (k : Nat) :
    ∃ i ≤ k, run.IsFull i ∧ ∀ j, i < j → j ≤ k → ¬ run.IsFull j := by
  induction k with
  | zero => exact ⟨0, le_rfl, (run.isFull_iff 0).mpr trivial, fun j hj hle => by omega⟩
  | succ k ih =>
    by_cases hfull : run.IsFull (k + 1)
    · exact ⟨k + 1, le_rfl, hfull, fun j hj hle => by omega⟩
    · obtain ⟨i, hik, hi, hlast⟩ := ih
      refine ⟨i, hik.trans (Nat.le_succ k), hi, fun j hj hle => ?_⟩
      rcases Nat.lt_or_eq_of_le hle with hlt | rfl
      · exact hlast j hj (Nat.le_of_lt_succ hlt)
      · exact hfull

theorem inactive_after {id : MarketId} {j : Nat} (hvanished : run.Vanished id j)
    (hfull : run.IsFull j) {n : Nat} (hn : j < n) :
    id ∉ (run.state n).registry.activeMarkets := by
  induction n, hn using Nat.le_induction with
  | base =>
    exact GammaService.syncInner_inactive (run.state_sound j) (run.succeeds j)
      (hvanished j le_rfl) (.inl hfull)
  | succ n hn ih =>
    exact GammaService.syncInner_inactive (run.state_sound n) (run.succeeds n)
      (hvanished n (Nat.le_of_succ_le hn)) (.inr ih)

variable {run}

/-- A market that vanishes is inactive from a full sync on that starts no later than the
interval and `d` after the first call that misses it. -/
theorem Recurs.deactivates (h : run.Recurs) {id : MarketId} {k : Nat}
    (hvanished : run.Vanished id k) :
    ∃ j, k ≤ j ∧
      run.startedAt j ≤ run.startedAt k + Duration.seconds run.intervalSecs + run.d ∧
      ∀ n, j < n → id ∉ (run.state n).registry.activeMarkets := by
  obtain ⟨i, hik, hi, hlast⟩ := run.exists_last_full k
  obtain ⟨j, hij, hj, htime⟩ := h i hi
  have hkj : k < j := Nat.lt_of_not_le fun hjk => hlast j hij hjk hj
  rcases Nat.lt_or_eq_of_le hik with hlt | rfl
  · refine ⟨j, hkj.le, htime.trans ?_, fun n hn =>
      run.inactive_after (fun n hn => hvanished n (hkj.le.trans hn)) hj hn⟩
    have hbefore : run.finishedAt i ≤ run.startedAt k :=
      (run.inOrder i).2.trans (run.startedAt_mono hlt)
    gcongr
  · refine ⟨i, le_rfl, ?_, fun n hn => run.inactive_after hvanished hi hn⟩
    rw [add_assoc]
    exact le_add_of_nonneg_right (add_nonneg run.interval_nonneg run.d_nonneg)

end SyncRun

/-- Full syncs come back within the interval and `d` exactly if pauses longer than the
interval do. Then vanished markets are deactivated in that time. Calls made within the
interval after one another make no full sync after the first. -/
theorem full_syncs_recur_iff (run : SyncRun) :
    (run.Recurs ↔
      ∀ i, run.LongPause i → ∃ j, i < j ∧ run.LongPause j ∧
        run.startedAt j ≤ run.finishedAt i + Duration.seconds run.intervalSecs + run.d) ∧
    (run.Recurs → ∀ id k, run.Vanished id k →
      ∃ j, k ≤ j ∧
        run.startedAt j ≤ run.startedAt k + Duration.seconds run.intervalSecs + run.d ∧
        ∀ n, j < n → id ∉ (run.state n).registry.activeMarkets) ∧
    (run.d < Duration.seconds (run.intervalSecs + 1) → ∀ n, run.IsFull n ↔ n = 0) := by
  refine ⟨?_, fun h _ _ hvanished => h.deactivates hvanished, run.isFull_iff_zero⟩
  unfold SyncRun.Recurs
  simp only [run.isFull_iff]

/-! ## A sync every minute -/

def listed (raw : String) : MarketRegistryInfo where
  marketId := ⟨raw⟩
  status := .active
  tokens := [{ tokenId := ⟨raw ++ "-yes"⟩, outcome := "Yes" },
    { tokenId := ⟨raw ++ "-no"⟩, outcome := "No" }]
  endDate := none

/-- Calls of one second, one minute apart. The first finds two markets, the catalog has one
of them after that, and nothing is updated. -/
def minuteCalls (n : Nat) : SyncCall where
  startedAt := Duration.seconds (60 * n)
  servedAt := Duration.seconds (60 * n)
  appliedAt := Duration.seconds (60 * n + 1)
  finishedAt := Duration.seconds (60 * n + 1)
  fullSync := .ok
    { registryEvents := []
      registryMarkets := if n = 0 then [listed "kept", listed "gone"] else [listed "kept"] }
  incrementalSync := fun _ => .ok { registryEvents := [], registryMarkets := [] }
  getMarket := fun _ => .error "not asked"

theorem minuteCalls_pause (n : Nat) :
    (minuteCalls (n + 1)).startedAt - (minuteCalls n).finishedAt = Duration.seconds 59 := by
  simp only [minuteCalls, Duration.seconds]
  push_cast
  ring

def syncedAt (registry : Registry) (t : DateTime) : GammaService where
  registry := registry
  fullSyncIntervalSecs := 300
  lastSyncAt := some t

theorem syncedAt_syncInner (registry : Registry) (n : Nat) :
    (syncedAt registry (minuteCalls n).finishedAt).syncInner (minuteCalls (n + 1)) =
      (.ok (), syncedAt registry (minuteCalls (n + 1)).finishedAt) := by
  have hdue : (syncedAt registry (minuteCalls n).finishedAt).needsFull
      (minuteCalls (n + 1)).startedAt = false := by
    simp only [GammaService.needsFull, GammaService.intervalSecs, syncedAt, minuteCalls_pause]
    decide +kernel
  have hfetch : ((syncedAt registry (minuteCalls n).finishedAt).fetch (minuteCalls (n + 1))).1 =
      .ok registry := by
    simp only [GammaService.fetch, hdue, Bool.false_eq_true, if_false]
    simp [syncedAt, incrementalSync, minuteCalls]
  exact GammaService.syncInner_of_fetch hfetch

theorem minuteCalls_first :
    ((stateAt 300 minuteCalls 0).syncInner (minuteCalls 0)).1 = .ok () := by
  decide +kernel

theorem minuteCalls_state (n : Nat) :
    stateAt 300 minuteCalls (n + 1) =
      syncedAt (stateAt 300 minuteCalls 1).registry (minuteCalls n).finishedAt := by
  induction n with
  | zero =>
    obtain ⟨registry, -, hrun⟩ := GammaService.syncInner_ok minuteCalls_first
    have hstate : stateAt 300 minuteCalls 1 =
        { stateAt 300 minuteCalls 0 with
          registry, lastSyncAt := some (minuteCalls 0).finishedAt } := hrun
    rw [hstate]
    rfl
  | succ n ih =>
    have hstep : stateAt 300 minuteCalls (n + 2) =
        ((stateAt 300 minuteCalls (n + 1)).syncInner (minuteCalls (n + 1))).2 := rfl
    rw [hstep, ih, syncedAt_syncInner]

def minuteRun : SyncRun where
  fullSyncIntervalSecs := 300
  d := Duration.seconds 60
  calls := minuteCalls
  inOrder n := by
    simp only [minuteCalls, Duration.seconds]
    push_cast
    constructor <;> linarith
  apart n := by
    simp only [minuteCalls, Duration.seconds]
    push_cast
    linarith
  succeeds n := by
    cases n with
    | zero => exact minuteCalls_first
    | succ n => rw [minuteCalls_state, syncedAt_syncInner]

/-- The catalog is read in full once, and the market that is gone from the second call on
stays active. -/
theorem gone_market_stays_active :
    ¬ minuteRun.Recurs ∧ minuteRun.Vanished ⟨"gone"⟩ 1 ∧
      ∀ n, ⟨"gone"⟩ ∈ (minuteRun.state (n + 1)).registry.activeMarkets := by
  have honce : ∀ n, minuteRun.IsFull n ↔ n = 0 := minuteRun.isFull_iff_zero (by decide +kernel)
  refine ⟨fun hrecurs => ?_, fun n hn => ?_, fun n => ?_⟩
  · obtain ⟨j, hj, hfull, -⟩ := hrecurs 0 ((honce 0).mpr rfl)
    exact hj.ne' ((honce j).mp hfull)
  · have hlater : n ≠ 0 := Nat.one_le_iff_ne_zero.mp hn
    rintro (⟨batch, hbatch, hid⟩ | ⟨since, batch, hbatch, hid⟩ | ⟨wanted, market, hget, -⟩)
    · simp only [minuteRun, minuteCalls, hlater, if_false, Except.ok.injEq] at hbatch
      subst hbatch
      revert hid
      decide
    · simp only [minuteRun, minuteCalls, Except.ok.injEq] at hbatch
      subst hbatch
      cases hid
    · cases hget
  · have hstate : minuteRun.state (n + 1) =
        syncedAt (stateAt 300 minuteCalls 1).registry (minuteCalls n).finishedAt :=
      minuteCalls_state n
    rw [hstate]
    change ⟨"gone"⟩ ∈ (stateAt 300 minuteCalls 1).registry.activeMarkets
    decide +kernel

end OxideArb.Catalog
