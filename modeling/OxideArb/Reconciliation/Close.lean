import OxideArb.Execution.Fsm
import OxideArb.Exposure.InMemory
import OxideArb.Reconciliation.Evidence
import OxideArb.Reconciliation.Ledger
import OxideArb.Risk.Recovery
import OxideArb.Settlement.PositionRepository
import OxideArb.Trade.Integrity
import OxideArb.Trade.Lifecycle

/-!
# Closing a trade that cannot be resolved

`close` reads the row, gives the reservation back and then moves the row to its end with a
conditional update. When the update fails, or the row has been resolved meanwhile, the capital
is gone although the trade is not closed.
-/

namespace OxideArb

namespace PostTrade

open Risk (Fault)

/-- A call on the database: its answer to the caller and what it leaves. A lost reply is
an error to the caller although the call took effect. -/
def ask {σ α : Type} (fault : Fault) (f : σ → α × σ) (s : σ) : Except String α × σ :=
  match fault with
  | .none => (.ok (f s).1, (f s).2)
  | .failed error => (.error error, s)
  | .lost error => (.error error, (f s).2)

end PostTrade

namespace Reconciliation

open Transition

inductive CloseError
  | storage (error : String)
  | internal (error : String)
  | reservation (error : ReservationError)
deriving DecidableEq, Repr

/-- What a close meets: an error of the query, the calls of other tasks before it releases the
reservation and before it updates the row, and what befalls the update. -/
structure CloseEnv where
  findError : Option String
  afterFind : List LedgerEvent
  afterRelease : List LedgerEvent
  fault : Risk.Fault
  now : DateTime

def CloseEnv.calm (now : DateTime) : CloseEnv :=
  { findError := none, afterFind := [], afterRelease := [], fault := .none, now }

structure Closed where
  result : Except CloseError Bool
  emergency : Option (EmergencyClass × String)
  ledger : Ledger

def closeOrphaned (env : CloseEnv) (id : TradeId) (note operator : String)
    (reservationId : ReservationId) (s : Ledger) : Closed :=
  match s.held.releaseSync reservationId with
  | .error e =>
    ⟨.error (.reservation e),
      some (.reservationFault, "unresolvable close reservation release failed"), s⟩
  | .ok held =>
    let s := ({ s with held } : Ledger).run env.afterRelease
    let r := PostTrade.ask env.fault
      (TradeDb.closeUnresolvableTerminal · id note operator env.now) s.db
    ⟨r.1.mapError .storage, none, { s with db := r.2 }⟩

def close (env : CloseEnv) (id : TradeId) (note operator : String) (s : Ledger) : Closed :=
  match env.findError with
  | some e => ⟨.error (.storage e), none, s⟩
  | none =>
    match s.db.get id with
    | none => ⟨.error (.internal s!"trade not found: {id.raw}"), none, s⟩
    | some trade =>
      if trade.state ≠ .orphaned ∨ trade.needsReconcile = false then ⟨.ok false, none, s⟩
      else closeOrphaned env id note operator trade.reservationId (s.run env.afterFind)

/-! ## The other tasks -/

/-- The call does not take the reservation away. -/
def LedgerEvent.Keeps (id : ReservationId) (s : Ledger) (e : LedgerEvent) : Prop :=
  s.held.Reserved id → (s.step e).held.Reserved id

/-- The call would make a reservation with this id. -/
def LedgerEvent.Creates (id : ReservationId) : LedgerEvent → Prop
  | .capital _ a (.tryReserve _ _ _) => a.freshId = id
  | .capital _ _ (.restore k _ _ _ _) => k = id
  | _ => False

variable {id : ReservationId} {s : Ledger}

theorem reserved_of_step {e : LedgerEvent} (hfresh : ¬ e.Creates id)
    (h : (s.step e).held.Reserved id) : s.held.Reserved id := by
  have hcall : ∀ {r : Except ReservationError InMemoryExposureReservation},
      (r.toOption.getD s.held).Reserved id →
      (∀ held', r = .ok held' → held'.Reserved id → s.held.Reserved id) → s.held.Reserved id := by
    intro r hr hok
    cases r with
    | error e => exact hr
    | ok held' => exact hok held' rfl hr
  cases e with
  | trades op => exact h
  | capital config a c =>
    cases c with
    | tryReserve marketId amount ttl =>
      refine hcall h fun held' hok hafter => ?_
      obtain ⟨_, -, -, hget⟩ := InMemoryExposureReservation.tryReserveSync_get hok
      unfold InMemoryExposureReservation.Reserved at hafter
      rwa [hget, if_neg fun heq => hfresh heq.symm] at hafter
    | pinForReconciliation k =>
      exact hcall h fun held' hok hafter =>
        (InMemoryExposureReservation.pinForReconciliationSync_reserved hok id).mp hafter
    | restore k marketId amount pinned expiresAt =>
      refine hcall h fun held' hok hafter => ?_
      exact ((InMemoryExposureReservation.restoreSync_reserved hok id).mp hafter).resolve_right
        fun heq => hfresh heq.symm
    | release k =>
      refine hcall h fun held' hok hafter => ?_
      unfold InMemoryExposureReservation.Reserved at hafter
      rw [InMemoryExposureReservation.releaseSync_get hok] at hafter
      split at hafter
      · cases hafter
      · exact hafter
    | resize k newAmount =>
      refine hcall h fun held' hok hafter => ?_
      obtain ⟨entry, _, hthere, -, -, hget⟩ := InMemoryExposureReservation.resizeSync_get hok
      unfold InMemoryExposureReservation.Reserved at hafter ⊢
      rw [hget] at hafter
      split at hafter
      next heq => rw [heq, hthere, Option.isSome_some]
      next => exact hafter
    | gcExpired =>
      change (s.held.gcExpired a.now).Reserved id at h
      unfold InMemoryExposureReservation.Reserved at h ⊢
      rw [InMemoryExposureReservation.gcExpired_get] at h
      obtain ⟨entry, hentry⟩ := Option.isSome_iff_exists.mp h
      rw [(Option.filter_eq_some_iff.mp hentry).1, Option.isSome_some]

theorem reserved_of_run {events : List LedgerEvent} (hfresh : ∀ e ∈ events, ¬ e.Creates id)
    (h : (s.run events).held.Reserved id) : s.held.Reserved id := by
  induction events generalizing s with
  | nil => exact h
  | cons e events ih =>
    exact reserved_of_step (hfresh e List.mem_cons_self)
      (ih (fun e' he' => hfresh e' (List.mem_cons_of_mem _ he')) h)

theorem run_db (s : Ledger) (held : InMemoryExposureReservation) (events : List LedgerEvent) :
    (Ledger.run { s with held } events).db = (s.run events).db := by
  induction events generalizing s held with
  | nil => rfl
  | cons e events ih =>
    cases e with
    | capital config a c => exact (ih s _).trans (ih s (c.perform config a s.held)).symm
    | trades op => exact ih { s with db := op.apply s.db } held

/-! ## What a close leaves -/

/-- After a close that did not succeed: the reservation is still there, and if the row still waits
for its resolution, a later close succeeds. -/
structure CloseKeeps (id : TradeId) (reservationId : ReservationId) (s after : Ledger) :
    Prop where
  reserved : s.held.Reserved reservationId → after.held.Reserved reservationId
  retry : s.held.Reserved reservationId → after.db.Holds id (TradeDb.pendingReconcile · = true) →
    ∀ now note operator, (close (.calm now) id note operator after).result = .ok true

theorem closeUnresolvableTerminal_hit {db : TradeDb} {id : TradeId} (note operator : String)
    (now : DateTime) : (TradeDb.closeUnresolvableTerminal db id note operator now).1 = true ↔
      db.Holds id (TradeDb.pendingReconcile · = true) := by
  unfold TradeDb.closeUnresolvableTerminal
  rw [Table.updateKey_hit, Option.any_eq_true]
  rfl

theorem releaseSync_ok {held : InMemoryExposureReservation} (h : held.Reserved id) :
    ∃ held', held.releaseSync id = .ok held' ∧ ¬ held'.Reserved id := by
  obtain ⟨entry, hentry⟩ := Option.isSome_iff_exists.mp h
  have hok : ∃ held', held.releaseSync id = .ok held' := by
    unfold InMemoryExposureReservation.releaseSync
      InMemoryExposureReservation.removeReservationEntry
    rw [hentry]
    exact ⟨_, rfl⟩
  obtain ⟨held', hok⟩ := hok
  refine ⟨held', hok, fun hreserved => ?_⟩
  unfold InMemoryExposureReservation.Reserved at hreserved
  rw [InMemoryExposureReservation.releaseSync_get hok, if_pos rfl] at hreserved
  cases hreserved

theorem closeOrphaned_released {env : CloseEnv} (id : TradeId) (note operator : String)
    {reservationId : ReservationId} (hheld : s.held.Reserved reservationId)
    (hfresh : ∀ e ∈ env.afterRelease, ¬ e.Creates reservationId) :
    ¬ (closeOrphaned env id note operator reservationId s).ledger.held.Reserved reservationId ∧
      ((closeOrphaned env id note operator reservationId s).result = .ok true ↔
        env.fault = .none ∧
          (s.run env.afterRelease).db.Holds id (TradeDb.pendingReconcile · = true)) := by
  obtain ⟨held', hok, hgone⟩ := releaseSync_ok hheld
  unfold closeOrphaned
  rw [hok]
  dsimp only
  refine ⟨fun hreserved => hgone (reserved_of_run hfresh hreserved), ?_⟩
  rw [run_db]
  cases hfault : env.fault with
  | none =>
    rw [← closeUnresolvableTerminal_hit note operator env.now]
    simp [PostTrade.ask, Except.mapError]
  | failed e => simp [PostTrade.ask, Except.mapError]
  | lost e => simp [PostTrade.ask, Except.mapError]

theorem close_calm {id : TradeId} {row : TradeInfo} (hrow : s.db.get id = some row)
    (hpending : TradeDb.pendingReconcile row = true) (hheld : s.held.Reserved row.reservationId)
    (now : DateTime) (note operator : String) :
    (close (.calm now) id note operator s).result = .ok true := by
  have horphaned : ¬ (row.state ≠ .orphaned ∨ row.needsReconcile = false) := by
    simp only [TradeDb.pendingReconcile, Bool.and_eq_true, decide_eq_true_eq] at hpending
    simp [hpending.1.1, hpending.1.2]
  unfold close
  simp only [CloseEnv.calm, hrow, if_neg horphaned]
  exact (closeOrphaned_released id note operator hheld fun e he => absurd he List.not_mem_nil).2.mpr
    ⟨rfl, row, hrow, hpending⟩

/-- While nobody else takes the reservation of a trade, a close that does not succeed keeps it and
can be repeated, if and only if no close gives the reservation back before an update that fails or
finds the row resolved. -/
theorem close_keeps_iff {env : CloseEnv} {id : TradeId} (note operator : String) {s : Ledger}
    {trade : TradeInfo} (hrow : s.db.get id = some trade)
    (hkeeps : Meets (fun s e => some (s.step e)) (fun s e => e.Keeps trade.reservationId s) s
      env.afterFind)
    (hfresh : ∀ e ∈ env.afterRelease, ¬ e.Creates trade.reservationId) :
    ((close env id note operator s).result ≠ .ok true →
        CloseKeeps id trade.reservationId s (close env id note operator s).ledger) ↔
      (env.findError = none → trade.state = .orphaned → trade.needsReconcile = true →
        s.held.Reserved trade.reservationId →
        env.fault = .none ∧ (s.run (env.afterFind ++ env.afterRelease)).db.Holds id
          (TradeDb.pendingReconcile · = true)) := by
  -- a close that returns before the release leaves everything as it was
  have huntouched : CloseKeeps id trade.reservationId s s := by
    refine ⟨fun h => h, fun hheld hpending now note operator => ?_⟩
    obtain ⟨row, hrow', hpending⟩ := hpending
    obtain rfl : trade = row := Option.some.inj (hrow.symm.trans hrow')
    exact close_calm hrow hpending hheld now note operator
  unfold close
  cases hfind : env.findError with
  | some e => exact iff_of_true (fun _ => huntouched) nofun
  | none =>
    simp only [hrow]
    by_cases hskip : trade.state ≠ .orphaned ∨ trade.needsReconcile = false
    · rw [if_pos hskip]
      refine iff_of_true (fun _ => huntouched) fun _ hstate hflag _ => ?_
      rcases hskip with h | h
      · exact absurd hstate h
      · rw [h] at hflag
        cases hflag
    · rw [if_neg hskip]
      obtain ⟨hstate, hflag⟩ := not_or.mp hskip
      by_cases hheld : s.held.Reserved trade.reservationId
      · have hstill : (s.run env.afterFind).held.Reserved trade.reservationId :=
          foldl_invariant (fun s => s.held.Reserved trade.reservationId)
            (fun s e hs hok => hok hs) hheld hkeeps
        obtain ⟨hgone, hresult⟩ := closeOrphaned_released id note operator hstill hfresh
        have hrun : (s.run (env.afterFind ++ env.afterRelease)) =
            (s.run env.afterFind).run env.afterRelease := List.foldl_append
        rw [hrun, ← hresult]
        constructor
        · intro h _ _ _ _
          by_contra hnot
          exact hgone ((h hnot).reserved hheld)
        · intro h hnot
          exact absurd (h trivial (not_not.mp hstate) (Bool.not_eq_false _ ▸ hflag) hheld) hnot
      · exact iff_of_true (fun _ => ⟨fun h => absurd h hheld, fun h => absurd h hheld⟩)
          fun _ _ _ h => absurd h hheld

def orphanedLedger : Ledger where
  held :=
    { reservations := ⟨[⟨⟨"r"⟩, ⟨"m"⟩, 970, 0, true⟩], by decide⟩
      totalReservedCents := 970
      perMarketCents := fun m => if m = ⟨"m"⟩ then some 970 else none }
  db := ⟨[Evidence.unsnapshottedTrade], by decide⟩

/-- A close during which the sweep for expired reservations runs. -/
theorem close_keeps_undisturbed :
    let env : CloseEnv :=
      { CloseEnv.calm 0 with afterFind := [.capital ⟨0, 0⟩ ⟨⟨"s"⟩, 1, false⟩ .gcExpired] }
    (close env ⟨1⟩ "note" "operator" orphanedLedger).result ≠ .ok true →
      CloseKeeps ⟨1⟩ ⟨"r"⟩ orphanedLedger
        (close env ⟨1⟩ "note" "operator" orphanedLedger).ledger := by
  intro env
  have hrow : orphanedLedger.db.get ⟨1⟩ = some Evidence.unsnapshottedTrade := by decide +kernel
  have hpending : TradeDb.pendingReconcile Evidence.unsnapshottedTrade = true := by decide +kernel
  have hswept : (orphanedLedger.step (.capital ⟨0, 0⟩ ⟨⟨"s"⟩, 1, false⟩ .gcExpired)).held.Reserved
      ⟨"r"⟩ := by
    decide +kernel
  exact (@close_keeps_iff env ⟨1⟩ "note" "operator" _ _ hrow ⟨fun _ => hswept, trivial⟩
    fun e he => absurd he List.not_mem_nil).mpr
      fun _ _ _ _ => ⟨rfl, Evidence.unsnapshottedTrade, hrow, hpending⟩

/-- The update fails: the trade keeps its orphaned row without a reservation, and every later close
fails for want of it. Or the reconciliation records a fill first: the close answers that it did
nothing, and the fill has no reservation any more. -/
theorem close_releases_without_closing :
    let failing : CloseEnv := { CloseEnv.calm 0 with fault := .failed "connection lost" }
    let failed := close failing ⟨1⟩ "note" "operator" orphanedLedger
    let fill : TradeObservation :=
      { state := .fillObserved, shares := 10, price := 97 / 100, costUsd := 97 / 10, feeUsd := 0
        orderId := none, txHash := none, netProfitUsd := none, errorMessage := none
        confirmedAt := 0 }
    let racing : CloseEnv :=
      { CloseEnv.calm 0 with
        afterFind :=
          [.trades (.write (.markReconciledObserved ⟨1⟩ fill .filled "fill" 0))] }
    let raced := close racing ⟨1⟩ "note" "operator" orphanedLedger
    orphanedLedger.held.Reserved ⟨"r"⟩ ∧
    (failed.result.toOption = none ∧ ¬ failed.ledger.held.Reserved ⟨"r"⟩ ∧
      failed.ledger.db.get ⟨1⟩ = orphanedLedger.db.get ⟨1⟩ ∧
      (close (.calm 1) ⟨1⟩ "note" "operator" failed.ledger).result.toOption = none) ∧
    (raced.result.toOption = some false ∧ ¬ raced.ledger.held.Reserved ⟨"r"⟩ ∧
      (raced.ledger.db.get ⟨1⟩).map (·.state) = some .fillObserved) := by
  decide +kernel

end Reconciliation

end OxideArb
