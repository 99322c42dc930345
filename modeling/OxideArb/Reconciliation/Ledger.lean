import OxideArb.Exposure.Interleaving
import OxideArb.Trade.Lifecycle

/-!
# Reservations and trade rows together

The tasks of the process change reservations and trade rows by whole calls in any order. From
dispatch to resolution row and reservation keep their amounts (`Outstanding.run`).
-/

namespace OxideArb

/-- A call that nothing interrupts. A call that fails changes nothing. -/
def Exposure.Call.perform (config : ExposureReservationConfig) (a : Answers)
    (held : InMemoryExposureReservation) : Call → InMemoryExposureReservation
  | .tryReserve marketId amount ttl =>
    (held.tryReserveSync config a.freshId a.now marketId amount ttl).toOption.getD held
  | .pinForReconciliation id => (held.pinForReconciliationSync id).toOption.getD held
  | .restore id marketId amount reconcilePinned expiresAt =>
    (held.restoreSync config id marketId amount reconcilePinned expiresAt).toOption.getD held
  | .release id => (held.releaseSync id).toOption.getD held
  | .resize id newAmount => (held.resizeSync id newAmount).toOption.getD held
  | .gcExpired => held.gcExpired a.now

def TradeState.AwaitsOutcome (state : TradeState) : Prop :=
  state = .intent ∨ state = .submitted ∨ state = .orphaned

namespace Reconciliation

structure Ledger where
  held : InMemoryExposureReservation
  db : TradeDb

/-- A call of some task. -/
inductive LedgerEvent
  | capital (config : ExposureReservationConfig) (a : Exposure.Answers) (c : Exposure.Call)
  | trades (op : TradeOp)
deriving DecidableEq, Repr

namespace Ledger

def step (s : Ledger) : LedgerEvent → Ledger
  | .capital config a c => { s with held := c.perform config a s.held }
  | .trades op => { s with db := op.apply s.db }

def run (s : Ledger) (events : List LedgerEvent) : Ledger := events.foldl step s

end Ledger

/-- A call that is not about the reservation: it may pin it, and the collection may take it once
it expires. -/
def LedgerEvent.Spares (id : ReservationId) : LedgerEvent → Prop
  | .capital _ a (.tryReserve _ _ _) => a.freshId ≠ id
  | .capital _ _ (.restore k _ _ _ _) => k ≠ id
  | .capital _ _ (.release k) => k ≠ id
  | .capital _ _ (.resize k _) => k ≠ id
  | .capital _ _ (.pinForReconciliation _) => True
  | .capital _ _ .gcExpired => True
  | .trades op => op.Issued

/-! ## A plan whose outcome is not known -/

/-- The row and the reservation of a plan that reserved `size`. -/
structure Outstanding (tradeId : TradeId) (reservationId : ReservationId) (size : Usd)
    (s : Ledger) : Prop where
  row : ∃ row, s.db.get tradeId = some row ∧ row.reservationId = reservationId ∧
    (row.state.AwaitsOutcome → row.costUsd = size)
  entry : ∀ entry, s.held.reservations.get reservationId = some entry →
    usdToCents size = .ok entry.amountCents

section

variable {id : ReservationId} {entry' : ReservationEntry}

theorem perform_entry {config : ExposureReservationConfig} {a : Exposure.Answers}
    {c : Exposure.Call} (hspares : (LedgerEvent.capital config a c).Spares id)
    {held : InMemoryExposureReservation}
    (hget : (c.perform config a held).reservations.get id = some entry') :
    ∃ entry, held.reservations.get id = some entry ∧ entry'.amountCents = entry.amountCents := by
  -- a call either fails, and the entry is as it was, or does what its lemma says
  have hfail : ∀ {r : Except ReservationError InMemoryExposureReservation},
      (r.toOption.getD held).reservations.get id = some entry' →
      (∀ held', r = .ok held' → held'.reservations.get id = some entry' →
        ∃ entry, held.reservations.get id = some entry ∧ entry'.amountCents = entry.amountCents) →
      ∃ entry, held.reservations.get id = some entry ∧ entry'.amountCents = entry.amountCents := by
    intro r hr hok
    cases r with
    | error e => exact ⟨entry', hr, rfl⟩
    | ok held' => exact hok held' rfl hr
  cases c with
  | tryReserve marketId amount ttl =>
    refine hfail hget fun held' h hentry => ?_
    obtain ⟨_, -, -, hafter⟩ := InMemoryExposureReservation.tryReserveSync_get h
    rw [hafter, if_neg (Ne.symm hspares)] at hentry
    exact ⟨entry', hentry, rfl⟩
  | pinForReconciliation k =>
    refine hfail hget fun held' h hentry => ?_
    obtain ⟨entry, hthere, hafter⟩ := InMemoryExposureReservation.pinForReconciliationSync_get h
    rw [hafter] at hentry
    split at hentry
    next heq =>
      cases hentry
      exact ⟨entry, heq ▸ hthere, rfl⟩
    next => exact ⟨entry', hentry, rfl⟩
  | restore k marketId amount pinned expiresAt =>
    refine hfail hget fun held' h hentry => ?_
    rw [InMemoryExposureReservation.restoreSync_get_ne h (Ne.symm hspares)] at hentry
    exact ⟨entry', hentry, rfl⟩
  | release k =>
    refine hfail hget fun held' h hentry => ?_
    rw [InMemoryExposureReservation.releaseSync_get h, if_neg (Ne.symm hspares)] at hentry
    exact ⟨entry', hentry, rfl⟩
  | resize k newAmount =>
    refine hfail hget fun held' h hentry => ?_
    obtain ⟨_, _, -, -, -, hafter⟩ := InMemoryExposureReservation.resizeSync_get h
    rw [hafter, if_neg (Ne.symm hspares)] at hentry
    exact ⟨entry', hentry, rfl⟩
  | gcExpired =>
    change (held.gcExpired a.now).reservations.get id = some entry' at hget
    rw [InMemoryExposureReservation.gcExpired_get] at hget
    exact ⟨entry', (Option.filter_eq_some_iff.mp hget).1, rfl⟩

end

theorem cost_kept {db : TradeDb} {op : TradeOp} (hissued : op.Issued) {id : TradeId}
    {row row' : TradeInfo} (hrow : db.get id = some row) (hrow' : (op.apply db).get id = some row')
    (hawaits : row'.state.AwaitsOutcome) :
    row.state.AwaitsOutcome ∧ row'.costUsd = row.costUsd := by
  obtain ⟨after, hafter, hcases⟩ := TradeOp.row_cases db op hrow
  obtain rfl : after = row' := Option.some.inj (hafter.symm.trans hrow')
  rcases hcases with rfl | ⟨w, rfl, -, haccepts, rfl⟩ | ⟨_, _, _, _, _, -, hclaim, rfl⟩
  · exact ⟨hawaits, rfl⟩
  · cases w with
    | create new => cases haccepts
    | markSubmitted tid ts => exact ⟨.inl (of_decide_eq_true haccepts), rfl⟩
    | setPreSubmitCtfBalance tid balance => exact ⟨hawaits, rfl⟩
    | markOrphaned tid => exact ⟨.inr (.inl (of_decide_eq_true haccepts)), rfl⟩
    | recordReconcileDefer tid deferUntil note => exact ⟨hawaits, rfl⟩
    | markReconciled tid resolution note ts => exact ⟨hawaits, rfl⟩
    | closeUnresolvableTerminal tid note operator ts =>
      exact absurd hawaits (by simp [TradeState.AwaitsOutcome, TradeWrite.set])
    | markObserved tid obs =>
      rw [TradeWrite.accepts, Bool.and_eq_true] at haccepts
      change obs.state.AwaitsOutcome at hawaits
      rcases hawaits with h | h | h <;> rw [h] at haccepts <;> cases haccepts.1
    | markReconciledObserved tid obs resolution note ts =>
      rw [TradeWrite.accepts, Bool.and_eq_true] at haccepts
      change obs.state.AwaitsOutcome at hawaits
      rcases hawaits with h | h | h <;> rw [h] at haccepts <;> cases haccepts.1
    | advanceState tid source target =>
      obtain ⟨-, hterminal⟩ := hissued
      change target.AwaitsOutcome at hawaits
      rcases hawaits with rfl | rfl | rfl <;> cases source <;> cases hterminal
  · change row.state.claimed.AwaitsOutcome at hawaits
    rcases TradeDb.claimable_state hclaim with h | h <;> cases hs : row.state <;>
      simp_all [TradeState.claimed, TradeState.isUnprocessed, TradeState.isProcessing,
        TradeState.AwaitsOutcome]

variable {id : ReservationId} {tradeId : TradeId}

theorem Outstanding.step {size : Usd} {s : Ledger} (h : Outstanding tradeId id size s)
    {e : LedgerEvent} (hspares : e.Spares id) : Outstanding tradeId id size (s.step e) := by
  cases e with
  | capital config a c =>
    refine ⟨h.row, fun entry' hget => ?_⟩
    obtain ⟨entry, hentry, hamount⟩ := perform_entry hspares hget
    rw [hamount]
    exact h.entry entry hentry
  | trades op =>
    obtain ⟨row, hrow, hid, hcost⟩ := h.row
    obtain ⟨row', hrow', hid'⟩ := TradeOp.apply_ids s.db op hrow
    refine ⟨⟨row', hrow', hid'.trans hid, fun hawaits => ?_⟩, h.entry⟩
    obtain ⟨hbefore, hkept⟩ := cost_kept hspares hrow hrow' hawaits
    exact hkept.trans (hcost hbefore)

theorem Outstanding.run {size : Usd} {s : Ledger} (h : Outstanding tradeId id size s)
    {events : List LedgerEvent} (hspares : ∀ e ∈ events, e.Spares id) :
    Outstanding tradeId id size (s.run events) :=
  List.foldlRecOn (motive := Outstanding tradeId id size) events Ledger.step h
    fun _ hs e he => hs.step (hspares e he)

end Reconciliation

end OxideArb
