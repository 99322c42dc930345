import OxideArb.Settlement.Service

/-!
# The profit of a settled position is booked once

The conditional update of the ledger entry succeeds once, and only then is the profit added
(`added_at_most_once`). A restart loses what was booked, since the stored row is never given the
lifetime total.
-/

namespace OxideArb

/-! ## The property and the condition -/

def Accounted (row : PositionInfo) : Prop := row.settlementAccountingStatus = .accounted

instance (row : PositionInfo) : Decidable (Accounted row) := inferInstanceAs (Decidable (_ = _))

/-- While a process runs, each figure contains the profit of a position at most once, and
exactly once if the row of the position is accounted. -/
def BookedOnce (w : World) : Prop :=
  ∀ e, w.engine = some e → ∀ account p, timesBooked (e.booked account) p ≤ 1 ∧
    (w.positions.Holds p Accounted → timesBooked (e.booked account) p = 1)

/-- The condition on steps: a process that comes up finds no accounted position. -/
def RestartClean (w : World) : SettlementStep → Prop
  | .call _ _ => True
  | .restart boot => ∀ e, recoverState boot w.stored w.ledger.findActive = .ok e →
      ∀ p, ¬ w.positions.Holds p Accounted

/-- Before the first start: nothing has been booked and no position is accounted. -/
structure Unbooked (w : World) : Prop where
  engine : w.engine = none
  added : w.added = []
  stored : ∀ account, w.stored.booked account = []
  accounted : ∀ p, ¬ w.positions.Holds p Accounted

/-! ## The invariant -/

theorem timesBooked_cons (b : Booking) (bookings : List Booking) (p : PositionId) :
    timesBooked (b :: bookings) p = timesBooked bookings p + if b.position = p then 1 else 0 := by
  simp [timesBooked, List.countP_cons]

theorem timesBooked_le {l l' : List Booking} (h : l.Sublist l') (p : PositionId) :
    timesBooked l p ≤ timesBooked l' p :=
  h.countP_le

/-- The engine in memory rests on additions that were made, and its lifetime total is the
stored one with the additions since. -/
structure EngineGood (w : World) (e : RiskEngine) : Prop where
  sublist : ∀ account, (e.booked account).Sublist w.added
  lifetime : e.lifetimeRealized =
    w.stored.row.totalRealizedPnl + ((e.booked .lifetime).map (·.pnl)).sum

def InMemory (p : PositionId) (w : World) : Prop :=
  ∀ e, w.engine = some e → ∀ account, timesBooked (e.booked account) p ≠ 0

/-- The invariant. An addition is made at most once, and not while the ledger entry of the
trade is active; stored figures and figures in memory rest on additions that were made;
rows in hand have their trade. In a `clean` run accounted positions are in memory. -/
structure Booked (clean : Prop) (hand : List PositionInfo) (w : World) : Prop where
  once : ∀ p, timesBooked w.added p ≤ 1
  active : ∀ p t, w.positions.Holds p (·.tradeId = t) → w.ledger.Active t →
    timesBooked w.added p = 0
  engine : ∀ e, w.engine = some e → EngineGood w e
  stored : ∀ account, (w.stored.booked account).Sublist w.added
  lifetime : w.stored.booked .lifetime = []
  accounted : clean → ∀ p, w.positions.Holds p Accounted → InMemory p w
  hand : ∀ pos ∈ hand, w.positions.Holds pos.positionId (·.tradeId = pos.tradeId)

theorem Unbooked.booked {w : World} (h : Unbooked w) (clean : Prop) : Booked clean [] w where
  once := by simp [h.added, timesBooked]
  active := by simp [h.added, timesBooked]
  engine := by simp [h.engine]
  stored := by simp [h.stored]
  lifetime := h.stored .lifetime
  accounted := fun _ p hp => absurd hp (h.accounted p)
  hand := by simp

namespace Booked

variable {clean : Prop} {hand : List PositionInfo} {w : World}

theorem log (h : Booked clean hand w) (event : SettlementEvent) :
    Booked clean hand { w with history := event :: w.history } where
  once := h.once
  active := h.active
  engine := fun e he => ⟨(h.engine e he).sublist, (h.engine e he).lifetime⟩
  stored := h.stored
  lifetime := h.lifetime
  accounted := h.accounted
  hand := h.hand

theorem stop (h : Booked clean hand w) : Booked clean hand { w with engine := none } where
  once := h.once
  active := h.active
  engine := fun _ he => absurd he (Option.some_ne_none _).symm
  stored := h.stored
  lifetime := h.lifetime
  accounted := fun _ _ _ _ he => absurd he (Option.some_ne_none _).symm
  hand := h.hand

theorem load (h : Booked clean hand w) {rows : List PositionInfo}
    (hrows : ∀ r ∈ rows, r ∈ w.positions.rows) : Booked clean (rows ++ hand) w :=
  { h with
    hand := fun pos hpos => (List.mem_append.mp hpos).elim
      (fun hr => ⟨pos, (Table.get_eq_some_iff _).mpr ⟨hrows pos hr, rfl⟩, rfl⟩) (h.hand pos) }

theorem drop (rows : List PositionInfo) (h : Booked clean (rows ++ hand) w) :
    Booked clean hand w :=
  { h with hand := fun pos hpos => h.hand pos (List.mem_append_right _ hpos) }

theorem patch (h : Booked clean hand w) {id : PositionId} {f : PositionInfo.Patch}
    {row : PositionInfo} {db : PositionDb} (hpatch : w.positions.patch id f = some (row, db))
    (events : List SettlementEvent)
    (hacc : ∀ old, w.positions.get id = some old → Accounted (f.run old) →
      Accounted old ∨ InMemory id w) :
    Booked clean (row :: hand) { w with positions := db, history := events ++ w.history } := by
  refine ⟨h.once, ?_, fun e he => ⟨(h.engine e he).sublist, (h.engine e he).lifetime⟩, h.stored,
    h.lifetime, ?_, ?_⟩
  · -- rows keep their trade
    rintro p t ⟨r, hr, rfl⟩
    obtain ⟨old, hold, ⟨_, rfl⟩ | ⟨_, rfl⟩⟩ := PositionDb.get_patch hpatch hr
    · exact h.active p _ ⟨r, hold, rfl⟩
    · exact h.active p _ ⟨old, hold, (f.tradeId_run old).symm⟩
  · rintro hclean p ⟨r, hr, hra⟩
    obtain ⟨old, hold, ⟨_, rfl⟩ | ⟨rfl, rfl⟩⟩ := PositionDb.get_patch hpatch hr
    · exact h.accounted hclean p ⟨r, hold, hra⟩
    · rcases hacc old hold hra with hold' | hmem
      · exact h.accounted hclean p ⟨old, hold, hold'⟩
      · exact hmem
  · intro pos hpos
    rcases List.mem_cons.mp hpos with rfl | hpos
    · obtain ⟨old, hold, rfl, hnew⟩ := PositionDb.patch_eq_some hpatch
      have hid : (f.run old).positionId = id :=
        (f.positionId_run old).trans ((Table.get_eq_some_iff _).mp hold).2
      exact ⟨_, hid ▸ hnew, rfl⟩
    · exact PositionDb.Holds.patch hpatch (h.hand pos hpos)
        (fun _ old _ ht => (f.tradeId_run old).trans ht) fun _ ht => ht

theorem resolve (h : Booked clean hand w) {tradeId : TradeId} {ledger : PotentialLossDb}
    (hres : w.ledger.resolve tradeId = (true, ledger)) :
    Booked clean hand { w with ledger } ∧ ¬ ledger.Active tradeId ∧
      ∀ p, w.positions.Holds p (·.tradeId = tradeId) → timesBooked w.added p = 0 := by
  have hledger : ledger = (w.ledger.resolve tradeId).2 := by rw [hres]
  have hactive : w.ledger.Active tradeId := by
    rw [← PotentialLossDb.resolve_hit, hres]
  subst hledger
  refine ⟨?_, PotentialLossDb.not_active_resolve _ _, fun p hp => h.active p tradeId hp hactive⟩
  exact
    { once := h.once
      active := fun p t hp ht => h.active p t hp ht.of_resolve
      engine := fun e he => ⟨(h.engine e he).sublist, (h.engine e he).lifetime⟩
      stored := h.stored
      lifetime := h.lifetime
      accounted := h.accounted
      hand := h.hand }

theorem add (h : Booked clean hand w) {p : PositionId} {tradeId : TradeId}
    (hp : w.positions.Holds p (·.tradeId = tradeId)) (hres : ¬ w.ledger.Active tradeId)
    (hnew : timesBooked w.added p = 0) (now : DateTime) (netProfit : Usd) :
    let w' : World :=
      { w with
        engine := w.engine.map fun e => e.applySettlement now p tradeId netProfit
        added := ⟨p, netProfit⟩ :: w.added }
    Booked clean hand w' ∧ InMemory p w' := by
  intro w'
  -- what the engine rests on is what it rested on, with the new addition in front
  have hengine : ∀ e', w'.engine = some e' → ∃ e, w.engine = some e ∧
      e'.lifetimeRealized = e.lifetimeRealized + netProfit ∧
      ∀ account, e'.booked account = ⟨p, netProfit⟩ :: e.booked account := by
    intro e' he'
    obtain ⟨e, he, rfl⟩ := Option.map_eq_some_iff.mp he'
    obtain ⟨hlife, -, -, -, hbooked⟩ := e.applySettlement_adds now p tradeId netProfit
    exact ⟨e, he, hlife, hbooked⟩
  refine ⟨?_, ?_⟩
  · refine ⟨fun q => ?_, fun q t hq ht => ?_, fun e' he' => ?_, fun a => (h.stored a).cons _,
      h.lifetime, fun hclean q hq e' he' a => ?_, h.hand⟩
    · show timesBooked (_ :: w.added) q ≤ 1
      rw [timesBooked_cons]
      split
      · rename_i hpq
        obtain rfl : p = q := hpq
        omega
      · exact h.once q
    · show timesBooked (_ :: w.added) q = 0
      rw [timesBooked_cons, h.active q t hq ht]
      split
      · rename_i hpq
        obtain rfl : p = q := hpq
        obtain ⟨r, hr, rfl⟩ := hp
        obtain ⟨r', hr', rfl⟩ := hq
        obtain rfl : r = r' := Option.some.inj (hr.symm.trans hr')
        exact absurd ht hres
      · rfl
    · obtain ⟨e, he, hlife, hbooked⟩ := hengine e' he'
      refine ⟨fun a => ?_, ?_⟩
      · rw [hbooked a]
        exact ((h.engine e he).sublist a).cons_cons _
      · rw [hlife, hbooked, (h.engine e he).lifetime, List.map_cons, List.sum_cons]
        ring
    · obtain ⟨e, he, -, hbooked⟩ := hengine e' he'
      rw [hbooked a, timesBooked_cons]
      have := h.accounted hclean q hq e he a
      omega
  · intro e' he' a
    obtain ⟨e, he, -, hbooked⟩ := hengine e' he'
    rw [hbooked a, timesBooked_cons, if_pos rfl]
    omega

theorem upsert (h : Booked clean hand w) {e : RiskEngine} (he : w.engine = some e)
    (state : RiskEngineState) (now : DateTime) :
    Booked clean hand
      { w with stored := w.stored.upsert state e.booked now, engine := some e } where
  once := h.once
  active := h.active
  engine := by
    rintro e' ⟨⟩
    exact ⟨(h.engine e he).sublist, (h.engine e he).lifetime⟩
  stored := by
    intro account
    cases account with
    | lifetime => exact h.stored .lifetime
    | daily => exact (h.engine e he).sublist .daily
    | weekly => exact List.nil_sublist _
    | hourly => exact List.nil_sublist _
  lifetime := h.lifetime
  accounted := fun hclean p hp e' he' => h.accounted hclean p hp e' (he.trans he')
  hand := h.hand

theorem restart (h : Booked clean hand w) {boot : Boot}
    (hclean : clean → RestartClean w (.restart boot)) :
    Booked clean hand (w.step (.restart boot)) := by
  have hengine : ∀ e, (w.step (.restart boot)).engine = some e →
      recoverState boot w.stored w.ledger.findActive = .ok e := by
    intro e he
    simp only [World.step] at he
    cases hrec : recoverState boot w.stored w.ledger.findActive with
    | error error => rw [hrec] at he; cases he
    | ok e' => rw [hrec] at he; cases he; rfl
  refine ⟨h.once, h.active, fun e he => ?_, h.stored, h.lifetime, fun hc p hp e he => ?_, h.hand⟩
  · obtain ⟨hlife, hbooked⟩ := recoverState_ok (hengine e he)
    refine ⟨fun a => hbooked ▸ h.stored a, ?_⟩
    rw [hlife, hbooked, h.lifetime]
    exact (add_zero _).symm
  · exact absurd hp (hclean hc e (hengine e he) p)

end Booked

/-! ## What the steps of a settlement keep -/

namespace BookedOnce

section Steps

open Prog Service

variable {clean : Prop} {hand : List PositionInfo}

theorem patchPosition_keeps {id : PositionId} {f : Answer → PositionInfo.Patch}
    {events : List SettlementEvent} (hf : ∀ a old, Accounted ((f a).run old) → Accounted old) :
    (patchPosition id f events).Spec (Booked clean hand) (fun row => Booked clean (row :: hand))
      (fun _ => Booked clean hand) :=
  patchPosition_spec
    (fun a _ _ _ hw hpatch => hw.patch hpatch events fun old _ h => .inl (hf a old h))
    (fun _ h => h) (fun row _ h => h.drop [row])

variable (id : PositionId) (req : MarketSettlementRequest) (pos : PositionInfo)

theorem markRedeemed_keeps (params : MarkRedeemedParams) :
    (markRedeemed id params).Spec (Booked clean hand) (fun row => Booked clean (row :: hand))
      (fun _ => Booked clean hand) :=
  patchPosition_keeps fun _ _ h => by cases h

theorem markAccountingFailed_keeps (error : String) :
    (markAccountingFailed id error).Spec (Booked clean hand) (fun row => Booked clean (row :: hand))
      (fun _ => Booked clean hand) :=
  patchPosition_keeps fun _ _ h => by cases h

theorem recordRedeemFailure_keeps (attempts : Nat) (winningTokenId : TokenId)
    (source : SettlementTrigger) :
    (recordRedeemFailure id attempts winningTokenId source).Spec (Booked clean hand)
      (fun row => Booked clean (row :: hand)) (fun _ => Booked clean hand) :=
  patchPosition_keeps fun _ _ h => h

theorem markRedeemTerminal_keeps (attempts : Nat) (winningTokenId : TokenId)
    (source : SettlementTrigger) (reason : String) :
    (markRedeemTerminal id attempts winningTokenId source reason).Spec (Booked clean hand)
      (fun row => Booked clean (row :: hand)) (fun _ => Booked clean hand) :=
  patchPosition_keeps fun _ _ h => by cases h

theorem markAccounted_keeps : (markAccounted id).Spec (fun w => Booked clean hand w ∧ InMemory id w)
      (fun _ => Booked clean hand) (fun _ => Booked clean hand) :=
  patchPosition_spec
    (fun _ _ row _ hw hpatch => (hw.1.patch hpatch _ fun _ _ _ => .inr hw.2).drop [row])
    (fun _ h => h.1) (fun _ _ h => h)

/-- **The accounting of the risk engine** for a row in hand: when it returns, the position is
in memory. -/
theorem onMarketSettled_spec {pos : PositionInfo} (hpos : pos ∈ hand) (realizedPnlUsd : Usd) :
    (onMarketSettled pos.positionId pos.tradeId realizedPnlUsd).Spec (Booked clean hand)
      (fun _ w => Booked clean hand w ∧ InMemory pos.positionId w)
      (fun _ => Booked clean hand) := by
  have hresolve : (persistSettlementPotentialLoss pos.tradeId).Spec (Booked clean hand)
      (fun _ w => Booked clean hand w ∧ ¬ w.ledger.Active pos.tradeId ∧
        timesBooked w.added pos.positionId = 0)
      (fun _ => Booked clean hand) := by
    refine storage_spec (fun _ w hw => ?_) (fun _ h => h) (fun _ _ h => h.1)
    rcases hres : w.ledger.resolve pos.tradeId with ⟨_ | _, ledger⟩
    · exact hw
    · obtain ⟨hbooked, hinactive, hnew⟩ := hw.resolve hres
      exact ⟨hbooked, hinactive, hnew _ (hw.hand pos hpos)⟩
  have happly : (applyTradeResult pos.positionId pos.tradeId realizedPnlUsd).Spec
      (fun w => Booked clean hand w ∧ ¬ w.ledger.Active pos.tradeId ∧
        timesBooked w.added pos.positionId = 0)
      (fun _ w => Booked clean hand w ∧ InMemory pos.positionId w)
      (fun _ => Booked clean hand) :=
    Spec.bind (Spec.next fun _ _ hw => hw) fun a => Spec.modify fun w hw =>
      hw.1.add (hw.1.hand pos hpos) hw.2.1 hw.2.2 a.now realizedPnlUsd
  have hupsert : upsertState.Spec (fun w => Booked clean hand w ∧ InMemory pos.positionId w)
      (fun _ w => Booked clean hand w ∧ InMemory pos.positionId w)
      (fun _ => Booked clean hand) := by
    refine storage_spec (fun a w hw => ?_) (fun _ h => h.1) (fun _ _ h => h.1)
    cases he : w.engine with
    | none => exact hw
    | some e => exact ⟨hw.1.upsert he _ _, fun e' he' => hw.2 e' (he.trans he')⟩
  have haudit : createAudit.Spec (fun w => Booked clean hand w ∧ InMemory pos.positionId w)
      (fun _ w => Booked clean hand w ∧ InMemory pos.positionId w) (fun _ => Booked clean hand) :=
    storage_spec (fun _ _ hw => hw) (fun _ h => h.1) (fun _ _ h => h.1)
  exact Spec.bind hresolve fun _ => Spec.bind happly fun _ => Spec.bind hupsert fun _ => haudit

theorem applyRiskSettlement_keeps {settled : PositionInfo} (hpos : settled ∈ hand)
    (economics : SettlementEconomics) :
    (applyRiskSettlement settled economics).Spec (Booked clean hand) (fun _ => Booked clean hand)
      (fun _ => Booked clean hand) := by
  refine Spec.bind (R := fun report w => Booked clean hand w ∧
    (report = .ok () → InMemory settled.positionId w))
    (Spec.attempt ((onMarketSettled_spec hpos _).post (fun _ _ h => ⟨h.1, fun _ => h.2⟩)
      fun e w h => ?_)) fun report => ?_
  · cases e with
    | failed error => exact ⟨h, nofun⟩
    | killed => exact h
  · cases report with
    | ok =>
      exact Spec.bind ((markAccounted_keeps _).pre fun w h => ⟨h.1, h.2 rfl⟩) fun _ =>
        Spec.pure fun _ h => h
    | error error =>
      exact Spec.bind ((markAccountingFailed_keeps _ _).pre fun w h => h.1) fun row =>
        Spec.throw fun _ h => h.drop [row]

theorem redeem_keeps : (redeem req pos).Spec (Booked clean hand) (fun _ => Booked clean hand)
      (fun _ => Booked clean hand) := by
  refine Spec.bind (R := fun _ => Booked clean hand) (Spec.next fun _ _ hw => hw) fun a => ?_
  dsimp only
  split
  · exact Spec.throw fun _ hw => hw
  · refine Spec.bind (R := fun _ => Booked clean hand) (Spec.modify fun _ hw => hw.log _)
      fun _ => ?_
    split
    · exact Spec.throw fun _ hw => hw
    · exact Spec.pure fun _ hw => hw

theorem redeemOrRecordFailure_keeps :
    (redeemOrRecordFailure req pos).Spec (Booked clean hand) (fun _ => Booked clean hand)
      (fun _ => Booked clean hand) := by
  refine Spec.bind (redeem_keeps req pos) fun result => ?_
  cases result with
  | ok outcome => exact Spec.pure fun _ hw => hw
  | error error =>
    dsimp only
    split
    · exact Spec.pure fun _ hw => hw
    · refine Spec.bind (R := fun _ => Booked clean hand) ?_ fun _ => Spec.pure fun _ hw => hw
      exact Spec.bind (recordRedeemFailure_keeps _ _ _ _) fun row =>
        Spec.pure fun _ h => h.drop [row]

theorem settlePosition_keeps :
    (settlePosition req pos).Spec (Booked clean hand) (fun _ => Booked clean hand)
      (fun _ => Booked clean hand) := by
  refine Spec.bind (R := fun _ => Booked clean hand) (Spec.next fun _ _ hw => hw) fun a => ?_
  refine Spec.bind (R := fun _ => Booked clean hand) (Spec.modify fun _ hw => hw.log _) fun _ => ?_
  split
  · exact Spec.bind (markRedeemTerminal_keeps _ _ _ _ _) fun row =>
      Spec.throw fun _ h => h.drop [row]
  · refine Spec.bind (redeemOrRecordFailure_keeps req pos) fun redeemed => ?_
    cases redeemed with
    | none => exact Spec.pure fun _ hw => hw
    | some outcome =>
      -- the accounting works on the row that was written
      refine Spec.bind (markRedeemed_keeps _ _) fun settled => ?_
      exact (applyRiskSettlement_keeps List.mem_cons_self _).post (fun _ _ h => h.drop [settled])
        (fun _ _ h => h.drop [settled])

theorem retryAccounting_keeps {pos : PositionInfo} (hpos : pos ∈ hand) :
    (retryAccounting pos).Spec (Booked clean hand) (fun _ => Booked clean hand)
      (fun _ => Booked clean hand) := by
  unfold retryAccounting
  cases pos.winningTokenId with
  | none => exact Spec.pure fun _ hw => hw
  | some winningTokenId =>
    exact Spec.bind (R := fun _ => Booked clean hand) (Spec.modify fun _ hw => hw.log _)
      fun _ => applyRiskSettlement_keeps hpos _

end Steps

/-! ## Every run -/

theorem rules (clean : Prop) : PositionRules (Booked clean) where
  load := fun _ _ _ hw hrows => hw.load hrows
  drop := fun _ rows _ hw => hw.drop rows
  settle := fun _ req pos _ => settlePosition_keeps req pos
  account := fun _ _ hpos _ => retryAccounting_keeps hpos
  stop := fun _ _ hw => hw.stop

variable {w : World}

theorem step_keeps {clean : Prop} (hw : Booked clean [] w) (step : SettlementStep)
    (hclean : clean → RestartClean w step) : Booked clean [] (w.step step) :=
  (rules clean).step hw step fun _ hboot => hw.restart (hboot ▸ hclean)

/-- **An addition is never repeated**, whatever fails and wherever the process stops, and the
lifetime total in memory is the stored one with the additions it rests on. -/
theorem added_at_most_once (hw : Unbooked w) (steps : List SettlementStep) :
    (∀ p, timesBooked (w.run steps).added p ≤ 1) ∧
      ∀ e, (w.run steps).engine = some e → e.lifetimeRealized =
        (w.run steps).stored.row.totalRealizedPnl + ((e.booked .lifetime).map (·.pnl)).sum := by
  have h : Booked False [] (w.run steps) :=
    List.foldlRecOn steps World.step (hw.booked False) fun _ hv step _ =>
      step_keeps hv step False.elim
  exact ⟨h.once, fun e he => (h.engine e he).lifetime⟩

theorem of_booked (h : Booked True [] w) : BookedOnce w := by
  intro e he account p
  have hle : timesBooked (e.booked account) p ≤ 1 :=
    (timesBooked_le ((h.engine e he).sublist account) p).trans (h.once p)
  refine ⟨hle, fun hp => ?_⟩
  have hpos := h.accounted trivial p hp e he account
  omega

theorem not_of_unclean (h : Booked True [] w) {step : SettlementStep}
    (hstep : ¬ RestartClean w step) : ¬ BookedOnce (w.step step) := by
  cases step with
  | call c answers => exact absurd trivial hstep
  | restart boot =>
    simp only [RestartClean, not_forall, not_not] at hstep
    obtain ⟨e, he, p, hp⟩ := hstep
    intro honce
    have hcount := (honce e (by simp [World.step, he, Except.toOption]) .lifetime p).2 hp
    rw [(recoverState_ok he).2, h.lifetime] at hcount
    cases hcount

/-- **Exactly once, short of restarts.** Along a run every figure contains the profit of each
position at most once, and that of each accounted position exactly once, if and only if no
process comes up while a position is accounted. -/
theorem along_run_iff {w : World} (hw : Unbooked w) (steps : List SettlementStep) :
    Transition.Along World.step BookedOnce w steps ↔
      Transition.Meets (fun v step => some (World.step v step)) RestartClean w steps :=
  Transition.along_iff_meets (Booked True []) (fun _ h => of_booked h)
    (fun _ step h hstep => step_keeps h step fun _ => hstep)
    (fun _ _ h hstep => not_of_unclean h hstep)
    (hw.booked True)

theorem liveWorld_unbooked : Unbooked liveWorld where
  engine := rfl
  added := rfl
  stored := fun _ => rfl
  accounted := by
    rintro p ⟨row, hrow, hacc⟩
    obtain rfl : row = livePosition :=
      List.mem_singleton.mp ((Table.get_eq_some_iff _).mp hrow).1
    cases hacc

def ledgerUnreachable : List Answer :=
  [{}, {}, { redeem := some (.ok ⟨some "0xabc", false, some (1 / 100)⟩) }, {},
    { fault := .failed "connection closed" }]

/-- The accounting fails at first; the retry books the position once in every figure. -/
theorem along_run_iff_retried :
    let w := liveWorld.run [.restart firstBoot, .call (.settleMarket winRequest) ledgerUnreachable,
      .call .retryPending []]
    w.positions.Holds ⟨1⟩ Accounted ∧
      ∃ e, w.engine = some e ∧ ∀ account, timesBooked (e.booked account) ⟨1⟩ = 1 := by
  intro w
  have hclean : RestartClean liveWorld (.restart firstBoot) :=
    fun _ _ => liveWorld_unbooked.accounted
  have hrun := (along_run_iff liveWorld_unbooked
    [.restart firstBoot, .call (.settleMarket winRequest) ledgerUnreachable,
      .call .retryPending []]).mpr ⟨hclean, trivial, trivial, trivial⟩
  have honce : BookedOnce w := hrun.last
  have hacc : (w.positions.get ⟨1⟩).any (fun row => Accounted row) = true := by decide +kernel
  have hengine : w.engine.isSome = true := by decide +kernel
  rw [Option.any_eq_true] at hacc
  obtain ⟨row, hrow, hacc⟩ := hacc
  obtain ⟨e, he⟩ := Option.isSome_iff_exists.mp hengine
  have hholds : w.positions.Holds ⟨1⟩ Accounted := ⟨row, hrow, of_decide_eq_true hacc⟩
  exact ⟨hholds, e, he, fun account => (honce e he account ⟨1⟩).2 hholds⟩

/-- The accounting fails, the process comes up again, and the retry books the position. -/
theorem added_at_most_once_restarted :
    let w := liveWorld.run [.restart firstBoot, .call (.settleMarket winRequest) ledgerUnreachable,
      .restart firstBoot, .call .retryPending []]
    timesBooked w.added ⟨1⟩ = 1 ∧ ∀ p, timesBooked w.added p ≤ 1 :=
  ⟨by decide +kernel, (added_at_most_once liveWorld_unbooked _).1⟩

/-- Everything succeeds and the position is accounted; after a restart the lifetime total is
that of the seeded row. -/
theorem restart_loses_lifetime :
    let w := liveWorld.run [.restart firstBoot,
      .call (.settleMarket winRequest) (ledgerUnreachable.take 3), .restart firstBoot]
    (w.positions.get ⟨1⟩).map (fun row => (row.settlementAccountingStatus, row.realizedPnl)) =
        some (.accounted, 99 / 100) ∧
      w.engine.map (fun e => (e.lifetimeRealized, timesBooked (e.booked .lifetime) ⟨1⟩)) =
        some (0, 0) ∧
      ¬ BookedOnce w := by
  intro w
  have hrow : (w.positions.get ⟨1⟩).map
      (fun row => (row.settlementAccountingStatus, row.realizedPnl)) =
        some (.accounted, 99 / 100) := by decide +kernel
  have hengine : w.engine.map
      (fun e => (e.lifetimeRealized, timesBooked (e.booked .lifetime) ⟨1⟩)) = some (0, 0) := by
    decide +kernel
  refine ⟨hrow, hengine, fun honce => ?_⟩
  obtain ⟨row, hget, hpair⟩ := Option.map_eq_some_iff.mp hrow
  obtain ⟨e, he, hzero⟩ := Option.map_eq_some_iff.mp hengine
  have hone := (honce e he .lifetime ⟨1⟩).2 ⟨row, hget, congrArg Prod.fst hpair⟩
  exact absurd (hone.symm.trans (congrArg Prod.snd hzero)) Nat.one_ne_zero

end BookedOnce

end OxideArb
