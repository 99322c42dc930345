import OxideArb.Settlement.Service

/-!
# Live positions are redeemed before they are settled

A live position should be written as redeemed and accounted only after its redeem on chain
succeeded (`Justified`). Once a failed attempt has left the row `Failed`, the next settlement
redeems it in dry-run mode.
-/

namespace OxideArb

namespace LiveRedeem

/-! ## The property and the condition -/

def succeeds : Except RedeemError RedeemOutcome → Bool
  | .ok _ => true
  | .error error => error.isTerminalSuccessEquivalent

def redeemsOnChain (p : PositionId) : SettlementEvent → Bool
  | .attempted id .live result => id = p && succeeds result
  | _ => false

def failsRedeem (p : PositionId) : SettlementEvent → Bool
  | .attempted id _ result => id = p && !succeeds result
  | _ => false

def simulates (p : PositionId) : SettlementEvent → Bool
  | .attempted id mode (.ok _) => id = p && mode ≠ .live
  | _ => false

def settles (p : PositionId) : SettlementEvent → Bool
  | .redeemed id => id = p
  | .accounted id => id = p
  | _ => false

def OnChain (p : PositionId) (history : List SettlementEvent) : Prop :=
  history.any (redeemsOnChain p) = true

/-- An event in order: the row is written as redeemed or accounted only after a redeem on
chain, and a failed redeem is not followed by a simulated one. -/
def Justified (p : PositionId) (event : SettlementEvent) (earlier : List SettlementEvent) : Prop :=
  (settles p event = true → OnChain p earlier) ∧
    (simulates p event = true → earlier.any (failsRedeem p) = false)

/-- The condition on the rows that settlements and retried accountings are entered with:
`settle_position` finds the attempts used up, or the row pending, or the row not failed
and no failed redeem before; an accounting is not retried for a failed row. -/
def Admissible (p : PositionId) (event : SettlementEvent) (earlier : List SettlementEvent) : Prop :=
  match event with
  | .entered pos maxRedeemAttempts =>
    pos.positionId = p →
      pos.redeemAttempts ≥ i32OfU32 maxRedeemAttempts ∨ pos.redeemStatus = .pending ∨
        pos.redeemStatus ≠ .failed ∧ earlier.any (failsRedeem p) = false
  | .retried pos => pos.positionId = p → pos.redeemStatus ≠ .failed
  | _ => True

def SaysRedeemed (row : PositionInfo) : Prop :=
  row.redeemStatus = .completed ∨ row.redeemStatus = .notRequired ∨
    row.settlementAccountingStatus = .redeemed ∨ row.settlementAccountingStatus = .accounted ∨
    row.status = .settled

def OpenedLive (row : PositionInfo) : Prop :=
  row.redeemStatus = .initialForMode .live ∧ row.status = .opened ∧
    row.settlementAccountingStatus = .pending

instance (p : PositionId) (history : List SettlementEvent) : Decidable (OnChain p history) :=
  inferInstanceAs (Decidable (_ = _))

instance (p : PositionId) (e : SettlementEvent) (earlier : List SettlementEvent) :
    Decidable (Justified p e earlier) :=
  inferInstanceAs (Decidable (_ ∧ _))

instance (p : PositionId) (e : SettlementEvent) (earlier : List SettlementEvent) :
    Decidable (Admissible p e earlier) := by
  unfold Admissible
  split <;> infer_instance

variable {row : PositionInfo} {history : List SettlementEvent}

theorem saysRedeemed_of_ne (hp : row.redeemStatus ≠ .pending) (hf : row.redeemStatus ≠ .failed) :
    SaysRedeemed row := by
  cases hst : row.redeemStatus with
  | notRequired => exact .inr (.inl hst)
  | completed => exact .inl hst
  | pending => exact absurd hst hp
  | failed => exact absurd hst hf

theorem OnChain.append {p : PositionId} (h : OnChain p history) (events : List SettlementEvent) :
    OnChain p (events ++ history) := by
  unfold OnChain at *
  rw [List.any_append, h, Bool.or_true]

/-! ## The invariant -/

structure RowGood (p : PositionId) (history : List SettlementEvent) (row : PositionInfo) :
    Prop where
  redeemed : SaysRedeemed row → OnChain p history
  pending : row.redeemStatus = .pending → row.settlementAccountingStatus ≠ .failed

def Left (p : PositionId) (db : PositionDb) : Prop := db.Holds p (·.redeemStatus ≠ .pending)

structure HandGood (p : PositionId) (db : PositionDb) (history : List SettlementEvent)
    (pos : PositionInfo) : Prop where
  redeemed : SaysRedeemed pos → OnChain p history
  failed : pos.settlementAccountingStatus = .failed → pos.redeemStatus ≠ .pending ∧ Left p db

structure Good (p : PositionId) (hand : List PositionInfo) (db : PositionDb)
    (history : List SettlementEvent) : Prop where
  justified : Log.Every (Justified p) history
  row : db.Holds p (RowGood p history)
  hand : ∀ pos ∈ hand, pos.positionId = p → HandGood p db history pos

def Inv (p : PositionId) (hand : List PositionInfo) (w : World) : Prop :=
  Log.Every (Admissible p) w.history → Good p hand w.positions w.history

theorem RowGood.append {p : PositionId} (h : RowGood p history row) (events : List SettlementEvent) :
    RowGood p (events ++ history) row :=
  ⟨fun hs => (h.redeemed hs).append events, h.pending⟩

theorem Good.append {p : PositionId} {hand : List PositionInfo} {db : PositionDb}
    (h : Good p hand db history) (events : List SettlementEvent)
    (hj : Log.Every (Justified p) (events ++ history)) : Good p hand db (events ++ history) where
  justified := hj
  row := h.row.imp fun _ hr => hr.append events
  hand := fun pos hpos hid =>
    ⟨fun hs => ((h.hand pos hpos hid).redeemed hs).append events, (h.hand pos hpos hid).failed⟩

theorem Good.patch {p id : PositionId} {hand : List PositionInfo} {db db' : PositionDb}
    {events : List SettlementEvent} (h : Good p hand db history) {f : PositionInfo.Patch}
    (hpatch : db.patch id f = some (row, db')) (hj : Log.Every (Justified p) (events ++ history))
    (hrow : id = p → ∀ old, db.get p = some old → RowGood p history old →
      RowGood p (events ++ history) (f.run old))
    (hleft : ∀ old, old.redeemStatus ≠ .pending → (f.run old).redeemStatus ≠ .pending) :
    Good p hand db' (events ++ history) := by
  refine ⟨hj, PositionDb.Holds.patch hpatch h.row hrow fun _ hr => hr.append events,
    fun pos hpos hid => ?_⟩
  have hg := h.hand pos hpos hid
  refine ⟨fun hs => (hg.redeemed hs).append events, fun hf => ⟨(hg.failed hf).1, ?_⟩⟩
  exact PositionDb.Holds.patch hpatch (hg.failed hf).2 (fun _ old _ hne => hleft old hne)
    fun _ hne => hne

/-! ## What the steps of a settlement keep -/

section Steps

open Prog Service

variable {p : PositionId} {hand : List PositionInfo}

def Redeemed (p id : PositionId) (w : World) : Prop :=
  Log.Every (Admissible p) w.history → id = p → OnChain p w.history

def Ready (p id : PositionId) (w : World) : Prop :=
  Redeemed p id w ∧ (Log.Every (Admissible p) w.history → id = p → Left p w.positions)

theorem Inv.log {w : World} (h : Inv p hand w) {event : SettlementEvent}
    (hj : Log.Every (Admissible p) (event :: w.history) → Good p hand w.positions w.history →
      Justified p event w.history) :
    Inv p hand { w with history := event :: w.history } := by
  intro hadm
  have hgood := h hadm.earlier
  exact hgood.append [event] ⟨hj hadm hgood, hgood.justified⟩

variable (req : MarketSettlementRequest) (id : PositionId)

theorem markRedeemTerminal_keeps (attempts : Nat) (winningTokenId : TokenId)
    (source : SettlementTrigger) (reason : String) :
    (markRedeemTerminal id attempts winningTokenId source reason).Spec (Inv p hand)
      (fun _ => Inv p hand) (fun _ => Inv p hand) := by
  refine patchPosition_spec (fun a w row db hw hpatch hadm => ?_) (fun _ h => h) (fun _ _ h => h)
  refine (hw hadm).patch hpatch (hw hadm).justified (fun _ old _ hold => ⟨?_, ?_⟩) ?_
  · rintro (h | h | h | h | h)
    · cases h
    · cases h
    · cases h
    · cases h
    · exact hold.redeemed (.inr (.inr (.inr (.inr h))))
  · intro h
    cases h
  · intro _ _ h
    cases h

theorem recordRedeemFailure_keeps (attempts : Nat) (winningTokenId : TokenId)
    (source : SettlementTrigger) :
    (recordRedeemFailure id attempts winningTokenId source).Spec (Inv p hand)
      (fun _ => Inv p hand) (fun _ => Inv p hand) := by
  refine patchPosition_spec (fun a w row db hw hpatch hadm => ?_) (fun _ h => h) (fun _ _ h => h)
  refine (hw hadm).patch hpatch (hw hadm).justified (fun _ old _ hold => ⟨?_, ?_⟩) ?_
  · rintro (h | h | h)
    · cases h
    · cases h
    · exact hold.redeemed (.inr (.inr h))
  · intro h
    cases h
  · intro _ _ h
    cases h

theorem markRedeemed_ready {params : MarkRedeemedParams} (hparams : params.redeemStatus ≠ .pending) :
    (markRedeemed id params).Spec (fun w => Inv p hand w ∧ Redeemed p id w)
      (fun settled w => settled.positionId = id ∧ Inv p hand w ∧ Ready p id w)
      (fun _ => Inv p hand) := by
  refine patchPosition_spec (fun a w row db hw hpatch => ?_) (fun _ h => h.1) (fun _ _ h => h.2.1)
  obtain ⟨old, hold, rfl, hnew⟩ := PositionDb.patch_eq_some hpatch
  have hdone : Log.Every (Admissible p) w.history → id = p → OnChain p w.history := hw.2
  refine ⟨(Table.get_eq_some_iff _).mp hold |>.2, fun hadm => ?_, fun hadm hid => ?_,
    fun _ hid => ?_⟩
  · have hgood := hw.1 hadm.earlier
    refine hgood.patch hpatch ⟨⟨fun h => ?_, fun h => ?_⟩, hgood.justified⟩
      (fun hid _ _ _ => ⟨fun _ => (hdone hadm.earlier hid).append [_], fun h => absurd h hparams⟩)
      (fun _ _ => hparams)
    · exact hdone hadm.earlier (of_decide_eq_true h)
    · cases h
  · exact (hdone hadm.earlier hid).append [_]
  · exact ⟨_, hid ▸ hnew, hparams⟩

theorem markAccounted_keeps :
    (markAccounted id).Spec (fun w => Inv p hand w ∧ Ready p id w) (fun _ => Inv p hand)
      (fun _ => Inv p hand) := by
  refine patchPosition_spec (fun a w row db hw hpatch hadm => ?_) (fun _ h => h.1) (fun _ _ h => h)
  have hgood := hw.1 hadm.earlier
  have hdone : id = p → OnChain p w.history := hw.2.1 hadm.earlier
  refine hgood.patch hpatch ⟨⟨fun h => ?_, fun h => ?_⟩, hgood.justified⟩
    (fun hid _ _ _ => ⟨fun _ => (hdone hid).append [_], fun _ h => ?_⟩) (fun _ h => h)
  · exact hdone (of_decide_eq_true h)
  · cases h
  · cases h

theorem markAccountingFailed_keeps (error : String) :
    (markAccountingFailed id error).Spec (fun w => Inv p hand w ∧ Ready p id w)
      (fun _ => Inv p hand) (fun _ => Inv p hand) := by
  refine patchPosition_spec (fun a w row db hw hpatch hadm => ?_) (fun _ h => h.1) (fun _ _ h => h)
  refine (hw.1 hadm).patch hpatch (hw.1 hadm).justified (fun hid old hget hold => ⟨?_, fun h => ?_⟩)
    (fun _ h => h)
  · rintro (h | h | h | h | h)
    · exact hold.redeemed (.inl h)
    · exact hold.redeemed (.inr (.inl h))
    · cases h
    · cases h
    · exact hold.redeemed (.inr (.inr (.inr (.inr h))))
  · -- the row has left `Pending`
    obtain ⟨r, hr, hne⟩ := hw.2.2 hadm hid
    obtain rfl : old = r := Option.some.inj (hget.symm.trans hr)
    exact absurd h hne

theorem applyRiskSettlement_keeps (settled : PositionInfo) (economics : SettlementEconomics) :
    (applyRiskSettlement settled economics).Spec
      (fun w => Inv p hand w ∧ Ready p settled.positionId w) (fun _ => Inv p hand)
      (fun _ => Inv p hand) := by
  -- the program of the risk engine touches neither the rows nor the history
  have hframe := onMarketSettled_frame
    (P := fun db history => (Log.Every (Admissible p) history → Good p hand db history) ∧
      (Log.Every (Admissible p) history → settled.positionId = p → OnChain p history) ∧
      (Log.Every (Admissible p) history → settled.positionId = p → Left p db))
    settled.positionId settled.tradeId economics.realizedPnlUsd
  refine Spec.bind (R := fun _ w => Inv p hand w ∧ Ready p settled.positionId w)
    (Spec.attempt (hframe.post (fun _ _ h => h) fun e w h => ?_)) fun report => ?_
  · cases e with
    | failed error => exact h
    | killed => exact h.1
  · cases report with
    | ok =>
      exact Spec.bind (R := fun _ => Inv p hand) (markAccounted_keeps _) fun _ =>
        Spec.pure fun _ h => h
    | error error =>
      exact Spec.bind (R := fun _ => Inv p hand) (markAccountingFailed_keeps _ _) fun _ =>
        Spec.throw fun _ h => h

/-- A row that `settle_position` may redeem: it is pending, or neither failed nor with a
failed redeem before. -/
def MayRedeem (p : PositionId) (pos : PositionInfo) (w : World) : Prop :=
  Log.Every (Admissible p) w.history → pos.positionId = p →
    pos.redeemStatus = .pending ∨
      pos.redeemStatus ≠ .failed ∧ w.history.any (failsRedeem p) = false

variable {pos : PositionInfo}

theorem positionRedeemMode_eq_live_iff :
    positionRedeemMode pos = .live ↔ pos.redeemStatus = .pending := by
  unfold positionRedeemMode
  cases pos.redeemStatus <;> simp

theorem logAttempt_spec (hpos : pos ∈ hand) (result : Except RedeemError RedeemOutcome) :
    (log (.attempted pos.positionId (positionRedeemMode pos) result)).Spec
      (fun w => Inv p hand w ∧ MayRedeem p pos w)
      (fun _ w => Inv p hand w ∧ (succeeds result = true → Redeemed p pos.positionId w))
      (fun _ => Inv p hand) := by
  refine Spec.modify fun w hw => ⟨hw.1.log fun hadm _ => ⟨fun h => ?_, fun h => ?_⟩,
    fun hsucc hadm hid => ?_⟩
  · cases h
  · -- a simulated redeem is one of a row that is not pending
    cases result with
    | error error => cases h
    | ok outcome =>
      simp only [simulates, Bool.and_eq_true, decide_eq_true_eq] at h
      rcases hw.2 hadm.earlier h.1 with hp | hp
      · exact absurd (positionRedeemMode_eq_live_iff.mpr hp) h.2
      · exact hp.2
  · by_cases hpend : pos.redeemStatus = .pending
    · rw [positionRedeemMode_eq_live_iff.mpr hpend]
      simp [OnChain, redeemsOnChain, hid, hsucc]
    · have hnot := ((hw.2 hadm.earlier hid).resolve_left hpend).1
      have hhand := (hw.1 hadm.earlier).hand pos hpos hid
      exact (hhand.redeemed (saysRedeemed_of_ne hpend hnot)).append [_]

theorem redeem_spec (hpos : pos ∈ hand) :
    (redeem req pos).Spec (fun w => Inv p hand w ∧ MayRedeem p pos w)
      (fun result w => Inv p hand w ∧ (succeeds result = true → Redeemed p pos.positionId w))
      (fun _ => Inv p hand) := by
  refine Spec.bind (R := fun _ w => Inv p hand w ∧ MayRedeem p pos w) (Spec.next fun _ _ hw => hw)
    fun a => ?_
  dsimp only
  split
  · exact Spec.throw fun _ hw => hw.1
  · refine Spec.bind (logAttempt_spec hpos _) fun _ => ?_
    split
    · exact Spec.throw fun _ hw => hw.1
    · exact Spec.pure fun _ hw => hw

theorem redeemOrRecordFailure_spec (hpos : pos ∈ hand) :
    (redeemOrRecordFailure req pos).Spec (fun w => Inv p hand w ∧ MayRedeem p pos w)
      (fun redeemed w => Inv p hand w ∧ (redeemed.isSome → Redeemed p pos.positionId w))
      (fun _ => Inv p hand) := by
  refine Spec.bind (redeem_spec req hpos) fun result => ?_
  cases result with
  | ok outcome => exact Spec.pure fun _ hw => ⟨hw.1, fun _ => hw.2 rfl⟩
  | error error =>
    dsimp only
    split
    · rename_i heq
      exact Spec.pure fun _ hw => ⟨hw.1, fun _ => hw.2 heq⟩
    · refine Spec.bind (R := fun _ => Inv p hand) ?_ fun _ => Spec.pure fun _ hw => ⟨hw, nofun⟩
      exact Spec.bind (R := fun _ => Inv p hand)
        ((recordRedeemFailure_keeps _ _ _ _).pre fun _ hw => hw.1) fun _ => Spec.pure fun _ hw => hw

theorem redeemAndSettle_keeps (hpos : pos ∈ hand) :
    (redeemAndSettle req pos).Spec (fun w => Inv p hand w ∧ MayRedeem p pos w)
      (fun _ => Inv p hand) (fun _ => Inv p hand) := by
  refine Spec.bind (redeemOrRecordFailure_spec req hpos) fun redeemed => ?_
  cases redeemed with
  | none => exact Spec.pure fun _ hw => hw.1
  | some outcome =>
    refine Spec.bind ((markRedeemed_ready pos.positionId ?_).pre fun w hw => ⟨hw.1, hw.2 rfl⟩)
      fun settled => Spec.of_and fun hid => ?_
    · dsimp only
      cases positionRedeemMode pos <;> exact nofun
    · rw [← hid]
      exact applyRiskSettlement_keeps settled _

theorem settlePosition_keeps (hpos : pos ∈ hand) :
    (settlePosition req pos).Spec (Inv p hand) (fun _ => Inv p hand) (fun _ => Inv p hand) := by
  refine Spec.bind (R := fun _ => Inv p hand) (Spec.next fun _ _ hw => hw) fun a => ?_
  have hlog : (log (.entered pos a.maxRedeemAttempts)).Spec (Inv p hand)
      (fun _ w => Inv p hand w ∧
        (pos.redeemAttempts < i32OfU32 a.maxRedeemAttempts → MayRedeem p pos w))
      (fun _ => Inv p hand) := by
    refine Spec.modify fun w hw => ⟨hw.log fun _ _ => ⟨nofun, nofun⟩, fun hlt hadm hid => ?_⟩
    rcases hadm.newest hid with h | h | h
    · exact absurd h (not_le.mpr hlt)
    · exact .inl h
    · exact .inr h
  refine Spec.bind hlog fun _ => ?_
  split
  · exact Spec.bind (R := fun _ => Inv p hand)
      ((markRedeemTerminal_keeps _ _ _ _ _).pre fun _ hw => hw.1) fun _ => Spec.throw fun _ hw => hw
  · rename_i hlt
    exact (redeemAndSettle_keeps req hpos).pre fun w hw => ⟨hw.1, hw.2 (not_le.mp hlt)⟩

theorem retryAccounting_keeps (hpos : pos ∈ hand)
    (hfailed : pos.settlementAccountingStatus = .failed) :
    (retryAccounting pos).Spec (Inv p hand) (fun _ => Inv p hand) (fun _ => Inv p hand) := by
  unfold retryAccounting
  cases pos.winningTokenId with
  | none => exact Spec.pure fun _ hw => hw
  | some winningTokenId =>
    refine Spec.bind (R := fun _ w => Inv p hand w ∧ Ready p pos.positionId w)
      (Spec.modify fun w hw => ⟨hw.log fun _ _ => ⟨nofun, nofun⟩, fun hadm hid => ?_,
        fun hadm hid => ?_⟩) fun _ => applyRiskSettlement_keeps pos _
    · have hhand := (hw hadm.earlier).hand pos hpos hid
      have hsays := saysRedeemed_of_ne (hhand.failed hfailed).1 (hadm.newest hid)
      exact (hhand.redeemed hsays).append [_]
    · exact (((hw hadm.earlier).hand pos hpos hid).failed hfailed).2

end Steps

/-! ## Every run -/

theorem rules (p : PositionId) : PositionRules (Inv p) where
  load := by
    intro hand rows w hw hrows hadm
    have hgood := hw hadm
    refine ⟨hgood.justified, hgood.row, fun pos hpos hid => ?_⟩
    rcases List.mem_append.mp hpos with hpos | hpos
    · obtain ⟨row, hrow, hr⟩ := hgood.row
      obtain rfl : pos = row := by
        have hget := (Table.get_eq_some_iff _).mpr ⟨hrows pos hpos, hid⟩
        exact Option.some.inj (hget.symm.trans hrow)
      have hne : pos.settlementAccountingStatus = .failed → pos.redeemStatus ≠ .pending :=
        fun hf hp => hr.pending hp hf
      exact ⟨hr.redeemed, fun hf => ⟨hne hf, pos, hrow, hne hf⟩⟩
    · exact hgood.hand pos hpos hid
  drop := fun hand rows w hw hadm =>
    ⟨(hw hadm).justified, (hw hadm).row,
      fun pos hpos => (hw hadm).hand pos (List.mem_append_right _ hpos)⟩
  settle := fun _ req _ hpos => settlePosition_keeps req hpos
  account := fun _ _ hpos hfailed => retryAccounting_keeps hpos hfailed
  stop := fun _ _ hw => hw

theorem run_inv (p : PositionId) (steps : List SettlementStep) {w : World} (hw : Inv p [] w) :
    Inv p [] (w.run steps) :=
  List.foldlRecOn steps World.step hw fun _ hv step _ => (rules p).step hv step fun _ _ => hv

/-- **A Live position is redeemed on chain before it is written as redeemed.** In every run
whose settlements and retried accountings are entered with admissible rows, each write of
the position as redeemed, or as accounted and settled, comes after a redeem on chain that
came back with success, no simulated redeem follows a failed one, and the row says it is
redeemed only after the redeem on chain. -/
theorem redeemed_before_settled (p : PositionId) (w : World) (steps : List SettlementStep)
    (hopen : w.positions.Holds p OpenedLive) (hnew : w.history = [])
    (hadm : Log.Every (Admissible p) (w.run steps).history) :
    Log.Every (Justified p) (w.run steps).history ∧
      ∀ row, (w.run steps).positions.get p = some row → SaysRedeemed row →
        OnChain p (w.run steps).history := by
  have hstart : Inv p [] w := by
    intro _
    rw [hnew]
    refine ⟨True.intro, hopen.imp ?_, fun pos hpos => absurd hpos List.not_mem_nil⟩
    rintro row ⟨hst, hopened, hacc⟩
    refine ⟨fun h => ?_, fun _ h => ?_⟩
    · simp [SaysRedeemed, hst, hopened, hacc, RedeemStatus.initialForMode] at h
    · rw [hacc] at h
      cases h
  have hgood := run_inv p steps hstart hadm
  refine ⟨hgood.justified, fun row hrow hsays => ?_⟩
  obtain ⟨r, hr, hrgood⟩ := hgood.row
  obtain rfl : row = r := Option.some.inj (hrow.symm.trans hr)
  exact hrgood.redeemed hsays

def redeemSucceeds : List Answer :=
  [{}, {}, { redeem := some (.ok ⟨some "0xabc", false, some (1 / 100)⟩) }]

/-- A position whose redeem succeeds is settled after it. -/
theorem redeemed_before_settled_success :
    let w := liveWorld.run [.restart firstBoot, .call (.settleMarket winRequest) redeemSucceeds]
    w.positions.Holds ⟨1⟩ (·.status = .settled) ∧ Log.Every (Justified ⟨1⟩) w.history ∧
      OnChain ⟨1⟩ w.history := by
  intro w
  have h := redeemed_before_settled ⟨1⟩ liveWorld
    [.restart firstBoot, .call (.settleMarket winRequest) redeemSucceeds]
    ⟨livePosition, rfl, rfl, rfl, rfl⟩ rfl (by decide +kernel)
  have hst : (w.positions.get ⟨1⟩).map (·.status) = some .settled := by decide +kernel
  obtain ⟨row, hrow, hst⟩ := Option.map_eq_some_iff.mp hst
  exact ⟨⟨row, hrow, hst⟩, h.1, h.2 row hrow (.inr (.inr (.inr (.inr hst))))⟩

def redeemTimesOut : List Answer :=
  [{}, {}, { redeem := some (.error (.rpcTimeout "no reply")) }]

/-- The redeem times out, and the next retry settles the position without any redeem on
chain. -/
theorem timed_out_redeem_settled :
    let w := liveWorld.run [.restart firstBoot,
      .call (.settleMarket winRequest) redeemTimesOut, .call .retryPending []]
    liveWorld.positions.get ⟨1⟩ = some livePosition ∧
      livePosition.redeemStatus = .initialForMode .live ∧
      (w.positions.get ⟨1⟩).map (fun row => (row.status, row.settlementAccountingStatus)) =
        some (.settled, .accounted) ∧
      ¬ OnChain ⟨1⟩ w.history ∧ ¬ Log.Every (Justified ⟨1⟩) w.history := by
  decide +kernel

end LiveRedeem

end OxideArb
