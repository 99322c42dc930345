import Mathlib.Data.List.Sort
import OxideArb.Lib.Prog
import OxideArb.Lib.Transition
import OxideArb.Risk.Engine
import OxideArb.Settlement.PositionRepository
import OxideArb.Settlement.Redemption

/-!
# The settlement service

`settle_market` and `retry_pending` are programs over a `World`, fed by the answers of the
environment. The history is a ghost. `PositionRules` says what an invariant has to satisfy for
each position, and `PositionRules.runCall` that then every call keeps it.
-/

namespace OxideArb

/-! ## The world of the service -/

inductive SettlementEvent
  /-- `settle_position` was entered with this row and this maximum. -/
  | entered (pos : PositionInfo) (maxRedeemAttempts : Nat)
  | retried (pos : PositionInfo)
  | attempted (id : PositionId) (mode : ExecutionMode) (result : Except RedeemError RedeemOutcome)
  | redeemed (id : PositionId)
  | accounted (id : PositionId)

/-- The database, the engine in memory (`none` while no process runs) and the ghosts: every
addition ever made to the engine's figures, and the history. -/
structure World where
  positions : PositionDb
  ledger : PotentialLossDb
  stored : StoredRiskState
  engine : Option RiskEngine
  added : List Booking
  history : List SettlementEvent

inductive StorageFault
  | none
  | failed (text : String)
  | lostReply (text : String)
  | stopBefore
  | stopAfter
deriving DecidableEq, Repr

/-- What the environment answers to one interaction; each interaction reads the part it
asks for. Queries without an order return their rows by `rank`. -/
structure Answer where
  fault : StorageFault := .none
  now : DateTime := 0
  rank : PositionId → Nat := fun _ => 0
  resolvedMarkets : List MarketId := []
  maxRedeemAttempts : Nat := 5
  market : Option SettlementMarket := none
  redeem : Option (Except RedeemError RedeemOutcome) := none
  wsEvent : Option String := none
  anyEvent : Option String := none
  oracle : Option Bool := none

instance : Inhabited Answer := ⟨{}⟩

inductive ServiceError
  | storage (text : String)
  | notFound (entity id : String)
  | internal (text : String)
deriving DecidableEq, Repr

def ServiceError.text : ServiceError → String
  | .storage text => text
  | .notFound entity id => s!"Entity not found: {entity} with id {id}"
  | .internal text => s!"Internal error: {text}"

inductive Stop
  | failed (error : ServiceError)
  | killed
deriving DecidableEq, Repr

def Stop.error? : Stop → Option ServiceError
  | .failed error => some error
  | .killed => none

abbrev Service (α : Type) := Prog Answer World Stop α

namespace Service

def storage {α : Type} (f : Answer → World → Except ServiceError α × World) : Service α := do
  let a ← Prog.next
  match a.fault with
  | .none => Prog.act fun w => ((f a w).1.mapError Stop.failed, (f a w).2)
  | .failed text => Prog.throw (.failed (.storage text))
  | .lostReply text => Prog.act fun w => (.error (.failed (.storage text)), (f a w).2)
  | .stopBefore => Prog.throw .killed
  | .stopAfter => Prog.act fun w => (.error .killed, (f a w).2)

def query (f : Answer → PositionDb → List PositionInfo) : Service (List PositionInfo) :=
  storage fun a w =>
    (.ok ((f a w.positions).insertionSort fun r s => a.rank r.positionId ≤ a.rank s.positionId), w)

def log (event : SettlementEvent) : Service Unit :=
  Prog.modify fun w => { w with history := event :: w.history }

variable (req : MarketSettlementRequest) (pos : PositionInfo) (id : PositionId)

def patchPosition (f : Answer → PositionInfo.Patch) (events : List SettlementEvent) :
    Service PositionInfo :=
  storage fun a w =>
    match w.positions.patch id (f a) with
    | none => (.error (.notFound "position" (toString id.raw)), w)
    | some (row, positions) => (.ok row, { w with positions, history := events ++ w.history })

def markRedeemed (params : MarkRedeemedParams) : Service PositionInfo :=
  patchPosition id (fun _ => ⟨.markRedeemed params, fun _ => rfl, fun _ => rfl⟩) [.redeemed id]

def markAccounted : Service PositionInfo :=
  patchPosition id (fun a => ⟨.markAccounted a.now, fun _ => rfl, fun _ => rfl⟩) [.accounted id]

def markAccountingFailed (error : String) : Service PositionInfo :=
  patchPosition id (fun _ => ⟨.markAccountingFailed error, fun _ => rfl, fun _ => rfl⟩) []

def recordRedeemFailure (attempts : Nat) (winningTokenId : TokenId) (source : SettlementTrigger) :
    Service PositionInfo :=
  patchPosition id
    (fun _ => ⟨.recordRedeemFailure attempts winningTokenId source, fun _ => rfl, fun _ => rfl⟩) []

def markRedeemTerminal (attempts : Nat) (winningTokenId : TokenId) (source : SettlementTrigger)
    (reason : String) : Service PositionInfo :=
  patchPosition id
    (fun _ => ⟨.markRedeemTerminal attempts winningTokenId source reason, fun _ => rfl,
      fun _ => rfl⟩) []

/-! ## Accounting -/

/-- `persist_settlement_potential_loss`: resolve the ledger entry of the trade. -/
def persistSettlementPotentialLoss (tradeId : TradeId) : Service Unit :=
  storage fun _ w =>
    match w.ledger.resolve tradeId with
    | (true, ledger) => (.ok (), { w with ledger })
    | (false, _) => (.error (.notFound "potential_loss_ledger" (toString tradeId.raw)), w)

/-- `apply_trade_result`: the profit is added to the figures in memory. -/
def applyTradeResult (position : PositionId) (tradeId : TradeId) (netProfit : Usd) :
    Service Unit := do
  let a ← Prog.next
  Prog.modify fun w =>
    { w with
      engine := w.engine.map fun e => e.applySettlement a.now position tradeId netProfit
      added := ⟨position, netProfit⟩ :: w.added }

/-- `upsert_state`: the figures in memory are stored. -/
def upsertState : Service Unit :=
  storage fun a w =>
    match w.engine with
    | none => (.ok (), w)
    | some e => (.ok (), { w with stored := w.stored.upsert (e.snapshot a.now) e.booked a.now })

def createAudit : Service Unit := storage fun _ w => (.ok (), w)

/-- `on_market_settled`, the settlement phase of `on_trade_result`. -/
def onMarketSettled (position : PositionId) (tradeId : TradeId) (realizedPnlUsd : Usd) :
    Service Unit := do
  persistSettlementPotentialLoss tradeId
  applyTradeResult position tradeId realizedPnlUsd
  upsertState
  createAudit

def applyRiskSettlement (settled : PositionInfo) (economics : SettlementEconomics) :
    Service Unit := do
  let report ← Prog.attempt Stop.error?
    (onMarketSettled settled.positionId settled.tradeId economics.realizedPnlUsd)
  match report with
  | .ok () => do
    let _ ← markAccounted settled.positionId
    pure ()
  | .error error => do
    let _ ← markAccountingFailed settled.positionId error.text
    Prog.throw (.failed error)

/-! ## Settling -/

/-- `redeem_position` as a step: the result enters the history. The process may stop before
the redeem or after it. -/
def redeem : Service (Except RedeemError RedeemOutcome) := do
  let a ← Prog.next
  let result := redeemPosition req pos a.market a.redeem
  if a.fault = .stopBefore then Prog.throw .killed
  else do
    log (.attempted pos.positionId (positionRedeemMode pos) result)
    if a.fault = .stopAfter then Prog.throw .killed else pure result

def recordRedeemAttemptFailure : Service Unit := do
  let attempts := u32OfI32 u32Max (min (pos.redeemAttempts + 1) i32Max)
  let _ ← recordRedeemFailure pos.positionId attempts req.winningTokenId req.source
  pure ()

def redeemOrRecordFailure : Service (Option RedeemOutcome) := do
  let result ← redeem req pos
  match result with
  | .ok outcome => pure (some outcome)
  | .error error =>
    if error.isTerminalSuccessEquivalent then pure (some .dryRun)
    else do
      recordRedeemAttemptFailure req pos
      pure none

def persistPositionSettlement (economics : SettlementEconomics) (outcome : RedeemOutcome) :
    Service PositionInfo :=
  markRedeemed pos.positionId
    { winningTokenId := req.winningTokenId
      settlementPayoutUsd := economics.payoutUsd
      realizedPnl := economics.realizedPnlUsd
      redeemTxHash := outcome.txHash
      redeemStatus := .settledForMode (positionRedeemMode pos)
      settlementTrigger := req.source
      redeemTerminalReason := none
      redeemGasPaidUsd := outcome.gasPaidUsd }

/-- The branch of `settle_position` for a position whose attempts are used up. -/
def giveUpRedeem (maxRedeemAttempts : Nat) : Service Unit := do
  let _ ← markRedeemTerminal pos.positionId (u32OfI32 u32Max pos.redeemAttempts)
    req.winningTokenId req.source
    s!"redeem max attempts reached: {pos.redeemAttempts} >= {maxRedeemAttempts}"
  Prog.throw (.failed (.internal "redeem max attempts reached"))

/-- The branch of `settle_position` that redeems and settles. -/
def redeemAndSettle : Service Unit := do
  let redeemed ← redeemOrRecordFailure req pos
  match redeemed with
  | none => pure ()
  | some outcome => do
    let economics := computeSettlementEconomics pos (outcome.gasPaidUsd.getD 0) req.winningTokenId
    let settled ← persistPositionSettlement req pos economics outcome
    applyRiskSettlement settled economics

def settlePosition : Service Unit := do
  let a ← Prog.next
  log (.entered pos a.maxRedeemAttempts)
  if pos.redeemAttempts ≥ i32OfU32 a.maxRedeemAttempts then
    giveUpRedeem req pos a.maxRedeemAttempts
  else redeemAndSettle req pos

def settleMarket : Service Unit := do
  let positions ← query fun _ db => db.findOpenByMarket req.marketId
  Prog.forEach positions (settlePosition req)

/-! ## Retrying -/

def retryRequest (position : PositionInfo) (winningTokenId : TokenId) : MarketSettlementRequest :=
  { marketId := position.marketId, winningTokenId, source := .periodicRetry }

def retryResolved (position : PositionInfo) : Service Unit := do
  let a ← Prog.next
  match winningTokenForRetry position a.wsEvent a.anyEvent a.market a.oracle with
  | none => pure ()
  | some winningTokenId => settleMarket (retryRequest position winningTokenId)

def retryRedeem (position : PositionInfo) : Service Unit :=
  match position.winningTokenId with
  | none => pure ()
  | some winningTokenId => settleMarket (retryRequest position winningTokenId)

def retryAccounting (position : PositionInfo) : Service Unit :=
  match position.winningTokenId with
  | none => pure ()
  | some winningTokenId => do
    log (.retried position)
    applyRiskSettlement position
      (computeSettlementEconomics position (position.redeemGasPaidUsd.getD 0) winningTokenId)

/-- The first loop of `retry_pending`. -/
def retryResolvedMarkets : Service Unit := do
  let positions ← query fun a db => db.findOpenForResolvedMarkets a.resolvedMarkets
  Prog.forEach (positions.take 1024) retryResolved

/-- The second loop of `retry_pending`. -/
def retryRedeems : Service Unit := do
  let a ← Prog.next
  let positions ← query fun _ db => db.findRedeemRetryCandidates a.maxRedeemAttempts
  Prog.forEach positions retryRedeem

/-- The third loop of `retry_pending`. -/
def retryAccountings : Service Unit := do
  let a ← Prog.next
  let positions ← query fun _ db => db.findAccountingRetryCandidates a.maxRedeemAttempts
  Prog.forEach positions retryAccounting

def retryPending : Service Unit := do
  retryResolvedMarkets
  retryRedeems
  retryAccountings

end Service

/-! ## Runs -/

inductive SettlementCall
  | settleMarket (req : MarketSettlementRequest)
  | retryPending
deriving DecidableEq, Repr

def SettlementCall.program : SettlementCall → Service Unit
  | .settleMarket req => Service.settleMarket req
  | .retryPending => Service.retryPending

/-- A step of a run: a call with the answers it meets, or a restart of the process. -/
inductive SettlementStep
  | call (c : SettlementCall) (answers : List Answer)
  | restart (boot : Boot)

namespace World

def runCall (w : World) (c : SettlementCall) (answers : List Answer) : World :=
  match c.program w answers with
  | (.error .killed, w', _) => { w' with engine := none }
  | (_, w', _) => w'

/-- A step. Without a running process a call does nothing; a restart whose recovery fails
leaves no process. -/
def step (w : World) : SettlementStep → World
  | .call c answers => if w.engine.isSome then w.runCall c answers else w
  | .restart boot =>
    { w with engine := (recoverState boot w.stored w.ledger.findActive).toOption }

def run (w : World) (steps : List SettlementStep) : World := steps.foldl step w

end World

/-! ## A world with one position -/

def livePosition : PositionInfo :=
  { positionId := ⟨1⟩, tradeId := ⟨1⟩, marketId := ⟨"m"⟩, tokenId := ⟨"yes"⟩, shares := 10
    avgEntryPrice := 9 / 10, totalCostUsd := 9, totalFeesUsd := 0, realizedPnl := 0
    status := .opened, settledAt := none, winningTokenId := none, settlementPayoutUsd := none
    redeemTxHash := none, redeemStatus := .pending, redeemAttempts := 0
    settlementTrigger := none, settlementAccountingStatus := .pending
    settlementAccountingError := none, settlementAccountedAt := none
    redeemTerminalReason := none, redeemNegRisk := false, redeemRoute := "standard_ctf"
    redeemGasLimit := 300000, redeemGasPaidUsd := none }

def seededRiskState : RiskEngineState :=
  { hourlyLossUsd := 0, hourlyFeeUsd := 0, hourlyTradeCount := 0, hourlySuccessCount := 0
    hourlyMissCount := 0, hourlyWindowStart := 0, dailyPnl := 0, dailyLossUsd := 0
    dailyFeeUsd := 0, dailyBudgetSpent := 0, dailyTradeCount := 0, dailySuccessCount := 0
    dailyMissCount := 0, dailyWindowStart := 0, weeklyLossUsd := 0, weeklyTradeCount := 0
    weeklyWindowStart := 0, totalRealizedPnl := 0, snapshotAt := 0 }

def liveWorld : World :=
  { positions := ⟨[livePosition], by decide⟩
    ledger := ⟨[⟨⟨1⟩, 9, .active⟩], by decide⟩
    stored := ⟨seededRiskState, fun _ => []⟩
    engine := none
    added := []
    history := [] }

def firstBoot : Boot :=
  { now := 0, dailyBudgetUsd := 1000, openPositions := 1, breakerError := none }

def winRequest : MarketSettlementRequest :=
  { marketId := ⟨"m"⟩, winningTokenId := ⟨"yes"⟩, source := .ws }

/-! ## What every call keeps -/

namespace Service

open Prog

variable {P E : World → Prop}

theorem storage_spec {α : Type} {f : Answer → World → Except ServiceError α × World}
    {Q : α → World → Prop}
    (hf : ∀ a w, P w → match f a w with | (.ok x, w') => Q x w' | (.error _, w') => E w')
    (hP : ∀ w, P w → E w) (hQ : ∀ x w, Q x w → E w) : Spec (storage f) P Q (fun _ => E) := by
  -- with or without a reply, the effect of the call is in `E`
  have heffect : ∀ a w, P w → E (f a w).2 := by
    intro a w hw
    have h := hf a w hw
    rcases hfa : f a w with ⟨_ | x, w'⟩
    · rw [hfa] at h
      exact h
    · rw [hfa] at h
      exact hQ x w' h
  refine Spec.bind (R := fun _ => P) (Spec.next fun _ _ hw => hw) fun a => ?_
  cases hfault : a.fault with
  | none =>
    refine Spec.act fun w hw => ?_
    have h := hf a w hw
    rcases hfa : f a w with ⟨_ | x, w'⟩ <;> rw [hfa] at h <;> exact h
  | failed text => exact Spec.throw hP
  | lostReply text => exact Spec.act (heffect a)
  | stopBefore => exact Spec.throw hP
  | stopAfter => exact Spec.act (heffect a)

theorem patchPosition_spec {id : PositionId} {f : Answer → PositionInfo.Patch}
    {events : List SettlementEvent} {Q : PositionInfo → World → Prop}
    (hf : ∀ a w row db, P w → w.positions.patch id (f a) = some (row, db) →
      Q row { w with positions := db, history := events ++ w.history }) (hP : ∀ w, P w → E w)
    (hQ : ∀ x w, Q x w → E w) : Spec (patchPosition id f events) P Q (fun _ => E) := by
  refine storage_spec (fun a w hw => ?_) hP hQ
  cases hpatch : w.positions.patch id (f a) with
  | none => exact hP w hw
  | some r => exact hf a w r.1 r.2 hw hpatch

theorem query_spec {f : Answer → PositionDb → List PositionInfo} {R : PositionInfo → Prop}
    (hf : ∀ a db r, r ∈ f a db → r ∈ db.rows ∧ R r) : Spec (query f) P
      (fun rows w => (∀ r ∈ rows, R r) ∧ P w ∧ ∀ r ∈ rows, r ∈ w.positions.rows)
      (fun _ => P) := by
  refine storage_spec (fun a w hw => ?_) (fun _ hw => hw) (fun _ _ hw => hw.2.1)
  simp only [List.mem_insertionSort]
  exact ⟨fun r hr => (hf a _ r hr).2, hw, fun r hr => (hf a _ r hr).1⟩

theorem onMarketSettled_frame {P : PositionDb → List SettlementEvent → Prop}
    (position : PositionId) (tradeId : TradeId) (realizedPnlUsd : Usd) :
    (onMarketSettled position tradeId realizedPnlUsd).Spec (fun w => P w.positions w.history)
      (fun _ w => P w.positions w.history) (fun _ w => P w.positions w.history) := by
  let R : Unit → World → Prop := fun _ w => P w.positions w.history
  have hresolve : (persistSettlementPotentialLoss tradeId).Spec (R ()) R (fun _ => R ()) := by
    refine storage_spec (fun _ w hw => ?_) (fun _ hw => hw) (fun _ _ hw => hw)
    rcases w.ledger.resolve tradeId with ⟨_ | _, ledger⟩ <;> exact hw
  have happly : (applyTradeResult position tradeId realizedPnlUsd).Spec (R ()) R (fun _ => R ()) :=
    Spec.bind (R := fun _ => R ()) (Spec.next fun _ _ hw => hw) fun _ => Spec.modify fun _ hw => hw
  have hupsert : upsertState.Spec (R ()) R (fun _ => R ()) := by
    refine storage_spec (fun _ w hw => ?_) (fun _ hw => hw) (fun _ _ hw => hw)
    cases w.engine <;> exact hw
  have haudit : createAudit.Spec (R ()) R (fun _ => R ()) :=
    storage_spec (fun _ _ hw => hw) (fun _ hw => hw) (fun _ _ hw => hw)
  exact Spec.bind hresolve fun _ => Spec.bind happly fun _ => Spec.bind hupsert fun _ => haudit

end Service

/-- What a property of the world and of the rows in hand has to satisfy: rows come into
hand by queries, settling and accounting a row in hand keep it, and so does the end of
the process. -/
structure PositionRules (I : List PositionInfo → World → Prop) : Prop where
  load : ∀ hand rows w, I hand w → (∀ r ∈ rows, r ∈ w.positions.rows) → I (rows ++ hand) w
  drop : ∀ hand rows w, I (rows ++ hand) w → I hand w
  settle : ∀ hand req, ∀ pos ∈ hand,
    (Service.settlePosition req pos).Spec (I hand) (fun _ => I hand) (fun _ => I hand)
  account : ∀ hand, ∀ pos ∈ hand, pos.settlementAccountingStatus = .failed →
    (Service.retryAccounting pos).Spec (I hand) (fun _ => I hand) (fun _ => I hand)
  stop : ∀ hand w, I hand w → I hand { w with engine := none }

namespace PositionRules

open Prog Service

variable {I : List PositionInfo → World → Prop}

theorem forRows (rules : PositionRules I) {f : Answer → PositionDb → List PositionInfo}
    {R : PositionInfo → Prop} (hf : ∀ a db r, r ∈ f a db → r ∈ db.rows ∧ R r)
    {take : List PositionInfo → List PositionInfo} (htake : ∀ rows, take rows ⊆ rows)
    {body : PositionInfo → Service Unit} (hand : List PositionInfo)
    (hbody : ∀ hand', ∀ pos ∈ hand', R pos →
      (body pos).Spec (I hand') (fun _ => I hand') (fun _ => I hand')) :
    Spec (query f >>= fun rows => forEach (take rows) body) (I hand) (fun _ => I hand)
      (fun _ => I hand) := by
  refine Spec.bind (query_spec hf) fun rows => Spec.of_and fun hR => ?_
  have hloop : Spec (forEach (take rows) body) (I (rows ++ hand)) (fun _ => I (rows ++ hand))
      (fun _ => I (rows ++ hand)) :=
    Spec.forEach fun pos hpos =>
      hbody _ pos (List.mem_append_left _ (htake rows hpos)) (hR pos (htake rows hpos))
  refine (hloop.pre fun w hw => rules.load hand rows w hw.1 hw.2).post ?_ ?_
  · exact fun _ w hw => rules.drop hand rows w hw
  · exact fun _ w hw => rules.drop hand rows w hw

theorem settleMarket (rules : PositionRules I) (hand : List PositionInfo)
    (req : MarketSettlementRequest) :
    (Service.settleMarket req).Spec (I hand) (fun _ => I hand) (fun _ => I hand) := by
  refine rules.forRows (R := fun _ => True) ?_ (fun _ => List.Subset.refl _) hand ?_
  · exact fun _ db r hr => ⟨List.mem_of_mem_filter hr, trivial⟩
  · exact fun hand' pos hpos _ => rules.settle hand' req pos hpos

theorem retryResolvedMarkets (rules : PositionRules I) (hand : List PositionInfo) :
    Service.retryResolvedMarkets.Spec (I hand) (fun _ => I hand) (fun _ => I hand) := by
  refine rules.forRows (R := fun _ => True) ?_ (fun rows => List.take_subset _ rows) hand ?_
  · exact fun _ db r hr => ⟨List.mem_of_mem_filter hr, trivial⟩
  · intro hand' pos _ _
    refine Spec.bind (R := fun _ => I hand') (Spec.next fun _ _ hw => hw) fun a => ?_
    cases winningTokenForRetry pos a.wsEvent a.anyEvent a.market a.oracle with
    | none => exact Spec.pure fun _ hw => hw
    | some winningTokenId => exact rules.settleMarket hand' _

theorem retryRedeems (rules : PositionRules I) (hand : List PositionInfo) :
    Service.retryRedeems.Spec (I hand) (fun _ => I hand) (fun _ => I hand) := by
  refine Spec.bind (R := fun _ => I hand) (Spec.next fun _ _ hw => hw) fun a => ?_
  refine rules.forRows (R := fun _ => True) ?_ (fun _ => List.Subset.refl _) hand ?_
  · exact fun _ db r hr => ⟨List.mem_of_mem_filter hr, trivial⟩
  · intro hand' pos _ _
    unfold retryRedeem
    cases pos.winningTokenId with
    | none => exact Spec.pure fun _ hw => hw
    | some winningTokenId => exact rules.settleMarket hand' _

theorem retryAccountings (rules : PositionRules I) (hand : List PositionInfo) :
    Service.retryAccountings.Spec (I hand) (fun _ => I hand) (fun _ => I hand) := by
  refine Spec.bind (R := fun _ => I hand) (Spec.next fun _ _ hw => hw) fun a => ?_
  refine rules.forRows (R := fun pos => pos.settlementAccountingStatus = .failed) ?_
    (fun _ => List.Subset.refl _) hand rules.account
  intro _ db r hr
  have h := List.of_mem_filter hr
  simp only [Bool.and_eq_true, decide_eq_true_eq] at h
  exact ⟨List.mem_of_mem_filter hr, h.1.2⟩

/-- **Every call keeps it.** -/
theorem program (rules : PositionRules I) (hand : List PositionInfo) (c : SettlementCall) :
    c.program.Spec (I hand) (fun _ => I hand) (fun _ => I hand) := by
  cases c with
  | settleMarket req => exact rules.settleMarket hand req
  | retryPending =>
    exact Spec.bind (rules.retryResolvedMarkets hand) fun _ =>
      Spec.bind (rules.retryRedeems hand) fun _ => rules.retryAccountings hand

theorem runCall (rules : PositionRules I) {w : World} (hw : I [] w) (c : SettlementCall)
    (answers : List Answer) : I [] (w.runCall c answers) := by
  have h := rules.program [] c w answers hw
  unfold World.runCall
  revert h
  rcases c.program w answers with ⟨(_ | _) | _, w', _⟩
  · exact id
  · exact rules.stop [] w'
  · exact id

theorem step (rules : PositionRules I) {w : World} (hw : I [] w) (step : SettlementStep)
    (hrestart : ∀ boot, step = .restart boot → I [] (w.step (.restart boot))) :
    I [] (w.step step) := by
  cases step with
  | call c answers =>
    simp only [World.step]
    split
    · exact rules.runCall hw c answers
    · exact hw
  | restart boot => exact hrestart boot rfl

end PositionRules

end OxideArb
