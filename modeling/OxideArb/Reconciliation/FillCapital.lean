import OxideArb.Execution.Dispatch
import OxideArb.Reconciliation.Ledger
import OxideArb.Reconciliation.Worker

/-!
# A reconciled fill and the capital of its plan

The reconciliation shrinks the reservation to what a fill took and then records the fill. The
reservation has the planned cost alone and is never enlarged, so a fill that costs more than
the reserved size once its fee is added is not recorded (`recorded_iff_of_reserved`).
-/

namespace OxideArb

theorem usdToCents_le_iff {amount size : Usd} {cents : Nat} (hsize : usdToCents size = .ok cents) :
    (∃ newCents, usdToCents amount = .ok newCents ∧ newCents ≤ cents) ↔
      0 ≤ amount ∧ ⌊amount * 100⌋ ≤ ⌊size * 100⌋ := by
  obtain ⟨hfloor, hmax⟩ := usdToCents_eq_ok.mp hsize
  have hsign : 0 ≤ ⌊amount * 100⌋ ↔ 0 ≤ amount := by
    rw [Int.floor_nonneg]
    exact mul_nonneg_iff_of_pos_right (by norm_num)
  rw [hfloor, ← hsign]
  constructor
  · rintro ⟨newCents, hnew, hle⟩
    obtain ⟨hnew, -⟩ := usdToCents_eq_ok.mp hnew
    omega
  · rintro ⟨hpos, hle⟩
    refine ⟨⌊amount * 100⌋.toNat, usdToCents_eq_ok.mpr ?_, ?_⟩ <;> omega

namespace Reconciliation

open Evidence

/-- `apply_filled` with the reservations it works on. -/
def applyFilledOn (env : Env) (trade : TradeInfo) (obs : TradeObservation) (note : String)
    (credit : Option Credit) (s : Ledger) : InMemoryExposureReservation × Processed :=
  if obs.costUsd + obs.feeUsd < trade.costUsd + trade.feeUsd then
    match s.held.resizeSync trade.reservationId (obs.costUsd + obs.feeUsd) with
    | .error e =>
      (s.held, applyFilled { env with resizeError := some e.display } trade obs note credit s.db)
    | .ok held => (held, applyFilled { env with resizeError := none } trade obs note credit s.db)
  else (s.held, applyFilled env trade obs note credit s.db)

/-- The fill is on the row, without an emergency, and a reservation that had to shrink has. -/
structure FillRecorded (env : Env) (trade : TradeInfo) (obs : TradeObservation) (note : String)
    (out : InMemoryExposureReservation × Processed) : Prop where
  calm : out.2.emergency = none
  row : out.2.db.get trade.tradeId = some (trade.resolve obs .filled note env.writeNow)
  adjusted : obs.costUsd + obs.feeUsd < trade.costUsd + trade.feeUsd →
    ∃ entry, out.1.reservations.get trade.reservationId = some entry ∧
      usdToCents (obs.costUsd + obs.feeUsd) = .ok entry.amountCents

variable {trade : TradeInfo} {obs : TradeObservation}

theorem applyFilled_records (env : Env) (note : String) (credit : Option Credit) {db : TradeDb}
    (hresize : obs.costUsd + obs.feeUsd < trade.costUsd + trade.feeUsd → env.resizeError = none)
    (hwrite : env.writeError = none) (hobs : obs.state = .fillObserved)
    (hrow : db.get trade.tradeId = some trade) (hpending : TradeDb.pendingReconcile trade = true) :
    (applyFilled env trade obs note credit db).emergency = none ∧
      (applyFilled env trade obs note credit db).db.get trade.tradeId =
        some (trade.resolve obs .filled note env.writeNow) := by
  have hunprocessed : obs.state.isUnprocessed = true := by rw [hobs]; rfl
  have hcalm : ¬ (obs.costUsd + obs.feeUsd < trade.costUsd + trade.feeUsd ∧
      env.resizeError.isSome = true) := by
    rintro ⟨hless, hsome⟩
    rw [hresize hless] at hsome
    cases hsome
  have hdb : (TradeDb.markReconciledObserved db trade.tradeId obs .filled note env.writeNow).2.get
      trade.tradeId = some (trade.resolve obs .filled note env.writeNow) := by
    unfold TradeDb.markReconciledObserved
    rw [if_pos hunprocessed, Table.get_updateKey, hrow, Option.map_some, if_pos hpending]
  unfold applyFilled
  rw [if_neg hcalm, hwrite]
  dsimp only
  split
  next after heq =>
    rw [heq] at hdb
    exact ⟨rfl, hdb⟩
  next after heq =>
    rw [heq] at hdb
    exact ⟨rfl, hdb⟩

theorem recorded_iff_of_reserved {env : Env} {note : String} {credit : Option Credit} {s : Ledger}
    {entry : ReservationEntry} (hentry : s.held.reservations.get trade.reservationId = some entry)
    (hamount : usdToCents trade.costUsd = .ok entry.amountCents) (hwrite : env.writeError = none)
    (hobs : obs.state = .fillObserved) (hrow : s.db.get trade.tradeId = some trade)
    (hpending : TradeDb.pendingReconcile trade = true) :
    FillRecorded env trade obs note (applyFilledOn env trade obs note credit s) ↔
      (obs.costUsd + obs.feeUsd < trade.costUsd + trade.feeUsd →
        0 ≤ obs.costUsd + obs.feeUsd ∧
          ⌊(obs.costUsd + obs.feeUsd) * 100⌋ ≤ ⌊trade.costUsd * 100⌋) := by
  unfold applyFilledOn
  by_cases hless : obs.costUsd + obs.feeUsd < trade.costUsd + trade.feeUsd
  · rw [if_pos hless, forall_prop_of_true hless, ← usdToCents_le_iff hamount,
      ← InMemoryExposureReservation.resizeSync_ok_iff hentry]
    cases hresize : s.held.resizeSync trade.reservationId (obs.costUsd + obs.feeUsd) with
    | error e =>
      -- the emergency of the failed resize
      constructor
      · intro h
        have hcalm := h.calm
        dsimp only [applyFilled] at hcalm
        rw [if_pos ⟨hless, rfl⟩] at hcalm
        cases hcalm
      · rintro ⟨held, hok⟩
        cases hok
    | ok held =>
      obtain ⟨hcalm, hrecorded⟩ :=
        applyFilled_records { env with resizeError := none } note credit (fun _ => rfl) hwrite hobs
          hrow hpending
      obtain ⟨old, newCents, -, hcents, -, hafter⟩ :=
        InMemoryExposureReservation.resizeSync_get hresize
      refine iff_of_true ⟨hcalm, hrecorded, fun _ =>
        ⟨{ old with amountCents := newCents }, ?_, hcents⟩⟩ ⟨held, rfl⟩
      rw [hafter, if_pos rfl]
  · rw [if_neg hless]
    obtain ⟨hcalm, hrecorded⟩ :=
      applyFilled_records env note credit (fun h => absurd h hless) hwrite hobs hrow hpending
    exact iff_of_true ⟨hcalm, hrecorded, fun h => absurd h hless⟩ fun h => absurd h hless

/-- A trade whose plan was dispatched and has waited for its outcome since, with its reservation:
the reconciliation records a fill of it if and only if the fill is no cheaper than planned, or
its cost and fee fit, in whole cents, into the planned cost alone. -/
theorem applyFilled_recorded_iff {d : Dispatch.Env} {opp : Opportunity} {approvedSize : Usd}
    {prepared : Dispatch.PreparedDispatch} {held₀ held : InMemoryExposureReservation}
    {db₀ db : TradeDb}
    (hdispatch :
      Dispatch.persistDispatchPlan d opp approvedSize held₀ db₀ = (.ok prepared, held, db))
    {events : List LedgerEvent} (hspares : ∀ e ∈ events, e.Spares prepared.plan.reservationId)
    {trade : TradeInfo}
    (hrow : ((Ledger.mk held db).run events).db.get prepared.tradeId = some trade)
    (hpending : TradeDb.pendingReconcile trade = true)
    (hheld : ((Ledger.mk held db).run events).held.Reserved prepared.plan.reservationId)
    (env : Env) (hwrite : env.writeError = none) {obs : TradeObservation}
    (hobs : obs.state = .fillObserved) (note : String) (credit : Option Credit) :
    FillRecorded env trade obs note
        (applyFilledOn env trade obs note credit ((Ledger.mk held db).run events)) ↔
      (obs.costUsd + obs.feeUsd < trade.costUsd + trade.feeUsd →
        0 ≤ obs.costUsd + obs.feeUsd ∧
          ⌊(obs.costUsd + obs.feeUsd) * 100⌋ ≤ ⌊trade.costUsd * 100⌋) := by
  obtain ⟨⟨entry₀, hentry₀, hcents⟩, row₀, hrow₀, hstate, hcost, hid⟩ :=
    Dispatch.persistDispatchPlan_ok hdispatch
  have hstart : Outstanding prepared.tradeId prepared.plan.reservationId approvedSize
      ⟨held, db⟩ := by
    refine ⟨⟨row₀, hrow₀, hid, fun _ => hcost⟩, fun entry hentry => ?_⟩
    obtain rfl : entry₀ = entry := Option.some.inj (hentry₀.symm.trans hentry)
    exact hcents
  obtain ⟨⟨row, hrow', hrowId, hrowCost⟩, hamount⟩ := hstart.run hspares
  obtain rfl : row = trade := Option.some.inj (hrow'.symm.trans hrow)
  have horphaned : row.state.AwaitsOutcome := by
    simp only [TradeDb.pendingReconcile, Bool.and_eq_true, decide_eq_true_eq] at hpending
    exact .inr (.inr hpending.1.1)
  obtain ⟨entry, hentry⟩ := Option.isSome_iff_exists.mp hheld
  have htradeId : row.tradeId = prepared.tradeId := (Table.get_eq_some_iff _).mp hrow |>.2
  refine recorded_iff_of_reserved (hrowId ▸ hentry) ?_ hwrite hobs (htradeId ▸ hrow) hpending
  rw [hrowCost horphaned]
  exact hamount entry hentry

def sampleOpportunity : Opportunity :=
  { marketId := ⟨"m"⟩, eventId := ⟨"e"⟩, tokenId := ⟨"yes"⟩, side := .buy
    payoutModel := ⟨0, 0, .buy⟩, shares := 0, entryPrice := 97 / 100, totalCost := 0
    totalFees := 0, netProfit := 0, expectedNetProfit := 0, edgeBps := 0, resolutionAdjust := 0
    depthUsedPct := 0, staleness := .fresh, category := .sports
    info := ⟨true, 1, 600, .z97, .short, none⟩
    calibration := ⟨⟨.sports, .z97, .short⟩, 0, 0, 0, 0, 0, 0⟩, detectedAt := 0 }

def sampleFees : Fees.FeeCalculator :=
  { rateCache :=
      { marketSchedules := fun _ => some ⟨true, 2 / 100, 1⟩, categoryDefaults := fun _ => none }
    calculateFee := fun shares price rate _ => shares * rate * price * (1 - price) }

def sampleDispatch : Dispatch.Env :=
  { mode := .live, planBuilder := ⟨sampleFees, fun _ => none⟩, tradeId := ⟨1⟩
    reservationId := ⟨"r"⟩, config := ⟨100000, 100000⟩, now := 0, ttl := Duration.seconds 60
    snapshot := .ok (99 / 100), createFails := false, createText := "" }

def sampleEvents : List LedgerEvent :=
  [.trades (.write (.markSubmitted ⟨1⟩ 0)), .trades (.write (.markOrphaned ⟨1⟩)),
    .capital ⟨100000, 100000⟩ ⟨⟨"s"⟩, 0, false⟩ (.pinForReconciliation ⟨"r"⟩)]

/-- A plan of a hundred dollars is dispatched, and its outcome is unknown. -/
def sampleLedger : Ledger :=
  let d := Dispatch.persistDispatchPlan sampleDispatch sampleOpportunity 100 .new .empty
  (Ledger.mk d.2.1 d.2.2).run sampleEvents

def sampleQuote (mode : ExecutionMode) (input : FeeQuoteInput) : Except String Usd :=
  match sampleFees.quoteForMode mode
    { marketId := input.marketId, tokenId := input.tokenId, category := input.category
      side := input.side, liquidityRole := .taker, shares := input.shares, price := input.price
      allowCategoryFallback := input.allowCategoryFallback } with
  | .error e => .error e.display
  | .ok quote => .ok quote.feeUsd

/-- The planned shares are filled at the planned price: the cost is below a hundred by a part of a
lot, the fee is the planned one. Together they exceed what is reserved, and instead of the fill
the reconciliation records an emergency. -/
theorem planned_fill_not_recorded :
    let env := { calmEnv [] with quoteForMode := sampleQuote }
    ∃ trade ∈ sampleLedger.db.get ⟨1⟩, TradeDb.pendingReconcile trade = true ∧
      sampleLedger.held.Reserved trade.reservationId ∧
      ∃ obs ∈ (reconciledFillEconomics env trade none trade.shares trade.price 1).toOption,
        obs.costUsd ≤ trade.costUsd ∧ obs.feeUsd ≤ trade.feeUsd ∧
        (applyFilledOn env trade obs "fill" none sampleLedger).2.emergency =
          some (.reservationFault, "reconciled fill reservation resize failed") ∧
        (applyFilledOn env trade obs "fill" none sampleLedger).2.db.get ⟨1⟩ = some trade := by
  decide +kernel

/-- A fill of half the shares is recorded. -/
theorem applyFilled_recorded_half_fill :
    ∃ trade, sampleLedger.db.get ⟨1⟩ = some trade ∧
      ∃ obs ∈ (reconciledFillEconomics (calmEnv []) trade none 50 (97 / 100) 1).toOption,
        FillRecorded (calmEnv []) trade obs "fill"
          (applyFilledOn (calmEnv []) trade obs "fill" none sampleLedger) := by
  have hfacts : ∃ prepared ∈ (Dispatch.persistDispatchPlan sampleDispatch sampleOpportunity 100
        .new .empty).1.toOption, prepared.tradeId = ⟨1⟩ ∧ prepared.plan.reservationId = ⟨"r"⟩ ∧
      ∃ trade ∈ sampleLedger.db.get ⟨1⟩, TradeDb.pendingReconcile trade = true ∧
      sampleLedger.held.Reserved ⟨"r"⟩ ∧
      ∃ obs ∈ (reconciledFillEconomics (calmEnv []) trade none 50 (97 / 100) 1).toOption,
        obs.state = .fillObserved ∧ (0 ≤ obs.costUsd + obs.feeUsd ∧
          ⌊(obs.costUsd + obs.feeUsd) * 100⌋ ≤ ⌊trade.costUsd * 100⌋) := by
    decide +kernel
  obtain ⟨prepared, hprepared, hid, hreservation, trade, htrade, hpending, hheld, obs, hobs,
    hstate, hfits⟩ := hfacts
  rcases hdispatch : Dispatch.persistDispatchPlan sampleDispatch sampleOpportunity 100 .new .empty
    with ⟨result, held, db⟩
  have hledger : sampleLedger = (Ledger.mk held db).run sampleEvents := by
    unfold sampleLedger
    rw [hdispatch]
  rw [hdispatch] at hprepared
  have hok : result = .ok prepared := by
    cases result with
    | error e => cases hprepared
    | ok p => exact congrArg _ (Option.some.inj hprepared)
  rw [hok] at hdispatch
  have hspares : ∀ e ∈ sampleEvents, e.Spares prepared.plan.reservationId := by
    simp [sampleEvents, LedgerEvent.Spares, TradeOp.Issued]
  refine ⟨trade, htrade, obs, hobs, ?_⟩
  rw [hledger] at htrade hheld ⊢
  exact (applyFilled_recorded_iff hdispatch hspares (hid ▸ htrade) hpending (hreservation ▸ hheld)
    (calmEnv []) rfl hstate "fill" none).mpr fun _ => hfits

end Reconciliation

end OxideArb
