import OxideArb.Execution.Fsm
import OxideArb.Reconciliation.Evidence
import Mathlib.Data.List.Sort

/-!
# The reconciliation worker

The worker judges the orphaned trades one after the other and writes each verdict back with a
conditional update. `Draws` says which credit an evaluation resolves its trade with.
-/

namespace OxideArb

structure TradesQuery where
  marketId : MarketId
  tokenId : TokenId
  after : Option Int
deriving DecidableEq, Repr

structure FeeQuoteInput where
  marketId : MarketId
  tokenId : TokenId
  category : MarketCategory
  side : Side
  shares : Shares
  price : Price
  allowCategoryFallback : Bool
deriving DecidableEq, Repr

namespace Reconciliation

open Evidence

/-- What one evaluation meets. `loadNow`, `now` and `writeNow` are the readings of the
clock while loading, at the start and at the end; `snapshotError` is what the decoder
says of an undecodable snapshot; an evaluation makes at most one write, which fails
with `writeError`. -/
structure Env where
  config : ReconciliationConfig
  loadNow : DateTime
  now : DateTime
  writeNow : DateTime
  getTrades : TradesQuery → Except String (List ClobTrade)
  positionBalance : TokenId → Except String Shares
  countError : Option String
  snapshotError : String
  quoteForMode : ExecutionMode → FeeQuoteInput → Except String Usd
  resizeError : Option String
  releaseError : Option String
  writeError : Option String

/-- What an evaluation leaves: the table, the emergency it entered, and (for the
proofs) the credit it resolved its trade with. -/
structure Processed where
  db : TradeDb
  emergency : Option (EmergencyClass × String)
  credit : Option Credit

def nextDeferUntil (config : ReconciliationConfig) (attemptsAfterIncrement : Int)
    (now : DateTime) : DateTime :=
  let attempt := (max attemptsAfterIncrement 1).toNat
  let base := max config.backoffBaseSecs 1
  let maxSecs := max config.backoffMaxSecs base
  let exponent := min (attempt - 1) 16
  let delaySecs := min (min (base * 2 ^ exponent) u64Max) maxSecs
  now + Duration.seconds (min delaySecs i64Max)

/-- `fetch_clob_trades`: records since the lookback, by match time. -/
def fetchClobTrades (env : Env) (trade : TradeInfo) : Except String (List ClobTrade) :=
  let after := trade.submittedAt.map fun ts =>
    saturateI64 (ts / 1000000000 - env.config.tradeLookbackSecs)
  (env.getTrades ⟨trade.marketId, trade.tokenId, after⟩).map
    (List.insertionSort fun a b => a.matchedAt ≤ b.matchedAt)

def competing (env : Env) (trade : TradeInfo) (db : TradeDb) : Bool :=
  match env.countError with
  | some _ => false
  | none => 1 < TradeDb.countCompetingPendingReconcile db trade.marketId trade.submittedAt

def deferTrade (env : Env) (trade : TradeInfo) (now : DateTime) (note : String) (db : TradeDb) :
    Processed :=
  match env.writeError with
  | some _ => ⟨db, none, none⟩
  | none =>
    ⟨(TradeDb.recordReconcileDefer db trade.tradeId
      (nextDeferUntil env.config (trade.reconcileAttempts + 1) now) note).2, none, none⟩

/-- `record_defer_verdict`: the failed deferral is an emergency. -/
def recordDeferVerdict (env : Env) (trade : TradeInfo) (note : String) (db : TradeDb) :
    Processed :=
  match env.writeError with
  | some _ => ⟨db, some (.persistenceFault, "reconcile defer persist failed"), none⟩
  | none => deferTrade env trade env.now note db

def feeQuoteInput (trade : TradeInfo) (shares : Shares) (price : Price) : FeeQuoteInput :=
  { marketId := trade.marketId, tokenId := trade.tokenId, category := trade.category
    side := trade.side, shares, price, allowCategoryFallback := trade.executionMode ≠ .live }

def reconciledFillEconomics (env : Env) (trade : TradeInfo) (clobTrade : Option ClobTrade)
    (shares : Shares) (price : Price) (resolutionProb : Decimal) :
    Except String TradeObservation :=
  let (shares, price) := match clobTrade with
    | some clob => (clob.size, clob.price)
    | none => (shares, price)
  let costUsd := shares * price
  let quote := env.quoteForMode trade.executionMode (feeQuoteInput trade shares price)
  quote.map fun feeUsd =>
    { state := .fillObserved, shares, price, costUsd, feeUsd
      orderId := (clobTrade.map (·.orderId)).or trade.orderId
      txHash := (clobTrade.map (·.txHash)).or trade.txHash
      netProfitUsd := some (shares * resolutionProb - costUsd - feeUsd)
      errorMessage := some "reconciled fill with recomputed fee/EV"
      confirmedAt := env.writeNow }

/-- `apply_filled`. The capital manager is asked only when the reservation shrinks. -/
def applyFilled (env : Env) (trade : TradeInfo) (obs : TradeObservation) (note : String)
    (credit : Option Credit) (db : TradeDb) : Processed :=
  if obs.costUsd + obs.feeUsd < trade.costUsd + trade.feeUsd ∧ env.resizeError.isSome then
    ⟨db, some (.reservationFault, "reconciled fill reservation resize failed"), none⟩
  else
    match env.writeError with
    | some _ => ⟨db, some (.persistenceFault, "reconciled fill persist failed"), none⟩
    | none =>
      match TradeDb.markReconciledObserved db trade.tradeId obs .filled note env.writeNow with
      | (true, db') => ⟨db', none, credit⟩
      | (false, db') => ⟨db', none, none⟩

def applyFilledVerdict (env : Env) (trade : TradeInfo) (shares : Shares) (price : Price)
    (clobTrade : Option ClobTrade) (note : String) (credit : Option Credit) (db : TradeDb) :
    Processed :=
  match trade.resolutionProb with
  | none => deferTrade env trade env.now env.snapshotError db
  | some resolutionProb =>
    match reconciledFillEconomics env trade clobTrade shares price resolutionProb with
    | .error error => deferTrade env trade env.now error db
    | .ok obs => applyFilled env trade obs note credit db

/-- `apply_miss_verdict` and `apply_miss`. -/
def applyMissVerdict (env : Env) (trade : TradeInfo) (note : String) (db : TradeDb) :
    Processed :=
  let obs : TradeObservation :=
    { state := .missObserved, shares := 0, price := trade.price, costUsd := 0, feeUsd := 0
      orderId := none, txHash := none, netProfitUsd := none, errorMessage := some note
      confirmedAt := env.now }
  match env.writeError with
  | some _ => ⟨db, some (.persistenceFault, "reconciled miss persist failed"), none⟩
  | none =>
    match TradeDb.markReconciledObserved db trade.tradeId obs .miss note env.writeNow with
    | (true, db') =>
      ⟨db', if env.releaseError.isSome then
        some (.reservationFault, "reconciled miss reservation release failed") else none, none⟩
    | (false, db') => ⟨db', none, none⟩

/-- The credit behind a fill verdict: its record, or the increase since the snapshot. -/
def verdictCredit (trade : TradeInfo) (ctfBalance : Shares) (clobTrade : Option ClobTrade) :
    Option Credit :=
  match clobTrade with
  | some item => some (.record item)
  | none => trade.preSubmitCtfBalance.map (Credit.increase trade.tokenId · ctfBalance)

def processTrade (env : Env) (trade : TradeInfo) (db : TradeDb) : Processed :=
  match fetchClobTrades env trade with
  | .error error => deferTrade env trade env.loadNow error db
  | .ok clobTrades =>
    match env.positionBalance trade.tokenId with
    | .error error => deferTrade env trade env.loadNow error db
    | .ok ctfBalance =>
      match evaluateEvidenceLadder trade clobTrades ctfBalance (competing env trade db)
        env.config env.now with
      | .filled shares price _ _ clobTrade note =>
        applyFilledVerdict env trade shares price clobTrade note
          (verdictCredit trade ctfBalance clobTrade) db
      | .miss note => applyMissVerdict env trade note db
      | .defer note => recordDeferVerdict env trade note db

/-! ## What an evaluation writes -/

theorem processTrade_writes (env : Env) (trade : TradeInfo) (db : TradeDb) :
    (processTrade env trade db).db = db ∨
      ∃ w : TradeWrite, w.tradeId = trade.tradeId ∧
        (processTrade env trade db).db = TradeWrite.apply db w := by
  have hdefer : ∀ now note, (deferTrade env trade now note db).db = db ∨
      ∃ w : TradeWrite, w.tradeId = trade.tradeId ∧
        (deferTrade env trade now note db).db = TradeWrite.apply db w := by
    intro now note
    unfold deferTrade
    split
    · exact Or.inl rfl
    · exact Or.inr ⟨.recordReconcileDefer trade.tradeId _ note, rfl, rfl⟩
  have hmark : ∀ obs resolution note db' b,
      TradeDb.markReconciledObserved db trade.tradeId obs resolution note env.writeNow = (b, db') →
      ∃ w : TradeWrite, w.tradeId = trade.tradeId ∧ db' = TradeWrite.apply db w := by
    intro obs resolution note db' b h
    exact ⟨.markReconciledObserved trade.tradeId obs resolution note env.writeNow, rfl,
      (congrArg Prod.snd h).symm⟩
  unfold processTrade
  split
  · exact hdefer _ _
  split
  · exact hdefer _ _
  split
  · unfold applyFilledVerdict
    split
    · exact hdefer _ _
    split
    · exact hdefer _ _
    unfold applyFilled
    split
    · exact Or.inl rfl
    split
    · exact Or.inl rfl
    split <;> exact Or.inr (hmark _ _ _ _ _ (by assumption))
  · unfold applyMissVerdict
    simp only
    split
    · exact Or.inl rfl
    split <;> exact Or.inr (hmark _ _ _ _ _ (by assumption))
  · unfold recordDeferVerdict
    split
    · exact Or.inl rfl
    · exact hdefer _ _

theorem processTrade_get_ne (env : Env) (trade : TradeInfo) (db : TradeDb) {id : TradeId}
    (h : id ≠ trade.tradeId) : (processTrade env trade db).db.get id = db.get id := by
  rcases processTrade_writes env trade db with hdb | ⟨w, hw, hdb⟩
  · rw [hdb]
  · rw [hdb]
    exact TradeWrite.get_apply_ne db w (hw ▸ h)

/-! ## Which credit an evaluation draws -/

/-- **What an evaluation resolves its trade with**, told from its inputs and the table:
the row is pending, the ladder finds the credit in the loaded evidence, the snapshot
decodes, the fee is quoted, a shrinking reservation can be resized, and the write goes
through. -/
structure Draws (env : Env) (trade : TradeInfo) (db : TradeDb) (credit : Credit) : Prop where
  pending : db.Holds trade.tradeId fun row => TradeDb.pendingReconcile row = true
  found : ∃ clobTrades ctfBalance, fetchClobTrades env trade = .ok clobTrades ∧
    env.positionBalance trade.tokenId = .ok ctfBalance ∧
    Finds trade clobTrades ctfBalance (competing env trade db) env.config env.now credit
  decoded : trade.resolutionProb.isSome
  priced : ∃ feeUsd, env.quoteForMode trade.executionMode
      (feeQuoteInput trade credit.shares (credit.price trade)) = .ok feeUsd ∧
    (credit.shares * credit.price trade + feeUsd < trade.costUsd + trade.feeUsd →
      env.resizeError = none)
  stored : env.writeError = none

variable {trade : TradeInfo} {clobTrades : List ClobTrade} {ctfBalance : Shares} {credit : Credit}
  {env : Env} {db : TradeDb}

theorem Finds.verdictCredit {competing : Bool} {config : ReconciliationConfig} {now : DateTime}
    (h : Finds trade clobTrades ctfBalance competing config now credit) :
    verdictCredit trade ctfBalance credit.clobTrade = some credit := by
  cases h with
  | order _ => rfl
  | window _ _ _ => rfl
  | balance _ _ hpre _ _ => simp [Reconciliation.verdictCredit, Credit.clobTrade, hpre]

def creditObservation (env : Env) (trade : TradeInfo) (credit : Credit)
    (resolutionProb : Decimal) (feeUsd : Usd) : TradeObservation :=
  { state := .fillObserved, shares := credit.shares, price := credit.price trade
    costUsd := credit.shares * credit.price trade, feeUsd
    orderId := (credit.clobTrade.map (·.orderId)).or trade.orderId
    txHash := (credit.clobTrade.map (·.txHash)).or trade.txHash
    netProfitUsd := some (credit.shares * resolutionProb
      - credit.shares * credit.price trade - feeUsd)
    errorMessage := some "reconciled fill with recomputed fee/EV", confirmedAt := env.writeNow }

theorem reconciledFillEconomics_credit (env : Env) (trade : TradeInfo) (credit : Credit)
    (resolutionProb : Decimal) :
    reconciledFillEconomics env trade credit.clobTrade credit.shares (credit.price trade)
        resolutionProb =
      (env.quoteForMode trade.executionMode
        (feeQuoteInput trade credit.shares (credit.price trade))).map
        (creditObservation env trade credit resolutionProb) := by
  cases credit <;> rfl

theorem processTrade_of_finds (hfetch : fetchClobTrades env trade = .ok clobTrades)
    (hbalance : env.positionBalance trade.tokenId = .ok ctfBalance)
    (h : Finds trade clobTrades ctfBalance (competing env trade db) env.config env.now credit) :
    ∃ note, processTrade env trade db =
      applyFilledVerdict env trade credit.shares (credit.price trade) credit.clobTrade note
        (some credit) db := by
  obtain ⟨note, hv⟩ := ladder_of_finds h
  refine ⟨note, ?_⟩
  unfold processTrade
  simp only [hfetch, hbalance, hv]
  have hc := Finds.verdictCredit h
  cases credit <;> simp only [Credit.verdict, filledBy, Credit.clobTrade] at hc ⊢ <;> rw [hc] <;> rfl

theorem deferTrade_credit (env : Env) (trade : TradeInfo) (now : DateTime) (note : String)
    (db : TradeDb) : (deferTrade env trade now note db).credit = none := by
  unfold deferTrade
  split <;> rfl

theorem processTrade_credit_of_not_finds (hfetch : fetchClobTrades env trade = .ok clobTrades)
    (hbalance : env.positionBalance trade.tokenId = .ok ctfBalance)
    (h : ∀ credit,
      ¬ Finds trade clobTrades ctfBalance (competing env trade db) env.config env.now credit) :
    (processTrade env trade db).credit = none := by
  unfold processTrade
  simp only [hfetch, hbalance, ladder_of_not_finds h]
  cases hm : missRung trade clobTrades ctfBalance env.config env.now with
  | none =>
    simp only [Option.getD_none, recordDeferVerdict]
    split
    · rfl
    · exact deferTrade_credit _ _ _ _ _
  | some v =>
    obtain ⟨-, -, -, rfl⟩ := missRung_eq_some.mp hm
    simp only [Option.getD_some, applyMissVerdict]
    split
    · rfl
    · split <;> rfl

theorem Draws.resolves (h : Draws env trade db credit) :
    (processTrade env trade db).credit = some credit ∧
      ∃ obs note, obs.shares = credit.shares ∧
        TradeDb.markReconciledObserved db trade.tradeId obs .filled note env.writeNow =
          (true, (processTrade env trade db).db) := by
  obtain ⟨hpending, ⟨clobTrades, ctfBalance, hfetch, hbalance, hfinds⟩, hdecoded,
    ⟨feeUsd, hquote, hresize⟩, hstored⟩ := h
  obtain ⟨prob, hprob⟩ := Option.isSome_iff_exists.mp hdecoded
  obtain ⟨note, hproc⟩ := processTrade_of_finds hfetch hbalance hfinds
  set obs := creditObservation env trade credit prob feeUsd with hobs
  have hfit : ¬ (obs.costUsd + obs.feeUsd < trade.costUsd + trade.feeUsd ∧
      env.resizeError.isSome = true) := by
    rintro ⟨hlt, herr⟩
    rw [hresize hlt] at herr
    cases herr
  obtain ⟨db', hmark⟩ : ∃ db', TradeDb.markReconciledObserved db trade.tradeId obs .filled note
      env.writeNow = (true, db') :=
    ⟨_, Prod.ext ((TradeDb.markReconciledObserved_hit rfl).mpr hpending) rfl⟩
  have heq : processTrade env trade db = ⟨db', none, some credit⟩ := by
    rw [hproc]
    unfold applyFilledVerdict
    simp only [hprob, reconciledFillEconomics_credit, hquote, Except.map, ← hobs]
    unfold applyFilled
    rw [if_neg hfit]
    simp only [hstored, hmark]
  rw [heq]
  exact ⟨rfl, obs, note, rfl, hmark⟩

/-- **The credit of an evaluation is what it draws.** -/
theorem processTrade_credit_iff :
    (processTrade env trade db).credit = some credit ↔ Draws env trade db credit := by
  refine ⟨fun h => ?_, fun h => h.resolves.1⟩
  cases hfetch : fetchClobTrades env trade with
  | error error => simp [processTrade, hfetch, deferTrade_credit] at h
  | ok clobTrades =>
  cases hbalance : env.positionBalance trade.tokenId with
  | error error => simp [processTrade, hfetch, hbalance, deferTrade_credit] at h
  | ok ctfBalance =>
  by_cases hf : ∃ c, Finds trade clobTrades ctfBalance (competing env trade db) env.config
    env.now c
  · obtain ⟨c, hc⟩ := hf
    obtain ⟨note, hproc⟩ := processTrade_of_finds hfetch hbalance hc
    rw [hproc] at h
    unfold applyFilledVerdict at h
    cases hprob : trade.resolutionProb with
    | none => simp [hprob, deferTrade_credit] at h
    | some prob =>
    simp only [hprob, reconciledFillEconomics_credit] at h
    cases hquote : env.quoteForMode trade.executionMode
        (feeQuoteInput trade c.shares (c.price trade)) with
    | error error => simp [hquote, Except.map, deferTrade_credit] at h
    | ok feeUsd =>
    simp only [hquote, Except.map] at h
    unfold applyFilled at h
    split at h
    · cases h
    rename_i hfit
    split at h
    · cases h
    rename_i hstored
    split at h
    · rename_i db' hmark
      cases h
      refine ⟨(TradeDb.markReconciledObserved_hit rfl).mp (congrArg Prod.fst hmark),
        ⟨_, _, hfetch, hbalance, hc⟩, by simp [hprob], ⟨feeUsd, hquote, fun hlt => ?_⟩, hstored⟩
      by_contra herr
      exact hfit ⟨hlt, Option.isSome_iff_ne_none.mpr herr⟩
    · cases h
  · rw [processTrade_credit_of_not_finds hfetch hbalance (not_exists.mp hf)] at h
    cases h

/-! ## Two evaluations in a row -/

theorem Draws.congr {db' : TradeDb} (hget : db'.get trade.tradeId = db.get trade.tradeId)
    (hcompeting : competing env trade db' = competing env trade db) (h : Draws env trade db credit) :
    Draws env trade db' credit := by
  obtain ⟨⟨row, hrow, hpending⟩, ⟨clobTrades, ctfBalance, hfetch, hbalance, hfinds⟩, hdecoded,
    hpriced, hstored⟩ := h
  exact ⟨⟨row, hget.trans hrow, hpending⟩,
    ⟨clobTrades, ctfBalance, hfetch, hbalance, hcompeting ▸ hfinds⟩, hdecoded, hpriced, hstored⟩

/-- A resolved trade is out of the competition: others draw as if its row were gone. -/
theorem Draws.after_resolve {db' : TradeDb} {id : TradeId} {obs : TradeObservation}
    {resolution : TradeReconcileResolution} {note : String} {ts : DateTime}
    (hmark : TradeDb.markReconciledObserved db id obs resolution note ts = (true, db'))
    (hne : trade.tradeId ≠ id) :
    Draws env trade db' credit ↔ Draws env trade (db.without id) credit := by
  have hget : db'.get trade.tradeId = (db.without id).get trade.tradeId := by
    rw [Table.get_without_ne db hne, ← TradeWrite.get_apply_ne db
      (.markReconciledObserved id obs resolution note ts) hne]
    exact congrArg (fun t : TradeDb => t.get trade.tradeId) (congrArg Prod.snd hmark).symm
  have hcompeting : competing env trade db' = competing env trade (db.without id) := by
    unfold competing
    rw [TradeDb.count_markReconciledObserved hmark]
  exact ⟨Draws.congr hget.symm hcompeting.symm, Draws.congr hget hcompeting⟩

end Reconciliation

namespace Evidence.Credit

/-- Two credits share a venue fill or a stretch of the same token's balance. -/
def Overlaps : Credit → Credit → Prop
  | .record a, .record b => a.tradeId = b.tradeId
  | .increase token pre balance, .increase token' pre' balance' =>
    token = token' ∧ max pre pre' < min balance balance'
  | _, _ => False

def joint : Credit → Credit → Shares
  | .record a, .record b => if a.tradeId = b.tradeId then max a.size b.size else a.size + b.size
  | .increase token pre balance, .increase token' pre' balance' =>
    (balance - pre) + (balance' - pre') -
      if token = token' then max 0 (min balance balance' - max pre pre') else 0
  | c, c' => c.shares + c'.shares

theorem joint_of_not_overlaps {c c' : Credit} (h : ¬ c.Overlaps c') :
    c.joint c' = c.shares + c'.shares := by
  cases c with
  | record a =>
    cases c' with
    | record b => exact if_neg h
    | increase token' pre' balance' => rfl
  | increase token pre balance =>
    cases c' with
    | record b => rfl
    | increase token' pre' balance' =>
      by_cases ht : token = token'
      · have hle : min balance balance' ≤ max pre pre' := by
          by_contra hlt
          exact h ⟨ht, not_le.mp hlt⟩
        simp [joint, shares, ht, max_eq_left (sub_nonpos.mpr hle)]
      · simp [joint, shares, ht]

end Evidence.Credit

namespace Reconciliation

open Evidence

/-- Two resolved trades share no evidence, and the shares booked on their rows do not
exceed what the evidence of both accounts for. -/
def CreditedOnce (first second : Processed) (id₁ id₂ : TradeId) : Prop :=
  ∀ c₁ c₂, first.credit = some c₁ → second.credit = some c₂ →
    ¬ c₁.Overlaps c₂ ∧
      ∀ row₁ row₂, second.db.get id₁ = some row₁ → second.db.get id₂ = some row₂ →
        row₁.shares + row₂.shares ≤ c₁.joint c₂

theorem Draws.row_shares {env : Env} {trade : TradeInfo} {db : TradeDb} {credit : Credit}
    (h : Draws env trade db credit) :
    (processTrade env trade db).db.Holds trade.tradeId fun row => row.shares = credit.shares := by
  obtain ⟨-, obs, note, hshares, hmark⟩ := h.resolves
  exact (TradeDb.markReconciledObserved_row hmark).imp fun row hrow => hrow.trans hshares

def orphan (id : Nat) (order : Option OrderId) (submittedAt : DateTime) : TradeInfo :=
  { unsnapshottedTrade with tradeId := ⟨id⟩, orderId := order, submittedAt := some submittedAt }

def fillOf (id order : String) (matchedAt : DateTime) : ClobTrade :=
  { tradeId := id, orderId := ⟨order⟩, marketId := ⟨"m"⟩, tokenId := ⟨"yes"⟩, side := .buy
    size := 10, price := 97 / 100, txHash := "0x1", matchedAt }

def calmEnv (records : List ClobTrade) : Env :=
  { config := .default, loadNow := Duration.seconds 10, now := Duration.seconds 10
    writeNow := Duration.seconds 11, getTrades := fun _ => .ok records
    positionBalance := fun _ => .ok 10, countError := none, snapshotError := ""
    quoteForMode := fun _ _ => .ok 0, resizeError := none, releaseError := none
    writeError := none }

def orphanTable (order₁ order₂ : Option OrderId) : TradeDb :=
  ⟨[orphan 1 order₁ 0, orphan 2 order₂ (Duration.seconds 1)], by simp [orphan]⟩

end Reconciliation

end OxideArb
