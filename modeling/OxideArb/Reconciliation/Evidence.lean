import OxideArb.Trade.Repository

/-!
# The evidence ladder

An orphaned trade is judged against the venue's trade records, the token balance and the clock.
The rungs are tried in order; `Finds` says which credit the fill rungs find.
-/

namespace OxideArb

structure ClobTrade where
  tradeId : String
  orderId : OrderId
  marketId : MarketId
  tokenId : TokenId
  side : Side
  size : Shares
  price : Price
  txHash : String
  matchedAt : DateTime
deriving DecidableEq, Repr

structure ReconciliationConfig where
  backoffBaseSecs : Nat
  backoffMaxSecs : Nat
  minMissAgeSecs : Nat
  minFillRatio : Decimal
  tradeLookbackSecs : Int
deriving DecidableEq, Repr

def ReconciliationConfig.default : ReconciliationConfig :=
  { backoffBaseSecs := 5, backoffMaxSecs := 300, minMissAgeSecs := 120, minFillRatio := 1
    tradeLookbackSecs := 5 }

inductive EvidenceVerdict
  | filled (shares : Shares) (price : Price) (orderId : Option OrderId) (txHash : Option String)
      (clobTrade : Option ClobTrade) (note : String)
  | miss (note : String)
  | defer (note : String)
deriving DecidableEq, Repr

namespace Evidence

def sharesEqualLot (a b : Shares) : Bool := a = b

def orderMatchesTrade (clobTrade : ClobTrade) (trade : TradeInfo) : Bool :=
  trade.orderId = some clobTrade.orderId ||
    clobTrade.side = trade.side && sharesEqualLot clobTrade.size trade.shares

def minMissAge (config : ReconciliationConfig) : Duration :=
  Duration.seconds (min config.minMissAgeSecs i64Max)

def ownOrderFill (trade : TradeInfo) (item : ClobTrade) : Bool :=
  trade.orderId = some item.orderId && 0 < item.size

def windowFill (trade : TradeInfo) (config : ReconciliationConfig) (now : DateTime)
    (item : ClobTrade) : Bool :=
  match trade.submittedAt with
  | some submittedAt =>
    item.side = trade.side &&
      submittedAt - Duration.seconds config.tradeLookbackSecs ≤ item.matchedAt &&
      item.matchedAt ≤ now && sharesEqualLot item.size trade.shares
  | none => false

def missBlocker (trade : TradeInfo) (item : ClobTrade) : Bool :=
  item.side = trade.side && 0 < item.size && orderMatchesTrade item trade

def filledBy (clobTrade : ClobTrade) (note : String) : EvidenceVerdict :=
  .filled clobTrade.size clobTrade.price (some clobTrade.orderId) (some clobTrade.txHash)
    (some clobTrade) note

def exactOrderRung (trade : TradeInfo) (clobTrades : List ClobTrade) : Option EvidenceVerdict :=
  (clobTrades.find? (ownOrderFill trade)).map
    (filledBy · "L1: order_id exact match in CLOB trades")

def windowRung (trade : TradeInfo) (clobTrades : List ClobTrade) (competingPending : Bool)
    (config : ReconciliationConfig) (now : DateTime) : Option EvidenceVerdict :=
  if competingPending then none
  else (clobTrades.find? (windowFill trade config now)).map
    (filledBy · "L2: CLOB trade window match with exact plan shares")

def balanceRung (trade : TradeInfo) (ctfBalanceNow : Shares) (config : ReconciliationConfig) :
    Option EvidenceVerdict :=
  match trade.preSubmitCtfBalance with
  | some preBalance =>
    let delta := ctfBalanceNow - preBalance
    let minShares := trade.shares * config.minFillRatio
    if minShares ≤ delta ∧ 0 < delta then
      some (.filled delta trade.price trade.orderId trade.txHash none
        ("L3: CTF delta " ++ toString delta ++ " >= min fill " ++ toString minShares))
    else none
  | none => none

def missRung (trade : TradeInfo) (clobTrades : List ClobTrade) (ctfBalanceNow : Shares)
    (config : ReconciliationConfig) (now : DateTime) : Option EvidenceVerdict :=
  match trade.submittedAt with
  | some submittedAt =>
    if submittedAt + minMissAge config ≤ now then
      -- a trade without a snapshot counts as one whose balance did not move
      let delta : Shares := match trade.preSubmitCtfBalance with
        | some pre => ctfBalanceNow - pre
        | none => 0
      if delta = 0 ∧ clobTrades.any (missBlocker trade) = false then
        some (.miss "L4: no CLOB match, zero CTF delta, min miss age elapsed")
      else none
    else none
  | none => none

def evaluateEvidenceLadder (trade : TradeInfo) (clobTrades : List ClobTrade)
    (ctfBalanceNow : Shares) (competingPending : Bool) (config : ReconciliationConfig)
    (now : DateTime) : EvidenceVerdict :=
  (exactOrderRung trade clobTrades <|>
    windowRung trade clobTrades competingPending config now <|>
    balanceRung trade ctfBalanceNow config <|>
    missRung trade clobTrades ctfBalanceNow config now).getD
    (.defer "L5: insufficient evidence — defer with backoff")

/-! ## What each verdict rests on -/

/-- What a fill is credited with: a venue record, or an increase of the balance. -/
inductive Credit
  | record (item : ClobTrade)
  | increase (tokenId : TokenId) (pre balance : Shares)
deriving DecidableEq, Repr

def Credit.shares : Credit → Shares
  | .record item => item.size
  | .increase _ pre balance => balance - pre

def Credit.verdict (trade : TradeInfo) (note : String) : Credit → EvidenceVerdict
  | .record item => filledBy item note
  | .increase _ pre balance =>
    .filled (balance - pre) trade.price trade.orderId trade.txHash none note

def Credit.clobTrade : Credit → Option ClobTrade
  | .record item => some item
  | .increase _ _ _ => none

def Credit.price (trade : TradeInfo) : Credit → Price
  | .record item => item.price
  | .increase _ _ _ => trade.price

section Ladder

variable (trade : TradeInfo) (clobTrades : List ClobTrade) (ctfBalanceNow : Shares)
  (competingPending : Bool) (config : ReconciliationConfig) (now : DateTime)

/-- The credit the fill rungs find: the first fill of the trade's own order; else,
without competition, the first record in the window; else a large enough balance
increase. -/
inductive Finds : Credit → Prop
  | order {item : ClobTrade} (hfind : clobTrades.find? (ownOrderFill trade) = some item) :
      Finds (.record item)
  | window {item : ClobTrade} (horder : ∀ item ∈ clobTrades, ownOrderFill trade item = false)
      (hcompeting : competingPending = false)
      (hfind : clobTrades.find? (windowFill trade config now) = some item) :
      Finds (.record item)
  | balance {pre : Shares} (horder : ∀ item ∈ clobTrades, ownOrderFill trade item = false)
      (hwindow : competingPending = true ∨
        ∀ item ∈ clobTrades, windowFill trade config now item = false)
      (hpre : trade.preSubmitCtfBalance = some pre)
      (hmin : trade.shares * config.minFillRatio ≤ ctfBalanceNow - pre)
      (hpos : pre < ctfBalanceNow) : Finds (.increase trade.tokenId pre ctfBalanceNow)

variable {trade clobTrades ctfBalanceNow competingPending config now}

theorem exactOrderRung_eq_none :
    exactOrderRung trade clobTrades = none ↔
      ∀ item ∈ clobTrades, ownOrderFill trade item = false := by
  simp [exactOrderRung, List.find?_eq_none]

theorem windowRung_eq_none :
    windowRung trade clobTrades competingPending config now = none ↔
      competingPending = true ∨ ∀ item ∈ clobTrades, windowFill trade config now item = false := by
  cases competingPending <;> simp [windowRung, List.find?_eq_none]

theorem balanceRung_of_unmoved
    (h : trade.preSubmitCtfBalance = none ∨ trade.preSubmitCtfBalance = some ctfBalanceNow) :
    balanceRung trade ctfBalanceNow config = none := by
  unfold balanceRung
  rcases h with h | h <;> simp [h]

theorem missRung_eq_some {v : EvidenceVerdict} :
    missRung trade clobTrades ctfBalanceNow config now = some v ↔
      (∃ submittedAt, trade.submittedAt = some submittedAt ∧
        submittedAt + minMissAge config ≤ now) ∧
      (trade.preSubmitCtfBalance = none ∨ trade.preSubmitCtfBalance = some ctfBalanceNow) ∧
      (∀ item ∈ clobTrades, missBlocker trade item = false) ∧
      .miss "L4: no CLOB match, zero CTF delta, min miss age elapsed" = v := by
  unfold missRung
  cases trade.submittedAt with
  | none => simp
  | some submittedAt =>
    cases trade.preSubmitCtfBalance with
    | none => simp
    | some pre => simp [and_assoc, sub_eq_zero, eq_comm (a := pre)]

theorem ladder_of_finds {credit : Credit}
    (h : Finds trade clobTrades ctfBalanceNow competingPending config now credit) :
    ∃ note, evaluateEvidenceLadder trade clobTrades ctfBalanceNow competingPending config now
      = credit.verdict trade note := by
  unfold evaluateEvidenceLadder
  cases h with
  | order hfind =>
    refine ⟨"L1: order_id exact match in CLOB trades", ?_⟩
    simp [exactOrderRung, hfind, Credit.verdict]
  | window horder hcompeting hfind =>
    refine ⟨"L2: CLOB trade window match with exact plan shares", ?_⟩
    rw [exactOrderRung_eq_none.mpr horder]
    simp [windowRung, hcompeting, hfind, Credit.verdict]
  | balance horder hwindow hpre hmin hpos =>
    rw [exactOrderRung_eq_none.mpr horder, windowRung_eq_none.mpr hwindow]
    simp [balanceRung, hpre, hmin, hpos, Credit.verdict]

theorem not_finds_iff :
    (∀ credit, ¬ Finds trade clobTrades ctfBalanceNow competingPending config now credit) ↔
      (∀ item ∈ clobTrades, ownOrderFill trade item = false) ∧
      (competingPending = true ∨
        ∀ item ∈ clobTrades, windowFill trade config now item = false) ∧
      balanceRung trade ctfBalanceNow config = none := by
  constructor
  · intro h
    have horder : ∀ item ∈ clobTrades, ownOrderFill trade item = false := by
      cases hfind : clobTrades.find? (ownOrderFill trade) with
      | none => simpa using hfind
      | some item => exact absurd (.order hfind) (h _)
    have hwindow : competingPending = true ∨
        ∀ item ∈ clobTrades, windowFill trade config now item = false := by
      cases hfind : clobTrades.find? (windowFill trade config now) with
      | none => exact Or.inr (by simpa using hfind)
      | some item =>
        left
        by_contra hc
        exact h _ (.window horder (by simpa using hc) hfind)
    refine ⟨horder, hwindow, ?_⟩
    unfold balanceRung
    cases hpre : trade.preSubmitCtfBalance with
    | none => rfl
    | some pre =>
      refine if_neg fun hd => h _ (.balance horder hwindow hpre hd.1 ?_)
      exact sub_pos.mp hd.2
  · rintro ⟨horder, hwindow, hbalance⟩ credit hf
    cases hf with
    | order hfind =>
      have hmem := horder _ (List.mem_of_find?_eq_some hfind)
      rw [List.find?_some hfind] at hmem
      cases hmem
    | window _ hcompeting hfind =>
      rcases hwindow with hc | hw
      · rw [hcompeting] at hc
        cases hc
      · have hmem := hw _ (List.mem_of_find?_eq_some hfind)
        rw [List.find?_some hfind] at hmem
        cases hmem
    | balance _ _ hpre hmin hpos => simp [balanceRung, hpre, hmin, hpos] at hbalance

theorem ladder_of_not_finds
    (h : ∀ credit, ¬ Finds trade clobTrades ctfBalanceNow competingPending config now credit) :
    evaluateEvidenceLadder trade clobTrades ctfBalanceNow competingPending config now =
      (missRung trade clobTrades ctfBalanceNow config now).getD
        (.defer "L5: insufficient evidence — defer with backoff") := by
  obtain ⟨horder, hwindow, hbalance⟩ := not_finds_iff.mp h
  unfold evaluateEvidenceLadder
  rw [exactOrderRung_eq_none.mpr horder, windowRung_eq_none.mpr hwindow, hbalance]
  rfl

/-- **The exact condition of a miss**: the fill rungs find nothing, the trade is old
enough, its balance did not move as far as is known, and no record speaks against it. -/
theorem ladder_miss_iff {note : String} :
    evaluateEvidenceLadder trade clobTrades ctfBalanceNow competingPending config now
        = .miss note ↔
      (∀ credit, ¬ Finds trade clobTrades ctfBalanceNow competingPending config now credit) ∧
      missRung trade clobTrades ctfBalanceNow config now = some (.miss note) := by
  by_cases hf : ∃ credit,
      Finds trade clobTrades ctfBalanceNow competingPending config now credit
  · obtain ⟨credit, hc⟩ := hf
    obtain ⟨n, hn⟩ := ladder_of_finds hc
    rw [hn]
    refine ⟨fun h => ?_, fun h => absurd hc (h.1 credit)⟩
    cases credit <;> cases h
  · have hnone := not_exists.mp hf
    rw [ladder_of_not_finds hnone]
    refine ⟨fun h => ⟨hnone, ?_⟩, fun h => by rw [h.2]; rfl⟩
    cases hm : missRung trade clobTrades ctfBalanceNow config now with
    | none =>
      rw [hm] at h
      cases h
    | some v =>
      rw [hm] at h
      exact congrArg some h

/-- What a miss claims: the balance recorded before submission is still there, no
record matches the trade, and the minimum age has elapsed. -/
def MissProven (trade : TradeInfo) (clobTrades : List ClobTrade) (ctfBalanceNow : Shares)
    (config : ReconciliationConfig) (now : DateTime) : Prop :=
  trade.preSubmitCtfBalance = some ctfBalanceNow ∧
    (∀ item ∈ clobTrades, orderMatchesTrade item trade = false) ∧
    ∃ submittedAt, trade.submittedAt = some submittedAt ∧ submittedAt + minMissAge config ≤ now

/-- The record keeps the ladder from a miss. -/
def PreventsMiss (trade : TradeInfo) (competingPending : Bool) (config : ReconciliationConfig)
    (now : DateTime) (item : ClobTrade) : Prop :=
  ownOrderFill trade item = true ∨
    competingPending = false ∧ windowFill trade config now item = true ∨
    missBlocker trade item = true

/-- **When a miss is proven.** Every miss verdict rests on a recorded and unmoved
balance, no matching record and the minimum age exactly when the trade was never
submitted, or is too young, or a record prevents the miss, or a balance was recorded
that has moved or that no record (of whatever size) contradicts. -/
theorem miss_proven_iff (trade : TradeInfo) (clobTrades : List ClobTrade)
    (ctfBalanceNow : Shares) (competingPending : Bool) (config : ReconciliationConfig)
    (now : DateTime) :
    (∀ note, evaluateEvidenceLadder trade clobTrades ctfBalanceNow competingPending config now
        = .miss note → MissProven trade clobTrades ctfBalanceNow config now) ↔
      (∀ submittedAt, trade.submittedAt = some submittedAt →
        now < submittedAt + minMissAge config) ∨
      (∃ item ∈ clobTrades, PreventsMiss trade competingPending config now item) ∨
      ∃ pre, trade.preSubmitCtfBalance = some pre ∧
        (ctfBalanceNow ≠ pre ∨ ∀ item ∈ clobTrades, orderMatchesTrade item trade = false) := by
  constructor
  · intro h
    by_contra hn
    simp only [not_or, not_forall, not_exists, not_and, not_lt, exists_prop, ne_eq,
      not_not] at hn
    obtain ⟨⟨submittedAt, hs, hage⟩, hprev, hpre⟩ := hn
    have hunmoved : trade.preSubmitCtfBalance = none ∨
        trade.preSubmitCtfBalance = some ctfBalanceNow := by
      cases hp : trade.preSubmitCtfBalance with
      | none => exact Or.inl rfl
      | some pre => exact Or.inr (by rw [(hpre pre hp).1])
    -- nothing prevents the miss, so the ladder reports one
    have hmiss : evaluateEvidenceLadder trade clobTrades ctfBalanceNow competingPending config
        now = .miss "L4: no CLOB match, zero CTF delta, min miss age elapsed" := by
      refine ladder_miss_iff.mpr ⟨not_finds_iff.mpr ⟨?_, ?_, ?_⟩, missRung_eq_some.mpr
        ⟨⟨submittedAt, hs, hage⟩, hunmoved, ?_, rfl⟩⟩
      · exact fun item hi => by simpa using fun ho => hprev item hi (Or.inl ho)
      · by_cases hc : competingPending = true
        · exact Or.inl hc
        · exact Or.inr fun item hi => by
            simpa using fun hw => hprev item hi (Or.inr (Or.inl ⟨by simpa using hc, hw⟩))
      · exact balanceRung_of_unmoved hunmoved
      · exact fun item hi => by simpa using fun hb => hprev item hi (Or.inr (Or.inr hb))
    obtain ⟨hrec, hno, -⟩ := h _ hmiss
    obtain ⟨-, item, hi, hm⟩ := hpre _ hrec
    exact hm (hno item hi)
  · intro hcond note hmiss
    obtain ⟨hnf, hrung⟩ := ladder_miss_iff.mp hmiss
    obtain ⟨horder, hwindow, -⟩ := not_finds_iff.mp hnf
    obtain ⟨⟨submittedAt, hs, hage⟩, hunmoved, hblock, -⟩ := missRung_eq_some.mp hrung
    rcases hcond with hyoung | ⟨item, hi, hp⟩ | ⟨pre, hpre, hrest⟩
    · exact absurd (hyoung submittedAt hs) (not_lt.mpr hage)
    · rcases hp with ho | ⟨hc, hw⟩ | hb
      · simp [horder item hi] at ho
      · rcases hwindow with hc' | hw'
        · simp [hc] at hc'
        · simp [hw' item hi] at hw
      · simp [hblock item hi] at hb
    · have hbal : trade.preSubmitCtfBalance = some ctfBalanceNow :=
        hunmoved.resolve_left (by simp [hpre])
      have heq : ctfBalanceNow = pre := Option.some.inj (hbal.symm.trans hpre)
      exact ⟨hbal, hrest.resolve_left (not_not.mpr heq), submittedAt, hs, hage⟩

/-- An orphaned order for ten shares, without a balance snapshot. -/
def unsnapshottedTrade : TradeInfo :=
  { tradeId := ⟨1⟩, reservationId := ⟨"r"⟩, marketId := ⟨"m"⟩, tokenId := ⟨"yes"⟩, side := .buy
    shares := 10
    price := 97 / 100, costUsd := 97 / 10, feeUsd := 0, netProfitUsd := none, orderId := none
    txHash := none, state := .orphaned, businessOutcome := none
    resolutionProb := some (99 / 100), category := .sports
    needsReconcile := true, reconcileResolution := none, reconciledAt := none
    reconcileNote := none
    preSubmitCtfBalance := none, reconcileAttempts := 0, reconcileDeferUntil := none
    postTradeClaimOwner := none, postTradeClaimedAt := none, postTradeAttempts := 0
    executionMode := .live, errorMessage := none, submittedAt := some 0, confirmedAt := none }

/-- Ten shares bought and no snapshot to tell: once the age has elapsed, the ladder
reports a miss while the holder owns ten shares. -/
theorem miss_without_snapshot :
    evaluateEvidenceLadder unsnapshottedTrade [] 10 false .default (Duration.seconds 300)
        = .miss "L4: no CLOB match, zero CTF delta, min miss age elapsed" ∧
      ¬ MissProven unsnapshottedTrade [] 10 .default (Duration.seconds 300) := by
  refine ⟨by decide +kernel, ?_⟩
  rintro ⟨hpre, -⟩
  cases hpre

end Ladder

end Evidence

end OxideArb
