import OxideArb.Detection.Detector

/-!
# Validation before execution

Right before execution the validator looks at the book store again. For a purchase the price is
the best ask of the YES token, whichever token the opportunity buys (`validate_buy_ok_iff`).
-/

namespace OxideArb

structure ValidatorParams where
  maxSlippageBps : Decimal
  maxBookToOrderMs : Nat
deriving DecidableEq, Repr

structure StalenessThresholds where
  fresh : Nat
  acceptable : Nat
  stale : Nat
deriving DecidableEq, Repr

def StalenessThresholds.classify (thresholds : StalenessThresholds) (ageMs : Nat) :
    StalenessLevel :=
  if ageMs ≤ thresholds.fresh then .fresh
  else if ageMs ≤ thresholds.acceptable then .acceptable
  else if ageMs ≤ thresholds.stale then .stale
  else .expired

/-- `staleness > Acceptable`. -/
def StalenessLevel.tooStale : StalenessLevel → Bool
  | .fresh => false
  | .acceptable => false
  | .stale => true
  | .expired => true

/-- `{staleness:?}`. -/
def StalenessLevel.debug : StalenessLevel → String
  | .fresh => "Fresh"
  | .acceptable => "Acceptable"
  | .stale => "Stale"
  | .expired => "Expired"

structure ValidationResult where
  currentPrice : Price
  staleness : StalenessLevel
  slippageBps : Int
  validatedAt : DateTime
deriving DecidableEq, Repr

structure Validator where
  bookStore : BookStore
  stalenessClassifier : StalenessThresholds
  params : ValidatorParams

namespace Validator

/-- Slippage in whole basis points of the entry price, none at an entry price of zero. -/
def slippageBps (currentPrice entryPrice : Price) : Int :=
  if 0 < entryPrice then roundHalfEven (|currentPrice - entryPrice| / entryPrice * 10000) else 0

variable (direction : ConvergenceDirection) (v : Validator) (yesAsk : MicroPrice)

def validate (nowMs : Nat) (validatedAt : DateTime) (opp : Opportunity) (tokenYes tokenNo : TokenId)
    (bookYesVersion bookNoVersion : Nat) : Except String ValidationResult :=
  match v.bookStore.topOfBookTokens tokenYes tokenNo nowMs with
  | none => .error "book not available"
  | some top =>
    if top.yesVersion < bookYesVersion ∨ top.noVersion < bookNoVersion then
      .error "book version regressed since detection"
    else if v.params.maxBookToOrderMs < top.maxStalenessMs then
      .error ("book age " ++ toString top.maxStalenessMs ++ "ms exceeds SLO-2 budget "
        ++ toString v.params.maxBookToOrderMs ++ "ms")
    else
      let staleness := v.stalenessClassifier.classify top.maxStalenessMs
      if staleness.tooStale then .error ("book staleness " ++ staleness.debug)
      else
        let price := match opp.side with
          | .buy => top.yesBestAsk
          | .sell => top.yesBestBid
        match price with
        | none => .error "no price on relevant side"
        | some currentPrice =>
          let slippage := slippageBps currentPrice opp.entryPrice
          if v.params.maxSlippageBps < slippage then
            .error ("slippage " ++ toString slippage ++ "bps exceeds max "
              ++ toString v.params.maxSlippageBps ++ "bps")
          else .ok { currentPrice, staleness, slippageBps := slippage, validatedAt }

def bestAskOf (token : TokenId) : Option Price :=
  (v.bookStore.load token).bind (·.bestAsk)

/-- Both books are there, not older than at detection, and fresh enough. -/
def BooksFresh (nowMs : Nat) (tokenYes tokenNo : TokenId) (bookYesVersion bookNoVersion : Nat) :
    Prop :=
  ∃ yes no, v.bookStore.load tokenYes = some yes ∧ v.bookStore.load tokenNo = some no ∧
    bookYesVersion ≤ yes.version ∧ bookNoVersion ≤ no.version ∧
    max (nowMs - yes.timestampMs) (nowMs - no.timestampMs) ≤ v.params.maxBookToOrderMs ∧
    (v.stalenessClassifier.classify
      (max (nowMs - yes.timestampMs) (nowMs - no.timestampMs))).tooStale = false

/-- **When a purchase is accepted, and at which price**: the books are fresh and the
price is the YES token's best ask, within the slippage limit. -/
theorem validate_buy_ok_iff {v : Validator} {nowMs : Nat} {validatedAt : DateTime}
    {opp : Opportunity} {tokenYes tokenNo : TokenId} {vy vn : Nat} (hbuy : opp.side = .buy)
    {price : Price} :
    (∃ r, v.validate nowMs validatedAt opp tokenYes tokenNo vy vn = .ok r ∧
        r.currentPrice = price) ↔
      v.BooksFresh nowMs tokenYes tokenNo vy vn ∧ v.bestAskOf tokenYes = some price ∧
        slippageBps price opp.entryPrice ≤ v.params.maxSlippageBps := by
  constructor
  · rintro ⟨r, hr, rfl⟩
    unfold validate BookStore.topOfBookTokens at hr
    cases hy : v.bookStore.load tokenYes with
    | none => simp [hy] at hr
    | some yes =>
    cases hn : v.bookStore.load tokenNo with
    | none => simp [hy, hn] at hr
    | some no =>
    simp only [hy, hn, hbuy] at hr
    split at hr
    · cases hr
    rename_i hversions
    split at hr
    · cases hr
    rename_i hage
    split at hr
    · cases hr
    rename_i hstale
    split at hr
    · cases hr
    rename_i ask hask
    split at hr
    · cases hr
    rename_i hslip
    cases hr
    rw [not_or, not_lt, not_lt] at hversions
    exact ⟨⟨yes, no, hy, hn, hversions.1, hversions.2, not_lt.mp hage, by simpa using hstale⟩,
      by simp [bestAskOf, hy, hask], not_lt.mp hslip⟩
  · rintro ⟨⟨yes, no, hy, hn, hvy, hvn, hage, hstale⟩, hask, hslip⟩
    have hask' : yes.bestAsk = some price := by simpa [bestAskOf, hy] using hask
    refine ⟨⟨price, v.stalenessClassifier.classify
      (max (nowMs - yes.timestampMs) (nowMs - no.timestampMs)),
      slippageBps price opp.entryPrice, validatedAt⟩, ?_, rfl⟩
    unfold validate BookStore.topOfBookTokens
    simp only [hy, hn, hbuy, hask']
    rw [if_neg (by simp [hvy, hvn]), if_neg (not_lt.mpr hage), if_neg (by simp [hstale]),
      if_neg (not_lt.mpr hslip)]

/-- A price within a number of basis points of the entry price; only zero is within
any number of basis points of zero. -/
def WithinSlippage (maxBps : Decimal) (price entryPrice : Price) : Prop :=
  if 0 < entryPrice then
    (roundHalfEven (|price - entryPrice| / entryPrice * 10000) : Decimal) ≤ maxBps
  else price = entryPrice

/-- The accepted price is the best ask of the token the opportunity buys, within the
slippage limit. -/
def ConcernsTradedToken (opp : Opportunity) (r : ValidationResult) : Prop :=
  v.bestAskOf opp.tokenId = some r.currentPrice ∧
    WithinSlippage v.params.maxSlippageBps r.currentPrice opp.entryPrice

theorem withinSlippage_iff {maxBps : Decimal} {price entryPrice : Price}
    (h : slippageBps price entryPrice ≤ maxBps) :
    WithinSlippage maxBps price entryPrice ↔ 0 < entryPrice ∨ price = entryPrice := by
  unfold WithinSlippage
  unfold slippageBps at h
  by_cases hpos : 0 < entryPrice
  · rw [if_pos hpos] at h ⊢
    simp [h, hpos]
  · rw [if_neg hpos]
    simp [hpos]

/-- **When validation concerns the traded token.** For an opportunity of the detector,
every accepted validation is about the token to be bought exactly when, for a YES ask
that passes the checks, the direction is YES or the NO ask is the same price, and the
entry price is positive or equal to the ask. -/
theorem validate_concernsTradedToken_iff {det : EndgameDetector} {input : EndgameDetectInput}
    {now : DateTime} {opp : Opportunity}
    (hdet : (det.detectWithDirection input now).1 = .ok opp) (v : Validator)
    (nowMs : Nat) (validatedAt : DateTime) (bookYesVersion bookNoVersion : Nat) :
    (∀ r, v.validate nowMs validatedAt opp input.tokenYes input.tokenNo bookYesVersion
        bookNoVersion = .ok r → v.ConcernsTradedToken opp r) ↔
      ∀ ask, v.BooksFresh nowMs input.tokenYes input.tokenNo bookYesVersion bookNoVersion →
        v.bestAskOf input.tokenYes = some ask →
        slippageBps ask opp.entryPrice ≤ v.params.maxSlippageBps →
        (input.direction = .yesLikely ∨ v.bestAskOf input.tokenNo = some ask) ∧
          (0 < opp.entryPrice ∨ ask = opp.entryPrice) := by
  obtain ⟨hbuy, htoken, -⟩ := EndgameDetector.detectWithDirection_ok hdet
  -- the bought token has the YES ask as its best ask in exactly these two cases
  have htraded : ∀ ask, v.bestAskOf input.tokenYes = some ask →
      (v.bestAskOf opp.tokenId = some ask ↔
        input.direction = .yesLikely ∨ v.bestAskOf input.tokenNo = some ask) := by
    intro ask hask
    rw [htoken]
    unfold EndgameDetector.target
    cases input.direction <;> simp [hask]
  constructor
  · intro h ask hfresh hask hslip
    obtain ⟨r, hr, rfl⟩ := (validate_buy_ok_iff hbuy).mpr ⟨hfresh, hask, hslip⟩
    obtain ⟨hbest, hwithin⟩ := h r hr
    exact ⟨(htraded _ hask).mp hbest, (withinSlippage_iff hslip).mp hwithin⟩
  · intro h r hr
    obtain ⟨hfresh, hask, hslip⟩ := (validate_buy_ok_iff hbuy).mp ⟨r, hr, rfl⟩
    obtain ⟨hleg, hentry⟩ := h _ hfresh hask hslip
    exact ⟨(htraded _ hask).mpr hleg, (withinSlippage_iff hslip).mpr hentry⟩

def askStore (noAsk : MicroPrice) : BookStore :=
  (BookStore.new.applySnapshot ⟨"yes"⟩ [] [⟨yesAsk, 100000000⟩] 1000).applySnapshot ⟨"no"⟩ []
    [⟨noAsk, 100000000⟩] 1000

/-- A detector with default settings, no fees and no outcomes yet; the market "m" has
been converging since instant zero. -/
def sampleDetector : EndgameDetector :=
  { params := .fromConfig .default .default
    convergence := ⟨fun id => if id = ⟨"m"⟩ then some ⟨direction, 0⟩ else none⟩
    calibrator := .fromEntries [] .default
    estimateFee := fun _ _ _ _ => 0 }

/-- Books with the given best asks, one hour before settlement. -/
def sampleInput (noAsk : MicroPrice) : EndgameDetectInput :=
  { marketId := ⟨"m"⟩, eventId := ⟨"e"⟩, tokenYes := ⟨"yes"⟩, tokenNo := ⟨"no"⟩
    book := ⟨.new [] [⟨yesAsk, 100000000⟩] 1000 1, .new [] [⟨noAsk, 100000000⟩] 1000 1⟩
    direction, category := .sports, staleness := .fresh
    settlementDeadline := some (Duration.seconds 4200) }

/-- The opportunity detected after ten minutes of convergence. -/
def sampleDetection (noAsk : MicroPrice) : Except DetectionRejectReason Opportunity :=
  ((sampleDetector direction).detectWithDirection (sampleInput direction yesAsk noAsk)
    (Duration.seconds 600)).1

def sampleValidator (store : BookStore) : Validator :=
  ⟨store, ⟨1000, 3000, 5000⟩, ⟨50, 2000⟩⟩

/-- A YES purchase at 0.96 is validated against the YES ask. -/
theorem validate_concernsTradedToken_yes :
    ∃ opp, sampleDetection .yesLikely 960000 60000 = .ok opp ∧ 0 < opp.entryPrice ∧
      ∀ r, (sampleValidator (askStore 960000 50000)).validate 1500 0 opp ⟨"yes"⟩ ⟨"no"⟩ 1 1
          = .ok r →
        (sampleValidator (askStore 960000 50000)).ConcernsTradedToken opp r := by
  have hentry : ∃ o ∈ (sampleDetection .yesLikely 960000 60000).toOption, 0 < o.entryPrice := by
    decide +kernel
  obtain ⟨opp, hopp, hpos⟩ := hentry
  have hdet : sampleDetection .yesLikely 960000 60000 = .ok opp := by
    cases hd : sampleDetection .yesLikely 960000 60000 with
    | error e => simp [hd, Except.toOption] at hopp
    | ok o => simpa [hd, Except.toOption] using hopp
  refine ⟨opp, hdet, hpos, (validate_concernsTradedToken_iff hdet _ 1500 0 1 1).mpr ?_⟩
  intro ask _ _ _
  exact ⟨Or.inl rfl, Or.inl hpos⟩

/-- A NO purchase at 0.96, after the NO ask has fallen to 0.50 and the YES ask risen to
0.96: the validation is accepted, at the YES price. -/
theorem no_purchase_validated_at_yes_ask :
    (sampleDetector .noLikely).detectDirection (sampleInput .noLikely 60000 960000).book =
        some .noLikely ∧
      ∃ opp ∈ (sampleDetection .noLikely 60000 960000).toOption,
        opp.tokenId = ⟨"no"⟩ ∧ opp.entryPrice = 96 / 100 ∧
        (sampleValidator (askStore 960000 500000)).bestAskOf ⟨"no"⟩ = some (50 / 100) ∧
        (sampleValidator (askStore 960000 500000)).validate 1500 0 opp ⟨"yes"⟩ ⟨"no"⟩ 1 1 =
          .ok ⟨96 / 100, .fresh, 0, 0⟩ := by
  decide +kernel

end Validator

end OxideArb
