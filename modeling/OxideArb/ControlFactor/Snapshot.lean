import Mathlib.Data.List.Induction
import Mathlib.Data.List.Perm.Basic
import OxideArb.ControlFactor.Publication
import OxideArb.Lib.Checked

/-!
# The compiled snapshot

The refresher compiles the active publication into indexes that the hot path reads.
-/

namespace OxideArb.ControlFactor

def LIVE_SNAPSHOT_SCHEMA_VERSION : Nat := 1

structure IndexedFactor (P : Type) where
  factorId : ControlFactorId
  payload : P
deriving DecidableEq, Repr

/-- One application of a factor to a live decision, for the audit trail. -/
structure AppliedControlFactor where
  factorId : ControlFactorId
  factorType : ControlFactorType
  publicationId : FactorPublicationId
  inputValue : Decimal
  outputValue : Decimal
  reason : String
deriving DecidableEq, Repr

/-! ## Indexes -/

structure BucketRiskIndex where
  entries : BucketRiskDimensions → Option (IndexedFactor BucketRiskPayload)

namespace BucketRiskIndex

def default : BucketRiskIndex := ⟨fun _ => none⟩

variable (index : BucketRiskIndex) (dims : BucketRiskDimensions)

def insert (factorId : ControlFactorId) (payload : BucketRiskPayload) : BucketRiskIndex :=
  ⟨Function.update index.entries dims (some { factorId, payload })⟩

def fallbackKeys : List BucketRiskDimensions :=
  [dims, { dims with feeProfile := none }, { dims with feeProfile := none, negRisk := none },
    { dims with feeProfile := none, negRisk := none, hoursToSettlementBucket := none }]

def lookup : Option (IndexedFactor BucketRiskPayload) :=
  (fallbackKeys dims).findSome? index.entries

theorem lookup_coarse (category : MarketCategory) (priceZone : PriceZone)
    (durationBucket : DurationBucket) : index.lookup (.coarse category priceZone durationBucket) =
      index.entries (.coarse category priceZone durationBucket) := by
  have hkeys : fallbackKeys (.coarse category priceZone durationBucket) =
      List.replicate 4 (.coarse category priceZone durationBucket) := rfl
  unfold lookup
  rw [hkeys]
  cases h : index.entries (.coarse category priceZone durationBucket) with
  | none => simp [h]
  | some found => simp [List.replicate, h]

end BucketRiskIndex

structure ExecutionQualityIndex where
  entries : ExecutionQualityDimensions → Option (IndexedFactor ExecutionQualityPayload)

namespace ExecutionQualityIndex

def default : ExecutionQualityIndex := ⟨fun _ => none⟩

variable (index : ExecutionQualityIndex)

def insert (dims : ExecutionQualityDimensions) (factorId : ControlFactorId)
    (payload : ExecutionQualityPayload) : ExecutionQualityIndex :=
  ⟨Function.update index.entries dims (some { factorId, payload })⟩

def lookup (dims : ExecutionQualityDimensions) : Option (IndexedFactor ExecutionQualityPayload) :=
  match index.entries dims with
  | some found => some found
  | none =>
    if dims.latencyBucket ≠ .unknown then index.entries { dims with latencyBucket := .unknown }
    else none

end ExecutionQualityIndex

structure MarketAnomalyDecision where
  blockMarket : Bool
  blockEvent : Bool
  manualAckRequired : Bool
  reasonCode : Option String
  source : Option AppliedControlFactor
deriving DecidableEq, Repr

def MarketAnomalyDecision.default : MarketAnomalyDecision := ⟨false, false, false, none, none⟩

def MarketAnomalyDecision.isBlocking (decision : MarketAnomalyDecision) : Bool :=
  decision.blockMarket || decision.blockEvent

structure MarketAnomalyIndex where
  blockedMarkets : MarketId → Option (IndexedFactor MarketAnomalyPayload)
  blockedEvents : EventId → Option (IndexedFactor MarketAnomalyPayload)
  categoryCooldowns : MarketCategory → Option (IndexedFactor MarketAnomalyPayload)

namespace MarketAnomalyIndex

def default : MarketAnomalyIndex := ⟨fun _ => none, fun _ => none, fun _ => none⟩

variable (index : MarketAnomalyIndex) (factorId : ControlFactorId) (dims : MarketAnomalyDimensions)

def insertMarket (marketId : MarketId) (factorId : ControlFactorId) (payload : MarketAnomalyPayload) :
    MarketAnomalyIndex :=
  { index with
    blockedMarkets := Function.update index.blockedMarkets marketId (some { factorId, payload }) }

def insertEvent (eventId : EventId) (factorId : ControlFactorId) (payload : MarketAnomalyPayload) :
    MarketAnomalyIndex :=
  { index with
    blockedEvents := Function.update index.blockedEvents eventId (some { factorId, payload }) }

def insertCategory (category : MarketCategory) (factorId : ControlFactorId)
    (payload : MarketAnomalyPayload) : MarketAnomalyIndex :=
  { index with
    categoryCooldowns :=
      Function.update index.categoryCooldowns category (some { factorId, payload }) }

def marketBlock (marketId : MarketId) : Option (IndexedFactor MarketAnomalyPayload) :=
  (index.blockedMarkets marketId).filter (·.payload.blockMarket)

def eventBlock (eventId : EventId) : Option (IndexedFactor MarketAnomalyPayload) :=
  (index.blockedEvents eventId).filter (·.payload.blockEvent)

def categoryCooldownSecs (category : MarketCategory) : Option Nat :=
  (index.categoryCooldowns category).bind (·.payload.categoryCooldownSecs)

def decision (publicationId : FactorPublicationId) (marketId : MarketId) (eventId : EventId) :
    MarketAnomalyDecision :=
  let market := index.marketBlock marketId
  let event := index.eventBlock eventId
  let source := market.or event
  { blockMarket := market.isSome
    blockEvent := event.isSome
    manualAckRequired := (index.blockedMarkets marketId).any (·.payload.manualAckRequired) ||
      (index.blockedEvents eventId).any (·.payload.manualAckRequired)
    reasonCode := source.map (·.payload.reasonCode)
    source := source.map fun entry =>
      { factorId := entry.factorId, factorType := .marketAnomaly, publicationId, inputValue := 0
        outputValue := 1, reason := "market anomaly block: " ++ entry.payload.reasonCode } }

/-! An anomaly enters each of its three blocks when the flag and the key of the block are set. -/

def routeMarket (payload : MarketAnomalyPayload) : MarketAnomalyIndex :=
  match payload.blockMarket, dims.marketId with
  | true, some marketId => index.insertMarket marketId factorId payload
  | _, _ => index

def routeEvent (payload : MarketAnomalyPayload) : MarketAnomalyIndex :=
  match payload.blockEvent, dims.eventId with
  | true, some eventId => index.insertEvent eventId factorId payload
  | _, _ => index

def routeCategory (payload : MarketAnomalyPayload) : MarketAnomalyIndex :=
  match payload.categoryCooldownSecs, dims.category with
  | some _, some category => index.insertCategory category factorId payload
  | _, _ => index

def routeAnomaly (payload : MarketAnomalyPayload) : MarketAnomalyIndex :=
  ((index.routeMarket factorId dims payload).routeEvent factorId dims payload).routeCategory
    factorId dims payload

end MarketAnomalyIndex

structure PortfolioRiskDecision where
  globalSizeMultiplier : Decimal
  categorySizeMultiplier : Option Decimal
  dailyBudgetMultiplier : Decimal
  kellyFractionMultiplier : Decimal
  maxOpenPositions : Option Nat
  category : Option MarketCategory
  source : Option AppliedControlFactor
deriving DecidableEq, Repr

def PortfolioRiskDecision.default : PortfolioRiskDecision := ⟨1, none, 1, 1, none, none, none⟩

def minOptional (current candidate : Option Nat) : Option Nat :=
  match current, candidate with
  | some a, some b => some (min a b)
  | some a, none => some a
  | none, some b => some b
  | none, none => none

structure PortfolioRiskState where
  globalSizeMultiplier : Decimal
  dailyBudgetMultiplier : Decimal
  kellyFractionMultiplier : Decimal
  maxOpenPositions : Option Nat
  categoryMultipliers : MarketCategory → Option Decimal
  bindingFactorId : Option ControlFactorId

namespace PortfolioRiskState

def default : PortfolioRiskState := ⟨1, 1, 1, none, fun _ => none, none⟩

variable (state : PortfolioRiskState)

def absorb (factorId : ControlFactorId) (payload : PortfolioRiskPayload) : PortfolioRiskState :=
  let binds := payload.globalSizeMultiplier < state.globalSizeMultiplier
  { state with
    globalSizeMultiplier :=
      if binds then payload.globalSizeMultiplier else state.globalSizeMultiplier
    bindingFactorId := if binds then some factorId else state.bindingFactorId
    dailyBudgetMultiplier := min state.dailyBudgetMultiplier payload.dailyBudgetMultiplier
    kellyFractionMultiplier := min state.kellyFractionMultiplier payload.kellyFractionMultiplier
    maxOpenPositions := minOptional state.maxOpenPositions payload.maxOpenPositions }

def absorbCategory (category : MarketCategory) (multiplier : Decimal) : PortfolioRiskState :=
  { state with
    categoryMultipliers := Function.update state.categoryMultipliers category
      (some (min ((state.categoryMultipliers category).getD 1) multiplier)) }

def decision (publicationId : FactorPublicationId) (category : MarketCategory) :
    PortfolioRiskDecision :=
  { globalSizeMultiplier := state.globalSizeMultiplier
    categorySizeMultiplier := state.categoryMultipliers category
    dailyBudgetMultiplier := state.dailyBudgetMultiplier
    kellyFractionMultiplier := state.kellyFractionMultiplier
    maxOpenPositions := state.maxOpenPositions
    category := some category
    source := state.bindingFactorId.map fun factorId =>
      { factorId, factorType := .portfolioRisk, publicationId, inputValue := 1
        outputValue := state.globalSizeMultiplier
        reason := "portfolio risk worst-of size multiplier" } }

end PortfolioRiskState

structure ReconciliationHealthDecision where
  forceMaintenanceMode : Bool
  sizeMultiplier : Decimal
  requireManualAck : Bool
  source : Option AppliedControlFactor
deriving DecidableEq, Repr

def ReconciliationHealthDecision.default : ReconciliationHealthDecision := ⟨false, 1, false, none⟩

structure ReconciliationHealthState where
  forceMaintenanceMode : Bool
  sizeMultiplier : Decimal
  requireManualAck : Bool
  bindingFactorId : Option ControlFactorId
deriving DecidableEq, Repr

namespace ReconciliationHealthState

def default : ReconciliationHealthState := ⟨false, 1, false, none⟩

variable (state : ReconciliationHealthState)

def absorb (factorId : ControlFactorId) (payload : ReconciliationHealthPayload) :
    ReconciliationHealthState :=
  let forces := payload.forceMaintenanceMode && !state.forceMaintenanceMode
  let forced := state.forceMaintenanceMode || payload.forceMaintenanceMode
  let binding := if forces then some factorId else state.bindingFactorId
  let throttles := payload.sizeMultiplier < state.sizeMultiplier
  { forceMaintenanceMode := forced
    sizeMultiplier := if throttles then payload.sizeMultiplier else state.sizeMultiplier
    bindingFactorId := if throttles ∧ (binding.isNone ∨ !forced) then some factorId else binding
    requireManualAck := state.requireManualAck || payload.requireManualAck }

def decision (publicationId : FactorPublicationId) : ReconciliationHealthDecision :=
  { forceMaintenanceMode := state.forceMaintenanceMode
    sizeMultiplier := state.sizeMultiplier
    requireManualAck := state.requireManualAck
    source := state.bindingFactorId.map fun factorId =>
      { factorId, factorType := .reconciliationHealth, publicationId, inputValue := 1
        outputValue := state.sizeMultiplier
        reason := if state.forceMaintenanceMode then "reconciliation maintenance mode"
          else "reconciliation size throttle" } }

end ReconciliationHealthState

/-! ## Compilation -/

inductive SnapshotBuildError
  | schemaMismatch (factorId : String) (actual supported : Nat)
  | dimensionPayloadMismatch (factorId : String)
  | payloadConstraint (factorId : String) (source : PayloadSafetyError)
  | expiredSafetyFactor (factorId : String) (expiresAt now : DateTime)
deriving DecidableEq, Repr

structure ControlFactorSnapshot where
  publicationId : Option FactorPublicationId
  loadedAt : DateTime
  expiresAt : Option DateTime
  sourceVersion : String
  schemaVersion : Nat
  bucketRisk : BucketRiskIndex
  executionQuality : ExecutionQualityIndex
  portfolioRisk : PortfolioRiskState
  reconciliationHealth : ReconciliationHealthState
  marketAnomalies : MarketAnomalyIndex

namespace ControlFactorSnapshot

def neutral (loadedAt : DateTime) : ControlFactorSnapshot :=
  { publicationId := none, loadedAt, expiresAt := none, sourceVersion := ""
    schemaVersion := LIVE_SNAPSHOT_SCHEMA_VERSION
    bucketRisk := .default, executionQuality := .default, portfolioRisk := .default
    reconciliationHealth := .default, marketAnomalies := .default }

def isExpiredAt (snapshot : ControlFactorSnapshot) (now : DateTime) : Bool :=
  snapshot.expiresAt.any (· ≤ now)

def route (snapshot : ControlFactorSnapshot) (factor : ControlFactorValue) :
    Except SnapshotBuildError ControlFactorSnapshot :=
  let factorId := factor.factorId
  match factor.dimensions, factor.payload with
  | .bucketRisk dims, .bucketRisk payload =>
    .ok { snapshot with bucketRisk := snapshot.bucketRisk.insert dims factorId payload }
  | .executionQuality dims, .executionQuality payload =>
    .ok { snapshot with executionQuality := snapshot.executionQuality.insert dims factorId payload }
  | .portfolioRisk dims, .portfolioRisk payload =>
    let absorbed := snapshot.portfolioRisk.absorb factorId payload
    .ok { snapshot with
      portfolioRisk :=
        match dims.category, payload.categorySizeMultiplier with
        | some category, some multiplier => absorbed.absorbCategory category multiplier
        | _, _ => absorbed }
  | .reconciliationHealth _, .reconciliationHealth payload =>
    .ok { snapshot with
      reconciliationHealth := snapshot.reconciliationHealth.absorb factorId payload }
  | .marketAnomaly dims, .marketAnomaly payload =>
    .ok { snapshot with
      marketAnomalies := snapshot.marketAnomalies.routeAnomaly factorId dims payload }
  | _, _ => .error (.dimensionPayloadMismatch factorId.raw)

def compileFactor (now : DateTime) (failClosed : Bool) (snapshot : ControlFactorSnapshot)
    (factor : ControlFactorValue) : Except SnapshotBuildError ControlFactorSnapshot :=
  let factorId := factor.factorId.raw
  if factor.schemaVersion ≠ LIVE_SNAPSHOT_SCHEMA_VERSION then
    .error (.schemaMismatch factorId factor.schemaVersion LIVE_SNAPSHOT_SCHEMA_VERSION)
  else if factor.factorType ≠ factor.payload.factorType then
    .error (.dimensionPayloadMismatch factorId)
  else if factor.dimensions.factorType.any (· ≠ factor.factorType) then
    .error (.dimensionPayloadMismatch factorId)
  else
    match factor.payload.validateSafety with
    | .error source => .error (.payloadConstraint factorId source)
    | .ok () =>
      if factor.expiresAt ≤ now then
        let behavior := factor.payload.severity.elim factor.factorType.expiryBehavior
          factor.factorType.effectiveExpiryBehavior
        if behavior = .failClosedIfCritical ∧ failClosed then
          .error (.expiredSafetyFactor factorId factor.expiresAt now)
        else .ok snapshot
      else snapshot.route factor

def compile (publication : ControlFactorPublication) (factors : List ControlFactorValue)
    (now : DateTime) (failClosed : Bool) : Except SnapshotBuildError ControlFactorSnapshot :=
  factors.foldlM (compileFactor now failClosed)
    { neutral now with
      publicationId := some publication.publicationId
      expiresAt := some publication.expiresAt
      sourceVersion := publication.publicationHash }

end ControlFactorSnapshot

namespace ControlFactorSnapshot

variable {factor : ControlFactorValue}

variable {now : DateTime} {failClosed : Bool} {snapshot after : ControlFactorSnapshot}

theorem route_publicationId (h : snapshot.route factor = .ok after) :
    after.publicationId = snapshot.publicationId := by
  unfold route at h
  split at h <;> cases h <;> rfl

theorem compileFactor_ok (h : compileFactor now failClosed snapshot factor = .ok after) :
    (factor.expiresAt ≤ now ∧ after = snapshot) ∨
      (now < factor.expiresAt ∧ snapshot.route factor = .ok after) := by
  unfold compileFactor at h
  simp only at h
  split at h
  · cases h
  split at h
  · cases h
  split at h
  · cases h
  split at h
  · cases h
  split at h
  · rename_i hexpired
    split at h
    · cases h
    · exact .inl ⟨hexpired, (Except.ok.inj h).symm⟩
  · rename_i hlive
    exact .inr ⟨not_le.mp hlive, h⟩

theorem compileFactor_publicationId
    (h : compileFactor now failClosed snapshot factor = .ok after) :
    after.publicationId = snapshot.publicationId := by
  simp only [compileFactor] at h
  cases hsafe : factor.payload.validateSafety with
  | error source =>
    rw [hsafe] at h
    split_ifs at h
  | ok _ =>
    rw [hsafe] at h
    split_ifs at h
    · cases h
      rfl
    · exact route_publicationId h

theorem foldlM_publicationId {factors : List ControlFactorValue}
    (hrun : factors.foldlM (compileFactor now failClosed) snapshot = .ok after) :
    after.publicationId = snapshot.publicationId := by
  induction factors generalizing snapshot with
  | nil =>
    cases hrun
    rfl
  | cons factor rest ih =>
    rw [List.foldlM_cons] at hrun
    obtain ⟨next, hnext, hrun⟩ := Checked.bind_eq_ok.mp hrun
    exact (ih hrun).trans (compileFactor_publicationId hnext)

end ControlFactorSnapshot

end OxideArb.ControlFactor
