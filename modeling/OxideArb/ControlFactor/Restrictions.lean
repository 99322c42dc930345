import OxideArb.ControlFactor.Snapshot
import OxideArb.Lib.Lists

/-!
# What a snapshot restricts

For one situation a snapshot says which blocks, multipliers, haircuts and caps apply.
-/

namespace OxideArb.ControlFactor

structure Situation where
  marketId : MarketId
  eventId : EventId
  category : MarketCategory
  priceZone : PriceZone
  durationBucket : DurationBucket
  spreadBucket : SpreadBucket
  depthBucket : DepthBucket
  bookAgeBucket : BookAgeBucket
  stalenessLevel : StalenessLevel
deriving DecidableEq, Repr

namespace Situation

def bucketKey (here : Situation) : BucketRiskDimensions :=
  .coarse here.category here.priceZone here.durationBucket

/-- Latency is not classified live. -/
def executionKey (here : Situation) : ExecutionQualityDimensions :=
  { category := here.category, priceZone := here.priceZone, spreadBucket := here.spreadBucket
    depthBucket := here.depthBucket, bookAgeBucket := here.bookAgeBucket, latencyBucket := .unknown
    stalenessLevel := here.stalenessLevel }

end Situation

structure Restrictions where
  marketBlocked : Bool
  eventBlocked : Bool
  categoryBlocked : Bool
  maintenance : Bool
  manualAck : Bool
  reconciliationSize : Decimal
  globalSize : Decimal
  categorySize : Decimal
  dailyBudget : Decimal
  kellyFraction : Decimal
  maxOpenPositions : Option Nat
  bucket : Option BucketRiskPayload
  executionQuality : Option ExecutionQualityPayload
deriving DecidableEq

def ControlFactorSnapshot.restrictions (snapshot : ControlFactorSnapshot) (here : Situation) :
    Restrictions :=
  { marketBlocked := (snapshot.marketAnomalies.marketBlock here.marketId).isSome
    eventBlocked := (snapshot.marketAnomalies.eventBlock here.eventId).isSome
    categoryBlocked := (snapshot.marketAnomalies.categoryCooldownSecs here.category).isSome
    maintenance := snapshot.reconciliationHealth.forceMaintenanceMode
    manualAck := snapshot.reconciliationHealth.requireManualAck
    reconciliationSize := snapshot.reconciliationHealth.sizeMultiplier
    globalSize := snapshot.portfolioRisk.globalSizeMultiplier
    categorySize := (snapshot.portfolioRisk.categoryMultipliers here.category).getD 1
    dailyBudget := snapshot.portfolioRisk.dailyBudgetMultiplier
    kellyFraction := snapshot.portfolioRisk.kellyFractionMultiplier
    maxOpenPositions := snapshot.portfolioRisk.maxOpenPositions
    bucket := (snapshot.bucketRisk.lookup here.bucketKey).map (·.payload)
    executionQuality := (snapshot.executionQuality.lookup here.executionKey).map (·.payload) }

/-! ## A sample publication -/

def sampleEvidence : FactorEvidence :=
  { stageReportIds := ["s1"], windowFrom := 0, windowTo := 1, sampleCount := 1
    dataCoverage :=
      { observedRows := 1, missingRows := 0, coverageRatio := 1, insufficientReasons := [] }
    productionEligible := true, baselineConfigHash := "cfg", codeGitSha := "sha"
    datasetHash := "ds", featureSchemaHash := "fs", labelSchemaHash := "ls"
    queryFingerprint := "fp" }

def sampleFactor (id : String) (dimensions : FactorDimensions) (payload : FactorPayload) :
    ControlFactorValue :=
  { factorId := ⟨id⟩, factorType := payload.factorType, dimensions, payload
    evidence := sampleEvidence, status := .published, generatedAt := 0, expiresAt := 100
    schemaVersion := LIVE_SNAPSHOT_SCHEMA_VERSION }

def sampleBucketFactor (id : String) (blockNewEntries : Bool) : ControlFactorValue :=
  sampleFactor id (.bucketRisk (.coarse .politics .z97 .short))
    (.bucketRisk
      { resolutionHaircutFactor := 8 / 10, sizeMultiplier := 1 / 2, minEdgeBpsAddon := 10
        blockNewEntries })

def samplePublication : ControlFactorPublication :=
  { publicationId := ⟨"p1"⟩, mode := .published, factorIds := [⟨"a"⟩, ⟨"b"⟩]
    previousPublicationId := none, status := .active, effectiveFrom := 0, expiresAt := 100
    approvedBy := some "op", approvalReason := "test", publicationHash := "hash-v1" }

def sampleSituation : Situation :=
  { marketId := ⟨"0xmkt"⟩, eventId := ⟨"event"⟩, category := .politics, priceZone := .z97
    durationBucket := .short, spreadBucket := .tight, depthBucket := .deep
    bookAgeBucket := .fresh, stalenessLevel := .fresh }

end OxideArb.ControlFactor
