import Mathlib.Data.List.Dedup
import Mathlib.Data.List.Sort
import Mathlib.Logic.Function.Basic
import OxideArb.Types.Basic

/-!
# The catalog sync

`GammaService` keeps the market registry in step with the venue's catalog. Full and incremental
syncs end by storing the time, which decides at the next call whether a full sync is due and
from where on an incremental one asks.
-/

namespace OxideArb.Catalog

/-! ## The registry -/

inductive MarketStatus
  | discovered
  | active
  | filtered
  | paused
  | settled
  | delisted
deriving DecidableEq, Repr

structure TokenInfo where
  tokenId : TokenId
  outcome : String
deriving DecidableEq, Repr

structure MarketRegistryInfo where
  marketId : MarketId
  status : MarketStatus
  tokens : List TokenInfo
  endDate : Option DateTime
deriving DecidableEq, Repr

/-- `resolve_token_pair` succeeds on two tokens, whatever they are called. -/
def MarketRegistryInfo.isBinary (entry : MarketRegistryInfo) : Bool := entry.tokens.length = 2

structure Registry where
  markets : MarketId → Option MarketRegistryInfo
  activeMarkets : List MarketId

namespace Registry

def new : Registry where
  markets := fun _ => none
  activeMarkets := []

variable (r : Registry)

def registerMarket (entry : MarketRegistryInfo) : Registry :=
  if !entry.isBinary then r
  else
    { markets := Function.update r.markets entry.marketId (some entry)
      activeMarkets :=
        if entry.status = .active then
          if entry.marketId ∈ r.activeMarkets then r.activeMarkets
          else r.activeMarkets ++ [entry.marketId]
        else r.activeMarkets.filter (· ≠ entry.marketId) }

def registerMarkets (entries : List MarketRegistryInfo) : Registry :=
  entries.foldl registerMarket r

def staleMarkets (seenIds : List MarketId) : List MarketRegistryInfo :=
  (r.activeMarkets.filter (· ∉ seenIds)).filterMap fun id =>
    (r.markets id).map fun market => { market with status := .paused }

def deactivateStale (seenIds : List MarketId) : List MarketRegistryInfo × Registry :=
  (r.staleMarkets seenIds, r.registerMarkets (r.staleMarkets seenIds))

end Registry

def applyPastDeadline (now : DateTime) (entry : MarketRegistryInfo) : MarketRegistryInfo :=
  if entry.status ≠ .active then entry
  else
    match entry.endDate with
    | none => entry
    | some endDate => if now < endDate then entry else { entry with status := .paused }

/-! ## Syncs -/

structure EventRegistryInfo where
  eventId : EventId
  marketIds : List MarketId
deriving DecidableEq, Repr

structure GammaCatalogBatch where
  registryEvents : List EventRegistryInfo
  registryMarkets : List MarketRegistryInfo
deriving DecidableEq, Repr

inductive SyncError
  | api (error : String)
  | emptyCatalog
deriving DecidableEq, Repr

/-- The markets that the events name and the reply does not embed, sorted, each once. -/
def collectMissingMarketIds (events : List EventRegistryInfo) (embedded : List MarketId) :
    List MarketId :=
  ((events.flatMap (·.marketIds)).filter (· ∉ embedded)
    |>.insertionSort fun a b => a.raw ≤ b.raw).dedup

/-- What one call of `sync` meets: the times at which it starts, the venue answers the catalog
query, the reply is applied and the time of the sync is stored; the replies of the venue to
the two catalog queries, and its replies to queries for single markets. -/
structure SyncCall where
  startedAt : DateTime
  servedAt : DateTime
  appliedAt : DateTime
  finishedAt : DateTime
  fullSync : Except String GammaCatalogBatch
  incrementalSync : DateTime → Except String GammaCatalogBatch
  getMarket : MarketId → Except String MarketRegistryInfo

def fullSync (r : Registry) (call : SyncCall) : Except SyncError Registry :=
  match call.fullSync with
  | .error e => .error (.api e)
  | .ok batch =>
    if batch.registryMarkets = [] then .error .emptyCatalog
    else
      let seenIds := batch.registryMarkets.map (·.marketId)
      let registered := r.registerMarkets
        (batch.registryMarkets.map (applyPastDeadline call.appliedAt))
      .ok (registered.deactivateStale seenIds).2

def GammaCatalogBatch.missing (batch : GammaCatalogBatch) : List MarketId :=
  collectMissingMarketIds batch.registryEvents (batch.registryMarkets.map (·.marketId))

def incrementalSync (r : Registry) (since : DateTime) (call : SyncCall) :
    Except SyncError Registry :=
  match call.incrementalSync since with
  | .error e => .error (.api e)
  | .ok batch =>
    if batch.registryEvents = [] then .ok r
    else
      -- a market that cannot be fetched is left out
      let extra := batch.missing.filterMap fun id => (call.getMarket id).toOption
      let all := batch.registryMarkets ++ extra
      .ok (r.registerMarkets (all.map (applyPastDeadline call.appliedAt)))

structure GammaService where
  registry : Registry
  fullSyncIntervalSecs : Nat
  lastSyncAt : Option DateTime

namespace GammaService

def new (fullSyncIntervalSecs : Nat) : GammaService where
  registry := .new
  fullSyncIntervalSecs := max fullSyncIntervalSecs 60
  lastSyncAt := none

variable (s : GammaService)

def intervalSecs : Int := min s.fullSyncIntervalSecs i64Max

def needsFull (now : DateTime) : Bool :=
  match s.lastSyncAt with
  | none => true
  | some t => s.intervalSecs < Duration.numSeconds (now - t)

def fetch (call : SyncCall) : Except SyncError Registry × Option DateTime :=
  if s.needsFull call.startedAt then (fullSync s.registry call, none)
  else
    match s.lastSyncAt with
    | some since => (incrementalSync s.registry since call, some since)
    | none => (.ok s.registry, none)

def syncInner (call : SyncCall) : Except SyncError Unit × GammaService :=
  match (s.fetch call).1 with
  | .error e => (.error e, s)
  | .ok registry => (.ok (), { s with registry, lastSyncAt := some call.finishedAt })

end GammaService

/-! ## What a sync does to the registry -/

namespace Registry

/-- Every active market is registered under its identifier with a pair of tokens. -/
def Sound (r : Registry) : Prop :=
  ∀ id ∈ r.activeMarkets, ∃ market, r.markets id = some market ∧ market.marketId = id ∧
    market.isBinary = true

theorem sound_new : Registry.new.Sound := fun _ h => nomatch h

variable {r : Registry} {id : MarketId} {entries : List MarketRegistryInfo}

theorem mem_active_registerMarket {entry : MarketRegistryInfo} :
    id ∈ (r.registerMarket entry).activeMarkets ↔
      if entry.isBinary = true ∧ entry.marketId = id then entry.status = .active
      else id ∈ r.activeMarkets := by
  unfold registerMarket
  cases hbinary : entry.isBinary with
  | false => simp
  | true =>
    by_cases hid : entry.marketId = id
    · subst hid
      by_cases hactive : entry.status = .active
      · by_cases hmem : entry.marketId ∈ r.activeMarkets <;> simp [hactive, hmem]
      · simp [hactive]
    · have hne : id ≠ entry.marketId := fun h => hid h.symm
      by_cases hactive : entry.status = .active
      · by_cases hmem : entry.marketId ∈ r.activeMarkets <;> simp [hactive, hmem, hid, hne]
      · simp [hactive, hid, hne]

theorem Sound.registerMarket (h : r.Sound) (entry : MarketRegistryInfo) :
    (r.registerMarket entry).Sound := by
  intro id hid
  rw [mem_active_registerMarket] at hid
  unfold Registry.registerMarket
  cases hbinary : entry.isBinary with
  | false =>
    rw [hbinary] at hid
    exact h id (by simpa using hid)
  | true =>
    by_cases heq : entry.marketId = id
    · subst heq
      exact ⟨entry, by simp, rfl, hbinary⟩
    · have hne : id ≠ entry.marketId := fun hs => heq hs.symm
      rw [if_neg fun hs => heq hs.2] at hid
      obtain ⟨market, hmarket, hfacts⟩ := h id hid
      exact ⟨market, by simpa [hne] using hmarket, hfacts⟩

theorem Sound.registerMarkets (h : r.Sound) (entries : List MarketRegistryInfo) :
    (r.registerMarkets entries).Sound := by
  induction entries generalizing r with
  | nil => exact h
  | cons entry entries ih => exact ih (h.registerMarket entry)

theorem active_registerMarkets_of_not_mem (h : ∀ entry ∈ entries, entry.marketId ≠ id) :
    id ∈ (r.registerMarkets entries).activeMarkets ↔ id ∈ r.activeMarkets := by
  induction entries generalizing r with
  | nil => exact Iff.rfl
  | cons entry entries ih =>
    have hhead : entry.marketId ≠ id := h entry List.mem_cons_self
    refine (ih fun e he => h e (List.mem_cons_of_mem _ he)).trans ?_
    rw [mem_active_registerMarket, if_neg fun hs => hhead hs.2]

theorem not_active_registerMarkets (hinactive : ∀ entry ∈ entries, entry.status ≠ .active)
    (hnamed : id ∉ r.activeMarkets ∨
      ∃ entry ∈ entries, entry.marketId = id ∧ entry.isBinary = true) :
    id ∉ (r.registerMarkets entries).activeMarkets := by
  induction entries generalizing r with
  | nil =>
    rcases hnamed with hout | ⟨entry, hmem, -⟩
    · exact hout
    · cases hmem
  | cons entry entries ih =>
    refine ih (fun e he => hinactive e (List.mem_cons_of_mem _ he)) ?_
    have hstatus := hinactive entry List.mem_cons_self
    rw [mem_active_registerMarket]
    rcases hnamed with hout | ⟨e, hmem, hid, hbinary⟩
    · left
      split
      · exact hstatus
      · exact hout
    · rcases List.mem_cons.mp hmem with rfl | hmem
      · left
        rw [if_pos ⟨hbinary, hid⟩]
        exact hstatus
      · exact .inr ⟨e, hmem, hid, hbinary⟩

theorem active_deactivateStale (h : r.Sound) {seenIds : List MarketId}
    (hid : id ∈ (r.deactivateStale seenIds).2.activeMarkets) : id ∈ seenIds := by
  by_contra hunseen
  refine absurd hid (not_active_registerMarkets ?_ ?_)
  · intro entry hentry
    obtain ⟨x, -, hx⟩ := List.mem_filterMap.mp hentry
    obtain ⟨market, -, rfl⟩ := Option.map_eq_some_iff.mp hx
    exact nofun
  · by_cases hactive : id ∈ r.activeMarkets
    · right
      obtain ⟨market, hmarket, hmid, hbinary⟩ := h id hactive
      refine ⟨{ market with status := .paused }, ?_, hmid, hbinary⟩
      refine List.mem_filterMap.mpr ⟨id, List.mem_filter.mpr ⟨hactive, by simpa using hunseen⟩, ?_⟩
      rw [hmarket]
      rfl
    · exact .inl hactive

end Registry

theorem applyPastDeadline_marketId (now : DateTime) (entry : MarketRegistryInfo) :
    (applyPastDeadline now entry).marketId = entry.marketId := by
  unfold applyPastDeadline
  split
  · rfl
  · split
    · rfl
    · split <;> rfl

variable {r r' : Registry} {call : SyncCall} {s : GammaService}

theorem fullSync_active (hr : r.Sound) (h : fullSync r call = .ok r') :
    ∃ batch, call.fullSync = .ok batch ∧
      ∀ id ∈ r'.activeMarkets, id ∈ batch.registryMarkets.map (·.marketId) := by
  unfold fullSync at h
  split at h
  · cases h
  next batch hbatch =>
    split at h
    · cases h
    · cases h
      exact ⟨batch, hbatch, fun id hid =>
        Registry.active_deactivateStale (hr.registerMarkets _) hid⟩

theorem incrementalSync_ok {since : DateTime} (h : incrementalSync r since call = .ok r') :
    ∃ batch entries, call.incrementalSync since = .ok batch ∧ r' = r.registerMarkets entries ∧
      ∀ entry ∈ entries, ∃ market, market.marketId = entry.marketId ∧
        (market ∈ batch.registryMarkets ∨ ∃ id ∈ batch.missing, call.getMarket id = .ok market) := by
  unfold incrementalSync at h
  split at h
  · cases h
  next batch hbatch =>
    split at h
    · cases h
      exact ⟨batch, [], hbatch, rfl, nofun⟩
    · cases h
      refine ⟨batch, _, hbatch, rfl, fun entry hentry => ?_⟩
      obtain ⟨market, hmarket, rfl⟩ := List.mem_map.mp hentry
      refine ⟨market, (applyPastDeadline_marketId _ market).symm, ?_⟩
      rcases List.mem_append.mp hmarket with hembedded | hextra
      · exact .inl hembedded
      · obtain ⟨id, hid, hget⟩ := List.mem_filterMap.mp hextra
        cases hreply : call.getMarket id with
        | error _ => rw [hreply] at hget; cases hget
        | ok found =>
          rw [hreply] at hget
          cases hget
          exact .inr ⟨id, hid, hreply⟩

theorem fullSync_sound (hr : r.Sound) (h : fullSync r call = .ok r') : r'.Sound := by
  unfold fullSync at h
  split at h
  · cases h
  · split at h
    · cases h
    · cases h
      exact (hr.registerMarkets _).registerMarkets _

theorem GammaService.syncInner_of_fetch {registry : Registry} (h : (s.fetch call).1 = .ok registry) :
    s.syncInner call =
      (.ok (), { s with registry, lastSyncAt := some call.finishedAt }) := by
  unfold syncInner
  rw [h]

theorem GammaService.syncInner_of_error {e : SyncError} (h : (s.fetch call).1 = .error e) :
    s.syncInner call = (.error e, s) := by
  unfold syncInner
  rw [h]

theorem GammaService.syncInner_sound (h : s.registry.Sound) (call : SyncCall) :
    (s.syncInner call).2.registry.Sound := by
  unfold syncInner
  split
  · exact h
  next registry hfetch =>
    unfold fetch at hfetch
    split at hfetch
    · exact fullSync_sound h hfetch
    · split at hfetch
      next since _ =>
        obtain ⟨batch, entries, -, rfl, -⟩ := incrementalSync_ok hfetch
        exact h.registerMarkets entries
      · cases hfetch
        exact h

end OxideArb.Catalog
