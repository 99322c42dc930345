import OxideArb.Catalog.Gamma
import OxideArb.Lib.Lists

/-!
# From where on a sync asks

The time is stored at the end of a sync, whether or not the markets of the reply could be
fetched. So the next bound is right exactly after syncs that took no time and missed no market.
-/

namespace OxideArb.Catalog

/-! ## What successful syncs have asked for -/

/-- A successful sync: its times, the bound it asked from if it was incremental, and the
markets it failed to fetch. -/
structure SyncRecord where
  startedAt : DateTime
  servedAt : DateTime
  finishedAt : DateTime
  since : Option DateTime
  missed : List MarketId
deriving DecidableEq, Repr

def SyncCall.missed (call : SyncCall) (since : DateTime) : List MarketId :=
  match call.incrementalSync since with
  | .error _ => []
  | .ok batch => batch.missing.filter fun id => (call.getMarket id).toOption.isNone

namespace GammaService

def record (s : GammaService) (call : SyncCall) : SyncRecord where
  startedAt := call.startedAt
  servedAt := call.servedAt
  finishedAt := call.finishedAt
  since := (s.fetch call).2
  missed := (s.fetch call).2.elim [] call.missed

def records (s : GammaService) : List SyncCall → List SyncRecord
  | [] => []
  | call :: calls =>
    match (s.syncInner call).1 with
    | .ok () => s.record call :: (s.syncInner call).2.records calls
    | .error _ => (s.syncInner call).2.records calls

theorem fetch_since (s : GammaService) (call : SyncCall) :
    (s.fetch call).2 = none ∨ (s.fetch call).2 = s.lastSyncAt := by
  unfold fetch
  split
  · exact .inl rfl
  · split
    next since hlast => exact .inr hlast.symm
    · exact .inl rfl

theorem records_cons (s : GammaService) (call : SyncCall) (calls : List SyncCall) :
    s.records (call :: calls) = s.records calls ∨
      ∃ s' : GammaService, s'.lastSyncAt = some call.finishedAt ∧
        s.records (call :: calls) = s.record call :: s'.records calls := by
  cases hfetch : (s.fetch call).1 with
  | error e =>
    left
    simp only [records, syncInner_of_error hfetch]
  | ok registry =>
    right
    refine ⟨{ s with registry, lastSyncAt := some call.finishedAt }, rfl, ?_⟩
    simp only [records, syncInner_of_fetch hfetch]

end GammaService

/-! ## The bound of a sync and the sync before -/

def Linked (p k : SyncRecord) : Prop := k.since = none ∨ k.since = some p.finishedAt

theorem records_linked (s : GammaService) (calls : List SyncCall) :
    (∀ r ∈ (s.records calls).head?, r.since = none ∨ r.since = s.lastSyncAt) ∧
      (s.records calls).IsChain Linked := by
  induction calls generalizing s with
  | nil => exact ⟨fun _ h => absurd h (Option.not_mem_none _), .nil⟩
  | cons call calls ih =>
    obtain hfailed | ⟨s', hstored, hok⟩ := s.records_cons call calls
    · rw [hfailed]
      exact ih s
    · rw [hok]
      refine ⟨?_, ?_⟩
      · rintro r ⟨⟩
        exact s.fetch_since call
      · obtain ⟨hhead, hchain⟩ := ih s'
        refine List.isChain_cons.mpr ⟨fun k hk => ?_, hchain⟩
        rw [hstored] at hhead
        exact hhead k hk

/-- A bound no later than the start of the sync before, which has missed nothing. -/
def BoundCovers (p k : SyncRecord) : Prop :=
  ∀ since ∈ k.since, since ≤ p.startedAt ∧ p.missed = []

/-- Before an incremental sync, a sync that took no time and missed nothing. -/
def InstantBefore (p k : SyncRecord) : Prop :=
  k.since.isSome → p.finishedAt ≤ p.startedAt ∧ p.missed = []

theorem Linked.covers_iff {p k : SyncRecord} (h : Linked p k) :
    BoundCovers p k ↔ InstantBefore p k := by
  unfold BoundCovers InstantBefore
  rcases h with h | h <;> simp [h]

/-! ## What is contained in a sync -/

structure SyncRecord.Proper (r : SyncRecord) : Prop where
  served : r.startedAt ≤ r.servedAt
  finished : r.servedAt ≤ r.finishedAt
  missed : r.since = none → r.missed = []

structure CatalogUpdate where
  updatedAt : DateTime
  marketId : MarketId
deriving DecidableEq, Repr

/-- The venue returns exactly the updates from the bound on until it answers; a market that
is named has to be fetched as well. -/
structure SyncRecord.Contains (r : SyncRecord) (u : CatalogUpdate) : Prop where
  since : ∀ since ∈ r.since, since ≤ u.updatedAt
  served : u.updatedAt ≤ r.servedAt
  fetched : u.marketId ∉ r.missed

instance (r : SyncRecord) (u : CatalogUpdate) : Decidable (r.Contains u) :=
  decidable_of_iff
    ((∀ since ∈ r.since, since ≤ u.updatedAt) ∧ u.updatedAt ≤ r.servedAt ∧ u.marketId ∉ r.missed)
    ⟨fun h => ⟨h.1, h.2.1, h.2.2⟩, fun h => ⟨h.since, h.served, h.fetched⟩⟩

theorem exists_contains {u : CatalogUpdate} {l : List SyncRecord} (hcover : l.IsChain BoundCovers)
    (horder : l.Pairwise fun p k => p.finishedAt ≤ k.startedAt) (hproper : ∀ r ∈ l, r.Proper)
    (hhead : ∀ r ∈ l.head?, ∀ since ∈ r.since, since ≤ u.updatedAt)
    {before after : List SyncRecord} {r next : SyncRecord} (hl : l = before ++ r :: next :: after)
    (hu : u.updatedAt ≤ r.servedAt) : ∃ x ∈ l, x.Contains u := by
  induction l generalizing before with
  | nil => simp at hl
  | cons x rest ih =>
    obtain ⟨hfirst, hrest⟩ := List.isChain_cons.mp hcover
    obtain ⟨hbefore, hordered⟩ := List.pairwise_cons.mp horder
    have hx := hproper x List.mem_cons_self
    by_cases hserved : u.updatedAt ≤ x.servedAt
    · by_cases hmissed : u.marketId ∈ x.missed
      · -- what `x` missed makes the next sync a full one
        obtain ⟨y, ys, rfl⟩ : ∃ y ys, rest = y :: ys := by
          cases before with
          | nil => exact ⟨next, after, (List.cons.inj hl).2⟩
          | cons b bs =>
            rw [(List.cons.inj hl).2]
            cases bs with
            | nil => exact ⟨_, _, rfl⟩
            | cons c cs => exact ⟨_, _, rfl⟩
        have hfull : y.since = none := by
          rw [Option.eq_none_iff_forall_not_mem]
          intro since hsince
          rw [(hfirst y rfl since hsince).2] at hmissed
          cases hmissed
        have hy := hproper y (List.mem_cons_of_mem x List.mem_cons_self)
        refine ⟨y, List.mem_cons_of_mem x List.mem_cons_self, ?_, ?_, ?_⟩
        · simp [hfull]
        · exact (hserved.trans hx.finished).trans
            ((hbefore y List.mem_cons_self).trans hy.served)
        · rw [hy.missed hfull]
          exact List.not_mem_nil
      · exact ⟨x, List.mem_cons_self, hhead x rfl, hserved, hmissed⟩
    · cases before with
      | nil =>
        rw [(List.cons.inj hl).1] at hserved
        exact absurd hu hserved
      | cons b bs =>
        have hlater : ∀ y ∈ rest.head?, ∀ since ∈ y.since, since ≤ u.updatedAt := by
          intro y hy since hsince
          have hbound := (hfirst y hy since hsince).1
          exact (hbound.trans hx.served).trans (not_le.mp hserved).le
        obtain ⟨z, hz, hcontains⟩ := ih hrest hordered
          (fun r hr => hproper r (List.mem_cons_of_mem x hr)) hlater (List.cons.inj hl).2
        exact ⟨z, List.mem_cons_of_mem x hz, hcontains⟩

/-! ## Histories -/

/-- Calls made one after the other on a new service. -/
structure SyncHistory where
  fullSyncIntervalSecs : Nat
  calls : List SyncCall
  timed : ∀ call ∈ calls, call.startedAt ≤ call.servedAt ∧ call.servedAt ≤ call.finishedAt
  inOrder : calls.Pairwise fun a b => a.finishedAt ≤ b.startedAt

namespace SyncHistory

variable (h : SyncHistory)

def records : List SyncRecord := (GammaService.new h.fullSyncIntervalSecs).records h.calls

end SyncHistory

theorem exists_call_of_record {s : GammaService} {calls : List SyncCall} {r : SyncRecord}
    (hr : r ∈ s.records calls) :
    ∃ call ∈ calls, ∃ s' : GammaService, r = s'.record call := by
  induction calls generalizing s with
  | nil => cases hr
  | cons call calls ih =>
    obtain hfailed | ⟨s', -, hok⟩ := s.records_cons call calls
    · rw [hfailed] at hr
      obtain ⟨c, hc, hrecord⟩ := ih hr
      exact ⟨c, List.mem_cons_of_mem _ hc, hrecord⟩
    · rw [hok] at hr
      rcases List.mem_cons.mp hr with rfl | hr
      · exact ⟨call, List.mem_cons_self, s, rfl⟩
      · obtain ⟨c, hc, hrecord⟩ := ih hr
        exact ⟨c, List.mem_cons_of_mem _ hc, hrecord⟩

theorem records_inOrder {s : GammaService} {calls : List SyncCall}
    (h : calls.Pairwise fun a b => a.finishedAt ≤ b.startedAt) :
    (s.records calls).Pairwise fun p k => p.finishedAt ≤ k.startedAt := by
  induction calls generalizing s with
  | nil => exact .nil
  | cons call calls ih =>
    obtain ⟨hfirst, hrest⟩ := List.pairwise_cons.mp h
    obtain hfailed | ⟨s', -, hok⟩ := s.records_cons call calls
    · rw [hfailed]
      exact ih hrest
    · rw [hok]
      refine List.pairwise_cons.mpr ⟨fun k hk => ?_, ih hrest⟩
      obtain ⟨c, hc, s'', rfl⟩ := exists_call_of_record hk
      exact hfirst c hc

theorem SyncHistory.proper (h : SyncHistory) : ∀ r ∈ h.records, r.Proper := by
  intro r hr
  obtain ⟨call, hcall, s, rfl⟩ := exists_call_of_record hr
  obtain ⟨hserved, hfinished⟩ := h.timed call hcall
  refine ⟨hserved, hfinished, fun hfull => ?_⟩
  have hfull : (s.fetch call).2 = none := hfull
  unfold GammaService.record
  rw [hfull]
  rfl

/-- For every history: each incremental sync asks from no later than the start of the
successful sync before, and that one has missed nothing, exactly if each successful sync that
an incremental one follows took no time and missed nothing. Then every update that a sync
could have seen is contained in it, in an earlier sync or in the next. -/
theorem since_bounds_cover_iff (h : SyncHistory) :
    (h.records.IsChain BoundCovers ↔ h.records.IsChain InstantBefore) ∧
    (h.records.IsChain BoundCovers →
      ∀ (u : CatalogUpdate) (before after : List SyncRecord) (r next : SyncRecord),
        h.records = before ++ r :: next :: after → u.updatedAt ≤ r.servedAt →
          ∃ x ∈ h.records, x.Contains u) := by
  obtain ⟨hhead, hlinked⟩ := records_linked (.new h.fullSyncIntervalSecs) h.calls
  refine ⟨List.isChain_congr (fun _ _ hl => hl.covers_iff) hlinked, ?_⟩
  intro hcover u before after r next hsplit hu
  refine exists_contains hcover (records_inOrder h.inOrder) h.proper ?_ hsplit hu
  intro x hx since hsince
  have hfirst : x.since = none := (hhead x hx).elim id id
  rw [hfirst] at hsince
  cases hsince

/-! ## Two updates that are lost -/

/-- A call that starts and ends at seconds, served one second after its start, with replies
that name one market and embed nothing. -/
def namingCall (startSecs endSecs : Int) (getMarket : Except String MarketRegistryInfo) :
    SyncCall where
  startedAt := Duration.seconds startSecs
  servedAt := Duration.seconds (startSecs + 1)
  appliedAt := Duration.seconds endSecs
  finishedAt := Duration.seconds endSecs
  fullSync := .ok
    { registryEvents := []
      registryMarkets := [{ marketId := ⟨"m"⟩, status := .active, tokens := [], endDate := none }] }
  incrementalSync := fun _ => .ok
    { registryEvents := [{ eventId := ⟨"e"⟩, marketIds := [⟨"m"⟩] }], registryMarkets := [] }
  getMarket := fun _ => getMarket

/-- A full sync of ten seconds, then an incremental one that fails to fetch the market it is
told about, then another. -/
def lossyHistory : SyncHistory where
  fullSyncIntervalSecs := 300
  calls := [namingCall 0 10 (.error "timeout"), namingCall 60 70 (.error "timeout"),
    namingCall 120 130 (.error "timeout")]
  timed := by decide +kernel
  inOrder := by decide +kernel

theorem lossyHistory_records :
    lossyHistory.records =
      [{ startedAt := Duration.seconds 0, servedAt := Duration.seconds 1
         finishedAt := Duration.seconds 10, since := none, missed := [] },
       { startedAt := Duration.seconds 60, servedAt := Duration.seconds 61
         finishedAt := Duration.seconds 70, since := some (Duration.seconds 10)
         missed := [⟨"m"⟩] },
       { startedAt := Duration.seconds 120, servedAt := Duration.seconds 121
         finishedAt := Duration.seconds 130, since := some (Duration.seconds 70)
         missed := [⟨"m"⟩] }] := by
  decide +kernel

/-- The update five seconds into the first sync is in none of the three, and neither is the
one the second sync was told about. -/
theorem updates_lost :
    ¬ lossyHistory.records.IsChain BoundCovers ∧
      (∀ r ∈ lossyHistory.records, ¬ r.Contains ⟨Duration.seconds 5, ⟨"m"⟩⟩) ∧
      ∀ r ∈ lossyHistory.records, ¬ r.Contains ⟨Duration.seconds 30, ⟨"m"⟩⟩ := by
  rw [lossyHistory_records]
  refine ⟨fun hchain => ?_, by decide +kernel, by decide +kernel⟩
  have hbound := ((List.isChain_cons_cons.mp hchain).1 _ rfl).1
  exact absurd hbound (by decide +kernel)

end OxideArb.Catalog
