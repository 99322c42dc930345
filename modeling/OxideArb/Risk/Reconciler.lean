import Mathlib.Data.List.Nodup
import OxideArb.Risk.Operations

/-!
# The ledger reconciler

The venue's positions are compared row by row with the exposure of the row's market, the open
positions whose market has no row one by one with nothing.
-/

namespace OxideArb.Risk

inductive ReconciliationMismatch
  | balanceDrift (internal external drift : Usd)
  | positionDrift (marketId : MarketId) (internal external drift : Usd)
deriving DecidableEq, Repr

namespace ReconciliationMismatch

def drift : ReconciliationMismatch → Usd
  | .balanceDrift _ _ drift | .positionDrift _ _ _ drift => drift

def driftAbs (m : ReconciliationMismatch) : Usd := |m.drift|

def marketId : ReconciliationMismatch → Option MarketId
  | .balanceDrift .. => none
  | .positionDrift marketId .. => some marketId

end ReconciliationMismatch

/-- What the reconciler reads of the metrics; of an open position it reads the market. -/
structure ReconciledMetrics where
  marketExposure : MarketId → Usd
  openPositions : List MarketId
  totalExposure : Usd
  reservedUsd : Usd

structure ReconciliationReport where
  status : ReconciliationStatus
  mismatches : List ReconciliationMismatch
  internalBalance : Usd
  externalBalance : Usd
  internalExposure : Usd
  externalExposure : Usd
  reserved : Usd
  tolerance : Usd

structure LedgerReconciler where
  tolerance : Usd

namespace LedgerReconciler

variable (r : LedgerReconciler) (metrics : ReconciledMetrics) (internal available locked : Usd)
  (rows : List (MarketId × Usd))

def classify (mismatches : List ReconciliationMismatch) (criticalThreshold : Decimal) :
    ReconciliationStatus :=
  if mismatches.isEmpty then .ok
  else if mismatches.any (criticalThreshold ≤ ·.driftAbs) then .critical
  else .warning

def balanceMismatch (external : Usd) : Option ReconciliationMismatch :=
  let drift := internal - external
  if r.tolerance < |drift| then some (.balanceDrift internal external drift) else none

def positionMismatch (marketId : MarketId) (external : Usd) : Option ReconciliationMismatch :=
  let drift := metrics.marketExposure marketId - external
  if r.tolerance < |drift| then
    some (.positionDrift marketId (metrics.marketExposure marketId) external drift)
  else none

def missingMismatch (marketId : MarketId) : Option ReconciliationMismatch :=
  if marketId ∈ rows.map Prod.fst then none else r.positionMismatch metrics marketId 0

def positionMismatches : List ReconciliationMismatch :=
  rows.filterMap (fun row => r.positionMismatch metrics row.1 row.2) ++
    metrics.openPositions.filterMap (r.missingMismatch metrics rows)

def reconcileFetched (extPositions : Option (List (MarketId × Usd))) : ReconciliationReport :=
  let externalBalance := available + locked
  let mismatches := (r.balanceMismatch internal externalBalance).toList ++
    extPositions.elim [] (r.positionMismatches metrics)
  { status := classify mismatches (r.tolerance * 10)
    mismatches
    internalBalance := internal
    externalBalance
    internalExposure := metrics.totalExposure
    externalExposure := extPositions.elim 0 fun rows => (rows.map Prod.snd).sum
    reserved := metrics.reservedUsd
    tolerance := r.tolerance }

/-! ## What a report should say -/

def marketDrift (marketId : MarketId) : Usd :=
  metrics.marketExposure marketId - ((rows.filter (·.1 = marketId)).map Prod.snd).sum

/-- A difference that is reported, and one that makes the report critical. -/
def Drifts (drift : Usd) : Prop := r.tolerance < |drift|

instance (drift : Usd) : Decidable (r.Drifts drift) := inferInstanceAs (Decidable (_ < _))

def DriftsFar (drift : Usd) : Prop := r.Drifts drift ∧ r.tolerance * 10 ≤ |drift|

/-- The report judges the cash and each market as a whole, and names each drifting market
once. -/
structure Accurate : Prop where
  ok : (r.reconcileFetched metrics internal available locked (some rows)).status = .ok ↔
    ¬ r.Drifts (internal - (available + locked)) ∧ ∀ m, ¬ r.Drifts (marketDrift metrics rows m)
  critical : (r.reconcileFetched metrics internal available locked (some rows)).status = .critical ↔
    r.DriftsFar (internal - (available + locked)) ∨
      ∃ m, r.DriftsFar (marketDrift metrics rows m)
  once : ∀ m, r.Drifts (marketDrift metrics rows m) →
    ((r.reconcileFetched metrics internal available locked (some rows)).mismatches.filterMap
      ReconciliationMismatch.marketId).count m = 1

variable {r metrics internal available locked rows} {m : MarketId}

theorem status_ok_iff {mismatches : List ReconciliationMismatch} {threshold : Decimal} :
    classify mismatches threshold = .ok ↔ mismatches = [] := by
  unfold classify
  split
  · simp_all
  · split <;> simp_all

theorem status_critical_iff {mismatches : List ReconciliationMismatch} {threshold : Decimal} :
    classify mismatches threshold = .critical ↔ ∃ x ∈ mismatches, threshold ≤ x.driftAbs := by
  unfold classify
  split
  · simp_all
  · split <;> simp_all

theorem markets_reported :
    (r.positionMismatches metrics rows).filterMap ReconciliationMismatch.marketId =
      (rows.filter fun row => r.tolerance < |metrics.marketExposure row.1 - row.2|).map Prod.fst ++
        metrics.openPositions.filter fun m =>
          m ∉ rows.map Prod.fst ∧ r.tolerance < |metrics.marketExposure m| := by
  rw [positionMismatches, List.filterMap_append, List.filterMap_filterMap,
    List.filterMap_filterMap, ← List.filterMap_eq_map, List.filterMap_filter, ← List.filterMap_eq_filter]
  congr 1
  · refine List.filterMap_congr fun row _ => ?_
    unfold positionMismatch
    dsimp only
    split <;> simp_all [ReconciliationMismatch.marketId]
  · refine List.filterMap_congr fun m _ => ?_
    unfold missingMismatch positionMismatch Option.guard
    dsimp only
    split <;> split <;> simp_all [ReconciliationMismatch.marketId]

theorem positionMismatch_eq_some {v : Usd} {x : ReconciliationMismatch} :
    r.positionMismatch metrics m v = some x ↔
      r.Drifts (metrics.marketExposure m - v) ∧
        x = .positionDrift m (metrics.marketExposure m) v (metrics.marketExposure m - v) := by
  unfold positionMismatch Drifts
  dsimp only
  split <;> simp_all [eq_comm]

theorem marketDrift_of_mem {v : Usd} (hn : (rows.map Prod.fst).Nodup) (h : (m, v) ∈ rows) :
    marketDrift metrics rows m = metrics.marketExposure m - v := by
  let table : Table (Prod.fst : MarketId × Usd → MarketId) := ⟨rows, hn⟩
  have hperm : rows.Perm ((m, v) :: (table.without m).rows) :=
    table.perm_without (table.get_eq_some_iff.mpr ⟨h, rfl⟩)
  have hothers : (table.without m).rows.filter (·.1 = m) = [] := by
    simp [Table.without]
  unfold marketDrift
  rw [((hperm.filter _).map _).sum_eq, List.filter_cons_of_pos (by simp), hothers]
  simp

theorem marketDrift_of_not_mem (h : m ∉ rows.map Prod.fst) :
    marketDrift metrics rows m = metrics.marketExposure m := by
  have hnone : rows.filter (·.1 = m) = [] := by
    refine List.filter_eq_nil_iff.mpr fun row hrow => ?_
    have hne : row.1 ≠ m := fun heq => h (heq ▸ List.mem_map_of_mem hrow)
    simpa using hne
  simp [marketDrift, hnone]

theorem report_markets :
    (r.reconcileFetched metrics internal available locked (some rows)).mismatches.filterMap
      ReconciliationMismatch.marketId =
        (r.positionMismatches metrics rows).filterMap ReconciliationMismatch.marketId := by
  have hcash : (r.balanceMismatch internal (available + locked)).toList.filterMap
      ReconciliationMismatch.marketId = [] := by
    unfold balanceMismatch
    dsimp only
    split <;> rfl
  simp only [reconcileFetched, Option.elim_some, List.filterMap_append, hcash, List.nil_append]

theorem count_reported_of_mem (h : m ∈ rows.map Prod.fst) :
    ((r.positionMismatches metrics rows).filterMap ReconciliationMismatch.marketId).count m =
      ((rows.filter fun row => r.tolerance < |metrics.marketExposure row.1 - row.2|).map
        Prod.fst).count m := by
  have hopen : m ∉ metrics.openPositions.filter fun m =>
      m ∉ rows.map Prod.fst ∧ r.tolerance < |metrics.marketExposure m| :=
    fun hin => (of_decide_eq_true (List.mem_filter.mp hin).2).1 h
  rw [markets_reported, List.count_append, List.count_eq_zero_of_not_mem hopen, add_zero]

theorem count_reported_of_not_mem (h : m ∉ rows.map Prod.fst)
    (hdrift : r.Drifts (metrics.marketExposure m)) :
    ((r.positionMismatches metrics rows).filterMap ReconciliationMismatch.marketId).count m =
      metrics.openPositions.count m := by
  have hrows : m ∉ (rows.filter fun row =>
      r.tolerance < |metrics.marketExposure row.1 - row.2|).map Prod.fst :=
    fun hin => h ((List.filter_sublist.map _).subset hin)
  rw [markets_reported, List.count_append, List.count_eq_zero_of_not_mem hrows, zero_add]
  exact List.count_filter (decide_eq_true ⟨h, hdrift⟩)

/-! ## One row for each market -/

section OneRow

variable (hn : (rows.map Prod.fst).Nodup)
  (hheld : ∀ m ∉ rows.map Prod.fst, r.Drifts (metrics.marketExposure m) →
    metrics.openPositions.count m = 1)
include hn hheld

theorem exists_mismatch_iff {P : Usd → Prop} :
    (∃ x ∈ r.positionMismatches metrics rows, P x.drift) ↔
      ∃ m, r.Drifts (marketDrift metrics rows m) ∧ P (marketDrift metrics rows m) := by
  unfold positionMismatches missingMismatch
  constructor
  · rintro ⟨x, hx, hP⟩
    rcases List.mem_append.mp hx with hx | hx
    · obtain ⟨⟨m, v⟩, hrow, hx⟩ := List.mem_filterMap.mp hx
      obtain ⟨hdrift, rfl⟩ := positionMismatch_eq_some.mp hx
      rw [← marketDrift_of_mem hn hrow] at hdrift
      exact ⟨m, hdrift, (marketDrift_of_mem hn hrow).symm ▸ hP⟩
    · obtain ⟨m, -, hx⟩ := List.mem_filterMap.mp hx
      split at hx
      · cases hx
      · next hmem =>
        obtain ⟨hdrift, rfl⟩ := positionMismatch_eq_some.mp hx
        rw [sub_zero, ← marketDrift_of_not_mem hmem] at hdrift
        refine ⟨m, hdrift, ?_⟩
        rw [marketDrift_of_not_mem hmem]
        simpa [ReconciliationMismatch.drift] using hP
  · rintro ⟨m, hdrift, hP⟩
    by_cases hmem : m ∈ rows.map Prod.fst
    · obtain ⟨⟨m', v⟩, hrow, heq⟩ := List.mem_map.mp hmem
      obtain rfl : m' = m := heq
      rw [marketDrift_of_mem hn hrow] at hdrift hP
      exact ⟨_, List.mem_append_left _ (List.mem_filterMap.mpr
        ⟨_, hrow, positionMismatch_eq_some.mpr ⟨hdrift, rfl⟩⟩), hP⟩
    · rw [marketDrift_of_not_mem hmem] at hdrift hP
      have hopen : m ∈ metrics.openPositions :=
        List.count_pos_iff.mp (by rw [hheld m hmem hdrift]; exact Nat.one_pos)
      refine ⟨.positionDrift m (metrics.marketExposure m) 0 (metrics.marketExposure m - 0),
        List.mem_append_right _ (List.mem_filterMap.mpr ⟨m, hopen, ?_⟩), ?_⟩
      · rw [if_neg hmem]
        exact positionMismatch_eq_some.mpr ⟨by simpa using hdrift, rfl⟩
      · simpa [ReconciliationMismatch.drift] using hP

theorem count_reported (h : r.Drifts (marketDrift metrics rows m)) :
    ((r.positionMismatches metrics rows).filterMap ReconciliationMismatch.marketId).count m = 1 := by
  by_cases hmem : m ∈ rows.map Prod.fst
  · obtain ⟨⟨m', v⟩, hrow, heq⟩ := List.mem_map.mp hmem
    obtain rfl : m' = m := heq
    rw [marketDrift_of_mem hn hrow] at h
    rw [count_reported_of_mem hmem]
    refine List.count_eq_one_of_mem (hn.sublist (List.filter_sublist.map _)) ?_
    exact List.mem_map_of_mem (List.mem_filter.mpr ⟨hrow, decide_eq_true h⟩)
  · rw [marketDrift_of_not_mem hmem] at h
    rw [count_reported_of_not_mem hmem h, hheld m hmem h]

theorem accurate_of_one_row : r.Accurate metrics internal available locked rows := by
  have hcash : ∀ P : Usd → Prop,
      (∃ x ∈ (r.balanceMismatch internal (available + locked)).toList, P x.drift) ↔
        r.Drifts (internal - (available + locked)) ∧ P (internal - (available + locked)) := by
    intro P
    unfold balanceMismatch Drifts
    dsimp only
    split <;> simp_all [ReconciliationMismatch.drift]
  have hall : ∀ P : Usd → Prop, (∃ x ∈ (r.reconcileFetched metrics internal available locked
      (some rows)).mismatches, P x.drift) ↔
        (r.Drifts (internal - (available + locked)) ∧ P (internal - (available + locked))) ∨
          ∃ m, r.Drifts (marketDrift metrics rows m) ∧ P (marketDrift metrics rows m) := by
    intro P
    rw [← hcash, ← exists_mismatch_iff hn hheld]
    simp only [reconcileFetched, Option.elim_some, List.mem_append, or_and_right, exists_or]
  have hok : (r.reconcileFetched metrics internal available locked (some rows)).status = .ok ↔
      (r.reconcileFetched metrics internal available locked (some rows)).mismatches = [] :=
    status_ok_iff
  refine ⟨?_, status_critical_iff.trans (hall fun drift => r.tolerance * 10 ≤ |drift|),
    fun m h => ?_⟩
  · rw [hok, List.eq_nil_iff_forall_not_mem]
    simpa using not_congr (hall fun _ => True)
  · rw [report_markets]
    exact count_reported hn hheld h

end OneRow

/-- **The report is accurate whatever the venue's values are** exactly when no market has two
rows and every market without a row whose exposure is beyond the tolerance has one open
position. -/
theorem reconcile_accurate_iff (r : LedgerReconciler) (metrics : ReconciledMetrics)
    (markets : List MarketId) :
    (∀ internal available locked rows, rows.map Prod.fst = markets →
        r.Accurate metrics internal available locked rows) ↔
      markets.Nodup ∧ ∀ m ∉ markets, r.Drifts (metrics.marketExposure m) →
        metrics.openPositions.count m = 1 := by
  refine ⟨fun h => ?_, ?_⟩
  · have hrows : ∀ v : Usd, (markets.map fun m => (m, v)).map Prod.fst = markets := by
      intro v
      rw [List.map_map]
      exact List.map_id markets
    constructor
    · rw [List.nodup_iff_count_le_one]
      intro m
      by_cases hm : m ∈ markets
      · -- a value so large that every row of the market is reported, and its sum drifts
        let v := |r.tolerance| + |metrics.marketExposure m| + 1
        have hbig : ∀ k : Nat, 1 ≤ k → r.Drifts (metrics.marketExposure m - k * v) := by
          intro k hk
          have hle : v ≤ k * v := le_mul_of_one_le_left (by positivity) (by exact_mod_cast hk)
          have habs := neg_abs_le (metrics.marketExposure m - k * v)
          have hexposure := le_abs_self (metrics.marketExposure m)
          have htolerance := le_abs_self r.tolerance
          unfold Drifts
          linarith
        have hdrift : marketDrift metrics (markets.map fun m => (m, v)) m =
            metrics.marketExposure m - markets.count m * v := by
          have hlen : (markets.filter (· = m)).length = markets.count m := by
            rw [List.count_eq_length_filter]
            rfl
          unfold marketDrift
          rw [List.filter_map, List.map_map]
          simp [Function.comp_def, hlen]
        have honce := (h 0 0 0 _ (hrows v)).once m
          (hdrift ▸ hbig _ (List.one_le_count_iff.mpr hm))
        have hreported : ((markets.map fun m => (m, v)).filter fun row =>
            r.tolerance < |metrics.marketExposure row.1 - row.2|).map Prod.fst =
              markets.filter fun m => r.Drifts (metrics.marketExposure m - v) := by
          rw [List.filter_map, List.map_map]
          exact List.map_id _
        rw [report_markets, count_reported_of_mem (by rw [hrows]; exact hm), hreported,
          List.count_filter (by simpa using hbig 1 le_rfl)] at honce
        exact honce.le
      · rw [List.count_eq_zero_of_not_mem hm]
        exact Nat.zero_le 1
    · intro m hm hdrift
      have hm' : m ∉ (markets.map fun m => (m, (0 : Usd))).map Prod.fst := by rwa [hrows]
      have honce := (h 0 0 0 _ (hrows 0)).once m ((marketDrift_of_not_mem hm').symm ▸ hdrift)
      rwa [report_markets, count_reported_of_not_mem hm' hdrift] at honce
  · rintro ⟨hn, hheld⟩ internal available locked rows rfl
    exact accurate_of_one_row hn hheld

end LedgerReconciler

/-- Two rows of one market that add up to its exposure: a critical report that names the market
twice. -/
theorem two_rows_reported_twice :
    let metrics : ReconciledMetrics := ⟨fun m => if m = ⟨"m"⟩ then 100 else 0, [⟨"m"⟩], 100, 0⟩
    let rows := [((⟨"m"⟩ : MarketId), (50 : Usd)), (⟨"m"⟩, 50)]
    let report := LedgerReconciler.reconcileFetched ⟨1⟩ metrics 0 0 0 (some rows)
    LedgerReconciler.marketDrift metrics rows ⟨"m"⟩ = 0 ∧ report.status = .critical ∧
      (report.mismatches.filterMap ReconciliationMismatch.marketId).count ⟨"m"⟩ = 2 := by
  decide +kernel

end OxideArb.Risk
