import Mathlib.Algebra.Order.Group.Multiset
import Mathlib.Data.Multiset.Filter
import Mathlib.Data.Prod.Lex
import OxideArb.Detection.Scorer
import OxideArb.Lib.LazyHeap
import OxideArb.Lib.Table

/-!
# The funnel queue

Opportunities wait for a sweep in a map with two heaps over it, which a key leaves only at the
top. Over every run of calls the map is a bounded priority queue; the heaps are not bounded.
-/

namespace OxideArb

namespace Funnel

/-! ## The queue -/

structure ScoredEntry (α : Type*) where
  receivedAt : DateTime
  scored : α
deriving DecidableEq, Repr

structure HeapKey where
  score : MicroScore
  receivedAt : DateTime
  id : Nat
deriving DecidableEq, Repr

def KeyOrder := Int ×ₗ (Int ×ₗ Nat)

instance : LinearOrder KeyOrder :=
  @Prod.Lex.instLinearOrder Int (Int ×ₗ Nat) Int.instLinearOrder
    (@Prod.Lex.instLinearOrder Int Nat Int.instLinearOrder Nat.instLinearOrder)

/-- `HeapKey::cmp`: by score, the earlier received greater among equals. Which of several keys
that compare equal a heap has at its top is left to `rank`. -/
def HeapKey.maxOrder (rank : Nat → Nat) (key : HeapKey) : KeyOrder :=
  toLex (key.score, toLex (-key.receivedAt, rank key.id))

/-- The order of `Reverse<HeapKey>`. -/
def HeapKey.minOrder (rank : Nat → Nat) (key : HeapKey) : KeyOrder :=
  toLex (-key.score, toLex (key.receivedAt, rank key.id))

inductive SubmitOutcome
  | enqueued
  | enqueuedEvicted
  | dropped
deriving DecidableEq, Repr

variable {α : Type*}

abbrev Entries (α : Type*) := Table (Prod.fst : Nat × ScoredEntry α → Nat)

def Entries.containsKey (entries : Entries α) (key : HeapKey) : Bool :=
  (entries.get key.id).isSome

structure FunnelQueue (α : Type*) where
  entries : Entries α
  maxHeap : List HeapKey
  minHeap : List HeapKey
  nextId : Nat
  maxSize : Nat

namespace FunnelQueue

def new (maxSize : Nat) : FunnelQueue α :=
  { entries := .empty, maxHeap := [], minHeap := [], nextId := 0, maxSize }

def len (q : FunnelQueue α) : Nat := q.entries.rows.length

def pushHeaps (q : FunnelQueue α) (key : HeapKey) : FunnelQueue α :=
  { q with maxHeap := key :: q.maxHeap, minHeap := key :: q.minHeap }

def peekMinScore (rank : Nat → Nat) (q : FunnelQueue α) : Option MicroScore × FunnelQueue α :=
  let heap := LazyHeap.skim (HeapKey.minOrder rank) q.entries.containsKey q.minHeap.length
    q.minHeap
  ((heap.argmax (HeapKey.minOrder rank)).map HeapKey.score, { q with minHeap := heap })

def evictMin (rank : Nat → Nat) (q : FunnelQueue α) : Bool × FunnelQueue α :=
  match LazyHeap.popLive (HeapKey.minOrder rank) q.entries.containsKey q.minHeap.length
    q.minHeap with
  | (none, heap) => (false, { q with minHeap := heap })
  | (some key, heap) =>
    (true, { q with minHeap := heap, entries := q.entries.without key.id })

/-- The end of `submit`: the entry takes the next id. -/
def insert (q : FunnelQueue α) (scored : α) (score : MicroScore) (now : DateTime) :
    FunnelQueue α :=
  { q with nextId := q.nextId + 1, entries := q.entries.put (q.nextId, ⟨now, scored⟩) }.pushHeaps
    ⟨score, now, q.nextId⟩

def submit (rank : Nat → Nat) (q : FunnelQueue α) (scored : α) (score : MicroScore)
    (now : DateTime) : SubmitOutcome × FunnelQueue α :=
  if q.maxSize ≤ q.len then
    match q.peekMinScore rank with
    | (none, q) => (.dropped, q)
    | (some minScore, q) =>
      if score ≤ minScore then (.dropped, q)
      else (.enqueuedEvicted, (q.evictMin rank).2.insert scored score now)
  else (.enqueued, q.insert scored score now)

def popBest (rank : Nat → Nat) (q : FunnelQueue α) : Option (ScoredEntry α) × FunnelQueue α :=
  match LazyHeap.popLive (HeapKey.maxOrder rank) q.entries.containsKey q.maxHeap.length
    q.maxHeap with
  | (none, heap) => (none, { q with maxHeap := heap })
  | (some key, heap) =>
    ((q.entries.get key.id).map Prod.snd,
      { q with maxHeap := heap, entries := q.entries.without key.id })

/-- The loop of `set_max_size`; every turn evicts an entry. -/
def shrink (rank : Nat → Nat) : Nat → FunnelQueue α → Nat × FunnelQueue α
  | 0, q => (0, q)
  | fuel + 1, q =>
    if q.maxSize < q.len then
      match q.evictMin rank with
      | (false, q) => (0, q)
      | (true, q) => ((shrink rank fuel q).1 + 1, (shrink rank fuel q).2)
    else (0, q)

def setMaxSize (rank : Nat → Nat) (q : FunnelQueue α) (maxSize : Nat) : Nat × FunnelQueue α :=
  shrink rank q.len { q with maxSize }

def evictLowest (rank : Nat → Nat) (q : FunnelQueue α) : Bool × FunnelQueue α :=
  q.evictMin rank

end FunnelQueue

inductive Call (α : Type*)
  | submit (scored : α) (score : MicroScore) (now : DateTime)
  | popBest
  | evictLowest
  | setMaxSize (maxSize : Nat)

inductive Answer (α : Type*)
  | submitted (outcome : SubmitOutcome)
  | popped (entry : Option (ScoredEntry α))
  | evicted (found : Bool)
  | resized (evicted : Nat)

namespace FunnelQueue

def call (rank : Nat → Nat) (q : FunnelQueue α) : Call α → Answer α × FunnelQueue α
  | .submit scored score now =>
    (.submitted (q.submit rank scored score now).1, (q.submit rank scored score now).2)
  | .popBest => (.popped (q.popBest rank).1, (q.popBest rank).2)
  | .evictLowest => (.evicted (q.evictLowest rank).1, (q.evictLowest rank).2)
  | .setMaxSize maxSize => (.resized (q.setMaxSize rank maxSize).1, (q.setMaxSize rank maxSize).2)

/-- A run of calls, each with its own way to break ties: the answers and the queue at the end. -/
def run : FunnelQueue α → List ((Nat → Nat) × Call α) → List (Call α × Answer α) × FunnelQueue α
  | q, [] => ([], q)
  | q, (rank, c) :: calls =>
    ((c, (q.call rank c).1) :: (run (q.call rank c).2 calls).1, (run (q.call rank c).2 calls).2)

end FunnelQueue

/-! ## The bounded priority queue -/

/-- An entry with the key it was submitted under. -/
structure Held (α : Type*) where
  key : HeapKey
  scored : α

def Held.entry (x : Held α) : ScoredEntry α := ⟨x.key.receivedAt, x.scored⟩

def Lowest (y : Held α) (held : Multiset (Held α)) : Prop :=
  ∀ z ∈ held, y.key.score ≤ z.key.score

def Best (y : Held α) (held : Multiset (Held α)) : Prop :=
  ∀ z ∈ held, z.key.score < y.key.score ∨
    (z.key.score = y.key.score ∧ y.key.receivedAt ≤ z.key.receivedAt)

/-- What is held, with all that was accepted, returned and evicted so far. -/
structure BoundedQueue (α : Type*) where
  maxSize : Nat
  held : Multiset (Held α)
  accepted : Multiset (ScoredEntry α)
  returned : Multiset (ScoredEntry α)
  evicted : Multiset (ScoredEntry α)

namespace BoundedQueue

def new (maxSize : Nat) : BoundedQueue α := ⟨maxSize, 0, 0, 0, 0⟩

inductive Step (s : BoundedQueue α) : Call α → Answer α → BoundedQueue α → Prop
  | enqueue (x : Held α) (room : s.held.card < s.maxSize) :
      Step s (.submit x.scored x.key.score x.key.receivedAt) (.submitted .enqueued)
        { s with held := x ::ₘ s.held, accepted := x.entry ::ₘ s.accepted }
  | drop (scored : α) (score : MicroScore) (now : DateTime) (full : s.maxSize ≤ s.held.card)
      (low : ∀ z ∈ s.held, score ≤ z.key.score) :
      Step s (.submit scored score now) (.submitted .dropped) s
  | replace (x y : Held α) (rest : Multiset (Held α)) (full : s.maxSize ≤ s.held.card)
      (split : s.held = y ::ₘ rest) (lowest : Lowest y s.held) (lower : y.key.score < x.key.score) :
      Step s (.submit x.scored x.key.score x.key.receivedAt) (.submitted .enqueuedEvicted)
        { s with
          held := x ::ₘ rest, accepted := x.entry ::ₘ s.accepted
          evicted := y.entry ::ₘ s.evicted }
  | pop (y : Held α) (rest : Multiset (Held α)) (split : s.held = y ::ₘ rest)
      (best : Best y s.held) :
      Step s .popBest (.popped (some y.entry))
        { s with held := rest, returned := y.entry ::ₘ s.returned }
  | popEmpty (empty : s.held = 0) : Step s .popBest (.popped none) s
  | evict (y : Held α) (rest : Multiset (Held α)) (split : s.held = y ::ₘ rest)
      (lowest : Lowest y s.held) :
      Step s .evictLowest (.evicted true)
        { s with held := rest, evicted := y.entry ::ₘ s.evicted }
  | evictEmpty (empty : s.held = 0) : Step s .evictLowest (.evicted false) s
  | resize (maxSize : Nat) (kept gone : Multiset (Held α)) (split : s.held = kept + gone)
      (lowest : ∀ y ∈ gone, Lowest y kept) (size : kept.card = min s.held.card maxSize) :
      Step s (.setMaxSize maxSize) (.resized gone.card)
        { s with
          maxSize, held := kept, evicted := gone.map Held.entry + s.evicted }

def Runs : BoundedQueue α → List (Call α × Answer α) → BoundedQueue α → Prop
  | s, [], t => t = s
  | s, (c, answer) :: trace, t => ∃ u, Step s c answer u ∧ Runs u trace t

/-- No more than allowed is held, and of all that was accepted nothing is lost or doubled. -/
structure Accounted (s : BoundedQueue α) : Prop where
  bounded : s.held.card ≤ s.maxSize
  partition : s.accepted = s.held.map Held.entry + s.returned + s.evicted

theorem Step.accounted {s t : BoundedQueue α} {c : Call α} {answer : Answer α}
    (h : Step s c answer t) (hs : s.Accounted) : t.Accounted := by
  have hbounded := hs.bounded
  have hpartition := hs.partition
  cases h with
  | enqueue x room =>
    refine ⟨by rw [Multiset.card_cons]; exact room, ?_⟩
    simp only [hpartition, Multiset.map_cons, Multiset.cons_add]
  | drop => exact hs
  | replace x y rest full split lowest lower =>
    rw [split] at hbounded hpartition
    rw [Multiset.card_cons] at hbounded
    refine ⟨by rw [Multiset.card_cons]; exact hbounded, ?_⟩
    simp only [hpartition, Multiset.map_cons, Multiset.cons_add, Multiset.add_cons]
    exact Multiset.cons_swap _ _ _
  | pop y rest split best =>
    rw [split] at hbounded hpartition
    rw [Multiset.card_cons] at hbounded
    refine ⟨Nat.le_of_succ_le hbounded, ?_⟩
    simp only [hpartition, Multiset.map_cons, Multiset.cons_add, Multiset.add_cons]
  | popEmpty => exact hs
  | evict y rest split lowest =>
    rw [split] at hbounded hpartition
    rw [Multiset.card_cons] at hbounded
    refine ⟨Nat.le_of_succ_le hbounded, ?_⟩
    simp only [hpartition, Multiset.map_cons, Multiset.cons_add, Multiset.add_cons]
  | evictEmpty => exact hs
  | resize maxSize kept gone split lowest size =>
    refine ⟨size.trans_le (min_le_right _ _), ?_⟩
    simp only [hpartition, split, Multiset.map_add]
    abel

theorem Runs.accounted {trace : List (Call α × Answer α)} {s t : BoundedQueue α}
    (h : Runs s trace t) (hs : s.Accounted) : t.Accounted := by
  induction trace generalizing s with
  | nil => exact h ▸ hs
  | cons event trace ih =>
    obtain ⟨u, hstep, hruns⟩ := h
    exact ih hruns (hstep.accounted hs)

end BoundedQueue

/-! ## The queue refines it -/

def Held.row (x : Held α) : Nat × ScoredEntry α := (x.key.id, x.entry)

theorem Entries.containsKey_without (entries : Entries α) (id : Nat) (key : HeapKey) :
    Entries.containsKey (entries.without id) key =
      (decide (key.id ≠ id) && entries.containsKey key) := by
  unfold Entries.containsKey
  by_cases h : key.id = id
  · rw [h, Table.get_without_self]
    simp
  · rw [Table.get_without_ne _ h]
    simp [h]

theorem Entries.containsKey_put (entries : Entries α) (row : Nat × ScoredEntry α)
    (key : HeapKey) :
    Entries.containsKey (entries.put row) key =
      (decide (key.id = row.1) || entries.containsKey key) := by
  unfold Entries.containsKey
  rw [Table.get_put]
  by_cases h : key.id = row.1 <;> simp [h]

/-- The keys of a heap that are alive are those of what is held. -/
def Tracks (entries : Entries α) (heap : List HeapKey) (held : Multiset (Held α)) : Prop :=
  (heap.filter entries.containsKey : Multiset HeapKey) = held.map Held.key

section

variable {entries : Entries α} {heap rest : List HeapKey} {held : Multiset (Held α)}

theorem Tracks.mem (h : Tracks entries heap held) {x : Held α} (hx : x ∈ held) :
    x.key ∈ heap ∧ entries.containsKey x.key = true := by
  have hkey := Multiset.mem_map_of_mem Held.key hx
  rw [← h] at hkey
  exact List.mem_filter.mp hkey

theorem Tracks.eq_zero (h : Tracks entries heap held)
    (hnone : heap.filter entries.containsKey = []) : held = 0 := by
  unfold Tracks at h
  rw [hnone] at h
  exact Multiset.map_eq_zero.mp h.symm

theorem Tracks.of_perm (h : Tracks entries heap held)
    (hperm : (rest.filter entries.containsKey).Perm (heap.filter entries.containsKey)) :
    Tracks entries rest held :=
  (Multiset.coe_eq_coe.mpr hperm).trans h

theorem Tracks.without (h : Tracks entries heap held) (id : Nat) :
    Tracks (entries.without id) heap (held.filter fun x => x.key.id ≠ id) := by
  have hfilter : heap.filter (Entries.containsKey (entries.without id)) =
      (heap.filter entries.containsKey).filter fun key => key.id ≠ id := by
    rw [List.filter_filter]
    exact List.filter_congr fun key _ => entries.containsKey_without id key
  unfold Tracks at h ⊢
  rw [hfilter, ← Multiset.filter_coe, h, Multiset.filter_map]
  rfl

theorem Tracks.cons (h : Tracks entries heap held) (x : Held α)
    (hfresh : ∀ key ∈ heap, key.id ≠ x.key.id) :
    Tracks (entries.put x.row) (x.key :: heap) (x ::ₘ held) := by
  have hnew : Entries.containsKey (entries.put x.row) x.key = true := by
    rw [Entries.containsKey_put]
    simp [Held.row]
  have hold : heap.filter (Entries.containsKey (entries.put x.row)) =
      heap.filter entries.containsKey := by
    refine List.filter_congr fun key hkey => ?_
    rw [Entries.containsKey_put]
    simp [Held.row, hfresh key hkey]
  unfold Tracks at h ⊢
  rw [List.filter_cons_of_pos hnew, hold, ← Multiset.cons_coe, h, Multiset.map_cons]

theorem Tracks.takes {ω : Type*} [LinearOrder ω] {order : HeapKey → ω} {top : HeapKey}
    (h : Tracks entries heap held)
    (htakes : LazyHeap.Takes order entries.containsKey heap top rest) :
    ∃ y others, held = y ::ₘ others ∧ y.key = top ∧ Tracks entries rest others ∧
      ∀ z ∈ held, order z.key ≤ order top := by
  have hkeys : held.map Held.key = top ::ₘ (rest.filter entries.containsKey : Multiset HeapKey) :=
    h.symm.trans (Multiset.coe_eq_coe.mpr htakes.perm)
  obtain ⟨y, hy, htop⟩ := Multiset.mem_map.mp (hkeys ▸ Multiset.mem_cons_self top _)
  obtain ⟨others, hsplit⟩ := Multiset.exists_cons_of_mem hy
  refine ⟨y, others, hsplit, htop, ?_, fun z hz => ?_⟩
  · rw [hsplit, Multiset.map_cons, htop] at hkeys
    exact ((Multiset.cons_inj_right top).mp hkeys).symm
  · obtain ⟨hmem, hlive⟩ := h.mem hz
    exact htakes.greatest _ (List.mem_filter.mpr ⟨hmem, hlive⟩)

end

theorem lowest_of_minOrder {rank : Nat → Nat} {y : Held α} {held : Multiset (Held α)}
    (h : ∀ z ∈ held, HeapKey.minOrder rank z.key ≤ HeapKey.minOrder rank y.key) :
    Lowest y held := by
  intro z hz
  rcases Prod.Lex.toLex_le_toLex.mp (h z hz) with hlt | ⟨heq, -⟩
  · exact neg_le_neg_iff.mp hlt.le
  · exact neg_le_neg_iff.mp heq.le

theorem best_of_maxOrder {rank : Nat → Nat} {y : Held α} {held : Multiset (Held α)}
    (h : ∀ z ∈ held, HeapKey.maxOrder rank z.key ≤ HeapKey.maxOrder rank y.key) :
    Best y held := by
  intro z hz
  rcases Prod.Lex.toLex_le_toLex.mp (h z hz) with hlt | ⟨heq, hle⟩
  · exact .inl hlt
  · refine .inr ⟨heq, ?_⟩
    rcases Prod.Lex.toLex_le_toLex.mp hle with hlt | ⟨hsame, -⟩
    · exact neg_le_neg_iff.mp hlt.le
    · exact neg_le_neg_iff.mp hsame.le

namespace FunnelQueue

/-- The number of keys in both heaps. -/
def keys (q : FunnelQueue α) : Nat := q.maxHeap.length + q.minHeap.length

structure Represents (q : FunnelQueue α) (held : Multiset (Held α)) : Prop where
  entries : (q.entries.rows : Multiset (Nat × ScoredEntry α)) = held.map Held.row
  maxHeap : Tracks q.entries q.maxHeap held
  minHeap : Tracks q.entries q.minHeap held
  fresh : ∀ key, key ∈ q.maxHeap ∨ key ∈ q.minHeap → key.id < q.nextId

theorem represents_new (maxSize : Nat) : (new maxSize : FunnelQueue α).Represents 0 :=
  ⟨rfl, rfl, rfl, fun _ h => by rcases h with h | h <;> cases h⟩

variable {q : FunnelQueue α} {held rest : Multiset (Held α)} {y : Held α}

theorem Represents.len (h : q.Represents held) : q.len = held.card := by
  have hcard := congrArg Multiset.card h.entries
  rwa [Multiset.coe_card, Multiset.card_map] at hcard

theorem Represents.filter_ne (h : q.Represents (y ::ₘ rest)) :
    (rest.filter fun x => x.key.id ≠ y.key.id) = rest := by
  have hnodup := Multiset.coe_nodup.mpr q.entries.nodup
  rw [← Multiset.map_coe, h.entries, Multiset.map_map, Multiset.map_cons,
    Multiset.nodup_cons] at hnodup
  refine Multiset.filter_eq_self.mpr fun x hx hsame => hnodup.1 ?_
  exact Multiset.mem_map.mpr ⟨x, hx, hsame⟩

theorem Represents.filter_cons_ne (h : q.Represents (y ::ₘ rest)) :
    ((y ::ₘ rest).filter fun x => x.key.id ≠ y.key.id) = rest := by
  rw [Multiset.filter_cons_of_neg _ (fun hne => hne rfl), h.filter_ne]

/-- An entry leaves the map and its key the heaps it was popped from. -/
theorem Represents.remove (h : q.Represents (y ::ₘ rest)) {maxHeap minHeap : List HeapKey}
    (hmax : maxHeap = q.maxHeap ∨ Tracks q.entries maxHeap rest)
    (hmin : minHeap = q.minHeap ∨ Tracks q.entries minHeap rest)
    (hfresh : maxHeap.Sublist q.maxHeap ∧ minHeap.Sublist q.minHeap) :
    { q with maxHeap, minHeap, entries := q.entries.without y.key.id }.Represents rest := by
  have htracks : ∀ {heap heap' : List HeapKey}, Tracks q.entries heap (y ::ₘ rest) →
      heap' = heap ∨ Tracks q.entries heap' rest →
      Tracks (q.entries.without y.key.id) heap' rest := by
    rintro heap heap' hheap (rfl | hpopped)
    · have hother := hheap.without y.key.id
      rwa [h.filter_cons_ne] at hother
    · have hown := hpopped.without y.key.id
      rwa [h.filter_ne] at hown
  refine ⟨?_, htracks h.maxHeap hmax, htracks h.minHeap hmin, ?_⟩
  · change Multiset.ofList (q.entries.rows.filter fun r => r.1 ≠ y.key.id) = _
    rw [← Multiset.filter_coe, h.entries, Multiset.filter_map]
    exact congrArg (Multiset.map Held.row) h.filter_cons_ne
  · rintro key (hkey | hkey)
    · exact h.fresh key (.inl (hfresh.1.subset hkey))
    · exact h.fresh key (.inr (hfresh.2.subset hkey))

theorem Represents.insert (h : q.Represents held) (scored : α) (score : MicroScore)
    (now : DateTime) :
    (q.insert scored score now).Represents (⟨⟨score, now, q.nextId⟩, scored⟩ ::ₘ held) := by
  have hnone : q.entries.get q.nextId = none := by
    refine Option.eq_none_iff_forall_ne_some.mpr fun row hrow => ?_
    obtain ⟨hmem, hid⟩ := q.entries.get_eq_some_iff.mp hrow
    rw [← Multiset.mem_coe, h.entries] at hmem
    obtain ⟨x, hx, rfl⟩ := Multiset.mem_map.mp hmem
    exact (h.fresh _ (.inl (h.maxHeap.mem hx).1)).ne hid
  constructor
  · change Multiset.ofList ((q.entries.without q.nextId).rows ++ [_]) = _
    rw [q.entries.without_of_get_eq_none hnone, ← Multiset.coe_add, h.entries, add_comm,
      Multiset.coe_singleton, Multiset.singleton_add, Multiset.map_cons]
    rfl
  · exact h.maxHeap.cons ⟨⟨score, now, q.nextId⟩, scored⟩ fun key hkey =>
      (h.fresh key (.inl hkey)).ne
  · exact h.minHeap.cons ⟨⟨score, now, q.nextId⟩, scored⟩ fun key hkey =>
      (h.fresh key (.inr hkey)).ne
  · intro key hkey
    have hcases : key = ⟨score, now, q.nextId⟩ ∨ key ∈ q.maxHeap ∨ key ∈ q.minHeap := by
      rcases hkey with hkey | hkey
      · exact (List.mem_cons.mp hkey).imp_right .inl
      · exact (List.mem_cons.mp hkey).imp_right .inr
    rcases hcases with rfl | hold
    · exact Nat.lt_succ_self _
    · exact (h.fresh key hold).trans (Nat.lt_succ_self _)

/-! ## What the calls do -/

theorem Represents.skim (h : q.Represents held) (rank : Nat → Nat) :
    (q.peekMinScore rank).2.Represents held :=
  ⟨h.entries, h.maxHeap, h.minHeap.of_perm (LazyHeap.skim_filter _ _), fun key hkey =>
    h.fresh key (hkey.imp_right fun hmin => (LazyHeap.skim_sublist _ _).subset hmin)⟩

theorem peekMinScore_keys (q : FunnelQueue α) (rank : Nat → Nat) :
    (q.peekMinScore rank).2.keys ≤ q.keys :=
  Nat.add_le_add_left (LazyHeap.skim_sublist _ _).length_le _

/-- The score peeked is the lowest one held. -/
theorem Represents.peekMinScore (h : q.Represents held) (rank : Nat → Nat) :
    ((q.peekMinScore rank).1 = none ∧ held = 0) ∨
      ∃ y ∈ held, (q.peekMinScore rank).1 = some y.key.score ∧ Lowest y held := by
  have htracks := (h.skim rank).minHeap
  unfold FunnelQueue.peekMinScore at htracks ⊢
  dsimp only at htracks ⊢
  cases htop : (LazyHeap.skim (HeapKey.minOrder rank) q.entries.containsKey q.minHeap.length
      q.minHeap).argmax (HeapKey.minOrder rank) with
  | none =>
    rw [List.argmax_eq_none.mp htop] at htracks
    exact .inl ⟨rfl, Multiset.map_eq_zero.mp htracks.symm⟩
  | some top =>
    have hlive := LazyHeap.skim_top le_rfl htop
    have hmem := Multiset.mem_coe.mpr (List.mem_filter.mpr ⟨List.argmax_mem htop, hlive⟩)
    rw [htracks] at hmem
    obtain ⟨y, hy, rfl⟩ := Multiset.mem_map.mp hmem
    exact .inr ⟨y, hy, rfl, lowest_of_minOrder fun z hz =>
      List.le_of_mem_argmax (htracks.mem hz).1 htop⟩

theorem evictMin_maxSize (q : FunnelQueue α) (rank : Nat → Nat) :
    (q.evictMin rank).2.maxSize = q.maxSize := by
  unfold evictMin
  split <;> rfl

theorem Represents.evictMin (h : q.Represents held) (rank : Nat → Nat) :
    (held = 0 ∧ (q.evictMin rank).1 = false ∧ (q.evictMin rank).2.Represents held) ∨
      ∃ y rest, held = y ::ₘ rest ∧ Lowest y held ∧ (q.evictMin rank).1 = true ∧
        (q.evictMin rank).2.Represents rest ∧ (q.evictMin rank).2.keys + 1 ≤ q.keys := by
  unfold FunnelQueue.evictMin
  split
  · rename_i heap hpop
    obtain ⟨hnone, rfl⟩ := LazyHeap.popLive_none le_rfl hpop
    obtain rfl := h.minHeap.eq_zero hnone
    exact .inl ⟨rfl, rfl, h.entries, h.maxHeap, rfl, fun key hkey =>
      h.fresh key (hkey.imp_right fun hmin => by cases hmin)⟩
  · rename_i top heap hpop
    have htakes := LazyHeap.popLive_some hpop
    obtain ⟨y, rest, rfl, rfl, htracks, hlowest⟩ := h.minHeap.takes htakes
    refine .inr ⟨y, rest, rfl, lowest_of_minOrder hlowest, rfl, ?_, ?_⟩
    · exact h.remove (.inl rfl) (.inr htracks) ⟨.refl _, htakes.sublist⟩
    · exact Nat.add_le_add_left htakes.length _

theorem popBest_maxSize (q : FunnelQueue α) (rank : Nat → Nat) :
    (q.popBest rank).2.maxSize = q.maxSize := by
  unfold popBest
  split <;> rfl

theorem Represents.popBest (h : q.Represents held) (rank : Nat → Nat) :
    (held = 0 ∧ (q.popBest rank).1 = none ∧ (q.popBest rank).2.Represents held ∧
        (q.popBest rank).2.keys ≤ q.keys) ∨
      ∃ y rest, held = y ::ₘ rest ∧ Best y held ∧ (q.popBest rank).1 = some y.entry ∧
        (q.popBest rank).2.Represents rest ∧ (q.popBest rank).2.keys + 1 ≤ q.keys := by
  unfold FunnelQueue.popBest
  split
  · rename_i heap hpop
    obtain ⟨hnone, rfl⟩ := LazyHeap.popLive_none le_rfl hpop
    obtain rfl := h.maxHeap.eq_zero hnone
    exact .inl ⟨rfl, rfl, ⟨h.entries, rfl, h.minHeap, fun key hkey =>
      h.fresh key (hkey.imp_left fun hmax => by cases hmax)⟩,
      Nat.add_le_add_right (Nat.zero_le _) _⟩
  · rename_i top heap hpop
    have htakes := LazyHeap.popLive_some hpop
    obtain ⟨y, rest, rfl, rfl, htracks, hbest⟩ := h.maxHeap.takes htakes
    have hget : q.entries.get y.key.id = some y.row := by
      refine q.entries.get_eq_some_iff.mpr ⟨?_, rfl⟩
      rw [← Multiset.mem_coe, h.entries]
      exact Multiset.mem_map_of_mem _ (Multiset.mem_cons_self _ _)
    refine .inr ⟨y, rest, rfl, best_of_maxOrder hbest, by rw [hget]; rfl, ?_, ?_⟩
    · exact h.remove (.inr htracks) (.inl rfl) ⟨htakes.sublist, .refl _⟩
    · have hlength := htakes.length
      change heap.length + q.minHeap.length + 1 ≤ q.maxHeap.length + q.minHeap.length
      omega

/-- The three ways a submission goes. -/
theorem Represents.submit (h : q.Represents held) (rank : Nat → Nat) (scored : α)
    (score : MicroScore) (now : DateTime) :
    (held.card < q.maxSize ∧
        q.submit rank scored score now = (.enqueued, q.insert scored score now)) ∨
      (q.maxSize ≤ held.card ∧ (∀ z ∈ held, score ≤ z.key.score) ∧
        q.submit rank scored score now = (.dropped, (q.peekMinScore rank).2)) ∨
      ∃ y rest, ∃ q' : FunnelQueue α, q.maxSize ≤ held.card ∧ held = y ::ₘ rest ∧ Lowest y held ∧
        y.key.score < score ∧
        q.submit rank scored score now = (.enqueuedEvicted, q'.insert scored score now) ∧
        q'.Represents rest ∧ q'.maxSize = q.maxSize ∧ q'.keys + 1 ≤ q.keys := by
  unfold FunnelQueue.submit
  rw [h.len]
  by_cases hfull : q.maxSize ≤ held.card
  · rw [if_pos hfull]
    refine .inr ?_
    rcases h.peekMinScore rank with ⟨hnone, rfl⟩ | ⟨y, hy, hsome, hlowest⟩
    · refine .inl ⟨hfull, fun _ hz => absurd hz (Multiset.notMem_zero _), ?_⟩
      rw [← Prod.mk.eta (p := q.peekMinScore rank), hnone]
    · rw [← Prod.mk.eta (p := q.peekMinScore rank), hsome]
      dsimp only
      by_cases hlow : score ≤ y.key.score
      · rw [if_pos hlow]
        exact .inl ⟨hfull, fun z hz => hlow.trans (hlowest z hz), rfl⟩
      · rw [if_neg hlow]
        rcases (h.skim rank).evictMin rank with ⟨rfl, -⟩ | ⟨x, rest, rfl, hx, -, hrep, hkeys⟩
        · cases hy
        · refine .inr ⟨x, rest, _, hfull, rfl, hx, ?_, rfl, hrep, ?_, ?_⟩
          · exact (hx y hy).trans_lt (not_le.mp hlow)
          · exact evictMin_maxSize _ _
          · exact hkeys.trans (q.peekMinScore_keys rank)
  · rw [if_neg hfull]
    exact .inl ⟨not_le.mp hfull, rfl⟩

/-- The loop evicts the lowest ones until the size fits. -/
def ShrinksTo (held : Multiset (Held α)) (q : FunnelQueue α) (result : Nat × FunnelQueue α) :
    Prop :=
  ∃ kept gone : Multiset (Held α), held = kept + gone ∧ (∀ y ∈ gone, Lowest y kept) ∧
    kept.card = min held.card q.maxSize ∧ result.1 = gone.card ∧ result.2.Represents kept ∧
    result.2.maxSize = q.maxSize

theorem Represents.shrinksTo_self (h : q.Represents held) (hle : held.card ≤ q.maxSize) :
    ShrinksTo held q (0, q) :=
  ⟨held, 0, (add_zero held).symm, fun _ hy => absurd hy (Multiset.notMem_zero _),
    (min_eq_left hle).symm, rfl, h, rfl⟩

theorem Represents.shrink {fuel : Nat} (h : q.Represents held) (hfuel : held.card ≤ fuel)
    (rank : Nat → Nat) : ShrinksTo held q (shrink rank fuel q) := by
  induction fuel generalizing q held with
  | zero => exact h.shrinksTo_self (hfuel.trans (Nat.zero_le _))
  | succ fuel ih =>
    unfold FunnelQueue.shrink
    rw [h.len]
    by_cases hover : q.maxSize < held.card
    · have hsize := q.evictMin_maxSize rank
      rcases h.evictMin rank with ⟨rfl, -⟩ | ⟨y, rest, rfl, hlowest, htrue, hrep, -⟩
      · exact absurd hover (Nat.not_lt_zero _)
      · rw [if_pos hover, ← Prod.mk.eta (p := q.evictMin rank), htrue]
        rw [Multiset.card_cons] at hfuel hover
        obtain ⟨kept, gone, rfl, hgone, hcard, hcount, hkept, hmax⟩ :=
          ih hrep (Nat.le_of_succ_le_succ hfuel)
        refine ⟨kept, y ::ₘ gone, (Multiset.add_cons _ _ _).symm, ?_, ?_, ?_, hkept,
          hmax.trans hsize⟩
        · intro x hx
          rcases Multiset.mem_cons.mp hx with rfl | hx
          · exact fun z hz => hlowest z
              (Multiset.mem_cons_of_mem (Multiset.mem_add.mpr (.inl hz)))
          · exact hgone x hx
        · rw [hcard, hsize, Multiset.card_cons]
          omega
        · rw [Multiset.card_cons, ← hcount]
    · rw [if_neg hover]
      exact h.shrinksTo_self (not_lt.mp hover)

/-! ## Refinement -/

theorem call_simulates {s : BoundedQueue α} (h : q.Represents s.held)
    (hmax : s.maxSize = q.maxSize) (rank : Nat → Nat) (c : Call α) :
    ∃ t, s.Step c (q.call rank c).1 t ∧ (q.call rank c).2.Represents t.held ∧
      t.maxSize = (q.call rank c).2.maxSize := by
  cases c with
  | submit scored score now =>
    unfold call
    dsimp only
    rcases h.submit rank scored score now with ⟨hroom, heq⟩ | ⟨hfull, hlow, heq⟩ |
      ⟨y, rest, q', hfull, hsplit, hlowest, hlower, heq, hrep, hsize, -⟩
    · rw [heq]
      exact ⟨_, .enqueue ⟨⟨score, now, q.nextId⟩, scored⟩ (hmax ▸ hroom),
        h.insert scored score now, hmax⟩
    · rw [heq]
      exact ⟨s, .drop scored score now (hmax ▸ hfull) hlow, h.skim rank, hmax⟩
    · rw [heq]
      exact ⟨_, .replace ⟨⟨score, now, q'.nextId⟩, scored⟩ y rest (hmax ▸ hfull) hsplit hlowest
        hlower, hrep.insert scored score now, hmax.trans hsize.symm⟩
  | popBest =>
    have hsize := q.popBest_maxSize rank
    unfold call
    dsimp only
    rcases h.popBest rank with ⟨hempty, hnone, hrep, -⟩ | ⟨y, rest, hsplit, hbest, hsome, hrep, -⟩
    · rw [hnone]
      exact ⟨s, .popEmpty hempty, hrep, hmax.trans hsize.symm⟩
    · rw [hsome]
      exact ⟨_, .pop y rest hsplit hbest, hrep, hmax.trans hsize.symm⟩
  | evictLowest =>
    have hsize := q.evictMin_maxSize rank
    unfold call evictLowest
    dsimp only
    rcases h.evictMin rank with ⟨hempty, hfalse, hrep⟩ | ⟨y, rest, hsplit, hlowest, htrue, hrep, -⟩
    · rw [hfalse]
      exact ⟨s, .evictEmpty hempty, hrep, hmax.trans hsize.symm⟩
    · rw [htrue]
      exact ⟨_, .evict y rest hsplit hlowest, hrep, hmax.trans hsize.symm⟩
  | setMaxSize maxSize =>
    have hresized : { q with maxSize }.Represents s.held :=
      ⟨h.entries, h.maxHeap, h.minHeap, h.fresh⟩
    obtain ⟨kept, gone, hsplit, hlowest, hcard, hcount, hkept, hsize⟩ :=
      hresized.shrink h.len.ge rank
    unfold call setMaxSize
    dsimp only
    rw [hcount]
    exact ⟨_, .resize maxSize kept gone hsplit hlowest hcard, hkept, hsize.symm⟩

theorem run_simulates (calls : List ((Nat → Nat) × Call α)) {q : FunnelQueue α}
    {s : BoundedQueue α} (h : q.Represents s.held) (hmax : s.maxSize = q.maxSize) :
    ∃ t, s.Runs (q.run calls).1 t ∧ (q.run calls).2.Represents t.held ∧
      t.maxSize = (q.run calls).2.maxSize := by
  induction calls generalizing q s with
  | nil => exact ⟨s, rfl, h, hmax⟩
  | cons event calls ih =>
    obtain ⟨u, hstep, hu, humax⟩ := call_simulates h hmax event.1 event.2
    obtain ⟨t, hruns, ht, htmax⟩ := ih hu humax
    exact ⟨t, ⟨u, hstep, hruns⟩, ht, htmax⟩

/-- **The funnel queue is a bounded priority queue**: every run gives the answers of one, ends
with the entries it holds, and of the entries accepted none is lost or returned twice. -/
theorem run_refines_boundedQueue (maxSize : Nat) (calls : List ((Nat → Nat) × Call α)) :
    ∃ s : BoundedQueue α, (BoundedQueue.new maxSize).Runs ((new maxSize).run calls).1 s ∧
      (((new maxSize).run calls).2.entries.rows.map Prod.snd : Multiset (ScoredEntry α)) =
        s.held.map Held.entry ∧
      ((new maxSize).run calls).2.maxSize = s.maxSize ∧
      ((new maxSize).run calls).2.len ≤ ((new maxSize).run calls).2.maxSize ∧
      s.accepted = s.held.map Held.entry + s.returned + s.evicted := by
  obtain ⟨s, hruns, hrep, hmax⟩ :=
    run_simulates calls (represents_new maxSize) (s := BoundedQueue.new maxSize) rfl
  have haccounted := hruns.accounted ⟨Nat.zero_le _, rfl⟩
  refine ⟨s, hruns, ?_, hmax.symm, ?_, haccounted.partition⟩
  · rw [← Multiset.map_coe, hrep.entries, Multiset.map_map]
    rfl
  · rw [hrep.len, ← hmax]
    exact haccounted.bounded

/-! ## The keys in the heaps -/

/-- The call makes entries leave. -/
def Loses (q : FunnelQueue α) : Call α → Prop
  | .submit _ score _ => q.maxSize ≤ q.len ∧
      ∃ key ∈ q.minHeap, q.entries.containsKey key = true ∧ key.score < score
  | .popBest => 0 < q.len
  | .evictLowest => 0 < q.len
  | .setMaxSize maxSize => maxSize < q.len

instance (q : FunnelQueue α) (c : Call α) : Decidable (q.Loses c) := by
  cases c <;> unfold Loses <;> infer_instance

/-- The calls of a run that make entries leave. -/
def losses : FunnelQueue α → List ((Nat → Nat) × Call α) → Nat
  | _, [] => 0
  | q, (rank, c) :: calls => (if q.Loses c then 1 else 0) + losses (q.call rank c).2 calls

end FunnelQueue

def Call.queues : Call α → Bool
  | .submit .. => true
  | .popBest => true
  | .evictLowest => false
  | .setMaxSize _ => false

namespace FunnelQueue

variable {q : FunnelQueue α} {held : Multiset (Held α)}

theorem keys_insert (q : FunnelQueue α) (scored : α) (score : MicroScore) (now : DateTime) :
    (q.insert scored score now).keys = q.keys + 2 := by
  simp only [keys, insert, pushHeaps, List.length_cons]
  omega

/-- An entry that comes brings two keys, one that leaves takes a key with it. -/
theorem Represents.keys_call (h : q.Represents held) (rank : Nat → Nat) {c : Call α}
    (hc : c.queues = true) :
    (q.call rank c).2.maxSize = q.maxSize ∧
      (q.call rank c).2.keys + 2 * q.len ≤
        q.keys + 2 * (q.call rank c).2.len + if q.Loses c then 1 else 0 := by
  cases c with
  | submit scored score now =>
    unfold call
    dsimp only
    rcases h.submit rank scored score now with ⟨hroom, heq⟩ | ⟨hfull, hlow, heq⟩ |
      ⟨y, rest, q', hfull, rfl, hlowest, hlower, heq, hrep, hsize, hkeys⟩
    · rw [heq, keys_insert, (h.insert scored score now).len, h.len, Multiset.card_cons]
      exact ⟨rfl, by omega⟩
    · rw [heq, (h.skim rank).len, h.len]
      exact ⟨rfl, (Nat.add_le_add_right (q.peekMinScore_keys rank) _).trans (Nat.le_add_right _ _)⟩
    · have hloses : q.Loses (.submit scored score now) := by
        obtain ⟨hmem, hlive⟩ := h.minHeap.mem (Multiset.mem_cons_self y rest)
        exact ⟨hfull.trans h.len.ge, y.key, hmem, hlive, hlower⟩
      rw [heq, if_pos hloses, keys_insert, (hrep.insert scored score now).len, h.len,
        Multiset.card_cons, Multiset.card_cons]
      exact ⟨hsize, by omega⟩
  | popBest =>
    refine ⟨q.popBest_maxSize rank, ?_⟩
    unfold call
    dsimp only
    rcases h.popBest rank with ⟨rfl, -, hrep, hkeys⟩ | ⟨y, rest, rfl, -, -, hrep, hkeys⟩
    · rw [hrep.len, h.len]
      omega
    · have hloses : q.Loses .popBest := by
        unfold Loses
        rw [h.len, Multiset.card_cons]
        exact Nat.succ_pos _
      rw [if_pos hloses, hrep.len, h.len, Multiset.card_cons]
      omega
  | evictLowest => cases hc
  | setMaxSize => cases hc

theorem keys_run_le (calls : List ((Nat → Nat) × Call α)) {q : FunnelQueue α}
    {s : BoundedQueue α} (h : q.Represents s.held) (hmax : s.maxSize = q.maxSize)
    (hcalls : ∀ event ∈ calls, event.2.queues = true) :
    (q.run calls).2.maxSize = q.maxSize ∧
      (q.run calls).2.keys + 2 * q.len ≤
        q.keys + 2 * (q.run calls).2.len + q.losses calls := by
  induction calls generalizing q s with
  | nil => exact ⟨rfl, le_rfl⟩
  | cons event calls ih =>
    obtain ⟨u, -, hu, humax⟩ := call_simulates h hmax event.1 event.2
    obtain ⟨hsize, hkeys⟩ := h.keys_call event.1 (hcalls event List.mem_cons_self)
    obtain ⟨hsize', hkeys'⟩ := ih hu humax fun event hevent =>
      hcalls event (List.mem_cons_of_mem _ hevent)
    refine ⟨hsize'.trans hsize, ?_⟩
    unfold run losses
    dsimp only
    omega

/-- **A bound on the keys**: two for every entry the queue may hold and one for every entry
that left. -/
theorem keys_le_of_losses (m d : Nat) (calls : List ((Nat → Nat) × Call α))
    (hcalls : ∀ event ∈ calls, event.2.queues = true)
    (hlosses : (new m).losses calls ≤ d * m) :
    ((new m).run calls).2.keys ≤ (d + 2) * m := by
  have hstart : (new m : FunnelQueue α).Represents (BoundedQueue.new m).held := represents_new m
  obtain ⟨hsize, hkeys⟩ := keys_run_le calls hstart rfl hcalls
  obtain ⟨s, hruns, hrep, hmax⟩ := run_simulates calls hstart rfl
  have hbounded := (hruns.accounted ⟨Nat.zero_le _, rfl⟩).bounded
  rw [← hrep.len, hmax, hsize] at hbounded
  calc ((new m).run calls).2.keys
      ≤ 2 * ((new m).run calls).2.len + (new m).losses calls := by
        change _ + 2 * 0 ≤ 0 + _ + _ at hkeys
        omega
    _ ≤ 2 * m + d * m := Nat.add_le_add (Nat.mul_le_mul_left 2 hbounded) hlosses
    _ = (d + 2) * m := by rw [add_mul, add_comm]

/-- Every entry submitted is popped before the next one. -/
def sampleSweeps : Nat → List ((Nat → Nat) × Call Unit)
  | 0 => []
  | n + 1 => (fun _ => 0, .submit () 0 0) :: (fun _ => 0, .popBest) :: sampleSweeps n

theorem sampleSweeps_queues (n : Nat) : ∀ event ∈ sampleSweeps n, event.2.queues = true := by
  induction n with
  | zero => exact fun _ h => by cases h
  | succ n ih =>
    intro event hevent
    rcases List.mem_cons.mp hevent with rfl | hevent
    · rfl
    · rcases List.mem_cons.mp hevent with rfl | hevent
      · rfl
      · exact ih event hevent

theorem keys_sampleSweeps (n : Nat) {q : FunnelQueue Unit} (hsize : 1 ≤ q.maxSize)
    (hentries : q.entries.rows = []) (hmax : q.maxHeap = []) :
    q.minHeap.length + n ≤ (q.run (sampleSweeps n)).2.keys := by
  induction n generalizing q with
  | zero => exact Nat.le_add_left _ _
  | succ n ih =>
    have hsubmit : (q.call (fun _ => 0) (.submit () 0 0)).2 = q.insert () 0 0 := by
      have hroom : ¬ q.maxSize ≤ q.len := by
        rw [len, hentries, List.length_nil]
        omega
      change (q.submit (fun _ => 0) () 0 0).2 = _
      rw [submit, if_neg hroom]
    have hlive : Entries.containsKey (q.insert () 0 0).entries ⟨0, 0, q.nextId⟩ = true := by
      unfold insert pushHeaps
      rw [Entries.containsKey_put]
      simp
    have hpop : ((q.insert () 0 0).call (fun _ => 0) .popBest).2 =
        { q.insert () 0 0 with
          maxHeap := []
          entries := (q.insert () 0 0).entries.without q.nextId } := by
      have hheap : (q.insert () 0 0).maxHeap = [⟨0, 0, q.nextId⟩] := by
        unfold insert pushHeaps
        rw [hmax]
      unfold call popBest
      rw [hheap]
      simp only [List.length_singleton, LazyHeap.popLive, List.argmax_singleton, hlive, if_true,
        List.erase_cons_head]
    have hround := @ih ((q.insert () 0 0).call (fun _ => 0) .popBest).2 (by rw [hpop]; exact hsize)
      (by rw [hpop]; simp [insert, pushHeaps, Table.without, Table.put, hentries])
      (by rw [hpop])
    unfold sampleSweeps run
    dsimp only
    unfold run
    dsimp only
    rw [hsubmit]
    refine le_trans ?_ hround
    rw [hpop]
    simp only [insert, pushHeaps, List.length_cons]
    omega

theorem keys_unbounded :
    ¬ ∃ c, ∀ m ≥ 1, ∀ calls : List ((Nat → Nat) × Call Unit),
      (∀ event ∈ calls, event.2.queues = true) → ((new m).run calls).2.keys ≤ c * m := by
  rintro ⟨c, h⟩
  have hle := h 1 le_rfl _ (sampleSweeps_queues (c + 1))
  have hge := keys_sampleSweeps (c + 1) (q := new 1) le_rfl rfl rfl
  change 0 + (c + 1) ≤ _ at hge
  omega

theorem keys_le_of_losses_two_sweeps :
    ((new 2).run (sampleSweeps 2)).2.keys ≤ (1 + 2) * 2 :=
  keys_le_of_losses 2 1 _ (sampleSweeps_queues 2) (by decide +kernel)

end FunnelQueue

end Funnel

end OxideArb
