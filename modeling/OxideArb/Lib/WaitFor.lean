import Mathlib.Data.Set.Insert

/-!
# Who waits for whom

A thread wants at most one lock and holds some. A deadlock is a set of threads each of which
waits for another one of the set; some of them waits with a lock in its hand.
-/

variable {τ L : Type*} (wants : τ → Option L) (holds : τ → L → Prop)

def WaitsFor (t u : τ) : Prop := u ≠ t ∧ ∃ l ∈ wants t, holds u l

def Deadlock : Prop := ∃ C : Set τ, C.Nonempty ∧ ∀ t ∈ C, ∃ u ∈ C, WaitsFor wants holds t u

variable {wants holds}

theorem Deadlock.waits_holding (h : Deadlock wants holds) :
    ∃ t u, (∃ l, holds t l) ∧ WaitsFor wants holds t u := by
  obtain ⟨C, ⟨s, hs⟩, hC⟩ := h
  obtain ⟨t, ht, -, l, -, hl⟩ := hC s hs
  obtain ⟨u, -, htu⟩ := hC t ht
  exact ⟨t, u, ⟨l, hl⟩, htu⟩

theorem Deadlock.of_pair {t u : τ} (htu : WaitsFor wants holds t u)
    (hut : WaitsFor wants holds u t) : Deadlock wants holds := by
  refine ⟨{t, u}, ⟨t, Set.mem_insert t _⟩, ?_⟩
  rintro x (rfl | rfl)
  · exact ⟨u, Set.mem_insert_of_mem _ rfl, htu⟩
  · exact ⟨t, Set.mem_insert t _, hut⟩
