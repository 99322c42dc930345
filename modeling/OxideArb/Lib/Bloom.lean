import Mathlib.Logic.Function.Basic

/-!
# Bloom filters over words of 64 bits

A key stands for a list of bit positions. Inserting it sets them; bits are never cleared, so an
inserted key is never denied.
-/

namespace Bloom

abbrev Position (n : Nat) := Fin n × Fin 64

variable {n : Nat} {bits : Fin n → BitVec 64} {p : Position n} {ps : List (Position n)}

def mask (p : Position n) : BitVec 64 := 1#64 <<< p.2.val

def setBit (bits : Fin n → BitVec 64) (p : Position n) : Fin n → BitVec 64 :=
  Function.update bits p.1 (bits p.1 ||| mask p)

def testBit (bits : Fin n → BitVec 64) (p : Position n) : Bool := bits p.1 &&& mask p ≠ 0#64

def insert (bits : Fin n → BitVec 64) (ps : List (Position n)) : Fin n → BitVec 64 :=
  ps.foldl setBit bits

def mayContain (bits : Fin n → BitVec 64) (ps : List (Position n)) : Bool := ps.all (testBit bits)

theorem testBit_iff : testBit bits p = true ↔ (bits p.1)[p.2.val] = true := by
  have hmask : ∀ i (hi : i < 64), (mask p)[i] = decide (i = p.2.val) := by
    intro i hi
    rw [Bool.eq_iff_iff]
    simp [mask]
    omega
  unfold testBit
  rw [decide_eq_true_iff]
  constructor
  · intro hne
    by_contra hclear
    refine hne (BitVec.eq_of_getElem_eq fun i hi => ?_)
    by_cases hip : i = p.2.val
    · subst hip
      simpa using fun h => absurd h hclear
    · simp [hmask, hip]
  · intro hset hzero
    have hbit := congrArg (fun v : BitVec 64 => v[p.2.val]) hzero
    simp [hmask, hset] at hbit

theorem testBit_setBit_self : testBit (setBit bits p) p = true := by
  simp [testBit_iff, setBit, mask]

theorem testBit_setBit_of {q : Position n} (h : testBit bits q = true) :
    testBit (setBit bits p) q = true := by
  rw [testBit_iff] at h ⊢
  by_cases hq : q.1 = p.1
  · rw [hq] at h ⊢
    simp [setBit, h]
  · simp [setBit, hq, h]

theorem testBit_insert_of (h : testBit bits p = true) : testBit (insert bits ps) p = true := by
  induction ps generalizing bits with
  | nil => exact h
  | cons q ps ih => exact ih (testBit_setBit_of h)

theorem testBit_insert (h : p ∈ ps) : testBit (insert bits ps) p = true := by
  induction ps generalizing bits with
  | nil => cases h
  | cons q ps ih =>
    rcases List.mem_cons.mp h with rfl | hmem
    · change testBit (insert (setBit bits p) ps) p = true
      exact testBit_insert_of testBit_setBit_self
    · exact ih hmem

theorem mayContain_insert : mayContain (insert bits ps) ps = true :=
  List.all_eq_true.mpr fun _ h => testBit_insert h

theorem mayContain_insert_of {qs : List (Position n)} (h : mayContain bits qs = true) :
    mayContain (insert bits ps) qs = true :=
  List.all_eq_true.mpr fun q hq => testBit_insert_of (List.all_eq_true.mp h q hq)

end Bloom
