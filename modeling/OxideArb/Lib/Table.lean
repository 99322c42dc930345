import OxideArb.Lib.SortedSearch

/-!
# Tables with a primary key

A table is a list of rows with distinct keys. Every row after a conditional update is described
through the row of the same key before it (`get_updateWhere`).
-/

open SortedSearch

/-- A list of rows with distinct keys. -/
structure Table {ρ κ : Type*} (key : ρ → κ) where
  rows : List ρ
  nodup : (rows.map key).Nodup

namespace Table

variable {ρ κ : Type*} {key : ρ → κ}

def empty : Table key := ⟨[], List.nodup_nil⟩

/-- `UPDATE .. SET f WHERE p`; `f` leaves the key alone. -/
def updateWhere (t : Table key) (p : ρ → Bool) (f : ρ → ρ) (hf : ∀ r, key (f r) = key r) :
    Table key where
  rows := t.rows.map fun r => if p r then f r else r
  nodup := by
    have hkeys : (t.rows.map fun r => if p r then f r else r).map key = t.rows.map key := by
      rw [List.map_map]
      refine List.map_congr_left fun r _ => ?_
      simp only [Function.comp]
      split
      · exact hf r
      · rfl
    rw [hkeys]
    exact t.nodup

variable [DecidableEq κ]

def filter (t : Table key) (p : ρ → Bool) : Table key where
  rows := t.rows.filter p
  nodup := t.nodup.sublist (List.Sublist.map key List.filter_sublist)

def get (t : Table key) (k : κ) : Option ρ := lookup key k t.rows

/-- Insert a row; refused when the key is taken. -/
def insert (t : Table key) (r : ρ) : Option (Table key) :=
  if h : key r ∈ t.rows.map key then none
  else some ⟨t.rows ++ [r], by
    rw [List.map_append, List.nodup_append]
    refine ⟨t.nodup, by simp, ?_⟩
    intro a ha b hb hab
    rw [List.map_cons, List.map_nil, List.mem_singleton] at hb
    exact h (hb ▸ hab ▸ ha)⟩

/-- `UPDATE .. SET f WHERE key = k AND q`, with whether a row was hit. -/
def updateKey (t : Table key) (k : κ) (q : ρ → Bool) (f : ρ → ρ) (hf : ∀ r, key (f r) = key r) :
    Bool × Table key :=
  (t.rows.any fun r => key r = k && q r, t.updateWhere (fun r => key r = k && q r) f hf)

theorem get_eq_some_iff (t : Table key) {k : κ} {r : ρ} :
    t.get k = some r ↔ r ∈ t.rows ∧ key r = k :=
  lookup_eq_some_iff t.nodup

theorem get_empty (k : κ) : (empty : Table key).get k = none := rfl

theorem get_updateWhere (t : Table key) (p : ρ → Bool) {f : ρ → ρ} (hf : ∀ r, key (f r) = key r)
    (k : κ) :
    (t.updateWhere p f hf).get k = (t.get k).map fun r => if p r then f r else r := by
  unfold get lookup updateWhere
  rw [List.find?_map]
  congr 2
  funext r
  simp only [Function.comp]
  split
  · rw [hf]
  · rfl

theorem get_updateKey_ne (t : Table key) {k k' : κ} (h : k' ≠ k) (q : ρ → Bool) {f : ρ → ρ}
    (hf : ∀ r, key (f r) = key r) : (t.updateKey k q f hf).2.get k' = t.get k' := by
  unfold updateKey
  rw [get_updateWhere]
  cases hr : t.get k' with
  | none => rfl
  | some r =>
    have hk : key r ≠ k := by
      rw [(t.get_eq_some_iff.mp hr).2]
      exact h
    simp [hk]

theorem get_updateKey (t : Table key) (k : κ) (q : ρ → Bool) {f : ρ → ρ}
    (hf : ∀ r, key (f r) = key r) :
    (t.updateKey k q f hf).2.get k = (t.get k).map fun r => if q r then f r else r := by
  unfold updateKey
  rw [get_updateWhere]
  cases hr : t.get k with
  | none => rfl
  | some r =>
    have hk : key r = k := (t.get_eq_some_iff.mp hr).2
    simp [hk]

theorem updateKey_hit (t : Table key) (k : κ) (q : ρ → Bool) {f : ρ → ρ}
    (hf : ∀ r, key (f r) = key r) : (t.updateKey k q f hf).1 = (t.get k).any q := by
  unfold updateKey
  rw [Bool.eq_iff_iff, List.any_eq_true, Option.any_eq_true]
  constructor
  · rintro ⟨r, hm, hr⟩
    rw [Bool.and_eq_true, decide_eq_true_eq] at hr
    exact ⟨r, t.get_eq_some_iff.mpr ⟨hm, hr.1⟩, hr.2⟩
  · rintro ⟨r, hr, hq⟩
    obtain ⟨hm, hk⟩ := t.get_eq_some_iff.mp hr
    exact ⟨r, hm, by simp [hk, hq]⟩

theorem isSome_get_updateKey (t : Table key) (k : κ) (q : ρ → Bool) {f : ρ → ρ}
    (hf : ∀ r, key (f r) = key r) (k' : κ) :
    ((t.updateKey k q f hf).2.get k').isSome = (t.get k').isSome := by
  unfold updateKey
  rw [get_updateWhere, Option.isSome_map]

theorem mem_rows_updateKey {t : Table key} {k : κ} {q : ρ → Bool} {f : ρ → ρ}
    (hf : ∀ r, key (f r) = key r) {r : ρ} (h : r ∈ (t.updateKey k q f hf).2.rows) :
    ∃ r₀ ∈ t.rows, r = r₀ ∨ r = f r₀ := by
  obtain ⟨r₀, hr₀, rfl⟩ := List.mem_map.mp h
  refine ⟨r₀, hr₀, ?_⟩
  split
  · exact .inr rfl
  · exact .inl rfl

theorem get_updateKey_of_not (t : Table key) {k : κ} {q : ρ → Bool} {f : ρ → ρ}
    (hf : ∀ r, key (f r) = key r) {r : ρ} (hr : t.get k = some r) (hq : q r = false) :
    (t.updateKey k q f hf).2.get k = some r := by
  rw [get_updateKey, hr]
  simp [hq]

theorem get_insert {t t' : Table key} {r : ρ} (h : t.insert r = some t') :
    t'.get (key r) = some r := by
  unfold insert at h
  split at h
  · cases h
  · cases h
    exact (get_eq_some_iff _).mpr ⟨List.mem_append_right _ (List.mem_singleton_self r), rfl⟩

theorem rows_insert {t t' : Table key} {r : ρ} (h : t.insert r = some t') :
    t'.rows = t.rows ++ [r] := by
  unfold insert at h
  split at h
  · cases h
  · cases h
    rfl

theorem get_insert_ne {t t' : Table key} {r : ρ} (h : t.insert r = some t') {k : κ}
    (hk : k ≠ key r) : t'.get k = t.get k := by
  unfold insert at h
  split at h
  · cases h
  · cases h
    unfold get lookup
    rw [List.find?_append]
    simp [hk.symm]

/-- The row of a key exists and satisfies `P`. -/
def Holds (t : Table key) (k : κ) (P : ρ → Prop) : Prop := ∃ r, t.get k = some r ∧ P r

theorem Holds.imp {t : Table key} {k : κ} {P Q : ρ → Prop} (h : t.Holds k P)
    (hpq : ∀ r, P r → Q r) : t.Holds k Q := by
  obtain ⟨r, hr, hp⟩ := h
  exact ⟨r, hr, hpq r hp⟩

theorem Holds.updateKey {t : Table key} {k k' : κ} {P : ρ → Prop} (h : t.Holds k P)
    {q : ρ → Bool} {f : ρ → ρ} (hf : ∀ r, key (f r) = key r)
    (hP : k' = k → ∀ r, P r → q r = true → P (f r)) : (t.updateKey k' q f hf).2.Holds k P := by
  obtain ⟨r, hr, hp⟩ := h
  by_cases hk : k = k'
  · subst hk
    by_cases hq : q r = true
    · exact ⟨f r, by rw [get_updateKey, hr]; simp [hq], hP rfl r hp hq⟩
    · exact ⟨r, get_updateKey_of_not t hf hr (by simpa using hq), hp⟩
  · exact ⟨r, by rw [get_updateKey_ne t hk]; exact hr, hp⟩

theorem insert_eq_none_iff (t : Table key) (r : ρ) :
    t.insert r = none ↔ (t.get (key r)).isSome = true := by
  have htaken : key r ∈ t.rows.map key ↔ (t.get (key r)).isSome = true := by
    rw [List.mem_map, Option.isSome_iff_exists]
    exact exists_congr fun _ => t.get_eq_some_iff.symm
  rw [← htaken]
  unfold insert
  split
  next h => simp [h]
  next h => simp [h]

theorem get_eq_none_of_insert {t t' : Table key} {r : ρ} (h : t.insert r = some t') :
    t.get (key r) = none := by
  rw [← Option.not_isSome_iff_eq_none, ← t.insert_eq_none_iff, h]
  exact Option.some_ne_none t'

theorem Holds.insert {t t' : Table key} {k : κ} {P : ρ → Prop} {r : ρ} (h : t.Holds k P)
    (hi : t.insert r = some t') : t'.Holds k P := by
  obtain ⟨r', hr, hp⟩ := h
  refine ⟨r', ?_, hp⟩
  have hk : k ≠ key r := by
    rintro rfl
    have hnone : t.insert r = none := (t.insert_eq_none_iff r).mpr (by rw [hr]; rfl)
    rw [hnone] at hi
    cases hi
  rw [get_insert_ne hi hk]
  exact hr

def without (t : Table key) (k : κ) : Table key where
  rows := t.rows.filter fun r => key r ≠ k
  nodup := t.nodup.sublist (List.Sublist.map key List.filter_sublist)

theorem get_without_ne (t : Table key) {k k' : κ} (h : k' ≠ k) :
    (t.without k).get k' = t.get k' := by
  unfold get lookup without
  rw [List.find?_filter]
  congr 1
  funext r
  by_cases hr : key r = k'
  · simp [hr, h]
  · simp [hr]

theorem get_without_self (t : Table key) (k : κ) : (t.without k).get k = none := by
  rw [Option.eq_none_iff_forall_ne_some]
  intro r hr
  obtain ⟨hmem, hk⟩ := (get_eq_some_iff _).mp hr
  have hne := (List.mem_filter.mp hmem).2
  rw [decide_eq_true_eq] at hne
  exact hne hk

theorem without_of_get_eq_none (t : Table key) {k : κ} (h : t.get k = none) :
    (t.without k).rows = t.rows := by
  refine List.filter_eq_self.mpr fun r hr => ?_
  have hne : key r ≠ k := by
    rintro rfl
    have hsome := t.get_eq_some_iff.mpr ⟨hr, rfl⟩
    rw [h] at hsome
    cases hsome
  simp [hne]

/-- Insert a row, in place of the row of the same key if there is one. -/
def put (t : Table key) (r : ρ) : Table key where
  rows := (t.without (key r)).rows ++ [r]
  nodup := by
    rw [List.map_append, List.nodup_append]
    refine ⟨(t.without (key r)).nodup, by simp, ?_⟩
    intro a ha b hb hab
    simp only [without, List.mem_map, List.mem_filter, decide_eq_true_eq] at ha
    obtain ⟨r', ⟨-, hne⟩, rfl⟩ := ha
    rw [List.map_cons, List.map_nil, List.mem_singleton] at hb
    exact hne (hab.trans hb)

theorem get_put (t : Table key) (r : ρ) (k : κ) :
    (t.put r).get k = if k = key r then some r else t.get k := by
  split
  next h =>
    subst h
    exact (get_eq_some_iff _).mpr ⟨List.mem_append_right _ (List.mem_singleton.mpr rfl), rfl⟩
  next h =>
    rw [← t.get_without_ne h]
    unfold get lookup put
    rw [List.find?_append]
    simp [Ne.symm h]

theorem get_filter (t : Table key) (p : ρ → Bool) (k : κ) :
    (t.filter p).get k = (t.get k).filter p := by
  cases hget : t.get k with
  | none =>
    rw [Option.filter_none, Option.eq_none_iff_forall_ne_some]
    intro r hr
    obtain ⟨hmem, hk⟩ := (get_eq_some_iff _).mp hr
    have hsome := t.get_eq_some_iff.mpr ⟨List.mem_of_mem_filter hmem, hk⟩
    rw [hget] at hsome
    cases hsome
  | some r =>
    obtain ⟨hmem, hk⟩ := t.get_eq_some_iff.mp hget
    cases hp : p r with
    | true =>
      rw [Option.filter_some_pos hp]
      exact (get_eq_some_iff _).mpr ⟨List.mem_filter.mpr ⟨hmem, hp⟩, hk⟩
    | false =>
      rw [Option.filter_some_neg (by simp [hp]), Option.eq_none_iff_forall_ne_some]
      intro r' hr'
      obtain ⟨hmem', hk'⟩ := (get_eq_some_iff _).mp hr'
      obtain ⟨hmem', hp'⟩ := List.mem_filter.mp hmem'
      have hsame := t.get_eq_some_iff.mpr ⟨hmem', hk'⟩
      rw [hget] at hsame
      cases hsame
      rw [hp] at hp'
      cases hp'

theorem perm_without (t : Table key) {k : κ} {r : ρ} (h : t.get k = some r) :
    t.rows.Perm (r :: (t.without k).rows) := by
  obtain ⟨hmem, rfl⟩ := t.get_eq_some_iff.mp h
  have hn := t.nodup
  change t.rows.Perm (r :: t.rows.filter fun x => key x ≠ key r)
  generalize t.rows = rows at hmem hn
  induction rows with
  | nil => cases hmem
  | cons x rows ih =>
    rw [List.map_cons, List.nodup_cons] at hn
    rcases List.mem_cons.mp hmem with rfl | hmem
    · have hall : rows.filter (fun x => key x ≠ key r) = rows := by
        refine List.filter_eq_self.mpr fun y hy => ?_
        have hne : key y ≠ key r := fun heq => hn.1 (heq ▸ List.mem_map_of_mem hy)
        simp [hne]
      rw [List.filter_cons_of_neg (by simp), hall]
    · have hne : key x ≠ key r := fun heq => hn.1 (heq ▸ List.mem_map_of_mem hmem)
      rw [List.filter_cons_of_pos (by simp [hne])]
      exact ((ih hmem hn.2).cons x).trans (.swap r x _)

theorem perm_updateKey (t : Table key) {k : κ} {q : ρ → Bool} {f : ρ → ρ}
    (hf : ∀ r, key (f r) = key r) {r : ρ} (h : t.get k = some r) (hq : q r = true) :
    (t.updateKey k q f hf).2.rows.Perm (f r :: (t.without k).rows) := by
  have hk := (t.get_eq_some_iff.mp h).2
  have hothers : (t.without k).rows.map (fun x => if key x = k && q x then f x else x) =
      (t.without k).rows := by
    refine (List.map_congr_left fun x hx => ?_).trans (List.map_id _)
    have hne : key x ≠ k := by simpa using (List.mem_filter.mp hx).2
    simp [hne]
  have hmap := (t.perm_without h).map fun x => if key x = k && q x then f x else x
  rw [List.map_cons, hothers, if_pos (by simp [hk, hq])] at hmap
  exact hmap

theorem countP_updateKey (t : Table key) {k : κ} {q : ρ → Bool} {f : ρ → ρ}
    (hf : ∀ r, key (f r) = key r) {p : ρ → Bool} (hit : (t.updateKey k q f hf).1 = true)
    (hp : ∀ r, p (f r) = false) :
    (t.updateKey k q f hf).2.rows.countP p = (t.without k).rows.countP p := by
  rw [updateKey_hit, Option.any_eq_true] at hit
  obtain ⟨r, hr, hq⟩ := hit
  rw [(t.perm_updateKey hf hr hq).countP_eq, List.countP_cons_of_neg (by simp [hp])]

/-! ## Views of a table -/

section Map

variable {ρ' : Type*} {key' : ρ' → κ} {g : ρ → ρ'} (hg : ∀ r, key' (g r) = key r)

/-- Each row replaced by a view of it that has the same key. -/
def map (t : Table key) (g : ρ → ρ') (hg : ∀ r, key' (g r) = key r) : Table key' where
  rows := t.rows.map g
  nodup := by
    have hkeys : (t.rows.map g).map key' = t.rows.map key := by
      rw [List.map_map]
      exact List.map_congr_left fun r _ => hg r
    rw [hkeys]
    exact t.nodup

theorem get_map (t : Table key) (k : κ) : (t.map g hg).get k = (t.get k).map g := by
  unfold get lookup map
  rw [List.find?_map]
  congr 2
  funext r
  simp only [Function.comp, hg]

omit [DecidableEq κ] in
theorem filter_map (t : Table key) {p : ρ → Bool} {p' : ρ' → Bool} (hp : ∀ r, p' (g r) = p r) :
    (t.filter p).map g hg = (t.map g hg).filter p' := by
  have hcomp : p' ∘ g = p := funext hp
  unfold filter map
  congr 1
  rw [List.filter_map, hcomp]

theorem updateKey_map (t : Table key) (k : κ) {q : ρ → Bool} {q' : ρ' → Bool}
    (hq : ∀ r, q' (g r) = q r) {f : ρ → ρ} (hf : ∀ r, key (f r) = key r) {f' : ρ' → ρ'}
    (hf' : ∀ r, key' (f' r) = key' r) (hview : ∀ r, g (f r) = f' (g r)) :
    (t.updateKey k q f hf).2.map g hg = ((t.map g hg).updateKey k q' f' hf').2 := by
  unfold updateKey updateWhere map
  congr 1
  rw [List.map_map, List.map_map]
  refine List.map_congr_left fun r _ => ?_
  simp only [Function.comp, hg, hq]
  split
  · exact hview r
  · rfl

end Map

end Table
