import Mathlib.Data.List.Nodup

/-!
# Tables with a primary key

A `Table κ ρ key` is a list of rows whose keys are pairwise distinct; the
constraint is a field, so a table with two rows of one key cannot be built.
`insertNew` is `INSERT ... ON CONFLICT DO NOTHING` and `update` is an update of
one row by its key.

## Main results

* `find?_eq_some` — a lookup is membership.
* `find?_insertNew`, `find?_update` — lookups after a write.
* `mem_insertNew`, `mem_update` — the rows after a write.
-/

namespace Sidecar.Verified.KeyedTable

/-- Rows in order of insertion, with pairwise different keys. -/
structure Table (κ ρ : Type) (key : ρ → κ) where
  rows : List ρ
  nodup : (rows.map key).Nodup

variable {κ ρ : Type} {key : ρ → κ}

/-- No rows. -/
def Table.empty : Table κ ρ key := ⟨[], List.nodup_nil⟩

variable [DecidableEq κ]

namespace Table

/-- The row with primary key `k`. -/
def find? (t : Table κ ρ key) (k : κ) : Option ρ :=
  t.rows.find? fun r => key r = k

private theorem find?_rows {rows : List ρ} (h : (rows.map key).Nodup) {k : κ}
    {r : ρ} : rows.find? (fun r => key r = k) = some r ↔ r ∈ rows ∧ key r = k := by
  induction rows with
  | nil => simp
  | cons x xs ih =>
      simp only [List.map_cons, List.nodup_cons, List.mem_map, not_exists,
        not_and] at h
      by_cases hx : key x = k
      · simp only [List.find?_cons, hx, decide_true, Option.some.injEq,
          List.mem_cons]
        constructor
        · rintro rfl
          exact ⟨.inl rfl, hx⟩
        · rintro ⟨rfl | hr, hk⟩
          · rfl
          · exact absurd (hk.trans hx.symm) (h.1 r hr)
      · simp only [List.find?_cons, hx, decide_false, List.mem_cons, ih h.2]
        constructor
        · rintro ⟨hr, hk⟩
          exact ⟨.inr hr, hk⟩
        · rintro ⟨rfl | hr, hk⟩
          · exact absurd hk hx
          · exact ⟨hr, hk⟩

theorem find?_eq_some {t : Table κ ρ key} {k : κ} {r : ρ} :
    t.find? k = some r ↔ r ∈ t.rows ∧ key r = k := find?_rows t.nodup

theorem find?_eq_none {t : Table κ ρ key} {k : κ} :
    t.find? k = none ↔ ∀ r ∈ t.rows, key r ≠ k := by
  simp [find?, List.find?_eq_none]

theorem find?_key {t : Table κ ρ key} {k : κ} {r : ρ} (h : t.find? k = some r) :
    key r = k := (find?_eq_some.mp h).2

theorem find?_mem {t : Table κ ρ key} {k : κ} {r : ρ} (h : t.find? k = some r) :
    r ∈ t.rows := (find?_eq_some.mp h).1

theorem find?_of_mem {t : Table κ ρ key} {r : ρ} (h : r ∈ t.rows) :
    t.find? (key r) = some r := find?_eq_some.mpr ⟨h, rfl⟩

@[simp] theorem find?_empty (k : κ) : (empty : Table κ ρ key).find? k = none := rfl

omit [DecidableEq κ] in
@[simp] theorem rows_empty : (empty : Table κ ρ key).rows = [] := rfl

/-! ## Inserting -/

/-- `INSERT ... ON CONFLICT (key) DO NOTHING`. -/
def insertNew (t : Table κ ρ key) (r : ρ) : Table κ ρ key :=
  if h : t.find? (key r) = none then
    { rows := t.rows ++ [r]
      nodup := by
        rw [List.map_append, List.nodup_append]
        refine ⟨t.nodup, by simp, ?_⟩
        intro a ha b hb
        obtain ⟨x, hx, rfl⟩ := List.mem_map.mp ha
        simp only [List.map_cons, List.map_nil, List.mem_singleton] at hb
        subst hb
        exact find?_eq_none.mp h x hx }
  else t

theorem insertNew_of_some {t : Table κ ρ key} {r r' : ρ}
    (h : t.find? (key r) = some r') : t.insertNew r = t := by
  simp [insertNew, h]

theorem rows_insertNew_of_none {t : Table κ ρ key} {r : ρ}
    (h : t.find? (key r) = none) : (t.insertNew r).rows = t.rows ++ [r] := by
  simp [insertNew, h]

theorem mem_insertNew {t : Table κ ρ key} {r x : ρ} :
    x ∈ (t.insertNew r).rows ↔
      x ∈ t.rows ∨ (t.find? (key r) = none ∧ x = r) := by
  cases h : t.find? (key r) with
  | none => simp [rows_insertNew_of_none h]
  | some r' => simp [insertNew_of_some h]

theorem find?_insertNew (t : Table κ ρ key) (r : ρ) (k : κ) :
    (t.insertNew r).find? k =
      if t.find? (key r) = none ∧ key r = k then some r else t.find? k := by
  cases h : t.find? (key r) with
  | some r' => simp [insertNew_of_some h]
  | none =>
      rw [find?, rows_insertNew_of_none h, List.find?_append]
      by_cases hk : key r = k
      · subst hk
        have hnone : t.rows.find? (fun x => key x = key r) = none := h
        simp [hnone]
      · simp [hk, find?]

/-- A row that is there stays there. -/
theorem find?_insertNew_of_some {t : Table κ ρ key} {r x : ρ} {k : κ}
    (h : t.find? k = some x) : (t.insertNew r).find? k = some x := by
  rw [find?_insertNew]
  split
  · next hc =>
      obtain ⟨hnone, rfl⟩ := hc
      rw [hnone] at h
      cases h
  · exact h

/-- What an insert leaves at a key depends on what was there. -/
theorem find?_insertNew_congr {t t' : Table κ ρ key} {r : ρ} {k : κ}
    (h : t'.find? k = t.find? k) :
    (t'.insertNew r).find? k = (t.insertNew r).find? k := by
  rw [find?_insertNew, find?_insertNew]
  by_cases hk : key r = k
  · rw [hk, h]
  · simp [hk, h]

theorem find?_insertNew_eq_none {t : Table κ ρ key} {r : ρ} {k : κ}
    (h : (t.insertNew r).find? k = none) : t.find? k = none ∧ key r ≠ k := by
  rw [find?_insertNew] at h
  split at h
  · cases h
  · next hc =>
      refine ⟨h, fun hk => hc ⟨?_, hk⟩⟩
      rw [hk]
      exact h

/-! ## Updating -/

private theorem map_key_update (rows : List ρ) (r : ρ) :
    (rows.map fun x => if key x = key r then r else x).map key =
      rows.map key := by
  rw [List.map_map]
  refine List.map_congr_left fun x _ => ?_
  by_cases hx : key x = key r
  · simp [hx]
  · simp [hx]

/-- Replace the row that has `r`'s key, if there is one. -/
def update (t : Table κ ρ key) (r : ρ) : Table κ ρ key where
  rows := t.rows.map fun x => if key x = key r then r else x
  nodup := by rw [map_key_update]; exact t.nodup

theorem mem_update {t : Table κ ρ key} {r x : ρ} :
    x ∈ (t.update r).rows ↔
      (x ∈ t.rows ∧ key x ≠ key r) ∨ (x = r ∧ ∃ y ∈ t.rows, key y = key r) := by
  simp only [update, List.mem_map]
  constructor
  · rintro ⟨y, hy, rfl⟩
    by_cases hk : key y = key r
    · exact .inr ⟨by simp [hk], y, hy, hk⟩
    · exact .inl ⟨by simpa [hk] using hy, by simp [hk]⟩
  · rintro (⟨hx, hk⟩ | ⟨rfl, y, hy, hk⟩)
    · exact ⟨x, hx, by simp [hk]⟩
    · exact ⟨y, hy, by simp [hk]⟩

theorem find?_update (t : Table κ ρ key) (r : ρ) (k : κ) :
    (t.update r).find? k =
      if key r = k then (t.find? k).map fun _ => r else t.find? k := by
  by_cases hk : key r = k
  · subst hk
    cases h : t.find? (key r) with
    | none =>
        rw [if_pos rfl, Option.map_none]
        refine find?_eq_none.mpr fun x hx => ?_
        rcases mem_update.mp hx with ⟨_, hne⟩ | ⟨_, y, hy, hyk⟩
        · exact hne
        · exact absurd hyk (find?_eq_none.mp h y hy)
    | some y =>
        rw [if_pos rfl, Option.map_some]
        obtain ⟨hy, hyk⟩ := find?_eq_some.mp h
        exact find?_eq_some.mpr ⟨mem_update.mpr (.inr ⟨rfl, y, hy, hyk⟩), rfl⟩
  · rw [if_neg hk]
    cases h : t.find? k with
    | none =>
        refine find?_eq_none.mpr fun x hx => ?_
        rcases mem_update.mp hx with ⟨hx', _⟩ | ⟨rfl, _⟩
        · exact find?_eq_none.mp h x hx'
        · exact hk
    | some y =>
        obtain ⟨hy, hyk⟩ := find?_eq_some.mp h
        refine find?_eq_some.mpr ⟨mem_update.mpr (.inl ⟨hy, ?_⟩), hyk⟩
        exact fun hne => hk (hne.symm.trans hyk)

theorem find?_update_eq_none {t : Table κ ρ key} {r : ρ} {k : κ} :
    (t.update r).find? k = none ↔ t.find? k = none := by
  rw [find?_update]
  split
  · exact Option.map_eq_none_iff
  · exact Iff.rfl

theorem find?_update_eq_some {t : Table κ ρ key} {r x : ρ} {k : κ}
    (h : (t.update r).find? k = some x) :
    (key r = k ∧ x = r) ∨ (key r ≠ k ∧ t.find? k = some x) := by
  rw [find?_update] at h
  split at h
  · next hk =>
      obtain ⟨_, _, rfl⟩ := Option.map_eq_some_iff.mp h
      exact .inl ⟨hk, rfl⟩
  · next hk => exact .inr ⟨hk, h⟩

theorem find?_update_self {t : Table κ ρ key} {r y : ρ}
    (h : t.find? (key r) = some y) : (t.update r).find? (key r) = some r := by
  rw [find?_update, if_pos rfl, h, Option.map_some]

theorem find?_update_ne {t : Table κ ρ key} {r : ρ} {k : κ} (h : key r ≠ k) :
    (t.update r).find? k = t.find? k := by
  rw [find?_update, if_neg h]

/-! ## Filtering -/

/-- The rows with a property. -/
def filter (t : Table κ ρ key) (p : ρ → Bool) : Table κ ρ key where
  rows := t.rows.filter p
  nodup := t.nodup.sublist (List.filter_sublist.map key)

theorem find?_filter_eq_some {t : Table κ ρ key} {p : ρ → Bool} {k : κ} {r : ρ} :
    (t.filter p).find? k = some r ↔ t.find? k = some r ∧ p r = true := by
  rw [find?_eq_some, find?_eq_some, filter, List.mem_filter]
  exact and_right_comm

end Table

end Sidecar.Verified.KeyedTable
