import Mathlib.Data.List.Sort
import Roster.KeyTable

/-!
# What a table holds

A table is known by its lookups: two tables that answer alike under every key are the same table.
So each operation is described by what it does to `find?`, and the order of the rows is only needed
to read the keys off in ascending order.
-/

namespace Roster

namespace KeyOrder

variable {κ : Type} [KeyOrder κ] {a b : κ}

/-- Ascending pairs have ascending first parts, ties included. -/
theorem fst_le {μ : Type} [KeyOrder μ] [DecidableEq κ] {a b : κ × μ} (h : lt a b = true) :
    lt b.1 a.1 = false := by
  by_cases he : a.1 = b.1
  · rw [he, lt_irrefl]
  · simp only [lt, if_neg he] at h
    exact lt_asymm h

end KeyOrder

/-- Strictly ascending, so without repetitions. -/
def Ascending {κ : Type} [KeyOrder κ] (l : List κ) : Prop := l.Pairwise fun a b => KeyOrder.lt a b = true

namespace Ascending

variable {κ : Type} [KeyOrder κ] {l m : List κ}

theorem nodup (h : Ascending l) : l.Nodup := h.imp KeyOrder.ne_of_lt

/-- An ascending list is determined by its members. -/
theorem ext (hl : Ascending l) (hm : Ascending m) (h : ∀ a, a ∈ l ↔ a ∈ m) : l = m :=
  List.Perm.eq_of_pairwise
    (fun a b _ _ hab hba => absurd hab (by simp [KeyOrder.lt_asymm hba]))
    hl hm ((List.perm_ext_iff_of_nodup hl.nodup hm.nodup).2 h)

end Ascending

namespace KeyTable

variable {κ α β : Type} [KeyOrder κ]

theorem keys_ascending (t : KeyTable κ α) : Ascending t.keys := by
  simpa [Ascending, keys, List.pairwise_map] using t.ascending

theorem rows_inj {t u : KeyTable κ α} (h : t.rows = u.rows) : t = u := by
  cases t; cases u; cases h; rfl

theorem rows_nodup (t : KeyTable κ α) : t.rows.Nodup :=
  t.ascending.imp fun h e => KeyOrder.ne_of_lt h (congrArg Prod.fst e)

/-- The table with other values. -/
def map (f : κ → α → β) (t : KeyTable κ α) : KeyTable κ β :=
  ⟨t.rows.map fun row => (row.1, f row.1 row.2), by simpa [List.pairwise_map] using t.ascending⟩

theorem mem_keysWithin {t : KeyTable κ α} {low high k : κ} :
    k ∈ t.keysWithin low high ↔
      k ∈ t.keys ∧ KeyOrder.lt k low = false ∧ KeyOrder.lt k high = true := by
  simp [keysWithin]

theorem keysWithin_ascending (t : KeyTable κ α) (low high : κ) : Ascending (t.keysWithin low high) :=
  t.keys_ascending.filter _

variable [DecidableEq κ]

/-! ## Lookups -/

/-- What is found is what stands in a row. -/
theorem find?_eq_some {t : KeyTable κ α} {k : κ} {v : α} : t.find? k = some v ↔ (k, v) ∈ t.rows := by
  -- only that no key comes twice is kept of the order, so that the rows can be split
  have hn : t.rows.Pairwise fun a b => a.1 ≠ b.1 := t.ascending.imp KeyOrder.ne_of_lt
  unfold find?
  generalize t.rows = rows at hn
  induction rows with
  | nil => simp
  | cons r rows ih =>
    obtain ⟨hr, hrows⟩ := List.pairwise_cons.1 hn
    obtain ⟨k', w⟩ := r
    by_cases h : k' = k
    · subst h
      have hnot : (k', v) ∉ rows := fun hm => hr _ hm rfl
      simp [hnot, eq_comm]
    · simpa [h, Ne.symm h] using ih hrows

theorem has_eq (t : KeyTable κ α) (k : κ) : t.has k = (t.find? k).isSome := by
  unfold has find?
  induction t.rows with
  | nil => rfl
  | cons r rows ih => by_cases h : r.1 = k <;> simp [h, ih]

theorem mem_keys {t : KeyTable κ α} {k : κ} : k ∈ t.keys ↔ ∃ v, t.find? k = some v := by
  simp [keys, find?_eq_some]

theorem has_iff_exists {t : KeyTable κ α} {k : κ} : t.has k = true ↔ ∃ v, t.find? k = some v := by
  rw [has_eq, Option.isSome_iff_exists]

theorem has_eq_false_iff {t : KeyTable κ α} {k : κ} : t.has k = false ↔ t.find? k = none := by
  rw [has_eq, Option.isSome_eq_false_iff, Option.isNone_iff_eq_none]

theorem has_iff {t : KeyTable κ α} {k : κ} : t.has k = true ↔ k ∈ t.keys := by
  rw [has_eq, mem_keys, Option.isSome_iff_exists]

/-- Two tables with the same lookups are the same. -/
theorem ext_find? {t u : KeyTable κ α} (h : ∀ k, t.find? k = u.find? k) : t = u := by
  refine rows_inj (List.Perm.eq_of_pairwise ?_ t.ascending u.ascending ?_)
  · intro a b _ _ hab hba
    exact absurd hab (by simp [KeyOrder.lt_asymm hba])
  · refine (List.perm_ext_iff_of_nodup t.rows_nodup u.rows_nodup).2 fun row => ?_
    rw [← find?_eq_some, ← find?_eq_some, h]

@[simp] theorem has_empty (k : κ) : (empty : KeyTable κ α).has k = false := rfl

theorem find?_map (f : κ → α → β) (t : KeyTable κ α) (k : κ) :
    (t.map f).find? k = (t.find? k).map (f k) := by
  simp only [map, find?]
  induction t.rows with
  | nil => rfl
  | cons r rows ih =>
    by_cases h : r.1 = k
    · subst h; simp
    · simpa [h] using ih

/-! ## Changes -/

theorem find?_filter (p : κ → α → Bool) (t : KeyTable κ α) (k : κ) :
    (t.filter p).find? k = (t.find? k).filter (p k) := by
  refine Option.ext fun v => ?_
  rw [find?_eq_some, Option.filter_eq_some_iff, find?_eq_some]
  simp [filter]

theorem find?_erase (t : KeyTable κ α) (k k' : κ) :
    (t.erase k).find? k' = if k' = k then none else t.find? k' := by
  rw [erase, find?_filter]
  by_cases h : k' = k
  · simp [h]
  · cases t.find? k' <;> simp [h]

/-- A row that is written anew is as if it had not been there. -/
theorem insert_erase (t : KeyTable κ α) (k : κ) (v : α) : (t.erase k).insert k v = t.insert k v := by
  refine ext_find? fun k' => ?_
  by_cases h : k' = k <;> simp [find?_insert, find?_erase, h]

/-- The same value comes to two keys in either order. -/
theorem insert_comm (t : KeyTable κ α) (k k' : κ) (v : α) :
    (t.insert k v).insert k' v = (t.insert k' v).insert k v := by
  refine ext_find? fun key => ?_
  simp only [find?_insert]
  split <;> split <;> rfl

theorem erase_comm (t : KeyTable κ α) (k k' : κ) : (t.erase k).erase k' = (t.erase k').erase k := by
  refine ext_find? fun key => ?_
  simp only [find?_erase]
  split <;> split <;> rfl

theorem has_insert (t : KeyTable κ α) (k k' : κ) (v : α) :
    (t.insert k v).has k' = (decide (k' = k) || t.has k') := by
  rw [has_eq, find?_insert, has_eq]
  by_cases h : k' = k <;> simp [h]

theorem has_insert_self (t : KeyTable κ α) (k : κ) (v : α) : (t.insert k v).has k = true := by
  simp [has_insert]

theorem has_erase (t : KeyTable κ α) (k k' : κ) : (t.erase k).has k' = (decide (k' ≠ k) && t.has k') := by
  rw [has_eq, find?_erase, has_eq]
  by_cases h : k' = k <;> simp [h]

/-- A row of a new key comes to the others. -/
theorem rows_insert (t : KeyTable κ α) {k : κ} (h : t.has k = false) (v : α) :
    (t.insert k v).rows.Perm ((k, v) :: t.rows) := by
  have hk : t.find? k = none := by simpa [has_eq] using h
  have hnot : (k, v) ∉ t.rows := fun hm => by
    rw [← find?_eq_some, hk] at hm
    cases hm
  refine (List.perm_ext_iff_of_nodup (t.insert k v).rows_nodup
    (List.nodup_cons.2 ⟨hnot, t.rows_nodup⟩)).2 fun row => ?_
  rw [← find?_eq_some, find?_insert, List.mem_cons, ← find?_eq_some]
  by_cases he : row.1 = k
  · simp [Prod.ext_iff, he, hk, eq_comm]
  · simp [Prod.ext_iff, he]

theorem has_filter (p : κ → Bool) (t : KeyTable κ α) (k : κ) :
    (t.filter fun k _ => p k).has k = (t.has k && p k) := by
  rw [has_eq, find?_filter, has_eq]
  cases t.find? k <;> cases p k <;> rfl

/-- The rows of one key. -/
theorem filter_key (t : KeyTable κ α) (k : κ) :
    (t.rows.filter fun row => row.1 = k) = ((t.find? k).map fun v => (k, v)).toList := by
  have hn : t.rows.Pairwise fun a b => a.1 ≠ b.1 := t.ascending.imp KeyOrder.ne_of_lt
  unfold find?
  generalize t.rows = rows at hn
  induction rows with
  | nil => rfl
  | cons row rows ih =>
    obtain ⟨hrow, hrows⟩ := List.pairwise_cons.1 hn
    by_cases h : row.1 = k
    · have hnone : rows.filter (fun row => row.1 = k) = [] := by
        refine List.filter_eq_nil_iff.2 fun row' hr => ?_
        simpa using fun e => hrow row' hr (h.trans e.symm)
      subst h
      simp [hnone]
    · simpa [h] using ih hrows

end KeyTable

end Roster
