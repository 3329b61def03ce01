import Roster.KeyOrder

/-!
# Tables in key order

A table is a list of rows in strictly ascending order of their keys, so a table's content has one
form only. Rows are put in, taken out and looked up by their keys, and selected by a condition.
-/

namespace Roster

/-- Rows in strictly ascending order of their keys. -/
structure KeyTable (κ α : Type) [KeyOrder κ] where
  rows : List (κ × α)
  ascending : rows.Pairwise fun a b => KeyOrder.lt a.1 b.1 = true

namespace KeyTable

variable {κ α : Type} [KeyOrder κ]

/-- The rows with one more in its place, or another value in the row of that key. -/
def insertRow (k : κ) (v : α) : List (κ × α) → List (κ × α)
  | [] => [(k, v)]
  | row :: rows =>
    if KeyOrder.lt k row.1 then (k, v) :: row :: rows
    else if KeyOrder.lt row.1 k then row :: insertRow k v rows
    else (k, v) :: rows

theorem mem_insertRow {k : κ} {v : α} {rows : List (κ × α)} {row : κ × α}
    (h : row ∈ insertRow k v rows) : row = (k, v) ∨ row ∈ rows := by
  induction rows with
  | nil => simpa [insertRow] using h
  | cons r rows ih =>
    rw [insertRow] at h
    split at h
    · simpa using h
    · split at h
      · rcases List.mem_cons.1 h with rfl | h
        · exact .inr (List.mem_cons_self ..)
        · exact (ih h).imp_right (List.mem_cons_of_mem _)
      · exact (List.mem_cons.1 h).imp_right (List.mem_cons_of_mem _)

theorem insertRow_ascending (k : κ) (v : α) {rows : List (κ × α)}
    (h : rows.Pairwise fun a b => KeyOrder.lt a.1 b.1 = true) :
    (insertRow k v rows).Pairwise fun a b => KeyOrder.lt a.1 b.1 = true := by
  induction rows with
  | nil => simp [insertRow]
  | cons r rows ih =>
    have ⟨hr, hrows⟩ := List.pairwise_cons.1 h
    rw [insertRow]
    split
    · rename_i hk
      refine List.pairwise_cons.2 ⟨fun row hrow => ?_, h⟩
      rcases List.mem_cons.1 hrow with rfl | hrow
      · exact hk
      · exact KeyOrder.lt_trans hk (hr row hrow)
    · split
      · rename_i hk
        refine List.pairwise_cons.2 ⟨fun row hrow => ?_, ih hrows⟩
        rcases mem_insertRow hrow with rfl | hrow
        · exact hk
        · exact hr row hrow
      · rename_i hk hk'
        have he : r.1 = k := KeyOrder.lt_connected (by simpa using hk') (by simpa using hk)
        exact List.pairwise_cons.2 ⟨fun row hrow => he ▸ hr row hrow, hrows⟩

/-- The rows with one more: at once behind them all, if its key comes after theirs, and else in its place. -/
def place (k : κ) (v : α) (rows : List (κ × α)) : List (κ × α) :=
  if rows.getLast?.all fun last => KeyOrder.lt last.1 k then rows ++ [(k, v)] else insertRow k v rows

theorem insertRow_behind {k : κ} {v : α} {rows : List (κ × α)} (h : ∀ row ∈ rows, KeyOrder.lt row.1 k = true) :
    insertRow k v rows = rows ++ [(k, v)] := by
  induction rows with
  | nil => rfl
  | cons row rows ih =>
    obtain ⟨hrow, hrows⟩ := List.forall_mem_cons.1 h
    have hno : KeyOrder.lt k row.1 = false := by
      cases hlt : KeyOrder.lt k row.1 with
      | false => rfl
      | true => rw [← KeyOrder.lt_trans hrow hlt, KeyOrder.lt_irrefl]
    rw [insertRow, if_neg (by simp [hno]), if_pos hrow, ih hrows, List.cons_append]

/-- Wherever it goes, it is the same place. -/
theorem place_eq (k : κ) (v : α) {rows : List (κ × α)}
    (h : rows.Pairwise fun a b => KeyOrder.lt a.1 b.1 = true) : place k v rows = insertRow k v rows := by
  unfold place
  split
  · rename_i hlast
    refine (insertRow_behind fun row hrow => ?_).symm
    rcases rows.eq_nil_or_concat with rfl | ⟨front, last, rfl⟩
    · cases hrow
    · -- the others come before the last one
      rw [List.concat_eq_append] at h hlast hrow
      have hlast : KeyOrder.lt last.1 k = true := by simpa using hlast
      rcases List.mem_append.1 hrow with hfront | hrow
      · exact KeyOrder.lt_trans ((List.pairwise_append.1 h).2.2 row hfront last (List.mem_singleton_self _)) hlast
      · rw [List.mem_singleton.1 hrow]
        exact hlast
  · rfl

/-- The table without rows. -/
def empty : KeyTable κ α := ⟨[], .nil⟩

/-- The number of rows. -/
def size (t : KeyTable κ α) : Nat := t.rows.length

/-- The keys, ascending. -/
def keys (t : KeyTable κ α) : List κ := t.rows.map (·.1)

/-- The table with the value `v` under the key `k`. -/
def insert (t : KeyTable κ α) (k : κ) (v : α) : KeyTable κ α :=
  ⟨place k v t.rows, place_eq k v t.ascending ▸ insertRow_ascending k v t.ascending⟩

/-- The rows that meet a condition. -/
def filter (p : κ → α → Bool) (t : KeyTable κ α) : KeyTable κ α :=
  ⟨t.rows.filter fun row => p row.1 row.2, t.ascending.filter _⟩

/-- The keys from `low` on and before `high`. -/
def keysWithin (t : KeyTable κ α) (low high : κ) : List κ :=
  t.keys.filter fun k => !KeyOrder.lt k low && KeyOrder.lt k high

variable [DecidableEq κ]

/-- The value under a key. -/
def find? (t : KeyTable κ α) (k : κ) : Option α :=
  (t.rows.find? fun row => row.1 = k).map (·.2)

@[simp] theorem find?_empty (k : κ) : (empty : KeyTable κ α).find? k = none := rfl

theorem find?_insert (t : KeyTable κ α) (k k' : κ) (v : α) :
    (t.insert k v).find? k' = if k' = k then some v else t.find? k' := by
  simp only [insert, find?, place_eq k v t.ascending]
  induction t.rows with
  | nil => by_cases h : k' = k <;> simp [insertRow, h, eq_comm]
  | cons r rows ih =>
    rw [insertRow]
    split
    · -- the new row stands before `r`
      by_cases h : k' = k
      · simp [h]
      · simp [h, Ne.symm h]
    · rename_i hk
      split
      · -- it stands somewhere behind `r`
        rename_i hr
        by_cases h : r.1 = k'
        · have : k' ≠ k := h ▸ KeyOrder.ne_of_lt hr
          simp [h, this]
        · simpa [h] using ih
      · -- it takes the place of `r`
        rename_i hr
        have he : r.1 = k := KeyOrder.lt_connected (by simpa using hr) (by simpa using hk)
        by_cases h : k' = k
        · simp [h]
        · simp [h, Ne.symm h, he]

/-- A row has this key. -/
def has (t : KeyTable κ α) (k : κ) : Bool := t.rows.any fun row => row.1 = k

/-- The table without the row of a key. -/
def erase (t : KeyTable κ α) (k : κ) : KeyTable κ α := t.filter fun k' _ => k' ≠ k

end KeyTable

end Roster
