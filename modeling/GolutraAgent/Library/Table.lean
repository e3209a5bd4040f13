import Mathlib.Data.List.Nodup

/-
  This file models the tables of a relational database: rows in the order in
  which they were inserted, with a primary key. That no two rows share their key
  is part of the table, so a table that violates its key cannot be built, and
  every change of rows has to keep their keys.

  Key definitions include:
    * `Table`
    * `Table.find?`
-/

structure Table {α κ : Type*} (key : α → κ) where
  rows : List α
  distinct : (rows.map key).Nodup

namespace Table

variable {α κ : Type*} [DecidableEq κ] {key : α → κ}

def empty : Table key := ⟨[], List.nodup_nil⟩

variable (table : Table key)

/- The row with a key. -/
def find? (k : κ) : Option α := table.rows.find? (fun row => key row = k)

/- A new row with a new key may be added at the end. -/
theorem distinct_append {row : α} (hNew : table.find? (key row) = none) :
    ((table.rows ++ [row]).map key).Nodup := by
  have hFresh : ∀ other ∈ table.rows, key other ≠ key row := by simpa [find?] using hNew
  simp only [List.map_append, List.map_cons, List.map_nil]
  refine List.nodup_append.2 ⟨table.distinct, List.nodup_singleton _, ?_⟩
  intro k hOld k' hRow
  obtain ⟨other, hOther, rfl⟩ := List.mem_map.1 hOld
  rw [List.mem_singleton] at hRow
  rw [hRow]
  exact hFresh other hOther

/- Insert a row, or fail if its key is taken. -/
def insert? (row : α) : Option (Table key) :=
  match hFind : table.find? (key row) with
  | some _ => none
  | none => some ⟨table.rows ++ [row], table.distinct_append hFind⟩

/- Change the rows that a condition selects. -/
def updateWhere (selects : α → Bool) (change : α → α)
    (hKey : ∀ row, key (change row) = key row) : Table key where
  rows := table.rows.map (fun row => if selects row then change row else row)
  distinct := by
    have hKeys : (table.rows.map (fun row =>
        if selects row then change row else row)).map key = table.rows.map key := by
      rw [List.map_map]
      apply List.map_congr_left
      intro row _
      simp only [Function.comp_apply]
      split
      · exact hKey row
      · rfl
    rw [hKeys]
    exact table.distinct

/- Change the row with the key of the new one, or insert. -/
def upsert (row : α) (change : α → α) (hKey : ∀ row, key (change row) = key row) : Table key :=
  (table.insert? row).getD (table.updateWhere (fun old => key old = key row) change hKey)

/- Delete the row with a key. -/
def delete (k : κ) : Table key where
  rows := table.rows.filter (fun row => key row ≠ k)
  distinct := table.distinct.sublist (List.filter_sublist.map key)

/- Replace the row with the key of a row, or add the row. -/
def put (row : α) : Table key where
  rows := (table.delete (key row)).rows ++ [row]
  distinct := (table.delete (key row)).distinct_append (by
    simp [find?, delete])

/- The first of some rows in the order of a rank. -/
def leastBy (rank : α → Int) : List α → Option α
| [] => none
| row :: rows =>
  match leastBy rank rows with
  | none => some row
  | some other => if rank row ≤ rank other then some row else some other

theorem leastBy_mem {rank : α → Int} {rows : List α} {row : α}
    (hLeast : leastBy rank rows = some row) : row ∈ rows := by
  induction rows generalizing row with
  | nil => cases hLeast
  | cons head rows ih =>
    simp only [leastBy] at hLeast
    split at hLeast
    · cases hLeast
      exact List.mem_cons_self
    · rename_i other hOther
      split at hLeast
      · cases hLeast
        exact List.mem_cons_self
      · cases hLeast
        exact List.mem_cons_of_mem _ (ih hOther)

variable {table table' : Table key} {row : α} {k : κ}

@[simp] theorem find?_empty : (empty : Table key).find? k = none := rfl

/- Among rows with distinct keys the first is the only one. -/
theorem find?_key_eq_some {rows : List α} (hDistinct : (rows.map key).Nodup)
    (hRow : row ∈ rows) : rows.find? (fun other => key other = key row) = some row := by
  induction rows with
  | nil => cases hRow
  | cons head rows ih =>
    rw [List.map_cons, List.nodup_cons] at hDistinct
    rcases List.mem_cons.1 hRow with rfl | hTail
    · simp
    · have hHead : key head ≠ key row := by
        intro hSame
        exact hDistinct.1 (hSame ▸ List.mem_map_of_mem hTail)
      rw [List.find?_cons_of_neg (by simpa using hHead)]
      exact ih hDistinct.2 hTail

theorem find?_eq_some_iff : table.find? k = some row ↔ row ∈ table.rows ∧ key row = k := by
  constructor
  · intro hFind
    exact ⟨List.mem_of_find?_eq_some hFind, by simpa using List.find?_some hFind⟩
  · rintro ⟨hRow, rfl⟩
    exact find?_key_eq_some table.distinct hRow

theorem find?_eq_none_iff : table.find? k = none ↔ ∀ row ∈ table.rows, key row ≠ k := by
  simp [find?]

theorem insert?_eq_some (hInsert : table.insert? row = some table') :
    table.find? (key row) = none ∧ table'.rows = table.rows ++ [row] := by
  unfold insert? at hInsert
  split at hInsert
  · cases hInsert
  · rename_i hFind
    cases hInsert
    exact ⟨hFind, rfl⟩

theorem insert?_eq_none_iff : table.insert? row = none ↔ table.find? (key row) ≠ none := by
  unfold insert?
  split
  · next hFind => simp [hFind]
  · next hFind => simp [hFind]

/- Only the key of the new row gets a new row. -/
theorem find?_insert? (hInsert : table.insert? row = some table') (k : κ) : table'.find? k =
      if k = key row then some row else table.find? k := by
  obtain ⟨hNew, hRows⟩ := insert?_eq_some hInsert
  unfold find? at hNew ⊢
  rw [hRows]
  split
  · rename_i hSame
    subst hSame
    simp [hNew]
  · rename_i hOther
    have hRow : key row ≠ k := fun hSame => hOther hSame.symm
    simp [hRow]

/- The row of a key is changed if it is selected. -/
theorem find?_updateWhere (selects : α → Bool) (change : α → α)
    (hKey : ∀ row, key (change row) = key row) (k : κ) :
    (table.updateWhere selects change hKey).find? k = (table.find? k).map (fun row =>
        if selects row then change row else row) := by
  have hSame : ∀ row, key (if selects row then change row else row) = key row := by
    intro row
    split
    · exact hKey row
    · rfl
  unfold find? updateWhere
  rw [List.find?_map]
  congr 2
  funext row
  simp [hSame]

theorem find?_upsert_self (row : α) (change : α → α) (hKey : ∀ row, key (change row) = key row) :
    (table.upsert row change hKey).find? (key row) =
      some (((table.find? (key row)).map change).getD row) := by
  unfold upsert
  cases hInsert : table.insert? row with
  | some inserted =>
    have hNew := (insert?_eq_some hInsert).1
    simp [find?_insert? hInsert, hNew]
  | none =>
    have hOld := insert?_eq_none_iff.1 hInsert
    obtain ⟨old, hFind⟩ := Option.ne_none_iff_exists'.1 hOld
    have hSame := (find?_eq_some_iff.1 hFind).2
    simp [find?_updateWhere, hFind, hSame]

theorem find?_upsert_other {row : α} (change : α → α) (hKey : ∀ row, key (change row) = key row)
    (hOther : k ≠ key row) : (table.upsert row change hKey).find? k = table.find? k := by
  unfold upsert
  cases hInsert : table.insert? row with
  | some inserted => simp [find?_insert? hInsert, hOther]
  | none =>
    simp only [Option.getD_none, find?_updateWhere]
    cases hFind : table.find? k with
    | none => rfl
    | some found =>
      have hSame := (find?_eq_some_iff.1 hFind).2
      simp [hSame, hOther]

theorem find?_delete (k k' : κ) : (table.delete k).find? k' =
      if k' = k then none else table.find? k' := by
  unfold find? delete
  rw [List.find?_filter]
  split
  · rename_i hSame
    subst hSame
    simp
  · rename_i hOther
    congr 1
    funext row
    by_cases hRow : key row = k'
    · simp [hRow, hOther]
    · simp [hRow]

theorem mem_delete : row ∈ (table.delete k).rows ↔ row ∈ table.rows ∧ key row ≠ k := by
  simp [delete]

theorem mem_put {other : α} :
    other ∈ (table.put row).rows ↔ (other ∈ table.rows ∧ key other ≠ key row) ∨ other = row := by
  simp [put, mem_delete]

theorem find?_put (row : α) (k : κ) : (table.put row).find? k =
      if k = key row then some row else table.find? k := by
  have hFind : (table.put row).find? k = ((table.delete (key row)).find? k).or
        ([row].find? (fun row => key row = k)) :=
    List.find?_append
  rw [hFind, find?_delete]
  split
  · next hSame => simp [hSame]
  · next hOther => simp [Ne.symm hOther]

theorem rows_put_of_fresh (hFresh : table.find? (key row) = none) :
    (table.put row).rows = table.rows ++ [row] := by
  have hOthers := find?_eq_none_iff.1 hFresh
  have hKept : (table.delete (key row)).rows = table.rows := by simpa [delete] using hOthers
  exact congrArg (· ++ [row]) hKept

end Table
