import Mathlib.Data.List.Nodup
import Mathlib.Order.Lattice

/-
  This file defines paging by key: a page holds the largest keys below a cursor,
  and the cursor of the next page is the key of its last row.

  Key definitions include:
    * `Paging.pages`
-/

namespace Paging

variable {α κ γ : Type*} [LinearOrder κ] (key : α → κ)

def descending (rows : List α) : List α := rows.mergeSort (fun left right =>
    decide (key right ≤ key left))

def below (cursor : Option κ) (rows : List α) : List α := rows.filter (fun row =>
    cursor.all (fun bound => decide (key row < bound)))

/- Ask for pages until one is short. -/
def pages (page : Option γ → List α) (next : α → γ) (limit : Nat) : Nat → Option γ → Option (List α)
  | 0, _ => none
  | calls + 1, cursor =>
    let rows := page cursor
    if rows.length < limit then some rows
    else (pages page next limit calls ((rows.getLast?.map next).or cursor)).map (rows ++ ·)

variable {key} {rows : List α}

theorem perm_descending : (descending key rows).Perm rows := List.mergeSort_perm _ _

theorem descending_sorted :
    (descending key rows).Pairwise (fun left right => key right ≤ key left) := by
  refine (List.pairwise_mergeSort ?_ ?_ rows).imp of_decide_eq_true
  · simp only [decide_eq_true_eq]
    exact fun _ _ _ hFirst hSecond => le_trans hSecond hFirst
  · simp only [Bool.or_eq_true, decide_eq_true_eq]
    exact fun _ _ => le_total _ _

/- Below the key of a row is what follows it. -/
theorem below_append {front rest : List α} {row : α}
    (hStrict : (front ++ row :: rest).Pairwise (fun left right => key right < key left)) :
    below key (some (key row)) (front ++ row :: rest) = rest := by
  rw [List.pairwise_append, List.pairwise_cons] at hStrict
  rw [below, List.filter_append, List.filter_cons_of_neg (by simp),
    List.filter_eq_nil_iff.mpr, List.nil_append, List.filter_eq_self]
  · intro other hOther
    simpa using hStrict.2.1.1 other hOther
  · intro other hOther
    simpa using le_of_lt (hStrict.2.2 other hOther row List.mem_cons_self)

theorem below_below {cursor : Option κ} {row : α} (hRow : row ∈ below key cursor rows) :
    below key (some (key row)) (below key cursor rows) = below key (some (key row)) rows := by
  have hIn := (List.mem_filter.mp hRow).2
  rw [below, below, List.filter_filter]
  refine List.filter_congr fun other _ => ?_
  cases cursor with
  | none => simp
  | some bound =>
    simp only [Option.all_some, decide_eq_true_eq] at hIn
    by_cases hLess : key other < key row
    · simp [lt_trans hLess hIn]
    · simp [hLess]

variable (hDistinct : (rows.map key).Nodup)
include hDistinct

theorem descending_strict :
    (descending key rows).Pairwise (fun left right => key right < key left) := by
  have hKeys : (descending key rows).Pairwise (fun left right => key left ≠ key right) :=
    List.pairwise_map.mp ((perm_descending.map key).nodup_iff.mpr hDistinct)
  refine (descending_sorted.and hKeys).imp ?_
  exact fun hBoth => lt_of_le_of_ne hBoth.1 hBoth.2.symm

theorem descending_below (cursor : Option κ) :
    descending key (below key cursor rows) = below key cursor (descending key rows) := by
  refine List.Perm.eq_of_pairwise ?_ descending_sorted
    (descending_sorted.sublist List.filter_sublist)
    (perm_descending.trans (perm_descending.symm.filter _))
  intro left right hLeft hRight hLe hGe
  exact List.inj_on_of_nodup_map hDistinct
    (List.mem_of_mem_filter (perm_descending.mem_iff.mp hLeft))
    (perm_descending.mem_iff.mp (List.mem_of_mem_filter hRight)) (le_antisymm hGe hLe)

/- Paging gives every row that is left once, in order. -/
theorem pages_eq {page : Option γ → List α} {next : α → γ} {bound : γ → κ}
    {limit calls : Nat} {cursor : Option γ} (hNext : ∀ row, bound (next row) = key row)
    (hPage : ∀ cursor, page cursor = (descending key
        (below key (cursor.map bound) rows)).take limit)
    (hLimit : 0 < limit)
    (hCalls : (below key (cursor.map bound) (descending key rows)).length < calls) :
    pages page next limit calls cursor = some (below key (cursor.map bound)
        (descending key rows)) := by
  -- a full page leaves fewer rows below its last one
  induction calls generalizing cursor with
  | zero => cases hCalls
  | succ calls ih =>
    have hStrict := (descending_strict hDistinct).sublist (List.filter_sublist (p := fun row =>
        (cursor.map bound).all (fun bound => decide (key row < bound))))
    rw [← below] at hStrict
    rw [pages, hPage, descending_below hDistinct]
    generalize hLeft : below key (cursor.map bound) (descending key rows) = left at *
    split
    next hShort =>
      rw [List.length_take] at hShort
      rw [List.take_of_length_le (by omega)]
    next hFull =>
      rcases List.eq_nil_or_concat (left.take limit) with hNone | ⟨front, row, hFront⟩
      · rw [hNone] at hFull
        exact absurd hLimit hFull
      · rw [List.concat_eq_append] at hFront
        have hSplit : left = front ++ row :: left.drop limit := by
          rw [← List.singleton_append, ← List.append_assoc, ← hFront, List.take_append_drop]
        have hRow : row ∈ below key (cursor.map bound) (descending key rows) := by
          rw [hLeft, hSplit]
          simp
        have hRest : below key ((some (next row)).map bound)
            (descending key rows) = left.drop limit := by
          rw [Option.map_some, hNext, ← below_below hRow, hLeft]
          nth_rewrite 1 [hSplit]
          exact below_append (hSplit ▸ hStrict)
        have hFewer : (left.drop limit).length < calls := by
          rw [List.length_take] at hFull
          rw [List.length_drop]
          omega
        rw [hFront, List.getLast?_concat, Option.map_some, Option.some_or, ih (hRest ▸ hFewer),
          hRest, Option.map_some, ← hFront, List.take_append_drop]

end Paging
