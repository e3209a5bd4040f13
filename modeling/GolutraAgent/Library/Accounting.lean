import Mathlib.Data.List.Basic
import Mathlib.Algebra.Order.BigOperators.Group.List
import Mathlib.Algebra.Order.Ring.Nat

/-
  This file develops what accounts in machine words need. The arithmetic of
  64-bit unsigned words saturates: a sum that does not fit is the largest word,
  and a difference below zero is zero. Every operation is characterised by the
  number that its result denotes. The total of a book is the sum of what its
  entries contribute.

  Key definitions include:
    * `Word.limit`
    * `Word.saturatingAdd`
-/

namespace Word

/- The number of the largest word. -/
def limit : Nat := 2 ^ 64 - 1

def max : UInt64 := UInt64.ofNat limit

variable (a b : UInt64)

def saturatingAdd : UInt64 := UInt64.ofNat (min (a.toNat + b.toNat) limit)

def saturatingSub : UInt64 := UInt64.ofNat (a.toNat - b.toNat)

def checkedSub : Option UInt64 := if b ≤ a then some (saturatingSub a b) else none

theorem toNat_le_limit (a : UInt64) : a.toNat ≤ limit := by
  have hLt := a.toNat_lt
  unfold limit
  omega

theorem toNat_ofNat_of_le {n : Nat} (hLe : n ≤ limit) : (UInt64.ofNat n).toNat = n := by
  unfold limit at hLe
  exact UInt64.toNat_ofNat_of_lt' (by
    change n < 2 ^ 64
    omega)

@[simp] theorem toNat_saturatingAdd (a b : UInt64) :
    (saturatingAdd a b).toNat = min (a.toNat + b.toNat) limit :=
  toNat_ofNat_of_le (Nat.min_le_right _ _)

@[simp] theorem toNat_saturatingSub (a b : UInt64) :
    (saturatingSub a b).toNat = a.toNat - b.toNat :=
  toNat_ofNat_of_le (Nat.le_trans (Nat.sub_le _ _) (toNat_le_limit a))

theorem saturatingAdd_right_comm (a b c : UInt64) :
    saturatingAdd (saturatingAdd a b) c = saturatingAdd (saturatingAdd a c) b := by
  apply UInt64.toNat.inj
  simp only [toNat_saturatingAdd]
  omega

theorem checkedSub_eq_some {a b c : UInt64} (hSub : checkedSub a b = some c) :
    b.toNat ≤ a.toNat ∧ c.toNat = a.toNat - b.toNat := by
  unfold checkedSub at hSub
  split at hSub
  · rename_i hLe
    cases hSub
    exact ⟨UInt64.le_iff_toNat_le.1 hLe, toNat_saturatingSub a b⟩
  · cases hSub

theorem min_le_right (a b : UInt64) : (min a b).toNat ≤ b.toNat := by
  change (if a ≤ b then a else b).toNat ≤ b.toNat
  split
  · next hLe => exact UInt64.le_iff_toNat_le.1 hLe
  · exact Nat.le_refl _

theorem le_max (a b : UInt64) : a.toNat ≤ (Max.max a b).toNat ∧ b.toNat ≤ (Max.max a b).toNat := by
  change a.toNat ≤ (if a ≤ b then b else a).toNat ∧ b.toNat ≤ (if a ≤ b then b else a).toNat
  split
  · next hLe => exact ⟨UInt64.le_iff_toNat_le.1 hLe, Nat.le_refl _⟩
  · rename_i hGt
    rw [UInt64.not_le, UInt64.lt_iff_toNat_lt] at hGt
    omega

end Word

namespace Book

variable {entry : Type*}

variable (contribution : entry → Nat)

/- The sum of what the entries contribute. -/
def total (book : List entry) : Nat := (book.map contribution).sum

@[simp] theorem total_nil : total contribution [] = 0 := rfl

@[simp] theorem total_concat (book : List entry) (new : entry) :
    total contribution (book ++ [new]) = total contribution book + contribution new := by
  simp [total]

variable {book : List entry} {index : Nat} {old : entry}

/- Rewriting an entry moves the total by the difference. -/
theorem total_set (contribution : entry → Nat) (hOld : book[index]? = some old) (new : entry) :
    total contribution (book.set index new) + contribution old =
      total contribution book + contribution new := by
  induction book generalizing index with
  | nil => cases hOld
  | cons head tail ih =>
    cases index with
    | zero =>
      cases hOld
      simp only [total, List.set_cons_zero, List.map_cons, List.sum_cons]
      omega
    | succ index =>
      have hTail := ih hOld
      simp only [total, List.set_cons_succ, List.map_cons, List.sum_cons] at hTail ⊢
      omega

/- An entry contributes at most the total. -/
theorem contribution_le_total (contribution : entry → Nat)
    (hOld : book[index]? = some old) : contribution old ≤ total contribution book :=
  List.single_le_sum (fun _ _ => Nat.zero_le _) _ (List.mem_map_of_mem (List.mem_of_getElem? hOld))

/- Each entry is at most so many times another figure. -/
theorem total_le_mul {contribution count : entry → Nat} {factor : Nat}
    (hEach : ∀ x ∈ book, contribution x ≤ count x * factor) :
    total contribution book ≤ total count book * factor := by
  induction book with
  | nil => simp
  | cons head tail ih =>
    have hHead := hEach head List.mem_cons_self
    have hTail := ih (fun x hEntry => hEach x (List.mem_cons_of_mem _ hEntry))
    simp only [total, List.map_cons, List.sum_cons, Nat.add_mul] at hTail ⊢
    omega

end Book
