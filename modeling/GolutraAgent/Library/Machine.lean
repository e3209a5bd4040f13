import Mathlib.Data.List.Basic

/-
  This file develops runs of deterministic machines: a state, operations, and a
  total step function. An operation that fails is one that leaves the state as
  it was, and a choice of the environment (which party moves, whether a write
  commits) is part of the operation.

  Key definitions include:
    * `Machine.run`
    * `Machine.Guarded`
-/

namespace Machine

variable {σ τ α β : Type*}

variable (step : σ → α → σ) (s : σ)

/- The state after performing `ops` in order from `s`. -/
def run (ops : List α) : σ := ops.foldl step s

@[simp] theorem run_nil : run step s [] = s := rfl

@[simp] theorem run_cons (op : α) (ops : List α) :
    run step s (op :: ops) = run step (step s op) ops := rfl

theorem run_append (ops more : List α) :
    run step s (ops ++ more) = run step (run step s ops) more := by
  simp [run]

@[simp] theorem run_concat (ops : List α) (op : α) :
    run step s (ops ++ [op]) = step (run step s ops) op := by
  simp [run_append]

/- Every operation of `ops` meets `good` in the state it is performed in. -/
def Guarded (step : σ → α → σ) (good : σ → α → Prop) : σ → List α → Prop
| _, [] => True
| s, op :: ops => good s op ∧ Guarded step good (step s op) ops

variable (good : σ → α → Prop)

@[simp] theorem guarded_nil : Guarded step good s [] := trivial

@[simp] theorem guarded_cons (op : α) (ops : List α) :
    Guarded step good s (op :: ops) ↔ good s op ∧ Guarded step good (step s op) ops :=
  Iff.rfl

theorem guarded_append (ops more : List α) :
    Guarded step good s (ops ++ more) ↔ Guarded step good s ops ∧
        Guarded step good (run step s ops) more := by
  induction ops generalizing s with
  | nil => simp
  | cons op ops ih => simp [ih, and_assoc]

variable {good good' : σ → α → Prop} {ops : List α} {step : σ → α → σ}

theorem Guarded.mono {s : σ} (hGuarded : Guarded step good s ops)
    (hGood : ∀ s op, good s op → good' s op) : Guarded step good' s ops := by
  induction ops generalizing s with
  | nil => trivial
  | cons op ops ih => exact ⟨hGood s op hGuarded.1, ih hGuarded.2⟩

theorem Guarded.and {s : σ} (hGood : Guarded step good s ops) (hGood' : Guarded step good' s ops) :
    Guarded step (fun s op => good s op ∧ good' s op) s ops := by
  induction ops generalizing s with
  | nil => trivial
  | cons op ops ih => exact ⟨⟨hGood.1, hGood'.1⟩, ih hGood.2 hGood'.2⟩

instance decidableGuarded (step : σ → α → σ) (good : σ → α → Prop) [∀ s op, Decidable (good s op)] :
    ∀ s ops, Decidable (Guarded step good s ops)
| _, [] => inferInstanceAs (Decidable True)
| s, op :: ops =>
  let _ := decidableGuarded step good (step s op) ops
  inferInstanceAs (Decidable (good s op ∧ Guarded step good (step s op) ops))

variable {Inv : σ → Prop} {s : σ}

/-
  An invariant that every guarded step preserves holds after every guarded run.
-/
theorem run_invariant {good : σ → α → Prop} (hStep : ∀ s op, Inv s → good s op → Inv (step s op))
    (hInit : Inv s) (hGood : Guarded step good s ops) : Inv (run step s ops) := by
  induction ops generalizing s with
  | nil => exact hInit
  | cons op ops ih => exact ih (hStep s op hInit hGood.1) hGood.2

/-
  What a guarded step ensures where the invariant holds, it ensures all along
  every guarded run.
-/
theorem guarded_of_invariant {good ensured : σ → α → Prop}
    (hStep : ∀ s op, Inv s → good s op → ensured s op ∧ Inv (step s op))
    (hInit : Inv s) (hGood : Guarded step good s ops) : Guarded step ensured s ops := by
  induction ops generalizing s with
  | nil => trivial
  | cons op ops ih =>
    obtain ⟨hEnsured, hNext⟩ := hStep s op hInit hGood.1
    exact ⟨hEnsured, ih hNext hGood.2⟩

/- The rule without a guard. -/
theorem run_invariant_of_step (hStep : ∀ s op, Inv s → Inv (step s op))
    (hInit : Inv s) (ops : List α) : Inv (run step s ops) := by
  induction ops generalizing s with
  | nil => exact hInit
  | cons op ops ih => exact ih (hStep s op hInit)

/-
  `P` holds of every state of the run together with the operation performed
  there.
-/
def Throughout (step : σ → α → σ) (P : σ → α → Prop) (s : σ) (ops : List α) : Prop :=
  ∀ before op after, ops = before ++ op :: after → P (run step s before) op

/- Guarding every step and holding at every position are the same condition. -/
theorem throughout_iff (step : σ → α → σ) (P : σ → α → Prop) (s : σ)
    (ops : List α) : Throughout step P s ops ↔ Guarded step P s ops := by
  constructor
  · intro hAll
    induction ops generalizing s with
    | nil => trivial
    | cons op ops ih =>
      refine ⟨hAll [] op ops rfl, ih _ ?_⟩
      intro before next after hSplit
      exact hAll (op :: before) next after (by rw [hSplit]; rfl)
  · rintro hGood before op after rfl
    rw [guarded_append] at hGood
    exact hGood.2.1

end Machine
