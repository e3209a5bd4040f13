import GolutraAgent.Library.Json
import Mathlib.Tactic.SplitIfs

/-
  The time that a shell command may take. Before the deadline advisory is sent,
  the warning window is kept free, and after it a reserve for the final
  response. When no more than that remains, half of the remaining time is given.

  Main declarations:
    * `clampShellTimeoutToBudget_le`
    * `shellExecutionBudget_sound_iff`
-/

namespace GolutraAgent.Runtime

open Json

def runtimeDeadlineWarningWindowMs (maxElapsedMs : Nat) : Nat :=
  min (max (maxElapsedMs / 5) 1) 120000

def finalResponseReserveMs : Nat := 30000

/- No deadline has the budget zero. -/
def shellExecutionBudget (maxElapsedMs elapsedMs : Nat) (deadlineAdvisoryEmitted : Bool) : Nat :=
  if maxElapsedMs = 0 then 0
  else
    let remainingMs := max (maxElapsedMs - elapsedMs) 1
    if deadlineAdvisoryEmitted then
      max (if finalResponseReserveMs < remainingMs then remainingMs - finalResponseReserveMs
        else (remainingMs + 1) / 2) 1
    else
      let warningWindowMs := runtimeDeadlineWarningWindowMs maxElapsedMs
      if warningWindowMs < remainingMs then max (remainingMs - warningWindowMs) 1
      else max ((remainingMs + 1) / 2) 1

structure ToolRequest where
  toolName : String
  arguments : Value

def defaultForegroundTimeoutMs : Nat := 5000

def defaultBackgroundTimeoutMs : Nat := 60 * 60 * 1000

/- A timeout that is no number is left to the tool. -/
def requestedTimeoutMs (arguments : Value) : Option Nat :=
  match arguments.get "timeout_ms" with
  | some value => value.asU64
  | none =>
    if ((arguments.get "background").bind Value.asBool).getD false then
      some defaultBackgroundTimeoutMs
    else some defaultForegroundTimeoutMs

def clampShellTimeoutToBudget (request : ToolRequest) (remainingMs : Nat) : ToolRequest :=
  if remainingMs = 0 ∨ request.toolName ≠ "shell" then request
  else
    match requestedTimeoutMs request.arguments with
    | none => request
    | some requested =>
      { request with
        arguments := request.arguments.set "timeout_ms"
          (.number (.posInt (min requested remainingMs))) }

/- The time that is kept free. -/
def responseReserve (maxElapsedMs : Nat) : Bool → Nat
| true => finalResponseReserveMs
| false => runtimeDeadlineWarningWindowMs maxElapsedMs

variable {maxElapsedMs : Nat}

theorem shellExecutionBudget_eq (hDeadline : 0 < maxElapsedMs) (elapsedMs : Nat) (emitted : Bool) :
    shellExecutionBudget maxElapsedMs elapsedMs emitted =
      if responseReserve maxElapsedMs emitted < max (maxElapsedMs - elapsedMs) 1 then
        max (maxElapsedMs - elapsedMs) 1 - responseReserve maxElapsedMs emitted
      else (max (maxElapsedMs - elapsedMs) 1 + 1) / 2 := by
  unfold shellExecutionBudget
  rw [if_neg hDeadline.ne']
  dsimp only
  cases emitted with
  | true =>
    rw [if_pos rfl, responseReserve]
    split <;> omega
  | false =>
    rw [if_neg Bool.false_ne_true, responseReserve]
    split <;> omega

/- A number that a shell request then asks for is bounded. -/
theorem clampShellTimeoutToBudget_le {request : ToolRequest} {budget timeout : Nat}
    {value : Value} (hBudget : 0 < budget) (hShell : request.toolName = "shell")
    (hGet : (clampShellTimeoutToBudget request budget).arguments.get "timeout_ms" = some value)
    (hTimeout : value.asU64 = some timeout) : timeout ≤ budget := by
  unfold clampShellTimeoutToBudget at hGet
  rw [if_neg (by simp [hShell, hBudget.ne'])] at hGet
  split at hGet
  · rename_i hNone
    rw [requestedTimeoutMs, hGet] at hNone
    cases hTimeout.symm.trans hNone
  · cases hArguments : request.arguments with
    | object fields =>
      simp only [hArguments, Value.set, Value.get_object, lookup_insert_self] at hGet
      cases hGet
      cases hTimeout
      exact Nat.min_le_right _ _
    | _ =>
      simp only [hArguments] at hGet
      cases hGet

/-
  More time remains than is kept free, but so little more that half of a later
  remaining time is a larger budget.
-/
def BudgetDrops (maxElapsedMs earlierMs laterMs : Nat) (emitted : Bool) : Prop :=
  let reserve := responseReserve maxElapsedMs emitted
  maxElapsedMs - laterMs ≤ reserve ∧ reserve < maxElapsedMs - earlierMs ∧
    maxElapsedMs - earlierMs - reserve < (maxElapsedMs - laterMs + 1) / 2

/- What is asked of the budget at one time. -/
def BudgetFits (maxElapsedMs elapsedMs : Nat) (emitted : Bool) : Prop :=
  let budget := shellExecutionBudget maxElapsedMs elapsedMs emitted
  1 ≤ budget ∧ budget ≤ maxElapsedMs - elapsedMs ∧
    ∀ (request : ToolRequest) value timeout, request.toolName = "shell" →
      (clampShellTimeoutToBudget request budget).arguments.get "timeout_ms" = some value →
      value.asU64 = some timeout → timeout ≤ budget

theorem budgetFits_iff (hDeadline : 0 < maxElapsedMs) (elapsedMs : Nat)
    (emitted : Bool) : BudgetFits maxElapsedMs elapsedMs emitted ↔ elapsedMs < maxElapsedMs := by
  have hBudget := shellExecutionBudget_eq hDeadline elapsedMs emitted
  have hPositive : 0 < shellExecutionBudget maxElapsedMs elapsedMs emitted := by
    rw [hBudget]
    split <;> omega
  constructor
  · rintro ⟨hOne, hRemaining, -⟩
    omega
  · intro hWithin
    refine ⟨hPositive, ?_, ?_⟩
    · rw [hBudget]
      split <;> omega
    · intro request value timeout hShell hGet hTimeout
      exact clampShellTimeoutToBudget_le hPositive hShell hGet hTimeout

/-
  Of two times, the earlier has at least the budget of the later, and both
  budgets fit, exactly when the later time is before the deadline and the budget
  does not drop at the edge of the time that is kept free.
-/
theorem shellExecutionBudget_sound_iff {maxElapsedMs earlierMs laterMs : Nat}
    (hDeadline : 0 < maxElapsedMs) (hOrder : earlierMs ≤ laterMs) (emitted : Bool) :
    (shellExecutionBudget maxElapsedMs laterMs emitted ≤
        shellExecutionBudget maxElapsedMs earlierMs emitted ∧
      BudgetFits maxElapsedMs earlierMs emitted ∧ BudgetFits maxElapsedMs laterMs emitted) ↔
    (laterMs < maxElapsedMs ∧ ¬ BudgetDrops maxElapsedMs earlierMs laterMs emitted) := by
  rw [budgetFits_iff hDeadline, budgetFits_iff hDeadline, shellExecutionBudget_eq hDeadline,
    shellExecutionBudget_eq hDeadline, BudgetDrops]
  split_ifs <;> omega

theorem budget_sound_longTurn :
    shellExecutionBudget 600000 500000 false ≤ shellExecutionBudget 600000 0 false :=
  ((shellExecutionBudget_sound_iff (by decide) (by decide) false).2 ⟨by decide, by
      unfold BudgetDrops
      decide⟩).1

/-
  One millisecond before the warning window of a turn of ten minutes, a command
  gets one millisecond. In the window it gets a minute.
-/
theorem budget_drops_beforeWindow : shellExecutionBudget 600000 479999 false = 1 ∧
      shellExecutionBudget 600000 480000 false = 60000 ∧
      ¬ shellExecutionBudget 600000 480000 false ≤ shellExecutionBudget 600000 479999 false := by
  decide

end GolutraAgent.Runtime
