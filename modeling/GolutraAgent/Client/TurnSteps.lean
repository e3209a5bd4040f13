import GolutraAgent.Client.TurnFates

/-
  This file proves for each operation of a session that it keeps the invariant
  `TurnInv`. The only one that needs a condition is the event that starts a new
  task.
-/

namespace GolutraAgent.Client

open GolutraAgent.Runtime Store
open RuntimeLaneManager RuntimeEventType

variable {library : PromptLibrary} {sessionId : SessionId}
variable {log : List RuntimeEvent} {taskId : TaskId}
variable {event : RuntimeEvent} {turnId : TurnId} {context : EventContext}

namespace TurnSystem

variable {s : TurnSystem library}

variable {transferred pending : PendingTurns}
variable {state : SurfaceState} {lane : RuntimeLane} {payload : Json.Value}

section

variable (hInv : TurnInv sessionId s)
include hInv

variable (hPhase : s.phase = .running)
variable (hNumber : nextSequenceNo s.session.log ≤ context.sequenceNo)
include hPhase hNumber

end

variable {eventType : RuntimeEventType} {session : RecordedSession}

variable {op : SessionOp}

theorem PhaseHolds.leave {phase : SessionPhase library} {state' : SurfaceState}
    (hHolds : PhaseHolds sessionId session taskId pending state phase)
    (hLeaves : leavesTurns event.eventType = true) (hPayload : state'.payload = state.payload) :
    PhaseHolds sessionId { session with log := session.log ++ [event] } taskId
      pending state' phase := by
  cases phase with
  | idle => trivial
  | prompting task => trivial
  | running =>
    obtain ⟨lane, hLane, hTask, hDistinct, hTurns, hReady⟩ := hHolds
    exact ⟨lane, hLane, hTask, hDistinct, hTurns, hPayload ▸ hReady⟩
  | transferring turns => exact hHolds
  | starting newTask turns =>
    obtain ⟨hTurns, hOther, moved, moving, hView, hKnown, hPlaces⟩ := hHolds
    refine ⟨hTurns, hOther, moved, ?_⟩
    by_cases hTask : event.taskId = some newTask
    · obtain ⟨moving', hView', -, hQueued⟩ := hView.leave hTask hLeaves
      refine ⟨moving', hView', ⟨hKnown.accepted, ?_⟩, hPlaces⟩
      unfold SurfaceState.knownPayload
      rw [hQueued]
      exact hKnown.known
    · exact ⟨moving, hView.other hTask, hKnown, hPlaces⟩

/- A recovery records a quiet event, or none. -/
theorem recordOrphanedTaskRecovery_cases {orphan : TaskId}
    {recovery : String} {required : Bool} {after : List RuntimeEvent}
    (hRecord : recordOrphanedTaskRecovery library sessionId
      context log orphan recovery = .ok (required, after)) :
    after = log ∨ ∃ event, after = log ++ [event] ∧ isQuiet event.eventType = true ∧
      event.sequenceNo = context.sequenceNo := by
  unfold recordOrphanedTaskRecovery at hRecord
  dsimp only at hRecord
  split at hRecord
  · split at hRecord
    · cases hRecord
      exact .inl rfl
    · cases hRecord
  · cases hRecord
    refine .inr ⟨_, rfl, ?_, rfl⟩
    simp only [taskRecoveryEvent]
    split <;> rfl

theorem Logged.recovered (hLogged : Logged library sessionId log)
    (hNumber : nextSequenceNo log ≤ context.sequenceNo) {orphan : TaskId}
    {recovery : String} {required : Bool} {after : List RuntimeEvent}
    (hRecord : recordOrphanedTaskRecovery library sessionId
      context log orphan recovery = .ok (required, after)) : Logged library sessionId after := by
  rcases recordOrphanedTaskRecovery_cases hRecord with rfl | ⟨event, rfl, hQuiet, hSequence⟩
  · exact hLogged
  · exact hLogged.leave (hSequence ▸ hNumber) hQuiet

variable {turns : List RecoveredPendingTurn}

variable (task : NewTask library)

end TurnSystem

end GolutraAgent.Client
