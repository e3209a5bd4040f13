import Mathlib.Logic.Function.Basic
import GolutraAgent.Protocol.Event

/-
  This file models the runtime lane manager: for each session the lane of its
  latest task, and the transitions of that lane. A transition changes the lane
  and describes the change in an event that carries a snapshot of the lane.

  What the source draws from the outside while it builds an event (a new
  identifier, the time, the sequence number) is an argument here, the
  `EventContext`.
-/

namespace GolutraAgent.Runtime

inductive RuntimeLaneError
| activeTaskExists
| laneNotFound
| queuedTurnNotPending

/- A lane and the event that records its change. -/
structure RuntimeTransition where
  lane : RuntimeLane
  event : RuntimeEvent

/- At most one lane for a session. -/
structure RuntimeLaneManager where
  lanesBySession : SessionId → Option RuntimeLane

/-
  What a new event takes from the outside. A lane without an active turn gets
  `newTurnId` as the turn of its event.
-/
structure EventContext where
  sequenceNo : Nat
  eventId : EventId
  timestamp : Timestamp
  newTurnId : TurnId
deriving DecidableEq

/- Every event of a lane carries its snapshot. -/
def laneEvent (lane : RuntimeLane) (turnId : TurnId) (context : EventContext)
    (eventType : RuntimeEventType) (summary : String) : RuntimeEvent where
  schemaVersion := runtimeEventSchemaVersion
  id := context.eventId
  sequenceNo := context.sequenceNo
  sessionId := lane.sessionId
  turnId := some turnId
  taskId := some lane.taskId
  parentEventId := none
  causalContext := .empty
  causalLinks := []
  eventType := eventType
  timestamp := context.timestamp
  source := .runtime
  payload := .object [("summary", .string summary), ("lane_id", .string lane.laneId.toText),
      ("status", TaskStatus.codec.encode lane.status),
      ("active_controller", Actor.codec.encode lane.activeController),
      ("runtime_lane", lane.encode)]
  payloadRef := none
  durable := true

/- What happened to a lane and the lanes after it, or why nothing did. -/
abbrev LaneStep : Type := Except RuntimeLaneError (RuntimeTransition × RuntimeLaneManager)

namespace RuntimeLaneManager

def new : RuntimeLaneManager := ⟨fun _ => none⟩

variable (manager : RuntimeLaneManager) (sessionId : SessionId)

def lane : Option RuntimeLane := manager.lanesBySession sessionId

/- The lane of a session is replaced. -/
def insert (lane : RuntimeLane) : RuntimeLaneManager :=
  ⟨Function.update manager.lanesBySession sessionId (some lane)⟩

variable (manager : RuntimeLaneManager)

@[simp] theorem lane_insert_self (sessionId : SessionId)
    (lane : RuntimeLane) : (manager.insert sessionId lane).lane sessionId = some lane := by
  simp [RuntimeLaneManager.lane, insert]

theorem lane_insert_other {sessionId other : SessionId} (lane : RuntimeLane)
    (hOther : other ≠ sessionId) :
    (manager.insert sessionId lane).lane other = manager.lane other := by
  simp [RuntimeLaneManager.lane, insert, hOther]

/- A lane with an active task takes no other. -/
def startTask (workspaceId : WorkspaceId) (sessionId : SessionId) (taskId : TaskId)
    (turnId : TurnId) (activeController : Actor) (laneId : LaneId) (context : EventContext) :
    LaneStep :=
  if (manager.lane sessionId).any (·.status.isActive) then .error .activeTaskExists
  else
    let lane : RuntimeLane := {
      laneId, workspaceId, sessionId, taskId
      activeTurnId := some turnId
      activeController
      status := .running
      pendingTurns := []
      injectedInputs := []
      busyPolicyDefault := .append }
    .ok (⟨lane, laneEvent lane turnId context .taskCreated "runtime lane started task"⟩,
      manager.insert sessionId lane)

/- The event of a takeover also names both controllers. -/
def takeoverEvent (previous lane : RuntimeLane) (context : EventContext) : RuntimeEvent :=
  let turnId := lane.activeTurnId.getD context.newTurnId
  let event := laneEvent lane turnId context .controllerChanged "active runtime controller changed"
  { event with
    payload := (event.payload.set "previous_controller"
        (Actor.codec.encode previous.activeController)).set "active_controller"
        (Actor.codec.encode lane.activeController) }

variable (sessionId : SessionId)

/- The controller changes, and the task goes on. -/
def takeover (newController : Actor) (context : EventContext) : LaneStep :=
  match (manager.lane sessionId).filter (·.status.isActive) with
  | none => .error .laneNotFound
  | some previous =>
    let lane := { previous with activeController := newController }
    .ok (⟨lane, takeoverEvent previous lane context⟩, manager.insert sessionId lane)

/- The turn waits in the lane. -/
def queueTurn (turnId : TurnId) (context : EventContext) : LaneStep :=
  match manager.lane sessionId with
  | none => .error .laneNotFound
  | some previous =>
    let lane := { previous with pendingTurns := previous.pendingTurns ++ [turnId] }
    .ok (⟨lane, laneEvent lane turnId context .turnQueued
        "user turn queued on active runtime lane"⟩,
      manager.insert sessionId lane)

/- Check that a queued turn may start, and change nothing. -/
def prepareQueuedTurnStart (turnId : TurnId) : Except RuntimeLaneError LaneId :=
  match manager.lane sessionId with
  | none => .error .laneNotFound
  | some lane =>
    if turnId ∈ lane.pendingTurns then .ok lane.laneId
    else .error .queuedTurnNotPending

def commitQueuedTurnStart (laneId : LaneId) (turnId : TurnId) :
    Except RuntimeLaneError RuntimeLaneManager :=
  match (manager.lane sessionId).filter (·.laneId = laneId) with
  | none => .error .laneNotFound
  | some lane =>
    if turnId ∈ lane.pendingTurns then
      .ok (manager.insert sessionId { lane with
          pendingTurns := lane.pendingTurns.erase turnId
          activeTurnId := some turnId })
    else .error .queuedTurnNotPending

def discardQueuedTurn (turnId : TurnId) : Except RuntimeLaneError RuntimeLaneManager :=
  match manager.lane sessionId with
  | none => .error .laneNotFound
  | some lane =>
    .ok (manager.insert sessionId { lane with
        pendingTurns := lane.pendingTurns.filter (fun pending => pending ≠ turnId) })

def setStatus (status : TaskStatus) (context : EventContext) (eventType : RuntimeEventType) :
    LaneStep :=
  match manager.lane sessionId with
  | none => .error .laneNotFound
  | some previous =>
    let lane := { previous with status := status }
    let turnId := lane.activeTurnId.getD context.newTurnId
    .ok (⟨lane, laneEvent lane turnId context eventType "runtime lane status changed"⟩,
      manager.insert sessionId lane)

/- Change the status of a lane that has an allowed one. -/
def setStatusFrom (allowed : TaskStatus → Bool) (manager : RuntimeLaneManager)
    (sessionId : SessionId) (status : TaskStatus) (context : EventContext)
    (eventType : RuntimeEventType) : LaneStep :=
  if (manager.lane sessionId).any (fun lane => allowed lane.status) then
    manager.setStatus sessionId status context eventType
  else .error .laneNotFound

def abort (manager : RuntimeLaneManager) (sessionId : SessionId)
    (context : EventContext) : LaneStep :=
  setStatusFrom TaskStatus.isActive manager sessionId .aborting context .taskAbortRequested

/- The statuses that `pause` accepts. -/
def pausable : TaskStatus → Bool
| .running | .waitingApproval | .waitingAuthentication | .pausing => true
| _ => false

def pause (manager : RuntimeLaneManager) (sessionId : SessionId)
    (context : EventContext) : LaneStep :=
  setStatusFrom pausable manager sessionId .paused context .taskPaused

/- The statuses that `resume` accepts. -/
def resumable : TaskStatus → Bool
| .pausing => true
| .paused => true
| _ => false

def resume (context : EventContext) : LaneStep :=
  setStatusFrom resumable manager sessionId .running context .taskResumed

def finishTask (status : TaskStatus) (context : EventContext) : LaneStep :=
  setStatusFrom TaskStatus.isActive manager sessionId status context (.forTerminalStatus status)

variable (context : EventContext)

/- Unlike the others, this transition accepts any status. -/
def waitForAuthentication : LaneStep :=
  manager.setStatus sessionId .waitingAuthentication context .providerAuthRequired

def authenticationResolved : LaneStep :=
  setStatusFrom (fun status => status = .waitingAuthentication)
    manager sessionId .running context .providerAuthSubmitted

end RuntimeLaneManager

end GolutraAgent.Runtime
