import GolutraAgent.Protocol.Event

/-
  This file models the reducer of the store: how one event changes the state
  projection of its session.

  An event of a task that is not the active one changes the sequence number
  only. The task becomes active by its first event in a session without one, or
  when it is created, resumed or a turn of it starts.
-/

namespace GolutraAgent.Store

def maxProjectionVisibleSteps : Nat := 512

def initialProjection (sessionId : SessionId) : StateProjection where
  sessionId := sessionId
  activeTaskId := none
  taskStatus := .idle
  runtimeLane := none
  lastSequenceNo := 0
  visibleSteps := []
  pendingApproval := none
  finalMessage := none
  lastLoopDecision := none
  lastVerification := none

variable (event : RuntimeEvent)

/-
  The lane snapshot of an event, in its payload or in the runtime payload that a
  command wraps.
-/
def runtimeLaneFromEvent : Option RuntimeLane := ((event.payload.get "runtime_lane").or
    (event.payload.pointer ["runtime", "runtime_lane"])).bind RuntimeLane.decode

/- A record is the field `record`, or the whole payload. -/
def recordPayload : Json.Value := (event.payload.get "record").getD event.payload

def verificationFromEvent : Option VerificationRecord :=
  VerificationRecord.decode (recordPayload event)

def loopDecisionFromEvent : Option LoopDecision := LoopDecision.decode (recordPayload event)

/- What the event type does to the records of the task. -/
def applyEventType (projection : StateProjection) (event : RuntimeEvent) : StateProjection :=
  match event.eventType with
  | .taskCreated =>
    { projection with
      pendingApproval := none
      finalMessage := none
      lastLoopDecision := none
      lastVerification := none }
  | .turnStarted =>
    { projection with
      pendingApproval := none
      finalMessage := none }
  | .taskCompleted | .taskAborted | .taskInterrupted | .taskUncertain
  | .taskReconciled => { projection with pendingApproval := none }
  | .approvalRequested =>
    { projection with pendingApproval := (event.payload.get "approval_id").bind Json.Value.asStr }
  | .approvalResolved => { projection with pendingApproval := none }
  | .verificationCompleted => { projection with lastVerification := verificationFromEvent event }
  | .loopDecided => { projection with lastLoopDecision := loopDecisionFromEvent event }
  | .assistantMessage =>
    { projection with finalMessage := (event.payload.get "content").bind Json.Value.asStr }
  | _ => projection

/- The lane follows the status, and the turn that started. -/
def followLane (event : RuntimeEvent) (status : TaskStatus) (lane : RuntimeLane) : RuntimeLane :=
  if event.eventType = .turnStarted then
    { lane with status := status, activeTurnId := event.turnId }
  else { lane with status := status }

def visibleStep (projection : StateProjection) (event : RuntimeEvent) : VisibleStep where
  label := Text.debugName event.eventType
  status := projection.taskStatus.debugName
  summary := ((event.payload.get "summary").bind Json.Value.asStr).getD "runtime event recorded"

/- Only the latest steps are kept. -/
def trimSteps (steps : List VisibleStep) : List VisibleStep :=
  steps.drop (steps.length - maxProjectionVisibleSteps)

def applyEventToProjection (projection : StateProjection)
    (event : RuntimeEvent) : StateProjection :=
  let status := taskStatusAfterEvent projection.taskStatus event
  let lane := (runtimeLaneFromEvent event).or projection.runtimeLane
  let typed := applyEventType { projection with
      runtimeLane := lane
      taskStatus := status } event
  let followed := { typed with runtimeLane := typed.runtimeLane.map (followLane event status) }
  let steps :=
    if event.eventType.isUserProjectionFact then
      followed.visibleSteps ++ [visibleStep followed event]
    else followed.visibleSteps
  { followed with visibleSteps := trimSteps steps }

/- The event types that make their task the active one. -/
def activatesTask : RuntimeEventType → Bool
| .taskCreated | .taskResumed | .turnStarted => true
| _ => false

/- Make a task the active one. -/
def activate (projection : StateProjection) (taskId : TaskId) : StateProjection :=
  if projection.activeTaskId = some taskId then projection
  else
    { projection with
      activeTaskId := some taskId
      runtimeLane := none
      pendingApproval := none
      finalMessage := none
      lastLoopDecision := none
      lastVerification := none }

def applyEventToState (previous : StateProjection) (event : RuntimeEvent) : StateProjection :=
  let projection := { previous with lastSequenceNo := max previous.lastSequenceNo event.sequenceNo }
  match event.taskId with
  | none => applyEventToProjection projection event
  | some taskId =>
    let projection :=
      if projection.activeTaskId.isNone || activatesTask event.eventType then
        activate projection taskId
      else projection
    if projection.activeTaskId = some taskId then applyEventToProjection projection event
    else projection

/- The projection of a session from all its events. -/
def reduceState (sessionId : SessionId) (events : List RuntimeEvent) : StateProjection :=
  events.foldl applyEventToState (initialProjection sessionId)

section

variable (projection : StateProjection)

/- The records of the task are all that the type changes. -/
@[simp] theorem applyEventType_keeps :
    (applyEventType projection event).sessionId = projection.sessionId ∧
      (applyEventType projection event).activeTaskId = projection.activeTaskId ∧
      (applyEventType projection event).taskStatus = projection.taskStatus ∧
      (applyEventType projection event).runtimeLane = projection.runtimeLane ∧
      (applyEventType projection event).lastSequenceNo = projection.lastSequenceNo := by
  unfold applyEventType
  split <;> simp

/- The status follows every event, and the lane with it. -/
@[simp] theorem applyEventToProjection_fields :
    (applyEventToProjection projection event).activeTaskId = projection.activeTaskId ∧
      (applyEventToProjection projection event).taskStatus =
        taskStatusAfterEvent projection.taskStatus event ∧
      (applyEventToProjection projection event).runtimeLane =
        ((runtimeLaneFromEvent event).or projection.runtimeLane).map
          (followLane event (taskStatusAfterEvent projection.taskStatus event)) ∧
      (applyEventToProjection projection event).lastSequenceNo = projection.lastSequenceNo := by
  simp [applyEventToProjection]

variable (taskId : TaskId)

@[simp] theorem activate_activeTaskId :
    (activate projection taskId).activeTaskId = some taskId := by
  unfold activate
  split
  · assumption
  · rfl

@[simp] theorem activate_keeps :
    (activate projection taskId).taskStatus = projection.taskStatus ∧
      (activate projection taskId).lastSequenceNo = projection.lastSequenceNo := by
  unfold activate
  split <;> simp

end

/- An event reaches the projection of its task. -/
def Reaches (projection : StateProjection) (event : RuntimeEvent) (taskId : TaskId) : Prop :=
  projection.activeTaskId = some taskId ∨ projection.activeTaskId = none ∨
    activatesTask event.eventType = true

section

variable {projection : StateProjection} {event : RuntimeEvent} {taskId : TaskId}

/- The active task and its status after such an event. -/
theorem applyEventToState_reaches (hTask : event.taskId = some taskId)
    (hReaches : Reaches projection event taskId) :
    (applyEventToState projection event).activeTaskId = some taskId ∧
      (applyEventToState projection event).taskStatus =
        taskStatusAfterEvent projection.taskStatus event := by
  rcases hReaches with hActive | hNone | hType
  · by_cases hType : activatesTask event.eventType = true
    · simp [applyEventToState, hTask, hType]
    · simp [applyEventToState, hTask, hType, hActive]
  · simp [applyEventToState, hTask, hNone]
  · simp [applyEventToState, hTask, hType]

/- Other events of tasks change the sequence number only. -/
theorem applyEventToState_of_not_reaches (hTask : event.taskId = some taskId)
    (hReaches : ¬ Reaches projection event taskId) :
    applyEventToState projection event = { projection with
        lastSequenceNo := max projection.lastSequenceNo event.sequenceNo } := by
  unfold Reaches at hReaches
  push Not at hReaches
  obtain ⟨hActive, hSome, hType⟩ := hReaches
  simp [applyEventToState, hTask, hType, hSome, hActive]

/- An event without a task leaves the active task. -/
theorem applyEventToState_activeTaskId_none (hTask : event.taskId = none) :
    (applyEventToState projection event).activeTaskId = projection.activeTaskId := by
  simp [applyEventToState, hTask]

theorem applyEventToState_taskStatus_none (hTask : event.taskId = none) :
    (applyEventToState projection event).taskStatus =
      taskStatusAfterEvent projection.taskStatus event := by
  simp [applyEventToState, hTask]

/- A snapshot in the event replaces the lane. -/
theorem applyEventToState_runtimeLane {lane : RuntimeLane} (hTask : event.taskId = some taskId)
    (hReaches : Reaches projection event taskId) (hLane : runtimeLaneFromEvent event = some lane) :
    (applyEventToState projection event).runtimeLane =
      some (followLane event (taskStatusAfterEvent projection.taskStatus event) lane) := by
  rcases hReaches with hActive | hNone | hType
  · by_cases hType : activatesTask event.eventType = true
    · simp [applyEventToState, hTask, hType, hLane]
    · simp [applyEventToState, hTask, hType, hActive, hLane]
  · simp [applyEventToState, hTask, hNone, hLane]
  · simp [applyEventToState, hTask, hType, hLane]

/- Without a snapshot the lane of the active task stays. -/
theorem applyEventToState_runtimeLane_kept (hTask : event.taskId = some taskId)
    (hActive : projection.activeTaskId = some taskId) (hLane : runtimeLaneFromEvent event = none) :
    (applyEventToState projection event).runtimeLane =
      projection.runtimeLane.map (followLane event (taskStatusAfterEvent
          projection.taskStatus event)) := by
  by_cases hType : activatesTask event.eventType = true
  · simp [applyEventToState, hTask, hLane, activate, hActive]
  · simp [applyEventToState, hTask, hType, hLane, hActive]

end

theorem reduceState_append (sessionId : SessionId)
    (events : List RuntimeEvent) (event : RuntimeEvent) :
    reduceState sessionId (events ++ [event]) =
      applyEventToState (reduceState sessionId events) event := by
  simp [reduceState]

end GolutraAgent.Store
