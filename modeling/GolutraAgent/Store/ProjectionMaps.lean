import GolutraAgent.Store.Projection

/-
  This file compares the projections of two logs whose events correspond, one to
  one. A map of projections says what is done to the identifiers, the texts, the
  lane and the records of a state; if each event of the one log is read as the
  mapped event of the other, the projections correspond too, up to their
  sequence numbers.
-/

namespace GolutraAgent.Store

structure ProjectionMap where
  session : SessionId → SessionId
  task : TaskId → TaskId
  task_injective : Function.Injective task
  text : String → String
  lane : RuntimeLane → RuntimeLane
  decision : LoopDecision → LoopDecision
  verification : VerificationRecord → VerificationRecord

namespace ProjectionMap

variable (m : ProjectionMap)

def step (visible : VisibleStep) : VisibleStep := { visible with summary := m.text visible.summary }

def apply (projection : StateProjection) : StateProjection where
  sessionId := m.session projection.sessionId
  activeTaskId := projection.activeTaskId.map m.task
  taskStatus := projection.taskStatus
  runtimeLane := projection.runtimeLane.map m.lane
  lastSequenceNo := projection.lastSequenceNo
  visibleSteps := projection.visibleSteps.map m.step
  pendingApproval := projection.pendingApproval.map m.text
  finalMessage := projection.finalMessage.map m.text
  lastLoopDecision := projection.lastLoopDecision.map m.decision
  lastVerification := projection.lastVerification.map m.verification

/- The text of a field of the payload. -/
def textOf (event : RuntimeEvent) (key : String) : Option String :=
  (event.payload.get key).bind Json.Value.asStr

/- What the reducer reads of the one event is mapped. -/
structure Maps (event event' : RuntimeEvent) : Prop where
  eventType : event'.eventType = event.eventType
  taskId : event'.taskId = event.taskId.map m.task
  status : eventTaskStatus event' = eventTaskStatus event
  lane : runtimeLaneFromEvent event' = (runtimeLaneFromEvent event).map m.lane
  follow : ∀ status lane, followLane event' status (m.lane lane) =
      m.lane (followLane event status lane)
  approval : textOf event' "approval_id" = (textOf event "approval_id").map m.text
  content : textOf event' "content" = (textOf event "content").map m.text
  summary : (textOf event' "summary").getD "runtime event recorded" =
      m.text ((textOf event "summary").getD "runtime event recorded")
  decision : loopDecisionFromEvent event' = (loopDecisionFromEvent event).map m.decision
  verification : verificationFromEvent event' = (verificationFromEvent event).map m.verification

variable {m} {event event' : RuntimeEvent}

section

variable (hMaps : m.Maps event event')
include hMaps

/- The reducer reads no number here. -/
theorem Maps.renumbered (sequenceNo : Nat) : m.Maps event { event' with sequenceNo } where
  eventType := hMaps.eventType
  taskId := hMaps.taskId
  status := hMaps.status
  lane := hMaps.lane
  follow := hMaps.follow
  approval := hMaps.approval
  content := hMaps.content
  summary := hMaps.summary
  decision := hMaps.decision
  verification := hMaps.verification

theorem Maps.taskStatus (current : TaskStatus) :
    taskStatusAfterEvent current event' = taskStatusAfterEvent current event := by
  unfold taskStatusAfterEvent
  rw [hMaps.eventType, hMaps.status]

theorem Maps.applyEventType (projection : StateProjection) :
    Store.applyEventType (m.apply projection) event' =
      m.apply (Store.applyEventType projection event) := by
  unfold Store.applyEventType
  rw [hMaps.eventType]
  cases event.eventType with
  | approvalRequested =>
    have hText := hMaps.approval
    unfold textOf at hText
    simp only [hText]
    rfl
  | assistantMessage =>
    have hText := hMaps.content
    unfold textOf at hText
    simp only [hText]
    rfl
  | verificationCompleted =>
    simp only [hMaps.verification]
    rfl
  | loopDecided =>
    simp only [hMaps.decision]
    rfl
  | _ => rfl

variable {projection projection' : StateProjection}

theorem Maps.visibleStep (hStatus : projection'.taskStatus = projection.taskStatus) :
    Store.visibleStep projection' event' = m.step (Store.visibleStep projection event) := by
  have hSummary := hMaps.summary
  unfold textOf at hSummary
  simp only [Store.visibleStep, hMaps.eventType, hStatus, hSummary]
  rfl

end

theorem trimSteps_map (steps : List VisibleStep) :
    trimSteps (steps.map m.step) = (trimSteps steps).map m.step := by
  simp [trimSteps]

theorem activate_map (projection : StateProjection) (taskId : TaskId) :
    activate (m.apply projection) (m.task taskId) = m.apply (activate projection taskId) := by
  unfold activate
  by_cases hActive : projection.activeTaskId = some taskId
  · have hMapped : (m.apply projection).activeTaskId = some (m.task taskId) := by
      simp [apply, hActive]
    rw [if_pos hActive, if_pos hMapped]
  · have hMapped : (m.apply projection).activeTaskId ≠ some (m.task taskId) := by
      intro hSome
      obtain ⟨other, hOther, hSame⟩ := Option.map_eq_some_iff.1 hSome
      exact hActive (hOther.trans (congrArg some (m.task_injective hSame)))
    rw [if_neg hActive, if_neg hMapped]
    rfl

theorem Maps.applyEventToProjection (hMaps : m.Maps event event') (projection : StateProjection) :
    Store.applyEventToProjection (m.apply projection) event' = m.apply
        (Store.applyEventToProjection projection event) := by
  have hStatus : taskStatusAfterEvent
      (m.apply projection).taskStatus event' = taskStatusAfterEvent projection.taskStatus event :=
    hMaps.taskStatus projection.taskStatus
  have hLane : (runtimeLaneFromEvent event').or
      (m.apply projection).runtimeLane = ((runtimeLaneFromEvent event).or
          projection.runtimeLane).map m.lane := by
    rw [hMaps.lane]
    cases runtimeLaneFromEvent event <;> rfl
  unfold Store.applyEventToProjection
  simp only [hStatus, hLane, hMaps.eventType]
  have hTyped := hMaps.applyEventType { projection with
      runtimeLane := (runtimeLaneFromEvent event).or projection.runtimeLane
      taskStatus := taskStatusAfterEvent projection.taskStatus event }
  generalize hBase : Store.applyEventType { projection with
      runtimeLane := (runtimeLaneFromEvent event).or projection.runtimeLane
      taskStatus := taskStatusAfterEvent projection.taskStatus event } event = typed
  rw [hBase] at hTyped
  have hTyped' : Store.applyEventType { m.apply projection with
        runtimeLane := ((runtimeLaneFromEvent event).or projection.runtimeLane).map m.lane
        taskStatus := taskStatusAfterEvent projection.taskStatus event } event' =
        m.apply typed := hTyped
  rw [hTyped']
  have hFollow : ∀ status, (m.apply typed).runtimeLane.map
        (followLane event' status) = (typed.runtimeLane.map
            (followLane event status)).map m.lane := by
    intro status
    simp only [apply, Option.map_map]
    congr 1
    funext lane
    exact hMaps.follow status lane
  simp only [hFollow]
  split
  · have hStep := hMaps.visibleStep (show ({ m.apply typed with
          runtimeLane := (typed.runtimeLane.map (followLane
            event (taskStatusAfterEvent projection.taskStatus event))).map m.lane } :
          StateProjection).taskStatus =
        ({ typed with
          runtimeLane := typed.runtimeLane.map (followLane
            event (taskStatusAfterEvent projection.taskStatus
              event)) } : StateProjection).taskStatus from rfl)
    rw [hStep]
    simp [apply, ← trimSteps_map]
  · simp [apply, trimSteps_map]

variable (sequenceNo : Nat)

/- A state with another sequence number. -/
def numbered (projection : StateProjection) : StateProjection :=
  { projection with lastSequenceNo := sequenceNo }

theorem applyEventType_numbered (projection : StateProjection) (event : RuntimeEvent) :
    Store.applyEventType (numbered sequenceNo projection) event = numbered sequenceNo
        (Store.applyEventType projection event) := by
  unfold Store.applyEventType
  split <;> rfl

theorem applyEventToProjection_numbered (projection : StateProjection) (event : RuntimeEvent) :
    Store.applyEventToProjection (numbered sequenceNo projection) event = numbered sequenceNo
        (Store.applyEventToProjection projection event) := by
  have hTyped := applyEventType_numbered sequenceNo { projection with
      runtimeLane := (runtimeLaneFromEvent event).or projection.runtimeLane
      taskStatus := taskStatusAfterEvent projection.taskStatus event } event
  unfold numbered at hTyped
  unfold Store.applyEventToProjection numbered
  simp only [hTyped]
  rfl

theorem activate_numbered (projection : StateProjection) (taskId : TaskId) :
    activate (numbered sequenceNo projection) taskId =
      numbered sequenceNo (activate projection taskId) := by
  unfold activate numbered
  split <;> rfl

/- The task of an event, made the active one if it has to. -/
def activated (projection : StateProjection) (event : RuntimeEvent)
    (taskId : TaskId) : StateProjection :=
  if projection.activeTaskId.isNone || activatesTask event.eventType then activate projection taskId
  else projection

/- What an event changes but the sequence number. -/
def reduced (projection : StateProjection) (event : RuntimeEvent) : StateProjection :=
  match event.taskId with
  | none => Store.applyEventToProjection projection event
  | some taskId =>
    if (activated projection event taskId).activeTaskId = some taskId then
      Store.applyEventToProjection (activated projection event taskId) event
    else activated projection event taskId

theorem applyEventToState_eq (projection : StateProjection) (event : RuntimeEvent) :
    applyEventToState projection event = reduced (numbered (max projection.lastSequenceNo
        event.sequenceNo) projection) event := by
  cases event.taskId <;> rfl

theorem activated_numbered (sequenceNo : Nat) (projection : StateProjection)
    (event : RuntimeEvent) (taskId : TaskId) :
    activated (numbered sequenceNo projection) event taskId = numbered sequenceNo
        (activated projection event taskId) := by
  unfold activated
  rw [activate_numbered]
  change (if projection.activeTaskId.isNone || activatesTask event.eventType then _ else _) = _
  split <;> rfl

theorem reduced_numbered (sequenceNo : Nat) (projection : StateProjection) (event : RuntimeEvent) :
    reduced (numbered sequenceNo projection) event =
      numbered sequenceNo (reduced projection event) := by
  unfold reduced
  cases event.taskId with
  | none => exact applyEventToProjection_numbered _ _ _
  | some taskId =>
    simp only [activated_numbered, applyEventToProjection_numbered]
    change (if (activated projection event taskId).activeTaskId = some taskId then _ else _) = _
    split <;> rfl

theorem activated_map (hMaps : m.Maps event event')
    (projection : StateProjection) (taskId : TaskId) :
    activated (m.apply projection) event' (m.task taskId) =
      m.apply (activated projection event taskId) := by
  unfold activated
  rw [activate_map, hMaps.eventType]
  have hNone : (m.apply projection).activeTaskId.isNone = projection.activeTaskId.isNone := by
    simp [apply]
  rw [hNone]
  split <;> rfl

theorem reduced_map (hMaps : m.Maps event event') (projection : StateProjection) :
    reduced (m.apply projection) event' = m.apply (reduced projection event) := by
  unfold reduced
  rw [hMaps.taskId]
  cases event.taskId with
  | none => exact hMaps.applyEventToProjection projection
  | some taskId =>
    simp only [Option.map_some, activated_map hMaps]
    generalize activated projection event taskId = active
    have hActive : (m.apply active).activeTaskId =
        some (m.task taskId) ↔ active.activeTaskId = some taskId := by
      simp only [apply, Option.map_eq_some_iff]
      constructor
      · rintro ⟨other, hOther, hSame⟩
        rw [hOther, m.task_injective hSame]
      · intro hSome
        exact ⟨taskId, hSome, rfl⟩
    simp only [hActive]
    split
    · exact hMaps.applyEventToProjection active
    · rfl

/- One event keeps the correspondence of two states. -/
theorem applyEventToState_map (hMaps : m.Maps event event')
    (hSame : numbered 0 projection' = numbered 0 (m.apply projection)) :
    numbered 0 (applyEventToState projection' event') = numbered 0
        (m.apply (applyEventToState projection event)) := by
  have hState : projection' = numbered projection'.lastSequenceNo (m.apply projection) := by
    have hBack := congrArg (numbered projection'.lastSequenceNo) hSame
    exact hBack
  rw [applyEventToState_eq, applyEventToState_eq, hState,
    reduced_numbered, reduced_numbered, reduced_numbered, reduced_map hMaps]
  rfl

variable {events events' : List RuntimeEvent}

theorem foldl_map (hMaps : List.Forall₂ m.Maps events events')
    (hSame : numbered 0 projection' = numbered 0 (m.apply projection)) :
    numbered 0 (events'.foldl applyEventToState projection') = numbered 0 (m.apply
        (events.foldl applyEventToState projection)) := by
  induction hMaps generalizing projection projection' with
  | nil => exact hSame
  | cons hHead _ ih => exact ih (applyEventToState_map hHead hSame)

/- Logs that correspond have projections that do. -/
theorem reduceState_map (hMaps : List.Forall₂ m.Maps events events') (sessionId : SessionId) :
    numbered 0 (reduceState (m.session sessionId) events') = numbered 0
        (m.apply (reduceState sessionId events)) :=
  foldl_map hMaps rfl

end ProjectionMap

end GolutraAgent.Store
