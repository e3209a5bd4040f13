import GolutraAgent.Client.Host
import GolutraAgent.Runtime.LaneLifecycle

/-
  This file compares two state machines that describe the same task: the lane
  that the manager holds in memory, and the projection that the store folds from
  the recorded events.

  The event of a transition carries a snapshot of the lane, and the two agree
  after it. The event that starts a queued turn carries none: the projection
  marks the turn active and keeps it among the pending turns, while the manager
  removes it from them. The two agree throughout exactly the runs that start no
  queued turn.

  Main declarations:
    * `RecordedSession.startQueuedTurn_disagrees`
    * `RecordedSession.agreesThroughout_iff`
-/

namespace GolutraAgent.Client

open GolutraAgent.Runtime Store
open RuntimeLaneManager Recording

structure RecordedSession where
  manager : RuntimeLaneManager
  log : List RuntimeEvent

/-
  The operations of the client on the lane of its session, each with what the
  recorded event takes from the outside.
-/
inductive SessionOp
| startTask (workspaceId : WorkspaceId) (taskId : TaskId) (turnId : TurnId)
    (activeController : Actor) (laneId : LaneId) (context : EventContext) (recording : Recording)
| takeover (newController : Actor) (context : EventContext) (recording : Recording)
| queueTurn (turnId : TurnId) (context : EventContext) (recording : Recording)
| startQueuedTurn (turnId : TurnId) (commandId : CommandId) (prompt : String) (steer : Bool)
    (surface : Option (Json.Value × Json.Value)) (context : EventContext)
| cancelQueuedTurn (actor : Actor) (turnId : TurnId) (commandId : CommandId)
    (context : EventContext)
| abort (context : EventContext) (recording : Recording)
| pause (context : EventContext) (recording : Recording)
| resume (context : EventContext) (recording : Recording)
| finishTask (status : TaskStatus) (context : EventContext) (edits : PayloadEdits)
| waitForAuthentication (context : EventContext) (edits : PayloadEdits)
| authenticationResolved (context : EventContext) (edits : PayloadEdits)

namespace RecordedSession

def new : RecordedSession := ⟨.new, []⟩

variable (s : RecordedSession)

/- A transition that succeeds is recorded. -/
def record (recording : Recording) (result : LaneStep) : RecordedSession :=
  match result with
  | .error _ => s
  | .ok (transition, manager) => ⟨manager, s.log ++ [recording.apply transition.event]⟩

/-
  A queued turn starts in three steps: the manager is asked, the event is
  recorded, and the manager is changed.
-/
def startQueuedTurn (sessionId : SessionId) (turnId : TurnId) (commandId : CommandId)
    (prompt : String) (steer : Bool) (surface : Option (Json.Value × Json.Value))
    (context : EventContext) : RecordedSession :=
  match s.manager.prepareQueuedTurnStart sessionId turnId, s.manager.lane sessionId with
  | .ok laneId, some lane =>
    ⟨s.manager.afterSilent (s.manager.commitQueuedTurnStart sessionId laneId turnId),
      s.log ++ [turnStartedEvent context sessionId lane.taskId turnId commandId prompt steer
        surface]⟩
  | _, _ => s

/-
  The controller of an active lane cancels a queued turn: the event with the
  lane that results is recorded first.
-/
def cancelQueuedTurn (sessionId : SessionId) (actor : Actor) (turnId : TurnId)
    (commandId : CommandId) (context : EventContext) : RecordedSession :=
  match (s.manager.lane sessionId).filter (fun lane => lane.status.isActive &&
        lane.activeController = actor) with
  | none => s
  | some lane =>
    let lane :=
      { lane with pendingTurns := lane.pendingTurns.filter (fun pending => pending ≠ turnId) }
    ⟨s.manager.afterSilent (s.manager.discardQueuedTurn sessionId turnId),
      s.log ++ [turnCancelledEvent context sessionId lane turnId commandId]⟩

def step (sessionId : SessionId) (s : RecordedSession) : SessionOp → RecordedSession
| .startTask workspaceId taskId turnId activeController laneId context recording =>
  s.record recording (s.manager.startTask workspaceId
    sessionId taskId turnId activeController laneId context)
| .takeover newController context recording =>
  s.record recording (s.manager.takeover sessionId newController context)
| .queueTurn turnId context recording =>
  s.record recording (s.manager.queueTurn sessionId turnId context)
| .startQueuedTurn turnId commandId prompt steer surface context =>
  s.startQueuedTurn sessionId turnId commandId prompt steer surface context
| .cancelQueuedTurn actor turnId commandId context =>
  s.cancelQueuedTurn sessionId actor turnId commandId context
| .abort context recording => s.record recording (s.manager.abort sessionId context)
| .pause context recording => s.record recording (s.manager.pause sessionId context)
| .resume context recording => s.record recording (s.manager.resume sessionId context)
| .finishTask status context edits =>
  s.record (.edited edits) (s.manager.finishTask sessionId status context)
| .waitForAuthentication context edits =>
  s.record (.edited edits) (s.manager.waitForAuthentication sessionId context)
| .authenticationResolved context edits =>
  s.record (.edited edits) (s.manager.authenticationResolved sessionId context)

/- The projection that the log gives. -/
def projection (s : RecordedSession) (sessionId : SessionId) : StateProjection :=
  reduceState sessionId s.log

/- The projection describes the lane that the manager holds. -/
structure Agrees (sessionId : SessionId) (s : RecordedSession) : Prop where
  activeTaskId :
    (s.projection sessionId).activeTaskId = (s.manager.lane sessionId).map RuntimeLane.taskId
  taskStatus : (s.projection sessionId).taskStatus = ((s.manager.lane sessionId).map
        RuntimeLane.status).getD .idle
  runtimeLane : (s.projection sessionId).runtimeLane = s.manager.lane sessionId

/- The operation does not succeed in starting a queued turn. -/
def StartsNoQueuedTurn (sessionId : SessionId) (s : RecordedSession) : SessionOp → Prop
| .startQueuedTurn turnId _ _ _ _ _ =>
  ∀ laneId, s.manager.prepareQueuedTurnStart sessionId turnId ≠ .ok laneId
| _ => True

end RecordedSession

variable (recording : Recording)

/- The event carries the lane, however it is recorded. -/
theorem runtimeLaneFromEvent_recorded {event : RuntimeEvent} {lane : RuntimeLane} (hPayload :
      event.payload.get "runtime_lane" = some lane.encode) :
    runtimeLaneFromEvent (recording.apply event) = some lane := by
  cases recording with
  | edited edits => simp [runtimeLaneFromEvent, apply, edits.get_runtimeLane, hPayload]
  | command commandId runtimeIdentity payload =>
    simp [runtimeLaneFromEvent, apply,
      withCommandPayload, Json.lookup, Json.Value.pointer, hPayload]

@[simp] theorem Recording.apply_taskId (event : RuntimeEvent) :
    (recording.apply event).taskId = event.taskId := by
  cases recording <;> rfl

@[simp] theorem Recording.apply_eventType (event : RuntimeEvent) :
    (recording.apply event).eventType = event.eventType := by
  cases recording <;> rfl

theorem laneEvent_runtimeLane (lane : RuntimeLane) (turnId : TurnId) (context : EventContext)
    (eventType : RuntimeEventType) (summary : String) :
    (laneEvent lane turnId context eventType summary).payload.get "runtime_lane" =
      some lane.encode := by
  simp [laneEvent, Json.lookup]

theorem takeoverEvent_runtimeLane (previous lane : RuntimeLane) (context : EventContext) :
    (RuntimeLaneManager.takeoverEvent previous lane context).payload.get "runtime_lane" =
      some lane.encode := by
  simp [takeoverEvent, laneEvent, Json.Value.set, Json.insert, Json.lookup]

namespace RecordedSession

variable {s : RecordedSession} {sessionId : SessionId} {lane : RuntimeLane}

theorem agrees_new (sessionId : SessionId) : Agrees sessionId new := ⟨rfl, rfl, rfl⟩

theorem Agrees.activeTaskId_of_lane (hAgrees : Agrees sessionId s)
    (hLane : s.manager.lane sessionId = some lane) :
    (s.projection sessionId).activeTaskId = some lane.taskId := by
  rw [hAgrees.activeTaskId, hLane]
  rfl

theorem Agrees.taskStatus_of_lane (hAgrees : Agrees sessionId s)
    (hLane : s.manager.lane sessionId = some lane) :
    (s.projection sessionId).taskStatus = lane.status := by
  rw [hAgrees.taskStatus, hLane]
  rfl

/-
  Recording an event with a snapshot of the new lane keeps the agreement, if the
  reducer gives the lane the same status.
-/
theorem agrees_of_snapshot {manager : RuntimeLaneManager} {event : RuntimeEvent}
    (hLane : manager.lane sessionId = some lane) (hTask : event.taskId = some lane.taskId)
    (hSnapshot : runtimeLaneFromEvent event = some lane)
    (hReaches : Reaches (s.projection sessionId) event lane.taskId)
    (hStarted : event.eventType ≠ .turnStarted)
    (hStatus : taskStatusAfterEvent (s.projection sessionId).taskStatus event = lane.status) :
    Agrees sessionId ⟨manager, s.log ++ [event]⟩ := by
  have hFold : projection ⟨manager, s.log ++ [event]⟩
      sessionId = applyEventToState (s.projection sessionId) event :=
    reduceState_append sessionId s.log event
  constructor
  · rw [hFold, hLane, (applyEventToState_reaches hTask hReaches).1]
    rfl
  · rw [hFold, hLane, (applyEventToState_reaches hTask hReaches).2, hStatus]
    rfl
  · rw [hFold, hLane, applyEventToState_runtimeLane hTask hReaches hSnapshot, hStatus]
    simp [followLane, hStarted]

/- A change of status keeps the agreement. -/
theorem setStatus_agrees (hAgrees : Agrees sessionId s)
    (recording : Recording) (status : TaskStatus) (context : EventContext)
    (eventType : RuntimeEventType) (hStarted : eventType ≠ .turnStarted)
    (hStatus : ∀ lane turnId, s.manager.lane sessionId = some lane →
        taskStatusAfterEvent lane.status (recording.apply (laneEvent
            { lane with status := status } turnId context
            eventType "runtime lane status changed")) =
          status) :
    Agrees sessionId (s.record recording (s.manager.setStatus sessionId status context
        eventType)) := by
  unfold setStatus
  cases hLane : s.manager.lane sessionId with
  | none => exact hAgrees
  | some previous =>
    apply agrees_of_snapshot (s.manager.lane_insert_self sessionId _)
    · rw [apply_taskId]
      rfl
    · exact runtimeLaneFromEvent_recorded recording (laneEvent_runtimeLane _ _ _ _ _)
    · have hActive := hAgrees.activeTaskId_of_lane hLane
      exact .inl hActive
    · rw [apply_eventType]
      exact hStarted
    · rw [hAgrees.taskStatus_of_lane hLane]
      exact hStatus previous _ hLane

theorem setStatusFrom_agrees (hAgrees : Agrees sessionId s) (allowed : TaskStatus → Bool)
    (recording : Recording) (status : TaskStatus) (context : EventContext)
    (eventType : RuntimeEventType) (hStarted : eventType ≠ .turnStarted)
    (hStatus : ∀ lane turnId, s.manager.lane sessionId = some lane →
      allowed lane.status = true → taskStatusAfterEvent lane.status (recording.apply (laneEvent
            { lane with status := status } turnId context
            eventType "runtime lane status changed")) =
          status) :
    Agrees sessionId (s.record recording (setStatusFrom allowed s.manager
        sessionId status context eventType)) := by
  unfold setStatusFrom
  split
  · rename_i hAny
    apply setStatus_agrees hAgrees recording status context eventType hStarted
    intro lane turnId hLane
    apply hStatus lane turnId hLane
    simpa [hLane] using hAny
  · exact hAgrees

/- The status of a finished task is read from its event. -/
theorem taskStatusAfterEvent_finish {event : RuntimeEvent} {status : TaskStatus}
    (hType : event.eventType = .forTerminalStatus status)
    (hRead : eventTaskStatus event = some status) (current : TaskStatus) :
    taskStatusAfterEvent current event = status := by
  unfold taskStatusAfterEvent
  rw [hType]
  cases status <;> simp [RuntimeEventType.forTerminalStatus, hRead]

/- Every operation that starts no queued turn keeps it. -/
theorem step_agrees (hAgrees : Agrees sessionId s) {op : SessionOp}
    (hStarts : StartsNoQueuedTurn sessionId s op) : Agrees sessionId (step sessionId s op) := by
  cases op with
  | startTask workspaceId taskId turnId actor laneId context recording =>
    simp only [step, startTask]
    split
    · exact hAgrees
    -- the recorded event carries the lane that the manager holds
    · apply agrees_of_snapshot (s.manager.lane_insert_self sessionId _)
      · rw [apply_taskId]
        rfl
      · exact runtimeLaneFromEvent_recorded recording (laneEvent_runtimeLane _ _ _ _ _)
      · refine .inr (.inr ?_)
        rw [apply_eventType]
        rfl
      · simp [laneEvent]
      · simp [taskStatusAfterEvent, laneEvent]
  | takeover newController context recording =>
    simp only [step, takeover]
    cases hLane : s.manager.lane sessionId with
    | none => exact hAgrees
    | some previous =>
      by_cases hActive : previous.status.isActive = true
      · simp only [Option.filter_some, hActive]
        apply agrees_of_snapshot (s.manager.lane_insert_self sessionId _)
        · rw [apply_taskId]
          rfl
        · exact runtimeLaneFromEvent_recorded recording (takeoverEvent_runtimeLane _ _ _)
        · have hTask := hAgrees.activeTaskId_of_lane hLane
          exact .inl hTask
        · simp [takeoverEvent, laneEvent]
        · rw [hAgrees.taskStatus_of_lane hLane]
          simp [taskStatusAfterEvent, takeoverEvent, laneEvent]
      · simpa [Option.filter_some, hActive, record] using hAgrees
  | queueTurn turnId context recording =>
    simp only [step, queueTurn]
    cases hLane : s.manager.lane sessionId with
    | none => exact hAgrees
    | some previous =>
      apply agrees_of_snapshot (s.manager.lane_insert_self sessionId _)
      · rw [apply_taskId]
        rfl
      · exact runtimeLaneFromEvent_recorded recording (laneEvent_runtimeLane _ _ _ _ _)
      · have hTask := hAgrees.activeTaskId_of_lane hLane
        exact .inl hTask
      · simp [laneEvent]
      · rw [hAgrees.taskStatus_of_lane hLane]
        simp [taskStatusAfterEvent, laneEvent]
  | startQueuedTurn turnId commandId prompt steer surface context =>
    simp only [step, startQueuedTurn]
    split
    · next laneId lane hPrepare hLane => exact absurd hPrepare (hStarts laneId)
    · exact hAgrees
  | cancelQueuedTurn actor turnId commandId context =>
    simp only [step, cancelQueuedTurn]
    split
    · exact hAgrees
    · rename_i lane hFilter
      have hLane : s.manager.lane sessionId = some lane := by
        exact (Option.filter_eq_some_iff.1 hFilter).1
      simp only [discardQueuedTurn, hLane]
      apply agrees_of_snapshot (s.manager.lane_insert_self sessionId _)
      · rfl
      · simp [runtimeLaneFromEvent, turnCancelledEvent, hostEvent, Json.lookup]
      · have hTask := hAgrees.activeTaskId_of_lane hLane
        exact .inl hTask
      · simp [turnCancelledEvent, hostEvent]
      · rw [hAgrees.taskStatus_of_lane hLane]
        simp [taskStatusAfterEvent, turnCancelledEvent, hostEvent]
  | abort context recording | pause context recording
  | resume context recording =>
    apply setStatusFrom_agrees hAgrees _ recording _ context
    · simp
    · simp [taskStatusAfterEvent, laneEvent]
  | finishTask status context edits =>
    apply setStatusFrom_agrees hAgrees _ _ _ context
    · cases status <;> simp [RuntimeEventType.forTerminalStatus]
    · intro lane turnId hLane hAllowed
      apply taskStatusAfterEvent_finish
      · rfl
      · unfold eventTaskStatus
        rw [apply, edits.get_status]
        simp [laneEvent, Json.lookup]
  | waitForAuthentication context edits =>
    apply setStatus_agrees hAgrees _ _ context
    · simp
    · simp [taskStatusAfterEvent, laneEvent]
  | authenticationResolved context edits =>
    apply setStatusFrom_agrees hAgrees _ _ _ context
    · simp
    · intro lane turnId hLane hAllowed
      have hWaiting : lane.status = .waitingAuthentication := by
        simpa using hAllowed
      simp [taskStatusAfterEvent, laneEvent, hWaiting]

/- The event that starts a queued turn has no snapshot. -/
theorem runtimeLaneFromEvent_turnStarted (context : EventContext) (taskId : TaskId)
    (turnId : TurnId) (commandId : CommandId) (prompt : String) (steer : Bool)
    (surface : Option (Json.Value × Json.Value)) :
    runtimeLaneFromEvent (turnStartedEvent context sessionId
      taskId turnId commandId prompt steer surface) = none := by
  cases surface <;> simp [runtimeLaneFromEvent, turnStartedEvent, hostEvent,
      Json.lookup, Json.Value.pointer]

section

variable {turnId : TurnId} {laneId : LaneId}
variable (commandId : CommandId) (prompt : String) (steer : Bool)
variable (surface : Option (Json.Value × Json.Value)) (context : EventContext)

/- A turn that may start is pending on the lane. -/
theorem pending_of_prepare
    (hPrepare : s.manager.prepareQueuedTurnStart sessionId turnId = .ok laneId) :
    ∃ lane, s.manager.lane sessionId = some lane ∧
      turnId ∈ lane.pendingTurns ∧ laneId = lane.laneId := by
  unfold prepareQueuedTurnStart at hPrepare
  split at hPrepare
  · cases hPrepare
  · rename_i lane hLane
    split at hPrepare
    · rename_i hPending
      cases hPrepare
      exact ⟨lane, hLane, hPending, rfl⟩
    · cases hPrepare

/- The projection keeps the turn among the pending ones. -/
theorem startQueuedTurn_projection (hAgrees : Agrees sessionId s)
    (hLane : s.manager.lane sessionId = some lane) (hPending : turnId ∈ lane.pendingTurns) :
    ((s.startQueuedTurn sessionId turnId commandId prompt
        steer surface context).projection sessionId).runtimeLane.map RuntimeLane.pendingTurns =
      some lane.pendingTurns := by
  have hTask : (turnStartedEvent context sessionId lane.taskId
      turnId commandId prompt steer surface).taskId = some lane.taskId := rfl
  have hKept := applyEventToState_runtimeLane_kept hTask (hAgrees.activeTaskId_of_lane hLane)
    (runtimeLaneFromEvent_turnStarted _ _ _ _ _ _ _)
  simp only [startQueuedTurn, hLane, hPending, prepareQueuedTurnStart, if_true]
  rw [projection, reduceState_append, ← projection, hKept, hAgrees.runtimeLane, hLane]
  simp [followLane, turnStartedEvent, hostEvent]

/- The manager takes it out. -/
theorem startQueuedTurn_manager (hLane : s.manager.lane sessionId = some lane)
    (hPending : turnId ∈ lane.pendingTurns) : ((s.startQueuedTurn sessionId turnId commandId prompt
        steer surface context).manager.lane sessionId).map RuntimeLane.pendingTurns =
      some (lane.pendingTurns.erase turnId) := by
  simp [startQueuedTurn, hLane, hPending, prepareQueuedTurnStart,
    commitQueuedTurnStart, afterSilent, Option.filter_some]

/- So the two disagree once a queued turn has started. -/
theorem startQueuedTurn_disagrees (hAgrees : Agrees sessionId s)
    (hPrepare : s.manager.prepareQueuedTurnStart sessionId turnId = .ok laneId) :
    ¬ Agrees sessionId (s.startQueuedTurn sessionId turnId
      commandId prompt steer surface context) := by
  intro hAfter
  obtain ⟨lane, hLane, hPending, -⟩ := pending_of_prepare hPrepare
  have hTurns := startQueuedTurn_projection commandId prompt
    steer surface context hAgrees hLane hPending
  rw [hAfter.runtimeLane, startQueuedTurn_manager commandId
    prompt steer surface context hLane hPending] at hTurns
  have hErase := List.length_erase_of_mem hPending
  rw [Option.some.inj hTurns] at hErase
  have hPositive := List.length_pos_of_mem hPending
  omega

end

/- The two describe the same lane after every operation. -/
def AgreesThroughout (sessionId : SessionId) (ops : List SessionOp) : Prop :=
  ∀ before after, ops = before ++ after → Agrees sessionId (Machine.run (step sessionId) new before)

/-
  The projection and the lane agree throughout a run exactly if the run starts
  no queued turn.
-/
theorem agreesThroughout_iff (sessionId : SessionId) (ops : List SessionOp) :
    AgreesThroughout sessionId ops ↔ Machine.Guarded (step sessionId)
        (StartsNoQueuedTurn sessionId) new ops := by
  constructor
  · intro hAgree
    rw [← Machine.throughout_iff]
    rintro before op after rfl
    have hBefore := hAgree before (op :: after) rfl
    have hAfter := hAgree (before ++ [op]) after (by simp)
    rw [Machine.run_concat] at hAfter
    cases op with
    | startQueuedTurn turnId commandId prompt steer surface context =>
      intro laneId hPrepare
      exact startQueuedTurn_disagrees commandId prompt steer surface context hBefore hPrepare hAfter
    | _ => trivial
  · rintro hGuarded before after rfl
    have hFirst := (Machine.guarded_append _ _ _ _ _).1 hGuarded
    have hStep : ∀ s op, Agrees sessionId s → StartsNoQueuedTurn sessionId s op →
          Agrees sessionId (step sessionId s op) :=
      fun s op hAgrees hStarts => step_agrees hAgrees hStarts
    exact Machine.run_invariant hStep (agrees_new sessionId) hFirst.1

/- A task is started, a turn is queued, and the turn starts. -/
def queuedTurnRun : List SessionOp := [.startTask ⟨Uuid.ofNat 3⟩ ⟨Uuid.ofNat 4⟩ ⟨Uuid.ofNat 5⟩
      ⟨.user, "operator"⟩ ⟨Uuid.ofNat 6⟩ (sampleContext 1) (.command ⟨Uuid.ofNat 7⟩ "host" .null),
    .queueTurn ⟨Uuid.ofNat 8⟩ (sampleContext 2) (.command ⟨Uuid.ofNat 9⟩ "host" .null),
    .startQueuedTurn ⟨Uuid.ofNat 8⟩ ⟨Uuid.ofNat 9⟩ "next" false none (sampleContext 3)]

def queuedTurnState : RecordedSession := Machine.run (step sampleSession) new queuedTurnRun

/-
  The turn that runs is still pending in the projection, and no longer pending
  in the manager.
-/
theorem queuedTurnRun_disagrees : (queuedTurnState.projection sampleSession).runtimeLane.map
          RuntimeLane.pendingTurns = some [⟨Uuid.ofNat 8⟩] ∧
      (queuedTurnState.manager.lane sampleSession).map RuntimeLane.pendingTurns = some [] ∧
      ¬ AgreesThroughout sampleSession queuedTurnRun := by
  have hDurable : (queuedTurnState.projection sampleSession).runtimeLane.map
        RuntimeLane.pendingTurns = some [⟨Uuid.ofNat 8⟩] := by
    rfl
  have hMemory : (queuedTurnState.manager.lane
      sampleSession).map RuntimeLane.pendingTurns = some [] := by
    rfl
  refine ⟨hDurable, hMemory, ?_⟩
  intro hAgree
  have hLast : Agrees sampleSession queuedTurnState := hAgree queuedTurnRun [] (by simp)
  rw [hLast.runtimeLane] at hDurable
  cases hDurable

end RecordedSession

end GolutraAgent.Client
