import GolutraAgent.Client.LaneProjection
import GolutraAgent.Client.PendingTurnLog

/-
  This file models the turns of one session over its whole life: prompts that
  start a task or queue a turn on the task under way, turns that start, change
  or are cancelled, tasks that end, processes that crash, and the recovery of
  what they left behind.

  The lease of the session is held by one process at a time, for as long as its
  task runs or its recovery takes. So a phase says what the holder is about to
  write next, and a crash leaves the log as it is and frees the lease.
-/

namespace GolutraAgent.Client

open GolutraAgent.Runtime Store

section

variable (library : PromptLibrary) (sessionId : SessionId)

def recoveryRecord (event : RuntimeEvent) : Option Json.Value :=
  if event.eventType = .taskInterrupted || event.eventType = .taskUncertain then
    event.payload.get "record"
  else none

def begunTurn (event : RuntimeEvent) : Option TurnId :=
  if event.eventType = .turnStarted || event.eventType = .taskCreated then event.turnId
  else none

variable (context : EventContext)

def taskRecoveryEvent (taskId : TaskId) (events : List RuntimeEvent)
    (recovery : String) (analysis : TaskRecovery) : RuntimeEvent :=
  hostEvent context sessionId (events.reverse.findSome? begunTurn) (some taskId)
    (if analysis.uncertain then .taskUncertain else .taskInterrupted) .runtime
    (.object [("summary", .string analysis.reason), ("status", TaskStatus.codec.encode
          (if analysis.uncertain then .uncertain else .interrupted)),
        ("recovery", .string recovery), ("record", analysis.record),
        ("safe_to_replay", .bool false),
        ("post_task_governance", .object [("status", .string "pending")])])

/- Whether the task needs a reconciliation, and the log. -/
def recordOrphanedTaskRecovery (log : List RuntimeEvent) (taskId : TaskId)
    (recovery : String) : Except ClientError (Bool × List RuntimeEvent) :=
  let events := taskEvents log taskId
  match events.reverse.findSome? recoveryRecord with
  | some record =>
    match library.decodeRecovery record with
    | .ok required => .ok (required, log)
    | .error error => .error (.taskExecution error)
  | none =>
    let analysis := library.analyzeTask events taskId
    .ok (analysis.reconciliationRequired, log ++ [taskRecoveryEvent sessionId context taskId
        events recovery analysis])

def transferredTurn (turn : RecoveredPendingTurn) : Json.Value := .object
    [("sequence_no", .number (.posInt turn.sequenceNo)), ("turn_id", Id.codec.encode turn.turnId),
      ("command_id", Id.codec.encode turn.commandId), ("actor", Actor.codec.encode turn.actor),
      ("payload", turn.payload)]

def turnsContinuation (turns : List RecoveredPendingTurn) : Json.Value :=
  library.encodeContinuation
    ((turns.head?.bind RecoveredPendingTurn.continuation).getD library.defaultContinuation)

def pendingTransferEvent (context : EventContext) (taskId : TaskId)
    (turns : List RecoveredPendingTurn) : RuntimeEvent :=
  hostEvent context sessionId none (some taskId) .turnQueued .runtime
    (.object [("summary", .string "durable pending turns transferred to a recovery task"),
        ("recovery", .string "durable_pending_turn_batch"),
        (recoveredSequenceNosKey, .array (turns.map
          (fun turn => .number (.posInt turn.sequenceNo)))),
        (recoveredPendingTurnsKey, .array (turns.map transferredTurn)),
        (recoveryContinuationKey, turnsContinuation library turns)])

def sameCapabilities (first : RecoveredPendingTurn) (rest : List RecoveredPendingTurn) : Bool :=
  rest.all (fun turn => turn.allowNetwork = first.allowNetwork && turn.yolo = first.yolo)

/- The lane of the restarted task, with its queued turns. -/
def restartedLane (workspaceId : WorkspaceId) (laneId : LaneId) (taskId : TaskId)
    (first : RecoveredPendingTurn) (rest : List RecoveredPendingTurn) : RuntimeLane where
  laneId := laneId
  workspaceId := workspaceId
  sessionId := sessionId
  taskId := taskId
  activeTurnId := some first.turnId
  activeController := first.actor
  status := .running
  pendingTurns := rest.map RecoveredPendingTurn.turnId
  injectedInputs := []
  busyPolicyDefault := .append

/- The event of a started task, made that of a turn. -/
def restartedTurnEvent (context : EventContext) (lane : RuntimeLane)
    (first : RecoveredPendingTurn) : RuntimeEvent :=
  let event := laneEvent { lane with pendingTurns := [] } first.turnId context .taskCreated
    "runtime lane started task"
  { event with
    eventType := .turnStarted
    payload := setFields event.payload [("runtime_lane", lane.encode), ("summary", .string
          "durable pending turn restarted after runtime recovery"),
        ("recovery", .string "durable_pending_turn"),
        ("command_id", Id.codec.encode first.commandId),
        ("runtime_identity", .string library.runtimeIdentity), ("payload", first.payload)] }

/- A prompt that the host has checked, and its new ids. -/
structure NewTask (library : PromptLibrary) where
  workspaceId : WorkspaceId
  taskId : TaskId
  turnId : TurnId
  laneId : LaneId
  commandId : CommandId
  actor : Actor
  payload : Json.Value
  accepted : library.Accepted payload
  executionCapabilities : Json.Value
  runProvenance : Json.Value

variable {library}

def NewTask.lane (task : NewTask library) : RuntimeLane where
  laneId := task.laneId
  workspaceId := task.workspaceId
  sessionId := sessionId
  taskId := task.taskId
  activeTurnId := some task.turnId
  activeController := task.actor
  status := .running
  pendingTurns := []
  injectedInputs := []
  busyPolicyDefault := .append

def NewTask.event (task : NewTask library) (context : EventContext) : RuntimeEvent :=
  let event := withCommandPayload
    (laneEvent (task.lane sessionId) task.turnId context .taskCreated "runtime lane started task")
    task.commandId library.runtimeIdentity task.payload
  { event with
    payload := setFields event.payload [("execution_capabilities", task.executionCapabilities),
        ("run_provenance", task.runProvenance)] }

/- The payload of a turn that is still queued. -/
def latestQueuedTurnPayload (log : List RuntimeEvent) (taskId : TaskId)
    (turnId : TurnId) : Option Json.Value :=
  ((taskEvents log taskId).filter (·.turnId = some turnId)).foldl
      (fun payload event =>
        match event.eventType with
        | .turnQueued | .turnUpdated => event.payload.get "payload"
        | .turnStarted | .turnCancelled => none
        | _ => payload) none

variable (context : EventContext)

def turnUpdatedEvent (lane : RuntimeLane) (turnId : TurnId)
    (commandId : CommandId) (payload : Json.Value) : RuntimeEvent :=
  hostEvent context sessionId (some turnId) (some lane.taskId) .turnUpdated .user
    (.object [("summary", .string "queued user turn updated"),
        ("command_id", Id.codec.encode commandId), ("payload", payload),
        ("runtime_lane", lane.encode)])

def taskReconciledEvent (taskId : TaskId) (commandId : CommandId)
    (abandon : Bool) (record : Json.Value) : RuntimeEvent :=
  hostEvent context sessionId none (some taskId) .taskReconciled .runtime
    (.object [("summary", .string "uncertain task recovery was explicitly reconciled"),
        ("status", TaskStatus.codec.encode (if abandon then .cancelled else .interrupted)),
        ("record", record), ("command_id", Id.codec.encode commandId)])

end

/-
  No process holds the lease; a task runs; a prompt is about to start its task;
  a recovery is about to move the pending turns to a new task; or it is about to
  start the first of them there.
-/
inductive SessionPhase (library : PromptLibrary)
| idle
| running
| prompting (task : NewTask library)
| transferring (turns : List RecoveredPendingTurn)
| starting (taskId : TaskId) (turns : List RecoveredPendingTurn)

structure TurnSystem (library : PromptLibrary) where
  session : RecordedSession
  phase : SessionPhase library

/- Events that say nothing about turns or the active task. -/
def isQuiet : RuntimeEventType → Bool
| .taskCreated | .taskResumed | .turnQueued | .turnUpdated | .turnStarted | .turnCancelled => false
| _ => true

/-
  The transitions of a lane that leave its turns alone, with the event that they
  record.
-/
def SessionOp.keepsTurns (context : EventContext) : SessionOp → Bool
| .takeover _ own _ | .abort own _ | .pause own _ | .resume own _ | .finishTask _ own _
| .waitForAuthentication own _ | .authenticationResolved own _ => own = context
| _ => false

/-
  What happens in the session. Ids that an operation brings are new, and an
  operation whose ids are not new does not happen.
-/
inductive TurnOp (library : PromptLibrary)
| prompt (task : NewTask library)
| queue (turnId : TurnId) (commandId : CommandId) (payload : Json.Value)
    (accepted : library.Accepted payload)
| startQueued (turnId : TurnId) (commandId : CommandId) (prompt : String) (steer : Bool)
    (surface : Option (Json.Value × Json.Value))
| update (actor : Actor) (turnId : TurnId) (commandId : CommandId) (payload : Json.Value)
    (accepted : library.Accepted payload)
| cancel (actor : Actor) (turnId : TurnId) (commandId : CommandId)
| lane (op : EventContext → SessionOp) (keeps : ∀ context, (op context).keepsTurns context = true)
| record (event : RuntimeEvent) (quiet : isQuiet event.eventType = true)
| recover
| reconcile (taskId : TaskId) (commandId : CommandId) (abandon : Bool) (record : Json.Value)
| transfer (taskId : TaskId)
| start (workspaceId : WorkspaceId) (laneId : LaneId)
| create
| crash

/- The store numbers the events; other sessions use numbers. -/
structure TurnWrite (library : PromptLibrary) where
  op : TurnOp library
  context : EventContext
  gap : Nat

variable (log : List RuntimeEvent)

def nextSequenceNo : Nat := (log.map RuntimeEvent.sequenceNo).foldr max 0 + 1

def isNewTask (taskId : TaskId) : Bool := log.all (·.taskId ≠ some taskId)

def isNewTurn (turnId : TurnId) : Bool := log.all (·.turnId ≠ some turnId)

namespace TurnSystem

variable {library : PromptLibrary} (sessionId : SessionId) (s : TurnSystem library)

def initial : TurnSystem library := ⟨.new, .idle⟩

def state : StateProjection := s.session.projection sessionId

/- A process that gives up the lease forgets its lanes. -/
def release (log : List RuntimeEvent) : TurnSystem library := ⟨⟨.new, log⟩, .idle⟩

def persistedActiveTask : Option TaskId :=
  if (s.state sessionId).taskStatus.isActive then (s.state sessionId).activeTaskId
  else none

variable (context : EventContext) (task : NewTask library)

/- The new task of a prompt follows an orphaned one. -/
def prompt : TurnSystem library :=
  if (s.state sessionId).taskStatus = .uncertain then s
  else
    match s.persistedActiveTask sessionId with
    | none => { s with phase := .prompting task }
    | some orphan =>
      match recordOrphanedTaskRecovery library sessionId context s.session.log orphan
          "session_lease_reacquired" with
      | .error _ => s
      | .ok (true, log) => release log
      | .ok (false, log) => ⟨⟨.new, log⟩, .prompting task⟩

def create : TurnSystem library :=
  if isNewTask s.session.log task.taskId && isNewTurn s.session.log task.turnId then
    ⟨⟨RuntimeLaneManager.new.insert sessionId (task.lane sessionId),
        s.session.log ++ [task.event sessionId context]⟩,
      .running⟩
  else s

def hasActiveLane : Bool := (s.session.manager.lane sessionId).any (·.status.isActive)

def queue (context : EventContext) (turnId : TurnId) (commandId : CommandId)
    (payload : Json.Value) : TurnSystem library :=
  if s.hasActiveLane sessionId && isNewTurn s.session.log turnId then
    { s with
      session := s.session.record (.command commandId library.runtimeIdentity payload)
        (s.session.manager.queueTurn sessionId turnId context) }
  else s

variable (context : EventContext) (actor : Actor) (turnId : TurnId) (commandId : CommandId)

/- A turn that is gone from the queue is not changed. -/
def update (payload : Json.Value) : TurnSystem library :=
  match s.session.manager.lane sessionId with
  | none => s
  | some lane =>
    if lane.status.isActive && lane.activeController = actor &&
        (latestQueuedTurnPayload s.session.log lane.taskId turnId).isSome &&
        turnId ∈ lane.pendingTurns then
      { s with
        session :=
          { s.session with
            log := s.session.log ++ [turnUpdatedEvent sessionId context lane
                turnId commandId payload] } }
    else s

def cancel : TurnSystem library :=
  if (s.session.manager.lane sessionId).any (fun lane => turnId ∈ lane.pendingTurns) then
    { s with session := s.session.cancelQueuedTurn sessionId actor turnId commandId context }
  else s

/- With turns to restart the lease is kept, else released. -/
def afterRecovery (log : List RuntimeEvent)
    (turns : List RecoveredPendingTurn) : TurnSystem library :=
  if turns.isEmpty then release log
  else ⟨⟨.new, log⟩, .transferring turns⟩

/- The turns are read before the orphan is recorded. -/
def recover (context : EventContext) : TurnSystem library :=
  let state := s.state sessionId
  if state.taskStatus = .uncertain then s
  else if !state.taskStatus.isActive &&
      state.runtimeLane.all (·.pendingTurns.isEmpty) then
    s
  else
    match recoverablePendingTurns library context.timestamp s.session.log state.activeTaskId with
    | .error _ => s
    | .ok turns =>
      match s.persistedActiveTask sessionId with
      | none => afterRecovery s.session.log turns
      | some orphan =>
        match recordOrphanedTaskRecovery library sessionId context s.session.log orphan
            "runtime_process_restart" with
        | .error _ => s
        | .ok (true, log) => release log
        | .ok (false, log) => afterRecovery log turns

/- The task has an uncertain end that is not reconciled. -/
def awaitsReconciliation (log : List RuntimeEvent) (taskId : TaskId) : Bool :=
  match (taskEvents log taskId).reverse.find? (·.eventType = .taskUncertain) with
  | none => false
  | some uncertain =>
    (taskEvents log taskId).all (fun event =>
      !(uncertain.sequenceNo < event.sequenceNo && event.eventType = .taskReconciled))

def reconcile (taskId : TaskId) (commandId : CommandId) (abandon : Bool)
    (record : Json.Value) : TurnSystem library :=
  let state := s.state sessionId
  if state.taskStatus = .uncertain && state.activeTaskId = some taskId &&
      awaitsReconciliation s.session.log taskId then
    match recoverablePendingTurns library context.timestamp s.session.log (some taskId) with
    | .error _ => s
    | .ok turns =>
      afterRecovery (s.session.log ++ [taskReconciledEvent sessionId context taskId
          commandId abandon record]) turns
  else s

/- Turns whose capabilities differ are not restarted. -/
def transfer (taskId : TaskId) : List RecoveredPendingTurn → TurnSystem library
| [] => release s.session.log
| first :: rest =>
  if !sameCapabilities first rest then release s.session.log
  else if isNewTask s.session.log taskId then
    ⟨⟨.new, s.session.log ++ [pendingTransferEvent library sessionId context
          taskId (first :: rest)]⟩,
      .starting taskId (first :: rest)⟩
  else s

def start (workspaceId : WorkspaceId) (laneId : LaneId) (taskId : TaskId) :
    List RecoveredPendingTurn → TurnSystem library
| [] => release s.session.log
| first :: rest =>
  let lane := restartedLane sessionId workspaceId laneId taskId first rest
  ⟨⟨RuntimeLaneManager.new.insert sessionId lane, s.session.log ++
        [restartedTurnEvent library context lane first]⟩,
    .running⟩

/- What the phase does not allow does nothing. -/
def perform (op : TurnOp library) : TurnSystem library :=
  match s.phase, op with
  | .idle, .prompt task => s.prompt sessionId context task
  | .idle, .recover => s.recover sessionId context
  | .idle, .reconcile taskId commandId abandon record =>
    s.reconcile sessionId context taskId commandId abandon record
  | .prompting task, .create => s.create sessionId context task
  | .transferring turns, .transfer taskId => s.transfer sessionId context taskId turns
  | .starting taskId turns, .start workspaceId laneId =>
    s.start sessionId context workspaceId laneId taskId turns
  | .running, .queue turnId commandId payload _ =>
    s.queue sessionId context turnId commandId payload
  | .running, .startQueued turnId commandId prompt steer surface =>
    { s with
      session := s.session.startQueuedTurn sessionId turnId commandId prompt steer surface context }
  | .running, .update actor turnId commandId payload _ =>
    s.update sessionId context actor turnId commandId payload
  | .running, .cancel actor turnId commandId => s.cancel sessionId context actor turnId commandId
  | .running, .lane op _ => { s with session := s.session.step sessionId (op context) }
  | _, .record event _ =>
    { s with
      session :=
        { s.session with
          log := s.session.log ++ [{ event with sequenceNo := context.sequenceNo }] } }
  | _, .crash => release s.session.log
  | _, _ => s

def step (s : TurnSystem library) (write : TurnWrite library) : TurnSystem library :=
  s.perform sessionId { write.context with sequenceNo := nextSequenceNo s.session.log + write.gap }
    write.op

def run (writes : List (TurnWrite library)) : TurnSystem library :=
  Machine.run (step sessionId) initial writes

end TurnSystem

end GolutraAgent.Client
