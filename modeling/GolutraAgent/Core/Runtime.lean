import GolutraAgent.Core.Ids

/-
  This file defines the runtime data that lanes, events and projections share:
  the status of a task, the actor in control of it, and the runtime lane, with
  their JSON forms.
-/

namespace GolutraAgent

open Json.Value

/- The status of a task in its lane. -/
inductive TaskStatus
| idle
| running
| waitingApproval
| waitingAuthentication
| pausing
| paused
| aborting
| completed
| partialOutcome
| failed
| blocked
| cancelled
| interrupted
| uncertain
deriving DecidableEq

namespace TaskStatus

def isActive : TaskStatus → Bool
| .running | .waitingApproval | .waitingAuthentication | .pausing | .paused | .aborting => true
| _ => false

def isTerminal : TaskStatus → Bool
| .completed | .partialOutcome | .failed | .blocked | .cancelled | .interrupted | .uncertain => true
| _ => false

/- The name a status has in JSON and in the tables. -/
def name : TaskStatus → String
| .idle => "idle"
| .running => "running"
| .waitingApproval => "waiting_approval"
| .waitingAuthentication => "waiting_authentication"
| .pausing => "pausing"
| .paused => "paused"
| .aborting => "aborting"
| .completed => "completed"
| .partialOutcome => "partial"
| .failed => "failed"
| .blocked => "blocked"
| .cancelled => "cancelled"
| .interrupted => "interrupted"
| .uncertain => "uncertain"

def variants : List (String × TaskStatus) :=
  [.idle, .running, .waitingApproval, .waitingAuthentication, .pausing, .paused, .aborting,
    .completed, .partialOutcome, .failed, .blocked, .cancelled, .interrupted,
    .uncertain].map fun status => (status.name, status)

def ofName (name : String) : Option TaskStatus := variants.lookup name

@[simp] theorem ofName_name (status : TaskStatus) : ofName status.name = some status := by
  cases status <;> rfl

/- The name the debug format prints. -/
def debugName : TaskStatus → String
| .idle => "Idle"
| .running => "Running"
| .waitingApproval => "WaitingApproval"
| .waitingAuthentication => "WaitingAuthentication"
| .pausing => "Pausing"
| .paused => "Paused"
| .aborting => "Aborting"
| .completed => "Completed"
| .partialOutcome => "Partial"
| .failed => "Failed"
| .blocked => "Blocked"
| .cancelled => "Cancelled"
| .interrupted => "Interrupted"
| .uncertain => "Uncertain"

def codec : Json.Codec TaskStatus := Json.Codec.names name ofName ofName_name

end TaskStatus

/- Who controls a lane or sends a command. -/
inductive ActorKind
| user
| api
| tui
| cli
| sdk
| web
| ide
| runtime
deriving DecidableEq

namespace ActorKind

def name : ActorKind → String
| .user => "user"
| .api => "api"
| .tui => "tui"
| .cli => "cli"
| .sdk => "sdk"
| .web => "web"
| .ide => "ide"
| .runtime => "runtime"

def variants : List (String × ActorKind) :=
  [.user, .api, .tui, .cli, .sdk, .web, .ide, .runtime].map fun kind => (kind.name, kind)

def ofName (name : String) : Option ActorKind := variants.lookup name

theorem ofName_name (kind : ActorKind) : ofName kind.name = some kind := by
  cases kind <;> rfl

def codec : Json.Codec ActorKind := Json.Codec.names name ofName ofName_name

end ActorKind

structure Actor where
  kind : ActorKind
  id : String
deriving DecidableEq

namespace Actor

def codec : Json.Codec Actor where
  encode := fun actor => .object
    [("kind", ActorKind.codec.encode actor.kind), ("id", .string actor.id)]
  decode := fun value => do
    let kind ← value.required "kind" ActorKind.codec.decode
    let id ← value.required "id" Json.Value.asStr
    return ⟨kind, id⟩
  decode_encode := by
    intro actor
    simp [Json.Value.required, Json.lookup, Json.Value.asStr]
  encode_ne_null := fun _ => Json.Value.noConfusion

end Actor

/- What happens to a turn that comes in while another runs. -/
inductive BusyPolicy
| append
| inject
| interrupt
| reject

namespace BusyPolicy

def name : BusyPolicy → String
| .append => "append"
| .inject => "inject"
| .interrupt => "interrupt"
| .reject => "reject"

def variants : List (String × BusyPolicy) :=
  [.append, .inject, .interrupt, .reject].map fun policy => (policy.name, policy)

def ofName (name : String) : Option BusyPolicy := variants.lookup name

theorem ofName_name (policy : BusyPolicy) : ofName policy.name = some policy := by
  cases policy <;> rfl

def codec : Json.Codec BusyPolicy := Json.Codec.names name ofName ofName_name

end BusyPolicy

/- The lane of a session: its active task and who controls it. -/
structure RuntimeLane where
  laneId : LaneId
  workspaceId : WorkspaceId
  sessionId : SessionId
  taskId : TaskId
  activeTurnId : Option TurnId
  activeController : Actor
  status : TaskStatus
  pendingTurns : List TurnId
  injectedInputs : List CommandId
  busyPolicyDefault : BusyPolicy

namespace RuntimeLane

def encode (lane : RuntimeLane) : Json.Value := .object [("lane_id", Id.codec.encode lane.laneId),
      ("workspace_id", Id.codec.encode lane.workspaceId),
      ("session_id", Id.codec.encode lane.sessionId), ("task_id", Id.codec.encode lane.taskId),
      ("active_turn_id", Id.codec.nullable lane.activeTurnId),
      ("active_controller", Actor.codec.encode lane.activeController),
      ("status", TaskStatus.codec.encode lane.status),
      ("pending_turns", Id.codec.list.encode lane.pendingTurns),
      ("injected_inputs", Id.codec.list.encode lane.injectedInputs),
      ("busy_policy_default", BusyPolicy.codec.encode lane.busyPolicyDefault)]

def decode (value : Json.Value) : Option RuntimeLane := do
  let laneId ← value.required "lane_id" Id.codec.decode
  let workspaceId ← value.required "workspace_id" Id.codec.decode
  let sessionId ← value.required "session_id" Id.codec.decode
  let taskId ← value.required "task_id" Id.codec.decode
  let activeTurnId ← value.optional "active_turn_id" Id.codec.decode
  let activeController ← value.required "active_controller" Actor.codec.decode
  let status ← value.required "status" TaskStatus.codec.decode
  let pendingTurns ← value.required "pending_turns" Id.codec.list.decode
  let injectedInputs ← value.required "injected_inputs" Id.codec.list.decode
  let busyPolicyDefault ← value.required "busy_policy_default" BusyPolicy.codec.decode
  return {
    laneId, workspaceId, sessionId, taskId, activeTurnId,
    activeController, status, pendingTurns, injectedInputs,
    busyPolicyDefault }

/- A lane that was written is read back unchanged. -/
@[simp] theorem decode_encode (lane : RuntimeLane) : decode lane.encode = some lane := by
  have hLane : lane.encode.required "lane_id" Id.codec.decode = some lane.laneId :=
    required_of_get (by simp [encode])
  have hWorkspace : lane.encode.required "workspace_id" Id.codec.decode = some lane.workspaceId :=
    required_of_get (by simp [encode, Json.lookup])
  have hSession : lane.encode.required "session_id" Id.codec.decode = some lane.sessionId :=
    required_of_get (by simp [encode, Json.lookup])
  have hTask : lane.encode.required "task_id" Id.codec.decode = some lane.taskId :=
    required_of_get (by simp [encode, Json.lookup])
  have hTurn : lane.encode.optional "active_turn_id" Id.codec.decode = some lane.activeTurnId :=
    optional_of_get (by simp [encode, Json.lookup])
  have hController : lane.encode.required "active_controller"
      Actor.codec.decode = some lane.activeController :=
    required_of_get (by simp [encode, Json.lookup])
  have hStatus : lane.encode.required "status" TaskStatus.codec.decode = some lane.status :=
    required_of_get (by simp [encode, Json.lookup])
  have hPending : lane.encode.required "pending_turns"
      Id.codec.list.decode = some lane.pendingTurns :=
    required_of_get (by simp [encode, Json.lookup])
  have hInjected : lane.encode.required "injected_inputs"
      Id.codec.list.decode = some lane.injectedInputs :=
    required_of_get (by simp [encode, Json.lookup])
  have hPolicy : lane.encode.required "busy_policy_default"
      BusyPolicy.codec.decode = some lane.busyPolicyDefault :=
    required_of_get (by simp [encode, Json.lookup])
  simp [decode, hLane, hWorkspace, hSession, hTask, hTurn, hController, hStatus, hPending,
    hInjected, hPolicy]

end RuntimeLane

end GolutraAgent
