import GolutraAgent.Runtime.Lane
import GolutraAgent.Store.Database

/-
  This file defines the hosts of a workspace and the errors of their calls, and
  models how a host builds the events it records: events of its own, the fields
  it sets on the events of lane transitions, and the wrapping of a transition
  under the command that caused it.
-/

namespace GolutraAgent.Client

open Store

inductive ClientError
| invalidSession (detail : String)
| store (error : StoreError)
| io (detail : String)
| taskExecution (detail : String)

/- What the host takes from the libraries it is built on. -/
structure HostLibrary where
  payloadSize : Json.Value → Nat
  payloadDigest : Json.Value → String
  errorText : ClientError → String

structure RuntimeHost where
  workspaceId : WorkspaceId
  workspaceRoot : Option String
  defaultSessionId : SessionId

/- What the causal ledger of the host adds to an event. -/
structure Enrichment where
  parentEventId : Option EventId
  causalContext : CausalContext
  causalLinks : List CausalLink

def Enrichment.apply (enrichment : Enrichment) (event : RuntimeEvent) : RuntimeEvent :=
  { event with
    parentEventId := enrichment.parentEventId
    causalContext := enrichment.causalContext
    causalLinks := enrichment.causalLinks }

open GolutraAgent.Runtime

variable (context : EventContext) (sessionId : SessionId)

def hostEvent (turnId : Option TurnId) (taskId : Option TaskId) (eventType : RuntimeEventType)
    (source : RuntimeEventSource) (payload : Json.Value) : RuntimeEvent where
  schemaVersion := runtimeEventSchemaVersion
  id := context.eventId
  sequenceNo := context.sequenceNo
  sessionId := sessionId
  turnId := turnId
  taskId := taskId
  parentEventId := none
  causalContext := .empty
  causalLinks := []
  eventType := eventType
  timestamp := context.timestamp
  source := source
  payload := payload
  payloadRef := none
  durable := true

/-
  The start of a queued turn. `surface` holds the execution mode and the tool
  profile of a configured turn.
-/
def turnStartedEvent (taskId : TaskId) (turnId : TurnId) (commandId : CommandId) (prompt : String)
    (steer : Bool) (surface : Option (Json.Value × Json.Value)) : RuntimeEvent :=
  hostEvent context sessionId (some turnId) (some taskId) .turnStarted .user
    (.object ([("summary", .string "queued user turn started"),
        ("command_id", Id.codec.encode commandId), ("turn_id", Id.codec.encode turnId),
        ("prompt", .string prompt), ("steer", .bool steer)] ++
        match surface with
        | none => []
        | some (executionMode, toolProfile) =>
          [("execution_mode", executionMode), ("tool_profile", toolProfile)]))

/- The cancellation of a queued turn carries the lane. -/
def turnCancelledEvent (lane : RuntimeLane) (turnId : TurnId)
    (commandId : CommandId) : RuntimeEvent :=
  hostEvent context sessionId (some turnId) (some lane.taskId) .turnCancelled .user
    (.object [("summary", .string "queued user turn cancelled"),
        ("command_id", Id.codec.encode commandId), ("turn_id", Id.codec.encode turnId),
        ("runtime_lane", lane.encode)])

def withCommandPayload (event : RuntimeEvent) (commandId : CommandId)
    (runtimeIdentity : String) (payload : Json.Value) : RuntimeEvent :=
  { event with
    payload := .object [("summary", .string (((event.payload.get "summary").bind
            Json.Value.asStr).getD "runtime host accepted command")),
        ("command_id", .string commandId.toText), ("runtime_identity", .string runtimeIdentity),
        ("payload", payload), ("runtime", event.payload)] }

/-
  Fields the client sets on the payload of a transition. The status and the lane
  of the transition are not among them; where the client sets those, it sets
  them to what they are.
-/
structure PayloadEdits where
  fields : List (String × Json.Value)
  keepsTransition : ∀ field ∈ fields, field.1 ≠ "runtime_lane" ∧ field.1 ≠ "status"

def setFields (payload : Json.Value) (fields : List (String × Json.Value)) : Json.Value :=
  fields.foldl (fun value field => value.set field.1 field.2) payload

namespace PayloadEdits

def none : PayloadEdits := ⟨[], by simp⟩

def apply (edits : PayloadEdits) (event : RuntimeEvent) : RuntimeEvent :=
  { event with payload := setFields event.payload edits.fields }

end PayloadEdits

/- Setting some fields keeps the others. -/
theorem get_setFields {key : String} {fields : List (String × Json.Value)}
    (hKey : ∀ field ∈ fields, field.1 ≠ key) (payload : Json.Value) :
    (setFields payload fields).get key = payload.get key := by
  induction fields generalizing payload with
  | nil => rfl
  | cons field fields ih =>
    have hHead : key ≠ field.1 := (hKey field (by simp)).symm
    have hTail := ih (fun other hOther => hKey other (by simp [hOther]))
      (payload.set field.1 field.2)
    rw [setFields, List.foldl_cons]
    rw [setFields] at hTail
    rw [hTail]
    cases payload with
    | object inner => exact Json.lookup_insert_other hHead _ _
    | _ => rfl

namespace PayloadEdits

variable (edits : PayloadEdits) (event : RuntimeEvent)

theorem get_runtimeLane :
    (edits.apply event).payload.get "runtime_lane" = event.payload.get "runtime_lane" :=
  get_setFields (fun field hField => (edits.keepsTransition field hField).1) event.payload

theorem get_status : (edits.apply event).payload.get "status" = event.payload.get "status" :=
  get_setFields (fun field hField => (edits.keepsTransition field hField).2) event.payload

end PayloadEdits

/- How the client records the event of a transition. -/
inductive Recording
| edited (edits : PayloadEdits)
| command (commandId : CommandId) (runtimeIdentity : String) (payload : Json.Value)

def Recording.apply (event : RuntimeEvent) : Recording → RuntimeEvent
| .edited edits => edits.apply event
| .command commandId runtimeIdentity payload =>
  withCommandPayload event commandId runtimeIdentity payload

end GolutraAgent.Client
