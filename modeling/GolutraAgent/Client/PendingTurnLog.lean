import GolutraAgent.Client.DelegationRecovery
import GolutraAgent.Client.Host

/-
  This file models how a host finds the pending turns of a task in the events of
  its session: turns that were queued and neither started nor cancelled, and
  turns that a recovery has moved to the task from an older one.

  The text of a prompt, its contract and its verifiers are read by a library. A
  prompt that the host accepts passes all checks, and stays so when a steer is
  merged with the turn that it steers. The figures of the governor, and how a
  continuation is written and read, are taken from the library as well.
-/

namespace GolutraAgent.Client

open Store

variable (payload : Json.Value)

/- A field that is absent or a truth value. -/
def isFlag (key : String) : Bool :=
  match payload.get key with
  | none => true
  | some (.bool _) => true
  | some _ => false

def flag (key : String) : Bool := ((payload.get key).bind Json.Value.asBool).getD false

/- A budget is absent or positive. -/
def hasValidBudget : Bool :=
  match payload.get "max_elapsed_ms" with
  | none => true
  | some .null => true
  | some value => value.asU64.any (fun budget => 0 < budget)

def verifierSandboxKey : String := "_external_verifiers_require_os_sandbox"

/- A field that is there and not null. -/
def isGiven (key : String) : Bool :=
  match payload.get key with
  | none | some .null => false
  | some _ => true

/- A name of the table, in letters of any case. -/
def namedIn {α : Type} (names : List (String × α)) (value : Json.Value) : Option α :=
  value.asStr.bind (fun text =>
    (names.find? (·.1.toList = text.toList.map Char.toLower)).map Prod.snd)

inductive NormalizedExecutionMode
| legacy
| openMode
| strict

def NormalizedExecutionMode.wireName : NormalizedExecutionMode → String
| .legacy => "legacy"
| .openMode => "open"
| .strict => "strict"

/- A payload from before there were modes has none. -/
def executionModeFromPayload : Except String NormalizedExecutionMode :=
  match payload.get "execution_mode" with
  | none => .ok .legacy
  | some value => (namedIn [("open", .openMode), ("strict", .strict)] value).elim
      (.error "execution_mode must be `open` or `strict`") .ok

inductive AgentToolProfile
| coding
| full
| none

def AgentToolProfile.name : AgentToolProfile → String
| .coding => "coding"
| .full => "full"
| .none => "none"

/- The coding tools are the default, whatever the mode. -/
def toolProfileFromPayload : Except String AgentToolProfile := do
  let _ ← executionModeFromPayload payload
  if isGiven payload "tool_profile" then
    ((payload.get "tool_profile").bind (namedIn
        [("coding", .coding), ("full", .full), ("none", .none)])).elim
      (.error "tool_profile must be `coding`, `full`, or `none`") .ok
  else .ok .coding

def writeNormalizedExecutionMode (mode : NormalizedExecutionMode) : Json.Value :=
  let value := .string mode.wireName
  (match mode with
    | .legacy => payload.remove "execution_mode"
    | _ => payload.set "execution_mode" value).set "_execution_mode" value

/- The settings of a turn that hold for its steers. -/
def inheritedKeys : List String :=
  ["completion_criteria", "output_schema", "external_verifiers", "max_elapsed_ms", "allow_network",
    "yolo", "defer_external_verification", "verify_on_change", "provider_profile", "provider_model",
    "provider_generation_config", verifierSandboxKey, "_delegated_task",
    "_delegation_parent_session_id", "_delegation_parent_tool_call_id", "_delegation",
    "_delegation_cost_budget_microusd"]

/- A steer keeps its prompt, and its tools if it names them. -/
def inheritSteeringExecutionSurface (taskContract : Json.Value → Except String Json.Value)
    (active steering : Json.Value) : Except String Json.Value := do
  let mode ← (executionModeFromPayload active).mapError
    ("cannot recover a leading steering turn from an invalid active execution mode: " ++ ·)
  let profile ← (toolProfileFromPayload active).mapError
    ("cannot recover a leading steering turn from an invalid active tool profile: " ++ ·)
  let contract ← taskContract active
  if !steering.isObject then
    .error "cannot recover a leading steering turn from a non-object payload"
  else
    let inherited := inheritedKeys.foldl (fun merged key =>
      (active.get key).elim (merged.remove key) (merged.set key)) steering
    let merged := writeNormalizedExecutionMode ((inherited.set "task_contract" contract).set
      "_task_contract_origin" (.string "active_task")) mode
    return if isGiven steering "tool_profile" then merged
      else merged.set "tool_profile" (.string profile.name)

/- What an interrupted task left behind. -/
structure TaskRecovery where
  reason : String
  uncertain : Bool
  reconciliationRequired : Bool
  record : Json.Value

/- What a restarted task continues with. -/
structure RecoveredTaskContinuation where
  governorUsage : Json.Value
  delegation : Option TimedDelegationRecoveryState

/- What is read inside of a prompt, and what the host has checked. -/
structure PromptLibrary where
  hasPrompt : Json.Value → Bool
  checkContract : Json.Value → Except String Unit
  taskContract : Json.Value → Except String Json.Value
  recoveredGovernor : List RuntimeEvent → Except String (Option Json.Value)
  decodeContinuation : Json.Value → Except String RecoveredTaskContinuation
  decodeCheckpoint : Json.Value → Except String TimedDelegationRecoveryState
  encodeContinuation : RecoveredTaskContinuation → Json.Value
  defaultContinuation : RecoveredTaskContinuation
  analyzeTask : List RuntimeEvent → TaskId → TaskRecovery
  decodeRecovery : Json.Value → Except String Bool
  runtimeIdentity : String
  -- Stands in for a command that an event does not name.
  newCommandId : CommandId
  -- The payloads that a host records for a prompt.
  Accepted : Json.Value → Prop
  prompt : ∀ payload, Accepted payload → hasPrompt payload = true
  modes : ∀ payload, Accepted payload → ∃ mode profile,
    executionModeFromPayload payload = .ok mode ∧ toolProfileFromPayload payload = .ok profile
  contract : ∀ payload, Accepted payload →
    checkContract payload = .ok () ∧ ∃ read, taskContract payload = .ok read
  flags : ∀ payload, Accepted payload → isFlag payload "defer_external_verification" = true ∧
      isFlag payload "allow_network" = true ∧
      isFlag payload "yolo" = true ∧
      isFlag payload verifierSandboxKey = true
  budget : ∀ payload, Accepted payload → hasValidBudget payload = true
  merged : ∀ active steering result, Accepted active →
    Accepted steering → flag steering "steer" = true →
    inheritSteeringExecutionSurface taskContract active steering = .ok result → Accepted result
  setBudget : ∀ payload budget, Accepted payload →
    0 < budget → Accepted (payload.set "max_elapsed_ms" (.number (.posInt budget)))
  removeBudget : ∀ payload, Accepted payload → Accepted (payload.remove "max_elapsed_ms")

structure RecoveredPendingTurn where
  sequenceNo : Nat
  actor : Actor
  payload : Json.Value
  commandId : CommandId
  turnId : TurnId
  allowNetwork : Bool
  yolo : Bool
  steer : Bool
  continuation : Option RecoveredTaskContinuation

abbrev PendingTurns := Table RecoveredPendingTurn.turnId

abbrev PendingTurns.turnIds (pending : PendingTurns) : List TurnId :=
  pending.rows.map RecoveredPendingTurn.turnId

def queuedTurnError (event : RuntimeEvent) (detail : String) : ClientError :=
  .taskExecution ("durable queued turn event " ++ event.id.toText ++ " " ++ detail)

def requireTurn {α : Type} (event : RuntimeEvent) (detail : String) :
    Option α → Except ClientError α
| some value => .ok value
| none => .error (queuedTurnError event detail)

def ensureTurn (event : RuntimeEvent) (detail : String) (holds : Bool) : Except ClientError Unit :=
  if holds then .ok () else .error (queuedTurnError event detail)

def validTurn {α : Type} (event : RuntimeEvent) (field : String)
    (read : Except String α) : Except ClientError Unit := do
  let _ ← read.mapError (fun error =>
    queuedTurnError event ("has an invalid " ++ field ++ ": " ++ error))

/- The host that recovers a turn without one acts itself. -/
def pendingTurnRecoveryActor : Actor := ⟨.runtime, "runtime-pending-turn-recovery"⟩

section

variable (library : PromptLibrary)

def checkQueuedTurn (event : RuntimeEvent) (payload : Json.Value) : Except ClientError Unit := do
  -- a steer has the mode of the turn that it steers
  let steer := flag payload "steer"
  ensureTurn event "has an empty prompt" (library.hasPrompt payload)
  if !steer then validTurn event "execution mode" (executionModeFromPayload payload)
  if !steer || isGiven payload "tool_profile" then
    validTurn event "tool profile" (toolProfileFromPayload payload)
  (library.checkContract payload).mapError (queuedTurnError event)
  ensureTurn event "has an invalid max_elapsed_ms" (hasValidBudget payload)
  ensureTurn event "has non-boolean defer_external_verification"
    (isFlag payload "defer_external_verification")
  ensureTurn event "has non-boolean allow_network" (isFlag payload "allow_network")
  ensureTurn event "has non-boolean yolo" (isFlag payload "yolo")
  ensureTurn event "has an invalid verifier sandbox requirement" (isFlag payload verifierSandboxKey)

/- The turn that an event has queued or updated. -/
def recoveredPendingTurnFromEvent (event : RuntimeEvent) :
    Except ClientError RecoveredPendingTurn := do
  let turnId ← requireTurn event "is missing turn_id" event.turnId
  let payload ← requireTurn event "is missing payload" (event.payload.get "payload")
  checkQueuedTurn library event payload
  return {
    sequenceNo := event.sequenceNo
    actor := (((event.payload.pointer ["runtime", "runtime_lane", "active_controller"]).or
          (event.payload.pointer ["runtime_lane", "active_controller"])).bind
              Actor.codec.decode).getD pendingTurnRecoveryActor
    payload := payload
    commandId := (((event.payload.get "command_id").bind
        Json.Value.asStr).bind Id.ofText).getD library.newCommandId
    turnId := turnId
    allowNetwork := flag payload "allow_network"
    yolo := flag payload "yolo"
    steer := flag payload "steer"
    continuation := none }

def recoveredPendingTurnsKey : String := "recovered_pending_turns"

def recoveredSequenceNosKey : String := "recovered_pending_sequence_nos"

/- A recovery moves turns by an event without a turn. -/
def isPendingTransferEvent (event : RuntimeEvent) : Bool :=
  event.eventType = .turnQueued && event.turnId.isNone &&
    ((event.payload.get recoveredSequenceNosKey).isSome ||
      (event.payload.get recoveredPendingTurnsKey).isSome)

def transferTurnId (entry : Json.Value) : Except ClientError TurnId :=
  match entry.get "turn_id" with
  | none => .error (.taskExecution "recovery transfer entry is missing turn_id")
  | some value =>
    match Id.codec.decode value with
    | none => .error (.taskExecution "recovery transfer entry has an invalid turn_id")
    | some turnId => .ok turnId

def transferPayload (turnId : TurnId) (entry : Json.Value) : Except ClientError Json.Value :=
  match entry.get "payload" with
  | none => .error (.taskExecution
      ("recovery transfer entry for turn " ++ turnId.toText ++ " is missing payload"))
  | some payload => .ok payload

variable (source : RuntimeEvent)

/- A transferred turn, as the event that queued it. -/
def inlineRecoveredPendingEvent (entry : Json.Value) : Except ClientError RuntimeEvent := do
  let turnId ← transferTurnId entry
  let payload ← transferPayload turnId entry
  let commandId := (entry.get "command_id").getD (.string library.newCommandId.toText)
  let actor := ((entry.get "actor").or (source.payload.pointer
      ["runtime_lane", "active_controller"])).getD (Actor.codec.encode pendingTurnRecoveryActor)
  return { source with
    sequenceNo := ((entry.get "sequence_no").bind Json.Value.asU64).getD source.sequenceNo
    turnId := some turnId
    payload := .object [("command_id", commandId), ("payload", payload),
      ("runtime_lane", .object [("active_controller", actor)])] }

/- The turns that an entry of a transfer adds. -/
def transferEntry (transferred : PendingTurns)
    (entry : Json.Value) : Except ClientError PendingTurns := do
  let event ← inlineRecoveredPendingEvent library source entry
  let recovered ← recoveredPendingTurnFromEvent library event
  return transferred.put recovered

variable (log : List RuntimeEvent)

/- An older transfer names the events of its turns only. -/
def transferReference (transferred : PendingTurns)
    (sequenceNo : Nat) : Except ClientError PendingTurns :=
  match log.find? (·.sequenceNo = sequenceNo) with
  | none => .ok transferred
  | some event => do
      let recovered ← recoveredPendingTurnFromEvent library event
      return (transferred.insert? recovered).getD transferred

def transferEvent (transferred : PendingTurns) (event : RuntimeEvent) :
    Except ClientError PendingTurns := do
  let transferred ←
    (((event.payload.get recoveredPendingTurnsKey).bind Json.Value.asArray).getD []).foldlM
        (transferEntry library event) transferred
  ((((event.payload.get recoveredSequenceNosKey).bind
    Json.Value.asArray).getD []).filterMap Json.Value.asU64).foldlM (transferReference library log)
        transferred

def recoverableTransferTurns (events : List RuntimeEvent) : Except ClientError PendingTurns :=
  (events.filter isPendingTransferEvent).foldlM (transferEvent library log) .empty

structure RecoveredActiveTurnSurface where
  payload : Json.Value
  budgetTurnId : Option TurnId
  budgetStartedAt : Option Timestamp

/- The settings, and the payloads of the queued turns. -/
structure SurfaceState where
  active : Option RecoveredActiveTurnSurface
  queuedPayloads : TurnId → Option Json.Value

def inheritSurface (active steering : Json.Value) : Except ClientError Json.Value :=
  (inheritSteeringExecutionSurface library.taskContract active steering).mapError .taskExecution

/- A steer is merged with the turn that it steers. -/
def steerSurface (turnId : TurnId) (payload : Json.Value) :
    Option RecoveredActiveTurnSurface → Except ClientError RecoveredActiveTurnSurface
| none => .error (.taskExecution
    ("cannot recover steering turn " ++ turnId.toText ++ " without an active execution surface"))
| some current => do
    let merged ← inheritSurface library current.payload payload
    return { current with payload := merged }

def startedPayload (state : SurfaceState) (transferred : PendingTurns)
    (turnId : TurnId) (event : RuntimeEvent) : Except ClientError Json.Value :=
  match ((event.payload.get "payload").or
      (state.queuedPayloads turnId)).or ((transferred.find? turnId).map
          RecoveredPendingTurn.payload) with
  | some payload => .ok payload
  | none => .error (.taskExecution
      ("cannot recover active turn " ++ turnId.toText ++ ": its durable payload is missing"))

def isRestartedTurn (event : RuntimeEvent) : Bool :=
  (event.payload.get "recovery").bind Json.Value.asStr = some "durable_pending_turn"

def startSurface (transferred : PendingTurns) (state : SurfaceState) (turnId : TurnId)
    (event : RuntimeEvent) : Except ClientError SurfaceState := do
  let payload ← startedPayload state transferred turnId event
  let queuedPayloads := Function.update state.queuedPayloads turnId none
  if flag payload "steer" && !isRestartedTurn event then
    let active ← steerSurface library turnId payload state.active
    return ⟨some active, queuedPayloads⟩
  else return ⟨some ⟨payload, some turnId, none⟩, queuedPayloads⟩

/- The budget of a turn runs from its first step. -/
def beginBudget (event : RuntimeEvent)
    (current : RecoveredActiveTurnSurface) : RecoveredActiveTurnSurface :=
  if current.budgetStartedAt.isNone &&
      current.budgetTurnId.all (fun turnId => event.turnId = some turnId) then
    { current with budgetStartedAt := some event.timestamp }
  else current

/- How an event changes the settings. -/
def surfaceEvent (transferred : PendingTurns) (state : SurfaceState)
    (event : RuntimeEvent) : Except ClientError SurfaceState :=
  match event.eventType with
  | .taskCreated =>
    match event.payload.get "payload" with
    | none => .ok state
    | some payload => .ok { state with active := some ⟨payload, event.turnId, none⟩ }
  | .turnQueued | .turnUpdated => .ok (queuePayload state event)
  | .turnCancelled =>
    match event.turnId with
    | none => .ok state
    | some turnId =>
      .ok { state with queuedPayloads := Function.update state.queuedPayloads turnId none }
  | .turnStarted =>
    match event.turnId with
    | none => .ok state
    | some turnId => startSurface library transferred state turnId event
  | .stepStarted => .ok { state with active := state.active.map (beginBudget event) }
  | _ => .ok state
where
  queuePayload (state : SurfaceState) (event : RuntimeEvent) : SurfaceState :=
    match event.turnId, event.payload.get "payload" with
    | some turnId, some payload =>
      { state with queuedPayloads := Function.update state.queuedPayloads turnId (some payload) }
    | _, _ => state

def recoveredActiveTurnSurface (transferred : PendingTurns) (events : List RuntimeEvent) :
    Except ClientError (Option RecoveredActiveTurnSurface) := do
  let state ← events.foldlM (surfaceEvent library transferred) ⟨none, fun _ => none⟩
  return state.active

/- The whole milliseconds since the budget began to run. -/
def recoveredElapsedMs (budgetStartedAt : Option Timestamp) (recoveredAt : Timestamp) : Nat :=
  match budgetStartedAt with
  | none => 0
  | some startedAt => ((recoveredAt.nanos - startedAt.nanos) / 1000000).toNat

def recoveredSteerHasMaterializedSurface (payload : Json.Value) : Bool :=
  (payload.get "steer").bind Json.Value.asBool = some true &&
    (payload.get "_task_contract_origin").bind Json.Value.asStr = some "active_task" &&
    (payload.get "task_contract").any Json.Value.isObject && ((payload.get "_execution_mode").bind
      Json.Value.asStr).any (fun mode => mode = "legacy" || mode = "open" || mode = "strict") &&
    ((payload.get "tool_profile").bind Json.Value.asStr).any (fun profile => profile = "coding" ||
        profile = "full") &&
    hasValidBudget payload

/- What is left of the budget goes to the steer. -/
def materializeRecoveredLeadingSteer (surface : RecoveredActiveTurnSurface)
    (recoveredAt : Timestamp) (steering : Json.Value) : Except ClientError Json.Value := do
  let merged ← inheritSurface library surface.payload steering
  match surface.payload.get "max_elapsed_ms" with
  | none => return merged.remove "max_elapsed_ms"
  | some .null => return merged.remove "max_elapsed_ms"
  | some value =>
    match value.asU64.filter (fun budget => 0 < budget) with
    | some budget =>
      return merged.set "max_elapsed_ms" (.number (.posInt (max 1 (budget -
          recoveredElapsedMs surface.budgetStartedAt recoveredAt))))
    | none =>
      throw (.taskExecution
        "cannot recover a leading steering turn from an invalid active elapsed-time budget")

variable (pending : PendingTurns)

/- An update keeps the place and the actor of its turn. -/
def updatePending (updated : RecoveredPendingTurn) : PendingTurns :=
  match pending.find? updated.turnId with
  | none => pending
  | some original =>
    pending.put { updated with
        sequenceNo := original.sequenceNo
        actor := original.actor }

/- How an event changes the pending turns. -/
def pendingEvent (event : RuntimeEvent) : Except ClientError PendingTurns :=
  match event.eventType with
  | .turnQueued =>
    if isPendingTransferEvent event then .ok pending
    else do
      let recovered ← recoveredPendingTurnFromEvent library event
      return pending.put recovered
  | .turnUpdated => do
      let updated ← recoveredPendingTurnFromEvent library event
      return updatePending pending updated
  | .turnStarted | .turnCancelled => .ok (removeTurn pending event)
  | _ => .ok pending
where
  removeTurn (pending : PendingTurns) (event : RuntimeEvent) : PendingTurns :=
    match event.turnId with
    | none => pending
    | some turnId => pending.delete turnId

def recoveryContinuationKey : String := "recovery_continuation"

/- What an event says about the delegation of its task. -/
def delegationFact (event : RuntimeEvent) : Except String (Option DelegationFact) :=
  match event.eventType with
  | .turnQueued =>
    match (event.payload.get recoveryContinuationKey).filter
        (fun _ => isPendingTransferEvent event) with
    | none => .ok none
    | some value => do
        let continuation ← library.decodeContinuation value
        return some (.transfer continuation.delegation)
  | .taskCreated | .turnStarted =>
    .ok (((event.payload.get "payload").bind (·.get "_delegation")).map .started)
  | .checkpointCreated =>
    match (event.payload.get "delegation_recovery").filter (fun _ =>
        (event.payload.get "recovery_kind").bind Json.Value.asStr = some "delegation_budget") with
    | none => .ok none
    | some value => do
        let checkpoint ← library.decodeCheckpoint value
        return some (.checkpoint checkpoint)
  | _ => .ok none

/- A delegation that a restarted child hands over is no root state, and is refused. -/
def recoveredTaskContinuation (events : List RuntimeEvent) (recoveredAt : Timestamp) :
    Except String (Option RecoveredTaskContinuation) := do
  let governor ← library.recoveredGovernor events
  let facts ← events.mapM (fun event => do
    let fact ← delegationFact library event
    return fact.map (⟨event.sessionId, event.timestamp, ·⟩))
  let delegation ← recoveredDelegation facts.reduceOption recoveredAt
  if governor.isSome || delegation.isSome then
    return some ⟨governor.getD library.defaultContinuation.governorUsage, delegation⟩
  else return none

/-
  The first turn carries the continuation of the task. If it is a steer, it no
  longer has a turn to steer, and takes over the settings of the task.
-/
def leadPendingTurns (surface : Option RecoveredActiveTurnSurface)
    (continuation : Option RecoveredTaskContinuation) (recoveredAt : Timestamp) :
    List RecoveredPendingTurn → Except ClientError (List RecoveredPendingTurn)
| [] => .ok []
| first :: rest =>
  let first := { first with continuation }
  if first.steer && !recoveredSteerHasMaterializedSurface first.payload then
    match surface with
    | none => .error (.taskExecution
        "cannot recover a leading steering turn without its active task payload")
    | some surface => do
        let payload ← materializeRecoveredLeadingSteer library surface recoveredAt first.payload
        return { first with payload } :: rest
  else .ok (first :: rest)

def taskEvents (log : List RuntimeEvent) (taskId : TaskId) : List RuntimeEvent :=
  log.filter (·.taskId = some taskId)

def recoverablePendingTurns (recoveredAt : Timestamp) (log : List RuntimeEvent) :
    Option TaskId → Except ClientError (List RecoveredPendingTurn)
| none => .ok []
| some taskId => do
    let events := taskEvents log taskId
    let transferred ← recoverableTransferTurns library log events
    let surface ← recoveredActiveTurnSurface library transferred events
    let continuation ← (recoveredTaskContinuation library events recoveredAt).mapError
      .taskExecution
    let pending ← events.foldlM (pendingEvent library) transferred
    leadPendingTurns library surface continuation recoveredAt
      (pending.rows.insertionSort (fun first second => first.sequenceNo ≤ second.sequenceNo))

end

end GolutraAgent.Client
