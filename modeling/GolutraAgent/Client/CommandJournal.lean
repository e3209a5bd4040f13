import GolutraAgent.Client.Host
import GolutraAgent.Store.Replay

/-
  This file models how a host handles a command: the checks before the journal
  is read, the lock of the idempotency key, the claim of the key, the handler,
  and the completion. A call may fail or crash between any two of these steps,
  and any number of calls of any number of hosts are under way at a time.

  The lock of a key is a file lock of the operating system. It is held by one
  call at most, from its acquisition to the end of the call, and is released by
  a crash.

  What the calls do is recorded in a trace: receipts and completions that are
  stored, handlers that start, and what the calls return.
-/

namespace GolutraAgent.Client

open GolutraAgent.Runtime Store

def maxIdempotencyKeyChars : Nat := 512

def maxActorIdChars : Nat := 256

def maxCommandPayloadJsonBytes : Nat := 256 * 1024

def provisionalCommandAckReason : String := "command accepted for processing"

/- White space, as Unicode has it. -/
def isWhitespace (c : Char) : Bool :=
  let n := c.toNat
  (0x9 ≤ n && n ≤ 0xD) || n = 0x20 || n = 0x85 || n = 0xA0 || n = 0x1680 ||
    (0x2000 ≤ n && n ≤ 0x200A) || n = 0x2028 || n = 0x2029 || n = 0x202F || n = 0x205F || n = 0x3000

def trim (text : String) : String :=
  let start := text.toList.dropWhile isWhitespace
  String.ofList (start.reverse.dropWhile isWhitespace).reverse

/- Keys of different workspaces do not meet. -/
def scopedIdempotencyKey (host : RuntimeHost) (idempotencyKey : String) : String :=
  host.workspaceId.toText ++ ":" ++ idempotencyKey

def rejectedAck (commandId : CommandId) (reason : String) : CommandAck :=
  ⟨commandId, false, some reason⟩

variable (host : RuntimeHost)

/- A thread of another workspace is out of reach. -/
def ensureThreadInWorkspace (thread : ThreadRecord) : Except ClientError Unit :=
  match host.workspaceRoot with
  | none => .ok ()
  | some workspaceRoot =>
    if thread.workspaceRoot = some workspaceRoot then .ok ()
    else
      .error (.invalidSession ("thread `" ++ thread.threadId.toText ++
          "` does not belong to workspace `" ++ workspaceRoot ++ "`"))

def ensureSessionInWorkspace (database : Database)
    (sessionId : SessionId) : Except ClientError Unit :=
  match database.threads.rows.find? (·.sessionId = sessionId) with
  | none => .ok ()
  | some thread => ensureThreadInWorkspace host thread

def commandSession (command : SessionCommand) : SessionId :=
  command.sessionId.getD host.defaultSessionId

variable (library : HostLibrary)

/-
  The scoped key of a command that may go on, or what the call returns at once.
-/
def admitCommand (host : RuntimeHost) (database : Database) (shuttingDown : Bool)
    (command : SessionCommand) : Except (Except ClientError CommandAck) String :=
  let idempotencyKey := trim command.idempotencyKey
  if idempotencyKey.isEmpty then
    .error (.ok (rejectedAck command.commandId "idempotency_key is required"))
  else if maxIdempotencyKeyChars < idempotencyKey.length then
    .error (.ok (rejectedAck command.commandId "idempotency_key exceeds 512 characters"))
  else if (trim command.actor.id).isEmpty || maxActorIdChars < command.actor.id.length then
    .error (.ok (rejectedAck command.commandId "actor id must contain 1..=256 characters"))
  else if maxCommandPayloadJsonBytes < library.payloadSize command.payload then
    .error (.ok (rejectedAck command.commandId "command payload exceeds 262144 serialized bytes"))
  else
    match ensureSessionInWorkspace host database (commandSession host command) with
    | .error error => .error (.error error)
    | .ok () =>
      if shuttingDown && (command.kind = .create || command.kind = .prompt) then
        .error (.ok (rejectedAck command.commandId "runtime host is shutting down"))
      else .ok (scopedIdempotencyKey host idempotencyKey)

def commandReceivedEvent (context : EventContext) (sessionId : SessionId)
    (command : SessionCommand) : RuntimeEvent :=
  hostEvent context sessionId none none .commandReceived .runtime (.object [
        ("summary", .string "runtime command durably received"),
        ("command_id", .string command.commandId.toText),
        ("kind", .string (Text.snakeName command.kind)),
        ("actor", Actor.codec.encode command.actor),
        ("payload_sha256", .string (library.payloadDigest command.payload))])

/- The acknowledgement that is stored for an outcome. -/
def outcomeAck (commandId : CommandId) : Except ClientError CommandAck → CommandAck
| .ok ack => ack
| .error error => rejectedAck commandId (library.errorText error)

def outcomeSummary : Except ClientError CommandAck → String
| .ok ack =>
  if ack.accepted then "runtime command accepted"
  else "runtime command rejected"
| .error _ => "runtime command failed"

def commandCompletedEvent (library : HostLibrary) (context : EventContext) (sessionId : SessionId)
    (commandId : CommandId) (outcome : Except ClientError CommandAck) : RuntimeEvent :=
  let ack := outcomeAck library commandId outcome
  hostEvent context sessionId none none .commandCompleted .runtime (.object
      [("summary", .string (outcomeSummary outcome)), ("command_id", .string commandId.toText),
        ("accepted", .bool ack.accepted), ("reason", Json.Codec.string.nullable ack.reason)])

/- The phases of a call, in their order. -/
inductive CallPhase
| waiting
| locked
| claimed
| handling
| finished (result : Except ClientError CommandAck)

/- A call under way. -/
structure Call where
  key : String
  sessionId : SessionId
  command : SessionCommand
  phase : CallPhase

def Call.commandId (call : Call) : CommandId := call.command.commandId

/- What is noted of a call for the statements about whole runs. -/
inductive CommandItem
| refused (commandId : CommandId) (result : Except ClientError CommandAck)
| received (key : String) (commandId : CommandId) (event : RuntimeEvent)
| handlerStarted (key : String) (commandId : CommandId)
| completed (key : String) (commandId : CommandId) (ack : CommandAck) (event : RuntimeEvent)
| returned (key : String) (commandId : CommandId) (result : Except ClientError CommandAck)

/- The database, the calls and the locks of their keys. -/
structure CommandSystem where
  database : Database
  calls : Nat → Option Call
  locks : String → Option Nat
  trace : List CommandItem

inductive CommandOp
| submit (id : Nat) (host : RuntimeHost) (shuttingDown : Bool) (command : SessionCommand)
| acquire (id : Nat)
| claim (id : Nat) (context : EventContext) (enrichment : Enrichment) (now : Timestamp)
    (commits : Bool)
| startHandler (id : Nat)
| complete (id : Nat) (outcome : Except ClientError CommandAck) (context : EventContext)
    (enrichment : Enrichment) (now : Timestamp) (commits : Bool)
| reply (id : Nat)
| fail (id : Nat) (error : ClientError)
| crash (id : Nat)
| write (attempt : StoreAttempt)

namespace CommandSystem

def new : CommandSystem := ⟨.empty, fun _ => none, fun _ => none, []⟩

variable (s : CommandSystem)

/- Another phase of a call that is under way. -/
def setPhase (id : Nat) (call : Call) (phase : CallPhase) : CommandSystem :=
  { s with calls := Function.update s.calls id (some { call with phase }) }

/- A call ends, and with it its hold of a lock. -/
def endCall (id : Nat) : CommandSystem :=
  { s with
    calls := Function.update s.calls id none
    locks := fun key => if s.locks key = some id then none else s.locks key }

def record (items : List CommandItem) : CommandSystem := { s with trace := s.trace ++ items }

/- A call ends with a result. -/
def returns (id : Nat) (call : Call) (result : Except ClientError CommandAck) : CommandSystem :=
  (s.record [.returned call.key call.commandId result]).endCall id

def submit (library : HostLibrary) (s : CommandSystem) (id : Nat) (host : RuntimeHost)
    (shuttingDown : Bool) (command : SessionCommand) : CommandSystem :=
  if (s.calls id).isSome then s
  else
    match admitCommand library host s.database shuttingDown command with
    | .error result => s.record [.refused command.commandId result]
    | .ok key =>
      { s with
        calls := Function.update s.calls id (some ⟨key, commandSession host command, command,
            .waiting⟩) }

def acquire (s : CommandSystem) (id : Nat) (call : Call) : CommandSystem :=
  match s.locks call.key with
  | some _ => s
  | none => { s.setPhase id call .locked with locks := Function.update s.locks call.key (some id) }

/- How a call goes on with what its claim came to. -/
def afterClaim (s : CommandSystem) (id : Nat) (call : Call) (database : Database) :
    CommandClaim → CommandSystem
| .conflict existingCommandId =>
  { s with database }.returns id call (.ok (rejectedAck call.commandId
      ("idempotency key is already assigned to command " ++ existingCommandId)))
| .existing ack => { s with database }.setPhase id call (.finished (.ok ack))
| .claimed none => { s with database }.setPhase id call .claimed
| .claimed (some event) =>
  ({ s with database }.setPhase id call .claimed).record [.received call.key call.commandId event]

/- The claim runs in one transaction, which the environment may roll back. -/
def claim (library : HostLibrary) (s : CommandSystem) (id : Nat)
    (call : Call) (context : EventContext) (enrichment : Enrichment)
    (now : Timestamp) (commits : Bool) : CommandSystem :=
  let provisionalAck : CommandAck := ⟨call.commandId, true, some provisionalCommandAckReason⟩
  let event := enrichment.apply (commandReceivedEvent library context call.sessionId call.command)
  if !commits then s.returns id call (.error (.store (.sqlx .rolledBack)))
  else
    match (claimCommand call.key call.commandId provisionalAck event now).run s.database with
    | .error error => s.returns id call (.error (.store error))
    | .ok (claim, database) => s.afterClaim id call database claim

variable (library : HostLibrary)

/- The completion likewise. -/
def complete (s : CommandSystem) (id : Nat) (call : Call)
    (outcome : Except ClientError CommandAck) (context : EventContext) (enrichment : Enrichment)
    (now : Timestamp) (commits : Bool) : CommandSystem :=
  let ack := outcomeAck library call.commandId outcome
  let event := enrichment.apply (commandCompletedEvent library
    context call.sessionId call.commandId outcome)
  if !commits then s.returns id call (.error (.store (.sqlx .rolledBack)))
  else
    match (completeCommand call.key call.commandId ack event now).run s.database with
    | .error error => s.returns id call (.error (.store error))
    | .ok (event, database) =>
      ({ s with database }.setPhase id call (.finished outcome)).record
          [.completed call.key call.commandId ack event]

/- A call moves only from the phase that it is in. -/
def step (s : CommandSystem) : CommandOp → CommandSystem
| .submit id host shuttingDown command => s.submit library id host shuttingDown command
| .acquire id =>
  match s.calls id with
  | some call =>
    match call.phase with
    | .waiting => s.acquire id call
    | _ => s
  | none => s
| .claim id context enrichment now commits =>
  match s.calls id with
  | some call =>
    match call.phase with
    | .locked => s.claim library id call context enrichment now commits
    | _ => s
  | none => s
| .startHandler id =>
  match s.calls id with
  | some call =>
    match call.phase with
    | .claimed => (s.setPhase id call .handling).record [.handlerStarted call.key call.commandId]
    | _ => s
  | none => s
| .complete id outcome context enrichment now commits =>
  match s.calls id with
  | some call =>
    match call.phase with
    | .handling => s.complete library id call outcome context enrichment now commits
    | _ => s
  | none => s
| .reply id =>
  match s.calls id with
  | some call =>
    match call.phase with
    | .finished result => s.returns id call result
    | _ => s
  | none => s
| .fail id error =>
  match s.calls id with
  | some call => s.returns id call (.error error)
  | none => s
| .crash id => s.endCall id
| .write attempt =>
  if .commandAcks ∈ attempt.op.changes then s
  else { s with database := s.database.step attempt }

end CommandSystem

end GolutraAgent.Client
