import GolutraAgent.Store.Database

/-
  This file models the transactions of the runtime store that append events:
  plain appends, the claim and the completion of a command, the bundle of a
  completed tool, the enqueuing of a job, the changes of a thread, and the fork
  of a thread with a copy of its events.

  Each runs in one database transaction. What it reads from the clock and the
  identifiers it generates are arguments.
-/

namespace GolutraAgent.Store

def appendEventAssigningSequence (event : RuntimeEvent) : StoreTx RuntimeEvent :=
  onJournal (appendEventAssigningSequenceInTransaction event)

inductive CommandClaim
| claimed (receiptEvent : Option RuntimeEvent)
| existing (ack : CommandAck)
| conflict (existingCommandId : String)

variable (idempotencyKey : String) (commandId : CommandId)

/- The row that a claim inserts. -/
def claimedRow (ack : CommandAck) (now : Timestamp) : CommandAckRow where
  idempotencyKey := idempotencyKey
  commandId := commandId
  ack := ack
  status := .processing
  createdAt := now
  updatedAt := now

/-
  A row of the same command that is still being processed may be claimed again,
  without a second receipt.
-/
def claimCommand (provisionalAck : CommandAck) (receiptEvent : RuntimeEvent)
    (now : Timestamp) : StoreTx CommandClaim := do
  let database ← get
  match database.commandAcks.insert? (claimedRow idempotencyKey commandId provisionalAck now) with
  | some commandAcks =>
    set { database with commandAcks }
    let event ← appendEventAssigningSequence receiptEvent
    return .claimed (some event)
  | none =>
    match database.commandAcks.find? idempotencyKey with
    | none => throw (.sqlx .rowNotFound)
    | some row =>
      if row.commandId ≠ commandId then return .conflict row.commandId.toText
      else if row.status = .processing then return .claimed none
      else return .existing row.ack

/- The update does not ask for the status of the row. -/
def completeCommand (ack : CommandAck) (completionEvent : RuntimeEvent)
    (now : Timestamp) : StoreTx RuntimeEvent := do
  let database ← get
  match database.commandAcks.find? idempotencyKey with
  | none => throw (.invalidId ("command journal entry not found for `" ++ idempotencyKey ++ "`"))
  | some row =>
    if row.commandId ≠ commandId then
      throw (.invalidId ("idempotency key belongs to command " ++
          row.commandId.toText ++ ", not " ++ commandId.toText))
    else
      set { database with
        commandAcks := database.commandAcks.updateWhere
          (fun row => row.idempotencyKey = idempotencyKey && row.commandId = commandId) (fun row =>
            { row with
              ack := ack
              status := if ack.accepted then .completed else .rejected
              updatedAt := now })
          (fun _ => rfl) }
      appendEventAssigningSequence completionEvent

def debugArtifactRetentionDays : Int := 30

def checkpointArtifactRetentionDays : Int := 30

def ephemeralArtifactRetentionDays : Int := 1

def nanosPerDay : Int := 24 * 60 * 60 * 1000000000

/- The number of days that a blob is kept. -/
def retentionDays (retentionPolicy : String) : Option Int :=
  match retentionPolicy with
  | "debug_default" => some debugArtifactRetentionDays
  | "restore_only_owner_access" => some checkpointArtifactRetentionDays
  | "ephemeral" => some ephemeralArtifactRetentionDays
  | _ => none

def artifactExpiration (artifact : ArtifactRecord) : Option Timestamp :=
  (retentionDays artifact.retentionPolicy).map (fun days =>
    ⟨artifact.createdAt.nanos + days * nanosPerDay⟩)

/- Make a tombstone of an artifact, or lift it. -/
def setBlobDeletedAt (records : Table ArtifactRow.artifactId)
    (artifactId : ArtifactId) (deletedAt : Option Timestamp) : Table ArtifactRow.artifactId :=
  records.updateWhere (·.artifactId = artifactId)
    (fun row => { row with blobDeletedAt := deletedAt }) (fun _ => rfl)

/-
  The metadata of an artifact that is known already has to be the same; its
  tombstone, if any, is lifted.
-/
def insertArtifactMetadataInTransaction (artifact : ArtifactRecord) : StoreTx Unit := do
  let database ← get
  let row : ArtifactRow := ⟨artifact, artifactExpiration artifact, none⟩
  match database.artifactRecords.insert? row with
  | some artifactRecords => set { database with artifactRecords }
  | none =>
    match database.artifactRecords.find? artifact.artifactId with
    | none => throw (.sqlx .rowNotFound)
    | some existing =>
      if existing.artifact ≠ artifact then
        throw (.artifactIo ("artifact " ++
          artifact.artifactId.toText ++ " already has different metadata"))
      else
        set { database with
          artifactRecords := setBlobDeletedAt database.artifactRecords artifact.artifactId none }

def insertEvidenceInTransaction (evidence : EvidenceRecord) : StoreTx Unit := do
  let database ← get
  match database.evidenceRecords.insert? evidence with
  | none => throw (.sqlx (.uniqueConstraint "evidence_id"))
  | some evidenceRecords => set { database with evidenceRecords }

/- What the fields of a tool result refer to. -/
structure ToolReferences where
  artifacts : List ArtifactId
  evidence : List EvidenceId

namespace ToolReferences

def none : ToolReferences := ⟨[], []⟩

def append (first second : ToolReferences) : ToolReferences :=
  ⟨first.artifacts ++ second.artifacts, first.evidence ++ second.evidence⟩

end ToolReferences

/- A key is the name of a reference, or ends in it. -/
def namesReference (key name : String) : Bool := key = name || key.endsWith ("_" ++ name)

/- The reference that a string is under a key. -/
def referenceOf (key : Option String) (text : String) : Except StoreError ToolReferences :=
  match key with
  | none => .ok .none
  | some key =>
    if namesReference key "artifact_ref" || namesReference key "artifact_refs" then
      match (Id.ofText text : Option ArtifactId) with
      | some id => .ok ⟨[id], []⟩
      | none => .error (.invalidToolCompletionBundle
          ("artifact reference " ++ text ++ " is invalid"))
    else if namesReference key "evidence_ref" || namesReference key "evidence_refs" then
      match (Id.ofText text : Option EvidenceId) with
      | some id => .ok ⟨[], [id]⟩
      | none => .error (.invalidToolCompletionBundle
          ("evidence reference " ++ text ++ " is invalid"))
    else .ok .none

mutual

def collectToolCompletionReferences (key : Option String) :
    Json.Value → Except StoreError ToolReferences
| .object fields => collectFields fields
| .array items => collectItems key items
| .string text => referenceOf key text
| _ => .ok .none

def collectItems (key : Option String) : List Json.Value → Except StoreError ToolReferences
| [] => .ok .none
| item :: items => do
    let first ← collectToolCompletionReferences key item
    let rest ← collectItems key items
    return first.append rest

def collectFields : List (String × Json.Value) → Except StoreError ToolReferences
| [] => .ok .none
| (name, value) :: fields => do
    let first ← collectToolCompletionReferences (some name) value
    let rest ← collectFields fields
    return first.append rest

end

/- The payload of a completed tool holds an envelope. -/
def requireEnvelope (event : RuntimeEvent) : Except StoreError Unit :=
  match event.payload.get "envelope" with
  | none => .error (.invalidToolCompletionBundle
      "ToolCompleted payload must contain a tool result envelope")
  | some value =>
    match ToolResultEnvelope.decode value with
    | none => .error (.json "envelope")
    | some _ => .ok ()

def isLiveArtifact (database : Database) (artifactId : ArtifactId) : Bool :=
  (database.artifactRecords.find? artifactId).any (·.blobDeletedAt.isNone)

def validateBundleReferencesInTransaction (event : RuntimeEvent)
    (evidence : List EvidenceRecord) : StoreTx Unit := do
  let database ← get
  liftM (requireEnvelope event)
  let references ← liftM (collectToolCompletionReferences none event.payload)
  let artifacts := evidence.flatMap EvidenceRecord.artifactRefs ++
      references.artifacts ++ event.payloadRef.toList
  artifacts.forM (fun artifactId => do
    if !isLiveArtifact database artifactId then
      throw (.invalidToolCompletionBundle ("artifact reference " ++ artifactId.toText ++
          " has no live metadata")))
  references.evidence.forM (fun evidenceId => do
    if (database.evidenceRecords.find? evidenceId).isNone then
      throw (.invalidToolCompletionBundle ("evidence reference " ++ evidenceId.toText ++
          " has no record")))

/- The database side of the bundle of a completed tool. -/
def appendToolCompletedBundle (event : RuntimeEvent) (artifacts : List ArtifactRecord)
    (evidence : List EvidenceRecord) : StoreTx RuntimeEvent := do
  artifacts.forM insertArtifactMetadataInTransaction
  evidence.forM insertEvidenceInTransaction
  validateBundleReferencesInTransaction event evidence
  appendEventAssigningSequence event

def enqueuePostTaskJobWithEvent (job : PostTaskJob) (event : RuntimeEvent) :
    StoreTx (Option RuntimeEvent) := do
  let database ← get
  if database.postTaskJobs.rows.any (fun row => row.taskId = job.taskId && row.kind = job.kind) then
    return none
  else
    match database.postTaskJobs.insert? job with
    | none => throw (.sqlx (.uniqueConstraint "job_id"))
    | some postTaskJobs =>
      set { database with postTaskJobs }
      let event ← appendEventAssigningSequence event
      return some event

variable (thread : ThreadRecord)

/- A session belongs to one thread. -/
def upsertThreadInTransaction : StoreTx Unit := do
  let database ← get
  let thread :=
    { thread with
      forkedFromSequenceNo := thread.forkedFromSequenceNo.map
        (fun sequenceNo => min sequenceNo maxInteger) }
  if database.threads.rows.any (fun row =>
      row.sessionId = thread.sessionId && row.threadId ≠ thread.threadId) then
    throw (.sqlx (.uniqueConstraint "session_id"))
  else
    set { database with
      threads := database.threads.upsert thread (fun row =>
          { thread with
            threadId := row.threadId
            createdAt := row.createdAt })
        (fun _ => rfl) }

def upsertThreadWithEvent (event : RuntimeEvent) : StoreTx RuntimeEvent := do
  upsertThreadInTransaction thread
  appendEventAssigningSequence event

def createThreadWithEvent (event : RuntimeEvent) : StoreTx (Option RuntimeEvent) := do
  let database ← get
  if database.threads.rows.any (fun row =>
      row.threadId = thread.threadId || row.sessionId = thread.sessionId) then
    return none
  else
    upsertThreadInTransaction thread
    let event ← appendEventAssigningSequence event
    return some event

def deleteThreadWithEvent (threadId : ThreadId) (event : RuntimeEvent) (now : Timestamp) :
    StoreTx (Option RuntimeEvent) := do
  let database ← get
  if !(database.threads.find? threadId).any (fun row => !row.removed) then return none
  else
    set { database with
      threads := database.threads.updateWhere (fun row => row.threadId = threadId && !row.removed)
        (fun row =>
          { row with
            removed := true
            archived := true
            updatedAt := now
            recencyAt := now })
        (fun _ => rfl) }
    let event ← appendEventAssigningSequence event
    return some event

/- The identifiers that a fork generates. -/
structure ForkIds where
  event : EventId → EventId
  task : TaskId → TaskId
  turn : TurnId → TurnId

/- The maps from the identifiers of the copied events. -/
structure ForkMaps where
  parentSession : SessionId
  childSession : SessionId
  events : List EventId
  tasks : List TaskId
  turns : List TurnId
  ids : ForkIds

namespace ForkMaps

def ofEvents (parentSession childSession : SessionId)
    (events : List RuntimeEvent) (ids : ForkIds) : ForkMaps where
  parentSession := parentSession
  childSession := childSession
  events := events.map RuntimeEvent.id
  tasks := events.flatMap (fun event => event.taskId.toList ++ event.causalContext.taskId.toList)
  turns := events.flatMap (fun event => event.turnId.toList ++ event.causalContext.turnId.toList)
  ids := ids

def event (maps : ForkMaps) (eventId : EventId) : Option EventId :=
  if eventId ∈ maps.events then some (maps.ids.event eventId)
  else none

/-
  The replacement of a text that prints an identifier. The entries collected
  last win: turns, tasks, events, session.
-/
def replacement (maps : ForkMaps) (text : String) : Option String :=
  ((maps.turns.find? (·.toText = text)).map (fun id => (maps.ids.turn id).toText)).or
    (((maps.tasks.find? (·.toText = text)).map (fun id => (maps.ids.task id).toText)).or
      (((maps.events.find? (·.toText = text)).map
          (fun id => (maps.ids.event id).toText)).or
        (if maps.parentSession.toText = text then some maps.childSession.toText
        else none)))

end ForkMaps

mutual

def remapJsonIds (maps : ForkMaps) : Json.Value → Json.Value
| .string text => .string ((maps.replacement text).getD text)
| .array items => .array (remapItems maps items)
| .object fields => .object (remapFields maps fields)
| other => other

def remapItems (maps : ForkMaps) : List Json.Value → List Json.Value
| [] => []
| item :: items => remapJsonIds maps item :: remapItems maps items

def remapFields (maps : ForkMaps) : List (String × Json.Value) → List (String × Json.Value)
| [] => []
| (name, value) :: fields => (name, remapJsonIds maps value) :: remapFields maps fields

end

/- Pending turns that are not copied leave the lane. -/
def retainForkedPendingTurns (maps : ForkMaps) (payload : Json.Value) : Json.Value :=
  match payload.get "runtime_lane" with
  | none => payload
  | some lane =>
    match (lane.get "pending_turns").bind Json.Value.asArray with
    | none => payload
    | some pending =>
      payload.set "runtime_lane" (lane.set "pending_turns" (.array (pending.filter (fun value =>
            (value.asStr.bind Id.ofText).any (fun turnId => turnId ∈ maps.turns)))))

/- Every identifier in the event becomes that of its copy. -/
def forkedEvent (maps : ForkMaps) (event : RuntimeEvent) : RuntimeEvent :=
  let context := event.causalContext
  { event with
    id := maps.ids.event event.id
    sessionId := maps.childSession
    taskId := event.taskId.map maps.ids.task
    turnId := event.turnId.map maps.ids.turn
    parentEventId := event.parentEventId.bind maps.event
    causalContext :=
      { context with
        sessionId :=
          if context.sessionId = some maps.parentSession then some maps.childSession
          else context.sessionId
        taskId := context.taskId.map maps.ids.task
        turnId := context.turnId.map maps.ids.turn }
    causalLinks := event.causalLinks.filterMap (fun link =>
      (maps.event link.eventId).map (fun eventId => { link with eventId }))
    payload := remapJsonIds maps (retainForkedPendingTurns maps event.payload) }

/- The events of the parent that a fork copies. -/
def copiedEvents (database : Database) (parentSessionId : SessionId) (throughSequenceNo : Nat)
    (excludedEvents : List EventId) : List RuntimeEvent :=
  (database.journal.selectEvents (fun event =>
    event.sessionId = parentSessionId &&
      event.sequenceNo ≤ min throughSequenceNo maxInteger)).filter
    (·.id ∉ excludedEvents)

def createForkedThreadExcluding (child : ThreadRecord) (parentSessionId : SessionId)
    (throughSequenceNo : Nat) (excludedEvents : List EventId) (ids : ForkIds) :
    StoreTx (List RuntimeEvent) := do
  let database ← get
  let parentEvents := copiedEvents database parentSessionId throughSequenceNo excludedEvents
  let maps := ForkMaps.ofEvents parentSessionId child.sessionId parentEvents ids
  upsertThreadInTransaction child
  parentEvents.mapM (fun event => appendEventAssigningSequence (forkedEvent maps event))

end GolutraAgent.Store
