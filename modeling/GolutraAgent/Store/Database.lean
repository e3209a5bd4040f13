import GolutraAgent.Library.Table
import GolutraAgent.Library.Transaction
import GolutraAgent.Store.Projection
import Mathlib.Data.List.Sort

/-
  This file defines the tables of the runtime store and the transaction steps
  that every event goes through: the next sequence number, the row of the event,
  and the indexes that are kept beside it. All that the later files use of an
  append is `Appended`.

  The event table, its sequence counter and the four indexes form the `Journal`;
  the other tables are not touched by an append.
-/

namespace GolutraAgent.Store

/- The failures of the database engine that are modelled. -/
inductive SqlFailure
| uniqueConstraint (column : String)
| columnDecode (column : String)
| rowNotFound
| rolledBack

inductive StoreError
| sqlx (failure : SqlFailure)
| json (message : String)
| invalidId (detail : String)
| artifactIo (detail : String)
| artifactChecksum (artifactId : String)
| invalidToolCompletionBundle (detail : String)

structure SessionRow where
  sessionId : SessionId
  status : String
  activeTaskId : Option TaskId
  lastSequenceNo : Nat
  createdAt : Timestamp
  updatedAt : Timestamp

structure TaskRow where
  taskId : TaskId
  sessionId : SessionId
  status : String
  lastSequenceNo : Nat
  createdAt : Timestamp
  updatedAt : Timestamp

structure TurnRow where
  turnId : TurnId
  sessionId : SessionId
  taskId : Option TaskId
  status : String
  lastSequenceNo : Nat
  createdAt : Timestamp
  updatedAt : Timestamp

structure ProjectionRow where
  sessionId : SessionId
  lastSequenceNo : Nat
  projection : StateProjection
  updatedAt : Timestamp

/- The events, their counter and their indexes. -/
structure Journal where
  runtimeEvents : Table RuntimeEvent.id
  runtimeSequence : Nat
  sessions : Table SessionRow.sessionId
  tasks : Table TaskRow.taskId
  turns : Table TurnRow.turnId
  stateProjections : Table ProjectionRow.sessionId

inductive CommandStatus
| processing
| completed
| rejected
deriving DecidableEq

structure CommandAckRow where
  idempotencyKey : String
  commandId : CommandId
  ack : CommandAck
  status : CommandStatus
  createdAt : Timestamp
  updatedAt : Timestamp

/- An artifact whose blob is deleted is a tombstone. -/
structure ArtifactRow where
  artifact : ArtifactRecord
  expiresAt : Option Timestamp
  blobDeletedAt : Option Timestamp
deriving DecidableEq

abbrev ArtifactRow.artifactId (row : ArtifactRow) : ArtifactId := row.artifact.artifactId

structure ThreadRecord where
  threadId : ThreadId
  sessionId : SessionId
  parentThreadId : Option ThreadId
  forkedFromTurnId : Option TurnId
  forkedFromSequenceNo : Option Nat
  workspaceRoot : Option String
  reboundFromWorkspaceRoot : Option String
  rolloutPath : Option String
  title : String
  preview : String
  createdAt : Timestamp
  updatedAt : Timestamp
  recencyAt : Timestamp
  archived : Bool
  removed : Bool

structure Database where
  journal : Journal
  commandAcks : Table CommandAckRow.idempotencyKey
  artifactRecords : Table ArtifactRow.artifactId
  evidenceRecords : Table EvidenceRecord.evidenceId
  threads : Table ThreadRecord.threadId
  postTaskJobs : Table PostTaskJob.jobId

def Journal.empty : Journal := ⟨.empty, 0, .empty, .empty, .empty, .empty⟩

def Database.empty : Database := ⟨.empty, .empty, .empty, .empty, .empty, .empty⟩

abbrev JournalTx := Transaction Journal StoreError
abbrev StoreTx := Transaction Database StoreError

/- Steps on the journal, as steps of a store transaction. -/
def onJournal {α : Type} (tx : JournalTx α) : StoreTx α := tx.within Database.journal
    (fun journal database => { database with journal })

/- The largest integer that a column holds. -/
def maxInteger : Nat := 2 ^ 63 - 1

/-
  The counter is raised in the database. Beyond the largest integer the engine
  computes a float, which is not read back as an integer.
-/
def nextSequenceInTransaction : JournalTx Nat := do
  let journal ← get
  if journal.runtimeSequence < maxInteger then
    set { journal with runtimeSequence := journal.runtimeSequence + 1 }
    return journal.runtimeSequence + 1
  else throw (.sqlx (.columnDecode "last_sequence_no"))

/- The row of an event: its id and its number are unique. -/
def insertEvent (event : RuntimeEvent) : JournalTx Unit := do
  let journal ← get
  if journal.runtimeEvents.rows.any (·.sequenceNo = event.sequenceNo) then
    throw (.sqlx (.uniqueConstraint "sequence_no"))
  else
    match journal.runtimeEvents.insert? event with
    | none => throw (.sqlx (.uniqueConstraint "event_id"))
    | some runtimeEvents => set { journal with runtimeEvents }

/-
  The status of a task or a turn is reduced from the status that was stored for
  it.
-/
def indexedStatusAfterEvent (previous : Option String)
    (event : RuntimeEvent) : Except StoreError String :=
  match previous with
  | none => .ok (taskStatusAfterEvent .idle event).name
  | some text =>
    match TaskStatus.ofName text with
    | none => .error (.json "unknown variant")
    | some status => .ok (taskStatusAfterEvent status event).name

variable (event : RuntimeEvent) (projection : StateProjection)

def persistSession : JournalTx Unit := modify (fun journal =>
    { journal with
      sessions := journal.sessions.upsert
        { sessionId := event.sessionId
          status := projection.taskStatus.name
          activeTaskId := projection.activeTaskId
          lastSequenceNo := projection.lastSequenceNo
          createdAt := event.timestamp
          updatedAt := event.timestamp }
        (fun row =>
          { row with
            status := projection.taskStatus.name
            activeTaskId := projection.activeTaskId
            lastSequenceNo := projection.lastSequenceNo
            updatedAt := event.timestamp })
        (fun _ => rfl) })

def persistProjection : JournalTx Unit := modify (fun journal =>
    { journal with
      stateProjections := journal.stateProjections.upsert
        { sessionId := event.sessionId
          lastSequenceNo := projection.lastSequenceNo
          projection := projection
          updatedAt := event.timestamp }
        (fun row =>
          { row with
            lastSequenceNo := projection.lastSequenceNo
            projection := projection
            updatedAt := event.timestamp })
        (fun _ => rfl) })

/- The active task has the status of the projection. -/
def taskStatusText (journal : Journal) (event : RuntimeEvent) (projection : StateProjection)
    (taskId : TaskId) : Except StoreError String :=
  if projection.activeTaskId = some taskId then .ok projection.taskStatus.name
  else indexedStatusAfterEvent ((journal.tasks.find? taskId).map TaskRow.status) event

variable (event : RuntimeEvent) (projection : StateProjection)

def persistTask (taskId : TaskId) : JournalTx Unit := do
  let journal ← get
  let status ← liftM (taskStatusText journal event projection taskId)
  set { journal with
    tasks := journal.tasks.upsert
      { taskId := taskId
        sessionId := event.sessionId
        status := status
        lastSequenceNo := projection.lastSequenceNo
        createdAt := event.timestamp
        updatedAt := event.timestamp }
      (fun row =>
        { row with
          status := status
          lastSequenceNo := projection.lastSequenceNo
          updatedAt := event.timestamp })
      (fun _ => rfl) }

def persistTurn (turnId : TurnId) : JournalTx Unit := do
  let journal ← get
  let status ← liftM (indexedStatusAfterEvent
    ((journal.turns.find? turnId).map TurnRow.status) event)
  set { journal with
    turns := journal.turns.upsert
      { turnId := turnId
        sessionId := event.sessionId
        taskId := event.taskId
        status := status
        lastSequenceNo := projection.lastSequenceNo
        createdAt := event.timestamp
        updatedAt := event.timestamp }
      (fun row =>
        { row with
          status := status
          lastSequenceNo := projection.lastSequenceNo
          updatedAt := event.timestamp })
      (fun _ => rfl) }

def persistRuntimeIndexes : JournalTx Unit := do
  persistSession event projection
  persistProjection event projection
  event.taskId.forM (persistTask event projection)
  event.turnId.forM (persistTurn event projection)

/- The cached projection of a session, or the initial one. -/
def Journal.cachedProjection (journal : Journal) (sessionId : SessionId) : StateProjection :=
  ((journal.stateProjections.find? sessionId).map
    ProjectionRow.projection).getD (initialProjection sessionId)

def appendEventInTransaction (event : RuntimeEvent) : JournalTx Unit := do
  insertEvent event
  let journal ← get
  persistRuntimeIndexes event (applyEventToState (journal.cachedProjection event.sessionId) event)

def appendEventAssigningSequenceInTransaction (event : RuntimeEvent) : JournalTx RuntimeEvent := do
  let sequenceNo ← nextSequenceInTransaction
  let event := { event with sequenceNo }
  appendEventInTransaction event
  return event

/- Events that are selected, in the order of their numbers. -/
def Journal.selectEvents (journal : Journal) (selects : RuntimeEvent → Bool) : List RuntimeEvent :=
  (journal.runtimeEvents.rows.filter selects).insertionSort (fun first second =>
      first.sequenceNo ≤ second.sequenceNo)

variable (journal : Journal) (sessionId : SessionId) (taskId : Option TaskId)

def Journal.loadEvents (afterSequenceNo : Option Nat) : List RuntimeEvent :=
  journal.selectEvents (fun event =>
    event.sessionId = sessionId && (taskId.isNone || event.taskId = taskId) &&
      min (afterSequenceNo.getD 0) maxInteger < event.sequenceNo)

/- The state of a session is cached; that of a task is not. -/
def Journal.queryState : StateProjection :=
  match taskId, journal.stateProjections.find? sessionId with
  | none, some row => row.projection
  | _, _ => reduceState sessionId (journal.loadEvents sessionId taskId none)

section

open Transaction

variable {journal journal' : Journal} {event : RuntimeEvent} {projection : StateProjection}

theorem nextSequence_run {sequenceNo : Nat}
    (hRun : nextSequenceInTransaction.run journal = .ok (sequenceNo, journal')) :
    sequenceNo = journal.runtimeSequence + 1 ∧ journal' = { journal with
        runtimeSequence := journal.runtimeSequence + 1 } := by
  obtain ⟨found, middle, hGet, hRest⟩ := run_bind_eq_ok.1 hRun
  cases hGet
  split at hRest
  · cases hRest
    exact ⟨rfl, rfl⟩
  · cases hRest

theorem insertEvent_run (hRun : (insertEvent event).run journal = .ok ((), journal')) :
    ∃ runtimeEvents, journal.runtimeEvents.insert? event = some runtimeEvents ∧
      journal' = { journal with runtimeEvents } := by
  obtain ⟨found, middle, hGet, hRest⟩ := run_bind_eq_ok.1 hRun
  cases hGet
  split at hRest
  · cases hRest
  · split at hRest
    · cases hRest
    · rename_i runtimeEvents hInsert
      cases hRest
      exact ⟨runtimeEvents, hInsert, rfl⟩

/- The session and the projection are written in any case. -/
theorem persistProjection_run
    (hRun : (persistProjection event projection).run journal = .ok ((), journal')) :
    ∃ stateProjections, journal' = { journal with stateProjections } ∧
      (∃ row, stateProjections.find? event.sessionId = some row ∧ row.projection = projection ∧
        row.lastSequenceNo = projection.lastSequenceNo) ∧
      ∀ sessionId, sessionId ≠ event.sessionId → stateProjections.find? sessionId =
          journal.stateProjections.find? sessionId := by
  cases hRun
  refine ⟨_, rfl, ?_, ?_⟩
  · refine ⟨_, Table.find?_upsert_self _ _ _, ?_⟩
    cases journal.stateProjections.find? event.sessionId with
    | none => exact ⟨rfl, rfl⟩
    | some row => exact ⟨rfl, rfl⟩
  · intro sessionId hOther
    exact Table.find?_upsert_other _ _ hOther

theorem persistTask_run {taskId : TaskId}
    (hRun : (persistTask event projection taskId).run journal = .ok ((), journal')) :
    ∃ tasks, journal' = { journal with tasks } ∧ (∃ row, tasks.find? taskId = some row ∧
        taskStatusText journal event projection taskId = .ok row.status) ∧
      ∀ other, other ≠ taskId → tasks.find? other = journal.tasks.find? other := by
  obtain ⟨found, middle, hGet, hRest⟩ := run_bind_eq_ok.1 hRun
  cases hGet
  obtain ⟨status, middle, hStatus, hSet⟩ := run_bind_eq_ok.1 hRest
  obtain ⟨hText, rfl⟩ := run_liftM_eq_ok.1 hStatus
  cases hSet
  refine ⟨_, rfl, ?_, ?_⟩
  · refine ⟨_, Table.find?_upsert_self _ _ _, ?_⟩
    rw [hText]
    cases middle.tasks.find? taskId <;> rfl
  · intro other hOther
    exact Table.find?_upsert_other _ _ hOther

/- The task of the event, if it has one, is written. -/
theorem persistTask_forM_run
    (hRun : (event.taskId.forM (persistTask event projection)).run journal = .ok ((), journal')) :
    ∃ tasks, journal' = { journal with tasks } ∧ (∀ taskId, event.taskId = some taskId →
        ∃ row, tasks.find? taskId = some row ∧
          taskStatusText journal event projection taskId = .ok row.status) ∧
      ∀ taskId, event.taskId ≠ some taskId → tasks.find? taskId = journal.tasks.find? taskId := by
  cases hTask : event.taskId with
  | none =>
    rw [hTask] at hRun
    cases hRun
    refine ⟨journal.tasks, rfl, ?_, fun _ _ => rfl⟩
    intro taskId hSome
    cases hSome
  | some taskId =>
    rw [hTask] at hRun
    obtain ⟨tasks, rfl, hRow, hOther⟩ := persistTask_run hRun
    refine ⟨tasks, rfl, ?_, ?_⟩
    · rintro other hSame
      cases hSame
      exact hRow
    · intro other hDiffers
      apply hOther
      rintro rfl
      exact hDiffers rfl

theorem persistTurn_run {turnId : TurnId}
    (hRun : (persistTurn event projection turnId).run journal = .ok ((), journal')) :
    ∃ turns, journal' = { journal with turns } := by
  obtain ⟨found, middle, hGet, hRest⟩ := run_bind_eq_ok.1 hRun
  cases hGet
  obtain ⟨status, middle, hStatus, hSet⟩ := run_bind_eq_ok.1 hRest
  cases hSet
  exact ⟨_, rfl⟩

theorem persistTurn_forM_run
    (hRun : (event.turnId.forM (persistTurn event projection)).run journal = .ok ((), journal')) :
    ∃ turns, journal' = { journal with turns } := by
  cases hTurn : event.turnId with
  | none =>
    rw [hTurn] at hRun
    cases hRun
    exact ⟨journal.turns, rfl⟩
  | some turnId =>
    rw [hTurn] at hRun
    exact persistTurn_run hRun

/- The projection that an event gives its session. -/
def Journal.reduced (journal : Journal) (event : RuntimeEvent) : StateProjection :=
  applyEventToState (journal.cachedProjection event.sessionId) event

/- An event with its number is appended to the journal. -/
structure Appended (journal : Journal) (event : RuntimeEvent) (journal' : Journal) : Prop where
  sequenceNo : event.sequenceNo = journal.runtimeSequence + 1
  runtimeSequence : journal'.runtimeSequence = event.sequenceNo
  runtimeEvents : journal'.runtimeEvents.rows = journal.runtimeEvents.rows ++ [event]
  projection : ∃ row, journal'.stateProjections.find? event.sessionId = some row ∧
      row.projection = journal.reduced event ∧ row.lastSequenceNo =
        (journal.reduced event).lastSequenceNo
  projectionOther : ∀ sessionId, sessionId ≠ event.sessionId →
      journal'.stateProjections.find? sessionId = journal.stateProjections.find? sessionId
  task : ∀ taskId, event.taskId = some taskId → ∃ row, journal'.tasks.find? taskId = some row ∧
      taskStatusText journal event (journal.reduced event) taskId = .ok row.status
  taskOther : ∀ taskId, event.taskId ≠ some taskId →
    journal'.tasks.find? taskId = journal.tasks.find? taskId

/- A successful append assigns the number and appends. -/
theorem appended_of_run {assigned : RuntimeEvent} (hRun : (appendEventAssigningSequenceInTransaction
      event).run journal = .ok (assigned, journal')) :
    assigned = { event with sequenceNo := journal.runtimeSequence + 1 } ∧
      Appended journal assigned journal' := by
  obtain ⟨sequenceNo, numbered, hNext, hRest⟩ := run_bind_eq_ok.1 hRun
  obtain ⟨rfl, rfl⟩ := nextSequence_run hNext
  obtain ⟨_, appended, hAppend, hReturn⟩ := run_bind_eq_ok.1 hRest
  cases hReturn
  obtain ⟨_, inserted, hInsert, hIndexes⟩ := run_bind_eq_ok.1 hAppend
  obtain ⟨runtimeEvents, hEvents, rfl⟩ := insertEvent_run hInsert
  obtain ⟨found, _, hGet, hIndexes⟩ := run_bind_eq_ok.1 hIndexes
  cases hGet
  obtain ⟨_, _, hSession, hIndexes⟩ := run_bind_eq_ok.1 hIndexes
  cases hSession
  obtain ⟨_, _, hProjection, hIndexes⟩ := run_bind_eq_ok.1 hIndexes
  obtain ⟨stateProjections, rfl, hRow, hOther⟩ := persistProjection_run hProjection
  obtain ⟨_, _, hTask, hTurn⟩ := run_bind_eq_ok.1 hIndexes
  obtain ⟨tasks, rfl, hTaskRow, hTaskOther⟩ := persistTask_forM_run hTask
  obtain ⟨turns, rfl⟩ := persistTurn_forM_run hTurn
  refine ⟨rfl, ?_⟩
  exact {
    sequenceNo := rfl
    runtimeSequence := rfl
    runtimeEvents := (Table.insert?_eq_some hEvents).2
    projection := hRow
    projectionOther := hOther
    task := hTaskRow
    taskOther := hTaskOther }

end

end GolutraAgent.Store
