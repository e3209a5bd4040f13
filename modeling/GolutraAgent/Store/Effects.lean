import GolutraAgent.Store.Transactions

/-
  This file says what each transaction of the store that appends events does to
  the database: the journal goes through a number of appends, and of the other
  tables only the transaction's own change; and what the claim and the completion
  of a command do to the rows of theirs.
-/

namespace GolutraAgent.Store

open Transaction

/- Some number of appends lead from a journal to another. -/
def Journal.Grows : Journal → Journal → Prop := Relation.ReflTransGen (fun journal journal' =>
    ∃ event, Appended journal event journal')

inductive StoreTable
| commandAcks
| artifactRecords
| evidenceRecords
| threads
| postTaskJobs
deriving DecidableEq

/-
  The journal grows, and of the other tables only the listed ones may change.
-/
structure Database.Effect (changes : List StoreTable) (database database' : Database) : Prop where
  journal : database.journal.Grows database'.journal
  commandAcks : .commandAcks ∉ changes → database'.commandAcks = database.commandAcks
  artifactRecords : .artifactRecords ∉ changes →
    database'.artifactRecords = database.artifactRecords
  evidenceRecords : .evidenceRecords ∉ changes →
    database'.evidenceRecords = database.evidenceRecords
  threads : .threads ∉ changes → database'.threads = database.threads
  postTaskJobs : .postTaskJobs ∉ changes → database'.postTaskJobs = database.postTaskJobs

namespace Database.Effect

variable {changes : List StoreTable}

/- A change of the journal alone. -/
theorem of_grows {database : Database} {journal : Journal}
    (hGrows : database.journal.Grows journal) : database.Effect changes { database with journal } :=
  ⟨hGrows, fun _ => rfl, fun _ => rfl, fun _ => rfl, fun _ => rfl, fun _ => rfl⟩

instance : IsPreorder Database (Database.Effect changes) where
  refl := fun _ => of_grows Relation.ReflTransGen.refl
  trans := by
    intro first second third hFirst hSecond
    constructor
    · exact hFirst.journal.trans hSecond.journal
    · intro hTable
      rw [hSecond.commandAcks hTable, hFirst.commandAcks hTable]
    · intro hTable
      rw [hSecond.artifactRecords hTable, hFirst.artifactRecords hTable]
    · intro hTable
      rw [hSecond.evidenceRecords hTable, hFirst.evidenceRecords hTable]
    · intro hTable
      rw [hSecond.threads hTable, hFirst.threads hTable]
    · intro hTable
      rw [hSecond.postTaskJobs hTable, hFirst.postTaskJobs hTable]

section

variable (database : Database)

theorem set_commandAcks (commandAcks : Table CommandAckRow.idempotencyKey) :
    database.Effect [.commandAcks] { database with commandAcks } := by
  constructor <;> simp [Journal.Grows, Relation.ReflTransGen.refl]

theorem set_artifactRecords (artifactRecords : Table ArtifactRow.artifactId) :
    database.Effect [.artifactRecords, .evidenceRecords] { database with artifactRecords } := by
  constructor <;> simp [Journal.Grows, Relation.ReflTransGen.refl]

theorem set_evidenceRecords (evidenceRecords : Table EvidenceRecord.evidenceId) :
    database.Effect [.artifactRecords, .evidenceRecords] { database with evidenceRecords } := by
  constructor <;> simp [Journal.Grows, Relation.ReflTransGen.refl]

theorem set_threads (threads : Table ThreadRecord.threadId) :
    database.Effect [.threads] { database with threads } := by
  constructor <;> simp [Journal.Grows, Relation.ReflTransGen.refl]

theorem set_postTaskJobs (postTaskJobs : Table PostTaskJob.jobId) : database.Effect [.postTaskJobs]
      { database with postTaskJobs } := by
  constructor <;> simp [Journal.Grows, Relation.ReflTransGen.refl]

end

end Database.Effect

theorem appendEventAssigningSequence_effect (changes : List StoreTable) (event : RuntimeEvent) :
    Leads (Database.Effect changes) (appendEventAssigningSequence event) := by
  intro database
  apply LeadsFrom.within
  intro assigned journal hRun
  apply Database.Effect.of_grows
  exact Relation.ReflTransGen.single ⟨assigned, (appended_of_run hRun).2⟩

variable (idempotencyKey : String) (commandId : CommandId)

theorem claimCommand_effect (provisionalAck : CommandAck)
    (receiptEvent : RuntimeEvent) (now : Timestamp) :
    Leads (Database.Effect [.commandAcks]) (claimCommand idempotencyKey commandId provisionalAck
        receiptEvent now) := by
  intro database
  apply LeadsFrom.get_bind
  split
  · refine LeadsFrom.bind (LeadsFrom.set (.set_commandAcks _ _)) ?_
    intro _ database
    refine LeadsFrom.bind (appendEventAssigningSequence_effect _ _ _) ?_
    exact fun _ _ => LeadsFrom.pure _
  · split
    · exact LeadsFrom.throw _
    · split
      · exact LeadsFrom.pure _
      · split
        · exact LeadsFrom.pure _
        · exact LeadsFrom.pure _

theorem completeCommand_effect (ack : CommandAck)
    (completionEvent : RuntimeEvent) (now : Timestamp) :
    Leads (Database.Effect [.commandAcks]) (completeCommand idempotencyKey commandId ack
        completionEvent now) := by
  intro database
  apply LeadsFrom.get_bind
  split
  · exact LeadsFrom.throw _
  · split
    · exact LeadsFrom.throw _
    · refine LeadsFrom.bind (LeadsFrom.set (.set_commandAcks _ _)) ?_
      exact fun _ => appendEventAssigningSequence_effect _ _

theorem insertArtifactMetadata_effect (artifact : ArtifactRecord) :
    Leads (Database.Effect [.artifactRecords, .evidenceRecords])
      (insertArtifactMetadataInTransaction artifact) := by
  intro database
  apply LeadsFrom.get_bind
  dsimp only
  split
  · exact LeadsFrom.set (.set_artifactRecords _ _)
  · split
    · exact LeadsFrom.throw _
    · split
      · exact LeadsFrom.throw _
      · exact LeadsFrom.set (.set_artifactRecords _ _)

theorem insertEvidence_effect (evidence : EvidenceRecord) :
    Leads (Database.Effect [.artifactRecords, .evidenceRecords])
      (insertEvidenceInTransaction evidence) := by
  intro database
  apply LeadsFrom.get_bind
  split
  · exact LeadsFrom.throw _
  · exact LeadsFrom.set (.set_evidenceRecords _ _)

/- The references are only looked up. -/
theorem validateBundleReferences_effect (event : RuntimeEvent) (evidence : List EvidenceRecord) :
    Leads (Database.Effect [.artifactRecords, .evidenceRecords])
      (validateBundleReferencesInTransaction event evidence) := by
  intro database
  apply LeadsFrom.get_bind
  refine LeadsFrom.bind (LeadsFrom.liftM _) (fun _ _ => ?_)
  refine LeadsFrom.bind (LeadsFrom.liftM _) (fun _ _ => ?_)
  refine LeadsFrom.bind (Leads.forM ?_ _) (fun _ => ?_)
  · intro artifactId _ _
    split
    · exact LeadsFrom.throw _
    · exact LeadsFrom.pure _
  · apply Leads.forM
    intro evidenceId _ _
    split
    · exact LeadsFrom.throw _
    · exact LeadsFrom.pure _

theorem appendToolCompletedBundle_effect (event : RuntimeEvent)
    (artifacts : List ArtifactRecord) (evidence : List EvidenceRecord) :
    Leads (Database.Effect [.artifactRecords, .evidenceRecords])
      (appendToolCompletedBundle event artifacts evidence) := by
  intro database
  refine LeadsFrom.bind (Leads.forM (fun _ _ => insertArtifactMetadata_effect _) _) ?_
  intro _ database
  refine LeadsFrom.bind (Leads.forM (fun _ _ => insertEvidence_effect _) _) ?_
  intro _ database
  refine LeadsFrom.bind (validateBundleReferences_effect _ _ _) ?_
  exact fun _ => appendEventAssigningSequence_effect _ _

theorem enqueuePostTaskJobWithEvent_effect (job : PostTaskJob) (event : RuntimeEvent) :
    Leads (Database.Effect [.postTaskJobs]) (enqueuePostTaskJobWithEvent job event) := by
  intro database
  apply LeadsFrom.get_bind
  split
  · exact LeadsFrom.pure _
  · split
    · exact LeadsFrom.throw _
    · refine LeadsFrom.bind (LeadsFrom.set (.set_postTaskJobs _ _)) ?_
      intro _ database
      refine LeadsFrom.bind (appendEventAssigningSequence_effect _ _ _) ?_
      exact fun _ _ => LeadsFrom.pure _

variable (thread : ThreadRecord)

theorem upsertThread_effect :
    Leads (Database.Effect [.threads]) (upsertThreadInTransaction thread) := by
  intro database
  apply LeadsFrom.get_bind
  dsimp only
  split
  · exact LeadsFrom.throw _
  · exact LeadsFrom.set (.set_threads _ _)

theorem upsertThreadWithEvent_effect (event : RuntimeEvent) :
    Leads (Database.Effect [.threads]) (upsertThreadWithEvent thread event) := by
  intro database
  refine LeadsFrom.bind (upsertThread_effect _ _) ?_
  exact fun _ => appendEventAssigningSequence_effect _ _

theorem createThreadWithEvent_effect (event : RuntimeEvent) :
    Leads (Database.Effect [.threads]) (createThreadWithEvent thread event) := by
  intro database
  apply LeadsFrom.get_bind
  split
  · exact LeadsFrom.pure _
  · refine LeadsFrom.bind (upsertThread_effect _ _) ?_
    intro _ database
    refine LeadsFrom.bind (appendEventAssigningSequence_effect _ _ _) ?_
    exact fun _ _ => LeadsFrom.pure _

theorem deleteThreadWithEvent_effect (threadId : ThreadId)
    (event : RuntimeEvent) (now : Timestamp) :
    Leads (Database.Effect [.threads]) (deleteThreadWithEvent threadId event now) := by
  intro database
  apply LeadsFrom.get_bind
  split
  · exact LeadsFrom.pure _
  · refine LeadsFrom.bind (LeadsFrom.set (.set_threads _ _)) ?_
    intro _ database
    refine LeadsFrom.bind (appendEventAssigningSequence_effect _ _ _) ?_
    exact fun _ _ => LeadsFrom.pure _

/- A fork appends the copies one after the other. -/
theorem createForkedThreadExcluding_effect (child : ThreadRecord) (parentSessionId : SessionId)
    (throughSequenceNo : Nat) (excludedEvents : List EventId) (ids : ForkIds) :
    Leads (Database.Effect [.threads]) (createForkedThreadExcluding child parentSessionId
        throughSequenceNo excludedEvents ids) := by
  intro database
  apply LeadsFrom.get_bind
  refine LeadsFrom.bind (upsertThread_effect _ _) (fun _ => ?_)
  apply Leads.mapM
  exact fun event => appendEventAssigningSequence_effect _ _

/- The operations of the store that assign numbers. -/
inductive StoreOp
| appendEventAssigningSequence (event : RuntimeEvent)
| claimCommand (idempotencyKey : String) (commandId : CommandId) (provisionalAck : CommandAck)
    (receiptEvent : RuntimeEvent) (now : Timestamp)
| completeCommand (idempotencyKey : String) (commandId : CommandId) (ack : CommandAck)
    (completionEvent : RuntimeEvent) (now : Timestamp)
| appendToolCompletedBundle (event : RuntimeEvent) (artifacts : List ArtifactRecord)
    (evidence : List EvidenceRecord)
| enqueuePostTaskJobWithEvent (job : PostTaskJob) (event : RuntimeEvent)
| upsertThreadWithEvent (thread : ThreadRecord) (event : RuntimeEvent)
| createThreadWithEvent (thread : ThreadRecord) (event : RuntimeEvent)
| deleteThreadWithEvent (threadId : ThreadId) (event : RuntimeEvent) (now : Timestamp)
| createForkedThreadExcluding (child : ThreadRecord) (parentSessionId : SessionId)
    (throughSequenceNo : Nat) (excludedEvents : List EventId) (ids : ForkIds)

/- The database after an operation that commits if it can. -/
def StoreOp.commit (database : Database) : StoreOp → Database
| .appendEventAssigningSequence event => (Store.appendEventAssigningSequence event).commit database
| .claimCommand idempotencyKey commandId provisionalAck receiptEvent now =>
  (Store.claimCommand idempotencyKey commandId provisionalAck receiptEvent now).commit database
| .completeCommand idempotencyKey commandId ack completionEvent now =>
  (Store.completeCommand idempotencyKey commandId ack completionEvent now).commit database
| .appendToolCompletedBundle event artifacts evidence =>
  (Store.appendToolCompletedBundle event artifacts evidence).commit database
| .enqueuePostTaskJobWithEvent job event =>
  (Store.enqueuePostTaskJobWithEvent job event).commit database
| .upsertThreadWithEvent thread event => (Store.upsertThreadWithEvent thread event).commit database
| .createThreadWithEvent thread event => (Store.createThreadWithEvent thread event).commit database
| .deleteThreadWithEvent threadId event now =>
  (Store.deleteThreadWithEvent threadId event now).commit database
| .createForkedThreadExcluding child parentSessionId throughSequenceNo excludedEvents ids =>
  (Store.createForkedThreadExcluding child parentSessionId
    throughSequenceNo excludedEvents ids).commit database

/- The tables, beside the journal, that it may change. -/
def StoreOp.changes : StoreOp → List StoreTable
| .appendEventAssigningSequence _ => []
| .claimCommand _ _ _ _ _ | .completeCommand _ _ _ _ _ => [.commandAcks]
| .appendToolCompletedBundle _ _ _ => [.artifactRecords, .evidenceRecords]
| .enqueuePostTaskJobWithEvent _ _ => [.postTaskJobs]
| .upsertThreadWithEvent _ _ | .createThreadWithEvent _ _ | .deleteThreadWithEvent _ _ _
| .createForkedThreadExcluding _ _ _ _ _ => [.threads]

theorem StoreOp.commit_effect (database : Database) (op : StoreOp) :
    database.Effect op.changes (op.commit database) := by
  cases op with
  | appendEventAssigningSequence event => exact (appendEventAssigningSequence_effect _ _ _).commit
  | claimCommand => exact (claimCommand_effect _ _ _ _ _ _).commit
  | completeCommand => exact (completeCommand_effect _ _ _ _ _ _).commit
  | appendToolCompletedBundle => exact (appendToolCompletedBundle_effect _ _ _ _).commit
  | enqueuePostTaskJobWithEvent => exact (enqueuePostTaskJobWithEvent_effect _ _ _).commit
  | upsertThreadWithEvent => exact (upsertThreadWithEvent_effect _ _ _).commit
  | createThreadWithEvent => exact (createThreadWithEvent_effect _ _ _).commit
  | deleteThreadWithEvent => exact (deleteThreadWithEvent_effect _ _ _ _).commit
  | createForkedThreadExcluding => exact (createForkedThreadExcluding_effect _ _ _ _ _ _).commit

section

variable {database database' : Database} {key : String} {commandId : CommandId}
variable {ack : CommandAck} {event : RuntimeEvent} {now : Timestamp}

/- Appending an event leaves the command table alone. -/
theorem append_commandAcks {assigned : RuntimeEvent}
    (hRun : (appendEventAssigningSequence event).run database = .ok (assigned, database')) :
    database'.commandAcks = database.commandAcks ∧
      assigned ∈ database'.journal.runtimeEvents.rows := by
  obtain ⟨journal, hAppend, rfl⟩ := run_within_eq_ok.1 hRun
  rw [(appended_of_run hAppend).2.runtimeEvents]
  simp

/-
  What a claim may come to. It inserts the row of a key that has none, and
  leaves a row that is there alone.
-/
inductive ClaimOutcome (database : Database) (key : String)
    (commandId : CommandId) (ack : CommandAck) (now : Timestamp) : CommandClaim → Database → Prop
| inserted {assigned : RuntimeEvent} {database' : Database}
    (hEvent : assigned ∈ database'.journal.runtimeEvents.rows)
    (hNone : database.commandAcks.find? key = none) (hRows : ∀ k, database'.commandAcks.find? k =
      if k = key then some (claimedRow key commandId ack now)
      else database.commandAcks.find? k) :
    ClaimOutcome database key commandId ack now (.claimed (some assigned)) database'
| conflict {row : CommandAckRow} (hRow : database.commandAcks.find? key = some row)
    (hOther : row.commandId ≠ commandId) :
    ClaimOutcome database key commandId ack now (.conflict row.commandId.toText) database
| again {row : CommandAckRow} (hRow : database.commandAcks.find? key = some row)
    (hOwner : row.commandId = commandId) (hStatus : row.status = .processing) :
    ClaimOutcome database key commandId ack now (.claimed none) database
| existing {row : CommandAckRow} (hRow : database.commandAcks.find? key = some row)
    (hOwner : row.commandId = commandId) (hStatus : row.status ≠ .processing) :
    ClaimOutcome database key commandId ack now (.existing row.ack) database

theorem claimCommand_run {claim : CommandClaim}
    (hRun : (claimCommand key commandId ack event now).run database = .ok (claim, database')) :
    ClaimOutcome database key commandId ack now claim database' := by
  obtain ⟨found, middle, hGet, hRest⟩ := run_bind_eq_ok.1 hRun
  cases hGet
  split at hRest
  · rename_i commandAcks hInsert
    obtain ⟨_, inserted, hSet, hRest⟩ := run_bind_eq_ok.1 hRest
    cases hSet
    obtain ⟨assigned, appended, hAppend, hReturn⟩ := run_bind_eq_ok.1 hRest
    cases hReturn
    obtain ⟨hAcks, hRecorded⟩ := append_commandAcks hAppend
    refine .inserted hRecorded (Table.insert?_eq_some hInsert).1 ?_
    intro k
    rw [hAcks]
    exact Table.find?_insert? hInsert k
  · split at hRest
    · cases hRest
    · rename_i row hRow
      split at hRest
      · rename_i hOther
        cases hRest
        exact .conflict hRow hOther
      · rename_i hSame
        have hOwner : row.commandId = commandId := by simpa using hSame
        split at hRest
        · rename_i hStatus
          cases hRest
          exact .again hRow hOwner hStatus
        · rename_i hStatus
          cases hRest
          exact .existing hRow hOwner hStatus

/- The row after its completion. -/
def completedRow (row : CommandAckRow) (ack : CommandAck) (now : Timestamp) : CommandAckRow :=
  { row with
    ack := ack
    status := if ack.accepted then .completed else .rejected
    updatedAt := now }

/- A completion needs the row of the key and the command. -/
theorem completeCommand_run {assigned : RuntimeEvent}
    (hRun : (completeCommand key commandId ack event now).run
      database = .ok (assigned, database')) :
    assigned ∈ database'.journal.runtimeEvents.rows ∧
      ∃ row, database.commandAcks.find? key = some row ∧
        row.commandId = commandId ∧ ∀ k, database'.commandAcks.find? k =
          if k = key then some (completedRow row ack now)
          else database.commandAcks.find? k := by
  obtain ⟨found, middle, hGet, hRest⟩ := run_bind_eq_ok.1 hRun
  cases hGet
  split at hRest
  · cases hRest
  · rename_i row hRow
    split at hRest
    · cases hRest
    · rename_i hSame
      obtain ⟨_, updated, hSet, hAppend⟩ := run_bind_eq_ok.1 hRest
      cases hSet
      obtain ⟨hAcks, hRecorded⟩ := append_commandAcks hAppend
      have hCommand : row.commandId = commandId := by simpa using hSame
      refine ⟨hRecorded, row, hRow, hCommand, ?_⟩
      intro k
      rw [hAcks, Table.find?_updateWhere]
      by_cases hKey : k = key
      · subst hKey
        have hRowKey := (Table.find?_eq_some_iff.1 hRow).2
        simp [hRow, hRowKey, hCommand, completedRow]
      · rw [if_neg hKey]
        cases hFind : database.commandAcks.find? k with
        | none => rfl
        | some other =>
          have hOther := (Table.find?_eq_some_iff.1 hFind).2
          simp [hOther, hKey]

end

end GolutraAgent.Store
