import GolutraAgent.Library.Machine
import GolutraAgent.Store.Effects

/-
  This file models the queue of the jobs that run after a task: how jobs are
  enqueued, claimed under a lease, started, requeued, finished and retried, and
  how expired leases are recovered. Every change of a job is one conditional
  update of the table.

  The system keeps, beside the database, a ledger of the leases that claims have
  handed out. The ledger is not part of the code. A lease ends there when an
  update clears the lease of its job.
-/

namespace GolutraAgent.Store

open Transaction

/- An update of the table of jobs, with its condition. -/
structure JobUpdate where
  selects : PostTaskJob → Bool
  change : PostTaskJob → PostTaskJob
  keepsKey : ∀ job, (change job).jobId = job.jobId

/- The number of jobs that were changed. -/
def JobUpdate.execute (update : JobUpdate) : StoreTx Nat := do
  let database ← get
  set { database with
    postTaskJobs := database.postTaskJobs.updateWhere update.selects update.change update.keepsKey }
  return database.postTaskJobs.rows.countP update.selects

variable (workspaceId : String) (now : Timestamp)

/- The first statement of `recover_expired_post_task_jobs`. -/
def requeueExpiredPostTaskJobs : JobUpdate where
  selects := fun job =>
    job.workspaceId = workspaceId && job.isLeased && job.hasExpired now &&
      decide (job.attempt < job.maxAttempts)
  change := fun job =>
    { job with
      status := .queued
      leaseOwner := none
      leaseExpiresAt := none
      lastError := some "worker lease expired" }
  keepsKey := fun _ => rfl

/- The second one. -/
def failExpiredPostTaskJobs : JobUpdate where
  selects := fun job =>
    job.workspaceId = workspaceId && job.isLeased && job.hasExpired now &&
      decide (job.maxAttempts ≤ job.attempt)
  change := fun job =>
    { job with
      status := .failed
      leaseOwner := none
      leaseExpiresAt := none
      lastError := some "worker lease expired and retry budget exhausted"
      completedAt := some now }
  keepsKey := fun _ => rfl

variable (jobId : PostTaskJobId)

def startPostTaskJob (workerId : String) (startedAt : Timestamp) : JobUpdate where
  selects := fun job => job.jobId = jobId && job.status = .leased && job.leaseOwner = some workerId
  change := fun job =>
    { job with
      status := .running
      startedAt := some startedAt }
  keepsKey := fun _ => rfl

def requeuePostTaskJob (workerId : String) (error : String) : JobUpdate where
  selects := fun job =>
    job.jobId = jobId && job.leaseOwner = some workerId && job.isLeased &&
      decide (job.attempt < job.maxAttempts)
  change := fun job =>
    { job with
      status := .queued
      lastError := some error
      leaseOwner := none
      leaseExpiresAt := none }
  keepsKey := fun _ => rfl

def retryPostTaskJob : JobUpdate where
  selects := fun job => job.jobId = jobId && (job.status = .failed || job.status = .cancelled)
  change := fun job =>
    { job with
      status := .queued
      attempt := 0
      leaseOwner := none
      leaseExpiresAt := none
      lastError := none
      startedAt := none
      completedAt := none }
  keepsKey := fun _ => rfl

/- The status that a job is finished with is not checked. -/
def finishPostTaskJob (workerId : String) (status : PostTaskJobStatus) (resultRefs : List String)
    (error : Option String) (completedAt : Timestamp) : JobUpdate where
  selects := fun job => job.jobId = jobId && job.leaseOwner = some workerId && job.isLeased
  change := fun job =>
    { job with
      status := status
      resultRefs := resultRefs
      lastError := error
      completedAt := some completedAt
      leaseOwner := none
      leaseExpiresAt := none }
  keepsKey := fun _ => rfl

def leasePostTaskJob (workerId : String) (expiresAt : Timestamp) : JobUpdate where
  selects := fun job => job.jobId = jobId && job.status = .queued
  change := fun job =>
    { job with
      status := .leased
      attempt := job.attempt + 1
      leaseOwner := some workerId
      leaseExpiresAt := some expiresAt }
  keepsKey := fun _ => rfl

/- A queued job with attempts left, of the workspace. -/
def isClaimable (workspaceId : Option String) (job : PostTaskJob) : Bool :=
  job.status = .queued && decide (job.attempt < job.maxAttempts) &&
    workspaceId.all (fun id => job.workspaceId = id)

/- The oldest such job is claimed. -/
def claimPostTaskJobMatching (workerId : String) (workspaceId : Option String) (now : Timestamp)
    (leaseFor : Int) : StoreTx (Option PostTaskJob) := do
  let database ← get
  match Table.leastBy (·.createdAt.nanos)
      (database.postTaskJobs.rows.filter (isClaimable workspaceId)) with
  | none => return none
  | some row =>
    let updated ← (leasePostTaskJob row.jobId workerId ⟨now.nanos + leaseFor⟩).execute
    if updated = 0 then return none
    else
      let database ← get
      match database.postTaskJobs.find? row.jobId with
      | none => throw (.sqlx .rowNotFound)
      | some job => return some job

theorem isClaimable_iff {workspaceId : Option String} {job : PostTaskJob} :
    isClaimable workspaceId job = true ↔ job.status = .queued ∧ job.attempt < job.maxAttempts ∧
        workspaceId.all (fun id => job.workspaceId = id) = true := by
  simp [isClaimable, and_assoc]

theorem JobUpdate.execute_commit (update : JobUpdate) (database : Database) :
    (update.execute.commit database).postTaskJobs =
      database.postTaskJobs.updateWhere update.selects update.change update.keepsKey := rfl

/- A claim leases a claimable job, if there is one. -/
inductive ClaimResult (workerId : String) (workspaceId : Option String)
    (expiresAt : Timestamp) (database : Database) : Option PostTaskJob → Database → Prop
| nothing : ClaimResult workerId workspaceId expiresAt database none database
| leased (row : PostTaskJob) (hRow : row ∈ database.postTaskJobs.rows)
    (hClaimable : isClaimable workspaceId row = true) :
    ClaimResult workerId workspaceId expiresAt database
      (some ((leasePostTaskJob row.jobId workerId expiresAt).change row))
      ((leasePostTaskJob row.jobId workerId expiresAt).execute.commit database)

theorem claimPostTaskJobMatching_run {workerId : String} {workspaceId : Option String}
    {now : Timestamp} {leaseFor : Int} {database database' : Database} {result : Option PostTaskJob}
    (hRun : (claimPostTaskJobMatching workerId workspaceId now
      leaseFor).run database = .ok (result, database')) :
    ClaimResult workerId workspaceId ⟨now.nanos + leaseFor⟩ database result database' := by
  obtain ⟨found, first, hGet, hRest⟩ := run_bind_eq_ok.1 hRun
  cases hGet
  cases hLeast : Table.leastBy (·.createdAt.nanos)
      (database.postTaskJobs.rows.filter (isClaimable workspaceId)) with
  | none =>
    rw [hLeast] at hRest
    cases hRest
    exact .nothing
  | some row =>
    rw [hLeast] at hRest
    obtain ⟨hRow, hClaimable⟩ := List.mem_filter.1 (Table.leastBy_mem hLeast)
    have hFind := Table.find?_eq_some_iff.2 ⟨hRow, rfl⟩
    have hQueued : row.status = .queued := by
      unfold isClaimable at hClaimable
      simp only [Bool.and_eq_true, decide_eq_true_eq] at hClaimable
      exact hClaimable.1.1
    obtain ⟨updated, second, hUpdate, hTail⟩ := run_bind_eq_ok.1 hRest
    cases hUpdate
    have hSelected : (leasePostTaskJob row.jobId workerId
        ⟨now.nanos + leaseFor⟩).selects row = true := by
      simp [leasePostTaskJob, hQueued]
    have hCount : database.postTaskJobs.rows.countP (leasePostTaskJob row.jobId workerId
          ⟨now.nanos + leaseFor⟩).selects ≠ 0 := by
      rw [Ne, List.countP_eq_zero]
      intro hNone
      exact hNone row hRow hSelected
    rw [if_neg hCount] at hTail
    obtain ⟨found, third, hGet, hEnd⟩ := run_bind_eq_ok.1 hTail
    cases hGet
    have hAfter : (database.postTaskJobs.updateWhere
        (leasePostTaskJob row.jobId workerId ⟨now.nanos + leaseFor⟩).selects
        (leasePostTaskJob row.jobId workerId ⟨now.nanos + leaseFor⟩).change
        (leasePostTaskJob row.jobId workerId ⟨now.nanos + leaseFor⟩).keepsKey).find? row.jobId =
        some ((leasePostTaskJob row.jobId workerId ⟨now.nanos + leaseFor⟩).change row) := by
      rw [Table.find?_updateWhere, hFind]
      simp [hSelected]
    simp only [hAfter] at hEnd
    cases hEnd
    exact .leased row hRow hClaimable

/- A job is enqueued unless the task has one of its kind. -/
inductive EnqueueResult (job : PostTaskJob) (event : RuntimeEvent)
    (database : Database) : Option RuntimeEvent → Database → Prop
| existing (row : PostTaskJob) (hRow : row ∈ database.postTaskJobs.rows)
    (hSame : row.taskId = job.taskId ∧ row.kind = job.kind) :
    EnqueueResult job event database none database
| enqueued (postTaskJobs : Table PostTaskJob.jobId) (journal : Journal) (assigned : RuntimeEvent)
    (hNew : ∀ row ∈ database.postTaskJobs.rows, ¬ (row.taskId = job.taskId ∧ row.kind = job.kind))
    (hInsert : database.postTaskJobs.insert? job = some postTaskJobs)
    (hAppend : (appendEventAssigningSequenceInTransaction
      event).run database.journal = .ok (assigned, journal)) :
    EnqueueResult job event database (some assigned) { database with journal, postTaskJobs }

theorem enqueuePostTaskJobWithEvent_run {job : PostTaskJob} {event : RuntimeEvent}
    {database database' : Database} {result : Option RuntimeEvent}
    (hRun : (enqueuePostTaskJobWithEvent job event).run database = .ok (result, database')) :
    EnqueueResult job event database result database' := by
  obtain ⟨found, first, hGet, hRest⟩ := run_bind_eq_ok.1 hRun
  cases hGet
  split at hRest
  · rename_i hAny
    cases hRest
    obtain ⟨row, hRow, hSame⟩ := List.any_eq_true.1 hAny
    exact .existing row hRow (by simpa using hSame)
  · rename_i hNone
    split at hRest
    · cases hRest
    · rename_i postTaskJobs hInsert
      obtain ⟨_, second, hSet, hTail⟩ := run_bind_eq_ok.1 hRest
      cases hSet
      obtain ⟨assigned, third, hAppend, hReturn⟩ := run_bind_eq_ok.1 hTail
      obtain ⟨journal, hJournal, rfl⟩ := run_within_eq_ok.1 hAppend
      cases hReturn
      refine .enqueued postTaskJobs journal assigned ?_ hInsert hJournal
      intro row hRow hSame
      exact hNone (List.any_eq_true.2 ⟨row, hRow, by simpa using hSame⟩)

/- What the callers of an enqueue choose. -/
structure NewPostTaskJob where
  jobId : PostTaskJobId
  kind : PostTaskJobKind
  workspaceId : String
  sessionId : String
  taskId : TaskId
  inputRefs : List String
  maxAttempts : Nat
  createdAt : Timestamp

def NewPostTaskJob.job (request : NewPostTaskJob) : PostTaskJob where
  jobId := request.jobId
  kind := request.kind
  workspaceId := request.workspaceId
  sessionId := request.sessionId
  taskId := request.taskId
  inputRefs := request.inputRefs
  status := .queued
  attempt := 0
  maxAttempts := request.maxAttempts
  leaseOwner := none
  leaseExpiresAt := none
  resultRefs := []
  lastError := none
  createdAt := request.createdAt
  startedAt := none
  completedAt := none

inductive WorkerCall
| start (startedAt : Timestamp)
| requeue (error : String)
| finish (status : PostTaskJobStatus) (resultRefs : List String) (error : Option String)
    (completedAt : Timestamp)

def WorkerCall.update (jobId : PostTaskJobId) (workerId : String) : WorkerCall → JobUpdate
| .start startedAt => startPostTaskJob jobId workerId startedAt
| .requeue error => requeuePostTaskJob jobId workerId error
| .finish status resultRefs error completedAt =>
  finishPostTaskJob jobId workerId status resultRefs error completedAt

inductive JobOp
| enqueue (request : NewPostTaskJob) (event : RuntimeEvent)
| claim (workerId : String) (workspaceId : Option String) (now : Timestamp) (leaseFor : Int)
| work (jobId : PostTaskJobId) (workerId : String) (call : WorkerCall)
| retry (jobId : PostTaskJobId)
| requeueExpired (workspaceId : String) (now : Timestamp)
| failExpired (workspaceId : String) (now : Timestamp)

/- A lease that a claim handed out. -/
structure Lease where
  jobId : PostTaskJobId
  workerId : String
  attempt : Nat
  expiresAt : Timestamp
  ended : Bool
deriving DecidableEq

/- The lease that the row of a job records. -/
def Lease.ofJob (job : PostTaskJob) : Option Lease :=
  match job.leaseOwner, job.leaseExpiresAt with
  | some workerId, some expiresAt => some ⟨job.jobId, workerId, job.attempt, expiresAt, false⟩
  | _, _ => none

structure JobSystem where
  database : Database
  leases : List Lease

def JobSystem.initial : JobSystem := ⟨.empty, []⟩

/- An update clears the lease of a job that it selects. -/
def JobUpdate.ends (update : JobUpdate) (jobs : Table PostTaskJob.jobId) (lease : Lease) : Bool :=
  (jobs.find? lease.jobId).any (fun job =>
    update.selects job && (update.change job).leaseOwner.isNone)

def Lease.endIf (ends : Lease → Bool) (lease : Lease) : Lease :=
  if ends lease then { lease with ended := true } else lease

def JobSystem.update (s : JobSystem) (update : JobUpdate) : JobSystem where
  database := update.execute.commit s.database
  leases := s.leases.map (Lease.endIf (update.ends s.database.postTaskJobs))

def JobSystem.claim (s : JobSystem) (workerId : String) (workspaceId : Option String)
    (now : Timestamp) (leaseFor : Int) : JobSystem :=
  match (claimPostTaskJobMatching workerId workspaceId now leaseFor).run s.database with
  | .error _ => s
  | .ok (none, database) => { s with database }
  | .ok (some job, database) =>
    { database := database
      leases := s.leases ++ (Lease.ofJob job).toList }

/- A transaction that does not commit changes nothing. -/
structure JobAttempt where
  op : JobOp
  commits : Bool

def JobSystem.perform (s : JobSystem) : JobOp → JobSystem
| .enqueue request event =>
  { s with database := (enqueuePostTaskJobWithEvent request.job event).commit s.database }
| .claim workerId workspaceId now leaseFor => s.claim workerId workspaceId now leaseFor
| .work jobId workerId call => s.update (call.update jobId workerId)
| .retry jobId => s.update (retryPostTaskJob jobId)
| .requeueExpired workspaceId now => s.update (requeueExpiredPostTaskJobs workspaceId now)
| .failExpired workspaceId now => s.update (failExpiredPostTaskJobs workspaceId now)

def JobSystem.step (s : JobSystem) (attempt : JobAttempt) : JobSystem :=
  if attempt.commits then s.perform attempt.op else s

def JobSystem.run (attempts : List JobAttempt) : JobSystem :=
  Machine.run JobSystem.step .initial attempts

end GolutraAgent.Store
