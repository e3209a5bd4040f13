import GolutraAgent.Client.Host
import GolutraAgent.Library.Program
import GolutraAgent.Store.PostTaskRecovery

/-
  This file models how hosts schedule the deep evaluation of an ended task: the
  schedule that follows the end of a task, and the recovery that scans for ended
  tasks without a job. Both are programs of single transactions; each may fail,
  and its process may crash, between any two of them. Any number of them are
  under way at a time, for any number of hosts.

  A schedule that fails records a terminal failure of the stage. A recovery that
  fails records nothing.
-/

namespace GolutraAgent.Client

open GolutraAgent.Runtime Store

/- Steps that leave the tables as they are, but may fail. -/
inductive GovernanceStep
| buildTaskEvaluationInput
| recordTaskEvaluation
| tokenUsageRecords
| publishCommittedEvent

/- What a host takes from the clock and from its ids. -/
structure Fresh where
  jobId : PostTaskJobId
  context : EventContext

inductive GovernanceCommand
| attempt (step : GovernanceStep)
| fresh
| query
| prepareCanonicalEvent (event : RuntimeEvent)
| retry (jobId : PostTaskJobId)
| enqueueWithEvent (job : PostTaskJob) (event : RuntimeEvent)
| recordEvent (event : RuntimeEvent)

abbrev GovernanceCommand.Answer : GovernanceCommand → Type
| .attempt _ => Except ClientError Unit
| .fresh => Fresh
| .query => Except ClientError Database
| .prepareCanonicalEvent _ => Except ClientError RuntimeEvent
| .retry _ => Except ClientError Nat
| .enqueueWithEvent _ _ => Except ClientError (Option RuntimeEvent)
| .recordEvent _ => Except ClientError RuntimeEvent

abbrev governanceInterface : Interface := ⟨GovernanceCommand, GovernanceCommand.Answer⟩

/-
  What happens in a step. A step that fails has an error; its transaction may
  have been committed all the same.
-/
structure GovernanceChoice where
  failure : Option (ClientError × Bool)
  fresh : Fresh
  enrichment : Enrichment

variable {α : Type} (choice : GovernanceChoice)

def GovernanceChoice.answer (result : α) : Except ClientError α :=
  match choice.failure with
  | none => .ok result
  | some (error, _) => .error error

def GovernanceChoice.execute (tx : StoreTx α) (database : Database) :
    Except ClientError α × Database :=
  match tx.run database, choice.failure with
  | .error error, _ => (.error (.store error), database)
  | .ok (result, database'), none => (.ok result, database')
  | .ok (_, database'), some (error, true) => (.error error, database')
  | .ok _, some (error, false) => (.error error, database)

def GovernanceCommand.handle :
    (command : GovernanceCommand) → GovernanceChoice → Database → command.Answer × Database
| .attempt _, choice, database => (choice.answer (), database)
| .fresh, choice, database => (choice.fresh, database)
| .query, choice, database => (choice.answer database, database)
| .prepareCanonicalEvent event, choice, database =>
  (choice.answer (choice.enrichment.apply event), database)
| .retry jobId, choice, database => choice.execute (retryPostTaskJob jobId).execute database
| .enqueueWithEvent job event, choice, database =>
  choice.execute (enqueuePostTaskJobWithEvent job event) database
| .recordEvent event, choice, database =>
  choice.execute (appendEventAssigningSequence (choice.enrichment.apply event)) database

abbrev GovernanceProgram := Program governanceInterface ClientError

namespace GovernanceProgram

def perform (command : GovernanceCommand) : GovernanceProgram command.Answer :=
  Program.perform command .done

def attempt (step : GovernanceStep) : GovernanceProgram Unit := do
  let answer : Except ClientError Unit ← perform (.attempt step)
  Program.ofExcept answer

def query : GovernanceProgram Database := do
  let answer : Except ClientError Database ← perform .query
  Program.ofExcept answer

def prepareCanonicalEvent (event : RuntimeEvent) : GovernanceProgram RuntimeEvent := do
  let answer : Except ClientError RuntimeEvent ← perform (.prepareCanonicalEvent event)
  Program.ofExcept answer

/- Whether a job was changed. -/
def retry (jobId : PostTaskJobId) : GovernanceProgram Bool := do
  let answer : Except ClientError Nat ← perform (.retry jobId)
  let updated ← Program.ofExcept answer
  return updated = 1

def enqueueWithEvent (job : PostTaskJob) (event : RuntimeEvent) :
    GovernanceProgram (Option RuntimeEvent) := do
  let answer : Except ClientError (Option RuntimeEvent) ← perform (.enqueueWithEvent job event)
  Program.ofExcept answer

def recordEvent (event : RuntimeEvent) : GovernanceProgram RuntimeEvent := do
  let answer : Except ClientError RuntimeEvent ← perform (.recordEvent event)
  Program.ofExcept answer

end GovernanceProgram

def postTaskJobMaxAttempts : Nat := 3

/- A task whose evaluation is scheduled. -/
structure HostedAgentTask where
  sessionId : SessionId
  taskId : TaskId
  turnId : TurnId

/- The text forms that the serialization library gives. -/
structure GovernanceLibrary where
  jobJson : PostTaskJob → Json.Value
  errorSummary : ClientError → String

def agentEvent (context : EventContext) (task : HostedAgentTask) (eventType : RuntimeEventType)
    (source : RuntimeEventSource) (payload : Json.Value) : RuntimeEvent :=
  hostEvent context task.sessionId (some task.turnId) (some task.taskId) eventType source payload

def deepEvaluationJob (host : RuntimeHost) (task : HostedAgentTask) (fresh : Fresh) : PostTaskJob :=
  NewPostTaskJob.job
    { jobId := fresh.jobId
      kind := .deepEvaluation
      workspaceId := host.workspaceId.toText
      sessionId := task.sessionId.toText
      taskId := task.taskId
      inputRefs := ["session:" ++ task.sessionId.toText, "task:" ++ task.taskId.toText,
          "turn:" ++ task.turnId.toText]
      maxAttempts := postTaskJobMaxAttempts
      createdAt := fresh.context.timestamp }

def postTaskJobQueuedEvent (library : GovernanceLibrary) (task : HostedAgentTask)
    (fresh : Fresh) (job : PostTaskJob) : RuntimeEvent :=
  agentEvent { fresh.context with sequenceNo := 0 } task .postTaskJobQueued .evaluator
    (.object [("summary", .string "durable post-task evaluation queued"),
        ("job", library.jobJson job), ("mode", .string "deep")])

section

variable (library : GovernanceLibrary) (host : RuntimeHost)

open GovernanceProgram

variable (task : HostedAgentTask)

/- Whether the store took the new job. -/
def enqueueNewJob : GovernanceProgram Bool := do
  let fresh : Fresh ← perform .fresh
  let job := deepEvaluationJob host task fresh
  let event ← prepareCanonicalEvent (postTaskJobQueuedEvent library task fresh job)
  let queued ← enqueueWithEvent job event
  if queued.isNone then return false
  else
    attempt .publishCommittedEvent
    return true

/- A job that ended without success is retried, any other left alone. -/
def enqueueDeepTaskEvaluation : GovernanceProgram Bool := do
  let database ← query
  match database.postTaskJob task.taskId with
  | some existing =>
    match existing.status with
    | .queued | .leased | .running | .succeeded => return false
    | .failed | .cancelled => retry existing.jobId
  | none => enqueueNewJob library host task

/- The turn of the task is that of its last event with one. -/
def reconstructPostTaskContext (sessionId : SessionId) (taskId : TaskId) :
    GovernanceProgram HostedAgentTask := do
  let database ← query
  let events := database.journal.loadEvents sessionId (some taskId) none
  let fresh : Fresh ← perform .fresh
  attempt .tokenUsageRecords
  return ⟨sessionId, taskId, (events.reverse.findSome? RuntimeEvent.turnId).getD
      fresh.context.newTurnId⟩

def recoverTask (recovered : Nat) (terminalEvent : RuntimeEvent) : GovernanceProgram Nat :=
  match terminalEvent.taskId with
  | none => return recovered
  | some taskId => do
      let task ← reconstructPostTaskContext terminalEvent.sessionId taskId
      let enqueued ← enqueueDeepTaskEvaluation library host task
      return if enqueued then recovered + 1 else recovered

/- The tasks that ended and have no job yet. -/
def recoverUnscheduledPostTaskJobs : GovernanceProgram Nat := do
  let database ← query
  (database.unscheduledPostTaskTerminalEvents
    host.workspaceRoot).foldlM (recoverTask library host) 0

def scheduleTaskEvaluationNow (task : HostedAgentTask) : GovernanceProgram Unit := do
  attempt .buildTaskEvaluationInput
  attempt .recordTaskEvaluation
  let _ ← enqueueDeepTaskEvaluation library host task
  return ()

def postTaskStageFailedEvent (context : EventContext) (task : HostedAgentTask) (phase : String)
    (terminal : Bool) (error : ClientError) : RuntimeEvent :=
  agentEvent context task .postTaskStageFailed .evaluator (.object [
        ("summary", .string "post-task governance failed after runtime terminal decision"),
        ("phase", .string phase), ("terminal", .bool terminal),
        ("error", .string (library.errorSummary error)),
        ("execution_outcome_unchanged", .bool true)])

variable (task : HostedAgentTask)

/- That the failure could not be recorded is ignored. -/
def recordPostTaskGovernanceFailure (phase : String) (terminal : Bool)
    (error : ClientError) : GovernanceProgram Unit := do
  let fresh : Fresh ← perform .fresh
  let _ : Except ClientError RuntimeEvent ← Program.outcome (recordEvent (postTaskStageFailedEvent
      library fresh.context task phase terminal error))
  return ()

/- A stage that fails is recorded as an event. -/
def processSchedule : GovernanceProgram Unit := do
  let result : Except ClientError Unit ←
    Program.outcome (scheduleTaskEvaluationNow library host task)
  match result with
  | .ok () => return ()
  | .error error => recordPostTaskGovernanceFailure library task "evaluation_scheduling" true error

/- The schedule of a host whose worker is gone. -/
def workerUnavailable : GovernanceProgram Unit :=
  recordPostTaskGovernanceFailure library task "evaluation_scheduling" true
    (.taskExecution "post-task worker is unavailable")

end

inductive GovernanceCall
| schedule (host : RuntimeHost) (task : HostedAgentTask)
| unavailable (task : HostedAgentTask)
| recover (host : RuntimeHost)

/- A recovery returns how many jobs it has enqueued. -/
def GovernanceCall.program (library : GovernanceLibrary) :
    GovernanceCall → GovernanceProgram (Option Nat)
| .schedule host task => do
    processSchedule library host task
    return none
| .unavailable task => do
    workerUnavailable library task
    return none
| .recover host => do
    let recovered ← recoverUnscheduledPostTaskJobs library host
    return some recovered

/-
  What else happens in the store: events are appended, the ends of tasks among
  them, and workers go on with the jobs.
-/
inductive OutsideOp
| store (op : StoreOp) (hThreads : .threads ∉ op.changes) (hJobs : .postTaskJobs ∉ op.changes)
| jobs (op : JobOp) (hOther : ∀ request event, op ≠ .enqueue request event)

def OutsideOp.commit (database : Database) : OutsideOp → Database
| .store op _ _ | .jobs op _ => op.commit database

abbrev GovernanceSystem := Pool governanceInterface Database ClientError (Option Nat) GovernanceCall

abbrev GovernanceOp := PoolOp GovernanceCall GovernanceChoice OutsideOp

namespace GovernanceSystem

variable (library : GovernanceLibrary)

def step : GovernanceSystem → GovernanceOp → GovernanceSystem :=
  Pool.step GovernanceCommand.handle (GovernanceCall.program library) OutsideOp.commit

/- A run over the threads of any number of workspaces. -/
def run (threads : Table ThreadRecord.threadId) (ops : List GovernanceOp) : GovernanceSystem :=
  Machine.run (step library) ⟨{ Database.empty with threads }, []⟩ ops

end GovernanceSystem

end GolutraAgent.Client
