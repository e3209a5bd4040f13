import GolutraAgent.Store.PostTaskJobs
import GolutraAgent.Store.Replay

/-
  This file models the scan that finds the ended tasks whose evaluation has not
  been scheduled, and says how what it reads changes over time: events are only
  added, sessions stay in their workspace, jobs are not removed, and a task has
  one job at most.

  A task is found by its latest event that ends it, and only if that event asks
  for an evaluation. A task whose latest failed stage is a terminal one is left
  out.
-/

namespace GolutraAgent.Store

open Transaction Database

namespace Database

variable (database : Database)

/- The latest job of a task, of any kind. -/
def postTaskJob (taskId : TaskId) : Option PostTaskJob :=
  Table.leastBy (fun job => - job.createdAt.nanos)
    (database.postTaskJobs.rows.filter (·.taskId = taskId))

def hasDeepEvaluation (taskId : TaskId) : Bool :=
  database.postTaskJobs.rows.any (fun job => job.taskId = taskId && job.kind = .deepEvaluation)

variable (workspaceRoot : Option String)

/- Without a root, the sessions of all workspaces. -/
def isScoped (sessionId : SessionId) : Bool :=
  database.threads.rows.any (fun thread =>
    thread.sessionId = sessionId && (workspaceRoot.isNone || thread.workspaceRoot = workspaceRoot))

def scopedEvents : List RuntimeEvent :=
  database.journal.runtimeEvents.rows.filter (database.isScoped workspaceRoot ·.sessionId)

end Database

variable (taskId : TaskId) (event : RuntimeEvent)

def isTerminalOf : Bool := event.taskId = some taskId && event.eventType.isTaskTerminal

def isStageFailureOf : Bool := event.taskId = some taskId && event.eventType = .postTaskStageFailed

/- The event has the number of the latest end of the task. -/
def isLatestTerminalOf (events : List RuntimeEvent) (taskId : TaskId)
    (event : RuntimeEvent) : Bool :=
  event.taskId = some taskId && ((events.filter (isTerminalOf taskId)).map
      RuntimeEvent.sequenceNo).max? = some event.sequenceNo

def awaitsGovernance (event : RuntimeEvent) : Bool := (event.payload.pointer
    ["post_task_governance", "status"]).bind Json.Value.asStr = some "pending"

/- The latest failed stage of the task ended its scheduling. -/
def schedulingTerminal (events : List RuntimeEvent) (taskId : TaskId) : Bool :=
  (Table.leastBy (fun event => - (event.sequenceNo : Int))
    (events.filter (isStageFailureOf taskId))).any (fun failure =>
        (failure.payload.get "terminal").bind Json.Value.asBool = some true)

/- What the scan selects among the events that it sees. -/
def isUnscheduled (database : Database) (events : List RuntimeEvent)
    (event : RuntimeEvent) : Bool :=
  event.taskId.any (fun taskId =>
    isLatestTerminalOf events taskId event && !database.hasDeepEvaluation taskId &&
      awaitsGovernance event && !schedulingTerminal events taskId)

def Database.unscheduledPostTaskTerminalEvents (database : Database)
    (workspaceRoot : Option String) : List RuntimeEvent :=
  let events := database.scopedEvents workspaceRoot
  (events.filter (isUnscheduled database events)).insertionSort (fun first second =>
      first.sequenceNo ≤ second.sequenceNo)

/- Every selected event that the scan sees is in its result. -/
theorem Database.mem_unscheduledPostTaskTerminalEvents {database : Database}
    {workspaceRoot : Option String} {event : RuntimeEvent} :
    event ∈ database.unscheduledPostTaskTerminalEvents workspaceRoot ↔
      event ∈ database.scopedEvents workspaceRoot ∧ isUnscheduled database
          (database.scopedEvents workspaceRoot) event = true := by
  unfold unscheduledPostTaskTerminalEvents
  rw [List.mem_insertionSort, List.mem_filter]

theorem Database.hasDeepEvaluation_iff {database : Database} {taskId : TaskId} :
    database.hasDeepEvaluation taskId = true ↔ ∃ job ∈ database.postTaskJobs.rows,
        job.taskId = taskId ∧ job.kind = .deepEvaluation := by
  simp [hasDeepEvaluation]

namespace Database

/- All jobs are evaluations, at most one for each task. -/
structure JobsOnce (database : Database) : Prop where
  deep : ∀ job ∈ database.postTaskJobs.rows, job.kind = .deepEvaluation
  distinct : (database.postTaskJobs.rows.map PostTaskJob.taskId).Nodup

structure Later (database database' : Database) : Prop where
  events : database.journal.runtimeEvents.rows <+: database'.journal.runtimeEvents.rows
  scope : ∀ workspaceRoot sessionId, database.isScoped workspaceRoot sessionId = true →
      database'.isScoped workspaceRoot sessionId = true
  deepEvaluation : ∀ taskId, database.hasDeepEvaluation taskId = true →
      database'.hasDeepEvaluation taskId = true
  jobsOnce : database.JobsOnce → database'.JobsOnce

namespace Later

instance : IsPreorder Database Later where
  refl := fun _ => ⟨List.prefix_rfl, fun _ _ => id, fun _ => id, id⟩
  trans := fun _ _ _ hFirst hSecond =>
    ⟨hFirst.events.trans hSecond.events, fun root sessionId hScoped =>
        hSecond.scope root sessionId (hFirst.scope root sessionId hScoped),
      fun taskId hJob => hSecond.deepEvaluation taskId (hFirst.deepEvaluation taskId hJob),
      fun hOnce => hSecond.jobsOnce (hFirst.jobsOnce hOnce)⟩

variable {database database' : Database}

/- A change of tables that the scan does not read. -/
theorem of_effect {changes : List StoreTable} (hEffect : database.Effect changes database')
    (hThreads : .threads ∉ changes) (hJobs : .postTaskJobs ∉ changes) :
    database.Later database' := by
  have hThreads' := hEffect.threads hThreads
  have hJobs' := hEffect.postTaskJobs hJobs
  refine ⟨hEffect.journal.isPrefix, ?_, ?_, ?_⟩
  · intro root sessionId hScoped
    unfold isScoped at *
    rwa [hThreads']
  · intro taskId hJob
    unfold hasDeepEvaluation at *
    rwa [hJobs']
  · rintro ⟨hDeep, hDistinct⟩
    exact ⟨hJobs' ▸ hDeep, hJobs' ▸ hDistinct⟩

/- The task and the kind of a job do not change. -/
theorem of_jobs {postTaskJobs : Table PostTaskJob.jobId}
    (hSame : postTaskJobs.rows.map (fun job => (job.taskId, job.kind)) =
      database.postTaskJobs.rows.map (fun job => (job.taskId, job.kind))) :
    database.Later { database with postTaskJobs } := by
  have hMember : ∀ job ∈ database.postTaskJobs.rows, ∃ job' ∈ postTaskJobs.rows,
        job'.taskId = job.taskId ∧ job'.kind = job.kind := by
    intro job hJob
    have hKey : (job.taskId, job.kind) ∈ postTaskJobs.rows.map
        (fun job => (job.taskId, job.kind)) := by
      rw [hSame]
      exact List.mem_map_of_mem hJob
    obtain ⟨job', hJob', hEq⟩ := List.mem_map.1 hKey
    exact ⟨job', hJob', congrArg Prod.fst hEq, congrArg Prod.snd hEq⟩
  refine ⟨List.prefix_rfl, fun _ _ => id, ?_, ?_⟩
  · intro taskId hHas
    obtain ⟨job, hJob, hTask, hKind⟩ := hasDeepEvaluation_iff.1 hHas
    obtain ⟨job', hJob', hTask', hKind'⟩ := hMember job hJob
    exact hasDeepEvaluation_iff.2 ⟨job', hJob', hTask'.trans hTask, hKind'.trans hKind⟩
  · rintro ⟨hDeep, hDistinct⟩
    refine ⟨?_, ?_⟩
    · intro job hJob
      have hKey : (job.taskId, job.kind) ∈ database.postTaskJobs.rows.map
            (fun job => (job.taskId, job.kind)) := by
        rw [← hSame]
        exact List.mem_map_of_mem hJob
      obtain ⟨job', hJob', hEq⟩ := List.mem_map.1 hKey
      have hKind : job'.kind = job.kind := congrArg Prod.snd hEq
      rw [← hKind]
      exact hDeep job' hJob'
    · have hTasks := congrArg (List.map Prod.fst) hSame
      simp only [List.map_map] at hTasks
      change postTaskJobs.rows.map PostTaskJob.taskId =
        database.postTaskJobs.rows.map PostTaskJob.taskId at hTasks
      rw [hTasks]
      exact hDistinct

/- The events in scope only become more. -/
theorem scopedEvents_sublist (hLater : database.Later database') (workspaceRoot : Option String) :
    (database.scopedEvents workspaceRoot).Sublist (database'.scopedEvents workspaceRoot) := by
  refine (List.monotone_filter_right _ ?_).trans (hLater.events.sublist.filter _)
  intro event
  exact hLater.scope workspaceRoot event.sessionId

end Later

end Database

def Database.deepEvaluations (database : Database) (taskId : TaskId) : Nat :=
  database.postTaskJobs.rows.countP (fun job => job.taskId = taskId && job.kind = .deepEvaluation)

namespace Database.JobsOnce

variable {database : Database}

theorem deepEvaluations_le_one (hOnce : database.JobsOnce) (taskId : TaskId) :
    database.deepEvaluations taskId ≤ 1 := by
  have hCount := List.nodup_iff_count_le_one.1 hOnce.distinct taskId
  rw [List.count_eq_countP, List.countP_map] at hCount
  refine le_trans (List.countP_mono_left ?_) hCount
  intro job _ hJob
  simp only [Bool.and_eq_true, decide_eq_true_eq] at hJob
  simp [hJob.1]

theorem deepEvaluations_eq_one (hOnce : database.JobsOnce) {taskId : TaskId}
    (hHas : database.hasDeepEvaluation taskId = true) : database.deepEvaluations taskId = 1 := by
  have hAtMost := hOnce.deepEvaluations_le_one taskId
  have hPositive : 0 < database.deepEvaluations taskId := by
    unfold deepEvaluations
    rw [List.countP_pos_iff]
    exact List.any_eq_true.1 hHas
  omega

/- Any job of a task is its evaluation. -/
theorem hasDeepEvaluation_of_postTaskJob (hOnce : database.JobsOnce) {taskId : TaskId}
    {job : PostTaskJob} (hJob : database.postTaskJob taskId = some job) :
    database.hasDeepEvaluation taskId = true := by
  obtain ⟨hRow, hTask⟩ := List.mem_filter.1 (Table.leastBy_mem hJob)
  exact hasDeepEvaluation_iff.2 ⟨job, hRow, of_decide_eq_true hTask, hOnce.deep job hRow⟩

end Database.JobsOnce

/- The events of a task that decide what the scan does. -/
def Database.governanceEvents (database : Database)
    (workspaceRoot : Option String) (taskId : TaskId) : List RuntimeEvent :=
  (database.scopedEvents workspaceRoot).filter (fun event =>
    isTerminalOf taskId event || isStageFailureOf taskId event)

section

variable {database database' database'' : Database}
variable {workspaceRoot : Option String} {taskId : TaskId}

theorem Database.Later.governanceEvents_sublist (hLater : database.Later database')
    (workspaceRoot : Option String) (taskId : TaskId) :
    (database.governanceEvents workspaceRoot taskId).Sublist
      (database'.governanceEvents workspaceRoot taskId) :=
  (hLater.scopedEvents_sublist workspaceRoot).filter _

/- What is the same before and after was the same between. -/
theorem Database.Later.governanceEvents_eq (hFirst : database.Later database')
    (hSecond : database'.Later database'')
    (hQuiet : database.governanceEvents workspaceRoot taskId =
      database''.governanceEvents workspaceRoot taskId) :
    database'.governanceEvents workspaceRoot taskId =
      database''.governanceEvents workspaceRoot taskId := by
  have hStart := (hFirst.governanceEvents_sublist workspaceRoot taskId).length_le
  rw [hQuiet] at hStart
  exact (hSecond.governanceEvents_sublist workspaceRoot taskId).eq_of_length_le hStart

theorem Database.filter_governanceEvents {selects : RuntimeEvent → Bool}
    (hSelects : ∀ event, selects event = true →
      isTerminalOf taskId event = true ∨ isStageFailureOf taskId event = true) :
    (database.governanceEvents workspaceRoot taskId).filter selects =
      (database.scopedEvents workspaceRoot).filter selects := by
  unfold governanceEvents
  rw [List.filter_filter]
  refine List.filter_congr ?_
  intro event _
  cases hEvent : selects event with
  | false => rfl
  | true =>
    rcases hSelects event hEvent with hTerminal | hFailure
    · rw [hTerminal]
      rfl
    · rw [hFailure, Bool.or_true]
      rfl

section

variable (hQuiet : database.governanceEvents workspaceRoot taskId =
  database'.governanceEvents workspaceRoot taskId)
include hQuiet

theorem isLatestTerminalOf_congr (event : RuntimeEvent) :
    isLatestTerminalOf (database.scopedEvents workspaceRoot) taskId event =
      isLatestTerminalOf (database'.scopedEvents workspaceRoot) taskId event := by
  unfold isLatestTerminalOf
  rw [← filter_governanceEvents (fun event hEvent => .inl hEvent),
    hQuiet, filter_governanceEvents (fun event hEvent => .inl hEvent)]

theorem schedulingTerminal_congr : schedulingTerminal (database.scopedEvents workspaceRoot) taskId =
      schedulingTerminal (database'.scopedEvents workspaceRoot) taskId := by
  unfold schedulingTerminal
  rw [← filter_governanceEvents (fun event hEvent => .inr hEvent),
    hQuiet, filter_governanceEvents (fun event hEvent => .inr hEvent)]

end

end

section

variable {database database' : Database}

/- After an enqueue the task has a job. -/
theorem enqueuePostTaskJobWithEvent_later {job : PostTaskJob} {event : RuntimeEvent}
    {result : Option RuntimeEvent} (hKind : job.kind = .deepEvaluation)
    (hRun : (enqueuePostTaskJobWithEvent job event).run database = .ok (result, database')) :
    database.Later database' ∧ database'.hasDeepEvaluation job.taskId = true := by
  cases enqueuePostTaskJobWithEvent_run hRun with
  | existing row hRow hSame =>
    exact ⟨refl_of Database.Later database, hasDeepEvaluation_iff.2
        ⟨row, hRow, hSame.1, hSame.2.trans hKind⟩⟩
  | enqueued postTaskJobs journal assigned hNew hInsert hAppend =>
    have hRows := (Table.insert?_eq_some hInsert).2
    have hEvents : database.journal.runtimeEvents.rows <+: journal.runtimeEvents.rows := by
      rw [(appended_of_run hAppend).2.runtimeEvents]
      exact List.prefix_append _ _
    refine ⟨⟨hEvents, fun _ _ => id, ?_, ?_⟩, ?_⟩
    · intro taskId hHas
      obtain ⟨row, hRow, hJob⟩ := hasDeepEvaluation_iff.1 hHas
      exact hasDeepEvaluation_iff.2 ⟨row, by simp [hRows, hRow], hJob⟩
    · rintro ⟨hDeep, hDistinct⟩
      refine ⟨?_, ?_⟩
      · intro row hRow
        simp only [hRows, List.mem_append, List.mem_singleton] at hRow
        rcases hRow with hRow | rfl
        · exact hDeep row hRow
        · exact hKind
      · simp only [hRows, List.map_append, List.map_cons, List.map_nil]
        refine hDistinct.append (List.nodup_singleton _) ?_
        rw [List.disjoint_singleton]
        intro hTask
        obtain ⟨row, hRow, hSame⟩ := List.mem_map.1 hTask
        exact hNew row hRow ⟨hSame, (hDeep row hRow).trans hKind.symm⟩
    · exact hasDeepEvaluation_iff.2 ⟨job, by simp [hRows], rfl, hKind⟩

/- An update keeps the task and the kind of every job. -/
theorem JobUpdate.commit_later (update : JobUpdate)
    (hSame : ∀ job, (update.change job).taskId = job.taskId ∧ (update.change job).kind = job.kind)
    (database : Database) : database.Later (update.execute.commit database) := by
  refine Database.Later.of_jobs ?_
  unfold Table.updateWhere
  rw [List.map_map]
  refine List.map_congr_left ?_
  intro job _
  simp only [Function.comp]
  split
  · rw [(hSame job).1, (hSame job).2]
  · rfl

/- What workers do to the jobs, as one step of a database. -/
def JobOp.commit (database : Database) (op : JobOp) : Database :=
  (JobSystem.perform ⟨database, []⟩ op).database

theorem JobOp.commit_later (op : JobOp) (hOther : ∀ request event, op ≠ .enqueue request event)
    (database : Database) : database.Later (op.commit database) := by
  cases op with
  | enqueue request event => exact absurd rfl (hOther request event)
  | claim workerId workspaceId now leaseFor =>
    unfold JobOp.commit
    simp only [JobSystem.perform, JobSystem.claim]
    cases hRun : (claimPostTaskJobMatching workerId workspaceId now leaseFor).run database with
    | error error => exact refl_of Database.Later database
    | ok claimed =>
      obtain ⟨result, database'⟩ := claimed
      cases claimPostTaskJobMatching_run hRun with
      | nothing => exact refl_of Database.Later database
      | leased row hRow hClaimable => exact JobUpdate.commit_later _ (fun _ => ⟨rfl, rfl⟩) database
  | work jobId workerId call =>
    cases call with
    | start | requeue | finish => exact JobUpdate.commit_later _ (fun _ => ⟨rfl, rfl⟩) database
  | retry | requeueExpired | failExpired =>
    exact JobUpdate.commit_later _ (fun _ => ⟨rfl, rfl⟩) database

end

end GolutraAgent.Store
