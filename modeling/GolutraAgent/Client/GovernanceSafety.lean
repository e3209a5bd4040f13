import GolutraAgent.Client.TaskGovernance

/-
  This file proves that a task gets one deep evaluation. In every run a task has
  at most one job; and once a recovery has returned, a task whose latest end
  asks for an evaluation has exactly one, unless its scheduling has failed for
  good or the task changed while the recovery ran.

  Main declarations:
    * `deepEvaluations_scheduledOnce`
    * `failedSchedule_neverRecovered`
-/

namespace GolutraAgent.Client

open GolutraAgent.Runtime Store

variable {α β : Type} {w : Database}

abbrev GovernanceProgram.Ensures (good : α → Database → Prop)
    (program : GovernanceProgram α) (w : Database) : Prop :=
  Program.Ensures GovernanceCommand.handle Database.Later good program w

namespace GovernanceChoice

variable {choice : GovernanceChoice} {tx : StoreTx α} {database : Database}

/- A transaction is committed, or nothing happens. -/
theorem execute_later (hTx : ∀ result database', tx.run database = .ok (result, database') →
        database.Later database') : database.Later (choice.execute tx database).2 := by
  unfold execute
  split
  · exact refl_of Database.Later database
  · next hRun _ => exact hTx _ _ hRun
  · next hRun _ => exact hTx _ _ hRun
  · exact refl_of Database.Later database

theorem execute_ok {result : α} (hOk : (choice.execute tx database).1 = .ok result) :
    tx.run database = .ok (result, (choice.execute tx database).2) := by
  unfold execute at *
  split at hOk
  · cases hOk
  · rename_i hRun _
    cases hOk
    exact hRun
  · cases hOk
  · cases hOk

end GovernanceChoice

namespace GovernanceProgram

variable {command : GovernanceCommand} {good : command.Answer → Database → Prop}

theorem perform_ensures (hStep : ∀ choice w', w.Later w' → w'.Later (command.handle choice w').2 ∧
        good (command.handle choice w').1 (command.handle choice w').2) :
    (perform command).Ensures good w :=
  hStep

/- A command that answers without changing anything. -/
theorem read_ensures (hQuiet : ∀ choice w', (command.handle choice w').2 = w')
    (hGood : ∀ choice w', w.Later w' → good (command.handle choice w').1 w') :
    (perform command).Ensures good w := by
  refine perform_ensures ?_
  intro choice w' hLater
  rw [hQuiet]
  exact ⟨refl_of Database.Later w', hGood choice w' hLater⟩

theorem fresh_ensures {good : Fresh → Database → Prop}
    (hGood : ∀ fresh w', w.Later w' → good fresh w') : (perform .fresh).Ensures good w :=
  read_ensures (fun _ _ => rfl) (fun choice w' hLater => hGood choice.fresh w' hLater)

theorem ofExcept_answer_ensures {choice : GovernanceChoice} {result : α}
    {good : α → Database → Prop} (hGood : good result w) :
    Ensures good (Program.ofExcept (choice.answer result)) w := by
  refine Program.Ensures.ofExcept ?_
  intro answer hAnswer
  unfold GovernanceChoice.answer at hAnswer
  split at hAnswer
  · cases hAnswer
    exact hGood
  · cases hAnswer

theorem attempt_ensures {step : GovernanceStep} {good : Unit → Database → Prop}
    (hGood : ∀ w', w.Later w' → good () w') : (attempt step).Ensures good w :=
  Program.Ensures.bind (read_ensures (fun _ _ => rfl) (fun _ w' hLater =>
      ofExcept_answer_ensures (hGood w' hLater)))

/- A query returns the state that it meets. -/
theorem query_ensures {good : Database → Database → Prop}
    (hGood : ∀ w', w.Later w' → good w' w') : query.Ensures good w :=
  Program.Ensures.bind (read_ensures (fun _ _ => rfl) (fun _ w' hLater =>
      ofExcept_answer_ensures (hGood w' hLater)))

variable {event : RuntimeEvent}

theorem prepareCanonicalEvent_ensures {good : RuntimeEvent → Database → Prop}
    (hGood : ∀ event w', w.Later w' → good event w') :
    (prepareCanonicalEvent event).Ensures good w :=
  Program.Ensures.bind (read_ensures (fun _ _ => rfl) (fun _ w' hLater =>
      ofExcept_answer_ensures (hGood _ w' hLater)))

theorem retry_ensures {jobId : PostTaskJobId} {good : Bool → Database → Prop}
    (hGood : ∀ retried w', w.Later w' → good retried w') : (retry jobId).Ensures good w := by
  refine Program.Ensures.bind (perform_ensures ?_)
  intro choice w' hLater
  have hNext : w'.Later (choice.execute (retryPostTaskJob jobId).execute w').2 := by
    refine GovernanceChoice.execute_later ?_
    rintro result database' ⟨⟩
    exact JobUpdate.commit_later (retryPostTaskJob jobId) (fun _ => ⟨rfl, rfl⟩) w'
  refine ⟨hNext, Program.Ensures.bind (Program.Ensures.ofExcept ?_)⟩
  intro updated _
  exact hGood _ _ (trans_of Database.Later hLater hNext)

/- The task of the job has an evaluation afterwards. -/
theorem enqueueWithEvent_ensures {job : PostTaskJob} {good : Option RuntimeEvent → Database → Prop}
    (hKind : job.kind = .deepEvaluation)
    (hGood : ∀ queued w', w.Later w' → w'.hasDeepEvaluation job.taskId = true → good queued w') :
    (enqueueWithEvent job event).Ensures good w := by
  refine Program.Ensures.bind (perform_ensures ?_)
  intro choice w' hLater
  have hNext : w'.Later (choice.execute (enqueuePostTaskJobWithEvent job event) w').2 :=
    GovernanceChoice.execute_later (fun _ _ hRun =>
      (enqueuePostTaskJobWithEvent_later hKind hRun).1)
  refine ⟨hNext, Program.Ensures.ofExcept ?_⟩
  intro queued hQueued
  have hRun := GovernanceChoice.execute_ok hQueued
  exact hGood queued _ (trans_of Database.Later hLater hNext)
    (enqueuePostTaskJobWithEvent_later hKind hRun).2

theorem recordEvent_ensures (event : RuntimeEvent) :
    (recordEvent event).Ensures (fun _ _ => True) w := by
  refine Program.Ensures.bind (perform_ensures ?_)
  intro choice w' _
  refine ⟨GovernanceChoice.execute_later ?_, Program.Ensures.ofExcept (fun _ _ => trivial)⟩
  intro result database' hRun
  exact Database.Later.of_effect (appendEventAssigningSequence_effect [] _ w' result database' hRun)
    (by decide) (by decide)

end GovernanceProgram

section

variable (library : GovernanceLibrary) (host : RuntimeHost)

open GovernanceProgram

variable (task : HostedAgentTask)

theorem enqueueNewJob_ensures (w : Database) :
    (enqueueNewJob library host task).Ensures (fun _ w' => w'.hasDeepEvaluation task.taskId = true)
      w := by
  refine Program.Ensures.bind (fresh_ensures ?_)
  intro fresh w₁ _
  refine Program.Ensures.bind (prepareCanonicalEvent_ensures ?_)
  intro event w₂ _
  refine Program.Ensures.bind (enqueueWithEvent_ensures rfl ?_)
  intro queued w₃ _ hHas
  split
  · exact hHas
  · refine Program.Ensures.bind (attempt_ensures ?_)
    intro w₄ hLater
    exact hLater.deepEvaluation _ hHas

/- Any job that the task already has is its evaluation. -/
theorem enqueueDeepTaskEvaluation_ensures (w : Database) :
    (enqueueDeepTaskEvaluation library host task).Ensures
      (fun _ w' => w.JobsOnce → w'.hasDeepEvaluation task.taskId = true) w := by
  refine Program.Ensures.bind (query_ensures ?_)
  intro w' hLater
  split
  · rename_i existing hExisting
    have hHas : w.JobsOnce → w'.hasDeepEvaluation task.taskId = true :=
      fun hOnce => (hLater.jobsOnce hOnce).hasDeepEvaluation_of_postTaskJob hExisting
    have hRetry : (retry existing.jobId).Ensures
        (fun _ w'' => w.JobsOnce → w''.hasDeepEvaluation task.taskId = true) w' :=
      retry_ensures (fun _ w'' hNext hOnce => hNext.deepEvaluation _ (hHas hOnce))
    split
    · exact hHas
    · exact hHas
    · exact hHas
    · exact hHas
    · exact hRetry
    · exact hRetry
  · exact (enqueueNewJob_ensures library host task w').mono (fun _ _ hHas _ => hHas)

theorem reconstructPostTaskContext_ensures (sessionId : SessionId) (taskId : TaskId) :
    (reconstructPostTaskContext sessionId taskId).Ensures
      (fun task w' => w.Later w' ∧ task.taskId = taskId)
      w := by
  refine (Program.Ensures.later_of ?_).mono (fun _ _ hTask => hTask)
  refine Program.Ensures.bind (query_ensures ?_)
  intro w₁ _
  refine Program.Ensures.bind (fresh_ensures ?_)
  intro fresh w₂ _
  refine Program.Ensures.bind (attempt_ensures ?_)
  intro w₃ _
  rfl

/- A round of the recovery gives the task its job. -/
theorem recoverTask_ensures (hOnce : w.JobsOnce) (recovered : Nat) (terminalEvent : RuntimeEvent) :
    (recoverTask library host recovered terminalEvent).Ensures
      (fun _ w' => ∀ taskId, terminalEvent.taskId = some taskId →
          w'.hasDeepEvaluation taskId = true) w := by
  unfold recoverTask
  split
  · rename_i hNone
    intro taskId hTask
    rw [hNone] at hTask
    cases hTask
  · rename_i taskId hTask
    apply Program.Ensures.bind
    refine (reconstructPostTaskContext_ensures _ _).mono ?_
    rintro task w₁ ⟨hLater, hSame⟩
    apply Program.Ensures.bind
    refine (enqueueDeepTaskEvaluation_ensures library host task w₁).mono ?_
    rintro enqueued w₂ hHas other hOther
    rw [hTask] at hOther
    cases hOther
    rw [← hSame]
    exact hHas (hLater.jobsOnce hOnce)

/-
  Between the start and the return of a recovery there was a scan, and every
  task that it found has a job.
-/
def Recovered (workspaceRoot : Option String) (start w : Database) : Prop :=
  ∃ scanned, start.Later scanned ∧ scanned.Later w ∧
    ∀ event ∈ scanned.unscheduledPostTaskTerminalEvents workspaceRoot,
      ∀ taskId, event.taskId = some taskId → w.hasDeepEvaluation taskId = true

theorem recoverUnscheduledPostTaskJobs_ensures (hOnce : w.JobsOnce) :
    (recoverUnscheduledPostTaskJobs library host).Ensures
      (fun _ => Recovered host.workspaceRoot w) w := by
  refine Program.Ensures.bind (query_ensures ?_)
  intro scanned hScanned
  have hRounds := Program.Ensures.foldlM_all (w := scanned)
    (fun event w' => ∀ taskId, event.taskId = some taskId → w'.hasDeepEvaluation taskId = true)
    (fun event w₁ w₂ hHas hLater taskId hTask => hLater.deepEvaluation taskId (hHas taskId hTask))
    (scanned.unscheduledPostTaskTerminalEvents host.workspaceRoot)
    (fun event _ recovered w' hLater =>
      recoverTask_ensures library host (hLater.jobsOnce (hScanned.jobsOnce hOnce))
        recovered event) 0
  refine (Program.Ensures.later_of hRounds).mono ?_
  rintro _ w' ⟨hLater, hAll⟩
  exact ⟨scanned, hScanned, hLater, hAll⟩

end

section

variable (library : GovernanceLibrary)

open GovernanceProgram

theorem recordPostTaskGovernanceFailure_ensures (task : HostedAgentTask)
    (phase : String) (terminal : Bool) (error : ClientError) (w : Database) :
    (recordPostTaskGovernanceFailure library task phase
      terminal error).Ensures (fun _ _ => True) w := by
  refine Program.Ensures.bind (fresh_ensures ?_)
  intro fresh w' _
  exact Program.Ensures.bind (Program.Ensures.outcome (recordEvent_ensures _) (fun _ _ => trivial))

theorem processSchedule_ensures (host : RuntimeHost) (task : HostedAgentTask) (w : Database) :
    (processSchedule library host task).Ensures (fun _ _ => True) w := by
  refine Program.Ensures.bind (Program.Ensures.outcome ?_ ?_)
  · refine Program.Ensures.bind (attempt_ensures ?_)
    intro w₁ _
    refine Program.Ensures.bind (attempt_ensures ?_)
    intro w₂ _
    apply Program.Ensures.bind
    exact (enqueueDeepTaskEvaluation_ensures library host task w₂).mono (fun _ _ _ => trivial)
  · intro error w'
    exact recordPostTaskGovernanceFailure_ensures library task
      _ _ _ w'

/- What the return of a call tells. -/
def GovernanceCall.Returned (start : Database) : GovernanceCall → Database → Prop
| .recover host, w => Recovered host.workspaceRoot start w
| _, _ => True

theorem GovernanceCall.program_ensures (call : GovernanceCall)
    (hOnce : w.JobsOnce) : (call.program library).Ensures (fun _ => call.Returned w) w := by
  cases call with
  | schedule host task => exact Program.Ensures.bind (processSchedule_ensures library host task w)
  | unavailable task =>
    exact Program.Ensures.bind (recordPostTaskGovernanceFailure_ensures library task
        _ _ _ w)
  | recover host =>
    exact Program.Ensures.bind (recoverUnscheduledPostTaskJobs_ensures library host hOnce)

theorem OutsideOp.commit_later (database : Database) (op : OutsideOp) :
    database.Later (op.commit database) := by
  cases op with
  | store op hThreads hJobs =>
    exact Database.Later.of_effect (op.commit_effect database) hThreads hJobs
  | jobs op hOther => exact op.commit_later hOther database

theorem GovernanceSystem.run_ensured (threads : Table ThreadRecord.threadId)
    (ops : List GovernanceOp) :
    (run library threads ops).Ensured GovernanceCommand.handle Database.Later
        (fun call start _ => call.Returned start) ∧
      (run library threads ops).world.JobsOnce := by
  have hInitial : Database.JobsOnce { Database.empty with threads } :=
    ⟨fun job hJob => (by cases hJob), List.nodup_nil⟩
  have hRun := Pool.run_ensured OutsideOp.commit_later (fun call w' hLater =>
      GovernanceCall.program_ensures library call (hLater.jobsOnce hInitial)) ops
  exact ⟨hRun.1, hRun.2.jobsOnce hInitial⟩

end

variable {taskId : TaskId}

/- A list of events with an end of a task has a latest one. -/
theorem exists_isLatestTerminalOf {events : List RuntimeEvent} {terminal : RuntimeEvent}
    (hEvent : terminal ∈ events) (hTerminal : isTerminalOf taskId terminal = true) :
    ∃ latest ∈ events, isTerminalOf taskId latest = true ∧
      isLatestTerminalOf events taskId latest = true ∧ terminal.sequenceNo ≤ latest.sequenceNo := by
  have hMember : terminal.sequenceNo ∈ (events.filter (isTerminalOf taskId)).map
        RuntimeEvent.sequenceNo :=
    List.mem_map_of_mem (List.mem_filter.2 ⟨hEvent, hTerminal⟩)
  obtain ⟨sequenceNo, hMax⟩ := Option.isSome_iff_exists.1 (List.isSome_max?_of_mem hMember)
  have hGreatest := (List.max?_eq_some_iff.1 hMax).2 terminal.sequenceNo hMember
  obtain ⟨latest, hLatest, hSequence⟩ := List.mem_map.1 (List.max?_eq_some_iff.1 hMax).1
  obtain ⟨hIn, hEnds⟩ := List.mem_filter.1 hLatest
  refine ⟨latest, hIn, hEnds, ?_, hSequence ▸ hGreatest⟩
  unfold isLatestTerminalOf
  unfold isTerminalOf at hEnds
  simp only [Bool.and_eq_true, decide_eq_true_eq] at hEnds ⊢
  exact ⟨hEnds.1, hSequence ▸ hMax⟩

/- The recovery found the task, or it had a job already. -/
theorem Recovered.hasDeepEvaluation {workspaceRoot : Option String}
    {start : Database} (hRecovered : Recovered workspaceRoot start w)
    (hQuiet : start.governanceEvents workspaceRoot taskId = w.governanceEvents workspaceRoot taskId)
    {latest : RuntimeEvent} (hEvent : latest ∈ w.scopedEvents workspaceRoot)
    (hTerminal : isTerminalOf taskId latest = true)
    (hLatest : isLatestTerminalOf (w.scopedEvents workspaceRoot) taskId latest = true)
    (hPending : awaitsGovernance latest = true)
    (hOpen : schedulingTerminal (w.scopedEvents workspaceRoot) taskId = false) :
    w.hasDeepEvaluation taskId = true := by
  obtain ⟨scanned, hBefore, hAfter, hFound⟩ := hRecovered
  have hScan := hBefore.governanceEvents_eq hAfter hQuiet
  have hTask : latest.taskId = some taskId := by
    unfold isTerminalOf at hTerminal
    simp only [Bool.and_eq_true, decide_eq_true_eq] at hTerminal
    exact hTerminal.1
  cases hHad : scanned.hasDeepEvaluation taskId with
  | true => exact hAfter.deepEvaluation taskId hHad
  | false =>
    have hIn : latest ∈ scanned.governanceEvents workspaceRoot taskId := by
      rw [hScan]
      exact List.mem_filter.2 ⟨hEvent, by simp [hTerminal]⟩
    refine hFound latest ?_ taskId hTask
    refine Database.mem_unscheduledPostTaskTerminalEvents.2 ⟨(List.mem_filter.1 hIn).1, ?_⟩
    simp [isUnscheduled, hTask, hHad, hPending, isLatestTerminalOf_congr hScan, hLatest,
      schedulingTerminal_congr hScan, hOpen]

/-
  No task has two evaluations. Once a recovery has returned, an end of a task
  that is pending, as are those after it, has one: unless the scheduling of the
  task has failed for good, or its ends and failures changed since the recovery
  began.
-/
theorem deepEvaluations_scheduledOnce (library : GovernanceLibrary)
    (threads : Table ThreadRecord.threadId) (ops : List GovernanceOp) :
    let s := GovernanceSystem.run library threads ops
    (∀ taskId, s.world.deepEvaluations taskId ≤ 1) ∧
    ∀ process ∈ s.processes, ∀ host recovered, process.call = .recover host →
      process.program = some (.done recovered) → ∀ taskId,
        ∀ terminal ∈ s.world.scopedEvents host.workspaceRoot,
        isTerminalOf taskId terminal = true → (∀ event ∈ s.world.scopedEvents host.workspaceRoot,
          isTerminalOf taskId event = true → terminal.sequenceNo ≤ event.sequenceNo →
            awaitsGovernance event = true) →
        process.start.governanceEvents host.workspaceRoot taskId =
          s.world.governanceEvents host.workspaceRoot taskId →
        schedulingTerminal (s.world.scopedEvents host.workspaceRoot) taskId = false →
        s.world.deepEvaluations taskId = 1 := by
  intro s
  obtain ⟨hEnsured, hOnce⟩ := GovernanceSystem.run_ensured library threads ops
  refine ⟨hOnce.deepEvaluations_le_one, ?_⟩
  intro process hProcess host recovered hCall hDone taskId
    terminal hEvent hTerminal hPending hQuiet hOpen
  obtain ⟨w, hLater, hReturned⟩ := hEnsured process hProcess (.done recovered) hDone
  -- The recovery returned in `w`, at the present or before.
  have hRecovered : Recovered host.workspaceRoot process.start s.world := by
    have hAtReturn : process.call.Returned process.start w := hReturned
    rw [hCall] at hAtReturn
    obtain ⟨scanned, hBefore, hAfter, hFound⟩ := hAtReturn
    exact ⟨scanned, hBefore, trans_of Database.Later hAfter hLater,
      fun event hFoundEvent id hTask =>
        hLater.deepEvaluation id (hFound event hFoundEvent id hTask)⟩
  obtain ⟨latest, hIn, hEnds, hLatest, hOrder⟩ := exists_isLatestTerminalOf hEvent hTerminal
  exact hOnce.deepEvaluations_eq_one (hRecovered.hasDeepEvaluation hQuiet hIn hEnds hLatest
      (hPending latest hIn hEnds hOrder) hOpen)

def scanningHost : RuntimeHost where
  workspaceId := ⟨.ofNat 1⟩
  workspaceRoot := some "/workspace"
  defaultSessionId := ⟨.ofNat 2⟩

def sampleThread : ThreadRecord := ⟨⟨.ofNat 3⟩, ⟨.ofNat 2⟩, none, none, none, some "/workspace",
    none, none, "thread", "", ⟨0⟩, ⟨0⟩, ⟨0⟩, false, false⟩

def sampleThreads : Table ThreadRecord.threadId := ⟨[sampleThread], List.nodup_singleton _⟩

def sampleTask : HostedAgentTask := ⟨⟨.ofNat 2⟩, ⟨.ofNat 4⟩, ⟨.ofNat 5⟩⟩

def governanceSample : GovernanceLibrary := ⟨fun _ => .null, fun _ => "failed"⟩

def sampleFresh (id : Nat) : Fresh := ⟨⟨.ofNat id⟩, ⟨0, ⟨.ofNat id⟩, ⟨0⟩, ⟨.ofNat 5⟩⟩⟩

def stepOf (index id : Nat) (failure : Option (ClientError × Bool)) : GovernanceOp :=
  .advance index ⟨failure, sampleFresh id, ⟨none, .empty, []⟩⟩

def taskEnds : GovernanceOp := .outside (.store (.appendEventAssigningSequence
      (agentEvent (sampleFresh 6).context sampleTask .taskCompleted .runtime
        (.object [("post_task_governance", .object [("status", .string "pending")])])))
    (by decide) (by decide))

/-
  The schedule of an ended task crashes before it stores the job. Two recoveries
  find the task, and both go on to store a job for it.
-/
def crashedScheduleRun : List GovernanceOp := [taskEnds, .spawn (.schedule scanningHost sampleTask),
    stepOf 0 7 none, stepOf 0 7 none, .crash 0,
    .spawn (.recover scanningHost), .spawn (.recover scanningHost)] ++
    List.replicate 6 (stepOf 1 8 none) ++
    List.replicate 9 (stepOf 2 9 none) ++ List.replicate 2 (stepOf 1 8 none)

theorem crashedSchedule_recovered : (GovernanceSystem.run governanceSample sampleThreads
      crashedScheduleRun).world.deepEvaluations sampleTask.taskId = 1 :=
  (deepEvaluations_scheduledOnce governanceSample sampleThreads crashedScheduleRun).2 _
      (List.mem_of_getElem? (i := 1) rfl) scanningHost (some 0) rfl rfl sampleTask.taskId _
      (List.mem_of_getElem? (i := 0) rfl) (by decide) (by decide) rfl (by decide)

/-
  The schedule fails, and records that it did. The recovery then passes over the
  task.
-/
def failedScheduleRun : List GovernanceOp := [taskEnds, .spawn (.schedule scanningHost sampleTask),
    stepOf 0 7 (some (.io "read failed", false)),
    stepOf 0 7 none, stepOf 0 7 none, .spawn (.recover scanningHost), stepOf 1 8 none]

theorem failedSchedule_neverRecovered :
    let s := GovernanceSystem.run governanceSample sampleThreads failedScheduleRun
    (∃ process ∈ s.processes, process.call = .recover scanningHost ∧
      process.program = some (.done (some 0)) ∧ process.start.journal.runtimeEvents.rows =
        s.world.journal.runtimeEvents.rows) ∧
    (∃ terminal ∈ s.world.scopedEvents scanningHost.workspaceRoot,
      isTerminalOf sampleTask.taskId terminal = true ∧ awaitsGovernance terminal = true) ∧
    s.world.deepEvaluations sampleTask.taskId = 0 := by
  refine ⟨⟨_, List.mem_of_getElem? (i := 1) rfl, rfl, rfl,
    rfl⟩, ⟨_, List.mem_of_getElem? (i := 0) rfl, ?_⟩, ?_⟩
  · decide
  · decide

end GolutraAgent.Client
