import GolutraAgent.Store.PostTaskJobs

/-
  This file proves what the leases of the jobs guarantee, in every run by any
  number of workers and with any readings of the clock: no job exceeds its
  attempts, a job has at most one lease that has not ended, a lease ends only by
  a call under its worker or when a recovery finds it expired, and a terminal
  job changes only by a retry.

  A call is fenced by the id of its worker alone. One that is made for an
  attempt whose lease is gone changes nothing, unless the job has been claimed
  again under the same id.

  Main declarations:
    * `postTaskLeases_fenced`
    * `reusedWorker_finishesAgain`
-/

namespace GolutraAgent.Store

open Transaction Lease
open Table PostTaskJob

/- What the row of a job keeps. -/
structure JobSane (job : PostTaskJob) : Prop where
  attempt : job.attempt ≤ job.maxAttempts
  leased : job.leaseOwner.isSome = true → job.isLeased = true
  expires : job.leaseExpiresAt.isSome = job.leaseOwner.isSome

/- The leases of a job that have not ended. -/
def JobSystem.openLeases (s : JobSystem) (jobId : PostTaskJobId) : List Lease :=
  s.leases.filter (fun lease => !lease.ended && lease.jobId = jobId)

/- The open lease of a job is the one that its row records. -/
structure JobSystem.Sound (s : JobSystem) : Prop where
  sane : ∀ job ∈ s.database.postTaskJobs.rows, JobSane job
  ledger : ∀ jobId, s.openLeases jobId =
    ((s.database.postTaskJobs.find? jobId).bind Lease.ofJob).toList

variable {job : PostTaskJob}

theorem Lease.ofJob_eq_some {lease : Lease} (hLease : Lease.ofJob job = some lease) :
    lease.jobId = job.jobId ∧ job.leaseOwner = some lease.workerId ∧
      job.leaseExpiresAt = some lease.expiresAt := by
  unfold ofJob at hLease
  split at hLease
  · rename_i hOwner hExpires
    cases hLease
    exact ⟨rfl, hOwner, hExpires⟩
  · cases hLease

variable {workerId : String}

/- A row with an owner records a lease under it. -/
theorem JobSane.lease (hSane : JobSane job) (hOwner : job.leaseOwner = some workerId) :
    ∃ lease, Lease.ofJob job = some lease ∧ lease.workerId = workerId := by
  have hExpires := hSane.expires
  rw [hOwner, Option.isSome_some, Option.isSome_iff_exists] at hExpires
  obtain ⟨expiresAt, hExpires⟩ := hExpires
  refine ⟨⟨job.jobId, workerId, job.attempt, expiresAt, false⟩, ?_, rfl⟩
  unfold ofJob
  rw [hOwner, hExpires]

theorem Lease.ofJob_eq_none (hOwner : job.leaseOwner = none) : Lease.ofJob job = none := by
  unfold ofJob
  rw [hOwner]

/-
  What an update has to keep: the row stays sane, and its lease is cleared or
  left as it was.
-/
structure JobUpdate.Keeps (update : JobUpdate) : Prop where
  sane : ∀ job, JobSane job → update.selects job = true → JobSane (update.change job)
  lease : ∀ job, update.selects job = true → (update.change job).leaseOwner = none ∨
      Lease.ofJob (update.change job) = Lease.ofJob job

theorem JobSystem.find?_update (s : JobSystem) (update : JobUpdate) (jobId : PostTaskJobId) :
    (s.update update).database.postTaskJobs.find? jobId =
      (s.database.postTaskJobs.find? jobId).map (fun job =>
        if update.selects job then update.change job
        else job) := by
  unfold JobSystem.update
  rw [JobUpdate.execute_commit, find?_updateWhere]

/- The leases that are still open after some ended. -/
theorem JobSystem.openLeases_update (s : JobSystem) (update : JobUpdate) (jobId : PostTaskJobId) :
    (s.update update).openLeases jobId = (s.openLeases jobId).filter (fun lease =>
        !update.ends s.database.postTaskJobs lease) := by
  unfold JobSystem.openLeases JobSystem.update
  induction s.leases with
  | nil => rfl
  | cons lease leases ih =>
    simp only [List.map_cons, List.filter_cons, ih, endIf]
    cases hEnds : update.ends s.database.postTaskJobs lease
    all_goals cases hOpen : lease.ended
    all_goals by_cases hJob : lease.jobId = jobId
    all_goals simp [hEnds, hOpen, hJob]

variable {s : JobSystem}

theorem JobSystem.Sound.update (hSound : s.Sound) {update : JobUpdate}
    (hKeeps : update.Keeps) : (s.update update).Sound := by
  constructor
  · intro job hJob
    obtain ⟨old, hOld, rfl⟩ := List.mem_map.1 hJob
    split
    · next hSelected => exact hKeeps.sane old (hSound.sane old hOld) hSelected
    · exact hSound.sane old hOld
  · intro jobId
    rw [openLeases_update, find?_update, hSound.ledger]
    cases hFind : s.database.postTaskJobs.find? jobId with
    | none => rfl
    | some job =>
      obtain ⟨-, rfl⟩ := find?_eq_some_iff.1 hFind
      simp only [Option.map_some, Option.bind_some]
      -- The lease ends exactly if the row is cleared.
      have hEnds : ∀ lease, ofJob job = some lease →
          update.ends s.database.postTaskJobs lease = (update.selects job &&
              (update.change job).leaseOwner.isNone) := by
        intro lease hLease
        unfold JobUpdate.ends
        rw [(ofJob_eq_some hLease).1, hFind]
        rfl
      cases hSelected : update.selects job with
      | false =>
        cases hLease : ofJob job with
        | none => simp [hLease]
        | some lease => simp [hEnds lease hLease, hSelected, hLease]
      | true =>
        rcases hKeeps.lease job hSelected with hCleared | hSame
        · have hNone := ofJob_eq_none hCleared
          cases hLease : ofJob job with
          | none => simp [hNone]
          | some lease => simp [hEnds lease hLease, hSelected, hCleared, hNone]
        · cases hLease : ofJob job with
          | none => simp [hSame, hLease]
          | some lease =>
            have hOwner := (ofJob_eq_some (hSame.trans hLease)).2.1
            simp [hEnds lease hLease, hOwner, hSame, hLease]

/- An update that clears the lease of what it selects. -/
theorem JobUpdate.Keeps.of_clears {update : JobUpdate}
    (hOwner : ∀ job, (update.change job).leaseOwner = none)
    (hExpires : ∀ job, (update.change job).leaseExpiresAt = none)
    (hAttempt : ∀ job, JobSane job → (update.change job).attempt ≤
        (update.change job).maxAttempts) : update.Keeps where
  sane := by
    intro job hSane _
    refine ⟨hAttempt job hSane, ?_, ?_⟩
    · intro hSome
      rw [hOwner] at hSome
      cases hSome
    · rw [hOwner, hExpires]
      rfl
  lease := fun job _ => .inl (hOwner job)

theorem WorkerCall.update_keeps (jobId : PostTaskJobId) (workerId : String)
    (call : WorkerCall) : (call.update jobId workerId).Keeps := by
  cases call with
  | start startedAt =>
    refine ⟨fun job hSane _ => ?_, fun _ _ => .inr rfl⟩
    exact ⟨hSane.attempt, fun _ => rfl, hSane.expires⟩
  | requeue | finish =>
    exact .of_clears (fun _ => rfl) (fun _ => rfl) (fun _ hSane => hSane.attempt)

theorem retryPostTaskJob_keeps (jobId : PostTaskJobId) : (retryPostTaskJob jobId).Keeps :=
  .of_clears (fun _ => rfl) (fun _ => rfl) (fun _ _ => Nat.zero_le _)

theorem requeueExpiredPostTaskJobs_keeps (workspaceId : String)
    (now : Timestamp) : (requeueExpiredPostTaskJobs workspaceId now).Keeps :=
  .of_clears (fun _ => rfl) (fun _ => rfl) (fun _ hSane => hSane.attempt)

theorem failExpiredPostTaskJobs_keeps (workspaceId : String)
    (now : Timestamp) : (failExpiredPostTaskJobs workspaceId now).Keeps :=
  .of_clears (fun _ => rfl) (fun _ => rfl) (fun _ hSane => hSane.attempt)

/- A queued job records no lease. -/
theorem JobSane.free (hSane : JobSane job) (hFree : job.isLeased = false) :
    job.leaseOwner = none := by
  cases hOwner : job.leaseOwner with
  | none => rfl
  | some workerId =>
    have hLeased := hSane.leased (by rw [hOwner]; rfl)
    rw [hFree] at hLeased
    cases hLeased

/- The lease that a claim hands out. -/
theorem Lease.ofJob_leased (row : PostTaskJob) (workerId : String) (expiresAt : Timestamp) :
    Lease.ofJob ((leasePostTaskJob row.jobId workerId expiresAt).change row) =
      some ⟨row.jobId, workerId, row.attempt + 1, expiresAt, false⟩ := rfl

section

variable {row : PostTaskJob} {expiresAt : Timestamp}

/- Only the row of the claim is selected. -/
theorem eq_of_leasePostTaskJob_selects (hRow : row ∈ s.database.postTaskJobs.rows)
    {other : PostTaskJob} (hOther : other ∈ s.database.postTaskJobs.rows)
    (hSelected : (leasePostTaskJob row.jobId workerId expiresAt).selects other = true) : other =
    row := by
  simp only [leasePostTaskJob, Bool.and_eq_true, decide_eq_true_eq] at hSelected
  have hFind := find?_eq_some_iff.2 ⟨hRow, rfl⟩
  have hFindOther := find?_eq_some_iff.2 ⟨hOther, hSelected.1⟩
  rw [hFind] at hFindOther
  exact (Option.some.inj hFindOther).symm

theorem JobSystem.Sound.lease (hSound : s.Sound) (hRow : row ∈ s.database.postTaskJobs.rows)
    (hQueued : row.status = .queued) (hBudget : row.attempt < row.maxAttempts) : JobSystem.Sound
      { database := (leasePostTaskJob row.jobId workerId expiresAt).execute.commit s.database
        leases := s.leases ++ [⟨row.jobId, workerId, row.attempt + 1, expiresAt, false⟩] } := by
  have hFind := find?_eq_some_iff.2 ⟨hRow, rfl⟩
  have hSelected : (leasePostTaskJob row.jobId workerId expiresAt).selects row = true := by
    simp [leasePostTaskJob, hQueued]
  have hFree : ofJob row = none := by
    apply ofJob_eq_none
    apply (hSound.sane row hRow).free
    simp [isLeased, hQueued]
  constructor
  · intro job hJob
    obtain ⟨old, hOld, rfl⟩ := List.mem_map.1 hJob
    split
    · rename_i hOldSelected
      obtain rfl := eq_of_leasePostTaskJob_selects hRow hOld hOldSelected
      exact ⟨hBudget, fun _ => rfl, rfl⟩
    · exact hSound.sane old hOld
  · intro jobId
    have hOpen := hSound.ledger jobId
    unfold JobSystem.openLeases at hOpen ⊢
    rw [List.filter_append, hOpen, JobUpdate.execute_commit, find?_updateWhere]
    by_cases hJob : jobId = row.jobId
    · subst hJob
      simp [hFind, hSelected, hFree, ofJob_leased]
    · cases hOther : s.database.postTaskJobs.find? jobId with
      | none => simp [Ne.symm hJob]
      | some other =>
        have hName := (find?_eq_some_iff.1 hOther).2
        have hNot : (leasePostTaskJob row.jobId workerId expiresAt).selects other = false := by
          simp [leasePostTaskJob, hName, hJob]
        simp [hNot, Ne.symm hJob]

end

theorem JobSystem.Sound.claim (hSound : s.Sound) (workerId : String) (workspaceId : Option String)
    (now : Timestamp) (leaseFor : Int) : (s.claim workerId workspaceId now leaseFor).Sound := by
  unfold JobSystem.claim
  cases hRun : (claimPostTaskJobMatching workerId workspaceId now leaseFor).run s.database with
  | error error => exact hSound
  | ok outcome =>
    obtain ⟨result, database⟩ := outcome
    cases claimPostTaskJobMatching_run hRun with
    | nothing => exact hSound
    | leased row hRow hClaimable =>
      obtain ⟨hQueued, hBudget, -⟩ := isClaimable_iff.1 hClaimable
      exact hSound.lease hRow hQueued hBudget

theorem JobSystem.Sound.enqueue (hSound : s.Sound)
    (request : NewPostTaskJob) (event : RuntimeEvent) : JobSystem.Sound { s with
      database := (enqueuePostTaskJobWithEvent request.job event).commit s.database } := by
  unfold Transaction.commit
  cases hRun : (enqueuePostTaskJobWithEvent request.job event).run s.database with
  | error error => exact hSound
  | ok outcome =>
    obtain ⟨result, database⟩ := outcome
    cases enqueuePostTaskJobWithEvent_run hRun with
    | existing row hRow hSame => exact hSound
    | enqueued postTaskJobs journal assigned hNew hInsert =>
      obtain ⟨hAbsent, hRows⟩ := insert?_eq_some hInsert
      constructor
      · intro job hJob
        rw [hRows, List.mem_append, List.mem_singleton] at hJob
        rcases hJob with hOld | rfl
        · exact hSound.sane job hOld
        · exact ⟨Nat.zero_le _, fun hOwner => (by cases hOwner), rfl⟩
      · intro jobId
        refine (hSound.ledger jobId).trans ?_
        rw [find?_insert? hInsert]
        split
        · rename_i hJob
          subst hJob
          rw [hAbsent]
          rfl
        · rfl

theorem JobSystem.Sound.step (hSound : s.Sound) (attempt : JobAttempt) :
    (s.step attempt).Sound := by
  unfold JobSystem.step
  split
  · cases attempt.op with
    | enqueue request event => exact hSound.enqueue request event
    | claim workerId workspaceId now leaseFor =>
      exact hSound.claim workerId workspaceId now leaseFor
    | work jobId workerId call => exact hSound.update (call.update_keeps jobId workerId)
    | retry jobId => exact hSound.update (retryPostTaskJob_keeps jobId)
    | requeueExpired workspaceId now =>
      exact hSound.update (requeueExpiredPostTaskJobs_keeps workspaceId now)
    | failExpired workspaceId now =>
      exact hSound.update (failExpiredPostTaskJobs_keeps workspaceId now)
  · exact hSound

theorem JobSystem.run_sound (attempts : List JobAttempt) : (JobSystem.run attempts).Sound :=
  Machine.run_invariant_of_step (fun _ attempt hSound => hSound.step attempt)
    ⟨fun _ hJob => (by cases hJob), fun _ => rfl⟩ attempts

variable {jobId : PostTaskJobId}

/- The call of a worker selects a job under its lease. -/
theorem WorkerCall.owner_of_selects {call : WorkerCall} (hSelected :
      (call.update jobId workerId).selects job = true) :
    job.jobId = jobId ∧ job.leaseOwner = some workerId ∧ job.isLeased = true := by
  cases call with
  | start startedAt =>
    simp only [WorkerCall.update, startPostTaskJob,
      Bool.and_eq_true, decide_eq_true_eq] at hSelected
    refine ⟨hSelected.1.1, hSelected.2, ?_⟩
    simp [isLeased, hSelected.1.2]
  | requeue error =>
    simp only [WorkerCall.update, requeuePostTaskJob,
      Bool.and_eq_true, decide_eq_true_eq] at hSelected
    exact ⟨hSelected.1.1.1, hSelected.1.1.2, hSelected.1.2⟩
  | finish status resultRefs error completedAt =>
    simp only [WorkerCall.update, finishPostTaskJob,
      Bool.and_eq_true, decide_eq_true_eq] at hSelected
    exact ⟨hSelected.1.1, hSelected.1.2, hSelected.2⟩

variable {now : Timestamp} {workspaceId : String}

/- A recovery selects a job whose lease is over. -/
theorem requeueExpired_selects
    (hSelected : (requeueExpiredPostTaskJobs workspaceId now).selects job = true) :
    job.isLeased = true ∧ job.hasExpired now = true := by
  simp only [requeueExpiredPostTaskJobs, Bool.and_eq_true] at hSelected
  exact ⟨hSelected.1.1.2, hSelected.1.2⟩

theorem failExpired_selects
    (hSelected : (failExpiredPostTaskJobs workspaceId now).selects job = true) :
    job.isLeased = true ∧ job.hasExpired now = true := by
  simp only [failExpiredPostTaskJobs, Bool.and_eq_true] at hSelected
  exact ⟨hSelected.1.1.2, hSelected.1.2⟩

theorem not_isLeased_of_isTerminal (hTerminal : job.isTerminal = true) : job.isLeased = false := by
  unfold isTerminal at hTerminal
  unfold isLeased
  cases hStatus : job.status with
  | queued => rfl
  | leased | running => simp [hStatus] at hTerminal
  | succeeded => rfl
  | failed => rfl
  | cancelled => rfl

namespace JobSystem.Sound

/- Under another worker a call changes nothing. -/
theorem work_fenced (hSound : s.Sound) {workerId : String} {call : WorkerCall}
    (hOther : ∀ lease ∈ s.openLeases jobId, lease.workerId ≠ workerId) :
    (s.update (call.update jobId workerId)).database.postTaskJobs.find? jobId =
      s.database.postTaskJobs.find? jobId := by
  rw [find?_update]
  cases hFind : s.database.postTaskJobs.find? jobId with
  | none => rfl
  | some job =>
    rw [Option.map_some]
    split
    · rename_i hSelected
      have hOwner := (WorkerCall.owner_of_selects hSelected).2.1
      have hJob := (find?_eq_some_iff.1 hFind).1
      obtain ⟨lease, hLease, hWorker⟩ := (hSound.sane job hJob).lease hOwner
      have hOpen : lease ∈ s.openLeases jobId := by
        rw [hSound.ledger, hFind]
        simp [hLease]
      exact absurd hWorker (hOther lease hOpen)
    · rfl

/- The row of a lease that an update ends. -/
theorem ended_row (hSound : s.Sound) {update : JobUpdate} {lease : Lease}
    (hOpen : lease ∈ s.openLeases jobId) (hEnded : lease ∉ (s.update update).openLeases jobId) :
    ∃ job ∈ s.database.postTaskJobs.rows, job.jobId = jobId ∧
      update.selects job = true ∧ Lease.ofJob job = some lease := by
  rw [openLeases_update, List.mem_filter] at hEnded
  have hEnds : update.ends s.database.postTaskJobs lease = true := by
    by_contra hKept
    exact hEnded ⟨hOpen, by simpa using hKept⟩
  rw [hSound.ledger] at hOpen
  cases hFind : s.database.postTaskJobs.find? jobId with
  | none =>
    rw [hFind] at hOpen
    simp at hOpen
  | some job =>
    obtain ⟨hJob, rfl⟩ := find?_eq_some_iff.1 hFind
    rw [hFind] at hOpen
    have hLease : ofJob job = some lease := by simpa using hOpen
    unfold JobUpdate.ends at hEnds
    rw [(ofJob_eq_some hLease).1, hFind] at hEnds
    simp only [Option.any_some, Bool.and_eq_true] at hEnds
    exact ⟨job, hJob, rfl, hEnds.1, hLease⟩

end JobSystem.Sound

/-
  What the leases guarantee in a state and for the next attempt of an operation
  there.
-/
structure LeasesFenced (s : JobSystem) (attempt : JobAttempt) : Prop where
  attempts : ∀ job ∈ s.database.postTaskJobs.rows, job.attempt ≤ job.maxAttempts
  oneLease : ∀ jobId, (s.openLeases jobId).length ≤ 1
  ending : ∀ jobId lease, lease ∈ s.openLeases jobId →
    lease ∉ (s.step attempt).openLeases jobId → (∃ call, attempt.op =
        .work jobId lease.workerId call) ∨
      ∃ workspaceId now, (attempt.op = .requeueExpired workspaceId now ∨
          attempt.op = .failExpired workspaceId now) ∧
        lease.expiresAt.nanos ≤ now.nanos
  terminal : ∀ job ∈ s.database.postTaskJobs.rows,
    job.isTerminal = true → attempt.op ≠ .retry job.jobId →
        (s.step attempt).database.postTaskJobs.find? job.jobId = some job
  stale : ∀ lease ∈ s.leases, lease.ended = true → (∀ current ∈ s.openLeases lease.jobId,
      current.workerId ≠ lease.workerId) → ∀ call, attempt.op =
          .work lease.jobId lease.workerId call →
        (s.step attempt).database.postTaskJobs.find? lease.jobId =
          s.database.postTaskJobs.find? lease.jobId

/- A claim only adds to the ledger. -/
theorem JobSystem.openLeases_claim (s : JobSystem) (workerId : String) (workspaceId : Option String)
    (now : Timestamp) (leaseFor : Int) (jobId : PostTaskJobId) :
    s.openLeases jobId ⊆ (s.claim workerId workspaceId now leaseFor).openLeases jobId := by
  intro lease hOpen
  obtain ⟨hLease, hSelected⟩ := List.mem_filter.1 hOpen
  refine List.mem_filter.2 ⟨?_, hSelected⟩
  unfold JobSystem.claim
  split
  · exact hLease
  · exact hLease
  · exact List.mem_append_left _ hLease

/- An expired row, seen through the lease that it records. -/
theorem Lease.expired_of_ofJob {lease : Lease} (hLease : Lease.ofJob job = some lease)
    (hExpired : job.hasExpired now = true) : lease.expiresAt.nanos ≤ now.nanos := by
  unfold hasExpired at hExpired
  rw [(ofJob_eq_some hLease).2.2] at hExpired
  simpa using hExpired

theorem JobSystem.Sound.ending (hSound : s.Sound) (op : JobOp) {lease : Lease}
    (hOpen : lease ∈ s.openLeases jobId) (hEnded : lease ∉ (s.perform op).openLeases jobId) :
    (∃ call, op = .work jobId lease.workerId call) ∨
      ∃ workspaceId now, (op = .requeueExpired workspaceId now ∨
          op = .failExpired workspaceId now) ∧
        lease.expiresAt.nanos ≤ now.nanos := by
  cases op with
  | enqueue request event => exact absurd hOpen hEnded
  | claim workerId workspaceId now leaseFor =>
    exact absurd (s.openLeases_claim workerId workspaceId now leaseFor jobId hOpen) hEnded
  | work other workerId call =>
    obtain ⟨job, -, hJob, hSelected, hLease⟩ := hSound.ended_row hOpen hEnded
    obtain ⟨hName, hOwner, -⟩ := WorkerCall.owner_of_selects hSelected
    rw [(ofJob_eq_some hLease).2.1] at hOwner
    cases hOwner
    rw [hJob] at hName
    cases hName
    exact .inl ⟨call, rfl⟩
  | retry other =>
    obtain ⟨job, hRow, -, hSelected, hLease⟩ := hSound.ended_row hOpen hEnded
    have hLeased := (hSound.sane job hRow).leased (by
      rw [(ofJob_eq_some hLease).2.1]
      rfl)
    have hTerminal : job.isTerminal = true := by
      simp only [retryPostTaskJob, Bool.and_eq_true, Bool.or_eq_true] at hSelected
      rcases hSelected.2 with hFailed | hCancelled
      · simp [isTerminal, hFailed]
      · simp [isTerminal, hCancelled]
    rw [not_isLeased_of_isTerminal hTerminal] at hLeased
    cases hLeased
  | requeueExpired workspaceId now =>
    obtain ⟨job, -, -, hSelected, hLease⟩ := hSound.ended_row hOpen hEnded
    exact .inr ⟨workspaceId, now, .inl rfl, expired_of_ofJob hLease
        (requeueExpired_selects hSelected).2⟩
  | failExpired workspaceId now =>
    obtain ⟨job, -, -, hSelected, hLease⟩ := hSound.ended_row hOpen hEnded
    exact .inr ⟨workspaceId, now, .inr rfl, expired_of_ofJob hLease
        (failExpired_selects hSelected).2⟩

/- An update leaves a row alone that it does not select. -/
theorem JobSystem.find?_update_other {update : JobUpdate}
    (hJob : job ∈ s.database.postTaskJobs.rows) (hOther : update.selects job = false) :
    (s.update update).database.postTaskJobs.find? job.jobId = some job := by
  rw [find?_update, find?_eq_some_iff.2 ⟨hJob, rfl⟩]
  simp [hOther]

/- Only a retry brings back a job that has ended. -/
theorem JobSystem.terminal_kept (op : JobOp) (hJob : job ∈ s.database.postTaskJobs.rows)
    (hTerminal : job.isTerminal = true) (hRetry : op ≠ .retry job.jobId) :
    (s.perform op).database.postTaskJobs.find? job.jobId = some job := by
  have hFind := find?_eq_some_iff.2 ⟨hJob, rfl⟩
  have hFree := not_isLeased_of_isTerminal hTerminal
  -- An update that selects leased jobs only is harmless.
  have hLeasedOnly : ∀ update : JobUpdate, (update.selects job = true → job.isLeased = true) →
        (s.update update).database.postTaskJobs.find? job.jobId = some job := by
    intro update hLeased
    apply find?_update_other hJob
    rw [Bool.eq_false_iff]
    intro hSelected
    rw [hLeased hSelected] at hFree
    cases hFree
  cases op with
  | enqueue request event =>
    simp only [JobSystem.perform, Transaction.commit]
    cases hRun : (enqueuePostTaskJobWithEvent request.job event).run s.database with
    | error error => exact hFind
    | ok outcome =>
      obtain ⟨result, database⟩ := outcome
      cases enqueuePostTaskJobWithEvent_run hRun with
      | existing row hRow hSame => exact hFind
      | enqueued jobs journal assigned hNew hInsert =>
        have hAbsent := (insert?_eq_some hInsert).1
        have hOther : job.jobId ≠ request.job.jobId := by
          intro hSame
          rw [← hSame, hFind] at hAbsent
          cases hAbsent
        simp [find?_insert? hInsert, hOther, hFind]
  | claim workerId workspaceId now leaseFor =>
    simp only [JobSystem.perform, JobSystem.claim]
    cases hRun : (claimPostTaskJobMatching workerId workspaceId now leaseFor).run s.database with
    | error error => exact hFind
    | ok outcome =>
      obtain ⟨result, database⟩ := outcome
      cases claimPostTaskJobMatching_run hRun with
      | nothing => exact hFind
      | leased row hRow hClaimable =>
        rw [JobUpdate.execute_commit, find?_updateWhere, hFind]
        have hNot : (leasePostTaskJob row.jobId workerId
            ⟨now.nanos + leaseFor⟩).selects job = false := by
          rw [Bool.eq_false_iff]
          intro hSelected
          simp only [leasePostTaskJob, Bool.and_eq_true, decide_eq_true_eq] at hSelected
          simp [isTerminal, hSelected.2] at hTerminal
        simp [hNot]
  | work jobId workerId call =>
    exact hLeasedOnly _ (fun hSelected => (WorkerCall.owner_of_selects hSelected).2.2)
  | retry jobId =>
    apply find?_update_other hJob
    rw [Bool.eq_false_iff]
    intro hSelected
    simp only [retryPostTaskJob, Bool.and_eq_true, decide_eq_true_eq] at hSelected
    exact hRetry (by rw [hSelected.1])
  | requeueExpired workspaceId now =>
    exact hLeasedOnly _ (fun hSelected => (requeueExpired_selects hSelected).1)
  | failExpired workspaceId now =>
    exact hLeasedOnly _ (fun hSelected => (failExpired_selects hSelected).1)

theorem postTaskLeases_fenced (before : List JobAttempt)
    (attempt : JobAttempt) : LeasesFenced (JobSystem.run before) attempt := by
  have hSound := JobSystem.run_sound before
  constructor
  · exact fun job hJob => (hSound.sane job hJob).attempt
  · intro jobId
    rw [hSound.ledger]
    cases (((JobSystem.run before).database.postTaskJobs.find? jobId).bind ofJob) with
    | none => simp
    | some lease => simp
  · intro jobId lease hOpen hEnded
    unfold JobSystem.step at hEnded
    split at hEnded
    · exact hSound.ending attempt.op hOpen hEnded
    · exact absurd hOpen hEnded
  · intro job hJob hTerminal hRetry
    unfold JobSystem.step
    split
    · exact JobSystem.terminal_kept attempt.op hJob hTerminal hRetry
    · exact find?_eq_some_iff.2 ⟨hJob, rfl⟩
  · intro lease _ _ hOther call hCall
    unfold JobSystem.step
    split
    · rw [hCall]
      exact hSound.work_fenced hOther
    · rfl

def sampleJob : NewPostTaskJob := ⟨⟨.ofNat 1⟩, .deepEvaluation, "workspace", "session", ⟨.ofNat 2⟩,
    [], 3, ⟨0⟩⟩

def sampleJobEvent : RuntimeEvent := ⟨runtimeEventSchemaVersion, ⟨.ofNat 3⟩, 0, ⟨.ofNat 4⟩, none,
    some ⟨.ofNat 2⟩, none, .empty, [], .postTaskJobQueued, ⟨0⟩, .evaluator, .object [], none, true⟩

/- A worker claims a job again after its lease expired. -/
def reusedWorkerRun : List JobAttempt := [⟨.enqueue sampleJob sampleJobEvent, true⟩,
    ⟨.claim "worker" none ⟨0⟩ 10, true⟩, ⟨.requeueExpired "workspace" ⟨10⟩, true⟩,
    ⟨.claim "worker" none ⟨11⟩ 10, true⟩]

/-
  A call for its first attempt then finishes the job, in the middle of the
  second.
-/
theorem reusedWorker_finishesAgain :
    (JobSystem.run reusedWorkerRun).leases = [⟨⟨.ofNat 1⟩, "worker", 1, ⟨10⟩, true⟩,
          ⟨⟨.ofNat 1⟩, "worker", 2, ⟨21⟩, false⟩] ∧
      ((JobSystem.run (reusedWorkerRun ++ [⟨.work ⟨.ofNat 1⟩ "worker"
          (.finish .failed [] (some "stale") ⟨12⟩),
          true⟩])).database.postTaskJobs.find? ⟨.ofNat 1⟩).map PostTaskJob.status ≠
        ((JobSystem.run reusedWorkerRun).database.postTaskJobs.find?
            ⟨.ofNat 1⟩).map PostTaskJob.status := by
  decide

end GolutraAgent.Store
