import GolutraAgent.Library.Machine
import GolutraAgent.Runtime.Lane

/-
  This file follows the status of a lane over runs of the lane manager, on any
  number of sessions.

  A lane whose task has ended is meant to stay ended until `start_task` replaces
  it, and a lane that is aborting is meant to stay so until `finish_task`. All
  transitions check the status they start from except `wait_for_authentication`,
  which revives an ended lane and takes an aborting one back. The life cycle
  therefore holds in exactly the runs in which that transition is made on lanes
  that are active and not aborting.

  Main declarations:
    * `RuntimeLaneManager.step_lane`
    * `laneLifecycle_iff`
-/

namespace GolutraAgent.Runtime

open Machine

inductive LaneOp
| startTask (workspaceId : WorkspaceId) (sessionId : SessionId) (taskId : TaskId) (turnId : TurnId)
    (activeController : Actor) (laneId : LaneId) (context : EventContext)
| takeover (sessionId : SessionId) (newController : Actor) (context : EventContext)
| queueTurn (sessionId : SessionId) (turnId : TurnId) (context : EventContext)
| prepareQueuedTurnStart (sessionId : SessionId) (turnId : TurnId)
| commitQueuedTurnStart (sessionId : SessionId) (laneId : LaneId) (turnId : TurnId)
| discardQueuedTurn (sessionId : SessionId) (turnId : TurnId)
| abort (sessionId : SessionId) (context : EventContext)
| pause (sessionId : SessionId) (context : EventContext)
| resume (sessionId : SessionId) (context : EventContext)
| finishTask (sessionId : SessionId) (status : TaskStatus) (context : EventContext)
| waitForAuthentication (sessionId : SessionId) (context : EventContext)
| authenticationResolved (sessionId : SessionId) (context : EventContext)

namespace LaneOp

def sessionId : LaneOp → SessionId
| .startTask _ sessionId _ _ _ _ _ | .takeover sessionId _ _ | .queueTurn sessionId _ _
| .prepareQueuedTurnStart sessionId _ | .commitQueuedTurnStart sessionId _ _
| .discardQueuedTurn sessionId _ | .abort sessionId _ | .pause sessionId _ | .resume sessionId _
| .finishTask sessionId _ _ | .waitForAuthentication sessionId _
| .authenticationResolved sessionId _ => sessionId

variable (sessionId : SessionId)

/- The operation starts a task in the session. -/
def StartsOn : LaneOp → Prop
| .startTask _ other _ _ _ _ _ => other = sessionId
| _ => False

/- The operation finishes the task of the session. -/
def FinishesOn : LaneOp → Prop
| .finishTask other _ _ => other = sessionId
| _ => False

/- Tasks are finished with terminal statuses only. -/
def FinishesTerminally : LaneOp → Prop
| .finishTask _ status _ => status.isTerminal = true
| _ => True

instance (op : LaneOp) : Decidable op.FinishesTerminally := by
  cases op <;> unfold FinishesTerminally <;> infer_instance

/-
  The status of a lane after an operation on its session that does not replace
  the lane.
-/
def statusAfter (status : TaskStatus) : LaneOp → TaskStatus
| .abort _ _ => if status.isActive then .aborting else status
| .pause _ _ =>
  if RuntimeLaneManager.pausable status then .paused
  else status
| .resume _ _ =>
  if RuntimeLaneManager.resumable status then .running
  else status
| .finishTask _ final _ => if status.isActive then final else status
| .waitForAuthentication _ _ => .waitingAuthentication
| .authenticationResolved _ _ =>
  if status = .waitingAuthentication then .running
  else status
| _ => status

end LaneOp

namespace RuntimeLaneManager

variable (manager : RuntimeLaneManager)

/- The manager after a call, changed if the call succeeded. -/
def after (result : LaneStep) :
    RuntimeLaneManager :=
  match result with
  | .error _ => manager
  | .ok (_, changed) => changed

def afterSilent (result : Except RuntimeLaneError RuntimeLaneManager) : RuntimeLaneManager :=
  match result with
  | .error _ => manager
  | .ok changed => changed

def step : LaneOp → RuntimeLaneManager
| .startTask workspaceId sessionId taskId turnId activeController laneId context =>
  manager.after (manager.startTask workspaceId sessionId
    taskId turnId activeController laneId context)
| .takeover sessionId newController context =>
  manager.after (manager.takeover sessionId newController context)
| .queueTurn sessionId turnId context => manager.after (manager.queueTurn sessionId turnId context)
| .prepareQueuedTurnStart _ _ => manager
| .commitQueuedTurnStart sessionId laneId turnId =>
  manager.afterSilent (manager.commitQueuedTurnStart sessionId laneId turnId)
| .discardQueuedTurn sessionId turnId =>
  manager.afterSilent (manager.discardQueuedTurn sessionId turnId)
| .abort sessionId context => manager.after (manager.abort sessionId context)
| .pause sessionId context => manager.after (manager.pause sessionId context)
| .resume sessionId context => manager.after (manager.resume sessionId context)
| .finishTask sessionId status context =>
  manager.after (manager.finishTask sessionId status context)
| .waitForAuthentication sessionId context =>
  manager.after (manager.waitForAuthentication sessionId context)
| .authenticationResolved sessionId context =>
  manager.after (manager.authenticationResolved sessionId context)

variable {manager : RuntimeLaneManager} {sessionId : SessionId} {lane : RuntimeLane}

/- A status change that is not allowed is no change. -/
theorem after_setStatusFrom (allowed : TaskStatus → Bool) (status : TaskStatus)
    (context : EventContext) (eventType : RuntimeEventType)
    (hLane : manager.lane sessionId = some lane) :
    (manager.after (setStatusFrom allowed manager sessionId
        status context eventType)).lane sessionId =
      some { lane with
        status :=
          if allowed lane.status then status
          else lane.status } := by
  by_cases hAllowed : allowed lane.status = true
  · simp [setStatusFrom, setStatus, after, hLane, hAllowed]
  · simp [setStatusFrom, after, hLane, hAllowed]

variable {op : LaneOp}

/- Operations on one session leave the others alone. -/
theorem step_other (hOther : sessionId ≠ op.sessionId) :
    (manager.step op).lane sessionId = manager.lane sessionId := by
  have hInsert : ∀ changed, (manager.insert op.sessionId changed).lane sessionId =
        manager.lane sessionId :=
    fun changed => manager.lane_insert_other changed hOther
  cases op with
  | startTask workspaceId other taskId turnId actor laneId context =>
    simp only [step, startTask]
    split <;> simp_all [after, LaneOp.sessionId]
  | takeover other newController context =>
    simp only [step, takeover]
    split <;> simp_all [after, LaneOp.sessionId]
  | queueTurn other turnId context =>
    simp only [step, queueTurn]
    split <;> simp_all [after, LaneOp.sessionId]
  | prepareQueuedTurnStart other turnId => rfl
  | commitQueuedTurnStart other laneId turnId =>
    simp only [step, commitQueuedTurnStart]
    split
    · rfl
    · split <;> simp_all [afterSilent, LaneOp.sessionId]
  | discardQueuedTurn other turnId =>
    simp only [step, discardQueuedTurn]
    split <;> simp_all [afterSilent, LaneOp.sessionId]
  | abort | pause | resume | finishTask
  | authenticationResolved =>
    simp only [step, abort, pause, resume, finishTask,
      authenticationResolved, setStatusFrom, setStatus]
    split
    · split <;> simp_all [after, LaneOp.sessionId]
    · rfl
  | waitForAuthentication other context =>
    simp only [step, waitForAuthentication, setStatus]
    split <;> simp_all [after, LaneOp.sessionId]

/- A task is not started over an active lane. -/
theorem step_startTask_active (hStarts : op.StartsOn sessionId)
    (hLane : manager.lane sessionId = some lane)
    (hActive : lane.status.isActive = true) : manager.step op = manager := by
  cases op with
  | startTask workspaceId other taskId turnId actor laneId context =>
    cases hStarts
    simp [step, startTask, after, hLane, hActive]
  | _ => exact absurd hStarts id

/-
  An operation that starts no task keeps the lane, and its status follows
  `statusAfter`.
-/
theorem step_lane (hStarts : ¬ op.StartsOn sessionId) (hSession : op.sessionId = sessionId)
    (hLane : manager.lane sessionId = some lane) :
    ∃ lane', (manager.step op).lane sessionId = some lane' ∧ lane'.laneId = lane.laneId ∧
        lane'.status = op.statusAfter lane.status := by
  cases op with
  | startTask workspaceId other taskId turnId actor laneId context => exact absurd hSession hStarts
  | takeover other newController context =>
    obtain rfl : other = sessionId := hSession
    by_cases hActive : lane.status.isActive = true
    · exact ⟨{ lane with activeController := newController },
        by simp [step, takeover, after, hLane, hActive, Option.filter_some], rfl, rfl⟩
    · exact ⟨lane, by simp [step, takeover, after, hLane, hActive, Option.filter_some], rfl, rfl⟩
  | queueTurn other turnId context =>
    obtain rfl : other = sessionId := hSession
    exact ⟨{ lane with pendingTurns := lane.pendingTurns ++ [turnId] },
      by simp [step, queueTurn, after, hLane], rfl, rfl⟩
  | prepareQueuedTurnStart other turnId => exact ⟨lane, hLane, rfl, rfl⟩
  | commitQueuedTurnStart other laneId turnId =>
    obtain rfl : other = sessionId := hSession
    by_cases hId : lane.laneId = laneId
    · by_cases hPending : turnId ∈ lane.pendingTurns
      · exact ⟨{ lane with
            pendingTurns := lane.pendingTurns.erase turnId
            activeTurnId := some turnId },
          by simp [step, commitQueuedTurnStart, afterSilent,
            Option.filter_some, hLane, hId, hPending],
          rfl, rfl⟩
      · exact ⟨lane, by simp [step, commitQueuedTurnStart, afterSilent,
            Option.filter_some, hLane, hId, hPending],
          rfl, rfl⟩
    · exact ⟨lane, by simp [step, commitQueuedTurnStart, afterSilent,
          Option.filter_some, hLane, hId], rfl, rfl⟩
  | discardQueuedTurn other turnId =>
    obtain rfl : other = sessionId := hSession
    exact ⟨{ lane with pendingTurns := lane.pendingTurns.filter (fun pending => pending ≠ turnId) },
      by simp [step, discardQueuedTurn, afterSilent, hLane], rfl, rfl⟩
  | abort other context | pause other context
  | resume other context | finishTask other status context =>
    obtain rfl : other = sessionId := hSession
    exact ⟨_, after_setStatusFrom _ _ context _ hLane, rfl, rfl⟩
  | waitForAuthentication other context =>
    obtain rfl : other = sessionId := hSession
    exact ⟨{ lane with status := .waitingAuthentication },
      by simp [step, waitForAuthentication, setStatus, after, hLane], rfl, rfl⟩
  | authenticationResolved other context =>
    obtain rfl : other = sessionId := hSession
    exact ⟨_, after_setStatusFrom _ _ context _ hLane, rfl, by simp [LaneOp.statusAfter]⟩

end RuntimeLaneManager

/-
  An operation made in a manager waits for authentication only on a lane that is
  active and not aborting.
-/
def WaitsOnLiveLane (manager : RuntimeLaneManager) : LaneOp → Prop
| .waitForAuthentication sessionId _ =>
  ∀ lane, manager.lane sessionId = some lane → lane.status.isActive = true ∧ lane.status ≠ .aborting
| _ => True

/- The manager after a run from the start. -/
def managerAfter (ops : List LaneOp) : RuntimeLaneManager :=
  Machine.run RuntimeLaneManager.step .new ops

/-
  The life cycle over a run: between any two points of it, an ended lane stays
  ended unless a task is started over it, which replaces it, and an aborting
  lane stays aborting unless it is finished, which ends it.
-/
structure LaneLifecycle (ops : List LaneOp) : Prop where
  endedStays : ∀ before between after sessionId lane,
    ops = before ++ between ++ after → (managerAfter before).lane sessionId = some lane →
    lane.status.isActive = false → (∀ op ∈ between, ¬ op.StartsOn sessionId) → ∃ lane',
      (managerAfter (before ++ between)).lane sessionId = some lane' ∧
        lane'.laneId = lane.laneId ∧ lane'.status.isActive = false
  endedReplaced : ∀ before after workspaceId sessionId taskId turnId actor laneId context lane,
    ops = before ++ .startTask workspaceId sessionId taskId turnId actor laneId context :: after →
    (managerAfter before).lane sessionId = some lane → lane.status.isActive = false → ∃ lane',
      (managerAfter (before ++ [.startTask workspaceId sessionId taskId turnId actor laneId
          context])).lane sessionId = some lane' ∧
        lane'.laneId = laneId ∧ lane'.status = .running
  abortingStays : ∀ before between after sessionId lane, ops = before ++ between ++ after →
    (managerAfter before).lane sessionId = some lane → lane.status = .aborting →
    (∀ op ∈ between, ¬ op.FinishesOn sessionId) → ∃ lane',
      (managerAfter (before ++ between)).lane sessionId = some lane' ∧
        lane'.laneId = lane.laneId ∧ lane'.status = .aborting
  abortingFinished : ∀ before after sessionId status context lane,
    ops = before ++ .finishTask sessionId status context :: after →
    (managerAfter before).lane sessionId = some lane →
    lane.status = .aborting → ∃ lane', (managerAfter (before ++
          [.finishTask sessionId status context])).lane sessionId = some lane' ∧
        lane'.laneId = lane.laneId ∧ lane'.status.isTerminal = true

namespace LaneOp

variable {op : LaneOp}

/- All other transitions refuse an ended lane. -/
theorem statusAfter_ended {status : TaskStatus} (hEnded : status.isActive = false)
    (hWaits : ∀ sessionId context, op ≠ .waitForAuthentication sessionId context) :
    op.statusAfter status = status := by
  have hPausable : RuntimeLaneManager.pausable status = false := by
    cases status <;> first | rfl | cases hEnded
  have hResumable : RuntimeLaneManager.resumable status = false := by
    cases status <;> first | rfl | cases hEnded
  have hWaiting : status ≠ .waitingAuthentication := by
    rintro rfl
    cases hEnded
  cases op with
  | waitForAuthentication sessionId context => exact absurd rfl (hWaits sessionId context)
  | _ => simp [statusAfter, hEnded, hPausable, hResumable, hWaiting]

/- No transition but the finish leaves `aborting`. -/
theorem statusAfter_aborting {sessionId : SessionId} (hSession : op.sessionId = sessionId)
    (hFinishes : ¬ op.FinishesOn sessionId)
    (hWaits : ∀ sessionId context, op ≠ .waitForAuthentication sessionId context) :
    op.statusAfter .aborting = .aborting := by
  cases op with
  | finishTask other status context => exact absurd hSession hFinishes
  | waitForAuthentication other context => exact absurd rfl (hWaits other context)
  | _ => rfl

end LaneOp

namespace RuntimeLaneManager

variable {manager : RuntimeLaneManager} {sessionId : SessionId} {lane : RuntimeLane}

variable {op : LaneOp}

variable {laneId : LaneId} {good : TaskStatus → Prop}

/- The session has the given lane, in a good status. -/
def HasLane (manager : RuntimeLaneManager) (sessionId : SessionId)
    (laneId : LaneId) (good : TaskStatus → Prop) : Prop :=
  ∃ lane, manager.lane sessionId = some lane ∧ lane.laneId = laneId ∧ good lane.status

/-
  The lane stays in a good status if every operation on it that replaces no lane
  leads from one to another.
-/
theorem HasLane.step (hHas : manager.HasLane sessionId laneId good)
    (hStarts : ∀ lane, manager.lane sessionId = some lane → good lane.status →
      op.StartsOn sessionId → lane.status.isActive = true)
    (hGood : ∀ lane, manager.lane sessionId = some lane → good lane.status →
      op.sessionId = sessionId → good (op.statusAfter lane.status)) :
    (manager.step op).HasLane sessionId laneId good := by
  rcases hHas with ⟨lane, hLane, hId, hStatus⟩
  by_cases hStart : op.StartsOn sessionId
  · rw [step_startTask_active hStart hLane (hStarts lane hLane hStatus hStart)]
    exact ⟨lane, hLane, hId, hStatus⟩
  · by_cases hSession : op.sessionId = sessionId
    · rcases step_lane hStart hSession hLane with ⟨lane', hLane', hSame, hAfter⟩
      refine ⟨lane', hLane', hSame.trans hId, ?_⟩
      rw [hAfter]
      exact hGood lane hLane hStatus hSession
    · exact ⟨lane, (step_other (Ne.symm hSession)).trans hLane, hId, hStatus⟩

/- One guarded operation keeps an ended lane ended. -/
theorem step_ended (hHas : manager.HasLane sessionId laneId (TaskStatus.isActive · = false))
    (hWaits : WaitsOnLiveLane manager op) (hStarts : ¬ op.StartsOn sessionId) :
    (manager.step op).HasLane sessionId laneId (TaskStatus.isActive · = false) := by
  refine hHas.step (fun _ _ _ hStart => absurd hStart hStarts) ?_
  intro lane hLane hEnded hSession
  rw [LaneOp.statusAfter_ended hEnded, hEnded]
  rintro other context rfl
  obtain rfl : other = sessionId := hSession
  have hLive := (hWaits lane hLane).1
  rw [hEnded] at hLive
  cases hLive

/- One guarded operation keeps an aborting lane aborting. -/
theorem step_aborting (hHas : manager.HasLane sessionId laneId (· = .aborting))
    (hWaits : WaitsOnLiveLane manager op) (hFinishes : ¬ op.FinishesOn sessionId) :
    (manager.step op).HasLane sessionId laneId (· = .aborting) := by
  apply hHas.step
  · rintro lane - hAborting -
    rw [hAborting]
    rfl
  · intro lane hLane hAborting hSession
    rw [hAborting]
    apply LaneOp.statusAfter_aborting hSession hFinishes
    rintro other context rfl
    obtain rfl : other = sessionId := hSession
    exact (hWaits lane hLane).2 hAborting

variable {ops : List LaneOp} {allowed : LaneOp → Prop}

/- What guarded operations keep, along a guarded run. -/
theorem HasLane.run (hHas : manager.HasLane sessionId laneId good)
    (hGuard : Machine.Guarded RuntimeLaneManager.step WaitsOnLiveLane manager ops)
    (hAllowed : ∀ op ∈ ops, allowed op)
    (hStep : ∀ {manager op}, manager.HasLane sessionId laneId good →
        WaitsOnLiveLane manager op → allowed op → (manager.step op).HasLane sessionId laneId good) :
    (Machine.run RuntimeLaneManager.step manager ops).HasLane sessionId laneId good := by
  induction ops generalizing manager with
  | nil => exact hHas
  | cons op ops ih =>
    exact ih (hStep hHas hGuard.1 (hAllowed op (by simp)))
      hGuard.2 (fun o ho => hAllowed o (by simp [ho]))

end RuntimeLaneManager

open RuntimeLaneManager in
/-
  With tasks finished in terminal statuses, the life cycle holds in a run
  exactly if every wait for authentication in it is made on a lane that is
  active and not aborting.
-/
theorem laneLifecycle_iff (ops : List LaneOp) (hFinish : ∀ op ∈ ops, op.FinishesTerminally) :
    LaneLifecycle ops ↔ Machine.Guarded step WaitsOnLiveLane .new ops := by
  constructor
  · intro hCycle
    rw [← throughout_iff]
    rintro before op after rfl
    cases op with
    | waitForAuthentication sessionId context =>
      -- the wait alone, as the stretch between two points
      intro lane hLane
      have hWait : (managerAfter (before ++
          [.waitForAuthentication sessionId context])).lane sessionId =
          some { lane with status := .waitingAuthentication } := by
        unfold managerAfter
        simp [step, waitForAuthentication, setStatus, RuntimeLaneManager.after, hLane]
      constructor
      · by_contra hEnded
        rcases hCycle.endedStays before [.waitForAuthentication sessionId context] after
          sessionId lane (by simp) hLane (by simpa using hEnded)
          (by simp [LaneOp.StartsOn]) with ⟨lane', hLane', -, hStill⟩
        rw [hWait] at hLane'
        cases hLane'
        cases hStill
      · intro hAborting
        rcases hCycle.abortingStays before [.waitForAuthentication sessionId context] after
          sessionId lane (by simp) hLane hAborting
          (by simp [LaneOp.FinishesOn]) with ⟨lane', hLane', -, hStill⟩
        rw [hWait] at hLane'
        cases hLane'
        cases hStill
    | _ => trivial
  · intro hGuard
    constructor
    · rintro before between after sessionId lane rfl hLane hEnded hStarts
      rw [guarded_append, guarded_append] at hGuard
      unfold managerAfter
      rw [run_append]
      exact HasLane.run ⟨lane, hLane, rfl, hEnded⟩ hGuard.1.2 hStarts step_ended
    · rintro before after workspaceId sessionId taskId turnId
        actor laneId context lane rfl hLane hEnded
      unfold managerAfter at hLane ⊢
      simp [step, startTask, RuntimeLaneManager.after, hLane, hEnded]
    · rintro before between after sessionId lane rfl hLane hAborting hFinishes
      rw [guarded_append, guarded_append] at hGuard
      unfold managerAfter
      rw [run_append]
      exact HasLane.run ⟨lane, hLane, rfl, hAborting⟩ hGuard.1.2 hFinishes step_aborting
    · rintro before after sessionId status context lane rfl hLane hAborting
      have hTerminal : status.isTerminal = true :=
        hFinish (.finishTask sessionId status context) (by simp)
      have hActive : lane.status.isActive = true := by
        rw [hAborting]
        rfl
      unfold managerAfter at ⊢
      rw [run_concat]
      exact ⟨_, after_setStatusFrom _ status context _ hLane, rfl, by simp [hActive, hTerminal]⟩

def sampleSession : SessionId := ⟨Uuid.ofNat 1⟩

def sampleContext (n : Nat) : EventContext := ⟨n, ⟨Uuid.ofNat (100 + n)⟩, ⟨0⟩, ⟨Uuid.ofNat 2⟩⟩

def sampleStart : LaneOp := .startTask ⟨Uuid.ofNat 3⟩ sampleSession ⟨Uuid.ofNat 4⟩
    ⟨Uuid.ofNat 5⟩ ⟨.user, "operator"⟩ ⟨Uuid.ofNat 6⟩ (sampleContext 1)

/- A task that waits for authentication and is then ended. -/
def orderlyRun : List LaneOp := [sampleStart,
    .waitForAuthentication sampleSession (sampleContext 2), .abort sampleSession (sampleContext 3),
    .finishTask sampleSession .cancelled (sampleContext 4)]

theorem laneLifecycle_orderlyRun :
    (∀ op ∈ orderlyRun, op.FinishesTerminally) ∧ LaneLifecycle orderlyRun := by
  have hFinish : ∀ op ∈ orderlyRun, op.FinishesTerminally := by decide
  refine ⟨hFinish, (laneLifecycle_iff orderlyRun hFinish).2 ?_⟩
  refine ⟨trivial, ?_, trivial, trivial, trivial⟩
  intro lane hLane
  have hStatus : ((RuntimeLaneManager.new.step sampleStart).lane sampleSession).map
        RuntimeLane.status = some .running := rfl
  rw [hLane] at hStatus
  have hRunning : lane.status = .running := by simpa using hStatus
  rw [hRunning]
  decide

/- A wait that is recorded after the task was completed. -/
def revivingRun : List LaneOp := [sampleStart,
    .finishTask sampleSession .completed (sampleContext 2),
    .waitForAuthentication sampleSession (sampleContext 3)]

/-
  The wait takes the completed lane back into an active status, so the life
  cycle fails.
-/
theorem revivingRun_revives :
    (∀ op ∈ revivingRun, op.FinishesTerminally) ∧ ((managerAfter (revivingRun.take 2)).lane
          sampleSession).map RuntimeLane.status =
        some .completed ∧
      ((managerAfter revivingRun).lane sampleSession).map RuntimeLane.status =
        some .waitingAuthentication ∧
      ¬ LaneLifecycle revivingRun := by
  refine ⟨by decide, rfl, rfl, ?_⟩
  intro hCycle
  rcases hCycle.endedStays (revivingRun.take 2) (revivingRun.drop 2) [] sampleSession _ rfl rfl rfl
    (by simp [revivingRun, LaneOp.StartsOn]) with ⟨lane, hLane, -, hEnded⟩
  have hWaiting : lane.status = .waitingAuthentication := by
    have hStatus : ((managerAfter revivingRun).lane
        sampleSession).map RuntimeLane.status = some .waitingAuthentication := rfl
    rw [show revivingRun = revivingRun.take 2 ++ revivingRun.drop 2 from rfl, hLane] at hStatus
    simpa using hStatus
  rw [hWaiting] at hEnded
  cases hEnded

end GolutraAgent.Runtime
