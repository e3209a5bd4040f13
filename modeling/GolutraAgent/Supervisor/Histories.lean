import GolutraAgent.Supervisor.Operations

/-
  This file defines histories of the supervisor: sequences of calls that do not
  interfere, each with the surroundings that it finds.

  A deployment changes the release store first and the state of the supervisor
  second. A call that crashes in between leaves the first change without the
  second.
-/

namespace GolutraAgent.Supervisor

open Release (ReleaseError ReleasePointer PointerName Pointers
  Deployment DeploymentCall DeploymentPhase)

section

variable (names : ReleaseNames) (around : Surroundings)

/- The commands of a call that nothing interferes with. -/
def alone (command : supervisorInterface.Command) (w : SupervisorWorld) :
    supervisorInterface.Answer command × SupervisorWorld :=
  SupervisorCommand.handle names command around w

def perform (call : SupervisorCall) (w : SupervisorWorld) :
    Except SupervisorError Unit × SupervisorWorld :=
  call.program.exec (alone names around) w

def SupervisorCommand.isTransaction : SupervisorCommand → Bool
| .transact _ => true
| _ => false

/-
  A call that crashes when it is about to perform its first transaction on the
  state.
-/
def interrupt (call : SupervisorCall) (w : SupervisorWorld) : SupervisorWorld :=
  call.program.upTo SupervisorCommand.isTransaction (alone names around) w

structure HistoryOp where
  around : Surroundings
  call : SupervisorCall

def historyStep (w : SupervisorWorld) (op : HistoryOp) : SupervisorWorld :=
  (perform names op.around op.call w).2

end

/- The release store after a deployment. -/
def SupervisorWorld.deployed (w : SupervisorWorld) (deployment : Deployment) : SupervisorWorld :=
  { w with
    pointers := deployment.pointers
    deployments := w.deployments ++ [deployment] }

/- The deployment that a call has committed in a world. -/
inductive DeploymentOf (now : Timestamp) (w : SupervisorWorld)
    (candidate : EvolutionCandidate) (releaseId : String) :
    SupervisorCall → Deployment → CandidateStatus → EpochStatus → Prop
| preview {candidateId : String} {pointer : ReleasePointer} {deployment : Deployment}
    (status : candidate.status = .built) (plan : Release.setPreview w.ensureManifest now releaseId
      w.pointers = .ok (pointer, deployment)) :
    DeploymentOf now w candidate releaseId (.preview candidateId) deployment .previewing .previewing
| startCanary {candidateId : String} {pointer : ReleasePointer} {deployment : Deployment}
    (status : candidate.status = .previewing)
    (plan : Release.startCanary w.ensureManifest now releaseId
      w.pointers = .ok (pointer, deployment)) :
    DeploymentOf now w candidate releaseId (.startCanary candidateId) deployment .canarying
      .canarying
| promote {candidateId reason : String} {pointer : ReleasePointer} {deployment : Deployment}
    (status : candidate.status = .canarying) (owned : w.pointers.ids.canary = some releaseId)
    (healthy : checkHealthy (w.state.observationsOf candidateId releaseId) = .ok ())
    (plan : Release.promote w.ensureManifest now releaseId
      reason w.pointers = .ok (pointer, deployment)) :
    DeploymentOf now w candidate releaseId (.promote candidateId reason) deployment .promoted
      .promoted
| cancelCanary {candidateId reason : String} {pointer : ReleasePointer} {deployment : Deployment}
    (status : candidate.status = .canarying) (owned : w.pointers.ids.canary = some releaseId)
    (plan : Release.cancelCanary w.ensureManifest releaseId
      reason w.pointers = .ok (pointer, deployment)) :
    DeploymentOf now w candidate releaseId (.rollback candidateId reason) deployment .rolledBack
      .rolledBack
| rollback {candidateId reason : String} {pointer : ReleasePointer} {deployment : Deployment}
    (status : candidate.status = .promoted) (quiet : w.pointers.ids.canary = none)
    (owned : w.pointers.ids.stable = some releaseId)
    (plan : Release.rollback w.ensureManifest now reason w.pointers = .ok (pointer, deployment)) :
    DeploymentOf now w candidate releaseId (.rollback candidateId reason) deployment .rolledBack
      .rolledBack

/- The candidate of a call that deploys its release. -/
def SupervisorCall.deploys : SupervisorCall → Option String
| .preview candidateId | .startCanary candidateId | .promote candidateId _
| .rollback candidateId _ => some candidateId
| _ => none

/-
  A deployment is refused and changes nothing, or the release store is changed
  first, and the state after it.
-/
def DeployedOrRefused (now : Timestamp) (w : SupervisorWorld) (call : SupervisorCall)
    (candidateId : String) (stopped : SupervisorWorld)
    (ended : Except SupervisorError Unit × SupervisorWorld) : Prop :=
  (∃ error, stopped = w ∧ ended = (.error error, w)) ∨
    ∃ candidate releaseId deployment candidateStatus epochStatus,
      w.state.candidate? candidateId = some candidate ∧ candidate.releaseId = some releaseId ∧
        DeploymentOf now w candidate releaseId call deployment candidateStatus epochStatus ∧
        stopped = w.deployed deployment ∧
        ended = (.ok (), { w.deployed deployment with
          state := setDeployment now w.state candidateId
            candidate.epochId candidateStatus epochStatus })

section

variable {names : ReleaseNames} {around : Surroundings} {α β : Type} {w : SupervisorWorld}
variable {good : SupervisorWorld → Except SupervisorError β × SupervisorWorld → Prop}

/- A process that is alone performs one transaction at most, at the end. -/
abbrev StagedAlone (names : ReleaseNames) (around : Surroundings)
    (good : SupervisorWorld → Except SupervisorError β × SupervisorWorld → Prop)
    (w : SupervisorWorld) (program : SupervisorProgram β) : Prop :=
  program.Staged SupervisorCommand.isTransaction (alone names around) good w

theorem pointer_staged {name : PointerName} {rest : Option ReleasePointer → SupervisorProgram β}
    (hRest : StagedAlone names around good w (rest (w.pointers.get name))) :
    StagedAlone names around good w (pointer name >>= rest) :=
  Program.Staged.call rfl hRest

theorem snapshot_staged {rest : SupervisorState → SupervisorProgram β}
    (hRest : StagedAlone names around good w (rest w.state)) :
    StagedAlone names around good w (snapshot >>= rest) :=
  Program.Staged.call rfl hRest

theorem candidate_staged {candidateId : String} {rest : EvolutionCandidate → SupervisorProgram β}
    (hRefused : ∀ error, good w (.error error, w))
    (hRest : ∀ candidate, w.state.candidate? candidateId = some candidate →
        StagedAlone names around good w (rest candidate)) :
    StagedAlone names around good w (candidate candidateId >>= rest) := by
  apply snapshot_staged
  refine Program.Staged.ofExcept ?_ (fun error _ => hRefused error)
  intro candidate hFind
  exact hRest candidate (demand_eq_ok.1 hFind)

theorem deploy_staged {call : DeploymentCall} {rest : ReleasePointer → SupervisorProgram β}
    (hRefused : ∀ error, good w (.error error, w))
    (hRest : ∀ pointer deployment, call.plan w.ensureManifest around.now w.pointers =
          .ok (pointer, deployment) →
        StagedAlone names around good (w.deployed deployment) (rest pointer)) :
    StagedAlone names around good w (deploy call >>= rest) := by
  apply Program.Staged.call rfl
  change Program.Staged _ _ _ (Program.ofExcept (Except.mapError SupervisorError.release
      (w.deploy around.now call).1) >>= rest)
    (w.deploy around.now call).2
  unfold SupervisorWorld.deploy
  split
  · exact hRefused _
  · split
    · exact hRefused _
    · next pointer deployment hPlan => exact hRest pointer deployment hPlan

/- The last step of a deployment: the state is changed. -/
theorem update_staged {candidateId : String} {candidate : EvolutionCandidate}
    {candidateStatus : CandidateStatus} {epochStatus : EpochStatus} {result : β}
    (hFind : w.state.candidate? candidateId = some candidate) (hGood : good w (.ok result, { w with
      state := setDeployment around.now w.state candidateId
        candidate.epochId candidateStatus epochStatus })) :
    StagedAlone names around good w (do
      let _ ← commit (.updateDeployment candidateId candidateStatus epochStatus)
      return result) := by
  refine Program.Staged.stopped rfl ?_
  change good w (Program.exec (alone names around) (Program.ofExcept (w.transact around.now
      (.updateDeployment candidateId candidateStatus
        epochStatus)).1 >>= fun _ => Program.done result)
    (w.transact around.now (.updateDeployment candidateId candidateStatus epochStatus)).2)
  have hApply : Transaction.apply around.now w.state
      (.updateDeployment candidateId candidateStatus epochStatus) =
      .ok (setDeployment around.now w.state candidateId
        candidate.epochId candidateStatus epochStatus) := by
    simp [Transaction.apply, applyDeployment, hFind]
  unfold SupervisorWorld.transact
  rw [hApply]
  exact hGood

end

section

variable (names : ReleaseNames) (around : Surroundings) (w : SupervisorWorld)

theorem deployment_refused (call : SupervisorCall) (candidateId : String)
    (error : SupervisorError) :
    DeployedOrRefused around.now w call candidateId w (.error error, w) :=
  .inl ⟨error, rfl, rfl⟩

theorem preview_staged (candidateId : String) :
    StagedAlone names around (DeployedOrRefused around.now w (.preview candidateId) candidateId) w
      (SupervisorCall.preview candidateId).program := by
  have hRefused := deployment_refused around w (.preview candidateId) candidateId
  simp only [SupervisorCall.program, dropResult, preview, Program.bind_assoc]
  apply candidate_staged hRefused
  intro candidate hFind
  refine .ofExcept ?_ (fun error _ => hRefused error)
  rintro ⟨⟩ hStatus
  refine .ofExcept ?_ (fun error _ => hRefused error)
  intro releaseId hRelease
  apply deploy_staged hRefused
  intro pointer deployment hPlan
  refine update_staged hFind ?_
  simp only [require_eq_ok, Bool.and_eq_true, decide_eq_true_eq] at hStatus
  exact .inr ⟨candidate, releaseId, deployment, _, _, hFind,
    demand_eq_ok.1 hRelease, .preview hStatus.1 hPlan, rfl, rfl⟩

theorem startCanary_staged (candidateId : String) : StagedAlone names around
      (DeployedOrRefused around.now w (.startCanary candidateId) candidateId) w
      (SupervisorCall.startCanary candidateId).program := by
  have hRefused := deployment_refused around w (.startCanary candidateId) candidateId
  simp only [SupervisorCall.program, dropResult, startCanary, Program.bind_assoc]
  apply candidate_staged hRefused
  intro candidate hFind
  refine .ofExcept ?_ (fun error _ => hRefused error)
  rintro ⟨⟩ hStatus
  refine .ofExcept ?_ (fun error _ => hRefused error)
  intro releaseId hRelease
  apply deploy_staged hRefused
  intro pointer deployment hPlan
  refine update_staged hFind ?_
  simp only [require_eq_ok, decide_eq_true_eq] at hStatus
  exact .inr ⟨candidate, releaseId, deployment, _, _, hFind,
    demand_eq_ok.1 hRelease, .startCanary hStatus hPlan, rfl, rfl⟩

variable (candidateId reason : String)

theorem promote_staged : StagedAlone names around
      (DeployedOrRefused around.now w (.promote candidateId reason) candidateId) w
      (SupervisorCall.promote candidateId reason).program := by
  have hRefused := deployment_refused around w (.promote candidateId reason) candidateId
  simp only [SupervisorCall.program, dropResult, promote, Program.bind_assoc]
  apply candidate_staged hRefused
  intro candidate hFind
  refine .ofExcept ?_ (fun error _ => hRefused error)
  rintro ⟨⟩ hStatus
  refine .ofExcept ?_ (fun error _ => hRefused error)
  intro releaseId hRelease
  apply pointer_staged
  refine .ofExcept ?_ (fun error _ => hRefused error)
  rintro ⟨⟩ hOwned
  apply snapshot_staged
  refine .ofExcept ?_ (fun error _ => hRefused error)
  rintro ⟨⟩ hHealthy
  apply deploy_staged hRefused
  intro pointer deployment hPlan
  refine update_staged hFind ?_
  simp only [require_eq_ok, decide_eq_true_eq] at hStatus
  exact .inr ⟨candidate, releaseId, deployment, _, _, hFind, demand_eq_ok.1 hRelease,
    .promote hStatus (checkOwned_eq_ok.1 hOwned) hHealthy hPlan, rfl, rfl⟩

theorem rollback_staged : StagedAlone names around
      (DeployedOrRefused around.now w (.rollback candidateId reason) candidateId) w
      (SupervisorCall.rollback candidateId reason).program := by
  have hRefused := deployment_refused around w (.rollback candidateId reason) candidateId
  simp only [SupervisorCall.program, dropResult, rollback, Program.bind_assoc]
  apply candidate_staged hRefused
  intro candidate hFind
  refine .ofExcept ?_ (fun error _ => hRefused error)
  intro releaseId hRelease
  unfold rollbackRelease
  split
  · rename_i hStatus
    simp only [rollbackCanary, Program.bind_assoc]
    apply pointer_staged
    refine .ofExcept ?_ (fun error _ => hRefused error)
    rintro ⟨⟩ hOwned
    apply deploy_staged hRefused
    intro pointer deployment hPlan
    refine update_staged hFind ?_
    exact .inr ⟨candidate, releaseId, deployment, _, _, hFind, demand_eq_ok.1 hRelease,
      .cancelCanary hStatus (checkOwned_eq_ok.1 hOwned) hPlan, rfl, rfl⟩
  · rename_i hStatus
    simp only [rollbackStable, Program.bind_assoc]
    apply pointer_staged
    refine .ofExcept ?_ (fun error _ => hRefused error)
    rintro ⟨⟩ hQuiet
    apply pointer_staged
    refine .ofExcept ?_ (fun error _ => hRefused error)
    rintro ⟨⟩ hOwned
    apply deploy_staged hRefused
    intro pointer deployment hPlan
    refine update_staged hFind ?_
    have hNone : w.pointers.ids.canary = none := by
      simpa [Pointers.ids, Pointers.get] using require_eq_ok.1 hQuiet
    exact .inr ⟨candidate, releaseId, deployment, _, _, hFind, demand_eq_ok.1 hRelease,
      .rollback hStatus hNone (checkOwned_eq_ok.1 hOwned) hPlan, rfl, rfl⟩
  · exact hRefused _

/- The two worlds of a call that deploys. -/
theorem perform_deployment {call : SupervisorCall} {candidateId : String}
    (hDeploys : call.deploys = some candidateId) :
    DeployedOrRefused around.now w call candidateId (interrupt names around call w)
      (perform names around call w) := by
  cases call with
  | preview _ =>
    cases hDeploys
    exact preview_staged names around w candidateId
  | startCanary _ =>
    cases hDeploys
    exact startCanary_staged names around w candidateId
  | promote _ reason =>
    cases hDeploys
    exact promote_staged names around w candidateId reason
  | rollback _ reason =>
    cases hDeploys
    exact rollback_staged names around w candidateId reason
  | _ => cases hDeploys

end

end GolutraAgent.Supervisor
