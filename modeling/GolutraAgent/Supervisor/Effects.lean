import Mathlib.Logic.Relation
import GolutraAgent.Supervisor.Histories

/-
  This file describes what each call of the supervisor does to the two stores
  when it is alone: it leaves them as they were, or it has one of the effects
  listed here.
-/

namespace GolutraAgent.Supervisor

open Release (ReleaseError ReleasePointer PointerName Pointers
  Deployment DeploymentCall DeploymentPhase)

/- What a bootstrap does, one command after the other. -/
inductive BootstrapStep (names : ReleaseNames) (now : Timestamp) :
    SupervisorWorld → SupervisorWorld → Prop
| recorded {w : SupervisorWorld} (builds : List String) :
    BootstrapStep names now w { w with state := { w.state with bootstrapBuilds := builds } }
| built {w w' : SupervisorWorld} {bootstrapId sourceDigest releaseId : String}
    (build : w.build names bootstrapId sourceDigest none = (.ok releaseId, w')) :
    BootstrapStep names now w w'
| deployed {w : SupervisorWorld} {release : BuiltRelease} {call : DeploymentCall}
    {pointer : ReleasePointer} {deployment : Deployment} (first : release.parentReleaseId = none)
    (known : w.release? release.releaseId = some release)
    (deploys : call = .setPreview release.releaseId ∨
      call = .startCanary release.releaseId ∨ call = .promote release.releaseId
        "initial trusted bootstrap")
    (plan : call.plan w.ensureManifest now w.pointers = .ok (pointer, deployment)) :
    BootstrapStep names now w (w.deployed deployment)

/- The candidate that a call takes a step further. -/
def SupervisorCall.advances : SupervisorCall → Option String
| .evaluateInput input => some input.candidateId
| .evaluateSuite suite _ => some suite.candidateId
| .buildVerifiedRelease candidateId => some candidateId
| call => call.deploys

/- What the log of deployments implies for the candidates. -/
abbrev SupervisorWorld.updates (w : SupervisorWorld) : List DeploymentUpdate :=
  w.state.candidates.filterMap (deploymentUpdate w.pointers.ids w.deployments)

abbrev SupervisorWorld.reconciled (now : Timestamp) (w : SupervisorWorld) : SupervisorWorld :=
  { w with state := w.updates.foldl (applyUpdate now) w.state }

/- What a call that is alone can do to the world. -/
inductive Effect (names : ReleaseNames) (around : Surroundings)
    (w : SupervisorWorld) : SupervisorCall → SupervisorWorld → Prop
| unchanged {call : SupervisorCall} : Effect names around w call w
| deployed {call : SupervisorCall} {candidateId releaseId : String} {candidate : EvolutionCandidate}
    {deployment : Deployment} {candidateStatus : CandidateStatus}
    {epochStatus : EpochStatus} (deploys : call.deploys = some candidateId)
    (found : w.state.candidate? candidateId = some candidate)
    (released : candidate.releaseId = some releaseId)
    (ofCall : DeploymentOf around.now w candidate releaseId
      call deployment candidateStatus epochStatus) :
    Effect names around w call { w.deployed deployment with
      state := setDeployment around.now w.state candidateId
        candidate.epochId candidateStatus epochStatus }
-- Records that bear on no candidate and on no epoch.
| noted {call : SupervisorCall} {state : SupervisorState}
    (candidates : state.candidates = w.state.candidates) (epochs : state.epochs = w.state.epochs)
    (archive : state.archive = w.state.archive) :
    Effect names around w call { w with state := state }
| bootstrapped {call : SupervisorCall} {w' : SupervisorWorld}
    (steps : Relation.ReflTransGen (BootstrapStep names around.now) w w') :
    Effect names around w call w'
| epochStarted {call : SupervisorCall} {epochId opportunityId : String} {stable : ReleasePointer}
    {budget : EvolutionEpochBudget}
    (current : w.pointers.stable = some stable) : Effect names around w call { w with state :=
      { w.state with epochs := w.state.epochs ++ [newEpoch epochId opportunityId stable.releaseId
          budget around.now] } }
| registered {call : SupervisorCall} {candidateId : String}
    {proposal : CandidateProposal} {state : SupervisorState} (current : w.pointers.stable.isSome)
    (proposed : applyProposal around.now w.state candidateId proposal = .ok state) :
    Effect names around w call { w with state := state }
-- The builds of evaluations may have been recorded before.
| evaluated {call : SupervisorCall} {input : EvaluationInput} {candidate : EvolutionCandidate}
    {epoch : EvolutionEpoch} {builds : List TrustedEvaluationBuild}
    {state : SupervisorState} (about : call.advances = some input.candidateId)
    (found : w.state.candidate? input.candidateId = some candidate)
    (frozen : candidate.status = .frozen)
    (complete : applyGate around.now { w.state with evaluationBuilds := builds }
      candidate.epochId input (buildGateResult input epoch.budget) = .ok state) :
    Effect names around w call { w with state := state }
| released {call : SupervisorCall} {candidateId releaseId parentReleaseId : String}
    {candidate : EvolutionCandidate} {state : SupervisorState} {w' : SupervisorWorld}
    (about : call.advances = some candidateId)
    (found : w.state.candidate? candidateId = some candidate) (passed : candidate.status = .passed)
    (build : w.build names candidateId candidate.patchDigest
      (some parentReleaseId) = (.ok releaseId, w'))
    (apply : applyRelease around.now w.state candidateId
      candidate.epochId releaseId candidate.patchDigest = .ok state) :
    Effect names around w call { w' with state := state }
| expired : Effect names around w .enforceDeadlines { w with
      state := { w.state with epochs := w.state.epochs.map (EvolutionEpoch.expire around.now) } }
| reconciled : Effect names around w .openSupervisor (w.reconciled around.now)

/- A release that was built is known by what it is of. -/
theorem build_known {names : ReleaseNames} {w w' : SupervisorWorld}
    {candidateId sourceDigest releaseId : String} {parentReleaseId : Option String}
    (hBuild : w.build names candidateId sourceDigest parentReleaseId = (.ok releaseId, w')) :
    ∃ release : BuiltRelease, release.releaseId = releaseId ∧
      release.parentReleaseId = parentReleaseId ∧ release.candidateId = candidateId ∧
      w'.release? release.releaseId = some release := by
  unfold SupervisorWorld.build at hBuild
  dsimp only at hBuild
  split at hBuild
  · rename_i hNone
    cases hBuild
    refine ⟨⟨_, candidateId, sourceDigest, parentReleaseId⟩, rfl, rfl, rfl, ?_⟩
    simp only [SupervisorWorld.release?] at hNone ⊢
    simp [hNone]
  · rename_i known hKnown
    split at hBuild <;> cases hBuild
    next hSame =>
      subst hSame
      exact ⟨⟨_, candidateId, sourceDigest, parentReleaseId⟩, rfl, rfl, rfl, hKnown⟩

section

variable {names : ReleaseNames} {around : Surroundings} {α β : Type} {w : SupervisorWorld}
variable {good : β → SupervisorWorld → Prop} {bad : SupervisorWorld → Prop}

/- The program, alone, ends in `good` or fails in `bad`. -/
def Achieves (names : ReleaseNames) (around : Surroundings) (good : β → SupervisorWorld → Prop)
    (bad : SupervisorWorld → Prop) (program : SupervisorProgram β) (w : SupervisorWorld) : Prop :=
  program.Runs (alone names around) (fun _ => True) good (fun _ => bad) w

namespace Achieves

theorem check {test : Except SupervisorError α} {rest : α → SupervisorProgram β} (hBad : bad w)
    (hRest : ∀ result, test = .ok result → Achieves names around good bad (rest result) w) :
    Achieves names around good bad (Program.ofExcept test >>= rest) w :=
  Program.Runs.ofExcept hRest (fun _ _ => hBad)

theorem snapshot {rest : SupervisorState → SupervisorProgram β}
    (hRest : Achieves names around good bad (rest w.state) w) :
    Achieves names around good bad (Supervisor.snapshot >>= rest) w :=
  Program.Runs.call trivial hRest

theorem pointer {name : PointerName} {rest : Option ReleasePointer → SupervisorProgram β}
    (hRest : Achieves names around good bad (rest (w.pointers.get name)) w) :
    Achieves names around good bad (Supervisor.pointer name >>= rest) w :=
  Program.Runs.call trivial hRest

theorem verifyDeploymentLog {rest : List Deployment → SupervisorProgram β}
    (hRest : Achieves names around good bad (rest w.deployments) w) :
    Achieves names around good bad (Supervisor.verifyDeploymentLog >>= rest) w :=
  Program.Runs.call trivial hRest

theorem clock {rest : Timestamp → SupervisorProgram β}
    (hRest : Achieves names around good bad (rest around.now) w) :
    Achieves names around good bad (Supervisor.clock >>= rest) w :=
  Program.Runs.call trivial hRest

theorem checkSource {rest : Unit → SupervisorProgram β} (hBad : bad w)
    (hRest : Achieves names around good bad (rest ()) w) :
    Achieves names around good bad (Supervisor.checkSource >>= rest) w := by
  exact Program.Runs.call trivial (check hBad (fun _ _ => hRest))

variable {transaction : Transaction} {rest : Committed → SupervisorProgram β}

theorem commit_ok {state : SupervisorState}
    (hApply : transaction.apply around.now w.state = .ok state)
    (hRest : Achieves names around good bad (rest ⟨w.state, state⟩) { w with state := state }) :
    Achieves names around good bad (Supervisor.commit transaction >>= rest) w := by
  apply Program.Runs.call trivial
  change Achieves names around good bad (Program.ofExcept (w.transact around.now transaction).1
      >>= rest) (w.transact around.now transaction).2
  unfold SupervisorWorld.transact
  rw [hApply]
  exact Program.Runs.ofExcept_ok rfl hRest

theorem commit (hBad : bad w) (hRest : ∀ state, transaction.apply around.now w.state = .ok state →
        Achieves names around good bad (rest ⟨w.state, state⟩) { w with state := state }) :
    Achieves names around good bad (Supervisor.commit transaction >>= rest) w := by
  cases hApply : transaction.apply around.now w.state with
  | ok state => exact commit_ok hApply (hRest state hApply)
  | error error =>
    apply Program.Runs.call trivial
    change Achieves names around good bad
      (Program.ofExcept (w.transact around.now transaction).1 >>= rest)
      (w.transact around.now transaction).2
    unfold SupervisorWorld.transact
    rw [hApply]
    exact hBad

theorem buildChecked {candidateId sourceDigest : String} {parentReleaseId : Option String}
    {rest : String → SupervisorProgram β} (hBad : bad w)
    (hRest : ∀ releaseId w', w.build names candidateId sourceDigest parentReleaseId =
          (.ok releaseId, w') →
        Achieves names around good bad (rest releaseId) w') :
    Achieves names around good bad (Supervisor.buildChecked candidateId sourceDigest
        parentReleaseId >>= rest) w := by
  apply Program.Runs.call trivial
  change Achieves names around good bad (Program.ofExcept (Except.mapError SupervisorError.release
      (w.build names candidateId sourceDigest parentReleaseId).1) >>= rest)
    (w.build names candidateId sourceDigest parentReleaseId).2
  cases hBuild : w.build names candidateId sourceDigest parentReleaseId with
  | mk built w' =>
    cases built with
    | ok releaseId => exact Program.Runs.ofExcept_ok rfl (hRest releaseId w' hBuild)
    | error error =>
      have hSame : w' = w := by
        unfold SupervisorWorld.build at hBuild
        dsimp only at hBuild
        split at hBuild
        · cases hBuild
        · split at hBuild <;> cases hBuild
          rfl
      subst hSame
      exact hBad

theorem deploy {call : DeploymentCall} {rest : ReleasePointer → SupervisorProgram β} (hBad : bad w)
    (hRest : ∀ pointer deployment, call.plan w.ensureManifest around.now w.pointers =
          .ok (pointer, deployment) →
        Achieves names around good bad (rest pointer) (w.deployed deployment)) :
    Achieves names around good bad (Supervisor.deploy call >>= rest) w := by
  apply Program.Runs.call trivial
  change Achieves names around good bad (Program.ofExcept (Except.mapError SupervisorError.release
      (w.deploy around.now call).1) >>= rest)
    (w.deploy around.now call).2
  unfold SupervisorWorld.deploy
  split
  · exact hBad
  · split
    · exact hBad
    · next pointer deployment hPlan => exact hRest pointer deployment hPlan

theorem ensureCurrentStable {releaseId : String} {rest : Unit → SupervisorProgram β} (hBad : bad w)
    (hRest : w.pointers.stable.isSome → Achieves names around good bad (rest ()) w) :
    Achieves names around good bad (Supervisor.ensureCurrentStable releaseId >>= rest) w := by
  simp only [Supervisor.ensureCurrentStable, Program.bind_assoc]
  apply Achieves.pointer
  apply Achieves.check hBad
  intro stable hStable
  apply Achieves.check hBad
  rintro ⟨⟩ -
  apply hRest
  rw [demand_eq_ok] at hStable
  exact Option.isSome_of_eq_some hStable

theorem validateFrozenCandidateSource {candidate : EvolutionCandidate}
    {rest : Unit → SupervisorProgram β} (hBad : bad w)
    (hRest : ∀ parentReleaseId, (w.state.epoch? candidate.epochId).bind
          EvolutionEpoch.parentReleaseId =
        some parentReleaseId →
      Achieves names around good bad (rest ()) w) :
    Achieves names around good bad
      (Supervisor.validateFrozenCandidateSource candidate >>= rest) w := by
  simp only [Supervisor.validateFrozenCandidateSource, Program.bind_assoc]
  apply Achieves.snapshot
  apply Achieves.check hBad
  intro parent hParent
  apply Achieves.ensureCurrentStable hBad
  intro _
  apply Achieves.checkSource hBad
  exact hRest parent (demand_eq_ok.1 hParent)

/- The world in which a call ends. -/
theorem perform {call : SupervisorCall} {good : SupervisorWorld → Prop}
    (hRuns : Achieves names around (fun _ => good) bad call.program w) :
    good (Supervisor.perform names around call w).2 ∨
      bad (Supervisor.perform names around call w).2 := by
  have hExec := hRuns.exec
  unfold Supervisor.perform
  split at hExec
  · rename_i hRun
    rw [hRun]
    exact .inl hExec
  · rename_i hRun
    rw [hRun]
    exact .inr hExec

end Achieves

end

section

variable (names : ReleaseNames) (around : Surroundings) (w : SupervisorWorld)

def Results (names : ReleaseNames) (around : Surroundings)
    (w : SupervisorWorld) (call : SupervisorCall) : Prop :=
  Achieves names around (fun _ w' => Effect names around w call w')
    (Effect names around w call) call.program w

open Effect

open SupervisorCall

theorem openSupervisor_results : Results names around w .openSupervisor := by
  apply Achieves.snapshot
  split
  · exact unchanged
  · apply Achieves.verifyDeploymentLog
    apply Achieves.pointer
    apply Achieves.pointer
    apply Achieves.pointer
    change Achieves names around _ _ (ite _ _ _) _
    split
    · exact unchanged
    · apply Achieves.commit unchanged
      intro state hApply
      cases hApply
      exact reconciled

theorem observe_results (opportunity : EvolutionOpportunity) :
    Results names around w (.observe opportunity) := by
  apply Achieves.commit unchanged
  intro state hApply
  simp only [Transaction.apply] at hApply
  split at hApply <;> cases hApply
  · exact unchanged
  · exact noted rfl rfl rfl

theorem enforceDeadlines_results : Results names around w .enforceDeadlines := by
  unfold Results
  simp only [program, dropResult, enforceDeadlines, Program.bind_assoc]
  apply Achieves.commit unchanged
  intro state hApply
  cases hApply
  exact expired

theorem recordCanaryObservation_results (observation : DeploymentObservation) :
    Results names around w (.recordCanaryObservation observation) := by
  unfold Results
  simp only [program, dropResult, recordCanaryObservation, Program.bind_assoc]
  apply Achieves.check unchanged
  rintro ⟨⟩ -
  apply Achieves.snapshot
  apply Achieves.check unchanged
  intro candidate hFind
  apply Achieves.check unchanged
  rintro ⟨⟩ -
  apply Achieves.commit unchanged
  intro state hApply
  cases hApply
  exact noted rfl rfl rfl

theorem startEpoch_results (opportunityId : String) (budget : EvolutionEpochBudget)
    (epochId : String) : Results names around w (.startEpoch opportunityId budget epochId) := by
  unfold Results
  simp only [program, dropResult, startEpoch, Program.bind_assoc]
  apply Achieves.check unchanged
  rintro ⟨⟩ -
  apply Achieves.check unchanged
  rintro ⟨⟩ -
  apply Achieves.clock
  apply Achieves.pointer
  apply Achieves.check unchanged
  intro stable hStable
  apply Achieves.snapshot
  apply Achieves.check unchanged
  intro opportunity hFind
  apply Achieves.check unchanged
  rintro ⟨⟩ -
  apply Achieves.commit unchanged
  intro state hApply
  simp only [Transaction.apply] at hApply
  split at hApply <;> cases hApply
  exact epochStarted (demand_eq_ok.1 hStable)

theorem registerCandidate_results (proposal : CandidateProposal)
    (freshId : String) : Results names around w (.registerCandidate proposal freshId) := by
  unfold Results
  simp only [program, dropResult, registerCandidate, Program.bind_assoc]
  apply Achieves.check unchanged
  rintro ⟨⟩ -
  apply Achieves.snapshot
  apply Achieves.check unchanged
  intro epoch hEpoch
  apply Achieves.check unchanged
  intro parent hParent
  apply Achieves.ensureCurrentStable unchanged
  intro hStable
  apply Achieves.checkSource unchanged
  apply Achieves.check unchanged
  rintro ⟨⟩ -
  apply Achieves.commit unchanged
  intro state hApply
  exact registered hStable hApply

/-
  An evaluation that starts from a world in which only the builds of evaluations
  may differ from `w`.
-/
theorem evaluateInput_achieves {call : SupervisorCall} (input : EvaluationInput)
    (builds : List TrustedEvaluationBuild) (hAbout : call.advances = some input.candidateId) :
    Achieves names around (fun _ w' => Effect names around w call w') (Effect names around w call)
      (dropResult (evaluateInput input))
      { w with state := { w.state with evaluationBuilds := builds } } := by
  have hNoted : Effect names around w call { w with state :=
      { w.state with evaluationBuilds := builds } } :=
    noted rfl rfl rfl
  simp only [dropResult, evaluateInput, Program.bind_assoc]
  apply Achieves.check hNoted
  rintro ⟨⟩ -
  apply Achieves.snapshot
  apply Achieves.check hNoted
  intro candidate hFind
  apply Achieves.check hNoted
  intro epoch hEpoch
  apply Achieves.check hNoted
  rintro ⟨⟩ hFrozen
  apply Achieves.clock
  apply Achieves.check hNoted
  rintro ⟨⟩ -
  apply Achieves.check hNoted
  rintro ⟨⟩ -
  apply Achieves.commit hNoted
  intro state hApply
  have hStatus : candidate.status = .frozen := by simpa [checkFrozen, require_eq_ok] using hFrozen
  exact evaluated hAbout (demand_eq_ok.1 hFind) hStatus hApply

theorem recordCases_achieves {bad : SupervisorWorld → Prop} {w : SupervisorWorld}
    {names : ReleaseNames} {around : Surroundings} (candidate : EvolutionCandidate)
    (cases : List RuntimeEvaluationCase) (hBad : bad w) :
    Achieves names around (fun _ w' => w' = w) bad
      (cases.foldlM (fun _ => recordCase candidate) ()) w := by
  refine Program.Keeps.foldlM ?_ rfl
  rintro item - ⟨⟩ _ rfl
  apply Achieves.checkSource hBad
  apply Achieves.commit hBad
  intro state hApply
  cases hApply
  apply Achieves.commit hBad
  intro state hApply
  cases hApply
  rfl

theorem evaluateSuite_results (suite : SuiteRun) (sourceDigest : String) :
    Results names around w (.evaluateSuite suite sourceDigest) := by
  unfold Results
  simp only [program, dropResult, evaluateSuite, Program.bind_assoc]
  apply Achieves.checkSource unchanged
  apply Achieves.snapshot
  apply Achieves.check unchanged
  intro candidate hFind
  apply Achieves.check unchanged
  rintro ⟨⟩ -
  apply Achieves.validateFrozenCandidateSource unchanged
  intro parent hParent
  apply Achieves.check unchanged
  intro epoch hEpoch
  apply Achieves.check unchanged
  intro baseline hBaseline
  apply Achieves.check unchanged
  rintro ⟨⟩ -
  apply Achieves.commit unchanged
  intro state hApply
  cases hApply
  have hNoted : ∀ builds, Effect names around w
      (.evaluateSuite suite sourceDigest) { w with state :=
        { w.state with evaluationBuilds := builds } } :=
    fun _ => noted rfl rfl rfl
  apply Program.Runs.andThen (recordCases_achieves candidate suite.cases (hNoted _))
  rintro ⟨⟩ _ rfl
  apply Achieves.validateFrozenCandidateSource (hNoted _)
  intro _ _
  exact evaluateInput_achieves names around w suite.input _ rfl

theorem buildVerifiedRelease_results (candidateId : String) :
    Results names around w (.buildVerifiedRelease candidateId) := by
  unfold Results
  simp only [program, dropResult, buildVerifiedRelease, buildReleaseFromReport, Program.bind_assoc]
  apply Achieves.snapshot
  apply Achieves.check unchanged
  intro report hReport
  apply Achieves.checkSource unchanged
  apply Achieves.check unchanged
  rintro ⟨⟩ -
  apply Achieves.snapshot
  apply Achieves.check unchanged
  intro candidate hFind
  apply Achieves.check unchanged
  rintro ⟨⟩ hReleasable
  apply Achieves.validateFrozenCandidateSource unchanged
  intro parent hParent
  apply Achieves.check unchanged
  rintro ⟨⟩ hDigest
  simp only [require_eq_ok, decide_eq_true_eq] at hDigest
  rw [hParent, hDigest]
  apply Achieves.buildChecked unchanged
  intro releaseId w' hBuild
  have hState := (build_frame hBuild).1
  have hFound := demand_eq_ok.1 hFind
  have hPassed := passed_of_checkReleasable hReleasable
  obtain ⟨state, hApply⟩ : ∃ state, applyRelease around.now w.state candidateId
        candidate.epochId releaseId candidate.patchDigest = .ok state :=
    ⟨_, by simp only [applyRelease, hFound]; rfl⟩
  refine Achieves.commit_ok (by rw [hState]; exact hApply) ?_
  exact released rfl hFound hPassed hBuild hApply

theorem bootstrap_results (bootstrapId sourceDigest : String) (gateAccepted : Bool) :
    Results names around w (.bootstrap bootstrapId sourceDigest gateAccepted) := by
  unfold Results
  simp only [program, dropResult, bootstrapStableRelease, Program.bind_assoc]
  apply Achieves.pointer
  apply Achieves.check unchanged
  rintro ⟨⟩ -
  apply Achieves.commit unchanged
  intro state hApply
  simp only [Transaction.apply] at hApply
  split at hApply <;> cases hApply
  have hRecorded : Relation.ReflTransGen (BootstrapStep names around.now) w { w with state :=
        { w.state with bootstrapBuilds := w.state.bootstrapBuilds ++ [bootstrapId] } } :=
    .single (.recorded _)
  have hBad := @Effect.bootstrapped names around w
    (.bootstrap bootstrapId sourceDigest gateAccepted) _ hRecorded
  apply Achieves.check hBad
  rintro ⟨⟩ -
  apply Achieves.pointer
  apply Achieves.check hBad
  rintro ⟨⟩ -
  apply Achieves.checkSource hBad
  apply Achieves.buildChecked hBad
  intro releaseId w₁ hBuild
  have hBuilt := hRecorded.tail (.built hBuild)
  obtain ⟨release, rfl, hFirst, -, hKnown⟩ := build_known hBuild
  apply Achieves.deploy (.bootstrapped hBuilt)
  intro pointer preview hPreview
  have hPreviewed := hBuilt.tail (.deployed hFirst hKnown (.inl rfl) hPreview)
  apply Achieves.deploy (.bootstrapped hPreviewed)
  intro pointer canary hCanary
  have hCanaried := hPreviewed.tail (.deployed hFirst hKnown (.inr (.inl rfl)) hCanary)
  apply Achieves.deploy (.bootstrapped hCanaried)
  intro pointer promoted hPromote
  have hPromoted := hCanaried.tail (.deployed hFirst hKnown (.inr (.inr rfl)) hPromote)
  exact Achieves.commit_ok rfl (bootstrapped hPromoted)

theorem deployment_effect {call : SupervisorCall} {candidateId : String}
    (hDeploys : call.deploys = some candidateId) :
    Effect names around w call (perform names around call w).2 := by
  rcases perform_deployment names around w hDeploys with ⟨error, -, hEnded⟩ |
    ⟨candidate, releaseId, deployment, candidateStatus,
      epochStatus, hFind, hRelease, hOf, -, hEnded⟩
  · rw [hEnded]
    exact .unchanged
  · rw [hEnded]
    exact .deployed hDeploys hFind hRelease hOf

theorem Results.effect {names : ReleaseNames} {around : Surroundings} {w : SupervisorWorld}
    {call : SupervisorCall} (hResults : Results names around w call) :
    Effect names around w call (perform names around call w).2 :=
  (Achieves.perform hResults).elim id id

/- A call that is alone has one of the effects. -/
theorem perform_effect (call : SupervisorCall) :
    Effect names around w call (perform names around call w).2 := by
  cases call with
  | openSupervisor => exact (openSupervisor_results names around w).effect
  | bootstrap bootstrapId sourceDigest gateAccepted =>
    exact (bootstrap_results names around w bootstrapId sourceDigest gateAccepted).effect
  | observe opportunity => exact (observe_results names around w opportunity).effect
  | startEpoch opportunityId budget epochId =>
    exact (startEpoch_results names around w opportunityId budget epochId).effect
  | registerCandidate proposal freshId =>
    exact (registerCandidate_results names around w proposal freshId).effect
  | evaluateInput input =>
    exact Results.effect (evaluateInput_achieves names around w input _ rfl)
  | evaluateSuite suite sourceDigest =>
    exact (evaluateSuite_results names around w suite sourceDigest).effect
  | buildVerifiedRelease candidateId =>
    exact (buildVerifiedRelease_results names around w candidateId).effect
  | recordCanaryObservation observation =>
    exact (recordCanaryObservation_results names around w observation).effect
  | enforceDeadlines => exact (enforceDeadlines_results names around w).effect
  | _ => exact deployment_effect names around w rfl

end

end GolutraAgent.Supervisor
