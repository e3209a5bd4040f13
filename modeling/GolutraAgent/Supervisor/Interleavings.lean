import GolutraAgent.Library.GuardedPool
import GolutraAgent.Supervisor.Operations

/-
  This file describes what a process of the supervisor knows when it issues a
  command beside other processes: each check of its call was made in an earlier
  world, and nothing says that it still holds. Every command that writes is
  issued in one of the ways listed here, in every run in which the world only
  gets later.
-/

namespace GolutraAgent.Supervisor

open Release (ReleaseError ReleasePointer PointerName Pointers Deployment DeploymentCall)

abbrev SupervisorPool := Pool supervisorInterface SupervisorWorld SupervisorError Unit
    SupervisorCall

abbrev SupervisorTurn := Pool.Turn supervisorInterface SupervisorWorld SupervisorCall

/- Nothing but the processes changes the two stores. -/
abbrev SupervisorPoolOp := PoolOp SupervisorCall Surroundings Empty

def handleCommand (names : ReleaseNames) (command : supervisorInterface.Command) :
    Surroundings → SupervisorWorld → supervisorInterface.Answer command × SupervisorWorld :=
  SupervisorCommand.handle names command

def interleave (names : ReleaseNames) : SupervisorPool → SupervisorPoolOp → SupervisorPool :=
  Pool.step (handleCommand names) SupervisorCall.program (fun w _ => w)

/- One call after the other, each by a process of its own. -/
def oneByOne (around : Surroundings) (steps first : Nat) :
    List SupervisorCall → List SupervisorPoolOp
| [] => []
| call :: calls =>
  .spawn call :: List.replicate steps (.advance first around) ++
      oneByOne around steps (first + 1) calls

def SupervisorCommand.reads : SupervisorCommand → Bool
| .snapshot | .pointer _ | .deploymentLog | .checkSource | .clock => true
| _ => false

/- Transactions on records that no check looks at again. -/
def Transaction.notes : Transaction → Bool
| .recordBootstrapBuild _ | .bootstrapStable | .identifyOpportunity _ | .completeEvaluationBuild _ _
| .completePairedExecution _ _ => true
| _ => false

/- The statuses of a candidate whose release is deployed. -/
def CandidateStatus.deployment : CandidateStatus → Bool
| .previewing | .canarying | .promoted | .rolledBack => true
| _ => false

def SupervisorCall.promotes : SupervisorCall → Bool
| .promote _ _ => true
| _ => false

section

variable (names : ReleaseNames) (later : SupervisorWorld → SupervisorWorld → Prop)

/- The release of a candidate, as it was found before. -/
def FoundReleased (w : SupervisorWorld) (candidateId : String) : Prop :=
  ∃ v, later v w ∧ ∃ candidate ∈ v.state.candidates,
      candidate.candidateId = candidateId ∧ candidate.releaseId.isSome

/- The checks of a promotion, in two earlier worlds. -/
def PromotionChecked (start w : SupervisorWorld) (candidateId releaseId : String) : Prop :=
  ∃ u v candidate, later start v ∧ later u w ∧ later v w ∧
    u.state.candidate? candidateId = some candidate ∧ candidate.releaseId = some releaseId ∧
      checkHealthy (v.state.observationsOf candidateId releaseId) = .ok ()

inductive Issued (start w : SupervisorWorld) :
    SupervisorCall → SupervisorCommand → Prop
| read {call : SupervisorCall} {command : SupervisorCommand} (reads : command.reads) :
    Issued start w call command
| built {call : SupervisorCall} {candidateId sourceDigest : String}
    {parentReleaseId : Option String} :
    Issued start w call (.buildRelease candidateId sourceDigest parentReleaseId)
| deployed {call : SupervisorCall} {deployment : DeploymentCall} (other : call.promotes = false) :
    Issued start w call (.deploy deployment)
| noted {call : SupervisorCall} {transaction : Transaction} (notes : transaction.notes) :
    Issued start w call (.transact transaction)
| epochStarted {call : SupervisorCall} {epochId opportunityId releaseId : String}
    {budget : EvolutionEpochBudget} {now : Timestamp} : Issued start w call (.transact (.startEpoch
      (newEpoch epochId opportunityId releaseId budget now)))
| registered {call : SupervisorCall} {candidateId : String} {proposal : CandidateProposal} :
    Issued start w call (.transact (.proposeCandidate candidateId proposal))
| evaluated {call : SupervisorCall} {v : SupervisorWorld} {input : EvaluationInput}
    {candidate : EvolutionCandidate} {epoch : EvolutionEpoch}
    (before : later v w) (found : v.state.candidate? input.candidateId = some candidate)
    (frozen : candidate.status = .frozen) (inEpoch : v.state.epoch? candidate.epochId = some epoch)
    (disclosed : checkDisclosure epoch input.holdoutQueries = .ok ()) :
    Issued start w call (.transact (.completeGate candidate.epochId input
      (buildGateResult input epoch.budget)))
| released {call : SupervisorCall} {v : SupervisorWorld} {candidateId releaseId : String}
    {candidate : EvolutionCandidate} (before : later v w)
    (found : v.state.candidate? candidateId = some candidate) (passed : candidate.status = .passed)
    (named : releaseId = names candidate.patchDigest candidateId) :
    Issued start w call (.transact (.buildRelease candidateId
      candidate.epochId releaseId candidate.patchDigest))
| observed {call : SupervisorCall} {epochId : String} {observation : DeploymentObservation} :
    Issued start w call (.transact (.recordObservation epochId observation))
| updated {call : SupervisorCall} {candidateId : String} {candidateStatus : CandidateStatus}
    {epochStatus : EpochStatus} (other : call.promotes = false)
    (found : FoundReleased later w candidateId) (status : candidateStatus.deployment) :
    Issued start w call (.transact (.updateDeployment candidateId candidateStatus epochStatus))
| promoted {candidateId releaseId reason : String}
    (checked : PromotionChecked later start w candidateId releaseId) :
    Issued start w (.promote candidateId reason) (.deploy (.promote releaseId reason))
| promotionNoted {candidateId releaseId reason : String}
    (checked : PromotionChecked later start w candidateId releaseId) :
    Issued start w (.promote candidateId reason)
      (.transact (.updateDeployment candidateId .promoted .promoted))
| expired {call : SupervisorCall} : Issued start w call (.transact .enforceDeadlines)
| reconciled {call : SupervisorCall} {updates : List DeploymentUpdate}
    (found : ∀ update ∈ updates, update.candidateStatus.deployment ∧
        FoundReleased later w update.candidateId) :
    Issued start w call (.transact (.reconcile updates))

def IssuedTurn (turn : SupervisorTurn) (w : SupervisorWorld) : Prop :=
  Issued names later turn.start w turn.call turn.command

end

/- A command that is allowed leads to a later world. -/
def Grows (names : ReleaseNames) (later : SupervisorWorld → SupervisorWorld → Prop)
    (allowed : SupervisorTurn → SupervisorWorld → Prop) : Prop :=
  ∀ (turn : SupervisorTurn) around w, later w w → allowed turn w → IssuedTurn names later turn w →
      later w (handleCommand names turn.command around w).2

/- A process, and the worlds that it takes to be later. -/
structure Watch (names : ReleaseNames) (later : SupervisorWorld → SupervisorWorld → Prop) where
  allowed : SupervisorTurn → SupervisorWorld → Prop
  grows : Grows names later allowed
  start : SupervisorWorld
  call : SupervisorCall

section

variable {names : ReleaseNames} {later : SupervisorWorld → SupervisorWorld → Prop}

variable (watch : Watch names later)

/- How the process issues a command. -/
abbrev Watch.Issues (command : SupervisorCommand) (w : SupervisorWorld) : Prop :=
  Issued names later watch.start w watch.call command

/- What is left of the call of the process. -/
def Heeds {α : Type} (program : SupervisorProgram α) (w : SupervisorWorld) : Prop :=
  program.Complies (handleCommand names) later (fun command =>
      watch.allowed ⟨watch.call, watch.start, command⟩)
    watch.Issues (fun _ _ => True) w

end

theorem handle_reads {names : ReleaseNames} {command : SupervisorCommand}
    (hReads : command.reads) (around : Surroundings) (w : SupervisorWorld) :
    (handleCommand names command around w).2 = w := by
  cases command <;> first | rfl | cases hReads

theorem deploy_state (now : Timestamp) (call : DeploymentCall)
    (w : SupervisorWorld) : (w.deploy now call).2.state = w.state := by
  unfold SupervisorWorld.deploy
  split
  · rfl
  · split <;> rfl

/- Such records bear on no candidate and on no epoch. -/
theorem noted_frame {now : Timestamp} {state state' : SupervisorState} {transaction : Transaction}
    (hNotes : transaction.notes) (hApply : transaction.apply now state = .ok state') :
    state'.candidates = state.candidates ∧ state'.gateResults = state.gateResults ∧
      state'.deploymentObservations = state.deploymentObservations ∧
      state'.disclosureBudgets = state.disclosureBudgets ∧ state'.epochs = state.epochs := by
  cases transaction with
  | recordBootstrapBuild bootstrapId =>
    simp only [Transaction.apply] at hApply
    split at hApply <;> cases hApply
    exact ⟨rfl, rfl, rfl, rfl, rfl⟩
  | identifyOpportunity opportunity =>
    simp only [Transaction.apply] at hApply
    split at hApply <;> cases hApply <;> exact ⟨rfl, rfl, rfl, rfl, rfl⟩
  | bootstrapStable | completeEvaluationBuild
  | completePairedExecution =>
    cases hApply
    exact ⟨rfl, rfl, rfl, rfl, rfl⟩
  | _ => cases hNotes

namespace Heeds

variable {names : ReleaseNames} {later : SupervisorWorld → SupervisorWorld → Prop}
variable {watch : Watch names later} {w : SupervisorWorld} {α β : Type}

theorem check {found : Except SupervisorError α} {rest : α → SupervisorProgram β}
    (hRest : ∀ value, found = .ok value → Heeds watch (rest value) w) :
    Heeds watch (Program.ofExcept found >>= rest) w :=
  Program.Complies.ofExcept hRest

section

variable [IsGrowth later]

theorem read {command : SupervisorCommand}
    {rest : command.Answer → SupervisorProgram β} (hReads : command.reads)
    (hRest : ∀ around w', later w w' → Heeds watch (rest (command.handle names around w').1) w') :
    Heeds watch (@Program.call supervisorInterface _ command >>= rest) w := by
  refine Program.Complies.call (fun _ _ => .read hReads) ?_
  intro around w' hLater _
  rw [handle_reads hReads]
  exact ⟨IsGrowth.here w w' hLater, hRest around w' hLater⟩

theorem snapshot {rest : SupervisorState → SupervisorProgram β}
    (hRest : ∀ w', later w w' → Heeds watch (rest w'.state) w') :
    Heeds watch (Supervisor.snapshot >>= rest) w :=
  read rfl (fun _ => hRest)

theorem pointer {name : PointerName} {rest : Option ReleasePointer → SupervisorProgram β}
    (hRest : ∀ w', later w w' → Heeds watch (rest (w'.pointers.get name)) w') :
    Heeds watch (Supervisor.pointer name >>= rest) w :=
  read rfl (fun _ => hRest)

theorem verifyDeploymentLog {rest : List Deployment → SupervisorProgram β}
    (hRest : ∀ w', later w w' → Heeds watch (rest w'.deployments) w') :
    Heeds watch (Supervisor.verifyDeploymentLog >>= rest) w :=
  read rfl (fun _ => hRest)

theorem clock {rest : Timestamp → SupervisorProgram β}
    (hRest : ∀ now w', later w w' → Heeds watch (rest now) w') :
    Heeds watch (Supervisor.clock >>= rest) w :=
  read rfl (fun around => hRest around.now)

variable {rest : Unit → SupervisorProgram β}

theorem checkSource (hRest : ∀ w', later w w' → Heeds watch (rest ()) w') :
    Heeds watch (Supervisor.checkSource >>= rest) w := by
  refine read rfl (fun around w' hLater => ?_)
  exact check (fun _ _ => hRest w' hLater)

theorem candidate {candidateId : String} {rest : EvolutionCandidate → SupervisorProgram β}
    (hRest : ∀ candidate w', later w w' → w'.state.candidate? candidateId = some candidate →
        Heeds watch (rest candidate) w') :
    Heeds watch (Supervisor.candidate candidateId >>= rest) w := by
  apply snapshot
  intro w' hLater
  apply check
  intro candidate hFind
  exact hRest candidate w' hLater (demand_eq_ok.1 hFind)

section

variable (hRest : ∀ w', later w w' → Heeds watch (rest ()) w')
include hRest

theorem ensureCurrentStable {releaseId : String} :
    Heeds watch (Supervisor.ensureCurrentStable releaseId >>= rest) w := by
  unfold Supervisor.ensureCurrentStable
  simp only [Program.bind_assoc]
  apply pointer
  intro w' hLater
  apply check
  intro stable _
  exact check (fun _ _ => hRest w' hLater)

theorem validateFrozenCandidateSource {candidate : EvolutionCandidate} :
    Heeds watch (Supervisor.validateFrozenCandidateSource candidate >>= rest) w := by
  unfold Supervisor.validateFrozenCandidateSource
  simp only [Program.bind_assoc]
  apply snapshot
  intro w₁ h₁
  apply check
  intro parent _
  apply ensureCurrentStable
  intro w₂ h₂
  apply checkSource
  intro w₃ h₃
  exact hRest w₃ (trans_of later h₁ (trans_of later h₂ h₃))

theorem requireNoStable {message : String} :
    Heeds watch (Supervisor.requireNoStable message >>= rest) w := by
  apply pointer
  intro w' hLater
  exact check (fun _ _ => hRest w' hLater)

end

end

section

variable [IsGrowth later]

theorem write {command : SupervisorCommand} {rest : command.Answer → SupervisorProgram β}
    (hIssued : ∀ w', later w w' → watch.Issues command w')
    (hRest : ∀ around w' w'', later w w'' → command.handle names around w' =
        ((command.handle names around w').1, w'') →
      Heeds watch (rest (command.handle names around w').1) w'') :
    Heeds watch (@Program.call supervisorInterface _ command >>= rest) w := by
  refine Program.Complies.call hIssued ?_
  intro around w' hLater hAllowed
  have hGrown := watch.grows _ around w' (IsGrowth.here w w' hLater) hAllowed (hIssued w' hLater)
  exact ⟨hGrown, hRest around w' _ (trans_of later hLater hGrown) rfl⟩

variable {rest : Committed → SupervisorProgram β} {transaction : Transaction}

theorem commit (hIssued : ∀ w', later w w' → watch.Issues (.transact transaction) w')
    (hRest : ∀ committed w', later w w' → Heeds watch (rest committed) w') :
    Heeds watch (Supervisor.commit transaction >>= rest) w := by
  refine write hIssued ?_
  intro around w' w'' hLater _
  exact check (fun committed _ => hRest committed w'' hLater)

/- A transaction on records that no check looks at. -/
theorem note (hNotes : transaction.notes)
    (hRest : ∀ committed w', later w w' → Heeds watch (rest committed) w') :
    Heeds watch (Supervisor.commit transaction >>= rest) w :=
  commit (fun _ _ => .noted hNotes) hRest

theorem deploy {deployment : DeploymentCall} {rest : ReleasePointer → SupervisorProgram β}
    (hIssued : ∀ w', later w w' → watch.Issues (.deploy deployment) w')
    (hRest : ∀ pointer w', later w w' → Heeds watch (rest pointer) w') :
    Heeds watch (Supervisor.deploy deployment >>= rest) w := by
  refine write hIssued ?_
  intro around w' w'' hLater _
  exact check (fun pointer _ => hRest pointer w'' hLater)

/- The release that is built has the name of its source. -/
theorem buildChecked {candidateId sourceDigest : String}
    {parentReleaseId : Option String} {rest : String → SupervisorProgram β}
    (hRest : ∀ w', later w w' → Heeds watch (rest (names sourceDigest candidateId)) w') :
    Heeds watch (Supervisor.buildChecked candidateId sourceDigest parentReleaseId >>= rest) w := by
  refine write (fun _ _ => .built) ?_
  intro around w' w'' hLater _
  apply check
  intro releaseId hBuilt
  have hName : releaseId = names sourceDigest candidateId := by
    change Except.mapError SupervisorError.release (w'.build names candidateId sourceDigest
        parentReleaseId).1 = _ at hBuilt
    unfold SupervisorWorld.build at hBuilt
    dsimp only at hBuilt
    split at hBuilt
    · cases hBuilt
      rfl
    · split at hBuilt
      · cases hBuilt
        rfl
      · cases hBuilt
  rw [hName]
  exact hRest w'' hLater

end

theorem done (value : α) : Heeds watch (pure value) w := trivial

theorem dropResult {program : SupervisorProgram α}
    (hProgram : Heeds watch program w) : Heeds watch (Supervisor.dropResult program) w :=
  Program.Complies.bind (Program.Complies.mono hProgram (fun _ _ _ => trivial))

end Heeds

section

variable {names : ReleaseNames} {later : SupervisorWorld → SupervisorWorld → Prop}
variable {watch : Watch names later} {w : SupervisorWorld}

theorem foundReleased {v : SupervisorWorld} {candidateId releaseId : String}
    {candidate : EvolutionCandidate} (hFound : v.state.candidate? candidateId = some candidate)
    (hRelease : candidate.releaseId = some releaseId) (hLater : later v w) :
    FoundReleased later w candidateId := by
  obtain ⟨hMem, hId⟩ := mem_of_candidate? hFound
  exact ⟨v, hLater, candidate, hMem, hId, by simp [hRelease]⟩

variable [IsGrowth later]

theorem bootstrap_heeds (bootstrapId sourceDigest : String)
    (gateAccepted : Bool) (hOther : watch.call.promotes = false) :
    Heeds watch (bootstrapStableRelease bootstrapId sourceDigest gateAccepted) w := by
  apply Heeds.requireNoStable
  intro _ _
  apply Heeds.note rfl
  intro _ _ _
  apply Heeds.check
  intro _ _
  apply Heeds.requireNoStable
  intro _ _
  apply Heeds.checkSource
  intro _ _
  apply Heeds.buildChecked
  intro _ _
  apply Heeds.deploy (fun _ _ => .deployed hOther)
  intro _ _ _
  apply Heeds.deploy (fun _ _ => .deployed hOther)
  intro _ _ _
  apply Heeds.deploy (fun _ _ => .deployed hOther)
  intro _ _ _
  exact Heeds.note rfl (fun _ _ _ => Heeds.done _)

theorem startEpoch_heeds (opportunityId epochId : String)
    (budget : EvolutionEpochBudget) : Heeds watch (startEpoch opportunityId budget epochId) w := by
  apply Heeds.check
  intro _ _
  apply Heeds.check
  intro _ _
  apply Heeds.clock
  intro now _ _
  apply Heeds.pointer
  intro _ _
  apply Heeds.check
  intro stable _
  apply Heeds.snapshot
  intro _ _
  apply Heeds.check
  intro _ _
  apply Heeds.check
  intro _ _
  exact Heeds.commit (fun _ _ => .epochStarted) (fun _ _ _ => Heeds.done _)

theorem registerCandidate_heeds (proposal : CandidateProposal)
    (freshId : String) : Heeds watch (registerCandidate proposal freshId) w := by
  apply Heeds.check
  intro _ _
  apply Heeds.snapshot
  intro _ _
  apply Heeds.check
  intro _ _
  apply Heeds.check
  intro _ _
  apply Heeds.ensureCurrentStable
  intro _ _
  apply Heeds.checkSource
  intro _ _
  apply Heeds.check
  intro _ _
  exact Heeds.commit (fun _ _ => .registered) (fun _ _ _ => Heeds.done _)

theorem evaluateInput_heeds (input : EvaluationInput) : Heeds watch (evaluateInput input) w := by
  apply Heeds.check
  intro _ _
  apply Heeds.snapshot
  intro v _
  apply Heeds.check
  intro candidate hFound
  apply Heeds.check
  intro epoch hEpoch
  apply Heeds.check
  intro _ hFrozen
  apply Heeds.clock
  intro now v' hLater
  apply Heeds.check
  intro _ _
  apply Heeds.check
  intro _ hDisclosed
  refine Heeds.commit ?_ (fun _ _ _ => Heeds.done _)
  intro w' hNext
  exact .evaluated (trans_of later hLater hNext) (demand_eq_ok.1 hFound)
    (by simpa using require_eq_ok.1 hFrozen) (demand_eq_ok.1 hEpoch) hDisclosed

theorem recordCase_heeds (candidate : EvolutionCandidate)
    (case : RuntimeEvaluationCase) : Heeds watch (recordCase candidate case) w := by
  apply Heeds.checkSource
  intro _ _
  apply Heeds.note rfl
  intro _ _ _
  exact Heeds.note rfl (fun _ _ _ => Heeds.done _)

theorem evaluateSuite_heeds (suite : SuiteRun) (sourceDigest : String) :
    Heeds watch (evaluateSuite suite sourceDigest) w := by
  apply Heeds.checkSource
  intro _ _
  apply Heeds.snapshot
  intro _ _
  apply Heeds.check
  intro candidate _
  apply Heeds.check
  intro _ _
  apply Heeds.validateFrozenCandidateSource
  intro _ _
  apply Heeds.check
  intro _ _
  apply Heeds.check
  intro _ _
  apply Heeds.check
  intro _ _
  apply Heeds.note rfl
  intro _ _ _
  have hCases : ∀ v, Heeds watch (suite.cases.foldlM (fun _ => recordCase candidate) ()) v :=
    fun v => Program.Complies.foldlM (fun case _ _ _ _ => recordCase_heeds candidate case) trivial
  apply Program.Complies.bind
  refine Program.Complies.mono (hCases _) ?_
  intro _ _ _
  apply Heeds.validateFrozenCandidateSource
  intro _ _
  exact evaluateInput_heeds suite.input

variable (candidateId : String)

theorem buildVerifiedRelease_heeds : Heeds watch (buildVerifiedRelease candidateId) w := by
  apply Heeds.snapshot
  intro _ _
  apply Heeds.check
  intro build _
  apply Heeds.checkSource
  intro _ _
  apply Heeds.check
  intro _ _
  apply Heeds.snapshot
  intro v _
  apply Heeds.check
  intro candidate hFound
  apply Heeds.check
  intro _ hReleasable
  apply Heeds.validateFrozenCandidateSource
  intro v₁ h₁
  apply Heeds.check
  intro _ hDigest
  have hSame : build.sourceDigest = candidate.patchDigest := by simpa using require_eq_ok.1 hDigest
  rw [hSame]
  apply Heeds.buildChecked
  intro v₂ h₂
  refine Heeds.commit ?_ (fun _ _ _ => Heeds.done _)
  intro w' h₃
  refine .released (trans_of later h₁ (trans_of later h₂ h₃)) (demand_eq_ok.1 hFound)
    (passed_of_checkReleasable hReleasable) rfl

theorem preview_heeds (hOther : watch.call.promotes = false) :
    Heeds watch (preview candidateId) w := by
  apply Heeds.candidate
  intro candidate v _ hFound
  apply Heeds.check
  intro _ _
  apply Heeds.check
  intro releaseId hRelease
  apply Heeds.deploy (fun _ _ => .deployed hOther)
  intro _ v₁ h₁
  refine Heeds.commit ?_ (fun _ _ _ => Heeds.done _)
  intro w' h₂
  exact .updated hOther (foundReleased hFound (demand_eq_ok.1 hRelease) (trans_of later h₁ h₂)) rfl

theorem startCanary_heeds (hOther : watch.call.promotes = false) :
    Heeds watch (startCanary candidateId) w := by
  apply Heeds.candidate
  intro candidate v _ hFound
  apply Heeds.check
  intro _ _
  apply Heeds.check
  intro releaseId hRelease
  apply Heeds.deploy (fun _ _ => .deployed hOther)
  intro _ v₁ h₁
  refine Heeds.commit ?_ (fun _ _ _ => Heeds.done _)
  intro w' h₂
  exact .updated hOther (foundReleased hFound (demand_eq_ok.1 hRelease) (trans_of later h₁ h₂)) rfl

theorem recordCanaryObservation_heeds (observation : DeploymentObservation) :
    Heeds watch (recordCanaryObservation observation) w := by
  apply Heeds.check
  intro _ _
  apply Heeds.candidate
  intro candidate _ _ _
  apply Heeds.check
  intro _ _
  exact Heeds.commit (fun _ _ => .observed) (fun _ _ _ => Heeds.done _)

theorem promote_heeds {candidateId reason : String}
    (hCall : watch.call = .promote candidateId reason) :
    Heeds watch (promote candidateId reason) watch.start := by
  obtain ⟨allowed, hGrows, start, call⟩ := watch
  subst hCall
  apply Heeds.candidate
  intro candidate u h₁ hFound
  apply Heeds.check
  intro _ _
  apply Heeds.check
  intro releaseId hRelease
  apply Heeds.pointer
  intro u₁ h₂
  apply Heeds.check
  intro _ _
  apply Heeds.snapshot
  intro v h₃
  apply Heeds.check
  rintro ⟨⟩ hHealthy
  have hChecked : ∀ w', later v w' → PromotionChecked later start w' candidateId releaseId := by
    intro w' hLater
    exact ⟨u, v, candidate, trans_of later h₁ (trans_of later h₂ h₃),
      trans_of later h₂ (trans_of later h₃ hLater), hLater,
      hFound, demand_eq_ok.1 hRelease, hHealthy⟩
  apply Heeds.deploy (fun w' h => .promoted (hChecked w' h))
  intro _ v₁ h₄
  exact Heeds.commit (fun w' h => .promotionNoted (hChecked w' (trans_of later h₄ h)))
    (fun _ _ _ => Heeds.done _)

theorem rollback_heeds (candidateId reason : String)
    (hOther : watch.call.promotes = false) : Heeds watch (rollback candidateId reason) w := by
  apply Heeds.candidate
  intro candidate v _ hFound
  apply Heeds.check
  intro releaseId hRelease
  -- Both ways end in a deployment and the same transaction.
  have hCommit : ∀ pointer v', later v v' → Heeds watch
        (commit (.updateDeployment candidateId .rolledBack .rolledBack) >>= fun _ =>
            (pure pointer : SupervisorProgram ReleasePointer)) v' := by
    intro pointer v' h₁
    refine Heeds.commit ?_ (fun _ _ _ => Heeds.done _)
    intro w' h₂
    exact .updated hOther (foundReleased hFound
      (demand_eq_ok.1 hRelease) (trans_of later h₁ h₂)) rfl
  unfold rollbackRelease
  split
  · unfold rollbackCanary
    simp only [Program.bind_assoc]
    apply Heeds.pointer
    intro v₁ h₁
    apply Heeds.check
    intro _ _
    apply Heeds.deploy (fun _ _ => .deployed hOther)
    intro pointer v₂ h₂
    exact hCommit pointer v₂ (trans_of later h₁ h₂)
  · unfold rollbackStable
    simp only [Program.bind_assoc]
    apply Heeds.pointer
    intro v₁ h₁
    apply Heeds.check
    intro _ _
    apply Heeds.pointer
    intro v₂ h₂
    apply Heeds.check
    intro _ _
    apply Heeds.deploy (fun _ _ => .deployed hOther)
    intro pointer v₃ h₃
    exact hCommit pointer v₃ (trans_of later h₁ (trans_of later h₂ h₃))
  · trivial

/- What is desired is the status of a deployed release. -/
theorem deployment_of_desiredStatus {ids : Release.DeployedIds} {deployments : List Deployment}
    {releaseId : String} {desired : CandidateStatus × EpochStatus}
    (hDesired : desiredStatus ids deployments releaseId = some desired) : desired.1.deployment := by
  unfold desiredStatus at hDesired
  split at hDesired
  · cases hDesired
    rfl
  · split at hDesired
    · cases hDesired
      rfl
    · split at hDesired
      · cases hDesired
        rfl
      · split at hDesired <;> cases hDesired
        rfl

theorem reconcile_heeds : Heeds watch reconcileDeploymentState w := by
  apply Heeds.snapshot
  intro v _
  split
  · exact Heeds.done _
  · apply Heeds.verifyDeploymentLog
    intro v₁ h₁
    apply Heeds.pointer
    intro v₂ h₂
    apply Heeds.pointer
    intro v₃ h₃
    apply Heeds.pointer
    intro v₄ h₄
    change Heeds watch (ite _ _ _) v₄
    split
    · exact Heeds.done _
    · refine Heeds.commit ?_ (fun _ _ _ => Heeds.done _)
      intro w' h₅
      refine .reconciled ?_
      intro update hUpdate
      obtain ⟨candidate, hMem, hOf⟩ := List.mem_filterMap.1 hUpdate
      obtain ⟨releaseId, desired, hRelease, hDesired, -, rfl⟩ := deploymentUpdate_eq_some hOf
      refine ⟨deployment_of_desiredStatus hDesired, v, ?_, candidate, hMem, rfl, by simp [hRelease]⟩
      exact trans_of later h₁ (trans_of later h₂ (trans_of later h₃ (trans_of later h₄ h₅)))

/- Every call issues its commands as they are listed. -/
theorem call_heeds (watch : Watch names later) : Heeds watch watch.call.program watch.start := by
  obtain ⟨allowed, hGrows, start, call⟩ := watch
  cases call with
  | openSupervisor => exact reconcile_heeds
  | bootstrap bootstrapId sourceDigest gateAccepted =>
    exact (bootstrap_heeds bootstrapId sourceDigest gateAccepted rfl).dropResult
  | observe opportunity => exact Heeds.note rfl (fun _ _ _ => Heeds.done _)
  | startEpoch opportunityId budget epochId =>
    exact (startEpoch_heeds opportunityId epochId budget).dropResult
  | registerCandidate proposal freshId =>
    exact (registerCandidate_heeds proposal freshId).dropResult
  | evaluateInput input => exact (evaluateInput_heeds input).dropResult
  | evaluateSuite suite sourceDigest => exact (evaluateSuite_heeds suite sourceDigest).dropResult
  | buildVerifiedRelease candidateId => exact (buildVerifiedRelease_heeds candidateId).dropResult
  | preview candidateId => exact (preview_heeds candidateId rfl).dropResult
  | startCanary candidateId => exact (startCanary_heeds candidateId rfl).dropResult
  | recordCanaryObservation observation =>
    exact (recordCanaryObservation_heeds observation).dropResult
  | promote candidateId reason => exact (promote_heeds rfl).dropResult
  | rollback candidateId reason => exact (rollback_heeds candidateId reason rfl).dropResult
  | enforceDeadlines =>
    refine Heeds.dropResult ?_
    exact Heeds.commit (fun _ _ => .expired) (fun _ _ _ => Heeds.done _)

/-
  In every interleaving that allows its commands the world only gets later, and
  every command is issued as listed.
-/
theorem interleaving_issued {allowed : SupervisorTurn → SupervisorWorld → Prop} (hRoot : later w w)
    (hGrows : Grows names later allowed) {ops : List SupervisorPoolOp}
    (hAllowed : Machine.Guarded (interleave names) (Pool.Permits allowed) ⟨w, []⟩ ops) :
    Machine.Guarded (interleave names)
        (fun s op => later w s.world ∧ s.Permits (IssuedTurn names later) op) ⟨w, []⟩ ops ∧
      later w (Machine.run (interleave names) ⟨w, []⟩ ops).world :=
  @Pool.run_issued _ _ _ _ _ _ _ (handleCommand names) SupervisorCall.program
    (fun w _ => w) later allowed (IssuedTurn names later) _ (fun _ event => event.elim) w hRoot
    (fun call w' _ => call_heeds ⟨allowed, hGrows, w', call⟩) ops hAllowed

end

section

variable {good : SupervisorState → Prop} {next : SupervisorState → SupervisorState → Prop}

/- Worlds with good states, the second one a later one. -/
def GrowsIn (good : SupervisorState → Prop) (next : SupervisorState → SupervisorState → Prop)
    (v w : SupervisorWorld) : Prop :=
  good v.state ∧ good w.state ∧ next v.state w.state

variable [IsPreorder SupervisorState next]

instance growsInIsGrowth : IsGrowth (GrowsIn good next) where
  trans := fun _ _ _ hFirst hThen => ⟨hFirst.1, hThen.2.1, trans_of next hFirst.2.2 hThen.2.2⟩
  here := fun _ w hLater => ⟨hLater.2.1, hLater.2.1, refl_of next w.state⟩

theorem GrowsIn.root {w : SupervisorWorld} (hGood : good w.state) : GrowsIn good next w w :=
  ⟨hGood, hGood, refl_of next w.state⟩

/- Nothing but transactions changes the state. -/
theorem grows_of_transact {names : ReleaseNames} {allowed : SupervisorTurn → SupervisorWorld → Prop}
    (hTransact : ∀ call start transaction now w state, good w.state →
      allowed ⟨call, start, .transact transaction⟩ w →
      Issued names (GrowsIn good next) start w call (.transact transaction) →
      transaction.apply now w.state = .ok state → good state ∧ next w.state state) :
    Grows names (GrowsIn good next) allowed := by
  rintro ⟨call, start, command⟩ around w ⟨hGood, -, -⟩ hAllowed hIssued
  have hSame : ∀ w', w'.state = w.state → GrowsIn good next w w' := by
    intro w' hState
    unfold GrowsIn
    rw [hState]
    exact GrowsIn.root hGood
  match command with
  | .transact transaction =>
    change GrowsIn good next w (w.transact around.now transaction).2
    unfold SupervisorWorld.transact
    split
    · exact hSame _ rfl
    · rename_i state hOk
      exact ⟨hGood, hTransact call start transaction around.now w state hGood hAllowed hIssued hOk⟩
  | .buildRelease _ _ _ => exact hSame _ (build_frame rfl).1
  | .deploy _ => exact hSame _ (deploy_state _ _ _)
  | .snapshot | .pointer _ | .deploymentLog | .checkSource
  | .clock => exact hSame _ rfl

end

end GolutraAgent.Supervisor
