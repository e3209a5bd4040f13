import GolutraAgent.Supervisor.EvolutionTransactions

/-
  This file models the operations of the evolution supervisor as programs over
  two stores: the state of the supervisor, and the releases with their pointers
  and deployment log. Each command is atomic: a snapshot of the state, a
  transaction on it, a pointer, the deployment log, a release that is built, a
  deployment. What an operation read before may be stale when it writes.

  A release is named by a digest of its source and of the candidate. Whether
  source trees and build artifacts are as they should be is decided outside of
  the model, as is the clock. An input or output error counts as a crash of the
  process.
-/

namespace GolutraAgent.Supervisor

open Release (ReleaseError ReleasePointer PointerName Pointers
  Deployment DeploymentCall DeploymentPhase)

/- What a release was built from. -/
structure BuiltRelease where
  releaseId : String
  candidateId : String
  sourceDigest : String
  parentReleaseId : Option String
deriving DecidableEq

/- The state, and the release store next to it. -/
structure SupervisorWorld where
  state : SupervisorState
  pointers : Pointers
  deployments : List Deployment
  releases : List BuiltRelease

def SupervisorWorld.empty : SupervisorWorld := ⟨.empty, .empty, [], []⟩

/- The name of a release, from digest and candidate. -/
abbrev ReleaseNames := String → String → String

/- What a command finds outside of the two stores. -/
structure Surroundings where
  now : Timestamp
  source : Except SupervisorError Unit

/- What a transaction found, and what it left. -/
structure Committed where
  found : SupervisorState
  left : SupervisorState

/- Between two commands of a process others may run. -/
inductive SupervisorCommand
| snapshot
| pointer (name : PointerName)
| deploymentLog
| buildRelease (candidateId sourceDigest : String) (parentReleaseId : Option String)
| deploy (call : DeploymentCall)
| transact (transaction : Transaction)
| checkSource
| clock

def SupervisorCommand.Answer : SupervisorCommand → Type
| .snapshot => SupervisorState
| .pointer _ => Option ReleasePointer
| .deploymentLog => List Deployment
| .buildRelease _ _ _ => Except ReleaseError String
| .deploy _ => Except ReleaseError ReleasePointer
| .transact _ => Except SupervisorError Committed
| .checkSource => Except SupervisorError Unit
| .clock => Timestamp

def supervisorInterface : Interface where
  Command := SupervisorCommand
  Answer := SupervisorCommand.Answer

namespace SupervisorWorld

def release? (w : SupervisorWorld) (releaseId : String) : Option BuiltRelease :=
  w.releases.find? (·.releaseId = releaseId)

def ensureManifest (w : SupervisorWorld) : Release.Manifests :=
  fun releaseId =>
    match w.release? releaseId with
    | some _ => .ok ()
    | none => .error (.notFound releaseId)

/- A release that exists must be of the same request. -/
def build (names : ReleaseNames) (w : SupervisorWorld) (candidateId sourceDigest : String)
    (parentReleaseId : Option String) : Except ReleaseError String × SupervisorWorld :=
  let release : BuiltRelease := ⟨names sourceDigest candidateId, candidateId,
      sourceDigest, parentReleaseId⟩
  match w.release? release.releaseId with
  | none => (.ok release.releaseId, { w with releases := w.releases ++ [release] })
  | some known =>
    if known = release then (.ok release.releaseId, w)
    else (.error (.integrity "release manifest does not match the trusted build source"), w)

variable (now : Timestamp) (w : SupervisorWorld)

def deploy (call : DeploymentCall) : Except ReleaseError ReleasePointer × SupervisorWorld :=
  match call.checkReason with
  | .error error => (.error error, w)
  | .ok () =>
    match call.plan w.ensureManifest now w.pointers with
    | .error error => (.error error, w)
    | .ok (pointer, deployment) =>
      (.ok pointer, { w with
        pointers := deployment.pointers
        deployments := w.deployments ++ [deployment] })

def transact (transaction : Transaction) : Except SupervisorError Committed × SupervisorWorld :=
  match transaction.apply now w.state with
  | .error error => (.error error, w)
  | .ok state => (.ok ⟨w.state, state⟩, { w with state := state })

end SupervisorWorld

def SupervisorCommand.handle (names : ReleaseNames) (command : SupervisorCommand)
    (around : Surroundings) (w : SupervisorWorld) : command.Answer × SupervisorWorld :=
  match command with
  | .snapshot => (w.state, w)
  | .pointer name => (w.pointers.get name, w)
  | .deploymentLog => (w.deployments, w)
  | .buildRelease candidateId sourceDigest parentReleaseId =>
    w.build names candidateId sourceDigest parentReleaseId
  | .deploy call => w.deploy around.now call
  | .transact transaction => w.transact around.now transaction
  | .checkSource => (around.source, w)
  | .clock => (around.now, w)

abbrev SupervisorProgram := Program supervisorInterface SupervisorError

def snapshot : SupervisorProgram SupervisorState :=
  @Program.call supervisorInterface _ SupervisorCommand.snapshot

def pointer (name : PointerName) : SupervisorProgram (Option ReleasePointer) :=
  @Program.call supervisorInterface _ (SupervisorCommand.pointer name)

def verifyDeploymentLog : SupervisorProgram (List Deployment) :=
  @Program.call supervisorInterface _ SupervisorCommand.deploymentLog

def clock : SupervisorProgram Timestamp :=
  @Program.call supervisorInterface _ SupervisorCommand.clock

def checkSource : SupervisorProgram Unit := do
  let found ← @Program.call supervisorInterface _ SupervisorCommand.checkSource
  Program.ofExcept found

def buildChecked (candidateId sourceDigest : String) (parentReleaseId : Option String) :
    SupervisorProgram String := do
  let built ← @Program.call supervisorInterface _
    (SupervisorCommand.buildRelease candidateId sourceDigest parentReleaseId)
  Program.ofExcept (Except.mapError SupervisorError.release built)

def deploy (call : DeploymentCall) : SupervisorProgram ReleasePointer := do
  let deployed ← @Program.call supervisorInterface _ (SupervisorCommand.deploy call)
  Program.ofExcept (Except.mapError SupervisorError.release deployed)

def commit (transaction : Transaction) : SupervisorProgram Committed := do
  let committed ← @Program.call supervisorInterface _ (SupervisorCommand.transact transaction)
  Program.ofExcept committed

/- A check, with the error of the other case. -/
def require (condition : Bool) (error : SupervisorError) : Except SupervisorError Unit :=
  if condition then .ok () else .error error

def demand {α : Type} (found : Option α) (error : SupervisorError) : Except SupervisorError α :=
  match found with
  | some value => .ok value
  | none => .error error

variable (state : SupervisorState)

def SupervisorState.getCandidate (candidateId : String) :
    Except SupervisorError EvolutionCandidate :=
  demand (state.candidate? candidateId) (.notFound ("candidate " ++ candidateId))

def SupervisorState.getEpoch (epochId : String) : Except SupervisorError EvolutionEpoch :=
  demand (state.epoch? epochId) (.notFound ("epoch " ++ epochId))

def candidate (candidateId : String) : SupervisorProgram EvolutionCandidate := do
  let state ← snapshot
  Program.ofExcept (state.getCandidate candidateId)

/- The parent of a candidate has to be the stable release. -/
def ensureCurrentStable (expectedReleaseId : String) : SupervisorProgram Unit := do
  let found ← pointer .stable
  let stable ← Program.ofExcept (demand found
    (.invalidTransition "evolution requires a bootstrapped stable release"))
  Program.ofExcept (require (stable.releaseId = expectedReleaseId)
    (.gateRejected ("candidate parent " ++
      expectedReleaseId ++ " is stale relative to stable release " ++ stable.releaseId)))

def validateFrozenCandidateSource (candidate : EvolutionCandidate) : SupervisorProgram Unit := do
  let state ← snapshot
  let parent ← Program.ofExcept (demand
    ((state.epoch? candidate.epochId).bind EvolutionEpoch.parentReleaseId)
    (.integrity "frozen candidate has no parent release binding"))
  ensureCurrentStable parent
  checkSource

def requireNoStable (message : String) : SupervisorProgram Unit := do
  let stable ← pointer .stable
  Program.ofExcept (require stable.isNone (.invalidTransition message))

/- The build of the source is reported to the call. -/
def bootstrapStableRelease (bootstrapId sourceDigest : String)
    (gateAccepted : Bool) : SupervisorProgram String := do
  requireNoStable "a stable release is already bootstrapped"
  let _ ← commit (.recordBootstrapBuild bootstrapId)
  Program.ofExcept (require gateAccepted (.gateRejected
    "bootstrap requires a passed OS-enforced trusted build"))
  requireNoStable "another process bootstrapped the stable release"
  checkSource
  let releaseId ← buildChecked bootstrapId sourceDigest none
  let _ ← deploy (.setPreview releaseId)
  let _ ← deploy (.startCanary releaseId)
  let _ ← deploy (.promote releaseId "initial trusted bootstrap")
  let _ ← commit .bootstrapStable
  return releaseId

/- A trace has shown an opportunity for improvement. -/
def observe (opportunity : EvolutionOpportunity) : SupervisorProgram Unit := do
  let _ ← commit (.identifyOpportunity opportunity)
  return ()

/- A deadline that has passed is put off by a minute. -/
def EvolutionEpochBudget.extend (budget : EvolutionEpochBudget)
    (now : Timestamp) : EvolutionEpochBudget :=
  if budget.deadline.nanos ≤ now.nanos then { budget with deadline := ⟨now.nanos + 60000000000⟩ }
  else budget

def newEpoch (epochId opportunityId parentReleaseId : String)
    (budget : EvolutionEpochBudget) (now : Timestamp) : EvolutionEpoch where
  epochId := epochId
  opportunityId := opportunityId
  parentReleaseId := some parentReleaseId
  budget := budget
  status := .generating
  candidateIds := []
  generationCount := 0
  holdoutQueries := 0
  createdAt := now
  completedAt := none
  terminalReason := none

def startEpoch (opportunityId : String) (budget : EvolutionEpochBudget) (epochId : String) :
    SupervisorProgram EvolutionEpoch := do
  Program.ofExcept (validateId opportunityId "opportunity_id")
  Program.ofExcept (validateBudget budget)
  let now ← clock
  let found ← pointer .stable
  let stable ← Program.ofExcept (demand found
    (.invalidTransition "evolution requires a bootstrapped stable release"))
  let state ← snapshot
  let opportunity ← Program.ofExcept (demand (state.opportunity? opportunityId)
    (.notFound ("opportunity " ++ opportunityId)))
  Program.ofExcept (require (opportunity.sourceVersion = stable.releaseId)
    (.gateRejected ("opportunity source " ++
      opportunity.sourceVersion ++ " is stale relative to stable release " ++ stable.releaseId)))
  let epoch := newEpoch epochId opportunityId stable.releaseId (budget.extend now) now
  let _ ← commit (.startEpoch epoch)
  return epoch

/- The second argument is the identifier made up for it. -/
def registerCandidate (proposal : CandidateProposal) (freshId : String) :
    SupervisorProgram (Option EvolutionCandidate) := do
  Program.ofExcept (validateCandidateProposal proposal)
  let state ← snapshot
  let epoch ← Program.ofExcept (state.getEpoch proposal.epochId)
  let parent ← Program.ofExcept (demand epoch.parentReleaseId
    (.invalidTransition "candidate registration requires a bootstrapped stable release"))
  ensureCurrentStable parent
  checkSource
  let candidateId := proposal.candidateId.getD freshId
  Program.ofExcept (validateId candidateId "candidate_id")
  let committed ← commit (.proposeCandidate candidateId proposal)
  return committed.left.candidate? candidateId

def checkFrozen (candidate : EvolutionCandidate)
    (error : String → SupervisorError) : Except SupervisorError Unit :=
  require (candidate.status = .frozen) (error ("candidate " ++ candidate.candidateId ++ " is " ++
      Text.debugName candidate.status ++ ", not frozen"))

/- The limit of the epoch, on a snapshot of it. -/
def checkDisclosure (epoch : EvolutionEpoch) (queries : Nat) : Except SupervisorError Unit :=
  require (queries ≤ epoch.budget.maxHoldoutQueries ∧
      saturatingAddU32 epoch.holdoutQueries queries ≤ epoch.budget.maxHoldoutQueries)
    (.budgetExhausted "sealed holdout disclosure budget exhausted")

/- The checks are made on a snapshot, and the result is recorded later. -/
def evaluateInput (input : EvaluationInput) : SupervisorProgram GeneralizationGateResult := do
  Program.ofExcept (validateEvaluationInput input)
  let state ← snapshot
  let candidate ← Program.ofExcept (state.getCandidate input.candidateId)
  let epoch ← Program.ofExcept (state.getEpoch candidate.epochId)
  Program.ofExcept (checkFrozen candidate .invalid)
  let now ← clock
  Program.ofExcept (require (now.nanos ≤ epoch.budget.deadline.nanos)
    (.budgetExhausted "evolution epoch deadline exceeded"))
  Program.ofExcept (checkDisclosure epoch input.holdoutQueries)
  let gate := buildGateResult input epoch.budget
  let _ ← commit (.completeGate candidate.epochId input gate)
  return gate

/- The two executions of a case are recorded one by one. -/
def recordCase (candidate : EvolutionCandidate)
    (_ : RuntimeEvaluationCase) : SupervisorProgram Unit := do
  checkSource
  let _ ← commit (.completePairedExecution candidate.epochId candidate.candidateId)
  let _ ← commit (.completePairedExecution candidate.epochId candidate.candidateId)
  return ()

/- The digest is that of the source the build worked on. -/
def evaluateSuite (suite : SuiteRun) (sourceDigest : String) :
    SupervisorProgram GeneralizationGateResult := do
  checkSource
  let state ← snapshot
  let candidate ← Program.ofExcept (state.getCandidate suite.candidateId)
  Program.ofExcept (checkFrozen candidate .invalidTransition)
  validateFrozenCandidateSource candidate
  let epoch ← Program.ofExcept (state.getEpoch candidate.epochId)
  let _ ← Program.ofExcept (demand epoch.parentReleaseId
    (.invalidTransition "runtime candidate evaluation requires a bootstrapped stable release"))
  Program.ofExcept (require (sourceDigest = candidate.patchDigest)
    (.gateRejected "candidate evaluation build did not pass the trusted build gate"))
  let _ ← commit (.completeEvaluationBuild candidate.epochId ⟨candidate.candidateId, sourceDigest⟩)
  suite.cases.foldlM (fun _ => recordCase candidate) ()
  validateFrozenCandidateSource candidate
  evaluateInput suite.input

def checkReleasable (candidate : EvolutionCandidate) : Except SupervisorError Unit := do
  require (candidate.status = .passed) (.gateRejected ("candidate " ++ candidate.candidateId ++
      " has not passed the generalization gate"))
  require (candidate.riskLevel ≠ .high ∧ candidate.riskLevel ≠ .critical)
    (.gateRejected "high-risk runtime code requires human release review")

def buildReleaseFromReport (candidateId sourceDigest : String) : SupervisorProgram String := do
  Program.ofExcept (validateId candidateId "candidate_id")
  let state ← snapshot
  let candidate ← Program.ofExcept (state.getCandidate candidateId)
  Program.ofExcept (checkReleasable candidate)
  validateFrozenCandidateSource candidate
  Program.ofExcept (require (sourceDigest = candidate.patchDigest)
    (.integrity "trusted build report does not match the frozen candidate"))
  let parent := (state.epoch? candidate.epochId).bind EvolutionEpoch.parentReleaseId
  let releaseId ← buildChecked candidateId sourceDigest parent
  let _ ← commit (.buildRelease candidateId candidate.epochId releaseId sourceDigest)
  return releaseId

/- The first build recorded for the candidate is released. -/
def buildVerifiedRelease (candidateId : String) : SupervisorProgram String := do
  let state ← snapshot
  let build ← Program.ofExcept (demand
    (state.evaluationBuilds.find? (·.candidateId = candidateId))
    (.gateRejected "release requires the trusted build used by paired evaluation"))
  checkSource
  buildReleaseFromReport candidateId build.sourceDigest

def releaseIdOf (candidate : EvolutionCandidate)
    (message : String) : Except SupervisorError String :=
  demand candidate.releaseId (.integrity message)

/- The release store is changed first, and the state after it. -/
def preview (candidateId : String) : SupervisorProgram ReleasePointer := do
  let candidate ← candidate candidateId
  Program.ofExcept (require (candidate.status = .built && candidate.trustedBuild)
    (.invalidTransition "preview requires an OS-enforced trusted build"))
  let releaseId ← Program.ofExcept (releaseIdOf candidate "built candidate has no release id")
  let pointer ← deploy (.setPreview releaseId)
  let _ ← commit (.updateDeployment candidateId .previewing .previewing)
  return pointer

def startCanary (candidateId : String) : SupervisorProgram ReleasePointer := do
  let candidate ← candidate candidateId
  Program.ofExcept (require (candidate.status = .previewing)
    (.invalidTransition "canary requires a previewing candidate"))
  let releaseId ← Program.ofExcept (releaseIdOf candidate "previewing candidate has no release id")
  let pointer ← deploy (.startCanary releaseId)
  let _ ← commit (.updateDeployment candidateId .canarying .canarying)
  return pointer

def recordCanaryObservation (observation : DeploymentObservation) : SupervisorProgram Bool := do
  Program.ofExcept (validateCanaryObservation observation)
  let candidate ← candidate observation.candidateId
  Program.ofExcept (require (candidate.status = .canarying &&
      candidate.releaseId = some observation.releaseId)
    (.invalidTransition "observation does not belong to the active canary"))
  let _ ← commit (.recordObservation candidate.epochId observation)
  return deploymentObservationUnhealthy observation

/- The pointer must be there, and name the release. -/
def checkOwned (found : Option ReleasePointer) (releaseId missing other : String) :
    Except SupervisorError Unit := do
  let pointer ← demand found (.invalidTransition missing)
  require (pointer.releaseId = releaseId) (.invalidTransition other)

def SupervisorState.observationsOf (state : SupervisorState)
    (candidateId releaseId : String) : List DeploymentObservation :=
  state.deploymentObservations.filter (fun observation =>
    observation.candidateId = candidateId ∧ observation.releaseId = releaseId)

/- At least one observation, and all of them healthy. -/
def checkHealthy (observations : List DeploymentObservation) : Except SupervisorError Unit := do
  require (observations ≠ []) (.gateRejected
    "promotion requires a canary health observation for the current release")
  require (!observations.any deploymentObservationUnhealthy)
    (.gateRejected "promotion is blocked by an unhealthy canary observation")

/- Nothing that was read here is read again at the commit. -/
def promote (candidateId reason : String) : SupervisorProgram ReleasePointer := do
  let candidate ← candidate candidateId
  Program.ofExcept (require (candidate.status = .canarying)
    (.invalidTransition "promotion requires a canarying candidate"))
  let releaseId ← Program.ofExcept (releaseIdOf candidate "canarying candidate has no release id")
  let canary ← pointer .canary
  Program.ofExcept (checkOwned canary releaseId
    "promotion requires the candidate to own the active canary pointer"
    "promotion candidate does not own the active canary pointer")
  let state ← snapshot
  Program.ofExcept (checkHealthy (state.observationsOf candidateId releaseId))
  let pointer ← deploy (.promote releaseId reason)
  let _ ← commit (.updateDeployment candidateId .promoted .promoted)
  return pointer

variable (releaseId reason : String)

def rollbackCanary : SupervisorProgram ReleasePointer := do
  let canary ← pointer .canary
  Program.ofExcept (checkOwned canary releaseId
    "rollback requires the candidate to own the active canary pointer"
    "rollback candidate does not own the active canary pointer")
  deploy (.cancelCanary releaseId reason)

/- A stable release is rolled back only while no canary runs. -/
def rollbackStable : SupervisorProgram ReleasePointer := do
  let canary ← pointer .canary
  Program.ofExcept (require canary.isNone
    (.invalidTransition "an active canary must be rolled back before the stable release"))
  let stable ← pointer .stable
  Program.ofExcept (checkOwned stable releaseId
    "rollback requires the candidate to own the stable pointer"
    "rollback candidate does not own the stable pointer")
  deploy (.rollback reason)

/- Only a canary or a promoted release is rolled back. -/
def rollbackRelease (status : CandidateStatus) (releaseId reason : String) :
    SupervisorProgram ReleasePointer :=
  match status with
  | .canarying => rollbackCanary releaseId reason
  | .promoted => rollbackStable releaseId reason
  | _ =>
    Program.fail (.invalidTransition "rollback requires the current canary or promoted candidate")

def rollback (candidateId reason : String) : SupervisorProgram ReleasePointer := do
  let candidate ← candidate candidateId
  let releaseId ← Program.ofExcept (releaseIdOf candidate "candidate has no release id")
  let pointer ← rollbackRelease candidate.status releaseId reason
  let _ ← commit (.updateDeployment candidateId .rolledBack .rolledBack)
  return pointer

/- The number of the epochs that it ends. -/
def enforceDeadlines : SupervisorProgram Nat := do
  let committed ← commit .enforceDeadlines
  return ((committed.found.epochs.zip committed.left.epochs).filter
      (fun epochs => epochs.1 ≠ epochs.2)).length

variable (pointers : Release.DeployedIds) (deployments : List Deployment)

/- What the pointers and the log say of a release. -/
def desiredStatus (releaseId : String) : Option (CandidateStatus × EpochStatus) :=
  if pointers.canary = some releaseId then some (.canarying, .canarying)
  else if pointers.preview = some releaseId then some (.previewing, .previewing)
  else if pointers.stable = some releaseId then some (.promoted, .promoted)
  else if deployments.any (fun record =>
      record.phase = .rolledBack ∧ record.previousReleaseId = some releaseId) then
    some (.rolledBack, .rolledBack)
  else none

/- What the log of deployments implies, where the status differs. -/
def deploymentUpdate (candidate : EvolutionCandidate) : Option DeploymentUpdate := do
  let releaseId ← candidate.releaseId
  let desired ← desiredStatus pointers deployments releaseId
  if candidate.status ≠ desired.1 then
    some ⟨candidate.candidateId, candidate.epochId, desired.1, desired.2⟩
  else none

/- The pointers are read one after the other. -/
def readDeployed : SupervisorProgram Release.DeployedIds := do
  let preview ← pointer .preview
  let canary ← pointer .canary
  let stable ← pointer .stable
  return {
    stable := stable.map ReleasePointer.releaseId
    previousStable := none
    preview := preview.map ReleasePointer.releaseId
    canary := canary.map ReleasePointer.releaseId }

/- What is done whenever a supervisor is opened. -/
def reconcileDeploymentState : SupervisorProgram Unit := do
  let state ← snapshot
  if state.candidates = [] then return ()
  else
    let deployments ← verifyDeploymentLog
    let pointers ← readDeployed
    let updates := state.candidates.filterMap (deploymentUpdate pointers deployments)
    if updates = [] then return ()
    else
      let _ ← commit (.reconcile updates)
      return ()

/- The operations of the supervisor. -/
inductive SupervisorCall
| openSupervisor
| bootstrap (bootstrapId sourceDigest : String) (gateAccepted : Bool)
| observe (opportunity : EvolutionOpportunity)
| startEpoch (opportunityId : String) (budget : EvolutionEpochBudget) (epochId : String)
| registerCandidate (proposal : CandidateProposal) (freshId : String)
| evaluateInput (input : EvaluationInput)
| evaluateSuite (suite : SuiteRun) (sourceDigest : String)
| buildVerifiedRelease (candidateId : String)
| preview (candidateId : String)
| startCanary (candidateId : String)
| recordCanaryObservation (observation : DeploymentObservation)
| promote (candidateId reason : String)
| rollback (candidateId reason : String)
| enforceDeadlines

/- Go on without the result. -/
def dropResult {α : Type} (program : SupervisorProgram α) : SupervisorProgram Unit := do
  let _ ← program
  return ()

def SupervisorCall.program : SupervisorCall → SupervisorProgram Unit
| .openSupervisor => reconcileDeploymentState
| .bootstrap bootstrapId sourceDigest gateAccepted =>
  dropResult (bootstrapStableRelease bootstrapId sourceDigest gateAccepted)
| .observe opportunity => Supervisor.observe opportunity
| .startEpoch opportunityId budget epochId =>
  dropResult (Supervisor.startEpoch opportunityId budget epochId)
| .registerCandidate proposal freshId => dropResult (Supervisor.registerCandidate proposal freshId)
| .evaluateInput input => dropResult (Supervisor.evaluateInput input)
| .evaluateSuite suite sourceDigest => dropResult (Supervisor.evaluateSuite suite sourceDigest)
| .buildVerifiedRelease candidateId => dropResult (Supervisor.buildVerifiedRelease candidateId)
| .preview candidateId => dropResult (Supervisor.preview candidateId)
| .startCanary candidateId => dropResult (Supervisor.startCanary candidateId)
| .recordCanaryObservation observation =>
  dropResult (Supervisor.recordCanaryObservation observation)
| .promote candidateId reason => dropResult (Supervisor.promote candidateId reason)
| .rollback candidateId reason => dropResult (Supervisor.rollback candidateId reason)
| .enforceDeadlines => dropResult Supervisor.enforceDeadlines

theorem require_eq_ok {condition : Bool} {error : SupervisorError} :
    require condition error = .ok () ↔ condition = true := by
  unfold require
  split <;> simp_all

theorem demand_eq_ok {α : Type} {found : Option α} {error : SupervisorError}
    {value : α} : demand found error = .ok value ↔ found = some value := by
  cases found <;> simp [demand]

theorem checkOwned_eq_ok {found : Option ReleasePointer} {releaseId missing other : String} :
    checkOwned found releaseId missing other = .ok () ↔
      found.map ReleasePointer.releaseId = some releaseId := by
  cases found with
  | none => simp [checkOwned, demand, bind, Except.bind]
  | some pointer => simp [checkOwned, demand, bind, Except.bind, require_eq_ok]

variable {candidate : EvolutionCandidate}

/- A candidate that is released has passed the gate. -/
theorem passed_of_checkReleasable
    (hReleasable : checkReleasable candidate = .ok ()) : candidate.status = .passed := by
  obtain ⟨⟨⟩, hPassed, -⟩ := Transaction.bind_eq_ok.1 hReleasable
  simpa [require_eq_ok] using hPassed

theorem deploymentUpdate_eq_some {ids : Release.DeployedIds}
    {deployments : List Deployment} {update : DeploymentUpdate}
    (hUpdate : deploymentUpdate ids deployments candidate = some update) :
    ∃ releaseId desired, candidate.releaseId = some releaseId ∧
        desiredStatus ids deployments releaseId = some desired ∧ candidate.status ≠ desired.1 ∧
        update = ⟨candidate.candidateId, candidate.epochId, desired.1, desired.2⟩ := by
  obtain ⟨releaseId, hRelease, hUpdate⟩ := Option.bind_eq_some_iff.1 hUpdate
  obtain ⟨desired, hDesired, hUpdate⟩ := Option.bind_eq_some_iff.1 hUpdate
  split at hUpdate
  · rename_i hStatus
    cases hUpdate
    exact ⟨releaseId, desired, hRelease, hDesired, hStatus, rfl⟩
  · cases hUpdate

/- No observation of a healthy release is unhealthy. -/
theorem healthy_of_checkHealthy {observations : List DeploymentObservation}
    (hHealthy : checkHealthy observations = .ok ()) :
    ∀ observation ∈ observations, deploymentObservationUnhealthy observation = false := by
  obtain ⟨⟨⟩, -, hAll⟩ := Transaction.bind_eq_ok.1 hHealthy
  simpa [require_eq_ok] using hAll

/- A build touches nothing but the releases. -/
theorem build_frame {names : ReleaseNames} {w w' : SupervisorWorld}
    {candidateId sourceDigest : String} {built : Except ReleaseError String}
    {parentReleaseId : Option String}
    (hBuild : w.build names candidateId sourceDigest parentReleaseId = (built, w')) :
    w'.state = w.state ∧ w'.pointers = w.pointers ∧ w'.deployments = w.deployments := by
  unfold SupervisorWorld.build at hBuild
  dsimp only at hBuild
  split at hBuild
  · cases hBuild
    exact ⟨rfl, rfl, rfl⟩
  · split at hBuild <;> cases hBuild <;> exact ⟨rfl, rfl, rfl⟩

end GolutraAgent.Supervisor
