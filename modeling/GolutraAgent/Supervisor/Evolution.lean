import Mathlib.Data.Rat.Defs
import Mathlib.Algebra.Order.Ring.Unbundled.Rat
import GolutraAgent.Library.KeyedList
import GolutraAgent.Supervisor.ControlJournal

/-
  This file defines the state of the evolution supervisor: epochs with their
  budgets, candidates, the archive, the results of the evaluation gate,
  disclosure budgets and canary observations. It also defines the checks that
  the supervisor makes on its input, and the gate itself.

  Counters are numbers that stop at the greatest 32-bit word. The metrics of an
  evaluation are rational numbers, as every finite float is. Fields that no
  function here reads are left out.
-/

namespace GolutraAgent.Supervisor

/- The stages of an epoch, in the order of the source. -/
inductive EpochStatus
| observing
| planning
| generating
| evaluating
| awaitingPromotion
| buildingRelease
| previewing
| canarying
| promoted
| noOpportunity
| noImprovement
| rejected
| budgetExhausted
| inconclusive
| pausedForReview
| rolledBack
deriving DecidableEq, Repr

/- An epoch that is over. -/
def EpochStatus.terminal : EpochStatus → Bool
| .promoted | .noOpportunity | .noImprovement | .rejected | .budgetExhausted | .inconclusive
| .pausedForReview | .rolledBack => true
| _ => false

/- A candidate goes from frozen to promoted or is turned down on the way. -/
inductive CandidateStatus
| frozen
| evaluating
| passed
| rejected
| built
| previewing
| canarying
| promoted
| rolledBack
deriving DecidableEq, Repr

inductive CandidateRisk
| low
| medium
| high
| critical
deriving DecidableEq

inductive GateVerdict
| pass
| fail
| inconclusive
deriving DecidableEq, Repr

/- What an epoch may use, and until when. -/
structure EvolutionEpochBudget where
  maxCandidates : Nat
  maxGenerations : Nat
  maxCostUsd : Rat
  maxLatencyDeltaMs : Int
  maxHoldoutQueries : Nat
  maxCanaryReleases : Nat
  deadline : Timestamp
deriving DecidableEq

structure EvolutionOpportunity where
  opportunityId : String
  sourceVersion : String
  failureCluster : String

/- One attempt at an opportunity, with all that it has used up. -/
structure EvolutionEpoch where
  epochId : String
  opportunityId : String
  parentReleaseId : Option String
  budget : EvolutionEpochBudget
  status : EpochStatus
  candidateIds : List String
  generationCount : Nat
  holdoutQueries : Nat
  createdAt : Timestamp
  completedAt : Option Timestamp
  terminalReason : Option String
deriving DecidableEq

/- A change of the source under evaluation, and its release once it is built. -/
structure EvolutionCandidate where
  candidateId : String
  epochId : String
  opportunityId : String
  patchDigest : String
  riskLevel : CandidateRisk
  status : CandidateStatus
  releaseId : Option String
  trustedBuild : Bool
  createdAt : Timestamp
deriving DecidableEq

structure CandidateArchiveEntry where
  candidateId : String
  lineageParentIds : List String
  buildDigest : Option String
  status : CandidateStatus

/- The verdicts on a candidate, one for each gate. -/
structure GeneralizationGateResult where
  candidateId : String
  developmentVerdict : GateVerdict
  sealedVerdict : GateVerdict
  freshVerdict : GateVerdict
  securityVerdict : GateVerdict
  migrationVerdict : GateVerdict
  verdict : GateVerdict
  rejectionReasons : List String

/- The queries that the candidates of an opportunity share. -/
structure DisclosureBudget where
  budgetId : String
  candidateFamilyId : String
  maximumQueries : Nat
  queryCount : Nat
  aggregateFeedbackCount : Nat
  exactFeedbackCount : Nat
  exhaustedAt : Option Timestamp

/- How a release did as a canary. -/
structure DeploymentObservation where
  candidateId : String
  releaseId : String
  sampleCount : Nat
  taskFailureRateMilli : Int
  rollbackSignal : Bool
  securityViolation : Bool
  costDeltaMilliUsd : Int
  latencyDeltaMs : Int
deriving DecidableEq

structure TrustedEvaluationBuild where
  candidateId : String
  sourceDigest : String

/- All that a transaction may change. -/
structure SupervisorState where
  epochs : List EvolutionEpoch
  opportunities : List EvolutionOpportunity
  candidates : List EvolutionCandidate
  gateResults : List GeneralizationGateResult
  archive : List CandidateArchiveEntry
  disclosureBudgets : List DisclosureBudget
  deploymentObservations : List DeploymentObservation
  evaluationBuilds : List TrustedEvaluationBuild
  bootstrapBuilds : List String

namespace SupervisorState

def empty : SupervisorState := ⟨[], [], [], [], [], [], [], [], []⟩

def candidate? (state : SupervisorState) (candidateId : String) : Option EvolutionCandidate :=
  state.candidates.find? (·.candidateId = candidateId)

def epoch? (state : SupervisorState) (epochId : String) : Option EvolutionEpoch :=
  state.epochs.find? (·.epochId = epochId)

def opportunity? (state : SupervisorState) (opportunityId : String) : Option EvolutionOpportunity :=
  state.opportunities.find? (·.opportunityId = opportunityId)

def budget? (state : SupervisorState) (budgetId : String) : Option DisclosureBudget :=
  state.disclosureBudgets.find? (·.budgetId = budgetId)

end SupervisorState

theorem mem_of_candidate? {state : SupervisorState} {candidateId : String}
    {candidate : EvolutionCandidate} (hFind : state.candidate? candidateId = some candidate) :
    candidate ∈ state.candidates ∧ candidate.candidateId = candidateId :=
  ⟨List.mem_of_find?_eq_some hFind, by simpa using List.find?_some hFind⟩

def maxText : Nat := 2048

/- Identifiers are parts of paths. -/
def validateId (value name : String) : Except SupervisorError Unit :=
  if Text.isBlank value || 256 < value.utf8ByteSize || value.toList.contains '/' ||
      value.toList.contains '\\' || Text.contains ".." value || value.toList.any Text.isSpace then
    .error (.invalid (name ++ " is not a safe identifier"))
  else .ok ()

/- Counts are bounded; one candidate and one generation are the least. -/
def validateBudget (budget : EvolutionEpochBudget) : Except SupervisorError Unit :=
  if budget.maxCandidates = 0 ∨ 32 < budget.maxCandidates ∨
      budget.maxGenerations = 0 ∨ 64 < budget.maxGenerations ∨
      16 < budget.maxHoldoutQueries ∨ 4 < budget.maxCanaryReleases ∨
      budget.maxLatencyDeltaMs < 0 ∨ budget.maxCostUsd < 0 then
    .error (.invalid "evolution budget is outside the safe bounds")
  else .ok ()

/- What a producer asks to be registered. -/
structure CandidateProposal where
  candidateId : Option String
  epochId : String
  producerVersion : String
  sourceCommit : String
  patchDigest : String
  targetPaths : List String
  changeClass : String
  generationModel : String
  generationConfigDigest : String
  riskLevel : CandidateRisk
  rollbackPlan : String

/- A field of a proposal has text, and not too much. -/
def checkText (name value : String) : Except SupervisorError Unit :=
  if Text.isBlank value || maxText < value.utf8ByteSize then
    .error (.invalid ("candidate " ++ name ++ " is empty or too large"))
  else .ok ()

def validateCandidateProposal (proposal : CandidateProposal) : Except SupervisorError Unit := do
  validateId proposal.epochId "epoch_id"
  [("producer_version", proposal.producerVersion), ("source_commit", proposal.sourceCommit),
    ("patch_digest", proposal.patchDigest), ("change_class", proposal.changeClass),
    ("generation_model", proposal.generationModel),
    ("generation_config_digest", proposal.generationConfigDigest),
    ("rollback_plan", proposal.rollbackPlan)].forM (fun field => checkText field.1 field.2)
  if 256 < proposal.targetPaths.length then
    .error (.invalid "candidate target path count exceeds the limit")
  else if Text.contains "none" (String.ofList (proposal.rollbackPlan.toList.map Char.toLower)) then
    .error (.gateRejected "candidate must provide a rollback plan")
  else .ok ()

structure EvaluationInput where
  candidateId : String
  pairedExecutionRefs : List String
  developmentVerdict : GateVerdict
  securityVerdict : GateVerdict
  migrationVerdict : GateVerdict
  sealedVerdict : GateVerdict
  freshVerdict : GateVerdict
  qualityDelta : Rat
  costDeltaUsd : Rat
  latencyDeltaMs : Int
  holdoutQueries : Nat
  exactFeedbackExposed : Bool
  evidenceRefs : List String

/- Where a trace of an execution may be found. -/
def durableRef (ref : String) : Bool := Text.startsWith "runtime://" ref ||
    Text.startsWith "execution://" ref || Text.startsWith "artifact://regression-trace/" ref ||
    Text.startsWith "artifact://supervisor-evaluation/" ref

def validateEvaluationInput (input : EvaluationInput) : Except SupervisorError Unit := do
  validateId input.candidateId "candidate_id"
  if input.pairedExecutionRefs.length < 2 ∨ input.pairedExecutionRefs.any Text.isBlank then
    .error (.gateRejected "evaluation requires distinct baseline and candidate execution refs")
  else if input.pairedExecutionRefs.dedup.length < 2 then
    .error (.gateRejected "baseline and candidate execution refs must differ")
  else if input.pairedExecutionRefs.any (fun ref => !durableRef ref) then
    .error (.gateRejected "paired execution refs must point to durable runtime execution traces")
  else if input.evidenceRefs = [] then
    .error (.gateRejected "evaluation requires durable evidence refs")
  else .ok ()

def validateCanaryObservation (observation : DeploymentObservation) :
    Except SupervisorError Unit := do
  validateId observation.candidateId "candidate_id"
  validateId observation.releaseId "release_id"
  if observation.sampleCount = 0 then
    .error (.invalid "canary observation sample_count must be positive")
  else .ok ()

/- Any signal, or a rate beyond its threshold. -/
def deploymentObservationUnhealthy (observation : DeploymentObservation) : Bool :=
  observation.rollbackSignal || observation.securityViolation || 200 <
    observation.taskFailureRateMilli || 100 < observation.costDeltaMilliUsd || 5000 <
    observation.latencyDeltaMs

/- A reason for each gate that is not passed and each limit exceeded. -/
def rejectionReasons (input : EvaluationInput) (budget : EvolutionEpochBudget) : List String :=
  [("development", input.developmentVerdict), ("security", input.securityVerdict),
    ("migration", input.migrationVerdict), ("sealed", input.sealedVerdict),
    ("fresh", input.freshVerdict)].filterMap (fun gate =>
      if gate.2 ≠ .pass then some (gate.1 ++ " gate is " ++ Text.debugName gate.2) else none) ++
  (if input.qualityDelta ≤ 0 then ["candidate has no measured quality improvement"] else []) ++
  (if input.exactFeedbackExposed then
    ["sealed evaluator exposed exact feedback to candidate"] else []) ++
  (if budget.maxCostUsd < input.costDeltaUsd then
    ["candidate cost delta exceeds epoch budget"] else []) ++
  (if budget.maxLatencyDeltaMs < input.latencyDeltaMs then
    ["candidate latency delta exceeds epoch budget"] else [])

/- One failed gate or exceeded limit fails the candidate. -/
def gateVerdict (input : EvaluationInput) (budget : EvolutionEpochBudget) : GateVerdict :=
  if input.developmentVerdict = .fail ∨ input.securityVerdict = .fail ∨
      input.migrationVerdict = .fail ∨ input.sealedVerdict = .fail ∨ input.freshVerdict = .fail ∨
      input.qualityDelta ≤ 0 ∨ input.exactFeedbackExposed ∨
      budget.maxCostUsd < input.costDeltaUsd ∨
      budget.maxLatencyDeltaMs < input.latencyDeltaMs then .fail
  else if [input.developmentVerdict, input.securityVerdict, input.migrationVerdict,
      input.sealedVerdict, input.freshVerdict].contains .inconclusive then .inconclusive
  else .pass

def buildGateResult (input : EvaluationInput)
    (budget : EvolutionEpochBudget) : GeneralizationGateResult where
  candidateId := input.candidateId
  developmentVerdict := input.developmentVerdict
  sealedVerdict := input.sealedVerdict
  freshVerdict := input.freshVerdict
  securityVerdict := input.securityVerdict
  migrationVerdict := input.migrationVerdict
  verdict := gateVerdict input budget
  rejectionReasons := rejectionReasons input budget

/- The gate passes what it has no reason to reject. -/
theorem buildGateResult_pass (input : EvaluationInput) (budget : EvolutionEpochBudget) :
    (buildGateResult input budget).verdict = .pass ↔
      (buildGateResult input budget).rejectionReasons = [] := by
  have hVerdict : ∀ verdict : GateVerdict, verdict = .pass ↔
      verdict ≠ .fail ∧ verdict ≠ .inconclusive := by
    intro verdict
    cases verdict <;> simp
  -- both sides say that every verdict is a pass and that no limit is exceeded
  have hReasons : rejectionReasons input budget = [] ↔
      (input.developmentVerdict = .pass ∧ input.securityVerdict = .pass ∧
        input.migrationVerdict = .pass ∧ input.sealedVerdict = .pass ∧
        input.freshVerdict = .pass) ∧ ¬ input.qualityDelta ≤ 0 ∧ ¬ input.exactFeedbackExposed ∧
        ¬ budget.maxCostUsd < input.costDeltaUsd ∧
        ¬ budget.maxLatencyDeltaMs < input.latencyDeltaMs := by
    simp only [rejectionReasons, List.append_eq_nil_iff, and_assoc, List.filterMap_eq_nil_iff,
      List.forall_mem_cons, ite_eq_right_iff, reduceCtorEq, imp_false, not_not,
      List.not_mem_nil, false_imp_iff, implies_true, true_and]
  simp only [buildGateResult, hReasons, gateVerdict, hVerdict]
  split_ifs with hFail hOpen <;> grind

inductive RuntimeEvaluationPartition
| development
| security
| migration
| sealed
| fresh
deriving DecidableEq

structure CompletedExecution where
  passed : Bool
  elapsedMs : Nat
  evidenceRef : String

/- A case of a suite, with how its two executions ended. -/
structure RuntimeEvaluationCase where
  partition : RuntimeEvaluationPartition
  baseline : CompletedExecution
  candidate : CompletedExecution

/- The paired executions of a suite on a candidate. -/
structure SuiteRun where
  candidateId : String
  cases : List RuntimeEvaluationCase

/- A partition without cases proves nothing. -/
def partitionVerdict (cases : List RuntimeEvaluationCase)
    (partition : RuntimeEvaluationPartition) : GateVerdict :=
  let matching := cases.filter (·.partition = partition)
  if matching = [] then .inconclusive
  else if matching.all (·.candidate.passed) then .pass
  else .fail

/- A sum of milliseconds, as a signed 64-bit number. -/
def totalLatency (executions : List CompletedExecution) : Int :=
  min (executions.foldl (fun total execution => min (total + execution.elapsedMs) (2 ^ 64 - 1)) 0)
    (2 ^ 63 - 1)

def passes (executions : List CompletedExecution) : Nat :=
  (executions.filter CompletedExecution.passed).length

/- What a suite comes to as the input of the gate. -/
def SuiteRun.input (suite : SuiteRun) : EvaluationInput :=
  let baseline := suite.cases.map (·.baseline)
  let candidate := suite.cases.map (·.candidate)
  let refs := suite.cases.flatMap (fun item =>
    [item.baseline.evidenceRef, item.candidate.evidenceRef])
  { candidateId := suite.candidateId
    pairedExecutionRefs := refs
    developmentVerdict := partitionVerdict suite.cases .development
    securityVerdict := partitionVerdict suite.cases .security
    migrationVerdict := partitionVerdict suite.cases .migration
    sealedVerdict := partitionVerdict suite.cases .sealed
    freshVerdict := partitionVerdict suite.cases .fresh
    qualityDelta := ((passes candidate : Rat) - passes baseline) / suite.cases.length
    costDeltaUsd := 0
    latencyDeltaMs := totalLatency candidate - totalLatency baseline
    holdoutQueries := (suite.cases.filter (·.partition = .sealed)).length
    exactFeedbackExposed := false
    evidenceRefs := refs }

end GolutraAgent.Supervisor
