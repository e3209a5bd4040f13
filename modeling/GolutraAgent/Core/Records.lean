import GolutraAgent.Core.Ids

/-
  This file defines the records of the core crate: artifacts with the evidence
  that refers to them, the jobs that run after a task has ended, and what a
  projection keeps from the verifier and from the loop controller. They are read
  from the payload of an event, and nothing here writes them.
-/

namespace GolutraAgent

inductive RedactionStatus
| raw
| redacted
| notRequired
deriving DecidableEq

structure ArtifactRecord where
  artifactId : ArtifactId
  sessionId : SessionId
  turnId : Option TurnId
  toolCallId : Option ToolCallId
  artifactType : String
  uri : String
  checksum : String
  sizeBytes : Nat
  createdAt : Timestamp
  producer : String
  redactionStatus : RedactionStatus
  retentionPolicy : String
  provenanceRefs : List EventId
deriving DecidableEq

inductive EvidenceStrength
| weak
| medium
| strong
deriving DecidableEq

/- The confidence is given by the bits of its float. -/
structure EvidenceRecord where
  evidenceId : EvidenceId
  claim : String
  artifactRefs : List ArtifactId
  sourceEventRefs : List EventId
  evidenceStrength : EvidenceStrength
  verifier : String
  confidence : BitVec 32
  limitations : String
deriving DecidableEq

inductive ToolResultStatus
| ok
| error
| blocked
| cancelled
| timeout

def ToolResultStatus.decode (value : Json.Value) : Option ToolResultStatus :=
  value.variant [("ok", .ok), ("error", .error), ("blocked", .blocked), ("cancelled", .cancelled),
    ("timeout", .timeout)]

structure ToolResultEnvelope where
  toolCallId : ToolCallId
  toolName : String
  status : ToolResultStatus
  summary : String
  structuredFacts : Json.Value
  modelVisibleExcerpt : Option String
  rawArtifactRef : Option ArtifactId
  evidenceRefs : List EvidenceId
  risk : String
  verificationHint : Option String

def ToolResultEnvelope.decode (value : Json.Value) : Option ToolResultEnvelope := do
  let toolCallId ← value.required "tool_call_id" Id.codec.decode
  let toolName ← value.required "tool_name" Json.Value.asStr
  let status ← value.required "status" ToolResultStatus.decode
  let summary ← value.required "summary" Json.Value.asStr
  let structuredFacts ← value.get "structured_facts"
  let modelVisibleExcerpt ← value.optional "model_visible_excerpt" Json.Value.asStr
  let rawArtifactRef ← value.optional "raw_artifact_ref" Id.codec.decode
  let evidenceRefs ← value.required "evidence_refs" Id.codec.list.decode
  let risk ← value.required "risk" Json.Value.asStr
  let verificationHint ← value.optional "verification_hint" Json.Value.asStr
  return {
    toolCallId, toolName, status, summary, structuredFacts,
    modelVisibleExcerpt, rawArtifactRef, evidenceRefs, risk,
    verificationHint }

inductive PostTaskJobKind
| deepEvaluation
| candidateGeneration
| regressionExecution
deriving DecidableEq

inductive PostTaskJobStatus
| queued
| leased
| running
| succeeded
| failed
| cancelled
deriving DecidableEq

structure PostTaskJob where
  jobId : PostTaskJobId
  kind : PostTaskJobKind
  workspaceId : String
  sessionId : String
  taskId : TaskId
  inputRefs : List String
  status : PostTaskJobStatus
  attempt : Nat
  maxAttempts : Nat
  leaseOwner : Option String
  leaseExpiresAt : Option Timestamp
  resultRefs : List String
  lastError : Option String
  createdAt : Timestamp
  startedAt : Option Timestamp
  completedAt : Option Timestamp

namespace PostTaskJob

variable (job : PostTaskJob)

def isLeased : Bool := job.status = .leased || job.status = .running

def isTerminal : Bool := job.status = .succeeded || job.status = .failed || job.status = .cancelled

/- The lease of a job is over at an instant. -/
def hasExpired (now : Timestamp) : Bool := job.leaseExpiresAt.any (·.nanos ≤ now.nanos)

end PostTaskJob

/- A list of strings. -/
def decodeStrings (value : Json.Value) : Option (List String) := Json.Codec.string.list.decode value

inductive VerificationResult
| pass
| fail
| partialOutcome
| unknown

def VerificationResult.decode (value : Json.Value) : Option VerificationResult :=
  value.variant [("pass", .pass), ("fail", .fail), ("partial", .partialOutcome),
    ("unknown", .unknown)]

inductive VerificationSource
| runtime
| externalVerifier
| mixed

def VerificationSource.decode (value : Json.Value) : Option VerificationSource :=
  value.variant [("runtime", .runtime), ("external_verifier", .externalVerifier), ("mixed", .mixed)]

inductive VerificationIndependence
| unspecified
| runtimeEvidence
| independent

def VerificationIndependence.decode (value : Json.Value) : Option VerificationIndependence :=
  value.variant [("unspecified", .unspecified), ("runtime_evidence", .runtimeEvidence),
    ("independent", .independent)]

inductive VerificationCheckKind
| toolExecution
| workspaceChange
| objectiveValidation
| assistantResponse
| schema
| policy

def VerificationCheckKind.decode (value : Json.Value) : Option VerificationCheckKind :=
  value.variant [("tool_execution", .toolExecution), ("workspace_change", .workspaceChange),
    ("objective_validation", .objectiveValidation), ("assistant_response", .assistantResponse),
    ("schema", .schema), ("policy", .policy)]

structure VerificationCheck where
  kind : VerificationCheckKind
  name : String
  command : Option String
  passed : Bool
  evidenceRefs : List EvidenceId
  message : String

/- The kind of a check recorded before kinds were. -/
def inferLegacyVerificationCheckKind (name : String) : VerificationCheckKind :=
  if name = "assistant_response" then .assistantResponse
  else if name.startsWith "output_schema" then .schema
  else if name = "workspace_diff" then .workspaceChange
  else if name.startsWith "objective:" then .objectiveValidation
  else if name.startsWith "tool:" then .toolExecution
  else if name.startsWith "policy:" then .policy
  else .objectiveValidation

def VerificationCheck.decode (value : Json.Value) : Option VerificationCheck := do
  let kind ← value.optional "kind" VerificationCheckKind.decode
  let name ← value.required "name" Json.Value.asStr
  let command ← value.optional "command" Json.Value.asStr
  let passed ← value.required "passed" Json.Value.asBool
  let evidenceRefs ← value.required "evidence_refs" Id.codec.list.decode
  let message ← value.required "message" Json.Value.asStr
  return {
    kind := kind.getD (inferLegacyVerificationCheckKind name)
    name, command, passed, evidenceRefs, message }

inductive VerificationAssertionKind
| fileState
| diff
| commandExit
| test
| diagnostic
| schema
| policy
| delivery
| assistantResponse

def VerificationAssertionKind.decode (value : Json.Value) : Option VerificationAssertionKind :=
  value.variant [("file_state", .fileState), ("diff", .diff), ("command_exit", .commandExit),
    ("test", .test), ("diagnostic", .diagnostic), ("schema", .schema), ("policy", .policy),
    ("delivery", .delivery), ("assistant_response", .assistantResponse)]

inductive VerificationAssertionStatus
| pending
| pass
| fail
| unknown
| notApplicable

def VerificationAssertionStatus.decode (value : Json.Value) : Option VerificationAssertionStatus :=
  value.variant [("pending", .pending), ("pass", .pass), ("fail", .fail), ("unknown", .unknown),
    ("not_applicable", .notApplicable)]

structure VerificationAssertion where
  assertionId : VerificationAssertionId
  criterionId : String
  kind : VerificationAssertionKind
  subject : String
  expected : String
  verifierId : String
  requiredEvidenceStrength : String
  blocking : Bool
  status : VerificationAssertionStatus
  evidenceRefs : List EvidenceId
  message : String

def VerificationAssertion.decode (value : Json.Value) : Option VerificationAssertion := do
  let assertionId ← value.required "assertion_id" Id.codec.decode
  let criterionId ← value.required "criterion_id" Json.Value.asStr
  let kind ← value.required "kind" VerificationAssertionKind.decode
  let subject ← value.required "subject" Json.Value.asStr
  let expected ← value.required "expected" Json.Value.asStr
  let verifierId ← value.required "verifier_id" Json.Value.asStr
  let requiredEvidenceStrength ← value.required "required_evidence_strength" Json.Value.asStr
  let blocking ← value.required "blocking" Json.Value.asBool
  let status ← value.required "status" VerificationAssertionStatus.decode
  let evidenceRefs ← value.required "evidence_refs" Id.codec.list.decode
  let message ← value.required "message" Json.Value.asStr
  return {
    assertionId, criterionId, kind, subject, expected,
    verifierId, requiredEvidenceStrength, blocking, status,
    evidenceRefs, message }

structure VerificationRecord where
  verificationId : VerificationId
  taskId : TaskId
  objective : String
  completionCriteria : List String
  checks : List VerificationCheck
  evidenceRefs : List EvidenceId
  result : VerificationResult
  policyStatus : String
  residualRisks : List String
  planId : Option VerificationPlanId
  assertions : List VerificationAssertion
  source : VerificationSource
  independence : VerificationIndependence
  environmentDigest : Option String

def VerificationRecord.decode (value : Json.Value) : Option VerificationRecord := do
  let verificationId ← value.required "verification_id" Id.codec.decode
  let taskId ← value.required "task_id" Id.codec.decode
  let objective ← value.required "objective" Json.Value.asStr
  let completionCriteria ← value.required "completion_criteria" decodeStrings
  let checks ← value.required "checks" (fun checks =>
      checks.asArray.bind (·.mapM VerificationCheck.decode))
  let evidenceRefs ← value.required "evidence_refs" Id.codec.list.decode
  let result ← value.required "result" VerificationResult.decode
  let policyStatus ← value.required "policy_status" Json.Value.asStr
  let residualRisks ← value.required "residual_risks" decodeStrings
  let planId ← value.optional "plan_id" Id.codec.decode
  let assertions ←
    value.defaulted "assertions" [] (fun assertions =>
      assertions.asArray.bind (·.mapM VerificationAssertion.decode))
  let source ← value.defaulted "source" .runtime VerificationSource.decode
  let independence ← value.defaulted "independence" .unspecified VerificationIndependence.decode
  let environmentDigest ← value.optional "environment_digest" Json.Value.asStr
  return {
    verificationId, taskId, objective, completionCriteria,
    checks, evidenceRefs, result, policyStatus,
    residualRisks, planId, assertions, source, independence,
    environmentDigest }

inductive LoopAction
| continueLoop
| compact
| retry
| fallback
| askUser
| verify
| stopSuccess
| stopPartial
| stopFailed
| blocked

def LoopAction.decode (value : Json.Value) : Option LoopAction :=
  value.variant [("continue", .continueLoop), ("compact", .compact), ("retry", .retry),
    ("fallback", .fallback), ("ask_user", .askUser), ("verify", .verify),
    ("stop_success", .stopSuccess), ("stop_partial", .stopPartial), ("stop_failed", .stopFailed),
    ("blocked", .blocked)]

structure BudgetState where
  plannedInputTokens : Option Nat
  actualInputTokens : Option Nat
  outputTokens : Option Nat
  totalTokens : Option Nat
  estimatedCost : Option String
  budgetRemaining : Option Nat
  compactRecommended : Bool
  costRisk : String

def BudgetState.decode (value : Json.Value) : Option BudgetState := do
  let plannedInputTokens ← value.optional "planned_input_tokens" Json.Value.asU64
  let actualInputTokens ← value.optional "actual_input_tokens" Json.Value.asU64
  let outputTokens ← value.optional "output_tokens" Json.Value.asU64
  let totalTokens ← value.optional "total_tokens" Json.Value.asU64
  let estimatedCost ← value.optional "estimated_cost" Json.Value.asStr
  let budgetRemaining ← value.optional "budget_remaining" Json.Value.asU64
  let compactRecommended ← value.required "compact_recommended" Json.Value.asBool
  let costRisk ← value.required "cost_risk" Json.Value.asStr
  return {
    plannedInputTokens, actualInputTokens, outputTokens,
    totalTokens, estimatedCost, budgetRemaining,
    compactRecommended, costRisk }

structure LoopDecision where
  decisionId : LoopDecisionId
  taskId : TaskId
  turnId : TurnId
  action : LoopAction
  reason : String
  evidenceRefs : List EvidenceId
  verificationRef : Option VerificationId
  policyRef : Option PolicyId
  budgetState : BudgetState
  toolState : String
  modelState : String
  nextStep : Option String

def LoopDecision.decode (value : Json.Value) : Option LoopDecision := do
  let decisionId ← value.required "decision_id" Id.codec.decode
  let taskId ← value.required "task_id" Id.codec.decode
  let turnId ← value.required "turn_id" Id.codec.decode
  let action ← value.required "action" LoopAction.decode
  let reason ← value.required "reason" Json.Value.asStr
  let evidenceRefs ← value.required "evidence_refs" Id.codec.list.decode
  let verificationRef ← value.optional "verification_ref" Id.codec.decode
  let policyRef ← value.optional "policy_ref" Id.codec.decode
  let budgetState ← value.required "budget_state" BudgetState.decode
  let toolState ← value.required "tool_state" Json.Value.asStr
  let modelState ← value.required "model_state" Json.Value.asStr
  let nextStep ← value.optional "next_step" Json.Value.asStr
  return {
    decisionId, taskId, turnId, action, reason, evidenceRefs,
    verificationRef, policyRef, budgetState, toolState,
    modelState, nextStep }

end GolutraAgent
