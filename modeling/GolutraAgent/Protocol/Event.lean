import GolutraAgent.Core.Records
import GolutraAgent.Core.Runtime
import GolutraAgent.Library.Text

/-
  This file defines the runtime events of the protocol, the commands of a
  session and the state projection of a session. An event is immutable once
  appended; everything else the agent keeps about a session is derived from its
  events.
-/

namespace GolutraAgent

inductive RuntimeEventType
| commandReceived
| commandCompleted
| commandAccepted
| commandRejected
| sessionCreated
| threadForked
| threadRebound
| threadRenamed
| threadArchived
| threadDeleted
| taskCreated
| turnStarted
| stepStarted
| stepCompleted
| stepCheckpointed
| turnQueued
| turnUpdated
| turnCancelled
| busyPolicyDecided
| controllerChanged
| contextBuilt
| providerStarted
| providerStreamed
| providerCompleted
| providerFailed
| tokenUsageRecorded
| assistantMessage
| userStep
| toolStarted
| toolProgress
| toolCompleted
| processUpdated
| subagentUpdated
| policyEvaluated
| verificationCompleted
| loopDecided
| checkpointCreated
| taskCompleted
| taskAbortRequested
| taskAborted
| taskInterrupted
| taskUncertain
| taskReconciled
| taskPaused
| taskResumed
| approvalRequested
| approvalResolved
| userQuestionRequested
| userQuestionResolved
| retryScheduled
| providerFallback
| providerTransportFallback
| providerAuthRequired
| providerAuthSubmitted
| providerAuthCancelled
| providerConfigured
| providerProbeStarted
| providerProbeCompleted
| providerAuthFailed
| providerRateLimited
| providerCredentialRefreshed
| loopGuardTriggered
| compactionStarted
| compactionCompleted
| compactionFailed
| memoryRetrieved
| memoryPromoted
| memoryPromotionRejected
| memoryRolledBack
| memoryFeedbackRecorded
| postTaskReviewed
| evaluationCompleted
| improvementCandidateCreated
| automationCandidateCreated
| candidatePatchFrozen
| regressionBlocked
| regressionCompleted
| promotionDecided
| candidateApplied
| candidateRolledBack
| benchmarkRecorded
| counterfactualCompared
| evolutionPlanned
| evolutionTaskStarted
| evolutionTaskCompleted
| evolutionCompleted
| skillStaged
| skillReviewed
| skillInstalled
| skillRolledBack
| governorDecided
| storageMaintenanceCompleted
| contextSnapshotCreated
| postTaskJobQueued
| postTaskJobStarted
| postTaskJobCompleted
| postTaskJobFailed
| postTaskStageFailed
| verificationPlanned
| verificationAssertionCompleted
| continuationDecided
| regressionCampaignStarted
| regressionExecutionCompleted
| memoryCandidateQuarantined
| memoryActivated
| memoryInvalidated
| failureDiagnosed
| failureEpisodeRecorded
| diagnosticSliceCreated
| replayCapsuleCreated
| replayExecuted
| externalEvaluationIngested
| externalEvaluationCompared
| candidateReady
| verificationReady
| externalVerificationRequested
| externalVerificationFeedback
deriving DecidableEq, Repr

inductive RuntimeEventSource
| runtime
| provider
| tool
| policy
| verifier
| memory
| evaluator
| governor
| evolution
| user

namespace RuntimeEventType

/- Facts shown to the user as progress. -/
def isUserProjectionFact : RuntimeEventType → Bool
| .taskCreated | .turnStarted | .turnQueued | .turnUpdated | .turnCancelled | .taskCompleted
| .taskAbortRequested | .taskAborted | .taskInterrupted | .taskUncertain | .taskReconciled
| .taskPaused | .taskResumed | .approvalRequested | .approvalResolved | .userQuestionRequested
| .userQuestionResolved | .providerStarted | .providerCompleted | .providerFailed
| .providerFallback | .providerTransportFallback | .providerAuthRequired | .providerAuthSubmitted
| .providerAuthCancelled | .providerRateLimited | .assistantMessage | .userStep | .toolStarted
| .toolProgress | .processUpdated | .subagentUpdated | .toolCompleted | .verificationCompleted
| .loopDecided | .retryScheduled | .compactionStarted | .compactionCompleted | .compactionFailed
| .continuationDecided | .candidateReady | .verificationReady
| .externalVerificationRequested => true
| _ => false

def isTaskTerminal : RuntimeEventType → Bool
| .taskCompleted | .taskAborted | .taskInterrupted | .taskUncertain => true
| _ => false

def forTerminalStatus : TaskStatus → RuntimeEventType
| .cancelled => .taskAborted
| .interrupted => .taskInterrupted
| .uncertain => .taskUncertain
| _ => .taskCompleted

end RuntimeEventType

inductive CausalRelation
| parent
| triggeredBy
| respondsTo
| derivedFrom
| verifies
| compares
| supersedes

structure CausalLink where
  eventId : EventId
  relation : CausalRelation

structure CausalContext where
  runId : Option RunId
  workspaceId : Option WorkspaceId
  sessionId : Option SessionId
  taskId : Option TaskId
  turnId : Option TurnId
  stepId : Option String
  stepNo : Option Nat
  providerRoundId : Option String
  providerRequestId : Option ProviderRequestId
  providerResponseId : Option ProviderResponseId
  providerToolCallId : Option String
  toolCallId : Option ToolCallId
  verificationId : Option VerificationId
  candidateId : Option String
  regressionCampaignId : Option RegressionCampaignId

namespace CausalContext

def empty : CausalContext := ⟨none, none, none, none, none, none, none, none, none,
    none, none, none, none, none, none⟩

end CausalContext

/- The version of the events that this runtime writes. -/
def runtimeEventSchemaVersion : Nat := 3

structure RuntimeEvent where
  schemaVersion : Nat
  id : EventId
  sequenceNo : Nat
  sessionId : SessionId
  turnId : Option TurnId
  taskId : Option TaskId
  parentEventId : Option EventId
  causalContext : CausalContext
  causalLinks : List CausalLink
  eventType : RuntimeEventType
  timestamp : Timestamp
  source : RuntimeEventSource
  payload : Json.Value
  payloadRef : Option ArtifactId
  durable : Bool

inductive SessionCommandKind
| create
| renameThread
| archiveThread
| deleteThread
| prompt
| updateQueuedTurn
| cancelQueuedTurn
| approve
| deny
| answerQuestion
| pause
| resume
| abort
| reconcileTask
| takeover
| compact
| memoryRollback
| memoryFeedback
| runRegression
| reviewCandidate
| applyCandidate
| rollbackCandidate
| recordBenchmark
| ingestExternalEvaluation
| compareCounterfactual
| planEvolution
| runEvolution
| stageSkill
| reviewSkill
| installSkill
| rollbackSkill
| providerConfigured
| providerAuthSubmitted
| providerAuthCancelled
| runStorageMaintenance
| waitPostTaskJob
| retryPostTaskJob
| runRegressionCampaign
| reviewMemoryCandidate
| expireMemory
| verify
| replay
| export
deriving DecidableEq, Repr

structure SessionCommand where
  commandId : CommandId
  sessionId : Option SessionId
  kind : SessionCommandKind
  idempotencyKey : String
  actor : Actor
  payload : Json.Value
  timestamp : Timestamp

structure CommandAck where
  commandId : CommandId
  accepted : Bool
  reason : Option String
deriving DecidableEq

structure VisibleStep where
  label : String
  status : String
  summary : String

structure StateProjection where
  sessionId : SessionId
  activeTaskId : Option TaskId
  taskStatus : TaskStatus
  runtimeLane : Option RuntimeLane
  lastSequenceNo : Nat
  visibleSteps : List VisibleStep
  pendingApproval : Option String
  finalMessage : Option String
  lastLoopDecision : Option LoopDecision
  lastVerification : Option VerificationRecord

/- The status that the payload of an event names. -/
def eventTaskStatus (event : RuntimeEvent) : Option TaskStatus :=
  (event.payload.get "status").bind TaskStatus.codec.decode

/- Where the payload names a status, it may come first. -/
def taskStatusAfterEvent (current : TaskStatus) (event : RuntimeEvent) : TaskStatus :=
  match event.eventType with
  | .taskCreated | .turnStarted | .taskResumed => .running
  | .taskCompleted => (eventTaskStatus event).getD .completed
  | .taskAbortRequested => .aborting
  | .taskAborted => (eventTaskStatus event).getD .cancelled
  | .taskInterrupted => .interrupted
  | .taskUncertain => .uncertain
  | .taskReconciled => (eventTaskStatus event).getD .interrupted
  | .taskPaused => .paused
  | .approvalRequested => .waitingApproval
  | .approvalResolved =>
    if current = .waitingApproval then .running
    else current
  | .providerAuthRequired => .waitingAuthentication
  | .providerAuthSubmitted =>
    if current = .waitingAuthentication then .running
    else current
  | .providerAuthCancelled => .blocked
  | _ => current

end GolutraAgent
