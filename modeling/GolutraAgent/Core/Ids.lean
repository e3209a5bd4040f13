import GolutraAgent.Library.Uuid

/-
  This file defines the identifiers of the agent: one newtype over a UUID for
  each kind of thing that is named. Fresh identifiers are never generated here;
  an operation of the source that calls `TurnId::new()` takes the new identifier
  as an argument. So does one that reads the clock, with the instant.
-/

namespace GolutraAgent

inductive IdKind
| workspace
| run
| thread
| session
| task
| turn
| command
| event
| lane
| toolCall
| artifact
| evidence
| verification
| policy
| providerRequest
| providerResponse
| loopDecision
| postTaskJob
| verificationPlan
| verificationAssertion
| regressionCampaign
| checkpoint
| memory
| memoryCandidate

structure Id (kind : IdKind) where
  uuid : Uuid
deriving DecidableEq

instance (kind : IdKind) : LawfulBEq (Id kind) := inferInstance

abbrev WorkspaceId := Id .workspace
abbrev RunId := Id .run
abbrev ThreadId := Id .thread
abbrev SessionId := Id .session
abbrev TaskId := Id .task
abbrev TurnId := Id .turn
abbrev CommandId := Id .command
abbrev EventId := Id .event
abbrev LaneId := Id .lane
abbrev ToolCallId := Id .toolCall
abbrev ArtifactId := Id .artifact
abbrev CheckpointId := Id .checkpoint
abbrev EvidenceId := Id .evidence
abbrev MemoryId := Id .memory
abbrev MemoryCandidateId := Id .memoryCandidate
abbrev VerificationId := Id .verification
abbrev PolicyId := Id .policy
abbrev ProviderRequestId := Id .providerRequest
abbrev ProviderResponseId := Id .providerResponse
abbrev LoopDecisionId := Id .loopDecision
abbrev PostTaskJobId := Id .postTaskJob
abbrev VerificationPlanId := Id .verificationPlan
abbrev VerificationAssertionId := Id .verificationAssertion
abbrev RegressionCampaignId := Id .regressionCampaign

namespace Id

variable {kind : IdKind}

/- An identifier is printed as its UUID. -/
def toText (id : Id kind) : String := id.uuid.toText

def ofText (text : String) : Option (Id kind) := (Uuid.ofText text).map Id.mk

def codec : Json.Codec (Id kind) := Json.Codec.wrap Uuid.codec Id.mk Id.uuid (fun _ => rfl)

end Id

/- An instant, in nanoseconds since the epoch. -/
structure Timestamp where
  nanos : Int
deriving DecidableEq

end GolutraAgent
