import GolutraAgent.Library.Renaming
import GolutraAgent.Protocol.Event

/-
  This file renames the UUIDs in the values of the protocol: in identifiers, in
  texts that read as UUIDs, and in lanes, records and projections built from
  them. What a client reads from a renamed payload is what it reads from the
  payload, renamed.
-/

namespace GolutraAgent

open Json (Equivariant)
open Uuid (renameText)

variable (ρ : Uuid → Uuid)

variable {kind : IdKind}

def Id.rename (id : Id kind) : Id kind := ⟨ρ id.uuid⟩

theorem Id.equivariant_codec :
    Equivariant (renameText ρ) (Id.codec : Json.Codec (Id kind)).decode (Id.rename ρ) := by
  intro value
  change (Uuid.codec.decode _).map Id.mk = ((Uuid.codec.decode value).map Id.mk).map (Id.rename ρ)
  rw [Uuid.equivariant_codec ρ value, Option.map_map, Option.map_map]
  rfl

theorem Id.equivariant_list :
    Equivariant (renameText ρ) (Id.codec : Json.Codec (Id kind)).list.decode
      (List.map (Id.rename ρ)) :=
  (Id.equivariant_codec ρ).array

theorem equivariant_decodeStrings :
    Equivariant (renameText ρ) decodeStrings (List.map (renameText ρ)) :=
  (Equivariant.asStr _).array

theorem TaskStatus.equivariant_codec : Equivariant (renameText ρ) TaskStatus.codec.decode id :=
  Uuid.equivariant_variant rfl ρ

theorem ActorKind.equivariant_codec : Equivariant (renameText ρ) ActorKind.codec.decode id :=
  Uuid.equivariant_variant rfl ρ

theorem BusyPolicy.equivariant_codec : Equivariant (renameText ρ) BusyPolicy.codec.decode id :=
  Uuid.equivariant_variant rfl ρ

def Actor.rename (actor : Actor) : Actor := { actor with id := renameText ρ actor.id }

theorem Actor.equivariant_codec :
    Equivariant (renameText ρ) Actor.codec.decode (Actor.rename ρ) := by
  intro value
  apply (ActorKind.equivariant_codec ρ).bind_required
  intro kind
  apply (Equivariant.asStr _).bind_required
  intro id
  rfl

def RuntimeLane.rename (lane : RuntimeLane) : RuntimeLane where
  laneId := lane.laneId.rename ρ
  workspaceId := lane.workspaceId.rename ρ
  sessionId := lane.sessionId.rename ρ
  taskId := lane.taskId.rename ρ
  activeTurnId := lane.activeTurnId.map (Id.rename ρ)
  activeController := lane.activeController.rename ρ
  status := lane.status
  pendingTurns := lane.pendingTurns.map (Id.rename ρ)
  injectedInputs := lane.injectedInputs.map (Id.rename ρ)
  busyPolicyDefault := lane.busyPolicyDefault

theorem RuntimeLane.equivariant_decode :
    Equivariant (renameText ρ) RuntimeLane.decode (RuntimeLane.rename ρ) := by
  intro value
  apply (Id.equivariant_codec ρ).bind_required
  intro laneId
  apply (Id.equivariant_codec ρ).bind_required
  intro workspaceId
  apply (Id.equivariant_codec ρ).bind_required
  intro sessionId
  apply (Id.equivariant_codec ρ).bind_required
  intro taskId
  apply (Id.equivariant_codec ρ).bind_optional
  intro activeTurnId
  apply (Actor.equivariant_codec ρ).bind_required
  intro activeController
  apply (TaskStatus.equivariant_codec ρ).bind_required
  intro status
  apply (Id.equivariant_list ρ).bind_required
  intro pendingTurns
  apply (Id.equivariant_list ρ).bind_required
  intro injectedInputs
  apply (BusyPolicy.equivariant_codec ρ).bind_required
  intro busyPolicyDefault
  rfl

theorem VerificationResult.equivariant_decode :
    Equivariant (renameText ρ) VerificationResult.decode id :=
  Uuid.equivariant_variant rfl ρ

theorem VerificationSource.equivariant_decode :
    Equivariant (renameText ρ) VerificationSource.decode id :=
  Uuid.equivariant_variant rfl ρ

theorem VerificationIndependence.equivariant_decode :
    Equivariant (renameText ρ) VerificationIndependence.decode id :=
  Uuid.equivariant_variant rfl ρ

theorem VerificationCheckKind.equivariant_decode :
    Equivariant (renameText ρ) VerificationCheckKind.decode id :=
  Uuid.equivariant_variant rfl ρ

theorem VerificationAssertionKind.equivariant_decode :
    Equivariant (renameText ρ) VerificationAssertionKind.decode id :=
  Uuid.equivariant_variant rfl ρ

theorem VerificationAssertionStatus.equivariant_decode :
    Equivariant (renameText ρ) VerificationAssertionStatus.decode id :=
  Uuid.equivariant_variant rfl ρ

/- The name of a legacy check does not read as a UUID. -/
theorem inferLegacy_of_ofText {name : String} {uuid : Uuid} (hRead : Uuid.ofText name = some uuid) :
    inferLegacyVerificationCheckKind name = .objectiveValidation := by
  have hNot : ∀ other, Uuid.ofText other = none → name ≠ other := by
    rintro other hOther rfl
    rw [hOther] at hRead
    cases hRead
  have hAssistant := hNot "assistant_response" (by rfl)
  have hDiff := hNot "workspace_diff" (by rfl)
  have hStarts : ∀ start : String, start.toList.head?.map Uuid.startsUuid = some false →
        name.startsWith start = false :=
    fun _ hStart => Uuid.not_startsWith_of_ofText hRead hStart
  have hSchema := hStarts "output_schema" (by rfl)
  have hObjective := hStarts "objective:" (by rfl)
  have hTool := hStarts "tool:" (by rfl)
  have hPolicy := hStarts "policy:" (by rfl)
  simp [inferLegacyVerificationCheckKind, hAssistant, hDiff, hSchema, hObjective, hTool, hPolicy]

theorem inferLegacy_renameText (name : String) :
    inferLegacyVerificationCheckKind (renameText ρ name) =
      inferLegacyVerificationCheckKind name := by
  cases hRead : Uuid.ofText name with
  | none => rw [Uuid.renameText_of_ofText hRead]
  | some uuid =>
    have hRenamed : Uuid.ofText (renameText ρ name) = some (ρ uuid) := by
      rw [Uuid.ofText_renameText, hRead]
      rfl
    rw [inferLegacy_of_ofText hRead, inferLegacy_of_ofText hRenamed]

def VerificationCheck.rename (check : VerificationCheck) : VerificationCheck where
  kind := check.kind
  name := renameText ρ check.name
  command := check.command.map (renameText ρ)
  passed := check.passed
  evidenceRefs := check.evidenceRefs.map (Id.rename ρ)
  message := renameText ρ check.message

theorem VerificationCheck.equivariant_decode :
    Equivariant (renameText ρ) VerificationCheck.decode (VerificationCheck.rename ρ) := by
  intro value
  apply (VerificationCheckKind.equivariant_decode ρ).bind_optional
  intro kind
  apply (Equivariant.asStr _).bind_required
  intro name
  apply (Equivariant.asStr _).bind_optional
  intro command
  apply (Equivariant.asBool _).bind_required
  intro passed
  apply (Id.equivariant_list ρ).bind_required
  intro evidenceRefs
  apply (Equivariant.asStr _).bind_required
  intro message
  simp only [inferLegacy_renameText, Option.map_id_apply]
  rfl

def VerificationAssertion.rename (assertion : VerificationAssertion) : VerificationAssertion where
  assertionId := assertion.assertionId.rename ρ
  criterionId := renameText ρ assertion.criterionId
  kind := assertion.kind
  subject := renameText ρ assertion.subject
  expected := renameText ρ assertion.expected
  verifierId := renameText ρ assertion.verifierId
  requiredEvidenceStrength := renameText ρ assertion.requiredEvidenceStrength
  blocking := assertion.blocking
  status := assertion.status
  evidenceRefs := assertion.evidenceRefs.map (Id.rename ρ)
  message := renameText ρ assertion.message

theorem VerificationAssertion.equivariant_decode :
    Equivariant (renameText ρ) VerificationAssertion.decode (VerificationAssertion.rename ρ) := by
  intro value
  apply (Id.equivariant_codec ρ).bind_required
  intro assertionId
  apply (Equivariant.asStr _).bind_required
  intro criterionId
  apply (VerificationAssertionKind.equivariant_decode ρ).bind_required
  intro kind
  apply (Equivariant.asStr _).bind_required
  intro subject
  apply (Equivariant.asStr _).bind_required
  intro expected
  apply (Equivariant.asStr _).bind_required
  intro verifierId
  apply (Equivariant.asStr _).bind_required
  intro strength
  apply (Equivariant.asBool _).bind_required
  intro blocking
  apply (VerificationAssertionStatus.equivariant_decode ρ).bind_required
  intro status
  apply (Id.equivariant_list ρ).bind_required
  intro evidenceRefs
  apply (Equivariant.asStr _).bind_required
  intro message
  rfl

def VerificationRecord.rename (record : VerificationRecord) : VerificationRecord where
  verificationId := record.verificationId.rename ρ
  taskId := record.taskId.rename ρ
  objective := renameText ρ record.objective
  completionCriteria := record.completionCriteria.map (renameText ρ)
  checks := record.checks.map (VerificationCheck.rename ρ)
  evidenceRefs := record.evidenceRefs.map (Id.rename ρ)
  result := record.result
  policyStatus := renameText ρ record.policyStatus
  residualRisks := record.residualRisks.map (renameText ρ)
  planId := record.planId.map (Id.rename ρ)
  assertions := record.assertions.map (VerificationAssertion.rename ρ)
  source := record.source
  independence := record.independence
  environmentDigest := record.environmentDigest.map (renameText ρ)

theorem VerificationRecord.equivariant_decode :
    Equivariant (renameText ρ) VerificationRecord.decode (VerificationRecord.rename ρ) := by
  intro value
  apply (Id.equivariant_codec ρ).bind_required
  intro verificationId
  apply (Id.equivariant_codec ρ).bind_required
  intro taskId
  apply (Equivariant.asStr _).bind_required
  intro objective
  apply (equivariant_decodeStrings ρ).bind_required
  intro completionCriteria
  apply (VerificationCheck.equivariant_decode ρ).array.bind_required
  intro checks
  apply (Id.equivariant_list ρ).bind_required
  intro evidenceRefs
  apply (VerificationResult.equivariant_decode ρ).bind_required
  intro result
  apply (Equivariant.asStr _).bind_required
  intro policyStatus
  apply (equivariant_decodeStrings ρ).bind_required
  intro residualRisks
  apply (Id.equivariant_codec ρ).bind_optional
  intro planId
  refine (VerificationAssertion.equivariant_decode ρ).array.bind_defaulted value _ rfl ?_
  intro assertions
  refine (VerificationSource.equivariant_decode ρ).bind_defaulted value _ rfl ?_
  intro source
  refine (VerificationIndependence.equivariant_decode ρ).bind_defaulted value _ rfl ?_
  intro independence
  apply (Equivariant.asStr _).bind_optional
  intro environmentDigest
  rfl

theorem LoopAction.equivariant_decode : Equivariant (renameText ρ) LoopAction.decode id :=
  Uuid.equivariant_variant rfl ρ

def BudgetState.rename (budget : BudgetState) : BudgetState :=
  { budget with
    estimatedCost := budget.estimatedCost.map (renameText ρ)
    costRisk := renameText ρ budget.costRisk }

theorem BudgetState.equivariant_decode :
    Equivariant (renameText ρ) BudgetState.decode (BudgetState.rename ρ) := by
  intro value
  apply (Equivariant.asU64 _).bind_optional
  intro plannedInputTokens
  apply (Equivariant.asU64 _).bind_optional
  intro actualInputTokens
  apply (Equivariant.asU64 _).bind_optional
  intro outputTokens
  apply (Equivariant.asU64 _).bind_optional
  intro totalTokens
  apply (Equivariant.asStr _).bind_optional
  intro estimatedCost
  apply (Equivariant.asU64 _).bind_optional
  intro budgetRemaining
  apply (Equivariant.asBool _).bind_required
  intro compactRecommended
  apply (Equivariant.asStr _).bind_required
  intro costRisk
  simp only [Option.map_id_apply]
  rfl

def LoopDecision.rename (decision : LoopDecision) : LoopDecision where
  decisionId := decision.decisionId.rename ρ
  taskId := decision.taskId.rename ρ
  turnId := decision.turnId.rename ρ
  action := decision.action
  reason := renameText ρ decision.reason
  evidenceRefs := decision.evidenceRefs.map (Id.rename ρ)
  verificationRef := decision.verificationRef.map (Id.rename ρ)
  policyRef := decision.policyRef.map (Id.rename ρ)
  budgetState := decision.budgetState.rename ρ
  toolState := renameText ρ decision.toolState
  modelState := renameText ρ decision.modelState
  nextStep := decision.nextStep.map (renameText ρ)

theorem LoopDecision.equivariant_decode :
    Equivariant (renameText ρ) LoopDecision.decode (LoopDecision.rename ρ) := by
  intro value
  apply (Id.equivariant_codec ρ).bind_required
  intro decisionId
  apply (Id.equivariant_codec ρ).bind_required
  intro taskId
  apply (Id.equivariant_codec ρ).bind_required
  intro turnId
  apply (LoopAction.equivariant_decode ρ).bind_required
  intro action
  apply (Equivariant.asStr _).bind_required
  intro reason
  apply (Id.equivariant_list ρ).bind_required
  intro evidenceRefs
  apply (Id.equivariant_codec ρ).bind_optional
  intro verificationRef
  apply (Id.equivariant_codec ρ).bind_optional
  intro policyRef
  apply (BudgetState.equivariant_decode ρ).bind_required
  intro budgetState
  apply (Equivariant.asStr _).bind_required
  intro toolState
  apply (Equivariant.asStr _).bind_required
  intro modelState
  apply (Equivariant.asStr _).bind_optional
  intro nextStep
  rfl

def VisibleStep.rename (step : VisibleStep) : VisibleStep :=
  { step with summary := renameText ρ step.summary }

def StateProjection.rename (projection : StateProjection) : StateProjection where
  sessionId := projection.sessionId.rename ρ
  activeTaskId := projection.activeTaskId.map (Id.rename ρ)
  taskStatus := projection.taskStatus
  runtimeLane := projection.runtimeLane.map (RuntimeLane.rename ρ)
  lastSequenceNo := projection.lastSequenceNo
  visibleSteps := projection.visibleSteps.map (VisibleStep.rename ρ)
  pendingApproval := projection.pendingApproval.map (renameText ρ)
  finalMessage := projection.finalMessage.map (renameText ρ)
  lastLoopDecision := projection.lastLoopDecision.map (LoopDecision.rename ρ)
  lastVerification := projection.lastVerification.map (VerificationRecord.rename ρ)

end GolutraAgent
