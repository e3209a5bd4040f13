import GolutraAgent.Supervisor.Evolution

/-
  This file models the transactions of the supervisor on its state: what each of
  them writes, and when it refuses. A transaction is one atomic change of the
  stored state.
-/

namespace GolutraAgent.Supervisor

open KeyedList

/- A correction of the statuses of one candidate. -/
structure DeploymentUpdate where
  candidateId : String
  epochId : String
  candidateStatus : CandidateStatus
  epochStatus : EpochStatus

/- What the supervisor asks its store to change, in one step each. -/
inductive Transaction
| recordBootstrapBuild (bootstrapId : String)
| bootstrapStable
| identifyOpportunity (opportunity : EvolutionOpportunity)
| startEpoch (epoch : EvolutionEpoch)
| proposeCandidate (candidateId : String) (proposal : CandidateProposal)
| completeEvaluationBuild (epochId : String) (build : TrustedEvaluationBuild)
| completePairedExecution (epochId candidateId : String)
| completeGate (epochId : String) (input : EvaluationInput) (gate : GeneralizationGateResult)
| buildRelease (candidateId epochId releaseId sourceDigest : String)
| recordObservation (epochId : String) (observation : DeploymentObservation)
| updateDeployment (candidateId : String) (candidateStatus : CandidateStatus)
    (epochStatus : EpochStatus)
| enforceDeadlines
| reconcile (updates : List DeploymentUpdate)

def saturatingAddU32 (left right : Nat) : Nat := min (left + right) (2 ^ 32 - 1)

namespace SupervisorState

variable (state : SupervisorState)

def editCandidate (candidateId : String)
    (change : EvolutionCandidate → EvolutionCandidate) : SupervisorState :=
  { state with
    candidates := modifyFirst EvolutionCandidate.candidateId candidateId change state.candidates }

def editEpoch (epochId : String) (change : EvolutionEpoch → EvolutionEpoch) : SupervisorState :=
  { state with epochs := modifyFirst EvolutionEpoch.epochId epochId change state.epochs }

def editArchive (candidateId : String)
    (change : CandidateArchiveEntry → CandidateArchiveEntry) : SupervisorState :=
  { state with
    archive := modifyFirst CandidateArchiveEntry.candidateId candidateId change state.archive }

end SupervisorState

variable (status : CandidateStatus)

def EvolutionCandidate.setStatus (candidate : EvolutionCandidate) : EvolutionCandidate :=
  { candidate with status := status }

def CandidateArchiveEntry.setStatus (entry : CandidateArchiveEntry) : CandidateArchiveEntry :=
  { entry with status := status }

def EvolutionCandidate.setRelease (releaseId : String)
    (candidate : EvolutionCandidate) : EvolutionCandidate :=
  { candidate with
    status := .built
    releaseId := some releaseId
    trustedBuild := true }

def CandidateArchiveEntry.setBuild (sourceDigest : String)
    (entry : CandidateArchiveEntry) : CandidateArchiveEntry :=
  { entry with
    status := .built
    buildDigest := some sourceDigest }

variable (status : EpochStatus) (now : Timestamp) (epoch : EvolutionEpoch)

/- An epoch that ends notes when. -/
def EvolutionEpoch.setStatus : EvolutionEpoch :=
  { epoch with
    status := status
    completedAt :=
      if status.terminal then some now
      else epoch.completedAt }

/- As above, but an end noted before is kept. -/
def EvolutionEpoch.reconcileStatus : EvolutionEpoch :=
  { epoch with
    status := status
    completedAt :=
      if status.terminal then some (epoch.completedAt.getD now)
      else epoch.completedAt }

/- An inconclusive gate rejects the candidate as well. -/
def candidateStatusOf : GateVerdict → CandidateStatus
| .pass => .passed
| .fail | .inconclusive => .rejected

/- The epoch tells the two apart. -/
def epochStatusOf : GateVerdict → EpochStatus
| .pass => .awaitingPromotion
| .fail => .rejected
| .inconclusive => .inconclusive

/- The effect of a gate result on the epoch. -/
def EvolutionEpoch.completeGate (queries : Nat) (gate : GeneralizationGateResult)
    (now : Timestamp) (epoch : EvolutionEpoch) : EvolutionEpoch :=
  let status := epochStatusOf gate.verdict
  { epoch with
    holdoutQueries := saturatingAddU32 epoch.holdoutQueries queries
    status := status
    completedAt :=
      if status.terminal then some now
      else epoch.completedAt
    terminalReason :=
      if status.terminal then gate.rejectionReasons.head?
      else epoch.terminalReason }

def EvolutionEpoch.budgetId (epoch : EvolutionEpoch) : String := "budget:" ++ epoch.opportunityId

/- The count is compared with the limit only after the charge. -/
def DisclosureBudget.charge (queries : Nat) (now : Timestamp)
    (budget : DisclosureBudget) : DisclosureBudget :=
  let count := saturatingAddU32 budget.queryCount queries
  { budget with
    queryCount := count
    aggregateFeedbackCount := saturatingAddU32 budget.aggregateFeedbackCount 1
    exhaustedAt :=
      if budget.maximumQueries ≤ count then some now
      else budget.exhaustedAt }

variable (epoch : EvolutionEpoch) (queries : Nat) (now : Timestamp)

/- The first budget of a family has the limit of the epoch. -/
def openDisclosureBudget : DisclosureBudget where
  budgetId := epoch.budgetId
  candidateFamilyId := epoch.opportunityId
  maximumQueries := epoch.budget.maxHoldoutQueries
  queryCount := queries
  aggregateFeedbackCount := 1
  exactFeedbackCount := 0
  exhaustedAt :=
    if epoch.budget.maxHoldoutQueries ≤ queries then some now
    else none

/- The family is charged, and gets its budget with the first charge. -/
def chargeDisclosure (state : SupervisorState) : List DisclosureBudget :=
  match state.budget? epoch.budgetId with
  | some _ =>
    modifyFirst DisclosureBudget.budgetId epoch.budgetId (DisclosureBudget.charge queries now)
      state.disclosureBudgets
  | none => state.disclosureBudgets ++ [openDisclosureBudget epoch queries now]

/- A registered candidate is frozen. -/
def freezeCandidate (candidateId : String) (proposal : CandidateProposal)
    (opportunity : EvolutionOpportunity) (now : Timestamp) : EvolutionCandidate where
  candidateId := candidateId
  epochId := proposal.epochId
  opportunityId := opportunity.opportunityId
  patchDigest := proposal.patchDigest
  riskLevel := proposal.riskLevel
  status := .frozen
  releaseId := none
  trustedBuild := false
  createdAt := now

def EvolutionEpoch.addCandidate (candidateId : String) (epoch : EvolutionEpoch) : EvolutionEpoch :=
  { epoch with
    candidateIds := epoch.candidateIds ++ [candidateId]
    generationCount := saturatingAddU32 epoch.generationCount 1
    status := .evaluating }

/- The deadline looks at the epoch alone. -/
def EvolutionEpoch.expire (now : Timestamp) (epoch : EvolutionEpoch) : EvolutionEpoch :=
  if !epoch.status.terminal ∧ epoch.budget.deadline.nanos < now.nanos then
    { epoch with
      status := .budgetExhausted
      completedAt := some now
      terminalReason := some "epoch deadline exceeded" }
  else epoch

/- A candidate and its epoch get the statuses that the log implies. -/
def applyUpdate (now : Timestamp) (state : SupervisorState)
    (update : DeploymentUpdate) : SupervisorState :=
  ((state.editCandidate update.candidateId (EvolutionCandidate.setStatus
        update.candidateStatus)).editEpoch update.epochId
      (EvolutionEpoch.reconcileStatus update.epochStatus now)).editArchive update.candidateId
      (CandidateArchiveEntry.setStatus update.candidateStatus)

section

variable (now : Timestamp) (state : SupervisorState)

variable (candidateId : String) (proposal : CandidateProposal)

def addProposal (epoch : EvolutionEpoch) (opportunity : EvolutionOpportunity) : SupervisorState :=
  let changed := state.editEpoch proposal.epochId (EvolutionEpoch.addCandidate candidateId)
  { changed with
    archive := changed.archive ++ [⟨candidateId, epoch.parentReleaseId.toList, none, .frozen⟩]
    candidates := changed.candidates ++ [freezeCandidate candidateId proposal opportunity now] }

/- All checks are made on the state that is changed. -/
def applyProposal : Except SupervisorError SupervisorState :=
  match state.candidate? candidateId with
  | some _ => .error (.invalid ("candidate " ++ candidateId ++ " already exists"))
  | none =>
  match state.epoch? proposal.epochId with
  | none => .error (.notFound ("epoch " ++ proposal.epochId))
  | some epoch =>
  if epoch.status ≠ .generating then
    .error (.invalid ("epoch " ++ epoch.epochId ++ " is " ++
      Text.debugName epoch.status ++ ", not generating"))
  else if epoch.budget.maxCandidates ≤ epoch.candidateIds.length then
    .error (.budgetExhausted "epoch candidate budget exhausted")
  else
  match state.opportunity? epoch.opportunityId with
  | none => .error (.notFound ("opportunity " ++ epoch.opportunityId))
  | some opportunity => .ok (addProposal now state candidateId proposal epoch opportunity)

def addGateResult (epochId : String) (epoch : EvolutionEpoch) (input : EvaluationInput)
    (gate : GeneralizationGateResult) : SupervisorState :=
  let status := candidateStatusOf gate.verdict
  let changed := ((state.editEpoch epochId
    (EvolutionEpoch.completeGate input.holdoutQueries gate now)).editCandidate input.candidateId
    (EvolutionCandidate.setStatus status)).editArchive input.candidateId
      (CandidateArchiveEntry.setStatus status)
  { changed with
    gateResults := changed.gateResults ++ [gate]
    disclosureBudgets := chargeDisclosure epoch input.holdoutQueries now state }

/- No check of the status or of the budget is repeated here. -/
def applyGate (epochId : String) (input : EvaluationInput)
    (gate : GeneralizationGateResult) : Except SupervisorError SupervisorState :=
  match state.epoch? epochId with
  | none => .error (.notFound ("epoch " ++ epochId))
  | some epoch =>
  match state.candidate? input.candidateId with
  | none => .error (.notFound ("candidate " ++ input.candidateId))
  | some _ => .ok (addGateResult now state epochId epoch input gate)

variable (candidateId epochId releaseId sourceDigest : String)

def setRelease : SupervisorState := ((state.editCandidate candidateId
    (EvolutionCandidate.setRelease releaseId)).editArchive candidateId
      (CandidateArchiveEntry.setBuild sourceDigest)).editEpoch epochId
        (EvolutionEpoch.setStatus .buildingRelease now)

def applyRelease : Except SupervisorError SupervisorState :=
  match state.candidate? candidateId with
  | none => .error (.notFound ("candidate " ++ candidateId))
  | some _ => .ok (setRelease now state candidateId epochId releaseId sourceDigest)

def setDeployment (candidateId epochId : String) (candidateStatus : CandidateStatus)
    (epochStatus : EpochStatus) : SupervisorState :=
  ((state.editCandidate candidateId
    (EvolutionCandidate.setStatus candidateStatus)).editEpoch epochId
      (EvolutionEpoch.setStatus epochStatus now)).editArchive candidateId
        (CandidateArchiveEntry.setStatus candidateStatus)

/- The statuses are written whatever they were. -/
def applyDeployment (candidateId : String) (candidateStatus : CandidateStatus)
    (epochStatus : EpochStatus) : Except SupervisorError SupervisorState :=
  match state.candidate? candidateId with
  | none => .error (.notFound ("candidate " ++ candidateId))
  | some candidate =>
    .ok (setDeployment now state candidateId candidate.epochId candidateStatus epochStatus)

/- Each transaction checks the state that it changes. -/
def Transaction.apply : Transaction → Except SupervisorError SupervisorState
| .recordBootstrapBuild bootstrapId =>
  if bootstrapId ∈ state.bootstrapBuilds then
    .error (.integrity "bootstrap build identifier is already recorded")
  else .ok { state with bootstrapBuilds := state.bootstrapBuilds ++ [bootstrapId] }
| .bootstrapStable => .ok state
| .identifyOpportunity opportunity =>
  -- A known failure cluster keeps its opportunity.
  if state.opportunities.any (·.failureCluster = opportunity.failureCluster) then .ok state
  else .ok { state with opportunities := state.opportunities ++ [opportunity] }
| .startEpoch epoch =>
  match state.opportunity? epoch.opportunityId with
  | none => .error (.notFound ("opportunity " ++ epoch.opportunityId))
  | some _ => .ok { state with epochs := state.epochs ++ [epoch] }
| .proposeCandidate candidateId proposal => applyProposal now state candidateId proposal
| .completeEvaluationBuild _ build =>
  .ok { state with
    evaluationBuilds := retainOther TrustedEvaluationBuild.candidateId
        build.candidateId state.evaluationBuilds ++ [build] }
| .completePairedExecution _ _ => .ok state
| .completeGate epochId input gate => applyGate now state epochId input gate
| .buildRelease candidateId epochId releaseId sourceDigest =>
  applyRelease now state candidateId epochId releaseId sourceDigest
| .recordObservation _ observation =>
  .ok { state with deploymentObservations := state.deploymentObservations ++ [observation] }
| .updateDeployment candidateId candidateStatus epochStatus =>
  applyDeployment now state candidateId candidateStatus epochStatus
| .enforceDeadlines => .ok { state with epochs := state.epochs.map (EvolutionEpoch.expire now) }
| .reconcile updates => .ok (updates.foldl (applyUpdate now) state)

end

section

variable {now : Timestamp} {state state' : SupervisorState}

variable {candidateId : String}

theorem applyProposal_eq_ok {proposal : CandidateProposal}
    (hApply : applyProposal now state candidateId proposal = .ok state') :
    ∃ epoch opportunity, state.candidate? candidateId = none ∧
        state.epoch? proposal.epochId = some epoch ∧
        epoch.status = .generating ∧ epoch.candidateIds.length < epoch.budget.maxCandidates ∧
        state' = addProposal now state candidateId proposal epoch opportunity := by
  unfold applyProposal at hApply
  split at hApply
  · cases hApply
  · rename_i hNew
    split at hApply
    · cases hApply
    · rename_i epoch hEpoch
      split at hApply
      · cases hApply
      · rename_i hStatus
        split at hApply
        · cases hApply
        · rename_i hRoom
          split at hApply
          · cases hApply
          · rename_i opportunity hFind
            cases hApply
            exact ⟨epoch, opportunity, hNew, hEpoch, not_not.1 hStatus, not_le.1 hRoom, rfl⟩

theorem applyGate_eq_ok {epochId : String} {input : EvaluationInput}
    {gate : GeneralizationGateResult}
    (hApply : applyGate now state epochId input gate = .ok state') :
    ∃ epoch candidate, state.epoch? epochId = some epoch ∧
        state.candidate? input.candidateId = some candidate ∧
        state' = addGateResult now state epochId epoch input gate := by
  unfold applyGate at hApply
  split at hApply
  · cases hApply
  · rename_i epoch hEpoch
    split at hApply
    · cases hApply
    · rename_i candidate hFind
      cases hApply
      exact ⟨epoch, candidate, hEpoch, hFind, rfl⟩

theorem applyRelease_eq_ok {candidateId epochId releaseId sourceDigest : String}
    (hApply : applyRelease now state candidateId epochId releaseId sourceDigest = .ok state') :
    ∃ candidate, state.candidate? candidateId = some candidate ∧
        state' = setRelease now state candidateId epochId releaseId sourceDigest := by
  unfold applyRelease at hApply
  split at hApply
  · cases hApply
  · rename_i candidate hFind
    cases hApply
    exact ⟨candidate, hFind, rfl⟩

theorem applyDeployment_eq_ok {candidateStatus : CandidateStatus} {epochStatus : EpochStatus}
    (hApply : applyDeployment now state candidateId candidateStatus epochStatus = .ok state') :
    ∃ candidate, state.candidate? candidateId = some candidate ∧
        state' = setDeployment now state candidateId
          candidate.epochId candidateStatus epochStatus := by
  unfold applyDeployment at hApply
  split at hApply
  · cases hApply
  · rename_i candidate hFind
    cases hApply
    exact ⟨candidate, hFind, rfl⟩

end

section

variable {state : SupervisorState} {now : Timestamp}

variable {change : EvolutionEpoch → EvolutionEpoch}

theorem epoch?_editEpoch (hKeeps : ∀ epoch, (change epoch).epochId = epoch.epochId)
    (epochId other : String) : (state.editEpoch epochId change).epoch? other =
      if other = epochId then (state.epoch? other).map change
      else state.epoch? other :=
  find?_modifyFirst hKeeps state.epochs

/- The epoch is found as it was changed. -/
theorem epoch?_editEpoch_self {epoch : EvolutionEpoch} {epochId : String}
    (hKeeps : ∀ epoch, (change epoch).epochId = epoch.epochId)
    (hFind : state.epoch? epochId = some epoch) :
    (state.editEpoch epochId change).epoch? epochId = some (change epoch) := by
  rw [epoch?_editEpoch hKeeps, if_pos rfl, hFind]
  rfl

theorem epoch?_editEpoch_other {epochId other : String}
    (hKeeps : ∀ epoch, (change epoch).epochId = epoch.epochId) (hOther : other ≠ epochId) :
    (state.editEpoch epochId change).epoch? other = state.epoch? other := by
  rw [epoch?_editEpoch hKeeps, if_neg hOther]

variable {epoch : EvolutionEpoch} {epochId : String}

/- A new epoch changes no other. -/
theorem epoch?_started (hFind : state.epoch? epochId = some epoch)
    (started : EvolutionEpoch) : { state with epochs :=
      state.epochs ++ [started] }.epoch? epochId = some epoch := by
  unfold SupervisorState.epoch? at hFind ⊢
  rw [List.find?_append, hFind]
  rfl

theorem epoch?_expired (hFind : state.epoch? epochId = some epoch) : { state with
      epochs := state.epochs.map (EvolutionEpoch.expire now) }.epoch? epochId =
      some (epoch.expire now) := by
  have hKeeps : ∀ epoch : EvolutionEpoch, (epoch.expire now).epochId = epoch.epochId := by
    intro epoch
    unfold EvolutionEpoch.expire
    split <;> rfl
  unfold SupervisorState.epoch? at hFind ⊢
  rw [List.find?_map]
  simp only [Function.comp_def, hKeeps, hFind, Option.map_some]

end

end GolutraAgent.Supervisor
