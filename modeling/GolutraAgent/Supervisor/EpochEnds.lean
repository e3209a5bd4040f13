import GolutraAgent.Supervisor.CrashRepair

/-
  This file proves that an epoch that has ended stays so, in every history in
  which no call goes on with a candidate whose epoch a deadline has ended, and in
  which no rollback of a stable release restores that same release. A deadline
  that ends the epoch of a candidate under way does not stop the candidate, and
  none of the next steps looks at the epoch: each gives it a status again.

  Main declarations:
    * `epochs_stay_ended`
-/

namespace GolutraAgent.Supervisor

open Release (Pointers Deployment)

open KeyedList

/-
  The statuses that an epoch has with its candidate. A deadline ends an epoch
  and leaves its candidate where it is.
-/
def Matches : CandidateStatus → EpochStatus → Prop
| .frozen, .evaluating | .passed, .awaitingPromotion | .rejected, .rejected
| .rejected, .inconclusive | .built, .buildingRelease | .previewing, .previewing
| .canarying, .canarying | .promoted, .promoted | .rolledBack, .rolledBack
| .frozen, .budgetExhausted | .passed, .budgetExhausted | .built, .budgetExhausted
| .previewing, .budgetExhausted | .canarying, .budgetExhausted => True
| _, _ => False

structure Aligned (state : SupervisorState) : Prop where
  single : (state.candidates.map EvolutionCandidate.epochId).Nodup
  matched : ∀ candidate ∈ state.candidates, ∃ epoch, state.epoch? candidate.epochId = some epoch ∧
      Matches candidate.status epoch.status

theorem aligned_empty : Aligned .empty where
  single := List.nodup_nil
  matched := by rintro _ ⟨⟩

/- An epoch that ended without a release that was promoted. -/
def EpochStatus.failed : EpochStatus → Bool
| .rejected | .inconclusive | .budgetExhausted => true
| _ => false

/-
  What has become of an epoch that had ended in the first state. The candidates
  of one that failed are what they were, and those that the gate turned down are
  not deployed at all.
-/
def EndedAs (epochId : String) (status : EpochStatus) (state state' : SupervisorState) : Prop :=
  ∃ epoch, state'.epoch? epochId = some epoch ∧ (epoch.status = status ∨
      status = .promoted ∧ epoch.status = .rolledBack) ∧
    (status.failed → ∀ candidate ∈ state'.candidates, candidate.epochId = epochId →
      candidate ∈ state.candidates ∧ candidate.status ≠ .promoted ∧
        (status ≠ .budgetExhausted → candidate.status ≠ .built ∧
          candidate.status ≠ .previewing ∧ candidate.status ≠ .canarying))

/-
  Every epoch that has ended stays so, and the candidates of one that failed stay
  what they are.
-/
def Lasting (state state' : SupervisorState) : Prop :=
  ∀ epochId epoch, state.epoch? epochId = some epoch → epoch.status.terminal →
    (∃ epoch', state'.epoch? epochId = some epoch' ∧ (epoch'.status = epoch.status ∨
        epoch.status = .promoted ∧ epoch'.status = .rolledBack)) ∧
      (epoch.status.failed → ∀ candidate ∈ state'.candidates,
        candidate.epochId = epochId → candidate ∈ state.candidates)

theorem Lasting.congr {state state' : SupervisorState}
    (hCandidates : state'.candidates = state.candidates)
    (hEpochs : state'.epochs = state.epochs) : Lasting state state' := by
  intro epochId epoch hFind _
  refine ⟨⟨epoch, ?_, .inl rfl⟩, fun _ candidate hMem _ => hCandidates ▸ hMem⟩
  unfold SupervisorState.epoch?
  rw [hEpochs]
  exact hFind

theorem Lasting.trans {state state' state'' : SupervisorState}
    (hFirst : Lasting state state') (hThen : Lasting state' state'') : Lasting state state'' := by
  intro epochId epoch hFind hTerminal
  obtain ⟨⟨epoch', hFind', hStatus⟩, hKept⟩ := hFirst epochId epoch hFind hTerminal
  rcases hStatus with hSame | ⟨hPromoted, hRolled⟩
  · obtain ⟨hStatus', hKept'⟩ := hThen epochId epoch' hFind' (hSame ▸ hTerminal)
    rw [hSame] at hStatus' hKept'
    exact ⟨hStatus', fun hFailed candidate hMem hEpoch =>
      hKept hFailed candidate (hKept' hFailed candidate hMem hEpoch) hEpoch⟩
  · -- A promotion that was rolled back stays so, and it is no failure.
    obtain ⟨⟨epoch'', hFind'', hStatus''⟩, -⟩ := hThen epochId epoch' hFind' (hRolled ▸ rfl)
    rw [hRolled] at hStatus''
    rw [hPromoted]
    rcases hStatus'' with hSame | ⟨⟨⟩, -⟩
    exact ⟨⟨epoch'', hFind'', .inr ⟨rfl, hSame⟩⟩, fun hFailed => by cases hFailed⟩

/- No deadline has ended the epoch of the candidate. -/
abbrev Spares (state : SupervisorState) (candidate : EvolutionCandidate) : Prop :=
  ∀ epoch ∈ state.epoch? candidate.epochId, epoch.status ≠ .budgetExhausted

theorem Aligned.eq_of_epochId {state : SupervisorState} (hAligned : Aligned state)
    {candidate other : EvolutionCandidate} (hCandidate : candidate ∈ state.candidates)
    (hOther : other ∈ state.candidates) (hEpoch : candidate.epochId = other.epochId) :
    candidate = other :=
  List.inj_on_of_nodup_map hAligned.single hCandidate hOther hEpoch

/- The epochs that failed, by the status of their candidate. -/
theorem Matches.failed {candidateStatus : CandidateStatus} {epochStatus : EpochStatus}
    (hMatches : Matches candidateStatus epochStatus) (hFailed : epochStatus.failed) :
    candidateStatus ≠ .promoted ∧ (epochStatus ≠ .budgetExhausted →
      candidateStatus ≠ .built ∧ candidateStatus ≠ .previewing ∧
        candidateStatus ≠ .canarying) := by
  cases epochStatus <;> cases hFailed <;> cases candidateStatus <;> simp [Matches] at hMatches ⊢

section

variable {state state' : SupervisorState} {candidate : EvolutionCandidate}

/- The records that the two properties are about. -/
theorem Aligned.congr (hAligned : Aligned state)
    (hCandidates : state'.candidates = state.candidates)
    (hEpochs : state'.epochs = state.epochs) : Aligned state' := by
  refine ⟨hCandidates ▸ hAligned.single, ?_⟩
  rw [hCandidates]
  unfold SupervisorState.epoch?
  rw [hEpochs]
  exact hAligned.matched

/- One epoch changes. -/
theorem Lasting.update {epochId : String} {epoch epoch' : EvolutionEpoch}
    (hFind : state.epoch? epochId = some epoch)
    (hOthers : ∀ other, other ≠ epochId → state'.epoch? other = state.epoch? other)
    (hEpoch : state'.epoch? epochId = some epoch')
    (hCandidates : ∀ candidate ∈ state'.candidates, candidate.epochId ≠ epochId →
      candidate ∈ state.candidates)
    (hStatus : epoch.status.terminal → epoch.status = .promoted ∧ epoch'.status = .rolledBack) :
    Lasting state state' := by
  intro other found hFound hTerminal
  by_cases hSame : other = epochId
  · subst hSame
    rw [hFind] at hFound
    cases hFound
    obtain ⟨hPromoted, hRolled⟩ := hStatus hTerminal
    rw [hPromoted]
    exact ⟨⟨epoch', hEpoch, .inr ⟨rfl, hRolled⟩⟩, fun hFailed => by cases hFailed⟩
  · refine ⟨⟨found, (hOthers other hSame).trans hFound, .inl rfl⟩, ?_⟩
    intro _ candidate hMem hOther
    exact hCandidates candidate hMem (hOther ▸ hSame)

/-
  One candidate changes together with its epoch, which was not ended by a
  deadline, and had ended only if a promotion is rolled back.
-/
theorem Aligned.edited (hAligned : Aligned state)
    (hDistinct : DistinctKeys EvolutionCandidate.candidateId state.candidates)
    {candidateId : String} (hFind : state.candidate? candidateId = some candidate)
    (hSpares : Spares state candidate)
    {change : EvolutionCandidate → EvolutionCandidate} {edit : EvolutionEpoch → EvolutionEpoch}
    (hCandidates : state'.candidates = modifyFirst EvolutionCandidate.candidateId candidateId
        change state.candidates)
    (hEpochs : state'.epochs = (state.editEpoch candidate.epochId edit).epochs)
    (hChange : ∀ other, (change other).epochId = other.epochId)
    (hEdit : ∀ epoch, (edit epoch).epochId = epoch.epochId)
    (hNext : ∀ epoch, Matches candidate.status epoch.status → epoch.status ≠ .budgetExhausted →
      Matches (change candidate).status (edit epoch).status ∧
        (epoch.status.terminal → epoch.status = .promoted ∧ (edit epoch).status = .rolledBack)) :
    Aligned state' ∧ Lasting state state' := by
  obtain ⟨hMem, rfl⟩ := mem_of_candidate? hFind
  have hFound : ∀ epochId, state'.epoch? epochId =
      (state.editEpoch candidate.epochId edit).epoch? epochId := by
    unfold SupervisorState.epoch?
    rw [hEpochs]
    exact fun _ => rfl
  have hOthers : ∀ other, other ≠ candidate.epochId → state'.epoch? other = state.epoch? other :=
    fun other hOther => (hFound other).trans (epoch?_editEpoch_other hEdit hOther)
  obtain ⟨epoch, hEpoch, hMatches⟩ := hAligned.matched candidate hMem
  obtain ⟨hMatches', hEnds⟩ := hNext epoch hMatches (hSpares epoch hEpoch)
  have hAfter : state'.epoch? candidate.epochId = some (edit epoch) :=
    (hFound _).trans (epoch?_editEpoch_self hEdit hEpoch)
  have hMembers : ∀ other ∈ state'.candidates,
      other ∈ state.candidates ∧ other.epochId ≠ candidate.epochId ∨ other = change candidate := by
    rw [hCandidates]
    intro other hOther
    refine ((mem_modifyFirst_iff hDistinct hMem rfl).1 hOther).imp ?_ id
    rintro ⟨hOld, hId⟩
    exact ⟨hOld, fun hSame =>
      hId (congrArg EvolutionCandidate.candidateId (hAligned.eq_of_epochId hOld hMem hSame))⟩
  refine ⟨⟨?_, ?_⟩, .update hEpoch hOthers hAfter ?_ hEnds⟩
  · rw [hCandidates, map_modifyFirst hChange]
    exact hAligned.single
  · intro other hOther
    rcases hMembers other hOther with ⟨hOld, hElse⟩ | rfl
    · rw [hOthers other.epochId hElse]
      exact hAligned.matched other hOld
    · rw [hChange]
      exact ⟨edit epoch, hAfter, hMatches'⟩
  · intro other hOther hElse
    rcases hMembers other hOther with ⟨hOld, -⟩ | rfl
    · exact hOld
    · exact absurd (hChange candidate) hElse

theorem Aligned.started (hAligned : Aligned state) (started : EvolutionEpoch) : Aligned { state with
        epochs := state.epochs ++ [started] } ∧
      Lasting state { state with epochs := state.epochs ++ [started] } := by
  refine ⟨⟨hAligned.single, ?_⟩, ?_⟩
  · intro candidate hMem
    obtain ⟨epoch, hFind, hRest⟩ := hAligned.matched candidate hMem
    exact ⟨epoch, epoch?_started hFind started, hRest⟩
  · intro epochId epoch hFind _
    exact ⟨⟨epoch, epoch?_started hFind started, .inl rfl⟩, fun _ _ hMem _ => hMem⟩

variable {now : Timestamp}

theorem Aligned.registered {candidateId : String}
    {proposal : CandidateProposal} (hAligned : Aligned state)
    (hApply : applyProposal now state candidateId proposal = .ok state') :
    Aligned state' ∧ Lasting state state' := by
  obtain ⟨epoch, opportunity, -, hFind, hStatus, -, rfl⟩ := applyProposal_eq_ok hApply
  have hEpoch : (addProposal now state candidateId proposal
      epoch opportunity).epoch? proposal.epochId = some (epoch.addCandidate candidateId) :=
    epoch?_editEpoch_self (fun _ => rfl) hFind
  have hOthers : ∀ other, other ≠ proposal.epochId →
      (addProposal now state candidateId proposal epoch
        opportunity).epoch? other = state.epoch? other :=
    fun other hOther => epoch?_editEpoch_other (fun _ => rfl) hOther
  -- An epoch that is generating has no candidate.
  have hNew : ∀ candidate ∈ state.candidates, candidate.epochId ≠ proposal.epochId := by
    intro candidate hMem hSame
    obtain ⟨found, hFound, hMatches⟩ := hAligned.matched candidate hMem
    rw [hSame, hFind] at hFound
    cases hFound
    rw [hStatus] at hMatches
    cases hCase : candidate.status <;> simp [Matches] at hMatches
  refine ⟨⟨?_, ?_⟩, ?_⟩
  · exact KeyedList.DistinctKeys.concat hAligned.single hNew
  · intro candidate hMem
    rcases List.mem_append.1 hMem with hOld | hLast
    · rw [hOthers _ (hNew candidate hOld)]
      exact hAligned.matched candidate hOld
    · rw [List.mem_singleton] at hLast
      subst hLast
      exact ⟨_, hEpoch, trivial⟩
  · refine Lasting.update hFind hOthers hEpoch ?_ ?_
    · intro candidate hMem hElse
      rcases List.mem_append.1 hMem with hOld | hLast
      · exact hOld
      · rw [List.mem_singleton] at hLast
        subst hLast
        exact absurd rfl hElse
    · intro hTerminal
      rw [hStatus] at hTerminal
      cases hTerminal

theorem Aligned.evaluated {input : EvaluationInput} {gate : GeneralizationGateResult}
    {builds : List TrustedEvaluationBuild} (hAligned : Aligned state)
    (hDistinct : DistinctKeys EvolutionCandidate.candidateId state.candidates)
    (hFind : state.candidate? input.candidateId = some candidate)
    (hSpares : Spares state candidate) (hFrozen : candidate.status = .frozen)
    (hApply : applyGate now { state with evaluationBuilds := builds }
      candidate.epochId input gate = .ok state') : Aligned state' ∧ Lasting state state' := by
  obtain ⟨epoch, -, -, -, rfl⟩ := applyGate_eq_ok hApply
  refine hAligned.edited hDistinct hFind hSpares rfl rfl (fun _ => rfl) (fun _ => rfl) ?_
  intro epoch hMatches hSpared
  rw [hFrozen] at hMatches
  constructor
  · change Matches (candidateStatusOf gate.verdict) (epochStatusOf gate.verdict)
    cases gate.verdict <;> trivial
  · intro hTerminal
    cases hCase : epoch.status <;>
      simp [hCase, Matches, EpochStatus.terminal] at hMatches hTerminal hSpared

theorem Aligned.released {candidateId releaseId sourceDigest : String} (hAligned : Aligned state)
    (hDistinct : DistinctKeys EvolutionCandidate.candidateId state.candidates)
    (hFind : state.candidate? candidateId = some candidate)
    (hSpares : Spares state candidate) (hPassed : candidate.status = .passed)
    (hApply : applyRelease now state candidateId
      candidate.epochId releaseId sourceDigest = .ok state') :
    Aligned state' ∧ Lasting state state' := by
  obtain ⟨-, -, rfl⟩ := applyRelease_eq_ok hApply
  refine hAligned.edited hDistinct hFind hSpares rfl rfl (fun _ => rfl) (fun _ => rfl) ?_
  intro epoch hMatches hSpared
  rw [hPassed] at hMatches
  refine ⟨trivial, fun hTerminal => ?_⟩
  cases hCase : epoch.status <;>
    simp [hCase, Matches, EpochStatus.terminal] at hMatches hTerminal hSpared

/- Each deployment moves a candidate and its epoch alike. -/
theorem DeploymentOf.matches {w : SupervisorWorld} {releaseId : String} {call : SupervisorCall}
    {deployment : Deployment} {candidateStatus : CandidateStatus} {epochStatus : EpochStatus}
    (hOf : DeploymentOf now w candidate releaseId call deployment candidateStatus epochStatus) :
    Matches candidateStatus epochStatus ∧
      (candidate.status = .promoted ∧ epochStatus = .rolledBack ∨
        candidate.status = .built ∨ candidate.status = .previewing ∨
        candidate.status = .canarying) := by
  cases hOf with
  | preview status plan => exact ⟨trivial, .inr (.inl status)⟩
  | startCanary status plan => exact ⟨trivial, .inr (.inr (.inl status))⟩
  | promote status | cancelCanary status => exact ⟨trivial, .inr (.inr (.inr status))⟩
  | rollback status quiet owned plan => exact ⟨trivial, .inl ⟨status, rfl⟩⟩

theorem Aligned.deployed {candidateId : String} {candidateStatus : CandidateStatus}
    {epochStatus : EpochStatus} (hAligned : Aligned state)
    (hDistinct : DistinctKeys EvolutionCandidate.candidateId state.candidates)
    (hFind : state.candidate? candidateId = some candidate) (hSpares : Spares state candidate)
    (hNext : Matches candidateStatus epochStatus)
    (hFrom : candidate.status = .promoted ∧ epochStatus = .rolledBack ∨
      candidate.status = .built ∨ candidate.status = .previewing ∨ candidate.status = .canarying) :
    Aligned (setDeployment now state candidateId candidate.epochId candidateStatus epochStatus) ∧
      Lasting state (setDeployment now state candidateId
        candidate.epochId candidateStatus epochStatus) := by
  refine hAligned.edited hDistinct hFind hSpares rfl rfl (fun _ => rfl) (fun _ => rfl) ?_
  intro epoch hMatches hSpared
  refine ⟨hNext, fun hTerminal => ?_⟩
  -- Of these candidates only a promoted one has an epoch that
  -- has ended.
  rcases hFrom with ⟨hStatus, hRolled⟩ | hStatus | hStatus |
    hStatus <;> rw [hStatus] at hMatches <;> cases hCase : epoch.status <;>
    simp [hCase, Matches, EpochStatus.terminal] at hMatches hTerminal hSpared
  exact ⟨rfl, hRolled⟩

end

section

variable {state : SupervisorState} {now : Timestamp}

variable {epoch : EvolutionEpoch}

theorem expire_of_terminal (hTerminal : epoch.status.terminal) : epoch.expire now = epoch := by
  unfold EvolutionEpoch.expire
  rw [if_neg]
  simp [hTerminal]

/- A deadline may end the epoch of any candidate that is under way. -/
theorem Matches.expire {candidateStatus : CandidateStatus}
    (hMatches : Matches candidateStatus epoch.status) :
    Matches candidateStatus (epoch.expire now).status := by
  unfold EvolutionEpoch.expire
  split
  · rename_i hOverdue
    have hOpen := hOverdue.1
    change Matches candidateStatus .budgetExhausted
    cases hCase : epoch.status <;> cases candidateStatus <;>
      simp [hCase, Matches, EpochStatus.terminal] at hMatches hOpen ⊢
  · exact hMatches

theorem Aligned.expired (hAligned : Aligned state) :
    Aligned { state with epochs := state.epochs.map (EvolutionEpoch.expire now) } ∧
      Lasting state { state with epochs := state.epochs.map (EvolutionEpoch.expire now) } := by
  refine ⟨⟨hAligned.single, ?_⟩, ?_⟩
  · intro candidate hMem
    obtain ⟨epoch, hFind, hMatches⟩ := hAligned.matched candidate hMem
    exact ⟨epoch.expire now, epoch?_expired hFind, hMatches.expire⟩
  · intro epochId epoch hFind hTerminal
    refine ⟨⟨epoch, ?_, .inl rfl⟩, fun _ _ hMem _ => hMem⟩
    rw [epoch?_expired hFind, expire_of_terminal hTerminal]

end

section

variable {names : ReleaseNames} {w w' : SupervisorWorld}

theorem bootstrap_frame {now : Timestamp}
    (hSteps : Relation.ReflTransGen (BootstrapStep names now) w w') :
    w'.state.candidates = w.state.candidates ∧ w'.state.epochs = w.state.epochs := by
  induction hSteps with
  | refl => exact ⟨rfl, rfl⟩
  | tail _ hStep ih =>
    cases hStep with
    | recorded builds => exact ih
    | built build =>
      rw [(build_frame build).1]
      exact ih
    | deployed first known deploys plan => exact ih

theorem SupervisorCall.advances_of_deploys {call : SupervisorCall} {candidateId : String}
    (hDeploys : call.deploys = some candidateId) : call.advances = some candidateId := by
  cases call with
  | evaluateInput | evaluateSuite | buildVerifiedRelease => cases hDeploys
  | _ => exact hDeploys

/- The check that the calls miss: a deadline that ended an epoch stops its candidate. -/
abbrev SparesEnded (w : SupervisorWorld) (call : SupervisorCall) : Prop :=
  ∀ candidateId ∈ call.advances, ∀ candidate ∈ w.state.candidate? candidateId,
    Spares w.state candidate

/- One call, in a world in which the statuses agree. -/
theorem Aligned.effect {around : Surroundings} {call : SupervisorCall} (hAligned : Aligned w.state)
    (hFollowed : Followed w) (hSpares : SparesEnded w call)
    (hEffect : Effect names around w call w') : Aligned w'.state ∧ Lasting w.state w'.state := by
  have hDistinct := hFollowed.distinct
  cases hEffect with
  | unchanged => exact ⟨hAligned, .congr rfl rfl⟩
  | deployed deploys found released ofCall =>
    have hSpared := hSpares _ (SupervisorCall.advances_of_deploys deploys) _ found
    exact hAligned.deployed hDistinct found hSpared ofCall.matches.1 ofCall.matches.2
  | noted candidates epochs archive =>
    exact ⟨hAligned.congr candidates epochs, .congr candidates epochs⟩
  | bootstrapped steps =>
    obtain ⟨hCandidates, hEpochs⟩ := bootstrap_frame steps
    exact ⟨hAligned.congr hCandidates hEpochs, .congr hCandidates hEpochs⟩
  | epochStarted current => exact hAligned.started _
  | registered current proposed => exact hAligned.registered proposed
  | evaluated about found frozen complete =>
    exact hAligned.evaluated hDistinct found (hSpares _ about _ found) frozen complete
  | released about found passed build apply =>
    exact hAligned.released hDistinct found (hSpares _ about _ found) passed apply
  | expired => exact hAligned.expired
  | reconciled =>
    rw [SupervisorWorld.reconciled, hFollowed.updates]
    exact ⟨hAligned, .congr rfl rfl⟩

/- The condition under which epochs that ended stay so. -/
abbrev Orderly (w : SupervisorWorld) (op : HistoryOp) : Prop :=
  RollbackAllowed w op.call ∧ SparesEnded w op.call

theorem history_lasting {start : SupervisorWorld} {ops : List HistoryOp}
    (hStart : Followed start ∧ Aligned start.state)
    (hOrderly : Machine.Guarded (historyStep names) Orderly start ops) :
    (Followed (Machine.run (historyStep names) start ops) ∧
        Aligned (Machine.run (historyStep names) start ops).state) ∧
      Lasting start.state (Machine.run (historyStep names) start ops).state := by
  have hStep : ∀ w op, ((Followed w ∧ Aligned w.state) ∧
        Lasting start.state w.state) → Orderly w op →
      (Followed (historyStep names w op) ∧ Aligned (historyStep names w op).state) ∧
        Lasting start.state (historyStep names w op).state := by
    rintro w op ⟨⟨hFollowed, hAligned⟩, hLasting⟩ ⟨hAllowed, hSpares⟩
    have hEffect := perform_effect names op.around w op.call
    obtain ⟨hAligned', hNext⟩ := hAligned.effect hFollowed hSpares hEffect
    exact ⟨⟨hFollowed.effect hAllowed hEffect, hAligned'⟩, hLasting.trans hNext⟩
  exact Machine.run_invariant hStep ⟨hStart, .congr rfl rfl⟩ hOrderly

/- Lasting statuses, with what they say of the candidates. -/
theorem EndedAs.of_lasting {state state' : SupervisorState} {epochId : String}
    {epoch : EvolutionEpoch} (hAligned : Aligned state') (hLasting : Lasting state state')
    (hFind : state.epoch? epochId = some epoch) (hTerminal : epoch.status.terminal) :
    EndedAs epochId epoch.status state state' := by
  obtain ⟨⟨epoch', hFind', hStatus⟩, hKept⟩ := hLasting epochId epoch hFind hTerminal
  refine ⟨epoch', hFind', hStatus, ?_⟩
  intro hFailed candidate hMem hEpoch
  obtain ⟨found, hFound, hMatches⟩ := hAligned.matched candidate hMem
  rw [hEpoch, hFind'] at hFound
  cases hFound
  refine ⟨hKept hFailed candidate hMem hEpoch, ?_⟩
  rcases hStatus with hSame | ⟨hPromoted, -⟩
  · rw [hSame] at hMatches
    exact hMatches.failed hFailed
  · rw [hPromoted] at hFailed
    cases hFailed

end

/-
  In a history in which no call goes on with a candidate whose epoch a deadline
  has ended and no rollback restores the release it removes, an epoch that has
  ended after the first calls has ended alike after all of them, unless it was
  promoted and is rolled back. The candidates of an epoch that failed are what
  they were when it had, and deployed only if they were so at its deadline.
-/
theorem epochs_stay_ended (names : ReleaseNames) (before after : List HistoryOp)
    (hOrderly : Machine.Guarded (historyStep names) Orderly .empty (before ++ after))
    (epochId : String) (epoch : EvolutionEpoch)
    (hFind : (Machine.run (historyStep names) .empty before).state.epoch? epochId = some epoch)
    (hTerminal : epoch.status.terminal) :
    EndedAs epochId epoch.status (Machine.run (historyStep names) .empty before).state
      (Machine.run (historyStep names) .empty (before ++ after)).state := by
  obtain ⟨hBefore, hAfter⟩ := (Machine.guarded_append _ _ _ before after).1 hOrderly
  obtain ⟨hReached, -⟩ := history_lasting ⟨tracks_empty _ _, aligned_empty⟩ hBefore
  obtain ⟨⟨-, hAligned⟩, hLasting⟩ := history_lasting hReached hAfter
  rw [Machine.run_append]
  exact .of_lasting hAligned hLasting hFind hTerminal

/- After the deadline of every trial. -/
def late : Surroundings := ⟨⟨200⟩, .ok ()⟩

/- The deadline passes after a release was built. -/
def overdueBuild : List HistoryOp := (openingCalls ++ buildCalls "e" "a" "1").map
      (HistoryOp.mk calm) ++
    [⟨late, .enforceDeadlines⟩]

/- The preview of the release revives the epoch. -/
theorem overdue_epoch_revived :
    ((Machine.run (historyStep plainNames) .empty overdueBuild).state.epoch? "e").map
          EvolutionEpoch.status = some .budgetExhausted ∧
      ((Machine.run (historyStep plainNames) .empty
        (overdueBuild ++ [⟨late, .preview "a"⟩])).state.epoch? "e").map EvolutionEpoch.status =
        some .previewing ∧
      ((Machine.run (historyStep plainNames) .empty
        (overdueBuild ++ [⟨late, .preview "a"⟩])).state.candidate? "a").map
            EvolutionCandidate.status = some .previewing := by
  decide +kernel

/- The second epoch is rolled back after its promotion. -/
theorem promoted_epoch_rolled_back :
    EndedAs "f" .promoted (trialWorld twoPromotions).state
      (trialWorld (twoPromotions ++ [.rollback "b" "bad"])).state := by
  have hFind : ∃ epoch, (trialWorld twoPromotions).state.epoch? "f" =
          some epoch ∧ epoch.status = .promoted := by
    decide +kernel
  obtain ⟨epoch, hFind, hStatus⟩ := hFind
  rw [← hStatus]
  have hOrderly : Machine.Guarded (historyStep plainNames)
      Orderly .empty (twoPromotions.map (HistoryOp.mk calm) ++ [⟨calm, .rollback "b" "bad"⟩]) := by
    decide +kernel
  exact epochs_stay_ended plainNames _ _ hOrderly "f" epoch hFind (hStatus ▸ rfl)

end GolutraAgent.Supervisor
