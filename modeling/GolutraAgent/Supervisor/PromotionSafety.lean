import GolutraAgent.Library.Table
import GolutraAgent.Supervisor.Interleavings
import GolutraAgent.Supervisor.RollbackSafety

/-
  This file proves that processes that run beside each other promote only
  candidates that passed the gate and whose canary observations are all healthy,
  in every interleaving in which an evaluation still finds its candidate frozen
  when it records its result, and in which a promotion that is committed finds
  no unhealthy observation that came in since it began. Neither is checked again
  where it is relied on.

  Main declarations:
    * `promotions_sound`
-/

namespace GolutraAgent.Supervisor

open Release (Deployment DeploymentCall)
open SupervisorState

open KeyedList

namespace SupervisorState

variable (state : SupervisorState) (candidateId : String)

/- The verdicts on a candidate, the latest one last. -/
def verdicts : List GateVerdict :=
  (state.gateResults.filter (·.candidateId = candidateId)).map GeneralizationGateResult.verdict

def latestVerdict : Option GateVerdict := (state.verdicts candidateId).getLast?

end SupervisorState

/-
  The candidate and the release whose promotion a command commits, in the
  release store or in the state.
-/
def promotionCommitted (turn : SupervisorTurn) (w : SupervisorWorld) : Option (String × String) :=
  match turn.call, (turn.command : SupervisorCommand) with
  | .promote candidateId _, .deploy (.promote releaseId _) => some (candidateId, releaseId)
  | .promote candidateId _, .transact (.updateDeployment _ _ _) =>
    ((w.state.candidate? candidateId).bind EvolutionCandidate.releaseId).map (candidateId, ·)
  | _, _ => none

abbrev PromotionSound (state : SupervisorState) (candidateId releaseId : String) : Prop :=
  (∀ observation ∈ state.observationsOf candidateId releaseId,
      deploymentObservationUnhealthy observation = false) ∧
    state.latestVerdict candidateId = some .pass

/- The promotions that a command commits are sound. -/
abbrev PromotesSound (turn : SupervisorTurn) (w : SupervisorWorld) : Prop :=
  ∀ promotion ∈ promotionCommitted turn w, PromotionSound w.state promotion.1 promotion.2

/- The candidate whose gate result a command records. -/
def gateRecorded : SupervisorCommand → Option String
| .transact (.completeGate _ input _) => some input.candidateId
| _ => none

/-
  A gate result is recorded for a candidate that is frozen, and a promotion is
  committed while every observation of its release that came in since it began
  is healthy.
-/
abbrev Undisturbed (turn : SupervisorTurn) (w : SupervisorWorld) : Prop :=
  (∀ candidateId ∈ gateRecorded turn.command, ∀ candidate ∈ w.state.candidate? candidateId,
        candidate.status = .frozen) ∧
    ∀ promotion ∈ promotionCommitted turn w,
      ∀ observation ∈ w.state.observationsOf promotion.1 promotion.2,
        observation ∈ turn.start.state.observationsOf promotion.1 promotion.2 ∨
          deploymentObservationUnhealthy observation = false

/- What the status and the release of a candidate rest on. -/
structure Grounded (names : ReleaseNames) (state : SupervisorState)
    (candidate : EvolutionCandidate) : Prop where
  frozen : candidate.status = .frozen →
    state.verdicts candidate.candidateId = [] ∧ candidate.releaseId = none
  passed : candidate.status = .passed ∨ candidate.releaseId.isSome →
    state.latestVerdict candidate.candidateId = some .pass
  named : ∀ releaseId, candidate.releaseId = some releaseId →
    releaseId = names candidate.patchDigest candidate.candidateId

structure Judged (names : ReleaseNames) (state : SupervisorState) : Prop where
  distinct : DistinctKeys EvolutionCandidate.candidateId state.candidates
  known : ∀ gate ∈ state.gateResults, ∃ candidate ∈ state.candidates,
      candidate.candidateId = gate.candidateId
  grounded : ∀ candidate ∈ state.candidates, Grounded names state candidate

theorem judged_empty (names : ReleaseNames) : Judged names .empty where
  distinct := List.nodup_nil
  known := by rintro _ ⟨⟩
  grounded := by rintro _ ⟨⟩

/- A candidate that was judged is not judged again. -/
structure Remains (state state' : SupervisorState)
    (candidate candidate' : EvolutionCandidate) : Prop where
  digest : candidate'.patchDigest = candidate.patchDigest
  judged : candidate.status ≠ .frozen → candidate'.status ≠ .frozen ∧
      state'.verdicts candidate.candidateId = state.verdicts candidate.candidateId
  released : ∀ releaseId, candidate.releaseId = some releaseId →
      candidate'.releaseId = some releaseId

structure Progress (state state' : SupervisorState) : Prop where
  kept : ∀ candidateId candidate, state.candidate? candidateId = some candidate → ∃ candidate',
        state'.candidate? candidateId = some candidate' ∧ Remains state state' candidate candidate'
  observed : state.deploymentObservations <+: state'.deploymentObservations

theorem Progress.refl (state : SupervisorState) : Progress state state where
  kept := fun _ candidate hFind => ⟨candidate, hFind, rfl, fun h => ⟨h, rfl⟩, fun _ h => h⟩
  observed := List.prefix_rfl

theorem Progress.trans {state state' state'' : SupervisorState} (hFirst : Progress state state')
    (hThen : Progress state' state'') : Progress state state'' := by
  refine ⟨?_, hFirst.observed.trans hThen.observed⟩
  intro candidateId candidate hFind
  obtain ⟨candidate', hFind', hRemains⟩ := hFirst.kept candidateId candidate hFind
  obtain ⟨candidate'', hFind'', hRemains'⟩ := hThen.kept candidateId candidate' hFind'
  have hSame : candidate'.candidateId = candidate.candidateId :=
    (mem_of_candidate? hFind').2.trans (mem_of_candidate? hFind).2.symm
  refine ⟨candidate'', hFind'', hRemains'.digest.trans hRemains.digest, ?_, ?_⟩
  · intro hStatus
    obtain ⟨hStatus', hVerdicts⟩ := hRemains.judged hStatus
    obtain ⟨hStatus'', hVerdicts'⟩ := hRemains'.judged hStatus'
    rw [hSame] at hVerdicts'
    exact ⟨hStatus'', hVerdicts'.trans hVerdicts⟩
  · exact fun releaseId hRelease =>
      hRemains'.released releaseId (hRemains.released releaseId hRelease)

instance : IsPreorder SupervisorState Progress where
  refl := Progress.refl
  trans _ _ _ := Progress.trans

/- Worlds in which every verdict is accounted for. -/
abbrev Judging (names : ReleaseNames) : SupervisorWorld → SupervisorWorld → Prop :=
  GrowsIn (Judged names) Progress

section

variable {names : ReleaseNames} {state state' : SupervisorState}
variable {candidate : EvolutionCandidate} {candidateId : String}

/- The records that the judgement is about are the same. -/
theorem Judged.same (hJudged : Judged names state)
    (hCandidates : state'.candidates = state.candidates)
    (hGates : state'.gateResults = state.gateResults)
    (hObserved : state.deploymentObservations <+: state'.deploymentObservations) :
    Judged names state' ∧ Progress state state' := by
  have hVerdicts : state'.verdicts = state.verdicts := by
    unfold verdicts
    rw [hGates]
  refine ⟨⟨hCandidates ▸ hJudged.distinct, ?_, ?_⟩, ?_, hObserved⟩
  · rw [hCandidates, hGates]
    exact hJudged.known
  · rw [hCandidates]
    intro candidate hMem
    obtain ⟨hFrozen, hPassed, hNamed⟩ := hJudged.grounded candidate hMem
    unfold latestVerdict at hPassed
    rw [← hVerdicts] at hFrozen hPassed
    exact ⟨hFrozen, hPassed, hNamed⟩
  · intro id candidate hFind
    refine ⟨candidate, ?_, rfl, ?_, fun _ h => h⟩
    · unfold candidate? at ⊢
      rw [hCandidates]
      exact hFind
    · exact fun hStatus => ⟨hStatus, by rw [hVerdicts]⟩

/-
  One candidate changes. Verdicts are at most added, and only on that candidate
  and while it is frozen.
-/
theorem Judged.edit {change : EvolutionCandidate → EvolutionCandidate}
    (hJudged : Judged names state) (hFind : state.candidate? candidateId = some candidate)
    (hCandidates : state'.candidates = modifyFirst EvolutionCandidate.candidateId candidateId
        change state.candidates)
    (hKeeps : ∀ other, (change other).candidateId = other.candidateId)
    (hGates : ∀ gate, gate ∈ state'.gateResults →
      gate ∈ state.gateResults ∨ gate.candidateId = candidateId)
    (hVerdicts : ∀ other, other ≠ candidateId ∨ candidate.status ≠ .frozen →
        state'.verdicts other = state.verdicts other)
    (hObserved : state'.deploymentObservations = state.deploymentObservations)
    (hGrounded : Grounded names state' (change candidate))
    (hRemains : candidate.status ≠ .frozen → (change candidate).status ≠ .frozen)
    (hDigest : (change candidate).patchDigest = candidate.patchDigest)
    (hReleased : ∀ releaseId, candidate.releaseId = some releaseId →
        (change candidate).releaseId = some releaseId) :
    Judged names state' ∧ Progress state state' := by
  obtain ⟨hMem, rfl⟩ := mem_of_candidate? hFind
  -- the other candidates are judged as before
  have hMembers : ∀ other, other ∈ state'.candidates ↔
      (other ∈ state.candidates ∧ other.candidateId ≠ candidate.candidateId) ∨
        other = change candidate := by
    intro other
    rw [hCandidates]
    exact mem_modifyFirst_iff hJudged.distinct hMem rfl
  refine ⟨⟨?_, ?_, ?_⟩, ?_, hObserved ▸ List.prefix_rfl⟩
  · unfold DistinctKeys
    rw [hCandidates, map_modifyFirst hKeeps]
    exact hJudged.distinct
  · intro gate hGate
    have hChanged := (hMembers (change candidate)).2 (.inr rfl)
    rcases hGates gate hGate with hOld | hHere
    · obtain ⟨other, hOther, hId⟩ := hJudged.known gate hOld
      by_cases hSame : other.candidateId = candidate.candidateId
      · exact ⟨_, hChanged, (hKeeps candidate).trans (hSame.symm.trans hId)⟩
      · exact ⟨other, (hMembers other).2 (.inl ⟨hOther, hSame⟩), hId⟩
    · exact ⟨_, hChanged, (hKeeps candidate).trans hHere.symm⟩
  · intro other hOther
    rcases (hMembers other).1 hOther with ⟨hOld, hNe⟩ | rfl
    · obtain ⟨hFrozen, hPassed, hNamed⟩ := hJudged.grounded other hOld
      have hSame := hVerdicts other.candidateId (.inl hNe)
      unfold latestVerdict at hPassed
      rw [← hSame] at hFrozen hPassed
      exact ⟨hFrozen, hPassed, hNamed⟩
    · exact hGrounded
  · intro id found hFound
    have hLookup : state'.candidate? id =
        if id = candidate.candidateId then (state.candidate? id).map change
        else state.candidate? id := by
      unfold candidate?
      rw [hCandidates]
      exact find?_modifyFirst hKeeps state.candidates
    by_cases hSame : id = candidate.candidateId
    · subst hSame
      rw [hFind] at hFound
      cases hFound
      refine ⟨change candidate, ?_, hDigest, ?_, hReleased⟩
      · rw [hLookup, if_pos rfl, hFind]
        rfl
      · exact fun hStatus => ⟨hRemains hStatus, hVerdicts _ (.inr hStatus)⟩
    · refine ⟨found, ?_, rfl, ?_, fun _ h => h⟩
      · rw [hLookup, if_neg hSame]
        exact hFound
      · refine fun hStatus => ⟨hStatus, hVerdicts _ (.inl ?_)⟩
        rw [(mem_of_candidate? hFound).2]
        exact hSame

/- A candidate that has a release. -/
def HasRelease (state : SupervisorState) (candidateId : String) : Prop :=
  ∃ candidate, state.candidate? candidateId = some candidate ∧ candidate.releaseId.isSome

theorem HasRelease.progress (hHas : HasRelease state candidateId)
    (hProgress : Progress state state') : HasRelease state' candidateId := by
  obtain ⟨candidate, hFind, hSome⟩ := hHas
  obtain ⟨releaseId, hRelease⟩ := Option.isSome_iff_exists.1 hSome
  obtain ⟨candidate', hFind', hRemains⟩ := hProgress.kept candidateId candidate hFind
  exact ⟨candidate', hFind', by simp [hRemains.released releaseId hRelease]⟩

/- What was found before is still there. -/
theorem hasRelease_of_found {w : SupervisorWorld}
    (hFound : FoundReleased (Judging names) w candidateId) : HasRelease w.state candidateId := by
  obtain ⟨v, ⟨hJudged, -, hProgress⟩, candidate, hMem, rfl, hRelease⟩ := hFound
  exact HasRelease.progress ⟨candidate, Table.find?_key_eq_some hJudged.distinct hMem, hRelease⟩
    hProgress

section

variable (hJudged : Judged names state)
include hJudged

/- A candidate with a release gets a deployment's status. -/
theorem Judged.setStatus {status : CandidateStatus}
    (hHas : HasRelease state candidateId) (hStatus : status.deployment)
    (hCandidates : state'.candidates = modifyFirst EvolutionCandidate.candidateId candidateId
        (EvolutionCandidate.setStatus status) state.candidates)
    (hGates : state'.gateResults = state.gateResults)
    (hObserved : state'.deploymentObservations = state.deploymentObservations) :
    Judged names state' ∧ Progress state state' := by
  obtain ⟨candidate, hFind, hRelease⟩ := hHas
  have hMem := (mem_of_candidate? hFind).1
  have hGrounded := hJudged.grounded candidate hMem
  have hVerdicts : state'.verdicts = state.verdicts := by
    unfold verdicts
    rw [hGates]
  have hFrozen : status ≠ .frozen := by
    rintro rfl
    cases hStatus
  refine hJudged.edit hFind hCandidates (fun _ => rfl) (fun gate hGate => .inl (hGates ▸ hGate))
    (fun other _ => congrFun hVerdicts other) hObserved
    ⟨fun h => absurd h hFrozen, fun _ => ?_, hGrounded.named⟩ (fun _ => hFrozen) rfl (fun _ h => h)
  unfold latestVerdict
  rw [hVerdicts]
  exact hGrounded.passed (.inr hRelease)

theorem Judged.applyUpdate {now : Timestamp} {update : DeploymentUpdate}
    (hStatus : update.candidateStatus.deployment) (hHas : HasRelease state update.candidateId) :
    Judged names (applyUpdate now state update) ∧
      Progress state (Supervisor.applyUpdate now state update) :=
  hJudged.setStatus hHas hStatus rfl rfl rfl

variable {now : Timestamp}

/- The updates of a reconciliation, one after the other. -/
theorem Judged.reconciled {updates : List DeploymentUpdate}
    (hUpdates : ∀ update ∈ updates, update.candidateStatus.deployment ∧
        HasRelease state update.candidateId) :
    Judged names (updates.foldl (Supervisor.applyUpdate now) state) ∧
      Progress state (updates.foldl (Supervisor.applyUpdate now) state) := by
  induction updates generalizing state with
  | nil => exact ⟨hJudged, Progress.refl state⟩
  | cons update updates ih =>
    obtain ⟨hStatus, hHas⟩ := hUpdates update List.mem_cons_self
    obtain ⟨hJudged', hProgress⟩ := @Judged.applyUpdate names state hJudged now update hStatus hHas
    obtain ⟨hJudged'', hProgress'⟩ := ih hJudged' (by
      intro other hOther
      obtain ⟨hStatus, hHas⟩ := hUpdates other (List.mem_cons_of_mem _ hOther)
      exact ⟨hStatus, hHas.progress hProgress⟩)
    exact ⟨hJudged'', hProgress.trans hProgress'⟩

/- A candidate that has passed gets its release. -/
theorem Judged.setRelease {epochId releaseId sourceDigest : String}
    (hFind : state.candidate? candidateId = some candidate)
    (hPass : state.latestVerdict candidateId = some .pass)
    (hNamed : releaseId = names candidate.patchDigest candidateId) :
    Judged names (Supervisor.setRelease now state candidateId epochId releaseId sourceDigest) ∧
      Progress state (Supervisor.setRelease now state
        candidateId epochId releaseId sourceDigest) := by
  obtain ⟨hMem, hId⟩ := mem_of_candidate? hFind
  subst hId
  have hGrounded := hJudged.grounded candidate hMem
  refine hJudged.edit hFind rfl (fun _ => rfl) (fun gate hGate => .inl hGate) (fun _ _ => rfl) rfl
    ⟨fun h => (by cases h), fun _ => hPass, ?_⟩ (fun _ h => (by cases h)) rfl ?_
  · rintro _ ⟨⟩
    exact hNamed
  · intro earlier hEarlier
    rw [hGrounded.named earlier hEarlier, ← hNamed]
    rfl

/- A frozen candidate gets its only verdict. -/
theorem Judged.gateResult {epochId : String} {epoch : EvolutionEpoch} {input : EvaluationInput}
    {gate : GeneralizationGateResult} (hFind : state.candidate? input.candidateId = some candidate)
    (hFrozen : candidate.status = .frozen) (hGate : gate.candidateId = input.candidateId) :
    Judged names (addGateResult now state epochId epoch input gate) ∧
      Progress state (addGateResult now state epochId epoch input gate) := by
  obtain ⟨hMem, hId⟩ := mem_of_candidate? hFind
  have hGrounded := hJudged.grounded candidate hMem
  obtain ⟨hNone, hUnreleased⟩ := hGrounded.frozen hFrozen
  have hVerdicts : ∀ other, (addGateResult now state epochId epoch input gate).verdicts other =
        if other = input.candidateId then state.verdicts other ++ [gate.verdict]
        else state.verdicts other := by
    intro other
    change List.map _ (List.filter _ (state.gateResults ++ [gate])) = _
    by_cases hSame : other = input.candidateId
    · subst hSame
      simp [hGate, verdicts]
    · simp [hGate, verdicts, hSame, Ne.symm hSame]
  refine hJudged.edit hFind rfl (fun _ => rfl) ?_ ?_ rfl
    ⟨?_, ?_, ?_⟩ (absurd hFrozen) rfl (fun _ h => h)
  · intro other hOther
    rcases List.mem_append.1 hOther with hOld | hNew
    · exact .inl hOld
    · rw [List.mem_singleton] at hNew
      exact .inr (hNew ▸ hGate)
  · rintro other (hOther | hStatus)
    · rw [hVerdicts, if_neg hOther]
    · exact absurd hFrozen hStatus
  · intro hStatus
    change candidateStatusOf gate.verdict = .frozen at hStatus
    cases hCase : gate.verdict <;> simp [hCase, candidateStatusOf] at hStatus
  · intro hPassed
    change candidateStatusOf gate.verdict = .passed ∨ candidate.releaseId.isSome at hPassed
    rw [hUnreleased] at hPassed
    have hPass : gate.verdict = .pass := by
      cases hCase : gate.verdict <;> simp [hCase, candidateStatusOf] at hPassed
      rfl
    change ((addGateResult now state epochId epoch input
      gate).verdicts candidate.candidateId).getLast? = _
    rw [hVerdicts, if_pos hId, hPass, List.getLast?_concat]
  · intro releaseId hRelease
    change candidate.releaseId = some releaseId at hRelease
    rw [hUnreleased] at hRelease
    cases hRelease

/- A new candidate is frozen, and nothing judged it. -/
theorem Judged.proposed {proposal : CandidateProposal}
    (hApply : applyProposal now state candidateId proposal = .ok state') :
    Judged names state' ∧ Progress state state' := by
  obtain ⟨epoch, opportunity, hNew, -, -, -, rfl⟩ := applyProposal_eq_ok hApply
  have hFresh : ∀ candidate ∈ state.candidates, candidate.candidateId ≠ candidateId := by
    simpa [candidate?] using hNew
  have hNone : state.verdicts candidateId = [] := by
    unfold verdicts
    rw [List.map_eq_nil_iff, List.filter_eq_nil_iff]
    intro gate hGate
    obtain ⟨candidate, hMem, hId⟩ := hJudged.known gate hGate
    rw [decide_eq_true_eq, ← hId]
    exact hFresh candidate hMem
  refine ⟨⟨?_, ?_, ?_⟩, ?_, List.prefix_rfl⟩
  · exact KeyedList.DistinctKeys.concat hJudged.distinct hFresh
  · intro gate hGate
    obtain ⟨candidate, hMem, hId⟩ := hJudged.known gate hGate
    exact ⟨candidate, List.mem_append_left _ hMem, hId⟩
  · intro candidate hMem
    rcases List.mem_append.1 hMem with hOld | hLast
    · obtain ⟨hFrozen, hPassed, hNamed⟩ := hJudged.grounded candidate hOld
      exact ⟨hFrozen, hPassed, hNamed⟩
    · rw [List.mem_singleton] at hLast
      subst hLast
      refine ⟨fun _ => ⟨hNone, rfl⟩, ?_, ?_⟩
      · rintro (h | h) <;> cases h
      · rintro _ ⟨⟩
  · intro id candidate hFind
    refine ⟨candidate, ?_, rfl, fun h => ⟨h, rfl⟩, fun _ h => h⟩
    change (state.candidates ++ [_]).find? _ = _
    unfold candidate? at hFind
    rw [List.find?_append, hFind]
    rfl

end

end

section

variable {names : ReleaseNames} {w : SupervisorWorld}
variable {now : Timestamp} {transaction : Transaction}

/- Records that bear on no candidate. -/
theorem Judged.noted {state state' : SupervisorState} (hJudged : Judged names state)
    (hNotes : transaction.notes) (hApply : transaction.apply now state = .ok state') :
    Judged names state' ∧ Progress state state' := by
  obtain ⟨hCandidates, hGates, hObserved, -⟩ := noted_frame hNotes hApply
  exact hJudged.same hCandidates hGates (hObserved ▸ List.prefix_rfl)

/- The verdict of a candidate that had passed before. -/
theorem latestVerdict_of_passed {v : SupervisorWorld} {candidateId : String}
    {candidate : EvolutionCandidate} (hBefore : Judging names v w)
    (hFind : v.state.candidate? candidateId = some candidate)
    (hPassed : candidate.status = .passed ∨ candidate.releaseId.isSome) :
    w.state.latestVerdict candidateId = some .pass := by
  obtain ⟨hJudged, -, hProgress⟩ := hBefore
  obtain ⟨hMem, rfl⟩ := mem_of_candidate? hFind
  have hGrounded := hJudged.grounded candidate hMem
  have hFrozen : candidate.status ≠ .frozen := by
    intro hFrozen
    rw [hFrozen, (hGrounded.frozen hFrozen).2] at hPassed
    rcases hPassed with h | h <;> cases h
  obtain ⟨candidate', -, hRemains⟩ := hProgress.kept _ candidate hFind
  unfold latestVerdict
  rw [(hRemains.judged hFrozen).2]
  exact hGrounded.passed hPassed

/- Every command that is undisturbed keeps the judgement. -/
theorem judging_grows (names : ReleaseNames) : Grows names (Judging names) Undisturbed := by
  refine grows_of_transact ?_
  rintro call start transaction now w state hJudged ⟨hGate, -⟩ hIssued hApply
  cases hIssued with
  | read reads => cases reads
  | noted notes => exact hJudged.noted notes hApply
  | epochStarted =>
    simp only [Transaction.apply] at hApply
    split at hApply
    · cases hApply
    · cases hApply
      exact hJudged.same rfl rfl List.prefix_rfl
  | registered => exact hJudged.proposed hApply
  | @evaluated _ v input candidate epoch before found frozen inEpoch disclosed =>
    obtain ⟨epoch', stored, -, hStored, rfl⟩ := applyGate_eq_ok hApply
    exact hJudged.gateResult hStored (hGate _ rfl stored hStored) rfl
  | @released _ v candidateId releaseId candidate before found passed named =>
    obtain ⟨stored, hStored, rfl⟩ := applyRelease_eq_ok hApply
    obtain ⟨candidate', hFind', hRemains⟩ := before.2.2.kept candidateId candidate found
    rw [hStored] at hFind'
    cases hFind'
    refine hJudged.setRelease hStored (latestVerdict_of_passed before found (.inl passed)) ?_
    rw [hRemains.digest]
    exact named
  | observed =>
    cases hApply
    exact hJudged.same rfl rfl (List.prefix_append _ _)
  | updated other found status =>
    obtain ⟨stored, -, rfl⟩ := applyDeployment_eq_ok hApply
    exact hJudged.setStatus (hasRelease_of_found found) status rfl rfl rfl
  | @promotionNoted candidateId releaseId reason checked =>
    obtain ⟨stored, -, rfl⟩ := applyDeployment_eq_ok hApply
    obtain ⟨u, v, candidate, -, hBefore, -, hFind, hRelease, -⟩ := checked
    refine hJudged.setStatus ?_ rfl rfl rfl rfl
    exact HasRelease.progress ⟨candidate, hFind, by simp [hRelease]⟩ hBefore.2.2
  | expired =>
    cases hApply
    exact hJudged.same rfl rfl List.prefix_rfl
  | reconciled found =>
    cases hApply
    refine hJudged.reconciled ?_
    intro update hUpdate
    obtain ⟨hStatus, hFound⟩ := found update hUpdate
    exact ⟨hStatus, hasRelease_of_found hFound⟩

variable {candidateId releaseId : String}

/- What a promotion has checked still holds. -/
theorem promotionSound_of_checked {start : SupervisorWorld}
    (hChecked : PromotionChecked (Judging names) start w candidateId releaseId)
    (hObserved : ∀ observation ∈ w.state.observationsOf candidateId releaseId,
      observation ∈ start.state.observationsOf candidateId releaseId ∨
        deploymentObservationUnhealthy observation = false) :
    PromotionSound w.state candidateId releaseId := by
  obtain ⟨u, v, candidate, hStart, hFound, -, hFind, hRelease, hHealthy⟩ := hChecked
  refine ⟨?_, latestVerdict_of_passed hFound hFind (.inr (by simp [hRelease]))⟩
  intro observation hMem
  rcases hObserved observation hMem with hOld | hNew
  · -- The check saw what was there at the start: observations only come in.
    have hSeen : observation ∈ v.state.observationsOf candidateId releaseId :=
      (hStart.2.2.observed.sublist.filter _).subset hOld
    exact healthy_of_checkHealthy hHealthy observation hSeen
  · exact hNew

variable {turn : SupervisorTurn}

theorem promotionCommitted_eq_some
    (hPromotion : promotionCommitted turn w = some (candidateId, releaseId)) :
    ∃ reason, turn.call = .promote candidateId reason ∧
      ((∃ reason', turn.command = SupervisorCommand.deploy (.promote releaseId reason')) ∨
        ∃ updatedId candidateStatus epochStatus candidate, turn.command = SupervisorCommand.transact
              (.updateDeployment updatedId candidateStatus epochStatus) ∧
            w.state.candidate? candidateId = some candidate ∧
            candidate.releaseId = some releaseId) := by
  obtain ⟨call, start, command⟩ := turn
  unfold promotionCommitted at hPromotion
  dsimp only at hPromotion
  split at hPromotion
  · cases hPromotion
    exact ⟨_, rfl, .inl ⟨_, rfl⟩⟩
  · obtain ⟨release, hRelease, hPair⟩ := Option.map_eq_some_iff.1 hPromotion
    obtain ⟨candidate, hFind, hOf⟩ := Option.bind_eq_some_iff.1 hRelease
    cases hPair
    exact ⟨_, rfl, .inr ⟨_, _, _, candidate, rfl, hFind, hOf⟩⟩
  · cases hPromotion

theorem promotesSound_of_issued (hIssued : IssuedTurn names (Judging names) turn w)
    (hUndisturbed : Undisturbed turn w) : PromotesSound turn w := by
  rintro ⟨candidateId, releaseId⟩ hPromotion
  have hObserved := hUndisturbed.2 _ hPromotion
  obtain ⟨reason, hCall, hCommand⟩ := promotionCommitted_eq_some hPromotion
  unfold IssuedTurn at hIssued
  rw [hCall] at hIssued
  rcases hCommand with ⟨reason', hCommand⟩ |
    ⟨updatedId, candidateStatus, epochStatus, candidate, hCommand, hFind, hRelease⟩
  · rw [hCommand] at hIssued
    cases hIssued with
    | read reads => cases reads
    | deployed other => cases other
    | promoted checked => exact promotionSound_of_checked checked hObserved
  · rw [hCommand] at hIssued
    cases hIssued with
    | read reads => cases reads
    | noted notes => cases notes
    | updated other found status => cases other
    | @promotionNoted _ earlierId _ checked =>
      -- The release of the candidate is still the same.
      obtain ⟨u, v, earlier, -, hBefore, -, hEarlier, hReleased, -⟩ := id checked
      obtain ⟨candidate', hFind', hRemains⟩ := hBefore.2.2.kept candidateId earlier hEarlier
      rw [hFind] at hFind'
      cases hFind'
      rw [hRemains.released earlierId hReleased] at hRelease
      cases hRelease
      exact promotionSound_of_checked checked hObserved

end

/-
  In every interleaving in which gate results are recorded for frozen candidates
  only, and promotions are committed while the observations that came in since
  they began are healthy, every promotion is sound when it is committed, in the
  release store and in the state.
-/
theorem promotions_sound (names : ReleaseNames) (ops : List SupervisorPoolOp)
    (hUndisturbed : Machine.Guarded (interleave names)
      (Pool.Permits Undisturbed) ⟨.empty, []⟩ ops) :
    Machine.Guarded (interleave names) (Pool.Permits PromotesSound) ⟨.empty, []⟩ ops := by
  obtain ⟨hIssued, -⟩ := interleaving_issued (GrowsIn.root (judged_empty names))
    (judging_grows names) hUndisturbed
  refine (hIssued.and hUndisturbed).mono ?_
  rintro s (_ | ⟨index, around⟩ | _ | _) ⟨⟨-, hStep⟩, hAllowed⟩
  · trivial
  · intro turn hTurn
    exact promotesSound_of_issued (hStep turn hTurn) (hAllowed turn hTurn)
  · trivial
  · trivial

def badHealth (candidateId releaseId : String) : DeploymentObservation :=
  ⟨candidateId, releaseId, 1, 1, true, true, 0, 0⟩

/- The canary of the candidate is healthy so far. -/
def canaryRun : List SupervisorPoolOp :=
  oneByOne calm 30 0 (openingCalls ++ buildCalls "e" "a" "1" ++ canaryCalls "a" "1-a") ++
      [.spawn (.promote "a" "healthy")]

/-
  An unhealthy observation is recorded after the promotion has made its checks,
  and the promotion goes on.
-/
theorem late_observation_overlooked :
    ¬ Machine.Guarded (interleave plainNames) (Pool.Permits PromotesSound) ⟨.empty, []⟩
      (canaryRun ++ List.replicate 3 (.advance 9 calm) ++
        .spawn (.recordCanaryObservation (badHealth "a" "1-a")) ::
        List.replicate 2 (.advance 10 calm) ++ [.advance 9 calm]) := by
  decide +kernel

/- A healthy observation is recorded meanwhile, and the release becomes the stable one. -/
theorem watched_promotion_sound :
    let ops := canaryRun ++ List.replicate 3 (.advance 9 calm) ++
      .spawn (.recordCanaryObservation (goodHealth "a" "1-a")) ::
      List.replicate 2 (.advance 10 calm) ++ List.replicate 2 (.advance 9 calm)
    let w := (Machine.run (interleave plainNames) ⟨.empty, []⟩ ops).world
    (w.state.observationsOf "a" "1-a").length = 2 ∧ w.pointers.ids.stable = some "1-a" ∧
      Machine.Guarded (interleave plainNames) (Pool.Permits PromotesSound) ⟨.empty, []⟩ ops :=
  ⟨by decide +kernel, by decide +kernel, promotions_sound plainNames _ (by decide +kernel)⟩

end GolutraAgent.Supervisor
