import GolutraAgent.Supervisor.DeploymentAgreement

/-
  This file proves that the statuses of all candidates agree with the release
  store after every history. In every history a release that is stable, or was,
  is that of a candidate which is promoted or rolled back. If no rollback of a
  stable release restores that same release, the status is exactly the one that
  the store shows.
-/

namespace GolutraAgent.Supervisor

open Release (ReleaseError ReleasePointer PointerName Pointers
  Deployment DeploymentCall DeploymentPhase DeployedIds Logged)

open KeyedList

/- What holds of one candidate in the world. -/
structure Tracked (current rolled : CandidateStatus → Prop)
    (w : SupervisorWorld) (candidate : EvolutionCandidate) : Prop where
  unreleased : candidate.status = .frozen ∨ candidate.status = .passed → candidate.releaseId = none
  released : ∀ releaseId, candidate.releaseId = some releaseId →
      ∃ release, w.release? releaseId = some release ∧
        release.candidateId = candidate.candidateId ∧ release.parentReleaseId ≠ none
  chained : ∀ releaseId, candidate.releaseId = some releaseId →
      w.pointers.ids.stable = some releaseId → w.pointers.previousStable.isSome
  agrees : ∀ releaseId, candidate.releaseId = some releaseId →
      Agrees current rolled w.pointers.ids w.deployments releaseId candidate.status

structure Tracks (current rolled : CandidateStatus → Prop) (w : SupervisorWorld) : Prop where
  distinct : DistinctKeys EvolutionCandidate.candidateId w.state.candidates
  logged : Logged w.pointers w.deployments
  based : w.state.candidates ≠ [] → w.pointers.stable.isSome
  each : ∀ candidate ∈ w.state.candidates, Tracked current rolled w candidate
  owned : ∀ releaseId, Named w.pointers.ids w.deployments releaseId →
      (∃ release, w.release? releaseId = some release ∧ release.parentReleaseId = none) ∨
      ∃ candidate ∈ w.state.candidates, candidate.releaseId = some releaseId

theorem tracks_empty (current rolled : CandidateStatus → Prop) : Tracks current rolled .empty where
  distinct := List.nodup_nil
  logged := Release.logged_empty
  based := fun hSome => absurd rfl hSome
  each := by rintro _ ⟨⟩
  owned := by
    rintro releaseId (h | h | h | h | ⟨deployment, h, -⟩) <;> cases h

section

variable {current rolled : CandidateStatus → Prop} {w w' : SupervisorWorld} {names : ReleaseNames}

variable {candidate other : EvolutionCandidate}

/- Two candidates do not share an identifier. -/
theorem Tracks.eq_of_candidateId (hTracks : Tracks current rolled w)
    (hCandidate : candidate ∈ w.state.candidates) (hOther : other ∈ w.state.candidates)
    (hId : candidate.candidateId = other.candidateId) : candidate = other :=
  List.inj_on_of_nodup_map hTracks.distinct hCandidate hOther hId

variable {releaseId : String}

/- Nor do they share a release. -/
theorem Tracks.eq_of_releaseId (hTracks : Tracks current rolled w)
    (hCandidate : candidate ∈ w.state.candidates) (hOther : other ∈ w.state.candidates)
    (hRelease : candidate.releaseId = some releaseId)
    (hShared : other.releaseId = some releaseId) : candidate = other := by
  obtain ⟨release, hFind, hId, -⟩ := (hTracks.each candidate hCandidate).released _ hRelease
  obtain ⟨release', hFind', hId', -⟩ := (hTracks.each other hOther).released _ hShared
  rw [hFind] at hFind'
  cases hFind'
  exact hTracks.eq_of_candidateId hCandidate hOther (hId.symm.trans hId')

/- The store shows the same, and may have more releases. -/
theorem Tracked.keep (hTracked : Tracked current rolled w candidate)
    (hPointers : w'.pointers = w.pointers) (hDeployments : w'.deployments = w.deployments)
    (hReleases : ∀ releaseId release, w.release? releaseId = some release →
        w'.release? releaseId = some release) : Tracked current rolled w' candidate := by
  refine ⟨hTracked.unreleased, ?_, hPointers ▸ hTracked.chained,
    hPointers ▸ hDeployments ▸ hTracked.agrees⟩
  intro releaseId hRelease
  obtain ⟨release, hFind, hRest⟩ := hTracked.released releaseId hRelease
  exact ⟨release, hReleases _ _ hFind, hRest⟩

theorem Tracks.keep (hTracks : Tracks current rolled w)
    (hCandidates : w'.state.candidates = w.state.candidates)
    (hPointers : w'.pointers = w.pointers) (hDeployments : w'.deployments = w.deployments)
    (hReleases : ∀ releaseId release, w.release? releaseId = some release →
        w'.release? releaseId = some release) : Tracks current rolled w' := by
  refine ⟨hCandidates ▸ hTracks.distinct, hPointers ▸ hDeployments ▸ hTracks.logged,
    hCandidates ▸ hPointers ▸ hTracks.based, ?_, ?_⟩
  · intro candidate hMem
    rw [hCandidates] at hMem
    exact (hTracks.each candidate hMem).keep hPointers hDeployments hReleases
  · rw [hCandidates, hPointers, hDeployments]
    intro releaseId hNamed
    refine (hTracks.owned releaseId hNamed).imp ?_ id
    rintro ⟨release, hFind, hFirst⟩
    exact ⟨release, hReleases _ _ hFind, hFirst⟩

/- A deployment is about the release of no candidate here. -/
theorem Tracked.deployed {now : Timestamp} {call : DeploymentCall} {pointer : ReleasePointer}
    {deployment : Deployment} (hTracked : Tracked current rolled w candidate)
    (hLogged : Logged w.pointers w.deployments)
    (hPlan : call.plan w.ensureManifest now w.pointers = .ok (pointer, deployment))
    (hOther : ∀ releaseId, candidate.releaseId = some releaseId →
        deploymentTarget w.pointers call ≠ some releaseId) :
    Tracked current rolled (w.deployed deployment) candidate := by
  refine ⟨hTracked.unreleased, hTracked.released, ?_, ?_⟩
  · intro releaseId hRelease
    exact plan_previous hPlan (hTracked.chained releaseId hRelease) (hOther releaseId hRelease)
  · intro releaseId hRelease
    exact (hTracked.agrees releaseId hRelease).other (Release.plan_moves hPlan hLogged.kept)
      (hOther releaseId hRelease)

/-
  One candidate changes, together with the release store. The store shows the
  others as before.
-/
theorem Tracks.update (hTracks : Tracks current rolled w) {candidate : EvolutionCandidate}
    (hMem : candidate ∈ w.state.candidates) {change : EvolutionCandidate → EvolutionCandidate}
    (hCandidates : w'.state.candidates = modifyFirst EvolutionCandidate.candidateId
        candidate.candidateId change w.state.candidates)
    (hKeeps : ∀ other, (change other).candidateId = other.candidateId)
    (hLogged : Logged w'.pointers w'.deployments)
    (hBased : w.pointers.stable.isSome → w'.pointers.stable.isSome)
    (hReleases : ∀ releaseId release, w.release? releaseId = some release →
        w'.release? releaseId = some release)
    (hKept : ∀ releaseId, candidate.releaseId = some releaseId →
        (change candidate).releaseId = some releaseId)
    (hOthers : ∀ other ∈ w.state.candidates, other ≠ candidate → Tracked current rolled w' other)
    (hSelf : Tracked current rolled w' (change candidate))
    (hOwned : ∀ releaseId, Named w'.pointers.ids w'.deployments releaseId →
        Named w.pointers.ids w.deployments releaseId ∨
          (change candidate).releaseId = some releaseId) : Tracks current rolled w' := by
  have hElements : ∀ other, other ∈ w'.state.candidates ↔
      (other ∈ w.state.candidates ∧ other.candidateId ≠ candidate.candidateId) ∨
      other = change candidate := by
    intro other
    rw [hCandidates]
    exact mem_modifyFirst_iff hTracks.distinct hMem rfl
  refine ⟨?_, hLogged, fun _ => hBased (hTracks.based (List.ne_nil_of_mem hMem)), ?_, ?_⟩
  · unfold DistinctKeys
    rw [hCandidates, map_modifyFirst hKeeps]
    exact hTracks.distinct
  · intro other hOther
    rcases (hElements other).1 hOther with ⟨hOld, hId⟩ | rfl
    · exact hOthers other hOld (fun hSame => hId (hSame ▸ rfl))
    · exact hSelf
  · intro releaseId hNamed
    have hChanged := (hElements (change candidate)).2 (.inr rfl)
    rcases hOwned releaseId hNamed with hBefore | hHere
    · rcases hTracks.owned releaseId hBefore with
        ⟨release, hFind, hFirst⟩ | ⟨other, hOther, hRelease⟩
      · exact .inl ⟨release, hReleases _ _ hFind, hFirst⟩
      · by_cases hSame : other = candidate
        · subst hSame
          exact .inr ⟨_, hChanged, hKept releaseId hRelease⟩
        · refine .inr ⟨other, (hElements other).2 (.inl ⟨hOther, fun hId => hSame ?_⟩), hRelease⟩
          exact hTracks.eq_of_candidateId hOther hMem hId
    · exact .inr ⟨_, hChanged, hHere⟩

/- A release that is known stays known through a build. -/
theorem release?_build {candidateId sourceDigest : String}
    {parentReleaseId : Option String} {built : Except ReleaseError String}
    (hBuild : w.build names candidateId sourceDigest parentReleaseId = (built, w'))
    {release : BuiltRelease} (hFind : w.release? releaseId = some release) :
    w'.release? releaseId = some release := by
  unfold SupervisorWorld.build at hBuild
  dsimp only at hBuild
  split at hBuild
  · cases hBuild
    simp only [SupervisorWorld.release?] at hFind ⊢
    rw [List.find?_append, hFind]
    rfl
  · split at hBuild <;> cases hBuild <;> exact hFind

variable {now : Timestamp}

section

variable (hTracks : Tracks current rolled w)
include hTracks

theorem Tracks.bootstrapStep (hStep : BootstrapStep names now w w') : Tracks current rolled w' := by
  cases hStep with
  | recorded builds => exact hTracks.keep rfl rfl rfl (fun _ _ h => h)
  | built build =>
    obtain ⟨hState, hPointers, hDeployments⟩ := build_frame build
    exact hTracks.keep (by rw [hState]) hPointers hDeployments (fun _ _ => release?_build build)
  | @deployed release call pointer deployment first known deploys plan =>
    have hTarget : deploymentTarget w.pointers call = some release.releaseId := by
      rcases deploys with rfl | rfl | rfl <;> rfl
    refine ⟨hTracks.distinct, hTracks.logged.plan plan,
      fun hSome => plan_stable plan (hTracks.based hSome), ?_, ?_⟩
    · intro candidate hMem
      have hTracked := hTracks.each candidate hMem
      refine hTracked.deployed hTracks.logged plan ?_
      -- No candidate has the release of a bootstrap.
      intro releaseId hRelease hSame
      rw [hTarget] at hSame
      cases hSame
      obtain ⟨release', hFind, -, hParent⟩ := hTracked.released _ hRelease
      rw [known] at hFind
      cases hFind
      exact hParent first
    · intro releaseId hNamed
      rcases named_of_moves (Release.plan_moves plan
        hTracks.logged.kept) hNamed with hBefore | hHere
      · exact hTracks.owned releaseId hBefore
      · rw [hTarget] at hHere
        cases hHere
        exact .inl ⟨release, known, first⟩

variable {state : SupervisorState}

theorem Tracks.registered {candidateId : String}
    {proposal : CandidateProposal} (hCurrent : w.pointers.stable.isSome)
    (hApply : applyProposal now w.state candidateId proposal = .ok state) :
    Tracks current rolled { w with state := state } := by
  obtain ⟨epoch, opportunity, hNew, -, -, -, rfl⟩ := applyProposal_eq_ok hApply
  have hMembers : ∀ candidate, candidate ∈ (addProposal now w.state candidateId proposal
        epoch opportunity).candidates ↔
      candidate ∈ w.state.candidates ∨ candidate = freezeCandidate candidateId proposal
          opportunity now := by
    simp [addProposal, SupervisorState.editEpoch]
  have hFresh : ∀ candidate ∈ w.state.candidates, candidate.candidateId ≠ candidateId := by
    simpa [SupervisorState.candidate?] using hNew
  refine ⟨hTracks.distinct.concat hFresh, hTracks.logged, fun _ => hCurrent, ?_, ?_⟩
  · intro candidate hMem
    rcases (hMembers candidate).1 hMem with hOld | rfl
    · exact (hTracks.each candidate hOld).keep rfl rfl (fun _ _ h => h)
    · refine ⟨fun _ => rfl, ?_, ?_, ?_⟩ <;> rintro _ ⟨⟩
  · intro releaseId hNamed
    refine (hTracks.owned releaseId hNamed).imp id ?_
    rintro ⟨candidate, hMem, hRelease⟩
    exact ⟨candidate, (hMembers candidate).2 (.inl hMem), hRelease⟩

theorem Tracks.evaluated {now : Timestamp} {input : EvaluationInput}
    {candidate : EvolutionCandidate} {gate : GeneralizationGateResult}
    {builds : List TrustedEvaluationBuild} {state : SupervisorState}
    (hFind : w.state.candidate? input.candidateId = some candidate)
    (hFrozen : candidate.status = .frozen)
    (hApply : applyGate now { w.state with evaluationBuilds := builds }
      candidate.epochId input gate = .ok state) :
    Tracks current rolled { w with state := state } := by
  obtain ⟨epoch, stored, -, -, rfl⟩ := applyGate_eq_ok hApply
  obtain ⟨hMem, hId⟩ := mem_of_candidate? hFind
  have hNone := (hTracks.each candidate hMem).unreleased (.inl hFrozen)
  have hSome : ∀ releaseId, candidate.releaseId ≠ some releaseId := by simp [hNone]
  have hCandidates : (addGateResult now { w.state with evaluationBuilds := builds }
      candidate.epochId epoch input gate).candidates = modifyFirst EvolutionCandidate.candidateId
          candidate.candidateId (EvolutionCandidate.setStatus (candidateStatusOf gate.verdict))
          w.state.candidates := by
    rw [hId]
    rfl
  refine hTracks.update hMem hCandidates (fun _ => rfl) hTracks.logged id (fun _ _ h => h)
    (fun _ h => h) ?_ ?_ (fun _ h => .inl h)
  · intro other hOther _
    exact (hTracks.each other hOther).keep rfl rfl (fun _ _ h => h)
  · exact ⟨fun _ => hNone, fun _ h => absurd h (hSome _), fun _ h => absurd h (hSome _),
      fun _ h => absurd h (hSome _)⟩

theorem Tracks.released_candidate {candidateId releaseId parentReleaseId : String}
    {candidate : EvolutionCandidate} (hFind : w.state.candidate? candidateId = some candidate)
    (hPassed : candidate.status = .passed) (hBuild : w.build names candidateId candidate.patchDigest
      (some parentReleaseId) = (.ok releaseId, w'))
    (hApply : applyRelease now w.state candidateId
      candidate.epochId releaseId candidate.patchDigest = .ok state) :
    Tracks current rolled { w' with state := state } := by
  obtain ⟨-, -, rfl⟩ := applyRelease_eq_ok hApply
  obtain ⟨hMem, rfl⟩ := mem_of_candidate? hFind
  obtain ⟨hState, hPointers, hDeployments⟩ := build_frame hBuild
  have hNone := (hTracks.each candidate hMem).unreleased (.inr hPassed)
  obtain ⟨release, hRelease, hParent, hCandidate, hKnown⟩ := build_known hBuild
  -- The store cannot name a release that no candidate has.
  have hNew : ¬ Named w.pointers.ids w.deployments releaseId := by
    intro hNamed
    rcases hTracks.owned releaseId hNamed with ⟨first, hFirst, hRoot⟩ | ⟨other, hOther, hShared⟩
    · have hSame := release?_build hBuild hFirst
      rw [← hRelease, hKnown] at hSame
      cases hSame
      rw [hParent] at hRoot
      cases hRoot
    · obtain ⟨known, hFound, hOwner, -⟩ := (hTracks.each other hOther).released _ hShared
      have hSame := release?_build hBuild hFound
      rw [← hRelease, hKnown] at hSame
      cases hSame
      have hEq := hTracks.eq_of_candidateId hMem hOther (hCandidate.symm.trans hOwner)
      subst hEq
      rw [hNone] at hShared
      cases hShared
  refine hTracks.update hMem rfl (fun _ => rfl) (hPointers ▸ hDeployments ▸ hTracks.logged)
    (by rw [hPointers]; exact id) (fun _ _ h => release?_build hBuild h)
    (fun _ h => absurd h (by simp [hNone])) ?_ ?_ ?_
  · intro other hOther _
    exact (hTracks.each other hOther).keep hPointers
      hDeployments (fun _ _ h => release?_build hBuild h)
  · refine ⟨(by rintro (h | h) <;> cases h), ?_, ?_, ?_⟩ <;> rintro _ ⟨⟩
    · exact ⟨release, hRelease ▸ hKnown, hCandidate, by simp [hParent]⟩
    · rw [hPointers]
      exact fun hStable => absurd (.inr (.inr (.inl hStable))) hNew
    · rw [hPointers, hDeployments]
      exact Agrees.of_not_named hNew
  · intro releaseId' hNamed
    rw [hPointers, hDeployments] at hNamed
    exact .inl hNamed

end

theorem Tracks.deployed {now : Timestamp} {call : SupervisorCall} {candidateId releaseId : String}
    {candidate : EvolutionCandidate} {deployment : Deployment} {candidateStatus : CandidateStatus}
    {epochStatus : EpochStatus} (hRetired : Retired current rolled)
    (hTracks : Tracks current rolled w) (hFind : w.state.candidate? candidateId = some candidate)
    (hRelease : candidate.releaseId = some releaseId)
    (hOf : DeploymentOf now w candidate releaseId call deployment candidateStatus epochStatus)
    (hAllowed : ∀ candidateId reason, call = .rollback candidateId reason →
        current .rolledBack ∨ RestoresOther w releaseId) :
    Tracks current rolled { w.deployed deployment with
      state := setDeployment now w.state candidateId
        candidate.epochId candidateStatus epochStatus } := by
  obtain ⟨hMem, rfl⟩ := mem_of_candidate? hFind
  obtain ⟨plan, pointer, hPlan, hTarget⟩ := hOf.plan
  have hStable := hTracks.based (List.ne_nil_of_mem hMem)
  have hTracked := hTracks.each candidate hMem
  have hStatus : ¬ (candidateStatus = .frozen ∨ candidateStatus = .passed) := by
    cases hOf <;> simp
  refine hTracks.update hMem rfl (fun _ => rfl) (hTracks.logged.plan hPlan)
    (fun _ => plan_stable hPlan hStable) (fun _ _ h => h) (fun _ h => h) ?_ ?_ ?_
  · intro other hOther hNe
    refine Tracked.keep ((hTracks.each other hOther).deployed
      hTracks.logged hPlan ?_) rfl rfl (fun _ _ h => h)
    rw [hTarget]
    rintro _ hRelease' ⟨⟩
    exact hNe (hTracks.eq_of_releaseId hOther hMem hRelease' hRelease)
  · refine ⟨fun h => absurd h hStatus, hTracked.released, ?_, ?_⟩ <;> intro releaseId' hRelease' <;>
      cases Option.some.inj (hRelease.symm.trans hRelease')
    · exact hOf.previous hStable (hTracked.chained releaseId hRelease)
    · exact hOf.agrees hRetired hTracks.logged.kept (hTracked.chained releaseId hRelease) hAllowed
        (hTracked.agrees releaseId hRelease)
  · intro releaseId' hNamed
    refine (named_of_moves (Release.plan_moves hPlan hTracks.logged.kept) hNamed).imp id ?_
    intro hHere
    rw [hTarget] at hHere
    exact hRelease.trans hHere

end

section

variable {current rolled : CandidateStatus → Prop} {w : SupervisorWorld}
variable {candidate : EvolutionCandidate}

variable {deployments : List Deployment}

theorem any_rolledBack {releaseId : String} : deployments.any (fun record =>
        record.phase = .rolledBack ∧ record.previousReleaseId = some releaseId) = true ↔
      RolledBackIn deployments releaseId := by
  simp [RolledBackIn]

/- What the store shows is the status, or a later one. -/
theorem Agrees.desired {ids : DeployedIds} {releaseId : String}
    {status : CandidateStatus} {desired : CandidateStatus × EpochStatus}
    (hAgrees : Agrees current rolled ids deployments releaseId status)
    (hDesired : desiredStatus ids deployments releaseId = some desired) :
    desired.1 = status ∨ ids.canary ≠ some releaseId ∧
        ids.preview ≠ some releaseId ∧ ((ids.stable = some releaseId ∧ desired.1 = .promoted) ∨
          (ids.stable ≠ some releaseId ∧ RolledBackIn deployments releaseId ∧
            desired.1 = .rolledBack)) := by
  unfold desiredStatus at hDesired
  split at hDesired
  · rename_i hCanary
    cases hDesired
    exact .inl (hAgrees.canary hCanary).symm
  · rename_i hCanary
    split at hDesired
    · rename_i hPreview
      cases hDesired
      exact .inl (hAgrees.preview hPreview hCanary).symm
    · rename_i hPreview
      split at hDesired
      · rename_i hStable
        cases hDesired
        exact .inr ⟨hCanary, hPreview, .inl ⟨hStable, rfl⟩⟩
      · rename_i hStable
        split at hDesired
        · rename_i hRolled
          cases hDesired
          exact .inr ⟨hCanary, hPreview, .inr ⟨hStable, any_rolledBack.1 hRolled, rfl⟩⟩
        · cases hDesired

theorem foldl_applyUpdate_candidates (now : Timestamp)
    (updates : List DeploymentUpdate) (state : SupervisorState) :
    (updates.foldl (applyUpdate now) state).candidates = updates.foldl (fun candidates update =>
        modifyFirst EvolutionCandidate.candidateId
          update.candidateId (EvolutionCandidate.setStatus update.candidateStatus) candidates)
        state.candidates := by
  induction updates generalizing state with
  | nil => rfl
  | cons update updates ih => exact ih _

/- Every candidate gets the status that is desired. -/
theorem Tracks.reconciled_candidates (hTracks : Tracks current rolled w) (now : Timestamp) :
    (w.reconciled now).state.candidates = w.state.candidates.map (fun candidate =>
        (deploymentUpdate w.pointers.ids w.deployments candidate).elim candidate (fun update =>
            candidate.setStatus update.candidateStatus)) := by
  rw [foldl_applyUpdate_candidates]
  have hKeeps : ∀ (update : DeploymentUpdate)
      (candidate : EvolutionCandidate), (EvolutionCandidate.setStatus update.candidateStatus
        candidate).candidateId = candidate.candidateId :=
    fun _ _ => rfl
  refine foldl_modifyFirst hKeeps ?_ hTracks.distinct
  intro candidate update hUpdate
  obtain ⟨releaseId, desired, -, -, -, rfl⟩ := deploymentUpdate_eq_some hUpdate
  rfl

/- A status that was set again still agrees. -/
theorem Tracked.reconciled {update : DeploymentUpdate} (hRetired : Retired current rolled)
    (hRestored : current .rolledBack) (hAgain : rolled .promoted)
    (hTracked : Tracked current rolled w candidate)
    (hUpdate : deploymentUpdate w.pointers.ids w.deployments candidate = some update) :
    Tracked current rolled w (candidate.setStatus update.candidateStatus) := by
  obtain ⟨releaseId, desired, hRelease, hDesired, hNe, rfl⟩ := deploymentUpdate_eq_some hUpdate
  have hAgrees := hTracked.agrees releaseId hRelease
  rcases hAgrees.desired hDesired with hEq | ⟨hCanary, hPreview, hCase⟩
  · exact absurd hEq.symm hNe
  -- What is desired is never the status of an unreleased
  -- candidate.
  refine ⟨?_, hTracked.released, hTracked.chained, ?_⟩
  · change desired.1 = _ ∨ desired.1 = _ → _
    rcases hCase with ⟨-, hEq⟩ | ⟨-, -, hEq⟩ <;> simp [hEq]
  · intro releaseId' hRelease'
    cases Option.some.inj (hRelease.symm.trans hRelease')
    rcases hCase with ⟨hStable, hEq⟩ | ⟨hStable, -, hEq⟩
    · rw [hEq]
      exact ⟨fun h => absurd h hCanary, fun h => absurd h hPreview, fun _ => hRetired.promoted,
        fun _ => hRetired.promoted, fun _ => hAgain⟩
    · rw [hEq]
      exact ⟨fun h => absurd h hCanary, fun h => absurd h hPreview, fun h => absurd h hStable,
        fun _ => hRestored, fun _ => hRetired.rolledBack⟩

theorem Tracks.reconciled (hRetired : Retired current rolled)
    (hRestored : current .rolledBack) (hAgain : rolled .promoted)
    (hTracks : Tracks current rolled w) (now : Timestamp) : Tracks current rolled (w.reconciled now) := by
  have hCandidates := hTracks.reconciled_candidates now
  refine ⟨?_, hTracks.logged, ?_, ?_, ?_⟩
  · unfold DistinctKeys
    rw [hCandidates, List.map_map]
    have hIds : (EvolutionCandidate.candidateId ∘ fun candidate => (deploymentUpdate w.pointers.ids
          w.deployments candidate).elim candidate (fun update => candidate.setStatus
              update.candidateStatus)) =
        EvolutionCandidate.candidateId := by
      funext candidate
      simp only [Function.comp_apply]
      cases deploymentUpdate w.pointers.ids w.deployments candidate <;> rfl
    rw [hIds]
    exact hTracks.distinct
  · intro hSome
    apply hTracks.based
    intro hNone
    apply hSome
    rw [hCandidates, hNone]
    rfl
  · intro changed hChanged
    rw [hCandidates] at hChanged
    obtain ⟨candidate, hMem, rfl⟩ := List.mem_map.1 hChanged
    have hTracked := hTracks.each candidate hMem
    cases hUpdate : deploymentUpdate w.pointers.ids w.deployments candidate with
    | none => exact hTracked.keep rfl rfl (fun _ _ h => h)
    | some update =>
      exact (hTracked.reconciled hRetired hRestored hAgain hUpdate).keep rfl rfl (fun _ _ h => h)
  · intro releaseId hNamed
    refine (hTracks.owned releaseId hNamed).imp id ?_
    rintro ⟨candidate, hMem, hRelease⟩
    rw [hCandidates]
    refine ⟨_, List.mem_map_of_mem hMem, ?_⟩
    cases deploymentUpdate w.pointers.ids w.deployments candidate <;> exact hRelease

end

section

variable {names : ReleaseNames} {around : Surroundings}
variable {w w' : SupervisorWorld} {call : SupervisorCall}
variable {current rolled : CandidateStatus → Prop}

/- A rollback in the world restores another release. -/
def RollbackAllowed (w : SupervisorWorld) : SupervisorCall → Prop
| .rollback candidateId _ =>
  ∀ candidate releaseId, w.state.candidate? candidateId = some candidate →
      candidate.releaseId = some releaseId → RestoresOther w releaseId
| _ => True

instance decidableRollbackAllowed (w : SupervisorWorld) :
    ∀ call, Decidable (RollbackAllowed w call)
| .rollback candidateId _ =>
  decidable_of_iff (∀ candidate ∈ w.state.candidate? candidateId,
      ∀ releaseId ∈ candidate.releaseId, w.pointers.ids.stable = some releaseId →
          w.pointers.ids.previousStable ≠ some releaseId)
    ⟨fun hAll candidate releaseId hFind hRelease => hAll candidate hFind releaseId hRelease,
    fun hAll candidate hFind releaseId hRelease => hAll candidate releaseId hFind hRelease⟩
| .openSupervisor | .bootstrap _ _ _ | .observe _ | .startEpoch _ _ _ | .registerCandidate _ _
| .evaluateInput _ | .evaluateSuite _ _ | .buildVerifiedRelease _ | .preview _ | .startCanary _
| .recordCanaryObservation _ | .promote _ _ | .enforceDeadlines => .isTrue trivial

/- All effects but that of opening the supervisor. -/
theorem Tracks.effect (hRetired : Retired current rolled) (hTracks : Tracks current rolled w)
    (hAllowed : current .rolledBack ∨ RollbackAllowed w call)
    (hReconciled : Tracks current rolled (w.reconciled around.now))
    (hEffect : Effect names around w call w') : Tracks current rolled w' := by
  cases hEffect with
  | unchanged => exact hTracks
  | deployed deploys found released ofCall =>
    refine hTracks.deployed hRetired found released ofCall ?_
    rintro candidateId reason rfl
    cases deploys
    exact hAllowed.imp id (fun hCall => hCall _ _ found released)
  | noted candidates epochs archive => exact hTracks.keep candidates rfl rfl (fun _ _ h => h)
  | bootstrapped steps =>
    induction steps with
    | refl => exact hTracks
    | tail _ hStep ih => exact ih.bootstrapStep hStep
  | epochStarted current => exact hTracks.keep rfl rfl rfl (fun _ _ h => h)
  | registered current proposed => exact hTracks.registered current proposed
  | evaluated _ found frozen complete => exact hTracks.evaluated found frozen complete
  | released _ found passed build apply =>
    exact hTracks.released_candidate found passed build apply
  | expired => exact hTracks.keep rfl rfl rfl (fun _ _ h => h)
  | reconciled => exact hReconciled

/- The statuses of a release that is, or was, promoted. -/
def Loose (status : CandidateStatus) : Prop := status = .promoted ∨ status = .rolledBack

theorem retired_loose : Retired Loose Loose where
  promoted := .inl rfl
  rolledBack := .inr rfl
  ofCurrent := fun _ h => h
  ofRolled := fun _ h => h

theorem retired_strict : Retired (· = .promoted) (· = .rolledBack) where
  promoted := rfl
  rolledBack := rfl
  ofCurrent := fun _ h => .inl h
  ofRolled := fun _ h => .inr h

/- What holds in every history. -/
theorem history_tracked (names : ReleaseNames) (ops : List HistoryOp) :
    Tracks Loose Loose (Machine.run (historyStep names) .empty ops) := by
  refine Machine.run_invariant_of_step ?_ (tracks_empty _ _) ops
  intro w op hTracks
  exact hTracks.effect retired_loose (.inl (.inr rfl))
    (hTracks.reconciled retired_loose (.inr rfl) (.inl rfl) _)
    (perform_effect names op.around w op.call)

/- The statuses are exactly those that the store shows. -/
def Followed (w : SupervisorWorld) : Prop := Tracks (· = .promoted) (· = .rolledBack) w

/- Then there is nothing to reconcile. -/
theorem Followed.settled (hFollowed : Followed w)
    {candidate : EvolutionCandidate} (hMem : candidate ∈ w.state.candidates) :
    deploymentUpdate w.pointers.ids w.deployments candidate = none := by
  cases hUpdate : deploymentUpdate w.pointers.ids w.deployments candidate with
  | none => rfl
  | some update =>
    obtain ⟨releaseId, desired, hRelease, hDesired, hNe, rfl⟩ := deploymentUpdate_eq_some hUpdate
    have hAgrees := (hFollowed.each candidate hMem).agrees _ hRelease
    refine absurd ?_ hNe
    rcases hAgrees.desired hDesired with hEq | ⟨-, -, ⟨hStable, hEq⟩ | ⟨-, hRolled, hEq⟩⟩
    · exact hEq.symm
    · exact (hAgrees.stable hStable).trans hEq.symm
    · exact (hAgrees.rolledBack hRolled).trans hEq.symm

theorem Followed.updates (hFollowed : Followed w) : w.updates = [] := by
  rw [List.filterMap_eq_nil_iff]
  exact fun candidate hMem => hFollowed.settled hMem

theorem Followed.effect (hFollowed : Followed w) (hAllowed : RollbackAllowed w call)
    (hEffect : Effect names around w call w') : Followed w' := by
  refine Tracks.effect retired_strict hFollowed (.inr hAllowed) ?_ hEffect
  rw [SupervisorWorld.reconciled, hFollowed.updates]
  exact hFollowed

end

end GolutraAgent.Supervisor
