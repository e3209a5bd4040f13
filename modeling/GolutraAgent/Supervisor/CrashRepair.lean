import GolutraAgent.Supervisor.RollbackSafety

/-
  This file proves that opening the supervisor repairs what a crash between the
  two stages of a deployment left behind: the statuses are those of the completed
  call. It does so in every history in which no rollback of a stable release
  restores that same release. After a history without a crash it changes nothing.

  Main declarations:
    * `deployment_repaired`
-/

namespace GolutraAgent.Supervisor

open Release (Pointers Deployment DeployedIds)

open KeyedList

/- The status of every candidate, archive entry and epoch. -/
structure Statuses where
  candidates : List (String × CandidateStatus)
  archive : List (String × CandidateStatus)
  epochs : List (String × EpochStatus)
deriving DecidableEq

def SupervisorState.statuses (state : SupervisorState) : Statuses where
  candidates := state.candidates.map (fun candidate => (candidate.candidateId, candidate.status))
  archive := state.archive.map (fun entry => (entry.candidateId, entry.status))
  epochs := state.epochs.map (fun epoch => (epoch.epochId, epoch.status))

/- A repair sets the statuses that a deployment sets. -/
theorem statuses_applyUpdate (now now' : Timestamp) (state : SupervisorState)
    (candidateId epochId : String) (candidateStatus : CandidateStatus) (epochStatus : EpochStatus) :
    (applyUpdate now state ⟨candidateId, epochId, candidateStatus, epochStatus⟩).statuses =
      (setDeployment now' state candidateId epochId candidateStatus epochStatus).statuses := by
  have hEpochs := @map_modifyFirst_congr EvolutionEpoch String _ EvolutionEpoch.epochId epochId
    (String × EpochStatus) (EvolutionEpoch.reconcileStatus epochStatus now)
    (EvolutionEpoch.setStatus epochStatus now') (fun epoch => (epoch.epochId, epoch.status))
    (fun _ => rfl) state.epochs
  simp [SupervisorState.statuses, applyUpdate, setDeployment, SupervisorState.editCandidate,
    SupervisorState.editEpoch, SupervisorState.editArchive, hEpochs]

section

variable (names : ReleaseNames) (around : Surroundings)

/- Exactly the desired statuses are set. -/
theorem perform_openSupervisor (w : SupervisorWorld) :
    (perform names around .openSupervisor w).2 = w.reconciled around.now := by
  have hRuns : Achieves names around (fun _ w' => w' = w.reconciled around.now)
      (fun _ => False) reconcileDeploymentState w := by
    apply Achieves.snapshot
    split
    · rename_i hNone
      rw [SupervisorWorld.reconciled, SupervisorWorld.updates, hNone]
      rfl
    · apply Achieves.verifyDeploymentLog
      apply Achieves.pointer
      apply Achieves.pointer
      apply Achieves.pointer
      change Achieves names around _ _ (ite (w.updates = []) _ _) _
      split
      · rename_i hNone
        rw [SupervisorWorld.reconciled, hNone]
        rfl
      · exact Achieves.commit_ok rfl rfl
  exact (@Achieves.perform names around w (fun _ => False)
    .openSupervisor _ hRuns).elim id False.elim

theorem Followed.opened {w : SupervisorWorld} (hFollowed : Followed w) :
    (perform names around .openSupervisor w).2 = w := by
  rw [perform_openSupervisor, SupervisorWorld.reconciled, hFollowed.updates]
  rfl

end

section

variable {now : Timestamp} {w : SupervisorWorld}
variable {candidate : EvolutionCandidate} {candidateId releaseId : String}
variable {call : SupervisorCall} {deployment : Deployment}
variable {candidateStatus : CandidateStatus} {epochStatus : EpochStatus}

theorem DeploymentOf.status_ne
    (hOf : DeploymentOf now w candidate releaseId call deployment candidateStatus epochStatus) :
    candidate.status ≠ candidateStatus := by
  cases hOf with
  | preview status | startCanary status | promote status
  | cancelCanary status | rollback status =>
    rw [status]
    decide

section

variable (hFollowed : Followed w) (hRelease : candidate.releaseId = some releaseId)
variable (hOf : DeploymentOf now w candidate releaseId call deployment candidateStatus epochStatus)
variable (hAllowed : ∀ id reason, call = .rollback id reason → RestoresOther w releaseId)
include hFollowed hRelease hOf hAllowed

/- After its first stage, the store shows the new status. -/
theorem DeploymentOf.desired (hMem : candidate ∈ w.state.candidates) :
    desiredStatus deployment.pointers.ids (w.deployments ++ [deployment]) releaseId =
      some (candidateStatus, epochStatus) := by
  have hTracked := hFollowed.each candidate hMem
  have hAgrees := hTracked.agrees releaseId hRelease
  have hKept := hFollowed.logged.kept
  have hRolled : deployment.phase = .rolledBack → deployment.previousReleaseId = some releaseId →
        (w.deployments ++ [deployment]).any (fun record =>
          record.phase = .rolledBack ∧ record.previousReleaseId = some releaseId) = true := by
    intro hPhase hPrevious
    exact any_rolledBack.2 (rolledBackIn_concat.2 (.inr ⟨hPhase, hPrevious⟩))
  unfold desiredStatus
  cases hOf with
  | preview status plan =>
    obtain ⟨-, hIds⟩ : Release.DeploymentCall.Moves _ _ (.setPreview releaseId) :=
      Release.plan_moves plan hKept
    have hCanary : w.pointers.ids.canary ≠ some releaseId := by
      intro hCanary
      rw [hAgrees.canary hCanary] at status
      cases status
    rw [hIds, if_neg hCanary, if_pos rfl]
  | startCanary status plan =>
    obtain ⟨-, -, hIds⟩ : Release.DeploymentCall.Moves _ _ (.startCanary releaseId) :=
      Release.plan_moves plan hKept
    rw [hIds, if_pos rfl]
  | promote status owned healthy plan =>
    obtain ⟨-, hIds⟩ : Release.DeploymentCall.Moves _ _ (.promote releaseId _) :=
      Release.plan_moves plan hKept
    rw [hIds, if_neg (by simp), if_neg (by simp), if_pos rfl]
  | cancelCanary status owned plan =>
    obtain ⟨hPhase, hPrevious, hIds⟩ :
        Release.DeploymentCall.Moves _ _ (.cancelCanary releaseId _) :=
      @Release.plan_moves _ now _ _ _ _ plan hKept
    have hStable : w.pointers.ids.stable ≠ some releaseId := by
      intro hStable
      rw [hAgrees.stable hStable] at status
      cases status
    rw [hIds, if_neg (by simp), if_neg (by simp), if_neg hStable, if_pos (hRolled hPhase hPrevious)]
  | rollback status quiet owned plan =>
    obtain ⟨hPhase, hPrevious, hIds⟩ : Release.DeploymentCall.Moves _ _ (.rollback _) :=
      Release.plan_moves plan hKept
    obtain ⟨previous, hSome⟩ := Option.isSome_iff_exists.1
      (hTracked.chained releaseId hRelease owned)
    have hBefore : w.pointers.ids.previousStable = some previous.releaseId := by
      simp [Pointers.ids, hSome]
    have hOther := hAllowed _ _ rfl owned
    rw [hBefore] at hOther
    rw [hIds, hBefore, if_neg (by simp), if_neg (by simp), Option.some_or, if_neg hOther,
      if_pos (hRolled hPhase (hPrevious.trans owned))]

/- The candidate of the deployment is the one to repair. -/
theorem DeploymentOf.updates (hFind : w.state.candidate? candidateId = some candidate) :
    w.state.candidates.filterMap (deploymentUpdate deployment.pointers.ids
        (w.deployments ++ [deployment])) =
      [⟨candidateId, candidate.epochId, candidateStatus, epochStatus⟩] := by
  obtain ⟨hMem, rfl⟩ := mem_of_candidate? hFind
  -- Once the second stage is done, nothing is to repair.
  have hAfter : Followed { w.deployed deployment with
      state := setDeployment now w.state candidate.candidateId
        candidate.epochId candidateStatus epochStatus } :=
    Tracks.deployed retired_strict hFollowed hFind hRelease hOf
      (fun id reason hCall => .inr (hAllowed id reason hCall))
  refine filterMap_eq_singleton (List.Nodup.of_map _ hFollowed.distinct) hMem ?_ ?_
  · unfold deploymentUpdate
    simp only [hRelease, Option.bind_some, bind, hOf.desired hFollowed hRelease hAllowed hMem]
    rw [if_pos hOf.status_ne]
  · intro other hOther hNe
    refine hAfter.settled ?_
    refine (mem_modifyFirst_iff hFollowed.distinct hMem rfl).2 (.inl ⟨hOther, fun hId => hNe ?_⟩)
    exact hFollowed.eq_of_candidateId hOther hMem hId

end

/- A crash in a deployment is repaired. -/
theorem Followed.repaired (names : ReleaseNames) (around around' : Surroundings)
    (hFollowed : Followed w) (hDeploys : call.deploys = some candidateId)
    (hAllowed : RollbackAllowed w call) :
    (perform names around' .openSupervisor (interrupt names around call w)).2.state.statuses =
      (perform names around call w).2.state.statuses := by
  rcases perform_deployment names around w hDeploys with ⟨error, hStopped, hEnded⟩ |
    ⟨candidate, releaseId, deployment, candidateStatus,
      epochStatus, hFind, hRelease, hOf, hStopped, hEnded⟩
  · rw [hStopped, hEnded, hFollowed.opened]
  · have hRestores : ∀ id reason, call = .rollback id reason → RestoresOther w releaseId := by
      rintro id reason rfl
      cases hDeploys
      exact hAllowed candidate releaseId hFind hRelease
    rw [hStopped, hEnded, perform_openSupervisor]
    have hUpdates := hOf.updates hFollowed hRelease hRestores hFind
    change (List.foldl _ w.state (List.filterMap (deploymentUpdate deployment.pointers.ids
        (w.deployments ++ [deployment]))
      w.state.candidates)).statuses = _
    rw [hUpdates]
    exact statuses_applyUpdate _ _ _ _ _ _ _

end

theorem history_followed {names : ReleaseNames} {ops : List HistoryOp}
    (hRollbacks : Machine.Guarded (historyStep names)
      (fun w op => RollbackAllowed w op.call) .empty ops) :
    Followed (Machine.run (historyStep names) .empty ops) := by
  refine Machine.run_invariant ?_ (tracks_empty _ _) hRollbacks
  intro w op hFollowed hAllowed
  exact hFollowed.effect hAllowed (perform_effect names op.around w op.call)

/-
  After a history in which no rollback of a stable release restores that same
  release, opening the supervisor changes no status, and it gives the statuses
  of the completed call after a crash in a deployment that is in turn no such
  rollback.
-/
theorem deployment_repaired (names : ReleaseNames) (ops : List HistoryOp) (w : SupervisorWorld)
    (hHistory : w = Machine.run (historyStep names) .empty ops)
    (hRollbacks : Machine.Guarded (historyStep names)
      (fun w op => RollbackAllowed w op.call) .empty ops) :
    (∀ around, (perform names around .openSupervisor w).2.state.statuses = w.state.statuses) ∧
      ∀ around around' call candidateId, call.deploys = some candidateId → RollbackAllowed w call →
            (perform names around' .openSupervisor
                (interrupt names around call w)).2.state.statuses =
              (perform names around call w).2.state.statuses := by
  have hFollowed : Followed w := hHistory ▸ history_followed hRollbacks
  refine ⟨fun around => ?_, ?_⟩
  · rw [hFollowed.opened]
  · intro around around' call candidateId hDeploys hAllowed
    exact hFollowed.repaired names around around' hDeploys hAllowed

/-
  After a rollback that restored the release it removed, the supervisor takes
  the candidate for promoted again as soon as it is opened. Neither call
  crashed.
-/
theorem second_rollback_reversed :
    (perform plainNames calm .openSupervisor (trialWorld (twoPromotions ++ [.rollback "b" "bad",
          .rollback "a" "bad"]))).2.state.statuses ≠
      (trialWorld (twoPromotions ++ [.rollback "b" "bad",
        .rollback "a" "bad"])).state.statuses := by
  decide +kernel

/- A crash in the rollback of the second candidate. -/
theorem first_rollback_repaired :
    (perform plainNames calm .openSupervisor (interrupt plainNames calm (.rollback "b" "bad")
          (trialWorld twoPromotions))).2.state.statuses =
      (perform plainNames calm (.rollback "b" "bad") (trialWorld twoPromotions)).2.state.statuses :=
  (deployment_repaired plainNames (twoPromotions.map (HistoryOp.mk calm))
    (trialWorld twoPromotions) rfl (by decide +kernel)).2 calm
    calm (.rollback "b" "bad") "b" rfl (by decide +kernel)

end GolutraAgent.Supervisor
