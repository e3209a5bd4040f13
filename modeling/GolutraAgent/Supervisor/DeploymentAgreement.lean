import GolutraAgent.Supervisor.Effects

/-
  This file relates the status of a candidate to what the release store shows of
  its release: the pointers that name it, and whether the deployment log has it
  rolled back.

  Which statuses a release may have that is stable, that was stable before, or
  that the log shows rolled back is a parameter.
-/

namespace GolutraAgent.Supervisor

open Release (ReleaseError ReleasePointer PointerName Pointers
  Deployment DeploymentCall DeploymentPhase DeployedIds Logged)

open KeyedList

/- The log shows that the release was rolled back. -/
def RolledBackIn (deployments : List Deployment) (releaseId : String) : Prop :=
  ∃ deployment ∈ deployments, deployment.phase = .rolledBack ∧
      deployment.previousReleaseId = some releaseId

/- A pointer or a rollback of the log names the release. -/
def Named (ids : DeployedIds) (deployments : List Deployment) (releaseId : String) : Prop :=
  ids.canary = some releaseId ∨ ids.preview = some releaseId ∨
    ids.stable = some releaseId ∨ ids.previousStable = some releaseId ∨
    RolledBackIn deployments releaseId

/-
  What the release store shows of a release, against the status of its
  candidate.
-/
structure Agrees (current rolled : CandidateStatus → Prop) (ids : DeployedIds)
    (deployments : List Deployment) (releaseId : String) (status : CandidateStatus) : Prop where
  canary : ids.canary = some releaseId → status = .canarying
  preview : ids.preview = some releaseId → ids.canary ≠ some releaseId → status = .previewing
  stable : ids.stable = some releaseId → current status
  previous : ids.previousStable = some releaseId → current status
  rolledBack : RolledBackIn deployments releaseId → rolled status

/- The statuses are those of releases once promoted. -/
structure Retired (current rolled : CandidateStatus → Prop) : Prop where
  promoted : current .promoted
  rolledBack : rolled .rolledBack
  ofCurrent : ∀ status, current status → status = .promoted ∨ status = .rolledBack
  ofRolled : ∀ status, rolled status → status = .promoted ∨ status = .rolledBack

/- The release that a call of the release store is about. -/
def deploymentTarget (pointers : Pointers) : DeploymentCall → Option String
| .setPreview releaseId | .startCanary releaseId | .promote releaseId _
| .cancelCanary releaseId _ => some releaseId
| .rollback _ => pointers.ids.stable

theorem rolledBackIn_concat {deployments : List Deployment}
    {deployment : Deployment} {releaseId : String} :
    RolledBackIn (deployments ++ [deployment]) releaseId ↔
      RolledBackIn deployments releaseId ∨ deployment.phase = .rolledBack ∧
          deployment.previousReleaseId = some releaseId := by
  constructor
  · rintro ⟨found, hFound, hRolled⟩
    rcases List.mem_append.1 hFound with hOld | hNew
    · exact .inl ⟨found, hOld, hRolled⟩
    · rw [List.mem_singleton] at hNew
      exact .inr (hNew ▸ hRolled)
  · rintro (⟨found, hFound, hRolled⟩ | hRolled)
    · exact ⟨found, List.mem_append_left _ hFound, hRolled⟩
    · exact ⟨deployment, List.mem_append_right _ (by simp), hRolled⟩

section

variable {current rolled : CandidateStatus → Prop} {ensureManifest : Release.Manifests}
variable {now : Timestamp} {pointers : Pointers} {pointer : ReleasePointer}
variable {deployments : List Deployment} {deployment : Deployment} {call : DeploymentCall}
variable {releaseId : String} {status : CandidateStatus}

theorem Agrees.of_not_named (hNamed : ¬ Named pointers.ids deployments releaseId) :
    Agrees current rolled pointers.ids deployments releaseId status where
  canary := fun hCanary => absurd (.inl hCanary) hNamed
  preview := fun hPreview _ => absurd (.inr (.inl hPreview)) hNamed
  stable := fun hStable => absurd (.inr (.inr (.inl hStable))) hNamed
  previous := fun hPrevious => absurd (.inr (.inr (.inr (.inl hPrevious)))) hNamed
  rolledBack := fun hRolled => absurd (.inr (.inr (.inr (.inr hRolled)))) hNamed

/- A deployment leaves what is shown of every other release as it was. -/
theorem Agrees.other (hMoves : call.Moves pointers.ids deployment)
    (hOther : deploymentTarget pointers call ≠ some releaseId)
    (hAgrees : Agrees current rolled pointers.ids deployments releaseId status) :
    Agrees current rolled deployment.pointers.ids
      (deployments ++ [deployment]) releaseId status := by
  cases call with
  | setPreview target =>
    obtain ⟨hPhase, hIds⟩ := hMoves
    rw [hIds]
    refine ⟨hAgrees.canary, fun hPreview => ?_, hAgrees.stable, hAgrees.previous, ?_⟩
    · exact absurd hPreview hOther
    · rw [rolledBackIn_concat, hPhase]
      rintro (hRolled | ⟨⟨⟩, -⟩)
      exact hAgrees.rolledBack hRolled
  | startCanary target =>
    obtain ⟨hPhase, hPreview, hIds⟩ := hMoves
    rw [hIds]
    refine ⟨fun hCanary => absurd hCanary hOther, ?_, hAgrees.stable, hAgrees.previous, ?_⟩
    · intro hSame
      exact absurd (hPreview.symm.trans hSame) hOther
    · rw [rolledBackIn_concat, hPhase]
      rintro (hRolled | ⟨⟨⟩, -⟩)
      exact hAgrees.rolledBack hRolled
  | promote target reason =>
    obtain ⟨hPhase, hIds⟩ := hMoves
    rw [hIds]
    refine ⟨(nomatch ·), (nomatch ·), fun hStable => ?_, hAgrees.stable, ?_⟩
    · exact absurd hStable hOther
    · rw [rolledBackIn_concat, hPhase]
      rintro (hRolled | ⟨⟨⟩, -⟩)
      exact hAgrees.rolledBack hRolled
  | cancelCanary target reason =>
    obtain ⟨-, hPrevious, hIds⟩ := hMoves
    rw [hIds]
    refine ⟨(nomatch ·), (nomatch ·), hAgrees.stable, hAgrees.previous, ?_⟩
    rw [rolledBackIn_concat, hPrevious]
    rintro (hRolled | ⟨-, hSame⟩)
    · exact hAgrees.rolledBack hRolled
    · exact absurd hSame hOther
  | rollback reason =>
    obtain ⟨-, hPrevious, hIds⟩ := hMoves
    rw [hIds]
    refine ⟨(nomatch ·), (nomatch ·), ?_, hAgrees.previous, ?_⟩
    · intro hStable
      rcases Option.or_eq_some_iff.1 hStable with hHere | ⟨-, hHere⟩
      · exact hAgrees.previous hHere
      · exact absurd hHere hOther
    · rw [rolledBackIn_concat, hPrevious]
      rintro (hRolled | ⟨-, hSame⟩)
      · exact hAgrees.rolledBack hRolled
      · exact absurd hSame hOther

/- A deployment names no release but the one it is about. -/
theorem named_of_moves (hMoves : call.Moves pointers.ids deployment)
    (hNamed : Named deployment.pointers.ids (deployments ++ [deployment]) releaseId) :
    Named pointers.ids deployments releaseId ∨ deploymentTarget pointers call = some releaseId := by
  by_cases hTarget : deploymentTarget pointers call = some releaseId
  · exact .inr hTarget
  · refine .inl ?_
    by_contra hBefore
    -- Nothing may be said of the release before, so nothing
    -- is said of it now.
    have hNothing : Agrees (fun _ => False) (fun _ => False) deployment.pointers.ids
        (deployments ++ [deployment]) releaseId .frozen :=
      (Agrees.of_not_named hBefore).other hMoves hTarget
    rcases hNamed with hCanary | hPreview | hStable | hPrevious | hRolled
    · cases hNothing.canary hCanary
    · by_cases hCanary : deployment.pointers.ids.canary = some releaseId
      · cases hNothing.canary hCanary
      · cases hNothing.preview hPreview hCanary
    · exact hNothing.stable hStable
    · exact hNothing.previous hPrevious
    · exact hNothing.rolledBack hRolled

open Release

/- The stable pointer is never taken away. -/
theorem plan_stable (hPlan : call.plan ensureManifest now pointers = .ok (pointer, deployment))
    (hStable : pointers.stable.isSome) : deployment.pointers.stable.isSome := by
  cases call with
  | setPreview target =>
    obtain ⟨-, -, -, rfl, rfl⟩ := setPreview_eq_ok hPlan
    exact hStable
  | startCanary target =>
    obtain ⟨-, -, rfl, rfl⟩ := startCanary_eq_ok hPlan
    exact hStable
  | promote target reason =>
    obtain ⟨-, -, -, rfl⟩ := promote_eq_ok hPlan
    rfl
  | cancelCanary target reason =>
    obtain ⟨-, -, rfl⟩ := cancelCanary_eq_ok hPlan
    exact hStable
  | rollback reason =>
    obtain ⟨previous, -, -, rfl, rfl⟩ := rollback_eq_ok hPlan
    rfl

/- A promotion over a stable release keeps it as previous. -/
theorem plan_promoted_previous {reason : String}
    (hPlan : Release.promote ensureManifest now releaseId
      reason pointers = .ok (pointer, deployment))
    (hStable : pointers.stable.isSome) : deployment.pointers.previousStable.isSome := by
  obtain ⟨-, -, -, rfl⟩ := promote_eq_ok hPlan
  obtain ⟨stable, hSome⟩ := Option.isSome_iff_exists.1 hStable
  simp [keepPrevious, hSome, Pointers.set]

/-
  Of a release that the call is not about: if it is stable afterwards, there is
  a previous stable release.
-/
theorem plan_previous (hPlan : call.plan ensureManifest now pointers = .ok (pointer, deployment))
    (hChained : pointers.ids.stable = some releaseId → pointers.previousStable.isSome)
    (hOther : deploymentTarget pointers call ≠ some releaseId)
    (hStable : deployment.pointers.ids.stable = some releaseId) :
    deployment.pointers.previousStable.isSome := by
  cases call with
  | setPreview target =>
    obtain ⟨-, -, -, rfl, rfl⟩ := setPreview_eq_ok hPlan
    exact hChained hStable
  | startCanary target =>
    obtain ⟨-, -, rfl, rfl⟩ := startCanary_eq_ok hPlan
    exact hChained hStable
  | promote target reason =>
    obtain ⟨-, -, hId, rfl⟩ := promote_eq_ok hPlan
    have hSame : some pointer.releaseId = some releaseId := hStable
    rw [hId] at hSame
    exact absurd hSame hOther
  | cancelCanary target reason =>
    obtain ⟨-, -, rfl⟩ := cancelCanary_eq_ok hPlan
    exact hChained hStable
  | rollback reason =>
    obtain ⟨previous, hOr, -, rfl, rfl⟩ := rollback_eq_ok hPlan
    rcases Option.or_eq_some_iff.1 hOr with hHere | ⟨-, hHere⟩
    · exact Option.isSome_of_eq_some hHere
    · refine absurd ?_ hOther
      change some previous.releaseId = _ at hStable
      rw [← hStable]
      simp [deploymentTarget, Pointers.ids, hHere]

variable {candidate : EvolutionCandidate} {w : SupervisorWorld} {request : SupervisorCall}
variable {candidateStatus : CandidateStatus} {epochStatus : EpochStatus}

section

variable (hOf : DeploymentOf now w candidate releaseId request
  deployment candidateStatus epochStatus)
include hOf

/- The call of the release store behind a deployment. -/
theorem DeploymentOf.plan : ∃ (call : DeploymentCall) (pointer : ReleasePointer),
      call.plan w.ensureManifest now w.pointers = .ok (pointer, deployment) ∧
        deploymentTarget w.pointers call = some releaseId := by
  cases hOf with
  | preview status plan => exact ⟨.setPreview releaseId, _, plan, rfl⟩
  | startCanary status plan => exact ⟨.startCanary releaseId, _, plan, rfl⟩
  | promote status owned healthy plan => exact ⟨.promote releaseId _, _, plan, rfl⟩
  | cancelCanary status owned plan => exact ⟨.cancelCanary releaseId _, _, plan, rfl⟩
  | rollback status quiet owned plan => exact ⟨.rollback _, _, plan, owned⟩

/- If the release is stable, another one was before it. -/
theorem DeploymentOf.previous (hStable : w.pointers.stable.isSome)
    (hChained : w.pointers.ids.stable = some releaseId → w.pointers.previousStable.isSome)
    (hNow : deployment.pointers.ids.stable = some releaseId) :
    deployment.pointers.previousStable.isSome := by
  cases hOf with
  | preview status plan =>
    obtain ⟨-, -, -, rfl, rfl⟩ := setPreview_eq_ok plan
    exact hChained hNow
  | startCanary status plan =>
    obtain ⟨-, -, rfl, rfl⟩ := startCanary_eq_ok plan
    exact hChained hNow
  | promote status owned healthy plan => exact plan_promoted_previous plan hStable
  | cancelCanary status owned plan =>
    obtain ⟨-, -, rfl⟩ := cancelCanary_eq_ok plan
    exact hChained hNow
  | rollback status quiet owned plan =>
    obtain ⟨previous, -, -, rfl, rfl⟩ := rollback_eq_ok plan
    exact hChained owned

end

/- What a rollback of a stable release must not restore. -/
def RestoresOther (w : SupervisorWorld) (releaseId : String) : Prop :=
  w.pointers.ids.stable = some releaseId → w.pointers.ids.previousStable ≠ some releaseId

/- The new status agrees with what the store now shows. -/
theorem DeploymentOf.agrees (hRetired : Retired current rolled)
    (hOf : DeploymentOf now w candidate releaseId request deployment candidateStatus epochStatus)
    (hKept : w.pointers.stable = none → w.pointers.previousStable = none)
    (hChained : w.pointers.ids.stable = some releaseId → w.pointers.previousStable.isSome)
    (hAllowed : ∀ candidateId reason, request = .rollback candidateId reason →
        current .rolledBack ∨ RestoresOther w releaseId)
    (hAgrees : Agrees current rolled w.pointers.ids w.deployments releaseId candidate.status) :
    Agrees current rolled deployment.pointers.ids (w.deployments ++ [deployment]) releaseId
      candidateStatus := by
  -- before a promotion the release is on no stable pointer
  have hStable : ∀ status, candidate.status = status → status ≠ .promoted → status ≠ .rolledBack →
        w.pointers.ids.stable ≠ some releaseId ∧ w.pointers.ids.previousStable ≠ some releaseId ∧
          ¬ RolledBackIn w.deployments releaseId := by
    rintro status rfl hPromoted hRolled
    refine ⟨fun hStable => ?_, fun hPrevious => ?_, fun hLog => ?_⟩
    · rcases hRetired.ofCurrent _ (hAgrees.stable hStable) with h | h <;> contradiction
    · rcases hRetired.ofCurrent _ (hAgrees.previous hPrevious) with h | h <;> contradiction
    · rcases hRetired.ofRolled _ (hAgrees.rolledBack hLog) with h | h <;> contradiction
  have hLater : deployment.phase ≠ .rolledBack → ¬ RolledBackIn w.deployments releaseId →
        ¬ RolledBackIn (w.deployments ++ [deployment]) releaseId := by
    intro hPhase hLog
    rw [rolledBackIn_concat]
    rintro (hRolled | ⟨hRolled, -⟩)
    · exact hLog hRolled
    · exact hPhase hRolled
  cases hOf with
  | preview status plan =>
    obtain ⟨hNow, hBefore, hLog⟩ := hStable _ status (by decide) (by decide)
    obtain ⟨hPhase, hIds⟩ : DeploymentCall.Moves _ _ (.setPreview releaseId) :=
      plan_moves plan hKept
    rw [hIds]
    refine ⟨fun hCanary => ?_, fun _ _ => rfl, fun h => absurd h hNow, fun h => absurd h hBefore,
      fun h => absurd h (hLater (by simp [hPhase]) hLog)⟩
    rw [hAgrees.canary hCanary] at status
    cases status
  | startCanary status plan =>
    obtain ⟨hNow, hBefore, hLog⟩ := hStable _ status (by decide) (by decide)
    obtain ⟨hPhase, hPreview, hIds⟩ : DeploymentCall.Moves _ _ (.startCanary releaseId) :=
      plan_moves plan hKept
    rw [hIds]
    exact ⟨fun _ => rfl, fun _ h => absurd rfl h, fun h => absurd h hNow, fun h => absurd h hBefore,
      fun h => absurd h (hLater (by simp [hPhase]) hLog)⟩
  | promote status owned healthy plan =>
    obtain ⟨hNow, hBefore, hLog⟩ := hStable _ status (by decide) (by decide)
    obtain ⟨hPhase, hIds⟩ : DeploymentCall.Moves _ _ (.promote releaseId _) := plan_moves plan hKept
    rw [hIds]
    exact ⟨(nomatch ·), (nomatch ·), fun _ => hRetired.promoted, fun h => absurd h hNow,
      fun h => absurd h (hLater (by simp [hPhase]) hLog)⟩
  | cancelCanary status owned plan =>
    obtain ⟨hNow, hBefore, hLog⟩ := hStable _ status (by decide) (by decide)
    obtain ⟨-, -, hIds⟩ : DeploymentCall.Moves _ _ (.cancelCanary releaseId _) :=
      @Release.plan_moves _ now _ _ _ _ plan hKept
    rw [hIds]
    exact ⟨(nomatch ·), (nomatch ·), fun h => absurd h hNow, fun h => absurd h hBefore,
      fun _ => hRetired.rolledBack⟩
  | rollback status quiet owned plan =>
    obtain ⟨-, -, hIds⟩ : DeploymentCall.Moves _ _ (.rollback _) := plan_moves plan hKept
    rw [hIds]
    have hRestored : w.pointers.ids.previousStable = some releaseId → current .rolledBack := by
      intro hSame
      rcases hAllowed _ _ rfl with hCurrent | hOther
      · exact hCurrent
      · exact absurd hSame (hOther owned)
    refine ⟨(nomatch ·), (nomatch ·), ?_, hRestored, fun _ => hRetired.rolledBack⟩
    intro hSame
    rcases Option.or_eq_some_iff.1 hSame with hHere | ⟨hNone, -⟩
    · exact hRestored hHere
    · have hSome := hChained owned
      rw [Option.map_eq_none_iff.1 hNone] at hSome
      cases hSome

end

end GolutraAgent.Supervisor
