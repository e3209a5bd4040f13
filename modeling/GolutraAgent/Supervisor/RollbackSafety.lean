import GolutraAgent.Supervisor.DeploymentTracking

/-
  This file settles what a rollback achieves in every history. It removes the
  release from the pointers, and restores the release that was stable before it,
  exactly if the previous stable pointer does not name the release that is
  rolled back. That pointer is only set by promotions, so of two rollbacks
  without a promotion in between the second restores the release that it should
  remove.

  Main declarations:
    * `rollback_undoes_iff`
-/

namespace GolutraAgent.Supervisor

open Release (Pointers Deployment replayDeployments LastPromotion)

/-
  No pointer that is launched names the release any more. If it was stable, the
  stable release is the one that was stable when the release was last promoted;
  the pointers at any time are those that the deployments so far replay to.
-/
structure Undone (w w' : SupervisorWorld) (releaseId : String) : Prop where
  stable : w'.pointers.ids.stable ≠ some releaseId
  canary : w'.pointers.ids.canary ≠ some releaseId
  restored : w.pointers.ids.stable = some releaseId → ∃ earlier promotion later,
      w.deployments = earlier ++ promotion :: later ∧ promotion.phase = .promoted ∧
        promotion.releaseId = releaseId ∧ (∀ deployment ∈ later,
          deployment.phase = .promoted → deployment.releaseId ≠ releaseId) ∧
        w'.pointers.ids.stable = (replayDeployments earlier).stable

section

variable {now : Timestamp} {w : SupervisorWorld} {candidate : EvolutionCandidate}
variable {candidateId releaseId reason : String} {deployment : Deployment}
variable {candidateStatus : CandidateStatus} {epochStatus : EpochStatus}

/- A canary is not stable, and is no canary afterwards. -/
theorem cancelCanary_undone (hTracks : Tracks Loose Loose w)
    (hMem : candidate ∈ w.state.candidates) (hRelease : candidate.releaseId = some releaseId)
    (hStatus : candidate.status = .canarying) (state : SupervisorState)
    (hMoves : (Release.DeploymentCall.cancelCanary releaseId
      reason).Moves w.pointers.ids deployment) :
    Undone w { w.deployed deployment with state := state } releaseId ∧
      RestoresOther w releaseId := by
  have hStable : w.pointers.ids.stable ≠ some releaseId := by
    intro hHere
    have hLoose := ((hTracks.each candidate hMem).agrees releaseId hRelease).stable hHere
    rw [hStatus] at hLoose
    rcases hLoose with h | h <;> cases h
  obtain ⟨-, -, hIds⟩ := hMoves
  refine ⟨⟨?_, ?_, fun hHere => absurd hHere hStable⟩, fun hHere => absurd hHere hStable⟩
  · change deployment.pointers.ids.stable ≠ _
    rw [hIds]
    exact hStable
  · change deployment.pointers.ids.canary ≠ _
    rw [hIds]
    exact (Option.some_ne_none _).symm

theorem rollbackStable_undone_iff (hTracks : Tracks Loose Loose w)
    (hMem : candidate ∈ w.state.candidates) (hRelease : candidate.releaseId = some releaseId)
    (hOwned : w.pointers.ids.stable = some releaseId) (state : SupervisorState)
    (hMoves : (Release.DeploymentCall.rollback reason).Moves w.pointers.ids deployment) :
    Undone w { w.deployed deployment with state := state } releaseId ↔
      RestoresOther w releaseId := by
  obtain ⟨-, -, hIds⟩ := hMoves
  obtain ⟨previous, hPrevious⟩ := Option.isSome_iff_exists.1
    ((hTracks.each candidate hMem).chained releaseId hRelease hOwned)
  have hBefore : w.pointers.ids.previousStable = some previous.releaseId := by
    simp [Pointers.ids, hPrevious]
  have hStable : deployment.pointers.ids.stable = some previous.releaseId := by
    rw [hIds, hBefore]
    rfl
  constructor
  · intro hUndone _ hSame
    apply hUndone.stable
    change deployment.pointers.ids.stable = _
    rw [hStable, ← hBefore, hSame]
  · intro hOther
    have hNe : releaseId ≠ previous.releaseId := by
      rintro rfl
      exact hOther hOwned hBefore
    refine ⟨?_, ?_, fun _ => ?_⟩
    · change deployment.pointers.ids.stable ≠ _
      rw [hStable]
      exact fun hSame => hNe (Option.some.inj hSame).symm
    · change deployment.pointers.ids.canary ≠ _
      rw [hIds]
      exact (Option.some_ne_none _).symm
    · obtain ⟨earlier, promotion, later, hLog, hPhase, hId,
        hLater, hEarlier⟩ := hTracks.logged.promoted releaseId previous.releaseId hOwned hBefore hNe
      refine ⟨earlier, promotion, later, hLog, hPhase, hId, fun deployment hIn hPromoted =>
          absurd hPromoted (hLater deployment hIn), ?_⟩
      change deployment.pointers.ids.stable = _
      rw [hStable, hEarlier]

end

/-
  A rollback that succeeds, after any history, undoes the deployment of the
  release exactly if the previous stable pointer does not name a stable release
  that it removes.
-/
theorem rollback_undoes_iff (names : ReleaseNames) (ops : List HistoryOp) (around : Surroundings)
    (candidateId reason releaseId : String) (candidate : EvolutionCandidate) (w : SupervisorWorld)
    (hHistory : w = Machine.run (historyStep names) .empty ops)
    (hFind : w.state.candidate? candidateId = some candidate)
    (hRelease : candidate.releaseId = some releaseId)
    (hSucceeds : (perform names around (.rollback candidateId reason) w).1 = .ok ()) :
    Undone w (perform names around (.rollback candidateId reason) w).2 releaseId ↔
      RestoresOther w releaseId := by
  have hTracks : Tracks Loose Loose w := hHistory ▸ history_tracked names ops
  have hMem := (mem_of_candidate? hFind).1
  rcases @perform_deployment names around w (.rollback candidateId reason) candidateId rfl with
    ⟨error, -, hEnded⟩ |
    ⟨found, releaseId', deployment, candidateStatus, epochStatus, hFound, hReleased, hOf, -, hEnded⟩
  · rw [hEnded] at hSucceeds
    cases hSucceeds
  · rw [hFind] at hFound
    cases hFound
    rw [hRelease] at hReleased
    cases hReleased
    rw [hEnded]
    have hKept := hTracks.logged.kept
    cases hOf with
    | cancelCanary status owned plan =>
      have hBoth := cancelCanary_undone hTracks hMem hRelease
        status (setDeployment around.now w.state candidateId
          candidate.epochId .rolledBack .rolledBack)
        (@Release.plan_moves _ around.now _ _ _ (.cancelCanary releaseId reason) plan hKept)
      exact iff_of_true hBoth.1 hBoth.2
    | rollback status quiet owned plan =>
      exact rollbackStable_undone_iff hTracks hMem hRelease owned _ (@Release.plan_moves _ _ _ _ _
          (.rollback reason) plan hKept)

def plainNames : ReleaseNames := fun digest candidateId => digest ++ "-" ++ candidateId

/- The clock stands still, and every check of the source succeeds. -/
def calm : Surroundings := ⟨⟨0⟩, .ok ()⟩

/- One of everything. -/
def trialBudget : EvolutionEpochBudget := ⟨1, 1, 1, 1, 1, 1, ⟨100⟩⟩

def trialProposal (candidateId epochId digest : String) : CandidateProposal := ⟨some candidateId,
    epochId, "p", "c", digest, [], "c", "m", "g", .low, "revert"⟩

/- The candidate passes where the baseline does not. -/
def trialCase (partition : RuntimeEvaluationPartition) : RuntimeEvaluationCase :=
  ⟨partition, ⟨false, 0, "runtime://b"⟩, ⟨true, 0, "runtime://c"⟩⟩

/- A case for each gate. -/
def trialSuite (candidateId : String) : SuiteRun :=
  ⟨candidateId, [trialCase .development, trialCase .security,
    trialCase .migration, trialCase .sealed, trialCase .fresh]⟩

def goodHealth (candidateId releaseId : String) : DeploymentObservation :=
  ⟨candidateId, releaseId, 1, 0, false, false, 0, 0⟩

/- A stable release, and an opportunity in it. -/
def openingCalls : List SupervisorCall := [.bootstrap "s" "0" true, .observe ⟨"o", "0-s", "f"⟩]

/- The calls that lead to a built release. -/
def buildCalls (epochId candidateId digest : String) : List SupervisorCall :=
  [.startEpoch "o" trialBudget epochId,
    .registerCandidate (trialProposal candidateId epochId digest) "",
    .evaluateSuite (trialSuite candidateId) digest, .buildVerifiedRelease candidateId]

variable (candidateId releaseId : String)

def canaryCalls : List SupervisorCall :=
  [.preview candidateId, .startCanary candidateId, .recordCanaryObservation
      (goodHealth candidateId releaseId)]

def promoteCalls : List SupervisorCall :=
  canaryCalls candidateId releaseId ++ [.promote candidateId "healthy"]

/- One candidate is promoted, and then another. -/
def twoPromotions : List SupervisorCall := openingCalls ++ buildCalls "e" "a" "1" ++
    buildCalls "f" "b" "2" ++ promoteCalls "a" "1-a" ++ promoteCalls "b" "2-b"

def trialWorld (calls : List SupervisorCall) : SupervisorWorld :=
  Machine.run (historyStep plainNames) .empty (calls.map (HistoryOp.mk calm))

/-
  The rollback of the second candidate makes the first one stable again. The
  rollback of the first succeeds as well, and its release is still stable.
-/
theorem second_rollback_not_undone : (perform plainNames calm (.rollback "a" "bad") (trialWorld
        (twoPromotions ++ [.rollback "b" "bad"]))).1 = .ok () ∧
      ¬ Undone (trialWorld (twoPromotions ++ [.rollback "b" "bad"]))
        (perform plainNames calm (.rollback "a" "bad")
          (trialWorld (twoPromotions ++ [.rollback "b" "bad"]))).2
        "1-a" := by
  refine ⟨by decide +kernel, fun hUndone => ?_⟩
  exact hUndone.stable (by decide +kernel)

/- The rollback of the second candidate is in order. -/
theorem first_rollback_undone :
    Undone (trialWorld twoPromotions) (perform plainNames calm (.rollback "b" "bad")
        (trialWorld twoPromotions)).2 "2-b" := by
  have hFind : ∃ candidate, (trialWorld twoPromotions).state.candidate? "b" = some candidate ∧
        candidate.releaseId = some "2-b" := by
    decide +kernel
  obtain ⟨candidate, hFind, hRelease⟩ := hFind
  refine (rollback_undoes_iff plainNames _ calm "b" "bad" "2-b"
    candidate (trialWorld twoPromotions) rfl hFind hRelease (by decide +kernel)).2 ?_
  intro _
  decide +kernel

end GolutraAgent.Supervisor
