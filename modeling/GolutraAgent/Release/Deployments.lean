import Mathlib.Tactic.DeriveEncodable
import GolutraAgent.Library.Text
import GolutraAgent.Library.Transaction
import GolutraAgent.Core.Ids

/-
  This file defines the deployment of releases: the four pointers of a release
  store, the records of its deployment log, what each deployment call does to
  the pointers, and the replay of the records. As long as the stable and the
  previous stable pointer name different releases, the last promotion is that of
  the stable release, and the previous one was stable when it happened. A
  rollback makes the two pointers name one release.

  Whether a release has a valid manifest is a parameter: the directory of a
  release is written once, before any call can name it. A call reads the clock
  once.
-/

namespace GolutraAgent.Release

inductive ReleaseError
| io (message : String)
| json (message : String)
| invalid (message : String)
| notFound (releaseId : String)
| invalidTransition (message : String)
| integrity (message : String)
deriving DecidableEq

structure ReleasePointer where
  releaseId : String
  generation : Nat
  updatedAt : Timestamp

inductive PointerName
| stable
| previousStable
| preview
| canary
deriving DecidableEq

def PointerName.toText : PointerName → String
| .stable => "stable"
| .previousStable => "previous-stable"
| .preview => "preview"
| .canary => "canary"

/- The pointer files. A pointer that is not set has none. -/
@[ext] structure Pointers where
  stable : Option ReleasePointer
  previousStable : Option ReleasePointer
  preview : Option ReleasePointer
  canary : Option ReleasePointer

namespace Pointers

def empty : Pointers := ⟨none, none, none, none⟩

def get (pointers : Pointers) : PointerName → Option ReleasePointer
| .stable => pointers.stable
| .previousStable => pointers.previousStable
| .preview => pointers.preview
| .canary => pointers.canary

def set (pointers : Pointers) (name : PointerName) (pointer : Option ReleasePointer) : Pointers :=
  match name with
  | .stable => { pointers with stable := pointer }
  | .previousStable => { pointers with previousStable := pointer }
  | .preview => { pointers with preview := pointer }
  | .canary => { pointers with canary := pointer }

end Pointers

def nextPointer (pointers : Pointers) (name : PointerName)
    (releaseId : String) (now : Timestamp) : ReleasePointer where
  releaseId := releaseId
  generation :=
    match pointers.get name with
    | none => 1
    | some pointer => pointer.generation + 1
  updatedAt := now

inductive DeploymentPhase
| preview
| canary
| promoted
| rolledBack
deriving DecidableEq

structure DeploymentRecord where
  sequence : Nat
  phase : DeploymentPhase
  releaseId : String
  previousReleaseId : Option String
  reason : String
  recordedAt : Timestamp
  previousDigest : String
  digest : String
deriving DecidableEq

deriving instance Encodable for Timestamp

deriving instance Encodable for DeploymentPhase

deriving instance Encodable for DeploymentRecord

/- What a call asks to be recorded, and the new pointers. -/
structure Deployment where
  phase : DeploymentPhase
  releaseId : String
  previousReleaseId : Option String
  reason : String
  pointers : Pointers

inductive DeploymentCall
| setPreview (releaseId : String)
| startCanary (releaseId : String)
| promote (releaseId reason : String)
| cancelCanary (releaseId reason : String)
| rollback (reason : String)

/- The release ids that have a valid manifest. -/
abbrev Manifests := String → Except ReleaseError Unit

abbrev Planned := Except ReleaseError (ReleasePointer × Deployment)

section

variable (ensureManifest : Manifests) (now : Timestamp)

/- An active preview or canary must be of this release. -/
def checkActive (pointers : Pointers) (name : PointerName)
    (releaseId : String) : Except ReleaseError Unit :=
  match pointers.get name with
  | none => .ok ()
  | some pointer =>
    if pointer.releaseId = releaseId then .ok ()
    else .error (.invalidTransition ("cannot replace an active " ++ name.toText ++ " release"))

variable (releaseId : String) (pointers : Pointers)

def setPreview : Planned := do
  ensureManifest releaseId
  checkActive pointers .preview releaseId
  checkActive pointers .canary releaseId
  let pointer := nextPointer pointers .preview releaseId now
  return (pointer, {
    phase := .preview
    releaseId := releaseId
    previousReleaseId := none
    reason := "preview"
    pointers := pointers.set .preview (some pointer) })

/- A canary is the release in preview. -/
def startCanary : Planned := do
  ensureManifest releaseId
  match pointers.preview with
  | none => .error (.invalidTransition "canary requires preview")
  | some preview =>
    if preview.releaseId ≠ releaseId then
      .error (.invalidTransition "canary release must match preview pointer")
    else
      let pointer := nextPointer pointers .canary releaseId now
      return (pointer, {
        phase := .canary
        releaseId := releaseId
        previousReleaseId := pointers.stable.map ReleasePointer.releaseId
        reason := "canary started"
        pointers := pointers.set .canary (some pointer) })

/- The old stable release becomes the previous one. -/
def keepPrevious (pointers : Pointers) : Pointers :=
  match pointers.stable with
  | none => pointers
  | some stable =>
    pointers.set .previousStable (some (nextPointer pointers .previousStable stable.releaseId now))

variable (releaseId reason : String) (pointers : Pointers)

/- The stable release becomes the previous one. -/
def promote : Planned := do
  ensureManifest releaseId
  if pointers.preview.map ReleasePointer.releaseId ≠ some releaseId ∧
      pointers.canary.map ReleasePointer.releaseId ≠ some releaseId then
    .error (.invalidTransition "promotion requires the release to be previewed or canaried")
  else
    let kept := keepPrevious now pointers
    let pointer := nextPointer kept .stable releaseId now
    return (pointer, {
      phase := .promoted
      releaseId := releaseId
      previousReleaseId := pointers.stable.map ReleasePointer.releaseId
      reason := reason
      pointers := ((kept.set .stable (some pointer)).set .preview none).set .canary none })

/- The stable release stays. -/
def cancelCanary : Planned := do
  ensureManifest releaseId
  match pointers.canary with
  | none => .error (.invalidTransition "no active canary to cancel")
  | some canary =>
    if canary.releaseId ≠ releaseId then
      .error (.invalidTransition "rollback release must match the active canary pointer")
    else
      match pointers.stable with
      | none =>
        .error (.invalidTransition "canary rollback requires an existing stable release")
      | some stable =>
        return (stable, {
          phase := .rolledBack
          releaseId := stable.releaseId
          previousReleaseId := some releaseId
          reason := reason
          pointers := (pointers.set .preview none).set .canary none })

/- Without a previous release the stable one is restored. -/
def rollback (reason : String) (pointers : Pointers) : Planned :=
  match pointers.previousStable.or pointers.stable with
  | none => .error (.invalidTransition "no stable release to restore")
  | some previous => do
      ensureManifest previous.releaseId
      let pointer := nextPointer pointers .stable previous.releaseId now
      return (pointer, {
        phase := .rolledBack
        releaseId := previous.releaseId
        previousReleaseId := pointers.stable.map ReleasePointer.releaseId
        reason := reason
        pointers := ((pointers.set .stable (some pointer)).set .preview none).set .canary none })

def DeploymentCall.plan :
    DeploymentCall → Pointers → Planned
| .setPreview releaseId => Release.setPreview ensureManifest now releaseId
| .startCanary releaseId => Release.startCanary ensureManifest now releaseId
| .promote releaseId reason => Release.promote ensureManifest now releaseId reason
| .cancelCanary releaseId reason => Release.cancelCanary ensureManifest releaseId reason
| .rollback reason => Release.rollback ensureManifest now reason

end

/- The checks that a call makes before it takes the lock. -/
def DeploymentCall.checkReason : DeploymentCall → Except ReleaseError Unit
| .setPreview _ => .ok ()
| .startCanary _ => .ok ()
| .promote _ reason =>
  if Text.isBlank reason then .error (.invalid "promotion reason is required")
  else .ok ()
| .cancelCanary _ reason =>
  if Text.isBlank reason then .error (.invalid "rollback reason is required")
  else .ok ()
| .rollback reason =>
  if Text.isBlank reason then .error (.invalid "rollback reason is required")
  else .ok ()

/- The release that each pointer names. -/
@[ext] structure DeployedIds where
  stable : Option String
  previousStable : Option String
  preview : Option String
  canary : Option String

def Pointers.ids (pointers : Pointers) : DeployedIds where
  stable := pointers.stable.map ReleasePointer.releaseId
  previousStable := pointers.previousStable.map ReleasePointer.releaseId
  preview := pointers.preview.map ReleasePointer.releaseId
  canary := pointers.canary.map ReleasePointer.releaseId

namespace DeployedIds

def empty : DeployedIds := ⟨none, none, none, none⟩

/- The effect of one record. -/
def after (ids : DeployedIds) (phase : DeploymentPhase) (releaseId : String)
    (previousReleaseId : Option String) : DeployedIds :=
  match phase with
  | .preview => { ids with preview := some releaseId }
  | .canary => { ids with canary := some releaseId }
  | .promoted =>
    { stable := some releaseId
      previousStable := previousReleaseId
      preview := none
      canary := none }
  | .rolledBack =>
    { ids with
      stable := some releaseId
      preview := none
      canary := none }

end DeployedIds

def replay (records : List DeploymentRecord) : DeployedIds :=
  records.foldl (fun ids record => ids.after record.phase
    record.releaseId record.previousReleaseId) .empty

variable (records : List DeploymentRecord)

theorem replay_concat (record : DeploymentRecord) :
    replay (records ++ [record]) = (replay records).after record.phase record.releaseId
        record.previousReleaseId := by
  simp [replay]

/- A release becomes the previous one only as the stable. -/
theorem replay_previousStable (hStable : (replay records).stable = none) :
    (replay records).previousStable = none := by
  induction records using List.reverseRecOn with
  | nil => rfl
  | append_singleton records record ih =>
    rw [replay_concat] at hStable ⊢
    cases hPhase : record.phase <;> simp_all [DeployedIds.after]

section

variable {ensureManifest : Manifests} {now : Timestamp}
variable {pointers : Pointers} {pointer : ReleasePointer}
variable {deployment : Deployment} {releaseId reason : String}

theorem checkActive_eq_ok {name : PointerName} :
    checkActive pointers name releaseId = .ok () ↔ ∀ active, pointers.get name = some active →
        active.releaseId = releaseId := by
  unfold checkActive
  cases pointers.get name with
  | none => simp
  | some active => split <;> simp_all

theorem setPreview_eq_ok
    (hPlan : setPreview ensureManifest now releaseId pointers = .ok (pointer, deployment)) :
    ensureManifest releaseId = .ok () ∧ (∀ active, pointers.preview = some active →
        active.releaseId = releaseId) ∧
      (∀ active, pointers.canary = some active → active.releaseId = releaseId) ∧
      pointer = nextPointer pointers .preview releaseId now ∧
      deployment = ⟨.preview, releaseId, none, "preview",
        pointers.set .preview (some pointer)⟩ := by
  obtain ⟨⟨⟩, hManifest, hPlan⟩ := Transaction.bind_eq_ok.1 hPlan
  obtain ⟨⟨⟩, hPreview, hPlan⟩ := Transaction.bind_eq_ok.1 hPlan
  obtain ⟨⟨⟩, hCanary, hPlan⟩ := Transaction.bind_eq_ok.1 hPlan
  cases hPlan
  exact ⟨hManifest, checkActive_eq_ok.1 hPreview, checkActive_eq_ok.1 hCanary, rfl, rfl⟩

theorem startCanary_eq_ok
    (hPlan : startCanary ensureManifest now releaseId pointers = .ok (pointer, deployment)) :
    ensureManifest releaseId = .ok () ∧
      pointers.preview.map ReleasePointer.releaseId = some releaseId ∧
      pointer = nextPointer pointers .canary releaseId now ∧ deployment = ⟨.canary, releaseId,
        pointers.stable.map ReleasePointer.releaseId, "canary started",
        pointers.set .canary (some pointer)⟩ := by
  obtain ⟨⟨⟩, hManifest, hPlan⟩ := Transaction.bind_eq_ok.1 hPlan
  cases hPreview : pointers.preview with
  | none => simp [hPreview] at hPlan
  | some preview =>
    simp only [hPreview] at hPlan
    split at hPlan
    · cases hPlan
    · rename_i hSame
      cases hPlan
      exact ⟨hManifest, by simpa using hSame, rfl, rfl⟩

theorem promote_eq_ok
    (hPlan : promote ensureManifest now releaseId reason pointers = .ok (pointer, deployment)) :
    ensureManifest releaseId = .ok () ∧
      (pointers.preview.map ReleasePointer.releaseId = some releaseId ∨
        pointers.canary.map ReleasePointer.releaseId = some releaseId) ∧
      pointer.releaseId = releaseId ∧ deployment = ⟨.promoted, releaseId,
        pointers.stable.map ReleasePointer.releaseId, reason,
        (((keepPrevious now pointers).set .stable
          (some pointer)).set .preview none).set .canary none⟩ := by
  obtain ⟨⟨⟩, hManifest, hPlan⟩ := Transaction.bind_eq_ok.1 hPlan
  split at hPlan
  · cases hPlan
  · cases hPlan
    exact ⟨hManifest, by tauto, rfl, rfl⟩

theorem cancelCanary_eq_ok
    (hPlan : cancelCanary ensureManifest releaseId reason pointers = .ok (pointer, deployment)) :
    pointers.canary.map ReleasePointer.releaseId = some releaseId ∧ pointers.stable = some pointer ∧
      deployment = ⟨.rolledBack, pointer.releaseId, some releaseId, reason,
        (pointers.set .preview none).set .canary none⟩ := by
  obtain ⟨⟨⟩, -, hPlan⟩ := Transaction.bind_eq_ok.1 hPlan
  cases hCanary : pointers.canary with
  | none => simp [hCanary] at hPlan
  | some canary =>
    simp only [hCanary] at hPlan
    split at hPlan
    · cases hPlan
    · rename_i hSame
      cases hStable : pointers.stable with
      | none => simp [hStable] at hPlan
      | some stable =>
        simp only [hStable] at hPlan
        cases hPlan
        exact ⟨by simpa using hSame, rfl, rfl⟩

theorem rollback_eq_ok
    (hPlan : rollback ensureManifest now reason pointers = .ok (pointer, deployment)) :
    ∃ previous, pointers.previousStable.or pointers.stable = some previous ∧
      ensureManifest previous.releaseId = .ok () ∧
      pointer = nextPointer pointers .stable previous.releaseId now ∧
      deployment = ⟨.rolledBack, previous.releaseId, pointers.stable.map ReleasePointer.releaseId,
        reason, ((pointers.set .stable (some pointer)).set .preview none).set .canary none⟩ := by
  unfold rollback at hPlan
  split at hPlan
  · cases hPlan
  · rename_i previous hPrevious
    obtain ⟨⟨⟩, hManifest, hPlan⟩ := Transaction.bind_eq_ok.1 hPlan
    cases hPlan
    exact ⟨previous, hPrevious, hManifest, rfl, rfl⟩

end

section

variable {ensureManifest : Manifests} {now : Timestamp}
variable {pointers : Pointers} {pointer : ReleasePointer}
variable {deployment : Deployment} {call : DeploymentCall}

/-
  The new pointers name the releases that the record replays to. There is a
  previous stable release only if there is a stable one.
-/
theorem plan_after (hPlan : call.plan ensureManifest now pointers = .ok (pointer, deployment))
    (hPrevious : pointers.stable = none → pointers.previousStable = none) :
    deployment.pointers.ids = pointers.ids.after deployment.phase deployment.releaseId
        deployment.previousReleaseId := by
  cases call with
  | setPreview releaseId =>
    obtain ⟨-, -, -, rfl, rfl⟩ := setPreview_eq_ok hPlan
    rfl
  | startCanary releaseId =>
    obtain ⟨-, -, rfl, rfl⟩ := startCanary_eq_ok hPlan
    rfl
  | promote releaseId reason =>
    obtain ⟨-, -, hId, rfl⟩ := promote_eq_ok hPlan
    cases hStable : pointers.stable with
    | none =>
      simp [DeployedIds.after, Pointers.ids, Pointers.set,
        keepPrevious, hStable, hPrevious hStable, hId]
    | some stable =>
      simp [DeployedIds.after, Pointers.ids, Pointers.set, keepPrevious, nextPointer, hStable, hId]
  | cancelCanary releaseId reason =>
    obtain ⟨-, hStable, rfl⟩ := cancelCanary_eq_ok hPlan
    simp [DeployedIds.after, Pointers.ids, Pointers.set, hStable]
  | rollback reason =>
    obtain ⟨previous, -, -, rfl, rfl⟩ := rollback_eq_ok hPlan
    rfl

/- Every pointer names a release with a valid manifest. -/
def Deployable (ensureManifest : Manifests) (pointers : Pointers) : Prop :=
  ∀ name pointer, pointers.get name = some pointer → ensureManifest pointer.releaseId = .ok ()

section

variable (hDeployable : Deployable ensureManifest pointers)
include hDeployable

theorem Deployable.set (name : PointerName) {value : Option ReleasePointer}
    (hValue : ∀ pointer, value = some pointer → ensureManifest pointer.releaseId = .ok ()) :
    Deployable ensureManifest (pointers.set name value) := by
  intro other pointer hOther
  by_cases hSame : other = name
  · subst hSame
    refine hValue pointer ?_
    cases other <;> exact hOther
  · refine hDeployable other pointer ?_
    cases other <;> cases name <;> first
        | exact absurd rfl hSame
        | exact hOther

theorem Deployable.clear (name : PointerName) :
    Deployable ensureManifest (pointers.set name none) :=
  hDeployable.set name (fun _ hSome => by cases hSome)

theorem Deployable.keepPrevious : Deployable ensureManifest (keepPrevious now pointers) := by
  unfold Release.keepPrevious
  cases hStable : pointers.stable with
  | none => exact hDeployable
  | some stable =>
    refine hDeployable.set .previousStable ?_
    rintro pointer ⟨⟩
    exact hDeployable .stable stable hStable

end

theorem plan_manifests (hPlan : call.plan ensureManifest now pointers = .ok (pointer, deployment))
    (hDeployable : Deployable ensureManifest pointers) :
    Deployable ensureManifest deployment.pointers := by
  cases call with
  | setPreview releaseId =>
    obtain ⟨hManifest, -, -, rfl, rfl⟩ := setPreview_eq_ok hPlan
    refine hDeployable.set .preview ?_
    rintro _ ⟨⟩
    exact hManifest
  | startCanary releaseId =>
    obtain ⟨hManifest, -, rfl, rfl⟩ := startCanary_eq_ok hPlan
    refine hDeployable.set .canary ?_
    rintro _ ⟨⟩
    exact hManifest
  | promote releaseId reason =>
    obtain ⟨hManifest, -, rfl, rfl⟩ := promote_eq_ok hPlan
    refine ((hDeployable.keepPrevious.set .stable ?_).clear .preview).clear .canary
    rintro _ ⟨⟩
    exact hManifest
  | cancelCanary releaseId reason =>
    obtain ⟨-, -, rfl⟩ := cancelCanary_eq_ok hPlan
    exact (hDeployable.clear .preview).clear .canary
  | rollback reason =>
    obtain ⟨previous, -, hManifest, rfl, rfl⟩ := rollback_eq_ok hPlan
    refine ((hDeployable.set .stable ?_).clear .preview).clear .canary
    rintro _ ⟨⟩
    exact hManifest

end

section

variable (deployments : List Deployment)

/- The releases that the pointers name after deployments. -/
def replayDeployments : DeployedIds := deployments.foldl (fun ids deployment =>
    ids.after deployment.phase deployment.releaseId deployment.previousReleaseId) .empty

@[simp] theorem replayDeployments_concat (deployment : Deployment) :
    replayDeployments (deployments ++ [deployment]) =
      (replayDeployments deployments).after deployment.phase deployment.releaseId
        deployment.previousReleaseId := by
  simp [replayDeployments]

/-
  The last promotion was that of `releaseId`, and `previous` was stable right
  before.
-/
def LastPromotion (releaseId : String) (previous : Option String) : Prop :=
  ∃ earlier promotion later, deployments = earlier ++ promotion :: later ∧
      promotion.phase = .promoted ∧ promotion.releaseId = releaseId ∧
      (∀ deployment ∈ later, deployment.phase ≠ .promoted) ∧
      (replayDeployments earlier).stable = previous

theorem LastPromotion.concat {deployments : List Deployment} {releaseId : String}
    {previous : Option String} (hLast : LastPromotion deployments releaseId previous)
    {deployment : Deployment} (hPhase : deployment.phase ≠ .promoted) :
    LastPromotion (deployments ++ [deployment]) releaseId previous := by
  obtain ⟨earlier, promotion, later, rfl, hPromoted, hId, hLater, hStable⟩ := hLast
  refine ⟨earlier, promotion, later ++ [deployment], by simp, hPromoted, hId, ?_, hStable⟩
  intro other hOther
  rcases List.mem_append.1 hOther with hOld | hNew
  · exact hLater other hOld
  · rw [List.mem_singleton] at hNew
    exact hNew ▸ hPhase

/- The pointers, against the deployments so far. -/
structure Logged (pointers : Pointers) (deployments : List Deployment) : Prop where
  replayed : pointers.ids = replayDeployments deployments
  kept : pointers.stable = none → pointers.previousStable = none
  promoted : ∀ releaseId previous, pointers.ids.stable = some releaseId →
      pointers.ids.previousStable = some previous → releaseId ≠ previous →
          LastPromotion deployments releaseId (some previous)

theorem logged_empty : Logged .empty [] where
  replayed := rfl
  kept := fun _ => rfl
  promoted := by
    rintro releaseId previous ⟨⟩

section

variable {ensureManifest : Manifests} {now : Timestamp}
variable {pointers : Pointers} {pointer : ReleasePointer} {deployments : List Deployment}
variable {deployment : Deployment} {call : DeploymentCall}

/- What a call that succeeds does to the pointers. -/
def DeploymentCall.Moves (ids : DeployedIds) (deployment : Deployment) : DeploymentCall → Prop
| .setPreview releaseId =>
  deployment.phase = .preview ∧ deployment.pointers.ids = { ids with preview := some releaseId }
| .startCanary releaseId =>
  deployment.phase = .canary ∧ ids.preview = some releaseId ∧
    deployment.pointers.ids = { ids with canary := some releaseId }
| .promote releaseId _ =>
  deployment.phase = .promoted ∧ deployment.pointers.ids = ⟨some releaseId, ids.stable, none, none⟩
| .cancelCanary releaseId _ =>
  deployment.phase = .rolledBack ∧ deployment.previousReleaseId = some releaseId ∧
    deployment.pointers.ids = { ids with preview := none, canary := none }
| .rollback _ =>
  deployment.phase = .rolledBack ∧
    deployment.previousReleaseId = ids.stable ∧ deployment.pointers.ids =
      ⟨ids.previousStable.or ids.stable, ids.previousStable, none, none⟩

theorem plan_moves (hPlan : call.plan ensureManifest now pointers = .ok (pointer, deployment))
    (hKept : pointers.stable = none → pointers.previousStable = none) :
    call.Moves pointers.ids deployment := by
  have hAfter := plan_after hPlan hKept
  cases call with
  | setPreview releaseId =>
    obtain ⟨-, -, -, rfl, rfl⟩ := setPreview_eq_ok hPlan
    exact ⟨rfl, hAfter⟩
  | startCanary releaseId =>
    obtain ⟨-, hPreview, rfl, rfl⟩ := startCanary_eq_ok hPlan
    exact ⟨rfl, hPreview, hAfter⟩
  | promote releaseId reason =>
    obtain ⟨-, -, -, rfl⟩ := promote_eq_ok hPlan
    exact ⟨rfl, hAfter⟩
  | cancelCanary releaseId reason =>
    obtain ⟨-, hStable, rfl⟩ := cancelCanary_eq_ok hPlan
    refine ⟨rfl, rfl, hAfter.trans ?_⟩
    simp [DeployedIds.after, Pointers.ids, hStable]
  | rollback reason =>
    obtain ⟨previous, hOr, -, rfl, rfl⟩ := rollback_eq_ok hPlan
    refine ⟨rfl, rfl, hAfter.trans ?_⟩
    have hStable : some previous.releaseId = pointers.ids.previousStable.or
          pointers.ids.stable := by
      simp [Pointers.ids, ← Option.map_or, hOr]
    simp [DeployedIds.after, hStable]

/- Nothing is promoted, and the two pointers stay. -/
theorem Logged.promoted_concat (hLogged : Logged pointers deployments)
    (hPhase : deployment.phase ≠ .promoted)
    (hStable : deployment.pointers.ids.stable = pointers.ids.stable)
    (hPrevious : deployment.pointers.ids.previousStable = pointers.ids.previousStable) :
    ∀ releaseId previous, deployment.pointers.ids.stable = some releaseId →
        deployment.pointers.ids.previousStable = some previous →
          releaseId ≠ previous → LastPromotion (deployments ++ [deployment])
              releaseId (some previous) := by
  intro releaseId previous hNow hBefore hNe
  rw [hStable] at hNow
  rw [hPrevious] at hBefore
  exact (hLogged.promoted releaseId previous hNow hBefore hNe).concat hPhase

theorem Logged.plan (hLogged : Logged pointers deployments)
    (hPlan : call.plan ensureManifest now pointers = .ok (pointer, deployment)) :
    Logged deployment.pointers (deployments ++ [deployment]) := by
  have hReplayed : deployment.pointers.ids = replayDeployments (deployments ++ [deployment]) := by
    rw [replayDeployments_concat, ← hLogged.replayed]
    exact plan_after hPlan hLogged.kept
  cases call with
  | setPreview releaseId =>
    obtain ⟨-, -, -, rfl, rfl⟩ := setPreview_eq_ok hPlan
    exact ⟨hReplayed, hLogged.kept, hLogged.promoted_concat (by simp) rfl rfl⟩
  | startCanary releaseId =>
    obtain ⟨-, -, rfl, rfl⟩ := startCanary_eq_ok hPlan
    exact ⟨hReplayed, hLogged.kept, hLogged.promoted_concat (by simp) rfl rfl⟩
  | promote releaseId reason =>
    obtain ⟨-, -, hId, rfl⟩ := promote_eq_ok hPlan
    refine ⟨hReplayed, (fun hNone => by cases hNone), ?_⟩
    intro stable previous hStable hPrevious _
    have hOld : pointers.ids.stable = some previous := by
      cases hCase : pointers.stable with
      | none =>
        simp [Pointers.ids, Pointers.set, keepPrevious, hCase, hLogged.kept hCase] at hPrevious
      | some old =>
        simpa [Pointers.ids, Pointers.set, keepPrevious, nextPointer, hCase] using hPrevious
    refine ⟨deployments, _, [], rfl, rfl, ?_, by simp, ?_⟩
    · have hSame : some pointer.releaseId = some stable := hStable
      rw [hId] at hSame
      exact Option.some.inj hSame
    · rw [← hLogged.replayed]
      exact hOld
  | cancelCanary releaseId reason =>
    obtain ⟨-, hStable, rfl⟩ := cancelCanary_eq_ok hPlan
    exact ⟨hReplayed, hLogged.kept, hLogged.promoted_concat (by simp) rfl rfl⟩
  | rollback reason =>
    obtain ⟨previous, hOr, -, rfl, rfl⟩ := rollback_eq_ok hPlan
    refine ⟨hReplayed, (fun hNone => by cases hNone), ?_⟩
    -- The stable release is now the previous one as well.
    intro stable old hStable hOld hNe
    refine absurd ?_ hNe
    cases hCase : pointers.previousStable with
    | none => simp [Pointers.ids, Pointers.set, hCase] at hOld
    | some before =>
      rw [hCase, Option.some_or] at hOr
      simp only [Option.some.injEq] at hOr
      subst hOr
      simp only [Pointers.ids, Pointers.set, hCase,
        Option.map_some, Option.some.injEq] at hStable hOld
      exact hStable.symm.trans hOld

end

end

end GolutraAgent.Release
