import Mathlib.Logic.Function.Basic
import GolutraAgent.Core.Ids
import GolutraAgent.Library.Machine
import GolutraAgent.Library.Text

/-
  This file models the skills of the evolution store: a record for each skill,
  the file of its candidate, and the file in the active directory. A record may
  be staged again whatever its status is. So an installed skill can lose its
  record while its file stays, and the records and the files agree only in runs
  where that does not happen.

  Main declarations:
    * `active_files_match`
    * `restaged_skill_stays_active`
-/

namespace GolutraAgent.Evolution

/- A skill is proposed, reviewed, installed and perhaps taken back. -/
inductive SkillLifecycleStatus
| proposed
| reviewed
| rejected
| installed
| rolledBack
deriving DecidableEq, Repr

structure SkillCandidate where
  id : String
  sourceTaskId : TaskId
  sourceTrajectory : String
  reusablePattern : String
  evidenceRefs : List EvidenceId
  regressionRefs : List String
  scope : String
  rollbackRef : String

/- What a skill file is rendered from. -/
structure SkillManifest where
  skillId : String
  name : String
  description : String
  sourceTaskId : TaskId
  sourceTrajectory : String
  prerequisites : List String
  steps : List String
  failureCases : List String
  evidenceRefs : List EvidenceId
  regressionRefs : List String
  scope : String
  rollbackRef : String

structure SkillLifecycleRecord where
  manifest : SkillManifest
  status : SkillLifecycleStatus
  candidatePath : String
  installedPath : Option String
  checksum : String
  reviewer : Option String
  reviewReason : Option String
  createdAt : Timestamp
  reviewedAt : Option Timestamp
  installedAt : Option Timestamp
  rolledBackAt : Option Timestamp
  rollbackReason : Option String

inductive EvolutionError
| io (message : String)
| limit (message : String)
| skillGate (message : String)
| skillNotFound (skillId : String)
| skillState (message : String)

/- The records by the identifiers of their skills. -/
abbrev SkillRecords := String → Option SkillLifecycleRecord

/- The root of the skills, and what is not modelled of them. -/
structure SkillLibrary where
  skillsRoot : String
  sha256 : String → String
  quote : String → String
  encodedSize : SkillRecords → Nat

/- The records, and the files of the two directories. -/
structure SkillStore where
  skills : SkillRecords
  candidates : String → Option String
  active : String → Option String

def SkillStore.empty : SkillStore := ⟨fun _ => none, fun _ => none, fun _ => none⟩

def maxEvolutionStateBytes : Nat := 64 * 1024 * 1024

def isAsciiAlphanumeric (c : Char) : Bool :=
  ('a' ≤ c && c ≤ 'z') || ('A' ≤ c && c ≤ 'Z') || ('0' ≤ c && c ≤ '9')

/- The identifier is the name of a directory. -/
def validateSkillId (skillId : String) : Except EvolutionError Unit :=
  if skillId = "" || 128 < skillId.utf8ByteSize || !skillId.toList.all (fun c =>
        isAsciiAlphanumeric c || c = '-' || c = '_') then
    .error (.skillGate "skill id must contain only ASCII letters, digits, '-' or '_'")
  else .ok ()

/- The first six words of a pattern, joined by hyphens. -/
def skillName (value : String) : String :=
  let parts := ((value.toList.splitOnP (fun c =>
    !isAsciiAlphanumeric c)).filter (fun part => part ≠ [])).take 6
  if parts = [] then "verified-workspace-skill"
  else String.intercalate "-" (parts.map (fun part => (String.ofList part).map Char.toLower))

namespace SkillLibrary

variable (library : SkillLibrary)

/- The text of a skill file. -/
def renderSkillMarkdown (manifest : SkillManifest) : String :=
  "---\nname: " ++ library.quote manifest.name ++
    "\ndescription: " ++ library.quote manifest.description ++
    "\n---\n\n# " ++ manifest.name ++
    "\n\n## Prerequisites\n" ++
    String.intercalate "\n" (manifest.prerequisites.map ("- " ++ ·)) ++
    "\n\n## Workflow\n" ++
    String.intercalate "\n" (manifest.steps.zipIdx.map
      (fun step => toString (step.2 + 1) ++ ". " ++ step.1)) ++
    "\n"

def checksum (content : String) : String := "sha256:" ++ library.sha256 content

def skillPath (directory skillId : String) : String :=
  library.skillsRoot ++ "/" ++ directory ++ "/" ++ skillId ++ "/SKILL.md"

def manifestOf (candidate : SkillCandidate) : SkillManifest :=
  { skillId := candidate.id
    name := skillName candidate.reusablePattern
    description := candidate.reusablePattern
    sourceTaskId := candidate.sourceTaskId
    sourceTrajectory := candidate.sourceTrajectory
    prerequisites := ["matching workspace objective"]
    steps := [candidate.reusablePattern]
    failureCases := []
    evidenceRefs := candidate.evidenceRefs
    regressionRefs := candidate.regressionRefs
    scope := candidate.scope
    rollbackRef := candidate.rollbackRef }

def proposedRecord (now : Timestamp) (manifest : SkillManifest) : SkillLifecycleRecord :=
  { manifest
    status := .proposed
    candidatePath := library.skillPath "candidates" manifest.skillId
    installedPath := none
    checksum := library.checksum (library.renderSkillMarkdown manifest)
    reviewer := none
    reviewReason := none
    createdAt := now
    reviewedAt := none
    installedAt := none
    rolledBackAt := none
    rollbackReason := none }

def installedRecord (now : Timestamp) (skillId : String)
    (record : SkillLifecycleRecord) : SkillLifecycleRecord :=
  { record with
    installedPath := some (library.skillPath "active" skillId)
    installedAt := some now
    status := .installed }

end SkillLibrary

def rolledBackRecord (now : Timestamp) (reason : String)
    (record : SkillLifecycleRecord) : SkillLifecycleRecord :=
  { record with
    status := .rolledBack
    rolledBackAt := some now
    rollbackReason := some reason }

/- The record that a call changed, and the store it leaves. -/
abbrev SkillResult : Type := Except EvolutionError SkillLifecycleRecord × SkillStore

namespace SkillStore

variable (library : SkillLibrary)

def putRecord (store : SkillStore) (skillId : String)
    (record : SkillLifecycleRecord) : SkillStore :=
  { store with skills := Function.update store.skills skillId record }

/-
  Change the state and save it. Files that the change wrote stay as they are if
  the state turns out to be too large.
-/
def withState (change : SkillStore → Except EvolutionError (SkillLifecycleRecord × SkillStore))
    (store : SkillStore) : SkillResult :=
  match change store with
  | .error error => (.error error, store)
  | .ok (record, changed) =>
    if maxEvolutionStateBytes < library.encodedSize changed.skills then
      (.error (.limit "serialized evolution state is too large"),
        { changed with skills := store.skills })
    else (.ok record, changed)

/- Change the record of a skill, if there is one. -/
def withRecord (skillId : String)
    (change : SkillLifecycleRecord → Except EvolutionError (SkillLifecycleRecord × SkillStore))
    (store : SkillStore) : Except EvolutionError (SkillLifecycleRecord × SkillStore) :=
  match store.skills skillId with
  | none => .error (.skillNotFound skillId)
  | some record => change record

variable (now : Timestamp)

def stageSkill (candidate : SkillCandidate) (store : SkillStore) : SkillResult :=
  match validateSkillId candidate.id with
  | .error error => (.error error, store)
  | .ok () =>
    if candidate.evidenceRefs = [] || Text.isBlank candidate.rollbackRef ||
        candidate.scope ≠ "project" then
      (.error (.skillGate
        "skill candidate requires project scope, evidence, and rollback metadata"), store)
    else
      let manifest := SkillLibrary.manifestOf candidate
      let record := library.proposedRecord now manifest
      -- The candidate is written before the lock is taken.
      { store with
        candidates := Function.update store.candidates candidate.id
          (some (library.renderSkillMarkdown manifest))
        }.withState library (fun store => .ok (record, store.putRecord candidate.id record))

/- A review is of a proposal, and happens once. -/
def reviewSkill (skillId reviewer reason : String) (regressionRefs : List String) (approved : Bool)
    (store : SkillStore) : SkillResult :=
  match validateSkillId skillId with
  | .error error => (.error error, store)
  | .ok () =>
    if Text.isBlank reviewer || Text.isBlank reason then
      (.error (.skillGate "skill reviewer and reason are required"), store)
    else if approved && regressionRefs = [] then
      (.error (.skillGate "approved skill requires at least one regression result"), store)
    else
      store.withState library (fun store =>
        store.withRecord skillId (fun record =>
          if record.status ≠ .proposed then
            .error (.skillState ("skill " ++ skillId ++ " is " ++ Text.debugName record.status))
          else
            let reviewed := { record with
              manifest := { record.manifest with regressionRefs }
              reviewer := some reviewer
              reviewReason := some reason
              reviewedAt := some now
              status := if approved then .reviewed else .rejected }
            .ok (reviewed, store.putRecord skillId reviewed)))

/- The candidate file has to be the reviewed one, by its checksum. -/
def installSkill (skillId : String) (store : SkillStore) : SkillResult :=
  match validateSkillId skillId with
  | .error error => (.error error, store)
  | .ok () =>
    store.withState library (fun store =>
      store.withRecord skillId (fun record =>
        if record.status ≠ .reviewed then
          .error (.skillState ("skill " ++ skillId ++ " must be reviewed before install"))
        else if record.candidatePath ≠ library.skillPath "candidates" skillId then
          .error (.skillGate "staged skill path does not match the governed skill store")
        else
          match store.candidates skillId with
          | none => .error (.io "No such file or directory")
          | some source =>
            if library.checksum source ≠ record.checksum then
              .error (.skillGate "staged skill checksum changed after review")
            else
              let installed := library.installedRecord now skillId record
              .ok (installed, { store with
                active := Function.update store.active skillId (some source)
                }.putRecord skillId installed)))

/- The active file is removed. -/
def rollbackSkill (skillId reason : String) (store : SkillStore) : SkillResult :=
  match validateSkillId skillId with
  | .error error => (.error error, store)
  | .ok () =>
    if Text.isBlank reason then (.error (.skillGate "skill rollback reason is required"), store)
    else
      store.withState library (fun store =>
        store.withRecord skillId (fun record =>
          if record.status ≠ .installed then
            .error (.skillState ("skill " ++ skillId ++ " is not installed"))
          else if record.installedPath ≠ some (library.skillPath "active" skillId) then
            .error (.skillGate "installed skill path does not match the governed skill store")
          else
            let rolledBack := rolledBackRecord now reason record
            .ok (rolledBack, { store with
              active := Function.update store.active skillId none
              }.putRecord skillId rolledBack)))

end SkillStore

/- The store, and the checksums that were approved last. -/
structure SkillWorld where
  store : SkillStore
  approved : String → Option String

/- The calls, with the time of each. -/
inductive SkillOp
| stage (now : Timestamp) (candidate : SkillCandidate)
| review (now : Timestamp) (skillId reviewer reason : String) (regressionRefs : List String)
    (approved : Bool)
| install (now : Timestamp) (skillId : String)
| rollback (now : Timestamp) (skillId reason : String)

namespace SkillWorld

def start : SkillWorld := ⟨.empty, fun _ => none⟩

/- A review that was saved with an approval is noted. -/
def afterReview (world : SkillWorld) (skillId : String) (approved : Bool) : SkillResult → SkillWorld
| (.error _, store) => { world with store }
| (.ok record, store) =>
  { store
    approved :=
      if approved then Function.update world.approved skillId record.checksum
      else world.approved }

variable (library : SkillLibrary) (world : SkillWorld)

def step : SkillOp → SkillWorld
| .stage now candidate => { world with store := (world.store.stageSkill library now candidate).2 }
| .review now skillId reviewer reason regressionRefs approved =>
  world.afterReview skillId approved (world.store.reviewSkill library now skillId reviewer
      reason regressionRefs approved)
| .install now skillId => { world with store := (world.store.installSkill library now skillId).2 }
| .rollback now skillId reason =>
  { world with store := (world.store.rollbackSkill library now skillId reason).2 }

/-
  There is a file for exactly the installed skills, with the content that was
  approved.
-/
def Matching : Prop := ∀ skillId, ((world.store.active skillId).isSome ↔
      ∃ record, world.store.skills skillId = some record ∧ record.status = .installed) ∧
    ∀ content, world.store.active skillId = some content →
      world.approved skillId = some (library.checksum content)

/- The state with a changed record can still be saved. -/
def Room (skillId : String) (change : SkillLifecycleRecord → SkillLifecycleRecord) : Prop :=
  ∀ record, world.store.skills skillId = some record →
    library.encodedSize (Function.update world.store.skills
      skillId (change record)) ≤ maxEvolutionStateBytes

/-
  No installed skill is staged again, and there is room for the state that goes
  with a change of the active directory.
-/
def Orderly : SkillOp → Prop
| .stage _ candidate =>
  ∀ record, world.store.skills candidate.id = some record → record.status ≠ .installed
| .review _ _ _ _ _ _ => True
| .install now skillId => Room library world skillId (library.installedRecord now skillId)
| .rollback now skillId reason => Room library world skillId (rolledBackRecord now reason)

variable {library : SkillLibrary} {world : SkillWorld}

/- The record, the file and the approval of one skill agree. -/
def SettledAt (library : SkillLibrary) (active approved : Option String) :
    Option SkillLifecycleRecord → Prop
| none => active = none
| some record =>
  (record.status = .installed ↔ active.isSome) ∧
  (record.status = .reviewed ∨ record.status = .installed → approved = some record.checksum) ∧
  ∀ content, active = some content → library.checksum content = record.checksum

def Settled (library : SkillLibrary) (world : SkillWorld) : Prop :=
  ∀ skillId, SettledAt library (world.store.active skillId)
    (world.approved skillId) (world.store.skills skillId)

theorem Settled.matching (hSettled : world.Settled library) : world.Matching library := by
  intro skillId
  have hAt := hSettled skillId
  cases hSkill : world.store.skills skillId with
  | none =>
    rw [hSkill] at hAt
    simp only [SettledAt] at hAt
    simp [hAt]
  | some record =>
    rw [hSkill] at hAt
    obtain ⟨hStatus, hApproved, hContent⟩ := hAt
    refine ⟨by simp [← hStatus], ?_⟩
    intro content hActive
    have hInstalled : record.status = .installed := hStatus.2 (by simp [hActive])
    rw [hApproved (.inr hInstalled), hContent content hActive]

variable {skillId : String} {store : SkillStore}

/- One skill changes, the others are left alone. -/
theorem Settled.set {approved : String → Option String} (hSettled : world.Settled library)
    (hOthers : ∀ other ≠ skillId, store.active other = world.store.active other ∧
      approved other = world.approved other ∧ store.skills other = world.store.skills other)
    (hAt : SettledAt library (store.active skillId) (approved skillId) (store.skills skillId)) :
    Settled library ⟨store, approved⟩ := by
  intro other
  by_cases hSame : other = skillId
  · rw [hSame]
    exact hAt
  · obtain ⟨hActive, hApproved, hSkills⟩ := hOthers other hSame
    simp only [hActive, hApproved, hSkills]
    exact hSettled other

open SkillStore

/- A save leaves nothing, the files only, or everything. -/
theorem withState_rule {change : SkillStore →
      Except EvolutionError (SkillLifecycleRecord × SkillStore)} {motive : SkillResult → Prop}
    (hError : ∀ error, motive (.error error, store)) (hLarge : ∀ record changed error,
      change store = .ok (record, changed) → maxEvolutionStateBytes <
        library.encodedSize changed.skills →
      motive (.error error, { changed with skills := store.skills }))
    (hSaved : ∀ record changed, change store = .ok (record, changed) →
      motive (.ok record, changed)) : motive (store.withState library change) := by
  unfold withState
  cases hChange : change store with
  | error error => exact hError error
  | ok result =>
    by_cases hSize : maxEvolutionStateBytes < library.encodedSize result.2.skills
    · simp only [if_pos hSize]
      exact hLarge _ _ _ hChange hSize
    · simp only [if_neg hSize]
      exact hSaved _ _ hChange

theorem withRecord_eq_ok {change : SkillLifecycleRecord →
      Except EvolutionError (SkillLifecycleRecord × SkillStore)}
    {next : SkillLifecycleRecord × SkillStore} (hOk : store.withRecord skillId change = .ok next) :
    ∃ record, store.skills skillId = some record ∧ change record = .ok next := by
  unfold withRecord at hOk
  split at hOk
  · cases hOk
  · next record hRecord => exact ⟨record, hRecord, hOk⟩

variable {now : Timestamp}

section

variable (hSettled : world.Settled library)
include hSettled

theorem Settled.stage {candidate : SkillCandidate}
    (hOrderly : world.Orderly library (.stage now candidate)) :
    (world.step library (.stage now candidate)).Settled library := by
  unfold step stageSkill
  dsimp only
  split
  · exact hSettled
  split
  · exact hSettled
  refine withState_rule (motive := fun result =>
    Settled library ⟨result.2, world.approved⟩)
    (fun _ => hSettled) ?_ ?_
  · rintro _ _ _ ⟨⟩ -
    exact hSettled
  · rintro _ _ ⟨⟩
    refine hSettled.set (fun other hOther => ⟨rfl, rfl, Function.update_of_ne hOther _ _⟩) ?_
    -- The skill was not installed, so it has no file.
    have hInactive : world.store.active candidate.id = none := by
      have hAt := hSettled candidate.id
      cases hSkill : world.store.skills candidate.id with
      | none => simpa only [hSkill, SettledAt] using hAt
      | some record =>
        simp only [hSkill] at hAt
        have hStatus := hOrderly record hSkill
        simpa [hStatus] using hAt.1
    simp [SettledAt, putRecord, hInactive, SkillLibrary.proposedRecord]

theorem Settled.review {skillId reviewer reason : String}
    {regressionRefs : List String} {approved : Bool} :
    (world.step library (.review now skillId reviewer reason
      regressionRefs approved)).Settled library := by
  unfold step reviewSkill
  dsimp only
  split
  · exact hSettled
  split
  · exact hSettled
  split
  · exact hSettled
  refine withState_rule (motive := fun result =>
    (world.afterReview skillId approved result).Settled library) (fun _ => hSettled) ?_ ?_
  · intro _ _ _ hChange _
    obtain ⟨record, _, hOk⟩ := withRecord_eq_ok hChange
    split at hOk <;> cases hOk
    exact hSettled
  · intro _ _ hChange
    obtain ⟨record, hRecord, hOk⟩ := withRecord_eq_ok hChange
    split at hOk <;> cases hOk
    next hProposed =>
    have hAt := hSettled skillId
    simp only [hRecord, SettledAt, Decidable.of_not_not hProposed] at hAt
    refine hSettled.set (fun other hOther => ⟨rfl, ?_, Function.update_of_ne hOther _ _⟩) ?_
    · cases approved
      · rfl
      · exact Function.update_of_ne hOther _ _
    · cases approved <;> simpa [SettledAt, putRecord] using hAt

/- A change with room is saved, so only that case is left. -/
theorem Settled.withRoom {change : SkillStore → SkillLifecycleRecord →
      Except EvolutionError (SkillLifecycleRecord × SkillStore)}
    {update : SkillLifecycleRecord → SkillLifecycleRecord}
    (hRoom : world.Room library skillId update)
    (hChange : ∀ record next, change world.store record = .ok next →
      ∃ active candidates, next.2 = SkillStore.putRecord
        ⟨world.store.skills, candidates, Function.update world.store.active skillId active⟩
        skillId (update record) ∧ (world.store.skills skillId = some record →
          SettledAt library active (world.approved skillId) (some (update record)))) :
    Settled library ⟨(world.store.withState library (fun store => store.withRecord skillId
        (change store))).2, world.approved⟩ := by
  refine withState_rule (motive := fun result =>
    Settled library ⟨result.2, world.approved⟩)
    (fun _ => hSettled) ?_ ?_
  · intro _ changed _ hOk hLarge
    obtain ⟨record, hRecord, hNext⟩ := withRecord_eq_ok hOk
    obtain ⟨_, _, hChanged, _⟩ := hChange record _ hNext
    dsimp only at hChanged
    rw [hChanged] at hLarge
    exact absurd (hRoom record hRecord) (Nat.not_le_of_lt hLarge)
  · intro _ changed hOk
    obtain ⟨record, hRecord, hNext⟩ := withRecord_eq_ok hOk
    obtain ⟨_, _, hChanged, hAt⟩ := hChange record _ hNext
    rw [hChanged]
    refine hSettled.set (fun other hOther =>
      ⟨Function.update_of_ne hOther _ _, rfl, Function.update_of_ne hOther _ _⟩) ?_
    simpa [putRecord] using hAt hRecord

theorem Settled.install (hRoom : world.Orderly library (.install now skillId)) :
    (world.step library (.install now skillId)).Settled library := by
  unfold step installSkill
  dsimp only
  split
  · exact hSettled
  refine hSettled.withRoom hRoom (fun record next hOk => ?_)
  split at hOk
  · cases hOk
  next hReviewed =>
  split at hOk
  · cases hOk
  split at hOk
  · cases hOk
  next source _ =>
  split at hOk <;> cases hOk
  next hChecksum =>
  refine ⟨some source, world.store.candidates, rfl, ?_⟩
  intro hRecord
  have hAt := hSettled skillId
  simp only [hRecord, SettledAt, Decidable.of_not_not hReviewed] at hAt
  simp only [SettledAt, SkillLibrary.installedRecord,
    Option.isSome_some, Option.some.injEq, true_and]
  refine ⟨fun _ => hAt.2.1 (.inl trivial), ?_⟩
  rintro _ rfl
  exact Decidable.of_not_not hChecksum

theorem Settled.rollback {skillId reason : String}
    (hRoom : world.Orderly library (.rollback now skillId reason)) :
    (world.step library (.rollback now skillId reason)).Settled library := by
  unfold step rollbackSkill
  dsimp only
  split
  · exact hSettled
  split
  · exact hSettled
  refine hSettled.withRoom hRoom (fun record next hOk => ?_)
  split at hOk
  · cases hOk
  split at hOk <;> cases hOk
  refine ⟨none, world.store.candidates, rfl, fun _ => ?_⟩
  simp [SettledAt, rolledBackRecord]

theorem Settled.step {op : SkillOp} (hOrderly : world.Orderly library op) :
    (world.step library op).Settled library := by
  cases op with
  | stage => exact hSettled.stage hOrderly
  | review => exact hSettled.review
  | install => exact hSettled.install hOrderly
  | rollback => exact hSettled.rollback hOrderly

end

end SkillWorld

theorem active_files_match {library : SkillLibrary} {ops : List SkillOp}
    (hOrderly : Machine.Guarded (SkillWorld.step library) (SkillWorld.Orderly library) .start ops) :
    (Machine.run (SkillWorld.step library) .start ops).Matching library := by
  refine SkillWorld.Settled.matching ?_
  refine Machine.run_invariant ?_ ?_ hOrderly
  · intro world op hSettled hStep
    exact hSettled.step hStep
  · intro skillId
    rfl

def skillSample : SkillLibrary :=
  { skillsRoot := "skills"
    sha256 := id
    quote := id
    encodedSize := fun _ => 0 }

def skillCandidate : SkillCandidate :=
  { id := "build"
    sourceTaskId := ⟨.ofNat 1⟩
    sourceTrajectory := "task"
    reusablePattern := "Run the build first"
    evidenceRefs := [⟨.ofNat 2⟩]
    regressionRefs := []
    scope := "project"
    rollbackRef := "HEAD" }

def skillOps : List SkillOp :=
  [.stage ⟨0⟩ skillCandidate, .review ⟨1⟩ "build" "owner" "tested" ["suite"] true,
    .install ⟨2⟩ "build"]

theorem active_files_match_installed :
    (Machine.run (SkillWorld.step skillSample) .start skillOps).Matching skillSample := by
  refine active_files_match ⟨?_, trivial, fun _ _ => Nat.zero_le _, trivial⟩
  rintro record ⟨⟩

/- A skill that is staged again stays active, unrecorded. -/
theorem restaged_skill_stays_active : ¬ (Machine.run (SkillWorld.step skillSample) .start
      (skillOps ++ [.stage ⟨3⟩ skillCandidate])).Matching skillSample := by
  intro hMatching
  have hActive : ((Machine.run (SkillWorld.step skillSample)
      .start (skillOps ++ [.stage ⟨3⟩ skillCandidate])).store.active "build").isSome := by
    decide +kernel
  have hStatus : ((Machine.run (SkillWorld.step skillSample)
      .start (skillOps ++ [.stage ⟨3⟩ skillCandidate])).store.skills "build").map (·.status) =
      some .proposed := by
    decide +kernel
  obtain ⟨record, hRecord, hInstalled⟩ := ((hMatching "build").1.1 hActive)
  rw [hRecord, Option.map_some, hInstalled] at hStatus
  cases hStatus

end GolutraAgent.Evolution
