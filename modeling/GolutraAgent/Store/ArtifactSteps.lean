import GolutraAgent.Store.ArtifactPrograms

/-
  This file defines the invariant of the artifact store: the blob of every live
  artifact is there, and what evidence refers to is live. It says what each step
  under the lock does to the files and the tables, as a rule of the precondition
  calculus for the programs.

  What a blob has to be for its artifact is a parameter.
-/

namespace GolutraAgent.Store

open ArtifactCommand

/- What the artifact lock protects. -/
structure ArtifactStore where
  files : Directory
  artifactRecords : Table ArtifactRow.artifactId
  evidenceRecords : Table EvidenceRecord.evidenceId

def ArtifactWorld.store (world : ArtifactWorld) : ArtifactStore :=
  ⟨world.files, world.database.artifactRecords, world.database.evidenceRecords⟩

/- An artifact has a row that is no tombstone. -/
def Live (records : Table ArtifactRow.artifactId) (artifactId : ArtifactId) : Prop :=
  ∃ row, records.find? artifactId = some row ∧ row.blobDeletedAt = none

theorem isLiveArtifact_iff {database : Database} {artifactId : ArtifactId} :
    isLiveArtifact database artifactId = true ↔ Live database.artifactRecords artifactId := by
  simp [isLiveArtifact, Live, Option.any_eq_true]

namespace ArtifactStore

/- The blob of an artifact has a content. -/
def Holds (v : ArtifactStore) (artifactId : ArtifactId) (bytes : List UInt8) : Prop :=
  ∃ file, v.files.find? (.blob artifactId) = some file ∧ file.content = bytes

structure Sound (describes : ArtifactRecord → List UInt8 → Prop) (v : ArtifactStore) : Prop where
  blob : ∀ row ∈ v.artifactRecords.rows, row.blobDeletedAt = none →
      ∃ bytes, v.Holds row.artifactId bytes ∧ describes row.artifact bytes
  evidence : ∀ record ∈ v.evidenceRecords.rows,
    ∀ artifactId ∈ record.artifactRefs, Live v.artifactRecords artifactId

/- The tables are the same, and no blob is gone. -/
structure Extends (v v' : ArtifactStore) : Prop where
  artifactRecords : v'.artifactRecords = v.artifactRecords
  evidenceRecords : v'.evidenceRecords = v.evidenceRecords
  blob : ∀ artifactId bytes, v.Holds artifactId bytes → v'.Holds artifactId bytes

theorem Extends.refl (v : ArtifactStore) : v.Extends v := ⟨rfl, rfl, fun _ _ hBlob => hBlob⟩

theorem Extends.trans {first second third : ArtifactStore}
    (hFirst : first.Extends second) (hSecond : second.Extends third) : first.Extends third where
  artifactRecords := by
    rw [hSecond.artifactRecords, hFirst.artifactRecords]
  evidenceRecords := by
    rw [hSecond.evidenceRecords, hFirst.evidenceRecords]
  blob := fun artifactId bytes hBlob =>
    hSecond.blob artifactId bytes (hFirst.blob artifactId bytes hBlob)

variable {describes : ArtifactRecord → List UInt8 → Prop} {v v' : ArtifactStore}

theorem Sound.extends (hSound : v.Sound describes) (hExtends : v.Extends v') :
    v'.Sound describes where
  blob := by
    intro row hRow hLive
    rw [hExtends.artifactRecords] at hRow
    obtain ⟨bytes, hBlob, hBytes⟩ := hSound.blob row hRow hLive
    exact ⟨bytes, hExtends.blob _ _ hBlob, hBytes⟩
  evidence := by
    rw [hExtends.artifactRecords, hExtends.evidenceRecords]
    exact hSound.evidence

/- The store without a file. -/
def delete (v : ArtifactStore) (name : FileName) : ArtifactStore :=
  { v with files := v.files.delete name }

variable {name : FileName}

theorem delete_holds {artifactId : ArtifactId} {bytes : List UInt8}
    (hOther : name ≠ .blob artifactId) (hBlob : v.Holds artifactId bytes) :
    (v.delete name).Holds artifactId bytes := by
  obtain ⟨file, hFile, hContent⟩ := hBlob
  refine ⟨file, ?_, hContent⟩
  simp [delete, Table.find?_delete, hOther.symm, hFile]

/- A file may go that is not the blob of a live artifact. -/
theorem Sound.delete (hSound : v.Sound describes)
    (hOrphan : ∀ artifactId, name = .blob artifactId → ¬ Live v.artifactRecords artifactId) :
    (v.delete name).Sound describes where
  blob := by
    intro row hRow hLive
    obtain ⟨bytes, hBlob, hBytes⟩ := hSound.blob row hRow hLive
    refine ⟨bytes, delete_holds ?_ hBlob, hBytes⟩
    intro hName
    exact hOrphan _ hName ⟨row, Table.find?_eq_some_iff.2 ⟨hRow, rfl⟩, hLive⟩
  evidence := hSound.evidence

theorem extends_delete_temporary (artifactId : ArtifactId) (suffix : Uuid) :
    v.Extends (v.delete (.temporary artifactId suffix)) :=
  ⟨rfl, rfl, fun _ _ => delete_holds (fun hName => by cases hName)⟩

/- A new file does not take the place of another. -/
theorem extends_insert {file : ArtifactFile} {files : Directory}
    (hInsert : v.files.insert? file = some files) : v.Extends { v with files } := by
  refine ⟨rfl, rfl, ?_⟩
  rintro artifactId bytes ⟨blob, hBlob, hContent⟩
  refine ⟨blob, ?_, hContent⟩
  have hNew := (Table.insert?_eq_some hInsert).1
  have hOther : FileName.blob artifactId ≠ file.name := by
    intro hName
    rw [← hName, hBlob] at hNew
    cases hNew
  simp [Table.find?_insert? hInsert, hOther, hBlob]

/- Only a temporary file is written. -/
theorem extends_write (artifactId : ArtifactId) (suffix : Uuid)
    (bytes : List UInt8) (now : Timestamp) :
    v.Extends { v with files := v.files.write (.temporary artifactId suffix) bytes now } := by
  refine ⟨rfl, rfl, ?_⟩
  rintro other content ⟨blob, hBlob, hContent⟩
  have hName := (Table.find?_eq_some_iff.1 hBlob).2
  refine ⟨blob, ?_, hContent⟩
  simp [Directory.write, Table.find?_updateWhere, hBlob, hName]

end ArtifactStore

open ArtifactStore

/-
  Each step of the program keeps the invariant, and a program that succeeds ends
  in `good`.
-/
def ArtifactProgram.Safe {α : Type} (describes : ArtifactRecord → List UInt8 → Prop)
    (good : α → ArtifactStore → Prop) (program : ArtifactProgram α) (v : ArtifactStore) : Prop :=
  program.Keeps ArtifactCommand.handle ArtifactWorld.store (fun v world => world.store = v)
    (fun _ world => world.store.Sound describes) good (fun _ => Sound describes) v

section

variable {α β : Type} {describes : ArtifactRecord → List UInt8 → Prop} {v : ArtifactStore}

namespace ArtifactProgram.Safe

variable {good : β → ArtifactStore → Prop} {program : ArtifactProgram α}

theorem bind {rest : α → ArtifactProgram β}
    (hSafe : Safe describes (fun result => Safe describes good (rest result))
      program v) : Safe describes good (program >>= rest) v :=
  Program.Keeps.bind hSafe

theorem mono {good good' : α → ArtifactStore → Prop} (hSafe : Safe describes good program v)
    (hGood : ∀ result v, good result v → good' result v) : Safe describes good' program v :=
  Program.Keeps.mono hGood (fun _ _ hSound => hSound) hSafe

theorem outcome {good : Except StoreError α → ArtifactStore → Prop}
    (hSafe : Safe describes (fun result => good (.ok result)) program v)
    (hError : ∀ error v, v.Sound describes → good (.error error) v) :
    Safe describes good (Program.outcome program) v :=
  Program.Keeps.outcome (Program.Keeps.mono (fun _ _ hGood => hGood) hError hSafe)

theorem ofExcept {good : α → ArtifactStore → Prop} {check : Except StoreError α}
    (hSound : v.Sound describes) (hGood : ∀ result, check = .ok result → good result v) :
    Safe describes good (Program.ofExcept check) v :=
  Program.Keeps.ofExcept hGood (fun _ _ => hSound)

/- A loop, and what its invariant is in the end. -/
theorem foldlM {item : Type} {round : β → item → ArtifactProgram β} {items : List item} {acc : β}
    (loop : β → ArtifactStore → Prop) (hLoop : loop acc v)
    (hRound : ∀ x ∈ items, ∀ acc v, loop acc v → Safe describes loop (round acc x) v)
    (hGood : ∀ acc v, loop acc v → good acc v) : Safe describes good (items.foldlM round acc) v :=
  Safe.mono (Program.Keeps.foldlM hRound hLoop) hGood

end ArtifactProgram.Safe

variable {command : ArtifactCommand}

section

variable (hSound : v.Sound describes)
include hSound

/- A step that changes nothing that is protected. -/
theorem safe_quiet {good : command.Answer → ArtifactStore → Prop}
    (hQuiet : ∀ choice world, (command.handle choice world).2 = world)
    (hGood : ∀ choice world, world.store = v → good (command.handle choice world).1 v) :
    (perform command).Safe describes good v := by
  rintro choice world rfl
  rw [hQuiet]
  exact ⟨hSound, hGood choice world rfl⟩

theorem safe_attempt {fileCall : FileCall} {good : Unit → ArtifactStore → Prop}
    (hGood : good () v) : (attempt fileCall).Safe describes good v := by
  apply ArtifactProgram.Safe.bind
  refine safe_quiet hSound (fun _ _ => rfl) ?_
  intro choice world _
  simp only [handle, StepChoice.answer]
  cases choice.failure with
  | none => exact hGood
  | some failure => exact hSound

theorem safe_query {good : Database → ArtifactStore → Prop}
    (hGood : ∀ database, database.artifactRecords = v.artifactRecords →
        database.evidenceRecords = v.evidenceRecords → good database v) :
    query.Safe describes good v := by
  apply ArtifactProgram.Safe.bind
  refine safe_quiet hSound ?_ ?_
  · intro choice world
    simp only [handle]
    split
    · rfl
    · rfl
  · rintro choice world rfl
    simp only [handle]
    split
    · exact hGood _ rfl rfl
    · exact hSound

variable {bytes : List UInt8} {name : FileName}

/- The content of a file that matches is the expected one. -/
theorem safe_artifactBlobMatches {store : ArtifactSettings} {good : Bool → ArtifactStore → Prop}
    (hGood : ∀ isSame : Bool, (isSame = true → ∃ file, v.files.find? name = some file ∧
        file.content = bytes) → good isSame v) :
    (artifactBlobMatches store name bytes).Safe describes good v := by
  apply ArtifactProgram.Safe.bind
  refine safe_quiet hSound (fun _ _ => rfl) ?_
  rintro choice world rfl
  simp only [handle, StepChoice.answer]
  cases choice.failure with
  | some failure => exact hSound
  | none =>
    cases hFile : world.files.find? name with
    | none => exact hSound
    | some file =>
      apply hGood
      intro hSame
      refine ⟨file, hFile, ?_⟩
      have hTake : file.content.take (bytes.length + 1) = bytes := by simpa using hSame
      have hLength := congrArg List.length hTake
      rw [List.length_take] at hLength
      rw [List.take_of_length_le (by omega)] at hTake
      exact hTake

end

/- The directory changes, or the call had no effect. -/
theorem changes_cases (choice : StepChoice) (world : ArtifactWorld)
    (change : Except IoError Directory) : (choice.changes world change).2 = world ∨
      ∃ files, change = .ok files ∧ (choice.changes world change).2 = { world with files } := by
  unfold StepChoice.changes
  split
  · exact .inr ⟨_, rfl, rfl⟩
  · exact .inl rfl
  · exact .inr ⟨_, rfl, rfl⟩
  · exact .inl rfl

variable {good : Except IoError Unit → ArtifactStore → Prop}

theorem safe_removeFile (hSound : v.Sound describes)
    (hOrphan : ∀ artifactId, name = .blob artifactId → ¬ Live v.artifactRecords artifactId)
    (hKept : ∀ answer, good answer v) (hRemoved : ∀ answer, good answer (v.delete name)) :
    (perform (.removeFile name)).Safe describes good v := by
  rintro choice world rfl
  simp only [handle]
  rcases changes_cases choice world (world.files.removeFile name) with
    hSame | ⟨files, hRemove, hWorld⟩
  · rw [hSame]
    exact ⟨hSound, hKept _⟩
  · have hStore : ArtifactWorld.store { world with files } = world.store.delete name := by
      unfold Directory.removeFile at hRemove
      split at hRemove
      · cases hRemove
      · cases hRemove
        rfl
    rw [hWorld, hStore]
    exact ⟨hSound.delete hOrphan, hRemoved _⟩

/- A step that at most adds files, or writes temporaries. -/
theorem safe_extending {good : command.Answer → ArtifactStore → Prop} (hSound : v.Sound describes)
    (hExtends : ∀ choice world, world.store = v → v.Extends (command.handle choice world).2.store)
    (hGood : ∀ answer v', v.Extends v' → good answer v') :
    (perform command).Safe describes good v := by
  intro choice world hStore
  have hAfter := hExtends choice world hStore
  exact ⟨hSound.extends hAfter, hGood _ _ hAfter⟩

/- A change that only adds a file. -/
theorem extends_changes {choice : StepChoice} {world : ArtifactWorld}
    {change : Except IoError Directory}
    (hInsert : ∀ files, change = .ok files → ∃ file, world.files.insert? file = some files) :
    world.store.Extends (choice.changes world change).2.store := by
  rcases changes_cases choice world change with hSame | ⟨files, hChange, hWorld⟩
  · rw [hSame]
    exact .refl _
  · obtain ⟨file, hFile⟩ := hInsert files hChange
    rw [hWorld]
    exact extends_insert hFile

section

variable (hSound : v.Sound describes)
include hSound

theorem safe_createNew (hGood : ∀ answer v', v.Extends v' → good answer v') :
    (perform (.createNew name)).Safe describes good v := by
  refine safe_extending hSound ?_ hGood
  rintro choice world rfl
  apply extends_changes
  intro files hCreate
  unfold Directory.createNew at hCreate
  split at hCreate
  · rename_i hInsert
    cases hCreate
    exact ⟨_, hInsert⟩
  · cases hCreate

theorem safe_writeAll {artifactId : ArtifactId} {suffix : Uuid}
    (hGood : ∀ answer v', v.Extends v' → good answer v') :
    (perform (.writeAll (.temporary artifactId suffix) bytes)).Safe describes good v := by
  refine safe_extending hSound ?_ hGood
  rintro choice world rfl
  simp only [handle]
  split
  · exact extends_write artifactId suffix bytes _
  · exact extends_write artifactId suffix _ _

theorem safe_link {source target : FileName} {good : Bool → ArtifactStore → Prop}
    (hGood : ∀ linked v', v.Extends v' → good linked v') :
    (link source target).Safe describes good v := by
  apply ArtifactProgram.Safe.bind
  refine safe_extending hSound ?_ ?_
  · rintro choice world rfl
    apply extends_changes
    intro files hLink
    unfold Directory.hardLink at hLink
    split at hLink
    · cases hLink
    · split at hLink
      · rename_i hInsert
        cases hLink
        exact ⟨_, hInsert⟩
      · cases hLink
  · intro answer v' hExtends
    split
    · exact hGood true v' hExtends
    · exact hGood false v' hExtends
    · exact hSound.extends hExtends

/- The tables become those that a transaction leads to. -/
theorem safe_execute {statement : ArtifactStatement}
    {good : Option RuntimeEvent → ArtifactStore → Prop}
    (hCommit : ∀ (world : ArtifactWorld) event database,
      world.store = v → statement.transaction.run world.database =
        .ok (event, database) → (ArtifactWorld.store
          { world with database }).Sound describes ∧ good event (ArtifactWorld.store
            { world with database })) : (execute statement).Safe describes good v := by
  apply ArtifactProgram.Safe.bind
  intro choice world hStore
  simp only [handle, ArtifactStatement.execute]
  split
  · rw [hStore]
    exact ⟨hSound, hSound⟩
  · next event database hRun _ => exact hCommit world event database hStore hRun
  · rename_i event database _ _ hRun _
    have hAfter := (hCommit world event database hStore hRun).1
    exact ⟨hAfter, hAfter⟩
  · rw [hStore]
    exact ⟨hSound, hSound⟩

end

end

end GolutraAgent.Store
