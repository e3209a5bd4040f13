import GolutraAgent.Store.ArtifactSteps

/-
  This file says which rows of the artifact tables are live after a statement on
  them, and which evidence is stored. From that it follows that the statements,
  the preparation of a blob, and the compensation of prepared blobs after an
  error keep the invariant of the artifact store at every step. A blob that was
  prepared has the content that was given.
-/

namespace GolutraAgent.Store

open Transaction ArtifactStore

variable {deletedAt : Option Timestamp}

/- Its own row alone changes whether it is live. -/
theorem Live.setBlobDeletedAt {records : Table ArtifactRow.artifactId}
    {artifactId other : ArtifactId} (hLive : Live records other)
    (hKept : other = artifactId → deletedAt = none) :
    Live (setBlobDeletedAt records artifactId deletedAt) other := by
  obtain ⟨row, hRow, hNone⟩ := hLive
  have hName := (Table.find?_eq_some_iff.1 hRow).2
  unfold Live Store.setBlobDeletedAt
  rw [Table.find?_updateWhere, hRow]
  refine ⟨_, rfl, ?_⟩
  dsimp only
  split
  · rename_i hSelected
    have hSelected : row.artifactId = artifactId := by simpa using hSelected
    exact hKept (hName.symm.trans hSelected)
  · exact hNone

variable {artifactId : ArtifactId}

/- A row of another artifact, or the changed one. -/
theorem mem_setBlobDeletedAt {records : Table ArtifactRow.artifactId} {row : ArtifactRow}
    (hRow : row ∈ (setBlobDeletedAt records artifactId deletedAt).rows) :
    row ∈ records.rows ∨ ∃ old ∈ records.rows, old.artifactId = artifactId ∧
        row = { old with blobDeletedAt := deletedAt } := by
  obtain ⟨old, hOld, rfl⟩ := List.mem_map.1 hRow
  split
  · next hSelected => exact .inr ⟨old, hOld, by simpa using hSelected, rfl⟩
  · exact .inl hOld

/-
  The live rows are those from before and the rows of the artifacts, and none of
  them became a tombstone. The evidence is that from before and the new one.
-/
structure Published (artifacts : List ArtifactRecord) (evidence : List EvidenceRecord)
    (database database' : Database) : Prop where
  rows : ∀ row ∈ database'.artifactRecords.rows,
    row.blobDeletedAt = none → row ∈ database.artifactRecords.rows ∨ row.artifact ∈ artifacts
  live : ∀ artifactId, Live database.artifactRecords artifactId →
      Live database'.artifactRecords artifactId
  evidence : ∀ record ∈ database'.evidenceRecords.rows,
    record ∈ database.evidenceRecords.rows ∨ record ∈ evidence

namespace Published

variable {artifacts : List ArtifactRecord} {evidence : List EvidenceRecord}
variable {database database' : Database}

/- Nothing happened to the tables. -/
theorem of_eq (hArtifacts : database'.artifactRecords = database.artifactRecords)
    (hEvidence : database'.evidenceRecords = database.evidenceRecords) :
    Published artifacts evidence database database' := by
  constructor
  · intro row hRow _
    rw [hArtifacts] at hRow
    exact .inl hRow
  · intro artifactId hLive
    rw [hArtifacts]
    exact hLive
  · intro record hRecord
    rw [hEvidence] at hRecord
    exact .inl hRecord

instance : IsPreorder Database (Published artifacts evidence) where
  refl := fun _ => of_eq rfl rfl
  trans := by
    intro first second third hFirst hSecond
    constructor
    · intro row hRow hLive
      rcases hSecond.rows row hRow hLive with hOld | hNew
      · exact hFirst.rows row hOld hLive
      · exact .inr hNew
    · exact fun artifactId hLive => hSecond.live artifactId (hFirst.live artifactId hLive)
    · intro record hRecord
      rcases hSecond.evidence record hRecord with hOld | hNew
      · exact hFirst.evidence record hOld
      · exact .inr hNew

theorem insertArtifactMetadata {artifact : ArtifactRecord} (hArtifact : artifact ∈ artifacts) :
    Leads (Published artifacts evidence) (insertArtifactMetadataInTransaction artifact) := by
  intro database
  apply LeadsFrom.get_bind
  dsimp only
  split
  · rename_i records hInsert
    obtain ⟨hNew, hRows⟩ := Table.insert?_eq_some hInsert
    apply LeadsFrom.set
    refine ⟨?_, ?_, fun record hRecord => .inl hRecord⟩
    · intro row hRow _
      rw [hRows, List.mem_append, List.mem_singleton] at hRow
      rcases hRow with hOld | rfl
      · exact .inl hOld
      · exact .inr hArtifact
    · rintro artifactId ⟨row, hFind, hLive⟩
      refine ⟨row, ?_, hLive⟩
      have hOther : artifactId ≠ artifact.artifactId := by
        rintro rfl
        rw [hFind] at hNew
        cases hNew
      simp [Table.find?_insert? hInsert, hOther, hFind]
  · split
    · exact LeadsFrom.throw _
    · rename_i existing hFind
      split
      · exact LeadsFrom.throw _
      · rename_i hSame
        have hSame := not_not.1 hSame
        apply LeadsFrom.set
        refine ⟨?_, ?_, fun record hRecord => .inl hRecord⟩
        · intro row hRow _
          rcases mem_setBlobDeletedAt hRow with hOld | ⟨old, hOld, hId, rfl⟩
          · exact .inl hOld
          · have hOldFind := Table.find?_eq_some_iff.2 ⟨hOld, hId⟩
            rw [hFind] at hOldFind
            cases hOldFind
            rw [← hSame] at hArtifact
            exact .inr hArtifact
        · exact fun artifactId hLive => hLive.setBlobDeletedAt (fun _ => rfl)

theorem insertEvidence {record : EvidenceRecord} (hRecord : record ∈ evidence) :
    Leads (Published artifacts evidence) (insertEvidenceInTransaction record) := by
  intro database
  apply LeadsFrom.get_bind
  split
  · exact LeadsFrom.throw _
  · rename_i records hInsert
    have hRows := (Table.insert?_eq_some hInsert).2
    apply LeadsFrom.set
    refine ⟨fun row hRow _ => .inl hRow, fun _ hLive => hLive, ?_⟩
    intro other hOther
    rw [hRows, List.mem_append, List.mem_singleton] at hOther
    rcases hOther with hOld | rfl
    · exact .inl hOld
    · exact .inr hRecord

/-
  The invariant is kept if the blobs of the artifacts are there and the new
  evidence refers to live artifacts.
-/
theorem sound {describes : ArtifactRecord → List UInt8 → Prop} {world : ArtifactWorld}
    (hPublished : Published artifacts evidence world.database database)
    (hSound : world.store.Sound describes)
    (hBlobs : ∀ artifact ∈ artifacts, ∃ bytes, world.store.Holds artifact.artifactId bytes ∧
        describes artifact bytes)
    (hReferences : ∀ record ∈ evidence, ∀ artifactId ∈ record.artifactRefs,
        Live database.artifactRecords artifactId) :
    (ArtifactWorld.store { world with database }).Sound describes := by
  constructor
  · intro row hRow hLive
    rcases hPublished.rows row hRow hLive with hOld | hNew
    · exact hSound.blob row hOld hLive
    · exact hBlobs row.artifact hNew
  · intro record hRecord artifactId hReference
    rcases hPublished.evidence record hRecord with hOld | hNew
    · exact hPublished.live artifactId (hSound.evidence record hOld artifactId hReference)
    · exact hReferences record hNew artifactId hReference

end Published

variable {database database' : Database} {evidence : List EvidenceRecord} {result : Unit}

/- What the new evidence refers to is live. -/
theorem validateBundleReferences_live {event : RuntimeEvent}
    (hRun : (validateBundleReferencesInTransaction event
      evidence).run database = .ok (result, database')) :
    database' = database ∧ ∀ record ∈ evidence, ∀ artifactId ∈ record.artifactRefs,
          Live database.artifactRecords artifactId := by
  obtain ⟨found, first, hGet, hRun⟩ := run_bind_eq_ok.1 hRun
  cases hGet
  obtain ⟨_, second, hEnvelope, hRun⟩ := run_bind_eq_ok.1 hRun
  obtain ⟨-, rfl⟩ := run_liftM_eq_ok.1 hEnvelope
  obtain ⟨references, third, hCollect, hRun⟩ := run_bind_eq_ok.1 hRun
  obtain ⟨-, rfl⟩ := run_liftM_eq_ok.1 hCollect
  obtain ⟨_, fourth, hArtifacts, hRun⟩ := run_bind_eq_ok.1 hRun
  obtain ⟨rfl, hLive⟩ := run_forM_of_mem (fun item s a s' hCheck => by
      split at hCheck
      · cases hCheck
      · cases hCheck
        rfl) hArtifacts
  obtain ⟨rfl, -⟩ := run_forM_of_mem (fun item s a s' hCheck => by
      split at hCheck
      · cases hCheck
      · cases hCheck
        rfl) hRun
  refine ⟨rfl, fun record hRecord artifactId hReference => ?_⟩
  obtain ⟨_, hCheck⟩ := hLive artifactId (by
    simp only [List.mem_append, List.mem_flatMap]
    exact .inl (.inl ⟨record, hRecord, hReference⟩))
  split at hCheck
  · cases hCheck
  · rename_i hIsLive
    apply isLiveArtifact_iff.1
    simpa using hIsLive

theorem appendToolCompletedBundle_published {event assigned : RuntimeEvent}
    {artifacts : List ArtifactRecord} (hRun : (appendToolCompletedBundle event artifacts
      evidence).run database = .ok (assigned, database')) :
    Published artifacts evidence database database' ∧
      ∀ record ∈ evidence, ∀ artifactId ∈ record.artifactRefs,
          Live database'.artifactRecords artifactId := by
  obtain ⟨_, first, hArtifacts, hRest⟩ := run_bind_eq_ok.1 hRun
  obtain ⟨_, second, hEvidence, hChecked⟩ := run_bind_eq_ok.1 hRest
  obtain ⟨_, third, hReferences, hAppend⟩ := run_bind_eq_ok.1 hChecked
  obtain ⟨rfl, hLive⟩ := validateBundleReferences_live hReferences
  have hEffect := appendEventAssigningSequence_effect [] event third assigned database' hAppend
  have hSame := hEffect.artifactRecords (by simp)
  have hFirst : Published artifacts evidence database first := Leads.forM
      (fun _ hItem => Published.insertArtifactMetadata hItem) database _ first hArtifacts
  have hSecond : Published artifacts evidence first third := Leads.forM
      (fun _ hItem => Published.insertEvidence hItem) first _ third hEvidence
  have hThird : Published artifacts evidence third database' :=
    .of_eq hSame (hEffect.evidenceRecords (by simp))
  refine ⟨trans_of _ (trans_of _ hFirst hSecond) hThird, ?_⟩
  rw [hSame]
  exact hLive

/- An artifact that no evidence refers to may become one. -/
theorem tombstoneArtifact_sound
    {describes : ArtifactRecord → List UInt8 → Prop} {world : ArtifactWorld}
    {now : Timestamp} {database : Database} (hSound : world.store.Sound describes)
    (hFree : ∀ record ∈ world.database.evidenceRecords.rows, artifactId ∉ record.artifactRefs)
    (hRun : (tombstoneArtifact artifactId now).run world.database = .ok (result, database)) :
    (ArtifactWorld.store { world with database }).Sound describes ∧
      database.evidenceRecords = world.database.evidenceRecords := by
  cases hRun
  refine ⟨⟨?_, ?_⟩, rfl⟩
  · intro row hRow hLive
    rcases mem_setBlobDeletedAt hRow with hOld | ⟨old, -, -, rfl⟩
    · exact hSound.blob row hOld hLive
    · cases hLive
  · intro record hRecord other hReference
    apply (hSound.evidence record hRecord other hReference).setBlobDeletedAt
    rintro rfl
    exact absurd hReference (hFree record hRecord)

end GolutraAgent.Store

namespace GolutraAgent.Store

open ArtifactStore ArtifactProgram

section

variable {α : Type} {describes : ArtifactRecord → List UInt8 → Prop}
variable {v : ArtifactStore} (store : ArtifactSettings)

section

variable (hSound : v.Sound describes)
include hSound

theorem removeFileIfPresent_safe {name : FileName} {good : Unit → ArtifactStore → Prop}
    (hOrphan : ∀ artifactId, name = .blob artifactId → ¬ Live v.artifactRecords artifactId)
    (hKept : good () v) (hRemoved : good () (v.delete name)) :
    (removeFileIfPresent store name).Safe describes good v := by
  apply Safe.bind
  refine safe_removeFile hSound hOrphan ?_ ?_
  · intro answer
    split
    · exact hKept
    · exact hKept
    · exact hSound
  · intro answer
    split
    · exact hRemoved
    · exact hRemoved
    · exact hSound.delete hOrphan

/- A blob is removed only if the database does not have it. -/
theorem compensateBlob_safe (removed : Bool) (blob : PreparedArtifactBlob) :
    (compensateBlob store removed blob).Safe describes (fun _ => Sound describes) v := by
  apply Safe.bind
  refine safe_query hSound ?_
  intro database hRecords _
  split
  · exact hSound
  · rename_i hDead
    have hOrphan : ∀ artifactId, FileName.blob blob.artifactId = .blob artifactId →
          ¬ Live v.artifactRecords artifactId := by
      rintro artifactId ⟨⟩
      rwa [isLiveArtifact_iff, hRecords] at hDead
    apply Safe.bind
    exact removeFileIfPresent_safe store hSound hOrphan hSound (hSound.delete hOrphan)

theorem compensatePreparedBlobs_safe (prepared : List PreparedArtifactBlob) :
    (compensatePreparedBlobs store prepared).Safe describes (fun _ => Sound describes) v := by
  apply Safe.bind
  refine Safe.foldlM (fun _ => Sound describes) hSound (fun blob _ removed v hSound =>
      compensateBlob_safe store hSound removed blob) ?_
  intro removed v hSound
  split
  · exact safe_attempt hSound hSound
  · exact hSound

variable {good : α → ArtifactStore → Prop}

theorem compensateAfterError_safe (prepared : List PreparedArtifactBlob) (error : StoreError) :
    (compensatePreparedBlobsAfterError store prepared error).Safe describes good v := by
  apply Safe.bind
  apply Safe.outcome
  · refine (compensatePreparedBlobs_safe store hSound prepared).mono ?_
    exact fun _ _ hSound => hSound
  · exact fun _ _ hSound => hSound

theorem unlinkAfterError_safe (artifact : ArtifactRecord) (linked : Bool) (error : StoreError) :
    (unlinkAfterError store artifact linked error).Safe describes good v := by
  unfold unlinkAfterError
  split
  · exact compensateAfterError_safe store hSound _ _
  · exact hSound

theorem orIoError_safe (answer : Except IoError α)
    (hGood : ∀ result, good result v) : (orIoError answer).Safe describes good v := by
  cases answer with
  | ok result => exact hGood result
  | error error => exact hSound

theorem writeTemporary_safe (artifact : ArtifactRecord) (bytes : List UInt8) (suffix : Uuid) :
    (writeTemporary artifact bytes (.temporary artifact.artifactId suffix)).Safe describes
        (fun _ => v.Extends) v := by
  apply Safe.bind
  refine safe_createNew hSound (fun created first hFirst => ?_)
  have hSound := hSound.extends hFirst
  apply Safe.bind
  refine orIoError_safe hSound created (fun _ => ?_)
  apply Safe.bind
  refine safe_writeAll hSound (fun written second hSecond => ?_)
  have hSound := hSound.extends hSecond
  apply Safe.bind
  refine orIoError_safe hSound written (fun _ => ?_)
  apply Safe.bind
  refine safe_attempt hSound ?_
  apply Safe.bind
  refine safe_attempt hSound ?_
  refine safe_link hSound (fun linked third hThird => ?_)
  exact (hFirst.trans hSecond).trans hThird

end

theorem cleanupTemporaryArtifact_safe {v' : ArtifactStore} (hSound : v'.Sound describes)
    (artifact : ArtifactRecord) (suffix : Uuid) (writeResult : Except StoreError Bool)
    (hWritten : ∀ linked, writeResult = .ok linked → v.Extends v') :
    (cleanupTemporaryArtifact store artifact (.temporary artifact.artifactId suffix)
      writeResult).Safe describes (fun _ => v.Extends) v' := by
  have hTemporary : v'.Extends _ := extends_delete_temporary artifact.artifactId suffix
  apply Safe.bind
  apply Safe.outcome
  · refine removeFileIfPresent_safe store hSound (fun _ hName => by cases hName) ?_ ?_
    · cases writeResult with
      | error error => exact hSound
      | ok linked => exact hWritten linked rfl
    · cases writeResult with
      | error error => exact hSound.extends hTemporary
      | ok linked => exact (hWritten linked rfl).trans hTemporary
  · intro error v'' hSound
    cases writeResult with
    | error error => exact hSound
    | ok linked => exact unlinkAfterError_safe store hSound _ _ _

section

variable (hSound : v.Sound describes)
include hSound

variable (artifact : ArtifactRecord)

theorem publishTemporary_safe (bytes : List UInt8) :
    (publishTemporary store artifact bytes).Safe describes (fun _ => v.Extends) v := by
  apply Safe.bind
  refine safe_quiet hSound (fun _ _ => rfl) ?_
  intro choice world _
  apply Safe.bind
  apply Safe.outcome
  · refine (writeTemporary_safe hSound artifact bytes choice.uuid).mono ?_
    intro linked v' hExtends
    exact cleanupTemporaryArtifact_safe store (hSound.extends hExtends) artifact choice.uuid _
      (fun _ _ => hExtends)
  · intro error v' hSound'
    refine cleanupTemporaryArtifact_safe store hSound' artifact choice.uuid (.error error) ?_
    intro linked hOk
    cases hOk

theorem linkBlob_safe (bytes : List UInt8) (duplicate : Option FileName) :
    (linkBlob store artifact bytes duplicate).Safe describes (fun _ => v.Extends) v := by
  cases duplicate with
  | none => exact publishTemporary_safe store hSound artifact bytes
  | some existing =>
    apply Safe.bind
    refine safe_artifactBlobMatches hSound ?_
    intro isSame _
    split
    · exact safe_link hSound (fun _ _ hExtends => hExtends)
    · exact hSound

theorem confirmPublication_safe (bytes : List UInt8) (linked : Bool) :
    (confirmPublication store artifact bytes linked).Safe describes
      (fun _ v' => v' = v ∧ v.Holds artifact.artifactId bytes) v := by
  apply Safe.bind
  apply Safe.outcome
  · refine safe_attempt hSound ?_
    apply Safe.bind
    apply Safe.outcome
    · refine safe_artifactBlobMatches hSound ?_
      intro isSame hSame
      cases isSame with
      | true => exact ⟨rfl, hSame rfl⟩
      | false => exact unlinkAfterError_safe store hSound _ _ _
    · intro error v' hSound'
      exact unlinkAfterError_safe store hSound' _ _ _
  · intro error v' hSound'
    exact unlinkAfterError_safe store hSound' _ _ _

theorem duplicatePath_safe (preferredSource : Option FileName) :
    (duplicatePath artifact preferredSource).Safe describes (fun _ v' => v' = v) v := by
  cases preferredSource with
  | some name => exact rfl
  | none =>
    apply Safe.bind
    exact safe_query hSound (fun _ _ _ => rfl)

/- The blob is there, with the bytes that were checked. -/
theorem prepareArtifactBlob_safe (bytes : List UInt8) (preferredSource : Option FileName) :
    (prepareArtifactBlob store artifact bytes preferredSource).Safe describes
        (fun _ v' => v.Extends v' ∧ v'.Holds artifact.artifactId bytes) v := by
  apply Safe.bind
  refine Safe.ofExcept hSound (fun _ _ => ?_)
  apply Safe.bind
  refine safe_attempt hSound ?_
  apply Safe.bind
  refine safe_attempt hSound ?_
  apply Safe.bind
  refine (duplicatePath_safe hSound artifact preferredSource).mono ?_
  rintro duplicate _ rfl
  apply Safe.bind
  refine (linkBlob_safe store hSound artifact bytes duplicate).mono ?_
  intro linked v' hExtends
  refine (confirmPublication_safe store (hSound.extends hExtends) artifact bytes linked).mono ?_
  rintro prepared _ ⟨rfl, hHolds⟩
  exact ⟨hExtends, hHolds⟩

end

end

end GolutraAgent.Store
