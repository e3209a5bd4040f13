import GolutraAgent.Store.ArtifactPreparation

/-
  This file proves that the operations under the artifact lock keep the
  invariant of the artifact store at every step: the storing of artifacts,
  bundles and evidence, and the maintenance, whose four passes each remove only
  what no live artifact needs.
-/

namespace GolutraAgent.Store

open ArtifactStore ArtifactProgram

section

variable {describes : ArtifactRecord → List UInt8 → Prop}
variable {v : ArtifactStore} (store : ArtifactSettings)

variable {artifact : ArtifactRecord} {bytes : List UInt8} {result : Unit}

theorem checksum_of_verify (hVerify : verifyArtifactChecksum store artifact bytes = .ok result) :
    store.artifactChecksum bytes = artifact.checksum := by
  unfold verifyArtifactChecksum at hVerify
  split at hVerify
  · assumption
  · cases hVerify

theorem storeArtifactInner_safe (hSound : v.Sound describes) (hDescribes :
      store.artifactChecksum bytes = artifact.checksum → describes artifact bytes) :
    (storeArtifactInner store artifact bytes).Safe describes (fun _ => Sound describes) v := by
  apply Safe.bind
  refine Safe.ofExcept hSound ?_
  intro _ hVerify
  have hBytes := hDescribes (checksum_of_verify store hVerify)
  apply Safe.bind
  refine (prepareArtifactBlob_safe store hSound artifact bytes none).mono ?_
  rintro prepared v' ⟨hExtends, hHolds⟩
  have hSound := hSound.extends hExtends
  apply Safe.bind
  apply Safe.outcome
  · refine safe_execute hSound ?_
    rintro world event database rfl hRun
    obtain ⟨_, middle, hInsert, hReturn⟩ := Transaction.run_bind_eq_ok.1 hRun
    cases hReturn
    have hPublished : Published [artifact] [] world.database database :=
      Published.insertArtifactMetadata List.mem_cons_self
        _ _ _ hInsert
    have hAfter := hPublished.sound hSound (fun other hOther => by
        rw [List.mem_singleton] at hOther
        subst hOther
        exact ⟨bytes, hHolds, hBytes⟩)
      (fun record hRecord => by cases hRecord)
    exact ⟨hAfter, hAfter⟩
  · intro error v' hSound
    exact compensateAfterError_safe store hSound _ _

variable {artifacts : List (ArtifactRecord × List UInt8)}

/- A bundle that passes declares what it contains. -/
theorem validateBundleArtifacts_declared {sessionId : SessionId}
    {artifactIds : List ArtifactId} {totalBytes : Nat}
    (hValid : validateBundleArtifacts store sessionId
      artifactIds totalBytes artifacts = .ok result) :
    ∀ entry ∈ artifacts, store.artifactChecksum entry.2 = entry.1.checksum ∧
        entry.1.sizeBytes = entry.2.length := by
  induction artifacts generalizing artifactIds totalBytes with
  | nil =>
    intro entry hEntry
    cases hEntry
  | cons head artifacts ih =>
    obtain ⟨artifact, bytes⟩ := head
    simp only [validateBundleArtifacts] at hValid
    split at hValid
    · cases hValid
    split at hValid
    · cases hValid
    split at hValid
    · cases hValid
    split at hValid
    · cases hValid
    next hSize =>
    split at hValid
    · cases hValid
    split at hValid
    · cases hValid
    cases hVerify : verifyArtifactChecksum store artifact bytes with
    | error error =>
      rw [hVerify] at hValid
      cases hValid
    | ok _ =>
      rw [hVerify] at hValid
      intro entry hEntry
      rcases List.mem_cons.1 hEntry with rfl | hTail
      · exact ⟨checksum_of_verify store hVerify, not_not.1 hSize⟩
      · exact ih hValid entry hTail

/- Every blob of the bundle is prepared, and stays. -/
theorem prepareBundleBlobs_safe (artifacts : List (ArtifactRecord × List UInt8))
    (hSound : v.Sound describes) (prepared : List PreparedArtifactBlob)
    (contentPaths : ContentPaths) :
    (prepareBundleBlobs store prepared contentPaths artifacts).Safe describes
        (fun _ v' => v.Extends v' ∧ ∀ entry ∈ artifacts,
            v'.Holds entry.1.artifactId entry.2) v := by
  induction artifacts generalizing v prepared contentPaths with
  | nil => exact ⟨.refl v, fun entry hEntry => by cases hEntry⟩
  | cons head artifacts ih =>
    apply Safe.bind
    apply Safe.outcome
    · refine (prepareArtifactBlob_safe store hSound head.1 head.2 _).mono ?_
      rintro blob v' ⟨hExtends, hHolds⟩
      refine (ih (hSound.extends hExtends) _ _).mono ?_
      rintro prepared v'' ⟨hRest, hBlobs⟩
      refine ⟨hExtends.trans hRest, fun entry hEntry => ?_⟩
      rcases List.mem_cons.1 hEntry with rfl | hTail
      · exact hRest.blob _ _ hHolds
      · exact hBlobs entry hTail
    · intro error v' hSound
      exact compensateAfterError_safe store hSound _ _

section

variable (hSound : v.Sound describes)
include hSound

theorem appendToolCompletedBundleInner_safe {event : RuntimeEvent} {evidence : List EvidenceRecord}
    (hDescribes : ∀ entry ∈ artifacts, store.artifactChecksum entry.2 = entry.1.checksum →
        entry.1.sizeBytes = entry.2.length → describes entry.1 entry.2) :
    (appendToolCompletedBundleInner store event artifacts evidence).Safe describes
        (fun _ => Sound describes) v := by
  apply Safe.bind
  refine Safe.ofExcept hSound ?_
  intro _ hValid
  have hDeclared : ∀ entry ∈ artifacts, describes entry.1 entry.2 := by
    unfold validateToolCompletionBundle at hValid
    split at hValid
    · cases hValid
    cases hEnvelope : requireEnvelope event with
    | error error =>
      rw [hEnvelope] at hValid
      cases hValid
    | ok _ =>
      rw [hEnvelope] at hValid
      cases hArtifacts : validateBundleArtifacts store event.sessionId [] 0 artifacts with
      | error error =>
        simp only [hArtifacts] at hValid
        cases hValid
      | ok _ =>
        intro entry hEntry
        have hEntryDeclared := validateBundleArtifacts_declared store hArtifacts entry hEntry
        exact hDescribes entry hEntry hEntryDeclared.1 hEntryDeclared.2
  apply Safe.bind
  refine (prepareBundleBlobs_safe store artifacts hSound [] []).mono ?_
  rintro prepared v' ⟨hExtends, hBlobs⟩
  have hSound := hSound.extends hExtends
  apply Safe.bind
  apply Safe.outcome
  · refine safe_execute hSound ?_
    rintro world event database rfl hRun
    obtain ⟨assigned, middle, hBundle, hReturn⟩ := Transaction.run_bind_eq_ok.1 hRun
    cases hReturn
    obtain ⟨hPublished, hReferences⟩ := appendToolCompletedBundle_published hBundle
    have hAfter := hPublished.sound hSound (fun artifact hArtifact => by
        obtain ⟨entry, hEntry, rfl⟩ := List.mem_map.1 hArtifact
        exact ⟨entry.2, hBlobs entry hEntry, hDeclared entry hEntry⟩) hReferences
    exact ⟨hAfter, hAfter⟩
  · intro error v' hSound
    exact compensateAfterError_safe store hSound _ _

variable (evidence : EvidenceRecord)

theorem requireLiveArtifacts_safe (artifactIds : List ArtifactId) :
    (artifactIds.foldlM (fun _ artifactId =>
        requireLiveArtifact evidence artifactId) ()).Safe describes
          (fun _ v' => v' = v ∧ ∀ artifactId ∈ artifactIds,
            Live v.artifactRecords artifactId) v := by
  induction artifactIds with
  | nil => exact ⟨rfl, fun artifactId hId => by cases hId⟩
  | cons head artifactIds ih =>
    apply Safe.bind
    apply Safe.bind
    refine safe_query hSound ?_
    intro database hRecords _
    split
    · rename_i hLive
      rw [isLiveArtifact_iff, hRecords] at hLive
      refine ih.mono ?_
      rintro _ _ ⟨rfl, hRest⟩
      refine ⟨rfl, fun artifactId hId => ?_⟩
      rcases List.mem_cons.1 hId with rfl | hTail
      · exact hLive
      · exact hRest artifactId hTail
    · exact hSound

theorem storeEvidenceInner_safe :
    (storeEvidenceInner evidence).Safe describes (fun _ => Sound describes) v := by
  apply Safe.bind
  refine (requireLiveArtifacts_safe hSound evidence evidence.artifactRefs).mono ?_
  rintro _ _ ⟨rfl, hLive⟩
  apply Safe.bind
  refine safe_execute hSound ?_
  rintro world event database rfl hRun
  obtain ⟨_, middle, hInsert, hReturn⟩ := Transaction.run_bind_eq_ok.1 hRun
  cases hReturn
  have hPublished : Published [] [evidence] world.database database :=
    Published.insertEvidence List.mem_cons_self _ _ _ hInsert
  have hAfter := hPublished.sound hSound (fun artifact hArtifact => by cases hArtifact)
    (fun record hRecord artifactId hReference => by
      rw [List.mem_singleton] at hRecord
      subst hRecord
      exact hPublished.live artifactId (hLive artifactId hReference))
  exact ⟨hAfter, hAfter⟩

/- What evidence refers to does not expire. -/
theorem expireArtifact_safe (now : Timestamp)
    (activeSessions : List SessionId) (skipped : Nat) (row : ArtifactRow) :
    (expireArtifact now (v.evidenceRecords.rows.flatMap EvidenceRecord.artifactRefs)
      activeSessions skipped row).Safe describes
        (fun _ v' => v'.Sound describes ∧ v'.evidenceRecords = v.evidenceRecords) v := by
  unfold expireArtifact
  dsimp only
  split
  · exact ⟨hSound, rfl⟩
  · split
    · exact ⟨hSound, rfl⟩
    · rename_i hFree
      apply Safe.bind
      refine safe_execute hSound ?_
      rintro world event database rfl hRun
      obtain ⟨_, middle, hTombstone, hReturn⟩ := Transaction.run_bind_eq_ok.1 hRun
      cases hReturn
      have hAfter := tombstoneArtifact_sound hSound (fun record hRecord hReference =>
          hFree (.inl (List.mem_flatMap.2 ⟨record, hRecord, hReference⟩))) hTombstone
      exact ⟨hAfter.1, hAfter⟩

theorem pruneFile_safe {name : FileName}
    (hOrphan : ∀ artifactId, name = .blob artifactId → ¬ Live v.artifactRecords artifactId)
    (removed : Nat) : (pruneFile removed name).Safe describes
      (fun _ v' => v'.Sound describes ∧ v'.artifactRecords = v.artifactRecords) v := by
  have hDelete := hSound.delete hOrphan
  apply Safe.bind
  refine safe_removeFile hSound hOrphan ?_ ?_
  · intro answer
    split
    · exact ⟨hSound, rfl⟩
    · exact ⟨hSound, rfl⟩
    · exact hSound
  · intro answer
    split
    · exact ⟨hDelete, rfl⟩
    · exact ⟨hDelete, rfl⟩
    · exact hDelete

theorem pruneTombstonedArtifactBlobs_safe :
    pruneTombstonedArtifactBlobs.Safe describes (fun _ => Sound describes) v := by
  apply Safe.bind
  refine safe_query hSound ?_
  intro database hRecords _
  have hLoop : ∀ row ∈ database.artifactRecords.rows.filter
      (·.blobDeletedAt.isSome), ¬ Live v.artifactRecords row.artifactId := by
    rintro row hRow ⟨live, hFind, hNone⟩
    rw [List.mem_filter, hRecords] at hRow
    have hRowFind := Table.find?_eq_some_iff.2 ⟨hRow.1, rfl⟩
    rw [hFind] at hRowFind
    cases hRowFind
    simp [hNone] at hRow
  refine Safe.foldlM (fun _ v' => v'.Sound describes ∧ v'.artifactRecords = v.artifactRecords)
    ⟨hSound, rfl⟩ ?_ (fun _ _ hKept => hKept.1)
  rintro row hRow removed v' ⟨hSound', hSame⟩
  refine (pruneFile_safe hSound' ?_ removed).mono ?_
  · rintro artifactId ⟨⟩
    rw [hSame]
    exact hLoop row hRow
  · rintro _ v'' ⟨hSound'', hSame'⟩
    exact ⟨hSound'', hSame'.trans hSame⟩

theorem readRoot_safe : readRoot.Safe describes (fun _ v' => v' = v) v := by
  apply Safe.bind
  refine safe_quiet hSound (fun _ _ => rfl) ?_
  intro choice world _
  split
  · exact rfl
  · exact rfl
  · exact hSound

theorem pruneOrphan_safe {liveIds : List ArtifactId}
    (hLiveIds : ∀ artifactId, Live v.artifactRecords artifactId → artifactId ∈ liveIds)
    (removed : Nat) (name : FileName) : (pruneOrphan liveIds removed name).Safe describes
      (fun _ v' => v'.Sound describes ∧ v'.artifactRecords = v.artifactRecords) v := by
  cases name with
  | temporary artifactId suffix => exact ⟨hSound, rfl⟩
  | blob artifactId =>
    simp only [pruneOrphan]
    split
    · exact ⟨hSound, rfl⟩
    · rename_i hDead
      apply Safe.bind
      refine safe_quiet hSound (fun _ _ => rfl) ?_
      intro choice world _
      split
      · refine pruneFile_safe hSound ?_ removed
        rintro _ ⟨⟩ hLive
        exact hDead (hLiveIds _ hLive)
      · exact ⟨hSound, rfl⟩
      · exact hSound

theorem pruneOrphanedArtifactBlobs_safe :
    pruneOrphanedArtifactBlobs.Safe describes (fun _ => Sound describes) v := by
  apply Safe.bind
  refine safe_query hSound ?_
  intro database hRecords _
  have hLiveIds : ∀ artifactId, Live v.artifactRecords artifactId →
        artifactId ∈ (database.artifactRecords.rows.filter
          (·.blobDeletedAt.isNone)).map ArtifactRow.artifactId := by
    rintro artifactId ⟨row, hFind, hNone⟩
    obtain ⟨hRow, rfl⟩ := Table.find?_eq_some_iff.1 hFind
    refine List.mem_map.2 ⟨row, List.mem_filter.2 ?_, rfl⟩
    rw [hRecords]
    exact ⟨hRow, by simp [hNone]⟩
  apply Safe.bind
  refine (readRoot_safe hSound).mono ?_
  intro names v₀ hRoot
  subst hRoot
  refine Safe.foldlM (fun _ v' => v'.Sound describes ∧ v'.artifactRecords = v₀.artifactRecords)
    ⟨hSound, rfl⟩ ?_ (fun _ _ hKept => hKept.1)
  rintro name - removed v' ⟨hSound', hSame⟩
  refine (pruneOrphan_safe hSound' ?_ removed name).mono ?_
  · rw [hSame]
    exact hLiveIds
  · rintro _ v'' ⟨hSound'', hSame'⟩
    exact ⟨hSound'', hSame'.trans hSame⟩

theorem pruneTemporaryArtifactEntry_safe (removed : Nat) (name : FileName) :
    (pruneTemporaryArtifactEntry store removed name).Safe
      describes (fun _ => Sound describes) v := by
  cases name with
  | blob artifactId => exact hSound
  | temporary artifactId suffix =>
    have hOrphan : ∀ other, FileName.temporary artifactId suffix = .blob other →
          ¬ Live v.artifactRecords other := by
      intro other hName
      cases hName
    apply Safe.bind
    refine safe_quiet hSound (fun _ _ => rfl) ?_
    intro choice world _
    split
    · exact hSound
    · exact hSound
    · split
      · apply Safe.bind
        refine safe_removeFile hSound hOrphan ?_ ?_
        · intro answer
          split
          · exact hSound
          · exact hSound
          · exact hSound
        · have hDelete := hSound.delete hOrphan
          intro answer
          split
          · exact hDelete
          · exact hDelete
          · exact hDelete
      · exact hSound

theorem runArtifactMaintenanceInner_safe (now : Timestamp) :
    (runArtifactMaintenanceInner store now).Safe describes (fun _ => Sound describes) v := by
  apply Safe.bind
  apply Safe.bind
  refine safe_query hSound ?_
  intro protection _ hProtected
  apply Safe.bind
  apply Safe.bind
  refine safe_query hSound ?_
  intro sessions _ _
  apply Safe.bind
  refine safe_query hSound ?_
  intro database _ _
  apply Safe.bind
  refine Safe.foldlM (fun _ v' => v'.Sound describes ∧ v'.evidenceRecords = v.evidenceRecords)
    ⟨hSound, rfl⟩ ?_ ?_
  · rintro row - skipped v' ⟨hSound', hSame⟩
    rw [hProtected, ← hSame]
    exact expireArtifact_safe hSound' now _ skipped row
  · rintro skipped v ⟨hSound, -⟩
    apply Safe.bind
    refine (pruneTombstonedArtifactBlobs_safe hSound).mono ?_
    intro tombstoned v hSound
    apply Safe.bind
    refine (pruneOrphanedArtifactBlobs_safe hSound).mono ?_
    intro orphaned v hSound
    apply Safe.bind
    apply Safe.bind
    refine (readRoot_safe hSound).mono ?_
    rintro names _ rfl
    refine Safe.foldlM (fun _ => Sound describes) hSound (fun name _ removed v hSound =>
        pruneTemporaryArtifactEntry_safe store hSound removed name) ?_
    intro temporary v hSound
    apply Safe.bind
    exact safe_attempt hSound hSound

end

end

end GolutraAgent.Store
