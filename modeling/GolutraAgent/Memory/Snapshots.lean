import GolutraAgent.Memory.Store

/-
  This file relates the memory store to the list of records it stands for.
  Loading gives these records, a change replaces them, and retrieval through the
  snapshot and its index gives the ranked selection of the records that qualify.
-/

namespace GolutraAgent.Memory

namespace MemoryStore

/- The records of a store: its file's, or its snapshot's. -/
def records (store : MemoryStore) : List MemoryRecord :=
  match store.path with
  | none => (store.cachedRecords.map MemoryCacheEntry.records).getD []
  | some _ => (store.file.map MemoryFile.records).getD []

/-
  The store holds `records`: a snapshot, if there is one, is that of the present
  file, and the file can be loaded.
-/
structure Holds (library : MemoryLibrary) (records : List MemoryRecord)
    (store : MemoryStore) : Prop where
  held : store.records = records
  unfiled : store.path = none → store.file = none
  cached : ∀ entry, store.cachedRecords = some entry → entry = library.entryOf
      (store.file.map MemoryFile.fingerprint) records
  loadable : ∀ file, store.file = some file → file.fingerprint.len ≤ maxMemoryStateBytes

variable {library : MemoryLibrary} {records : List MemoryRecord} {store : MemoryStore}

variable {path : String}

section

variable (hHolds : store.Holds library records)
include hHolds

theorem readMemoryFileSnapshot_holds (hPath : store.path = some path) :
    readMemoryFileSnapshot path store.file =
      .ok (store.file.map MemoryFile.fingerprint, records) := by
  have hHeld := hHolds.held
  unfold MemoryStore.records at hHeld
  rw [hPath] at hHeld
  cases hFile : store.file with
  | none =>
    rw [hFile] at hHeld
    rw [← hHeld]
    rfl
  | some file =>
    have hLen := hHolds.loadable file hFile
    rw [hFile] at hHeld
    rw [← hHeld]
    simp only [readMemoryFileSnapshot]
    rw [if_neg (Nat.not_lt.2 hLen)]
    rfl

/- A snapshot of the present file may be put in place. -/
theorem Holds.refresh (hPath : store.path = some path) :
    (store.updateCachedRecords library (store.file.map MemoryFile.fingerprint)
        records).Holds library records := by
  have hHeld := hHolds.held
  refine ⟨?_, ?_, ?_, hHolds.loadable⟩
  · unfold MemoryStore.records at hHeld
    simp only [updateCachedRecords, hPath] at hHeld ⊢
    exact hHeld
  · intro hNone
    simp [updateCachedRecords, hPath] at hNone
  · intro entry hEntry
    exact (Option.some.inj hEntry).symm

theorem loadUnlocked_holds : ∃ loaded, store.loadUnlocked library = (.ok records, loaded) ∧
      loaded.Holds library records := by
  unfold loadUnlocked
  cases hPath : store.path with
  | none =>
    have hHeld := hHolds.held
    unfold MemoryStore.records at hHeld
    rw [hPath] at hHeld
    exact ⟨store, by rw [← hHeld], hHolds⟩
  | some path =>
    simp only [readMemoryFileSnapshot_holds hHolds hPath]
    exact ⟨_, rfl, hHolds.refresh hPath⟩

/- The snapshot that is read is the one of the records. -/
theorem loadCachedForRead_holds : ∃ fingerprint loaded, store.loadCachedForRead library =
        (.ok (library.entryOf fingerprint records), loaded) ∧
      loaded.Holds library records := by
  unfold loadCachedForRead
  cases hPath : store.path with
  | none =>
    have hHeld := hHolds.held
    unfold MemoryStore.records at hHeld
    rw [hPath] at hHeld
    cases hCached : store.cachedRecords with
    | none =>
      rw [hCached] at hHeld
      refine ⟨none, store, ?_, hHolds⟩
      rw [← hHeld]
      rfl
    | some entry =>
      refine ⟨store.file.map MemoryFile.fingerprint, store, ?_, hHolds⟩
      rw [← hHolds.cached entry hCached]
      rfl
  | some path =>
    simp only [readMemoryFileSnapshot_holds hHolds hPath]
    cases hCached : store.cachedRecords.filter
        (·.fingerprint = store.file.map MemoryFile.fingerprint) with
    | none => exact ⟨_, _, rfl, hHolds.refresh hPath⟩
    | some entry =>
      have hEntry := hHolds.cached entry (Option.filter_eq_some_iff.1 hCached).1
      exact ⟨_, store, by rw [← hEntry], hHolds⟩

theorem saveUnlocked_holds {changed : List MemoryRecord} {modifiedNanos : Nat} :
    (∃ error, store.saveUnlocked library modifiedNanos changed = (.error error, store)) ∨
      ∃ saved, store.saveUnlocked library modifiedNanos changed = (.ok (), saved) ∧
        saved.Holds library changed := by
  unfold saveUnlocked
  by_cases hLarge : maxMemoryStateBytes < library.encodedSize changed
  · exact .inl ⟨_, by rw [if_pos hLarge]⟩
  · rw [if_neg hLarge]
    cases hPath : store.path with
    | none =>
      have hFile := hHolds.unfiled hPath
      refine .inr ⟨_, rfl, ?_⟩
      refine ⟨?_, ?_, ?_, hHolds.loadable⟩
      · simp [MemoryStore.records, updateCachedRecords, hPath, MemoryLibrary.entryOf]
      · intro _
        exact hFile
      · intro entry hEntry
        rw [← Option.some.inj hEntry]
        simp [updateCachedRecords, hFile]
    | some path =>
      refine .inr ⟨_, rfl, ?_⟩
      refine ⟨?_, ?_, ?_, ?_⟩
      · simp [MemoryStore.records, updateCachedRecords]
      · intro hNone
        simp [updateCachedRecords] at hNone
      · intro entry hEntry
        exact (Option.some.inj hEntry).symm
      · intro file hFile
        rw [← Option.some.inj hFile]
        exact Nat.le_of_not_lt hLarge

/- An edit fails and changes nothing, or is made as a whole. -/
theorem edit_holds {change : List MemoryRecord →
      Except MemoryError (List MemoryRecord × MemoryRecord)}
    {modifiedNanos : Nat} :
    (∃ error after, store.edit library modifiedNanos change = (.error error, after) ∧
      after.Holds library records) ∨
    ∃ changed record after, change records = .ok (changed, record) ∧
      store.edit library modifiedNanos change = (.ok record, after) ∧
      after.Holds library changed := by
  obtain ⟨loaded, hLoad, hLoaded⟩ := loadUnlocked_holds hHolds
  unfold edit
  rw [hLoad]
  cases hChange : change records with
  | error error => exact .inl ⟨error, loaded, by simp [hChange], hLoaded⟩
  | ok result =>
    obtain ⟨changed, record⟩ := result
    simp only [hChange]
    rcases @saveUnlocked_holds _ _ _ hLoaded changed
      modifiedNanos with ⟨error, hSave⟩ | ⟨saved, hSave, hSaved⟩
    · rw [hSave]
      exact .inl ⟨error, loaded, rfl, hLoaded⟩
    · rw [hSave]
      exact .inr ⟨changed, record, saved, rfl, rfl, hSaved⟩

end

theorem listed_eq_self {now : Timestamp} (hNone : ¬ records.any (fun record =>
      record.isLegacyAutomaticMemory || record.dueAt now)) : listed now records = records := by
  rw [Bool.not_eq_true, List.any_eq_false] at hNone
  have hLegacy : ¬ records.any MemoryRecord.isLegacyAutomaticMemory := by
    rw [Bool.not_eq_true, List.any_eq_false]
    intro record hRecord hLegacy
    exact hNone record hRecord (by simp [hLegacy])
  unfold listed
  rw [if_neg hLegacy]
  refine (List.map_congr_left ?_).trans (List.map_id _)
  intro record hRecord
  have hEarly : ¬ record.dueAt now := fun hDue => hNone record hRecord (by simp [hDue])
  unfold MemoryRecord.expire
  rw [if_neg hEarly, id_eq]

theorem list_holds {now : Timestamp} {modifiedNanos : Nat} (hHolds : store.Holds library records) :
    (∃ error after, store.list library now modifiedNanos = (.error error, after) ∧
      after.Holds library records) ∨
    ∃ after, store.list library now modifiedNanos = (.ok (listed now records), after) ∧
      after.Holds library (listed now records) := by
  obtain ⟨loaded, hLoad, hLoaded⟩ := loadUnlocked_holds hHolds
  unfold list
  rw [hLoad]
  by_cases hAny : records.any (fun record => record.isLegacyAutomaticMemory || record.dueAt now)
  · simp only [if_pos hAny]
    rcases @saveUnlocked_holds _ _ _ hLoaded (listed now records) modifiedNanos with
      ⟨error, hSave⟩ | ⟨saved, hSave, hSaved⟩
    · rw [hSave]
      exact .inl ⟨error, loaded, rfl, hLoaded⟩
    · rw [hSave]
      exact .inr ⟨saved, rfl, hSaved⟩
  · simp only [if_neg hAny, listed_eq_self hAny]
    exact .inr ⟨loaded, rfl, hLoaded⟩

end MemoryStore

namespace MemoryLibrary

variable (library : MemoryLibrary)

/- A record and a query have a term in common. -/
def sharesTerm (query : String) (record : MemoryRecord) : Bool :=
  (library.terms query).any (fun term => term ∈ library.terms record.content)

variable (now : Timestamp) (query : String)

def scoredRecord (record : MemoryRecord) : ScoredMemory :=
  { record
    relevanceScore := library.relevanceScore now query record (library.searchIndexOf record)
    matchedTerms := library.matchedTerms query (library.searchIndexOf record) }

/- The first `limit` of some records, by their rank. -/
def ranked (limit : Nat) (records : List MemoryRecord) : List RetrievedMemory :=
  (Ranking.select ScoredMemory.before limit (records.map (library.scoredRecord now query))).map
      ScoredMemory.retrieved

variable {library : MemoryLibrary} {records : List MemoryRecord}

theorem matchedTerms_eq_nil_iff {query : String} {record : MemoryRecord} :
    library.matchedTerms query (library.searchIndexOf record) = [] ↔
      library.sharesTerm query record = false := by
  unfold matchedTerms sharesTerm
  rw [← List.length_eq_zero_iff, List.length_insertionSort,
    List.length_eq_zero_iff, List.filter_eq_nil_iff, List.any_eq_false]
  rfl

variable {fingerprint : Option MemoryFileFingerprint}
variable {now : Timestamp} {query : String} {scope : MemoryScope}

/- A place is scored if its record qualifies. -/
theorem scored_entryOf {place : Nat} {candidate : ScoredMemory} :
    library.scored now query scope (library.entryOf fingerprint records) place = some candidate ↔
      ∃ record, records[place]? = some record ∧
        record.eligible now scope ∧ library.sharesTerm query record ∧
        library.scoredRecord now query record = candidate := by
  unfold scored entryOf
  cases hAt : records[place]? with
  | none => simp
  | some record =>
    have hShares := @matchedTerms_eq_nil_iff library query record
    simp only [hAt, List.getElem?_map, Option.map_some, Option.some.injEq, exists_eq_left', hShares]
    cases record.eligible now scope with
    | false => simp
    | true =>
      cases library.sharesTerm query record with
      | false => simp
      | true => simp [scoredRecord]

/- The records that retrieval scores. -/
theorem mem_scored_entryOf {candidate : ScoredMemory} :
    candidate ∈ ((library.entryOf fingerprint records).termIndex.candidates
          (library.terms query)).filterMap (library.scored now query scope
              (library.entryOf fingerprint records)) ↔
      ∃ record ∈ records, record.eligible now scope ∧ library.sharesTerm query record ∧
        library.scoredRecord now query record = candidate := by
  rw [List.mem_filterMap]
  simp only [scored_entryOf]
  constructor
  · rintro ⟨place, -, record, hAt, hRest⟩
    exact ⟨record, List.mem_of_getElem? hAt, hRest⟩
  · rintro ⟨record, hMem, hEligible, hShares, hScored⟩
    obtain ⟨place, hAt⟩ := List.mem_iff_getElem?.1 hMem
    refine ⟨place, ?_, record, hAt, hEligible, hShares, hScored⟩
    obtain ⟨term, hTerm, hIn⟩ := List.any_eq_true.1 hShares
    refine InvertedIndex.mem_candidates_ofDocuments.2
      ⟨library.terms record.content, ?_, term, hTerm, of_decide_eq_true hIn⟩
    simp [hAt, searchIndexOf]

/- Records with distinct identifiers do not tie. -/
theorem before_strict {items : List ScoredMemory}
    (hDistinct : ∀ a ∈ items, ∀ b ∈ items, a.record.memoryId = b.record.memoryId → a = b) :
    Ranking.Strict ScoredMemory.before items := by
  refine ⟨?_, ?_, ?_⟩
  · simp only [ScoredMemory.before, Bool.or_eq_true,
      Bool.and_eq_true, decide_eq_true_eq, BitVec.le_def]
    omega
  · simp only [ScoredMemory.before, Bool.or_eq_true,
      Bool.and_eq_true, decide_eq_true_eq, BitVec.le_def]
    omega
  · intro a hA b hB hAB hBA
    refine hDistinct a hA b hB ?_
    simp only [ScoredMemory.before, Bool.or_eq_true,
      Bool.and_eq_true, decide_eq_true_eq, BitVec.le_def] at hAB hBA
    have hBits : a.record.memoryId.uuid.bits = b.record.memoryId.uuid.bits :=
      BitVec.eq_of_toNat_eq (by omega)
    cases hIdA : a.record.memoryId with
    | mk left =>
      cases hIdB : b.record.memoryId with
      | mk right =>
        cases left
        simp_all

/-
  Retrieval through the index gives the ranked selection of the records that
  qualify.
-/
theorem retrieved_entryOf {limit : Nat}
    (hDistinct : KeyedList.DistinctKeys MemoryRecord.memoryId records) :
    library.retrieved now query scope limit (library.entryOf fingerprint records) =
      library.ranked now query limit (records.filter (fun record => record.eligible now scope &&
          library.sharesTerm query record)) := by
  have hSame : ∀ a ∈ records, ∀ b ∈ records, a.memoryId = b.memoryId → a = b :=
    fun a hA b hB => List.inj_on_of_nodup_map hDistinct hA hB
  have hNodup : records.Nodup := hDistinct.of_map
  unfold retrieved
  congr 1
  refine Ranking.select_eq_of_mem_iff (before_strict ?_) ?_ ?_ ?_ limit
  · intro a hA b hB hId
    rw [mem_scored_entryOf] at hA hB
    obtain ⟨left, hLeft, -, -, rfl⟩ := hA
    obtain ⟨right, hRight, -, -, rfl⟩ := hB
    rw [hSame left hLeft right hRight hId]
  · refine List.Nodup.filterMap ?_ (InvertedIndex.nodup_candidates _ _)
    intro i j candidate hI hJ
    obtain ⟨left, hLeft, -, -, rfl⟩ := scored_entryOf.1 hI
    obtain ⟨right, hRight, -, -, hEq⟩ := scored_entryOf.1 hJ
    have hRecords : right = left := congrArg ScoredMemory.record hEq
    obtain ⟨hLt, hGet⟩ := List.getElem?_eq_some_iff.1 hLeft
    rw [hRecords, ← hLeft] at hRight
    exact (List.getElem?_inj hLt hNodup).1 hRight.symm
  · refine List.Nodup.map_on ?_ (hNodup.filter _)
    intro a hA b hB hEq
    exact congrArg ScoredMemory.record hEq
  · intro candidate
    rw [mem_scored_entryOf]
    simp [List.mem_filter, and_assoc]

end MemoryLibrary

namespace MemoryStore

variable {library : MemoryLibrary} {records : List MemoryRecord} {store : MemoryStore}

variable {now : Timestamp} {query : String} {scope : MemoryScope} {limit : Nat}

/- Retrieval changes nothing but the snapshot. -/
theorem retrieve_keeps (hHolds : store.Holds library records) :
    ∃ found after, store.retrieve library now query scope limit = (.ok found, after) ∧
      after.Holds library records := by
  unfold retrieve
  split
  · exact ⟨_, store, rfl, hHolds⟩
  · obtain ⟨fingerprint, loaded, hLoad, hLoaded⟩ := loadCachedForRead_holds hHolds
    rw [hLoad]
    exact ⟨_, loaded, rfl, hLoaded⟩

theorem retrieve_eq_ranked (hHolds : store.Holds library records)
    (hDistinct : KeyedList.DistinctKeys MemoryRecord.memoryId records) :
    (store.retrieve library now query scope limit).1 =
      .ok (library.ranked now query limit (records.filter
        (fun record => record.eligible now scope && library.sharesTerm query record))) := by
  unfold retrieve
  by_cases hNothing : library.terms query = [] ∨ limit = 0
  · unfold MemoryLibrary.ranked Ranking.select
    rcases hNothing with hTerms | hLimit
    · simp [MemoryLibrary.sharesTerm, hTerms]
    · simp [hLimit]
  · rw [if_neg hNothing]
    obtain ⟨fingerprint, loaded, hLoad, -⟩ := loadCachedForRead_holds hHolds
    rw [hLoad]
    simp [MemoryLibrary.retrieved_entryOf hDistinct]

end MemoryStore

end GolutraAgent.Memory
