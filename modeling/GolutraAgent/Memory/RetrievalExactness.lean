import GolutraAgent.Memory.Histories

/-
  This file compares retrieval with the history of a store. What is retrieved is
  decided by the fields of the records. These agree with the history as long as
  no memory is activated that carries the marks of an earlier migration, or that
  the store would take for a legacy memory again.

  Main declarations:
    * `retrieval_exact`
    * `reviewed_memory_never_retrieved`
-/

namespace GolutraAgent.Memory

namespace MemoryWorld

/-
  The first `limit` memories in scope that share a term with the query, have not
  run out, and stand activated.
-/
def expected (library : MemoryLibrary) (world : MemoryWorld) (query : String)
    (scope : MemoryScope) (limit : Nat) : List RetrievedMemory :=
  library.ranked world.now query limit (world.store.records.filter (fun record =>
      record.scope = scope && library.sharesTerm query record && !record.expiredBy world.now &&
        standing world.history record.memoryId))

/- The identifier of a new memory is a new one. -/
def freshIds (world : MemoryWorld) (op : MemoryOp) : Bool :=
  match op.call with
  | .quarantine memoryId _ _ _ => world.store.records.all (·.memoryId ≠ memoryId)
  | _ => true

end MemoryWorld

/-
  An activation leaves a record without marks: it has not been migrated, nor
  will it be right away.
-/
def MemoryRecord.cleanFor (record : MemoryRecord)
    (supportingTaskIds : List TaskId) (reviewer : Option String) : Bool :=
  !record.isLegacyAutomaticMemory && (record.status ≠ .quarantined ||
      (record.invalidationRefs = [] && (record.scope ≠ .project || record.claim.isSome ||
          record.tasksWith supportingTaskIds ≠ [] || reviewer ≠ some "system")))

/- Every memory that is activated is clean. -/
def MemoryWorld.activatesClean (world : MemoryWorld) (op : MemoryOp) : Bool :=
  match op.call with
  | .activate memoryId supportingTaskIds reviewer humanApproved =>
    world.store.records.all (fun record =>
      record.memoryId ≠ memoryId || !record.supportedBy supportingTaskIds humanApproved ||
        record.cleanFor supportingTaskIds reviewer)
  | _ => true

/- A store that was just opened, on a file it can load. -/
structure MemoryStore.Opening (store : MemoryStore) : Prop where
  cold : store.cachedRecords = none
  unfiled : store.path = none → store.file = none
  loadable : ∀ file, store.file = some file → file.fingerprint.len ≤ maxMemoryStateBytes
  distinct : KeyedList.DistinctKeys MemoryRecord.memoryId store.records

/- The active memories of the file carry no marks. -/
def MemoryStore.opensClean (store : MemoryStore) : Bool := store.records.all (fun record =>
    record.status ≠ .active || record.isLegacyAutomaticMemory || record.invalidationRefs = [])

/- The fields of a record agree with its standing. -/
structure Settled (now : Timestamp) (stands : Bool) (record : MemoryRecord) : Prop where
  shown : stands = true → record.expiredBy now = true ∨
    (record.status = .active ∧ record.invalidationRefs = [] ∧
      record.isLegacyAutomaticMemory = false)
  hidden : stands = false → record.status = .active → record.isLegacyAutomaticMemory = true

namespace Settled

variable {now : Timestamp} {stands : Bool} {record : MemoryRecord}

theorem eligible_eq (hSettled : Settled now stands record) (scope : MemoryScope) :
    record.eligible now scope = (record.scope = scope && !record.expiredBy now && stands) := by
  unfold MemoryRecord.eligible
  cases hStands : stands with
  | false =>
    by_cases hActive : record.status = .active
    · simp [hSettled.hidden hStands hActive]
    · simp [hActive]
  | true =>
    rcases hSettled.shown hStands with hExpired | ⟨hActive, hRefs, hLegacy⟩
    · simp [hExpired]
    · simp [hActive, hRefs, hLegacy]

theorem of_inactive (hStands : stands = true → record.expiredBy now = true)
    (hStatus : record.status ≠ .active) : Settled now stands record :=
  ⟨fun hTrue => .inl (hStands hTrue), fun _ hActive => absurd hActive hStatus⟩

theorem migrate (hSettled : Settled now stands record) : Settled now stands record.migrate := by
  unfold MemoryRecord.migrate
  by_cases hLegacy : record.isLegacyAutomaticMemory
  · rw [if_pos hLegacy]
    refine of_inactive ?_ nofun
    intro hStands
    rcases hSettled.shown hStands with hExpired | ⟨-, -, hNot⟩
    · exact hExpired
    · rw [hNot] at hLegacy
      cases hLegacy
  · rw [if_neg hLegacy]
    exact hSettled

theorem expire (hSettled : Settled now stands record) : Settled now stands (record.expire now) := by
  unfold MemoryRecord.expire
  by_cases hDue : record.dueAt now
  · rw [if_pos hDue]
    refine of_inactive ?_ nofun
    intro _
    exact (Bool.and_eq_true_iff.1 hDue).2
  · rw [if_neg hDue]
    exact hSettled

theorem later {now' : Timestamp} (hSettled : Settled now stands record)
    (hLater : now.nanos ≤ now'.nanos) : Settled now' stands record := by
  refine ⟨?_, hSettled.hidden⟩
  intro hStands
  rcases hSettled.shown hStands with hExpired | hShown
  · exact .inl (expiredBy_later hLater hExpired)
  · exact .inr hShown

end Settled

/- The fields of all records agree with the history. -/
structure Tracked (now : Timestamp) (history : List MemoryEvent)
    (records : List MemoryRecord) : Prop where
  distinct : KeyedList.DistinctKeys MemoryRecord.memoryId records
  known : ∀ event ∈ history, ∃ record ∈ records, record.memoryId = event.memoryId
  settled : ∀ record ∈ records, Settled now (standing history record.memoryId) record

theorem migrate_memoryId (record : MemoryRecord) : record.migrate.memoryId = record.memoryId := by
  unfold MemoryRecord.migrate
  split <;> rfl

theorem expire_memoryId (now : Timestamp) (record : MemoryRecord) :
    (record.expire now).memoryId = record.memoryId := by
  unfold MemoryRecord.expire
  split <;> rfl

/- A record that upkeep leaves in quarantine was there. -/
theorem eq_of_upkeep_quarantined {now : Timestamp} {record : MemoryRecord}
    (hLegacy : record.isLegacyAutomaticMemory = false)
    (hStatus : (record.migrate.expire now).status = .quarantined) :
    record.migrate.expire now = record := by
  unfold MemoryRecord.migrate at hStatus ⊢
  simp only [hLegacy, Bool.false_eq_true, if_false] at hStatus ⊢
  unfold MemoryRecord.expire at hStatus ⊢
  split at hStatus
  · cases hStatus
  next hDue => rw [if_neg hDue]

namespace Tracked

variable {now : Timestamp} {history : List MemoryEvent} {records : List MemoryRecord}

section

variable (hTracked : Tracked now history records)
include hTracked

theorem map {change : MemoryRecord → MemoryRecord}
    (hId : ∀ record, (change record).memoryId = record.memoryId)
    (hSettled : ∀ stands record, Settled now stands record → Settled now stands (change record)) :
    Tracked now history (records.map change) := by
  refine ⟨?_, ?_, ?_⟩
  · have hIds : (records.map change).map
        MemoryRecord.memoryId = records.map MemoryRecord.memoryId := by
      rw [List.map_map]
      exact List.map_congr_left (fun record _ => hId record)
    unfold KeyedList.DistinctKeys
    rw [hIds]
    exact hTracked.distinct
  · intro event hEvent
    obtain ⟨record, hRecord, hKey⟩ := hTracked.known event hEvent
    exact ⟨change record, List.mem_map_of_mem hRecord, (hId record).trans hKey⟩
  · intro changed hChanged
    obtain ⟨record, hRecord, rfl⟩ := List.mem_map.1 hChanged
    rw [hId]
    exact hSettled _ _ (hTracked.settled record hRecord)

theorem migrated : Tracked now history (migrateLegacyActiveMemory records) :=
  hTracked.map migrate_memoryId (fun _ _ hSettled => hSettled.migrate)

theorem expired : Tracked now history (markExpired now records) :=
  hTracked.map (expire_memoryId now) (fun _ _ hSettled => hSettled.expire)

theorem upkeep : Tracked now history (upkeep now records) := hTracked.migrated.expired

theorem listed : Tracked now history (MemoryStore.listed now records) := by
  unfold MemoryStore.listed
  split
  · exact hTracked.migrated
  · exact hTracked.expired

theorem later {now' : Timestamp} (hLater : now.nanos ≤ now'.nanos) : Tracked now' history records :=
  ⟨hTracked.distinct, hTracked.known, fun record hRecord =>
      (hTracked.settled record hRecord).later hLater⟩

/- One record is replaced, and an event may be about it. -/
theorem replace {record changed : MemoryRecord} {memoryId : MemoryId} {event : Option MemoryEvent}
    (hFind : records.find? (·.memoryId = memoryId) = some record)
    (hId : changed.memoryId = record.memoryId)
    (hEvent : ∀ noted, event = some noted → noted.memoryId = memoryId)
    (hSettled : Settled now (standing (history ++ event.toList) memoryId) changed) :
    Tracked now (history ++ event.toList) (replaced memoryId changed records) := by
  have hRecord := List.mem_of_find?_eq_some hFind
  have hKey : record.memoryId = memoryId := by simpa using List.find?_some hFind
  have hMem := fun other =>
    @KeyedList.mem_modifyFirst_iff _ _ _ _ _ (fun _ => changed)
      _ _ other hTracked.distinct hRecord hKey
  refine ⟨?_, ?_, ?_⟩
  · unfold KeyedList.DistinctKeys
    rw [KeyedList.keys_modifyFirst (fun _ _ => hId.trans hKey)]
    exact hTracked.distinct
  · intro noted hNoted
    have hAbout : noted ∈ history ∨ noted.memoryId = memoryId := by
      rcases List.mem_append.1 hNoted with hOld | hNew
      · exact .inl hOld
      · exact .inr (hEvent noted (Option.mem_toList.1 hNew))
    by_cases hHere : noted.memoryId = memoryId
    · exact ⟨changed, (hMem changed).2 (.inr rfl), by rw [hId, hKey, hHere]⟩
    · obtain ⟨other, hOther, hOtherKey⟩ := hTracked.known noted (hAbout.resolve_right hHere)
      exact ⟨other, (hMem other).2 (.inl ⟨hOther,
        fun hSame => hHere (hOtherKey.symm.trans hSame)⟩), hOtherKey⟩
  · intro other hOther
    rcases (hMem other).1 hOther with ⟨hOld, hOtherKey⟩ | rfl
    · have hStanding : standing (history ++ event.toList)
          other.memoryId = standing history other.memoryId := by
        cases event with
        | none => simp
        | some noted =>
          have hAbout := hEvent noted rfl
          rw [Option.toList_some, standing_append, if_neg]
          rw [hAbout]
          exact fun hSame => hOtherKey hSame.symm
      rw [hStanding]
      exact hTracked.settled other hOld
    · rw [hId, hKey]
      exact hSettled

variable {record : MemoryRecord}

/- A memory is put out of use. -/
theorem invalidate {changed : MemoryRecord} {memoryId : MemoryId}
    (hFind : records.find? (·.memoryId = memoryId) = some record)
    (hId : changed.memoryId = record.memoryId) (hStatus : changed.status ≠ .active) :
    Tracked now (history ++ [.invalidated memoryId]) (replaced memoryId changed records) := by
  refine @replace _ _ _ hTracked _ _ _ (some (.invalidated memoryId)) hFind hId ?_ ?_
  · rintro noted ⟨⟩
    rfl
  · refine Settled.of_inactive ?_ hStatus
    simp [MemoryEvent.memoryId, MemoryEvent.activates]

/- A memory joins that nothing has happened to. -/
theorem append (hFresh : ∀ other ∈ records, other.memoryId ≠ record.memoryId)
    (hStatus : record.status ≠ .active) : Tracked now history (records ++ [record]) := by
  refine ⟨?_, ?_, ?_⟩
  · exact hTracked.distinct.concat hFresh
  · intro event hEvent
    obtain ⟨old, hOld, hKey⟩ := hTracked.known event hEvent
    exact ⟨old, List.mem_append_left _ hOld, hKey⟩
  · intro other hOther
    rcases List.mem_append.1 hOther with hOld | hNew
    · exact hTracked.settled other hOld
    · rw [List.mem_singleton.1 hNew]
      refine Settled.of_inactive ?_ hStatus
      intro hStands
      rw [standing_of_absent] at hStands
      · cases hStands
      · intro event hEvent hKey
        obtain ⟨old, hOld, hOldKey⟩ := hTracked.known event hEvent
        exact hFresh old hOld (hOldKey.trans hKey)

/- What a clean activation leaves is shown. -/
theorem activation {memoryId : MemoryId} {supportingTaskIds : List TaskId}
    {reviewer : Option String} {humanApproved : Bool}
    (hClean : ∀ record ∈ records, record.memoryId = memoryId →
      record.supportedBy supportingTaskIds humanApproved →
        record.cleanFor supportingTaskIds reviewer)
    (hFind : (Memory.upkeep now records).find? (·.memoryId = memoryId) = some record)
    (hStatus : record.status = .quarantined)
    (hSupported : record.supportedBy supportingTaskIds humanApproved) :
    Tracked now (history ++ [.activated memoryId])
      (replaced memoryId (record.activated supportingTaskIds reviewer)
        (Memory.upkeep now records)) := by
  have hKey : record.memoryId = memoryId := by simpa using List.find?_some hFind
  refine @replace now history _ hTracked.upkeep record _
    memoryId (some (.activated memoryId)) hFind rfl ?_ ?_
  · rintro noted ⟨⟩
    rfl
  -- The record before the upkeep that the call begins with.
  have hUpkept := List.mem_of_find?_eq_some hFind
  obtain ⟨moved, hMoved, rfl⟩ := List.mem_map.1 hUpkept
  obtain ⟨before, hBefore, rfl⟩ := List.mem_map.1 hMoved
  have hSame : (before.migrate.expire now).supportedBy
      supportingTaskIds humanApproved = before.supportedBy supportingTaskIds humanApproved := by
    unfold MemoryRecord.expire MemoryRecord.migrate
    split <;> split <;> rfl
  have hBeforeClean := hClean before hBefore (by rw [← hKey, expire_memoryId, migrate_memoryId])
    (hSame ▸ hSupported)
  unfold MemoryRecord.cleanFor at hBeforeClean
  rw [Bool.and_eq_true, Bool.not_eq_true'] at hBeforeClean
  obtain ⟨hLegacy, hMarks⟩ := hBeforeClean
  have hUnmoved := eq_of_upkeep_quarantined hLegacy hStatus
  rw [hUnmoved] at hStatus ⊢
  rw [hStatus] at hMarks
  simp only [ne_eq, not_true_eq_false, decide_false, Bool.false_or, Bool.and_eq_true,
    decide_eq_true_eq] at hMarks
  obtain ⟨hRefs, hGrounds⟩ := hMarks
  refine ⟨fun _ => .inr ⟨rfl, hRefs, ?_⟩, ?_⟩
  · unfold MemoryRecord.isLegacyAutomaticMemory MemoryRecord.activated
    simp only [Bool.or_eq_true, decide_eq_true_eq] at hGrounds
    rcases hGrounds with ((hScope | hClaim) | hTasks) | hOther
    · simp [hScope]
    · cases hSome : before.claim with
      | none => simp [hSome] at hClaim
      | some claim => simp
    · simp [hTasks]
    · cases reviewer with
      | none => simp
      | some name =>
        have hName : name ≠ "system" := by simpa using hOther
        simp [hName]
  · intro hStands
    simp [MemoryEvent.memoryId, MemoryEvent.activates] at hStands

/- What every call keeps. -/
theorem changes {library : MemoryLibrary} {call : MemoryCall} {changed : List MemoryRecord}
    {event : Option MemoryEvent} (hChanges : Changes library now records call changed event)
    (hFresh : ∀ memoryId candidateId candidate content,
      call = .quarantine memoryId candidateId candidate content →
      ∀ record ∈ records, record.memoryId ≠ memoryId)
    (hClean : ∀ memoryId supportingTaskIds reviewer humanApproved,
      call = .activate memoryId supportingTaskIds reviewer humanApproved →
      ∀ record ∈ records, record.memoryId = memoryId →
        record.supportedBy supportingTaskIds humanApproved →
          record.cleanFor supportingTaskIds reviewer) :
    Tracked now (history ++ event.toList) changed := by
  cases hChanges with
  | same => simpa using hTracked
  | listed => simpa using hTracked.listed
  | @quarantined memoryId candidateId candidate content _ record hChange =>
    obtain ⟨expiresAt, rfl, rfl⟩ := MemoryWorld.quarantining_eq_ok hChange
    rw [Option.toList_none, List.append_nil]
    refine hTracked.upkeep.append ?_ nofun
    intro other hOther hSame
    obtain ⟨moved, hMoved, rfl⟩ := List.mem_map.1 hOther
    obtain ⟨before, hBefore, rfl⟩ := List.mem_map.1 hMoved
    rw [expire_memoryId, migrate_memoryId] at hSame
    exact hFresh _ _ _ _ rfl before hBefore hSame
  | activated hFind hQuarantined hSupported =>
    exact hTracked.activation (hClean _ _ _ _ rfl) hFind hQuarantined hSupported
  | @appraised memoryId feedback reason record hFind =>
    have hKey : record.memoryId = memoryId := by simpa using List.find?_some hFind
    have hSettled := hTracked.settled record (List.mem_of_find?_eq_some hFind)
    rw [hKey] at hSettled
    cases feedback with
    | helpful | irrelevant =>
      refine hTracked.replace hFind rfl nofun ?_
      simp only [MemoryWorld.feedbackEvent, Option.toList_none, List.append_nil]
      exact ⟨hSettled.shown, hSettled.hidden⟩
    | incorrect => exact hTracked.invalidate hFind rfl nofun
  | rolledBack hFind | expired hFind => exact hTracked.invalidate hFind rfl nofun

end

end Tracked

namespace MemoryWorld

/- The store holds records that agree with the history. -/
def Accurate (library : MemoryLibrary) (world : MemoryWorld) : Prop :=
  ∃ records, world.store.Holds library records ∧ Tracked world.now world.history records

variable {library : MemoryLibrary} {world : MemoryWorld}

theorem Accurate.step {op : MemoryOp} (hAccurate : world.Accurate library)
    (hFresh : world.freshIds op) (hClean : world.activatesClean op) :
    (step library world op).Accurate library := by
  obtain ⟨records, hHolds, hTracked⟩ := hAccurate
  have hHeld := hHolds.held
  obtain ⟨⟨changed, event, hChanges, hNext, hHistory⟩, hNow⟩ := step_leaves op hHolds
  refine ⟨changed, hNext, ?_⟩
  rw [hHistory, hNow]
  refine Tracked.later ?_ (clock_le world.now op.call)
  refine hTracked.changes hChanges ?_ ?_
  · intro memoryId candidateId candidate content hCall
    simpa [freshIds, hCall, hHeld] using hFresh
  · intro memoryId supportingTaskIds reviewer humanApproved hCall record hRecord hKey hSupported
    unfold activatesClean at hClean
    rw [hCall, hHeld] at hClean
    simpa [hKey, hSupported] using List.all_eq_true.1 hClean record hRecord

theorem Accurate.opened {store : MemoryStore} (hOpening : store.Opening)
    (hClean : store.opensClean) (now : Timestamp) : (opened store now).Accurate library := by
  refine ⟨store.records, ?_, ?_, ?_, ?_⟩
  · refine ⟨rfl, hOpening.unfiled, ?_, hOpening.loadable⟩
    intro entry hEntry
    have hCold := hOpening.cold
    change store.cachedRecords = some entry at hEntry
    rw [hCold] at hEntry
    cases hEntry
  · exact hOpening.distinct
  · intro event hEvent
    obtain ⟨memoryId, hId, rfl⟩ := List.mem_map.1 hEvent
    obtain ⟨record, hRecord, rfl⟩ := List.mem_map.1 hId
    exact ⟨record, (List.mem_filter.1 hRecord).1, rfl⟩
  · intro record hRecord
    have hMarks := List.all_eq_true.1 hClean record hRecord
    have hStanding : standing (MemoryWorld.opened store
        now).history record.memoryId = (decide (record.status = .active) &&
            !record.isLegacyAutomaticMemory) := by
      unfold MemoryWorld.opened
      rw [standing_activations, Bool.eq_iff_iff, decide_eq_true_eq, List.mem_map]
      constructor
      · rintro ⟨other, hOther, hSame⟩
        obtain ⟨hOtherMem, hOtherActive⟩ := List.mem_filter.1 hOther
        have hEq : other = record := List.inj_on_of_nodup_map
          hOpening.distinct hOtherMem hRecord hSame
        exact hEq ▸ hOtherActive
      · intro hActive
        exact ⟨record, List.mem_filter.2 ⟨hRecord, hActive⟩, rfl⟩
    rw [hStanding]
    refine ⟨?_, ?_⟩
    · intro hActive
      rw [Bool.and_eq_true, decide_eq_true_eq, Bool.not_eq_true'] at hActive
      right
      simpa [hActive.1, hActive.2] using hMarks
    · intro hInactive hActive
      simpa [hActive] using hInactive

/- With accurate records, retrieval is as expected. -/
theorem Accurate.retrieve (hAccurate : world.Accurate library)
    (query : String) (scope : MemoryScope) (limit : Nat) :
    (world.store.retrieve library world.now query scope
      limit).1 = .ok (world.expected library query scope limit) := by
  obtain ⟨records, hHolds, hTracked⟩ := hAccurate
  rw [MemoryStore.retrieve_eq_ranked hHolds hTracked.distinct]
  unfold expected
  rw [hHolds.held]
  have hFilter : records.filter (fun record =>
        record.eligible world.now scope && library.sharesTerm query record) =
      records.filter (fun record => record.scope = scope && library.sharesTerm query record &&
        !record.expiredBy world.now && standing world.history record.memoryId) := by
    refine List.filter_congr ?_
    intro record hRecord
    rw [(hTracked.settled record hRecord).eligible_eq]
    cases library.sharesTerm query record <;> simp
  rw [hFilter]

end MemoryWorld

/-
  Retrieval is exact over the whole history of a store in which every activation
  is clean.
-/
theorem retrieval_exact (library : MemoryLibrary) (store : MemoryStore) (now : Timestamp)
    (hOpening : store.Opening) (hOpensClean : store.opensClean) (ops : List MemoryOp)
    (hFresh : Machine.Guarded (MemoryWorld.step library) (fun world op => world.freshIds op)
      (MemoryWorld.opened store now) ops)
    (hClean : Machine.Guarded (MemoryWorld.step library) (fun world op => world.activatesClean op)
      (MemoryWorld.opened store now) ops)
    (query : String) (scope : MemoryScope) (limit : Nat) :
    let world := Machine.run (MemoryWorld.step library) (MemoryWorld.opened store now) ops
    (world.store.retrieve library world.now query scope
      limit).1 = .ok (world.expected library query scope limit) := by
  refine MemoryWorld.Accurate.retrieve ?_ query scope limit
  refine Machine.run_invariant ?_ (MemoryWorld.Accurate.opened hOpening hOpensClean now)
    (hFresh.and hClean)
  rintro world op hAccurate ⟨hNew, hUnmarked⟩
  exact hAccurate.step hNew hUnmarked

/- Propose a memory, and give it a second task. -/
def tabsCalls : List MemoryOp :=
  [⟨.quarantine ⟨.ofNat 1⟩ ⟨.ofNat 4⟩ projectCandidate "use tabs", 0⟩,
    ⟨.activate ⟨.ofNat 1⟩ [⟨.ofNat 5⟩] none false, 0⟩]

theorem inMemory_opening : MemoryStore.inMemory.Opening :=
  ⟨rfl, fun _ => rfl, nofun, List.nodup_nil⟩

theorem retrieval_exact_tabs :
    let world := Machine.run (MemoryWorld.step asciiLibrary)
      (MemoryWorld.opened .inMemory ⟨0⟩) tabsCalls
    (world.store.retrieve asciiLibrary world.now "tabs" .project 5).1 =
      .ok (world.expected asciiLibrary "tabs" .project 5) ∧
    (world.expected asciiLibrary "tabs" .project 5).length = 1 :=
  ⟨retrieval_exact asciiLibrary .inMemory ⟨0⟩ inMemory_opening rfl tabsCalls (by decide +kernel)
      (by decide +kernel) "tabs" .project 5,
    by decide +kernel⟩

/- What an old version activated after a single task. -/
def legacyRecord : MemoryRecord := ⟨⟨.ofNat 1⟩, "use tabs", .project, 80, ⟨.ofNat 2⟩, [⟨.ofNat 3⟩],
    [], ⟨0⟩, none, 1, .active, none, [], [], none, none, 0, 0, 0, 0, none⟩

def legacyStore : MemoryStore := .new "memory.json" (some ⟨⟨1, 0⟩, [legacyRecord]⟩)

/- Two tasks and a reviewer speak for the legacy memory. -/
def reviewCalls : List MemoryOp := [⟨.list, 1⟩, ⟨.activate legacyRecord.memoryId
      [⟨.ofNat 2⟩, ⟨.ofNat 5⟩] (some "alice") true, 2⟩]

/-
  A legacy memory that was reviewed as the migration asks is active, and yet is
  not retrieved: the migration's own mark stays on it.
-/
theorem reviewed_memory_never_retrieved :
    legacyStore.Opening ∧ legacyStore.opensClean ∧ Machine.Guarded (MemoryWorld.step asciiLibrary)
      (fun world op => world.freshIds op) (MemoryWorld.opened legacyStore ⟨0⟩) reviewCalls ∧
    let world := Machine.run (MemoryWorld.step asciiLibrary)
      (MemoryWorld.opened legacyStore ⟨0⟩) reviewCalls
    (world.store.retrieve asciiLibrary world.now "tabs" .project 5).1 = .ok [] ∧
      (world.expected asciiLibrary "tabs" .project 5).map
        (fun memory => (memory.record.memoryId, memory.record.status)) =
            [(legacyRecord.memoryId, .active)] := by
  refine ⟨⟨rfl, nofun, ?_, List.nodup_singleton _⟩, ?_⟩
  · decide
  · decide +kernel

end GolutraAgent.Memory
