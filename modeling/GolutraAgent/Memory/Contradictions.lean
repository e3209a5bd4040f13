import GolutraAgent.Memory.Histories

/-
  This file asks whether two active memories can contradict each other. The
  store compares a candidate with the active memories when it is proposed, and
  never again. So it misses those that were in quarantine then: a memory may
  contradict one of them, and both may be activated later. No two active memories
  contradict each other if the comparison is made again when one is activated.

  Main declarations:
    * `active_memories_consistent`
    * `rivals_both_activated`
-/

namespace GolutraAgent.Memory

open MemoryLibrary

namespace MemoryLibrary

variable (library : MemoryLibrary)

/- The contents differ, and are contradictory by the test. -/
def rival (left right : String) : Bool :=
  library.normalizeContent left ≠ library.normalizeContent right &&
    contradictory (library.terms left) (library.terms right)

variable {library : MemoryLibrary}

variable {left right : List String}

theorem length_union_comm (hLeft : left.Nodup) (hRight : right.Nodup) :
    (left ∪ right).length = (right ∪ left).length := by
  refine List.Perm.length_eq ?_
  refine (List.perm_ext_iff_of_nodup (hRight.union _) (hLeft.union _)).2 ?_
  intro term
  rw [List.mem_union_iff, List.mem_union_iff, or_comm]

theorem length_inter_comm (hLeft : left.Nodup) (hRight : right.Nodup) :
    (left ∩ right).length = (right ∩ left).length := by
  refine List.Perm.length_eq ?_
  refine (List.perm_ext_iff_of_nodup (hLeft.inter _) (hRight.inter _)).2 ?_
  intro term
  rw [List.mem_inter_iff, List.mem_inter_iff, and_comm]

theorem nodup_terms (value : String) : (library.terms value).Nodup := List.nodup_dedup _

theorem rival_comm (left right : String) : library.rival left right = library.rival right left := by
  unfold rival contradictory
  rw [length_union_comm (nodup_terms left) (nodup_terms right),
    length_inter_comm (nodup_terms left) (nodup_terms right)]
  simp [eq_comm]

theorem rival_self (content : String) : library.rival content content = false := by
  simp [rival]

end MemoryLibrary

/- No two active, unexpired memories are in contradiction. -/
def Agreeing (library : MemoryLibrary) (now : Timestamp) (records : List MemoryRecord) : Prop :=
  ∀ left ∈ records, ∀ right ∈ records, left.status = .active → right.status = .active →
    left.expiredBy now = false → right.expiredBy now = false →
    left.scope = right.scope → library.rival left.content right.content = false

/- What the store does not check when it activates a memory. -/
def Apart (library : MemoryLibrary) (now : Timestamp) (records : List MemoryRecord)
    (record : MemoryRecord) : Prop :=
  ∀ other ∈ records, other.status = .active → other.expiredBy now = false →
    other.scope = record.scope → library.rival record.content other.content = false

def MemoryCall.activates : MemoryCall → Option MemoryId
| .activate memoryId _ _ _ => some memoryId
| _ => none

namespace MemoryWorld

def Consistent (library : MemoryLibrary) (world : MemoryWorld) : Prop :=
  Agreeing library world.now world.store.records

instance (library : MemoryLibrary) (world : MemoryWorld) : Decidable (world.Consistent library) :=
  inferInstanceAs (Decidable (∀ left ∈ world.store.records, ∀ right ∈ world.store.records, _))

/- A memory is activated only while no active one contradicts it. -/
def ActivatesApart (library : MemoryLibrary) (world : MemoryWorld) (op : MemoryOp) : Prop :=
  ∀ memoryId ∈ op.call.activates,
    ∀ record ∈ (upkeep world.now world.store.records).find? (·.memoryId = memoryId),
      Apart library world.now (upkeep world.now world.store.records) record

instance (library : MemoryLibrary) (world : MemoryWorld) (op : MemoryOp) :
    Decidable (world.ActivatesApart library op) :=
  inferInstanceAs (Decidable (∀ memoryId ∈ op.call.activates, ∀ record ∈ List.find? _ _,
    ∀ other ∈ upkeep _ _, _))

end MemoryWorld

/- A record says what it said, and is active only if it was. -/
structure Fades (before after : MemoryRecord) : Prop where
  content : after.content = before.content
  scope : after.scope = before.scope
  expiresAt : after.expiresAt = before.expiresAt
  active : after.status = .active → before.status = .active

namespace Fades

theorem refl (record : MemoryRecord) : Fades record record := ⟨rfl, rfl, rfl, id⟩

theorem trans {first second third : MemoryRecord}
    (hFirst : Fades first second) (hSecond : Fades second third) : Fades first third :=
  ⟨hSecond.content.trans hFirst.content, hSecond.scope.trans hFirst.scope,
    hSecond.expiresAt.trans hFirst.expiresAt, fun hActive => hFirst.active (hSecond.active hActive)⟩

theorem migrate (record : MemoryRecord) : Fades record record.migrate := by
  unfold MemoryRecord.migrate
  split
  · exact ⟨rfl, rfl, rfl, nofun⟩
  · exact refl record

theorem expire (now : Timestamp) (record : MemoryRecord) : Fades record (record.expire now) := by
  unfold MemoryRecord.expire
  split
  · exact ⟨rfl, rfl, rfl, nofun⟩
  · exact refl record

theorem withFeedback (feedback : MemoryFeedbackKind) (reason : String)
    (record : MemoryRecord) : Fades record (record.withFeedback feedback reason) := by
  cases feedback with
  | helpful | irrelevant => exact ⟨rfl, rfl, rfl, id⟩
  | incorrect => exact ⟨rfl, rfl, rfl, nofun⟩

variable {after : MemoryRecord} {now : Timestamp} {records : List MemoryRecord}

theorem expiredBy {before : MemoryRecord} (hFades : Fades before after)
    (hCurrent : after.expiredBy now = false) : before.expiredBy now = false := by
  unfold MemoryRecord.expiredBy at ⊢
  rw [← hFades.expiresAt]
  exact hCurrent

theorem upkeep (hAfter : after ∈ upkeep now records) :
    ∃ before ∈ records, Fades before after := by
  obtain ⟨moved, hMoved, rfl⟩ := List.mem_map.1 hAfter
  obtain ⟨before, hBefore, rfl⟩ := List.mem_map.1 hMoved
  exact ⟨before, hBefore, (migrate before).trans (expire now before.migrate)⟩

theorem listed (hAfter : after ∈ MemoryStore.listed now records) :
    ∃ before ∈ records, Fades before after := by
  unfold MemoryStore.listed at hAfter
  split at hAfter
  · obtain ⟨before, hBefore, rfl⟩ := List.mem_map.1 hAfter
    exact ⟨before, hBefore, migrate before⟩
  · obtain ⟨before, hBefore, rfl⟩ := List.mem_map.1 hAfter
    exact ⟨before, hBefore, expire now before⟩

theorem modifyFirst {record changed after : MemoryRecord} {memoryId : MemoryId}
    (hFind : records.find? (·.memoryId = memoryId) = some record)
    (hAfter : after ∈ replaced memoryId changed records) (hFades : Fades record changed) :
    ∃ before ∈ records, Fades before after := by
  rcases KeyedList.mem_modifyFirst_of_find? hFind hAfter with hOld | rfl
  · exact ⟨after, hOld, refl after⟩
  · exact ⟨record, List.mem_of_find?_eq_some hFind, hFades⟩

end Fades

variable {library : MemoryLibrary}

namespace Agreeing

variable {now : Timestamp} {records : List MemoryRecord}

variable {changed : List MemoryRecord}

/- Memories that fade stay in agreement. -/
theorem fade (hAgreeing : Agreeing library now records)
    (hFades : ∀ after ∈ changed, after.status = .active → ∃ before ∈ records, Fades before after) :
    Agreeing library now changed := by
  intro left hLeft right hRight hLeftActive hRightActive hLeftNow hRightNow hScope
  obtain ⟨left', hLeft', hFadesLeft⟩ := hFades left hLeft hLeftActive
  obtain ⟨right', hRight', hFadesRight⟩ := hFades right hRight hRightActive
  rw [hFadesLeft.content, hFadesRight.content]
  refine hAgreeing left' hLeft' right' hRight' (hFadesLeft.active hLeftActive)
    (hFadesRight.active hRightActive) (hFadesLeft.expiredBy hLeftNow)
    (hFadesRight.expiredBy hRightNow) ?_
  rw [← hFadesLeft.scope, ← hFadesRight.scope]
  exact hScope

/- One more active memory, which contradicts none of the others. -/
theorem activate {record : MemoryRecord} (hAgreeing : Agreeing library now records)
    (hApart : Apart library now records record) (hChanged : ∀ after ∈ changed, after ∈ records ∨
      after.content = record.content ∧ after.scope = record.scope) :
    Agreeing library now changed := by
  intro left hLeft right hRight hLeftActive hRightActive hLeftNow hRightNow hScope
  rcases hChanged left hLeft with hLeft | ⟨hLeftContent, hLeftScope⟩
  · rcases hChanged right hRight with hRight | ⟨hRightContent, hRightScope⟩
    · exact hAgreeing left hLeft right hRight hLeftActive hRightActive hLeftNow hRightNow hScope
    · rw [rival_comm, hRightContent]
      exact hApart left hLeft hLeftActive hLeftNow (hScope.trans hRightScope)
  · rw [hLeftContent]
    rcases hChanged right hRight with hRight | ⟨hRightContent, -⟩
    · exact hApart right hRight hRightActive hRightNow (hScope.symm.trans hLeftScope)
    · rw [hRightContent]
      exact rival_self _

variable {now' : Timestamp}

theorem later (hAgreeing : Agreeing library now records)
    (hLater : now.nanos ≤ now'.nanos) : Agreeing library now' records := by
  intro left hLeft right hRight hLeftActive hRightActive hLeftNow hRightNow
  have hCurrent : ∀ record : MemoryRecord, record.expiredBy now' = false →
        record.expiredBy now = false := by
    intro record hNow
    rw [Bool.eq_false_iff] at hNow ⊢
    exact fun hExpired => hNow (expiredBy_later hLater hExpired)
  exact hAgreeing left hLeft right hRight hLeftActive hRightActive (hCurrent left hLeftNow)
    (hCurrent right hRightNow)

/- What every call keeps. -/
theorem changes {call : MemoryCall} {event : Option MemoryEvent}
    (hAgreeing : Agreeing library now records)
    (hChanges : Changes library now records call changed event)
    (hApart : ∀ memoryId ∈ call.activates,
      ∀ record ∈ (upkeep now records).find? (·.memoryId = memoryId),
        Apart library now (upkeep now records) record) :
    Agreeing library now changed := by
  have hKept : Agreeing library now (upkeep now records) :=
    hAgreeing.fade (fun _ hAfter _ => Fades.upkeep hAfter)
  cases hChanges with
  | same => exact hAgreeing
  | listed => exact hAgreeing.fade (fun _ hAfter _ => Fades.listed hAfter)
  | quarantined hChange =>
    -- what is proposed is not active
    obtain ⟨expiresAt, rfl, rfl⟩ := MemoryWorld.quarantining_eq_ok hChange
    refine hKept.fade (fun after hAfter hActive => ⟨after, ?_, .refl after⟩)
    rcases List.mem_append.1 hAfter with hOld | hNew
    · exact hOld
    · cases List.mem_singleton.1 hNew
      cases hActive
  | activated hFind =>
    refine hKept.activate (hApart _ rfl _ hFind) (fun after hAfter => ?_)
    rcases KeyedList.mem_modifyFirst_of_find? hFind hAfter with hOld | rfl
    · exact .inl hOld
    · exact .inr ⟨rfl, rfl⟩
  | appraised hFind =>
    exact hAgreeing.fade (fun after hAfter _ =>
      Fades.modifyFirst hFind hAfter (Fades.withFeedback _ _ _))
  | rolledBack hFind | expired hFind =>
    exact hAgreeing.fade (fun after hAfter _ =>
      Fades.modifyFirst hFind hAfter ⟨rfl, rfl, rfl, nofun⟩)

end Agreeing

namespace MemoryWorld

/- The store holds records that agree. -/
def Harmonious (library : MemoryLibrary) (world : MemoryWorld) : Prop :=
  ∃ records, world.store.Holds library records ∧ Agreeing library world.now records

variable {world : MemoryWorld}

theorem Harmonious.step {op : MemoryOp} (hHarmonious : world.Harmonious library)
    (hApart : world.ActivatesApart library op) : (step library world op).Harmonious library := by
  obtain ⟨records, hHolds, hAgreeing⟩ := hHarmonious
  obtain ⟨⟨changed, event, hChanges, hNext, -⟩, hNow⟩ := step_leaves op hHolds
  refine ⟨changed, hNext, ?_⟩
  rw [hNow]
  refine Agreeing.later ?_ (clock_le world.now op.call)
  refine hAgreeing.changes hChanges ?_
  unfold ActivatesApart at hApart
  rwa [hHolds.held] at hApart

end MemoryWorld

/-
  From a store without records, no two active memories ever contradict each
  other, provided none is activated against one that is active.
-/
theorem active_memories_consistent (library : MemoryLibrary) (store : MemoryStore) (now : Timestamp)
    (hEmpty : store = .inMemory ∨ ∃ path, store = .new path none) (ops : List MemoryOp)
    (hApart : Machine.Guarded (MemoryWorld.step library)
      (MemoryWorld.ActivatesApart library) (MemoryWorld.opened store now) ops) :
    (Machine.run (MemoryWorld.step library)
      (MemoryWorld.opened store now) ops).Consistent library := by
  obtain ⟨records, hHolds, hAgreeing⟩ : (Machine.run (MemoryWorld.step library)
      (MemoryWorld.opened store now) ops).Harmonious library := by
    refine Machine.run_invariant (fun world op => MemoryWorld.Harmonious.step) ?_ hApart
    refine ⟨[], ?_, fun _ hLeft => absurd hLeft List.not_mem_nil⟩
    rcases hEmpty with rfl | ⟨path, rfl⟩
    · exact ⟨rfl, fun _ => rfl, nofun, nofun⟩
    · exact ⟨rfl, nofun, nofun, nofun⟩
  unfold MemoryWorld.Consistent
  rw [hHolds.held]
  exact hAgreeing

/- Two memories, one after the other. -/
def laterCalls : List MemoryOp := [⟨.quarantine ⟨.ofNat 1⟩ ⟨.ofNat 4⟩ projectCandidate
      "use tabs not blanks", 0⟩,
    ⟨.activate ⟨.ofNat 1⟩ [⟨.ofNat 5⟩] none false, 0⟩, ⟨.rollback ⟨.ofNat 1⟩ "outdated", 0⟩,
    ⟨.quarantine ⟨.ofNat 6⟩ ⟨.ofNat 7⟩ projectCandidate "use blanks not tabs", 0⟩,
    ⟨.activate ⟨.ofNat 6⟩ [⟨.ofNat 5⟩] none false, 0⟩]

theorem active_memories_consistent_later :
    (Machine.run (MemoryWorld.step asciiLibrary) (MemoryWorld.opened .inMemory ⟨0⟩)
        laterCalls).Consistent asciiLibrary :=
  active_memories_consistent asciiLibrary .inMemory ⟨0⟩ (.inl rfl) laterCalls (by decide +kernel)

/- Both memories are proposed before either is activated. -/
def rivalCalls : List MemoryOp := [⟨.quarantine ⟨.ofNat 1⟩ ⟨.ofNat 4⟩ projectCandidate
      "use tabs not blanks", 0⟩,
    ⟨.quarantine ⟨.ofNat 6⟩ ⟨.ofNat 7⟩ projectCandidate "use blanks not tabs", 0⟩,
    ⟨.activate ⟨.ofNat 1⟩ [⟨.ofNat 5⟩] none false, 0⟩,
    ⟨.activate ⟨.ofNat 6⟩ [⟨.ofNat 5⟩] none false, 0⟩]

/- Both are activated, and both are shown. -/
theorem rivals_both_activated :
    let world := Machine.run (MemoryWorld.step asciiLibrary)
      (MemoryWorld.opened .inMemory ⟨0⟩) rivalCalls
    ¬ world.Consistent asciiLibrary ∧
      world.store.records.map MemoryRecord.status = [.active, .active] := by
  decide +kernel

end GolutraAgent.Memory
