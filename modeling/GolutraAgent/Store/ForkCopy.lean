import GolutraAgent.Store.ForkProjection

/-
  This file shows that a forked thread is a renamed copy. The transaction
  appends one event for each event that is copied, under new and growing
  sequence numbers, and one renaming of UUIDs turns the copied events into the
  appended ones.

  Links to events that are not copied are cut, and pending turns that are not
  copied leave the lane.

  Main declarations:
    * `createForkedThreadExcluding_run`
    * `forkedThread_renames`
-/

namespace GolutraAgent.Store

open Transaction

theorem sessionId_of_mem_copiedEvents {database : Database} {parentSessionId : SessionId}
    {throughSequenceNo : Nat} {excludedEvents : List EventId} {event : RuntimeEvent}
    (hEvent : event ∈ copiedEvents database parentSessionId throughSequenceNo excludedEvents) :
    event.sessionId = parentSessionId := by
  have hSelected := (List.mem_filter.1 hEvent).1
  rw [Journal.selectEvents, List.mem_insertionSort] at hSelected
  have hTest := (List.mem_filter.1 hSelected).2
  rw [Bool.and_eq_true] at hTest
  exact of_decide_eq_true hTest.1

/- The events are appended in order, each under a new number. -/
structure Copies (copy : RuntimeEvent → RuntimeEvent) (journal : Journal)
    (events copies : List RuntimeEvent) (journal' : Journal) : Prop where
  copied : List.Forall₂ (fun event new =>
    event ∈ events ∧ ∃ sequenceNo, new = { copy event with sequenceNo }) events copies
  increasing : copies.Pairwise (fun first second => first.sequenceNo < second.sequenceNo)
  later : ∀ new ∈ copies, journal.runtimeSequence < new.sequenceNo
  rows : journal'.runtimeEvents.rows = journal.runtimeEvents.rows ++ copies

variable {copy : RuntimeEvent → RuntimeEvent} {events copies : List RuntimeEvent}

theorem Copies.cons {journal middle journal' : Journal} {event new : RuntimeEvent}
    (hNew : new = { copy event with sequenceNo := journal.runtimeSequence + 1 })
    (hAppended : Appended journal new middle) (hRest : Copies copy middle events copies journal') :
    Copies copy journal (event :: events) (new :: copies) journal' where
  copied := by
    refine .cons ⟨List.mem_cons_self, _, hNew⟩ ?_
    refine hRest.copied.imp ?_
    rintro other copied ⟨hOther, hCopied⟩
    exact ⟨List.mem_cons_of_mem _ hOther, hCopied⟩
  increasing := by
    refine List.pairwise_cons.2 ⟨?_, hRest.increasing⟩
    intro later hLater
    rw [← hAppended.runtimeSequence]
    exact hRest.later later hLater
  later := by
    intro other hOther
    have hFirst : journal.runtimeSequence < new.sequenceNo := by
      rw [hAppended.sequenceNo]
      exact Nat.lt_succ_self _
    rcases List.mem_cons.1 hOther with rfl | hRestOf
    · exact hFirst
    · have hNext := hRest.later other hRestOf
      rw [hAppended.runtimeSequence] at hNext
      exact hFirst.trans hNext
  rows := by
    rw [hRest.rows, hAppended.runtimeEvents, List.append_assoc]
    rfl

/- By induction on the events that are copied. -/
theorem copies_of_run {database database' : Database} (hRun : (events.mapM (fun event =>
      appendEventAssigningSequence (copy event))).run database = .ok (copies, database')) :
    Copies copy database.journal events copies database'.journal := by
  induction events generalizing database copies with
  | nil =>
    cases hRun
    exact ⟨.nil, .nil, by simp, by simp⟩
  | cons event events ih =>
    rw [List.mapM_cons] at hRun
    obtain ⟨new, middle, hFirst, hRun⟩ := run_bind_eq_ok.1 hRun
    obtain ⟨rest, last, hRest, hReturn⟩ := run_bind_eq_ok.1 hRun
    cases hReturn
    obtain ⟨journal, hAppend, rfl⟩ := run_within_eq_ok.1 hFirst
    obtain ⟨hNew, hAppended⟩ := appended_of_run hAppend
    exact Copies.cons hNew hAppended (ih hRest)

section

variable {child : ThreadRecord} {parentSessionId : SessionId} {throughSequenceNo : Nat}
variable {excludedEvents : List EventId} {ids : ForkIds}
variable {database database' : Database} {forked : List RuntimeEvent}

theorem upsertThread_journal {thread : ThreadRecord}
    (hRun : (upsertThreadInTransaction thread).run database = .ok ((), database')) :
    database'.journal = database.journal := by
  obtain ⟨found, _, hGet, hRun⟩ := run_bind_eq_ok.1 hRun
  cases hGet
  dsimp only at hRun
  split at hRun
  · cases hRun
  · cases hRun
    rfl

theorem createForkedThreadExcluding_run
    (hRun : (createForkedThreadExcluding child parentSessionId throughSequenceNo excludedEvents
      ids).run database = .ok (forked, database')) :
    let events := copiedEvents database parentSessionId throughSequenceNo excludedEvents
    let maps := ForkMaps.ofEvents parentSessionId child.sessionId events ids
    Copies (forkedEvent maps) database.journal events forked database'.journal := by
  obtain ⟨found, _, hGet, hRun⟩ := run_bind_eq_ok.1 hRun
  cases hGet
  obtain ⟨_, middle, hThread, hRun⟩ := run_bind_eq_ok.1 hRun
  have hCopies := copies_of_run hRun
  rw [upsertThread_journal hThread] at hCopies
  exact hCopies

/-
  A forked thread is a copy of the parent's events under one renaming of the
  copied identifiers and new sequence numbers. The renaming turns the projection
  of the copied events into that of the child, and leaves no copied identifier
  behind.
-/
theorem forkedThread_renames
    (hRun : (createForkedThreadExcluding child parentSessionId throughSequenceNo excludedEvents
      ids).run database = .ok (forked, database')) :
    let events := copiedEvents database parentSessionId throughSequenceNo excludedEvents
    let maps := ForkMaps.ofEvents parentSessionId child.sessionId events ids
    DistinctIds maps events → FreshIds maps events → ∃ ρ, Function.Injective ρ ∧
      List.Forall₂ (fun event copy => ∃ sequenceNo, copy =
        { (withinCopy maps event).rename ρ with sequenceNo }) events forked ∧
      forked.Pairwise (fun first second => first.sequenceNo < second.sequenceNo) ∧
      (∀ copy ∈ forked, database.journal.runtimeSequence < copy.sequenceNo) ∧
      database'.journal.runtimeEvents.rows = database.journal.runtimeEvents.rows ++ forked ∧
      (PrintedIds maps events → (∀ event ∈ events, ReadableTurns event.payload) →
        (∀ event ∈ events, WrappedTurns maps.turns event.payload) →
        ProjectionMap.numbered 0 (reduceState child.sessionId forked) = ProjectionMap.numbered 0
            (((reduceState parentSessionId events).keepTurns maps.turns).rename ρ)) ∧
      ∀ copy ∈ forked, ∀ old new, maps.renamed old = some new →
          old ∉ copy.idMentions ∧ old.toText ∉ copy.payload.strings := by
  intro events maps hDistinct hFresh
  have hCopies : Copies (forkedEvent maps) database.journal events forked database'.journal :=
    createForkedThreadExcluding_run hRun
  have hCovers : maps.Covers events := ForkMaps.covers_ofEvents child.sessionId ids
      (fun _ hEvent => sessionId_of_mem_copiedEvents hEvent)
  obtain ⟨ρ, hRenames⟩ := ForkMaps.exists_renaming hFresh
  have hRenamed : List.Forall₂ (fun event copy =>
      event ∈ events ∧ ∃ sequenceNo, copy = { (withinCopy maps event).rename ρ with sequenceNo })
        events forked := by
    refine hCopies.copied.imp ?_
    rintro event copy ⟨hEvent, sequenceNo, rfl⟩
    refine ⟨hEvent, sequenceNo, ?_⟩
    rw [hRenames.forkedEvent_eq hDistinct hCovers hEvent]
  refine ⟨ρ, hRenames.injective, ?_, hCopies.increasing, hCopies.later, hCopies.rows, ?_, ?_⟩
  · exact hRenamed.imp (fun _ _ hCopy => hCopy.2)
  · intro hPrinted hReadable hWrapped
    exact hRenames.reduceState_eq hDistinct.kinds hPrinted hReadable hWrapped hRenamed
  · intro copy hCopy old new hOld
    obtain ⟨event, -, hEvent, sequenceNo, rfl⟩ := exists_item hRenamed hCopy
    exact ⟨hRenames.not_mem_idMentions hFresh hEvent hOld,
      hRenames.toText_not_mem_strings hFresh hEvent hOld⟩

end

/- A lane with a pending turn of the copy and a later one. -/
def loggedLane : RuntimeLane := ⟨⟨.ofNat 7⟩, ⟨.ofNat 8⟩, ⟨.ofNat 1⟩, ⟨.ofNat 3⟩, none,
    ⟨.user, "user"⟩, .running, [⟨.ofNat 2⟩, ⟨.ofNat 9⟩], [], .append⟩

/- An event of a parent thread, with its task and turn. -/
def loggedEvent (eventId sequenceNo : Nat) (parentEventId : Option EventId) : RuntimeEvent :=
    ⟨runtimeEventSchemaVersion, ⟨.ofNat eventId⟩, sequenceNo, ⟨.ofNat 1⟩, some ⟨.ofNat 2⟩,
    some ⟨.ofNat 3⟩, parentEventId, .empty, [], .turnStarted, ⟨0⟩, .runtime,
    .object [("runtime_lane", loggedLane.encode)], none, true⟩

/- The second event names the first one as its parent. -/
def loggedDatabase : Database :=
  { Database.empty with
    journal := { Journal.empty with
      runtimeSequence := 2
      runtimeEvents := ⟨[loggedEvent 4 1 none, loggedEvent 5 2 (some ⟨.ofNat 4⟩)], by decide⟩ } }

def forkedThread : ThreadRecord := ⟨⟨.ofNat 6⟩, ⟨.ofNat 11⟩, none, some ⟨.ofNat 2⟩, some 2, none,
    none, none, "fork", "", ⟨0⟩, ⟨0⟩, ⟨0⟩, false, false⟩

def newId {kind : IdKind} (id : Id kind) : Id kind := ⟨⟨id.uuid.bits + 10⟩⟩

def newIds : ForkIds := ⟨newId, newId, newId⟩

/- The fork copies the second event, without the first. -/
def linkedFork : Except StoreError (List RuntimeEvent × Database) :=
  (createForkedThreadExcluding forkedThread ⟨.ofNat 1⟩ 2 [⟨.ofNat 4⟩] newIds).run loggedDatabase

def linkedEvents : List RuntimeEvent := copiedEvents loggedDatabase ⟨.ofNat 1⟩ 2 [⟨.ofNat 4⟩]

def linkedMaps : ForkMaps := ForkMaps.ofEvents ⟨.ofNat 1⟩ forkedThread.sessionId linkedEvents newIds

theorem linkedEvents_eq : linkedEvents = [loggedEvent 5 2 (some ⟨.ofNat 4⟩)] := by
  rfl

theorem linkedFork_ok : ∃ forked database', linkedFork = .ok (forked, database') := by
  have hOk : linkedFork.toBool = true := by decide +kernel
  cases hRun : linkedFork with
  | error e =>
    rw [hRun] at hOk
    cases hOk
  | ok result => exact ⟨result.1, result.2, rfl⟩

def linkedPairs : List (Uuid × Uuid) := [(.ofNat 2, .ofNat 12), (.ofNat 3, .ofNat 13),
    (.ofNat 5, .ofNat 15), (.ofNat 1, .ofNat 11)]

theorem linkedMaps_renamed {old new : Uuid}
    (hOld : linkedMaps.renamed old = some new) : (old, new) ∈ linkedPairs := by
  rcases ForkMaps.renamed_cases hOld with ⟨id, hId, rfl, rfl⟩ | ⟨id, hId, rfl, rfl⟩ |
      ⟨id, hId, rfl, rfl⟩ | ⟨rfl, rfl⟩
  · cases List.mem_singleton.1 hId
    decide
  · cases List.mem_singleton.1 hId
    decide
  · cases List.mem_singleton.1 hId
    decide
  · decide

theorem linkedMaps_distinct : DistinctIds linkedMaps linkedEvents where
  kinds := by
    have hKinds : linkedMaps.kinds = [[.ofNat 1], [.ofNat 5], [.ofNat 3], [.ofNat 2]] := rfl
    simp only [hKinds, List.pairwise_cons, List.forall_mem_cons, List.disjoint_singleton,
      List.not_mem_nil, List.Pairwise.nil, IsEmpty.forall_iff, implies_true]
    decide +kernel
  sessions := by
    intro event hEvent sessionId hSession
    rw [linkedEvents_eq, List.mem_singleton] at hEvent
    rw [hEvent] at hSession
    cases hSession

theorem linkedMaps_fresh : FreshIds linkedMaps linkedEvents where
  injective := by
    intro first second new hFirst hSecond
    have hPairs : ∀ p ∈ linkedPairs, ∀ q ∈ linkedPairs, p.2 = q.2 → p.1 = q.1 := by decide +kernel
    exact hPairs _ (linkedMaps_renamed hFirst) _ (linkedMaps_renamed hSecond) rfl
  uncopied := by
    intro old new hOld
    have hPairs : ∀ p ∈ linkedPairs, linkedMaps.renamed p.2 = none := by decide +kernel
    exact hPairs _ (linkedMaps_renamed hOld)
  unmentioned := by
    intro old new hOld
    rw [linkedEvents_eq, List.forall_mem_singleton]
    have hPairs : ∀ p ∈ linkedPairs, p.2 ∉ (loggedEvent 5 2 (some ⟨.ofNat 4⟩)).mentions := by
      decide +kernel
    exact hPairs _ (linkedMaps_renamed hOld)

theorem linkedMaps_printed : PrintedIds linkedMaps linkedEvents := by
  intro event hEvent text hText uuid hRead hCopied
  rw [linkedEvents_eq, List.mem_singleton] at hEvent
  rw [hEvent] at hText
  have hAll : ∀ text ∈ (loggedEvent 5 2
      (some ⟨.ofNat 4⟩)).payload.strings, (Uuid.ofText text).all (fun uuid =>
          decide (text = uuid.toText)) = true := by
    decide +kernel
  have hTest := hAll text hText
  rw [hRead, Option.all_some, decide_eq_true_eq] at hTest
  exact hTest

theorem linkedEvents_readable : ∀ event ∈ linkedEvents, ReadableTurns event.payload := by
  intro event hEvent lane pending hLane hPending value hValue
  rw [linkedEvents_eq, List.mem_singleton] at hEvent
  rw [hEvent] at hLane
  cases hLane
  cases hPending
  have hAll : ∀ value ∈ loggedLane.pendingTurns.map
      Id.codec.encode, ∃ turnId : TurnId, Id.codec.decode value = some turnId := by
    intro value hValue
    obtain ⟨turnId, -, rfl⟩ := List.mem_map.1 hValue
    exact ⟨turnId, Id.codec.decode_encode turnId⟩
  exact hAll value hValue

theorem linkedEvents_wrapped :
    ∀ event ∈ linkedEvents, WrappedTurns linkedMaps.turns event.payload := by
  intro event hEvent value lane hLane
  rw [linkedEvents_eq, List.mem_singleton] at hEvent
  rw [hEvent] at hLane
  cases hLane

/- The fork is a copy with the link cut. -/
theorem linkedFork_renames : ∃ forked database' ρ, linkedFork = .ok (forked, database') ∧
      DistinctIds linkedMaps linkedEvents ∧
      FreshIds linkedMaps linkedEvents ∧ Function.Injective ρ ∧
      List.Forall₂ (fun event copy => ∃ sequenceNo, copy =
        { (withinCopy linkedMaps event).rename ρ with sequenceNo }) linkedEvents forked ∧
      ProjectionMap.numbered 0 (reduceState forkedThread.sessionId forked) =
        ProjectionMap.numbered 0 (((reduceState ⟨.ofNat 1⟩ linkedEvents).keepTurns
            linkedMaps.turns).rename ρ) := by
  obtain ⟨forked, database', hRun⟩ := linkedFork_ok
  obtain ⟨ρ, hInjective, hCopied, -, -, -, hReduce, -⟩ :=
    forkedThread_renames hRun linkedMaps_distinct linkedMaps_fresh
  exact ⟨forked, database', ρ, hRun, linkedMaps_distinct, linkedMaps_fresh, hInjective, hCopied,
    hReduce linkedMaps_printed linkedEvents_readable linkedEvents_wrapped⟩

/- No renaming alone gives the forked event. -/
theorem linkedFork_not_renamed : ∃ forked database', linkedFork = .ok (forked, database') ∧
      DistinctIds linkedMaps linkedEvents ∧ FreshIds linkedMaps linkedEvents ∧
      ¬ ∃ ρ : Uuid → Uuid, List.Forall₂ (fun event copy =>
        ∃ sequenceNo, copy = { event.rename ρ with sequenceNo })
        linkedEvents forked := by
  obtain ⟨forked, database', hRun⟩ := linkedFork_ok
  refine ⟨forked, database', hRun, linkedMaps_distinct, linkedMaps_fresh, ?_⟩
  rintro ⟨ρ, hRenamed⟩
  have hCopies : Copies (forkedEvent linkedMaps)
      loggedDatabase.journal linkedEvents forked database'.journal :=
    createForkedThreadExcluding_run hRun
  have hCopied := hCopies.copied
  rcases hRenamed with _ | ⟨⟨first, hFirst⟩, -⟩
  rcases hCopied with _ | ⟨⟨-, second, hSecond⟩, -⟩
  have hParent := congrArg RuntimeEvent.parentEventId (hFirst.symm.trans hSecond)
  cases hParent

end GolutraAgent.Store
