import GolutraAgent.Library.Machine
import GolutraAgent.Store.Effects

/-
  This file proves that the projections that the store caches are those that a
  replay of the events gives, in every run of the transactions that append
  events.

  Every such transaction takes the journal through a number of appends, so it is
  enough to follow the journal through one append.

  Main declarations:
    * `Database.run_grows`
    * `cachedProjections_replay`
    * `eventNumbers_contiguous`
-/

namespace GolutraAgent.Store

/- The events of a session, in the order of their appends. -/
def Journal.sessionEvents (journal : Journal) (sessionId : SessionId) : List RuntimeEvent :=
  journal.runtimeEvents.rows.filter (·.sessionId = sessionId)

/-
  The numbers increase with the appends, and the cached projections are those of
  a replay.
-/
structure Journal.Replays (journal : Journal) : Prop where
  increasing : (journal.runtimeEvents.rows.map RuntimeEvent.sequenceNo).Pairwise (· < ·)
  numbered : ∀ event ∈ journal.runtimeEvents.rows,
    0 < event.sequenceNo ∧ event.sequenceNo ≤ journal.runtimeSequence
  cached : ∀ sessionId, (journal.stateProjections.find? sessionId).map ProjectionRow.projection =
      if journal.sessionEvents sessionId = [] then none
      else some (reduceState sessionId (journal.sessionEvents sessionId))
  lastSequenceNo : ∀ sessionId row, journal.stateProjections.find? sessionId = some row →
      row.lastSequenceNo = row.projection.lastSequenceNo

theorem replays_empty : Journal.empty.Replays := by
  constructor
  · exact List.Pairwise.nil
  · intro event hEvent
    cases hEvent
  · intro sessionId
    rfl
  · intro sessionId row hRow
    cases hRow

variable {journal : Journal}

/- A session without events is at its initial projection. -/
theorem Journal.Replays.cachedProjection (hReplays : journal.Replays) (sessionId : SessionId) :
    journal.cachedProjection sessionId = reduceState sessionId
        (journal.sessionEvents sessionId) := by
  unfold Journal.cachedProjection
  rw [hReplays.cached sessionId]
  split
  · rename_i hNone
    rw [hNone]
    rfl
  · rfl

namespace Appended

variable {journal' : Journal} {event : RuntimeEvent}

section

variable (hAppended : Appended journal event journal')
include hAppended

theorem sessionEvents_self :
    journal'.sessionEvents event.sessionId = journal.sessionEvents event.sessionId ++ [event] := by
  unfold Journal.sessionEvents
  rw [hAppended.runtimeEvents]
  simp

theorem sessionEvents_other {sessionId : SessionId} (hOther : sessionId ≠ event.sessionId) :
    journal'.sessionEvents sessionId = journal.sessionEvents sessionId := by
  unfold Journal.sessionEvents
  rw [hAppended.runtimeEvents]
  simp [hOther.symm]

/- The reducer continues the replay. -/
theorem reduced_eq (hReplays : journal.Replays) :
    journal.reduced event = reduceState event.sessionId
        (journal'.sessionEvents event.sessionId) := by
  unfold Journal.reduced
  rw [hReplays.cachedProjection, hAppended.sessionEvents_self, reduceState_append]

/- An append keeps the cache a replay. -/
theorem replays (hReplays : journal.Replays) : journal'.Replays := by
  obtain ⟨appended, hRow, hProjection, hLast⟩ := hAppended.projection
  have hNumber := hAppended.sequenceNo
  constructor
  · rw [hAppended.runtimeEvents, List.map_append, List.pairwise_append]
    refine ⟨hReplays.increasing, by simp, ?_⟩
    intro old hOld new hNew
    obtain ⟨earlier, hEarlier, rfl⟩ := List.mem_map.1 hOld
    have hBound := (hReplays.numbered earlier hEarlier).2
    rw [List.map_singleton, List.mem_singleton] at hNew
    omega
  · intro other hOther
    rw [hAppended.runtimeSequence]
    rw [hAppended.runtimeEvents, List.mem_append, List.mem_singleton] at hOther
    rcases hOther with hOld | rfl
    · have hBound := hReplays.numbered other hOld
      omega
    · omega
  · intro sessionId
    by_cases hSession : sessionId = event.sessionId
    · subst hSession
      rw [hRow, Option.map_some, hProjection,
        hAppended.reduced_eq hReplays, hAppended.sessionEvents_self]
      simp
    · rw [hAppended.projectionOther sessionId hSession, hAppended.sessionEvents_other hSession]
      exact hReplays.cached sessionId
  · intro sessionId row hFind
    by_cases hSession : sessionId = event.sessionId
    · subst hSession
      rw [hRow] at hFind
      cases hFind
      rw [hLast, hProjection]
    · rw [hAppended.projectionOther sessionId hSession] at hFind
      exact hReplays.lastSequenceNo sessionId row hFind

end

end Appended

theorem Journal.Grows.replays {journal journal' : Journal}
    (hGrows : journal.Grows journal') (hReplays : journal.Replays) : journal'.Replays := by
  induction hGrows with
  | refl => exact hReplays
  | tail _ hStep ih =>
    obtain ⟨event, hAppended⟩ := hStep
    exact hAppended.replays ih

/- Events are never changed or removed. -/
theorem Journal.Grows.isPrefix {journal journal' : Journal} (hGrows : journal.Grows journal') :
    journal.runtimeEvents.rows <+: journal'.runtimeEvents.rows := by
  induction hGrows with
  | refl => exact List.prefix_rfl
  | tail _ hStep ih =>
    obtain ⟨event, hAppended⟩ := hStep
    rw [hAppended.runtimeEvents]
    exact ih.trans (List.prefix_append _ _)

/- Sorting by number changes nothing. -/
theorem Journal.Replays.selectEvents (hReplays : journal.Replays) (selects : RuntimeEvent → Bool) :
    journal.selectEvents selects = journal.runtimeEvents.rows.filter selects := by
  apply List.Pairwise.insertionSort_eq
  apply List.Pairwise.filter
  exact (List.pairwise_map.1 hReplays.increasing).imp Nat.le_of_lt

theorem Journal.Replays.loadEvents (hReplays : journal.Replays) (sessionId : SessionId) :
    journal.loadEvents sessionId none none = journal.sessionEvents sessionId := by
  unfold Journal.loadEvents
  rw [hReplays.selectEvents]
  apply List.filter_congr
  intro event hEvent
  simp [(hReplays.numbered event hEvent).1]

@[simp] theorem applyEventToState_lastSequenceNo
    (projection : StateProjection) (event : RuntimeEvent) :
    (applyEventToState projection event).lastSequenceNo =
      max projection.lastSequenceNo event.sequenceNo := by
  unfold applyEventToState
  cases hTask : event.taskId with
  | none => simp
  | some taskId =>
    dsimp only
    split <;> split <;> simp

/- The greatest number among the events, or zero. -/
theorem reduceState_lastSequenceNo (sessionId : SessionId) (events : List RuntimeEvent) :
    (reduceState sessionId events).lastSequenceNo =
      ((events.map RuntimeEvent.sequenceNo).max?).getD 0 := by
  have hFold : ∀ projection : StateProjection, (events.foldl applyEventToState
          projection).lastSequenceNo =
        (events.map RuntimeEvent.sequenceNo).foldl max projection.lastSequenceNo := by
    induction events with
    | nil =>
      intro projection
      rfl
    | cons event events ih => simp [ih]
  unfold reduceState
  rw [hFold]
  cases events with
  | nil => rfl
  | cons event events => simp [initialProjection, List.max?]

/- Whether it commits is up to the environment. -/
structure StoreAttempt where
  op : StoreOp
  commits : Bool

def Database.step (database : Database) (attempt : StoreAttempt) : Database :=
  if attempt.commits then attempt.op.commit database
  else database

theorem Database.run_grows (database : Database) (attempts : List StoreAttempt) :
    database.journal.Grows (Machine.run Database.step database attempts).journal := by
  induction attempts generalizing database with
  | nil => exact Relation.ReflTransGen.refl
  | cons attempt attempts ih =>
    refine Relation.ReflTransGen.trans ?_ (ih _)
    unfold Database.step
    split
    · exact (attempt.op.commit_effect database).journal
    · exact Relation.ReflTransGen.refl

/-
  The cache is a replay of the events that are loaded, and the numbers are
  unique and increase with the appends.
-/
structure CachedReplay (journal : Journal) : Prop where
  row : ∀ sessionId, (journal.stateProjections.find? sessionId).map ProjectionRow.projection =
      if journal.loadEvents sessionId none none = [] then none
      else some (reduceState sessionId (journal.loadEvents sessionId none none))
  query : ∀ sessionId, journal.queryState sessionId none = reduceState sessionId
        (journal.loadEvents sessionId none none)
  lastSequenceNo : ∀ sessionId, ((journal.stateProjections.find? sessionId).map
        ProjectionRow.lastSequenceNo).getD 0 =
      (((journal.loadEvents sessionId none none).map RuntimeEvent.sequenceNo).max?).getD 0
  unique : (journal.runtimeEvents.rows.map RuntimeEvent.sequenceNo).Nodup
  increasing : (journal.runtimeEvents.rows.map RuntimeEvent.sequenceNo).Pairwise (· < ·)

theorem Journal.Replays.queryState (hReplays : journal.Replays) (sessionId : SessionId) :
    journal.queryState sessionId none = reduceState sessionId
        (journal.loadEvents sessionId none none) := by
  have hCached := hReplays.cachedProjection sessionId
  rw [← hReplays.loadEvents sessionId] at hCached
  rw [← hCached]
  unfold Journal.queryState Journal.cachedProjection
  cases hFind : journal.stateProjections.find? sessionId with
  | none =>
    -- without a row the events are loaded, and there are none
    have hNone := hReplays.cached sessionId
    rw [hFind] at hNone
    by_cases hEvents : journal.sessionEvents sessionId = []
    · simp [hReplays.loadEvents, hEvents, reduceState]
    · simp [hEvents] at hNone
  | some row => rfl

theorem Journal.Replays.lastSequenceNo_eq (hReplays : journal.Replays) (sessionId : SessionId) :
    ((journal.stateProjections.find? sessionId).map ProjectionRow.lastSequenceNo).getD 0 =
      (reduceState sessionId (journal.sessionEvents sessionId)).lastSequenceNo := by
  have hCached := hReplays.cachedProjection sessionId
  rw [← hCached]
  unfold Journal.cachedProjection
  cases hFind : journal.stateProjections.find? sessionId with
  | none => rfl
  | some row => exact hReplays.lastSequenceNo sessionId row hFind

theorem Journal.Replays.cachedReplay (hReplays : journal.Replays) : CachedReplay journal where
  row := by
    intro sessionId
    rw [hReplays.loadEvents]
    exact hReplays.cached sessionId
  query := hReplays.queryState
  lastSequenceNo := by
    intro sessionId
    rw [hReplays.loadEvents, ← reduceState_lastSequenceNo]
    exact hReplays.lastSequenceNo_eq sessionId
  unique := hReplays.increasing.imp Nat.ne_of_lt
  increasing := hReplays.increasing

/-
  At every point of every run the cached projections are the replay of the
  recorded events, and the events recorded so far stay as they are.
-/
theorem cachedProjections_replay (before after : List StoreAttempt) :
    CachedReplay (Machine.run Database.step .empty before).journal ∧
      (Machine.run Database.step .empty before).journal.runtimeEvents.rows <+:
        (Machine.run Database.step .empty (before ++ after)).journal.runtimeEvents.rows := by
  have hGrows := Database.run_grows .empty before
  constructor
  · exact (hGrows.replays replays_empty).cachedReplay
  · rw [Machine.run_append]
    exact (Database.run_grows _ after).isPrefix

def Journal.maxSequenceNo (journal : Journal) : Nat :=
  ((journal.runtimeEvents.rows.map RuntimeEvent.sequenceNo).max?).getD 0

theorem Journal.Grows.numbers (hGrows : Journal.empty.Grows journal) :
    journal.runtimeEvents.rows.map RuntimeEvent.sequenceNo =
      List.range' 1 journal.runtimeSequence := by
  induction hGrows with
  | refl => rfl
  | tail _ hStep ih =>
    rcases hStep with ⟨event, hAppended⟩
    rw [hAppended.runtimeEvents, hAppended.runtimeSequence,
      hAppended.sequenceNo, List.map_append, ih, List.range'_concat]
    simp [hAppended.sequenceNo, Nat.add_comm]

/-
  The numbers have no gaps: a transaction that is rolled back takes its numbers
  with it, and the counter stays the greatest number.
-/
theorem eventNumbers_contiguous (attempts : List StoreAttempt) :
    let journal := (Machine.run Database.step .empty attempts).journal
    journal.runtimeSequence = journal.maxSequenceNo ∧
      journal.runtimeEvents.rows.map RuntimeEvent.sequenceNo =
        List.range' 1 journal.maxSequenceNo := by
  intro journal
  have hNumbers := (Database.run_grows .empty attempts).numbers
  have hMax : journal.runtimeSequence = journal.maxSequenceNo := by
    rw [Journal.maxSequenceNo, hNumbers]
    cases journal.runtimeSequence with
    | zero => rfl
    | succ last =>
      have hLast : (List.range' 1 (last + 1)).max? = some (last + 1) :=
        List.max?_eq_some_iff.mpr (by grind)
      simp [hLast]
  exact ⟨hMax, hMax ▸ hNumbers⟩

end GolutraAgent.Store
