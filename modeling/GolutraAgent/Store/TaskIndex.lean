import GolutraAgent.Store.Replay

/-
  This file proves that the status that the store keeps for each task is the one
  that the events of the task give.

  The status is taken from the projection of the session while the task is the
  active one, and from the stored status otherwise. The two agree because the
  projection has the status of its active task at every point, provided that no
  event without a task changes a status.

  Main declarations:
    * `Appended.indexes`
    * `taskIndex_eq_fold`
-/

namespace GolutraAgent.Store

/- The event changes some status. -/
def StatusChanging (event : RuntimeEvent) : Prop :=
  ∃ status, taskStatusAfterEvent status event ≠ status

/- The status that events give, from the idle one. -/
def taskStatusOf (events : List RuntimeEvent) : TaskStatus :=
  events.foldl taskStatusAfterEvent .idle

/- The events of a task, in the order of their appends. -/
def Journal.taskEvents (journal : Journal) (taskId : TaskId) : List RuntimeEvent :=
  journal.runtimeEvents.rows.filter (·.taskId = some taskId)

theorem taskStatusOf_append (events : List RuntimeEvent) (event : RuntimeEvent) :
    taskStatusOf (events ++ [event]) = taskStatusAfterEvent (taskStatusOf events) event := by
  simp [taskStatusOf]

variable {event : RuntimeEvent}

/- What makes a task the active one makes it run. -/
theorem taskStatusAfterEvent_of_activates (hType : activatesTask event.eventType = true)
    (status : TaskStatus) : taskStatusAfterEvent status event = .running := by
  unfold activatesTask at hType
  unfold taskStatusAfterEvent
  split at hType
  · next hEvent => rw [hEvent]
  · next hEvent => rw [hEvent]
  · next hEvent => rw [hEvent]
  · cases hType

/-
  The projection of the session has the status of its active task, and the index
  has the status of every task.
-/
structure Journal.Indexes (journal : Journal) (sessionId : SessionId) : Prop where
  replays : journal.Replays
  session : ∀ event ∈ journal.runtimeEvents.rows, event.sessionId = sessionId
  active : ∀ taskId, (journal.cachedProjection sessionId).activeTaskId = some taskId →
      (journal.cachedProjection sessionId).taskStatus = taskStatusOf (journal.taskEvents taskId)
  inactive : (journal.cachedProjection sessionId).activeTaskId = none →
      (journal.cachedProjection sessionId).taskStatus = .idle ∧
        ∀ taskId, journal.taskEvents taskId = []
  tasks : ∀ taskId, (journal.tasks.find? taskId).map TaskRow.status =
      if journal.taskEvents taskId = [] then none
      else some (taskStatusOf (journal.taskEvents taskId)).name

theorem indexes_empty (sessionId : SessionId) : Journal.empty.Indexes sessionId where
  replays := replays_empty
  session := by
    intro event hEvent
    cases hEvent
  active := by
    intro taskId hActive
    cases hActive
  inactive := fun _ => ⟨rfl, fun _ => rfl⟩
  tasks := fun _ => rfl

variable {journal : Journal} {sessionId : SessionId}

/- The status is reduced from the one in the index. -/
theorem Journal.Indexes.indexedStatus (hIndexes : journal.Indexes sessionId)
    (event : RuntimeEvent) (taskId : TaskId) :
    indexedStatusAfterEvent ((journal.tasks.find? taskId).map TaskRow.status) event =
      .ok (taskStatusAfterEvent (taskStatusOf (journal.taskEvents taskId)) event).name := by
  rw [hIndexes.tasks taskId]
  split
  · rename_i hNone
    rw [hNone]
    rfl
  · simp [indexedStatusAfterEvent]

/- In a store of one session the events of a task are its. -/
theorem Journal.Indexes.loadEvents (hIndexes : journal.Indexes sessionId) (taskId : TaskId) :
    journal.loadEvents sessionId (some taskId) none = journal.taskEvents taskId := by
  unfold Journal.loadEvents
  rw [hIndexes.replays.selectEvents]
  apply List.filter_congr
  intro event hEvent
  simp [hIndexes.session event hEvent, (hIndexes.replays.numbered event hEvent).1]

namespace Appended

variable {journal' : Journal} {taskId : TaskId}

section

variable (hAppended : Appended journal event journal')
include hAppended

theorem taskEvents_self (hTask : event.taskId = some taskId) :
    journal'.taskEvents taskId = journal.taskEvents taskId ++ [event] := by
  unfold Journal.taskEvents
  rw [hAppended.runtimeEvents]
  simp [hTask]

theorem taskEvents_other (hTask : event.taskId ≠ some taskId) :
    journal'.taskEvents taskId = journal.taskEvents taskId := by
  unfold Journal.taskEvents
  rw [hAppended.runtimeEvents]
  simp [hTask]

/- The projection of the session is the reduced one. -/
theorem cachedProjection_eq :
    journal'.cachedProjection event.sessionId = journal.reduced event := by
  obtain ⟨row, hRow, hProjection, -⟩ := hAppended.projection
  simp [Journal.cachedProjection, hRow, hProjection]

section

variable (hIndexes : journal.Indexes event.sessionId)
include hIndexes

/-
  An event that reaches the projection leaves it with the status of the task of
  the event.
-/
theorem reduced_status (hTask : event.taskId = some taskId)
    (hReaches : Reaches (journal.cachedProjection event.sessionId) event taskId) :
    (journal.reduced event).taskStatus = taskStatusOf (journal'.taskEvents taskId) := by
  unfold Journal.reduced
  rw [(applyEventToState_reaches hTask hReaches).2,
    hAppended.taskEvents_self hTask, taskStatusOf_append]
  rcases hReaches with hActive | hNone | hType
  · rw [hIndexes.active taskId hActive]
  · obtain ⟨hIdle, hEvents⟩ := hIndexes.inactive hNone
    rw [hIdle, hEvents taskId]
    rfl
  · rw [taskStatusAfterEvent_of_activates hType, taskStatusAfterEvent_of_activates hType]

theorem session_eq : ∀ other ∈ journal'.runtimeEvents.rows, other.sessionId = event.sessionId := by
  intro other hOther
  rw [hAppended.runtimeEvents, List.mem_append, List.mem_singleton] at hOther
  rcases hOther with hOld | rfl
  · exact hIndexes.session other hOld
  · rfl

/- The index changes for the task of the event only. -/
theorem tasks_eq (hText : ∀ taskId, event.taskId = some taskId →
      taskStatusText journal event (journal.reduced event) taskId =
        .ok (taskStatusOf (journal'.taskEvents taskId)).name)
    (taskId : TaskId) :
    (journal'.tasks.find? taskId).map TaskRow.status = if journal'.taskEvents taskId = [] then none
      else some (taskStatusOf (journal'.taskEvents taskId)).name := by
  by_cases hTask : event.taskId = some taskId
  · obtain ⟨row, hRow, hStatus⟩ := hAppended.task taskId hTask
    rw [hText taskId hTask] at hStatus
    have hSome : journal'.taskEvents taskId ≠ [] := by
      rw [hAppended.taskEvents_self hTask]
      simp
    rw [hRow, if_neg hSome, Option.map_some, Except.ok.inj hStatus]
  · rw [hAppended.taskOther taskId hTask, hAppended.taskEvents_other hTask]
    exact hIndexes.tasks taskId

/- An event that does not reach the projection. -/
theorem indexes_of_not_reaches (hTask : event.taskId = some taskId)
    (hReaches : ¬ Reaches (journal.cachedProjection event.sessionId) event taskId) :
    journal'.Indexes event.sessionId := by
  have hReduced := applyEventToState_of_not_reaches hTask hReaches
  have hCached := hAppended.cachedProjection_eq
  unfold Journal.reduced at hCached
  rw [hReduced] at hCached
  -- the active task is another one, so its events stay
  have hActive : (journal.cachedProjection event.sessionId).activeTaskId ≠ some taskId :=
    fun hSame => hReaches (.inl hSame)
  have hNone : (journal.cachedProjection event.sessionId).activeTaskId ≠ none :=
    fun hSame => hReaches (.inr (.inl hSame))
  constructor
  · exact hAppended.replays hIndexes.replays
  · exact hAppended.session_eq hIndexes
  · intro other hOther
    rw [hCached] at hOther ⊢
    have hDiffers : event.taskId ≠ some other := by
      rw [hTask]
      rintro hSame
      exact hActive (hSame ▸ hOther)
    rw [hAppended.taskEvents_other hDiffers]
    exact hIndexes.active other hOther
  · intro hInactive
    rw [hCached] at hInactive
    exact absurd hInactive hNone
  · apply hAppended.tasks_eq hIndexes
    intro other hOther
    obtain rfl : other = taskId := by
      rw [hTask] at hOther
      exact (Option.some.inj hOther).symm
    have hText : (journal.reduced event).activeTaskId ≠ some other := by
      unfold Journal.reduced
      rw [hReduced]
      exact hActive
    rw [taskStatusText, if_neg hText, hIndexes.indexedStatus,
      hAppended.taskEvents_self hTask, taskStatusOf_append]

/- An event that does reach it. -/
theorem indexes_of_reaches (hTask : event.taskId = some taskId)
    (hReaches : Reaches (journal.cachedProjection event.sessionId) event taskId) :
    journal'.Indexes event.sessionId := by
  have hCached := hAppended.cachedProjection_eq
  have hStatus := hAppended.reduced_status hIndexes hTask hReaches
  have hActive : (journal.reduced event).activeTaskId = some taskId :=
    (applyEventToState_reaches hTask hReaches).1
  constructor
  · exact hAppended.replays hIndexes.replays
  · exact hAppended.session_eq hIndexes
  · intro other hOther
    rw [hCached, hActive] at hOther
    cases hOther
    rw [hCached, hStatus]
  · intro hInactive
    rw [hCached, hActive] at hInactive
    cases hInactive
  · apply hAppended.tasks_eq hIndexes
    intro other hOther
    obtain rfl : other = taskId := by
      rw [hTask] at hOther
      exact (Option.some.inj hOther).symm
    rw [taskStatusText, if_pos hActive, hStatus]

/- An event without a task, which changes no status. -/
theorem indexes_of_no_task (hTask : event.taskId = none)
    (hKeeps : ¬ StatusChanging event) : journal'.Indexes event.sessionId := by
  have hCached := hAppended.cachedProjection_eq
  have hSame : ∀ status, taskStatusAfterEvent status event = status := by
    unfold StatusChanging at hKeeps
    push Not at hKeeps
    exact hKeeps
  have hOther : ∀ taskId, event.taskId ≠ some taskId := by
    intro taskId
    rw [hTask]
    exact Option.some_ne_none taskId |>.symm
  have hActive : (journal.reduced event).activeTaskId =
      (journal.cachedProjection event.sessionId).activeTaskId :=
    applyEventToState_activeTaskId_none hTask
  have hStatus : (journal.reduced event).taskStatus =
      (journal.cachedProjection event.sessionId).taskStatus := by
    unfold Journal.reduced
    rw [applyEventToState_taskStatus_none hTask, hSame]
  constructor
  · exact hAppended.replays hIndexes.replays
  · exact hAppended.session_eq hIndexes
  · intro taskId hTaskActive
    rw [hCached, hActive] at hTaskActive
    rw [hCached, hStatus, hAppended.taskEvents_other (hOther taskId)]
    exact hIndexes.active taskId hTaskActive
  · intro hInactive
    rw [hCached, hActive] at hInactive
    obtain ⟨hIdle, hEvents⟩ := hIndexes.inactive hInactive
    refine ⟨by rw [hCached, hStatus, hIdle], ?_⟩
    intro taskId
    rw [hAppended.taskEvents_other (hOther taskId)]
    exact hEvents taskId
  · apply hAppended.tasks_eq hIndexes
    intro taskId hSome
    exact absurd hSome (hOther taskId)

theorem indexes (hCarries : StatusChanging event → event.taskId ≠ none) :
    journal'.Indexes event.sessionId := by
  cases hTask : event.taskId with
  | none =>
    apply hAppended.indexes_of_no_task hIndexes hTask
    exact fun hChanging => hCarries hChanging hTask
  | some taskId =>
    by_cases hReaches : Reaches (journal.cachedProjection event.sessionId) event taskId
    · exact hAppended.indexes_of_reaches hIndexes hTask hReaches
    · exact hAppended.indexes_of_not_reaches hIndexes hTask hReaches

end

end

end Appended

/- The database after some events, appended one by one. -/
def appendEvents (events : List RuntimeEvent) : Database := Machine.run (fun database event =>
      (appendEventAssigningSequence event).commit database)
    .empty events

theorem commit_indexes {database : Database} (hIndexes : database.journal.Indexes event.sessionId)
    (hCarries : StatusChanging event → event.taskId ≠ none) :
    ((appendEventAssigningSequence event).commit database).journal.Indexes event.sessionId := by
  unfold Transaction.commit
  split
  · rename_i assigned database' hRun
    obtain ⟨journal, hAppend, rfl⟩ := Transaction.run_within_eq_ok.1 hRun
    obtain ⟨rfl, hAppended⟩ := appended_of_run hAppend
    -- the number of an event does not matter to a status
    exact hAppended.indexes hIndexes hCarries
  · exact hIndexes

theorem appendEvents_indexes {events : List RuntimeEvent}
    (hSession : ∀ event ∈ events, event.sessionId = sessionId)
    (hCarries : ∀ event ∈ events, StatusChanging event → event.taskId ≠ none) :
    (appendEvents events).journal.Indexes sessionId := by
  induction events using List.reverseRecOn with
  | nil => exact indexes_empty sessionId
  | append_singleton events event ih =>
    unfold appendEvents
    rw [Machine.run_concat]
    have hLast : event.sessionId = sessionId := hSession event (by simp)
    subst hLast
    apply commit_indexes
    · exact ih (fun other hOther => hSession other (by simp [hOther]))
        (fun other hOther => hCarries other (by simp [hOther]))
    · exact hCarries event (by simp)

/-
  The stored status of every task is the fold of its own events, however the
  events of the tasks are interleaved.
-/
theorem taskIndex_eq_fold (sessionId : SessionId) (events : List RuntimeEvent)
    (hSession : ∀ event ∈ events, event.sessionId = sessionId)
    (hCarries : ∀ event ∈ events, StatusChanging event → event.taskId ≠ none) (taskId : TaskId) :
    ((appendEvents events).journal.tasks.find? taskId).map TaskRow.status =
      if (appendEvents events).journal.loadEvents sessionId (some taskId) none = [] then none
      else
        some (taskStatusOf ((appendEvents events).journal.loadEvents sessionId
            (some taskId) none)).name := by
  have hIndexes := appendEvents_indexes hSession hCarries
  rw [hIndexes.loadEvents]
  exact hIndexes.tasks taskId

/- Events of two tasks of one session, interleaved. -/
def interleavedEvent (n task : Nat) (eventType : RuntimeEventType) : RuntimeEvent :=
    ⟨runtimeEventSchemaVersion, ⟨Uuid.ofNat n⟩, 0, ⟨Uuid.ofNat 1⟩, none, some ⟨Uuid.ofNat task⟩,
    none, .empty, [], eventType, ⟨0⟩, .runtime, .object [], none, true⟩

def interleavedEvents : List RuntimeEvent :=
  [interleavedEvent 10 4 .taskCreated, interleavedEvent 11 5 .taskCreated,
    interleavedEvent 12 4 .taskCompleted, interleavedEvent 13 5 .taskPaused]

/- The first task completes while the second is active. -/
theorem taskIndex_interleavedEvents :
    (∀ event ∈ interleavedEvents, event.sessionId = ⟨Uuid.ofNat 1⟩) ∧
      (∀ event ∈ interleavedEvents, StatusChanging event → event.taskId ≠ none) ∧
      ((appendEvents interleavedEvents).journal.tasks.find?
        ⟨Uuid.ofNat 4⟩).map TaskRow.status = some "completed" := by
  have hSession : ∀ event ∈ interleavedEvents, event.sessionId = ⟨Uuid.ofNat 1⟩ := by
    simp [interleavedEvents, interleavedEvent]
  have hCarries : ∀ event ∈ interleavedEvents, StatusChanging event → event.taskId ≠ none := by
    simp [interleavedEvents, interleavedEvent]
  refine ⟨hSession, hCarries, ?_⟩
  rw [taskIndex_eq_fold _ _ hSession hCarries]
  rfl

end GolutraAgent.Store
