import GolutraAgent.Client.PendingTurnViews

/-
  This file states what holds of a session between any two of its writes. Each
  turn that was queued has started once, was cancelled once, or is pending on
  the active task, and the holder of the lease knows which turns are pending.
-/

namespace GolutraAgent.Client

open GolutraAgent.Runtime Store

variable {library : PromptLibrary} {sessionId : SessionId}
variable {log : List RuntimeEvent} {taskId : TaskId} {event : RuntimeEvent} {turnId : TurnId}

/- The event says that something happened to the turn. -/
def isTurnEvent (eventType : RuntimeEventType) (turnId : TurnId) (event : RuntimeEvent) : Bool :=
  event.eventType = eventType && event.turnId = some turnId

def DurablyQueued (log : List RuntimeEvent) (turnId : TurnId) : Prop :=
  ∃ event ∈ log, isTurnEvent .turnQueued turnId event = true

def timesStarted (log : List RuntimeEvent) (turnId : TurnId) : Nat :=
  log.countP (isTurnEvent .turnStarted turnId)

def timesCancelled (log : List RuntimeEvent) (turnId : TurnId) : Nat :=
  log.countP (isTurnEvent .turnCancelled turnId)

def timesPending (turns : List RecoveredPendingTurn) (turnId : TurnId) : Nat :=
  turns.countP (·.turnId = turnId)

/-
  Each queued turn is exactly one of: started exactly once, cancelled, or
  pending.
-/
def Fates (log : List RuntimeEvent) (turns : List RecoveredPendingTurn) : Prop :=
  ∀ turnId, DurablyQueued log turnId → timesStarted log turnId + timesCancelled log turnId +
      timesPending turns turnId = 1

/- The turns have the numbers of the events that queued them. -/
def Placed (log : List RuntimeEvent) (turns : List RecoveredPendingTurn) : Prop :=
  ∀ turn ∈ turns, ∃ event ∈ log, isTurnEvent .turnQueued turn.turnId event = true ∧
      event.sequenceNo = turn.sequenceNo

theorem durablyQueued_append : DurablyQueued (log ++ [event]) turnId ↔ DurablyQueued log turnId ∨
        isTurnEvent .turnQueued turnId event = true := by
  simp [DurablyQueued]

theorem timesStarted_append : timesStarted (log ++ [event]) turnId = timesStarted log turnId +
        if isTurnEvent .turnStarted turnId event then 1 else 0 := by
  simp [timesStarted]

theorem timesCancelled_append : timesCancelled (log ++ [event]) turnId = timesCancelled log turnId +
        if isTurnEvent .turnCancelled turnId event then 1 else 0 := by
  simp [timesCancelled]

variable {eventType : RuntimeEventType}

theorem isTurnEvent_of_type (hType : event.eventType ≠ eventType)
    (turnId : TurnId) : isTurnEvent eventType turnId event = false := by
  simp [isTurnEvent, hType]

theorem isTurnEvent_iff {other : TurnId} (hType : event.eventType = eventType)
    (hTurn : event.turnId = some other) :
    isTurnEvent eventType turnId event = true ↔ other = turnId := by
  simp [isTurnEvent, hType, hTurn]

variable {turns : List RecoveredPendingTurn}

theorem Placed.append (hPlaced : Placed log turns) (event : RuntimeEvent) :
    Placed (log ++ [event]) turns := by
  intro turn hTurn
  obtain ⟨queued, hQueued, hFacts⟩ := hPlaced turn hTurn
  exact ⟨queued, List.mem_append_left _ hQueued, hFacts⟩

theorem Placed.of_places {turns others : List RecoveredPendingTurn} (hPlaced : Placed log turns)
    (hSame : ∀ other ∈ others, turnPlace other ∈ turns.map turnPlace) : Placed log others := by
  intro other hOther
  obtain ⟨turn, hTurn, hPlace⟩ := List.mem_map.1 (hSame other hOther)
  rw [turnPlace, turnPlace, Prod.mk.injEq] at hPlace
  rw [← hPlace.1, ← hPlace.2]
  exact hPlaced turn hTurn

/- Other events leave the fate of every turn. -/
theorem Fates.leave (hFates : Fates log turns)
    (hLeaves : ∀ turnId, isTurnEvent .turnQueued turnId event = false ∧
      isTurnEvent .turnStarted turnId event = false ∧
      isTurnEvent .turnCancelled turnId event = false) : Fates (log ++ [event]) turns := by
  intro turnId hQueued
  obtain ⟨hQueue, hStart, hCancel⟩ := hLeaves turnId
  rw [durablyQueued_append, hQueue] at hQueued
  have hBefore := hFates turnId (hQueued.resolve_right Bool.false_ne_true)
  simpa [timesStarted_append, timesCancelled_append, hStart, hCancel] using hBefore

theorem leavesTurns_isTurnEvent (hLeaves : leavesTurns event.eventType = true) (turnId : TurnId) :
    isTurnEvent .turnQueued turnId event = false ∧ isTurnEvent .turnStarted turnId event = false ∧
      isTurnEvent .turnCancelled turnId event = false := by
  refine ⟨isTurnEvent_of_type ?_ turnId,
    isTurnEvent_of_type ?_ turnId, isTurnEvent_of_type ?_ turnId⟩ <;>
  · intro hType
    rw [hType] at hLeaves
    cases hLeaves

/- Numbers grow, and events that queue a turn hold it. -/
structure LogOrder (library : PromptLibrary) (log : List RuntimeEvent) : Prop where
  ordered : log.Pairwise (fun first second => first.sequenceNo < second.sequenceNo)
  decodes : ∀ event ∈ log, ∀ turnId, isTurnEvent .turnQueued turnId event = true →
      ∃ turn, recoveredPendingTurnFromEvent library event = .ok turn ∧ turn.turnId = turnId

theorem sequenceNo_lt_next (hEvent : event ∈ log) : event.sequenceNo < nextSequenceNo log := by
  have hMax : ∀ numbers : List Nat, ∀ n ∈ numbers, n ≤ numbers.foldr max 0 := by
    intro numbers
    induction numbers with
    | nil => exact fun n hIn => by cases hIn
    | cons head numbers ih =>
      intro n hIn
      rcases List.mem_cons.1 hIn with rfl | hIn
      · exact le_max_left _ _
      · exact (ih n hIn).trans (le_max_right _ _)
  exact Nat.lt_succ_of_le (hMax _ _ (List.mem_map_of_mem hEvent))

theorem LogOrder.append (hOrder : LogOrder library log)
    (hNumber : nextSequenceNo log ≤ event.sequenceNo)
    (hDecodes : ∀ turnId, isTurnEvent .turnQueued turnId event = true →
        ∃ turn, recoveredPendingTurnFromEvent library event = .ok turn ∧ turn.turnId = turnId) :
    LogOrder library (log ++ [event]) := by
  constructor
  · refine List.pairwise_append.2 ⟨hOrder.ordered, List.pairwise_singleton _ _, ?_⟩
    intro old hOld new hNew
    rw [List.mem_singleton.1 hNew]
    exact (sequenceNo_lt_next hOld).trans_le hNumber
  · intro other hOther
    rcases List.mem_append.1 hOther with hOld | hNew
    · exact hOrder.decodes other hOld
    · rw [List.mem_singleton.1 hNew]
      exact hDecodes

theorem LogOrder.leave (hOrder : LogOrder library log)
    (hNumber : nextSequenceNo log ≤ event.sequenceNo)
    (hQueues : ∀ turnId, isTurnEvent .turnQueued turnId event = false) :
    LogOrder library (log ++ [event]) := by
  apply hOrder.append hNumber
  intro turnId hQueued
  rw [hQueues turnId] at hQueued
  cases hQueued

/- An event is the one with its number. -/
theorem find?_of_ordered (hOrdered : log.Pairwise (fun first second =>
      first.sequenceNo < second.sequenceNo))
    (hEvent : event ∈ log) :
    log.find? (·.sequenceNo = event.sequenceNo) = some event := by
  apply Table.find?_key_eq_some _ hEvent
  rw [List.Nodup, List.pairwise_map]
  exact hOrdered.imp (·.ne)

theorem activeTaskId_kept (hActive : (reduceState sessionId log).activeTaskId = some taskId)
    (hEvent : event.taskId = some taskId ∨ activatesTask event.eventType = false) :
    (reduceState sessionId (log ++ [event])).activeTaskId = some taskId := by
  rw [reduceState_append]
  cases hTask : event.taskId with
  | none => rw [applyEventToState_activeTaskId_none hTask, hActive]
  | some other =>
    by_cases hReaches : Reaches (reduceState sessionId log) event other
    · rw [(applyEventToState_reaches hTask hReaches).1]
      rcases hReaches with hOther | hNone | hActivates
      · rw [← hOther, hActive]
      · rw [hNone] at hActive
        cases hActive
      · rcases hEvent with hSame | hQuiet
        · rw [← hTask, hSame]
        · rw [hQuiet] at hActivates
          cases hActivates
    · rw [applyEventToState_of_not_reaches hTask hReaches]
      exact hActive

theorem activeTaskId_set (hTask : event.taskId = some taskId)
    (hReaches : Reaches (reduceState sessionId log) event taskId) :
    (reduceState sessionId (log ++ [event])).activeTaskId = some taskId := by
  rw [reduceState_append]
  exact (applyEventToState_reaches hTask hReaches).1

/- What the log says about its active task. -/
structure ActiveTask (library : PromptLibrary) (sessionId : SessionId) (log : List RuntimeEvent)
    (taskId : TaskId) (transferred pending : PendingTurns) (state : SurfaceState) : Prop where
  active : (reduceState sessionId log).activeTaskId = some taskId
  view : TaskView library log taskId transferred pending state
  good : GoodView library transferred pending state
  placed : Placed log pending.rows
  fates : Fates log pending.rows

/- Without an active task there are no turns. -/
structure NoTask (sessionId : SessionId) (log : List RuntimeEvent) : Prop where
  inactive : (reduceState sessionId log).activeTaskId = none
  quiet : ∀ event ∈ log, event.taskId = none ∧ leavesTurns event.eventType = true

theorem isQuiet_activatesTask (hQuiet : isQuiet event.eventType = true) :
    activatesTask event.eventType = false := by
  cases hType : event.eventType <;> simp_all [isQuiet, activatesTask]

theorem leavesTurns_of_isQuiet (hQuiet : isQuiet event.eventType = true) :
    leavesTurns event.eventType = true := by
  simp [leavesTurns, hQuiet]

namespace ActiveTask

variable {transferred pending : PendingTurns} {state : SurfaceState}

theorem leave (hTask : ActiveTask library sessionId log taskId transferred pending state)
    (hLeaves : leavesTurns event.eventType = true)
    (hActivates : event.taskId = some taskId ∨ activatesTask event.eventType = false) :
    ∃ state', ActiveTask library sessionId (log ++ [event]) taskId transferred pending state' ∧
      state'.payload = state.payload := by
  have hActive := activeTaskId_kept hTask.active hActivates
  have hFates := hTask.fates.leave (leavesTurns_isTurnEvent hLeaves)
  have hPlaced := hTask.placed.append event
  by_cases hOwn : event.taskId = some taskId
  · obtain ⟨state', hView, hPayload, hQueued⟩ := hTask.view.leave hOwn hLeaves
    exact ⟨state', ⟨hActive, hView, hTask.good.same hPayload hQueued, hPlaced, hFates⟩, hPayload⟩
  · exact ⟨state, ⟨hActive, hTask.view.other hOwn, hTask.good, hPlaced, hFates⟩, rfl⟩

end ActiveTask

theorem NoTask.not_durablyQueued (hNone : NoTask sessionId log)
    (turnId : TurnId) : ¬ DurablyQueued log turnId := by
  rintro ⟨event, hEvent, hQueued⟩
  have hLeaves := (hNone.quiet event hEvent).2
  rw [(leavesTurns_isTurnEvent hLeaves turnId).1] at hQueued
  cases hQueued

theorem NoTask.isNewTask (hNone : NoTask sessionId log) (taskId : TaskId) :
    isNewTask log taskId = true := by
  apply List.all_eq_true.2
  intro event hEvent
  simp [(hNone.quiet event hEvent).1]

/- The first quiet event of a task makes it the active one. -/
theorem NoTask.activate (hNone : NoTask sessionId log) (hTask : event.taskId = some taskId)
    (hLeaves : leavesTurns event.eventType = true) :
    ∃ state, ActiveTask library sessionId (log ++ [event]) taskId .empty .empty state := by
  have hNew : TaskView library log taskId .empty .empty ⟨none, fun _ => none⟩ :=
    TaskView.new (hNone.isNewTask taskId)
  obtain ⟨state, hView, -, -⟩ := hNew.leave hTask hLeaves
  refine ⟨state, activeTaskId_set hTask (.inr (.inl hNone.inactive)), hView,
    GoodView.of_nil rfl, ?_, ?_⟩
  · exact fun _ hTurn => by cases hTurn
  · intro turnId hQueued
    rw [durablyQueued_append, (leavesTurns_isTurnEvent hLeaves turnId).1] at hQueued
    exact absurd (hQueued.resolve_right Bool.false_ne_true) (hNone.not_durablyQueued turnId)

/- What holds of the log, whoever holds the lease. -/
structure Logged (library : PromptLibrary) (sessionId : SessionId)
    (log : List RuntimeEvent) : Prop where
  order : LogOrder library log
  task : NoTask sessionId log ∨ ∃ taskId transferred pending state,
      ActiveTask library sessionId log taskId transferred pending state

theorem Logged.leave (hLogged : Logged library sessionId log)
    (hNumber : nextSequenceNo log ≤ event.sequenceNo)
    (hQuiet : isQuiet event.eventType = true) : Logged library sessionId (log ++ [event]) := by
  have hLeaves := leavesTurns_of_isQuiet hQuiet
  have hActivates := isQuiet_activatesTask hQuiet
  refine ⟨hLogged.order.leave hNumber (fun turnId =>
    (leavesTurns_isTurnEvent hLeaves turnId).1), ?_⟩
  rcases hLogged.task with hNone | hSome
  · cases hTask : event.taskId with
    | none =>
      refine .inl ⟨?_, ?_⟩
      · rw [reduceState_append, applyEventToState_activeTaskId_none hTask]
        exact hNone.inactive
      · intro other hOther
        rcases List.mem_append.1 hOther with hOld | hNew
        · exact hNone.quiet other hOld
        · rw [List.mem_singleton.1 hNew]
          exact ⟨hTask, hLeaves⟩
    | some taskId =>
      obtain ⟨state, hActive⟩ := hNone.activate hTask hLeaves
      exact .inr ⟨taskId, _, _, state, hActive⟩
  · obtain ⟨taskId, transferred, pending, state, hActive⟩ := hSome
    obtain ⟨state', hActive', -⟩ := hActive.leave hLeaves (.inr hActivates)
    exact .inr ⟨taskId, transferred, pending, state', hActive'⟩

/- A recovery holds the pending turns, in their order. -/
structure Holds (library : PromptLibrary) (pending : PendingTurns)
    (turns : List RecoveredPendingTurn) : Prop where
  places : turns.map turnPlace = (sortTurns pending.rows).map turnPlace
  accepted : ∀ turn ∈ turns, library.Accepted turn.payload

/- The turns that a recovery has moved to its new task. -/
structure Moved (library : PromptLibrary) (log : List RuntimeEvent) (newTask : TaskId)
    (turns : List RecoveredPendingTurn) (moved : PendingTurns) (state : SurfaceState) : Prop where
  view : TaskView library log newTask moved moved state
  known : KnownView library moved moved state
  places : moved.rows.map turnPlace = turns.map turnPlace

/- The lane of a running task has pending turns only. -/
structure LaneHolds (library : PromptLibrary) (taskId : TaskId) (pending : PendingTurns)
    (state : SurfaceState) (lane : RuntimeLane) : Prop where
  task : lane.taskId = taskId
  distinct : lane.pendingTurns.Nodup
  turns : ∀ turnId ∈ lane.pendingTurns, turnId ∈ pending.turnIds
  ready : AcceptedPayload library state.payload

/- What the holder of the lease knows about the log. -/
def PhaseHolds (sessionId : SessionId) (session : RecordedSession) (taskId : TaskId)
    (pending : PendingTurns) (state : SurfaceState) : SessionPhase library → Prop
| .idle => True
| .running => ∃ lane, session.manager.lane sessionId = some lane ∧
      LaneHolds library taskId pending state lane
| .prompting _ => True
| .transferring turns => Holds library pending turns
| .starting newTask turns =>
  Holds library pending turns ∧ newTask ≠ taskId ∧
    ∃ moved moving, Moved library session.log newTask turns moved moving

def isResting : SessionPhase library → Bool
| .idle => true
| .prompting _ => true
| _ => false

structure TurnInv (sessionId : SessionId) (s : TurnSystem library) : Prop where
  order : LogOrder library s.session.log
  task : (NoTask sessionId s.session.log ∧ isResting s.phase = true) ∨
    ∃ taskId transferred pending state, ActiveTask library sessionId s.session.log taskId
        transferred pending state ∧
      PhaseHolds sessionId s.session taskId pending state s.phase

theorem TurnInv.logged {s : TurnSystem library} (hInv : TurnInv sessionId s) :
    Logged library sessionId s.session.log := by
  refine ⟨hInv.order, ?_⟩
  rcases hInv.task with ⟨hNone, -⟩ | hSome
  · exact .inl hNone
  · obtain ⟨taskId, transferred, pending, state, hActive, -⟩ := hSome
    exact .inr ⟨taskId, transferred, pending, state, hActive⟩

theorem turnIds_of_places {turns others : List RecoveredPendingTurn}
    (hPlaces : turns.map turnPlace = others.map turnPlace) :
    turns.map RecoveredPendingTurn.turnId = others.map RecoveredPendingTurn.turnId := by
  have hFirst := congrArg (List.map Prod.fst) hPlaces
  simpa [turnPlace, Function.comp_def] using hFirst

theorem timesPending_eq_count (turns : List RecoveredPendingTurn) (turnId : TurnId) :
    timesPending turns turnId = (turns.map RecoveredPendingTurn.turnId).count turnId := by
  rw [List.count, List.countP_map]
  rfl

theorem timesPending_sort (turns : List RecoveredPendingTurn)
    (turnId : TurnId) : timesPending (sortTurns turns) turnId = timesPending turns turnId :=
  (List.perm_insertionSort _ turns).countP_eq _

namespace Holds

variable {pending : PendingTurns}

section

variable (hHolds : Holds library pending turns)
include hHolds

theorem turnIds : turns.map RecoveredPendingTurn.turnId = (sortTurns pending.rows).map
        RecoveredPendingTurn.turnId :=
  turnIds_of_places hHolds.places

theorem timesPending_eq (turnId : TurnId) :
    timesPending turns turnId = timesPending pending.rows turnId := by
  rw [← timesPending_sort pending.rows, timesPending_eq_count,
    timesPending_eq_count, hHolds.turnIds]

theorem distinct : (turns.map RecoveredPendingTurn.turnId).Nodup := by
  rw [hHolds.turnIds]
  exact (((List.perm_insertionSort _ pending.rows).map _).nodup_iff).2 pending.distinct

theorem placed (hPlaced : Placed log pending.rows) : Placed log turns := by
  apply hPlaced.of_places
  intro turn hTurn
  have hIn : turnPlace turn ∈ turns.map turnPlace := List.mem_map_of_mem hTurn
  rw [hHolds.places] at hIn
  exact (((List.perm_insertionSort _ pending.rows).map turnPlace).mem_iff).1 hIn

theorem fates (hFates : Fates log pending.rows) : Fates log turns := by
  intro turnId hQueued
  rw [hHolds.timesPending_eq turnId]
  exact hFates turnId hQueued

end

end Holds

variable {state : SurfaceState} {transferred pending : PendingTurns}

section

variable (hTask : ActiveTask library sessionId log taskId transferred pending state)
include hTask

theorem ActiveTask.recoverable {recoveredAt : Timestamp}
    {continuation : Option RecoveredTaskContinuation}
    (hContinuation : recoveredTaskContinuation library (taskEvents log taskId) recoveredAt =
      .ok continuation) :
    ∃ turns, recoverablePendingTurns library recoveredAt log (some taskId) = .ok turns ∧
      Holds library pending turns := by
  rcases hTask.view.recoverable hTask.good hContinuation with ⟨turns, hTurns, hPlaces, hAccepted⟩
  exact ⟨turns, hTurns, hPlaces, hAccepted⟩

theorem ActiveTask.holds {recoveredAt : Timestamp}
    (hTurns : recoverablePendingTurns library recoveredAt log (some taskId) = .ok turns) :
    Holds library pending turns := by
  rcases continuation_of_recoverable hTurns with ⟨_, hContinuation⟩
  rcases hTask.recoverable hContinuation with ⟨found, hFound, hHolds⟩
  rw [hTurns] at hFound
  cases hFound
  exact hHolds

end

/- Held turns are in the order in which they were queued. -/
theorem Holds.ordered {pending : PendingTurns} (hHolds : Holds library pending turns)
    (hOrder : LogOrder library log) (hPlaced : Placed log pending.rows) :
    turns.Pairwise (fun first second => first.sequenceNo < second.sequenceNo) := by
  have hSorted : turns.Pairwise (fun first second => first.sequenceNo ≤ second.sequenceNo) := by
    have hAll := List.pairwise_insertionSort (fun first second : RecoveredPendingTurn =>
        first.sequenceNo ≤ second.sequenceNo) pending.rows
    have hPlaces : ((sortTurns pending.rows).map turnPlace).Pairwise (fun first second =>
          first.2 ≤ second.2) := by
      rw [List.pairwise_map]
      exact hAll
    rw [← hHolds.places, List.pairwise_map] at hPlaces
    exact hPlaces
  have hDistinct := hHolds.distinct
  rw [List.Nodup, List.pairwise_map] at hDistinct
  refine (hSorted.and hDistinct).imp_of_mem ?_
  rintro first second hFirst hSecond ⟨hLe, hNe⟩
  refine lt_of_le_of_ne hLe ?_
  intro hSame
  apply hNe
  -- Turns with one number were queued by one event.
  obtain ⟨event, hEvent, hQueued, hNumber⟩ := hHolds.placed hPlaced first hFirst
  obtain ⟨other, hOther, hQueued', hNumber'⟩ := hHolds.placed hPlaced second hSecond
  have hFind := find?_of_ordered hOrder.ordered hEvent
  rw [hNumber, hSame, ← hNumber', find?_of_ordered hOrder.ordered hOther] at hFind
  cases hFind
  simp only [isTurnEvent, Bool.and_eq_true, decide_eq_true_eq] at hQueued hQueued'
  exact Option.some.inj (hQueued.2.symm.trans hQueued'.2)

end GolutraAgent.Client
