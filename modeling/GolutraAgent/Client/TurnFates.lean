import GolutraAgent.Client.TurnInvariant

/-
  This file follows the turns of the active task: what its events do to the
  pending turns, and that the fate of each queued turn stays settled exactly
  once.
-/

namespace GolutraAgent.Client

open GolutraAgent.Runtime Store

variable {library : PromptLibrary} {sessionId : SessionId}
variable {log : List RuntimeEvent} {taskId : TaskId} {event : RuntimeEvent} {turnId : TurnId}

theorem timesPending_table (pending : PendingTurns) (turnId : TurnId) :
    timesPending pending.rows turnId = if turnId ∈ pending.rows.map
          RecoveredPendingTurn.turnId then 1 else 0 := by
  rw [timesPending_eq_count]
  exact List.Nodup.count pending.distinct

variable {pending : PendingTurns}

theorem mem_turnIds_put {turn : RecoveredPendingTurn} :
    turnId ∈ PendingTurns.turnIds (pending.put turn) ↔ turnId = turn.turnId ∨
      turnId ∈ pending.turnIds := by
  simp only [List.mem_map, Table.mem_put]
  constructor
  · rintro ⟨other, ⟨hOther, -⟩ | rfl, rfl⟩
    · exact .inr ⟨other, hOther, rfl⟩
    · exact .inl rfl
  · rintro (rfl | ⟨other, hOther, rfl⟩)
    · exact ⟨turn, .inr rfl, rfl⟩
    · by_cases hSame : other.turnId = turn.turnId
      · exact ⟨turn, .inr rfl, hSame.symm⟩
      · exact ⟨other, .inl ⟨hOther, hSame⟩, rfl⟩

theorem mem_turnIds_delete {removed : TurnId} :
    turnId ∈ PendingTurns.turnIds (pending.delete removed) ↔ turnId ≠ removed ∧
      turnId ∈ pending.turnIds := by
  simp only [List.mem_map, Table.mem_delete]
  constructor
  · rintro ⟨other, ⟨hOther, hNe⟩, rfl⟩
    exact ⟨hNe, other, hOther, rfl⟩
  · rintro ⟨hNe, other, hOther, rfl⟩
    exact ⟨other, ⟨hOther, hNe⟩, rfl⟩

/- A new turn has no events yet. -/
theorem not_isTurnEvent_of_new (hNew : isNewTurn log turnId = true) (eventType : RuntimeEventType)
    (hEvent : event ∈ log) : ¬ isTurnEvent eventType turnId event = true := by
  have hOther := List.all_eq_true.1 hNew event hEvent
  simp only [decide_not, Bool.not_eq_true'] at hOther
  simp [isTurnEvent, hOther]

variable {turn : RecoveredPendingTurn}

theorem Fates.queue (hFates : Fates log pending.rows) (hNew : isNewTurn log turn.turnId = true)
    (hType : event.eventType = .turnQueued) (hTurn : event.turnId = some turn.turnId) :
    Fates (log ++ [event]) (pending.put turn).rows := by
  intro turnId hQueued
  have hStart : isTurnEvent .turnStarted turnId event =
      false := isTurnEvent_of_type (by simp [hType]) turnId
  have hCancel : isTurnEvent .turnCancelled turnId event =
      false := isTurnEvent_of_type (by simp [hType]) turnId
  rw [timesStarted_append, timesCancelled_append, hStart, hCancel, timesPending_table]
  by_cases hSame : turnId = turn.turnId
  · subst hSame
    have hStarts : timesStarted log turn.turnId = 0 := List.countP_eq_zero.2 (fun _ hEvent =>
        not_isTurnEvent_of_new hNew _ hEvent)
    have hCancels : timesCancelled log turn.turnId = 0 := List.countP_eq_zero.2 (fun _ hEvent =>
        not_isTurnEvent_of_new hNew _ hEvent)
    simp [hStarts, hCancels, mem_turnIds_put]
  · rw [durablyQueued_append, isTurnEvent_iff hType hTurn] at hQueued
    have hBefore := hFates turnId (hQueued.resolve_right (fun hEq => hSame hEq.symm))
    rw [timesPending_table] at hBefore
    simpa [mem_turnIds_put, hSame] using hBefore

theorem Fates.update (hFates : Fates log pending.rows) (hPending : turn.turnId ∈ pending.turnIds)
    (hType : event.eventType = .turnUpdated) : Fates (log ++ [event]) (pending.put turn).rows := by
  have hSame : ∀ turnId, turnId ∈ PendingTurns.turnIds (pending.put turn) ↔
        turnId ∈ pending.turnIds := by
    intro turnId
    rw [mem_turnIds_put]
    constructor
    · rintro (rfl | hIn)
      · exact hPending
      · exact hIn
    · exact .inr
  have hLeft : Fates (log ++ [event]) pending.rows := hFates.leave (fun turnId =>
      ⟨isTurnEvent_of_type (by simp [hType]) turnId, isTurnEvent_of_type (by simp [hType]) turnId,
        isTurnEvent_of_type (by simp [hType]) turnId⟩)
  intro turnId hQueued
  have hBefore := hLeft turnId hQueued
  rw [timesPending_table] at hBefore ⊢
  simpa only [hSame] using hBefore

/- A pending turn starts, or it is cancelled. -/
theorem Fates.remove (hFates : Fates log pending.rows) (hPending : turnId ∈ pending.turnIds)
    (hType : event.eventType = .turnStarted ∨ event.eventType = .turnCancelled)
    (hTurn : event.turnId = some turnId) : Fates (log ++ [event]) (pending.delete turnId).rows := by
  intro other hQueued
  have hQueue : isTurnEvent .turnQueued other event = false := by
    rcases hType with hType | hType <;> exact isTurnEvent_of_type (by simp [hType]) other
  rw [durablyQueued_append, hQueue] at hQueued
  have hBefore := hFates other (hQueued.resolve_right Bool.false_ne_true)
  rw [timesPending_table] at hBefore
  rw [timesStarted_append, timesCancelled_append, timesPending_table]
  by_cases hSame : other = turnId
  · rcases hType with hType | hType <;> simp_all [isTurnEvent, mem_turnIds_delete]
  · have hOther : event.turnId ≠ some other := by simp [hTurn, Ne.symm hSame]
    simpa [isTurnEvent, hOther, mem_turnIds_delete, hSame] using hBefore

namespace ActiveTask

variable {transferred : PendingTurns} {state : SurfaceState} {payload : Json.Value}

section

variable (hTask : ActiveTask library sessionId log taskId transferred pending state)
include hTask

theorem queue (hReady : AcceptedPayload library state.payload) (hNew : isNewTurn log turnId = true)
    (hOwn : event.taskId = some taskId) (hType : event.eventType = .turnQueued)
    (hTurn : event.turnId = some turnId) (hPayload : event.payload.get "payload" = some payload)
    (hAccepted : library.Accepted payload) :
    ∃ turn state', turn.turnId = turnId ∧ ActiveTask library sessionId (log ++ [event]) taskId
        transferred (pending.put turn) state' ∧
      AcceptedPayload library state'.payload := by
  obtain ⟨turn, state', hView, hGood, hReady', rfl, hPlace⟩ :=
    hTask.view.queue hTask.good hReady hOwn hType hTurn hPayload hAccepted
  refine ⟨turn, state', rfl, ⟨?_, hView, hGood, ?_, ?_⟩, hReady'⟩
  · exact activeTaskId_kept hTask.active (.inl hOwn)
  · intro other hOther
    rcases Table.mem_put.1 hOther with ⟨hOld, -⟩ | rfl
    · exact hTask.placed.append event other hOld
    · exact ⟨event, by simp, (isTurnEvent_iff hType hTurn).2 rfl, hPlace.symm⟩
  · exact hTask.fates.queue hNew hType hTurn

theorem update (hReady : AcceptedPayload library state.payload)
    (hPending : turnId ∈ pending.turnIds) (hOwn : event.taskId = some taskId)
    (hType : event.eventType = .turnUpdated) (hTurn : event.turnId = some turnId)
    (hPayload : event.payload.get "payload" = some payload) (hAccepted : library.Accepted payload) :
    ∃ turn state', turn.turnId = turnId ∧ ActiveTask library sessionId (log ++ [event]) taskId
        transferred (pending.put turn) state' ∧
      AcceptedPayload library state'.payload := by
  obtain ⟨original, hOriginal, turn, state', hView, hGood, hReady', hPlace, rfl⟩ :=
    hTask.view.update hTask.good hReady hOwn hType hTurn hPayload hAccepted hPending
  refine ⟨turn, state', rfl, ⟨?_, hView, hGood, ?_, ?_⟩, hReady'⟩
  · exact activeTaskId_kept hTask.active (.inl hOwn)
  · apply (hTask.placed.append event).of_places
    intro other hOther
    rcases Table.mem_put.1 hOther with ⟨hOld, -⟩ | rfl
    · exact List.mem_map_of_mem hOld
    · rw [hPlace]
      exact List.mem_map_of_mem hOriginal
  · exact hTask.fates.update hPending hType

theorem placed_delete (event : RuntimeEvent) (turnId : TurnId) :
    Placed (log ++ [event]) (pending.delete turnId).rows := by
  intro turn hTurn
  exact hTask.placed.append event turn (Table.mem_delete.1 hTurn).1

theorem cancel (hPending : turnId ∈ pending.turnIds) (hOwn : event.taskId = some taskId)
    (hType : event.eventType = .turnCancelled) (hTurn : event.turnId = some turnId) :
    ∃ state', state'.payload = state.payload ∧ ActiveTask library sessionId (log ++ [event]) taskId
        transferred (pending.delete turnId) state' := by
  obtain ⟨state', hView, hGood, hPayload⟩ := hTask.view.cancel hTask.good hOwn hType hTurn
  exact ⟨state', hPayload, activeTaskId_kept hTask.active (.inl hOwn), hView, hGood,
    hTask.placed_delete event turnId, hTask.fates.remove hPending (.inr hType) hTurn⟩

/- A queued turn starts with the payload it was queued with. -/
theorem start (hReady : AcceptedPayload library state.payload) (hPending : turnId ∈ pending.turnIds)
    (hOwn : event.taskId = some taskId) (hType : event.eventType = .turnStarted)
    (hTurn : event.turnId = some turnId) (hPayload : event.payload.get "payload" = none) :
    ∃ state', AcceptedPayload library state'.payload ∧
      ActiveTask library sessionId (log ++ [event]) taskId
        transferred (pending.delete turnId) state' := by
  obtain ⟨turn, hIn, rfl⟩ := List.mem_map.1 hPending
  obtain ⟨known, hKnown, hAccepted⟩ := hTask.good.known turn hIn
  have hStarted : startedPayload state transferred turn.turnId event = .ok known := by
    rw [SurfaceState.knownPayload] at hKnown
    simp [startedPayload, hPayload, hKnown]
  obtain ⟨state', hView, hGood, hReady'⟩ :=
    hTask.view.start hTask.good.toKnownView (.inr hReady) hOwn hType hTurn hStarted hAccepted
  exact ⟨state', hReady', activeTaskId_kept hTask.active (.inl hOwn), hView, hGood,
    hTask.placed_delete event turn.turnId, hTask.fates.remove hPending (.inl hType) hTurn⟩

end

end ActiveTask

end GolutraAgent.Client
