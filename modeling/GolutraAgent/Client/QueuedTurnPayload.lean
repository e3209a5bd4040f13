import GolutraAgent.Client.TurnDurability

/-
  A queued turn is changed by its latest payload in the events of the task,
  while a recovery starts from the turns that were moved to the task. This file
  says when the two find the same turns pending: a moved turn is missed until an
  event of its own, and an update is taken for a turn that is not pending. Where
  both find the turn they find the same payload, and the recovery changes that
  of a leading steer only.

  Main declarations:
    * `leadPendingTurns_related`
    * `latestQueuedTurnPayload_tracked_iff`
-/

namespace GolutraAgent.Client

open GolutraAgent.Runtime
open GolutraAgent.Store Transaction

variable {library : PromptLibrary} {event : RuntimeEvent}
variable {pending pending' : PendingTurns} {turnId : TurnId}

/- What the latest event of a turn says of its payload. -/
def latestPayload (event : RuntimeEvent) (payload : Option Json.Value) : Option Json.Value :=
  match event.eventType with
  | .turnQueued | .turnUpdated => event.payload.get "payload"
  | .turnStarted => none
  | .turnCancelled => none
  | _ => payload

/- A recovery updates pending turns only. -/
def recoveredPayload (event : RuntimeEvent) (payload : Option Json.Value) : Option Json.Value :=
  match event.eventType with
  | .turnQueued => event.payload.get "payload"
  | .turnUpdated => payload.bind (fun _ => event.payload.get "payload")
  | .turnStarted => none
  | .turnCancelled => none
  | _ => payload

/- The events are those of a turn, the latest first. -/
def pendingBefore (moved : Bool) : List RuntimeEvent → Bool
| [] => moved
| event :: events =>
  match event.eventType with
  | .turnQueued => true
  | .turnStarted => false
  | .turnCancelled => false
  | _ => pendingBefore moved events

/-
  A turn without events was not moved to the task, and a turn whose last event
  is an update was pending before it.
-/
def Tracked (moved : Bool) : List RuntimeEvent → Prop
| [] => moved = false
| event :: events =>
  match event.eventType with
  | .turnQueued => True
  | .turnUpdated => pendingBefore moved events = true
  | .turnStarted => True
  | .turnCancelled => True
  | _ => Tracked moved events

/- What a turn was queued or updated with is there. -/
def HasPayload (event : RuntimeEvent) : Prop :=
  event.eventType = .turnQueued ∨ event.eventType = .turnUpdated →
    (event.payload.get "payload").isSome

/- The two passes over the events of a turn, compared. -/
theorem payloads_tracked (moved : Option Json.Value) {events : List RuntimeEvent}
    (hPayloads : ∀ event ∈ events, HasPayload event) :
    let latest := events.foldr latestPayload none
    let recovered := events.foldr recoveredPayload moved
    recovered.isSome = pendingBefore moved.isSome events ∧
      ((latest.isSome ↔ recovered.isSome) ↔ Tracked moved.isSome events) ∧
      (latest.isSome → recovered.isSome → latest = recovered) := by
  induction events with
  | nil => simp [pendingBefore, Tracked]
  | cons event events ih =>
    obtain ⟨hPayload, hPayloads⟩ := List.forall_mem_cons.1 hPayloads
    obtain ⟨hPending, hAgree⟩ := ih hPayloads
    simp only [List.foldr_cons, pendingBefore, Tracked]
    generalize events.foldr recoveredPayload moved = recovered at hPending hAgree
    unfold latestPayload recoveredPayload
    cases hType : event.eventType with
    | turnQueued => simp [hPayload (.inl hType)]
    | turnUpdated =>
      obtain ⟨payload, hGet⟩ := Option.isSome_iff_exists.1 (hPayload (.inr hType))
      rw [← hPending]
      cases recovered <;> simp [hGet]
    | turnStarted | turnCancelled => simp
    | _ => exact ⟨hPending, hAgree⟩

def PendingTurns.payload (pending : PendingTurns) (turnId : TurnId) : Option Json.Value :=
  (pending.find? turnId).map RecoveredPendingTurn.payload

theorem recoveredPendingTurnFromEvent_eq_ok {turn : RecoveredPendingTurn}
    (hTurn : recoveredPendingTurnFromEvent library event = .ok turn) :
    event.turnId = some turn.turnId ∧ event.payload.get "payload" = some turn.payload := by
  obtain ⟨found, hFound, hTurn⟩ := bind_eq_ok.1 hTurn
  obtain ⟨payload, hPayload, hTurn⟩ := bind_eq_ok.1 hTurn
  obtain ⟨_, -, hTurn⟩ := bind_eq_ok.1 hTurn
  cases hTurn
  constructor
  · cases hId : event.turnId with
    | none => simp [hId, requireTurn] at hFound
    | some held => simpa [hId, requireTurn] using hFound
  · cases hGet : event.payload.get "payload" with
    | none => simp [hGet, requireTurn] at hPayload
    | some held => simpa [hGet, requireTurn] using hPayload

open PendingTurns

theorem PendingTurns.payload_put (pending : PendingTurns) (turn : RecoveredPendingTurn) :
    PendingTurns.payload (pending.put turn) turnId = if turn.turnId = turnId then some turn.payload
      else pending.payload turnId := by
  simp only [payload, Table.find?_put, eq_comm (a := turnId)]
  split <;> rfl

/- An event changes the payload of its own turn only. -/
theorem pendingEvent_payload (hEvent : pendingEvent library pending event = .ok pending')
    (turnId : TurnId) : pending'.payload turnId = (if event.turnId = some turnId then
          recoveredPayload event (pending.payload turnId)
        else pending.payload turnId) ∧
      (event.turnId = some turnId → HasPayload event) := by
  unfold pendingEvent at hEvent
  unfold HasPayload recoveredPayload
  cases hType : event.eventType with
  | turnQueued =>
    simp only [hType] at hEvent
    split at hEvent
    · cases hEvent
      have hNone : event.turnId = none := by simp_all [isPendingTransferEvent]
      simp [hNone]
    · obtain ⟨turn, hTurn, hEvent⟩ := bind_eq_ok.1 hEvent
      cases hEvent
      obtain ⟨hId, hGet⟩ := recoveredPendingTurnFromEvent_eq_ok hTurn
      simp [hId, hGet, payload_put]
  | turnUpdated =>
    simp only [hType] at hEvent
    obtain ⟨turn, hTurn, hEvent⟩ := bind_eq_ok.1 hEvent
    cases hEvent
    obtain ⟨hId, hGet⟩ := recoveredPendingTurnFromEvent_eq_ok hTurn
    by_cases hSame : turn.turnId = turnId
    · subst hSame
      unfold updatePending
      cases hFind : pending.find? turn.turnId <;> simp [hId, hGet, hFind, payload, Table.find?_put]
    · unfold updatePending
      split <;> simp [hId, hSame, payload_put]
  | turnStarted | turnCancelled =>
    simp only [hType] at hEvent
    cases hEvent
    unfold pendingEvent.removeTurn
    cases hId : event.turnId with
    | none => simp
    | some held =>
      by_cases hSame : held = turnId <;> simp [payload, Table.find?_delete,
          hSame, eq_comm (a := turnId)]
  | _ =>
    simp only [hType] at hEvent
    cases hEvent
    simp

variable {log events : List RuntimeEvent} {taskId : TaskId}

theorem pendingEvents_payload
    (hEvents : events.foldlM (pendingEvent library) pending = .ok pending') (turnId : TurnId) :
    let own := events.filter (·.turnId = some turnId)
    pending'.payload turnId = own.foldl (fun payload event => recoveredPayload event payload)
        (pending.payload turnId) ∧
      ∀ event ∈ own, HasPayload event := by
  induction events generalizing pending with
  | nil =>
    cases hEvents
    simp
  | cons event events ih =>
    obtain ⟨middle, hEvent, hEvents⟩ := bind_eq_ok.1 hEvents
    obtain ⟨hFirst, hPayload⟩ := pendingEvent_payload hEvent turnId
    obtain ⟨hRest, hPayloads⟩ := ih hEvents
    rw [hFirst] at hRest
    by_cases hOwn : event.turnId = some turnId
    · simp only [hOwn] at hRest
      rw [List.filter_cons_of_pos (by simpa using hOwn)]
      exact ⟨hRest, List.forall_mem_cons.2 ⟨hPayload hOwn, hPayloads⟩⟩
    · simp only [hOwn] at hRest
      rw [List.filter_cons_of_neg (by simpa using hOwn)]
      exact ⟨hRest, hPayloads⟩

variable {turns : List RecoveredPendingTurn} {surface : Option RecoveredActiveTurnSurface}

/- The payload of a turn, or of a leading steer with it. -/
def Recovers (library : PromptLibrary) (surface : Option RecoveredActiveTurnSurface)
    (recoveredAt : Timestamp) (turns : List RecoveredPendingTurn) (payload : Json.Value)
    (turn : RecoveredPendingTurn) : Prop :=
  turn.payload = payload ∨ (turns.head? = some turn ∧ turn.steer = true ∧
      ∃ active, surface = some active ∧ materializeRecoveredLeadingSteer library active
          recoveredAt payload = .ok turn.payload)

theorem leadPendingTurns_related {rows : List RecoveredPendingTurn}
    {continuation : Option RecoveredTaskContinuation} {recoveredAt : Timestamp}
    (hLead : leadPendingTurns library surface continuation recoveredAt rows = .ok turns) :
    List.Forall₂ (fun row turn =>
      turn.turnId = row.turnId ∧ Recovers library surface recoveredAt turns
          row.payload turn) rows turns := by
  cases rows with
  | nil =>
    cases hLead
    exact .nil
  | cons first rest =>
    have hRest : List.Forall₂ (fun row turn =>
        turn.turnId = row.turnId ∧ Recovers library surface recoveredAt turns
            row.payload turn) rest rest :=
      List.forall₂_same.2 (fun _ _ => ⟨rfl, .inl rfl⟩)
    simp only [leadPendingTurns] at hLead
    split at hLead
    · rename_i hSteer
      split at hLead
      · cases hLead
      · rename_i active
        obtain ⟨payload, hPayload, hLead⟩ := bind_eq_ok.1 hLead
        cases hLead
        refine .cons ⟨rfl, .inr ⟨rfl, ?_, active, rfl, hPayload⟩⟩ hRest
        exact (Bool.and_eq_true_iff.1 hSteer).1
    · cases hLead
      exact .cons ⟨rfl, .inl rfl⟩ hRest

/-
  The latest payload of a turn is there when the recovery has the turn, exactly
  if the turn is tracked. Where both have it, it is the payload that the turn is
  recovered with.
-/
theorem latestQueuedTurnPayload_tracked_iff {recoveredAt : Timestamp}
    (hTurns : recoverablePendingTurns library recoveredAt log (some taskId) = .ok turns)
    (turnId : TurnId) : ∃ transferred surface, recoverableTransferTurns library log
          (taskEvents log taskId) = .ok transferred ∧
        recoveredActiveTurnSurface library transferred (taskEvents log taskId) = .ok surface ∧
        (((latestQueuedTurnPayload log taskId turnId).isSome ↔
            ∃ turn ∈ turns, turn.turnId = turnId) ↔
          Tracked (transferred.find? turnId).isSome
            ((taskEvents log taskId).filter (·.turnId = some turnId)).reverse) ∧
        ∀ payload turn, latestQueuedTurnPayload log taskId turnId = some payload →
            turn ∈ turns → turn.turnId = turnId → Recovers library surface recoveredAt turns
              payload turn := by
  obtain ⟨transferred, hTransferred, hTurns⟩ := bind_eq_ok.1 hTurns
  obtain ⟨surface, hSurface, hTurns⟩ := bind_eq_ok.1 hTurns
  obtain ⟨continuation, -, hTurns⟩ := bind_eq_ok.1 hTurns
  obtain ⟨pending, hPending, hTurns⟩ := bind_eq_ok.1 hTurns
  refine ⟨transferred, surface, hTransferred, hSurface, ?_⟩
  obtain ⟨hPayload, hPayloads⟩ := pendingEvents_payload hPending turnId
  have hRelated := leadPendingTurns_related hTurns
  -- both walk over the events of the turn, from the last one on
  have hLatest : latestQueuedTurnPayload log taskId turnId = ((taskEvents log taskId).filter
      (·.turnId = some turnId)).reverse.foldr latestPayload none := by
    rw [List.foldr_reverse]
    rfl
  rw [← List.foldr_reverse] at hPayload
  obtain ⟨-, hTracked, hSame⟩ := payloads_tracked (transferred.payload turnId) (fun event hEvent =>
      hPayloads event (List.mem_reverse.1 hEvent))
  rw [← hLatest, ← hPayload] at hTracked hSame
  have hRow : ∀ turn ∈ turns, turn.turnId = turnId →
      ∃ payload, pending.payload turnId = some payload ∧
        Recovers library surface recoveredAt turns payload turn := by
    rintro turn hTurn rfl
    obtain ⟨row, hRow, hId, hRecovers⟩ := exists_item hRelated hTurn
    have hFind : pending.find? turn.turnId = some row := Table.find?_eq_some_iff.2
        ⟨(List.mem_insertionSort _).1 hRow, hId.symm⟩
    exact ⟨row.payload, by rw [payload, hFind]; rfl, hRecovers⟩
  have hMember : (∃ turn ∈ turns, turn.turnId = turnId) ↔ (pending.payload turnId).isSome := by
    constructor
    · rintro ⟨turn, hTurn, hId⟩
      obtain ⟨payload, hHeld, -⟩ := hRow turn hTurn hId
      rw [hHeld]
      rfl
    · intro hHeld
      rw [payload, Option.isSome_map] at hHeld
      obtain ⟨row, hFind⟩ := Option.isSome_iff_exists.1 hHeld
      obtain ⟨hIn, hKey⟩ := Table.find?_eq_some_iff.1 hFind
      obtain ⟨turn, hTurn, hId, -⟩ := exists_result hRelated ((List.mem_insertionSort _).2 hIn)
      exact ⟨turn, hTurn, hId.trans hKey⟩
  have hMoved : (transferred.payload turnId).isSome = (transferred.find? turnId).isSome :=
    Option.isSome_map
  rw [hMoved] at hTracked
  rw [hMember]
  refine ⟨hTracked, ?_⟩
  intro payload turn hSome hTurn hId
  obtain ⟨held, hHeld, hRecovers⟩ := hRow turn hTurn hId
  rw [hSome, hHeld] at hSame
  cases hSame rfl rfl
  exact hRecovers

namespace TurnSystem

/- One turn is queued, and its latest payload is found. -/
theorem queuedTurn_isFound :
    let log := (run sampleSession orphanedTurnRun).session.log
    ∃ turns, recoverablePendingTurns plainPrompts ⟨0⟩ log (some ⟨Uuid.ofNat 10⟩) = .ok turns ∧
      ((latestQueuedTurnPayload log ⟨Uuid.ofNat 10⟩ ⟨Uuid.ofNat 30⟩).isSome ↔
        ∃ turn ∈ turns, turn.turnId = ⟨Uuid.ofNat 30⟩) := by
  intro log
  obtain ⟨turns, hTurns⟩ : ∃ turns, recoverablePendingTurns
      plainPrompts ⟨0⟩ log (some ⟨Uuid.ofNat 10⟩) = .ok turns :=
    ⟨_, by rfl⟩
  obtain ⟨_, _, -, -, hTracked, -⟩ := latestQueuedTurnPayload_tracked_iff hTurns ⟨Uuid.ofNat 30⟩
  exact ⟨turns, hTurns, hTracked.2 trivial⟩

/- Two turns are queued, and moved to another task. -/
def movedTurnRun : List (TurnWrite plainPrompts) :=
  [plainWrite (.prompt (plainTask 10)), plainWrite .create,
    plainWrite (.queue ⟨Uuid.ofNat 30⟩ ⟨Uuid.ofNat 31⟩
      (.object [("prompt", .string "next")]) (.text "next")),
    plainWrite (.queue ⟨Uuid.ofNat 40⟩ ⟨Uuid.ofNat 41⟩
      (.object [("prompt", .string "last")]) (.text "last")),
    plainWrite .crash, plainWrite .recover, plainWrite (.transfer ⟨Uuid.ofNat 50⟩),
    plainWrite (.start ⟨Uuid.ofNat 3⟩ ⟨Uuid.ofNat 51⟩)]

/- The first has started, and the other has no payload. -/
theorem movedTurn_isMissed :
    recoverableTurnIds (run sampleSession movedTurnRun) = some [⟨Uuid.ofNat 40⟩] ∧
      latestQueuedTurnPayload (run sampleSession movedTurnRun).session.log ⟨Uuid.ofNat 50⟩
          ⟨Uuid.ofNat 40⟩ = none := by
  exact ⟨by rfl, by rfl⟩

end TurnSystem

end GolutraAgent.Client
