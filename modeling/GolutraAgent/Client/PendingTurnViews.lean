import GolutraAgent.Client.TurnRecovery

/-
  This file says how the pending turns of a task change with the log. A view of
  a task holds what the three passes over its events give; one more event
  changes a view by the step of each pass. From a view in good order the
  recovery gets all pending turns, in the order in which they were queued.
-/

namespace GolutraAgent.Client

open GolutraAgent.Runtime Store
open Json.Value Transaction

variable {library : PromptLibrary} {sessionId : SessionId}
variable {log : List RuntimeEvent} {taskId : TaskId} {event : RuntimeEvent}

theorem taskEvents_append_self (hTask : event.taskId = some taskId) :
    taskEvents (log ++ [event]) taskId = taskEvents log taskId ++ [event] := by
  simp [taskEvents, hTask]

theorem taskEvents_append_other (hTask : event.taskId ≠ some taskId) :
    taskEvents (log ++ [event]) taskId = taskEvents log taskId := by
  simp [taskEvents, hTask]

theorem taskEvents_new (hNew : isNewTask log taskId = true) : taskEvents log taskId = [] := by
  simpa [taskEvents, isNewTask] using hNew

def referencedSequenceNos (event : RuntimeEvent) : List Nat :=
  (((event.payload.get recoveredSequenceNosKey).bind
    Json.Value.asArray).getD []).filterMap Json.Value.asU64

/- The turns that were moved to a task, and what is left. -/
structure TaskView (library : PromptLibrary) (log : List RuntimeEvent) (taskId : TaskId)
    (transferred pending : PendingTurns) (state : SurfaceState) : Prop where
  references : ∀ event ∈ taskEvents log taskId, isPendingTransferEvent event = true →
      ∀ sequenceNo ∈ referencedSequenceNos event,
        ∃ found, log.find? (·.sequenceNo = sequenceNo) = some found
  transfers : recoverableTransferTurns library log (taskEvents log taskId) = .ok transferred
  pendings : (taskEvents log taskId).foldlM (pendingEvent library) transferred = .ok pending
  surfaces : (taskEvents log taskId).foldlM
    (surfaceEvent library transferred) ⟨none, fun _ => none⟩ = .ok state

/- A number of the log, and its event. -/
def IsLogged (log : List RuntimeEvent) (sequenceNo : Nat) : Prop :=
  ∃ found, log.find? (·.sequenceNo = sequenceNo) = some found

theorem IsLogged.append {sequenceNo : Nat} (hLogged : IsLogged log sequenceNo)
    (more : List RuntimeEvent) : IsLogged (log ++ more) sequenceNo := by
  obtain ⟨found, hFind⟩ := hLogged
  exact ⟨found, by rw [List.find?_append, hFind]; rfl⟩

theorem foldlM_congr_mem {α β ε : Type} {first second : β → α → Except ε β} {items : List α}
    (hSame : ∀ x ∈ items, ∀ acc, first acc x = second acc x) (acc : β) :
    items.foldlM first acc = items.foldlM second acc := by
  induction items generalizing acc with
  | nil => rfl
  | cons x items ih =>
    rw [List.foldlM_cons, hSame x List.mem_cons_self]
    congr 1
    funext acc'
    exact ih (fun y hItem => hSame y (List.mem_cons_of_mem _ hItem)) acc'

/- The references of a transfer are found in a longer log. -/
theorem transferEvent_extend
    (hFound : ∀ sequenceNo ∈ referencedSequenceNos event, IsLogged log sequenceNo)
    (more : List RuntimeEvent) (transferred : PendingTurns) :
    transferEvent library (log ++ more) transferred event =
      transferEvent library log transferred event := by
  unfold transferEvent
  congr 1
  funext middle
  refine foldlM_congr_mem ?_ middle
  intro sequenceNo hReference acc
  obtain ⟨found, hFind⟩ := hFound sequenceNo hReference
  unfold transferReference
  rw [List.find?_append, hFind]
  rfl

theorem recoverableTransferTurns_extend {events : List RuntimeEvent}
    (hFound : ∀ event ∈ events, isPendingTransferEvent event = true →
        ∀ sequenceNo ∈ referencedSequenceNos event, IsLogged log sequenceNo)
    (more : List RuntimeEvent) : recoverableTransferTurns library (log ++ more) events =
      recoverableTransferTurns library log events := by
  refine foldlM_congr_mem ?_ _
  intro event hEvent transferred
  obtain ⟨hIn, hTransfer⟩ := List.mem_filter.1 hEvent
  exact transferEvent_extend (hFound event hIn hTransfer) more transferred

/- A turn and its place in the order of the log. -/
def turnPlace (turn : RecoveredPendingTurn) : TurnId × Nat := (turn.turnId, turn.sequenceNo)

namespace TaskView

variable {transferred pending pending' : PendingTurns} {state state' : SurfaceState}

section

variable (hView : TaskView library log taskId transferred pending state)
include hView

theorem references_extend (more : List RuntimeEvent) :
    ∀ event ∈ taskEvents log taskId, isPendingTransferEvent event = true →
        ∀ sequenceNo ∈ referencedSequenceNos event, IsLogged (log ++ more) sequenceNo := by
  intro event hEvent hTransfer sequenceNo hReference
  exact IsLogged.append (hView.references event hEvent hTransfer sequenceNo hReference) more

/- The events of other tasks do not change a view. -/
theorem other (hTask : event.taskId ≠ some taskId) :
    TaskView library (log ++ [event]) taskId transferred pending state := by
  constructor
  · rw [taskEvents_append_other hTask]
    exact hView.references_extend [event]
  · rw [taskEvents_append_other hTask, recoverableTransferTurns_extend hView.references]
    exact hView.transfers
  · rw [taskEvents_append_other hTask]
    exact hView.pendings
  · rw [taskEvents_append_other hTask]
    exact hView.surfaces

/- An event of the task is one more step of each pass. -/
theorem append (hTask : event.taskId = some taskId)
    (hTransfer : isPendingTransferEvent event = false)
    (hPending : pendingEvent library pending event = .ok pending')
    (hSurface : surfaceEvent library transferred state event = .ok state') :
    TaskView library (log ++ [event]) taskId transferred pending' state' := by
  constructor
  · rw [taskEvents_append_self hTask]
    intro other hOther hIsTransfer
    rcases List.mem_append.1 hOther with hOld | hNew
    · exact hView.references_extend [event] other hOld hIsTransfer
    · rw [List.mem_singleton.1 hNew, hTransfer] at hIsTransfer
      cases hIsTransfer
  · have hEvents : recoverableTransferTurns library
        (log ++ [event]) (taskEvents log taskId ++ [event]) =
          recoverableTransferTurns library (log ++ [event]) (taskEvents log taskId) := by
      simp [recoverableTransferTurns, hTransfer]
    rw [taskEvents_append_self hTask, hEvents, recoverableTransferTurns_extend hView.references]
    exact hView.transfers
  · rw [taskEvents_append_self hTask, List.foldlM_append, hView.pendings]
    exact congrArg (· >>= pure) hPending
  · rw [taskEvents_append_self hTask, List.foldlM_append, hView.surfaces]
    exact congrArg (· >>= pure) hSurface

end

theorem new (hNew : isNewTask log taskId = true) :
    TaskView library log taskId .empty .empty ⟨none, fun _ => none⟩ := by
  have hEvents := taskEvents_new hNew
  constructor
  · rw [hEvents]
    exact fun _ hEvent => by cases hEvent
  · rw [hEvents]
    rfl
  · rw [hEvents]
    rfl
  · rw [hEvents]
    rfl

end TaskView

/- Events after which the same turns are pending. -/
def leavesTurns (eventType : RuntimeEventType) : Bool :=
  isQuiet eventType || eventType = .taskResumed

def SurfaceState.payload (state : SurfaceState) : Option Json.Value :=
  state.active.map RecoveredActiveTurnSurface.payload

theorem isPendingTransferEvent_of_type
    (hType : event.eventType ≠ .turnQueued) : isPendingTransferEvent event = false := by
  simp [isPendingTransferEvent, hType]

theorem pendingEvent_leaves (hLeaves : leavesTurns event.eventType = true)
    (pending : PendingTurns) : pendingEvent library pending event = .ok pending := by
  unfold pendingEvent
  cases hType : event.eventType <;> simp_all [leavesTurns, isQuiet]

theorem beginBudget_payload (event : RuntimeEvent) (surface : RecoveredActiveTurnSurface) :
    (beginBudget event surface).payload = surface.payload := by
  unfold beginBudget
  split <;> rfl

theorem surfaceEvent_leaves (hLeaves : leavesTurns event.eventType = true)
    (transferred : PendingTurns) (state : SurfaceState) :
    ∃ state', surfaceEvent library transferred state event = .ok state' ∧
      state'.payload = state.payload ∧ state'.queuedPayloads = state.queuedPayloads := by
  unfold surfaceEvent
  cases hType : event.eventType with
  | stepStarted => simp [SurfaceState.payload, Function.comp_def, beginBudget_payload]
  | taskCreated | turnQueued | turnUpdated | turnStarted
  | turnCancelled =>
    rw [hType] at hLeaves
    cases hLeaves
  | _ => exact ⟨state, rfl, rfl, rfl⟩

theorem leavesTurns_ne_turnQueued
    (hLeaves : leavesTurns event.eventType = true) : event.eventType ≠ .turnQueued := by
  intro hType
  rw [hType] at hLeaves
  cases hLeaves

variable {state : SurfaceState} {transferred pending : PendingTurns}

theorem TaskView.leave (hView : TaskView library log taskId transferred pending state)
    (hTask : event.taskId = some taskId) (hLeaves : leavesTurns event.eventType = true) : ∃ state',
    TaskView library (log ++ [event]) taskId transferred pending state' ∧
      state'.payload = state.payload ∧ state'.queuedPayloads = state.queuedPayloads := by
  obtain ⟨state', hSurface, hPayload, hQueued⟩ :=
    @surfaceEvent_leaves library event hLeaves transferred state
  refine ⟨state', ?_, hPayload, hQueued⟩
  exact hView.append hTask (isPendingTransferEvent_of_type (leavesTurns_ne_turnQueued hLeaves))
    (pendingEvent_leaves hLeaves pending) hSurface

variable {turnId : TurnId} {payload : Json.Value}

theorem checkQueuedTurn_accepted (hAccepted : library.Accepted payload)
    (event : RuntimeEvent) : checkQueuedTurn library event payload = .ok () := by
  obtain ⟨hDefer, hNetwork, hYolo, hSandbox⟩ := library.flags payload hAccepted
  obtain ⟨mode, profile, hMode, hProfile⟩ := library.modes payload hAccepted
  simp only [checkQueuedTurn, library.prompt payload hAccepted, hMode, hProfile,
    library.contract payload hAccepted, library.budget payload hAccepted, hDefer, hNetwork, hYolo,
    hSandbox]
  split_ifs <;> rfl

/- A turn as it was recorded. -/
def AcceptedTurn (library : PromptLibrary) (turn : RecoveredPendingTurn) : Prop :=
  library.Accepted turn.payload ∧ turn.steer = flag turn.payload "steer"

/- An event with an accepted payload holds its turn. -/
theorem recoveredPendingTurnFromEvent_ok (hTurn : event.turnId = some turnId)
    (hPayload : event.payload.get "payload" = some payload) (hAccepted : library.Accepted payload) :
    ∃ turn, recoveredPendingTurnFromEvent library event = .ok turn ∧
      turn.turnId = turnId ∧ turn.sequenceNo = event.sequenceNo ∧ turn.payload = payload ∧
      AcceptedTurn library turn := by
  unfold recoveredPendingTurnFromEvent
  simp only [hTurn, hPayload, requireTurn, bind, Except.bind,
    checkQueuedTurn_accepted hAccepted event]
  exact ⟨_, rfl, rfl, rfl, rfl, hAccepted, rfl⟩

/- A payload is known for each turn that may start. -/
def SurfaceState.knownPayload (state : SurfaceState)
    (transferred : PendingTurns) (turnId : TurnId) : Option Json.Value :=
  (state.queuedPayloads turnId).or ((transferred.find? turnId).map RecoveredPendingTurn.payload)

/- The host accepts the payload that is there. -/
def AcceptedPayload (library : PromptLibrary) (payload : Option Json.Value) : Prop :=
  ∃ known, payload = some known ∧ library.Accepted known

/- The payloads of the pending turns were all accepted. -/
structure KnownView (library : PromptLibrary)
    (transferred pending : PendingTurns) (state : SurfaceState) : Prop where
  accepted : ∀ turn ∈ pending.rows, AcceptedTurn library turn
  known : ∀ turn ∈ pending.rows, AcceptedPayload library
      (state.knownPayload transferred turn.turnId)

/- And while one is pending the settings are known. -/
structure GoodView (library : PromptLibrary)
    (transferred pending : PendingTurns) (state : SurfaceState) : Prop
    extends KnownView library transferred pending state where
  ready : pending.rows ≠ [] → AcceptedPayload library state.payload

namespace GoodView

variable {state' : SurfaceState}

theorem of_nil (hNone : pending.rows = []) : GoodView library transferred pending state := by
  refine ⟨⟨?_, ?_⟩, ?_⟩
  · rw [hNone]
    exact fun _ hTurn => by cases hTurn
  · rw [hNone]
    exact fun _ hTurn => by cases hTurn
  · exact fun hSome => absurd hNone hSome

theorem same (hGood : GoodView library transferred pending state)
    (hPayload : state'.payload = state.payload)
    (hQueued : state'.queuedPayloads = state.queuedPayloads) :
    GoodView library transferred pending state' := by
  refine ⟨⟨?_, ?_⟩, ?_⟩
  · exact hGood.accepted
  · unfold SurfaceState.knownPayload
    rw [hQueued]
    exact hGood.known
  · rw [hPayload]
    exact hGood.ready

end GoodView

namespace KnownView

variable {state' : SurfaceState}

/- A turn that is queued or updated brings its payload. -/
theorem put (hKnown : KnownView library transferred pending state)
    (hReady : AcceptedPayload library state.payload) {turn : RecoveredPendingTurn}
    (hAccepted : AcceptedTurn library turn) :
    GoodView library transferred (pending.put turn) { state with
        queuedPayloads := Function.update state.queuedPayloads turn.turnId
            (some turn.payload) } := by
  refine ⟨⟨?_, ?_⟩, ?_⟩
  · intro other hOther
    rcases Table.mem_put.1 hOther with ⟨hOld, -⟩ | rfl
    · exact hKnown.accepted other hOld
    · exact hAccepted
  · intro other hOther
    rcases Table.mem_put.1 hOther with ⟨hOld, hKey⟩ | rfl
    · simp only [SurfaceState.knownPayload]
      rw [Function.update_of_ne hKey]
      exact hKnown.known other hOld
    · refine ⟨other.payload, ?_, hAccepted.1⟩
      simp [SurfaceState.knownPayload]
  · exact fun _ => hReady

/- A turn that starts or is cancelled is no longer pending. -/
theorem delete (hKnown : KnownView library transferred pending state) (turnId : TurnId)
    (hQueued : state'.queuedPayloads = Function.update state.queuedPayloads turnId none)
    (hReady : pending.rows ≠ [] → AcceptedPayload library state'.payload) :
    GoodView library transferred (pending.delete turnId) state' := by
  refine ⟨⟨?_, ?_⟩, ?_⟩
  · intro turn hTurn
    exact hKnown.accepted turn (Table.mem_delete.1 hTurn).1
  · intro turn hTurn
    obtain ⟨hOld, hKey⟩ := Table.mem_delete.1 hTurn
    unfold SurfaceState.knownPayload
    rw [hQueued, Function.update_of_ne hKey]
    exact hKnown.known turn hOld
  · intro hSome
    apply hReady
    intro hNone
    apply hSome
    simp [Table.delete, hNone]

end KnownView

namespace TaskView

section

variable (hView : TaskView library log taskId transferred pending state)
include hView

section

variable (hGood : GoodView library transferred pending state)
include hGood

theorem queue (hReady : AcceptedPayload library state.payload) (hTask : event.taskId = some taskId)
    (hType : event.eventType = .turnQueued) (hTurn : event.turnId = some turnId)
    (hPayload : event.payload.get "payload" = some payload) (hAccepted : library.Accepted payload) :
    ∃ turn state', TaskView library (log ++ [event]) taskId transferred (pending.put turn) state' ∧
      GoodView library transferred (pending.put turn) state' ∧
      AcceptedPayload library state'.payload ∧ turn.turnId = turnId ∧
      turn.sequenceNo = event.sequenceNo := by
  obtain ⟨turn, hDecode, rfl, hPlace, rfl, hTurnOk⟩ :=
    recoveredPendingTurnFromEvent_ok hTurn hPayload hAccepted
  have hTransfer : isPendingTransferEvent event = false := by simp [isPendingTransferEvent, hTurn]
  refine ⟨turn, _, hView.append hTask hTransfer ?_ ?_,
    hGood.toKnownView.put hReady hTurnOk, hReady, rfl, hPlace⟩
  · simp only [pendingEvent, hType, hTransfer, hDecode]
    rfl
  · simp [surfaceEvent, hType, surfaceEvent.queuePayload, hTurn, hPayload]

theorem update (hReady : AcceptedPayload library state.payload) (hTask : event.taskId = some taskId)
    (hType : event.eventType = .turnUpdated) (hTurn : event.turnId = some turnId)
    (hPayload : event.payload.get "payload" = some payload) (hAccepted : library.Accepted payload)
    (hPending : turnId ∈ pending.turnIds) :
    ∃ original ∈ pending.rows, ∃ turn state', TaskView library (log ++ [event]) taskId transferred
        (pending.put turn) state' ∧
      GoodView library transferred (pending.put turn) state' ∧
      AcceptedPayload library state'.payload ∧
      turnPlace turn = turnPlace original ∧ turn.turnId = turnId := by
  obtain ⟨original, hOriginal, rfl⟩ := List.mem_map.1 hPending
  obtain ⟨turn, hDecode, hSame, -, rfl, hTurnOk⟩ :=
    recoveredPendingTurnFromEvent_ok hTurn hPayload hAccepted
  have hFind : pending.find? turn.turnId = some original :=
    Table.find?_eq_some_iff.2 ⟨hOriginal, hSame.symm⟩
  have hKind : event.eventType ≠ .turnQueued := by simp [hType]
  refine ⟨original, hOriginal, { turn with
      sequenceNo := original.sequenceNo
      actor := original.actor }, _,
    hView.append hTask (isPendingTransferEvent_of_type hKind) ?_ ?_,
    hGood.toKnownView.put hReady hTurnOk, hReady, ?_, hSame⟩
  · simp only [pendingEvent, hType, hDecode, bind, Except.bind, updatePending, hFind]
    rfl
  · simp [surfaceEvent, hType, surfaceEvent.queuePayload, hTurn, hPayload, hSame]
  · simp [turnPlace, hSame]

theorem cancel (hTask : event.taskId = some taskId) (hType : event.eventType = .turnCancelled)
    (hTurn : event.turnId = some turnId) :
    ∃ state', TaskView library (log ++ [event]) taskId transferred (pending.delete turnId) state' ∧
      GoodView library transferred (pending.delete turnId) state' ∧
      state'.payload = state.payload := by
  have hKind : event.eventType ≠ .turnQueued := by simp [hType]
  refine ⟨{ state with queuedPayloads := Function.update state.queuedPayloads turnId none },
    hView.append hTask (isPendingTransferEvent_of_type hKind) ?_ ?_,
    hGood.toKnownView.delete turnId rfl hGood.ready, rfl⟩
  · simp [pendingEvent, hType, pendingEvent.removeTurn, hTurn]
  · simp [surfaceEvent, hType, hTurn]

end

end

/- A steer is an object, and what it takes over can be read. -/
theorem inheritSurface_ok {active steering : Json.Value} (hActive : library.Accepted active)
    (hSteering : library.Accepted steering) (hSteer : flag steering "steer" = true) :
    ∃ merged, inheritSurface library active steering = .ok merged ∧ library.Accepted merged := by
  obtain ⟨mode, profile, hMode, hProfile⟩ := library.modes active hActive
  obtain ⟨-, contract, hContract⟩ := library.contract active hActive
  have hObject : steering.isObject = true := by
    cases steering <;> simp_all [flag, Json.Value.get, Json.Value.isObject]
  have hMerged : ∃ merged, inheritSteeringExecutionSurface library.taskContract active steering =
      .ok merged := by
    simp [inheritSteeringExecutionSurface, hMode, hProfile, hContract, hObject, Except.mapError,
      bind, Except.bind, pure, Except.pure]
  obtain ⟨merged, hMerged⟩ := hMerged
  refine ⟨merged, ?_, library.merged _ _ _ hActive hSteering hSteer hMerged⟩
  rw [inheritSurface, hMerged]
  rfl

/- A steer that is not restarted needs a turn to steer. -/
theorem startSurface_ok (hPayload : startedPayload state transferred turnId event = .ok payload)
    (hAccepted : library.Accepted payload)
    (hReady : isRestartedTurn event = true ∨ AcceptedPayload library state.payload) :
    ∃ state', startSurface library transferred state turnId event = .ok state' ∧
      AcceptedPayload library state'.payload ∧ state'.queuedPayloads =
        Function.update state.queuedPayloads turnId none := by
  unfold startSurface
  simp only [hPayload, bind, Except.bind]
  split
  · rename_i hSteer
    have hActive : AcceptedPayload library state.payload := by
      rcases hReady with hRestarted | hActive
      · simp [hRestarted] at hSteer
      · exact hActive
    obtain ⟨current, hCurrent, hCurrentOk⟩ := hActive
    obtain ⟨surface, hSurface, rfl⟩ := Option.map_eq_some_iff.1 hCurrent
    obtain ⟨merged, hMerged, hMergedOk⟩ := inheritSurface_ok hCurrentOk hAccepted
      (Bool.and_eq_true_iff.1 hSteer).1
    simp only [hSurface, steerSurface, hMerged]
    exact ⟨_, rfl, ⟨merged, rfl, hMergedOk⟩, rfl⟩
  · exact ⟨_, rfl, ⟨payload, rfl, hAccepted⟩, rfl⟩

theorem start (hView : TaskView library log taskId transferred pending state)
    (hKnown : KnownView library transferred pending state)
    (hReady : isRestartedTurn event = true ∨ AcceptedPayload library state.payload)
    (hTask : event.taskId = some taskId) (hType : event.eventType = .turnStarted)
    (hTurn : event.turnId = some turnId)
    (hPayload : startedPayload state transferred turnId event = .ok payload)
    (hAccepted : library.Accepted payload) :
    ∃ state', TaskView library (log ++ [event]) taskId transferred (pending.delete turnId) state' ∧
      GoodView library transferred (pending.delete turnId) state' ∧
      AcceptedPayload library state'.payload := by
  have hKind : event.eventType ≠ .turnQueued := by simp [hType]
  obtain ⟨state', hStart, hReady', hQueued⟩ := startSurface_ok hPayload hAccepted hReady
  refine ⟨state', hView.append hTask (isPendingTransferEvent_of_type hKind) ?_ ?_,
    hKnown.delete turnId hQueued (fun _ => hReady'), hReady'⟩
  · simp [pendingEvent, hType, pendingEvent.removeTurn, hTurn]
  · simp [surfaceEvent, hType, hTurn, hStart]

end TaskView

def sortTurns (turns : List RecoveredPendingTurn) : List RecoveredPendingTurn :=
  turns.insertionSort (fun first second => first.sequenceNo ≤ second.sequenceNo)

theorem materializeRecoveredLeadingSteer_ok {surface : RecoveredActiveTurnSurface}
    {steering : Json.Value} (hSurface : library.Accepted surface.payload)
    (hSteering : library.Accepted steering) (hSteer : flag steering "steer" = true)
    (recoveredAt : Timestamp) :
    ∃ merged, materializeRecoveredLeadingSteer library surface recoveredAt steering = .ok merged ∧
      library.Accepted merged := by
  obtain ⟨merged, hMerged, hAccepted⟩ := TaskView.inheritSurface_ok hSurface hSteering hSteer
  have hBudget := library.budget _ hSurface
  simp only [materializeRecoveredLeadingSteer, hMerged]
  split
  · exact ⟨_, rfl, library.removeBudget _ hAccepted⟩
  · exact ⟨_, rfl, library.removeBudget _ hAccepted⟩
  · rename_i value hNull hValue
    have hAny : value.asU64.any (fun budget => 0 < budget) = true := by
      cases value <;> simp_all [hasValidBudget]
    cases hRead : value.asU64 with
    | none => simp [hRead] at hAny
    | some budget =>
      have hPositive : 0 < budget := by simpa [hRead] using hAny
      simp only [Option.filter_some, hPositive]
      exact ⟨_, rfl, library.setBudget _ _ hAccepted (by omega)⟩

variable {turns : List RecoveredPendingTurn}

theorem leadPendingTurns_ok {surface : Option RecoveredActiveTurnSurface}
    (hTurns : ∀ turn ∈ turns, AcceptedTurn library turn)
    (hReady : turns ≠ [] → AcceptedPayload library (surface.map RecoveredActiveTurnSurface.payload))
    (continuation : Option RecoveredTaskContinuation) (recoveredAt : Timestamp) :
    ∃ led, leadPendingTurns library surface continuation recoveredAt turns = .ok led ∧
      led.map turnPlace = turns.map turnPlace ∧ ∀ turn ∈ led, library.Accepted turn.payload := by
  cases turns with
  | nil => exact ⟨[], rfl, rfl, fun _ hTurn => by cases hTurn⟩
  | cons first rest =>
    obtain ⟨⟨hFirst, hFlag⟩, hRest⟩ := List.forall_mem_cons.1 hTurns
    have hOthers : ∀ turn ∈ rest, library.Accepted turn.payload :=
      fun turn hTurn => (hRest turn hTurn).1
    simp only [leadPendingTurns]
    split
    · rename_i hSteer
      have hSteer := hFlag.symm.trans (Bool.and_eq_true_iff.1 hSteer).1
      obtain ⟨payload, hPayload, hAccepted⟩ := hReady (List.cons_ne_nil _ _)
      obtain ⟨current, rfl, rfl⟩ := Option.map_eq_some_iff.1 hPayload
      obtain ⟨merged, hMerged, hMergedOk⟩ :=
        materializeRecoveredLeadingSteer_ok hAccepted hFirst hSteer recoveredAt
      simp only [hMerged]
      exact ⟨_, rfl, rfl, List.forall_mem_cons.2 ⟨hMergedOk, hOthers⟩⟩
    · exact ⟨_, rfl, rfl, List.forall_mem_cons.2 ⟨hFirst, hOthers⟩⟩

/- Turns are recovered only with the continuation of their task. -/
theorem continuation_of_recoverable {recoveredAt : Timestamp}
    (hTurns : recoverablePendingTurns library recoveredAt log (some taskId) = .ok turns) :
    ∃ continuation, recoveredTaskContinuation library (taskEvents log taskId) recoveredAt =
      .ok continuation := by
  rcases bind_eq_ok.mp hTurns with ⟨_, -, hTurns⟩
  rcases bind_eq_ok.mp hTurns with ⟨_, -, hTurns⟩
  rcases bind_eq_ok.mp hTurns with ⟨continuation, hContinuation, -⟩
  exact ⟨continuation, mapError_eq_ok.mp hContinuation⟩

/- A good view gives all its turns, in their order. -/
theorem TaskView.recoverable (hView : TaskView library log taskId transferred pending state)
    (hGood : GoodView library transferred pending state) {recoveredAt : Timestamp}
    {continuation : Option RecoveredTaskContinuation}
    (hContinuation : recoveredTaskContinuation library (taskEvents log taskId) recoveredAt =
      .ok continuation) :
    ∃ turns, recoverablePendingTurns library recoveredAt log (some taskId) = .ok turns ∧
      turns.map turnPlace = (sortTurns pending.rows).map turnPlace ∧
      ∀ turn ∈ turns, library.Accepted turn.payload := by
  have hSorted : ∀ turn ∈ sortTurns pending.rows, AcceptedTurn library turn := by
    intro turn hTurn
    exact hGood.accepted turn ((List.mem_insertionSort _).1 hTurn)
  have hReady : sortTurns pending.rows ≠ [] → AcceptedPayload library (state.active.map
        RecoveredActiveTurnSurface.payload) := by
    intro hSome
    apply hGood.ready
    intro hNone
    apply hSome
    simp [sortTurns, hNone]
  obtain ⟨led, hLed, hPlaces, hAccepted⟩ :=
    leadPendingTurns_ok hSorted hReady continuation recoveredAt
  refine ⟨led, ?_, hPlaces, hAccepted⟩
  simp only [recoverablePendingTurns, hView.transfers, bind,
    Except.bind, recoveredActiveTurnSurface, hContinuation]
  rw [show List.foldlM _ _ _ = _ from hView.surfaces]
  rw [show List.foldlM _ _ _ = _ from hView.pendings]
  exact hLed

theorem inlineRecoveredPendingEvent_ok (library : PromptLibrary)
    (source : RuntimeEvent) (turn : RecoveredPendingTurn) :
    ∃ event, inlineRecoveredPendingEvent library source (transferredTurn turn) = .ok event ∧
      event.turnId = some turn.turnId ∧ event.sequenceNo = turn.sequenceNo ∧
      event.payload.get "payload" = some turn.payload := by
  have hTurn : transferTurnId (transferredTurn turn) = .ok turn.turnId := by
    simp [transferTurnId, transferredTurn, Json.lookup]
  simp only [inlineRecoveredPendingEvent, hTurn]
  exact ⟨_, rfl, rfl, rfl, by simp [Json.lookup]⟩

/- An entry of a transfer is read back as its turn. -/
theorem transferEntry_ok {turn : RecoveredPendingTurn} (hAccepted : library.Accepted turn.payload)
    (source : RuntimeEvent) (transferred : PendingTurns) :
    ∃ row, transferEntry library source transferred
        (transferredTurn turn) = .ok (transferred.put row) ∧
      turnPlace row = turnPlace turn ∧ AcceptedTurn library row := by
  obtain ⟨event, hEvent, hTurn, hPlace, hPayload⟩ :=
    inlineRecoveredPendingEvent_ok library source turn
  obtain ⟨row, hRow, hRowTurn, hRowPlace, -, hRowOk⟩ :=
    recoveredPendingTurnFromEvent_ok hTurn hPayload hAccepted
  refine ⟨row, ?_, ?_, hRowOk⟩
  · simp only [transferEntry, hEvent, hRow, bind, Except.bind]
    rfl
  · rw [turnPlace, hRowTurn, hRowPlace, hPlace]
    rfl

/- All entries are, if no turn is in the transfer twice. -/
theorem transferEntries_ok (hAccepted : ∀ turn ∈ turns, library.Accepted turn.payload)
    (source : RuntimeEvent) (transferred : PendingTurns)
    (hDistinct : ((transferred.rows ++ turns).map RecoveredPendingTurn.turnId).Nodup)
    (hOld : ∀ row ∈ transferred.rows, AcceptedTurn library row) :
    ∃ result, (turns.map transferredTurn).foldlM
        (transferEntry library source) transferred = .ok result ∧
      result.rows.map turnPlace = (transferred.rows ++ turns).map turnPlace ∧
      ∀ row ∈ result.rows, AcceptedTurn library row := by
  induction turns generalizing transferred with
  | nil => exact ⟨transferred, rfl, by simp, hOld⟩
  | cons turn turns ih =>
    rw [List.forall_mem_cons] at hAccepted
    obtain ⟨row, hRow, hPlace, hRowOk⟩ := transferEntry_ok hAccepted.1 source transferred
    have hTurn : row.turnId = turn.turnId := congrArg Prod.fst hPlace
    have hFresh : transferred.find? row.turnId = none := by
      rw [Table.find?_eq_none_iff, hTurn]
      intro other hOther hSame
      rw [List.map_append] at hDistinct
      exact List.disjoint_of_nodup_append hDistinct (List.mem_map_of_mem hOther) (by simp [hSame])
    have hRows := Table.rows_put_of_fresh hFresh
    have hPut : ∀ other ∈ (transferred.put row).rows, AcceptedTurn library other := by
      intro other hOther
      rcases Table.mem_put.1 hOther with ⟨hIn, -⟩ | rfl
      · exact hOld other hIn
      · exact hRowOk
    have hKeys : (((transferred.put row).rows ++ turns).map RecoveredPendingTurn.turnId).Nodup := by
      rw [hRows]
      simpa [hTurn] using hDistinct
    obtain ⟨result, hResult, hPlaces, hAll⟩ := ih hAccepted.2 (transferred.put row) hKeys hPut
    refine ⟨result, ?_, ?_, hAll⟩
    · rw [List.map_cons, List.foldlM_cons, hRow]
      exact hResult
    · rw [hPlaces, hRows]
      simp [hPlace]

/- The event that queued a turn is found by its number. -/
def QueuedIn (library : PromptLibrary) (log : List RuntimeEvent)
    (turn : RecoveredPendingTurn) : Prop :=
  ∃ found row, log.find? (·.sequenceNo = turn.sequenceNo) = some found ∧
    recoveredPendingTurnFromEvent library found = .ok row ∧ row.turnId = turn.turnId

/- References to turns that are there already add nothing. -/
theorem transferReferences_known {transferred : PendingTurns} {sequenceNos : List Nat}
    (hKnown : ∀ sequenceNo ∈ sequenceNos, ∃ found row,
      log.find? (·.sequenceNo = sequenceNo) = some found ∧
      recoveredPendingTurnFromEvent library found = .ok row ∧ transferred.find? row.turnId ≠ none) :
    sequenceNos.foldlM (transferReference library log) transferred = .ok transferred := by
  induction sequenceNos with
  | nil => rfl
  | cons sequenceNo sequenceNos ih =>
    rw [List.forall_mem_cons] at hKnown
    obtain ⟨found, row, hFind, hDecode, hRow⟩ := hKnown.1
    have hReference : transferReference library log transferred sequenceNo = .ok transferred := by
      simp only [transferReference, hFind, hDecode, bind,
        Except.bind, Table.insert?_eq_none_iff.2 hRow]
      rfl
    rw [List.foldlM_cons, hReference]
    exact ih hKnown.2

section

variable (library) (turns) (sessionId : SessionId) (context : EventContext) (taskId : TaskId)

theorem pendingTransferEvent_sequenceNos : (pendingTransferEvent library sessionId context taskId
      turns).payload.get recoveredSequenceNosKey = some (.array (turns.map (fun turn =>
          .number (.posInt turn.sequenceNo)))) := by
  rfl

theorem pendingTransferEvent_turns : (pendingTransferEvent library sessionId context taskId
      turns).payload.get recoveredPendingTurnsKey = some (.array (turns.map transferredTurn)) := by
  rfl

theorem isPendingTransferEvent_transfer : isPendingTransferEvent (pendingTransferEvent library
      sessionId context taskId turns) = true := by
  rw [isPendingTransferEvent, pendingTransferEvent_sequenceNos]
  rfl

theorem referencedSequenceNos_transfer : referencedSequenceNos (pendingTransferEvent library
      sessionId context taskId turns) = turns.map RecoveredPendingTurn.sequenceNo := by
  rw [referencedSequenceNos, pendingTransferEvent_sequenceNos]
  simp [asArray, Function.comp_def, asU64]

end

/- What is read back from a transfer is what it moves. -/
theorem transferEvent_transfer (hAccepted : ∀ turn ∈ turns, library.Accepted turn.payload)
    (hDistinct : (turns.map RecoveredPendingTurn.turnId).Nodup)
    (hFound : ∀ turn ∈ turns, QueuedIn library log turn) (sessionId : SessionId)
    (context : EventContext) (taskId : TaskId) :
    ∃ pending : PendingTurns, transferEvent library log .empty
        (pendingTransferEvent library sessionId context taskId turns) = .ok pending ∧
      pending.rows.map turnPlace = turns.map turnPlace ∧
      ∀ row ∈ pending.rows, AcceptedTurn library row := by
  obtain ⟨pending, hPending, hPlaces, hRows⟩ :=
    transferEntries_ok hAccepted
      (pendingTransferEvent library sessionId context taskId turns) .empty
      (by exact hDistinct) (fun _ hRow => by cases hRow)
  refine ⟨pending, ?_, hPlaces, hRows⟩
  have hReferences : (turns.map RecoveredPendingTurn.sequenceNo).foldlM
        (transferReference library log) pending = .ok pending := by
    apply transferReferences_known
    intro sequenceNo hReference
    obtain ⟨turn, hTurn, rfl⟩ := List.mem_map.1 hReference
    obtain ⟨found, row, hFind, hDecode, hSame⟩ := hFound turn hTurn
    refine ⟨found, row, hFind, hDecode, ?_⟩
    have hPlace : turnPlace turn ∈ pending.rows.map turnPlace := by
      rw [hPlaces]
      exact List.mem_map_of_mem hTurn
    obtain ⟨kept, hKept, hKeptPlace⟩ := List.mem_map.1 hPlace
    have hKey : kept.turnId = row.turnId := (congrArg Prod.fst hKeptPlace).trans hSame.symm
    rw [Table.find?_eq_some_iff.2 ⟨hKept, hKey⟩]
    exact Option.some_ne_none kept
  have hNumbers := referencedSequenceNos_transfer library turns sessionId context taskId
  simp only [transferEvent, pendingTransferEvent_turns, Option.bind_some, asArray, Option.getD_some]
  rw [hPending]
  rw [← hNumbers] at hReferences
  exact hReferences

/- A transfer gives its new task the turns that it moves. -/
theorem TaskView.transfer (hNew : isNewTask log taskId = true)
    (hAccepted : ∀ turn ∈ turns, library.Accepted turn.payload)
    (hDistinct : (turns.map RecoveredPendingTurn.turnId).Nodup)
    (hFound : ∀ turn ∈ turns, QueuedIn library log turn) (context : EventContext) :
    ∃ pending : PendingTurns, TaskView library (log ++ [pendingTransferEvent library sessionId
          context taskId turns]) taskId pending pending
        ⟨none, fun _ => none⟩ ∧
      KnownView library pending pending ⟨none, fun _ => none⟩ ∧
      pending.rows.map turnPlace = turns.map turnPlace := by
  have hTransfer := isPendingTransferEvent_transfer library turns sessionId context taskId
  have hNumbers := referencedSequenceNos_transfer library turns sessionId context taskId
  -- the turns are found by the events that queued them
  have hReferences : ∀ sequenceNo ∈ referencedSequenceNos
      (pendingTransferEvent library sessionId context taskId turns), IsLogged log sequenceNo := by
    rw [hNumbers]
    intro sequenceNo hReference
    obtain ⟨turn, hTurn, rfl⟩ := List.mem_map.1 hReference
    obtain ⟨found, row, hFind, -⟩ := hFound turn hTurn
    exact ⟨found, hFind⟩
  obtain ⟨pending, hPending, hPlaces, hRows⟩ := transferEvent_transfer hAccepted hDistinct hFound
      sessionId context taskId
  have hEvents : taskEvents (log ++ [pendingTransferEvent
      library sessionId context taskId turns]) taskId =
        [pendingTransferEvent library sessionId context taskId turns] := by
    rw [taskEvents_append_self rfl, taskEvents_new hNew]
    rfl
  refine ⟨pending, ⟨?_, ?_, ?_, ?_⟩, ⟨hRows, ?_⟩, hPlaces⟩
  · intro other hOther _ sequenceNo hReference
    rw [hEvents, List.mem_singleton] at hOther
    rw [hOther] at hReference
    exact (hReferences sequenceNo hReference).append _
  · rw [hEvents, recoverableTransferTurns, List.filter_cons_of_pos hTransfer,
      List.foldlM_cons, transferEvent_extend hReferences, hPending]
    rfl
  · rw [hEvents]
    rfl
  · rw [hEvents]
    rfl
  · intro row hRow
    have hFind : pending.find? row.turnId = some row := Table.find?_eq_some_iff.2 ⟨hRow, rfl⟩
    exact ⟨row.payload, by
      simp [SurfaceState.knownPayload, hFind], (hRows row hRow).1⟩

end GolutraAgent.Client
