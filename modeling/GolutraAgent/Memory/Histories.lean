import GolutraAgent.Library.Machine
import GolutraAgent.Memory.Snapshots

/-
  This file runs the memory store: calls one after the other, time passing
  between them, and the store opened anew from its file. The run notes which
  memories were activated and which were invalidated. What every call does to
  the records that the store holds is said once, by `step_leaves`.
-/

namespace GolutraAgent.Memory

inductive MemoryEvent
| activated (memoryId : MemoryId)
| invalidated (memoryId : MemoryId)

namespace MemoryEvent

def memoryId : MemoryEvent → MemoryId
| activated memoryId => memoryId
| invalidated memoryId => memoryId

def activates : MemoryEvent → Bool
| activated _ => true
| invalidated _ => false

end MemoryEvent

variable (history : List MemoryEvent)

/-
  The last successful activation of a memory was not followed by an
  invalidation.
-/
def standing (memoryId : MemoryId) : Bool := history.foldl (fun stands event =>
    if event.memoryId = memoryId then event.activates
    else stands) false

@[simp] theorem standing_append (event : MemoryEvent) (memoryId : MemoryId) :
    standing (history ++ [event]) memoryId = if event.memoryId = memoryId then event.activates
      else standing history memoryId := by
  simp [standing]

theorem standing_of_absent {history : List MemoryEvent} {memoryId : MemoryId}
    (hAbsent : ∀ event ∈ history, event.memoryId ≠ memoryId) :
    standing history memoryId = false := by
  induction history using List.reverseRecOn with
  | nil => rfl
  | append_singleton history event ih =>
    have hEvent := hAbsent event (by simp)
    rw [standing_append, if_neg hEvent]
    exact ih (fun event hMem => hAbsent event (List.mem_append_left _ hMem))

theorem standing_activations (ids : List MemoryId) (memoryId : MemoryId) :
    standing (ids.map .activated) memoryId = decide (memoryId ∈ ids) := by
  induction ids using List.reverseRecOn with
  | nil => rfl
  | append_singleton ids last ih =>
    rw [List.map_append, List.map_singleton, standing_append, ih]
    by_cases hLast : last = memoryId
    · simp [MemoryEvent.memoryId, MemoryEvent.activates, hLast]
    · simp [MemoryEvent.memoryId, hLast, Ne.symm hLast]

structure MemoryWorld where
  store : MemoryStore
  now : Timestamp
  history : List MemoryEvent

inductive MemoryCall
| list
| quarantine (memoryId : MemoryId) (candidateId : MemoryCandidateId) (candidate : MemoryCandidate)
    (content : String)
| activate (memoryId : MemoryId) (supportingTaskIds : List TaskId) (reviewer : Option String)
    (humanApproved : Bool)
| feedback (memoryId : MemoryId) (feedback : MemoryFeedbackKind) (reason : String)
| rollback (memoryId : MemoryId) (reason : String)
| expire (memoryId : MemoryId)
| retrieve (query : String) (scope : MemoryScope) (limit : Nat)
| reopen
| wait (nanos : Nat)

/- A call, and the time that a file it writes is given. -/
structure MemoryOp where
  call : MemoryCall
  modifiedNanos : Nat := 0

namespace MemoryWorld

/- An operation ended; its event is noted if it succeeded. -/
def after {α : Type} (world : MemoryWorld) (event : Option MemoryEvent)
    (outcome : Except MemoryError α × MemoryStore) : MemoryWorld :=
  { world with
    store := outcome.2
    history := world.history ++ (if outcome.1.isOk then event.toList else []) }

/- A store in memory cannot be opened again. -/
def reopened (store : MemoryStore) : MemoryStore :=
  match store.path with
  | none => store
  | some path => .new path store.file

def feedbackEvent (memoryId : MemoryId) : MemoryFeedbackKind → Option MemoryEvent
| .helpful => none
| .irrelevant => none
| .incorrect => some (.invalidated memoryId)

def step (library : MemoryLibrary) (world : MemoryWorld) (op : MemoryOp) : MemoryWorld :=
  match op.call with
  | .list => world.after none (world.store.list library world.now op.modifiedNanos)
  | .quarantine memoryId candidateId candidate content =>
    world.after none (world.store.quarantine library
      world.now op.modifiedNanos memoryId candidateId candidate content)
  | .activate memoryId supportingTaskIds reviewer humanApproved =>
    world.after (some (.activated memoryId)) (world.store.activateQuarantinedWithAuthority library
        world.now op.modifiedNanos memoryId supportingTaskIds reviewer humanApproved)
  | .feedback memoryId feedback reason =>
    world.after (feedbackEvent memoryId feedback)
      (world.store.recordFeedback library op.modifiedNanos memoryId feedback reason)
  | .rollback memoryId reason =>
    world.after (some (.invalidated memoryId))
      (world.store.rollback library op.modifiedNanos memoryId reason)
  | .expire memoryId =>
    world.after (some (.invalidated memoryId))
      (world.store.expire library op.modifiedNanos memoryId)
  | .retrieve query scope limit =>
    world.after none (world.store.retrieve library world.now query scope limit)
  | .reopen => { world with store := reopened world.store }
  | .wait nanos => { world with now := ⟨world.now.nanos + nanos⟩ }

/-
  A store has just been opened. The memories that its file says were activated
  count as such.
-/
def opened (store : MemoryStore) (now : Timestamp) : MemoryWorld :=
  { store
    now
    history := ((store.records.filter (fun record =>
      record.status = .active && !record.isLegacyAutomaticMemory)).map
          MemoryRecord.memoryId).map .activated }

end MemoryWorld

/- The records with another one for the first of a memory. -/
abbrev replaced (memoryId : MemoryId) (record : MemoryRecord) (records : List MemoryRecord) :
    List MemoryRecord :=
  KeyedList.modifyFirst MemoryRecord.memoryId memoryId (fun _ => record) records

/-
  What a call may do to the records, with the event that it leaves in the
  history.
-/
inductive Changes (library : MemoryLibrary) (now : Timestamp)
    (records : List MemoryRecord) : MemoryCall → List MemoryRecord → Option MemoryEvent → Prop
| same (call : MemoryCall) : Changes library now records call records none
| listed : Changes library now records .list (MemoryStore.listed now records) none
| quarantined {memoryId : MemoryId} {candidateId : MemoryCandidateId} {candidate : MemoryCandidate}
    {content : String} {changed : List MemoryRecord} {record : MemoryRecord}
    (hChange : library.quarantining now memoryId candidateId
      candidate content records = .ok (changed, record)) :
    Changes library now records (.quarantine memoryId candidateId candidate content) changed none
| activated {memoryId : MemoryId} {supportingTaskIds : List TaskId}
    {reviewer : Option String} {humanApproved : Bool} {record : MemoryRecord}
    (hFind : (upkeep now records).find? (·.memoryId = memoryId) = some record)
    (hQuarantined : record.status = .quarantined)
    (hSupported : record.supportedBy supportingTaskIds humanApproved) :
    Changes library now records (.activate memoryId supportingTaskIds reviewer humanApproved)
      (replaced memoryId (record.activated supportingTaskIds reviewer) (upkeep now records))
      (some (.activated memoryId))
| appraised {memoryId : MemoryId} {feedback : MemoryFeedbackKind}
    {reason : String} {record : MemoryRecord}
    (hFind : records.find? (·.memoryId = memoryId) = some record) :
    Changes library now records (.feedback memoryId feedback reason)
      (replaced memoryId (record.withFeedback feedback reason) records)
      (MemoryWorld.feedbackEvent memoryId feedback)
| rolledBack {memoryId : MemoryId} {reason : String} {record : MemoryRecord}
    (hFind : records.find? (·.memoryId = memoryId) = some record) :
    Changes library now records (.rollback memoryId reason)
      (replaced memoryId (record.rolledBack reason) records)
      (some (.invalidated memoryId))
| expired {memoryId : MemoryId} {record : MemoryRecord}
    (hFind : records.find? (·.memoryId = memoryId) = some record) :
    Changes library now records (.expire memoryId)
      (replaced memoryId record.explicitlyExpired records)
      (some (.invalidated memoryId))

/- What time a call leaves on the clock. -/
def MemoryCall.clock (now : Timestamp) : MemoryCall → Timestamp
| .wait nanos => ⟨now.nanos + nanos⟩
| _ => now

theorem MemoryWorld.clock_le (now : Timestamp) (call : MemoryCall) :
    now.nanos ≤ (call.clock now).nanos := by
  cases call <;> simp [MemoryCall.clock]

theorem expiredBy_later {now now' : Timestamp} {record : MemoryRecord}
    (hLater : now.nanos ≤ now'.nanos)
    (hExpired : record.expiredBy now = true) : record.expiredBy now' = true := by
  unfold MemoryRecord.expiredBy at hExpired ⊢
  cases hExpiry : record.expiresAt with
  | none => simp [hExpiry] at hExpired
  | some expiry =>
    simp only [hExpiry, Option.any_some, decide_eq_true_eq] at hExpired ⊢
    omega

namespace MemoryWorld

variable {library : MemoryLibrary} {records : List MemoryRecord} {world : MemoryWorld}
variable {changed : List MemoryRecord} {memoryId : MemoryId} {result : MemoryRecord}

theorem changeRecord_eq_ok {change : MemoryRecord → Except MemoryError MemoryRecord}
    (hChange : MemoryStore.changeRecord memoryId change records = .ok (changed, result)) :
    ∃ record, records.find? (·.memoryId = memoryId) = some record ∧
      change record = .ok result ∧ changed = replaced memoryId result records := by
  unfold MemoryStore.changeRecord at hChange
  cases hFind : records.find? (·.memoryId = memoryId) with
  | none =>
    rw [hFind] at hChange
    cases hChange
  | some record =>
    simp only [hFind] at hChange
    cases hResult : change record with
    | error error =>
      rw [hResult] at hChange
      cases hChange
    | ok result =>
      rw [hResult] at hChange
      cases hChange
      exact ⟨record, rfl, hResult, rfl⟩

theorem activate_eq_ok {supportingTaskIds : List TaskId} {reviewer : Option String}
    {humanApproved : Bool} {record result : MemoryRecord}
    (hActivate : record.activate supportingTaskIds reviewer humanApproved = .ok result) :
    record.status = .quarantined ∧ record.supportedBy supportingTaskIds humanApproved ∧
      result = record.activated supportingTaskIds reviewer := by
  unfold MemoryRecord.activate at hActivate
  by_cases hStatus : record.status = .quarantined
  · rw [if_neg (not_not_intro hStatus)] at hActivate
    cases hSupported : record.supportedBy supportingTaskIds humanApproved with
    | false => simp [hSupported] at hActivate
    | true =>
      simp only [hSupported] at hActivate
      cases hActivate
      exact ⟨hStatus, rfl, rfl⟩
  · rw [if_pos hStatus] at hActivate
    cases hActivate

theorem quarantining_eq_ok {now : Timestamp} {candidateId : MemoryCandidateId}
    {candidate : MemoryCandidate} {content : String}
    (hOk : library.quarantining now memoryId candidateId
      candidate content records = .ok (changed, result)) :
    ∃ expiresAt, result = library.quarantinedRecord now memoryId
        candidateId candidate content expiresAt (upkeep now records) ∧
      changed = upkeep now records ++ [result] := by
  dsimp only [MemoryLibrary.quarantining] at hOk
  split at hOk
  · cases hOk
  · cases hExpiry : library.candidateExpiry candidate now with
    | error error =>
      rw [hExpiry] at hOk
      cases hOk
    | ok expiresAt =>
      rw [hExpiry] at hOk
      cases hOk
      exact ⟨expiresAt, rfl, rfl⟩

/- What an operation leaves, whatever it is. -/
structure Leaves (library : MemoryLibrary) (records : List MemoryRecord)
    (call : MemoryCall) (world next : MemoryWorld) : Prop where
  changes : ∃ changed event, Changes library world.now records call changed event ∧
    next.store.Holds library changed ∧
    next.history = world.history ++ event.toList
  clock : next.now = call.clock world.now

/- An edit of the store, as a change of what it holds. -/
theorem after_edit {change : List MemoryRecord →
      Except MemoryError (List MemoryRecord × MemoryRecord)}
    {modifiedNanos : Nat} {call : MemoryCall} {event : Option MemoryEvent}
    (hHolds : world.store.Holds library records) (hClock : world.now = call.clock world.now)
    (hChange : ∀ changed record, change records = .ok (changed, record) →
        Changes library world.now records call changed event) :
    Leaves library records call world (world.after event
      (world.store.edit library modifiedNanos change)) := by
  refine ⟨?_, hClock⟩
  rcases @MemoryStore.edit_holds _ _ _ hHolds change modifiedNanos with
    ⟨error, next, hEdit, hNext⟩ |
    ⟨changed, record, next, hOk, hEdit, hNext⟩
  · rw [hEdit]
    exact ⟨records, none, .same call, hNext, rfl⟩
  · rw [hEdit]
    exact ⟨changed, event, hChange changed record hOk, hNext, rfl⟩

theorem after_alter {memoryId : MemoryId} {change : MemoryRecord → MemoryRecord}
    {modifiedNanos : Nat} {call : MemoryCall} {event : Option MemoryEvent}
    (hHolds : world.store.Holds library records) (hClock : world.now = call.clock world.now)
    (hChange : ∀ record, records.find? (·.memoryId = memoryId) = some record →
      Changes library world.now records call (replaced memoryId (change record) records) event) :
    Leaves library records call world (world.after event
      (world.store.alter library modifiedNanos memoryId change)) := by
  refine after_edit hHolds hClock ?_
  intro changed result hOk
  obtain ⟨record, hFind, hResult, rfl⟩ := changeRecord_eq_ok hOk
  cases hResult
  exact hChange record hFind

theorem reopened_holds {store : MemoryStore}
    (hHolds : store.Holds library records) : (reopened store).Holds library records := by
  unfold reopened
  cases hPath : store.path with
  | none => exact hHolds
  | some path =>
    have hHeld := hHolds.held
    refine ⟨?_, nofun, nofun, hHolds.loadable⟩
    unfold MemoryStore.records at hHeld
    rw [hPath] at hHeld
    exact hHeld

/- What one operation does, whatever it is. -/
theorem step_leaves (op : MemoryOp) (hHolds : world.store.Holds library records) :
    Leaves library records op.call world (step library world op) := by
  obtain ⟨call, modifiedNanos⟩ := op
  cases call with
  | list =>
    refine ⟨?_, rfl⟩
    rcases @MemoryStore.list_holds _ _ _ world.now modifiedNanos hHolds with
      ⟨error, next, hList, hNext⟩ | ⟨next, hList, hNext⟩
    · simp only [step, hList]
      exact ⟨records, none, .same _, hNext, rfl⟩
    · simp only [step, hList]
      exact ⟨_, none, .listed, hNext, rfl⟩
  | quarantine memoryId candidateId candidate content =>
    exact after_edit hHolds rfl (fun _ _ hOk => .quarantined hOk)
  | activate memoryId supportingTaskIds reviewer humanApproved =>
    refine after_edit hHolds rfl ?_
    intro changed result hOk
    obtain ⟨record, hFind, hActivate, rfl⟩ := changeRecord_eq_ok hOk
    obtain ⟨hStatus, hSupported, rfl⟩ := activate_eq_ok hActivate
    exact .activated hFind hStatus hSupported
  | feedback memoryId feedback reason =>
    exact after_alter hHolds rfl (fun _ hFind => .appraised hFind)
  | rollback memoryId reason => exact after_alter hHolds rfl (fun _ hFind => .rolledBack hFind)
  | expire memoryId => exact after_alter hHolds rfl (fun _ hFind => .expired hFind)
  | retrieve query scope limit =>
    obtain ⟨found, next, hRetrieve, hNext⟩ :=
      @MemoryStore.retrieve_keeps _ _ _ world.now query scope limit hHolds
    refine ⟨?_, rfl⟩
    simp only [step, hRetrieve]
    exact ⟨records, none, .same _, hNext, rfl⟩
  | reopen => exact ⟨⟨records, none, .same _, reopened_holds hHolds, (List.append_nil _).symm⟩, rfl⟩
  | wait nanos => exact ⟨⟨records, none, .same _, hHolds, (List.append_nil _).symm⟩, rfl⟩

end MemoryWorld

end GolutraAgent.Memory
