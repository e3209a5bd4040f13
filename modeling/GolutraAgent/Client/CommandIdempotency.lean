import GolutraAgent.Client.CommandTrace

/-
  This file proves that commands are handled once: for every idempotency key, in
  every run of any number of calls, one command owns the key, its receipt and
  its completion are stored once, no handler starts after the completion, and
  the acknowledgement that was stored is the one returned.

  The automaton of the trace of a key is in the phase of the row of the key, at
  every point.

  Main declarations:
    * `CommandSystem.step_extends`
    * `commandIdempotency`
-/

namespace GolutraAgent.Client

open Store KeyPhase

def Call.HoldsLock (call : Call) : Prop :=
  match call.phase with
  | .waiting => False
  | _ => True

/- The events of a trace that were appended to the journal. -/
def CommandItem.event? : CommandItem → Option RuntimeEvent
| .received _ _ event | .completed _ _ _ event => some event
| _ => none

namespace CommandSystem

def keyPhase (s : CommandSystem) (key : String) : KeyPhase :=
  .ofRow (s.database.commandAcks.find? key)

/-
  A call past the lock holds it, and a call at work has the row of its key in
  processing.
-/
structure SoundCall (s : CommandSystem) (id : Nat) (call : Call) : Prop where
  locked : call.HoldsLock → s.locks call.key = some id
  working : call.phase = .claimed ∨ call.phase = .handling →
    s.keyPhase call.key = .processing call.commandId
  finished : ∀ ack, call.phase = .finished (.ok ack) →
    s.keyPhase call.key = .final call.commandId ack

/- The trace of every key is proper and ends in the phase of its row. -/
structure Sound (s : CommandSystem) : Prop where
  calls : ∀ id call, s.calls id = some call → s.SoundCall id call
  tracked : ∀ key, KeyPhase.after key s.trace = some (s.keyPhase key)
  recorded : ∀ item ∈ s.trace, ∀ event, item.event? = some event →
      event ∈ s.database.journal.runtimeEvents.rows

theorem sound_new : Sound new where
  calls := by rintro _ _ ⟨⟩
  tracked := fun _ => rfl
  recorded := by rintro _ ⟨⟩

/- What a step does: the trace only grows. -/
structure Extends (s s' : CommandSystem) : Prop where
  sound : s'.Sound
  trace : s.trace <+: s'.trace

variable {s : CommandSystem} {id : Nat} {call : Call}

theorem Extends.refl (hSound : s.Sound) : Extends s s := ⟨hSound, List.prefix_rfl⟩

/- Two calls that hold the lock of a key are the same. -/
theorem Sound.same_of_holdsLock (hSound : s.Sound) {other : Nat}
    {otherCall : Call} (hCall : s.calls id = some call)
    (hOther : s.calls other = some otherCall) (hHolds : call.HoldsLock)
    (hOtherHolds : otherCall.HoldsLock) (hKey : otherCall.key = call.key) : other = id := by
  have hFirst := (hSound.calls id call hCall).locked hHolds
  have hSecond := (hSound.calls other otherCall hOther).locked hOtherHolds
  rw [hKey, hFirst] at hSecond
  exact (Option.some.inj hSecond).symm

theorem holdsLock_of_working
    (hPhase : call.phase = .claimed ∨ call.phase = .handling) : call.HoldsLock := by
  unfold Call.HoldsLock
  rcases hPhase with hPhase | hPhase <;> rw [hPhase] <;> trivial

variable {result : Except ClientError CommandAck}

theorem holdsLock_of_finished (hPhase : call.phase = .finished result) : call.HoldsLock := by
  unfold Call.HoldsLock
  rw [hPhase]
  trivial

/- The lock and the key of the call are as they were. -/
theorem SoundCall.keep {s' : CommandSystem} (hSound : s.SoundCall id call)
    (hSame : call.HoldsLock → s'.locks call.key = s.locks call.key ∧
        s'.keyPhase call.key = s.keyPhase call.key) : s'.SoundCall id call where
  locked hHolds := (hSame hHolds).1.trans (hSound.locked hHolds)
  working hPhase := (hSame (holdsLock_of_working hPhase)).2.trans (hSound.working hPhase)
  finished ack hPhase := (hSame (holdsLock_of_finished hPhase)).2.trans (hSound.finished ack hPhase)

section

variable (hSound : s.Sound)
include hSound

/- The end of a call leaves the others as they are. -/
theorem Sound.endCall (id : Nat) : (s.endCall id).Sound := by
  refine ⟨?_, hSound.tracked, hSound.recorded⟩
  intro other call hCall
  by_cases hSame : other = id
  · subst hSame
    simp [CommandSystem.endCall] at hCall
  · have hOther := hSound.calls other call (by simpa [CommandSystem.endCall, hSame] using hCall)
    refine hOther.keep (fun hHolds => ⟨?_, rfl⟩)
    simp [CommandSystem.endCall, hOther.locked hHolds, hSame]

variable {item : CommandItem}

/- An item that leaves every phase as it is. -/
theorem Sound.record
    (hItem : ∀ key, KeyPhase.observe key (s.keyPhase key) item = some (s.keyPhase key))
    (hEvent : item.event? = none) : (s.record [item]).Sound := by
  refine ⟨fun id call hCall => ?_, fun key => ?_, ?_⟩
  · exact (hSound.calls id call hCall).keep (fun _ => ⟨rfl, rfl⟩)
  · exact (after_concat (hSound.tracked key) item).trans (hItem key)
  · intro other hOther event hSome
    rcases List.mem_append.1 hOther with hOld | hNew
    · exact hSound.recorded other hOld event hSome
    · rw [List.mem_singleton.1 hNew, hEvent] at hSome
      cases hSome

/- A call may return what its key allows. -/
theorem Sound.returns (hResult : KeyPhase.observe call.key (s.keyPhase call.key)
      (.returned call.key call.commandId result) = some (s.keyPhase call.key)) :
    Extends s (s.returns id call result) := by
  refine ⟨Sound.endCall (hSound.record ?_ rfl) id, List.prefix_append _ _⟩
  intro key
  by_cases hKey : call.key = key
  · subst hKey
    exact hResult
  · simp [observe, hKey]

theorem Sound.returns_error (error : ClientError) :
    Extends s (s.returns id call (.error error)) := by
  apply hSound.returns
  simp [observe]

/-
  A change of one call, that leaves the keys of the other calls that hold a lock
  as they are.
-/
theorem Sound.setCall {s' : CommandSystem}
    (hCalls : s'.calls = Function.update s.calls id (some call))
    (hOthers : ∀ other otherCall, other ≠ id →
      s.calls other = some otherCall → otherCall.HoldsLock →
        s'.locks otherCall.key = s.locks otherCall.key ∧
          s'.keyPhase otherCall.key = s.keyPhase otherCall.key)
    (hCall : s'.SoundCall id call)
    (hTracked : ∀ key, KeyPhase.after key s'.trace = some (s'.keyPhase key))
    (hRecorded : ∀ item ∈ s'.trace, ∀ event, item.event? = some event →
        event ∈ s'.database.journal.runtimeEvents.rows) : s'.Sound := by
  refine ⟨?_, hTracked, hRecorded⟩
  intro other otherCall hFound
  rw [hCalls] at hFound
  by_cases hSame : other = id
  · subst hSame
    rw [Function.update_self] at hFound
    cases hFound
    exact hCall
  · rw [Function.update_of_ne hSame] at hFound
    exact (hSound.calls other otherCall hFound).keep (hOthers other otherCall hSame hFound)

theorem submit_extends (library : HostLibrary) (id : Nat) (host : RuntimeHost) (shuttingDown : Bool)
    (command : SessionCommand) : Extends s (s.submit library id host shuttingDown command) := by
  unfold CommandSystem.submit
  split
  · exact .refl hSound
  · split
    · exact ⟨hSound.record (fun _ => rfl) rfl, List.prefix_append _ _⟩
    · refine ⟨hSound.setCall rfl (fun _ _ _ _ _ => ⟨rfl, rfl⟩)
        ⟨fun hHolds => hHolds.elim, ?_, nofun⟩ hSound.tracked hSound.recorded, List.prefix_rfl⟩
      rintro (hPhase | hPhase) <;> cases hPhase

theorem acquire_extends (id : Nat) (call : Call) : Extends s (s.acquire id call) := by
  unfold acquire
  split
  · exact .refl hSound
  · rename_i hFree
    refine ⟨hSound.setCall rfl ?_ ⟨fun _ => Function.update_self _ _ _, ?_, nofun⟩
      hSound.tracked hSound.recorded, List.prefix_rfl⟩
    · intro other otherCall hOther hCall hHolds
      have hLock := (hSound.calls other otherCall hCall).locked hHolds
      have hKey : otherCall.key ≠ call.key := by
        intro hSame
        rw [hSame, hFree] at hLock
        cases hLock
      exact ⟨Function.update_of_ne hKey _ _, rfl⟩
    · rintro (hPhase | hPhase) <;> cases hPhase

variable {database : Database} {phase : CallPhase}

/-
  A call that holds its lock moves on while its key moves to a new phase, and
  other keys stay.
-/
theorem Sound.advance (hCall : s.calls id = some call)
    (hHolds : call.HoldsLock) (items : List CommandItem)
    (hOther : ∀ key, key ≠ call.key → database.commandAcks.find? key =
        s.database.commandAcks.find? key)
    (hWorking : phase = .claimed ∨ phase = .handling →
      KeyPhase.ofRow (database.commandAcks.find? call.key) = .processing call.commandId)
    (hFinished : ∀ ack, phase = .finished (.ok ack) →
      KeyPhase.ofRow (database.commandAcks.find? call.key) = .final call.commandId ack)
    (hTracked : ∀ key, KeyPhase.after key (s.trace ++ items) =
      some (.ofRow (database.commandAcks.find? key)))
    (hRecorded : ∀ item ∈ s.trace ++ items, ∀ event, item.event? = some event →
        event ∈ database.journal.runtimeEvents.rows) :
    Extends s (({ s with database }.setPhase id call phase).record items) := by
  refine ⟨hSound.setCall rfl ?_ ⟨fun _ =>
      (hSound.calls id call hCall).locked hHolds, hWorking,
      hFinished⟩ hTracked hRecorded, List.prefix_append _ _⟩
  intro other otherCall hDiffers hOtherCall hOtherHolds
  refine ⟨rfl, congrArg ofRow (hOther _ ?_)⟩
  intro hSame
  exact hDiffers (hSound.same_of_holdsLock hCall hOtherCall hHolds hOtherHolds hSame)

/- The same, where the database stays as it is. -/
theorem Sound.setPhase (hCall : s.calls id = some call) (hHolds : call.HoldsLock)
    (hWorking : phase = .claimed ∨ phase = .handling →
      s.keyPhase call.key = .processing call.commandId)
    (hFinished : ∀ ack, phase = .finished (.ok ack) →
      s.keyPhase call.key = .final call.commandId ack) : Extends s (s.setPhase id call phase) := by
  have hAdvance := hSound.advance hCall hHolds [] (fun _ _ => rfl) hWorking hFinished
    (by simpa [keyPhase] using hSound.tracked) (by simpa using hSound.recorded)
  simpa [CommandSystem.record] using hAdvance

/- The events that were recorded stay recorded. -/
theorem Sound.recorded_append {event : RuntimeEvent}
    (hPrefix : s.database.journal.runtimeEvents.rows <+: database.journal.runtimeEvents.rows)
    (hItem : item.event? = some event) (hEvent : event ∈ database.journal.runtimeEvents.rows) :
    ∀ other ∈ s.trace ++ [item], ∀ found, other.event? = some found →
        found ∈ database.journal.runtimeEvents.rows := by
  intro other hOther found hFound
  rcases List.mem_append.1 hOther with hOld | hNew
  · exact hPrefix.subset (hSound.recorded other hOld found hFound)
  · rw [List.mem_singleton.1 hNew, hItem] at hFound
    cases hFound
    exact hEvent

section

variable (hCall : s.calls id = some call)
include hCall

theorem afterClaim_extends (hHolds : call.HoldsLock) {claim : CommandClaim}
    {ack : CommandAck} {now : Timestamp}
    (hPrefix : s.database.journal.runtimeEvents.rows <+: database.journal.runtimeEvents.rows)
    (hOutcome : ClaimOutcome s.database call.key call.commandId ack now claim database) :
    Extends s (s.afterClaim id call database claim) := by
  cases hOutcome with
  | conflict hRow hOther =>
    apply hSound.returns
    simp only [keyPhase, hRow, ofRow]
    split <;> simp [observe, rejectedAck, hOther.symm]
  | existing hRow hOwner hStatus =>
    apply hSound.setPhase hCall hHolds
    · rintro (hWorking | hWorking) <;> cases hWorking
    · intro ack hAck
      cases hAck
      simp [keyPhase, hRow, ofRow, hStatus, hOwner]
  | again hRow hOwner hStatus =>
    apply hSound.setPhase hCall hHolds
    · simp [keyPhase, hRow, ofRow, hStatus, hOwner]
    · intro ack hAck
      cases hAck
  | inserted hEvent hNone hRows =>
    have hOwn : ofRow (database.commandAcks.find? call.key) = .processing call.commandId := by
      rw [hRows, if_pos rfl]
      rfl
    apply hSound.advance hCall hHolds
    · intro key hKey
      rw [hRows, if_neg hKey]
    · exact fun _ => hOwn
    · intro ack hAck
      cases hAck
    · intro key
      rw [after_concat (hSound.tracked key)]
      by_cases hKey : key = call.key
      · subst hKey
        rw [hOwn]
        simp [observe, keyPhase, hNone, ofRow]
      · rw [hRows, if_neg hKey]
        simp [observe, Ne.symm hKey, keyPhase]
    · exact hSound.recorded_append hPrefix rfl hEvent

theorem claim_extends (hPhase : call.phase = .locked) (library : HostLibrary)
    (context : Runtime.EventContext) (enrichment : Enrichment) (now : Timestamp) (commits : Bool) :
    Extends s (s.claim library id call context enrichment now commits) := by
  have hHolds : call.HoldsLock := by
    unfold Call.HoldsLock
    rw [hPhase]
    trivial
  unfold CommandSystem.claim
  dsimp only
  split
  · exact hSound.returns_error _
  · split
    · exact hSound.returns_error _
    · rename_i claim database hRun
      exact afterClaim_extends hSound hCall hHolds
        (claimCommand_effect _ _ _ _ _ _ _ _ hRun).journal.isPrefix (claimCommand_run hRun)

theorem startHandler_extends (hPhase : call.phase = .claimed) :
    Extends s ((s.setPhase id call .handling).record
      [.handlerStarted call.key call.commandId]) := by
  have hWorking := (hSound.calls id call hCall).working (.inl hPhase)
  have hNext := hSound.setPhase hCall (holdsLock_of_working (.inl hPhase))
    (fun _ : CallPhase.handling = _ ∨ _ => hWorking) nofun
  refine ⟨hNext.sound.record ?_ rfl, List.prefix_append _ _⟩
  intro key
  by_cases hKey : call.key = key
  · subst hKey
    have hSame : (s.setPhase id call .handling).keyPhase
        call.key = .processing call.commandId := hWorking
    rw [hSame]
    simp [observe]
  · simp [observe, hKey]

theorem complete_extends (hPhase : call.phase = .handling) (library : HostLibrary)
    (outcome : Except ClientError CommandAck) (context : Runtime.EventContext)
    (enrichment : Enrichment) (now : Timestamp) (commits : Bool) :
    Extends s (s.complete library id call outcome context enrichment now commits) := by
  have hHolds : call.HoldsLock := holdsLock_of_working (.inr hPhase)
  have hWorking := (hSound.calls id call hCall).working (.inr hPhase)
  unfold CommandSystem.complete
  dsimp only
  split
  · exact hSound.returns_error _
  · split
    · exact hSound.returns_error _
    · rename_i event database hRun
      have hPrefix := (completeCommand_effect _ _ _ _ _ _ _ _ hRun).journal.isPrefix
      obtain ⟨hEvent, row, hRow, hOwner, hRows⟩ := completeCommand_run hRun
      have hOwn : ofRow (database.commandAcks.find? call.key) = .final call.commandId
              (outcomeAck library call.commandId outcome) := by
        rw [hRows]
        cases hAccepted : (outcomeAck library
          call.commandId outcome).accepted <;> simp [ofRow, completedRow, hAccepted, hOwner]
      apply hSound.advance hCall hHolds
      · intro key hKey
        rw [hRows, if_neg hKey]
      · rintro (hPhase | hPhase) <;> cases hPhase
      · intro ack hAck
        cases hAck
        exact hOwn
      · intro key
        rw [after_concat (hSound.tracked key)]
        by_cases hKey : key = call.key
        · subst hKey
          rw [hOwn, hWorking]
          simp [observe]
        · rw [hRows, if_neg hKey]
          simp [observe, Ne.symm hKey, keyPhase]
      · exact hSound.recorded_append hPrefix rfl hEvent

end

/- Other writers leave the command table alone. -/
theorem write_extends {attempt : StoreAttempt} (hOther : .commandAcks ∉ attempt.op.changes) :
    Extends s { s with database := s.database.step attempt } := by
  have hAcks : (s.database.step attempt).commandAcks = s.database.commandAcks := by
    unfold Database.step
    split
    · exact (attempt.op.commit_effect s.database).commandAcks hOther
    · rfl
  have hPhase : ∀ key, keyPhase
      { s with database := s.database.step attempt } key = s.keyPhase key := by
    intro key
    simp only [keyPhase]
    rw [hAcks]
  refine ⟨⟨?_, fun key => ?_, ?_⟩, List.prefix_rfl⟩
  · intro other call hCall
    exact (hSound.calls other call hCall).keep (fun _ => ⟨rfl, hPhase call.key⟩)
  · rw [hPhase]
    exact hSound.tracked key
  · intro item hItem event hEvent
    have hGrows := Database.run_grows s.database [attempt]
    exact hGrows.isPrefix.subset (hSound.recorded item hItem event hEvent)

end

variable (library : HostLibrary)

theorem step_extends (op : CommandOp) (hSound : s.Sound) : Extends s (s.step library op) := by
  cases op with
  | submit id host shuttingDown command =>
    exact submit_extends hSound library id host shuttingDown command
  | acquire id =>
    simp only [step]
    split
    · split
      · exact acquire_extends hSound id _
      · exact .refl hSound
    · exact .refl hSound
  | claim id context enrichment now commits =>
    simp only [step]
    split
    · rename_i call hCall
      split
      · rename_i hPhase
        exact claim_extends hSound hCall hPhase library context enrichment now commits
      · exact .refl hSound
    · exact .refl hSound
  | startHandler id =>
    simp only [step]
    split
    · rename_i call hCall
      split
      · next hPhase => exact startHandler_extends hSound hCall hPhase
      · exact .refl hSound
    · exact .refl hSound
  | complete id outcome context enrichment now commits =>
    simp only [step]
    split
    · rename_i call hCall
      split
      · rename_i hPhase
        exact complete_extends hSound hCall hPhase library outcome context enrichment now commits
      · exact .refl hSound
    · exact .refl hSound
  | reply id =>
    simp only [step]
    split
    · rename_i call hCall
      split
      · rename_i result hPhase
        cases result with
        | error error => exact hSound.returns_error error
        | ok ack =>
          have hFound := hSound.calls id call hCall
          apply hSound.returns
          rw [hFound.finished ack hPhase]
          simp [observe]
      · exact .refl hSound
    · exact .refl hSound
  | fail id error =>
    simp only [step]
    split
    · exact hSound.returns_error error
    · exact .refl hSound
  | crash id => exact ⟨hSound.endCall id, List.prefix_rfl⟩
  | write attempt =>
    simp only [step]
    split
    · exact .refl hSound
    · next hOther => exact write_extends hSound hOther

theorem run_extends (hSound : s.Sound) (ops : List CommandOp) :
    Extends s (Machine.run (step library) s ops) := by
  refine Machine.run_invariant_of_step ?_ (.refl hSound) ops
  intro s' op hBefore
  have hStep := step_extends library op hBefore.sound
  exact ⟨hStep.sound, hBefore.trace.trans hStep.trace⟩

theorem run_sound (ops : List CommandOp) : (Machine.run (step library) new ops).Sound :=
  (run_extends library sound_new ops).sound

end CommandSystem

/-
  The row of a key keeps its command, and its acknowledgement once that is
  final.
-/
def RowKept (key : String) (database database' : Database) : Prop :=
  ∀ row, database.commandAcks.find? key = some row →
    ∃ row', database'.commandAcks.find? key = some row' ∧
      row'.commandId = row.commandId ∧ (row.status ≠ .processing →
        row'.status ≠ .processing ∧ row'.ack = row.ack)

namespace KeyPhase

theorem owner?_ofRow (found : Option CommandAckRow) :
    (ofRow found).owner? = found.map CommandAckRow.commandId := by
  cases found with
  | none => rfl
  | some row =>
    simp only [ofRow]
    split <;> rfl

theorem of_ofRow_eq_final {found : Option CommandAckRow} {owner : CommandId}
    {ack : CommandAck} (hFinal : ofRow found = .final owner ack) :
    ∃ row, found = some row ∧ row.commandId = owner ∧ row.status ≠ .processing ∧ row.ack = ack := by
  cases found with
  | none => cases hFinal
  | some row =>
    simp only [ofRow] at hFinal
    split at hFinal
    · cases hFinal
    · rename_i hStatus
      cases hFinal
      exact ⟨row, rfl, rfl, hStatus, rfl⟩

end KeyPhase

/- Rows go where the automaton goes. -/
theorem rowKept_of_foldlM {key : String} {database database' : Database} {items : List CommandItem}
    (hFold : items.foldlM (KeyPhase.observe key) (.ofRow (database.commandAcks.find? key)) =
        some (.ofRow (database'.commandAcks.find? key))) : RowKept key database database' := by
  intro row hRow
  rw [hRow] at hFold
  by_cases hStatus : row.status = .processing
  · have hOwner := (foldlM_owned (owner?_ofRow (some row)) hFold).1
    rw [owner?_ofRow] at hOwner
    obtain ⟨row', hRow', hCommand⟩ := Option.map_eq_some_iff.1 hOwner
    exact ⟨row', hRow', hCommand, fun hFinal => absurd hStatus hFinal⟩
  · rw [ofRow, if_neg hStatus] at hFold
    obtain ⟨row', hRow', hCommand, hFinal, hAck⟩ := of_ofRow_eq_final (foldlM_final hFold).1
    exact ⟨row', hRow', hCommand, fun _ => ⟨hFinal, hAck⟩⟩

/- The system after a run from an empty store. -/
def commandsAfter (library : HostLibrary) (ops : List CommandOp) : CommandSystem :=
  Machine.run (CommandSystem.step library) .new ops

/-
  At every point of every run each key is handled once, the receipts and
  completions are in the journal, and nothing of the trace, of the owner or of a
  final acknowledgement changes later.
-/
theorem commandIdempotency (library : HostLibrary) (before later : List CommandOp) (key : String) :
    HandledOnce key (commandsAfter library before).trace ∧
      (∀ item ∈ (commandsAfter library before).trace,
        ∀ event, item.event? = some event → event ∈ (commandsAfter library
            before).database.journal.runtimeEvents.rows) ∧
      (commandsAfter library before).trace <+: (commandsAfter library (before ++ later)).trace ∧
      RowKept key (commandsAfter library before).database (commandsAfter library
          (before ++ later)).database := by
  have hBefore := CommandSystem.run_sound library before
  have hLater := CommandSystem.run_sound library (before ++ later)
  have hPrefix : (commandsAfter library before).trace <+:
      (commandsAfter library (before ++ later)).trace := by
    unfold commandsAfter
    rw [Machine.run_append]
    exact (CommandSystem.run_extends library hBefore later).trace
  refine ⟨handledOnce_of_after (hBefore.tracked key), hBefore.recorded, hPrefix, ?_⟩
  obtain ⟨items, hItems⟩ := hPrefix
  apply rowKept_of_foldlM
  have hTracked := hLater.tracked key
  unfold commandsAfter at hItems
  rw [← hItems, after, List.foldlM_append, ← after, hBefore.tracked key] at hTracked
  exact hTracked

def sampleLibrary : HostLibrary := ⟨fun _ => 2, fun _ => "", fun _ => "failed"⟩

def sampleHost : RuntimeHost := ⟨⟨Uuid.ofNat 1⟩, none, ⟨Uuid.ofNat 2⟩⟩

def samplePrompt : SessionCommand where
  commandId := ⟨Uuid.ofNat 3⟩
  sessionId := none
  kind := .prompt
  idempotencyKey := "k"
  actor := ⟨.user, "operator"⟩
  payload := .object []
  timestamp := ⟨0⟩

def sampleAck : CommandAck := ⟨⟨Uuid.ofNat 3⟩, true, some "queued"⟩

def sampleEnrichment : Enrichment := ⟨none, .empty, []⟩

def sampleEventContext (n : Nat) : Runtime.EventContext := ⟨0, ⟨Uuid.ofNat n⟩, ⟨0⟩, ⟨Uuid.ofNat 2⟩⟩

/- A prompt is handled, and sent again during a shutdown. -/
def shutdownReplay : List CommandOp := [.submit 0 sampleHost false samplePrompt, .acquire 0,
    .claim 0 (sampleEventContext 10) sampleEnrichment ⟨0⟩ true,
    .startHandler 0, .complete 0 (.ok sampleAck) (sampleEventContext 11) sampleEnrichment ⟨0⟩ true,
    .reply 0, .submit 1 sampleHost true samplePrompt]

/-
  The acknowledgement of the prompt is stored, and the second call returns
  another one.
-/
theorem shutdownReplay_refused :
    (commandsAfter sampleLibrary shutdownReplay).keyPhase (scopedIdempotencyKey sampleHost "k") =
      .final samplePrompt.commandId sampleAck ∧
    (commandsAfter sampleLibrary shutdownReplay).trace.getLast? =
      some (.refused samplePrompt.commandId (.ok (rejectedAck samplePrompt.commandId
          "runtime host is shutting down"))) ∧
    rejectedAck samplePrompt.commandId "runtime host is shutting down" ≠ sampleAck := by
  refine ⟨by rfl, by rfl, by decide⟩

end GolutraAgent.Client
