import GolutraAgent.Supervisor.ControlJournal

/-
  This file states when a transaction that is refused leaves no trace in the
  supervisor store. Most refusals come before the pending file is written. Two
  come after it: that the log has no room for the event, and that the text of
  the new state is too long. They leave the pending file, and every later
  operation then fails in the same way.

  Main declarations:
    * `transact_rejected_iff`
    * `largeState_leavesTrace`
-/

namespace GolutraAgent.Supervisor

open LineLog Program.Runs WriteAhead

section

variable {σ α : Type}

variable (library : SupervisorLibrary σ) (call : TransactCall σ α) (files : ControlFiles σ)

/-
  If the call returns an error that is not an input or output failure, log,
  state and the absence of a pending file are as before, and so is what every
  later call does.
-/
def LeavesNoTrace : Prop := ∀ error files',
    (transact library call).exec JournalCommand.handle files = (.error error, files') →
      error.isIo = false → files'.log = files.log ∧
        files'.data = files.data ∧ files'.pending = none ∧ ∀ (β : Type) (later : TransactCall σ β),
          (transact library later).exec JournalCommand.handle files' =
            (transact library later).exec JournalCommand.handle files

/-
  If the call gets as far as a pending transaction, the log has room for its
  event and the text of its state is within the limit.
-/
def SizesFit : Prop := ∀ events state result next pending, Text.isBlank call.eventType = false →
    verifyLog library.codec (controlChain library) maxStateBytes files.log = .ok events →
    readState library files.data = .ok state → call.operation state = .ok (result, next) →
    prepareTransaction library events call next = .ok pending →
    (controlJournal library).LogFits files pending.record ∧
      (library.pretty next).length ≤ maxStateBytes

variable {library : SupervisorLibrary σ} {call : TransactCall σ α} {files : ControlFiles σ}

theorem recover_nothing {bad : SupervisorError → ControlFiles σ → Prop}
    (hPending : files.pending = none) :
    WriteAhead.Runs (fun _ => True) (fun _ files' => files' = files) bad
      (controlJournal library).recover files := by
  refine readPending_runs trivial ?_
  rw [hPending]
  rfl

/- Within the limits, only a success changes the files. -/
theorem transact_unchanged (hPending : files.pending = none)
    (hSizes : SizesFit library call files) :
    WriteAhead.Runs (fun _ => True) (fun _ _ => True) (fun _ files' => files' = files)
      (transact library call) files := by
  unfold transact
  split
  · exact rfl
  · rename_i hType
    refine (recover_nothing hPending).andThen ?_
    rintro - files rfl
    refine bind (verify_runs trivial ?_ (fun _ _ => rfl))
    intro events hEvents
    refine readData_runs trivial (ofExcept ?_ (fun _ _ => rfl))
    intro state hState
    refine ofExcept ?_ (fun _ _ => rfl)
    rintro ⟨result, next⟩ hOperation
    refine ofExcept ?_ (fun _ _ => rfl)
    intro pending hPrepare
    obtain ⟨hLog, hText⟩ := hSizes events state result next pending
      (by simpa using hType) hEvents hState hOperation hPrepare
    obtain ⟨hExtends, hSealed, hTarget⟩ := prepareTransaction_eq_ok hPrepare
    have hApplies : (controlJournal library).Applies pending.target :=
      applies_of_fits (by rw [hTarget]) (by rw [hTarget]; exact hText)
    exact ((commit_commits hExtends hSealed hLog hApplies.2).mono (fun _ _ hSame => hSame)
        (fun _ _ => False.elim)).andThen (fun _ _ _ => trivial)

/- Beyond a limit, the pending file is left. -/
theorem transact_leavesPending {events : List ControlEvent} {state next : σ} {result : α}
    {pending : PendingTransaction σ} (hPending : files.pending = none)
    (hType : Text.isBlank call.eventType = false)
    (hEvents : verifyLog library.codec (controlChain library) maxStateBytes files.log = .ok events)
    (hState : readState library files.data = .ok state)
    (hOperation : call.operation state = .ok (result, next))
    (hPrepare : prepareTransaction library events call next = .ok pending)
    (hSizes : ¬ ((controlJournal library).LogFits files pending.record ∧
        (library.pretty next).length ≤ maxStateBytes)) :
    WriteAhead.Runs (fun _ => True) (fun _ _ => False)
      (fun error files' => error.isIo = false ∧ files'.pending = some pending)
      (transact library call) files := by
  obtain ⟨hExtends, hSealed, hTarget⟩ := prepareTransaction_eq_ok hPrepare
  unfold transact
  rw [hType]
  refine (recover_nothing hPending).andThen ?_
  rintro - files rfl
  refine bind (verify_runs trivial ?_ ?_)
  · intro found hFound
    cases hEvents.symm.trans hFound
    refine readData_runs trivial (ofExcept_ok hState (ofExcept_ok hOperation
          (ofExcept_ok hPrepare (andThen ?_ (fun _ _ => False.elim)))))
    by_cases hLog : (controlJournal library).LogFits files pending.record
    · have hText : maxStateBytes < (library.pretty next).length :=
        Nat.not_le.1 (fun hText => hSizes ⟨hLog, hText⟩)
      refine (commit_refused hExtends hSealed hLog
        ⟨writeState library pending.target.state, List.mem_cons_self, ?_⟩).mono (fun _ _ => id) ?_
      · simp [writeState, hTarget, hText]
      · rintro error files' ⟨⟨write, hWrite, hError⟩, hLeft⟩
        refine ⟨?_, hLeft⟩
        rw [List.mem_singleton.1 hWrite] at hError
        simp only [writeState] at hError
        split at hError
        · cases hError
          rfl
        · cases hError
    · refine (commit_tooLarge hExtends hSealed hLog).mono (fun _ _ => id) ?_
      rintro error files' ⟨rfl, hLeft⟩
      exact ⟨rfl, hLeft⟩
  · intro fault hFault
    cases hEvents.symm.trans hFault

theorem leavesTrace_of_pending {pending : PendingTransaction σ}
    (hRuns : WriteAhead.Runs (fun _ => True) (fun _ _ => False)
      (fun error files' => error.isIo = false ∧ files'.pending = some pending)
      (transact library call) files) : ¬ LeavesNoTrace library call files := by
  intro hTrace
  have hEnd := hRuns.exec
  split at hEnd
  · exact hEnd
  · rename_i error files' hExec
    obtain ⟨hIo, hLeft⟩ := hEnd
    have hNone := (hTrace error files' hExec hIo).2.2.1
    rw [hLeft] at hNone
    cases hNone

/-
  A refused transaction leaves no trace exactly if the sizes of its event and of
  its state are within the limits.
-/
theorem transact_rejected_iff (library : SupervisorLibrary σ) (call : TransactCall σ α)
    (files : ControlFiles σ) (hPending : files.pending = none) :
    LeavesNoTrace library call files ↔ SizesFit library call files := by
  constructor
  · intro hTrace events state result next pending hType hEvents hState hOperation hPrepare
    by_contra hSizes
    exact leavesTrace_of_pending
      (transact_leavesPending hPending hType hEvents hState hOperation hPrepare hSizes) hTrace
  · intro hSizes error files' hExec hIo
    have hRuns := (transact_unchanged hPending hSizes).exec
    rw [hExec] at hRuns
    subst hRuns
    exact ⟨rfl, rfl, hPending, fun _ _ => rfl⟩

end

/- A store whose only state has a text beyond the limit. -/
def largeLibrary : SupervisorLibrary Unit :=
  { noteLibrary with
    pretty := fun _ => List.replicate (maxStateBytes + 1) 32
    parse_pretty := fun _ => rfl }

/- The first transaction leaves its pending file. -/
theorem largeState_leavesTrace :
    ¬ LeavesNoTrace largeLibrary noteCall (emptyControlFiles Unit) := by
  have hPrepare : prepareTransaction largeLibrary [] noteCall
      () = .ok firstNote := prepare_firstNote
  refine leavesTrace_of_pending (transact_leavesPending rfl rfl rfl rfl rfl hPrepare ?_)
  rintro ⟨-, hLength⟩
  simp [largeLibrary] at hLength

def refusedNote : TransactCall Unit Unit :=
  { noteCall with operation := fun _ => .error (.gateRejected "no gate result") }

/- A note that is refused after others leaves no trace. -/
theorem note_leavesNoTrace :
    let files := (Machine.run (controlStep noteLibrary) emptyControlStore tornNotes).world
    ((transact noteLibrary refusedNote).exec JournalCommand.handle files).1 =
        .error (.gateRejected "no gate result") ∧ LeavesNoTrace noteLibrary refusedNote files := by
  refine ⟨rfl, (transact_rejected_iff noteLibrary refusedNote _ rfl).2 ?_⟩
  intro _ _ _ _ _ _ _ _ hOperation
  cases hOperation

end GolutraAgent.Supervisor
