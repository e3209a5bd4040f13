import GolutraAgent.Library.LineLog
import GolutraAgent.Library.Program

/-
  This file develops a write-ahead journal: a log of chained records, a file
  with the transaction that is under way, and the data that the transactions
  write. A transaction is committed once its pending file was written. Then its
  record is appended to the log, its writes are made, and the pending file is
  removed. Whoever takes the lock next completes what was left of a transaction.

  Pending files and data are replaced in one step. The log is appended byte by
  byte, so a crash may leave a part of a line.

  The list of committed transactions is kept beside the files for the
  statements; no program reads it.

  Key definitions include:
    * `JournalFiles`
    * `JournalCommand`
-/

structure Pending (ρ τ : Type) where
  record : ρ
  target : τ
deriving DecidableEq

structure JournalFiles (ρ τ φ : Type) where
  log : Option Bytes
  pending : Option (Pending ρ τ)
  data : φ
  committed : List (Pending ρ τ)

namespace JournalFiles

variable {ρ τ φ : Type}

def content (files : JournalFiles ρ τ φ) : Bytes := files.log.getD []

theorem log_of_content {files : JournalFiles ρ τ φ} {bytes : Bytes}
    (hContent : files.content = bytes) (hBytes : bytes ≠ []) : files.log = some bytes := by
  unfold content at hContent
  cases hLog : files.log with
  | none =>
    rw [hLog] at hContent
    exact absurd hContent.symm hBytes
  | some found =>
    rw [hLog] at hContent
    exact congrArg some hContent

end JournalFiles

inductive JournalCommand (ρ τ φ : Type)
| readPending
| readLog
| readData
| writePending (pending : Pending ρ τ)
| removePending
| openLog
| appendByte (byte : UInt8)
| truncateLog (length : Nat)
| writeData (change : φ → φ)

namespace JournalCommand

variable {ρ τ φ : Type}

def Answer : JournalCommand ρ τ φ → Type
| .readPending => Option (Pending ρ τ)
| .readLog => Option Bytes
| .readData => φ
| _ => Unit

def handle :
    (command : JournalCommand ρ τ φ) → JournalFiles ρ τ φ → command.Answer × JournalFiles ρ τ φ
| .readPending, files => (files.pending, files)
| .readLog, files => (files.log, files)
| .readData, files => (files.data, files)
| .writePending pending, files =>
  ((), { files with
    pending := some pending
    committed := files.committed ++ [pending] })
| .removePending, files => ((), { files with pending := none })
| .openLog, files => ((), { files with log := some files.content })
| .appendByte byte, files => ((), { files with log := some (files.content ++ [byte]) })
| .truncateLog length, files =>
  ((), { files with log := files.log.map (·.take length) })
| .writeData change, files => ((), { files with data := change files.data })

end JournalCommand

def journalInterface (ρ τ φ : Type) : Interface where
  Command := JournalCommand ρ τ φ
  Answer := JournalCommand.Answer

abbrev JournalProgram (ρ τ φ ε α : Type) := Program (journalInterface ρ τ φ) ε α

namespace JournalCommand

variable {ρ τ φ ε : Type}

def perform (command : JournalCommand ρ τ φ) : JournalProgram ρ τ φ ε command.Answer :=
  @Program.call (journalInterface ρ τ φ) ε command

end JournalCommand

inductive JournalFault
| log (fault : LogFault)
| pendingDigest
| conflict
| notExtending
| notSealed
| logTooLarge
deriving DecidableEq

/- A write that is refused if its check fails. -/
structure Write (φ ε : Type) where
  check : Except ε Unit
  change : φ → φ

/-
  The parameters of a journal. All writes of a target leave the same data,
  whatever the data was before.
-/
structure WriteAhead (ρ τ φ ε : Type) where
  codec : LineCodec ρ
  chain : Chain ρ
  limit : Nat
  checkTarget : τ → Except ε Unit
  writes : τ → List (Write φ ε)
  final : τ → φ
  writes_final : ∀ target data, (writes target).foldl (fun data write =>
      write.change data) data = final target
  fault : JournalFault → ε

namespace WriteAhead

variable {ρ τ φ ε : Type}

def readPending : JournalProgram ρ τ φ ε (Option (Pending ρ τ)) :=
  JournalCommand.perform .readPending

def readLog : JournalProgram ρ τ φ ε (Option Bytes) := JournalCommand.perform .readLog

def readData : JournalProgram ρ τ φ ε φ := JournalCommand.perform .readData

def writePending (pending : Pending ρ τ) : JournalProgram ρ τ φ ε Unit :=
  JournalCommand.perform (.writePending pending)

def removePending : JournalProgram ρ τ φ ε Unit := JournalCommand.perform .removePending

def openLog : JournalProgram ρ τ φ ε Unit := JournalCommand.perform .openLog

def appendByte (byte : UInt8) : JournalProgram ρ τ φ ε Unit :=
  JournalCommand.perform (.appendByte byte)

def truncateLog (length : Nat) : JournalProgram ρ τ φ ε Unit :=
  JournalCommand.perform (.truncateLog length)

def writeData (change : φ → φ) : JournalProgram ρ τ φ ε Unit :=
  JournalCommand.perform (.writeData change)

section

variable (journal : WriteAhead ρ τ φ ε)

def verify : JournalProgram ρ τ φ ε (List ρ) := do
  let log ← readLog
  Program.ofExcept ((LineLog.verifyLog journal.codec journal.chain
    journal.limit log).mapError (fun fault => journal.fault (.log fault)))

def recoverInterruptedAppend (pending : Pending ρ τ) (fault : LogFault) :
    JournalProgram ρ τ φ ε (List ρ) := do
  let log ← readLog
  match LineLog.interrupted journal.codec journal.chain (log.getD []) pending.record fault with
  | .error found => .fail (journal.fault (.log found))
  | .ok (records, complete) => do
      truncateLog complete.length
      return records

def appendBytes : Bytes → JournalProgram ρ τ φ ε Unit
| [] => .done ()
| byte :: rest => do
    appendByte byte
    appendBytes rest

/- Append the line of a record, and then its line break. -/
def append (record : ρ) (records : List ρ) : JournalProgram ρ τ φ ε Unit :=
  if ¬ journal.chain.Extends records record then .fail (journal.fault .notExtending)
  else if ¬ journal.chain.Sealed record then .fail (journal.fault .notSealed)
  else do
    openLog
    let log ← readLog
    let line := journal.codec.encode record
    if (log.getD []).length + (line.length + 1) > journal.limit then
      .fail (journal.fault .logTooLarge)
    else appendBytes (line ++ [newline])

def applyWrites : List (Write φ ε) → JournalProgram ρ τ φ ε Unit
| [] => .done ()
| write :: rest => do
    Program.ofExcept write.check
    writeData write.change
    applyWrites rest

/- Make the writes of a transaction, and forget it. -/
def finish (target : τ) : JournalProgram ρ τ φ ε Unit := do
  applyWrites (journal.writes target)
  removePending

/- The records of the log, without an interrupted append. -/
def verifyRecovered (pending : Pending ρ τ) : JournalProgram ρ τ φ ε (List ρ) := do
  let log ← readLog
  match LineLog.verifyLog journal.codec journal.chain journal.limit log with
  | .ok records => return records
  | .error fault => journal.recoverInterruptedAppend pending fault

variable [DecidableEq ρ]

/- Append the pending record unless the log ends in it. -/
def appendPending (record : ρ) (records : List ρ) : JournalProgram ρ τ φ ε Unit :=
  if records.getLast?.map journal.chain.sequence = some (journal.chain.sequence record) then
    if records.getLast? ≠ some record then .fail (journal.fault .conflict)
    else .done ()
  else journal.append record records

def recover : JournalProgram ρ τ φ ε Unit := do
  let found ← readPending
  match found with
  | none => return ()
  | some pending => do
      Program.ofExcept (journal.checkTarget pending.target)
      if ¬ journal.chain.Sealed pending.record then .fail (journal.fault .pendingDigest)
      else do
        let records ← journal.verifyRecovered pending
        journal.appendPending pending.record records
        journal.finish pending.target

def commit (pending : Pending ρ τ) (records : List ρ) : JournalProgram ρ τ φ ε Unit := do
  writePending pending
  journal.append pending.record records
  journal.finish pending.target

end

variable {α : Type} {Inv : JournalFiles ρ τ φ → Prop} {good : α → JournalFiles ρ τ φ → Prop}
variable {bad : ε → JournalFiles ρ τ φ → Prop} {files : JournalFiles ρ τ φ}

/- A program of a journal that is alone with the files. -/
abbrev Runs (Inv : JournalFiles ρ τ φ → Prop) (good : α → JournalFiles ρ τ φ → Prop)
    (bad : ε → JournalFiles ρ τ φ → Prop) (program : JournalProgram ρ τ φ ε α)
    (files : JournalFiles ρ τ φ) : Prop :=
  Program.Runs JournalCommand.handle Inv good bad program files

section

/- The rule of every command; what a read leaves is simpler. -/
theorem perform_runs {command : JournalCommand ρ τ φ}
    {rest : command.Answer → JournalProgram ρ τ φ ε α} (hInv : Inv (command.handle files).2)
    (hRest : Runs Inv good bad (rest (command.handle files).1) (command.handle files).2) :
    Runs Inv good bad (command.perform >>= rest) files :=
  Program.Runs.call hInv hRest

theorem readPending_runs {rest : Option (Pending ρ τ) → JournalProgram ρ τ φ ε α}
    (hInv : Inv files) (hRest : Runs Inv good bad (rest files.pending) files) :
    Runs Inv good bad (readPending >>= rest) files :=
  perform_runs hInv hRest

theorem readLog_runs {rest : Option Bytes → JournalProgram ρ τ φ ε α}
    (hInv : Inv files) (hRest : Runs Inv good bad (rest files.log) files) :
    Runs Inv good bad (readLog >>= rest) files :=
  perform_runs hInv hRest

theorem readData_runs {rest : φ → JournalProgram ρ τ φ ε α}
    (hInv : Inv files) (hRest : Runs Inv good bad (rest files.data) files) :
    Runs Inv good bad (readData >>= rest) files :=
  perform_runs hInv hRest

theorem openLog_runs {rest : Unit → JournalProgram ρ τ φ ε α}
    (hInv : Inv { files with log := some files.content })
    (hRest : Runs Inv good bad (rest ()) { files with
      log := some files.content }) : Runs Inv good bad (openLog >>= rest) files :=
  perform_runs hInv hRest

end

variable {good : Unit → JournalFiles ρ τ φ → Prop}

theorem appendBytes_runs {bytes : Bytes} (hInv : ∀ front, front ≠ [] → front <+: bytes →
      Inv { files with log := some (files.content ++ front) })
    (hBytes : bytes ≠ []) (hGood : good () { files with
      log := some (files.content ++ bytes) }) : Runs Inv good bad (appendBytes bytes) files := by
  induction bytes generalizing files with
  | nil => exact absurd rfl hBytes
  | cons byte rest ih =>
    refine perform_runs (hInv [byte] (by simp) (by simp)) ?_
    cases rest with
    | nil => exact hGood
    | cons next rest =>
      refine ih ?_ (by simp) ?_
      · rintro front - hFront
        have hKept := hInv (byte :: front) (by simp) (by simpa using hFront)
        simpa [JournalFiles.content, JournalCommand.handle] using hKept
      · simpa [JournalFiles.content, JournalCommand.handle] using hGood

theorem applyWrites_runs {writes : List (Write φ ε)}
    (hInv : ∀ data, Inv { files with data := data })
    (hChecks : ∀ write ∈ writes, write.check = .ok ()) (hGood : good () { files with
      data := writes.foldl (fun data write =>
        write.change data) files.data }) : Runs Inv good bad (applyWrites writes) files := by
  induction writes generalizing files with
  | nil => exact hGood
  | cons write rest ih =>
    refine Program.Runs.ofExcept ?_ ?_
    · rintro ⟨⟩ -
      refine perform_runs (hInv _) ?_
      exact ih hInv (fun write hMem => hChecks write (List.mem_cons_of_mem _ hMem)) hGood
    · intro error hError
      rw [hChecks write List.mem_cons_self] at hError
      cases hError

variable {journal : WriteAhead ρ τ φ ε}

open LineLog

theorem verify_runs {good : List ρ → JournalFiles ρ τ φ → Prop} (hInv : Inv files)
    (hGood : ∀ records, LineLog.verifyLog journal.codec journal.chain
        journal.limit files.log = .ok records → good records files)
    (hBad : ∀ fault, LineLog.verifyLog journal.codec journal.chain
        journal.limit files.log = .error fault → bad (journal.fault (.log fault)) files) :
    Runs Inv good bad journal.verify files := by
  refine readLog_runs hInv ?_
  cases hVerify : verifyLog journal.codec journal.chain journal.limit files.log with
  | ok records => exact hGood records hVerify
  | error fault => exact hBad fault hVerify

variable {record : ρ} {records : List ρ}

/- The append of a record that extends the log and fits. -/
theorem append_runs (hExtends : journal.chain.Extends records record)
    (hSealed : journal.chain.Sealed record)
    (hFits : files.content.length + ((journal.codec.encode record).length + 1) ≤ journal.limit)
    (hInv : ∀ front, front <+: journal.codec.encode record ++ [newline] → Inv { files with
          log := some (files.content ++ front) })
    (hGood : good () { files with
      log := some (files.content ++ (journal.codec.encode record ++ [newline])) }) :
    Runs Inv good bad (journal.append record records) files := by
  have hOpen : Inv { files with log := some files.content } := by simpa using hInv [] (by simp)
  unfold append
  rw [if_neg (not_not.2 hExtends), if_neg (not_not.2 hSealed)]
  refine openLog_runs hOpen (readLog_runs hOpen ?_)
  dsimp only [Option.getD_some]
  rw [if_neg (Nat.not_lt.2 hFits)]
  refine appendBytes_runs ?_ (by simp) hGood
  exact fun front _ hFront => hInv front hFront

/- The append is refused when it does not fit. -/
theorem append_tooLarge (hExtends : journal.chain.Extends records record)
    (hSealed : journal.chain.Sealed record)
    (hFits : journal.limit < files.content.length + ((journal.codec.encode record).length + 1))
    (hInv : Inv { files with log := some files.content })
    (hBad : bad (journal.fault .logTooLarge) { files with log := some files.content }) :
    Runs Inv good bad (journal.append record records) files := by
  unfold append
  rw [if_neg (not_not.2 hExtends), if_neg (not_not.2 hSealed)]
  refine openLog_runs hInv (readLog_runs hInv ?_)
  dsimp only [Option.getD_some]
  rw [if_pos hFits]
  exact hBad

theorem finish_runs {target : τ} (hInv : ∀ data, Inv { files with data := data })
    (hChecks : ∀ write ∈ journal.writes target, write.check = .ok ())
    (hDone : Inv { files with data := journal.final target, pending := none })
    (hGood : good () { files with data := journal.final target, pending := none }) :
    Runs Inv good bad (journal.finish target) files := by
  refine Program.Runs.bind (applyWrites_runs hInv hChecks ?_)
  rw [journal.writes_final]
  exact @perform_runs _ _ _ _ _ _ _ _ _ _ Program.done hDone hGood

section

variable (journal : WriteAhead ρ τ φ ε)

/- The writes of a target pass every check. -/
def Applies (target : τ) : Prop := journal.checkTarget target = .ok () ∧
    ∀ write ∈ journal.writes target, write.check = .ok ()

def recordsOf (committed : List (Pending ρ τ)) : List ρ := committed.map Pending.record

/- The transactions form a chain that fits in the log. -/
structure Sound (committed : List (Pending ρ τ)) : Prop where
  chained : LineLog.Chained journal.chain (recordsOf committed)
  fits : (LineLog.written journal.codec (recordsOf committed)).length ≤ journal.limit
  applies : ∀ pending ∈ committed, journal.Applies pending.target

/- The data that the last transaction left. -/
def contents (initial : φ) (committed : List (Pending ρ τ)) : φ :=
  match committed.getLast? with
  | none => initial
  | some pending => journal.final pending.target

/- No transaction is under way. -/
structure Settled (initial : φ) (files : JournalFiles ρ τ φ) : Prop where
  pending : files.pending = none
  content : files.content = LineLog.written journal.codec (recordsOf files.committed)
  data : files.data = journal.contents initial files.committed

/-
  The last transaction is under way: a part of its line was appended. Nothing is
  said about the data, which its writes replace.
-/
structure InFlight (before : List (Pending ρ τ)) (pending : Pending ρ τ)
    (part : Bytes) (files : JournalFiles ρ τ φ) : Prop where
  committed : files.committed = before ++ [pending]
  found : files.pending = some pending
  content : files.content = LineLog.written journal.codec (recordsOf before) ++ part
  part : part <+: journal.codec.encode pending.record ++ [newline]

/- The log ends in the pending record without a line break. -/
def Unterminated (files : JournalFiles ρ τ φ) : Prop := ∃ pending, files.pending = some pending ∧
    journal.codec.encode pending.record <:+ files.content

/- The files at any time, while a program holds the lock. -/
structure Consistent (initial : φ) (Valid : List (Pending ρ τ) → Prop)
    (files : JournalFiles ρ τ φ) : Prop where
  sound : journal.Sound files.committed
  valid : Valid files.committed
  phase : journal.Settled initial files ∨ ∃ before pending part,
      journal.InFlight before pending part files

/- The files from which a transaction can be completed. -/
structure Recoverable (initial : φ) (Valid : List (Pending ρ τ) → Prop)
    (files : JournalFiles ρ τ φ) : Prop where
  sound : journal.Sound files.committed
  valid : Valid files.committed
  phase : journal.Settled initial files ∨ ∃ before pending part,
      journal.InFlight before pending part files ∧ part ≠ journal.codec.encode pending.record

end

variable {initial : φ} {Valid : List (Pending ρ τ) → Prop}

variable (committed : List (Pending ρ τ)) (pending : Pending ρ τ)

theorem recordsOf_concat :
    recordsOf (committed ++ [pending]) = recordsOf committed ++ [pending.record] := by
  simp [recordsOf]

@[simp] theorem contents_concat :
    journal.contents initial (committed ++ [pending]) = journal.final pending.target := by
  simp [contents]

theorem Sound.concat {committed : List (Pending ρ τ)}
    {pending : Pending ρ τ} (hSound : journal.Sound committed)
    (hExtends : journal.chain.Extends (recordsOf committed) pending.record)
    (hSealed : journal.chain.Sealed pending.record) (hFits : (LineLog.written journal.codec
      (recordsOf committed ++ [pending.record])).length ≤ journal.limit)
    (hApplies : journal.Applies pending.target) : journal.Sound (committed ++ [pending]) := by
  rw [← recordsOf_concat] at hFits
  refine ⟨?_, hFits, ?_⟩
  · rw [recordsOf_concat, chained_concat]
    exact ⟨hSound.chained, hExtends, hSealed⟩
  · intro found hMem
    rcases List.mem_append.1 hMem with hOld | hNew
    · exact hSound.applies found hOld
    · obtain rfl := List.mem_singleton.1 hNew
      exact hApplies

theorem Recoverable.consistent (hFiles : journal.Recoverable initial Valid files) :
    journal.Consistent initial Valid files := by
  obtain ⟨hSound, hValid, hPhase⟩ := hFiles
  refine ⟨hSound, hValid, ?_⟩
  rcases hPhase with hSettled | ⟨before, pending, part, hFlight, -⟩
  · exact .inl hSettled
  · exact .inr ⟨before, pending, part, hFlight⟩

theorem Consistent.recoverable (hFiles : journal.Consistent initial Valid files)
    (hBreak : ¬ journal.Unterminated files) : journal.Recoverable initial Valid files := by
  obtain ⟨hSound, hValid, hPhase⟩ := hFiles
  refine ⟨hSound, hValid, ?_⟩
  rcases hPhase with hSettled | ⟨before, pending, part, hFlight⟩
  · exact .inl hSettled
  · refine .inr ⟨before, pending, part, hFlight, ?_⟩
    rintro rfl
    refine hBreak ⟨pending, hFlight.found, ?_⟩
    rw [hFlight.content]
    exact List.suffix_append _ _

section

variable (hSettled : journal.Settled initial files)
include hSettled

theorem Settled.consistent (hSound : journal.Sound files.committed)
    (hValid : Valid files.committed) : journal.Consistent initial Valid files :=
  ⟨hSound, hValid, .inl hSettled⟩

theorem Settled.recoverable (hSound : journal.Sound files.committed)
    (hValid : Valid files.committed) : journal.Recoverable initial Valid files :=
  ⟨hSound, hValid, .inl hSettled⟩

theorem Settled.verifyLog (hSound : journal.Sound files.committed) :
    LineLog.verifyLog journal.codec journal.chain journal.limit files.log =
      .ok (recordsOf files.committed) :=
  verifyLog_written hSound.chained hSettled.content hSound.fits

end

variable {before : List (Pending ρ τ)} {pending : Pending ρ τ}

/- The files settled with the transactions they had. -/
def Completes (journal : WriteAhead ρ τ φ ε) (initial : φ)
    (committed : List (Pending ρ τ)) (files : JournalFiles ρ τ φ) : Prop :=
  journal.Settled initial files ∧ files.committed = committed

/- Only the writes are left to do. -/
theorem InFlight.finish_runs (hFlight : journal.InFlight before pending
      (journal.codec.encode pending.record ++ [newline]) files)
    (hSound : journal.Sound files.committed) (hValid : Valid files.committed) :
    Runs (journal.Consistent initial Valid) (fun _ => journal.Completes initial files.committed)
      (fun _ _ => False) (journal.finish pending.target) files := by
  have hSettled : journal.Settled initial { files with
      data := journal.final pending.target
      pending := none } := by
    refine ⟨rfl, ?_, ?_⟩
    · change files.content = _
      rw [hFlight.content]
      simp [hFlight.committed, recordsOf_concat, written_concat]
    · simp [hFlight.committed]
  have hApplies := hSound.applies pending (by simp [hFlight.committed])
  refine WriteAhead.finish_runs ?_ hApplies.2 (hSettled.consistent hSound hValid) ⟨hSettled, rfl⟩
  intro data
  exact ⟨hSound, hValid, .inr ⟨before, pending, _,
    ⟨hFlight.committed, hFlight.found, hFlight.content, hFlight.part⟩⟩⟩

variable {part : Bytes}

/- The record of the transaction extends those before it. -/
theorem InFlight.chained (hFlight : journal.InFlight before pending part files)
    (hSound : journal.Sound files.committed) :
    LineLog.Chained journal.chain (recordsOf before ++ [pending.record]) := by
  have hChained := hSound.chained
  rwa [hFlight.committed, recordsOf_concat] at hChained

/- The append and the writes are left to do. -/
theorem InFlight.append_runs (hFlight : journal.InFlight before pending [] files)
    (hSound : journal.Sound files.committed) (hValid : Valid files.committed) :
    Runs (journal.Consistent initial Valid) (fun _ => journal.Completes initial files.committed)
      (fun _ _ => False)
      (do journal.append pending.record (recordsOf before)
          journal.finish pending.target)
      files := by
  have hChain := (chained_concat _ _).1 (hFlight.chained hSound)
  have hContent := hFlight.content
  rw [List.append_nil] at hContent
  have hFits := hSound.fits
  rw [hFlight.committed, recordsOf_concat, written_concat, ← hContent] at hFits
  have hAppended : ∀ front, front <+: journal.codec.encode pending.record ++ [newline] →
        journal.InFlight before pending front { files with
          log := some (files.content ++ front) } := by
    intro front hFront
    refine ⟨hFlight.committed, hFlight.found, ?_, hFront⟩
    change files.content ++ front = _
    rw [hContent]
  refine Program.Runs.bind (WriteAhead.append_runs hChain.2.1
    hChain.2.2 (by simpa using hFits) ?_ ?_)
  · intro front hFront
    exact ⟨hSound, hValid, .inr ⟨before, pending, front, hAppended front hFront⟩⟩
  · exact (hAppended _ (List.prefix_refl _)).finish_runs hSound hValid

/- A transaction that extends sound ones is committed. -/
theorem commit_runs (hSettled : journal.Settled initial files)
    (hSound : journal.Sound (files.committed ++ [pending]))
    (hValid : Valid (files.committed ++ [pending])) :
    Runs (journal.Consistent initial Valid) (fun _ => journal.Completes initial
        (files.committed ++ [pending]))
      (fun _ _ => False)
      (journal.commit pending (recordsOf files.committed))
      files := by
  have hFlight : journal.InFlight files.committed pending []
      { files with
        pending := some pending
        committed := files.committed ++ [pending] } := by
    refine ⟨rfl, rfl, ?_, by simp⟩
    rw [List.append_nil]
    exact hSettled.content
  refine perform_runs ⟨hSound, hValid, .inr ⟨_, _, _, hFlight⟩⟩ ?_
  exact hFlight.append_runs hSound hValid

/- The log was not yet written, or it has all of the line. -/
def Verified (journal : WriteAhead ρ τ φ ε) (before : List (Pending ρ τ)) (pending : Pending ρ τ)
    (records : List ρ) (files : JournalFiles ρ τ φ) : Prop :=
  records = recordsOf before ∧ journal.InFlight before pending [] files ∨
    records = recordsOf before ++ [pending.record] ∧ journal.InFlight before pending
        (journal.codec.encode pending.record ++ [newline]) files

/- A part of a line is cut off; other logs stay. -/
theorem InFlight.verifyRecovered_runs (hFlight : journal.InFlight before pending part files)
    (hBreak : part ≠ journal.codec.encode pending.record)
    (hSound : journal.Sound files.committed) (hValid : Valid files.committed) :
    Runs (journal.Consistent initial Valid) (fun records files' =>
        files'.committed = files.committed ∧ journal.Verified before pending records files')
      (fun _ _ => False)
      (journal.verifyRecovered pending) files := by
  have hInv : journal.Consistent initial Valid files :=
    ⟨hSound, hValid, .inr ⟨before, pending, part, hFlight⟩⟩
  have hChained := hFlight.chained hSound
  have hBefore := ((chained_concat _ _).1 hChained).1
  have hFits := hSound.fits
  rw [hFlight.committed, recordsOf_concat] at hFits
  refine readLog_runs hInv ?_
  by_cases hEmpty : part = []
  · subst hEmpty
    have hContent := hFlight.content
    rw [List.append_nil] at hContent
    rw [verifyLog_written hBefore hContent]
    · exact ⟨rfl, .inl ⟨rfl, hFlight⟩⟩
    · rw [written_concat, List.length_append] at hFits
      omega
  · rcases List.prefix_concat_iff.1 hFlight.part with rfl | hPart
    · have hContent := hFlight.content
      rw [← written_concat] at hContent
      rw [verifyLog_written hChained hContent hFits]
      exact ⟨rfl, .inr ⟨rfl, hFlight⟩⟩
    · have hLog := JournalFiles.log_of_content hFlight.content (by simp [hEmpty])
      obtain ⟨fault, hFault⟩ := verifyLog_part hBefore hPart hBreak hEmpty journal.limit
      rw [hLog, hFault]
      refine readLog_runs hInv ?_
      rw [hLog, Option.getD_some, interrupted_part hChained hPart hEmpty]
      have hCut : journal.InFlight before pending [] { files with
          log := files.log.map (fun bytes => bytes.take (written journal.codec
              (recordsOf before)).length) } := by
        refine ⟨hFlight.committed, hFlight.found, ?_, by simp⟩
        simp [JournalFiles.content, hLog]
      exact perform_runs ⟨hSound, hValid, .inr ⟨before, pending, [], hCut⟩⟩
        ⟨rfl, .inl ⟨rfl, hCut⟩⟩

section

variable [DecidableEq ρ]

theorem appendPending_skips (records : List ρ) (record : ρ) :
    journal.appendPending record (records ++ [record]) =
      (.done () : JournalProgram ρ τ φ ε Unit) := by
  simp [appendPending]

/- The last number of a chain is the length of the chain. -/
theorem appendPending_appends {records : List ρ} {record : ρ}
    (hChained : LineLog.Chained journal.chain (records ++ [record])) :
    journal.appendPending record records = (journal.append record records :
        JournalProgram ρ τ φ ε Unit) := by
  obtain ⟨hBefore, hExtends, -⟩ := (chained_concat _ _).1 hChained
  unfold appendPending
  rcases List.eq_nil_or_concat records with rfl | ⟨earlier, last, rfl⟩
  · simp
  · rw [List.concat_eq_append] at hBefore
    have hLast := ((chained_concat _ _).1 hBefore).2.1
    simp [hLast.1, hExtends.1]

/-
  What was left of the transaction under way is completed, from every place
  where its line was not all but ended.
-/
theorem recover_runs (hFiles : journal.Recoverable initial Valid files) :
    Runs (journal.Consistent initial Valid) (fun _ => journal.Completes initial files.committed)
      (fun _ _ => False) journal.recover files := by
  have hInv := hFiles.consistent
  obtain ⟨hSound, hValid, hPhase⟩ := hFiles
  refine readPending_runs hInv ?_
  rcases hPhase with hSettled | ⟨before, pending, part, hFlight, hBreak⟩
  · rw [hSettled.pending]
    exact ⟨hSettled, rfl⟩
  · have hChained := hFlight.chained hSound
    have hChain := (chained_concat _ _).1 hChained
    have hApplies := hSound.applies pending (by simp [hFlight.committed])
    rw [hFlight.found]
    dsimp only
    rw [hApplies.1]
    refine Program.Runs.bind (Program.Runs.done ?_)
    rw [if_neg (not_not.2 hChain.2.2)]
    refine (hFlight.verifyRecovered_runs hBreak hSound hValid).andThen ?_
    rintro records files' ⟨hCommitted, hVerified⟩
    rw [← hCommitted] at hSound hValid ⊢
    rcases hVerified with ⟨rfl, hFlight⟩ | ⟨rfl, hFlight⟩
    · rw [appendPending_appends hChained]
      exact hFlight.append_runs hSound hValid
    · rw [appendPending_skips]
      exact hFlight.finish_runs hSound hValid

end

/- The line of a record fits in what is left of the log. -/
def LogFits (journal : WriteAhead ρ τ φ ε) (files : JournalFiles ρ τ φ) (record : ρ) : Prop :=
  files.content.length + ((journal.codec.encode record).length + 1) ≤ journal.limit

/- The files after a commit. -/
def committing (journal : WriteAhead ρ τ φ ε) (files : JournalFiles ρ τ φ)
    (pending : Pending ρ τ) : JournalFiles ρ τ φ where
  log := some (files.content ++ (journal.codec.encode pending.record ++ [newline]))
  pending := none
  data := journal.final pending.target
  committed := files.committed ++ [pending]

/- A transaction that extends what was read is committed. -/
theorem commit_commits (hExtends : journal.chain.Extends records pending.record)
    (hSealed : journal.chain.Sealed pending.record) (hFits : journal.LogFits files pending.record)
    (hChecks : ∀ write ∈ journal.writes pending.target, write.check = .ok ()) :
    Runs (fun _ => True) (fun _ files' => files' = journal.committing files pending)
      (fun _ _ => False) (journal.commit pending records)
      files := by
  refine perform_runs trivial (Program.Runs.bind ?_)
  refine append_runs hExtends hSealed hFits (fun _ _ => trivial) ?_
  exact finish_runs (fun _ => trivial) hChecks trivial rfl

/- A log without room leaves the pending file. -/
theorem commit_tooLarge (hExtends : journal.chain.Extends records pending.record)
    (hSealed : journal.chain.Sealed pending.record)
    (hFits : ¬ journal.LogFits files pending.record) :
    Runs (fun _ => True) (fun _ _ => False) (fun error files' =>
        error = journal.fault .logTooLarge ∧ files'.pending = some pending)
      (journal.commit pending records) files := by
  refine perform_runs trivial (Program.Runs.bind ?_)
  exact append_tooLarge hExtends hSealed (Nat.not_le.1 hFits) trivial ⟨rfl, rfl⟩

theorem applyWrites_refused {writes : List (Write φ ε)} (hPending : files.pending = some pending)
    (hCheck : ∃ write ∈ writes, write.check ≠ .ok ()) :
    Runs (fun _ => True) (fun _ _ => False) (fun error files' =>
        (∃ write ∈ writes, write.check = .error error) ∧ files'.pending = some pending)
      (applyWrites writes) files := by
  induction writes generalizing files with
  | nil => simp at hCheck
  | cons write rest ih =>
    refine Program.Runs.ofExcept ?_ ?_
    · rintro ⟨⟩ hOk
      obtain ⟨found, hMem, hFound⟩ := hCheck
      have hRest : ∃ write ∈ rest, write.check ≠ .ok () := by
        rcases List.mem_cons.1 hMem with rfl | hMem
        · exact absurd hOk hFound
        · exact ⟨found, hMem, hFound⟩
      refine perform_runs trivial (Program.Runs.mono (ih ?_ hRest) (fun _ _ => id) ?_)
      · exact hPending
      · rintro error files' ⟨⟨write, hWrite, hError⟩, hLeft⟩
        exact ⟨⟨write, List.mem_cons_of_mem _ hWrite, hError⟩, hLeft⟩
    · intro error hError
      exact ⟨⟨write, List.mem_cons_self, hError⟩, hPending⟩

/- So does a write that is refused. -/
theorem commit_refused (hExtends : journal.chain.Extends records pending.record)
    (hSealed : journal.chain.Sealed pending.record) (hFits : journal.LogFits files pending.record)
    (hCheck : ∃ write ∈ journal.writes pending.target, write.check ≠ .ok ()) :
    Runs (fun _ => True) (fun _ _ => False) (fun error files' =>
        (∃ write ∈ journal.writes pending.target,
          write.check = .error error) ∧ files'.pending = some pending)
      (journal.commit pending records) files := by
  refine perform_runs trivial (Program.Runs.bind ?_)
  refine append_runs hExtends hSealed hFits (fun _ _ => trivial) ?_
  exact (applyWrites_refused rfl hCheck).andThen (fun _ _ => False.elim)

/- Records and data are those of the transactions. -/
structure Readable (journal : WriteAhead ρ τ φ ε) (initial : φ)
    (files : JournalFiles ρ τ φ) : Prop where
  verifies : LineLog.verifyLog journal.codec journal.chain journal.limit files.log =
    .ok (recordsOf files.committed)
  data : files.data = journal.contents initial files.committed

/-
  On readable files, a program commits the transaction of its outcome, or fails
  with the error of its outcome.
-/
def Follows (journal : WriteAhead ρ τ φ ε) (initial : φ) (Valid : List (Pending ρ τ) → Prop)
    (outcome : List (Pending ρ τ) → Except ε (α × Pending ρ τ))
    (program : JournalProgram ρ τ φ ε α) : Prop :=
  ∀ files, journal.Readable initial files → journal.Sound files.committed → Valid files.committed →
    Program.Reads JournalCommand.handle files program (do
      let answer ← Program.ofExcept (outcome files.committed)
      journal.commit answer.2 (recordsOf files.committed)
      return answer.1)

variable {outcome : List (Pending ρ τ) → Except ε (α × Pending ρ τ)}
variable {program : JournalProgram ρ τ φ ε α}

theorem verify_reads {records : List ρ} {rest : List ρ → JournalProgram ρ τ φ ε α}
    (hVerifies : LineLog.verifyLog journal.codec journal.chain
      journal.limit files.log = .ok records)
    (hRest : Program.Reads JournalCommand.handle files (rest records) program) :
    Program.Reads JournalCommand.handle files (journal.verify >>= rest) program := by
  refine .perform rfl ?_
  change Program.Reads _ _ ((Program.ofExcept (Except.mapError
    _ (verifyLog journal.codec journal.chain journal.limit files.log))).bind rest) _
  rw [hVerifies]
  exact hRest

theorem Settled.readable (hSettled : journal.Settled initial files)
    (hSound : journal.Sound files.committed) : journal.Readable initial files :=
  ⟨hSettled.verifyLog hSound, hSettled.data⟩

variable [DecidableEq ρ]

/- A call comes to its outcome, and leaves settled files. -/
theorem Follows.runs (hFollows : journal.Follows initial Valid outcome program)
    (hFiles : journal.Recoverable initial Valid files)
    (hNext : ∀ result pending, outcome files.committed = .ok (result, pending) →
      journal.Sound (files.committed ++ [pending]) ∧ Valid (files.committed ++ [pending])) :
    Runs (journal.Consistent initial Valid) (fun result files' => ∃ pending,
        outcome files.committed = .ok (result, pending) ∧
        journal.Completes initial (files.committed ++ [pending]) files')
      (fun error files' =>
        outcome files.committed = .error error ∧ journal.Recoverable initial Valid files')
      (do journal.recover; program) files := by
  refine ((recover_runs hFiles).mono (fun _ _ hDone => hDone) (fun _ _ => False.elim)).andThen ?_
  rintro - files' ⟨hSettled, hCommitted⟩
  obtain ⟨hSound, hValid, -⟩ := hFiles
  rw [← hCommitted] at hSound hValid hNext ⊢
  refine (hFollows files' (hSettled.readable hSound) hSound
    hValid).runs (hSettled.consistent hSound hValid) (Program.Runs.ofExcept ?_ ?_)
  · rintro ⟨result, pending⟩ hOutcome
    obtain ⟨hSoundNext, hValidNext⟩ := hNext result pending hOutcome
    refine ((commit_runs hSettled hSoundNext hValidNext).mono (fun _ _ hDone => hDone)
        (fun _ _ => False.elim)).andThen ?_
    exact fun _ _ hDone => ⟨pending, hOutcome, hDone⟩
  · exact fun error hOutcome => ⟨hOutcome, hSettled.recoverable hSound hValid⟩

end WriteAhead
