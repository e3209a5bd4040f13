import GolutraAgent.Library.Json
import GolutraAgent.Library.WriteAhead
import GolutraAgent.Release.Deployments

/-
  This file models the transactions of the supervisor store. The store keeps a
  control log of chained events and a state file, and changes them together
  through a write-ahead journal: every transaction records one event and
  replaces the state.

  The state is any type that can be written as JSON text. The texts of events,
  payloads and states, their digests and the size of a pending file are
  parameters. An event holds its payload as text. A transaction reads the clock
  once.

  Main declarations:
    * `transactions_recovered`
    * `transact_rejected_iff`
-/

namespace GolutraAgent.Supervisor

open LineLog

open Release (ReleaseError)

inductive SupervisorError
| io (message : String)
| json (message : String)
| invalid (message : String)
| notFound (object : String)
| budgetExhausted (message : String)
| invalidTransition (message : String)
| gateRejected (message : String)
| integrity (message : String)
| release (error : ReleaseError)
| producer (message : String)
deriving DecidableEq

def SupervisorError.isIo : SupervisorError → Bool
| .io _ => true
| _ => false

def maxStateBytes : Nat := 64 * 1024 * 1024

def maxPendingTransactionBytes : Nat := maxStateBytes + 1024 * 1024

def maxControlEventBytes : Nat := 128 * 1024

structure ControlEvent where
  sequence : Nat
  eventType : String
  epochId : Option String
  candidateId : Option String
  payload : String
  recordedAt : Timestamp
  previousDigest : String
  digest : String
deriving DecidableEq

/- The next state of a transaction, with its digest. -/
structure NextState (σ : Type) where
  state : σ
  stateDigest : String

structure SupervisorLibrary (σ : Type) where
  codec : LineCodec ControlEvent
  sha256 : Bytes → String
  payloadText : Json.Value → String
  compact : σ → Bytes
  pretty : σ → Bytes
  parse : Bytes → Option σ
  parse_pretty : ∀ state, parse (pretty state) = some state
  pendingSize : ControlEvent → σ → Nat
  initial : σ

/- The state file is held as its bytes. -/
abbrev ControlFiles (σ : Type) := JournalFiles ControlEvent (NextState σ) (Option Bytes)

abbrev ControlProgram (σ α : Type) :=
  JournalProgram ControlEvent (NextState σ) (Option Bytes) SupervisorError α

abbrev PendingTransaction (σ : Type) := Pending ControlEvent (NextState σ)

def emptyControlFiles (σ : Type) : ControlFiles σ := ⟨none, none, none, []⟩

def controlFault : JournalFault → SupervisorError
| .log .oversized => .integrity "control log exceeds its size limit"
| .log .notText => .io "stream did not contain valid UTF-8"
| .log (.malformed line) => .json ("event at line " ++ toString line)
| .log (.chain line _) => .integrity ("control log chain is broken at line " ++ toString line)
| .log (.digest sequence) =>
  .integrity ("control log digest mismatch at sequence " ++ toString sequence)
| .pendingDigest => .integrity "pending control event digest is invalid"
| .conflict => .integrity "control log conflicts with the pending transaction"
| .notExtending => .integrity "pending control event does not extend the control log"
| .notSealed => .integrity "pending control event digest is invalid"
| .logTooLarge => .invalid "control log exceeds its size limit"

section

variable {σ : Type} (library : SupervisorLibrary σ)

def controlEventDigest (event : ControlEvent) : String :=
  "sha256:" ++ library.sha256 (library.codec.encode { event with digest := "" })

def controlChain : Chain ControlEvent where
  sequence := ControlEvent.sequence
  previous := ControlEvent.previousDigest
  digest := ControlEvent.digest
  sealOf := controlEventDigest library

def supervisorStateDigest (state : σ) : String :=
  "sha256:" ++ library.sha256 (library.compact state)

def checkStateDigest (next : NextState σ) : Except SupervisorError Unit :=
  if supervisorStateDigest library next.state ≠ next.stateDigest then
    .error (.integrity "pending supervisor state digest is invalid")
  else .ok ()

def writeState (state : σ) : Write (Option Bytes) SupervisorError where
  check :=
    if (library.pretty state).length > maxStateBytes then
      .error (.invalid "supervisor state exceeds its size limit")
    else .ok ()
  change := fun _ => some (library.pretty state)

def readState : Option Bytes → Except SupervisorError σ
| none => .ok library.initial
| some bytes =>
  if bytes.length > maxStateBytes then .error (.integrity "supervisor state exceeds its size limit")
  else
    match library.parse bytes with
    | none => .error (.json "supervisor state")
    | some state => .ok state

def controlJournal : WriteAhead ControlEvent (NextState σ) (Option Bytes) SupervisorError where
  codec := library.codec
  chain := controlChain library
  limit := maxStateBytes
  checkTarget := checkStateDigest library
  writes := fun next => [writeState library next.state]
  final := fun next => some (library.pretty next.state)
  writes_final := fun _ _ => rfl
  fault := controlFault

def secretMarkers : List String := ["key", "token", "secret", "password", "credential"]

/-
  What an event keeps of a payload. The levels that are left are counted down,
  where the source counts the depth up.
-/
def sanitizePayload : Nat → Json.Value → Json.Value
| 0, _ => .string "[truncated]"
| levels + 1, .object fields => .object (fields.foldl (fun kept (key, value) =>
    -- keys that are cut to the same text are one field
    Json.insert (Text.bounded key 128)
      (if secretMarkers.any (Text.contains · key.toLower) then .string "[redacted]"
        else sanitizePayload levels value) kept) [])
| levels + 1, .array items => .array ((items.take 128).map (sanitizePayload levels))
| _ + 1, .string text => .string (Text.bounded text 2048)
| _ + 1, value => value

/- The arguments of a transaction, and its operation. -/
structure TransactCall (σ α : Type) where
  eventType : String
  epochId : Option String
  candidateId : Option String
  payload : Json.Value
  operation : σ → Except SupervisorError (α × σ)
  now : Timestamp

variable {α : Type}

variable (events : List ControlEvent) (call : TransactCall σ α)

def unsignedEvent : ControlEvent where
  sequence := events.length + 1
  eventType := Text.bounded call.eventType 128
  epochId := call.epochId.map (Text.bounded · 256)
  candidateId := call.candidateId.map (Text.bounded · 256)
  payload := library.payloadText (sanitizePayload 5 call.payload)
  recordedAt := call.now
  previousDigest := (controlChain library).lastDigest events
  digest := ""

def prepareControlEvent : Except SupervisorError ControlEvent :=
  let unsigned := unsignedEvent library events call
  let event := { unsigned with digest := controlEventDigest library unsigned }
  if (library.codec.encode unsigned).length > maxControlEventBytes then
    .error (.invalid "control event exceeds its size limit")
  else if (library.codec.encode event).length > maxControlEventBytes then
    .error (.invalid "control event exceeds its size limit")
  else .ok event

/- The pending transaction, if its file may be written. -/
def prepareTransaction (next : σ) : Except SupervisorError (PendingTransaction σ) :=
  match prepareControlEvent library events call with
  | .error error => .error error
  | .ok event =>
    if library.pendingSize event next > maxPendingTransactionBytes then
      .error (.invalid "supervisor pending transaction exceeds its size limit")
    else .ok ⟨event, next, supervisorStateDigest library next⟩

/- A transaction after it recovered the store. -/
def transactRecovered (call : TransactCall σ α) : ControlProgram σ α := do
  let events ← (controlJournal library).verify
  let data ← WriteAhead.readData
  let state ← Program.ofExcept (readState library data)
  let changed ← Program.ofExcept (call.operation state)
  let pending ← Program.ofExcept (prepareTransaction library events call changed.2)
  (controlJournal library).commit pending events
  return changed.1

def transact (call : TransactCall σ α) : ControlProgram σ α :=
  if Text.isBlank call.eventType then .fail (.invalid "control event type is required")
  else do
    (controlJournal library).recover
    transactRecovered library call

end

section

variable {σ α : Type} (library : SupervisorLibrary σ)

/- The state that the last committed transaction left. -/
def stateOf (committed : List (PendingTransaction σ)) : σ :=
  match committed.getLast? with
  | none => library.initial
  | some pending => pending.target.state

variable (call : TransactCall σ α)

/- The result of a call, and the transaction it commits. -/
def transactOutcome (committed : List (PendingTransaction σ)) :
    Except SupervisorError (α × PendingTransaction σ) :=
  if Text.isBlank call.eventType then .error (.invalid "control event type is required")
  else do
    let changed ← call.operation (stateOf library committed)
    let pending ← prepareTransaction library (WriteAhead.recordsOf committed) call changed.2
    return (changed.1, pending)

/- Neither size limit is reached by a call. -/
def WithinLimits (files : ControlFiles σ) : Prop :=
  ∀ result pending, transactOutcome library call files.committed = .ok (result, pending) →
      (written library.codec (WriteAhead.recordsOf files.committed ++
          [pending.record])).length ≤ maxStateBytes ∧
      (library.pretty pending.target.state).length ≤ maxStateBytes

end

section

variable {σ α : Type} {library : SupervisorLibrary σ} {call : TransactCall σ α} {result : α}
variable {events : List ControlEvent} {next : σ} {committed : List (PendingTransaction σ)}
variable {pending : PendingTransaction σ}

theorem prepareTransaction_eq_ok
    (hPrepare : prepareTransaction library events call next = .ok pending) :
    (controlChain library).Extends events pending.record ∧
      (controlChain library).Sealed pending.record ∧ pending.target =
        ⟨next, supervisorStateDigest library next⟩ := by
  unfold prepareTransaction at hPrepare
  split at hPrepare
  · cases hPrepare
  · rename_i event hEvent
    split at hPrepare
    · cases hPrepare
    · cases hPrepare
      dsimp only [prepareControlEvent] at hEvent
      split at hEvent
      · cases hEvent
      · split at hEvent
        · cases hEvent
        · cases hEvent
          exact ⟨⟨rfl, rfl⟩, rfl, rfl⟩

theorem transactOutcome_eq_ok
    (hOutcome : transactOutcome library call committed = .ok (result, pending)) :
    ∃ next, Text.isBlank call.eventType = false ∧
      call.operation (stateOf library committed) = .ok (result, next) ∧ prepareTransaction library
          (WriteAhead.recordsOf committed) call next =
        .ok pending := by
  unfold transactOutcome at hOutcome
  split at hOutcome
  · cases hOutcome
  · rename_i hType
    obtain ⟨⟨found, next⟩, hOperation, hOutcome⟩ := Transaction.bind_eq_ok.1 hOutcome
    obtain ⟨prepared, hPrepare, hOutcome⟩ := Transaction.bind_eq_ok.1 hOutcome
    cases hOutcome
    exact ⟨next, by simpa using hType, hOperation, hPrepare⟩

theorem applies_of_fits {state : NextState σ}
    (hDigest : state.stateDigest = supervisorStateDigest library state.state)
    (hFits : (library.pretty state.state).length ≤ maxStateBytes) :
    (controlJournal library).Applies state := by
  refine ⟨?_, ?_⟩
  · change checkStateDigest library state = .ok ()
    simp [checkStateDigest, hDigest]
  · intro write hWrite
    rw [List.mem_singleton.1 hWrite]
    exact if_neg (Nat.not_lt.2 hFits)

/- A transaction within the limits extends sound ones. -/
theorem sound_transact (hSound : (controlJournal library).Sound committed)
    (hOutcome : transactOutcome library call committed = .ok (result, pending))
    (hLog : (written library.codec (WriteAhead.recordsOf committed ++
        [pending.record])).length ≤ maxStateBytes)
    (hState : (library.pretty pending.target.state).length ≤ maxStateBytes) :
    (controlJournal library).Sound (committed ++ [pending]) := by
  obtain ⟨next, -, -, hPrepare⟩ := transactOutcome_eq_ok hOutcome
  obtain ⟨hExtends, hSealed, hTarget⟩ := prepareTransaction_eq_ok hPrepare
  exact hSound.concat hExtends hSealed hLog (applies_of_fits (by rw [hTarget]) hState)

/- The state file is read back as the last state. -/
theorem readState_contents (hSound : (controlJournal library).Sound committed) :
    readState library ((controlJournal library).contents none committed) =
      .ok (stateOf library committed) := by
  rcases List.eq_nil_or_concat committed with rfl | ⟨before, last, rfl⟩
  · rfl
  · rw [List.concat_eq_append] at ⊢
    have hCheck := (hSound.applies last (by simp)).2 (writeState library last.target.state)
      List.mem_cons_self
    have hFits : ¬ (library.pretty last.target.state).length > maxStateBytes := by
      intro hLarge
      simp only [writeState, if_pos hLarge] at hCheck
      cases hCheck
    rw [WriteAhead.contents_concat]
    change readState library (some (library.pretty last.target.state)) = _
    simp [readState, if_neg hFits, library.parse_pretty, stateOf]

end

section

variable {σ α : Type} {library : SupervisorLibrary σ}
variable {call : TransactCall σ α} {files : ControlFiles σ}

abbrev ControlInv (library : SupervisorLibrary σ) :=
  (controlJournal library).Consistent none (fun _ => True)

abbrev ControlRest (library : SupervisorLibrary σ) :=
  (controlJournal library).Recoverable none (fun _ => True)

/- A recovered store with these transactions. -/
abbrev ControlSettled (library : SupervisorLibrary σ) (committed : List (PendingTransaction σ)) :=
  (controlJournal library).Completes none committed

variable {committed : List (PendingTransaction σ)}

theorem ControlSettled.rest (hFiles : ControlSettled library committed files)
    (hSound : (controlJournal library).Sound committed) : ControlRest library files := by
  obtain ⟨hSettled, rfl⟩ := hFiles
  exact hSettled.recoverable hSound trivial

theorem transactOutcome_of_operation {result : α} {next : σ}
    (hType : Text.isBlank call.eventType = false)
    (hOperation : call.operation (stateOf library committed) = .ok (result, next)) :
    transactOutcome library call committed = (do
      let pending ← prepareTransaction library (WriteAhead.recordsOf committed) call next
      return (result, pending)) := by
  simp only [transactOutcome, hType, hOperation]
  rfl

/- A call on a recovered store does what its outcome says. -/
theorem transactRecovered_follows (hType : Text.isBlank call.eventType = false) :
    (controlJournal library).Follows none (fun _ => True) (transactOutcome library call)
      (transactRecovered library call) := by
  intro files hReadable hSound _
  have hRead := readState_contents hSound
  rw [← hReadable.data] at hRead
  refine WriteAhead.verify_reads hReadable.verifies (.perform rfl ?_)
  change Program.Reads _ _ (Program.ofExcept (readState library files.data) >>= _) _
  rw [hRead]
  change Program.Reads _ _ (Program.ofExcept
    (call.operation (stateOf library files.committed)) >>= _) _
  cases hOperation : call.operation (stateOf library files.committed) with
  | error error =>
    rw [transactOutcome, hType, hOperation]
    exact .refl _
  | ok changed =>
    rw [transactOutcome_of_operation hType hOperation]
    change Program.Reads _ _ (Program.ofExcept
      (prepareTransaction library _ call changed.2) >>= _) _
    cases prepareTransaction library _ call changed.2 <;> exact .refl _

/-
  A call begins where the last one ended or crashed, and does what its outcome
  says.
-/
theorem transact_runs (hFiles : ControlRest library files)
    (hLimits : WithinLimits library call files) :
    WriteAhead.Runs (ControlInv library) (fun result files' => ∃ pending,
        transactOutcome library call files.committed = .ok (result, pending) ∧
        ControlSettled library (files.committed ++ [pending]) files')
      (fun error files' =>
        transactOutcome library call files.committed = .error error ∧ ControlRest library files')
      (transact library call) files := by
  unfold transact
  split
  · rename_i hType
    refine ⟨?_, hFiles⟩
    rw [transactOutcome, if_pos hType]
  · rename_i hType
    refine (transactRecovered_follows (by simpa using hType)).runs hFiles ?_
    intro result pending hOutcome
    obtain ⟨hLog, hState⟩ := hLimits result pending hOutcome
    exact ⟨sound_transact hFiles.sound hOutcome hLog hState, trivial⟩

/- A call keeps the files recoverable. -/
theorem transact_rests (call : TransactCall σ α) (files : ControlFiles σ)
    (hFiles : ControlRest library files) (hLimits : WithinLimits library call files) :
    WriteAhead.Runs (ControlInv library) (fun _ => ControlRest library)
      (fun _ => ControlRest library) (transact library call) files := by
  refine (transact_runs hFiles hLimits).mono ?_ (fun _ _ hBad => hBad.2)
  rintro result files' ⟨pending, hOutcome, hDone⟩
  obtain ⟨hLog, hState⟩ := hLimits result pending hOutcome
  exact hDone.rest (sound_transact hFiles.sound hOutcome hLog hState)

end

section

variable {σ α : Type}

/- The store, and the call that holds its lock. -/
abbrev ControlSystem (σ α : Type) := Locked (journalInterface ControlEvent (NextState σ)
    (Option Bytes)) (ControlFiles σ) SupervisorError α

abbrev ControlOp (σ α : Type) := LockedOp (TransactCall σ α) Unit Empty

def controlStep (library : SupervisorLibrary σ) :
    ControlSystem σ α → ControlOp σ α → ControlSystem σ α :=
  Locked.step (fun command _ => JournalCommand.handle command)
    (transact library) (fun files _ => files)

def emptyControlStore : ControlSystem σ α := ⟨emptyControlFiles σ, none⟩

/-
  No process crashes after the last byte of an event and before its line break,
  and no size limit is reached.
-/
def Unbroken (library : SupervisorLibrary σ) : ControlSystem σ α → ControlOp σ α → Prop :=
  Locked.Permitted (fun files => ¬ (controlJournal library).Unterminated files)
    (WithinLimits library)

/- The files of a store that was recovered. -/
structure Recovered (library : SupervisorLibrary σ) (committed : List (PendingTransaction σ))
    (files : ControlFiles σ) : Prop where
  history : files.committed = committed
  content : files.content = written library.codec (WriteAhead.recordsOf committed)
  verifies : verifyLog library.codec (controlChain library) maxStateBytes files.log =
    .ok (WriteAhead.recordsOf committed)
  state : readState library files.data = .ok (stateOf library committed)
  pending : files.pending = none

variable {files : ControlFiles σ} {library : SupervisorLibrary σ}

theorem Recovered.of_settled {committed : List (PendingTransaction σ)}
    (hFiles : ControlSettled library committed files)
    (hSound : (controlJournal library).Sound committed) : Recovered library committed files := by
  obtain ⟨hSettled, rfl⟩ := hFiles
  refine ⟨rfl, hSettled.content, hSettled.verifyLog hSound, ?_, hSettled.pending⟩
  rw [hSettled.data]
  exact readState_contents hSound

/-
  A store as the next operation finds it: recovery completes all that was
  committed, and a call within the limits comes to its outcome and leaves a
  recovered store.
-/
structure Journaled (α : Type) (library : SupervisorLibrary σ) (files : ControlFiles σ) : Prop where
  recovers : ∃ files', (controlJournal library).recover.exec
      JournalCommand.handle files = (.ok (), files') ∧
    Recovered library files.committed files'
  commits : ∀ (call : TransactCall σ α), WithinLimits library call files → ∀ result pending,
      transactOutcome library call files.committed = .ok (result, pending) →
      ∃ files', (transact library call).exec JournalCommand.handle files = (.ok result, files') ∧
        Recovered library (files.committed ++ [pending]) files'
  refuses : ∀ (call : TransactCall σ α), WithinLimits library call files → ∀ error,
      transactOutcome library call files.committed = .error error →
      ((transact library call).exec JournalCommand.handle files).1 = .error error

theorem journaled_of_rest (hFiles : ControlRest library files) : Journaled α library files := by
  refine ⟨?_, ?_, ?_⟩
  · have hRecovers := (WriteAhead.recover_runs hFiles).exec
    split at hRecovers
    · next result files' hExec => exact ⟨files', hExec, .of_settled hRecovers hFiles.sound⟩
    · exact hRecovers.elim
  · intro call hLimits result pending hOutcome
    have hRuns := (transact_runs hFiles hLimits).exec
    split at hRuns
    · rename_i found files' hExec
      obtain ⟨prepared, hFound, hDone⟩ := hRuns
      cases hOutcome.symm.trans hFound
      obtain ⟨hLog, hState⟩ := hLimits _ _ hOutcome
      exact ⟨files', hExec, .of_settled hDone (sound_transact hFiles.sound hOutcome hLog hState)⟩
    · next error files' hExec => cases hOutcome.symm.trans hRuns.1
  · intro call hLimits error hOutcome
    have hRuns := (transact_runs hFiles hLimits).exec
    split at hRuns
    · obtain ⟨prepared, hFound, -⟩ := hRuns
      cases hOutcome.symm.trans hFound
    · rename_i found files' hExec
      cases hOutcome.symm.trans hRuns.1
      rw [hExec]

theorem empty_controlRest (library : SupervisorLibrary σ) :
    ControlRest library (emptyControlFiles σ) := by
  refine ⟨⟨trivial, Nat.zero_le _, ?_⟩, trivial, .inl ⟨rfl, rfl, rfl⟩⟩
  intro pending hMem
  cases hMem

/-
  Over every sequence of transactions in which no process crashes between an
  event and its line break and no size limit is reached, the next operation
  recovers everything that was committed, and further calls commit.
-/
theorem transactions_recovered (library : SupervisorLibrary σ) (ops : List (ControlOp σ α))
    (hOps : Machine.Guarded (controlStep library) (Unbroken library) emptyControlStore ops)
    (hFree : (Machine.run (controlStep library) emptyControlStore ops).inside = none) :
    Journaled α library (Machine.run (controlStep library) emptyControlStore ops).world := by
  have hRest := empty_controlRest library
  have hRun := Locked.run_atRest (fun files hInv hSafe =>
      WriteAhead.Consistent.recoverable hInv hSafe)
    transact_rests hRest.consistent hRest hOps
  exact journaled_of_rest (hRun.free hFree)

end

section

variable {σ α : Type} {library : SupervisorLibrary σ} {files : ControlFiles σ}

/- A store whose log cannot be read is lost to its calls. -/
theorem not_journaled_of_error (hPending : files.pending = none)
    (hFault : (verifyLog library.codec (controlChain library)
      maxStateBytes files.log).toOption = none) : ¬ Journaled α library files := by
  rintro ⟨⟨files', hExec, hRecovered⟩, -, -⟩
  have hRecover : WriteAhead.Runs (fun _ => True) (fun _ left => left = files) (fun _ _ => False)
      (controlJournal library).recover files := by
    refine WriteAhead.readPending_runs trivial ?_
    rw [hPending]
    rfl
  have hSame := hRecover.exec
  rw [hExec] at hSame
  cases hSame
  cases (congrArg Except.toOption hRecovered.verifies).symm.trans hFault

end

deriving instance Encodable for ControlEvent

def noteEvent (sequence : Nat) (previousDigest digest : String) : ControlEvent where
  sequence := sequence
  eventType := Text.bounded "noted" 128
  epochId := none
  candidateId := none
  payload := ""
  recordedAt := ⟨0⟩
  previousDigest := previousDigest
  digest := digest

def noteEvents : List ControlEvent := [noteEvent 1 "" "", noteEvent 1 "" ("sha256:" ++ ""),
    noteEvent 2 ("sha256:" ++ "") "", noteEvent 2 ("sha256:" ++ "") ("sha256:" ++ "")]

/- A store without a state, whose lines are short. -/
def noteLibrary : SupervisorLibrary Unit where
  codec := .favouring noteEvents
  sha256 := fun _ => ""
  payloadText := fun _ => ""
  compact := fun _ => []
  pretty := fun _ => []
  parse := fun _ => some ()
  parse_pretty := fun _ => rfl
  pendingSize := fun _ _ => 0
  initial := ()

def noteCall : TransactCall Unit Unit where
  eventType := "noted"
  epochId := none
  candidateId := none
  payload := .null
  operation := fun state => .ok ((), state)
  now := ⟨0⟩

def note (sequence : Nat) (previousDigest : String) : PendingTransaction Unit :=
  ⟨noteEvent sequence previousDigest ("sha256:" ++ ""), (), "sha256:" ++ ""⟩

def firstNote : PendingTransaction Unit := note 1 ""

theorem prepare_firstNote : prepareTransaction noteLibrary [] noteCall () = .ok firstNote := rfl

theorem outcome_firstNote : transactOutcome noteLibrary noteCall [] = .ok ((), firstNote) := rfl

theorem withinLimits_firstNote : WithinLimits noteLibrary noteCall (emptyControlFiles Unit) := by
  intro result pending hOutcome
  cases outcome_firstNote.symm.trans hOutcome
  exact ⟨by decide +kernel, Nat.zero_le _⟩

/- The first process crashes before the line break. -/
def brokenNotes : List (ControlOp Unit Unit) :=
  .enter noteCall :: (List.replicate 9 (.advance ()) ++
    .crash :: .enter noteCall :: List.replicate 18 (.advance ()))

/-
  The process of a transaction crashes after the last byte of its event. The
  next transaction succeeds, and leaves a log that cannot be read.
-/
theorem notes_unreadable :
    ∃ ops, (Machine.run (controlStep noteLibrary) (emptyControlStore : ControlSystem Unit Unit)
        ops).inside = none ∧
      ¬ Journaled Unit noteLibrary (Machine.run (controlStep noteLibrary)
          (emptyControlStore : ControlSystem Unit Unit) ops).world :=
  ⟨brokenNotes, rfl, not_journaled_of_error rfl (by decide +kernel)⟩

/- The first process crashes inside of its line, and the second one goes on. -/
def tornNotes : List (ControlOp Unit Unit) :=
  .enter noteCall :: (List.replicate 8 (.advance ()) ++
    .crash :: .enter noteCall :: List.replicate 26 (.advance ()))

theorem outcome_secondNote : transactOutcome noteLibrary noteCall [firstNote] =
    .ok ((), note 2 ("sha256:" ++ "")) := rfl

/- Both notes are recovered. -/
theorem note_recovered :
    let store := Machine.run (controlStep noteLibrary) emptyControlStore tornNotes
    store.world.committed = [firstNote, note 2 ("sha256:" ++ "")] ∧
      Journaled Unit noteLibrary store.world := by
  refine ⟨rfl, transactions_recovered noteLibrary tornNotes ⟨fun _ => withinLimits_firstNote, ?_⟩
    rfl⟩
  refine (Machine.guarded_append _ _ _ _ _).mpr ⟨Locked.guarded_advances _ _ 8, ?_, fun _ => ?_,
    Locked.guarded_advances _ _ 26⟩
  · rintro ⟨_, ⟨⟩, hTail⟩
    revert hTail
    decide +kernel
  · intro result pending hOutcome
    cases outcome_secondNote.symm.trans hOutcome
    exact ⟨by decide +kernel, Nat.zero_le _⟩

end GolutraAgent.Supervisor
