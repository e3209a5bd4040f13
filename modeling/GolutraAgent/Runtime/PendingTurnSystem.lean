import Mathlib.Logic.Function.Basic
import GolutraAgent.Library.Machine
import GolutraAgent.Runtime.PendingTurnQueue

/-
  This file places the pending-turn queue among its users: any number of clients
  that hold reservations and mutations, and the one consumer. A state carries
  the queue, the handles that are still open, and what has been told to whom.

  The abstract model is one small automaton for each turn, its phase. In a
  tracked state the queue, the open handles and the history of a turn are those
  of its phase.
-/

namespace GolutraAgent.Runtime

/- A reservation not yet committed or dropped. -/
structure OpenReservation (κ : Type) where
  handle : PendingTurnReservation
  requested : TakenPendingTurn κ

/-
  A mutation not yet committed or dropped. An update requests new content and a
  cancellation requests none.
-/
structure OpenMutation (κ : Type) where
  handle : PendingTurnMutation κ
  requested : Option (TakenPendingTurn κ)

variable {κ : Type}

abbrev OpenReservation.turnId (reservation : OpenReservation κ) : TurnId :=
  reservation.handle.turnId

abbrev OpenMutation.turnId (mutation : OpenMutation κ) : TurnId := mutation.handle.turnId

abbrev TakenPendingTurn.turnId (taken : TakenPendingTurn κ) : TurnId := taken.turn.turnId

/-
  The queue and the open handles are the state of the program. The other fields
  record the past: the turns ever reserved, the content each turn was last
  committed with, what the consumer was handed, and the turns whose cancellation
  was committed.
-/
structure QueueSystem (κ : Type) where
  queue : PendingTurnQueue κ
  reservations : List (OpenReservation κ)
  mutations : List (OpenMutation κ)
  reserved : List TurnId
  committed : TurnId → Option (TakenPendingTurn κ)
  delivered : List (TakenPendingTurn κ)
  cancelled : List TurnId

/-
  The operations of the clients and of the consumer. A handle is named by its
  turn: no turn ever has two open handles.
-/
inductive QueueOp (κ : Type)
| reserve (turn : ConfiguredPendingAgentTurn κ) (executionOrigin : PendingTurnExecutionOrigin)
| commitReservation (turnId : TurnId)
| dropReservation (turnId : TurnId)
| reserveUpdate (turnId : TurnId) (replacement : ConfiguredPendingAgentTurn κ)
    (executionOrigin : PendingTurnExecutionOrigin)
| reserveCancellation (turnId : TurnId)
| commitMutation (turnId : TurnId)
| dropMutation (turnId : TurnId)
| takeOrClose
| takeReadySteers
| close

namespace QueueSystem

variable {κ : Type}

def new (capacity : Nat) : QueueSystem κ where
  queue := PendingTurnQueue.new capacity
  reservations := []
  mutations := []
  reserved := []
  committed := fun _ => none
  delivered := []
  cancelled := []

variable (s : QueueSystem κ)

variable (turnId : TurnId)

def findReservation : Option (OpenReservation κ) :=
  s.reservations.find? (·.turnId = turnId)

def findMutation : Option (OpenMutation κ) := s.mutations.find? (·.turnId = turnId)

/- A handle is gone once it is committed or dropped. -/
def withoutReservation : List (OpenReservation κ) :=
  KeyedList.retainOther OpenReservation.turnId turnId s.reservations

def withoutMutation : List (OpenMutation κ) :=
  KeyedList.retainOther OpenMutation.turnId turnId s.mutations

/- The history after a mutation was committed. -/
def recordMutation (mutation : OpenMutation κ) : QueueSystem κ :=
  match mutation.requested with
  | some content =>
    { s with committed := Function.update s.committed mutation.turnId (some content) }
  | none => { s with cancelled := s.cancelled ++ [mutation.turnId] }

/- A call without its handle does nothing. -/
def step : QueueOp κ → QueueSystem κ
| .reserve turn executionOrigin =>
  match s.queue.reserveWithOrigin turn executionOrigin with
  | .error _ => s
  | .ok (handle, queue) =>
    { s with
      queue := queue
      reservations := s.reservations ++ [⟨handle, ⟨turn, executionOrigin⟩⟩]
      reserved := s.reserved ++ [turn.turnId] }
| .commitReservation turnId =>
  match s.findReservation turnId with
  | none => s
  | some reservation =>
    { s with
      queue := s.queue.commit reservation.turnId
      reservations := s.withoutReservation turnId
      committed := Function.update s.committed reservation.turnId (some reservation.requested) }
| .dropReservation turnId =>
  match s.findReservation turnId with
  | none => s
  | some reservation =>
    { s with
      queue := s.queue.rollback reservation.turnId
      reservations := s.withoutReservation turnId }
| .reserveUpdate turnId replacement executionOrigin =>
  match s.queue.reserveUpdateWithOrigin turnId replacement executionOrigin with
  | .error _ => s
  | .ok (handle, queue) =>
    { s with
      queue := queue
      mutations := s.mutations ++ [⟨handle, some ⟨replacement, executionOrigin⟩⟩] }
| .reserveCancellation turnId =>
  match s.queue.reserveCancellation turnId with
  | .error _ => s
  | .ok (handle, queue) =>
    { s with
      queue := queue
      mutations := s.mutations ++ [⟨handle, none⟩] }
| .commitMutation turnId =>
  match s.findMutation turnId with
  | none => s
  | some mutation =>
    recordMutation { s with
        queue := s.queue.commitMutation mutation.turnId mutation.handle.kind
        mutations := s.withoutMutation turnId }
      mutation
| .dropMutation turnId =>
  match s.findMutation turnId with
  | none => s
  | some mutation =>
    { s with
      queue := s.queue.rollbackMutation mutation.turnId mutation.handle.kind
      mutations := s.withoutMutation turnId }
| .takeOrClose =>
  match s.queue.takeOrClose with
  | (.ready (some taken), queue) =>
    { s with
      queue := queue
      delivered := s.delivered ++ [taken] }
  | (_, queue) => { s with queue := queue }
| .takeReadySteers =>
  let (ready, queue) := s.queue.takeReadySteers
  { s with
    queue := queue
    delivered := s.delivered ++ ready }
| .close => { s with queue := s.queue.close }

/- A turn is reserved under an identifier never used before. -/
def FreshTurn : QueueOp κ → Prop
| .reserve turn _ => turn.turnId ∉ s.reserved
| _ => True

instance (s : QueueSystem κ) (op : QueueOp κ) : Decidable (s.FreshTurn op) :=
  match op with
  | .reserve turn _ => inferInstanceAs (Decidable (turn.turnId ∉ s.reserved))
  | .commitReservation _ | .dropReservation _ | .reserveUpdate _ _ _ | .reserveCancellation _
  | .commitMutation _ | .dropMutation _ | .takeOrClose | .takeReadySteers | .close => isTrue trivial

end QueueSystem

/- Where a turn stands, with the content it has there. -/
inductive TurnPhase (κ : Type)
| absent
| reserved (content : TakenPendingTurn κ)
| queued (content : TakenPendingTurn κ)
| updating (content replacement : TakenPendingTurn κ)
| cancelling (content : TakenPendingTurn κ)
| delivered (content : TakenPendingTurn κ)
| cancelled (content : TakenPendingTurn κ)

/-
  The edges of the automaton: which operation moves which turn from one phase to
  which other.
-/
inductive PhaseChange {κ : Type} :
    QueueOp κ → TurnId → TurnPhase κ → TurnPhase κ → Prop
| reserve (turn executionOrigin) : PhaseChange (.reserve turn executionOrigin) turn.turnId
      .absent (.reserved ⟨turn, executionOrigin⟩)
| commitReservation (turnId content) :
    PhaseChange (.commitReservation turnId) turnId (.reserved content) (.queued content)
| dropReservation (turnId content) :
    PhaseChange (.dropReservation turnId) turnId (.reserved content) .absent
| reserveUpdate (turnId replacement executionOrigin content) :
    PhaseChange (.reserveUpdate turnId replacement executionOrigin) turnId (.queued content)
      (.updating content ⟨replacement, executionOrigin⟩)
| reserveCancellation (turnId content) :
    PhaseChange (.reserveCancellation turnId) turnId (.queued content) (.cancelling content)
| commitUpdate (turnId content replacement) : PhaseChange (.commitMutation turnId) turnId
      (.updating content replacement) (.queued replacement)
| commitCancellation (turnId content) :
    PhaseChange (.commitMutation turnId) turnId (.cancelling content) (.cancelled content)
| dropUpdate (turnId content replacement) :
    PhaseChange (.dropMutation turnId) turnId (.updating content replacement) (.queued content)
| dropCancellation (turnId content) :
    PhaseChange (.dropMutation turnId) turnId (.cancelling content) (.queued content)
| takeOrClose (turnId content) :
    PhaseChange .takeOrClose turnId (.queued content) (.delivered content)
| takeReadySteers (turnId content) :
    PhaseChange .takeReadySteers turnId (.queued content) (.delivered content)

/- Everything a state holds about one turn. -/
structure TurnView (κ : Type) where
  entries : List (PendingTurnEntry κ)
  reservations : List (OpenReservation κ)
  mutations : List (OpenMutation κ)
  committed : Option (TakenPendingTurn κ)
  delivered : List (TakenPendingTurn κ)
  cancelled : List TurnId

namespace TurnView

variable {κ : Type}

/- All but the entries in the queue. -/
def handles (v : TurnView κ) : TurnView κ := { v with entries := [] }

theorem ext_handles {v w : TurnView κ} (hEntries : v.entries = w.entries)
    (hHandles : v.handles = w.handles) : v = w := by
  cases v
  simp_all [handles]

end TurnView

namespace TakenPendingTurn

variable {κ : Type}

variable (content : TakenPendingTurn κ) (durable : Bool)

/- The queue entry with this content. -/
def entry : PendingTurnEntry κ := ⟨content.turn, content.executionOrigin, durable⟩

@[simp] theorem taken_entry : (content.entry durable).taken = content := rfl

@[simp] theorem durable_entry : (content.entry durable).durable = durable := rfl

end TakenPendingTurn

namespace TurnPhase

variable {κ : Type}

/- What a state holds about a turn in a given phase. -/
def view (turnId : TurnId) : TurnPhase κ → TurnView κ
| .absent => ⟨[], [], [], none, [], []⟩
| .reserved content => ⟨[content.entry false], [⟨⟨turnId⟩, content⟩], [], none, [], []⟩
| .queued content => ⟨[content.entry true], [], [], some content, [], []⟩
| .updating content replacement =>
  ⟨[replacement.entry false], [], [⟨⟨turnId, .update content.turn
      content.executionOrigin⟩, some replacement⟩],
    some content, [], []⟩
| .cancelling content =>
  ⟨[content.entry false], [], [⟨⟨turnId, .cancel⟩, none⟩], some content, [], []⟩
| .delivered content => ⟨[], [], [], some content, [content], []⟩
| .cancelled content => ⟨[], [], [], some content, [], [turnId]⟩

/- The contents of a phase are contents of the turn. -/
def Names (turnId : TurnId) : TurnPhase κ → Prop
| .absent => True
| .reserved content | .queued content => content.turnId = turnId
| .updating content replacement => content.turnId = turnId ∧ replacement.turnId = turnId
| .cancelling content | .delivered content | .cancelled content => content.turnId = turnId

end TurnPhase

namespace QueueSystem

variable {κ : Type}

/- Everything `s` holds about one turn. -/
def view (s : QueueSystem κ) (turnId : TurnId) : TurnView κ where
  entries := KeyedList.ofKey PendingTurnEntry.turnId turnId s.queue.turns
  reservations := KeyedList.ofKey OpenReservation.turnId turnId s.reservations
  mutations := KeyedList.ofKey OpenMutation.turnId turnId s.mutations
  committed := s.committed turnId
  delivered := KeyedList.ofKey TakenPendingTurn.turnId turnId s.delivered
  cancelled := KeyedList.ofKey id turnId s.cancelled

/- Every turn of `s` is in the phase that `phases` names. -/
structure Tracks (s : QueueSystem κ) (phases : TurnId → TurnPhase κ) : Prop where
  view : ∀ turnId, s.view turnId = (phases turnId).view turnId
  names : ∀ turnId, (phases turnId).Names turnId
  known : ∀ turnId, phases turnId ≠ .absent → turnId ∈ s.reserved

end QueueSystem

/- What an operation does to the entry of one turn. -/
inductive EntryChange (κ : Type)
| settle
| hold
| replace (content : TakenPendingTurn κ) (durable : Bool)
| remove

/- What an operation writes to the queue. -/
inductive QueueWrite (κ : Type)
| push (entry : PendingTurnEntry κ)
| edit (turnId : TurnId) (change : EntryChange κ)
| close

namespace EntryChange

variable {κ : Type}

def apply (entry : PendingTurnEntry κ) : EntryChange κ → Option (PendingTurnEntry κ)
| .settle => some { entry with durable := true }
| .hold => some { entry with durable := false }
| .replace content durable => some (content.entry durable)
| .remove => none

/- A change keeps the turn, if a new content is of the turn. -/
theorem keepsKey {turnId : TurnId} {change : EntryChange κ}
    (hReplace : ∀ content durable, change = .replace content durable → content.turnId = turnId) :
    KeyedList.KeepsKey PendingTurnEntry.turnId turnId (fun entry => change.apply entry) := by
  rintro entry _ hKey hSome
  cases change with
  | replace content durable =>
    cases hSome
    exact hReplace content durable rfl
  | remove => cases hSome
  | settle | hold =>
    cases hSome
    exact hKey

end EntryChange

namespace QueueWrite

variable {κ : Type}

variable (queue : PendingTurnQueue κ)

def apply : QueueWrite κ → PendingTurnQueue κ
| .push entry => { queue with turns := queue.turns ++ [entry] }
| .edit turnId change =>
  { queue with
    turns := KeyedList.editAt PendingTurnEntry.turnId turnId (fun entry => change.apply entry)
      queue.turns }
| .close => queue.close

def applyAll (writes : List (QueueWrite κ)) : PendingTurnQueue κ := writes.foldl apply queue

@[simp] theorem applyAll_nil : applyAll queue [] = queue := rfl

@[simp] theorem applyAll_cons (write : QueueWrite κ) (writes : List (QueueWrite κ)) :
    applyAll queue (write :: writes) = applyAll (write.apply queue) writes := rfl

theorem applyAll_append (writes more : List (QueueWrite κ)) :
    applyAll queue (writes ++ more) = applyAll (applyAll queue writes) more := by
  simp [applyAll]

/-
  A write leaves the entry of `turnId` alone, and an edit keeps the turn of what
  it edits.
-/
def Avoids (turnId : TurnId) : QueueWrite κ → Prop
| .push entry => entry.turnId ≠ turnId
| .edit other change =>
  other ≠ turnId ∧ KeyedList.KeepsKey PendingTurnEntry.turnId other
      (fun entry => change.apply entry)
| .close => True

end QueueWrite

namespace QueueSystem

variable {κ : Type}

/-
  What an operation writes when it is performed in `s`. An operation that is
  refused, or that waits, writes nothing.
-/
def writes (s : QueueSystem κ) : QueueOp κ → List (QueueWrite κ)
| .reserve turn executionOrigin =>
  match s.queue.reserveWithOrigin turn executionOrigin with
  | .error _ => []
  | .ok _ => [.push ⟨turn, executionOrigin, false⟩]
| .commitReservation turnId =>
  match s.findReservation turnId with
  | none => []
  | some _ => [.edit turnId .settle]
| .dropReservation turnId =>
  match s.findReservation turnId with
  | none => []
  | some _ => [.edit turnId .remove]
| .reserveUpdate turnId replacement executionOrigin =>
  match s.queue.reserveUpdateWithOrigin turnId replacement executionOrigin with
  | .error _ => []
  | .ok _ => [.edit turnId (.replace ⟨replacement, executionOrigin⟩ false)]
| .reserveCancellation turnId =>
  match s.queue.reserveCancellation turnId with
  | .error _ => []
  | .ok _ => [.edit turnId .hold]
| .commitMutation turnId =>
  match s.findMutation turnId with
  | none => []
  | some mutation =>
    match mutation.handle.kind with
    | .update _ _ => [.edit turnId .settle]
    | .cancel => [.edit turnId .remove]
| .dropMutation turnId =>
  match s.findMutation turnId with
  | none => []
  | some mutation =>
    match mutation.handle.kind with
    | .update original originalExecutionOrigin =>
      [.edit turnId (.replace ⟨original, originalExecutionOrigin⟩ true)]
    | .cancel => [.edit turnId .settle]
| .takeOrClose =>
  match s.queue.takeOrClose with
  | (.ready (some taken), _) => [.edit taken.turnId .remove]
  | (.ready none, _) => [.close]
  | (.pending, _) => []
| .takeReadySteers => s.queue.takeReadySteers.1.map (fun taken => .edit taken.turnId .remove)
| .close => [.close]

end QueueSystem

variable {κ : Type}

/- The operations that end the handle on a turn. -/
def QueueOp.Settles (turnId : TurnId) : QueueOp κ → Prop
| .commitReservation other | .dropReservation other | .commitMutation other
| .dropMutation other => other = turnId
| _ => False

/- A handle on the turn is open. -/
def TurnPhase.Held : TurnPhase κ → Prop
| .reserved _ | .updating _ _ | .cancelling _ => True
| _ => False

/- Only the end of its handle moves a held turn. -/
theorem PhaseChange.settles {op : QueueOp κ} {turnId : TurnId} {phase phase' : TurnPhase κ}
    (hChange : PhaseChange op turnId phase phase') (hHeld : phase.Held) : op.Settles turnId := by
  cases hChange <;> first
    | exact rfl
    | exact hHeld.elim

namespace PendingTurnQueue

variable {κ : Type}

variable (turns : List (PendingTurnEntry κ))

/- The queued steers, in order. -/
def steers : List (TakenPendingTurn κ) := (turns.filter (·.turn.steer)).map
    PendingTurnEntry.taken

/-
  Turns are handed over in the order of the queue, and no other turn while a
  steer is queued.
-/
def InOrder (handed : List (TakenPendingTurn κ)) : Prop :=
  handed <+: steers turns ∨ (steers turns = [] ∧ handed <+: turns.map PendingTurnEntry.taken)

theorem inOrder_nil : InOrder turns [] := .inl List.nil_prefix

variable {entry : PendingTurnEntry κ}

/- The first steer heads the steers. -/
theorem steers_split {before : List (PendingTurnEntry κ)} (after : List (PendingTurnEntry κ))
    (hSteer : entry.turn.steer = true) (hBefore : ∀ other ∈ before, other.turn.steer = false) :
    steers (before ++ entry :: after) = entry.taken :: steers after ∧
      steers (before ++ after) = steers after := by
  have hNone : before.filter (·.turn.steer) = [] := by
    rw [List.filter_eq_nil_iff]
    intro other hOther
    simp [hBefore other hOther]
  simp [steers, hNone, hSteer]

theorem inOrder_next {before after : List (PendingTurnEntry κ)}
    (hNext : IsNext before after entry) : InOrder (before ++ entry :: after) [entry.taken] := by
  rcases hNext with ⟨hSteer, hBefore⟩ | ⟨rfl, hSteer, hAfter⟩
  · rw [InOrder, (steers_split after hSteer hBefore).1]
    exact .inl (by simp)
  · refine .inr ⟨?_, by simp⟩
    have hNone : after.filter (·.turn.steer) = [] := by
      rw [List.filter_eq_nil_iff]
      intro other hOther
      simp [hAfter other hOther]
    simp [steers, hSteer, hNone]

end PendingTurnQueue

namespace QueueSystem

variable {κ : Type} {s : QueueSystem κ} {phases : TurnId → TurnPhase κ}

theorem tracks_new (capacity : Nat) : (new capacity : QueueSystem κ).Tracks (fun _ => .absent) where
  view := fun _ => rfl
  names := fun _ => trivial
  known := fun _ h => absurd rfl h

theorem Tracks.entries (hTracks : s.Tracks phases) (turnId : TurnId) :
    KeyedList.ofKey PendingTurnEntry.turnId turnId s.queue.turns =
      ((phases turnId).view turnId).entries :=
  congrArg TurnView.entries (hTracks.view turnId)

/- A turn has one entry at most. -/
theorem Tracks.distinct (hTracks : s.Tracks phases) :
    KeyedList.DistinctKeys PendingTurnEntry.turnId s.queue.turns := by
  apply KeyedList.distinctKeys_of_ofKey_length
  intro turnId
  rw [hTracks.entries turnId]
  cases phases turnId <;> simp [TurnPhase.view]

variable {entry : PendingTurnEntry κ}

/- A durable entry is a queued turn, with its content. -/
theorem Tracks.queued_of_durable (hTracks : s.Tracks phases) (hMem : entry ∈ s.queue.turns)
    (hDurable : entry.durable = true) : phases entry.turnId = .queued entry.taken := by
  have hOf : entry ∈ KeyedList.ofKey PendingTurnEntry.turnId entry.turnId s.queue.turns :=
    KeyedList.mem_ofKey.2 ⟨hMem, rfl⟩
  rw [hTracks.entries] at hOf
  cases hPhase : phases entry.turnId with
  | queued content =>
    rw [hPhase] at hOf
    have hEq : entry = content.entry true := by simpa [TurnPhase.view] using hOf
    rw [hEq, TakenPendingTurn.taken_entry]
  | absent | delivered | cancelled => simp [hPhase, TurnPhase.view] at hOf
  | reserved content =>
    have hEq : entry = content.entry false := by simpa [hPhase, TurnPhase.view] using hOf
    simp [hEq] at hDurable
  | updating content replacement =>
    have hEq : entry = replacement.entry false := by simpa [hPhase, TurnPhase.view] using hOf
    simp [hEq] at hDurable
  | cancelling content =>
    have hEq : entry = content.entry false := by simpa [hPhase, TurnPhase.view] using hOf
    simp [hEq] at hDurable

variable {turnId : TurnId}

/- An entry the scan finds is in the queue, at its turn. -/
theorem findEntry_some (hFind : s.queue.findEntry turnId = some entry) :
    entry ∈ s.queue.turns ∧ entry.turnId = turnId := by
  refine ⟨List.mem_of_find?_eq_some hFind, ?_⟩
  simpa using List.find?_some hFind

section

variable (hTracks : s.Tracks phases)
include hTracks

/- An open reservation belongs to a reserved turn. -/
theorem Tracks.findReservation_some {reservation : OpenReservation κ}
    (hFind : s.findReservation turnId = some reservation) :
    ∃ content, phases turnId = .reserved content ∧ reservation = ⟨⟨turnId⟩, content⟩ := by
  unfold findReservation at hFind
  rw [KeyedList.find?_eq_head?_ofKey] at hFind
  have hView := congrArg TurnView.reservations (hTracks.view turnId)
  simp only [QueueSystem.view] at hView
  rw [hView] at hFind
  cases hPhase : phases turnId with
  | reserved content => simpa [hPhase, TurnPhase.view] using hFind.symm
  | _ => simp [hPhase, TurnPhase.view] at hFind

/- An open mutation belongs to a turn being mutated. -/
theorem Tracks.findMutation_some {mutation : OpenMutation κ}
    (hFind : s.findMutation turnId = some mutation) :
    (∃ content replacement, phases turnId = .updating content replacement ∧
        mutation = ⟨⟨turnId, .update content.turn content.executionOrigin⟩, some replacement⟩) ∨
    (∃ content, phases turnId = .cancelling content ∧ mutation = ⟨⟨turnId, .cancel⟩, none⟩) := by
  unfold findMutation at hFind
  rw [KeyedList.find?_eq_head?_ofKey] at hFind
  have hView := congrArg TurnView.mutations (hTracks.view turnId)
  simp only [QueueSystem.view] at hView
  rw [hView] at hFind
  cases hPhase : phases turnId with
  | updating content replacement => simpa [hPhase, TurnPhase.view] using hFind.symm
  | cancelling content => simpa [hPhase, TurnPhase.view] using hFind.symm
  | _ => simp [hPhase, TurnPhase.view] at hFind

/-
  A state that differs from a tracked one at a single turn is tracked by the
  phases changed there.
-/
theorem Tracks.changeAt {s' : QueueSystem κ} {phase : TurnPhase κ}
    (hSelf : s'.view turnId = phase.view turnId)
    (hOther : ∀ other, other ≠ turnId → s'.view other = s.view other)
    (hNames : phase.Names turnId) (hKnown : turnId ∈ s'.reserved)
    (hReserved : s.reserved ⊆ s'.reserved) : s'.Tracks (Function.update phases turnId phase) := by
  constructor
  · intro other
    by_cases hSame : other = turnId
    · subst hSame
      rw [hSelf, Function.update_self]
    · rw [hOther other hSame, hTracks.view other, Function.update_of_ne hSame]
  · intro other
    by_cases hSame : other = turnId
    · subst hSame
      rw [Function.update_self]
      exact hNames
    · rw [Function.update_of_ne hSame]
      exact hTracks.names other
  · intro other hPhase
    by_cases hSame : other = turnId
    · exact hSame ▸ hKnown
    · rw [Function.update_of_ne hSame] at hPhase
      exact hReserved (hTracks.known other hPhase)

theorem Tracks.names_of_phase {phase : TurnPhase κ}
    (hPhase : phases turnId = phase) : phase.Names turnId :=
  hPhase ▸ hTracks.names turnId

theorem Tracks.view_of_phase {phase : TurnPhase κ}
    (hPhase : phases turnId = phase) : s.view turnId = phase.view turnId :=
  hPhase ▸ hTracks.view turnId

/- The mutating operations find a durable entry first. -/
theorem Tracks.queued_of_find (hFind : s.queue.findEntry turnId = some entry)
    (hDurable : entry.durable = true) : phases turnId = .queued entry.taken := by
  rcases findEntry_some hFind with ⟨hMem, rfl⟩
  exact hTracks.queued_of_durable hMem hDurable

end

end QueueSystem

end GolutraAgent.Runtime
