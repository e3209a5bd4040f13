import Mathlib.Data.List.Basic
import GolutraAgent.Core.Ids
import GolutraAgent.Library.KeyedList

/-
  This file models the pending-turn queue of the agent loop.

  A client puts a turn at the back of the queue by a reservation, which it
  commits once the turn is recorded durably and drops if recording failed. A
  queued turn is changed by a mutation (an update or a cancellation) that is
  reserved and then committed or dropped in the same way. The agent loop is the
  only consumer: it takes the first steer, or else the turn at the front, and
  only if that turn is not held by an open reservation or mutation.
-/

namespace GolutraAgent.Runtime

/-
  The queue reads the identifier and the steer flag of a turn. The prompt, the
  attachments and the execution surface travel with it unread.
-/
structure ConfiguredPendingAgentTurn (κ : Type) where
  turnId : TurnId
  steer : Bool
  content : κ
deriving DecidableEq

inductive PendingTurnExecutionOrigin
| legacy
| configured
deriving DecidableEq

structure PendingTurnEntry (κ : Type) where
  turn : ConfiguredPendingAgentTurn κ
  executionOrigin : PendingTurnExecutionOrigin
  durable : Bool
deriving DecidableEq

structure TakenPendingTurn (κ : Type) where
  turn : ConfiguredPendingAgentTurn κ
  executionOrigin : PendingTurnExecutionOrigin

structure PendingTurnReservation where
  turnId : TurnId

inductive PendingTurnMutationKind (κ : Type)
| update (original : ConfiguredPendingAgentTurn κ)
    (originalExecutionOrigin : PendingTurnExecutionOrigin)
| cancel

structure PendingTurnMutation (κ : Type) where
  turnId : TurnId
  kind : PendingTurnMutationKind κ

/- The errors of the agent loop that the queue returns. -/
inductive AgentLoopError
| pendingTurnQueueClosed
| pendingTurnQueueFull
| pendingTurnNotFound
| pendingTurnMutationInProgress

structure PendingTurnQueue (κ : Type) where
  capacity : Nat
  accepting : Bool
  turns : List (PendingTurnEntry κ)
deriving DecidableEq

namespace PendingTurnEntry

variable {κ : Type}

variable (entry : PendingTurnEntry κ)

/- Entries are addressed by the identifier of their turn. -/
abbrev turnId : TurnId := entry.turn.turnId

/- What the consumer gets when the entry is taken. -/
def taken : TakenPendingTurn κ := ⟨entry.turn, entry.executionOrigin⟩

end PendingTurnEntry

namespace PendingTurnQueue

variable {κ : Type}

def new (capacity : Nat) : PendingTurnQueue κ where
  capacity := max capacity 1
  accepting := true
  turns := []

variable (queue : PendingTurnQueue κ)

def reserveWithOrigin (turn : ConfiguredPendingAgentTurn κ)
    (executionOrigin : PendingTurnExecutionOrigin) :
    Except AgentLoopError (PendingTurnReservation × PendingTurnQueue κ) :=
  if !queue.accepting then .error .pendingTurnQueueClosed
  else if queue.turns.length ≥ queue.capacity then .error .pendingTurnQueueFull
  else .ok (⟨turn.turnId⟩, { queue with turns := queue.turns ++ [⟨turn, executionOrigin, false⟩] })

variable (turnId : TurnId)

/- `PendingTurnReservation::commit`. -/
def commit : PendingTurnQueue κ :=
  { queue with
    turns := KeyedList.modifyFirst PendingTurnEntry.turnId
      turnId (fun entry => { entry with durable := true }) queue.turns }

/- Dropping a reservation that was not committed. -/
def rollback : PendingTurnQueue κ :=
  { queue with turns := KeyedList.retainOther PendingTurnEntry.turnId turnId queue.turns }

def findEntry : Option (PendingTurnEntry κ) :=
  queue.turns.find? (·.turnId = turnId)

def reserveUpdateWithOrigin (replacement : ConfiguredPendingAgentTurn κ)
    (replacementExecutionOrigin : PendingTurnExecutionOrigin) :
    Except AgentLoopError (PendingTurnMutation κ × PendingTurnQueue κ) :=
  if replacement.turnId ≠ turnId then .error .pendingTurnNotFound
  else
    match queue.findEntry turnId with
    | none => .error .pendingTurnNotFound
    | some entry =>
      if !entry.durable then .error .pendingTurnMutationInProgress
      else
        .ok (⟨turnId, .update entry.turn entry.executionOrigin⟩, { queue with
            turns := KeyedList.modifyFirst PendingTurnEntry.turnId turnId
              (fun _ => ⟨replacement, replacementExecutionOrigin, false⟩) queue.turns })

def reserveCancellation : Except AgentLoopError (PendingTurnMutation κ × PendingTurnQueue κ) :=
  match queue.findEntry turnId with
  | none => .error .pendingTurnNotFound
  | some entry =>
    if !entry.durable then .error .pendingTurnMutationInProgress
    else
      .ok (⟨turnId, .cancel⟩, { queue with
          turns := KeyedList.modifyFirst PendingTurnEntry.turnId turnId
            (fun entry => { entry with durable := false }) queue.turns })

def commitMutation (kind : PendingTurnMutationKind κ) : PendingTurnQueue κ :=
  match kind with
  | .update _ _ =>
    { queue with
      turns := KeyedList.modifyFirst PendingTurnEntry.turnId turnId
        (fun entry => { entry with durable := true }) queue.turns }
  | .cancel =>
    { queue with turns := KeyedList.retainOther PendingTurnEntry.turnId turnId queue.turns }

def rollbackMutation (kind : PendingTurnMutationKind κ) : PendingTurnQueue κ :=
  { queue with
    turns := KeyedList.modifyFirst PendingTurnEntry.turnId turnId (fun entry =>
        match kind with
        | .update original originalExecutionOrigin => ⟨original, originalExecutionOrigin, true⟩
        | .cancel => { entry with durable := true })
      queue.turns }

/- What one iteration of a polled future answers. -/
inductive Poll (α : Type)
| ready (value : α)
| pending

/- The position of the first steer. -/
def steerPosition (turns : List (PendingTurnEntry κ)) : Option Nat :=
  turns.findIdx? (·.turn.steer)

/-
  One iteration of the loop of `take_or_close`: the iteration returns, or the
  caller waits for the next change.
-/
def takeOrClose (queue : PendingTurnQueue κ) :
    Poll (Option (TakenPendingTurn κ)) × PendingTurnQueue κ :=
  if !queue.accepting then (.ready none, queue)
  else
    let next := (steerPosition queue.turns).getD 0
    match queue.turns[next]? with
    | some entry =>
      if entry.durable then
        (.ready (some entry.taken), { queue with turns := queue.turns.eraseIdx next })
      else (.pending, queue)
    | none => (.ready none, { queue with accepting := false })

/-
  One iteration of the loop of `take_ready_steers`: the steer taken and the
  turns left, or `none` where the loop ends.
-/
def takeReadySteer (turns : List (PendingTurnEntry κ)) :
    Option (TakenPendingTurn κ × List (PendingTurnEntry κ)) :=
  match steerPosition turns with
  | none => none
  | some index =>
    match turns[index]? with
    | none => none
    | some entry =>
      if entry.durable then some (entry.taken, turns.eraseIdx index)
      else none

variable {taken : TakenPendingTurn κ} {turns rest : List (PendingTurnEntry κ)}

/- Every iteration removes one turn. -/
theorem takeReadySteer_length
    (hTake : takeReadySteer turns = some (taken, rest)) : rest.length + 1 = turns.length := by
  unfold takeReadySteer at hTake
  split at hTake
  · cases hTake
  · rename_i index _
    split at hTake
    · cases hTake
    · rename_i entry hAt
      have hBound : index < turns.length := (List.getElem?_eq_some_iff.1 hAt).1
      split at hTake
      · cases hTake
        rw [List.length_eraseIdx_of_lt hBound]
        omega
      · cases hTake

def takeReadySteersLoop (turns : List (PendingTurnEntry κ))
    (ready : List (TakenPendingTurn κ)) : List (TakenPendingTurn κ) × List (PendingTurnEntry κ) :=
  match _hTake : takeReadySteer turns with
  | none => (ready, turns)
  | some (taken, rest) => takeReadySteersLoop rest (ready ++ [taken])
termination_by turns.length
decreasing_by
  have := takeReadySteer_length _hTake
  omega

theorem takeReadySteersLoop_none {turns : List (PendingTurnEntry κ)}
    (hTake : takeReadySteer turns = none)
    (ready : List (TakenPendingTurn κ)) : takeReadySteersLoop turns ready = (ready, turns) := by
  rw [takeReadySteersLoop]
  split
  · rfl
  · rename_i hSome
    rw [hTake] at hSome
    cases hSome

theorem takeReadySteersLoop_some (hTake : takeReadySteer turns = some (taken, rest))
    (ready : List (TakenPendingTurn κ)) :
    takeReadySteersLoop turns ready = takeReadySteersLoop rest (ready ++ [taken]) := by
  rw [takeReadySteersLoop]
  split
  · rename_i hNone
    rw [hTake] at hNone
    cases hNone
  · rename_i hSome
    rw [hTake] at hSome
    cases hSome
    rfl

def takeReadySteers (queue : PendingTurnQueue κ) : List (TakenPendingTurn κ) × PendingTurnQueue κ :=
  if !queue.accepting then ([], queue)
  else
    let (ready, turns) := takeReadySteersLoop queue.turns []
    (ready, { queue with turns := turns })

def close (queue : PendingTurnQueue κ) : PendingTurnQueue κ := { queue with accepting := false }

variable {executionOrigin : PendingTurnExecutionOrigin} {queue queue' : PendingTurnQueue κ}

theorem reserveWithOrigin_ok {turn : ConfiguredPendingAgentTurn κ} {handle : PendingTurnReservation}
    (hReserve : queue.reserveWithOrigin turn executionOrigin = .ok (handle, queue')) :
    queue.turns.length < queue.capacity ∧ handle = ⟨turn.turnId⟩ ∧ queue' = { queue with
        turns := queue.turns ++ [⟨turn, executionOrigin, false⟩] } := by
  unfold reserveWithOrigin at hReserve
  split at hReserve
  · cases hReserve
  · split at hReserve
    · cases hReserve
    · rename_i hRoom
      cases hReserve
      exact ⟨Nat.lt_of_not_ge hRoom, rfl, rfl⟩

variable {handle : PendingTurnMutation κ} {turnId : TurnId}

theorem reserveUpdateWithOrigin_ok {replacement : ConfiguredPendingAgentTurn κ} (hReserve :
      queue.reserveUpdateWithOrigin turnId replacement executionOrigin = .ok (handle, queue')) :
    replacement.turnId = turnId ∧ ∃ entry,
        queue.findEntry turnId = some entry ∧ entry.durable = true ∧
          handle = ⟨turnId, .update entry.turn entry.executionOrigin⟩ ∧
          queue' = { queue with
            turns := KeyedList.modifyFirst PendingTurnEntry.turnId turnId (fun _ =>
                ⟨replacement, executionOrigin, false⟩)
              queue.turns } := by
  unfold reserveUpdateWithOrigin at hReserve
  split at hReserve
  · cases hReserve
  · rename_i hKey
    split at hReserve
    · cases hReserve
    · rename_i entry hFind
      split at hReserve
      · cases hReserve
      · rename_i hDurable
        cases hReserve
        refine ⟨by simpa using hKey, entry, hFind, by simpa using hDurable, rfl, rfl⟩

theorem reserveCancellation_ok (hReserve :
      queue.reserveCancellation turnId = .ok (handle, queue')) :
    ∃ entry, queue.findEntry turnId = some entry ∧
        entry.durable = true ∧ handle = ⟨turnId, .cancel⟩ ∧
        queue' = { queue with
          turns := KeyedList.modifyFirst PendingTurnEntry.turnId turnId
            (fun entry => { entry with durable := false }) queue.turns } := by
  unfold reserveCancellation at hReserve
  split at hReserve
  · cases hReserve
  · rename_i entry hFind
    split at hReserve
    · cases hReserve
    · rename_i hDurable
      cases hReserve
      exact ⟨entry, hFind, by simpa using hDurable, rfl, rfl⟩

/- The turns before the first steer are not steers. -/
theorem steerPosition_split {index : Nat} (hPosition : steerPosition turns = some index) :
    ∃ before entry after, turns = before ++ entry :: after ∧
        before.length = index ∧ entry.turn.steer = true ∧
        ∀ other ∈ before, other.turn.steer = false := by
  unfold steerPosition at hPosition
  rw [List.findIdx?_eq_some_iff_getElem] at hPosition
  rcases hPosition with ⟨hBound, hSteer, hBefore⟩
  refine ⟨turns.take index, turns[index], turns.drop (index + 1), ?_, ?_, hSteer, ?_⟩
  · rw [List.getElem_cons_drop, List.take_append_drop]
  · rw [List.length_take]
    omega
  · intro other hOther
    rcases List.mem_take_iff_getElem.1 hOther with ⟨j, hj, rfl⟩
    simpa using hBefore j (by omega)

theorem steerPosition_none (hPosition : steerPosition turns = none) :
    ∀ other ∈ turns, other.turn.steer = false := by
  simpa [steerPosition] using hPosition

/-
  The turn the consumer looks at is the first steer, or the front of a queue
  that holds no steer.
-/
def IsNext (before after : List (PendingTurnEntry κ)) (entry : PendingTurnEntry κ) : Prop :=
  (entry.turn.steer = true ∧ ∀ other ∈ before, other.turn.steer = false) ∨
    (before = [] ∧ entry.turn.steer = false ∧ ∀ other ∈ after, other.turn.steer = false)

theorem getElem?_next {entry : PendingTurnEntry κ}
    (hNext : turns[(steerPosition turns).getD 0]? = some entry) :
    ∃ before after, turns = before ++ entry :: after ∧
        turns.eraseIdx ((steerPosition turns).getD 0) = before ++ after ∧
        IsNext before after entry := by
  cases hPosition : steerPosition turns with
  | none =>
    have hNone := steerPosition_none hPosition
    rw [hPosition] at hNext
    cases turns with
    | nil => simp at hNext
    | cons head rest =>
      simp only [Option.getD_none, List.getElem?_cons_zero, Option.some.injEq] at hNext
      subst hNext
      refine ⟨[], rest, rfl, rfl, .inr ⟨rfl, ?_, ?_⟩⟩
      · exact hNone head (by simp)
      · intro other hOther
        exact hNone other (by simp [hOther])
  | some index =>
    rcases steerPosition_split hPosition with ⟨before, steer, after, rfl, rfl, hSteer, hBefore⟩
    rw [hPosition] at hNext
    have hEq : steer = entry := by simpa using hNext
    subst hEq
    refine ⟨before, after, rfl, ?_, .inl ⟨hSteer, hBefore⟩⟩
    simp [List.eraseIdx_append_of_length_le]

/- What one poll of the consumer can do. -/
theorem takeOrClose_cases (queue : PendingTurnQueue κ) :
    (queue.accepting = false ∧ queue.takeOrClose = (.ready none, queue)) ∨
    (queue.turns = [] ∧ queue.takeOrClose = (.ready none, queue.close)) ∨
    (queue.takeOrClose = (.pending, queue)) ∨ (∃ before entry after,
      queue.turns = before ++ entry :: after ∧ entry.durable = true ∧
        IsNext before after entry ∧ queue.takeOrClose = (.ready (some entry.taken),
            { queue with turns := before ++ after })) := by
  unfold takeOrClose
  by_cases hOpen : queue.accepting = true
  · simp only [hOpen, Bool.not_true, Bool.false_eq_true, if_false]
    split
    · rename_i entry hNext
      rcases getElem?_next hNext with ⟨before, after, hSplit, hErase, hIsNext⟩
      by_cases hDurable : entry.durable = true
      · refine .inr (.inr (.inr ⟨before, entry, after, hSplit, hDurable, hIsNext, ?_⟩))
        rw [if_pos hDurable, hErase]
      · refine .inr (.inr (.inl ?_))
        rw [if_neg hDurable]
    · rename_i hNone
      refine .inr (.inl ⟨?_, rfl⟩)
      cases hPosition : steerPosition queue.turns with
      | none =>
        rw [hPosition] at hNone
        simpa using hNone
      | some index =>
        rcases steerPosition_split hPosition with ⟨before, steer, after, hSplit, rfl, -, -⟩
        rw [hPosition, hSplit] at hNone
        simp at hNone
  · exact .inl (by simp [hOpen])

/- What one iteration of `take_ready_steers` can do. -/
theorem takeReadySteer_some {turns rest : List (PendingTurnEntry κ)} {taken : TakenPendingTurn κ}
    (hTake : takeReadySteer turns = some (taken, rest)) :
    ∃ before entry after, turns = before ++ entry :: after ∧
        rest = before ++ after ∧ taken = entry.taken ∧
        entry.durable = true ∧ entry.turn.steer = true ∧
        ∀ other ∈ before, other.turn.steer = false := by
  unfold takeReadySteer at hTake
  split at hTake
  · cases hTake
  · rename_i index hPosition
    rcases steerPosition_split hPosition with ⟨before, entry, after, rfl, rfl, hSteer, hBefore⟩
    simp only [List.getElem?_append_right, Nat.le_refl,
      Nat.sub_self, List.getElem?_cons_zero] at hTake
    split at hTake
    · rename_i hDurable
      cases hTake
      refine ⟨before, entry, after, rfl, ?_, rfl, hDurable, hSteer, hBefore⟩
      simp [List.eraseIdx_append_of_length_le]
    · cases hTake

end PendingTurnQueue

end GolutraAgent.Runtime
