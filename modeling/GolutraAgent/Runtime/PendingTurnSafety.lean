import GolutraAgent.Runtime.PendingTurnSteps

/-
  This file proves that the pending-turn queue is safe under every interleaving
  of its clients and its consumer.

  The queue never outgrows its capacity. A turn is handed over once at most,
  with the content it was last committed with, and never while a handle on it is
  open. A committed turn is queued, delivered or cancelled. Steers go first, and
  turns are handed over in the order of the queue.

  Dropping a handle is compared with a run in which the handle was never opened.
  An open handle can make another operation fail or wait, so the two runs need
  not agree on outcomes; `QueueSystem.writes` therefore records what each
  operation wrote, and the queue after the drop is the queue before the handle
  with the writes of the other operations applied.

  Main declarations:
    * `QueueSystem.undo_run`
    * `QueueSystem.pendingTurnQueue_safe`
-/

namespace GolutraAgent.Runtime

open KeyedList QueueWrite

/- What the operations of a run write, in order. -/
def QueueSystem.runWrites {κ : Type} : QueueSystem κ → List (QueueOp κ) → List (QueueWrite κ)
| _, [] => []
| s, op :: ops => s.writes op ++ runWrites (s.step op) ops

namespace QueueWrite

variable {κ : Type}

variable {change : EntryChange κ} {turnId : TurnId}

section

variable (hKeeps : KeyedList.KeepsKey PendingTurnEntry.turnId
  turnId (fun entry => change.apply entry))
include hKeeps

/- An edit of one turn commutes with writes to others. -/
theorem apply_comm {write : QueueWrite κ} (hAvoids : write.Avoids turnId)
    (queue : PendingTurnQueue κ) :
    apply (apply queue write) (.edit turnId change) =
      apply (apply queue (.edit turnId change)) write := by
  cases write with
  | push entry =>
    have hAbsent : ∀ other ∈ [entry], other.turnId ≠ turnId := by
      intro other hOther
      cases List.mem_singleton.1 hOther
      exact hAvoids
    simp [editAt_absent _ hAbsent]
  | edit other otherChange =>
    simp only [apply]
    rw [editAt_comm hAvoids.1.symm hKeeps hAvoids.2]
  | close => rfl

theorem applyAll_comm {writes : List (QueueWrite κ)}
    (hAvoid : ∀ write ∈ writes, write.Avoids turnId) (queue : PendingTurnQueue κ) :
    apply (applyAll queue writes) (.edit turnId change) =
      applyAll (apply queue (.edit turnId change)) writes := by
  induction writes generalizing queue with
  | nil => rfl
  | cons write writes ih =>
    rw [applyAll_cons, applyAll_cons, ih (fun w hw => hAvoid w (by simp [hw])),
      apply_comm hKeeps (hAvoid write (by simp))]

end

end QueueWrite

namespace QueueSystem

variable {κ : Type} {s : QueueSystem κ} {phases : TurnId → TurnPhase κ}
variable {turnId : TurnId} {ops : List (QueueOp κ)}

/-
  While a handle is open, undoing it at the end of a run is undoing it at the
  start and applying what the run wrote.
-/
theorem undo_run {change : EntryChange κ}
    (hKeeps : KeyedList.KeepsKey PendingTurnEntry.turnId turnId (fun entry => change.apply entry))
    (hTracks : s.Tracks phases) (hHeld : (phases turnId).Held)
    (hFresh : Machine.Guarded step FreshTurn s ops) (hOps : ∀ op ∈ ops, ¬ op.Settles turnId) :
    ∃ phases', (Machine.run step s ops).Tracks phases' ∧ phases' turnId = phases turnId ∧
        QueueWrite.apply (Machine.run step s ops).queue (.edit turnId change) =
          QueueWrite.applyAll (QueueWrite.apply s.queue (.edit turnId change))
            (runWrites s ops) := by
  induction ops generalizing s phases with
  | nil => exact ⟨phases, hTracks, rfl, rfl⟩
  | cons op ops ih =>
    have hOp := hOps op (by simp)
    rcases step_acts hTracks hFresh.1 with ⟨phases₁, hActs⟩
    have hSame : phases₁ turnId = phases turnId := (hActs.moves turnId).resolve_right
        (fun hChange => hOp (hChange.settles hHeld))
    rcases ih hActs.tracks (hSame ▸ hHeld) hFresh.2 (fun o ho => hOps o (by simp [ho])) with
      ⟨phases₂, hTracks₂, hSame₂, hUndo⟩
    refine ⟨phases₂, hTracks₂, hSame₂.trans hSame, ?_⟩
    rw [Machine.run_cons, hUndo, hActs.queue, runWrites,
      applyAll_append, applyAll_comm hKeeps (hActs.avoids turnId hHeld hOp)]

/-
  The operation that was granted a handle: the turn it is on, and the operation
  that drops it.
-/
def opened (s : QueueSystem κ) : QueueOp κ → Option (TurnId × QueueOp κ)
| .reserve turn executionOrigin =>
  match s.queue.reserveWithOrigin turn executionOrigin with
  | .error _ => none
  | .ok (handle, _) => some (handle.turnId, .dropReservation handle.turnId)
| .reserveUpdate turnId replacement executionOrigin =>
  match s.queue.reserveUpdateWithOrigin turnId replacement executionOrigin with
  | .error _ => none
  | .ok (handle, _) => some (handle.turnId, .dropMutation handle.turnId)
| .reserveCancellation turnId =>
  match s.queue.reserveCancellation turnId with
  | .error _ => none
  | .ok (handle, _) => some (handle.turnId, .dropMutation handle.turnId)
| _ => none

section

variable (hTracks : s.Tracks phases)
include hTracks

/- The turns of a queue in which a turn is absent. -/
theorem Tracks.absent_entries (hFresh : turnId ∉ s.reserved) :
    ∀ entry ∈ s.queue.turns, entry.turnId ≠ turnId := by
  have hPhase : phases turnId = .absent := by
    by_contra hPresent
    exact hFresh (hTracks.known _ hPresent)
  rw [← ofKey_eq_nil, hTracks.entries, hPhase]
  rfl

variable {content : TakenPendingTurn κ}

/- An edit of a queued turn is undone by one that restores it. -/
theorem Tracks.undo_edit (hPhase : phases turnId = .queued content) {change undo : EntryChange κ}
    (hKeeps : KeyedList.KeepsKey PendingTurnEntry.turnId turnId (fun entry => change.apply entry))
    (hUndo : (change.apply (content.entry true)).bind (fun entry => undo.apply entry) =
      some (content.entry true)) :
    QueueWrite.apply (QueueWrite.apply s.queue (.edit turnId change)) (.edit turnId undo) =
      s.queue := by
  simp only [apply, editAt_editAt hKeeps]
  rw [editAt_eq_self]
  intro entry hMem hKey
  have hOf := mem_ofKey.2 ⟨hMem, hKey⟩
  rw [hTracks.entries, hPhase] at hOf
  obtain rfl : entry = content.entry true := by
    simpa using hOf
  exact hUndo

/- The open handle of a held turn is the one of its phase. -/
theorem Tracks.findReservation_of_phase (hPhase : phases turnId = .reserved content) :
    s.findReservation turnId = some ⟨⟨turnId⟩, content⟩ := by
  have hView := congrArg TurnView.reservations (hTracks.view_of_phase hPhase)
  simp only [QueueSystem.view] at hView
  rw [findReservation, find?_eq_head?_ofKey, hView]
  rfl

theorem Tracks.findMutation_of_view {mutation : OpenMutation κ}
    (hPhase : ((phases turnId).view turnId).mutations = [mutation]) :
    s.findMutation turnId = some mutation := by
  have hView := congrArg TurnView.mutations (hTracks.view turnId)
  simp only [QueueSystem.view] at hView
  rw [findMutation, find?_eq_head?_ofKey, hView, hPhase]
  rfl

/-
  The handle on `turnId` that is open in `s'` is undone by a single edit, which
  gives back the queue of `s` and is what `drop` does as long as the handle is
  open.
-/
def UndoneBy (s s' : QueueSystem κ) (turnId : TurnId) (drop : QueueOp κ) : Prop :=
  ∃ phases change, s'.Tracks phases ∧ (phases turnId).Held ∧
      KeyedList.KeepsKey PendingTurnEntry.turnId turnId (fun entry => change.apply entry) ∧
      QueueWrite.apply s'.queue (.edit turnId change) = s.queue ∧
      ∀ (t : QueueSystem κ) phases', t.Tracks phases' →
          phases' turnId = phases turnId → (t.step drop).queue =
              QueueWrite.apply t.queue (.edit turnId change)

variable {op drop : QueueOp κ}

/- The handle that a call hands out can undo it. -/
theorem opened_undone (hFresh : s.FreshTurn op)
    (hOpened : s.opened op = some (turnId, drop)) : UndoneBy s (s.step op) turnId drop := by
  -- a drop that is one write performs it in every such state
  have hDrops : ∀ {t : QueueSystem κ} {phases change}, t.Tracks phases → t.FreshTurn drop →
        t.writes drop = [.edit turnId change] → (t.step drop).queue =
            apply t.queue (.edit turnId change) := by
    intro t phases change hTracked hFresh hWrites
    rcases step_acts hTracked hFresh with ⟨phases', hActs⟩
    rw [hActs.queue, hWrites]
    rfl
  cases op with
  | reserve turn executionOrigin =>
    simp only [opened] at hOpened
    split at hOpened
    · cases hOpened
    · rename_i handle queue hReserve
      simp only [step, hReserve]
      rcases PendingTurnQueue.reserveWithOrigin_ok hReserve with ⟨hRoom, rfl, rfl⟩
      cases hOpened
      refine ⟨_, .remove, (reserve_acts hTracks hRoom
        hFresh).tracks, ?_, EntryChange.keepsKey (by simp), ?_, ?_⟩
      · rw [Function.update_self]
        trivial
      · simp [editAt_absent _ (hTracks.absent_entries hFresh), editAt_cons_self]
      · intro t phases' hTracked hPhase
        rw [Function.update_self] at hPhase
        refine hDrops hTracked trivial ?_
        simp [writes, hTracked.findReservation_of_phase hPhase]
  | reserveUpdate other replacement executionOrigin =>
    simp only [opened] at hOpened
    split at hOpened
    · cases hOpened
    · rename_i handle queue hReserve
      simp only [step, hReserve]
      rcases PendingTurnQueue.reserveUpdateWithOrigin_ok hReserve with
        ⟨hKey, entry, hFind, hDurable, rfl, rfl⟩
      cases hOpened
      have hPhase := hTracks.queued_of_find hFind hDurable
      have hActs := reserveUpdate_acts hTracks executionOrigin hPhase hKey
      refine ⟨_, .replace entry.taken true, hActs.tracks, ?_, EntryChange.keepsKey ?_, ?_, ?_⟩
      · rw [Function.update_self]
        trivial
      · rintro _ _ ⟨⟩
        exact hTracks.names_of_phase hPhase
      · refine (congrArg (apply · _) hActs.queue).trans (hTracks.undo_edit hPhase
            (EntryChange.keepsKey ?_) rfl)
        rintro _ _ ⟨⟩
        exact hKey
      · intro t phases' hTracked hSame
        rw [Function.update_self] at hSame
        refine hDrops hTracked trivial ?_
        simp only [writes]
        rw [hTracked.findMutation_of_view (by rw [hSame]; rfl)]
  | reserveCancellation other =>
    simp only [opened] at hOpened
    split at hOpened
    · cases hOpened
    · rename_i handle queue hReserve
      simp only [step, hReserve]
      rcases PendingTurnQueue.reserveCancellation_ok
        hReserve with ⟨entry, hFind, hDurable, rfl, rfl⟩
      cases hOpened
      have hPhase := hTracks.queued_of_find hFind hDurable
      have hActs := reserveCancellation_acts hTracks hPhase
      refine ⟨_, .settle, hActs.tracks, ?_, EntryChange.keepsKey (by simp), ?_, ?_⟩
      · rw [Function.update_self]
        trivial
      · exact (congrArg (apply · _) hActs.queue).trans (hTracks.undo_edit hPhase
            (EntryChange.keepsKey (by simp)) rfl)
      · intro t phases' hTracked hSame
        rw [Function.update_self] at hSame
        refine hDrops hTracked trivial ?_
        simp only [writes]
        rw [hTracked.findMutation_of_view (by rw [hSame]; rfl)]
  | _ => cases hOpened

/-
  Dropping a handle leaves the queue that the operations made while it was open
  leave when their writes are applied to the queue before it was opened.
-/
theorem drop_eq_runWrites (hFresh : s.FreshTurn op) (hOpened : s.opened op = some (turnId, drop))
    (hFreshOps : Machine.Guarded step FreshTurn (s.step op) ops)
    (hOps : ∀ other ∈ ops, ¬ other.Settles turnId) :
    (Machine.run step s (op :: ops ++ [drop])).queue = QueueWrite.applyAll s.queue
        (runWrites (s.step op) ops) := by
  rcases opened_undone hTracks hFresh hOpened with
    ⟨phases₁, change, hTracks₁, hHeld, hKeeps, hUndo, hDrop⟩
  rcases undo_run hKeeps hTracks₁ hHeld hFreshOps hOps with ⟨phases₂, hTracks₂, hSame, hRun⟩
  rw [List.cons_append, Machine.run_cons,
    Machine.run_concat, hDrop _ _ hTracks₂ hSame, ← hUndo, ← hRun]

end

theorem apply_capacity (queue : PendingTurnQueue κ) (write : QueueWrite κ) :
    (write.apply queue).capacity = queue.capacity := by
  cases write <;> rfl

theorem applyAll_bounds {writes : List (QueueWrite κ)} (hShrink : ∀ entry, .push entry ∉ writes)
    (queue : PendingTurnQueue κ) : (QueueWrite.applyAll queue writes).capacity = queue.capacity ∧
      (QueueWrite.applyAll queue writes).turns.length ≤ queue.turns.length := by
  induction writes generalizing queue with
  | nil => exact ⟨rfl, Nat.le_refl _⟩
  | cons write writes ih =>
    rcases ih (fun entry h => hShrink entry (by simp [h]))
      (write.apply queue) with ⟨hCapacity, hLength⟩
    refine ⟨hCapacity.trans (apply_capacity queue write), Nat.le_trans hLength ?_⟩
    cases write with
    | push entry => exact absurd (by simp) (hShrink entry)
    | edit turnId change => exact length_editAt_le _ _
    | close => exact Nat.le_refl _

theorem step_withinCapacity {op : QueueOp κ} {phases' : TurnId → TurnPhase κ}
    (hActs : Acts s phases op (s.step op) (s.writes op) phases')
    (hRoom : s.queue.turns.length ≤ s.queue.capacity) :
    (s.step op).queue.capacity = s.queue.capacity ∧
      (s.step op).queue.turns.length ≤ s.queue.capacity := by
  rw [hActs.queue]
  by_cases hPush : ∃ entry, .push entry ∈ s.writes op
  · rcases hPush with ⟨entry, hPush⟩
    rcases hActs.pushes entry hPush with ⟨hWrites, hLess⟩
    rw [hWrites]
    refine ⟨rfl, ?_⟩
    simp only [applyAll_cons, applyAll_nil, apply, List.length_append, List.length_singleton]
    omega
  · rcases applyAll_bounds (fun entry h => hPush ⟨entry, h⟩) s.queue with ⟨hCapacity, hLength⟩
    exact ⟨hCapacity, Nat.le_trans hLength hRoom⟩

variable (s : QueueSystem κ) (turnId : TurnId)

/- The turn is in the queue. -/
def Queues : Prop := ∃ entry ∈ s.queue.turns, entry.turnId = turnId

/- The turn was handed to the consumer. -/
def HandedOver : Prop := ∃ taken ∈ s.delivered, taken.turnId = turnId

/- A cancellation of the turn was committed. -/
def Cancelled : Prop := turnId ∈ s.cancelled

/- What holds in every state. -/
structure Safe (capacity : Nat) (s : QueueSystem κ) : Prop where
  withinCapacity : s.queue.turns.length ≤ max capacity 1
  handedOnce : (s.delivered.map TakenPendingTurn.turnId).Nodup
  handedContent : ∀ taken ∈ s.delivered, s.committed taken.turnId = some taken
  kept : ∀ turnId, s.committed turnId ≠ none →
    (s.Queues turnId ∧ ¬ s.HandedOver turnId ∧ ¬ s.Cancelled turnId) ∨
      (¬ s.Queues turnId ∧ s.HandedOver turnId ∧ ¬ s.Cancelled turnId) ∨
      (¬ s.Queues turnId ∧ ¬ s.HandedOver turnId ∧ s.Cancelled turnId)

/- What holds of the turns that an operation hands over. -/
structure SafeHandover (s : QueueSystem κ) (op : QueueOp κ)
    (handed : List (TakenPendingTurn κ)) : Prop where
  delivered : (s.step op).delivered = s.delivered ++ handed
  content : ∀ taken ∈ handed, s.committed taken.turnId = some taken
  noReservation : ∀ taken ∈ handed, ∀ reservation ∈ s.reservations,
      reservation.turnId ≠ taken.turnId
  noMutation : ∀ taken ∈ handed, ∀ mutation ∈ s.mutations, mutation.turnId ≠ taken.turnId
  inOrder : PendingTurnQueue.InOrder s.queue.turns handed

variable {s : QueueSystem κ} {turnId : TurnId}

section

variable (hTracks : s.Tracks phases)
include hTracks

/- Each field of the state, seen through the phase. -/
theorem Tracks.queues_iff : s.Queues turnId ↔ ((phases turnId).view turnId).entries ≠ [] := by
  rw [← hTracks.entries, Ne, ofKey_eq_nil]
  simp [Queues]

theorem Tracks.handedOver_iff :
    s.HandedOver turnId ↔ ((phases turnId).view turnId).delivered ≠ [] := by
  rw [← hTracks.view]
  simp only [QueueSystem.view, Ne, ofKey_eq_nil]
  simp [HandedOver]

theorem Tracks.cancelled_iff :
    s.Cancelled turnId ↔ ((phases turnId).view turnId).cancelled ≠ [] := by
  rw [← hTracks.view]
  simp only [QueueSystem.view, Ne, ofKey_eq_nil]
  simp [Cancelled]

theorem Tracks.delivered_of_mem {taken : TakenPendingTurn κ}
    (hMem : taken ∈ s.delivered) : phases taken.turnId = .delivered taken := by
  have hOf := mem_ofKey.2 (show taken ∈ s.delivered ∧ taken.turnId = taken.turnId from ⟨hMem, rfl⟩)
  have hView := congrArg TurnView.delivered (hTracks.view taken.turnId)
  simp only [QueueSystem.view] at hView
  rw [hView] at hOf
  cases hPhase : phases taken.turnId with
  | delivered content =>
    have hEq : taken = content := by simpa [hPhase] using hOf
    rw [hEq]
  | _ => simp [hPhase] at hOf

theorem Tracks.safe {capacity : Nat}
    (hCapacity : s.queue.turns.length ≤ max capacity 1) : s.Safe capacity where
  withinCapacity := hCapacity
  handedOnce := by
    apply distinctKeys_of_ofKey_length
    intro turnId
    have hView := congrArg TurnView.delivered (hTracks.view turnId)
    simp only [QueueSystem.view] at hView
    rw [hView]
    cases phases turnId <;> simp
  handedContent := by
    intro taken hMem
    have hView := congrArg TurnView.committed
      (hTracks.view_of_phase (hTracks.delivered_of_mem hMem))
    exact hView
  kept := by
    intro turnId hCommitted
    have hView := congrArg TurnView.committed (hTracks.view turnId)
    simp only [QueueSystem.view] at hView
    rw [hView] at hCommitted
    rw [hTracks.queues_iff, hTracks.handedOver_iff, hTracks.cancelled_iff]
    cases hPhase : phases turnId <;> simp [hPhase] at hCommitted ⊢

theorem Tracks.safeHandover (op : QueueOp κ) : ∃ handed, s.SafeHandover op handed := by
  have hHands : ∃ handed, (s.step op).delivered = s.delivered ++ handed ∧
        (∀ taken ∈ handed, phases taken.turnId = .queued taken) ∧
        PendingTurnQueue.InOrder s.queue.turns handed := by
    cases op with
    | reserve turn executionOrigin =>
      apply hands_nothing
      simp only [step]
      split <;> rfl
    | _ =>
      refine (step_acts hTracks ?_).elim (fun _ hActs => hActs.hands)
      trivial
  rcases hHands with ⟨handed, hDelivered, hQueued, hOrder⟩
  refine ⟨handed, hDelivered, ?_, ?_, ?_, hOrder⟩
  · intro taken hTaken
    exact congrArg TurnView.committed (hTracks.view_of_phase (hQueued taken hTaken))
  · intro taken hTaken
    rw [← ofKey_eq_nil]
    exact congrArg TurnView.reservations (hTracks.view_of_phase (hQueued taken hTaken))
  · intro taken hTaken
    rw [← ofKey_eq_nil]
    exact congrArg TurnView.mutations (hTracks.view_of_phase (hQueued taken hTaken))

end

theorem run_tracked (capacity : Nat) {ops : List (QueueOp κ)}
    (hFresh : Machine.Guarded step FreshTurn (new capacity) ops) :
    (∃ phases, (Machine.run step (new capacity) ops).Tracks phases) ∧
      (Machine.run step (new capacity) ops).queue.turns.length ≤ max capacity 1 := by
  have hStep : ∀ (s : QueueSystem κ) (op : QueueOp κ),
      ((∃ phases, s.Tracks phases) ∧ s.queue.capacity = max capacity 1 ∧
        s.queue.turns.length ≤ s.queue.capacity) →
      s.FreshTurn op → ((∃ phases, (s.step op).Tracks phases) ∧
        (s.step op).queue.capacity = max capacity 1 ∧
        (s.step op).queue.turns.length ≤ (s.step op).queue.capacity) := by
    rintro s op ⟨⟨phases, hTracks⟩, hCapacity, hRoom⟩ hGood
    rcases step_acts hTracks hGood with ⟨phases', hActs⟩
    rcases step_withinCapacity hActs hRoom with ⟨hSame, hLength⟩
    exact ⟨⟨phases', hActs.tracks⟩, hSame.trans hCapacity, hSame ▸ hLength⟩
  have hRun := Machine.run_invariant hStep ⟨⟨_, tracks_new capacity⟩, rfl, Nat.zero_le _⟩ hFresh
  exact ⟨hRun.1, hRun.2.1 ▸ hRun.2.2⟩

/-
  Over every run in which turns are reserved under fresh identifiers, the state
  reached is safe, whatever operation comes next hands turns over safely, and a
  handle that is opened next and dropped after any operations in between leaves
  the queue that those operations wrote.
-/
theorem pendingTurnQueue_safe (capacity : Nat) (ops : List (QueueOp κ))
    (hFresh : Machine.Guarded step FreshTurn (new capacity) ops) :
    (Machine.run step (new capacity) ops).Safe capacity ∧ (∀ op, ∃ handed,
      (Machine.run step (new capacity) ops).SafeHandover op handed) ∧
    (∀ op drop turnId during, (Machine.run step (new capacity) ops).opened op =
        some (turnId, drop) →
      Machine.Guarded step FreshTurn (Machine.run step (new capacity) ops) (op :: during) →
      (∀ other ∈ during, ¬ other.Settles turnId) → (Machine.run step (new capacity)
        (ops ++ op :: during ++ [drop])).queue = QueueWrite.applyAll
          (Machine.run step (new capacity) ops).queue
          (runWrites ((Machine.run step (new capacity) ops).step op) during)) := by
  rcases run_tracked capacity hFresh with ⟨⟨phases, hTracks⟩, hCapacity⟩
  refine ⟨hTracks.safe hCapacity, hTracks.safeHandover, ?_⟩
  intro op drop turnId during hOpened hGood hDuring
  rw [List.append_assoc, Machine.run_append]
  exact drop_eq_runWrites hTracks hGood.1 hOpened hGood.2 hDuring

/- A turn without content, for concrete runs. -/
def sampleTurn (n : Nat) (steer : Bool) : ConfiguredPendingAgentTurn Unit :=
  ⟨⟨Uuid.ofNat n⟩, steer, ()⟩

/-
  A committed turn, a held steer behind it, and an update of the first turn that
  is still open.
-/
def sampleRun : List (QueueOp Unit) := [.reserve (sampleTurn 1 false) .configured,
    .commitReservation ⟨Uuid.ofNat 1⟩, .reserve (sampleTurn 2 true) .legacy,
    .reserveUpdate ⟨Uuid.ofNat 1⟩ (sampleTurn 1 true) .configured]

theorem pendingTurnQueue_safe_sampleRun : Machine.Guarded step FreshTurn (new 2) sampleRun ∧
      (Machine.run step (new 2) sampleRun).Safe 2 :=
  ⟨by decide, (pendingTurnQueue_safe 2 sampleRun (by decide)).1⟩

/-
  An open reservation takes a slot: a reservation refused while it was open is
  not in the queue after it is dropped, and would have been granted had it never
  been made.
-/
theorem dropped_reservation_refused_another :
    (Machine.run step (new 1) [.reserve (sampleTurn 1 false) .configured,
        .reserve (sampleTurn 2 false) .configured, .dropReservation ⟨Uuid.ofNat 1⟩]).queue ≠
    (Machine.run step (new 1) [.reserve (sampleTurn 2 false) .configured]).queue := by
  decide

end QueueSystem

end GolutraAgent.Runtime
