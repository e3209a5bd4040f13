import GolutraAgent.Runtime.PendingTurnSystem

/-
  This file says what each operation on the pending-turn queue does in a tracked
  state: it moves every turn along an edge of the automaton, its writes make the
  new queue and leave held turns alone, and it hands over queued turns in order.
-/

namespace GolutraAgent.Runtime

open PendingTurnQueue KeyedList EntryChange

namespace QueueSystem

variable {κ : Type}

/- Every turn keeps its phase or moves along an edge. -/
def Moves (op : QueueOp κ) (phases phases' : TurnId → TurnPhase κ) : Prop :=
  ∀ turnId, phases' turnId = phases turnId ∨ PhaseChange op turnId (phases turnId) (phases' turnId)

/-
  What an operation does in a tracked state: which state it leaves, what it
  writes, and what it hands to the consumer.
-/
structure Acts (s : QueueSystem κ) (phases : TurnId → TurnPhase κ)
    (op : QueueOp κ) (s' : QueueSystem κ) (writes : List (QueueWrite κ))
    (phases' : TurnId → TurnPhase κ) : Prop where
  tracks : s'.Tracks phases'
  moves : Moves op phases phases'
  queue : s'.queue = QueueWrite.applyAll s.queue writes
  avoids : ∀ turnId, (phases turnId).Held → ¬ op.Settles turnId →
      ∀ write ∈ writes, write.Avoids turnId
  pushes : ∀ entry, .push entry ∈ writes → writes = [.push entry] ∧
      s.queue.turns.length < s.queue.capacity
  hands : ∃ handed, s'.delivered = s.delivered ++ handed ∧
      (∀ taken ∈ handed, phases taken.turnId = .queued taken) ∧
      PendingTurnQueue.InOrder s.queue.turns handed

variable {s s' : QueueSystem κ} {phases : TurnId → TurnPhase κ} {turnId : TurnId} {op : QueueOp κ}

theorem hands_nothing (hSame : s'.delivered = s.delivered) :
    ∃ handed, s'.delivered = s.delivered ++ handed ∧
      (∀ taken ∈ handed, phases taken.turnId = .queued taken) ∧
      PendingTurnQueue.InOrder s.queue.turns handed :=
  ⟨[], by simp [hSame], by simp, inOrder_nil _⟩

theorem moves_refl (op : QueueOp κ) (phases : TurnId → TurnPhase κ) : Moves op phases phases :=
  fun _ => .inl rfl

theorem moves_update {phase : TurnPhase κ} (hChange : PhaseChange op turnId (phases turnId) phase) :
    Moves op phases (Function.update phases turnId phase) := by
  intro other
  by_cases hSame : other = turnId
  · subst hSame
    rw [Function.update_self]
    exact .inr hChange
  · rw [Function.update_of_ne hSame]
    exact .inl rfl

section

variable (hTracks : s.Tracks phases)
include hTracks

/- An operation that is refused, or only closes the queue. -/
theorem Acts.still {writes : List (QueueWrite κ)} (hWrites : writes = [] ∨ writes = [.close]) :
    Acts s phases op { s with queue := QueueWrite.applyAll s.queue writes } writes phases := by
  rcases hWrites with rfl | rfl
  · exact ⟨⟨hTracks.view, hTracks.names, hTracks.known⟩,
      moves_refl op phases, rfl, by simp, by simp, hands_nothing rfl⟩
  · exact ⟨⟨hTracks.view, hTracks.names, hTracks.known⟩, moves_refl op phases, rfl,
      by simp [QueueWrite.Avoids], by simp, hands_nothing rfl⟩

attribute [simp] TurnView.handles TurnPhase.view view
  withoutReservation withoutMutation recordMutation
  QueueWrite.apply EntryChange.apply TakenPendingTurn.entry
  PendingTurnEntry.taken

/- An operation that edits the entry of one turn. -/
theorem Acts.edits {change : EntryChange κ} {phase phase' : TurnPhase κ}
    (hPhase : phases turnId = phase) (hPresent : phase ≠ .absent)
    (hChange : PhaseChange op turnId phase phase')
    (hNames : phase.Names turnId → phase'.Names turnId)
    (hKeeps : KeyedList.KeepsKey PendingTurnEntry.turnId turnId (fun entry => change.apply entry))
    (hEntries : (phase.view turnId).entries.filterMap (fun entry => change.apply entry) =
      (phase'.view turnId).entries)
    (hQueue : s'.queue = QueueWrite.apply s.queue (.edit turnId change))
    (hSelf : s.view turnId = phase.view turnId →
      (s'.view turnId).handles = (phase'.view turnId).handles := by simp_all)
    (hOther : ∀ other, other ≠ turnId → (s'.view other).handles = (s.view other).handles := by
      intro other hOther
      simp [hOther, hOther.symm])
    (hReserved : s'.reserved = s.reserved := by rfl)
    (hHands : ∃ handed, s'.delivered = s.delivered ++ handed ∧
        (∀ taken ∈ handed, phases taken.turnId = .queued taken) ∧
        PendingTurnQueue.InOrder s.queue.turns handed := by exact hands_nothing rfl) :
    Acts s phases op s' [.edit turnId change] (Function.update phases turnId phase') := by
  subst hPhase
  refine ⟨hTracks.changeAt ?_ ?_ (hNames (hTracks.names turnId)) ?_ ?_,
    moves_update hChange, hQueue, ?_, by simp, hHands⟩
  · refine TurnView.ext_handles ?_ (hSelf (hTracks.view turnId))
    rw [← hEntries, ← hTracks.entries]
    simp only [view, hQueue]
    exact ofKey_editAt_self hKeeps _
  · intro other hSame
    refine TurnView.ext_handles ?_ (hOther other hSame)
    simp only [view, hQueue]
    exact ofKey_editAt_other hSame hKeeps _
  · rw [hReserved]
    exact hTracks.known turnId hPresent
  · rw [hReserved]
    exact List.Subset.refl _
  · intro other hHeld hOp write hWrite
    cases List.mem_singleton.1 hWrite
    refine ⟨?_, hKeeps⟩
    rintro rfl
    exact hOp (hChange.settles hHeld)

theorem reserve_acts {turn : ConfiguredPendingAgentTurn κ}
    {executionOrigin : PendingTurnExecutionOrigin} (hRoom : s.queue.turns.length < s.queue.capacity)
    (hFresh : turn.turnId ∉ s.reserved) : Acts s phases (.reserve turn executionOrigin) { s with
        queue := { s.queue with turns := s.queue.turns ++ [⟨turn, executionOrigin, false⟩] }
        reservations := s.reservations ++ [⟨⟨turn.turnId⟩, ⟨turn, executionOrigin⟩⟩]
        reserved := s.reserved ++ [turn.turnId] }
      [.push ⟨turn, executionOrigin, false⟩]
      (Function.update phases turn.turnId (.reserved ⟨turn, executionOrigin⟩)) := by
  have hPhase : phases turn.turnId = .absent := by
    by_contra hPresent
    exact hFresh (hTracks.known _ hPresent)
  have hView := hTracks.view_of_phase hPhase
  refine ⟨hTracks.changeAt ?_ ?_ rfl (by simp) (by simp),
    moves_update (hPhase ▸ .reserve _ _), rfl, ?_, ?_, hands_nothing rfl⟩
  · simp only [QueueSystem.view, TurnPhase.view, TurnView.mk.injEq] at hView
    simp [hView]
  · intro other hOther
    simp [hOther.symm]
  · intro other hHeld _ write hWrite
    cases List.mem_singleton.1 hWrite
    rintro rfl
    rw [hPhase] at hHeld
    exact hHeld
  · intro entry hPush
    cases List.mem_singleton.1 hPush
    exact ⟨rfl, hRoom⟩

variable {content : TakenPendingTurn κ}

theorem reserveUpdate_acts {replacement : ConfiguredPendingAgentTurn κ}
    (executionOrigin : PendingTurnExecutionOrigin) (hPhase : phases turnId = .queued content)
    (hKey : replacement.turnId = turnId) :
    Acts s phases (.reserveUpdate turnId replacement executionOrigin) { s with
        queue := { s.queue with
          turns := modifyFirst PendingTurnEntry.turnId turnId
            (fun _ => ⟨replacement, executionOrigin, false⟩) s.queue.turns }
        mutations := s.mutations ++ [⟨⟨turnId, .update content.turn content.executionOrigin⟩,
            some ⟨replacement, executionOrigin⟩⟩] }
      [.edit turnId (.replace ⟨replacement, executionOrigin⟩ false)]
      (Function.update phases turnId (.updating content ⟨replacement, executionOrigin⟩)) := by
  refine .edits hTracks hPhase nofun (.reserveUpdate _ _ _ _) (fun hNames => ⟨hNames, hKey⟩)
    (keepsKey ?_) rfl ?_
  · rintro _ _ ⟨⟩
    exact hKey
  · simp [modifyFirst_eq_editAt _ hTracks.distinct]

theorem reserveCancellation_acts (hPhase : phases turnId = .queued content) :
    Acts s phases (.reserveCancellation turnId) { s with
        queue := { s.queue with
          turns := modifyFirst PendingTurnEntry.turnId turnId
            (fun entry => { entry with durable := false }) s.queue.turns }
        mutations := s.mutations ++ [⟨⟨turnId, .cancel⟩, none⟩] }
      [.edit turnId .hold]
      (Function.update phases turnId (.cancelling content)) := by
  refine .edits hTracks hPhase nofun (.reserveCancellation _ _) id (keepsKey nofun) rfl ?_
  simp [modifyFirst_eq_editAt _ hTracks.distinct]

end

/- Taking an entry out of the middle removes its turn. -/
theorem take_eq_remove (queue : PendingTurnQueue κ)
    {before after : List (PendingTurnEntry κ)} {entry : PendingTurnEntry κ}
    (hDistinct : KeyedList.DistinctKeys PendingTurnEntry.turnId queue.turns)
    (hTurns : queue.turns = before ++ entry :: after) :
    { queue with turns := before ++ after } = QueueWrite.apply queue
        (.edit entry.turnId .remove) := by
  rw [hTurns] at hDistinct
  simp only [QueueWrite.apply, hTurns]
  rw [remove_middle_eq_editAt hDistinct]
  rfl

/- Handing a durable entry over delivers its turn. -/
theorem deliver_acts (hTracks : s.Tracks phases) {before after : List (PendingTurnEntry κ)}
    {entry : PendingTurnEntry κ} (hTurns : s.queue.turns = before ++ entry :: after)
    (hDurable : entry.durable = true)
    (hChange : PhaseChange op entry.turnId (.queued entry.taken) (.delivered entry.taken))
    (hOrder : PendingTurnQueue.InOrder s.queue.turns [entry.taken]) : Acts s phases op { s with
        queue := { s.queue with turns := before ++ after }
        delivered := s.delivered ++ [entry.taken] }
      [.edit entry.turnId .remove]
      (Function.update phases entry.turnId (.delivered entry.taken)) := by
  have hPhase : phases entry.turnId = .queued entry.taken :=
    hTracks.queued_of_durable (by simp [hTurns]) hDurable
  refine .edits hTracks hPhase nofun hChange id (keepsKey nofun) rfl
    (take_eq_remove s.queue hTracks.distinct hTurns) ?_ ?_ rfl ⟨[entry.taken], rfl, ?_, hOrder⟩
  · simp_all
  · intro other hOther
    simp [hOther.symm]
  · intro taken hTaken
    cases List.mem_singleton.1 hTaken
    exact hPhase

/- A delivered turn does not move again. -/
theorem moves_trans_takeReadySteers {phases' phases'' : TurnId → TurnPhase κ}
    (hFirst : Moves .takeReadySteers phases phases')
    (hSecond : Moves .takeReadySteers phases' phases'') :
    Moves .takeReadySteers phases phases'' := by
  intro turnId
  rcases hFirst turnId with hSame | hMoved
  · simpa [hSame] using hSecond turnId
  · rcases hSecond turnId with hSame | hAgain
    · rw [hSame]
      exact .inr hMoved
    · generalize phases turnId = p at hMoved
      generalize phases' turnId = q at hMoved hAgain
      cases hMoved
      cases hAgain

/- The loop hands over a prefix of the queued steers. -/
theorem takeReadySteersLoop_acts (turns : List (PendingTurnEntry κ))
    (ready : List (TakenPendingTurn κ)) (s : QueueSystem κ) (phases : TurnId → TurnPhase κ)
    (hTracks : ({ s with
      queue := { s.queue with turns := turns }
      delivered := s.delivered ++ ready } : QueueSystem κ).Tracks phases) :
    ∃ handed phases', (takeReadySteersLoop turns ready).1 = ready ++ handed ∧
        handed <+: steers turns ∧ (∀ taken ∈ handed, phases taken.turnId = .queued taken) ∧
        { s.queue with
          turns := (takeReadySteersLoop turns ready).2 } =
          QueueWrite.applyAll { s.queue with turns := turns } (handed.map
              (fun taken => .edit taken.turnId .remove)) ∧
        Moves .takeReadySteers phases phases' ∧
        ({ s with
          queue := { s.queue with turns := (takeReadySteersLoop turns ready).2 }
          delivered := s.delivered ++ (takeReadySteersLoop turns ready).1 } :
          QueueSystem κ).Tracks phases' := by
  induction turns, ready using takeReadySteersLoop.induct generalizing phases with
  | case1 turns ready hDone =>
    rw [takeReadySteersLoop_none hDone]
    exact ⟨[], phases, by simp, List.nil_prefix, by simp, rfl, moves_refl _ _, hTracks⟩
  | case2 turns ready taken rest hTake ih =>
    rw [takeReadySteersLoop_some hTake]
    rcases takeReadySteer_some hTake with
      ⟨before, entry, after, rfl, rfl, rfl, hDurable, hSteer, hBefore⟩
    rcases steers_split after hSteer hBefore with ⟨hSteers, hRest⟩
    have hActs := deliver_acts hTracks rfl hDurable
      (.takeReadySteers _ _) (.inl (by simp [hSteers]))
    rcases ih _ (by simpa using hActs.tracks) with
      ⟨handed, phases', hReady, hPrefix, hQueued, hQueue, hMoves, hTracked⟩
    have hPhase : phases entry.turnId = .queued entry.taken :=
      hTracks.queued_of_durable (by simp) hDurable
    refine ⟨entry.taken :: handed, phases', ?_, ?_, ?_, ?_,
      moves_trans_takeReadySteers hActs.moves hMoves, hTracked⟩
    · rw [hReady, List.append_assoc]
      rfl
    · rw [hSteers, ← hRest]
      exact (List.prefix_cons_inj _).2 hPrefix
    · intro taken hTaken
      rcases List.mem_cons.1 hTaken with rfl | hLater
      · exact hPhase
      · -- A turn that was delivered is not queued again.
        have hHere := hQueued taken hLater
        by_cases hSame : taken.turnId = entry.turnId
        · rw [hSame, Function.update_self] at hHere
          cases hHere
        · rwa [Function.update_of_ne hSame] at hHere
    · rw [hQueue]
      exact congrArg (QueueWrite.applyAll · _) hActs.queue

/-
  Every operation moves every turn along an edge of the automaton, and the state
  it leaves is that of the phases reached.
-/
theorem step_acts (hTracks : s.Tracks phases) (hFresh : s.FreshTurn op) :
    ∃ phases', Acts s phases op (s.step op) (s.writes op) phases' := by
  have hStay : ∃ phases', Acts s phases op s [] phases' := ⟨phases, .still hTracks (.inl rfl)⟩
  have hDistinct := hTracks.distinct
  -- an operation that is refused, or finds nothing, moves no turn
  cases op with
  | reserve turn executionOrigin =>
    simp only [step, writes]
    cases hReserve : s.queue.reserveWithOrigin turn executionOrigin with
    | error _ => exact hStay
    | ok granted =>
      rcases granted with ⟨handle, queue⟩
      rcases reserveWithOrigin_ok hReserve with ⟨hRoom, rfl, rfl⟩
      exact ⟨_, reserve_acts hTracks hRoom hFresh⟩
  | commitReservation turnId =>
    simp only [step, writes]
    cases hFind : s.findReservation turnId with
    | none => exact hStay
    | some reservation =>
      rcases hTracks.findReservation_some hFind with ⟨content, hPhase, rfl⟩
      refine ⟨_, .edits hTracks hPhase (by simp) (.commitReservation _ _) id
        (keepsKey (by simp)) rfl ?_⟩
      simp [commit, modifyFirst_eq_editAt _ hDistinct]
  | dropReservation turnId =>
    simp only [step, writes]
    cases hFind : s.findReservation turnId with
    | none => exact hStay
    | some reservation =>
      rcases hTracks.findReservation_some hFind with ⟨content, hPhase, rfl⟩
      refine ⟨_, .edits hTracks hPhase (by simp) (.dropReservation _ _) (fun _ => trivial)
        (keepsKey (by simp)) rfl ?_⟩
      simp [rollback, retainOther_eq_editAt]
  | reserveUpdate turnId replacement executionOrigin =>
    simp only [step, writes]
    cases hReserve : s.queue.reserveUpdateWithOrigin turnId replacement executionOrigin with
    | error _ => exact hStay
    | ok granted =>
      rcases granted with ⟨handle, queue⟩
      rcases reserveUpdateWithOrigin_ok hReserve with ⟨hKey, entry, hFind, hDurable, rfl, rfl⟩
      exact ⟨_, reserveUpdate_acts hTracks executionOrigin
        (hTracks.queued_of_find hFind hDurable) hKey⟩
  | reserveCancellation turnId =>
    simp only [step, writes]
    cases hReserve : s.queue.reserveCancellation turnId with
    | error _ => exact hStay
    | ok granted =>
      rcases granted with ⟨handle, queue⟩
      rcases reserveCancellation_ok hReserve with ⟨entry, hFind, hDurable, rfl, rfl⟩
      exact ⟨_, reserveCancellation_acts hTracks (hTracks.queued_of_find hFind hDurable)⟩
  | commitMutation turnId =>
    simp only [step, writes]
    cases hFind : s.findMutation turnId with
    | none => exact hStay
    | some mutation =>
      rcases hTracks.findMutation_some hFind with ⟨content, replacement, hPhase, rfl⟩ |
        ⟨content, hPhase, rfl⟩
      · refine ⟨_, .edits hTracks hPhase (by simp) (.commitUpdate _ _ _) And.right
          (keepsKey (by simp)) rfl ?_⟩
        simp [commitMutation, modifyFirst_eq_editAt _ hDistinct]
      · refine ⟨_, .edits hTracks hPhase (by simp) (.commitCancellation _ _) id
          (keepsKey (by simp)) rfl ?_⟩
        simp [commitMutation, retainOther_eq_editAt]
  | dropMutation turnId =>
    simp only [step, writes]
    cases hFind : s.findMutation turnId with
    | none => exact hStay
    | some mutation =>
      rcases hTracks.findMutation_some hFind with ⟨content, replacement, hPhase, rfl⟩ |
        ⟨content, hPhase, rfl⟩
      · have hKey := (hTracks.names_of_phase hPhase).1
        refine ⟨_, .edits hTracks hPhase (by simp) (.dropUpdate _ _ _) And.left
          (keepsKey ?_) rfl ?_⟩
        · rintro _ _ ⟨⟩
          exact hKey
        · simp [rollbackMutation, modifyFirst_eq_editAt _ hDistinct]
      · refine ⟨_, .edits hTracks hPhase (by simp) (.dropCancellation _ _) id
          (keepsKey (by simp)) rfl ?_⟩
        simp [rollbackMutation, modifyFirst_eq_editAt _ hDistinct]
  | takeOrClose =>
    rcases s.queue.takeOrClose_cases with ⟨hClosed, hPoll⟩ | ⟨-, hPoll⟩ | hPoll |
      ⟨before, entry, after, hTurns, hDurable, hNext, hPoll⟩
    · simp only [step, writes, hPoll]
      have hSame : s.queue = s.queue.close := by rw [close, ← hClosed]
      have hActs : Acts s phases .takeOrClose { s with queue := s.queue.close } [.close]
            phases := .still hTracks (.inr rfl)
      rw [← hSame] at hActs
      exact ⟨_, hActs⟩
    · simp only [step, writes, hPoll]
      exact ⟨_, .still hTracks (.inr rfl)⟩
    · simpa only [step, writes, hPoll] using hStay
    · simp only [step, writes, hPoll]
      refine ⟨_, deliver_acts hTracks hTurns hDurable (.takeOrClose _ _) ?_⟩
      rw [hTurns]
      exact inOrder_next hNext
  | takeReadySteers =>
    simp only [step, writes, takeReadySteers]
    split_ifs
    · simpa using hStay
    · rcases takeReadySteersLoop_acts s.queue.turns [] s phases (by simpa using hTracks) with
        ⟨handed, phases', hReady, hPrefix, hQueued, hQueue, hMoves, hTracked⟩
      rw [hReady] at hTracked ⊢
      refine ⟨phases', hTracked, hMoves, hQueue, ?_, by simp, handed, rfl, hQueued, .inl hPrefix⟩
      intro turnId hHeld _ write hWrite
      rcases List.mem_map.1 hWrite with ⟨taken, hTaken, rfl⟩
      refine ⟨?_, keepsKey (by simp)⟩
      rintro rfl
      rw [hQueued taken hTaken] at hHeld
      exact hHeld
  | close => exact ⟨_, .still hTracks (.inr rfl)⟩

end QueueSystem

end GolutraAgent.Runtime
