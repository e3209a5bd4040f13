import GolutraAgent.Client.CommandJournal

/-
  This file says what a proper trace of an idempotency key is, by a small
  automaton, and what follows for a trace that the automaton accepts.
-/

namespace GolutraAgent.Client

open Store

inductive KeyPhase
| unclaimed
| processing (owner : CommandId)
| final (owner : CommandId) (ack : CommandAck)

namespace KeyPhase

/- The phase of the row of a key. -/
def ofRow : Option CommandAckRow → KeyPhase
| none => .unclaimed
| some row =>
  if row.status = .processing then .processing row.commandId
  else .final row.commandId row.ack

/-
  What an item of the trace may be in a phase, and the phase after it. Errors
  may be returned at any time; another command gets rejections only.
-/
def observe (key : String) : KeyPhase → CommandItem → Option KeyPhase
| phase, .refused _ _ => some phase
| phase, .received itemKey commandId _ =>
  if itemKey ≠ key then some phase
  else
    match phase with
    | .unclaimed => some (.processing commandId)
    | _ => none
| phase, .handlerStarted itemKey commandId =>
  if itemKey ≠ key then some phase
  else
    match phase with
    | .processing owner => if commandId = owner then some phase else none
    | _ => none
| phase, .completed itemKey commandId ack _ =>
  if itemKey ≠ key then some phase
  else
    match phase with
    | .processing owner =>
      if commandId = owner then some (.final owner ack)
      else none
    | _ => none
| phase, .returned itemKey commandId result =>
  if itemKey ≠ key then some phase
  else
    match result, phase with
    | .error _, _ => some phase
    | .ok _, .unclaimed => none
    | .ok ack, .processing owner =>
      if commandId ≠ owner && !ack.accepted then some phase
      else none
    | .ok ack, .final owner stored =>
      if (commandId = owner && ack = stored) || (commandId ≠ owner && !ack.accepted) then some phase
      else none

/- The phase after a trace, if it is a proper one. -/
def after (key : String) (trace : List CommandItem) : Option KeyPhase :=
  trace.foldlM (observe key) .unclaimed

theorem after_concat {key : String} {trace : List CommandItem}
    {phase : KeyPhase} (hAfter : after key trace = some phase)
    (item : CommandItem) : after key (trace ++ [item]) = observe key phase item := by
  unfold after at hAfter ⊢
  rw [List.foldlM_append, hAfter]
  simp

/- The command that owns the key. -/
def owner? : KeyPhase → Option CommandId
| .unclaimed => none
| .processing owner | .final owner _ => some owner

end KeyPhase

namespace CommandItem

variable (key : String)

def isReceived : CommandItem → Bool
| .received itemKey _ _ => itemKey = key
| _ => false

def isCompleted : CommandItem → Bool
| .completed itemKey _ _ _ => itemKey = key
| _ => false

/- The item is not about the key, or returns an error. -/
def Silent : CommandItem → Prop
| .refused _ _ => True
| .received itemKey _ _ | .handlerStarted itemKey _ | .completed itemKey _ _ _
| .returned itemKey _ (.ok _) => itemKey ≠ key
| .returned _ _ (.error _) => True

/- What may happen to a key that has an owner. -/
def Allowed (owner : CommandId) : CommandItem → Prop
| .refused _ _ => True
| .received itemKey _ _ => itemKey ≠ key
| .handlerStarted itemKey commandId
| .completed itemKey commandId _ _ => itemKey = key → commandId = owner
| .returned itemKey commandId (.ok ack) => itemKey = key → commandId ≠ owner → ack.accepted = false
| .returned _ _ (.error _) => True

/- What may happen to a key once it is completed. -/
def Settled (owner : CommandId) (stored : CommandAck) : CommandItem → Prop
| .refused _ _ => True
| .received itemKey _ _ | .handlerStarted itemKey _ | .completed itemKey _ _ _ => itemKey ≠ key
| .returned itemKey commandId (.ok ack) => itemKey = key → commandId = owner → ack = stored
| .returned _ _ (.error _) => True

end CommandItem

namespace KeyPhase

variable {key : String} {phase phase' : KeyPhase} {item : CommandItem} {owner : CommandId}
variable {ack : CommandAck} {trace items : List CommandItem}

/- Before the receipt nothing happens to the key. -/
theorem observe_unclaimed (hObserve : observe key phase item = some .unclaimed) :
    phase = .unclaimed ∧ item.Silent key := by
  cases item with
  | returned itemKey commandId result =>
    cases result <;> cases phase <;> simp_all [observe, CommandItem.Silent] <;> grind
  | _ => cases phase <;> simp_all [observe, CommandItem.Silent] <;> grind

/- An owner stays. -/
theorem observe_owned (hOwner : phase.owner? = some owner)
    (hObserve : observe key phase item = some phase') :
    phase'.owner? = some owner ∧ item.Allowed key owner := by
  cases item with
  | returned itemKey commandId result =>
    cases result <;> cases phase <;>
      simp_all [observe, CommandItem.Allowed, owner?] <;> grind
  | _ => cases phase <;> simp_all [observe, CommandItem.Allowed, owner?] <;> grind

/- A stored acknowledgement stays. -/
theorem observe_final (hObserve : observe key (.final owner ack) item = some phase') :
    phase' = .final owner ack ∧ item.Settled key owner ack := by
  cases item with
  | returned itemKey commandId result =>
    cases result with
    | error error => simp_all [observe, CommandItem.Settled]
    | ok reply =>
      simp_all [observe, CommandItem.Settled]
      grind
  | _ => simp_all [observe, CommandItem.Settled]

/- A receipt gives the key its owner. -/
theorem observe_received {event : RuntimeEvent}
    (hObserve : observe key phase (.received key owner event) = some phase') :
    phase = .unclaimed ∧ phase' = .processing owner := by
  cases phase <;> simp_all [observe]

theorem observe_completed {event : RuntimeEvent}
    (hObserve : observe key phase (.completed key owner ack event) = some phase') :
    phase = .processing owner ∧ phase' = .final owner ack := by
  cases phase <;> simp_all [observe]

theorem observe_handlerStarted
    (hObserve : observe key phase (.handlerStarted key owner) = some phase') :
    phase = .processing owner := by
  cases phase <;> simp_all [observe]

/- An owner comes from a receipt. -/
theorem observe_new_owner (hNone : phase.owner? = none) (hOwner : phase'.owner? = some owner)
    (hObserve : observe key phase item = some phase') :
    ∃ event, item = .received key owner event := by
  cases phase with
  | unclaimed =>
    cases item with
    | received itemKey commandId event =>
      by_cases hKey : itemKey = key
      · subst hKey
        obtain ⟨-, rfl⟩ := observe_received hObserve
        cases hOwner
        exact ⟨event, rfl⟩
      · simp [observe, hKey] at hObserve
        subst hObserve
        cases hOwner
    | returned itemKey commandId result => cases result <;> simp_all [observe]
    | _ => simp_all [observe]
  | processing other => cases hNone
  | final other stored => cases hNone

/- A trace is proper up to every item of it, and on. -/
theorem after_split {before later : List CommandItem}
    (hAfter : after key (before ++ item :: later) = some phase) :
    ∃ first second, after key before = some first ∧ observe key first item = some second ∧
      later.foldlM (observe key) second = some phase := by
  unfold after at hAfter
  rw [List.foldlM_append] at hAfter
  obtain ⟨first, hFirst, hRest⟩ := Option.bind_eq_some_iff.1 hAfter
  obtain ⟨second, hSecond, hLater⟩ := Option.bind_eq_some_iff.1 hRest
  exact ⟨first, second, hFirst, hSecond, hLater⟩

/- What each item keeps and says, all of them keep and say. -/
theorem foldlM_each {P : KeyPhase → Prop} {Q : CommandItem → Prop}
    (hStep : ∀ phase item phase', P phase →
      observe key phase item = some phase' → P phase' ∧ Q item)
    (hFirst : P phase) (hFold : items.foldlM (observe key) phase = some phase') :
    P phase' ∧ ∀ item ∈ items, Q item := by
  induction items generalizing phase with
  | nil =>
    cases hFold
    exact ⟨hFirst, by simp⟩
  | cons item items ih =>
    rcases Option.bind_eq_some_iff.mp hFold with ⟨middle, hItem, hRest⟩
    rcases hStep _ _ _ hFirst hItem with ⟨hMiddle, hSays⟩
    rcases ih hMiddle hRest with ⟨hLast, hItems⟩
    exact ⟨hLast, List.forall_mem_cons.mpr ⟨hSays, hItems⟩⟩

theorem foldlM_owned (hOwner : phase.owner? = some owner)
    (hFold : items.foldlM (observe key) phase = some phase') :
    phase'.owner? = some owner ∧ ∀ item ∈ items, item.Allowed key owner :=
  foldlM_each (fun _ _ _ => observe_owned) hOwner hFold

theorem foldlM_final (hFold : items.foldlM (observe key) (.final owner ack) = some phase') :
    phase' = .final owner ack ∧ ∀ item ∈ items, item.Settled key owner ack := by
  refine foldlM_each (P := (· = .final owner ack)) ?_ rfl hFold
  rintro _ item phase' rfl hItem
  exact observe_final hItem

/- The phases before the last item of a trace. -/
theorem after_concat_eq_some (hAfter : after key (trace ++ [item]) = some phase') :
    ∃ phase, after key trace = some phase ∧ observe key phase item = some phase' := by
  obtain ⟨first, second, hFirst, hSecond, hRest⟩ := after_split hAfter
  cases hRest
  exact ⟨first, hFirst, hSecond⟩

theorem after_unclaimed (hAfter : after key trace = some .unclaimed) :
    ∀ item ∈ trace, item.Silent key := by
  induction trace using List.reverseRecOn with
  | nil => simp
  | append_singleton trace last ih =>
    obtain ⟨phase, hPhase, hLast⟩ := after_concat_eq_some hAfter
    obtain ⟨rfl, hSilent⟩ := observe_unclaimed hLast
    intro item hItem
    rcases List.mem_append.1 hItem with hOld | hNew
    · exact ih hPhase item hOld
    · rw [List.mem_singleton.1 hNew]
      exact hSilent

theorem received_of_owner (hAfter : after key trace = some phase)
    (hOwner : phase.owner? = some owner) : ∃ event, .received key owner event ∈ trace := by
  induction trace using List.reverseRecOn generalizing phase with
  | nil =>
    cases hAfter
    cases hOwner
  | append_singleton trace last ih =>
    obtain ⟨earlier, hEarlier, hLast⟩ := after_concat_eq_some hAfter
    cases hOwned : earlier.owner? with
    | none =>
      obtain ⟨event, rfl⟩ := observe_new_owner hOwned hOwner hLast
      exact ⟨event, by simp⟩
    | some earlierOwner =>
      have hSame := (observe_owned hOwned hLast).1
      rw [hOwner] at hSame
      cases hSame
      obtain ⟨event, hEvent⟩ := ih hEarlier hOwned
      exact ⟨event, by simp [hEvent]⟩

end KeyPhase

/- A trace that says that a key is handled once. -/
structure HandledOnce (key : String) (trace : List CommandItem) : Prop where
  receivedOnce : trace.countP (CommandItem.isReceived key) ≤ 1
  completedOnce : trace.countP (CommandItem.isCompleted key) ≤ 1
  handlerOwned : ∀ commandId, .handlerStarted key commandId ∈ trace →
      ∃ event, .received key commandId event ∈ trace
  completionOwned : ∀ commandId ack event, .completed key commandId ack event ∈ trace →
      ∃ receipt, .received key commandId receipt ∈ trace
  othersRejected : ∀ owner event commandId ack, .received key owner event ∈ trace →
      .returned key commandId (.ok ack) ∈ trace → commandId ≠ owner → ack.accepted = false
  afterCompletion : ∀ before later owner ack event, trace =
        before ++ .completed key owner ack event :: later →
      (∀ commandId, .handlerStarted key commandId ∉ later) ∧
      ∀ reply, .returned key owner (.ok reply) ∈ later → reply = ack

/- Items none of which is followed by another are one at most. -/
theorem countP_le_one {α : Type*} {selects : α → Bool} {items : List α}
    (hLater : ∀ before item later, items = before ++ item :: later → selects item = true →
        ∀ other ∈ later, selects other = false) : items.countP selects ≤ 1 := by
  induction items with
  | nil => simp
  | cons item items ih =>
    by_cases hItem : selects item = true
    · have hNone := hLater [] item items rfl hItem
      have hZero : items.countP selects = 0 := by
        rw [List.countP_eq_zero]
        intro other hOther
        simp [hNone other hOther]
      rw [List.countP_cons_of_pos hItem, hZero]
    · rw [List.countP_cons_of_neg hItem]
      apply ih
      rintro before other later rfl
      exact hLater (item :: before) other later rfl

namespace KeyPhase

variable {key : String} {phase : KeyPhase} {trace : List CommandItem}

section

variable (hAfter : after key trace = some phase)
include hAfter

theorem receivedOnce_of_after : trace.countP (CommandItem.isReceived key) ≤ 1 := by
  apply countP_le_one
  rintro before item later rfl hItem
  cases item with
  | received itemKey owner event =>
    obtain rfl : itemKey = key := by
      simpa [CommandItem.isReceived] using hItem
    obtain ⟨first, second, -, hReceived, hLater⟩ := after_split hAfter
    obtain ⟨-, rfl⟩ := observe_received hReceived
    have hAllowed := (foldlM_owned rfl hLater).2
    intro other hOther
    cases other with
    | received otherKey commandId event =>
      have hKey := hAllowed _ hOther
      simpa [CommandItem.Allowed, CommandItem.isReceived] using hKey
    | _ => rfl
  | _ => cases hItem

theorem completedOnce_of_after : trace.countP (CommandItem.isCompleted key) ≤ 1 := by
  apply countP_le_one
  rintro before item later rfl hItem
  cases item with
  | completed itemKey owner ack event =>
    obtain rfl : itemKey = key := by
      simpa [CommandItem.isCompleted] using hItem
    obtain ⟨first, second, -, hCompleted, hLater⟩ := after_split hAfter
    obtain ⟨-, rfl⟩ := observe_completed hCompleted
    have hSettled := (foldlM_final hLater).2
    intro other hOther
    cases other with
    | completed otherKey commandId ack event =>
      have hKey := hSettled _ hOther
      simpa [CommandItem.Settled, CommandItem.isCompleted] using hKey
    | _ => rfl
  | _ => cases hItem

/- Before the receipt no call returns an acknowledgement. -/
theorem othersRejected_of_after {owner commandId : CommandId} {event : RuntimeEvent}
    {ack : CommandAck} (hReceived : .received key owner event ∈ trace)
    (hReturned : .returned key commandId (.ok ack) ∈ trace) (hOther : commandId ≠ owner) :
    ack.accepted = false := by
  obtain ⟨before, later, rfl⟩ := List.append_of_mem hReceived
  obtain ⟨first, second, hFirst, hReceipt, hLater⟩ := after_split hAfter
  obtain ⟨rfl, rfl⟩ := observe_received hReceipt
  rcases List.mem_append.1 hReturned with hBefore | hRest
  · exact absurd rfl (after_unclaimed hFirst _ hBefore)
  · rcases List.mem_cons.1 hRest with hSame | hIn
    · cases hSame
    · exact (foldlM_owned rfl hLater).2 _ hIn rfl hOther

theorem handledOnce_of_after : HandledOnce key trace where
  receivedOnce := receivedOnce_of_after hAfter
  completedOnce := completedOnce_of_after hAfter
  handlerOwned := by
    intro commandId hStarted
    obtain ⟨before, later, rfl⟩ := List.append_of_mem hStarted
    obtain ⟨first, second, hFirst, hHandler, -⟩ := after_split hAfter
    obtain rfl := observe_handlerStarted hHandler
    obtain ⟨event, hEvent⟩ := received_of_owner hFirst rfl
    exact ⟨event, List.mem_append_left _ hEvent⟩
  completionOwned := by
    intro commandId ack event hCompleted
    obtain ⟨before, later, rfl⟩ := List.append_of_mem hCompleted
    obtain ⟨first, second, hFirst, hCompletion, -⟩ := after_split hAfter
    obtain ⟨rfl, -⟩ := observe_completed hCompletion
    obtain ⟨receipt, hReceipt⟩ := received_of_owner hFirst rfl
    exact ⟨receipt, List.mem_append_left _ hReceipt⟩
  othersRejected := by
    intro owner event commandId ack hReceived hReturned hOther
    exact othersRejected_of_after hAfter hReceived hReturned hOther
  afterCompletion := by
    rintro before later owner ack event rfl
    obtain ⟨first, second, -, hCompleted, hLater⟩ := after_split hAfter
    obtain ⟨-, rfl⟩ := observe_completed hCompleted
    have hSettled := (foldlM_final hLater).2
    constructor
    · intro commandId hStarted
      exact hSettled _ hStarted rfl
    · intro reply hReply
      exact hSettled _ hReply rfl rfl

end

end KeyPhase

end GolutraAgent.Client
