import GolutraAgent.Protocol.Renaming
import GolutraAgent.Store.ProjectionMaps
import GolutraAgent.Store.Transactions

/-
  This file shows that a fork renames. The replacements of a fork are one
  renaming of UUIDs, as long as the new identifiers are new, and what a fork
  does to an event is to cut what points out of the copy and to rename the rest.
-/

namespace GolutraAgent

open Uuid (renameText renamePrinted)
open RuntimeEvent Json.Value

namespace RuntimeEvent

/- The identifiers of sessions, events, tasks and turns. -/
def idMentions (event : RuntimeEvent) : List Uuid := [event.id.uuid, event.sessionId.uuid] ++
    event.taskId.toList.map Id.uuid ++ event.turnId.toList.map Id.uuid ++
    event.parentEventId.toList.map Id.uuid ++ event.causalContext.sessionId.toList.map Id.uuid ++
    event.causalContext.taskId.toList.map Id.uuid ++
    event.causalContext.turnId.toList.map Id.uuid ++
    event.causalLinks.map (·.eventId.uuid)

/- The UUIDs that the texts of the payload read as. -/
def textMentions (event : RuntimeEvent) : List Uuid := event.payload.strings.filterMap Uuid.ofText

def mentions (event : RuntimeEvent) : List Uuid := event.idMentions ++ event.textMentions

theorem mem_mentions_of_toText {event : RuntimeEvent} {uuid : Uuid}
    (hText : uuid.toText ∈ event.payload.strings) : uuid ∈ event.mentions :=
  List.mem_append_right _ (List.mem_filterMap.2 ⟨_, hText, Uuid.ofText_toText uuid⟩)

/- The sequence number is no identifier, and stays. -/
def rename (ρ : Uuid → Uuid) (event : RuntimeEvent) : RuntimeEvent :=
  { event with
    id := event.id.rename ρ
    sessionId := event.sessionId.rename ρ
    taskId := event.taskId.map (Id.rename ρ)
    turnId := event.turnId.map (Id.rename ρ)
    parentEventId := event.parentEventId.map (Id.rename ρ)
    causalContext :=
      { event.causalContext with
        sessionId := event.causalContext.sessionId.map (Id.rename ρ)
        taskId := event.causalContext.taskId.map (Id.rename ρ)
        turnId := event.causalContext.turnId.map (Id.rename ρ) }
    causalLinks := event.causalLinks.map (fun link =>
      { link with eventId := link.eventId.rename ρ })
    payload := event.payload.mapStrings (renamePrinted ρ) }

end RuntimeEvent

namespace Store

/- What is cut: links out of the copy, and pending turns. -/
def withinCopy (maps : ForkMaps) (event : RuntimeEvent) : RuntimeEvent :=
  { event with
    parentEventId := event.parentEventId.filter (fun eventId => eventId ∈ maps.events)
    causalLinks := event.causalLinks.filter (·.eventId ∈ maps.events)
    payload := retainForkedPendingTurns maps event.payload }

mutual

theorem remapJsonIds_eq (maps : ForkMaps) :
    ∀ value, remapJsonIds maps value = value.mapStrings (fun text =>
        (maps.replacement text).getD text)
| .string _ => rfl
| .array items => by
    rw [remapJsonIds, Json.Value.mapStrings, remapItems_eq maps items]
| .object fields => by
    rw [remapJsonIds, Json.Value.mapStrings, remapFields_eq maps fields]
| .null => rfl
| .bool _ => rfl
| .number _ => rfl

theorem remapItems_eq (maps : ForkMaps) :
    ∀ items, remapItems maps items = Json.Value.mapItems (fun text =>
        (maps.replacement text).getD text) items
| [] => rfl
| item :: items => by
    rw [remapItems, Json.Value.mapItems, remapJsonIds_eq maps item, remapItems_eq maps items]

theorem remapFields_eq (maps : ForkMaps) :
    ∀ fields, remapFields maps fields = Json.Value.mapFields (fun text =>
        (maps.replacement text).getD text) fields
| [] => rfl
| (_, value) :: fields => by
    rw [remapFields, Json.Value.mapFields, remapJsonIds_eq maps value, remapFields_eq maps fields]

end

namespace ForkMaps

/- The new UUID of a copied identifier, whatever its kind. -/
def renamed (maps : ForkMaps) (uuid : Uuid) : Option Uuid :=
  ((maps.turns.find? (·.uuid = uuid)).map (fun id => (maps.ids.turn id).uuid)).or
    (((maps.tasks.find? (·.uuid = uuid)).map (fun id => (maps.ids.task id).uuid)).or
      (((maps.events.find? (·.uuid = uuid)).map (fun id => (maps.ids.event id).uuid)).or
        (if maps.parentSession.uuid = uuid then some maps.childSession.uuid
        else none)))

variable {maps : ForkMaps}

theorem renamed_cases {old new : Uuid} (hOld : maps.renamed old = some new) :
    (∃ id ∈ maps.turns, id.uuid = old ∧ (maps.ids.turn id).uuid = new) ∨
      (∃ id ∈ maps.tasks, id.uuid = old ∧ (maps.ids.task id).uuid = new) ∨
      (∃ id ∈ maps.events, id.uuid = old ∧ (maps.ids.event id).uuid = new) ∨
      (maps.parentSession.uuid = old ∧ maps.childSession.uuid = new) := by
  have hFind : ∀ {kind : IdKind} {ids : List (Id kind)}
      {name : Id kind → Id kind}, (ids.find? (·.uuid = old)).map
          (fun id => (name id).uuid) = some new →
        ∃ id ∈ ids, id.uuid = old ∧ (name id).uuid = new := by
    intro kind ids name hFound
    obtain ⟨id, hId, hNew⟩ := Option.map_eq_some_iff.1 hFound
    have hSame := List.find?_some hId
    exact ⟨id, List.mem_of_find?_eq_some hId, of_decide_eq_true hSame, hNew⟩
  simp only [renamed, Option.or_eq_some_iff] at hOld
  rcases hOld with hTurn | ⟨-, hTask | ⟨-, hEvent | ⟨-, hOwn⟩⟩⟩
  · exact .inl (hFind hTurn)
  · exact .inr (.inl (hFind hTask))
  · exact .inr (.inr (.inl (hFind hEvent)))
  · split at hOwn
    · next hParent => exact .inr (.inr (.inr ⟨hParent, Option.some.inj hOwn⟩))
    · cases hOwn

theorem find?_toText {kind : IdKind} (ids : List (Id kind)) (uuid : Uuid) :
    ids.find? (·.toText = uuid.toText) = ids.find? (·.uuid = uuid) := by
  have hTest : (fun id : Id kind =>
      decide (id.toText = uuid.toText)) = (fun id => decide (id.uuid = uuid)) := by
    funext id
    exact decide_eq_decide.2 Uuid.toText_injective.eq_iff
  rw [hTest]

/- A printed identifier is replaced by its new one. -/
theorem replacement_toText (maps : ForkMaps) (uuid : Uuid) :
    maps.replacement uuid.toText = (maps.renamed uuid).map Uuid.toText := by
  have hSession : maps.parentSession.toText = uuid.toText ↔ maps.parentSession.uuid = uuid :=
    Uuid.toText_injective.eq_iff
  simp only [replacement, renamed, find?_toText, hSession, Option.map_or, Option.map_map]
  split <;> rfl

/- Only printed identifiers are replaced. -/
theorem replacement_printed {text : String}
    (hText : ∀ uuid, text ≠ Uuid.toText uuid) : maps.replacement text = none := by
  have hNone : ∀ {kind : IdKind} (ids : List (Id kind)),
      ids.find? (·.toText = text) = none := by
    intro kind ids
    rw [List.find?_eq_none]
    intro id _ hSame
    exact hText id.uuid (of_decide_eq_true hSame).symm
  have hSession : maps.parentSession.toText ≠ text := fun hSame => hText _ hSame.symm
  simp [replacement, hNone, hSession]

/- The UUIDs of the copied identifiers, by kind. -/
def kinds (maps : ForkMaps) : List (List Uuid) :=
  [[maps.parentSession.uuid], maps.events.map Id.uuid,
    maps.tasks.map Id.uuid, maps.turns.map Id.uuid]

end ForkMaps

/-
  Identifiers of different things are different UUIDs, also those of other
  sessions that an event names as its cause.
-/
structure DistinctIds (maps : ForkMaps) (events : List RuntimeEvent) : Prop where
  kinds : maps.kinds.Pairwise List.Disjoint
  sessions : ∀ event ∈ events, ∀ sessionId, event.causalContext.sessionId = some sessionId →
      sessionId ≠ maps.parentSession → maps.renamed sessionId.uuid = none

/- The generated identifiers are new, and no two the same. -/
structure FreshIds (maps : ForkMaps) (events : List RuntimeEvent) : Prop where
  injective : ∀ first second new, maps.renamed first = some new →
      maps.renamed second = some new → first = second
  uncopied : ∀ old new, maps.renamed old = some new → maps.renamed new = none
  unmentioned : ∀ old new, maps.renamed old = some new → ∀ event ∈ events, new ∉ event.mentions

/- Copied identifiers are printed as the runtime prints them. -/
def PrintedIds (maps : ForkMaps) (events : List RuntimeEvent) : Prop :=
  ∀ event ∈ events, ∀ text ∈ event.payload.strings, ∀ uuid,
    Uuid.ofText text = some uuid → maps.renamed uuid ≠ none → text = uuid.toText

namespace ForkMaps

variable {maps : ForkMaps} {events : List RuntimeEvent} {event : RuntimeEvent}

variable {kind : IdKind} {ids : List (Id kind)}

theorem find?_uuid_of_mem {id : Id kind} (hId : id ∈ ids) :
    ids.find? (·.uuid = id.uuid) = some id := by
  induction ids with
  | nil => cases hId
  | cons head ids ih =>
    by_cases hSame : head.uuid = id.uuid
    · have hHead : head = id := by
        exact congrArg Id.mk hSame
      simp [hHead]
    · have hTail : id ∈ ids := by
        rcases List.mem_cons.1 hId with rfl | hTail
        · exact absurd rfl hSame
        · exact hTail
      rw [List.find?_cons_of_neg (by simpa using hSame)]
      exact ih hTail

theorem find?_uuid_of_not_mem {uuid : Uuid} (hNot : uuid ∉ ids.map Id.uuid) :
    ids.find? (·.uuid = uuid) = none := by
  rw [List.find?_eq_none]
  intro id hId hSame
  apply hNot
  rw [← of_decide_eq_true hSame]
  exact List.mem_map_of_mem hId

theorem renamed_turn {turnId : TurnId} (hTurn : turnId ∈ maps.turns) :
    maps.renamed turnId.uuid = some (maps.ids.turn turnId).uuid := by
  simp [renamed, find?_uuid_of_mem hTurn]

section

variable (hDistinct : maps.kinds.Pairwise List.Disjoint)

include hDistinct

theorem renamed_task {taskId : TaskId} (hTask : taskId ∈ maps.tasks) :
    maps.renamed taskId.uuid = some (maps.ids.task taskId).uuid := by
  have hIn := List.mem_map_of_mem (f := Id.uuid) hTask
  simp only [kinds, List.pairwise_cons] at hDistinct
  have hTurns : taskId.uuid ∉ maps.turns.map Id.uuid := hDistinct.2.2.1 _ (by simp) hIn
  simp [renamed, find?_uuid_of_not_mem hTurns, find?_uuid_of_mem hTask]

theorem renamed_event {eventId : EventId} (hEvent : eventId ∈ maps.events) :
    maps.renamed eventId.uuid = some (maps.ids.event eventId).uuid := by
  have hIn := List.mem_map_of_mem (f := Id.uuid) hEvent
  simp only [kinds, List.pairwise_cons] at hDistinct
  have hTurns : eventId.uuid ∉ maps.turns.map Id.uuid := hDistinct.2.1 _ (by simp) hIn
  have hTasks : eventId.uuid ∉ maps.tasks.map Id.uuid := hDistinct.2.1 _ (by simp) hIn
  simp [renamed, find?_uuid_of_not_mem hTurns,
    find?_uuid_of_not_mem hTasks, find?_uuid_of_mem hEvent]

theorem renamed_session : maps.renamed maps.parentSession.uuid = some maps.childSession.uuid := by
  simp only [kinds, List.pairwise_cons] at hDistinct
  have hIn : maps.parentSession.uuid ∈ [maps.parentSession.uuid] := List.mem_singleton_self _
  have hTurns : maps.parentSession.uuid ∉ maps.turns.map Id.uuid := hDistinct.1 _ (by simp) hIn
  have hTasks : maps.parentSession.uuid ∉ maps.tasks.map Id.uuid := hDistinct.1 _ (by simp) hIn
  have hEvents : maps.parentSession.uuid ∉ maps.events.map Id.uuid := hDistinct.1 _ (by simp) hIn
  simp [renamed, find?_uuid_of_not_mem hTurns,
    find?_uuid_of_not_mem hTasks, find?_uuid_of_not_mem hEvents]

end

/- A renaming that gives the copied identifiers new names. -/
structure Renames (maps : ForkMaps) (events : List RuntimeEvent) (ρ : Uuid → Uuid) : Prop where
  injective : Function.Injective ρ
  copied : ∀ old new, maps.renamed old = some new → ρ old = new
  back : ∀ old new, maps.renamed old = some new → ρ new = old
  others : ∀ event ∈ events, ∀ uuid ∈ event.mentions, maps.renamed uuid = none → ρ uuid = uuid

/- The partial renaming extends to all identifiers. -/
theorem exists_renaming (hFresh : FreshIds maps events) : ∃ ρ, maps.Renames events ρ := by
  have hInj : Set.InjOn (fun uuid => (maps.renamed uuid).getD uuid)
      { uuid | maps.renamed uuid ≠ none } := by
    intro first hFirst second hSecond hSame
    obtain ⟨new, hNew⟩ := Option.ne_none_iff_exists'.1 hFirst
    obtain ⟨other, hOther⟩ := Option.ne_none_iff_exists'.1 hSecond
    simp only [hNew, hOther, Option.getD_some] at hSame
    rw [← hSame] at hOther
    exact hFresh.injective first second new hNew hOther
  have hNew : ∀ uuid ∈ { uuid | maps.renamed uuid ≠ none },
      (maps.renamed uuid).getD uuid ∉ { uuid | maps.renamed uuid ≠ none } := by
    intro uuid hUuid hIn
    obtain ⟨new, hSome⟩ := Option.ne_none_iff_exists'.1 hUuid
    rw [hSome] at hIn
    exact hIn (hFresh.uncopied uuid new hSome)
  obtain ⟨ρ, hInjective, hCopied, hBack, hOthers⟩ := exists_injective_extending _ _ hInj hNew
  have hSome : ∀ old new, maps.renamed old = some new →
      old ∈ { uuid | maps.renamed uuid ≠ none } := by
    intro old new hOld hNone
    rw [hOld] at hNone
    cases hNone
  refine ⟨ρ, hInjective, ?_, ?_, ?_⟩
  · intro old new hOld
    rw [hCopied old (hSome old new hOld), hOld]
    rfl
  · intro old new hOld
    have hReturn := hBack old (hSome old new hOld)
    rwa [hOld] at hReturn
  · intro event hEvent uuid hMentioned hNone
    apply hOthers uuid
    · exact fun hIn => hIn hNone
    · intro old hOld hSame
      obtain ⟨new, hNew⟩ := Option.ne_none_iff_exists'.1 hOld
      rw [hNew] at hSame
      subst hSame
      exact hFresh.unmentioned old new hNew event hEvent hMentioned

/- The maps have all identifiers that the events have. -/
structure Covers (maps : ForkMaps) (events : List RuntimeEvent) : Prop where
  session : ∀ event ∈ events, event.sessionId = maps.parentSession
  id : ∀ event ∈ events, event.id ∈ maps.events
  task : ∀ event ∈ events, ∀ taskId, event.taskId = some taskId ∨
      event.causalContext.taskId = some taskId → taskId ∈ maps.tasks
  turn : ∀ event ∈ events, ∀ turnId, event.turnId = some turnId ∨
      event.causalContext.turnId = some turnId → turnId ∈ maps.turns

theorem covers_ofEvents {parentSession : SessionId} (childSession : SessionId) (ids : ForkIds)
    (hSession : ∀ event ∈ events, event.sessionId = parentSession) :
    (ofEvents parentSession childSession events ids).Covers events where
  session := hSession
  id := fun event hEvent => List.mem_map_of_mem hEvent
  task := by
    intro event hEvent taskId hTask
    refine List.mem_flatMap.2 ⟨event, hEvent, ?_⟩
    rcases hTask with hTask | hTask
    · simp [hTask]
    · simp [hTask]
  turn := by
    intro event hEvent turnId hTurn
    refine List.mem_flatMap.2 ⟨event, hEvent, ?_⟩
    rcases hTurn with hTurn | hTurn
    · simp [hTurn]
    · simp [hTurn]

end ForkMaps

/- Retaining pending turns adds no strings. -/
theorem strings_retainForkedPendingTurns (maps : ForkMaps)
    (payload : Json.Value) : (retainForkedPendingTurns maps payload).strings ⊆ payload.strings := by
  unfold retainForkedPendingTurns
  split
  · exact fun _ hIn => hIn
  · rename_i lane hLane
    split
    · exact fun _ hIn => hIn
    · rename_i pending hPending
      obtain ⟨listed, hGet, hArray⟩ := Option.bind_eq_some_iff.1 hPending
      have hItems : listed = .array pending := by
        cases listed with
        | array items =>
          cases hArray
          rfl
        | _ => cases hArray
      subst hItems
      apply strings_set
      intro text hText
      apply strings_of_get hLane
      refine strings_set ?_ hText
      intro text hText
      apply strings_of_get hGet
      exact strings_filter _ _ hText

namespace ForkMaps

namespace Renames

variable {maps : ForkMaps} {events : List RuntimeEvent} {event : RuntimeEvent} {ρ : Uuid → Uuid}

/- On the strings of a payload, the fork renames. -/
theorem replacement_eq (hRenames : maps.Renames events ρ) (hEvent : event ∈ events)
    {text : String} (hText : text ∈ event.payload.strings) :
    (maps.replacement text).getD text = renamePrinted ρ text := by
  by_cases hPrinted : ∃ uuid, text = Uuid.toText uuid
  · obtain ⟨uuid, rfl⟩ := hPrinted
    rw [replacement_toText, Uuid.renamePrinted_toText]
    cases hNew : maps.renamed uuid with
    | none =>
      have hMentioned : uuid ∈ event.mentions := mem_mentions_of_toText hText
      rw [hRenames.others event hEvent uuid hMentioned hNew]
      rfl
    | some new =>
      rw [hRenames.copied uuid new hNew]
      rfl
  · have hNot : ∀ uuid, text ≠ Uuid.toText uuid := fun uuid hSame => hPrinted ⟨uuid, hSame⟩
    rw [replacement_printed hNot, Uuid.renamePrinted_of_ne hNot]
    rfl

theorem payload_eq (hRenames : maps.Renames events ρ) (hEvent : event ∈ events) :
    (forkedEvent maps event).payload = ((withinCopy maps event).rename ρ).payload := by
  change remapJsonIds maps _ = _
  rw [remapJsonIds_eq]
  apply mapStrings_congr
  intro text hText
  exact hRenames.replacement_eq hEvent (strings_retainForkedPendingTurns maps _ hText)

/- Copied identifiers are renamed, each kind by its map. -/
theorem rename_event (hDistinct : maps.kinds.Pairwise List.Disjoint)
    (hRenames : maps.Renames events ρ) {eventId : EventId}
    (hCopied : eventId ∈ maps.events) : eventId.rename ρ = maps.ids.event eventId :=
  congrArg Id.mk (hRenames.copied _ _ (renamed_event hDistinct hCopied))

theorem rename_task (hDistinct : maps.kinds.Pairwise List.Disjoint)
    (hRenames : maps.Renames events ρ) {taskId : TaskId}
    (hCopied : taskId ∈ maps.tasks) : taskId.rename ρ = maps.ids.task taskId :=
  congrArg Id.mk (hRenames.copied _ _ (renamed_task hDistinct hCopied))

theorem rename_turn (hRenames : maps.Renames events ρ) {turnId : TurnId}
    (hCopied : turnId ∈ maps.turns) : turnId.rename ρ = maps.ids.turn turnId :=
  congrArg Id.mk (hRenames.copied _ _ (renamed_turn hCopied))

theorem rename_session (hDistinct : maps.kinds.Pairwise List.Disjoint)
    (hRenames : maps.Renames events ρ) : maps.parentSession.rename ρ = maps.childSession :=
  congrArg Id.mk (hRenames.copied _ _ (renamed_session hDistinct))

section

variable (hRenames : maps.Renames events ρ)
include hRenames

theorem map_task (hDistinct : maps.kinds.Pairwise List.Disjoint) {found : Option TaskId}
    (hFound : ∀ taskId, found = some taskId → taskId ∈ maps.tasks) :
    found.map maps.ids.task = found.map (Id.rename ρ) := by
  cases found with
  | none => rfl
  | some taskId => exact congrArg some (hRenames.rename_task hDistinct (hFound taskId rfl)).symm

theorem map_turn {found : Option TurnId}
    (hFound : ∀ turnId, found = some turnId → turnId ∈ maps.turns) :
    found.map maps.ids.turn = found.map (Id.rename ρ) := by
  cases found with
  | none => rfl
  | some turnId => exact congrArg some (hRenames.rename_turn (hFound turnId rfl)).symm

/- The session that caused the event, if it is the parent. -/
theorem causalSession_eq (hDistinct : DistinctIds maps events) (hEvent : event ∈ events) :
    (if event.causalContext.sessionId = some maps.parentSession then some maps.childSession
    else event.causalContext.sessionId) = event.causalContext.sessionId.map (Id.rename ρ) := by
  split
  · rename_i hParent
    rw [hParent, ← hRenames.rename_session hDistinct.kinds]
    rfl
  · rename_i hOther
    cases hCause : event.causalContext.sessionId with
    | none => rfl
    | some sessionId =>
      have hNone := hDistinct.sessions event hEvent sessionId hCause (fun hSame =>
          hOther (hCause.trans (congrArg some hSame)))
      have hMentioned : sessionId.uuid ∈ event.mentions := by
        simp [mentions, idMentions, hCause]
      have hFixed := hRenames.others event hEvent sessionId.uuid hMentioned hNone
      exact congrArg some (congrArg Id.mk hFixed.symm)

/- Links to events that are not copied are cut. -/
theorem event_eq (hDistinct : maps.kinds.Pairwise List.Disjoint) (eventId : EventId) :
    maps.event eventId = if eventId ∈ maps.events then some (eventId.rename ρ) else none := by
  unfold ForkMaps.event
  split
  · next hCopied => rw [hRenames.rename_event hDistinct hCopied]
  · rfl

theorem parentEventId_eq (hDistinct : maps.kinds.Pairwise List.Disjoint) (parent : Option EventId) :
    parent.bind maps.event = (parent.filter (fun eventId =>
        eventId ∈ maps.events)).map (Id.rename ρ) := by
  cases parent with
  | none => rfl
  | some eventId =>
    rw [Option.bind_some, hRenames.event_eq hDistinct eventId]
    by_cases hCopied : eventId ∈ maps.events
    · simp [hCopied]
    · simp [hCopied]

theorem causalLinks_eq (hDistinct : maps.kinds.Pairwise List.Disjoint) (links : List CausalLink) :
    links.filterMap (fun link =>
        (maps.event link.eventId).map (fun eventId => { link with eventId })) =
      (links.filter (·.eventId ∈ maps.events)).map (fun link =>
          { link with eventId := link.eventId.rename ρ }) := by
  induction links with
  | nil => rfl
  | cons link links ih =>
    have hHead := hRenames.event_eq hDistinct link.eventId
    by_cases hCopied : link.eventId ∈ maps.events
    · rw [List.filterMap_cons, ih, hHead]
      simp [hCopied]
    · rw [List.filterMap_cons, ih, hHead]
      simp [hCopied]

/- A fork cuts what leaves the copy, and renames the rest. -/
theorem forkedEvent_eq (hDistinct : DistinctIds maps events) (hCovers : maps.Covers events)
    (hEvent : event ∈ events) : forkedEvent maps event = (withinCopy maps event).rename ρ := by
  have hKinds := hDistinct.kinds
  have hId := hRenames.rename_event hKinds (hCovers.id event hEvent)
  have hSession : event.sessionId.rename ρ = maps.childSession := by
    rw [hCovers.session event hEvent, hRenames.rename_session hKinds]
  have hPayload := hRenames.payload_eq hEvent
  unfold forkedEvent withinCopy rename at hPayload ⊢
  simp only at hPayload ⊢
  rw [hPayload, hRenames.causalLinks_eq hKinds, hRenames.parentEventId_eq hKinds,
    hRenames.causalSession_eq hDistinct hEvent, ← hId, ← hSession,
    hRenames.map_task hKinds (fun taskId hFound => hCovers.task event hEvent taskId (.inl hFound)),
    hRenames.map_task hKinds (fun taskId hFound => hCovers.task event hEvent taskId (.inr hFound)),
    hRenames.map_turn (fun turnId hFound => hCovers.turn event hEvent turnId (.inl hFound)),
    hRenames.map_turn (fun turnId hFound => hCovers.turn event hEvent turnId (.inr hFound))]

/- Renaming a mentioned UUID does not give a copied one. -/
theorem rename_ne_copied (hFresh : FreshIds maps events)
    (hEvent : event ∈ events) {old new uuid : Uuid}
    (hOld : maps.renamed old = some new) (hUuid : uuid ∈ event.mentions) : ρ uuid ≠ old := by
  intro hSame
  have hBack : ρ new = old := hRenames.back old new hOld
  have hNew : uuid = new := hRenames.injective (hSame.trans hBack.symm)
  subst hNew
  exact hFresh.unmentioned old uuid hOld event hEvent hUuid

end

theorem idMentions_rename (event : RuntimeEvent) :
    (event.rename ρ).idMentions = event.idMentions.map ρ := by
  simp [idMentions, rename, Id.rename, Option.toList_map, Function.comp_def]

theorem idMentions_withinCopy (maps : ForkMaps) (event : RuntimeEvent) :
    (withinCopy maps event).idMentions.Sublist event.idMentions := by
  have hParent : ((event.parentEventId.filter (fun eventId =>
      eventId ∈ maps.events)).toList.map Id.uuid).Sublist
        (event.parentEventId.toList.map Id.uuid) := by
    rw [Option.toList_filter]
    exact List.filter_sublist.map _
  have hLinks : ((event.causalLinks.filter (·.eventId ∈ maps.events)).map
      (·.eventId.uuid)).Sublist (event.causalLinks.map (·.eventId.uuid)) :=
    List.filter_sublist.map _
  exact (((((List.Sublist.refl _).append hParent).append
    (List.Sublist.refl _)).append (List.Sublist.refl _)).append (List.Sublist.refl _)).append hLinks

variable {old new : Uuid}

/- No copied identifier is left in the copy. -/
theorem not_mem_idMentions (hRenames : maps.Renames events ρ) (hFresh : FreshIds maps events)
    (hEvent : event ∈ events) (hOld : maps.renamed old = some new) :
    old ∉ ((withinCopy maps event).rename ρ).idMentions := by
  rw [idMentions_rename]
  intro hIn
  obtain ⟨uuid, hUuid, hSame⟩ := List.mem_map.1 hIn
  have hMentioned : uuid ∈ event.mentions := List.mem_append_left _
      ((idMentions_withinCopy maps event).subset hUuid)
  exact hRenames.rename_ne_copied hFresh hEvent hOld hMentioned hSame

theorem toText_not_mem_strings (hRenames : maps.Renames events ρ) (hFresh : FreshIds maps events)
    (hEvent : event ∈ events) (hOld : maps.renamed old = some new) :
    old.toText ∉ ((withinCopy maps event).rename ρ).payload.strings := by
  change old.toText ∉ ((retainForkedPendingTurns maps
    event.payload).mapStrings (renamePrinted ρ)).strings
  rw [strings_mapStrings]
  intro hIn
  obtain ⟨text, hText, hSame⟩ := List.mem_map.1 hIn
  have hInside := strings_retainForkedPendingTurns maps _ hText
  by_cases hPrinted : ∃ uuid, text = Uuid.toText uuid
  · obtain ⟨uuid, rfl⟩ := hPrinted
    rw [Uuid.renamePrinted_toText] at hSame
    have hMentioned : uuid ∈ event.mentions := mem_mentions_of_toText hInside
    exact hRenames.rename_ne_copied hFresh hEvent hOld hMentioned (Uuid.toText_injective hSame)
  · have hNot : ∀ uuid, text ≠ Uuid.toText uuid := fun uuid hText => hPrinted ⟨uuid, hText⟩
    rw [Uuid.renamePrinted_of_ne hNot] at hSame
    exact hNot old hSame

end Renames

end ForkMaps

end Store

end GolutraAgent
