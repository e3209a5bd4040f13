import GolutraAgent.Store.ForkRenaming

/-
  This file shows that the projection of a fork is the renamed projection of the
  copied events. The fork restricts the pending turns of the lane snapshots it
  finds, so the lane of the child lists the copied turns only.
-/

namespace GolutraAgent

open Uuid (renameText renamePrinted)
open RuntimeLane

def RuntimeLane.keepTurns (turns : List TurnId) (lane : RuntimeLane) : RuntimeLane :=
  { lane with pendingTurns := lane.pendingTurns.filter (fun turnId => turnId ∈ turns) }

theorem RuntimeLane.keepTurns_eq_self {turns : List TurnId} {lane : RuntimeLane}
    (hTurns : ∀ turnId ∈ lane.pendingTurns, turnId ∈ turns) : lane.keepTurns turns = lane := by
  have hAll : lane.pendingTurns.filter (fun turnId => turnId ∈ turns) = lane.pendingTurns :=
    List.filter_eq_self.2 (fun turnId hTurn => decide_eq_true (hTurns turnId hTurn))
  unfold keepTurns
  rw [hAll]

def StateProjection.keepTurns (turns : List TurnId)
    (projection : StateProjection) : StateProjection :=
  { projection with runtimeLane := projection.runtimeLane.map (RuntimeLane.keepTurns turns) }

namespace Store

variable (maps : ForkMaps)

/- Every other field of the payload stays. -/
theorem get_retainForkedPendingTurns (payload : Json.Value) {key : String}
    (hKey : key ≠ "runtime_lane") :
    (retainForkedPendingTurns maps payload).get key = payload.get key := by
  unfold retainForkedPendingTurns
  split
  · rfl
  · split
    · rfl
    · exact Json.Value.get_set_other hKey _ _

variable {items : List Json.Value} {α : Type} {decode : Json.Value → Option α}

theorem mapM_decode_filter {test : Json.Value → Bool} {keep : α → Bool} {decoded : List α}
    (hTest : ∀ item ∈ items, ∀ a, decode item = some a → test item = keep a)
    (hDecoded : items.mapM decode = some decoded) :
    (items.filter test).mapM decode = some (decoded.filter keep) := by
  induction items generalizing decoded with
  | nil =>
    cases hDecoded
    rfl
  | cons item items ih =>
    simp only [List.mapM_cons, Option.bind_eq_bind, Option.bind_eq_some_iff] at hDecoded
    obtain ⟨a, hHead, rest, hRest, hPure⟩ := hDecoded
    cases hPure
    have hTail := ih (fun other hOther => hTest other (List.mem_cons_of_mem _ hOther)) hRest
    have hSame := hTest item List.mem_cons_self a hHead
    by_cases hKeep : keep a = true
    · rw [List.filter_cons_of_pos (hSame.trans hKeep), List.filter_cons_of_pos hKeep]
      simp [hHead, hTail]
    · rw [List.filter_cons_of_neg (by rw [hSame]; exact hKeep), List.filter_cons_of_neg hKeep]
      exact hTail

theorem bind_eq_map_bind {α β γ : Type} {read read' : Option α}
    {next : α → Option γ} {rest : α → Option β} {change : β → γ}
    (hRead : read' = read) (hNext : ∀ a, next a = (rest a).map change) :
    (read' >>= next) = (read >>= rest).map change := by
  subst hRead
  cases read' with
  | none => rfl
  | some a => exact hNext a

/- A lane is read with other pending turns. -/
theorem decode_set_pendingTurns {lane old new : Json.Value} {turns turns' : List TurnId}
    (hGet : lane.get "pending_turns" = some old) (hOld : Id.codec.list.decode old = some turns)
    (hNew : Id.codec.list.decode new = some turns') :
    RuntimeLane.decode (lane.set "pending_turns" new) = (RuntimeLane.decode lane).map (fun found =>
        { found with pendingTurns := turns' }) := by
  have hField : ∀ key, key ≠ "pending_turns" → (lane.set "pending_turns" new).get key =
        lane.get key :=
    fun key hKey => Json.Value.get_set_other hKey lane new
  have hBefore : lane.required "pending_turns" Id.codec.list.decode = some turns := by
    rw [Json.Value.required, hGet]
    exact hOld
  have hAfter : (lane.set "pending_turns" new).required
      "pending_turns" Id.codec.list.decode = some turns' := by
    rw [Json.Value.required, Json.Value.get_set_self hGet new]
    exact hNew
  -- the fields before and after the pending turns stay the same
  unfold decode
  iterate 4
    refine bind_eq_map_bind (Json.Value.required_congr (hField _ (by decide)) _) (fun _ => ?_)
  refine bind_eq_map_bind (Json.Value.optional_congr (hField _ (by decide)) _) (fun _ => ?_)
  iterate 2
    refine bind_eq_map_bind (Json.Value.required_congr (hField _ (by decide)) _) (fun _ => ?_)
  rw [hBefore, hAfter, Option.bind_eq_bind, Option.bind_some]
  iterate 2
    refine bind_eq_map_bind (Json.Value.required_congr (hField _ (by decide)) _) (fun _ => ?_)
  rfl

/- The pending turns of a lane snapshot read as turns. -/
def ReadableTurns (payload : Json.Value) : Prop :=
  ∀ lane pending, payload.get "runtime_lane" = some lane →
      lane.get "pending_turns" = some (.array pending) →
        ∀ value ∈ pending, ∃ turnId : TurnId, Id.codec.decode value = some turnId

/- A wrapped lane snapshot lists copied turns only. -/
def WrappedTurns (turns : List TurnId) (payload : Json.Value) : Prop :=
  ∀ value lane, payload.get "runtime_lane" = none →
      payload.pointer ["runtime", "runtime_lane"] = some value →
        RuntimeLane.decode value = some lane → ∀ turnId ∈ lane.pendingTurns, turnId ∈ turns

theorem mapM_isSome (hItems : ∀ item ∈ items, ∃ a, decode item = some a) :
    ∃ decoded, items.mapM decode = some decoded := by
  induction items with
  | nil => exact ⟨[], rfl⟩
  | cons item items ih =>
    obtain ⟨a, hHead⟩ := hItems item List.mem_cons_self
    obtain ⟨rest, hRest⟩ := ih (fun other hOther => hItems other (List.mem_cons_of_mem _ hOther))
    exact ⟨a :: rest, by
      simp [hHead, hRest]⟩

/- What the filter of a fork reads is what the lane reads. -/
theorem asStr_bind_ofText (value : Json.Value) :
    value.asStr.bind Id.ofText = (Id.codec : Json.Codec TurnId).decode value := by
  cases value <;> rfl

theorem decode_pendingTurns_found {lane : Json.Value} {found : RuntimeLane}
    (hFound : RuntimeLane.decode lane = some found) :
    lane.required "pending_turns" Id.codec.list.decode = some found.pendingTurns := by
  unfold decode at hFound
  simp only [Option.bind_eq_bind, Option.bind_eq_some_iff] at hFound
  obtain ⟨_, -, _, -, _, -, _, -, _, -, _, -, _, -, pending, hPending, _, -, _, -, hLane⟩ := hFound
  cases hLane
  exact hPending

/- The lane of a retained payload lists the copied turns. -/
theorem decode_retained {payload lane : Json.Value} (hReadable : ReadableTurns payload)
    (hLane : payload.get "runtime_lane" = some lane) :
    ∃ lane', (retainForkedPendingTurns maps payload).get "runtime_lane" = some lane' ∧
      RuntimeLane.decode lane' = (RuntimeLane.decode lane).map
          (RuntimeLane.keepTurns maps.turns) := by
  cases hArray : (lane.get "pending_turns").bind Json.Value.asArray with
  | none =>
    -- Such a lane does not read as a lane at all.
    have hNone : decode lane = none := by
      cases hFound : decode lane with
      | none => rfl
      | some found =>
        have hPending := decode_pendingTurns_found hFound
        obtain ⟨value, hValue, hDecode⟩ := Option.bind_eq_some_iff.1 hPending
        obtain ⟨items, hItems, -⟩ := Option.bind_eq_some_iff.1 hDecode
        rw [hValue, Option.bind_some, hItems] at hArray
        cases hArray
    have hSame : retainForkedPendingTurns maps payload = payload := by
      simp [retainForkedPendingTurns, hLane, hArray]
    refine ⟨lane, ?_, ?_⟩
    · rw [hSame, hLane]
    · rw [hNone]
      rfl
  | some pending =>
    obtain ⟨listed, hGet, hItems⟩ := Option.bind_eq_some_iff.1 hArray
    have hListed : listed = .array pending := by
      cases listed with
      | array items =>
        cases hItems
        rfl
      | _ => cases hItems
    subst hListed
    obtain ⟨turns, hTurns⟩ := mapM_isSome (hReadable lane pending hLane hGet)
    have hTest : ∀ item ∈ pending, ∀ turnId : TurnId, Id.codec.decode item = some turnId →
          (item.asStr.bind Id.ofText).any (fun turnId =>
            decide (turnId ∈ maps.turns)) = decide (turnId ∈ maps.turns) := by
      intro item _ turnId hItem
      rw [asStr_bind_ofText, hItem]
      rfl
    have hKept : Id.codec.list.decode (.array (pending.filter (fun item =>
          (item.asStr.bind Id.ofText).any (fun turnId => decide (turnId ∈ maps.turns))))) =
        some (turns.filter (fun turnId => decide (turnId ∈ maps.turns))) :=
      mapM_decode_filter hTest hTurns
    have hDecode := decode_set_pendingTurns hGet hTurns hKept
    simp only [retainForkedPendingTurns, hLane, hArray]
    refine ⟨_, Json.Value.get_set_self hLane _, ?_⟩
    rw [hDecode]
    cases hFound : decode lane with
    | none => rfl
    | some found =>
      have hPending := decode_pendingTurns_found hFound
      rw [Json.Value.required, hGet] at hPending
      have hSame : turns = found.pendingTurns := Option.some.inj (hTurns.symm.trans hPending)
      subst hSame
      rfl

/- Two payloads that differ in their lane snapshots only. -/
def SameRecords (payload payload' : Json.Value) : Prop := ∀ key, key ≠ "runtime_lane" →
    payload'.get key = payload.get key

namespace SameRecords

variable {payload payload' : Json.Value}

variable {key : String}

section

variable (hSame : SameRecords payload payload')
include hSame

theorem required (hKey : key ≠ "runtime_lane") (decode : Json.Value → Option α) :
    payload'.required key decode = payload.required key decode :=
  Json.Value.required_congr (hSame key hKey) decode

theorem optional (hKey : key ≠ "runtime_lane") (decode : Json.Value → Option α) :
    payload'.optional key decode = payload.optional key decode :=
  Json.Value.optional_congr (hSame key hKey) decode

theorem defaulted (hKey : key ≠ "runtime_lane") (fallback : α) (decode : Json.Value → Option α) :
    payload'.defaulted key fallback decode = payload.defaulted key fallback decode := by
  rw [Json.Value.defaulted, Json.Value.defaulted, hSame key hKey]

theorem loopDecision : LoopDecision.decode payload' = LoopDecision.decode payload := by
  simp (disch := decide) only [LoopDecision.decode, hSame.required, hSame.optional]

theorem verification : VerificationRecord.decode payload' = VerificationRecord.decode payload := by
  simp (disch := decide) only [VerificationRecord.decode,
    hSame.required, hSame.optional, hSame.defaulted]

end

end SameRecords

namespace ForkMaps

/- What a fork does to a projection. -/
def projectionMap (maps : ForkMaps) (ρ : Uuid → Uuid)
    (hInjective : Function.Injective ρ) : ProjectionMap where
  session := Id.rename ρ
  task := Id.rename ρ
  task_injective := by
    intro first second hSame
    cases first
    cases second
    exact congrArg Id.mk (hInjective (congrArg Id.uuid hSame))
  text := renameText ρ
  lane := fun lane => (lane.keepTurns maps.turns).rename ρ
  decision := LoopDecision.rename ρ
  verification := VerificationRecord.rename ρ

theorem projectionMap_apply (maps : ForkMaps) {ρ : Uuid → Uuid}
    (hInjective : Function.Injective ρ) (projection : StateProjection) :
    (maps.projectionMap ρ hInjective).apply projection =
      (projection.keepTurns maps.turns).rename ρ := by
  simp only [ProjectionMap.apply, StateProjection.rename, StateProjection.keepTurns, Option.map_map]
  rfl

namespace Renames

variable {maps : ForkMaps} {events : List RuntimeEvent} {event : RuntimeEvent} {ρ : Uuid → Uuid}

section

variable (hRenames : maps.Renames events ρ)
include hRenames

section

variable (hPrinted : PrintedIds maps events)
include hPrinted

/- Where the identifiers are printed, all readings agree. -/
theorem payload_rename (hEvent : event ∈ events) :
    ((withinCopy maps event).rename ρ).payload = (retainForkedPendingTurns maps
        event.payload).mapStrings (renameText ρ) := by
  apply Json.Value.mapStrings_congr
  intro text hText
  have hInside := strings_retainForkedPendingTurns maps _ hText
  apply Uuid.renamePrinted_eq_renameText
  intro uuid hRead hMoves
  apply hPrinted event hEvent text hInside uuid hRead
  intro hNone
  apply hMoves
  refine hRenames.others event hEvent uuid ?_ hNone
  exact List.mem_append_right _ (List.mem_filterMap.2 ⟨text, hInside, hRead⟩)

variable {key : String}

theorem get_rename (hEvent : event ∈ events) (hKey : key ≠ "runtime_lane") :
    ((withinCopy maps event).rename ρ).payload.get key = (event.payload.get key).map
        (Json.Value.mapStrings (renameText ρ)) := by
  rw [hRenames.payload_rename hPrinted hEvent, Json.Value.get_mapStrings,
    get_retainForkedPendingTurns maps _ hKey]

/- A text of the payload, as the child reads it. -/
theorem textOf_rename (hEvent : event ∈ events) (hKey : key ≠ "runtime_lane") :
    ProjectionMap.textOf ((withinCopy maps event).rename ρ) key =
      (ProjectionMap.textOf event key).map (renameText ρ) := by
  unfold ProjectionMap.textOf
  rw [hRenames.get_rename hPrinted hEvent hKey]
  cases event.payload.get key with
  | none => rfl
  | some value => exact Json.Value.asStr_mapStrings _ value

theorem eventTaskStatus_rename (hEvent : event ∈ events) :
    eventTaskStatus ((withinCopy maps event).rename ρ) = eventTaskStatus event := by
  unfold eventTaskStatus
  rw [hRenames.get_rename hPrinted hEvent (by decide)]
  cases event.payload.get "status" with
  | none => rfl
  | some value => exact (TaskStatus.equivariant_codec ρ value).trans (Option.map_id_apply)

/- A record of the payload, as the child reads it. -/
theorem record_rename {α : Type} {decode : Json.Value → Option α} {rename : α → α}
    (hEvent : event ∈ events) (hEquivariant : Json.Equivariant (renameText ρ) decode rename)
    (hSame : ∀ payload payload', SameRecords payload payload' → decode payload' = decode payload) :
    decode (recordPayload ((withinCopy maps event).rename ρ)) =
      (decode (recordPayload event)).map rename := by
  unfold recordPayload
  rw [hRenames.get_rename hPrinted hEvent (by decide)]
  cases event.payload.get "record" with
  | none =>
    change decode ((withinCopy maps event).rename ρ).payload = (decode event.payload).map rename
    rw [hRenames.payload_rename hPrinted hEvent,
      hEquivariant, hSame event.payload _ (fun key hKey =>
        get_retainForkedPendingTurns maps _ hKey)]
  | some record => exact hEquivariant record

/- The lane of an event, as the child reads it. -/
theorem lane_rename (hEvent : event ∈ events) (hReadable : ReadableTurns event.payload)
    (hWrapped : WrappedTurns maps.turns event.payload) :
    runtimeLaneFromEvent ((withinCopy maps event).rename ρ) =
      (runtimeLaneFromEvent event).map (fun lane => (lane.keepTurns maps.turns).rename ρ) := by
  unfold runtimeLaneFromEvent
  rw [hRenames.payload_rename hPrinted hEvent,
    Json.Value.get_mapStrings, Json.Value.pointer_mapStrings]
  cases hLane : event.payload.get "runtime_lane" with
  | none =>
    have hSame : retainForkedPendingTurns maps event.payload = event.payload := by
      simp [retainForkedPendingTurns, hLane]
    rw [hSame, hLane]
    cases hInner : event.payload.pointer ["runtime", "runtime_lane"] with
    | none => rfl
    | some value =>
      change decode (value.mapStrings (renameText ρ)) = (decode value).map _
      rw [equivariant_decode ρ value]
      cases hFound : decode value with
      | none => rfl
      | some lane =>
        have hKept : lane.keepTurns maps.turns = lane := keepTurns_eq_self
            (hWrapped value lane hLane hInner hFound)
        simp [hKept]
  | some lane =>
    obtain ⟨lane', hGet, hDecode⟩ := decode_retained maps hReadable hLane
    rw [hGet]
    change decode (lane'.mapStrings (renameText ρ)) = (decode lane).map _
    rw [equivariant_decode ρ lane', hDecode, Option.map_map]
    rfl

/- The child reads each event as the renamed one. -/
theorem maps_rename (hEvent : event ∈ events) (hReadable : ReadableTurns event.payload)
    (hWrapped : WrappedTurns maps.turns event.payload) :
    (maps.projectionMap ρ hRenames.injective).Maps event ((withinCopy maps event).rename ρ) where
  eventType := rfl
  taskId := rfl
  status := hRenames.eventTaskStatus_rename hPrinted hEvent
  lane := hRenames.lane_rename hPrinted hEvent hReadable hWrapped
  follow := by
    intro status lane
    have hSame : ((withinCopy maps event).rename ρ).eventType = event.eventType := rfl
    unfold followLane
    rw [hSame]
    by_cases hType : event.eventType = .turnStarted
    · rw [if_pos hType, if_pos hType]
      rfl
    · rw [if_neg hType, if_neg hType]
      rfl
  approval := hRenames.textOf_rename hPrinted hEvent (by decide)
  content := hRenames.textOf_rename hPrinted hEvent (by decide)
  summary := by
    rw [hRenames.textOf_rename hPrinted hEvent (by decide)]
    cases ProjectionMap.textOf event "summary" with
    | none => rfl
    | some text => rfl
  decision := hRenames.record_rename hPrinted hEvent (LoopDecision.equivariant_decode ρ)
    (fun _ _ hSame => hSame.loopDecision)
  verification := hRenames.record_rename hPrinted hEvent (VerificationRecord.equivariant_decode ρ)
    (fun _ _ hSame => hSame.verification)

end

/- The projection of the child is the renamed projection. -/
theorem reduceState_eq {copies : List RuntimeEvent} (hDistinct : maps.kinds.Pairwise List.Disjoint)
    (hPrinted : PrintedIds maps events) (hReadable : ∀ event ∈ events, ReadableTurns event.payload)
    (hWrapped : ∀ event ∈ events, WrappedTurns maps.turns event.payload)
    (hCopies : List.Forall₂ (fun event copy =>
      event ∈ events ∧ ∃ sequenceNo, copy = { (withinCopy maps event).rename ρ with sequenceNo })
      events copies) :
    ProjectionMap.numbered 0 (reduceState maps.childSession copies) = ProjectionMap.numbered 0
        (((reduceState maps.parentSession events).keepTurns maps.turns).rename ρ) := by
  have hMaps : List.Forall₂ (maps.projectionMap ρ hRenames.injective).Maps events copies := by
    refine hCopies.imp ?_
    rintro event copy ⟨hEvent, sequenceNo, rfl⟩
    exact (hRenames.maps_rename hPrinted hEvent (hReadable event hEvent)
      (hWrapped event hEvent)).renumbered sequenceNo
  have hReduce := ProjectionMap.reduceState_map hMaps maps.parentSession
  rw [projectionMap_apply] at hReduce
  rw [← hRenames.rename_session hDistinct]
  exact hReduce

end

end Renames

end ForkMaps

end Store

end GolutraAgent
