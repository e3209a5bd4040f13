import Mathlib.Data.List.MinMax
import GolutraAgent.Library.Machine
import GolutraAgent.Library.Table
import GolutraAgent.Library.Text
import GolutraAgent.Library.Transaction

/-
  This file models the registry of the plugin store: the revisions of each
  plugin, and the one that is active. A rollback takes the reviewed revision
  that was staged last, whether it was ever enabled or not.

  Main declarations:
    * `rollback_goesBack_iff`
    * `rollback_to_unused`
-/

namespace GolutraAgent.Plugin

inductive PluginError
| io (message : String)
| json (message : String)
| invalidManifest (message : String)
| limit (message : String)
| notFound (pluginId : String)
| revisionNotFound (revisionId : String)
| invalidState (message : String)
| integrity (message : String)

inductive PluginRevisionState
| staged
| reviewed
| enabled
| disabled
deriving DecidableEq, Repr

/- A staged package. Review and activation add their times. -/
structure PluginRevision where
  revisionId : String
  manifestId : String
  state : PluginRevisionState
  stagedAt : Nat
  reviewedAt : Option Nat
  enabledAt : Option Nat

/- A plugin with all its revisions, in the order of staging. -/
structure PluginRecord where
  pluginId : String
  activeRevisionId : Option String
  revisions : Table PluginRevision.revisionId

abbrev PluginRegistryState := Table PluginRecord.pluginId

abbrev Changed := Except PluginError (PluginRegistryState × PluginRevision)

def maxPlugins : Nat := 128

def maxRevisionsPerPlugin : Nat := 20

inductive PluginOperation
| stage
| review (revisionId : String)
| enable (revisionId : String)
| disable
| rollback

/- An operation, and what it meets outside of the registry. -/
structure PluginCall where
  pluginId : String
  operation : PluginOperation
  now : Nat
  newRevisionId : String
  load : Except PluginError Unit
  -- the files of a package, copied or compared
  package : PluginRevision → Except PluginError Unit
  save : Except PluginError Unit
  -- whether a save that failed has replaced the file
  replaced : Bool

def ensure (holds : Bool) (error : PluginError) : Except PluginError Unit :=
  if holds then .ok () else .error error

def validateStageCapacity (state : PluginRegistryState) (pluginId : String) :
    Except PluginError Unit := do
  ensure (state.rows.length < maxPlugins || (state.find? pluginId).isSome)
    (.limit s!"plugin registry cannot exceed {maxPlugins} plugins")
  ensure ((state.find? pluginId).all (·.revisions.rows.length < maxRevisionsPerPlugin))
    (.limit s!"plugin `{pluginId}` cannot exceed {maxRevisionsPerPlugin} revisions")

def validateState (state : PluginRegistryState) : Except PluginError Unit := do
  ensure (state.rows.length ≤ maxPlugins) (.limit "too many plugins")
  state.rows.forM (fun record => do
    let pluginId := record.pluginId
    let revisions := record.revisions.rows
    ensure (revisions.length ≤ maxRevisionsPerPlugin)
      (.limit s!"plugin `{pluginId}` has too many revisions")
    ensure (revisions.all (·.manifestId = pluginId))
      (.invalidState s!"revision manifest id does not match `{pluginId}`")
    ensure ((revisions.filter (·.state = .enabled)).map PluginRevision.revisionId =
      record.activeRevisionId.toList)
      (.invalidState s!"plugin `{pluginId}` active revision is inconsistent"))

def findRecord (state : PluginRegistryState) (pluginId : String) :
    Except PluginError PluginRecord :=
  (state.find? pluginId).elim (.error (.notFound pluginId)) .ok

def findRevision (record : PluginRecord) (revisionId : String) :
    Except PluginError PluginRevision :=
  (record.revisions.find? revisionId).elim (.error (.revisionNotFound revisionId)) .ok

/- Give a revision a new state, and the times that are given. -/
def PluginRecord.mark (record : PluginRecord) (revisionId : String) (state : PluginRevisionState)
    (reviewedAt enabledAt : Option Nat) : PluginRecord :=
  { record with
    revisions := record.revisions.updateWhere (·.revisionId = revisionId) (fun revision =>
      { revision with
        state := state
        reviewedAt := reviewedAt.or revision.reviewedAt
        enabledAt := enabledAt.or revision.enabledAt }) (fun _ => rfl) }

/- The revision that was active is disabled. -/
def PluginRecord.enable (record : PluginRecord) (revisionId : String) (now : Nat) : PluginRecord :=
  let record := match record.activeRevisionId.filter (· ≠ revisionId) with
    | some active => record.mark active .disabled none none
    | none => record
  { record.mark revisionId .enabled none (some now) with activeRevisionId := some revisionId }

/- The revisions that a rollback may enable. -/
def PluginRecord.candidates (record : PluginRecord) : List PluginRevision :=
  record.revisions.rows.filter (fun revision => some revision.revisionId ≠ record.activeRevisionId ∧
    revision.reviewedAt.isSome ∧ revision.state ≠ .staged)

namespace PluginCall

variable (call : PluginCall) (state : PluginRegistryState)

def stage : Changed := do
  validateStageCapacity state call.pluginId
  let revision := ⟨call.newRevisionId, call.pluginId, .staged, call.now, none, none⟩
  call.package revision
  let record := (state.find? call.pluginId).getD ⟨call.pluginId, none, .empty⟩
  match record.revisions.insert? revision with
  | none => .error (.invalidState s!"duplicate revision `{call.newRevisionId}`")
  | some revisions => .ok (state.put { record with revisions }, revision)

def review (revisionId : String) : Changed := do
  let record ← findRecord state call.pluginId
  let revision ← findRevision record revisionId
  ensure (revision.state = .staged) (.invalidState
    s!"revision `{revisionId}` is {Text.debugName revision.state}, expected staged")
  call.package revision
  let record := record.mark revisionId .reviewed (some call.now) none
  return (state.put record, ← findRevision record revisionId)

/- Only reviewed or disabled revisions can be enabled. -/
def enableUnlocked (revisionId : String) : Changed := do
  let record ← findRecord state call.pluginId
  let target ← findRevision record revisionId
  ensure (target.state = .reviewed || target.state = .disabled) (.invalidState
    s!"revision `{revisionId}` must be reviewed before it can be enabled")
  call.package target
  let record := record.enable revisionId call.now
  return (state.put record, ← findRevision record revisionId)

def disable : Changed := do
  let record ← findRecord state call.pluginId
  match record.activeRevisionId with
  | none => .error (.invalidState s!"plugin `{call.pluginId}` is not enabled")
  | some active =>
    let record := { record.mark active .disabled none none with activeRevisionId := none }
    return (state.put record, ← findRevision record active)

def rollback : Changed := do
  let record ← findRecord state call.pluginId
  -- of equal keys `max_by_key` takes the last
  match record.candidates.reverse.argmax PluginRevision.stagedAt with
  | none =>
    .error (.invalidState s!"plugin `{call.pluginId}` has no reviewed revision to roll back to")
  | some target => call.enableUnlocked state target.revisionId

def perform : Changed :=
  match call.operation with
  | .stage => call.stage state
  | .review revisionId => call.review state revisionId
  | .enable revisionId => call.enableUnlocked state revisionId
  | .disable => call.disable state
  | .rollback => call.rollback state

/- What a call does before it saves the registry. -/
def attempt : Changed := do
  call.load
  validateState state
  let result ← call.perform state
  validateState result.1
  return result

end PluginCall

/- The registry and, newest first, what was ever enabled. -/
structure PluginHistory where
  registry : PluginRegistryState
  enablings : List (String × String)

/- A call that is refused leaves no trace. -/
def PluginHistory.step (history : PluginHistory) (call : PluginCall) : PluginHistory :=
  match call.attempt history.registry with
  | .error _ => history
  | .ok (registry, revision) =>
    if call.save.isOk || call.replaced then
      ⟨registry, match call.operation with
        | .enable _ | .rollback => (call.pluginId, revision.revisionId) :: history.enablings
        | _ => history.enablings⟩
    else history

def historyOf (calls : List PluginCall) : PluginHistory :=
  Machine.run PluginHistory.step ⟨.empty, []⟩ calls

/- The revision that was active before one was last enabled. -/
def PluginHistory.activeBefore (history : PluginHistory) (pluginId active : String) :
    Option String :=
  let own := (history.enablings.filter (·.1 = pluginId)).map Prod.snd
  (own.dropWhile (· ≠ active)).tail.head?

/- What a rollback of the active revision is for. -/
def PluginHistory.GoesBack (history : PluginHistory) (record : PluginRecord)
    (active : PluginRevision) (target : String) : Prop :=
  history.activeBefore record.pluginId active.revisionId = some target ∧
    ∀ row ∈ record.revisions.rows, row.revisionId = target → row.stagedAt ≤ active.stagedAt

def PluginRecord.times (record : PluginRecord) : List Nat :=
  record.revisions.rows.map PluginRevision.stagedAt

/- Revisions are staged one after another, and before a time. -/
def Ordered (later : Nat) (state : PluginRegistryState) : Prop :=
  ∀ record ∈ state.rows, (record.times ++ [later]).Pairwise (· < ·)

/- One record is put, with the old revisions and perhaps a new one. -/
def Puts (now : Nat) (state state' : PluginRegistryState) : Prop :=
  ∃ new times, state' = state.put new ∧ (times = [] ∨ ∃ old ∈ state.rows, old.times = times) ∧
    (new.times = times ∨ new.times = times ++ [now])

variable {state state' : PluginRegistryState} {record new : PluginRecord}
variable {revision : PluginRevision} {pluginId revisionId : String} {now later : Nat}
variable {calls : List PluginCall} {call : PluginCall}

theorem elim_eq_ok {α : Type} {found : Option α} {error : PluginError} {a : α} :
    found.elim (.error error) Except.ok = .ok a ↔ found = some a := by
  cases found <;> simp

theorem findRecord_eq_ok :
    findRecord state pluginId = .ok record ↔ record ∈ state.rows ∧ record.pluginId = pluginId :=
  elim_eq_ok.trans Table.find?_eq_some_iff

theorem revisionId_of_findRevision (hFind : findRevision record revisionId = .ok revision) :
    revision.revisionId = revisionId :=
  (Table.find?_eq_some_iff.mp (elim_eq_ok.mp hFind)).2

/- No call changes when a revision was staged. -/
theorem times_mark {revisionState : PluginRevisionState} {reviewedAt enabledAt : Option Nat} :
    (record.mark revisionId revisionState reviewedAt enabledAt).times = record.times := by
  simp only [PluginRecord.times, PluginRecord.mark, Table.updateWhere, List.map_map]
  apply List.map_congr_left
  intro revision _
  simp only [Function.comp_apply]
  split <;> rfl

theorem times_enable : (record.enable revisionId now).times = record.times := by
  unfold PluginRecord.enable
  split
  · exact times_mark.trans times_mark
  · exact times_mark

theorem puts_of_times (hRecord : record ∈ state.rows) (hTimes : new.times = record.times) :
    Puts now state (state.put new) :=
  ⟨new, _, rfl, .inr ⟨record, hRecord, rfl⟩, .inl hTimes⟩

theorem enableUnlocked_ok
    (hEnable : call.enableUnlocked state revisionId = .ok (state', revision)) :
    revision.revisionId = revisionId ∧ Puts call.now state state' := by
  simp only [PluginCall.enableUnlocked, Transaction.bind_eq_ok, findRecord_eq_ok] at hEnable
  rcases hEnable with ⟨record, ⟨hRecord, -⟩, _, -, _, -, _, -, found, hFound, ⟨⟩⟩
  exact ⟨revisionId_of_findRevision hFound, puts_of_times hRecord times_enable⟩

/- A rollback enables the candidate that was staged last. -/
theorem rollback_ok (hRollback : call.rollback state = .ok (state', revision)) :
    ∃ record ∈ state.rows, record.pluginId = call.pluginId ∧ ∃ target ∈ record.candidates,
      (∀ other ∈ record.candidates, other.stagedAt ≤ target.stagedAt) ∧
      call.enableUnlocked state target.revisionId = .ok (state', revision) := by
  simp only [PluginCall.rollback, Transaction.bind_eq_ok, findRecord_eq_ok] at hRollback
  rcases hRollback with ⟨record, ⟨hRecord, hKey⟩, hEnable⟩
  split at hEnable
  · cases hEnable
  · rename_i target hTarget
    refine ⟨record, hRecord, hKey, target, ?_, ?_, hEnable⟩
    · exact List.mem_reverse.mp (List.argmax_mem hTarget)
    · intro other hOther
      exact List.le_of_mem_argmax (List.mem_reverse.mpr hOther) hTarget

/- A new revision is the latest one. -/
theorem stage_puts (hStage : call.stage state = .ok (state', revision)) :
    Puts call.now state state' := by
  simp only [PluginCall.stage, Transaction.bind_eq_ok] at hStage
  rcases hStage with ⟨-, -, -, -, hInsert⟩
  split at hInsert
  · cases hInsert
  · rename_i revisions hNew
    cases hInsert
    have hTimes := congrArg (List.map PluginRevision.stagedAt) (Table.insert?_eq_some hNew).2
    rw [List.map_append] at hTimes
    refine ⟨_, _, rfl, ?_, .inr hTimes⟩
    cases hFind : state.find? call.pluginId with
    | none => exact .inl rfl
    | some record => exact .inr ⟨record, (Table.find?_eq_some_iff.mp hFind).1, rfl⟩

theorem perform_puts (hPerform : call.perform state = .ok (state', revision)) :
    Puts call.now state state' := by
  unfold PluginCall.perform at hPerform
  split at hPerform
  · exact stage_puts hPerform
  · simp only [PluginCall.review, Transaction.bind_eq_ok, findRecord_eq_ok] at hPerform
    rcases hPerform with ⟨record, ⟨hRecord, -⟩, _, -, _, -, _, -, _, -, ⟨⟩⟩
    exact puts_of_times hRecord times_mark
  · exact (enableUnlocked_ok hPerform).2
  · simp only [PluginCall.disable, Transaction.bind_eq_ok, findRecord_eq_ok] at hPerform
    rcases hPerform with ⟨record, ⟨hRecord, -⟩, hActive⟩
    split at hActive
    · cases hActive
    · rcases Transaction.bind_eq_ok.mp hActive with ⟨_, -, ⟨⟩⟩
      exact puts_of_times hRecord times_mark
  · rcases rollback_ok hPerform with ⟨_, -, -, _, -, -, hEnable⟩
    exact (enableUnlocked_ok hEnable).2

theorem pairwise_later {times : List Nat} (hLater : now < later)
    (hTimes : (times ++ [now]).Pairwise (· < ·)) :
    (times ++ [later]).Pairwise (· < ·) ∧ (times ++ [now] ++ [later]).Pairwise (· < ·) := by
  simp at ⊢
  grind

theorem Ordered.step {history : PluginHistory} (hLater : call.now < later)
    (hOrdered : Ordered call.now history.registry) :
    Ordered later (history.step call).registry := by
  have hOld : Ordered later history.registry := fun record hRecord =>
    (pairwise_later hLater (hOrdered record hRecord)).1
  unfold PluginHistory.step
  split
  · exact hOld
  · rename_i registry revision hAttempt
    split
    · simp only [PluginCall.attempt, Transaction.bind_eq_ok] at hAttempt
      rcases hAttempt with ⟨_, -, _, -, result, hPerform, _, -, ⟨⟩⟩
      rcases perform_puts hPerform with ⟨new, times, rfl, hTimes, hNew⟩
      have hBefore : (times ++ [call.now]).Pairwise (· < ·) := by
        rcases hTimes with rfl | ⟨old, hMem, rfl⟩
        · exact List.pairwise_singleton _ _
        · exact hOrdered old hMem
      intro record hRecord
      rcases Table.mem_put.mp hRecord with ⟨hMem, -⟩ | rfl
      · exact hOld record hMem
      · rcases hNew with hSame | hSame <;> rw [hSame]
        · exact (pairwise_later hLater hBefore).1
        · exact (pairwise_later hLater hBefore).2
    · exact hOld

theorem historyOf_ordered (hClock : (calls.map PluginCall.now ++ [now]).Pairwise (· < ·)) :
    Ordered now (historyOf calls).registry := by
  induction calls using List.reverseRecOn generalizing now with
  | nil => exact nofun
  | append_singleton calls call ih =>
    rw [List.map_append] at hClock
    rcases List.pairwise_append.mp hClock with ⟨hCalls, -, hLast⟩
    rw [historyOf, Machine.run_concat]
    exact (ih hCalls).step (hLast _ (by simp) _ (by simp))

/- A rollback goes back if no other candidate was staged later. -/
theorem rollback_goesBack_iff (calls : List PluginCall) (call : PluginCall) (record : PluginRecord)
    (active : PluginRevision) (hClock : (calls.map PluginCall.now ++ [call.now]).Pairwise (· < ·))
    (hRecord : record ∈ (historyOf calls).registry.rows) (hCalled : record.pluginId = call.pluginId)
    (hOperation : call.operation = .rollback)
    (hOk : call.attempt (historyOf calls).registry = .ok (state', revision)) :
    (historyOf calls).GoesBack record active revision.revisionId ↔ ∃ previous ∈ record.candidates,
      (historyOf calls).activeBefore record.pluginId active.revisionId = some previous.revisionId ∧
      (∀ other ∈ record.candidates, other.stagedAt ≤ previous.stagedAt) ∧
      previous.stagedAt ≤ active.stagedAt := by
  simp only [PluginCall.attempt, PluginCall.perform, hOperation, Transaction.bind_eq_ok] at hOk
  rcases hOk with ⟨_, -, _, -, _, hRollback, _, -, ⟨⟩⟩
  rcases rollback_ok hRollback with ⟨found, hFound, hKey, target, hTarget, hLast, hEnable⟩
  cases List.inj_on_of_nodup_map (historyOf calls).registry.distinct hFound hRecord
    (hKey.trans hCalled.symm)
  rw [(enableUnlocked_ok hEnable).1]
  have hRows : ∀ {row}, row ∈ record.candidates → row ∈ record.revisions.rows :=
    fun hRow => (List.mem_filter.mp hRow).1
  constructor
  · rintro ⟨hBefore, hStaged⟩
    exact ⟨target, hTarget, hBefore, hLast, hStaged target (hRows hTarget) rfl⟩
  · rintro ⟨previous, hPrevious, hBefore, hLatest, hStaged⟩
    -- no two revisions of a record were staged at one time
    have hTimes : record.times.Nodup :=
      ((List.pairwise_append.mp (historyOf_ordered hClock record hRecord)).1).imp Nat.ne_of_lt
    cases List.inj_on_of_nodup_map hTimes (hRows hTarget) (hRows hPrevious)
      (Nat.le_antisymm (hLatest target hTarget) (hLast previous hPrevious))
    refine ⟨hBefore, fun row hRow hSame => ?_⟩
    rw [List.inj_on_of_nodup_map record.revisions.distinct hRow (hRows hPrevious) hSame]
    exact hStaged

def pluginCall (now : Nat) (operation : PluginOperation) : PluginCall :=
  ⟨"p", operation, now, if now = 1 then "a" else "b", .ok (), fun _ => .ok (), .ok (), false⟩

/- The revision `a` is active, and `b` is reviewed. -/
def reviewedCalls : List PluginCall :=
  [pluginCall 1 .stage, pluginCall 2 (.review "a"), pluginCall 3 (.enable "a"),
    pluginCall 4 .stage, pluginCall 5 (.review "b")]

def switchedCalls : List PluginCall := reviewedCalls ++ [pluginCall 6 (.enable "b")]

def firstRevision : PluginRevision := ⟨"a", "p", .disabled, 1, some 2, some 3⟩

def secondRevision : PluginRevision := ⟨"b", "p", .enabled, 4, some 5, some 6⟩

def switchedRecord : PluginRecord := ⟨"p", some "b", [firstRevision, secondRevision], by decide⟩

theorem rollback_to_previous :
    (historyOf switchedCalls).GoesBack switchedRecord secondRevision "a" :=
  (rollback_goesBack_iff switchedCalls (pluginCall 7 .rollback) switchedRecord secondRevision
    (by decide) (List.mem_of_getElem? (i := 0) rfl) rfl rfl rfl).mpr
      ⟨firstRevision, List.mem_of_getElem? (i := 0) rfl, rfl, by decide, by decide⟩

/- The revision `b` was never enabled, and was staged after `a`. -/
theorem rollback_to_unused :
    ((pluginCall 6 .rollback).attempt (historyOf reviewedCalls).registry).toOption.map
      (·.2.revisionId) = some "b" ∧
    (historyOf reviewedCalls).registry.rows.map PluginRecord.activeRevisionId = [some "a"] ∧
    (historyOf reviewedCalls).enablings = [("p", "a")] := by
  decide

end GolutraAgent.Plugin
