import Mathlib.Logic.Function.Basic
import GolutraAgent.Library.Program

/-
  This file models the attachments of the app server. A client attaches to the
  runtime of a directory and gets a lease for each of its requests. The
  operations hold the lifecycle lock, and a lease is dropped at any moment
  without it.
-/

namespace GolutraAgent.AppServer

/- A lease state is shared, so entries hold its number. -/
structure AttachmentLeaseState where
  active : Nat
  idleSince : Int
  revoked : Bool

/- An attachment that clients may use. -/
structure AttachmentEntry where
  attachmentId : String
  runtimeKey : String
  leaseState : Nat

/- A detached one whose leases are still out. -/
structure RevokedAttachment where
  runtimeKey : String
  leaseState : Nat

structure RuntimeCell where
  runtimeKey : String
  initialised : Bool

structure AttachmentLease where
  runtimeKey : String
  leaseState : Nat
deriving DecidableEq

inductive AttachmentInsertError
| capacity
| duplicate

inductive AttachError
| invalidSession (detail : String)
| io (detail : String)
| daemon (detail : String)
| transport (detail : String)

structure AttachmentLimits where
  maxEntries : Nat
  maxRuntimes : Nat
  idleTtl : Nat

/-
  The registry, the runtimes and the leases that are live. The last four fields
  are a record of what clients have seen: the identifiers given out, those that
  were attached with their lease state, when each state was last used, and the
  identifiers that were detached or have expired.
-/
structure AttachmentServer where
  entries : List AttachmentEntry
  revoked : List RevokedAttachment
  states : Nat → AttachmentLeaseState
  allocated : Nat
  runtimes : List RuntimeCell
  leases : List AttachmentLease
  issued : List String
  attached : List (String × Nat)
  lastUse : Nat → Int
  retired : List String

def AttachmentLeaseState.idleExpiredAt (state : AttachmentLeaseState)
    (now : Int) (ttl : Nat) : Bool :=
  state.active = 0 && ttl < (now - state.idleSince).toNat

namespace AttachmentServer

def new : AttachmentServer where
  entries := []
  revoked := []
  states := fun _ => ⟨0, 0, false⟩
  allocated := 0
  runtimes := []
  leases := []
  issued := []
  attached := []
  lastUse := fun _ => 0
  retired := []

variable (limits : AttachmentLimits) (server : AttachmentServer)

def expiredAt (now : Int) (entry : AttachmentEntry) : Bool :=
  (server.states entry.leaseState).idleExpiredAt now limits.idleTtl

/- The revoked attachments that still have live leases. -/
def activeRevoked : List RevokedAttachment := server.revoked.filter (fun revoked =>
    0 < (server.states revoked.leaseState).active)

def pruneExpiredAt (now : Int) : AttachmentServer :=
  { server with
    entries := server.entries.filter (fun entry => !server.expiredAt limits now entry)
    revoked := server.activeRevoked
    states := fun state =>
      if server.entries.any (fun entry =>
          entry.leaseState = state && server.expiredAt limits now entry) then
        { server.states state with revoked := true }
      else server.states state }

def runtimeKeys : List String := server.entries.map (·.runtimeKey) ++
    server.activeRevoked.map (·.runtimeKey)

/- What is left of `insert` after it has pruned. -/
def insert (attachmentId runtimeKey : String) (now : Int) :
    Except AttachmentInsertError Unit × AttachmentServer :=
  if server.entries.any (·.attachmentId = attachmentId) then (.error .duplicate, server)
  else if limits.maxEntries ≤ server.entries.length + server.activeRevoked.length then
    (.error .capacity, server)
  else
    (.ok (), { server with
      entries := server.entries ++ [⟨attachmentId, runtimeKey, server.allocated⟩]
      states := Function.update server.states server.allocated ⟨0, now, false⟩
      allocated := server.allocated + 1 })

variable (attachmentId : String)

/- What is left of `attachment` after it has pruned. -/
def acquire : Option AttachmentLease × AttachmentServer :=
  match server.entries.find? (·.attachmentId = attachmentId) with
  | none => (none, server)
  | some entry =>
    let state := server.states entry.leaseState
    if state.revoked then (none, server)
    else
      let lease : AttachmentLease := ⟨entry.runtimeKey, entry.leaseState⟩
      (some lease, { server with
        states := Function.update server.states entry.leaseState
          { state with active := state.active + 1 }
        leases := lease :: server.leases })

def detachAttachment : Bool × AttachmentServer :=
  match server.entries.find? (·.attachmentId = attachmentId) with
  | none => (false, server)
  | some entry =>
    (true, { server with
      entries := server.entries.filter (·.attachmentId ≠ attachmentId)
      revoked := server.revoked ++ [⟨entry.runtimeKey, entry.leaseState⟩]
      states := Function.update server.states entry.leaseState { server.states entry.leaseState with
          revoked := true } })

/- A lease is dropped, and its state released. -/
def drop (lease : AttachmentLease) (now : Int) : AttachmentServer :=
  if lease ∈ server.leases then
    let state := server.states lease.leaseState
    { server with
      states := Function.update server.states lease.leaseState { state with
          active := state.active - 1
          idleSince :=
            if state.active - 1 = 0 then now
            else state.idleSince }
      leases := server.leases.erase lease }
  else server

/- A drop, and the time of it for the record. -/
def release (lease : AttachmentLease) (now : Int) : AttachmentServer :=
  { server.drop lease now with
    lastUse :=
      if lease ∈ server.leases then Function.update server.lastUse lease.leaseState now
      else server.lastUse }

/-
  The identifiers that have expired by the record: no lease of theirs is live, and
  the last use lies back for longer than the time to live.
-/
def overdue (now : Int) : List String :=
  (server.attached.filter (fun attached =>
    server.leases.all (·.leaseState ≠ attached.2) &&
      limits.idleTtl < (now - server.lastUse attached.2).toNat)).map Prod.fst

end AttachmentServer

inductive AttachmentCommand
| now
| pruneExpiredAt (now : Int)
| runtimeKeys
| retainRuntimes (referenced : List String)
| findRuntime (cwd : String)
| initialise (cwd : String)
| removeRuntime (cwd : String)
| runtimeInfo
| newId
| insert (attachmentId runtimeKey : String) (now : Int)
| acquire (attachmentId : String)
| detachAttachment (attachmentId : String)

/-
  What a command learns from outside. The identifiers that the library makes are
  new.
-/
structure Outside where
  now : Int
  initialised : Except AttachError Unit
  runtimeInfo : Except AttachError Unit
  hasActiveWork : String → Bool
  newId : List String → String
  newId_fresh : ∀ issued, newId issued ∉ issued

namespace AttachmentCommand

@[reducible] def Answer : AttachmentCommand → Type
| .now => Int
| .pruneExpiredAt _ => Unit
| .runtimeKeys => List String
| .retainRuntimes _ => Unit
| .findRuntime _ => Bool
| .initialise _ => Except AttachError Unit
| .removeRuntime _ => Unit
| .runtimeInfo => Except AttachError Unit
| .newId => String
| .insert _ _ _ => Except AttachmentInsertError Unit
| .acquire _ => Option AttachmentLease
| .detachAttachment _ => Bool

/- The commands, with the record that is kept beside them. -/
def handle (limits : AttachmentLimits) :
    (command : AttachmentCommand) → Outside → AttachmentServer → command.Answer × AttachmentServer
| .now, outside, server => (outside.now, server)
| .pruneExpiredAt time, _, server =>
  ((), { server.pruneExpiredAt limits time with
    retired := server.overdue limits time ++ server.retired })
| .runtimeKeys, _, server => (server.runtimeKeys, server)
| .retainRuntimes referenced, outside, server =>
  ((), { server with
    runtimes := server.runtimes.filter (fun cell =>
      cell.runtimeKey ∈ referenced || (cell.initialised &&
          outside.hasActiveWork cell.runtimeKey)) })
| .findRuntime cwd, _, server =>
  if server.runtimes.any (·.runtimeKey = cwd) then (true, server)
  else if limits.maxRuntimes ≤ server.runtimes.length then (false, server)
  else (true, { server with runtimes := server.runtimes ++ [⟨cwd, false⟩] })
| .initialise cwd, outside, server =>
  if server.runtimes.any (fun cell => cell.runtimeKey = cwd && cell.initialised) then
    (.ok (), server)
  else
    match outside.initialised with
    | .error error => (.error error, server)
    | .ok () =>
      (.ok (), { server with
        runtimes := server.runtimes.map (fun cell =>
          if cell.runtimeKey = cwd then ⟨cwd, true⟩
          else cell) })
| .removeRuntime cwd, _, server =>
  ((), { server with
    runtimes := server.runtimes.filter (fun cell => cell.runtimeKey ≠ cwd || cell.initialised) })
| .runtimeInfo, outside, server => (outside.runtimeInfo, server)
| .newId, outside, server =>
  (outside.newId server.issued, { server with
    issued := outside.newId server.issued :: server.issued })
| .insert attachmentId runtimeKey time, _, server =>
  match server.insert limits attachmentId runtimeKey time with
  | (.ok (), after) =>
    (.ok (), { after with
      attached := (attachmentId, server.allocated) :: server.attached
      lastUse := Function.update server.lastUse server.allocated time })
  | refused => refused
| .acquire attachmentId, _, server => server.acquire attachmentId
| .detachAttachment attachmentId, _, server =>
  match server.detachAttachment attachmentId with
  | (true, after) => (true, { after with retired := attachmentId :: server.retired })
  | refused => refused

end AttachmentCommand

@[reducible] def attachmentInterface : Interface where
  Command := AttachmentCommand
  Answer := AttachmentCommand.Answer

abbrev AttachmentProgram := Program attachmentInterface AttachError

def command (command : attachmentInterface.Command) :
    AttachmentProgram (attachmentInterface.Answer command) :=
  Program.call command

def pruneUnreferencedRuntimesLocked : AttachmentProgram Unit := do
  let now ← command .now
  command (.pruneExpiredAt now)
  let referenced ← command .runtimeKeys
  command (.retainRuntimes referenced)

/- What is left of `attachCwd` when the runtime is there. -/
def registerAttachment (limits : AttachmentLimits) (cwd : String) : AttachmentProgram String := do
  let attachmentId ← command .newId
  let now ← command .now
  command (.pruneExpiredAt now)
  match ← command (.insert attachmentId cwd now) with
  | .error .capacity =>
    pruneUnreferencedRuntimesLocked
    .fail (.daemon ("app-server attachment limit " ++ toString limits.maxEntries ++ " reached"))
  | .error .duplicate =>
    pruneUnreferencedRuntimesLocked
    .fail (.daemon "app-server generated a duplicate attachment id")
  | .ok () => pure attachmentId

/- The directory, as `canonicalize` finds it. -/
def canonicalCwd (cwd : String) (canonical : Except String String) : Except AttachError String :=
  if !cwd.startsWith "/" then .error (.invalidSession ("runtime cwd must be absolute: " ++ cwd))
  else canonical.mapError (fun error => .io (cwd ++ ": " ++ error))

/- A runtime is started for a directory that has none. -/
def attachCwd (limits : AttachmentLimits) (cwd : String) (canonical : Except String String) :
    AttachmentProgram String := do
  let cwd ← Program.ofExcept (canonicalCwd cwd canonical)
  pruneUnreferencedRuntimesLocked
  match ← command (.findRuntime cwd) with
  | false =>
    .fail (.daemon ("app-server runtime attachment limit " ++
      toString limits.maxRuntimes ++ " reached"))
  | true =>
    match ← command (.initialise cwd) with
    | .error error =>
      command (.removeRuntime cwd)
      .fail error
    | .ok () =>
    match ← command .runtimeInfo with
    | .error error =>
      pruneUnreferencedRuntimesLocked
      .fail error
    | .ok () => registerAttachment limits cwd

/- A lease on an attachment, if it is still there. -/
def attachedAttachment (attachmentId : String) : AttachmentProgram (Option AttachmentLease) := do
  let now ← command .now
  command (.pruneExpiredAt now)
  let lease ← command (.acquire attachmentId)
  pruneUnreferencedRuntimesLocked
  pure lease

/-
  The sections under the lock. A detach is two of them: what it prunes when its
  leases are gone is a section of its own.
-/
inductive AttachmentCall
| attachCwd (cwd : String) (canonical : Except String String)
| attachedAttachment (attachmentId : String)
| detachAttachment (attachmentId : String)
| pruneUnreferencedRuntimes

variable (limits : AttachmentLimits)

def AttachmentCall.program : AttachmentCall → AttachmentProgram Unit
| .attachCwd cwd canonical => AppServer.attachCwd limits cwd canonical >>= fun _ => pure ()
| .attachedAttachment attachmentId => AppServer.attachedAttachment attachmentId >>= fun _ => pure ()
| .detachAttachment attachmentId => command (.detachAttachment attachmentId) >>= fun _ => pure ()
| .pruneUnreferencedRuntimes => pruneUnreferencedRuntimesLocked

/-
  Calls enter one after the other, advance or are cancelled, and leases are
  dropped at any moment.
-/
def AttachmentServer.step : Locked attachmentInterface AttachmentServer AttachError Unit →
      LockedOp AttachmentCall Outside (AttachmentLease × Int) →
      Locked attachmentInterface AttachmentServer AttachError Unit :=
  Locked.step (AttachmentCommand.handle limits) (AttachmentCall.program limits)
    (fun server event => server.release event.1 event.2)

end GolutraAgent.AppServer
