import Mathlib.Data.List.Count
import Mathlib.Data.List.Nodup
import GolutraAgent.AppServer.Attachments

/-
  This file proves that the attachments are bounded, that an identifier which
  was detached or has expired gives no lease again, and that a runtime with a
  live lease stays in the map. The count of a lease state is the number of its
  live leases, and a drop outside of the lock can only lower it.

  Main declarations:
    * `AttachmentCall.keeps_sound`
    * `attachments_safe`
-/

namespace GolutraAgent.AppServer

namespace AttachmentServer

variable (server : AttachmentServer)

/- The lease state has live leases. -/
def Active (state : Nat) : Prop := 0 < (server.states state).active

/- A runtime that was initialised is in the map. -/
def Ready (runtimeKey : String) : Prop := ⟨runtimeKey, true⟩ ∈ server.runtimes

structure SoundEntry (server : AttachmentServer) (entry : AttachmentEntry) : Prop where
  allocated : entry.leaseState < server.allocated
  ready : server.Ready entry.runtimeKey
  attached : (entry.attachmentId, entry.leaseState) ∈ server.attached
  standing : entry.attachmentId ∉ server.retired

structure SoundRevoked (server : AttachmentServer) (revoked : RevokedAttachment) : Prop where
  allocated : revoked.leaseState < server.allocated
  withdrawn : (server.states revoked.leaseState).revoked = true
  ready : server.Active revoked.leaseState → server.Ready revoked.runtimeKey

structure Sound (limits : AttachmentLimits) (server : AttachmentServer) : Prop where
  counted : ∀ state, (server.states state).active = server.leases.countP (·.leaseState = state)
  owned : ∀ lease ∈ server.leases, (∃ entry ∈ server.entries,
      entry.leaseState = lease.leaseState ∧ entry.runtimeKey = lease.runtimeKey) ∨
    ∃ revoked ∈ server.revoked, revoked.leaseState = lease.leaseState ∧
        revoked.runtimeKey = lease.runtimeKey
  distinct : (server.entries.map (·.attachmentId)).Nodup
  entry : ∀ entry ∈ server.entries, server.SoundEntry entry
  revoked : ∀ revoked ∈ server.revoked, server.SoundRevoked revoked
  bounded : server.entries.length + server.activeRevoked.length ≤ limits.maxEntries
  idle : ∀ state, (server.states state).active = 0 →
    (server.states state).idleSince = server.lastUse state
  once : (server.attached.map Prod.fst).Nodup
  issued : server.attached.map Prod.fst ⊆ server.issued
  retired : server.retired ⊆ server.issued

/- What drops of leases do to a server. -/
structure Eases (before after : AttachmentServer) : Prop where
  entries : after.entries = before.entries
  revoked : after.revoked = before.revoked
  runtimes : after.runtimes = before.runtimes
  issued : after.issued = before.issued
  attached : after.attached = before.attached
  retired : after.retired = before.retired
  active : ∀ state, after.Active state → before.Active state

instance : IsPreorder AttachmentServer Eases where
  refl _ := ⟨rfl, rfl, rfl, rfl, rfl, rfl, fun _ h => h⟩
  trans _ _ _ h h' := ⟨h'.entries.trans h.entries, h'.revoked.trans h.revoked,
      h'.runtimes.trans h.runtimes, h'.issued.trans h.issued, h'.attached.trans h.attached,
      h'.retired.trans h.retired, fun state hActive => h.active state (h'.active state hActive)⟩

variable {limits : AttachmentLimits} {server : AttachmentServer}

theorem mem_activeRevoked {revoked : RevokedAttachment} :
    revoked ∈ server.activeRevoked ↔ revoked ∈ server.revoked ∧
        server.Active revoked.leaseState := by
  simp [activeRevoked, Active]

/-
  What an operation may do to the revoked attachments: none is added or allowed
  again, and none becomes active.
-/
structure Calms (before after : AttachmentServer) : Prop where
  revoked : after.revoked.Sublist before.revoked
  allocated : before.allocated ≤ after.allocated
  runtimes : after.runtimes = before.runtimes
  flag : ∀ state, state < before.allocated →
    (before.states state).revoked = true → (after.states state).revoked = true
  active : ∀ revoked ∈ after.revoked,
    after.Active revoked.leaseState → before.Active revoked.leaseState

namespace Calms

variable {after : AttachmentServer} (hCalms : Calms server after)

include hCalms

theorem bounded {entries bound : Nat} (hBound : entries + server.activeRevoked.length ≤ bound) :
    entries + after.activeRevoked.length ≤ bound := by
  refine Nat.le_trans (Nat.add_le_add_left ?_ _) hBound
  simp only [activeRevoked, ← List.countP_eq_length_filter]
  refine Nat.le_trans (List.countP_mono_left ?_) hCalms.revoked.countP_le
  intro revoked hMem hHere
  simp only [decide_eq_true_eq] at hHere ⊢
  exact hCalms.active revoked hMem hHere

theorem soundRevoked (hSound : ∀ revoked ∈ server.revoked, server.SoundRevoked revoked) :
    ∀ revoked ∈ after.revoked, after.SoundRevoked revoked := by
  intro revoked hMem
  obtain ⟨hAllocated, hFlag, hReady⟩ := hSound revoked (hCalms.revoked.subset hMem)
  refine ⟨Nat.lt_of_lt_of_le hAllocated hCalms.allocated,
    hCalms.flag _ hAllocated hFlag, fun hHere => ?_⟩
  unfold Ready
  rw [hCalms.runtimes]
  exact hReady (hCalms.active revoked hMem hHere)

end Calms

theorem mem_overdue {now : Int} {attachmentId : String}
    (hOverdue : attachmentId ∈ server.overdue limits now) :
    attachmentId ∈ server.attached.map Prod.fst := by
  obtain ⟨attached, hAttached, rfl⟩ := List.mem_map.1 hOverdue
  exact List.mem_map_of_mem (List.mem_filter.1 hAttached).1

namespace Sound

variable (hSound : server.Sound limits)

include hSound

variable {lease : AttachmentLease}

theorem active_of_mem (hLease : lease ∈ server.leases) : server.Active lease.leaseState := by
  unfold Active
  rw [hSound.counted]
  exact List.countP_pos_iff.2 ⟨lease, hLease, decide_eq_true rfl⟩

theorem ready_of_mem (hLease : lease ∈ server.leases) : server.Ready lease.runtimeKey := by
  rcases hSound.owned lease hLease with ⟨entry, hEntry, -, hKey⟩ | ⟨revoked, hRevoked, hState, hKey⟩
  · exact hKey ▸ (hSound.entry entry hEntry).ready
  · refine hKey ▸ (hSound.revoked revoked hRevoked).ready ?_
    exact hState ▸ hSound.active_of_mem hLease

/- A state that is not allocated yet has no leases. -/
theorem countP_allocated : server.leases.countP (·.leaseState = server.allocated) = 0 := by
  refine List.countP_eq_zero.2 (fun lease hLease => ?_)
  have hLess : lease.leaseState < server.allocated := by
    rcases hSound.owned lease hLease with ⟨entry, hEntry, hState, -⟩ | ⟨revoked, hMem, hState, -⟩
    · exact hState ▸ (hSound.entry entry hEntry).allocated
    · exact hState ▸ (hSound.revoked revoked hMem).allocated
  simp [Nat.ne_of_lt hLess]

theorem release (lease : AttachmentLease) (now : Int) :
    (server.release lease now).Sound limits ∧ Eases server (server.release lease now) := by
  unfold AttachmentServer.release AttachmentServer.drop
  split
  · rename_i hLease
    dsimp only
    generalize hNext : Function.update server.states _ _ = states
    have hState : ∀ state, (states state).active = (server.states state).active -
          (if state = lease.leaseState then 1 else 0) ∧
        (states state).revoked = (server.states state).revoked := by
      intro state
      by_cases hSame : state = lease.leaseState
      · simp [← hNext, hSame]
      · simp [← hNext, hSame]
    -- The last lease of a state to go is its last use.
    have hIdle : ∀ state, (states state).active = 0 → (states state).idleSince =
        Function.update server.lastUse lease.leaseState now state := by
      intro state hNone
      by_cases hSame : state = lease.leaseState
      · simp only [← hNext, hSame, Function.update_self] at hNone ⊢
        exact if_pos hNone
      · simp only [← hNext, Function.update_of_ne hSame] at hNone ⊢
        exact hSound.idle state hNone
    have hLess : ∀ state, 0 < (states state).active → server.Active state := by
      intro state hHere
      rw [(hState state).1] at hHere
      exact Nat.lt_of_lt_of_le hHere (Nat.sub_le _ _)
    have hCalms : Calms server { server with
        states
        leases := server.leases.erase lease
        lastUse := Function.update server.lastUse lease.leaseState now } :=
      ⟨.refl _, Nat.le_refl _, rfl, fun state _ hFlag => (hState state).2.trans hFlag,
        fun revoked _ => hLess _⟩
    refine ⟨{ hSound with
      counted := ?_
      owned := fun other hOther => hSound.owned other (List.mem_of_mem_erase hOther)
      entry := fun entry hEntry => { hSound.entry entry hEntry with }
      revoked := hCalms.soundRevoked hSound.revoked
      bounded := hCalms.bounded hSound.bounded
      idle := hIdle }, rfl, rfl, rfl, rfl, rfl, rfl, hLess⟩
    intro state
    rw [(hState state).1, hSound.counted, List.countP_erase]
    simp [hLease, eq_comm]
  · exact ⟨hSound, refl_of Eases _⟩

/- Only the entries and states without leases are pruned. -/
theorem pruned (now : Int) : (server.pruneExpiredAt limits now).Sound limits := by
  have hActive : ∀ state, ((server.pruneExpiredAt limits now).states state).active =
        (server.states state).active := by
    intro state
    simp only [AttachmentServer.pruneExpiredAt]
    split <;> rfl
  have hCalms : Calms server (server.pruneExpiredAt limits now) := by
    refine ⟨List.filter_sublist, Nat.le_refl _, rfl,
      fun state _ hFlag => ?_, fun revoked _ hHere => ?_⟩
    · simp only [AttachmentServer.pruneExpiredAt]
      split
      · rfl
      · exact hFlag
    · simpa only [Active, hActive] using hHere
  constructor
  · intro state
    rw [hActive]
    exact hSound.counted state
  · intro lease hLease
    have hHere := hSound.active_of_mem hLease
    rcases hSound.owned lease hLease with ⟨entry, hEntry, hState, hKey⟩ |
      ⟨revoked, hRevoked, hState, hKey⟩
    · have hBusy : (server.states entry.leaseState).active ≠ 0 := Nat.ne_of_gt (hState ▸ hHere)
      refine .inl ⟨entry, List.mem_filter.2 ⟨hEntry, ?_⟩, hState, hKey⟩
      simp [expiredAt, AttachmentLeaseState.idleExpiredAt, hBusy]
    · exact .inr ⟨revoked, mem_activeRevoked.2 ⟨hRevoked, hState ▸ hHere⟩, hState, hKey⟩
  · exact hSound.distinct.sublist (List.filter_sublist.map _)
  · intro entry hEntry
    exact { hSound.entry entry (List.mem_filter.1 hEntry).1 with }
  · exact hCalms.soundRevoked hSound.revoked
  · exact Nat.le_trans (Nat.add_le_add_right (List.length_filter_le _ _) _)
        (hCalms.bounded hSound.bounded)
  · intro state hNone
    rw [hActive] at hNone
    simp only [AttachmentServer.pruneExpiredAt]
    split
    · exact hSound.idle state hNone
    · exact hSound.idle state hNone
  · exact hSound.once
  · exact hSound.issued
  · exact hSound.retired

/- The identifiers that no entry has may be retired. -/
theorem retire {attachmentIds : List String} (hIssued : attachmentIds ⊆ server.issued)
    (hGone : ∀ entry ∈ server.entries, entry.attachmentId ∉ attachmentIds) :
    Sound limits { server with retired := attachmentIds ++ server.retired } := by
  refine { hSound with
    entry := fun entry hEntry => { hSound.entry entry hEntry with standing := ?_ }
    revoked := fun revoked hRevoked => { hSound.revoked revoked hRevoked with }
    retired := List.append_subset.2 ⟨hIssued, hSound.retired⟩ }
  simp [hGone entry hEntry, (hSound.entry entry hEntry).standing]

theorem pruned_of_overdue {now : Int} {entry : AttachmentEntry} (hEntry : entry ∈ server.entries)
    (hOverdue : entry.attachmentId ∈ server.overdue limits now) :
    server.expiredAt limits now entry = true := by
  obtain ⟨⟨attachmentId, state⟩, hMem, hSame⟩ := List.mem_map.1 hOverdue
  obtain ⟨hAttached, hLate⟩ := List.mem_filter.1 hMem
  obtain ⟨rfl, rfl⟩ := Prod.mk.inj (List.inj_on_of_nodup_map hSound.once hAttached
    (hSound.entry entry hEntry).attached hSame)
  simp only [Bool.and_eq_true, List.all_eq_true, decide_eq_true_eq] at hLate
  have hNone : (server.states entry.leaseState).active = 0 := by
    rw [hSound.counted]
    exact List.countP_eq_zero.2 (fun lease hLease => by simpa using hLate.1 lease hLease)
  simp [expiredAt, AttachmentLeaseState.idleExpiredAt, hNone, hSound.idle _ hNone, hLate.2]

/- All that is overdue by the record is pruned. -/
theorem pruneExpiredAt (now : Int) (outside : Outside) :
    (AttachmentCommand.handle limits (.pruneExpiredAt now) outside server).2.Sound limits := by
  refine (hSound.pruned now).retire (fun attachmentId hOverdue => ?_)
    (fun entry hEntry hOverdue => ?_)
  · exact hSound.issued (mem_overdue hOverdue)
  · obtain ⟨hMem, hIn⟩ := List.mem_filter.1 hEntry
    simp [hSound.pruned_of_overdue hMem hOverdue] at hIn

theorem insert {attachmentId runtimeKey : String} (now : Int) (outside : Outside)
    (hReady : server.Ready runtimeKey) (hIssued : attachmentId ∈ server.issued)
    (hStanding : attachmentId ∉ server.retired)
    (hUnused : attachmentId ∉ server.attached.map Prod.fst) :
    (AttachmentCommand.handle limits (.insert attachmentId runtimeKey now) outside
      server).2.Sound limits := by
  unfold AttachmentCommand.handle AttachmentServer.insert
  dsimp only
  split_ifs with hNew hFull
  · exact hSound
  · exact hSound
  have hCalms : Calms server { server with
      entries := server.entries ++ [⟨attachmentId, runtimeKey, server.allocated⟩]
      states := Function.update server.states server.allocated ⟨0, now, false⟩
      allocated := server.allocated + 1
      attached := (attachmentId, server.allocated) :: server.attached
      lastUse := Function.update server.lastUse server.allocated now } := by
    refine ⟨.refl _, Nat.le_succ _, rfl, fun state hLess => ?_, fun revoked hMem => ?_⟩
    · simp [Nat.ne_of_lt hLess]
    · simp [Active, Nat.ne_of_lt (hSound.revoked revoked hMem).allocated]
  refine { hSound with
    counted := ?_
    owned := ?_
    distinct := ?_
    entry := ?_
    revoked := hCalms.soundRevoked hSound.revoked
    bounded := hCalms.bounded ?_
    idle := ?_
    once := List.nodup_cons.2 ⟨hUnused, hSound.once⟩
    issued := List.cons_subset.2 ⟨hIssued, hSound.issued⟩ }
  · intro state
    by_cases hState : state = server.allocated
    · simp [hState, hSound.countP_allocated]
    · simp [hState, hSound.counted]
  · intro lease hLease
    refine (hSound.owned lease hLease).imp_left ?_
    rintro ⟨entry, hEntry, hRest⟩
    exact ⟨entry, List.mem_append_left _ hEntry, hRest⟩
  · rw [List.map_append]
    refine List.nodup_append_comm.1 (List.nodup_cons.2 ⟨?_, hSound.distinct⟩)
    simpa using hNew
  · intro entry hEntry
    rcases List.mem_append.1 hEntry with hMem | hMem
    · have hEntry := hSound.entry entry hMem
      exact { hEntry with
        allocated := Nat.lt_succ_of_lt hEntry.allocated
        attached := List.mem_cons_of_mem _ hEntry.attached }
    · obtain rfl := List.mem_singleton.1 hMem
      exact ⟨Nat.lt_succ_self _, hReady, List.mem_cons_self, hStanding⟩
  · simp only [List.length_append, List.length_cons, List.length_nil]
    omega
  · intro state hNone
    by_cases hState : state = server.allocated
    · simp [hState]
    · simp only [Function.update_of_ne hState] at hNone ⊢
      exact hSound.idle state hNone

variable (attachmentId : String)

theorem acquire : (server.acquire attachmentId).2.Sound limits := by
  unfold AttachmentServer.acquire
  split
  · exact hSound
  next entry hFind =>
  dsimp only
  split
  · exact hSound
  next hFlag =>
  generalize hNext : Function.update server.states _ _ = states
  have hCalms : Calms server { server with
      states
      leases := ⟨entry.runtimeKey, entry.leaseState⟩ :: server.leases } := by
    refine ⟨.refl _, Nat.le_refl _, rfl, fun state _ hSet => ?_, fun revoked hMem => ?_⟩
    · by_cases hState : state = entry.leaseState
      · exact absurd (hState ▸ hSet) hFlag
      · simpa [← hNext, hState] using hSet
    · -- The state of a revoked attachment is another one.
      have hState : revoked.leaseState ≠ entry.leaseState :=
        fun hSame => hFlag (hSame ▸ (hSound.revoked revoked hMem).withdrawn)
      simp [Active, ← hNext, hState]
  refine { hSound with
    counted := ?_
    owned := ?_
    entry := fun entry hEntry => { hSound.entry entry hEntry with }
    revoked := hCalms.soundRevoked hSound.revoked
    bounded := hCalms.bounded hSound.bounded
    idle := ?_ }
  · intro state
    by_cases hState : state = entry.leaseState
    · simp [← hNext, hState, hSound.counted]
    · simp [← hNext, hState, hSound.counted, Ne.symm hState]
  · intro lease hLease
    rcases List.mem_cons.1 hLease with rfl | hMem
    · exact .inl ⟨entry, List.mem_of_find?_eq_some hFind, rfl, rfl⟩
    · exact hSound.owned lease hMem
  · intro state hNone
    by_cases hState : state = entry.leaseState
    · simp [← hNext, hState] at hNone
    · simp only [← hNext, Function.update_of_ne hState] at hNone ⊢
      exact hSound.idle state hNone

/- The attachment, if it was there, moves to the revoked. -/
theorem detached : (server.detachAttachment attachmentId).2.Sound limits := by
  unfold AttachmentServer.detachAttachment
  split
  · exact hSound
  next entry hFind =>
  have hMem := List.mem_of_find?_eq_some hFind
  have hId : entry.attachmentId = attachmentId := by simpa using List.find?_some hFind
  -- its lease state is marked, and counts as many leases as before
  generalize hNext : Function.update server.states _ _ = states
  have hState : ∀ state, (states state).active = (server.states state).active ∧
      ((server.states state).revoked = true → (states state).revoked = true) ∧
        (states state).idleSince = (server.states state).idleSince := by
    intro state
    by_cases hSame : state = entry.leaseState
    · simp [← hNext, hSame]
    · simp [← hNext, hSame]
  constructor
  · intro state
    rw [(hState state).1]
    exact hSound.counted state
  · intro lease hLease
    rcases hSound.owned lease hLease with ⟨other, hOther, hRest⟩ | ⟨revoked, hRevoked, hRest⟩
    · by_cases hSame : other.attachmentId = attachmentId
      · obtain rfl := List.inj_on_of_nodup_map hSound.distinct hOther hMem (hSame.trans hId.symm)
        exact .inr ⟨_, List.mem_append_right _ (List.mem_singleton.2 rfl), hRest⟩
      · exact .inl ⟨other, List.mem_filter.2 ⟨hOther, by simpa using hSame⟩, hRest⟩
    · exact .inr ⟨revoked, List.mem_append_left _ hRevoked, hRest⟩
  · exact hSound.distinct.sublist (List.filter_sublist.map _)
  · intro other hOther
    exact { hSound.entry other (List.mem_filter.1 hOther).1 with }
  · intro revoked hRevoked
    rcases List.mem_append.1 hRevoked with hBefore | hNew
    · obtain ⟨hAllocated, hFlag, hReady⟩ := hSound.revoked revoked hBefore
      refine ⟨hAllocated, (hState _).2.1 hFlag, fun hHere => ?_⟩
      rw [Active, (hState _).1] at hHere
      exact hReady hHere
    · obtain rfl := List.mem_singleton.1 hNew
      have hEntry := hSound.entry entry hMem
      exact ⟨hEntry.allocated, by simp [← hNext], fun _ => hEntry.ready⟩
  · have hFewer : (server.entries.filter
        (·.attachmentId ≠ attachmentId)).length < server.entries.length :=
      List.length_filter_lt_length_iff_exists.2 ⟨entry, hMem, by simp [hId]⟩
    have hBounded := hSound.bounded
    simp only [activeRevoked, hState, List.filter_append, List.length_append] at hBounded ⊢
    have hOne := List.length_filter_le (fun revoked : RevokedAttachment =>
        0 < (server.states revoked.leaseState).active)
      [⟨entry.runtimeKey, entry.leaseState⟩]
    rw [List.length_singleton] at hOne
    omega
  · intro state hNone
    rw [(hState state).1] at hNone
    exact (hState state).2.2.trans (hSound.idle state hNone)
  · exact hSound.once
  · exact hSound.issued
  · exact hSound.retired

/- A detach that answers true leaves no entry of the identifier. -/
theorem detachAttachment (outside : Outside) :
    (AttachmentCommand.handle limits (.detachAttachment attachmentId) outside
      server).2.Sound limits := by
  unfold AttachmentCommand.handle
  dsimp only
  have hDetached := hSound.detached attachmentId
  split
  · rename_i after hAnswer
    rw [hAnswer] at hDetached
    unfold AttachmentServer.detachAttachment at hAnswer
    split at hAnswer
    · simp at hAnswer
    rename_i entry hFind
    obtain rfl := (Prod.mk.inj hAnswer).2
    have hId : entry.attachmentId = attachmentId := by simpa using List.find?_some hFind
    have hEntry := hSound.entry entry (List.mem_of_find?_eq_some hFind)
    have hIssued : [attachmentId] ⊆ server.issued := by
      simpa [hId] using hSound.issued (List.mem_map_of_mem hEntry.attached)
    refine hDetached.retire hIssued (fun other hOther => ?_)
    simpa using (List.mem_filter.1 hOther).2
  · exact hDetached

theorem withRuntimes {runtimes : List RuntimeCell} (hReady : ∀ runtimeKey, server.Ready runtimeKey →
      (runtimeKey ∈ server.runtimeKeys → ⟨runtimeKey, true⟩ ∈ runtimes)) :
    Sound limits { server with runtimes } := by
  refine { hSound with
    entry := fun entry hEntry => ?_
    revoked := fun revoked hRevoked => ?_ }
  · have hHere := hSound.entry entry hEntry
    refine { hHere with ready := hReady _ hHere.ready ?_ }
    exact List.mem_append_left _ (List.mem_map_of_mem hEntry)
  · have hHere := hSound.revoked revoked hRevoked
    refine { hHere with ready := fun hActive => hReady _ (hHere.ready hActive) ?_ }
    exact List.mem_append_right _ (List.mem_map_of_mem (mem_activeRevoked.2 ⟨hRevoked, hActive⟩))

end Sound

/- The keys in use only get fewer by drops. -/
theorem Eases.runtimeKeys {after : AttachmentServer}
    (hEases : Eases server after) : after.runtimeKeys ⊆ server.runtimeKeys := by
  unfold AttachmentServer.runtimeKeys
  rw [hEases.entries]
  refine List.append_subset.2 ⟨List.subset_append_left _ _, ?_⟩
  refine fun key hKey => List.mem_append_right _ ?_
  obtain ⟨revoked, hRevoked, rfl⟩ := List.mem_map.1 hKey
  obtain ⟨hMem, hActive⟩ := mem_activeRevoked.1 hRevoked
  exact List.mem_map_of_mem (mem_activeRevoked.2 ⟨hEases.revoked ▸ hMem, hEases.active _ hActive⟩)

end AttachmentServer

open AttachmentServer

/- The program keeps the server sound, whatever is dropped. -/
def Safe {α : Type} (limits : AttachmentLimits)
    (program : AttachmentProgram α) : AttachmentServer → Prop :=
  Locked.KeepsInv (AttachmentCommand.handle limits) id (fun v w => Eases v w ∧ w.Sound limits)
    (Sound limits) program

variable {limits : AttachmentLimits} {server : AttachmentServer}

theorem safe_command {α : Type} {next : AttachmentCommand}
    {rest : next.Answer → AttachmentProgram α}
    (hNext : ∀ outside w, Eases server w → w.Sound limits →
      (next.handle limits outside w).2.Sound limits ∧
        Safe limits (rest (next.handle limits outside w).1) (next.handle limits outside w).2) :
    Safe limits (command next >>= rest) server :=
  fun outside w hMeets => hNext outside w hMeets.1 hMeets.2

theorem safe_prune : Safe limits pruneUnreferencedRuntimesLocked server := by
  rintro _ w₁ ⟨-, hSound⟩
  refine ⟨hSound, ?_⟩
  rintro _ w₂ ⟨-, hSound⟩
  refine ⟨hSound.pruneExpiredAt _ _, ?_⟩
  rintro _ w₃ ⟨-, hSound⟩
  refine ⟨hSound, ?_⟩
  rintro outside w₄ ⟨hEases, hSound⟩
  refine ⟨hSound.withRuntimes ?_, trivial⟩
  intro key hReady hKey
  refine List.mem_filter.2 ⟨hReady, ?_⟩
  have hReferenced := hEases.runtimeKeys hKey
  simpa using .inl hReferenced

theorem safe_prune_bind {α : Type} {rest : Unit → AttachmentProgram α}
    (hRest : ∀ server, Safe limits (rest ()) server) :
    Safe limits (pruneUnreferencedRuntimesLocked >>= rest) server := by
  refine Program.Keeps.bind (safe_prune.mono ?_ ?_)
  · exact fun _ server _ => hRest server
  · exact fun _ _ hBad => hBad

/- An identifier that is about to be inserted. -/
structure Awaits (cwd attachmentId : String) (server : AttachmentServer) : Prop where
  ready : server.Ready cwd
  issued : attachmentId ∈ server.issued
  standing : attachmentId ∉ server.retired
  unused : attachmentId ∉ server.attached.map Prod.fst

variable {cwd attachmentId : String}

theorem Awaits.ease {after : AttachmentServer} (hAwaits : Awaits cwd attachmentId server)
    (hEases : Eases server after) : Awaits cwd attachmentId after := by
  obtain ⟨hReady, hIssued, hStanding, hUnused⟩ := hAwaits
  refine ⟨?_, hEases.issued ▸ hIssued, hEases.retired ▸ hStanding, hEases.attached ▸ hUnused⟩
  unfold Ready
  rwa [hEases.runtimes]

theorem Awaits.pruneExpiredAt (limits : AttachmentLimits) (hAwaits : Awaits cwd attachmentId server)
    (now : Int) (outside : Outside) : Awaits cwd attachmentId (AttachmentCommand.handle limits
      (.pruneExpiredAt now) outside server).2 := by
  refine { hAwaits with standing := fun hRetired => ?_ }
  rcases List.mem_append.1 hRetired with hOverdue | hBefore
  · exact hAwaits.unused (mem_overdue hOverdue)
  · exact hAwaits.standing hBefore

theorem AttachmentServer.Sound.newId (hSound : server.Sound limits)
    (outside : Outside) (hReady : server.Ready cwd) :
    (AttachmentCommand.handle limits .newId outside server).2.Sound limits ∧
      Awaits cwd (outside.newId server.issued) (AttachmentCommand.handle limits .newId outside
          server).2 := by
  have hFresh := outside.newId_fresh server.issued
  exact ⟨{ hSound with
    entry := fun entry hEntry => { hSound.entry entry hEntry with }
    revoked := fun revoked hRevoked => { hSound.revoked revoked hRevoked with }
    issued := List.subset_cons_of_subset _ hSound.issued
    retired := List.subset_cons_of_subset _ hSound.retired }, hReady, List.mem_cons_self,
    fun hRetired => hFresh (hSound.retired hRetired),
    fun hAttached => hFresh (hSound.issued hAttached)⟩

/- An entry is inserted for a runtime that is ready. -/
theorem safe_registerAttachment (hReady : server.Ready cwd) :
    Safe limits (registerAttachment limits cwd) server := by
  refine safe_command (fun outside w hEases hSound => ?_)
  replace hReady : w.Ready cwd := by
    unfold Ready
    rwa [hEases.runtimes]
  obtain ⟨hIssued, hAwaits⟩ := hSound.newId outside hReady
  refine ⟨hIssued, safe_command (fun reading w hEases hSound => ⟨hSound, ?_⟩)⟩
  replace hAwaits := hAwaits.ease hEases
  refine safe_command (fun _ w hEases hSound => ⟨hSound.pruneExpiredAt _ _, ?_⟩)
  replace hAwaits := (hAwaits.ease hEases).pruneExpiredAt limits reading.now reading
  refine safe_command (fun _ w hEases hSound => ?_)
  replace hAwaits := hAwaits.ease hEases
  refine ⟨hSound.insert _ _ hAwaits.ready hAwaits.issued hAwaits.standing hAwaits.unused, ?_⟩
  generalize (AttachmentCommand.handle _ (.insert _ _ _) _ w).1 = result
  rcases result with (_ | _) | _
  · exact safe_prune_bind (fun _ => trivial)
  · exact safe_prune_bind (fun _ => trivial)
  · trivial

theorem safe_initialise {rest : Except AttachError Unit → AttachmentProgram String}
    (hCell : ∃ cell ∈ server.runtimes, cell.runtimeKey = cwd)
    (hOk : ∀ server, server.Ready cwd → Safe limits (rest (.ok ())) server)
    (hError : ∀ error server, Safe limits (rest (.error error)) server) :
    Safe limits (command (.initialise cwd) >>= rest) server := by
  refine safe_command (fun outside w hEases hSound => ?_)
  rw [← hEases.runtimes] at hCell
  dsimp only [AttachmentCommand.handle]
  split
  · rename_i hThere
    refine ⟨hSound, hOk _ ?_⟩
    obtain ⟨⟨key, _⟩, hMem, hKey⟩ := List.any_eq_true.1 hThere
    simp only [Bool.and_eq_true, decide_eq_true_eq] at hKey
    obtain ⟨rfl, rfl⟩ := hKey
    exact hMem
  · split
    · exact ⟨hSound, hError _ _⟩
    · refine ⟨hSound.withRuntimes ?_, hOk _ ?_⟩
      · intro key hReady _
        refine List.mem_map.2 ⟨_, hReady, ?_⟩
        split
        · next hKey => rw [← hKey]
        · rfl
      · obtain ⟨cell, hMem, hKey⟩ := hCell
        exact List.mem_map.2 ⟨cell, hMem, if_pos hKey⟩

theorem safe_findRuntime {rest : Bool → AttachmentProgram String}
    (hFound : ∀ server : AttachmentServer, (∃ cell ∈ server.runtimes, cell.runtimeKey = cwd) →
        Safe limits (rest true) server)
    (hLimit : ∀ server, Safe limits (rest false) server) :
    Safe limits (command (.findRuntime cwd) >>= rest) server := by
  refine safe_command (fun outside w hEases hSound => ?_)
  dsimp only [AttachmentCommand.handle]
  split
  · rename_i hThere
    refine ⟨hSound, hFound _ ?_⟩
    simpa using hThere
  · split
    · exact ⟨hSound, hLimit _⟩
    · refine ⟨hSound.withRuntimes ?_, hFound _ ?_⟩
      · exact fun _ hReady _ => List.mem_append_left _ hReady
      · exact ⟨_, List.mem_append_right _ (List.mem_singleton.2 rfl), rfl⟩

theorem safe_attachCwd (cwd : String) (canonical : Except String String) :
    Safe limits (attachCwd limits cwd canonical) server := by
  unfold attachCwd
  cases canonicalCwd cwd canonical with
  | error error => trivial
  | ok cwd =>
    refine safe_prune_bind (fun server => ?_)
    refine safe_findRuntime (fun server hCell => ?_) (fun _ => trivial)
    refine safe_initialise hCell (fun server hReady => ?_) (fun error server => ?_)
    · refine safe_command (fun outside w hEases hSound => ⟨hSound, ?_⟩)
      dsimp only [AttachmentCommand.handle]
      split
      · exact safe_prune_bind (fun _ => trivial)
      · refine safe_registerAttachment ?_
        unfold Ready
        rwa [hEases.runtimes]
    · refine safe_command (fun outside w hEases hSound => ⟨hSound.withRuntimes ?_, trivial⟩)
      intro key hReady _
      exact List.mem_filter.2 ⟨hReady, by simp⟩

theorem safe_program (call : AttachmentCall) : Safe limits (call.program limits) server := by
  cases call with
  | attachCwd cwd canonical => exact Program.Keeps.bind (safe_attachCwd cwd canonical)
  | attachedAttachment attachmentId =>
    refine Program.Keeps.bind ?_
    refine safe_command (fun _ w _ hSound => ⟨hSound, ?_⟩)
    refine safe_command (fun _ w _ hSound => ⟨hSound.pruneExpiredAt _ _, ?_⟩)
    refine safe_command (fun _ w _ hSound => ⟨hSound.acquire attachmentId, ?_⟩)
    exact safe_prune_bind (fun _ => trivial)
  | detachAttachment attachmentId =>
    exact safe_command (fun _ w _ hSound => ⟨hSound.detachAttachment attachmentId _, trivial⟩)
  | pruneUnreferencedRuntimes => exact safe_prune

theorem Sound.new : AttachmentServer.new.Sound limits := by
  constructor <;> simp [AttachmentServer.new, activeRevoked]

/-
  In every interleaving the attachments are bounded, retired identifiers give no
  leases, and runtimes with live leases stay.
-/
theorem attachments_safe (limits : AttachmentLimits)
    (ops : List (LockedOp AttachmentCall Outside (AttachmentLease × Int))) :
    let server := (Machine.run (AttachmentServer.step limits) ⟨.new, none⟩ ops).world
    server.entries.length + server.activeRevoked.length ≤ limits.maxEntries ∧
      (∀ attachmentId ∈ server.retired, (server.acquire attachmentId).1 = none) ∧
      ∀ lease ∈ server.leases, ∃ cell ∈ server.runtimes, cell.runtimeKey = lease.runtimeKey := by
  intro server
  have hSound : server.Sound limits := by
    refine Locked.run_invariant _ (fun w hSound => ⟨refl_of Eases w, hSound⟩) ?_
      (fun call _ server _ => safe_program call) Sound.new
    intro w event hSound
    obtain ⟨hAfter, hEases⟩ := hSound.release event.1 event.2
    exact ⟨hAfter, fun v hMet => ⟨trans_of Eases hMet.1 hEases, hAfter⟩⟩
  refine ⟨hSound.bounded, ?_, ?_⟩
  · intro attachmentId hRetired
    unfold acquire
    split
    · rfl
    · rename_i entry hFind
      have hEntry := hSound.entry entry (List.mem_of_find?_eq_some hFind)
      have hId : entry.attachmentId = attachmentId := by simpa using List.find?_some hFind
      exact absurd (hId ▸ hRetired) hEntry.standing
  · intro lease hLease
    exact ⟨_, hSound.ready_of_mem hLease, rfl⟩

end GolutraAgent.AppServer
