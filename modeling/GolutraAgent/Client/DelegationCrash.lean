import GolutraAgent.Client.DelegationDurability

/-
  This file puts together what a crash leaves of a delegation budget. The root
  task is rebuilt from its log, and refunds nothing whenever the checkpoint lock
  was free. The task of a child is rebuilt from its metadata, at the greatest
  depth, and admits no child at all.

  Between a reservation or a settlement and its checkpoint the log is one step
  off, as it is meant to be: a child whose reservation is not durable has not
  started, and a settlement is durable before it is entered. The slots of the
  children that the crash ended are free again.

  Main declarations:
    * `delegationCrash_refundsNothing`
    * `crashedHost_refunds`
-/

namespace GolutraAgent.Client

open Word DelegationContext

theorem validate_root_eq_ok {sessionId : SessionId} {timed : TimedDelegationRecoveryState}
    (hValid : validateCanonicalDelegationCheckpoint sessionId timed none = .ok ()) :
    timed.state.depth = 0 ∧ timed.state.parentSessionId = none ∧
      timed.state.parentTaskId = none ∧ timed.state.parentThreadId = none := by
  unfold validateCanonicalDelegationCheckpoint at hValid
  dsimp only at hValid
  split at hValid
  · cases hValid
  · split at hValid
    · cases hValid
    · next hRoot => simpa using hRoot

namespace DelegationHost

/- The limits of a root task are usable. -/
theorem Started.limits {s : DelegationHost} (hStarted : s.Started) :
    0 < s.system.budget.maxActiveChildren ∧ s.system.budget.maxTokens ≠ some 0 := by
  cases hStarted with
  | configured sessionId maxElapsedMs maxCost maxActive now hContext =>
    cases hContext
    refine ⟨?_, fun hSome => nomatch hSome⟩
    have hMax := (le_max maxActive 1).2
    exact hMax
  | recovered hRecovered hCanonical =>
    have hRecovers := recovered_eq_ok hRecovered
    rw [hRecovers.budget]
    exact ⟨UInt64.pos_iff_ne_zero.2 hRecovers.active, hRecovers.tokens⟩

theorem Started.durable {s : DelegationHost} (hStarted : s.Started) :
    s.Durable s.system.budget := by
  cases hStarted with
  | configured sessionId maxElapsedMs maxCost maxActive now hContext =>
    cases hContext
    refine ⟨(DelegationBudget.Built.configured _ _ _ _).accounted, ⟨rfl, rfl, fun _ hRecord =>
        (nomatch hRecord), fun _ => rfl⟩, ?_,
      fun _ hFlight => (nomatch hFlight), .start, ⟨rfl, rfl, fun _ => rfl,
        fun _ hSome => (nomatch hSome)⟩,
      fun _ => ⟨?_, ?_, ?_⟩⟩
    · intro place record hRecord
      cases hRecord
    all_goals exact Nat.le_refl 0
  | @recovered timed wallNow timestamp now context budget hRecovered hCanonical =>
    have hRecovers := recovered_eq_ok hRecovered
    obtain ⟨hDepth, hSession, hTask, hThread⟩ := validate_root_eq_ok hCanonical
    have hBuilt := DelegationBudget.Built.recovered hRecovered
    have hBudget := hRecovers.budget
    subst hBudget
    refine ⟨hBuilt.accounted, ⟨rfl, rfl, fun _ hRecord => (nomatch hRecord), fun _ => rfl⟩, ?_,
      fun _ hFlight => (nomatch hFlight), ⟨some timed, some timed, true⟩,
      ⟨?_, rfl, fun hNone => (nomatch hNone), ?_⟩, fun _ => ⟨?_, ?_, ?_⟩⟩
    · intro place record hRecord
      cases hRecord
    · simp only [List.foldlM_cons, RecoveredDelegation.observe]
      rw [hCanonical]
      rfl
    · rintro previous ⟨⟩
      exact ⟨⟨hRecovers.root.symm, hDepth, hSession, hTask,
        hThread, rfl, rfl, rfl⟩, UInt64.le_refl _⟩
    all_goals exact Nat.min_le_left _ _

end DelegationHost

/- A durable state with usable limits is accepted. -/
theorem DelegationContext.recovered_ok {timed : TimedDelegationRecoveryState}
    (hDepth : timed.state.depth ≤ maxDelegationDepth) (hTokens : timed.state.maxTokens ≠ some 0)
    (hActive : timed.state.maxActiveChildren ≠ 0) (wallNow : Timestamp) (now : Nat) :
    ∃ context budget, recovered timed wallNow now = .ok (context, budget) := by
  -- Refreshing changes only the times.
  have hDepth' : ¬ maxDelegationDepth < (timed.refreshed wallNow).state.depth := Nat.not_lt.2 hDepth
  have hTokens' : (timed.refreshed wallNow).state.maxTokens ≠ some 0 := hTokens
  have hActive' : (timed.refreshed wallNow).state.maxActiveChildren ≠ 0 := hActive
  unfold recovered
  rw [if_neg hDepth', if_neg hTokens', if_neg hActive']
  exact ⟨_, _, rfl⟩

/- A budget with the same caps that has committed more. -/
theorem noRefund_of_le {live rebuilt : DelegationBudget}
    (hTokensCap : rebuilt.maxTokens = live.maxTokens)
    (hCostCap : rebuilt.maxCostMicrousd = live.maxCostMicrousd)
    (hTokens : live.state.tokenTotal ≤ rebuilt.state.spentTokens.toNat)
    (hOutput : live.state.outputTotal ≤ rebuilt.state.spentOutputTokens.toNat)
    (hCost : live.state.costTotal ≤ rebuilt.state.spentCostMicrousd.toNat) :
    NoRefund live rebuilt := by
  unfold BudgetState.outputTotal at hOutput
  unfold BudgetState.costTotal at hCost
  constructor
  · rw [UInt64.le_iff_toNat_le, toNat_saturatingAdd]
    exact hTokens
  · rw [UInt64.le_iff_toNat_le, toNat_saturatingAdd]
    exact hOutput
  · rw [UInt64.le_iff_toNat_le, toNat_saturatingAdd]
    exact hCost
  · intro tokens cost admitted hAdmit
    refine DelegationBudget.lockedReserve_of_le hTokensCap hCostCap ?_ ?_ hAdmit
    · simp only [DelegationBudget.committedTokens, toNat_saturatingAdd]
      omega
    · simp only [DelegationBudget.committedCost, toNat_saturatingAdd]
      omega

namespace DelegationHost

variable {initial : DelegationBudget} {s : DelegationHost}

theorem recoveredDelegation_of_fold {events : List DelegationEvent} {found : RecoveredDelegation}
    (hFold : events.foldlM RecoveredDelegation.observe .start = .ok found) (wallNow : Timestamp) :
    recoveredDelegation events wallNow = .ok (found.delegation.map (·.refreshed wallNow)) := by
  unfold recoveredDelegation
  rw [hFold]
  rfl

/- With the lock free, what is rebuilt refunds nothing. -/
theorem Durable.noRefund (hDurable : s.Durable initial) (hFree : s.holder = none)
    {wallNow : Timestamp} {now : Nat} {rebuilt : DelegationBudget}
    (hRebuilt : s.Rebuilt wallNow now rebuilt) : NoRefund s.system.budget rebuilt := by
  obtain ⟨context, system, journal, holder⟩ := s
  cases hFree
  obtain ⟨-, -, -, -, found, hRecorded, hCovered⟩ := hDurable
  have hCovered := hCovered (fun hSome => nomatch hSome)
  have hFold := recoveredDelegation_of_fold hRecorded.fold wallNow
  obtain ⟨hTokens, hOutput, hCost⟩ := hCovered
  cases hRebuilt with
  | configured maxElapsedMs maxActive hDurable =>
    have hNone : found.delegation = none := by
      have hMap := Except.ok.inj (hFold.symm.trans hDurable)
      exact Option.map_eq_none_iff.1 hMap
    rw [hNone] at hTokens hOutput hCost
    exact noRefund_of_le (hRecorded.fresh (hRecorded.last ▸ hNone)).symm rfl hTokens hOutput hCost
  | recovered hDurable hRecovered =>
    have hMap := Except.ok.inj (hFold.symm.trans hDurable)
    obtain ⟨last, hLast, rfl⟩ := Option.map_eq_some_iff.1 hMap
    obtain ⟨hCanonical, -⟩ := hRecorded.canonical last (hRecorded.last ▸ hLast)
    rw [hLast] at hTokens hOutput hCost
    rw [(recovered_eq_ok hRecovered).budget]
    exact noRefund_of_le hCanonical.tokens hCanonical.cost hTokens hOutput hCost

/- And the task can be rebuilt. -/
theorem Durable.rebuilt (hDurable : s.Durable initial) (hActive : 0 < initial.maxActiveChildren)
    (hTokens : initial.maxTokens ≠ some 0) (wallNow : Timestamp) (now : Nat) :
    ∃ rebuilt, s.Rebuilt wallNow now rebuilt := by
  obtain ⟨found, hRecorded, -⟩ := hDurable.covered
  have hFold := recoveredDelegation_of_fold hRecorded.fold wallNow
  have hLimits := hDurable.books.limits
  cases hLast : found.delegation with
  | none =>
    rw [hLast] at hFold
    exact ⟨_, .configured none 0 hFold⟩
  | some last =>
    rw [hLast] at hFold
    obtain ⟨hCanonical, -⟩ := hRecorded.canonical last (hRecorded.last ▸ hLast)
    have hDepth : (last.refreshed wallNow).state.depth ≤ maxDelegationDepth :=
      le_of_eq_of_le hCanonical.depth (Nat.zero_le _)
    have hTokens' : (last.refreshed wallNow).state.maxTokens ≠ some 0 := by
      change last.state.maxTokens ≠ some 0
      rw [hCanonical.tokens, hLimits]
      exact hTokens
    have hActive' : (last.refreshed wallNow).state.maxActiveChildren ≠ 0 := by
      change last.state.maxActiveChildren ≠ 0
      rw [hCanonical.active, hLimits]
      exact UInt64.pos_iff_ne_zero.1 hActive
    obtain ⟨context, budget, hRecovered⟩ := recovered_ok hDepth hTokens' hActive' wallNow now
    exact ⟨_, .recovered hFold hRecovered⟩

end DelegationHost

/-
  What metadata keeps: a figure counts the reservation, or an unsettled one has
  exhausted the cap.
-/
structure MetadataKept (live : DelegationBudget) (recovered : DelegationRecoveryState) : Prop where
  tokens : CountsOrExhausts live.maxTokens live.state.spentTokens live.state.reservedTokens
    recovered.spentTokens
  output : CountsOrExhausts live.maxTokens live.state.spentOutputTokens live.state.reservedTokens
    (recovered.spentOutputTokens.getD recovered.spentTokens)
  cost : CountsOrExhausts live.maxCostMicrousd live.state.spentCostMicrousd
    live.state.reservedCostMicrousd recovered.spentCostMicrousd

namespace DelegationMetadata

theorem recoveredTokens_kept (unsettled : Bool) (cap : Option UInt64) (spent reserved : UInt64) :
    CountsOrExhausts cap spent reserved (recoveredTokens unsettled cap spent reserved) := by
  unfold recoveredTokens
  split
  · next cap => exact .inr ⟨cap, rfl, UInt64.le_iff_toNat_le.2 (le_max _ _).2⟩
  · exact .inl (UInt64.le_refl _)

/- An unsettled cost without a cap is not counted, and is 0. -/
theorem recoveredCost_kept (unsettled : Bool) {cap : Option UInt64} (spent : UInt64)
    {reserved : UInt64} (hUncapped : cap = none → reserved = 0) :
    CountsOrExhausts cap spent reserved (recoveredCost unsettled cap spent reserved) := by
  unfold recoveredCost
  split
  next cap => exact .inr ⟨cap, rfl, UInt64.le_iff_toNat_le.mpr (le_max _ _).2⟩
  next =>
    rw [hUncapped rfl]
    refine .inl (UInt64.le_iff_toNat_le.mpr ?_)
    simp [toNat_saturatingAdd]
  next => exact .inl (UInt64.le_refl _)

end DelegationMetadata

/- A context of the greatest depth admits no child. -/
theorem DelegationContext.child_eq_depth {context : DelegationContext}
    (hDepth : maxDelegationDepth ≤ context.depth) (budget : DelegationBudget) (place : Nat)
    (session : SessionId) (task : TaskId) (thread : ThreadId) (tokens : UInt64)
    (cost : Option UInt64) (cancelled : Bool) (now : Nat) :
    context.child budget place session task thread tokens cost cancelled now = .error .depth :=
  if_pos hDepth

/- The task of a child, rebuilt from the metadata of its context. -/
def ChildRebuilt (live : DelegationBudget) (child : DelegationContext)
    (wallNow : Timestamp) (now : Nat) : Prop :=
  ∀ writtenAt capturedAt, ∃ timed context budget, delegationRecoveryFromMetadata
        (child.metadata live writtenAt) capturedAt =
      .ok timed ∧
    MetadataKept live timed.state ∧
    DelegationContext.recovered timed wallNow now = .ok (context, budget) ∧
    ∀ place session task thread tokens cost cancelled later,
      context.child budget place session task thread tokens cost cancelled later = .error .depth

theorem childRebuilt {live : DelegationBudget} (hActive : 0 < live.maxActiveChildren)
    (hTokens : live.maxTokens ≠ some 0)
    (hUncapped : live.maxCostMicrousd = none → live.state.reservedCostMicrousd = 0)
    {child : DelegationContext} (hDepth : child.depth = maxDelegationDepth)
    (wallNow : Timestamp) (now : Nat) : ChildRebuilt live child wallNow now := by
  intro writtenAt capturedAt
  have hRead := delegationRecoveryFromMetadata_metadata child
    (by rw [hDepth]; decide) hActive writtenAt capturedAt
  cases hTimed : delegationRecoveryFromMetadata (child.metadata live writtenAt) capturedAt with
  | error error =>
    rw [hTimed] at hRead
    cases hRead
  | ok timed =>
    rw [hTimed] at hRead
    have hEq := Except.ok.inj hRead
    have hDepth' : timed.state.depth = maxDelegationDepth := by
      rw [hEq]
      exact hDepth
    have hTokens' : timed.state.maxTokens ≠ some 0 := by
      rw [hEq]
      exact hTokens
    have hActive' : timed.state.maxActiveChildren ≠ 0 := by
      rw [hEq]
      exact UInt64.pos_iff_ne_zero.1 hActive
    have hKept : MetadataKept live timed.state := by
      rw [hEq]
      exact ⟨DelegationMetadata.recoveredTokens_kept _ _ _ _,
        DelegationMetadata.recoveredTokens_kept _ _ _ _,
        DelegationMetadata.recoveredCost_kept _ _ hUncapped⟩
    obtain ⟨context, budget, hRecovered⟩ := recovered_ok hDepth'.le hTokens' hActive' wallNow now
    have hLevel : maxDelegationDepth ≤ context.depth := by
      rw [(recovered_eq_ok hRecovered).depth, hDepth']
    exact ⟨timed, context, budget, rfl, hKept, hRecovered, child_eq_depth hLevel budget⟩

/-
  In every run in which every checkpoint is written, whenever the checkpoint
  lock is free the task can be rebuilt, and what is rebuilt refunds nothing. The
  slots must not allow more reservations than a word can count. A child is at
  all times rebuilt from its metadata, and admits nothing.
-/
theorem delegationCrash_refundsNothing {host : DelegationHost} (hStarted : host.Started)
    (hSlots : host.system.budget.maxActiveChildren.toNat * maxDelegatedTokenBudget.toNat ≤ limit)
    {ops : List DelegationHostOp}
    (hWritten : Machine.Guarded DelegationHost.step DelegationHost.Written host ops)
    (wallNow : Timestamp) (now : Nat) : ((Machine.run DelegationHost.step host ops).holder = none →
      (∃ rebuilt, (Machine.run DelegationHost.step host ops).Rebuilt wallNow now rebuilt) ∧
        ∀ rebuilt, (Machine.run DelegationHost.step host ops).Rebuilt wallNow now rebuilt →
          NoRefund (Machine.run DelegationHost.step host ops).system.budget rebuilt) ∧
      ∀ child : DelegationContext, child.depth = maxDelegationDepth →
          ChildRebuilt (Machine.run DelegationHost.step host
            ops).system.budget child wallNow now := by
  have hDurable := Machine.run_invariant (fun s op (hDurable : s.Durable host.system.budget)
        hOp => hDurable.step hSlots hOp)
    hStarted.durable hWritten
  obtain ⟨hActive, hTokens⟩ := hStarted.limits
  refine ⟨fun hFree => ⟨hDurable.rebuilt hActive hTokens wallNow now, fun rebuilt hRebuilt =>
      hDurable.noRefund hFree hRebuilt⟩, ?_⟩
  intro child hDepth
  have hLimits := hDurable.books.limits
  refine childRebuilt ?_ ?_ hDurable.exact.uncapped hDepth wallNow now
  · rw [hLimits]
    exact hActive
  · rw [hLimits]
    exact hTokens

/- A new root task without caps and with a single slot. -/
def oneSlotHost : DelegationHost :=
  let made := DelegationContext.configured ⟨⟨0⟩⟩ none none 1 0
  ⟨made.1, .start made.2, [], none⟩

theorem oneSlotHost_started : oneSlotHost.Started := .configured ⟨⟨0⟩⟩ none none 1 0 rfl

/- Its child has been reserved for, durably. -/
def reservedOps : List DelegationHostOp :=
  [.child ⟨⟨0⟩⟩ ⟨⟨1⟩⟩ ⟨⟨2⟩⟩ 600 false 0, .capture ⟨0⟩ 0, .record true ⟨0⟩]

def reservedHost : DelegationHost := Machine.run DelegationHost.step oneSlotHost reservedOps

theorem reservedHost_refundsNothing : reservedHost.system.budget.state.reservedTokens = 600 ∧
      ∃ rebuilt, reservedHost.Rebuilt ⟨0⟩ 0 rebuilt ∧
        NoRefund reservedHost.system.budget rebuilt := by
  obtain ⟨⟨rebuilt, hRebuilt⟩, hNoRefund⟩ :=
    (delegationCrash_refundsNothing oneSlotHost_started (by decide)
      (show Machine.Guarded DelegationHost.step DelegationHost.Written oneSlotHost reservedOps from
        ⟨trivial, trivial, rfl, trivial⟩) ⟨0⟩ 0).1 (by decide)
  exact ⟨by decide, rebuilt, hRebuilt, hNoRefund rebuilt hRebuilt⟩

/- The usage of the child is durable, and not yet entered. -/
def settledHost : DelegationHost := Machine.run DelegationHost.step reservedHost
    [.settle 0 ⟨10, none, none⟩ ⟨0⟩ 0, .record true ⟨0⟩]

/-
  After a crash the slot of the child is free again, and a settlement takes the
  place of its reservation before it does so in the live budget.
-/
theorem crashedHost_refunds : (∃ rebuilt, reservedHost.Rebuilt ⟨0⟩ 0 rebuilt ∧
        (reservedHost.system.budget.lockedReserve 1 none).toBool = false ∧
        (rebuilt.lockedReserve 1 none).toBool = true) ∧
      ∃ rebuilt, settledHost.Rebuilt ⟨0⟩ 0 rebuilt ∧
        rebuilt.state.spentTokens = 10 ∧ saturatingAdd settledHost.system.budget.state.spentTokens
            settledHost.system.budget.state.reservedTokens =
          600 :=
  ⟨⟨_, .recovered rfl rfl, by decide, by decide⟩, _, .recovered rfl rfl, by decide, by decide⟩

end GolutraAgent.Client
