import GolutraAgent.Library.Transaction
import GolutraAgent.Client.DelegationHost

/-
  This file proves that a crash refunds nothing of a delegation budget. Whenever
  the checkpoint lock is free, the last checkpoint of the log covers what the
  live budget has spent and reserved. While a settlement is under way, it covers
  what the budget will have spent and reserved after it. A drop in between keeps
  the totals.

  The budget that is rebuilt has all its slots free, since no child survives the
  crash.
-/

namespace GolutraAgent.Client

open Word DelegationBudget
open DelegationHost BudgetState

namespace DelegationSystem

open LeaseRecord

/-
  What is reserved is the sum of what the leases hold, each of which is small.
  Without a cap no cost is reserved, since no child is given an estimate.
-/
structure Exact (s : DelegationSystem) : Prop where
  tokens : s.budget.state.reservedTokens.toNat = Book.total heldTokens s.leases
  cost : s.budget.state.reservedCostMicrousd.toNat = Book.total heldCost s.leases
  small : ∀ record ∈ s.leases, record.lease.requestedTokens.toNat ≤ maxDelegatedTokenBudget.toNat
  uncapped : s.budget.maxCostMicrousd = none → s.budget.state.reservedCostMicrousd = 0

variable {initial : DelegationBudget} {s : DelegationSystem}

theorem clampTokens_le (tokens : UInt64) :
    (DelegationBudget.clampTokens tokens).toNat ≤ maxDelegatedTokenBudget.toNat :=
  Word.min_le_right _ _

/- The slots bound what can be reserved. -/
theorem Exact.total_le (hExact : s.Exact) :
    Book.total heldTokens s.leases ≤ Book.total heldSlots s.leases *
        maxDelegatedTokenBudget.toNat := by
  apply Book.total_le_mul
  intro record hRecord
  have hSmall := hExact.small record hRecord
  unfold heldTokens heldSlots held
  split
  · simpa using hSmall
  · simp

/-
  Without an estimate a lease reserves what is left under the cap, or nothing.
-/
theorem reservedCost_none_fits {budget : DelegationBudget} {cost : UInt64}
    (hCost : budget.reservedCost none = .ok cost) :
    budget.state.reservedCostMicrousd.toNat + cost.toNat ≤ limit := by
  have hReserved := toNat_le_limit budget.state.reservedCostMicrousd
  unfold reservedCost at hCost
  cases hCap : budget.maxCostMicrousd with
  | none =>
    rw [hCap] at hCost
    cases hCost
    exact hReserved
  | some cap =>
    rw [hCap] at hCost
    dsimp only at hCost
    split at hCost
    · rename_i remaining hSub
      obtain ⟨hFits, hRemaining⟩ := checkedSub_eq_some hSub
      split at hCost
      · cases hCost
        have hLimit := toNat_le_limit cap
        simp only [committedCost, toNat_saturatingAdd] at hRemaining
        omega
      · cases hCost
    · cases hCost

/- No sum saturates while the slots are bounded. -/
theorem Exact.admitted (hExact : s.Exact) (hBooks : s.Accounted initial)
    (hSlots : s.budget.maxActiveChildren.toNat * maxDelegatedTokenBudget.toNat ≤ limit)
    {tokens : UInt64} {cancelled : Bool} {now : Nat} {state : BudgetState} {lease : DelegationLease}
    (hReserve : s.budget.reserve tokens none cancelled now = .ok (state, lease)) :
    (s.admitted state lease).Exact := by
  have hAdmit : s.budget.lockedReserve (clampTokens tokens) none = .ok (state, lease) := by
    unfold reserve at hReserve
    split at hReserve
    · cases hReserve
    · split at hReserve
      · cases hReserve
      · exact hReserve
  obtain ⟨hAdmitted, hRequested, hCost⟩ := lockedReserve_eq_ok hAdmit
  have hClamp := clampTokens_le tokens
  rw [← hRequested] at hClamp
  have hFits := reservedCost_none_fits hCost
  have hActive := hBooks.active
  have hSlot := UInt64.lt_iff_toNat_lt.1 hAdmitted.slot
  have hRoom : (Book.total heldSlots s.leases + 1) * maxDelegatedTokenBudget.toNat ≤ limit :=
    le_trans (Nat.mul_le_mul_right _ (by omega)) hSlots
  have hTotal := hExact.total_le
  obtain ⟨hTokens, hCosts, hSmall, hUncapped⟩ := hExact
  have hState := hAdmitted.state
  subst hState
  have hBound : Book.total heldTokens s.leases +
      lease.requestedTokens.toNat ≤ (Book.total heldSlots s.leases + 1) *
          maxDelegatedTokenBudget.toNat := by
    rw [Nat.add_mul]
    exact Nat.add_le_add hTotal hClamp
  constructor
  · simp only [DelegationSystem.admitted, withState, enter, toNat_saturatingAdd, Book.total_concat]
    change min _ _ = _ + lease.requestedTokens.toNat
    omega
  · simp only [DelegationSystem.admitted, withState, enter, toNat_saturatingAdd, Book.total_concat]
    change min _ _ = _ + lease.requestedCostMicrousd.toNat
    omega
  · intro record hRecord
    rcases List.mem_append.1 hRecord with hOld | hNew
    · exact hSmall record hOld
    · rw [List.mem_singleton] at hNew
      subst hNew
      exact hClamp
  · intro (hNone : s.budget.maxCostMicrousd = none)
    have hFree : lease.requestedCostMicrousd = 0 := by
      unfold reservedCost at hCost
      rw [hNone] at hCost
      exact (Except.ok.inj hCost).symm
    simp only [DelegationSystem.admitted, withState, enter, hUncapped hNone, hFree]
    rfl

theorem Exact.called (hExact : s.Exact) (place : Nat)
    (actual : DelegationLease → Usage) : (s.called place actual).Exact := by
  have hHeld := fun amount hAmount => total_held_called amount hAmount s place actual
  constructor
  · simpa [heldTokens, hHeld] using hExact.tokens
  · simpa [heldCost, hHeld] using hExact.cost
  · unfold DelegationSystem.called
    split
    · rename_i record hRecord
      intro other hOther
      rcases List.mem_or_eq_of_mem_set hOther with hOld | rfl
      · exact hExact.small other hOld
      · have hSmall := hExact.small record (List.mem_of_getElem? hRecord)
        unfold LeaseRecord.call
        split
        · exact hSmall
        · exact hSmall
    · exact hExact.small
  · simpa using hExact.uncapped

theorem Exact.locked (hExact : s.Exact) (hBooks : s.Accounted initial)
    (place index : Nat) : (s.locked place index).Exact := by
  rcases s.locked_cases place index with ⟨hSame, -⟩ | ⟨record, actual, hWaits, hLocked⟩
  · rw [hSame]
    exact hExact
  · obtain ⟨-, hUnsettled⟩ := hWaits.settle hBooks.leases
    have hHeld := hWaits.total_held hUnsettled
    obtain ⟨hTokens, hCost, hSmall, hUncapped⟩ := hExact
    rw [hLocked]
    constructor
    · have hReserved := hHeld (·.requestedTokens.toNat)
      simp only [withState, release, toNat_saturatingSub, heldTokens] at hTokens ⊢
      omega
    · have hReserved := hHeld (·.requestedCostMicrousd.toNat)
      simp only [withState, release, toNat_saturatingSub, heldCost] at hCost ⊢
      omega
    · intro other hOther
      rcases List.mem_or_eq_of_mem_set hOther with hOld | rfl
      · exact hSmall other hOld
      · exact hSmall record (List.mem_of_getElem? hWaits.found)
    · intro hNone
      refine UInt64.toNat_inj.mp ?_
      simp [withState, release, toNat_saturatingSub, hUncapped hNone]

/- Two leases that are not settled are both reserved. -/
theorem Exact.reserves (hExact : s.Exact) {place : Nat}
    {record : LeaseRecord} (hRecord : s.leases[place]? = some record)
    (hUnsettled : record.settled = []) : s.budget.state.Reserves record.lease := by
  have hHeld := fun amount => Book.contribution_le_total (held amount) hRecord
  simp only [held_of_unsettled _ hUnsettled] at hHeld
  constructor
  · rw [hExact.tokens]
    exact hHeld (·.requestedTokens.toNat)
  · rw [hExact.cost]
    exact hHeld (·.requestedCostMicrousd.toNat)

end DelegationSystem

/-
  A state recovered from the log counts the totals of a budget as spent. Without
  one, nothing has been spent or reserved.
-/
structure CoveredBy (latest : Option TimedDelegationRecoveryState)
    (state : BudgetState) : Prop where
  tokens : state.tokenTotal ≤ latest.elim 0 (·.state.spentTokens.toNat)
  output : state.outputTotal ≤ latest.elim 0 (fun recovery =>
      (recovery.state.spentOutputTokens.getD recovery.state.spentTokens).toNat)
  cost : state.costTotal ≤ latest.elim 0 (·.state.spentCostMicrousd.toNat)

theorem CoveredBy.of_sameTotals {latest : Option TimedDelegationRecoveryState}
    {state state' : BudgetState} (hCovered : CoveredBy latest state)
    (hSame : BudgetState.SameTotals state' state) : CoveredBy latest state' :=
  ⟨hSame.tokens ▸ hCovered.tokens, hSame.output ▸ hCovered.output, hSame.cost ▸ hCovered.cost⟩

theorem le_exhaust (unsettled : Bool) (cap : Option UInt64) (spent : UInt64) :
    spent.toNat ≤ (exhaust unsettled cap spent).toNat := by
  unfold exhaust
  split
  · exact (le_max _ _).1
  · exact Nat.le_refl _

namespace DelegationContext

variable {context : DelegationContext} {budget : DelegationBudget}

variable {capturedAt : Timestamp} {now : Nat}

theorem recoveryState_covers {lease : Option DelegationLease} {settlement : Option Settlement}
    (hFigures : budget.state.recoveryFigures lease settlement = budget.state.reservedAsSpent) :
    CoveredBy (some (context.recoveryStateWithSettlement budget lease settlement capturedAt now))
      budget.state := by
  have hTokens := toNat_saturatingAdd budget.state.spentTokens budget.state.reservedTokens
  have hOutput := toNat_saturatingAdd budget.state.spentOutputTokens budget.state.reservedTokens
  have hCost := toNat_saturatingAdd budget.state.spentCostMicrousd budget.state.reservedCostMicrousd
  constructor
  all_goals simp only [recoveryStateWithSettlement, hFigures]
  · exact le_trans (le_of_eq hTokens.symm) (le_exhaust _ _ _)
  · exact le_trans (le_of_eq hOutput.symm) (le_exhaust _ _ _)
  · exact le_trans (le_of_eq hCost.symm) (le_exhaust _ _ _)

/- The checkpoint of a settlement covers the state after it. -/
theorem settlementRecoveryState_covers {lease : DelegationLease}
    {settlement : Settlement} (hReleased : lease.released = false) :
    CoveredBy (some (context.settlementRecoveryState budget (some lease) settlement capturedAt now))
      (budget.state.release lease (settlement.usage lease)) := by
  rw [settlementRecoveryState_eq hReleased]
  exact recoveryState_covers rfl

end DelegationContext

/- A checkpoint of the root context, with its limits. -/
structure Canonical (context : DelegationContext) (budget : DelegationBudget)
    (recovery : TimedDelegationRecoveryState) : Prop where
  root : recovery.state.rootSessionId = context.rootSessionId
  depth : recovery.state.depth = 0
  session : recovery.state.parentSessionId = none
  task : recovery.state.parentTaskId = none
  thread : recovery.state.parentThreadId = none
  active : recovery.state.maxActiveChildren = budget.maxActiveChildren
  tokens : recovery.state.maxTokens = budget.maxTokens
  cost : recovery.state.maxCostMicrousd = budget.maxCostMicrousd

variable {budget : DelegationBudget} {context : DelegationContext}
variable {recovery : TimedDelegationRecoveryState}

/- Only the limits of the budget matter. -/
theorem Canonical.withState (hCanonical : Canonical context budget recovery)
    (state : BudgetState) : Canonical context { budget with state } recovery :=
  ⟨hCanonical.root, hCanonical.depth, hCanonical.session,
    hCanonical.task, hCanonical.thread, hCanonical.active, hCanonical.tokens, hCanonical.cost⟩

/-
  The log of the host can be read back. A task without a durable state is a new
  one.
-/
structure Recorded (s : DelegationHost) (found : RecoveredDelegation) : Prop where
  fold : s.journal.foldlM RecoveredDelegation.observe .start = .ok found
  last : found.delegation = found.canonical
  fresh : found.canonical = none → s.system.budget.maxTokens = none
  canonical : ∀ previous, found.canonical = some previous →
    Canonical s.context s.system.budget previous ∧
      previous.state.startedChildren ≤ s.system.budget.state.startedChildren

theorem Canonical.validates (hCanonical : Canonical context budget recovery)
    {previous : Option TimedDelegationRecoveryState} (hPrevious : ∀ before, previous = some before →
      Canonical context budget before ∧ before.state.startedChildren ≤
          recovery.state.startedChildren) :
    validateCanonicalDelegationCheckpoint context.rootSessionId recovery previous = .ok () := by
  obtain ⟨hRoot, hDepth, hSession, hTask, hThread, hActive, hTokens, hCost⟩ := hCanonical
  unfold validateCanonicalDelegationCheckpoint
  rw [if_neg (fun hNe => hNe hRoot), if_neg (by simp [hDepth, hSession, hTask, hThread])]
  cases previous with
  | none => rfl
  | some before =>
    obtain ⟨hBefore, hStarted⟩ := hPrevious before rfl
    dsimp only
    rw [if_neg (UInt64.not_lt.2 hStarted)]
    simp [hRoot, hActive, hTokens, hCost, hBefore.root,
      hBefore.active, hBefore.tokens, hBefore.cost]

/- The limits of the budget stay, and children only start. -/
theorem Recorded.keeps {s s' : DelegationHost} {found : RecoveredDelegation}
    (hRecorded : Recorded s found) (hJournal : s'.journal = s.journal)
    (hContext : s'.context = s.context)
    (hLimits : s'.system.budget = { s.system.budget with state := s'.system.budget.state })
    (hStarted : s.system.budget.state.startedChildren ≤ s'.system.budget.state.startedChildren) :
    Recorded s' found := by
  refine ⟨hJournal ▸ hRecorded.fold, hRecorded.last, ?_, ?_⟩
  · rw [hLimits]
    exact hRecorded.fresh
  · intro previous hPrevious
    obtain ⟨hCanonical, hBefore⟩ := hRecorded.canonical previous hPrevious
    rw [hLimits, hContext]
    exact ⟨hCanonical.withState _, UInt64.le_trans hBefore hStarted⟩

variable {s : DelegationHost} {found : RecoveredDelegation}

theorem Recorded.called (hRecorded : Recorded s found) (place : Nat)
    (actual : DelegationLease → Usage) (holder : Option CheckpointHolder) : Recorded { s with
        system := s.system.called place actual
        holder } found :=
  hRecorded.keeps rfl rfl (by simp) (by simp)

/- A checkpoint that was written is the last one found. -/
theorem Recorded.append (hRecorded : Recorded s found)
    (hCanonical : Canonical s.context s.system.budget recovery)
    (hStarted : recovery.state.startedChildren = s.system.budget.state.startedChildren)
    (timestamp : Timestamp) (holder : Option CheckpointHolder) : Recorded { s with
        journal := s.recorded true timestamp recovery
        holder }
      ⟨some recovery, some recovery, true⟩ := by
  refine ⟨?_, rfl, fun hNone => (nomatch hNone), ?_⟩
  · have hValid := hCanonical.validates (fun before hBefore => hStarted ▸
        hRecorded.canonical before hBefore)
    simp only [recorded, if_true]
    rw [List.foldlM_append, hRecorded.fold]
    simp only [List.foldlM_cons, List.foldlM_nil, bind_pure]
    change (do
      validateCanonicalDelegationCheckpoint _ _ _
      _) = _
    rw [hValid]
    rfl
  · rintro previous ⟨⟩
    exact ⟨hCanonical, hStarted ▸ UInt64.le_refl _⟩

namespace DelegationHost

variable (s : DelegationHost)

/-
  The settlement that the holder of the lock is about to enter into the budget:
  its lease and its figures.
-/
def pendingRelease : Option (LeaseRecord × Usage) :=
  match s.holder with
  | some (.settling place settlement _)
  | some (.finishing place settlement) =>
    (s.system.leases[place]?).bind (fun record =>
      if record.lease.released then none
      else some (record, settlement.usage record.lease))
  | some (.releasing place) =>
    (s.system.leases[place]?).bind (fun record =>
      record.waiting[0]?.map (fun actual => (record, actual)))
  | _ => none

/- The budget as the checkpoints are to cover it. -/
def pendingState : BudgetState :=
  match s.pendingRelease with
  | some (record, actual) => s.system.budget.state.release record.lease actual
  | none => s.system.budget.state

/- The checkpoint that is being recorded. -/
def inFlight : Option TimedDelegationRecoveryState :=
  match s.holder with
  | some (.reserving recovery) | some (.settling _ _ recovery) => some recovery
  | _ => none

/- The calls that wait are drops, but for the holder's. -/
def OnlyDrops (leases : List LeaseRecord) (holder : Option CheckpointHolder) : Prop :=
  ∀ place record, leases[place]? = some record →
    holder ≠ some (.releasing place) → ∀ actual ∈ record.waiting, actual = record.lease.dropUsage

structure Durable (initial : DelegationBudget) (s : DelegationHost) : Prop where
  books : s.system.Accounted initial
  exact : s.system.Exact
  drops : OnlyDrops s.system.leases s.holder
  flight : ∀ recovery, s.inFlight = some recovery → Canonical s.context s.system.budget recovery ∧
      recovery.state.startedChildren = s.system.budget.state.startedChildren
  covered : ∃ found, Recorded s found ∧ (s.holder ≠ some .reserved →
      CoveredBy (s.inFlight.or found.delegation) s.pendingState)

variable {initial : DelegationBudget} {s : DelegationHost}

theorem noFlight {holds : TimedDelegationRecoveryState → Prop}
    (hNone : s.inFlight = none) : ∀ recovery, s.inFlight = some recovery → holds recovery :=
  fun _ hSome => nomatch hNone.symm.trans hSome

theorem recoveryState_canonical (context : DelegationContext)
    (budget : DelegationBudget) (lease : Option DelegationLease)
    (settlement : Option Settlement) (capturedAt : Timestamp) (now : Nat) :
    Canonical context budget (context.recoveryStateWithSettlement budget lease
        settlement capturedAt now) :=
  ⟨rfl, rfl, rfl, rfl, rfl, rfl, rfl, rfl⟩

section

variable {leases : List LeaseRecord} {place : Nat} {holder holder' : Option CheckpointHolder}

theorem OnlyDrops.of_free (hDrops : OnlyDrops leases holder)
    (hFree : ∀ place, holder ≠ some (.releasing place)) : OnlyDrops leases holder' :=
  fun place record hRecord _ => hDrops place record hRecord (hFree place)

theorem OnlyDrops.set (hDrops : OnlyDrops leases holder) {new : LeaseRecord}
    (hHolder : ∀ other, other ≠ place → holder' ≠ some (.releasing other) →
        holder ≠ some (.releasing other))
    (hNew : holder' ≠ some (.releasing place) →
      ∀ actual ∈ new.waiting, actual = new.lease.dropUsage) :
    OnlyDrops (leases.set place new) holder' := by
  intro other record hRecord hOther
  by_cases hEq : other = place
  · subst hEq
    rw [List.getElem?_set_self'] at hRecord
    obtain ⟨-, -, rfl⟩ := Option.map_eq_some_iff.1 hRecord
    exact hNew hOther
  · rw [List.getElem?_set_ne (Ne.symm hEq)] at hRecord
    exact hDrops other record hRecord (hHolder other hEq hOther)

theorem OnlyDrops.called {system : DelegationSystem} {actual : DelegationLease → Usage}
    (hDrops : OnlyDrops system.leases holder)
    (hHolder : ∀ other, other ≠ place → holder' ≠ some (.releasing other) →
        holder ≠ some (.releasing other))
    (hNew : ∀ record, system.leases[place]? = some record → holder' ≠ some (.releasing place) →
        ∀ used ∈ (record.call (actual record.lease)).waiting,
          used = (record.call (actual record.lease)).lease.dropUsage) :
    OnlyDrops (system.called place actual).leases holder' := by
  unfold DelegationSystem.called
  split
  · next record hRecord => exact hDrops.set hHolder (hNew record hRecord)
  · rename_i hNone
    intro other record hRecord hOther
    refine hDrops other record hRecord (hHolder other ?_ hOther)
    rintro rfl
    cases hNone.symm.trans hRecord

end

/- What `child` does to the budget. -/
theorem child_eq_ok {context child : DelegationContext} {budget : DelegationBudget}
    {place now : Nat} {session : SessionId} {task : TaskId} {thread : ThreadId} {tokens : UInt64}
    {cost : Option UInt64} {cancelled : Bool} {state : BudgetState} {lease : DelegationLease}
    (hChild : context.child budget place session task thread
      tokens cost cancelled now = .ok (child, state, lease)) :
    budget.reserve tokens cost cancelled now = .ok (state, lease) := by
  unfold DelegationContext.child at hChild
  dsimp only at hChild
  split at hChild
  · cases hChild
  · split at hChild
    · cases hChild
    · split at hChild
      · cases hChild
      · rename_i hReserve
        cases hChild
        exact hReserve

section

variable (hDurable : s.Durable initial)
include hDurable

theorem Durable.child
    (hSlots : initial.maxActiveChildren.toNat * maxDelegatedTokenBudget.toNat ≤ limit)
    (session : SessionId) (task : TaskId) (thread : ThreadId) (tokens : UInt64) (cancelled : Bool)
    (now : Nat) : (s.step (.child session task thread tokens cancelled now)).Durable initial := by
  obtain ⟨context, system, journal, holder⟩ := s
  cases holder with
  | some holder => exact hDurable
  | none =>
    simp only [step]
    split
    · rename_i child state lease hChild
      have hReserve := child_eq_ok hChild
      have hAdmitted := reserve_eq_ok hReserve
      obtain ⟨hBooks, hExact, hDrops, -, found, hRecorded, -⟩ := hDurable
      have hMax := congrArg maxActiveChildren hBooks.limits
      refine ⟨(hBooks.admitted hAdmitted).1, hExact.admitted hBooks (hMax ▸ hSlots) hReserve, ?_,
        noFlight rfl, found, hRecorded.keeps rfl rfl rfl ?_, fun hHolder => absurd rfl hHolder⟩
      · intro place record hRecord hHolder
        dsimp only [DelegationSystem.admitted, DelegationSystem.withState] at hRecord
        rw [List.getElem?_append] at hRecord
        split at hRecord
        · exact hDrops place record hRecord nofun
        · have hFresh := List.mem_singleton.1 (List.mem_of_getElem? hRecord)
          subst hFresh
          intro actual hActual
          cases hActual
      · dsimp only [DelegationSystem.admitted, DelegationSystem.withState]
        rw [UInt64.le_iff_toNat_le, hAdmitted.state, enter, toNat_saturatingAdd]
        have hLimit := toNat_le_limit system.budget.state.startedChildren
        omega
    · exact hDurable

theorem Durable.capture (capturedAt : Timestamp) (now : Nat) :
    (s.step (.capture capturedAt now)).Durable initial := by
  obtain ⟨context, system, journal, holder⟩ := s
  rcases holder with _ | holder
  · exact hDurable
  · cases holder with
    | reserved =>
      obtain ⟨hBooks, hExact, hDrops, -, found, hRecorded, -⟩ := hDurable
      refine ⟨hBooks, hExact, ?_, ?_, found, hRecorded.keeps rfl rfl rfl (UInt64.le_refl _),
        fun _ => ?_⟩
      · exact OnlyDrops.of_free hDrops nofun
      · rintro recovery ⟨⟩
        exact ⟨recoveryState_canonical _ _ _ _ _ _, rfl⟩
      · exact DelegationContext.recoveryState_covers rfl
    | reserving | settling | finishing | releasing => exact hDurable

/- A checkpoint that was written covers what it covered. -/
theorem Durable.record (timestamp : Timestamp) :
    (s.step (.record true timestamp)).Durable initial := by
  obtain ⟨context, system, journal, holder⟩ := s
  rcases holder with _ | holder
  · exact hDurable
  · cases holder with
    | reserving recovery
    | settling place settlement recovery =>
      obtain ⟨hBooks, hExact, hDrops, hFlight, found, hRecorded, hCovered⟩ := hDurable
      obtain ⟨hCanonical, hStarted⟩ := hFlight recovery rfl
      exact ⟨hBooks, hExact, OnlyDrops.of_free hDrops nofun, noFlight rfl, _,
        hRecorded.append hCanonical hStarted timestamp _, fun _ => hCovered nofun⟩
    | reserved | finishing | releasing => exact hDurable

theorem Durable.settle (place : Nat) (settlement : Settlement) (capturedAt : Timestamp)
    (now : Nat) : (s.step (.settle place settlement capturedAt now)).Durable initial := by
  obtain ⟨context, system, journal, holder⟩ := s
  rcases holder with _ | holder
  · cases hPlace : system.leases[place]? with
    | none =>
      simp only [step, hPlace]
      exact hDurable
    | some record =>
      simp only [step, hPlace]
      obtain ⟨hBooks, hExact, hDrops, -, found, hRecorded, -⟩ := hDurable
      refine ⟨hBooks, hExact, ?_, ?_, found, hRecorded.keeps rfl rfl rfl (UInt64.le_refl _),
        fun _ => ?_⟩
      · exact OnlyDrops.of_free hDrops nofun
      · rintro recovery ⟨⟩
        exact ⟨recoveryState_canonical _ _ _ _ _ _, rfl⟩
      · unfold pendingState pendingRelease
        dsimp only [inFlight, Option.or]
        rw [hPlace, Option.bind_some]
        cases hReleased : record.lease.released with
        | true =>
          exact DelegationContext.recoveryState_covers (by simp [recoveryFigures, hReleased])
        | false => exact DelegationContext.settlementRecoveryState_covers hReleased
  · exact hDurable

/- The swap of `finish` leaves its settlement pending. -/
theorem Durable.finish : (s.step .finish).Durable initial := by
  obtain ⟨context, system, journal, holder⟩ := s
  rcases holder with _ | holder
  · exact hDurable
  · cases holder with
    | reserved | reserving | settling | releasing => exact hDurable
    | finishing place settlement =>
      obtain ⟨hBooks, hExact, hDrops, -, found, hRecorded, hCovered⟩ := hDurable
      have hPending := hCovered nofun
      unfold pendingState pendingRelease at hPending
      dsimp only [inFlight, Option.or] at hPending
      have hBooks' := hBooks.called place settlement.usage
      have hExact' := hExact.called place settlement.usage
      have hRecorded' := hRecorded.called place settlement.usage
      simp only [step]
      cases hPlace : system.leases[place]? with
      | none =>
        rw [hPlace] at hPending
        refine ⟨hBooks', hExact', ?_, noFlight rfl, found, hRecorded' _, fun _ => ?_⟩
        · rw [DelegationSystem.called_of_none hPlace]
          exact OnlyDrops.of_free hDrops nofun
        · unfold pendingState
          simpa [pendingRelease, inFlight] using hPending
      | some record =>
        rw [hPlace, Option.bind_some] at hPending
        dsimp only
        cases hReleased : record.lease.released with
        | true =>
          rw [hReleased] at hPending
          refine ⟨hBooks', hExact', ?_, noFlight rfl, found, hRecorded' _, fun _ => ?_⟩
          · refine OnlyDrops.called hDrops nofun ?_
            intro other hFind _
            cases hPlace.symm.trans hFind
            rw [LeaseRecord.call_of_released hReleased]
            exact hDrops place record hPlace nofun
          · unfold pendingState
            simpa [pendingRelease, inFlight] using hPending
        | false =>
          rw [hReleased] at hPending
          have hSelf := DelegationSystem.called_find_self hPlace settlement.usage
          rw [((hBooks.leases record (List.mem_of_getElem?
              hPlace)).call_of_unreleased hReleased _).2] at hSelf
          refine ⟨hBooks', hExact', ?_,
            fun _ hNone => (nomatch hNone), found, hRecorded' _, fun _ => ?_⟩
          · refine OnlyDrops.called hDrops nofun ?_
            intro _ _ hOther
            exact absurd rfl hOther
          · unfold pendingState pendingRelease
            simp only [Bool.false_eq_true, if_false, hSelf, DelegationSystem.called_budget]
            exact hPending

end

/- A lease that is settled has no call that waits. -/
theorem settle_waiting {record : LeaseRecord} {index : Nat} {actual : Usage}
    (hSound : (record.settle index actual).Sound) : (record.settle index actual).waiting = [] := by
  have hOnce := hSound.once
  apply List.eq_nil_of_length_eq_zero
  simp only [LeaseRecord.settle, List.length_append, List.length_singleton] at hOnce ⊢
  omega

/- What the holder has pending is now in the budget. -/
theorem Durable.release (hDurable : s.Durable initial) : (s.step .release).Durable initial := by
  obtain ⟨context, system, journal, holder⟩ := s
  rcases holder with _ | holder
  · exact hDurable
  · cases holder with
    | reserved | reserving | settling | finishing => exact hDurable
    | releasing place =>
      obtain ⟨hBooks, hExact, hDrops, -, found, hRecorded, hCovered⟩ := hDurable
      have hPending := hCovered nofun
      have hBooks' := hBooks.locked place 0
      have hExact' := hExact.locked hBooks place 0
      unfold pendingState pendingRelease at hPending
      dsimp only [inFlight, Option.or] at hPending
      simp only [step]
      rcases system.locked_cases place 0 with ⟨hSame, hNone⟩ | ⟨record, actual, hWaits, hLocked⟩
      · rw [hSame]
        refine ⟨hBooks, hExact, ?_, noFlight rfl, found,
          hRecorded.keeps rfl rfl rfl (UInt64.le_refl _), fun _ => ?_⟩
        · intro other record hRecord _
          by_cases hEq : other = place
          · subst hEq
            have hEmpty := hNone record hRecord
            rw [List.getElem?_eq_none_iff] at hEmpty
            rw [List.eq_nil_of_length_eq_zero (by omega : record.waiting.length = 0)]
            exact fun _ => nofun
          · refine hDrops other record hRecord ?_
            rintro ⟨⟩
            exact hEq rfl
        · cases hPlace : system.leases[place]? with
          | none =>
            rw [hPlace] at hPending
            exact hPending
          | some record =>
            rw [hPlace, Option.bind_some, hNone record hPlace] at hPending
            exact hPending
      · rw [hLocked] at hBooks' hExact' ⊢
        obtain ⟨hSound, -⟩ := hWaits.settle hBooks.leases
        refine ⟨hBooks', hExact', ?_, noFlight rfl, found,
          hRecorded.keeps rfl rfl rfl (UInt64.le_refl _), fun _ => ?_⟩
        · refine OnlyDrops.set hDrops ?_ (fun _ => ?_)
          · rintro other hNe - ⟨⟩
            exact hNe rfl
          · rw [settle_waiting hSound]
            exact fun _ => nofun
        · rw [hWaits.found, Option.bind_some, hWaits.waiting] at hPending
          exact hPending

variable {actual : Usage} {record : LeaseRecord}

/- What is pending is a lease that has not been settled. -/
theorem pendingRelease_eq_some (hSounds : ∀ record ∈ s.system.leases, record.Sound)
    (hPending : s.pendingRelease = some (record, actual)) :
    ∃ place, s.holder.bind (·.place) = some place ∧
      s.system.leases[place]? = some record ∧ record.settled = [] ∧
      (record.lease.released = true → s.holder = some (.releasing place)) := by
  obtain ⟨context, system, journal, holder⟩ := s
  have hUnreleased : ∀ (place : Nat) (settlement : DelegationLease → Usage),
      (system.leases[place]?).bind (fun record =>
        if record.lease.released then none
        else some (record, settlement record.lease)) = some (record, actual) →
      system.leases[place]? = some record ∧ record.settled = [] ∧
        record.lease.released = false := by
    intro place settlement hBind
    obtain ⟨other, hPlace, hIf⟩ := Option.bind_eq_some_iff.1 hBind
    split at hIf
    · cases hIf
    · rename_i hReleased
      cases hIf
      have hFalse := Bool.eq_false_of_not_eq_true hReleased
      exact ⟨hPlace, ((hSounds record (List.mem_of_getElem? hPlace)).call_of_unreleased
          hFalse record.lease.dropUsage).1, hFalse⟩
  rcases holder with _ | holder
  · cases hPending
  · cases holder with
    | reserved | reserving => cases hPending
    | settling place settlement | finishing place settlement =>
      obtain ⟨hPlace, hSettled, hFalse⟩ := hUnreleased place settlement.usage hPending
      exact ⟨place, rfl, hPlace, hSettled, fun hTrue => by simp [hFalse] at hTrue⟩
    | releasing place =>
      obtain ⟨other, hPlace, hMap⟩ := Option.bind_eq_some_iff.1 hPending
      obtain ⟨first, hWaiting, hEq⟩ := Option.map_eq_some_iff.1 hMap
      cases hEq
      exact ⟨place, rfl, hPlace, ((hSounds record
        (List.mem_of_getElem? hPlace)).settle hWaiting).2, fun _ => rfl⟩

/-
  What is pending is decided by the lease of the holder, and only by whether
  that is released if it has not been yet.
-/
theorem pendingRelease_congr {context : DelegationContext} {system system' : DelegationSystem}
    {journal : List DelegationEvent} {holder : Option CheckpointHolder}
    (hSame : ∀ place, holder.bind (·.place) = some place →
      system'.leases[place]? = system.leases[place]? ∨
        ∃ record record', holder ≠ some (.releasing place) ∧ system.leases[place]? = some record ∧
          system'.leases[place]? = some record' ∧
          record.lease.released = true ∧ record'.lease.released = true) :
    pendingRelease ⟨context, system', journal, holder⟩ =
      pendingRelease ⟨context, system, journal, holder⟩ := by
  rcases holder with _ | holder
  · rfl
  · unfold pendingRelease
    cases holder with
    | reserved | reserving => rfl
    | settling place settlement | finishing place settlement =>
      rcases hSame place rfl with hEq | ⟨record, record', -, hOld, hNew, hFlag, hFlag'⟩
      · dsimp only
        rw [hEq]
      · simp [hOld, hNew, hFlag, hFlag']
    | releasing place =>
      rcases hSame place rfl with hEq | ⟨record, record', hNe, -⟩
      · dsimp only
        rw [hEq]
      · exact absurd rfl hNe

theorem Durable.drop (hDurable : s.Durable initial) (place : Nat) :
    (s.step (.drop place)).Durable initial := by
  simp only [step]
  split
  · exact hDurable
  · rename_i hPlace
    obtain ⟨context, system, journal, holder⟩ := s
    obtain ⟨hBooks, hExact, hDrops, hFlight, found, hRecorded, hCovered⟩ := hDurable
    have hPending : pendingRelease ⟨context, system.called place (·.dropUsage), journal, holder⟩ =
        pendingRelease ⟨context, system, journal, holder⟩ := by
      apply pendingRelease_congr
      intro other hOther
      left
      apply DelegationSystem.called_find_other
      rintro rfl
      exact hPlace hOther
    refine ⟨hBooks.called place _, hExact.called place _,
      ?_, ?_, found, hRecorded.called place _ _, ?_⟩
    · refine OnlyDrops.called hDrops (fun _ _ h => h) ?_
      intro old hFind hOther
      cases hReleased : old.lease.released with
      | true =>
        rw [LeaseRecord.call_of_released hReleased]
        exact hDrops place old hFind hOther
      | false =>
        rw [((hBooks.leases old (List.mem_of_getElem? hFind)).call_of_unreleased hReleased _).2]
        exact fun actual => List.mem_singleton.1
    · simpa [inFlight] using hFlight
    · intro hHolder
      unfold pendingState
      rw [hPending]
      simpa [pendingState, inFlight] using hCovered hHolder

/- A lease with a call that waits has been released. -/
theorem released_of_waits {system : DelegationSystem} {place index : Nat}
    (hWaits : system.Waits place index record actual)
    (hSound : record.Sound) : record.lease.released = true := by
  obtain ⟨hIndex, -⟩ := List.getElem?_eq_some_iff.1 hWaits.waiting
  have hOnce := hSound.once
  rw [hSound.released, decide_eq_true_eq]
  omega

/- Two leases are reserved in either order. -/
theorem reserves_swap {state : BudgetState} {lease lease' : DelegationLease}
    {actual actual' : Usage} (hFirst : state.Reserves lease)
    (hSecond : (state.release lease actual).Reserves lease') :
    (state.release lease' actual').Reserves lease := by
  obtain ⟨hTokens, hCost⟩ := hFirst
  obtain ⟨hTokens', hCost'⟩ := hSecond
  simp only [release, toNat_saturatingSub] at hTokens' hCost'
  constructor
  · simp only [release, toNat_saturatingSub]
    omega
  · simp only [release, toNat_saturatingSub]
    omega

/- A drop settles in between, and the totals stay. -/
theorem Durable.lock (hDurable : s.Durable initial) (place index : Nat) :
    (s.step (.lock place index)).Durable initial := by
  simp only [step]
  split
  · exact hDurable
  · rename_i hHolder
    rcases s.system.locked_cases place index with ⟨hSame, -⟩ | ⟨record, actual, hWaits, hLocked⟩
    · rw [hSame]
      exact hDurable
    · have hBooks' := hDurable.books.locked place index
      have hExact' := hDurable.exact.locked hDurable.books place index
      rw [hLocked] at hBooks' hExact' ⊢
      obtain ⟨context, system, journal, holder⟩ := s
      obtain ⟨hBooks, hExact, hDrops, hFlight, found, hRecorded, hCovered⟩ := hDurable
      obtain ⟨hSound, hUnsettled⟩ := hWaits.settle hBooks.leases
      have hReleased := released_of_waits hWaits (hBooks.leases record
          (List.mem_of_getElem? hWaits.found))
      have hActual := hDrops place record hWaits.found
        hHolder actual (List.mem_of_getElem? hWaits.waiting)
      subst hActual
      have hReserves := hExact.reserves hWaits.found hUnsettled
      have hSelf : (system.leases.set place (record.settle index record.lease.dropUsage))[
            place]? = some (record.settle index record.lease.dropUsage) :=
        List.getElem?_set_self (List.getElem?_eq_some_iff.1 hWaits.found).1
      have hPending : pendingRelease ⟨context, system.withState (system.budget.state.release
            record.lease record.lease.dropUsage) (system.leases.set place (record.settle index
              record.lease.dropUsage)), journal, holder⟩ =
          pendingRelease ⟨context, system, journal, holder⟩ := by
        apply pendingRelease_congr
        intro other hOther
        by_cases hEq : other = place
        · subst hEq
          exact .inr ⟨record, _, hHolder, hWaits.found, hSelf, hReleased, hReleased⟩
        · exact .inl (List.getElem?_set_ne (Ne.symm hEq))
      refine ⟨hBooks', hExact', ?_, ?_, found, hRecorded.keeps rfl rfl rfl (UInt64.le_refl _), ?_⟩
      · refine OnlyDrops.set hDrops (fun _ _ h => h) (fun _ => ?_)
        rw [settle_waiting hSound]
        exact fun _ => nofun
      · intro recovery hRecovery
        obtain ⟨hCanonical, hStarted⟩ := hFlight recovery hRecovery
        exact ⟨hCanonical.withState _, hStarted⟩
      · intro hNotReserved
        refine (hCovered hNotReserved).of_sameTotals ?_
        unfold pendingState
        rw [hPending]
        cases hSome : pendingRelease ⟨context, system, journal, holder⟩ with
        | none => exact hReserves.sameTotals
        | some pending =>
          obtain ⟨other, hOther, hFind, hHeld, hFlag⟩ := pendingRelease_eq_some hBooks.leases hSome
          have hNe : other ≠ place := by
            rintro rfl
            cases hWaits.found.symm.trans hFind
            exact hHolder (hFlag hReleased)
          have hSecond := hExact'.reserves ((List.getElem?_set_ne (Ne.symm hNe)).trans hFind) hHeld
          dsimp only [DelegationSystem.withState]
          rw [release_comm]
          exact (reserves_swap hReserves hSecond).sameTotals

theorem Durable.step (hDurable : s.Durable initial)
    (hSlots : initial.maxActiveChildren.toNat * maxDelegatedTokenBudget.toNat ≤ limit)
    {op : DelegationHostOp} (hWritten : s.Written op) : (s.step op).Durable initial := by
  cases op with
  | child session task thread tokens cancelled now =>
    exact hDurable.child hSlots session task thread tokens cancelled now
  | capture capturedAt now => exact hDurable.capture capturedAt now
  | record written timestamp =>
    cases hWritten
    exact hDurable.record timestamp
  | settle place settlement capturedAt now => exact hDurable.settle place settlement capturedAt now
  | finish => exact hDurable.finish
  | release => exact hDurable.release
  | drop place => exact hDurable.drop place
  | lock place index => exact hDurable.lock place index

end DelegationHost

end GolutraAgent.Client
