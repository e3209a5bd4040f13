import GolutraAgent.Client.DelegationBudget
import GolutraAgent.Client.DelegationRecovery

/-
  This file defines the host of a root task with its delegation budget. The host
  reserves for a child, and then records a checkpoint before the child starts;
  it records the checkpoint of a settlement before it enters the settlement into
  the budget. A lock of its own orders these; the drop of a lease needs no
  checkpoint, and happens at any time.

  A budget that is rebuilt refunds nothing if it has spent at least what the
  live one has spent and reserved: it then admits nothing that the live one
  refuses for its tokens or its cost.

  Main declarations:
    * `BudgetState.Reserves.sameTotals`
    * `BudgetState.release_comm`
-/

namespace GolutraAgent.Client

open Word

/-
  The call that holds the checkpoint lock, and how far it has come: the child
  has its lease; the checkpoint of that is being recorded; the checkpoint of a
  settlement is being recorded; it has been, and `finish` is next; `finish` has
  swapped the flag and waits for the lock of the budget.
-/
inductive CheckpointHolder
| reserved
| reserving (recovery : TimedDelegationRecoveryState)
| settling (place : Nat) (settlement : Settlement) (recovery : TimedDelegationRecoveryState)
| finishing (place : Nat) (settlement : Settlement)
| releasing (place : Nat)
deriving DecidableEq

namespace CheckpointHolder

/- The lease whose context the call has borrowed. -/
def place : CheckpointHolder → Option Nat
| .settling place _ _ | .finishing place _ | .releasing place => some place
| _ => none

end CheckpointHolder

/- The root context with its budget, its log and its lock. -/
structure DelegationHost where
  context : DelegationContext
  system : DelegationSystem
  journal : List DelegationEvent
  holder : Option CheckpointHolder

inductive DelegationHostOp
| child (parentSessionId : SessionId) (parentTaskId : TaskId) (parentThreadId : ThreadId)
    (requestedTokens : UInt64) (cancelled : Bool) (now : Nat)
| capture (capturedAt : Timestamp) (now : Nat)
| record (written : Bool) (timestamp : Timestamp)
| settle (place : Nat) (settlement : Settlement) (capturedAt : Timestamp) (now : Nat)
| finish
| release
| drop (place : Nat)
| lock (place index : Nat)

namespace DelegationHost

/- The event of a checkpoint, if it could be written. -/
def recorded (s : DelegationHost) (written : Bool) (timestamp : Timestamp)
    (recovery : TimedDelegationRecoveryState) : List DelegationEvent :=
  if written then s.journal ++ [⟨s.context.rootSessionId, timestamp, .checkpoint recovery⟩]
  else s.journal

/- At most one task of the host holds the checkpoint gate. -/
def step (s : DelegationHost) : DelegationHostOp → DelegationHost
| .child session task thread tokens cancelled now =>
  match s.holder with
  | none =>
    match s.context.child s.system.budget s.system.leases.length session task thread tokens
        none cancelled now with
    | .ok (_, state, lease) =>
      { s with
        system := s.system.admitted state lease
        holder := some .reserved }
    | .error _ => s
  | some _ => s
| .capture capturedAt now =>
  match s.holder with
  | some .reserved =>
    { s with holder := some (.reserving (s.context.recoveryState s.system.budget capturedAt now)) }
  | _ => s
| .record written timestamp =>
  match s.holder with
  | some (.reserving recovery) =>
    { s with
      journal := s.recorded written timestamp recovery
      holder := none }
  | some (.settling place settlement recovery) =>
    { s with
      journal := s.recorded written timestamp recovery
      holder := some (.finishing place settlement) }
  | _ => s
| .settle place settlement capturedAt now =>
  match s.holder, s.system.leases[place]? with
  | none, some record =>
    { s with
      holder := some (.settling place settlement (s.context.settlementRecoveryState s.system.budget
          (some record.lease) settlement capturedAt now)) }
  | _, _ => s
| .finish =>
  match s.holder with
  | some (.finishing place settlement) =>
    { s with
      system := s.system.called place settlement.usage
      holder :=
        match s.system.leases[place]? with
        | some record =>
          if record.lease.released then none
          else some (.releasing place)
        | none => none }
  | _ => s
| .release =>
  match s.holder with
  | some (.releasing place) =>
    { s with
      system := s.system.locked place 0
      holder := none }
  | _ => s
| .drop place =>
  -- A context that a settlement has borrowed is not dropped.
  if s.holder.bind (·.place) = some place then s
  else { s with system := s.system.called place (·.dropUsage) }
| .lock place index =>
  if s.holder = some (.releasing place) then s
  else { s with system := s.system.locked place index }

/- Every checkpoint is written. -/
def Written (_ : DelegationHost) : DelegationHostOp → Prop
| .record written _ => written = true
| _ => True

/-
  The first state of a root task: a new one, whose log says nothing yet, or one
  that was restarted, whose log begins with the state that it was given.
-/
inductive Started : DelegationHost → Prop
| configured {context : DelegationContext} {budget : DelegationBudget} (sessionId : SessionId)
    (maxElapsedMs maxCostMicrousd : Option UInt64) (maxActiveChildren : UInt64)
    (now : Nat) (hContext : DelegationContext.configured sessionId
      maxElapsedMs maxCostMicrousd maxActiveChildren now = (context, budget)) :
    Started ⟨context, .start budget, [], none⟩
| recovered {timed : TimedDelegationRecoveryState} {wallNow timestamp : Timestamp} {now : Nat}
    {context : DelegationContext} {budget : DelegationBudget}
    (hRecovered : DelegationContext.recovered timed wallNow now = .ok (context, budget))
    (hCanonical : validateCanonicalDelegationCheckpoint
      timed.state.rootSessionId timed none = .ok ()) :
    Started ⟨context, .start budget, [⟨timed.state.rootSessionId, timestamp,
        .transfer (some timed)⟩], none⟩

end DelegationHost

/-
  The rebuilt budget has spent what the live one has spent and reserved, in the
  saturating sums of the source, and it admits only what the live one would
  admit with a free slot.
-/
structure NoRefund (live rebuilt : DelegationBudget) : Prop where
  tokens : saturatingAdd live.state.spentTokens
    live.state.reservedTokens ≤ rebuilt.state.spentTokens
  output : saturatingAdd live.state.spentOutputTokens
    live.state.reservedTokens ≤ rebuilt.state.spentOutputTokens
  cost : saturatingAdd live.state.spentCostMicrousd
    live.state.reservedCostMicrousd ≤ rebuilt.state.spentCostMicrousd
  admission : ∀ tokens cost admitted, rebuilt.lockedReserve tokens cost = .ok admitted →
      (∃ result, live.lockedReserve tokens cost = .ok result) ∨
        live.lockedReserve tokens cost = .error .activeChildren

/- What a token or cost figure of the metadata guarantees. -/
def CountsOrExhausts (cap : Option UInt64) (spent reserved rebuilt : UInt64) : Prop :=
  saturatingAdd spent reserved ≤ rebuilt ∨ ∃ limit, cap = some limit ∧ limit ≤ rebuilt

/- How the source makes the budget of the restarted task. -/
inductive DelegationHost.Rebuilt (s : DelegationHost) (wallNow : Timestamp)
    (now : Nat) : DelegationBudget → Prop
| recovered {timed : TimedDelegationRecoveryState} {context : DelegationContext}
    {budget : DelegationBudget}
    (hDurable : recoveredDelegation s.journal wallNow = .ok (some timed))
    (hRecovered : DelegationContext.recovered timed wallNow now = .ok (context, budget)) :
    Rebuilt s wallNow now budget
| configured (maxElapsedMs : Option UInt64) (maxActiveChildren : UInt64)
    (hDurable : recoveredDelegation s.journal wallNow = .ok none) :
    Rebuilt s wallNow now (.configured maxElapsedMs
        s.system.budget.maxCostMicrousd maxActiveChildren now)

namespace DelegationBudget

variable {live rebuilt : DelegationBudget}

/- A budget that has committed less reserves where one that
  has committed more does. -/
theorem reservedCost_of_le (hCap : rebuilt.maxCostMicrousd = live.maxCostMicrousd)
    (hLe : (committedCost live.state).toNat ≤ (committedCost rebuilt.state).toNat)
    {requested : Option UInt64} {cost : UInt64}
    (hCost : rebuilt.reservedCost requested = .ok cost) :
    ∃ cost', live.reservedCost requested = .ok cost' := by
  unfold reservedCost at hCost ⊢
  rw [hCap] at hCost
  cases hMax : live.maxCostMicrousd with
  | none => exact ⟨_, rfl⟩
  | some cap =>
    rw [hMax] at hCost
    cases requested with
    | none =>
      dsimp only at hCost ⊢
      split at hCost
      · rename_i remaining hSub
        obtain ⟨hFits, hRemaining⟩ := checkedSub_eq_some hSub
        split at hCost
        · rename_i hPos
          rw [UInt64.lt_iff_toNat_lt] at hPos
          rw [checkedSub, if_pos (UInt64.le_iff_toNat_le.2 (by omega))]
          dsimp only
          rw [if_pos]
          · exact ⟨_, rfl⟩
          · rw [UInt64.lt_iff_toNat_lt, toNat_saturatingSub]
            omega
        · cases hCost
      · cases hCost
    | some requested =>
      dsimp only at hCost ⊢
      split at hCost
      · cases hCost
      · rename_i hFits
        rw [UInt64.not_lt, UInt64.le_iff_toNat_le, toNat_saturatingAdd] at hFits
        rw [if_neg]
        · exact ⟨_, rfl⟩
        · rw [UInt64.not_lt, UInt64.le_iff_toNat_le, toNat_saturatingAdd]
          omega

/- So it refuses only for its slots. -/
theorem lockedReserve_of_le (hTokensCap : rebuilt.maxTokens = live.maxTokens)
    (hCostCap : rebuilt.maxCostMicrousd = live.maxCostMicrousd)
    (hTokens : (committedTokens live.state).toNat ≤ (committedTokens rebuilt.state).toNat)
    (hCost : (committedCost live.state).toNat ≤ (committedCost rebuilt.state).toNat)
    {tokens : UInt64} {cost : Option UInt64} {admitted : BudgetState × DelegationLease}
    (hAdmit : rebuilt.lockedReserve tokens cost = .ok admitted) :
    (∃ result, live.lockedReserve tokens cost = .ok result) ∨
      live.lockedReserve tokens cost = .error .activeChildren := by
  obtain ⟨hAdmitted, hRequested, hReserved⟩ := lockedReserve_eq_ok hAdmit
  obtain ⟨cost', hCost'⟩ := reservedCost_of_le hCostCap hCost hReserved
  unfold lockedReserve
  split
  · exact .inr rfl
  · left
    rw [if_neg, hCost']
    · exact ⟨_, rfl⟩
    · cases hMax : live.maxTokens with
      | none => simp
      | some cap =>
        have hFits := hAdmitted.tokens cap (hTokensCap.trans hMax)
        rw [hRequested, toNat_saturatingAdd] at hFits
        rw [Option.any_some, decide_eq_true_eq,
          UInt64.not_lt, UInt64.le_iff_toNat_le, toNat_saturatingAdd]
        omega

end DelegationBudget

namespace BudgetState

variable (state : BudgetState)

/- What has been spent and reserved, up to saturation. -/
def tokenTotal : Nat := min (state.spentTokens.toNat + state.reservedTokens.toNat) limit

def outputTotal : Nat := min (state.spentOutputTokens.toNat + state.reservedTokens.toNat) limit

def costTotal : Nat := min (state.spentCostMicrousd.toNat + state.reservedCostMicrousd.toNat) limit

structure SameTotals (state state' : BudgetState) : Prop where
  tokens : state.tokenTotal = state'.tokenTotal
  output : state.outputTotal = state'.outputTotal
  cost : state.costTotal = state'.costTotal

/- The reservation of a lease is part of what is reserved. -/
structure Reserves (state : BudgetState) (lease : DelegationLease) : Prop where
  tokens : lease.requestedTokens.toNat ≤ state.reservedTokens.toNat
  cost : lease.requestedCostMicrousd.toNat ≤ state.reservedCostMicrousd.toNat

/- A dropped lease has spent what it had reserved. -/
theorem Reserves.sameTotals {state : BudgetState} {lease : DelegationLease}
    (hReserves : state.Reserves lease) :
    SameTotals (state.release lease lease.dropUsage) state := by
  obtain ⟨hTokens, hCost⟩ := hReserves
  constructor
  · simp only [tokenTotal, release, DelegationLease.dropUsage,
      toNat_saturatingAdd, toNat_saturatingSub]
    omega
  · simp only [outputTotal, release,
      DelegationLease.dropUsage, toNat_saturatingAdd, toNat_saturatingSub]
    omega
  · simp only [costTotal, release, DelegationLease.dropUsage,
      toNat_saturatingAdd, toNat_saturatingSub]
    omega

theorem release_comm (state : BudgetState) (lease lease' : DelegationLease)
    (actual actual' : Usage) : (state.release lease actual).release lease' actual' =
      (state.release lease' actual').release lease actual := by
  have hAdd := saturatingAdd_right_comm
  have hSub : ∀ a b c : UInt64, saturatingSub (saturatingSub a b) c =
        saturatingSub (saturatingSub a c) b := by
    intro a b c
    apply UInt64.toNat.inj
    simp only [toNat_saturatingSub]
    omega
  simp only [release, mk.injEq, true_and]
  exact ⟨hSub _ _ _, hAdd _ _ _, hAdd _ _ _, hSub _ _ _, hAdd _ _ _⟩

/- A checkpoint predicts what a settlement leaves. -/
theorem reservedAsSpent_release (state : BudgetState) (lease : DelegationLease) (actual : Usage) :
    (state.release lease actual).reservedAsSpent = state.settledAsSpent lease actual := by
  have hAdd := saturatingAdd_right_comm
  simp only [reservedAsSpent, settledAsSpent, release, RecoveryFigures.mk.injEq, and_true]
  exact ⟨hAdd _ _ _, hAdd _ _ _, hAdd _ _ _⟩

end BudgetState

namespace LeaseRecord

variable {record : LeaseRecord}

theorem call_of_released (hReleased : record.lease.released = true)
    (actual : Usage) : record.call actual = { record with calls := record.calls + 1 } := by
  simp [LeaseRecord.call, hReleased]

/- The first call is the only one that waits. -/
theorem Sound.call_of_unreleased (hSound : record.Sound)
    (hReleased : record.lease.released = false) (actual : Usage) :
    record.settled = [] ∧ record.call actual = { record with
        lease := { record.lease with released := true }
        calls := record.calls + 1
        waiting := [actual] } := by
  have hCalls : ¬ 0 < record.calls := by
    intro hPos
    rw [hSound.released, decide_eq_false_iff_not] at hReleased
    exact hReleased hPos
  have hOnce := hSound.once
  have hWaiting : record.waiting = [] := List.eq_nil_of_length_eq_zero (by omega)
  have hSettled : record.settled = [] := List.eq_nil_of_length_eq_zero (by omega)
  refine ⟨hSettled, ?_⟩
  simp [LeaseRecord.call, hReleased, hWaiting]

end LeaseRecord

namespace DelegationSystem

variable {s : DelegationSystem}

variable {place : Nat}

theorem called_of_none (hNone : s.leases[place]? = none)
    (actual : DelegationLease → Usage) : s.called place actual = s := by
  unfold called
  rw [hNone]

theorem called_find_self {record : LeaseRecord} (hRecord : s.leases[place]? = some record)
    (actual : DelegationLease → Usage) :
    (s.called place actual).leases[place]? = some (record.call (actual record.lease)) := by
  unfold called
  rw [hRecord]
  exact List.getElem?_set_self (List.getElem?_eq_some_iff.1 hRecord).1

theorem called_find_other {place other : Nat} (hNe : other ≠ place)
    (actual : DelegationLease → Usage) :
    (s.called place actual).leases[other]? = s.leases[other]? := by
  unfold called
  split
  · exact List.getElem?_set_ne hNe.symm
  · rfl

end DelegationSystem

/- So it is the state that is captured once it is settled. -/
theorem DelegationContext.settlementRecoveryState_eq {context : DelegationContext}
    {budget : DelegationBudget} {lease : DelegationLease} (hOutstanding : lease.released = false)
    (settlement : Settlement) (capturedAt : Timestamp) (now : Nat) :
    context.settlementRecoveryState budget (some lease) settlement capturedAt now =
      context.recoveryState { budget with
          state := budget.state.release lease (settlement.usage lease) } capturedAt now := by
  simp only [settlementRecoveryState, recoveryState, recoveryStateWithSettlement,
    BudgetState.recoveryFigures, hOutstanding, BudgetState.reservedAsSpent_release]
  rfl

/- A lease that is outstanding is settled by one `finish`. -/
theorem DelegationSystem.finish_settles {s : DelegationSystem} {place : Nat}
    {record : LeaseRecord} (hRecord : s.leases[place]? = some record) (hSound : record.Sound)
    (hOutstanding : record.lease.released = false) (settlement : Settlement) :
    ((s.step (.finish place settlement.actualTokens settlement.actualCostMicrousd
        settlement.actualOutputTokens)).step (.lock place 0)).budget =
      { s.budget with
        state := s.budget.state.release record.lease (settlement.usage record.lease) } := by
  have hCalled := called_find_self hRecord settlement.usage
  rw [(hSound.call_of_unreleased hOutstanding _).2] at hCalled
  change (locked (s.called place settlement.usage) place 0).budget = _
  simp only [locked, hCalled, withState, called_budget]
  rfl

/-
  The checkpoint that is recorded before an outstanding lease is settled is the
  state that is captured right after. Both are read at one instant of the
  clocks.
-/
theorem settlement_writtenAhead {budget : DelegationBudget} (hBuilt : budget.Built)
    (ops : List DelegationOp) {place : Nat} (record : LeaseRecord)
    (hRecord : (Machine.run DelegationSystem.step (.start budget) ops).leases[place]? = some record)
    (hOutstanding : record.lease.released = false) (context : DelegationContext)
    (settlement : Settlement) (capturedAt : Timestamp) (now : Nat) :
    context.settlementRecoveryState (Machine.run DelegationSystem.step (.start budget) ops).budget
        (some record.lease) settlement capturedAt now =
      context.recoveryState (Machine.run DelegationSystem.step (.start budget)
          (ops ++ [.finish place settlement.actualTokens settlement.actualCostMicrousd
              settlement.actualOutputTokens,
            .lock place 0])).budget
        capturedAt now := by
  have hBooks := Machine.run_invariant_of_step (fun s op (hBooks : s.Accounted budget) =>
      hBooks.step op) hBuilt.accounted ops
  have hSound := hBooks.leases record (List.mem_of_getElem? hRecord)
  rw [Machine.run_append, Machine.run_cons, Machine.run_cons,
    Machine.run_nil, DelegationSystem.finish_settles hRecord hSound hOutstanding]
  exact DelegationContext.settlementRecoveryState_eq hOutstanding settlement capturedAt now

/- A child that spends more than it reserved. -/
theorem overspent_writtenAhead :
    (DelegationContext.configured ⟨⟨0⟩⟩ none none 2 0).1.settlementRecoveryState
      (Machine.run DelegationSystem.step (.start (cappedBudget 100))
        [.reserve 600 (some 70) false 0]).budget
      (some ⟨600, 70, false⟩) ⟨900, none, none⟩ ⟨0⟩ 0 =
    (DelegationContext.configured ⟨⟨0⟩⟩ none none 2 0).1.recoveryState
      (Machine.run DelegationSystem.step (.start (cappedBudget 100))
        [.reserve 600 (some 70) false 0, .finish 0 900 none none, .lock 0 0]).budget
      ⟨0⟩ 0 :=
  settlement_writtenAhead (cappedBudget_built 100) [.reserve 600 (some 70) false 0]
    (.fresh ⟨600, 70, false⟩) rfl rfl _ ⟨900, none, none⟩ ⟨0⟩ 0

end GolutraAgent.Client
