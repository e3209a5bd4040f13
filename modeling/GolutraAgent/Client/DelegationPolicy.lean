import GolutraAgent.Library.Accounting
import GolutraAgent.Core.Ids

/-
  This file defines the budget that a root task shares with its delegated
  children, and the contexts through which they reach it. A child is admitted
  with a lease, which reserves tokens and cost; the lease settles once, with the
  usage that was reported for the child or with its own reservation.

  The counters are 64-bit words with saturating arithmetic, as in the source. A
  call reads the monotonic clock once; the reading `now` is an argument, in
  nanoseconds, and so is whether one of the cancellation tokens has been
  cancelled.
-/

namespace GolutraAgent.Client

open Word

def maxDelegationDepth : Nat := 1

def defaultDelegatedActiveChildren : UInt64 := 10

def maxDelegatedTokenBudget : UInt64 := 128000

inductive DelegationLimit
| cancelled
| elapsed
| depth
| activeChildren
| tokenBudget
| costBudget
deriving DecidableEq

structure BudgetState where
  activeChildren : UInt64
  startedChildren : UInt64
  reservedTokens : UInt64
  spentTokens : UInt64
  spentOutputTokens : UInt64
  reservedCostMicrousd : UInt64
  spentCostMicrousd : UInt64
deriving DecidableEq

structure DelegationBudget where
  maxActiveChildren : UInt64
  deadline : Option Nat
  maxTokens : Option UInt64
  maxCostMicrousd : Option UInt64
  state : BudgetState

structure DelegationLease where
  requestedTokens : UInt64
  requestedCostMicrousd : UInt64
  released : Bool
deriving DecidableEq

/- The instant that is `ms` milliseconds later. -/
def afterMs (now : Nat) (ms : UInt64) : Nat := now + ms.toNat * 1000000

/- The whole milliseconds until an instant. -/
def msUntil (deadline now : Nat) : UInt64 := UInt64.ofNat (min ((deadline - now) / 1000000) limit)

namespace DelegationBudget

def configured (maxElapsedMs : Option UInt64) (maxCostMicrousd : Option UInt64)
    (maxActiveChildren : UInt64) (now : Nat) : DelegationBudget where
  maxActiveChildren := Max.max maxActiveChildren 1
  deadline := maxElapsedMs.map (afterMs now)
  maxTokens := none
  maxCostMicrousd := maxCostMicrousd
  state := ⟨0, 0, 0, 0, 0, 0, 0⟩

variable (budget : DelegationBudget) (now : Nat)

def remainingElapsedMs : Option UInt64 := budget.deadline.map (msUntil · now)

def isExpired : Bool := budget.remainingElapsedMs now = some 0

/- What the output tokens and the cost have been committed. -/
def committedTokens (state : BudgetState) : UInt64 :=
  saturatingAdd state.spentOutputTokens state.reservedTokens

def committedCost (state : BudgetState) : UInt64 :=
  saturatingAdd state.spentCostMicrousd state.reservedCostMicrousd

/-
  The cost that a lease reserves. Without an estimate it is all that remains
  under the cap.
-/
def reservedCost (budget : DelegationBudget)
    (requestedCostMicrousd : Option UInt64) : Except DelegationLimit UInt64 :=
  match budget.maxCostMicrousd, requestedCostMicrousd with
  | some maxCost, none =>
    match checkedSub maxCost (committedCost budget.state) with
    | some remaining =>
      if 0 < remaining then .ok remaining
      else .error .costBudget
    | none => .error .costBudget
  | some maxCost, some requested =>
    if maxCost < saturatingAdd (committedCost budget.state) requested then .error .costBudget
    else .ok requested
  | none, requested => .ok (requested.getD 0)

/- The tokens that a lease reserves. -/
def clampTokens (requestedTokens : UInt64) : UInt64 :=
  min (Max.max requestedTokens 1) maxDelegatedTokenBudget

/- A lease with its reservation entered into the counters. -/
def enter (state : BudgetState) (requestedTokens requestedCostMicrousd : UInt64) : BudgetState :=
  { state with
    activeChildren := saturatingAdd state.activeChildren 1
    startedChildren := saturatingAdd state.startedChildren 1
    reservedTokens := saturatingAdd state.reservedTokens requestedTokens
    reservedCostMicrousd := saturatingAdd state.reservedCostMicrousd requestedCostMicrousd }

variable (budget : DelegationBudget) (requestedTokens : UInt64)
variable (requestedCostMicrousd : Option UInt64)

/- The part of `reserve` under the lock of the state. -/
def lockedReserve : Except DelegationLimit (BudgetState × DelegationLease) :=
  if budget.maxActiveChildren ≤ budget.state.activeChildren then .error .activeChildren
  else if budget.maxTokens.any (fun max =>
      decide (max < saturatingAdd (committedTokens budget.state) requestedTokens)) then
    .error .tokenBudget
  else
    match budget.reservedCost requestedCostMicrousd with
    | .error limit => .error limit
    | .ok cost =>
      .ok (enter budget.state requestedTokens cost,
        { requestedTokens
          requestedCostMicrousd := cost
          released := false })

def reserve (cancelled : Bool) (now : Nat) :
    Except DelegationLimit (BudgetState × DelegationLease) :=
  if cancelled then .error .cancelled
  else if budget.isExpired now then .error .elapsed
  else budget.lockedReserve (clampTokens requestedTokens) requestedCostMicrousd

end DelegationBudget

/- The figures that a lease settles with. -/
structure Usage where
  tokens : UInt64
  costMicrousd : UInt64
  outputTokens : UInt64
deriving DecidableEq

namespace DelegationLease

variable (lease : DelegationLease)

/- A missing cost counts as the reservation. -/
def finishUsage (actualTokens : UInt64) (actualCostMicrousd actualOutputTokens :
      Option UInt64) : Usage where
  tokens := actualTokens
  costMicrousd := actualCostMicrousd.getD lease.requestedCostMicrousd
  outputTokens := actualOutputTokens.getD actualTokens

/- A lease that is dropped has used all it reserved. -/
def dropUsage : Usage where
  tokens := lease.requestedTokens
  costMicrousd := lease.requestedCostMicrousd
  outputTokens := lease.requestedTokens

end DelegationLease

/- The part of `release` under the lock of the state. -/
def BudgetState.release (state : BudgetState) (lease : DelegationLease)
    (actual : Usage) : BudgetState :=
  { state with
    activeChildren := saturatingSub state.activeChildren 1
    reservedTokens := saturatingSub state.reservedTokens lease.requestedTokens
    reservedCostMicrousd := saturatingSub state.reservedCostMicrousd lease.requestedCostMicrousd
    spentTokens := saturatingAdd state.spentTokens actual.tokens
    spentOutputTokens := saturatingAdd state.spentOutputTokens actual.outputTokens
    spentCostMicrousd := saturatingAdd state.spentCostMicrousd actual.costMicrousd }

structure DelegationRecoveryState where
  maxActiveChildren : UInt64
  rootSessionId : SessionId
  parentSessionId : Option SessionId
  parentTaskId : Option TaskId
  parentThreadId : Option ThreadId
  depth : Nat
  remainingElapsedMs : Option UInt64
  localRemainingElapsedMs : Option UInt64
  maxTokens : Option UInt64
  maxCostMicrousd : Option UInt64
  startedChildren : UInt64
  spentTokens : UInt64
  spentOutputTokens : Option UInt64
  spentCostMicrousd : UInt64
deriving DecidableEq

structure TimedDelegationRecoveryState where
  capturedAt : Timestamp
  state : DelegationRecoveryState
deriving DecidableEq

namespace TimedDelegationRecoveryState

/- The whole milliseconds from one instant to a later one. -/
def elapsedMs (capturedAt now : Timestamp) : UInt64 := UInt64.ofNat
    (min ((now.nanos - capturedAt.nanos) / 1000000).toNat limit)

/- A state from the future has no time left. -/
def refreshed (recovered : TimedDelegationRecoveryState)
    (now : Timestamp) : TimedDelegationRecoveryState :=
  let left : UInt64 → UInt64 :=
    if now.nanos < recovered.capturedAt.nanos then fun _ => 0
    else (saturatingSub ·
      (elapsedMs recovered.capturedAt now))
  { capturedAt := now
    state :=
      { recovered.state with
        remainingElapsedMs := recovered.state.remainingElapsedMs.map left
        localRemainingElapsedMs := recovered.state.localRemainingElapsedMs.map left } }

end TimedDelegationRecoveryState

/-
  A context names its lease by its place among the leases of the budget. The
  budget is shared, and an argument below.
-/
structure DelegationContext where
  rootSessionId : SessionId
  parentSessionId : Option SessionId
  parentTaskId : Option TaskId
  parentThreadId : Option ThreadId
  depth : Nat
  localDeadline : Option Nat
  lease : Option Nat

def earliestRemaining : Option UInt64 → Option UInt64 → Option UInt64
| some here, some root => some (min here root)
| here, root => here.or root

/- A child leaves a quarter of the time to its parent. -/
def delegatedChildElapsedMs (parentRemainingElapsedMs : UInt64) : UInt64 :=
  if parentRemainingElapsedMs ≤ 1 then parentRemainingElapsedMs
  else
    Max.max (saturatingSub parentRemainingElapsedMs (saturatingAdd parentRemainingElapsedMs 3 / 4))
      1

namespace DelegationContext

def configured (sessionId : SessionId) (maxElapsedMs maxCostMicrousd : Option UInt64)
    (maxActiveChildren : UInt64) (now : Nat) : DelegationContext × DelegationBudget :=
  let budget := DelegationBudget.configured maxElapsedMs maxCostMicrousd maxActiveChildren now
  ({ rootSessionId := sessionId
     parentSessionId := none
     parentTaskId := none
     parentThreadId := none
     depth := 0
     localDeadline := budget.deadline
     lease := none }, budget)

/- The budget of a durable state: nothing is reserved. -/
def recoveredBudget (recovered : DelegationRecoveryState) (now : Nat) : DelegationBudget where
  maxActiveChildren := recovered.maxActiveChildren
  deadline := recovered.remainingElapsedMs.map (afterMs now)
  maxTokens := recovered.maxTokens
  maxCostMicrousd := recovered.maxCostMicrousd
  state :=
    { activeChildren := 0
      startedChildren := recovered.startedChildren
      reservedTokens := 0
      spentTokens := recovered.spentTokens
      spentOutputTokens := recovered.spentOutputTokens.getD recovered.spentTokens
      reservedCostMicrousd := 0
      spentCostMicrousd := recovered.spentCostMicrousd }

def recovered (timed : TimedDelegationRecoveryState) (wallNow : Timestamp)
    (now : Nat) : Except String (DelegationContext × DelegationBudget) :=
  let recovered := (timed.refreshed wallNow).state
  let localRemainingElapsedMs := earliestRemaining recovered.localRemainingElapsedMs
    recovered.remainingElapsedMs
  if maxDelegationDepth < recovered.depth then
    .error "recovered delegation depth exceeds the supported maximum"
  else if recovered.maxTokens = some 0 then .error "recovered delegation token budget is invalid"
  else if recovered.maxActiveChildren = 0 then
    .error "recovered delegated concurrency must be positive"
  else
    .ok ({ rootSessionId := recovered.rootSessionId
           parentSessionId := recovered.parentSessionId
           parentTaskId := recovered.parentTaskId
           parentThreadId := recovered.parentThreadId
           depth := recovered.depth
           localDeadline := localRemainingElapsedMs.map (afterMs now)
           lease := none }, recoveredBudget recovered now)

variable (context : DelegationContext)

def remainingElapsedMs (budget : DelegationBudget) (now : Nat) : Option UInt64 :=
  earliestRemaining (context.localDeadline.map (msUntil · now)) (budget.remainingElapsedMs now)

/- The context of a child with the lease at `place`. -/
def childContext (place : Nat) (parentSessionId : SessionId) (parentTaskId : TaskId)
    (parentThreadId : ThreadId) (parentRemainingElapsedMs : Option UInt64) (now : Nat) :
    DelegationContext where
  rootSessionId := context.rootSessionId
  parentSessionId := some parentSessionId
  parentTaskId := some parentTaskId
  parentThreadId := some parentThreadId
  depth := context.depth + 1
  localDeadline := (parentRemainingElapsedMs.map delegatedChildElapsedMs).map (afterMs now)
  lease := some place

def child (budget : DelegationBudget) (place : Nat) (parentSessionId : SessionId)
    (parentTaskId : TaskId) (parentThreadId : ThreadId) (requestedTokens : UInt64)
    (requestedCostMicrousd : Option UInt64) (cancelled : Bool) (now : Nat) :
    Except DelegationLimit (DelegationContext × BudgetState × DelegationLease) :=
  let parentRemainingElapsedMs := context.remainingElapsedMs budget now
  if maxDelegationDepth ≤ context.depth then .error .depth
  else if parentRemainingElapsedMs = some 0 then .error .elapsed
  else
    match budget.reserve requestedTokens requestedCostMicrousd cancelled now with
    | .error limit => .error limit
    | .ok (state, lease) =>
      .ok (context.childContext place parentSessionId parentTaskId parentThreadId
        parentRemainingElapsedMs now, state, lease)

end DelegationContext

end GolutraAgent.Client
