import GolutraAgent.Client.DelegationPolicy

/-
  This file defines what is kept of a delegation budget for the time after a
  crash, and how it is read back. The host records a checkpoint of the budget
  for its root task when it has reserved for a child and before it settles one;
  the task of a child carries the metadata of its own context. In both a
  reservation counts as spent.

  Of an event of the log only what bears on delegation is kept: the session, the
  instant, and the delegation state that it transfers, the metadata of a task
  that it starts, or the checkpoint that it records.
-/

namespace GolutraAgent.Client

open Word

/- The usage that is reported for a child. -/
structure Settlement where
  actualTokens : UInt64
  actualCostMicrousd : Option UInt64
  actualOutputTokens : Option UInt64
deriving DecidableEq

/- The figures that the child then settles with. -/
def Settlement.usage (settlement : Settlement) (lease : DelegationLease) : Usage :=
  lease.finishUsage settlement.actualTokens settlement.actualCostMicrousd
    settlement.actualOutputTokens

/- What counts as spent, and the children left unsettled. -/
structure RecoveryFigures where
  spentTokens : UInt64
  spentCostMicrousd : UInt64
  spentOutputTokens : UInt64
  unsettledChildren : UInt64

namespace BudgetState

variable (state : BudgetState)

/- All reservations count as spent. -/
def reservedAsSpent : RecoveryFigures where
  spentTokens := saturatingAdd state.spentTokens state.reservedTokens
  spentCostMicrousd := DelegationBudget.committedCost state
  spentOutputTokens := DelegationBudget.committedTokens state
  unsettledChildren := state.activeChildren

/- The usage of one lease takes the place of what it holds. -/
def settledAsSpent (lease : DelegationLease) (actual : Usage) : RecoveryFigures where
  spentTokens := saturatingAdd (saturatingAdd state.spentTokens
        (saturatingSub state.reservedTokens lease.requestedTokens))
      actual.tokens
  spentCostMicrousd := saturatingAdd (saturatingAdd state.spentCostMicrousd
        (saturatingSub state.reservedCostMicrousd lease.requestedCostMicrousd))
      actual.costMicrousd
  spentOutputTokens := saturatingAdd (saturatingAdd state.spentOutputTokens
        (saturatingSub state.reservedTokens lease.requestedTokens))
      actual.outputTokens
  unsettledChildren := saturatingSub state.activeChildren 1

def recoveryFigures (lease : Option DelegationLease)
    (settlement : Option Settlement) : RecoveryFigures :=
  match lease, settlement with
  | some lease, some settlement =>
    if lease.released then state.reservedAsSpent
    else state.settledAsSpent lease (settlement.usage lease)
  | _, _ => state.reservedAsSpent

end BudgetState

/-
  While a child is unsettled its usage may exceed what it reserved, so that all
  of the cap counts as spent.
-/
def exhaust (unsettled : Bool) (cap : Option UInt64) (spent : UInt64) : UInt64 :=
  match unsettled, cap with
  | true, some cap => Max.max spent cap
  | _, _ => spent

namespace DelegationContext

variable (context : DelegationContext) (budget : DelegationBudget)

def recoveryStateWithSettlement (lease : Option DelegationLease) (settlement : Option Settlement)
    (capturedAt : Timestamp) (now : Nat) : TimedDelegationRecoveryState :=
  let figures := budget.state.recoveryFigures lease settlement
  let unsettled := decide (0 < figures.unsettledChildren)
  let remainingElapsedMs := budget.remainingElapsedMs now
  { capturedAt
    state :=
      { maxActiveChildren := budget.maxActiveChildren
        rootSessionId := context.rootSessionId
        parentSessionId := none
        parentTaskId := none
        parentThreadId := none
        depth := 0
        remainingElapsedMs
        localRemainingElapsedMs := remainingElapsedMs
        maxTokens := budget.maxTokens
        maxCostMicrousd := budget.maxCostMicrousd
        startedChildren := budget.state.startedChildren
        spentTokens := exhaust unsettled budget.maxTokens figures.spentTokens
        spentOutputTokens := some (exhaust unsettled budget.maxTokens figures.spentOutputTokens)
        spentCostMicrousd := exhaust unsettled budget.maxCostMicrousd figures.spentCostMicrousd } }

def recoveryState (capturedAt : Timestamp) (now : Nat) : TimedDelegationRecoveryState :=
  context.recoveryStateWithSettlement budget none none capturedAt now

/- The context of a child is asked with its own lease. -/
def settlementRecoveryState (lease : Option DelegationLease) (settlement : Settlement)
    (capturedAt : Timestamp) (now : Nat) : TimedDelegationRecoveryState :=
  context.recoveryStateWithSettlement budget lease (some settlement) capturedAt now

end DelegationContext

def wordJson (word : UInt64) : Json.Value := .number (.posInt word.toNat)

def optionalWordJson : Option UInt64 → Json.Value
| some word => wordJson word
| none => .null

def DelegationBudget.snapshot (budget : DelegationBudget) (now : Nat) : Json.Value :=
  let state := budget.state
  .object [("remaining_elapsed_ms", optionalWordJson (budget.remainingElapsedMs now)),
      ("max_depth", .number (.posInt maxDelegationDepth)),
      ("max_active_children", wordJson budget.maxActiveChildren),
      ("active_children", wordJson state.activeChildren),
      ("started_children", wordJson state.startedChildren),
      ("max_tokens", optionalWordJson budget.maxTokens),
      ("reserved_tokens", wordJson state.reservedTokens),
      ("spent_tokens", wordJson state.spentTokens),
      ("spent_output_tokens", wordJson state.spentOutputTokens),
      ("token_admission_committed", wordJson (committedTokens state)), ("token_admission_remaining",
        optionalWordJson (budget.maxTokens.map (saturatingSub · (committedTokens state)))),
      ("token_budget_semantics", .string "aggregate_output_reservation"),
      ("spent_tokens_are_usage_accounting", .bool true),
      ("max_cost_microusd", optionalWordJson budget.maxCostMicrousd),
      ("reserved_cost_microusd", wordJson state.reservedCostMicrousd),
      ("spent_cost_microusd", wordJson state.spentCostMicrousd),
      ("cost_admission_committed", wordJson (committedCost state)), ("cost_admission_remaining",
        optionalWordJson (budget.maxCostMicrousd.map (saturatingSub · (committedCost state))))]

def DelegationContext.metadata (context : DelegationContext)
    (budget : DelegationBudget) (now : Nat) : Json.Value :=
  .object [("root_session_id", Id.codec.encode context.rootSessionId),
      ("parent_session_id", Id.codec.nullable context.parentSessionId),
      ("parent_task_id", Id.codec.nullable context.parentTaskId),
      ("parent_thread_id", Id.codec.nullable context.parentThreadId),
      ("depth", .number (.posInt context.depth)),
      ("local_remaining_elapsed_ms", optionalWordJson (context.remainingElapsedMs budget now)),
      ("budget", budget.snapshot now)]

namespace DelegationMetadata

def word (value : Json.Value) : Option UInt64 := value.asU64.map UInt64.ofNat

variable (budget : Json.Value) (key : String)

def parseBudget : Except String UInt64 :=
  match (budget.get key).bind word with
  | some n => .ok n
  | none => .error ("delegation recovery metadata is missing numeric field `" ++ key ++ "`")

def optionalBudget : Except String (Option UInt64) :=
  match budget.get key with
  | some .null => .ok none
  | _ => (parseBudget budget key).map some

def optionalId {kind : IdKind} (metadata : Json.Value)
    (key : String) : Except String (Option (Id kind)) :=
  match metadata.get key with
  | none | some .null => .ok none
  | some value =>
    match Id.codec.decode value with
    | some id => .ok (some id)
    | none => .error ("delegation recovery metadata has an invalid `" ++ key ++ "`")

def rootSessionId (metadata : Json.Value) : Except String SessionId :=
  match metadata.get "root_session_id" with
  | none => .error "delegation recovery metadata is missing root_session_id"
  | some value =>
    match Id.codec.decode value with
    | some id => .ok id
    | none => .error "delegation recovery metadata has an invalid root_session_id"

def maxActiveChildren (budget : Json.Value) : Except String UInt64 :=
  match budget.get "max_active_children" with
  | none => .ok defaultDelegatedActiveChildren
  | some _ => do
      let n ← parseBudget budget "max_active_children"
      if 0 < n then .ok n
      else .error "invalid recovered child concurrency"

/- The depth stands beside the budget, in old data inside. -/
def depth (metadata budget : Json.Value) : Except String Nat :=
  match ((metadata.get "depth").bind (·.asU64)).or ((budget.get "depth").bind (·.asU64)) with
  | none => .error "delegation recovery metadata is missing numeric field `depth`"
  | some n =>
    if n < 256 then .ok n
    else .error "delegation recovery metadata depth is out of range"

def maxCost (budget : Json.Value) : Except String (Option UInt64) :=
  match budget.get "max_cost_microusd" with
  | none | some .null => .ok none
  | some value =>
    match word value with
    | some n => .ok (some n)
    | none =>
      .error "delegation recovery metadata has an invalid max_cost_microusd: expected u64"

def spentOutput (budget : Json.Value) : Except String (Option UInt64) :=
  match budget.get "spent_output_tokens" with
  | none => .ok none
  | some _ => (parseBudget budget "spent_output_tokens").map some

variable (unsettled : Bool) (cap : Option UInt64) (spent reserved : UInt64)

/-
  The tokens that count as spent. An unsettled reservation exhausts the cap, and
  counts itself if there is none.
-/
def recoveredTokens : UInt64 :=
  match unsettled, cap with
  | true, some cap => Max.max spent cap
  | _, _ => saturatingAdd spent reserved

/- Without a cap an unsettled cost is not counted. -/
def recoveredCost : UInt64 :=
  match unsettled, cap with
  | true, some cap => Max.max spent cap
  | true, none => spent
  | false, _ => saturatingAdd spent reserved

end DelegationMetadata

open DelegationMetadata in
/- Absent figures have defaults, malformed ones fail. -/
def delegationRecoveryFromMetadata (metadata : Json.Value) (capturedAt : Timestamp) :
    Except String TimedDelegationRecoveryState := do
  let budget := (metadata.get "budget").getD metadata
  let root ← rootSessionId metadata
  let reservedTokens ← parseBudget budget "reserved_tokens"
  let reservedCost ← parseBudget budget "reserved_cost_microusd"
  let activeChildren ← parseBudget budget "active_children"
  let maxTokens ← optionalBudget budget "max_tokens"
  let spentTokens ← parseBudget budget "spent_tokens"
  let spentOutputTokens ← spentOutput budget
  let spentCost ← parseBudget budget "spent_cost_microusd"
  let unsettled := decide (0 < activeChildren) ||
    decide (0 < reservedTokens) || decide (0 < reservedCost)
  let active ← maxActiveChildren budget
  let parentSession ← optionalId metadata "parent_session_id"
  let parentTask ← optionalId metadata "parent_task_id"
  let parentThread ← optionalId metadata "parent_thread_id"
  let level ← depth metadata budget
  let remaining ← optionalBudget budget "remaining_elapsed_ms"
  let cost ← maxCost budget
  let started ← parseBudget budget "started_children"
  return {
    capturedAt
    state :=
      { maxActiveChildren := active
        rootSessionId := root
        parentSessionId := parentSession
        parentTaskId := parentTask
        parentThreadId := parentThread
        depth := level
        remainingElapsedMs := remaining
        localRemainingElapsedMs := (metadata.get "local_remaining_elapsed_ms").bind word
        maxTokens
        maxCostMicrousd := cost
        startedChildren := started
        spentTokens := recoveredTokens unsettled maxTokens spentTokens reservedTokens
        spentOutputTokens := spentOutputTokens.map (recoveredTokens unsettled maxTokens ·
            reservedTokens)
        spentCostMicrousd := recoveredCost unsettled ((budget.get "max_cost_microusd").bind word)
          spentCost reservedCost } }

namespace DelegationMetadata

theorem word_wordJson (n : UInt64) : word (wordJson n) = some n := by
  simp [word, wordJson, Json.Value.asU64]

variable {budget : Json.Value} {key : String}

theorem parseBudget_of_get {n : UInt64}
    (hGet : budget.get key = some (wordJson n)) : parseBudget budget key = .ok n := by
  unfold parseBudget
  rw [hGet, Option.bind_some, word_wordJson]

variable {n : Option UInt64}

theorem optionalBudget_of_get
    (hGet : budget.get key = some (optionalWordJson n)) : optionalBudget budget key = .ok n := by
  unfold optionalBudget
  cases n with
  | none =>
    rw [hGet]
    rfl
  | some n =>
    rw [parseBudget_of_get hGet, hGet]
    rfl

theorem maxCost_of_get (hGet : budget.get "max_cost_microusd" = some (optionalWordJson n)) :
    maxCost budget = .ok n ∧ (budget.get "max_cost_microusd").bind word = n := by
  unfold maxCost
  rw [hGet]
  cases n with
  | none => exact ⟨rfl, rfl⟩
  | some n =>
    have hWord := word_wordJson n
    unfold wordJson at hWord
    simp [optionalWordJson, wordJson, hWord]

variable {metadata : Json.Value}

theorem optionalId_of_get {kind : IdKind} {id : Option (Id kind)}
    (hGet : metadata.get key = some (Id.codec.nullable id)) : optionalId metadata key = .ok id := by
  unfold optionalId
  cases id with
  | none =>
    rw [hGet]
    rfl
  | some id =>
    rw [hGet]
    dsimp only [Json.Codec.nullable]
    split
    · next hNone => cases hNone
    · next hNull => exact absurd (Option.some.inj hNull) (Id.codec.encode_ne_null id)
    · rename_i value hSome
      cases hSome
      rw [Id.codec.decode_encode]

theorem rootSessionId_of_get {id : SessionId} (hGet : metadata.get "root_session_id" =
      some (Id.codec.encode id)) : rootSessionId metadata = .ok id := by
  unfold rootSessionId
  rw [hGet]
  dsimp only
  rw [Id.codec.decode_encode]

theorem maxActiveChildren_of_get {n : UInt64} (hGet : budget.get "max_active_children" =
      some (wordJson n))
    (hPos : 0 < n) : maxActiveChildren budget = .ok n := by
  unfold maxActiveChildren
  rw [parseBudget_of_get hGet, hGet]
  exact if_pos hPos

end DelegationMetadata

/- Whether a budget has a reservation that is not settled. -/
def BudgetState.unsettled (state : BudgetState) : Bool :=
  decide (0 < state.activeChildren) || decide (0 < state.reservedTokens) ||
    decide (0 < state.reservedCostMicrousd)

open DelegationMetadata in
/- What is read back from the metadata of a context. -/
theorem delegationRecoveryFromMetadata_metadata (context : DelegationContext)
    {budget : DelegationBudget} (hDepth : context.depth < 256)
    (hActive : 0 < budget.maxActiveChildren) (now : Nat) (capturedAt : Timestamp) :
    delegationRecoveryFromMetadata (context.metadata budget now) capturedAt = .ok
        { capturedAt
          state :=
            { maxActiveChildren := budget.maxActiveChildren
              rootSessionId := context.rootSessionId
              parentSessionId := context.parentSessionId
              parentTaskId := context.parentTaskId
              parentThreadId := context.parentThreadId
              depth := context.depth
              remainingElapsedMs := budget.remainingElapsedMs now
              localRemainingElapsedMs := (optionalWordJson (context.remainingElapsedMs
                  budget now)).asU64.map UInt64.ofNat
              maxTokens := budget.maxTokens
              maxCostMicrousd := budget.maxCostMicrousd
              startedChildren := budget.state.startedChildren
              spentTokens := recoveredTokens budget.state.unsettled budget.maxTokens
                budget.state.spentTokens budget.state.reservedTokens
              spentOutputTokens := some (recoveredTokens budget.state.unsettled budget.maxTokens
                budget.state.spentOutputTokens budget.state.reservedTokens)
              spentCostMicrousd := recoveredCost budget.state.unsettled budget.maxCostMicrousd
                budget.state.spentCostMicrousd budget.state.reservedCostMicrousd } } := by
  -- every field is read back as it was written
  have hBudget : ((context.metadata budget now).get "budget").getD (context.metadata budget now) =
        budget.snapshot now := rfl
  have hWord := fun key n => @parseBudget_of_get (budget.snapshot now) key n
  have hOptional := fun key n => @optionalBudget_of_get (budget.snapshot now) key n
  have hId := fun key kind id => @optionalId_of_get key (context.metadata budget now) kind id
  have hLevel : depth (context.metadata budget now) (budget.snapshot now) = .ok context.depth :=
    if_pos hDepth
  have hSpentOutput : spentOutput (budget.snapshot now) =
      .ok (some budget.state.spentOutputTokens) := by
    unfold spentOutput
    rw [hWord "spent_output_tokens" _ rfl]
    rfl
  rcases @maxCost_of_get (budget.snapshot now) _ rfl with ⟨hMaxCost, hCap⟩
  unfold delegationRecoveryFromMetadata
  simp only [hBudget, @rootSessionId_of_get (context.metadata budget now) _ rfl,
    hWord "reserved_tokens" _ rfl, hWord "reserved_cost_microusd" _ rfl,
    hWord "active_children" _ rfl, hOptional "max_tokens" _ rfl, hWord "spent_tokens" _ rfl,
    hSpentOutput, hWord "spent_cost_microusd" _ rfl,
    @maxActiveChildren_of_get (budget.snapshot now) _ rfl hActive,
    hId "parent_session_id" _ _ rfl, hId "parent_task_id" _ _ rfl, hId "parent_thread_id" _ _ rfl,
    hLevel, hOptional "remaining_elapsed_ms" _ rfl, hMaxCost, hCap,
    hWord "started_children" _ rfl]
  rfl

/-
  What an event says about delegation: it hands over the state of a task that
  was restarted, if it had one; it starts a task or a turn with metadata; or it
  records a checkpoint.
-/
inductive DelegationFact
| transfer (delegation : Option TimedDelegationRecoveryState)
| started (metadata : Json.Value)
| checkpoint (recovery : TimedDelegationRecoveryState)

structure DelegationEvent where
  sessionId : SessionId
  timestamp : Timestamp
  fact : DelegationFact

/- A checkpoint is of the root, and never behind the last one. -/
def validateCanonicalDelegationCheckpoint (sessionId : SessionId)
    (candidate : TimedDelegationRecoveryState)
    (previous : Option TimedDelegationRecoveryState) : Except String Unit :=
  let state := candidate.state
  if state.rootSessionId ≠ sessionId then
    .error ("durable delegation recovery checkpoint root session " ++ state.rootSessionId.toText ++
      " does not match event session " ++ sessionId.toText)
  else if state.depth ≠ 0 ∨ state.parentSessionId.isSome ∨
      state.parentTaskId.isSome ∨ state.parentThreadId.isSome then
    .error "durable delegation recovery checkpoint is not a canonical root state"
  else
    match previous with
    | none => .ok ()
    | some previous =>
      let before := previous.state
      if before.rootSessionId ≠ state.rootSessionId ∨
          before.maxActiveChildren ≠ state.maxActiveChildren ∨
          before.maxTokens ≠ state.maxTokens ∨ before.maxCostMicrousd ≠ state.maxCostMicrousd then
        .error "durable delegation recovery checkpoint changes immutable root budget identity"
      else if state.startedChildren < before.startedChildren then
        .error "durable delegation recovery checkpoint regresses started child count"
      else .ok ()

/- What the loop over the events has found so far. -/
structure RecoveredDelegation where
  delegation : Option TimedDelegationRecoveryState
  canonical : Option TimedDelegationRecoveryState
  authoritative : Bool

namespace RecoveredDelegation

def start : RecoveredDelegation := ⟨none, none, false⟩

/- A transfer outranks all checkpoints before it. -/
def observe (found : RecoveredDelegation) (event : DelegationEvent) :
    Except String RecoveredDelegation :=
  match event.fact with
  | .transfer none =>
    .ok { found with
      delegation := none
      authoritative := true }
  | .transfer (some candidate) => do
      validateCanonicalDelegationCheckpoint event.sessionId candidate none
      return ⟨some candidate, some candidate, true⟩
  | .started metadata =>
    if found.authoritative then .ok found
    else do
      let recovery ← delegationRecoveryFromMetadata metadata event.timestamp
      return { found with delegation := some recovery }
  | .checkpoint candidate => do
      validateCanonicalDelegationCheckpoint event.sessionId candidate found.canonical
      return ⟨some candidate, some candidate, true⟩

end RecoveredDelegation

/-
  The delegation state of `recovered_task_continuation`. What the events say
  about the governor is independent of it.
-/
def recoveredDelegation (events : List DelegationEvent) (recoveredAt : Timestamp) :
    Except String (Option TimedDelegationRecoveryState) := do
  let found ← events.foldlM RecoveredDelegation.observe .start
  return found.delegation.map (·.refreshed recoveredAt)

end GolutraAgent.Client
