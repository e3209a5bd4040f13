import GolutraAgent.Library.Machine
import GolutraAgent.Client.DelegationPolicy

/-
  This file proves that the books of a delegation budget are right, in every run
  of any number of callers. A call of `release`, by `finish` or by the drop of
  the lease, first swaps the flag of the lease and then waits for the lock of
  the budget; every other call may happen in between. Each lease is recorded
  with the calls made to it, the figures that wait for the lock and those that
  have been settled.

  The counters saturate, so the books are exact for a cap below the largest
  word. At a cap that is the largest word the admission check no longer refuses.

  Main declarations:
    * `delegationBudget_accounted`
    * `fullCap_overcommitted`
-/

namespace GolutraAgent.Client

open Word BudgetState DelegationBudget

/-
  A lease and what has become of it: how often `finish` or the drop has been
  called, the figures of the calls that have swapped the flag and wait for the
  lock, and the figures that have been entered into the budget.
-/
structure LeaseRecord where
  lease : DelegationLease
  calls : Nat
  waiting : List Usage
  settled : List Usage

namespace LeaseRecord

def fresh (lease : DelegationLease) : LeaseRecord := ⟨lease, 0, [], []⟩

/- The swap of `released`, at the start of `release`. -/
def call (record : LeaseRecord) (actual : Usage) : LeaseRecord :=
  if record.lease.released then { record with calls := record.calls + 1 }
  else
    { record with
      lease := { record.lease with released := true }
      calls := record.calls + 1
      waiting := record.waiting ++ [actual] }

/- A waiting call has entered its figures. -/
def settle (record : LeaseRecord) (index : Nat) (actual : Usage) : LeaseRecord :=
  { record with
    waiting := record.waiting.eraseIdx index
    settled := record.settled ++ [actual] }

end LeaseRecord

/- The budget and every lease that it has admitted. -/
structure DelegationSystem where
  budget : DelegationBudget
  leases : List LeaseRecord

inductive DelegationOp
| reserve (requestedTokens : UInt64) (requestedCostMicrousd : Option UInt64) (cancelled : Bool)
    (now : Nat)
| finish (place : Nat) (actualTokens : UInt64)
    (actualCostMicrousd actualOutputTokens : Option UInt64)
| drop (place : Nat)
| lock (place index : Nat)

namespace DelegationSystem

def start (budget : DelegationBudget) : DelegationSystem := ⟨budget, []⟩

variable (s : DelegationSystem)

def withState (state : BudgetState) (leases : List LeaseRecord) : DelegationSystem :=
  ⟨{ s.budget with state }, leases⟩

def admitted (state : BudgetState) (lease : DelegationLease) : DelegationSystem :=
  s.withState state (s.leases ++ [.fresh lease])

def called (place : Nat) (actual : DelegationLease → Usage) : DelegationSystem :=
  match s.leases[place]? with
  | some record => { s with leases := s.leases.set place (record.call (actual record.lease)) }
  | none => s

/- A waiting call gets the lock of the budget. -/
def locked (place index : Nat) : DelegationSystem :=
  match s.leases[place]? with
  | some record =>
    match record.waiting[index]? with
    | some actual =>
      s.withState (s.budget.state.release record.lease actual)
        (s.leases.set place (record.settle index actual))
    | none => s
  | none => s

def step : DelegationOp → DelegationSystem
| .reserve tokens cost cancelled now =>
  match s.budget.reserve tokens cost cancelled now with
  | .ok (state, lease) => s.admitted state lease
  | .error _ => s
| .finish place tokens cost output => s.called place (·.finishUsage tokens cost output)
| .drop place => s.called place (·.dropUsage)
| .lock place index => s.locked place index

end DelegationSystem

namespace LeaseRecord

/- What a lease holds of the budget until it settles. -/
def held (amount : DelegationLease → Nat) (record : LeaseRecord) : Nat :=
  if record.settled = [] then amount record.lease else 0

def heldSlots : LeaseRecord → Nat := held (fun _ => 1)

def heldTokens : LeaseRecord → Nat := held (·.requestedTokens.toNat)

def heldCost : LeaseRecord → Nat := held (·.requestedCostMicrousd.toNat)

/- What a lease has been settled with. -/
def spent (figure : Usage → UInt64) (record : LeaseRecord) : Nat :=
  Book.total (fun actual => (figure actual).toNat) record.settled

/-
  Of the calls made to a lease the first one waits for the lock or has settled
  it, and the others have done nothing.
-/
structure Sound (record : LeaseRecord) : Prop where
  released : record.lease.released = decide (0 < record.calls)
  once : record.waiting.length + record.settled.length = min record.calls 1

@[simp] theorem held_fresh (amount : DelegationLease → Nat) (lease : DelegationLease) :
    held amount (fresh lease) = amount lease := rfl

@[simp] theorem spent_fresh (figure : Usage → UInt64) (lease : DelegationLease) :
    spent figure (fresh lease) = 0 := rfl

end LeaseRecord

namespace DelegationSystem

/-
  The counters of the budget are the sums over its leases. The sums of the
  reservations are exact under a cap below the largest word, the figures that
  were spent up to saturation.
-/
structure Accounted (initial : DelegationBudget) (s : DelegationSystem) : Prop where
  limits : s.budget = { initial with state := s.budget.state }
  leases : ∀ record ∈ s.leases, record.Sound
  active : s.budget.state.activeChildren.toNat = Book.total LeaseRecord.heldSlots s.leases
  activeLimit : s.budget.state.activeChildren ≤ s.budget.maxActiveChildren
  tokens : ∀ cap, s.budget.maxTokens = some cap → cap.toNat < limit →
      s.budget.state.reservedTokens.toNat = Book.total LeaseRecord.heldTokens s.leases
  cost : ∀ cap, s.budget.maxCostMicrousd = some cap →
    cap.toNat < limit → s.budget.state.reservedCostMicrousd.toNat =
        Book.total LeaseRecord.heldCost s.leases
  spentTokens : s.budget.state.spentTokens.toNat = min
      (initial.state.spentTokens.toNat + Book.total (LeaseRecord.spent Usage.tokens) s.leases) limit
  spentOutput : s.budget.state.spentOutputTokens.toNat =
    min (initial.state.spentOutputTokens.toNat +
      Book.total (LeaseRecord.spent Usage.outputTokens) s.leases) limit
  spentCost : s.budget.state.spentCostMicrousd.toNat = min (initial.state.spentCostMicrousd.toNat +
      Book.total (LeaseRecord.spent Usage.costMicrousd) s.leases) limit

/-
  The output tokens and the cost that have been spent or are reserved do not
  exceed the caps.
-/
structure WithinCaps (initial : DelegationBudget) (s : DelegationSystem) : Prop where
  tokens : ∀ cap, s.budget.maxTokens = some cap → cap.toNat < limit →
      initial.state.spentOutputTokens.toNat +
          Book.total (LeaseRecord.spent Usage.outputTokens) s.leases +
          Book.total LeaseRecord.heldTokens s.leases ≤
        cap.toNat
  cost : ∀ cap, s.budget.maxCostMicrousd = some cap →
    cap.toNat < limit → initial.state.spentCostMicrousd.toNat +
          Book.total (LeaseRecord.spent Usage.costMicrousd) s.leases +
          Book.total LeaseRecord.heldCost s.leases ≤
        cap.toNat

end DelegationSystem

namespace DelegationBudget

variable {budget : DelegationBudget}

/- What the cost of a lease was checked against. -/
theorem reservedCost_eq_ok {requested : Option UInt64} {cost : UInt64}
    (hCost : budget.reservedCost requested = .ok cost) {cap : UInt64}
    (hCap : budget.maxCostMicrousd = some cap) :
    (saturatingAdd (committedCost budget.state) cost).toNat ≤ cap.toNat := by
  unfold reservedCost at hCost
  rw [hCap] at hCost
  cases requested with
  | none =>
    dsimp only at hCost
    split at hCost
    · rename_i remaining hSub
      obtain ⟨hLe, hRemaining⟩ := checkedSub_eq_some hSub
      split at hCost
      · cases hCost
        rw [toNat_saturatingAdd]
        omega
      · cases hCost
    · cases hCost
  | some requested =>
    dsimp only at hCost
    split at hCost
    · cases hCost
    · rename_i hFits
      cases hCost
      exact UInt64.le_iff_toNat_le.1 (UInt64.not_lt.1 hFits)

/- What the admission of a lease checks and does. -/
structure Admitted (budget : DelegationBudget) (state : BudgetState)
    (lease : DelegationLease) : Prop where
  state : state = enter budget.state lease.requestedTokens lease.requestedCostMicrousd
  released : lease.released = false
  slot : budget.state.activeChildren < budget.maxActiveChildren
  tokens : ∀ cap, budget.maxTokens = some cap → (saturatingAdd (committedTokens budget.state)
      lease.requestedTokens).toNat ≤ cap.toNat
  cost : ∀ cap, budget.maxCostMicrousd = some cap → (saturatingAdd (committedCost budget.state)
      lease.requestedCostMicrousd).toNat ≤ cap.toNat

variable {cost : Option UInt64} {lease : DelegationLease} {state : BudgetState} {tokens : UInt64}

theorem lockedReserve_eq_ok (hAdmit : budget.lockedReserve tokens cost = .ok (state, lease)) :
    Admitted budget state lease ∧ lease.requestedTokens = tokens ∧
      budget.reservedCost cost = .ok lease.requestedCostMicrousd := by
  unfold lockedReserve at hAdmit
  split at hAdmit
  · cases hAdmit
  · rename_i hSlot
    split at hAdmit
    · cases hAdmit
    · rename_i hTokens
      cases hCost : budget.reservedCost cost with
      | error limit =>
        rw [hCost] at hAdmit
        cases hAdmit
      | ok reserved =>
        rw [hCost] at hAdmit
        cases hAdmit
        refine ⟨⟨rfl, rfl, UInt64.not_le.1 hSlot, ?_,
          fun cap => reservedCost_eq_ok hCost⟩, rfl, rfl⟩
        intro cap hCap
        rw [hCap, Option.any_some, decide_eq_true_eq, UInt64.not_lt] at hTokens
        exact UInt64.le_iff_toNat_le.1 hTokens

theorem reserve_eq_ok {cancelled : Bool} {now : Nat}
    (hReserve : budget.reserve tokens cost cancelled now = .ok (state, lease)) :
    Admitted budget state lease := by
  unfold reserve at hReserve
  split at hReserve
  · cases hReserve
  · split at hReserve
    · cases hReserve
    · exact (lockedReserve_eq_ok hReserve).1

end DelegationBudget

namespace LeaseRecord

theorem fresh_sound {lease : DelegationLease}
    (hReleased : lease.released = false) : (fresh lease).Sound :=
  ⟨hReleased, rfl⟩

theorem Sound.call {record : LeaseRecord} (hSound : record.Sound)
    (actual : Usage) : (record.call actual).Sound := by
  obtain ⟨hReleased, hOnce⟩ := hSound
  unfold LeaseRecord.call
  split
  · rename_i hTrue
    rw [hReleased, decide_eq_true_eq] at hTrue
    refine ⟨?_, ?_⟩
    · simp [hReleased, hTrue]
    · dsimp only
      omega
  · rename_i hFalse
    rw [hReleased, decide_eq_true_eq] at hFalse
    refine ⟨by simp, ?_⟩
    simp only [List.length_append, List.length_singleton]
    omega

variable {record : LeaseRecord}

/- Exactly the figures that waited are settled. -/
theorem Sound.settle (hSound : record.Sound) {index : Nat} {actual : Usage}
    (hWaiting : record.waiting[index]? = some actual) :
    (record.settle index actual).Sound ∧ record.settled = [] := by
  obtain ⟨hReleased, hOnce⟩ := hSound
  obtain ⟨hIndex, -⟩ := List.getElem?_eq_some_iff.1 hWaiting
  refine ⟨⟨hReleased, ?_⟩, ?_⟩
  · simp only [LeaseRecord.settle, List.length_append,
      List.length_singleton, List.length_eraseIdx_of_lt hIndex]
    omega
  · apply List.eq_nil_of_length_eq_zero
    omega

/- Only a settlement moves what a lease holds and spent. -/
@[simp] theorem held_call (amount : DelegationLease → Nat)
    (hAmount : ∀ lease released, amount { lease with released } = amount lease)
    (record : LeaseRecord) (actual : Usage) :
    held amount (record.call actual) = held amount record := by
  unfold held LeaseRecord.call
  cases record.lease.released with
  | false => simp [hAmount]
  | true => simp

@[simp] theorem spent_call (figure : Usage → UInt64) (record : LeaseRecord)
    (actual : Usage) : spent figure (record.call actual) = spent figure record := by
  unfold LeaseRecord.call
  cases record.lease.released with
  | false => rfl
  | true => rfl

variable (amount : DelegationLease → Nat)

@[simp] theorem held_settle (record : LeaseRecord) (index : Nat)
    (actual : Usage) : held amount (record.settle index actual) = 0 := by
  simp [held, LeaseRecord.settle]

theorem held_of_unsettled (hUnsettled : record.settled = []) :
    held amount record = amount record.lease := by
  simp [held, hUnsettled]

@[simp] theorem spent_settle (figure : Usage → UInt64)
    (record : LeaseRecord) (index : Nat) (actual : Usage) :
    spent figure (record.settle index actual) = spent figure record + (figure actual).toNat := by
  simp [spent, LeaseRecord.settle]

end LeaseRecord

namespace DelegationSystem

open LeaseRecord

variable {leases : List LeaseRecord}

/- A rewrite that contributes as before keeps the total. -/
theorem total_set_of_eq {contribution : LeaseRecord → Nat} {place : Nat} {record new : LeaseRecord}
    (hRecord : leases[place]? = some record) (hSame : contribution new = contribution record) :
    Book.total contribution (leases.set place new) = Book.total contribution leases := by
  have hTotal := Book.total_set contribution hRecord new
  omega

theorem sound_set (hLeases : ∀ record ∈ leases, record.Sound) {new : LeaseRecord} (hNew : new.Sound)
    (place : Nat) : ∀ record ∈ leases.set place new, record.Sound := by
  intro record hRecord
  rcases List.mem_or_eq_of_mem_set hRecord with hOld | rfl
  · exact hLeases record hOld
  · exact hNew

variable {initial : DelegationBudget} {s : DelegationSystem}

/- The limits of a budget never change. -/
theorem limits_withState (hLimits : s.budget = { initial with state := s.budget.state })
    (state : BudgetState) (leases : List LeaseRecord) :
    (s.withState state leases).budget = { initial with
        state := (s.withState state leases).budget.state } :=
  congrArg (fun budget : DelegationBudget => { budget with state }) hLimits

/-
  A resource below its cap does not saturate, so what is reserved of it is
  exact.
-/
theorem admitted_exact {spent reserved requested cap : UInt64} {total held : Nat}
    (hFits : (saturatingAdd (saturatingAdd spent reserved) requested).toNat ≤ cap.toNat)
    (hBelow : cap.toNat < limit) (hSpent : spent.toNat = min total limit)
    (hReserved : reserved.toNat = held) :
    (saturatingAdd reserved requested).toNat = held + requested.toNat ∧
      total + (held + requested.toNat) ≤ cap.toNat := by
  simp only [toNat_saturatingAdd] at hFits ⊢
  omega

theorem Accounted.admitted (hBooks : s.Accounted initial) {state : BudgetState}
    {lease : DelegationLease} (hAdmitted : s.budget.Admitted state lease) :
    (s.admitted state lease).Accounted initial ∧ (s.admitted state lease).WithinCaps initial := by
  obtain ⟨rfl, hReleased, hSlot, hTokens, hCost⟩ := hAdmitted
  have hActive := hBooks.active
  have hMax := toNat_le_limit s.budget.maxActiveChildren
  rw [UInt64.lt_iff_toNat_lt] at hSlot
  have hEntered : (saturatingAdd s.budget.state.activeChildren 1).toNat =
        s.budget.state.activeChildren.toNat + 1 := by
    rw [toNat_saturatingAdd]
    change min (_ + 1) limit = _
    omega
  have hTokens := fun cap hCap hBelow => admitted_exact (hTokens cap hCap) hBelow hBooks.spentOutput
    (hBooks.tokens cap hCap hBelow)
  have hCost := fun cap hCap hBelow => admitted_exact (hCost cap hCap) hBelow hBooks.spentCost
    (hBooks.cost cap hCap hBelow)
  have hTotal := fun contribution => Book.total_concat contribution s.leases (.fresh lease)
  constructor
  · constructor
    · exact limits_withState hBooks.limits _ _
    · intro record hRecord
      rcases List.mem_append.1 hRecord with hOld | hNew
      · exact hBooks.leases record hOld
      · rw [List.mem_singleton] at hNew
        subst hNew
        exact fresh_sound hReleased
    · exact (hEntered.trans (congrArg (· + 1) hActive)).trans (hTotal heldSlots).symm
    · exact UInt64.le_iff_toNat_le.2 (hEntered.trans_le hSlot)
    · exact fun cap hCap hBelow => (hTokens cap hCap hBelow).1.trans (hTotal heldTokens).symm
    · exact fun cap hCap hBelow => (hCost cap hCap hBelow).1.trans (hTotal heldCost).symm
    · simpa [DelegationSystem.admitted, withState, enter] using hBooks.spentTokens
    · simpa [DelegationSystem.admitted, withState, enter] using hBooks.spentOutput
    · simpa [DelegationSystem.admitted, withState, enter] using hBooks.spentCost
  · constructor
    · intro cap hCap hBelow
      have hExact := (hTokens cap hCap hBelow).2
      simpa [DelegationSystem.admitted, withState, heldTokens] using hExact
    · intro cap hCap hBelow
      have hExact := (hCost cap hCap hBelow).2
      simpa [DelegationSystem.admitted, withState, heldCost] using hExact

/- A call only swaps a flag: no total moves. -/
theorem total_held_called (amount : DelegationLease → Nat)
    (hAmount : ∀ lease released, amount { lease with released } = amount lease)
    (s : DelegationSystem) (place : Nat) (actual : DelegationLease → Usage) :
    Book.total (held amount) (s.called place actual).leases =
      Book.total (held amount) s.leases := by
  unfold DelegationSystem.called
  split
  · next record hRecord => exact total_set_of_eq hRecord (held_call amount hAmount record _)
  · rfl

theorem total_spent_called (figure : Usage → UInt64) (s : DelegationSystem)
    (place : Nat) (actual : DelegationLease → Usage) :
    Book.total (spent figure) (s.called place actual).leases =
      Book.total (spent figure) s.leases := by
  unfold DelegationSystem.called
  split
  · next record hRecord => exact total_set_of_eq hRecord (spent_call figure record _)
  · rfl

@[simp] theorem called_budget (s : DelegationSystem) (place : Nat)
    (actual : DelegationLease → Usage) : (s.called place actual).budget = s.budget := by
  unfold DelegationSystem.called
  split
  · rfl
  · rfl

theorem sound_called (hLeases : ∀ record ∈ s.leases, record.Sound)
    (place : Nat) (actual : DelegationLease → Usage) :
    ∀ record ∈ (s.called place actual).leases, record.Sound := by
  unfold DelegationSystem.called
  split
  · rename_i record hRecord
    exact sound_set hLeases ((hLeases record (List.mem_of_getElem? hRecord)).call _) place
  · exact hLeases

theorem Accounted.called (hBooks : s.Accounted initial) (place : Nat)
    (actual : DelegationLease → Usage) : (s.called place actual).Accounted initial := by
  have hHeld := fun amount hAmount => total_held_called amount hAmount s place actual
  constructor
  · simpa using hBooks.limits
  · exact sound_called hBooks.leases place actual
  · simpa [heldSlots, hHeld] using hBooks.active
  · simpa using hBooks.activeLimit
  · simpa [heldTokens, hHeld] using hBooks.tokens
  · simpa [heldCost, hHeld] using hBooks.cost
  · simpa [total_spent_called] using hBooks.spentTokens
  · simpa [total_spent_called] using hBooks.spentOutput
  · simpa [total_spent_called] using hBooks.spentCost

/- A waiting call, and the lease that it is about to settle. -/
structure Waits (s : DelegationSystem) (place index : Nat)
    (record : LeaseRecord) (actual : Usage) : Prop where
  found : s.leases[place]? = some record
  waiting : record.waiting[index]? = some actual

/- The lock is of no use to a call that does not wait. -/
theorem locked_cases (s : DelegationSystem) (place index : Nat) :
    (s.locked place index = s ∧ ∀ record, s.leases[place]? = some record →
          record.waiting[index]? = none) ∨
      ∃ record actual, s.Waits place index record actual ∧ s.locked place index = s.withState
            (s.budget.state.release record.lease actual)
            (s.leases.set place (record.settle index actual)) := by
  unfold locked
  split
  · rename_i record hRecord
    split
    · next actual hWaiting => exact .inr ⟨record, actual, ⟨hRecord, hWaiting⟩, rfl⟩
    · rename_i hWaiting
      refine .inl ⟨rfl, fun other hOther => ?_⟩
      cases hRecord.symm.trans hOther
      exact hWaiting
  · rename_i hRecord
    refine .inl ⟨rfl, fun other hOther => ?_⟩
    cases hRecord.symm.trans hOther

section

variable {place index : Nat} {record : LeaseRecord} {actual : Usage}
variable (hWaits : s.Waits place index record actual)

include hWaits

theorem Waits.settle (hLeases : ∀ record ∈ s.leases, record.Sound) :
    (record.settle index actual).Sound ∧ record.settled = [] :=
  (hLeases record (List.mem_of_getElem? hWaits.found)).settle hWaits.waiting

/- The lease no longer holds what it reserved. -/
theorem Waits.total_held (hUnsettled : record.settled = []) (amount : DelegationLease → Nat) :
    Book.total (held amount)
        (s.leases.set place (record.settle index actual)) + amount record.lease =
      Book.total (held amount) s.leases := by
  have hTotal := Book.total_set (held amount) hWaits.found (record.settle index actual)
  rw [held_settle, held_of_unsettled amount hUnsettled] at hTotal
  exact hTotal

theorem Waits.total_spent (figure : Usage → UInt64) :
    Book.total (spent figure) (s.leases.set place (record.settle index actual)) =
      Book.total (spent figure) s.leases + (figure actual).toNat := by
  have hTotal := Book.total_set (spent figure) hWaits.found (record.settle index actual)
  rw [spent_settle] at hTotal
  omega

end

/- A settlement moves a lease from the reserved to the spent. -/
theorem Accounted.locked (hBooks : s.Accounted initial) (place index : Nat) :
    (s.locked place index).Accounted initial := by
  rcases s.locked_cases place index with ⟨hSame, -⟩ | ⟨record, actual, hWaits, hLocked⟩
  · rw [hSame]
    exact hBooks
  · obtain ⟨hSound, hUnsettled⟩ := hWaits.settle hBooks.leases
    have hHeld := hWaits.total_held hUnsettled
    have hActive := hBooks.active
    have hLimit := UInt64.le_iff_toNat_le.1 hBooks.activeLimit
    rw [hLocked]
    constructor
    · exact limits_withState hBooks.limits _ _
    · exact sound_set hBooks.leases hSound place
    · have hSlots := hHeld (fun _ => 1)
      simp only [withState, release, toNat_saturatingSub, heldSlots] at hActive ⊢
      change _ - 1 = _
      omega
    · simp only [withState, release, UInt64.le_iff_toNat_le, toNat_saturatingSub]
      omega
    · intro cap hCap hBelow
      have hReserved := hBooks.tokens cap hCap hBelow
      have hTokens := hHeld (·.requestedTokens.toNat)
      simp only [withState, release, toNat_saturatingSub, heldTokens] at hReserved ⊢
      omega
    · intro cap hCap hBelow
      have hReserved := hBooks.cost cap hCap hBelow
      have hCost := hHeld (·.requestedCostMicrousd.toNat)
      simp only [withState, release, toNat_saturatingSub, heldCost] at hReserved ⊢
      omega
    · simp only [withState, release, toNat_saturatingAdd, hWaits.total_spent, hBooks.spentTokens]
      omega
    · simp only [withState, release, toNat_saturatingAdd, hWaits.total_spent, hBooks.spentOutput]
      omega
    · simp only [withState, release, toNat_saturatingAdd, hWaits.total_spent, hBooks.spentCost]
      omega

theorem Accounted.step (hBooks : s.Accounted initial) (op : DelegationOp) :
    (s.step op).Accounted initial := by
  cases op with
  | reserve tokens cost cancelled now =>
    simp only [DelegationSystem.step]
    split
    · next state lease hReserve => exact (hBooks.admitted (reserve_eq_ok hReserve)).1
    · exact hBooks
  | finish place tokens cost output => exact hBooks.called place (·.finishUsage tokens cost output)
  | drop place => exact hBooks.called place (·.dropUsage)
  | lock place index => exact hBooks.locked place index

end DelegationSystem

/- How the source makes a budget. -/
inductive DelegationBudget.Built : DelegationBudget → Prop
| configured (maxElapsedMs maxCostMicrousd : Option UInt64) (maxActiveChildren : UInt64)
    (now : Nat) : Built (.configured maxElapsedMs maxCostMicrousd maxActiveChildren now)
| recovered {timed : TimedDelegationRecoveryState} {wallNow : Timestamp} {now : Nat}
    {context : DelegationContext} {budget : DelegationBudget}
    (hRecovered : DelegationContext.recovered timed wallNow now = .ok (context, budget)) :
    Built budget

/- What `recovered` checks and makes. -/
structure DelegationContext.Recovers (timed : TimedDelegationRecoveryState) (wallNow : Timestamp)
    (now : Nat) (context : DelegationContext) (budget : DelegationBudget) : Prop where
  active : timed.state.maxActiveChildren ≠ 0
  tokens : timed.state.maxTokens ≠ some 0
  root : context.rootSessionId = timed.state.rootSessionId
  depth : context.depth = timed.state.depth
  budget : budget = recoveredBudget (timed.refreshed wallNow).state now

variable {budget : DelegationBudget}

theorem DelegationContext.recovered_eq_ok {timed : TimedDelegationRecoveryState}
    {wallNow : Timestamp} {now : Nat} {context : DelegationContext}
    (hRecovered : recovered timed wallNow now = .ok (context, budget)) :
    Recovers timed wallNow now context budget := by
  unfold recovered at hRecovered
  dsimp only at hRecovered
  split at hRecovered
  · cases hRecovered
  · split at hRecovered
    · cases hRecovered
    · rename_i hTokens
      split at hRecovered
      · cases hRecovered
      · rename_i hActive
        cases hRecovered
        exact ⟨hActive, hTokens, rfl, rfl, rfl⟩

/- A new budget has no child, and nothing is reserved. -/
theorem DelegationBudget.Built.accounted (hBuilt : budget.Built) :
    (DelegationSystem.start budget).Accounted budget := by
  have hIdle : budget.state.activeChildren = 0 ∧ budget.state.reservedTokens = 0 ∧
      budget.state.reservedCostMicrousd = 0 := by
    cases hBuilt with
    | configured => exact ⟨rfl, rfl, rfl⟩
    | recovered hRecovered =>
      rw [(DelegationContext.recovered_eq_ok hRecovered).budget]
      exact ⟨rfl, rfl, rfl⟩
  obtain ⟨hActive, hTokens, hCost⟩ := hIdle
  constructor
  · rfl
  · exact fun record hRecord => by cases hRecord
  · exact congrArg UInt64.toNat hActive
  · change budget.state.activeChildren ≤ _
    rw [hActive]
    exact Nat.zero_le _
  · exact fun _ _ _ => congrArg UInt64.toNat hTokens
  · exact fun _ _ _ => congrArg UInt64.toNat hCost
  · exact (min_eq_left (toNat_le_limit _)).symm
  · exact (min_eq_left (toNat_le_limit _)).symm
  · exact (min_eq_left (toNat_le_limit _)).symm

/-
  In every run the books are right, and a lease that is admitted fits under the
  caps together with all that has been spent and reserved.
-/
theorem delegationBudget_accounted {budget : DelegationBudget}
    (hBuilt : budget.Built) (ops : List DelegationOp) :
    (Machine.run DelegationSystem.step (.start budget) ops).Accounted budget ∧
      ∀ tokens cost cancelled now state lease, (Machine.run DelegationSystem.step (.start budget)
            ops).budget.reserve tokens cost cancelled now =
          .ok (state, lease) →
        ((Machine.run DelegationSystem.step (.start budget)
          ops).admitted state lease).WithinCaps budget := by
  have hBooks := Machine.run_invariant_of_step (fun s op (hBooks : s.Accounted budget) =>
      hBooks.step op) hBuilt.accounted ops
  refine ⟨hBooks, ?_⟩
  intro tokens cost cancelled now state lease hReserve
  exact (hBooks.admitted (reserve_eq_ok hReserve)).2

variable (maxCostMicrousd : UInt64)

/- Two slots, a thousand tokens, and a cap on the cost. -/
def cappedState : TimedDelegationRecoveryState where
  capturedAt := ⟨0⟩
  state :=
    ⟨2, ⟨⟨0⟩⟩, none, none, none, 0, none, none, some 1000, some maxCostMicrousd, 0, 0, some 0, 0⟩

def cappedBudget : DelegationBudget := DelegationContext.recoveredBudget
    (cappedState maxCostMicrousd).state 0

theorem cappedBudget_built : (cappedBudget maxCostMicrousd).Built :=
  @DelegationBudget.Built.recovered (cappedState maxCostMicrousd) ⟨0⟩ 0 _ _ rfl

/-
  A child is finished and dropped at once, while another is admitted. Its first
  call settles it.
-/
def sharedRun : List DelegationOp := [.reserve 600 (some 70) false 0,
    .finish 0 300 none (some 250), .drop 0, .reserve 400 (some 20) false 0, .lock 0 0, .lock 0 0]

theorem cappedBudget_accounted :
    (Machine.run DelegationSystem.step (.start (cappedBudget 100)) sharedRun).Accounted
        (cappedBudget 100) ∧
      (Machine.run DelegationSystem.step (.start (cappedBudget 100))
          sharedRun).leases.map (·.settled) =
        [[⟨300, 70, 250⟩], []] ∧
      ((Machine.run DelegationSystem.step (.start (cappedBudget 100)) sharedRun).admitted
        ⟨2, 3, 750, 300, 250, 30, 70⟩ ⟨350, 10, false⟩).WithinCaps (cappedBudget 100) :=
  ⟨(delegationBudget_accounted (cappedBudget_built 100) sharedRun).1, by decide,
    (delegationBudget_accounted (cappedBudget_built 100)
      sharedRun).2 350 none false 0 _ _ (by decide)⟩

/-
  Under a cap that is the largest word, two children may each reserve all of it.
-/
def overcommitted : DelegationSystem := Machine.run DelegationSystem.step
    (.start (cappedBudget Word.max))
    [.reserve 1 (some Word.max) false 0, .reserve 1 (some Word.max) false 0]

theorem fullCap_overcommitted : (cappedBudget Word.max).Built ∧ overcommitted.leases.length = 2 ∧
      overcommitted.budget.state.reservedCostMicrousd.toNat <
        Book.total LeaseRecord.heldCost overcommitted.leases ∧
      Word.max.toNat < overcommitted.budget.state.spentCostMicrousd.toNat +
          Book.total LeaseRecord.heldCost overcommitted.leases :=
  ⟨cappedBudget_built Word.max, by decide, by decide, by decide⟩

end GolutraAgent.Client
