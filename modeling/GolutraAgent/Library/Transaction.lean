import Mathlib.Data.List.Forall2
import Mathlib.Order.Defs.Unbundled

/-
  This file develops transactions on a store: computations that read and change
  a state and may fail. A transaction that fails, or that its environment rolls
  back, leaves the state as it was.

  What a transaction can do to the state is said by a preorder on states:
  `LeadsFrom R s tx` states that `tx` only takes `s` to an `R`-later state. The
  rules below derive it for a transaction from its steps.

  Key definitions include:
    * `Transaction`
    * `Transaction.commit`
-/

abbrev Transaction (σ ε α : Type) : Type := StateT σ (Except ε) α

namespace Transaction

variable {σ τ ε α β : Type}

/- The state after an attempt to run and commit. -/
def commit (tx : Transaction σ ε α) (s : σ) : σ :=
  match tx.run s with
  | .ok (_, s') => s'
  | .error _ => s

/- Run a transaction on a part of the state. -/
def within (part : σ → τ) (replace : τ → σ → σ) (tx : Transaction τ ε α) : Transaction σ ε α :=
  fun s =>
    match tx.run (part s) with
    | .ok (a, t) => .ok (a, replace t s)
    | .error e => .error e

variable (R : σ → σ → Prop)

/- From `s` a transaction only leads to `R`-later states. -/
def LeadsFrom (s : σ) (tx : Transaction σ ε α) : Prop := ∀ a s', tx.run s = .ok (a, s') → R s s'

def Leads (tx : Transaction σ ε α) : Prop := ∀ s, LeadsFrom R s tx

variable {check : Except ε α}

/- Without a state, a bind that succeeds is two successes. -/
theorem bind_eq_ok {next : α → Except ε β} {b : β} :
    (check >>= next) = .ok b ↔ ∃ a, check = .ok a ∧ next a = .ok b := by
  cases check with
  | error e =>
    constructor
    · intro hBind
      cases hBind
    · rintro ⟨a, hCheck, -⟩
      cases hCheck
  | ok a =>
    constructor
    · intro hNext
      exact ⟨a, rfl, hNext⟩
    · rintro ⟨a, hCheck, hNext⟩
      cases hCheck
      exact hNext

theorem bind_eq_error {next : α → Except ε β} {e : ε} :
    (check >>= next) = .error e ↔ check = .error e ∨ ∃ a, check = .ok a ∧ next a = .error e := by
  cases check <;> simp [bind, Except.bind]

theorem mapError_eq_ok {ε' : Type} {f : ε → ε'} {a : α} :
    check.mapError f = .ok a ↔ check = .ok a := by
  cases check <;> simp [Except.mapError]

variable {items : List α} {results : List β}

theorem forM_ok_of_mem {check : α → Except ε Unit} {a : Unit}
    (hChecks : items.forM check = .ok a) : ∀ item ∈ items, ∃ a, check item = .ok a := by
  induction items with
  | nil => exact fun item hItem => by cases hItem
  | cons head items ih =>
    rcases bind_eq_ok.mp hChecks with ⟨b, hHead, hRest⟩
    intro item hItem
    rcases List.mem_cons.mp hItem with rfl | hTail
    · exact ⟨b, hHead⟩
    · exact ih hRest item hTail

/- The item at which a loop fails, and the way to it. -/
theorem foldlM_eq_error_iff {f : β → α → Except ε β} {b : β} {e : ε} :
    items.foldlM f b = .error e ↔ ∃ before item after b',
        items = before ++ item :: after ∧ before.foldlM f b = .ok b' ∧ f b' item = .error e := by
  constructor
  · intro hFold
    induction items generalizing b with
    | nil => cases hFold
    | cons item items ih =>
      rcases bind_eq_error.1 hFold with hHere | ⟨b', hOk, hLater⟩
      · exact ⟨[], item, items, b, rfl, rfl, hHere⟩
      · obtain ⟨before, failed, after, b'', rfl, hBefore, hFailed⟩ := ih hLater
        refine ⟨item :: before, failed, after, b'', rfl, ?_, hFailed⟩
        rw [List.foldlM_cons, hOk]
        exact hBefore
  · rintro ⟨before, item, after, b', rfl, hBefore, hFailed⟩
    rw [List.foldlM_append, hBefore]
    change ((item :: after).foldlM f b') = _
    rw [List.foldlM_cons, hFailed]
    rfl

/- A map that succeeds has one result for each item. -/
theorem forall₂_of_mapM {f : α → Except ε β} (hMap : items.mapM f = .ok results) :
    List.Forall₂ (fun item result => f item = .ok result) items results := by
  induction items generalizing results with
  | nil =>
    cases hMap
    exact .nil
  | cons item items ih =>
    rw [List.mapM_cons] at hMap
    obtain ⟨result, hFirst, hMap⟩ := bind_eq_ok.1 hMap
    obtain ⟨rest, hRest, hMap⟩ := bind_eq_ok.1 hMap
    cases hMap
    exact .cons hFirst (ih hRest)

variable {R : α → β → Prop}

/- Every item has a result, and every result an item. -/
theorem exists_result (hEach : List.Forall₂ R items results) {item : α}
    (hItem : item ∈ items) : ∃ result ∈ results, R item result := by
  induction hEach with
  | nil => cases hItem
  | cons hHead _ ih =>
    rcases List.mem_cons.1 hItem with rfl | hRest
    · exact ⟨_, List.mem_cons_self, hHead⟩
    · obtain ⟨result, hResult, hR⟩ := ih hRest
      exact ⟨result, List.mem_cons_of_mem _ hResult, hR⟩

theorem exists_item (hEach : List.Forall₂ R items results) {result : β}
    (hResult : result ∈ results) : ∃ item ∈ items, R item result :=
  exists_result hEach.flip hResult

variable {s s' : σ}

/- A bind that succeeds is two runs that succeed. -/
theorem run_bind_eq_ok {tx : Transaction σ ε α} {next : α → Transaction σ ε β} {b : β} :
    (tx >>= next).run s = .ok (b, s') ↔ ∃ a middle, tx.run s = .ok (a, middle) ∧
        (next a).run middle = .ok (b, s') := by
  rw [StateT.run_bind]
  cases hRun : tx.run s with
  | error e =>
    constructor
    · intro hBind
      cases hBind
    · rintro ⟨a, middle, hFirst, -⟩
      cases hFirst
  | ok result =>
    constructor
    · intro hNext
      exact ⟨result.1, result.2, rfl, hNext⟩
    · rintro ⟨a, middle, hFirst, hNext⟩
      cases hFirst
      exact hNext

/- A check of the state leaves it as it is. -/
theorem run_liftM_eq_ok {a : α} :
    (liftM check : Transaction σ ε α).run s = .ok (a, s') ↔ check = .ok a ∧ s' = s := by
  cases check with
  | error e =>
    constructor
    · intro hRun
      cases hRun
    · rintro ⟨hCheck, -⟩
      cases hCheck
  | ok b =>
    constructor
    · intro hRun
      cases hRun
      exact ⟨rfl, rfl⟩
    · rintro ⟨hCheck, rfl⟩
      cases hCheck
      rfl

theorem run_within_eq_ok {part : σ → τ} {replace : τ → σ → σ} {tx : Transaction τ ε α} {a : α} :
    (within part replace tx).run s = .ok (a, s') ↔
      ∃ t, tx.run (part s) = .ok (a, t) ∧ s' = replace t s := by
  change (match tx.run (part s) with
    | .ok (a, t) => .ok (a, replace t s)
    | .error e => .error e) = Except.ok (a, s') ↔ _
  cases hRun : tx.run (part s) with
  | error e => simp
  | ok result =>
    constructor
    · intro hWithin
      cases hWithin
      exact ⟨result.2, rfl, rfl⟩
    · rintro ⟨t, hPart, rfl⟩
      cases hPart
      rfl

/-
  A loop of checks that succeeds has checked every item, in the state that it
  leaves as it is.
-/
theorem run_forM_of_mem {check : α → Transaction σ ε PUnit}
    (hSame : ∀ item s a s', (check item).run s = .ok (a, s') → s' = s)
    {a : PUnit} (hRun : (items.forM check).run s = .ok (a, s')) :
    s' = s ∧ ∀ item ∈ items, ∃ a, (check item).run s = .ok (a, s) := by
  induction items with
  | nil =>
    cases hRun
    exact ⟨rfl, fun item hItem => by cases hItem⟩
  | cons head items ih =>
    obtain ⟨b, middle, hHead, hRest⟩ := run_bind_eq_ok.1 hRun
    obtain rfl := hSame head s b middle hHead
    obtain ⟨hState, hItems⟩ := ih hRest
    refine ⟨hState, fun item hItem => ?_⟩
    rcases List.mem_cons.1 hItem with rfl | hTail
    · exact ⟨b, hHead⟩
    · exact hItems item hTail

variable {R : σ → σ → Prop}

namespace LeadsFrom

theorem throw (e : ε) : LeadsFrom R s (MonadExcept.throw e : Transaction σ ε α) := by
  intro a s' hRun
  cases hRun

theorem set {s' : σ} (hSet : R s s') :
    LeadsFrom R s (MonadStateOf.set s' : Transaction σ ε PUnit) := by
  intro a s'' hRun
  cases hRun
  exact hSet

/- What is read from the state is the state. -/
theorem get_bind {next : σ → Transaction σ ε α}
    (hNext : LeadsFrom R s (next s)) : LeadsFrom R s (MonadState.get >>= next) := by
  intro a s' hRun
  obtain ⟨found, middle, hGet, hRest⟩ := run_bind_eq_ok.1 hRun
  cases hGet
  exact hNext a s' hRest

/- A transaction on a part leads where the part goes. -/
theorem within {part : σ → τ} {replace : τ → σ → σ} {tx : Transaction τ ε α}
    (hTx : ∀ a t, tx.run (part s) = .ok (a, t) → R s (replace t s)) :
    LeadsFrom R s (Transaction.within part replace tx) := by
  intro a s' hRun
  obtain ⟨t, hPartRun, rfl⟩ := run_within_eq_ok.1 hRun
  exact hTx a t hPartRun

variable [IsPreorder σ R]

theorem pure (a : α) : LeadsFrom R s (Pure.pure a : Transaction σ ε α) := by
  intro b s' hRun
  cases hRun
  exact refl_of R s

theorem liftM (check : Except ε α) : LeadsFrom R s (MonadLiftT.monadLift check :
      Transaction σ ε α) := by
  intro a s' hRun
  obtain ⟨-, rfl⟩ := run_liftM_eq_ok.1 hRun
  exact refl_of R s'

variable {tx : Transaction σ ε α}

theorem bind {next : α → Transaction σ ε β} (hFirst : LeadsFrom R s tx)
    (hNext : ∀ a, Leads R (next a)) : LeadsFrom R s (tx >>= next) := by
  intro b s' hRun
  obtain ⟨a, middle, hTx, hRest⟩ := run_bind_eq_ok.1 hRun
  exact trans_of R (hFirst a middle hTx) (hNext a middle b s' hRest)

/- An attempt leads where the transaction leads. -/
theorem commit (hTx : LeadsFrom R s tx) : R s (tx.commit s) := by
  unfold Transaction.commit
  split
  · next a s' hRun => exact hTx a s' hRun
  · exact refl_of R s

end LeadsFrom

namespace Leads

variable [IsPreorder σ R]

/- A loop leads where each of its rounds leads. -/
theorem forM {round : α → Transaction σ ε PUnit} {items : List α}
    (hRound : ∀ item ∈ items, Leads R (round item)) : Leads R (items.forM round) := by
  intro s
  induction items generalizing s with
  | nil => exact LeadsFrom.pure _
  | cons item items ih =>
    exact LeadsFrom.bind (hRound item List.mem_cons_self s) (fun _ => ih (fun other hOther =>
        hRound other (List.mem_cons_of_mem _ hOther)))

theorem mapM {round : α → Transaction σ ε β}
    (hRound : ∀ item, Leads R (round item)) (items : List α) : Leads R (items.mapM round) := by
  intro s
  induction items generalizing s with
  | nil => exact LeadsFrom.pure _
  | cons item items ih =>
    rw [List.mapM_cons]
    exact LeadsFrom.bind (hRound item s) (fun _ _ =>
      LeadsFrom.bind (ih _) (fun _ _ => LeadsFrom.pure _))

end Leads

end Transaction
