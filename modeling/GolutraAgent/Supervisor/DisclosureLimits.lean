import GolutraAgent.Supervisor.Interleavings
import GolutraAgent.Supervisor.RollbackSafety

/-
  This file proves that the holdout queries that are charged to a family of
  candidates, and to an epoch, stay within their limits, in every interleaving
  in which an evaluation of a family that has a budget fits into what is left of
  it, and of the limit of the epoch, when it is charged. The code makes a check
  for the epoch alone and before the transaction, so that a second epoch, or a
  second process, exceeds the budget of the family.

  Main declarations:
    * `disclosure_limited`
-/

namespace GolutraAgent.Supervisor

open Release (Deployment DeploymentCall)

open KeyedList

/- No family and no epoch is charged beyond its limit. -/
abbrev WithinDisclosure (state : SupervisorState) : Prop := (∀ budget ∈ state.disclosureBudgets,
      budget.queryCount ≤ budget.maximumQueries) ∧
    ∀ epoch ∈ state.epochs, epoch.holdoutQueries ≤ epoch.budget.maxHoldoutQueries

/- The epoch and the queries of a gate result. -/
def gateDisclosed : SupervisorCommand → Option (String × Nat)
| .transact (.completeGate epochId input _) => some (epochId, input.holdoutQueries)
| _ => none

/-
  Once a family has a budget, an evaluation is recorded only if its queries fit
  into what is left of this budget and of the limit of the epoch.
-/
abbrev FitsDisclosure (turn : SupervisorTurn) (w : SupervisorWorld) : Prop :=
  ∀ disclosed ∈ gateDisclosed turn.command, ∀ epoch ∈ w.state.epoch? disclosed.1,
    ∀ budget ∈ w.state.budget? epoch.budgetId,
      budget.queryCount + disclosed.2 ≤ budget.maximumQueries ∧
        epoch.holdoutQueries + disclosed.2 ≤ epoch.budget.maxHoldoutQueries

/- Moreover, an epoch that is charged has a budget. -/
structure Disclosed (state : SupervisorState) : Prop where
  limited : WithinDisclosure state
  charged : ∀ epoch ∈ state.epochs, epoch.holdoutQueries ≠ 0 →
    epoch.budgetId ∈ state.disclosureBudgets.map DisclosureBudget.budgetId

theorem disclosed_empty : Disclosed .empty where
  limited := by
    refine ⟨?_, ?_⟩ <;> rintro _ ⟨⟩
  charged := by rintro _ ⟨⟩

/- The limit of an epoch does not change. -/
def KeepsLimits (state state' : SupervisorState) : Prop :=
  ∀ epochId epoch, state.epoch? epochId = some epoch →
    ∃ epoch', state'.epoch? epochId = some epoch' ∧ epoch'.budget = epoch.budget

theorem KeepsLimits.refl (state : SupervisorState) : KeepsLimits state state :=
  fun _ epoch hFind => ⟨epoch, hFind, rfl⟩

theorem KeepsLimits.trans {state state' state'' : SupervisorState}
    (hFirst : KeepsLimits state state') (hThen : KeepsLimits state' state'') :
    KeepsLimits state state'' := by
  intro epochId epoch hFind
  obtain ⟨epoch', hFind', hSame⟩ := hFirst epochId epoch hFind
  obtain ⟨epoch'', hFind'', hSame'⟩ := hThen epochId epoch' hFind'
  exact ⟨epoch'', hFind'', hSame'.trans hSame⟩

instance : IsPreorder SupervisorState KeepsLimits where
  refl := KeepsLimits.refl
  trans _ _ _ := KeepsLimits.trans

abbrev Disclosing : SupervisorWorld → SupervisorWorld → Prop := GrowsIn Disclosed KeepsLimits

section

variable {state state' : SupervisorState} {epochId : String}

/- A change of an epoch that bears on no charge. -/
structure ChargesNothing (change : EvolutionEpoch → EvolutionEpoch) : Prop where
  epochId : ∀ epoch, (change epoch).epochId = epoch.epochId
  budget : ∀ epoch, (change epoch).budget = epoch.budget
  budgetId : ∀ epoch, (change epoch).budgetId = epoch.budgetId
  queries : ∀ epoch, (change epoch).holdoutQueries = epoch.holdoutQueries

variable (status : EpochStatus) (now : Timestamp)

theorem setStatus_chargesNothing : ChargesNothing (EvolutionEpoch.setStatus status now) :=
  ⟨fun _ => rfl, fun _ => rfl, fun _ => rfl, fun _ => rfl⟩

theorem reconcileStatus_chargesNothing :
    ChargesNothing (EvolutionEpoch.reconcileStatus status now) :=
  ⟨fun _ => rfl, fun _ => rfl, fun _ => rfl, fun _ => rfl⟩

theorem addCandidate_chargesNothing (candidateId : String) :
    ChargesNothing (EvolutionEpoch.addCandidate candidateId) :=
  ⟨fun _ => rfl, fun _ => rfl, fun _ => rfl, fun _ => rfl⟩

theorem expire_chargesNothing (now : Timestamp) : ChargesNothing (EvolutionEpoch.expire now) := by
  constructor <;> intro epoch <;> unfold EvolutionEpoch.expire <;> split <;> rfl

/- Epochs are changed without a charge, or new. -/
theorem Disclosed.epochs (hDisclosed : Disclosed state)
    (hBudgets : state'.disclosureBudgets = state.disclosureBudgets)
    (hEpochs : ∀ epoch ∈ state'.epochs, epoch.holdoutQueries = 0 ∨ epoch ∈ state.epochs ∨
        ∃ change, ChargesNothing change ∧ ∃ old ∈ state.epochs, epoch = change old) :
    Disclosed state' := by
  obtain ⟨⟨hFamilies, hLimits⟩, hCharged⟩ := hDisclosed
  refine ⟨⟨hBudgets ▸ hFamilies, ?_⟩, ?_⟩
  · intro epoch hMem
    rcases hEpochs epoch hMem with hNew | hOld | ⟨change, hChange, old, hOld, rfl⟩
    · rw [hNew]
      exact Nat.zero_le _
    · exact hLimits epoch hOld
    · rw [hChange.queries, hChange.budget]
      exact hLimits old hOld
  · rw [hBudgets]
    intro epoch hMem hQueries
    rcases hEpochs epoch hMem with hNew | hOld | ⟨change, hChange, old, hOld, rfl⟩
    · exact absurd hNew hQueries
    · exact hCharged epoch hOld hQueries
    · rw [hChange.queries] at hQueries
      rw [hChange.budgetId]
      exact hCharged old hOld hQueries

theorem Disclosed.editEpoch {change : EvolutionEpoch → EvolutionEpoch}
    (hDisclosed : Disclosed state) (hChange : ChargesNothing change)
    (hBudgets : state'.disclosureBudgets = state.disclosureBudgets)
    (hEpochs : state'.epochs = (state.editEpoch epochId change).epochs) :
    Disclosed state' ∧ KeepsLimits state state' := by
  refine ⟨hDisclosed.epochs hBudgets ?_, ?_⟩
  · rw [hEpochs]
    intro epoch hMem
    exact .inr ((mem_modifyFirst hMem).imp id (fun hOld => ⟨change, hChange, hOld⟩))
  · intro other epoch hFind
    have hLookup : state'.epoch? other = (state.editEpoch epochId change).epoch? other := by
      unfold SupervisorState.epoch?
      rw [hEpochs]
    by_cases hSame : other = epochId
    · subst hSame
      exact ⟨change epoch, hLookup.trans
        (epoch?_editEpoch_self hChange.epochId hFind), hChange.budget epoch⟩
    · exact ⟨epoch, hLookup.trans ((epoch?_editEpoch_other hChange.epochId hSame).trans hFind), rfl⟩

theorem saturatingAddU32_le (left right : Nat) : saturatingAddU32 left right ≤ left + right :=
  Nat.min_le_left _ _

/- The family has a budget once it is charged. -/
theorem budgetId_mem_chargeDisclosure (epoch : EvolutionEpoch) (queries : Nat) (now : Timestamp) :
    epoch.budgetId ∈ (chargeDisclosure epoch queries now state).map DisclosureBudget.budgetId ∧
      ∀ budgetId ∈ state.disclosureBudgets.map DisclosureBudget.budgetId,
        budgetId ∈ (chargeDisclosure epoch queries now state).map DisclosureBudget.budgetId := by
  unfold chargeDisclosure
  split
  · rename_i budget hBudget
    have hKeeps : ∀ other : DisclosureBudget,
        (other.charge queries now).budgetId = other.budgetId := fun _ => rfl
    rw [map_modifyFirst hKeeps]
    refine ⟨?_, fun _ h => h⟩
    have hId : budget.budgetId = epoch.budgetId := by simpa using List.find?_some hBudget
    rw [← hId]
    exact List.mem_map_of_mem (List.mem_of_find?_eq_some hBudget)
  · rw [List.map_append]
    exact ⟨List.mem_append_right _ List.mem_cons_self, fun _ h => List.mem_append_left _ h⟩

variable {epoch : EvolutionEpoch} {now : Timestamp}

/- What is charged to a family at most. -/
theorem chargeDisclosure_limited {queries : Nat}
    (hFamilies : ∀ budget ∈ state.disclosureBudgets, budget.queryCount ≤ budget.maximumQueries)
    (hQueries : queries ≤ epoch.budget.maxHoldoutQueries)
    (hFits : ∀ budget ∈ state.budget? epoch.budgetId,
      budget.queryCount + queries ≤ budget.maximumQueries) :
    ∀ budget ∈ chargeDisclosure epoch queries now state,
      budget.queryCount ≤ budget.maximumQueries := by
  unfold chargeDisclosure
  split
  · rename_i known hKnown
    intro budget hMem
    rcases mem_modifyFirst_of_find? hKnown hMem with hOld | rfl
    · exact hFamilies budget hOld
    · exact (saturatingAddU32_le known.queryCount queries).trans (hFits known hKnown)
  · intro budget hMem
    rcases List.mem_append.1 hMem with hOld | hNew
    · exact hFamilies budget hOld
    · rw [List.mem_singleton] at hNew
      subst hNew
      exact hQueries

theorem Disclosed.gateResult {input : EvaluationInput} {gate : GeneralizationGateResult}
    (hDisclosed : Disclosed state) (hFind : state.epoch? epochId = some epoch)
    (hQueries : input.holdoutQueries ≤ epoch.budget.maxHoldoutQueries)
    (hFits : ∀ budget ∈ state.budget? epoch.budgetId,
      budget.queryCount + input.holdoutQueries ≤ budget.maximumQueries ∧
        epoch.holdoutQueries + input.holdoutQueries ≤ epoch.budget.maxHoldoutQueries) :
    Disclosed (addGateResult now state epochId epoch input gate) ∧
      KeepsLimits state (addGateResult now state epochId epoch input gate) := by
  obtain ⟨⟨hFamilies, hLimits⟩, hCharged⟩ := hDisclosed
  have hMem := List.mem_of_find?_eq_some hFind
  have hBudgetIds := @budgetId_mem_chargeDisclosure state epoch input.holdoutQueries now
  refine ⟨⟨⟨chargeDisclosure_limited hFamilies hQueries fun budget hBudget =>
    (hFits budget hBudget).1, ?_⟩, ?_⟩, ?_⟩
  · intro other hOther
    rcases mem_modifyFirst_of_find? hFind hOther with hOld | rfl
    · exact hLimits other hOld
    · refine (saturatingAddU32_le epoch.holdoutQueries input.holdoutQueries).trans ?_
      rcases hBudget : state.budget? epoch.budgetId with _ | budget
      · -- An epoch without a budget was not charged.
        have hNothing : epoch.holdoutQueries = 0 := by
          by_contra hSome
          obtain ⟨known, hKnown, hId⟩ := List.mem_map.1 (hCharged epoch hMem hSome)
          exact List.find?_eq_none.1 hBudget known hKnown (by simpa using hId)
        rw [hNothing, Nat.zero_add]
        exact hQueries
      · exact (hFits budget hBudget).2
  · intro other hOther hSome
    rcases mem_modifyFirst_of_find? hFind hOther with hOld | rfl
    · exact hBudgetIds.2 _ (hCharged other hOld hSome)
    · exact hBudgetIds.1
  · intro other found hFound
    have hKeeps : ∀ epoch : EvolutionEpoch, (epoch.completeGate input.holdoutQueries gate
          now).epochId = epoch.epochId := fun _ => rfl
    by_cases hSame : other = epochId
    · subst hSame
      rw [hFind] at hFound
      cases hFound
      exact ⟨_, epoch?_editEpoch_self hKeeps hFind, rfl⟩
    · exact ⟨found, (epoch?_editEpoch_other hKeeps hSame).trans hFound, rfl⟩

theorem Disclosed.reconciled (hDisclosed : Disclosed state) (updates : List DeploymentUpdate) :
    Disclosed (updates.foldl (applyUpdate now) state) ∧ KeepsLimits state
        (updates.foldl (applyUpdate now) state) := by
  induction updates generalizing state with
  | nil => exact ⟨hDisclosed, KeepsLimits.refl state⟩
  | cons update updates ih =>
    obtain ⟨hDisclosed', hKeeps⟩ : Disclosed (applyUpdate now state update) ∧ KeepsLimits state
            (applyUpdate now state update) :=
      hDisclosed.editEpoch (reconcileStatus_chargesNothing update.epochStatus now) rfl rfl
    obtain ⟨hDisclosed'', hKeeps'⟩ := ih hDisclosed'
    exact ⟨hDisclosed'', hKeeps.trans hKeeps'⟩

end

section

theorem Disclosed.same {state state' : SupervisorState} (hDisclosed : Disclosed state)
    (hBudgets : state'.disclosureBudgets = state.disclosureBudgets)
    (hEpochs : state'.epochs = state.epochs) : Disclosed state' ∧ KeepsLimits state state' := by
  refine ⟨hDisclosed.epochs hBudgets ?_, ?_⟩
  · rw [hEpochs]
    exact fun _ hMem => .inr (.inl hMem)
  · intro epochId epoch hFind
    unfold SupervisorState.epoch? at ⊢
    rw [hEpochs]
    exact ⟨epoch, hFind, rfl⟩

theorem checkDisclosure_le {epoch : EvolutionEpoch} {queries : Nat}
    (hDisclosed : checkDisclosure epoch queries = .ok ()) :
    queries ≤ epoch.budget.maxHoldoutQueries := by
  have hBoth := require_eq_ok.1 hDisclosed
  simp only [decide_eq_true_eq] at hBoth
  exact hBoth.1

theorem disclosing_grows (names : ReleaseNames) : Grows names Disclosing FitsDisclosure := by
  refine grows_of_transact ?_
  intro call start transaction now w state hDisclosed hFits hIssued hApply
  -- only a verdict spends of a disclosure budget
  cases hIssued with
  | read reads => cases reads
  | noted notes =>
    obtain ⟨-, -, -, hBudgets, hEpochs⟩ := noted_frame notes hApply
    exact hDisclosed.same hBudgets hEpochs
  | epochStarted =>
    simp only [Transaction.apply] at hApply
    split at hApply
    · cases hApply
    · cases hApply
      refine ⟨hDisclosed.epochs rfl ?_, ?_⟩
      · intro epoch hMem
        rcases List.mem_append.1 hMem with hOld | hNew
        · exact .inr (.inl hOld)
        · rw [List.mem_singleton] at hNew
          subst hNew
          exact .inl rfl
      · intro epochId epoch hFind
        exact ⟨epoch, epoch?_started hFind _, rfl⟩
  | registered =>
    obtain ⟨epoch, opportunity, -, -, -, -, rfl⟩ := applyProposal_eq_ok hApply
    exact hDisclosed.editEpoch (addCandidate_chargesNothing _) rfl rfl
  | @evaluated _ v input candidate epoch before found frozen inEpoch disclosed =>
    obtain ⟨current, stored, hCurrent, -, rfl⟩ := applyGate_eq_ok hApply
    obtain ⟨epoch', hFind', hBudget⟩ := before.2.2 _ epoch inEpoch
    rw [hCurrent] at hFind'
    cases hFind'
    refine hDisclosed.gateResult hCurrent ?_ (hFits _ rfl _ hCurrent)
    rw [hBudget]
    exact checkDisclosure_le disclosed
  | released before found passed named =>
    obtain ⟨stored, -, rfl⟩ := applyRelease_eq_ok hApply
    exact hDisclosed.editEpoch (setStatus_chargesNothing _ _) rfl rfl
  | observed =>
    cases hApply
    exact hDisclosed.same rfl rfl
  | updated | promotionNoted =>
    obtain ⟨stored, -, rfl⟩ := applyDeployment_eq_ok hApply
    exact hDisclosed.editEpoch (setStatus_chargesNothing _ now) rfl rfl
  | expired =>
    cases hApply
    refine ⟨hDisclosed.epochs rfl ?_, ?_⟩
    · intro epoch hMem
      obtain ⟨old, hOld, rfl⟩ := List.mem_map.1 hMem
      exact .inr (.inr ⟨_, expire_chargesNothing now, old, hOld, rfl⟩)
    · intro epochId epoch hFind
      exact ⟨_, epoch?_expired hFind, (expire_chargesNothing now).budget epoch⟩
  | reconciled found =>
    cases hApply
    exact hDisclosed.reconciled _

end

/-
  In every interleaving in which the evaluations of a family that has a budget
  fit into it, and into the limit of their epoch, no family and no epoch is
  charged beyond its limit, at any time.
-/
theorem disclosure_limited (names : ReleaseNames) (ops : List SupervisorPoolOp)
    (hFits : Machine.Guarded (interleave names) (Pool.Permits FitsDisclosure) ⟨.empty, []⟩ ops) :
    WithinDisclosure (Machine.run (interleave names) ⟨.empty, []⟩ ops).world.state := by
  obtain ⟨-, hLater⟩ := interleaving_issued (GrowsIn.root disclosed_empty) (disclosing_grows names)
    hFits
  exact hLater.2.1.limited

/- Two epochs of one family, each within its own limit. -/
theorem second_epoch_exceeds : ¬ WithinDisclosure (Machine.run (interleave plainNames)
      ⟨.empty, []⟩ (oneByOne calm 30 0 (openingCalls ++ buildCalls "e" "a" "1" ++
          buildCalls "f" "b" "2"))).world.state := by
  decide +kernel

/- Two processes evaluate at once, in two epochs of a family that may ask two queries. -/
def twoEvaluations : List SupervisorPoolOp :=
  oneByOne calm 30 0 (openingCalls ++
    [.startEpoch "o" { trialBudget with maxHoldoutQueries := 2 } "e",
      .registerCandidate (trialProposal "a" "e" "1") "",
      .startEpoch "o" trialBudget "f", .registerCandidate (trialProposal "b" "f" "2") ""]) ++
    [.spawn (.evaluateSuite (trialSuite "a") "1"), .spawn (.evaluateSuite (trialSuite "b") "2")] ++
    (List.replicate 30 [.advance 6 calm, .advance 7 calm]).flatten

/- Both are charged, and use the budget of the family up. -/
theorem two_evaluations_limited :
    let state := (Machine.run (interleave plainNames) ⟨.empty, []⟩ twoEvaluations).world.state
    state.disclosureBudgets.map DisclosureBudget.queryCount = [2] ∧ WithinDisclosure state :=
  ⟨by decide +kernel, disclosure_limited plainNames _ (by decide +kernel)⟩

end GolutraAgent.Supervisor
