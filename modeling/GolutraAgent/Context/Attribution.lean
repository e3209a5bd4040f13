import GolutraAgent.Library.Accounting
import Mathlib.Algebra.BigOperators.Group.List.Lemmas

/-
  This file models how the input tokens that a provider counts are attributed to
  the contributors of a prompt, by weight. Each gets its share rounded down; the
  tokens that are left go one each to the largest remainders.

  Words are numbers here, and where the code saturates there is a minimum. A
  slice has fewer than `2 ^ 64` weights, so that their sum fits in 128 bits.

  Main declarations:
    * `proportionalTokenAttribution_exact`
-/

namespace GolutraAgent.Context

open Word (limit)

/- The larger remainder first, and then the first index. -/
def before (left right : Nat × Nat) : Bool :=
  right.1 < left.1 || left.1 = right.1 && left.2 ≤ right.2

def addToken (shares : List Nat) (index : Nat) : List Nat :=
  shares.modify index (fun share => min (share + 1) limit)

/- The largest remainders get one token each. -/
def giveRest (count : Nat) (remainders shares : List Nat) : List Nat :=
  (((remainders.zipIdx.mergeSort before).take count).map Prod.snd).foldl addToken shares

def attributeTokens (actual : Nat) (weights : List Nat) : List Nat :=
  let totalWeight := weights.sum
  if totalWeight = 0 then weights.map (fun _ => 0)
  else
    let numerators := weights.map (fun weight => min (actual * weight) (2 ^ 128 - 1))
    let shares := numerators.map (fun numerator => min (numerator / totalWeight) limit)
    let assigned := shares.foldl (fun assigned share => min (assigned + share) limit) 0
    giveRest (actual - assigned) (numerators.map (· % totalWeight)) shares

def proportionalTokenAttribution (actual : UInt64) (weights : List UInt64) : List Nat :=
  attributeTokens actual.toNat (weights.map UInt64.toNat)

/-
  Each remainder is less than a unit. So those that make up `count` units are at
  least as many, and the largest of them are not zero.
-/
theorem take_pos {unit count : Nat} {remainders : List Nat}
    (hSorted : remainders.Pairwise (· ≥ ·)) (hLess : ∀ remainder ∈ remainders, remainder < unit)
    (hSum : count * unit ≤ remainders.sum) (hUnit : 0 < unit) :
    count ≤ remainders.length ∧ ∀ remainder ∈ remainders.take count, 0 < remainder := by
  induction remainders generalizing count with
  | nil =>
    have hNone : count = 0 := by
      by_contra hSome
      have hPos := Nat.mul_pos (Nat.pos_of_ne_zero hSome) hUnit
      simp only [List.sum_nil] at hSum
      omega
    simp [hNone]
  | cons first rest ih =>
    cases count with
    | zero => simp
    | succ count =>
      rw [List.pairwise_cons] at hSorted
      rw [List.forall_mem_cons] at hLess
      rw [List.sum_cons, Nat.succ_mul] at hSum
      have hRest := @ih count hSorted.2 hLess.2 (by omega)
      refine ⟨by simpa using hRest.1, ?_⟩
      rw [List.take_succ_cons, List.forall_mem_cons]
      refine ⟨?_, hRest.2⟩
      by_contra hZero
      have hAll : rest.sum = 0 := by
        rw [List.sum_eq_zero_iff]
        intro other hOther
        have hLe := hSorted.1 other hOther
        omega
      omega

theorem sum_remainders (unit actual : Nat) (weights : List Nat) :
    (weights.map (fun w => actual * w / unit)).sum * unit +
        (weights.map (fun w => actual * w % unit)).sum =
      actual * weights.sum := by
  induction weights with
  | nil => simp
  | cons weight weights ih =>
    have hHere := Nat.div_add_mod' (actual * weight) unit
    simp only [List.map_cons, List.sum_cons, Nat.add_mul, Nat.mul_add]
    omega

theorem foldl_saturating {shares : List Nat} {start : Nat} (hFits : start + shares.sum ≤ limit) :
    shares.foldl (fun assigned share =>
      min (assigned + share) limit) start = start + shares.sum := by
  induction shares generalizing start with
  | nil => simp
  | cons share shares ih =>
    rw [List.sum_cons] at hFits ⊢
    rw [List.foldl_cons, ih (by omega)]
    omega

theorem sum_addToken {shares : List Nat} {index share : Nat} (hShare : shares[index]? = some share)
    (hFits : share < limit) : (addToken shares index).sum = shares.sum + 1 := by
  rcases List.getElem?_eq_some_iff.mp hShare with ⟨hIndex, hGet⟩
  have hSplit := List.sum_take_add_sum_drop shares index
  rw [List.drop_eq_getElem_cons hIndex, List.sum_cons] at hSplit
  rw [addToken, List.modify_eq_take_cons_drop hIndex, List.sum_append, List.sum_cons]
  omega

/- Every share that is named gets one token. -/
theorem foldl_addToken {shares indexes : List Nat} (hDistinct : indexes.Nodup)
    (hFits : ∀ index ∈ indexes, ∃ share, shares[index]? = some share ∧ share < limit) :
    (indexes.foldl addToken shares).sum = shares.sum + indexes.length ∧
      ∀ index : Nat, (indexes.foldl addToken shares)[index]? = shares[index]?.map (fun share =>
          if index ∈ indexes then share + 1 else share) := by
  induction indexes generalizing shares with
  | nil => simp
  | cons first indexes ih =>
    rw [List.nodup_cons] at hDistinct
    rw [List.forall_mem_cons] at hFits
    rcases hFits.1 with ⟨share, hShare, hLess⟩
    have hOther : ∀ index, index ≠ first → (addToken shares first)[index]? = shares[index]? := by
      intro index hNe
      simp [addToken, hNe.symm]
    have hRest := @ih (addToken shares first) hDistinct.2 (by
        intro index hIndex
        rw [hOther index (fun hSame => hDistinct.1 (hSame ▸ hIndex))]
        exact hFits.2 index hIndex)
    rw [List.foldl_cons, hRest.1, sum_addToken hShare hLess]
    refine ⟨by rw [List.length_cons]; omega, ?_⟩
    intro index
    rw [hRest.2 index]
    by_cases hSame : index = first
    · subst hSame
      simp [addToken, hShare, hDistinct.1, Nat.min_eq_left hLess]
    · simp [hOther index hSame, hSame]

/- Who gets a token of the rest has a remainder. -/
theorem giveRest_spec {unit count : Nat} {remainders shares : List Nat} (hUnit : 0 < unit)
    (hLess : ∀ remainder ∈ remainders, remainder < unit) (hSum : count * unit = remainders.sum)
    (hRoom : ∀ index remainder : Nat, remainders[index]? = some remainder → 0 < remainder →
        ∃ share, shares[index]? = some share ∧ share < limit) :
    (giveRest count remainders shares).sum = shares.sum + count ∧
      ∃ indexes : List Nat, (∀ index ∈ indexes, ∃ remainder,
          remainders[index]? = some remainder ∧ 0 < remainder) ∧
        ∀ index : Nat, (giveRest count remainders shares)[index]? = shares[index]?.map (fun share =>
              if index ∈ indexes then share + 1
              else share) := by
  have hPerm := List.mergeSort_perm remainders.zipIdx before
  have hSorted : (remainders.zipIdx.mergeSort before).Pairwise (fun left right =>
        before left right = true) := by
    apply List.pairwise_mergeSort
    · simp only [before, Bool.or_eq_true, Bool.and_eq_true, decide_eq_true_eq]
      omega
    · simp only [before, Bool.or_eq_true, Bool.and_eq_true, decide_eq_true_eq]
      omega
  unfold giveRest
  generalize remainders.zipIdx.mergeSort before = sorted at *
  have hFirst : (sorted.map Prod.fst).Perm remainders := by simpa using hPerm.map Prod.fst
  have hSecond : (sorted.map Prod.snd).Nodup := by
    rw [(hPerm.map Prod.snd).nodup_iff, List.zipIdx_map_snd]
    exact List.nodup_range'
  have hDescending : (sorted.map Prod.fst).Pairwise (· ≥ ·) := by
    refine List.pairwise_map.mpr (hSorted.imp ?_)
    intro left right hBefore
    simp only [before, Bool.or_eq_true, Bool.and_eq_true, decide_eq_true_eq] at hBefore
    omega
  have hTake := take_pos hDescending (fun remainder hIn => hLess remainder (hFirst.mem_iff.mp hIn))
    (hFirst.sum_eq ▸ hSum.le) hUnit
  have hUp : ∀ index ∈ (sorted.take count).map Prod.snd,
      ∃ remainder, remainders[index]? = some remainder ∧ 0 < remainder := by
    intro index hIndex
    rcases List.mem_map.mp hIndex with ⟨entry, hEntry, rfl⟩
    refine ⟨entry.1, List.mem_zipIdx_iff_getElem?.mp
      (hPerm.mem_iff.mp (List.mem_of_mem_take hEntry)), ?_⟩
    apply hTake.2
    rw [← List.map_take]
    exact List.mem_map_of_mem hEntry
  have hGiven := @foldl_addToken shares ((sorted.take count).map Prod.snd)
    (hSecond.sublist ((List.take_sublist _ _).map _)) (by
      intro index hIndex
      rcases hUp index hIndex with ⟨remainder, hGet, hPos⟩
      exact hRoom index remainder hGet hPos)
  refine ⟨?_, _, hUp, hGiven.2⟩
  rw [hGiven.1, List.length_map, List.length_take, Nat.min_eq_left (by simpa using hTake.1)]

section

variable {actual total : Nat} {weights : List Nat}
variable (hTotal : weights.sum = total) (hPositive : 0 < total) (hActual : actual ≤ limit)
variable (hWeights : ∀ weight ∈ weights, weight ≤ limit)

include hTotal

theorem le_total {weight : Nat} (hIn : weight ∈ weights) : actual * weight ≤ actual * total :=
  Nat.mul_le_mul_left _ (hTotal ▸ List.single_le_sum (fun _ _ => Nat.zero_le _) _ hIn)

include hPositive

theorem sum_floors_le : (weights.map (actual * · / total)).sum ≤ actual := by
  have hSum := sum_remainders total actual weights
  rw [hTotal] at hSum
  exact Nat.le_of_mul_le_mul_right (Nat.le.intro hSum) hPositive

include hActual hWeights

/- No step of the attribution saturates. -/
theorem attributeTokens_eq :
    attributeTokens actual weights = giveRest (actual - (weights.map (actual * · / total)).sum)
        (weights.map (actual * · % total)) (weights.map (actual * · / total)) := by
  have hNumerators : ∀ weight ∈ weights, min (actual * weight) (2 ^ 128 - 1) = actual * weight := by
    intro weight hIn
    have hBoth := Nat.mul_le_mul hActual (hWeights weight hIn)
    exact Nat.min_eq_left (hBoth.trans (by decide))
  have hShares : ∀ weight ∈ weights, min (actual * weight / total) limit =
        actual * weight / total := by
    intro weight hIn
    exact Nat.min_eq_left ((Nat.div_le_of_le_mul
      (Nat.mul_comm total _ ▸ le_total hTotal hIn)).trans hActual)
  have hLe := @sum_floors_le actual _ _ hTotal hPositive
  simp only [attributeTokens, hTotal, if_neg hPositive.ne',
    List.map_congr_left hNumerators, List.map_map, Function.comp_def, List.map_congr_left hShares]
  rw [foldl_saturating (by omega), Nat.zero_add]

/- Each share is the exact one rounded down or up. -/
theorem attributeTokens_spec : (attributeTokens actual weights).sum = actual ∧
      (attributeTokens actual weights).length = weights.length ∧
      ∀ (index : Nat) weight share, weights[index]? = some weight →
        (attributeTokens actual weights)[index]? = some share → actual * weight / total ≤ share ∧
          share ≤ actual * weight / total + 1 ∧ (share = actual * weight / total ∨
            share = (actual * weight + (total - 1)) / total) := by
  have hLe := @sum_floors_le actual _ _ hTotal hPositive
  have hAll := sum_remainders total actual weights
  rw [attributeTokens_eq hTotal hPositive hActual hWeights]
  -- as many tokens are left as the remainders make up
  have hCount : (actual - (weights.map (actual * · / total)).sum) *
        total = (weights.map (actual * · % total)).sum := by
    rw [Nat.sub_mul]
    exact Nat.sub_eq_of_eq_add' (hTotal ▸ hAll).symm
  have hLess : ∀ remainder ∈ weights.map (actual * · % total), remainder < total := by
    intro remainder hIn
    rcases List.mem_map.mp hIn with ⟨weight, _, rfl⟩
    exact Nat.mod_lt _ hPositive
  rcases giveRest_spec hPositive hLess hCount (by
      intro index remainder hGet hSome
      rw [List.getElem?_map] at hGet
      rcases Option.map_eq_some_iff.mp hGet with ⟨weight, hWeight, rfl⟩
      refine ⟨actual * weight / total, by rw [List.getElem?_map, hWeight]; rfl, ?_⟩
      have hLe := @le_total actual _ _ hTotal _ (List.mem_of_getElem? hWeight)
      have hDiv := Nat.div_add_mod' (actual * weight) total
      exact (@Nat.lt_of_mul_lt_mul_right total _ _ (by omega)).trans_le hActual) with
    ⟨hSum, indexes, hUp, hGet⟩
  generalize giveRest _ _ _ = shares at *
  refine ⟨by omega, ?_, ?_⟩
  · have hNone : ∀ index : Nat, shares.length ≤ index ↔ weights.length ≤ index := by
      intro index
      rw [← List.getElem?_eq_none_iff, hGet index]
      simp
    exact le_antisymm ((hNone _).mpr le_rfl) ((hNone _).mp le_rfl)
  · intro index weight share hWeight hIs
    rw [hGet index, List.getElem?_map, hWeight] at hIs
    simp only [Option.map_some, Option.some.injEq] at hIs
    rw [← hIs]
    by_cases hIn : index ∈ indexes
    · rcases hUp index hIn with ⟨remainder, hFound, hRest⟩
      rw [List.getElem?_map, hWeight] at hFound
      cases hFound
      dsimp only at hRest
      rw [if_pos hIn]
      have hDiv := Nat.div_add_mod' (actual * weight) total
      have hMod := Nat.mod_lt (actual * weight) hPositive
      refine ⟨Nat.le_succ _, le_rfl, .inr (Nat.div_eq_of_lt_le ?_ ?_).symm⟩
      · rw [Nat.succ_mul]
        omega
      · rw [Nat.succ_mul, Nat.succ_mul]
        omega
    · rw [if_neg hIn]
      exact ⟨le_rfl, Nat.le_succ _, .inl rfl⟩

end

/-
  The shares sum up to what is attributed. Each is the exact share rounded down
  or up, so that a larger weight gets at most one token less.
-/
theorem proportionalTokenAttribution_exact {weights : List UInt64}
    (hPositive : 0 < (weights.map UInt64.toNat).sum) (actual : UInt64) :
    let total := (weights.map UInt64.toNat).sum
    let shares := proportionalTokenAttribution actual weights
    shares.length = weights.length ∧ shares.sum = actual.toNat ∧
      (∀ (index : Nat) weight share, weights[index]? = some weight → shares[index]? = some share →
          share = actual.toNat * weight.toNat / total ∨
          share = (actual.toNat * weight.toNat + (total - 1)) / total) ∧
      ∀ (index other : Nat) weight share weight' share', weights[index]? = some weight →
        shares[index]? = some share → weights[other]? = some weight' → shares[other]? =
        some share' → weight ≤ weight' → share - 1 ≤ share' := by
  intro total shares
  rcases @attributeTokens_spec actual.toNat total (weights.map UInt64.toNat) rfl hPositive
    (Word.toNat_le_limit actual) (by
      intro weight hIn
      rcases List.mem_map.mp hIn with ⟨word, _, rfl⟩
      exact Word.toNat_le_limit word) with ⟨hSum, hLength, hShare⟩
  simp only [List.getElem?_map] at hShare
  refine ⟨hLength.trans (List.length_map _), hSum, ?_, ?_⟩
  · intro index weight share hWeight hIs
    exact (hShare index _ share (by rw [hWeight]; rfl) hIs).2.2
  · intro index other weight share weight' share' hWeight hIs hWeight' hIs' hLe
    have hFloor : actual.toNat * weight.toNat / total ≤ actual.toNat * weight'.toNat / total :=
      Nat.div_le_div_right (Nat.mul_le_mul_left _ (UInt64.le_iff_toNat_le.mp hLe))
    have hHere := hShare index _ share (by rw [hWeight]; rfl) hIs
    have hThere := hShare other _ share' (by rw [hWeight']; rfl) hIs'
    omega

theorem sample_exact :
    0 < ([1, 2].map UInt64.toNat).sum ∧ (proportionalTokenAttribution 10 [1, 2]).sum = 10 :=
  ⟨by decide, (@proportionalTokenAttribution_exact [1, 2] (by decide) 10).2.1⟩

end GolutraAgent.Context
