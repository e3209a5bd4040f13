import GolutraAgent.Library.Transaction
import Mathlib.Data.List.Perm.Basic

/-
  This file models how the edits of a file are applied: every old text is
  searched for in the original, and all of them are replaced in one sweep. The
  search goes on behind a match and so does not see one that overlaps it. Texts
  are lists of characters, and places count them.

  Main declarations:
    * `applyFileEdits_intended_iff`
-/

namespace GolutraAgent.Tools

structure FileEdit where
  oldText : List Char
  newText : List Char

structure EditFailure where
  summary : String
  editIndex : Nat
  searchFound : Bool
  overlap : Bool

/- An edit, and where its old text was found. -/
structure Place where
  start : Nat
  edit : FileEdit

def Place.finish (place : Place) : Nat := place.start + place.edit.oldText.length

/- What `match_indices` yields next, from a cursor on. -/
def nextMatch (text pattern : List Char) (cursor : Nat) : Option Nat :=
  (List.range text.length).find? (fun i => cursor ≤ i ∧ pattern.isPrefixOf (text.drop i))

def locate (original : List Char) (index : Nat) (edit : FileEdit) : Except EditFailure Nat :=
  match nextMatch original edit.oldText 0 with
  | none => .error ⟨"edit target not found at edits[" ++ toString index ++ "]", index, false, false⟩
  | some start =>
    -- the search goes on behind the match, not inside it
    match nextMatch original edit.oldText (start + edit.oldText.length) with
    | some _ => .error ⟨"edit target is not unique at edits[" ++
        toString index ++ "]", index, true, false⟩
    | none => .ok start

def findEdits (original : List Char) : Nat → List FileEdit → Except EditFailure (List Place)
| _, [] => .ok []
| index, edit :: edits => do
  let start ← locate original index edit
  let places ← findEdits original (index + 1) edits
  return ⟨start, edit⟩ :: places

/- The places by their start, each with the index of its edit. -/
def sortByStart (places : List Place) : List (Place × Nat) :=
  places.zipIdx.mergeSort (fun first second => first.1.start ≤ second.1.start)

/- The first edit that begins inside the one before it. -/
def overlapping : List (Place × Nat) → Option Nat
| first :: second :: found =>
  if second.1.start < first.1.finish then some second.2
  else overlapping (second :: found)
| _ => none

def sweep (original : List Char) : Nat → List Place → List Char
| cursor, [] => original.drop cursor
| cursor, place :: places =>
  (original.drop cursor).take (place.start - cursor) ++
    (place.edit.newText ++ sweep original place.finish places)

def applyFileEdits (original : List Char) (edits : List FileEdit) :
    Except EditFailure (List Char × Nat) := do
  let sorted := sortByStart (← findEdits original 0 edits)
  match overlapping sorted with
  | some index => .error ⟨
    "file edits overlap; merge the affected text into one edit", index, true, true⟩
  | none => .ok (sweep original 0 (sorted.map Prod.fst), edits.length)

def Occurs (text pattern : List Char) (i : Nat) : Prop := pattern <+: text.drop i

/- The first place, with the others overlapping it. -/
def Located (text : List Char) (place : Place) : Prop :=
  Occurs text place.edit.oldText place.start ∧ ∀ i, Occurs text place.edit.oldText i →
      place.start ≤ i ∧ i < place.finish

/- The only place. -/
def OnlyAt (text : List Char) (place : Place) : Prop := Occurs text place.edit.oldText place.start ∧
    ∀ i, Occurs text place.edit.oldText i → i = place.start

def Place.Before (first second : Place) : Prop := first.finish ≤ second.start

def Place.Apart (first second : Place) : Prop := first.Before second ∨ second.Before first

/- Each edit has its place, and the places do not overlap. -/
def Separate (At : Place → Prop) (edits : List FileEdit) : Prop :=
  ∃ places : List Place, places.map Place.edit = edits ∧
    (∀ place ∈ places, At place) ∧ places.Pairwise Place.Apart

/- The old texts are parts of the original, and replaced. -/
def Replaced (original : List Char) (edits : List FileEdit) (result : List Char) : Prop :=
  ∃ (pieces : List (List Char × FileEdit)) (last : List Char), (pieces.map Prod.snd).Perm edits ∧
    original = pieces.flatMap (fun piece => piece.1 ++ piece.2.oldText) ++ last ∧
    result = pieces.flatMap (fun piece => piece.1 ++ piece.2.newText) ++ last

/- Unambiguous edits are applied, and only these. -/
def Intended (original : List Char) (edits : List FileEdit) : Prop :=
  ((∃ result, applyFileEdits original edits = .ok result) ↔ Separate (OnlyAt original) edits) ∧
  ∀ result, applyFileEdits original edits = .ok result →
    Replaced original edits result.1 ∧ ∀ others, others.Perm edits →
      applyFileEdits original others = .ok result

variable {original pattern : List Char} {edits : List FileEdit} {places : List Place}

section

variable (hPattern : pattern ≠ [])
include hPattern

theorem occurs_lt {i : Nat} (hOccurs : Occurs original pattern i) : i < original.length := by
  by_contra hLe
  rw [Occurs, List.drop_eq_nil_of_le (Nat.not_lt.mp hLe), List.prefix_nil] at hOccurs
  exact hPattern hOccurs

theorem nextMatch_eq_some {cursor i : Nat} :
    nextMatch original pattern cursor = some i ↔ cursor ≤ i ∧ Occurs original pattern i ∧
        ∀ j, cursor ≤ j → Occurs original pattern j → i ≤ j := by
  rw [nextMatch, List.find?_range_eq_some]
  simp only [decide_eq_true_eq, List.isPrefixOf_iff_prefix,
    List.mem_range, Bool.not_eq_true', decide_eq_false_iff_not]
  constructor
  · rintro ⟨⟨hCursor, hOccurs⟩, -, hFirst⟩
    refine ⟨hCursor, hOccurs, fun j hj hOther => ?_⟩
    exact Nat.le_of_not_lt (fun hLt => hFirst j hLt ⟨hj, hOther⟩)
  · rintro ⟨hCursor, hOccurs, hFirst⟩
    refine ⟨⟨hCursor, hOccurs⟩, occurs_lt hPattern hOccurs, ?_⟩
    intro j hLt hOther
    exact Nat.not_le.mpr hLt (hFirst j hOther.1 hOther.2)

theorem nextMatch_eq_none {cursor : Nat} :
    nextMatch original pattern cursor = none ↔ ∀ i, Occurs original pattern i → i < cursor := by
  rw [nextMatch, List.find?_range_eq_none]
  simp only [decide_eq_false_iff_not, Bool.not_eq_true',
    List.isPrefixOf_iff_prefix, not_and', Nat.not_le]
  exact ⟨fun hNone i hOccurs => hNone i (occurs_lt hPattern hOccurs)
    hOccurs, fun hNone i _ => hNone i⟩

end

theorem locate_eq_ok {index : Nat} {place : Place} (hText : place.edit.oldText ≠ []) :
    locate original index place.edit = .ok place.start ↔ Located original place := by
  constructor
  · intro hLocate
    unfold locate at hLocate
    split at hLocate
    · cases hLocate
    · rename_i start hStart
      split at hLocate
      · cases hLocate
      · rename_i hLast
        injection hLocate with hEq
        subst hEq
        rw [nextMatch_eq_some hText] at hStart
        rw [nextMatch_eq_none hText] at hLast
        exact ⟨hStart.2.1, fun i hi => ⟨hStart.2.2 i (Nat.zero_le _) hi, hLast i hi⟩⟩
  · rintro ⟨hOccurs, hOthers⟩
    have hStart := (nextMatch_eq_some hText).mpr
      ⟨Nat.zero_le _, hOccurs, fun i _ hi => (hOthers i hi).1⟩
    have hLast := (nextMatch_eq_none hText).mpr (fun i hi => (hOthers i hi).2)
    rw [Place.finish] at hLast
    simp [locate, hStart, hLast]

theorem findEdits_eq_ok {index : Nat} (hTexts : ∀ edit ∈ edits, edit.oldText ≠ []) :
    findEdits original index edits = .ok places ↔ places.map Place.edit = edits ∧
        ∀ place ∈ places, Located original place := by
  induction edits generalizing index places with
  | nil =>
    rw [List.map_eq_nil_iff]
    constructor
    · rintro ⟨⟩
      simp
    · rintro ⟨rfl, -⟩
      rfl
  | cons edit edits ih =>
    rw [List.forall_mem_cons] at hTexts
    rw [findEdits]
    simp only [Transaction.bind_eq_ok, ih hTexts.2]
    constructor
    · rintro ⟨start, hStart, rest, ⟨rfl, hRest⟩, ⟨⟩⟩
      refine ⟨rfl, List.forall_mem_cons.mpr ⟨?_, hRest⟩⟩
      exact (locate_eq_ok hTexts.1).mp hStart
    · rintro ⟨hMap, hLocated⟩
      rcases List.map_eq_cons_iff.mp hMap with ⟨place, rest, rfl, rfl, hRest⟩
      rw [List.forall_mem_cons] at hLocated
      exact ⟨_, (locate_eq_ok hTexts.1).mpr hLocated.1, rest, ⟨hRest, hLocated.2⟩, rfl⟩

theorem overlapping_eq_none {found : List (Place × Nat)} :
    overlapping found = none ↔ (found.map Prod.fst).Pairwise Place.Before := by
  have hTrans : IsTrans Place Place.Before := by
    constructor
    unfold Place.Before Place.finish at *
    omega
  rw [← List.isChain_iff_pairwise]
  fun_induction overlapping found with
  | case1 first second found hOverlap => simp [Place.Before, Nat.not_le.mpr hOverlap]
  | case2 first second found hApart ih => simp_all [Place.Before]
  | case3 found hShort =>
    match found, hShort with
    | [], _ | [_], _ => simp
    | first :: second :: rest, hShort => exact absurd rfl (hShort first second rest)

theorem Place.Apart.symm {first second : Place}
    (hApart : first.Apart second) : second.Apart first := Or.symm hApart

theorem sortByStart_perm (places : List Place) :
    ((sortByStart places).map Prod.fst).Perm places := by
  have hPerm := (List.mergeSort_perm places.zipIdx (fun first second =>
    first.1.start ≤ second.1.start)).map Prod.fst
  rwa [List.zipIdx_map_fst] at hPerm

/- Places that do not overlap are sorted one before the next. -/
theorem sortByStart_before (hTexts : ∀ place ∈ places, place.edit.oldText ≠ []) :
    ((sortByStart places).map Prod.fst).Pairwise Place.Before ↔ places.Pairwise Place.Apart := by
  have hPerm := sortByStart_perm places
  rw [← hPerm.pairwise_iff Place.Apart.symm]
  constructor
  · exact List.Pairwise.imp .inl
  · intro hApart
    -- of two places that are apart, the earlier one ends first
    have hSorted : ((sortByStart places).map Prod.fst).Pairwise
        (fun first second => first.start ≤ second.start) := by
      rw [List.pairwise_map]
      refine (List.pairwise_mergeSort ?_ ?_ _).imp of_decide_eq_true
      · simp only [decide_eq_true_eq]
        exact fun _ _ _ => Nat.le_trans
      · simp only [Bool.or_eq_true, decide_eq_true_eq]
        exact fun _ _ => Nat.le_total _ _
    refine (hApart.and hSorted).imp_of_mem ?_
    intro first second _ hSecond ⟨hEither, hLe⟩
    have hText := List.length_pos_iff.mpr (hTexts second (hPerm.mem_iff.mp hSecond))
    unfold Place.Apart Place.Before Place.finish at *
    omega

/- The order of the edits does not matter for the sweep. -/
theorem sortByStart_eq {others : List Place} (hTexts : ∀ place ∈ places, place.edit.oldText ≠ [])
    (hPerm : others.Perm places) (hApart : places.Pairwise Place.Apart) :
    (sortByStart others).map Prod.fst = (sortByStart places).map Prod.fst := by
  have hOthers := (sortByStart_before (fun place hPlace =>
    hTexts place (hPerm.mem_iff.mp hPlace))).mpr ((hPerm.pairwise_iff Place.Apart.symm).mpr hApart)
  refine List.Perm.eq_of_pairwise ?_ hOthers ((sortByStart_before hTexts).mpr hApart)
    (((sortByStart_perm others).trans hPerm).trans (sortByStart_perm places).symm)
  intro first second _ hSecond hFirst hBack
  have hText := List.length_pos_iff.mpr
    (hTexts second ((sortByStart_perm places).mem_iff.mp hSecond))
  unfold Place.Before Place.finish at *
  omega

theorem sweep_replaced {cursor : Nat} (hPlaces : ∀ place ∈ places, cursor ≤ place.start ∧
      Occurs original place.edit.oldText place.start)
    (hBefore : places.Pairwise Place.Before) :
    ∃ (pieces : List (List Char × FileEdit)) (last : List Char),
      pieces.map Prod.snd = places.map Place.edit ∧ original.drop cursor = pieces.flatMap
        (fun piece => piece.1 ++ piece.2.oldText) ++ last ∧
      sweep original cursor places = pieces.flatMap
        (fun piece => piece.1 ++ piece.2.newText) ++ last := by
  -- one piece for each place, from the cursor on
  induction places generalizing cursor with
  | nil => exact ⟨[], original.drop cursor, rfl, rfl, rfl⟩
  | cons place places ih =>
    rw [List.forall_mem_cons] at hPlaces
    rcases hPlaces with ⟨⟨hCursor, rest, hRest⟩, hPlaces⟩
    rw [List.pairwise_cons] at hBefore
    have hDrop : original.drop place.finish = rest := by
      rw [Place.finish, ← List.drop_drop, ← hRest, List.drop_left]
    rcases ih (fun other hOther =>
      ⟨hBefore.1 other hOther, (hPlaces other hOther).2⟩)
      hBefore.2 with ⟨pieces, last, hEdits, hOld, hNew⟩
    refine ⟨((original.drop cursor).take (place.start - cursor),
      place.edit) :: pieces, last, by simp [hEdits], ?_, ?_⟩
    · have hSplit := List.take_append_drop (place.start - cursor) (original.drop cursor)
      rw [List.drop_drop, Nat.add_sub_cancel' hCursor, ← hRest, ← hDrop, hOld] at hSplit
      rw [List.flatMap_cons, List.append_assoc, List.append_assoc]
      exact hSplit.symm
    · simp [sweep, hNew]

section

variable (hTexts : ∀ edit ∈ edits, edit.oldText ≠ [])
include hTexts

theorem applyFileEdits_eq_ok {result : List Char × Nat} :
    applyFileEdits original edits = .ok result ↔
      ∃ places : List Place, places.map Place.edit = edits ∧
        (∀ place ∈ places, Located original place) ∧ places.Pairwise Place.Apart ∧
        result = (sweep original 0 ((sortByStart places).map Prod.fst), edits.length) := by
  rw [applyFileEdits, Transaction.bind_eq_ok]
  refine exists_congr (fun places => ?_)
  rw [findEdits_eq_ok hTexts, and_assoc]
  refine and_congr_right (fun hEdits => and_congr_right (fun _ => ?_))
  rw [← sortByStart_before (fun place hPlace =>
    hTexts _ (hEdits ▸ List.mem_map_of_mem hPlace)), ← overlapping_eq_none]
  cases hFirst : overlapping (sortByStart places) with
  | some index => simp [hFirst]
  | none => simp [hFirst, eq_comm]

theorem applyFileEdits_replaced {result : List Char × Nat}
    (hResult : applyFileEdits original edits = .ok result) : Replaced original edits result.1 := by
  rcases (applyFileEdits_eq_ok hTexts).mp hResult with ⟨places, rfl, hLocated, hApart, rfl⟩
  have hPerm := sortByStart_perm places
  rw [← sortByStart_before (fun place hPlace => hTexts _ (List.mem_map_of_mem hPlace))] at hApart
  rcases sweep_replaced (fun place hPlace =>
    ⟨Nat.zero_le _, (hLocated place (hPerm.mem_iff.mp hPlace)).1⟩)
    hApart with ⟨pieces, last, hPieces, hOld, hNew⟩
  exact ⟨pieces, last, hPieces ▸ hPerm.map _, hOld, hNew⟩

theorem applyFileEdits_perm {others : List FileEdit} {result : List Char × Nat}
    (hPerm : others.Perm edits) (hResult : applyFileEdits original edits = .ok result) :
    applyFileEdits original others = .ok result := by
  rcases (applyFileEdits_eq_ok hTexts).mp hResult with ⟨places, hEdits, hLocated, hApart, rfl⟩
  have hEach : List.Forall₂ (fun edit (place : Place) => place.edit = edit) edits places := by
    rw [← hEdits, List.forall₂_map_left_iff, List.forall₂_same]
    exact fun _ _ => rfl
  -- every edit takes its place along
  rcases List.perm_comp_forall₂ hPerm hEach with ⟨moved, hMoved, hSame⟩
  refine (applyFileEdits_eq_ok (fun edit hEdit =>
    hTexts edit (hPerm.mem_iff.mp hEdit))).mpr ⟨moved, ?_, fun place hPlace => hLocated place
      (hSame.mem_iff.mp hPlace), (hSame.pairwise_iff Place.Apart.symm).mpr hApart, ?_⟩
  · exact (List.forall₂_eq_eq_eq ▸ List.forall₂_map_right_iff.mpr
      (hMoved.imp fun _ _ => Eq.symm) :).symm
  · rw [sortByStart_eq (fun place hPlace => hTexts _
      (hEdits ▸ List.mem_map_of_mem hPlace)) hSame hApart, hPerm.length_eq]

/-
  The edits are applied as intended, unless their first places are apart and
  another place of an old text overlaps them.
-/
theorem applyFileEdits_intended_iff : Intended original edits ↔ (Separate (Located original) edits →
      ∀ edit ∈ edits, ∀ i j, Occurs original edit.oldText i →
        Occurs original edit.oldText j → i = j) := by
  have hAccepts : (∃ result, applyFileEdits original edits =
      .ok result) ↔ Separate (Located original) edits := by
    simp only [applyFileEdits_eq_ok hTexts]
    constructor
    · rintro ⟨_, places, hEdits, hLocated, hApart, -⟩
      exact ⟨places, hEdits, hLocated, hApart⟩
    · rintro ⟨places, hEdits, hLocated, hApart⟩
      exact ⟨_, places, hEdits, hLocated, hApart, rfl⟩
  rw [Intended, hAccepts]
  constructor
  · rintro ⟨hIff, -⟩ hSeparate edit hEdit i j hi hj
    rcases hIff.mp hSeparate with ⟨places, rfl, hOnly, -⟩
    rcases List.mem_map.mp hEdit with ⟨place, hPlace, rfl⟩
    have hUnique := (hOnly place hPlace).2
    exact (hUnique i hi).trans (hUnique j hj).symm
  · intro hUnique
    refine ⟨⟨?_, ?_⟩, fun result hResult =>
      ⟨applyFileEdits_replaced hTexts hResult, fun others hPerm =>
        applyFileEdits_perm hTexts hPerm hResult⟩⟩
    · intro hSeparate
      have hSame := hUnique hSeparate
      rcases hSeparate with ⟨places, rfl, hLocated, hApart⟩
      refine ⟨places, rfl, fun place hPlace => ?_, hApart⟩
      have hHere := (hLocated place hPlace).1
      exact ⟨hHere, fun i hi => hSame _ (List.mem_map_of_mem hPlace) i _ hi hHere⟩
    · rintro ⟨places, rfl, hOnly, hApart⟩
      refine ⟨places, rfl, fun place hPlace => ?_, hApart⟩
      refine ⟨(hOnly place hPlace).1, fun i hi => ?_⟩
      have hText := List.length_pos_iff.mpr (hTexts _ (List.mem_map_of_mem hPlace))
      have hSame := (hOnly place hPlace).2 i hi
      unfold Place.finish
      omega

end

theorem swapped_letters_intended :
    Intended ['a', 'b'] [⟨['b'], ['a']⟩, ⟨['a'], ['b']⟩] := by
  refine (applyFileEdits_intended_iff (by simp)).mpr ?_
  have hOnly : ∀ letter i j, Occurs ['a', 'b'] [letter] i →
      Occurs ['a', 'b'] [letter] j → i = j := by
    rintro letter (_ | _ | i) (_ | _ | j) hi hj <;> simp_all [Occurs]
  intro _ edit hEdit i j hi hj
  rcases List.mem_pair.mp hEdit with rfl | rfl
  · exact hOnly 'b' i j hi hj
  · exact hOnly 'a' i j hi hj

/- The old text `aa` has two places in `aaa`. -/
theorem double_letter_not_intended : ¬ Intended ['a', 'a', 'a'] [⟨['a', 'a'], ['b']⟩] := by
  rintro ⟨hIff, -⟩
  have hResult : applyFileEdits ['a', 'a', 'a'] [⟨['a', 'a'], ['b']⟩] = .ok (['b', 'a'], 1) := by
    change (match overlapping (sortByStart [⟨0, ⟨['a', 'a'], ['b']⟩⟩]) with
      | some index => _
      | none => _) = _
    simp [sortByStart, overlapping, sweep, Place.finish]
  rcases hIff.mp ⟨_, hResult⟩ with ⟨places, hEdits, hOnly, -⟩
  rcases List.map_eq_singleton_iff.mp hEdits with ⟨place, rfl, hEdit⟩
  have hUnique := (hOnly place List.mem_cons_self).2
  rw [hEdit] at hUnique
  have hZero := hUnique 0 ⟨['a'], rfl⟩
  have hOne := hUnique 1 ⟨[], rfl⟩
  omega

end GolutraAgent.Tools
