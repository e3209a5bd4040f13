import Mathlib.Data.Set.Function
import GolutraAgent.Library.JsonMap
import GolutraAgent.Library.Uuid

/-
  This file develops renamings of UUIDs: injective maps, what they do to the
  texts that read as UUIDs, and the decoders that respect them. New names for
  some UUIDs extend to a renaming of all of them, if the new names are not among
  the old ones.

  Key definitions include:
    * `Uuid.renameText`
    * `Uuid.renamePrinted`
-/

/- Old and new names are exchanged, and the others stay. -/
theorem exists_injective_extending {α : Type} (old : Set α) (name : α → α)
    (hInj : Set.InjOn name old) (hNew : ∀ x ∈ old, name x ∉ old) :
    ∃ rename : α → α, Function.Injective rename ∧
      (∀ x ∈ old, rename x = name x) ∧ (∀ x ∈ old, rename (name x) = x) ∧
      ∀ x, x ∉ old → (∀ y ∈ old, name y ≠ x) → rename x = x := by
  classical
  let rename : α → α := fun x =>
    if x ∈ old then name x
    else if hImage : ∃ y ∈ old, name y = x then hImage.choose
    else x
  have hOld : ∀ x ∈ old, rename x = name x := by
    intro x hx
    simp [rename, hx]
  have hBack : ∀ x ∈ old, rename (name x) = x := by
    intro x hx
    have hImage : ∃ y ∈ old, name y = name x := ⟨x, hx, rfl⟩
    have hChoice := hImage.choose_spec
    have hSame : hImage.choose = x := hInj hChoice.1 hx hChoice.2
    simp [rename, hNew x hx, dif_pos hImage, hSame]
  have hRest : ∀ x, x ∉ old → (∀ y ∈ old, name y ≠ x) → rename x = x := by
    intro x hx hNone
    have hImage : ¬ ∃ y ∈ old, name y = x := by
      rintro ⟨y, hy, hSame⟩
      exact hNone y hy hSame
    simp [rename, hx, dif_neg hImage]
  -- The map is its own inverse.
  have hTwice : Function.Involutive rename := by
    intro x
    by_cases hx : x ∈ old
    · rw [hOld x hx, hBack x hx]
    · by_cases hImage : ∃ y ∈ old, name y = x
      · obtain ⟨y, hy, rfl⟩ := hImage
        rw [hBack y hy, hOld y hy]
      · have hNone : ∀ y ∈ old, name y ≠ x := fun y hy hSame => hImage ⟨y, hy, hSame⟩
        rw [hRest x hx hNone, hRest x hx hNone]
  exact ⟨rename, hTwice.injective, hOld, hBack, hRest⟩

namespace Uuid

theorem toText_injective : Function.Injective toText := by
  intro first second hSame
  have hRead := congrArg ofText hSame
  rw [ofText_toText, ofText_toText] at hRead
  exact Option.some.inj hRead

/- A text that reads as a UUID that moves is replaced. -/
def renameText (rename : Uuid → Uuid) (text : String) : String :=
  match ofText text with
  | none => text
  | some uuid =>
    if rename uuid = uuid then text
    else (rename uuid).toText

variable {rename : Uuid → Uuid}

theorem ofText_renameText (rename : Uuid → Uuid) (text : String) :
    ofText (renameText rename text) = (ofText text).map rename := by
  unfold renameText
  cases hRead : ofText text with
  | none => exact hRead
  | some uuid =>
    by_cases hFixed : rename uuid = uuid
    · simp [hFixed, hRead]
    · simp [hFixed]

variable {text : String}

/- Texts that do not read as UUIDs stay. -/
theorem renameText_of_ofText (hText : ofText text = none) : renameText rename text = text := by
  simp [renameText, hText]

/- Only the one form that `toText` prints is replaced. -/
def renamePrinted (rename : Uuid → Uuid) (text : String) : String :=
  match ofText text with
  | none => text
  | some uuid =>
    if uuid.toText = text then (rename uuid).toText
    else text

@[simp] theorem renamePrinted_toText (rename : Uuid → Uuid) (uuid : Uuid) :
    renamePrinted rename uuid.toText = (rename uuid).toText := by
  simp [renamePrinted]

theorem renamePrinted_of_ne (hText : ∀ uuid, text ≠ Uuid.toText uuid) :
    renamePrinted rename text = text := by
  unfold renamePrinted
  cases hRead : ofText text with
  | none => rfl
  | some uuid => simp [(hText uuid).symm]

/- The two agree, if the UUIDs that move are printed so. -/
theorem renamePrinted_eq_renameText
    (hPrinted : ∀ uuid, ofText text = some uuid → rename uuid ≠ uuid → text = uuid.toText) :
    renamePrinted rename text = renameText rename text := by
  unfold renamePrinted renameText
  cases hRead : ofText text with
  | none => rfl
  | some uuid =>
    by_cases hFixed : rename uuid = uuid
    · by_cases hText : uuid.toText = text
      · simp [hFixed]
      · simp [hFixed]
    · simp [hFixed, hPrinted uuid hRead hFixed]

/- A text that reads as a UUID may start with these. -/
def startsUuid (c : Char) : Bool := (hexValue c).isSome || c = '{' || c = 'u'

variable {cs : List Char} {uuid : Uuid}

theorem ofHex_head (hRead : ofHex cs = some uuid) :
    ∃ c rest, cs = c :: rest ∧ (hexValue c).isSome = true := by
  obtain ⟨ds, hDigits, hLength⟩ := Option.bind_eq_some_iff.1 hRead
  cases cs with
  | nil =>
    cases hDigits
    cases hLength
  | cons c rest =>
    refine ⟨c, rest, rfl, ?_⟩
    cases hValue : hexValue c with
    | none => simp [hValue] at hDigits
    | some n => rfl

theorem ofHyphenated_head (hRead : ofHyphenated cs = some uuid) :
    ∃ c rest, cs = c :: rest ∧ (hexValue c).isSome = true := by
  obtain ⟨joined, hSplit, hHex⟩ := Option.bind_eq_some_iff.1 hRead
  obtain ⟨c, rest, rfl, hValue⟩ := ofHex_head hHex
  simp only [groups, splitGroups] at hSplit
  split at hSplit
  · rename_i tail hDrop
    obtain ⟨later, -, hJoined⟩ := Option.map_eq_some_iff.1 hSplit
    cases cs with
    | nil => cases hDrop
    | cons first others =>
      cases hJoined
      exact ⟨_, others, rfl, hValue⟩
  · cases hSplit

theorem ofText_head (hRead : ofText text = some uuid) :
    ∃ c rest, text.toList = c :: rest ∧ startsUuid c = true := by
  have hHex : ∀ cs, (∃ c rest, cs = c :: rest ∧ (hexValue c).isSome = true) →
        ∃ c rest, cs = c :: rest ∧ startsUuid c = true := by
    rintro cs ⟨c, rest, hStart, hValue⟩
    exact ⟨c, rest, hStart, by simp [startsUuid, hValue]⟩
  unfold ofText at hRead
  simp only at hRead
  split at hRead
  · exact hHex _ (ofHex_head hRead)
  split at hRead
  · exact hHex _ (ofHyphenated_head hRead)
  split at hRead
  · rename_i hBraces
    obtain ⟨rest, hStart⟩ := List.head?_eq_some_iff.1 hBraces.2.1
    exact ⟨_, rest, hStart, by decide⟩
  split at hRead
  · rename_i hUrn
    cases hStart : text.toList with
    | nil =>
      rw [hStart] at hUrn
      cases hUrn.1
    | cons c rest =>
      have hHead := congrArg List.head? hUrn.2
      rw [hStart] at hHead
      cases hHead
      exact ⟨_, rest, rfl, by decide⟩
  · cases hRead

/- Such a text does not start with another character. -/
theorem not_startsWith_of_ofText {text start : String} (hRead : ofText text = some uuid)
    (hStart : (start.toList.head?.map startsUuid) = some false) :
    text.startsWith start = false := by
  rw [Bool.eq_false_iff]
  intro hStarts
  obtain ⟨tail, hText⟩ := String.startsWith_string_iff.1 hStarts
  obtain ⟨c, rest, hHead, hUuid⟩ := ofText_head hRead
  cases hList : start.toList with
  | nil =>
    rw [hList] at hStart
    cases hStart
  | cons first others =>
    rw [hList] at hStart hText
    rw [hHead] at hText
    cases hText
    simp [hUuid] at hStart

theorem equivariant_codec (rename : Uuid → Uuid) :
    Json.Equivariant (renameText rename) codec.decode rename := by
  intro value
  cases value with
  | string text =>
    simp [codec, Json.Codec.names, Json.Value.mapStrings, Json.Value.asStr, ofText_renameText]
  | _ => rfl

/- Names that do not read as UUIDs are not renamed. -/
theorem equivariant_variant {α : Type} {names : List (String × α)}
    (hNames : names.all (fun row => (ofText row.1).isNone) = true) (rename : Uuid → Uuid) :
    Json.Equivariant (renameText rename) (·.variant names) id := by
  have hNot : ∀ text uuid, ofText text = some uuid → names.lookup text = none := by
    intro text uuid hRead
    rw [List.lookup_eq_none_iff]
    intro row hRow
    rw [bne_iff_ne]
    rintro rfl
    have hNone := List.all_eq_true.mp hNames row hRow
    rw [hRead] at hNone
    cases hNone
  intro value
  cases value with
  | string text =>
    change names.lookup (renameText rename text) = (names.lookup text).map id
    rw [Option.map_id_apply]
    cases hRead : ofText text with
    | none => rw [renameText_of_ofText hRead]
    | some uuid =>
      have hRenamed : ofText (renameText rename text) = some (rename uuid) := by
        rw [ofText_renameText, hRead]
        rfl
      rw [hNot _ _ hRead, hNot _ _ hRenamed]
  | _ => rfl

end Uuid
