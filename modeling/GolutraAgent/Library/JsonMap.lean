import GolutraAgent.Library.Json

/-
  This file develops maps of the strings inside a JSON value. A decoder is
  equivariant if it reads a mapped value as the mapped result; decoders of
  records are, if those of their fields are. The keys of an object are never
  mapped.

  Key definitions include:
    * `Json.Value.mapStrings`
    * `Json.Value.strings`
-/

namespace Json

namespace Value

mutual

def mapStrings (f : String → String) : Value → Value
| .string s => .string (f s)
| .array items => .array (mapItems f items)
| .object fields => .object (mapFields f fields)
| .null => .null
| .bool b => .bool b
| .number n => .number n

def mapItems (f : String → String) : List Value → List Value
| [] => []
| item :: items => mapStrings f item :: mapItems f items

def mapFields (f : String → String) : List (String × Value) → List (String × Value)
| [] => []
| (name, value) :: fields => (name, mapStrings f value) :: mapFields f fields

end

mutual

/- The strings of a value, without the keys of objects. -/
def strings : Value → List String
| .string s => [s]
| .array items => itemStrings items
| .object fields => fieldStrings fields
| .null | .bool _ | .number _ => []

def itemStrings : List Value → List String
| [] => []
| item :: items => strings item ++ itemStrings items

def fieldStrings : List (String × Value) → List String
| [] => []
| (_, value) :: fields => strings value ++ fieldStrings fields

end

variable {f g : String → String}

theorem mapItems_eq_map (f : String → String) (items : List Value) :
    mapItems f items = items.map (mapStrings f) := by
  induction items with
  | nil => rfl
  | cons item items ih => rw [mapItems, ih, List.map_cons]

theorem lookup_mapFields (f : String → String) (key : String) (fields : List (String × Value)) :
    lookup key (mapFields f fields) = (lookup key fields).map (mapStrings f) := by
  induction fields with
  | nil => rfl
  | cons field fields ih =>
    rcases field with ⟨name, value⟩
    by_cases hName : name = key
    · simp [mapFields, hName]
    · simp [mapFields, lookup, hName, ih]

theorem get_mapStrings (f : String → String) (key : String) (value : Value) :
    (value.mapStrings f).get key = (value.get key).map (mapStrings f) := by
  cases value with
  | object fields => exact lookup_mapFields f key fields
  | _ => simp [mapStrings, get]

theorem pointer_mapStrings (f : String → String) (value : Value) (path : List String) :
    (value.mapStrings f).pointer path = (value.pointer path).map (mapStrings f) := by
  induction path generalizing value with
  | nil => rfl
  | cons key path ih =>
    simp only [pointer, get_mapStrings]
    cases value.get key with
    | none => rfl
    | some inner => exact ih inner

theorem asStr_mapStrings (f : String → String) (value : Value) :
    (value.mapStrings f).asStr = value.asStr.map f := by
  cases value <;> rfl

theorem asArray_mapStrings (f : String → String) (value : Value) :
    (value.mapStrings f).asArray = value.asArray.map (List.map (mapStrings f)) := by
  cases value with
  | array items => simp [mapStrings, asArray, mapItems_eq_map]
  | _ => rfl

mutual

theorem strings_mapStrings (f : String → String) :
    ∀ value : Value, (value.mapStrings f).strings = value.strings.map f
| .string _ => rfl
| .array items => itemStrings_mapItems f items
| .object fields => fieldStrings_mapFields f fields
| .null => rfl
| .bool _ => rfl
| .number _ => rfl

theorem itemStrings_mapItems (f : String → String) :
    ∀ items : List Value, itemStrings (mapItems f items) = (itemStrings items).map f
| [] => rfl
| item :: items => by
    rw [mapItems, itemStrings, itemStrings, List.map_append,
      strings_mapStrings f item, itemStrings_mapItems f items]

theorem fieldStrings_mapFields (f : String → String) : ∀ fields : List (String × Value),
      fieldStrings (mapFields f fields) = (fieldStrings fields).map f
| [] => rfl
| (_, value) :: fields => by
    rw [mapFields, fieldStrings, fieldStrings, List.map_append, strings_mapStrings f value,
      fieldStrings_mapFields f fields]

end

mutual

/- Maps that agree on the strings of a value agree on it. -/
theorem mapStrings_congr :
    ∀ value : Value, (∀ s ∈ value.strings, f s = g s) → value.mapStrings f = value.mapStrings g
| .string s, hSame => by
    rw [mapStrings, mapStrings, hSame s (by rw [strings]; exact List.mem_singleton_self s)]
| .array items, hSame => by
    rw [mapStrings, mapStrings, mapItems_congr items hSame]
| .object fields, hSame => by
    rw [mapStrings, mapStrings, mapFields_congr fields hSame]
| .null, _ => rfl
| .bool _, _ => rfl
| .number _, _ => rfl

theorem mapItems_congr :
    ∀ items : List Value, (∀ s ∈ itemStrings items, f s = g s) → mapItems f items = mapItems g items
| [], _ => rfl
| item :: items, hSame => by
    rw [itemStrings] at hSame
    rw [mapItems, mapItems, mapStrings_congr item (fun s hIn =>
        hSame s (List.mem_append_left _ hIn)),
      mapItems_congr items (fun s hIn => hSame s (List.mem_append_right _ hIn))]

theorem mapFields_congr : ∀ fields : List (String × Value), (∀ s ∈ fieldStrings fields, f s = g s) →
        mapFields f fields = mapFields g fields
| [], _ => rfl
| (_, value) :: fields, hSame => by
    rw [fieldStrings] at hSame
    rw [mapFields, mapFields, mapStrings_congr value (fun s hIn =>
        hSame s (List.mem_append_left _ hIn)),
      mapFields_congr fields (fun s hIn => hSame s (List.mem_append_right _ hIn))]

end

theorem strings_of_get {key : String} {value inner : Value}
    (hGet : value.get key = some inner) : inner.strings ⊆ value.strings := by
  cases value with
  | object fields =>
    rw [get_object] at hGet
    induction fields with
    | nil => cases hGet
    | cons field fields ih =>
      rcases field with ⟨name, value⟩
      by_cases hName : name = key
      · simp only [lookup, hName] at hGet
        cases hGet
        exact List.subset_append_left _ _
      · simp only [lookup, hName] at hGet
        exact List.subset_append_of_subset_right _ (ih hGet)
  | _ => cases hGet

theorem fieldStrings_insert (key : String) (new : Value) (fields : List (String × Value)) :
    fieldStrings (insert key new fields) ⊆ new.strings ++ fieldStrings fields := by
  induction fields with
  | nil => simp [insert, fieldStrings]
  | cons field fields ih =>
    rcases field with ⟨name, old⟩
    intro text hIn
    rw [fieldStrings, List.mem_append, List.mem_append]
    by_cases hName : name = key
    · simp only [insert, hName, if_true, fieldStrings, List.mem_append] at hIn
      exact hIn.imp_right .inr
    · simp only [insert, hName, if_false, fieldStrings, List.mem_append] at hIn
      rcases hIn with hOld | hRest
      · exact .inr (.inl hOld)
      · exact (List.mem_append.1 (ih hRest)).imp_right .inr

/- A field is overwritten by strings of the object. -/
theorem strings_set {key : String} {value new : Value}
    (hNew : new.strings ⊆ value.strings) : (value.set key new).strings ⊆ value.strings := by
  cases value with
  | object fields =>
    intro text hIn
    rcases List.mem_append.1 (fieldStrings_insert key new fields hIn) with hText | hText
    · exact hNew hText
    · exact hText
  | _ => exact fun _ hIn => hIn

theorem strings_filter (test : Value → Bool) (items : List Value) :
    (Value.array (items.filter test)).strings ⊆ (Value.array items).strings := by
  induction items with
  | nil => exact fun _ hIn => hIn
  | cons item items ih =>
    by_cases hTest : test item = true
    · rw [List.filter_cons_of_pos hTest]
      exact List.append_subset.2
        ⟨List.subset_append_left _ _, List.subset_append_of_subset_right _ ih⟩
    · rw [List.filter_cons_of_neg hTest]
      exact List.subset_append_of_subset_right _ ih

end Value

variable {α : Type} {f : String → String} {decode : Value → Option α} {rename : α → α}

/- What is read from a mapped value is the mapped result. -/
def Equivariant (f : String → String) (decode : Value → Option α) (rename : α → α) : Prop :=
  ∀ value : Value, decode (value.mapStrings f) = (decode value).map rename

namespace Equivariant

theorem asStr (f : String → String) : Equivariant f Value.asStr f := Value.asStr_mapStrings f

theorem asBool (f : String → String) : Equivariant f Value.asBool id := by
  intro value
  cases value <;> rfl

theorem asU64 (f : String → String) : Equivariant f Value.asU64 id := by
  intro value
  cases value with
  | number n => cases n <;> rfl
  | _ => rfl

section

variable (hDecode : Equivariant f decode rename)
include hDecode

variable (value : Value) (key : String)

theorem required :
    (value.mapStrings f).required key decode = (value.required key decode).map rename := by
  simp only [Value.required, Value.get_mapStrings]
  cases value.get key with
  | none => rfl
  | some inner => exact hDecode inner

theorem optional : (value.mapStrings f).optional key decode = (value.optional key decode).map
        (Option.map rename) := by
  simp only [Value.optional, Value.get_mapStrings]
  cases value.get key with
  | none => rfl
  | some inner =>
    have hInner : (decode (inner.mapStrings f)).map some = ((decode inner).map some).map
          (Option.map rename) := by
      rw [hDecode inner]
      simp
    cases inner with
    | null => rfl
    | _ => exact hInner

theorem defaulted {fallback : α} (hFallback : rename fallback = fallback) :
    (value.mapStrings f).defaulted key fallback decode =
      (value.defaulted key fallback decode).map rename := by
  simp only [Value.defaulted, Value.get_mapStrings]
  cases value.get key with
  | none => simp [hFallback]
  | some inner => exact hDecode inner

end

section

/- A decoder that reads a field and goes on with it. -/
variable {β : Type} {renameAll : β → β}

section

variable (hDecode : Equivariant f decode rename)
include hDecode

variable (value : Value) (key : String)

theorem bind_required {next next' : α → Option β} (hNext : ∀ a,
      next' (rename a) = (next a).map renameAll) :
    ((value.mapStrings f).required key decode).bind next' =
      ((value.required key decode).bind next).map renameAll := by
  rw [hDecode.required value key]
  cases value.required key decode with
  | none => rfl
  | some a => exact hNext a

theorem bind_optional {next next' : Option α → Option β} (hNext : ∀ a,
      next' (a.map rename) = (next a).map renameAll) :
    ((value.mapStrings f).optional key decode).bind next' =
      ((value.optional key decode).bind next).map renameAll := by
  rw [hDecode.optional value key]
  cases value.optional key decode with
  | none => rfl
  | some a => exact hNext a

theorem bind_defaulted {fallback : α} (hFallback : rename fallback = fallback)
    {next next' : α → Option β} (hNext : ∀ a, next' (rename a) = (next a).map renameAll) :
    ((value.mapStrings f).defaulted key fallback decode).bind next' =
      ((value.defaulted key fallback decode).bind next).map renameAll := by
  rw [hDecode.defaulted value key hFallback]
  cases value.defaulted key fallback decode with
  | none => rfl
  | some a => exact hNext a

end

end

theorem mapM (hDecode : Equivariant f decode rename) (items : List Value) :
    (items.map (Value.mapStrings f)).mapM decode = (items.mapM decode).map (List.map rename) := by
  induction items with
  | nil => rfl
  | cons item items ih =>
    rw [List.map_cons, List.mapM_cons, List.mapM_cons, ih, hDecode item]
    cases decode item with
    | none => rfl
    | some a => cases items.mapM decode <;> rfl

/- A list of values that are each read by the decoder. -/
theorem array (hDecode : Equivariant f decode rename) :
    Equivariant f (fun value => value.asArray.bind (·.mapM decode)) (List.map rename) := by
  intro value
  simp only [Value.asArray_mapStrings]
  cases value.asArray with
  | none => rfl
  | some items => exact mapM hDecode items

end Equivariant

end Json
