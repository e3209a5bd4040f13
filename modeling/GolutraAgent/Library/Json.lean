import Mathlib.Data.BitVec

/-
  This file defines JSON values in memory and the reading and writing of typed
  data through them. An object keeps its fields in the order of insertion. A
  number keeps which of the three machine representations it has.

  A `Codec` writes a type and reads it back, and carries the proof that reading
  undoes writing. Records are read field by field with `Value.required`,
  `Value.optional` and `Value.defaulted`; fields that a record does not know are
  ignored.

  Key definitions include:
    * `Json.Value`
    * `Json.Value.get`
-/

namespace Json

/- The negative integer of `negInt n` is `-(n + 1)`. -/
inductive Number
| posInt (n : Nat)
| negInt (n : Nat)
| float (bits : BitVec 64)

inductive Value
| null
| bool (b : Bool)
| number (n : Number)
| string (s : String)
| array (items : List Value)
| object (fields : List (String × Value))
deriving Inhabited

/- The value of a field, if the object has it. -/
def lookup (key : String) : List (String × Value) → Option Value
| [] => none
| (name, value) :: fields =>
  if name = key then some value
  else lookup key fields

/- Overwrite a field in place, or add it at the end. -/
def insert (key : String) (value : Value) : List (String × Value) → List (String × Value)
| [] => [(key, value)]
| (name, old) :: fields =>
  if name = key then (name, value) :: fields
  else (name, old) :: insert key value fields

namespace Value

def get (key : String) : Value → Option Value
| .object fields => lookup key fields
| _ => none

/-
  Follow a path of field names. Names that are array indices are not modelled.
-/
def pointer (value : Value) : List String → Option Value
| [] => some value
| key :: path =>
  match value.get key with
  | none => none
  | some inner => inner.pointer path

/- Assign a field of an object. -/
def set (value : Value) (key : String) (field : Value) : Value :=
  match value with
  | .object fields => .object (insert key field fields)
  | other => other

/- Remove a field of an object. -/
def remove (value : Value) (key : String) : Value :=
  match value with
  | .object fields => .object (fields.filter (·.1 ≠ key))
  | other => other

def asStr : Value → Option String
| .string s => some s
| _ => none

/- A variant of an enumeration, by the table of their names. -/
def variant {α : Type} (value : Value) (names : List (String × α)) : Option α :=
  value.asStr.bind (fun name => names.lookup name)

def asBool : Value → Option Bool
| .bool b => some b
| _ => none

def asU64 : Value → Option Nat
| .number (.posInt n) => some n
| _ => none

def asArray : Value → Option (List Value)
| .array items => some items
| _ => none

def isObject : Value → Bool
| .object _ => true
| _ => false

@[simp] theorem get_object (key : String) (fields : List (String × Value)) :
    (Value.object fields).get key = lookup key fields := rfl

end Value

@[simp] theorem lookup_nil (key : String) : lookup key [] = none := rfl

variable (key : String) (value : Value) (fields : List (String × Value))

@[simp] theorem lookup_cons_self : lookup key ((key, value) :: fields) = some value := by
  simp [lookup]

@[simp] theorem lookup_insert_self : lookup key (insert key value fields) = some value := by
  induction fields with
  | nil => simp [insert]
  | cons field fields ih =>
    rcases field with ⟨name, old⟩
    by_cases hName : name = key
    · simp [insert, hName]
    · simp [insert, lookup, hName, ih]

theorem lookup_insert_other {key other : String} (hKey : other ≠ key)
    (value : Value) (fields : List (String × Value)) :
    lookup other (insert key value fields) = lookup other fields := by
  induction fields with
  | nil => simp [insert, lookup, hKey.symm]
  | cons field fields ih =>
    rcases field with ⟨name, old⟩
    by_cases hName : name = key
    · simp [insert, lookup, hName, hKey.symm]
    · simp [insert, lookup, hName, ih]

namespace Value

/- The other fields of an object stay. -/
theorem get_set_other {key other : String} (hKey : other ≠ key)
    (value field : Value) : (value.set key field).get other = value.get other := by
  cases value with
  | object fields => exact lookup_insert_other hKey field fields
  | _ => rfl

theorem get_set_self {key : String} {value old : Value} (hGet : value.get key = some old)
    (field : Value) : (value.set key field).get key = some field := by
  cases value with
  | object fields => exact lookup_insert_self key field fields
  | _ => cases hGet

end Value

/-
  A type that is written to JSON and read back. What is written is never `null`,
  which is left to mean absence.
-/
structure Codec (α : Type) where
  encode : α → Value
  decode : Value → Option α
  decode_encode : ∀ a, decode (encode a) = some a
  encode_ne_null : ∀ a, encode a ≠ .null

attribute [simp] Codec.decode_encode

namespace Codec

variable {α β : Type}

def string : Codec String where
  encode := .string
  decode := Value.asStr
  decode_encode := fun _ => rfl
  encode_ne_null := fun _ => Value.noConfusion

/- An enumeration, written as the name of the variant. -/
def names (name : α → String) (ofName : String → Option α)
    (hName : ∀ a, ofName (name a) = some a) : Codec α where
  encode := fun a => .string (name a)
  decode := fun value => value.asStr.bind ofName
  decode_encode := hName
  encode_ne_null := fun _ => Value.noConfusion

variable (codec : Codec α)

/- A type written as another that it is equivalent to. -/
def wrap (wrapper : α → β) (unwrap : β → α) (hWrap : ∀ b, wrapper (unwrap b) = b) : Codec β where
  encode := fun b => codec.encode (unwrap b)
  decode := fun value => (codec.decode value).map wrapper
  decode_encode := by
    intro b
    simp [hWrap]
  encode_ne_null := fun b => codec.encode_ne_null (unwrap b)

theorem mapM_decode_encode (items : List α) :
    (items.map codec.encode).mapM codec.decode = some items := by
  induction items with
  | nil => rfl
  | cons item items ih => simp [ih]

def list : Codec (List α) where
  encode := fun items => .array (items.map codec.encode)
  decode := fun value => value.asArray.bind (·.mapM codec.decode)
  decode_encode := mapM_decode_encode codec
  encode_ne_null := fun _ => Value.noConfusion

/- An absent value is written as `null`. -/
def nullable : Option α → Value
| none => .null
| some a => codec.encode a

end Codec

namespace Value

variable {α : Type}

/- A field that must be there. -/
def required (decode : Value → Option α) : Option α := (value.get key).bind decode

/- A field that may be missing or `null`. -/
def optional (decode : Value → Option α) : Option (Option α) :=
  match value.get key with
  | none => some none
  | some .null => some none
  | some field => (decode field).map some

/- A field with a default, which must be readable if there. -/
def defaulted (fallback : α) (decode : Value → Option α) : Option α :=
  match value.get key with
  | none => some fallback
  | some field => decode field

variable {codec : Codec α} {key : String} {value : Value}

theorem required_congr {other : Value} (hGet : other.get key = value.get key)
    (decode : Value → Option α) : other.required key decode = value.required key decode := by
  rw [required, required, hGet]

theorem optional_congr {other : Value} (hGet : other.get key = value.get key)
    (decode : Value → Option α) : other.optional key decode = value.optional key decode := by
  rw [optional, optional, hGet]

theorem required_of_get {a : α} (hGet : value.get key = some (codec.encode a)) :
    value.required key codec.decode = some a := by
  simp [required, hGet]

theorem optional_of_get {a : Option α} (hGet : value.get key = some (codec.nullable a)) :
    value.optional key codec.decode = some a := by
  cases a with
  | none => simp [optional, hGet, Codec.nullable]
  | some a =>
    have hNull := codec.encode_ne_null a
    simp only [optional, hGet, Codec.nullable]
    rw [codec.decode_encode]
    rfl

end Value

end Json
