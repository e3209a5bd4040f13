import GolutraAgent.Library.Json

/-
  This file models how the arguments of a tool are shown: secrets are redacted
  first, then what is left is cut down until it fits. How secrets inside a text
  are redacted, and how long a number is in print, is taken from a library.

  Main declarations:
    * `redactToolArguments_display`
-/

namespace GolutraAgent.Tools

open Json (Value)

structure DisplayLibrary where
  redactSensitiveText : String → String
  numberLen : Json.Number → Nat

def maxToolArgumentDisplayBytes : Nat := 8 * 1024
def maxToolArgumentDisplayStringBytes : Nat := 1024
def maxToolArgumentCompactStringBytes : Nat := 96
def maxToolArgumentDisplayItems : Nat := 24
def maxToolArgumentDisplayDepth : Nat := 4

/- Lower case, with underscores for hyphens. -/
def normalizedKey (key : String) : List Char := key.toList.map (fun letter =>
    if letter = '-' then '_' else letter.toLower)

def sensitiveJsonKey (key : String) : Bool :=
  let normalized := normalizedKey key
  let collapsed := normalized.filter (· ≠ '_')
  ["api_key", "authorization", "token", "secret", "password"].any (·.toList = normalized) ||
    ["_api_key", "_token", "_secret", "_password"].any (·.toList.isSuffixOf normalized) ||
    ["apikey", "token", "secret", "password"].any (·.toList.isSuffixOf collapsed)

def payloadArgumentKey (key : String) : Bool :=
  ["body", "content", "data", "input", "new_text", "old_text",
    "patch", "payload", "replace", "replacement", "search"].any (·.toList = normalizedKey key)

def preferredToolArgumentKeys : List String :=
  ["path", "offset", "limit", "command", "workdir", "pattern",
    "query", "symbol", "timeout_ms", "background",
    "yield-time_ms", "cwd", "glob", "url", "method", "search", "replace", "edits", "content"]

variable (library : DisplayLibrary)

mutual

def redactSensitiveValue : Value → Value
| .object fields => .object (redactFields fields)
| .array items => .array (redactItems items)
| .string text => .string (library.redactSensitiveText text)
| .null => .null
| .bool b => .bool b
| .number n => .number n

def redactItems : List Value → List Value
| [] => []
| item :: items => redactSensitiveValue item :: redactItems items

def redactFields : List (String × Value) → List (String × Value)
| [] => []
| (key, value) :: fields =>
  (key, if sensitiveJsonKey key then .string "<redacted-secret>"
    else redactSensitiveValue value) :: redactFields fields

end

def omittedArgumentSummary (value : Value) : Value := .string (match value with
    | .string text => "<omitted " ++ toString text.utf8ByteSize ++ " bytes>"
    | .array items => "<omitted array with " ++ toString items.length ++ " items>"
    | .object fields => "<omitted object with " ++ toString fields.length ++ " fields>"
    | _ => "<omitted value>")

/- The characters that end within so many bytes. -/
def bytePrefix : Nat → List Char → List Char
| _, [] => []
| room, letter :: letters =>
  if letter.utf8Size ≤ room then letter :: bytePrefix (room - letter.utf8Size) letters
  else []

def boundedArgumentString (value : String) (maxBytes : Nat) : String :=
  if value.utf8ByteSize ≤ maxBytes then value
  else
    let kept := String.ofList (bytePrefix maxBytes value.toList)
    kept ++ "<truncated " ++ toString (value.utf8ByteSize - kept.utf8ByteSize) ++ " bytes>"

def projectFields (project : Option String → Value → Value) :
    List (String × Value) → List (String × Value) → List (String × Value)
| [], projected => projected
| (key, value) :: fields, projected =>
  if maxToolArgumentDisplayItems ≤ projected.length then
    Json.insert "_golutra_truncated" (.bool true) projected
  else if (Json.lookup key projected).isSome then projectFields project fields projected
  else projectFields project fields (Json.insert key (project (some key) value) projected)

/- The preferred fields of an object, each projected. -/
def preferredFields (project : Option String → Value → Value)
    (fields : List (String × Value)) : List (String × Value) :=
  preferredToolArgumentKeys.foldl (fun projected key =>
    match Json.lookup key fields with
    | some value => Json.insert key (project (some key) value) projected
    | none => projected) []

/- So many levels are shown. -/
def projectToolArgumentValue : Nat → Option String → Value → Value
| 0, _, value => omittedArgumentSummary value
| levels + 1, key, value =>
  if key.any payloadArgumentKey then omittedArgumentSummary value
  else
    let project := projectToolArgumentValue levels
    match value with
    | .object fields => .object (projectFields project fields (preferredFields project fields))
    | .array items =>
      .array ((items.take maxToolArgumentDisplayItems).map (project none) ++
        if maxToolArgumentDisplayItems < items.length then
          [.string ("<omitted " ++ toString (items.length -
            maxToolArgumentDisplayItems) ++ " additional items>")]
        else [])
    | .string text => .string (boundedArgumentString text maxToolArgumentDisplayStringBytes)
    | other => other

def compactToolArgumentValue (key : Option String) (value : Value) : Value :=
  if key.any payloadArgumentKey then omittedArgumentSummary value
  else
    match value with
    | .string text => .string (boundedArgumentString text maxToolArgumentCompactStringBytes)
    | .array _ | .object _ => omittedArgumentSummary value
    | other => other

def compactToolArgumentProjection (value : Value) : Value :=
  match value with
| .object fields =>
  .object (Json.insert "_golutra_truncated" (.bool true)
    (preferredFields compactToolArgumentValue fields))
| other => compactToolArgumentValue none other

def letterLen (letter : Char) : Nat :=
  if letter = '"' ∨ letter = '\\' ∨ letter.toNat ∈ [8, 9, 10, 12, 13]
  then 2
  else if letter.toNat < 0x20 then 6
  else letter.utf8Size

def textLen (text : String) : Nat := 2 + (text.toList.map letterLen).sum

mutual

/- The bytes of a value in print. -/
def serializedValueLen : Value → Nat
| .null => 4
| .bool b => if b then 4 else 5
| .number n => library.numberLen n
| .string text => textLen text
| .array items => 2 + itemsLen items + (items.length - 1)
| .object fields => 2 + fieldsLen fields + (fields.length - 1)

def itemsLen : List Value → Nat
| [] => 0
| item :: items => serializedValueLen item + itemsLen items

def fieldsLen : List (String × Value) → Nat
| [] => 0
| (key, value) :: fields => textLen key + 1 + serializedValueLen value + fieldsLen fields

end

def redactToolArguments (arguments : Value) : Value :=
  let redacted := redactSensitiveValue library arguments
  -- every size below is one of redacted values
  let projected := projectToolArgumentValue maxToolArgumentDisplayDepth none redacted
  if serializedValueLen library projected ≤ maxToolArgumentDisplayBytes then projected
  else
    let compact := compactToolArgumentProjection redacted
    if serializedValueLen library compact ≤ maxToolArgumentDisplayBytes then compact
    else .object [("_golutra_truncated", .bool true)]

mutual

/- Values that differ under sensitive keys only. -/
def Alike : Value → Value → Prop
| .array items, other => ∃ others, other = .array others ∧ AlikeItems items others
| .object fields, other => ∃ others, other = .object others ∧ AlikeFields fields others
| .null, other => other = .null
| .bool b, other => other = .bool b
| .number n, other => other = .number n
| .string text, other => other = .string text

def AlikeItems : List Value → List Value → Prop
| [], [] => True
| item :: items, other :: others => Alike item other ∧ AlikeItems items others
| _, _ => False

def AlikeFields : List (String × Value) → List (String × Value) → Prop
| [], [] => True
| (key, value) :: fields, (name, other) :: others =>
  key = name ∧ (sensitiveJsonKey key = false → Alike value other) ∧ AlikeFields fields others
| _, _ => False

end

mutual

/- By recursion on the first value, as the redaction does. -/
theorem redactSensitiveValue_alike :
    ∀ value other, Alike value other → redactSensitiveValue library value =
        redactSensitiveValue library other
| .array items, _, hAlike => by
  rw [Alike] at hAlike
  rcases hAlike with ⟨others, rfl, hItems⟩
  rw [redactSensitiveValue, redactSensitiveValue, redactItems_alike items others hItems]
| .object fields, _, hAlike => by
  rw [Alike] at hAlike
  rcases hAlike with ⟨others, rfl, hFields⟩
  rw [redactSensitiveValue, redactSensitiveValue, redactFields_alike fields others hFields]
| .null, _, hAlike | .bool _, _, hAlike
| .number _, _, hAlike | .string _, _, hAlike => by
  rw [Alike] at hAlike
  rw [hAlike]

theorem redactItems_alike :
    ∀ items others, AlikeItems items others → redactItems library items = redactItems library others
| [], [], _ => rfl
| item :: items, other :: others, hAlike => by
  rw [AlikeItems] at hAlike
  rw [redactItems, redactItems, redactSensitiveValue_alike item other hAlike.1,
    redactItems_alike items others hAlike.2]

theorem redactFields_alike : ∀ fields others, AlikeFields fields others →
      redactFields library fields = redactFields library others
| [], [], _ => rfl
| (key, value) :: fields, (name, other) :: others, hAlike => by
  rw [AlikeFields] at hAlike
  rcases hAlike with ⟨rfl, hValue, hFields⟩
  rw [redactFields, redactFields, redactFields_alike fields others hFields]
  -- under a sensitive key both values give way to one text
  cases hKey : sensitiveJsonKey key with
  | true => rfl
  | false => rw [redactSensitiveValue_alike value other (hValue hKey)]

end

/- The value shown does not depend on secrets, and it fits. -/
theorem redactToolArguments_display :
    (∀ arguments others, Alike arguments others → redactToolArguments library arguments =
        redactToolArguments library others) ∧
    ∀ arguments, serializedValueLen library (redactToolArguments library arguments) ≤
      maxToolArgumentDisplayBytes := by
  constructor
  · intro arguments others hAlike
    rw [redactToolArguments, redactSensitiveValue_alike library
      arguments others hAlike, ← redactToolArguments]
  · intro arguments
    rw [redactToolArguments]
    dsimp only
    split
    · assumption
    · split
      · assumption
      · simp only [serializedValueLen, fieldsLen]
        decide

theorem token_hidden : redactToolArguments ⟨id, fun _ => 1⟩ (.object [("token", .string "a")]) =
    redactToolArguments ⟨id, fun _ => 1⟩ (.object [("token", .null)]) := by
  apply (redactToolArguments_display _).1
  refine ⟨_, rfl, ?_⟩
  have hSecret : sensitiveJsonKey "token" = true := by decide
  simp [AlikeFields, hSecret]

end GolutraAgent.Tools
