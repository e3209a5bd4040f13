import Mathlib.Data.List.TakeWhile
import Mathlib.Tactic.Common

/-
  This file defines how the arguments of a utility are read: short options may
  stand in a cluster, the value of an option is attached to it or follows, and
  `--` ends the options.

  Key definitions include:
    * `Options.parse`
-/

namespace Options

/- A short option leads when it stands first in a cluster. -/
inductive Item
| short (letter : Char) (leads : Bool) (value : Option (List Char))
| long (name : List Char) (value : Option (List Char))
| operand (text : List Char)

/- The options that take a value. -/
structure Table where
  short : Char → Bool
  long : List Char → Bool

variable (table : Table)

/- The items of an argument, and one that needs a value. -/
abbrev Reading := List Item × Option (Option (List Char) → Item)

def readCluster (leads : Bool) : List Char → Reading
  | [] => ([], none)
  | letter :: letters =>
    if table.short letter then
      if letters = [] then ([], some (.short letter leads))
      else ([.short letter leads (some letters)], none)
    else
      let rest := readCluster false letters
      (.short letter leads none :: rest.1, rest.2)

def readLong (text : List Char) : Reading :=
  let name := text.takeWhile (· ≠ '=')
  if '=' ∈ text then ([.long name (some (text.drop (name.length + 1)))], none)
  else if table.long name then ([], some (.long name))
  else ([.long name none], none)

def readArgument : List Char → Reading
  | '-' :: '-' :: text => readLong table text
  | '-' :: letter :: letters => readCluster table true (letter :: letters)
  | text => ([.operand text], none)

def parse : List (List Char) → List Item
  | [] => []
  | argument :: rest =>
    if argument = ['-', '-'] then rest.map .operand
    else
      match readArgument table argument, rest with
      | (items, none), rest => items ++ parse rest
      | (items, some item), [] => items ++ [item none]
      | (items, some item), value :: rest => items ++ item (some value) :: parse rest

/- The items that an argument may stand for. -/
def Reading.Gives (reading : Reading) (item : Item) : Prop := item ∈ reading.1 ∨ ∃ waiting value,
    reading.2 = some waiting ∧ item = waiting value

variable {table} {value : Option (List Char)}

theorem gives_single {item other : Item} : Reading.Gives ([other], none) item ↔ item = other := by
  simp [Reading.Gives]

theorem gives_waiting {waiting : Option (List Char) → Item} {item : Item} :
    Reading.Gives ([], some waiting) item ↔ ∃ value, item = waiting value := by
  simp [Reading.Gives]

theorem mem_parse {arguments : List (List Char)} {item : Item}
    (hItem : item ∈ parse table arguments) :
    (∃ text, item = .operand text) ∨ ∃ argument ∈ arguments,
        (readArgument table argument).Gives item := by
  fun_induction parse table arguments with
  | case1 => cases hItem
  | case2 rest =>
    rcases List.mem_map.mp hItem with ⟨text, _, rfl⟩
    exact .inl ⟨text, rfl⟩
  | case3 argument rest _ items hRead ih =>
    rcases List.mem_append.mp hItem with hHere | hRest
    · refine .inr ⟨argument, List.mem_cons_self, .inl ?_⟩
      rw [hRead]
      exact hHere
    · exact (ih hRest).imp_right (fun ⟨other, hIn, hGives⟩ =>
        ⟨other, List.mem_cons_of_mem _ hIn, hGives⟩)
  | case4 argument _ items waiting hRead =>
    refine .inr ⟨argument, List.mem_cons_self, ?_⟩
    rw [hRead]
    rcases List.mem_append.mp hItem with hHere | hLast
    · exact .inl hHere
    · exact .inr ⟨_, none, rfl, List.mem_singleton.mp hLast⟩
  | case5 argument _ items waiting value rest hRead ih =>
    rcases List.mem_append.mp hItem with hHere | hRest
    · refine .inr ⟨argument, List.mem_cons_self, .inl ?_⟩
      rw [hRead]
      exact hHere
    rcases List.mem_cons.mp hRest with hValue | hRest
    · refine .inr ⟨argument, List.mem_cons_self, .inr ?_⟩
      rw [hRead]
      exact ⟨_, some value, rfl, hValue⟩
    · exact (ih hRest).imp_right (fun ⟨other, hIn, hGives⟩ =>
        ⟨other, List.mem_cons_of_mem _ (List.mem_cons_of_mem _ hIn), hGives⟩)

/- Only the first letter of a cluster leads. -/
theorem readCluster_gives {leads : Bool} {letters : List Char} {item : Item}
    (hGives : (readCluster table leads letters).Gives item) :
    ∃ letter first value, item = .short letter first value ∧
      (first = true → leads = true ∧ [letter] <+: letters) := by
  induction letters generalizing leads with
  | nil => simp [readCluster, Reading.Gives] at hGives
  | cons letter letters ih =>
    rw [readCluster] at hGives
    split at hGives
    next =>
      split at hGives
      next =>
        rcases gives_waiting.mp hGives with ⟨value, rfl⟩
        exact ⟨letter, leads, value, rfl, fun hFirst => ⟨hFirst, by simp⟩⟩
      next => exact ⟨letter, leads, _, gives_single.mp hGives, fun hFirst => ⟨hFirst, by simp⟩⟩
    next =>
      have hCases : item = .short letter leads none ∨
          (readCluster table false letters).Gives item := by
        rcases hGives with hHere | hWaiting
        · exact (List.mem_cons.mp hHere).imp_right .inl
        · exact .inr (.inr hWaiting)
      rcases hCases with rfl | hRest
      · exact ⟨letter, leads, none, rfl, fun hFirst => ⟨hFirst, by simp⟩⟩
      · rcases ih hRest with ⟨other, first, value, rfl, hFirst⟩
        exact ⟨other, first, value, rfl, fun hLeads => (nomatch (hFirst hLeads).1)⟩

theorem readLong_gives {text : List Char} {item : Item}
    (hGives : (readLong table text).Gives item) :
    ∃ name value, item = .long name value ∧ (text = name ∨ name ++ ['='] <+: text) := by
  rw [readLong] at hGives
  split at hGives
  next hIn =>
    refine ⟨_, _, gives_single.mp hGives, .inr ?_⟩
    clear hGives
    induction text with
    | nil => cases hIn
    | cons letter text ih =>
      by_cases hSame : letter = '='
      · simp [hSame]
      · have hRest := ih (by simpa [Ne.symm hSame] using hIn)
        simpa [hSame] using hRest
  next hNot =>
    have hAll : text.takeWhile (· ≠ '=') = text :=
      List.takeWhile_eq_self_iff.mpr (fun letter hLetter =>
        decide_eq_true (fun hSame => hNot (hSame ▸ hLetter)))
    split at hGives
    next =>
      rcases gives_waiting.mp hGives with ⟨value, rfl⟩
      exact ⟨_, value, rfl, .inl hAll.symm⟩
    next => exact ⟨_, _, gives_single.mp hGives, .inl hAll.symm⟩

theorem readArgument_short {argument : List Char} {letter : Char}
    (hGives : (readArgument table argument).Gives (.short letter true value)) :
    ['-', letter] <+: argument := by
  unfold readArgument at hGives
  split at hGives
  next =>
    rcases readLong_gives hGives with ⟨_, _, hItem, _⟩
    cases hItem
  next =>
    rcases readCluster_gives hGives with ⟨_, _, _, hItem, hFirst⟩
    cases hItem
    simpa using (hFirst rfl).2
  next => simp [Reading.Gives] at hGives

theorem readArgument_long {argument name : List Char}
    (hGives : (readArgument table argument).Gives (.long name value)) :
    argument = '-' :: '-' :: name ∨ '-' :: '-' :: (name ++ ['=']) <+: argument := by
  unfold readArgument at hGives
  split at hGives
  next =>
    rcases readLong_gives hGives with ⟨_, _, hItem, hText⟩
    cases hItem
    simpa using hText
  next =>
    rcases readCluster_gives hGives with ⟨_, _, _, hItem, _⟩
    cases hItem
  next => simp [Reading.Gives] at hGives

end Options
