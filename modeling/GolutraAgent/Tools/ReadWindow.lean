import Mathlib.Algebra.GroupWithZero.Nat
import Mathlib.Data.List.Basic
import Mathlib.Tactic.Common

/-
  This file models the windows in which a file is read. A window is placed by
  the number of lines, which is counted apart from the iterator that gives the
  lines.

  Texts are lists of characters in memory, so that no count of their lines
  reaches the end of a word.

  Main declarations:
    * `readWindows_tile`
-/

namespace GolutraAgent.Tools

structure ReadWindow where
  content : List Char
  lines : Nat
  nextOffset : Nat
  hasMore : Bool

/- Lines with their ends, as `split_inclusive` gives them. -/
def splitInclusive : List Char → List (List Char)
  | [] => []
  | letter :: rest =>
    if letter = '\n' then [letter] :: splitInclusive rest
    else
      match splitInclusive rest with
      | [] => [[letter]]
      | line :: lines => (letter :: line) :: lines

def outputLineCount (output : List Char) : Nat :=
  if output = [] then 0
  else output.count '\n' + if output.getLast? = some '\n' then 0 else 1

def selectReadWindow (content : List Char) (offset limit totalLines : Nat) : ReadWindow :=
  if content = [] then ⟨[], 0, offset, false⟩
  else
    let start := offset - 1
    let stop := min (start + limit) totalLines
    let selected := ((splitInclusive content).take stop).drop start
    { content := selected.flatten
      lines := selected.length
      nextOffset := stop + 1
      hasMore := stop < totalLines }

/- Read on from where a window ends, while there is more. -/
def readWindows (content : List Char) : Nat → (Nat → Nat) → Nat → Option (List ReadWindow)
  | 0, _, _ => none
  | calls + 1, limits, offset =>
    let window := selectReadWindow content offset (limits 0) (outputLineCount content)
    if window.hasMore then
      (readWindows content calls (fun call => limits (call + 1))
        window.nextOffset).map (window :: ·)
    else some [window]

theorem splitInclusive_flatten (text : List Char) : (splitInclusive text).flatten = text := by
  fun_induction splitInclusive text with
  | case1 => rfl
  | case2 rest ih => simp [ih]
  | case3 letter rest _ hLines ih =>
    rw [hLines] at ih
    simp [← ih]
  | case4 letter rest _ line lines hLines ih =>
    rw [hLines] at ih
    simp [← ih]

/- The two ways to count lines agree. -/
theorem splitInclusive_length (text : List Char) :
    (splitInclusive text).length = outputLineCount text := by
  fun_induction splitInclusive text with
  | case1 => rfl
  | case2 rest ih =>
    rw [List.length_cons, ih]
    cases rest with
    | nil => rfl
    | cons next rest =>
      simp [outputLineCount]
      omega
  | case3 letter rest hLetter hLines ih =>
    have hRest := splitInclusive_flatten rest
    rw [hLines] at hRest
    simp [outputLineCount, ← hRest, hLetter]
  | case4 letter rest hLetter line lines hLines ih =>
    rw [hLines] at ih
    cases rest with
    | nil => cases hLines
    | cons next rest =>
      rw [List.length_cons, ← List.length_cons, ih]
      simp [outputLineCount, hLetter]

variable {content : List Char} {limits : Nat → Nat}

/- What a window holds, and where it stops. -/
theorem selectReadWindow_eq {start limit : Nat}
    (hStart : start < outputLineCount content) (hLimit : 0 < limit) :
    let total := outputLineCount content
    let stop := min (start + limit) total
    let window := selectReadWindow content (start + 1) limit total
    start < stop ∧ stop ≤ total ∧ window.content ++ ((splitInclusive content).drop stop).flatten =
        ((splitInclusive content).drop start).flatten ∧
      window.lines = stop - start ∧ window.nextOffset = stop + 1 ∧
      window.hasMore = decide (stop < total) := by
  intro total stop window
  have hSome : content ≠ [] := by
    rintro rfl
    cases hStart
  have hLength := splitInclusive_length content
  refine ⟨by omega, by omega, ?_, ?_, ?_, ?_⟩
  all_goals simp only [window, selectReadWindow, if_neg hSome]
  · have hDrop : (splitInclusive content).drop stop = ((splitInclusive content).drop start).drop
          (stop - start) := by
      rw [List.drop_drop]
      congr 1
      omega
    rw [List.drop_take, ← List.flatten_append, hDrop]
    exact congrArg List.flatten (List.take_append_drop _ _)
  · rw [List.length_drop, List.length_take]
    omega
  · rfl
  · rfl

theorem readWindows_from {left start : Nat} (hLimits : ∀ call, 0 < limits call)
    (hStart : start < outputLineCount content) (hLeft : outputLineCount content - start ≤ left) :
    ∃ windows : List ReadWindow, (∀ calls, outputLineCount content - start ≤ calls →
        readWindows content calls limits (start + 1) = some windows) ∧
      windows.flatMap ReadWindow.content = ((splitInclusive content).drop start).flatten ∧
      (windows.map ReadWindow.lines).sum = outputLineCount content - start := by
  induction left generalizing limits start with
  | zero => omega
  | succ left ih =>
    rcases selectReadWindow_eq hStart (hLimits 0) with
      ⟨hLater, hEnd, hContent, hLines, hNext, hMore⟩
    generalize min (start + limits 0) (outputLineCount content) = stop at *
    generalize hWindow : selectReadWindow content (start + 1)
      (limits 0) (outputLineCount content) = window at *
    by_cases hLast : stop < outputLineCount content
    · rcases ih (fun call => hLimits (call + 1)) hLast (by omega) with ⟨windows, hRead, hRest, hSum⟩
      refine ⟨window :: windows, fun calls hCalls => ?_, ?_, ?_⟩
      · cases calls with
        | zero => omega
        | succ calls =>
          rw [readWindows, hWindow, hMore, hNext,
            if_pos (decide_eq_true hLast), hRead calls (by omega)]
          rfl
      · rw [List.flatMap_cons, hRest, hContent]
      · rw [List.map_cons, List.sum_cons]
        omega
    · have hAll : (splitInclusive content).drop stop = [] :=
        List.drop_eq_nil_of_le (by rw [splitInclusive_length]; omega)
      refine ⟨[window], fun calls hCalls => ?_, ?_, ?_⟩
      · cases calls with
        | zero => omega
        | succ calls => rw [readWindows, hWindow, hMore, if_neg (by simpa using hLast)]
      · rw [hAll] at hContent
        exact hContent
      · rw [List.map_singleton, List.sum_singleton]
        omega

/- The windows of a file are the file, line for line. -/
theorem readWindows_tile (hLimits : ∀ call, 0 < limits call) (content : List Char) :
    ∃ windows : List ReadWindow, (∀ calls, outputLineCount content < calls →
        readWindows content calls limits 1 = some windows) ∧
      windows.flatMap ReadWindow.content = content ∧
      (windows.map ReadWindow.lines).sum = outputLineCount content := by
  by_cases hNone : content = []
  · subst hNone
    refine ⟨[⟨[], 0, 1, false⟩], fun calls hCalls => ?_, rfl, rfl⟩
    cases calls with
    | zero => cases hCalls
    | succ calls => rfl
  · have hSome : 0 < outputLineCount content := by
      rw [← splitInclusive_length]
      refine List.length_pos_iff.mpr (fun hLines => hNone ?_)
      rw [← splitInclusive_flatten content, hLines]
      rfl
    rcases readWindows_from hLimits hSome (Nat.le_refl _) with ⟨windows, hRead, hContent, hLines⟩
    rw [List.drop_zero, splitInclusive_flatten] at hContent
    exact ⟨windows, fun calls hCalls => hRead calls (by omega), hContent, hLines⟩

theorem twoLines_tile : ∃ windows : List ReadWindow, (∀ calls, 2 < calls →
        readWindows ['a', '\n', 'b'] calls (fun _ => 1) 1 = some windows) ∧
      windows.flatMap ReadWindow.content = ['a', '\n', 'b'] ∧
      (windows.map ReadWindow.lines).sum = 2 :=
  readWindows_tile (fun _ => Nat.one_pos) ['a', '\n', 'b']

end GolutraAgent.Tools
