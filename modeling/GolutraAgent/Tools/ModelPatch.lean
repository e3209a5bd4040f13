import GolutraAgent.Library.Accounting
import GolutraAgent.Library.Text
import GolutraAgent.Library.Transaction

/-
  This file models how the hunks of a model patch are applied to the lines of a
  file. Each hunk is placed at or after the end of the previous one; what is
  kept, added and removed is then taken from slices of the file.

  An index that is out of range is an outcome of its own, since it ends the
  program.

  Main declarations:
    * `locateHunk_outOfRange_iff`
    * `applyHunks_edited`
    * `applyHunks_outOfRange_iff`
    * `lines_roundTrip`
-/

namespace GolutraAgent.Tools

open Transaction

structure ModelPatchHunk where
  header : String
  context : Option String
  lines : List String
  endOfFile : Bool
  newNoNewline : Bool

inductive PatchFault
| message (text : String)
| outOfRange

structure HunkChanges where
  oldLines : List String
  newLines : List String
  newNoNewline : Bool
  previousKind : Option Char

/- The first character says what becomes of the line. -/
def hunkLine (changes : HunkChanges) (line : String) : Except PatchFault HunkChanges :=
  if line = "\\ No newline at end of file" then
    .ok { changes with newNoNewline := changes.newNoNewline || changes.previousKind ≠ some '-' }
  else
    match line.toList with
    | [] => .error (.message "empty hunk line")
    | kind :: rest =>
      let value := String.ofList rest
      let changes := { changes with previousKind := some kind }
      if kind.utf8Size ≠ 1 then .error (.message "hunk line is not valid UTF-8")
      else if kind = ' ' then
        .ok { changes with
          oldLines := changes.oldLines ++ [value]
          newLines := changes.newLines ++ [value] }
      else if kind = '-' then .ok { changes with oldLines := changes.oldLines ++ [value] }
      else if kind = '+' then .ok { changes with newLines := changes.newLines ++ [value] }
      else .error (.message ("invalid hunk line: " ++ line))

def hunkChanges (hunk : ModelPatchHunk) : Except PatchFault HunkChanges :=
  hunk.lines.foldlM hunkLine ⟨[], [], hunk.newNoNewline, none⟩

def slice (lines : List String) (start stop : Nat) : Except PatchFault (List String) :=
  if start ≤ stop ∧ stop ≤ lines.length then .ok ((lines.drop start).take (stop - start))
  else .error .outOfRange

/- The old lines of a hunk stand at a place of the file. -/
def StandsAt (original needle : List String) (endOfFile : Bool) (start : Nat) : Prop :=
  start + needle.length ≤ original.length ∧ (endOfFile = true →
      start + needle.length = original.length) ∧
    (original.drop start).take needle.length = needle

instance (original needle : List String) (endOfFile : Bool) (start : Nat) : Decidable
    (StandsAt original needle endOfFile start) :=
  inferInstanceAs (Decidable (_ ∧ _))

/- The loop ends at the second match. -/
def scan (test : Nat → Except PatchFault Bool) : List Nat → List Nat → Except PatchFault (List Nat)
| found, [] => .ok found
| found, start :: starts => do
    let hit ← test start
    if hit then
      if found = [] then scan test [start] starts
      else return found ++ [start]
    else scan test found starts

def onlyMatch (missing ambiguous : String) (test : Nat → Except PatchFault Bool)
    (starts : List Nat) : Except PatchFault Nat := do
  match ← scan test [] starts with
  | [start] => .ok start
  | [] => .error (.message missing)
  | _ => .error (.message ambiguous)

def insertionOutside : PatchFault := .message "model patch insertion point is outside the file"

def hunkMatches (original needle : List String) (endOfFile : Bool)
    (start : Nat) : Except PatchFault Bool :=
  if endOfFile && start + needle.length ≠ original.length then .ok false
  else (slice original start (start + needle.length)).map (· = needle)

/- The loop runs from the cursor to the last place. -/
def locateHunk (original needle : List String) (cursor : Nat)
    (hint : Option Nat) (endOfFile : Bool) : Except PatchFault Nat :=
  if needle = [] then
    let start := hint.elim cursor (· - 1)
    if start < cursor ∨ original.length < start then .error insertionOutside
    else .ok start
  else
    match (hint.map (· - 1)).filter (fun start =>
        cursor ≤ start ∧ StandsAt original needle endOfFile start) with
    | some start => .ok start
    | none =>
      onlyMatch "model patch context does not match the current file"
        "model patch context is ambiguous; include more context or line numbers"
        (hunkMatches original needle endOfFile)
        (List.range' cursor (original.length - needle.length + 1 - cursor))

def normalizeContext (value : String) : List Char := [' '].intercalate (Text.words value.toList)

def contextMatches (original : List String) (context : String)
    (endOfFile : Bool) (index : Nat) : Except PatchFault Bool :=
  if endOfFile && index + 1 ≠ original.length then .ok false
  else
    match original[index]? with
    | none => .error .outOfRange
    | some line =>
      .ok (line = context || Text.trim line.toList = Text.trim context.toList ||
        normalizeContext line = normalizeContext context)

def locateContext (original : List String) (context : String)
    (cursor : Nat) (endOfFile : Bool) : Except PatchFault Nat :=
  onlyMatch ("model patch context does not match: " ++ context)
    ("model patch context is ambiguous: " ++ context)
    (contextMatches original context endOfFile) (List.range' cursor (original.length - cursor))

def insertionPoint (fileLen contextStart cursor : Nat) (hint : Option Nat)
    (endOfFile : Bool) : Except PatchFault Nat :=
  if endOfFile then .ok fileLen
  else if cursor < contextStart then .ok (min contextStart fileLen)
  else
    match hint with
    | some line =>
      if cursor ≤ line - 1 ∧ line - 1 ≤ fileLen then .ok (line - 1)
      else .error insertionOutside
    | none => .ok (max fileLen cursor)

/- A number as `parse` reads it, with an optional sign. -/
def parseNumber (text : List Char) : Option Nat :=
  let digits := if text.head? = some '+' then text.tail else text
  let value := digits.foldl (fun total digit => total * 10 + (digit.toNat - '0'.toNat)) 0
  if digits ≠ [] ∧ digits.all Char.isDigit ∧ value ≤ Word.limit then some value else none

/- The text before the next marks of a header. -/
def beforeMarks : List Char → List Char
| [] | '@' :: '@' :: _ => []
| letter :: rest => letter :: beforeMarks rest

def hunkOldStart (header : String) : Option Nat :=
  match header.toList with
  | '@' :: '@' :: rest =>
    (Text.words (beforeMarks rest)).findSome? (fun token =>
      match token with
      | '-' :: value => parseNumber (value.takeWhile (· ≠ ','))
      | _ => none)
  | _ => none

structure PatchState where
  output : List String
  cursor : Nat
  newline : Bool

section

variable (original : List String)

/- Where the search for a hunk starts. -/
def contextStart (cursor : Nat) (hunk : ModelPatchHunk) : Except PatchFault Nat :=
  match hunk.context with
  | none => .ok cursor
  | some context => do
      let index ← locateContext original context cursor hunk.endOfFile
      return index + 1

def hunkStart (cursor : Nat) (hunk : ModelPatchHunk)
    (changes : HunkChanges) : Except PatchFault Nat := do
  let hint := hunkOldStart hunk.header
  let first ← contextStart original cursor hunk
  if changes.oldLines = [] then insertionPoint original.length first cursor hint hunk.endOfFile
  else locateHunk original changes.oldLines first hint hunk.endOfFile

def applyHunk (state : PatchState) (hunk : ModelPatchHunk) : Except PatchFault PatchState := do
  let changes ← hunkChanges hunk
  let start ← hunkStart original state.cursor hunk changes
  let kept ← slice original state.cursor start
  return {
    output := state.output ++ (kept ++ changes.newLines)
    cursor := start + changes.oldLines.length
    newline := state.newline && !changes.newNoNewline }

end

def splitLines (value : String) : List String × Bool :=
  let newline := value.toList.getLast? = some '\n'
  let lines := (value.toList.splitOn '\n').map String.ofList
  (if newline then lines.dropLast else lines, newline)

def joinLines (lines : List String) (newline : Bool) : String :=
  let value := String.intercalate "\n" lines
  if newline && value ≠ "" then value ++ "\n" else value

def applyHunks (original : String) (hunks : List ModelPatchHunk) : Except PatchFault String := do
  let lines := splitLines original
  let state ← hunks.foldlM (applyHunk lines.1) ⟨[], 0, lines.2⟩
  let rest ← slice lines.1 state.cursor lines.1.length
  return joinLines (state.output ++ rest) state.newline

section

variable {test : Nat → Except PatchFault Bool} {fault : PatchFault} {start : Nat}

theorem scan_found {found : Nat} {starts : List Nat}
    (hScan : scan test [found] starts = .ok [start]) :
    start = found ∧ ∀ other ∈ starts, test other ≠ .ok true := by
  induction starts with
  | nil =>
    cases hScan
    exact ⟨rfl, by simp⟩
  | cons first starts ih =>
    obtain ⟨hit, hTest, hScan⟩ := bind_eq_ok.1 hScan
    cases hit with
    | true => cases hScan
    | false =>
      obtain ⟨hStart, hOthers⟩ := ih hScan
      exact ⟨hStart, by simpa [hTest] using hOthers⟩

/- One result is the only place that passes the test. -/
theorem scan_only {starts : List Nat} (hScan : scan test [] starts = .ok [start]) :
    start ∈ starts ∧ test start = .ok true ∧
      ∀ other ∈ starts, test other = .ok true → other = start := by
  induction starts with
  | nil => cases hScan
  | cons first starts ih =>
    obtain ⟨hit, hTest, hScan⟩ := bind_eq_ok.1 hScan
    cases hit with
    | true =>
      obtain ⟨rfl, hOthers⟩ := scan_found hScan
      refine ⟨by simp, hTest, ?_⟩
      intro other hOther hPasses
      rcases List.mem_cons.1 hOther with rfl | hLater
      · rfl
      · exact absurd hPasses (hOthers other hLater)
    | false =>
      obtain ⟨hIn, hPasses, hOnly⟩ := ih hScan
      refine ⟨List.mem_cons_of_mem _ hIn, hPasses, ?_⟩
      intro other hOther hAlso
      rcases List.mem_cons.1 hOther with rfl | hLater
      · cases hTest.symm.trans hAlso
      · exact hOnly other hLater hAlso

theorem scan_error {found starts : List Nat} (hScan : scan test found starts = .error fault) :
    ∃ start ∈ starts, test start = .error fault := by
  induction starts generalizing found with
  | nil => cases hScan
  | cons first starts ih =>
    unfold scan at hScan
    cases hTest : test first with
    | error error =>
      rw [hTest] at hScan
      cases hScan
      exact ⟨first, by simp, hTest⟩
    | ok hit =>
      have hRest : ∃ start ∈ starts, test start = .error fault := by
        rw [hTest] at hScan
        cases hit with
        | true =>
          split at hScan
          · exact ih hScan
          · cases hScan
        | false => exact ih hScan
      obtain ⟨start, hIn, hError⟩ := hRest
      exact ⟨start, List.mem_cons_of_mem _ hIn, hError⟩

variable {missing ambiguous : String} {starts : List Nat}

theorem onlyMatch_eq_ok (hMatch : onlyMatch missing ambiguous test starts = .ok start) :
    start ∈ starts ∧ test start = .ok true ∧
      ∀ other ∈ starts, test other = .ok true → other = start := by
  obtain ⟨found, hScan, hMatch⟩ := bind_eq_ok.1 hMatch
  split at hMatch <;> cases hMatch
  exact scan_only hScan

theorem onlyMatch_outOfRange
    (hMatch : onlyMatch missing ambiguous test starts = .error .outOfRange) :
    ∃ start ∈ starts, test start = .error .outOfRange := by
  rcases bind_eq_error.1 hMatch with hScan | ⟨_, -, hMatch⟩
  · exact scan_error hScan
  · split at hMatch <;> cases hMatch

end

variable {original needle : List String} {start : Nat}
variable {cursor : Nat} {hint : Option Nat} {endOfFile : Bool}

theorem slice_length : slice original start (start + needle.length) =
      if start + needle.length ≤ original.length then .ok ((original.drop start).take needle.length)
      else .error .outOfRange := by
  simp [slice]

/- Three cases: the lines end within, at or after the file. -/
theorem hunkMatches_iff : (hunkMatches original needle endOfFile start = .ok true ↔
      StandsAt original needle endOfFile start) ∧
    (hunkMatches original needle endOfFile start = .error .outOfRange ↔ endOfFile = false ∧
        original.length < start + needle.length) := by
  unfold hunkMatches StandsAt
  rw [slice_length]
  rcases Nat.lt_trichotomy (start + needle.length) original.length with hLess | hSame | hMore
  · cases endOfFile <;> simp [Nat.ne_of_lt hLess, Nat.le_of_lt hLess, Except.map]
  · cases endOfFile <;> simp [hSame, Except.map]
  · cases endOfFile <;> simp [Nat.ne_of_gt hMore, hMore, Nat.not_le_of_gt hMore, Except.map]

theorem locateHunk_eq_ok (hNeedle : needle ≠ [])
    (hLocate : locateHunk original needle cursor hint endOfFile = .ok start) :
    cursor ≤ start ∧ StandsAt original needle endOfFile start ∧
      (hint.map (· - 1) = some start ∨ ∀ other, cursor ≤ other →
          StandsAt original needle endOfFile other → other = start) := by
  unfold locateHunk at hLocate
  rw [if_neg hNeedle] at hLocate
  split at hLocate
  · rename_i found hFilter
    cases hLocate
    obtain ⟨hHint, hStands⟩ := Option.filter_eq_some_iff.1 hFilter
    obtain ⟨hAfter, hStands⟩ := of_decide_eq_true hStands
    exact ⟨hAfter, hStands, .inl hHint⟩
  · obtain ⟨hIn, hTest, hOnly⟩ := onlyMatch_eq_ok hLocate
    refine ⟨(List.mem_range'_1.1 hIn).1, hunkMatches_iff.1.1 hTest, .inr ?_⟩
    intro other hAfter hStands
    refine hOnly other ?_ (hunkMatches_iff.1.2 hStands)
    have hFits := hStands.1
    rw [List.mem_range'_1]
    omega

theorem locateHunk_outOfRange_iff (hNeedle : needle ≠ []) :
    locateHunk original needle cursor hint endOfFile = .error .outOfRange ↔
      cursor = 0 ∧ endOfFile = false ∧ original.length < needle.length := by
  unfold locateHunk
  rw [if_neg hNeedle]
  constructor
  · intro hLocate
    split at hLocate
    · cases hLocate
    · obtain ⟨start, hIn, hError⟩ := onlyMatch_outOfRange hLocate
      obtain ⟨hFile, hLong⟩ := hunkMatches_iff.2.1 hError
      rw [List.mem_range'_1] at hIn
      exact ⟨by omega, hFile, by omega⟩
  · rintro ⟨rfl, rfl, hLong⟩
    have hNone : (hint.map (· - 1)).filter (fun start =>
        0 ≤ start ∧ StandsAt original needle false start) = none := by
      rw [Option.filter_eq_none_iff]
      intro start _ hStands
      have hFits := (of_decide_eq_true hStands).2.1
      omega
    rw [hNone]
    have hOne : original.length - needle.length + 1 - 0 = 1 := by omega
    rw [hOne]
    have hError : hunkMatches original needle false 0 = .error .outOfRange :=
      hunkMatches_iff.2.2 ⟨rfl, by omega⟩
    simp only [List.range'_one, onlyMatch, scan, hError]
    rfl

variable {hunk : ModelPatchHunk} {changes : HunkChanges}

/- The search starts at the cursor, or after the context. -/
theorem contextStart_spec : contextStart original cursor hunk ≠ .error .outOfRange ∧
      ∀ first, contextStart original cursor hunk = .ok first →
        cursor ≤ first ∧ (first = 0 ↔ cursor = 0 ∧ hunk.context = none) := by
  unfold contextStart
  cases hunk.context with
  | none => simp_all
  | some context =>
    constructor
    · intro hError
      rcases bind_eq_error.1 hError with hLocate | ⟨_, -, hReturn⟩
      · obtain ⟨index, hIn, hOut⟩ := onlyMatch_outOfRange hLocate
        rw [List.mem_range'_1] at hIn
        have hSome : original[index]? = some _ := List.getElem?_eq_getElem (by omega)
        unfold contextMatches at hOut
        rw [hSome] at hOut
        split at hOut <;> cases hOut
      · cases hReturn
    · intro first hFirst
      obtain ⟨index, hLocate, hReturn⟩ := bind_eq_ok.1 hFirst
      cases hReturn
      have hIn := List.mem_range'_1.1 (onlyMatch_eq_ok hLocate).1
      exact ⟨by omega, by simp⟩

theorem insertionPoint_spec {first : Nat} (hCursor : cursor ≤ original.length) :
    insertionPoint original.length first cursor hint endOfFile ≠ .error .outOfRange ∧
      ∀ start, insertionPoint original.length first cursor hint endOfFile = .ok start →
        cursor ≤ start ∧ StandsAt original [] endOfFile start := by
  unfold insertionPoint insertionOutside StandsAt
  split_ifs
  · simp_all
  · simp_all
    omega
  · split
    · split_ifs <;> simp_all
    · simp_all

/- What a line of a hunk holds after one of the marks. -/
def withMark (marks : List Char) (line : String) : Option String :=
  match line.toList with
  | kind :: rest => if kind ∈ marks then some (String.ofList rest) else none
  | [] => none

namespace ModelPatchHunk

variable (hunk : ModelPatchHunk)

/- The context and removed lines. -/
def oldLines : List String := hunk.lines.filterMap (withMark [' ', '-'])

/- The context and added lines. -/
def newLines : List String := hunk.lines.filterMap (withMark [' ', '+'])

end ModelPatchHunk

/- A line agrees with a context, up to the white space around it or within it. -/
def Agrees (context line : String) : Prop :=
  line = context ∨ Text.trim line.toList = Text.trim context.toList ∨
    normalizeContext line = normalizeContext context

/- A line from the cursor on that agrees, and is the last one if the hunk ends the file. -/
def AnchorAt (original : List String) (cursor : Nat) (context : String) (endOfFile : Bool)
    (index : Nat) : Prop :=
  cursor ≤ index ∧ (endOfFile = true → index + 1 = original.length) ∧
    ∃ line, original[index]? = some line ∧ Agrees context line

/- A search starts at the cursor, or after the only line that agrees with the context. -/
def SearchStart (original : List String) (cursor : Nat) (hunk : ModelPatchHunk)
    (first : Nat) : Prop :=
  match hunk.context with
  | none => first = cursor
  | some context => ∃ index, first = index + 1 ∧
      AnchorAt original cursor context hunk.endOfFile index ∧
      ∀ other, AnchorAt original cursor context hunk.endOfFile other → other = index

/- What is asked of the place of a hunk. -/
structure Placed (original : List String) (cursor : Nat)
    (hunk : ModelPatchHunk) (start : Nat) : Prop where
  after : cursor ≤ start
  stands : StandsAt original hunk.oldLines hunk.endOfFile start
  only : hunk.oldLines ≠ [] → ∃ first, SearchStart original cursor hunk first ∧ first ≤ start ∧
    ((hunkOldStart hunk.header).map (· - 1) = some start ∨ ∀ other, first ≤ other →
      StandsAt original hunk.oldLines hunk.endOfFile other → other = start)

/-
  The lines from a place on, with each hunk replaced, and whether no hunk takes
  the newline at the end away.
-/
inductive Edited (original : List String) :
    Nat → List ModelPatchHunk → List String → Bool → Prop
| rest {cursor : Nat} (hCursor : cursor ≤ original.length) :
    Edited original cursor [] (original.drop cursor) true
| hunk {cursor start : Nat} {hunk : ModelPatchHunk} {hunks : List ModelPatchHunk}
    {changes : HunkChanges} {lines : List String} {newline : Bool}
    (hChanges : hunkChanges hunk = .ok changes) (hPlaced : Placed original cursor hunk start)
    (hRest : Edited original (start + hunk.oldLines.length) hunks lines newline) :
    Edited original cursor (hunk :: hunks)
      ((original.drop cursor).take (start - cursor) ++ hunk.newLines ++ lines)
      (newline && !changes.newNoNewline)

variable {state next : PatchState}

theorem hunkLine_eq_ok {before : HunkChanges} {line : String}
    (hLine : hunkLine before line = .ok changes) :
    changes.oldLines = before.oldLines ++ (withMark [' ', '-'] line).toList ∧
      changes.newLines = before.newLines ++ (withMark [' ', '+'] line).toList := by
  unfold hunkLine at hLine
  split at hLine
  next hMark =>
    cases hLine
    subst hMark
    simp [withMark]
  next =>
    unfold withMark
    split at hLine
    next => cases hLine
    next kind rest hText =>
      split_ifs at hLine <;> cases hLine <;> simp_all

theorem hunkChanges_eq_ok (hChanges : hunkChanges hunk = .ok changes) :
    changes.oldLines = hunk.oldLines ∧ changes.newLines = hunk.newLines := by
  have hFold : ∀ (lines : List String) (before : HunkChanges),
      lines.foldlM hunkLine before = .ok changes →
        changes.oldLines = before.oldLines ++ lines.filterMap (withMark [' ', '-']) ∧
        changes.newLines = before.newLines ++ lines.filterMap (withMark [' ', '+']) := by
    intro lines
    induction lines with
    | nil =>
      intro before hFold
      cases hFold
      simp
    | cons line lines ih =>
      intro before hFold
      rcases bind_eq_ok.mp hFold with ⟨middle, hLine, hFold⟩
      have hFirst := hunkLine_eq_ok hLine
      have hRest := ih middle hFold
      simp [hRest, hFirst, List.filterMap_eq_flatMap_toList]
  simpa [ModelPatchHunk.oldLines, ModelPatchHunk.newLines] using hFold hunk.lines _ hChanges

theorem contextMatches_iff {context : String} {index : Nat} :
    contextMatches original context endOfFile index = .ok true ↔
      (endOfFile = true → index + 1 = original.length) ∧
        ∃ line, original[index]? = some line ∧ Agrees context line := by
  unfold contextMatches Agrees
  split
  next hEnd => simp_all
  next hEnd =>
    cases original[index]? with
    | none => simp
    | some line => simp_all [or_assoc]

theorem contextStart_searches {first : Nat}
    (hFirst : contextStart original cursor hunk = .ok first) :
    SearchStart original cursor hunk first := by
  unfold contextStart at hFirst
  unfold SearchStart
  split at hFirst
  next => exact (Except.ok.inj hFirst).symm
  next context =>
    rcases bind_eq_ok.mp hFirst with ⟨index, hLocate, hReturn⟩
    cases hReturn
    rcases onlyMatch_eq_ok hLocate with ⟨hIn, hTest, hOnly⟩
    refine ⟨index, rfl, ⟨(List.mem_range'_1.mp hIn).1, contextMatches_iff.mp hTest⟩, ?_⟩
    rintro other ⟨hAfter, hAgrees⟩
    refine hOnly other ?_ (contextMatches_iff.mpr hAgrees)
    rcases hAgrees.2 with ⟨line, hLine, -⟩
    have hLess := (List.getElem?_eq_some_iff.mp hLine).1
    rw [List.mem_range'_1]
    omega

theorem hunkStart_placed (hCursor : cursor ≤ original.length)
    (hChanges : hunkChanges hunk = .ok changes)
    (hStart : hunkStart original cursor hunk changes = .ok start) :
    Placed original cursor hunk start := by
  rcases bind_eq_ok.mp hStart with ⟨first, hFirst, hStart⟩
  have hAfter := (contextStart_spec.2 first hFirst).1
  rw [(hunkChanges_eq_ok hChanges).1] at hStart
  split at hStart
  next hNone =>
    rcases (insertionPoint_spec hCursor).2 start hStart with ⟨hPlace, hStands⟩
    exact ⟨hPlace, hNone ▸ hStands, absurd hNone⟩
  next hSome =>
    rcases locateHunk_eq_ok hSome hStart with ⟨hPlace, hStands, hOnly⟩
    exact ⟨Nat.le_trans hAfter hPlace, hStands,
      fun _ => ⟨first, contextStart_searches hFirst, hPlace, hOnly⟩⟩

/- A hunk with old lines is longer than the file. -/
theorem hunkStart_outOfRange_iff (hCursor : cursor ≤ original.length) :
    hunkStart original cursor hunk changes = .error .outOfRange ↔
      cursor = 0 ∧ hunk.context = none ∧ hunk.endOfFile = false ∧
        original.length < changes.oldLines.length := by
  unfold hunkStart
  rw [bind_eq_error, or_iff_right contextStart_spec.1]
  constructor
  · rintro ⟨first, hFirst, hError⟩
    obtain ⟨-, hZero⟩ := contextStart_spec.2 first hFirst
    split at hError
    · exact absurd hError (insertionPoint_spec hCursor).1
    · rename_i hSome
      obtain ⟨hStart, hFile, hLong⟩ := (locateHunk_outOfRange_iff hSome).1 hError
      obtain ⟨hHere, hContext⟩ := hZero.1 hStart
      exact ⟨hHere, hContext, hFile, hLong⟩
  · rintro ⟨rfl, hContext, hFile, hLong⟩
    have hSome : changes.oldLines ≠ [] := by
      rintro hNone
      simp [hNone] at hLong
    refine ⟨0, by simp [contextStart, hContext], ?_⟩
    rw [if_neg hSome]
    exact (locateHunk_outOfRange_iff hSome).2 ⟨rfl, hFile, hLong⟩

theorem applyHunk_eq_ok (hCursor : state.cursor ≤ original.length)
    (hApply : applyHunk original state hunk = .ok next) :
    ∃ changes start, hunkChanges hunk = .ok changes ∧ Placed original state.cursor hunk start ∧
      next = ⟨state.output ++ ((original.drop state.cursor).take (start - state.cursor) ++
        hunk.newLines), start + hunk.oldLines.length, state.newline && !changes.newNoNewline⟩ := by
  rcases bind_eq_ok.mp hApply with ⟨changes, hChanges, hApply⟩
  rcases bind_eq_ok.mp hApply with ⟨start, hStart, hApply⟩
  have hPlaced := hunkStart_placed hCursor hChanges hStart
  have hSlice : slice original state.cursor start = .ok _ := if_pos ⟨hPlaced.after, Nat.le_trans
      (Nat.le_add_right _ _) hPlaced.stands.1⟩
  rw [hSlice, (hunkChanges_eq_ok hChanges).1, (hunkChanges_eq_ok hChanges).2] at hApply
  exact ⟨changes, start, hChanges, hPlaced, (Except.ok.inj hApply).symm⟩

theorem hunkChanges_ne_outOfRange : hunkChanges hunk ≠ .error .outOfRange := by
  intro hError
  obtain ⟨-, line, -, changes, -, -, hLine⟩ := foldlM_eq_error_iff.1 hError
  unfold hunkLine at hLine
  split at hLine
  · cases hLine
  · split at hLine
    · cases hLine
    · split_ifs at hLine <;> cases hLine

theorem applyHunk_outOfRange_iff (hCursor : state.cursor ≤ original.length) :
    applyHunk original state hunk = .error .outOfRange ↔
      ∃ changes, hunkChanges hunk = .ok changes ∧ hunkStart original state.cursor hunk
          changes = .error .outOfRange := by
  unfold applyHunk
  rw [bind_eq_error, or_iff_right hunkChanges_ne_outOfRange]
  refine exists_congr (fun changes => and_congr_right (fun hChanges => ?_))
  rw [bind_eq_error, or_iff_left]
  rintro ⟨start, hStart, hSlice⟩
  have hPlaced := hunkStart_placed hCursor hChanges hStart
  rw [slice, if_pos ⟨hPlaced.after, Nat.le_trans (Nat.le_add_right _ _) hPlaced.stands.1⟩] at hSlice
  cases hSlice

variable {hunks : List ModelPatchHunk}

/- What is still to come is edited from the cursor on. -/
theorem applyHunks_from (hCursor : state.cursor ≤ original.length)
    (hApply : hunks.foldlM (applyHunk original) state = .ok next) :
    next.cursor ≤ original.length ∧
      ∃ lines newline, Edited original state.cursor hunks lines newline ∧
        next.output ++ original.drop next.cursor = state.output ++ lines ∧
        next.newline = (state.newline && newline) := by
  induction hunks generalizing state with
  | nil =>
    cases hApply
    exact ⟨hCursor, _, _, .rest hCursor, rfl, (Bool.and_true _).symm⟩
  | cons hunk hunks ih =>
    rcases bind_eq_ok.mp hApply with ⟨middle, hFirst, hApply⟩
    rcases applyHunk_eq_ok hCursor hFirst with ⟨changes, start, hChanges, hPlaced, rfl⟩
    rcases ih hPlaced.stands.1 hApply with ⟨hNext, lines, newline, hEdited, hLines, hNewline⟩
    refine ⟨hNext, _, _, .hunk hChanges hPlaced hEdited, ?_, ?_⟩
    · rw [hLines, List.append_assoc]
    · rw [hNewline, Bool.and_assoc, Bool.and_comm newline]

/-
  A patch that is applied replaces the old lines of each hunk, at places in
  their order, and keeps every other line. The newline at the end is kept unless
  a hunk takes it away.
-/
theorem applyHunks_edited {original result : String}
    {hunks : List ModelPatchHunk} (hApply : applyHunks original hunks = .ok result) :
    ∃ lines newline, Edited (splitLines original).1 0 hunks lines newline ∧
      result = joinLines lines ((splitLines original).2 && newline) := by
  rcases bind_eq_ok.mp hApply with ⟨state, hState, hApply⟩
  rcases applyHunks_from (Nat.zero_le _) hState with
    ⟨hCursor, lines, newline, hEdited, hLines, hNewline⟩
  have hSlice : slice (splitLines original).1 state.cursor (splitLines original).1.length = .ok _ :=
    if_pos ⟨hCursor, Nat.le_refl _⟩
  rw [hSlice] at hApply
  cases hApply
  refine ⟨lines, newline, hEdited, ?_⟩
  rw [← List.length_drop, List.take_length, hLines, hNewline]
  rfl

/- The second line of the two that are alike is after the anchor. -/
theorem edited_twoHunks :
    ∃ lines newline, Edited (splitLines "a\nb\na\nc\n").1 0
        [⟨"@@", some " b ", ["-a", "+x"], false, false⟩, ⟨"@@ -4,1 +4,1 @@", none,
          ["-c", "+y", "\\ No newline at end of file"], true, false⟩] lines newline ∧
      "a\nb\nx\ny" = joinLines lines ((splitLines "a\nb\na\nc\n").2 && newline) :=
  applyHunks_edited (by rfl)

/-
  An index is out of range exactly when a hunk that is reached at the start of
  the file, without a context and without the mark of its end, has more old
  lines than the file.
-/
theorem applyHunks_outOfRange_iff (original : String) (hunks : List ModelPatchHunk) :
    applyHunks original hunks = .error .outOfRange ↔
      ∃ before hunk after state changes, hunks = before ++ hunk :: after ∧
        before.foldlM (applyHunk (splitLines original).1)
          ⟨[], 0, (splitLines original).2⟩ = .ok state ∧
        hunkChanges hunk = .ok changes ∧ state.cursor = 0 ∧ hunk.context = none ∧
        hunk.endOfFile = false ∧ (splitLines original).1.length < changes.oldLines.length := by
  unfold applyHunks
  rw [bind_eq_error, or_iff_left, foldlM_eq_error_iff]
  · constructor
    · rintro ⟨before, hunk, after, state, hHunks, hBefore, hError⟩
      have hCursor := (applyHunks_from (Nat.zero_le _) hBefore).1
      obtain ⟨changes, hChanges, hStart⟩ := (applyHunk_outOfRange_iff hCursor).1 hError
      exact ⟨before, hunk, after, state, changes, hHunks, hBefore, hChanges,
        (hunkStart_outOfRange_iff hCursor).1 hStart⟩
    · rintro ⟨before, hunk, after, state, changes, hHunks, hBefore, hChanges, hLong⟩
      have hCursor := (applyHunks_from (Nat.zero_le _) hBefore).1
      exact ⟨before, hunk, after, state, hHunks, hBefore,
        (applyHunk_outOfRange_iff hCursor).2 ⟨changes,
          hChanges, (hunkStart_outOfRange_iff hCursor).2 hLong⟩⟩
  · rintro ⟨state, hState, hSlice⟩
    have hCursor := (applyHunks_from (Nat.zero_le _) hState).1
    rw [slice, if_pos ⟨hCursor, Nat.le_refl _⟩] at hSlice
    cases hSlice

/- Two old lines are searched in a file of one line. -/
theorem longHunk_outOfRange : applyHunks "x"
      [⟨"@@", none, [" a", " b"], false, false⟩] = .error .outOfRange := by
  rfl

/- The lines between the newlines, before the last one is dropped. -/
def pieces (text : String) : List String := (text.toList.splitOn '\n').map String.ofList

theorem pieces_ne_nil (text : String) : pieces text ≠ [] := by
  simp [pieces]

theorem intercalate_pieces (text : String) : String.intercalate "\n" (pieces text) = text := by
  apply String.toList_injective
  simp [pieces, Function.comp_def]

theorem pieces_intercalate {lines : List String} (hLines : lines ≠ [])
    (hNewlines : ∀ line ∈ lines, '\n' ∉ line.toList) :
    pieces (String.intercalate "\n" lines) = lines := by
  have hSplit : (['\n'].intercalate (lines.map String.toList)).splitOn '\n' = _ :=
    List.splitOn_intercalate '\n' (by simpa using hNewlines) (by simpa using hLines)
  simp [pieces, hSplit, Function.comp_def]

theorem pieces_append (front : String) : pieces (front ++ "\n") = pieces front ++ [""] := by
  have hSplit : List.splitOn '\n' (front.toList ++ ['\n']) = _ :=
    List.splitOn_append_cons_self front.toList []
  simp [pieces, hSplit]

theorem splitLines_append (front : String) : splitLines (front ++ "\n") = (pieces front, true) := by
  have hLines : (pieces (front ++ "\n")).dropLast = pieces front := by
    rw [pieces_append, List.dropLast_concat]
  rw [← hLines]
  simp [splitLines, pieces]

/- A text ends with a newline, or its last line is kept. -/
theorem splitLines_cases (text : String) :
    (∃ front, text = front ++ "\n") ∨ splitLines text = (pieces text, false) := by
  by_cases hLast : text.toList.getLast? = some '\n'
  · rcases List.getLast?_eq_some_iff.mp hLast with ⟨front, hFront⟩
    exact .inl ⟨String.ofList front, String.toList_injective (by simp [hFront])⟩
  · exact .inr (by simp [splitLines, hLast, pieces])

/-
  Splitting and joining keep a text that is not one newline. Joining and
  splitting keep the lines and the flag, where no line is lost at the end.
-/
theorem lines_roundTrip :
    (∀ text, text ≠ "\n" → joinLines (splitLines text).1 (splitLines text).2 = text) ∧
    ∀ lines newline, lines ≠ [] → (∀ line ∈ lines, '\n' ∉ line.toList) →
      (if newline then lines ≠ [""] else lines.getLast? = some "" → lines = [""]) →
        splitLines (joinLines lines newline) = (lines, newline) := by
  constructor
  · intro text hText
    rcases splitLines_cases text with ⟨front, rfl⟩ | hSplit
    · have hFront : front ≠ "" := by
        rintro rfl
        exact hText rfl
      simp [splitLines_append, joinLines, intercalate_pieces, hFront]
    · simp [hSplit, joinLines, intercalate_pieces]
  · intro lines newline hLines hNewlines hKept
    have hPieces := pieces_intercalate hLines hNewlines
    cases newline with
    | true =>
      have hSome : String.intercalate "\n" lines ≠ "" := by
        intro hEmpty
        rw [hEmpty] at hPieces
        exact hKept (hPieces.symm.trans (by decide))
      simp [joinLines, hSome, splitLines_append, hPieces]
    | false =>
      have hJoin : joinLines lines false = String.intercalate "\n" lines := rfl
      rw [hJoin]
      rcases splitLines_cases (String.intercalate "\n" lines) with ⟨front, hFront⟩ | hSplit
      · -- the last piece is empty, and others stand before it
        rw [hFront, pieces_append] at hPieces
        have hOne := hKept (by simp [← hPieces])
        simp [← hPieces, pieces_ne_nil] at hOne
      · rw [hSplit, hPieces]

theorem lines_roundTrip_two : joinLines (splitLines "a\n\n").1 (splitLines "a\n\n").2 = "a\n\n" ∧
    splitLines (joinLines ["a", "b"] true) = (["a", "b"], true) :=
  ⟨lines_roundTrip.1 _ (by decide), lines_roundTrip.2 _ _ (by simp) (by decide) (by decide)⟩

/- A text of one newline, and a last line that is empty. -/
theorem newline_lost : joinLines (splitLines "\n").1 (splitLines "\n").2 = "" ∧
    splitLines (joinLines ["a", ""] false) = (["a"], true) := by
  decide

end GolutraAgent.Tools
