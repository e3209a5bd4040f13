import GolutraAgent.Context.Fallback
import GolutraAgent.Library.Json

/-
  This file models when a validation of a task is still current. A check of
  files names its files in its command, and only changes of these files make it
  stale. The files are compared as texts: the last words of the command with the
  paths of the changed files.

  Main declarations:
    * `validationIsCurrent_eq_false_iff`
    * `absolute_change_overlooked`
-/

namespace GolutraAgent.Runtime

open Context Text

inductive ToolResultStatus
| ok
| error
| blocked
| cancelled
| timeout
deriving DecidableEq

structure ToolExecutionReport where
  toolCallId : Nat
  toolName : String
  status : ToolResultStatus
  structuredFacts : Json.Value
  risk : String
  changedFiles : List Chars

variable (report : ToolExecutionReport)

/- Whether a fact is the value `true`. -/
def ToolExecutionReport.states (fact : String) : Bool :=
  (report.structuredFacts.get fact).bind Json.Value.asBool = some true

/- The last name of a path. -/
def fileName (path : Chars) : Option Chars :=
  (((path.splitOn '/').filter (fun part => part ≠ [] ∧ part ≠ ['.'])).getLast?).filter
    (· ≠ ['.', '.'])

/- The stem of a name, and its extension. A leading dot begins none. -/
def splitExtension (name : Chars) : Chars × Option Chars :=
  let stem := ((name.reverse.dropWhile (· ≠ '.')).tail).reverse
  if stem = [] then (name, none)
  else (stem, some (name.reverse.takeWhile (· ≠ '.')).reverse)

def isDocumentationOnlyFile (path : Chars) : Bool :=
  (fileName path).any (fun name =>
    let (stem, extension) := splitExtension name
    ["md", "mdown", "markdown", "rst"].any (some ·.toList = extension) ||
      ((extension = none || extension = some "txt".toList) &&
        ["authors", "changelog", "changes", "contributors", "copying", "license", "notice",
          "readme"].any (fun known =>
            stem.map Char.toLower = known.toList ||
              (known.toList ++ ['.']).isPrefixOf (stem.map Char.toLower))))

def slashes (path : Chars) : Chars := path.map (fun letter => if letter = '\\' then '/' else letter)

def trimQuotes (word : Chars) : Chars :=
  let quote : Char → Bool := fun letter => letter = '\'' || letter = '"'
  (word.dropWhile quote).rdropWhile quote

def commandOf : Option Chars :=
  ((report.structuredFacts.get "command").bind Json.Value.asStr).map String.toList

/- The words that a direct check of files has at its end. -/
def checkedWords (parts : List Chars) : List Chars :=
  if parts.head? = some "test".toList then
    parts.getLast?.toList.filter (fun path => trimQuotes path ≠ "test".toList)
  else if (parts.head? = some "cmp".toList || parts.head? = some "diff".toList) &&
    3 ≤ parts.length then parts.reverse.take 2
  else []

def partsOf : List Chars :=
  ((commandOf report).map words).getD []

def directFileCheckPaths : Option (List Chars) :=
  let paths := ((checkedWords (partsOf report)).map trimQuotes).filter (·.head? ≠ some '-')
  if paths = [] then none else some (paths.map slashes)

/- One of two paths is the other or stands above it. -/
def overlaps (path scope : Chars) : Bool :=
  path = scope || (scope ++ ['/']).isPrefixOf path || (path ++ ['/']).isPrefixOf scope

def directFileCheckIsUnaffected (validation later : ToolExecutionReport) : Bool :=
  match directFileCheckPaths validation with
  | none => false
  | some paths => !later.changedFiles.any (fun path =>
      !isDocumentationOnlyFile path && paths.any (overlaps (slashes path)))

def onlyProvenDerivedOutputsChanged : Bool :=
  (report.toolName = "shell" || report.toolName = "shell_session") &&
    report.risk ≠ "external_mcp_tool" && report.status = .ok &&
    report.states "workspace_changes_known" &&
    report.states "workspace_only_derived_changes" && !report.changedFiles.isEmpty

def changesBehaviour : Bool :=
  report.changedFiles.any (!isDocumentationOnlyFile ·) ||
    (report.states "workspace_mutation_detected" && !report.states "workspace_changes_known")

def validationIsCurrent (reports : List ToolExecutionReport) : Bool :=
  if report.toolName = "read_file" || report.toolName = "list_dir" then true
  else match reports.findIdx? (·.toolCallId = report.toolCallId) with
    | none => false
    | some index => !(reports.drop (index + 1)).any (fun later =>
        !onlyProvenDerivedOutputsChanged later && !directFileCheckIsUnaffected report later &&
          changesBehaviour later)

/- The parts of a path from a directory on. -/
def resolve (directory path : Chars) : List Chars :=
  let whole := if path.head? = some '/' then path else directory ++ '/' :: path
  (whole.splitOn '/').foldl (fun parts part =>
    if part = [] ∨ part = ['.'] then parts
    else if part = ['.', '.'] then parts.dropLast
    else parts ++ [part]) []

/- The words of a command, in each of its parts, name a file. -/
def NamesFile (root command path : Chars) : Prop :=
  ∃ word ∈ command.splitOnP (fun letter =>
      isSpace letter || [';', '&', '|', '(', ')', '<', '>'].contains letter),
    resolve root (trimQuotes word) = resolve root path

/- A later report after which a validation is stale. -/
def Outdates (root : Chars) (validation later : ToolExecutionReport) : Prop :=
  onlyProvenDerivedOutputsChanged later = false ∧
    ((∃ path ∈ later.changedFiles, isDocumentationOnlyFile path = false ∧
      ∃ command, commandOf validation = some command ∧ NamesFile root command path) ∨
      (later.states "workspace_mutation_detected" = true ∧
        later.states "workspace_changes_known" = false))

/-
  The words of a command that are compared: the last one of `test`, and the last
  two of `cmp` and `diff`. Options are not.
-/
def Compared (validation : ToolExecutionReport) (word : Chars) : Prop :=
  let parts := partsOf validation
  (trimQuotes word).head? ≠ some '-' ∧
    ((parts.head? = some "test".toList ∧ parts.getLast? = some word ∧
        trimQuotes word ≠ "test".toList) ∨
      ((parts.head? = some "cmp".toList ∨ parts.head? = some "diff".toList) ∧
        3 ≤ parts.length ∧ word ∈ parts.drop (parts.length - 2)))

/- As a text, the path of a changed file is that of a word, or above or below it. -/
def Touches (later : ToolExecutionReport) (word : Chars) : Prop :=
  ∃ path ∈ later.changedFiles, isDocumentationOnlyFile path = false ∧
    (slashes path = slashes (trimQuotes word) ∨
      slashes (trimQuotes word) ++ ['/'] <+: slashes path ∨
      slashes path ++ ['/'] <+: slashes (trimQuotes word))

variable {root : Chars} {validation later : ToolExecutionReport}
variable {before after : List ToolExecutionReport}

theorem Outdates.changesBehaviour (hOutdates : Outdates root validation later) :
    changesBehaviour later = true := by
  rcases hOutdates with ⟨-, ⟨path, hPath, hDocumentation, -⟩ | ⟨hDetected, hKnown⟩⟩
  · simp only [Runtime.changesBehaviour, Bool.or_eq_true, List.any_eq_true]
    exact .inl ⟨path, hPath, by simp [hDocumentation]⟩
  · simp [Runtime.changesBehaviour, hDetected, hKnown]

theorem Touches.changesBehaviour {word : Chars} (hTouches : Touches later word) :
    changesBehaviour later = true := by
  rcases hTouches with ⟨path, hPath, hDocumentation, -⟩
  simp only [Runtime.changesBehaviour, Bool.or_eq_true, List.any_eq_true]
  exact .inl ⟨path, hPath, by simp [hDocumentation]⟩

theorem mem_checkedWords {word : Chars} : word ∈ checkedWords (partsOf validation) ∧
    (trimQuotes word).head? ≠ some '-' ↔ Compared validation word := by
  unfold checkedWords Compared
  rw [and_comm, List.take_reverse]
  refine and_congr_right (fun _ => ?_)
  split_ifs <;> simp_all

/- There are no paths to compare, or those of the compared words. -/
theorem directFileCheckPaths_cases :
    (directFileCheckPaths validation = none ∧ ∀ word, ¬ Compared validation word) ∨
      ∃ paths, directFileCheckPaths validation = some paths ∧ paths ≠ [] ∧
        ∀ scope, scope ∈ paths ↔ ∃ word, Compared validation word ∧
          slashes (trimQuotes word) = scope := by
  unfold directFileCheckPaths
  dsimp only
  split
  next hNone =>
    refine .inl ⟨rfl, ?_⟩
    intro word hWord
    rcases mem_checkedWords.mpr hWord with ⟨hIn, hHead⟩
    exact List.filter_eq_nil_iff.mp hNone _ (List.mem_map_of_mem hIn) (by simpa using hHead)
  next hSome =>
    refine .inr ⟨_, rfl, by simpa using hSome, ?_⟩
    intro scope
    simp [← mem_checkedWords, and_assoc]

theorem directFileCheckIsUnaffected_eq_false_iff :
    directFileCheckIsUnaffected validation later = false ↔
      (∀ word, ¬ Compared validation word) ∨
        ∃ word, Compared validation word ∧ Touches later word := by
  unfold directFileCheckIsUnaffected
  rcases @directFileCheckPaths_cases validation with ⟨hPaths, hNone⟩ | ⟨paths, hPaths, hSome, hMem⟩
  · simp [hPaths, hNone]
  · rcases List.exists_mem_of_ne_nil paths hSome with ⟨scope, hIn⟩
    rcases (hMem scope).mp hIn with ⟨word, hWord, -⟩
    rw [or_iff_right (fun hNone => hNone word hWord)]
    simp only [hPaths, Bool.not_eq_false', List.any_eq_true, Bool.and_eq_true, Bool.not_eq_true',
      overlaps, Bool.or_eq_true, decide_eq_true_eq, List.isPrefixOf_iff_prefix, Touches, hMem]
    constructor
    · rintro ⟨path, hPath, hDocumentation, _, ⟨word, hWord, rfl⟩, hOverlaps⟩
      exact ⟨word, hWord, path, hPath, hDocumentation, or_assoc.mp hOverlaps⟩
    · rintro ⟨word, hWord, path, hPath, hDocumentation, hOverlaps⟩
      exact ⟨path, hPath, hDocumentation, _, ⟨word, hWord, rfl⟩, or_assoc.mpr hOverlaps⟩

theorem findIdx?_validation
    (hIds : ((before ++ validation :: after).map ToolExecutionReport.toolCallId).Nodup) :
    (before ++ validation :: after).findIdx? (·.toolCallId = validation.toolCallId) =
      some before.length := by
  have hBefore : before.findIdx? (·.toolCallId = validation.toolCallId) = none := by
    rw [List.findIdx?_eq_none_iff]
    intro other hOther
    rw [List.map_append, List.nodup_append] at hIds
    simpa using hIds.2.2 _ (List.mem_map_of_mem hOther) _ List.mem_cons_self
  rw [List.findIdx?_append, hBefore]
  simp [List.findIdx?_cons]

/-
  A stale validation is seen if its command compares no paths, or if a later
  report changed a file whose path is compared.
-/
theorem validationIsCurrent_eq_false_iff
    (hIds : ((before ++ validation :: after).map ToolExecutionReport.toolCallId).Nodup)
    (hTool : validation.toolName ≠ "read_file" ∧ validation.toolName ≠ "list_dir")
    (hOutdated : ∃ later ∈ after, Outdates root validation later) :
    validationIsCurrent validation (before ++ validation :: after) = false ↔
      (∀ word, ¬ Compared validation word) ∨
        ∃ later ∈ after, onlyProvenDerivedOutputsChanged later = false ∧
          ∃ word, Compared validation word ∧ Touches later word := by
  have hCurrent : validationIsCurrent validation (before ++ validation :: after) = false ↔
      ∃ later ∈ after, (onlyProvenDerivedOutputsChanged later = false ∧
        directFileCheckIsUnaffected validation later = false) ∧ changesBehaviour later = true := by
    simp [validationIsCurrent, hTool.1, hTool.2, findIdx?_validation hIds]
  simp only [hCurrent, directFileCheckIsUnaffected_eq_false_iff]
  constructor
  · rintro ⟨later, hLater, ⟨hDerived, hNone | hSeen⟩, -⟩
    · exact .inl hNone
    · exact .inr ⟨later, hLater, hDerived, hSeen⟩
  · rintro (hNone | ⟨later, hLater, hDerived, hSeen⟩)
    · -- without paths to compare every change counts, so the stale one does
      rcases hOutdated with ⟨later, hLater, hOutdates⟩
      exact ⟨later, hLater, ⟨hOutdates.1, .inl hNone⟩, hOutdates.changesBehaviour⟩
    · rcases hSeen with ⟨word, hWord, hTouches⟩
      exact ⟨later, hLater, ⟨hDerived, .inr ⟨word, hWord, hTouches⟩⟩, hTouches.changesBehaviour⟩

def fileCheck (command : String) : ToolExecutionReport :=
  ⟨1, "shell", .ok, .object [("command", .string command)], "low", []⟩

def fileWrite : ToolExecutionReport := ⟨2, "write_file", .ok, .null, "low", ["/w/a".toList]⟩

/- The change comes after a report that changed nothing. -/
theorem absolute_change_seen :
    validationIsCurrent (fileCheck "test -f /w/a")
      ([] ++ [fileCheck "test -f /w/a", { fileCheck "ls" with toolCallId := 3 }, fileWrite]) =
      false := by
  refine (validationIsCurrent_eq_false_iff (by decide) (by decide) ⟨fileWrite, by simp,
    show Outdates "/w".toList _ _ from ⟨by decide, .inl ⟨_, List.mem_cons_self, by decide, _, rfl,
      "/w/a".toList, by decide, by decide⟩⟩⟩).mpr ?_
  exact .inr ⟨fileWrite, by simp, by decide, "/w/a".toList,
    ⟨by decide, .inl ⟨by decide, by decide, by decide⟩⟩, _, List.mem_cons_self, by decide, .inl rfl⟩

/- The path of the change is absolute and the one of the check is not. -/
theorem absolute_change_overlooked : Outdates "/w".toList (fileCheck "test -f ./a") fileWrite ∧
      validationIsCurrent (fileCheck "test -f ./a") [fileCheck "test -f ./a", fileWrite] = true :=
  ⟨⟨by decide, .inl ⟨_, List.mem_cons_self, by decide, _, rfl, "./a".toList, by decide, by decide⟩⟩,
    by decide⟩

end GolutraAgent.Runtime
