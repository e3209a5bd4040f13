import GolutraAgent.Library.Options
import GolutraAgent.Library.Text

/-
  This file models which commands count as strictly read-only, so that they take
  the fast path, and compares it with the output files that `sort`, `uniq` and
  `git` are given.

  Main declarations:
    * `readOnly_outputs_iff`
-/

namespace GolutraAgent.Policy

open Options (Item)
open Text (startsWith)

def isShellVariableAssignment (value : String) : Bool :=
  let wordLetter := fun letter : Char => letter = '_' || letter.isAlpha
  value.toList.contains '=' && match value.toList.takeWhile (· ≠ '=') with
    | [] => false
    | first :: rest => wordLetter first && rest.all (fun letter =>
          wordLetter letter || letter.isDigit)

def bareProgramNameIsSafe (program : String) : Bool :=
  program ≠ "" && !program.toList.any ['/', '\\'].contains && !isShellVariableAssignment program &&
    !List.contains ["bash", "sh", "zsh", "env", "command", "sudo"] program

/- An option is given alone, or with `=` and its value. -/
def namesOption (name argument : String) : Bool :=
  argument = name || startsWith (name ++ "=") argument

/- The file may be attached. What starts is of two bytes. -/
def outputFlag (argument : String) : Bool := argument = "-o" ||
    startsWith "-o" argument && decide (2 < argument.length)

def simpleReadCommandIsSafe (program : String) (arguments : List String) : Bool :=
  if program = "sort" then
    !arguments.any (fun argument =>
      outputFlag argument || namesOption "--output" argument ||
        namesOption "--compress-program" argument ||
        namesOption "--temporary-directory" argument)
  else true

def ripgrepReadCommandIsSafe (arguments : List String) : Bool := !arguments.any (fun argument =>
    namesOption "--pre" argument ||
      namesOption "--pre-glob" argument)

def findArgumentCanWriteOrFollowLinks (argument : String) : Bool :=
  ["-delete", "-exec", "-execdir", "-ok", "-okdir", "-fls",
    "-fprint", "-fprint0", "-fprintf", "-H", "-L", "-follow"].contains argument ||
  ["-exec", "-ok", "-fprint", "-fls"].any (startsWith · argument)

def argumentContainsWorkspaceEscapeHint (argument : String) : Bool :=
  startsWith "/" argument || argument = "~" || startsWith "~/" argument ||
    (argument.toList.splitOn '/').contains ['.', '.'] || argument.toList.any "$`".toList.contains

def findReadCommandIsSafe (arguments : List String) : Bool := arguments.all (fun argument =>
    !findArgumentCanWriteOrFollowLinks argument && !argumentContainsWorkspaceEscapeHint argument)

def gitArgumentCanExecuteOrWrite (argument : String) : Bool :=
  ["--ext-diff", "--textconv", "--no-index", "--paginate",
    "--pager", "--upload-pack", "--receive-pack", "--exec-path",
    "-c", "--config", "--config-env"].contains argument ||
  ["--output=", "--upload-pack=", "--receive-pack=",
    "--pager="].any (startsWith · argument)

def gitReadCommandIsSafe : List String → Bool
  | [] => false
  | subcommand :: arguments =>
    if ["branch", "diff", "log", "merge-base", "rev-parse", "show"].contains subcommand then
      if subcommand = "branch" then
        arguments = ["--show-current"]
      else
        !arguments.any (fun argument =>
          gitArgumentCanExecuteOrWrite argument ||
            outputFlag argument || argument = "--output")
    else false

def shellCommandIsStrictlyReadOnly : List String → Bool
  | [] => false
  | program :: arguments =>
    bareProgramNameIsSafe program && (program :: arguments).all (!·.toList.contains '\x00') &&
      if program = "date" then
        arguments.isEmpty || arguments.length = 1 && arguments.all (startsWith "+")
      else if ["cat", "cut", "du", "file", "grep", "head", "ls",
          "printf", "pwd", "readlink", "sort", "strings", "tail",
          "tr", "uniq", "wc"].contains program then
        simpleReadCommandIsSafe program arguments
      else if program = "rg" then ripgrepReadCommandIsSafe arguments
      else if program = "find" then findReadCommandIsSafe arguments
      else if program = "git" then gitReadCommandIsSafe arguments
      else false

def outputOption (short : Bool) : Item → Option (List Char)
  | .short letter _ value => if short ∧ letter = 'o' then value else none
  | .long name value => if name = "output".toList then value else none
  | .operand _ => none

def operands (items : List Item) : List (List Char) := items.filterMap (fun item =>
    match item with
    | .operand text => some text
    | _ => none)

/- The output files that a program is given. -/
def outputs (program : String) (items : List Item) : List (List Char) :=
  if program = "sort" then items.filterMap (outputOption true)
  else if program = "uniq" then ((operands items).drop 1).take 1
  else if program = "git" then items.filterMap (outputOption false)
  else []

/-
  The arguments of `sort` name a file with `-o` only where it leads its cluster,
  and `uniq` has one operand at most.
-/
def Plain (program : String) (items : List Item) : Prop := (program = "sort" → ∀ leads file,
    .short 'o' leads (some file) ∈ items → leads = true) ∧
  (program = "uniq" → (operands items).length ≤ 1)

variable {table : Options.Table} {arguments : List String}

theorem outputFlag_eq (argument : String) : outputFlag argument = startsWith "-o" argument := by
  rw [Bool.eq_iff_iff, outputFlag, Bool.or_eq_true,
    Bool.and_eq_true, decide_eq_true_eq, decide_eq_true_eq]
  constructor
  · rintro (rfl | hLonger)
    · decide
    · exact hLonger.1
  · intro hStarts
    by_cases hLong : 2 < argument.length
    · exact .inr ⟨hStarts, hLong⟩
    · have hPrefix := List.isPrefixOf_iff_prefix.mp hStarts
      exact .inl (String.toList_inj.mp (hPrefix.eq_of_length_le (Nat.le_of_not_lt hLong)).symm)

theorem gitRead_output (hSafe : gitReadCommandIsSafe arguments = true) : ∀ argument ∈ arguments,
      namesOption "--output" argument = false := by
  cases arguments with
  | nil => cases hSafe
  | cons subcommand arguments =>
    rw [gitReadCommandIsSafe] at hSafe
    split at hSafe
    next hKnown =>
      have hFirst : namesOption "--output" subcommand =
          false := by
        simp only [List.contains_iff_mem, List.mem_cons, List.not_mem_nil, or_false] at hKnown
        rcases hKnown with rfl | rfl | rfl | rfl | rfl | rfl <;> decide
      refine List.forall_mem_cons.mpr ⟨hFirst, ?_⟩
      split at hSafe
      next =>
        rw [of_decide_eq_true hSafe]
        decide
      next =>
        intro argument hIn
        simp only [Bool.not_eq_eq_eq_not, Bool.not_true,
          List.any_eq_false, gitArgumentCanExecuteOrWrite,
          List.any_cons, Bool.or_eq_true, not_or, Bool.not_eq_true] at hSafe
        exact Bool.or_eq_false_iff.mpr ⟨(hSafe argument hIn).2, (hSafe argument hIn).1.1.2.1⟩
    next => cases hSafe

theorem outputOption_eq_none {short : Bool} {items : List Item} {item : Item}
    (hShort : short = true → ∀ leads file, .short 'o' leads (some file) ∉ items)
    (hLong : ∀ value, .long "output".toList value ∉ items) (hItem : item ∈ items) :
    outputOption short item = none := by
  cases item with
  | short letter leads value =>
    rw [outputOption]
    split
    next hOutput =>
      cases value with
      | none => rfl
      | some file => exact absurd (hOutput.2 ▸ hItem) (hShort hOutput.1 leads file)
    next => rfl
  | long name value =>
    rw [outputOption]
    split
    next hName => exact absurd (hName ▸ hItem) (hLong value)
    next => rfl
  | operand => rfl

theorem mem_parse_argument {item : Item}
    (hItem : item ∈ Options.parse table (arguments.map String.toList))
    (hOption : ∀ text, item ≠ .operand text) :
    ∃ argument ∈ arguments, (Options.readArgument table argument.toList).Gives item := by
  rcases Options.mem_parse hItem with ⟨text, hSame⟩ | hArgument
  · exact absurd hSame (hOption text)
  · simpa using hArgument

theorem parse_output {value : Option (List Char)} (hNone : ∀ argument ∈ arguments,
      namesOption "--output" argument = false) :
    .long "output".toList value ∉ Options.parse table (arguments.map String.toList) := by
  intro hItem
  rcases mem_parse_argument hItem nofun with ⟨argument, hIn, hGives⟩
  have hNot := hNone argument hIn
  rw [namesOption, Bool.or_eq_false_iff] at hNot
  rcases Options.readArgument_long hGives with hSame | hStart
  · exact of_decide_eq_false hNot.1 (String.toList_inj.mp hSame)
  · have hYes := List.isPrefixOf_iff_prefix.mpr hStart
    exact Bool.false_ne_true (hNot.2.symm.trans hYes)

theorem parse_short {value : Option (List Char)}
    (hNone : ∀ argument ∈ arguments, startsWith "-o" argument = false) :
    .short 'o' true value ∉ Options.parse table (arguments.map String.toList) := by
  intro hItem
  rcases mem_parse_argument hItem nofun with ⟨argument, hIn, hGives⟩
  have hYes := List.isPrefixOf_iff_prefix.mpr (Options.readArgument_short hGives)
  exact Bool.false_ne_true ((hNone argument hIn).symm.trans hYes)

/-
  A command that counts as read-only names no output file just when its
  arguments are plain. For `git` they always are.
-/
theorem readOnly_outputs_iff {program : String}
    (hAccepted : shellCommandIsStrictlyReadOnly (program :: arguments) = true)
    (hProgram : program ∈ ["sort", "uniq", "git"]) (table : Options.Table) :
    let items := Options.parse table (arguments.map String.toList)
    outputs program items = [] ↔ Plain program items := by
  intro items
  rw [shellCommandIsStrictlyReadOnly, Bool.and_eq_true] at hAccepted
  have hSafe := hAccepted.2
  simp only [List.mem_cons, List.not_mem_nil, or_false] at hProgram
  rcases hProgram with rfl | rfl | rfl
  · have hSort : ∀ argument ∈ arguments, startsWith "-o" argument = false ∧
          namesOption "--output" argument = false := by
      intro argument hIn
      have hNot : simpleReadCommandIsSafe "sort" arguments = true := hSafe
      simp only [simpleReadCommandIsSafe, outputFlag_eq, if_true, Bool.not_eq_eq_eq_not,
        Bool.not_true, List.any_eq_false, Bool.or_eq_true, not_or, Bool.not_eq_true] at hNot
      exact (hNot argument hIn).1.1
    rw [outputs, if_pos rfl, List.filterMap_eq_nil_iff]
    constructor
    · intro hNone
      refine ⟨fun _ leads file hItem => ?_, nofun⟩
      cases hNone _ hItem
    · intro hPlain item hItem
      refine outputOption_eq_none (fun _ leads file hOutput => ?_)
        (fun _ => parse_output (fun argument hIn => (hSort argument hIn).2)) hItem
      rw [hPlain.1 rfl leads file hOutput] at hOutput
      exact parse_short (fun argument hIn => (hSort argument hIn).1) hOutput
  · rw [outputs]
    simp [Plain, -List.drop_one]
  · rw [outputs, if_neg (by decide), if_neg (by decide), if_pos rfl, List.filterMap_eq_nil_iff]
    refine iff_of_true ?_ ⟨nofun, nofun⟩
    intro item hItem
    exact outputOption_eq_none nofun (fun _ => parse_output (gitRead_output hSafe)) hItem

/- The options of `sort` and `uniq` that take a value. -/
def sortOptions : Options.Table := ⟨['k', 'o', 't'].contains, (· = "output".toList)⟩

def uniqOptions : Options.Table := ⟨['f', 's'].contains, fun _ => false⟩

theorem sort_reverse_plain : shellCommandIsStrictlyReadOnly ["sort", "-r", "in"] = true ∧
      (outputs "sort" (Options.parse sortOptions (["-r", "in"].map String.toList)) = [] ↔
      Plain "sort" (Options.parse sortOptions (["-r", "in"].map String.toList))) :=
  ⟨by decide +kernel, readOnly_outputs_iff (by decide +kernel) (by decide) sortOptions⟩

/- `sort -ro out in` and `uniq in out` write a file. -/
theorem readOnly_writes : (shellCommandIsStrictlyReadOnly ["sort", "-ro", "out", "in"] = true ∧
      outputs "sort" (Options.parse sortOptions (["-ro", "out", "in"].map String.toList)) =
          ["out".toList]) ∧
    shellCommandIsStrictlyReadOnly ["uniq", "in", "out"] = true ∧
      outputs "uniq" (Options.parse uniqOptions
        (["in", "out"].map String.toList)) = ["out".toList] := by
  decide +kernel

end GolutraAgent.Policy
