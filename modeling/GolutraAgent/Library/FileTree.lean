import Mathlib.Data.BitVec
import Mathlib.Data.List.Basic

/-
  This file develops a file tree with regular files, directories and symbolic
  links, and the calls that walk a path in it. A location lists the names from
  the root to a node; a path is what a caller gives, and the links it meets
  decide which location it leads to.

  A location is clear if no node on the way to it is a link. Along a clear
  location a path leads where it says, and a call replaces the node at the
  location it names; making directories adds those that are missing above.

  Key definitions include:
    * `FileTree.Tree`
    * `FileTree.Tree.resolve`
    * `FileTree.Tree.Replaced`
    * `FileTree.Tree.Adds`
-/

namespace FileTree

/- The names from the root. -/
abbrev Location := List String

inductive Component
| normal (name : String)
| parentDir
deriving DecidableEq

structure Path where
  absolute : Bool
  components : List Component
deriving DecidableEq

inductive Node
| file (content : List UInt8) (mode : BitVec 12)
| directory
| link (target : Path)
deriving DecidableEq

/- Every node but the root lies in a directory. -/
structure Tree where
  node : Location → Option Node
  root : node [] = some .directory
  closed : ∀ location name, node (location ++ [name]) ≠ none → node location = some .directory

inductive FileError
| notFound
| notADirectory
| isADirectory
| alreadyExists
| tooManyLinks
| invalidInput

/- The components of a path from the root to a location. -/
def fromRoot (location : Location) : List Component := location.map .normal

namespace Tree

variable (tree : Tree)

def empty : Tree where
  node := fun location => if location = [] then some .directory else none
  root := rfl
  closed := by
    intro location name hNode
    simp at hNode

/- The node at a place that is no directory is replaced. -/
def place (location : Location) (name : String) (node : Option Node)
    (hParent : tree.node location = some .directory)
    (hNode : tree.node (location ++ [name]) ≠ some .directory) : Tree where
  node := fun other =>
    if other = location ++ [name] then node
    else tree.node other
  root := by
    rw [if_neg (by simp)]
    exact tree.root
  closed := by
    intro other child hChild
    by_cases hSame : other ++ [child] = location ++ [name]
    · obtain ⟨rfl, -⟩ := List.append_inj' hSame rfl
      rw [if_neg (by simp)]
      exact hParent
    · rw [if_neg hSame] at hChild
      have hOther := tree.closed other child hChild
      by_cases hPlace : other = location ++ [name]
      · rw [hPlace] at hOther
        exact absurd hOther hNode
      · rw [if_neg hPlace]
        exact hOther

/- A walk ends at a node, at a link, or in an error. -/
inductive Stop
| found (location : Location)
| link (directory : Location) (target : Path) (rest : List Component)
| error (e : FileError)

/- Walk up to the first link; the last one may be the end. -/
def stride (follow : Bool) : Location → List Component → Stop
| current, [] => .found current
| current, .parentDir :: rest => stride follow current.dropLast rest
| current, .normal name :: rest =>
  match tree.node (current ++ [name]) with
  | none => .error .notFound
  | some (.file _ _) =>
    if rest = [] then .found (current ++ [name])
    else .error .notADirectory
  | some .directory => stride follow (current ++ [name]) rest
  | some (.link target) =>
    if rest = [] && !follow then .found (current ++ [name])
    else .link current target rest

/- A link continues at its target. -/
def walk (follow : Bool) : Nat → Location → List Component → Except FileError Location
| budget, current, path =>
  match tree.stride follow current path with
  | .found location => .ok location
  | .error e => .error e
  | .link directory target rest =>
    match budget with
    | 0 => .error .tooManyLinks
    | budget + 1 =>
      walk follow budget (if target.absolute then [] else directory) (target.components ++ rest)

def maxLinks : Nat := 40

def resolve (follow : Bool) (path : List Component) : Except FileError Location :=
  tree.walk follow maxLinks [] path

variable (path : List Component)

/- The node itself, also if it is a link. -/
def symlinkMetadata : Except FileError Node :=
  match tree.resolve false path with
  | .error e => .error e
  | .ok location =>
    match tree.node location with
    | none => .error .notFound
    | some node => .ok node

def canonicalize : Except FileError Location := tree.resolve true path

def isDirectory : Bool :=
  match tree.canonicalize path with
  | .error _ => false
  | .ok location => tree.node location = some .directory

def readFile : Except FileError (List UInt8) :=
  match tree.canonicalize path with
  | .error e => .error e
  | .ok location =>
    match tree.node location with
    | some (.file content _) => .ok content
    | some .directory => .error .isADirectory
    | _ => .error .notFound

/- A place in a directory, whether something is there or not. -/
structure Entry where
  parent : Location
  name : String
  inDirectory : tree.node parent = some .directory

def Entry.location {tree : Tree} (entry : tree.Entry) : Location := entry.parent ++ [entry.name]

def entry : Except FileError tree.Entry :=
  match path.getLast? with
  | some (.normal name) =>
    match tree.canonicalize path.dropLast with
    | .error e => .error e
    | .ok parent =>
      if hParent : tree.node parent = some .directory then .ok ⟨parent, name, hParent⟩
      else .error .notADirectory
  | _ => .error .invalidInput

/- A new node, if there is nothing at its place. -/
def make (node : Node) : Except FileError Tree :=
  match tree.entry path with
  | .error e => .error e
  | .ok entry =>
    if hFree : tree.node entry.location = none then
      .ok (tree.place entry.parent entry.name (some node) entry.inDirectory (by
          rw [Entry.location] at hFree
          rw [hFree]
          exact (Option.some_ne_none _).symm))
    else .error .alreadyExists

def mkdir : Except FileError Tree := tree.make path .directory

variable (content : List UInt8) (mode : BitVec 12)

/- A new name for a file, if there is nothing under it. -/
def createFile : Except FileError Tree := tree.make path (.file content mode)

/- A file that was written aside is renamed to the path. -/
def replaceFile : Except FileError Tree :=
  match tree.entry path with
  | .error e => .error e
  | .ok entry =>
    if hOld : tree.node entry.location = some .directory then .error .isADirectory
    else .ok (tree.place entry.parent entry.name (some (.file content mode)) entry.inDirectory hOld)

def removeFile : Except FileError Tree :=
  match tree.entry path with
  | .error e => .error e
  | .ok entry =>
    if hOld : tree.node entry.location = some .directory then .error .isADirectory
    else if tree.node entry.location = none then .error .notFound
    else .ok (tree.place entry.parent entry.name none entry.inDirectory hOld)

end Tree

/-
  The missing directories of a path, the last one first. The directories made
  before a failure stay.
-/
def createDirAllFrom : List Component → Tree → Except FileError Unit × Tree
| [], tree => (.ok (), tree)
| last :: parents, tree =>
  let path := parents.reverse ++ [last]
  match tree.mkdir path with
  | .ok made => (.ok (), made)
  | .error .notFound =>
    match createDirAllFrom parents tree with
    | (.error e, made) => (.error e, made)
    | (.ok (), above) =>
      match above.mkdir path with
      | .ok made => (.ok (), made)
      | .error e =>
        if above.isDirectory path then (.ok (), above)
        else (.error e, above)
  | .error e =>
    if tree.isDirectory path then (.ok (), tree)
    else (.error e, tree)

def Tree.createDirAll (tree : Tree) (path : List Component) : Except FileError Unit × Tree :=
  createDirAllFrom path.reverse tree

namespace Tree

variable {tree : Tree} {location : Location}

/- Above a node there are directories only. -/
theorem directory_above {rest : Location} (hNode : tree.node (location ++ rest) ≠ none)
    (hRest : rest ≠ []) : tree.node location = some .directory := by
  induction rest using List.reverseRecOn with
  | nil => exact absurd rfl hRest
  | append_singleton rest name ih =>
    rw [← List.append_assoc] at hNode
    have hParent := tree.closed _ _ hNode
    by_cases hEmpty : rest = []
    · rw [hEmpty, List.append_nil] at hParent
      exact hParent
    · refine ih ?_ hEmpty
      rw [hParent]
      exact Option.some_ne_none _

theorem dropLast_directory (hNode : tree.node location = some .directory) :
    tree.node location.dropLast = some .directory := by
  by_cases hEmpty : location = []
  · rw [hEmpty]
    exact tree.root
  · refine tree.closed _ (location.getLast hEmpty) ?_
    rw [List.dropLast_append_getLast hEmpty, hNode]
    exact Option.some_ne_none _

/- No node on the way to the location is a link. -/
def Clear (tree : Tree) (location : Location) : Prop :=
  ∀ above, above <+: location → ∀ target, tree.node above ≠ some (.link target)

theorem Clear.above {above : Location} (hClear : tree.Clear location)
    (hAbove : above <+: location) : tree.Clear above :=
  fun other hOther => hClear other (hOther.trans hAbove)

/-
  Along a clear location the walk ends at it, or it fails and nothing is there.
  By induction on the names.
-/
theorem stride_of_clear (follow : Bool) {current names : Location}
    (hCurrent : tree.node current = some .directory) (hClear : tree.Clear (current ++ names)) :
    (tree.node (current ++ names) ≠ none ∧ tree.stride follow current (fromRoot names) =
          .found (current ++ names)) ∨
      (tree.node (current ++ names) = none ∧
        ∃ e, tree.stride follow current (fromRoot names) = .error e) := by
  induction names generalizing current with
  | nil =>
    left
    rw [List.append_nil, hCurrent]
    exact ⟨Option.some_ne_none _, rfl⟩
  | cons name names ih =>
    have hSplit : current ++ name :: names = (current ++ [name]) ++ names := by
      rw [List.append_assoc]
      rfl
    have hNext : current ++ [name] <+: current ++ name :: names := ⟨names, hSplit.symm⟩
    have hStride : tree.stride follow current (fromRoot (name :: names)) =
      match tree.node (current ++ [name]) with
      | none => .error .notFound
      | some (.file _ _) =>
        if fromRoot names = [] then .found (current ++ [name])
        else .error .notADirectory
      | some .directory => tree.stride follow (current ++ [name]) (fromRoot names)
      | some (.link target) =>
        if fromRoot names = [] && !follow then .found (current ++ [name])
        else .link current target (fromRoot names) := rfl
    -- nothing is below what is not a directory
    have hBelow : tree.node (current ++ [name]) ≠ some .directory →
        names ≠ [] → tree.node (current ++ name :: names) = none := by
      intro hOther hNames
      by_contra hSome
      rw [hSplit] at hSome
      exact hOther (directory_above hSome hNames)
    cases hNode : tree.node (current ++ [name]) with
    | none =>
      right
      rw [hStride, hNode]
      refine ⟨?_, _, rfl⟩
      by_cases hEmpty : names = []
      · rw [hEmpty, hNode]
      · exact hBelow (by simp [hNode]) hEmpty
    | some node =>
      cases node with
      | link target => exact absurd hNode (hClear _ hNext target)
      | directory =>
        rw [hSplit] at hClear ⊢
        rw [hStride, hNode]
        exact ih hNode hClear
      | file content mode =>
        rw [hStride, hNode]
        by_cases hEmpty : names = []
        · left
          subst hEmpty
          rw [hNode]
          exact ⟨Option.some_ne_none _, rfl⟩
        · right
          refine ⟨hBelow (by simp [hNode]) hEmpty, .notADirectory, ?_⟩
          have hSome : fromRoot names ≠ [] := by simpa [fromRoot] using hEmpty
          simp [hSome]

/- A path along a clear location leads to it or fails. -/
theorem resolve_of_clear (follow : Bool) (hClear : tree.Clear location) :
    (tree.node location ≠ none ∧ tree.resolve follow (fromRoot location) = .ok location) ∨
      (tree.node location = none ∧ ∃ e, tree.resolve follow (fromRoot location) = .error e) := by
  have hStride := stride_of_clear follow tree.root hClear
  unfold resolve walk
  rcases hStride with ⟨hNode, hFound⟩ | ⟨hNode, e, hError⟩
  · left
    rw [hFound]
    exact ⟨hNode, rfl⟩
  · right
    rw [hError]
    exact ⟨hNode, e, rfl⟩

variable {follow : Bool}

theorem resolve_eq_of_clear {found : Location} (hClear : tree.Clear location)
    (hFound : tree.resolve follow (fromRoot location) = .ok found) :
    found = location ∧ tree.node location ≠ none := by
  rcases resolve_of_clear follow hClear with ⟨hNode, hOk⟩ | ⟨-, e, hError⟩
  · rw [hOk] at hFound
    cases hFound
    exact ⟨rfl, hNode⟩
  · rw [hError] at hFound
    cases hFound

variable {current : Location} {path : List Component}

/- A walk in directories ends at a node, or stops in one. -/
theorem stride_directory (hCurrent : tree.node current = some .directory) :
    (∀ found, tree.stride follow current path = .found found → tree.node found ≠ none) ∧
      ∀ directory target rest, tree.stride follow current path = .link directory target rest →
            tree.node directory = some .directory := by
  induction path generalizing current with
  | nil =>
    refine ⟨?_, ?_⟩
    · intro found hFound
      cases hFound
      rw [hCurrent]
      exact Option.some_ne_none _
    · intro directory target rest hLink
      cases hLink
  | cons component path ih =>
    cases component with
    | parentDir => exact ih (dropLast_directory hCurrent)
    | normal name =>
      rw [stride]
      cases hNode : tree.node (current ++ [name]) with
      | none => exact ⟨fun _ hStop => (nomatch hStop), fun _ _ _ hStop => (nomatch hStop)⟩
      | some node =>
        have hSome : tree.node (current ++ [name]) ≠ none := by
          rw [hNode]
          exact Option.some_ne_none _
        cases node with
        | directory => exact ih hNode
        | file content mode =>
          simp only
          split
          · refine ⟨?_, fun _ _ _ hStop => (nomatch hStop)⟩
            intro found hFound
            cases hFound
            exact hSome
          · exact ⟨fun _ hStop => (nomatch hStop), fun _ _ _ hStop => (nomatch hStop)⟩
        | link target =>
          simp only
          split
          · refine ⟨?_, fun _ _ _ hStop => (nomatch hStop)⟩
            intro found hFound
            cases hFound
            exact hSome
          · refine ⟨fun _ hStop => (nomatch hStop), ?_⟩
            intro directory other rest hLink
            cases hLink
            exact hCurrent

/- Looking up a name in the directory where a walk ends. -/
def lookUp (tree : Tree) (directory : Location) (name : String) : Except FileError Location :=
  if tree.node directory = some .directory then
    if tree.node (directory ++ [name]) = none then .error .notFound
    else .ok (directory ++ [name])
  else .error .notADirectory

theorem stride_snoc (hCurrent : tree.node current = some .directory) (name : String) :
    tree.stride false current (path ++ [.normal name]) = match tree.stride true current path with
      | .found found =>
        match tree.lookUp found name with
        | .ok location => .found location
        | .error e => .error e
      | .link directory target rest => .link directory target (rest ++ [.normal name])
      | .error e => .error e := by
  induction path generalizing current with
  | nil =>
    simp only [List.nil_append, stride, lookUp, hCurrent]
    cases hNode : tree.node (current ++ [name]) with
    | none => simp
    | some node =>
      cases node with
      | directory => simp
      | file content mode => simp
      | link target => simp
  | cons component path ih =>
    cases component with
    | parentDir => exact ih (dropLast_directory hCurrent)
    | normal other =>
      rw [List.cons_append, stride, stride]
      cases hNode : tree.node (current ++ [other]) with
      | none => rfl
      | some node =>
        cases node with
        | directory => exact ih hNode
        | file content mode =>
          by_cases hEmpty : path = []
          · simp [hEmpty, lookUp, hNode]
          · simp [hEmpty]
        | link target => simp

variable {budget : Nat}

/- A name below a path is looked up where the path leads. -/
theorem walk_snoc {current directory : Location} (hCurrent : tree.node current = some .directory)
    (hWalk : tree.walk true budget current path = .ok directory) (name : String) :
    tree.walk false budget current (path ++ [.normal name]) = tree.lookUp directory name := by
  induction budget generalizing current path with
  | zero =>
    rw [walk] at hWalk ⊢
    rw [stride_snoc hCurrent name]
    cases hStop : tree.stride true current path with
    | found found =>
      rw [hStop] at hWalk
      cases hWalk
      cases hLook : tree.lookUp directory name with
      | ok location => simp [hLook]
      | error e => simp [hLook]
    | link | error =>
      rw [hStop] at hWalk
      cases hWalk
  | succ budget ih =>
    rw [walk] at hWalk ⊢
    rw [stride_snoc hCurrent name]
    cases hStop : tree.stride true current path with
    | found found =>
      rw [hStop] at hWalk
      cases hWalk
      cases hLook : tree.lookUp directory name with
      | ok location => simp [hLook]
      | error e => simp [hLook]
    | link other target rest =>
      rw [hStop] at hWalk
      have hOther : tree.node other = some .directory :=
        (stride_directory hCurrent).2 other target rest hStop
      simp only
      rw [← List.append_assoc]
      refine ih ?_ hWalk
      split
      · exact tree.root
      · exact hOther
    | error e =>
      rw [hStop] at hWalk
      cases hWalk

theorem resolve_snoc {directory : Location} (hPath : tree.canonicalize path = .ok directory)
    (name : String) : tree.resolve false (path ++ [.normal name]) = tree.lookUp directory name :=
  walk_snoc tree.root hPath name

theorem stride_follow {path : List Component} :
    (∀ location, tree.stride false current path = .found location →
          (∀ target, tree.node location ≠ some (.link target)) →
              tree.stride true current path = .found location) ∧
      ∀ directory target rest, tree.stride false current path =
          .link directory target rest → tree.stride true current path =
              .link directory target rest := by
  induction path generalizing current with
  | nil => exact ⟨fun _ hFound _ => hFound, fun _ _ _ hLink => hLink⟩
  | cons component path ih =>
    cases component with
    | parentDir => exact ih
    | normal name =>
      simp only [stride]
      cases hNode : tree.node (current ++ [name]) with
      | none => exact ⟨fun _ hFound _ => hFound, fun _ _ _ hLink => hLink⟩
      | some node =>
        cases node with
        | directory => exact ih
        | file content mode => exact ⟨fun _ hFound _ => hFound, fun _ _ _ hLink => hLink⟩
        | link target =>
          by_cases hEmpty : path = []
          · refine ⟨?_, ?_⟩
            · intro location hFound hNot
              simp only [hEmpty] at hFound
              cases hFound
              exact absurd hNode (hNot target)
            · intro directory other rest hLink
              simp [hEmpty] at hLink
          · simp [hEmpty]

/- Where a walk does not end at a link, both ways agree. -/
theorem walk_follow {current location : Location}
    (hWalk : tree.walk false budget current path = .ok location)
    (hNode : ∀ target, tree.node location ≠ some (.link target)) :
    tree.walk true budget current path = .ok location := by
  induction budget generalizing current path with
  | zero =>
    rw [walk] at hWalk ⊢
    cases hStop : tree.stride false current path with
    | found found =>
      rw [hStop] at hWalk
      cases hWalk
      rw [stride_follow.1 location hStop hNode]
    | link | error =>
      rw [hStop] at hWalk
      cases hWalk
  | succ budget ih =>
    rw [walk] at hWalk ⊢
    cases hStop : tree.stride false current path with
    | found found =>
      rw [hStop] at hWalk
      cases hWalk
      rw [stride_follow.1 location hStop hNode]
    | link directory target rest =>
      rw [hStop] at hWalk
      rw [stride_follow.2 directory target rest hStop]
      exact ih hWalk
    | error e =>
      rw [hStop] at hWalk
      cases hWalk

/- The node of a path that is no link is where it leads. -/
theorem canonicalize_of_metadata {node : Node} (hNode : tree.symlinkMetadata path = .ok node)
    (hLink : ∀ target, node ≠ .link target) :
    ∃ location, tree.canonicalize path = .ok location ∧ tree.node location = some node := by
  unfold symlinkMetadata at hNode
  cases hResolve : tree.resolve false path with
  | error e =>
    rw [hResolve] at hNode
    cases hNode
  | ok location =>
    rw [hResolve] at hNode
    cases hFound : tree.node location with
    | none =>
      simp only [hFound] at hNode
      cases hNode
    | some found =>
      simp only [hFound] at hNode
      cases hNode
      refine ⟨location, ?_, hFound⟩
      refine walk_follow hResolve ?_
      intro target hTarget
      rw [hFound] at hTarget
      exact hLink target (Option.some.inj hTarget)

end Tree

namespace Tree

variable {tree tree' : Tree} {location parent : Location} {name : String}

/- One node is replaced, and every other one stays. -/
def Replaced (tree : Tree) (location : Location) (node : Option Node) (tree' : Tree) : Prop :=
  ∀ other, tree'.node other = if other = location then node else tree.node other

/- Directories on the way to a location are added. -/
def Adds (tree : Tree) (location : Location) (tree' : Tree) : Prop :=
  ∀ other, tree'.node other = tree.node other ∨
    (tree.node other = none ∧ tree'.node other = some .directory ∧ other <+: location)

def NoNewLinks (tree tree' : Tree) : Prop :=
  ∀ other target, tree'.node other = some (.link target) → tree.node other = some (.link target)

theorem Replaced.self {node : Option Node}
    (hReplaced : tree.Replaced location node tree') : tree'.node location = node := by
  rw [hReplaced location, if_pos rfl]

theorem Replaced.other {node : Option Node} {other : Location}
    (hReplaced : tree.Replaced location node tree')
    (hOther : other ≠ location) : tree'.node other = tree.node other := by
  rw [hReplaced other, if_neg hOther]

theorem Adds.refl (tree : Tree) (location : Location) : tree.Adds location tree := fun _ => .inl rfl

theorem Adds.trans {tree'' : Tree} (hFirst : tree.Adds location tree')
    (hSecond : tree'.Adds location tree'') : tree.Adds location tree'' := by
  intro other
  rcases hFirst other with hSame | ⟨hNone, hMade, hAbove⟩
  · rw [← hSame]
    exact hSecond other
  · right
    rcases hSecond other with hSame | ⟨-, hDirectory, -⟩
    · exact ⟨hNone, hSame.trans hMade, hAbove⟩
    · exact ⟨hNone, hDirectory, hAbove⟩

theorem Adds.mono {below : Location} (hAdds : tree.Adds location tree')
    (hBelow : location <+: below) : tree.Adds below tree' := by
  intro other
  rcases hAdds other with hSame | ⟨hNone, hMade, hAbove⟩
  · exact .inl hSame
  · exact .inr ⟨hNone, hMade, hAbove.trans hBelow⟩

/- What is there stays. -/
theorem Adds.node {node : Node} {other : Location} (hAdds : tree.Adds location tree')
    (hNode : tree.node other = some node) : tree'.node other = some node := by
  rcases hAdds other with hSame | ⟨hNone, -, -⟩
  · rw [hSame, hNode]
  · rw [hNode] at hNone
    cases hNone

theorem Adds.noNewLinks (hAdds : tree.Adds location tree') : tree.NoNewLinks tree' := by
  intro other target hLink
  rcases hAdds other with hSame | ⟨-, hMade, -⟩
  · rw [← hSame, hLink]
  · rw [hMade] at hLink
    cases hLink

theorem Replaced.noNewLinks {node : Option Node} (hReplaced : tree.Replaced location node tree')
    (hNode : ∀ target, node ≠ some (.link target)) : tree.NoNewLinks tree' := by
  intro other target hLink
  rw [hReplaced other] at hLink
  split at hLink
  · exact absurd hLink (hNode target)
  · exact hLink

theorem NoNewLinks.trans {tree'' : Tree} (hFirst : tree.NoNewLinks tree')
    (hSecond : tree'.NoNewLinks tree'') : tree.NoNewLinks tree'' :=
  fun other target hLink => hFirst other target (hSecond other target hLink)

theorem NoNewLinks.clear (hLinks : tree.NoNewLinks tree')
    (hClear : tree.Clear location) : tree'.Clear location :=
  fun above hAbove target hLink => hClear above hAbove target (hLinks above target hLink)

section

variable (hClear : tree.Clear (parent ++ [name]))
include hClear

/- The place of a clear location is in its parent. -/
theorem entry_of_clear {entry : tree.Entry}
    (hEntry : tree.entry (fromRoot (parent ++ [name])) = .ok entry) :
    entry.location = parent ++ [name] := by
  have hComponents : fromRoot (parent ++ [name]) = fromRoot parent ++ [.normal name] := by
    simp [fromRoot]
  unfold Tree.entry at hEntry
  rw [hComponents, List.getLast?_concat, List.dropLast_concat] at hEntry
  simp only at hEntry
  split at hEntry
  · cases hEntry
  · rename_i found hFound
    have hParent := (resolve_eq_of_clear (hClear.above (List.prefix_append _ _)) hFound).1
    split at hEntry
    · cases hEntry
      exact congrArg (· ++ [name]) hParent
    · cases hEntry

theorem make_of_clear {node : Node}
    (hMade : tree.make (fromRoot (parent ++ [name])) node = .ok tree') :
    tree.node (parent ++ [name]) = none ∧ tree.Replaced (parent ++ [name]) (some node) tree' := by
  unfold make at hMade
  split at hMade
  · cases hMade
  · rename_i entry hEntry
    have hPlace := entry_of_clear hClear hEntry
    split at hMade
    · rename_i hFree
      cases hMade
      refine ⟨hPlace ▸ hFree, ?_⟩
      intro other
      rw [← hPlace]
      rfl
    · cases hMade

theorem replaceFile_of_clear {content : List UInt8} {mode : BitVec 12}
    (hMade : tree.replaceFile (fromRoot (parent ++ [name])) content mode = .ok tree') :
    tree.Replaced (parent ++ [name]) (some (.file content mode)) tree' := by
  unfold replaceFile at hMade
  split at hMade
  · cases hMade
  · rename_i entry hEntry
    have hPlace := entry_of_clear hClear hEntry
    split at hMade
    · cases hMade
    · cases hMade
      intro other
      rw [← hPlace]
      rfl

theorem removeFile_of_clear (hMade : tree.removeFile (fromRoot (parent ++ [name])) = .ok tree') :
    tree.Replaced (parent ++ [name]) none tree' := by
  unfold removeFile at hMade
  split at hMade
  · cases hMade
  · rename_i entry hEntry
    have hPlace := entry_of_clear hClear hEntry
    split at hMade
    · cases hMade
    · split at hMade
      · cases hMade
      · cases hMade
        intro other
        rw [← hPlace]
        rfl

end

theorem isDirectory_of_clear (hClear : tree.Clear location)
    (hDirectory : tree.isDirectory (fromRoot location) = true) :
    tree.node location = some .directory := by
  unfold isDirectory at hDirectory
  split at hDirectory
  · cases hDirectory
  · rename_i found hFound
    have hSame := (resolve_eq_of_clear hClear hFound).1
    rw [← hSame]
    exact of_decide_eq_true hDirectory

theorem Replaced.adds (hNone : tree.node location = none)
    (hReplaced : tree.Replaced location (some .directory) tree') : tree.Adds location tree' := by
  intro other
  by_cases hSame : other = location
  · right
    subst hSame
    exact ⟨hNone, hReplaced.self, List.prefix_rfl⟩
  · left
    exact hReplaced.other hSame

/- By induction on the names, the last one first. -/
theorem createDirAll_of_clear (hClear : tree.Clear location)
    (hMade : tree.createDirAll (fromRoot location) = (.ok (), tree')) :
    tree'.node location = some .directory ∧ tree.Adds location tree' := by
  induction location using List.reverseRecOn generalizing tree' with
  | nil =>
    cases hMade
    exact ⟨tree.root, Adds.refl tree []⟩
  | append_singleton parent name ih =>
    have hComponents : (fromRoot (parent ++ [name])).reverse =
        .normal name :: (fromRoot parent).reverse := by
      simp [fromRoot]
    have hPath : (fromRoot parent).reverse.reverse ++
        [.normal name] = fromRoot (parent ++ [name]) := by
      simp [fromRoot]
    have hAbove : parent <+: parent ++ [name] := List.prefix_append _ _
    unfold createDirAll at hMade
    rw [hComponents, createDirAllFrom, hPath] at hMade
    split at hMade
    · rename_i made hFirst
      cases hMade
      obtain ⟨hNone, hReplaced⟩ := make_of_clear hClear hFirst
      exact ⟨hReplaced.self, hReplaced.adds hNone⟩
    · split at hMade
      · cases hMade
      · rename_i above hParent
        obtain ⟨-, hAdds⟩ := ih (hClear.above hAbove) hParent
        have hStill := hAdds.noNewLinks.clear hClear
        split at hMade
        · rename_i made hSecond
          cases hMade
          obtain ⟨hNone, hReplaced⟩ := make_of_clear hStill hSecond
          exact ⟨hReplaced.self, (hAdds.mono hAbove).trans (hReplaced.adds hNone)⟩
        · split at hMade
          · rename_i hIs
            cases hMade
            exact ⟨isDirectory_of_clear hStill hIs, hAdds.mono hAbove⟩
          · cases hMade
    · split at hMade
      · rename_i hIs
        cases hMade
        exact ⟨isDirectory_of_clear hClear hIs, Adds.refl tree _⟩
      · cases hMade

end Tree

end FileTree
