import GolutraAgent.Library.Transaction
import GolutraAgent.Runtime.Checkpoint

/-
  This file says what a checkpoint holds. The path of an entry is where the
  declared path leads; its image is the node that is there, or that nothing is
  there; and the tree of the checkpoint has the content of every image.
-/

namespace GolutraAgent.Runtime

open FileTree Transaction

/- The node that a content and a mode describe. -/
def imageNode (content : Option (List UInt8)) (unixMode : Option Nat) : Option Node :=
  content.map (fun content => .file content ((unixMode.map (BitVec.ofNat 12)).getD ownerOnlyFile))

def FileBeforeImage.node (image : FileBeforeImage) : Option Node :=
  imageNode image.content image.unixMode

theorem ofFile_eq_ok {α : Type} {call : Except FileError α} {a : α}
    (hCall : CheckpointError.ofFile call = .ok a) : call = .ok a := by
  cases call with
  | error e => cases hCall
  | ok b =>
    cases hCall
    rfl

variable {tree : Tree} {root location : Location} {library : CheckpointLibrary}

/- The way to a directory has no links. -/
theorem clear_of_directory
    (hDirectory : tree.node location = some .directory) : tree.Clear location := by
  rintro above ⟨rest, rfl⟩ target hLink
  by_cases hRest : rest = []
  · rw [hRest, List.append_nil, hLink] at hDirectory
    cases hDirectory
  · have hNode : tree.node (above ++ rest) ≠ none := by
      rw [hDirectory]
      exact Option.some_ne_none _
    have hAbove := Tree.directory_above hNode hRest
    rw [hLink] at hAbove
    cases hAbove

variable {relative : Location}

/- The relative path is what follows the workspace. -/
theorem relativeCheckpointPath_location {path : Path}
    (hRelative : relativeCheckpointPath library root tree path = .ok relative) :
    ∃ workspace, tree.canonicalize (fromRoot root) = .ok workspace ∧
      canonicalizeWithMissingSuffix tree
        (absolutePath root path) = .ok (workspace ++ relative) := by
  obtain ⟨workspace, hWorkspace, hRelative⟩ := bind_eq_ok.1 hRelative
  obtain ⟨canonical, hCanonical, hRelative⟩ := bind_eq_ok.1 hRelative
  refine ⟨workspace, ofFile_eq_ok hWorkspace, ?_⟩
  split at hRelative
  · rename_i hInside
    obtain ⟨rest, rfl⟩ := List.isPrefixOf_iff_prefix.1 hInside
    rw [List.drop_left] at hRelative
    simp only at hRelative
    split at hRelative
    · cases hRelative
    · obtain ⟨ignored, -, hRelative⟩ := bind_eq_ok.1 hRelative
      split at hRelative
      · cases hRelative
      · cases hRelative
        exact hCanonical
  · cases hRelative

variable {found : Location} {missing : List String} {path : List Component}

/- Along a clear location nothing leads elsewhere. -/
theorem canonicalizeFrom_of_clear (hClear : tree.Clear location)
    (hFound : canonicalizeFrom tree path (fromRoot location).reverse missing = .ok found) :
    found = location ++ missing := by
  induction location using List.reverseRecOn generalizing missing with
  | nil =>
    unfold canonicalizeFrom at hFound
    split at hFound
    · split at hFound
      · rename_i canonical hCanonical
        cases hFound
        have hSame := (Tree.resolve_eq_of_clear hClear hCanonical).1
        rw [hSame]
      · cases hFound
    · cases hFound
    · cases hFound
  | append_singleton parent name ih =>
    have hReverse : (fromRoot (parent ++ [name])).reverse =
        .normal name :: (fromRoot parent).reverse := by
      simp [fromRoot]
    unfold canonicalizeFrom at hFound
    rw [List.reverse_reverse] at hFound
    split at hFound
    · split at hFound
      · rename_i canonical hCanonical
        cases hFound
        have hSame := (Tree.resolve_eq_of_clear hClear hCanonical).1
        rw [hSame]
      · cases hFound
    · rw [hReverse] at hFound
      have hTail := ih (hClear.above (List.prefix_append _ _)) hFound
      rw [hTail, List.append_assoc]
      rfl
    · cases hFound

/- A declared path leads to itself, if it is clear. -/
theorem relativeCheckpointPath_of_clear {relative found : Location}
    (hClear : tree.Clear (root ++ relative))
    (hFound : relativeCheckpointPath library root tree ⟨false, fromRoot relative⟩ = .ok found) :
    found = relative := by
  obtain ⟨workspace, hWorkspace, hCanonical⟩ := relativeCheckpointPath_location hFound
  have hRoot := (Tree.resolve_eq_of_clear (hClear.above (List.prefix_append _ _)) hWorkspace).1
  have hPath : absolutePath root ⟨false, fromRoot relative⟩ = fromRoot (root ++ relative) := by
    simp [absolutePath, fromRoot]
  rw [hPath] at hCanonical
  have hSame := canonicalizeFrom_of_clear hClear hCanonical
  rw [hRoot, List.append_nil] at hSame
  exact List.append_cancel_left hSame

/- Below a place without a node there is none. -/
theorem node_below_none {rest : Location}
    (hNone : tree.node location = none) : tree.node (location ++ rest) = none := by
  by_contra hSome
  by_cases hRest : rest = []
  · rw [hRest, List.append_nil] at hSome
    exact hSome hNone
  · have hAbove := Tree.directory_above hSome hRest
    rw [hNone] at hAbove
    cases hAbove

/- A name that is not found is not in its directory. -/
theorem node_of_notFound {directory : Location} {name : String}
    (hPath : tree.canonicalize path = .ok directory)
    (hNot : tree.symlinkMetadata (path ++ [.normal name]) = .error .notFound)
    (rest : Location) : tree.node (directory ++ name :: rest) = none := by
  unfold Tree.symlinkMetadata at hNot
  rw [Tree.resolve_snoc hPath name, Tree.lookUp] at hNot
  have hSplit : directory ++ name :: rest = (directory ++ [name]) ++ rest := by
    rw [List.append_assoc]
    rfl
  rw [hSplit]
  apply node_below_none
  by_contra hSome
  by_cases hDirectory : tree.node directory = some .directory
  · obtain ⟨node, hNode⟩ := Option.ne_none_iff_exists'.1 hSome
    simp [hDirectory, hNode] at hNot
  · simp [hDirectory] at hNot

/-
  A missing path leads to a place without a node. By induction on the part that
  may exist.
-/
theorem canonicalizeFrom_missing {path existing : List Component} (hMissing :
      (missing = [] ∧ tree.symlinkMetadata existing.reverse = .error .notFound) ∨
      ∃ name rest, missing = name :: rest ∧ tree.symlinkMetadata
          (existing.reverse ++ [.normal name]) = .error .notFound)
    (hFound : canonicalizeFrom tree path existing missing = .ok found) :
    tree.node found = none := by
  induction existing generalizing missing with
  | nil =>
    unfold canonicalizeFrom at hFound
    split at hFound
    · rename_i node hExists
      split at hFound
      · rename_i canonical hCanonical
        cases hFound
        rcases hMissing with ⟨-, hNot⟩ | ⟨name, rest, rfl, hNot⟩
        · rw [hNot] at hExists
          cases hExists
        · exact node_of_notFound hCanonical hNot rest
      · cases hFound
    · cases hFound
    · cases hFound
  | cons component parent ih =>
    unfold canonicalizeFrom at hFound
    split at hFound
    · rename_i node hExists
      split at hFound
      · rename_i canonical hCanonical
        cases hFound
        rcases hMissing with ⟨-, hNot⟩ | ⟨name, rest, rfl, hNot⟩
        · rw [hNot] at hExists
          cases hExists
        · exact node_of_notFound hCanonical hNot rest
      · cases hFound
    · rename_i hNot
      cases component with
      | parentDir => cases hFound
      | normal name =>
        refine ih (.inr ⟨name, missing, rfl, ?_⟩) hFound
        rw [List.reverse_cons] at hNot
        exact hNot
    · cases hFound

/- The declared path is not itself a link. -/
def NotLink (root : Location) (tree : Tree) (path : Path) : Prop :=
  ∀ target, tree.symlinkMetadata (absolutePath root path) ≠ .ok (.link target)

/- The image is the node at the checkpointed path. -/
theorem readOptionalFile_node {path : Path} {image : FileBeforeImage}
    (hRoot : tree.node root = some .directory) (hLink : NotLink root tree path)
    (hImage : readOptionalFile root tree path = .ok image)
    (hRelative : relativeCheckpointPath library root tree path = .ok relative) :
    tree.node (root ++ relative) = image.node := by
  obtain ⟨workspace, hWorkspace, hCanonical⟩ := relativeCheckpointPath_location hRelative
  have hSame := (Tree.resolve_eq_of_clear (clear_of_directory hRoot) hWorkspace).1
  subst hSame
  unfold readOptionalFile at hImage
  split at hImage
  · cases hImage
    refine canonicalizeFrom_missing (.inl ⟨rfl, ?_⟩) hCanonical
    rwa [List.reverse_reverse]
  · cases hImage
  · next target hTarget => exact absurd hTarget (hLink target)
  · cases hImage
  · rename_i content mode hFile
    split at hImage
    · cases hImage
    · cases hImage
      obtain ⟨location, hLocation, hNode⟩ :=
        Tree.canonicalize_of_metadata hFile (fun _ => Node.noConfusion)
      unfold canonicalizeWithMissingSuffix canonicalizeFrom at hCanonical
      rw [List.reverse_reverse, hFile, hLocation] at hCanonical
      have hPlace := Except.ok.inj hCanonical
      rw [List.append_nil] at hPlace
      rw [← hPlace, hNode]
      simp [FileBeforeImage.node, imageNode]

/- What a checkpoint keeps of an image. -/
structure Recorded (library : CheckpointLibrary) (root : Location) (tree files : Tree)
    (image : FileBeforeImage) (relative : Location) (entry : CheckpointManifestEntry) : Prop where
  path : relativeCheckpointPath library root tree image.path = .ok relative
  entry_eq : entry = manifestEntry library relative image
  content : ∀ content, image.content = some content →
    files.node relative = some (.file content ownerOnlyFile)

/- The trees of checkpoints have no links, and only grow. -/
structure Grown (files files' : Tree) : Prop where
  kept : ∀ location node, files.node location = some node → files'.node location = some node
  links : files.NoNewLinks files'

theorem Grown.refl (files : Tree) : Grown files files :=
  ⟨fun _ _ hNode => hNode, fun _ _ hLink => hLink⟩

theorem Grown.trans {first second third : Tree}
    (hFirst : Grown first second) (hSecond : Grown second third) : Grown first third :=
  ⟨fun location node hNode => hSecond.kept location node (hFirst.kept location node hNode),
    hFirst.links.trans hSecond.links⟩

def Linkless (tree : Tree) : Prop := ∀ location target, tree.node location ≠ some (.link target)

theorem Linkless.clear (hLinkless : Linkless tree) (location : Location) : tree.Clear location :=
  fun above _ => hLinkless above

variable {files files' : Tree}

theorem Linkless.grown (hLinkless : Linkless files)
    (hGrown : Grown files files') : Linkless files' :=
  fun location target hLink => hLinkless location target (hGrown.links location target hLink)

theorem linkless_empty : Linkless Tree.empty := by
  intro location target hLink
  unfold Tree.empty at hLink
  simp only at hLink
  split at hLink
  · cases hLink
  · cases hLink

/- A stored object is found under the path of its file. -/
theorem linkCheckpointObject_grown {content : List UInt8} (hLinkless : Linkless files)
    (hLink : linkCheckpointObject files relative content = .ok files') :
    Grown files files' ∧ files'.node relative = some (.file content ownerOnlyFile) := by
  unfold linkCheckpointObject at hLink
  split at hLink
  · cases hLink
  · rename_i above hAbove
    obtain ⟨-, hAdds⟩ := Tree.createDirAll_of_clear (hLinkless.clear _) hAbove
    split at hLink
    · rename_i linked hCreate
      cases hLink
      have hLinks := hAdds.noNewLinks
      rcases List.eq_nil_or_concat relative with rfl | ⟨parent, name, rfl⟩
      · cases hCreate
      · rw [List.concat_eq_append] at hCreate ⊢
        obtain ⟨hFree, hReplaced⟩ := Tree.make_of_clear (hLinks.clear (hLinkless.clear _)) hCreate
        refine ⟨⟨?_, ?_⟩, hReplaced.self⟩
        · intro location node hNode
          have hStill := hAdds.node hNode
          rw [hReplaced.other, hStill]
          rintro rfl
          rw [hFree] at hStill
          cases hStill
        · exact hLinks.trans (hReplaced.noNewLinks (fun _ hSame => nomatch hSame))
    · cases hLink

variable {objects objects' : String → Option (List UInt8)}

theorem storeImage_grown {content : Option (List UInt8)} (hLinkless : Linkless files)
    (hStore : storeImage library relative objects files content = .ok (objects', files')) :
    Grown files files' ∧ ∀ bytes, content = some bytes →
      files'.node relative = some (.file bytes ownerOnlyFile) := by
  cases content with
  | none =>
    cases hStore
    exact ⟨Grown.refl files, fun _ hSome => nomatch hSome⟩
  | some content =>
    obtain ⟨stored, -, hStore⟩ := bind_eq_ok.1 hStore
    obtain ⟨linked, hLink, hStore⟩ := bind_eq_ok.1 hStore
    cases hStore
    obtain ⟨hGrown, hNode⟩ := linkCheckpointObject_grown hLinkless hLink
    refine ⟨hGrown, ?_⟩
    intro bytes hBytes
    cases hBytes
    exact hNode

/- By induction on the images. -/
theorem recorded_of_recordImages {images : List FileBeforeImage}
    {manifest : List CheckpointManifestEntry} (hLinkless : Linkless files)
    (hRecord : recordImages library root tree images objects
      files = .ok (objects', files', manifest)) :
    Grown files files' ∧ List.Forall₂ (fun image entry => ∃ relative,
        Recorded library root tree files' image relative entry) images manifest := by
  induction images generalizing objects files manifest with
  | nil =>
    cases hRecord
    exact ⟨Grown.refl _, .nil⟩
  | cons image images ih =>
    obtain ⟨relative, hRelative, hRecord⟩ := bind_eq_ok.1 hRecord
    obtain ⟨⟨stored, middle⟩, hStore, hRecord⟩ := bind_eq_ok.1 hRecord
    obtain ⟨⟨rest, last, entries⟩, hRest, hRecord⟩ := bind_eq_ok.1 hRecord
    cases hRecord
    obtain ⟨hFirst, hContent⟩ := storeImage_grown hLinkless hStore
    obtain ⟨hLater, hEntries⟩ := ih (hLinkless.grown hFirst) hRest
    refine ⟨hFirst.trans hLater, .cons ?_ hEntries⟩
    refine ⟨relative, hRelative, rfl, ?_⟩
    intro content hSome
    exact hLater.kept _ _ (hContent content hSome)

end GolutraAgent.Runtime
