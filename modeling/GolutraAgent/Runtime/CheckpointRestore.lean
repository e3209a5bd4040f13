import GolutraAgent.Runtime.CheckpointCreation

/-
  This file shows what a restore does. If no node on the way to a checkpointed
  path is a link when the restore starts, every checkpointed path gets its
  before image back, and no other path changes, except that the missing
  directories above a restored file are made.

  Main declarations:
    * `restoreEntries_restored`
    * `restoreCheckpoint_restores`
-/

namespace GolutraAgent.Runtime

open FileTree Transaction

def PreparedEntry.node (entry : PreparedEntry) : Option Node :=
  imageNode entry.content entry.unixMode

/- A location is as it was, or a directory was made there. -/
def KeptOrMade (tree : Tree) (targets : List PreparedEntry) (tree' : Tree)
    (location : Location) : Prop :=
  tree'.node location = tree.node location ∨ (tree.node location = none ∧
      tree'.node location = some .directory ∧ ∃ entry ∈ targets, entry.content ≠ none ∧
          location <+: entry.target.dropLast)

variable {tree tree' : Tree} {entry : PreparedEntry}

variable {content : List UInt8} {unixMode : Option Nat}

theorem writeWorkspaceRestoreFile_replaced {parent : Location}
    {name : String} (hClear : tree.Clear (parent ++ [name]))
    (hWrite : writeWorkspaceRestoreFile tree (parent ++ [name]) content unixMode = .ok tree') :
    tree.Replaced (parent ++ [name]) (imageNode (some content) unixMode) tree' := by
  obtain ⟨-, -, hWrite⟩ := bind_eq_ok.1 hWrite
  exact Tree.replaceFile_of_clear hClear (ofFile_eq_ok hWrite)

theorem imageNode_ne_link (content : Option (List UInt8))
    (unixMode : Option Nat) (target : Path) : imageNode content unixMode ≠ some (.link target) := by
  cases content with
  | none => exact (Option.some_ne_none _).symm
  | some content =>
    intro hSame
    cases hSame

/- The root of the tree is never a target. -/
theorem restoreEntry_target (hRestore : restoreEntry entry tree = (.ok (), tree')) :
    ∃ parent name, entry.target = parent ++ [name] := by
  obtain ⟨target, content, unixMode⟩ := entry
  rcases List.eq_nil_or_concat target with rfl | ⟨parent, name, rfl⟩
  · unfold restoreEntry at hRestore
    cases content with
    | none =>
      have hRoot : tree.symlinkMetadata (fromRoot []) = .ok .directory := by
        simp [Tree.symlinkMetadata, Tree.resolve, Tree.walk, Tree.stride, fromRoot, tree.root]
      simp only [hRoot] at hRestore
      cases hRestore
    | some content =>
      simp only at hRestore
      split at hRestore
      · cases hRestore
      · split at hRestore
        · cases hRestore
        · rename_i written hWrite
          obtain ⟨-, -, hWrite⟩ := bind_eq_ok.1 hWrite
          cases hWrite
  · exact ⟨parent, name, List.concat_eq_append⟩

variable {location : Location}

/- A path that was missing is removed. -/
theorem restoreEntry_absent (hClear : tree.Clear location)
    (hTarget : ∃ parent name, location = parent ++ [name])
    (hRestore : restoreEntry ⟨location, none, unixMode⟩ tree = (.ok (), tree')) :
    tree.Replaced location none tree' := by
  obtain ⟨parent, name, rfl⟩ := hTarget
  unfold restoreEntry at hRestore
  simp only at hRestore
  split at hRestore
  · rename_i hNot
    cases hRestore
    have hNone : tree.node (parent ++ [name]) = none := by
      rcases Tree.resolve_of_clear false hClear with ⟨hNode, hOk⟩ | ⟨hNone, -⟩
      · obtain ⟨node, hFound⟩ := Option.ne_none_iff_exists'.1 hNode
        unfold Tree.symlinkMetadata at hNot
        rw [hOk] at hNot
        simp only [hFound] at hNot
        cases hNot
      · exact hNone
    intro other
    split
    · next hSame => rw [hSame, hNone]
    · rfl
  · cases hRestore
  · split at hRestore
    · cases hRestore
    · rename_i removed hRemove
      cases hRestore
      exact Tree.removeFile_of_clear hClear hRemove

/- A file is written below directories that may be made. -/
theorem restoreEntry_present (hClear : tree.Clear location)
    (hTarget : ∃ parent name, location = parent ++ [name])
    (hRestore : restoreEntry ⟨location, some content, unixMode⟩ tree = (.ok (), tree')) :
    ∃ above, tree.Adds location.dropLast above ∧ above.Replaced location
        (imageNode (some content) unixMode) tree' := by
  obtain ⟨parent, name, rfl⟩ := hTarget
  unfold restoreEntry at hRestore
  simp only [List.dropLast_concat] at hRestore ⊢
  split at hRestore
  · cases hRestore
  · rename_i above hAbove
    obtain ⟨-, hAdds⟩ := Tree.createDirAll_of_clear (hClear.above (List.prefix_append _ _)) hAbove
    split at hRestore
    · cases hRestore
    · rename_i written hWrite
      cases hRestore
      exact ⟨above, hAdds, writeWorkspaceRestoreFile_replaced
          (hAdds.noNewLinks.clear hClear) hWrite⟩

/- A restored target has its image, and the rest is kept. -/
theorem restoreEntry_restored (hClear : tree.Clear entry.target)
    (hRestore : restoreEntry entry tree = (.ok (), tree')) :
    tree'.node entry.target = entry.node ∧ tree.NoNewLinks tree' ∧
      ∀ location, location ≠ entry.target → KeptOrMade tree [entry] tree' location := by
  have hTarget := restoreEntry_target hRestore
  obtain ⟨target, content, unixMode⟩ := entry
  cases content with
  | none =>
    have hReplaced := restoreEntry_absent hClear hTarget hRestore
    refine ⟨hReplaced.self, ?_, ?_⟩
    · exact hReplaced.noNewLinks (fun _ hSame => nomatch hSame)
    · intro location hOther
      exact .inl (hReplaced.other hOther)
  | some content =>
    obtain ⟨above, hAdds, hReplaced⟩ := restoreEntry_present hClear hTarget hRestore
    refine ⟨hReplaced.self, ?_, ?_⟩
    · exact hAdds.noNewLinks.trans (hReplaced.noNewLinks (imageNode_ne_link _ _))
    · intro location hOther
      rw [KeptOrMade, hReplaced.other hOther]
      rcases hAdds location with hSame | ⟨hNone, hMade, hPlace⟩
      · exact .inl hSame
      · exact .inr ⟨hNone, hMade, _, List.mem_singleton_self _, Option.some_ne_none _, hPlace⟩

/- Every target has its image, and the rest is kept. -/
structure Restored (tree : Tree) (entries : List PreparedEntry) (tree' : Tree) : Prop where
  images : ∀ entry ∈ entries, tree'.node entry.target = entry.node
  others : ∀ location, (∀ entry ∈ entries, location ≠ entry.target) →
      KeptOrMade tree entries tree' location
  targets : ∀ entry ∈ entries, ∃ parent name, entry.target = parent ++ [name]

/-
  The images are nodes of one tree. What lies above a file of it is a directory
  there, and so it is no target.
-/
def Consistent (before : Tree) (entries : List PreparedEntry) : Prop :=
  ∀ entry ∈ entries, before.node entry.target = entry.node

variable {before : Tree} {entries : List PreparedEntry}

theorem Consistent.not_above {other : PreparedEntry} (hConsistent : Consistent before entries)
    (hEntry : entry ∈ entries) (hOther : other ∈ entries) (hContent : other.content ≠ none)
    (hTarget : ∃ parent name, other.target = parent ++ [name]) :
    ¬ entry.target <+: other.target.dropLast := by
  rintro ⟨rest, hAbove⟩
  obtain ⟨parent, name, hParent⟩ := hTarget
  rw [hParent, List.dropLast_concat] at hAbove
  have hFile := hConsistent other hOther
  obtain ⟨content, hSome⟩ := Option.ne_none_iff_exists'.1 hContent
  have hNode : before.node (entry.target ++ (rest ++ [name])) ≠ none := by
    rw [← List.append_assoc, hAbove, ← hParent, hFile, PreparedEntry.node, hSome]
    exact Option.some_ne_none _
  have hDirectory := Tree.directory_above hNode (by simp)
  rw [hConsistent entry hEntry, PreparedEntry.node] at hDirectory
  cases hImage : entry.content with
  | none | some =>
    rw [hImage] at hDirectory
    cases hDirectory

/- Two restores in a row keep what both keep. -/
theorem KeptOrMade.cons {middle : Tree} (hFirst : KeptOrMade tree [entry] middle location)
    (hRest : KeptOrMade middle entries tree' location) :
    KeptOrMade tree (entry :: entries) tree' location := by
  rcases hRest with hSame | ⟨hNone, hMade, other, hOther, hContent, hAbove⟩
  · rcases hFirst with hKept | ⟨hNone, hMade, other, hOther, hContent, hAbove⟩
    · exact .inl (hSame.trans hKept)
    · cases List.mem_singleton.1 hOther
      exact .inr ⟨hNone, hSame.trans hMade, _, List.mem_cons_self, hContent, hAbove⟩
  · rcases hFirst with hKept | ⟨-, hDirectory, -⟩
    · exact .inr ⟨hKept.symm.trans hNone, hMade, other,
        List.mem_cons_of_mem _ hOther, hContent, hAbove⟩
    · rw [hNone] at hDirectory
      cases hDirectory

theorem Restored.cons {before middle : Tree} (hConsistent : Consistent before (entry :: entries))
    (hTarget : ∃ parent name, entry.target = parent ++ [name])
    (hImage : middle.node entry.target = entry.node)
    (hKept : ∀ location, location ≠ entry.target → KeptOrMade tree [entry] middle location)
    (hRest : Restored middle entries tree') : Restored tree (entry :: entries) tree' where
  images := by
    intro other hOther
    rcases List.mem_cons.1 hOther with rfl | hLater
    · by_cases hAgain : ∃ later ∈ entries, other.target = later.target
      · -- The same path again, with the same image.
        obtain ⟨later, hLater, hSame⟩ := hAgain
        rw [hSame, hRest.images later hLater, ← hConsistent later (List.mem_cons_of_mem _ hLater),
          ← hSame, hConsistent other hOther]
      · have hOthers := hRest.others other.target (fun later hLater hSame =>
            hAgain ⟨later, hLater, hSame⟩)
        rcases hOthers with hSame | ⟨-, -, later, hLater, hContent, hAbove⟩
        · exact hSame.trans hImage
        · exact absurd hAbove (hConsistent.not_above hOther (List.mem_cons_of_mem _ hLater) hContent
            (hRest.targets later hLater))
    · exact hRest.images other hLater
  others := by
    intro location hOther
    have hFirst := hKept location (hOther entry List.mem_cons_self)
    have hLater := hRest.others location (fun other hIn =>
      hOther other (List.mem_cons_of_mem _ hIn))
    exact hFirst.cons hLater
  targets := by
    intro other hOther
    rcases List.mem_cons.1 hOther with rfl | hLater
    · exact hTarget
    · exact hRest.targets other hLater

/- By induction on the entries. -/
theorem restoreEntries_restored (hConsistent : Consistent before entries)
    (hClear : ∀ entry ∈ entries, tree.Clear entry.target)
    (hRestore : restoreEntries entries tree = (.ok (), tree')) : Restored tree entries tree' := by
  induction entries generalizing tree with
  | nil =>
    cases hRestore
    exact ⟨by simp, fun _ _ => .inl rfl, by simp⟩
  | cons entry entries ih =>
    rw [restoreEntries] at hRestore
    split at hRestore
    · rename_i restored hFirst
      obtain ⟨hImage, hLinks, hKept⟩ := restoreEntry_restored
          (hClear entry List.mem_cons_self) hFirst
      have hRest := ih (fun other hOther => hConsistent other (List.mem_cons_of_mem _ hOther))
        (fun other hOther => hLinks.clear (hClear other (List.mem_cons_of_mem _ hOther))) hRestore
      exact Restored.cons hConsistent (restoreEntry_target hFirst) hImage hKept hRest
    · cases hRestore

variable {directory : CheckpointDirectory} {image : FileBeforeImage}
variable {library : CheckpointLibrary} {manifest : CheckpointManifestEntry}

/- An entry is prepared with its image, for its own path. -/
theorem prepareEntry_of_recorded {root relative : Location} (hLinkless : Linkless directory.files)
    (hRecorded : Recorded library root before directory.files image relative manifest)
    (hClear : tree.Clear (root ++ relative))
    (hPrepare : prepareEntry library root tree directory manifest = .ok entry) :
    entry.target = root ++ relative ∧ entry.node = image.node := by
  have hEntry := hRecorded.entry_eq
  subst hEntry
  unfold prepareEntry at hPrepare
  split at hPrepare
  · cases hPrepare
  · obtain ⟨-, -, hPrepare⟩ := bind_eq_ok.1 hPrepare
    obtain ⟨found, hFound, hPrepare⟩ := bind_eq_ok.1 hPrepare
    have hSame := relativeCheckpointPath_of_clear hClear hFound
    subst hSame
    cases hContent : image.content with
    | none =>
      simp only [manifestEntry, hContent] at hPrepare
      cases hPrepare
      refine ⟨rfl, ?_⟩
      rw [FileBeforeImage.node, hContent]
      rfl
    | some content =>
      simp only [manifestEntry, hContent] at hPrepare
      obtain ⟨bytes, hRead, hPrepare⟩ := bind_eq_ok.1 hPrepare
      have hFile := hRecorded.content content hContent
      have hBytes : bytes = content := by
        have hCall := ofFile_eq_ok hRead
        rcases Tree.resolve_of_clear true (hLinkless.clear found) with ⟨-, hOk⟩ | ⟨hNone, -⟩
        · unfold Tree.readFile Tree.canonicalize at hCall
          rw [hOk] at hCall
          simp only [hFile] at hCall
          exact (Except.ok.inj hCall).symm
        · rw [hFile] at hNone
          cases hNone
      split at hPrepare
      · cases hPrepare
        refine ⟨rfl, ?_⟩
        rw [FileBeforeImage.node, hContent, PreparedEntry.node, hBytes]
      · cases hPrepare

/- The declared paths, read before anything is changed. -/
def captureImages (root : Location) (tree : Tree) (declared : List Path) :
    Except String (List FileBeforeImage) :=
  declared.mapM (readOptionalFile root tree)

def entryNames (path : List Component) : Location := path.filterMap (fun component =>
    match component with
    | .normal name => some name
    | .parentDir => none)

@[simp] theorem entryNames_fromRoot (location : Location) :
    entryNames (fromRoot location) = location := by
  simp [entryNames, fromRoot]

/- The locations that a checkpoint restores. -/
def CheckpointStore.locations (store : CheckpointStore) (root : Location)
    (checkpointId : CheckpointId) : List Location :=
  match store.directories checkpointId with
  | none => []
  | some directory => directory.manifest.map (fun entry => root ++ entryNames entry.path)

/- What a checkpoint of declared paths holds. -/
structure Checkpointed (library : CheckpointLibrary) (root : Location) (before : Tree)
    (declared : List Path) (directory : CheckpointDirectory) : Prop where
  linkless : Linkless directory.files
  recorded : ∀ entry ∈ directory.manifest, ∃ image relative, Recorded library root before
        directory.files image relative entry ∧
      before.node (root ++ relative) = image.node
  declared : ∀ path ∈ declared, ∃ entry ∈ directory.manifest, canonicalizeWithMissingSuffix before
        (absolutePath root path) = .ok (root ++ entryNames entry.path)

variable {root : Location}

theorem readOptionalFile_path {path : Path}
    (hImage : readOptionalFile root tree path = .ok image) : image.path = path := by
  unfold readOptionalFile at hImage
  simp only at hImage
  split at hImage
  · cases hImage
    rfl
  · cases hImage
  · split at hImage
    · cases hImage
    · cases hImage
      rfl
  · cases hImage
  · split at hImage
    · cases hImage
    · cases hImage
      rfl

variable {declared : List Path}

/- What the images of the declared paths become. -/
theorem checkpointed_of_create {root checkpointRoot : Location} {images : List FileBeforeImage}
    {store store' : CheckpointStore} {request : CheckpointRequest}
    {checkpoint : WorkspaceCheckpoint} (hRoot : before.node root = some .directory)
    (hLinks : ∀ path ∈ declared, NotLink root before path)
    (hImages : captureImages root before declared = .ok images)
    (hCreate : createCheckpoint library root checkpointRoot
      before store request images = .ok (checkpoint, store')) :
    ∃ directory, checkpoint.checkpointId = request.checkpointId ∧
      store'.directories request.checkpointId = some directory ∧
      Checkpointed library root before declared directory := by
  obtain ⟨⟨objects, files, manifest⟩, hRecord, hReturn⟩ := bind_eq_ok.1 hCreate
  cases hReturn
  refine ⟨⟨files, manifest⟩, rfl, if_pos rfl, ?_⟩
  obtain ⟨hGrown, hRecorded⟩ := recorded_of_recordImages linkless_empty hRecord
  have hCaptured := forall₂_of_mapM hImages
  refine ⟨linkless_empty.grown hGrown, ?_, ?_⟩
  · intro entry hEntry
    obtain ⟨image, hImage, relative, hEntryOf⟩ := exists_item hRecorded hEntry
    obtain ⟨path, hPath, hRead⟩ := exists_item hCaptured hImage
    have hRelative := hEntryOf.path
    rw [readOptionalFile_path hRead] at hRelative
    exact ⟨image, relative, hEntryOf, readOptionalFile_node
      hRoot (hLinks path hPath) hRead hRelative⟩
  · intro path hPath
    obtain ⟨image, hImage, hRead⟩ := exists_result hCaptured hPath
    obtain ⟨entry, hEntry, relative, hEntryOf⟩ := exists_result hRecorded hImage
    have hRelative := hEntryOf.path
    rw [readOptionalFile_path hRead] at hRelative
    obtain ⟨workspace, hWorkspace, hCanonical⟩ := relativeCheckpointPath_location hRelative
    have hSame := (Tree.resolve_eq_of_clear (clear_of_directory hRoot) hWorkspace).1
    refine ⟨entry, hEntry, ?_⟩
    rw [hSame] at hCanonical
    rw [hEntryOf.entry_eq, manifestEntry, entryNames_fromRoot]
    exact hCanonical

/- A prepared entry is for its own path and its image. -/
theorem Checkpointed.prepared {before after : Tree}
    (hCheckpointed : Checkpointed library root before declared directory)
    (hManifest : manifest ∈ directory.manifest)
    (hClear : after.Clear (root ++ entryNames manifest.path))
    (hPrepare : prepareEntry library root after directory manifest = .ok entry) :
    entry.target = root ++ entryNames manifest.path ∧ before.node entry.target = entry.node := by
  obtain ⟨image, relative, hRecorded, hImage⟩ := hCheckpointed.recorded manifest hManifest
  have hNames : entryNames manifest.path = relative := by
    rw [hRecorded.entry_eq, manifestEntry, entryNames_fromRoot]
  rw [hNames] at hClear ⊢
  obtain ⟨hTarget, hNode⟩ := prepareEntry_of_recorded
    hCheckpointed.linkless hRecorded hClear hPrepare
  refine ⟨hTarget, ?_⟩
  rw [hTarget, hNode]
  exact hImage

/- The image of a prepared content is a file. -/
theorem PreparedEntry.node_of_content (hContent : entry.content ≠ none) :
    ∃ content mode, entry.node = some (.file content mode) := by
  obtain ⟨content, hSome⟩ := Option.ne_none_iff_exists'.1 hContent
  rw [PreparedEntry.node, hSome]
  exact ⟨content, _, rfl⟩

/- The entries that a restore prepares, and what it does. -/
theorem Checkpointed.restored {before after after' : Tree} {prepared : List PreparedEntry}
    (hCheckpointed : Checkpointed library root before declared directory)
    (hClear : ∀ manifest ∈ directory.manifest, after.Clear (root ++ entryNames manifest.path))
    (hPrepared : directory.manifest.mapM (prepareEntry library root after directory) = .ok prepared)
    (hRestore : restoreEntries prepared after = (.ok (), after')) :
    (∀ manifest ∈ directory.manifest, ∃ entry ∈ prepared,
        entry.target = root ++ entryNames manifest.path) ∧
      (∀ entry ∈ prepared, ∃ manifest ∈ directory.manifest,
        entry.target = root ++ entryNames manifest.path) ∧
      Consistent before prepared ∧ Restored after prepared after' := by
  have hEach := forall₂_of_mapM hPrepared
  have hOf : ∀ manifest ∈ directory.manifest, ∀ entry,
      prepareEntry library root after directory manifest = .ok entry →
        entry.target = root ++ entryNames manifest.path ∧ before.node entry.target = entry.node :=
    fun manifest hManifest entry hEntry =>
      hCheckpointed.prepared hManifest (hClear manifest hManifest) hEntry
  have hConsistent : Consistent before prepared := by
    intro entry hEntry
    obtain ⟨manifest, hManifest, hPrepare⟩ := exists_item hEach hEntry
    exact (hOf manifest hManifest entry hPrepare).2
  have hTargets : ∀ entry ∈ prepared, ∃ manifest ∈ directory.manifest,
        entry.target = root ++ entryNames manifest.path := by
    intro entry hEntry
    obtain ⟨manifest, hManifest, hPrepare⟩ := exists_item hEach hEntry
    exact ⟨manifest, hManifest, (hOf manifest hManifest entry hPrepare).1⟩
  refine ⟨?_, hTargets, hConsistent, ?_⟩
  · intro manifest hManifest
    obtain ⟨entry, hEntry, hPrepare⟩ := exists_result hEach hManifest
    exact ⟨entry, hEntry, (hOf manifest hManifest entry hPrepare).1⟩
  · refine restoreEntries_restored hConsistent ?_ hRestore
    intro entry hEntry
    obtain ⟨manifest, hManifest, hTarget⟩ := hTargets entry hEntry
    rw [hTarget]
    exact hClear manifest hManifest

/-
  A restore brings every checkpointed path back to its before image. Every other
  path stays as it was, except that missing directories above a restored file
  are made.
-/
theorem restoreCheckpoint_restores {library : CheckpointLibrary} {root checkpointRoot : Location}
    {before after after' : Tree} {declared : List Path} {images : List FileBeforeImage}
    {store store' : CheckpointStore} {request : CheckpointRequest}
    {checkpoint : WorkspaceCheckpoint} (hRoot : before.node root = some .directory)
    (hLinks : ∀ path ∈ declared, NotLink root before path)
    (hImages : captureImages root before declared = .ok images)
    (hCreate : createCheckpoint library root checkpointRoot
      before store request images = .ok (checkpoint, store'))
    (hClear : ∀ location ∈ store'.locations root checkpoint.checkpointId, after.Clear location)
    (hRestore : restoreCheckpoint library root store'
      checkpoint.checkpointId after = (.ok (), after')) :
    (∀ path ∈ declared, ∃ location ∈ store'.locations root
      checkpoint.checkpointId, canonicalizeWithMissingSuffix before
          (absolutePath root path) = .ok location) ∧
    (∀ location ∈ store'.locations root
      checkpoint.checkpointId, after'.node location = before.node location) ∧
    ∀ location, location ∉ store'.locations root
      checkpoint.checkpointId → after'.node location = after.node location ∨
          (after.node location = none ∧ after'.node location = some .directory ∧
            ∃ below ∈ store'.locations root
              checkpoint.checkpointId, (∃ content mode, before.node below =
                  some (.file content mode)) ∧
                location <+: below) := by
  obtain ⟨directory, hId, hDirectory, hCheckpointed⟩ :=
    checkpointed_of_create hRoot hLinks hImages hCreate
  rw [hId] at hClear hRestore ⊢
  unfold CheckpointStore.locations at hClear ⊢
  unfold restoreCheckpoint at hRestore
  rw [hDirectory] at hClear hRestore ⊢
  simp only at hRestore
  split at hRestore
  · cases hRestore
  · rename_i prepared hPrepared
    obtain ⟨hEntries, hTargets, hConsistent, hRestored⟩ :=
      hCheckpointed.restored (fun manifest hManifest =>
        hClear _ (List.mem_map_of_mem hManifest))
        hPrepared hRestore
    refine ⟨?_, ?_, ?_⟩
    · intro path hPath
      obtain ⟨manifest, hManifest, hCanonical⟩ := hCheckpointed.declared path hPath
      exact ⟨_, List.mem_map_of_mem hManifest, hCanonical⟩
    · intro location hLocation
      obtain ⟨manifest, hManifest, rfl⟩ := List.mem_map.1 hLocation
      obtain ⟨entry, hEntry, hTarget⟩ := hEntries manifest hManifest
      rw [← hTarget, hConsistent entry hEntry]
      exact hRestored.images entry hEntry
    · intro location hOther
      have hKept := hRestored.others location (by
        intro entry hEntry hSame
        obtain ⟨manifest, hManifest, hTarget⟩ := hTargets entry hEntry
        rw [hSame, hTarget] at hOther
        exact hOther (List.mem_map_of_mem hManifest))
      rcases hKept with hSame | ⟨hNone, hMade, entry, hEntry, hContent, hAbove⟩
      · exact .inl hSame
      · obtain ⟨manifest, hManifest, hTarget⟩ := hTargets entry hEntry
        obtain ⟨content, mode, hFile⟩ := entry.node_of_content hContent
        refine .inr ⟨hNone, hMade, entry.target, ?_, ⟨content, mode, ?_⟩, ?_⟩
        · rw [hTarget]
          exact List.mem_map_of_mem hManifest
        · rw [hConsistent entry hEntry, hFile]
        · exact hAbove.trans (List.dropLast_prefix _)

/- A tree with some nodes, the upper ones first. -/
def plant (nodes : List (Location × Node)) : Tree := nodes.foldl (fun tree node =>
    match tree.make (fromRoot node.1) node.2 with
    | .ok planted => planted
    | .error _ => tree) Tree.empty

def plainLibrary : CheckpointLibrary where
  checksumBytes := fun content =>
    "sha256:" ++ String.ofList (content.map (fun byte => Char.ofNat byte.toNat))
  isGitignored := fun _ _ _ => .ok false

def emptyStore : CheckpointStore := ⟨fun _ => none, fun _ => none⟩

def sampleRequest : CheckpointRequest :=
  ⟨⟨.ofNat 1⟩, ⟨.ofNat 2⟩, ⟨.ofNat 3⟩, ⟨.ofNat 4⟩, ⟨.ofNat 5⟩⟩

/- The workspace `/w` with a file `d/x`. -/
def workspaceBefore : Tree := plant [(["w"], .directory), (["w", "d"], .directory),
    (["w", "d", "x"], .file [97] 0o644)]

/- A tool has removed the directory with its file. -/
def workspaceAfter : Tree := plant [(["w"], .directory)]

def declaredFile : Path := ⟨false, [.normal "d", .normal "x"]⟩

def declaredImages : List FileBeforeImage := [⟨declaredFile, some [97], some 0o644⟩]

theorem captured : captureImages ["w"] workspaceBefore [declaredFile] = .ok declaredImages := by
  rfl

def createdCheckpoint : Except CheckpointError (WorkspaceCheckpoint × CheckpointStore) :=
  createCheckpoint plainLibrary ["w"] ["c"] workspaceBefore emptyStore sampleRequest declaredImages

/- The checkpoint is restored in another workspace state. -/
def restoredWorkspace (after : Tree) : Except CheckpointError Unit × Tree :=
  match createdCheckpoint with
  | .error e => (.error e, after)
  | .ok (checkpoint, store) =>
    restoreCheckpoint plainLibrary ["w"] store checkpoint.checkpointId after

theorem created_locations : createdCheckpoint.map (fun created =>
      created.2.locations ["w"] created.1.checkpointId) = .ok [["w", "d", "x"]] := by
  decide +kernel

theorem restored_ok : (restoredWorkspace workspaceAfter).1 = .ok () ∧
      (restoredWorkspace workspaceAfter).2.node ["w", "d"] = some .directory := by
  decide +kernel

/- A checkpoint was made, and this is its only location. -/
theorem created_ok : ∃ checkpoint store, createdCheckpoint = .ok (checkpoint, store) ∧
      store.locations ["w"] checkpoint.checkpointId = [["w", "d", "x"]] := by
  have hLocations := created_locations
  cases hCreated : createdCheckpoint with
  | error e =>
    rw [hCreated] at hLocations
    cases hLocations
  | ok created =>
    rw [hCreated] at hLocations
    exact ⟨created.1, created.2, rfl, Except.ok.inj hLocations⟩

theorem workspaceAfter_linkless : Linkless workspaceAfter := by
  intro location target hLink
  have hNode : workspaceAfter.node location = if location = ["w"] then some .directory
      else if location = [] then some .directory
      else none := rfl
  rw [hNode] at hLink
  split at hLink
  · cases hLink
  · split at hLink
    · cases hLink
    · cases hLink

/- The file comes back, and its directory with it. -/
theorem restoredWorkspace_restores :
    ∃ checkpoint store after', createdCheckpoint = .ok (checkpoint, store) ∧
      restoreCheckpoint plainLibrary ["w"] store
        checkpoint.checkpointId workspaceAfter = (.ok (), after') ∧
      after'.node ["w", "d", "x"] = some (.file [97] 0o644) := by
  obtain ⟨checkpoint, store, hCreated, hLocations⟩ := created_ok
  have hRestored := restored_ok.1
  unfold restoredWorkspace at hRestored
  rw [hCreated] at hRestored
  refine ⟨checkpoint, store, _, hCreated, Prod.ext hRestored rfl, ?_⟩
  have hRestores := restoreCheckpoint_restores (by decide +kernel) (by
      intro path hPath target hLink
      cases List.mem_singleton.1 hPath
      cases hLink) captured hCreated
    (fun location _ => workspaceAfter_linkless.clear location)
    (Prod.ext hRestored rfl)
  have hImage := hRestores.2.1 ["w", "d", "x"] (by
    rw [hLocations]
    exact List.mem_singleton_self _)
  rw [hImage]
  decide +kernel

/- The directory was not checkpointed, and it is back. -/
theorem restoredWorkspace_makesDirectory :
    ∃ checkpoint store after', captureImages ["w"] workspaceBefore [declaredFile] =
        .ok declaredImages ∧
      createdCheckpoint = .ok (checkpoint, store) ∧ restoreCheckpoint plainLibrary ["w"] store
        checkpoint.checkpointId workspaceAfter = (.ok (), after') ∧
      ["w", "d"] ∉ store.locations ["w"] checkpoint.checkpointId ∧
      after'.node ["w", "d"] ≠ workspaceAfter.node ["w", "d"] := by
  obtain ⟨checkpoint, store, hCreated, hLocations⟩ := created_ok
  obtain ⟨hRestored, hMade⟩ := restored_ok
  unfold restoredWorkspace at hRestored hMade
  rw [hCreated] at hRestored hMade
  refine ⟨checkpoint, store, _, captured, hCreated, Prod.ext hRestored rfl, ?_, ?_⟩
  · rw [hLocations]
    decide
  · have hNone : workspaceAfter.node ["w", "d"] = none := by decide +kernel
    intro hSame
    rw [hSame] at hMade
    cases hMade

/- A tool has made the missing path `n` a link to `keep`. -/
def linkedRestore : Except CheckpointError Unit × Tree :=
  let before := plant [(["w"], .directory), (["w", "keep"], .file [98] 0o644)]
  let after := plant [(["w"], .directory), (["w", "keep"], .file [98] 0o644),
    (["w", "n"], .link ⟨false, [.normal "keep"]⟩)]
  match createCheckpoint plainLibrary ["w"] ["c"] before emptyStore sampleRequest
      [⟨⟨false, [.normal "n"]⟩, none, none⟩] with
  | .error e => (.error e, after)
  | .ok (checkpoint, store) =>
    restoreCheckpoint plainLibrary ["w"] store checkpoint.checkpointId after

/- Off a clear way the restore removes the link's target. -/
example : linkedRestore.1 = .ok () ∧ linkedRestore.2.node ["w", "keep"] = none ∧
      linkedRestore.2.node ["w", "n"] = some (.link ⟨false, [.normal "keep"]⟩) := by
  decide +kernel

end GolutraAgent.Runtime
