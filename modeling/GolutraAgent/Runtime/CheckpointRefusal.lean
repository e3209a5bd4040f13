import GolutraAgent.Runtime.CheckpointCreation

/-
  This file shows that a refused restore changes nothing. All entries of a
  manifest are prepared before the first one is written, so an entry that cannot
  be prepared, wherever it stands, ends the restore with the workspace as it
  was. The writes themselves fail with errors of the file system only.

  Main declarations:
    * `restoreEntries_error`
    * `restoreManifest_refused`
-/

namespace GolutraAgent.Runtime

open FileTree Transaction

/- What comes before the names and parents of a path. -/
inductive PathStart
| relative
| curDir
| rootDir
deriving DecidableEq

def PathStart.text : PathStart → String
| .relative => ""
| .curDir => "./"
| .rootDir => "/"

structure DeclaredEntry extends CheckpointManifestEntry where
  start : PathStart

/- What the directory of a checkpoint holds, unchecked. -/
structure DeclaredManifest where
  files : Tree
  entries : List DeclaredEntry

variable (library : CheckpointLibrary) (root : Location)

/- The entries of a manifest do not matter to one of them. -/
def prepareDeclared (tree files : Tree) (entry : DeclaredEntry) :
    Except CheckpointError PreparedEntry :=
  if entry.start = .relative then
    prepareEntry library root tree ⟨files, []⟩ entry.toCheckpointManifestEntry
  else
    .error (.invalidManifest ("checkpoint path must be workspace-relative without " ++
        "traversal: " ++ entry.start.text ++ String.intercalate "/" (entry.path.map componentText)))

/- The manifest may be missing, or its text may be none. -/
def restoreManifest (read : Except CheckpointError DeclaredManifest)
    (tree : Tree) : Except CheckpointError Unit × Tree :=
  match read with
  | .error e => (.error e, tree)
  | .ok manifest =>
    match manifest.entries.mapM (prepareDeclared library root tree manifest.files) with
    | .error e => (.error e, tree)
    | .ok prepared => restoreEntries prepared tree

/- The manifest that a stored checkpoint was written with. -/
def CheckpointDirectory.declared (directory : CheckpointDirectory) : DeclaredManifest where
  files := directory.files
  entries := directory.manifest.map (⟨·, .relative⟩)

variable {library : CheckpointLibrary} {root : Location}
variable {tree tree' files : Tree} {error : CheckpointError}

theorem restoreCheckpoint_eq (store : CheckpointStore) (checkpointId : CheckpointId) :
    restoreCheckpoint library root store checkpointId tree =
      restoreManifest library root (((store.directories checkpointId).map
          CheckpointDirectory.declared).elim (.error (.io (fileErrorText .notFound))) .ok)
        tree := by
  unfold restoreCheckpoint
  cases store.directories checkpointId with
  | none => rfl
  | some directory =>
    simp only [restoreManifest, Option.map_some, Option.elim_some, CheckpointDirectory.declared]
    rw [List.mapM_map]
    rfl

/- Why an entry of a manifest cannot be prepared. -/
inductive DeclaredEntry.Refused (library : CheckpointLibrary)
    (root : Location) (tree files : Tree) (entry : DeclaredEntry) : Prop
| start (hStart : entry.start ≠ .relative)
| path (hPath : entry.path = [] ∨ .parentDir ∈ entry.path)
| mode {mode : Nat} (hMode : entry.unixMode = some mode) (hLarge : 0o7777 < mode)
| location {error : CheckpointError}
    (hLocation : relativeCheckpointPath library root tree ⟨false, entry.path⟩ = .error error)
| object {relative : Location} {error : FileError}
    (hLocation : relativeCheckpointPath library root tree ⟨false, entry.path⟩ = .ok relative)
    (hExisted : entry.existed = true) (hRead : files.readFile (fromRoot relative) = .error error)
| checksum {relative : Location} {content : List UInt8}
    (hLocation : relativeCheckpointPath library root tree ⟨false, entry.path⟩ = .ok relative)
    (hExisted : entry.existed = true) (hRead : files.readFile (fromRoot relative) = .ok content)
    (hMismatch : entry.checksum ≠ some (library.checksumBytes content))

/- What has been checked of an entry that is prepared. -/
theorem prepareDeclared_eq_ok {entry : DeclaredEntry} {prepared : PreparedEntry}
    (hPrepare : prepareDeclared library root tree files entry = .ok prepared) :
    validateWorkspaceFileMode prepared.unixMode = .ok () ∧
      ¬ entry.Refused library root tree files := by
  unfold prepareDeclared prepareEntry at hPrepare
  split at hPrepare
  · rename_i hStart
    split at hPrepare
    · cases hPrepare
    · rename_i hPath
      obtain ⟨_, hMode, hPrepare⟩ := bind_eq_ok.1 hPrepare
      obtain ⟨relative, hRelative, hPrepare⟩ := bind_eq_ok.1 hPrepare
      have hChecked : validateWorkspaceFileMode prepared.unixMode = .ok () ∧
          (entry.existed = true → ∃ content, files.readFile (fromRoot relative) = .ok content ∧
            entry.checksum = some (library.checksumBytes content)) := by
        split at hPrepare
        · obtain ⟨content, hRead, hPrepare⟩ := bind_eq_ok.1 hPrepare
          split at hPrepare
          · rename_i hSame
            cases hPrepare
            exact ⟨hMode, fun _ => ⟨content, ofFile_eq_ok hRead, hSame⟩⟩
          · cases hPrepare
        · rename_i hMissing
          cases hPrepare
          exact ⟨rfl, fun hExisted => absurd hExisted hMissing⟩
      refine ⟨hChecked.1, ?_⟩
      -- Each reason denies one of the checks above.
      intro hRefused
      cases hRefused with
      | start hOther => exact hOther hStart
      | path hBad => simp [hBad] at hPath
      | mode hSome hLarge =>
        rw [hSome, validateWorkspaceFileMode, if_pos hLarge] at hMode
        cases hMode
      | location hError => cases hError.symm.trans hRelative
      | object hLocation hExisted hError =>
        cases hLocation.symm.trans hRelative
        obtain ⟨content, hRead, -⟩ := hChecked.2 hExisted
        cases hError.symm.trans hRead
      | checksum hLocation hExisted hOk hMismatch =>
        cases hLocation.symm.trans hRelative
        obtain ⟨content, hRead, hSame⟩ := hChecked.2 hExisted
        cases hOk.symm.trans hRead
        exact hMismatch hSame
  · cases hPrepare

theorem ofFile_eq_error {α : Type} {call : Except FileError α}
    (hCall : CheckpointError.ofFile call = .error error) : ∃ message, error = .io message := by
  cases call with
  | ok a => cases hCall
  | error e =>
    cases hCall
    exact ⟨_, rfl⟩

theorem restoreEntry_error {entry : PreparedEntry}
    (hMode : validateWorkspaceFileMode entry.unixMode = .ok ())
    (hRestore : restoreEntry entry tree = (.error error, tree')) :
    ∃ message, error = .io message := by
  unfold restoreEntry at hRestore
  split at hRestore
  · split at hRestore
    · cases hRestore
      exact ⟨_, rfl⟩
    · split at hRestore
      · rename_i hWrite
        cases hRestore
        rw [writeWorkspaceRestoreFile, hMode] at hWrite
        exact ofFile_eq_error hWrite
      · cases hRestore
  · split at hRestore
    · cases hRestore
    · cases hRestore
      exact ⟨_, rfl⟩
    · split at hRestore
      · cases hRestore
        exact ⟨_, rfl⟩
      · cases hRestore

theorem restoreEntries_error {entries : List PreparedEntry}
    (hModes : ∀ entry ∈ entries, validateWorkspaceFileMode entry.unixMode = .ok ())
    (hRestore : restoreEntries entries tree = (.error error, tree')) :
    ∃ message, error = .io message := by
  induction entries generalizing tree with
  | nil => cases hRestore
  | cons entry entries ih =>
    obtain ⟨hMode, hModes⟩ := List.forall_mem_cons.1 hModes
    unfold restoreEntries at hRestore
    split at hRestore
    · exact ih hModes hRestore
    · rename_i hEntry
      cases hRestore
      exact restoreEntry_error hMode hEntry

/-
  A restore that is refused leaves the workspace as it was:
  when the manifest cannot be read, when one of its entries is refused, wherever
  it stands, and whenever the error is not one of the file system.
-/
theorem restoreManifest_refused (library : CheckpointLibrary) (root : Location)
    (read : Except CheckpointError DeclaredManifest) (tree : Tree) :
    (∀ error, read = .error error → restoreManifest library root read tree = (.error error, tree)) ∧
    (∀ manifest, read = .ok manifest → ∀ entry ∈ manifest.entries,
        entry.Refused library root tree manifest.files →
          ∃ error, restoreManifest library root read tree = (.error error, tree)) ∧
    ∀ error tree', restoreManifest library root read tree = (.error error, tree') →
      (∀ message, error ≠ .io message) → tree' = tree := by
  refine ⟨?_, ?_, ?_⟩
  · rintro error rfl
    rfl
  · rintro manifest rfl entry hEntry hRefused
    cases hMap : manifest.entries.mapM (prepareDeclared library root tree manifest.files) with
    | error error => exact ⟨error, by simp only [restoreManifest, hMap]⟩
    | ok prepared =>
      obtain ⟨_, -, hPrepare⟩ := exists_result (forall₂_of_mapM hMap) hEntry
      exact absurd hRefused (prepareDeclared_eq_ok hPrepare).2
  · intro error tree' hRestore hOther
    unfold restoreManifest at hRestore
    split at hRestore
    · cases hRestore
      rfl
    · split at hRestore
      · cases hRestore
        rfl
      · rename_i prepared hMap
        obtain ⟨message, hIo⟩ := restoreEntries_error (by
            intro entry hEntry
            obtain ⟨_, -, hPrepare⟩ := exists_item (forall₂_of_mapM hMap) hEntry
            exact (prepareDeclared_eq_ok hPrepare).1)
            hRestore
        exact absurd hIo (hOther message)

end GolutraAgent.Runtime
