import GolutraAgent.Core.Ids
import GolutraAgent.Library.FileTree

/-
  This file models the checkpoints of a workspace: reading the before image of a
  file, the checkpoint that is made from before images, and the restore of a
  checkpoint.

  The workspace is a directory of a file tree at a fixed location. The directory
  of a checkpoint is a tree of its own with its manifest; the objects that
  checkpoints share are a map from checksums. What the environment may do to a
  call besides what the tree says, such as a full disk, only makes it fail and
  is left out.
-/

namespace GolutraAgent.Runtime

open FileTree

inductive CheckpointError
| io (message : String)
| outsideWorkspace (path : String)
| excluded (path : String)
| invalidManifest (message : String)
deriving DecidableEq

def fileErrorText : FileError → String
| .notFound => "No such file or directory (os error 2)"
| .notADirectory => "Not a directory (os error 20)"
| .isADirectory => "Is a directory (os error 21)"
| .alreadyExists => "File exists (os error 17)"
| .tooManyLinks => "Too many levels of symbolic links (os error 40)"
| .invalidInput => "Invalid argument (os error 22)"

def CheckpointError.ofFile {α : Type} : Except FileError α → Except CheckpointError α
| .ok a => .ok a
| .error e => .error (.io (fileErrorText e))

def componentText : Component → String
| .normal name => name
| .parentDir => ".."

def pathText (components : List Component) : String :=
  "/" ++ String.intercalate "/" (components.map componentText)

def relativeText (relative : Location) : String := String.intercalate "/" relative

/- What a file was before it was changed. -/
structure FileBeforeImage where
  path : Path
  content : Option (List UInt8)
  unixMode : Option Nat

def maxFileContentBytes : Nat := 16 * 1024 * 1024

/- A path is absolute, or it starts at the workspace. -/
def absolutePath (root : Location) (path : Path) : List Component :=
  if path.absolute then path.components
  else fromRoot root ++ path.components

def linkText (target : Path) : String :=
  if target.absolute then pathText target.components
  else String.intercalate "/" (target.components.map componentText)

/- The image of a link is the text of its target. -/
def readOptionalFile (root : Location) (tree : Tree)
    (path : Path) : Except String FileBeforeImage :=
  let text := pathText (absolutePath root path)
  match tree.symlinkMetadata (absolutePath root path) with
  | .error .notFound => .ok ⟨path, none, none⟩
  | .error e => .error (fileErrorText e)
  | .ok (.link target) =>
    let content := (linkText target).toUTF8.toList
    if content.length > maxFileContentBytes then
      .error ("symlink target " ++ text ++ " exceeds " ++
        toString maxFileContentBytes ++ " byte limit")
    else .ok ⟨path, some content, some 511⟩
  | .ok .directory => .error ("path " ++ text ++ " is not a regular file")
  | .ok (.file content mode) =>
    if content.length > maxFileContentBytes then
      .error ("file " ++ text ++ " exceeds " ++ toString maxFileContentBytes ++ " byte limit")
    else .ok ⟨path, some content, some mode.toNat⟩

/- The functions that the checkpoints take from elsewhere. -/
structure CheckpointLibrary where
  checksumBytes : List UInt8 → String
  isGitignored : Tree → Location → Location → Except CheckpointError Bool

def containsText (text part : String) : Bool := decide (part.toList <:+: text.toList)

def isCheckpointExcluded (relative : Location) : Bool := relative.any (fun name =>
    name = ".git" || name = ".golutra" || name = ".golutra-agent") ||
    containsText (relativeText relative) ".env" ||
    containsText (relativeText relative) ".ssh" ||
    containsText (relativeText relative) "id_rsa" ||
    containsText (relativeText relative) "id_ed25519"

/-
  The part of a path that exists is canonicalized, and the names that are
  missing are appended. The existing part is given from its last component.
-/
def canonicalizeFrom (tree : Tree) (path : List Component) :
    List Component → List String → Except CheckpointError Location
| existing, missing =>
  match tree.symlinkMetadata existing.reverse with
  | .ok _ =>
    match tree.canonicalize existing.reverse with
    | .ok canonical => .ok (canonical ++ missing)
    | .error e => .error (.io (fileErrorText e))
  | .error .notFound =>
    match existing with
    | .normal name :: parent => canonicalizeFrom tree path parent (name :: missing)
    | _ => .error (.io ("changed file has no existing ancestor: " ++ pathText path))
  | .error e => .error (.io (fileErrorText e))

def canonicalizeWithMissingSuffix (tree : Tree) (path : List Component) :
    Except CheckpointError Location :=
  canonicalizeFrom tree path path.reverse []

def relativeCheckpointPath (library : CheckpointLibrary) (root : Location)
    (tree : Tree) (changedFile : Path) : Except CheckpointError Location := do
  let path := absolutePath root changedFile
  let canonicalWorkspace ← CheckpointError.ofFile (tree.canonicalize (fromRoot root))
  let canonicalPath ← canonicalizeWithMissingSuffix tree path
  if canonicalWorkspace.isPrefixOf canonicalPath then
    let relative := canonicalPath.drop canonicalWorkspace.length
    if isCheckpointExcluded relative then throw (.excluded (relativeText relative))
    else
      let ignored ← library.isGitignored tree root relative
      if ignored then throw (.excluded (relativeText relative))
      else return relative
  else throw (.outsideWorkspace (pathText path))

structure CheckpointManifestEntry where
  path : List Component
  existed : Bool
  checksum : Option String
  unixMode : Option Nat

/- The tree has the before images under their paths. -/
structure CheckpointDirectory where
  files : Tree
  manifest : List CheckpointManifestEntry

structure CheckpointStore where
  objects : String → Option (List UInt8)
  directories : CheckpointId → Option CheckpointDirectory

structure WorkspaceCheckpoint where
  checkpointId : CheckpointId
  workspaceId : WorkspaceId
  taskId : TaskId
  turnId : TurnId
  changedFiles : List String
  createdBeforeToolCallId : ToolCallId
  restoreHint : String
  retentionPolicy : String

/- Objects are shared by the checksum of their content. -/
def storeCheckpointObject (library : CheckpointLibrary) (objects : String → Option (List UInt8))
    (content : List UInt8) : Except CheckpointError (String → Option (List UInt8)) :=
  let checksum := library.checksumBytes content
  match objects checksum with
  | some existing =>
    if existing = content then .ok objects
    else .error (.invalidManifest ("checkpoint object checksum collision: " ++ checksum))
  | none =>
    .ok (fun other =>
      if other = checksum then some content
      else objects other)

def ownerOnlyFile : BitVec 12 := 0o600

/- The stored object gets a second name in the checkpoint. -/
def linkCheckpointObject (files : Tree) (relative : Location)
    (content : List UInt8) : Except CheckpointError Tree :=
  match files.createDirAll (fromRoot relative.dropLast) with
  | (.error e, _) => .error (.io (fileErrorText e))
  | (.ok (), above) =>
    match above.createFile (fromRoot relative) content ownerOnlyFile with
    | .ok linked => .ok linked
    | .error e =>
      .error (.io ("failed to link checkpoint object to " ++ relativeText relative ++ ": " ++
        fileErrorText e))

variable (library : CheckpointLibrary) (relative : Location)

def manifestEntry (image : FileBeforeImage) : CheckpointManifestEntry where
  path := fromRoot relative
  existed := image.content.isSome
  checksum := image.content.map library.checksumBytes
  unixMode := image.unixMode

/- A file that was missing is only noted in the manifest. -/
def storeImage (objects : String → Option (List UInt8)) (files : Tree) :
    Option (List UInt8) → Except CheckpointError ((String → Option (List UInt8)) × Tree)
| none => .ok (objects, files)
| some content => do
    let objects ← storeCheckpointObject library objects content
    let files ← linkCheckpointObject files relative content
    return (objects, files)

/- The objects and the files that are written, in order. -/
def recordImages (library : CheckpointLibrary) (root : Location) (tree : Tree) :
    List FileBeforeImage → (String → Option (List UInt8)) → Tree → Except CheckpointError
          ((String → Option (List UInt8)) × Tree × List CheckpointManifestEntry)
| [], objects, files => .ok (objects, files, [])
| image :: images, objects, files => do
    let relative ← relativeCheckpointPath library root tree image.path
    let stored ← storeImage library relative objects files image.content
    let rest ← recordImages library root tree images stored.1 stored.2
    return (rest.1, rest.2.1, manifestEntry library relative image :: rest.2.2)

/- Who makes a checkpoint, and before which tool call. -/
structure CheckpointRequest where
  checkpointId : CheckpointId
  workspaceId : WorkspaceId
  taskId : TaskId
  turnId : TurnId
  createdBeforeToolCallId : ToolCallId

/- The objects are kept by their checksum, once for all checkpoints. -/
def createCheckpoint (library : CheckpointLibrary) (root checkpointRoot : Location) (tree : Tree)
    (store : CheckpointStore) (request : CheckpointRequest) (beforeImages : List FileBeforeImage) :
    Except CheckpointError (WorkspaceCheckpoint × CheckpointStore) := do
  let recorded ← recordImages library root tree beforeImages store.objects Tree.empty
  let objects := recorded.1
  let directory : CheckpointDirectory := ⟨recorded.2.1, recorded.2.2⟩
  return (
    { checkpointId := request.checkpointId
      workspaceId := request.workspaceId
      taskId := request.taskId
      turnId := request.turnId
      changedFiles := directory.manifest.map (fun entry =>
        String.intercalate "/" (entry.path.map componentText))
      createdBeforeToolCallId := request.createdBeforeToolCallId
      restoreHint := "restore files using manifest " ++
        pathText (fromRoot (checkpointRoot ++ [request.checkpointId.toText, "manifest.json"]))
      retentionPolicy := "p0_keep_until_task_cleanup" },
    { objects
      directories := fun other =>
        if other = request.checkpointId then some directory
        else store.directories other })

def octalText (n : Nat) : String := String.ofList (Nat.toDigits 8 n)

def validateWorkspaceFileMode (unixMode : Option Nat) : Except CheckpointError Unit :=
  match unixMode with
  | some mode =>
    if 0o7777 < mode then
      .error (.invalidManifest ("checkpoint file mode is invalid: " ++ octalText mode))
    else .ok ()
  | none => .ok ()

/- A file that goes back to its content, or that goes away. -/
structure PreparedEntry where
  target : Location
  content : Option (List UInt8)
  unixMode : Option Nat

/- Nothing is written before all entries were prepared. -/
def prepareEntry (library : CheckpointLibrary) (root : Location) (tree : Tree)
    (directory : CheckpointDirectory) (entry : CheckpointManifestEntry) :
    Except CheckpointError PreparedEntry := do
  let text := String.intercalate "/" (entry.path.map componentText)
  if entry.path = [] || entry.path.contains .parentDir then
    throw (.invalidManifest (
      "checkpoint path must be workspace-relative without traversal: " ++ text))
  else
    validateWorkspaceFileMode entry.unixMode
    let relative ← relativeCheckpointPath library root tree ⟨false, entry.path⟩
    let target := root ++ relative
    if entry.existed then
      let content ← CheckpointError.ofFile (directory.files.readFile (fromRoot relative))
      if entry.checksum = some (library.checksumBytes content) then
        return ⟨target, some content, entry.unixMode⟩
      else throw (.invalidManifest ("checkpoint content checksum mismatch: " ++ text))
    else return ⟨target, none, none⟩

/- A temporary file gets its mode and is renamed. -/
def writeWorkspaceRestoreFile (tree : Tree) (target : Location) (content : List UInt8)
    (unixMode : Option Nat) : Except CheckpointError Tree := do
  validateWorkspaceFileMode unixMode
  CheckpointError.ofFile (tree.replaceFile (fromRoot target)
    content ((unixMode.map (BitVec.ofNat 12)).getD ownerOnlyFile))

/- What was changed before a failure stays changed. -/
def restoreEntry (entry : PreparedEntry) (tree : Tree) : Except CheckpointError Unit × Tree :=
  match entry.content with
  | some content =>
    match tree.createDirAll (fromRoot entry.target.dropLast) with
    | (.error e, above) => (.error (.io (fileErrorText e)), above)
    | (.ok (), above) =>
      match writeWorkspaceRestoreFile above entry.target content entry.unixMode with
      | .error e => (.error e, above)
      | .ok written => (.ok (), written)
  | none =>
    match tree.symlinkMetadata (fromRoot entry.target) with
    | .error .notFound => (.ok (), tree)
    | .error e => (.error (.io (fileErrorText e)), tree)
    | .ok _ =>
      match tree.removeFile (fromRoot entry.target) with
      | .error e => (.error (.io (fileErrorText e)), tree)
      | .ok removed => (.ok (), removed)

/- The first failure stops it. -/
def restoreEntries : List PreparedEntry → Tree → Except CheckpointError Unit × Tree
| [], tree => (.ok (), tree)
| entry :: entries, tree =>
  match restoreEntry entry tree with
  | (.ok (), restored) => restoreEntries entries restored
  | (.error e, restored) => (.error e, restored)

def restoreCheckpoint (library : CheckpointLibrary) (root : Location) (store : CheckpointStore)
    (checkpointId : CheckpointId) (tree : Tree) : Except CheckpointError Unit × Tree :=
  match store.directories checkpointId with
  | none => (.error (.io (fileErrorText .notFound)), tree)
  | some directory =>
    match directory.manifest.mapM (prepareEntry library root tree directory) with
    | .error e => (.error e, tree)
    | .ok prepared => restoreEntries prepared tree

end GolutraAgent.Runtime
