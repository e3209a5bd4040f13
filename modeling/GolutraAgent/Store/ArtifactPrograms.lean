import GolutraAgent.Library.Program
import GolutraAgent.Store.Effects

/-
  This file models the operations of the runtime store that hold the artifact
  lock, as programs of single steps: storing an artifact, the bundle of a
  completed tool, storing evidence, and the maintenance of the artifact
  directory. The steps are the system calls on that directory, and the
  statements and transactions on the tables of artifacts and evidence.

  Each step is atomic. The environment decides whether it fails, how far it got
  before that, and what it reads from the clock and the generator of
  identifiers. A step that failed may have had its effect: a commit may be
  reported as an error, and a write may stop in the middle.

  A blob is linked under its final name before the database knows of it. A later
  failure is compensated by removing the links that the operation created, and
  what a crash leaves behind is pruned by the maintenance.
-/

namespace GolutraAgent.Store

/- The file of a blob, and one that is still written. -/
inductive FileName
| blob (artifactId : ArtifactId)
| temporary (artifactId : ArtifactId) (suffix : Uuid)
deriving DecidableEq

def FileName.toText : FileName → String
| .blob artifactId => artifactId.toText ++ ".blob"
| .temporary artifactId suffix => artifactId.toText ++ ".tmp-" ++ suffix.toText

structure ArtifactFile where
  name : FileName
  content : List UInt8
  modifiedAt : Timestamp

abbrev Directory := Table ArtifactFile.name

/- The kinds of errors that the store tells apart. -/
inductive IoError
| alreadyExists
| notFound
| other (message : String)

def IoError.toText : IoError → String
| .alreadyExists => "File exists (os error 17)"
| .notFound => "No such file or directory (os error 2)"
| .other message => message

/- The calls that do not change a name or a content. -/
inductive FileCall
| createRoot
| restrictRoot
| restrict (name : FileName)
| syncFile (name : FileName)
| syncRoot
| fileType (name : FileName)

/- What runs in one transaction of the database. -/
inductive ArtifactStatement
| insertArtifactMetadata (artifact : ArtifactRecord)
| appendToolCompletedBundle (event : RuntimeEvent) (artifacts : List ArtifactRecord)
    (evidence : List EvidenceRecord)
| tombstone (artifactId : ArtifactId) (now : Timestamp)
| insertEvidence (evidence : EvidenceRecord)

def tombstoneArtifact (artifactId : ArtifactId) (now : Timestamp) : StoreTx Unit :=
  modify (fun database =>
    { database with
      artifactRecords := setBlobDeletedAt database.artifactRecords artifactId (some now) })

def ArtifactStatement.transaction : ArtifactStatement → StoreTx (Option RuntimeEvent)
| .insertArtifactMetadata artifact => do
    insertArtifactMetadataInTransaction artifact
    return none
| .appendToolCompletedBundle event artifacts evidence => do
    let event ← Store.appendToolCompletedBundle event artifacts evidence
    return some event
| .tombstone artifactId now => do
    tombstoneArtifact artifactId now
    return none
| .insertEvidence evidence => do
    insertEvidenceInTransaction evidence
    return none

inductive ArtifactCommand
| attempt (call : FileCall)
| createNew (name : FileName)
| writeAll (name : FileName) (bytes : List UInt8)
| hardLink (source target : FileName)
| removeFile (name : FileName)
| readFile (name : FileName) (limit : Nat)
| readRoot
| elapsed (name : FileName)
| newUuid
| query
| execute (statement : ArtifactStatement)

abbrev ArtifactCommand.Answer : ArtifactCommand → Type
| .attempt _ => Except IoError Unit
| .createNew _ => Except IoError Unit
| .writeAll _ _ => Except IoError Unit
| .hardLink _ _ => Except IoError Unit
| .removeFile _ => Except IoError Unit
| .readFile _ _ => Except IoError (List UInt8)
| .readRoot => Except IoError (List FileName)
| .elapsed _ => Except IoError (Option Int)
| .newUuid => Uuid
| .query => Except StoreError Database
| .execute _ => Except StoreError (Option RuntimeEvent)

abbrev artifactInterface : Interface := ⟨ArtifactCommand, ArtifactCommand.Answer⟩

structure ArtifactWorld where
  files : Directory
  database : Database

/-
  A failure has an error, and says how far the step got: not at all at `0`, and
  otherwise so many bytes of a write, or all of another step.
-/
structure StepChoice where
  failure : Option (IoError × Nat)
  clock : Timestamp
  uuid : Uuid

/- What a call returns that could return a result. -/
def StepChoice.answer {α : Type} (choice : StepChoice)
    (result : Except IoError α) : Except IoError α :=
  match choice.failure with
  | none => result
  | some (error, _) => .error error

/- A change of the directory, or the error of the call. -/
def StepChoice.changes (choice : StepChoice) (world : ArtifactWorld)
    (change : Except IoError Directory) : Except IoError Unit × ArtifactWorld :=
  match choice.failure, change with
  | none, .ok files => (.ok (), { world with files })
  | none, .error error => (.error error, world)
  | some (error, _ + 1), .ok files => (.error error, { world with files })
  | some (error, _), _ => (.error error, world)

namespace Directory

variable (files : Directory)

def createNew (name : FileName) (now : Timestamp) : Except IoError Directory :=
  match files.insert? ⟨name, [], now⟩ with
  | some files => .ok files
  | none => .error .alreadyExists

/- The content of an open file grows at its end. -/
def write (name : FileName) (bytes : List UInt8) (now : Timestamp) : Directory :=
  files.updateWhere (·.name = name) (fun file =>
      { file with
        content := file.content ++ bytes
        modifiedAt := now })
    (fun _ => rfl)

/- A second name of the same content. -/
def hardLink (source target : FileName) : Except IoError Directory :=
  match files.find? source with
  | none => .error .notFound
  | some file =>
    match files.insert? { file with name := target } with
    | some files => .ok files
    | none => .error .alreadyExists

def removeFile (name : FileName) : Except IoError Directory :=
  match files.find? name with
  | none => .error .notFound
  | some _ => .ok (files.delete name)

end Directory

/- A transaction that fails in the database changes nothing. -/
def ArtifactStatement.execute (statement : ArtifactStatement) (choice : StepChoice)
    (world : ArtifactWorld) : Except StoreError (Option RuntimeEvent) × ArtifactWorld :=
  match statement.transaction.run world.database, choice.failure with
  | .error error, _ => (.error error, world)
  | .ok (event, database), none => (.ok event, { world with database })
  | .ok (_, database), some (_, _ + 1) => (.error (.sqlx .rolledBack), { world with database })
  | .ok _, some (_, 0) => (.error (.sqlx .rolledBack), world)

/- A failed write may leave a part of its bytes. -/
def ArtifactCommand.handle :
    (command : ArtifactCommand) → StepChoice → ArtifactWorld → command.Answer × ArtifactWorld
| .attempt _, choice, world => (choice.answer (.ok ()), world)
| .createNew name, choice, world => choice.changes world (world.files.createNew name choice.clock)
| .writeAll name bytes, choice, world =>
  match choice.failure with
  | none => (.ok (), { world with files := world.files.write name bytes choice.clock })
  | some (error, written) =>
    (.error error, { world with files := world.files.write name (bytes.take written) choice.clock })
| .hardLink source target, choice, world =>
  choice.changes world (world.files.hardLink source target)
| .removeFile name, choice, world => choice.changes world (world.files.removeFile name)
| .readFile name limit, choice, world =>
  (choice.answer (match world.files.find? name with
      | none => .error .notFound
      | some file => .ok (file.content.take limit)), world)
| .readRoot, choice, world => (choice.answer (.ok (world.files.rows.map ArtifactFile.name)), world)
| .elapsed name, choice, world =>
  (choice.answer (match world.files.find? name with
      | none => .error .notFound
      | some file =>
        .ok (if file.modifiedAt.nanos ≤ choice.clock.nanos
          then some (choice.clock.nanos - file.modifiedAt.nanos)
          else none)), world)
| .newUuid, choice, world => (choice.uuid, world)
| .query, choice, world =>
  match choice.failure with
  | none => (.ok world.database, world)
  | some _ => (.error (.sqlx .rolledBack), world)
| .execute statement, choice, world => statement.execute choice world

abbrev ArtifactProgram := Program artifactInterface StoreError

def SqlFailure.toText : SqlFailure → String
| .uniqueConstraint column => "UNIQUE constraint failed: " ++ column
| .columnDecode column => "error occurred while decoding column " ++ column
| .rowNotFound => "no rows returned by a query"
| .rolledBack => "transaction rolled back"

def StoreError.toText : StoreError → String
| .sqlx failure => "sqlite operation failed: " ++ failure.toText
| .json message => "json serialization failed: " ++ message
| .invalidId detail => "stored id is invalid: " ++ detail
| .artifactIo detail => "artifact IO failed: " ++ detail
| .artifactChecksum artifactId => "artifact checksum mismatch for " ++ artifactId
| .invalidToolCompletionBundle detail => "invalid tool completion bundle: " ++ detail

/- The directory, and the digest of the SHA-2 library. -/
structure ArtifactSettings where
  artifactRoot : String
  artifactChecksum : List UInt8 → String

def ArtifactSettings.display (store : ArtifactSettings) (name : FileName) : String :=
  store.artifactRoot ++ "/" ++ name.toText

/- An error of the system, as one of the store. -/
def orIoError {α : Type} : Except IoError α → ArtifactProgram α
| .ok result => .done result
| .error error => .fail (.artifactIo error.toText)

def perform (command : ArtifactCommand) : ArtifactProgram command.Answer := .perform command .done

def attempt (fileCall : FileCall) : ArtifactProgram Unit := do
  let answer : Except IoError Unit ← perform (.attempt fileCall)
  orIoError answer

def query : ArtifactProgram Database := do
  let answer : Except StoreError Database ← perform .query
  Program.ofExcept answer

def execute (statement : ArtifactStatement) : ArtifactProgram (Option RuntimeEvent) := do
  let answer : Except StoreError (Option RuntimeEvent) ← perform (.execute statement)
  Program.ofExcept answer

structure PreparedArtifactBlob where
  artifactId : ArtifactId
  createdFinalLink : Bool

section

variable (store : ArtifactSettings)

def verifyArtifactChecksum (artifact : ArtifactRecord)
    (bytes : List UInt8) : Except StoreError Unit :=
  if store.artifactChecksum bytes = artifact.checksum then .ok ()
  else .error (.artifactChecksum artifact.artifactId.toText)

def pathError {α : Type} (name : FileName) (error : IoError) : ArtifactProgram α :=
  .fail (.artifactIo (store.display name ++ ": " ++ error.toText))

/- One byte more than expected tells a longer file apart. -/
def artifactBlobMatches (name : FileName) (bytes : List UInt8) : ArtifactProgram Bool := do
  let answer : Except IoError (List UInt8) ← perform (.readFile name (bytes.length + 1))
  match answer with
  | .error error => pathError store name error
  | .ok existing => return existing = bytes

def removeFileIfPresent (name : FileName) : ArtifactProgram Unit := do
  let answer : Except IoError Unit ← perform (.removeFile name)
  match answer with
  | .ok () | .error .notFound => return ()
  | .error error => pathError store name error

def compensateBlob (removed : Bool) (blob : PreparedArtifactBlob) : ArtifactProgram Bool := do
  let database ← query
  if isLiveArtifact database blob.artifactId then return removed
  else
    removeFileIfPresent store (.blob blob.artifactId)
    return true

def compensatePreparedBlobs (prepared : List PreparedArtifactBlob) : ArtifactProgram Unit := do
  let removed ←
    (prepared.filter PreparedArtifactBlob.createdFinalLink).foldlM (compensateBlob store) false
  if removed then attempt .syncRoot
  else return ()

/- The operation fails, after what it linked is removed. -/
def compensatePreparedBlobsAfterError {α : Type} (prepared : List PreparedArtifactBlob)
    (primaryError : StoreError) : ArtifactProgram α := do
  let cleanup ← (compensatePreparedBlobs store prepared).outcome
  match cleanup with
  | .ok () => .fail primaryError
  | .error cleanupError => .fail (.artifactIo
      (primaryError.toText ++ "; artifact rollback failed: " ++ cleanupError.toText))

/- The oldest live artifact with the same content. -/
def duplicateArtifactBlobPath (checksum : String) (sizeBytes : Nat) :
    ArtifactProgram (Option FileName) := do
  let database ← query
  let duplicates := database.artifactRecords.rows.filter (fun row =>
      row.artifact.checksum = checksum && min row.artifact.sizeBytes maxInteger =
        min sizeBytes maxInteger && row.blobDeletedAt.isNone)
  let oldest := Table.leastBy (·.artifact.createdAt.nanos) duplicates
  return oldest.map (fun row => .blob row.artifactId)

/- Whether a link was created, or the name was taken. -/
def link (source target : FileName) : ArtifactProgram Bool := do
  let answer : Except IoError Unit ← perform (.hardLink source target)
  match answer with
  | .ok () => return true
  | .error .alreadyExists => return false
  | .error error => .fail (.artifactIo error.toText)

variable (artifact : ArtifactRecord) (bytes : List UInt8)

def linkDuplicate (existing : FileName) : ArtifactProgram Bool := do
  let isSame ← artifactBlobMatches store existing bytes
  if isSame then link existing (.blob artifact.artifactId)
  else .fail (.artifactIo ("artifact checksum collision for " ++ artifact.checksum))

def writeTemporary (temporary : FileName) : ArtifactProgram Bool := do
  let created : Except IoError Unit ← perform (.createNew temporary)
  orIoError created
  let written : Except IoError Unit ← perform (.writeAll temporary bytes)
  orIoError written
  attempt (.restrict temporary)
  attempt (.syncFile temporary)
  link temporary (.blob artifact.artifactId)

/- After a step that follows the link has failed. -/
def unlinkAfterError {α : Type} (artifact : ArtifactRecord) (linked : Bool)
    (error : StoreError) : ArtifactProgram α :=
  if linked then compensatePreparedBlobsAfterError store [⟨artifact.artifactId, true⟩] error
  else .fail error

variable (artifact : ArtifactRecord)

/- The temporary file goes, however its write ended. -/
def cleanupTemporaryArtifact (temporary : FileName) (writeResult : Except StoreError Bool) :
    ArtifactProgram Bool := do
  let cleanupResult ← (removeFileIfPresent store temporary).outcome
  match writeResult, cleanupResult with
  | .ok linked, .ok () => return linked
  | .ok linked, .error error => unlinkAfterError store artifact linked error
  | .error error, _ => .fail error

def publishTemporary (bytes : List UInt8) : ArtifactProgram Bool := do
  let suffix : Uuid ← perform .newUuid
  let temporary := FileName.temporary artifact.artifactId suffix
  let writeResult ← (writeTemporary artifact bytes temporary).outcome
  cleanupTemporaryArtifact store artifact temporary writeResult

/- The content is read back under its final name. -/
def confirmPublication (bytes : List UInt8) (linked : Bool) :
    ArtifactProgram PreparedArtifactBlob := do
  let synced ← (attempt .syncRoot).outcome
  match synced with
  | .error error => unlinkAfterError store artifact linked error
  | .ok () =>
    let isSame ← (artifactBlobMatches store (.blob artifact.artifactId) bytes).outcome
    match isSame with
    | .ok true => return ⟨artifact.artifactId, linked⟩
    | .ok false =>
      unlinkAfterError store artifact linked (.artifactIo ("artifact " ++
          artifact.artifactId.toText ++ " already has different blob content"))
    | .error error => unlinkAfterError store artifact linked error

/- A preferred source, or a live artifact to link from. -/
def duplicatePath : Option FileName → ArtifactProgram (Option FileName)
| some name => return some name
| none => duplicateArtifactBlobPath artifact.checksum artifact.sizeBytes

def linkBlob (bytes : List UInt8) : Option FileName → ArtifactProgram Bool
| some existing => linkDuplicate store artifact bytes existing
| none => publishTemporary store artifact bytes

def prepareArtifactBlob (bytes : List UInt8) (preferredSource : Option FileName) :
    ArtifactProgram PreparedArtifactBlob := do
  Program.ofExcept (verifyArtifactChecksum store artifact bytes)
  attempt .createRoot
  attempt .restrictRoot
  let duplicate ← duplicatePath artifact preferredSource
  let linked ← linkBlob store artifact bytes duplicate
  confirmPublication store artifact bytes linked

end

section

variable (store : ArtifactSettings)

def storeArtifactInner (artifact : ArtifactRecord) (bytes : List UInt8) : ArtifactProgram Unit := do
  Program.ofExcept (verifyArtifactChecksum store artifact bytes)
  let prepared ← prepareArtifactBlob store artifact bytes none
  let result ← (execute (.insertArtifactMetadata artifact)).outcome
  match result with
  | .ok _ => return ()
  | .error error => compensatePreparedBlobsAfterError store [prepared] error

def maxToolCompletionArtifactBytes : Nat := 16 * 1024 * 1024

def maxToolCompletionBundleBytes : Nat := 160 * 1024 * 1024

def invalidBundle {α : Type} (detail : String) : Except StoreError α :=
  .error (.invalidToolCompletionBundle detail)

/-
  The artifacts of a bundle, after those with the given ids and the given number
  of bytes.
-/
def validateBundleArtifacts (sessionId : SessionId) (artifactIds : List ArtifactId)
    (totalBytes : Nat) : List (ArtifactRecord × List UInt8) → Except StoreError Unit
| [] => .ok ()
| (artifact, bytes) :: artifacts =>
  let name := "artifact " ++ artifact.artifactId.toText
  let total := totalBytes + artifact.sizeBytes
  if artifact.sessionId ≠ sessionId then invalidBundle (name ++ " belongs to a different session")
  else if artifact.artifactId ∈ artifactIds then invalidBundle (name ++ " appears more than once")
  else if maxToolCompletionArtifactBytes < artifact.sizeBytes then
    invalidBundle (name ++ " exceeds the " ++
      toString maxToolCompletionArtifactBytes ++ " byte limit")
  else if artifact.sizeBytes ≠ bytes.length then
    invalidBundle (name ++ " declared " ++
      toString artifact.sizeBytes ++ " bytes but received " ++ toString bytes.length)
  else if 2 ^ 64 ≤ total then invalidBundle "artifact bundle size overflowed its counter"
  else if maxToolCompletionBundleBytes < total then
    invalidBundle ("artifact bundle exceeds " ++ toString maxToolCompletionBundleBytes ++ " bytes")
  else do
    verifyArtifactChecksum store artifact bytes
    validateBundleArtifacts sessionId (artifact.artifactId :: artifactIds) total artifacts

def validateBundleEvidence (evidenceIds : List EvidenceId) :
    List EvidenceRecord → Except StoreError Unit
| [] => .ok ()
| record :: evidence =>
  if record.evidenceId ∈ evidenceIds then
    invalidBundle ("evidence " ++ record.evidenceId.toText ++ " appears more than once")
  else validateBundleEvidence (record.evidenceId :: evidenceIds) evidence

def validateToolCompletionBundle (event : RuntimeEvent)
    (artifacts : List (ArtifactRecord × List UInt8))
    (evidence : List EvidenceRecord) : Except StoreError Unit :=
  if event.eventType ≠ .toolCompleted then invalidBundle "event type must be ToolCompleted"
  else do
    requireEnvelope event
    validateBundleArtifacts store event.sessionId [] 0 artifacts
    validateBundleEvidence [] evidence

/- Where the contents of a bundle are, by their keys. -/
abbrev ContentPaths := List ((String × Nat) × FileName)

/-
  The blobs of a bundle. A content that the bundle already prepared is linked
  from there.
-/
def prepareBundleBlobs (prepared : List PreparedArtifactBlob) (contentPaths : ContentPaths) :
    List (ArtifactRecord × List UInt8) → ArtifactProgram (List PreparedArtifactBlob)
| [] => return prepared
| (artifact, bytes) :: artifacts => do
    let contentKey := (artifact.checksum, artifact.sizeBytes)
    let preferredSource := contentPaths.lookup contentKey
    let result ← (prepareArtifactBlob store artifact bytes preferredSource).outcome
    match result with
    | .ok blob =>
      let path := preferredSource.getD (.blob artifact.artifactId)
      prepareBundleBlobs (prepared ++ [blob]) ((contentKey, path) :: contentPaths) artifacts
    | .error error => compensatePreparedBlobsAfterError store prepared error

def appendToolCompletedBundleInner (event : RuntimeEvent)
    (artifacts : List (ArtifactRecord × List UInt8)) (evidence : List EvidenceRecord) :
    ArtifactProgram (Option RuntimeEvent) := do
  Program.ofExcept (validateToolCompletionBundle store event artifacts evidence)
  let prepared ← prepareBundleBlobs store [] [] artifacts
  let result ← (execute (.appendToolCompletedBundle event
    (artifacts.map Prod.fst) evidence)).outcome
  match result with
  | .ok event => return event
  | .error error => compensatePreparedBlobsAfterError store prepared error

variable (evidence : EvidenceRecord)

/- Every artifact is looked up by a query of its own. -/
def requireLiveArtifact (artifactId : ArtifactId) : ArtifactProgram Unit := do
  let database ← query
  if isLiveArtifact database artifactId then return ()
  else
    .fail (.artifactIo ("evidence " ++ evidence.evidenceId.toText ++ " references artifact " ++
      artifactId.toText ++ " without a live blob"))

def storeEvidenceInner : ArtifactProgram Unit := do
  evidence.artifactRefs.foldlM (fun _ artifactId => requireLiveArtifact evidence artifactId) ()
  let _ ← execute (.insertEvidence evidence)
  return ()

end

structure ArtifactMaintenanceReport where
  artifactBlobsRemoved : Nat
  protectedArtifactsSkipped : Nat
  temporaryArtifactsRemoved : Nat

section

variable (store : ArtifactSettings)

def activeStatuses : List String := ["running", "waiting_approval", "waiting_authentication",
    "pausing", "paused", "aborting"]

def protectedArtifactIds : ArtifactProgram (List ArtifactId) := do
  let database ← query
  return database.evidenceRecords.rows.flatMap EvidenceRecord.artifactRefs

def activeSessionIds : ArtifactProgram (List SessionId) := do
  let database ← query
  return (database.journal.sessions.rows.filter (·.status ∈ activeStatuses)).map
      SessionRow.sessionId

/- The number of protected artifacts that were skipped. -/
def expireArtifact (now : Timestamp) (protectedIds : List ArtifactId)
    (activeSessions : List SessionId) (skipped : Nat)
    (row : ArtifactRow) : ArtifactProgram Nat := do
  let expiresAt := row.expiresAt.orElse (fun _ => artifactExpiration row.artifact)
  if expiresAt.all (fun instant => now.nanos < instant.nanos) then return skipped
  else if row.artifactId ∈ protectedIds ∨ row.artifact.sessionId ∈ activeSessions then
    return skipped + 1
  else
    let _ ← execute (.tombstone row.artifactId now)
    return skipped

/- Remove a file, counting those that were there. -/
def pruneFile (removed : Nat) (name : FileName) : ArtifactProgram Nat := do
  let answer : Except IoError Unit ← perform (.removeFile name)
  match answer with
  | .ok () => return removed + 1
  | .error .notFound => return removed
  | .error error => .fail (.artifactIo error.toText)

def pruneTombstonedArtifactBlobs : ArtifactProgram Nat := do
  let database ← query
  let tombstones := database.artifactRecords.rows.filter (·.blobDeletedAt.isSome)
  tombstones.foldlM (fun removed row => pruneFile removed (.blob row.artifactId)) 0

/- The entries of the directory, or of none. -/
def readRoot : ArtifactProgram (List FileName) := do
  let answer : Except IoError (List FileName) ← perform .readRoot
  match answer with
  | .ok names => return names
  | .error .notFound => return []
  | .error error => .fail (.artifactIo error.toText)

def pruneOrphan (liveIds : List ArtifactId) (removed : Nat)
    (name : FileName) : ArtifactProgram Nat :=
  match name with
  | .temporary _ _ => return removed
  | .blob artifactId =>
    if artifactId ∈ liveIds then return removed
    else do
      let answer : Except IoError Unit ← perform (.attempt (.fileType name))
      match answer with
      | .ok () => pruneFile removed name
      | .error .notFound => return removed
      | .error error => .fail (.artifactIo error.toText)

def pruneOrphanedArtifactBlobs : ArtifactProgram Nat := do
  let database ← query
  let live := database.artifactRecords.rows.filter (·.blobDeletedAt.isNone)
  let names ← readRoot
  names.foldlM (pruneOrphan (live.map ArtifactRow.artifactId)) 0

def temporaryArtifactRetentionNanos : Int := 60 * 60 * 1000000000

def pruneTemporaryArtifactEntry (removed : Nat) (name : FileName) : ArtifactProgram Nat :=
  match name with
  | .blob _ => return removed
  | .temporary _ _ => do
      let answer : Except IoError (Option Int) ← perform (.elapsed name)
      match answer with
      | .error .notFound => return removed
      | .error error => pathError store name error
      | .ok age =>
        if age.any (fun age => temporaryArtifactRetentionNanos ≤ age) then do
          let answer : Except IoError Unit ← perform (.removeFile name)
          match answer with
          | .ok () => return removed + 1
          | .error .notFound => return removed
          | .error error => pathError store name error
        else return removed

def pruneTemporaryArtifacts : ArtifactProgram Nat := do
  let names ← readRoot
  names.foldlM (pruneTemporaryArtifactEntry store) 0

def runArtifactMaintenanceInner (now : Timestamp) : ArtifactProgram ArtifactMaintenanceReport := do
  let protectedIds ← protectedArtifactIds
  let activeSessions ← activeSessionIds
  let database ← query
  let live := database.artifactRecords.rows.filter (·.blobDeletedAt.isNone)
  let skipped ← live.foldlM (expireArtifact now protectedIds activeSessions) 0
  let tombstoned ← pruneTombstonedArtifactBlobs
  let orphaned ← pruneOrphanedArtifactBlobs
  let temporary ← pruneTemporaryArtifacts store
  attempt .syncRoot
  return ⟨tombstoned + orphaned, skipped, temporary⟩

end

end GolutraAgent.Store
