import Mathlib.Data.Int.Order.Basic
import Mathlib.Data.List.Dedup
import GolutraAgent.Core.Ids
import GolutraAgent.Library.Text
import GolutraAgent.Library.KeyedList
import GolutraAgent.Library.Retrieval

/-
  This file models the memory store: its records, how their texts are compared
  and what a candidate must satisfy; a state file, or none for a store in memory,
  with what opening it does to the records; and the snapshot of it that retrieval
  reads. The snapshot has an index from terms to the places of the records, and
  is replaced as a whole. A change takes the store's lock, loads the file, and
  writes all of it back. The fresh identifiers, the clock and the time the file
  system gives a written file are arguments; lower case, letters and digits, the
  search for secrets, dates and the size of the encoded state are those of a
  library.
-/

namespace GolutraAgent.Memory

section

/- Who a memory is for. -/
inductive MemoryScope
| project
| user
| global
deriving DecidableEq

/- The name of a scope, in lower case. -/
def MemoryScope.name : MemoryScope → String
| .project => "project"
| .user => "user"
| .global => "global"

inductive MemoryFeedbackKind
| helpful
| irrelevant
| incorrect

/- A memory waits in quarantine before it is active. -/
inductive MemoryStatus
| proposed
| quarantined
| active
| deprecated
| rolledBack
| expired
deriving DecidableEq

structure MemoryClaim where
  candidateId : MemoryCandidateId
  subject : String
  predicate : String
  object : String
  scope : String
  sourceTaskRefs : List TaskId
  evidenceRefs : List EvidenceId
  confidence : Nat
  validFrom : Timestamp
  expiresAt : Option Timestamp
  invalidationRefs : List String
deriving DecidableEq

structure MemoryCandidate where
  claim : Option MemoryClaim
  sourceTaskId : TaskId
  evidenceIds : List EvidenceId
  proposedScope : MemoryScope
  confidence : Nat
  contradictionIds : List String
  expiry : Option String

/- A memory, with what its activation and its end rest on. -/
structure MemoryRecord where
  memoryId : MemoryId
  content : String
  scope : MemoryScope
  confidence : Nat
  sourceTaskId : TaskId
  evidenceIds : List EvidenceId
  contradictionIds : List String
  createdAt : Timestamp
  expiresAt : Option Timestamp
  version : Nat
  status : MemoryStatus
  rollbackReason : Option String
  supportingTaskIds : List TaskId
  invalidationRefs : List String
  claim : Option MemoryClaim
  promotionReviewer : Option String
  helpfulCount : Nat
  irrelevantCount : Nat
  incorrectCount : Nat
  accessCount : Nat
  lastAccessedAt : Option Timestamp
deriving DecidableEq

inductive MemoryError
| io (message : String)
| promotionRejected (reason : String)
| notFound (memoryId : MemoryId)
| limit (message : String)
deriving DecidableEq

/- Whether the time of a record has come. -/
def MemoryRecord.expiredBy (record : MemoryRecord) (now : Timestamp) : Bool :=
  record.expiresAt.any (·.nanos ≤ now.nanos)

inductive MemoryPromotionDecisionKind
| approve
| reject
| needsHumanReview
deriving DecidableEq

structure MemoryPromotionDecision where
  decision : MemoryPromotionDecisionKind
  reason : String
  reviewer : Option String

/- What is not modelled: letters, secrets, dates and sizes. -/
structure MemoryLibrary where
  toLowercase : String → String
  isAlphanumeric : Char → Bool
  containsSecret : String → Bool
  parseInstant : String → Except String Timestamp
  encodedSize : List MemoryRecord → Nat

namespace MemoryLibrary

variable (library : MemoryLibrary)

/- The words of a text that are at least two letters long. -/
def terms (value : String) : List String :=
  (((value.toList.splitOnP (fun c => !library.isAlphanumeric c && c ≠ '_' && c ≠ '-')).map
    (fun part => library.toLowercase (String.ofList part))).filter
      (fun term => 2 ≤ term.length)).dedup

/- The text in lower case, with single spaces. -/
def normalizeContent (value : String) : String := library.toLowercase
  (String.intercalate " " ((Text.words value.toList).map String.ofList))

/- The terms have four fifths in common. -/
def contradictory (left right : List String) : Bool := 0 < (left ∪ right).length &&
    80 ≤ (left ∩ right).length * 100 / (left ∪ right).length

/- The active memories that a content contradicts. -/
def contradictionIdsFromRecords (now : Timestamp) (records : List MemoryRecord)
    (content : String) (scope : MemoryScope) : List String :=
  if library.terms content = [] then []
  else
    (records.filter (fun record =>
      record.status = .active && record.scope = scope && !record.expiredBy now &&
        library.normalizeContent record.content ≠ library.normalizeContent content &&
        contradictory (library.terms content) (library.terms record.content))).map
            (·.memoryId.toText)

def maxMemoryContentBytes : Nat := 64 * 1024

def minimumConfidence : Nat := 75

variable (candidate : MemoryCandidate) (content : String)

/- Why a candidate is rejected, if it is. -/
def rejection : Option String :=
  if candidate.evidenceIds = [] then some "memory candidate has no durable evidence"
  else if candidate.confidence < minimumConfidence then
    some "memory candidate confidence is below the promotion threshold"
  else if candidate.contradictionIds ≠ [] then some "memory candidate has unresolved contradictions"
  else if Text.isBlank content then some "memory candidate content is empty"
  else if maxMemoryContentBytes < content.utf8ByteSize then
    some "memory candidate content exceeds the promotion limit"
  else if library.containsSecret content then some "memory candidate may contain a secret"
  else none

/- Only memories of a project are approved without a human. -/
def evaluate : MemoryPromotionDecision :=
  match library.rejection candidate content with
  | some reason => ⟨.reject, reason, none⟩
  | none =>
    if candidate.proposedScope ≠ .project then
      ⟨.needsHumanReview, "user/global memory requires explicit human review", none⟩
    else ⟨.approve, "evidence-backed project memory passed the promotion gate", some "system"⟩

end MemoryLibrary

/- A library for texts of small ASCII letters. -/
def asciiLibrary : MemoryLibrary :=
  { toLowercase := fun text => text
    isAlphanumeric := Char.isAlphanum
    containsSecret := fun _ => false
    parseInstant := fun text => .error text
    encodedSize := List.length }

example : asciiLibrary.terms "use tabs, a tab" = ["use", "tabs", "tab"] := by decide +kernel

variable (record : MemoryRecord)

/- A record that was activated without a review. -/
def MemoryRecord.isLegacyAutomaticMemory : Bool :=
  record.status = .active && record.scope = .project &&
    record.claim.isNone && record.supportingTaskIds = [] &&
    record.promotionReviewer.all (fun reviewer => reviewer = "system")

def MemoryRecord.migrate : MemoryRecord :=
  if record.isLegacyAutomaticMemory then
    { record with
      status := .quarantined
      invalidationRefs := record.invalidationRefs ++
        ["legacy single-task project memory requires independent evidence or review"] }
  else record

def MemoryRecord.dueAt (now : Timestamp) : Bool := record.status = .active && record.expiredBy now

def MemoryRecord.expire (now : Timestamp) (record : MemoryRecord) : MemoryRecord :=
  if record.dueAt now then
    { record with
      status := .expired
      invalidationRefs := record.invalidationRefs ++ ["memory expiry reached"] }
  else record

def migrateLegacyActiveMemory (records : List MemoryRecord) : List MemoryRecord :=
  records.map MemoryRecord.migrate

variable (now : Timestamp) (records : List MemoryRecord)

def markExpired : List MemoryRecord := records.map (MemoryRecord.expire now)

/- What the store looks like before it is changed. -/
def upkeep : List MemoryRecord := markExpired now (migrateLegacyActiveMemory records)

def nextMemoryVersion (records : List MemoryRecord) : Nat :=
  min (((records.map MemoryRecord.version).max?.getD 0) + 1) (2 ^ 64 - 1)

end

/- How the store notices that its file has changed. -/
structure MemoryFileFingerprint where
  len : Nat
  modifiedNanos : Nat
deriving DecidableEq

/- A state file, with the records that its bytes encode. -/
structure MemoryFile where
  fingerprint : MemoryFileFingerprint
  records : List MemoryRecord

structure MemorySearchIndex where
  terms : List String
  normalizedContent : String

/- The records of a file with their terms, as of a fingerprint. -/
structure MemoryCacheEntry where
  fingerprint : Option MemoryFileFingerprint
  records : List MemoryRecord
  searchIndex : List MemorySearchIndex
  termIndex : InvertedIndex String

def MemoryCacheEntry.empty (fingerprint : Option MemoryFileFingerprint) : MemoryCacheEntry :=
  ⟨fingerprint, [], [], []⟩

structure MemoryStore where
  path : Option String
  file : Option MemoryFile
  cachedRecords : Option MemoryCacheEntry

def maxMemoryStateBytes : Nat := 32 * 1024 * 1024

variable (library : MemoryLibrary)

def MemoryLibrary.searchIndexOf (record : MemoryRecord) : MemorySearchIndex :=
  ⟨library.terms record.content, library.normalizeContent record.content⟩

def MemoryLibrary.entryOf (fingerprint : Option MemoryFileFingerprint)
    (records : List MemoryRecord) : MemoryCacheEntry :=
  { fingerprint
    records
    searchIndex := records.map library.searchIndexOf
    termIndex := .ofDocuments ((records.map library.searchIndexOf).map MemorySearchIndex.terms) }

namespace MemoryStore

variable (library : MemoryLibrary)

/- `MemoryStore::new` and `MemoryStore::in_memory`. -/
def new (path : String) (file : Option MemoryFile) : MemoryStore := ⟨some path, file, none⟩

def inMemory : MemoryStore := ⟨none, none, none⟩

def updateCachedRecords (fingerprint : Option MemoryFileFingerprint)
    (records : List MemoryRecord) (store : MemoryStore) : MemoryStore :=
  { store with cachedRecords := some (library.entryOf fingerprint records) }

def readMemoryFileSnapshot (path : String) :
    Option MemoryFile → Except MemoryError (Option MemoryFileFingerprint × List MemoryRecord)
| none => .ok (none, [])
| some file =>
  if maxMemoryStateBytes < file.fingerprint.len then
    .error (.limit (path ++ " exceeds " ++ toString maxMemoryStateBytes ++ " bytes"))
  else .ok (some file.fingerprint, file.records)

/- A store with a path reads its file again. -/
def loadUnlocked (store : MemoryStore) : Except MemoryError (List MemoryRecord) × MemoryStore :=
  match store.path with
  | none => (.ok ((store.cachedRecords.map MemoryCacheEntry.records).getD []), store)
  | some path =>
    match readMemoryFileSnapshot path store.file with
    | .error error => (.error error, store)
    | .ok (fingerprint, records) =>
      (.ok records, store.updateCachedRecords library fingerprint records)

/- The snapshot that fits the file, read again if need be. -/
def loadCachedForRead (store : MemoryStore) : Except MemoryError MemoryCacheEntry × MemoryStore :=
  match store.path with
  | none => (.ok (store.cachedRecords.getD (.empty none)), store)
  | some path =>
    match store.cachedRecords.filter (·.fingerprint = store.file.map MemoryFile.fingerprint) with
    | some entry => (.ok entry, store)
    | none =>
      match readMemoryFileSnapshot path store.file with
      | .error error => (.error error, store)
      | .ok (fingerprint, records) =>
        (.ok (library.entryOf fingerprint records),
          store.updateCachedRecords library fingerprint records)

/- The cache gets what the file gets. -/
def saveUnlocked (modifiedNanos : Nat) (records : List MemoryRecord)
    (store : MemoryStore) : Except MemoryError Unit × MemoryStore :=
  if maxMemoryStateBytes < library.encodedSize records then
    (.error (.limit ("serialized state exceeds " ++
      toString maxMemoryStateBytes ++ " bytes")), store)
  else
    match store.path with
    | none => (.ok (), store.updateCachedRecords library none records)
    | some _ =>
      let fingerprint : MemoryFileFingerprint := ⟨library.encodedSize records, modifiedNanos⟩
      (.ok (), { store with
        file := some ⟨fingerprint, records⟩
        }.updateCachedRecords library (some fingerprint) records)

/- The record that a call changed, and the store it leaves. -/
abbrev RecordResult : Type := Except MemoryError MemoryRecord × MemoryStore

/- Load, change and save, under the locks of the store. -/
def edit (modifiedNanos : Nat)
    (change : List MemoryRecord → Except MemoryError (List MemoryRecord × MemoryRecord))
    (store : MemoryStore) : RecordResult :=
  match store.loadUnlocked library with
  | (.error error, loaded) => (.error error, loaded)
  | (.ok records, loaded) =>
    match change records with
    | .error error => (.error error, loaded)
    | .ok (records, record) =>
      match loaded.saveUnlocked library modifiedNanos records with
      | (.error error, loaded) => (.error error, loaded)
      | (.ok (), saved) => (.ok record, saved)

/- Change the first record that has an identifier. -/
def changeRecord (memoryId : MemoryId) (change : MemoryRecord → Except MemoryError MemoryRecord)
    (records : List MemoryRecord) : Except MemoryError (List MemoryRecord × MemoryRecord) :=
  match records.find? (·.memoryId = memoryId) with
  | none => .error (.notFound memoryId)
  | some record =>
    match change record with
    | .error error => .error error
    | .ok changed =>
      .ok (KeyedList.modifyFirst MemoryRecord.memoryId memoryId (fun _ => changed) records, changed)

variable (now : Timestamp)

/- What `list` saves; expiry waits while there is legacy. -/
def listed (records : List MemoryRecord) : List MemoryRecord :=
  if records.any MemoryRecord.isLegacyAutomaticMemory then migrateLegacyActiveMemory records
  else markExpired now records

def list (modifiedNanos : Nat) (store : MemoryStore) :
    Except MemoryError (List MemoryRecord) × MemoryStore :=
  match store.loadUnlocked library with
  | (.error error, loaded) => (.error error, loaded)
  | (.ok records, loaded) =>
    if records.any (fun record =>
      record.isLegacyAutomaticMemory || record.dueAt now) then
      match loaded.saveUnlocked library modifiedNanos (listed now records) with
      | (.error error, loaded) => (.error error, loaded)
      | (.ok (), saved) => (.ok (listed now records), saved)
    else (.ok records, loaded)

end MemoryStore

def thirtyDays : Int := 30 * 86400 * 1000000000

namespace MemoryLibrary

variable (library : MemoryLibrary)

/- Sort, and keep one of each. -/
def sortDedup {α : Type} [DecidableEq α] (before : α → α → Bool) (items : List α) : List α :=
  (items.insertionSort (fun a b => before a b)).dedup

/- The candidate with the contradictions the store found. -/
def checkedCandidate (now : Timestamp) (records : List MemoryRecord)
    (candidate : MemoryCandidate) (content : String) : MemoryCandidate :=
  { candidate with
    contradictionIds := sortDedup (fun a b : String => a ≤ b)
      (candidate.contradictionIds ++ library.contradictionIdsFromRecords now records
          content candidate.proposedScope) }

def candidateExpiry (candidate : MemoryCandidate) (now : Timestamp) :
    Except MemoryError (Option Timestamp) :=
  match candidate.expiry with
  | some text =>
    match library.parseInstant text with
    | .error error => .error (.io error)
    | .ok expiry => .ok (some expiry)
  | none =>
    if candidate.proposedScope = .project then .ok (some ⟨now.nanos + thirtyDays⟩)
    else .ok none

/- The claim of a candidate that comes without one. -/
def outcomeClaim (now : Timestamp) (candidateId : MemoryCandidateId)
    (candidate : MemoryCandidate) (content : String) : MemoryClaim :=
  { candidateId
    subject := "scope:" ++ candidate.proposedScope.name
    predicate := "verified_task_outcome"
    object := library.normalizeContent content
    scope := candidate.proposedScope.name
    sourceTaskRefs := [candidate.sourceTaskId]
    evidenceRefs := candidate.evidenceIds
    confidence := candidate.confidence
    validFrom := now
    expiresAt := candidate.expiry.bind (fun text => (library.parseInstant text).toOption)
    invalidationRefs := [] }

variable (now : Timestamp) (memoryId : MemoryId) (candidateId : MemoryCandidateId)
variable (candidate : MemoryCandidate) (content : String)

def quarantinedRecord (expiresAt : Option Timestamp) (records : List MemoryRecord) : MemoryRecord :=
  { memoryId
    content
    scope := candidate.proposedScope
    confidence := candidate.confidence
    sourceTaskId := candidate.sourceTaskId
    evidenceIds := candidate.evidenceIds
    contradictionIds := (library.checkedCandidate now records candidate content).contradictionIds
    createdAt := now
    expiresAt
    version := nextMemoryVersion records
    status := .quarantined
    rollbackReason := none
    supportingTaskIds := [candidate.sourceTaskId]
    invalidationRefs := []
    claim := some (candidate.claim.getD (library.outcomeClaim now candidateId candidate content))
    promotionReviewer := none
    helpfulCount := 0
    irrelevantCount := 0
    incorrectCount := 0
    accessCount := 0
    lastAccessedAt := none }

def quarantining (loaded : List MemoryRecord) :
    Except MemoryError (List MemoryRecord × MemoryRecord) :=
  let records := upkeep now loaded
  let decision := library.evaluate (library.checkedCandidate now records candidate content) content
  if decision.decision = .reject then .error (.promotionRejected decision.reason)
  else
    match library.candidateExpiry candidate now with
    | .error error => .error error
    | .ok expiresAt =>
      let record := library.quarantinedRecord now memoryId
        candidateId candidate content expiresAt records
      .ok (records ++ [record], record)

end MemoryLibrary

def MemoryStore.quarantine (library : MemoryLibrary) (now : Timestamp) (modifiedNanos : Nat)
    (memoryId : MemoryId) (candidateId : MemoryCandidateId) (candidate : MemoryCandidate)
    (content : String) (store : MemoryStore) : RecordResult :=
  store.edit library modifiedNanos (library.quarantining now memoryId candidateId candidate content)

/- What a task proposes that has evidence for it. -/
def projectCandidate : MemoryCandidate :=
  { claim := none
    sourceTaskId := ⟨.ofNat 2⟩
    evidenceIds := [⟨.ofNat 3⟩]
    proposedScope := .project
    confidence := 80
    contradictionIds := []
    expiry := none }

namespace MemoryRecord

variable (record : MemoryRecord) (supportingTaskIds : List TaskId)

/- The tasks that support a record, with those just given. -/
def tasksWith : List TaskId := MemoryLibrary.sortDedup
    (fun a b : TaskId => a.uuid.bits ≤ b.uuid.bits) (record.supportingTaskIds ++ supportingTaskIds)

/- There is the evidence that an activation asks for. -/
def supportedBy (humanApproved : Bool) : Bool :=
  2 ≤ (record.tasksWith supportingTaskIds).length || humanApproved

def activated (reviewer : Option String) : MemoryRecord :=
  { record with
    supportingTaskIds := record.tasksWith supportingTaskIds
    status := .active
    promotionReviewer := some (reviewer.getD "independent-task-evidence") }

def activate (supportingTaskIds : List TaskId) (reviewer : Option String)
    (humanApproved : Bool) (record : MemoryRecord) : Except MemoryError MemoryRecord :=
  if record.status ≠ .quarantined then
    .error (.promotionRejected ("memory " ++ record.memoryId.toText ++ " is not quarantined"))
  else if !record.supportedBy supportingTaskIds humanApproved then
    .error (.promotionRejected
      "memory activation requires two independent task evidences or human review")
  else .ok (record.activated supportingTaskIds reviewer)

/- The counters are 32 bits wide. -/
def saturate (count : Nat) : Nat := min count (2 ^ 32 - 1)

/- A record that must no longer be used, and why. -/
def invalidated (record : MemoryRecord) (status : MemoryStatus) (reason : String) : MemoryRecord :=
  { record with
    status
    invalidationRefs := record.invalidationRefs ++ [reason] }

def rolledBack (reason : String) (record : MemoryRecord) : MemoryRecord :=
  { record.invalidated .rolledBack reason with rollbackReason := some reason }

def withFeedback (feedback : MemoryFeedbackKind) (reason : String)
    (record : MemoryRecord) : MemoryRecord :=
  match feedback with
  | .helpful => { record with helpfulCount := saturate (record.helpfulCount + 1) }
  | .irrelevant => { record with irrelevantCount := saturate (record.irrelevantCount + 1) }
  | .incorrect =>
    rolledBack (if Text.isBlank reason then "memory marked incorrect by retrieval feedback"
      else reason)
      { record with incorrectCount := saturate (record.incorrectCount + 1) }

def explicitlyExpired (record : MemoryRecord) : MemoryRecord :=
  record.invalidated .expired "explicitly expired by runtime controller"

end MemoryRecord

namespace MemoryStore

variable (library : MemoryLibrary)

def activateQuarantinedWithAuthority (now : Timestamp) (modifiedNanos : Nat) (memoryId : MemoryId)
    (supportingTaskIds : List TaskId) (reviewer : Option String) (humanApproved : Bool)
    (store : MemoryStore) : RecordResult :=
  store.edit library modifiedNanos (fun records =>
    changeRecord memoryId (MemoryRecord.activate supportingTaskIds reviewer humanApproved)
      (upkeep now records))

variable (modifiedNanos : Nat) (memoryId : MemoryId)

/- Change one record in a way that cannot be refused. -/
def alter (change : MemoryRecord → MemoryRecord) (store : MemoryStore) : RecordResult :=
  store.edit library modifiedNanos (changeRecord memoryId (fun record => .ok (change record)))

def recordFeedback (feedback : MemoryFeedbackKind) (reason : String)
    (store : MemoryStore) : RecordResult :=
  store.alter library modifiedNanos memoryId (MemoryRecord.withFeedback feedback reason)

def rollback (reason : String) (store : MemoryStore) : RecordResult :=
  store.alter library modifiedNanos memoryId (MemoryRecord.rolledBack reason)

def expire (store : MemoryStore) : RecordResult :=
  store.alter library modifiedNanos memoryId MemoryRecord.explicitlyExpired

end MemoryStore

/- A candidate with the record that its place leads to. -/
structure ScoredMemory where
  record : MemoryRecord
  relevanceScore : Nat
  matchedTerms : List String

structure RetrievedMemory where
  record : MemoryRecord
  relevanceScore : Nat
  matchedTerms : List String
  reason : String
deriving DecidableEq

/- By score, then the youngest, then the last identifier. -/
def ScoredMemory.before (left right : ScoredMemory) : Bool :=
  right.relevanceScore < left.relevanceScore || (right.relevanceScore = left.relevanceScore &&
      (right.record.createdAt.nanos < left.record.createdAt.nanos ||
        (right.record.createdAt.nanos = left.record.createdAt.nanos &&
          right.record.memoryId.uuid.bits ≤ left.record.memoryId.uuid.bits)))

def ScoredMemory.retrieved (scored : ScoredMemory) : RetrievedMemory :=
  { record := scored.record
    relevanceScore := scored.relevanceScore
    matchedTerms := scored.matchedTerms
    reason := "matched " ++ toString scored.matchedTerms.length ++ " term(s), confidence " ++
      toString scored.record.confidence ++ ", helpful " ++
      toString scored.record.helpfulCount ++ ", irrelevant " ++
      toString scored.record.irrelevantCount }

/- The record may be shown, as far as its own fields say. -/
def MemoryRecord.eligible (record : MemoryRecord) (now : Timestamp) (scope : MemoryScope) : Bool :=
  record.status = .active && record.invalidationRefs = [] && !record.isLegacyAutomaticMemory &&
    record.scope = scope && !record.expiredBy now

namespace MemoryLibrary

variable (library : MemoryLibrary)

def matchedTerms (query : String) (index : MemorySearchIndex) : List String :=
  ((library.terms query).filter (fun term => term ∈ index.terms)).insertionSort (fun a b => a ≤ b)

variable (now : Timestamp) (query : String)

open MemoryRecord in
def relevanceScore (record : MemoryRecord) (index : MemorySearchIndex) : Nat :=
  let phraseBonus :=
    if library.normalizeContent query ≠ "" ∧
      Text.contains (library.normalizeContent query) index.normalizedContent then 200 else 0
  let recencyBonus :=
    if (now.nanos - record.createdAt.nanos).tdiv (86400 * 1000000000) ≤ 30 then 25 else 0
  let positive := saturate (saturate (saturate (saturate
    (saturate (library.matchedTerms query index).length *
      record.confidence) + phraseBonus) + recencyBonus) + saturate (record.helpfulCount * 50))
  positive - saturate (record.irrelevantCount * 100)

def scored (scope : MemoryScope) (cache : MemoryCacheEntry) (place : Nat) : Option ScoredMemory :=
  match cache.records[place]? with
  | none => none
  | some record =>
    if !record.eligible now scope then none
    else
      match cache.searchIndex[place]? with
      | none => none
      | some index =>
        if library.matchedTerms query index = [] then none
        else some {
          record
          relevanceScore := library.relevanceScore now query record index
          matchedTerms := library.matchedTerms query index }

def retrieved (scope : MemoryScope) (limit : Nat)
    (cache : MemoryCacheEntry) : List RetrievedMemory :=
  (Ranking.select ScoredMemory.before limit ((cache.termIndex.candidates
      (library.terms query)).filterMap
        (library.scored now query scope cache))).map ScoredMemory.retrieved

end MemoryLibrary

def MemoryStore.retrieve (library : MemoryLibrary) (now : Timestamp)
    (query : String) (scope : MemoryScope) (limit : Nat)
    (store : MemoryStore) : Except MemoryError (List RetrievedMemory) × MemoryStore :=
  if library.terms query = [] ∨ limit = 0 then (.ok [], store)
  else
    match store.loadCachedForRead library with
    | (.error error, store) => (.error error, store)
    | (.ok cache, store) => (.ok (library.retrieved now query scope limit cache), store)

end GolutraAgent.Memory
