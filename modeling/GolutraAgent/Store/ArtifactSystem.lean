import GolutraAgent.Store.ArtifactSafety

/-
  This file proves that artifact blobs never dangle: in every run of the
  operations that hold the artifact lock, with failures and crashes at any step
  and with all that the store does outside of the lock, the blob of every live
  artifact is there with its checksum, and evidence refers to live artifacts
  only.

  The declared size of an artifact is that of its blob if every caller that
  stores a single artifact declares it so. Bundles are checked for that; single
  artifacts are not.

  Main declarations:
    * `artifactBlobs_neverDangle`
    * `misdeclaredSize_dangles`
-/

namespace GolutraAgent.Store

open ArtifactStore

/- The operations that take the artifact lock. -/
inductive ArtifactCall
| storeArtifact (artifact : ArtifactRecord) (bytes : List UInt8)
| appendToolCompletedBundle (event : RuntimeEvent) (artifacts : List (ArtifactRecord × List UInt8))
    (evidence : List EvidenceRecord)
| storeEvidence (evidence : EvidenceRecord)
| runArtifactMaintenance (now : Timestamp)

def ArtifactCall.program (store : ArtifactSettings) : ArtifactCall → ArtifactProgram Unit
| .storeArtifact artifact bytes => storeArtifactInner store artifact bytes
| .appendToolCompletedBundle event artifacts evidence => do
    let _ ← appendToolCompletedBundleInner store event artifacts evidence
    return ()
| .storeEvidence evidence => storeEvidenceInner evidence
| .runArtifactMaintenance now => do
    let _ ← runArtifactMaintenanceInner store now
    return ()

/- A write that does not touch what the lock protects. -/
structure OutsideWrite where
  write : Database → Database
  artifactRecords : ∀ database, (write database).artifactRecords = database.artifactRecords
  evidenceRecords : ∀ database, (write database).evidenceRecords = database.evidenceRecords

/- The transactions that append events, but for bundles. -/
def StoreOp.outsideWrite (op : StoreOp) (hArtifacts : .artifactRecords ∉ op.changes)
    (hEvidence : .evidenceRecords ∉ op.changes) : OutsideWrite where
  write := fun database => op.commit database
  artifactRecords := fun database => (op.commit_effect database).artifactRecords hArtifacts
  evidenceRecords := fun database => (op.commit_effect database).evidenceRecords hEvidence

abbrev ArtifactSystem := Locked artifactInterface ArtifactWorld StoreError Unit

abbrev ArtifactOp := LockedOp ArtifactCall StepChoice OutsideWrite

namespace ArtifactSystem

def initial : ArtifactSystem := ⟨⟨.empty, .empty⟩, none⟩

variable (store : ArtifactSettings)

def step : ArtifactSystem → ArtifactOp → ArtifactSystem :=
  Locked.step ArtifactCommand.handle (ArtifactCall.program store) (fun world outside =>
      { world with database := outside.write world.database })

def run (ops : List ArtifactOp) : ArtifactSystem := Machine.run (step store) initial ops

end ArtifactSystem

section

variable {describes : ArtifactRecord → List UInt8 → Prop} (store : ArtifactSettings)

/-
  A blob is described by what the call checks: its checksum, and in a bundle
  also its size.
-/
theorem ArtifactCall.program_safe (call : ArtifactCall)
    (hSingle : ∀ artifact bytes, call = .storeArtifact artifact bytes →
        store.artifactChecksum bytes = artifact.checksum → describes artifact bytes)
    (hBundle : ∀ artifact bytes, store.artifactChecksum bytes = artifact.checksum →
        artifact.sizeBytes = bytes.length → describes artifact bytes)
    {v : ArtifactStore} (hSound : v.Sound describes) :
    (call.program store).Safe describes (fun _ => Sound describes) v := by
  cases call with
  | storeArtifact artifact bytes =>
    exact storeArtifactInner_safe store hSound (hSingle artifact bytes rfl)
  | appendToolCompletedBundle event artifacts evidence =>
    apply ArtifactProgram.Safe.bind
    exact appendToolCompletedBundleInner_safe store hSound (fun entry _ => hBundle entry.1 entry.2)
  | storeEvidence evidence => exact storeEvidenceInner_safe hSound evidence
  | runArtifactMaintenance now =>
    apply ArtifactProgram.Safe.bind
    exact runArtifactMaintenanceInner_safe store hSound now

theorem sound_empty : ArtifactSystem.initial.world.store.Sound describes where
  blob := fun row hRow => by cases hRow
  evidence := fun record hRecord => by cases hRecord

theorem ArtifactSystem.run_sound (ops : List ArtifactOp)
    (hSingle : ∀ artifact bytes, .enter (.storeArtifact artifact bytes) ∈ ops →
        store.artifactChecksum bytes = artifact.checksum → describes artifact bytes)
    (hBundle : ∀ artifact bytes, store.artifactChecksum bytes = artifact.checksum →
        artifact.sizeBytes = bytes.length → describes artifact bytes) :
    (ArtifactSystem.run store ops).world.store.Sound describes := by
  refine Locked.run_invariant (fun v world => world.store = v) (fun _ _ => rfl) ?_ ?_ sound_empty
  · intro world outside hSound
    have hStore : ArtifactWorld.store { world with
        database := outside.write world.database } = world.store := by
      simp [ArtifactWorld.store, outside.artifactRecords, outside.evidenceRecords]
    rw [hStore]
    exact ⟨hSound, fun _ hMet => hMet⟩
  · intro call hCall v hSound
    refine Program.Keeps.mono (fun _ _ _ => trivial) (fun _ _ _ => trivial)
      (call.program_safe store ?_ hBundle hSound)
    rintro artifact bytes rfl
    exact hSingle artifact bytes hCall

end

/-
  A row that is no tombstone has a blob of its declared size and checksum, and
  evidence refers to such rows only.
-/
structure NoDanglingBlobs (store : ArtifactSettings) (world : ArtifactWorld) : Prop where
  blob : ∀ row ∈ world.database.artifactRecords.rows, row.blobDeletedAt = none →
      ∃ file, world.files.find? (.blob row.artifactId) = some file ∧
        file.content.length = row.artifact.sizeBytes ∧
        store.artifactChecksum file.content = row.artifact.checksum
  evidence : ∀ record ∈ world.database.evidenceRecords.rows, ∀ artifactId ∈ record.artifactRefs,
      ∃ row ∈ world.database.artifactRecords.rows,
        row.artifactId = artifactId ∧ row.blobDeletedAt = none

/- What holds whatever sizes the callers declare. -/
theorem artifactBlobs_checksummed (store : ArtifactSettings) (ops : List ArtifactOp) :
    (ArtifactSystem.run store ops).world.store.Sound (fun artifact bytes =>
        store.artifactChecksum bytes = artifact.checksum) :=
  ArtifactSystem.run_sound store ops (fun _ _ _ hChecksum => hChecksum)
    (fun _ _ hChecksum _ => hChecksum)

theorem artifactBlobs_neverDangle (store : ArtifactSettings) (ops : List ArtifactOp)
    (hSizes : ∀ artifact bytes, .enter (.storeArtifact artifact bytes) ∈ ops →
        artifact.sizeBytes = bytes.length) :
    NoDanglingBlobs store (ArtifactSystem.run store ops).world := by
  have hSound := ArtifactSystem.run_sound store ops (fun artifact bytes hCall hChecksum =>
      And.intro (hSizes artifact bytes hCall) hChecksum)
    (fun artifact bytes hChecksum hSize => And.intro hSize hChecksum)
  constructor
  · intro row hRow hLive
    obtain ⟨bytes, ⟨file, hFile, rfl⟩, hSize, hChecksum⟩ := hSound.blob row hRow hLive
    exact ⟨file, hFile, hSize.symm, hChecksum⟩
  · intro record hRecord artifactId hReference
    obtain ⟨row, hFind, hLive⟩ := hSound.evidence record hRecord artifactId hReference
    obtain ⟨hRow, hName⟩ := Table.find?_eq_some_iff.1 hFind
    exact ⟨row, hRow, hName, hLive⟩

/- A checksum that tells all contents apart. -/
def sampleSettings : ArtifactSettings where
  artifactRoot := "artifacts"
  artifactChecksum := fun bytes =>
    "sha256:" ++ String.ofList (bytes.map (fun byte => Char.ofNat byte.toNat))

def sampleArtifact (sizeBytes : Nat) : ArtifactRecord := ⟨⟨.ofNat 1⟩, ⟨.ofNat 2⟩, none, none,
    "tool_output", "artifact://1", "sha256:hi", sizeBytes, ⟨0⟩, "tool", .notRequired,
    "debug_default", []⟩

def sampleEvidence : EvidenceRecord := ⟨⟨.ofNat 4⟩, "the tool ran", [⟨.ofNat 1⟩], [], .strong,
    "host", 0, ""⟩

/- A call, and some of its steps, none of which fails. -/
def callSteps (call : ArtifactCall) (suffix : Uuid) (steps : Nat) : List ArtifactOp :=
  .enter call :: List.replicate steps (.advance ⟨none, ⟨0⟩, suffix⟩)

/-
  A process crashes after it linked a blob, and the artifact is stored again.
  Evidence refers to it when its time has come.
-/
def crashedRun : List ArtifactOp :=
  callSteps (.storeArtifact (sampleArtifact 2) [104, 105]) (.ofNat 5) 9 ++
    [.crash] ++ callSteps (.storeArtifact (sampleArtifact 2) [104, 105]) (.ofNat 6) 15 ++
    callSteps (.storeEvidence sampleEvidence) (.ofNat 7) 4 ++
    callSteps (.runArtifactMaintenance ⟨31 * nanosPerDay⟩) (.ofNat 8) 12

theorem artifactBlobs_afterCrash :
    (ArtifactSystem.run sampleSettings crashedRun).world.database.evidenceRecords.rows =
      [sampleEvidence] ∧ NoDanglingBlobs sampleSettings (ArtifactSystem.run sampleSettings
          crashedRun).world := by
  refine ⟨by decide, artifactBlobs_neverDangle sampleSettings crashedRun ?_⟩
  intro artifact bytes hCall
  simp [crashedRun, callSteps] at hCall
  obtain ⟨rfl, rfl⟩ := hCall
  rfl

/- A single artifact may declare a size that is not its own. -/
theorem misdeclaredSize_dangles :
    ¬ NoDanglingBlobs sampleSettings (ArtifactSystem.run sampleSettings
        (callSteps (.storeArtifact (sampleArtifact 7) [104, 105]) (.ofNat 5) 15)).world := by
  intro hBlobs
  obtain ⟨file, hFile, hSize, -⟩ := hBlobs.blob ⟨sampleArtifact 7, some ⟨30 * nanosPerDay⟩, none⟩
    (by decide) rfl
  have hContent : (ArtifactSystem.run sampleSettings (callSteps (.storeArtifact (sampleArtifact 7)
        [104, 105]) (.ofNat 5) 15)).world.files.rows.map
          (·.content.length) = [2] := by
    decide
  have hLength := List.mem_map_of_mem (f := fun file => file.content.length)
    (Table.find?_eq_some_iff.1 hFile).1
  rw [hContent, hSize] at hLength
  simp [sampleArtifact] at hLength

end GolutraAgent.Store
