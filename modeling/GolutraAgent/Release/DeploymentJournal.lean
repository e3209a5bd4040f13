import GolutraAgent.Library.WriteAhead
import GolutraAgent.Release.Deployments

/-
  This file models how the release store keeps its deployment log and its
  pointer files together: each deployment is a transaction of a write-ahead
  journal, and each call first completes the one that a crash may have left, and
  compares the pointers with the replay of the log.

  The text of a record, its digest and the size of a pending file are
  parameters.

  Main declarations:
    * `deploy_runs`
    * `deployments_replayed`
-/

namespace GolutraAgent.Release

open LineLog WriteAhead

def maxDeploymentStateBytes : Nat := 64 * 1024 * 1024

structure ReleaseLibrary where
  codec : LineCodec DeploymentRecord
  sha256 : Bytes → String
  pendingSize : DeploymentRecord → Pointers → Nat
  ensureManifest : Manifests

abbrev DeploymentFiles := JournalFiles DeploymentRecord Pointers Pointers

abbrev DeploymentProgram (α : Type) :=
  JournalProgram DeploymentRecord Pointers Pointers ReleaseError α

abbrev PendingDeployment := Pending DeploymentRecord Pointers

def emptyFiles : DeploymentFiles := ⟨none, none, .empty, []⟩

def deploymentFault : JournalFault → ReleaseError
| .log .oversized => .integrity "deployment log violates its file boundary"
| .log .notText => .io "stream did not contain valid UTF-8"
| .log (.malformed line) => .json ("record at line " ++ toString line)
| .log (.chain _ sequence) =>
  .integrity ("deployment log chain is broken at record " ++ toString sequence)
| .log (.digest sequence) =>
  .integrity ("deployment log digest mismatch at record " ++ toString sequence)
| .pendingDigest => .integrity "pending deployment digest is invalid"
| .conflict => .integrity "deployment log conflicts with pending deployment"
| .notExtending | .notSealed => .integrity "pending deployment does not extend the deployment log"
| .logTooLarge => .invalid "deployment log exceeds its size limit"

section

variable (library : ReleaseLibrary)

def deploymentDigest (record : DeploymentRecord) (previousDigest : String) : String :=
  "sha256:" ++ library.sha256 (library.codec.encode { record with
      digest := ""
      previousDigest := previousDigest })

def deploymentChain : Chain DeploymentRecord where
  sequence := DeploymentRecord.sequence
  previous := DeploymentRecord.previousDigest
  digest := DeploymentRecord.digest
  sealOf := fun record => deploymentDigest library record record.previousDigest

/- Pointer files are written or removed one by one. -/
def pointerWrite (pointers : Pointers) (name : PointerName) : Write Pointers ReleaseError where
  check :=
    match pointers.get name with
    | none => .ok ()
    | some pointer => library.ensureManifest pointer.releaseId
  change := fun files => files.set name (pointers.get name)

def applyPointerState (pointers : Pointers) : List (Write Pointers ReleaseError) :=
  [.previousStable, .stable, .preview, .canary].map (pointerWrite library pointers)

def deploymentJournal : WriteAhead DeploymentRecord Pointers Pointers ReleaseError where
  codec := library.codec
  chain := deploymentChain library
  limit := maxDeploymentStateBytes
  checkTarget := fun _ => .ok ()
  writes := applyPointerState library
  final := id
  writes_final := fun _ _ => rfl
  fault := deploymentFault

def checkPointer (name : PointerName) (expected actual : Option String) :
    Except ReleaseError Unit :=
  if actual = expected then .ok ()
  else
    .error (.integrity ("release pointer " ++ name.toText ++ " does not match the deployment log"))

/- The pointers are compared in the order of their names. -/
def checkPointers (expected actual : DeployedIds) : Except ReleaseError Unit := do
  checkPointer .canary expected.canary actual.canary
  checkPointer .preview expected.preview actual.preview
  checkPointer .previousStable expected.previousStable actual.previousStable
  checkPointer .stable expected.stable actual.stable

def verifyPointerStateAgainstLog : DeploymentProgram Unit := do
  let records ← (deploymentJournal library).verify
  let pointers ← WriteAhead.readData
  Program.ofExcept (checkPointers (replay records) pointers.ids)

def recoverDeployment : DeploymentProgram Unit := do
  (deploymentJournal library).recover
  verifyPointerStateAgainstLog library

variable (records : List DeploymentRecord) (deployment : Deployment) (now : Timestamp)

def unsignedRecord : DeploymentRecord where
  sequence := records.length + 1
  phase := deployment.phase
  releaseId := deployment.releaseId
  previousReleaseId := deployment.previousReleaseId
  reason := Text.bounded deployment.reason 512
  recordedAt := now
  previousDigest := (deploymentChain library).lastDigest records
  digest := ""

def deploymentRecord : DeploymentRecord :=
  let record := unsignedRecord library records deployment now
  { record with digest := deploymentDigest library record record.previousDigest }

def prepareDeployment : Except ReleaseError PendingDeployment :=
  let record := deploymentRecord library records deployment now
  if library.pendingSize record deployment.pointers > maxDeploymentStateBytes then
    .error (.invalid "pending deployment exceeds its size limit")
  else .ok ⟨record, deployment.pointers⟩

def commitDeployment (deployment : Deployment) (now : Timestamp) : DeploymentProgram Unit := do
  let records ← (deploymentJournal library).verify
  let pending ← Program.ofExcept (prepareDeployment library records deployment now)
  (deploymentJournal library).commit pending records

structure DeployRequest where
  call : DeploymentCall
  now : Timestamp

variable (request : DeployRequest)

/- A call after it recovered the store. -/
def deployRecovered : DeploymentProgram ReleasePointer := do
  let pointers ← WriteAhead.readData
  let planned ← Program.ofExcept (request.call.plan library.ensureManifest request.now pointers)
  commitDeployment library planned.2 request.now
  return planned.1

def deploy : DeploymentProgram ReleasePointer := do
  Program.ofExcept request.call.checkReason
  recoverDeployment library
  deployRecovered library request

end

section

variable (library : ReleaseLibrary)

/- The pointers that the committed deployments left. -/
def deployed (committed : List PendingDeployment) : Pointers :=
  (deploymentJournal library).contents .empty committed

variable (request : DeployRequest)

/- The answer of a call, and the deployment it commits. -/
def outcome (committed : List PendingDeployment) : Except ReleaseError
      (ReleasePointer × PendingDeployment) := do
  request.call.checkReason
  let planned ← request.call.plan library.ensureManifest request.now (deployed library committed)
  let pending ← prepareDeployment library (WriteAhead.recordsOf committed) planned.2 request.now
  return (planned.1, pending)

/- The log has room for the record of a call. -/
def RoomFor (files : DeploymentFiles) : Prop :=
  ∀ pointer pending, outcome library request files.committed = .ok (pointer, pending) →
      (written library.codec (WriteAhead.recordsOf files.committed ++
          [pending.record])).length ≤ maxDeploymentStateBytes

/- The pointers are those that the records replay to. -/
def Replayed (committed : List PendingDeployment) : Prop :=
  (deployed library committed).ids = replay (WriteAhead.recordsOf committed)

end

section

variable {library : ReleaseLibrary} {request : DeployRequest}
variable {committed : List PendingDeployment} {pointer : ReleasePointer}
variable {pending : PendingDeployment}

theorem deployable_of_sound (hSound : (deploymentJournal library).Sound committed) :
    Deployable library.ensureManifest (deployed library committed) := by
  rcases List.eq_nil_or_concat committed with rfl | ⟨before, last, rfl⟩
  · intro name pointer hGet
    cases name <;> cases hGet
  · rw [List.concat_eq_append] at ⊢
    have hChecks := (hSound.applies last (by simp)).2
    intro name pointer hGet
    rw [deployed, contents_concat] at hGet
    have hCheck := hChecks (pointerWrite library last.target name) (by
        cases name <;> simp [deploymentJournal, applyPointerState])
    change last.target.get name = some pointer at hGet
    simpa only [pointerWrite, hGet] using hCheck

theorem applies_of_deployable {pointers : Pointers} (hDeployable :
      Deployable library.ensureManifest pointers) :
    (deploymentJournal library).Applies pointers := by
  refine ⟨rfl, ?_⟩
  intro write hWrite
  obtain ⟨name, -, rfl⟩ := List.mem_map.1 hWrite
  cases hGet : pointers.get name with
  | none => simp only [pointerWrite, hGet]
  | some pointer => simpa only [pointerWrite, hGet] using hDeployable name pointer hGet

theorem outcome_eq_ok (hOutcome : outcome library request committed = .ok (pointer, pending)) :
    ∃ deployment, request.call.checkReason = .ok () ∧
      request.call.plan library.ensureManifest request.now (deployed library committed) =
        .ok (pointer, deployment) ∧
      prepareDeployment library (WriteAhead.recordsOf committed) deployment request.now =
        .ok pending := by
  obtain ⟨⟨⟩, hReason, hOutcome⟩ := Transaction.bind_eq_ok.1 hOutcome
  obtain ⟨⟨planned, deployment⟩, hPlan, hOutcome⟩ := Transaction.bind_eq_ok.1 hOutcome
  obtain ⟨prepared, hPrepare, hOutcome⟩ := Transaction.bind_eq_ok.1 hOutcome
  cases hOutcome
  exact ⟨deployment, hReason, hPlan, hPrepare⟩

theorem prepareDeployment_eq_ok {records : List DeploymentRecord} {deployment : Deployment}
    {now : Timestamp} (hPrepare : prepareDeployment library records deployment now = .ok pending) :
    pending = ⟨deploymentRecord library records deployment now, deployment.pointers⟩ := by
  dsimp only [prepareDeployment] at hPrepare
  split at hPrepare
  · cases hPrepare
  · cases hPrepare
    rfl

/- A deployment that has room extends the sound ones. -/
theorem sound_concat (hSound : (deploymentJournal library).Sound committed)
    (hOutcome : outcome library request committed = .ok (pointer, pending))
    (hRoom : (written library.codec
      (WriteAhead.recordsOf committed ++ [pending.record])).length ≤ maxDeploymentStateBytes) :
    (deploymentJournal library).Sound (committed ++ [pending]) := by
  obtain ⟨deployment, -, hPlan, hPrepare⟩ := outcome_eq_ok hOutcome
  obtain rfl := prepareDeployment_eq_ok hPrepare
  exact hSound.concat ⟨rfl, rfl⟩ rfl hRoom (applies_of_deployable
      (plan_manifests hPlan (deployable_of_sound hSound)))

theorem replayed_concat (hReplayed : Replayed library committed)
    (hOutcome : outcome library request committed = .ok (pointer, pending)) :
    Replayed library (committed ++ [pending]) := by
  obtain ⟨deployment, -, hPlan, hPrepare⟩ := outcome_eq_ok hOutcome
  obtain rfl := prepareDeployment_eq_ok hPrepare
  have hPrevious : (deployed library committed).stable = none →
        (deployed library committed).previousStable = none := by
    intro hStable
    have hIds := congrArg DeployedIds.stable hReplayed
    have hOther := congrArg DeployedIds.previousStable hReplayed
    rw [Pointers.ids, hStable] at hIds
    rw [replay_previousStable _ hIds.symm] at hOther
    exact Option.map_eq_none_iff.1 hOther
  unfold Replayed
  rw [recordsOf_concat, replay_concat, ← hReplayed, deployed, contents_concat]
  exact plan_after hPlan hPrevious

end

section

variable {library : ReleaseLibrary} {files : DeploymentFiles}

/- The files at any time, and where a call can begin. -/
abbrev DeploymentInv (library : ReleaseLibrary) :=
  (deploymentJournal library).Consistent .empty (Replayed library)

abbrev DeploymentRest (library : ReleaseLibrary) :=
  (deploymentJournal library).Recoverable .empty (Replayed library)

abbrev DeploymentSettled (library : ReleaseLibrary) := (deploymentJournal library).Completes .empty

theorem checkPointers_same (ids : DeployedIds) : checkPointers ids ids = .ok () := by
  simp [checkPointers, checkPointer, bind, Except.bind]

theorem verifyPointerState_reads (hReadable : (deploymentJournal library).Readable .empty files)
    (hReplayed : Replayed library files.committed) : Program.Reads JournalCommand.handle files
      (verifyPointerStateAgainstLog library) (.done ()) := by
  refine verify_reads hReadable.verifies (.perform rfl ?_)
  change Program.Reads _ _ (Program.ofExcept (checkPointers _ files.data.ids)) _
  rw [hReadable.data]
  change Program.Reads _ _ (Program.ofExcept (checkPointers _ (deployed library _).ids)) _
  rw [hReplayed, checkPointers_same]
  exact .refl _

theorem recoverDeployment_runs (hFiles : DeploymentRest library files) :
    WriteAhead.Runs (DeploymentInv library) (fun _ => DeploymentSettled library files.committed)
      (fun _ _ => False) (recoverDeployment library)
      files := by
  refine (recover_runs hFiles).andThen ?_
  rintro - files' ⟨hSettled, hCommitted⟩
  have hSound := hFiles.sound
  have hReplayed := hFiles.valid
  rw [← hCommitted] at hSound hReplayed ⊢
  exact (verifyPointerState_reads (hSettled.readable hSound) hReplayed).runs
      (hSettled.consistent hSound hReplayed) ⟨hSettled, rfl⟩

variable {request : DeployRequest}

theorem deploy_of_reason (hReason : request.call.checkReason = .ok ()) :
    deploy library request = (do
      (deploymentJournal library).recover
      verifyPointerStateAgainstLog library
      deployRecovered library request) := by
  unfold deploy
  rw [hReason]
  exact Program.bind_assoc _ _ _

/- A call on a recovered store does what its outcome says. -/
theorem deployRecovered_follows (hReason : request.call.checkReason = .ok ()) :
    (deploymentJournal library).Follows .empty (Replayed library) (outcome library request) (do
        verifyPointerStateAgainstLog library
        deployRecovered library request) := by
  intro files hReadable hSound hReplayed
  refine (verifyPointerState_reads hReadable hReplayed).bind.trans (.perform rfl ?_)
  change Program.Reads _ _ (Program.ofExcept (request.call.plan _ _ files.data) >>= _) _
  rw [hReadable.data]
  change Program.Reads _ _ (Program.ofExcept (request.call.plan _ _ (deployed library _)) >>= _) _
  cases hPlan : request.call.plan library.ensureManifest
      request.now (deployed library files.committed) with
  | error error =>
    rw [outcome, hReason, hPlan]
    exact .refl _
  | ok planned =>
    refine (verify_reads hReadable.verifies (.refl _)).bind.trans ?_
    rw [outcome, hReason, hPlan]
    dsimp only [bind, Except.bind]
    cases prepareDeployment library _ planned.2 request.now <;> exact .refl _

variable {committed : List PendingDeployment}

theorem DeploymentSettled.rest (hFiles : DeploymentSettled library committed files)
    (hSound : (deploymentJournal library).Sound committed)
    (hReplayed : Replayed library committed) :
    DeploymentRest library files := by
  obtain ⟨hSettled, rfl⟩ := hFiles
  exact hSettled.recoverable hSound hReplayed

/-
  A call begins where the last one ended or crashed, and does what its outcome
  says: it commits its deployment, or it changes nothing but what recovery
  completes.
-/
theorem deploy_runs (hFiles : DeploymentRest library files)
    (hRoom : RoomFor library request files) :
    WriteAhead.Runs (DeploymentInv library) (fun pointer files' => ∃ pending,
        outcome library request files.committed = .ok (pointer, pending) ∧
        DeploymentSettled library (files.committed ++ [pending]) files')
      (fun error files' =>
        outcome library request files.committed = .error error ∧ DeploymentRest library files')
      (deploy library request) files := by
  cases hReason : request.call.checkReason with
  | ok _ =>
    rw [deploy_of_reason hReason]
    refine (deployRecovered_follows hReason).runs hFiles ?_
    intro pointer pending hOutcome
    exact ⟨sound_concat hFiles.sound hOutcome
      (hRoom pointer pending hOutcome), replayed_concat hFiles.valid hOutcome⟩
  | error error =>
    rw [deploy, outcome, hReason]
    exact ⟨rfl, hFiles⟩

/- A call keeps the files recoverable. -/
theorem deploy_rests (request : DeployRequest) (files : DeploymentFiles)
    (hFiles : DeploymentRest library files) (hRoom : RoomFor library request files) :
    WriteAhead.Runs (DeploymentInv library) (fun _ => DeploymentRest library)
      (fun _ => DeploymentRest library) (deploy library request) files := by
  refine (deploy_runs hFiles hRoom).mono ?_ (fun _ _ hBad => hBad.2)
  rintro pointer files' ⟨pending, hOutcome, hDone⟩
  exact hDone.rest (sound_concat hFiles.sound hOutcome (hRoom pointer pending hOutcome))
    (replayed_concat hFiles.valid hOutcome)

end

/- The store, and the call that holds its lock. -/
abbrev DeploymentSystem := Locked (journalInterface DeploymentRecord Pointers Pointers)
    DeploymentFiles ReleaseError ReleasePointer

abbrev DeploymentOp := LockedOp DeployRequest Unit Empty

def deploymentStep (library : ReleaseLibrary) :
    DeploymentSystem → DeploymentOp → DeploymentSystem :=
  Locked.step (fun command _ => JournalCommand.handle command)
    (deploy library) (fun files _ => files)

def emptyReleaseStore : DeploymentSystem := ⟨emptyFiles, none⟩

/-
  No process crashes after the last byte of a record and before its line break,
  and the log has room for the record of each call.
-/
def Undisturbed (library : ReleaseLibrary) : DeploymentSystem → DeploymentOp → Prop :=
  Locked.Permitted (fun files => ¬ (deploymentJournal library).Unterminated files) (RoomFor library)

/-
  A store as the next call finds it: recovery succeeds, the log verifies and has
  the committed records, the pointers are their replay, and a call comes to its
  outcome.
-/
structure Deployed (library : ReleaseLibrary) (files : DeploymentFiles) : Prop where
  recovers : ∃ files', (recoverDeployment library).exec JournalCommand.handle
      files = (.ok (), files') ∧
    files'.pending = none ∧ files'.committed = files.committed ∧
    verifyLog library.codec (deploymentChain library) maxDeploymentStateBytes files'.log =
      .ok (WriteAhead.recordsOf files.committed) ∧
    files'.data.ids = replay (WriteAhead.recordsOf files.committed)
  answers : ∀ request, RoomFor library request files →
    ((deploy library request).exec JournalCommand.handle files).1 =
      (outcome library request files.committed).map Prod.fst

variable {files : DeploymentFiles} {library : ReleaseLibrary}

theorem deployed_of_rest (hFiles : DeploymentRest library files) : Deployed library files := by
  refine ⟨?_, ?_⟩
  · have hRecovers := (recoverDeployment_runs hFiles).exec
    split at hRecovers
    · rename_i result files' hExec
      obtain ⟨hSettled, hCommitted⟩ := hRecovers
      obtain ⟨hSound, hReplayed, -⟩ := hFiles
      rw [← hCommitted] at hSound hReplayed ⊢
      refine ⟨files', hExec, hSettled.pending, rfl, hSettled.verifyLog hSound, ?_⟩
      rw [hSettled.data]
      exact hReplayed
    · exact hRecovers.elim
  · intro request hRoom
    have hRuns := (deploy_runs hFiles hRoom).exec
    split at hRuns
    · rename_i pointer files' hExec
      obtain ⟨pending, hOutcome, -⟩ := hRuns
      rw [hExec, hOutcome]
      rfl
    · rename_i error files' hExec
      rw [hExec, hRuns.1]
      rfl

theorem empty_rest (library : ReleaseLibrary) : DeploymentRest library emptyFiles := by
  refine ⟨⟨trivial, Nat.zero_le _, ?_⟩, rfl, .inl ⟨rfl, rfl, rfl⟩⟩
  intro pending hMem
  cases hMem

/-
  Over every history of deployment calls in which no process crashes between a
  record and its line break and the log has room, the next call finds the
  pointers that the committed records replay to, and does what its outcome says.
-/
theorem deployments_replayed (library : ReleaseLibrary) (ops : List DeploymentOp)
    (hOps : Machine.Guarded (deploymentStep library) (Undisturbed library) emptyReleaseStore ops)
    (hFree : (Machine.run (deploymentStep library) emptyReleaseStore ops).inside = none) :
    Deployed library (Machine.run (deploymentStep library) emptyReleaseStore ops).world := by
  have hRest := empty_rest library
  have hRun := Locked.run_atRest (fun files hInv hSafe =>
      WriteAhead.Consistent.recoverable hInv hSafe)
    deploy_rests hRest.consistent hRest hOps
  exact deployed_of_rest (hRun.free hFree)

def previewRecord (sequence : Nat) (previousDigest : String) : DeploymentRecord where
  sequence := sequence
  phase := .preview
  releaseId := "r"
  previousReleaseId := none
  reason := Text.bounded "preview" 512
  recordedAt := ⟨0⟩
  previousDigest := previousDigest
  digest := "sha256:" ++ ""

def previewRecords : List DeploymentRecord :=
  [previewRecord 1 "", previewRecord 2 ("sha256:" ++ "")]

/- Every release has a manifest, and the lines are short. -/
def shortLibrary : ReleaseLibrary where
  codec := .favouring previewRecords
  sha256 := fun _ => ""
  pendingSize := fun _ _ => 0
  ensureManifest := fun _ => .ok ()

def previewRequest : DeployRequest := ⟨.setPreview "r", ⟨0⟩⟩

def previewPointers (generation : Nat) : Pointers := ⟨none, none, some ⟨"r", generation, ⟨0⟩⟩, none⟩

def firstPreview : PendingDeployment := ⟨previewRecord 1 "", previewPointers 1⟩

theorem outcome_firstPreview :
    outcome shortLibrary previewRequest [] = .ok (⟨"r", 1, ⟨0⟩⟩, firstPreview) := rfl

theorem roomFor_firstPreview : RoomFor shortLibrary previewRequest emptyFiles := by
  intro pointer pending hOutcome
  cases outcome_firstPreview.symm.trans hOutcome
  decide +kernel

/- A store whose log cannot be read is lost to its calls. -/
theorem not_deployed_of_error (hPending : files.pending = none)
    (hFault : (verifyLog library.codec (deploymentChain library) maxDeploymentStateBytes
      files.log).toOption = none) : ¬ Deployed library files := by
  rintro ⟨⟨files', hExec, -⟩, -⟩
  have hFails : WriteAhead.Runs (fun _ => True) (fun _ _ => False) (fun _ _ => True)
      (recoverDeployment library) files := by
    refine Program.Runs.bind (readPending_runs trivial ?_)
    rw [hPending]
    refine Program.Runs.done (Program.Runs.bind (verify_runs trivial ?_ ?_))
    · intro records hRecords
      cases (congrArg Except.toOption hRecords).symm.trans hFault
    · exact fun _ _ => trivial
  have hEnd := hFails.exec
  rw [hExec] at hEnd
  exact hEnd

/- The first process crashes before the line break. -/
def brokenPreviews : List DeploymentOp :=
  .enter previewRequest :: (List.replicate 10 (.advance ()) ++
    .crash :: .enter previewRequest :: List.replicate 24 (.advance ()))

/-
  The process of a preview crashes after the last byte of its record. The next
  preview of the same release succeeds, and leaves a log that cannot be read.
-/
theorem previews_unreadable :
    ∃ ops, (Machine.run (deploymentStep shortLibrary) emptyReleaseStore ops).inside = none ∧
      ¬ Deployed shortLibrary (Machine.run (deploymentStep shortLibrary)
          emptyReleaseStore ops).world :=
  ⟨brokenPreviews, rfl, not_deployed_of_error rfl (by decide +kernel)⟩

/- The first process crashes inside of its record, and the second one goes on. -/
def tornPreviews : List DeploymentOp :=
  .enter previewRequest :: (List.replicate 9 (.advance ()) ++
    .crash :: .enter previewRequest :: List.replicate 33 (.advance ()))

def secondPreview : PendingDeployment := ⟨previewRecord 2 ("sha256:" ++ ""), previewPointers 2⟩

theorem outcome_secondPreview : outcome shortLibrary previewRequest [firstPreview] =
    .ok (⟨"r", 2, ⟨0⟩⟩, secondPreview) := rfl

/- Both previews are replayed. -/
theorem preview_replayed :
    let store := Machine.run (deploymentStep shortLibrary) emptyReleaseStore tornPreviews
    store.world.committed = [firstPreview, secondPreview] ∧ Deployed shortLibrary store.world := by
  refine ⟨rfl, deployments_replayed shortLibrary tornPreviews ⟨fun _ => roomFor_firstPreview, ?_⟩
    rfl⟩
  refine (Machine.guarded_append _ _ _ _ _).mpr ⟨Locked.guarded_advances _ _ 9, ?_, fun _ => ?_,
    Locked.guarded_advances _ _ 33⟩
  · rintro ⟨_, ⟨⟩, hTail⟩
    revert hTail
    decide +kernel
  · intro pointer pending hOutcome
    cases outcome_secondPreview.symm.trans hOutcome
    decide +kernel

end GolutraAgent.Release
