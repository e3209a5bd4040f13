import Mathlib.Logic.Function.Basic
import GolutraAgent.Library.Transaction

/-
  This file models the transactions that change the settings of the providers
  together with their secrets. The secrets and the file are changed one by one,
  and what was changed is restored if a later step fails.

  Three things are not taken back or not done. The probe may itself write a
  credential, settings that are the default ones do not replace a file that
  cannot be read, and a variable of the environment is never written: restoring
  stops at one that has a value.

  Main declarations:
    * `runProviderSettingsTransaction_allOrNothing`
    * `unreadable_file_kept`
-/

namespace GolutraAgent.Config

inductive ConfigError
| io (message : String)
| json (message : String)
| validation (message : String)

def ConfigError.text : ConfigError → String
  | .io message => "config io failed: " ++ message
  | .json message => "config json failed: " ++ message
  | .validation message => "config validation failed: " ++ message

structure ProviderInstallError where
  step : String
  message : String

inductive CredentialSource
| environment (key : String)
| disk
| ephemeral
deriving DecidableEq

structure CredentialRef where
  id : String
  source : CredentialSource
  secretKind : String
  revision : String

/- Where the store keeps the secret: a variable, or a place of its own. -/
def CredentialRef.account (reference : CredentialRef) : CredentialSource × String :=
  match reference.source with
  | .environment key => (.environment key, "")
  | source => (source, reference.id)

def CredentialRef.readOnly (reference : CredentialRef) : Bool :=
  match reference.source with
  | .environment _ => true
  | _ => false

abbrev Secrets := CredentialSource × String → Option String

/- A secret that is set or, for `none`, deleted. -/
def Secrets.write (secrets : Secrets) (reference : CredentialRef) (value : Option String) :
    Secrets :=
  if reference.readOnly then secrets
  else Function.update secrets reference.account value

/- Setting a variable is refused. Deleting it does nothing, and is no error. -/
def CredentialRef.refusal? (reference : CredentialRef) (value : Option String) : Option String :=
  if reference.readOnly && value.isSome then
    some "auth validation failed: environment credential references are read-only"
  else none

structure SecretMutation where
  reference : CredentialRef
  -- `none` deletes the secret
  action : Option String

structure SecretSnapshot where
  reference : CredentialRef
  value : Option String

inductive InvalidProviderSettingsPolicy
| reject
| replaceJson

inductive ProviderInstallProbe
| required
| skip

/- The settings as they are read from a file and written. -/
structure SettingsFormat (σ φ : Type) where
  default : σ
  validate : σ → Except ConfigError Unit
  read : φ → Except ConfigError σ
  write : σ → φ
  validate_of_read : ∀ file settings, read file = .ok settings → validate settings = .ok ()
  read_write : ∀ settings, validate settings = .ok () → read (write settings) = .ok settings

/- How the steps of one transaction end. -/
structure Host (φ : Type) where
  get : CredentialRef → Except String Unit
  -- a step that fails may leave anything in its place
  secret : Nat → Option (Option String × String)
  persist : Option (Option φ × ConfigError)
  probe : Except ProviderInstallError Unit
  refreshed : Option (CredentialRef × Option String)

structure World (φ : Type) where
  file : Option φ
  secrets : Secrets

structure ProviderSettingsSnapshot (σ φ : Type) where
  existed : Bool
  settings : σ
  rollbackBytes : Option φ

variable {σ φ : Type}

def snapshotSecrets (host : Host φ) (secrets : Secrets) :
    List String → List SecretMutation → Except ProviderInstallError (List SecretSnapshot)
  | _, [] => .ok []
  | seen, mutation :: rest =>
    let reference := mutation.reference
    if reference.id ∈ seen then snapshotSecrets host secrets seen rest
    else do
      (host.get reference).mapError (⟨"secret-backup", ·⟩)
      let snapshots ← snapshotSecrets host secrets (reference.id :: seen) rest
      return ⟨reference, secrets reference.account⟩ :: snapshots

def applySecretMutations (host : Host φ) :
    List SecretMutation → Secrets → Secrets × Except ProviderInstallError Unit
  | [], secrets => (secrets, .ok ())
  | mutation :: rest, secrets =>
    let step := if mutation.action.isSome then "secret-write" else "secret-delete"
    match mutation.reference.refusal? mutation.action, host.secret rest.length with
    | some message, _ => (secrets, .error ⟨step, message⟩)
    | none, some (left, message) =>
      (secrets.write mutation.reference left, .error ⟨step, message⟩)
    | none, none =>
      applySecretMutations host rest (secrets.write mutation.reference mutation.action)

/- The snapshots are restored in turn, up to one that the store refuses. -/
def restoreSecretSnapshots : List SecretSnapshot → Secrets → Secrets × Except ConfigError Unit
  | [], secrets => (secrets, .ok ())
  | snapshot :: rest, secrets =>
    match snapshot.reference.refusal? snapshot.value with
    | some message => (secrets, .error (.validation message))
    | none => restoreSecretSnapshots rest (secrets.write snapshot.reference snapshot.value)

namespace SettingsFormat

variable (format : SettingsFormat σ φ)

def loadProviderSettings : Option φ → Except ConfigError σ
  | none => .ok format.default
  | some file => format.read file

/- The settings, and the bytes of a file that is no JSON. -/
def loadProviderSettingsFor (file : Option φ) :
    InvalidProviderSettingsPolicy → Except ConfigError (σ × Option φ)
  | .reject => (format.loadProviderSettings file).map (·, none)
  | .replaceJson =>
    match format.loadProviderSettings file with
    | .error (.json _) => .ok (format.default, file)
    | loaded => loaded.map (·, none)

variable [DecidableEq σ]

def persistProviderSettingsFile (host : Host φ) (snapshot : ProviderSettingsSnapshot σ φ)
    (settings : σ) (file : Option φ) : Option φ × Except ConfigError Unit :=
  if snapshot.settings = settings then (file, .ok ())
  else if !snapshot.existed ∧ settings = format.default then (file, .ok ())
  else match host.persist with
    | some (left, error) => (left, .error error)
    | none =>
      if settings = format.default then (none, .ok ()) else (some (format.write settings), .ok ())

def restoreProviderSettingsFile (snapshot : ProviderSettingsSnapshot σ φ) : Option φ :=
  if snapshot.existed then some (snapshot.rollbackBytes.getD (format.write snapshot.settings))
  else none

/- What a transaction knows before it changes anything. -/
structure Prepared (σ φ : Type) where
  snapshot : ProviderSettingsSnapshot σ φ
  settings : σ
  mutations : List SecretMutation
  secrets : List SecretSnapshot

def prepare (host : Host φ) (policy : InvalidProviderSettingsPolicy)
    (mutate : σ → Except ConfigError (σ × List SecretMutation)) (world : World φ) :
    Except ProviderInstallError (Prepared σ φ) := do
  let loaded ← (format.loadProviderSettingsFor world.file policy).mapError (⟨"load", ·.text⟩)
  let mutated ← (mutate loaded.1).mapError (⟨"mutate", ·.text⟩)
  (format.validate mutated.1).mapError (⟨"mutate", ·.text⟩)
  let secrets ← snapshotSecrets host world.secrets [] mutated.2
  return ⟨⟨world.file.isSome, loaded.1, loaded.2⟩, mutated.1, mutated.2, secrets⟩

/- The steps after which a failure has to be taken back. -/
def attempt (host : Host φ) (probe : ProviderInstallProbe) (prepared : Prepared σ φ)
    (world : World φ) : World φ × Except ProviderInstallError Unit :=
  let applied := applySecretMutations host prepared.mutations world.secrets
  let persisted := format.persistProviderSettingsFile host prepared.snapshot prepared.settings
    world.file
  match applied.2, persisted.2, probe with
  | .error error, _, _ => (⟨world.file, applied.1⟩, .error error)
  | .ok (), .error error, _ => (⟨persisted.1, applied.1⟩, .error ⟨"persist", error.text⟩)
  | .ok (), .ok (), .skip => (⟨persisted.1, applied.1⟩, .ok ())
  | .ok (), .ok (), .required =>
    (⟨persisted.1, host.refreshed.elim applied.1 (fun refreshed =>
      applied.1.write refreshed.1 refreshed.2)⟩, host.probe)

def runProviderSettingsTransaction (host : Host φ) (policy : InvalidProviderSettingsPolicy)
    (probe : ProviderInstallProbe) (mutate : σ → Except ConfigError (σ × List SecretMutation))
    (world : World φ) : World φ × Except ProviderInstallError Unit :=
  match format.prepare host policy mutate world with
  | .error error => (world, .error error)
  | .ok prepared =>
    let attempted := format.attempt host probe prepared world
    match attempted.2 with
    | .ok () => (attempted.1, .ok ())
    | .error error =>
      let restored := restoreSecretSnapshots prepared.secrets.reverse attempted.1.secrets
      (⟨format.restoreProviderSettingsFile prepared.snapshot, restored.1⟩,
        .error (match restored.2 with
          | .ok () => error
          | .error restore =>
            ⟨"rollback", error.message ++ "; secret rollback failed: " ++ restore.text⟩))

end SettingsFormat

variable {host : Host φ} {secrets : Secrets} {mutations : List SecretMutation}
variable {snapshots : List SecretSnapshot} {reference : CredentialRef}
variable {account : CredentialSource × String}

/- What is written under the reference is kept in the account. -/
def CredentialRef.Owns (reference : CredentialRef) (account : CredentialSource × String) : Prop :=
  reference.readOnly = false ∧ reference.account = account

theorem Secrets.write_self {value : Option String} (hOwns : reference.Owns account) :
    secrets.write reference value account = value := by
  rw [write, hOwns.1, ← hOwns.2]
  exact Function.update_self ..

theorem Secrets.write_other {value : Option String} (hOther : ¬ reference.Owns account) :
    secrets.write reference value account = secrets account := by
  unfold write
  split
  · rfl
  · rename_i hWritten
    exact Function.update_of_ne
      (fun hSame => hOther ⟨Bool.eq_false_iff.mpr hWritten, hSame.symm⟩) _ _

theorem applySecretMutations_other
    (hOther : ∀ mutation ∈ mutations, ¬ mutation.reference.Owns account) :
    (applySecretMutations host mutations secrets).1 account = secrets account := by
  induction mutations generalizing secrets with
  | nil => rfl
  | cons mutation rest ih =>
    rw [List.forall_mem_cons] at hOther
    unfold applySecretMutations
    dsimp only
    split
    · rfl
    · exact Secrets.write_other hOther.1
    · rw [ih hOther.2, Secrets.write_other hOther.1]

/- All mutations, one after the other, of the secrets that can be written. -/
def mutatedSecrets (mutations : List SecretMutation) (secrets : Secrets) : Secrets :=
  (mutations.filter (!·.reference.readOnly)).foldl (fun secrets mutation =>
    Function.update secrets mutation.reference.account mutation.action) secrets

theorem applySecretMutations_ok (hOk : (applySecretMutations host mutations secrets).2 = .ok ()) :
    (applySecretMutations host mutations secrets).1 = mutatedSecrets mutations secrets := by
  induction mutations generalizing secrets with
  | nil => rfl
  | cons mutation rest ih =>
    simp only [applySecretMutations] at hOk ⊢
    split at hOk
    · cases hOk
    · cases hOk
    · rw [ih hOk, mutatedSecrets, mutatedSecrets, Secrets.write]
      cases hReadOnly : mutation.reference.readOnly <;> simp [hReadOnly]

/- The first mutation of each credential has its snapshot. -/
theorem snapshotSecrets_covers {seen : List String}
    (hIds : ∀ first ∈ mutations, ∀ second ∈ mutations,
      first.reference.id = second.reference.id → first.reference = second.reference)
    (hSnapshots : snapshotSecrets host secrets seen mutations = .ok snapshots) :
    (∀ snapshot ∈ snapshots, snapshot.value = secrets snapshot.reference.account ∧
        snapshot.reference ∈ mutations.map SecretMutation.reference) ∧
      ∀ mutation ∈ mutations, mutation.reference.id ∈ seen ∨
        mutation.reference ∈ snapshots.map SecretSnapshot.reference := by
  induction mutations generalizing seen snapshots with
  | nil =>
    cases hSnapshots
    exact ⟨nofun, nofun⟩
  | cons mutation rest ih =>
    simp only [snapshotSecrets] at hSnapshots
    split at hSnapshots
    · grind
    · simp only [Transaction.bind_eq_ok] at hSnapshots
      rcases hSnapshots with ⟨_, -, covered, hRest, ⟨⟩⟩
      grind

/- If no snapshot is refused, what was written is as it was. -/
theorem restoreSecretSnapshots_eq {old : Secrets}
    (hValues : ∀ snapshot ∈ snapshots, snapshot.value = old snapshot.reference.account ∧
      snapshot.reference.refusal? snapshot.value = none)
    (hAccount : (∃ snapshot ∈ snapshots, snapshot.reference.Owns account) ∨
      secrets account = old account) :
    (restoreSecretSnapshots snapshots secrets).1 account = old account := by
  induction snapshots generalizing secrets with
  | nil => exact hAccount.resolve_left nofun
  | cons snapshot rest ih =>
    rw [List.forall_mem_cons] at hValues
    rcases hValues with ⟨⟨hValue, hAccepted⟩, hRest⟩
    rw [restoreSecretSnapshots, hAccepted]
    apply ih hRest
    by_cases hOwns : snapshot.reference.Owns account
    · rw [Secrets.write_self hOwns, hValue, hOwns.2]
      exact .inr rfl
    · rw [Secrets.write_other hOwns]
      refine hAccount.imp_left fun ⟨other, hOther, hThis⟩ => ⟨other, ?_, hThis⟩
      rcases List.mem_cons.mp hOther with rfl | hOther
      · exact absurd hThis hOwns
      · exact hOther

/- The probe may itself write the account. -/
def Host.Refreshes (host : Host φ) (account : CredentialSource × String) : Prop :=
  ∃ refreshed, host.refreshed = some refreshed ∧ refreshed.1.Owns account

namespace SettingsFormat

variable {format : SettingsFormat σ φ} {file : Option φ}

/- What a snapshot says of the file that it was taken of. -/
def Describes (format : SettingsFormat σ φ) (snapshot : ProviderSettingsSnapshot σ φ)
    (file : Option φ) : Prop :=
  snapshot.existed = file.isSome ∧
    ((snapshot.rollbackBytes = none ∧ format.loadProviderSettings file = .ok snapshot.settings) ∨
      (snapshot.rollbackBytes = file ∧ snapshot.settings = format.default ∧
        ∃ message, format.loadProviderSettings file = .error (.json message)))

variable {snapshot : ProviderSettingsSnapshot σ φ} {settings : σ} {loaded : σ × Option φ}
variable {policy : InvalidProviderSettingsPolicy}

theorem loadProviderSettingsFor_describes
    (hLoaded : format.loadProviderSettingsFor file policy = .ok loaded) :
    format.Describes ⟨file.isSome, loaded.1, loaded.2⟩ file := by
  refine ⟨rfl, ?_⟩
  unfold loadProviderSettingsFor at hLoaded
  cases hLoad : format.loadProviderSettings file <;> grind [Except.map]

theorem restoreProviderSettingsFile_load (hSnapshot : format.Describes snapshot file) :
    format.loadProviderSettings (format.restoreProviderSettingsFile snapshot) =
        format.loadProviderSettings file ∧
      (file = none → format.restoreProviderSettingsFile snapshot = none) ∧
      ∀ message, format.loadProviderSettings file = .error (.json message) →
        format.restoreProviderSettingsFile snapshot = file := by
  unfold Describes at hSnapshot
  cases file <;> grind [loadProviderSettings, restoreProviderSettingsFile,
    format.read_write, format.validate_of_read]

variable {probe : ProviderInstallProbe} {prepared : Prepared σ φ} {world : World φ}
variable {mutate : σ → Except ConfigError (σ × List SecretMutation)}

theorem prepare_ok (hPrepared : format.prepare host policy mutate world = .ok prepared) :
    ∃ loaded, format.loadProviderSettingsFor world.file policy = .ok loaded ∧
      mutate loaded.1 = .ok (prepared.settings, prepared.mutations) ∧
      format.validate prepared.settings = .ok () ∧
      snapshotSecrets host world.secrets [] prepared.mutations = .ok prepared.secrets ∧
      prepared.snapshot = ⟨world.file.isSome, loaded.1, loaded.2⟩ := by
  simp only [prepare, Transaction.bind_eq_ok] at hPrepared
  rcases hPrepared with ⟨loaded, hLoaded, mutated, hMutated, _, hValid, secrets, hSecrets, ⟨⟩⟩
  exact ⟨loaded, Transaction.mapError_eq_ok.mp hLoaded, Transaction.mapError_eq_ok.mp hMutated,
    Transaction.mapError_eq_ok.mp hValid, hSecrets, rfl⟩

variable (format policy mutate world) in
/- The settings and the secrets that the transaction is to change. -/
def Mutates (settings : σ) (mutations : List SecretMutation) : Prop :=
  ∃ loaded, format.loadProviderSettingsFor world.file policy = .ok loaded ∧
    mutate loaded.1 = .ok (settings, mutations)

variable [DecidableEq σ]

theorem persistProviderSettingsFile_load {persisted : Option φ}
    (hSnapshot : format.Describes snapshot file) (hValid : format.validate settings = .ok ())
    (hOk : format.persistProviderSettingsFile host snapshot settings file = (persisted, .ok ())) :
    format.loadProviderSettings persisted = .ok settings ∨ settings = format.default ∧
      ∃ message, format.loadProviderSettings file = .error (.json message) := by
  unfold Describes at hSnapshot
  unfold persistProviderSettingsFile at hOk
  cases file <;> grind [loadProviderSettings, format.read_write]

theorem attempt_secrets (hOther : ¬ host.Refreshes account) :
    (format.attempt host probe prepared world).1.secrets account =
      (applySecretMutations host prepared.mutations world.secrets).1 account := by
  simp only [attempt]
  split
  · rfl
  · rfl
  · rfl
  · cases hRefreshed : host.refreshed with
    | none => rfl
    | some refreshed => exact Secrets.write_other (fun hOwns => hOther ⟨_, hRefreshed, hOwns⟩)

theorem attempt_ok (hOk : (format.attempt host probe prepared world).2 = .ok ()) :
    (applySecretMutations host prepared.mutations world.secrets).2 = .ok () ∧
      ∃ persisted, format.persistProviderSettingsFile host prepared.snapshot prepared.settings
        world.file = (persisted, .ok ()) ∧
      (format.attempt host probe prepared world).1.file = persisted := by
  simp only [attempt] at hOk ⊢
  split at hOk <;> simp_all [Prod.ext_iff]

/- What was mutated, or written by the probe, has its snapshot. -/
theorem attempt_restored (hIds : ∀ first ∈ prepared.mutations, ∀ second ∈ prepared.mutations,
      first.reference.id = second.reference.id → first.reference = second.reference)
    (hSecrets : snapshotSecrets host world.secrets [] prepared.mutations = .ok prepared.secrets)
    (hVariables : ∀ mutation ∈ prepared.mutations, mutation.reference.readOnly = true →
      world.secrets mutation.reference.account = none)
    (hProbe : host.Refreshes account →
      ∃ mutation ∈ prepared.mutations, mutation.reference.Owns account) :
    (restoreSecretSnapshots prepared.secrets.reverse
      (format.attempt host probe prepared world).1.secrets).1 account =
        world.secrets account := by
  rcases snapshotSecrets_covers hIds hSecrets with ⟨hValues, hCovered⟩
  apply restoreSecretSnapshots_eq
  · intro snapshot hSnapshot
    rcases hValues snapshot (List.mem_reverse.mp hSnapshot) with ⟨hValue, hMutated⟩
    rcases List.mem_map.mp hMutated with ⟨mutation, hMutation, hReference⟩
    have hNone := hVariables mutation hMutation
    rw [hReference, ← hValue] at hNone
    refine ⟨hValue, if_neg fun hRefused => ?_⟩
    rw [Bool.and_eq_true] at hRefused
    rw [hNone hRefused.1] at hRefused
    exact absurd hRefused.2 nofun
  · by_cases hMutated : ∃ mutation ∈ prepared.mutations, mutation.reference.Owns account
    · rcases hMutated with ⟨mutation, hMutation, hOwns⟩
      rcases List.mem_map.mp ((hCovered mutation hMutation).resolve_left nofun) with
        ⟨snapshot, hSnapshot, hReference⟩
      exact .inl ⟨snapshot, List.mem_reverse.mpr hSnapshot, hReference ▸ hOwns⟩
    · rw [attempt_secrets (mt hProbe hMutated)]
      refine .inr (applySecretMutations_other fun mutation hMutation hOwns => ?_)
      exact hMutated ⟨mutation, hMutation, hOwns⟩

variable (format host policy probe mutate world) in
/-
  A transaction takes back what it did, or has done it all. It cannot take back if
  it was to delete a variable that has a value.
-/
theorem runProviderSettingsTransaction_allOrNothing
    (hIds : ∀ settings mutations, format.Mutates policy world mutate settings mutations →
      ∀ first ∈ mutations, ∀ second ∈ mutations,
        first.reference.id = second.reference.id → first.reference = second.reference) :
    match format.runProviderSettingsTransaction host policy probe mutate world with
    | (after, .error _) =>
      ((∀ settings mutations, format.Mutates policy world mutate settings mutations →
          ∀ mutation ∈ mutations, mutation.reference.readOnly = true →
            world.secrets mutation.reference.account = none) →
        ∀ account, (host.Refreshes account → ∃ settings mutations,
            format.Mutates policy world mutate settings mutations ∧
            ∃ mutation ∈ mutations, mutation.reference.Owns account) →
          after.secrets account = world.secrets account) ∧
      format.loadProviderSettings after.file = format.loadProviderSettings world.file ∧
      (world.file = none → after.file = none) ∧
      ∀ message, format.loadProviderSettings world.file = .error (.json message) →
        after.file = world.file
    | (after, .ok ()) =>
      ∃ settings mutations, format.Mutates policy world mutate settings mutations ∧
        (∀ account, ¬ host.Refreshes account →
          after.secrets account = mutatedSecrets mutations world.secrets account) ∧
        (format.loadProviderSettings after.file = .ok settings ∨
          settings = format.default ∧ ∃ message,
            format.loadProviderSettings world.file = .error (.json message)) := by
  unfold runProviderSettingsTransaction
  cases hPrepared : format.prepare host policy mutate world with
  | error error => exact ⟨fun _ _ _ => rfl, rfl, id, fun _ _ => rfl⟩
  | ok prepared =>
    rcases prepare_ok hPrepared with ⟨loaded, hLoaded, hMutate, hValid, hSecrets, hSnapshot⟩
    have hMutates : format.Mutates policy world mutate _ _ := ⟨loaded, hLoaded, hMutate⟩
    have hDescribes := loadProviderSettingsFor_describes hLoaded
    rw [← hSnapshot] at hDescribes
    cases hResult : (format.attempt host probe prepared world).2 with
    | error error =>
      simp only [hResult]
      refine ⟨fun hVariables account hProbe => ?_, restoreProviderSettingsFile_load hDescribes⟩
      refine attempt_restored (hIds _ _ hMutates) hSecrets (hVariables _ _ hMutates)
        fun hRefreshes => ?_
      rcases hProbe hRefreshes with ⟨_, _, ⟨_, hLoadedAgain, hMutateAgain⟩, hMutated⟩
      cases hLoaded.symm.trans hLoadedAgain
      cases hMutate.symm.trans hMutateAgain
      exact hMutated
    | ok =>
      rcases attempt_ok hResult with ⟨hApplied, persisted, hPersisted, hFile⟩
      simp only [hResult, hFile]
      refine ⟨_, _, hMutates, fun account hOther => ?_,
        persistProviderSettingsFile_load hDescribes hValid hPersisted⟩
      rw [← applySecretMutations_ok hApplied]
      exact attempt_secrets hOther

/- A switch, in a file that may be no JSON. -/
def switchFormat : SettingsFormat Bool (Option Bool) where
  default := false
  validate _ := .ok ()
  read file := match file with
    | some settings => .ok settings
    | none => .error (.json "expected value")
  write := some
  validate_of_read _ _ _ := rfl
  read_write _ _ := rfl

def quietHost : Host (Option Bool) := ⟨fun _ => .ok (), fun _ => none, none, .ok (), none⟩

/- A key that is set twice, and a variable without a value that is deleted. -/
def newKey : List SecretMutation :=
  [⟨⟨"cred_1", .disk, "api-key", "rev_1"⟩, some "first"⟩,
    ⟨⟨"cred_1", .disk, "api-key", "rev_1"⟩, some "second"⟩,
    ⟨⟨"cred_2", .environment "KEY", "api-key", "rev_2"⟩, none⟩]

def refusingHost : Host (Option Bool) :=
  { quietHost with probe := .error ⟨"probe", "the key is refused"⟩ }

def oldKey : World (Option Bool) :=
  ⟨none, fun account => if account = (.disk, "cred_1") then some "old" else none⟩

theorem newKey_takenBack :
    let after := (switchFormat.runProviderSettingsTransaction refusingHost .reject .required
      (fun _ => .ok (true, newKey)) oldKey).1
    after.secrets = oldKey.secrets ∧ after.file = none := by
  rcases runProviderSettingsTransaction_allOrNothing refusingHost switchFormat .reject .required
      oldKey (fun _ => .ok (true, newKey)) (by rintro _ _ ⟨_, -, ⟨⟩⟩; simp [newKey]) with
    ⟨hSecrets, -, hFile, -⟩
  refine ⟨funext fun account => hSecrets ?_ account nofun, hFile rfl⟩
  rintro _ _ ⟨_, -, ⟨⟩⟩
  simp [newKey, oldKey, CredentialRef.readOnly, CredentialRef.account]

/- Success, but the file still cannot be read. -/
theorem unreadable_file_kept :
    let after := switchFormat.runProviderSettingsTransaction quietHost .replaceJson .required
      (fun settings => .ok (settings, [])) ⟨some none, fun _ => none⟩
    after.2 = .ok () ∧ switchFormat.loadProviderSettings after.1.file ≠ .ok false :=
  ⟨rfl, nofun⟩

end SettingsFormat

end GolutraAgent.Config
