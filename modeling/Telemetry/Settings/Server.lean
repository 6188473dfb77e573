import Telemetry.Network.Subnet
import Telemetry.Settings.File
import Telemetry.Text.LetterCase

/-!
# Settings of a server

A setting comes from the environment, else from the file of settings, else it
has its usual value.  A blank text in the file counts as absent, except that of
the interval between snapshots.
-/

namespace Telemetry

/-- What a server needs to know. -/
structure ServerSettings where
  /-- The address that is listened on. -/
  address : String
  /-- The time between two snapshots; zero writes one with every update. -/
  storeInterval : TimeSpan
  /-- The path of the snapshot. -/
  fileStoragePath : String
  /-- Whether the snapshot is loaded at the start. -/
  restore : Bool
  /-- The name of the database, when there is one. -/
  databaseDsn : Option String
  /-- The signing key, when signatures are checked. -/
  key : Option String
  /-- The path of the private key, when payloads may be sealed. -/
  cryptoKey : Option String
  /-- The path of the audit log, when there is one. -/
  auditFile : Option String
  /-- The address that audit events are posted to, when there is one. -/
  auditUrl : Option String
  /-- The addresses that remote calls may come from, when they are limited. -/
  trustedSubnet : Option Network.Subnet
  /-- The address for remote calls, when they are answered. -/
  grpcAddress : Option String
  /-- How much is logged. -/
  logLevel : String

namespace ServerSettings

/-- Whether a snapshot is written with every update. -/
def savesOnUpdate (settings : ServerSettings) : Bool :=
  settings.storeInterval.nanoseconds == 0

/-- The settings that a file may hold. -/
structure File where
  /-- The address that is listened on. -/
  address : Option String := none
  /-- Whether the snapshot is loaded at the start. -/
  restore : Option Bool := none
  /-- The text of the time between two snapshots. -/
  storeInterval : Option String := none
  /-- The path of the snapshot. -/
  storeFile : Option String := none
  /-- The name of the database. -/
  databaseDsn : Option String := none
  /-- The path of the private key. -/
  cryptoKey : Option String := none
  /-- The path of the audit log. -/
  auditFile : Option String := none
  /-- The address that audit events are posted to. -/
  auditUrl : Option String := none
  /-- The signing key. -/
  key : Option String := none
  /-- The text of the addresses that remote calls may come from. -/
  trustedSubnet : Option String := none
  /-- The address for remote calls. -/
  grpcAddress : Option String := none

/-- The settings of a file that have been read so far; `null` is given as none. -/
structure File.Draft where
  /-- The address that is listened on. -/
  address : Option (Option String) := none
  /-- Whether the snapshot is loaded at the start. -/
  restore : Option (Option Bool) := none
  /-- The text of the time between two snapshots. -/
  storeInterval : Option (Option String) := none
  /-- The path of the snapshot. -/
  storeFile : Option (Option String) := none
  /-- The name of the database. -/
  databaseDsn : Option (Option String) := none
  /-- The path of the private key. -/
  cryptoKey : Option (Option String) := none
  /-- The path of the audit log. -/
  auditFile : Option (Option String) := none
  /-- The address that audit events are posted to. -/
  auditUrl : Option (Option String) := none
  /-- The signing key. -/
  key : Option (Option String) := none
  /-- The text of the addresses that remote calls may come from. -/
  trustedSubnet : Option (Option String) := none
  /-- The address for remote calls. -/
  grpcAddress : Option (Option String) := none

/-- The file's settings once it has been read. -/
def File.Draft.complete (draft : File.Draft) : File where
  address := draft.address.join
  restore := draft.restore.join
  storeInterval := draft.storeInterval.join
  storeFile := draft.storeFile.join
  databaseDsn := draft.databaseDsn.join
  cryptoKey := draft.cryptoKey.join
  auditFile := draft.auditFile.join
  auditUrl := draft.auditUrl.join
  key := draft.key.join
  trustedSubnet := draft.trustedSubnet.join
  grpcAddress := draft.grpcAddress.join

/-- The JSON shape of a file of settings. -/
def File.shape : Json.Shape File.Draft File where
  name := "FileConfig"
  fields :=
    [Settings.fileField "address" Json.string File.Draft.address
        fun draft value => { draft with address := some value },
      Settings.fileField "restore" Json.flag File.Draft.restore
        fun draft value => { draft with restore := some value },
      Settings.fileField "store_interval" Json.string File.Draft.storeInterval
        fun draft value => { draft with storeInterval := some value },
      Settings.fileField "store_file" Json.string File.Draft.storeFile
        fun draft value => { draft with storeFile := some value },
      Settings.fileField "database_dsn" Json.string File.Draft.databaseDsn
        fun draft value => { draft with databaseDsn := some value },
      Settings.fileField "crypto_key" Json.string File.Draft.cryptoKey
        fun draft value => { draft with cryptoKey := some value },
      Settings.fileField "audit_file" Json.string File.Draft.auditFile
        fun draft value => { draft with auditFile := some value },
      Settings.fileField "audit_url" Json.string File.Draft.auditUrl
        fun draft value => { draft with auditUrl := some value },
      Settings.fileField "key" Json.string File.Draft.key
        fun draft value => { draft with key := some value },
      Settings.fileField "trusted_subnet" Json.string File.Draft.trustedSubnet
        fun draft value => { draft with trustedSubnet := some value },
      Settings.fileField "grpc_address" Json.string File.Draft.grpcAddress
        fun draft value => { draft with grpcAddress := some value }]
  blank := {}
  complete := fun draft => .ok draft.complete

/-- The time between two snapshots; five minutes unless it is set. -/
def interval (environment : Settings.Environment) (file : File) :
    Except SettingsError TimeSpan :=
  match environment.seconds? "STORE_INTERVAL" with
  | .error error => .error error
  | .ok (some span) => .ok span
  | .ok none =>
      (Settings.fileSpan? "store_interval" file.storeInterval).map fun span =>
        span.getD (TimeSpan.ofSeconds 300)

/-- Reads one of the two words for a truth value, in any letter case. -/
def readFlag? (letters : List Char) : Option Bool :=
  let word := Text.lowercase (String.ofList letters)
  if word = "true" then some true else if word = "false" then some false else none

/-- Whether the snapshot is loaded at the start; so it is unless it is set. -/
def restores (environment : Settings.Environment) (file : File) : Except SettingsError Bool :=
  match environment.value? "RESTORE" readFlag? with
  | .error error => .error error
  | .ok (some flag) => .ok flag
  | .ok none => .ok (file.restore.getD true)

/-- The text of the environment, else of the file, unless it is blank. -/
def optionalText (environment : Settings.Environment) (name : String)
    (fileText : Option String) : Option String :=
  (environment.text? name).or (Settings.notBlank fileText)

/-- The addresses that remote calls may come from. -/
def subnet (environment : Settings.Environment) (file : File) :
    Except SettingsError (Option Network.Subnet) :=
  match optionalText environment "TRUSTED_SUBNET" file.trustedSubnet with
  | none => .ok none
  | some text =>
      match Network.Subnet.read? text with
      | some subnet => .ok (some subnet)
      | none => .error (.invalid "TRUSTED_SUBNET" text)

/-- Puts the layers together. -/
def ofLayers (environment : Settings.Environment) (file : File) :
    Except SettingsError ServerSettings := do
  let storeInterval ← interval environment file
  let restore ← restores environment file
  let trustedSubnet ← subnet environment file
  return {
    address := (optionalText environment "ADDRESS" file.address).getD "localhost:8080"
    storeInterval, restore, trustedSubnet
    fileStoragePath :=
      (optionalText environment "FILE_STORAGE_PATH" file.storeFile).getD "metrics.json"
    databaseDsn := optionalText environment "DATABASE_DSN" file.databaseDsn
    key := optionalText environment "KEY" file.key
    cryptoKey := optionalText environment "CRYPTO_KEY" file.cryptoKey
    auditFile := optionalText environment "AUDIT_FILE" file.auditFile
    auditUrl := optionalText environment "AUDIT_URL" file.auditUrl
    grpcAddress := optionalText environment "GRPC_ADDRESS" file.grpcAddress
    logLevel := ((environment.text? "LOG_LEVEL").map Text.lowercase).getD "info" }

/-- The settings of a server. -/
def load (environment : Settings.Environment) (files : Files.Tree) :
    Except SettingsError ServerSettings := do
  ofLayers environment (← Settings.readFile File.shape {} environment files)

end ServerSettings
end Telemetry
