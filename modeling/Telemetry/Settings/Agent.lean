import Telemetry.Settings.File
import Telemetry.Text.LetterCase

/-!
# Settings of an agent

A setting comes from the environment, else from the file of settings, else it
has its usual value.  A value of the file is looked at only where the
environment has none.
-/

namespace Telemetry

/-- What an agent needs to know. -/
structure AgentSettings where
  /-- The address of the server. -/
  address : String
  /-- The time between two polls. -/
  pollInterval : TimeSpan
  /-- The time between two reports. -/
  reportInterval : TimeSpan
  /-- How many reports may be sent at once. -/
  rateLimit : Nat
  /-- The signing key, when reports are signed. -/
  key : Option String
  /-- The path of the server's public key, when reports are sealed. -/
  cryptoKey : Option String
  /-- The address for remote calls, when reports go that way. -/
  grpcAddress : Option String
  /-- How much is logged. -/
  logLevel : String

namespace AgentSettings

/-- The settings that a file may hold. -/
structure File where
  /-- The address of the server. -/
  address : Option String := none
  /-- The text of the time between two polls. -/
  pollInterval : Option String := none
  /-- The text of the time between two reports. -/
  reportInterval : Option String := none
  /-- How many reports may be sent at once. -/
  rateLimit : Option Nat := none
  /-- The signing key. -/
  key : Option String := none
  /-- The path of the server's public key. -/
  cryptoKey : Option String := none
  /-- The address for remote calls. -/
  grpcAddress : Option String := none

/-- The settings of a file that have been read so far; `null` is given as none. -/
structure File.Draft where
  /-- The address of the server. -/
  address : Option (Option String) := none
  /-- The text of the time between two polls. -/
  pollInterval : Option (Option String) := none
  /-- The text of the time between two reports. -/
  reportInterval : Option (Option String) := none
  /-- How many reports may be sent at once. -/
  rateLimit : Option (Option Nat) := none
  /-- The signing key. -/
  key : Option (Option String) := none
  /-- The path of the server's public key. -/
  cryptoKey : Option (Option String) := none
  /-- The address for remote calls. -/
  grpcAddress : Option (Option String) := none

/-- The file's settings once it has been read. -/
def File.Draft.complete (draft : File.Draft) : File where
  address := draft.address.join
  pollInterval := draft.pollInterval.join
  reportInterval := draft.reportInterval.join
  rateLimit := draft.rateLimit.join
  key := draft.key.join
  cryptoKey := draft.cryptoKey.join
  grpcAddress := draft.grpcAddress.join

/-- The JSON shape of a file of settings. -/
def File.shape : Json.Shape File.Draft File where
  name := "FileConfig"
  fields :=
    [Settings.fileField "address" Json.string File.Draft.address
        fun draft value => { draft with address := some value },
      Settings.fileField "poll_interval" Json.string File.Draft.pollInterval
        fun draft value => { draft with pollInterval := some value },
      Settings.fileField "report_interval" Json.string File.Draft.reportInterval
        fun draft value => { draft with reportInterval := some value },
      Settings.fileField "rate_limit" Json.count File.Draft.rateLimit
        fun draft value => { draft with rateLimit := some value },
      Settings.fileField "key" Json.string File.Draft.key
        fun draft value => { draft with key := some value },
      Settings.fileField "crypto_key" Json.string File.Draft.cryptoKey
        fun draft value => { draft with cryptoKey := some value },
      Settings.fileField "grpc_address" Json.string File.Draft.grpcAddress
        fun draft value => { draft with grpcAddress := some value }]
  blank := {}
  complete := fun draft => .ok draft.complete

/-- A span of the environment in seconds, else of the file in words, else the usual one. -/
def interval (environment : Settings.Environment) (name fileName : String)
    (fileText : Option String) (usual : TimeSpan) : Except SettingsError TimeSpan :=
  match environment.seconds? name with
  | .error error => .error error
  | .ok (some span) => .ok span
  | .ok none => (Settings.fileSpan? fileName fileText).map fun span => span.getD usual

/-- Refuses an interval that is empty. -/
def requirePositive (name : String) (span : TimeSpan) : Except SettingsError Unit :=
  if span.nanoseconds = 0 then .error (.invalid name "0") else .ok ()

/-- How many reports may be sent at once; at least one. -/
def limit (environment : Settings.Environment) (file : File) : Except SettingsError Nat :=
  match environment.value? "RATE_LIMIT" readInt64? with
  | .error error => .error error
  | .ok (some number) => .ok (max number.toNat 1)
  | .ok none => .ok (max (file.rateLimit.getD 1) 1)

/-- The text of the environment, else of the file, unless it is empty. -/
def optionalText (environment : Settings.Environment) (name : String)
    (fileText : Option String) : Option String :=
  ((environment.text? name).or fileText).filter fun text => text ≠ ""

/-- Puts the layers together. -/
def ofLayers (environment : Settings.Environment) (file : File) :
    Except SettingsError AgentSettings := do
  let pollInterval ← interval environment "POLL_INTERVAL" "poll_interval" file.pollInterval
    (TimeSpan.ofSeconds 2)
  let reportInterval ← interval environment "REPORT_INTERVAL" "report_interval"
    file.reportInterval (TimeSpan.ofSeconds 10)
  requirePositive "POLL_INTERVAL" pollInterval
  requirePositive "REPORT_INTERVAL" reportInterval
  let rateLimit ← limit environment file
  return {
    address := ((environment.text? "ADDRESS").or file.address).getD "localhost:8080"
    pollInterval, reportInterval, rateLimit
    key := optionalText environment "KEY" file.key
    cryptoKey := optionalText environment "CRYPTO_KEY" file.cryptoKey
    grpcAddress := optionalText environment "GRPC_ADDRESS" file.grpcAddress
    logLevel := ((environment.text? "LOG_LEVEL").map Text.lowercase).getD "info" }

/-- The settings of an agent. -/
def load (environment : Settings.Environment) (files : Files.Tree) :
    Except SettingsError AgentSettings := do
  ofLayers environment (← Settings.readFile File.shape {} environment files)

end AgentSettings
end Telemetry
