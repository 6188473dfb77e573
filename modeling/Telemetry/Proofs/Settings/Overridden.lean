import Telemetry.Agent.Run
import Telemetry.Proofs.Dispatch.Steady
import Telemetry.Proofs.Json.Differing
import Telemetry.Proofs.Settings.Agreement

/-!
# Settings that the environment overrides

What a file says about a setting does not matter if the environment sets it: the
file may say anything of the right type there, `null` or nothing, and the
settings, or the reason why there are none, are the same.  An agent's settings
that are accepted leave time between polls and between reports, and room for at
least one send.
-/

namespace Telemetry
namespace Settings

open Json

/-! ## What files are read from -/

/-- A reader takes a value by itself. -/
structure IsScalar (read : Reader α) : Prop where
  takes : TakesScalar read
  alone : ReadsAlone read
  skips : ∀ input, read (skipSpace input) = read input

theorem isScalar_string : IsScalar string where
  takes := takesScalar_string
  alone := readsAlone_string
  skips := fun input => by unfold string; rw [skipSpace_skipSpace]

theorem isScalar_flag : IsScalar flag where
  takes := takesScalar_flag
  alone := readsAlone_flag
  skips := fun input => by unfold flag; rw [skipSpace_skipSpace]

theorem isScalar_count : IsScalar count where
  takes := takesScalar_count
  alone := readsAlone_count
  skips := fun input => by unfold count number; rw [skipSpace_skipSpace]

/-- What a file says about a setting with the bytes of its value. -/
def valueOf (read : Reader α) (value : Bytes) : Option α :=
  (optional read value).toOption.bind Prod.fst

theorem isFilled_fileField
    {build : Given -> draft} {name : String} {read : Reader α}
    {get : draft -> Option (Option α)} {set : draft -> Option α -> draft}
    (scalar : IsScalar read)
    (gets : ∀ given, get (build given) = (given name).map (valueOf read))
    (sets : ∀ given value, set (build given) (valueOf read value) = build (given.also name value)) :
    (fileField name read get set).IsFilled build where
  mayBeAbsent := rfl
  isGiven := fun given => by
    change (get (build given)).isSome = (given name).isSome
    rw [gets, Option.isSome_map]
  takes := fun given input next rest taken => by
    obtain ⟨value, answer, -⟩ := read_fileField_eq_ok taken
    exact takesScalar_optional scalar.takes input value rest answer
  alone := fun given value rest isValue => by
    have together := readsAlone_optional scalar.alone scalar.skips value rest isValue
    unfold fileField Field.of
    dsimp only
    rw [together]
    cases optional read value <;> rfl
  refuses := fun given other input fault refused => by
    unfold fileField Field.of at refused ⊢
    dsimp only at refused ⊢
    cases answer : optional read input with
    | error found => rw [answer] at refused; cases refused; rfl
    | ok result => rw [answer] at refused; cases refused
  fills := fun given input next rest taken => by
    obtain ⟨value, answer, rfl⟩ := read_fileField_eq_ok taken
    have same : valueOf read input = value := by
      unfold valueOf
      rw [answer]
      rfl
    rw [← same]
    exact sets given input

/-! ## What the environment leaves open -/

/-- The environment leaves a value open only if its variable is not set. -/
theorem Environment.text?_eq_none_of_value?
    {environment : Environment} {name : String} {read? : List Char -> Option α}
    (isOpen : environment.value? name read? = .ok none) :
    environment.text? name = none := by
  unfold value? at isOpen
  split at isOpen
  next unset => exact unset
  next => split at isOpen <;> cases isOpen

/-- A text of the file counts only if the environment has none. -/
theorem or_congr
    {set text other : Option String}
    (same : set = none -> text = other) :
    set.or text = set.or other := by
  cases set with
  | some found => rfl
  | none => rw [same rfl]

/-- The environment sets the variable that overrides an entry. -/
def IsOverridden (environment : Environment) (overrides : List (String × String))
    (name : String) : Prop :=
  ∃ setter, overrides.lookup name = some setter ∧ environment.text? setter ≠ none

/-- Values that were given for all but overridden names are the same where nothing overrides. -/
theorem given_eq_of_text?_eq_none
    {environment : Environment} {overrides : List (String × String)} {names : List String}
    {given other : Given} {name setter : String}
    (same : given.without names = other.without names)
    (overridden : ∀ name ∈ names, IsOverridden environment overrides name)
    (overrider : overrides.lookup name = some setter)
    (unset : environment.text? setter = none) :
    given name = other name := by
  have apart : name ∉ names := by
    intro present
    obtain ⟨found, isFound, isSet⟩ := overridden name present
    obtain rfl := Option.some.inj (overrider.symm.trans isFound)
    exact isSet unset
  rw [← Given.without_of_not_mem apart given, same, Given.without_of_not_mem apart]

/-- So is what the file says under the name. -/
theorem join_valueOf_eq
    {environment : Environment} {overrides : List (String × String)} {names : List String}
    {given other : Given} {setter : String}
    (same : given.without names = other.without names)
    (overridden : ∀ name ∈ names, IsOverridden environment overrides name)
    (name : String) (overrider : overrides.lookup name = some setter)
    (read : Reader α) (unset : environment.text? setter = none) :
    ((given name).map (valueOf read)).join = ((other name).map (valueOf read)).join := by
  rw [given_eq_of_text?_eq_none same overridden overrider unset]

/-- Two trees have the same file of settings, or files that differ only in entries of some names. -/
def FilesDifferOnlyIn (shape : Shape draft file) (names : List String)
    (environment : Environment) (files others : Files.Tree) : Prop :=
  ∀ path, environment.text? "CONFIG" = some path ->
    files.read path = others.read path ∨
      ∃ content other, files.read path = .ok content ∧ others.read path = .ok other ∧
        shape.DifferOnlyIn names content other

/-- Files that differ only in some entries are refused for the same reason, or they say the same
but for these entries. -/
theorem readFile_of_filesDifferOnlyIn
    {shape : Shape draft file} {build : Given -> draft} {finish : draft -> file} {missing : file}
    {names : List String} {environment : Environment} {files others : Files.Tree}
    (filled : shape.IsFilled build)
    (complete : ∀ draft, shape.complete draft = .ok (finish draft))
    (differ : FilesDifferOnlyIn shape names environment files others) :
    readFile shape missing environment files = readFile shape missing environment others ∨
      ∃ given givenOther, given.without names = givenOther.without names ∧
        readFile shape missing environment files = .ok (finish (build given)) ∧
        readFile shape missing environment others = .ok (finish (build givenOther)) := by
  unfold readFile
  cases config : environment.text? "CONFIG" with
  | none => exact Or.inl rfl
  | some path =>
      dsimp only
      rcases differ path config with same | ⟨content, other, stored, storedOther, entries⟩
      · exact Or.inl (by rw [same])
      · rw [stored, storedOther]
        dsimp only
        rcases filled.decode_of_differOnlyIn entries with
          ⟨fault, refused, refusedOther⟩ | ⟨given, givenOther, same, read, readOther⟩
        · exact Or.inl (by rw [refused, refusedOther])
        · rw [read, readOther, complete, complete]
          exact Or.inr ⟨given, givenOther, same, rfl, rfl⟩

end Settings

open Settings Json

namespace AgentSettings

/-- What has been read of a file with the values that were given. -/
def File.Draft.ofGiven (given : Given) : File.Draft where
  address := (given "address").map (valueOf string)
  pollInterval := (given "poll_interval").map (valueOf string)
  reportInterval := (given "report_interval").map (valueOf string)
  rateLimit := (given "rate_limit").map (valueOf count)
  key := (given "key").map (valueOf string)
  cryptoKey := (given "crypto_key").map (valueOf string)
  grpcAddress := (given "grpc_address").map (valueOf string)

theorem File.isFilled_shape : File.shape.IsFilled File.Draft.ofGiven where
  blank := rfl
  fields := by
    simp only [File.shape, List.forall_mem_cons, List.not_mem_nil, false_implies, implies_true,
      and_true]
    refine ⟨isFilled_fileField isScalar_string (fun _ => rfl) ?_,
      isFilled_fileField isScalar_string (fun _ => rfl) ?_,
      isFilled_fileField isScalar_string (fun _ => rfl) ?_,
      isFilled_fileField isScalar_count (fun _ => rfl) ?_,
      isFilled_fileField isScalar_string (fun _ => rfl) ?_,
      isFilled_fileField isScalar_string (fun _ => rfl) ?_,
      isFilled_fileField isScalar_string (fun _ => rfl) ?_⟩
    all_goals
      intro given value
      simp [File.Draft.ofGiven, Given.also, Function.update]
  distinct := by decide
  complete := fun draft => ⟨draft.complete, rfl⟩

/-- The variable that overrides each entry of a file. -/
def overrides : List (String × String) :=
  [("address", "ADDRESS"), ("poll_interval", "POLL_INTERVAL"),
    ("report_interval", "REPORT_INTERVAL"), ("rate_limit", "RATE_LIMIT"), ("key", "KEY"),
    ("crypto_key", "CRYPTO_KEY"), ("grpc_address", "GRPC_ADDRESS")]

/-- Two files say the same of what the environment leaves open. -/
structure File.Agree (environment : Environment) (file other : File) : Prop where
  address : environment.text? "ADDRESS" = none -> file.address = other.address
  pollInterval : environment.text? "POLL_INTERVAL" = none ->
    file.pollInterval = other.pollInterval
  reportInterval : environment.text? "REPORT_INTERVAL" = none ->
    file.reportInterval = other.reportInterval
  rateLimit : environment.text? "RATE_LIMIT" = none -> file.rateLimit = other.rateLimit
  key : environment.text? "KEY" = none -> file.key = other.key
  cryptoKey : environment.text? "CRYPTO_KEY" = none -> file.cryptoKey = other.cryptoKey
  grpcAddress : environment.text? "GRPC_ADDRESS" = none -> file.grpcAddress = other.grpcAddress

theorem interval_congr
    {environment : Environment} {name : String} {text other : Option String}
    (same : environment.text? name = none -> text = other)
    (fileName : String) (usual : TimeSpan) :
    interval environment name fileName text usual =
      interval environment name fileName other usual := by
  unfold interval
  cases found : environment.seconds? name with
  | error error => rfl
  | ok span =>
      cases span with
      | some span => rfl
      | none => rw [same (Environment.text?_eq_none_of_value? found)]

theorem limit_congr
    {environment : Environment} {file other : File}
    (same : environment.text? "RATE_LIMIT" = none -> file.rateLimit = other.rateLimit) :
    limit environment file = limit environment other := by
  unfold limit
  cases found : environment.value? "RATE_LIMIT" readInt64? with
  | error error => rfl
  | ok number =>
      cases number with
      | some number => rfl
      | none => rw [same (Environment.text?_eq_none_of_value? found)]

theorem optionalText_congr
    {environment : Environment} {name : String} {text other : Option String}
    (same : environment.text? name = none -> text = other) :
    optionalText environment name text = optionalText environment name other :=
  congrArg (Option.filter _) (or_congr same)

/-- Files that say the same of what the environment leaves open make the same settings. -/
theorem ofLayers_congr
    {environment : Environment} {file other : File}
    (agree : File.Agree environment file other) :
    ofLayers environment file = ofLayers environment other := by
  unfold ofLayers
  rw [interval_congr agree.pollInterval, interval_congr agree.reportInterval,
    limit_congr agree.rateLimit, or_congr agree.address, optionalText_congr agree.key,
    optionalText_congr agree.cryptoKey, optionalText_congr agree.grpcAddress]

theorem File.agree_ofGiven
    {environment : Environment} {names : List String} {given other : Given}
    (same : given.without names = other.without names)
    (overridden : ∀ name ∈ names, IsOverridden environment overrides name) :
    File.Agree environment (File.Draft.ofGiven given).complete
      (File.Draft.ofGiven other).complete where
  address := join_valueOf_eq same overridden "address" rfl string
  pollInterval := join_valueOf_eq same overridden "poll_interval" rfl string
  reportInterval := join_valueOf_eq same overridden "report_interval" rfl string
  rateLimit := join_valueOf_eq same overridden "rate_limit" rfl count
  key := join_valueOf_eq same overridden "key" rfl string
  cryptoKey := join_valueOf_eq same overridden "crypto_key" rfl string
  grpcAddress := join_valueOf_eq same overridden "grpc_address" rfl string

/-- Entries that the environment overrides do not matter to an agent. -/
theorem load_of_filesDifferOnlyIn
    {environment : Environment} {names : List String} {files others : Files.Tree}
    (overridden : ∀ name ∈ names, IsOverridden environment overrides name)
    (differ : FilesDifferOnlyIn File.shape names environment files others) :
    load environment files = load environment others := by
  unfold load
  rcases readFile_of_filesDifferOnlyIn File.isFilled_shape (fun _ => rfl) differ with
    same | ⟨given, givenOther, same, read, readOther⟩
  · rw [same]
  · rw [read, readOther]
    exact ofLayers_congr (File.agree_ofGiven same overridden)

end AgentSettings

namespace ServerSettings

/-- What has been read of a file with the values that were given. -/
def File.Draft.ofGiven (given : Given) : File.Draft where
  address := (given "address").map (valueOf string)
  restore := (given "restore").map (valueOf flag)
  storeInterval := (given "store_interval").map (valueOf string)
  storeFile := (given "store_file").map (valueOf string)
  databaseDsn := (given "database_dsn").map (valueOf string)
  cryptoKey := (given "crypto_key").map (valueOf string)
  auditFile := (given "audit_file").map (valueOf string)
  auditUrl := (given "audit_url").map (valueOf string)
  key := (given "key").map (valueOf string)
  trustedSubnet := (given "trusted_subnet").map (valueOf string)
  grpcAddress := (given "grpc_address").map (valueOf string)

theorem File.isFilled_shape : File.shape.IsFilled File.Draft.ofGiven where
  blank := rfl
  fields := by
    simp only [File.shape, List.forall_mem_cons, List.not_mem_nil, false_implies, implies_true,
      and_true]
    refine ⟨isFilled_fileField isScalar_string (fun _ => rfl) ?_,
      isFilled_fileField isScalar_flag (fun _ => rfl) ?_,
      isFilled_fileField isScalar_string (fun _ => rfl) ?_,
      isFilled_fileField isScalar_string (fun _ => rfl) ?_,
      isFilled_fileField isScalar_string (fun _ => rfl) ?_,
      isFilled_fileField isScalar_string (fun _ => rfl) ?_,
      isFilled_fileField isScalar_string (fun _ => rfl) ?_,
      isFilled_fileField isScalar_string (fun _ => rfl) ?_,
      isFilled_fileField isScalar_string (fun _ => rfl) ?_,
      isFilled_fileField isScalar_string (fun _ => rfl) ?_,
      isFilled_fileField isScalar_string (fun _ => rfl) ?_⟩
    all_goals
      intro given value
      simp [File.Draft.ofGiven, Given.also, Function.update]
  distinct := by decide
  complete := fun draft => ⟨draft.complete, rfl⟩

/-- The variable that overrides each entry of a file. -/
def overrides : List (String × String) :=
  [("address", "ADDRESS"), ("restore", "RESTORE"), ("store_interval", "STORE_INTERVAL"),
    ("store_file", "FILE_STORAGE_PATH"), ("database_dsn", "DATABASE_DSN"),
    ("crypto_key", "CRYPTO_KEY"), ("audit_file", "AUDIT_FILE"), ("audit_url", "AUDIT_URL"),
    ("key", "KEY"), ("trusted_subnet", "TRUSTED_SUBNET"), ("grpc_address", "GRPC_ADDRESS")]

/-- Two files say the same of what the environment leaves open. -/
structure File.Agree (environment : Environment) (file other : File) : Prop where
  address : environment.text? "ADDRESS" = none -> file.address = other.address
  restore : environment.text? "RESTORE" = none -> file.restore = other.restore
  storeInterval : environment.text? "STORE_INTERVAL" = none ->
    file.storeInterval = other.storeInterval
  storeFile : environment.text? "FILE_STORAGE_PATH" = none -> file.storeFile = other.storeFile
  databaseDsn : environment.text? "DATABASE_DSN" = none -> file.databaseDsn = other.databaseDsn
  cryptoKey : environment.text? "CRYPTO_KEY" = none -> file.cryptoKey = other.cryptoKey
  auditFile : environment.text? "AUDIT_FILE" = none -> file.auditFile = other.auditFile
  auditUrl : environment.text? "AUDIT_URL" = none -> file.auditUrl = other.auditUrl
  key : environment.text? "KEY" = none -> file.key = other.key
  trustedSubnet : environment.text? "TRUSTED_SUBNET" = none ->
    file.trustedSubnet = other.trustedSubnet
  grpcAddress : environment.text? "GRPC_ADDRESS" = none -> file.grpcAddress = other.grpcAddress

theorem interval_congr
    {environment : Environment} {file other : File}
    (same : environment.text? "STORE_INTERVAL" = none ->
      file.storeInterval = other.storeInterval) :
    interval environment file = interval environment other := by
  unfold interval
  cases found : environment.seconds? "STORE_INTERVAL" with
  | error error => rfl
  | ok span =>
      cases span with
      | some span => rfl
      | none => rw [same (Environment.text?_eq_none_of_value? found)]

theorem restores_congr
    {environment : Environment} {file other : File}
    (same : environment.text? "RESTORE" = none -> file.restore = other.restore) :
    restores environment file = restores environment other := by
  unfold restores
  cases found : environment.value? "RESTORE" readFlag? with
  | error error => rfl
  | ok word =>
      cases word with
      | some word => rfl
      | none => rw [same (Environment.text?_eq_none_of_value? found)]

theorem optionalText_congr
    {environment : Environment} {name : String} {text other : Option String}
    (same : environment.text? name = none -> text = other) :
    optionalText environment name text = optionalText environment name other :=
  or_congr fun unset => congrArg notBlank (same unset)

/-- Files that say the same of what the environment leaves open make the same settings. -/
theorem ofLayers_congr
    {environment : Environment} {file other : File}
    (agree : File.Agree environment file other) :
    ofLayers environment file = ofLayers environment other := by
  unfold ofLayers subnet
  rw [interval_congr agree.storeInterval, restores_congr agree.restore,
    optionalText_congr agree.trustedSubnet, optionalText_congr agree.address,
    optionalText_congr agree.storeFile, optionalText_congr agree.databaseDsn,
    optionalText_congr agree.key, optionalText_congr agree.cryptoKey,
    optionalText_congr agree.auditFile, optionalText_congr agree.auditUrl,
    optionalText_congr agree.grpcAddress]

theorem File.agree_ofGiven
    {environment : Environment} {names : List String} {given other : Given}
    (same : given.without names = other.without names)
    (overridden : ∀ name ∈ names, IsOverridden environment overrides name) :
    File.Agree environment (File.Draft.ofGiven given).complete
      (File.Draft.ofGiven other).complete where
  address := join_valueOf_eq same overridden "address" rfl string
  restore := join_valueOf_eq same overridden "restore" rfl flag
  storeInterval := join_valueOf_eq same overridden "store_interval" rfl string
  storeFile := join_valueOf_eq same overridden "store_file" rfl string
  databaseDsn := join_valueOf_eq same overridden "database_dsn" rfl string
  cryptoKey := join_valueOf_eq same overridden "crypto_key" rfl string
  auditFile := join_valueOf_eq same overridden "audit_file" rfl string
  auditUrl := join_valueOf_eq same overridden "audit_url" rfl string
  key := join_valueOf_eq same overridden "key" rfl string
  trustedSubnet := join_valueOf_eq same overridden "trusted_subnet" rfl string
  grpcAddress := join_valueOf_eq same overridden "grpc_address" rfl string

/-- Entries that the environment overrides do not matter to a server. -/
theorem load_of_filesDifferOnlyIn
    {environment : Environment} {names : List String} {files others : Files.Tree}
    (overridden : ∀ name ∈ names, IsOverridden environment overrides name)
    (differ : FilesDifferOnlyIn File.shape names environment files others) :
    load environment files = load environment others := by
  unfold load
  rcases readFile_of_filesDifferOnlyIn File.isFilled_shape (fun _ => rfl) differ with
    same | ⟨given, givenOther, same, read, readOther⟩
  · rw [same]
  · rw [read, readOther]
    exact ofLayers_congr (File.agree_ofGiven same overridden)

end ServerSettings

/-! ## Variables that count as absent -/

namespace Settings

/-- The bytes of a variable are no text, or a blank one. -/
def HoldsNoText (bytes : Bytes) : Prop :=
  ∀ text, Bytes.text? bytes = some text -> Text.isAllBlank text = true

/-- A variable that holds no text counts as absent. -/
theorem text?_unset
    {environment : Environment} {name : String} {bytes : Bytes}
    (isSet : environment name = some bytes) (noText : HoldsNoText bytes) :
    Environment.text? (Function.update environment name none) = environment.text? := by
  funext other
  unfold Environment.text?
  by_cases same : other = name
  · subst same
    rw [Function.update_self, isSet]
    cases text : Bytes.text? bytes with
    | none => simp [text]
    | some found =>
        have blank := noText found text
        simp [text, notBlank, Option.filter_some, blank]
  · rw [Function.update_of_ne same]

/-- The settings depend on the texts of the variables only. -/
theorem load_eq_of_text?_eq
    {environment other : Environment}
    (same : environment.text? = other.text?) (files : Files.Tree) :
    AgentSettings.load environment files = AgentSettings.load other files ∧
      ServerSettings.load environment files = ServerSettings.load other files := by
  unfold AgentSettings.load ServerSettings.load AgentSettings.ofLayers ServerSettings.ofLayers
  constructor
  · simp only [AgentSettings.interval, AgentSettings.limit, AgentSettings.optionalText, readFile,
      Environment.seconds?, Environment.value?, same]
  · simp only [ServerSettings.interval, ServerSettings.restores, ServerSettings.subnet,
      ServerSettings.optionalText, readFile, Environment.seconds?, Environment.value?, same]

end Settings

/-! ## Settings of agents that are accepted -/

namespace AgentSettings

/-- What an agent with settings is to do, given what it samples and what it meets with. -/
def plan (settings : AgentSettings) (ticks : 0 < settings.reportInterval.nanoseconds)
    (samples : List (String × (Nat -> List Update))) (stopAt : Nat) (sendSpan : Nat -> Nat) :
    Agent.Plan where
  collectors := samples.map fun (name, poll) => ⟨name, settings.pollInterval.nanoseconds, poll⟩
  reportInterval := settings.reportInterval.nanoseconds
  reportInterval_pos := ticks
  rateLimit := settings.rateLimit
  stopAt
  sendSpan

/-- An agent can work with its settings: time passes between its polls and between its reports, and
it has just as many workers as sends may go on at once. -/
structure CanWork (settings : AgentSettings) : Prop where
  /-- There is time between two polls. -/
  polls : 0 < settings.pollInterval.nanoseconds
  /-- There is time between two reports. -/
  reports : 0 < settings.reportInterval.nanoseconds
  /-- At least one send may go on. -/
  limit : 1 ≤ settings.rateLimit
  /-- Whatever the agent samples, it waits before each poll. -/
  collectors : ∀ samples stopAt sendSpan,
    ∀ collector ∈ (settings.plan reports samples stopAt sendSpan).collectors,
      0 < collector.interval
  /-- It has as many workers as sends may go on. -/
  free : ∀ samples stopAt sendSpan,
    (Agent.State.start (settings.plan reports samples stopAt sendSpan)).free.length =
      settings.rateLimit
  /-- So has its dispatcher. -/
  workers : ∀ {batch : Type} [DecidableEq batch]
    (outcome : Dispatch.Job batch -> Dispatch.Outcome),
    (Dispatch.State.start outcome settings.rateLimit).workers.length = settings.rateLimit

theorem nanoseconds_pos_of_requirePositive
    {name : String} {span : TimeSpan} {done : Unit}
    (required : requirePositive name span = .ok done) :
    0 < span.nanoseconds := by
  unfold requirePositive at required
  split at required
  next => cases required
  next nonzero => exact Nat.pos_of_ne_zero nonzero

theorem one_le_of_limit
    {environment : Environment} {file : File} {most : Nat}
    (limited : limit environment file = .ok most) :
    1 ≤ most := by
  unfold limit at limited
  split at limited
  next => cases limited
  next => cases limited; exact Nat.le_max_right _ _
  next => cases limited; exact Nat.le_max_right _ _

/-- An agent can work with settings that are accepted. -/
theorem canWork_of_load
    {environment : Environment} {files : Files.Tree} {settings : AgentSettings}
    (loads : load environment files = .ok settings) :
    settings.CanWork := by
  unfold load ofLayers at loads
  simp only [bind, Except.bind] at loads
  split at loads
  next => cases loads
  split at loads
  next => cases loads
  split at loads
  next => cases loads
  split at loads
  next => cases loads
  next _ pollsRequired =>
  split at loads
  next => cases loads
  next _ reportsRequired =>
  split at loads
  next => cases loads
  next most limited =>
  cases loads
  have polls := nanoseconds_pos_of_requirePositive pollsRequired
  have atLeast := one_le_of_limit limited
  refine ⟨polls, nanoseconds_pos_of_requirePositive reportsRequired, atLeast, ?_, ?_, ?_⟩
  · intro samples stopAt sendSpan collector present
    obtain ⟨sample, -, rfl⟩ := List.mem_map.mp present
    exact polls
  · intro samples stopAt sendSpan
    exact List.length_replicate.trans (Nat.max_eq_left atLeast)
  · intro batch _ outcome
    have started := (Dispatch.Steady.start outcome most).1
    exact started.sound.counted.workers.trans (Nat.max_eq_left atLeast)

end AgentSettings

namespace Settings

/--
Entries that the environment overrides, of whatever right type or missing, matter neither to an
agent nor to a server; a variable that holds no text is as good as unset for both; and an agent can
work with all settings that are accepted.
-/
theorem settings_follow_environment (environment : Environment) :
    (∀ names files others,
        (∀ name ∈ names, IsOverridden environment AgentSettings.overrides name) ->
        FilesDifferOnlyIn AgentSettings.File.shape names environment files others ->
        AgentSettings.load environment files = AgentSettings.load environment others) ∧
      (∀ names files others,
        (∀ name ∈ names, IsOverridden environment ServerSettings.overrides name) ->
        FilesDifferOnlyIn ServerSettings.File.shape names environment files others ->
        ServerSettings.load environment files = ServerSettings.load environment others) ∧
      (∀ name bytes files, environment name = some bytes -> HoldsNoText bytes ->
        AgentSettings.load environment files =
            AgentSettings.load (Function.update environment name none) files ∧
          ServerSettings.load environment files =
            ServerSettings.load (Function.update environment name none) files) ∧
      ∀ files settings, AgentSettings.load environment files = .ok settings ->
        settings.CanWork :=
  ⟨fun _ _ _ => AgentSettings.load_of_filesDifferOnlyIn,
    fun _ _ _ => ServerSettings.load_of_filesDifferOnlyIn,
    fun _ _ files isSet noText => load_eq_of_text?_eq (text?_unset isSet noText).symm files,
    fun _ _ => AgentSettings.canWork_of_load⟩

/-- An environment that names a file of settings and an address, with a key that is no text. -/
def addressSet (name : String) : Option Bytes :=
  if name = "ADDRESS" then some (Bytes.ofText "host:1")
  else if name = "KEY" then some [0xff]
  else onlyConfig name

/-- An object with an address in front of a limit that is too low. -/
def objectWithAddress : String := "\x7b\"address\": \"other:2\", \"rate_limit\": 0\x7d"

/-- The object without the address. -/
def objectWithoutAddress : String := "\x7b\"rate_limit\": 0\x7d"

theorem objects_differ_in_address :
    AgentSettings.File.shape.DifferOnlyIn ["address"] (Bytes.ofText objectWithAddress)
        (Bytes.ofText objectWithoutAddress) ∧
      ServerSettings.File.shape.DifferOnlyIn ["address"] (Bytes.ofText objectWithAddress)
        (Bytes.ofText objectWithoutAddress) := by
  have limit : entriesWithout ["address"] [("address", Bytes.ofText " \"other:2\""),
      ("rate_limit", Bytes.ofText " 0")] = [("rate_limit", Bytes.ofText " 0")] := by decide +kernel
  constructor
  · exact ⟨⟨[("address", Bytes.ofText " \"other:2\""), ("rate_limit", Bytes.ofText " 0")],
      .closed []⟩, ⟨[("rate_limit", Bytes.ofText " 0")], .closed []⟩, by decide +kernel,
      by decide +kernel, by decide +kernel, by decide +kernel, limit, rfl, nofun⟩
  · exact ⟨⟨[("address", Bytes.ofText " \"other:2\""), ("rate_limit", Bytes.ofText " 0")],
      .closed []⟩, ⟨[("rate_limit", Bytes.ofText " 0")], .closed []⟩, by decide +kernel,
      by decide +kernel, by decide +kernel, by decide +kernel, limit, rfl, nofun⟩

/-- An address in the file changes nothing, and the limit behind it is raised to one. -/
theorem address_in_file_is_overridden :
    let files := configFile objectWithAddress
    let others := configFile objectWithoutAddress
    AgentSettings.load addressSet files = AgentSettings.load addressSet others ∧
      ServerSettings.load addressSet files = ServerSettings.load addressSet others ∧
      AgentSettings.load addressSet files =
        AgentSettings.load (Function.update addressSet "KEY" none) files ∧
      ∃ settings, AgentSettings.load addressSet files = .ok settings ∧
        settings.address = "host:1" ∧ settings.rateLimit = 1 ∧ settings.CanWork := by
  intro files others
  obtain ⟨agents, servers, unset, work⟩ := settings_follow_environment addressSet
  have config : Environment.text? addressSet "CONFIG" = some "c.json" := by decide +kernel
  have stored : files.read "c.json" = .ok (Bytes.ofText objectWithAddress) := by decide +kernel
  have storedOther : others.read "c.json" = .ok (Bytes.ofText objectWithoutAddress) := by
    decide +kernel
  have differ {draft file : Type} {shape : Shape draft file}
      (entries : shape.DifferOnlyIn ["address"] (Bytes.ofText objectWithAddress)
        (Bytes.ofText objectWithoutAddress)) :
      FilesDifferOnlyIn shape ["address"] addressSet files others := by
    intro path isPath
    obtain rfl := Option.some.inj (config.symm.trans isPath)
    exact Or.inr ⟨_, _, stored, storedOther, entries⟩
  have addressIsSet : Environment.text? addressSet "ADDRESS" ≠ none := by decide +kernel
  have seen : (AgentSettings.load addressSet files).toOption.map
      (fun settings => (settings.address, settings.rateLimit)) = some ("host:1", 1) := by
    decide +kernel
  obtain ⟨settings, loads, both⟩ := exists_eq_ok_of_view seen
  obtain ⟨address, limit⟩ := Prod.mk.inj both
  refine ⟨agents ["address"] files others ?_ (differ objects_differ_in_address.1),
    servers ["address"] files others ?_ (differ objects_differ_in_address.2),
    (unset "KEY" [0xff] files rfl ?_).1,
    settings, loads, address, limit, work files settings loads⟩
  · intro name present
    obtain rfl := List.mem_singleton.mp present
    exact ⟨"ADDRESS", rfl, addressIsSet⟩
  · intro name present
    obtain rfl := List.mem_singleton.mp present
    exact ⟨"ADDRESS", rfl, addressIsSet⟩
  · intro text isText
    have none : Bytes.text? [0xff] = Option.none := by decide +kernel
    rw [none] at isText
    cases isText

end Settings
end Telemetry
