import Telemetry.Proofs.Json.TwoShapes
import Telemetry.Settings.Agent
import Telemetry.Settings.Server

/-!
# When an agent and a server have the same settings

An agent and a server may be set by one environment and one file.  They look for
the settings that both have under the same names, and so they find the same in
an object.  A blank text of the file is left out by the server only, and an
array gives each of them its own settings by position.
-/

namespace Telemetry
namespace Settings

open Json

/-! ## What a file says -/

/-- The settings of a file that agents and servers share, as far as they have been read. -/
structure Shared where
  /-- The address. -/
  address : Option (Option String) := none
  /-- The signing key. -/
  key : Option (Option String) := none
  /-- The path of the key for sealing. -/
  cryptoKey : Option (Option String) := none
  /-- The address for remote calls. -/
  grpcAddress : Option (Option String) := none

/-- The shared settings once the value of a member has been read as a text or `null`. -/
def Shared.take (shared : Shared) (name : String) (answer : Result (Option String)) : Shared :=
  let value := answer.toOption.map Prod.fst
  if name = "address" then { shared with address := value }
  else if name = "key" then { shared with key := value }
  else if name = "crypto_key" then { shared with cryptoKey := value }
  else if name = "grpc_address" then { shared with grpcAddress := value }
  else shared

/-- The shared settings of an agent's file. -/
def sharedOfAgent (draft : AgentSettings.File.Draft) : Shared :=
  ⟨draft.address, draft.key, draft.cryptoKey, draft.grpcAddress⟩

/-- The shared settings of a server's file. -/
def sharedOfServer (draft : ServerSettings.File.Draft) : Shared :=
  ⟨draft.address, draft.key, draft.cryptoKey, draft.grpcAddress⟩

theorem read_fileField_eq_ok
    {name : String} {read : Reader α} {get : draft -> Option (Option α)}
    {set : draft -> Option α -> draft} {current next : draft} {input rest : Bytes}
    (taken : (fileField name read get set).read current input = .ok (next, rest)) :
    ∃ value, optional read input = .ok (value, rest) ∧ next = set current value := by
  unfold fileField Field.of at taken
  dsimp only at taken
  split at taken
  next => cases taken
  next value after answer =>
    cases taken
    exact ⟨value, answer, rfl⟩

/-- A field takes one value, and what it does to the shared settings is what its name says. -/
def IsViewed (view : draft -> Shared) (field : Json.Field draft) : Prop :=
  ∀ ⦃current next input rest⦄, field.read current input = .ok (next, rest) ->
    skipValue input = .ok rest ∧
      view next = (view current).take field.name (optional string input)

/-- The names of the shared settings. -/
def sharedNames : List String := ["address", "key", "crypto_key", "grpc_address"]

theorem Shared.take_of_not_mem
    {name : String}
    (other : name ∉ sharedNames)
    (shared : Shared) (answer : Result (Option String)) :
    shared.take name answer = shared := by
  simp only [sharedNames, List.mem_cons, List.not_mem_nil, or_false, not_or] at other
  obtain ⟨address, key, cryptoKey, grpcAddress⟩ := other
  rw [take, if_neg address, if_neg key, if_neg cryptoKey, if_neg grpcAddress]

/-- A field for a text is viewed if it sets what its name says. -/
theorem isViewed_text
    {view : draft -> Shared} {name : String} {get : draft -> Option (Option String)}
    {set : draft -> Option String -> draft}
    (sets : ∀ current value rest,
      view (set current value) = (view current).take name (.ok (value, rest))) :
    IsViewed view (fileField name string get set) := by
  intro current next input rest taken
  obtain ⟨value, answer, rfl⟩ := read_fileField_eq_ok taken
  refine ⟨(takesScalar_optional takesScalar_string).skipValue answer, ?_⟩
  rw [answer]
  exact sets current value rest

/-- A field is viewed if it sets what is not shared. -/
theorem isViewed_other
    {view : draft -> Shared} {name : String} {read : Reader α} {get : draft -> Option (Option α)}
    {set : draft -> Option α -> draft}
    (takes : TakesScalar read)
    (other : name ∉ sharedNames)
    (spares : ∀ current value, view (set current value) = view current) :
    IsViewed view (fileField name read get set) := by
  intro current next input rest taken
  obtain ⟨value, answer, rfl⟩ := read_fileField_eq_ok taken
  refine ⟨(takesScalar_optional takes).skipValue answer, ?_⟩
  rw [spares]
  exact (Shared.take_of_not_mem other _ _).symm

theorem isViewed_agent :
    ∀ field ∈ AgentSettings.File.shape.fields, IsViewed sharedOfAgent field := by
  simp only [AgentSettings.File.shape, List.forall_mem_cons, List.not_mem_nil, false_implies,
    implies_true, and_true]
  exact ⟨isViewed_text fun _ _ _ => by simp [Shared.take, sharedOfAgent, Except.toOption],
    isViewed_other takesScalar_string (by decide) fun _ _ => rfl,
    isViewed_other takesScalar_string (by decide) fun _ _ => rfl,
    isViewed_other takesScalar_count (by decide) fun _ _ => rfl,
    isViewed_text fun _ _ _ => by simp [Shared.take, sharedOfAgent, Except.toOption],
    isViewed_text fun _ _ _ => by simp [Shared.take, sharedOfAgent, Except.toOption],
    isViewed_text fun _ _ _ => by simp [Shared.take, sharedOfAgent, Except.toOption]⟩

theorem isViewed_server :
    ∀ field ∈ ServerSettings.File.shape.fields, IsViewed sharedOfServer field := by
  have other {name : String} {get : ServerSettings.File.Draft -> Option (Option String)}
      {set : ServerSettings.File.Draft -> Option String -> ServerSettings.File.Draft}
      (apart : name ∉ sharedNames)
      (spares : ∀ current value, sharedOfServer (set current value) = sharedOfServer current) :
      IsViewed sharedOfServer (fileField name string get set) :=
    isViewed_other takesScalar_string apart spares
  simp only [ServerSettings.File.shape, List.forall_mem_cons, List.not_mem_nil, false_implies,
    implies_true, and_true]
  exact ⟨isViewed_text fun _ _ _ => by simp [Shared.take, sharedOfServer, Except.toOption],
    isViewed_other takesScalar_flag (by decide) fun _ _ => rfl,
    other (by decide) fun _ _ => rfl,
    other (by decide) fun _ _ => rfl,
    other (by decide) fun _ _ => rfl,
    isViewed_text fun _ _ _ => by simp [Shared.take, sharedOfServer, Except.toOption],
    other (by decide) fun _ _ => rfl,
    other (by decide) fun _ _ => rfl,
    isViewed_text fun _ _ _ => by simp [Shared.take, sharedOfServer, Except.toOption],
    other (by decide) fun _ _ => rfl,
    isViewed_text fun _ _ _ => by simp [Shared.take, sharedOfServer, Except.toOption]⟩

/-- What a member does to the shared settings depends on its name and its value only. -/
theorem view_readMember
    {view : draft -> Shared} {fields : List (Json.Field draft)}
    (viewed : ∀ field ∈ fields, IsViewed view field)
    (complete : ∀ name ∈ sharedNames, ∃ field ∈ fields, field.name = name)
    {current next : draft} {name : String} {input rest : Bytes}
    (read : readMember fields current name input = .ok (next, rest)) :
    ∃ value, readColon input = .ok value ∧ skipValue value = .ok rest ∧
      view next = (view current).take name (optional string value) := by
  obtain ⟨value, colon, taken⟩ := readMember_eq_ok read
  refine ⟨value, colon, ?_⟩
  cases found : fields.find? fun field => field.name == name with
  | some field =>
      rw [found] at taken
      obtain ⟨skipped, viewNext⟩ := viewed field (List.mem_of_find?_eq_some found) taken
      have named := List.find?_some found
      exact ⟨skipped, beq_iff_eq.mp named ▸ viewNext⟩
  | none =>
      rw [found] at taken
      obtain ⟨rfl, skipped⟩ := taken
      refine ⟨skipped, (Shared.take_of_not_mem (fun isShared => ?_) _ _).symm⟩
      obtain ⟨field, present, same⟩ := complete name isShared
      exact List.find?_eq_none.mp found field present (beq_iff_eq.mpr same)

/-- Members leave the same shared settings in the drafts of an agent's and a server's file. -/
theorem membersKeep_shared :
    MembersKeep (fun agent server => sharedOfAgent agent = sharedOfServer server)
      AgentSettings.File.shape.fields ServerSettings.File.shape.fields := by
  have agentComplete : ∀ name ∈ sharedNames, ∃ field ∈ AgentSettings.File.shape.fields,
      field.name = name := by
    simp [sharedNames, AgentSettings.File.shape, fileField, Field.of]
  have serverComplete : ∀ name ∈ sharedNames, ∃ field ∈ ServerSettings.File.shape.fields,
      field.name = name := by
    simp [sharedNames, ServerSettings.File.shape, fileField, Field.of]
  intro current next other after name input rest behind same read readOther
  obtain ⟨value, colon, skipped, view⟩ := view_readMember isViewed_agent agentComplete read
  obtain ⟨valueOther, colonOther, skippedOther, viewOther⟩ :=
    view_readMember isViewed_server serverComplete readOther
  obtain rfl := Except.ok.inj (colon.symm.trans colonOther)
  refine ⟨Except.ok.inj (skippedOther.symm.trans skipped), ?_⟩
  change sharedOfAgent next = sharedOfServer after
  rw [view, viewOther, same]

/-! ## What an array says -/

/-- What the drafts of an agent's and a server's file have in common when an array has been read. -/
structure SharePositions (agent : AgentSettings.File.Draft) (server : ServerSettings.File.Draft) :
    Prop where
  address : agent.address = server.address
  cryptoKey : agent.cryptoKey = server.cryptoKey
  key : server.key = none
  grpcAddress : server.grpcAddress = none

/-- Two fields keep a relation if what they set from one value does. -/
theorem keepsBoth_fileField
    {related : left -> right -> Prop} {name other : String} {read : Reader α} {readOther : Reader β}
    {get : left -> Option (Option α)} {set : left -> Option α -> left}
    {getOther : right -> Option (Option β)} {setOther : right -> Option β -> right}
    (takes : TakesScalar read) (takesOther : TakesScalar readOther)
    (sets : ∀ current draft value valueOther input rest, related current draft ->
      optional read input = .ok (value, rest) ->
      optional readOther input = .ok (valueOther, rest) ->
      related (set current value) (setOther draft valueOther)) :
    Field.KeepsBoth related (fileField name read get set)
      (fileField other readOther getOther setOther) := by
  intro current next draft after input rest behind holds taken takenOther
  obtain ⟨value, answer, rfl⟩ := read_fileField_eq_ok taken
  obtain ⟨valueOther, answerOther, rfl⟩ := read_fileField_eq_ok takenOther
  have skipped := (takesScalar_optional takes).skipValue answer
  have skippedOther := (takesScalar_optional takesOther).skipValue answerOther
  obtain rfl := Except.ok.inj (skippedOther.symm.trans skipped)
  exact ⟨rfl, sets current draft value valueOther input behind holds answer answerOther⟩

/-- An array gives an agent and a server the same first and sixth setting, and as long as an agent
takes it, it gives a server no key and no address for remote calls. -/
theorem keepsBoth_positions :
    List.Forall₂ (Field.KeepsBoth SharePositions) AgentSettings.File.shape.fields
      (ServerSettings.File.shape.fields.take 7) := by
  have text := takesScalar_string
  refine .cons ?_ (.cons ?_ (.cons ?_ (.cons ?_ (.cons ?_ (.cons ?_ (.cons ?_ .nil))))))
  · refine keepsBoth_fileField text text fun _ _ _ _ _ _ holds read readOther => ?_
    obtain ⟨rfl, -⟩ := Prod.mk.inj (Except.ok.inj (read.symm.trans readOther))
    exact ⟨rfl, holds.cryptoKey, holds.key, holds.grpcAddress⟩
  · exact keepsBoth_fileField text takesScalar_flag fun _ _ _ _ _ _ holds _ _ =>
      ⟨holds.address, holds.cryptoKey, holds.key, holds.grpcAddress⟩
  · exact keepsBoth_fileField text text fun _ _ _ _ _ _ holds _ _ =>
      ⟨holds.address, holds.cryptoKey, holds.key, holds.grpcAddress⟩
  · exact keepsBoth_fileField takesScalar_count text fun _ _ _ _ _ _ holds _ _ =>
      ⟨holds.address, holds.cryptoKey, holds.key, holds.grpcAddress⟩
  · exact keepsBoth_fileField text text fun _ _ _ _ _ _ holds _ _ =>
      ⟨holds.address, holds.cryptoKey, holds.key, holds.grpcAddress⟩
  · refine keepsBoth_fileField text text fun _ _ _ _ _ _ holds read readOther => ?_
    obtain ⟨rfl, -⟩ := Prod.mk.inj (Except.ok.inj (read.symm.trans readOther))
    exact ⟨holds.address, rfl, holds.key, holds.grpcAddress⟩
  · exact keepsBoth_fileField text text fun _ _ _ _ _ _ holds _ _ =>
      ⟨holds.address, holds.cryptoKey, holds.key, holds.grpcAddress⟩

/-! ## Files -/

/-- The file of settings is an array, so each setting is told by its position. -/
def IsPositional (environment : Environment) (files : Files.Tree) : Prop :=
  ∃ path content rest, environment.text? "CONFIG" = some path ∧ files.read path = .ok content ∧
    skipSpace content = 0x5b :: rest

/-- What an agent and a server find of the shared settings in one file. -/
structure FindShared (positional : Prop) (agent : AgentSettings.File)
    (server : ServerSettings.File) : Prop where
  /-- The address is the same. -/
  address : agent.address = server.address
  /-- The path of the key for sealing is the same. -/
  cryptoKey : agent.cryptoKey = server.cryptoKey
  /-- The other settings are the same if they are told by name. -/
  named : ¬positional -> agent.key = server.key ∧ agent.grpcAddress = server.grpcAddress
  /-- They are missing for the server if they are told by position. -/
  positions : positional -> server.key = none ∧ server.grpcAddress = none

/-- An agent and a server find the same shared settings in an object, and some of them in an
array. -/
theorem findShared_decode
    {content : Bytes} {agent : AgentSettings.File} {server : ServerSettings.File}
    (read : decode AgentSettings.File.shape.read content = .ok agent)
    (readServer : decode ServerSettings.File.shape.read content = .ok server) :
    FindShared (∃ rest, skipSpace content = 0x5b :: rest) agent server := by
  rcases Shape.decode_eq_ok read with
    ⟨rest, last, after, start, members, complete⟩ |
    ⟨rest, last, after, expected, closed, start, positions, complete, close⟩
  · have notList : ¬∃ rest, skipSpace content = 0x5b :: rest := by
      rintro ⟨other, list⟩
      rw [start] at list
      cases list
    rcases Shape.decode_eq_ok readServer with
      ⟨restServer, final, behind, startServer, membersServer, completeServer⟩ |
      ⟨other, _, _, _, _, list, -⟩
    · cases start.symm.trans startServer
      have same : sharedOfAgent last = sharedOfServer final :=
        membersKeep_shared.readMembers rfl members membersServer
      obtain ⟨address, key, cryptoKey, grpcAddress⟩ := Shared.mk.inj same
      cases complete
      cases completeServer
      exact ⟨congrArg Option.join address, congrArg Option.join cryptoKey,
        fun _ => ⟨congrArg Option.join key, congrArg Option.join grpcAddress⟩,
        fun list => absurd list notList⟩
    · exact absurd ⟨other, list⟩ notList
  · rcases Shape.decode_eq_ok readServer with
      ⟨other, _, _, object, -⟩ |
      ⟨restServer, final, behind, otherwise, closedServer, startServer, positionsServer,
        completeServer, -⟩
    · rw [start] at object
      cases object
    · cases start.symm.trans startServer
      rw [← List.take_append_drop 7 ServerSettings.File.shape.fields] at positionsServer
      have shared : SharePositions last final :=
        related_of_readPositions keepsBoth_positions ⟨rfl, rfl, rfl, rfl⟩ positions close
          positionsServer
      cases complete
      cases completeServer
      exact ⟨congrArg Option.join shared.address, congrArg Option.join shared.cryptoKey,
        fun notList => absurd ⟨rest, start⟩ notList,
        fun _ => ⟨congrArg Option.join shared.key, congrArg Option.join shared.grpcAddress⟩⟩

theorem readFile_eq_ok
    {shape : Shape draft file} {missing found : file} {environment : Environment}
    {files : Files.Tree}
    (read : readFile shape missing environment files = .ok found) :
    (environment.text? "CONFIG" = none ∧ found = missing) ∨
      ∃ path content, environment.text? "CONFIG" = some path ∧ files.read path = .ok content ∧
        decode shape.read content = .ok found := by
  unfold readFile at read
  split at read
  next unset =>
    cases read
    exact Or.inl ⟨unset, rfl⟩
  next path place =>
    split at read
    next => cases read
    next content stored =>
      cases answer : decode shape.read content with
      | error fault => rw [answer] at read; cases read
      | ok value =>
          rw [answer] at read
          cases read
          exact Or.inr ⟨path, content, place, stored, answer⟩

theorem findShared_readFile
    {environment : Environment} {files : Files.Tree}
    {agent : AgentSettings.File} {server : ServerSettings.File}
    (read : readFile AgentSettings.File.shape {} environment files = .ok agent)
    (readServer : readFile ServerSettings.File.shape {} environment files = .ok server) :
    FindShared (IsPositional environment files) agent server := by
  rcases readFile_eq_ok read with ⟨unset, rfl⟩ | ⟨path, content, place, stored, decoded⟩
  · rcases readFile_eq_ok readServer with ⟨-, rfl⟩ | ⟨other, _, isSet, -⟩
    · exact ⟨rfl, rfl, fun _ => ⟨rfl, rfl⟩, fun _ => ⟨rfl, rfl⟩⟩
    · rw [unset] at isSet
      cases isSet
  · rcases readFile_eq_ok readServer with
      ⟨unset, -⟩ | ⟨other, found, isSet, isStored, decodedServer⟩
    · rw [unset] at place
      cases place
    · obtain rfl := Option.some.inj (place.symm.trans isSet)
      obtain rfl := Except.ok.inj (stored.symm.trans isStored)
      have positional : IsPositional environment files ↔
          ∃ rest, skipSpace content = 0x5b :: rest := by
        constructor
        · rintro ⟨_, _, rest, isPlace, isContent, start⟩
          obtain rfl := Option.some.inj (place.symm.trans isPlace)
          obtain rfl := Except.ok.inj (stored.symm.trans isContent)
          exact ⟨rest, start⟩
        · rintro ⟨rest, start⟩
          exact ⟨path, content, rest, place, stored, start⟩
      have found := findShared_decode decoded decodedServer
      exact ⟨found.address, found.cryptoKey, fun named => found.named (mt positional.mpr named),
        fun isPositional => found.positions (positional.mp isPositional)⟩

/-! ## Layers -/

theorem notBlank_eq_some_iff {text : Option String} {found : String} :
    notBlank text = some found ↔ text = some found ∧ Text.isAllBlank found = false := by
  simp [notBlank, Option.filter_eq_some_iff]

/-- A text of the environment is not blank, and so it is not empty. -/
theorem Environment.isAllBlank_of_text?
    {environment : Environment} {name text : String}
    (isSet : environment.text? name = some text) :
    Text.isAllBlank text = false :=
  (notBlank_eq_some_iff.mp isSet).2

theorem ne_empty_of_not_isAllBlank {text : String} (solid : Text.isAllBlank text = false) :
    text ≠ "" := by
  rintro rfl
  exact absurd solid (by decide)

/-- A text of the environment is a setting for agents and servers alike. -/
theorem optionalText_eq_of_isSet
    {environment : Environment} {name : String}
    (isSet : environment.text? name ≠ none)
    (text other : Option String) :
    AgentSettings.optionalText environment name text =
      ServerSettings.optionalText environment name other := by
  obtain ⟨found, isFound⟩ := Option.ne_none_iff_exists'.mp isSet
  have nonempty := ne_empty_of_not_isAllBlank (Environment.isAllBlank_of_text? isFound)
  unfold AgentSettings.optionalText ServerSettings.optionalText
  rw [isFound]
  simp [nonempty]

/-- An agent and a server make different settings of one text of the file exactly if it is blank
but not empty. -/
theorem optionalText_eq_iff (environment : Environment) (name : String) (text : Option String) :
    AgentSettings.optionalText environment name text =
        ServerSettings.optionalText environment name text ↔
      environment.text? name ≠ none ∨
        ∀ found, text = some found -> Text.isAllBlank found = true -> found = "" := by
  by_cases isSet : environment.text? name = none
  · unfold AgentSettings.optionalText ServerSettings.optionalText notBlank
    rw [isSet]
    cases text with
    | none => simp
    | some found =>
        by_cases empty : found = ""
        · subst empty
          have blank : Text.isAllBlank "" = true := by decide
          simp [Option.filter_some, blank]
        · cases blank : Text.isAllBlank found <;> simp [Option.filter_some, empty, blank]
  · exact iff_of_true (optionalText_eq_of_isSet isSet _ _) (Or.inl isSet)

/-- A text that only an agent finds is a setting of it exactly if it is not empty. -/
theorem optionalText_eq_missing_iff
    (environment : Environment) (name : String) (text : Option String) :
    AgentSettings.optionalText environment name text =
        ServerSettings.optionalText environment name none ↔
      environment.text? name ≠ none ∨ ∀ found, text = some found -> found = "" := by
  by_cases isSet : environment.text? name = none
  · unfold AgentSettings.optionalText ServerSettings.optionalText notBlank
    rw [isSet]
    cases text with
    | none => simp
    | some found => by_cases empty : found = "" <;> simp [Option.filter_some, empty]
  · exact iff_of_true (optionalText_eq_of_isSet isSet _ _) (Or.inl isSet)

/-- Any text of the file is an address for an agent, and one that is not blank for a server. -/
theorem getD_address_eq_iff
    {usual : String}
    (solid : Text.isAllBlank usual = false)
    (environment : Environment) (name : String) (text : Option String) :
    ((environment.text? name).or text).getD usual =
        (ServerSettings.optionalText environment name text).getD usual ↔
      environment.text? name ≠ none ∨
        ∀ found, text = some found -> Text.isAllBlank found = false := by
  unfold ServerSettings.optionalText notBlank
  cases isSet : environment.text? name with
  | some found => simp
  | none =>
      cases text with
      | none => simp
      | some found =>
          cases blank : Text.isAllBlank found with
          | false => simp [Option.filter_some, blank]
          | true =>
              have other : found ≠ usual := by
                rintro rfl
                rw [blank] at solid
                cases solid
              simp [Option.filter_some, blank, other]

/-- The layers of the shared settings of an agent. -/
theorem load_agent_eq_ok
    {environment : Environment} {files : Files.Tree} {agent : AgentSettings}
    (loads : AgentSettings.load environment files = .ok agent) :
    ∃ file, readFile AgentSettings.File.shape {} environment files = .ok file ∧
      agent.address = ((environment.text? "ADDRESS").or file.address).getD "localhost:8080" ∧
      agent.key = AgentSettings.optionalText environment "KEY" file.key ∧
      agent.cryptoKey = AgentSettings.optionalText environment "CRYPTO_KEY" file.cryptoKey ∧
      agent.grpcAddress = AgentSettings.optionalText environment "GRPC_ADDRESS" file.grpcAddress ∧
      agent.logLevel = ((environment.text? "LOG_LEVEL").map Text.lowercase).getD "info" := by
  unfold AgentSettings.load AgentSettings.ofLayers at loads
  simp only [bind, Except.bind] at loads
  split at loads
  next => cases loads
  next file read =>
    repeat' split at loads
    all_goals try cases loads
    exact ⟨file, read, rfl, rfl, rfl, rfl, rfl⟩

/-- The layers of the shared settings of a server. -/
theorem load_server_eq_ok
    {environment : Environment} {files : Files.Tree} {server : ServerSettings}
    (loads : ServerSettings.load environment files = .ok server) :
    ∃ file, readFile ServerSettings.File.shape {} environment files = .ok file ∧
      server.address =
        (ServerSettings.optionalText environment "ADDRESS" file.address).getD "localhost:8080" ∧
      server.key = ServerSettings.optionalText environment "KEY" file.key ∧
      server.cryptoKey = ServerSettings.optionalText environment "CRYPTO_KEY" file.cryptoKey ∧
      server.grpcAddress =
        ServerSettings.optionalText environment "GRPC_ADDRESS" file.grpcAddress ∧
      server.logLevel = ((environment.text? "LOG_LEVEL").map Text.lowercase).getD "info" := by
  unfold ServerSettings.load ServerSettings.ofLayers at loads
  simp only [bind, Except.bind] at loads
  split at loads
  next => cases loads
  next file read =>
    repeat' split at loads
    all_goals try cases loads
    exact ⟨file, read, rfl, rfl, rfl, rfl, rfl⟩

/-! ## Agents and servers -/

/-- How the settings of an agent and a server compare, given what the agent finds in the file. -/
structure Compare (environment : Environment) (files : Files.Tree) (file : AgentSettings.File)
    (agent : AgentSettings) (server : ServerSettings) : Prop where
  /-- As much is logged. -/
  logLevel : agent.logLevel = server.logLevel
  /-- The addresses are the same unless the one in the file counts and is blank. -/
  address : agent.address = server.address ↔
    environment.text? "ADDRESS" ≠ none ∨
      ∀ text, file.address = some text -> Text.isAllBlank text = false
  /-- The paths of keys for sealing are the same unless the one in the file counts and is blank
  but not empty. -/
  cryptoKey : agent.cryptoKey = server.cryptoKey ↔
    environment.text? "CRYPTO_KEY" ≠ none ∨
      ∀ text, file.cryptoKey = some text -> Text.isAllBlank text = true -> text = ""
  /-- The signing keys are the same unless the one in the file counts and is blank or told by
  position, but not empty. -/
  key : agent.key = server.key ↔
    environment.text? "KEY" ≠ none ∨
      ∀ text, file.key = some text ->
        Text.isAllBlank text = true ∨ IsPositional environment files -> text = ""
  /-- So are the addresses for remote calls. -/
  grpcAddress : agent.grpcAddress = server.grpcAddress ↔
    environment.text? "GRPC_ADDRESS" ≠ none ∨
      ∀ text, file.grpcAddress = some text ->
        Text.isAllBlank text = true ∨ IsPositional environment files -> text = ""

/-- A setting that a server does not find by position compares with what the agent finds. -/
theorem optionalText_eq_iff_of_shared
    {positional : Prop} {text other : Option String}
    (named : ¬positional -> text = other) (missing : positional -> other = none)
    (environment : Environment) (name : String) :
    AgentSettings.optionalText environment name text =
        ServerSettings.optionalText environment name other ↔
      environment.text? name ≠ none ∨
        ∀ found, text = some found -> Text.isAllBlank found = true ∨ positional -> found = "" := by
  by_cases isPositional : positional
  · rw [missing isPositional, optionalText_eq_missing_iff]
    simp [isPositional]
  · rw [← named isPositional, optionalText_eq_iff]
    simp [isPositional]

/--
An agent and a server that are set by one environment and one file find the same settings in the
file, if it is no array, and log as much.  Each of the other shared settings is the same exactly if
the environment sets it or the file does not tell it as a blank text or, in an array, by position.
-/
theorem shared_settings_compare
    {environment : Environment} {files : Files.Tree}
    {agent : AgentSettings} {server : ServerSettings}
    (agentLoads : AgentSettings.load environment files = .ok agent)
    (serverLoads : ServerSettings.load environment files = .ok server) :
    ∃ agentFile serverFile,
      readFile AgentSettings.File.shape {} environment files = .ok agentFile ∧
      readFile ServerSettings.File.shape {} environment files = .ok serverFile ∧
      FindShared (IsPositional environment files) agentFile serverFile ∧
      Compare environment files agentFile agent server := by
  obtain ⟨agentFile, read, address, key, cryptoKey, grpcAddress, logLevel⟩ :=
    load_agent_eq_ok agentLoads
  obtain ⟨serverFile, readServer, addressServer, keyServer, cryptoKeyServer, grpcAddressServer,
    logLevelServer⟩ := load_server_eq_ok serverLoads
  have found := findShared_readFile read readServer
  refine ⟨agentFile, serverFile, read, readServer, found, ?_, ?_, ?_, ?_, ?_⟩
  · rw [logLevel, logLevelServer]
  · rw [address, addressServer, ← found.address]
    exact getD_address_eq_iff (by decide) environment "ADDRESS" agentFile.address
  · rw [cryptoKey, cryptoKeyServer, ← found.cryptoKey]
    exact optionalText_eq_iff environment "CRYPTO_KEY" agentFile.cryptoKey
  · rw [key, keyServer]
    exact optionalText_eq_iff_of_shared (fun named => (found.named named).1)
      (fun isPositional => (found.positions isPositional).1) environment "KEY"
  · rw [grpcAddress, grpcAddressServer]
    exact optionalText_eq_iff_of_shared (fun named => (found.named named).2)
      (fun isPositional => (found.positions isPositional).2) environment "GRPC_ADDRESS"

theorem exists_eq_ok_of_view
    {answer : Except ε α} {view : α -> β} {value : β}
    (seen : answer.toOption.map view = some value) :
    ∃ found, answer = .ok found ∧ view found = value := by
  cases answer with
  | error error => cases seen
  | ok found => exact ⟨found, rfl, Option.some.inj seen⟩

/-- An environment that names a file of settings and sets nothing else. -/
def onlyConfig (name : String) : Option Bytes :=
  if name = "CONFIG" then some (Bytes.ofText "c.json") else none

/-- The file of settings with a content, and nothing else. -/
def configFile (content : String) : Files.Tree :=
  Files.Tree.empty.insert ["home", "c.json"] (.file (Bytes.ofText content))

/-- An array gives an agent its key and a server the name of its database. -/
theorem positional_settings_compare :
    let files := configFile "[null, null, null, null, \"secret\"]"
    ∃ agent server, AgentSettings.load onlyConfig files = .ok agent ∧
      ServerSettings.load onlyConfig files = .ok server ∧
      agent.key = some "secret" ∧
      server.key = none ∧ server.databaseDsn = some "secret" ∧
      ∃ agentFile serverFile, FindShared (IsPositional onlyConfig files) agentFile serverFile ∧
        Compare onlyConfig files agentFile agent server := by
  intro files
  have seen : (AgentSettings.load onlyConfig files).toOption.map AgentSettings.key =
      some (some "secret") := by decide +kernel
  have seenServer : (ServerSettings.load onlyConfig files).toOption.map
      (fun server => (server.key, server.databaseDsn)) = some (none, some "secret") := by
    decide +kernel
  obtain ⟨agent, agentLoads, key⟩ := exists_eq_ok_of_view seen
  obtain ⟨server, serverLoads, both⟩ := exists_eq_ok_of_view seenServer
  obtain ⟨keyServer, database⟩ := Prod.mk.inj both
  obtain ⟨agentFile, serverFile, -, -, found, compare⟩ :=
    shared_settings_compare agentLoads serverLoads
  exact ⟨agent, server, agentLoads, serverLoads, key, keyServer, database, agentFile, serverFile,
    found, compare⟩

/-- A blank key in the file is a key for an agent and none for a server. -/
theorem blank_key_differs :
    let files := configFile "\x7b\"key\": \" \"\x7d"
    ∃ agent server, AgentSettings.load onlyConfig files = .ok agent ∧
      ServerSettings.load onlyConfig files = .ok server ∧
      agent.key = some " " ∧ server.key = none := by
  intro files
  have seen : (AgentSettings.load onlyConfig files).toOption.map AgentSettings.key =
      some (some " ") := by decide +kernel
  have seenServer : (ServerSettings.load onlyConfig files).toOption.map ServerSettings.key =
      some none := by decide +kernel
  obtain ⟨agent, agentLoads, key⟩ := exists_eq_ok_of_view seen
  obtain ⟨server, serverLoads, keyServer⟩ := exists_eq_ok_of_view seenServer
  exact ⟨agent, server, agentLoads, serverLoads, key, keyServer⟩

end Settings
end Telemetry
