import Mathlib.Data.List.TakeWhile
import Telemetry.Proofs.Bytes
import Telemetry.Proofs.Http.Authentic
import Telemetry.Proofs.Text.Encoding

/-!
# Texts as segments of a path

A segment spells a text if its percent signs resolve to the bytes of the text
and nothing in it ends the segment.  Every text has such a spelling, and a
request whose path consists of spelled segments is about the texts that they
spell.
-/

namespace Telemetry

namespace Text

/-! ## Cutting at a separator -/

/-- A text without the separator is one piece. -/
theorem pieces_of_notMem
    {separator : Char} {text : List Char}
    (clean : separator ∉ text) :
    pieces separator text = [text] := by
  induction text with
  | nil => rfl
  | cons letter rest inductionHypothesis =>
      obtain ⟨other, cleanRest⟩ := List.ne_and_not_mem_of_not_mem_cons clean
      rw [pieces, if_neg (Ne.symm other), inductionHypothesis cleanRest]

/-- The first piece ends at the first separator. -/
theorem pieces_append
    {separator : Char} {front : List Char}
    (clean : separator ∉ front)
    (rest : List Char) :
    pieces separator (front ++ separator :: rest) = front :: pieces separator rest := by
  induction front with
  | nil => rw [List.nil_append, pieces, if_pos rfl]
  | cons letter others inductionHypothesis =>
      obtain ⟨other, cleanOthers⟩ := List.ne_and_not_mem_of_not_mem_cons clean
      rw [List.cons_append, pieces, if_neg (Ne.symm other), inductionHypothesis cleanOthers]

end Text

namespace Http

/-! ## Spellings -/

/-- Whether a letter ends a segment: it begins the next one, the query or the fragment. -/
def endsSegment (letter : Char) : Bool :=
  letter == '/' || letter == '?' || letter == '#'

/-- A segment spells a text. -/
structure Spells (segment text : String) : Prop where
  /-- Nothing in the segment ends it. -/
  inside : ∀ letter ∈ segment.toList, endsSegment letter = false
  /-- The text is what its percent signs resolve to. -/
  resolved : segmentText? segment = some text

namespace Spells

variable {segment text : String}

theorem of_all
    (inside : (segment.toList.all fun letter => !endsSegment letter) = true)
    (resolved : segmentText? segment = some text) :
    Spells segment text :=
  ⟨by simpa using inside, resolved⟩

/-- Only an empty text is spelled by an empty segment. -/
theorem ne_empty (spells : Spells segment text) (nonempty : text ≠ "") : segment ≠ "" := by
  rintro rfl
  have empty : segmentText? "" = some "" := by decide
  exact nonempty (Option.some.inj (spells.resolved.symm.trans empty))

theorem slash_notMem (spells : Spells segment text) : '/' ∉ segment.toList :=
  fun present => absurd (spells.inside '/' present) (by decide)

end Spells

/-- Bytes without a percent sign stay as they are. -/
theorem resolvePercent_of_notMem
    {bytes : Bytes}
    (clean : 0x25 ∉ bytes) :
    resolvePercent bytes = bytes := by
  fun_induction resolvePercent bytes with
  | case1 => rfl
  | case2 => rfl
  | case3 => rfl
  | case4 byte high low rest digits value isValue inductionHypothesis =>
      have other := (List.ne_and_not_mem_of_not_mem_cons clean).1
      exact absurd isValue (by simp [digits, Ne.symm other])
  | case5 byte high low rest digits noValue inductionHypothesis =>
      rw [inductionHypothesis (List.ne_and_not_mem_of_not_mem_cons clean).2]

/-- A text without percent signs that does not end a segment spells itself. -/
theorem spells_self
    {text : String}
    (inside : ∀ letter ∈ text.toList, endsSegment letter = false)
    (clean : '%' ∉ text.toList) :
    Spells text text where
  inside := inside
  resolved := by
    have plain : 0x25 ∉ Bytes.ofText text := by
      rw [Bytes.ofText_eq_flatMap, List.mem_flatMap]
      rintro ⟨letter, present, byte⟩
      have isPercent : letter = '%' :=
        Char.toNat_inj.mp (Bytes.toNat_of_mem_utf8EncodeChar byte (by decide))
      exact clean (isPercent ▸ present)
    rw [segmentText?, resolvePercent_of_notMem plain, Bytes.text?_ofText]

/-- The spelling of bytes in which each of them is a percent sign and two digits. -/
def percentLetters (bytes : Bytes) : List Char :=
  bytes.flatMap fun byte =>
    ['%', Bytes.hexDigit (byte.toNat / 16), Bytes.hexDigit (byte.toNat % 16)]

/-- The spelling of a text in which each of its bytes is a percent sign and two digits. -/
def percentSpelling (text : String) : String :=
  String.ofList (percentLetters (Bytes.ofText text))

theorem utf8EncodeChar_hexDigit : ∀ value < 16,
    String.utf8EncodeChar (Bytes.hexDigit value) =
        [UInt8.ofNat (Bytes.hexDigit value).toNat] ∧
      Char.ofNat (UInt8.ofNat (Bytes.hexDigit value).toNat).toNat = Bytes.hexDigit value ∧
      endsSegment (Bytes.hexDigit value) = false := by
  decide

/-- Percent signs and digits resolve to the bytes that they spell. -/
theorem resolvePercent_percentLetters (bytes : Bytes) :
    resolvePercent ((percentLetters bytes).flatMap String.utf8EncodeChar) = bytes := by
  induction bytes with
  | nil => rfl
  | cons byte rest inductionHypothesis =>
      have small : byte.toNat < 256 := byte.toNat_lt
      obtain ⟨highByte, highBack, -⟩ := utf8EncodeChar_hexDigit (byte.toNat / 16) (by omega)
      obtain ⟨lowByte, lowBack, -⟩ := utf8EncodeChar_hexDigit (byte.toNat % 16) (by omega)
      have percent : String.utf8EncodeChar '%' = [0x25] := by decide
      have whole : 16 * (byte.toNat / 16) + byte.toNat % 16 = byte.toNat := by omega
      have split : (percentLetters (byte :: rest)).flatMap String.utf8EncodeChar =
          0x25 :: UInt8.ofNat (Bytes.hexDigit (byte.toNat / 16)).toNat ::
            UInt8.ofNat (Bytes.hexDigit (byte.toNat % 16)).toNat ::
            (percentLetters rest).flatMap String.utf8EncodeChar := by
        simp [percentLetters, percent, highByte, lowByte]
      rw [split, resolvePercent, if_pos rfl, highBack, lowBack,
        Bytes.hexValue?_hexDigit (by omega), Bytes.hexValue?_hexDigit (by omega)]
      simp only [Option.bind_some, Option.map_some]
      rw [whole, inductionHypothesis, UInt8.ofNat_toNat]

/-- Every text has a spelling. -/
theorem spells_percentSpelling (text : String) : Spells (percentSpelling text) text where
  inside := by
    intro letter present
    rw [percentSpelling, String.toList_ofList] at present
    obtain ⟨byte, -, spelled⟩ := List.mem_flatMap.mp present
    have small : byte.toNat < 256 := byte.toNat_lt
    simp only [List.mem_cons, List.not_mem_nil, or_false] at spelled
    rcases spelled with rfl | rfl | rfl
    · decide
    · exact (utf8EncodeChar_hexDigit _ (by omega)).2.2
    · exact (utf8EncodeChar_hexDigit _ (by omega)).2.2
  resolved := by
    rw [segmentText?, percentSpelling, Bytes.ofText_ofList, resolvePercent_percentLetters,
      Bytes.text?_ofText]

/-! ## Routes of spelled segments -/

/-- The path of a value to look up. -/
def valueTarget (type name : String) : String :=
  "/value/" ++ type ++ "/" ++ name

/-- The path of an update. -/
def updateTarget (type name raw : String) : String :=
  "/update/" ++ type ++ "/" ++ name ++ "/" ++ raw

/-- Letters that begin neither a query nor a fragment. -/
def StaysInPath (letters : List Char) : Prop :=
  ∀ letter ∈ letters, letter ≠ '?' ∧ letter ≠ '#'

theorem StaysInPath.append
    {front rest : List Char}
    (before : StaysInPath front) (after : StaysInPath rest) :
    StaysInPath (front ++ rest) :=
  List.forall_mem_append.mpr ⟨before, after⟩

theorem StaysInPath.slash
    {rest : List Char}
    (after : StaysInPath rest) :
    StaysInPath ('/' :: rest) :=
  List.forall_mem_cons.mpr ⟨by decide, after⟩

/-- A spelled segment does not leave the path. -/
theorem Spells.staysInPath
    {segment text : String}
    (spells : Spells segment text) :
    StaysInPath segment.toList := by
  intro letter present
  have inside := spells.inside letter present
  simp only [endsSegment, Bool.or_eq_false_iff, beq_eq_false_iff_ne] at inside
  exact ⟨inside.1.2, inside.2⟩

/-- A target that never leaves its path is its path. -/
theorem Request.path_eq
    {request : Request} {letters : List Char}
    (target : request.target.toList = letters)
    (plain : StaysInPath letters) :
    request.path = letters := by
  unfold path
  rw [target, List.takeWhile_eq_self_iff]
  intro letter present
  simpa using plain letter present

namespace Route

/-- Two spelled segments lead to the value of what they spell. -/
theorem ofPath?_of_valueTarget
    {request : Request} {type name typeText nameText : String}
    (target : request.target = valueTarget type name)
    (typeSpelled : Spells type typeText) (nameSpelled : Spells name nameText)
    (named : nameText ≠ "") :
    ofPath? request.path = some (.valuePath type name) := by
  have letters : request.target.toList =
      '/' :: ("value".toList ++ '/' :: (type.toList ++ '/' :: name.toList)) := by
    rw [target, valueTarget]
    simp
  have plain : StaysInPath ("value".toList ++ '/' :: (type.toList ++ '/' :: name.toList)) :=
    .append (by simp [StaysInPath])
      (.slash (typeSpelled.staysInPath.append (.slash nameSpelled.staysInPath)))
  have nonempty := nameSpelled.ne_empty named
  unfold ofPath?
  rw [Request.path_eq letters plain.slash, ← List.nil_append ('/' :: _),
    Text.pieces_append List.not_mem_nil, Text.pieces_append (by decide),
    Text.pieces_append typeSpelled.slash_notMem, Text.pieces_of_notMem nameSpelled.slash_notMem]
  simp [nonempty]

/-- Three spelled segments lead to the update of what they spell. -/
theorem ofPath?_of_updateTarget
    {request : Request} {type name raw typeText nameText rawText : String}
    (target : request.target = updateTarget type name raw)
    (typeSpelled : Spells type typeText) (nameSpelled : Spells name nameText)
    (rawSpelled : Spells raw rawText) (valued : rawText ≠ "") :
    ofPath? request.path = some (.updatePath type name raw) := by
  have letters : request.target.toList = '/' :: ("update".toList ++
      '/' :: (type.toList ++ '/' :: (name.toList ++ '/' :: raw.toList))) := by
    rw [target, updateTarget]
    simp
  have plain : StaysInPath ("update".toList ++
      '/' :: (type.toList ++ '/' :: (name.toList ++ '/' :: raw.toList))) :=
    .append (by simp [StaysInPath]) (.slash (typeSpelled.staysInPath.append
      (.slash (nameSpelled.staysInPath.append (.slash rawSpelled.staysInPath)))))
  have nonempty := rawSpelled.ne_empty valued
  unfold ofPath?
  rw [Request.path_eq letters plain.slash, ← List.nil_append ('/' :: _),
    Text.pieces_append List.not_mem_nil, Text.pieces_append (by decide),
    Text.pieces_append typeSpelled.slash_notMem, Text.pieces_append nameSpelled.slash_notMem,
    Text.pieces_of_notMem rawSpelled.slash_notMem]
  simp [nonempty]

end Route

/-! ## Requests with spelled segments -/

namespace Request

/-- The request asks for the value of a metric whose type and name it spells in its path. -/
structure GetsValue (request : Request) (type name : String) : Prop where
  method : request.method = "GET"
  target : ∃ typeSegment nameSegment, request.target = valueTarget typeSegment nameSegment ∧
    Spells typeSegment type ∧ Spells nameSegment name
  modest : Server.announcesTooMuch request = false

/-- The request posts an update whose type, name and value it spells in its path. -/
structure PostsValue (request : Request) (type name raw : String) : Prop where
  method : request.method = "POST"
  target : ∃ typeSegment nameSegment rawSegment,
    request.target = updateTarget typeSegment nameSegment rawSegment ∧
      Spells typeSegment type ∧ Spells nameSegment name ∧ Spells rawSegment raw
  modest : Server.announcesTooMuch request = false

end Request

/-- The request for the value of a metric, spelled with percent signs only. -/
def getValue (type name : String) : Request :=
  { method := "GET", target := valueTarget (percentSpelling type) (percentSpelling name) }

theorem getsValue_getValue (type name : String) : (getValue type name).GetsValue type name :=
  ⟨rfl, ⟨_, _, rfl, spells_percentSpelling type, spells_percentSpelling name⟩, rfl⟩

/-- The answer to a request for the value of a metric. -/
def answerValue (store : Store) (type name : String) : Response :=
  match MetricKind.ofName? type with
  | none => .text 400 "invalid metric type"
  | some kind =>
      match store.find? kind name with
      | none => .text 404 "not found"
      | some update => .text 200 update.valueText

namespace Server

/-- A request for the value of a metric with a name is answered from the store. -/
theorem handle_of_getsValue
    {request : Request} {type name : String}
    (gets : request.GetsValue type name)
    (named : name ≠ "")
    (server : Server) (now : Int64) (state : Service.State) :
    server.handle now state request = (state, answerValue state.store type name) := by
  obtain ⟨typeSegment, nameSegment, target, typeSpelled, nameSpelled⟩ := gets.target
  rw [handle_of_takes (Route.ofPath?_of_valueTarget target typeSpelled nameSpelled named)
    (gets.method ▸ rfl) (gets.method ▸ by decide), gets.modest]
  change (state, respondText state.store typeSegment nameSegment) = _
  rw [respondText, typeSpelled.resolved, nameSpelled.resolved]
  rfl

/-- An update that is spelled in a path and can be parsed is made. -/
theorem handle_of_postsValue
    {request : Request} {type name raw : String} {update : Update}
    (posts : request.PostsValue type name raw)
    (valued : raw ≠ "")
    (parsed : Update.parse type name raw = .ok update)
    (server : Server) (now : Int64) (state : Service.State) :
    server.handle now state request =
      server.respondUpdate now state request [update.toMetric] (.text 200 "") := by
  obtain ⟨typeSegment, nameSegment, rawSegment, target, typeSpelled, nameSpelled, rawSpelled⟩ :=
    posts.target
  rw [handle_of_post (Route.ofPath?_of_updateTarget target typeSpelled nameSpelled rawSpelled
    valued) posts.method rfl, posts.modest]
  change server.respondPath now state request typeSegment nameSegment rawSegment = _
  rw [respondPath, typeSpelled.resolved, nameSpelled.resolved, rawSpelled.resolved]
  dsimp only
  rw [parsed]

end Server
end Http
end Telemetry
