import Telemetry.Proofs.Http.Authentic
import Telemetry.Proofs.Number.PlainText
import Telemetry.Proofs.Store.Listing

/-!
# The page shows every metric and nothing else

A name in a page is inert: nothing in it opens or closes a tag, and an
ampersand is always the beginning of an entity.  So the items of the page are
found between its tags, whatever the names are.  Reading the entities of an item
gives the name and the text of the value, and the last colon is between them;
hence a page tells which rows it was made from.
-/

namespace Telemetry
namespace Http
namespace Page

/-! ## Reading a page -/

/-- The spellings of the letters that mean something in a page. -/
def entities : List (List Char) :=
  ["&amp;", "&lt;", "&gt;", "&quot;", "&#39;"].map String.toList

/-- Whether a letter means something in a page, wherever it stands. -/
def isMarkup (letter : Char) : Bool :=
  letter == '<' || letter == '>' || letter == '"' || letter == '\x27'

/-- Letters that are nothing but text in a page. -/
structure Inert (letters : List Char) : Prop where
  noMarkup : ∀ letter ∈ letters, isMarkup letter = false
  ampersands : ∀ front rest, letters = front ++ '&' :: rest ->
    ∃ entity ∈ entities, entity <+: '&' :: rest

/-- Reads entities as the letters that they stand for, once from left to right. -/
def unescape : List Char -> List Char
  | '&' :: 'a' :: 'm' :: 'p' :: ';' :: rest => '&' :: unescape rest
  | '&' :: 'l' :: 't' :: ';' :: rest => '<' :: unescape rest
  | '&' :: 'g' :: 't' :: ';' :: rest => '>' :: unescape rest
  | '&' :: 'q' :: 'u' :: 'o' :: 't' :: ';' :: rest => '"' :: unescape rest
  | '&' :: '#' :: '3' :: '9' :: ';' :: rest => '\x27' :: unescape rest
  | letter :: rest => letter :: unescape rest
  | [] => []

/-- The contents of the list items of a page: what stands between each `<li>` and the next tag. -/
def listItems : List Char -> List (List Char)
  | [] => []
  | letter :: rest =>
      if "<li>".toList.isPrefixOf (letter :: rest) then
        (rest.drop 3).takeWhile (· != '<') :: listItems rest
      else listItems rest

/-- Cuts a text at the last colon with a blank after it. -/
def cutAtLastColon : List Char -> Option (List Char × List Char)
  | [] => none
  | letter :: rest =>
      match cutAtLastColon rest with
      | some (name, value) => some (letter :: name, value)
      | none =>
          if ": ".toList.isPrefixOf (letter :: rest) then some ([], rest.drop 1) else none

/-- The row that a list item shows. -/
def rowOfItem (content : List Char) : Option (String × String) :=
  (cutAtLastColon (unescape content)).map (Prod.map String.ofList String.ofList)

/-! ## Escaped texts -/

/-- A letter is spelled by an entity, or by itself if it means nothing in a page. -/
theorem escapeLetter_cases (letter : Char) :
    escapeLetter letter ∈ entities ∨
      (escapeLetter letter = [letter] ∧ letter ≠ '&' ∧ isMarkup letter = false) := by
  unfold escapeLetter
  split
  · exact Or.inl (by decide)
  split
  · exact Or.inl (by decide)
  split
  · exact Or.inl (by decide)
  split
  · exact Or.inl (by decide)
  split
  · exact Or.inl (by decide)
  next ampersand less greater quote apostrophe =>
    exact Or.inr ⟨rfl, ampersand, by simp [isMarkup, less, greater, quote, apostrophe]⟩

/-- An entity is an ampersand and letters that mean nothing in a page. -/
theorem exists_of_mem_entities {entity : List Char} (present : entity ∈ entities) :
    ∃ others, entity = '&' :: others ∧
      ∀ letter ∈ others, letter ≠ '&' ∧ isMarkup letter = false := by
  have shape : ∀ entity ∈ entities, entity.head? = some '&' ∧
      ∀ letter ∈ entity.tail, letter ≠ '&' ∧ isMarkup letter = false := by
    simp [entities, isMarkup]
  obtain ⟨begins, others⟩ := shape entity present
  obtain ⟨rest, rfl⟩ := List.head?_eq_some_iff.mp begins
  exact ⟨rest, rfl, others⟩

theorem unescape_cons_of_ne
    {letter : Char}
    (other : letter ≠ '&') (rest : List Char) :
    unescape (letter :: rest) = letter :: unescape rest := by
  rw [unescape] <;> exact fun _ same => absurd same other

/-- The spelling of a letter is read as that letter, whatever follows. -/
theorem unescape_escapeLetter (letter : Char) (rest : List Char) :
    unescape (escapeLetter letter ++ rest) = letter :: unescape rest := by
  unfold escapeLetter
  split
  next same => exact same ▸ rfl
  split
  next same => exact same ▸ rfl
  split
  next same => exact same ▸ rfl
  split
  next same => exact same ▸ rfl
  split
  next same => exact same ▸ rfl
  next other _ _ _ _ => exact unescape_cons_of_ne other rest

/-- The spelling of a text. -/
def escapeLetters (letters : List Char) : List Char :=
  letters.flatMap escapeLetter

theorem toList_escape (text : String) : (escape text).toList = escapeLetters text.toList :=
  String.toList_ofList

theorem escapeLetters_append (front rest : List Char) :
    escapeLetters (front ++ rest) = escapeLetters front ++ escapeLetters rest :=
  List.flatMap_append

/-- The spelling of a text is read as that text. -/
theorem unescape_escapeLetters (letters : List Char) :
    unescape (escapeLetters letters) = letters := by
  induction letters with
  | nil => rfl
  | cons letter rest inductionHypothesis =>
      rw [escapeLetters, List.flatMap_cons, unescape_escapeLetter]
      exact congrArg _ inductionHypothesis

namespace Inert

theorem cons
    {letter : Char} {rest : List Char}
    (plain : letter ≠ '&' ∧ isMarkup letter = false)
    (inert : Inert rest) :
    Inert (letter :: rest) where
  noMarkup := List.forall_mem_cons.mpr ⟨plain.2, inert.noMarkup⟩
  ampersands := by
    intro front behind same
    cases front with
    | nil => exact absurd (List.cons.inj same).1 plain.1
    | cons first others => exact inert.ampersands others behind (List.cons.inj same).2

theorem append_plain
    {front rest : List Char}
    (plain : ∀ letter ∈ front, letter ≠ '&' ∧ isMarkup letter = false)
    (inert : Inert rest) :
    Inert (front ++ rest) := by
  induction front with
  | nil => exact inert
  | cons letter others inductionHypothesis =>
      obtain ⟨first, behind⟩ := List.forall_mem_cons.mp plain
      exact cons first (inductionHypothesis behind)

theorem append_entity
    {entity rest : List Char}
    (present : entity ∈ entities)
    (inert : Inert rest) :
    Inert (entity ++ rest) := by
  obtain ⟨tail, rfl, plain⟩ := exists_of_mem_entities present
  have behind := append_plain plain inert
  constructor
  · exact List.forall_mem_cons.mpr ⟨by decide, behind.noMarkup⟩
  · intro front others same
    cases front with
    | nil =>
        rw [List.nil_append] at same
        exact ⟨_, present, rest, same⟩
    | cons first more => exact behind.ampersands more others (List.cons.inj same).2

end Inert

/-- The spelling of a text is inert. -/
theorem inert_escapeLetters (letters : List Char) : Inert (escapeLetters letters) := by
  induction letters with
  | nil => exact ⟨by simp [escapeLetters], by simp [escapeLetters]⟩
  | cons letter rest inductionHypothesis =>
      rw [escapeLetters, List.flatMap_cons]
      rcases escapeLetter_cases letter with entity | ⟨itself, plain⟩
      · exact inductionHypothesis.append_entity entity
      · rw [itself]
        exact inductionHypothesis.cons plain

/-! ## Items -/

/-- A row as it is read in an item. -/
def rowLetters (row : String × String) : List Char :=
  row.1.toList ++ ": ".toList ++ row.2.toList

/-- An item is the spelling of its row between two tags. -/
theorem toList_item (row : String × String) :
    (item row).toList = "<li>".toList ++ escapeLetters (rowLetters row) ++ "</li>".toList := by
  have separator : escapeLetters ": ".toList = ": ".toList := by decide
  rw [rowLetters, escapeLetters_append, escapeLetters_append, separator, item]
  simp only [String.toList_append, toList_escape, List.append_assoc]

/-- A list item begins with a tag. -/
theorem listItems_skip
    {letters : List Char}
    (noTag : '<' ∉ letters) (rest : List Char) :
    listItems (letters ++ rest) = listItems rest := by
  induction letters with
  | nil => rfl
  | cons letter others inductionHypothesis =>
      obtain ⟨other, noTagBehind⟩ := List.ne_and_not_mem_of_not_mem_cons noTag
      have noItem : ¬"<li>".toList.isPrefixOf (letter :: (others ++ rest)) = true := by
        change ¬(('<' == letter) && "li>".toList.isPrefixOf (others ++ rest)) = true
        rw [beq_false_of_ne other, Bool.false_and]
        exact Bool.false_ne_true
      rw [List.cons_append, listItems, if_neg noItem, inductionHypothesis noTagBehind]

/-- The content of an item without tags is found, and so are the items after it. -/
theorem listItems_item
    {content : List Char}
    (noTag : '<' ∉ content) (rest : List Char) :
    listItems ("<li>".toList ++ content ++ "</li>".toList ++ rest) = content :: listItems rest := by
  have found : (content ++ ("</li>".toList ++ rest)).takeWhile (· != '<') = content := by
    rw [List.takeWhile_append_of_pos fun letter present => ?_]
    · exact List.append_nil content
    · exact bne_iff_ne.mpr fun same => noTag (same ▸ present)
  have behind : listItems ("</li>".toList ++ rest) = listItems rest := rfl
  have noTagInside : '<' ∉ "li>".toList ++ content := by
    rw [List.mem_append, not_or]
    exact ⟨by decide, noTag⟩
  have isItem : "<li>".toList.isPrefixOf
      ('<' :: ("li>".toList ++ content ++ ("</li>".toList ++ rest))) = true := rfl
  calc
    _ = listItems ('<' :: ("li>".toList ++ content ++ ("</li>".toList ++ rest))) := by
        simp
    _ = content :: listItems ("li>".toList ++ content ++ ("</li>".toList ++ rest)) := by
        rw [listItems, if_pos isItem]
        exact congrArg (· :: _) found
    _ = content :: listItems rest := by rw [listItems_skip noTagInside, behind]

theorem listItems_head (rest : List Char) :
    listItems ("<html><body><h1>Metrics</h1><ul>".toList ++ rest) = listItems rest := rfl

theorem listItems_tail : listItems "</ul></body></html>".toList = [] := by decide

theorem toList_ofRows (rows : List (String × String)) :
    (ofRows rows).toList = "<html><body><h1>Metrics</h1><ul>".toList ++
      ((String.join (rows.map item)).toList ++ "</ul></body></html>".toList) := by
  unfold ofRows
  simp only [String.toList_append, List.append_assoc]

/-- The items of rows are found in their order. -/
theorem listItems_ofRows (rows : List (String × String)) :
    listItems (ofRows rows).toList = rows.map fun row => escapeLetters (rowLetters row) := by
  rw [toList_ofRows, listItems_head]
  induction rows with
  | nil => exact listItems_tail
  | cons row others inductionHypothesis =>
      have noTag : '<' ∉ escapeLetters (rowLetters row) := fun present =>
        absurd ((inert_escapeLetters _).noMarkup _ present) (by decide)
      rw [List.map_cons, String.join_cons, String.toList_append, toList_item,
        List.append_assoc, listItems_item noTag, inductionHypothesis, List.map_cons]

/-! ## Rows -/

theorem cutAtLastColon_of_notMem
    {letters : List Char}
    (noColon : ':' ∉ letters) :
    cutAtLastColon letters = none := by
  induction letters with
  | nil => rfl
  | cons letter rest inductionHypothesis =>
      obtain ⟨other, noColonBehind⟩ := List.ne_and_not_mem_of_not_mem_cons noColon
      have noCut : ¬": ".toList.isPrefixOf (letter :: rest) = true := by
        change ¬((':' == letter) && " ".toList.isPrefixOf rest) = true
        rw [beq_false_of_ne other, Bool.false_and]
        exact Bool.false_ne_true
      rw [cutAtLastColon, inductionHypothesis noColonBehind]
      exact if_neg noCut

/-- A row is cut between its name and its value, whatever the name is. -/
theorem cutAtLastColon_append
    {value : List Char}
    (noColon : ':' ∉ value) (name : List Char) :
    cutAtLastColon (name ++ ": ".toList ++ value) = some (name, value) := by
  induction name with
  | nil =>
      have noColonBehind : ':' ∉ ' ' :: value :=
        List.not_mem_cons_of_ne_of_not_mem (by decide) noColon
      change cutAtLastColon (':' :: ' ' :: value) = _
      rw [cutAtLastColon, cutAtLastColon_of_notMem noColonBehind]
      rfl
  | cons letter rest inductionHypothesis =>
      rw [List.cons_append, List.cons_append, cutAtLastColon, inductionHypothesis]

/-- An item shows the row that it was made from. -/
theorem rowOfItem_escapeLetters
    {row : String × String}
    (noColon : ':' ∉ row.2.toList) :
    rowOfItem (escapeLetters (rowLetters row)) = some row := by
  rw [rowOfItem, unescape_escapeLetters, rowLetters, cutAtLastColon_append noColon]
  simp

/-- The text of a value has no colon. -/
theorem colon_notMem_of_mem_rows
    {store : Store} {row : String × String}
    (present : row ∈ store.rows) :
    ':' ∉ row.2.toList := by
  unfold Store.rows at present
  rw [List.mem_mergeSort] at present
  obtain ⟨update, -, rfl⟩ := List.mem_map.mp present
  exact fun within => absurd (Update.isPlainLetter_of_mem_valueText within) (by decide)

/-- The items of a page show the rows of the store, in their order. -/
theorem rows_of_listItems (store : Store) :
    (listItems (ofStore store).toList).map rowOfItem = store.rows.map some := by
  rw [ofStore, listItems_ofRows, List.map_map]
  exact List.map_congr_left fun row present =>
    rowOfItem_escapeLetters (colon_notMem_of_mem_rows present)

/-- A page tells its rows. -/
theorem ofStore_eq_iff (first second : Store) :
    ofStore first = ofStore second ↔ first.rows = second.rows := by
  constructor
  · intro same
    have rows : first.rows.map some = second.rows.map some := by
      rw [← rows_of_listItems, ← rows_of_listItems, same]
    exact List.map_injective_iff.mpr (Option.some_injective _) rows
  · intro same
    rw [ofStore, ofStore, same]

/-! ## What a page shows -/

/-- An item is made from the spellings of a name and of a value. -/
theorem escapeLetters_rowLetters (row : String × String) :
    escapeLetters (rowLetters row) =
      (escape row.1).toList ++ ": ".toList ++ (escape row.2).toList := by
  have separator : escapeLetters ": ".toList = ": ".toList := by decide
  rw [rowLetters, escapeLetters_append, escapeLetters_append, separator, toList_escape,
    toList_escape]

/-- The items of a page, which show each row of a store once. -/
structure Shows (items : List (List Char)) (store : Store) : Prop where
  /-- There is one item for each row, in the order of the rows. -/
  spelled : items = store.rows.map fun row =>
    (escape row.1).toList ++ ": ".toList ++ (escape row.2).toList
  /-- Each gauge and each counter has one row. -/
  rows : store.rows.Perm (store.updates.map Update.row)
  /-- No metric is there twice, and none is missing. -/
  complete : ∀ name, store.updates.filter (fun update => update.name == name) =
    ((store.gauge? name).map (Update.gauge name)).toList ++
      ((store.counter? name).map (Update.counter name)).toList
  /-- There is one item for each metric. -/
  length : items.length = store.size
  /-- Nothing in an item is read as anything but text. -/
  inert : ∀ content ∈ items, Inert content
  /-- The entities of an item are read as the name and the value of its row. -/
  decoded : items.map unescape = store.rows.map rowLetters
  /-- The last colon of an item is between them. -/
  cut : items.map rowOfItem = store.rows.map some

theorem shows_listItems (store : Store) : Shows (listItems (ofStore store).toList) store where
  spelled := by
    rw [ofStore, listItems_ofRows]
    exact List.map_congr_left fun row _ => escapeLetters_rowLetters row
  rows := List.mergeSort_perm _ _
  complete name := by
    have gauges := (Store.Listing.byName store).filter_gaugeUpdates name
    have counters := (Store.Listing.byName store).filter_counterUpdates name
    rw [← gauges, ← counters]
    exact List.filter_append _ _
  length := by
    rw [ofStore, listItems_ofRows, List.length_map, Store.rows, List.length_mergeSort,
      List.length_map, ← (Store.Listing.byName store).length_metrics]
    exact (List.length_map _).symm
  inert content present := by
    rw [ofStore, listItems_ofRows] at present
    obtain ⟨row, -, rfl⟩ := List.mem_map.mp present
    exact inert_escapeLetters _
  decoded := by
    rw [ofStore, listItems_ofRows, List.map_map]
    exact List.map_congr_left fun row _ => unescape_escapeLetters _
  cut := rows_of_listItems store

end Page

/-- The request asks for the page. -/
structure Request.GetsPage (request : Request) : Prop where
  method : request.method = "GET"
  path : request.path = "/".toList
  modest : Server.announcesTooMuch request = false

namespace Server

theorem handle_of_getsPage
    {request : Request}
    (gets : request.GetsPage)
    (server : Server) (now : Int64) (state : Service.State) :
    server.handle now state request =
      (state, .withBody 200 "text/html" (Bytes.ofText (Page.ofStore state.store))) := by
  have found : Route.ofPath? request.path = some .page := by
    rw [gets.path]
    decide
  rw [handle_of_takes found (gets.method ▸ rfl) (gets.method ▸ by decide), gets.modest]
  rfl

/-- Answers with pages tell whether the rows are the same. -/
theorem page_response_eq_iff (first second : Store) :
    Response.withBody 200 "text/html" (Bytes.ofText (Page.ofStore first)) =
        Response.withBody 200 "text/html" (Bytes.ofText (Page.ofStore second)) ↔
      first.rows = second.rows := by
  rw [← Page.ofStore_eq_iff]
  constructor
  · intro same
    have bodies : Bytes.ofText (Page.ofStore first) = Bytes.ofText (Page.ofStore second) :=
      congrArg Response.body same
    have texts := congrArg Bytes.text? bodies
    rw [Bytes.text?_ofText, Bytes.text?_ofText] at texts
    exact Option.some.inj texts
  · intro same
    rw [same]

/--
The page has one list item for each gauge and each counter, in the order of the rows.  Names and
values are inert in it and are read back from the items, whatever the names are.  So two stores
have the same page, and the same answer, exactly if their rows are the same.
-/
theorem page_shows_exactly_the_rows
    {request : Request}
    (gets : request.GetsPage)
    (server : Server) (now : Int64) (state : Service.State) :
    server.handle now state request =
      (state, .withBody 200 "text/html" (Bytes.ofText (Page.ofStore state.store))) ∧
    Page.Shows (Page.listItems (Page.ofStore state.store).toList) state.store ∧
    (∀ name, Page.Inert (Page.escape name).toList ∧
      Page.unescape (Page.escape name).toList = name.toList) ∧
    ∀ (other : Store),
      (Page.ofStore other = Page.ofStore state.store ↔ other.rows = state.store.rows) ∧
      ∀ (second : Server) (later : Int64) (changed : Service.State), changed.store = other ->
        ((second.handle later changed request).2 = (server.handle now state request).2 ↔
          other.rows = state.store.rows) := by
  refine ⟨handle_of_getsPage gets server now state, Page.shows_listItems state.store,
    fun name => ?_, fun other => ⟨Page.ofStore_eq_iff other state.store, ?_⟩⟩
  · rw [Page.toList_escape]
    exact ⟨Page.inert_escapeLetters _, Page.unescape_escapeLetters _⟩
  · rintro second later changed rfl
    rw [handle_of_getsPage gets, handle_of_getsPage gets]
    exact page_response_eq_iff changed.store state.store

/-- A gauge and a counter share a name that looks like the end of an item, a row and an entity;
the page has an item for each of them. -/
theorem page_of_hostile_name :
    let store := (Store.empty.setGauge "</li>: 1 &lt;" (.ofMagnitude false 0)).addCounter
      "</li>: 1 &lt;" 7
    let request : Request := { method := "GET", target := "/?q" }
    request.GetsPage ∧
      (({ service := {} } : Server).handle 0 { store } request).2 =
        .withBody 200 "text/html" (Bytes.ofText (Page.ofStore store)) ∧
      (Page.listItems (Page.ofStore store).toList).map Page.rowOfItem = store.rows.map some := by
  intro store request
  have gets : request.GetsPage := ⟨rfl, by decide +kernel, by decide +kernel⟩
  obtain ⟨answered, shows, -⟩ :=
    page_shows_exactly_the_rows gets { service := {} } 0 { store }
  exact ⟨gets, congrArg Prod.snd answered, shows.cut⟩

end Server
end Http
end Telemetry
