import Mathlib.Data.List.Nodup
import Telemetry.Proofs.Json.Layout
import Telemetry.Proofs.Json.TwoShapes

/-!
# What a record is read from

A record whose fields take values by themselves is read entry by entry: each
value is taken or refused alone, and what the record amounts to depends on the
bytes that were given for each name, not on their order.
-/

namespace Telemetry
namespace Json

/-- The bytes of the value that was given for each name. -/
abbrev Given := String -> Option Bytes

/-- Nothing has been given. -/
def Given.nothing : Given := fun _ => none

/-- One more value has been given. -/
def Given.also (given : Given) (name : String) (value : Bytes) : Given :=
  Function.update given name (some value)

/-- The field of a name. -/
def Shape.field? (shape : Shape draft record) (name : String) : Option (Field draft) :=
  shape.fields.find? fun field => field.name == name

/-- The fault of a value, or else that of what stands behind it. -/
def faultOr (behind : Fault) : Except Fault α -> Fault
  | .error fault => fault
  | .ok _ => behind

/-- What the ending of the entries makes of the values that were given, with the bytes behind it. -/
def Shape.finish (shape : Shape draft record) (given : Given) :
    Ending -> Except Fault (Given × Bytes)
  | .closed rest => .ok (given, rest)
  | .refused fault => .error fault
  | .colonless name fault =>
      match shape.field? name with
      | some _ =>
          if (given name).isSome then .error (.duplicateField name) else .error fault
      | none => .error fault
  | .endless name input behind =>
      match shape.field? name with
      | some field =>
          if (given name).isSome then .error (.duplicateField name)
          else .error (faultOr behind (field.read shape.blank input))
      | none => .error (faultOr behind (skipValue input))

/-- Gathers the values of entries up to their ending. -/
def Shape.gather (shape : Shape draft record) (ending : Ending) :
    (given : Given) -> List (String × Bytes) -> Except Fault (Given × Bytes)
  | given, [] => shape.finish given ending
  | given, (name, value) :: entries =>
      match shape.field? name with
      | some field =>
          if (given name).isSome then .error (.duplicateField name)
          else
            match field.read shape.blank value with
            | .error fault => .error fault
            | .ok _ => shape.gather ending (given.also name value) entries
      | none => shape.gather ending given entries

theorem Shape.finish_colonless_ne_ok
    {shape : Shape draft record} {given : Given} {name : String} {fault : Fault}
    (result : Given × Bytes) :
    shape.finish given (.colonless name fault) ≠ .ok result := by
  intro finished
  dsimp only [finish] at finished
  repeat' split at finished
  all_goals cases finished

/-! ## Fields that take values by themselves -/

/-- What a field makes of a value does not depend on the draft, and it adds the value to what
the draft is built from. -/
structure Field.IsFilled (build : Given -> draft) (field : Field draft) : Prop where
  /-- An array may leave the field out. -/
  mayBeAbsent : field.mayBeAbsent = true
  /-- A draft has the field if a value was given for its name. -/
  isGiven : ∀ given, field.isGiven (build given) = (given field.name).isSome
  /-- The field takes one value. -/
  takes : ∀ given, TakesScalar (field.read (build given))
  /-- It makes the same of the value alone. -/
  alone : ∀ given, ReadsAlone (field.read (build given))
  /-- It refuses the same values in every draft. -/
  refuses : ∀ given other input fault, field.read (build given) input = .error fault ->
    field.read (build other) input = .error fault
  /-- It adds the value that it takes. -/
  fills : ∀ given value next rest, field.read (build given) value = .ok (next, rest) ->
    next = build (given.also field.name value)

/-- A record that is built from the values that were given. -/
structure Shape.IsFilled (shape : Shape draft record) (build : Given -> draft) : Prop where
  /-- Nothing was given for the blank draft. -/
  blank : build .nothing = shape.blank
  /-- Every field takes values by itself. -/
  fields : ∀ field ∈ shape.fields, field.IsFilled build
  /-- The fields have different names. -/
  distinct : (shape.fields.map Field.name).Nodup
  /-- No value is needed. -/
  complete : ∀ draft, ∃ record, shape.complete draft = .ok record

section

variable {shape : Shape draft record} {build : Given -> draft}

theorem Shape.field?_eq_some
    {field : Field draft} {name : String}
    (found : shape.field? name = some field) :
    field ∈ shape.fields ∧ field.name = name :=
  ⟨List.mem_of_find?_eq_some found, by simpa using List.find?_some found⟩

theorem Shape.readMember_eq (current : draft) (name : String) (input : Bytes) :
    readMember shape.fields current name input =
      match shape.field? name with
      | some field =>
          if field.isGiven current then .error (.duplicateField name)
          else
            match readColon input with
            | .error fault => .error fault
            | .ok rest => field.read current rest
      | none =>
          match readColon input with
          | .error fault => .error fault
          | .ok rest => (skipValue rest).map fun after => (current, after) :=
  rfl

/-- A field takes a value out of a text as it takes the value alone. -/
theorem Shape.IsFilled.read_value
    (filled : shape.IsFilled build)
    {field : Field draft} (isField : field ∈ shape.fields)
    {value rest : Bytes} (isValue : IsValue value rest) (given : Given) :
    field.read (build given) (value ++ rest) =
      (field.read shape.blank value).map fun _ =>
        (build (given.also field.name value), rest) := by
  have isFilled := filled.fields field isField
  have together := isFilled.alone given value rest isValue
  rw [← filled.blank]
  cases taken : field.read (build given) value with
  | error fault =>
      rw [together, taken, isFilled.refuses given _ value fault taken]
      rfl
  | ok result =>
      obtain ⟨next, left⟩ := result
      rw [taken] at together
      -- The field takes the value as it is skipped, so it leaves nothing of it.
      have skipped := (isFilled.takes given).skipValue together
      have none : left = [] := List.append_left_eq_self.mp
        (Except.ok.inj (skipped.symm.trans isValue.skipped))
      rw [together, isFilled.fills given value next left taken, none]
      cases blank : field.read (build .nothing) value with
      | error fault =>
          rw [isFilled.refuses _ given value fault blank] at taken
          cases taken
      | ok other => rfl

/-- A value that cannot be cut out is refused, or what is behind it is. -/
theorem Shape.IsFilled.read_uncut
    (filled : shape.IsFilled build)
    {field : Field draft} (isField : field ∈ shape.fields)
    {input : Bytes} (uncut : cutValue? input = none) (given : Given) (behind : Fault) :
    (∃ next rest, field.read (build given) input = .ok (next, rest) ∧ endsEntry rest = false ∧
        faultOr behind (field.read shape.blank input) = behind) ∨
      field.read (build given) input =
        .error (faultOr behind (field.read shape.blank input)) := by
  have isFilled := filled.fields field isField
  rw [← filled.blank]
  cases taken : field.read (build given) input with
  | error fault =>
      rw [isFilled.refuses given _ input fault taken]
      exact Or.inr rfl
  | ok result =>
      obtain ⟨next, rest⟩ := result
      refine Or.inl ⟨next, rest, rfl,
        cutValue?_eq_none uncut ((isFilled.takes given).skipValue taken), ?_⟩
      cases blank : field.read (build .nothing) input with
      | error fault =>
          rw [isFilled.refuses _ given input fault blank] at taken
          cases taken
      | ok other => rfl

/-! ## Objects -/

/-- A member with a value is one more entry. -/
theorem Shape.IsFilled.readMember_value
    (filled : shape.IsFilled build)
    {name : String} {input value rest : Bytes}
    (colon : readColon input = .ok (value ++ rest)) (isValue : IsValue value rest)
    (given : Given) :
    readMember shape.fields (build given) name input =
      match shape.field? name with
      | some field =>
          if (given name).isSome then .error (.duplicateField name)
          else (field.read shape.blank value).map fun _ => (build (given.also name value), rest)
      | none => .ok (build given, rest) := by
  rw [Shape.readMember_eq, colon]
  cases found : shape.field? name with
  | none =>
      dsimp only
      rw [isValue.skipped]
      rfl
  | some field =>
      obtain ⟨isField, rfl⟩ := Shape.field?_eq_some found
      dsimp only
      rw [(filled.fields field isField).isGiven, filled.read_value isField isValue]

/-- A member without a colon is refused by its name or for want of the colon. -/
theorem Shape.IsFilled.readMember_colonless
    (filled : shape.IsFilled build)
    {input : Bytes} {fault : Fault}
    (colon : readColon input = .error fault) (name : String) (given : Given) :
    readMember shape.fields (build given) name input =
      (shape.finish given (.colonless name fault)).map
        fun (given, rest) => (build given, rest) := by
  rw [Shape.readMember_eq, colon, Shape.finish]
  cases found : shape.field? name with
  | none => rfl
  | some field =>
      obtain ⟨isField, rfl⟩ := Shape.field?_eq_some found
      dsimp only
      rw [(filled.fields field isField).isGiven]
      split <;> rfl

/-- A member of which the value cannot be cut out is refused, or what is behind the value is. -/
theorem Shape.IsFilled.readMember_endless
    (filled : shape.IsFilled build)
    {input behind : Bytes}
    (colon : readColon input = .ok behind) (uncut : cutValue? behind = none)
    (name : String) (given : Given) (otherwise : Fault) :
    (∃ next rest, readMember shape.fields (build given) name input = .ok (next, rest) ∧
        endsEntry rest = false ∧
        shape.finish given (.endless name behind otherwise) = .error otherwise) ∨
      ∃ fault, readMember shape.fields (build given) name input = .error fault ∧
        shape.finish given (.endless name behind otherwise) = .error fault := by
  rw [Shape.readMember_eq, colon, Shape.finish]
  cases found : shape.field? name with
  | none =>
      dsimp only
      cases skipped : skipValue behind with
      | error fault => exact Or.inr ⟨fault, rfl, rfl⟩
      | ok rest => exact Or.inl ⟨build given, rest, rfl, cutValue?_eq_none uncut skipped, rfl⟩
  | some field =>
      obtain ⟨isField, rfl⟩ := Shape.field?_eq_some found
      dsimp only
      rw [(filled.fields field isField).isGiven]
      by_cases again : (given field.name).isSome = true
      · rw [if_pos again, if_pos again]
        exact Or.inr ⟨_, rfl, rfl⟩
      · rw [if_neg again, if_neg again]
        rcases filled.read_uncut isField uncut given otherwise with
          ⟨next, rest, taken, goesOn, same⟩ | refused
        · exact Or.inl ⟨next, rest, taken, goesOn, congrArg Except.error same⟩
        · exact Or.inr ⟨_, refused, rfl⟩

/-- Behind a value that ends no entry there is neither a comma nor a closing brace. -/
theorem nextKey_of_open
    {rest : Bytes}
    (goesOn : endsEntry rest = false) :
    nextKey false rest = .error .expectedObjectEnd := by
  unfold endsEntry at goesOn
  unfold nextKey
  cases start : skipSpace rest with
  | nil => rw [start] at goesOn; cases goesOn
  | cons byte after =>
      rw [start] at goesOn
      simp only [Bool.or_eq_false_iff, beq_eq_false_iff_ne] at goesOn
      obtain ⟨⟨noComma, -⟩, noBrace⟩ := goesOn
      simp [noComma, noBrace]

theorem suffix_of_readColon
    {input rest : Bytes}
    (colon : readColon input = .ok rest) :
    rest <:+ input := by
  unfold readColon at colon
  split at colon
  next => cases colon
  next byte after start =>
    split at colon
    next => cases colon; exact (suffix_of_skipSpace start).1
    next => cases colon

theorem suffix_of_readText
    {input rest : Bytes} {text : String}
    (read : readText input = .ok (text, rest)) :
    rest <:+ input := by
  unfold readText at read
  split at read
  next => cases read
  next bytes after taken =>
    split at read
    next => cases read; exact suffix_of_skipText (skipText_of_readTextBytes taken)
    next => cases read

/-- The name of a member stands behind at least one byte. -/
theorem length_of_nextKey
    {first : Bool} {input start : Bytes}
    (key : nextKey first input = .ok (true, start)) :
    start.length < input.length := by
  unfold nextKey at key
  split at key
  next => cases key
  next byte rest begin =>
    have shorter := (suffix_of_skipSpace begin).2
    split at key
    next => cases key
    next =>
      split at key
      next =>
        split at key
        next => cases key; exact shorter
        next => cases key
      next =>
        split at key
        next =>
          split at key
          next => cases key
          next next after nextBegin =>
            have further := (suffix_of_skipSpace nextBegin).2
            split at key
            next => cases key; omega
            next => split at key <;> cases key
        next => cases key

/-- An object is read entry by entry. -/
theorem Shape.IsFilled.readMembers_eq
    (filled : shape.IsFilled build)
    {fuel input : Bytes} (enough : input.length < fuel.length) (first : Bool) (given : Given) :
    readMembers shape.fields fuel first (build given) input =
      (shape.gather (members fuel first input).ending given (members fuel first input).entries).map
        fun (given, rest) => (build given, rest) := by
  induction fuel generalizing first given input with
  | nil => cases enough
  | cons unit fuel inductionHypothesis =>
      rw [readMembers, members]
      cases key : nextKey first input with
      | error fault => rfl
      | ok place =>
          obtain ⟨isKey, start⟩ := place
          cases isKey with
          | false => rfl
          | true =>
              have shorter := length_of_nextKey key
              rw [List.length_cons] at enough
              dsimp only
              cases text : readText start with
              | error fault => rfl
              | ok result =>
                  obtain ⟨name, rest⟩ := result
                  have nameLength := (suffix_of_readText text).length_le
                  dsimp only
                  cases colon : readColon rest with
                  | error fault =>
                      rw [filled.readMember_colonless colon]
                      dsimp only [Shape.gather]
                      cases finished : shape.finish given (.colonless name fault) with
                      | error refusal => rfl
                      | ok result => exact absurd finished (Shape.finish_colonless_ne_ok _)
                  | ok behind =>
                      have colonLength := (suffix_of_readColon colon).length_le
                      dsimp only
                      cases cut : cutValue? behind with
                      | none =>
                          dsimp only [Shape.gather]
                          rcases filled.readMember_endless colon cut name given
                              .expectedObjectEnd with
                            ⟨next, after, taken, goesOn, finished⟩ | ⟨fault, refused, finished⟩
                          · -- The fuel is not yet used up, so what follows is looked at.
                            obtain ⟨unit, fuel, rfl⟩ :=
                              List.exists_cons_of_length_pos (by omega : 0 < fuel.length)
                            rw [taken, finished]
                            dsimp only
                            rw [readMembers, nextKey_of_open goesOn]
                            rfl
                          · rw [refused, finished]
                            rfl
                      | some pair =>
                          obtain ⟨value, after⟩ := pair
                          obtain ⟨rfl, isValue⟩ := cutValue?_eq_some cut
                          rw [List.length_append] at colonLength
                          have enoughAfter : after.length < fuel.length := by omega
                          rw [filled.readMember_value colon isValue]
                          dsimp only [Layout.cons]
                          rw [Shape.gather]
                          cases found : shape.field? name with
                          | none => exact inductionHypothesis enoughAfter false given
                          | some field =>
                              dsimp only
                              by_cases again : (given name).isSome = true
                              · rw [if_pos again, if_pos again]
                                rfl
                              · rw [if_neg again, if_neg again]
                                cases field.read shape.blank value with
                                | error fault => rfl
                                | ok taken => exact inductionHypothesis enoughAfter false _

/-! ## Arrays -/

theorem Shape.IsFilled.field?_name
    (filled : shape.IsFilled build)
    {field : Field draft} (isField : field ∈ shape.fields) :
    shape.field? field.name = some field := by
  cases found : shape.field? field.name with
  | none =>
      have unnamed := List.find?_eq_none.mp found field isField
      simp at unnamed
  | some other =>
      obtain ⟨isOther, same⟩ := Shape.field?_eq_some found
      rw [List.inj_on_of_nodup_map filled.distinct isOther isField same]

/-- Behind a value that ends no entry there is neither a comma nor a closing bracket. -/
theorem not_closing_of_open
    {rest : Bytes}
    (goesOn : endsEntry rest = false) :
    nextElement false rest = .error .expectedListEnd ∧
      closeList rest = .error .trailingCharacters := by
  unfold endsEntry at goesOn
  unfold nextElement closeList
  cases start : skipSpace rest with
  | nil => rw [start] at goesOn; cases goesOn
  | cons byte after =>
      rw [start] at goesOn
      simp only [Bool.or_eq_false_iff, beq_eq_false_iff_ne] at goesOn
      obtain ⟨⟨noComma, noBracket⟩, -⟩ := goesOn
      simp [noComma, noBracket]

/-- What has been read of an array whose end follows. -/
def closing (result : Result draft) : Result draft :=
  match result with
  | .error fault => .error fault
  | .ok (current, rest) => (closeList rest).map fun after => (current, after)

/-- At the closing bracket all fields are left out. -/
theorem readPositions_closed
    {fields : List (Field draft)}
    (absent : ∀ field ∈ fields, field.mayBeAbsent = true)
    (expected : String) (position : Nat) (current : draft) (rest : Bytes) :
    closing (readPositions expected position fields current (0x5d :: rest)) =
      .ok (current, rest) := by
  induction fields generalizing position with
  | nil => rfl
  | cons field fields inductionHypothesis =>
      rw [readPositions, nextElement_closed rfl]
      dsimp only
      rw [if_pos (absent field List.mem_cons_self)]
      exact inductionHypothesis (fun other isOther => absent other (List.mem_cons_of_mem _ isOther))
        (position + 1)

/-- Behind a value that ends no entry an array is refused. -/
theorem closing_of_open
    {rest : Bytes}
    (goesOn : endsEntry rest = false)
    (expected : String) (position : Nat) (fields : List (Field draft)) (current : draft) :
    closing (readPositions expected (position + 1) fields current rest) =
      .error (if fields.map Field.name = [] then .trailingCharacters else .expectedListEnd) := by
  obtain ⟨noElement, noEnd⟩ := not_closing_of_open goesOn
  cases fields with
  | nil =>
      rw [readPositions, closing, noEnd]
      rfl
  | cons field fields =>
      have later : (position + 1 == 0) = false := rfl
      rw [readPositions, later, noElement]
      rfl

/-- An array is read entry by entry. -/
theorem Shape.IsFilled.readPositions_eq
    (filled : shape.IsFilled build)
    {fields : List (Field draft)} (areFields : ∀ field ∈ fields, field ∈ shape.fields)
    (distinct : (fields.map Field.name).Nodup)
    (expected : String) {position : Nat} {first : Bool} (isFirst : (position == 0) = first)
    (input : Bytes) {given : Given} (fresh : ∀ field ∈ fields, given field.name = none) :
    closing (readPositions expected position fields (build given) input) =
      (shape.gather (positions first (fields.map Field.name) input).ending given
          (positions first (fields.map Field.name) input).entries).map
        fun (given, rest) => (build given, rest) := by
  induction fields generalizing position first given input with
  | nil =>
      dsimp only [readPositions, closing]
      rw [List.map_nil, positions]
      cases closeList input <;> rfl
  | cons field fields inductionHypothesis =>
      have isField := areFields field List.mem_cons_self
      have others : ∀ other ∈ fields, other ∈ shape.fields :=
        fun other isOther => areFields other (List.mem_cons_of_mem _ isOther)
      obtain ⟨apart, distinct⟩ := List.nodup_cons.mp distinct
      -- An array is not checked for fields that are given twice; it cannot give one so.
      have notGiven : ¬(given field.name).isSome = true := by
        rw [fresh field List.mem_cons_self]
        exact Bool.false_ne_true
      have found := filled.field?_name isField
      have later : (position + 1 == 0) = false := rfl
      rw [readPositions, List.map_cons, positions, isFirst]
      cases element : nextElement first input with
      | error fault => rfl
      | ok place =>
          obtain ⟨isElement, start⟩ := place
          cases isElement with
          | false =>
              obtain ⟨after, -, rfl⟩ := closed_of_nextElement element
              dsimp only
              rw [if_pos (filled.fields field isField).mayBeAbsent]
              exact readPositions_closed
                (fun other isOther => (filled.fields other (others other isOther)).mayBeAbsent)
                expected (position + 1) (build given) after
          | true =>
              dsimp only
              cases cut : cutValue? start with
              | none =>
                  dsimp only [gather, finish]
                  rw [found]
                  dsimp only
                  rw [if_neg notGiven]
                  rcases filled.read_uncut isField cut given _ with
                    ⟨next, rest, taken, goesOn, same⟩ | refused
                  · rw [taken, same]
                    exact closing_of_open goesOn expected position fields next
                  · rw [refused]
                    rfl
              | some pair =>
                  obtain ⟨value, after⟩ := pair
                  obtain ⟨rfl, isValue⟩ := cutValue?_eq_some cut
                  have freshAfter : ∀ other ∈ fields,
                      given.also field.name value other.name = none := by
                    intro other isOther
                    have unlike : other.name ≠ field.name := by
                      intro same
                      exact apart (same ▸ List.mem_map_of_mem isOther)
                    rw [Given.also, Function.update_of_ne unlike]
                    exact fresh other (List.mem_cons_of_mem _ isOther)
                  dsimp only [Layout.cons]
                  rw [filled.read_value isField isValue, gather, found]
                  dsimp only
                  rw [if_neg notGiven]
                  cases field.read shape.blank value with
                  | error fault => rfl
                  | ok taken => exact inductionHypothesis others distinct later after freshAfter

/-! ## Whole texts -/

/-- As no value is needed, an array is as good as closed before the record is made of it. -/
theorem Shape.IsFilled.read_of_list
    (filled : shape.IsFilled build)
    {content rest : Bytes}
    (start : skipSpace content = 0x5b :: rest) :
    ∃ expected, shape.read content =
      match closing (readPositions expected 0 shape.fields shape.blank rest) with
      | .error fault => .error fault
      | .ok (last, after) => (shape.complete last).map fun record => (record, after) := by
  refine ⟨"struct " ++ shape.name ++ " with " ++ toString shape.fields.length ++ " elements", ?_⟩
  unfold Shape.read
  rw [start]
  dsimp only
  rw [if_neg (by decide), if_pos rfl]
  cases readPositions _ 0 shape.fields shape.blank rest with
  | error fault => rfl
  | ok result =>
      obtain ⟨last, after⟩ := result
      obtain ⟨record, complete⟩ := filled.complete last
      dsimp only [closing]
      cases closeList after with
      | error fault => rw [complete]; rfl
      | ok left =>
          dsimp only [Except.map]
          rw [complete]

theorem Shape.IsFilled.read_eq
    (filled : shape.IsFilled build)
    {content : Bytes} {layout : Layout}
    (isLayout : layout? (shape.fields.map Field.name) content = some layout) :
    shape.read content =
      match shape.gather layout.ending .nothing layout.entries with
      | .error fault => .error fault
      | .ok (given, rest) => (shape.complete (build given)).map fun record => (record, rest) := by
  unfold layout? at isLayout
  cases start : skipSpace content with
  | nil => rw [start] at isLayout; cases isLayout
  | cons byte rest =>
      rw [start] at isLayout
      dsimp only at isLayout
      split at isLayout
      next isObject =>
        subst isObject
        cases isLayout
        unfold Shape.read
        rw [start]
        dsimp only
        rw [if_pos rfl, ← filled.blank, filled.readMembers_eq (by simp) true .nothing]
        cases shape.gather _ _ _ <;> rfl
      next notObject =>
        split at isLayout
        next isList =>
          subst isList
          cases isLayout
          obtain ⟨expected, read⟩ := filled.read_of_list start
          have isFirst : ((0 : Nat) == 0) = true := rfl
          rw [read, ← filled.blank, filled.readPositions_eq (fun _ isField => isField)
            filled.distinct expected isFirst rest fun _ _ => rfl]
          cases shape.gather _ _ _ <;> rfl
        next => cases isLayout

/-- A text with a layout is read entry by entry. -/
theorem Shape.IsFilled.decode_eq
    (filled : shape.IsFilled build)
    {content : Bytes} {layout : Layout}
    (isLayout : layout? (shape.fields.map Field.name) content = some layout) :
    decode shape.read content =
      match shape.gather layout.ending .nothing layout.entries with
      | .error fault => .error fault
      | .ok (given, rest) =>
          match skipSpace rest with
          | [] => shape.complete (build given)
          | _ :: _ => .error .trailingCharacters := by
  unfold decode
  rw [filled.read_eq isLayout]
  cases shape.gather layout.ending .nothing layout.entries with
  | error fault => rfl
  | ok result =>
      obtain ⟨given, rest⟩ := result
      obtain ⟨record, complete⟩ := filled.complete (build given)
      dsimp only
      rw [complete]
      rfl

end

end Json
end Telemetry
