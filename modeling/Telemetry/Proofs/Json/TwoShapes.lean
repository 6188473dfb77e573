import Telemetry.Proofs.Json.Extent

/-!
# One text that is read as two records

Two shapes may both take a text.  Then they find the same members or the same
positions in it, because each value is read or skipped with the same bytes.  So
a relation between their drafts holds at the end if every member or position
keeps it.
-/

namespace Telemetry
namespace Json

/-! ## What a record is read from -/

/-- A record is read from the members of an object or from the positions of an array. -/
theorem Shape.decode_eq_ok
    {shape : Shape draft record} {content : Bytes} {value : record}
    (read : decode shape.read content = .ok value) :
    (∃ rest last after, skipSpace content = 0x7b :: rest ∧
        readMembers shape.fields (0x7b :: rest) true shape.blank rest = .ok (last, after) ∧
        shape.complete last = .ok value) ∨
      ∃ rest last after expected closed, skipSpace content = 0x5b :: rest ∧
        readPositions expected 0 shape.fields shape.blank rest = .ok (last, after) ∧
        shape.complete last = .ok value ∧ closeList after = .ok closed := by
  have taken : ∃ rest, shape.read content = .ok (value, rest) := by
    unfold decode at read
    split at read
    next => cases read
    next found rest taken =>
      split at read
      next => cases read; exact ⟨rest, taken⟩
      next => cases read
  obtain ⟨rest, taken⟩ := taken
  unfold Shape.read at taken
  split at taken
  next => cases taken
  next byte behind start =>
    split at taken
    next isObject =>
      subst isObject
      split at taken
      next => cases taken
      next last after members =>
        cases complete : shape.complete last with
        | error fault => rw [complete] at taken; cases taken
        | ok found =>
            rw [complete] at taken
            obtain ⟨rfl, rfl⟩ := Prod.mk.inj (Except.ok.inj taken)
            exact Or.inl ⟨behind, last, after, start, members, complete⟩
    next =>
      split at taken
      next isList =>
        subst isList
        dsimp only at taken
        split at taken
        next => cases taken
        next last after positions =>
          split at taken
          next => cases taken
          next found complete =>
            cases closed : closeList after with
            | error fault => rw [closed] at taken; cases taken
            | ok final =>
                rw [closed] at taken
                obtain ⟨rfl, rfl⟩ := Prod.mk.inj (Except.ok.inj taken)
                exact Or.inr ⟨behind, last, after, _, final, start, positions, complete, closed⟩
      next => exact absurd taken (refuseType_ne_ok _ _ _ _)

/-- The value of a member is read by the field of its name, or skipped when there is none. -/
theorem readMember_eq_ok
    {fields : List (Field draft)} {current next : draft} {name : String} {input rest : Bytes}
    (read : readMember fields current name input = .ok (next, rest)) :
    ∃ value, readColon input = .ok value ∧
      match fields.find? fun field => field.name == name with
      | some field => field.read current value = .ok (next, rest)
      | none => next = current ∧ skipValue value = .ok rest := by
  unfold readMember at read
  cases found : fields.find? fun field => field.name == name with
  | some field =>
      rw [found] at read
      dsimp only at read ⊢
      split at read
      next => cases read
      next =>
        split at read
        next => cases read
        next value colon => exact ⟨value, colon, read⟩
  | none =>
      rw [found] at read
      dsimp only at read ⊢
      split at read
      next => cases read
      next value colon =>
        cases skipped : skipValue value with
        | error fault => rw [skipped] at read; cases read
        | ok after =>
            rw [skipped] at read
            obtain ⟨rfl, rfl⟩ := Prod.mk.inj (Except.ok.inj read)
            exact ⟨value, colon, rfl, skipped⟩

/-! ## Members -/

/-- Members keep a relation between the drafts of two shapes that both take them. -/
def MembersKeep (related : left -> right -> Prop) (fields : List (Field left))
    (others : List (Field right)) : Prop :=
  ∀ ⦃current next other after name input rest behind⦄, related current other ->
    readMember fields current name input = .ok (next, rest) ->
    readMember others other name input = .ok (after, behind) ->
    behind = rest ∧ related next after

theorem MembersKeep.readMembers
    {related : left -> right -> Prop} {fields : List (Field left)} {others : List (Field right)}
    (keep : MembersKeep related fields others)
    {fuel : Bytes} {first : Bool} {current last : left} {other final : right}
    {input rest behind : Bytes}
    (holds : related current other)
    (read : readMembers fields fuel first current input = .ok (last, rest))
    (readOther : readMembers others fuel first other input = .ok (final, behind)) :
    related last final := by
  induction fuel generalizing first current other input with
  | nil => cases read
  | cons unit fuel inductionHypothesis =>
      rw [Json.readMembers] at read readOther
      split at read
      next => cases read
      next closing isEnd =>
        rw [isEnd] at readOther
        cases read
        cases readOther
        exact holds
      next start isKey =>
        rw [isKey] at readOther
        dsimp only at readOther
        split at read
        next => cases read
        next name behindName isName =>
          rw [isName] at readOther
          dsimp only at readOther
          split at read
          next => cases read
          next next after member =>
            split at readOther
            next => cases readOther
            next nextOther afterOther memberOther =>
              obtain ⟨rfl, kept⟩ := keep holds member memberOther
              exact inductionHypothesis kept read readOther

/-! ## Positions -/

/-- A position keeps a relation between the drafts of two shapes of which both fields take the
value there. -/
def Field.KeepsBoth (related : left -> right -> Prop) (field : Field left) (other : Field right) :
    Prop :=
  ∀ ⦃current next draft after input rest behind⦄, related current draft ->
    field.read current input = .ok (next, rest) ->
    other.read draft input = .ok (after, behind) ->
    behind = rest ∧ related next after

/-- At the closing bracket there is no further element. -/
theorem nextElement_closed
    {input rest : Bytes}
    (closed : skipSpace input = 0x5d :: rest)
    (first : Bool) :
    nextElement first input = .ok (false, 0x5d :: rest) := by
  unfold nextElement
  rw [closed]
  rfl

/-- There is no further element only at the closing bracket. -/
theorem closed_of_nextElement
    {first : Bool} {input rest : Bytes}
    (none : nextElement first input = .ok (false, rest)) :
    ∃ after, skipSpace input = 0x5d :: after ∧ rest = 0x5d :: after := by
  unfold nextElement at none
  repeat' split at none
  all_goals try cases none
  next byte after start isClosed =>
    subst isClosed
    exact ⟨after, start, rfl⟩

theorem closed_of_closeList
    {input rest : Bytes}
    (close : closeList input = .ok rest) :
    skipSpace input = 0x5d :: rest := by
  unfold closeList at close
  repeat' split at close
  all_goals try cases close
  next byte isClosed start =>
    subst isClosed
    exact start

/-- At the closing bracket no field is read any more. -/
theorem eq_of_readPositions_closed
    {expected : String} {position : Nat} {fields : List (Field draft)} {current last : draft}
    {input rest after : Bytes}
    (closed : skipSpace input = 0x5d :: rest)
    (read : readPositions expected position fields current input = .ok (last, after)) :
    last = current := by
  induction fields generalizing position input with
  | nil => cases read; rfl
  | cons field fields inductionHypothesis =>
      rw [readPositions, nextElement_closed closed] at read
      dsimp only at read
      split at read
      next => exact inductionHypothesis rfl read
      next => cases read

/-- Positions keep a relation if each does that both shapes have, and the first shape has no
further ones. -/
theorem related_of_readPositions
    {related : left -> right -> Prop} {fields : List (Field left)} {front : List (Field right)}
    (keep : List.Forall₂ (Field.KeepsBoth related) fields front)
    {back : List (Field right)} {expected otherwise : String} {position : Nat}
    {current last : left} {other final : right} {input rest behind closed : Bytes}
    (holds : related current other)
    (read : readPositions expected position fields current input = .ok (last, rest))
    (close : closeList rest = .ok closed)
    (readOther : readPositions otherwise position (front ++ back) other input =
      .ok (final, behind)) :
    related last final := by
  induction keep generalizing position current other input with
  | nil =>
      cases read
      rwa [eq_of_readPositions_closed (closed_of_closeList close) readOther]
  | cons both _ inductionHypothesis =>
      rw [readPositions] at read
      rw [List.cons_append, readPositions] at readOther
      split at read
      next => cases read
      next after isEnd =>
        obtain ⟨beyond, -, rfl⟩ := closed_of_nextElement isEnd
        rw [isEnd] at readOther
        dsimp only at readOther
        split at read
        next =>
          split at readOther
          next => exact inductionHypothesis holds read readOther
          next => cases readOther
        next => cases read
      next start isElement =>
        rw [isElement] at readOther
        dsimp only at readOther
        split at read
        next => cases read
        next next after taken =>
          split at readOther
          next => cases readOther
          next nextOther afterOther takenOther =>
            obtain ⟨rfl, kept⟩ := both holds taken takenOther
            exact inductionHypothesis kept read readOther

end Json
end Telemetry
