import Telemetry.Proofs.Json.Gathered

/-!
# Texts that differ in some entries only

Two texts may have the same entries but for some names, each of which they give
once at most and with a value that its field takes.  Then both are refused for
the same reason, or the two records differ in what depends on these names only.
-/

namespace Telemetry
namespace Json

/-- The name of the entry that the ending is about, if it is about one. -/
def Ending.name? : Ending -> Option String
  | .closed _ => none
  | .refused _ => none
  | .colonless name _ => some name
  | .endless name _ _ => some name

/-- The entries of all but some names. -/
def entriesWithout (names : List String) (entries : List (String × Bytes)) :
    List (String × Bytes) :=
  entries.filter fun entry => entry.1 ∉ names

/-- The values that were given for all but some names. -/
def Given.without (given : Given) (names : List String) : Given :=
  fun name => if name ∈ names then none else given name

/-- The field of a name takes a value as a whole. -/
def Shape.accepts (shape : Shape draft record) (name : String) (value : Bytes) : Bool :=
  match shape.field? name with
  | some field => (field.read shape.blank value).toOption.any fun result => result.2 == []
  | none => false

/-- A record has at most one entry of each of some names, with a value that its field takes. -/
structure Shape.AcceptsEntries (shape : Shape draft record) (names : List String)
    (entries : List (String × Bytes)) : Prop where
  /-- No such name is given twice. -/
  once : ((entries.map Prod.fst).filter fun name => name ∈ names).Nodup
  /-- The value of each is accepted. -/
  taken : ∀ entry ∈ entries, entry.1 ∈ names -> shape.accepts entry.1 entry.2 = true

instance (shape : Shape draft record) (names : List String) (entries : List (String × Bytes)) :
    Decidable (shape.AcceptsEntries names entries) :=
  decidable_of_iff
    (((entries.map Prod.fst).filter fun name => name ∈ names).Nodup ∧
      ∀ entry ∈ entries, entry.1 ∈ names -> shape.accepts entry.1 entry.2 = true)
    ⟨fun both => ⟨both.1, both.2⟩, fun accepts => ⟨accepts.once, accepts.taken⟩⟩

/--
Two texts differ only in entries of some names: neither of them gives such an entry twice, leaves
one unfinished or gives it a value of the wrong type, the other entries are the same in the same
order, and so is what brings the entries to an end, be it the closing sign with all that is behind
it or the first thing that is no entry.
-/
def Shape.DifferOnlyIn (shape : Shape draft record) (names : List String)
    (content other : Bytes) : Prop :=
  ∃ layout layoutOther,
    layout? (shape.fields.map Field.name) content = some layout ∧
    layout? (shape.fields.map Field.name) other = some layoutOther ∧
    shape.AcceptsEntries names layout.entries ∧
    shape.AcceptsEntries names layoutOther.entries ∧
    entriesWithout names layout.entries = entriesWithout names layoutOther.entries ∧
    layout.ending = layoutOther.ending ∧
    ∀ name, layout.ending.name? = some name -> name ∉ names

section

variable {shape : Shape draft record} {names : List String}

theorem Shape.accepts_iff {name : String} {value : Bytes} :
    shape.accepts name value = true ↔
      ∃ field next, shape.field? name = some field ∧
        field.read shape.blank value = .ok (next, []) := by
  unfold accepts
  cases found : shape.field? name with
  | none => simp
  | some field =>
      cases taken : field.read shape.blank value with
      | error fault => simp [Except.toOption, taken]
      | ok result =>
          obtain ⟨next, rest⟩ := result
          simp [Except.toOption, taken]

theorem Given.without_of_not_mem
    {name : String}
    (other : name ∉ names)
    (given : Given) :
    given.without names name = given name :=
  if_neg other

theorem Given.without_also_of_mem
    {name : String}
    (present : name ∈ names)
    (given : Given) (value : Bytes) :
    (given.also name value).without names = given.without names := by
  funext other
  unfold without also
  split
  next => rfl
  next unlike =>
    have different : other ≠ name := fun same => unlike (same ▸ present)
    rw [Function.update_of_ne different]

theorem Given.without_also_of_not_mem
    {name : String}
    (absent : name ∉ names)
    (given : Given) (value : Bytes) :
    (given.also name value).without names = (given.without names).also name value := by
  funext other
  unfold without also
  by_cases same : other = name
  · subst same
    rw [if_neg absent, Function.update_self, Function.update_self]
  · rw [Function.update_of_ne same, Function.update_of_ne same]

theorem Shape.AcceptsEntries.tail
    {entry : String × Bytes} {entries : List (String × Bytes)}
    (accepts : shape.AcceptsEntries names (entry :: entries)) :
    shape.AcceptsEntries names entries where
  once := by
    have once := accepts.once
    rw [List.map_cons, List.filter_cons] at once
    split at once
    · exact (List.nodup_cons.mp once).2
    · exact once
  taken := fun other isOther => accepts.taken other (List.mem_cons_of_mem entry isOther)

/-- A name that is given once has no further entry. -/
theorem Shape.AcceptsEntries.ne_of_mem
    {name other : String} {value : Bytes} {entries : List (String × Bytes)}
    (accepts : shape.AcceptsEntries names ((name, value) :: entries))
    (present : name ∈ names) {further : Bytes} (isEntry : (other, further) ∈ entries) :
    other ≠ name := by
  have once := accepts.once
  rw [List.map_cons, List.filter_cons_of_pos (by simpa using present)] at once
  rintro rfl
  have again : other ∈ entries.map Prod.fst := List.mem_map.mpr ⟨_, isEntry, rfl⟩
  exact (List.nodup_cons.mp once).1 (List.mem_filter.mpr ⟨again, by simpa using present⟩)

/-- Without some names, the ending makes the same of the values as long as it is not about them. -/
theorem Shape.finish_without
    {ending : Ending}
    (apart : ∀ name, ending.name? = some name -> name ∉ names)
    (given : Given) :
    shape.finish (given.without names) ending =
      (shape.finish given ending).map fun (given, rest) => (given.without names, rest) := by
  cases ending with
  | closed rest => rfl
  | refused fault => rfl
  | colonless name fault =>
      dsimp only [finish]
      rw [Given.without_of_not_mem (apart name rfl)]
      cases shape.field? name with
      | none => rfl
      | some field => dsimp only; split <;> rfl
  | endless name input behind =>
      dsimp only [finish]
      rw [Given.without_of_not_mem (apart name rfl)]
      cases shape.field? name with
      | none => rfl
      | some field => dsimp only; split <;> rfl

/-- Entries that are accepted do not matter to the others. -/
theorem Shape.gather_without
    {ending : Ending} {entries : List (String × Bytes)}
    (apart : ∀ name, ending.name? = some name -> name ∉ names)
    (accepts : shape.AcceptsEntries names entries)
    {given : Given}
    (fresh : ∀ name value, (name, value) ∈ entries -> name ∈ names -> given name = none) :
    shape.gather ending (given.without names) (entriesWithout names entries) =
      (shape.gather ending given entries).map fun (given, rest) => (given.without names, rest) := by
  induction entries generalizing given with
  | nil => exact finish_without apart given
  | cons entry entries inductionHypothesis =>
      obtain ⟨name, value⟩ := entry
      unfold entriesWithout at inductionHypothesis ⊢
      by_cases present : name ∈ names
      · obtain ⟨field, next, found, taken⟩ :=
          accepts_iff.mp (accepts.taken (name, value) List.mem_cons_self present)
        have notGiven : ¬(given name).isSome = true := by
          rw [fresh name value List.mem_cons_self present]
          exact Bool.false_ne_true
        rw [List.filter_cons_of_neg (by simpa using present), gather, found]
        dsimp only
        rw [if_neg notGiven, taken]
        dsimp only
        -- The values that are left out change, the others stay.
        rw [← Given.without_also_of_mem present given value]
        refine inductionHypothesis accepts.tail fun other further isEntry isName => ?_
        rw [Given.also, Function.update_of_ne (accepts.ne_of_mem present isEntry)]
        exact fresh other further (List.mem_cons_of_mem _ isEntry) isName
      · have freshAfter : ∀ other further, (other, further) ∈ entries -> other ∈ names ->
            given.also name value other = none := by
          intro other further isEntry isName
          have different : other ≠ name := fun same => present (same ▸ isName)
          rw [Given.also, Function.update_of_ne different]
          exact fresh other further (List.mem_cons_of_mem _ isEntry) isName
        rw [List.filter_cons_of_pos (by simpa using present), gather, gather,
          Given.without_of_not_mem present, ← Given.without_also_of_not_mem present]
        cases shape.field? name with
        | none =>
            exact inductionHypothesis accepts.tail fun other further isEntry =>
              fresh other further (List.mem_cons_of_mem _ isEntry)
        | some field =>
            dsimp only
            split
            next => rfl
            next =>
              cases field.read shape.blank value with
              | error fault => rfl
              | ok next => exact inductionHypothesis accepts.tail freshAfter

/-- Texts that differ in some entries only are refused for the same reason, or the records are
built from the same values but for those of the entries. -/
theorem Shape.IsFilled.decode_of_differOnlyIn
    {build : Given -> draft}
    (filled : shape.IsFilled build)
    {content other : Bytes}
    (differ : shape.DifferOnlyIn names content other) :
    (∃ fault, decode shape.read content = .error fault ∧
        decode shape.read other = .error fault) ∨
      ∃ given givenOther, given.without names = givenOther.without names ∧
        decode shape.read content = shape.complete (build given) ∧
        decode shape.read other = shape.complete (build givenOther) := by
  obtain ⟨layout, layoutOther, isLayout, isLayoutOther, accepts, acceptsOther, same, sameEnding,
    apart⟩ := differ
  have fresh (entries : List (String × Bytes)) :
      ∀ name value, (name, value) ∈ entries -> name ∈ names -> Given.nothing name = none :=
    fun _ _ _ _ => rfl
  have gathered := gather_without apart accepts (fresh layout.entries)
  have gatheredOther := gather_without apart acceptsOther (fresh layoutOther.entries)
  rw [same, gatheredOther] at gathered
  rw [filled.decode_eq isLayout, filled.decode_eq isLayoutOther, ← sameEnding]
  cases found : shape.gather layout.ending .nothing layout.entries with
  | error fault =>
      rw [found] at gathered
      cases foundOther : shape.gather layout.ending .nothing layoutOther.entries with
      | error faultOther =>
          rw [foundOther] at gathered
          cases gathered
          exact Or.inl ⟨_, rfl, rfl⟩
      | ok result => rw [foundOther] at gathered; cases gathered
  | ok result =>
      rw [found] at gathered
      cases foundOther : shape.gather layout.ending .nothing layoutOther.entries with
      | error fault => rw [foundOther] at gathered; cases gathered
      | ok resultOther =>
          rw [foundOther] at gathered
          obtain ⟨given, rest⟩ := result
          obtain ⟨givenOther, restOther⟩ := resultOther
          obtain ⟨sameGiven, rfl⟩ := Prod.mk.inj (Except.ok.inj gathered)
          dsimp only
          cases skipSpace restOther with
          | nil => exact Or.inr ⟨given, givenOther, sameGiven.symm, rfl, rfl⟩
          | cons byte after => exact Or.inl ⟨_, rfl, rfl⟩

end

end Json
end Telemetry
