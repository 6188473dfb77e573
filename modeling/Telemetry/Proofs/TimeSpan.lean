import Telemetry.Proofs.Number.Exact
import Telemetry.Proofs.Number.Reading
import Telemetry.Proofs.Text.Blank
import Telemetry.TimeSpan

/-!
# The texts of spans

The text of a span is a row of terms, each of them a plain decimal with a unit
behind it.  A text is read exactly if it is such a row without the blanks around
it, if no term is too large, and if their sum is a span; whole amounts are summed
up exactly, and the span of two texts in a row is the sum of their spans.
-/

namespace Telemetry
namespace TimeSpan

/-! ## Terms -/

/-- A unit of time. -/
inductive TimeUnit where
  | milliseconds
  | seconds
  | minutes
  | hours

namespace TimeUnit

/-- How a unit is written. -/
def letters : TimeUnit -> List Char
  | .milliseconds => ['m', 's']
  | .seconds => ['s']
  | .minutes => ['m']
  | .hours => ['h']

/-- The length of a unit. -/
def nanoseconds : TimeUnit -> Nat
  | .milliseconds => 1000000
  | .seconds => 1000000000
  | .minutes => 60000000000
  | .hours => 3600000000000

theorem letters_ne_nil (unit : TimeUnit) : unit.letters ≠ [] := by
  cases unit <;> exact List.cons_ne_nil _ _

theorem unitNanoseconds?_letters (unit : TimeUnit) :
    unitNanoseconds? unit.letters = some unit.nanoseconds := by
  cases unit <;> rfl

/-- Nothing else is a unit. -/
theorem exists_letters_eq
    {text : List Char} {scale : Nat}
    (known : unitNanoseconds? text = some scale) :
    ∃ unit : TimeUnit, unit.letters = text := by
  unfold unitNanoseconds? at known
  split_ifs at known with milliseconds seconds minutes hours
  · exact ⟨.milliseconds, milliseconds.symm⟩
  · exact ⟨.seconds, seconds.symm⟩
  · exact ⟨.minutes, minutes.symm⟩
  · exact ⟨.hours, hours.symm⟩

/-- No letter of a unit belongs to an amount. -/
theorem isAmountLetter_of_mem (unit : TimeUnit) :
    ∀ letter ∈ unit.letters, isAmountLetter letter = false := by
  have each : unit.letters.all (!isAmountLetter ·) = true := by cases unit <;> rfl
  simpa using each

/-- A unit does not begin like an amount. -/
theorem isAmountLetter_head?_append
    (unit : TimeUnit)
    {rest : List Char} {letter : Char}
    (first : letter ∈ (unit.letters ++ rest).head?) :
    isAmountLetter letter = false := by
  cases unit <;> cases first <;> rfl

theorem isBlank_of_mem (unit : TimeUnit) :
    ∀ letter ∈ unit.letters, Text.isBlank letter = false := by
  have each : unit.letters.all (!Text.isBlank ·) = true := by cases unit <;> rfl
  simpa using each

end TimeUnit

/-- An amount with its unit. -/
structure Term where
  /-- The amount. -/
  amount : PlainDecimal
  /-- The unit. -/
  unit : TimeUnit

namespace Term

/-- How a term is written. -/
def letters (term : Term) : List Char :=
  term.amount.letters ++ term.unit.letters

/-- The rounded product of the number that is nearest to the amount and the length of the unit. -/
def product (term : Term) : Binary64 :=
  term.amount.nearest.multiply (Binary64.ofNat term.unit.nanoseconds)

/-- A term is in range if its product, rounded to whole nanoseconds, is not more than `2 ^ 64`. -/
def IsInRange (term : Term) : Prop :=
  term.product.isFinite = true ∧ term.product.roundToNat ≤ UInt64.size

instance (term : Term) : Decidable term.IsInRange :=
  inferInstanceAs (Decidable (_ ∧ _))

/-- The nanoseconds of a term in range, of which `2 ^ 64` counts as one less. -/
def nanoseconds (term : Term) : Nat :=
  min term.product.roundToNat (UInt64.size - 1)

end Term

/-- How a row of terms is written. -/
def spelled (terms : List Term) : List Char :=
  terms.flatMap Term.letters

/-- The nanoseconds of a row of terms. -/
def total (terms : List Term) : Nat :=
  (terms.map Term.nanoseconds).sum

theorem spelled_append (terms others : List Term) :
    spelled (terms ++ others) = spelled terms ++ spelled others :=
  List.flatMap_append

theorem total_append (terms others : List Term) :
    total (terms ++ others) = total terms + total others := by
  rw [total, List.map_append, List.sum_append]
  rfl

/-! ## The letters of terms -/

theorem isAmountLetter_of_mem_amount
    {amount : PlainDecimal} {letter : Char}
    (present : letter ∈ amount.letters) :
    isAmountLetter letter = true := by
  unfold isAmountLetter
  rcases PlainDecimal.isDigit_or_point_of_mem present with digit | rfl
  · rw [digit]
    rfl
  · rfl

theorem isDigit_or_eq_point
    {letter : Char}
    (ofAmount : isAmountLetter letter = true) :
    isDigit letter = true ∨ letter = '.' := by
  unfold isAmountLetter at ofAmount
  rwa [Bool.or_eq_true, beq_iff_eq] at ofAmount

/-- A row of terms begins with an amount. -/
theorem isAmountLetter_head?_spelled
    {terms : List Term} {letter : Char}
    (first : letter ∈ (spelled terms).head?) :
    isAmountLetter letter = true := by
  cases terms with
  | nil => cases first
  | cons term others =>
      have letters : spelled (term :: others) =
          term.amount.letters ++ (term.unit.letters ++ spelled others) := List.append_assoc ..
      obtain ⟨front, rest, amount⟩ := List.exists_cons_of_ne_nil term.amount.letters_ne_nil
      rw [letters, amount, List.cons_append] at first
      cases first
      exact isAmountLetter_of_mem_amount (amount ▸ List.mem_cons_self)

theorem isBlank_of_isDigit
    {letter : Char}
    (digit : isDigit letter = true) :
    Text.isBlank letter = false := by
  obtain ⟨low, high⟩ := toNat_of_isDigit digit
  exact Text.isBlank_of_visible (by omega) (by omega)

/-- No letter of a row of terms is a blank. -/
theorem isBlank_of_mem_spelled
    {terms : List Term} {letter : Char}
    (present : letter ∈ spelled terms) :
    Text.isBlank letter = false := by
  obtain ⟨term, -, within⟩ := List.mem_flatMap.mp present
  rcases List.mem_append.mp within with amount | unit
  · rcases isDigit_or_eq_point (isAmountLetter_of_mem_amount amount) with digit | rfl
    · exact isBlank_of_isDigit digit
    · rfl
  · exact term.unit.isBlank_of_mem letter unit

/-! ## Reading terms -/

/-- An amount of a unit is counted exactly if their term is in range. -/
theorem amountNanoseconds?_letters (term : Term) :
    amountNanoseconds? term.amount.letters term.unit.letters =
      if term.IsInRange then some term.nanoseconds else none := by
  have inRange : term.IsInRange ↔
      (term.product.isFinite && decide (term.product.roundToNat ≤ UInt64.size)) = true := by
    rw [Bool.and_eq_true, decide_eq_true_iff, Term.IsInRange]
  unfold amountNanoseconds? Term.nanoseconds
  rw [term.amount.readUnsigned?_letters, term.unit.unitNanoseconds?_letters,
    Option.bind_eq_bind, Option.bind_some, Option.bind_eq_bind, Option.bind_some, ← Term.product]
  -- The branches are compared for any product, so that no arithmetic is unfolded for it.
  generalize term.product = product at *
  exact if_congr inRange.symm rfl rfl

/-- The amount of a term ends where its unit begins. -/
theorem Term.amount_run (term : Term) (rest : List Char) :
    (term.letters ++ rest).takeWhile isAmountLetter = term.amount.letters ∧
      (term.letters ++ rest).dropWhile isAmountLetter = term.unit.letters ++ rest := by
  rw [Term.letters, List.append_assoc]
  exact takeWhile_run (fun _ => isAmountLetter_of_mem_amount)
    (fun _ => term.unit.isAmountLetter_head?_append)

/-- A unit ends where another amount begins. -/
theorem TimeUnit.run
    {rest : List Char}
    (begins : ∀ letter ∈ rest.head?, isAmountLetter letter = true)
    (unit : TimeUnit) :
    (unit.letters ++ rest).takeWhile (!isAmountLetter ·) = unit.letters ∧
      (unit.letters ++ rest).dropWhile (!isAmountLetter ·) = rest := by
  refine takeWhile_run (fun letter present => ?_) (fun letter first => ?_)
  · rw [unit.isAmountLetter_of_mem letter present, Bool.not_false]
  · rw [begins letter first, Bool.not_true]

/-- A term at the front is added to the sum, if it is in range and the sum is a span. -/
theorem sumAmounts?_append
    {rest : List Char}
    (begins : ∀ letter ∈ rest.head?, isAmountLetter letter = true)
    (term : Term)
    (sum : Nat) :
    sumAmounts? sum (term.letters ++ rest) =
      if term.IsInRange ∧ sum + term.nanoseconds < limit then
        sumAmounts? (sum + term.nanoseconds) rest
      else none := by
  obtain ⟨amount, behind⟩ := term.amount_run rest
  obtain ⟨unit, left⟩ := TimeUnit.run begins term.unit
  have nonempty : term.letters ++ rest ≠ [] :=
    List.append_ne_nil_of_left_ne_nil
      (List.append_ne_nil_of_left_ne_nil term.amount.letters_ne_nil _) _
  rw [sumAmounts?, if_neg nonempty]
  split
  next none =>
    exact absurd (behind ▸ none) (List.append_ne_nil_of_left_ne_nil term.unit.letters_ne_nil _)
  next first after found =>
    -- The unit begins with the letter at which the amount ends.
    rw [behind] at found
    have isFirst : first ∈ (term.unit.letters ++ rest).head? := by
      rw [found]
      rfl
    have notAmount := term.unit.isAmountLetter_head?_append isFirst
    rw [found, List.takeWhile_cons_of_pos (by simp [notAmount])] at unit
    rw [found, List.dropWhile_cons_of_pos (by simp [notAmount])] at left
    dsimp only
    rw [amount, unit, left, amountNanoseconds?_letters]
    by_cases inRange : term.IsInRange
    · rw [if_pos inRange]
      simp only [inRange, true_and]
    · rw [if_neg inRange, if_neg fun both => inRange both.1]

/-- A row of terms is summed up exactly if each of them is in range and their sum is a span. -/
theorem sumAmounts?_spelled
    {sum : Nat}
    (small : sum < limit)
    (terms : List Term) :
    sumAmounts? sum (spelled terms) =
      if (∀ term ∈ terms, term.IsInRange) ∧ sum + total terms < limit then
        some (sum + total terms)
      else none := by
  induction terms generalizing sum with
  | nil =>
      have empty : sumAmounts? sum (spelled []) = some sum := by
        rw [spelled, List.flatMap_nil, sumAmounts?, if_pos rfl]
      rw [empty, if_pos ⟨nofun, small⟩]
      rfl
  | cons term others inductionHypothesis =>
      have sums : sum + total (term :: others) = sum + term.nanoseconds + total others :=
        (Nat.add_assoc ..).symm
      have letters : spelled (term :: others) = term.letters ++ spelled others := List.flatMap_cons
      rw [letters, sumAmounts?_append (fun _ => isAmountLetter_head?_spelled), sums]
      by_cases fits : term.IsInRange ∧ sum + term.nanoseconds < limit
      · rw [if_pos fits]
        refine (inductionHypothesis fits.2).trans (if_congr ?_ rfl rfl)
        rw [List.forall_mem_cons, and_iff_right fits.1]
      · rw [if_neg fits, if_neg]
        rintro ⟨each, less⟩
        exact fits ⟨each term List.mem_cons_self, by omega⟩

/-- Nothing else is summed up. -/
theorem exists_spelled_eq
    {sum result : Nat} {text : List Char}
    (summed : sumAmounts? sum text = some result) :
    ∃ terms, spelled terms = text := by
  fun_induction sumAmounts? sum text with
  | case1 sum => exact ⟨[], rfl⟩
  | case4 sum text nonempty first rest behind unitLetters amount counted small
      inductionHypothesis =>
      obtain ⟨others, spelledOthers⟩ := inductionHypothesis summed
      obtain ⟨number, read, isCounted⟩ := Option.bind_eq_some_iff.mp counted
      obtain ⟨scale, known, -⟩ := Option.bind_eq_some_iff.mp isCounted
      have plain : ∀ letter ∈ text.takeWhile isAmountLetter, isDigit letter = true ∨ letter = '.' :=
        fun letter present =>
          isDigit_or_eq_point (List.all_eq_true.mp List.all_takeWhile letter present)
      obtain ⟨decimal, spelledDecimal⟩ := PlainDecimal.exists_letters_eq plain read
      obtain ⟨unit, spelledUnit⟩ := TimeUnit.exists_letters_eq known
      refine ⟨⟨decimal, unit⟩ :: others, ?_⟩
      calc
        spelled (⟨decimal, unit⟩ :: others)
          = (decimal.letters ++ unit.letters) ++ spelled others := List.flatMap_cons
        _ = text.takeWhile isAmountLetter ++ (first :: (rest.takeWhile (!isAmountLetter ·) ++
              rest.dropWhile (!isAmountLetter ·))) := by
            rw [spelledDecimal, spelledUnit, spelledOthers, List.append_assoc, List.cons_append]
        _ = text := by
            rw [List.takeWhile_append_dropWhile, ← behind, List.takeWhile_append_dropWhile]
  | _ => cases summed

/-! ## Reading spans -/

theorem spelled_ne_nil {terms : List Term} (nonempty : terms ≠ []) : spelled terms ≠ [] := by
  obtain ⟨term, others, rfl⟩ := List.exists_cons_of_ne_nil nonempty
  intro none
  obtain ⟨letters, -⟩ := List.append_eq_nil_iff.mp (List.flatMap_cons.symm.trans none)
  exact term.amount.letters_ne_nil (List.append_eq_nil_iff.mp letters).1

/-- A row of terms, with blanks around it or without, is read exactly if each of them is in range
and their sum is a span. -/
theorem read?_of_trim_eq
    {text : String} {terms : List Term}
    (nonempty : terms ≠ [])
    (row : Text.trim text = String.ofList (spelled terms)) :
    read? text =
      if (∀ term ∈ terms, term.IsInRange) ∧ total terms < limit then some ⟨total terms⟩
      else none := by
  have letters : Text.trimLetters text.toList = spelled terms := String.ofList_inj.mp row
  have summed := sumAmounts?_spelled (show 0 < limit by decide) terms
  rw [Nat.zero_add] at summed
  rw [read?, letters, if_neg (spelled_ne_nil nonempty), summed]
  split <;> rfl

/-- Only rows of terms are read. -/
theorem exists_row_of_read?
    {text : String} {span : TimeSpan}
    (read : read? text = some span) :
    ∃ terms, terms ≠ [] ∧ Text.trim text = String.ofList (spelled terms) := by
  unfold read? at read
  dsimp only at read
  split at read
  next => cases read
  next nonempty =>
    obtain ⟨nanoseconds, summed, -⟩ := Option.map_eq_some_iff.mp read
    obtain ⟨terms, row⟩ := exists_spelled_eq summed
    refine ⟨terms, ?_, congrArg String.ofList row.symm⟩
    rintro rfl
    exact nonempty row.symm

/-- What is read is a row of terms in range, and its span is their sum. -/
theorem read?_eq_some_iff {text : String} {span : TimeSpan} :
    read? text = some span ↔
      ∃ terms, terms ≠ [] ∧ Text.trim text = String.ofList (spelled terms) ∧
        (∀ term ∈ terms, term.IsInRange) ∧ total terms < limit ∧ span = ⟨total terms⟩ := by
  constructor
  · intro read
    obtain ⟨terms, nonempty, row⟩ := exists_row_of_read? read
    rw [read?_of_trim_eq nonempty row] at read
    split at read
    next accepted =>
      cases read
      exact ⟨terms, nonempty, row, accepted.1, accepted.2, rfl⟩
    next => cases read
  · rintro ⟨terms, nonempty, row, inRange, small, rfl⟩
    rw [read?_of_trim_eq nonempty row, if_pos ⟨inRange, small⟩]

/-! ## Whole amounts -/

/-- The exact product of a whole amount and its unit. -/
def Term.wholeNanoseconds (term : Term) : Nat :=
  term.amount.wholePart * term.unit.nanoseconds

/-- A whole amount of no more than `2 ^ 53` nanoseconds is in range, and nothing of it is lost. -/
theorem Term.nanoseconds_of_isWhole
    {term : Term}
    (isWhole : term.amount.IsWhole)
    (short : term.wholeNanoseconds ≤ 2 ^ 53) :
    term.IsInRange ∧ term.nanoseconds = term.wholeNanoseconds := by
  have unitPositive : 0 < term.unit.nanoseconds := by cases term.unit <;> decide
  have unitShort : term.unit.nanoseconds ≤ 2 ^ 53 := by cases term.unit <;> decide
  have amountShort : term.amount.wholePart ≤ 2 ^ 53 :=
    (Nat.le_mul_of_pos_right _ unitPositive).trans short
  have exact := Binary64.isExact_of_le short
  have product : term.product = Binary64.ofNat term.wholeNanoseconds := by
    rw [Term.product, PlainDecimal.nearest_of_isWhole isWhole,
      Binary64.multiply_ofNat (Binary64.isExact_of_le amountShort)
        (Binary64.isExact_of_le unitShort)]
    rfl
  have small : term.wholeNanoseconds ≤ UInt64.size - 1 := short.trans (by decide)
  rw [IsInRange, nanoseconds, product, exact.roundToNat_ofNat]
  exact ⟨⟨exact.isFinite_ofNat, small.trans (Nat.sub_le _ _)⟩, Nat.min_eq_left small⟩

/-- Whole amounts of no more than `2 ^ 53` nanoseconds each are summed up exactly. -/
theorem read?_of_isWhole
    {text : String} {terms : List Term}
    (nonempty : terms ≠ [])
    (row : Text.trim text = String.ofList (spelled terms))
    (whole : ∀ term ∈ terms, term.amount.IsWhole ∧ term.wholeNanoseconds ≤ 2 ^ 53) :
    read? text =
      if (terms.map Term.wholeNanoseconds).sum < limit then
        some ⟨(terms.map Term.wholeNanoseconds).sum⟩
      else none := by
  have each := fun term present =>
    Term.nanoseconds_of_isWhole (whole term present).1 (whole term present).2
  have sums : total terms = (terms.map Term.wholeNanoseconds).sum :=
    congrArg List.sum (List.map_congr_left fun term present => (each term present).2)
  rw [read?_of_trim_eq nonempty row, sums]
  exact if_congr (and_iff_right fun term present => (each term present).1) rfl rfl

/-! ## Rows behind rows -/

/-- A row of terms is not changed by trimming. -/
theorem trim_ofList_spelled (terms : List Term) :
    Text.trim (String.ofList (spelled terms)) = String.ofList (spelled terms) := by
  rw [Text.trim, String.toList_ofList, Text.trimLetters_eq_self fun _ => isBlank_of_mem_spelled]

/-- The span of two texts in a row is the sum of their spans, if it is a span. -/
theorem read?_append
    {front back : String} {first second : TimeSpan}
    (readFront : read? front = some first)
    (readBack : read? back = some second)
    (trimmedFront : Text.trim front = front)
    (trimmedBack : Text.trim back = back) :
    read? (front ++ back) =
      if first.nanoseconds + second.nanoseconds < limit then
        some ⟨first.nanoseconds + second.nanoseconds⟩
      else none := by
  obtain ⟨terms, nonempty, row, inRange, -, rfl⟩ := read?_eq_some_iff.mp readFront
  obtain ⟨others, -, rowBehind, inRangeToo, -, rfl⟩ := read?_eq_some_iff.mp readBack
  have joined : front ++ back = String.ofList (spelled (terms ++ others)) := by
    rw [← trimmedFront, ← trimmedBack, row, rowBehind, spelled_append, String.ofList_append]
  have all : ∀ term ∈ terms ++ others, term.IsInRange :=
    List.forall_mem_append.mpr ⟨inRange, inRangeToo⟩
  rw [joined, read?_of_trim_eq (List.append_ne_nil_of_left_ne_nil nonempty others)
    (trim_ofList_spelled _), total_append]
  exact if_congr (and_iff_right all) rfl rfl

/-- Exactly the rows of terms in range are read, as their sums; whole amounts of no more than
`2 ^ 53` nanoseconds are counted exactly, and two texts in a row are read as the sum of both. -/
theorem rows_of_terms_are_read_as_sums :
    (∀ (text : String) (span : TimeSpan), read? text = some span ↔
      ∃ terms, terms ≠ [] ∧ Text.trim text = String.ofList (spelled terms) ∧
        (∀ term ∈ terms, term.IsInRange) ∧ total terms < limit ∧ span = ⟨total terms⟩) ∧
    (∀ (text : String) (terms : List Term), terms ≠ [] ->
      Text.trim text = String.ofList (spelled terms) ->
      (∀ term ∈ terms, term.amount.IsWhole ∧ term.wholeNanoseconds ≤ 2 ^ 53) ->
      read? text =
        if (terms.map Term.wholeNanoseconds).sum < limit then
          some ⟨(terms.map Term.wholeNanoseconds).sum⟩
        else none) ∧
    (∀ (front back : String) (first second : TimeSpan),
      read? front = some first -> read? back = some second ->
      Text.trim front = front -> Text.trim back = back ->
      read? (front ++ back) =
        if first.nanoseconds + second.nanoseconds < limit then
          some ⟨first.nanoseconds + second.nanoseconds⟩
        else none) :=
  ⟨fun _ _ => read?_eq_some_iff, fun _ _ => read?_of_isWhole, fun _ _ _ _ => read?_append⟩

/-- An hour and a half in two texts: each of them is read, and so are both in a row. -/
theorem hour_and_half_read :
    read? "1h" = some ⟨3600000000000⟩ ∧ read? "30m" = some ⟨1800000000000⟩ ∧
      read? ("1h" ++ "30m") = some ⟨5400000000000⟩ := by
  obtain ⟨-, whole, rows⟩ := rows_of_terms_are_read_as_sums
  have hour : read? "1h" = some ⟨3600000000000⟩ :=
    (whole "1h" [⟨⟨['1'], none, rfl, nofun⟩, .hours⟩] nofun (by decide) (by decide)).trans
      (if_pos (by decide))
  have half : read? "30m" = some ⟨1800000000000⟩ :=
    (whole "30m" [⟨⟨['3', '0'], none, rfl, nofun⟩, .minutes⟩] nofun (by decide) (by decide)).trans
      (if_pos (by decide))
  exact ⟨hour, half, (rows "1h" "30m" _ _ hour half (by decide) (by decide)).trans
    (if_pos (by decide))⟩

end TimeSpan
end Telemetry
