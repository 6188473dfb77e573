import Telemetry.Network.Address
import Telemetry.Proofs.Number.Digits

/-!
# Addresses come back from their texts

The text of an address is read as the same address again: the octets of the
short family, and the groups of the long one, where a run of zeros may have
been left out or the last two groups may be written as octets.
-/

namespace Telemetry
namespace Network

/-! ## Numbers -/

/-- What follows does not go on with the digits of a base. -/
def EndsNumeral (base : Nat) (rest : List Char) : Prop :=
  ∀ letter, rest.head? = some letter -> baseDigit? base letter = none

/-- The digits of a base are read as what they stand for. -/
def IsRead (base : Nat) : Prop :=
  1 < base ∧ ∀ digit < base, baseDigit? base digit.digitChar = some digit

theorem isRead_ten : IsRead 10 :=
  ⟨by decide, by decide⟩

theorem isRead_sixteen : IsRead 16 :=
  ⟨by decide, by decide⟩

theorem EndsNumeral.nil (base : Nat) : EndsNumeral base [] :=
  nofun

theorem EndsNumeral.cons
    {base : Nat} {letter : Char}
    (other : baseDigit? base letter = none)
    (rest : List Char) :
    EndsNumeral base (letter :: rest) := by
  rintro _ ⟨rfl⟩
  exact other

theorem toDigits_induction
    {base : Nat} {motive : Nat -> Prop}
    (some_base : 1 < base)
    (digit : ∀ value < base, motive value)
    (more : ∀ value, base ≤ value -> motive (value / base) -> motive value)
    (value : Nat) :
    motive value := by
  induction value using Nat.strongRecOn with
  | ind value inductionHypothesis =>
      rcases Nat.lt_or_ge value base with small | large
      · exact digit value small
      · exact more value large
          (inductionHypothesis _ (Nat.div_lt_self (by omega) some_base))

/-- The digits of a number are read, one by one and all together. -/
theorem IsRead.toDigits
    {base : Nat}
    (isRead : IsRead base)
    (value : Nat) :
    (∀ letter ∈ Nat.toDigits base value, (baseDigit? base letter).isSome = true) ∧
      (Nat.toDigits base value).foldl
        (fun total digit => total * base + (baseDigit? base digit).getD 0) 0 = value := by
  obtain ⟨some_base, digits⟩ := isRead
  induction value using toDigits_induction some_base with
  | digit value small => simp [Nat.toDigits_of_lt_base small, digits value small]
  | more value large inductionHypothesis =>
      have last := digits (value % base) (Nat.mod_lt _ (by omega))
      rw [Nat.toDigits_of_base_le some_base large]
      constructor
      · intro letter present
        rcases List.mem_append.mp present with front | back
        · exact inductionHypothesis.1 letter front
        · rw [List.mem_singleton.mp back, last]
          rfl
      · rw [List.foldl_append, inductionHypothesis.2]
        simp [last, Nat.div_add_mod']

theorem toDigits_ne_nil
    {base : Nat}
    (some_base : 1 < base)
    (value : Nat) :
    Nat.toDigits base value ≠ [] := by
  induction value using toDigits_induction some_base with
  | digit value small =>
      rw [Nat.toDigits_of_lt_base small]
      exact List.cons_ne_nil _ _
  | more value large _ =>
      rw [Nat.toDigits_of_base_le some_base large]
      exact List.append_ne_nil_of_right_ne_nil _ (List.cons_ne_nil _ _)

/-- A number is read from its digits, when they are few and it is below the limit. -/
theorem IsRead.readNumber?_toDigits
    {base width limit value : Nat} {leadingZeros : Bool} {rest : List Char}
    (isRead : IsRead base)
    (short : (Nat.toDigits base value).length ≤ width)
    (small : value < limit)
    (proper : leadingZeros = true ∨ (Nat.toDigits base value).head? ≠ some '0' ∨
      (Nat.toDigits base value).length ≤ 1)
    (ends : EndsNumeral base rest) :
    readNumber? base width limit leadingZeros (Nat.toDigits base value ++ rest) =
      some (value, rest) := by
  obtain ⟨digits, total⟩ := isRead.toDigits value
  obtain ⟨taken, left⟩ := takeWhile_run digits fun letter first => by
    rw [ends letter first]
    rfl
  unfold readNumber?
  dsimp only
  rw [taken, left, total, if_neg, if_neg]
  · rintro ⟨strict, zero, long⟩
    rcases proper with loose | other | single
    · simp [loose] at strict
    · exact other zero
    · omega
  · have some_digits := toDigits_ne_nil isRead.1 value
    rintro (none | long | large)
    · exact some_digits none
    · omega
    · omega

/-! ## Octets -/

/-- An octet is read from its digits. -/
theorem readNumber?_octet
    {octet : Nat} {rest : List Char}
    (small : octet < 256)
    (ends : EndsNumeral 10 rest)
    (leadingZeros : Bool) :
    readNumber? 10 3 256 leadingZeros (Address.decimalText octet ++ rest) =
      some (octet, rest) := by
  refine isRead_ten.readNumber?_toDigits ?_ small (Or.inr ?_) ends
  · exact (Nat.length_toDigits_le_iff (by decide) (by decide)).mpr (by omega)
  · rcases Nat.eq_zero_or_pos octet with rfl | positive
    · exact Or.inr (by decide)
    · exact Or.inl (Decimal.head?_digitChars (by omega))

/-- An address of four octets is read from its text. -/
theorem readV4?_v4Text
    {bits : BitVec 32} {rest : List Char}
    (ends : EndsNumeral 10 rest)
    (grammar : AddressGrammar) :
    readV4? grammar (Address.v4Text bits.toNat ++ rest) = some (bits, rest) := by
  have point (after : List Char) : EndsNumeral 10 ('.' :: after) :=
    .cons (by decide) after
  have whole := bits.isLt
  generalize value_eq : bits.toNat = value at whole
  have total : (((0 * 256 + value / 16777216 % 256) * 256 + value / 65536 % 256) * 256 +
      value / 256 % 256) * 256 + value % 256 = value := by omega
  unfold readV4? Address.v4Text
  simp only [readOctets?, List.append_assoc, List.cons_append,
    readNumber?_octet (Nat.mod_lt _ (show 0 < 256 by decide)) (point _),
    readNumber?_octet (Nat.mod_lt _ (show 0 < 256 by decide)) ends, Option.bind_eq_bind,
    Option.bind_some, Option.map_some, total]
  rw [← value_eq, BitVec.ofNat_toNat, BitVec.setWidth_eq]

theorem readV4?_v4Text_nil (bits : BitVec 32) (grammar : AddressGrammar) :
    readV4? grammar (Address.v4Text bits.toNat) = some (bits, []) := by
  rw [← List.append_nil (Address.v4Text bits.toNat)]
  exact readV4?_v4Text (EndsNumeral.nil 10) grammar

/-! ## Groups -/

/-- What follows a group: nothing more, or a colon. -/
def EndsGroup (rest : List Char) : Prop :=
  ∀ letter, rest.head? = some letter -> letter = ':'

theorem EndsGroup.nil : EndsGroup [] :=
  nofun

theorem EndsGroup.colon (rest : List Char) : EndsGroup (':' :: rest) := by
  rintro _ ⟨rfl⟩
  rfl

theorem EndsGroup.endsNumeral
    {rest : List Char}
    (ends : EndsGroup rest)
    {base : Nat}
    (noColon : baseDigit? base ':' = none) :
    EndsNumeral base rest := by
  intro letter first
  rw [ends letter first, noColon]

/-- No number is read where no digit stands. -/
theorem readNumber?_eq_none
    {base : Nat} {rest : List Char}
    (ends : EndsNumeral base rest)
    (width limit : Nat)
    (leadingZeros : Bool) :
    readNumber? base width limit leadingZeros rest = none := by
  have noDigits : rest.takeWhile (fun letter => (baseDigit? base letter).isSome) = [] := by
    cases rest with
    | nil => rfl
    | cons letter after => exact List.takeWhile_cons_of_neg (by simp [ends letter rfl])
  unfold readNumber?
  dsimp only
  rw [noDigits, if_pos (Or.inl rfl)]

/-- No octets are read where the digits in front are followed by no point. -/
theorem readV4?_eq_none
    {front rest : List Char}
    (noPoint : '.' ∉ front)
    (ends : EndsGroup rest)
    (grammar : AddressGrammar) :
    readV4? grammar (front ++ rest) = none := by
  let isOctetDigit (letter : Char) : Bool := (baseDigit? 10 letter).isSome
  have behind : ((front ++ rest).dropWhile isOctetDigit).head? ≠ some '.' := by
    induction front with
    | nil =>
        cases rest with
        | nil => exact nofun
        | cons letter after =>
            obtain rfl := ends letter rfl
            exact nofun
    | cons letter others inductionHypothesis =>
        rw [List.mem_cons, not_or] at noPoint
        rw [List.cons_append, List.dropWhile_cons]
        split
        · exact inductionHypothesis noPoint.2
        · exact fun point => noPoint.1 (Option.some.inj point).symm
  have none : readOctets? grammar 4 0 (front ++ rest) = none := by
    rw [readOctets?]
    cases read : readNumber? 10 3 256 grammar.leadingZeros (front ++ rest) with
    | none => rfl
    | some found =>
        obtain ⟨octet, after⟩ := found
        have isAfter : (front ++ rest).dropWhile isOctetDigit = after := by
          unfold readNumber? at read
          dsimp only at read
          split_ifs at read
          exact (Prod.mk.inj (Option.some.inj read)).2
        rw [isAfter] at behind
        cases after with
        | nil => rfl
        | cons letter others =>
            have other : letter ≠ '.' := fun point => behind (by rw [point]; rfl)
            simp only [Option.bind_eq_bind, Option.bind_some]
            split
            · contradiction
            next point => exact absurd (List.cons.inj point).1 other
            next => rfl
  rw [readV4?, none]
  rfl

theorem point_notMem_toDigits (group : Nat) : '.' ∉ Nat.toDigits 16 group := by
  intro present
  have digit := (isRead_sixteen.toDigits group).1 '.' present
  exact absurd digit (by decide)

/-- A group is read from its digits. -/
theorem readNumber?_group
    {group : Nat} {rest : List Char}
    (small : group < 65536)
    (ends : EndsGroup rest) :
    readNumber? 16 4 65536 true (Nat.toDigits 16 group ++ rest) = some (group, rest) := by
  refine isRead_sixteen.readNumber?_toDigits ?_ small (Or.inl rfl) (ends.endsNumeral (by decide))
  exact (Nat.length_toDigits_le_iff (by decide) (by decide)).mpr (by omega)

/-- Groups with a colon before each but the first. -/
def separatedGroups (first : Bool) : List Nat -> List Char
  | [] => []
  | group :: others =>
      (if first then [] else [':']) ++ (Nat.toDigits 16 group ++ separatedGroups false others)

theorem groupsText_eq (groups : List Nat) :
    Address.groupsText groups = separatedGroups true groups := by
  have later (group : Nat) (others : List Nat) :
      List.intercalate [':'] ((group :: others).map (Nat.toDigits 16 ·)) =
        Nat.toDigits 16 group ++ separatedGroups false others := by
    induction others generalizing group with
    | nil => simp [separatedGroups, List.intercalate]
    | cons next others inductionHypothesis =>
        rw [List.map_cons, List.map_cons, List.intercalate_cons_cons, ← List.map_cons,
          inductionHypothesis next]
        simp [separatedGroups]
  cases groups with
  | nil => rfl
  | cons group others => exact later group others

/-- What follows the groups of an address: nothing more, or a gap. -/
def EndsGroups (rest : List Char) : Prop :=
  rest = [] ∨ ∃ after, rest = ':' :: ':' :: after

theorem EndsGroups.endsGroup {rest : List Char} (ends : EndsGroups rest) : EndsGroup rest := by
  rcases ends with rfl | ⟨after, rfl⟩
  · exact .nil
  · exact .colon _

/-- Groups that are not the first ones end with the one before them. -/
theorem endsGroup_separatedGroups
    {rest : List Char}
    (ends : EndsGroup rest)
    (groups : List Nat) :
    EndsGroup (separatedGroups false groups ++ rest) := by
  cases groups with
  | nil => exact ends
  | cons group others => exact .colon _

/-- Nothing more is read behind the groups of an address. -/
theorem readGroups_endsGroups
    {rest : List Char}
    (ends : EndsGroups rest)
    (grammar : AddressGrammar)
    (room : Nat)
    (first : Bool)
    (done : List Nat) :
    readGroups grammar room first done rest = ⟨done, false, rest⟩ := by
  cases room with
  | zero => rfl
  | succ room =>
      have stops {text : List Char} (ends : EndsGroup text) :
          (if room = 0 then none else readV4? grammar text) = none ∧
            readNumber? 16 4 65536 true text = none := by
        refine ⟨?_, readNumber?_eq_none (ends.endsNumeral (by decide)) 4 65536 true⟩
        split
        · rfl
        · exact readV4?_eq_none List.not_mem_nil ends grammar
      unfold readGroups
      cases first with
      | true =>
          simp only [if_true]
          rw [(stops ends.endsGroup).1, (stops ends.endsGroup).2]
      | false =>
          rcases ends with rfl | ⟨after, rfl⟩
          · rfl
          · simp only [Bool.false_eq_true, if_false]
            rw [(stops (.colon after)).1, (stops (.colon after)).2]

/-- One more group is read. -/
theorem readGroups_group
    {group : Nat} {rest : List Char}
    (small : group < 65536)
    (ends : EndsGroup rest)
    (grammar : AddressGrammar)
    (room : Nat)
    (first : Bool)
    (done : List Nat) :
    readGroups grammar (room + 1) first done
        ((if first then [] else [':']) ++ (Nat.toDigits 16 group ++ rest)) =
      readGroups grammar room false (group :: done) rest := by
  have noOctets : (if room = 0 then none else
      readV4? grammar (Nat.toDigits 16 group ++ rest)) = none := by
    split
    · rfl
    · exact readV4?_eq_none (point_notMem_toDigits group) ends grammar
  conv_lhs => unfold readGroups
  cases first with
  | true =>
      simp only [if_true, List.nil_append]
      rw [noOctets, readNumber?_group small ends]
  | false =>
      simp only [Bool.false_eq_true, if_false, List.singleton_append]
      rw [noOctets, readNumber?_group small ends]

/-- Groups are read one after the other. -/
theorem readGroups_separatedGroups
    {groups : List Nat} {rest : List Char}
    (small : ∀ group ∈ groups, group < 65536)
    (ends : EndsGroups rest)
    (grammar : AddressGrammar)
    {room : Nat}
    (fits : groups.length ≤ room)
    (first : Bool)
    (done : List Nat) :
    readGroups grammar room first done (separatedGroups first groups ++ rest) =
      ⟨groups.reverse ++ done, false, rest⟩ := by
  induction groups generalizing room first done with
  | nil => exact readGroups_endsGroups ends grammar room first done
  | cons group others inductionHypothesis =>
      obtain ⟨room, rfl⟩ : ∃ less, room = less + 1 :=
        ⟨room - 1, by rw [List.length_cons] at fits; omega⟩
      rw [separatedGroups, List.append_assoc, List.append_assoc,
        readGroups_group (small group List.mem_cons_self)
          (endsGroup_separatedGroups ends.endsGroup others),
        inductionHypothesis (fun other present => small other (List.mem_cons_of_mem _ present))
          (by simpa using fits), List.reverse_cons, List.append_assoc, List.singleton_append]

/-! ## Addresses of eight groups -/

theorem groupsOf_lt (bits : BitVec 128) : ∀ group ∈ Address.groupsOf bits, group < 65536 := by
  intro group present
  obtain ⟨index, -, rfl⟩ := List.mem_map.mp present
  exact Nat.mod_lt _ (by decide)

/-- An address comes back from its groups. -/
theorem ofGroups_groupsOf (bits : BitVec 128) : ofGroups (Address.groupsOf bits) = bits := by
  have next (place : Nat) : bits.toNat >>> (place + 16) * 65536 + bits.toNat >>> place % 65536 =
      bits.toNat >>> place := by
    rw [Nat.shiftRight_add, Nat.shiftRight_eq_div_pow _ 16]
    exact Nat.div_add_mod' _ _
  have highest : 0 * 65536 + bits.toNat >>> 112 % 65536 = bits.toNat >>> 112 := by
    have whole := bits.isLt
    rw [Nat.shiftRight_eq_div_pow]
    omega
  have range : List.range 8 = [0, 1, 2, 3, 4, 5, 6, 7] := rfl
  simp only [ofGroups, Address.groupsOf, range, List.map_cons, List.map_nil, List.foldl_cons,
    List.foldl_nil]
  rw [highest, next 96, next 80, next 64, next 48, next 32, next 16, next 0, Nat.shiftRight_zero,
    BitVec.ofNat_toNat, BitVec.setWidth_eq]

theorem length_groupsOf (bits : BitVec 128) : (Address.groupsOf bits).length = 8 := by
  rw [Address.groupsOf, List.length_map, List.length_range]

/-- The longest run of zeros is one of the runs of zeros. -/
theorem longestZeros_spec (groups : List Nat) :
    let run := Address.longestZeros groups
    run.1 + run.2 ≤ groups.length ∧
      groups = groups.take run.1 ++ List.replicate run.2 0 ++ groups.drop (run.1 + run.2) := by
  let isRun (run : Nat × Nat) : Prop :=
    run.1 + run.2 ≤ groups.length ∧
      groups = groups.take run.1 ++ List.replicate run.2 0 ++ groups.drop (run.1 + run.2)
  have none : isRun (0, 0) := ⟨Nat.zero_le _, rfl⟩
  have runs : ∀ run ∈ (List.range groups.length).map (fun start =>
      (start, ((groups.drop start).takeWhile (· == 0)).length)), isRun run := by
    intro run present
    obtain ⟨start, inside, rfl⟩ := List.mem_map.mp present
    have short := (List.takeWhile_sublist (l := groups.drop start) (· == 0)).length_le
    rw [List.length_drop] at short
    have before := List.mem_range.mp inside
    refine ⟨by dsimp only; omega, ?_⟩
    have zeros : (groups.drop start).takeWhile (· == 0) =
        List.replicate ((groups.drop start).takeWhile (· == 0)).length 0 := by
      refine List.eq_replicate_iff.mpr ⟨rfl, fun group taken => ?_⟩
      exact beq_iff_eq.mp (List.all_eq_true.mp List.all_takeWhile group taken)
    have split := List.takeWhile_append_dropWhile (p := (· == 0)) (l := groups.drop start)
    have others : (groups.drop start).dropWhile (· == 0) =
        groups.drop (start + ((groups.drop start).takeWhile (· == 0)).length) := by
      rw [← List.drop_drop]
      conv_rhs => rw [← split]
      rw [List.drop_left' (by rw [split])]
    rw [zeros, others] at split
    rw [List.append_assoc, split, List.take_append_drop]
  have best (list : List (Nat × Nat)) (start : Nat × Nat) (isStart : isRun start)
      (all : ∀ run ∈ list, isRun run) :
      isRun (list.foldl (fun best run => if best.2 < run.2 then run else best) start) := by
    induction list generalizing start with
    | nil => exact isStart
    | cons run others inductionHypothesis =>
        rw [List.foldl_cons]
        refine inductionHypothesis _ ?_ fun other present =>
          all other (List.mem_cons_of_mem _ present)
        split
        · exact all run List.mem_cons_self
        · exact isStart
  exact best _ _ none runs

/-- Eight groups are read as an address. -/
theorem readV6?_groups
    {groups : List Nat}
    (small : ∀ group ∈ groups, group < 65536)
    (all : groups.length = 8)
    (grammar : AddressGrammar) :
    readV6? grammar (Address.groupsText groups) = some (ofGroups groups, []) := by
  have read := readGroups_separatedGroups small (Or.inl rfl) grammar all.le true []
  rw [List.append_nil, List.append_nil] at read
  rw [groupsText_eq, readV6?]
  dsimp only
  rw [read, if_pos (by rw [List.length_reverse]; exact all), List.reverse_reverse]

/-- Fewer groups around a gap are read as an address with zeros in the gap. -/
theorem readV6?_gap
    {front back : List Nat}
    (smallFront : ∀ group ∈ front, group < 65536)
    (smallBack : ∀ group ∈ back, group < 65536)
    (few : front.length + back.length < 8)
    (grammar : AddressGrammar) :
    readV6? grammar
        (Address.groupsText front ++ ':' :: ':' :: Address.groupsText back) =
      some (ofGroups (front ++ List.replicate (8 - front.length - back.length) 0 ++ back), []) := by
  have head := readGroups_separatedGroups smallFront
    (Or.inr ⟨separatedGroups true back, rfl⟩) grammar (show front.length ≤ 8 by omega) true []
  have room : back.length ≤ 8 - front.length - (if grammar.emptyGap then 0 else 1) := by
    split <;> omega
  have tail := readGroups_separatedGroups smallBack (Or.inl rfl) grammar room true []
  rw [List.append_nil] at head
  rw [List.append_nil, List.append_nil] at tail
  rw [groupsText_eq, groupsText_eq, readV6?]
  dsimp only
  rw [head, if_neg (by rw [List.length_reverse]; omega), if_neg Bool.false_ne_true]
  simp only [List.length_reverse, tail, List.reverse_reverse]

/-- The groups of an address are its first six and the two halves of its last thirty-two bits. -/
theorem groupsOf_eq (bits : BitVec 128) :
    Address.groupsOf bits = (Address.groupsOf bits).take 6 ++
      [(BitVec.ofNat 32 bits.toNat).toNat / 65536, (BitVec.ofNat 32 bits.toNat).toNat % 65536] := by
  have high : bits.toNat >>> 16 % 65536 = bits.toNat % 2 ^ 32 / 65536 := by
    rw [Nat.shiftRight_eq_div_pow]
    omega
  have low : bits.toNat >>> 0 % 65536 = bits.toNat % 2 ^ 32 % 65536 := by
    rw [Nat.shiftRight_zero]
    omega
  rw [BitVec.toNat_ofNat, ← high, ← low]
  rfl

/-- The last two groups are read from four octets. -/
theorem readGroups_octets
    (bits : BitVec 32)
    (grammar : AddressGrammar)
    (room : Nat)
    (done : List Nat) :
    readGroups grammar (room + 2) false done (':' :: Address.v4Text bits.toNat) =
      ⟨bits.toNat % 65536 :: bits.toNat / 65536 :: done, true, []⟩ := by
  simp [readGroups, readV4?_v4Text_nil]

/-- An address of the short family inside the long one is read from its text. -/
theorem readV6?_mapped
    {bits : BitVec 128}
    (mapped : (Address.groupsOf bits).take 6 = [0, 0, 0, 0, 0, 65535])
    (grammar : AddressGrammar) :
    readV6? grammar ("::ffff:".toList ++ Address.v4Text (BitVec.ofNat 32 bits.toNat).toNat) =
      some (bits, []) := by
  have spelled : "::ffff:".toList ++ Address.v4Text (BitVec.ofNat 32 bits.toNat).toNat =
      ':' :: ':' :: (Nat.toDigits 16 65535 ++
        ':' :: Address.v4Text (BitVec.ofNat 32 bits.toNat).toNat) := rfl
  have head (text : List Char) :=
    readGroups_endsGroups (Or.inr ⟨text, rfl⟩) grammar 8 true []
  have tail (room : Nat) : readGroups grammar (room + 3) true [] (Nat.toDigits 16 65535 ++
      ':' :: Address.v4Text (BitVec.ofNat 32 bits.toNat).toNat) =
        ⟨[(BitVec.ofNat 32 bits.toNat).toNat % 65536,
          (BitVec.ofNat 32 bits.toNat).toNat / 65536, 65535], true, []⟩ := by
    exact (readGroups_group (show 65535 < 65536 by decide) (.colon _) grammar (room + 2) true
      []).trans (readGroups_octets _ grammar room [65535])
  have groups := ofGroups_groupsOf bits
  rw [groupsOf_eq, mapped] at groups
  rw [spelled, readV6?]
  dsimp only
  rw [head]
  simp only [List.length_nil, List.reverse_nil]
  rw [if_neg (by decide), if_neg Bool.false_ne_true]
  cases grammar.emptyGap with
  | true =>
      rw [if_pos rfl, tail 5]
      exact congrArg (fun bits => some (bits, [])) groups
  | false =>
      rw [if_neg Bool.false_ne_true, tail 4]
      exact congrArg (fun bits => some (bits, [])) groups

namespace Address

/-- An address of eight groups is read from its text, which has no octets in front. -/
theorem readV6?_v6Text (bits : BitVec 128) :
    readV6? strictGrammar (v6Text bits) = some (bits, []) ∧
      readV4? strictGrammar (v6Text bits) = none := by
  have small := groupsOf_lt bits
  have noOctets {groups : List Nat} {rest : List Char} (ends : EndsGroup rest) :
      readV4? strictGrammar (groupsText groups ++ rest) = none := by
    rw [groupsText_eq]
    cases groups with
    | nil => exact readV4?_eq_none List.not_mem_nil ends strictGrammar
    | cons group others =>
        rw [separatedGroups, if_pos rfl, List.nil_append, List.append_assoc]
        exact readV4?_eq_none (point_notMem_toDigits group)
          (endsGroup_separatedGroups ends others) strictGrammar
  obtain ⟨inside, split⟩ := longestZeros_spec (groupsOf bits)
  rw [length_groupsOf] at inside
  unfold v6Text
  dsimp only
  split
  next mapped =>
    refine ⟨?_, readV4?_eq_none List.not_mem_nil (.colon _) strictGrammar⟩
    have low : bits.toNat % UInt32.size = (BitVec.ofNat 32 bits.toNat).toNat := by
      rw [BitVec.toNat_ofNat]
    rw [low]
    exact readV6?_mapped mapped strictGrammar
  next =>
    split
    next long =>
      refine ⟨?_, noOctets (.colon _)⟩
      have front : ((groupsOf bits).take (longestZeros (groupsOf bits)).1).length =
          (longestZeros (groupsOf bits)).1 := by
        rw [List.length_take, length_groupsOf]
        omega
      have back : ((groupsOf bits).drop ((longestZeros (groupsOf bits)).1 +
          (longestZeros (groupsOf bits)).2)).length =
            8 - ((longestZeros (groupsOf bits)).1 + (longestZeros (groupsOf bits)).2) := by
        rw [List.length_drop, length_groupsOf]
      have missing : 8 - (longestZeros (groupsOf bits)).1 -
          (8 - ((longestZeros (groupsOf bits)).1 + (longestZeros (groupsOf bits)).2)) =
            (longestZeros (groupsOf bits)).2 := by
        omega
      rw [readV6?_gap (fun group present => small group (List.mem_of_mem_take present))
        (fun group present => small group (List.mem_of_mem_drop present))
        (by rw [front, back]; omega), front, back, missing, ← split, ofGroups_groupsOf]
    next =>
      refine ⟨?_, ?_⟩
      · rw [readV6?_groups small (length_groupsOf bits), ofGroups_groupsOf]
      · have read : readV4? strictGrammar (groupsText (groupsOf bits) ++ []) = none :=
          noOctets .nil
        rwa [List.append_nil] at read

/-- An address is read from its text. -/
theorem read?_display (address : Address) : read? address.display = some address := by
  cases address with
  | v4 bits =>
      rw [read?, display, String.toList_ofList, readV4?_v4Text_nil]
  | v6 bits =>
      obtain ⟨read, noOctets⟩ := readV6?_v6Text bits
      rw [read?, display, String.toList_ofList, noOctets]
      dsimp only
      rw [read]

/-! ## The letters of an address -/

/-- A character from the point on to the last of the digits in base sixteen. -/
def IsLetter (letter : Char) : Prop :=
  '.'.toNat ≤ letter.toNat ∧ letter.toNat ≤ 'f'.toNat

instance (letter : Char) : Decidable (IsLetter letter) :=
  inferInstanceAs (Decidable (_ ∧ _))

theorem isLetter_of_mem_toDigits
    {base value : Nat} {letter : Char}
    (isRead : IsRead base)
    (few : base ≤ 16)
    (present : letter ∈ Nat.toDigits base value) :
    IsLetter letter := by
  have digit := (isRead.toDigits value).1 letter present
  have first : '0'.toNat = 48 ∧ 'a'.toNat = 97 ∧ 'A'.toNat = 65 ∧ '.'.toNat = 46 := by decide
  have last : '9'.toNat = 57 ∧ 'z'.toNat = 122 ∧ 'Z'.toNat = 90 ∧ 'f'.toNat = 102 := by decide
  unfold baseDigit? at digit
  dsimp only at digit
  unfold IsLetter
  obtain ⟨found, isFound⟩ := Option.isSome_iff_exists.mp digit
  obtain ⟨isValue, below⟩ := Option.filter_eq_some_iff.mp isFound
  have small := of_decide_eq_true below
  split_ifs at isValue with decimal lower upper
  all_goals
    have value := Option.some.inj isValue
    simp only [Char.le_def, UInt32.le_iff_toNat_le, Char.toNat_val] at *
    omega

theorem isLetter_of_mem_v4Text
    {bits : Nat} {letter : Char}
    (present : letter ∈ v4Text bits) :
    IsLetter letter := by
  have digits (value : Nat) (inside : letter ∈ decimalText value) : IsLetter letter :=
    isLetter_of_mem_toDigits isRead_ten (by decide) inside
  simp only [v4Text, List.mem_append, List.mem_cons] at present
  rcases present with ((octet | point | octet) | point | octet) | point | octet
  all_goals first | exact digits _ octet | exact point ▸ (by decide)

theorem isLetter_of_mem_groupsText
    {groups : List Nat} {letter : Char}
    (present : letter ∈ groupsText groups) :
    IsLetter letter := by
  rw [groupsText_eq] at present
  generalize true = first at present
  induction groups generalizing first with
  | nil => exact absurd present List.not_mem_nil
  | cons group others inductionHypothesis =>
      rw [separatedGroups, List.mem_append, List.mem_append] at present
      rcases present with colon | digit | later
      · cases first with
        | true => exact absurd colon List.not_mem_nil
        | false => exact List.mem_singleton.mp colon ▸ (by decide)
      · exact isLetter_of_mem_toDigits isRead_sixteen (by decide) digit
      · exact inductionHypothesis false later

/-- The text of an address is made of such letters. -/
theorem isLetter_of_mem_display
    {address : Address} {letter : Char}
    (present : letter ∈ address.display.toList) :
    IsLetter letter := by
  cases address with
  | v4 bits =>
      rw [display, String.toList_ofList] at present
      exact isLetter_of_mem_v4Text present
  | v6 bits =>
      rw [display, String.toList_ofList, v6Text] at present
      dsimp only at present
      split_ifs at present
      · rcases List.mem_append.mp present with front | octets
        · have all : "::ffff:".toList.all (fun letter => decide (IsLetter letter)) = true := by
            decide
          exact of_decide_eq_true (List.all_eq_true.mp all letter front)
        · exact isLetter_of_mem_v4Text octets
      · rcases List.mem_append.mp present with front | gap
        · exact isLetter_of_mem_groupsText front
        · rcases List.mem_cons.mp gap with rfl | gap
          · decide
          · rcases List.mem_cons.mp gap with rfl | back
            · decide
            · exact isLetter_of_mem_groupsText back
      · exact isLetter_of_mem_groupsText present

end Address
end Network
end Telemetry
