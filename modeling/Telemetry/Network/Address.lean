import Telemetry.Number.Reading

/-!
# Internet addresses

Addresses of both families as bit strings, their texts, and the reading of
those texts.  An address of one family is never one of the other.
-/

namespace Telemetry
namespace Network

/-- An address of one of the two families. -/
inductive Address where
  /-- An address of thirty-two bits. -/
  | v4 (bits : BitVec 32)
  /-- An address of a hundred and twenty-eight bits. -/
  | v6 (bits : BitVec 128)
deriving DecidableEq

/-- What the text of an address may look like. -/
structure AddressGrammar where
  /-- Whether the decimal numbers may have leading zeros. -/
  leadingZeros : Bool
  /-- Whether the double colon may stand for no group at all. -/
  emptyGap : Bool

/-- The grammar of addresses by themselves. -/
def strictGrammar : AddressGrammar := ⟨false, false⟩

/-- The grammar of addresses in subnets. -/
def looseGrammar : AddressGrammar := ⟨true, true⟩

/-- The value of a digit in base ten or sixteen. -/
def baseDigit? (base : Nat) (letter : Char) : Option Nat :=
  let value? :=
    if '0' ≤ letter ∧ letter ≤ '9' then some (letter.toNat - 48)
    else if 'a' ≤ letter ∧ letter ≤ 'z' then some (letter.toNat - 87)
    else if 'A' ≤ letter ∧ letter ≤ 'Z' then some (letter.toNat - 55)
    else none
  value?.filter (· < base)

/-- Reads a number of at most `width` digits below `limit`. -/
def readNumber? (base width limit : Nat) (leadingZeros : Bool) (text : List Char) :
    Option (Nat × List Char) :=
  let isBaseDigit (letter : Char) : Bool := (baseDigit? base letter).isSome
  let digits := text.takeWhile isBaseDigit
  let value := digits.foldl (fun total digit => total * base + (baseDigit? base digit).getD 0) 0
  if digits = [] ∨ width < digits.length ∨ limit ≤ value then none
  else if !leadingZeros ∧ digits.head? = some '0' ∧ 1 < digits.length then none
  else some (value, text.dropWhile isBaseDigit)

/-- Reads decimal numbers with points between them. -/
def readOctets? (grammar : AddressGrammar) : (count : Nat) -> (total : Nat) -> List Char ->
    Option (Nat × List Char)
  | 0, total, text => some (total, text)
  | count + 1, total, text => do
      let (octet, rest) ← readNumber? 10 3 256 grammar.leadingZeros text
      match count, rest with
      | 0, _ => some (total * 256 + octet, rest)
      | _ + 1, '.' :: after => readOctets? grammar count (total * 256 + octet) after
      | _ + 1, _ => none

/-- Reads an address of four decimal numbers. -/
def readV4? (grammar : AddressGrammar) (text : List Char) : Option (BitVec 32 × List Char) :=
  (readOctets? grammar 4 0 text).map fun (value, rest) => (BitVec.ofNat 32 value, rest)

/-- Groups of an address, in reverse, whether they end with decimal numbers, and the rest. -/
structure Groups where
  /-- The groups, the last one first. -/
  reversed : List Nat
  /-- Whether the last two groups were written as four decimal numbers. -/
  endsWithV4 : Bool
  /-- The text after the groups. -/
  rest : List Char

/-- Reads at most `room` groups with colons between them, after those in `done`. -/
def readGroups (grammar : AddressGrammar) : (room : Nat) -> (first : Bool) -> (done : List Nat) ->
    List Char -> Groups
  | 0, _, done, text => ⟨done, false, text⟩
  | room + 1, first, done, text =>
      let body? :=
        if first then some text
        else
          match text with
          | ':' :: rest => some rest
          | _ => none
      match body? with
      | none => ⟨done, false, text⟩
      | some body =>
          match if room = 0 then none else readV4? grammar body with
          | some (bits, rest) => ⟨bits.toNat % 65536 :: bits.toNat / 65536 :: done, true, rest⟩
          | none =>
              match readNumber? 16 4 65536 true body with
              | some (group, rest) => readGroups grammar room false (group :: done) rest
              | none => ⟨done, false, text⟩

/-- The bits of eight groups. -/
def ofGroups (groups : List Nat) : BitVec 128 :=
  BitVec.ofNat 128 (groups.foldl (fun total group => total * 65536 + group) 0)

/-- Reads an address of eight groups, or of fewer around one double colon. -/
def readV6? (grammar : AddressGrammar) (text : List Char) : Option (BitVec 128 × List Char) :=
  let head := readGroups grammar 8 true [] text
  if head.reversed.length = 8 then some (ofGroups head.reversed.reverse, head.rest)
  else if head.endsWithV4 then none
  else
    match head.rest with
    | ':' :: ':' :: afterGap =>
        let room := 8 - head.reversed.length - (if grammar.emptyGap then 0 else 1)
        let tail := readGroups grammar room true [] afterGap
        let missing := 8 - head.reversed.length - tail.reversed.length
        some (ofGroups (head.reversed.reverse ++ List.replicate missing 0 ++ tail.reversed.reverse),
          tail.rest)
    | _ => none

namespace Address

/-- Reads a whole text as an address. -/
def read? (text : String) : Option Address :=
  match readV4? strictGrammar text.toList with
  | some (bits, []) => some (.v4 bits)
  | _ =>
      match readV6? strictGrammar text.toList with
      | some (bits, []) => some (.v6 bits)
      | _ => none

/-- The text of a number in base ten. -/
def decimalText (value : Nat) : List Char := Nat.toDigits 10 value

/-- The text of an address of four decimal numbers. -/
def v4Text (bits : Nat) : List Char :=
  decimalText (bits / 16777216 % 256) ++ '.' :: decimalText (bits / 65536 % 256)
    ++ '.' :: decimalText (bits / 256 % 256) ++ '.' :: decimalText (bits % 256)

/-- The eight groups of an address. -/
def groupsOf (bits : BitVec 128) : List Nat :=
  (List.range 8).map fun index => bits.toNat >>> (16 * (7 - index)) % 65536

/-- Hexadecimal groups with colons between them. -/
def groupsText (groups : List Nat) : List Char :=
  List.intercalate [':'] (groups.map (Nat.toDigits 16 ·))

/-- The start and length of the first longest run of zero groups. -/
def longestZeros (groups : List Nat) : Nat × Nat :=
  ((List.range groups.length).map fun start =>
      (start, ((groups.drop start).takeWhile (· == 0)).length)).foldl
    (fun best run => if best.2 < run.2 then run else best) (0, 0)

/-- The text of an address of eight groups: the longest run of two or more zeros is left out. -/
def v6Text (bits : BitVec 128) : List Char :=
  let groups := groupsOf bits
  let (start, length) := longestZeros groups
  if groups.take 6 = [0, 0, 0, 0, 0, 65535] then
    "::ffff:".toList ++ v4Text (bits.toNat % UInt32.size)
  else if 1 < length then
    groupsText (groups.take start) ++ ':' :: ':' :: groupsText (groups.drop (start + length))
  else groupsText groups

/-- The text of an address. -/
def display : Address -> String
  | .v4 bits => String.ofList (v4Text bits.toNat)
  | .v6 bits => String.ofList (v6Text bits)

/-- Reads a port number after a colon, up to the end of the text. -/
def isPort (text : List Char) : Bool :=
  match text with
  | ':' :: digits => (readDigits? digits).any (· < 65536)
  | _ => false

/-- The address of an endpoint's text: an address with a port, in brackets for eight groups. -/
def ofEndpoint? (text : String) : Option Address :=
  match text.toList with
  | '[' :: inside => do
      let (bits, rest) ← readV6? strictGrammar inside
      let afterScope :=
        match rest with
        | '%' :: scope => scope.dropWhile isDigit
        | _ => rest
      match afterScope with
      | ']' :: port => if isPort port then some (.v6 bits) else none
      | _ => none
  | letters => do
      let (bits, rest) ← readV4? strictGrammar letters
      if isPort rest then some (.v4 bits) else none

end Address
end Network
end Telemetry
