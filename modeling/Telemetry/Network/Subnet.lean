import Telemetry.Network.Address
import Telemetry.Text.Blank

/-!
# Subnets

A subnet is an address with a prefix length.  It contains the addresses of its
own family from the lowest to the highest one with the same leading bits.
-/

namespace Telemetry
namespace Network

/-- A subnet; the bits after the leading ones are kept for display only. -/
inductive Subnet where
  /-- A subnet of addresses of thirty-two bits. -/
  | v4 (bits : BitVec 32) (leading : Nat) (within : leading ≤ 32)
  /-- A subnet of addresses of a hundred and twenty-eight bits. -/
  | v6 (bits : BitVec 128) (leading : Nat) (within : leading ≤ 128)

namespace Subnet

/-- The leading bits of an address, and zeros behind them. -/
def lowest (leading : Nat) (bits : BitVec width) : BitVec width :=
  bits &&& BitVec.allOnes width <<< (width - leading)

/-- The leading bits of an address, and ones behind them. -/
def highest (leading : Nat) (bits : BitVec width) : BitVec width :=
  bits ||| BitVec.allOnes width >>> leading

/-- Whether an address lies between the two ends of a subnet. -/
def spans (leading : Nat) (bits address : BitVec width) : Bool :=
  lowest leading bits ≤ address && address ≤ highest leading bits

/-- Whether an address belongs to a subnet. -/
def contains : Subnet -> Address -> Bool
  | .v4 bits leading _, .v4 address => spans leading bits address
  | .v6 bits leading _, .v6 address => spans leading bits address
  | _, _ => false

/-- Reads the rest of a text as a prefix length. -/
def readLeading? (width limit : Nat) (text : List Char) : Option { leading // leading ≤ limit } :=
  match text with
  | '/' :: digits =>
      match readNumber? 10 width (limit + 1) true digits with
      | some (leading, []) => if within : leading ≤ limit then some ⟨leading, within⟩ else none
      | _ => none
  | _ => none

/-- Reads a subnet; blanks around it are ignored. -/
def read? (text : String) : Option Subnet :=
  let letters := Text.trimLetters text.toList
  let short? : Option Subnet := do
    let (bits, rest) ← readV4? looseGrammar letters
    let leading ← readLeading? 2 32 rest
    some (.v4 bits leading.val leading.property)
  let long? : Option Subnet := do
    let (bits, rest) ← readV6? looseGrammar letters
    let leading ← readLeading? 3 128 rest
    some (.v6 bits leading.val leading.property)
  short?.or long?

/-- The wording of the refusal of a text. -/
def refusal : String := "invalid IP address syntax"

/-- The text of a subnet. -/
def display : Subnet -> String
  | .v4 bits leading _ => (Address.v4 bits).display ++ "/" ++ toString leading
  | .v6 bits leading _ => (Address.v6 bits).display ++ "/" ++ toString leading

end Subnet
end Network
end Telemetry
