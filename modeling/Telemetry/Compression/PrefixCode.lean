import Telemetry.Compression.Bits

/-!
# Canonical prefix codes

A code is a binary tree with symbols at its leaves.  The canonical code of a
list of code lengths orders the codes by length and then by symbol; reading a
symbol walks from the root, one bit a step.
-/

namespace Telemetry
namespace Compression

/-- Why compressed data cannot be read on. -/
inductive Trouble where
  /-- The data ends too early. -/
  | incomplete
  /-- The data contradicts its format. -/
  | corrupt
deriving DecidableEq

/-- A prefix code. -/
inductive PrefixCode where
  /-- No code starts with the bits up to here. -/
  | empty
  /-- The code of a symbol ends here. -/
  | leaf (value : Nat)
  /-- The codes that go on with a zero and with a one. -/
  | branch (zero one : PrefixCode)
deriving Inhabited

namespace PrefixCode

/-- Adds a symbol under the lowest `length` bits of `code`, the highest of them first. -/
def insert : PrefixCode -> (length code value : Nat) -> PrefixCode
  | _, 0, _, value => .leaf value
  | tree, length + 1, code, value =>
      let (zero, one) :=
        match tree with
        | .branch zero one => (zero, one)
        | _ => (.empty, .empty)
      if code >>> length % 2 = 0 then .branch (zero.insert length code value) one
      else .branch zero (one.insert length code value)

/-- The longest code. -/
def longest : Nat := 15

/-- The sum of the shares of all codes, a share being `2 ^ (longest - length)`. -/
def filled (lengths : List Nat) : Nat :=
  lengths.foldl (fun sum length => if length = 0 then sum else sum + 1 <<< (longest - length)) 0

/-- The number of symbols that have a code. -/
def used (lengths : List Nat) : Nat :=
  lengths.countP (· ≠ 0)

/-- Adds the codes of one length: `next` is the first code that is free. -/
def insertLength (length : Nat) (tree : PrefixCode) (next : Nat) (lengths : List (Nat × Nat)) :
    PrefixCode × Nat :=
  lengths.foldl
    (fun (tree, next) (ofSymbol, symbol) =>
      if ofSymbol = length then (tree.insert length next symbol, next + 1) else (tree, next))
    (tree, next)

/-- The canonical code of lengths given symbol by symbol, zero for an unused one. -/
def canonical (lengths : List Nat) : PrefixCode :=
  let numbered := lengths.zipIdx
  ((List.range longest).foldl
    (fun (tree, next) shorter => insertLength (shorter + 1) tree (2 * next) numbered)
    (PrefixCode.empty, 0)).1

/--
The code of some lengths, if they fill it exactly.  A code of at most one
symbol need not be full where `mayBePartial` says so.
-/
def ofLengths? (mayBePartial : Bool) (lengths : List Nat) : Option PrefixCode :=
  if filled lengths = 1 <<< longest ∨ (mayBePartial ∧ used lengths ≤ 1) then
    some (canonical lengths)
  else none

/-- Reads a symbol. -/
def read : PrefixCode -> Bits -> Except Trouble (Nat × Bits)
  | .empty, _ => .error .corrupt
  | .leaf value, bits => .ok (value, bits)
  | .branch zero one, bits =>
      match bits.next? with
      | none => .error .incomplete
      | some (bit, rest) => if bit then one.read rest else zero.read rest

end PrefixCode
end Compression
end Telemetry
