import Telemetry.Bytes

/-!
# Numbers of variable length

A number is written in groups of seven bits, the lowest first; every byte but
the last has its top bit set.  Ten bytes hold sixty-four bits, and the last of
ten may hold one bit only.
-/

namespace Telemetry
namespace Rpc

/-- The bytes of a number. -/
def writeVarint (value : Nat) : Bytes :=
  if value < 128 then [UInt8.ofNat value]
  else UInt8.ofNat (value % 128 + 128) :: writeVarint (value / 128)
termination_by value

/-- Reads a number of at most `room` bytes whose last has to be below `last`. -/
def readVarintFrom? (last : Nat) : (room : Nat) -> Bytes -> Option (Nat × Bytes)
  | 0, _ => none
  | _ + 1, [] => none
  | room + 1, byte :: rest =>
      if room = 0 ∧ last ≤ byte.toNat then none
      else if byte.toNat < 128 then some (byte.toNat, rest)
      else
        match readVarintFrom? last room rest with
        | none => none
        | some (higher, after) => some (byte.toNat - 128 + 128 * higher, after)

/-- Reads a number below `2 ^ 64`. -/
def readVarint? (bytes : Bytes) : Option (Nat × Bytes) :=
  readVarintFrom? 2 10 bytes

/-- The number of sixty-four bits that stands for a signed one. -/
def ofSigned (value : Int64) : Nat := value.toUInt64.toNat

/-- The signed number that a number of sixty-four bits stands for. -/
def toSigned (value : Nat) : Int64 := (UInt64.ofNat value).toInt64

end Rpc
end Telemetry
