import Telemetry.Bytes

/-!
# Reading bits from bytes

Bits are taken from the low end of each byte first.  A reader holds the bits
of the byte it is in; there are fewer than eight of them between two reads.
-/

namespace Telemetry
namespace Compression

/-- The bits that are left to read. -/
structure Bits where
  /-- The bits taken from their byte and not yet read, as a number. -/
  held : Nat
  /-- How many bits are held. -/
  count : Nat
  /-- The bytes not yet begun. -/
  rest : Bytes

namespace Bits

/-- All bits of a byte string. -/
def ofBytes (bytes : Bytes) : Bits := ⟨0, 0, bytes⟩

/-- Takes bytes until `width` bits are held, if there are enough. -/
def hold? (width held count : Nat) : Bytes -> Option Bits
  | [] => if width ≤ count then some ⟨held, count, []⟩ else none
  | byte :: rest =>
      if width ≤ count then some ⟨held, count, byte :: rest⟩
      else hold? width (held + byte.toNat <<< count) (count + 8) rest

/-- Reads a number of `width` bits, if there are enough. -/
def take? (width : Nat) (bits : Bits) : Option (Nat × Bits) :=
  match hold? width bits.held bits.count bits.rest with
  | none => none
  | some ready =>
      some (ready.held % (1 <<< width), ⟨ready.held >>> width, ready.count - width, ready.rest⟩)

/-- Reads one bit, if there is one. -/
def next? (bits : Bits) : Option (Bool × Bits) :=
  match bits.count with
  | count + 1 => some (bits.held % 2 == 1, ⟨bits.held / 2, count, bits.rest⟩)
  | 0 =>
      match bits.rest with
      | [] => none
      | byte :: rest => some (byte.toNat % 2 == 1, ⟨byte.toNat / 2, 7, rest⟩)

/-- Drops the rest of a byte that was begun. -/
def align (bits : Bits) : Bits := ⟨0, 0, bits.rest⟩

end Bits
end Compression
end Telemetry
