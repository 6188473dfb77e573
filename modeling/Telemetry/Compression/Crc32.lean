import Telemetry.Bytes

/-!
# CRC-32

The cyclic checksum of RFC 1952, computed a byte at a time from a table.
-/

namespace Telemetry
namespace Compression

/-- One step of the division by the reflected polynomial. -/
def crcStep (value : UInt32) : UInt32 :=
  if value &&& 1 = 1 then (value >>> 1) ^^^ 0xedb88320 else value >>> 1

/-- The remainder of one byte: eight steps. -/
def crcByte (byte : Nat) : UInt32 :=
  crcStep (crcStep (crcStep (crcStep (crcStep (crcStep (crcStep (crcStep (UInt32.ofNat byte))))))))

/-- The remainders of all bytes. -/
def crcTable : Array UInt32 :=
  Array.ofFn fun index : Fin 256 => crcByte index

/-- Takes one byte into a checksum. -/
def crcUpdate (checksum : UInt32) (byte : UInt8) : UInt32 :=
  crcTable.getD ((checksum ^^^ byte.toUInt32) &&& 0xff).toNat 0 ^^^ (checksum >>> 8)

/-- The checksum of a byte string. -/
def crc32 (bytes : Bytes) : Nat :=
  (bytes.foldl crcUpdate 0xffffffff ^^^ 0xffffffff).toNat

end Compression
end Telemetry
