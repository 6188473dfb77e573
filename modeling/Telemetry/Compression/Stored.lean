import Telemetry.Bytes

/-!
# Deflating without compression

A byte string as stored blocks of the format of RFC 1951.
-/

namespace Telemetry
namespace Compression

/-- The largest stored block. -/
def storedLimit : Nat := 65535

/-- One stored block. -/
def storedBlock (isLast : Bool) (bytes : Bytes) : Bytes :=
  (if isLast then 1 else 0) :: Bytes.ofNatLittle 2 bytes.length
    ++ Bytes.ofNatLittle 2 (storedLimit - bytes.length) ++ bytes

/-- A byte string as stored blocks; the empty one is a single empty block. -/
def storedBlocks (bytes : Bytes) : Bytes :=
  if bytes.hasAtLeast (storedLimit + 1) then
    storedBlock false (bytes.take storedLimit) ++ storedBlocks (bytes.drop storedLimit)
  else storedBlock true bytes
termination_by bytes.length
decreasing_by
  have long := Bytes.hasAtLeast_iff.1 ‹bytes.hasAtLeast (storedLimit + 1) = true›
  simp only [List.length_drop, storedLimit] at *
  omega

end Compression
end Telemetry
