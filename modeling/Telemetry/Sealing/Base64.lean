import Telemetry.Bytes

/-!
# Base64

Strict reading of RFC 4648: whole groups of four letters, padding at the end
only, and no bits set beyond the last byte.
-/

namespace Telemetry
namespace Sealing

/-- The value of a letter. -/
def base64Value? (letter : UInt8) : Option Nat :=
  let code := letter.toNat
  if 65 ≤ code ∧ code ≤ 90 then some (code - 65)
  else if 97 ≤ code ∧ code ≤ 122 then some (code - 71)
  else if 48 ≤ code ∧ code ≤ 57 then some (code + 4)
  else if code = 43 then some 62
  else if code = 47 then some 63
  else none

/-- The last group: three letters and one sign of padding, or two of each. -/
def lastGroup? (first second third : UInt8) : Option Bytes := do
  let a ← base64Value? first
  let b ← base64Value? second
  if third = 0x3d then
    if b % 16 = 0 then some [UInt8.ofNat (a * 4 + b / 16)] else none
  else
    let c ← base64Value? third
    if c % 4 = 0 then
      some [UInt8.ofNat (a * 4 + b / 16), UInt8.ofNat (b % 16 * 16 + c / 4)]
    else none

/-- Reads groups of letters, `done` being the bytes read so far, the last one first. -/
def readGroups64? (done : Bytes) : Bytes -> Option Bytes
  | [] => some done.reverse
  | first :: second :: third :: fourth :: rest =>
      if fourth = 0x3d then
        if rest = [] then (lastGroup? first second third).map (done.reverse ++ ·) else none
      else
        match base64Value? first, base64Value? second, base64Value? third, base64Value? fourth with
        | some a, some b, some c, some d =>
            readGroups64?
              (UInt8.ofNat (c % 4 * 64 + d) :: UInt8.ofNat (b % 16 * 16 + c / 4)
                :: UInt8.ofNat (a * 4 + b / 16) :: done)
              rest
        | _, _, _, _ => none
  | _ => none

/-- The bytes that letters spell. -/
def ofBase64? (letters : Bytes) : Option Bytes :=
  readGroups64? [] letters

end Sealing
end Telemetry
