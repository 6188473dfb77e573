import Telemetry.Number.Format

/-!
# Numbers in JSON texts

Numbers are written with the fewest digits that read back.  Those from
`0.00001` to below `10 ^ 16` have no exponent, and whole ones end in `.0`.
-/

namespace Telemetry
namespace Json

/-- The decimal style of JSON numbers. -/
def numberStyle : DecimalStyle :=
  ⟨.even, fun weight => -5 ≤ weight && weight < 16, true⟩

/-- The JSON text of a number; what is not finite is `null`. -/
def numberText (number : Binary64) : String :=
  if number.isFinite then String.ofList (numberStyle.write number) else "null"

end Json
end Telemetry
