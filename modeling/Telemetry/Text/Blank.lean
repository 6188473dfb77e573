import Telemetry.Text.CodeRange

/-!
# Blank characters and trimming

The white space of Unicode, and texts without it at their ends.
-/

namespace Telemetry
namespace Text

/-- The ranges of white space. -/
def blankRanges : List CodeRange :=
  [(0x9, 0xd), (0x20, 0x20), (0x85, 0x85), (0xa0, 0xa0), (0x1680, 0x1680), (0x2000, 0x200a),
    (0x2028, 0x2029), (0x202f, 0x202f), (0x205f, 0x205f), (0x3000, 0x3000)]

/-- Whether a character is white space. -/
def isBlank (letter : Char) : Bool :=
  inRanges blankRanges letter

/-- A list of characters without the white space at its two ends. -/
def trimLetters (letters : List Char) : List Char :=
  ((letters.dropWhile isBlank).reverse.dropWhile isBlank).reverse

/-- A text without the white space at its two ends. -/
def trim (text : String) : String :=
  String.ofList (trimLetters text.toList)

/-- Whether a text holds nothing but white space. -/
def isAllBlank (text : String) : Bool :=
  text.toList.all isBlank

end Text
end Telemetry
