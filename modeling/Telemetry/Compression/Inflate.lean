import Telemetry.Compression.PrefixCode

/-!
# Inflating

Reading of the format of RFC 1951: blocks of stored bytes, or of symbols that
stand for bytes and for copies of earlier output.  A copy that reaches back
before the first byte finds zeros.
-/

namespace Telemetry
namespace Compression

/-- How inflating ended. -/
inductive Ending where
  /-- The last block ended; the bytes after it follow. -/
  | finished (rest : Bytes)
  /-- There is as much output as was wanted. -/
  | enough
  /-- The data could not be read on. -/
  | failed (trouble : Trouble)

/-- The output of inflating, and how it ended. -/
structure Inflated where
  /-- The bytes made so far. -/
  output : ByteArray
  /-- How it ended. -/
  ending : Ending

/-- What the next bits belong to. -/
inductive Phase where
  /-- A block's header. -/
  | header
  /-- A block of symbols with its two codes. -/
  | symbols (isLast : Bool) (literals distances : PrefixCode)

/-- The least copy length of each length symbol, with its number of extra bits. -/
def lengthRanges : List (Nat × Nat) :=
  [(3, 0), (4, 0), (5, 0), (6, 0), (7, 0), (8, 0), (9, 0), (10, 0), (11, 1), (13, 1), (15, 1),
    (17, 1), (19, 2), (23, 2), (27, 2), (31, 2), (35, 3), (43, 3), (51, 3), (59, 3), (67, 4),
    (83, 4), (99, 4), (115, 4), (131, 5), (163, 5), (195, 5), (227, 5), (258, 0)]

/-- The least distance of each distance symbol, with its number of extra bits. -/
def distanceRanges : List (Nat × Nat) :=
  [(1, 0), (2, 0), (3, 0), (4, 0), (5, 1), (7, 1), (9, 2), (13, 2), (17, 3), (25, 3), (33, 4),
    (49, 4), (65, 5), (97, 5), (129, 6), (193, 6), (257, 7), (385, 7), (513, 8), (769, 8),
    (1025, 9), (1537, 9), (2049, 10), (3073, 10), (4097, 11), (6145, 11), (8193, 12), (12289, 12),
    (16385, 13), (24577, 13)]

/-- The order in which the lengths of the code for code lengths are given. -/
def codeLengthOrder : List Nat :=
  [16, 17, 18, 0, 8, 7, 9, 6, 10, 5, 11, 4, 12, 3, 13, 2, 14, 1, 15]

/-- The code lengths of literals in blocks with fixed codes. -/
def fixedLiteralLengths : List Nat :=
  List.replicate 144 8 ++ List.replicate 112 9 ++ List.replicate 24 7 ++ List.replicate 8 8

/-- The literal code of blocks with fixed codes. -/
def fixedLiterals : PrefixCode := PrefixCode.canonical fixedLiteralLengths

/-- The distance code of blocks with fixed codes. -/
def fixedDistances : PrefixCode := PrefixCode.canonical (List.replicate 32 5)

/-- Reads a number of some bits. -/
def readBits (width : Nat) (bits : Bits) : Except Trouble (Nat × Bits) :=
  match bits.take? width with
  | some result => .ok result
  | none => .error .incomplete

/-- Reads code lengths of three bits each, one for every listed symbol. -/
def readCodeLengths : (symbols : List Nat) -> Bits -> Except Trouble (List (Nat × Nat) × Bits)
  | [], bits => .ok ([], bits)
  | symbol :: symbols, bits => do
      let (length, afterLength) ← readBits 3 bits
      let (others, rest) ← readCodeLengths symbols afterLength
      pure ((symbol, length) :: others, rest)

/--
Reads `remaining` code lengths after those in `done`, the last one first.
Symbols above fifteen repeat the length before them or zero.
-/
def readLengths (code : PrefixCode) (remaining : Nat) (done : List Nat) (bits : Bits) :
    Except Trouble (List Nat × Bits) :=
  match remaining with
  | 0 => .ok (done.reverse, bits)
  | left + 1 =>
      match code.read bits with
      | .error trouble => .error trouble
      | .ok (symbol, afterSymbol) =>
          if symbol < 16 then readLengths code left (symbol :: done) afterSymbol
          else
            let repeated? :=
              if symbol = 16 then done.head? else some 0
            match repeated? with
            | none => .error .corrupt
            | some repeated =>
                let (least, width) :=
                  if symbol = 16 then (3, 2) else if symbol = 17 then (3, 3) else (11, 7)
                match readBits width afterSymbol with
                | .error trouble => .error trouble
                | .ok (extra, rest) =>
                    if left + 1 < least + extra ∨ least + extra = 0 then .error .corrupt
                    else
                      readLengths code (left + 1 - (least + extra))
                        (List.replicate (least + extra) repeated ++ done) rest
termination_by remaining
decreasing_by all_goals omega

/-- Reads the two codes of a block that brings its own. -/
def readCodes (bits : Bits) : Except Trouble (PrefixCode × PrefixCode × Bits) := do
  let (literalExtra, bits) ← readBits 5 bits
  let (distanceExtra, bits) ← readBits 5 bits
  let (lengthExtra, bits) ← readBits 4 bits
  let literalCount := literalExtra + 257
  let distanceCount := distanceExtra + 1
  if 286 < literalCount ∨ 30 < distanceCount then
    throw .corrupt
  let (given, bits) ← readCodeLengths (codeLengthOrder.take (lengthExtra + 4)) bits
  let lengths := (List.range 19).map fun symbol => (given.lookup symbol).getD 0
  match PrefixCode.ofLengths? false lengths with
  | none => throw .corrupt
  | some code =>
      let (all, bits) ← readLengths code (literalCount + distanceCount) [] bits
      match PrefixCode.ofLengths? true (all.drop literalCount),
          PrefixCode.ofLengths? true (all.take literalCount) with
      | some distances, some literals => pure (literals, distances, bits)
      | _, _ => throw .corrupt

/-- Appends bytes. -/
def appendBytes (output : ByteArray) : Bytes -> ByteArray
  | [] => output
  | byte :: rest => appendBytes (output.push byte) rest

/-- Appends `length` bytes, each equal to the one `distance` before it. -/
def copyBack (distance : Nat) : (length : Nat) -> ByteArray -> ByteArray
  | 0, output => output
  | length + 1, output =>
      let byte :=
        if distance ≤ output.size then
          if inside : output.size - distance < output.size then output[output.size - distance]
          else 0
        else 0
      copyBack distance length (output.push byte)

/-- Reads the rest of a copy whose length symbol has been read. -/
def readCopy (distances : PrefixCode) (symbol : Nat) (bits : Bits) :
    Except Trouble (Nat × Nat × Bits) :=
  match lengthRanges[symbol - 257]? with
  | none => .error .corrupt
  | some (leastLength, lengthWidth) =>
      match readBits lengthWidth bits with
      | .error trouble => .error trouble
      | .ok (lengthExtra, afterLength) =>
          match distances.read afterLength with
          | .error trouble => .error trouble
          | .ok (distanceSymbol, afterDistance) =>
              match distanceRanges[distanceSymbol]? with
              | none => .error .corrupt
              | some (leastDistance, distanceWidth) =>
                  match readBits distanceWidth afterDistance with
                  | .error trouble => .error trouble
                  | .ok (distanceExtra, rest) =>
                      .ok (leastLength + lengthExtra, leastDistance + distanceExtra, rest)

/-- The length of a stored block and the bytes after its header. -/
def readStoredLength (bits : Bits) : Except Trouble (Nat × Bytes) :=
  match readBits 16 bits.align with
  | .error trouble => .error trouble
  | .ok (length, afterLength) =>
      match readBits 16 afterLength with
      | .error trouble => .error trouble
      | .ok (complement, rest) =>
          if length + complement = 0xffff then .ok (length, rest.rest) else .error .corrupt

/-- What a step of inflating comes to. -/
inductive Progress where
  /-- Inflating has ended. -/
  | ended (inflated : Inflated)
  /-- It goes on with the bits that are left. -/
  | ongoing (phase : Phase) (bits : Bits) (output : ByteArray)

/-- Reads one symbol of a block, with the copy that it may stand for. -/
def symbolStep (isLast : Bool) (literals distances : PrefixCode) (bits : Bits)
    (output : ByteArray) : Progress :=
  match literals.read bits with
  | .error trouble => .ended ⟨output, .failed trouble⟩
  | .ok (symbol, rest) =>
      if symbol < 256 then
        .ongoing (.symbols isLast literals distances) rest (output.push (UInt8.ofNat symbol))
      else if symbol = 256 then
        if isLast then .ended ⟨output, .finished rest.rest⟩ else .ongoing .header rest output
      else
        match readCopy distances symbol rest with
        | .error trouble => .ended ⟨output, .failed trouble⟩
        | .ok (length, distance, after) =>
            .ongoing (.symbols isLast literals distances) after (copyBack distance length output)

/-- Reads a stored block of which the header has been read. -/
def storedStep (isLast : Bool) (bits : Bits) (output : ByteArray) : Progress :=
  match readStoredLength bits with
  | .error trouble => .ended ⟨output, .failed trouble⟩
  | .ok (length, stored) =>
      let after := stored.drop length
      let grown := appendBytes output (stored.take length)
      if !stored.hasAtLeast length then .ended ⟨grown, .failed .incomplete⟩
      else if isLast then .ended ⟨grown, .finished after⟩
      else .ongoing .header (Bits.ofBytes after) grown

/-- Reads a block's header, and what comes before the first symbol of the block. -/
def headerStep (bits : Bits) (output : ByteArray) : Progress :=
  match readBits 3 bits with
  | .error trouble => .ended ⟨output, .failed trouble⟩
  | .ok (header, rest) =>
      let isLast := header % 2 == 1
      if header / 2 = 0 then storedStep isLast rest output
      else if header / 2 = 1 then
        .ongoing (.symbols isLast fixedLiterals fixedDistances) rest output
      else if header / 2 = 2 then
        match readCodes rest with
        | .error trouble => .ended ⟨output, .failed trouble⟩
        | .ok (literals, distances, after) =>
            .ongoing (.symbols isLast literals distances) after output
      else .ended ⟨output, .failed .corrupt⟩

/-- One step of inflating. -/
def inflateStep (phase : Phase) (bits : Bits) (output : ByteArray) : Progress :=
  match phase with
  | .symbols isLast literals distances => symbolStep isLast literals distances bits output
  | .header => headerStep bits output

/--
Inflates until the last block has ended or `wanted` bytes have been made.
Every step reads at least one bit.
-/
def inflateSteps (wanted : Nat) : (fuel : Nat) -> Phase -> Bits -> ByteArray -> Inflated
  | 0, _, _, output => ⟨output, .failed .incomplete⟩
  | fuel + 1, phase, bits, output =>
      if wanted ≤ output.size then ⟨output, .enough⟩
      else
        match inflateStep phase bits output with
        | .ended inflated => inflated
        | .ongoing phase bits output => inflateSteps wanted fuel phase bits output

/-- Inflates a byte string until its last block has ended or `wanted` bytes have been made. -/
def inflate (wanted : Nat) (bytes : Bytes) : Inflated :=
  inflateSteps wanted (8 * bytes.length + 1) .header (Bits.ofBytes bytes) ByteArray.empty

end Compression
end Telemetry
