/-
# Characters as bytes

The encoding of a character is one to four bytes. The encodings of a range of characters are those
of a few sequences of ranges of bytes, where each byte can be chosen from its range on its own: the
range of characters is cut where the number of bytes changes, and where its ends do not fall
together with the ends of a whole block of encodings that differ in their last bytes only.

Key definitions: `ByteRange`, `Utf8.sequences`.
-/
import Sift.Unicode.CodeRanges

namespace Sift

/-- A range of bytes, both ends included. -/
structure ByteRange where
  first : UInt8
  last : UInt8
deriving DecidableEq

namespace Utf8

/-- Cuts a range of code points in front of a code point. -/
def cutBefore (code : Nat) (range : Nat × Nat) : List (Nat × Nat) :=
  if range.1 < code ∧ code ≤ range.2 then [(range.1, code - 1), (code, range.2)] else [range]

/-- Cuts off the parts at the ends of a range of code points that do not fill a whole block of the
given size. A range within one block is left as it is. -/
def cutBlocks (size : Nat) (range : Nat × Nat) : List (Nat × Nat) :=
  if range.1 / size = range.2 / size then [range]
  else
    let firstWhole := (range.1 + size - 1) / size * size
    let afterWhole := (range.2 + 1) / size * size
    (if range.1 < firstWhole then [(range.1, firstWhole - 1)] else []) ++
      (if firstWhole < afterWhole then [(firstWhole, afterWhole - 1)] else []) ++
      if afterWhole ≤ range.2 then [(afterWhole, range.2)] else []

/-- The encoding of the character with a code point. -/
def encode (code : Nat) : List UInt8 :=
  String.utf8EncodeChar (Char.ofNat code)

/-- Cuts a range of code points whose encodings have the same number of bytes so that the encodings
of each part differ in their last bytes only and are all of those. -/
def cutEncodings (range : Nat × Nat) : List (Nat × Nat) :=
  if range.2 < 0x80 then [range]
  else
    (cutBlocks 0x40000 range).flatMap fun range =>
      (cutBlocks 0x1000 range).flatMap (cutBlocks 0x40)

/-- The sequences of ranges of bytes that make up the encodings of a set of characters without
surrogates, in increasing order. -/
def sequences (ranges : Unicode.CodeRanges) : List (List ByteRange) :=
  let equallyLong :=
    [0x80, 0x800, 0x10000].foldl (fun ranges code => ranges.flatMap (cutBefore code)) ranges
  (equallyLong.flatMap cutEncodings).map fun (first, last) =>
    List.zipWith ByteRange.mk (encode first) (encode last)

end Utf8

end Sift
