/-
# Sets of characters

The sets that a regular expression can name: tables and ranges of characters, and what the
operations of a bracketed class build from them. The set that ignores case holds all characters that
differ from one of another set in case only.

Key definitions: `CharSet`, `CharSet.contains`, `CharSet.word`, `CharSet.digit`, `CharSet.space`,
`CharSet.named?`, `CharSet.ranges`, `CharSet.caseless`, `CharSet.codeRanges`.
-/
import Sift.Unicode.Casing

namespace Sift

open Unicode (CodeRanges)

/-- A set of characters. -/
inductive CharSet where
  | range (first last : Char)
  | table (table : Unicode.RangeTable)
  | union (a b : CharSet)
  | inter (a b : CharSet)
  | diff (a b : CharSet)
  | xor (a b : CharSet)
  | compl (a : CharSet)
deriving DecidableEq

/-- Sets are mostly compared with themselves, so the comparison looks first whether there is only
one. -/
instance (priority := high) CharSet.decidableEq : DecidableEq CharSet :=
  fun a b => withPtrEqDecEq a b fun _ => inferInstance

namespace CharSet

/-- Whether a set holds a character. -/
def contains : CharSet → Char → Bool
  | range first last, c => first ≤ c && c ≤ last
  | table t, c => t.contains c
  | union a b, c => a.contains c || b.contains c
  | inter a b, c => a.contains c && b.contains c
  | diff a b, c => a.contains c && !b.contains c
  | xor a b, c => a.contains c != b.contains c
  | compl a, c => !a.contains c

/-- The set of no characters. -/
def none : CharSet := table #[]

/-- The set of all characters. -/
def any : CharSet := range (Char.ofNat 0) (Char.ofNat 0x10FFFF)

/-- The set of one character. -/
def single (c : Char) : CharSet := range c c

/-- The union of several sets. -/
def unionAll : List CharSet → CharSet
  | [] => none
  | [a] => a
  | a :: b :: rest => union a (unionAll (b :: rest))

/-- The set of the characters with a property. -/
def ofProperty (property : Unicode.Property) : CharSet :=
  unionAll (property.map table)

/-- The set of the characters of a category. -/
def category (name : String) : CharSet :=
  ofProperty ((Unicode.category? name).getD [])

/-- The set of the characters with a binary property. -/
def binary (name : String) : CharSet :=
  ofProperty ((Unicode.property? name).getD [])

/-- Decimal digits of all scripts. -/
def unicodeDigit : CharSet := category "nd"

/-- White space. -/
def unicodeSpace : CharSet := binary "whitespace"

/-- Letters, marks, decimal digits, connectors such as the underscore, and the characters that
join letters. -/
def unicodeWord : CharSet :=
  unionAll [binary "alphabetic", category "m", category "nd", category "pc", binary "joincontrol"]

/-- Letters. -/
def alphabetic : CharSet := binary "alphabetic"

/-- Letters and numbers of all kinds. -/
def alphanumeric : CharSet := union alphabetic (category "n")

/-- The decimal digits. -/
def digit (ascii : Bool) : CharSet :=
  if ascii then range '0' '9' else unicodeDigit

/-- White space. -/
def space (ascii : Bool) : CharSet :=
  if ascii then union (range '\t' '\r') (single ' ') else unicodeSpace

/-- The characters of words. -/
def word (ascii : Bool) : CharSet :=
  if ascii then unionAll [range '0' '9', range 'A' 'Z', single '_', range 'a' 'z'] else unicodeWord

/-- The sets of ASCII characters that a bracketed class can name. -/
def named? : String → Option CharSet
  | "alnum" => some (unionAll [range '0' '9', range 'A' 'Z', range 'a' 'z'])
  | "alpha" => some (union (range 'A' 'Z') (range 'a' 'z'))
  | "ascii" => some (range '\x00' '\x7F')
  | "blank" => some (union (single '\t') (single ' '))
  | "cntrl" => some (union (range '\x00' '\x1F') (single '\x7F'))
  | "digit" => some (range '0' '9')
  | "graph" => some (range '!' '~')
  | "lower" => some (range 'a' 'z')
  | "print" => some (range ' ' '~')
  | "punct" => some (unionAll [range '!' '/', range ':' '@', range '[' '\x60', range '\x7B' '~'])
  | "space" => some (union (range '\t' '\r') (single ' '))
  | "upper" => some (range 'A' 'Z')
  | "word" => some (word true)
  | "xdigit" => some (unionAll [range '0' '9', range 'A' 'F', range 'a' 'f'])
  | _ => Option.none

/-- The ranges of code points of a set; a complement holds the surrogates, too. -/
def ranges : CharSet → CodeRanges
  | range first last => [(first.toNat, last.toNat)]
  | table t => CodeRanges.join t.toList
  | union a b => a.ranges.union b.ranges
  | inter a b => a.ranges.inter b.ranges
  | diff a b => a.ranges.diff b.ranges
  | xor a b => a.ranges.xor b.ranges
  | compl a => a.ranges.compl

/-- The characters that differ in case only from one of a set. In ASCII mode only letters of ASCII
differ in case. -/
def caseless (ascii : Bool) (s : CharSet) : CharSet :=
  table (Unicode.variantRanges ascii s.ranges).toArray

/-- The ranges of characters of a set. -/
def codeRanges (s : CharSet) : CodeRanges :=
  s.ranges.diff CodeRanges.surrogates

end CharSet

end Sift
