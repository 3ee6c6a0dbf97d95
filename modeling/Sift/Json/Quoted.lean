/-
# Strings of JSON

A string stands in double quotes. Written, the quote, the backslash and the control characters below
U+0020 are escaped, the ones with a short escape by that, the others by their code; all else stands
for itself. Read, any character may be escaped by its code, one past U+FFFF by the codes of its two
surrogates, and control characters may not stand for themselves.

Key definitions: `Json.quote`, `Json.readQuoted`.
-/
import Sift.Json.Basic
import Sift.Text.Digit
import Sift.Text.Reader

namespace Sift.Json

open Reader

/-! ### Writing -/

/-- The characters with a short escape, each after the letter that stands for it. -/
def shortEscapes : List (Char × Char) :=
  [('"', '"'), ('\\', '\\'), ('b', '\x08'), ('f', '\x0c'), ('n', '\n'), ('r', '\r'), ('t', '\t')]

/-- The letter of the short escape of a character. -/
def escapeLetter? (c : Char) : Option Char :=
  (shortEscapes.find? (·.2 == c)).map (·.1)

/-- A character as it stands in a string. -/
def quoteCharacter (c : Char) : List Char :=
  match escapeLetter? c with
  | some letter => ['\\', letter]
  | none =>
    if c.toNat < 0x20 then
      ['\\', 'u', '0', '0', Nat.digitChar (c.toNat / 16), Nat.digitChar (c.toNat % 16)]
    else [c]

/-- A string as it is written. -/
def quote (s : String) : List Char :=
  '"' :: (s.toList.flatMap quoteCharacter ++ ['"'])

/-! ### Reading -/

/-- Takes four hexadecimal digits. -/
def codeUnit : Reader JsonError Nat := do
  let digits := (← lookAhead).take 4
  match Text.hexNumber? digits with
  | some code => if digits.length = 4 then skip 4; return code else fail .malformed
  | none => fail .malformed

/-- Whether a code unit begins a pair. -/
def isLeading (unit : Nat) : Bool :=
  0xD800 ≤ unit && unit < 0xDC00

/-- Whether a code unit ends a pair. -/
def isTrailing (unit : Nat) : Bool :=
  0xDC00 ≤ unit && unit < 0xE000

/-- The character of a pair of code units. -/
def pairCharacter (leading trailing : Nat) : Char :=
  Char.ofNat (0x10000 + (leading - 0xD800) * 0x400 + (trailing - 0xDC00))

/-- Takes the code of an escaped character; one half of a pair must be followed by the other. -/
def escapedCode : Reader JsonError Char := do
  let unit ← codeUnit
  if isTrailing unit then fail .malformed
  else if isLeading unit then
    expect '\\' .malformed
    expect 'u' .malformed
    let trailing ← codeUnit
    if isTrailing trailing then return pairCharacter unit trailing else fail .malformed
  else return Char.ofNat unit

/-- Takes an escaped character after its backslash. -/
def escaped : Reader JsonError Char := do
  let letter ← next .malformed
  if letter = 'u' then escapedCode
  else if letter = '/' then return '/'
  else
    match shortEscapes.find? (·.1 == letter) with
    | some (_, c) => return c
    | none => fail .malformed

/-- Takes one character of a string, or the quote at its end. -/
def quotedCharacter (characters : List Char) : Reader JsonError (List Char ⊕ String) := do
  let c ← next .malformed
  if c = '"' then return .inr (String.ofList characters.reverse)
  else if c = '\\' then return .inl ((← escaped) :: characters)
  else if c.toNat < 0x20 then fail .malformed
  else return .inl (c :: characters)

/-- Takes a string. -/
def readQuoted : Reader JsonError String := do
  expect '"' .malformed
  loop .malformed quotedCharacter []

end Sift.Json
