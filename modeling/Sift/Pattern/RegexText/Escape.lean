/-
# Escapes

What a backslash introduces: a character with a meaning of its own taken literally, a control
character, a character by its code point, a class of characters or an assertion. Back references
do not exist, and letters without a meaning are refused.

Key definitions: `RegexAtom`, `readEscape`.
-/
import Sift.Pattern.RegexText.Flags

namespace Sift

/-- A part of an expression that stands for one character or one place. -/
inductive RegexAtom where
  | literal (c : Char)
  | set (s : CharSet)
  | look (a : Assertion)

namespace RegexText

/-- The characters that have a meaning in expressions. -/
def isMeta (c : Char) : Bool :=
  "\\.+*?()|[]\x7b\x7d^$#&-~".toList.contains c

/-- Whether a character stands for itself after a backslash: those with a meaning, and all of ASCII
but letters, digits and angle brackets. -/
def isEscapable (c : Char) : Bool :=
  isMeta c || (c.toNat < 128 && !c.isAlphanum && c != '<' && c != '>')

/-- The character with a code point given in hexadecimal digits. -/
def charOfHex (digits : List Char) : RegexReader Char :=
  match Text.hexNumber? digits with
  | some n => if !digits.isEmpty && Nat.isValidChar n then pure (Char.ofNat n)
    else Reader.fail .malformed
  | none => Reader.fail .malformed

/-- Characters up to a closing brace, which is taken as well. Layout may stand between them. -/
def readBraced (flags : RegexFlags) : RegexReader (List Char) :=
  Reader.loop .malformed (fun (characters : List Char) => do
    flags.layout
    let c ← Reader.next .malformed
    if c = '\x7d' then pure (.inr characters.reverse) else pure (.inl (c :: characters))) []

/-- As many characters as said, with layout after each. -/
def readFixed (flags : RegexFlags) : Nat → RegexReader (List Char)
  | 0 => pure []
  | count + 1 => do
    let c ← Reader.next .malformed
    flags.layout
    return c :: (← readFixed flags count)

/-- A code point in braces, or in a fixed number of digits. -/
def readCodePoint (flags : RegexFlags) (digits : Nat) : RegexReader RegexAtom := do
  flags.layout
  match ← Reader.peek with
  | some '\x7b' =>
    Reader.skip 1
    let c ← charOfHex (← readBraced flags)
    flags.layout
    return .literal c
  | _ =>
    let c ← charOfHex (← readFixed flags digits)
    if digits = 2 ∧ !flags.unicode ∧ 128 ≤ c.toNat then Reader.fail .malformed
    else return .literal c

/-- The parts of a text before and after the first place where a text occurs in it. -/
def cutAt? (separator : List Char) : List Char → Option (List Char × List Char)
  | [] => none
  | c :: cs =>
    if separator.isPrefixOf (c :: cs) then some ([], (c :: cs).drop separator.length)
    else (cutAt? separator cs).map fun (before, after) => (c :: before, after)

/-- The property that a query names, and whether the query negates it. -/
def query? (text : List Char) : Option (Unicode.Property × Bool) :=
  let valued (parts : List Char × List Char) (negated : Bool) :=
    (Unicode.propertyValue? (Unicode.normalName parts.1) (Unicode.normalName parts.2)).map
      fun property => (property, negated)
  match cutAt? ['!', '='] text, cutAt? [':'] text, cutAt? ['='] text with
  | some parts, _, _ => valued parts true
  | none, some parts, _ => valued parts false
  | none, none, some parts => valued parts false
  | none, none, none =>
    (Unicode.property? (Unicode.normalName text)).map fun property => (property, false)

/-- A class named by a property: a query in braces or a category of one letter. -/
def readProperty (flags : RegexFlags) (negated : Bool) : RegexReader RegexAtom := do
  flags.layout
  let c ← Reader.next .malformed
  let text ←
    if c = '\x7b' then readBraced flags
    else do
      flags.layout
      pure [c]
  match query? text with
  | some (property, queryNegated) =>
    if flags.unicode then
      let s ← flags.complement (negated != queryNegated) (flags.fold (CharSet.ofProperty property))
      return .set s
    else Reader.fail .malformed
  | none => Reader.fail .malformed

/-- A class of one letter, in the complement when the letter is a capital one. -/
def readClass (flags : RegexFlags) (negated : Bool) (s : CharSet) : RegexReader RegexAtom := do
  return .set (← flags.complement negated s)

/-- Letters and hyphens, of which the names of word boundaries are made. -/
def isBoundaryCharacter (c : Char) : Bool :=
  c.isAlpha || c == '-'

/-- A boundary of words: a plain one, or one whose kind is named in braces. A brace that is not
followed by a name begins a repetition. -/
def readBoundary (flags : RegexFlags) : RegexReader RegexAtom := do
  let ascii := !flags.unicode
  match ← Reader.lookAhead with
  | '\x7b' :: after =>
    match flags.dropFrom after with
    | [] => Reader.fail .malformed
    | c :: _ =>
      if isBoundaryCharacter c then
        Reader.skip 1
        let name ← readBraced flags
        match String.ofList name with
        | "start" => return .look (.wordStart ascii)
        | "end" => return .look (.wordEnd ascii)
        | "start-half" => return .look (.wordStartHalf ascii)
        | "end-half" => return .look (.wordEndHalf ascii)
        | _ => Reader.fail .malformed
      else return .look (.wordBoundary ascii)
  | _ => return .look (.wordBoundary ascii)

/-- What follows a backslash. -/
def readEscape (flags : RegexFlags) : RegexReader RegexAtom := do
  let ascii := !flags.unicode
  let c ← Reader.next .malformed
  match c with
  | 'x' => readCodePoint flags 2
  | 'u' => readCodePoint flags 4
  | 'U' => readCodePoint flags 8
  | 'p' => readProperty flags false
  | 'P' => readProperty flags true
  | 'd' => readClass flags false (CharSet.digit ascii)
  | 'D' => readClass flags true (CharSet.digit ascii)
  | 's' => readClass flags false (CharSet.space ascii)
  | 'S' => readClass flags true (CharSet.space ascii)
  | 'w' => readClass flags false (CharSet.word ascii)
  | 'W' => readClass flags true (CharSet.word ascii)
  | 'a' => return .literal '\x07'
  | 'f' => return .literal '\x0c'
  | 't' => return .literal '\t'
  | 'n' => return .literal '\n'
  | 'r' => return .literal '\r'
  | 'v' => return .literal '\x0b'
  | 'A' => return .look .textStart
  | 'z' => return .look .textEnd
  | 'b' => readBoundary flags
  | 'B' => return .look (.noWordBoundary ascii)
  | '<' => return .look (.wordStart ascii)
  | '>' => return .look (.wordEnd ascii)
  | _ => if isEscapable c then return .literal c else Reader.fail .malformed

end RegexText

end Sift
