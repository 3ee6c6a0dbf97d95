/-
# Written regular expressions

An expression is read from left to right with the sequence under way, the alternatives before it,
and the groups around it. Each finished part is a `RegexPart`: what it matches, how deeply its
written form is nested, and what an automaton for it is built from. An expression that is nested too
deeply or too large is refused; whether repetitions are greedy makes no difference to whether there
is a match.

Key definitions: `RegexPart`, `RegexText.readExpression`, `Regex.ofText`.
-/
import Sift.Pattern.Automaton.Size
import Sift.Pattern.RegexText.Bracket

namespace Sift

/-- A finished part of a written expression. -/
structure RegexPart where
  regex : Regex
  /-- How many levels of the written form are nested in it. -/
  nesting : Nat
  /-- What an automaton for it is built from. -/
  shape : RegexShape

namespace RegexPart

/-- The part that matches nothing, such as a setting of flags. -/
def nothing : RegexPart := ⟨.empty, 0, .empty⟩

/-- The part for a character of a set. -/
def ofSet (flags : RegexFlags) (s : CharSet) : RegexPart :=
  ⟨.set s, 0, .ofSet flags.unicode s⟩

/-- The part for an assertion. -/
def ofAssertion (a : Assertion) : RegexPart :=
  ⟨.look a, 0, .look a⟩

/-- A group around a part. -/
def group (capturing : Bool) (part : RegexPart) : RegexPart :=
  ⟨part.regex, part.nesting + 1, if capturing then .capture part.shape else part.shape⟩

/-- The nesting of a level that holds several parts. -/
def levelNesting (parts : List RegexPart) : Nat :=
  1 + parts.foldr (fun part depth => max part.nesting depth) 0

/-- Expressions one after the other. -/
def catAll : List Regex → Regex
  | [] => .empty
  | [r] => r
  | r :: s :: rest => .cat r (catAll (s :: rest))

/-- Expressions as alternatives. -/
def altAll : List Regex → Regex
  | [] => .empty
  | [r] => r
  | r :: s :: rest => .alt r (altAll (s :: rest))

/-- Parts one after the other. -/
def sequence : List RegexPart → RegexPart
  | [] => nothing
  | [part] => part
  | parts =>
    ⟨catAll (parts.map (·.regex)), levelNesting parts, .sequence (parts.map (·.shape))⟩

/-- Parts as alternatives. -/
def alternatives : List RegexPart → RegexPart
  | [] => nothing
  | [part] => part
  | parts =>
    ⟨altAll (parts.map (·.regex)), levelNesting parts, .alternatives (parts.map (·.shape))⟩

/-- Whether an expression matches the empty text at every place. -/
def isOptional : Regex → Bool
  | .empty => true
  | .set _ => false
  | .look _ => false
  | .cat r s => isOptional r && isOptional s
  | .alt r s => isOptional r || isOptional s
  | .times least _ r => least = 0 || isOptional r

/-- A part repeated. What can take nothing anywhere need not be repeated at all. -/
def times (least : Nat) (most : Option Nat) (greedy : Bool) (part : RegexPart) : RegexPart :=
  let (least, most) := part.shape.bounds least most
  ⟨.times (if isOptional part.regex then 0 else least) most part.regex, part.nesting + 1,
    part.shape.repeated least most greedy⟩

end RegexPart

namespace RegexText

/-- A group whose inside is being read: what stood before it, and the flags to go back to. -/
structure OpenGroup where
  capturing : Bool
  flags : RegexFlags
  alternatives : List RegexPart
  items : List (Option RegexPart)

/-- An expression that is being read. The items of the sequence under way and the alternatives
before it stand last first; an item is `none` when it only sets flags. -/
structure Reading where
  flags : RegexFlags
  names : List (List Char)
  groups : List OpenGroup
  alternatives : List RegexPart
  items : List (Option RegexPart)

namespace Reading

/-- The sequence under way as a part. -/
def sequence (reading : Reading) : RegexPart :=
  RegexPart.sequence (reading.items.reverse.map (·.getD .nothing))

/-- The alternatives with the sequence under way as the last one. -/
def inside (reading : Reading) : RegexPart :=
  RegexPart.alternatives (reading.alternatives.reverse ++ [reading.sequence])

/-- One more item in the sequence. -/
def add (reading : Reading) (part : RegexPart) : Reading :=
  { reading with items := some part :: reading.items }

end Reading

/-- An operator of repetition at the end of a sequence: it applies to the last item. -/
def repeatLast (reading : Reading) (least : Nat) (most : Option Nat) : RegexReader Reading := do
  match reading.items with
  | some part :: items =>
    let lazy := (← Reader.peek) == some '?'
    if lazy then Reader.skip 1
    let greedy := lazy == reading.flags.swapGreed
    return { reading with items := some (part.times least most greedy) :: items }
  | _ => Reader.fail .malformed

/-- A count in a repetition: decimal digits below 2 ^ 32, with white space around them. -/
def readCount (flags : RegexFlags) : RegexReader Nat := do
  let _ ← Reader.takeWhile Text.isBlank
  let digits ← Reader.loop .malformed (fun (digits : List Char) => do
    match ← Reader.peek with
    | some c =>
      if c.isDigit then
        Reader.skip 1
        flags.layout
        pure (.inl (c :: digits))
      else pure (.inr digits.reverse)
    | none => pure (.inr digits.reverse)) []
  let _ ← Reader.takeWhile Text.isBlank
  flags.layout
  let count := Nat.ofDigitChars 10 digits 0
  if digits.isEmpty || 0x100000000 ≤ count then Reader.fail .malformed else return count

/-- A repetition with counts in braces. -/
def readCounted (reading : Reading) : RegexReader Reading := do
  let flags := reading.flags
  Reader.skip 1
  flags.layout
  let least ← readCount flags
  let most ← do
    if (← Reader.peek) = some ',' then
      Reader.skip 1
      flags.layout
      if (← Reader.peek) = some '\x7d' then pure none else some <$> readCount flags
    else pure (some least)
  Reader.expect '\x7d' .malformed
  flags.layout
  if most.any (· < least) then Reader.fail .malformed
  else repeatLast reading least most

/-- Flags that are being read: letters so far, whether a hyphen came, whether it came last. -/
structure FlagReading where
  flags : RegexFlags
  letters : List Char
  negated : Bool
  dangling : Bool

/-- Flags up to the colon or the closing parenthesis, which is given as well. No letter may come
twice, and a hyphen, which comes at most once, not last. -/
def readFlags (flags : RegexFlags) : RegexReader (FlagReading × Char) :=
  Reader.loop .malformed (fun (state : FlagReading) => do
    let c ← Reader.next .malformed
    if c = ':' ∨ c = ')' then
      if state.dangling then Reader.fail .malformed else return .inr (state, c)
    else if c = '-' then
      if state.negated then Reader.fail .malformed
      else return .inl { state with negated := true, dangling := true }
    else
      match state.flags.set? c (!state.negated) with
      | some flags =>
        if state.letters.contains c then Reader.fail .malformed
        else return .inl ⟨flags, c :: state.letters, state.negated, false⟩
      | none => Reader.fail .malformed) ⟨flags, [], false, false⟩

/-- Whether a character can be in the name of a group. -/
def isNameCharacter (first : Bool) (c : Char) : Bool :=
  if first then c == '_' || CharSet.alphabetic.contains c
  else c == '_' || c == '.' || c == '[' || c == ']' || CharSet.alphanumeric.contains c

/-- The name of a group, up to a closing angle bracket; no two groups have one name. -/
def readName (names : List (List Char)) : RegexReader (List Char) := do
  let name ← Reader.takeWhile (· != '>')
  Reader.expect '>' .malformed
  match name with
  | [] => Reader.fail .malformed
  | c :: cs =>
    if isNameCharacter true c && cs.all (isNameCharacter false) && !names.contains name then
      return name
    else Reader.fail .malformed

/-- The state inside a group that has just been opened. -/
def Reading.enter (reading : Reading) (capturing : Bool) (flags : RegexFlags) : Reading :=
  { reading with
    flags := flags
    groups := ⟨capturing, reading.flags, reading.alternatives, reading.items⟩ :: reading.groups
    alternatives := []
    items := [] }

/-- An opening parenthesis with what belongs to it: a setting of flags, a group with flags, a named
group or a plain one. Conditions on what comes before or after do not exist. -/
def readOpen (reading : Reading) : RegexReader Reading := do
  Reader.skip 1
  reading.flags.layout
  match ← Reader.lookAhead with
  | '?' :: '=' :: _ | '?' :: '!' :: _ => Reader.fail .malformed
  | '?' :: '<' :: '=' :: _ | '?' :: '<' :: '!' :: _ => Reader.fail .malformed
  | '?' :: 'P' :: '<' :: _ => named 3
  | '?' :: '<' :: _ => named 2
  | '?' :: _ =>
    Reader.skip 1
    let (state, last) ← readFlags reading.flags
    if last = ')' then
      if state.letters.isEmpty then Reader.fail .malformed
      else return { reading with flags := state.flags, items := none :: reading.items }
    else return reading.enter false state.flags
  | _ => return reading.enter true reading.flags
where
  named (skipped : Nat) : RegexReader Reading := do
    Reader.skip skipped
    let name ← readName reading.names
    return { reading.enter true reading.flags with names := name :: reading.names }

/-- A closing parenthesis. -/
def readClose (reading : Reading) : RegexReader Reading := do
  Reader.skip 1
  match reading.groups with
  | [] => Reader.fail .malformed
  | group :: groups =>
    return {
      flags := group.flags
      names := reading.names
      groups := groups
      alternatives := group.alternatives
      items := some (reading.inside.group group.capturing) :: group.items }

/-- The part for the dot. Without Unicode it could match a part of a character, so it is
refused. -/
def dotPart (flags : RegexFlags) : RegexReader RegexPart :=
  if !flags.unicode then Reader.fail .malformed
  else if flags.dotAll then pure (.ofSet flags .any)
  else if flags.crlf then pure (.ofSet flags (.diff .any (.union (.single '\n') (.single '\r'))))
  else pure (.ofSet flags (.diff .any (.single '\n')))

/-- The assertion of the caret or, with `atEnd`, of the dollar sign. -/
def anchor (flags : RegexFlags) (atEnd : Bool) : Assertion :=
  match flags.multiLine, flags.crlf, atEnd with
  | false, _, false => .textStart
  | false, _, true => .textEnd
  | true, false, false => .lineStart
  | true, false, true => .lineEnd
  | true, true, false => .crlfLineStart
  | true, true, true => .crlfLineEnd

/-- The part for an escape or a plain character. Without Unicode, case is only known of ASCII. -/
def atomPart (flags : RegexFlags) : RegexAtom → RegexReader RegexPart
  | .set s => pure (.ofSet flags s)
  | .look a => pure (.ofAssertion a)
  | .literal c =>
    if flags.caseless && !flags.unicode && 128 ≤ c.toNat then Reader.fail .malformed
    else pure (.ofSet flags (flags.fold (.single c)))

/-- One part of an expression: what the next character begins. -/
def readPart (reading : Reading) (c : Char) : RegexReader Reading := do
  let flags := reading.flags
  match c with
  | '(' => readOpen reading
  | ')' => readClose reading
  | '|' =>
    Reader.skip 1
    return { reading with
      alternatives := reading.sequence :: reading.alternatives
      items := [] }
  | '[' =>
    Reader.skip 1
    let item ← readBracket flags 250
    return reading.add { RegexPart.ofSet flags item.set with nesting := item.nesting }
  | '?' =>
    Reader.skip 1
    repeatLast reading 0 (some 1)
  | '*' =>
    Reader.skip 1
    repeatLast reading 0 none
  | '+' =>
    Reader.skip 1
    repeatLast reading 1 none
  | '\x7b' => readCounted reading
  | '\\' =>
    Reader.skip 1
    let atom ← readEscape flags
    return reading.add (← atomPart flags atom)
  | '.' =>
    Reader.skip 1
    return reading.add (← dotPart flags)
  | '^' =>
    Reader.skip 1
    return reading.add (.ofAssertion (anchor flags false))
  | '$' =>
    Reader.skip 1
    return reading.add (.ofAssertion (anchor flags true))
  | _ =>
    Reader.skip 1
    return reading.add (← atomPart flags (.literal c))

/-- One round of reading an expression; at the end of the text all groups must be closed. -/
def readRound (reading : Reading) : RegexReader (Reading ⊕ RegexPart) := do
  reading.flags.layout
  match ← Reader.peek with
  | some c => return .inl (← readPart reading c)
  | none =>
    if reading.groups.isEmpty then return .inr reading.inside else Reader.fail .malformed

/-- A whole expression. -/
def readExpression : RegexReader RegexPart :=
  Reader.loop .malformed readRound ⟨{}, [], [], [], []⟩

end RegexText

namespace Regex

/-- How deeply the written form of an expression may be nested. -/
def nestingLimit : Nat := 250

/-- The expression that a text denotes. -/
def ofText (text : List Char) : Except RegexError Regex :=
  match RegexText.readExpression.parse .malformed text with
  | .error e => .error e
  | .ok part =>
    if nestingLimit < part.nesting then .error .tooNested
    else if part.shape.isTooLarge then .error .tooLarge
    else .ok part.regex

end Regex

end Sift
