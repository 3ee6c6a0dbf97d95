/-
# Regular expressions and how they match

Matching follows partial derivatives: the step of an expression over a character is a list of
expressions, one for each way to go on. A search keeps the expressions that are still being matched,
each once, and begins the whole expression anew at every place where enough characters are left, so
that its time is linear in the text. Assertions look at the characters on both sides of a place, so both the step and the test for
an empty match are told them.

Key definitions: `Assertion.holds`, `Regex`, `Regex.acceptsEmpty`, `Regex.step`, `Regex.search`,
`Regex.occursIn`.
-/
import Sift.Pattern.CharSet
import Std.Data.HashSet

namespace Sift

/-- A condition on the place between two characters. -/
inductive Assertion where
  | textStart
  | textEnd
  | lineStart
  | lineEnd
  /-- The start of a line where a carriage return, too, ends lines. -/
  | crlfLineStart
  | crlfLineEnd
  | wordBoundary (ascii : Bool)
  | noWordBoundary (ascii : Bool)
  | wordStart (ascii : Bool)
  | wordEnd (ascii : Bool)
  /-- No word character comes before. -/
  | wordStartHalf (ascii : Bool)
  /-- No word character follows. -/
  | wordEndHalf (ascii : Bool)
deriving DecidableEq

namespace Assertion

/-- Whether there is a word character on one side of a place. -/
def isWord (ascii : Bool) (side : Option Char) : Bool :=
  side.any (CharSet.word ascii).contains

/-- Whether an assertion holds between two characters; `none` stands for an end of the text. -/
def holds (before after : Option Char) : Assertion → Bool
  | textStart => before.isNone
  | textEnd => after.isNone
  | lineStart => before.isNone || before == some '\n'
  | lineEnd => after.isNone || after == some '\n'
  | crlfLineStart =>
    before.isNone || before == some '\n' || (before == some '\r' && after != some '\n')
  | crlfLineEnd =>
    after.isNone || after == some '\r' || (after == some '\n' && before != some '\r')
  | wordBoundary ascii => isWord ascii before != isWord ascii after
  | noWordBoundary ascii => isWord ascii before == isWord ascii after
  | wordStart ascii => !isWord ascii before && isWord ascii after
  | wordEnd ascii => isWord ascii before && !isWord ascii after
  | wordStartHalf ascii => !isWord ascii before
  | wordEndHalf ascii => !isWord ascii after

end Assertion

/-- A regular expression. `times least most r` stands for `r` repeated at least and at most so many
times. -/
inductive Regex where
  | empty
  | set (s : CharSet)
  | look (a : Assertion)
  | cat (r s : Regex)
  | alt (r s : Regex)
  | times (least : Nat) (most : Option Nat) (r : Regex)
deriving DecidableEq

namespace Regex

/-- One expression and then another. -/
def andThen (r s : Regex) : Regex :=
  if r = empty then s else cat r s

/-- Whether the expression matches nothing at all at a place between two characters. -/
def acceptsEmpty (before after : Option Char) : Regex → Bool
  | empty => true
  | set _ => false
  | look a => a.holds before after
  | cat r s => r.acceptsEmpty before after && s.acceptsEmpty before after
  | alt r s => r.acceptsEmpty before after || s.acceptsEmpty before after
  | times least _ r => least == 0 || r.acceptsEmpty before after

/-- The ways on in a repetition of `r`, where `heads` are the ways on in its first round. When a
round can be empty, the character may also belong to a later one. -/
def roundsAfter (r : Regex) (heads : List Regex) (skips : Bool) : Nat → Option Nat → List Regex
  | 0, none => heads.map (·.andThen (times 0 none r))
  | 0, some 0 => []
  | 0, some (most + 1) => heads.map (·.andThen (times 0 (some most) r))
  | least + 1, most =>
    heads.map (·.andThen (times least (most.map (· - 1)) r)) ++
      if skips then roundsAfter r heads skips least (most.map (· - 1)) else []

/-- The ways on after a character, at a place after `before`. -/
def step (before : Option Char) (c : Char) : Regex → List Regex
  | empty => []
  | set s => if s.contains c then [empty] else []
  | look _ => []
  | cat r s =>
    (step before c r).map (·.andThen s) ++
      if r.acceptsEmpty before (some c) then step before c s else []
  | alt r s => step before c r ++ step before c s
  | times least most r =>
    roundsAfter r (step before c r) (r.acceptsEmpty before (some c)) least most

/-- The least number of characters that a match can have. -/
def leastLength : Regex → Nat
  | empty => 0
  | set _ => 1
  | look _ => 0
  | cat r s => r.leastLength + s.leastLength
  | alt r s => min r.leastLength s.leastLength
  | times least _ r => least * r.leastLength

/-- Mixes a number into a hash. -/
def mix (hash number : UInt64) : UInt64 :=
  (hash ^^^ number) * 0x9E3779B97F4A7C15

/-- A hash that tells most expressions apart that come up in one search: these differ in their
counts and in where they begin, not in the sets alone. -/
def hash : Regex → UInt64
  | empty => 1
  | set _ => 2
  | look _ => 3
  | cat r s => mix (mix 4 r.hash) s.hash
  | alt r s => mix (mix 5 r.hash) s.hash
  | times least most r =>
    let most :=
      match most with
      | none => 0
      | some most => most.toUInt64 + 1
    mix (mix (mix 6 least.toUInt64) most) r.hash

instance : Hashable Regex := ⟨hash⟩

/-- The expressions of a list, each once. -/
def distinct (rs : List Regex) : List Regex :=
  (Std.HashSet.ofList rs).toList

/-- Whether one of the expressions being matched matches up to some place, or the whole expression
matches from one of the next `starts` places on. -/
def search (whole : Regex) (starts : Nat) (current : List Regex) (before : Option Char) :
    List Char → Bool
  | [] => (begin starts current).any (·.acceptsEmpty before none)
  | c :: cs =>
    (begin starts current).any (·.acceptsEmpty before (some c)) ||
      search whole (starts - 1) (distinct ((begin starts current).flatMap (step before c))) (some c)
        cs
where
  /-- The expressions being matched with the whole one if it may begin here. -/
  begin (starts : Nat) (current : List Regex) : List Regex :=
    if starts = 0 then current else whole :: current

/-- Whether the expression matches some part of a text. It cannot begin where too few characters
are left. -/
def occursIn (r : Regex) (text : List Char) : Bool :=
  search r (text.length + 1 - r.leastLength) [] none text

end Regex

end Sift
