/-
# Shapes of regular expressions

The shape of an expression is what an automaton for it is built from. Groups that do not capture
and settings of flags are gone, neighbouring literals are one, alternatives of single characters and
classes are one class, and what all alternatives begin with stands in front of them. The size of an
automaton depends on all of that, whereas whether there is a match does not.

Key definitions: `RegexShape`, `RegexShape.leastLength`, `RegexShape.greatestLength`,
`RegexShape.beginsWith`, `RegexShape.endsWith`, `RegexShape.ofSet`, `RegexShape.bounds`,
`RegexShape.repeated`, `RegexShape.sequence`, `RegexShape.alternatives`.
-/
import Sift.Pattern.Regex

namespace Sift

open Unicode (CodeRanges)

/-- The shape of an expression. -/
inductive RegexShape where
  | empty
  /-- Characters one after the other, at least one. -/
  | literal (cs : List Char)
  /-- A set of single bytes; the empty set never matches. -/
  | bytes (ranges : CodeRanges)
  /-- A set of at least two characters. -/
  | characters (ranges : CodeRanges)
  | look (a : Assertion)
  | times (least : Nat) (most : Option Nat) (greedy : Bool) (body : RegexShape)
  | capture (body : RegexShape)
  /-- At least two parts one after the other. -/
  | cat (parts : List RegexShape)
  /-- At least two alternatives. -/
  | alt (branches : List RegexShape)

namespace RegexShape

/-! ## Comparing shapes -/

mutual

/-- Whether two shapes are alike. Two groups that capture never are, since they capture different
things. -/
def isSame : RegexShape → RegexShape → Bool
  | empty, empty => true
  | literal cs, literal ds => cs == ds
  | bytes a, bytes b => a == b
  | characters a, characters b => a == b
  | look a, look b => a == b
  | times least most greedy r, times least' most' greedy' r' =>
    least == least' && most == most' && greedy == greedy' && isSame r r'
  | cat parts, cat parts' => isSameAll parts parts'
  | alt branches, alt branches' => isSameAll branches branches'
  | _, _ => false

/-- Whether two lists of shapes are alike. -/
def isSameAll : List RegexShape → List RegexShape → Bool
  | [], [] => true
  | r :: rs, s :: ss => isSame r s && isSameAll rs ss
  | _, _ => false

end

/-- How many parts two lists of shapes begin with in common. -/
def commonLength : List RegexShape → List RegexShape → Nat
  | r :: rs, s :: ss => if isSame r s then commonLength rs ss + 1 else 0
  | _, _ => 0

/-! ## Lengths -/

mutual

/-- The least number of characters that a match can have; `none` if a part can never match. -/
def leastLength : RegexShape → Option Nat
  | empty => some 0
  | literal cs => some cs.length
  | bytes ranges => if ranges.isEmpty then none else some 1
  | characters _ => some 1
  | look _ => some 0
  | times least _ _ body => (leastLength body).map (least * ·)
  | capture body => leastLength body
  | cat parts => (leastLengths parts).map (·.foldr (· + ·) 0)
  | alt branches => (leastLengths branches).bind List.min?

/-- The least numbers of characters that matches of several shapes can have. -/
def leastLengths : List RegexShape → Option (List Nat)
  | [] => some []
  | r :: rs =>
    match leastLength r, leastLengths rs with
    | some length, some lengths => some (length :: lengths)
    | _, _ => none

end

mutual

/-- The greatest number of characters that a match can have; `none` if there is none or a part can
never match. -/
def greatestLength : RegexShape → Option Nat
  | empty => some 0
  | literal cs => some cs.length
  | bytes ranges => if ranges.isEmpty then none else some 1
  | characters _ => some 1
  | look _ => some 0
  | times _ most _ body =>
    match most, greatestLength body with
    | some most, some length => some (most * length)
    | _, _ => none
  | capture body => greatestLength body
  | cat parts => (greatestLengths parts).map (·.foldr (· + ·) 0)
  | alt branches => (greatestLengths branches).bind List.max?

/-- The greatest numbers of characters that matches of several shapes can have. -/
def greatestLengths : List RegexShape → Option (List Nat)
  | [] => some []
  | r :: rs =>
    match greatestLength r, greatestLengths rs with
    | some length, some lengths => some (length :: lengths)
    | _, _ => none

end

/-- Whether a match always takes at least one character. -/
def takesSomething (r : RegexShape) : Bool :=
  r.leastLength.any (0 < ·)

/-- Whether a match never takes a character. -/
def takesNothing (r : RegexShape) : Bool :=
  r.greatestLength == some 0

/-! ## Assertions at the ends -/

mutual

/-- Whether every match begins where an assertion holds, as far as the shape tells. -/
def beginsWith (a : Assertion) : RegexShape → Bool
  | look b => a == b
  | times least _ _ body => 0 < least && beginsWith a body
  | capture body => beginsWith a body
  | cat parts => beginsWithin a parts
  | alt branches => allBeginWith a branches
  | _ => false

/-- Whether one of the parts up to the first that can take a character begins with an assertion. -/
def beginsWithin (a : Assertion) : List RegexShape → Bool
  | [] => false
  | r :: rs => beginsWith a r || (takesNothing r && beginsWithin a rs)

/-- Whether all of several shapes begin with an assertion. -/
def allBeginWith (a : Assertion) : List RegexShape → Bool
  | [] => true
  | r :: rs => beginsWith a r && allBeginWith a rs

end

mutual

/-- Whether every match ends where an assertion holds, as far as the shape tells. -/
def endsWith (a : Assertion) : RegexShape → Bool
  | look b => a == b
  | times least _ _ body => 0 < least && endsWith a body
  | capture body => endsWith a body
  | cat parts => endsWithin a parts
  | alt branches => allEndWith a branches
  | _ => false

/-- Whether one of the parts from the last that can take a character on ends with an assertion. -/
def endsWithin (a : Assertion) : List RegexShape → Bool
  | [] => false
  | r :: rs => endsWithin a rs || (rs.all takesNothing && endsWith a r)

/-- Whether all of several shapes end with an assertion. -/
def allEndWith (a : Assertion) : List RegexShape → Bool
  | [] => true
  | r :: rs => endsWith a r && allEndWith a rs

end

/-! ## Putting shapes together -/

/-- The shape of a set of characters, or of a set of bytes. A set of one character is a literal. -/
def ofRanges (inBytes : Bool) : CodeRanges → RegexShape
  | [] => bytes []
  | [(first, last)] =>
    if first = last then literal [Char.ofNat first]
    else if inBytes then bytes [(first, last)] else characters [(first, last)]
  | ranges => if inBytes then bytes ranges else characters ranges

/-- The shape of a set; without Unicode it is a set of bytes. -/
def ofSet (unicode : Bool) (s : CharSet) : RegexShape :=
  ofRanges (!unicode) s.codeRanges

/-- The bounds of a repetition. Repeating what takes no character more than once changes nothing. -/
def bounds (body : RegexShape) (least : Nat) (most : Option Nat) : Nat × Option Nat :=
  if takesNothing body then (min least 1, some (min (most.getD 1) 1)) else (least, most)

/-- The shape of a repetition with the given bounds. -/
def repeated (least : Nat) (most : Option Nat) (greedy : Bool) (body : RegexShape) : RegexShape :=
  if most = some 0 then empty
  else if least = 1 ∧ most = some 1 then body
  else times least most greedy body

/-- The parts of a sequence. -/
def parts : RegexShape → List RegexShape
  | empty => []
  | cat parts => parts
  | r => [r]

/-- A part in front of others; literals join. -/
def consPart : RegexShape → List RegexShape → List RegexShape
  | literal cs, literal ds :: rest => literal (cs ++ ds) :: rest
  | r, rest => r :: rest

/-- The shape of a sequence. -/
def sequence (rs : List RegexShape) : RegexShape :=
  match (rs.flatMap parts).foldr consPart [] with
  | [] => empty
  | [r] => r
  | parts => cat parts

/-- The branches of alternatives. -/
def branches : RegexShape → List RegexShape
  | alt branches => branches
  | r => [r]

/-- The character that a shape is. -/
def character? : RegexShape → Option (Nat × Nat)
  | literal [c] => some (c.toNat, c.toNat)
  | _ => none

/-- The ranges of the class that a shape is. -/
def class? : RegexShape → Option CodeRanges
  | bytes ranges => some ranges
  | characters ranges => some ranges
  | _ => none

/-- The shape of branches that begin with nothing in common. -/
def ofBranches : List RegexShape → RegexShape
  | [] => bytes []
  | [r] => r
  | rs =>
    match rs.mapM character?, rs.mapM class? with
    | some singles, _ => ofRanges false (.ofList singles)
    | none, some classes => ofRanges false (.ofList classes.flatten)
    | none, none => alt rs

/-- The parts of a sequence of at least two parts. -/
def cat? : RegexShape → Option (List RegexShape)
  | cat parts => some parts
  | _ => none

/-- The parts that all branches begin with, and what is left of the branches. -/
def commonPrefix? (rs : List RegexShape) : Option (List RegexShape × List RegexShape) := do
  match ← rs.mapM cat? with
  | [] => none
  | first :: others =>
    let length := others.foldl (fun length parts => min length (commonLength first parts))
      first.length
    if length = 0 ∨ others.isEmpty then none
    else return (first.take length, (first :: others).map fun parts => sequence (parts.drop length))

/-- The shape of alternatives. -/
def alternatives (rs : List RegexShape) : RegexShape :=
  let rs := rs.flatMap branches
  match commonPrefix? rs with
  | some (common, rests) => sequence (common ++ [ofBranches (rests.flatMap branches)])
  | none => ofBranches rs

end RegexShape

end Sift
