/-
# Bracketed classes

A class in brackets is a union of characters, ranges, escaped classes, named ASCII classes and nested
classes. The operators for intersection, difference and symmetric difference bind weaker than
union and group to the left. Every bracket, operator and union of several items counts as a level of
nesting.

Key definitions: `BracketItem`, `readBracket`.
-/
import Sift.Pattern.RegexText.Escape

namespace Sift.RegexText

/-- A part of a bracketed class with its depth of nesting. -/
structure BracketItem where
  set : CharSet
  nesting : Nat

/-- An operator between the parts of a bracketed class. -/
inductive BracketOperator where
  | inter | diff | xor

/-- A bracketed class that is being read: the operands so far with the operator after them, and the
items of the last operand, the last one first. -/
structure BracketState where
  left : Option (BracketItem × BracketOperator)
  items : List BracketItem

/-- The union of items that were read last to first. -/
def uniteItems : List BracketItem → BracketItem
  | [] => ⟨.none, 0⟩
  | [item] => item
  | items =>
    ⟨.unionAll (items.reverse.map (·.set)),
      1 + items.foldl (fun depth item => max depth item.nesting) 0⟩

/-- The set that an operator makes of two sets; both ignore case if the flags say so. -/
def operate (flags : RegexFlags) (operator : BracketOperator) (a b : CharSet) : CharSet :=
  let a := flags.fold a
  let b := flags.fold b
  match operator with
  | .inter => .inter a b
  | .diff => .diff a b
  | .xor => .xor a b

/-- All operands of a class that is being read, put together. -/
def BracketState.combine (flags : RegexFlags) (state : BracketState) : BracketItem :=
  let right := uniteItems state.items
  match state.left with
  | none => right
  | some (left, operator) =>
    ⟨operate flags operator left.set right.set, 1 + max left.nesting right.nesting⟩

/-- A named ASCII class at the start of a text: whether it is negated, the set, and how many
characters it takes. -/
def asciiClass? (text : List Char) : Option (Bool × CharSet × Nat) :=
  match text with
  | '[' :: ':' :: after =>
    let (negated, after) :=
      match after with
      | '^' :: rest => (true, rest)
      | _ => (false, after)
    let name := after.takeWhile (· != ':')
    match after.drop name.length with
    | ':' :: ']' :: rest =>
      (CharSet.named? (String.ofList name)).map fun s => (negated, s, text.length - rest.length)
    | _ => none
  | _ => none

/-- One character, escaped class or assertion within brackets. -/
def readBracketAtom (flags : RegexFlags) : RegexReader RegexAtom := do
  let c ← Reader.next .malformed
  if c = '\\' then readEscape flags else return .literal c

/-- A character as an end of a range. Without Unicode only ASCII can be in a class. -/
def boundOf (flags : RegexFlags) : RegexAtom → RegexReader Char
  | .literal c =>
    if flags.unicode || c.toNat < 128 then pure c else Reader.fail .malformed
  | _ => Reader.fail .malformed

/-- A character, a class or a range. A hyphen before the closing bracket or before another hyphen
makes no range. -/
def readRange (flags : RegexFlags) : RegexReader BracketItem := do
  let first ← readBracketAtom flags
  flags.layout
  match ← Reader.lookAhead with
  | [] => Reader.fail .malformed
  | '-' :: after =>
    match (flags.dropFrom after).head? with
    | some ']' | some '-' => single first
    | _ =>
      Reader.skip 1
      flags.layout
      let low ← boundOf flags first
      let high ← boundOf flags (← readBracketAtom flags)
      if low ≤ high then return ⟨.range low high, 0⟩ else Reader.fail .malformed
  | _ => single first
where
  single : RegexAtom → RegexReader BracketItem
    | .set s => return ⟨s, 0⟩
    | atom => do return ⟨.single (← boundOf flags atom), 0⟩

/-- The start of a class, after its bracket: a caret negates it; hyphens, and otherwise a closing
bracket, stand for themselves. Gives whether it is negated and its first items. -/
def readBracketStart (flags : RegexFlags) : RegexReader (Bool × List BracketItem) := do
  flags.layout
  let negated ← do
    if (← Reader.peek) = some '^' then
      Reader.skip 1
      flags.layout
      pure true
    else pure false
  let hyphens ← Reader.loop .malformed (fun (items : List BracketItem) => do
    if (← Reader.peek) = some '-' then
      Reader.skip 1
      flags.layout
      pure (.inl (⟨.single '-', 0⟩ :: items))
    else pure (.inr items)) []
  if hyphens.isEmpty ∧ (← Reader.peek) = some ']' then
    Reader.skip 1
    flags.layout
    return (negated, [⟨.single ']', 0⟩])
  else return (negated, hyphens)

/-- Ends the operand that is being read with an operator of two characters. -/
def readOperator (flags : RegexFlags) (state : BracketState) (operator : BracketOperator) :
    RegexReader BracketState := do
  Reader.skip 2
  return ⟨some (state.combine flags, operator), []⟩

/-- A class, after its opening bracket and with its closing one. The first argument bounds how
deeply brackets can nest. -/
def readBracket (flags : RegexFlags) : Nat → RegexReader BracketItem
  | 0 => Reader.fail .tooNested
  | depth + 1 => do
    let (negated, first) ← readBracketStart flags
    let inner ← Reader.loop .malformed (fun (state : BracketState) => do
      flags.layout
      match ← Reader.lookAhead with
      | [] => Reader.fail .malformed
      | ']' :: _ =>
        Reader.skip 1
        return .inr (state.combine flags)
      | '&' :: '&' :: _ => return .inl (← readOperator flags state .inter)
      | '-' :: '-' :: _ => return .inl (← readOperator flags state .diff)
      | '~' :: '~' :: _ => return .inl (← readOperator flags state .xor)
      | '[' :: rest =>
        match asciiClass? ('[' :: rest) with
        | some (negatedName, s, taken) =>
          Reader.skip taken
          let s ← flags.complement negatedName (flags.fold s)
          return .inl { state with items := ⟨s, 0⟩ :: state.items }
        | none =>
          Reader.skip 1
          let nested ← readBracket flags depth
          return .inl { state with items := nested :: state.items }
      | _ =>
        let item ← readRange flags
        return .inl { state with items := item :: state.items }) ⟨none, first⟩
    let s ← flags.complement negated (flags.fold inner.set)
    return ⟨s, 1 + inner.nesting⟩

end Sift.RegexText
