/-
# Sizes of automata

How large the automata for an expression are. Two of them are built: one that reads forward and
finds where matches end, and one that reads backward from there to where they begin. Each first
passes over any bytes unless matches can only lie at the end of the text where it begins to read.

Key definitions: `Automaton.add`, `Automaton.draft`, `RegexShape.isTooLarge`.
-/
import Sift.Pattern.Automaton.Characters
import Sift.Pattern.Automaton.Words
import Sift.Pattern.Shape

namespace Sift

namespace Automaton

/-- The bytes of a literal. -/
def literalBytes? : RegexShape → Option (List UInt8)
  | .literal cs => some (cs.flatMap String.utf8EncodeChar)
  | _ => none

/-- Adds an optional part: a fork around it. -/
def addOptional (add : Draft → Draft) (draft : Draft) : Draft :=
  ((add ((draft.addStates 1).endingInFork false)).link.addStates 1).addWays 2
    |>.endingInFork false

/-- Adds a part that is repeated at least once: a fork after it that leads back. -/
def addRepeating (add : Draft → Draft) (draft : Draft) : Draft :=
  ((draft.followedBy add).link.addStates 1).addWays 1 |>.endingInFork true

/-- Adds a part that is repeated any number of times. One fork is enough if the part always takes a
character. -/
def addAnyTimes (takesSomething : Bool) (add : Draft → Draft) (draft : Draft) : Draft :=
  if takesSomething then
    (add ((draft.addStates 1).endingInFork false)).link.addWays 1 |>.endingInFork true
  else
    ((add (draft.endingInFork false)).link.addStates 3).addWays 4 |>.endingInFork false

/-- Adds a part that is repeated at most so many times: a fork in front of each repetition, from
which one way leads to the end. -/
def addAtMost (count : Nat) (add : Draft → Draft) (draft : Draft) : Draft :=
  ((draft.addStates 1).copies (fun draft =>
    (add ((draft.addStates 1).endingInFork false)).addWays 2) count).link.endingInFork false

/-- Adds a part that is repeated. -/
def addTimes (least : Nat) (most : Option Nat) (takesSomething : Bool) (add : Draft → Draft)
    (draft : Draft) : Draft :=
  match least, most with
  | 0, none => addAnyTimes takesSomething add draft
  | 0, some 1 => addOptional add draft
  | 0, some most => addAtMost most add ((draft.addStates 1).endingInFork false)
  | least + 1, none => addRepeating add ((draft.endingInFork false).copies add least)
  | least + 1, some most =>
    let exact := (draft.endingInFork false).copies add (least + 1)
    if most = least + 1 then exact else addAtMost (most - (least + 1)) add exact

mutual

/-- Adds the states for a shape. -/
def add (direction : Direction) : RegexShape → Draft → Draft
  | .empty, draft => (draft.addStates 1).endingInFork false
  | .literal cs, draft =>
    (draft.addStates (cs.flatMap String.utf8EncodeChar).length).endingInFork false
  | .bytes ranges, draft => (addBytes ranges draft).endingInFork false
  | .characters ranges, draft => (addCharacters direction ranges draft).endingInFork false
  | .look _, draft => (draft.addStates 1).endingInFork false
  | .times least most _ body, draft =>
    addTimes least most body.takesSomething (add direction body) draft
  | .capture body, draft =>
    match direction with
    | .forward => (add direction body (draft.addStates 1)).link.addStates 1 |>.endingInFork false
    | .backward => add direction body draft
  | .cat parts, draft =>
    match direction with
    | .forward => addParts parts (draft.endingInFork false)
    | .backward => addPartsBackward parts (draft.endingInFork false)
  | .alt branches, draft =>
    match branches.mapM literalBytes? with
    | some words => (addWords direction words draft).endingInFork false
    | none => (addBranches direction 0 branches draft).endingInFork false

/-- Adds the states for the parts of a sequence. -/
def addParts : List RegexShape → Draft → Draft
  | [], draft => draft
  | part :: parts, draft => addParts parts (draft.followedBy (add .forward part))

/-- Adds the states for the parts of a sequence, the last part first. -/
def addPartsBackward : List RegexShape → Draft → Draft
  | [], draft => draft
  | part :: parts, draft => (addPartsBackward parts draft).followedBy (add .backward part)

/-- Adds the states for alternatives of which so many have been added. The fork between them and the
state where they meet again are added after the second one. -/
def addBranches (direction : Direction) (count : Nat) : List RegexShape → Draft → Draft
  | [], draft => draft
  | branch :: branches, draft =>
    let draft := (add direction branch draft).link.addWays 1
    addBranches direction (count + 1) branches (if count = 1 then draft.addStates 2 else draft)

end

/-- The automaton for an expression with the given shape. Reading forward, the whole match is
captured. -/
def draft (direction : Direction) (shape : RegexShape) : Draft :=
  let anchored :=
    match direction with
    | .forward => shape.beginsWith .textStart
    | .backward => shape.endsWith .textEnd
  let start : Draft := if anchored then Draft.start.addStates 1
    else ((Draft.start.addStates 2).addBranching 1).addWays 2
  match direction with
  | .forward => (add direction shape (start.addStates 1)).link.addStates 2
  | .backward => (add direction shape start).link.addStates 1

end Automaton

/-- Whether an automaton for an expression would be too large. -/
def RegexShape.isTooLarge (shape : RegexShape) : Bool :=
  (Automaton.draft .forward shape).isTooLarge || (Automaton.draft .backward shape).isTooLarge

end Sift
