/-
# Automata under construction

Of an automaton only its size counts: how many states it has and how many bytes they take. Every
state takes the same, and besides that a branching state takes something for each transition and a
fork something for each way on. Parts are built one after the other; the state in which a part ends
goes on to the next part, which is one more way on if that state is a fork.

Key definitions: `Draft`, `Draft.followedBy`, `Draft.copies`.
-/

namespace Sift.Automaton

/-- In which direction an automaton reads a text. -/
inductive Direction where
  | forward
  | backward
deriving DecidableEq

/-- What a state takes. -/
def stateSize : Nat := 32

/-- What a transition of a branching state takes. -/
def transitionSize : Nat := 8

/-- What a way on from a fork takes. -/
def waySize : Nat := 4

/-- How many bytes an automaton may take. -/
def sizeLimit : Nat := 10485760

/-- An automaton under construction. -/
structure Draft where
  states : Nat
  bytes : Nat
  /-- Whether the part that was built last ends in a fork. -/
  endsInFork : Bool

namespace Draft

/-- An automaton without states. -/
def start : Draft := ⟨0, 0, false⟩

/-- Whether an automaton is larger than allowed. -/
def isTooLarge (draft : Draft) : Bool :=
  sizeLimit < draft.bytes

/-- More states with a single way on, or forks whose ways on are added later. -/
def addStates (count : Nat) (draft : Draft) : Draft :=
  { draft with
    states := draft.states + count
    bytes := draft.bytes + count * stateSize }

/-- One more state that branches by the next byte. -/
def addBranching (transitions : Nat) (draft : Draft) : Draft :=
  { draft with
    states := draft.states + 1
    bytes := draft.bytes + stateSize + transitions * transitionSize }

/-- More ways on from forks. -/
def addWays (count : Nat) (draft : Draft) : Draft :=
  { draft with bytes := draft.bytes + count * waySize }

/-- Lets the part that was built last go on to some state. -/
def link (draft : Draft) : Draft :=
  if draft.endsInFork then draft.addWays 1 else draft

/-- Says whether the part that was built last ends in a fork. -/
def endingInFork (endsInFork : Bool) (draft : Draft) : Draft :=
  { draft with endsInFork := endsInFork }

/-- Another part after the one that was built last. -/
def followedBy (build : Draft → Draft) (draft : Draft) : Draft :=
  build draft.link

/-- Several copies of a part one after the other. Once the automaton is too large, the rest is left
out. -/
def copies (build : Draft → Draft) : Nat → Draft → Draft
  | 0, draft => draft
  | count + 1, draft =>
    if draft.isTooLarge then draft else copies build count (draft.followedBy build)

end Draft

end Sift.Automaton
