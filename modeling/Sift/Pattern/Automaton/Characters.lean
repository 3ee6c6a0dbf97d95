/-
# Automata for sets of characters

A set of characters becomes an automaton over bytes that shares equal states: when a state is about
to be added, it is looked up among the states that the same set has led to so far. They are kept in
a table with a fixed number of slots, where a state takes the place of another one whose key has the
same hash, so that not every state that could be shared is.

Reading forward, a state is a choice of a byte and equal choices are shared; reading backward, every
sequence of bytes is a path of its own, and equal ends of paths are shared.

Key definitions: `SlotTable`, `ByteTree`, `addCharacters`.
-/
import Sift.Pattern.Automaton.Draft
import Sift.Text.Utf8
import Std.Data.HashMap

namespace Sift.Automaton

/-! ## Tables of states -/

/-- The hash of a key before its numbers are mixed in. -/
def emptyHash : UInt64 := 0xCBF29CE484222325

/-- Mixes a number of a key into its hash. -/
def mixHash (hash number : UInt64) : UInt64 :=
  (hash ^^^ number) * 0x100000001B3

/-- A table of states by keys with a fixed number of slots, of which each holds the key that came to
it last. -/
structure SlotTable (Key : Type) where
  slots : Nat
  entries : Std.HashMap Nat (Key × Nat)

namespace SlotTable

variable {Key : Type}

/-- A table without entries. -/
def empty (slots : Nat) : SlotTable Key := ⟨slots, {}⟩

/-- The slot of a key with the given hash. -/
def slot (table : SlotTable Key) (hash : UInt64) : Nat :=
  (hash % table.slots.toUInt64).toNat

/-- The state of a key, where the slot still holds it. -/
def find? [DecidableEq Key] (table : SlotTable Key) (slot : Nat) (key : Key) : Option Nat :=
  match table.entries[slot]? with
  | some (other, state) => if other = key then some state else none
  | none => none

/-- Puts the state of a key into a slot. -/
def insert (table : SlotTable Key) (slot : Nat) (key : Key) (state : Nat) : SlotTable Key :=
  { table with entries := table.entries.insert slot (key, state) }

end SlotTable

/-! ## Reading forward -/

/-- The sequences of bytes of a set of characters, put together where they begin alike. A tree is
either the end of a sequence or a choice of a range of bytes with what stands below it, after the
choices before it. -/
inductive ByteTree where
  | leaf
  | branch (range : ByteRange) (below before : ByteTree)

namespace ByteTree

/-- One more sequence, which begins like the last one of the tree or stands after all of it. -/
def insert : ByteTree → List ByteRange → ByteTree
  | tree, [] => tree
  | leaf, range :: rest => branch range (insert leaf rest) leaf
  | branch other below before, range :: rest =>
    if range = other then branch other (insert below rest) before
    else branch range (insert leaf rest) (branch other below before)

/-- The tree of some sequences in increasing order. -/
def ofSequences (sequences : List (List ByteRange)) : ByteTree :=
  sequences.foldl insert leaf

end ByteTree

/-- A range of bytes with the state that it leads to. -/
abbrev Transition := ByteRange × Nat

/-- An automaton under construction with its states that can be shared; a key has the last
transition first. -/
structure Sharing where
  draft : Draft
  table : SlotTable (List Transition)

/-- The hash of the transitions of a state, the last one first. -/
def transitionsHash : List Transition → UInt64
  | [] => emptyHash
  | (range, next) :: before =>
    mixHash (mixHash (mixHash (transitionsHash before) range.first.toUInt64) range.last.toUInt64)
      next.toUInt64

/-- The state with the given transitions, the last one first: one that is there, or a new one. -/
def Sharing.state (sharing : Sharing) (transitions : List Transition) : Nat × Sharing :=
  let slot := sharing.table.slot (transitionsHash transitions)
  match sharing.table.find? slot transitions with
  | some state => (state, sharing)
  | none =>
    let state := sharing.draft.states
    (state, ⟨sharing.draft.addBranching transitions.length,
      sharing.table.insert slot transitions state⟩)

/-- The transitions of a tree, the last one first, with the states below it; every sequence of the
tree leads to `target`. -/
def ByteTree.transitions (target : Nat) : ByteTree → Sharing → List Transition × Sharing
  | leaf, sharing => ([], sharing)
  | branch range below before, sharing =>
    let (transitions, sharing) := before.transitions target sharing
    let (inner, sharing) := below.transitions target sharing
    let (next, sharing) := if inner.isEmpty then (target, sharing) else sharing.state inner
    ((range, next) :: transitions, sharing)

/-- The slots for states that are shared when reading forward. -/
def forwardSlots : Nat := 10000

/-- Adds the states for sequences of bytes, given as a tree, that are read forward. -/
def addForward (tree : ByteTree) (draft : Draft) : Draft :=
  let sharing : Sharing := ⟨draft.addStates 1, .empty forwardSlots⟩
  let (transitions, sharing) := tree.transitions draft.states sharing
  (sharing.state transitions).2.draft

/-! ## Reading backward -/

/-- An automaton under construction with its ends of paths that can be shared. -/
structure PathSharing where
  draft : Draft
  table : SlotTable Transition

/-- The state that goes on to `next` by a byte of a range: one that is there, or a new one. -/
def PathSharing.state (sharing : PathSharing) (next : Nat) (range : ByteRange) :
    Nat × PathSharing :=
  let hash := mixHash (mixHash (mixHash emptyHash next.toUInt64) range.first.toUInt64)
    range.last.toUInt64
  let slot := sharing.table.slot hash
  match sharing.table.find? slot (range, next) with
  | some state => (state, sharing)
  | none =>
    let state := sharing.draft.states
    (state, ⟨sharing.draft.addStates 1, sharing.table.insert slot (range, next) state⟩)

/-- Adds the states of one path that leads to `next`. -/
def PathSharing.path : List ByteRange → Nat → PathSharing → PathSharing
  | [], _, sharing => sharing
  | range :: rest, next, sharing =>
    let (state, sharing) := sharing.state next range
    path rest state sharing

/-- The slots for states that are shared when reading backward. -/
def backwardSlots : Nat := 1000

/-- Adds the states for sequences of bytes that are read backward: a fork with one way on for each
sequence. -/
def addBackward (sequences : List (List ByteRange)) (draft : Draft) : Draft :=
  let sharing : PathSharing := ⟨draft.addStates 2, .empty backwardSlots⟩
  let sharing := sequences.foldl (fun sharing sequence => sharing.path sequence (draft.states + 1))
    sharing
  sharing.draft.addWays sequences.length

/-! ## Sets -/

/-- Adds the states for a set of bytes, or of characters of one byte. -/
def addBytes (ranges : Unicode.CodeRanges) (draft : Draft) : Draft :=
  (draft.addStates 1).addBranching ranges.length

/-- What adds the states for a set of characters. -/
def addCharacters (direction : Direction) (ranges : Unicode.CodeRanges) : Draft → Draft :=
  if ranges.all (·.2 < 0x80) then addBytes ranges
  else
    let sequences := Utf8.sequences ranges
    match direction with
    | .forward => addForward (ByteTree.ofSequences sequences)
    | .backward => addBackward sequences

end Sift.Automaton
