/-
# Automata for alternative words

Alternatives that are all plain words become a tree of their bytes, in which words that begin alike
share their beginnings. Since the first alternative that matches is preferred, a word that ends at a
node divides its bytes into those that are tried before and those that are tried after it.

Key definitions: `WordTree`, `WordTree.ofWords`, `addWords`.
-/
import Sift.Pattern.Automaton.Draft

namespace Sift.Automaton

/-- A node of a tree of words: its bytes with the nodes below them, and the places where words
end. -/
inductive WordTree where
  | nil
  | branch (byte : UInt8) (below rest : WordTree)
  | stop (rest : WordTree)

namespace WordTree

/-- Whether a word ends at a node. -/
def hasStop : WordTree → Bool
  | nil => false
  | branch _ _ rest => rest.hasStop
  | stop _ => true

/-- Whether a word goes on at a node. -/
def hasBranch : WordTree → Bool
  | nil => false
  | branch _ _ _ => true
  | stop rest => rest.hasBranch

/-- The node of a single word. -/
def ofWord : List UInt8 → WordTree
  | [] => stop nil
  | byte :: bytes => branch byte (ofWord bytes) nil

/-- One more word. The bytes after the last place where a word ends stand in increasing order; at a
node where words end and none goes on, no other end counts. With `whole`, the tree is a whole node
and not the rest of one. -/
def insert (whole : Bool) : WordTree → List UInt8 → WordTree
  | nil, word => ofWord word
  | stop rest, word =>
    match whole, rest, word with
    | true, nil, [] => stop nil
    | _, _, _ => stop (insert false rest word)
  | branch other below rest, word =>
    if rest.hasStop then branch other below (insert false rest word)
    else
      match word with
      | [] => branch other below (insert false rest [])
      | byte :: bytes =>
        if byte = other then branch other (insert true below bytes) rest
        else if byte < other then branch byte (ofWord bytes) (branch other below rest)
        else branch other below (insert false rest (byte :: bytes))

/-- The tree of some words. -/
def ofWords (words : List (List UInt8)) : WordTree :=
  words.foldl (insert true) nil

/-- Adds the state for bytes that are tried together. -/
def addChoice (bytes : Nat) (draft : Draft) : Draft :=
  match bytes with
  | 0 => draft
  | 1 => (draft.addStates 1).addWays 1
  | bytes => (draft.addBranching bytes).addWays 1

/-- Adds the states for a node and the nodes below it, after `bytes` bytes that are tried together
with the first ones: a fork for the node, which has a way on for each choice of bytes and for each
word that ends. -/
def build (bytes : Nat) : WordTree → Draft → Draft
  | nil, draft => (addChoice bytes draft).addStates 1
  | branch _ below rest, draft =>
    let draft := if below.hasBranch then below.build 0 draft else draft
    rest.build (bytes + 1) draft
  | stop rest, draft => rest.build 0 ((addChoice bytes draft).addWays 1)

end WordTree

/-- Adds the states for alternative words. -/
def addWords (direction : Direction) (words : List (List UInt8)) (draft : Draft) : Draft :=
  let words :=
    match direction with
    | .forward => words
    | .backward => words.map List.reverse
  (WordTree.ofWords words).build 0 (draft.addStates 1)

end Sift.Automaton
