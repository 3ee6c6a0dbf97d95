/-
# How large automata of wildcard patterns are

What is added to an automaton for one character of a wildcard pattern has a bounded size, for a state
that is shared takes nothing and one that is not shared takes what its transitions take. So the
automata of a wildcard pattern grow with its length at most, and those of patterns of up to 5000
characters are not too large.

Key definitions: `Automaton.AddsAtMost`, `Automaton.partSize`.
Key theorems: `Automaton.addsAtMost_addForward`, `Automaton.addsAtMost_addBackward`,
`Pattern.isTooLarge_likePart`.
-/
import Sift.Proofs.Pattern.WildcardText

namespace Sift

/-! ### Sets of one character -/

namespace Unicode.CodeRanges

/-- The code points other than one are those before it and those behind it. -/
theorem compl_single (n : Nat) : compl [(n, n)] =
    (if 0 < n then [(0, n - 1)] else []) ++ if n < 0x10FFFF then [(n + 1, 0x10FFFF)] else [] := by
  grind [compl, complFrom]

/-- The surrogates are among the code points other than a character. -/
theorem union_compl_single {n : Nat} (h : n.isValidChar) :
    union (compl [(n, n)]) surrogates = compl [(n, n)] := by
  unfold Nat.isValidChar at h
  rw [compl_single]
  unfold union surrogates
  by_cases hzero : 0 < n
  · by_cases hmax : n < 0x10FFFF
    · rw [if_pos hzero, if_pos hmax, List.singleton_append]
      by_cases hlow : n < 0xD800
      · have hmerge : [(0, n - 1), (n + 1, 0x10FFFF)].merge [(0xD800, 0xDFFF)] startsBefore =
            [(0, n - 1), (n + 1, 0x10FFFF), (0xD800, 0xDFFF)] := by
          grind [List.cons_merge_cons, List.nil_merge, startsBefore]
        rw [hmerge]
        grind [join, joinFrom]
      · have hmerge : [(0, n - 1), (n + 1, 0x10FFFF)].merge [(0xD800, 0xDFFF)] startsBefore =
            [(0, n - 1), (0xD800, 0xDFFF), (n + 1, 0x10FFFF)] := by
          grind [List.cons_merge_cons, List.merge_right, startsBefore]
        rw [hmerge]
        grind [join, joinFrom]
    · obtain rfl : n = 0x10FFFF := by omega
      simp [startsBefore, join, joinFrom]
  · obtain rfl : n = 0 := by omega
    simp [startsBefore, join, joinFrom]

theorem diff_surrogates_single {n : Nat} (h : n.isValidChar) :
    diff [(n, n)] surrogates = [(n, n)] := by
  unfold diff
  rw [union_compl_single h, compl_single]
  unfold Nat.isValidChar at h
  grind [compl, complFrom]

end Unicode.CodeRanges

theorem RegexShape.ofSet_single (c : Char) : ofSet true (.single c) = .literal [c] := by
  have hranges : (CharSet.single c).codeRanges = [(c.toNat, c.toNat)] :=
    Unicode.CodeRanges.diff_surrogates_single c.valid
  unfold ofSet
  rw [hranges]
  show (if c.toNat = c.toNat then literal [Char.ofNat c.toNat] else _) = _
  rw [if_pos rfl, Char.ofNat_toNat]

namespace Automaton

/-! ### What building adds -/

/-- Whether building on an automaton adds at most so many bytes. -/
def AddsAtMost (build : Draft → Draft) (size : Nat) : Prop :=
  ∀ draft, (build draft).bytes ≤ draft.bytes + size

@[simp] theorem Draft.bytes_addStates (count : Nat) (draft : Draft) :
    (draft.addStates count).bytes = draft.bytes + count * stateSize := rfl

@[simp] theorem Draft.bytes_addBranching (transitions : Nat) (draft : Draft) :
    (draft.addBranching transitions).bytes =
      draft.bytes + stateSize + transitions * transitionSize := rfl

@[simp] theorem Draft.bytes_addWays (count : Nat) (draft : Draft) :
    (draft.addWays count).bytes = draft.bytes + count * waySize := rfl

@[simp] theorem Draft.bytes_endingInFork (endsInFork : Bool) (draft : Draft) :
    (draft.endingInFork endsInFork).bytes = draft.bytes := rfl

theorem Draft.bytes_link_le (draft : Draft) : draft.link.bytes ≤ draft.bytes + waySize := by
  unfold link
  split
  · exact Nat.le_of_eq (by rw [bytes_addWays, Nat.one_mul])
  · exact Nat.le_add_right _ _

theorem AddsAtMost.mono {build : Draft → Draft} {size size' : Nat} (h : AddsAtMost build size)
    (hle : size ≤ size') : AddsAtMost build size' :=
  fun draft => Nat.le_trans (h draft) (Nat.add_le_add_left hle _)

theorem AddsAtMost.followedBy {build : Draft → Draft} {size : Nat} (h : AddsAtMost build size) :
    AddsAtMost (Draft.followedBy build) (size + waySize) := by
  intro draft
  have hlink := draft.bytes_link_le
  have hbuild := h draft.link
  unfold Draft.followedBy
  omega

/-! ### Sets of characters read forward -/

/-- The number of choices at a node of a tree. -/
def ByteTree.width : ByteTree → Nat
  | leaf => 0
  | branch _ _ before => before.width + 1

/-- What the states below a node of a tree take when none of them is shared. -/
def ByteTree.size : ByteTree → Nat
  | leaf => 0
  | branch _ below before =>
    before.size + (below.size + (stateSize + below.width * transitionSize))

theorem Sharing.bytes_state_le (sharing : Sharing) (transitions : List Transition) :
    (sharing.state transitions).2.draft.bytes ≤
      sharing.draft.bytes + (stateSize + transitions.length * transitionSize) := by
  unfold Sharing.state
  dsimp only
  split
  · exact Nat.le_add_right _ _
  · exact Nat.le_of_eq (by rw [Draft.bytes_addBranching, Nat.add_assoc])

/-- A node gives a transition for each choice, and the states below it take no more than they would
if none were shared. -/
theorem ByteTree.transitions_spec (target : Nat) (tree : ByteTree) (sharing : Sharing) :
    (tree.transitions target sharing).1.length = tree.width ∧
      (tree.transitions target sharing).2.draft.bytes ≤ sharing.draft.bytes + tree.size := by
  induction tree generalizing sharing with
  | leaf => exact ⟨rfl, Nat.le_refl _⟩
  | branch range below before ihbelow ihbefore =>
    unfold ByteTree.transitions ByteTree.width ByteTree.size
    dsimp only
    obtain ⟨hwidth, hbefore⟩ := ihbefore sharing
    generalize before.transitions target sharing = first at hwidth hbefore ⊢
    obtain ⟨hinner, hbelow⟩ := ihbelow first.2
    generalize below.transitions target first.2 = inner at hinner hbelow ⊢
    refine ⟨congrArg (· + 1) hwidth, ?_⟩
    split
    · dsimp only
      omega
    · have hstate := inner.2.bytes_state_le inner.1
      rw [hinner] at hstate
      omega

theorem addsAtMost_addForward (tree : ByteTree) : AddsAtMost (addForward tree)
    (stateSize + (tree.size + (stateSize + tree.width * transitionSize))) := by
  intro draft
  obtain ⟨hwidth, htree⟩ :=
    tree.transitions_spec draft.states ⟨draft.addStates 1, .empty forwardSlots⟩
  rw [Draft.bytes_addStates, Nat.one_mul] at htree
  unfold addForward
  dsimp only
  generalize tree.transitions draft.states _ = node at hwidth htree ⊢
  have hstate := node.2.bytes_state_le node.1
  rw [hwidth] at hstate
  omega

/-! ### Sets of characters read backward -/

theorem PathSharing.bytes_state_le (sharing : PathSharing) (next : Nat) (range : ByteRange) :
    (sharing.state next range).2.draft.bytes ≤ sharing.draft.bytes + stateSize := by
  unfold PathSharing.state
  dsimp only
  split
  · exact Nat.le_add_right _ _
  · exact Nat.le_of_eq (by rw [Draft.bytes_addStates, Nat.one_mul])

theorem PathSharing.bytes_path_le (ranges : List ByteRange) (next : Nat) (sharing : PathSharing) :
    (sharing.path ranges next).draft.bytes ≤ sharing.draft.bytes + ranges.length * stateSize := by
  induction ranges generalizing next sharing with
  | nil => exact Nat.le_add_right _ _
  | cons range ranges ih =>
    have hstate := sharing.bytes_state_le next range
    have hpath := ih (sharing.state next range).1 (sharing.state next range).2
    rw [List.length_cons, Nat.succ_mul]
    unfold PathSharing.path
    dsimp only
    omega

theorem PathSharing.bytes_foldl_path_le (target : Nat) (sequences : List (List ByteRange))
    (sharing : PathSharing) :
    (sequences.foldl (fun sharing sequence => sharing.path sequence target) sharing).draft.bytes ≤
      sharing.draft.bytes + sequences.flatten.length * stateSize := by
  induction sequences generalizing sharing with
  | nil => exact Nat.le_add_right _ _
  | cons sequence sequences ih =>
    have hpath := sharing.bytes_path_le sequence target
    have hrest := ih (sharing.path sequence target)
    rw [List.flatten_cons, List.length_append, Nat.add_mul, List.foldl_cons]
    omega

theorem addsAtMost_addBackward (sequences : List (List ByteRange)) :
    AddsAtMost (addBackward sequences) (2 * stateSize +
      (sequences.flatten.length * stateSize + sequences.length * waySize)) := by
  intro draft
  have hpaths := PathSharing.bytes_foldl_path_le (draft.states + 1) sequences
    ⟨draft.addStates 2, .empty backwardSlots⟩
  rw [Draft.bytes_addStates] at hpaths
  unfold addBackward
  dsimp only
  rw [Draft.bytes_addWays]
  omega

/-! ### The parts of a wildcard pattern -/

/-- What a part of a wildcard pattern adds at most. -/
def partSize : RegexShape → Nat
  | .literal cs => 128 * cs.length
  | .look _ => stateSize
  | _ => 2000

/-- Whether a part adds no more than that, read in either direction. -/
def Bounded (part : RegexShape) : Prop :=
  ∀ direction, AddsAtMost (add direction part) (partSize part)

theorem bounded_look (a : Assertion) : Bounded (.look a) := by
  intro direction draft
  unfold add
  exact Nat.le_of_eq (by rw [Draft.bytes_endingInFork, Draft.bytes_addStates, Nat.one_mul, partSize])

/-- The encoding of a character has at most four bytes. -/
theorem length_flatMap_utf8EncodeChar_le (cs : List Char) :
    (cs.flatMap String.utf8EncodeChar).length ≤ 4 * cs.length := by
  induction cs with
  | nil => exact Nat.le_refl _
  | cons c cs ih =>
    have hchar : (String.utf8EncodeChar c).length ≤ 4 := by
      rw [String.length_utf8EncodeChar]
      exact Char.utf8Size_le_four c
    rw [List.flatMap_cons, List.length_append, List.length_cons]
    omega

theorem bounded_literal (cs : List Char) : Bounded (.literal cs) := by
  intro direction draft
  have hbytes := length_flatMap_utf8EncodeChar_le cs
  unfold add
  rw [Draft.bytes_endingInFork, Draft.bytes_addStates]
  show _ ≤ _ + 128 * cs.length
  unfold stateSize
  omega

/-- The set of all characters adds few states in either direction. -/
theorem addsAtMost_any (direction : Direction) :
    AddsAtMost (add direction (RegexShape.ofSet true .any)) 1900 := by
  rw [RegexShape.ofSet_any]
  intro draft
  unfold add
  rw [Draft.bytes_endingInFork]
  unfold addCharacters
  rw [if_neg (by decide)]
  cases direction with
  | forward => exact (addsAtMost_addForward _).mono (by decide +kernel) draft
  | backward => exact (addsAtMost_addBackward _).mono (by decide +kernel) draft

theorem bounded_any : Bounded (RegexShape.ofSet true .any) := by
  intro direction
  have hany := addsAtMost_any direction
  rw [RegexShape.ofSet_any] at hany ⊢
  exact hany.mono (by decide)

theorem bounded_any_times : Bounded (.times 0 none true (RegexShape.ofSet true .any)) := by
  intro direction draft
  have htakes : (RegexShape.ofSet true .any).takesSomething = true := by
    rw [RegexShape.ofSet_any]
    decide
  have hany := addsAtMost_any direction ((draft.addStates 1).endingInFork false)
  have hlink := (add direction (RegexShape.ofSet true .any)
    ((draft.addStates 1).endingInFork false)).bytes_link_le
  rw [Draft.bytes_endingInFork, Draft.bytes_addStates] at hany
  unfold add addTimes addAnyTimes
  rw [htakes, if_pos rfl, Draft.bytes_endingInFork, Draft.bytes_addWays]
  show _ ≤ _ + 2000
  unfold stateSize at hany
  unfold waySize at hlink ⊢
  omega

/-! ### Sequences of parts -/

/-- What parts one after the other add at most. -/
def partsSize : List RegexShape → Nat
  | [] => 0
  | part :: parts => partSize part + waySize + partsSize parts

theorem partsSize_cons (part : RegexShape) (parts : List RegexShape) :
    partsSize (part :: parts) = partSize part + waySize + partsSize parts :=
  rfl

theorem addsAtMost_addParts {parts : List RegexShape} (h : ∀ part ∈ parts, Bounded part) :
    AddsAtMost (addParts parts) (partsSize parts) := by
  induction parts with
  | nil => exact fun draft => Nat.le_refl _
  | cons part parts ih =>
    intro draft
    obtain ⟨hpart, hparts⟩ := List.forall_mem_cons.mp h
    have hfirst := (hpart .forward).followedBy draft
    have hrest := ih hparts (draft.followedBy (add .forward part))
    rw [partsSize_cons]
    unfold addParts
    omega

theorem addsAtMost_addPartsBackward {parts : List RegexShape} (h : ∀ part ∈ parts, Bounded part) :
    AddsAtMost (addPartsBackward parts) (partsSize parts) := by
  induction parts with
  | nil => exact fun draft => Nat.le_refl _
  | cons part parts ih =>
    intro draft
    obtain ⟨hpart, hparts⟩ := List.forall_mem_cons.mp h
    have hrest := ih hparts draft
    have hfirst := (hpart .backward).followedBy (addPartsBackward parts draft)
    rw [partsSize_cons]
    unfold addPartsBackward
    omega

theorem addsAtMost_cat (direction : Direction) {parts : List RegexShape}
    (h : ∀ part ∈ parts, Bounded part) :
    AddsAtMost (add direction (.cat parts)) (partsSize parts) := by
  intro draft
  unfold add
  cases direction with
  | forward => exact addsAtMost_addParts h (draft.endingInFork false)
  | backward => exact addsAtMost_addPartsBackward h (draft.endingInFork false)

/-- Literals that join add no more than they do apart. -/
theorem consPart_spec {part : RegexShape} {rest : List RegexShape} (hpart : Bounded part)
    (hrest : ∀ part ∈ rest, Bounded part) :
    (∀ joined ∈ RegexShape.consPart part rest, Bounded joined) ∧
      partsSize (RegexShape.consPart part rest) ≤ partsSize (part :: rest) := by
  fun_cases RegexShape.consPart part rest with
  | case1 cs ds rest =>
    obtain ⟨-, hrest⟩ := List.forall_mem_cons.mp hrest
    refine ⟨List.forall_mem_cons.mpr ⟨bounded_literal _, hrest⟩, ?_⟩
    rw [partsSize_cons, partsSize_cons, partsSize_cons]
    show 128 * (cs ++ ds).length + _ + _ ≤ 128 * cs.length + _ + (128 * ds.length + _ + _)
    rw [List.length_append]
    omega
  | case2 => exact ⟨List.forall_mem_cons.mpr ⟨hpart, hrest⟩, Nat.le_refl _⟩

theorem foldr_consPart_spec {parts : List RegexShape} (h : ∀ part ∈ parts, Bounded part) :
    (∀ part ∈ parts.foldr RegexShape.consPart [], Bounded part) ∧
      partsSize (parts.foldr RegexShape.consPart []) ≤ partsSize parts := by
  induction parts with
  | nil => exact ⟨h, Nat.le_refl _⟩
  | cons part parts ih =>
    obtain ⟨hpart, hparts⟩ := List.forall_mem_cons.mp h
    obtain ⟨hrest, hsize⟩ := ih hparts
    obtain ⟨hall, hle⟩ := consPart_spec hpart hrest
    rw [List.foldr_cons]
    refine ⟨hall, Nat.le_trans hle ?_⟩
    rw [partsSize_cons, partsSize_cons]
    exact Nat.add_le_add_left hsize _

theorem addsAtMost_sequence (direction : Direction) {shapes : List RegexShape}
    (h : ∀ part ∈ shapes.flatMap RegexShape.parts, Bounded part) :
    AddsAtMost (add direction (.sequence shapes))
      (stateSize + partsSize (shapes.flatMap RegexShape.parts)) := by
  obtain ⟨hall, hsize⟩ := foldr_consPart_spec h
  unfold RegexShape.sequence
  generalize (shapes.flatMap RegexShape.parts).foldr RegexShape.consPart [] = parts at hall hsize
  split
  next =>
    intro draft
    unfold add
    rw [Draft.bytes_endingInFork, Draft.bytes_addStates]
    omega
  next part =>
    rw [partsSize_cons] at hsize
    exact (hall part List.mem_cons_self direction).mono (by omega)
  next => exact (addsAtMost_cat direction hall).mono (by omega)

/-! ### Whole automata -/

theorem bytes_draft_le (direction : Direction) {shape : RegexShape} {size : Nat}
    (h : AddsAtMost (add direction shape) size) : (draft direction shape).bytes ≤ size + 300 := by
  have hstart : ∀ anchored : Bool, (if anchored = true then Draft.start.addStates 1
      else ((Draft.start.addStates 2).addBranching 1).addWays 2).bytes ≤ 112 := by decide
  unfold draft
  dsimp only
  cases direction with
  | forward =>
    dsimp only
    have hbegin := hstart (shape.beginsWith .textStart)
    generalize (if shape.beginsWith .textStart = true then _ else _ : Draft) = start at hbegin ⊢
    have hadd := h (start.addStates 1)
    have hlink := (add .forward shape (start.addStates 1)).bytes_link_le
    rw [Draft.bytes_addStates] at hadd ⊢
    unfold stateSize at hadd ⊢
    unfold waySize at hlink
    omega
  | backward =>
    dsimp only
    have hbegin := hstart (shape.endsWith .textEnd)
    generalize (if shape.endsWith .textEnd = true then _ else _ : Draft) = start at hbegin ⊢
    have hadd := h start
    have hlink := (add .backward shape start).bytes_link_le
    rw [Draft.bytes_addStates]
    unfold stateSize
    unfold waySize at hlink
    omega

end Automaton

namespace Pattern

open Automaton

/-- The shape of a part of a wildcard pattern is a single part of bounded size. -/
theorem parts_wildcardPart (c : Char) : ∃ part, (wildcardPart c).shape.parts = [part] ∧
    Bounded part ∧ partSize part ≤ 2000 := by
  unfold wildcardPart
  by_cases hpercent : c = '%'
  · rw [if_pos hpercent, times_ofSet_any]
    exact ⟨_, rfl, bounded_any_times, Nat.le_refl _⟩
  rw [if_neg hpercent]
  by_cases hunderscore : c = '_'
  · rw [if_pos hunderscore]
    have hshape : (RegexPart.ofSet wildcardFlags .any).shape = RegexShape.ofSet true .any := rfl
    have hbounded := bounded_any
    rw [RegexShape.ofSet_any] at hshape hbounded
    rw [hshape]
    exact ⟨_, rfl, hbounded, Nat.le_refl _⟩
  · rw [if_neg hunderscore]
    have hshape : (RegexPart.ofSet wildcardFlags (.single c)).shape = .literal [c] :=
      RegexShape.ofSet_single c
    rw [hshape]
    exact ⟨_, rfl, bounded_literal _, (by decide : 128 ≤ 2000)⟩

/-- The shapes that come after the anchor at the start in a written expression. -/
def sourceShapes (source : List Char) : List RegexShape :=
  (source.map fun c => (wildcardPart c).shape) ++ [.look .textEnd]

theorem shape_likePart (source : List Char) : (likePart source).shape =
    .sequence (.empty :: .look .textStart :: sourceShapes source) := by
  show RegexShape.sequence (List.map _ _) = _
  rw [List.map_cons, List.map_cons, List.map_append, List.map_map]
  rfl

theorem parts_sourceShapes (source : List Char) :
    (∀ part ∈ (sourceShapes source).flatMap RegexShape.parts, Bounded part) ∧
      partsSize ((sourceShapes source).flatMap RegexShape.parts) ≤ source.length * 2004 + 36 := by
  induction source with
  | nil => exact ⟨List.forall_mem_singleton.mpr (bounded_look _), by decide⟩
  | cons c source ih =>
    obtain ⟨hall, hsize⟩ := ih
    obtain ⟨part, hparts, hpart, hle⟩ := parts_wildcardPart c
    have hcons : (sourceShapes (c :: source)).flatMap RegexShape.parts =
        part :: (sourceShapes source).flatMap RegexShape.parts := by
      show ((wildcardPart c).shape :: sourceShapes source).flatMap RegexShape.parts = _
      rw [List.flatMap_cons, hparts, List.singleton_append]
    rw [hcons, partsSize_cons, List.length_cons]
    refine ⟨List.forall_mem_cons.mpr ⟨hpart, hall⟩, ?_⟩
    unfold waySize
    omega

/-- **Wildcard patterns of up to 5000 characters are not too large.** -/
theorem isTooLarge_likePart {source : List Char} (h : source.length ≤ 5000) :
    (likePart source).shape.isTooLarge = false := by
  obtain ⟨hall, hsize⟩ := parts_sourceShapes source
  have hparts : (.empty :: .look .textStart :: sourceShapes source).flatMap RegexShape.parts =
      .look .textStart :: (sourceShapes source).flatMap RegexShape.parts := rfl
  have hbounded : ∀ part ∈ (.empty :: .look .textStart :: sourceShapes source).flatMap
      RegexShape.parts, Bounded part := by
    rw [hparts]
    exact List.forall_mem_cons.mpr ⟨bounded_look _, hall⟩
  have hdraft (direction : Direction) :
      (draft direction (likePart source).shape).bytes ≤ sizeLimit := by
    have hbytes := bytes_draft_le direction (addsAtMost_sequence direction hbounded)
    have hlook : partSize (.look .textStart) = stateSize := rfl
    rw [hparts, partsSize_cons, hlook] at hbytes
    rw [shape_likePart]
    unfold stateSize waySize at hbytes
    unfold sizeLimit
    omega
  unfold RegexShape.isTooLarge Draft.isTooLarge
  rw [decide_eq_false (Nat.not_lt.mpr (hdraft .forward)),
    decide_eq_false (Nat.not_lt.mpr (hdraft .backward))]
  rfl

end Pattern

end Sift
