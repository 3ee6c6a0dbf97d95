/-
# How a cursor moves on

Every operation leaves the cursor further on in the same text: what it has passed over is what stood in
front of what is left, and its position has grown by the bytes of that. So an operation that leaves as
much as there was leaves the cursor where it is.

Key definition: `Cursor.LeadsTo`.
Key theorems: `isValid_byteLength`, `Cursor.LeadsTo.eq_or_left_lt`, `Cursor.LeadsTo.finish_eq`, `Cursor.leadsTo_matchText`,
`Cursor.leadsTo_matchKeyword`, `Cursor.leadsTo_readIdentifier`, `Cursor.leadsTo_readNumber`,
`Cursor.leadsTo_readQuoted`.
-/
import Sift.Text.Cursor

namespace Sift

theorem byteLength_append : ∀ front back : List Char,
    byteLength (front ++ back) = byteLength front + byteLength back
  | [], back => (Nat.zero_add _).symm
  | c :: front, back => by
    rw [List.cons_append, byteLength, byteLength, byteLength_append front back, Nat.add_assoc]

/-- Every character takes at least one byte. -/
theorem length_le_byteLength : ∀ text : List Char, text.length ≤ byteLength text
  | [] => Nat.le_refl _
  | c :: text => by
    have hc := c.utf8Size_pos
    have htext := length_le_byteLength text
    rw [List.length_cons, byteLength]
    omega

theorem utf8ByteSize_ofList : ∀ text : List Char,
    (String.ofList text).utf8ByteSize = byteLength text
  | [] => rfl
  | c :: text => by
    have hsplit : String.ofList (c :: text) = String.singleton c ++ String.ofList text := by simp
    rw [hsplit, String.utf8ByteSize_append, String.utf8ByteSize_singleton, utf8ByteSize_ofList text,
      byteLength]

/-- So many bytes as stand in front of a place of a text are the offset of a character. -/
theorem isValid_byteLength {text : String} {front back : List Char}
    (h : text.toList = front ++ back) : (⟨byteLength front⟩ : String.Pos.Raw).IsValid text := by
  refine String.Pos.Raw.isValid_iff_exists_append.mpr ⟨.ofList front, .ofList back, ?_, ?_⟩
  · rw [← String.ofList_append, ← h, String.ofList_toList]
  · rw [← utf8ByteSize_ofList]
    rfl

namespace Cursor

/-- Whether a cursor is at the same place of a text as another one or further on. -/
def LeadsTo (cursor next : Cursor) : Prop :=
  ∃ passed, cursor.rest = passed ++ next.rest ∧
    next.position = cursor.position + byteLength passed

/-- The position of the end of the text. -/
def finish (cursor : Cursor) : Nat :=
  cursor.position + byteLength cursor.rest

variable {cursor next last : Cursor}

theorem leadsTo_refl (cursor : Cursor) : cursor.LeadsTo cursor := ⟨[], rfl, rfl⟩

theorem LeadsTo.trans (h : cursor.LeadsTo next) (h' : next.LeadsTo last) : cursor.LeadsTo last := by
  obtain ⟨passed, hrest, hposition⟩ := h
  obtain ⟨passed', hrest', hposition'⟩ := h'
  refine ⟨passed ++ passed', ?_, ?_⟩
  · rw [hrest, hrest', List.append_assoc]
  · rw [hposition', hposition, byteLength_append, Nat.add_assoc]

/-- A cursor that moves on has the same end ahead. -/
theorem LeadsTo.finish_eq (h : cursor.LeadsTo next) : next.finish = cursor.finish := by
  obtain ⟨passed, hrest, hposition⟩ := h
  unfold finish
  rw [hposition, hrest, byteLength_append, Nat.add_assoc]

/-- A cursor moves on past some character or not at all. -/
theorem LeadsTo.eq_or_left_lt (h : cursor.LeadsTo next) :
    next = cursor ∨ next.left < cursor.left := by
  obtain ⟨passed, hrest, hposition⟩ := h
  obtain ⟨position, rest⟩ := next
  cases passed with
  | nil => exact .inl (congr (congrArg mk hposition) hrest.symm)
  | cons c passed =>
    refine .inr ?_
    unfold left
    rw [hrest, List.length_append, List.length_cons]
    omega

theorem LeadsTo.left_le (h : cursor.LeadsTo next) : next.left ≤ cursor.left := by
  rcases h.eq_or_left_lt with rfl | hlt
  · exact Nat.le_refl _
  · exact Nat.le_of_lt hlt

/-- The cursor of a pair, once the pair is known. -/
theorem leadsTo_of_eq {α : Type} {pair : α × Cursor} {a : α} (h : pair = (a, next))
    (hpair : cursor.LeadsTo pair.2) : cursor.LeadsTo next := by
  rwa [h] at hpair

/-! ### The operations -/

theorem leadsTo_drop (count : Nat) (cursor : Cursor) : cursor.LeadsTo (cursor.drop count) :=
  ⟨cursor.rest.take count, (List.take_append_drop count cursor.rest).symm, rfl⟩

theorem leadsTo_dropWhile (test : Char → Bool) (cursor : Cursor) :
    cursor.LeadsTo (cursor.dropWhile test) :=
  ⟨cursor.rest.takeWhile test, List.takeWhile_append_dropWhile.symm, rfl⟩

theorem leadsTo_skipGap (cursor : Cursor) : cursor.LeadsTo cursor.skipGap :=
  leadsTo_dropWhile Text.isGap cursor

theorem leadsTo_matchText (text : List Char) (cursor : Cursor) :
    cursor.LeadsTo (cursor.matchText text).2 := by
  simp only [matchText]
  split
  · exact (leadsTo_skipGap cursor).trans (leadsTo_drop _ _)
  · exact leadsTo_skipGap cursor

theorem leadsTo_matchKeyword (keyword : List Char) (cursor : Cursor) :
    cursor.LeadsTo (cursor.matchKeyword keyword).2 := by
  simp only [matchKeyword]
  split
  · exact (leadsTo_skipGap cursor).trans (leadsTo_drop _ _)
  · exact leadsTo_skipGap cursor

theorem leadsTo_readIdentifier (cursor : Cursor) : cursor.LeadsTo cursor.readIdentifier.2 :=
  (leadsTo_skipGap cursor).trans (leadsTo_dropWhile isNameCharacter cursor.skipGap)

theorem leadsTo_readNumber (cursor : Cursor) : cursor.LeadsTo cursor.readNumber.2 :=
  (leadsTo_skipGap cursor).trans (leadsTo_dropWhile isTokenCharacter cursor.skipGap)

theorem leadsTo_readQuoted (cursor : Cursor) : cursor.LeadsTo cursor.readQuoted.2 := by
  have hgap := leadsTo_skipGap cursor
  simp only [readQuoted]
  split
  · split
    · exact hgap.trans (leadsTo_drop _ _)
    · exact hgap
  · exact hgap

end Cursor

end Sift
