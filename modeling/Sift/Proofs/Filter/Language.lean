/-
# The texts that denote filters

A text denotes a filter exactly when it is, without its outer white space, a spelling of the filter by
the grammar. Because a text is read as at most one filter, it follows that the grammar with its runs
and borders is unambiguous.

Key theorems: `spells_of_parse`, `parse_of_spells`, `parse_eq_ok_iff_spells`.
-/
import Sift.Proofs.Filter.Completeness
import Sift.Proofs.Filter.Soundness
import Sift.Proofs.Text.Trim

namespace Sift.Filter

/-- A stretch of tokens is a part of the text in front of the rest. -/
theorem Spaced.exists_append : ∀ {afterNot : Bool} {tokens : List Token} {text rest : List Char},
    Spaced afterNot tokens text rest → ∃ front, text = front ++ rest
  | _, [], _, _, h => ⟨[], h⟩
  | _, _ :: _, _, _, ⟨gap, after, htext, _, _, htokens⟩ => by
    obtain ⟨front, rfl⟩ := htokens.exists_append
    exact ⟨gap ++ (Token.text _ ++ front), by simpa using htext⟩

/-- A spelling begins with a parenthesis, or with the name of a field or the keyword NOT. -/
theorem Derives.exists_beginsWith {level : Level} {tokens : List Token} {filter : Filter}
    (h : Derives level tokens filter) : ∃ token more c, tokens = token :: more ∧
      token.BeginsWith c ∧ (c = '(' ∨ Cursor.isNameCharacter c = true) := by
  induction h with
  | or _ _ ih _ | and _ _ ih _ =>
    obtain ⟨token, more, c, rfl, hc⟩ := ih
    exact ⟨token, _, c, rfl, hc⟩
  | ofConjunction _ ih | ofNegation _ ih | ofPrimary _ ih => exact ih
  | not _ _ =>
    obtain ⟨c, hc, hname, -⟩ := beginsWith_keyword .not
    exact ⟨_, _, c, rfl, hc, .inr hname⟩
  | group _ _ => exact ⟨_, _, _, rfl, beginsWith_opening, .inl rfl⟩
  | predicate hname _ =>
    obtain ⟨c, hc, hname⟩ := beginsWith_of_isName hname
    exact ⟨_, _, c, rfl, hc, .inr hname⟩

/-- The empty text spells no filter. -/
theorem Spells.ne_nil {text : List Char} {filter : Filter} (h : Spells text filter) : text ≠ [] := by
  obtain ⟨tokens, hderives, hspaced⟩ := h
  obtain ⟨token, more, c, rfl, hc, -⟩ := hderives.exists_beginsWith
  have hhead := head_of_spaced_cons hc hspaced
  rintro rfl
  cases hhead

/-- A text that is read as a filter spells it. -/
theorem spells_of_parse {text : String} {filter : Filter} (h : parse text = .ok filter) :
    Spells (Text.trim text.toList) filter := by
  unfold parse parseFrom at h
  split at h
  next => cases h
  next =>
    unfold parseRest at h
    split at h
    next => cases h
    next filter' after hread =>
      dsimp only at h
      split at h
      next hend =>
        cases h
        obtain ⟨tokens, gap, hgap, hderives, hspaced⟩ := begins_of_readDisjunction _ hread
        refine ⟨tokens, hderives, ?_⟩
        obtain ⟨front, hfront⟩ := hspaced.exists_append
        have hrest : ∀ c ∈ gap ++ after.rest, Text.isGap c = true := by
          intro c hc
          obtain ⟨gap', hgap', hafter⟩ := Text.exists_gap after.rest
          rw [show after.rest.dropWhile Text.isGap = [] from List.isEmpty_iff.mp hend,
            List.append_nil] at hafter
          exact (List.mem_append.mp hc).elim (hgap c) fun h => hgap' c (hafter ▸ h)
        rw [Text.eq_nil_of_trim_eq_append hfront hrest] at hspaced
        exact hspaced
      next => cases h

/-- A text that spells a filter is read as it. -/
theorem parse_of_spells {text : String} {filter : Filter}
    (h : Spells (Text.trim text.toList) filter) : parse text = .ok filter := by
  have hne : (Text.trim text.toList).isEmpty = false := List.isEmpty_eq_false_iff.mpr h.ne_nil
  obtain ⟨tokens, hderives, hspaced⟩ := h
  obtain ⟨next, hnext, hrest⟩ := reads_of_derives hderives
    (show Spaced false tokens (startCursor text.toList).rest [] from hspaced) (fun _ => rfl) stops_nil
    fun _ => not_keywordAhead_nil (by decide)
  have hor : ¬ Cursor.KeywordAhead Keyword.or.text next.rest :=
    mt (keywordAhead_congr hrest).mp (not_keywordAhead_nil (by decide))
  have hread : (readDisjunction (startCursor text.toList)).1 = (.ok filter, next.skipGap) := by
    rw [hnext, readMoreOr_of_not_ahead hor]
  unfold parse parseFrom
  rw [hne]
  simp only [Bool.false_eq_true, ↓reduceIte, parseRest, hread, Cursor.skipGap_skipGap]
  rw [if_pos]
  exact List.isEmpty_iff.mpr hrest

/-- **The texts of a filter.** A text is read as a filter exactly when it spells the filter, without
the white space around it. -/
theorem parse_eq_ok_iff_spells (text : String) (filter : Filter) :
    parse text = .ok filter ↔ Spells (Text.trim text.toList) filter :=
  ⟨spells_of_parse, parse_of_spells⟩

end Sift.Filter
