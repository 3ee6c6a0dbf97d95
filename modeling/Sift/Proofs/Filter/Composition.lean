/-
# Texts put together from texts

A text that is read as a filter can be put in parentheses and joined to others, because each of its
tokens keeps the border that it needs when a space, a tab or a parenthesis follows in the place of the
end. In parentheses its filter is an operand of the whole. Without them OR still joins the filters, but
a disjunction on its right is grouped to the left with what stands in front, which no record tells apart
from the other grouping.

Only spaces and tabs may stand around the texts: the white space of other kinds that is trimmed off at
the ends of a whole text is not passed over within it.

Key theorems: `Spaced.append_text`, `writes_of_parse`, `exists_derives_or`, `parse_compose`.
-/
import Sift.Proofs.Filter.Canonical
import Sift.Proofs.Filter.Reparse
import Sift.Proofs.Filter.Skeleton

namespace Sift.Filter

/-! ### Texts behind a row of tokens -/

theorem head_of_endsKeyword {text : List Char} {c : Char} (h : Cursor.endsKeyword text = true)
    (hc : c ∈ text.head?) : Cursor.isNameCharacter c = false := by
  obtain ⟨text, rfl⟩ := List.head?_eq_some_iff.mp hc
  simp only [Cursor.endsKeyword, Bool.or_eq_true, beq_iff_eq] at h
  rcases h with (hgap | rfl) | rfl
  · exact (character_of_isGap hgap).1
  · decide
  · decide

/-- A token keeps its border when more text follows in front of which a keyword can end. -/
theorem Token.Borders.append_text {token : Token} {afterNot : Bool} {after more : List Char}
    (hmore : Cursor.endsKeyword more = true) (h : token.Borders afterNot after) :
    token.Borders afterNot (after ++ more) := by
  cases token with
  | keyword _ =>
    cases after with
    | nil => exact hmore
    | cons c after => exact h
  | name field =>
    obtain ⟨hname, hnot⟩ := h
    refine ⟨fun c hc => ?_, fun hfield hafterNot => ?_⟩
    · cases after with
      | nil => exact head_of_endsKeyword hmore hc
      | cons d after => exact hname c hc
    · obtain ⟨operator, hprefix⟩ := hnot hfield hafterNot
      exact ⟨operator, hprefix.trans (List.prefix_append after more)⟩
  | _ => trivial

/-- So a row of tokens stays one. -/
theorem Spaced.append_text {more : List Char} (hmore : Cursor.endsKeyword more = true) :
    ∀ {afterNot : Bool} {tokens : List Token} {text rest : List Char},
      Spaced afterNot tokens text rest → Spaced afterNot tokens (text ++ more) (rest ++ more)
  | _, [], _, _, h => congrArg (· ++ more) (spaced_nil.mp h)
  | _, _ :: _, _, _, ⟨gap, after, htext, hgap, hborders, htokens⟩ =>
    ⟨gap, after ++ more, by simp [htext], hgap, hborders.append_text hmore,
      htokens.append_text hmore⟩

/-- A text that is read as a filter spells it also in front of the border of a keyword. -/
theorem writes_of_parse {text : String} {filter : Filter} (h : parse text = .ok filter) :
    Writes .disjunction (Text.trim text.toList) filter := by
  obtain ⟨tokens, hderives, hspaced⟩ := spells_of_parse h
  refine ⟨tokens, hderives, fun {afterNot after} hafterNot hends => ?_⟩
  rw [hafterNot nofun]
  exact hspaced.append_text hends

/-! ### Disjunctions side by side -/

/-- Two disjunctions with OR between them are a disjunction with the operands of both. -/
theorem exists_derives_or {tokens : List Token} {left : Filter}
    (hleft : Derives .disjunction tokens left) :
    ∀ {more : List Token} {right : Filter}, Derives .disjunction more right →
      ∃ filter, Derives .disjunction (tokens ++ .keyword .or :: more) filter ∧
        ∀ record : Record, evaluate record filter = evaluate record (or left right)
  -- the chain on the right is joined from its first operand on, so that it groups to the left
  | _, _, .or hmiddle hlast => by
    obtain ⟨filter, hfilter, hevaluate⟩ := exists_derives_or hleft hmiddle
    refine ⟨or filter _, by simpa using hfilter.or hlast, fun record => ?_⟩
    rw [← evaluate_or_assoc, evaluate, hevaluate record]
    rfl
  | _, _, .ofConjunction hright => ⟨or left _, hleft.or hright, fun _ => rfl⟩

/-- Spellings of two disjunctions with OR between them spell a disjunction with the operands of
both. -/
theorem exists_writes_or {text text' gap gap' : List Char} {left right : Filter}
    (hgap : ∀ c ∈ gap, Text.isGap c = true) (hgap' : ∀ c ∈ gap', Text.isGap c = true)
    (hleft : Writes .disjunction text left) (hright : Writes .disjunction text' right) :
    ∃ filter, Writes .disjunction (text ++ (gap ++ " OR ".toList ++ gap' ++ text')) filter ∧
      ∀ record : Record, evaluate record filter = evaluate record (or left right) := by
  obtain ⟨tokens, hderives, hspaced⟩ := hleft
  obtain ⟨tokens', hderives', hspaced'⟩ := hright
  obtain ⟨filter, hfilter, hevaluate⟩ := exists_derives_or hderives hderives'
  refine ⟨filter, ⟨_, hfilter, fun hafterNot hends => ?_⟩, hevaluate⟩
  have hjoined := Spaced.join .or rfl hderives'.ne_nil hgap hgap'
    (hspaced fun _ => hafterNot nofun) (hspaced' (fun _ => rfl) hends)
  simp only [List.append_assoc]
  exact hjoined

/-! ### Texts around texts -/

variable {text text' : String} {filter filter' : Filter}

/-- A text with only spaces and tabs around it, in parentheses, spells its filter as a primary. -/
theorem writes_group_of_parse (h : parse text = .ok filter)
    (hgaps : Text.OnlyGapsAround text.toList) :
    Writes .primary ('(' :: (text.toList ++ [')'])) filter := by
  have hne : Text.trim text.toList ≠ [] := (spells_of_parse h).ne_nil
  obtain ⟨front, back, htext, hfront, hback⟩ := Text.exists_gaps_trim hgaps hne
  rw [htext]
  exact (writes_of_parse h).group_between hfront hback

theorem tight_group (text : List Char) : Text.Tight ('(' :: (text ++ [')'])) :=
  (tight_singleton (show Text.isBlank '(' = false by decide)).append text
    (tight_singleton (show Text.isBlank ')' = false by decide))

/-- A text without outer white space is read as the filter that it spells. -/
theorem parse_of_writes_tight {body : List Char} (htext : text.toList = body)
    (htight : Text.Tight body) (h : Writes .disjunction body filter) : parse text = .ok filter := by
  refine parse_of_writes ?_ h
  rw [htext, Text.trim_eq_self htight]

/-- A text in parentheses is read as its filter, and behind NOT as the negation of it. -/
theorem parse_group (h : parse text = .ok filter) (hgaps : Text.OnlyGapsAround text.toList) :
    parse ("(" ++ text ++ ")") = .ok filter ∧
      parse ("NOT (" ++ text ++ ")") = .ok (.not filter) := by
  have hgroup := writes_group_of_parse h hgaps
  have htight := tight_group text.toList
  constructor
  · exact parse_of_writes_tight (by simp) htight hgroup.ofPrimary.ofNegation.ofConjunction
  · have hkeyword : Text.Tight ['N', 'O', 'T'] := Text.tight_of_all (List.cons_ne_nil _ _) rfl
    exact parse_of_writes_tight (by simp) (hkeyword.append [' '] htight)
      hgroup.not.ofNegation.ofConjunction

/-- Texts in parentheses with AND or OR between them are read as the conjunction or the disjunction
of their filters. -/
theorem parse_groups (h : parse text = .ok filter) (h' : parse text' = .ok filter')
    (hgaps : Text.OnlyGapsAround text.toList) (hgaps' : Text.OnlyGapsAround text'.toList) :
    parse ("(" ++ text ++ ") AND (" ++ text' ++ ")") = .ok (.and filter filter') ∧
      parse ("(" ++ text ++ ") OR (" ++ text' ++ ")") = .ok (.or filter filter') := by
  have hleft := (writes_group_of_parse h hgaps).ofPrimary
  have hright := (writes_group_of_parse h' hgaps').ofPrimary
  have htight := tight_group text.toList
  have htight' := tight_group text'.toList
  constructor
  · have hwrites := (hleft.and hright).ofConjunction
    rw [List.append_assoc] at hwrites
    exact parse_of_writes_tight (by simp) (htight.append " AND ".toList htight') hwrites
  · have hwrites := hleft.or hright
    rw [List.append_assoc] at hwrites
    exact parse_of_writes_tight (by simp) (htight.append " OR ".toList htight') hwrites

/-- Texts with OR between them are read as a filter that no record tells apart from the disjunction
of their filters. -/
theorem exists_parse_or (h : parse text = .ok filter) (h' : parse text' = .ok filter')
    (hgaps : Text.OnlyGapsAround text.toList) (hgaps' : Text.OnlyGapsAround text'.toList) :
    ∃ joined, parse (text ++ " OR " ++ text') = .ok joined ∧
      ∀ record : Record, evaluate record joined = evaluate record (.or filter filter') := by
  have hne : Text.trim text.toList ≠ [] := (spells_of_parse h).ne_nil
  have hne' : Text.trim text'.toList ≠ [] := (spells_of_parse h').ne_nil
  obtain ⟨front, back, htext, hfront, hback⟩ := Text.exists_gaps_trim hgaps hne
  obtain ⟨front', back', htext', hfront', hback'⟩ := Text.exists_gaps_trim hgaps' hne'
  obtain ⟨joined, hwrites, hevaluate⟩ :=
    exists_writes_or hback hfront' (writes_of_parse h) (writes_of_parse h')
  refine ⟨joined, parse_of_writes ?_ hwrites, hevaluate⟩
  have hwhole : (text ++ " OR " ++ text').toList = front ++
      (Text.trim text.toList ++ (back ++ " OR ".toList ++ front' ++ Text.trim text'.toList) ++
        back') := by
    rw [String.toList_append, String.toList_append]
    -- only the outer occurrences of the texts are taken apart
    conv => lhs; rw [htext, htext']
    simp only [List.append_assoc]
  rw [hwhole]
  exact Text.trim_append (fun c hc => Text.isBlank_of_isGap (hfront c hc))
    ((Text.tight_trim hne).append _ (Text.tight_trim hne'))
    fun c hc => Text.isBlank_of_isGap (hback' c hc)

/-- **Texts compose.** Of two texts that are read as filters and have only spaces and tabs as outer
white space, one in parentheses is read as its filter, and behind NOT as the negation of it; both in
parentheses with AND or OR between them are read as the conjunction or the disjunction of their
filters; and without parentheses, with OR between them, as a filter that on every record has the same
truth value or the same error as the disjunction. -/
theorem parse_compose (h : parse text = .ok filter) (h' : parse text' = .ok filter')
    (hgaps : Text.OnlyGapsAround text.toList) (hgaps' : Text.OnlyGapsAround text'.toList) :
    parse ("(" ++ text ++ ")") = .ok filter ∧
      parse ("NOT (" ++ text ++ ")") = .ok (.not filter) ∧
      parse ("(" ++ text ++ ") AND (" ++ text' ++ ")") = .ok (.and filter filter') ∧
      parse ("(" ++ text ++ ") OR (" ++ text' ++ ")") = .ok (.or filter filter') ∧
      ∃ joined, parse (text ++ " OR " ++ text') = .ok joined ∧
        ∀ record : Record, evaluate record joined = evaluate record (.or filter filter') := by
  obtain ⟨hgroup, hnot⟩ := parse_group h hgaps
  obtain ⟨hand, hor⟩ := parse_groups h h' hgaps hgaps'
  exact ⟨hgroup, hnot, hand, hor, exists_parse_or h h' hgaps hgaps'⟩

/-- The field NOT, with its sign directly behind it, can be compared behind a parenthesis and OR too. -/
theorem parse_compose_not_eq_one :
    let text := " a=1"
    let text' := "NOT=1\t"
    let filter := compare "a" .eq (.integer 1)
    let filter' := compare "NOT" .eq (.integer 1)
    parse text = .ok filter ∧ parse text' = .ok filter' ∧
      Text.OnlyGapsAround text.toList ∧ Text.OnlyGapsAround text'.toList ∧
      parse ("(" ++ text ++ ")") = .ok filter ∧
      parse ("NOT (" ++ text ++ ")") = .ok (.not filter) ∧
      parse ("(" ++ text ++ ") AND (" ++ text' ++ ")") = .ok (.and filter filter') ∧
      parse ("(" ++ text ++ ") OR (" ++ text' ++ ")") = .ok (.or filter filter') ∧
      ∃ joined, parse (text ++ " OR " ++ text') = .ok joined ∧
        ∀ record : Record, evaluate record joined = evaluate record (.or filter filter') := by
  intro text text' filter filter'
  have hparse : parse text = .ok filter := parse_eq_one (by decide) (by decide)
  have hparse' : parse text' = .ok filter' := parse_eq_one (by decide) (by decide)
  have hgaps : Text.OnlyGapsAround text.toList := by decide
  have hgaps' : Text.OnlyGapsAround text'.toList := by decide
  exact ⟨hparse, hparse', hgaps, hgaps', parse_compose hparse hparse' hgaps hgaps'⟩

end Sift.Filter
