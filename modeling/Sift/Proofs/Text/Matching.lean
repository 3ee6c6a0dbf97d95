/-
# What the operations of a cursor take from the text

Every operation passes over a run of spaces and tabs and then looks at what is left. So an operation
that takes something is described by an equation between what was left without that run and what is
left afterwards, in both directions: what the text must be like for the operation to succeed, and
what the text was like when it did.

Key definition: `Cursor.KeywordAhead`.
Key theorems: `Cursor.exists_matchText`, `Cursor.rest_of_matchText`, `Cursor.exists_matchKeyword`,
`Cursor.rest_of_matchKeyword`, `Cursor.spec_of_takeWhile`, `Cursor.exists_readIdentifier`,
`Cursor.exists_readNumber`, `Cursor.exists_readQuoted`.
-/
import Sift.Text.Cursor

namespace Sift

namespace Text

/-- A text without the spaces and tabs in front. -/
theorem dropWhile_isGap_append {gap cs : List Char} (hgap : ∀ c ∈ gap, isGap c = true) :
    (gap ++ cs).dropWhile isGap = cs.dropWhile isGap :=
  List.dropWhile_append_of_pos hgap

theorem head_dropWhile_isGap {cs : List Char} {c : Char}
    (h : c ∈ (cs.dropWhile isGap).head?) : isGap c = false := by
  have := List.head?_dropWhile_not isGap cs
  rw [h] at this
  simpa using this

/-- A text is the run of spaces and tabs in front of it and the rest. -/
theorem exists_gap (cs : List Char) :
    ∃ gap, (∀ c ∈ gap, isGap c = true) ∧ cs = gap ++ cs.dropWhile isGap :=
  ⟨cs.takeWhile isGap, fun _ hc => List.all_eq_true.mp List.all_takeWhile _ hc,
    List.takeWhile_append_dropWhile.symm⟩

end Text

/-- The characters of a run are those that satisfy a test when the run satisfies it and what
follows does not begin with one that does. -/
theorem takeWhile_append_of_head {test : Char → Bool} {run rest : List Char}
    (hrun : ∀ c ∈ run, test c = true) (hrest : ∀ c ∈ rest.head?, test c = false) :
    (run ++ rest).takeWhile test = run ∧ (run ++ rest).dropWhile test = rest := by
  rw [List.takeWhile_append_of_pos hrun, List.dropWhile_append_of_pos hrun]
  cases rest with
  | nil => simp
  | cons c rest => simp [hrest c rfl]

namespace Cursor

variable {cursor next : Cursor}

theorem rest_skipGap (cursor : Cursor) : cursor.skipGap.rest = cursor.rest.dropWhile Text.isGap := rfl

theorem skipGap_of_head (h : ∀ c ∈ cursor.rest.head?, Text.isGap c = false) :
    cursor.skipGap = cursor := by
  obtain ⟨position, rest⟩ := cursor
  cases rest with
  | nil => rfl
  | cons c rest => simp [skipGap, dropWhile, h c rfl, byteLength]

/-- A second run of spaces and tabs is never there. -/
theorem skipGap_skipGap (cursor : Cursor) : cursor.skipGap.skipGap = cursor.skipGap :=
  skipGap_of_head fun _ h => Text.head_dropWhile_isGap h

theorem matchText_skipGap (text : List Char) (cursor : Cursor) :
    cursor.skipGap.matchText text = cursor.matchText text := by
  simp only [matchText, skipGap_skipGap]

theorem matchKeyword_skipGap (keyword : List Char) (cursor : Cursor) :
    cursor.skipGap.matchKeyword keyword = cursor.matchKeyword keyword := by
  simp only [matchKeyword, skipGap_skipGap]

theorem rest_drop {text after : List Char} (h : cursor.rest = text ++ after) :
    (cursor.drop text.length).rest = after := by
  simp [drop, h]

/-! ### Texts -/

/-- A text that comes next is taken. -/
theorem exists_matchText {text after : List Char}
    (h : cursor.rest.dropWhile Text.isGap = text ++ after) :
    ∃ next, cursor.matchText text = (true, next) ∧ next.rest = after := by
  refine ⟨cursor.skipGap.drop text.length, ?_, rest_drop h⟩
  have : text.isPrefixOf cursor.skipGap.rest = true :=
    List.isPrefixOf_iff_prefix.mpr ⟨after, h.symm⟩
  simp [matchText, this]

/-- A text that is taken came next. -/
theorem rest_of_matchText {text : List Char} (h : cursor.matchText text = (true, next)) :
    cursor.rest.dropWhile Text.isGap = text ++ next.rest := by
  simp only [matchText] at h
  split at h
  next hprefix =>
    cases h
    obtain ⟨after, hafter⟩ := List.isPrefixOf_iff_prefix.mp hprefix
    rw [rest_drop hafter.symm, ← rest_skipGap, hafter]
  next => cases h

theorem matchText_of_not_ahead {text : List Char}
    (h : ¬ text <+: cursor.rest.dropWhile Text.isGap) :
    cursor.matchText text = (false, cursor.skipGap) := by
  have : text.isPrefixOf cursor.skipGap.rest = false := by
    rw [Bool.eq_false_iff, ne_eq, List.isPrefixOf_iff_prefix]
    exact h
  simp [matchText, this]

theorem eq_skipGap_of_matchText {text : List Char} (h : cursor.matchText text = (false, next)) :
    next = cursor.skipGap ∧ ¬ text <+: cursor.rest.dropWhile Text.isGap := by
  by_cases hprefix : text <+: cursor.rest.dropWhile Text.isGap
  · obtain ⟨after, hafter⟩ := hprefix
    obtain ⟨next', hnext', -⟩ := exists_matchText hafter.symm
    rw [h] at hnext'
    cases hnext'
  · rw [matchText_of_not_ahead hprefix] at h
    exact ⟨(Prod.mk.inj h).2.symm, hprefix⟩

/-! ### Keywords -/

/-- Whether a text begins, behind spaces and tabs, with a keyword that ends there. -/
def KeywordAhead (keyword text : List Char) : Prop :=
  ∃ after, text.dropWhile Text.isGap = keyword ++ after ∧ endsKeyword after = true

/-- A keyword that comes next is taken. -/
theorem exists_matchKeyword {keyword after : List Char}
    (h : cursor.rest.dropWhile Text.isGap = keyword ++ after) (hends : endsKeyword after = true) :
    ∃ next, cursor.matchKeyword keyword = (true, next) ∧ next.rest = after := by
  refine ⟨cursor.skipGap.drop keyword.length, ?_, rest_drop h⟩
  have hprefix : keyword.isPrefixOf cursor.skipGap.rest = true :=
    List.isPrefixOf_iff_prefix.mpr ⟨after, h.symm⟩
  have hdrop : cursor.skipGap.rest.drop keyword.length = after := rest_drop h
  simp [matchKeyword, hprefix, hdrop, hends]

/-- A keyword that is taken came next. -/
theorem rest_of_matchKeyword {keyword : List Char}
    (h : cursor.matchKeyword keyword = (true, next)) :
    cursor.rest.dropWhile Text.isGap = keyword ++ next.rest ∧ endsKeyword next.rest = true := by
  simp only [matchKeyword] at h
  split at h
  next hboth =>
    cases h
    rw [Bool.and_eq_true] at hboth
    obtain ⟨after, hafter⟩ := List.isPrefixOf_iff_prefix.mp hboth.1
    have hdrop : (cursor.skipGap.drop keyword.length).rest = after := rest_drop hafter.symm
    refine ⟨by rw [hdrop, ← rest_skipGap, hafter], ?_⟩
    exact hboth.2
  next => cases h

theorem matchKeyword_of_not_ahead {keyword : List Char} (h : ¬ KeywordAhead keyword cursor.rest) :
    cursor.matchKeyword keyword = (false, cursor.skipGap) := by
  rcases hmatch : cursor.matchKeyword keyword with ⟨_ | _, next⟩
  · simp only [matchKeyword] at hmatch
    split at hmatch
    next => cases hmatch
    next => rw [(Prod.mk.inj hmatch).2]
  · exact absurd ⟨next.rest, rest_of_matchKeyword hmatch⟩ h

theorem eq_skipGap_of_matchKeyword {keyword : List Char}
    (h : cursor.matchKeyword keyword = (false, next)) :
    next = cursor.skipGap ∧ ¬ KeywordAhead keyword cursor.rest := by
  by_cases hahead : KeywordAhead keyword cursor.rest
  · obtain ⟨after, hafter, hends⟩ := hahead
    obtain ⟨next', hnext', -⟩ := exists_matchKeyword hafter hends
    rw [h] at hnext'
    cases hnext'
  · rw [matchKeyword_of_not_ahead hahead] at h
    exact ⟨(Prod.mk.inj h).2.symm, hahead⟩

/-! ### Runs of characters -/

/-- A run of characters is taken as a whole. -/
theorem spec_of_takeWhile {test : Char → Bool} {run : List Char}
    (h : cursor.takeWhile test = (run, next)) :
    cursor.rest = run ++ next.rest ∧ next.position = cursor.position + byteLength run ∧
      (∀ c ∈ run, test c = true) ∧ ∀ c ∈ next.rest.head?, test c = false := by
  cases h
  refine ⟨List.takeWhile_append_dropWhile.symm, rfl,
    fun c hc => List.all_eq_true.mp List.all_takeWhile c hc, fun c hc => ?_⟩
  have hhead := List.head?_dropWhile_not test cursor.rest
  rw [show (cursor.rest.dropWhile test).head? = some c from hc] at hhead
  simpa using hhead

/-- A run without any characters leaves a cursor where it is. -/
theorem eq_of_takeWhile_nil {test : Char → Bool} (h : cursor.takeWhile test = ([], next)) :
    next = cursor := by
  obtain ⟨hrest, hposition, -⟩ := spec_of_takeWhile h
  exact congr (congrArg mk hposition) hrest.symm

/-- A name is taken up to the first character that cannot be in one. -/
theorem exists_readIdentifier {name after : List Char}
    (h : cursor.rest.dropWhile Text.isGap = name ++ after)
    (hname : ∀ c ∈ name, isNameCharacter c = true)
    (hafter : ∀ c ∈ after.head?, isNameCharacter c = false) :
    ∃ next, cursor.readIdentifier = (name, next) ∧ next.rest = after := by
  obtain ⟨htake, hdrop⟩ := takeWhile_append_of_head hname hafter
  rw [← h] at htake hdrop
  exact ⟨_, Prod.ext htake rfl, hdrop⟩

theorem rest_of_readIdentifier {name : List Char} (h : cursor.readIdentifier = (name, next)) :
    cursor.rest.dropWhile Text.isGap = name ++ next.rest ∧
      (∀ c ∈ name, isNameCharacter c = true) ∧
        ∀ c ∈ next.rest.head?, isNameCharacter c = false := by
  obtain ⟨hrest, -, hname, hafter⟩ := spec_of_takeWhile h
  exact ⟨hrest, hname, hafter⟩

/-- A token is taken up to the first character that cannot be in one. -/
theorem exists_readNumber {token after : List Char}
    (h : cursor.rest.dropWhile Text.isGap = token ++ after)
    (htoken : ∀ c ∈ token, isTokenCharacter c = true)
    (hafter : ∀ c ∈ after.head?, isTokenCharacter c = false) :
    ∃ next, cursor.readNumber = (token, next) ∧ next.rest = after := by
  obtain ⟨htake, hdrop⟩ := takeWhile_append_of_head htoken hafter
  rw [← h] at htake hdrop
  exact ⟨_, Prod.ext htake rfl, hdrop⟩

theorem rest_of_readNumber {token : List Char} (h : cursor.readNumber = (token, next)) :
    cursor.rest.dropWhile Text.isGap = token ++ next.rest ∧
      ∀ c ∈ token, isTokenCharacter c = true := by
  obtain ⟨hrest, -, htoken, -⟩ := spec_of_takeWhile h
  exact ⟨hrest, htoken⟩

/-! ### Quoted strings -/

/-- A string in quotes that comes next is taken. -/
theorem exists_readQuoted {content after : List Char}
    (h : cursor.rest.dropWhile Text.isGap = '\'' :: (content ++ '\'' :: after))
    (hcontent : '\'' ∉ content) :
    ∃ next, cursor.readQuoted = (.ok content, next) ∧ next.rest = after := by
  have hne : ∀ c ∈ content, (c != '\'') = true := fun c hc => by
    rw [bne_iff_ne]
    exact fun heq => hcontent (heq ▸ hc)
  obtain ⟨htake, -⟩ := takeWhile_append_of_head hne
    (show ∀ c ∈ ('\'' :: after).head?, (c != '\'') = false by simp)
  refine ⟨cursor.skipGap.drop (content.length + 2), ?_, ?_⟩
  · rw [← rest_skipGap] at h
    simp [readQuoted, h, htake]
  · have h' : cursor.skipGap.rest = ('\'' :: (content ++ ['\''])) ++ after := by
      rw [rest_skipGap, h]
      simp
    have := rest_drop h'
    simpa using this

/-- Characters up to a quote that do not reach the end of a text end at a quote. -/
theorem exists_of_length_takeWhile_quote {body : List Char}
    (h : (body.takeWhile (· != '\'')).length < body.length) :
    ∃ after, body = body.takeWhile (· != '\'') ++ '\'' :: after := by
  have hsplit : body = body.takeWhile (· != '\'') ++ body.dropWhile (· != '\'') :=
    List.takeWhile_append_dropWhile.symm
  have hhead := List.head?_dropWhile_not (· != '\'') body
  cases hdrop : body.dropWhile (· != '\'') with
  | nil =>
    have hlength := congrArg List.length hsplit
    rw [hdrop, List.append_nil] at hlength
    omega
  | cons c after =>
    rw [hdrop] at hsplit hhead
    obtain rfl : c = '\'' := by simpa using hhead
    exact ⟨after, hsplit⟩

/-- A string in quotes that is taken came next, and no quote stands in it. -/
theorem rest_of_readQuoted {content : List Char} (h : cursor.readQuoted = (.ok content, next)) :
    cursor.rest.dropWhile Text.isGap = '\'' :: (content ++ '\'' :: next.rest) ∧ '\'' ∉ content := by
  simp only [readQuoted] at h
  split at h
  next body hbody =>
    split at h
    next hlength =>
      have hquote : '\'' ∉ body.takeWhile (· != '\'') := fun hmem => by
        simpa using List.all_eq_true.mp List.all_takeWhile _ hmem
      obtain ⟨after, hsplit⟩ := exists_of_length_takeWhile_quote hlength
      generalize body.takeWhile (· != '\'') = run at *
      have hrest : cursor.skipGap.rest = '\'' :: (run ++ ['\'']) ++ after := by
        rw [hbody, hsplit]
        simp
      cases h
      have hnext := rest_drop hrest
      rw [← rest_skipGap, hrest]
      simp only [List.length_cons, List.length_append, List.length_nil] at hnext
      exact ⟨by rw [hnext]; simp, hquote⟩
    next => cases h
  next => cases h

theorem eq_skipGap_of_readQuoted {error : QuoteError} (h : cursor.readQuoted = (.error error, next)) :
    next = cursor.skipGap := by
  simp only [readQuoted] at h
  split at h
  · split at h
    next => cases h
    next => exact (Prod.mk.inj h).2.symm
  · exact (Prod.mk.inj h).2.symm

end Cursor

end Sift
