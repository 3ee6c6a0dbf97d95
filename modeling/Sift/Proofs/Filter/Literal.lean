/-
# Literals by their characters

A value without quotes is of one of three kinds, and its characters alone decide which: digits behind a
minus sign or none are an integer if it has 64 bits; digits with at most one point among or around them
are the floating-point number nearest to the decimal; anything else, such as a date or the number of a
version, is the string of the characters. The kind is the same wherever a value stands. A pattern
operator takes a value of the third kind and refuses the other two at the place of the value.

Key definitions: `withSign`, `DenotesInteger`, `DenotesDecimal`, `BareMeans`, `Literal`.
Key theorems: `tokenValue_eq_iff`, `readPatternText_of_number`, `parse_bare_literal`.
-/
import Sift.Proofs.Binary64.DecimalNumeral
import Sift.Proofs.Binary64.Nearest
import Sift.Proofs.Filter.Composition

namespace Sift.Filter

/-- Some characters behind a minus sign or without one. -/
def withSign (negative : Bool) (characters : List Char) : List Char :=
  if negative then '-' :: characters else characters

/-- Whether some characters are the digits of an integer, behind a minus sign or without one. -/
def DenotesInteger (characters : List Char) (n : Int) : Prop :=
  ∃ negative digits, characters = withSign negative digits ∧ digits ≠ [] ∧
    digits.all Char.isDigit = true ∧
    n = if negative then -(Nat.ofDigitChars 10 digits 0 : Int) else Nat.ofDigitChars 10 digits 0

/-- Whether some characters are a numeral of a decimal, behind a minus sign or without one. -/
def DenotesDecimal (characters : List Char) (negative : Bool) (decimal : Binary64.Decimal) : Prop :=
  ∃ body, characters = withSign negative body ∧ decimal.IsNumeral body

/-- What a value without quotes is by its characters. -/
inductive BareMeans (characters : List Char) : Value → Prop where
  | integer {n : Int64} (hinteger : DenotesInteger characters n.toInt) :
    BareMeans characters (.integer n)
  | float {negative : Bool} {decimal : Binary64.Decimal} {code : Nat}
    (hle : code ≤ Binary64.infinityCode)
    (hinteger : ∀ n : Int64, ¬ DenotesInteger characters n.toInt)
    (hdecimal : DenotesDecimal characters negative decimal)
    (hnearest : Binary64.IsNearest decimal.value code) :
    BareMeans characters (.float (.signed negative code hle))
  | string (hinteger : ∀ n : Int64, ¬ DenotesInteger characters n.toInt)
    (hdecimal : ∀ negative decimal, ¬ DenotesDecimal characters negative decimal) :
    BareMeans characters (.string (String.ofList characters))

/-- Which texts are literals of which values: a string in quotes, or a value without quotes. -/
inductive Literal : List Char → Value → Prop where
  | quoted {content : List Char} (hquote : '\'' ∉ content) :
    Literal ('\'' :: (content ++ ['\''])) (.string (String.ofList content))
  | bare {characters : List Char} {value : Value} (hbare : IsBare characters)
    (hvalue : BareMeans characters value) : Literal characters value

variable {characters : List Char} {value : Value}

/-! ### Signs -/

theorem splitSign_of_head {cs : List Char} (h : ∀ c ∈ cs.head?, c ≠ '-' ∧ c ≠ '+') :
    Text.splitSign cs = (false, cs) := by
  unfold Text.splitSign
  split
  next => exact absurd rfl (h '-' rfl).1
  next => exact absurd rfl (h '+' rfl).2
  next => rfl

/-- A numeral begins with a digit or with its point. -/
theorem splitSign_withSign {decimal : Binary64.Decimal} {body : List Char}
    (h : decimal.IsNumeral body) (negative : Bool) :
    Text.splitSign (withSign negative body) = (negative, body) := by
  cases negative with
  | true => rfl
  | false =>
    refine splitSign_of_head fun c hc => ?_
    have hbegin : c.isDigit = true ∨ c = '.' := by
      cases h with
      | whole _ hdigits => exact .inl (List.all_eq_true.mp hdigits c (List.mem_of_mem_head? hc))
      | @point whole fraction _ hwhole _ =>
        cases whole with
        | nil => exact .inr (Option.some.inj hc).symm
        | cons d whole =>
          obtain rfl : d = c := Option.some.inj hc
          exact .inl (List.all_eq_true.mp hwhole d List.mem_cons_self)
    rcases hbegin with hdigit | rfl
    · constructor <;> rintro rfl <;> exact absurd hdigit (by decide)
    · exact ⟨by decide, by decide⟩

/-- A token has no plus sign. -/
theorem exists_withSign (htoken : ∀ c ∈ characters, Cursor.isTokenCharacter c = true) :
    ∃ negative body, Text.splitSign characters = (negative, body) ∧
      characters = withSign negative body := by
  obtain ⟨negative, body, hsplit, ⟨rfl, rfl | rfl⟩ | ⟨rfl, rfl⟩⟩ := Text.exists_splitSign characters
  · exact ⟨false, _, hsplit, rfl⟩
  · exact absurd (htoken '+' List.mem_cons_self) (by decide)
  · exact ⟨true, body, hsplit, rfl⟩

/-! ### The three kinds -/

theorem isNumeral_iff_denotesInteger
    (htoken : ∀ c ∈ characters, Cursor.isTokenCharacter c = true) (n : Int) :
    Text.IsNumeral characters n ↔ DenotesInteger characters n := by
  constructor
  · rintro ⟨digits, hne, hdigits, ⟨rfl | rfl, hn⟩ | ⟨rfl, hn⟩⟩
    · exact ⟨false, _, rfl, hne, hdigits, hn⟩
    · exact absurd (htoken '+' List.mem_cons_self) (by decide)
    · exact ⟨true, digits, rfl, hne, hdigits, hn⟩
  · rintro ⟨negative, digits, rfl, hne, hdigits, hn⟩
    cases negative
    · exact ⟨digits, hne, hdigits, .inl ⟨.inl rfl, hn⟩⟩
    · exact ⟨digits, hne, hdigits, .inr ⟨rfl, hn⟩⟩

/-- A number is read from a token that is a numeral of a decimal. -/
theorem read?_eq_some_iff (htoken : ∀ c ∈ characters, Cursor.isTokenCharacter c = true)
    {x : Binary64} : Binary64.read? characters = some x ↔
      ∃ negative decimal, DenotesDecimal characters negative decimal ∧
        x = Binary64.ofDecimal negative decimal.digits decimal.exponent := by
  obtain ⟨negative, body, hsplit, rfl⟩ := exists_withSign htoken
  have hbody : ∀ c ∈ body, Cursor.isTokenCharacter c = true := fun c hc =>
    htoken c (mem_of_mem_splitSign (by rw [hsplit]; exact hc))
  rw [read?_of_token htoken, hsplit, Binary64.readMagnitude?_eq_some_iff hbody]
  constructor
  · rintro ⟨decimal, hnumeral, hx⟩
    exact ⟨negative, decimal, ⟨body, rfl, hnumeral⟩, hx⟩
  · rintro ⟨negative', decimal, ⟨body', hcharacters, hnumeral⟩, hx⟩
    rw [hcharacters, splitSign_withSign hnumeral] at hsplit
    obtain ⟨rfl, rfl⟩ := Prod.mk.inj hsplit
    exact ⟨decimal, hnumeral, hx⟩

theorem readInt64?_eq_none_iff (htoken : ∀ c ∈ characters, Cursor.isTokenCharacter c = true) :
    Text.readInt64? characters = none ↔ ∀ n : Int64, ¬ DenotesInteger characters n.toInt :=
  Text.readInt64?_eq_none_iff.trans
    (forall_congr' fun _ => not_congr (isNumeral_iff_denotesInteger htoken _))

/-- **What a token is read as is what it is by its characters.** -/
theorem tokenValue_eq_iff (hbare : IsBare characters) :
    tokenValue characters = value ↔ BareMeans characters value := by
  have hread := @read?_eq_some_iff _ hbare.2
  constructor
  · rintro rfl
    unfold tokenValue
    cases hinteger : Text.readInt64? characters with
    | some n =>
      exact .integer ((isNumeral_iff_denotesInteger hbare.2 _).mp
        (Text.readInt64?_eq_some_iff.mp hinteger))
    | none =>
      have hinteger := (readInt64?_eq_none_iff hbare.2).mp hinteger
      cases hnumber : Binary64.read? characters with
      | some x =>
        obtain ⟨negative, decimal, hdecimal, rfl⟩ := hread.mp hnumber
        exact .float (Binary64.decimalCode_le _ _) hinteger hdecimal
          (Binary64.isNearest_decimalCode _ _)
      | none =>
        refine .string hinteger fun negative decimal hdecimal => ?_
        rw [hread.mpr ⟨negative, decimal, hdecimal, rfl⟩] at hnumber
        cases hnumber
  · intro h
    unfold tokenValue
    cases h with
    | @integer n hinteger =>
      rw [Text.readInt64?_eq_some_iff.mpr ((isNumeral_iff_denotesInteger hbare.2 _).mpr hinteger)]
    | @float negative decimal code hle hinteger hdecimal hnearest =>
      -- Only one code is nearest, so the number that is read is the one that is meant.
      have hcode : Binary64.decimalCode decimal.digits decimal.exponent = code :=
        (Binary64.isNearest_decimalCode _ _).unique hnearest
      subst hcode
      rw [(readInt64?_eq_none_iff hbare.2).mpr hinteger,
        hread.mpr ⟨negative, decimal, hdecimal, rfl⟩]
      rfl
    | string hinteger hdecimal =>
      have hnone : Binary64.read? characters = none :=
        Option.eq_none_iff_forall_ne_some.mpr fun x hx => by
          obtain ⟨negative, decimal, h, -⟩ := hread.mp hx
          exact hdecimal negative decimal h
      rw [(readInt64?_eq_none_iff hbare.2).mpr hinteger, hnone]

/-! ### Literals in a text -/

theorem denotes_bare_iff (hbare : IsBare characters) :
    Denotes (.bare characters) value ↔ BareMeans characters value := by
  rw [← tokenValue_eq_iff hbare]
  constructor
  · intro h
    unfold tokenValue
    cases h with
    | integer _ hinteger => rw [hinteger]
    | float _ hinteger hnumber => rw [hinteger, hnumber]
    | string _ hinteger hnumber => rw [hinteger, hnumber]
  · rintro rfl
    exact denotes_tokenValue hbare

/-- A literal is the text of a token that denotes its value. -/
theorem Literal.exists_denotes {text : List Char} (h : Literal text value) :
    ∃ token : Token, token.text = text ∧ Denotes token value := by
  cases h with
  | @quoted content hquote =>
    refine ⟨.quoted (String.ofList content), ?_, .quoted ?_⟩
    · rw [Token.text, String.toList_ofList]
    · rwa [String.toList_ofList]
  | bare hbare hvalue => exact ⟨.bare _, rfl, (denotes_bare_iff hbare).mpr hvalue⟩

theorem exists_denotes_members : ∀ {members : List (List Char × Value)},
    (∀ pair ∈ members, Literal pair.1 pair.2) →
    ∃ row : List (Token × Value), (row.map fun pair => pair.1.text) = members.map Prod.fst ∧
      row.map Prod.snd = members.map Prod.snd ∧ ∀ pair ∈ row, Denotes pair.1 pair.2
  | [], _ => ⟨[], rfl, rfl, nofun⟩
  | (text, value) :: members, h => by
    have hliteral : Literal text value := h _ List.mem_cons_self
    obtain ⟨token, rfl, hdenotes⟩ := hliteral.exists_denotes
    obtain ⟨row, htexts, hvalues, hrow⟩ :=
      exists_denotes_members fun pair hpair => h pair (List.mem_cons_of_mem _ hpair)
    refine ⟨(token, value) :: row, ?_, ?_, List.forall_mem_cons.mpr ⟨hdenotes, hrow⟩⟩
    · rw [List.map_cons, List.map_cons, htexts]
    · rw [List.map_cons, List.map_cons, hvalues]

theorem Literal.tight {text : List Char} (h : Literal text value) : Text.Tight text := by
  cases h with
  | @quoted content _ =>
    exact (tight_singleton (by decide)).append content (tight_singleton (show _ = false by decide))
  | bare hbare _ => exact tight_bare hbare

/-- A condition on the field x is read as it is written, if its text does not end in white space. -/
theorem parse_of_condition {text : String} {body : List Char} {filter : Filter}
    (htext : text.toList = 'x' :: ' ' :: body) (h : Condition "x" body filter)
    (htight : Text.Tight ('x' :: ' ' :: body)) : parse text = .ok filter :=
  parse_of_writes_tight htext htight
    (h.writes (by decide) (by decide)).ofPrimary.ofNegation.ofConjunction

/-- Only the end of the text of a condition on the field x counts. -/
theorem tight_condition (body : List Char) {back : List Char} (hback : Text.Tight back) :
    Text.Tight ('x' :: ' ' :: (body ++ back)) :=
  (tight_singleton (show Text.isBlank 'x' = false by decide)).append (' ' :: body) hback

/-! ### Patterns -/

/-- A pattern operator refuses a token that is a number. -/
theorem readPatternText_of_number (operator : String) (position : Nat) (hbare : IsBare characters)
    (hnumber : ∀ source, tokenValue characters ≠ .string source) :
    ∃ after, readPatternText operator ⟨position, ' ' :: characters⟩ =
      (.error (.patternNotString operator (position + 1)), after) := by
  have hspaced : Spaced false [.bare characters] (' ' :: characters) [] := by
    have hrow : Spaced false [.bare characters] (characters ++ []) [] :=
      Spaced.token_append (.bare characters) trivial rfl
    rw [List.append_nil] at hrow
    exact hrow.space (List.cons_ne_nil _ _)
  have hgap : (Cursor.mk position (' ' :: characters)).skipGap = ⟨position + 1, characters⟩ := by
    have hhead : ∀ c ∈ characters.head?, Text.isGap c = false := fun c hc =>
      isGap_of_isTokenCharacter (hbare.2 c (List.mem_of_mem_head? hc))
    obtain ⟨htake, hdrop⟩ :=
      takeWhile_append_of_head (List.forall_mem_singleton.mpr (show Text.isGap ' ' = true from rfl))
        hhead
    rw [List.singleton_append] at htake hdrop
    rw [Cursor.skipGap, Cursor.dropWhile, htake, hdrop]
    rfl
  obtain ⟨after, hread, -⟩ := exists_readValue (denotes_tokenValue hbare)
    (show Spaced false _ (Cursor.mk position (' ' :: characters)).rest [] from hspaced) stops_nil
  rw [← readValue_skipGap, hgap] at hread
  refine ⟨after, ?_⟩
  unfold readPatternText
  dsimp only
  rw [hgap, hread]
  cases hvalue : tokenValue characters with
  | string source => exact absurd hvalue (hnumber source)
  | _ => rfl

/-- A text that does not begin with NOT is no filter if its first primary is none. -/
theorem parse_of_readPrimary_error {text : String} {body : List Char} {e : ParseError}
    {after : Cursor} (htext : text.toList = body) (htight : Text.Tight body)
    (hnot : Cursor.matchKeyword "NOT".toList ⟨0, body⟩ = (false, ⟨0, body⟩))
    (h : (readPrimary ⟨0, body⟩).1 = (.error e, after)) : parse text = .error e := by
  have hread : (readDisjunction ⟨0, body⟩).1 = (.error e, after) := by
    rw [readDisjunction_val, readConjunction_val, readNegation_val, hnot]
    simp only [h]
  have hstart : startCursor body = ⟨0, body⟩ := by
    unfold startCursor
    rw [Text.trimRight_eq_self htight]
    obtain ⟨⟨c, hc, hblank⟩, -⟩ := htight
    obtain ⟨cs, rfl⟩ := List.head?_eq_some_iff.mp hc
    simp [Cursor.dropWhile, hblank, byteLength]
  have htrim : (Text.trim body).isEmpty = false := by
    rw [Text.trim_eq_self htight]
    obtain ⟨⟨c, hc, -⟩, -⟩ := htight
    obtain ⟨cs, rfl⟩ := List.head?_eq_some_iff.mp hc
    rfl
  unfold parse parseFrom parseRest
  rw [htext, htrim, hstart, hread]
  rfl

/-- Behind a pattern operator on the field x stands what the operator reads. -/
theorem readPrimary_of_pattern (pattern : Pattern) {e : ParseError} {after : Cursor}
    (h : readPatternText (String.ofList (patternKeyword pattern))
      ⟨2 + (patternKeyword pattern).length, ' ' :: characters⟩ = (.error e, after)) :
    (readPrimary ⟨0, 'x' :: ' ' :: (patternKeyword pattern ++ ' ' :: characters)⟩).1 =
      (.error e, after) := by
  cases pattern with
  | like source =>
    rw [readPrimary_val]
    exact congrArg (mapOutcome (matching "x" ∘ .like)) h
  | regexp source =>
    rw [readPrimary_val]
    exact congrArg (mapOutcome (matching "x" ∘ .regexp)) h

/-- A pattern operator takes the characters of a token for its pattern, unless they are a number. -/
theorem parse_pattern (hbare : IsBare characters) (pattern : Pattern)
    (hsource : pattern.source = String.ofList characters) {text : String}
    (htext : text.toList = 'x' :: ' ' :: (patternKeyword pattern ++ ' ' :: characters)) :
    parse text =
      if tokenValue characters = .string (String.ofList characters) then .ok (.matching "x" pattern)
      else .error (.patternNotString (String.ofList (patternKeyword pattern))
        (2 + (patternKeyword pattern).length + 1)) := by
  have htight := tight_condition (patternKeyword pattern ++ [' ']) (tight_bare hbare)
  rw [List.append_assoc, List.singleton_append] at htight
  split
  next hstring =>
    have hdenotes : Denotes (.bare characters) (.string pattern.source) := by
      rw [hsource, ← hstring]
      exact denotes_tokenValue hbare
    exact parse_of_condition htext (condition_matching "x" hdenotes) htight
  next hnumber =>
    have hnumber : ∀ source, tokenValue characters ≠ .string source := by
      intro source hstring
      cases (tokenValue_eq_iff hbare).mp hstring with
      | string => exact hnumber hstring
    obtain ⟨after, hread⟩ := readPatternText_of_number (String.ofList (patternKeyword pattern))
      (2 + (patternKeyword pattern).length) hbare hnumber
    exact parse_of_readPrimary_error htext htight rfl (readPrimary_of_pattern pattern hread)

/-! ### Every place of a value -/

theorem parse_compare (hbare : IsBare characters) :
    parse ("x = " ++ String.ofList characters) =
      .ok (.compare "x" .eq (tokenValue characters)) := by
  refine parse_of_condition ?_ (condition_compare "x" .eq (denotes_tokenValue hbare))
    (tight_condition ['=', ' '] (tight_bare hbare))
  simp only [String.toList_append, String.toList_ofList]
  rfl

theorem parse_between {lower upper : List Char} {value value' : Value}
    (hlower : Literal lower value) (hupper : Literal upper value') :
    parse ("x BETWEEN " ++ String.ofList lower ++ " AND " ++ String.ofList upper) =
      .ok (.between "x" value value') := by
  have htight := tight_condition ("BETWEEN ".toList ++ lower ++ " AND ".toList) hupper.tight
  obtain ⟨first, rfl, hfirst⟩ := hlower.exists_denotes
  obtain ⟨second, rfl, hsecond⟩ := hupper.exists_denotes
  refine parse_of_condition ?_ (condition_between "x" hfirst hsecond) htight
  simp only [String.toList_append, String.toList_ofList]
  rfl

theorem parse_member (negated : Bool) {members : List (List Char × Value)} (hne : members ≠ [])
    (h : ∀ pair ∈ members, Literal pair.1 pair.2) :
    parse ("x " ++ (if negated then "NOT IN (" else "IN (") ++
        String.ofList (", ".toList.intercalate (members.map Prod.fst)) ++ ")") =
      .ok (.member "x" negated (members.map Prod.snd)) := by
  obtain ⟨row, htexts, hvalues, hrow⟩ := exists_denotes_members h
  have hne : row ≠ [] := by
    rintro rfl
    exact hne (List.map_eq_nil_iff.mp hvalues.symm)
  have hcondition := condition_member "x" negated hne hrow
  rw [htexts, hvalues] at hcondition
  refine parse_of_condition ?_ hcondition ?_
  · simp only [String.toList_append, String.toList_ofList, List.append_assoc]
    rfl
  · rw [← List.append_assoc]
    exact tight_condition _ (tight_singleton (show Text.isBlank ')' = false by decide))

/-- **A value without quotes is classified by its characters.** There is exactly one value that some
digits, points and minus signs are, and they are read as that value wherever a value can stand by the
grammar: as the operand of a comparison, as either bound of BETWEEN, and at any place in a list. A
pattern operator takes them for its pattern if they are a string, and fails at their position if they
are a number. -/
theorem parse_bare_literal (hbare : IsBare characters) :
    ∃ value, (∀ other, BareMeans characters other ↔ other = value) ∧
      (∀ other, Denotes (.bare characters) other ↔ other = value) ∧
      parse ("x = " ++ String.ofList characters) = .ok (.compare "x" .eq value) ∧
      (∀ text other, Literal text other →
        parse ("x BETWEEN " ++ String.ofList characters ++ " AND " ++ String.ofList text) =
            .ok (.between "x" value other) ∧
          parse ("x BETWEEN " ++ String.ofList text ++ " AND " ++ String.ofList characters) =
            .ok (.between "x" other value)) ∧
      (∀ (negated : Bool) (before after : List (List Char × Value)),
        (∀ pair ∈ before ++ after, Literal pair.1 pair.2) →
        parse ("x " ++ (if negated then "NOT IN (" else "IN (") ++
            String.ofList (", ".toList.intercalate
              (before.map Prod.fst ++ characters :: after.map Prod.fst)) ++ ")") =
          .ok (.member "x" negated (before.map Prod.snd ++ value :: after.map Prod.snd))) ∧
      parse ("x LIKE " ++ String.ofList characters) =
        (if value = .string (String.ofList characters) then
          .ok (.matching "x" (.like (String.ofList characters)))
        else .error (.patternNotString "LIKE" 7)) ∧
      parse ("x REGEXP " ++ String.ofList characters) =
        (if value = .string (String.ofList characters) then
          .ok (.matching "x" (.regexp (String.ofList characters)))
        else .error (.patternNotString "REGEXP" 9)) := by
  have hmeans (other : Value) : BareMeans characters other ↔ other = tokenValue characters :=
    (tokenValue_eq_iff hbare).symm.trans eq_comm
  have hliteral : Literal characters (tokenValue characters) := .bare hbare ((hmeans _).mpr rfl)
  refine ⟨tokenValue characters, hmeans, fun other => (denotes_bare_iff hbare).trans (hmeans other),
    parse_compare hbare, fun text other hother => ?_, fun negated before after hothers => ?_,
    ?_, ?_⟩
  · exact ⟨parse_between hliteral hother, parse_between hother hliteral⟩
  · have hmembers : ∀ pair ∈ before ++ (characters, tokenValue characters) :: after,
        Literal pair.1 pair.2 := by
      intro pair hpair
      rcases List.mem_append.mp hpair with hpair | hpair
      · exact hothers pair (List.mem_append_left _ hpair)
      · rcases List.mem_cons.mp hpair with rfl | hpair
        · exact hliteral
        · exact hothers pair (List.mem_append_right _ hpair)
    have hparse := parse_member negated (List.append_ne_nil_of_right_ne_nil _
      (List.cons_ne_nil _ _)) hmembers
    rwa [List.map_append, List.map_append, List.map_cons, List.map_cons] at hparse
  · refine parse_pattern hbare (.like (String.ofList characters)) rfl ?_
    simp only [String.toList_append, String.toList_ofList]
    rfl
  · refine parse_pattern hbare (.regexp (String.ofList characters)) rfl ?_
    simp only [String.toList_append, String.toList_ofList]
    rfl

/-- A date is a string, between bounds and among the members of a list as well. -/
theorem parse_bare_literal_date :
    IsBare "2024-01-01".toList ∧
      parse "x = 2024-01-01" = .ok (.compare "x" .eq (.string "2024-01-01")) ∧
      parse "x BETWEEN 2024-01-01 AND 'now'" =
        .ok (.between "x" (.string "2024-01-01") (.string "now")) ∧
      parse "x NOT IN (-5, 2024-01-01)" =
        .ok (.member "x" true [.integer (-5), .string "2024-01-01"]) ∧
      parse "x LIKE 2024-01-01" = .ok (.matching "x" (.like "2024-01-01")) := by
  have hbare : IsBare "2024-01-01".toList := by decide
  have hquoted : Literal "'now'".toList (.string "now") :=
    @Literal.quoted "now".toList (by decide)
  have hnegative : Literal "-5".toList (.integer (-5)) :=
    .bare (by decide) (.integer ⟨true, ['5'], rfl, by decide, by decide, by decide⟩)
  obtain ⟨value, hmeans, -, hcompare, hbetween, hmember, hlike, -⟩ := parse_bare_literal hbare
  obtain rfl : .string "2024-01-01" = value :=
    (hmeans _).mp ((tokenValue_eq_iff hbare).mp (by decide))
  exact ⟨hbare, hcompare, (hbetween _ _ hquoted).1,
    hmember true [("-5".toList, .integer (-5))] [] (List.forall_mem_singleton.mpr hnegative),
    hlike.trans (if_pos rfl)⟩

end Sift.Filter
