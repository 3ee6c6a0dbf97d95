/-
# Reading back what is written

Strings, truth values and integers are read back from what is written for them, in front of a comma
or a closing bracket, and so is an object from its compact text if its values are: its fields are
written in the order of their names, and reading puts each one behind those before it.

Key definition: `Json.RereadBy`.
Key theorems: `Json.takes_readQuoted`, `Json.takes_readNumber`, `Json.takes_readNested_object`,
`Json.read_writeCompact_object`.
-/
import Sift.Json.Reader
import Sift.Json.Writer
import Sift.Proofs.Text.Matching
import Sift.Proofs.Text.Taking

namespace Sift.Json

open Reader

/-! ### Strings -/

/-- The character of a short escape is found by its letter. -/
theorem find?_shortEscapes {c letter : Char} (h : escapeLetter? c = some letter) :
    letter ≠ 'u' ∧ letter ≠ '/' ∧ shortEscapes.find? (·.1 == letter) = some (letter, c) := by
  have hall : ∀ entry ∈ shortEscapes, entry.1 ≠ 'u' ∧ entry.1 ≠ '/' ∧
      shortEscapes.find? (·.1 == entry.1) = some entry := by decide
  obtain ⟨⟨letter', c'⟩, hfind, rfl⟩ := Option.map_eq_some_iff.mp h
  have hc : c' = c := by simpa using List.find?_some hfind
  subst hc
  exact hall _ (List.mem_of_find?_eq_some hfind)

theorem hexNumber?_control : ∀ code < 0x20,
    Text.hexNumber? ['0', '0', Nat.digitChar (code / 16), Nat.digitChar (code % 16)] =
      some code := by
  decide

theorem takes_codeUnit {digits : List Char} {code : Nat} (hlength : digits.length = 4)
    (hcode : Text.hexNumber? digits = some code) (rest : List Char) :
    codeUnit.Takes (digits ++ rest) code rest := by
  refine Takes.bind (takes_lookAhead _) ?_
  have htake : (digits ++ rest).take 4 = digits := by
    rw [← hlength]
    exact List.take_left
  dsimp only
  rw [htake, hcode]
  dsimp only
  rw [if_pos hlength, ← hlength]
  exact Takes.bind (takes_skip digits rest) (takes_pure code rest)

/-- A control character is read from its code. -/
theorem takes_escaped_control {c : Char} (h : c.toNat < 0x20) (rest : List Char) :
    escaped.Takes ('u' :: '0' :: '0' :: Nat.digitChar (c.toNat / 16) ::
      Nat.digitChar (c.toNat % 16) :: rest) c rest := by
  have htrailing : isTrailing c.toNat = false := by
    unfold isTrailing
    simp only [Bool.and_eq_false_iff, decide_eq_false_iff_not]
    omega
  have hleading : isLeading c.toNat = false := by
    unfold isLeading
    simp only [Bool.and_eq_false_iff, decide_eq_false_iff_not]
    omega
  refine Takes.bind (takes_next _ 'u' _) ?_
  rw [if_pos rfl]
  refine Takes.bind (takes_codeUnit rfl (hexNumber?_control c.toNat h) rest) ?_
  rw [htrailing, hleading, if_neg Bool.false_ne_true, if_neg Bool.false_ne_true, Char.ofNat_toNat]
  exact takes_pure c rest

theorem takes_escaped_letter {c letter : Char} (h : escapeLetter? c = some letter)
    (rest : List Char) : escaped.Takes (letter :: rest) c rest := by
  obtain ⟨hcode, hslash, hfind⟩ := find?_shortEscapes h
  refine Takes.bind (takes_next _ letter rest) ?_
  rw [if_neg hcode, if_neg hslash, hfind]
  exact takes_pure c rest

theorem takes_quotedCharacter (c : Char) (characters rest : List Char) :
    (quotedCharacter characters).Takes (quoteCharacter c ++ rest) (.inl (c :: characters)) rest := by
  unfold quoteCharacter
  cases hletter : escapeLetter? c with
  | some letter =>
    refine Takes.bind (takes_next _ '\\' _) ?_
    rw [if_neg (by decide), if_pos rfl]
    exact Takes.bind (takes_escaped_letter hletter rest) (takes_pure _ rest)
  | none =>
    by_cases hcontrol : c.toNat < 0x20
    · simp only [hcontrol, ↓reduceIte]
      refine Takes.bind (takes_next _ '\\' _) ?_
      rw [if_neg (by decide), if_pos rfl]
      exact Takes.bind (takes_escaped_control hcontrol rest) (takes_pure _ rest)
    · have hquote : c ≠ '"' := by
        rintro rfl
        exact absurd hletter (by decide)
      have hescape : c ≠ '\\' := by
        rintro rfl
        exact absurd hletter (by decide)
      simp only [hcontrol, ↓reduceIte]
      refine Takes.bind (takes_next _ c rest) ?_
      rw [if_neg hquote, if_neg hescape, if_neg hcontrol]
      exact takes_pure _ rest

theorem quoteCharacter_ne_nil (c : Char) : quoteCharacter c ≠ [] := by
  unfold quoteCharacter
  split
  · simp
  · split <;> simp

theorem takes_loop_quotedCharacter (rest : List Char) : ∀ cs characters : List Char,
    (loop .malformed quotedCharacter characters).Takes (cs.flatMap quoteCharacter ++ '"' :: rest)
      (String.ofList (characters.reverse ++ cs)) rest
  | [], characters => by
    refine Takes.loop_inr (Takes.bind (takes_next _ '"' rest) ?_)
    rw [if_pos rfl, List.append_nil]
    exact takes_pure _ rest
  | c :: cs, characters => by
    -- The characters read so far stand in reverse.
    have hmore := takes_loop_quotedCharacter rest cs (c :: characters)
    rw [List.reverse_cons, List.append_assoc, List.singleton_append] at hmore
    rw [List.flatMap_cons, List.append_assoc]
    refine Takes.loop_inl (takes_quotedCharacter c characters _) ?_ hmore
    have hpos := List.length_pos_iff.mpr (quoteCharacter_ne_nil c)
    simp only [List.length_append]
    omega

/-- A string is read back from its quoted form. -/
theorem takes_readQuoted (s : String) (rest : List Char) :
    readQuoted.Takes (quote s ++ rest) s rest := by
  have hloop := takes_loop_quotedCharacter rest s.toList []
  rw [List.reverse_nil, List.nil_append, String.ofList_toList] at hloop
  have htext : quote s ++ rest = '"' :: (s.toList.flatMap quoteCharacter ++ '"' :: rest) := by
    simp [quote]
  rw [htext]
  exact Takes.bind (takes_expect '"' _ _) hloop

/-! ### Integers -/

/-- Whether a value can end where a text begins. -/
def Closes (rest : List Char) : Prop :=
  ∀ c ∈ rest.head?, c = ',' ∨ c = ']' ∨ c = '\x7d'

theorem takes_takeIf_true {test : Char → Bool} {c : Char} (h : test c = true) (rest : List Char) :
    (takeIf test).Takes (c :: rest) true rest := by
  refine Takes.bind (takes_peek _) ?_
  have hany : (c :: rest).head?.any test = true := h
  rw [if_pos hany]
  exact Takes.bind (takes_skip [c] rest) (takes_pure true rest)

theorem takes_takeIf_false {test : Char → Bool} {cs : List Char}
    (h : ∀ c ∈ cs.head?, test c = false) : (takeIf test).Takes cs false cs := by
  refine Takes.bind (takes_peek _) ?_
  have hany : cs.head?.any test ≠ true := by
    cases hhead : cs.head? with
    | none => simp
    | some c => simp [h c hhead]
  rw [if_neg hany]
  exact takes_pure false cs

/-- A numeral has no leading zero, except for zero itself. -/
theorem head?_toDigits {n : Nat} (h : n ≠ 0) : (Nat.toDigits 10 n).head? ≠ some '0' := by
  induction n using Nat.strongRecOn with
  | ind n ih =>
    by_cases hsmall : n < 10
    · rw [Nat.toDigits_of_lt_base hsmall, List.head?_cons, ne_eq, Option.some.injEq,
        Nat.digitChar_eq_zero]
      exact h
    · have hfront := ih (n / 10) (by omega) (by omega)
      rw [Nat.toDigits_of_base_le (by decide) (by omega), List.head?_append]
      cases hhead : (Nat.toDigits 10 (n / 10)).head? with
      | none => exact absurd (List.head?_eq_none_iff.mp hhead) Nat.toDigits_ne_nil
      | some c =>
        rw [hhead] at hfront
        exact hfront

theorem Closes.not_isDigit {rest : List Char} (h : Closes rest) :
    ∀ c ∈ rest.head?, c.isDigit = false := by
  intro c hc
  rcases h c hc with rfl | rfl | rfl <;> rfl

/-- A run of digits is taken up to a character that is no digit. -/
theorem takes_digits {run rest : List Char} (hne : run ≠ []) (hrun : run.all Char.isDigit = true)
    (hrest : ∀ c ∈ rest.head?, c.isDigit = false) : digits.Takes (run ++ rest) run rest := by
  obtain ⟨htake, hdrop⟩ := takeWhile_append_of_head (List.all_eq_true.mp hrun) hrest
  have hwhile := @takes_takeWhile JsonError Char.isDigit (run ++ rest)
  rw [htake, hdrop] at hwhile
  refine Takes.bind hwhile ?_
  rw [if_neg (mt List.isEmpty_iff.mp hne)]
  exact takes_pure run rest

theorem takes_wholeDigits (n : Nat) {rest : List Char} (hrest : Closes rest) :
    wholeDigits.Takes (Nat.toDigits 10 n ++ rest) (Nat.toDigits 10 n) rest := by
  have hdigits := takes_digits Nat.toDigits_ne_nil (Text.toDigits_all_isDigit n) hrest.not_isDigit
  have hzero : ¬ ((Nat.toDigits 10 n).head? = some '0' ∧ (Nat.toDigits 10 n).length ≠ 1) := by
    rintro ⟨hhead, hlength⟩
    by_cases hn : n = 0
    · subst hn
      exact hlength rfl
    · exact head?_toDigits hn hhead
  refine Takes.bind hdigits ?_
  rw [if_neg hzero]
  exact takes_pure _ rest

theorem exists_toDigits (n : Nat) : ∃ c cs, Nat.toDigits 10 n = c :: cs ∧ c.isDigit = true := by
  cases hdigits : Nat.toDigits 10 n with
  | nil => exact absurd hdigits Nat.toDigits_ne_nil
  | cons c cs =>
    have hall := Text.toDigits_all_isDigit n
    rw [hdigits] at hall
    exact ⟨c, cs, rfl, List.all_eq_true.mp hall c List.mem_cons_self⟩

/-- An integer begins with a minus sign or a digit. -/
theorem exists_writeInt (n : Int) :
    ∃ c cs, Text.writeInt n = c :: cs ∧ (c = '-' ∨ c.isDigit = true) := by
  cases n with
  | negSucc n => exact ⟨'-', _, rfl, .inl rfl⟩
  | ofNat n =>
    obtain ⟨c, cs, hdigits, hc⟩ := exists_toDigits n
    exact ⟨c, cs, hdigits, .inr hc⟩

/-- The sign of an integer is taken first. -/
theorem takes_sign (n : Int) (rest : List Char) :
    (takeIf (· == '-')).Takes (Text.writeInt n ++ rest) (decide (n < 0))
      (Nat.toDigits 10 n.natAbs ++ rest) := by
  cases n with
  | negSucc n =>
    have hsign : decide (Int.negSucc n < 0) = true := decide_eq_true (Int.negSucc_lt_zero n)
    rw [hsign]
    exact takes_takeIf_true (beq_self_eq_true '-') _
  | ofNat n =>
    have hsign : decide (Int.ofNat n < 0) = false := decide_eq_false (by simp)
    rw [hsign]
    refine takes_takeIf_false fun c hc => ?_
    obtain ⟨first, cs, hdigits, hfirst⟩ := exists_toDigits n
    have htext : Text.writeInt (Int.ofNat n) ++ rest = first :: (cs ++ rest) := by
      rw [Text.writeInt, hdigits, List.cons_append]
    rw [htext] at hc
    obtain rfl : first = c := Option.some.inj hc
    refine beq_false_of_ne ?_
    rintro rfl
    exact absurd hfirst (by decide)

/-- The numeral of an integer. -/
def Numeral.ofInt (n : Int) : Numeral where
  negative := decide (n < 0)
  whole := Nat.toDigits 10 n.natAbs
  fraction := none
  exponent := none

theorem takes_numeral (n : Int) {rest : List Char} (hrest : Closes rest) :
    numeral.Takes (Text.writeInt n ++ rest) (.ofInt n) rest := by
  have hpoint : ∀ c ∈ rest.head?, (c == '.') = false := by
    intro c hc
    rcases hrest c hc with rfl | rfl | rfl <;> rfl
  have hexponent : ∀ c ∈ rest.head?, (c == 'e' || c == 'E') = false := by
    intro c hc
    rcases hrest c hc with rfl | rfl | rfl <;> rfl
  refine Takes.bind (takes_sign n rest) (Takes.bind (takes_wholeDigits _ hrest) ?_)
  refine Takes.bind (takes_takeIf_false hpoint) ?_
  rw [if_neg Bool.false_ne_true]
  refine Takes.bind (takes_pure none rest) (Takes.bind (takes_takeIf_false hexponent) ?_)
  rw [if_neg Bool.false_ne_true]
  exact Takes.bind (takes_pure none rest) (takes_pure _ rest)

theorem number?_ofInt (n : Int) (hmin : -0x8000000000000000 ≤ n) (hmax : n < 0x10000000000000000) :
    (Numeral.ofInt n).number? = some (.integer n hmin hmax) := by
  have hnumber : Number.ofInt? n = some (.integer n hmin hmax) := by
    unfold Number.ofInt?
    rw [dif_pos ⟨hmin, hmax⟩]
  have hvalue : Nat.ofDigitChars 10 (Nat.toDigits 10 n.natAbs) 0 = n.natAbs :=
    Nat.ofDigitChars_ten_toDigits
  unfold Numeral.number? Numeral.integer? Numeral.ofInt
  dsimp only
  rw [hvalue]
  by_cases hneg : n < 0
  · have habs : -(n.natAbs : Int) = n := by omega
    have hne : n.natAbs ≠ 0 := by omega
    simp only [hneg, hne, habs, hnumber, decide_true, Option.isSome_none, Bool.or_self,
      Bool.false_eq_true, ↓reduceIte]
    rfl
  · have habs : (n.natAbs : Int) = n := by omega
    simp only [hneg, habs, hnumber, decide_false, Option.isSome_none, Bool.or_self,
      Bool.false_eq_true, ↓reduceIte]
    rfl

/-- An integer that fits in 64 bits is read back from its numeral. -/
theorem takes_readNumber {n : Int} (hmin : -0x8000000000000000 ≤ n)
    (hmax : n < 0x10000000000000000) {rest : List Char} (hrest : Closes rest) :
    readNumber.Takes (Text.writeInt n ++ rest) (.integer n hmin hmax) rest := by
  refine Takes.bind (takes_numeral n hrest) ?_
  rw [number?_ofInt n hmin hmax]
  exact takes_pure _ rest

/-! ### Values -/

/-- Whether a reader of values reads a value back from its compact text, in front of a comma or a
closing bracket. -/
structure RereadBy (value : Reader JsonError Json) (json : Json) : Prop where
  head : ∃ c cs, json.writeCompact = c :: cs ∧ isSpace c = false
  takes : ∀ {rest : List Char}, Closes rest → value.Takes (json.writeCompact ++ rest) json rest

variable {nested value : Reader JsonError Json}

theorem takes_readWord (word : List Char) (json : Json) (rest : List Char) :
    (readWord word json).Takes (word ++ rest) json rest := by
  refine Takes.bind (takes_lookAhead _) ?_
  have hword : word.isPrefixOf (word ++ rest) = true :=
    List.isPrefixOf_iff_prefix.mpr (List.prefix_append word rest)
  rw [if_pos hword]
  exact Takes.bind (takes_skip word rest) (takes_pure json rest)

theorem rereadBy_boolean (b : Bool) : RereadBy (readValueWith nested) (.boolean b) where
  head := by cases b <;> exact ⟨_, _, rfl, rfl⟩
  takes {rest} _ := by
    cases b with
    | true => exact Takes.bind (takes_peek _) (takes_readWord ['t', 'r', 'u', 'e'] _ rest)
    | false => exact Takes.bind (takes_peek _) (takes_readWord ['f', 'a', 'l', 's', 'e'] _ rest)

theorem rereadBy_string (s : String) : RereadBy (readValueWith nested) (.string s) where
  head := ⟨'"', _, rfl, rfl⟩
  takes {rest} _ :=
    Takes.bind (takes_peek _) (Takes.bind (takes_readQuoted s rest) (takes_pure _ rest))

/-- What begins with a minus sign or a digit is read as a number. -/
theorem takes_readValueWith_of_number {c : Char} {cs rest : List Char} {number : Number}
    (hc : c = '-' ∨ c.isDigit = true) (h : readNumber.Takes (c :: cs) number rest) :
    (readValueWith nested).Takes (c :: cs) (.number number) rest := by
  refine Takes.bind (takes_peek _) ?_
  have hnumber : (do return Json.number (← readNumber) : Reader JsonError Json).Takes (c :: cs)
      (.number number) rest :=
    Takes.bind h (takes_pure (Json.number number) rest)
  rw [List.head?_cons]
  -- Every case but the last one is that of a character that begins no number.
  split
  case h_7 => exact hnumber
  all_goals
    rename_i heq
    cases heq
    exact absurd hc (by decide)

/-- No white space begins a number. -/
theorem isSpace_of_number {c : Char} (hc : c = '-' ∨ c.isDigit = true) : isSpace c = false := by
  cases hspace : isSpace c with
  | false => rfl
  | true =>
    simp only [isSpace, Bool.or_eq_true, beq_iff_eq] at hspace
    obtain ((rfl | rfl) | rfl) | rfl := hspace <;> exact absurd hc (by decide)

theorem rereadBy_integer (n : Int) (hmin : -0x8000000000000000 ≤ n)
    (hmax : n < 0x10000000000000000) :
    RereadBy (readValueWith nested) (.number (.integer n hmin hmax)) := by
  obtain ⟨c, cs, htext, hc⟩ := exists_writeInt n
  have hcompact : (Json.number (.integer n hmin hmax)).writeCompact = c :: cs := htext
  refine ⟨⟨c, cs, hcompact, ?_⟩, fun {rest} hrest => ?_⟩
  · exact isSpace_of_number hc
  · have hnumber := takes_readNumber hmin hmax hrest
    rw [htext] at hnumber
    rw [hcompact]
    exact takes_readValueWith_of_number hc hnumber

/-! ### Objects -/

mutual

/-- The compact text of a value does not depend on how deep it stands. -/
theorem write_compact (depth depth' : Nat) : ∀ json : Json,
    json.write .compact depth = json.write .compact depth'
  | null | boolean _ | number _ | string _ => rfl
  | array items => by
    rw [write, write, writeItems_compact (depth + 1) (depth' + 1) items]
    rfl
  | object fields => by
    rw [write, write, writeFields_compact (depth + 1) (depth' + 1) fields]
    rfl

theorem writeItems_compact (depth depth' : Nat) : ∀ items : List Json,
    writeItems .compact depth items = writeItems .compact depth' items
  | [] => rfl
  | item :: items => by
    rw [writeItems, writeItems, write_compact depth depth' item, writeItems_compact depth depth' items]

theorem writeFields_compact (depth depth' : Nat) : ∀ fields : List (String × Json),
    writeFields .compact depth fields = writeFields .compact depth' fields
  | [] => rfl
  | (name, value) :: fields => by
    rw [writeFields, writeFields, write_compact depth depth' value,
      writeFields_compact depth depth' fields]

end

/-- The text of a field. -/
def fieldText (field : String × Json) : List Char :=
  quote field.1 ++ ':' :: field.2.writeCompact

theorem writeFields_eq_map (depth : Nat) : ∀ fields : List (String × Json),
    writeFields .compact depth fields = fields.map fieldText
  | [] => rfl
  | (name, value) :: fields => by
    rw [writeFields, write_compact depth 0 value, writeFields_eq_map depth fields, List.map_cons,
      fieldText, List.append_assoc]
    rfl

/-- The text of an object behind its opening bracket. -/
def fieldsText (fields : List (String × Json)) : List Char :=
  List.intercalate [','] (fields.map fieldText) ++ ['\x7d']

theorem writeCompact_object (fields : List (String × Json)) :
    (object fields).writeCompact = '\x7b' :: fieldsText fields := by
  unfold writeCompact fieldsText
  rw [write, writeFields_eq_map]
  cases fields with
  | nil => rfl
  | cons field fields => simp [Layout.block, Layout.compact]

theorem takes_skipSpace {c : Char} (h : isSpace c = false) (cs : List Char) :
    skipSpace.Takes (c :: cs) () (c :: cs) := by
  have hspace := @takes_takeWhile JsonError isSpace (c :: cs)
  rw [List.takeWhile_cons_of_neg (by simp [h]), List.dropWhile_cons_of_neg (by simp [h])] at hspace
  exact Takes.bind hspace (takes_pure () _)

/-- A field is read up to what follows it. -/
theorem takes_readField {field : String × Json} (h : RereadBy value field.2)
    (fields : List (String × Json)) {c : Char} (hc : c = ',' ∨ c = '\x7d') (rest : List Char) :
    (readField value fields).Takes (fieldText field ++ c :: rest)
      (if c = ',' then .inl (insertEntry field.1 field.2 fields)
        else .inr (.object (insertEntry field.1 field.2 fields))) rest := by
  obtain ⟨first, cs, hvalue, hfirst⟩ := h.head
  have hcloses : Closes (c :: rest) := by
    rintro d ⟨⟩
    exact hc.imp_right .inr
  have hspace : isSpace c = false := by
    rcases hc with rfl | rfl <;> rfl
  have htakes := h.takes hcloses
  rw [hvalue] at htakes
  have htext : fieldText field ++ c :: rest =
      quote field.1 ++ ':' :: (first :: cs ++ c :: rest) := by
    rw [fieldText, hvalue, List.append_assoc]
    rfl
  rw [htext]
  refine Takes.bind (takes_skipSpace (by rfl) _) (Takes.bind (takes_readQuoted field.1 _) ?_)
  refine Takes.bind (takes_skipSpace (by rfl) _) (Takes.bind (takes_expect ':' _ _) ?_)
  refine Takes.bind (takes_skipSpace hfirst _) (Takes.bind htakes ?_)
  refine Takes.bind (takes_skipSpace hspace _) (Takes.bind (takes_next _ c rest) ?_)
  rcases hc with rfl | rfl
  · exact takes_pure _ rest
  · exact takes_pure _ rest

/-- The fields of an object are read one behind the other, given in the order of their names. -/
theorem takes_loop_readField (rest : List Char) : ∀ {fields earlier : List (String × Json)},
    fields ≠ [] → Ordered (earlier ++ fields) → (∀ field ∈ fields, RereadBy value field.2) →
      (loop .malformed (readField value) earlier).Takes (fieldsText fields ++ rest)
        (.object (earlier ++ fields)) rest
  | [], _, hne, _, _ => absurd rfl hne
  | [field], earlier, _, hordered, hfields => by
    -- Its name is past those of the fields read so far, so the field goes behind them.
    have hfield := takes_readField (hfields field List.mem_cons_self) earlier (.inr rfl) rest
    rw [if_neg (by decide), insertEntry_append hordered] at hfield
    have htext : fieldsText [field] ++ rest = fieldText field ++ '\x7d' :: rest := by
      simp [fieldsText]
    rw [htext]
    exact Takes.loop_inr hfield
  | field :: next :: fields, earlier, _, hordered, hfields => by
    have hfield := takes_readField (hfields field List.mem_cons_self) earlier (.inl rfl)
      (fieldsText (next :: fields) ++ rest)
    rw [if_pos rfl, insertEntry_append (List.Pairwise.sublist (by simp) hordered)] at hfield
    have hordered' : Ordered (earlier ++ [field] ++ next :: fields) := by
      rwa [List.append_assoc, List.singleton_append]
    have hmore := takes_loop_readField rest (List.cons_ne_nil next fields) hordered'
      fun other hother => hfields other (List.mem_cons_of_mem _ hother)
    rw [List.append_assoc, List.singleton_append] at hmore
    have htext : fieldsText (field :: next :: fields) ++ rest =
        fieldText field ++ ',' :: (fieldsText (next :: fields) ++ rest) := by
      simp [fieldsText]
    rw [htext]
    refine Takes.loop_inl hfield ?_ hmore
    simp only [List.length_append, List.length_cons]
    omega

/-- An object with its fields in the order of their names is read back if its values are. -/
theorem takes_readNested_object {fields : List (String × Json)} (hordered : Ordered fields)
    (hfields : ∀ field ∈ fields, RereadBy value field.2) (rest : List Char) :
    (readNested value).Takes ((object fields).writeCompact ++ rest) (.object fields) rest := by
  rw [writeCompact_object, List.cons_append]
  refine Takes.bind (takes_next _ '\x7b' _) ?_
  cases fields with
  | nil =>
    refine Takes.bind (takes_skipSpace (by rfl) _) ?_
    exact Takes.bind (takes_takeIf_true (by rfl) rest) (takes_pure _ rest)
  | cons field fields =>
    have hloop := @takes_loop_readField value rest (field :: fields) []
      (List.cons_ne_nil field fields) hordered hfields
    have htext : ∃ cs, fieldsText (field :: fields) ++ rest = '"' :: cs := by
      cases fields <;> simp [fieldsText, fieldText, quote]
    obtain ⟨cs, htext⟩ := htext
    rw [htext] at hloop ⊢
    refine Takes.bind (takes_skipSpace (by rfl) _) ?_
    exact Takes.bind (takes_takeIf_false (by rintro c ⟨⟩; rfl)) hloop

/-- **An object of strings, truth values and integers is read back from its compact text**, if its
fields stand in the order of their names. -/
theorem read_writeCompact_object {fields : List (String × Json)} (hordered : Ordered fields)
    (hfields : ∀ field ∈ fields, ∀ nested, RereadBy (readValueWith nested) field.2) :
    read (object fields).writeCompact = .ok (object fields) := by
  -- The object takes one level of nesting from the limit, and its values need none.
  have hnested := takes_readNested_object hordered
    (fun field hfield => hfields field hfield (readNested (readValue 125))) []
  rw [List.append_nil, writeCompact_object] at hnested
  have hvalue : (readValue depthLimit).Takes ('\x7b' :: fieldsText fields) (object fields) [] :=
    Takes.bind (takes_peek _) hnested
  unfold read
  rw [writeCompact_object]
  refine Takes.parse ?_ JsonError.malformed
  refine Takes.bind (takes_skipSpace (by rfl) _) (Takes.bind hvalue ?_)
  exact Takes.bind (Takes.bind (takes_takeWhile isSpace []) (takes_pure () [])) (takes_pure _ [])

end Sift.Json
