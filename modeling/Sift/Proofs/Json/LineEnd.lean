/-
# JSON with a carriage return behind it

A carriage return at the end of a text changes nothing about how the text is read as JSON: it is white
space behind a value, and within a string or in the middle of anything else it is as wrong as the end of
the text is there. Reading follows the grammar, so each of its readers overlooks the carriage return.

Key theorems: `Json.overlooks_readQuoted`, `Json.overlooks_readNumber`, `Json.overlooks_readValue`,
`Json.read_append_return`.
-/
import Sift.Json.Reader
import Sift.Proofs.Text.Trailing

namespace Sift.Json

open Reader

/-! ### Strings -/

theorem hexNumber?_append_return (cs : List Char) : Text.hexNumber? (cs ++ ['\r']) = none := by
  have hdigit : Text.hexValue? '\r' = none := by decide
  unfold Text.hexNumber?
  rw [List.foldl_append, List.foldl_cons, List.foldl_nil, hdigit]
  cases cs.foldl _ _ <;> rfl

/-- What reading four digits gives. -/
theorem run_codeUnit (cs : List Char) :
    codeUnit.run cs =
      if 4 ≤ cs.length then
        match Text.hexNumber? (cs.take 4) with
        | some code => .ok (code, cs.drop 4)
        | none => .error .malformed
      else .error .malformed := by
  have hlength : (cs.take 4).length = 4 ↔ 4 ≤ cs.length := by
    rw [List.length_take]
    omega
  unfold codeUnit
  rw [run_bind]
  show Reader.run (match Text.hexNumber? (cs.take 4) with | some code => _ | none => _) cs = _
  cases Text.hexNumber? (cs.take 4) with
  | none => exact (ite_self _).symm
  | some code =>
    dsimp only
    by_cases hle : 4 ≤ cs.length
    · rw [if_pos (hlength.mpr hle), if_pos hle]
      rfl
    · rw [if_neg (mt hlength.mp hle), if_neg hle]
      rfl

/-- Four digits are there or they are not, with the carriage return as without. -/
theorem overlooks_codeUnit : Overlooks '\r' codeUnit := by
  intro cs cs' h
  have hdrop := h.drop 4
  rw [run_codeUnit, run_codeUnit]
  cases h with
  | usedUp => exact .error _
  | behind cs =>
    have hlength : (cs ++ ['\r']).length = cs.length + 1 := List.length_append
    by_cases hle : 4 ≤ cs.length
    · rw [List.take_append_of_le_length hle, if_pos hle, if_pos (by omega)]
      cases Text.hexNumber? (cs.take 4) with
      | none => exact .error _
      | some code => exact .ok code hdrop
    · have htake : (cs ++ ['\r']).take 4 = cs ++ ['\r'] := List.take_of_length_le (by omega)
      rw [htake, hexNumber?_append_return, if_neg hle]
      dsimp only
      rw [ite_self]
      exact .error _

theorem overlooks_escapedCode : Overlooks '\r' escapedCode := by
  refine overlooks_codeUnit.bind fun unit => ?_
  refine overlooks_ite (overlooks_fail _) (overlooks_ite ?_ (overlooks_pure _))
  refine (overlooks_expect (by decide) _).bind fun _ => ?_
  refine (overlooks_expect (by decide) _).bind fun _ => ?_
  exact overlooks_codeUnit.bind fun trailing => overlooks_ite (overlooks_pure _) (overlooks_fail _)

theorem overlooks_escaped : Overlooks '\r' escaped := by
  refine overlooks_next_bind (fun letter => ?_) rfl
  refine overlooks_ite overlooks_escapedCode (overlooks_ite (overlooks_pure _) ?_)
  cases shortEscapes.find? (·.1 == letter) with
  | some escape => exact overlooks_pure _
  | none => exact overlooks_fail _

/-- A control character is no character of a string. -/
theorem overlooks_quotedCharacter (characters : List Char) :
    Overlooks '\r' (quotedCharacter characters) := by
  have hescaped : Overlooks '\r' (do return .inl ((← escaped) :: characters) :
      Reader JsonError (List Char ⊕ String)) :=
    overlooks_escaped.bind fun c => overlooks_pure _
  refine overlooks_next_bind (fun c => ?_) rfl
  refine overlooks_ite (overlooks_pure _) (overlooks_ite hescaped ?_)
  exact overlooks_ite (overlooks_fail _) (overlooks_pure _)

theorem overlooks_readQuoted : Overlooks '\r' readQuoted := by
  refine (overlooks_expect (by decide) _).bind fun _ => ?_
  exact overlooks_loop overlooks_quotedCharacter (fun characters => ⟨.malformed, rfl⟩) []

/-! ### Numbers -/

theorem overlooks_takeIf {test : Char → Bool} (h : test '\r' = false) :
    Overlooks '\r' (takeIf test) := by
  refine overlooks_peek_bind (fun c => overlooks_ite ?_ (overlooks_pure false)) ?_
  · exact (overlooks_skip 1).bind fun _ => overlooks_pure true
  · simp [h]

theorem overlooks_digits : Overlooks '\r' digits :=
  (overlooks_takeWhile (by decide)).bind fun found =>
    overlooks_ite (overlooks_fail _) (overlooks_pure found)

theorem overlooks_wholeDigits : Overlooks '\r' wholeDigits :=
  overlooks_digits.bind fun found => overlooks_ite (overlooks_fail _) (overlooks_pure found)

theorem overlooks_exponent : Overlooks '\r' exponent := by
  refine (overlooks_takeIf (by decide)).bind fun negative => ?_
  have hrest : Overlooks '\r' (do
      let magnitude := Nat.ofDigitChars 10 (← digits) 0
      return if negative then -(magnitude : Int) else magnitude) :=
    overlooks_digits.bind fun found => overlooks_pure _
  cases negative with
  | true => exact hrest
  | false => exact (overlooks_takeIf (by decide)).bind fun _ => hrest

/-- A part that is there only after its mark. -/
theorem overlooks_marked {α β : Type} (marked : Bool) {part : Reader JsonError α}
    {more : Option α → Reader JsonError β} (hpart : Overlooks '\r' part)
    (hmore : ∀ found, Overlooks '\r' (more found)) :
    Overlooks '\r' (if marked = true then (some <$> part) >>= more else pure none >>= more) := by
  cases marked with
  | true =>
    have hsome : Overlooks '\r' (some <$> part) := hpart.bind fun found => overlooks_pure (some found)
    exact hsome.bind hmore
  | false => exact (overlooks_pure none).bind hmore

theorem overlooks_numeral : Overlooks '\r' numeral := by
  refine (overlooks_takeIf (by decide)).bind fun negative => ?_
  refine overlooks_wholeDigits.bind fun whole => ?_
  refine (overlooks_takeIf (by decide)).bind fun hasFraction => ?_
  refine overlooks_marked hasFraction overlooks_digits fun fraction => ?_
  refine (overlooks_takeIf (by decide)).bind fun hasExponent => ?_
  exact overlooks_marked hasExponent overlooks_exponent fun exponent => overlooks_pure _

theorem overlooks_readNumber : Overlooks '\r' readNumber := by
  refine overlooks_numeral.bind fun numeral => ?_
  cases numeral.number? with
  | some n => exact overlooks_pure n
  | none => exact overlooks_fail _

/-! ### Values -/

theorem overlooks_skipSpace : Overlooks '\r' skipSpace :=
  overlooks_skipWhile isSpace

theorem isPrefixOf_append_return {word : List Char} (h : '\r' ∉ word) (cs : List Char) :
    word.isPrefixOf (cs ++ ['\r']) = word.isPrefixOf cs := by
  rw [Bool.eq_iff_iff, List.isPrefixOf_iff_prefix, List.isPrefixOf_iff_prefix,
    List.prefix_concat_iff]
  refine or_iff_right ?_
  rintro rfl
  exact h (List.mem_append_right cs List.mem_cons_self)

theorem overlooks_readWord {word : List Char} (h : '\r' ∉ word) (value : Json) :
    Overlooks '\r' (readWord word value) := by
  have htake : Overlooks '\r' (do skip word.length; return value : Reader JsonError Json) :=
    (overlooks_skip word.length).bind fun _ => overlooks_pure value
  have hrun (cs : List Char) : (readWord word value).run cs =
      if word.isPrefixOf cs = true then
        (do skip word.length; return value : Reader JsonError Json).run cs
      else .error .malformed := by
    unfold readWord
    rw [run_bind]
    show Reader.run (if word.isPrefixOf cs = true then _ else _) cs = _
    by_cases hword : word.isPrefixOf cs = true
    · rw [if_pos hword, if_pos hword]
    · rw [if_neg hword, if_neg hword]
      rfl
  intro cs cs' hends
  have hsame : word.isPrefixOf cs' = word.isPrefixOf cs := by
    cases hends with
    | usedUp => rfl
    | behind cs => exact isPrefixOf_append_return h cs
  rw [hrun, hrun, hsame]
  by_cases hword : word.isPrefixOf cs = true
  · rw [if_pos hword, if_pos hword]
    exact htake cs cs' hends
  · rw [if_neg hword, if_neg hword]
    exact .error _

/-- What follows a part of an array or an object. -/
theorem overlooks_separator {σ : Type} {more done : Reader JsonError (σ ⊕ Json)} {close : Char}
    (hmore : Overlooks '\r' more) (hdone : Overlooks '\r' done) (hclose : '\r' ≠ close) :
    Overlooks '\r' (do
      let c ← next .malformed
      if c = ',' then more else if c = close then done else fail .malformed) := by
  refine overlooks_next_bind (fun c => ?_) ?_
  · exact overlooks_ite hmore (overlooks_ite hdone (overlooks_fail _))
  · rw [if_neg (by decide), if_neg hclose]
    rfl

variable {value nested : Reader JsonError Json}

theorem overlooks_readItem (h : Overlooks '\r' value) (items : List Json) :
    Overlooks '\r' (readItem value items) := by
  refine overlooks_skipSpace.bind fun _ => h.bind fun item => overlooks_skipSpace.bind fun _ => ?_
  exact overlooks_separator (overlooks_pure _) (overlooks_pure _) (by decide)

theorem overlooks_readField (h : Overlooks '\r' value) (fields : List (String × Json)) :
    Overlooks '\r' (readField value fields) := by
  refine overlooks_skipSpace.bind fun _ => overlooks_readQuoted.bind fun name => ?_
  refine overlooks_skipSpace.bind fun _ => (overlooks_expect (by decide) _).bind fun _ => ?_
  refine overlooks_skipSpace.bind fun _ => h.bind fun item => overlooks_skipSpace.bind fun _ => ?_
  exact overlooks_separator (overlooks_pure _) (overlooks_pure _) (by decide)

/-- No value is read at the end of a text. -/
theorem run_readValueWith_nil (nested : Reader JsonError Json) :
    (readValueWith nested).run [] = .error .malformed := rfl

theorem run_readField_nil (value : Reader JsonError Json) (fields : List (String × Json)) :
    (readField value fields).run [] = .error .malformed := rfl

theorem run_readItem_nil (h : value.run [] = .error .malformed) (items : List Json) :
    (readItem value items).run [] = .error .malformed := by
  have hspace : skipSpace.run [] = .ok ((), []) := rfl
  unfold readItem
  rw [run_bind, hspace]
  show Reader.run (value >>= _) [] = _
  rw [run_bind, h]
  rfl

theorem overlooks_readNested (h : Overlooks '\r' value) (hend : value.run [] = .error .malformed) :
    Overlooks '\r' (readNested value) := by
  have hitems : Overlooks '\r' (loop .malformed (readItem value) []) :=
    overlooks_loop (overlooks_readItem h) (fun items => ⟨_, run_readItem_nil hend items⟩) []
  have hfields : Overlooks '\r' (loop .malformed (readField value) []) :=
    overlooks_loop (overlooks_readField h) (fun fields => ⟨_, run_readField_nil value fields⟩) []
  refine overlooks_next_bind (fun c => ?_) ?_
  · have hclose : ('\r' == if c = '[' then ']' else '\x7d') = false := by
      by_cases hopen : c = '['
      · rw [if_pos hopen]
        rfl
      · rw [if_neg hopen]
        rfl
    refine overlooks_skipSpace.bind fun _ => (overlooks_takeIf hclose).bind fun isEmpty => ?_
    exact overlooks_ite (overlooks_pure _) (overlooks_ite hitems hfields)
  · have hspace : skipSpace.run [] = .ok ((), []) := rfl
    have htake (test : Char → Bool) : (takeIf test).run [] = .ok (false, []) := rfl
    simp only [run_bind, hspace, htake, Except.bind, Bool.false_eq_true, if_false]
    rw [if_neg (by decide), run_loop, run_readField_nil]
    rfl

theorem overlooks_readValueWith (h : Overlooks '\r' nested) :
    Overlooks '\r' (readValueWith nested) := by
  have hnumber : Overlooks '\r' (do return Json.number (← readNumber) : Reader JsonError Json) :=
    overlooks_readNumber.bind fun n => overlooks_pure _
  refine overlooks_peek_bind (fun c => ?_) rfl
  split
  · exact h
  · exact h
  · exact overlooks_readQuoted.bind fun s => overlooks_pure _
  · exact overlooks_readWord (by decide) _
  · exact overlooks_readWord (by decide) _
  · exact overlooks_readWord (by decide) _
  · exact hnumber

/-- Values of any depth overlook a carriage return at the end of the text. -/
theorem overlooks_readValue : ∀ depth, Overlooks '\r' (readValue depth)
  | 0 => overlooks_readValueWith (overlooks_fail _)
  | depth + 1 => by
    have hend : (readValue depth).run [] = .error .malformed := by
      cases depth <;> exact run_readValueWith_nil _
    exact overlooks_readValueWith (overlooks_readNested (overlooks_readValue depth) hend)

/-! ### Texts -/

/-- A text is a value between white space, and nothing is left behind it. -/
theorem read_eq (cs : List Char) :
    read cs = ((skipSpace >>= fun _ => readValue depthLimit).run cs).bind fun taken =>
      if (taken.2.dropWhile isSpace).isEmpty then .ok taken.1 else .error .malformed := by
  unfold read
  rw [parse_eq, run_bind, run_bind]
  cases skipSpace.run cs with
  | error e => rfl
  | ok taken =>
    show ((readValue depthLimit >>= fun value => skipSpace >>= fun _ => pure value).run taken.2).bind _ =
      ((readValue depthLimit).run taken.2).bind _
    rw [run_bind]
    cases (readValue depthLimit).run taken.2 <;> rfl

theorem isEmpty_dropWhile_of_endsAlike {rest rest' : List Char} (h : EndsAlike '\r' rest rest') :
    (rest'.dropWhile isSpace).isEmpty = (rest.dropWhile isSpace).isEmpty := by
  cases h with
  | usedUp => rfl
  | behind rest =>
    rw [List.dropWhile_append]
    by_cases hnil : (rest.dropWhile isSpace).isEmpty = true
    · rw [if_pos hnil, hnil]
      rfl
    · rw [if_neg hnil]
      simp [hnil]

/-- **A carriage return at the end of a text changes neither its value nor its error.** It is passed
over with the white space behind the value. -/
theorem read_append_return (cs : List Char) : read (cs ++ ['\r']) = read cs := by
  have hvalue : Overlooks '\r' (skipSpace >>= fun _ => readValue depthLimit) :=
    overlooks_skipSpace.bind fun _ => overlooks_readValue depthLimit
  have hsame := hvalue cs _ (.behind cs)
  rw [read_eq, read_eq]
  generalize (skipSpace >>= fun _ => readValue depthLimit).run cs = outcome at hsame ⊢
  generalize (skipSpace >>= fun _ => readValue depthLimit).run (cs ++ ['\r']) = outcome' at hsame ⊢
  cases hsame with
  | error e => rfl
  | ok value hends =>
    show (if _ then _ else _) = if _ then _ else _
    rw [isEmpty_dropWhile_of_endsAlike hends]

end Sift.Json
