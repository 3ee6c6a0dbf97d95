/-
# A cursor over bytes

A place in a text can be kept as an offset into its bytes alone. Every operation then cuts the text at
offsets that it computes from lengths of parts: what is left before and after spaces and tabs, a text
that comes next, a run of bytes, the content between two quotes. A cut past the end of the text or inside
of a character has no result. Started between two characters, such a cursor never comes to one: it gives
the answers of a cursor that carries what is left along, and stops where that one does.

Key definitions: `ByteCursor`, `Cursor.Operation`, `Cursor.Answer`, `ByteCursor.perform?`,
`ByteCursor.run?`, `Cursor.Step.taken`, `Cursor.Step.Passes`.
Key theorems: `Cursor.perform?_inBytes`, `Cursor.exists_gap_of_perform`, `Cursor.run?_inBytes`,
`ByteCursor.run?_ofOffset`.
-/
import Mathlib.Data.List.Forall2
import Sift.Filter.Parser
import Sift.Proofs.Text.Slice
import Sift.Proofs.Text.Trim

namespace Sift

/-- A place in a text by the offset of its next byte. -/
structure ByteCursor where
  /-- The whole text. -/
  input : List Char
  /-- How many bytes of the text come before. -/
  position : Nat

namespace Cursor

/-- What can be asked of a cursor. -/
inductive Operation where
  | skipGap
  | matchText (sought : List Char)
  | matchKeyword (keyword : List Char)
  | readIdentifier
  | readNumber
  | readQuoted
  | describe
  | rest
  | peek
  | isEof

/-- What an operation gives. -/
inductive Answer where
  | nothing
  | matched (success : Bool)
  | run (characters : List Char)
  | quoted (result : Except ParseError (List Char))
  | shown (characters : List Char)
  | byte (next : Option UInt8)
  | eof (reached : Bool)

/-- An operation of a sequence, its answer, and where it started and stopped. -/
structure Step where
  operation : Operation
  answer : Answer
  start : Nat
  stop : Nat

end Cursor

/-! ### The operations -/

namespace ByteCursor

open Cursor (Operation Answer Step)

/-- Whether a byte can be in the name of a field. -/
def isNameByte (byte : UInt8) : Bool :=
  (48 ≤ byte && byte ≤ 57) || (65 ≤ byte && byte ≤ 90) || (97 ≤ byte && byte ≤ 122) || byte == 95

/-- Whether a byte can be in a token without quotes. -/
def isTokenByte (byte : UInt8) : Bool :=
  (48 ≤ byte && byte ≤ 57) || byte == 46 || byte == 45

/-- The place at a byte offset, or the end of the text when the offset is past it. -/
def ofOffset (input : List Char) (offset : Nat) : ByteCursor :=
  ⟨input, min offset (byteLength input)⟩

/-- The place so many bytes further on. -/
def advance (bytes : Nat) (cursor : ByteCursor) : ByteCursor :=
  ⟨cursor.input, cursor.position + bytes⟩

/-- What is left of the text. -/
def rest? (cursor : ByteCursor) : Option (List Char) :=
  Text.dropBytes? cursor.position cursor.input

/-- Passes over spaces and tabs. -/
def skipGap? (cursor : ByteCursor) : Option ByteCursor := do
  let rest ← cursor.rest?
  let trimmed := rest.dropWhile Text.isGap
  return cursor.advance (byteLength rest - byteLength trimmed)

/-- Takes a text if its bytes come next. -/
def matchText? (sought : List Char) (cursor : ByteCursor) : Option (Bool × ByteCursor) := do
  let cursor ← cursor.skipGap?
  let rest ← cursor.rest?
  if (Text.utf8 sought).isPrefixOf (Text.utf8 rest) then
    return (true, cursor.advance (byteLength sought))
  else return (false, cursor)

/-- Takes a keyword if its bytes come next and it can end there. -/
def matchKeyword? (keyword : List Char) (cursor : ByteCursor) : Option (Bool × ByteCursor) := do
  let cursor ← cursor.skipGap?
  let rest ← cursor.rest?
  if (Text.utf8 keyword).isPrefixOf (Text.utf8 rest) then
    let after ← Text.dropBytes? (byteLength keyword) rest
    if Cursor.endsKeyword after then return (true, cursor.advance (byteLength keyword))
    else return (false, cursor)
  else return (false, cursor)

/-- Takes the bytes that pass a test. -/
def takeWhile? (test : UInt8 → Bool) (cursor : ByteCursor) : Option (List Char × ByteCursor) := do
  let bytes := Text.utf8 cursor.input
  if cursor.position ≤ bytes.length then
    let after := cursor.advance ((bytes.drop cursor.position).takeWhile test).length
    let taken ← Text.slice? cursor.position after.position cursor.input
    return (taken, after)
  else none

/-- Takes a name, which may be empty. -/
def readIdentifier? (cursor : ByteCursor) : Option (List Char × ByteCursor) := do
  (← cursor.skipGap?).takeWhile? isNameByte

/-- Takes a token without quotes, which may be empty. -/
def readNumber? (cursor : ByteCursor) : Option (List Char × ByteCursor) := do
  (← cursor.skipGap?).takeWhile? isTokenByte

/-- What comes next, for a message. -/
def describe? (cursor : ByteCursor) : Option (List Char) := do
  let rest ← cursor.rest?
  if rest.isEmpty then return "end of input".toList
  else
    let excerpt := rest.take Cursor.excerptLength
    return '\'' :: (excerpt ++
      if byteLength excerpt < byteLength rest then "...'".toList else ['\''])

/-- Takes a string in single quotes and gives what is between them. -/
def readQuoted? (cursor : ByteCursor) :
    Option (Except ParseError (List Char) × ByteCursor) := do
  let cursor ← cursor.skipGap?
  let rest ← cursor.rest?
  if rest.head? = some '\'' then
    let body ← Text.dropBytes? 1 rest
    match Text.findBytes? '\'' body with
    | some stop =>
      let content ← Text.slice? 1 (stop + 1) rest
      return (.ok content, cursor.advance (stop + 2))
    | none => return (.error (.unterminatedString cursor.position), cursor)
  else
    let found ← cursor.describe?
    return (.error (.expectedToken .quotedString cursor.position (String.ofList found)), cursor)

/-- The byte that comes next. -/
def peekByte (cursor : ByteCursor) : Option UInt8 :=
  (Text.utf8 cursor.input)[cursor.position]?

/-- Whether nothing is left. -/
def isEof (cursor : ByteCursor) : Bool :=
  decide (byteLength cursor.input ≤ cursor.position)

/-- An operation on a cursor over bytes, which has no result when it cuts the text at a wrong offset. -/
def perform? (operation : Operation) (cursor : ByteCursor) : Option (Answer × ByteCursor) :=
  match operation with
  | .skipGap => cursor.skipGap?.map fun after => (.nothing, after)
  | .matchText sought => (cursor.matchText? sought).map (Prod.map .matched id)
  | .matchKeyword keyword => (cursor.matchKeyword? keyword).map (Prod.map .matched id)
  | .readIdentifier => cursor.readIdentifier?.map (Prod.map .run id)
  | .readNumber => cursor.readNumber?.map (Prod.map .run id)
  | .readQuoted => cursor.readQuoted?.map (Prod.map .quoted id)
  | .describe => cursor.describe?.map fun excerpt => (.shown excerpt, cursor)
  | .rest => cursor.rest?.map fun rest => (.shown rest, cursor)
  | .peek => some (.byte cursor.peekByte, cursor)
  | .isEof => some (.eof cursor.isEof, cursor)

/-- A sequence of operations, step by step. -/
def run? : List Operation → ByteCursor → Option (List Step × ByteCursor)
  | [], cursor => some ([], cursor)
  | operation :: operations, cursor => do
    let (answer, next) ← cursor.perform? operation
    let (steps, last) ← next.run? operations
    return (⟨operation, answer, cursor.position, next.position⟩ :: steps, last)

end ByteCursor

namespace Cursor

/-- A string in quotes, or the error that a value in its place fails with. -/
def quotedAnswer (result : Except QuoteError (List Char) × Cursor) : Answer :=
  .quoted (result.1.mapError (Filter.quoteError result.2))

/-- An operation on a cursor. -/
def perform (operation : Operation) (cursor : Cursor) : Answer × Cursor :=
  match operation with
  | .skipGap => (.nothing, cursor.skipGap)
  | .matchText sought => (cursor.matchText sought).map .matched id
  | .matchKeyword keyword => (cursor.matchKeyword keyword).map .matched id
  | .readIdentifier => cursor.readIdentifier.map .run id
  | .readNumber => cursor.readNumber.map .run id
  | .readQuoted => (quotedAnswer cursor.readQuoted, cursor.readQuoted.2)
  | .describe => (.shown cursor.describe, cursor)
  | .rest => (.shown cursor.rest, cursor)
  | .peek => (.byte cursor.peekByte, cursor)
  | .isEof => (.eof cursor.isEof, cursor)

/-- A sequence of operations, step by step. -/
def run : List Operation → Cursor → List Step × Cursor
  | [], cursor => ([], cursor)
  | operation :: operations, cursor =>
    let (answer, next) := cursor.perform operation
    let (steps, last) := next.run operations
    (⟨operation, answer, cursor.position, next.position⟩ :: steps, last)

/-- Whether an operation only looks at what comes next. -/
def Operation.looks : Operation → Bool
  | describe | rest | peek | isEof => true
  | skipGap | matchText _ | matchKeyword _ | readIdentifier | readNumber | readQuoted => false

/-- What an operation with some answer has taken behind spaces and tabs. -/
def Operation.taken : Operation → Answer → List Char
  | matchText sought, .matched true => sought
  | matchKeyword keyword, .matched true => keyword
  | readIdentifier, .run name => name
  | readNumber, .run token => token
  | readQuoted, .quoted (.ok content) => '\'' :: (content ++ ['\''])
  | _, _ => []

namespace Step

/-- What a step takes behind spaces and tabs: a text or a keyword that comes next, a name, a token, or a
string with its quotes. -/
def taken (step : Step) : List Char :=
  step.operation.taken step.answer

/-- Whether a step looked for something that does not come next. -/
def Fails (step : Step) : Prop :=
  step.answer = .matched false ∨ ∃ e, step.answer = .quoted (.error e)

/-- Whether a step passes over a part of a text, between two places of it. -/
structure Passes (text : String) (step : Step) (part : List Char) : Prop where
  isValid : (⟨step.stop⟩ : String.Pos.Raw).IsValid text
  stop_le : step.stop ≤ byteLength text.toList
  start_le : step.start ≤ step.stop
  slice?_eq : Text.slice? step.start step.stop text.toList = some part
  /-- What is taken stands behind spaces and tabs. -/
  exists_gap : ∃ gap, (∀ c ∈ gap, Text.isGap c = true) ∧ part = gap ++ step.taken
  looks : step.operation.looks = true → step.stop = step.start
  fails : step.Fails → ∀ c ∈ part, Text.isGap c = true

end Step

/-! ### One operation -/

/-- The cursor over the bytes of a text at the place of a cursor. -/
def inBytes (text : List Char) (cursor : Cursor) : ByteCursor :=
  ⟨text, cursor.position⟩

variable {text : List Char} {cursor next : Cursor}

/-- A cursor that stops behind some characters has moved on by their bytes. -/
theorem LeadsTo.position_eq (h : cursor.LeadsTo next) {passed : List Char}
    (hrest : cursor.rest = passed ++ next.rest) :
    next.position = cursor.position + byteLength passed := by
  obtain ⟨passed', hrest', hposition⟩ := h
  rw [hrest] at hrest'
  rw [hposition, List.append_cancel_right hrest']

/-- An excerpt has fewer bytes than the text if it has fewer characters. -/
theorem byteLength_take_lt_iff (count : Nat) (text : List Char) :
    byteLength (text.take count) < byteLength text ↔ ¬ text.length ≤ count := by
  have hsplit := congrArg byteLength (List.take_append_drop count text)
  have hdrop := length_le_byteLength (text.drop count)
  rw [byteLength_append] at hsplit
  rw [List.length_drop] at hdrop
  constructor
  · intro hlt hle
    rw [List.take_of_length_le hle] at hlt
    exact absurd hlt (Nat.lt_irrefl _)
  · intro hlt
    omega

theorem isByteTest_name : Text.IsByteTest ByteCursor.isNameByte isNameCharacter where
  ascii := by decide
  byte_lt byte h := by
    simp only [ByteCursor.isNameByte, Bool.or_eq_true, Bool.and_eq_true, decide_eq_true_eq,
      beq_iff_eq, UInt8.le_iff_toNat_le, ← UInt8.toNat_inj, UInt8.reduceToNat] at h
    omega
  character_lt c h := by
    rcases Bool.or_eq_true _ _ ▸ h with halphanum | hunderscore
    · exact Nat.lt_of_le_of_lt (Text.toNat_of_isAlphanum halphanum).2 (by decide)
    · rw [beq_iff_eq.mp hunderscore]
      decide

theorem isByteTest_token : Text.IsByteTest ByteCursor.isTokenByte isTokenCharacter where
  ascii := by decide
  byte_lt byte h := by
    simp only [ByteCursor.isTokenByte, Bool.or_eq_true, Bool.and_eq_true, decide_eq_true_eq,
      beq_iff_eq, UInt8.le_iff_toNat_le, ← UInt8.toNat_inj, UInt8.reduceToNat] at h
    omega
  character_lt c h := by
    simp only [isTokenCharacter, Bool.or_eq_true, beq_iff_eq] at h
    rcases h with (hdigit | rfl) | rfl
    · have halphanum : c.isAlphanum = true := by rw [Char.isAlphanum, hdigit, Bool.or_true]
      exact Nat.lt_of_le_of_lt (Text.toNat_of_isAlphanum halphanum).2 (by decide)
    · decide
    · decide

theorem inBytes_drop (text : List Char) {sought : List Char} (h : sought <+: cursor.rest) :
    (cursor.drop sought.length).inBytes text = (cursor.inBytes text).advance (byteLength sought) := by
  unfold inBytes drop
  rw [← List.prefix_iff_eq_take.mp h]
  rfl

/-- A quote begins a string up to the next one, if there is one. -/
theorem readQuoted_of_quote {body : List Char} (hbody : cursor.skipGap.rest = '\'' :: body) :
    cursor.readQuoted =
      if (body.takeWhile (· != '\'')).length < body.length then
        (.ok (body.takeWhile (· != '\'')),
          cursor.skipGap.drop ((body.takeWhile (· != '\'')).length + 2))
      else (.error .unterminated, cursor.skipGap) := by
  unfold readQuoted
  dsimp only
  rw [hbody]
  rfl

section

variable (h : (Cursor.mk 0 text).LeadsTo cursor)
include h

theorem exists_front : ∃ front, text = front ++ cursor.rest ∧ byteLength front = cursor.position := by
  obtain ⟨front, htext, hposition⟩ := h
  exact ⟨front, htext, by rw [hposition]; exact (Nat.zero_add _).symm⟩

theorem rest?_inBytes : (cursor.inBytes text).rest? = some cursor.rest := by
  obtain ⟨front, htext, hposition⟩ := exists_front h
  exact Text.dropBytes?_eq_some_iff.mpr ⟨front, htext, hposition⟩

theorem skipGap?_inBytes : (cursor.inBytes text).skipGap? = some (cursor.skipGap.inBytes text) := by
  have hsplit := congrArg byteLength
    (@List.takeWhile_append_dropWhile _ Text.isGap cursor.rest)
  rw [byteLength_append] at hsplit
  have hbytes : byteLength cursor.rest - byteLength (cursor.rest.dropWhile Text.isGap) =
      byteLength (cursor.rest.takeWhile Text.isGap) := by omega
  unfold ByteCursor.skipGap?
  rw [rest?_inBytes h]
  exact congrArg (fun bytes => some ((cursor.inBytes text).advance bytes)) hbytes

/-- What looks at the text behind spaces and tabs goes on with what is left there. -/
theorem bind_skipGap?_inBytes {α : Type} (next : ByteCursor → List Char → Option α) :
    (do let after ← (cursor.inBytes text).skipGap?; let rest ← after.rest?; next after rest) =
      next (cursor.skipGap.inBytes text) cursor.skipGap.rest := by
  have hgap := h.trans (leadsTo_skipGap cursor)
  rw [skipGap?_inBytes h, Option.bind_eq_bind, Option.bind_some, rest?_inBytes hgap,
    Option.bind_eq_bind, Option.bind_some]

theorem matchText?_inBytes (sought : List Char) :
    (cursor.inBytes text).matchText? sought =
      some ((cursor.matchText sought).1, (cursor.matchText sought).2.inBytes text) := by
  unfold ByteCursor.matchText? matchText
  rw [bind_skipGap?_inBytes h, Text.isPrefixOf_utf8]
  dsimp only
  split
  next hprefix =>
    rw [inBytes_drop text (List.isPrefixOf_iff_prefix.mp hprefix)]
    rfl
  next => rfl

theorem matchKeyword?_inBytes (keyword : List Char) :
    (cursor.inBytes text).matchKeyword? keyword =
      some ((cursor.matchKeyword keyword).1, (cursor.matchKeyword keyword).2.inBytes text) := by
  unfold ByteCursor.matchKeyword? matchKeyword
  rw [bind_skipGap?_inBytes h, Text.isPrefixOf_utf8]
  dsimp only
  cases hprefix : keyword.isPrefixOf cursor.skipGap.rest with
  | false => rfl
  | true =>
    obtain ⟨after, hafter⟩ := List.isPrefixOf_iff_prefix.mp hprefix
    have hdrop : cursor.skipGap.rest.drop keyword.length = after := by
      rw [← hafter, List.drop_left]
    have hbytes : Text.dropBytes? (byteLength keyword) cursor.skipGap.rest = some after := by
      rw [← hafter, Text.dropBytes?_append]
    rw [if_pos rfl, hbytes, Option.bind_eq_bind, Option.bind_some, hdrop, Bool.true_and]
    split
    · rw [inBytes_drop text ⟨after, hafter⟩]
      rfl
    · rfl

/-- A run of bytes of ASCII ends where the run of the characters does. -/
theorem takeWhile?_inBytes {byteTest : UInt8 → Bool} {test : Char → Bool}
    (htest : Text.IsByteTest byteTest test) :
    (cursor.inBytes text).takeWhile? byteTest =
      some ((cursor.takeWhile test).1, (cursor.takeWhile test).2.inBytes text) := by
  obtain ⟨front, rfl, hposition⟩ := exists_front h
  -- The bytes behind the place are those of what is left, so the run ends between two characters.
  have hbytes : (Text.utf8 (front ++ cursor.rest)).drop cursor.position = Text.utf8 cursor.rest := by
    rw [Text.utf8_append, ← hposition, ← Text.length_utf8, List.drop_left]
  have hle : cursor.position ≤ (Text.utf8 (front ++ cursor.rest)).length := by
    rw [Text.length_utf8, byteLength_append]
    omega
  have hslice : Text.slice? cursor.position
      (cursor.position + byteLength (cursor.rest.takeWhile test)) (front ++ cursor.rest) =
        some (cursor.rest.takeWhile test) :=
    Text.slice?_eq_some_iff.mpr ⟨front, cursor.rest.dropWhile test,
      by rw [List.takeWhile_append_dropWhile], hposition, rfl⟩
  unfold ByteCursor.takeWhile? inBytes ByteCursor.advance
  dsimp only
  rw [if_pos hle, hbytes, Text.length_takeWhile_utf8 htest, hslice]
  rfl

theorem describe?_inBytes : (cursor.inBytes text).describe? = some cursor.describe := by
  unfold ByteCursor.describe? describe
  rw [rest?_inBytes h, Option.bind_eq_bind, Option.bind_some]
  split
  · rfl
  · simp only [byteLength_take_lt_iff, ite_not]
    rfl

theorem readQuoted?_inBytes :
    (cursor.inBytes text).readQuoted? =
      some (cursor.readQuoted.1.mapError (Filter.quoteError cursor.readQuoted.2),
        cursor.readQuoted.2.inBytes text) := by
  have hgap := h.trans (leadsTo_skipGap cursor)
  unfold ByteCursor.readQuoted?
  rw [bind_skipGap?_inBytes h]
  split
  next hquote =>
    obtain ⟨body, hbody⟩ := List.head?_eq_some_iff.mp hquote
    have hdrop : Text.dropBytes? 1 ('\'' :: body) = some body := Text.dropBytes?_append ['\''] body
    rw [readQuoted_of_quote hbody, hbody, hdrop, Option.bind_eq_bind, Option.bind_some,
      Text.findBytes?_eq]
    by_cases hlength : (body.takeWhile (· != '\'')).length < body.length
    · obtain ⟨after, hafter⟩ := exists_of_length_takeWhile_quote hlength
      rw [if_pos hlength, if_pos hlength]
      generalize body.takeWhile (· != '\'') = content at *
      subst hafter
      -- The offset of the closing quote is counted behind the opening one, the cut in front of it.
      have hslice : Text.slice? 1 (byteLength content + 1) ('\'' :: (content ++ '\'' :: after)) =
          some content :=
        Text.slice?_eq_some_iff.mpr ⟨['\''], '\'' :: after, rfl, rfl, Nat.add_comm _ _⟩
      have hbytes : byteLength ('\'' :: (content ++ ['\''])) = byteLength content + 2 := by
        rw [byteLength, byteLength_append]
        exact Nat.add_comm 1 (byteLength content + 1)
      have hprefix : '\'' :: (content ++ ['\'']) <+: cursor.skipGap.rest := ⟨after, by simp [hbody]⟩
      have hnext := inBytes_drop text hprefix
      rw [hbytes, List.length_cons, List.length_append, List.length_singleton] at hnext
      dsimp only
      rw [hslice, Option.bind_some, ← hnext]
      rfl
    · rw [if_neg hlength, if_neg hlength]
      rfl
  next hquote =>
    have hread : cursor.readQuoted = (.error .missing, cursor.skipGap) := by
      unfold readQuoted
      dsimp only
      split
      next body hbody => exact absurd (congrArg List.head? hbody) hquote
      next => rfl
    rw [describe?_inBytes hgap, hread]
    rfl

theorem peekByte_inBytes : (cursor.inBytes text).peekByte = cursor.peekByte := by
  obtain ⟨front, rfl, hposition⟩ := exists_front h
  have hbytes : (cursor.inBytes (front ++ cursor.rest)).peekByte = (Text.utf8 cursor.rest)[0]? := by
    unfold ByteCursor.peekByte inBytes
    dsimp only
    rw [Text.utf8_append, List.getElem?_append_right (by rw [Text.length_utf8]; omega),
      Text.length_utf8, hposition, Nat.sub_self]
  rw [hbytes, peekByte]
  cases cursor.rest with
  | nil => rfl
  | cons c rest =>
    obtain ⟨byte, bytes, hc⟩ := List.exists_cons_of_ne_nil
      (show String.utf8EncodeChar c ≠ [] from String.utf8EncodeChar_ne_nil)
    dsimp only
    rw [Text.utf8_cons, hc]
    rfl

theorem isEof_inBytes : (cursor.inBytes text).isEof = cursor.isEof := by
  obtain ⟨front, rfl, hposition⟩ := exists_front h
  have hlength := length_le_byteLength cursor.rest
  have hbytes := byteLength_append front cursor.rest
  unfold ByteCursor.isEof isEof inBytes
  rw [Bool.eq_iff_iff, decide_eq_true_iff, List.isEmpty_iff]
  constructor
  · intro hle
    exact List.length_eq_zero_iff.mp (by dsimp only at hle; omega)
  · intro hrest
    rw [hrest, List.append_nil]
    exact Nat.le_of_eq hposition

/-- **An operation over the bytes does what it does on what is left.** -/
theorem perform?_inBytes (operation : Operation) :
    (cursor.inBytes text).perform? operation =
      some ((cursor.perform operation).1, (cursor.perform operation).2.inBytes text) := by
  have hgap := h.trans (leadsTo_skipGap cursor)
  cases operation with
  | skipGap => rw [ByteCursor.perform?, skipGap?_inBytes h]; rfl
  | matchText sought => rw [ByteCursor.perform?, matchText?_inBytes h]; rfl
  | matchKeyword keyword => rw [ByteCursor.perform?, matchKeyword?_inBytes h]; rfl
  | readIdentifier =>
    rw [ByteCursor.perform?, ByteCursor.readIdentifier?, skipGap?_inBytes h, Option.bind_eq_bind,
      Option.bind_some, takeWhile?_inBytes hgap isByteTest_name]
    rfl
  | readNumber =>
    rw [ByteCursor.perform?, ByteCursor.readNumber?, skipGap?_inBytes h, Option.bind_eq_bind,
      Option.bind_some, takeWhile?_inBytes hgap isByteTest_token]
    rfl
  | readQuoted => rw [ByteCursor.perform?, readQuoted?_inBytes h]; rfl
  | describe => rw [ByteCursor.perform?, describe?_inBytes h]; rfl
  | rest => rw [ByteCursor.perform?, rest?_inBytes h]; rfl
  | peek => rw [ByteCursor.perform?, peekByte_inBytes h]; rfl
  | isEof => rw [ByteCursor.perform?, isEof_inBytes h]; rfl

end

theorem leadsTo_perform (operation : Operation) (cursor : Cursor) :
    cursor.LeadsTo (cursor.perform operation).2 := by
  cases operation with
  | skipGap => exact leadsTo_skipGap cursor
  | matchText sought => exact leadsTo_matchText sought cursor
  | matchKeyword keyword => exact leadsTo_matchKeyword keyword cursor
  | readIdentifier => exact leadsTo_readIdentifier cursor
  | readNumber => exact leadsTo_readNumber cursor
  | readQuoted => exact leadsTo_readQuoted cursor
  | describe | rest | peek | isEof => exact leadsTo_refl cursor

/-- An operation passes over spaces and tabs and over what it takes. -/
theorem exists_gap_of_perform (operation : Operation) (cursor : Cursor) :
    ∃ gap, (∀ c ∈ gap, Text.isGap c = true) ∧
      cursor.rest = gap ++ (operation.taken (cursor.perform operation).1 ++
        (cursor.perform operation).2.rest) := by
  obtain ⟨gap, hgap, hrest⟩ := Text.exists_gap cursor.rest
  cases operation with
  | skipGap => exact ⟨gap, hgap, hrest⟩
  | matchText sought =>
    refine ⟨gap, hgap, hrest.trans (congrArg (gap ++ ·) ?_)⟩
    rw [perform]
    cases hmatch : cursor.matchText sought with
    | mk success next =>
      cases success with
      | true => exact rest_of_matchText hmatch
      | false => rw [(eq_skipGap_of_matchText hmatch).1]; rfl
  | matchKeyword keyword =>
    refine ⟨gap, hgap, hrest.trans (congrArg (gap ++ ·) ?_)⟩
    rw [perform]
    cases hmatch : cursor.matchKeyword keyword with
    | mk success next =>
      cases success with
      | true => exact (rest_of_matchKeyword hmatch).1
      | false => rw [(eq_skipGap_of_matchKeyword hmatch).1]; rfl
  | readIdentifier =>
    exact ⟨gap, hgap, hrest.trans (congrArg (gap ++ ·) (rest_of_readIdentifier rfl).1)⟩
  | readNumber => exact ⟨gap, hgap, hrest.trans (congrArg (gap ++ ·) (rest_of_readNumber rfl).1)⟩
  | readQuoted =>
    refine ⟨gap, hgap, hrest.trans (congrArg (gap ++ ·) ?_)⟩
    rw [perform, quotedAnswer]
    cases hquoted : cursor.readQuoted with
    | mk result next =>
      cases result with
      | ok content =>
        rw [(rest_of_readQuoted hquoted).1]
        simp [Operation.taken, Except.mapError]
      | error e => rw [eq_skipGap_of_readQuoted hquoted]; rfl
  | describe | rest | peek | isEof => exact ⟨[], nofun, rfl⟩

/-- An operation that fails takes nothing. -/
theorem Step.taken_of_fails {step : Step} (h : step.Fails) : step.taken = [] := by
  obtain ⟨operation, answer, start, stop⟩ := step
  obtain rfl | ⟨e, rfl⟩ : answer = .matched false ∨ ∃ e, answer = .quoted (.error e) := h
  · cases operation <;> rfl
  · cases operation <;> rfl

theorem perform_looks {operation : Operation} (h : operation.looks = true) (cursor : Cursor) :
    (cursor.perform operation).2 = cursor := by
  cases operation <;> first | rfl | cases h

/-- The part of a text between the places of two cursors. -/
theorem slice?_of_leadsTo (h : (Cursor.mk 0 text).LeadsTo cursor) (hnext : cursor.LeadsTo next)
    {part : List Char} (hpart : cursor.rest = part ++ next.rest) :
    Text.slice? cursor.position next.position text = some part := by
  obtain ⟨front, htext, hposition⟩ := exists_front h
  exact Text.slice?_eq_some_iff.mpr
    ⟨front, next.rest, by rw [htext, hpart], hposition, hnext.position_eq hpart⟩

/-- The place of a cursor in a text is an offset between two characters. -/
theorem isValid_position {text : String} (h : (Cursor.mk 0 text.toList).LeadsTo cursor) :
    (⟨cursor.position⟩ : String.Pos.Raw).IsValid text ∧
      cursor.position ≤ byteLength text.toList := by
  obtain ⟨front, htext, hposition⟩ := exists_front h
  rw [← hposition]
  refine ⟨isValid_byteLength htext, ?_⟩
  rw [htext, byteLength_append]
  exact Nat.le_add_right _ _

/-! ### Sequences of operations -/

/-- One step passes over a part of the text. -/
theorem exists_passes {text : String} (h : (Cursor.mk 0 text.toList).LeadsTo cursor)
    (operation : Operation) :
    ∃ part, (Step.mk operation (cursor.perform operation).1 cursor.position
        (cursor.perform operation).2.position).Passes text part ∧
      cursor.rest = part ++ (cursor.perform operation).2.rest := by
  obtain ⟨gap, hgap, hrest⟩ := exists_gap_of_perform operation cursor
  have hleads := leadsTo_perform operation cursor
  have hpart : cursor.rest = (gap ++ operation.taken (cursor.perform operation).1) ++
      (cursor.perform operation).2.rest := by rw [hrest, List.append_assoc]
  obtain ⟨hvalid, hle⟩ := isValid_position (h.trans hleads)
  refine ⟨_, ⟨hvalid, hle, ?_, slice?_of_leadsTo h hleads hpart, ⟨gap, hgap, rfl⟩, fun hlooks => ?_,
    fun hfails c hc => ?_⟩, hpart⟩
  · have hposition := hleads.position_eq hpart
    dsimp only
    omega
  · exact congrArg position (perform_looks hlooks cursor)
  · have htaken : operation.taken (cursor.perform operation).1 = [] := Step.taken_of_fails hfails
    rw [htaken, List.append_nil] at hc
    exact hgap c hc

theorem leadsTo_run : ∀ (operations : List Operation) (cursor : Cursor),
    cursor.LeadsTo (cursor.run operations).2
  | [], cursor => leadsTo_refl cursor
  | operation :: operations, cursor =>
    (leadsTo_perform operation cursor).trans (leadsTo_run operations (cursor.perform operation).2)

theorem run?_inBytes : ∀ (operations : List Operation) {cursor : Cursor},
    (Cursor.mk 0 text).LeadsTo cursor →
    (cursor.inBytes text).run? operations =
      some ((cursor.run operations).1, (cursor.run operations).2.inBytes text)
  | [], _, _ => rfl
  | operation :: operations, cursor, h => by
    have hrun := run?_inBytes operations (h.trans (leadsTo_perform operation cursor))
    rw [ByteCursor.run?, perform?_inBytes h, Option.bind_eq_bind, Option.bind_some]
    dsimp only
    rw [hrun]
    rfl

theorem exists_passes_run {text : String} : ∀ (operations : List Operation) {cursor : Cursor},
    (Cursor.mk 0 text.toList).LeadsTo cursor →
    ∃ parts, List.Forall₂ (Step.Passes text) (cursor.run operations).1 parts ∧
      cursor.rest = parts.flatten ++ (cursor.run operations).2.rest
  | [], _, _ => ⟨[], .nil, rfl⟩
  | operation :: operations, cursor, h => by
    obtain ⟨part, hpart, hrest⟩ := exists_passes h operation
    obtain ⟨parts, hparts, hrest'⟩ :=
      exists_passes_run operations (h.trans (leadsTo_perform operation cursor))
    refine ⟨part :: parts, .cons hpart hparts, ?_⟩
    rw [hrest, hrest', List.flatten_cons, List.append_assoc]
    rfl

/-! ### The start -/

theorem seek_append : ∀ (front back : List Char) (position : Nat),
    seek (byteLength front) position (front ++ back) = ⟨position + byteLength front, back⟩
  | [], [], _ => rfl
  | [], c :: back, position => by
    have hpos := c.utf8Size_pos
    exact if_pos hpos
  | c :: front, back, position => by
    rw [byteLength, List.cons_append, seek, if_neg (by omega), Nat.add_sub_cancel_left,
      seek_append front back, Nat.add_assoc]

theorem seek_past : ∀ (text : List Char) {bytes : Nat} (position : Nat), byteLength text < bytes →
    seek bytes position text = ⟨position + byteLength text, []⟩
  | [], _, _, _ => rfl
  | c :: text, bytes, position, h => by
    rw [byteLength] at h
    rw [seek, if_neg (by omega), seek_past text _ (by omega), byteLength, Nat.add_assoc]

/-- A cursor starts between two characters of its text, or at the end. -/
theorem ofOffset_inBytes {text : String} {offset : Nat}
    (h : (⟨offset⟩ : String.Pos.Raw).IsValid text ∨ byteLength text.toList < offset) :
    ByteCursor.ofOffset text.toList offset = (ofOffset text.toList offset).inBytes text.toList ∧
      (Cursor.mk 0 text.toList).LeadsTo (ofOffset text.toList offset) := by
  unfold ByteCursor.ofOffset ofOffset inBytes
  rcases h with hvalid | hpast
  · obtain ⟨front, back, rfl, hoffset⟩ := String.Pos.Raw.isValid_iff_exists_append.mp hvalid
    have hbytes : offset = byteLength front.toList := by
      rw [← utf8ByteSize_ofList, String.ofList_toList]
      exact congrArg String.Pos.Raw.byteIdx hoffset
    subst hbytes
    rw [String.toList_append, seek_append, byteLength_append, Nat.min_eq_left (Nat.le_add_right _ _),
      Nat.zero_add]
    exact ⟨rfl, front.toList, rfl, (Nat.zero_add _).symm⟩
  · rw [seek_past _ _ hpast, Nat.min_eq_right (Nat.le_of_lt hpast), Nat.zero_add]
    exact ⟨rfl, text.toList, (List.append_nil _).symm, (Nat.zero_add _).symm⟩

end Cursor

/-- **A cursor over bytes never leaves its text.** Started between two characters or past the end, every
sequence of operations has a result, so that the text is never cut out of range or inside of a character,
and it is the result of the same operations on a cursor that carries what is left along. Every step stops
between two characters of the text and not before it started; one that only looks stays where it is, and
one that fails passes over spaces and tabs only. What stands between the start and the last place is what
the steps passed over, in their order: for each one spaces and tabs and then what it takes. -/
theorem ByteCursor.run?_ofOffset (text : String) {offset : Nat}
    (h : (⟨offset⟩ : String.Pos.Raw).IsValid text ∨ byteLength text.toList < offset)
    (operations : List Cursor.Operation) :
    ∃ steps parts last,
      (ofOffset text.toList offset).run? operations = some (steps, ⟨text.toList, last⟩) ∧
      ((Cursor.ofOffset text.toList offset).run operations).1 = steps ∧
      ((Cursor.ofOffset text.toList offset).run operations).2.position = last ∧
      (⟨last⟩ : String.Pos.Raw).IsValid text ∧ last ≤ byteLength text.toList ∧
      List.Forall₂ (Cursor.Step.Passes text) steps parts ∧
      Text.slice? (ofOffset text.toList offset).position last text.toList = some parts.flatten := by
  obtain ⟨hstart, hleads⟩ := Cursor.ofOffset_inBytes h
  have hlast := Cursor.leadsTo_run operations (Cursor.ofOffset text.toList offset)
  obtain ⟨parts, hparts, hrest⟩ := Cursor.exists_passes_run operations hleads
  obtain ⟨hvalid, hle⟩ := Cursor.isValid_position (hleads.trans hlast)
  rw [hstart]
  exact ⟨_, parts, _, Cursor.run?_inBytes operations hleads, rfl, rfl, hvalid, hle, hparts,
    Cursor.slice?_of_leadsTo hleads hlast hrest⟩

/-- Two bytes into a text, behind its first character, a string in quotes is read up to the end. -/
theorem ByteCursor.run?_ofOffset_behind_character :
    (⟨2⟩ : String.Pos.Raw).IsValid "é 'ü'" ∧
      ∃ steps parts, steps =
          [⟨.readQuoted, .quoted (.ok ['ü']), 2, 7⟩, ⟨.matchText ['ü'], .matched false, 7, 7⟩] ∧
        (ofOffset "é 'ü'".toList 2).run? [.readQuoted, .matchText ['ü']] =
          some (steps, ⟨"é 'ü'".toList, 7⟩) ∧
        List.Forall₂ (Cursor.Step.Passes "é 'ü'") steps parts ∧
        Text.slice? 2 7 "é 'ü'".toList = some parts.flatten := by
  have hvalid : (⟨2⟩ : String.Pos.Raw).IsValid "é 'ü'" :=
    isValid_byteLength (show "é 'ü'".toList = ['é'] ++ " 'ü'".toList from rfl)
  obtain ⟨steps, parts, last, hrun, hsteps, rfl, -, -, hparts, hslice⟩ :=
    run?_ofOffset "é 'ü'" (.inl hvalid) [.readQuoted, .matchText ['ü']]
  exact ⟨hvalid, steps, parts, hsteps.symm, hrun, hparts, hslice⟩

/-- Inside of a character there is nothing to read. -/
example : (ByteCursor.mk "é".toList 1).run? [.rest] = none := by rfl

end Sift
