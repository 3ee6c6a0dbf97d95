/-
# Cursors

A cursor is a place in a text: the offset in bytes of what is left, and what is left. Its
operations pass over spaces and tabs first, and take what they find; when they find nothing, the
spaces and tabs stay passed over.

Key definitions: `Cursor`, `Cursor.ofOffset`, `Cursor.matchText`, `Cursor.matchKeyword`,
`Cursor.readIdentifier`, `Cursor.readNumber`, `Cursor.readQuoted`, `Cursor.describe`.
Key theorems: `Cursor.left_matchText_le`, `Cursor.left_matchKeyword_le`,
`Cursor.left_lt_of_matchText`, `Cursor.left_lt_of_matchKeyword`, `Cursor.left_readQuoted_le`.
-/
import Sift.Text.Blank

namespace Sift

/-- The number of bytes of a text in UTF-8. -/
def byteLength : List Char → Nat
  | [] => 0
  | c :: cs => c.utf8Size + byteLength cs

/-- A place in a text. -/
structure Cursor where
  /-- How many bytes come before. -/
  position : Nat
  /-- What comes after. -/
  rest : List Char
deriving DecidableEq

/-- Why a quoted string cannot be read. -/
inductive QuoteError where
  /-- There is no quote at the place. -/
  | missing
  /-- The quote at the place is the last one. -/
  | unterminated
deriving DecidableEq

namespace Cursor

/-- The cursor after the first `bytes` bytes of what is left; at most to the end. -/
def seek (bytes : Nat) (position : Nat) : List Char → Cursor
  | [] => ⟨position, []⟩
  | c :: cs =>
    if bytes < c.utf8Size then ⟨position, c :: cs⟩
    else seek (bytes - c.utf8Size) (position + c.utf8Size) cs

/-- The cursor at a byte offset of a text, or at its end when the offset is past it. -/
def ofOffset (text : List Char) (offset : Nat) : Cursor :=
  seek offset 0 text

/-- How many characters are left. -/
def left (cursor : Cursor) : Nat :=
  cursor.rest.length

/-- Whether nothing is left. -/
def isEof (cursor : Cursor) : Bool :=
  cursor.rest.isEmpty

/-- The cursor after characters that satisfy a test. -/
def dropWhile (test : Char → Bool) (cursor : Cursor) : Cursor :=
  ⟨cursor.position + byteLength (cursor.rest.takeWhile test), cursor.rest.dropWhile test⟩

/-- The cursor after some characters. -/
def drop (count : Nat) (cursor : Cursor) : Cursor :=
  ⟨cursor.position + byteLength (cursor.rest.take count), cursor.rest.drop count⟩

/-- The cursor after spaces and tabs. -/
def skipGap (cursor : Cursor) : Cursor :=
  cursor.dropWhile Text.isGap

/-- Whether a text comes next; if so, it is taken. -/
def matchText (text : List Char) (cursor : Cursor) : Bool × Cursor :=
  let cursor := cursor.skipGap
  if text.isPrefixOf cursor.rest then (true, cursor.drop text.length) else (false, cursor)

/-- Whether a keyword can end before a text: at the end, a space, a tab or a parenthesis. -/
def endsKeyword (rest : List Char) : Bool :=
  match rest with
  | [] => true
  | c :: _ => Text.isGap c || c == '(' || c == ')'

/-- Whether a keyword comes next and ends there; if so, it is taken. -/
def matchKeyword (keyword : List Char) (cursor : Cursor) : Bool × Cursor :=
  let cursor := cursor.skipGap
  if keyword.isPrefixOf cursor.rest && endsKeyword (cursor.rest.drop keyword.length) then
    (true, cursor.drop keyword.length)
  else (false, cursor)

/-- Takes the characters that satisfy a test. -/
def takeWhile (test : Char → Bool) (cursor : Cursor) : List Char × Cursor :=
  (cursor.rest.takeWhile test, cursor.dropWhile test)

/-- Whether a character can be in the name of a field. -/
def isNameCharacter (c : Char) : Bool :=
  c.isAlphanum || c == '_'

/-- Whether a character can be in a token without quotes. -/
def isTokenCharacter (c : Char) : Bool :=
  c.isDigit || c == '.' || c == '-'

/-- Takes a name of letters, digits and underscores of ASCII, which may be empty. -/
def readIdentifier (cursor : Cursor) : List Char × Cursor :=
  cursor.skipGap.takeWhile isNameCharacter

/-- Takes a token of digits, points and minus signs, which may be empty. -/
def readNumber (cursor : Cursor) : List Char × Cursor :=
  cursor.skipGap.takeWhile isTokenCharacter

/-- Takes a string in single quotes and gives what is between them. There are no escapes: the next
quote ends the string. -/
def readQuoted (cursor : Cursor) : Except QuoteError (List Char) × Cursor :=
  let cursor := cursor.skipGap
  match cursor.rest with
  | '\'' :: body =>
    let content := body.takeWhile (· != '\'')
    if content.length < body.length then (.ok content, cursor.drop (content.length + 2))
    else (.error .unterminated, cursor)
  | _ => (.error .missing, cursor)

/-- The byte that comes next. -/
def peekByte (cursor : Cursor) : Option UInt8 :=
  match cursor.rest with
  | [] => none
  | c :: _ => (String.utf8EncodeChar c).head?

/-- How many characters of what is left are shown in a message. -/
def excerptLength : Nat := 20

/-- What comes next, for a message: the next characters in quotes, with dots when there are more. -/
def describe (cursor : Cursor) : List Char :=
  if cursor.rest.isEmpty then "end of input".toList
  else
    '\'' :: (cursor.rest.take excerptLength ++
      if cursor.rest.length ≤ excerptLength then ['\''] else "...'".toList)

theorem left_dropWhile_le (test : Char → Bool) (cursor : Cursor) :
    (cursor.dropWhile test).left ≤ cursor.left := by
  have := congrArg List.length
    (@List.takeWhile_append_dropWhile _ test cursor.rest)
  rw [List.length_append] at this
  simp only [left, dropWhile]
  omega

theorem left_drop_le (count : Nat) (cursor : Cursor) : (cursor.drop count).left ≤ cursor.left := by
  simp [left, drop]

theorem left_skipGap_le (cursor : Cursor) : cursor.skipGap.left ≤ cursor.left :=
  left_dropWhile_le _ _

theorem left_matchText_le (text : List Char) (cursor : Cursor) :
    (cursor.matchText text).2.left ≤ cursor.left := by
  simp only [matchText]
  split
  · exact Nat.le_trans (left_drop_le _ _) (left_skipGap_le _)
  · exact left_skipGap_le _

theorem left_matchKeyword_le (keyword : List Char) (cursor : Cursor) :
    (cursor.matchKeyword keyword).2.left ≤ cursor.left := by
  simp only [matchKeyword]
  split
  · exact Nat.le_trans (left_drop_le _ _) (left_skipGap_le _)
  · exact left_skipGap_le _

/-- Dropping a text that is not empty and comes next leaves less. -/
theorem left_drop_lt {text : List Char} {cursor : Cursor} (hne : text ≠ [])
    (h : text.isPrefixOf cursor.rest = true) : (cursor.drop text.length).left < cursor.left := by
  have hle := (List.isPrefixOf_iff_prefix.mp h).length_le
  have hpos := List.length_pos_iff.mpr hne
  simp only [left, drop, List.length_drop]
  omega

theorem left_lt_of_matchText {text : List Char} {cursor cursor' : Cursor} (hne : text ≠ [])
    (h : cursor.matchText text = (true, cursor')) : cursor'.left < cursor.left := by
  simp only [matchText] at h
  split at h
  next hprefix =>
    cases h
    exact Nat.lt_of_lt_of_le (left_drop_lt hne hprefix) (left_skipGap_le _)
  next => cases h

theorem left_lt_of_matchKeyword {keyword : List Char} {cursor cursor' : Cursor}
    (hne : keyword ≠ []) (h : cursor.matchKeyword keyword = (true, cursor')) :
    cursor'.left < cursor.left := by
  simp only [matchKeyword] at h
  split at h
  next hboth =>
    cases h
    rw [Bool.and_eq_true] at hboth
    exact Nat.lt_of_lt_of_le (left_drop_lt hne hboth.1) (left_skipGap_le _)
  next => cases h

theorem left_takeWhile_le (test : Char → Bool) (cursor : Cursor) :
    (cursor.takeWhile test).2.left ≤ cursor.left :=
  left_dropWhile_le _ _

theorem left_readIdentifier_le (cursor : Cursor) : cursor.readIdentifier.2.left ≤ cursor.left :=
  Nat.le_trans (left_takeWhile_le _ _) (left_skipGap_le _)

theorem left_readNumber_le (cursor : Cursor) : cursor.readNumber.2.left ≤ cursor.left :=
  Nat.le_trans (left_takeWhile_le _ _) (left_skipGap_le _)

theorem left_readQuoted_le (cursor : Cursor) : cursor.readQuoted.2.left ≤ cursor.left := by
  have h := left_skipGap_le cursor
  simp only [readQuoted]
  split
  · split
    · exact Nat.le_trans (left_drop_le _ _) h
    · exact h
  · exact h

end Cursor

end Sift
