/-
# Records in texts put together

Two texts with a line feed between them hold the records of the first and then those of the second. If
the first cannot be read, neither can both, for the same reason; if it can, they end with the error of
the second, its line counted on from the lines of the first. What is left open at the end of the first
text is a line, and the line feed closes it: an empty line is blank, and a carriage return that becomes
part of the end of the line has no meaning in it. So carriage returns in front of all line feeds change
nothing, and a blank text adds nothing but its lines.

Key definitions: `DecodeError.later`, `returnAtFeeds`.
Key theorems: `Record.readLine_append_return`, `Record.readLinesFrom_append`,
`Record.readLines_append`, `Record.readLines_of_no_feed`, `Record.readLines_put_together`.
-/
import Sift.Proofs.Json.LineEnd
import Sift.Proofs.Record.Lines

namespace Sift

/-- The line that an error names. -/
def DecodeError.line : DecodeError → Nat
  | unreadableLine line | invalidJson line _ | invalidRecord line _ => line

/-- The same error so many lines later. -/
def DecodeError.later (lines : Nat) : DecodeError → DecodeError
  | unreadableLine line => unreadableLine (line + lines)
  | invalidJson line cause => invalidJson (line + lines) cause
  | invalidRecord line cause => invalidRecord (line + lines) cause

theorem DecodeError.line_later (lines : Nat) (error : DecodeError) :
    (error.later lines).line = error.line + lines := by
  cases error <;> rfl

/-- The bytes of a text with a carriage return in front of every line feed. -/
def returnAtFeeds (bytes : List UInt8) : List UInt8 :=
  bytes.flatMap fun byte => if byte = 10 then [13, 10] else [byte]

/-! ### Lines -/

/-- A text is split at each of its line feeds. -/
theorem splitLinesFrom_append_feed (a b : List UInt8) : ∀ current : List UInt8,
    splitLinesFrom current (a ++ 10 :: b) = splitLinesFrom current (a ++ [10]) ++ splitLines b := by
  induction a with
  | nil => exact fun current => rfl
  | cons byte a ih =>
    intro current
    by_cases hbyte : byte = 10
    · simp only [List.cons_append, splitLinesFrom, if_pos hbyte, ih]
    · simp only [List.cons_append, splitLinesFrom, if_neg hbyte, ih]

/-- A text that ends in a line feed has as many lines as line feeds. -/
theorem length_splitLinesFrom_feed (a : List UInt8) : ∀ current : List UInt8,
    (splitLinesFrom current (a ++ [10])).length = a.count 10 + 1 := by
  induction a with
  | nil => exact fun current => rfl
  | cons byte a ih =>
    intro current
    by_cases hbyte : byte = 10
    · subst hbyte
      simp only [List.cons_append, splitLinesFrom, if_pos, List.length_cons, ih,
        List.count_cons_self]
    · simp only [List.cons_append, splitLinesFrom, if_neg hbyte, ih, List.count_cons_of_ne hbyte]

namespace Record

/-! ### One line -/

/-- The line of a text that can be decoded. -/
theorem readLine_utf8 (number : Nat) (cs : List Char) :
    readLine number (Text.utf8 cs) =
      if cs.all Text.isBlank then .ok none
      else
        match Json.read cs with
        | .error cause => .error (.invalidJson number cause)
        | .ok json =>
          match ofJson json with
          | .error cause => .error (.invalidRecord number cause)
          | .ok record => .ok (some record) := by
  obtain ⟨text, rfl⟩ : ∃ text : String, cs = text.toList :=
    ⟨String.ofList cs, String.toList_ofList.symm⟩
  have htext : String.fromUTF8? (Text.utf8 text.toList).toByteArray = some text := by
    rw [Text.fromUTF8?_utf8, String.ofList_toList]
  unfold readLine
  split
  next hnone =>
    rw [htext] at hnone
    cases hnone
  next other hother =>
    obtain rfl := Option.some.inj (htext.symm.trans hother)
    rfl

theorem readLine_of_undecodable (number : Nat) {bytes : List UInt8}
    (h : String.fromUTF8? bytes.toByteArray = none) :
    readLine number bytes = .error (.unreadableLine number) := by
  rw [readLine, h]

theorem readLine_of_blank (number : Nat) {blanks : List Char}
    (h : blanks.all Text.isBlank = true) : readLine number (Text.utf8 blanks) = .ok none := by
  rw [readLine_utf8, if_pos h]

/-- Only a blank line has no record. -/
theorem readLine_eq_none_iff (number : Nat) (bytes : List UInt8) :
    readLine number bytes = .ok none ↔
      ∃ blanks : List Char, blanks.all Text.isBlank = true ∧ bytes = Text.utf8 blanks := by
  constructor
  · intro h
    cases hbytes : String.fromUTF8? bytes.toByteArray with
    | none =>
      rw [readLine_of_undecodable number hbytes] at h
      cases h
    | some text =>
      have hutf8 := Text.eq_utf8_of_fromUTF8? hbytes
      refine ⟨text.toList, ?_, hutf8⟩
      by_contra hblank
      rw [hutf8, readLine_utf8, if_neg hblank] at h
      cases hjson : Json.read text.toList with
      | error cause => simp [hjson] at h
      | ok json => cases hrecord : ofJson json <;> simp [hjson, hrecord] at h
  · rintro ⟨blanks, hblank, rfl⟩
    exact readLine_of_blank number hblank

/-- A carriage return at the end of a line has no meaning. -/
theorem readLine_append_return (number : Nat) (bytes : List UInt8) :
    readLine number (bytes ++ [13]) = readLine number bytes := by
  cases hbytes : String.fromUTF8? bytes.toByteArray with
  | some text =>
    have hreturn : Text.utf8 text.toList ++ [13] = Text.utf8 (text.toList ++ ['\r']) :=
      (Text.utf8_append text.toList ['\r']).symm
    have hblank : (text.toList ++ ['\r']).all Text.isBlank = text.toList.all Text.isBlank := by
      rw [List.all_append]
      exact Bool.and_true _
    rw [Text.eq_utf8_of_fromUTF8? hbytes, hreturn, readLine_utf8, readLine_utf8, hblank,
      Json.read_append_return]
  | none =>
    have hreturn : String.fromUTF8? (bytes ++ [13]).toByteArray = none := by
      rw [Option.eq_none_iff_forall_ne_some]
      intro text htext
      obtain ⟨front, -, hfront⟩ :=
        Text.exists_of_utf8_eq_append_return (Text.eq_utf8_of_fromUTF8? htext).symm
      rw [hfront, Text.fromUTF8?_utf8] at hbytes
      cases hbytes
    rw [readLine_of_undecodable number hreturn, readLine_of_undecodable number hbytes]

/-- So it makes no difference whether the end of a line takes a carriage return with it. -/
theorem readLine_endLine (number : Nat) (current : List UInt8) :
    readLine number (endLine current) = readLine number current.reverse := by
  cases current with
  | nil => rfl
  | cons byte bytes =>
    by_cases hbyte : byte = 13
    · rw [endLine, if_pos hbyte, hbyte, List.reverse_cons, readLine_append_return]
    · rw [endLine, if_neg hbyte]

/-- The number of a line appears in its error and nowhere else. -/
theorem readLine_later (lines number : Nat) (bytes : List UInt8) :
    readLine (number + lines) bytes = (readLine number bytes).mapError (·.later lines) := by
  unfold readLine
  cases String.fromUTF8? bytes.toByteArray with
  | none => rfl
  | some text =>
    dsimp only
    split
    · rfl
    · cases Json.read text.toList with
      | error cause => rfl
      | ok json =>
        dsimp only
        cases ofJson json <;> rfl

/-! ### Several lines -/

theorem readLinesFrom_cons (number : Nat) (line : List UInt8) (lines : List (List UInt8)) :
    readLinesFrom number (line :: lines) =
      (readLine number line).bind fun record =>
        (readLinesFrom (number + 1) lines).map (record.toList ++ ·) := by
  rw [readLinesFrom]
  cases readLine number line with
  | error e => rfl
  | ok record =>
    cases readLinesFrom (number + 1) lines <;> rfl

theorem readLinesFrom_later (lines : Nat) (rest : List (List UInt8)) : ∀ number : Nat,
    readLinesFrom (number + lines) rest =
      (readLinesFrom number rest).mapError (·.later lines) := by
  induction rest with
  | nil => exact fun number => rfl
  | cons line rest ih =>
    intro number
    have hnumber : number + lines + 1 = number + 1 + lines := by omega
    rw [readLinesFrom_cons, readLinesFrom_cons, readLine_later, hnumber, ih]
    cases readLine number line with
    | error e => rfl
    | ok record => cases readLinesFrom (number + 1) rest <;> rfl

/-- The lines behind others are numbered on. -/
theorem readLinesFrom_append (front rest : List (List UInt8)) : ∀ number : Nat,
    readLinesFrom number (front ++ rest) =
      (readLinesFrom number front).bind fun records =>
        (readLinesFrom (number + front.length) rest).map (records ++ ·) := by
  induction front with
  | nil =>
    intro number
    show readLinesFrom number rest = (readLinesFrom number rest).map ([] ++ ·)
    cases readLinesFrom number rest <;> rfl
  | cons line front ih =>
    intro number
    have hnumber : number + 1 + front.length = number + (line :: front).length := by
      rw [List.length_cons]
      omega
    rw [List.cons_append, readLinesFrom_cons, readLinesFrom_cons, ih, hnumber]
    cases readLine number line with
    | error e => rfl
    | ok record =>
      cases readLinesFrom (number + 1) front with
      | error e => rfl
      | ok records =>
        cases readLinesFrom (number + (line :: front).length) rest with
        | error e => rfl
        | ok others => exact congrArg Except.ok (List.append_assoc _ _ _).symm

/-- The line feed that closes the last line of a text adds nothing. -/
theorem readLinesFrom_append_feed (bytes : List UInt8) : ∀ (number : Nat) (current : List UInt8),
    readLinesFrom number (splitLinesFrom current (bytes ++ [10])) =
      readLinesFrom number (splitLinesFrom current bytes) := by
  induction bytes with
  | nil =>
    intro number current
    have hempty : readLine number [] = .ok none := rfl
    show readLinesFrom number [endLine current] =
      readLinesFrom number (if current.isEmpty then [] else [current.reverse])
    rw [readLinesFrom_cons, readLine_endLine]
    cases current with
    | nil => rfl
    | cons byte current => exact (readLinesFrom_cons number (byte :: current).reverse []).symm
  | cons byte bytes ih =>
    intro number current
    by_cases hbyte : byte = 10
    · simp only [List.cons_append, splitLinesFrom, if_pos hbyte, readLinesFrom_cons, ih]
    · simp only [List.cons_append, splitLinesFrom, if_neg hbyte, ih]

theorem readLinesFrom_returnAtFeeds (bytes : List UInt8) :
    ∀ (number : Nat) (current : List UInt8),
      readLinesFrom number (splitLinesFrom current (returnAtFeeds bytes)) =
        readLinesFrom number (splitLinesFrom current bytes) := by
  induction bytes with
  | nil => exact fun number current => rfl
  | cons byte bytes ih =>
    intro number current
    by_cases hbyte : byte = 10
    · have hreturn : returnAtFeeds (byte :: bytes) = 13 :: 10 :: returnAtFeeds bytes := by
        rw [returnAtFeeds, List.flatMap_cons, if_pos hbyte]
        rfl
      have hne : (13 : UInt8) ≠ 10 := by decide
      rw [hreturn, splitLinesFrom, if_neg hne, splitLinesFrom, if_pos rfl, splitLinesFrom,
        if_pos hbyte, readLinesFrom_cons, readLinesFrom_cons, ih,
        readLine_endLine number current, endLine, if_pos rfl]
    · have hbytes : returnAtFeeds (byte :: bytes) = byte :: returnAtFeeds bytes := by
        rw [returnAtFeeds, List.flatMap_cons, if_neg hbyte]
        rfl
      rw [hbytes, splitLinesFrom, if_neg hbyte, splitLinesFrom, if_neg hbyte, ih]

/-! ### Texts -/

/-- The records of two texts with a line feed between them. -/
theorem readLines_append (a b : List UInt8) :
    readLines (a ++ 10 :: b) =
      (readLines a).bind fun records =>
        ((readLines b).mapError (·.later (a.count 10 + 1))).map (records ++ ·) := by
  rw [readLines, splitLines, splitLinesFrom_append_feed, readLinesFrom_append,
    length_splitLinesFrom_feed, readLinesFrom_append_feed, readLinesFrom_later]
  rfl

theorem readLines_returnAtFeeds (bytes : List UInt8) :
    readLines (returnAtFeeds bytes) = readLines bytes :=
  readLinesFrom_returnAtFeeds bytes 1 []

/-- A text without line feeds is one line, and the empty text as good as one. -/
theorem readLines_of_no_feed {bytes : List UInt8} (h : 10 ∉ bytes) :
    readLines bytes = (readLine 1 bytes).map Option.toList := by
  have hsplit : splitLinesFrom [] (bytes ++ [10]) = [endLine bytes.reverse] := by
    rw [splitLinesFrom_append h, List.append_nil]
    rfl
  rw [readLines, splitLines, ← readLinesFrom_append_feed, hsplit, readLinesFrom_cons,
    readLine_endLine, List.reverse_reverse]
  cases readLine 1 bytes with
  | error e => rfl
  | ok record => exact congrArg Except.ok (List.append_nil record.toList)

/-- A blank text has no records. -/
theorem readLines_of_blank (blanks : List Char) (h : blanks.all Text.isBlank = true) :
    readLines (Text.utf8 blanks) = .ok [] := by
  by_cases hfeed : '\n' ∈ blanks
  · obtain ⟨front, rest, rfl⟩ := List.append_of_mem hfeed
    obtain ⟨hfront, hrest⟩ := Bool.and_eq_true_iff.mp (List.all_append ▸ h)
    have hbytes : Text.utf8 (front ++ '\n' :: rest) = Text.utf8 front ++ 10 :: Text.utf8 rest :=
      Text.utf8_append front ('\n' :: rest)
    rw [hbytes, readLines_append, readLines_of_blank front hfront,
      readLines_of_blank rest (Bool.and_eq_true_iff.mp hrest).2]
    rfl
  · have hbytes : 10 ∉ Text.utf8 blanks :=
      fun hmem => hfeed (Text.mem_of_mem_utf8 hmem (by decide))
    rw [readLines_of_no_feed hbytes, readLine_of_blank 1 h]
    rfl
termination_by blanks.length
decreasing_by all_goals simp +arith [*]

/-- **Records in lines are read text by text.** A text without line feeds has the record of its line.
With a line feed between them, two texts that can be read have the records of both; what keeps the
first from being read keeps both, and what keeps only the second does so at a line that is counted on
from the first. Carriage returns in front of the line feeds have no meaning. Lines without a record
are the blank ones, and blank texts in front of others and behind them add to the count of the lines
alone. -/
theorem readLines_put_together (a b : List UInt8) :
    (10 ∉ a → readLines a = (readLine 1 a).map Option.toList) ∧
    (∀ x y, readLines a = .ok x → readLines b = .ok y → readLines (a ++ 10 :: b) = .ok (x ++ y)) ∧
    (∀ error, readLines a = .error error → readLines (a ++ 10 :: b) = .error error) ∧
    (∀ x error, readLines a = .ok x → readLines b = .error error →
      readLines (a ++ 10 :: b) = .error (error.later (1 + a.count 10)) ∧
        (error.later (1 + a.count 10)).line = error.line + 1 + a.count 10) ∧
    readLines (returnAtFeeds a) = readLines a ∧
    (∀ number line, readLine number line = .ok none ↔
      ∃ blanks : List Char, blanks.all Text.isBlank = true ∧ line = Text.utf8 blanks) ∧
    ∀ blanks : List Char, blanks.all Text.isBlank = true →
      readLines (Text.utf8 blanks) = .ok [] ∧
      readLines (a ++ 10 :: Text.utf8 blanks) = readLines a ∧
      readLines (Text.utf8 blanks ++ 10 :: b) =
        (readLines b).mapError (·.later (1 + (Text.utf8 blanks).count 10)) := by
  refine ⟨readLines_of_no_feed, ?bothRead, ?firstFails, ?secondFails, readLines_returnAtFeeds a,
    readLine_eq_none_iff, ?blank⟩
  case bothRead =>
    intro x y ha hb
    rw [readLines_append, ha, hb]
    rfl
  case firstFails =>
    intro error ha
    rw [readLines_append, ha]
    rfl
  case secondFails =>
    intro x error ha hb
    constructor
    · rw [readLines_append, ha, hb, Nat.add_comm 1]
      rfl
    · rw [DecodeError.line_later, Nat.add_assoc]
  case blank =>
    intro blanks hblank
    have hnone := readLines_of_blank blanks hblank
    refine ⟨hnone, ?_, ?_⟩
    · rw [readLines_append, hnone]
      cases readLines a with
      | error e => rfl
      | ok x => exact congrArg Except.ok (List.append_nil x)
    · rw [readLines_append, hnone, Nat.add_comm 1]
      cases readLines b <;> rfl

/-- A text of two lines, the first of which ends in a carriage return, and a text whose third line is
not an object, behind a blank line and a record. -/
theorem readLines_put_together_of_third_line :
    let one := ofList [("n", .integer 1)]
    let blank := "\u3000\t".toList
    let a := Text.utf8 (one.line ++ "\r\n\x7b\x7d".toList)
    let b := Text.utf8 (blank ++ '\n' :: one.line)
    let c := Text.utf8 (blank ++ '\n' :: one.line ++ "\n[]".toList)
    let error : DecodeError := .invalidRecord 3 ⟨"array"⟩
    10 ∉ Text.utf8 one.line ∧ readLines (Text.utf8 one.line) = .ok [one] ∧
      readLines a = .ok [one, empty] ∧ readLines b = .ok [one] ∧ readLines c = .error error ∧
      readLines (a ++ 10 :: b) = .ok [one, empty, one] ∧
      readLines (a ++ 10 :: c) = .error (.invalidRecord 5 ⟨"array"⟩) ∧
      readLines (c ++ 10 :: a) = .error error ∧
      readLine 1 (Text.utf8 blank) = .ok none ∧
      readLines (Text.utf8 blank ++ 10 :: c) = .error (.invalidRecord 4 ⟨"array"⟩) := by
  intro one blank a b c error
  have hblank : blank.all Text.isBlank = true := by decide +kernel
  obtain ⟨-, -, -, hsecond, -, hnone, hblanks⟩ := readLines_put_together a c
  have hempty : ∀ number, readLine number (Text.utf8 blank) = .ok none :=
    fun number => (hnone number _).mpr ⟨blank, hblank, rfl⟩
  have hrecord : ∀ number, readLine number (Text.utf8 one.line) = .ok (some one) :=
    readLine_line (by decide +kernel)
  have harray : ∀ number, readLine number (Text.utf8 "[]".toList) =
      .error (.invalidRecord number ⟨"array"⟩) := by
    intro number
    have hnot : ¬ "[]".toList.all Text.isBlank = true := by decide +kernel
    have hjson : Json.read "[]".toList = .ok (.array []) := by rfl
    rw [readLine_utf8, if_neg hnot, hjson]
    rfl
  have hone : readLines (Text.utf8 one.line) = .ok [one] := by
    rw [(readLines_put_together (Text.utf8 one.line) c).1 one.utf8_line.1, hrecord]
    rfl
  have ha : readLines a = .ok [one, empty] := by
    have hsplit : splitLines a = [one, empty].map fun record => Text.utf8 record.line := by
      decide +kernel
    rw [readLines, hsplit]
    exact readLinesFrom_lines 1 (by decide +kernel)
  have hb : readLines b = .ok [one] := by
    have hsplit : splitLines b = [Text.utf8 blank, Text.utf8 one.line] := by decide +kernel
    rw [readLines, hsplit, readLinesFrom_cons, hempty, readLinesFrom_cons, hrecord]
    rfl
  have hc : readLines c = .error error := by
    have hsplit : splitLines c =
        [Text.utf8 blank, Text.utf8 one.line, Text.utf8 "[]".toList] := by decide +kernel
    rw [readLines, hsplit, readLinesFrom_cons, hempty, readLinesFrom_cons, hrecord,
      readLinesFrom_cons, harray]
    rfl
  have hfeeds : a.count 10 = 1 := by decide +kernel
  have hnofeed : (Text.utf8 blank).count 10 = 0 := by decide +kernel
  have hcount : readLines (a ++ 10 :: c) = .error (.invalidRecord 5 ⟨"array"⟩) := by
    rw [(hsecond _ _ ha hc).1, hfeeds]
    rfl
  have hfront : readLines (Text.utf8 blank ++ 10 :: c) = .error (.invalidRecord 4 ⟨"array"⟩) := by
    rw [(hblanks blank hblank).2.2, hc, hnofeed]
    rfl
  exact ⟨one.utf8_line.1, hone, ha, hb, hc, (readLines_put_together a b).2.1 _ _ ha hb, hcount,
    (readLines_put_together c a).2.2.1 _ hc, hempty 1, hfront⟩

end Record

end Sift
