/-
# Reading back records in lines

Records written in lines are read back as they are, as long as none of their values is a
floating-point number. The text of a record has no control characters, so that it keeps to its line
and loses nothing at the end of it, and it begins with a brace, so that its line is not blank.

Key definition: `Value.IsPlain`.
Key theorems: `splitLines_flatMap`, `Record.readLine_line`, `QueryResult.readLines_write`.
-/
import Mathlib.Data.List.Basic
import Sift.Command.Run
import Sift.Proofs.Json.Printable
import Sift.Proofs.Json.Reread
import Sift.Proofs.Record.Decoding
import Sift.Proofs.Text.Bytes

namespace Sift

/-! ### Lines -/

/-- A line is split off at its line feed. -/
theorem splitLinesFrom_append {line : List UInt8} (h : 10 ∉ line) (current rest : List UInt8) :
    splitLinesFrom current (line ++ 10 :: rest) =
      endLine (line.reverse ++ current) :: splitLinesFrom [] rest := by
  induction line generalizing current with
  | nil => rw [List.nil_append, splitLinesFrom, if_pos rfl, List.reverse_nil, List.nil_append]
  | cons byte line ih =>
    have hbyte : byte ≠ 10 := (List.ne_of_not_mem_cons h).symm
    rw [List.cons_append, splitLinesFrom, if_neg hbyte, ih (List.not_mem_of_not_mem_cons h),
      List.reverse_cons, List.append_assoc, List.singleton_append]

theorem endLine_reverse {line : List UInt8} (h : line.getLast? ≠ some 13) :
    endLine line.reverse = line := by
  cases hreverse : line.reverse with
  | nil => rw [List.reverse_eq_nil_iff.mp hreverse, endLine]
  | cons byte bytes =>
    have hline : line = (byte :: bytes).reverse := by rw [← hreverse, List.reverse_reverse]
    have hbyte : byte ≠ 13 := by
      rintro rfl
      exact h (by simp [hline])
    rw [endLine, if_neg hbyte, hline]

/-- Lines are split as they were put together. -/
theorem splitLines_flatMap {lines : List (List UInt8)}
    (h : ∀ line ∈ lines, 10 ∉ line ∧ line.getLast? ≠ some 13) :
    splitLines (lines.flatMap (· ++ [10])) = lines := by
  induction lines with
  | nil => rfl
  | cons line lines ih =>
    obtain ⟨hline, hlast⟩ := h line List.mem_cons_self
    have hlines := ih fun other hother => h other (List.mem_cons_of_mem _ hother)
    rw [splitLines] at hlines ⊢
    rw [List.flatMap_cons, List.append_assoc, List.singleton_append,
      splitLinesFrom_append hline, List.append_nil, endLine_reverse hlast, hlines]

/-! ### Values -/

namespace Value

/-- Whether a value is a truth value, an integer or a string. -/
def IsPlain : Value → Prop
  | boolean _ | integer _ | string _ => True
  | float _ => False

instance : DecidablePred IsPlain
  | boolean _ | integer _ | string _ => isTrue trivial
  | float _ => isFalse id

variable {value : Value}

theorem IsPlain.hasJson (h : value.IsPlain) : value.hasJson = true := by
  cases value with
  | float x => exact h.elim
  | _ => rfl

theorem IsPlain.rereadBy (h : value.IsPlain) (nested : Reader JsonError Json) :
    Json.RereadBy (Json.readValueWith nested) value.toJson := by
  cases value with
  | boolean b => exact Json.rereadBy_boolean b
  | integer n => exact Json.rereadBy_integer n.toInt _ _
  | string s => exact Json.rereadBy_string s
  | float x => exact h.elim

end Value

/-! ### Records -/

namespace Record

theorem exists_line (record : Record) : ∃ cs, record.line = '\x7b' :: cs :=
  ⟨_, Json.writeCompact_object _⟩

/-- The bytes of a record's line neither end the line nor are shortened at its end. -/
theorem utf8_line (record : Record) :
    10 ∉ Text.utf8 record.line ∧ (Text.utf8 record.line).getLast? ≠ some 13 := by
  have hprintable : Printable record.line := Json.printable_writeCompact record.toJson
  constructor
  · intro hbyte
    exact absurd (hprintable _ (Text.mem_of_mem_utf8 hbyte (by decide))) (by decide)
  · intro hbyte
    have hmem := List.mem_of_getLast? hbyte
    exact absurd (hprintable _ (Text.mem_of_mem_utf8 hmem (by decide))) (by decide)

theorem ofJson_toJson {record : Record} (h : ∀ entry ∈ record.entries, entry.2.IsPlain) :
    ofJson record.toJson = .ok record := by
  have hfinite : record.finite = record :=
    eq_of_entries (List.filter_eq_self.mpr fun entry hmem => (h entry hmem).hasJson)
  rw [ofJson_toJson_eq, hfinite]

/-- A record without floating-point numbers is read back from its line. -/
theorem readLine_line {record : Record} (h : ∀ entry ∈ record.entries, entry.2.IsPlain)
    (number : Nat) : readLine number (Text.utf8 record.line) = .ok (some record) := by
  have hordered : Ordered (record.entries.map fun entry => (entry.1, entry.2.toJson)) :=
    List.pairwise_map.mpr record.ordered
  have hfields : ∀ field ∈ record.entries.map (fun entry => (entry.1, entry.2.toJson)),
      ∀ nested, Json.RereadBy (Json.readValueWith nested) field.2 := by
    intro field hfield nested
    obtain ⟨entry, hentry, rfl⟩ := List.mem_map.mp hfield
    exact (h entry hentry).rereadBy nested
  have hread : Json.read record.line = .ok record.toJson :=
    Json.read_writeCompact_object hordered hfields
  have hblank : record.line.all Text.isBlank ≠ true := by
    obtain ⟨cs, hline⟩ := record.exists_line
    have hbrace : Text.isBlank '\x7b' = false := rfl
    rw [hline, List.all_cons, hbrace, Bool.false_and]
    exact Bool.false_ne_true
  unfold readLine
  rw [Text.fromUTF8?_utf8]
  dsimp only
  rw [String.toList_ofList, if_neg hblank, hread]
  dsimp only
  rw [ofJson_toJson h]

theorem readLinesFrom_lines : ∀ {records : List Record} (number : Nat),
    (∀ record ∈ records, ∀ entry ∈ record.entries, entry.2.IsPlain) →
      readLinesFrom number (records.map fun record => Text.utf8 record.line) = .ok records
  | [], _, _ => rfl
  | record :: records, number, h => by
    have hline := readLine_line (h record List.mem_cons_self) number
    have hlines := readLinesFrom_lines (number + 1)
      fun other hother => h other (List.mem_cons_of_mem record hother)
    rw [List.map_cons, readLinesFrom, hline, hlines]
    rfl

end Record

theorem QueryResult.utf8_write (result : QueryResult) :
    Text.utf8 (result.write .lines) =
      (result.records.map fun record => Text.utf8 record.line).flatMap (· ++ [10]) := by
  simp only [write, Text.utf8, List.flatMap_map, List.flatMap_assoc, List.flatMap_append]
  rfl

/-- **Records written in lines are read back**: all of them, as they are and in the order in which
they are written, as long as their values are truth values, integers and strings. -/
theorem QueryResult.readLines_write {result : QueryResult}
    (h : ∀ record ∈ result.records, ∀ entry ∈ record.entries, entry.2.IsPlain) :
    Record.readLines (String.ofList (result.write .lines)).toUTF8.toList = .ok result.records := by
  have hlines : ∀ line ∈ result.records.map (fun record => Text.utf8 record.line),
      10 ∉ line ∧ line.getLast? ≠ some 13 := by
    intro line hline
    obtain ⟨record, -, rfl⟩ := List.mem_map.mp hline
    exact record.utf8_line
  rw [Text.toList_toUTF8, utf8_write, Record.readLines, splitLines_flatMap hlines]
  exact Record.readLinesFrom_lines 1 h

/-- Quotes, backslashes, control characters and line ends, in values and in names, and a record
without fields. -/
theorem QueryResult.readLines_write_escapes :
    let records :=
      [Record.ofList [("text", .string "\"a\\b\"\r\n\x01\x7f é 😀"), ("", .string ""),
        ("na\nme\"", .integer (-9223372036854775808)), ("été", .boolean false)],
      Record.empty, Record.ofList [("n", .integer 7)]]
    let result : QueryResult := ⟨records, Page.summary ⟨0, 0⟩ 3⟩
    (∀ record ∈ result.records, ∀ entry ∈ record.entries, entry.2.IsPlain) ∧
      Record.readLines (String.ofList (result.write .lines)).toUTF8.toList = .ok records := by
  intro records result
  have hplain : ∀ record ∈ result.records, ∀ entry ∈ record.entries, entry.2.IsPlain := by
    decide +kernel
  exact ⟨hplain, QueryResult.readLines_write hplain⟩

end Sift
