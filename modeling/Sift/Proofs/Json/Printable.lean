/-
# Compact JSON stands in one line

Strings escape the control characters below U+0020, and all else in the compact text of a value is
brackets, commas, colons, words and numerals. So that text has no control characters, and no line
feeds.

Key definition: `Printable`.
Key theorem: `Json.printable_writeCompact`.
-/
import Sift.Json.Writer

namespace Sift

/-- Whether a text has no control characters below U+0020. -/
def Printable (cs : List Char) : Prop :=
  ∀ c ∈ cs, 0x20 ≤ c.toNat

instance : DecidablePred Printable := fun cs =>
  decidable_of_iff (cs.all fun c => 0x20 ≤ c.toNat) (by simp [Printable])

@[simp]
theorem printable_append {cs ds : List Char} :
    Printable (cs ++ ds) ↔ Printable cs ∧ Printable ds :=
  List.forall_mem_append

@[simp]
theorem printable_cons {c : Char} {cs : List Char} :
    Printable (c :: cs) ↔ 0x20 ≤ c.toNat ∧ Printable cs :=
  List.forall_mem_cons

@[simp]
theorem printable_nil : Printable [] :=
  fun _ h => absurd h List.not_mem_nil

theorem printable_flatMap {α : Type} {f : α → List Char} (h : ∀ a, Printable (f a)) (xs : List α) :
    Printable (xs.flatMap f) := by
  intro c hc
  obtain ⟨a, -, hmem⟩ := List.mem_flatMap.mp hc
  exact h a c hmem

/-! ### Numerals -/

theorem printable_digits {cs : List Char} (h : cs.all Char.isDigit = true) : Printable cs := by
  intro c hc
  have hdigit := List.all_eq_true.mp h c hc
  simp only [Char.isDigit, Bool.and_eq_true, decide_eq_true_eq, ge_iff_le, UInt32.le_iff_toNat_le]
    at hdigit
  exact Nat.le_trans (by decide) hdigit.1

theorem printable_writeInt : ∀ n : Int, Printable (Text.writeInt n)
  | .ofNat n => printable_digits (Text.toDigits_all_isDigit n)
  | .negSucc n => printable_cons.mpr ⟨by decide, printable_digits (Text.toDigits_all_isDigit (n + 1))⟩

theorem printable_replicate_zero (count : Nat) : Printable (List.replicate count '0') := by
  intro c hc
  rw [List.eq_of_mem_replicate hc]
  decide

namespace NumeralFormat

variable {format : NumeralFormat} {digits : List Char}

theorem printable_positional (hend : Printable format.wholeEnd) (hdigits : Printable digits)
    (place : Int) : Printable (format.positional digits place) := by
  have hzeros := printable_replicate_zero
  have htake : Printable (digits.take place.toNat) := fun c hc => hdigits c (List.mem_of_mem_take hc)
  have hdrop : Printable (digits.drop place.toNat) := fun c hc => hdigits c (List.mem_of_mem_drop hc)
  unfold positional
  split
  · simp [hzeros, hdigits]
  · split
    · simp [hzeros, hdigits, hend]
    · simp [htake, hdrop]

theorem printable_scientific (hplus : Printable format.plusSign) (hdigits : Printable digits)
    (place : Int) : Printable (format.scientific digits place) := by
  have hfirst : Printable (digits.take 1) := fun c hc => hdigits c (List.mem_of_mem_take hc)
  have hmore : Printable (if digits.length ≤ 1 then [] else '.' :: digits.drop 1) := by
    split
    · exact printable_nil
    · exact printable_cons.mpr ⟨by decide, fun c hc => hdigits c (List.mem_of_mem_drop hc)⟩
  have hsign : Printable (if place - 1 < 0 then [] else format.plusSign) := by
    split
    · exact printable_nil
    · exact hplus
  exact printable_append.mpr ⟨printable_append.mpr ⟨hfirst, hmore⟩,
    printable_cons.mpr ⟨by decide, printable_append.mpr ⟨hsign, printable_writeInt (place - 1)⟩⟩⟩

theorem printable_magnitude (hend : Printable format.wholeEnd) (hplus : Printable format.plusSign)
    (decimal : Binary64.Decimal) : Printable (format.magnitude decimal) := by
  have hdigits := printable_digits (Text.toDigits_all_isDigit decimal.digits)
  unfold magnitude
  dsimp only
  split
  · exact printable_positional hend hdigits _
  · exact printable_scientific hplus hdigits _

end NumeralFormat

theorem Binary64.printable_write {format : NumeralFormat} (hend : Printable format.wholeEnd)
    (hplus : Printable format.plusSign) : ∀ x : Binary64, Printable (x.write format)
  | .nan => by
    rw [write]
    decide
  | .signed negative code _ => by
    have hsign : Printable (if negative = true then ['-'] else []) := by
      cases negative <;> decide
    have hmagnitude := NumeralFormat.printable_magnitude hend hplus (shortest format.tie code)
    rw [write]
    split
    · exact printable_append.mpr ⟨hsign, by decide⟩
    · exact printable_append.mpr ⟨hsign, hmagnitude⟩

namespace Json

theorem printable_number : ∀ number : Number, Printable number.write
  | .integer n _ _ => printable_writeInt n
  | .float x _ => Binary64.printable_write (by decide) (by decide) x

/-! ### Strings -/

theorem printable_quoteCharacter (c : Char) : Printable (quoteCharacter c) := by
  have hletters : ∀ entry ∈ shortEscapes, 0x20 ≤ entry.1.toNat := by decide
  have hdigits : ∀ digit < 16, 0x20 ≤ (Nat.digitChar digit).toNat := by decide
  unfold quoteCharacter
  split
  next letter hletter =>
    obtain ⟨entry, hfind, rfl⟩ := Option.map_eq_some_iff.mp hletter
    exact printable_cons.mpr ⟨by decide, printable_cons.mpr
      ⟨hletters entry (List.mem_of_find?_eq_some hfind), printable_nil⟩⟩
  next =>
    split
    next hcontrol =>
      have hhigh := hdigits (c.toNat / 16) (by omega)
      have hlow := hdigits (c.toNat % 16) (by omega)
      simp [hhigh, hlow]
    next hcontrol => exact printable_cons.mpr ⟨Nat.le_of_not_lt hcontrol, printable_nil⟩

theorem printable_quote (s : String) : Printable (quote s) := by
  have hcharacters := printable_flatMap printable_quoteCharacter s.toList
  simp [quote, hcharacters]

/-! ### Values -/

theorem printable_intercalate : ∀ {parts : List (List Char)}, (∀ part ∈ parts, Printable part) →
    Printable (List.intercalate [','] parts)
  | [], _ => printable_nil
  | [part], h => by
    rw [List.intercalate_singleton]
    exact h part List.mem_cons_self
  | part :: next :: parts, h => by
    have hmore := printable_intercalate fun other hother => h other (List.mem_cons_of_mem part hother)
    have hpart := h part List.mem_cons_self
    simp [List.intercalate_cons_cons, hpart, hmore]

theorem printable_block (depth : Nat) {opening closing : Char} (hopening : 0x20 ≤ opening.toNat)
    (hclosing : 0x20 ≤ closing.toNat) {parts : List (List Char)}
    (h : ∀ part ∈ parts, Printable part) :
    Printable (Layout.compact.block depth opening closing parts) := by
  have hparts := printable_intercalate h
  unfold Layout.block
  split
  · simp [hopening, hclosing]
  · simp [Layout.compact, hopening, hclosing, hparts]

mutual

theorem printable_write (depth : Nat) : ∀ json : Json, Printable (json.write .compact depth)
  | null => by
    rw [write]
    decide
  | boolean b => by
    rw [write]
    cases b <;> decide
  | number n => printable_number n
  | string s => printable_quote s
  | array items =>
    printable_block depth (by decide) (by decide) (printable_writeItems (depth + 1) items)
  | object fields =>
    printable_block depth (by decide) (by decide) (printable_writeFields (depth + 1) fields)

theorem printable_writeItems (depth : Nat) : ∀ items : List Json,
    ∀ part ∈ writeItems .compact depth items, Printable part
  | [] => by simp [writeItems]
  | item :: items => by
    rw [writeItems, List.forall_mem_cons]
    exact ⟨printable_write depth item, printable_writeItems depth items⟩

theorem printable_writeFields (depth : Nat) : ∀ fields : List (String × Json),
    ∀ part ∈ writeFields .compact depth fields, Printable part
  | [] => by simp [writeFields]
  | (name, value) :: fields => by
    rw [writeFields, List.forall_mem_cons, printable_append, printable_append]
    exact ⟨⟨⟨printable_quote name, by decide⟩, printable_write depth value⟩,
      printable_writeFields depth fields⟩

end

/-- **The compact text of a value has no control characters.** -/
theorem printable_writeCompact (json : Json) : Printable json.writeCompact :=
  printable_write 0 json

end Json

end Sift
