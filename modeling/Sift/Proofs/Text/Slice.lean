/-
# Parts of a text by their bytes

The bytes of a text are counted without regard to its characters, but a part of it is a text again only
if it begins and ends between two characters. A run of bytes of ASCII and an occurrence of the bytes of
another text do, whatever stands around them: no byte of a longer encoding is a byte of ASCII, and no
encoding of a character is the beginning of the encoding of another one.

Key definitions: `Text.dropBytes?`, `Text.takeBytes?`, `Text.slice?`, `Text.findBytes?`,
`Text.IsByteTest`.
Key theorems: `Text.dropBytes?_eq_some_iff`, `Text.slice?_eq_some_iff`, `Text.findBytes?_eq`,
`Text.isPrefixOf_utf8`, `Text.length_takeWhile_utf8`.
-/
import Sift.Proofs.Text.Advance
import Sift.Proofs.Text.ByteOrder

namespace Sift.Text

/-- What is left of a text behind so many bytes, unless the text is shorter or they end inside of a
character. -/
def dropBytes? : Nat → List Char → Option (List Char)
  | 0, text => some text
  | _ + 1, [] => none
  | bytes + 1, c :: text =>
    if bytes + 1 < c.utf8Size then none else dropBytes? (bytes + 1 - c.utf8Size) text

/-- The beginning of a text of so many bytes, unless the text is shorter or they end inside of a
character. -/
def takeBytes? : Nat → List Char → Option (List Char)
  | 0, _ => some []
  | _ + 1, [] => none
  | bytes + 1, c :: text =>
    if bytes + 1 < c.utf8Size then none
    else (takeBytes? (bytes + 1 - c.utf8Size) text).map (c :: ·)

/-- The part of a text between two byte offsets, if there is one. -/
def slice? (start stop : Nat) (text : List Char) : Option (List Char) :=
  if start ≤ stop then (dropBytes? start text).bind (takeBytes? (stop - start)) else none

/-- How many bytes stand in front of the first occurrence of a character. -/
def findBytes? (sought : Char) : List Char → Option Nat
  | [] => none
  | c :: text => if c = sought then some 0 else (findBytes? sought text).map (c.utf8Size + ·)

/-- Whether a test of bytes accepts the codes of the characters that a test of characters accepts, and
those are all of ASCII. -/
structure IsByteTest (byteTest : UInt8 → Bool) (test : Char → Bool) : Prop where
  ascii : ∀ n < 128, byteTest (UInt8.ofNat n) = test (Char.ofNat n)
  byte_lt : ∀ byte, byteTest byte = true → byte.toNat < 128
  character_lt : ∀ c, test c = true → c.toNat < 128

/-! ### Parts -/

theorem dropBytes?_cons (bytes : Nat) (c : Char) (text : List Char) :
    dropBytes? (c.utf8Size + bytes) (c :: text) = dropBytes? bytes text := by
  have hpos := c.utf8Size_pos
  obtain ⟨bytes', hbytes⟩ := Nat.exists_eq_succ_of_ne_zero (show c.utf8Size + bytes ≠ 0 by omega)
  rw [hbytes, dropBytes?, if_neg (by omega), ← Nat.succ_eq_add_one, ← hbytes,
    Nat.add_sub_cancel_left]

theorem takeBytes?_cons (bytes : Nat) (c : Char) (text : List Char) :
    takeBytes? (c.utf8Size + bytes) (c :: text) = (takeBytes? bytes text).map (c :: ·) := by
  have hpos := c.utf8Size_pos
  obtain ⟨bytes', hbytes⟩ := Nat.exists_eq_succ_of_ne_zero (show c.utf8Size + bytes ≠ 0 by omega)
  rw [hbytes, takeBytes?, if_neg (by omega), ← Nat.succ_eq_add_one, ← hbytes,
    Nat.add_sub_cancel_left]

theorem dropBytes?_append : ∀ front back : List Char,
    dropBytes? (byteLength front) (front ++ back) = some back
  | [], back => by cases back <;> rfl
  | c :: front, back => by
    rw [byteLength, List.cons_append, dropBytes?_cons, dropBytes?_append front back]

theorem takeBytes?_append : ∀ front back : List Char,
    takeBytes? (byteLength front) (front ++ back) = some front
  | [], back => by cases back <;> rfl
  | c :: front, back => by
    rw [byteLength, List.cons_append, takeBytes?_cons, takeBytes?_append front back,
      Option.map_some]

/-- So many bytes can be left out if they are those of whole characters. -/
theorem dropBytes?_eq_some_iff {bytes : Nat} {text back : List Char} :
    dropBytes? bytes text = some back ↔ ∃ front, text = front ++ back ∧ byteLength front = bytes := by
  constructor
  · intro h
    fun_induction dropBytes? bytes text with
    | case1 text => exact ⟨[], Option.some.inj h, rfl⟩
    | case2 => cases h
    | case3 => cases h
    | case4 bytes c text hlt ih =>
      obtain ⟨front, rfl, hfront⟩ := ih h
      exact ⟨c :: front, rfl, by rw [byteLength]; omega⟩
  · rintro ⟨front, rfl, rfl⟩
    exact dropBytes?_append front back

theorem takeBytes?_eq_some_iff {bytes : Nat} {text front : List Char} :
    takeBytes? bytes text = some front ↔ ∃ back, text = front ++ back ∧ byteLength front = bytes := by
  constructor
  · intro h
    fun_induction takeBytes? bytes text generalizing front with
    | case1 text =>
      cases h
      exact ⟨text, rfl, rfl⟩
    | case2 => cases h
    | case3 => cases h
    | case4 bytes c text hlt ih =>
      obtain ⟨front, hfront, rfl⟩ := Option.map_eq_some_iff.mp h
      obtain ⟨back, rfl, hbytes⟩ := ih hfront
      exact ⟨back, rfl, by rw [byteLength]; omega⟩
  · rintro ⟨back, rfl, rfl⟩
    exact takeBytes?_append front back

/-- A part between two offsets is there if both stand between characters. -/
theorem slice?_eq_some_iff {start stop : Nat} {text part : List Char} :
    slice? start stop text = some part ↔ ∃ front back, text = front ++ (part ++ back) ∧
      byteLength front = start ∧ stop = start + byteLength part := by
  unfold slice?
  constructor
  · intro h
    split at h
    next hle =>
      obtain ⟨behind, hbehind, hpart⟩ := Option.bind_eq_some_iff.mp h
      obtain ⟨front, rfl, hfront⟩ := dropBytes?_eq_some_iff.mp hbehind
      obtain ⟨back, rfl, hbytes⟩ := takeBytes?_eq_some_iff.mp hpart
      exact ⟨front, back, rfl, hfront, by omega⟩
    next => cases h
  · rintro ⟨front, back, rfl, rfl, rfl⟩
    rw [if_pos (Nat.le_add_right _ _), dropBytes?_append, Option.bind_some, Nat.add_sub_cancel_left,
      takeBytes?_append]

/-- A character is found behind those that are other ones. -/
theorem findBytes?_eq (sought : Char) (text : List Char) :
    findBytes? sought text =
      if (text.takeWhile (· != sought)).length < text.length then
        some (byteLength (text.takeWhile (· != sought)))
      else none := by
  induction text with
  | nil => rfl
  | cons c text ih =>
    by_cases hc : c = sought
    · subst hc
      simp [findBytes?, byteLength]
    · have htake : (c :: text).takeWhile (· != sought) = c :: text.takeWhile (· != sought) :=
        List.takeWhile_cons_of_pos (bne_iff_ne.mpr hc)
      rw [findBytes?, if_neg hc, ih, htake, List.length_cons, List.length_cons, byteLength]
      simp only [Nat.add_lt_add_iff_right]
      split <;> rfl

/-! ### Bytes -/

theorem length_utf8 : ∀ text : List Char, (utf8 text).length = byteLength text
  | [] => rfl
  | c :: text => by
    rw [utf8_cons, List.length_append, String.length_utf8EncodeChar, length_utf8 text, byteLength]

theorem not_lt_of_utf8EncodeChar_append {c d : Char} {as bs : List UInt8}
    (h : String.utf8EncodeChar c ++ as = String.utf8EncodeChar d ++ bs) : ¬ c < d := by
  intro hlt
  have hself : compare (String.utf8EncodeChar d ++ bs) (String.utf8EncodeChar d ++ bs) = .eq :=
    Std.ReflCmp.compare_self
  have hcompare := compare_utf8EncodeChar_append hlt as bs
  rw [h, hself] at hcompare
  cases hcompare

/-- The first character of a text is known from the bytes of the text. -/
theorem eq_of_utf8EncodeChar_append {c d : Char} {as bs : List UInt8}
    (h : String.utf8EncodeChar c ++ as = String.utf8EncodeChar d ++ bs) : c = d := by
  rcases Std.lt_trichotomy c d with hlt | rfl | hlt
  · exact absurd hlt (not_lt_of_utf8EncodeChar_append h)
  · rfl
  · exact absurd hlt (not_lt_of_utf8EncodeChar_append h.symm)

/-- The bytes of a text begin with those of another one if the text begins with the other one. -/
theorem utf8_prefix_iff : ∀ {front text : List Char}, utf8 front <+: utf8 text ↔ front <+: text
  | [], text => ⟨fun _ => List.nil_prefix, fun _ => List.nil_prefix⟩
  | c :: front, [] => by
    have hne : utf8 (c :: front) ≠ [] := by
      rw [utf8_cons]
      exact List.append_ne_nil_of_left_ne_nil String.utf8EncodeChar_ne_nil _
    exact ⟨fun h => absurd (List.prefix_nil.mp h) hne, fun h => absurd h (by simp)⟩
  | c :: front, d :: text => by
    rw [utf8_cons, utf8_cons, List.cons_prefix_cons]
    constructor
    · intro h
      obtain ⟨bytes, hbytes⟩ := h
      rw [List.append_assoc] at hbytes
      -- The bytes go on behind those of `front`, but the first character is known without them.
      obtain rfl := eq_of_utf8EncodeChar_append hbytes
      exact ⟨rfl, utf8_prefix_iff.mp ⟨bytes, List.append_cancel_left hbytes⟩⟩
    · rintro ⟨rfl, h⟩
      exact (List.prefix_append_right_inj _).mpr (utf8_prefix_iff.mpr h)

theorem isPrefixOf_utf8 (front text : List Char) :
    (utf8 front).isPrefixOf (utf8 text) = front.isPrefixOf text := by
  rw [Bool.eq_iff_iff, List.isPrefixOf_iff_prefix, List.isPrefixOf_iff_prefix, utf8_prefix_iff]

section

variable {byteTest : UInt8 → Bool} {test : Char → Bool}

theorem utf8EncodeChar_of_lt {c : Char} (h : c.toNat < 128) :
    String.utf8EncodeChar c = [UInt8.ofNat c.toNat] := by
  have hcode : c.toNat = c.val.toNat := rfl
  unfold String.utf8EncodeChar
  dsimp only
  rw [if_pos (by omega)]
  rfl

theorem IsByteTest.eq_false (h : IsByteTest byteTest test) {c : Char} {byte : UInt8}
    (hc : ¬ c.toNat < 128) (hbyte : byte ∈ String.utf8EncodeChar c) : byteTest byte = false := by
  refine Bool.eq_false_iff.mpr fun htrue => hc ?_
  have hlt := h.byte_lt byte htrue
  rwa [eq_of_mem_utf8EncodeChar hbyte hlt]

/-- As many bytes pass a test of bytes as the characters that pass the test have. -/
theorem length_takeWhile_utf8 (h : IsByteTest byteTest test) : ∀ text : List Char,
    ((utf8 text).takeWhile byteTest).length = byteLength (text.takeWhile test)
  | [] => rfl
  | c :: text => by
    have ih := length_takeWhile_utf8 h text
    rw [utf8_cons]
    by_cases hc : c.toNat < 128
    · have hsize : c.utf8Size = 1 := by
        rw [← String.length_utf8EncodeChar, utf8EncodeChar_of_lt hc]
        rfl
      have htest : byteTest (UInt8.ofNat c.toNat) = test c := by
        rw [h.ascii _ hc, Char.ofNat_toNat]
      rw [utf8EncodeChar_of_lt hc, List.singleton_append, List.takeWhile_cons, List.takeWhile_cons,
        htest]
      split
      · rw [List.length_cons, byteLength, ih, hsize, Nat.add_comm]
      · rfl
    -- The first byte of a longer encoding fails already.
    · have htest : test c = false := Bool.eq_false_iff.mpr fun htrue => hc (h.character_lt c htrue)
      obtain ⟨byte, bytes, hbytes⟩ := List.exists_cons_of_ne_nil
        (show String.utf8EncodeChar c ≠ [] from String.utf8EncodeChar_ne_nil)
      have hbyte := h.eq_false hc (hbytes ▸ List.mem_cons_self)
      rw [hbytes, List.cons_append, List.takeWhile_cons_of_neg (by simp [hbyte]),
        List.takeWhile_cons_of_neg (by simp [htest])]
      rfl

end

end Sift.Text
