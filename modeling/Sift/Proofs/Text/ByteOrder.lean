/-
# The order of texts by their bytes

Texts compare by their characters as they do by their bytes. The encoding of a character with a greater
code is greater than that of another one: a longer encoding begins with a greater byte, and two of one
length are digits of the codes, the highest one first.

Key theorems: `Text.compare_utf8EncodeChar_append`, `Text.compare_eq_compare_toUTF8`.
-/
import Sift.Proofs.Text.Bytes

namespace Sift

namespace Text

/-! ### Lists of bytes -/

theorem compare_byte_lt {a b : UInt8} (h : a.toNat < b.toNat) : compare a b = .lt :=
  if_pos (UInt8.lt_iff_toNat_lt.mpr h)

section

variable {m n : Nat} {as bs : List UInt8}

theorem compare_cons_self (a : UInt8) (as bs : List UInt8) :
    compare (a :: as) (a :: bs) = compare as bs := by
  rw [List.compare_cons_cons, show compare a a = .eq from Std.ReflCmp.compare_self]
  rfl

theorem compare_ofNat_cons_of_lt (h : m < n) (hn : n < 256) :
    compare (UInt8.ofNat m :: as) (UInt8.ofNat n :: bs) = .lt := by
  have hbytes : (UInt8.ofNat m).toNat < (UInt8.ofNat n).toNat := by
    simp only [UInt8.toNat_ofNat']
    omega
  rw [List.compare_cons_cons, compare_byte_lt hbytes]
  rfl

theorem compare_ofNat_cons_of_le (h : m ≤ n) (hn : n < 256)
    (hrest : m = n → compare as bs = .lt) :
    compare (UInt8.ofNat m :: as) (UInt8.ofNat n :: bs) = .lt := by
  rcases Nat.lt_or_eq_of_le h with hlt | rfl
  · exact compare_ofNat_cons_of_lt hlt hn
  · rw [compare_cons_self]
    exact hrest rfl

end

theorem compare_append_self (front : List UInt8) (as bs : List UInt8) :
    compare (front ++ as) (front ++ bs) = compare as bs := by
  induction front with
  | nil => rfl
  | cons a front ih =>
    rw [List.cons_append, List.cons_append, compare_cons_self, ih]

/-! ### Characters and texts -/

/-- The encoding of a character with a greater code is greater, whatever follows. -/
theorem compare_utf8EncodeChar_append {c d : Char} (h : c < d) (as bs : List UInt8) :
    compare (String.utf8EncodeChar c ++ as) (String.utf8EncodeChar d ++ bs) = .lt := by
  have hlt : c.val.toNat < d.val.toNat := h
  have hd : d.val.toNat < 0x110000 := by
    have := d.valid
    omega
  unfold String.utf8EncodeChar
  generalize c.val.toNat = v at *
  generalize d.val.toNat = w at *
  dsimp only
  -- Of two encodings of one length, the first bytes that differ decide.
  split
  · split
    · exact compare_ofNat_cons_of_lt (by omega) (by omega)
    split
    · exact compare_ofNat_cons_of_lt (by omega) (by omega)
    split <;> exact compare_ofNat_cons_of_lt (by omega) (by omega)
  rw [if_neg (by omega : ¬ w ≤ 127)]
  split
  · split
    · refine compare_ofNat_cons_of_le (by omega) (by omega) fun _ => ?_
      exact compare_ofNat_cons_of_lt (by omega) (by omega)
    split <;> exact compare_ofNat_cons_of_lt (by omega) (by omega)
  rw [if_neg (by omega : ¬ w ≤ 2047)]
  split
  · split
    · refine compare_ofNat_cons_of_le (by omega) (by omega) fun _ => ?_
      refine compare_ofNat_cons_of_le (by omega) (by omega) fun _ => ?_
      exact compare_ofNat_cons_of_lt (by omega) (by omega)
    · exact compare_ofNat_cons_of_lt (by omega) (by omega)
  rw [if_neg (by omega : ¬ w ≤ 65535)]
  refine compare_ofNat_cons_of_le (by omega) (by omega) fun _ => ?_
  refine compare_ofNat_cons_of_le (by omega) (by omega) fun _ => ?_
  refine compare_ofNat_cons_of_le (by omega) (by omega) fun _ => ?_
  exact compare_ofNat_cons_of_lt (by omega) (by omega)

theorem utf8_cons (c : Char) (cs : List Char) :
    utf8 (c :: cs) = String.utf8EncodeChar c ++ utf8 cs :=
  List.flatMap_cons

/-- A text before another one has bytes before those of the other one. -/
theorem compare_utf8_of_lt {cs ds : List Char} (h : cs < ds) :
    compare (utf8 cs) (utf8 ds) = .lt := by
  induction h with
  | @nil d ds =>
    have hpos : 0 < (String.utf8EncodeChar d).length := by
      rw [String.length_utf8EncodeChar]
      exact Char.utf8Size_pos d
    rw [utf8_cons]
    cases hbytes : String.utf8EncodeChar d with
    | nil => simp [hbytes] at hpos
    | cons byte bytes => rfl
  | @rel c cs d ds hlt =>
    rw [utf8_cons, utf8_cons]
    exact compare_utf8EncodeChar_append hlt _ _
  | @cons c cs ds _ ih =>
    rw [utf8_cons, utf8_cons, compare_append_self]
    exact ih

/-- **Texts compare as their bytes do.** -/
theorem compare_eq_compare_toUTF8 (s t : String) :
    compare s t = compare s.toUTF8.toList t.toUTF8.toList := by
  have hbytes : ∀ s : String, s.toUTF8.toList = utf8 s.toList := fun s => by
    rw [← toList_toUTF8, String.ofList_toList]
  rw [hbytes, hbytes]
  by_cases hlt : s < t
  · rw [compare_utf8_of_lt (String.lt_iff.mp hlt)]
    exact if_pos hlt
  by_cases hgt : t < s
  · have hreversed : compare t s = .lt := if_pos hgt
    rw [Std.OrientedOrd.eq_swap (a := s), hreversed,
      Std.OrientedOrd.eq_swap (a := utf8 s.toList), compare_utf8_of_lt (String.lt_iff.mp hgt)]
  · obtain rfl : s = t := String.le_antisymm hgt hlt
    rw [show compare s s = .eq from Std.ReflCmp.compare_self,
      show compare (utf8 s.toList) (utf8 s.toList) = .eq from Std.ReflCmp.compare_self]

end Text

end Sift
