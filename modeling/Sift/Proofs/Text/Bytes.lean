/-
# The bytes of a text

A text is encoded character by character. Only the characters of ASCII have an encoding with bytes
below 128, the byte of their code, so that an encoded text holds the byte of a line feed only where
the text holds a line feed.

Key definition: `Text.utf8`.
Key theorems: `Text.toList_toUTF8`, `Text.fromUTF8?_utf8`, `Text.eq_utf8_of_fromUTF8?`,
`Text.mem_of_mem_utf8`.
-/

namespace Sift.Text

/-- The bytes of a text. -/
def utf8 (cs : List Char) : List UInt8 :=
  cs.flatMap String.utf8EncodeChar

theorem toList_loop (bytes : ByteArray) (i : Nat) (front : List UInt8) :
    ByteArray.toList.loop bytes i front = front.reverse ++ bytes.data.toList.drop i := by
  fun_induction ByteArray.toList.loop bytes i front with
  | case1 i front h ih =>
    have hlt : i < bytes.data.toList.length := by
      rw [Array.length_toList]
      exact h
    have hbyte : bytes.get! i = bytes.data.toList[i] := getElem!_pos bytes.data i h
    rw [ih, List.drop_eq_getElem_cons hlt, hbyte, List.reverse_cons, List.append_assoc,
      List.singleton_append]
  | case2 i front h =>
    have hle : bytes.data.toList.length ≤ i := by
      rw [Array.length_toList]
      exact Nat.le_of_not_lt h
    rw [List.drop_eq_nil_of_le hle, List.append_nil]

theorem toList_toByteArray (bytes : List UInt8) : bytes.toByteArray.toList = bytes := by
  rw [ByteArray.toList, toList_loop, List.toList_data_toByteArray]
  rfl

theorem toList_toUTF8 (cs : List Char) : (String.ofList cs).toUTF8.toList = utf8 cs := by
  rw [String.toUTF8_eq_toByteArray, String.toByteArray_ofList]
  exact toList_toByteArray (utf8 cs)

/-- A text is decoded from its bytes. -/
theorem fromUTF8?_utf8 (cs : List Char) :
    String.fromUTF8? (utf8 cs).toByteArray = some (String.ofList cs) := by
  have hvalid : (utf8 cs).toByteArray.IsValidUTF8 := ByteArray.isValidUTF8_utf8Encode
  rw [String.fromUTF8?, dif_pos hvalid]
  rfl

/-- A byte below 128 is the code of the character that it belongs to. -/
theorem eq_of_mem_utf8EncodeChar {byte : UInt8} {c : Char} (h : byte ∈ String.utf8EncodeChar c)
    (hbyte : byte.toNat < 128) : c.toNat = byte.toNat := by
  have hcode : c.toNat = c.val.toNat := rfl
  unfold String.utf8EncodeChar at h
  dsimp only at h
  split at h
  · obtain rfl := List.mem_singleton.mp h
    simp only [UInt8.toNat_ofNat']
    omega
  -- All bytes of a longer encoding are 128 or more.
  · split at h
    · simp only [List.mem_cons, List.not_mem_nil, or_false] at h
      rcases h with rfl | rfl <;> simp only [UInt8.toNat_ofNat'] at hbyte <;> omega
    · split at h
      · simp only [List.mem_cons, List.not_mem_nil, or_false] at h
        rcases h with rfl | rfl | rfl <;> simp only [UInt8.toNat_ofNat'] at hbyte <;> omega
      · simp only [List.mem_cons, List.not_mem_nil, or_false] at h
        rcases h with rfl | rfl | rfl | rfl <;> simp only [UInt8.toNat_ofNat'] at hbyte <;> omega

theorem mem_of_mem_utf8 {byte : UInt8} {cs : List Char} (h : byte ∈ utf8 cs)
    (hbyte : byte.toNat < 128) : Char.ofNat byte.toNat ∈ cs := by
  obtain ⟨c, hc, hmem⟩ := List.mem_flatMap.mp h
  rw [← eq_of_mem_utf8EncodeChar hmem hbyte, Char.ofNat_toNat]
  exact hc

theorem utf8_append (cs cs' : List Char) : utf8 (cs ++ cs') = utf8 cs ++ utf8 cs' :=
  List.flatMap_append

/-- Bytes that are decoded are those of the text. -/
theorem eq_utf8_of_fromUTF8? {bytes : List UInt8} {text : String}
    (h : String.fromUTF8? bytes.toByteArray = some text) : bytes = utf8 text.toList := by
  have hbytes : text.toUTF8 = bytes.toByteArray := by
    unfold String.fromUTF8? at h
    split at h
    next hvalid =>
      rw [← Option.some.inj h]
      rfl
    next => cases h
  have htext := toList_toUTF8 text.toList
  rw [String.ofList_toList, hbytes, toList_toByteArray] at htext
  exact htext

/-- A carriage return at the end of an encoded text is a character of the text. -/
theorem exists_of_utf8_eq_append_return {bytes : List UInt8} {cs : List Char}
    (h : utf8 cs = bytes ++ [13]) : ∃ front, cs = front ++ ['\r'] ∧ bytes = utf8 front := by
  rcases List.eq_nil_or_concat cs with rfl | ⟨front, c, rfl⟩
  · exact absurd h.symm (by simp [utf8])
  have hlast : utf8 [c] = String.utf8EncodeChar c := List.flatMap_singleton _ _
  rw [List.concat_eq_append, utf8_append, hlast] at h
  have hne : String.utf8EncodeChar c ≠ [] := String.utf8EncodeChar_ne_nil
  have hmem : (13 : UInt8) ∈ String.utf8EncodeChar c := by
    have hend := congrArg List.getLast? h
    rw [List.getLast?_append, List.getLast?_concat, List.getLast?_eq_some_getLast hne,
      Option.some_or] at hend
    exact Option.some.inj hend ▸ List.getLast_mem hne
  have hc : c = '\r' := by
    have hcode := eq_of_mem_utf8EncodeChar hmem (by decide)
    rw [← Char.ofNat_toNat c, hcode]
    rfl
  subst hc
  exact ⟨front, List.concat_eq_append, (List.append_cancel_right h).symm⟩

end Sift.Text
