/-
# White space

White space in the sense of Unicode: trimming a text, and its words. The white space between the
tokens of a filter is narrower, only spaces and tabs (`isGap`).

Key definitions: `isBlank`, `trimLeft`, `trimRight`, `trim`, `words`.
Key theorems: `exists_trimLeft`, `exists_trimRight`.
-/

namespace Sift.Text

/-- The characters with the Unicode property White_Space. -/
def isBlank (c : Char) : Bool :=
  let code := c.toNat
  (9 ≤ code && code ≤ 13) || code == 0x20 || code == 0x85 || code == 0xA0 || code == 0x1680 ||
    (0x2000 ≤ code && code ≤ 0x200A) || code == 0x2028 || code == 0x2029 || code == 0x202F ||
    code == 0x205F || code == 0x3000

/-- The white space that may stand between the tokens of a filter. -/
def isGap (c : Char) : Bool :=
  c == ' ' || c == '\t'

/-- Without the white space in front. -/
def trimLeft (cs : List Char) : List Char :=
  cs.dropWhile isBlank

/-- Without the white space at the end. -/
def trimRight : List Char → List Char
  | [] => []
  | c :: cs =>
    match trimRight cs with
    | [] => if isBlank c then [] else [c]
    | rest => c :: rest

/-- Without the white space at both ends. -/
def trim (cs : List Char) : List Char :=
  trimLeft (trimRight cs)

/-- The words of a text, reading on in a word of which `current` is read, last character first. -/
def wordsFrom (current : List Char) : List Char → List (List Char)
  | [] => if current.isEmpty then [] else [current.reverse]
  | c :: cs =>
    if isBlank c then
      if current.isEmpty then wordsFrom [] cs else current.reverse :: wordsFrom [] cs
    else wordsFrom (c :: current) cs

/-- The maximal runs without white space. -/
def words (cs : List Char) : List (List Char) :=
  wordsFrom [] cs

/-- What trimming on the left takes off is white space. -/
theorem exists_trimLeft (cs : List Char) :
    ∃ front, cs = front ++ trimLeft cs ∧ front.all isBlank = true :=
  ⟨cs.takeWhile isBlank, List.takeWhile_append_dropWhile.symm, List.all_takeWhile⟩

/-- What trimming on the right takes off is white space. -/
theorem exists_trimRight (cs : List Char) :
    ∃ back, cs = trimRight cs ++ back ∧ back.all isBlank = true := by
  induction cs with
  | nil => exact ⟨[], rfl, rfl⟩
  | cons c cs ih =>
    obtain ⟨back, hcs, hback⟩ := ih
    rw [trimRight]
    split
    next hnil =>
      rw [hnil, List.nil_append] at hcs
      by_cases hc : isBlank c = true
      · exact ⟨c :: cs, by simp [hc], by simp [hc, hcs, hback]⟩
      · exact ⟨cs, by simp [hc], by rw [hcs]; exact hback⟩
    next => exact ⟨back, by simpa using hcs, hback⟩

end Sift.Text
