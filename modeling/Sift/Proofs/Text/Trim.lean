/-
# Outer white space

Trimming leaves a text that neither begins nor ends with white space, and it leaves such a text as it
is (`Tight`). A text between white space is what trimming leaves of the whole; what it takes off is
known to be spaces and tabs when all outer white space is (`OnlyGapsAround`).

Key definitions: `Tight`, `OnlyGapsAround`.
Key theorems: `eq_nil_of_trim_eq_append`, `trim_eq_self`, `trim_append`, `exists_gaps_trim`.
-/
import Sift.Proofs.Text.Matching

namespace Sift.Text

theorem isBlank_of_isGap {c : Char} (h : isGap c = true) : isBlank c = true := by
  simp only [isGap, Bool.or_eq_true, beq_iff_eq] at h
  rcases h with rfl | rfl <;> decide

/-- A text without the white space at its end does not end in white space. -/
theorem isBlank_of_trimRight_eq_append : ∀ {cs front : List Char} {c : Char},
    trimRight cs = front ++ [c] → isBlank c = false
  | [], front, c, h => by simp [trimRight] at h
  | d :: cs, front, c, h => by
    rw [trimRight] at h
    split at h
    next hnil =>
      split at h
      next => simp at h
      next hd =>
        obtain rfl : d = c := by
          rcases front with _ | ⟨e, front⟩
          · simpa using h
          · simp at h
        simpa using hd
    next rest hne =>
      rcases front with _ | ⟨e, front⟩
      · simp only [List.nil_append, List.cons.injEq] at h
        exact absurd h.2 hne
      · exact isBlank_of_trimRight_eq_append (List.cons.inj h).2

/-- What is left of a trimmed text behind a spelling is no run of spaces and tabs. -/
theorem eq_nil_of_trim_eq_append {cs front gap : List Char} (h : trim cs = front ++ gap)
    (hgap : ∀ c ∈ gap, isGap c = true) : gap = [] := by
  rcases List.eq_nil_or_concat gap with hnil | ⟨gap', c, hgap'⟩
  · exact hnil
  · rw [List.concat_eq_append] at hgap'
    obtain ⟨blanks, hblanks, -⟩ := exists_trimLeft (trimRight cs)
    have hend : trimRight cs = (blanks ++ front ++ gap') ++ [c] := by
      rw [hblanks, show trimLeft (trimRight cs) = front ++ gap from h, hgap']
      simp
    have hc := isBlank_of_isGap (hgap c (by simp [hgap']))
    rw [isBlank_of_trimRight_eq_append hend] at hc
    cases hc

/-! ### Texts without outer white space -/

/-- Whether a text begins and ends with a character that is no white space. -/
def Tight (text : List Char) : Prop :=
  (∃ c ∈ text.head?, isBlank c = false) ∧ ∃ c ∈ text.getLast?, isBlank c = false

theorem tight_of_forall {text : List Char} (hne : text ≠ [])
    (h : ∀ c ∈ text, isBlank c = false) : Tight text :=
  ⟨⟨text.head hne, List.head?_eq_some_head hne, h _ (List.head_mem hne)⟩,
    ⟨text.getLast hne, List.getLast?_eq_some_getLast hne, h _ (List.getLast_mem hne)⟩⟩

theorem tight_of_all {text : List Char} (hne : text ≠ [])
    (h : text.all (fun c => !isBlank c) = true) : Tight text :=
  tight_of_forall hne (by simpa using h)

/-- Only the two ends of a text count. -/
theorem Tight.append {front back : List Char} (hfront : Tight front) (middle : List Char)
    (hback : Tight back) : Tight (front ++ (middle ++ back)) := by
  obtain ⟨⟨c, hc, hhead⟩, -⟩ := hfront
  obtain ⟨-, ⟨d, hd, hlast⟩⟩ := hback
  refine ⟨⟨c, ?_, hhead⟩, ⟨d, ?_, hlast⟩⟩
  · rw [List.head?_append, Option.mem_def.mp hc]
    rfl
  · rw [List.getLast?_append, List.getLast?_append, Option.mem_def.mp hd]
    rfl

theorem trimRight_append_singleton {c : Char} (hc : isBlank c = false) : ∀ front : List Char,
    trimRight (front ++ [c]) = front ++ [c]
  | [] => by simp [trimRight, hc]
  | d :: front => by
    rw [List.cons_append, trimRight, trimRight_append_singleton hc front]
    split
    next h => simp at h
    next => rfl

theorem trimRight_eq_self {text : List Char} (h : Tight text) : trimRight text = text := by
  obtain ⟨-, ⟨d, hd, hlast⟩⟩ := h
  obtain ⟨front, rfl⟩ := List.getLast?_eq_some_iff.mp hd
  exact trimRight_append_singleton hlast front

/-- A text without outer white space is not changed by trimming. -/
theorem trim_eq_self {text : List Char} (h : Tight text) : trim text = text := by
  have hright := trimRight_eq_self h
  obtain ⟨⟨c, hc, hhead⟩, -⟩ := h
  obtain ⟨cs, rfl⟩ := List.head?_eq_some_iff.mp hc
  unfold trim trimLeft
  rw [hright, List.dropWhile_cons_of_neg (by simp [hhead])]

/-! ### White space around a text -/

/-- Whether the white space at both ends of a text is spaces and tabs. -/
def OnlyGapsAround (text : List Char) : Prop :=
  (∀ c ∈ text.takeWhile isBlank, isGap c = true) ∧
    ∀ c ∈ text.reverse.takeWhile isBlank, isGap c = true

instance (text : List Char) : Decidable (OnlyGapsAround text) :=
  decidable_of_iff ((text.takeWhile isBlank).all isGap = true ∧
      (text.reverse.takeWhile isBlank).all isGap = true)
    (and_congr List.all_eq_true List.all_eq_true)

/-- If trimming leaves anything, then a text without outer white space. -/
theorem tight_trim {text : List Char} (hne : trim text ≠ []) : Tight (trim text) := by
  refine ⟨⟨(trim text).head hne, List.head?_eq_some_head hne, ?_⟩,
    ⟨(trim text).getLast hne, List.getLast?_eq_some_getLast hne, ?_⟩⟩
  · have hhead := List.head?_dropWhile_not isBlank (trimRight text)
    rw [show (trimRight text).dropWhile isBlank = trim text from rfl,
      List.head?_eq_some_head hne] at hhead
    simpa using hhead
  · obtain ⟨front, hfront, -⟩ := exists_trimLeft (trimRight text)
    have hlast : trimRight text = (front ++ (trim text).dropLast) ++ [(trim text).getLast hne] := by
      rw [List.append_assoc, List.dropLast_concat_getLast]
      exact hfront
    exact isBlank_of_trimRight_eq_append hlast

theorem trimRight_append {back : List Char} (hback : ∀ c ∈ back, isBlank c = true) :
    ∀ text : List Char, trimRight (text ++ back) = trimRight text
  | [] => by
    induction back with
    | nil => rfl
    | cons c back ih =>
      have hnil := ih fun c hc => hback c (List.mem_cons_of_mem _ hc)
      rw [List.nil_append] at hnil ⊢
      unfold trimRight
      rw [hnil, hback c List.mem_cons_self]
      rfl
  | c :: text => by
    rw [List.cons_append, trimRight, trimRight_append hback text, trimRight]

/-- A text without outer white space is what trimming leaves of it between white space. -/
theorem trim_append {front body back : List Char} (hfront : ∀ c ∈ front, isBlank c = true)
    (hbody : Tight body) (hback : ∀ c ∈ back, isBlank c = true) :
    trim (front ++ (body ++ back)) = body := by
  obtain ⟨d, hd, hlast⟩ := hbody.2
  obtain ⟨most, rfl⟩ := List.getLast?_eq_some_iff.mp hd
  have hright : trimRight (front ++ (most ++ [d] ++ back)) = front ++ (most ++ [d]) := by
    rw [← List.append_assoc, trimRight_append hback, ← List.append_assoc,
      trimRight_append_singleton hlast]
  obtain ⟨c, hc, hhead⟩ := hbody.1
  unfold trim trimLeft
  rw [hright, List.dropWhile_append_of_pos hfront]
  obtain ⟨cs, hcs⟩ := List.head?_eq_some_iff.mp hc
  rw [hcs, List.dropWhile_cons_of_neg (by simp [hhead])]

/-- A text with only spaces and tabs around it is what trimming leaves, between spaces and tabs. -/
theorem exists_gaps_trim {text : List Char} (h : OnlyGapsAround text) (hne : trim text ≠ []) :
    ∃ front back, text = front ++ (trim text ++ back) ∧ (∀ c ∈ front, isGap c = true) ∧
      ∀ c ∈ back, isGap c = true := by
  obtain ⟨back, htext, hback⟩ := exists_trimRight text
  obtain ⟨front, hright, hfront⟩ := exists_trimLeft (trimRight text)
  have hwhole : text = front ++ (trim text ++ back) := by
    rw [← List.append_assoc]
    exact htext.trans (congrArg (· ++ back) hright)
  obtain ⟨⟨c, hc, hhead⟩, ⟨d, hd, hlast⟩⟩ := tight_trim hne
  -- the outer white space of the text is the run that trimming takes off at either end
  have htake : text.takeWhile isBlank = front := by
    rw [hwhole]
    refine (takeWhile_append_of_head (List.all_eq_true.mp hfront) fun c' hc' => ?_).1
    rw [List.head?_append, Option.mem_def.mp hc] at hc'
    exact Option.some.inj hc' ▸ hhead
  have htake' : text.reverse.takeWhile isBlank = back.reverse := by
    rw [hwhole, List.reverse_append, List.reverse_append, List.append_assoc]
    refine (takeWhile_append_of_head ?_ fun d' hd' => ?_).1
    · exact fun c hc => List.all_eq_true.mp hback c (List.mem_reverse.mp hc)
    · rw [List.head?_append, List.head?_reverse, Option.mem_def.mp hd] at hd'
      exact Option.some.inj hd' ▸ hlast
  refine ⟨front, back, hwhole, htake ▸ h.1, fun c hc => ?_⟩
  exact h.2 c (htake' ▸ List.mem_reverse.mpr hc)

/-! ### Characters that are no white space -/

theorem toNat_of_isBlank {c : Char} (h : isBlank c = true) : c.toNat ≤ 32 ∨ 128 ≤ c.toNat := by
  unfold isBlank at h
  simp only [Bool.or_eq_true, Bool.and_eq_true, decide_eq_true_eq, beq_iff_eq] at h
  omega

theorem toNat_of_isAlphanum {c : Char} (h : c.isAlphanum = true) :
    48 ≤ c.toNat ∧ c.toNat ≤ 122 := by
  change (decide (c.val ≥ 'A'.val ∧ c.val ≤ 'Z'.val) ||
    (decide (c.val ≥ 'a'.val) && decide (c.val ≤ 'z'.val)) ||
      (decide (c.val ≥ '0'.val) && decide (c.val ≤ '9'.val))) = true at h
  simp only [Bool.or_eq_true, Bool.and_eq_true, decide_eq_true_eq, ge_iff_le,
    UInt32.le_iff_toNat_le, Char.reduceVal, UInt32.reduceToNat] at h
  have hcode : c.toNat = c.val.toNat := rfl
  omega

theorem isBlank_of_isNameCharacter {c : Char} (h : Cursor.isNameCharacter c = true) :
    isBlank c = false := by
  rcases Bool.or_eq_true _ _ ▸ h with halphanum | hunderscore
  · refine Bool.eq_false_iff.mpr fun hblank => ?_
    have hcode := toNat_of_isBlank hblank
    have hcode' := toNat_of_isAlphanum halphanum
    omega
  · rw [beq_iff_eq.mp hunderscore]
    decide

theorem isBlank_of_isTokenCharacter {c : Char} (h : Cursor.isTokenCharacter c = true) :
    isBlank c = false := by
  simp only [Cursor.isTokenCharacter, Bool.or_eq_true, beq_iff_eq] at h
  rcases h with (hdigit | rfl) | rfl
  · exact isBlank_of_isNameCharacter (by simp [Cursor.isNameCharacter, Char.isAlphanum, hdigit])
  · decide
  · decide

end Sift.Text
