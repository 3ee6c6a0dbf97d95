/-
# The words of a text

A text has certain words when it is made of them: in front of each word there may be white space, no
word is empty or has white space in it, and behind a word there is white space or the end of the text.
A text is made of no other words than those that it is split into.

Key definitions: `IsWord`, `HasWords`.
Key theorem: `words_eq_iff`.
-/
import Sift.Text.Blank

namespace Sift.Text

/-- Whether a text is a run of characters that are no white space. -/
def IsWord (cs : List Char) : Prop :=
  cs ≠ [] ∧ ∀ c ∈ cs, isBlank c = false

/-- Whether a text is made of words, with white space between them and around them. -/
inductive HasWords : List Char → List (List Char) → Prop
  | nil {blanks : List Char} (hblanks : ∀ c ∈ blanks, isBlank c = true) : HasWords blanks []
  | cons {blanks word rest : List Char} {words : List (List Char)}
      (hblanks : ∀ c ∈ blanks, isBlank c = true) (hword : IsWord word)
      (hend : ∀ c ∈ rest.head?, isBlank c = true) (hrest : HasWords rest words) :
      HasWords (blanks ++ (word ++ rest)) (word :: words)

variable {cs word : List Char} {ws : List (List Char)}

/-! ### The words that a text is split into -/

/-- White space in front is none of the words. -/
theorem HasWords.blank_cons {c : Char} (hc : isBlank c = true) (h : HasWords cs ws) :
    HasWords (c :: cs) ws := by
  cases h with
  | nil hblanks => exact .nil (List.forall_mem_cons.mpr ⟨hc, hblanks⟩)
  | cons hblanks hword hend hrest =>
    exact .cons (List.forall_mem_cons.mpr ⟨hc, hblanks⟩) hword hend hrest

theorem isWord_reverse (hne : cs ≠ []) (h : ∀ c ∈ cs, isBlank c = false) : IsWord cs.reverse :=
  ⟨mt List.reverse_eq_nil_iff.mp hne, fun c hc => h c (List.mem_reverse.mp hc)⟩

/-- A text is made of the words that it is split into, those read so far included. -/
theorem hasWords_wordsFrom : ∀ (cs current : List Char), (∀ c ∈ current, isBlank c = false) →
    HasWords (current.reverse ++ cs) (wordsFrom current cs)
  | [], current, hcurrent => by
    unfold wordsFrom
    by_cases hnil : current = []
    · rw [hnil]
      exact .nil nofun
    · have hblank : HasWords [] [] := .nil nofun
      rw [if_neg (mt List.isEmpty_iff.mp hnil)]
      exact .cons (List.forall_mem_nil _) (isWord_reverse hnil hcurrent) nofun hblank
  | c :: cs, current, hcurrent => by
    unfold wordsFrom
    by_cases hc : isBlank c = true
    · have hrest : HasWords (c :: cs) (wordsFrom [] cs) :=
        (hasWords_wordsFrom cs [] nofun).blank_cons hc
      rw [if_pos hc]
      by_cases hnil : current = []
      · rw [hnil]
        exact hrest
      · have hend : ∀ d ∈ (c :: cs).head?, isBlank d = true := by
          rintro d ⟨⟩
          exact hc
        rw [if_neg (mt List.isEmpty_iff.mp hnil)]
        exact .cons (List.forall_mem_nil _) (isWord_reverse hnil hcurrent) hend hrest
    · have hmore : ∀ d ∈ c :: current, isBlank d = false :=
        List.forall_mem_cons.mpr ⟨Bool.eq_false_iff.mpr hc, hcurrent⟩
      have ih := hasWords_wordsFrom cs (c :: current) hmore
      rw [List.reverse_cons, List.append_assoc, List.singleton_append] at ih
      rw [if_neg hc]
      exact ih

/-! ### The words that a text is made of -/

/-- White space in front is passed over. -/
theorem words_blanks_append {blanks : List Char} (h : ∀ c ∈ blanks, isBlank c = true)
    (cs : List Char) : words (blanks ++ cs) = words cs := by
  induction blanks with
  | nil => rfl
  | cons c blanks ih =>
    obtain ⟨hc, hblanks⟩ := List.forall_mem_cons.mp h
    have hrest := ih hblanks
    unfold words at hrest ⊢
    rw [List.cons_append, wordsFrom, if_pos hc]
    exact hrest

/-- A word is read to its end. -/
theorem wordsFrom_append (h : ∀ c ∈ word, isBlank c = false) (current rest : List Char) :
    wordsFrom current (word ++ rest) = wordsFrom (word.reverse ++ current) rest := by
  induction word generalizing current with
  | nil => rfl
  | cons c word ih =>
    obtain ⟨hc, hword⟩ := List.forall_mem_cons.mp h
    rw [List.cons_append, wordsFrom, if_neg (by simp [hc]), ih hword, List.reverse_cons,
      List.append_assoc, List.singleton_append]

/-- A word that has been read ends at white space and at the end of the text. -/
theorem wordsFrom_of_end {current rest : List Char} (hne : current ≠ [])
    (hend : ∀ c ∈ rest.head?, isBlank c = true) :
    wordsFrom current rest = current.reverse :: words rest := by
  have hempty : ¬ current.isEmpty = true := mt List.isEmpty_iff.mp hne
  unfold words
  cases rest with
  | nil => rw [wordsFrom, if_neg hempty]; rfl
  | cons c rest =>
    have hc : isBlank c = true := hend c rfl
    rw [wordsFrom, if_pos hc, if_neg hempty, wordsFrom, if_pos hc]
    rfl

theorem HasWords.words_eq (h : HasWords cs ws) : words cs = ws := by
  induction h with
  | @nil blanks hblanks =>
    have hnone := words_blanks_append hblanks []
    rw [List.append_nil] at hnone
    exact hnone
  | @cons blanks word rest ws hblanks hword hend hrest ih =>
    have hread : words (word ++ rest) = wordsFrom (word.reverse ++ []) rest :=
      wordsFrom_append hword.2 [] rest
    have hne : word.reverse ≠ [] := mt List.reverse_eq_nil_iff.mp hword.1
    rw [words_blanks_append hblanks, hread, List.append_nil, wordsFrom_of_end hne hend,
      List.reverse_reverse, ih]

/-- **A text is split into the words that it is made of.** -/
theorem words_eq_iff : words cs = ws ↔ HasWords cs ws := by
  refine ⟨?_, HasWords.words_eq⟩
  rintro rfl
  exact hasWords_wordsFrom cs [] nofun

end Sift.Text
