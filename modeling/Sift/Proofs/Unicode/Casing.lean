/-
# What lowering a text does

A text of ASCII characters is lowered letter by letter, and what is an ASCII character in small letters
comes from one, from a capital I with a dot or from the sign for kelvin. The capital I with a dot
becomes a small i and the dot. A capital sigma becomes the final small sigma if a letter with case comes
before it and none after it, characters that case passes over aside.

Key definitions: `Run.Holds`, `lowerWithin`.
Key theorems: `lowerText_eq_map_toLower`, `exists_of_mem_lowerText`, `meetsCased_iff`,
`lowerText_dotted`, `lowerText_sigma`.
-/
import Sift.Unicode.Casing

namespace Sift.Unicode

/-! ### Letters with a small form -/

/-- Whether a run has a code point. -/
def Run.Holds (run : Run) (code : Nat) : Prop :=
  run.first ≤ code ∧ code ≤ run.last ∧ (code - run.first) % run.step = 0

/-- The capital letters of ASCII. -/
def asciiCapitals : Run := ⟨0x41, 0x5A, 1, 0x61⟩

/-- The sign for kelvin, which becomes a small k. -/
def kelvin : Run := ⟨0x212A, 0x212A, 1, 0x6B⟩

/-- Whether a run is outside ASCII and leads to characters outside it. -/
def Run.IsOutside (run : Run) : Prop :=
  128 ≤ run.first ∧ 128 ≤ run.image ∧ (run.image + (run.last - run.first) < 0xD800 ∨
    0xDFFF < run.image ∧ run.image + (run.last - run.first) < 0x110000)

deriving instance DecidableEq for Run

instance (run : Run) : Decidable run.IsOutside :=
  inferInstanceAs (Decidable (_ ∧ _))

set_option maxRecDepth 10000 in
theorem smallLetters_runs : asciiCapitals ∈ smallLetters ∧
    ∀ run ∈ smallLetters, run = asciiCapitals ∨ run = kelvin ∨ run.IsOutside := by
  unfold smallLetters RunTable.ofText
  rw [String.toList_ofList]
  decide +kernel

theorem exists_of_image? {table : RunTable} {c d : Char} (h : table.image? c = some d) :
    ∃ run ∈ table, run.Holds c.toNat ∧ d = Char.ofNat (run.image + (c.toNat - run.first)) := by
  obtain ⟨run, hrun, himage⟩ := List.exists_of_findSome?_eq_some h
  dsimp only at himage
  split at himage
  next hholds => exact ⟨run, hrun, hholds, (Option.some.inj himage).symm⟩
  next => cases himage

theorem exists_image? {table : RunTable} {run : Run} {c : Char} (hrun : run ∈ table)
    (h : run.Holds c.toNat) : ∃ d, table.image? c = some d := by
  refine Option.ne_none_iff_exists'.mp fun hnone => ?_
  have himage := List.findSome?_eq_none_iff.mp hnone run hrun
  exact absurd (himage.symm.trans (if_pos h)) nofun

/-- A run outside ASCII leads to no ASCII character. -/
theorem le_toNat_image {run : Run} {code : Nat} (h : run.IsOutside) (hcode : run.Holds code) :
    128 ≤ (Char.ofNat (run.image + (code - run.first))).toNat := by
  obtain ⟨-, himage, hscalar⟩ := h
  obtain ⟨hfirst, hlast, -⟩ := hcode
  have hvalid : (run.image + (code - run.first)).isValidChar := by
    unfold Nat.isValidChar
    omega
  have htoNat : (Char.ofNat (run.image + (code - run.first))).toNat =
      run.image + (code - run.first) := by
    unfold Char.ofNat
    rw [dif_pos hvalid]
    rfl
  omega

theorem toLower_ofNat : ∀ n < 128, (Char.ofNat n).toLower =
    if asciiCapitals.first ≤ n ∧ n ≤ asciiCapitals.last then
      Char.ofNat (asciiCapitals.image + (n - asciiCapitals.first))
    else Char.ofNat n := by
  decide +kernel

/-- The small form of an ASCII character. -/
theorem getD_image?_of_ascii {c : Char} (h : c.toNat < 128) :
    (smallLetters.image? c).getD c = c.toLower := by
  have hlower := toLower_ofNat c.toNat h
  rw [Char.ofNat_toNat] at hlower
  rw [hlower]
  split
  next hcapital =>
    obtain ⟨d, hd⟩ := exists_image? smallLetters_runs.1
      (show asciiCapitals.Holds c.toNat from ⟨hcapital.1, hcapital.2, Nat.mod_one _⟩)
    obtain ⟨run, hrun, ⟨hfirst, -⟩, rfl⟩ := exists_of_image? hd
    rw [hd]
    rcases smallLetters_runs.2 run hrun with rfl | rfl | ⟨hout, -⟩
    · rfl
    · exact absurd (Nat.lt_of_le_of_lt hfirst h) (by decide)
    · omega
  next hcapital =>
    cases hd : smallLetters.image? c with
    | none => rfl
    | some d =>
      obtain ⟨run, hrun, ⟨hfirst, hlast, -⟩, -⟩ := exists_of_image? hd
      rcases smallLetters_runs.2 run hrun with rfl | rfl | ⟨hout, -⟩
      · exact absurd ⟨hfirst, hlast⟩ hcapital
      · exact absurd (Nat.lt_of_le_of_lt hfirst h) (by decide)
      · omega

/-! ### ASCII -/

theorem lowerChar_of_ascii {c : Char} (h : c.toNat < 128) (before after : List Char) :
    lowerChar before c after = [c.toLower] := by
  have hdotted : c ≠ 'İ' := by
    rintro rfl
    revert h
    decide
  have hsigma : c ≠ 'Σ' := by
    rintro rfl
    revert h
    decide
  rw [lowerChar, if_neg hdotted, if_neg hsigma, getD_image?_of_ascii h]

theorem lowerAfter_of_ascii {cs : List Char} (h : ∀ c ∈ cs, c.toNat < 128) (before : List Char) :
    lowerAfter before cs = cs.map Char.toLower := by
  induction cs generalizing before with
  | nil => rfl
  | cons c cs ih =>
    obtain ⟨hc, hcs⟩ := List.forall_mem_cons.mp h
    rw [lowerAfter, lowerChar_of_ascii hc, ih hcs]
    rfl

/-- **A text of ASCII characters is lowered letter by letter.** -/
theorem lowerText_eq_map_toLower {cs : List Char} (h : ∀ c ∈ cs, c.toNat < 128) :
    lowerText cs = cs.map Char.toLower :=
  lowerAfter_of_ascii h []

/-- Only the sign for kelvin is outside ASCII and has a small form in it. -/
theorem eq_kelvin_of_image {c : Char} (hc : ¬ c.toNat < 128)
    (h : ((smallLetters.image? c).getD c).toNat < 128) :
    c = '\u212A' ∧ (smallLetters.image? c).getD c = 'k' := by
  cases himage : smallLetters.image? c with
  | none =>
    rw [himage] at h
    exact absurd h hc
  | some d =>
    rw [himage] at h
    obtain ⟨run, hrun, hholds, rfl⟩ := exists_of_image? himage
    rcases smallLetters_runs.2 run hrun with rfl | rfl | hout
    · exact absurd (Nat.lt_of_le_of_lt hholds.2.1 (by decide)) hc
    · have hcode : c.toNat = 0x212A := Nat.le_antisymm hholds.2.1 hholds.1
      refine ⟨Char.toNat_inj.mp hcode, ?_⟩
      rw [hcode]
      rfl
    · exact absurd (le_toNat_image hout hholds) (Nat.not_le.mpr h)

theorem ascii_of_mem_lowerChar {before after : List Char} {c d : Char}
    (h : d ∈ lowerChar before c after) (hd : d.toNat < 128) :
    c.toNat < 128 ∧ d = c.toLower ∨ c = 'İ' ∧ d = 'i' ∨ c = '\u212A' ∧ d = 'k' := by
  by_cases hc : c.toNat < 128
  · rw [lowerChar_of_ascii hc] at h
    exact .inl ⟨hc, List.mem_singleton.mp h⟩
  · refine .inr ?_
    unfold lowerChar at h
    split at h
    next hdotted =>
      refine .inl ⟨hdotted, ?_⟩
      rcases List.mem_cons.mp h with rfl | h
      · rfl
      · rw [List.mem_singleton.mp h] at hd
        exact absurd hd (by decide)
    next =>
      split at h
      next =>
        -- Both small sigmas are outside ASCII.
        split at h <;> rw [List.mem_singleton.mp h] at hd <;> exact absurd hd (by decide)
      next =>
        rw [List.mem_singleton.mp h] at hd ⊢
        exact .inr (eq_kelvin_of_image hc hd)

theorem exists_of_mem_lowerAfter {d : Char} : ∀ {before cs : List Char}, d ∈ lowerAfter before cs →
    ∃ c ∈ cs, ∃ before after, d ∈ lowerChar before c after
  | before, c :: cs, h => by
    rcases List.mem_append.mp h with h | h
    · exact ⟨c, List.mem_cons_self, before, cs, h⟩
    · obtain ⟨c', hc', hd⟩ := exists_of_mem_lowerAfter h
      exact ⟨c', List.mem_cons_of_mem c hc', hd⟩

/-- **What is an ASCII character in small letters comes from one,** from a capital I with a dot or from
the sign for kelvin. -/
theorem exists_of_mem_lowerText {cs : List Char} {d : Char} (h : d ∈ lowerText cs)
    (hd : d.toNat < 128) :
    ∃ c ∈ cs, c.toNat < 128 ∧ d = c.toLower ∨ c = 'İ' ∧ d = 'i' ∨ c = '\u212A' ∧ d = 'k' := by
  obtain ⟨c, hc, before, after, hlower⟩ := exists_of_mem_lowerAfter h
  exact ⟨c, hc, ascii_of_mem_lowerChar hlower hd⟩

/-! ### The dotted I and the sigma -/

/-- The small form of a part of a text between what stands before it, nearest first, and what
follows. -/
def lowerWithin (before after : List Char) : List Char → List Char
  | [] => []
  | c :: cs => lowerChar before c (cs ++ after) ++ lowerWithin (c :: before) after cs

theorem lowerAfter_append (before xs ys : List Char) :
    lowerAfter before (xs ++ ys) =
      lowerWithin before ys xs ++ lowerAfter (xs.reverse ++ before) ys := by
  induction xs generalizing before with
  | nil => rfl
  | cons x xs ih =>
    rw [List.cons_append, lowerAfter, ih, lowerWithin, List.append_assoc, List.reverse_cons,
      List.append_assoc, List.singleton_append]

/-- Each character is lowered in its place. -/
theorem lowerText_append_cons (front : List Char) (c : Char) (back : List Char) :
    lowerText (front ++ c :: back) = lowerWithin [] (c :: back) front ++
      lowerChar front.reverse c back ++ lowerAfter (c :: front.reverse) back := by
  rw [lowerText, lowerAfter_append, List.append_nil, lowerAfter, List.append_assoc]

/-- A letter with case is met if only characters that case passes over come before it. -/
theorem meetsCased_iff {cs : List Char} : meetsCased cs = true ↔
    ∃ passed c rest, cs = passed ++ c :: rest ∧ (∀ d ∈ passed, caseIgnorable.contains d = true) ∧
      caseIgnorable.contains c = false ∧ cased.contains c = true := by
  unfold meetsCased
  constructor
  · intro h
    split at h
    next c rest hrest =>
      have hhead := List.head?_dropWhile_not caseIgnorable.contains cs
      rw [hrest] at hhead
      have hcs := List.takeWhile_append_dropWhile (p := caseIgnorable.contains) (l := cs)
      rw [hrest] at hcs
      exact ⟨_, c, rest, hcs.symm, List.all_eq_true.mp List.all_takeWhile, by simpa using hhead, h⟩
    next => cases h
  · rintro ⟨passed, c, rest, rfl, hpassed, hc, hcased⟩
    rw [List.dropWhile_append_of_pos hpassed, List.dropWhile_cons_of_neg (by simp [hc])]
    exact hcased

theorem lowerText_dotted (front back : List Char) :
    lowerText (front ++ 'İ' :: back) = lowerWithin [] ('İ' :: back) front ++
      'i' :: '\u0307' :: lowerAfter ('İ' :: front.reverse) back := by
  rw [lowerText_append_cons, List.append_assoc]
  rfl

/-- **A capital sigma becomes the final one exactly at the end of a word:** if a letter with case comes
before it and none after it. -/
theorem lowerText_sigma (front back : List Char) :
    lowerText (front ++ 'Σ' :: back) = lowerWithin [] ('Σ' :: back) front ++
      (if meetsCased front.reverse = true ∧ meetsCased back = false then 'ς' else 'σ') ::
        lowerAfter ('Σ' :: front.reverse) back := by
  rw [lowerText_append_cons, List.append_assoc, lowerChar, if_neg (by decide), if_pos rfl]
  cases meetsCased front.reverse <;> cases meetsCased back <;> rfl

end Sift.Unicode
