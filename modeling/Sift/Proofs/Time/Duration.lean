/-
# What durations are read

A text is a duration before now if, trimmed and in small letters, it is made of a numeral, a unit and
the word "ago". What reading gives depends on the first of these that is not as it should be, and
otherwise on the seconds, the product of the number and the length of the unit: they are given when
their milliseconds fit in 64 bits. In words of 64 bits the product is only taken where it is one, and
what is read is the same.

Key definitions: `Duration.HasParts`, `Duration.IsSingular`, `Duration.Means`, `Duration.product?`,
`Duration.wordRead`.
Key theorems: `Duration.product?_eq_some_iff`, `Duration.toInt_wordRead`,
`Duration.read_eq_iff_means`.
-/
import Mathlib.Data.List.Basic
import Sift.Proofs.Text.Numeral
import Sift.Proofs.Text.Words
import Sift.Proofs.Unicode.Casing
import Sift.Time.Duration

namespace Sift.Duration

/-! ### The parts of a text -/

/-- A text without outer white space, in small letters. -/
def small (text : String) : List Char :=
  Unicode.lowerText (Text.trim text.toList)

/-- In a text of ASCII characters only the letters of ASCII change. -/
theorem small_eq_map_toLower {text : String} (h : ∀ c ∈ text.toList, c.toNat < 128) :
    small text = (Text.trim text.toList).map Char.toLower := by
  obtain ⟨back, hback, -⟩ := Text.exists_trimRight text.toList
  obtain ⟨front, hfront, -⟩ := Text.exists_trimLeft (Text.trimRight text.toList)
  refine Unicode.lowerText_eq_map_toLower fun c hc => h c ?_
  rw [hback, hfront, List.append_assoc]
  exact List.mem_append_right front (List.mem_append_left back hc)

/-- Whether there are exactly two words in a text before the last one, which is "ago". -/
def HasParts (text : String) (number unit : List Char) : Prop :=
  ∃ rest, small text = rest ++ [' ', 'a', 'g', 'o'] ∧ Text.HasWords rest [number, unit]

/-- Whether a name is that of a unit without the s of its plural; an s alone is no plural. -/
def IsSingular (unit name : List Char) : Prop :=
  unit = name ++ ['s'] ∧ name ≠ [] ∨ unit = name ∧ ∀ front, unit = front ++ ['s'] → front = []

/-- The units and their lengths in seconds. -/
def unitLengths : List (String × Int) :=
  [("second", 1), ("minute", 60), ("hour", 3600), ("day", 86400)]

/-- What a text means as a duration: the seconds, or why it is none. -/
inductive Means (text : String) : Except DurationError Int → Prop
  | missingAgo (hend : ∀ rest, small text ≠ rest ++ [' ', 'a', 'g', 'o']) :
      Means text (.error .missingAgo)
  | invalidFormat {rest : List Char} {words : List (List Char)}
      (hend : small text = rest ++ [' ', 'a', 'g', 'o']) (hwords : Text.HasWords rest words)
      (hlength : words.length ≠ 2) : Means text (.error .invalidFormat)
  | invalidNumber {number unit : List Char} (hparts : HasParts text number unit)
      (hnumber : ∀ n : Int64, ¬ Text.IsNumeral number n.toInt) :
      Means text (.error (.invalidNumber (String.ofList number)))
  | unknownUnit {number unit name : List Char} {count : Int64} (hparts : HasParts text number unit)
      (hnumber : Text.IsNumeral number count.toInt) (hunit : IsSingular unit name)
      (hname : ∀ length, (String.ofList name, length) ∉ unitLengths) :
      Means text (.error (.unknownUnit (String.ofList name)))
  | outOfRange {number unit name : List Char} {count : Int64} {length : Int}
      (hparts : HasParts text number unit) (hnumber : Text.IsNumeral number count.toInt)
      (hunit : IsSingular unit name) (hlength : (String.ofList name, length) ∈ unitLengths)
      (hrange : 9223372036854775 < (count.toInt * length).natAbs) :
      Means text (.error (.outOfRange (String.ofList (Text.trim text.toList))))
  | seconds {number unit name : List Char} {count : Int64} {length : Int}
      (hparts : HasParts text number unit) (hnumber : Text.IsNumeral number count.toInt)
      (hunit : IsSingular unit name) (hlength : (String.ofList name, length) ∈ unitLengths)
      (hrange : (count.toInt * length).natAbs ≤ 9223372036854775) :
      Means text (.ok (count.toInt * length))

/-! ### Ends and units -/

theorem dropEnd?_eq_some_iff {ending cs rest : List Char} :
    dropEnd? ending cs = some rest ↔ cs = rest ++ ending := by
  unfold dropEnd?
  constructor
  · intro h
    split at h
    next hsuffix =>
      obtain ⟨front, rfl⟩ := List.isSuffixOf_iff_suffix.mp hsuffix
      rw [List.length_append, Nat.add_sub_cancel, List.take_left] at h
      rw [Option.some.inj h]
    next => cases h
  · rintro rfl
    have hsuffix : ending.isSuffixOf (rest ++ ending) = true :=
      List.isSuffixOf_iff_suffix.mpr (List.suffix_append rest ending)
    rw [if_pos hsuffix, List.length_append, Nat.add_sub_cancel, List.take_left]

theorem dropEnd?_eq_none_iff {ending cs : List Char} :
    dropEnd? ending cs = none ↔ ∀ rest, cs ≠ rest ++ ending := by
  rw [Option.eq_none_iff_forall_ne_some]
  exact forall_congr' fun rest => not_congr dropEnd?_eq_some_iff

/-- The singular of a unit is the only name that is one. -/
theorem singular_eq_iff {unit name : List Char} : singular unit = name ↔ IsSingular unit name := by
  unfold singular IsSingular
  cases hdrop : dropEnd? ['s'] unit with
  | none =>
    have hend := dropEnd?_eq_none_iff.mp hdrop
    constructor
    · rintro rfl
      exact .inr ⟨rfl, fun front hfront => absurd hfront (hend front)⟩
    · rintro (⟨hs, -⟩ | ⟨rfl, -⟩)
      · exact absurd hs (hend name)
      · rfl
  | some rest =>
    obtain rfl := dropEnd?_eq_some_iff.mp hdrop
    cases rest with
    | nil =>
      constructor
      · rintro rfl
        refine .inr ⟨rfl, fun front hfront => ?_⟩
        exact (List.append_cancel_right hfront).symm
      · rintro (⟨hs, hne⟩ | ⟨rfl, -⟩)
        · exact absurd (List.append_cancel_right hs).symm hne
        · rfl
    | cons c rest =>
      constructor
      · rintro rfl
        exact .inl ⟨rfl, List.cons_ne_nil c rest⟩
      · rintro (⟨hs, -⟩ | ⟨rfl, hnil⟩)
        · exact List.append_cancel_right hs
        · exact absurd (hnil (c :: rest) rfl) (List.cons_ne_nil c rest)

theorem unitSeconds?_eq_some_iff {name : String} {length : Int} :
    unitSeconds? name = some length ↔ (name, length) ∈ unitLengths := by
  unfold unitSeconds? unitLengths
  simp only [List.mem_cons, Prod.mk.injEq, List.not_mem_nil, or_false]
  grind

theorem unitSeconds?_eq_none_iff {name : String} :
    unitSeconds? name = none ↔ ∀ length, (name, length) ∉ unitLengths := by
  rw [Option.eq_none_iff_forall_ne_some]
  exact forall_congr' fun length => not_congr unitSeconds?_eq_some_iff

theorem inRange_iff {seconds : Int} :
    (-maxSeconds ≤ seconds ∧ seconds ≤ maxSeconds) ↔ seconds.natAbs ≤ 9223372036854775 := by
  unfold maxSeconds
  omega

/-- Where both words can be read, the seconds are given or out of range. -/
theorem ofWords_of_length {number unit name : List Char} {count : Int64} {length : Int}
    (hnumber : Text.IsNumeral number count.toInt) (hunit : IsSingular unit name)
    (hlength : (String.ofList name, length) ∈ unitLengths) (whole : List Char) :
    ofWords whole number unit =
      if (count.toInt * length).natAbs ≤ 9223372036854775 then .ok (count.toInt * length)
      else .error (.outOfRange (String.ofList whole)) := by
  unfold ofWords
  rw [Text.readInt64?_eq_some_iff.mpr hnumber]
  dsimp only
  rw [singular_eq_iff.mpr hunit, unitSeconds?_eq_some_iff.mpr hlength]
  simp only [inRange_iff]

/-! ### Seconds in words -/

/-- The product of two words, where it is one. -/
def product? (a b : Int64) : Option Int64 :=
  if a.toBitVec.smulOverflow b.toBitVec then none else some (a * b)

/-- The seconds of a number of units, where they are a duration, in words. -/
def wordSeconds? (count length : Int64) : Option Int64 := do
  let seconds ← product? count length
  if -9223372036854775 ≤ seconds ∧ seconds ≤ 9223372036854775 then some seconds else none

/-- The seconds of a number of units, in words. `whole` is the text that an error names. -/
def wordOfWords (whole number unit : List Char) : Except DurationError Int64 :=
  match Text.readInt64? number with
  | none => .error (.invalidNumber (String.ofList number))
  | some count =>
    let name := String.ofList (singular unit)
    match unitSeconds? name with
    | none => .error (.unknownUnit name)
    | some length =>
      match wordSeconds? count (Int64.ofInt length) with
      | some seconds => .ok seconds
      | none => .error (.outOfRange (String.ofList whole))

/-- The seconds of a duration before now, in words. -/
def wordRead (text : String) : Except DurationError Int64 :=
  let trimmed := Text.trim text.toList
  match dropEnd? [' ', 'a', 'g', 'o'] (Unicode.lowerText trimmed) with
  | none => .error .missingAgo
  | some rest =>
    match Text.words rest with
    | [number, unit] => wordOfWords trimmed number unit
    | _ => .error .invalidFormat

/-- A product of words is taken exactly where it is a word, and then it is exact. -/
theorem product?_eq_some_iff {a b c : Int64} :
    product? a b = some c ↔ c.toInt = a.toInt * b.toInt := by
  have hlower := c.le_toInt
  have hupper := c.toInt_lt
  have hproduct : (a * b).toInt = (a.toInt * b.toInt).bmod (2 ^ 64) := Int64.toInt_mul a b
  have hoverflow : a.toBitVec.smulOverflow b.toBitVec = true ↔
      2 ^ 63 ≤ a.toInt * b.toInt ∨ a.toInt * b.toInt < -2 ^ 63 := by
    simp [BitVec.smulOverflow]
  unfold product?
  split
  next h =>
    have hrange := hoverflow.mp h
    refine ⟨nofun, fun hc => ?_⟩
    omega
  next h =>
    have hrange := mt hoverflow.mpr h
    have hexact : (a * b).toInt = a.toInt * b.toInt := by
      rw [hproduct]
      exact Int.bmod_eq_of_le (by omega) (by omega)
    rw [Option.some.injEq, ← Int64.toInt_inj, hexact, eq_comm]

theorem wordSeconds?_eq_some_iff {count length seconds : Int64} :
    wordSeconds? count length = some seconds ↔
      seconds.toInt = count.toInt * length.toInt ∧ seconds.toInt.natAbs ≤ 9223372036854775 := by
  have hrange (word : Int64) : (-9223372036854775 ≤ word ∧ word ≤ 9223372036854775) ↔
      word.toInt.natAbs ≤ 9223372036854775 := by
    have hmin : (-9223372036854775 : Int64).toInt = -9223372036854775 := by decide
    have hmax : (9223372036854775 : Int64).toInt = 9223372036854775 := by decide
    rw [Int64.le_iff_toInt_le, Int64.le_iff_toInt_le, hmin, hmax]
    omega
  unfold wordSeconds?
  rw [Option.bind_eq_bind, Option.bind_eq_some_iff]
  constructor
  · rintro ⟨product, hproduct, hseconds⟩
    split at hseconds
    next hin =>
      obtain rfl := Option.some.inj hseconds
      exact ⟨product?_eq_some_iff.mp hproduct, (hrange product).mp hin⟩
    next => cases hseconds
  · rintro ⟨hproduct, hin⟩
    exact ⟨seconds, product?_eq_some_iff.mpr hproduct, if_pos ((hrange seconds).mpr hin)⟩

/-- The lengths of the units are words. -/
theorem toInt_ofInt_of_unitSeconds? {name : String} {length : Int}
    (h : unitSeconds? name = some length) : (Int64.ofInt length).toInt = length := by
  have hmem := unitSeconds?_eq_some_iff.mp h
  simp only [unitLengths, List.mem_cons, Prod.mk.injEq, List.not_mem_nil, or_false] at hmem
  rcases hmem with ⟨-, rfl⟩ | ⟨-, rfl⟩ | ⟨-, rfl⟩ | ⟨-, rfl⟩ <;> decide

theorem toInt_wordOfWords (whole number unit : List Char) :
    (wordOfWords whole number unit).map Int64.toInt = ofWords whole number unit := by
  unfold wordOfWords ofWords
  cases Text.readInt64? number with
  | none => rfl
  | some count =>
    dsimp only
    cases hunit : unitSeconds? (String.ofList (singular unit)) with
    | none => rfl
    | some length =>
      have hlength := toInt_ofInt_of_unitSeconds? hunit
      dsimp only
      cases hseconds : wordSeconds? count (Int64.ofInt length) with
      | some seconds =>
        obtain ⟨hproduct, hrange⟩ := wordSeconds?_eq_some_iff.mp hseconds
        rw [hlength] at hproduct
        rw [← hproduct, if_pos (inRange_iff.mpr hrange)]
        rfl
      | none =>
        have hout : ¬ (count.toInt * length).natAbs ≤ 9223372036854775 := by
          intro hrange
          -- A product in the range of durations is a word.
          have hword : (Int64.ofInt (count.toInt * length)).toInt = count.toInt * length :=
            Int64.toInt_ofInt_of_le (by omega) (by omega)
          have hsome : wordSeconds? count (Int64.ofInt length) =
              some (Int64.ofInt (count.toInt * length)) := by
            rw [wordSeconds?_eq_some_iff, hword, hlength]
            exact ⟨rfl, hrange⟩
          rw [hseconds] at hsome
          cases hsome
        rw [if_neg (mt inRange_iff.mp hout)]
        rfl

/-- In words the same is read. -/
theorem toInt_wordRead (text : String) : (wordRead text).map Int64.toInt = read text := by
  unfold wordRead read
  dsimp only
  cases dropEnd? [' ', 'a', 'g', 'o'] (Unicode.lowerText (Text.trim text.toList)) with
  | none => rfl
  | some rest =>
    dsimp only
    rcases Text.words rest with _ | ⟨number, _ | ⟨unit, _ | _⟩⟩
    · rfl
    · rfl
    · exact toInt_wordOfWords _ number unit
    · rfl

/-! ### Reading -/

/-- The two words before the last one decide. -/
theorem read_of_parts {text : String} {number unit : List Char} (h : HasParts text number unit) :
    read text = ofWords (Text.trim text.toList) number unit := by
  obtain ⟨rest, hend, hwords⟩ := h
  have hdrop := dropEnd?_eq_some_iff.mpr hend
  unfold small at hdrop
  unfold read
  simp only [hdrop, hwords.words_eq]

/-- What the two words give. -/
theorem means_ofWords {text : String} {number unit : List Char} (h : HasParts text number unit) :
    Means text (ofWords (Text.trim text.toList) number unit) := by
  unfold ofWords
  cases hcount : Text.readInt64? number with
  | none => exact .invalidNumber h (Text.readInt64?_eq_none_iff.mp hcount)
  | some count =>
    have hnumber := Text.readInt64?_eq_some_iff.mp hcount
    have hsingular : IsSingular unit (singular unit) := singular_eq_iff.mp rfl
    dsimp only
    cases hunit : unitSeconds? (String.ofList (singular unit)) with
    | none => exact .unknownUnit h hnumber hsingular (unitSeconds?_eq_none_iff.mp hunit)
    | some length =>
      have hlength := unitSeconds?_eq_some_iff.mp hunit
      dsimp only
      by_cases hrange : (count.toInt * length).natAbs ≤ 9223372036854775
      · rw [if_pos (inRange_iff.mpr hrange)]
        exact .seconds h hnumber hsingular hlength hrange
      · rw [if_neg (mt inRange_iff.mp hrange)]
        exact .outOfRange h hnumber hsingular hlength (Nat.lt_of_not_le hrange)

theorem read_of_end {text : String} {rest : List Char}
    (h : small text = rest ++ [' ', 'a', 'g', 'o']) (hwords : (Text.words rest).length ≠ 2) :
    read text = .error .invalidFormat := by
  have hdrop := dropEnd?_eq_some_iff.mpr h
  unfold small at hdrop
  unfold read
  simp only [hdrop]
  split
  next number unit hpair =>
    rw [hpair] at hwords
    exact absurd rfl hwords
  next => rfl

theorem read_of_no_end {text : String} (h : ∀ rest, small text ≠ rest ++ [' ', 'a', 'g', 'o']) :
    read text = .error .missingAgo := by
  have hdrop := dropEnd?_eq_none_iff.mpr h
  unfold small at hdrop
  unfold read
  simp only [hdrop]

/-- What is read is what the text means. -/
theorem means_read (text : String) : Means text (read text) := by
  by_cases hend : ∃ rest, small text = rest ++ [' ', 'a', 'g', 'o']
  · obtain ⟨rest, hrest⟩ := hend
    have hwords : Text.HasWords rest (Text.words rest) := Text.words_eq_iff.mp rfl
    by_cases hlength : (Text.words rest).length = 2
    · obtain ⟨number, unit, hpair⟩ := List.length_eq_two.mp hlength
      have hparts : HasParts text number unit := ⟨rest, hrest, hpair ▸ hwords⟩
      rw [read_of_parts hparts]
      exact means_ofWords hparts
    · rw [read_of_end hrest hlength]
      exact .invalidFormat hrest hwords hlength
  · have hnone : ∀ rest, small text ≠ rest ++ [' ', 'a', 'g', 'o'] := not_exists.mp hend
    rw [read_of_no_end hnone]
    exact .missingAgo hnone

/-- A text means what is read. -/
theorem Means.read_eq {text : String} {outcome : Except DurationError Int}
    (h : Means text outcome) : read text = outcome := by
  cases h with
  | missingAgo hend => exact read_of_no_end hend
  | invalidFormat hend hwords hlength => exact read_of_end hend (hwords.words_eq.symm ▸ hlength)
  | invalidNumber hparts hnumber =>
    rw [read_of_parts hparts, ofWords, Text.readInt64?_eq_none_iff.mpr hnumber]
  | unknownUnit hparts hnumber hunit hname =>
    rw [read_of_parts hparts, ofWords, Text.readInt64?_eq_some_iff.mpr hnumber]
    dsimp only
    rw [singular_eq_iff.mpr hunit, unitSeconds?_eq_none_iff.mpr hname]
  | outOfRange hparts hnumber hunit hlength hrange =>
    rw [read_of_parts hparts, ofWords_of_length hnumber hunit hlength,
      if_neg (Nat.not_le_of_lt hrange)]
  | seconds hparts hnumber hunit hlength hrange =>
    rw [read_of_parts hparts, ofWords_of_length hnumber hunit hlength, if_pos hrange]

/-- **What durations are read.** Reading a text gives the seconds that it means, or the error for the
first of its parts that is not as it should be, and nothing else. Reading it in words of 64 bits gives
the same: the product of the number and the length of the unit is that of the integers, or it is no
word and out of range of the durations. -/
theorem read_eq_iff_means (text : String) :
    (∀ outcome, read text = outcome ↔ Means text outcome) ∧
      (wordRead text).map Int64.toInt = read text := by
  refine ⟨fun outcome => ⟨?_, Means.read_eq⟩, toInt_wordRead text⟩
  rintro rfl
  exact means_read text

end Sift.Duration
