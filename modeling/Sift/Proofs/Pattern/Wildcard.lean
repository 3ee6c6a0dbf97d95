/-
# Wildcard patterns

A wildcard pattern covers a text that can be divided along its characters: a percent sign covers any
characters, line ends among them, an underscore covers one character, and any other character covers
itself, whatever it means in expressions. Matching a wildcard pattern finds out just that. It goes
through the regular expression that the pattern stands for, whose anchors leave nothing over at the two
ends of the text.

Key definition: `Pattern.Covers`.
Key theorems: `Pattern.occursIn_likeExpression_iff`, `Pattern.isMatch_like_iff_covers`.
-/
import Sift.Proofs.Pattern.Matching
import Sift.Proofs.Pattern.WildcardSize

namespace Sift

namespace Pattern

/-- Whether a wildcard pattern covers a text. -/
inductive Covers : List Char → List Char → Prop
  | nil : Covers [] []
  | percent {pattern rest : List Char} (part : List Char) (h : Covers pattern rest) :
      Covers ('%' :: pattern) (part ++ rest)
  | underscore {pattern rest : List Char} (c : Char) (h : Covers pattern rest) :
      Covers ('_' :: pattern) (c :: rest)
  | literal {pattern rest : List Char} {c : Char} (hpercent : c ≠ '%') (hunderscore : c ≠ '_')
      (h : Covers pattern rest) : Covers (c :: pattern) (c :: rest)

/-- A text that is covered has every character of the pattern that is no wildcard. -/
theorem mem_of_covers {pattern text : List Char} (h : Covers pattern text) {c : Char}
    (hc : c ∈ pattern) (hpercent : c ≠ '%') (hunderscore : c ≠ '_') : c ∈ text := by
  induction h with
  | nil => exact hc
  | percent part _ ih =>
    rcases List.mem_cons.mp hc with rfl | hc
    · exact absurd rfl hpercent
    · exact List.mem_append_right part (ih hc)
  | underscore d _ ih =>
    rcases List.mem_cons.mp hc with rfl | hc
    · exact absurd rfl hunderscore
    · exact List.mem_cons_of_mem d (ih hc)
  | literal _ _ _ ih =>
    rcases List.mem_cons.mp hc with rfl | hc
    · exact List.mem_cons_self
    · exact List.mem_cons_of_mem _ (ih hc)

open Regex
open Text (charBefore charAfter)

variable {before after : Option Char} {c : Char} {w : List Char}

/-! ### What the parts of the expression match -/

theorem contains_any (c : Char) : CharSet.any.contains c = true := by
  have hlow : Char.ofNat 0 ≤ c := by
    rw [Char.le_def, UInt32.le_iff_toNat_le]
    exact Nat.zero_le _
  have hhigh : c ≤ Char.ofNat 0x10FFFF := by
    have hvalid : c.val.toNat.isValidChar := c.valid
    unfold Nat.isValidChar at hvalid
    rw [Char.le_def, UInt32.le_iff_toNat_le]
    show c.val.toNat ≤ 0x10FFFF
    omega
  unfold CharSet.any CharSet.contains
  rw [decide_eq_true hlow, decide_eq_true hhigh]
  rfl

theorem contains_single_iff {d : Char} : (CharSet.single c).contains d = true ↔ d = c := by
  unfold CharSet.single CharSet.contains
  rw [Bool.and_eq_true, decide_eq_true_eq, decide_eq_true_eq]
  exact ⟨fun h => Char.le_antisymm h.2 h.1, fun h => h ▸ ⟨Char.le_refl _, Char.le_refl _⟩⟩

theorem matches_any_iff : Matches (.set .any) before w after ↔ ∃ c, w = [c] := by
  simp only [matches_set_iff, contains_any, and_true]

theorem matches_single_iff : Matches (.set (.single c)) before w after ↔ w = [c] := by
  rw [matches_set_iff]
  constructor
  · rintro ⟨d, rfl, hd⟩
    rw [contains_single_iff.mp hd]
  · exact fun h => ⟨c, h, contains_single_iff.mpr rfl⟩

/-- Any number of any characters are any characters. -/
theorem matches_any_times (w : List Char) (before after : Option Char) :
    Matches (.times 0 none (.set .any)) before w after := by
  induction w generalizing before with
  | nil => exact .stop
  | cons c w ih =>
    have hround : Matches (.set .any) before [c] (charAfter after w) := .set (contains_any c)
    exact Matches.round (u := [c]) (.inr nofun) hround (ih (some c))

/-- What a character matches in front of what the rest of a pattern covers. -/
theorem covers_cons_of_matches {pattern u v : List Char}
    (hu : Matches (wildcardRegex c) before u after) (hv : Covers pattern v) :
    Covers (c :: pattern) (u ++ v) := by
  unfold wildcardRegex at hu
  by_cases hpercent : c = '%'
  · subst hpercent
    exact .percent u hv
  rw [if_neg hpercent] at hu
  by_cases hunderscore : c = '_'
  · subst hunderscore
    obtain ⟨d, rfl⟩ := matches_any_iff.mp hu
    exact .underscore d hv
  · rw [if_neg hunderscore] at hu
    obtain rfl := matches_single_iff.mp hu
    exact .literal hpercent hunderscore hv

/-- What a pattern covers begins with what its first character matches, wherever that is. -/
theorem exists_matches_of_covers_cons {pattern : List Char} (h : Covers (c :: pattern) w) :
    ∃ u v, w = u ++ v ∧ (∀ before after, Matches (wildcardRegex c) before u after) ∧
      Covers pattern v := by
  cases h with
  | percent part h => exact ⟨part, _, rfl, matches_any_times part, h⟩
  | underscore d h => exact ⟨[d], _, rfl, fun _ _ => matches_any_iff.mpr ⟨d, rfl⟩, h⟩
  | literal hpercent hunderscore h =>
    refine ⟨[c], _, rfl, fun _ _ => ?_, h⟩
    unfold wildcardRegex
    rw [if_neg hpercent, if_neg hunderscore]
    exact matches_single_iff.mpr rfl

theorem catAll_cons {r : Regex} {rs : List Regex} (h : rs ≠ []) :
    RegexPart.catAll (r :: rs) = .cat r (RegexPart.catAll rs) := by
  cases rs with
  | nil => exact absurd rfl h
  | cons s rs => rfl

/-- The parts of a pattern, before the anchor at the end, match what the pattern covers. -/
theorem matches_parts_iff (pattern : List Char) (before : Option Char) (w : List Char)
    (after : Option Char) :
    Matches (RegexPart.catAll (pattern.map wildcardRegex ++ [.look .textEnd])) before w after ↔
      after = none ∧ Covers pattern w := by
  induction pattern generalizing before w with
  | nil =>
    show Matches (.look .textEnd) before w after ↔ _
    rw [matches_look_iff]
    constructor
    · rintro ⟨rfl, hend⟩
      exact ⟨Option.isNone_iff_eq_none.mp hend, .nil⟩
    · rintro ⟨rfl, hcovers⟩
      cases hcovers
      exact ⟨rfl, rfl⟩
  | cons c pattern ih =>
    rw [List.map_cons, List.cons_append, catAll_cons (by simp), matches_cat_iff]
    constructor
    · rintro ⟨u, v, rfl, hu, hv⟩
      obtain ⟨hafter, hcovers⟩ := (ih _ _).mp hv
      exact ⟨hafter, covers_cons_of_matches hu hcovers⟩
    · rintro ⟨hafter, hcovers⟩
      obtain ⟨u, v, rfl, hu, hv⟩ := exists_matches_of_covers_cons hcovers
      exact ⟨u, v, rfl, hu _ _, (ih _ _).mpr ⟨hafter, hv⟩⟩

/-! ### The whole expression -/

/-- The expression of a pattern matches what the pattern covers, at both ends of the text. -/
theorem matches_likeExpression_iff (pattern : List Char) :
    Matches (likeExpression pattern) before w after ↔
      before = none ∧ after = none ∧ Covers pattern w := by
  unfold likeExpression
  rw [catAll_cons (by simp), catAll_cons (by simp), matches_cat_iff]
  constructor
  · rintro ⟨u, v, rfl, hu, hv⟩
    obtain rfl := matches_empty_iff.mp hu
    obtain ⟨u, v, rfl, hu, hv⟩ := matches_cat_iff.mp hv
    obtain ⟨rfl, hstart⟩ := matches_look_iff.mp hu
    exact ⟨Option.isNone_iff_eq_none.mp hstart, (matches_parts_iff pattern _ _ _).mp hv⟩
  · rintro ⟨rfl, hcovers⟩
    have hstart : Matches (.look .textStart) none [] (charAfter after w) := .look rfl
    have hparts := (matches_parts_iff pattern none w after).mpr hcovers
    exact ⟨[], w, rfl, .empty, Matches.cat (u := []) hstart hparts⟩

theorem charBefore_eq_none_iff {front : List Char} : charBefore none front = none ↔ front = [] := by
  have hsome : ∀ (cs : List Char) (c : Char), charBefore (some c) cs ≠ none := by
    intro cs
    induction cs with
    | nil => exact fun c => nofun
    | cons d cs ih => exact fun c => ih d
  cases front with
  | nil => exact ⟨fun _ => rfl, fun _ => rfl⟩
  | cons c front => exact ⟨fun h => absurd h (hsome front c), nofun⟩

theorem charAfter_eq_none_iff {rest : List Char} : charAfter none rest = none ↔ rest = [] := by
  cases rest with
  | nil => exact ⟨fun _ => rfl, fun _ => rfl⟩
  | cons c rest => exact ⟨nofun, nofun⟩

/-- The expression of a pattern occurs in the texts that the pattern covers. -/
theorem occursIn_likeExpression_iff (pattern text : List Char) :
    (likeExpression pattern).occursIn text = true ↔ Covers pattern text := by
  rw [occursIn_iff]
  simp only [matches_likeExpression_iff, charBefore_eq_none_iff, charAfter_eq_none_iff]
  constructor
  · rintro ⟨front, part, rest, rfl, rfl, rfl, hcovers⟩
    rw [List.nil_append, List.append_nil]
    exact hcovers
  · intro hcovers
    exact ⟨[], text, [], by simp, rfl, rfl, hcovers⟩

theorem isMatch_like_eq (pattern text : String) : (like pattern).isMatch text =
    if (likePart pattern.toList).shape.isTooLarge then .error .tooLarge
    else .ok ((likeExpression pattern.toList).occursIn text.toList) := by
  unfold isMatch regexText
  dsimp only
  rw [ofText_likeRegex]
  split <;> rfl

/-- A wildcard pattern of up to 5000 characters is never refused. -/
theorem isMatch_like_ne_tooLarge {pattern : String} (h : pattern.toList.length ≤ 5000)
    (text : String) : (like pattern).isMatch text ≠ .error .tooLarge := by
  rw [isMatch_like_eq, isTooLarge_likePart h]
  exact nofun

/-- **Matching a wildcard pattern tells whether it covers the text.** Unless the automaton for it would
be too large, there is no error, and the text matches if and only if the pattern covers all of it. -/
theorem isMatch_like_iff_covers (pattern text : String)
    (h : (like pattern).isMatch text ≠ .error .tooLarge) :
    ∃ matched, (like pattern).isMatch text = .ok matched ∧
      (matched = true ↔ Covers pattern.toList text.toList) := by
  rw [isMatch_like_eq] at h ⊢
  by_cases hlarge : (likePart pattern.toList).shape.isTooLarge = true
  · rw [if_pos hlarge] at h
    exact absurd rfl h
  · rw [if_neg hlarge]
    exact ⟨_, rfl, occursIn_likeExpression_iff _ _⟩

/-- The wildcards cover a character of several bytes and line ends, the full stop only itself. -/
theorem isMatch_like_with_wildcards :
    let pattern := like "_%.c"
    pattern.isMatch "é\n\n.c" ≠ .error .tooLarge ∧ pattern.isMatch "é\n\n.c" = .ok true ∧
      pattern.isMatch "abc" ≠ .error .tooLarge ∧ pattern.isMatch "abc" = .ok false := by
  intro pattern
  have hsize : "_%.c".toList.length ≤ 5000 := by decide
  have hmatch := isMatch_like_ne_tooLarge hsize "é\n\n.c"
  have hother := isMatch_like_ne_tooLarge hsize "abc"
  obtain ⟨matched, hmatched, hiff⟩ := isMatch_like_iff_covers "_%.c" "é\n\n.c" hmatch
  obtain ⟨matched', hmatched', hiff'⟩ := isMatch_like_iff_covers "_%.c" "abc" hother
  have hcovers : Covers "_%.c".toList "é\n\n.c".toList := by
    have htail : Covers ['.', 'c'] ['.', 'c'] :=
      .literal (by decide) (by decide) (.literal (by decide) (by decide) .nil)
    exact .underscore 'é' (.percent ['\n', '\n'] htail)
  have hnot : ¬ Covers "_%.c".toList "abc".toList := by
    intro hcovers
    have hstop : '.' ∈ "abc".toList :=
      mem_of_covers hcovers (by decide) (by decide) (by decide)
    exact absurd hstop (by decide)
  rw [hiff.mpr hcovers] at hmatched
  rw [Bool.eq_false_iff.mpr (mt hiff'.mp hnot)] at hmatched'
  exact ⟨hmatch, hmatched, hother, hmatched'⟩

end Pattern

end Sift
