/-
# What regular expressions match

An expression matches a part of a text between the characters on both sides of it. A sequence matches
a part that can be divided, a repetition one that can be divided into rounds. The step of an expression
over a character is right: what it leaves matches the rest of a part exactly where the expression
matches the whole of it. So a search finds an expression exactly in the texts that have a part that it
matches.

Key definitions: `Regex.Matches`, `Regex.MatchesFront`.
Key theorems: `Regex.acceptsEmpty_iff`, `Regex.matches_cons_iff`, `Regex.search_iff`,
`Regex.occursIn_iff`.
-/
import Sift.Pattern.Regex

namespace Sift

namespace Text

/-- The character before the place behind some characters, `front` being the one before them. -/
def charBefore (front : Option Char) : List Char → Option Char
  | [] => front
  | c :: cs => charBefore (some c) cs

/-- The character after the place before some characters, `rest` being the one behind them. -/
def charAfter (rest : Option Char) : List Char → Option Char
  | [] => rest
  | c :: _ => some c

end Text

namespace Regex

open Text (charBefore charAfter)

/-- Whether an expression matches some characters between two others; `none` stands for an end of the
text. -/
inductive Matches : Regex → Option Char → List Char → Option Char → Prop
  | empty {before after : Option Char} : Matches .empty before [] after
  | set {s : CharSet} {before after : Option Char} {c : Char} (h : s.contains c = true) :
      Matches (.set s) before [c] after
  | look {a : Assertion} {before after : Option Char} (h : a.holds before after = true) :
      Matches (.look a) before [] after
  | cat {r s : Regex} {before after : Option Char} {u v : List Char}
      (hr : Matches r before u (charAfter after v))
      (hs : Matches s (charBefore before u) v after) : Matches (.cat r s) before (u ++ v) after
  | left {r s : Regex} {before after : Option Char} {u : List Char} (h : Matches r before u after) :
      Matches (.alt r s) before u after
  | right {r s : Regex} {before after : Option Char} {u : List Char} (h : Matches s before u after) :
      Matches (.alt r s) before u after
  /-- A repetition may stop when no round is left that must come. -/
  | stop {most : Option Nat} {r : Regex} {before after : Option Char} :
      Matches (.times 0 most r) before [] after
  /-- A round may come when one must or one more is allowed. -/
  | round {least : Nat} {most : Option Nat} {r : Regex} {before after : Option Char}
      {u v : List Char} (hround : 0 < least ∨ most ≠ some 0)
      (hr : Matches r before u (charAfter after v))
      (hs : Matches (.times (least - 1) (most.map (· - 1)) r) (charBefore before u) v after) :
      Matches (.times least most r) before (u ++ v) after

variable {r s : Regex} {before after : Option Char} {c : Char} {w : List Char}

/-! ### Each kind of expression -/

theorem matches_empty_iff : Matches .empty before w after ↔ w = [] := by
  refine ⟨fun h => ?_, fun h => h ▸ .empty⟩
  cases h
  rfl

theorem matches_set_iff {s : CharSet} :
    Matches (.set s) before w after ↔ ∃ c, w = [c] ∧ s.contains c = true := by
  constructor
  · intro h
    cases h with
    | set h => exact ⟨_, rfl, h⟩
  · rintro ⟨c, rfl, h⟩
    exact .set h

theorem matches_look_iff {a : Assertion} :
    Matches (.look a) before w after ↔ w = [] ∧ a.holds before after = true := by
  constructor
  · intro h
    cases h with
    | look h => exact ⟨rfl, h⟩
  · rintro ⟨rfl, h⟩
    exact .look h

theorem matches_cat_iff : Matches (.cat r s) before w after ↔
    ∃ u v, w = u ++ v ∧ Matches r before u (charAfter after v) ∧
      Matches s (charBefore before u) v after := by
  constructor
  · intro h
    cases h with
    | cat hr hs => exact ⟨_, _, rfl, hr, hs⟩
  · rintro ⟨u, v, rfl, hr, hs⟩
    exact .cat hr hs

theorem matches_alt_iff : Matches (.alt r s) before w after ↔
    Matches r before w after ∨ Matches s before w after := by
  constructor
  · intro h
    cases h with
    | left h => exact .inl h
    | right h => exact .inr h
  · rintro (h | h)
    · exact .left h
    · exact .right h

theorem matches_times_iff {least : Nat} {most : Option Nat} :
    Matches (.times least most r) before w after ↔
      (least = 0 ∧ w = []) ∨ (0 < least ∨ most ≠ some 0) ∧
        ∃ u v, w = u ++ v ∧ Matches r before u (charAfter after v) ∧
          Matches (.times (least - 1) (most.map (· - 1)) r) (charBefore before u) v after := by
  constructor
  · intro h
    cases h with
    | stop => exact .inl ⟨rfl, rfl⟩
    | round hround hr hs => exact .inr ⟨hround, _, _, rfl, hr, hs⟩
  · rintro (⟨rfl, rfl⟩ | ⟨hround, u, v, rfl, hr, hs⟩)
    · exact .stop
    · exact .round hround hr hs

theorem matches_andThen_iff :
    Matches (r.andThen s) before w after ↔ Matches (.cat r s) before w after := by
  unfold andThen
  by_cases hr : r = .empty
  · rw [if_pos hr, hr, matches_cat_iff]
    constructor
    · exact fun h => ⟨[], w, rfl, .empty, h⟩
    · rintro ⟨u, v, rfl, hu, h⟩
      obtain rfl := matches_empty_iff.mp hu
      exact h
  · rw [if_neg hr]

/-! ### Matches without characters -/

theorem matches_times_nil_iff (least : Nat) (most : Option Nat) :
    Matches (.times least most r) before [] after ↔ least = 0 ∨ Matches r before [] after := by
  constructor
  · rw [matches_times_iff]
    rintro (⟨h, -⟩ | ⟨-, u, v, huv, hr, -⟩)
    · exact .inl h
    · obtain ⟨rfl, rfl⟩ := List.nil_eq_append_iff.mp huv
      exact .inr hr
  · rintro (rfl | h)
    · exact .stop
    · induction least generalizing most with
      | zero => exact .stop
      | succ least ih => exact Matches.round (u := []) (.inl (Nat.succ_pos _)) h (ih _)

/-- The test for an empty match is right. -/
theorem acceptsEmpty_iff (r : Regex) (before after : Option Char) :
    r.acceptsEmpty before after = true ↔ Matches r before [] after := by
  induction r with
  | empty => exact ⟨fun _ => .empty, fun _ => rfl⟩
  | set s => exact ⟨nofun, fun h => nomatch h⟩
  | look a => rw [matches_look_iff, acceptsEmpty, and_iff_right rfl]
  | cat r s ihr ihs =>
    rw [acceptsEmpty, Bool.and_eq_true, ihr, ihs, matches_cat_iff]
    constructor
    · exact fun ⟨hr, hs⟩ => ⟨[], [], rfl, hr, hs⟩
    · rintro ⟨u, v, huv, hr, hs⟩
      obtain ⟨rfl, rfl⟩ := List.nil_eq_append_iff.mp huv
      exact ⟨hr, hs⟩
  | alt r s ihr ihs => rw [acceptsEmpty, Bool.or_eq_true, ihr, ihs, matches_alt_iff]
  | times least most r ih =>
    rw [acceptsEmpty, Bool.or_eq_true, beq_iff_eq, ih, matches_times_nil_iff]

/-- A match has as many characters as an expression needs. -/
theorem leastLength_le (h : Matches r before w after) : r.leastLength ≤ w.length := by
  induction h with
  | empty => exact Nat.le_refl _
  | set => exact Nat.le_refl _
  | look => exact Nat.le_refl _
  | cat _ _ ihr ihs =>
    rw [leastLength, List.length_append]
    exact Nat.add_le_add ihr ihs
  | left _ ih => exact Nat.le_trans (Nat.min_le_left _ _) ih
  | right _ ih => exact Nat.le_trans (Nat.min_le_right _ _) ih
  | @stop most r => exact Nat.le_of_eq (Nat.zero_mul r.leastLength)
  | @round least most r _ _ u v _ _ _ ihr ihs =>
    rw [leastLength] at ihs ⊢
    rw [List.length_append]
    calc
      least * r.leastLength ≤ (least - 1 + 1) * r.leastLength :=
        Nat.mul_le_mul_right _ (by omega)
      _ = r.leastLength + (least - 1) * r.leastLength := by rw [Nat.succ_mul, Nat.add_comm]
      _ ≤ u.length + v.length := Nat.add_le_add ihr ihs

/-! ### Steps over a character -/

/-- What a step leaves, followed by another expression, matches the rest of a sequence whose first
part takes the character. -/
theorem matches_map_andThen_iff
    (h : ∀ w after, Matches r before (c :: w) after ↔
      ∃ r' ∈ step before c r, Matches r' (some c) w after) (s : Regex) (w : List Char)
    (after : Option Char) :
    (∃ u v, w = u ++ v ∧ Matches r before (c :: u) (charAfter after v) ∧
        Matches s (charBefore (some c) u) v after) ↔
      ∃ r' ∈ (step before c r).map (·.andThen s), Matches r' (some c) w after := by
  constructor
  · rintro ⟨u, v, rfl, hu, hv⟩
    obtain ⟨r', hr', hu⟩ := (h u _).mp hu
    refine ⟨r'.andThen s, List.mem_map_of_mem hr', ?_⟩
    rw [matches_andThen_iff, matches_cat_iff]
    exact ⟨u, v, rfl, hu, hv⟩
  · rintro ⟨next, hnext, hw⟩
    obtain ⟨r', hr', rfl⟩ := List.mem_map.mp hnext
    rw [matches_andThen_iff, matches_cat_iff] at hw
    obtain ⟨u, v, rfl, hu, hv⟩ := hw
    exact ⟨u, v, rfl, (h u _).mpr ⟨r', hr', hu⟩, hv⟩

/-- The ways on in a sequence: the first part takes the character, or it matches nothing and the
second part takes it. -/
theorem matches_sequence_cons_iff {ways : List Regex}
    (hr : ∀ w after, Matches r before (c :: w) after ↔
      ∃ r' ∈ step before c r, Matches r' (some c) w after)
    (hs : Matches s before (c :: w) after ↔ ∃ r' ∈ ways, Matches r' (some c) w after) :
    (∃ u v, c :: w = u ++ v ∧ Matches r before u (charAfter after v) ∧
        Matches s (charBefore before u) v after) ↔
      ∃ r' ∈ (step before c r).map (·.andThen s) ++
        if r.acceptsEmpty before (some c) then ways else [], Matches r' (some c) w after := by
  have hskip : r.acceptsEmpty before (some c) = true ↔ Matches r before [] (some c) :=
    acceptsEmpty_iff r before (some c)
  constructor
  · rintro ⟨u, v, huv, hu, hv⟩
    rcases List.cons_eq_append_iff.mp huv with ⟨rfl, rfl⟩ | ⟨u, rfl, rfl⟩
    · obtain ⟨r', hr', hw⟩ := hs.mp hv
      refine ⟨r', List.mem_append_right _ ?_, hw⟩
      rw [if_pos (hskip.mpr hu)]
      exact hr'
    · obtain ⟨r', hr', hw⟩ := (matches_map_andThen_iff hr s _ _).mp ⟨u, v, rfl, hu, hv⟩
      exact ⟨r', List.mem_append_left _ hr', hw⟩
  · rintro ⟨r', hr', hw⟩
    rcases List.mem_append.mp hr' with hr' | hr'
    · obtain ⟨u, v, rfl, hu, hv⟩ := (matches_map_andThen_iff hr s w after).mpr ⟨r', hr', hw⟩
      exact ⟨c :: u, v, rfl, hu, hv⟩
    · by_cases hempty : r.acceptsEmpty before (some c) = true
      · rw [if_pos hempty] at hr'
        exact ⟨[], c :: w, rfl, hskip.mp hempty, hs.mpr ⟨r', hr', hw⟩⟩
      · rw [if_neg hempty] at hr'
        cases hr'

/-- One more round may be allowed. -/
theorem matches_times_of_pred {most : Option Nat}
    (h : Matches (.times 0 (most.map (· - 1)) r) before w after) :
    Matches (.times 0 most r) before w after := by
  generalize hx : Regex.times 0 (most.map (· - 1)) r = x at h
  induction h generalizing most with
  | stop =>
    cases hx
    exact .stop
  | round hround hr hs ihr ihs =>
    cases hx
    have hmost : most ≠ some 0 := by
      rintro rfl
      simp at hround
    exact .round (.inr hmost) hr (ihs rfl)
  | _ => cases hx

/-- A repetition that has no rounds which must come takes a character in a round that is not empty, as
empty rounds before it may be left out. -/
theorem matches_times_zero_cons_iff {most : Option Nat} :
    Matches (.times 0 most r) before (c :: w) after ↔
      most ≠ some 0 ∧ ∃ u v, w = u ++ v ∧ Matches r before (c :: u) (charAfter after v) ∧
        Matches (.times 0 (most.map (· - 1)) r) (charBefore (some c) u) v after := by
  constructor
  · intro h
    generalize hx : Regex.times 0 most r = x at h
    generalize hcs : c :: w = cs at h
    induction h generalizing most with
    | stop => cases hcs
    | @round least most' r' before after u v hround hr hs ihr ihs =>
      cases hx
      have hmost : most' ≠ some 0 := by simpa using hround
      refine ⟨hmost, ?_⟩
      rcases List.cons_eq_append_iff.mp hcs with ⟨rfl, rfl⟩ | ⟨u', rfl, rfl⟩
      · obtain ⟨-, u, v, huv, hu, hv⟩ := ihs rfl rfl
        exact ⟨u, v, huv, hu, matches_times_of_pred hv⟩
      · exact ⟨u', v, rfl, hr, hs⟩
    | _ => cases hx
  · rintro ⟨hmost, u, v, rfl, hu, hv⟩
    exact Matches.round (u := c :: u) (.inr hmost) hu hv

/-- The ways on in a repetition are right when those in a round are. -/
theorem matches_times_cons_iff
    (h : ∀ w after, Matches r before (c :: w) after ↔
      ∃ r' ∈ step before c r, Matches r' (some c) w after)
    (least : Nat) (most : Option Nat) (w : List Char) (after : Option Char) :
    Matches (.times least most r) before (c :: w) after ↔
      ∃ r' ∈ roundsAfter r (step before c r) (r.acceptsEmpty before (some c)) least most,
        Matches r' (some c) w after := by
  induction least generalizing most with
  | zero =>
    rw [matches_times_zero_cons_iff, matches_map_andThen_iff h]
    cases most with
    | none => exact and_iff_right nofun
    | some most =>
      cases most with
      | zero => simp [roundsAfter]
      | succ most => exact and_iff_right (by simp)
  | succ least ih =>
    have hsequence := matches_sequence_cons_iff h (ih (most.map (· - 1)))
    rw [matches_times_iff, roundsAfter, ← hsequence]
    constructor
    · rintro (⟨hzero, -⟩ | ⟨-, hrounds⟩)
      · cases hzero
      · exact hrounds
    · exact fun hrounds => .inr ⟨.inl (Nat.succ_pos least), hrounds⟩

/-- **The step of an expression is right.** -/
theorem matches_cons_iff (r : Regex) (before after : Option Char) (c : Char) (w : List Char) :
    Matches r before (c :: w) after ↔ ∃ r' ∈ step before c r, Matches r' (some c) w after := by
  induction r generalizing w after with
  | empty => exact ⟨nofun, nofun⟩
  | set s =>
    rw [matches_set_iff, step]
    by_cases hc : s.contains c = true
    · rw [if_pos hc]
      constructor
      · rintro ⟨d, hd, -⟩
        obtain ⟨rfl, rfl⟩ := List.cons.inj hd
        exact ⟨.empty, List.mem_singleton_self _, .empty⟩
      · rintro ⟨r', hr', hw⟩
        obtain rfl := List.mem_singleton.mp hr'
        obtain rfl := matches_empty_iff.mp hw
        exact ⟨c, rfl, hc⟩
    · rw [if_neg hc]
      constructor
      · rintro ⟨d, hd, hcontains⟩
        obtain ⟨rfl, -⟩ := List.cons.inj hd
        exact absurd hcontains hc
      · exact nofun
  | look a => exact ⟨nofun, nofun⟩
  | cat r s ihr ihs =>
    rw [matches_cat_iff, step]
    exact matches_sequence_cons_iff (fun w after => ihr after w) (ihs after w)
  | alt r s ihr ihs =>
    rw [matches_alt_iff, ihr, ihs, step]
    simp only [List.mem_append, or_and_right, exists_or]
  | times least most r ih => exact matches_times_cons_iff (fun w after => ih after w) least most w after

/-! ### Searches -/

/-- Whether an expression matches some characters in front of a text, `before` being the one before
the text. -/
def MatchesFront (r : Regex) (before : Option Char) (text : List Char) : Prop :=
  ∃ u v, text = u ++ v ∧ Matches r before u (charAfter none v)

theorem matchesFront_nil_iff : MatchesFront r before [] ↔ r.acceptsEmpty before none = true := by
  rw [acceptsEmpty_iff]
  constructor
  · rintro ⟨u, v, huv, h⟩
    obtain ⟨rfl, rfl⟩ := List.nil_eq_append_iff.mp huv
    exact h
  · exact fun h => ⟨[], [], rfl, h⟩

theorem matchesFront_cons_iff : MatchesFront r before (c :: w) ↔
    r.acceptsEmpty before (some c) = true ∨ ∃ r' ∈ step before c r, MatchesFront r' (some c) w := by
  rw [acceptsEmpty_iff]
  constructor
  · rintro ⟨u, v, huv, h⟩
    rcases List.cons_eq_append_iff.mp huv with ⟨rfl, rfl⟩ | ⟨u, rfl, rfl⟩
    · exact .inl h
    · obtain ⟨r', hr', hu⟩ := (matches_cons_iff r before _ c u).mp h
      exact .inr ⟨r', hr', u, v, rfl, hu⟩
  · rintro (h | ⟨r', hr', u, v, rfl, hu⟩)
    · exact ⟨[], c :: w, rfl, h⟩
    · exact ⟨c :: u, v, rfl, (matches_cons_iff r before _ c u).mpr ⟨r', hr', hu⟩⟩

theorem mem_distinct_iff {rs : List Regex} : r ∈ distinct rs ↔ r ∈ rs := by
  unfold distinct
  simp

/-- The expressions being matched at the beginning of a text with the whole one, if it may begin
there. -/
theorem exists_mem_begin_iff {whole : Regex} {starts : Nat} {current : List Regex}
    {p : Regex → Prop} :
    (∃ r ∈ search.begin whole starts current, p r) ↔
      0 < starts ∧ p whole ∨ ∃ r ∈ current, p r := by
  unfold search.begin
  by_cases hstarts : starts = 0
  · rw [if_pos hstarts, hstarts]
    simp
  · rw [if_neg hstarts]
    simp [Nat.pos_of_ne_zero hstarts]

/-- Whether an expression matches some part of a text that begins at one of the next places. -/
def OccursWithin (r : Regex) (starts : Nat) (before : Option Char) (text : List Char) : Prop :=
  ∃ front rest, text = front ++ rest ∧ front.length < starts ∧
    MatchesFront r (charBefore before front) rest

theorem occursWithin_nil_iff {starts : Nat} :
    OccursWithin r starts before [] ↔ 0 < starts ∧ MatchesFront r before [] := by
  constructor
  · rintro ⟨front, rest, htext, hlt, h⟩
    obtain ⟨rfl, rfl⟩ := List.nil_eq_append_iff.mp htext
    exact ⟨hlt, h⟩
  · exact fun ⟨hlt, h⟩ => ⟨[], [], rfl, hlt, h⟩

theorem occursWithin_cons_iff {starts : Nat} : OccursWithin r starts before (c :: w) ↔
    0 < starts ∧ MatchesFront r before (c :: w) ∨ OccursWithin r (starts - 1) (some c) w := by
  constructor
  · rintro ⟨front, rest, htext, hlt, h⟩
    rcases List.cons_eq_append_iff.mp htext with ⟨rfl, rfl⟩ | ⟨front, rfl, rfl⟩
    · exact .inl ⟨hlt, h⟩
    · rw [List.length_cons] at hlt
      exact .inr ⟨front, rest, rfl, by omega, h⟩
  · rintro (⟨hlt, h⟩ | ⟨front, rest, rfl, hlt, h⟩)
    · exact ⟨[], c :: w, rfl, hlt, h⟩
    · exact ⟨c :: front, rest, rfl, by rw [List.length_cons]; omega, h⟩

/-- The expressions of a list match in front of a text where one of them matches nothing, or one that
their steps leave matches in front of the rest. -/
theorem exists_matchesFront_cons_iff {rs : List Regex} :
    (∃ r ∈ rs, MatchesFront r before (c :: w)) ↔
      rs.any (·.acceptsEmpty before (some c)) = true ∨
        ∃ r ∈ distinct (rs.flatMap (step before c)), MatchesFront r (some c) w := by
  simp only [matchesFront_cons_iff, List.any_eq_true, mem_distinct_iff, List.mem_flatMap]
  constructor
  · rintro ⟨r, hr, h | ⟨r', hr', h⟩⟩
    · exact .inl ⟨r, hr, h⟩
    · exact .inr ⟨r', ⟨r, hr, hr'⟩, h⟩
  · rintro (⟨r, hr, h⟩ | ⟨r', ⟨r, hr, hr'⟩, h⟩)
    · exact ⟨r, hr, .inl h⟩
    · exact ⟨r, hr, .inr ⟨r', hr', h⟩⟩

/-- A search finds an expression that is being matched where the text begins, or the whole expression
at one of the next places at which it may begin. -/
theorem search_iff (whole : Regex) (starts : Nat) (current : List Regex) (before : Option Char)
    (text : List Char) :
    search whole starts current before text = true ↔
      (∃ r ∈ current, MatchesFront r before text) ∨ OccursWithin whole starts before text := by
  induction text generalizing starts current before with
  | nil =>
    have hnow : (∃ r ∈ search.begin whole starts current, MatchesFront r before []) ↔ _ :=
      exists_mem_begin_iff
    rw [search, List.any_eq_true, occursWithin_nil_iff, Or.comm, ← hnow]
    simp only [matchesFront_nil_iff]
  | cons c text ih =>
    have hnow : (∃ r ∈ search.begin whole starts current, MatchesFront r before (c :: text)) ↔ _ :=
      exists_mem_begin_iff
    rw [search, Bool.or_eq_true, ih, ← or_assoc, ← exists_matchesFront_cons_iff, hnow,
      occursWithin_cons_iff, ← or_assoc, Or.comm (a := ∃ r ∈ current, _)]

/-- **A search finds an expression exactly in the texts that have a part that it matches.** -/
theorem occursIn_iff (r : Regex) (text : List Char) :
    r.occursIn text = true ↔
      ∃ front part rest, text = front ++ (part ++ rest) ∧
        Matches r (charBefore none front) part (charAfter none rest) := by
  rw [occursIn, search_iff]
  constructor
  · rintro (⟨r, hr, -⟩ | ⟨front, rest, rfl, -, part, rest, rfl, h⟩)
    · cases hr
    · exact ⟨front, part, rest, rfl, h⟩
  · rintro ⟨front, part, rest, rfl, h⟩
    have hleast := leastLength_le h
    refine .inr ⟨front, part ++ rest, rfl, ?_, part, rest, rfl, h⟩
    rw [List.length_append, List.length_append]
    omega

end Regex

end Sift
