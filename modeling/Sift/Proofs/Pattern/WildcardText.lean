/-
# Reading the expression of a wildcard pattern

The regular expression that a wildcard pattern stands for can always be read. Every character of the
pattern gives one part: a percent sign any number of any characters, an underscore one character, and
any other one itself, for a backslash stands before those that have a meaning in expressions. What
follows never begins with a question mark, so no repetition takes one. The parts stand between the two
anchors, one level deep, and therefore only the size of the automaton can keep the expression from
being used.

Key definitions: `Pattern.wildcardRegex`, `Pattern.wildcardPart`, `Pattern.likePart`,
`Pattern.likeExpression`.
Key theorems: `Pattern.takes_likeRegex`, `Pattern.ofText_likeRegex`.
-/
import Sift.Pattern
import Sift.Proofs.Text.Taking

namespace Sift

namespace CharSet

theorem codeRanges_any : any.codeRanges = [(0, 0xD7FF), (0xE000, 0x10FFFF)] := by
  have hcompl : Unicode.CodeRanges.compl any.ranges = [] := by decide +kernel
  unfold codeRanges Unicode.CodeRanges.diff Unicode.CodeRanges.union
  rw [hcompl, List.nil_merge]
  rfl

end CharSet

theorem RegexShape.ofSet_any :
    ofSet true .any = .characters [(0, 0xD7FF), (0xE000, 0x10FFFF)] := by
  unfold ofSet
  rw [CharSet.codeRanges_any]
  rfl

namespace Pattern

open RegexText Reader

/-- The flags of a wildcard pattern: the dot stands for line ends, too. -/
def wildcardFlags : RegexFlags := { dotAll := true }

/-- What a character of a wildcard pattern matches. -/
def wildcardRegex (c : Char) : Regex :=
  if c = '%' then .times 0 none (.set .any)
  else if c = '_' then .set .any
  else .set (.single c)

/-- The part of the written expression for a character of a wildcard pattern. -/
def wildcardPart (c : Char) : RegexPart :=
  if c = '%' then (RegexPart.ofSet wildcardFlags .any).times 0 none true
  else if c = '_' then .ofSet wildcardFlags .any
  else .ofSet wildcardFlags (.single c)

/-- The written expression for a wildcard pattern: the setting of flags, the parts for its characters
and the anchors around them. -/
def likePart (source : List Char) : RegexPart :=
  .sequence (.nothing :: .ofAssertion .textStart ::
    (source.map wildcardPart ++ [.ofAssertion .textEnd]))

theorem times_ofSet_any : (RegexPart.ofSet wildcardFlags .any).times 0 none true =
    ⟨.times 0 none (.set .any), 1, .times 0 none true (RegexShape.ofSet true .any)⟩ := by
  have hset : RegexPart.ofSet wildcardFlags .any = ⟨.set .any, 0, RegexShape.ofSet true .any⟩ := rfl
  rw [hset, RegexShape.ofSet_any]
  rfl

theorem regex_wildcardPart (c : Char) : (wildcardPart c).regex = wildcardRegex c := by
  unfold wildcardPart wildcardRegex
  by_cases hpercent : c = '%'
  · rw [if_pos hpercent, if_pos hpercent, times_ofSet_any]
  · rw [if_neg hpercent, if_neg hpercent]
    split <;> rfl

theorem nesting_wildcardPart_le (c : Char) : (wildcardPart c).nesting ≤ 1 := by
  unfold wildcardPart
  split
  · exact Nat.le_of_eq (congrArg RegexPart.nesting times_ofSet_any)
  split <;> exact Nat.zero_le _

/-! ### Reading the parts -/

/-- An expression of a wildcard pattern being read: the parts so far, the last one first. -/
def likeReading (items : List (Option RegexPart)) : Reading :=
  ⟨wildcardFlags, [], [], [], items⟩

variable {items : List (Option RegexPart)} {part : RegexPart} {c : Char} {cs rest : List Char}

theorem takes_layout {flags : RegexFlags} (h : flags.extended = false) (cs : List Char) :
    flags.layout.Takes cs () cs := by
  have hdrop : flags.dropFrom cs = cs := by
    unfold RegexFlags.dropFrom
    rw [h]
    rfl
  refine ⟨Nat.le_refl _, ?_⟩
  unfold RegexFlags.layout
  simp only [hdrop]

/-- A round of reading reads what the next character begins. -/
theorem takes_readRound {reading reading' : Reading} (h : reading.flags.extended = false)
    (hpart : (readPart reading c).Takes (c :: cs) reading' rest) :
    (readRound reading).Takes (c :: cs) (.inl reading') rest :=
  (takes_layout h _).bind ((takes_peek _).bind (hpart.bind (takes_pure _ _)))

theorem takes_readPart_of_not_meta (cs : List Char) (h : isMeta c = false) :
    (readPart (likeReading items) c).Takes (c :: cs)
      (likeReading (some (.ofSet wildcardFlags (.single c)) :: items)) cs := by
  unfold readPart
  split
  all_goals try exact absurd h (by decide)
  exact (takes_skip [c] cs).bind (takes_pure _ _)

/-- A character with a meaning stands for itself behind a backslash. -/
theorem takes_readEscape (cs : List Char) (h : isMeta c = true) :
    (readEscape wildcardFlags).Takes (c :: cs) (.literal c) cs := by
  have hescapable : isEscapable c = true := by
    unfold isEscapable
    rw [h, Bool.true_or]
  refine (takes_next _ c cs).bind ?_
  split
  all_goals try exact absurd h (by decide)
  rw [if_pos hescapable]
  exact takes_pure _ _

theorem takes_readPart_backslash (cs : List Char) (h : isMeta c = true) :
    (readPart (likeReading items) '\\').Takes ('\\' :: c :: cs)
      (likeReading (some (.ofSet wildcardFlags (.single c)) :: items)) cs :=
  (takes_skip ['\\'] (c :: cs)).bind ((takes_readEscape cs h).bind (takes_pure _ _))

theorem takes_readPart_dot (cs : List Char) : (readPart (likeReading items) '.').Takes ('.' :: cs)
    (likeReading (some (.ofSet wildcardFlags .any) :: items)) cs :=
  (takes_skip ['.'] cs).bind (takes_pure _ _)

/-- A repetition is greedy where no question mark follows. -/
theorem takes_readPart_star (h : cs.head? ≠ some '?') :
    (readPart (likeReading (some part :: items)) '*').Takes ('*' :: cs)
      (likeReading (some (part.times 0 none true) :: items)) cs := by
  have hlazy : (cs.head? == some '?') = false := beq_eq_false_iff_ne.mpr h
  refine (takes_skip ['*'] cs).bind ?_
  unfold repeatLast
  refine (takes_peek cs).bind ?_
  rw [hlazy]
  exact takes_pure _ _

theorem takes_readPart_caret (cs : List Char) : (readPart (likeReading items) '^').Takes ('^' :: cs)
    (likeReading (some (.ofAssertion .textStart) :: items)) cs :=
  (takes_skip ['^'] cs).bind (takes_pure _ _)

theorem takes_readPart_dollar (cs : List Char) : (readPart (likeReading items) '$').Takes ('$' :: cs)
    (likeReading (some (.ofAssertion .textEnd) :: items)) cs :=
  (takes_skip ['$'] cs).bind (takes_pure _ _)

/-- The flags in front of the expression. -/
theorem takes_readPart_flags (cs : List Char) :
    (readPart ⟨{}, [], [], [], []⟩ '(').Takes ('(' :: '?' :: 's' :: ')' :: cs) (likeReading [none])
      cs := by
  have hflags : (readFlags {}).Takes ('s' :: ')' :: cs)
      ((⟨wildcardFlags, ['s'], false, false⟩ : FlagReading), ')') cs := by
    refine Takes.loop_inl ((takes_next _ 's' (')' :: cs)).bind (takes_pure _ _)) ?_ ?_
    · simp
    · exact Takes.loop_inr ((takes_next _ ')' cs).bind (takes_pure _ _))
  refine (takes_skip ['('] _).bind ((takes_layout rfl _).bind ((takes_lookAhead _).bind ?_))
  exact (takes_skip ['?'] _).bind (hflags.bind (takes_pure _ _))

/-! ### Reading the whole expression -/

/-- The rest of a reading. -/
def readOn (reading : Reading) : RegexReader RegexPart :=
  loop .malformed readRound reading

theorem takes_readOn {reading reading' : Reading} (h : reading.flags.extended = false)
    (hpart : (readPart reading c).Takes (c :: cs) reading' rest)
    (hrest : rest.length ≤ cs.length) (hmore : (readOn reading').Takes rest part []) :
    (readOn reading).Takes (c :: cs) part [] :=
  Takes.loop_inl (takes_readRound h hpart) (Nat.lt_succ_of_le hrest) hmore

/-- What the parts of a pattern are followed by. -/
theorem head_flatMap_likeCharacter (source : List Char) :
    (source.flatMap likeCharacter ++ ['$']).head? ≠ some '?' := by
  cases source with
  | nil => decide
  | cons c source =>
    rw [List.flatMap_cons, likeCharacter]
    split
    · simp
    split
    · simp
    split
    next => simp
    next hmeta =>
      have hne : c ≠ '?' := fun hc => hmeta (hc ▸ by decide)
      simpa using hne

/-- A character of a pattern becomes its part. -/
theorem takes_readOn_likeCharacter (hhead : cs.head? ≠ some '?')
    (hmore : (readOn (likeReading (some (wildcardPart c) :: items))).Takes cs part []) :
    (readOn (likeReading items)).Takes (likeCharacter c ++ cs) part [] := by
  unfold wildcardPart at hmore
  unfold likeCharacter
  by_cases hpercent : c = '%'
  · rw [if_pos hpercent] at hmore ⊢
    refine takes_readOn rfl (takes_readPart_dot _) (Nat.le_refl _) ?_
    exact takes_readOn rfl (takes_readPart_star hhead) (Nat.le_refl _) hmore
  by_cases hunderscore : c = '_'
  · rw [if_neg hpercent, if_pos hunderscore] at hmore ⊢
    exact takes_readOn rfl (takes_readPart_dot _) (Nat.le_refl _) hmore
  rw [if_neg hpercent, if_neg hunderscore] at hmore ⊢
  by_cases hmeta : isMeta c = true
  · rw [if_pos hmeta]
    exact takes_readOn rfl (takes_readPart_backslash _ hmeta) (Nat.le_succ _) hmore
  · rw [if_neg hmeta]
    exact takes_readOn rfl (takes_readPart_of_not_meta _ (Bool.eq_false_iff.mpr hmeta))
      (Nat.le_refl _) hmore

/-- The characters of a pattern become their parts, before the anchor at the end. -/
theorem takes_readOn_source (source : List Char) (items : List (Option RegexPart)) :
    (readOn (likeReading items)).Takes (source.flatMap likeCharacter ++ ['$'])
      (likeReading (some (.ofAssertion .textEnd) ::
        ((source.map fun c => some (wildcardPart c)).reverse ++ items))).inside [] := by
  induction source generalizing items with
  | nil =>
    refine takes_readOn rfl (takes_readPart_dollar []) (Nat.le_refl _) ?_
    exact Takes.loop_inr ((takes_layout rfl _).bind ((takes_peek _).bind (takes_pure _ _)))
  | cons c source ih =>
    rw [List.flatMap_cons, List.append_assoc]
    refine takes_readOn_likeCharacter (head_flatMap_likeCharacter source) ?_
    have hitems : (((c :: source).map fun c => some (wildcardPart c)).reverse ++ items) =
        (source.map fun c => some (wildcardPart c)).reverse ++ some (wildcardPart c) :: items := by
      rw [List.map_cons, List.reverse_cons, List.append_assoc, List.singleton_append]
    rw [hitems]
    exact ih _

/-- The parts that have been read, in order. -/
theorem inside_likeReading (source : List Char) :
    (likeReading (some (.ofAssertion .textEnd) ::
      ((source.map fun c => some (wildcardPart c)).reverse ++
        [some (.ofAssertion .textStart), none]))).inside = likePart source := by
  unfold Reading.inside Reading.sequence likeReading likePart
  simp [RegexPart.alternatives, Function.comp_def]

/-- **The expression of a wildcard pattern can be read.** -/
theorem takes_likeRegex (source : List Char) :
    readExpression.Takes (likeRegex source) (likePart source) [] := by
  have hsource := takes_readOn_source source [some (.ofAssertion .textStart), none]
  rw [inside_likeReading] at hsource
  have hcaret : (readOn (likeReading [none])).Takes
      ('^' :: (source.flatMap likeCharacter ++ ['$'])) (likePart source) [] :=
    takes_readOn rfl (takes_readPart_caret _) (Nat.le_refl _) hsource
  exact takes_readOn rfl (takes_readPart_flags _) (by simp) hcaret

theorem levelNesting_le {parts : List RegexPart} {depth : Nat}
    (h : ∀ part ∈ parts, part.nesting ≤ depth) : RegexPart.levelNesting parts ≤ depth + 1 := by
  suffices parts.foldr (fun part depth => max part.nesting depth) 0 ≤ depth by
    unfold RegexPart.levelNesting
    omega
  induction parts with
  | nil => exact Nat.zero_le _
  | cons part parts ih =>
    obtain ⟨hpart, hparts⟩ := List.forall_mem_cons.mp h
    exact Nat.max_le.mpr ⟨hpart, ih hparts⟩

theorem nesting_likePart_le (source : List Char) : (likePart source).nesting ≤ 2 := by
  have hparts : ∀ part ∈ RegexPart.nothing :: .ofAssertion .textStart ::
      (source.map wildcardPart ++ [.ofAssertion .textEnd]), part.nesting ≤ 1 := by
    intro part hpart
    simp only [List.mem_cons, List.mem_append, List.mem_map, List.not_mem_nil, or_false] at hpart
    rcases hpart with rfl | rfl | ⟨c, -, rfl⟩ | rfl
    · exact Nat.zero_le _
    · exact Nat.zero_le _
    · exact nesting_wildcardPart_le c
    · exact Nat.zero_le _
  exact levelNesting_le hparts

/-- The expression that a wildcard pattern denotes. -/
def likeExpression (source : List Char) : Regex :=
  RegexPart.catAll (.empty :: .look .textStart ::
    (source.map wildcardRegex ++ [.look .textEnd]))

theorem regex_likePart (source : List Char) : (likePart source).regex = likeExpression source := by
  have hparts : (source.map wildcardPart).map (·.regex) = source.map wildcardRegex := by
    rw [List.map_map]
    exact List.map_congr_left fun c _ => regex_wildcardPart c
  unfold likeExpression
  rw [← hparts]
  show RegexPart.catAll (List.map _ _) = _
  rw [List.map_cons, List.map_cons, List.map_append]
  rfl

/-- Only for its size can the expression of a wildcard pattern be refused. -/
theorem ofText_likeRegex (source : List Char) : Regex.ofText (likeRegex source) =
    if (likePart source).shape.isTooLarge then .error .tooLarge
    else .ok (likeExpression source) := by
  have hnesting : ¬ Regex.nestingLimit < (likePart source).nesting := by
    have := nesting_likePart_le source
    unfold Regex.nestingLimit
    omega
  unfold Regex.ofText
  rw [(takes_likeRegex source).parse]
  dsimp only
  rw [if_neg hnesting, regex_likePart]

end Pattern

end Sift
