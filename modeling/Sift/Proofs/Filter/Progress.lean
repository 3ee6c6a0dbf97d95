/-
# The end of a reading

A reading repeats in three places: operands joined by OR, operands joined by AND, and the values of a
list. A round of each of these loops takes at least one byte, so that a loop has at most as many rounds
as there are characters left; and a filter in parentheses has less of the text in front of it than the
filter that it stands in. So the readings of filters with a bound for the operands of each chain and
for the parentheses within each other come to the outcome of the readings without one, once both bounds
exceed the length of the text.

Key definitions: `Round`, `repeatWithin`, `operandRound`, `valueRound`, `disjunctionWithin`,
`parseWithin`, `LoopProgresses`.
Key theorems: `repeatWithin_eq`, `disjunctionWithin_eq`, `parse_progresses`.
-/
import Sift.Proofs.Filter.Size

namespace Sift.Filter

/-- What a round of a loop comes to. -/
inductive Round (σ α : Type) where
  /-- The loop is left before the round takes anything. -/
  | leave (outcome : Outcome α)
  /-- The round is the last one. -/
  | stop (outcome : Outcome α)
  /-- The loop goes on with another round. -/
  | again (state : σ) (next : Cursor)

variable {σ α : Type}

/-- The cursor at the end of a round that takes something. -/
def Round.reached? : Round σ α → Option Cursor
  | leave _ => none
  | stop outcome => some outcome.2
  | again _ next => some next

/-- The outcome of a loop after one round, if `read` gives the outcome of the other ones. -/
def Round.outcome (read : σ → Cursor → Outcome α) : Round σ α → Outcome α
  | leave outcome => outcome
  | stop outcome => outcome
  | again state next => read state next

/-- A loop of at most so many rounds. -/
def repeatWithin (round : σ → Cursor → Option (Round σ α)) :
    Nat → σ → Cursor → Option (Outcome α)
  | 0, _, _ => none
  | rounds + 1, state, cursor =>
    match round state cursor with
    | none => none
    | some (.leave outcome) => some outcome
    | some (.stop outcome) => some outcome
    | some (.again state next) => repeatWithin round rounds state next

/-! ### The readings with bounds -/

/-- A round of operands joined by a keyword: the keyword and the next operand. -/
def operandRound (word : List Char) (join : Filter → Filter → Filter)
    (operand : Cursor → Option (Outcome Filter)) (left : Filter) (cursor : Cursor) :
    Option (Round Filter Filter) :=
  match cursor.matchKeyword word with
  | (false, after) => some (.leave (.ok left, after))
  | (true, after) =>
    match operand after with
    | none => none
    | some (.error e, next) => some (.stop (.error e, next))
    | some (.ok right, next) => some (.again (join left right) next)

/-- A round of a list of values: a value and the sign behind it. Without a value there is no round. -/
def valueRound (values : List Value) (cursor : Cursor) :
    Option (Round (List Value) (List Value)) :=
  match readValue cursor with
  | (.error e, after) => some (.leave (.error e, after))
  | (.ok value, after) =>
    match after.matchText [','] with
    | (true, next) => some (.again (value :: values) next)
    | (false, next) =>
      match next.matchText [')'] with
      | (true, last) => some (.stop (.ok (value :: values).reverse, last))
      | (false, last) => some (.stop
          (.error (.expectedToken .listContinuation last.position (found last)), last))

/-- Operands joined by a keyword. -/
def chainWithin (rounds : Nat) (word : List Char) (join : Filter → Filter → Filter)
    (operand : Cursor → Option (Outcome Filter)) (cursor : Cursor) : Option (Outcome Filter) :=
  match operand cursor with
  | none => none
  | some (.error e, after) => some (.error e, after)
  | some (.ok left, after) => repeatWithin (operandRound word join operand) rounds left after

/-- A filter in parentheses, which `inside` reads, or a predicate on a field. -/
def primaryWithin (inside : Cursor → Option (Outcome Filter)) (cursor : Cursor) :
    Option (Outcome Filter) :=
  match cursor.skipGap.matchText ['('] with
  | (true, opened) =>
    match inside opened with
    | none => none
    | some (.error e, after) => some (.error e, after)
    | some (.ok filter, after) =>
      match after.matchText [')'] with
      | (true, last) => some (.ok filter, last)
      | (false, last) =>
        some (.error (.unclosedParen cursor.skipGap.position (found last)), last)
  | (false, start) =>
    match start.readIdentifier with
    | ([], after) => some (.error (.expectedField start.position (found after)), after)
    | (field, after) => some (readPredicate (String.ofList field) after)

/-- A primary filter, or NOT and a primary filter. -/
def negationWithin (inside : Cursor → Option (Outcome Filter)) (cursor : Cursor) :
    Option (Outcome Filter) :=
  match cursor.matchKeyword "NOT".toList with
  | (true, after) => (primaryWithin inside after).map (mapOutcome .not)
  | (false, after) => primaryWithin inside after

/-- Conjunctions joined by OR, with parentheses within each other at most so deep. -/
def disjunctionWithin (rounds : Nat) : Nat → Cursor → Option (Outcome Filter)
  | 0, _ => none
  | depth + 1, cursor =>
    chainWithin rounds "OR".toList .or
      (chainWithin rounds "AND".toList .and (negationWithin (disjunctionWithin rounds depth))) cursor

/-- The filter that a text denotes, if no chain of operands takes more rounds and no parentheses stand
deeper within each other. -/
def parseWithin (rounds depth : Nat) (text : String) : Option (Except ParseError Filter) :=
  if (Text.trim text.toList).isEmpty then some (.error .empty)
  else
    match disjunctionWithin rounds depth (startCursor text.toList) with
    | none => none
    | some (.error e, _) => some (.error e)
    | some (.ok filter, after) =>
      let after := after.skipGap
      if after.isEof then some (.ok filter)
      else some (.error (.unexpectedInput after.position (found after)))

/-! ### Loops -/

/-- Whether a cursor is further on in the text. -/
def Advances (cursor next : Cursor) : Prop :=
  cursor.LeadsTo next ∧ cursor.position < next.position

theorem Advances.left_lt {cursor next : Cursor} (h : Advances cursor next) :
    next.left < cursor.left := by
  rcases h.1.eq_or_left_lt with rfl | hlt
  · exact absurd h.2 (Nat.lt_irrefl _)
  · exact hlt

theorem Advances.trans_leadsTo {cursor next last : Cursor} (h : Advances cursor next)
    (hlast : next.LeadsTo last) : Advances cursor last := by
  refine ⟨h.1.trans hlast, Nat.lt_of_lt_of_le h.2 ?_⟩
  obtain ⟨passed, -, hposition⟩ := hlast
  rw [hposition]
  exact Nat.le_add_right _ _

/-- A loop whose rounds take something ends, and its rounds give its outcome. -/
theorem repeatWithin_eq {round : σ → Cursor → Option (Round σ α)} {read : σ → Cursor → Outcome α}
    {bound : Nat}
    (hround : ∀ state cursor, cursor.left ≤ bound → ∃ result, round state cursor = some result ∧
      result.outcome read = read state cursor ∧ ∀ next ∈ result.reached?, Advances cursor next) :
    ∀ (rounds : Nat) (state : σ) (cursor : Cursor), cursor.left ≤ bound → cursor.left < rounds →
      repeatWithin round rounds state cursor = some (read state cursor) := by
  intro rounds
  induction rounds with
  | zero => exact fun _ _ _ h => absurd h (Nat.not_lt_zero _)
  | succ rounds ih =>
    intro state cursor hbound hrounds
    obtain ⟨result, hresult, houtcome, hadvances⟩ := hround state cursor hbound
    rw [repeatWithin, hresult, ← houtcome]
    cases result with
    | leave outcome => rfl
    | stop outcome => rfl
    | again state' next =>
      -- The next round has fewer characters left, as it has one round less.
      have hlt := (hadvances next rfl).left_lt
      exact ih state' next (by omega) (by omega)

/-- A keyword takes its characters. -/
theorem advances_matchKeyword {word : List Char} {cursor next : Cursor} (hne : word ≠ [])
    (h : cursor.matchKeyword word = (true, next)) : Advances cursor next := by
  have hleads := Cursor.leadsTo_of_eq h (Cursor.leadsTo_matchKeyword word cursor)
  have hlt := Cursor.left_lt_of_matchKeyword hne h
  have hle : cursor.position + 1 ≤ next.position := position_add_le hleads (by omega)
  exact ⟨hleads, hle⟩

/-- Whether a reading goes on behind a left operand with further operands, each behind a keyword. -/
structure JoinsOperands (word : List Char) (join : Filter → Filter → Filter)
    (readOperand : Cursor → Outcome Filter) (readMore : Filter → Cursor → Outcome Filter) :
    Prop where
  word_ne_nil : word ≠ []
  leadsTo : ∀ cursor : Cursor, cursor.LeadsTo (readOperand cursor).2
  more_eq : ∀ left cursor, readMore left cursor =
    match cursor.matchKeyword word with
    | (false, after) => (.ok left, after)
    | (true, after) =>
      match readOperand after with
      | (.error e, next) => (.error e, next)
      | (.ok right, next) => readMore (join left right) next

theorem joinsOperands_or :
    JoinsOperands "OR".toList .or (fun cursor => (readConjunction cursor).1)
      (fun left cursor => (readMoreOr left cursor).1) :=
  ⟨by decide, leadsTo_readConjunction, readMoreOr_val⟩

theorem joinsOperands_and :
    JoinsOperands "AND".toList .and (fun cursor => (readNegation cursor).1)
      (fun left cursor => (readMoreAnd left cursor).1) :=
  ⟨by decide, leadsTo_readNegation, readMoreAnd_val⟩

section

variable {word : List Char} {join : Filter → Filter → Filter}
  {operand : Cursor → Option (Outcome Filter)} {readOperand : Cursor → Outcome Filter}
  {readMore : Filter → Cursor → Outcome Filter} {bound : Nat}

/-- A round of operands is one step of the loop, and takes at least the keyword. -/
theorem JoinsOperands.exists_round (h : JoinsOperands word join readOperand readMore)
    (hoperand : ∀ cursor, cursor.left ≤ bound → operand cursor = some (readOperand cursor))
    (left : Filter) (cursor : Cursor) (hbound : cursor.left ≤ bound) :
    ∃ result, operandRound word join operand left cursor = some result ∧
      result.outcome readMore = readMore left cursor ∧
        ∀ next ∈ result.reached?, Advances cursor next := by
  rw [h.more_eq, operandRound]
  cases hmatch : cursor.matchKeyword word with
  | mk success after =>
    cases success with
    | false => exact ⟨_, rfl, rfl, nofun⟩
    | true =>
      have hafter := advances_matchKeyword h.word_ne_nil hmatch
      have hlt := hafter.left_lt
      have hleads := h.leadsTo after
      dsimp only
      rw [hoperand after (by omega)]
      rcases hread : readOperand after with ⟨e | right, next⟩
      all_goals
        have hnext := hafter.trans_leadsTo (Cursor.leadsTo_of_eq hread hleads)
        exact ⟨_, rfl, rfl, fun _ h => Option.some.inj h ▸ hnext⟩

/-- Operands joined by a keyword are read within as many rounds as there are characters left. -/
theorem JoinsOperands.chainWithin_eq (h : JoinsOperands word join readOperand readMore)
    (hoperand : ∀ cursor, cursor.left ≤ bound → operand cursor = some (readOperand cursor))
    {rounds : Nat} {cursor : Cursor} (hbound : cursor.left ≤ bound) (hrounds : cursor.left < rounds) :
    chainWithin rounds word join operand cursor = some
      (match readOperand cursor with
      | (.error e, after) => (.error e, after)
      | (.ok left, after) => readMore left after) := by
  have hleads := h.leadsTo cursor
  rw [chainWithin, hoperand cursor hbound]
  rcases hread : readOperand cursor with ⟨e | left, after⟩
  · rfl
  · have hle : after.left ≤ cursor.left := (Cursor.leadsTo_of_eq hread hleads).left_le
    exact repeatWithin_eq (h.exists_round hoperand) rounds left after (by omega) (by omega)

end

/-- A round of values is one step of the loop, and takes at least the value. -/
theorem exists_valueRound (values : List Value) (cursor : Cursor) :
    ∃ result, valueRound values cursor = some result ∧
      result.outcome readValuesAfter = readValuesAfter values cursor ∧
        ∀ next ∈ result.reached?, Advances cursor next := by
  rw [readValuesAfter_eq, valueRound]
  cases hvalue : readValue cursor with
  | mk outcome after =>
    cases outcome with
    | error e => exact ⟨_, rfl, rfl, nofun⟩
    | ok value =>
      have hafter : Advances cursor after := (Succeeds.value hvalue).advances.2
      have hcomma := Cursor.leadsTo_matchText [','] after
      dsimp only
      rcases hread : after.matchText [','] with ⟨_ | _, next⟩
      · have hnext := hafter.trans_leadsTo (Cursor.leadsTo_of_eq hread hcomma)
        have hclosing := Cursor.leadsTo_matchText [')'] next
        dsimp only
        rcases hread : next.matchText [')'] with ⟨_ | _, last⟩
        all_goals
          have hlast := hnext.trans_leadsTo (Cursor.leadsTo_of_eq hread hclosing)
          exact ⟨_, rfl, rfl, fun _ h => Option.some.inj h ▸ hlast⟩
      · have hnext := hafter.trans_leadsTo (Cursor.leadsTo_of_eq hread hcomma)
        exact ⟨_, rfl, rfl, fun _ h => Option.some.inj h ▸ hnext⟩

/-! ### Parentheses -/

/-- A primary is read if what stands in its parentheses is read. -/
theorem primaryWithin_eq {inside : Cursor → Option (Outcome Filter)} {cursor : Cursor}
    (hinside : ∀ opened : Cursor, opened.left < cursor.left →
      inside opened = some (readDisjunction opened).1) :
    primaryWithin inside cursor = some (readPrimary cursor).1 := by
  rw [primaryWithin, readPrimary_val]
  cases hopen : cursor.skipGap.matchText ['('] with
  | mk success opened =>
    cases success with
    | true =>
      have hlt : opened.left < cursor.left :=
        Nat.lt_of_lt_of_le (Cursor.left_lt_of_matchText (by simp) hopen)
          (Cursor.left_skipGap_le cursor)
      dsimp only
      rw [hinside opened hlt]
      rcases (readDisjunction opened).1 with ⟨e | filter, after⟩
      · rfl
      · dsimp only
        rcases after.matchText [')'] with ⟨_ | _, last⟩ <;> rfl
    | false =>
      dsimp only
      rcases opened.readIdentifier with ⟨_ | _, after⟩ <;> rfl

theorem negationWithin_eq {inside : Cursor → Option (Outcome Filter)} {cursor : Cursor}
    (hinside : ∀ opened : Cursor, opened.left < cursor.left →
      inside opened = some (readDisjunction opened).1) :
    negationWithin inside cursor = some (readNegation cursor).1 := by
  have hprimary {after : Cursor} (hle : after.left ≤ cursor.left) :
      primaryWithin inside after = some (readPrimary after).1 :=
    primaryWithin_eq fun opened hlt => hinside opened (Nat.lt_of_lt_of_le hlt hle)
  have hleads := Cursor.leadsTo_matchKeyword "NOT".toList cursor
  rw [negationWithin, readNegation_val]
  rcases hnot : cursor.matchKeyword "NOT".toList with ⟨_ | _, after⟩
  · exact hprimary (Cursor.leadsTo_of_eq hnot hleads).left_le
  · dsimp only
    rw [hprimary (Cursor.leadsTo_of_eq hnot hleads).left_le]
    rfl

/-- **A filter is read within bounds.** As many rounds of each loop and as many parentheses within each
other as there are characters left are enough. -/
theorem disjunctionWithin_eq {rounds : Nat} : ∀ (depth : Nat) (cursor : Cursor),
    cursor.left < depth → cursor.left < rounds →
      disjunctionWithin rounds depth cursor = some (readDisjunction cursor).1 := by
  intro depth
  induction depth with
  | zero => exact fun _ h => absurd h (Nat.not_lt_zero _)
  | succ depth ih =>
    intro cursor hdepth hrounds
    -- Every operand starts at the cursor or behind it, and parentheses in it open further on.
    have hnegation (start : Cursor) (hle : start.left ≤ cursor.left) :
        negationWithin (disjunctionWithin rounds depth) start = some (readNegation start).1 :=
      negationWithin_eq fun opened hlt => ih opened (by omega) (by omega)
    have hconjunction (start : Cursor) (hle : start.left ≤ cursor.left) :
        chainWithin rounds "AND".toList .and (negationWithin (disjunctionWithin rounds depth)) start =
          some (readConjunction start).1 := by
      rw [readConjunction_val]
      exact joinsOperands_and.chainWithin_eq hnegation hle (by omega)
    rw [disjunctionWithin, readDisjunction_val]
    exact joinsOperands_or.chainWithin_eq hconjunction (Nat.le_refl _) hrounds

/-- A text is read within bounds that exceed its bytes. -/
theorem parseWithin_eq {text : String} {rounds depth : Nat}
    (hrounds : byteLength (Text.trim text.toList) < rounds)
    (hdepth : byteLength (Text.trim text.toList) < depth) :
    parseWithin rounds depth text = some (parse text) := by
  have hleft : (startCursor text.toList).left ≤ byteLength (Text.trim text.toList) :=
    length_le_byteLength (Text.trim text.toList)
  have hread : disjunctionWithin rounds depth (startCursor text.toList) =
      some (readDisjunction (startCursor text.toList)).1 :=
    disjunctionWithin_eq depth _ (by omega) (by omega)
  unfold parseWithin parse parseFrom parseRest
  split
  · rfl
  · rw [hread]
    rcases (readDisjunction (startCursor text.toList)).1 with ⟨e | filter, after⟩
    · rfl
    · dsimp only
      split <;> rfl

/-! ### Progress -/

/-- Whether every round of a loop that takes something moves the cursor on, and the loop is its rounds
one after another, of which there are at most as many as characters left, and a last one. -/
structure LoopProgresses (round : σ → Cursor → Option (Round σ α)) (read : σ → Cursor → Outcome α) :
    Prop where
  advances : ∀ state cursor result, round state cursor = some result →
    ∀ next ∈ result.reached?, Advances cursor next
  ends : ∀ state cursor rounds, cursor.left < rounds →
    repeatWithin round rounds state cursor = some (read state cursor)

theorem loopProgresses_of_round {round : σ → Cursor → Option (Round σ α)}
    {read : σ → Cursor → Outcome α}
    (hround : ∀ state cursor, ∃ result, round state cursor = some result ∧
      result.outcome read = read state cursor ∧ ∀ next ∈ result.reached?, Advances cursor next) :
    LoopProgresses round read where
  advances state cursor result hresult := by
    obtain ⟨result', hresult', -, hadvances⟩ := hround state cursor
    rw [hresult] at hresult'
    exact Option.some.inj hresult' ▸ hadvances
  ends state cursor rounds hrounds :=
    repeatWithin_eq (fun state cursor _ => hround state cursor) rounds state cursor (Nat.le_refl _)
      hrounds

theorem JoinsOperands.loopProgresses {word : List Char} {join : Filter → Filter → Filter}
    {readOperand : Cursor → Outcome Filter} {readMore : Filter → Cursor → Outcome Filter}
    (h : JoinsOperands word join readOperand readMore) :
    LoopProgresses (operandRound word join fun cursor => some (readOperand cursor)) readMore :=
  loopProgresses_of_round fun left cursor =>
    h.exists_round (fun _ _ => rfl) left cursor (Nat.le_refl cursor.left)

/-- **A reading makes progress and filters are no larger than their texts.** A successful call of any of
the readings takes at least one byte, and so does every round of the loops for OR, for AND and for the
values of a list; a round that fails takes the keyword or the value in front of the failure. Hence each
loop is a bounded number of its rounds, and the reading of a text comes to its outcome with a bound for
the operands of each chain and one for the parentheses within each other. A filter has at most a third as
many nodes as its text has bytes without outer white space. -/
theorem parse_progresses (text : String) :
    (∀ cursor next bytes, Succeeds cursor next bytes →
      0 < bytes ∧ cursor.LeadsTo next ∧ cursor.position + bytes ≤ next.position) ∧
    LoopProgresses (operandRound "OR".toList .or fun cursor => some (readConjunction cursor).1)
      (fun left cursor => (readMoreOr left cursor).1) ∧
    LoopProgresses (operandRound "AND".toList .and fun cursor => some (readNegation cursor).1)
      (fun left cursor => (readMoreAnd left cursor).1) ∧
    LoopProgresses valueRound readValuesAfter ∧
    (∀ rounds depth, byteLength (Text.trim text.toList) < rounds →
      byteLength (Text.trim text.toList) < depth →
        parseWithin rounds depth text = some (parse text)) ∧
    ∀ filter, parse text = .ok filter →
      3 * filter.nodeCount ≤ byteLength (Text.trim text.toList) :=
  ⟨fun _ _ _ h => h.advances, joinsOperands_or.loopProgresses, joinsOperands_and.loopProgresses,
    loopProgresses_of_round exists_valueRound, fun _ _ => parseWithin_eq,
    fun _ => three_mul_nodeCount_le_of_parse⟩

/-- Nothing can be left out of this text: its filter has three nodes for nine bytes. -/
theorem parse_progresses_tight :
    ∃ filter, parse "a=1OR a=1" = .ok filter ∧ filter.nodeCount = 3 ∧
      byteLength (Text.trim "a=1OR a=1".toList) = 9 ∧
      3 * filter.nodeCount ≤ byteLength (Text.trim "a=1OR a=1".toList) := by
  obtain ⟨-, -, -, -, hwithin, hsize⟩ := parse_progresses "a=1OR a=1"
  have hread : parse "a=1OR a=1" =
      .ok (.or (.compare "a" .eq (.integer 1)) (.compare "a" .eq (.integer 1))) :=
    (Option.some.inj (hwithin 10 10 (by decide) (by decide))).symm
  exact ⟨_, hread, rfl, by decide, hsize _ hread⟩

end Sift.Filter
