/-
# Well-formed filters

The parts of a filter that a text can name or denote: the names of its fields, its literals and its
lists. A filter that is read from a text consists of such parts.

Key definitions: `literals`, `lists`, `WellFormed`.
Key theorem: `wellFormed_of_derives`.
-/
import Sift.Proofs.Filter.Grammar
import Sift.Proofs.Value.Reread

namespace Sift.Filter

/-- The literals of a filter from left to right; a pattern stands for the string of its source. -/
def literals : Filter → List Value
  | compare _ _ value => [value]
  | member _ _ values => values
  | between _ lower upper => [lower, upper]
  | matching _ pattern => [.string pattern.source]
  | and left right => left.literals ++ right.literals
  | or left right => left.literals ++ right.literals
  | not operand => operand.literals

/-- The lists of the memberships of a filter from left to right. -/
def lists : Filter → List (List Value)
  | member _ _ values => [values]
  | and left right => left.lists ++ right.lists
  | or left right => left.lists ++ right.lists
  | not operand => operand.lists
  | _ => []

/-- Whether the names of a filter are names, its literals satisfy a condition, and no list is
empty. -/
structure WellFormed (condition : Value → Prop) (filter : Filter) : Prop where
  names : ∀ field ∈ filter.fieldOccurrences, IsName field
  literals : ∀ value ∈ filter.literals, condition value
  lists : ∀ values ∈ filter.lists, values ≠ []

variable {condition : Value → Prop} {left right operand : Filter}

instance [DecidablePred condition] (filter : Filter) : Decidable (filter.WellFormed condition) :=
  decidable_of_iff ((∀ field ∈ filter.fieldOccurrences, IsName field) ∧
      (∀ value ∈ filter.literals, condition value) ∧ ∀ values ∈ filter.lists, values ≠ [])
    ⟨fun ⟨hnames, hliterals, hlists⟩ => ⟨hnames, hliterals, hlists⟩,
      fun ⟨hnames, hliterals, hlists⟩ => ⟨hnames, hliterals, hlists⟩⟩

theorem WellFormed.imp {condition' : Value → Prop} {filter : Filter}
    (himp : ∀ value ∈ filter.literals, condition value → condition' value)
    (h : filter.WellFormed condition) : filter.WellFormed condition' :=
  ⟨h.names, fun value hvalue => himp value hvalue (h.literals value hvalue), h.lists⟩

theorem wellFormed_and : (and left right).WellFormed condition ↔
    left.WellFormed condition ∧ right.WellFormed condition := by
  constructor
  · rintro ⟨hnames, hliterals, hlists⟩
    simp only [fieldOccurrences, Filter.literals, Filter.lists, List.mem_append, or_imp,
      forall_and] at hnames hliterals hlists
    exact ⟨⟨hnames.1, hliterals.1, hlists.1⟩, ⟨hnames.2, hliterals.2, hlists.2⟩⟩
  · rintro ⟨hleft, hright⟩
    refine ⟨?_, ?_, ?_⟩ <;>
      simp only [fieldOccurrences, Filter.literals, Filter.lists, List.mem_append, or_imp,
        forall_and]
    · exact ⟨hleft.names, hright.names⟩
    · exact ⟨hleft.literals, hright.literals⟩
    · exact ⟨hleft.lists, hright.lists⟩

theorem wellFormed_or : (or left right).WellFormed condition ↔
    left.WellFormed condition ∧ right.WellFormed condition :=
  ⟨fun ⟨hnames, hliterals, hlists⟩ => wellFormed_and.mp ⟨hnames, hliterals, hlists⟩,
    fun h => let ⟨hnames, hliterals, hlists⟩ := wellFormed_and.mpr h
      ⟨hnames, hliterals, hlists⟩⟩

theorem wellFormed_not : (not operand).WellFormed condition ↔ operand.WellFormed condition :=
  ⟨fun ⟨hnames, hliterals, hlists⟩ => ⟨hnames, hliterals, hlists⟩,
    fun ⟨hnames, hliterals, hlists⟩ => ⟨hnames, hliterals, hlists⟩⟩

/-! ### Filters that are read -/

theorem mem_of_mem_splitSign {c : Char} {cs : List Char} (h : c ∈ (Text.splitSign cs).2) :
    c ∈ cs := by
  unfold Text.splitSign at h
  split at h
  · exact List.mem_cons_of_mem _ h
  · exact List.mem_cons_of_mem _ h
  · exact h

theorem toLower_ne_of_isTokenCharacter {c : Char} (h : Cursor.isTokenCharacter c = true) :
    c.toLower ≠ 'n' := by
  intro hlower
  have hle : c.val ≤ '9'.val := by
    simp only [Cursor.isTokenCharacter, Bool.or_eq_true, beq_iff_eq] at h
    rcases h with (hdigit | rfl) | rfl
    · simp only [Char.isDigit, Bool.and_eq_true, decide_eq_true_eq] at hdigit
      exact hdigit.2
    · decide
    · decide
  have heq : c.toLower = c := by
    unfold Char.toLower
    exact dif_neg fun h => absurd (UInt32.le_trans h.1 hle) (by decide)
  rw [← heq, hlower] at h
  revert h
  decide

theorem isNan_of_readMagnitude? {negative : Bool} {cs : List Char} {x : Binary64}
    (h : Binary64.readMagnitude? negative cs = some x) : x.isNan = false := by
  have hparts : ∀ parts : List Char × List Char,
      (if (cs.takeWhile Char.isDigit).isEmpty && parts.1.isEmpty then none
        else (Binary64.readExponent? parts.2).bind fun exponent =>
          some (Binary64.ofDecimal negative
            (Nat.ofDigitChars 10 (cs.takeWhile Char.isDigit ++ parts.1) 0)
            (exponent - parts.1.length))) = some x → x.isNan = false := by
    intro parts h
    split at h
    next => cases h
    next =>
      obtain ⟨exponent, -, hx⟩ := Option.bind_eq_some_iff.mp h
      rw [← Option.some.inj hx]
      rfl
  exact hparts _ h

/-- A token without quotes is read as a number by its digits: it is none of the words for numbers,
which all have an n. -/
theorem read?_of_token {characters : List Char}
    (htoken : ∀ c ∈ characters, Cursor.isTokenCharacter c = true) :
    Binary64.read? characters =
      Binary64.readMagnitude? (Text.splitSign characters).1 (Text.splitSign characters).2 := by
  have hbody := fun c (hc : c ∈ (Text.splitSign characters).2) =>
    toLower_ne_of_isTokenCharacter (htoken c (mem_of_mem_splitSign hc))
  unfold Binary64.read?
  generalize Text.splitSign characters = signed at hbody
  obtain ⟨negative, body⟩ := signed
  dsimp only at hbody ⊢
  have hword : ∀ word : String, 'n' ∈ word.toList → String.ofList (body.map Char.toLower) ≠ word := by
    rintro word hmem rfl
    rw [String.toList_ofList] at hmem
    obtain ⟨c, hc, hlower⟩ := List.mem_map.mp hmem
    exact hbody c hc hlower
  rw [if_neg (not_or.mpr ⟨hword "inf" (by decide), hword "infinity" (by decide)⟩),
    if_neg (hword "nan" (by decide))]

/-- A token without quotes does not denote what is no number. -/
theorem isNan_of_read? {characters : List Char} {x : Binary64}
    (htoken : ∀ c ∈ characters, Cursor.isTokenCharacter c = true)
    (h : Binary64.read? characters = some x) : x.isNan = false := by
  rw [read?_of_token htoken] at h
  exact isNan_of_readMagnitude? h

theorem isReadable_of_denotes {token : Token} {value : Value} (h : Denotes token value) :
    value.IsReadable := by
  cases h with
  | quoted hquote => exact hquote
  | integer _ _ => trivial
  | float hbare _ hnumber => exact isNan_of_read? hbare.2 hnumber
  | @string characters hbare _ _ =>
    intro hquote
    rw [String.toList_ofList] at hquote
    have := hbare.2 _ hquote
    revert this
    decide

theorem isReadable_of_denotesAll {tokens : List Token} {values : List Value}
    (h : DenotesAll tokens values) : values ≠ [] ∧ ∀ value ∈ values, value.IsReadable := by
  induction h with
  | one hvalue =>
    exact ⟨List.cons_ne_nil _ _, List.forall_mem_cons.mpr ⟨isReadable_of_denotes hvalue, nofun⟩⟩
  | more hvalue _ ih =>
    exact ⟨List.cons_ne_nil _ _, List.forall_mem_cons.mpr ⟨isReadable_of_denotes hvalue, ih.2⟩⟩

theorem wellFormed_of_predicate {field : String} {tokens : List Token} {filter : Filter}
    (hname : IsName field) (h : Predicate field tokens filter) :
    filter.WellFormed Value.IsReadable := by
  have hnames : ∀ name ∈ [field], IsName name := List.forall_mem_cons.mpr ⟨hname, nofun⟩
  have hlists : ∀ {values : List Value}, values ≠ [] → ∀ list ∈ [values], list ≠ [] := fun h =>
    List.forall_mem_cons.mpr ⟨h, nofun⟩
  cases h with
  | compare _ hvalue =>
    exact ⟨hnames, List.forall_mem_cons.mpr ⟨isReadable_of_denotes hvalue, nofun⟩, nofun⟩
  | member hvalues | notMember hvalues =>
    obtain ⟨hne, hreadable⟩ := isReadable_of_denotesAll hvalues
    exact ⟨hnames, hreadable, hlists hne⟩
  | between hlower hupper =>
    exact ⟨hnames, List.forall_mem_cons.mpr ⟨isReadable_of_denotes hlower,
      List.forall_mem_cons.mpr ⟨isReadable_of_denotes hupper, nofun⟩⟩, nofun⟩
  | like hsource | regexp hsource =>
    exact ⟨hnames, List.forall_mem_cons.mpr ⟨isReadable_of_denotes hsource, nofun⟩, nofun⟩

/-- A filter that has a spelling is well-formed. -/
theorem wellFormed_of_derives {level : Level} {tokens : List Token} {filter : Filter}
    (h : Derives level tokens filter) : filter.WellFormed Value.IsReadable := by
  induction h with
  | or _ _ ihleft ihright => exact wellFormed_or.mpr ⟨ihleft, ihright⟩
  | and _ _ ihleft ihright => exact wellFormed_and.mpr ⟨ihleft, ihright⟩
  | not _ ih => exact wellFormed_not.mpr ih
  | ofConjunction _ ih | ofNegation _ ih | ofPrimary _ ih | group _ ih => exact ih
  | predicate hname hpredicate => exact wellFormed_of_predicate hname hpredicate

end Sift.Filter
