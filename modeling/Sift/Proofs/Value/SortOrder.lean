/-
# How far the order for sorting is an order

The order for sorting puts truth values before numbers and numbers before strings. Every value is as
great as itself, and swapping two values swaps their order. Two integers compare exactly, while an
integer and a floating-point number compare by the numbers that they are rounded to. So the order is
transitive up to one case: a floating-point number is as great as all the integers that are rounded to
it, and these are not as great as each other.

Key definitions: `Binary64.sortPlace`, `Value.numberPlace`, `Value.Straddles`.
Key theorems: `Value.sortOrder_swap`, `Value.sortOrder_trans_of_not_straddles`,
`Value.sortOrder_preorder_iff_not_straddles`.
-/
import Sift.Proofs.Binary64.Monotone
import Sift.Value.Compare

namespace Sift

/-! ### Numbers -/

/-- The place of a number in the order for sorting, behind infinity for what is no number. -/
def Binary64.sortPlace (x : Binary64) : Int :=
  x.place?.getD (Binary64.infinityCode + 1)

theorem Binary64.sortPlace_signed_lt (negative : Bool) {code : Nat}
    (h : code ≤ Binary64.infinityCode) :
    (Binary64.signed negative code h).sortPlace < Binary64.nan.sortPlace := by
  show (if negative then -(code : Int) else code) < (Binary64.infinityCode + 1 : Int)
  cases negative
  · rw [if_neg Bool.false_ne_true]
    omega
  · rw [if_pos rfl]
    omega

namespace Value

/-- Numbers are sorted by their places. -/
theorem numberOrder_eq : ∀ a b : Binary64,
    numberOrder a b = compare a.sortPlace b.sortPlace
  | .nan, .nan => rfl
  | .nan, .signed negative _ h =>
    (Int.compare_eq_gt.mpr (Binary64.sortPlace_signed_lt negative h)).symm
  | .signed negative _ h, .nan =>
    (Int.compare_eq_lt.mpr (Binary64.sortPlace_signed_lt negative h)).symm
  | .signed .., .signed .. => rfl

/-- The place by which a number is sorted among floating-point numbers. -/
def numberPlace : Value → Int
  | integer n => Binary64.integerPlace n.toInt
  | float x => x.sortPlace
  | _ => 0

theorem sortPlace_ofInt (n : Int) : (Binary64.ofInt n).sortPlace = Binary64.integerPlace n := by
  unfold Binary64.sortPlace
  rw [Binary64.place?_ofInt]
  rfl

theorem numberPlace_mono {m n : Int64} (h : m.toInt ≤ n.toInt) :
    (integer m).numberPlace ≤ (integer n).numberPlace := by
  have hm := m.le_toInt
  have hm' := m.toInt_lt
  have hn := n.le_toInt
  have hn' := n.toInt_lt
  exact Binary64.integerPlace_mono h (by omega) (by omega)

/-! ### Pairs -/

theorem numberOrder_self (x : Binary64) : numberOrder x x = .eq := by
  rw [numberOrder_eq]
  exact Std.ReflCmp.compare_self

theorem numberOrder_swap (x y : Binary64) : numberOrder y x = (numberOrder x y).swap := by
  rw [numberOrder_eq, numberOrder_eq]
  exact Std.OrientedCmp.eq_swap

theorem sortOrder_self : ∀ a : Value, a.sortOrder a = .eq
  | boolean b => show compare b b = .eq from Std.ReflCmp.compare_self
  | integer n => show compare n.toInt n.toInt = .eq from Std.ReflCmp.compare_self
  | float x => numberOrder_self x
  | string s => show compare s s = .eq from Std.ReflCmp.compare_self

/-- Values of different ranks are sorted by rank. -/
theorem sortOrder_of_rank_ne {a b : Value} (h : a.rank ≠ b.rank) :
    a.sortOrder b = compare a.rank b.rank := by
  cases a <;> cases b <;> first | rfl | exact absurd rfl h

/-- Two values in the other order. -/
theorem sortOrder_swap (a b : Value) : b.sortOrder a = (a.sortOrder b).swap := by
  by_cases hrank : a.rank = b.rank
  · cases a <;> cases b <;> simp [rank] at hrank <;> simp only [sortOrder]
    · exact Std.OrientedCmp.eq_swap
    · exact Std.OrientedCmp.eq_swap
    · exact numberOrder_swap _ _
    · exact numberOrder_swap _ _
    · exact numberOrder_swap _ _
    · exact Std.OrientedCmp.eq_swap
  · rw [sortOrder_of_rank_ne hrank, sortOrder_of_rank_ne (Ne.symm hrank)]
    exact Std.OrientedCmp.eq_swap

theorem rank_le_of_sortOrder {a b : Value} (h : a.sortOrder b ≠ .gt) : a.rank ≤ b.rank := by
  by_cases hrank : a.rank = b.rank
  · exact Nat.le_of_eq hrank
  · rw [sortOrder_of_rank_ne hrank] at h
    exact Nat.isLE_compare.mp (Ordering.isLE_iff_ne_gt.mpr h)

/-- Two integers are sorted exactly. -/
theorem sortOrder_integer_ne_gt {m n : Int64} :
    (integer m).sortOrder (integer n) ≠ .gt ↔ m.toInt ≤ n.toInt :=
  Ordering.isLE_iff_ne_gt.symm.trans Int.isLE_compare

theorem exists_of_rank_eq_one : ∀ {a : Value}, a.rank = 1 →
    (∃ n, a = integer n) ∨ ∃ x, a = float x
  | integer n, _ => .inl ⟨n, rfl⟩
  | float x, _ => .inr ⟨x, rfl⟩

/-- Two numbers one of which is no integer are sorted by their places. -/
theorem sortOrder_number_ne_gt {a b : Value} (ha : a.rank = 1) (hb : b.rank = 1)
    (hfloat : (∃ x, a = float x) ∨ ∃ x, b = float x) :
    a.sortOrder b ≠ .gt ↔ a.numberPlace ≤ b.numberPlace := by
  have hplaces : a.sortOrder b = compare a.numberPlace b.numberPlace := by
    rcases exists_of_rank_eq_one ha with ⟨m, rfl⟩ | ⟨x, rfl⟩ <;>
      rcases exists_of_rank_eq_one hb with ⟨n, rfl⟩ | ⟨y, rfl⟩
    · rcases hfloat with ⟨_, h⟩ | ⟨_, h⟩ <;> cases h
    · simp only [sortOrder, numberPlace, numberOrder_eq, sortPlace_ofInt]
    · simp only [sortOrder, numberPlace, numberOrder_eq, sortPlace_ofInt]
    · simp only [sortOrder, numberPlace, numberOrder_eq]
  rw [hplaces]
  exact Ordering.isLE_iff_ne_gt.symm.trans Int.isLE_compare

/-- The places of numbers are in the order for sorting, that of two integers too. -/
theorem numberPlace_le_of_sortOrder {a b : Value} (ha : a.rank = 1) (hb : b.rank = 1)
    (h : a.sortOrder b ≠ .gt) : a.numberPlace ≤ b.numberPlace := by
  rcases exists_of_rank_eq_one ha with ⟨m, rfl⟩ | hfloat
  · rcases exists_of_rank_eq_one hb with ⟨n, rfl⟩ | hfloat
    · exact numberPlace_mono (sortOrder_integer_ne_gt.mp h)
    · exact (sortOrder_number_ne_gt ha hb (.inr hfloat)).mp h
  · exact (sortOrder_number_ne_gt ha hb (.inl hfloat)).mp h

/-! ### Three values -/

/-- Whether the first of three values is a greater integer than the last one, and the value between
them is the floating-point number that both are rounded to. -/
def Straddles : Value → Value → Value → Prop
  | integer m, float x, integer n =>
    n < m ∧ (Binary64.ofInt m.toInt).same x = true ∧ (Binary64.ofInt n.toInt).same x = true
  | _, _, _ => False

/-- An integer is as great as the numbers that are the same as what it is rounded to. -/
theorem same_ofInt_iff (n : Int64) : ∀ x : Binary64,
    (Binary64.ofInt n.toInt).same x = true ↔ (integer n).numberPlace = (float x).numberPlace
  | .nan => by
    have hlt : (Binary64.ofInt n.toInt).sortPlace < Binary64.nan.sortPlace :=
      Binary64.sortPlace_signed_lt _ _
    rw [sortPlace_ofInt] at hlt
    exact ⟨nofun, fun h => absurd h (Int.ne_of_lt hlt)⟩
  | .signed negative code hle => by
    unfold Binary64.same Binary64.compare?
    rw [Binary64.place?_ofInt]
    show (some (compare (Binary64.integerPlace n.toInt) _) == some Ordering.eq) = true ↔ _
    rw [beq_iff_eq, Option.some_inj, Int.compare_eq_eq]
    rfl

/-- Three numbers are in order when none of them stands between two integers rounded to it. -/
theorem sortOrder_trans_of_number {a b c : Value} (ha : a.rank = 1) (hb : b.rank = 1)
    (hc : c.rank = 1) (hab : a.sortOrder b ≠ .gt) (hbc : b.sortOrder c ≠ .gt)
    (h : ¬ Straddles a b c) : a.sortOrder c ≠ .gt := by
  have hplaces := numberPlace_le_of_sortOrder ha hb hab
  have hplaces' := numberPlace_le_of_sortOrder hb hc hbc
  rcases exists_of_rank_eq_one ha with ⟨m, rfl⟩ | hfloat
  · rcases exists_of_rank_eq_one hc with ⟨n, rfl⟩ | hfloat
    · rw [sortOrder_integer_ne_gt]
      rcases exists_of_rank_eq_one hb with ⟨k, rfl⟩ | ⟨x, rfl⟩
      · exact Int.le_trans (sortOrder_integer_ne_gt.mp hab) (sortOrder_integer_ne_gt.mp hbc)
      · -- If the integers were not in order, rounding would bring them together at the number.
        refine Int.not_lt.mp fun hlt => h ?_
        have hmono := numberPlace_mono (Int.le_of_lt hlt)
        refine ⟨Int64.lt_iff_toInt_lt.mpr hlt, ?_, ?_⟩
        · rw [same_ofInt_iff]
          omega
        · rw [same_ofInt_iff]
          omega
    · rw [sortOrder_number_ne_gt ha hc (.inr hfloat)]
      exact Int.le_trans hplaces hplaces'
  · rw [sortOrder_number_ne_gt ha hc (.inl hfloat)]
    exact Int.le_trans hplaces hplaces'

theorem compare_ne_gt_trans {α : Type} [Ord α] [Std.TransOrd α] {x y z : α}
    (hxy : compare x y ≠ .gt) (hyz : compare y z ≠ .gt) : compare x z ≠ .gt := by
  have h : (compare x z).isLE = true := Std.TransCmp.isLE_trans (Ordering.isLE_iff_ne_gt.mpr hxy)
    (Ordering.isLE_iff_ne_gt.mpr hyz)
  exact Ordering.isLE_iff_ne_gt.mp h

/-- Three values are in order unless they straddle. -/
theorem sortOrder_trans_of_not_straddles {a b c : Value} (hab : a.sortOrder b ≠ .gt)
    (hbc : b.sortOrder c ≠ .gt) (h : ¬ Straddles a b c) : a.sortOrder c ≠ .gt := by
  have hrank := rank_le_of_sortOrder hab
  have hrank' := rank_le_of_sortOrder hbc
  by_cases hne : a.rank = c.rank
  · have hb : a.rank = b.rank := by omega
    cases b with
    | boolean b =>
      cases a <;> cases c <;> simp [rank] at hne hb
      exact compare_ne_gt_trans hab hbc
    | string s =>
      cases a <;> cases c <;> simp [rank] at hne hb
      exact compare_ne_gt_trans hab hbc
    | integer _ | float _ =>
      exact sortOrder_trans_of_number hb rfl (hne.symm.trans hb) hab hbc h
  · rw [sortOrder_of_rank_ne hne, Nat.compare_eq_lt.mpr (by omega)]
    exact nofun

/-- Values that straddle are not in order. -/
theorem not_sortOrder_trans_of_straddles : ∀ {a b c : Value}, Straddles a b c →
    a.sortOrder b ≠ .gt ∧ b.sortOrder c ≠ .gt ∧ a.sortOrder c = .gt
  | integer m, float x, integer n, ⟨hlt, hm, hn⟩ => by
    rw [same_ofInt_iff] at hm hn
    refine ⟨?_, ?_, Int.compare_eq_gt.mpr (Int64.lt_iff_toInt_lt.mp hlt)⟩
    · rw [sortOrder_number_ne_gt rfl rfl (.inr ⟨x, rfl⟩)]
      exact Int.le_of_eq hm
    · rw [sortOrder_number_ne_gt rfl rfl (.inl ⟨x, rfl⟩)]
      exact Int.le_of_eq hn.symm

/-- **How far the order for sorting is a total preorder.** Every value is as great as itself, swapping
two values swaps their order, and three values are in order exactly when they are not two integers
around a floating-point number that both are rounded to, the greater one first. -/
theorem sortOrder_preorder_iff_not_straddles (a b c : Value) :
    a.sortOrder a = .eq ∧ b.sortOrder a = (a.sortOrder b).swap ∧
      ((a.sortOrder b ≠ .gt → b.sortOrder c ≠ .gt → a.sortOrder c ≠ .gt) ↔ ¬ Straddles a b c) := by
  refine ⟨sortOrder_self a, sortOrder_swap a b, fun htrans hstraddles => ?_, fun h hab hbc =>
    sortOrder_trans_of_not_straddles hab hbc h⟩
  obtain ⟨hab, hbc, hac⟩ := not_sortOrder_trans_of_straddles hstraddles
  exact htrans hab hbc hac

/-- The integers around 2 ^ 53 are not in order through the floating-point number 2 ^ 53: the one
behind it is rounded to it. -/
theorem not_sortOrder_trans_around_two_pow :
    let a := integer 9007199254740993
    let b := float (.signed false 0x4340000000000000 (by decide))
    let c := integer 9007199254740992
    ¬ (a.sortOrder b ≠ .gt → b.sortOrder c ≠ .gt → a.sortOrder c ≠ .gt) := by
  intro a b c htrans
  have hab : a.sortOrder b = .eq := by decide +kernel
  have hbc : b.sortOrder c = .eq := by decide +kernel
  have hac : a.sortOrder c = .gt := by decide +kernel
  refine htrans ?_ ?_ hac
  · rw [hab]
    exact nofun
  · rw [hbc]
    exact nofun

end Value

end Sift
