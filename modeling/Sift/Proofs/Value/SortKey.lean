/-
# What values are sorted by

A value is sorted by its type first and then by what it stands for: a truth value, a number, a text by
its bytes. An absent value comes before all others; what is no number comes after the numbers. Numbers
of both types stand for what they are, counted in units of 2 ^ -1074, so this order is total and
transitive without exceptions.

The order for sorting is this one wherever an integer that meets a floating-point number has a
magnitude up to 2 ^ 53. Beyond it the integer is rounded before it is compared.

Key definitions: `SortKey`, `SortKey.order`, `Value.sortKey`, `Value.Exact`.
Key theorem: `Value.sortOrder_eq_order`.
-/
import Sift.Proofs.Binary64.Exact
import Sift.Proofs.Text.ByteOrder
import Sift.Proofs.Value.SortOrder

namespace Sift

/-- What a value is sorted by, or its absence. -/
inductive SortKey where
  | absent
  | boolean (value : Bool)
  | number (units : Int)
  | notNumber
  | string (bytes : List UInt8)

namespace SortKey

/-- The place of a kind of key among the kinds. -/
def kind : SortKey → Nat
  | absent => 0
  | boolean _ => 1
  | number _ => 2
  | notNumber => 3
  | string _ => 4

/-- Keys of one kind are ordered by what they hold, others by their kinds. -/
def order : SortKey → SortKey → Ordering
  | boolean a, boolean b => compare a b
  | number a, number b => compare a b
  | string a, string b => compare a b
  | a, b => compare a.kind b.kind

def truth : SortKey → Bool
  | boolean value => value
  | _ => false

def units : SortKey → Int
  | number units => units
  | _ => 0

def bytes : SortKey → List UInt8
  | string bytes => bytes
  | _ => []

/-- The order of keys is lexicographic in all that a key may hold, which is the same for all keys of
a kind that does not hold it. -/
theorem order_eq_compareLex : ∀ a b : SortKey, a.order b =
    compareLex (compareOn kind) (compareLex (compareOn truth) (compareLex (compareOn units)
      (compareOn bytes))) a b := by
  intro a b
  cases a <;> cases b <;>
    first
    | rfl
    | simp [order, compareLex, compareOn, kind, truth, units, bytes]

instance : Std.TransCmp order := by
  rw [funext fun a => funext (order_eq_compareLex a)]
  infer_instance

end SortKey

namespace Value

/-- What a value is sorted by. -/
def sortKey : Value → SortKey
  | boolean value => .boolean value
  | integer n => .number (n.toInt * Binary64.unitsPerOne)
  | float .nan => .notNumber
  | float (.signed negative code _) => .number (Binary64.signedUnits negative code)
  | string s => .string s.toUTF8.toList

/-- Whether an integer that meets a floating-point number among two values is not rounded. -/
def Exact : Value → Value → Prop
  | integer n, float _ => n.toInt.natAbs ≤ 0x20000000000000
  | float _, integer n => n.toInt.natAbs ≤ 0x20000000000000
  | _, _ => True

theorem absent_order_sortKey : ∀ value : Value, SortKey.absent.order value.sortKey = .lt
  | boolean _ | integer _ | string _ | float .nan | float (.signed ..) => rfl

theorem sortKey_order_absent : ∀ value : Value, value.sortKey.order .absent = .gt
  | boolean _ | integer _ | string _ | float .nan | float (.signed ..) => rfl

theorem sortKey_ofInt {n : Int} (h : n.natAbs ≤ 0x20000000000000) :
    (float (Binary64.ofInt n)).sortKey = .number (n * Binary64.unitsPerOne) :=
  congrArg SortKey.number (Binary64.signedUnits_roundCode h)

theorem numberOrder_eq_order : ∀ x y : Binary64,
    numberOrder x y = (float x).sortKey.order (float y).sortKey
  | .nan, .nan => rfl
  | .nan, .signed .. => rfl
  | .signed .., .nan => rfl
  | .signed s a _, .signed t b _ => (Binary64.compare_signedUnits s t a b).symm

theorem compare_mul_unitsPerOne (m n : Int) :
    compare m n = compare (m * Binary64.unitsPerOne) (n * Binary64.unitsPerOne) := by
  have hpos : (0 : Int) < Binary64.unitsPerOne := Int.natCast_pos.mpr Binary64.unitsPerOne_pos
  have hlt : ∀ i j : Int, i < j ↔ i * Binary64.unitsPerOne < j * Binary64.unitsPerOne :=
    fun i j => (Int.mul_lt_mul_right hpos).symm
  exact Binary64.compare_eq_of_lt_iff (hlt m n) (hlt n m)

/-- **Where no integer is rounded, values are sorted by what they stand for.** -/
theorem sortOrder_eq_order : ∀ {a b : Value}, Exact a b →
    a.sortOrder b = a.sortKey.order b.sortKey
  | boolean _, boolean _, _ => rfl
  | integer m, integer n, _ => compare_mul_unitsPerOne m.toInt n.toInt
  | integer _, float y, h =>
    (numberOrder_eq_order _ y).trans (congrArg (SortKey.order · _) (sortKey_ofInt h))
  | float x, integer _, h =>
    (numberOrder_eq_order x _).trans (congrArg (SortKey.order _) (sortKey_ofInt h))
  | float x, float y, _ => numberOrder_eq_order x y
  | string s, string t, _ => Text.compare_eq_compare_toUTF8 s t
  | boolean _, integer _, _ => rfl
  | boolean _, string _, _ => rfl
  | integer _, boolean _, _ => rfl
  | integer _, string _, _ => rfl
  | string _, boolean _, _ => rfl
  | string _, integer _, _ => rfl
  | boolean _, float x, _ => by cases x <;> rfl
  | float x, boolean _, _ => by cases x <;> rfl
  | float x, string _, _ => by cases x <;> rfl
  | string _, float x, _ => by cases x <;> rfl

end Value

end Sift
