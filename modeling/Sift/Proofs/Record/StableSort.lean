/-
# Stable sorting

When the order is total and transitive, elements that compare equal being as good as one another,
sorting puts a list in increasing order and leaves those that compare equal as they were. There is only
one such list: its first element is as great as that of any other one, and among the elements as great
as it both take the one that came first.

So an order that is transitive on the elements of a list says what a stable sort of the list is, and it
does not matter which one is used. Any other order says nothing about it.

Key definitions: `StablySorted`, `TransitiveOn`.
Key theorems: `map_sortBy`, `stablySorted_sortBy`, `StablySorted.unique`, `sortBy_eq_mergeSort`.
-/
import Sift.Record.Sort

namespace Sift

variable {α : Type} {order order' : α → α → Ordering} {x y : α} {xs ys zs : List α}

/-- A list has the elements of another one in increasing order, and those that compare equal in the
order in which they are there. -/
structure StablySorted (order : α → α → Ordering) (xs ys : List α) : Prop where
  perm : ys.Perm xs
  ordered : ys.Pairwise fun x y => order x y ≠ .gt
  stable : ∀ x, ys.filter (fun y => order x y = .eq) = xs.filter (fun y => order x y = .eq)

/-- Whether an order is transitive on the elements of a list. -/
def TransitiveOn (order : α → α → Ordering) (xs : List α) : Prop :=
  ∀ x ∈ xs, ∀ y ∈ xs, ∀ z ∈ xs, order x y ≠ .gt → order y z ≠ .gt → order x z ≠ .gt

instance : Decidable (TransitiveOn order xs) :=
  inferInstanceAs (Decidable (∀ x ∈ xs, ∀ y ∈ xs, ∀ z ∈ xs,
    order x y ≠ .gt → order y z ≠ .gt → order x z ≠ .gt))

/-! ### Orders that agree -/

section

variable {β : Type} {f : α → β} {target : β → β → Ordering}

theorem map_insertFromEnd (h : ∀ y ∈ ys, order x y = target (f x) (f y)) :
    (insertFromEnd order x ys).map f = insertFromEnd target (f x) (ys.map f) := by
  induction ys with
  | nil => rfl
  | cons y ys ih =>
    obtain ⟨hy, hys⟩ := List.forall_mem_cons.mp h
    simp only [insertFromEnd, List.map_cons, ← hy]
    split
    · rw [List.map_cons, ih hys]
    · rfl

/-- Elements that compare as what they are mapped to are sorted in the same way. -/
theorem map_sortBy (h : ∀ x ∈ xs, ∀ y ∈ xs, order x y = target (f x) (f y)) :
    (sortBy order xs).map f = sortBy target (xs.map f) := by
  suffices ∀ front sorted, front ⊆ xs → sorted ⊆ xs →
      (front.foldl (fun sorted x => insertFromEnd order x sorted) sorted).map f =
        (front.map f).foldl (fun sorted y => insertFromEnd target y sorted) (sorted.map f) by
    rw [sortBy, List.map_reverse, this xs [] (List.Subset.refl xs) (List.nil_subset xs)]
    rfl
  intro front
  induction front with
  | nil => exact fun _ _ _ => rfl
  | cons x front ih =>
    intro sorted hfront hsorted
    obtain ⟨hx, hfront⟩ := List.cons_subset.mp hfront
    have hinsert : (insertFromEnd order x sorted).map f = insertFromEnd target (f x) (sorted.map f) :=
      map_insertFromEnd fun y hy => h x hx y (hsorted hy)
    rw [List.foldl_cons, List.map_cons, List.foldl_cons, ← hinsert]
    refine ih _ hfront fun y hy => ?_
    rcases List.mem_cons.mp ((insertFromEnd_perm order x sorted).subset hy) with rfl | hy
    · exact hx
    · exact hsorted hy

end

/-- Sorting only depends on how the elements of the list compare with one another. -/
theorem sortBy_congr (h : ∀ x ∈ xs, ∀ y ∈ xs, order x y = order' x y) :
    sortBy order xs = sortBy order' xs := by
  have hmap : (sortBy order xs).map id = sortBy order' (xs.map id) := map_sortBy h
  rwa [List.map_id, List.map_id] at hmap

/-! ### Sorting is stable -/

theorem order_ne_gt_trans [Std.TransCmp order] {z : α} (hxy : order x y ≠ .gt)
    (hyz : order y z ≠ .gt) : order x z ≠ .gt := by
  have hle : (order x z).isLE = true := Std.TransCmp.isLE_trans (Ordering.isLE_iff_ne_gt.mpr hxy)
    (Ordering.isLE_iff_ne_gt.mpr hyz)
  exact Ordering.isLE_iff_ne_gt.mp hle

/-- Elements as great as one element are as great as each other. -/
theorem order_eq_of_eq_of_eq [Std.TransCmp order] {z : α} (hy : order x y = .eq)
    (hz : order x z = .eq) : order y z = .eq :=
  Std.TransCmp.eq_trans (Std.OrientedCmp.eq_comm.mp hy) hz

/-- Inserting an element puts it behind those that it compares equal with. -/
theorem filter_insertFromEnd [Std.TransCmp order] (x w : α) (ys : List α) :
    (insertFromEnd order x ys).filter (fun y => order w y = .eq) =
      (x :: ys).filter (fun y => order w y = .eq) := by
  induction ys with
  | nil => rfl
  | cons y ys ih =>
    unfold insertFromEnd
    by_cases hlt : order x y = .lt
    · rw [if_pos hlt, List.filter_cons, ih]
      by_cases hx : order w x = .eq
      · have hy : order w y ≠ .eq := fun hy => by
          rw [order_eq_of_eq_of_eq hx hy] at hlt
          cases hlt
        simp [hx, hy]
      · simp [List.filter_cons, hx]
    · rw [if_neg hlt]

/-- Inserting an element keeps a list in decreasing order. -/
theorem pairwise_insertFromEnd [Std.TransCmp order] (x : α)
    (h : ys.Pairwise fun a b => order b a ≠ .gt) :
    (insertFromEnd order x ys).Pairwise fun a b => order b a ≠ .gt := by
  induction h with
  | nil => exact List.pairwise_singleton _ x
  | @cons y ys hy hys ih =>
    unfold insertFromEnd
    by_cases hlt : order x y = .lt
    · rw [if_pos hlt]
      refine List.pairwise_cons.mpr ⟨fun z hz => ?_, ih⟩
      rcases List.mem_cons.mp ((insertFromEnd_perm order x ys).subset hz) with rfl | hz
      · rw [hlt]
        decide
      · exact hy z hz
    · have hyx : order y x ≠ .gt := fun hgt => hlt (Std.OrientedCmp.lt_of_gt hgt)
      rw [if_neg hlt]
      refine List.pairwise_cons.mpr ⟨fun z hz => ?_, List.pairwise_cons.mpr ⟨hy, hys⟩⟩
      rcases List.mem_cons.mp hz with rfl | hz
      · exact hyx
      · exact order_ne_gt_trans (hy z hz) hyx

theorem stablySorted_sortBy [Std.TransCmp order] (xs : List α) :
    StablySorted order xs (sortBy order xs) := by
  have hfold : ∀ front sorted : List α, (sorted.Pairwise fun a b => order b a ≠ .gt) →
      ((front.foldl (fun sorted x => insertFromEnd order x sorted) sorted).Pairwise
        fun a b => order b a ≠ .gt) ∧
      ∀ w, (front.foldl (fun sorted x => insertFromEnd order x sorted) sorted).filter
        (fun y => order w y = .eq) =
          (front.reverse ++ sorted).filter (fun y => order w y = .eq) := by
    intro front
    induction front with
    | nil => exact fun sorted h => ⟨h, fun _ => rfl⟩
    | cons x front ih =>
      intro sorted h
      obtain ⟨hordered, hstable⟩ := ih _ (pairwise_insertFromEnd x h)
      refine ⟨hordered, fun w => ?_⟩
      rw [List.foldl_cons, hstable w, List.filter_append, filter_insertFromEnd,
        ← List.filter_append, List.reverse_cons, List.append_assoc, List.singleton_append]
  obtain ⟨hordered, hstable⟩ := hfold xs [] .nil
  refine ⟨sortBy_perm order xs, List.pairwise_reverse.mpr hordered, fun w => ?_⟩
  rw [sortBy, List.filter_reverse, hstable w, List.append_nil, List.filter_reverse,
    List.reverse_reverse]

/-! ### There is one such list -/

theorem filter_cons_of_order_eq (ys : List α) (h : order x y = .eq) :
    (y :: ys).filter (fun z => order x z = .eq) = y :: ys.filter (fun z => order x z = .eq) :=
  List.filter_cons_of_pos (decide_eq_true h)

theorem filter_cons_of_order_ne (ys : List α) (h : order x y ≠ .eq) :
    (y :: ys).filter (fun z => order x z = .eq) = ys.filter (fun z => order x z = .eq) :=
  List.filter_cons_of_neg (by simpa using h)

/-- Lists in increasing order agree when they have the same elements and agree on those that are as
great as any one element. -/
theorem eq_of_filter_eq [Std.TransCmp order] (hys : ys.Pairwise fun a b => order a b ≠ .gt)
    (hzs : zs.Pairwise fun a b => order a b ≠ .gt) (hperm : ys.Perm zs)
    (h : ∀ x, ys.filter (fun y => order x y = .eq) = zs.filter (fun y => order x y = .eq)) :
    ys = zs := by
  induction ys generalizing zs with
  | nil => exact hperm.nil_eq
  | cons y ys ih =>
    cases zs with
    | nil => exact hperm.eq_nil
    | cons z zs =>
      obtain ⟨hy, hys'⟩ := List.pairwise_cons.mp hys
      obtain ⟨hz, hzs'⟩ := List.pairwise_cons.mp hzs
      have hyz : order y z ≠ .gt := by
        rcases List.mem_cons.mp (hperm.symm.subset List.mem_cons_self) with rfl | hmem
        · rw [show order z z = .eq from Std.ReflCmp.compare_self]
          decide
        · exact hy z hmem
      have hzy : order z y ≠ .gt := by
        rcases List.mem_cons.mp (hperm.subset List.mem_cons_self) with rfl | hmem
        · rw [show order y y = .eq from Std.ReflCmp.compare_self]
          decide
        · exact hz y hmem
      have heq : order y z = .eq := by
        rcases horder : order y z with _ | _ | _
        · exact absurd (Std.OrientedCmp.gt_of_lt horder) hzy
        · rfl
        · exact absurd horder hyz
      -- The first elements are the first ones that are as great as `y`.
      have hheads := h y
      rw [filter_cons_of_order_eq ys Std.ReflCmp.compare_self, filter_cons_of_order_eq zs heq]
        at hheads
      obtain rfl : y = z := List.head_eq_of_cons_eq hheads
      have htails : ys = zs := ih hys' hzs' (List.Perm.cons_inv hperm) fun x => by
        have hx := h x
        by_cases hxy : order x y = .eq
        · rw [filter_cons_of_order_eq ys hxy, filter_cons_of_order_eq zs hxy] at hx
          exact List.tail_eq_of_cons_eq hx
        · rw [filter_cons_of_order_ne ys hxy, filter_cons_of_order_ne zs hxy] at hx
          exact hx
      rw [htails]

theorem StablySorted.unique [Std.TransCmp order] (hys : StablySorted order xs ys)
    (hzs : StablySorted order xs zs) : ys = zs :=
  eq_of_filter_eq hys.ordered hzs.ordered (hys.perm.trans hzs.perm.symm) fun x =>
    (hys.stable x).trans (hzs.stable x).symm

/-! ### Any stable sort -/

theorem stablySorted_mergeSort [Std.TransCmp order] (xs : List α) :
    StablySorted order xs (xs.mergeSort fun x y => (order x y).isLE) := by
  have htrans : ∀ x y z, (order x y).isLE = true → (order y z).isLE = true →
      (order x z).isLE = true := fun _ _ _ => Std.TransCmp.isLE_trans
  have htotal : ∀ x y, ((order x y).isLE || (order y x).isLE) = true := fun x y => by
    rw [show order y x = (order x y).swap from Std.OrientedCmp.eq_swap]
    cases order x y <;> rfl
  have hperm := List.mergeSort_perm xs fun x y => (order x y).isLE
  refine ⟨hperm, ?_, fun x => ?_⟩
  · exact (List.pairwise_mergeSort htrans htotal xs).imp Ordering.isLE_iff_ne_gt.mp
  · -- Elements as great as `x` are in order as they come, and a stable sort leaves them so.
    have hpairwise : (xs.filter fun y => order x y = .eq).Pairwise fun y z =>
        (order y z).isLE = true := by
      refine List.pairwise_of_forall_mem_list fun y hy z hz => ?_
      have heq : order y z = .eq := order_eq_of_eq_of_eq
        (of_decide_eq_true (List.mem_filter.mp hy).2) (of_decide_eq_true (List.mem_filter.mp hz).2)
      rw [heq]
      rfl
    have hsublist := (List.sublist_mergeSort htrans htotal hpairwise List.filter_sublist).filter
      fun y => order x y = .eq
    rw [List.filter_filter] at hsublist
    simp only [Bool.and_self] at hsublist
    exact (hsublist.eq_of_length (hperm.filter _).length_eq.symm).symm

/-- On the type of the elements alone, an order that is transitive on them is so without exceptions. -/
theorem transCmp_of_transitiveOn (hswap : ∀ x y, order x y = (order y x).swap)
    (htrans : TransitiveOn order xs) :
    Std.TransCmp fun x y : { x // x ∈ xs } => order x.val y.val where
  eq_swap := hswap _ _
  isLE_trans {x y z} hxy hyz := Ordering.isLE_iff_ne_gt.mpr
    (htrans x.val x.property y.val y.property z.val z.property
      (Ordering.isLE_iff_ne_gt.mp hxy) (Ordering.isLE_iff_ne_gt.mp hyz))

/-- Two orders one after the other are transitive where each of them is. -/
theorem transitiveOn_compareLex (hswap : ∀ x y, order x y = (order y x).swap)
    (hswap' : ∀ x y, order' x y = (order' y x).swap) (htrans : TransitiveOn order xs)
    (htrans' : TransitiveOn order' xs) : TransitiveOn (compareLex order order') xs := by
  intro x hx y hy z hz
  have := transCmp_of_transitiveOn hswap htrans
  have := transCmp_of_transitiveOn hswap' htrans'
  have hlex : Std.TransCmp (compareLex (fun x y : { x // x ∈ xs } => order x.val y.val)
      fun x y => order' x.val y.val) := inferInstance
  exact @order_ne_gt_trans _ _ ⟨x, hx⟩ ⟨y, hy⟩ hlex ⟨z, hz⟩

/-- Where an order is transitive on the elements of a list, it says how to sort them: the list is what
another stable sort makes of it, too. -/
theorem sortBy_eq_mergeSort (hswap : ∀ x y, order x y = (order y x).swap)
    (htrans : TransitiveOn order xs) :
    sortBy order xs = xs.mergeSort fun x y => (order x y).isLE := by
  let onElements (x y : { x // x ∈ xs }) : Ordering := order x.val y.val
  have : Std.TransCmp onElements := transCmp_of_transitiveOn hswap htrans
  have hsort : sortBy onElements xs.attach = xs.attach.mergeSort fun x y => (onElements x y).isLE :=
    (stablySorted_sortBy _).unique (stablySorted_mergeSort _)
  have hmap : (sortBy onElements xs.attach).map Subtype.val =
      sortBy order (xs.attach.map Subtype.val) := map_sortBy fun _ _ _ _ => rfl
  calc sortBy order xs
      = (sortBy onElements xs.attach).map Subtype.val := by
        rw [hmap, List.attach_map_subtype_val]
    _ = (xs.attach.mergeSort fun x y => (onElements x y).isLE).map Subtype.val := by rw [hsort]
    _ = xs.mergeSort fun x y => (order x y).isLE := by
        rw [List.map_mergeSort (s := fun x y => (order x y).isLE) fun _ _ _ _ => rfl,
          List.attach_map_subtype_val]

end Sift
