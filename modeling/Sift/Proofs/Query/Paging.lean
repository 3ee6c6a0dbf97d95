/-
# Paging through a query

The pages of one size that begin at zero, one size, two sizes and so on cut what a query finds into
consecutive parts. A page says that there are more elements exactly when it is not the last one, also
if the last page is full and if nothing is found. So whoever asks for one page after another, until a
page says that there are no more, gets every element once and in order.

A window that does not begin some time ago selects the same records at all times, so the pages need
not be asked for at the same time.

Key definitions: `Page.nth`, `Page.lastNumber`.
Key theorems: `Page.flatMap_cut_nth`, `Page.hasMore_nth`, `Query.run_nth`, `Query.run_pages`.
-/
import Sift.Proofs.Query.Pipeline

namespace Sift

/-! ### The pages of a list -/

namespace Page

/-- The page with a number, counted from zero, of pages with so many elements each. -/
def nth (size number : Nat) : Page := ⟨size, number * size⟩

/-- The number of the last page of a list with so many elements; an empty list has one page. -/
def lastNumber (size total : Nat) : Nat := (total - 1) / size

theorem cut_zero {α : Type} (xs : List α) : cut ⟨0, 0⟩ xs = xs := by
  simp [cut]

theorem cut_nth {α : Type} {size : Nat} (hsize : 0 < size) (number : Nat) (xs : List α) :
    (nth size number).cut xs = (xs.drop (number * size)).take size := by
  have hne : size ≠ 0 := by omega
  simp [cut, nth, hne]

/-- The first pages of a list are its first elements. -/
theorem flatMap_cut_nth {α : Type} {size : Nat} (hsize : 0 < size) (xs : List α) (count : Nat) :
    (List.range count).flatMap (fun number => (nth size number).cut xs) = xs.take (count * size) := by
  induction count with
  | zero => simp
  | succ count ih =>
    calc (List.range (count + 1)).flatMap (fun number => (nth size number).cut xs)
        = xs.take (count * size) ++ (nth size count).cut xs := by
          rw [List.range_succ, List.flatMap_append, ih, List.flatMap_singleton]
      _ = xs.take (count * size) ++ (xs.drop (count * size)).take size := by rw [cut_nth hsize]
      _ = xs.take ((count + 1) * size) := by rw [Nat.succ_mul, List.take_add]

theorem total_le_mul_size {size : Nat} (hsize : 0 < size) (total : Nat) :
    total ≤ (lastNumber size total + 1) * size := by
  have hdiv := Nat.div_add_mod (total - 1) size
  have hmod := Nat.mod_lt (total - 1) hsize
  unfold lastNumber
  rw [Nat.succ_mul, Nat.mul_comm]
  omega

/-- A page says that there are more elements exactly when it comes before the last one. -/
theorem hasMore_nth {size : Nat} (hsize : 0 < size) (number total : Nat) :
    ((nth size number).summary total).hasMore = true ↔ number < lastNumber size total := by
  have hmore : ((nth size number).summary total).hasMore = true ↔ (number + 1) * size < total := by
    show (decide (0 < size) && decide (number * size + size < total)) = true ↔ _
    rw [Nat.succ_mul, Bool.and_eq_true, decide_eq_true_iff, decide_eq_true_iff]
    exact and_iff_right hsize
  have hlast : number < lastNumber size total ↔ (number + 1) * size ≤ total - 1 := by
    unfold lastNumber
    rw [Nat.lt_iff_add_one_le, Nat.le_div_iff_mul_le hsize]
  have hpos : 0 < (number + 1) * size := Nat.mul_pos (Nat.succ_pos number) hsize
  rw [hmore, hlast]
  omega

end Page

/-! ### The pages of a query -/

/-- A window that does not begin some time ago does not depend on the time. -/
theorem TimeWindow.select_congr_now {window : TimeWindow} (h : window.since = none)
    (now now' : Instant) (records : List Record) :
    window.select now records = window.select now' records := by
  unfold select start
  rw [h]

namespace Query

theorem run_congr_now (query : Query) (h : query.window.since = none) (now now' : Instant)
    (records : List Record) : query.run now records = query.run now' records := by
  have hselect := TimeWindow.select_congr_now h now now' records
  unfold run inWindow
  rw [hselect]

/-- A query with a page gives that page of what it finds without one. -/
theorem run_page (query : Query) (page : Page) (now : Instant) (records : List Record) :
    run { query with page } now records =
      (run { query with page := ⟨0, 0⟩ } now records).map fun unpaged =>
        ⟨page.cut unpaged.records, page.summary unpaged.records.length⟩ := by
  rw [run_eq, run_eq]
  unfold listRun
  show (query.matched now records).bind _ = ((query.matched now records).bind _).map _
  cases query.matched now records with
  | error e => rfl
  | ok matched =>
    have hcut : Page.cut ⟨0, 0⟩ (query.arrange Record.sort matched) =
        query.arrange Record.sort matched := Page.cut_zero _
    show Except.ok (QueryResult.mk (page.cut (query.arrange Record.sort matched))
        (page.summary (query.arrange Record.sort matched).length)) =
      Except.ok ⟨page.cut (Page.cut ⟨0, 0⟩ (query.arrange Record.sort matched)),
        page.summary (Page.cut ⟨0, 0⟩ (query.arrange Record.sort matched)).length⟩
    rw [hcut]

/-- If a query finds something without a page, it also does with each of its pages, at any time. -/
theorem run_nth {query : Query} {now : Instant} {records : List Record} {unpaged : QueryResult}
    (hsince : query.window.since = none)
    (hrun : run { query with page := ⟨0, 0⟩ } now records = .ok unpaged)
    (size number : Nat) (later : Instant) :
    run { query with page := .nth size number } later records =
      .ok ⟨(Page.nth size number).cut unpaged.records,
        (Page.nth size number).summary unpaged.records.length⟩ := by
  have hlater : run { query with page := ⟨0, 0⟩ } later records = .ok unpaged := by
    rw [← hrun]
    exact run_congr_now { query with page := ⟨0, 0⟩ } hsince later now records
  rw [run_page, hlater]
  rfl

/-- **Paging visits every match once, in order.** If a query whose window does not begin some time ago
finds something without a page, then it gives each of its pages of one size, whenever it is asked for
them. Every page reports the number of all matches, the pages before some last one say that there are
more, the last one and those behind it say that there are none, and the pages up to the last one make
up the matches. -/
theorem run_pages {query : Query} {now : Instant} {records : List Record}
    {unpaged : QueryResult} (hsince : query.window.since = none)
    (hrun : run { query with page := ⟨0, 0⟩ } now records = .ok unpaged)
    {size : Nat} (hsize : 0 < size) (clock : Nat → Instant) :
    ∃ (pages : Nat → QueryResult) (last : Nat),
      (∀ i, run { query with page := ⟨size, i * size⟩ } (clock i) records = .ok (pages i)) ∧
      (∀ i, (pages i).page.total = unpaged.records.length) ∧
      (∀ i, (pages i).page.hasMore = true ↔ i < last) ∧
      (List.range (last + 1)).flatMap (fun i => (pages i).records) = unpaged.records := by
  have htotal := Page.total_le_mul_size hsize unpaged.records.length
  refine ⟨fun i => ⟨(Page.nth size i).cut unpaged.records,
    (Page.nth size i).summary unpaged.records.length⟩,
    Page.lastNumber size unpaged.records.length, ?_, ?_, ?_, ?_⟩
  · intro i
    exact run_nth hsince hrun size i (clock i)
  · intro i
    rfl
  · intro i
    exact Page.hasMore_nth hsize i unpaged.records.length
  · rw [Page.flatMap_cut_nth hsize, List.take_of_length_le htotal]

/-- Four records on pages of two: the second page is full and the last one. -/
theorem run_pages_of_four :
    let record (n : Int64) := Record.ofList [("n", .integer n)]
    let records := [record 3, record 1, record 4, record 1, record 5]
    let query : Query := { window := { lastCount := 4 }, sortFields := ["n"], isReversed := true }
    let unpaged : QueryResult :=
      ⟨[record 5, record 4, record 1, record 1], Page.summary ⟨0, 0⟩ 4⟩
    let clock (i : Nat) : Instant := ⟨i, 0⟩
    query.window.since = none ∧
      run { query with page := ⟨0, 0⟩ } (clock 0) records = .ok unpaged ∧ 0 < 2 ∧
      ∃ (pages : Nat → QueryResult) (last : Nat),
        (∀ i, run { query with page := ⟨2, i * 2⟩ } (clock i) records = .ok (pages i)) ∧
        (∀ i, (pages i).page.total = unpaged.records.length) ∧
        (∀ i, (pages i).page.hasMore = true ↔ i < last) ∧
        (List.range (last + 1)).flatMap (fun i => (pages i).records) = unpaged.records := by
  intro record records query unpaged clock
  have hrun : run { query with page := ⟨0, 0⟩ } (clock 0) records = .ok unpaged := by
    rw [run_eq]
    rfl
  exact ⟨rfl, hrun, Nat.two_pos, run_pages rfl hrun Nat.two_pos clock⟩

end Query

end Sift
