/-
# Pages and their summaries

A page of a list begins behind its offset and has as many elements as the limit and the rest of the
list allow. Its summary gives this number, and it says that there is more exactly when something
comes after the page. In words of 64 bits, with a sum that stops at the greatest word, a summary says
the same, whatever words the limit and the offset are; and on a list whose length is a word it is
about the records that the stage gives that counts in words.

Key definitions: `wordDifference`, `wordSum`, `WordPage.summary`.
Key theorems: `toNat_wordSum`, `WordPage.toSummary_summary`, `Page.exists_append_cut`,
`Page.hasMore_iff`, `WordPage.summary_describes_page`.
-/
import Sift.Proofs.Query.Pipeline
import Sift.Proofs.Stage.Counters

namespace Sift

/-! ### Sums that stop at the ends -/

/-- The difference of two words, or zero if it is negative. -/
def wordDifference (a b : UInt64) : UInt64 :=
  if b ≤ a then a - b else 0

/-- The sum of two words, or the greatest word if the sum is greater. -/
def wordSum (a b : UInt64) : UInt64 :=
  if b ≤ 0xffffffffffffffff - a then a + b else 0xffffffffffffffff

theorem toNat_wordDifference (a b : UInt64) : (wordDifference a b).toNat = a.toNat - b.toNat := by
  unfold wordDifference
  split
  next h => exact UInt64.toNat_sub_of_le a b h
  next h =>
    have hlt : a.toNat < b.toNat := UInt64.lt_iff_toNat_lt.mp (UInt64.not_le.mp h)
    show 0 = a.toNat - b.toNat
    omega

theorem toNat_wordSum (a b : UInt64) :
    (wordSum a b).toNat = min (a.toNat + b.toNat) 0xffffffffffffffff := by
  have ha := a.toNat_lt
  have hroom : (0xffffffffffffffff - a).toNat = 0xffffffffffffffff - a.toNat := by
    refine UInt64.toNat_sub_of_le _ _ (UInt64.le_iff_toNat_le.mpr ?_)
    show a.toNat ≤ 0xffffffffffffffff
    omega
  unfold wordSum
  split
  next h =>
    have hle := UInt64.le_iff_toNat_le.mp h
    rw [UInt64.toNat_add]
    omega
  next h =>
    have hlt := UInt64.lt_iff_toNat_lt.mp (UInt64.not_le.mp h)
    show 0xffffffffffffffff = _
    omega

/-! ### Summaries -/

/-- A summary in words. -/
structure WordSummary where
  total : UInt64
  returned : UInt64
  offset : UInt64
  limit : UInt64
  hasMore : Bool

/-- The numbers of a summary. -/
def WordSummary.toSummary (summary : WordSummary) : PageSummary where
  total := summary.total.toNat
  returned := summary.returned.toNat
  offset := summary.offset.toNat
  limit := summary.limit.toNat
  hasMore := summary.hasMore

namespace WordPage

/-- The summary of a page of so many elements. -/
def summary (page : WordPage) (total : UInt64) : WordSummary :=
  let rest := wordDifference total page.offset
  { total
    returned := if 0 < page.limit then min rest page.limit else rest
    offset := page.offset
    limit := page.limit
    hasMore := 0 < page.limit && wordSum page.offset page.limit < total }

theorem limit_pos_iff (page : WordPage) : 0 < page.limit ↔ page.toPage.limit ≠ 0 :=
  UInt64.lt_iff_toNat_lt.trans Nat.pos_iff_ne_zero

/-- A sum that stops at the greatest word is below a word exactly when the sum itself is. -/
theorem wordSum_lt_iff (a b total : UInt64) :
    wordSum a b < total ↔ a.toNat + b.toNat < total.toNat := by
  have htotal := total.toNat_lt
  rw [UInt64.lt_iff_toNat_lt, toNat_wordSum]
  omega

/-- **A summary in words is that of the numbers.** -/
theorem toSummary_summary (page : WordPage) (total : UInt64) :
    (page.summary total).toSummary = page.toPage.summary total.toNat := by
  have hpos := page.limit_pos_iff
  have hreturned : (page.summary total).returned.toNat =
      (page.toPage.summary total.toNat).returned := by
    show UInt64.toNat (if 0 < page.limit then min (wordDifference total page.offset) page.limit
      else wordDifference total page.offset) = if page.toPage.limit = 0 then _ else _
    by_cases hlimit : 0 < page.limit
    · rw [if_pos hlimit, if_neg (hpos.mp hlimit), UInt64.toNat_min, toNat_wordDifference]
      rfl
    · rw [if_neg hlimit, if_pos (not_not.mp (mt hpos.mpr hlimit)), toNat_wordDifference]
      rfl
  have hmore : (page.summary total).hasMore = (page.toPage.summary total.toNat).hasMore := by
    show (decide (0 < page.limit) && decide (wordSum page.offset page.limit < total)) = _
    rw [decide_eq_decide.mpr UInt64.lt_iff_toNat_lt, decide_eq_decide.mpr (wordSum_lt_iff _ _ _)]
    rfl
  show PageSummary.mk _ (page.summary total).returned.toNat _ _ (page.summary total).hasMore = _
  rw [hreturned, hmore]
  rfl

end WordPage

/-! ### Pages of lists -/

theorem Plan.toList_limit_values (page : Page) (records : List Record) :
    (limit page.limit page.offset (values records)).stage.toList = .ok (page.cut records) := by
  have hrecords := Query.recordsOf_limit_values page records
  unfold Query.recordsOf at hrecords
  cases hgiven : (limit page.limit page.offset (values records)).stage.toList with
  | error e =>
    rw [hgiven] at hrecords
    cases hrecords
  | ok given =>
    rw [hgiven] at hrecords
    obtain rfl : given = page.cut records := Except.ok.inj hrecords
    rfl

namespace Page

variable {α : Type}

theorem length_cut (page : Page) (xs : List α) :
    (page.cut xs).length = (page.summary xs.length).returned := by
  show (if page.limit = 0 then xs.drop page.offset
    else (xs.drop page.offset).take page.limit).length = if page.limit = 0 then _ else _
  split
  · exact List.length_drop
  · rw [List.length_take, List.length_drop, Nat.min_comm]

/-- There is more exactly when a page that begins within the list does not reach its end. -/
theorem hasMore_iff (page : Page) (total : Nat) :
    (page.summary total).hasMore = true ↔
      page.offset < total ∧ page.offset + (page.summary total).returned < total := by
  show (decide (0 < page.limit) && decide (page.offset + page.limit < total)) = true ↔
    page.offset < total ∧ page.offset +
      (if page.limit = 0 then total - page.offset else min (total - page.offset) page.limit) < total
  rw [Bool.and_eq_true, decide_eq_true_eq, decide_eq_true_eq]
  split <;> omega

/-- A page begins behind its offset, and there is more if something comes after it. -/
theorem exists_append_cut (page : Page) (xs : List α) :
    ∃ before after, xs = before ++ (page.cut xs ++ after) ∧
      before.length = min page.offset xs.length ∧
      ((page.summary xs.length).hasMore = true ↔ after ≠ []) := by
  obtain ⟨after, hafter⟩ : ∃ after, xs.drop page.offset = page.cut xs ++ after := by
    unfold cut
    dsimp only
    split
    · exact ⟨[], (List.append_nil _).symm⟩
    · exact ⟨_, (List.take_append_drop page.limit _).symm⟩
  have hlength := congrArg List.length hafter
  rw [List.length_drop, List.length_append, length_cut] at hlength
  refine ⟨xs.take page.offset, after, ?_, List.length_take, ?_⟩
  · rw [← hafter, List.take_append_drop]
  · rw [hasMore_iff, ← List.length_pos_iff]
    omega

end Page

namespace WordPage

/-- **A summary describes the page that a stage gives.** Whatever words the limit and the offset of
a page and the length of a list are, the stage that counts in words and the one with natural numbers
give the same part of the list: it begins behind the offset, and it has as many records as the limit
and the rest of the list allow. The summary in words, which is that of the numbers, gives this
number of records, and it says that there are more exactly when some record comes after the page.
After any calls the counters of the stage are the numbers of the records that it has passed over and
that it has given. -/
theorem summary_describes_page (page : WordPage) (records : List Record)
    (h : records.length < UInt64.size) :
    let offset := page.offset.toNat
    let limit := page.limit.toNat
    let total := records.length
    let summary := page.summary (UInt64.ofNat total)
    ∃ before given after,
      (Stage.countedLimit page (Stage.values records)).toList = .ok given ∧
      (Plan.limit limit offset (.values records)).stage.toList = .ok given ∧
      records = before ++ (given ++ after) ∧
      before.length = min offset total ∧
      given.length = (if limit = 0 then total - offset else min limit (total - offset)) ∧
      summary.toSummary = page.toPage.summary total ∧
      summary.returned.toNat = given.length ∧
      (summary.hasMore = true ↔ after ≠ []) ∧
      (summary.hasMore = true ↔ offset < total ∧ offset + given.length < total) ∧
      ∀ state taken, (Stage.countedLimit page (Stage.values records)).Reaches state taken →
        ∃ passed, records = passed ++ taken ++ state.state.child.state ∧
          state.state.skipped.toNat = passed.length ∧
          state.state.returned.toNat = taken.length := by
  intro offset limit total summary
  have htoList := Plan.toList_limit_values page.toPage records
  have hcounted : (Stage.countedLimit page (Stage.values records)).toList =
      .ok (page.toPage.cut records) :=
    (Stage.simulates_countedLimit page (Stage.values records)).toList_eq.trans htoList
  obtain ⟨before, after, hsplit, hbefore, hafter⟩ := page.toPage.exists_append_cut records
  have hlength := page.toPage.length_cut records
  have htotal : (UInt64.ofNat total).toNat = total := UInt64.toNat_ofNat_of_lt' h
  have hsummary : summary.toSummary = page.toPage.summary total := by
    rw [toSummary_summary, htotal]
  have hreturned : summary.returned.toNat = (page.toPage.cut records).length :=
    (congrArg PageSummary.returned hsummary).trans hlength.symm
  have hmore : summary.hasMore = (page.toPage.summary total).hasMore :=
    congrArg PageSummary.hasMore hsummary
  refine ⟨before, page.toPage.cut records, after, hcounted, htoList, hsplit, hbefore, ?_, hsummary,
    hreturned, ?_, ?_, fun state taken hreaches => ?_⟩
  · rw [hlength]
    show (if limit = 0 then _ else _) = _
    rw [Nat.min_comm]
    rfl
  · rw [hmore, hafter]
  · rw [hmore, Page.hasMore_iff, hlength]
    rfl
  · obtain ⟨passed, hcounts⟩ := Stage.counts_of_reaches hreaches
    have hall := Stage.reaches_values hcounts.reaches
    have hfewer : taken.length < UInt64.size := by
      have hparts := congrArg List.length hall
      rw [List.length_append, List.length_append] at hparts
      omega
    refine ⟨passed, hall.symm, hcounts.skipped, ?_⟩
    rw [hcounts.returned, UInt64.toNat_ofNat_of_lt' hfewer]

/-- The greatest limit behind one of three records: the sum of both is no word. -/
theorem summary_describes_page_greatest_limit :
    let page : WordPage := ⟨0xffffffffffffffff, 1⟩
    let records :=
      [Record.empty, Record.ofList [("n", .integer 1)], Record.ofList [("n", .integer 2)]]
    records.length < UInt64.size ∧
      ∃ before given after,
        (Stage.countedLimit page (Stage.values records)).toList = .ok given ∧
        records = before ++ (given ++ after) ∧ before.length = 1 ∧ given.length = 2 ∧
        (page.summary 3).returned.toNat = given.length ∧
        ((page.summary 3).hasMore = true ↔ after ≠ []) := by
  intro page records
  have hlength : records.length < UInt64.size := by decide
  obtain ⟨before, given, after, hlist, -, hsplit, hbefore, hgiven, -, hreturned, hmore, -⟩ :=
    summary_describes_page page records hlength
  exact ⟨hlength, before, given, after, hlist, hsplit, hbefore, hgiven, hreturned, hmore⟩

end WordPage

end Sift
