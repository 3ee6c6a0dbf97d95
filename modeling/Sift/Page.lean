/-
# Pages

A page is a part of a list: so many elements after an offset, or all of them if the limit is zero.

Key definitions: `Page`, `PageSummary`, `Page.summary`.
-/

namespace Sift

/-- The part of a list after an offset, up to a limit. -/
structure Page where
  /-- The greatest number of elements; zero for any number. -/
  limit : Nat := 0
  offset : Nat := 0
deriving DecidableEq, Inhabited

/-- What part of how many elements a page holds. -/
structure PageSummary where
  total : Nat
  returned : Nat
  offset : Nat
  limit : Nat
  /-- Whether there are elements after the page. -/
  hasMore : Bool
deriving DecidableEq

/-- The summary of a page of a list with so many elements. -/
def Page.summary (page : Page) (total : Nat) : PageSummary :=
  let rest := total - page.offset
  { total
    returned := if page.limit = 0 then rest else min rest page.limit
    offset := page.offset
    limit := page.limit
    hasMore := 0 < page.limit && page.offset + page.limit < total }

end Sift
