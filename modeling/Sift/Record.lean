/-
# Records

A record gives values to some field names. Its entries are kept in the order of their names, each
name once, so that two records with the same values in the same fields are equal. Names are ordered
by their characters' code points, which is also the order of their UTF-8 bytes.

The entries of a JSON object are kept in the same way, so the operations on entries are stated for
any type of values.

Key definitions: `insertEntry`, `lookUp?`, `Ordered`, `Record`, `Record.get?`.
Key theorems: `ordered_insertEntry`, `orderEntries_of_ordered`, `lookUp?_insertEntry`.
-/
import Sift.Value

namespace Sift

/-- Entries with names in strictly increasing order. -/
def Ordered {α : Type} (entries : List (String × α)) : Prop :=
  entries.Pairwise fun a b => compare a.1 b.1 = .lt

/-- Puts a value under a name, in place of the one there if there is one. -/
def insertEntry {α : Type} (name : String) (value : α) :
    List (String × α) → List (String × α)
  | [] => [(name, value)]
  | entry :: entries =>
    match compare name entry.1 with
    | .lt => (name, value) :: entry :: entries
    | .eq => (name, value) :: entries
    | .gt => entry :: insertEntry name value entries

/-- The value under a name. -/
def lookUp? {α : Type} (name : String) : List (String × α) → Option α
  | [] => none
  | entry :: entries => if entry.1 = name then some entry.2 else lookUp? name entries

/-- The entries of a list, where the last one under a name counts. -/
def orderEntries {α : Type} (entries : List (String × α)) : List (String × α) :=
  entries.foldl (fun ordered entry => insertEntry entry.1 entry.2 ordered) []

theorem mem_insertEntry {α : Type} {name : String} {value : α} {entry : String × α} :
    ∀ {entries : List (String × α)}, entry ∈ insertEntry name value entries →
      entry = (name, value) ∨ entry ∈ entries
  | [], h => by simpa [insertEntry] using h
  | first :: entries, h => by
    simp only [insertEntry] at h
    split at h
    · simpa using h
    · rcases List.mem_cons.mp h with h | h
      · exact .inl h
      · exact .inr (List.mem_cons_of_mem _ h)
    · rcases List.mem_cons.mp h with h | h
      · exact .inr (h ▸ List.mem_cons_self)
      · exact (mem_insertEntry h).imp_right (List.mem_cons_of_mem _)

/-- Inserting keeps the order of names. -/
theorem ordered_insertEntry {α : Type} (name : String) (value : α) :
    ∀ {entries : List (String × α)}, Ordered entries → Ordered (insertEntry name value entries)
  | [], _ => by simp [insertEntry, Ordered]
  | first :: entries, h => by
    have hfirst := (List.pairwise_cons.mp h).1
    have hrest := (List.pairwise_cons.mp h).2
    rw [insertEntry]
    split
    next hlt =>
      refine List.pairwise_cons.mpr ⟨fun entry hmem => ?_, h⟩
      rcases List.mem_cons.mp hmem with rfl | hmem
      · exact hlt
      · exact Std.TransCmp.lt_trans hlt (hfirst entry hmem)
    next heq =>
      have hname : name = first.1 := Std.LawfulEqCmp.eq_of_compare heq
      exact List.pairwise_cons.mpr ⟨fun entry hmem => hname ▸ hfirst entry hmem, hrest⟩
    next hgt =>
      refine List.pairwise_cons.mpr ⟨fun entry hmem => ?_, ordered_insertEntry name value hrest⟩
      rcases mem_insertEntry hmem with rfl | hmem
      · exact Std.OrientedCmp.lt_of_gt hgt
      · exact hfirst entry hmem

theorem ordered_orderEntries {α : Type} (entries : List (String × α)) :
    Ordered (orderEntries entries) := by
  suffices ∀ (start : List (String × α)), Ordered start →
      Ordered (entries.foldl (fun ordered entry => insertEntry entry.1 entry.2 ordered) start) from
    this [] List.Pairwise.nil
  induction entries with
  | nil => exact fun _ h => h
  | cons entry entries ih => exact fun start h => ih _ (ordered_insertEntry _ _ h)

/-- A value under a name past all others goes to the end. -/
theorem insertEntry_append {α : Type} {name : String} {value : α} :
    ∀ {entries : List (String × α)}, Ordered (entries ++ [(name, value)]) →
      insertEntry name value entries = entries ++ [(name, value)]
  | [], _ => rfl
  | first :: entries, h => by
    obtain ⟨hfirst, hrest⟩ := List.pairwise_cons.mp h
    have hgt : compare name first.1 = .gt :=
      Std.OrientedCmp.gt_of_lt (hfirst (name, value) (by simp))
    rw [insertEntry, hgt, List.cons_append]
    dsimp only
    rw [insertEntry_append hrest]

/-- Entries in the order of their names stay as they are. -/
theorem orderEntries_of_ordered {α : Type} {entries : List (String × α)} (h : Ordered entries) :
    orderEntries entries = entries := by
  suffices ∀ rest front : List (String × α), Ordered (front ++ rest) →
      rest.foldl (fun ordered entry => insertEntry entry.1 entry.2 ordered) front =
        front ++ rest from this entries [] h
  intro rest
  induction rest with
  | nil => simp
  | cons entry rest ih =>
    intro front hordered
    have hsplit : Ordered (front ++ [entry] ++ rest) := by
      rwa [List.append_assoc, List.singleton_append]
    rw [List.foldl_cons, insertEntry_append (List.pairwise_append.mp hsplit).1, ih _ hsplit,
      List.append_assoc, List.singleton_append]

/-- The value inserted under a name is found there, and the others stay. -/
theorem lookUp?_insertEntry {α : Type} (name other : String) (value : α) :
    ∀ entries : List (String × α),
      lookUp? other (insertEntry name value entries) =
        if other = name then some value else lookUp? other entries
  | [] => by grind [insertEntry, lookUp?]
  | first :: entries => by
    have ih := lookUp?_insertEntry name other value entries
    simp only [insertEntry]
    split
    next => grind [lookUp?]
    next heq =>
      have hname : name = first.1 := Std.LawfulEqCmp.eq_of_compare heq
      grind [lookUp?]
    next hgt =>
      have hname : first.1 ≠ name := fun h => by simp [h] at hgt
      grind [lookUp?]

/-- Values under field names. -/
structure Record where
  /-- The fields in the order of their names. -/
  entries : List (String × Value)
  ordered : Ordered entries

namespace Record

instance : DecidableEq Record := fun a b =>
  decidable_of_iff (a.entries = b.entries) (by cases a; cases b; simp)

/-- The record without fields. -/
def empty : Record := ⟨[], List.Pairwise.nil⟩

instance : Inhabited Record := ⟨empty⟩

/-- The value of a field, if the record has it. -/
def get? (record : Record) (field : String) : Option Value :=
  lookUp? field record.entries

/-- The record with a field set. -/
def insert (record : Record) (field : String) (value : Value) : Record :=
  ⟨insertEntry field value record.entries, ordered_insertEntry field value record.ordered⟩

/-- The record of the given fields, where the last value given to a field counts. -/
def ofList (fields : List (String × Value)) : Record :=
  ⟨orderEntries fields, ordered_orderEntries fields⟩

theorem get?_insert (record : Record) (field other : String) (value : Value) :
    (record.insert field value).get? other =
      if other = field then some value else record.get? other :=
  lookUp?_insertEntry field other value record.entries

end Record

end Sift
