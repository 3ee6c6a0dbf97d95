/-
# Records from JSON and back

Reading a JSON value field by field may refuse a number that is neither an integer of 64 bits nor has a
nearest floating-point number; but every number has one, so that only a value that is no object is
refused. The record has the fields of the object that are not null. All of its values have a form in
JSON, and a value that has one is read back from it with its type: so a record that was read is read
back as it is, and any other record without its floating-point numbers that are not finite.

Key definitions: `Record.decode`, `Value.hasJson`, `Record.finite`.
Key theorems: `Record.decode_eq`, `Record.isSome_get?_ofJson`, `Value.ofJson?_toJson`,
`Record.ofJson_toJson_eq`, `Record.ofJson_normalizes`.
-/
import Sift.Proofs.Binary64.Monotone
import Sift.Record.Json

namespace Sift

/-! ### Entries -/

section Entries

variable {α : Type} {name : String} {entry : String × α} {entries : List (String × α)}

/-- Entries put in order are entries of the list. -/
theorem mem_of_mem_orderEntries (h : entry ∈ orderEntries entries) : entry ∈ entries := by
  suffices ∀ start : List (String × α),
      entry ∈ entries.foldl (fun ordered entry => insertEntry entry.1 entry.2 ordered) start →
        entry ∈ start ∨ entry ∈ entries by
    exact (this [] h).resolve_left List.not_mem_nil
  clear h
  induction entries with
  | nil => exact fun start h => .inl h
  | cons first entries ih =>
    intro start h
    rcases ih _ h with h | h
    · rcases mem_insertEntry h with rfl | h
      · exact .inr List.mem_cons_self
      · exact .inl h
    · exact .inr (List.mem_cons_of_mem first h)

/-- There is a value under the names of the entries alone. -/
theorem isSome_lookUp?_orderEntries :
    (lookUp? name (orderEntries entries)).isSome = true ↔ ∃ value, (name, value) ∈ entries := by
  suffices ∀ start : List (String × α),
      (lookUp? name (entries.foldl
          (fun ordered entry => insertEntry entry.1 entry.2 ordered) start)).isSome = true ↔
        (lookUp? name start).isSome = true ∨ ∃ value, (name, value) ∈ entries by
    have hempty : (lookUp? name (orderEntries entries)).isSome = true ↔
        (lookUp? name ([] : List (String × α))).isSome = true ∨ ∃ value, (name, value) ∈ entries :=
      this []
    simpa [lookUp?] using hempty
  induction entries with
  | nil => simp
  | cons first entries ih =>
    intro start
    rw [List.foldl_cons, ih, lookUp?_insertEntry]
    by_cases hname : name = first.1
    · have hmem : (name, first.2) ∈ first :: entries := by simp [hname]
      simp only [hname, if_true, Option.isSome_some, true_or, true_iff]
      exact .inr ⟨first.2, hname ▸ hmem⟩
    · have hmem (value : α) : (name, value) ∈ first :: entries ↔ (name, value) ∈ entries := by
        rw [List.mem_cons, or_iff_right]
        rintro rfl
        exact hname rfl
      simp only [if_neg hname, hmem]

/-- No value is under a name that is before all others. -/
theorem lookUp?_of_lt (h : ∀ entry ∈ entries, compare name entry.1 = .lt) :
    lookUp? name entries = none := by
  induction entries with
  | nil => rfl
  | cons first entries ih =>
    obtain ⟨hfirst, hrest⟩ := List.forall_mem_cons.mp h
    have hne : ¬ first.1 = name := by
      rintro rfl
      simp at hfirst
    rw [lookUp?, if_neg hne, ih hrest]

/-- Under a name there is at most one value, so it is kept or there is none. -/
theorem lookUp?_filter (p : α → Bool) (h : Ordered entries) :
    lookUp? name (entries.filter (p ·.2)) = (lookUp? name entries).filter p := by
  induction entries with
  | nil => rfl
  | cons first entries ih =>
    obtain ⟨hfirst, hrest⟩ := List.pairwise_cons.mp h
    have hfilter := ih hrest
    by_cases hname : first.1 = name
    · have hnone : lookUp? name (entries.filter (p ·.2)) = none := by
        refine lookUp?_of_lt fun entry hmem => ?_
        rw [← hname]
        exact hfirst entry (List.mem_filter.mp hmem).1
      by_cases hp : p first.2 = true
      · simp [lookUp?, hname, hp, Option.filter]
      · simp [lookUp?, hname, hp, hnone, Option.filter]
    · by_cases hp : p first.2 = true
      · simp [lookUp?, hname, hp, hfilter]
      · simp [lookUp?, hname, hp, hfilter]

end Entries

theorem Record.eq_of_entries {a b : Record} (h : a.entries = b.entries) : a = b := by
  cases a
  cases b
  cases h
  rfl

/-! ### Reading field by field -/

namespace Json.Number

/-- The integer of 64 bits that a number is. -/
def int64? : Json.Number → Option Int64
  | integer n _ _ => if n ≤ Int64.maxValue.toInt then some (Int64.ofInt n) else none
  | float _ _ => none

/-- The floating-point number nearest to a number. -/
def binary64? : Json.Number → Option Binary64
  | integer n _ _ => some (Binary64.ofInt n)
  | float x _ => some x

end Json.Number

namespace Record

/-- Why a JSON value is refused where it is read field by field. -/
inductive Refusal where
  | notObject (cause : NotObject)
  | outOfRange (field : String)
deriving DecidableEq

/-- The text of the error. -/
def Refusal.message : Refusal → String
  | notObject cause => cause.message
  | outOfRange field => s!"Number out of range in field '{field}'"

/-- Sets a field of a record to its JSON; a null leaves it as it is. -/
def addField (record : Record) : String × Json → Except Refusal Record
  | (_, .null) => .ok record
  | (name, .boolean b) => .ok (record.insert name (.boolean b))
  | (name, .number n) =>
    match n.int64? with
    | some i => .ok (record.insert name (.integer i))
    | none =>
      match n.binary64? with
      | some x => .ok (record.insert name (.float x))
      | none => .error (.outOfRange name)
  | (name, .string s) => .ok (record.insert name (.string s))
  | (name, json) => .ok (record.insert name (.string (String.ofList json.writeCompact)))

/-- The record of a JSON object, field by field. -/
def decode : Json → Except Refusal Record
  | .object fields => fields.foldlM addField empty
  | json => .error (.notObject ⟨json.kindName⟩)

/-- A number is never refused. -/
theorem addField_eq (record : Record) (name : String) (json : Json) :
    record.addField (name, json) =
      .ok ((Value.ofJson? json).elim record fun value => record.insert name value) := by
  cases json with
  | null => rfl
  | boolean b => rfl
  | string s => rfl
  | array items => rfl
  | object fields => rfl
  | number n =>
    cases n with
    | float x hfinite => rfl
    | integer n hmin hmax =>
      by_cases hn : n ≤ Int64.maxValue.toInt
      · simp [addField, Value.ofJson?, Value.ofJsonNumber, Json.Number.int64?, hn]
      · simp [addField, Value.ofJson?, Value.ofJsonNumber, Json.Number.int64?,
          Json.Number.binary64?, hn]

/-- The entries that a list of fields gives. -/
def fieldEntries (fields : List (String × Json)) : List (String × Value) :=
  fields.filterMap fun field => (Value.ofJson? field.2).map fun value => (field.1, value)

theorem foldlM_addField (fields : List (String × Json)) : ∀ record : Record,
    ∃ result, fields.foldlM addField record = .ok result ∧
      result.entries = (fieldEntries fields).foldl
        (fun ordered entry => insertEntry entry.1 entry.2 ordered) record.entries := by
  induction fields with
  | nil => exact fun record => ⟨record, rfl, rfl⟩
  | cons field fields ih =>
    intro record
    obtain ⟨name, json⟩ := field
    obtain ⟨result, hresult, hentries⟩ :=
      ih ((Value.ofJson? json).elim record fun value => record.insert name value)
    refine ⟨result, ?_, hentries.trans ?_⟩
    · rw [List.foldlM_cons, addField_eq]
      exact hresult
    · cases hvalue : Value.ofJson? json with
      | none => rw [fieldEntries, fieldEntries, List.filterMap_cons_none (by simp [hvalue])]; rfl
      | some value =>
        rw [fieldEntries, fieldEntries, List.filterMap_cons_some (by simp [hvalue]; rfl)]; rfl

/-- **Field by field the same record is read**, and a number is never out of range. -/
theorem decode_eq (json : Json) : decode json = (ofJson json).mapError .notObject := by
  cases json with
  | object fields =>
    obtain ⟨result, hresult, hentries⟩ := foldlM_addField fields empty
    have hrecord : result = ofList (fieldEntries fields) := eq_of_entries hentries
    rw [decode, hresult, hrecord]
    rfl
  | _ => rfl

end Record

/-! ### Values and their JSON -/

namespace Value

/-- Whether a value has a form in JSON: a number does if it is finite. -/
def hasJson : Value → Bool
  | float x => x.isFinite
  | _ => true

/-- A value is read back from its form in JSON if it has one. -/
theorem ofJson?_toJson (value : Value) :
    ofJson? value.toJson = (some value).filter hasJson := by
  cases value with
  | boolean b => rfl
  | string s => rfl
  | integer n =>
    rw [toJson, ofJson?, ofJsonNumber, if_pos n.toInt_le, Int64.ofInt_toInt]
    rfl
  | float x =>
    by_cases hfinite : x.isFinite = true
    · simp [toJson, ofJson?, ofJsonNumber, hasJson, hfinite, Option.filter]
    · simp [toJson, ofJson?, hasJson, hfinite, Option.filter]

/-- The numbers of JSON are finite, also where they are no integers of 64 bits with a sign. -/
theorem hasJson_ofJsonNumber (n : Json.Number) : (ofJsonNumber n).hasJson = true := by
  cases n with
  | float x hfinite => exact hfinite
  | integer n hmin hmax =>
    have hfinite : (Binary64.ofInt n).isFinite = true := Binary64.isFinite_ofInt (by omega)
    unfold ofJsonNumber
    dsimp only
    split
    · rfl
    · exact hfinite

theorem hasJson_of_ofJson? {json : Json} {value : Value} (h : ofJson? json = some value) :
    value.hasJson = true := by
  cases json with
  | null => cases h
  | number n =>
    obtain rfl := Option.some.inj h
    exact hasJson_ofJsonNumber n
  | _ =>
    obtain rfl := Option.some.inj h
    rfl

theorem ofJson?_eq_none_iff {json : Json} : ofJson? json = none ↔ json = .null := by
  cases json <;> simp [ofJson?]

end Value

/-! ### Records and their JSON -/

namespace Record

/-- The record without its floating-point numbers that are not finite. -/
def finite (record : Record) : Record :=
  ⟨record.entries.filter fun entry => entry.2.hasJson, record.ordered.filter _⟩

theorem get?_finite (record : Record) (name : String) :
    record.finite.get? name = (record.get? name).filter Value.hasJson :=
  lookUp?_filter Value.hasJson record.ordered

/-- A record is read back from its JSON without the numbers that have no form in it. -/
theorem ofJson_toJson_eq (record : Record) : ofJson record.toJson = .ok record.finite := by
  have hentry (entry : String × Value) :
      (Value.ofJson? entry.2.toJson).map (fun value => (entry.1, value)) =
        Option.guard (fun entry => entry.2.hasJson) entry := by
    rw [Value.ofJson?_toJson]
    cases hjson : entry.2.hasJson <;> simp [Option.filter, Option.guard, hjson]
  have hentries : fieldEntries (record.entries.map fun entry => (entry.1, entry.2.toJson)) =
      record.finite.entries := by
    have hfilter : record.finite.entries = record.entries.filter fun entry => entry.2.hasJson := rfl
    rw [hfilter, fieldEntries, List.filterMap_map, ← List.filterMap_eq_filter]
    exact congrArg (List.filterMap · record.entries) (funext hentry)
  have hordered : ofList record.finite.entries = record.finite :=
    eq_of_entries (orderEntries_of_ordered record.finite.ordered)
  rw [← hordered, ← hentries]
  rfl

/-- The values of a record that is read have a form in JSON. -/
theorem finite_of_ofJson {json : Json} {record : Record} (h : ofJson json = .ok record) :
    record.finite = record := by
  cases json with
  | object fields =>
    obtain rfl := Except.ok.inj h
    refine eq_of_entries (List.filter_eq_self.mpr fun entry hmem => ?_)
    obtain ⟨field, -, hvalue⟩ := List.mem_filterMap.mp (mem_of_mem_orderEntries hmem)
    obtain ⟨value, hread, rfl⟩ := Option.map_eq_some_iff.mp hvalue
    exact Value.hasJson_of_ofJson? hread
  | _ => cases h

/-- The fields of an object that are not null are those of its record. -/
theorem isSome_get?_ofJson {fields : List (String × Json)} {record : Record}
    (h : ofJson (.object fields) = .ok record) (name : String) :
    (record.get? name).isSome = true ↔ ∃ json, (name, json) ∈ fields ∧ json ≠ .null := by
  obtain rfl := Except.ok.inj h
  have hvalues : (∃ value, (name, value) ∈ fieldEntries fields) ↔
      ∃ json, (name, json) ∈ fields ∧ Value.ofJson? json ≠ none := by
    simp only [fieldEntries, List.mem_filterMap, Option.map_eq_some_iff, Prod.mk.injEq]
    constructor
    · rintro ⟨value, field, hmem, found, hfound, rfl, -⟩
      exact ⟨field.2, hmem, by simp [hfound]⟩
    · rintro ⟨json, hmem, hjson⟩
      obtain ⟨value, hvalue⟩ := Option.ne_none_iff_exists'.mp hjson
      exact ⟨value, (name, json), hmem, value, hvalue, rfl, rfl⟩
  simp only [ne_eq, Value.ofJson?_eq_none_iff] at hvalues
  exact isSome_lookUp?_orderEntries.trans hvalues

/-- **A record that is read from JSON is in its final form.** Every object is read, and nothing else:
read field by field, no number is ever out of range. The record has the fields that are not null, and
it is read back from its own JSON as it is. Any record at all is read back from its JSON without the
floating-point numbers that are not finite, and all other fields keep their values, each with its
type. -/
theorem ofJson_normalizes :
    (∀ json : Json,
      decode json = (ofJson json).mapError .notObject ∧
      (∀ field, decode json ≠ .error (.outOfRange field)) ∧
      ((∃ error, ofJson json = .error error) ↔ ∀ fields, json ≠ .object fields) ∧
      ∀ record, ofJson json = .ok record →
        (∃ fields, json = .object fields ∧ ∀ name, (record.get? name).isSome = true ↔
          ∃ value, (name, value) ∈ fields ∧ value ≠ .null) ∧
        ofJson record.toJson = .ok record) ∧
    ∀ record : Record, ofJson record.toJson = .ok record.finite ∧
      ∀ name, record.finite.get? name = (record.get? name).filter Value.hasJson := by
  refine ⟨fun json => ⟨decode_eq json, fun field h => ?_, ?_, fun record h => ⟨?_, ?_⟩⟩,
    fun record => ⟨ofJson_toJson_eq record, get?_finite record⟩⟩
  · rw [decode_eq] at h
    cases hread : ofJson json <;> rw [hread] at h <;> cases h
  · cases json <;> simp [ofJson]
  · cases json with
    | object fields => exact ⟨fields, rfl, isSome_get?_ofJson h⟩
    | _ => cases h
  · rw [ofJson_toJson_eq, finite_of_ofJson h]

/-- An integer past those with a sign, a null, a list and a whole floating-point number; and a record
with a number that is none. -/
theorem ofJson_normalizes_of_each_kind :
    let one : Binary64 := .signed false 0x3ff0000000000000 (by decide)
    let json : Json := .object
      [("big", .number (.integer 18446744073709551615 (by decide) (by decide))), ("gone", .null),
        ("list", .array [.boolean true, .null]), ("whole", .number (.float one (by decide)))]
    let record := ofList [("big", .float (Binary64.ofInt 18446744073709551615)),
      ("list", .string "[true,null]"), ("whole", .float one)]
    let other := ofList [("a", .float .nan), ("b", .float one), ("c", .integer 1)]
    ofJson json = .ok record ∧ ofJson record.toJson = .ok record ∧
      (record.get? "gone").isSome = false ∧
      ofJson other.toJson = .ok (ofList [("b", .float one), ("c", .integer 1)]) := by
  intro one json record other
  have hread : ofJson json = .ok record := rfl
  obtain ⟨hjson, hrecords⟩ := ofJson_normalizes
  obtain ⟨-, -, -, hrecord⟩ := hjson json
  obtain ⟨-, hagain⟩ := hrecord record hread
  obtain ⟨hother, -⟩ := hrecords other
  have hfinite : other.finite = ofList [("b", .float one), ("c", .integer 1)] := by decide
  exact ⟨hread, hagain, by decide, hfinite ▸ hother⟩

end Record

end Sift
