/-
# Named properties of characters

Finds the property that a name denotes. Names are compared in normal form: small letters, without
blanks, hyphens, underscores and a leading "is". A general category of one letter, such as L for
letters, is the union of the two-letter ones below it, so a property is a list of tables.

Key definitions: `normalName`, `property?`, `propertyValue?`.
-/
import Sift.Unicode.Age
import Sift.Unicode.Binary
import Sift.Unicode.Boundary
import Sift.Unicode.Category
import Sift.Unicode.RangeTable
import Sift.Unicode.Script

namespace Sift.Unicode

/-- A property of characters: being in one of several tables. -/
abbrev Property := List RangeTable

/-- The table with the given name in normal form. -/
def find? (entries : List (List String × String)) (name : String) : Option RangeTable :=
  entries.findSome? fun (names, text) =>
    if names.contains name then some (RangeTable.ofText text) else none

/-- Drops what does not count in a name and lowers the rest. -/
def normalCharacters (cs : List Char) : List Char :=
  (cs.filter fun c => c.toNat < 128 && c != ' ' && c != '_' && c != '-').map Char.toLower

/-- A name in normal form. Without the exception, the name "isc" would lose all but one letter and
turn into another name. -/
def normalName (name : List Char) : String :=
  let bare :=
    match name with
    | i :: s :: rest => if i.toLower = 'i' ∧ s.toLower = 's' then rest else name
    | _ => name
  let normal := normalCharacters bare
  if normal = ['c'] ∧ bare.length < name.length then "isc" else String.ofList normal

/-- The general categories that a name stands for when it groups several. -/
def categoryGroup : String → List String
  | "l" | "letter" => ["lu", "ll", "lt", "lm", "lo"]
  | "lc" | "casedletter" => ["lu", "ll", "lt"]
  | "m" | "mark" | "combiningmark" => ["mn", "mc", "me"]
  | "n" | "number" => ["nd", "nl", "no"]
  | "p" | "punctuation" | "punct" => ["pc", "pd", "ps", "pe", "pi", "pf", "po"]
  | "s" | "symbol" => ["sm", "sc", "sk", "so"]
  | "z" | "separator" => ["zs", "zl", "zp"]
  | "c" | "other" => ["cc", "cf", "co", "cn"]
  | "assigned" =>
    ["lu", "ll", "lt", "lm", "lo", "mn", "mc", "me", "nd", "nl", "no", "pc", "pd", "ps", "pe", "pi",
      "pf", "po", "sm", "sc", "sk", "so", "zs", "zl", "zp", "cc", "cf", "co"]
  | name => [name]

/-- The general category with a name in normal form. -/
def category? (name : String) : Option Property :=
  if name = "any" then some [#[(0, 0x10FFFF)]]
  else if name = "ascii" then some [#[(0, 0x7F)]]
  else (categoryGroup name).mapM (find? categoryRanges)

/-- The property with a name alone: a binary property, a general category or a script. The
abbreviations cf, sc and lc mean general categories. -/
def property? (name : String) : Option Property :=
  let binary :=
    if name = "cf" ∨ name = "sc" ∨ name = "lc" then none
    else (find? binaryRanges name).map fun table => [table]
  binary <|> category? name <|> (find? scriptRanges name).map fun table => [table]

/-- The characters that a version of Unicode has: those that are new in it or in one before it. -/
def age? (version : String) : Option Property :=
  match ageRanges.findIdx? (·.1.contains version) with
  | some index => some ((ageRanges.take (index + 1)).map fun (_, text) => RangeTable.ofText text)
  | none => none

/-- The property that gives the value of a property with several values. -/
def propertyValue? (name value : String) : Option Property :=
  match name with
  | "gc" | "generalcategory" => category? value
  | "sc" | "script" => listed scriptRanges
  | "scx" | "scriptextensions" => listed scriptExtensionRanges
  | "age" => age? value
  | "gcb" | "graphemeclusterbreak" => listed graphemeBreakRanges
  | "wb" | "wordbreak" => listed wordBreakRanges
  | "sb" | "sentencebreak" => listed sentenceBreakRanges
  | _ => none
where
  listed (entries : List (List String × String)) : Option Property :=
    (find? entries value).map fun table => [table]

end Sift.Unicode
