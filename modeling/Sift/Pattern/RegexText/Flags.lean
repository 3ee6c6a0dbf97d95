/-
# Errors, flags and layout of written regular expressions

Flags change how the rest of a group is read. With the flag x, white space and comments, from a
number sign to the end of the line, may stand between the parts of an expression.

Key definitions: `RegexError`, `RegexFlags`, `RegexFlags.layout`.
-/
import Sift.Pattern.Regex
import Sift.Text.Blank
import Sift.Text.Reader

namespace Sift

/-- Why a text is not accepted as a regular expression. -/
inductive RegexError where
  /-- It does not follow the grammar, or names what does not exist. -/
  | malformed
  /-- Its groups, repetitions, sequences and classes are nested too deeply. -/
  | tooNested
  /-- The automaton for it would be too large. -/
  | tooLarge
deriving DecidableEq

/-- The text of an error. -/
def RegexError.message : RegexError → String
  | malformed => "regex parse error"
  | tooNested => "exceeds the nesting limit of 250"
  | tooLarge => "Compiled regex exceeds size limit of 10485760 bytes."

/-- A reader of parts of a written regular expression. -/
abbrev RegexReader := Reader RegexError

/-- How an expression is read. -/
structure RegexFlags where
  /-- Letters that differ in case only match each other (i). -/
  caseless : Bool := false
  /-- The anchors match at line ends, too (m). -/
  multiLine : Bool := false
  /-- The dot matches line ends, too (s). -/
  dotAll : Bool := false
  /-- Classes and boundaries know all characters, not only ASCII (u). -/
  unicode : Bool := true
  /-- White space and comments are layout (x). -/
  extended : Bool := false
  /-- A carriage return, too, ends lines (R). -/
  crlf : Bool := false
  /-- Repetitions are lazy unless a question mark makes them greedy (U). -/
  swapGreed : Bool := false

/-- Drops white space and comments in front. -/
def dropLayout (inComment : Bool) : List Char → List Char
  | [] => []
  | c :: cs =>
    if inComment then dropLayout (c != '\n') cs
    else if Text.isBlank c then dropLayout false cs
    else if c = '#' then dropLayout true cs
    else c :: cs

theorem length_dropLayout_le (inComment : Bool) (cs : List Char) :
    (dropLayout inComment cs).length ≤ cs.length := by
  induction cs generalizing inComment with
  | nil => exact Nat.le_refl _
  | cons c cs ih =>
    rw [dropLayout]
    split
    · exact Nat.le_succ_of_le (ih _)
    split
    · exact Nat.le_succ_of_le (ih _)
    split
    · exact Nat.le_succ_of_le (ih _)
    · exact Nat.le_refl _

namespace RegexFlags

/-- The text after the layout in front. -/
def dropFrom (flags : RegexFlags) (cs : List Char) : List Char :=
  if flags.extended then dropLayout false cs else cs

/-- Passes over layout. -/
def layout (flags : RegexFlags) : RegexReader Unit :=
  fun cs => .ok ((), ⟨flags.dropFrom cs, by
    unfold dropFrom
    split
    · exact length_dropLayout_le _ _
    · exact Nat.le_refl _⟩)

/-- The flag of a letter, set or cleared. -/
def set? (flags : RegexFlags) (letter : Char) (value : Bool) : Option RegexFlags :=
  match letter with
  | 'i' => some { flags with caseless := value }
  | 'm' => some { flags with multiLine := value }
  | 's' => some { flags with dotAll := value }
  | 'u' => some { flags with unicode := value }
  | 'x' => some { flags with extended := value }
  | 'R' => some { flags with crlf := value }
  | 'U' => some { flags with swapGreed := value }
  | _ => none

/-- A set that ignores case if the flags say so. -/
def fold (flags : RegexFlags) (s : CharSet) : CharSet :=
  if flags.caseless then s.caseless (!flags.unicode) else s

/-- The complement of a set if `negated`. Without Unicode it could match a part of a character, so
it is refused. -/
def complement (flags : RegexFlags) (negated : Bool) (s : CharSet) : RegexReader CharSet :=
  if negated then
    if flags.unicode then pure (.compl s) else Reader.fail .malformed
  else pure s

end RegexFlags

end Sift
