/-
# Readers

A reader takes characters from the front of a text and gives a result or an error. That what it
leaves is never longer than what it was given belongs to its type, so that a reader can be
repeated: a repetition whose rounds all take something comes to an end.

Key definitions: `Reader`, `Reader.peek`, `Reader.next`, `Reader.expect`, `Reader.takeWhile`,
`Reader.loop`, `Reader.parse`.
Key theorems: `Reader.bind_apply`, `Reader.loop_apply`.
-/

namespace Sift

/-- Takes characters from the front of a text. -/
def Reader (ε α : Type) :=
  (cs : List Char) → Except ε (α × { rest : List Char // rest.length ≤ cs.length })

namespace Reader

variable {ε α β σ : Type}

/-- Gives a result without taking anything. -/
def give (a : α) : Reader ε α :=
  fun cs => .ok (a, ⟨cs, Nat.le_refl _⟩)

/-- Reads on with a reader that may depend on the result so far. -/
def andThen (first : Reader ε α) (second : α → Reader ε β) : Reader ε β :=
  fun cs =>
    match first cs with
    | .error e => .error e
    | .ok (a, middle) =>
      match second a middle.1 with
      | .error e => .error e
      | .ok (b, rest) => .ok (b, ⟨rest.1, Nat.le_trans rest.2 middle.2⟩)

instance : Monad (Reader ε) where
  pure := give
  bind := andThen

/-- Ends with an error. -/
def fail (e : ε) : Reader ε α :=
  fun _ => .error e

/-- The next character, which stays; `none` at the end. -/
def peek : Reader ε (Option Char) :=
  fun cs => .ok (cs.head?, ⟨cs, Nat.le_refl _⟩)

/-- All that is left, which stays. -/
def lookAhead : Reader ε (List Char) :=
  fun cs => .ok (cs, ⟨cs, Nat.le_refl _⟩)

/-- Takes the next character; at the end it is an error. -/
def next (atEnd : ε) : Reader ε Char
  | [] => .error atEnd
  | c :: cs => .ok (c, ⟨cs, Nat.le_succ _⟩)

/-- Passes over some characters. -/
def skip (count : Nat) : Reader ε Unit :=
  fun cs => .ok ((), ⟨cs.drop count, by simp⟩)

/-- Takes the given character; anything else is an error. -/
def expect (c : Char) (otherwise : ε) : Reader ε Unit :=
  andThen (next otherwise) fun found => if found = c then give () else fail otherwise

/-- Takes characters as long as they satisfy a test. -/
def takeWhile (test : Char → Bool) : Reader ε (List Char) :=
  fun cs => .ok (cs.takeWhile test, ⟨cs.dropWhile test, by
    have := congrArg List.length (@List.takeWhile_append_dropWhile _ test cs)
    rw [List.length_append] at this
    omega⟩)

/-- Repeats a step that either goes on with a new state or ends with a result. A step that goes on
without taking anything is an error. -/
def loop (stuck : ε) (step : σ → Reader ε (σ ⊕ α)) (state : σ) : Reader ε α :=
  fun cs =>
    match step state cs with
    | .error e => .error e
    | .ok (.inr a, rest) => .ok (a, rest)
    | .ok (.inl state', rest) =>
      if rest.1.length < cs.length then
        match loop stuck step state' rest.1 with
        | .error e => .error e
        | .ok (a, rest') => .ok (a, ⟨rest'.1, Nat.le_trans rest'.2 rest.2⟩)
      else .error stuck
termination_by cs => cs.length

/-- Reads a whole text; characters left over are an error. -/
def parse (leftOver : ε) (reader : Reader ε α) (cs : List Char) : Except ε α :=
  match reader cs with
  | .error e => .error e
  | .ok (a, rest) => if rest.1.isEmpty then .ok a else .error leftOver

theorem pure_apply (a : α) (cs : List Char) :
    (pure a : Reader ε α) cs = .ok (a, ⟨cs, Nat.le_refl _⟩) := rfl

theorem bind_apply (first : Reader ε α) (second : α → Reader ε β) (cs : List Char) :
    (first >>= second) cs =
      match first cs with
      | .error e => .error e
      | .ok (a, middle) =>
        match second a middle.1 with
        | .error e => .error e
        | .ok (b, rest) => .ok (b, ⟨rest.1, Nat.le_trans rest.2 middle.2⟩) := rfl

theorem loop_apply (stuck : ε) (step : σ → Reader ε (σ ⊕ α)) (state : σ) (cs : List Char) :
    loop stuck step state cs =
      match step state cs with
      | .error e => .error e
      | .ok (.inr a, rest) => .ok (a, rest)
      | .ok (.inl state', rest) =>
        if rest.1.length < cs.length then
          match loop stuck step state' rest.1 with
          | .error e => .error e
          | .ok (a, rest') => .ok (a, ⟨rest'.1, Nat.le_trans rest'.2 rest.2⟩)
        else .error stuck := by
  rw [loop]

end Reader

end Sift
