/-
# Readers and a character at the end of a text

A reader overlooks a character at the end of a text when it does the same with and without it: the same
result or the same error, and rests of which the second again has the character behind the first, or
both of which are used up. Skipping does so whatever the character is. A reader that looks at the next
character does so if the character at the end is treated there as the end is. What is made of readers
that overlook a character overlooks it, and so does a repetition, as long as its step does not succeed
at the end of the text.

Key definitions: `Reader.run`, `Reader.EndsAlike`, `Reader.SameApart`, `Reader.Overlooks`.
Key theorems: `Reader.Overlooks.bind`, `Reader.overlooks_ite`, `Reader.overlooks_next_bind`,
`Reader.overlooks_loop`.
-/
import Sift.Text.Reader

namespace Sift.Reader

variable {ε α β σ : Type} {last : Char}

/-! ### What a reader gives and leaves -/

/-- What a reader gives for a text, with the rest that it leaves. -/
def run (reader : Reader ε α) (cs : List Char) : Except ε (α × List Char) :=
  (reader cs).map fun taken => (taken.1, taken.2.1)

theorem run_bind (first : Reader ε α) (second : α → Reader ε β) (cs : List Char) :
    (first >>= second).run cs =
      (first.run cs).bind fun taken => (second taken.1).run taken.2 := by
  unfold run
  rw [bind_apply]
  rcases first cs with e | ⟨a, rest, hrest⟩
  · rfl
  · simp only [Except.map, Except.bind]
    rcases second a rest with e | ⟨b, rest', hrest'⟩ <;> rfl

theorem run_loop (stuck : ε) (step : σ → Reader ε (σ ⊕ α)) (state : σ) (cs : List Char) :
    (loop stuck step state).run cs =
      ((step state).run cs).bind fun taken =>
        match taken.1 with
        | .inr a => .ok (a, taken.2)
        | .inl state' =>
          if taken.2.length < cs.length then (loop stuck step state').run taken.2
          else .error stuck := by
  unfold run
  rw [loop_apply]
  rcases step state cs with e | ⟨state' | a, rest, hrest⟩
  · rfl
  · simp only [Except.map, Except.bind]
    by_cases hlt : rest.length < cs.length
    · simp only [if_pos hlt]
      rcases loop stuck step state' rest with e | ⟨a, rest', hrest'⟩ <;> rfl
    · simp only [if_neg hlt]
  · rfl

theorem parse_eq (leftOver : ε) (reader : Reader ε α) (cs : List Char) :
    reader.parse leftOver cs =
      (reader.run cs).bind fun taken => if taken.2.isEmpty then .ok taken.1 else .error leftOver := by
  unfold parse run
  rcases reader cs with e | ⟨a, rest, hrest⟩ <;> rfl

/-! ### A character at the end -/

/-- Whether the second of two texts is the first one with a character behind it, or both are used up. -/
inductive EndsAlike (last : Char) : List Char → List Char → Prop
  | behind (cs : List Char) : EndsAlike last cs (cs ++ [last])
  | usedUp : EndsAlike last [] []

/-- Whether two outcomes differ at most by a character at the end of what is left. -/
inductive SameApart (last : Char) :
    Except ε (α × List Char) → Except ε (α × List Char) → Prop
  | error (e : ε) : SameApart last (.error e) (.error e)
  | ok (a : α) {rest rest' : List Char} (h : EndsAlike last rest rest') :
      SameApart last (.ok (a, rest)) (.ok (a, rest'))

/-- Whether a reader does the same with and without a character at the end of the text. -/
def Overlooks (last : Char) (reader : Reader ε α) : Prop :=
  ∀ cs cs', EndsAlike last cs cs' → SameApart last (reader.run cs) (reader.run cs')

/-- Outcomes that are the same go on alike if what goes on treats rests that end alike so. -/
theorem SameApart.bind {outcome outcome' : Except ε (α × List Char)}
    {more more' : α × List Char → Except ε (β × List Char)} (h : SameApart last outcome outcome')
    (hmore : ∀ a rest rest', EndsAlike last rest rest' →
      SameApart last (more (a, rest)) (more' (a, rest'))) :
    SameApart last (outcome.bind more) (outcome'.bind more') := by
  cases h with
  | error e => exact .error e
  | ok a hrest => exact hmore a _ _ hrest

theorem EndsAlike.drop {cs cs' : List Char} (h : EndsAlike last cs cs') (count : Nat) :
    EndsAlike last (cs.drop count) (cs'.drop count) := by
  cases h with
  | usedUp =>
    rw [List.drop_nil]
    exact .usedUp
  | behind cs =>
    by_cases hle : count ≤ cs.length
    · rw [List.drop_append_of_le_length hle]
      exact .behind _
    · have hlt : (cs ++ [last]).length ≤ count := by
        rw [List.length_append, List.length_singleton]
        omega
      rw [List.drop_eq_nil_of_le (by omega), List.drop_eq_nil_of_le hlt]
      exact .usedUp

theorem EndsAlike.dropWhile {cs cs' : List Char} (h : EndsAlike last cs cs') (test : Char → Bool) :
    EndsAlike last (cs.dropWhile test) (cs'.dropWhile test) := by
  cases h with
  | usedUp => exact .usedUp
  | behind cs =>
    rw [List.dropWhile_append]
    by_cases hnil : cs.dropWhile test = []
    · by_cases hlast : test last = true
      · simp only [hnil, List.isEmpty_nil, if_true, List.dropWhile_cons_of_pos hlast,
          List.dropWhile_nil]
        exact .usedUp
      · simp only [hnil, List.isEmpty_nil, if_true, List.dropWhile_cons_of_neg hlast]
        exact .behind []
    · rw [if_neg (mt List.isEmpty_iff.mp hnil)]
      exact .behind _

/-! ### Readers that overlook it -/

theorem overlooks_pure (a : α) : Overlooks last (pure a : Reader ε α) :=
  fun _ _ h => .ok a h

theorem overlooks_fail (e : ε) : Overlooks last (fail e : Reader ε α) :=
  fun _ _ _ => .error e

theorem overlooks_skip (count : Nat) : Overlooks last (skip count : Reader ε Unit) :=
  fun _ _ h => .ok () (h.drop count)

/-- Passing over characters leaves texts that end alike, whether the one at the end is passed over or
not. -/
theorem overlooks_skipWhile (test : Char → Bool) :
    Overlooks last (takeWhile test >>= fun _ => pure () : Reader ε Unit) :=
  fun _ _ h => .ok () (h.dropWhile test)

theorem overlooks_takeWhile {test : Char → Bool} (hlast : test last = false) :
    Overlooks last (takeWhile test : Reader ε (List Char)) := by
  intro cs cs' h
  have htake : cs'.takeWhile test = cs.takeWhile test := by
    cases h with
    | usedUp => rfl
    | behind cs =>
      induction cs with
      | nil => simp [hlast]
      | cons c cs ih => simp only [List.cons_append, List.takeWhile_cons, ih]
  have hrun (text : List Char) : (takeWhile test : Reader ε (List Char)).run text =
      .ok (text.takeWhile test, text.dropWhile test) := rfl
  rw [hrun, hrun, htake]
  exact .ok _ (h.dropWhile test)

/-- Two readers that overlook a character do so one after the other. -/
theorem Overlooks.bind {first : Reader ε α} {second : α → Reader ε β} (h : Overlooks last first)
    (h' : ∀ a, Overlooks last (second a)) : Overlooks last (first >>= second) := by
  intro cs cs' hends
  rw [run_bind, run_bind]
  exact (h cs cs' hends).bind fun a => h' a

theorem overlooks_ite {p : Prop} [Decidable p] {reader reader' : Reader ε α}
    (h : Overlooks last reader) (h' : Overlooks last reader') :
    Overlooks last (if p then reader else reader') := by
  by_cases hp : p
  · rw [if_pos hp]
    exact h
  · rw [if_neg hp]
    exact h'

/-- What reads on after a look at the next character overlooks the one at the end if it treats it as
the end of the text. -/
theorem overlooks_peek_bind {second : Option Char → Reader ε α}
    (h : ∀ c, Overlooks last (second c)) (hlast : second (some last) = second none) :
    Overlooks last (peek >>= second) := by
  have hrun (cs : List Char) : (peek >>= second).run cs = (second cs.head?).run cs := by
    rw [run_bind]
    rfl
  intro cs cs' hends
  rw [hrun, hrun]
  cases hends with
  | usedUp => exact h none [] [] .usedUp
  | behind cs =>
    cases cs with
    | nil =>
      rw [List.nil_append, List.head?_cons, hlast]
      exact h none _ _ (.behind [])
    | cons c cs => exact h (some c) _ _ (.behind (c :: cs))

/-- What reads on after the next character overlooks the one at the end if it fails there like the end
of the text. -/
theorem overlooks_next_bind {e : ε} {second : Char → Reader ε α} (h : ∀ c, Overlooks last (second c))
    (hlast : (second last).run [] = .error e) : Overlooks last (next e >>= second) := by
  intro cs cs' hends
  cases hends with
  | usedUp => exact .error e
  | behind cs =>
    cases cs with
    | nil =>
      have herror : (next e >>= second).run ([] ++ [last]) = .error e := by
        rw [run_bind]
        exact hlast
      rw [herror]
      exact .error e
    | cons c cs =>
      rw [run_bind, run_bind]
      exact h c _ _ (.behind cs)

theorem overlooks_expect {c : Char} (hc : last ≠ c) (e : ε) : Overlooks last (expect c e) := by
  refine overlooks_next_bind (fun found => overlooks_ite (overlooks_pure ()) (overlooks_fail e)) ?_
  rw [if_neg hc]
  rfl

/-- A rest is shorter than the text with the character exactly when it is so without. -/
theorem EndsAlike.length_lt_iff {cs cs' rest rest' : List Char} (h : EndsAlike last cs cs')
    (hrest : EndsAlike last rest rest') (hne : cs ≠ []) :
    rest'.length < cs'.length ↔ rest.length < cs.length := by
  have hpos : 0 < cs.length := List.length_pos_iff.mpr hne
  have hlength : cs'.length = cs.length + 1 := by
    cases h with
    | usedUp => exact absurd rfl hne
    | behind cs => exact List.length_append
  cases hrest with
  | usedUp =>
    rw [List.length_nil, hlength]
    omega
  | behind rest =>
    rw [List.length_append, List.length_singleton, hlength]
    omega

/-- A repetition overlooks a character if its step does, and the step fails at the end of the text: so
a step that goes on has taken something with the character exactly where it has without. -/
theorem overlooks_loop {stuck : ε} {step : σ → Reader ε (σ ⊕ α)}
    (h : ∀ state, Overlooks last (step state)) (hend : ∀ state, ∃ e, (step state).run [] = .error e)
    (state : σ) : Overlooks last (loop stuck step state) := by
  intro cs
  induction hlength : cs.length using Nat.strongRecOn generalizing state cs with
  | ind length ih =>
    intro cs' hends
    have hstep := h state cs cs' hends
    rw [run_loop, run_loop]
    by_cases hnil : cs = []
    · obtain ⟨e, he⟩ := hend state
      rw [hnil, he] at hstep
      rw [hnil, he]
      generalize (step state).run cs' = outcome' at hstep
      cases hstep
      exact .error e
    · refine hstep.bind fun found rest rest' hrest => ?_
      have hlt := hends.length_lt_iff hrest hnil
      rcases found with state' | a
      · by_cases hshorter : rest.length < cs.length
        · simp only [if_pos hshorter, if_pos (hlt.mpr hshorter)]
          exact ih rest.length (hlength ▸ hshorter) state' rest rfl rest' hrest
        · simp only [if_neg hshorter, if_neg (mt hlt.mp hshorter)]
          exact .error stuck
      · exact .ok a hrest

end Sift.Reader
