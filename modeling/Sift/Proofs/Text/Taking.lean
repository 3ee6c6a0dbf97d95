/-
# What readers take

A reader takes the front of a text, gives a result for it and leaves the rest. What a reader made of
others takes is put together from what those take, so that a reader is followed along a text step by
step.

Key definition: `Reader.Takes`.
Key theorems: `Reader.Takes.bind`, `Reader.Takes.loop_inl`, `Reader.Takes.loop_inr`,
`Reader.Takes.parse`.
-/
import Sift.Text.Reader

namespace Sift.Reader

variable {ε α β σ : Type}

/-- Whether a reader gives a result for a text and leaves the given rest of it. -/
def Takes (reader : Reader ε α) (cs : List Char) (a : α) (rest : List Char) : Prop :=
  ∃ h, reader cs = .ok (a, ⟨rest, h⟩)

theorem takes_pure (a : α) (cs : List Char) : (pure a : Reader ε α).Takes cs a cs :=
  ⟨Nat.le_refl _, rfl⟩

theorem takes_peek (cs : List Char) : (peek : Reader ε (Option Char)).Takes cs cs.head? cs :=
  ⟨Nat.le_refl _, rfl⟩

theorem takes_lookAhead (cs : List Char) : (lookAhead : Reader ε (List Char)).Takes cs cs cs :=
  ⟨Nat.le_refl _, rfl⟩

theorem takes_next (e : ε) (c : Char) (cs : List Char) : (next e).Takes (c :: cs) c cs :=
  ⟨Nat.le_succ _, rfl⟩

theorem takes_skip (front rest : List Char) :
    (skip front.length : Reader ε Unit).Takes (front ++ rest) () rest := by
  refine ⟨by simp, ?_⟩
  unfold skip
  simp

theorem takes_takeWhile (test : Char → Bool) (cs : List Char) :
    (takeWhile test : Reader ε (List Char)).Takes cs (cs.takeWhile test) (cs.dropWhile test) :=
  ⟨_, rfl⟩

/-- A reader that reads on with another one takes what both take. -/
theorem Takes.bind {first : Reader ε α} {second : α → Reader ε β} {cs middle rest : List Char}
    {a : α} {b : β} (h : first.Takes cs a middle) (h' : (second a).Takes middle b rest) :
    (first >>= second).Takes cs b rest := by
  obtain ⟨hmiddle, hfirst⟩ := h
  obtain ⟨hrest, hsecond⟩ := h'
  refine ⟨Nat.le_trans hrest hmiddle, ?_⟩
  rw [bind_apply, hfirst]
  dsimp only
  rw [hsecond]

theorem takes_expect (c : Char) (e : ε) (cs : List Char) : (expect c e).Takes (c :: cs) () cs := by
  refine Takes.bind (takes_next e c cs) ?_
  rw [if_pos rfl]
  exact takes_pure () cs

/-- A repetition takes what its step takes and then what is repeated from the new state. -/
theorem Takes.loop_inl {stuck : ε} {step : σ → Reader ε (σ ⊕ α)} {state state' : σ}
    {cs middle rest : List Char} {a : α} (h : (step state).Takes cs (.inl state') middle)
    (hlt : middle.length < cs.length) (h' : (loop stuck step state').Takes middle a rest) :
    (loop stuck step state).Takes cs a rest := by
  obtain ⟨hmiddle, hstep⟩ := h
  obtain ⟨hrest, hmore⟩ := h'
  refine ⟨Nat.le_trans hrest hmiddle, ?_⟩
  rw [loop_apply, hstep]
  dsimp only
  rw [if_pos hlt, hmore]

theorem Takes.loop_inr {stuck : ε} {step : σ → Reader ε (σ ⊕ α)} {state : σ} {cs rest : List Char}
    {a : α} (h : (step state).Takes cs (.inr a) rest) : (loop stuck step state).Takes cs a rest := by
  obtain ⟨hrest, hstep⟩ := h
  refine ⟨hrest, ?_⟩
  rw [loop_apply, hstep]

/-- A reader that leaves nothing reads the whole text. -/
theorem Takes.parse {reader : Reader ε α} {cs : List Char} {a : α} (h : reader.Takes cs a [])
    (leftOver : ε) : reader.parse leftOver cs = .ok a := by
  obtain ⟨hrest, hreader⟩ := h
  unfold Reader.parse
  rw [hreader]
  rfl

end Sift.Reader
