import ProofAgent.Base.Outcome

/-! # Histories of atomic calls

A service answers calls over a state: a call returns a reply together with the
next state, or raises and leaves the state as it was. A history is the list of
calls that were made, in the order in which they took effect; every choice the
outside world makes (fresh identifiers, clocks) is an argument of the call, so
a history determines the state it reaches. -/
namespace ProofAgent.Base

variable {σ ι ω ε : Type}

/-- How a service answers a call: a reply and the next state, or an error. -/
abbrev Service (σ ι ω ε : Type) := ι → σ → Except ε (ω × σ)

/-- The state after one call; a call that raises changes nothing. -/
def step (serve : Service σ ι ω ε) (s : σ) (c : ι) : σ :=
  match serve c s with
  | .ok (_, t) => t
  | .error _ => s

/-- The state after a history. -/
def after (serve : Service σ ι ω ε) (s : σ) (calls : List ι) : σ :=
  calls.foldl (step serve) s

section
variable {serve : Service σ ι ω ε}

@[simp] theorem after_nil (s : σ) : after serve s [] = s := rfl

@[simp] theorem after_cons (s : σ) (c : ι) (calls : List ι) :
    after serve s (c :: calls) = after serve (step serve s c) calls := rfl

theorem after_append (s : σ) (first rest : List ι) :
    after serve s (first ++ rest) = after serve (after serve s first) rest :=
  List.foldl_append ..

theorem step_ok {s t : σ} {c : ι} {o : ω} (h : serve c s = .ok (o, t)) : step serve s c = t := by
  simp [step, h]

theorem step_error {s : σ} {c : ι} {e : ε} (h : serve c s = .error e) : step serve s c = s := by
  simp [step, h]

/-- What one call can do to the state: nothing, or what a returning call does. -/
theorem step_cases (serve : Service σ ι ω ε) (s : σ) (c : ι) :
    step serve s c = s ∨ ∃ o, serve c s = .ok (o, step serve s c) := by
  cases h : serve c s with
  | error e => exact .inl (step_error h)
  | ok r => exact .inr ⟨r.1, by rw [step_ok h]⟩

/-- **The invariant rule.** What every returning call preserves, every history
preserves. -/
theorem after_invariant {I : σ → Prop}
    (keep : ∀ c s o t, I s → serve c s = .ok (o, t) → I t) :
    ∀ (calls : List ι) (s : σ), I s → I (after serve s calls)
  | [], _, h => h
  | c :: calls, s, h => by
    rw [after_cons]
    refine after_invariant keep calls _ ?_
    rcases step_cases serve s c with hs | ⟨o, ho⟩
    · rw [hs]; exact h
    · exact keep c s o _ h ho

/-- **The relation rule.** A reflexive and transitive relation between the state
before and after every returning call holds between the ends of every history. -/
theorem after_related {I : σ → Prop} {R : σ → σ → Prop}
    (keep : ∀ c s o t, I s → serve c s = .ok (o, t) → I t)
    (refl : ∀ s, R s s) (trans : ∀ s t u, R s t → R t u → R s u)
    (one : ∀ c s o t, I s → serve c s = .ok (o, t) → R s t) :
    ∀ (calls : List ι) (s : σ), I s → R s (after serve s calls)
  | [], s, _ => refl s
  | c :: calls, s, h => by
    rw [after_cons]
    rcases step_cases serve s c with hs | ⟨o, ho⟩
    · rw [hs]; exact after_related keep refl trans one calls s h
    · exact trans _ _ _ (one c s o _ h ho)
        (after_related keep refl trans one calls _ (keep c s o _ h ho))

/-- How often along a history a call turns `P` from false to true. -/
def rises (serve : Service σ ι ω ε) (P : σ → Bool) : σ → List ι → Nat
  | _, [] => 0
  | s, c :: calls =>
    (if !P s && P (step serve s c) then 1 else 0) + rises serve P (step serve s c) calls

end

end ProofAgent.Base
