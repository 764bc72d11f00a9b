import ProofAgent.Base.Outcome

/-! # Computations with a state

A computation reads and writes a state, and returns or raises. What it wrote
before it raised stays written. `Triple P x Q E` says what holds after `x` has
returned and after it has raised; a loop without a bound runs on fuel, with one
rule for its invariant and one for its termination. -/
namespace ProofAgent.Base

/-- A computation on the state `σ` that returns an `α` or raises an `ε`. -/
def Effect (σ ε α : Type) : Type := σ → Except ε α × σ

variable {σ ε α β : Type}

namespace Effect

/-- Go on with what was returned. -/
def andThen (x : Effect σ ε α) (f : α → Effect σ ε β) : Effect σ ε β := fun s =>
  match x s with
  | (.ok a, s') => f a s'
  | (.error e, s') => (.error e, s')

instance : Monad (Effect σ ε) where
  pure a := fun s => (.ok a, s)
  bind := andThen

def raise (e : ε) : Effect σ ε α := fun s => (.error e, s)

/-- A computation that leaves the state alone. -/
def ofExcept (x : Except ε α) : Effect σ ε α := fun s => (x, s)

def read : Effect σ ε σ := fun s => (.ok s, s)

def modify (f : σ → σ) : Effect σ ε Unit := fun s => (.ok (), f s)

/-- `try: x except e: handler(e)`. -/
def attempt (x : Effect σ ε α) (handler : ε → Effect σ ε α) : Effect σ ε α := fun s =>
  match x s with
  | (.ok a, s') => (.ok a, s')
  | (.error e, s') => handler e s'

/-- Run a computation on a part of the state. -/
def focus {τ : Type} (view : σ → τ) (put : σ → τ → σ) (x : Effect τ ε α) : Effect σ ε α := fun s =>
  let (r, t) := x (view s)
  (r, put s t)

/-- Raise `e` unless `p` holds. -/
def require (p : Prop) [Decidable p] (e : ε) : Effect σ ε Unit :=
  if p then pure () else raise e

/-- `while True`: repeat the body until it gives a result. `none` when the fuel runs out. -/
def loop (body : α → Effect σ ε (α ⊕ β)) : Nat → α → Effect σ ε (Option β)
  | 0, _ => pure none
  | fuel + 1, a => do
    match ← body a with
    | .inl a' => loop body fuel a'
    | .inr b => pure (some b)

/-! ## How a computation runs -/

theorem run_pure (a : α) (s : σ) : (pure a : Effect σ ε α) s = (.ok a, s) := rfl

theorem run_bind (x : Effect σ ε α) (f : α → Effect σ ε β) (s : σ) :
    (x >>= f) s = match x s with
      | (.ok a, s') => f a s'
      | (.error e, s') => (.error e, s') := rfl

theorem bind_of_ok {x : Effect σ ε α} {f : α → Effect σ ε β} {s s' : σ} {a : α}
    (h : x s = (.ok a, s')) : (x >>= f) s = f a s' := by
  rw [run_bind, h]

theorem bind_of_error {x : Effect σ ε α} {f : α → Effect σ ε β} {s s' : σ} {e : ε}
    (h : x s = (.error e, s')) : (x >>= f) s = (.error e, s') := by
  rw [run_bind, h]

theorem pure_then (a : α) (f : α → Effect σ ε β) : (pure a >>= f) = f a := rfl

theorem raise_then (e : ε) (f : α → Effect σ ε β) : (raise e >>= f) = raise e := rfl

theorem ok_then (a : α) (f : α → Effect σ ε β) : (ofExcept (.ok a) >>= f) = f a := rfl

theorem error_then (e : ε) (f : α → Effect σ ε β) : (ofExcept (.error e) >>= f) = raise e := rfl

theorem read_then (f : σ → Effect σ ε β) (s : σ) : (read >>= f) s = f s s := rfl

theorem modify_then (g : σ → σ) (f : Unit → Effect σ ε β) (s : σ) :
    (modify g >>= f) s = f () (g s) := rfl

theorem require_then {p : Prop} [Decidable p] (e : ε) (h : p) (f : Unit → Effect σ ε β) :
    (require p e >>= f) = f () := by
  rw [require, if_pos h, pure_then]

theorem require_not_then {p : Prop} [Decidable p] (e : ε) (h : ¬ p) (f : Unit → Effect σ ε β) :
    (require p e >>= f) = raise e := by
  rw [require, if_neg h, raise_then]

/-- A sequence that returned: both parts did. -/
theorem bind_ok {x : Effect σ ε α} {f : α → Effect σ ε β} {s s'' : σ} {b : β}
    (h : (x >>= f) s = (.ok b, s'')) :
    ∃ a s', x s = (.ok a, s') ∧ f a s' = (.ok b, s'') := by
  rw [run_bind] at h
  rcases hx : x s with ⟨r, s'⟩
  rw [hx] at h
  cases r with
  | ok a => exact ⟨a, s', rfl, h⟩
  | error e => cases h

/-- Two continuations that agree on what was returned. -/
theorem bind_congr {x : Effect σ ε α} {f g : α → Effect σ ε β} {s : σ}
    (h : ∀ a s', x s = (.ok a, s') → f a s' = g a s') : (x >>= f) s = (x >>= g) s := by
  rw [run_bind, run_bind]
  rcases hx : x s with ⟨e | a, s'⟩
  · rfl
  · exact h a s' hx

theorem attempt_congr {x y : Effect σ ε α} {handler : ε → Effect σ ε α} {s : σ} (h : x s = y s) :
    attempt x handler s = attempt y handler s := by
  unfold attempt
  rw [h]

/-- More fuel does not change how a loop ended. -/
theorem loop_more {body : α → Effect σ ε (α ⊕ β)} : ∀ {n : Nat} {a : α} {s s' : σ}
    {r : Except ε (Option β)}, loop body n a s = (r, s') → r ≠ .ok none → ∀ k,
    loop body (n + k) a s = (r, s')
  | 0, _, _, _, _, h, hr, _ => by
    rw [loop, run_pure] at h
    cases h
    exact absurd rfl hr
  | n + 1, a, s, s', r, h, hr, k => by
    rw [Nat.add_right_comm]
    rw [loop, run_bind] at h ⊢
    rcases hb : body a s with ⟨e | c, s₁⟩
    · rw [hb] at h
      exact h
    · rw [hb] at h
      cases c with
      | inl a' => exact loop_more (n := n) h hr k
      | inr b => exact h

end Effect

open Effect

/-! ## Triples -/

/-- From a state in `P`, `x` returns with `Q` or raises with `E`. -/
def Triple (P : σ → Prop) (x : Effect σ ε α) (Q : α → σ → Prop) (E : ε → σ → Prop) : Prop :=
  ∀ s, P s → (∀ a s', x s = (.ok a, s') → Q a s') ∧ ∀ e s', x s = (.error e, s') → E e s'

namespace Triple

variable {P P' : σ → Prop} {Q Q' : α → σ → Prop} {E E' : ε → σ → Prop} {R : β → σ → Prop}
  {x : Effect σ ε α} {f : α → Effect σ ε β}

theorem conseq (h : Triple P x Q E) (hP : ∀ s, P' s → P s) (hQ : ∀ a s, Q a s → Q' a s)
    (hE : ∀ e s, E e s → E' e s) : Triple P' x Q' E' := fun s hs =>
  ⟨fun a s' hr => hQ a s' ((h s (hP s hs)).1 a s' hr),
    fun e s' hr => hE e s' ((h s (hP s hs)).2 e s' hr)⟩

theorem post (h : Triple P x Q E) (hQ : ∀ a s, Q a s → Q' a s) : Triple P x Q' E :=
  h.conseq (fun _ hs => hs) hQ fun _ _ he => he

theorem pre (h : Triple P x Q E) (hP : ∀ s, P' s → P s) : Triple P' x Q E :=
  h.conseq hP (fun _ _ hq => hq) fun _ _ he => he

theorem bind (hx : Triple P x Q E) (hf : ∀ a, Triple (Q a) (f a) R E) : Triple P (x >>= f) R E := by
  intro s hs
  have h := hx s hs
  rw [run_bind]
  rcases hr : x s with ⟨e | a, s'⟩
  · refine ⟨fun _ _ h' => (nomatch h'), fun e' s'' h' => ?_⟩
    cases h'
    exact h.2 _ _ hr
  · exact hf a s' (h.1 _ _ hr)

theorem ret {a : α} (h : ∀ s, P s → Q a s) : Triple P (pure a : Effect σ ε α) Q E := by
  intro s hs
  refine ⟨fun a' s' hr => ?_, fun _ _ hr => (nomatch hr)⟩
  cases hr
  exact h s hs

theorem raise {e : ε} (h : ∀ s, P s → E e s) : Triple P (raise e : Effect σ ε α) Q E := by
  intro s hs
  refine ⟨fun _ _ hr => (nomatch hr), fun e' s' hr => ?_⟩
  cases hr
  exact h s hs

theorem ofExcept {y : Except ε α} (hok : ∀ a s, y = .ok a → P s → Q a s)
    (he : ∀ e s, y = .error e → P s → E e s) : Triple P (ofExcept y) Q E := by
  intro s hs
  refine ⟨fun a s' hr => ?_, fun e s' hr => ?_⟩
  · cases hr
    exact hok a s rfl hs
  · cases hr
    exact he e s rfl hs

theorem read {S : σ → σ → Prop} (h : ∀ s, P s → S s s) :
    Triple P (Effect.read : Effect σ ε σ) S E := by
  intro s hs
  refine ⟨fun a s' hr => ?_, fun _ _ hr => (nomatch hr)⟩
  cases hr
  exact h s hs

theorem modify {g : σ → σ} {S : Unit → σ → Prop} (h : ∀ s, P s → S () (g s)) :
    Triple P (Effect.modify g : Effect σ ε Unit) S E := by
  intro s hs
  refine ⟨fun a s' hr => ?_, fun _ _ hr => (nomatch hr)⟩
  cases hr
  exact h s hs

theorem require {p : Prop} [Decidable p] {e : ε} {S : Unit → σ → Prop}
    (hok : ∀ s, p → P s → S () s) (he : ∀ s, ¬ p → P s → E e s) :
    Triple P (Effect.require p e) S E := by
  unfold Effect.require
  split
  · rename_i hp
    exact ret fun s hs => hok s hp hs
  · rename_i hp
    exact Triple.raise fun s hs => he s hp hs

theorem ite {p : Prop} [Decidable p] {y : Effect σ ε α} (ht : p → Triple P x Q E)
    (hf : ¬ p → Triple P y Q E) : Triple P (if p then x else y) Q E := by
  split
  · rename_i hp
    exact ht hp
  · rename_i hp
    exact hf hp

theorem attempt {F : ε → σ → Prop} {handler : ε → Effect σ ε α} (hx : Triple P x Q F)
    (hh : ∀ e, Triple (F e) (handler e) Q E) : Triple P (attempt x handler) Q E := by
  intro s hs
  have h := hx s hs
  unfold Effect.attempt
  rcases hr : x s with ⟨e | a, s'⟩
  · exact hh e s' (h.2 _ _ hr)
  · refine ⟨fun a' s'' h' => ?_, fun _ _ h' => (nomatch h')⟩
    cases h'
    exact h.1 _ _ hr

theorem focus {τ : Type} {view : σ → τ} {put : σ → τ → σ} {x : Effect τ ε α}
    (hok : ∀ s a t, P s → x (view s) = (.ok a, t) → Q a (put s t))
    (he : ∀ s e t, P s → x (view s) = (.error e, t) → E e (put s t)) :
    Triple P (Effect.focus view put x) Q E := by
  intro s hs
  unfold Effect.focus
  rcases hx : x (view s) with ⟨e | a, t⟩
  · refine ⟨fun _ _ hr => (nomatch hr), fun e' s' hr => ?_⟩
    cases hr
    exact he s e t hs hx
  · refine ⟨fun a' s' hr => ?_, fun _ _ hr => (nomatch hr)⟩
    cases hr
    exact hok s a t hs hx

/-- A precondition that is a fact can be used as one. -/
theorem given {p : Prop} (h : p → Triple P x Q E) : Triple (fun s => p ∧ P s) x Q E :=
  fun s hs => h hs.1 s hs.2

/-- **The invariant of a loop.** -/
theorem loop {I : α → σ → Prop} {body : α → Effect σ ε (α ⊕ β)} {R : β → σ → Prop}
    (hbody : ∀ a, Triple (I a) (body a) (fun r s => Sum.elim (fun a' => I a' s) (fun b => R b s) r) E) :
    ∀ (n : Nat) (a : α), Triple (I a) (Effect.loop body n a) (fun r s => ∀ b, r = some b → R b s) E
  | 0, a => ret fun s _ b hb => (nomatch hb)
  | n + 1, a => by
    refine (hbody a).bind fun r => ?_
    cases r with
    | inl a' => exact loop hbody n a'
    | inr b =>
      refine ret fun s hs b' hb => ?_
      cases hb
      exact hs

/-- **A loop ends** when each round lowers a measure that the fuel exceeds. -/
theorem loop_ends {I : α → σ → Prop} {body : α → Effect σ ε (α ⊕ β)} {μ : α → Nat}
    (hbody : ∀ a, Triple (I a) (body a)
      (fun r s => Sum.elim (fun a' => I a' s ∧ μ a' < μ a) (fun _ => True) r) fun _ _ => True) :
    ∀ (n : Nat) (a : α), μ a < n → Triple (I a) (Effect.loop body n a) (fun r _ => r ≠ none)
      fun _ _ => True
  | 0, a, h => absurd h (Nat.not_lt_zero _)
  | n + 1, a, h => by
    refine (hbody a).bind fun r => ?_
    cases r with
    | inl a' =>
      refine fun s hs => ?_
      have hlt : μ a' < n := Nat.lt_of_lt_of_le hs.2 (Nat.le_of_lt_succ h)
      exact loop_ends hbody n a' hlt s hs.1
    | inr b => exact ret fun s _ hb => (nomatch hb)

end Triple

end ProofAgent.Base
