import Mathlib.Logic.Function.Iterate
import Mathlib.Logic.Relation
import ProofAgent.Base.Interleaving

/-! # A call among others

One call makes its transactions, and between any two of them others change the state by steps
of their own. `Ensures` says of the call that it ends as wanted whatever the others do; it goes
through a call transaction by transaction, and `ensures_bind` and `ensures_caught` take a call
apart into its sequence and its handlers. -/
namespace ProofAgent.Base

variable {σ ε α β : Type} {others : σ → σ → Prop}

namespace Process

/-- What is left of a call, and the state that it meets. -/
structure Moment (σ ε α : Type) where
  rest : Process σ ε α
  state : σ

/-- A transaction of the call, or a step of the others. -/
inductive Move (others : σ → σ → Prop) : Moment σ ε α → Moment σ ε α → Prop
  | own (write : σ → σ) (next : σ → Process σ ε α) (s : σ) :
      Move others ⟨.step write next, s⟩ ⟨next s, write s⟩
  | others (x : Process σ ε α) {s t : σ} (h : others s t) : Move others ⟨x, s⟩ ⟨x, t⟩

/-- The call that starts at `s` may end with `r`, and `t` is what its last transaction leaves. -/
def EndsAmong (others : σ → σ → Prop) (x : Process σ ε α) (s : σ) (r : Except ε α) (t : σ) : Prop :=
  ∃ write next u, Relation.ReflTransGen (Move others) ⟨x, s⟩ ⟨.step write next, u⟩ ∧
    next u = .done r ∧ write u = t

/-- However the others step in, the call ends with a result and a state of `Q`. -/
def Ensures (others : σ → σ → Prop) (Q : Except ε α → σ → Prop) : Process σ ε α → σ → Prop
  | .done r, s => Q r s
  | .step write next, s => ∀ t, Relation.ReflTransGen others s t →
    (next t).Ensures others Q (write t)

/-! ## The rules -/

theorem ensures_mono {Q P : Except ε α → σ → Prop} (hQP : ∀ r s, Q r s → P r s) :
    ∀ {x : Process σ ε α} {s : σ}, x.Ensures others Q s → x.Ensures others P s
  | .done _, _, h => hQP _ _ h
  | .step _ _, _, h => fun t ht => ensures_mono hQP (h t ht)

/-- A sequence: the second part goes on from whatever the first one returns. -/
theorem ensures_bind {Q : Except ε β → σ → Prop} {f : α → Process σ ε β} :
    ∀ {x : Process σ ε α} {s : σ}, x.Ensures others (fun r s => match r with
      | .ok a => (f a).Ensures others Q s
      | .error e => Q (.error e) s) s → (x >>= f).Ensures others Q s
  | .done (.ok _), _, h => h
  | .done (.error _), _, h => h
  | .step _ _, _, h => fun t ht => ensures_bind (h t ht)

/-- `try`: the handler goes on from whatever the call ends with. -/
theorem ensures_caught {Q : Except ε β → σ → Prop} {f : Except ε α → Process σ ε β} :
    ∀ {x : Process σ ε α} {s : σ}, x.Ensures others (fun r s => (f r).Ensures others Q s) s →
      (x.caught >>= f).Ensures others Q s
  | .done _, _, h => h
  | .step _ _, _, h => fun t ht => ensures_caught (h t ht)

theorem ensures_pure {Q : Except ε α → σ → Prop} {a : α} {s : σ} (h : Q (.ok a) s) :
    (pure a : Process σ ε α).Ensures others Q s := h

theorem ensures_raise {Q : Except ε α → σ → Prop} {e : ε} {s : σ} (h : Q (.error e) s) :
    (raise e : Process σ ε α).Ensures others Q s := h

theorem ensures_ofExcept {Q : Except ε α → σ → Prop} {x : Except ε α} {s : σ} (h : Q x s) :
    (ofExcept x : Process σ ε α).Ensures others Q s := h

/-- A loop over a list: each round keeps what `I` says of the value that goes through. -/
theorem ensures_foldlM {I : β → σ → Prop} {Q : Except ε β → σ → Prop}
    {f : β → α → Process σ ε β} (hdone : ∀ b s, I b s → Q (.ok b) s)
    (hstep : ∀ b a s, I b s → (f b a).Ensures others (fun r s => match r with
      | .ok b => I b s
      | .error e => Q (.error e) s) s) :
    ∀ (items : List α) {b : β} {s : σ}, I b s → (items.foldlM f b).Ensures others Q s
  | [], _, _, h => hdone _ _ h
  | a :: rest, b, s, h => by
    rw [List.foldlM_cons]
    refine ensures_bind (ensures_mono (fun r t hr => ?_) (hstep b a s h))
    cases r with
    | error e => exact hr
    | ok b' => exact ensures_foldlM hdone hstep rest hr

/-! ## Runs -/

/-- What a call ensures is still ensured after a step of the others, unless it has ended. -/
theorem Ensures.step {Q : Except ε α → σ → Prop} {x : Process σ ε α} {s t : σ}
    (h : x.Ensures others Q s) (hst : others s t) : x.Ensures others Q t ∨ ∃ r, x = .done r := by
  cases x with
  | done r => exact .inr ⟨r, rfl⟩
  | step write next => exact .inl fun u hu => h u (.head hst hu)

/-- **What a call ensures holds when it ends.** -/
theorem Ensures.ends {Q : Except ε α → σ → Prop} {x : Process σ ε α} {s t : σ} {r : Except ε α}
    (h : x.Ensures others Q s) (hends : x.EndsAmong others s r t) : Q r t := by
  obtain ⟨write, next, u, hmoves, hdone, rfl⟩ := hends
  -- a moment of the run is ensured to end well, or the call has ended before
  have hmoment : ∀ m : Moment σ ε α, Relation.ReflTransGen (Move others) ⟨x, s⟩ m →
      m.rest.Ensures others Q m.state ∨ ∃ r, m.rest = .done r := by
    intro m hm
    induction hm with
    | refl => exact .inl h
    | tail _ hmove ih =>
      cases hmove with
      | own write next s =>
        rcases ih with ih | ⟨r, hr⟩
        · exact .inl (ih s .refl)
        · cases hr
      | others x hst =>
        rcases ih with ih | ⟨r, hr⟩
        · exact ih.step hst
        · exact .inr ⟨r, hr⟩
  rcases hmoment _ hmoves with hensures | ⟨r, hr⟩
  · have hlast := hensures u .refl
    rw [hdone] at hlast
    exact hlast
  · cases hr

/-! ## Steps of the call alone -/

/-- The next transaction of the call, if it goes on. -/
def Moment.advance (m : Moment σ ε α) : Moment σ ε α :=
  match m.rest with
  | .done _ => m
  | .step write next => ⟨next m.state, write m.state⟩

/-- What the next transaction ends with, if it is the last one. -/
def Moment.last (m : Moment σ ε α) : Option (Except ε α) :=
  match m.rest with
  | .done _ => none
  | .step _ next => match next m.state with
    | .done r => some r
    | .step _ _ => none

theorem Moment.reaches (others : σ → σ → Prop) (m : Moment σ ε α) :
    ∀ n, Relation.ReflTransGen (Move others) m (advance^[n] m)
  | 0 => .refl
  | n + 1 => by
    rw [Function.iterate_succ_apply']
    refine (reaches others m n).trans ?_
    generalize advance^[n] m = m'
    obtain ⟨x, s⟩ := m'
    cases x with
    | done r => exact .refl
    | step write next => exact .single (.own write next s)

/-- A call that has come to its last transaction ends there. -/
theorem Moment.ends {x : Process σ ε α} {s : σ} {m : Moment σ ε α} {r : Except ε α}
    (hreached : Relation.ReflTransGen (Move others) ⟨x, s⟩ m) (hlast : m.last = some r) :
    x.EndsAmong others s r m.advance.state := by
  obtain ⟨x', u⟩ := m
  cases x' with
  | done r' => cases hlast
  | step write next =>
    refine ⟨write, next, u, hreached, ?_, rfl⟩
    unfold last at hlast
    dsimp only at hlast
    split at hlast
    · rename_i hdone
      rw [hdone, Option.some.inj hlast]
    · cases hlast

end Process

end ProofAgent.Base
