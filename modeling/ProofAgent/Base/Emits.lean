import ProofAgent.Base.Effect

/-! # What a computation emits

A tracing reads what happened between two states as a list of events. `Emits`
says of a computation which events it emits when it returns a value, and which
ones when it raises. The rules follow the structure of the computation. -/
namespace ProofAgent.Base

/-- The events between two states: none between a state and itself, and those of
two stretches one after the other. -/
structure Tracing (σ τ : Type) where
  ran : σ → σ → List τ → Prop
  refl : ∀ s, ran s s []
  trans : ∀ {a b c : σ} {x y : List τ}, ran a b x → ran b c y → ran a c (x ++ y)

variable {σ ε α β τ : Type}

theorem Effect.lawful : LawfulMonad (Effect σ ε) := by
  refine LawfulMonad.mk' _ (fun x => ?_) (fun _ _ => rfl) fun x f g => ?_
  · funext s
    show (x >>= fun a => pure a) s = x s
    rw [Effect.run_bind]
    rcases x s with ⟨_ | _, _⟩ <;> rfl
  · funext s
    simp only [Effect.run_bind]
    rcases x s with ⟨_ | _, _⟩ <;> rfl

/-- From any state `x` returns a value with events in `R`, or raises after events in `E`. -/
def Emits (t : Tracing σ τ) (x : Effect σ ε α) (R : α → List τ → Prop) (E : List τ → Prop) : Prop :=
  ∀ s, (∀ a s', x s = (.ok a, s') → ∃ ev, t.ran s s' ev ∧ R a ev) ∧
    ∀ e s', x s = (.error e, s') → ∃ ev, t.ran s s' ev ∧ E ev

/-- No event at all. -/
def NoEvent (events : List τ) : Prop := events = []

/-- A computation that emits nothing. -/
def Silent (t : Tracing σ τ) (x : Effect σ ε α) : Prop := Emits t x (fun _ => NoEvent) NoEvent

namespace Emits

variable {t : Tracing σ τ} {x y : Effect σ ε α} {f : α → Effect σ ε β} {R R' : α → List τ → Prop}
  {E E' : List τ → Prop} {R₂ : β → List τ → Prop}

theorem conseq (h : Emits t x R E) (hR : ∀ a ev, R a ev → R' a ev) (hE : ∀ ev, E ev → E' ev) :
    Emits t x R' E' := by
  intro s
  refine ⟨fun a s' hr => ?_, fun e s' hr => ?_⟩
  · obtain ⟨ev, hran, ha⟩ := (h s).1 a s' hr
    exact ⟨ev, hran, hR a ev ha⟩
  · obtain ⟨ev, hran, he⟩ := (h s).2 e s' hr
    exact ⟨ev, hran, hE ev he⟩

/-- What is returned was returned from some state. -/
theorem returned (h : Emits t x R E) : Emits t x (fun a ev => R a ev ∧ ∃ s s', x s = (.ok a, s')) E := by
  intro s
  refine ⟨fun a s' hr => ?_, (h s).2⟩
  obtain ⟨ev, hran, ha⟩ := (h s).1 a s' hr
  exact ⟨ev, hran, ha, s, s', hr⟩

theorem ret {a : α} (h : R a []) : Emits t (pure a : Effect σ ε α) R E := by
  intro s
  refine ⟨fun a' s' hr => ?_, fun _ _ hr => (nomatch hr)⟩
  cases hr
  exact ⟨[], t.refl s, h⟩

theorem raise {e : ε} (h : E []) : Emits t (Effect.raise e : Effect σ ε α) R E := by
  intro s
  refine ⟨fun _ _ hr => (nomatch hr), fun e' s' hr => ?_⟩
  cases hr
  exact ⟨[], t.refl s, h⟩

theorem bind (hx : Emits t x R E) (hE : ∀ ev, E ev → E' ev)
    (hf : ∀ a ev, R a ev → Emits t (f a) (fun b ev' => R₂ b (ev ++ ev')) fun ev' => E' (ev ++ ev')) :
    Emits t (x >>= f) R₂ E' := by
  intro s
  rw [Effect.run_bind]
  rcases hr : x s with ⟨e | a, s₁⟩
  · refine ⟨fun _ _ h => (nomatch h), fun e' s' h => ?_⟩
    cases h
    obtain ⟨ev, hran, he⟩ := (hx s).2 e s₁ hr
    exact ⟨ev, hran, hE ev he⟩
  · obtain ⟨ev, hran, ha⟩ := (hx s).1 a s₁ hr
    refine ⟨fun b s' h => ?_, fun e s' h => ?_⟩
    · obtain ⟨ev', hran', hb⟩ := ((hf a ev ha) s₁).1 b s' h
      exact ⟨ev ++ ev', t.trans hran hran', hb⟩
    · obtain ⟨ev', hran', he⟩ := ((hf a ev ha) s₁).2 e s' h
      exact ⟨ev ++ ev', t.trans hran hran', he⟩

/-- What comes after a computation that emits nothing, with a fact about its value. -/
theorem quietly {P : α → Prop} (hx : Emits t x (fun a ev => NoEvent ev ∧ P a) NoEvent) (hE : E' [])
    (hf : ∀ a, P a → Emits t (f a) R₂ E') : Emits t (x >>= f) R₂ E' := by
  refine hx.bind (fun ev he => ?_) fun a ev ha => ?_
  · rw [he]
    exact hE
  · obtain ⟨he, hp⟩ := ha
    rw [he]
    exact hf a hp

theorem ofExcept {v : Except ε α} :
    Emits t (Effect.ofExcept v) (fun a ev => NoEvent ev ∧ v = .ok a) NoEvent := by
  intro s
  refine ⟨fun a s' hr => ?_, fun e s' hr => ?_⟩
  · cases hr
    exact ⟨[], t.refl s, rfl, rfl⟩
  · cases hr
    exact ⟨[], t.refl s, rfl⟩

theorem read : Emits t (Effect.read : Effect σ ε σ) (fun _ => NoEvent) NoEvent := by
  intro s
  refine ⟨fun a s' hr => ?_, fun _ _ hr => (nomatch hr)⟩
  cases hr
  exact ⟨[], t.refl _, rfl⟩

/-- A change of the state is what the tracing reads it as, and does not raise. -/
theorem modify {g : σ → σ} {ev : List τ} (h : ∀ s, t.ran s (g s) ev) :
    Emits t (Effect.modify g : Effect σ ε Unit) (fun _ ev' => ev' = ev) fun _ => False := by
  intro s
  refine ⟨fun a s' hr => ?_, fun _ _ hr => (nomatch hr)⟩
  cases hr
  exact ⟨ev, h s, rfl⟩

theorem require {p : Prop} [Decidable p] {e : ε} :
    Emits t (Effect.require p e) (fun _ ev => NoEvent ev ∧ p) NoEvent := by
  unfold Effect.require
  split
  · exact ret ⟨rfl, by assumption⟩
  · exact Emits.raise rfl

theorem focus {υ : Type} {view : σ → υ} {put : σ → υ → σ} {z : Effect υ ε α}
    (h : ∀ s, t.ran s (put s (z (view s)).2) []) : Silent t (Effect.focus view put z) := by
  intro s
  have hs := h s
  unfold Effect.focus
  rcases hz : z (view s) with ⟨r, u⟩
  rw [hz] at hs
  refine ⟨fun a s' hr => ?_, fun e s' hr => ?_⟩
  · cases hr
    exact ⟨[], hs, rfl⟩
  · cases hr
    exact ⟨[], hs, rfl⟩

theorem ite {p : Prop} [Decidable p] (ht : p → Emits t x R E) (hf : ¬ p → Emits t y R E) :
    Emits t (if p then x else y) R E := by
  split
  · rename_i hp
    exact ht hp
  · rename_i hp
    exact hf hp

theorem attempt {handler : ε → Effect σ ε α} (hx : Emits t x R E)
    (hh : ∀ e ev, E ev → Emits t (handler e) (fun a ev' => R a (ev ++ ev')) fun ev' => E' (ev ++ ev')) :
    Emits t (Effect.attempt x handler) R E' := by
  intro s
  unfold Effect.attempt
  rcases hr : x s with ⟨e | a, s₁⟩
  · obtain ⟨ev, hran, he⟩ := (hx s).2 e s₁ hr
    refine ⟨fun b s' h => ?_, fun e' s' h => ?_⟩
    · obtain ⟨ev', hran', hb⟩ := ((hh e ev he) s₁).1 b s' h
      exact ⟨ev ++ ev', t.trans hran hran', hb⟩
    · obtain ⟨ev', hran', he'⟩ := ((hh e ev he) s₁).2 e' s' h
      exact ⟨ev ++ ev', t.trans hran hran', he'⟩
  · refine ⟨fun a' s' h => ?_, fun _ _ h => (nomatch h)⟩
    cases h
    exact (hx s).1 a s₁ hr

/-- **The invariant of a loop** over its values and the events so far. -/
theorem loop {I : α → List τ → Prop} {F : β → List τ → Prop} {body : α → Effect σ ε (α ⊕ β)}
    (hbody : ∀ a ev, I a ev → Emits t (body a)
      (fun r ev' => Sum.elim (fun a' => I a' (ev ++ ev')) (fun b => F b (ev ++ ev')) r)
      fun ev' => E (ev ++ ev')) :
    ∀ (n : Nat) (a : α) (ev : List τ), I a ev → Emits t (Effect.loop body n a)
      (fun r ev' => (∃ a', r = none ∧ I a' (ev ++ ev')) ∨ ∃ b, r = some b ∧ F b (ev ++ ev'))
      fun ev' => E (ev ++ ev')
  | 0, a, ev, h => ret (.inl ⟨a, rfl, by rw [List.append_nil]; exact h⟩)
  | n + 1, a, ev, h => by
    refine (hbody a ev h).bind (fun _ he => he) fun r ev' hr => ?_
    cases r with
    | inl a' =>
      refine (loop hbody n a' (ev ++ ev') hr).conseq (fun r ev'' hr' => ?_) fun ev'' he => ?_
      · rw [List.append_assoc] at hr'
        exact hr'
      · rw [List.append_assoc] at he
        exact he
    | inr b =>
      refine ret (.inr ⟨b, rfl, ?_⟩)
      rw [List.append_nil]
      exact hr

/-- **The invariant of a pass through a list**: each value keeps what holds of it while more happens. -/
theorem mapM {f : α → Effect σ ε β} {P : α → β → List τ → Prop} {Q : List τ → Prop}
    (hmono : ∀ a b x y z, P a b y → P a b (x ++ y ++ z)) (hnil : Q [])
    (happend : ∀ x y, Q x → Q y → Q (x ++ y))
    (hf : ∀ a, Emits t (f a) (fun b ev => Q ev ∧ P a b ev) Q) :
    ∀ as : List α, Emits t (as.mapM f) (fun bs ev => Q ev ∧ ∀ b ∈ bs, ∃ a ∈ as, P a b ev) Q
  | [] => by
    exact ret ⟨hnil, fun _ h => absurd h List.not_mem_nil⟩
  | a :: as => by
    haveI : LawfulMonad (Effect σ ε) := Effect.lawful
    rw [List.mapM_cons]
    refine (hf a).bind (fun _ he => he) fun b x hb => ?_
    refine (mapM hmono hnil happend hf as).bind (fun y hy => happend x y hb.1 hy) fun bs y hbs => ?_
    refine ret ⟨?_, fun b' hb' => ?_⟩
    · rw [List.append_nil]
      exact happend x y hb.1 hbs.1
    rw [List.append_nil]
    rcases List.mem_cons.mp hb' with rfl | hb'
    · exact ⟨a, List.mem_cons_self .., hmono a b' [] x y hb.2⟩
    · obtain ⟨a', ha', hp⟩ := hbs.2 b' hb'
      refine ⟨a', List.mem_cons_of_mem _ ha', ?_⟩
      rw [← List.append_nil (x ++ y)]
      exact hmono a' b' x y [] hp

/-- The values that a computation returns, without its events. -/
theorem returns {Q : α → Prop} (h : Emits t x R E) (hQ : ∀ a ev, R a ev → Q a) {P : σ → Prop} :
    Triple P x (fun a _ => Q a) fun _ _ => True := by
  intro s _
  refine ⟨fun a s' hr => ?_, fun _ _ _ => trivial⟩
  obtain ⟨ev, _, ha⟩ := (h s).1 a s' hr
  exact hQ a ev ha

end Emits

namespace Silent

variable {t : Tracing σ τ} {x : Effect σ ε α} {f : α → Effect σ ε β} {R : β → List τ → Prop}
  {E : List τ → Prop}

/-- What comes after a computation that emits nothing. -/
theorem andThen (hx : Silent t x) (hE : E []) (hf : ∀ a, Emits t (f a) R E) :
    Emits t (x >>= f) R E :=
  (hx.conseq (fun _ _ he => ⟨he, trivial⟩) fun _ he => he).quietly (P := fun _ => True) hE
    fun a _ => hf a

/-- A computation that emits nothing, at the end of one that emits something. -/
theorem last {R : α → List τ → Prop} (hx : Silent t x) (hR : ∀ a, R a []) (hE : E []) :
    Emits t x R E :=
  hx.conseq (fun a _ he => by rw [he]; exact hR a) fun _ he => by rw [he]; exact hE

theorem ret {a : α} : Silent t (pure a : Effect σ ε α) := Emits.ret rfl

theorem ofExcept {v : Except ε α} : Silent t (Effect.ofExcept v) :=
  Emits.ofExcept.conseq (fun _ _ h => h.1) fun _ h => h

theorem require {p : Prop} [Decidable p] {e : ε} : Silent t (Effect.require p e) :=
  Emits.require.conseq (fun _ _ h => h.1) fun _ h => h

end Silent

/-! ## Returned values -/

/-- Whatever `x` returns is in `Q`. -/
def Yields (x : Effect σ ε α) (Q : α → Prop) : Prop :=
  Triple (fun _ => True) x (fun a _ => Q a) fun _ _ => True

namespace Yields

variable {x y : Effect σ ε α} {f : α → Effect σ ε β} {Q Q' : α → Prop} {R : β → Prop}

theorem mono (h : Yields x Q) (hQ : ∀ a, Q a → Q' a) : Yields x Q' :=
  Triple.post h fun a _ => hQ a

/-- Nothing is said. -/
theorem anything : Yields x fun _ => True :=
  fun _ _ => ⟨fun _ _ _ => trivial, fun _ _ _ => trivial⟩

theorem of_emits {t : Tracing σ τ} {S : α → List τ → Prop} {E : List τ → Prop} (h : Emits t x S E)
    (hQ : ∀ a ev, S a ev → Q a) : Yields x Q :=
  h.returns hQ

theorem ret {a : α} (h : Q a) : Yields (pure a : Effect σ ε α) Q := Triple.ret fun _ _ => h

theorem raise {e : ε} : Yields (Effect.raise e : Effect σ ε α) Q := Triple.raise fun _ _ => trivial

theorem bind (hx : Yields x Q) (hf : ∀ a, Q a → Yields (f a) R) : Yields (x >>= f) R := by
  refine Triple.bind hx fun a s hq => ?_
  exact hf a hq s trivial

/-- What comes after a computation whose value does not matter. -/
theorem andThen (hf : ∀ a, Yields (f a) R) : Yields (x >>= f) R :=
  anything.bind fun a _ => hf a

theorem ofExcept {v : Except ε α} : Yields (Effect.ofExcept v : Effect σ ε α) (fun a => v = .ok a) :=
  Triple.ofExcept (fun _ _ h _ => h) fun _ _ _ _ => trivial

theorem ite {p : Prop} [Decidable p] (ht : p → Yields x Q) (hf : ¬ p → Yields y Q) :
    Yields (if p then x else y) Q :=
  Triple.ite ht hf

theorem attempt {handler : ε → Effect σ ε α} (hx : Yields x Q) (hh : ∀ e, Yields (handler e) Q) :
    Yields (Effect.attempt x handler) Q :=
  Triple.attempt hx hh

/-- What a part of the state returns, it returns from some state of its own. -/
theorem focus {υ : Type} {view : σ → υ} {put : σ → υ → σ} {z : Effect υ ε α} :
    Yields (Effect.focus view put z) fun a => ∃ u u', z u = (.ok a, u') :=
  Triple.focus (fun _ _ _ _ h => ⟨_, _, h⟩) fun _ _ _ _ _ => trivial

/-- What a loop ends with, one of its rounds returned. -/
theorem loop {body : α → Effect σ ε (α ⊕ β)}
    (hbody : ∀ a, Yields (body a) fun r => ∀ b, r = .inr b → R b) (n : Nat) (a : α) :
    Yields (Effect.loop body n a) fun r => ∀ b, r = some b → R b := by
  refine Triple.loop (I := fun _ _ => True) (R := fun b _ => R b) (fun a => ?_) n a
  refine (hbody a).mono fun r h => ?_
  cases r with
  | inl _ => trivial
  | inr b => exact h b rfl

end Yields

end ProofAgent.Base
