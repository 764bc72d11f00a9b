import Mathlib.Logic.Basic

/-! # Calls that return or raise

A Python call returns a value or raises. Both are `Except`; this file has the
guard that raises when a condition fails, and the inversion lemmas by which a
proof takes a successful call apart, one bind at a time. -/
namespace ProofAgent.Base

variable {ε α β : Type}

/-- Raise `e` unless `p` holds. -/
def require (p : Prop) [Decidable p] (e : ε) : Except ε Unit :=
  if p then .ok () else .error e

/-- The value of an optional result, or the error that its absence raises. -/
def orRaise (x : Option α) (e : ε) : Except ε α :=
  match x with
  | some a => .ok a
  | none => .error e

/-- Raise the error of the first check that fails. -/
def requireAll : List (Bool × ε) → Except ε Unit
  | [] => .ok ()
  | (holds, e) :: rest => if holds then requireAll rest else .error e

theorem bind_ok {x : Except ε α} {f : α → Except ε β} {b : β} (h : (x >>= f) = .ok b) :
    ∃ a, x = .ok a ∧ f a = .ok b := by
  cases x with
  | error e => cases h
  | ok a => exact ⟨a, rfl, h⟩

theorem pure_ok {a b : α} (h : (pure a : Except ε α) = .ok b) : a = b :=
  Except.ok.inj h

@[simp] theorem ok_bind (a : α) (f : α → Except ε β) : (Except.ok a >>= f) = f a := rfl

@[simp] theorem error_bind (e : ε) (f : α → Except ε β) :
    ((Except.error e : Except ε α) >>= f) = .error e := rfl

theorem require_ok {p : Prop} [Decidable p] {e : ε} {u : Unit} (h : require p e = .ok u) : p := by
  unfold require at h
  split at h
  · assumption
  · cases h

theorem require_true {p : Prop} [Decidable p] (e : ε) (h : p) : require p e = .ok () :=
  if_pos h

theorem requireAll_ok_iff {checks : List (Bool × ε)} :
    requireAll checks = .ok () ↔ ∀ c ∈ checks, c.1 = true := by
  induction checks with
  | nil => simp [requireAll]
  | cons c rest ih =>
    obtain ⟨holds, e⟩ := c
    cases holds with
    | true => simpa [requireAll] using ih
    | false => simp [requireAll]

theorem orRaise_ok {x : Option α} {e : ε} {a : α} (h : orRaise x e = .ok a) : x = some a := by
  cases x with
  | none => cases h
  | some b => exact congrArg some (Except.ok.inj h)

@[simp] theorem orRaise_some (a : α) (e : ε) : orRaise (some a) e = .ok a := rfl

@[simp] theorem orRaise_none (e : ε) : orRaise (none : Option α) e = .error e := rfl

/-- What a call on every item returned is what it returned on one of them. -/
theorem mapM_ok_mem {f : α → Except ε β} {b : β} : ∀ {items : List α} {results : List β},
    items.mapM f = .ok results → b ∈ results → ∃ a ∈ items, f a = .ok b
  | [], _, h, hmem => by
    cases pure_ok h
    cases hmem
  | a :: rest, _, h, hmem => by
    rw [List.mapM_cons] at h
    obtain ⟨c, hc, h₁⟩ := bind_ok h
    obtain ⟨results, hrest, h₂⟩ := bind_ok h₁
    cases pure_ok h₂
    rcases List.mem_cons.mp hmem with rfl | hmem
    · exact ⟨a, List.mem_cons_self .., hc⟩
    · obtain ⟨a', ha', hok⟩ := mapM_ok_mem hrest hmem
      exact ⟨a', List.mem_cons_of_mem _ ha', hok⟩

/-- A call on every item that returned did so on each of them. -/
theorem mapM_ok_of_mem {f : α → Except ε β} {a : α} : ∀ {items : List α} {results : List β},
    items.mapM f = .ok results → a ∈ items → ∃ b ∈ results, f a = .ok b
  | [], _, _, hmem => absurd hmem List.not_mem_nil
  | c :: rest, _, h, hmem => by
    rw [List.mapM_cons] at h
    obtain ⟨b, hb, h₁⟩ := bind_ok h
    obtain ⟨results, hrest, h₂⟩ := bind_ok h₁
    cases pure_ok h₂
    rcases List.mem_cons.mp hmem with rfl | hmem
    · exact ⟨b, List.mem_cons_self .., hb⟩
    · obtain ⟨b', hb', hok⟩ := mapM_ok_of_mem hrest hmem
      exact ⟨b', List.mem_cons_of_mem _ hb', hok⟩

/-- A call on every item returns if it does on each of them. -/
theorem mapM_returns {f : α → Except ε β} : ∀ {items : List α}, (∀ a ∈ items, ∃ b, f a = .ok b) →
    ∃ results, items.mapM f = .ok results
  | [], _ => ⟨[], rfl⟩
  | a :: rest, h => by
    obtain ⟨b, hb⟩ := h a (List.mem_cons_self ..)
    obtain ⟨results, hrest⟩ := mapM_returns fun c hc => h c (List.mem_cons_of_mem _ hc)
    exact ⟨b :: results, by rw [List.mapM_cons, hb, ok_bind, hrest]; rfl⟩

/-- A call that does not return raises. -/
theorem raises_of_not_ok {x : Except ε α} (h : ∀ a, x ≠ .ok a) : ∃ e, x = .error e := by
  cases x with
  | error e => exact ⟨e, rfl⟩
  | ok a => exact absurd rfl (h a)

/-- Raising goes through a bind. -/
theorem bind_raises {x : Except ε α} {f : α → Except ε β} (h : ∃ e, x = .error e) :
    ∃ e, (x >>= f) = .error e := by
  obtain ⟨e, rfl⟩ := h
  exact ⟨e, rfl⟩

end ProofAgent.Base
