import ProofAgent.Base.Effect
import ProofAgent.Base.Table

/-! # Statements, transactions and interleavings

An update statement rewrites the rows that it matches and counts them; a transaction
that raises leaves no trace. Clients whose calls are single transactions interleave
as a list of calls, of which each one returns or raises. -/
namespace ProofAgent.Base

variable {σ ε α ι ω ρ κ : Type}

namespace Effect

/-- `with connection.begin()`: what a computation that raises has written is lost. -/
def transaction (x : Effect σ ε α) : Effect σ ε α := fun s =>
  match x s with
  | (.ok a, s') => (.ok a, s')
  | (.error e, _) => (.error e, s)

theorem transaction_ok {x : Effect σ ε α} {s s' : σ} {a : α}
    (h : transaction x s = (.ok a, s')) : x s = (.ok a, s') := by
  unfold transaction at h
  split at h
  · rename_i hx
    rw [hx]
    exact h
  · cases h

theorem transaction_error {x : Effect σ ε α} {s s' : σ} {e : ε}
    (h : transaction x s = (.error e, s')) : s' = s := by
  unfold transaction at h
  split at h <;> cases h
  rfl

/-- A check that held, and what came after it. -/
theorem require_bind_ok {β : Type} {p : Prop} [Decidable p] {e : ε} {f : Unit → Effect σ ε β}
    {s s' : σ} {b : β} (h : (Effect.require p e >>= f) s = (.ok b, s')) :
    p ∧ f () s = (.ok b, s') := by
  by_cases hp : p
  · rw [require_then e hp] at h
    exact ⟨hp, h⟩
  · rw [require_not_then e hp] at h
    cases h

theorem ofExcept_bind_ok {β : Type} {x : Except ε α} {f : α → Effect σ ε β} {s s' : σ} {b : β}
    (h : (ofExcept x >>= f) s = (.ok b, s')) : ∃ a, x = .ok a ∧ f a s = (.ok b, s') := by
  cases x with
  | error e => cases h
  | ok a => exact ⟨a, rfl, h⟩

theorem read_bind_ok {β : Type} {f : σ → Effect σ ε β} {s s' : σ} {b : β}
    (h : (Effect.read >>= f) s = (.ok b, s')) : f s s = (.ok b, s') := h

/-- A result that is made from what was returned. -/
theorem bind_pure_ok {β : Type} {x : Effect σ ε α} {g : α → β} {s s' : σ} {b : β}
    (h : (x >>= fun a => Pure.pure (g a)) s = (.ok b, s')) :
    ∃ a, x s = (.ok a, s') ∧ b = g a := by
  obtain ⟨a, s₁, hx, hret⟩ := bind_ok h
  cases hret
  exact ⟨a, hx, rfl⟩

end Effect

open Effect

/-! ## Raising without a trace -/

/-- A computation that leaves the state alone when it raises. -/
def Atomic (x : Effect σ ε α) : Prop := ∀ s e s', x s = (.error e, s') → s' = s

/-- A computation that leaves the state alone in any case. -/
def ReadOnly (x : Effect σ ε α) : Prop := ∀ s, (x s).2 = s

namespace Atomic

variable {β : Type} {x : Effect σ ε α} {f : α → Effect σ ε β}

theorem transaction : Atomic (Effect.transaction x) := fun _ _ _ h => transaction_error h

theorem pure (a : α) : Atomic (pure a : Effect σ ε α) := fun _ _ _ h => by cases h

/-- Checks come first. -/
theorem bind (hx : ReadOnly x) (hf : ∀ a, Atomic (f a)) : Atomic (x >>= f) := by
  intro s e s' h
  have hs := hx s
  rw [run_bind] at h
  split at h
  · rename_i a s₁ hr
    rw [hr] at hs
    cases hs
    exact hf a _ e s' h
  · rename_i hr
    rw [hr] at hs
    cases h
    exact hs

/-- What is returned comes last. -/
theorem bind_pure (hx : Atomic x) (g : α → β) : Atomic (x >>= fun a => Pure.pure (g a)) := by
  intro s e s' h
  rw [run_bind] at h
  split at h
  · cases h
  · rename_i hr
    cases h
    exact hx s e s' hr

end Atomic

namespace ReadOnly

variable {β : Type} {x : Effect σ ε α} {f : α → Effect σ ε β}

theorem require {p : Prop} [Decidable p] {e : ε} : ReadOnly (Effect.require p e : Effect σ ε Unit) := by
  intro s
  unfold Effect.require
  split <;> rfl

theorem ofExcept {r : Except ε α} : ReadOnly (Effect.ofExcept r : Effect σ ε α) := fun _ => rfl

theorem read : ReadOnly (Effect.read : Effect σ ε σ) := fun _ => rfl

theorem pure (a : α) : ReadOnly (Pure.pure a : Effect σ ε α) := fun _ => rfl

/-- What comes after the last write. -/
theorem bind_snd (hf : ∀ a, ReadOnly (f a)) (s : σ) : ((x >>= f) s).2 = (x s).2 := by
  rw [run_bind]
  split
  · rename_i a s' hr
    rw [hr, hf a s']
  · rename_i hr
    rw [hr]

theorem bind (hx : ReadOnly x) (hf : ∀ a, ReadOnly (f a)) : ReadOnly (x >>= f) := by
  intro s
  have hs := hx s
  rw [run_bind]
  split
  · rename_i a s₁ hr
    rw [hr] at hs
    cases hs
    exact hf a _
  · rename_i hr
    rw [hr] at hs
    exact hs

end ReadOnly

/-! ## One row or none -/

variable {key : ρ → κ} {p : ρ → Bool} {f : ρ → ρ} {hf : ∀ r, key (f r) = key r}

/-- `UPDATE ... SET f WHERE p`, with the number of rows that it reached. -/
def updateRows (p : ρ → Bool) (f : ρ → ρ) (hf : ∀ r, key (f r) = key r) :
    Effect (Table key) ε Nat := fun t => (.ok (t.count p), t.update p f hf)

/-- An update that raises `e` unless it reached one row. -/
def updateOne (p : ρ → Bool) (f : ρ → ρ) (hf : ∀ r, key (f r) = key r) (e : ε) :
    Effect (Table key) ε Unit := do
  let updated ← updateRows p f hf
  Effect.require (updated = 1) e

/-- `UPDATE ... SET f WHERE p RETURNING *`, for a row that must be there. -/
def updateReturning (p : ρ → Bool) (f : ρ → ρ) (hf : ∀ r, key (f r) = key r) (e : ε) :
    Effect (Table key) ε ρ := do
  let table ← Effect.read
  let _ ← updateRows p f hf
  match table.rows.filter p with
  | [old] => return f old
  | _ => Effect.raise e

theorem Table.update_none {t : Table key} (h : t.count p = 0) : t.update p f hf = t := by
  refine Table.ext_rows ?_
  have hp : ∀ r ∈ t.rows, ¬ p r = true := List.countP_eq_zero.mp h
  exact (List.map_congr_left fun r hr => if_neg (hp r hr)).trans (List.map_id _)

/-- A condition that fixes the key holds of one row at most. -/
theorem Table.count_le_one {t : Table key} {k : κ} (h : ∀ r, p r = true → key r = k) :
    t.count p ≤ 1 := by
  by_cases hex : ∃ r ∈ t.rows, p r = true
  · obtain ⟨r, hr, hp⟩ := hex
    have hone : ∀ s ∈ t.rows, p s = true → key s = key r :=
      fun s _ hs => (h s hs).trans (h r hp).symm
    exact Nat.le_of_eq (Table.count_eq_one hr hp hone)
  · have hnone : t.count p = 0 := Table.count_eq_zero fun r hr => by
      cases hp : p r with
      | false => rfl
      | true => exact absurd ⟨r, hr, hp⟩ hex
    omega

theorem updateOne_ok {t t' : Table key} {e : ε} {u : Unit}
    (h : updateOne p f hf e t = (.ok u, t')) :
    ∃ old ∈ t.rows, p old = true ∧ Table.Replaced t t' old (f old) := by
  unfold updateOne at h
  obtain ⟨n, t₁, hrows, hone⟩ := Effect.bind_ok h
  cases hrows
  unfold Effect.require at hone
  split at hone
  · rename_i hcount
    cases hone
    exact Table.replaced_of_update f hf hcount
  · cases hone

theorem updateOne_error {t t' : Table key} {e e' : ε} {k : κ}
    (hkey : ∀ r, p r = true → key r = k) (h : updateOne p f hf e t = (.error e', t')) :
    e' = e ∧ t' = t := by
  unfold updateOne at h
  rw [Effect.run_bind] at h
  simp only [updateRows, Effect.require] at h
  split at h
  · cases h
  · rename_i hcount
    cases h
    have hle := Table.count_le_one (t := t) hkey
    exact ⟨rfl, Table.update_none (by omega)⟩

theorem updateReturning_ok {t t' : Table key} {e : ε} {r : ρ}
    (h : updateReturning p f hf e t = (.ok r, t')) :
    ∃ old ∈ t.rows, p old = true ∧ r = f old ∧ Table.Replaced t t' old (f old) := by
  have h₁ := read_bind_ok h
  obtain ⟨n, t₁, hrows, h₂⟩ := Effect.bind_ok h₁
  cases hrows
  rcases hfilter : t.rows.filter p with _ | ⟨found, _ | ⟨_, _⟩⟩
  · simp only [hfilter] at h₂
    cases h₂
  · simp only [hfilter] at h₂
    cases h₂
    have hcount : t.count p = 1 := by
      rw [Table.count, List.countP_eq_length_filter, hfilter]
      rfl
    obtain ⟨old, hold, hp, hrep⟩ := Table.replaced_of_update f hf hcount
    have hmem : old ∈ t.rows.filter p := List.mem_filter.mpr ⟨hold, hp⟩
    rw [hfilter, List.mem_singleton] at hmem
    exact ⟨old, hold, hp, by rw [hmem], hrep⟩
  · simp only [hfilter] at h₂
    cases h₂

theorem Atomic.updateOne {e : ε} {k : κ} (hkey : ∀ r, p r = true → key r = k) :
    Atomic (Base.updateOne p f hf e) := fun _ _ _ h => (updateOne_error hkey h).2

/-! ## Interleavings -/

/-- The state after calls that were made in this order, whatever each one answered. -/
def afterAll (serve : ι → Effect σ ε ω) (s : σ) (calls : List ι) : σ :=
  calls.foldl (fun s c => (serve c s).2) s

section
variable {serve : ι → Effect σ ε ω}

@[simp] theorem afterAll_nil (s : σ) : afterAll serve s [] = s := rfl

@[simp] theorem afterAll_cons (s : σ) (c : ι) (calls : List ι) :
    afterAll serve s (c :: calls) = afterAll serve (serve c s).2 calls := rfl

theorem afterAll_append (s : σ) (first rest : List ι) :
    afterAll serve s (first ++ rest) = afterAll serve (afterAll serve s first) rest :=
  List.foldl_append ..

/-- **The invariant rule.** -/
theorem afterAll_invariant {I : σ → Prop} (keep : ∀ c s, I s → I (serve c s).2) :
    ∀ (calls : List ι) (s : σ), I s → I (afterAll serve s calls)
  | [], _, h => h
  | c :: calls, s, h => afterAll_invariant keep calls _ (keep c s h)

/-- **The relation rule.** -/
theorem afterAll_related {I : σ → Prop} {R : σ → σ → Prop} (keep : ∀ c s, I s → I (serve c s).2)
    (refl : ∀ s, I s → R s s) (trans : ∀ s t u, R s t → R t u → R s u)
    (one : ∀ c s, I s → R s (serve c s).2) :
    ∀ (calls : List ι) (s : σ), I s → R s (afterAll serve s calls)
  | [], s, h => refl s h
  | c :: calls, s, h =>
    trans _ _ _ (one c s h) (afterAll_related keep refl trans one calls _ (keep c s h))

/-- One of the calls brings about what holds after them and did not hold before. -/
theorem afterAll_crossing {P : σ → Prop} : ∀ {calls : List ι} {s : σ}, ¬ P s →
    P (afterAll serve s calls) → ∃ first c rest, calls = first ++ c :: rest ∧
      ¬ P (afterAll serve s first) ∧ P (serve c (afterAll serve s first)).2
  | [], _, hs, h => absurd h hs
  | c :: calls, s, hs, h => by
    by_cases hc : P (serve c s).2
    · exact ⟨[], c, calls, rfl, hs, hc⟩
    · obtain ⟨first, d, rest, rfl, hfirst, hd⟩ := afterAll_crossing hc h
      exact ⟨c :: first, d, rest, rfl, hfirst, hd⟩

end

end ProofAgent.Base
