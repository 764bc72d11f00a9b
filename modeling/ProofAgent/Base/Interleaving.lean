import ProofAgent.Base.Transactions

/-! # Calls of several transactions

A call makes one transaction after another, and other calls may come between them. A
pool of calls runs by a schedule, which says whose transaction is next. What one call
relies on and what each of its transactions guarantees is enough to know what every
schedule does: `Obeys` is checked for one call, `interleave_obeys` is about the pool. -/
namespace ProofAgent.Base

variable {σ ε α β : Type}

/-- A call: its result, or a transaction and what comes after it. -/
inductive Process (σ ε α : Type) where
  | done (result : Except ε α)
  | step (write : σ → σ) (next : σ → Process σ ε α)

namespace Process

def bind : Process σ ε α → (α → Process σ ε β) → Process σ ε β
  | .done (.ok a), f => f a
  | .done (.error e), _ => .done (.error e)
  | .step write next, f => .step write fun s => (next s).bind f

instance : Monad (Process σ ε) where
  pure a := .done (.ok a)
  bind := bind

def raise (e : ε) : Process σ ε α := .done (.error e)

/-- One transaction. -/
def atomic (x : Effect σ ε α) : Process σ ε α :=
  .step (fun s => (x s).2) fun s => .done (x s).1

/-- A computation between two transactions. -/
def ofExcept (x : Except ε α) : Process σ ε α := .done x

/-- A result, made of what a call returns. -/
def map (f : α → β) (x : Process σ ε α) : Process σ ε β := x.bind fun a => .done (.ok (f a))

/-- `try`: a call that ends with what it returned or raised. -/
def caught : Process σ ε α → Process σ ε (Except ε α)
  | .done r => .done (.ok r)
  | .step write next => .step write fun s => (next s).caught

/-- The result of a call that has ended. -/
def result : Process σ ε α → Option (Except ε α)
  | .done r => some r
  | .step .. => none

theorem pure_then (a : α) (f : α → Process σ ε β) : (pure a >>= f) = f a := rfl

theorem raise_then (e : ε) (f : α → Process σ ε β) : (raise e >>= f) = raise e := rfl

theorem map_done (f : α → β) (r : Except ε α) : (done r : Process σ ε α).map f = done (r.map f) := by
  cases r <;> rfl

theorem result_map (f : α → β) (x : Process σ ε α) :
    (x.map f).result = x.result.map (Except.map f) := by
  cases x with
  | done r =>
    rw [map_done]
    rfl
  | step write next => rfl

theorem atomic_then (x : Effect σ ε α) (f : α → Process σ ε β) :
    (atomic x >>= f) = .step (fun s => (x s).2) fun s => (ofExcept (x s).1 : Process σ ε α) >>= f :=
  rfl

/-! ## A call alone -/

/-- A call that nothing comes between. -/
def alone : Process σ ε α → Effect σ ε α
  | .done r => fun s => (r, s)
  | .step write next => fun s => (next s).alone (write s)

theorem alone_step (write : σ → σ) (next : σ → Process σ ε α) (s : σ) :
    (step write next).alone s = (next s).alone (write s) := rfl

theorem alone_pure (a : α) (s : σ) : (pure a : Process σ ε α).alone s = (.ok a, s) := rfl

theorem alone_bind {f : α → Process σ ε β} : ∀ (x : Process σ ε α) (s : σ),
    (x >>= f).alone s = (x.alone >>= fun a => (f a).alone) s
  | .done (.ok _), _ => rfl
  | .done (.error _), _ => rfl
  | .step write next, s => alone_bind (next s) (write s)

theorem alone_caught : ∀ (x : Process σ ε α) (s : σ),
    x.caught.alone s = (.ok (x.alone s).1, (x.alone s).2)
  | .done _, _ => rfl
  | .step write next, s => alone_caught (next s) (write s)

theorem alone_atomic (x : Effect σ ε α) (s : σ) : (atomic x).alone s = x s := rfl

end Process

/-! ## Schedules -/

/-- The state and the calls that share it. -/
structure Pool (σ ε α : Type) where
  state : σ
  calls : List (Process σ ε α)

namespace Pool

/-- The next transaction of a call, if it has one. -/
def advance (c : Pool σ ε α) (i : Nat) : Pool σ ε α :=
  match c.calls[i]? with
  | some (.step write next) => ⟨write c.state, c.calls.set i (next c.state)⟩
  | _ => c

/-- The calls by a schedule. -/
def interleave (c : Pool σ ε α) (schedule : List Nat) : Pool σ ε α := schedule.foldl advance c

/-- The result of a call that has ended. -/
def result (c : Pool σ ε α) (i : Nat) : Option (Except ε α) := (c.calls[i]?).bind Process.result

@[simp] theorem interleave_nil (c : Pool σ ε α) : c.interleave [] = c := rfl

@[simp] theorem interleave_cons (c : Pool σ ε α) (i : Nat) (schedule : List Nat) :
    c.interleave (i :: schedule) = (c.advance i).interleave schedule := rfl

theorem interleave_append (c : Pool σ ε α) (first rest : List Nat) :
    c.interleave (first ++ rest) = (c.interleave first).interleave rest := by
  unfold interleave
  exact List.foldl_append

/-- A step changes nothing, or it is the transaction of a call. -/
theorem advance_cases (c : Pool σ ε α) (i : Nat) :
    c.advance i = c ∨ ∃ write next, c.calls[i]? = some (.step write next) ∧
      c.advance i = ⟨write c.state, c.calls.set i (next c.state)⟩ := by
  unfold advance
  split
  · rename_i write next h
    exact .inr ⟨write, next, h, rfl⟩
  · exact .inl rfl

theorem getElem?_set_ne {calls : List (Process σ ε α)} {i j : Nat} {x : Process σ ε α} (h : i ≠ j) :
    (calls.set i x)[j]? = calls[j]? := List.getElem?_set_ne h

theorem getElem?_set_self {calls : List (Process σ ε α)} {i : Nat} {x y : Process σ ε α}
    (h : calls[i]? = some y) : (calls.set i x)[i]? = some x := by
  rw [List.getElem?_set_self' , h]
  rfl

theorem result_set_self {c : Pool σ ε α} {i : Nat} {s : σ} {x y : Process σ ε α}
    (h : c.calls[i]? = some y) : (⟨s, c.calls.set i x⟩ : Pool σ ε α).result i = x.result := by
  unfold result
  dsimp only
  rw [getElem?_set_self h, Option.bind_some]

/-- A step of another call. -/
theorem result_advance_ne {c : Pool σ ε α} {i j : Nat} (h : i ≠ j) :
    (c.advance i).result j = c.result j := by
  rcases c.advance_cases i with hsame | ⟨write, next, _, hadvance⟩
  · rw [hsame]
  · rw [hadvance]
    unfold result
    rw [getElem?_set_ne h]

theorem length_advance (c : Pool σ ε α) (i : Nat) : (c.advance i).calls.length = c.calls.length := by
  rcases c.advance_cases i with hsame | ⟨write, next, _, hadvance⟩
  · rw [hsame]
  · rw [hadvance, List.length_set]

theorem length_interleave : ∀ (schedule : List Nat) (c : Pool σ ε α),
    (c.interleave schedule).calls.length = c.calls.length
  | [], _ => rfl
  | i :: schedule, c => by
    rw [interleave_cons, length_interleave schedule, length_advance]

/-- A call that has ended stays as it is. -/
theorem result_advance {c : Pool σ ε α} {i j : Nat} {r : Except ε α} (h : c.result j = some r) :
    (c.advance i).result j = some r := by
  rcases c.advance_cases i with hsame | ⟨write, next, hstep, hadvance⟩
  · rw [hsame]
    exact h
  · rw [hadvance]
    unfold result at h ⊢
    have hne : i ≠ j := fun hij => by
      rw [← hij, hstep] at h
      cases h
    rw [getElem?_set_ne hne]
    exact h

theorem result_interleave {j : Nat} {r : Except ε α} : ∀ {schedule : List Nat} {c : Pool σ ε α},
    c.result j = some r → (c.interleave schedule).result j = some r
  | [], _, h => h
  | i :: schedule, c, h => by
    rw [interleave_cons]
    exact result_interleave (result_advance h)

/-- The transaction that ends a call. -/
structure Ends (c : Pool σ ε α) (i : Nat) (r : Except ε α) : Prop where
  running : c.result i = none
  ended : (c.advance i).result i = some r

/-- A call that a schedule ends, is ended by one of its transactions. -/
theorem ends_of_result {i : Nat} {r : Except ε α} : ∀ {schedule : List Nat} {c : Pool σ ε α},
    c.result i = none → (c.interleave schedule).result i = some r →
    ∃ before after, schedule = before ++ i :: after ∧ (c.interleave before).Ends i r
  | [], c, hnone, hsome => by
    rw [interleave_nil, hnone] at hsome
    cases hsome
  | j :: schedule, c, hnone, hsome => by
    rcases hnext : (c.advance j).result i with _ | r'
    · obtain ⟨before, after, rfl, hends⟩ := ends_of_result hnext hsome
      exact ⟨j :: before, after, rfl, hends⟩
    · have hr : r' = r := by
        rw [interleave_cons, result_interleave hnext] at hsome
        exact Option.some.inj hsome
      have hj : j = i := by
        by_contra hne
        rw [result_advance_ne hne, hnone] at hnext
        cases hnext
      subst hj hr
      exact ⟨[], schedule, rfl, hnone, hnext⟩

/-- A call that has ended, made its first transaction at some moment. -/
theorem first_step {i : Nat} {r : Except ε α} {write : σ → σ} {next : σ → Process σ ε α} :
    ∀ {schedule : List Nat} {c : Pool σ ε α}, c.calls[i]? = some (.step write next) →
    (c.interleave schedule).result i = some r →
    ∃ before after, schedule = before ++ i :: after ∧
      (c.interleave before).calls[i]? = some (.step write next)
  | [], c, hcall, hended => by
    rw [interleave_nil] at hended
    unfold result at hended
    rw [hcall] at hended
    cases hended
  | j :: schedule, c, hcall, hended => by
    by_cases hj : j = i
    · subst hj
      exact ⟨[], schedule, rfl, hcall⟩
    · have hkept : (c.advance j).calls[i]? = some (.step write next) := by
        rcases c.advance_cases j with hsame | ⟨_, _, _, hadvance⟩
        · rw [hsame]
          exact hcall
        · rw [hadvance, getElem?_set_ne hj]
          exact hcall
      obtain ⟨before, after, rfl, hbefore⟩ := first_step hkept hended
      exact ⟨j :: before, after, rfl, hbefore⟩

/-- What a transaction of a call makes of the pool. -/
theorem advance_step {c : Pool σ ε α} {i : Nat} {write : σ → σ} {next : σ → Process σ ε α}
    (h : c.calls[i]? = some (.step write next)) :
    c.advance i = ⟨write c.state, c.calls.set i (next c.state)⟩ := by
  unfold advance
  rw [h]

theorem Ends.step {c : Pool σ ε α} {i : Nat} {r : Except ε α} (h : c.Ends i r) :
    ∃ write next, c.calls[i]? = some (.step write next) ∧ next c.state = .done r ∧
      (c.advance i).state = write c.state := by
  rcases c.advance_cases i with hsame | ⟨write, next, hstep, hadvance⟩
  · have hended := h.ended
    rw [hsame, h.running] at hended
    cases hended
  · refine ⟨write, next, hstep, ?_, by rw [hadvance]⟩
    have hended := h.ended
    rw [hadvance] at hended
    unfold result at hended
    rw [getElem?_set_self hstep, Option.bind_some] at hended
    unfold Process.result at hended
    split at hended
    · rename_i r' hnext
      rw [hnext, Option.some.inj hended]
    · cases hended

end Pool

/-! ## Relying and guaranteeing -/

/-- From `s` on, where others do what the call relies on: before each of its transactions
`A` holds, and each does what the call guarantees, which depends on whether it ends the call. -/
def Process.Obeys (A : σ → Prop) (R : σ → σ → Prop) (G : Option (Except ε α) → σ → σ → Prop) :
    Process σ ε α → σ → Prop
  | .done _, _ => True
  | .step write next, s => ∀ s', R s s' →
    A s' ∧ G (next s').result s' (write s') ∧ (next s').Obeys A R G (write s')

section
variable {A : Nat → σ → Prop} {R : Nat → σ → σ → Prop}
  {G : Nat → Option (Except ε α) → σ → σ → Prop}

theorem Process.Obeys.mono {A : σ → Prop} {R : σ → σ → Prop}
    {G : Option (Except ε α) → σ → σ → Prop} {x : Process σ ε α} {s t : σ}
    (htrans : ∀ {s t u}, R s t → R t u → R s u) (h : x.Obeys A R G s) (hst : R s t) :
    x.Obeys A R G t := by
  cases x with
  | done r => trivial
  | step write next => exact fun s' hs' => h s' (htrans hst hs')

theorem Process.Obeys.weaken {A : σ → Prop} {R : σ → σ → Prop}
    {G H : Option (Except ε α) → σ → σ → Prop} (hGH : ∀ {r s t}, G r s t → H r s t) :
    ∀ {x : Process σ ε α} {s : σ}, x.Obeys A R G s → x.Obeys A R H s
  | .done _, _, _ => trivial
  | .step _ _, _, h => fun s' hs' =>
    ⟨(h s' hs').1, hGH (h s' hs').2.1, Process.Obeys.weaken hGH (h s' hs').2.2⟩

/-- What a call guarantees, with what is made of its result. -/
theorem Process.Obeys.map {A : σ → Prop} {R : σ → σ → Prop}
    {G : Option (Except ε β) → σ → σ → Prop} (f : α → β) : ∀ {x : Process σ ε α} {s : σ},
    x.Obeys A R (fun r => G (r.map (Except.map f))) s → (x.map f).Obeys A R G s
  | .done r, s, _ => by
    rw [Process.map_done]
    trivial
  | .step write next, s, h => by
    intro s' hs'
    obtain ⟨hA, hG, hnext⟩ := h s' hs'
    refine ⟨hA, ?_, hnext.map f⟩
    have hresult := Process.result_map f (next s')
    unfold Process.map at hresult
    rw [hresult]
    exact hG

/-- What each call guarantees is what the others rely on. -/
structure Cooperation (A : Nat → σ → Prop) (R : Nat → σ → σ → Prop)
    (G : Nat → Option (Except ε α) → σ → σ → Prop) : Prop where
  refl : ∀ i s, R i s s
  trans : ∀ {i s t u}, R i s t → R i t u → R i s u
  tolerates : ∀ {i j r s t}, i ≠ j → A i s → G i r s t → R j s t

/-- Every call of a pool does what it guarantees, from now on. -/
def Pool.Obeys (A : Nat → σ → Prop) (R : Nat → σ → σ → Prop)
    (G : Nat → Option (Except ε α) → σ → σ → Prop) (c : Pool σ ε α) : Prop :=
  ∀ (i : Nat) (x : Process σ ε α), c.calls[i]? = some x → x.Obeys (A i) (R i) (G i) c.state

variable {c : Pool σ ε α}

/-- One transaction of a pool. -/
theorem Pool.Obeys.step (hco : Cooperation A R G) (h : c.Obeys A R G) {i : Nat} {write : σ → σ}
    {next : σ → Process σ ε α} (hstep : c.calls[i]? = some (.step write next)) :
    A i c.state ∧ G i (next c.state).result c.state (write c.state) ∧
      (next c.state).Obeys (A i) (R i) (G i) (write c.state) :=
  h i _ hstep c.state (hco.refl i c.state)

theorem Pool.Obeys.advance (hco : Cooperation A R G) (h : c.Obeys A R G) (i : Nat) :
    (c.advance i).Obeys A R G := by
  rcases c.advance_cases i with hsame | ⟨write, next, hstep, hadvance⟩
  · rw [hsame]
    exact h
  · obtain ⟨hA, hG, hnext⟩ := h.step hco hstep
    rw [hadvance]
    intro j x hx
    by_cases hij : i = j
    · subst hij
      rw [Pool.getElem?_set_self hstep] at hx
      rw [← Option.some.inj hx]
      exact hnext
    · rw [Pool.getElem?_set_ne hij] at hx
      exact (h j x hx).mono hco.trans (hco.tolerates hij hA hG)

/-- **Every schedule** keeps the calls to what they guarantee. -/
theorem Pool.Obeys.interleave (hco : Cooperation A R G) : ∀ {schedule : List Nat} {c : Pool σ ε α},
    c.Obeys A R G → (c.interleave schedule).Obeys A R G
  | [], _, h => h
  | i :: schedule, c, h => by
    rw [Pool.interleave_cons]
    exact Pool.Obeys.interleave hco (h.advance hco i)

/-- **What every transaction does, a schedule does.** -/
theorem Pool.Obeys.related (hco : Cooperation A R G) {T : σ → σ → Prop} (hrefl : ∀ s, T s s)
    (htrans : ∀ {s t u}, T s t → T t u → T s u)
    (hstep : ∀ {i r s t}, A i s → G i r s t → T s t) :
    ∀ {schedule : List Nat} {c : Pool σ ε α}, c.Obeys A R G →
      T c.state (c.interleave schedule).state
  | [], c, _ => hrefl c.state
  | i :: schedule, c, h => by
    rw [Pool.interleave_cons]
    refine htrans ?_ (Pool.Obeys.related hco hrefl htrans hstep (h.advance hco i))
    rcases c.advance_cases i with hsame | ⟨write, next, hcall, hadvance⟩
    · rw [hsame]
      exact hrefl c.state
    · obtain ⟨hA, hG, _⟩ := h.step hco hcall
      rw [hadvance]
      exact hstep hA hG

/-- What every transaction does at the states that satisfy `C`, a schedule does that meets
only such states. -/
theorem Pool.Obeys.related_along (hco : Cooperation A R G) {T : σ → σ → Prop} {C : Nat → σ → Prop}
    (hrefl : ∀ s, T s s) (htrans : ∀ {s t u}, T s t → T t u → T s u)
    (hstep : ∀ {i r s t}, C i s → G i r s t → T s t) :
    ∀ {schedule : List Nat} {c : Pool σ ε α}, c.Obeys A R G →
      (∀ before i after, schedule = before ++ i :: after → C i (c.interleave before).state) →
      T c.state (c.interleave schedule).state
  | [], c, _, _ => hrefl c.state
  | i :: schedule, c, h, hC => by
    rw [Pool.interleave_cons]
    have hrest : ∀ before j after, schedule = before ++ j :: after →
        C j ((c.advance i).interleave before).state := by
      intro before j after hsplit
      rw [hsplit] at hC
      have hj := hC (i :: before) j after rfl
      rw [Pool.interleave_cons] at hj
      exact hj
    refine htrans ?_ (Pool.Obeys.related_along hco hrefl htrans hstep (h.advance hco i) hrest)
    rcases c.advance_cases i with hsame | ⟨write, next, hcall, hadvance⟩
    · rw [hsame]
      exact hrefl c.state
    · obtain ⟨_, hG, _⟩ := h.step hco hcall
      rw [hadvance]
      exact hstep (hC [] i schedule rfl) hG

/-- **An invariant of the pool**, where every transaction keeps it. -/
theorem Pool.Obeys.invariant (hco : Cooperation A R G) {I : Pool σ ε α → Prop}
    (hkeeps : ∀ {c : Pool σ ε α} {i : Nat} {write : σ → σ} {next : σ → Process σ ε α}, I c →
      c.calls[i]? = some (.step write next) → A i c.state →
      G i (next c.state).result c.state (write c.state) → I (c.advance i)) :
    ∀ {schedule : List Nat} {c : Pool σ ε α}, c.Obeys A R G → I c → I (c.interleave schedule)
  | [], _, _, hI => hI
  | i :: schedule, c, h, hI => by
    rw [Pool.interleave_cons]
    refine Pool.Obeys.invariant hco hkeeps (h.advance hco i) ?_
    rcases c.advance_cases i with hsame | ⟨write, next, hcall, _⟩
    · rw [hsame]
      exact hI
    · obtain ⟨hA, hG, _⟩ := h.step hco hcall
      exact hkeeps hI hcall hA hG

/-- The transaction that ends a call does what the call guarantees of it. -/
theorem Pool.Obeys.ends (hco : Cooperation A R G) (h : c.Obeys A R G) {i : Nat} {r : Except ε α}
    (hends : c.Ends i r) : A i c.state ∧ G i (some r) c.state (c.advance i).state := by
  obtain ⟨write, next, hcall, hnext, hstate⟩ := hends.step
  obtain ⟨hA, hG, _⟩ := h.step hco hcall
  rw [hnext] at hG
  rw [hstate]
  exact ⟨hA, hG⟩

end

/-! ## One call after another -/

/-- From `s` on, where others do what the call relies on: each of its transactions does `G`,
and when it has ended, `Q` holds of its result and the state that it leaves. -/
def Process.Leads (R : σ → σ → Prop) (G : σ → σ → Prop) (Q : Except ε α → σ → Prop) :
    Process σ ε α → σ → Prop
  | .done r, s => Q r s
  | .step write next, s => ∀ s', R s s' →
    G s' (write s') ∧ (next s').Leads R G Q (write s')

namespace Process.Leads

variable {R : σ → σ → Prop} {G : σ → σ → Prop} {Q Q' : Except ε α → σ → Prop}
  {P : Except ε β → σ → Prop} {x : Process σ ε α} {f : α → Process σ ε β} {s : σ}

theorem bind (hf : ∀ a t, Q (.ok a) t → (f a).Leads R G P t)
    (he : ∀ e t, Q (.error e) t → P (.error e) t) : ∀ {x : Process σ ε α} {s : σ},
    x.Leads R G Q s → (x >>= f).Leads R G P s
  | .done (.ok a), s, h => hf a s h
  | .done (.error e), s, h => he e s h
  | .step _ _, _, h => fun s' hs' => ⟨(h s' hs').1, bind hf he (h s' hs').2⟩

theorem caught {Q : Except ε (Except ε α) → σ → Prop} : ∀ {x : Process σ ε α} {s : σ},
    x.Leads R G (fun r => Q (.ok r)) s → x.caught.Leads R G Q s
  | .done _, _, h => h
  | .step _ _, _, h => fun s' hs' => ⟨(h s' hs').1, (h s' hs').2.caught⟩

/-- One transaction. -/
theorem atomic {x : Effect σ ε α} (h : ∀ s', R s s' → G s' (x s').2 ∧ Q (x s').1 (x s').2) :
    (Process.atomic x).Leads R G Q s := h

theorem ended (h : x.Leads R G Q s) {r : Except ε α} (hr : x.result = some r) : Q r s := by
  cases x with
  | done r' =>
    cases hr
    exact h
  | step _ _ => cases hr

/-- What a call leads to, its transactions guarantee. -/
theorem obeys {A : σ → Prop} (hR : ∀ {s t}, A s → R s t → A t) (hG : ∀ {s t}, G s t → A t) :
    ∀ {x : Process σ ε α} {s : σ}, A s → x.Leads R G Q s →
      x.Obeys A R (fun r s t => G s t ∧ ∀ r', r = some r' → Q r' t) s
  | .done _, _, _, _ => trivial
  | .step write next, s, hs, h => fun s' hs' => by
    obtain ⟨hstep, hnext⟩ := h s' hs'
    exact ⟨hR hs hs', ⟨hstep, fun r' hr' => hnext.ended hr'⟩, obeys hR hG (hG hstep) hnext⟩

end Process.Leads

end ProofAgent.Base
