import ProofAgent.Egress.GuardedRequests

/-! # Restricted clients

A restricted client runs behind the client that it is derived from: as long as it goes on,
the other one does the same, and where it stops, the other one may go on. -/
namespace ProofAgent.Egress

open Base

/-- A send with another limit on the bytes of its response. -/
def Send.limited (bytes : Nat) (send : Send) : Send := { send with maxResponseBytes := bytes }

/-- A network in which every send has the limit. -/
def Network.limited {σ : Type} (bytes : Nat) (network : Network σ) : Network σ :=
  { network with send := fun send => network.send (send.limited bytes) }

/-! ## Running behind -/

/-- The sends so far, but for their limits. -/
def sendsBut (bytes : Nat) (events : List WireEvent) : List Send := (sends events).map (Send.limited bytes)

section
variable {σ α β : Type} {bytes : Nat}

/-- Two wires in the same state, with the same sends. -/
structure InStep (bytes : Nat) (w w' : Wire σ) : Prop where
  network : w.network = w'.network
  sends : sendsBut bytes w.events = sendsBut bytes w'.events

/-- Two computations that do the same. -/
def Alike (bytes : Nat) (x y : WireCall σ α) : Prop :=
  ∀ w w', InStep bytes w w' → (x w).1 = (y w').1 ∧ InStep bytes (x w).2 (y w').2

/-- `x` sends what `y` sends first, and where it returns a result in `P`, `y` returns it as well. -/
def Behind (bytes : Nat) (P : α → Prop) (x y : WireCall σ α) : Prop :=
  ∀ w w', InStep bytes w w' → sendsBut bytes (x w).2.events <+: sendsBut bytes (y w').2.events ∧
    ∀ a, (x w).1 = .ok a → P a → (y w').1 = .ok a ∧ InStep bytes (x w).2 (y w').2

/-- A computation that sends more. -/
def Grows (x : WireCall σ α) : Prop := ∀ w, sends w.events <+: sends (x w).2.events

/-- A computation that sends nothing and returns no result in `P`. -/
def Rests (P : α → Prop) (x : WireCall σ α) : Prop :=
  ∀ w, sends (x w).2.events = sends w.events ∧ ∀ a, (x w).1 = .ok a → ¬ P a

variable {P : α → Prop} {R : β → Prop} {x y : WireCall σ α} {f g : α → WireCall σ β}

theorem Grows.but (h : Grows x) (bytes : Nat) (w : Wire σ) :
    sendsBut bytes w.events <+: sendsBut bytes (x w).2.events :=
  (h w).map _

theorem Grows.of_emits {S : α → List WireEvent → Prop} {E : List WireEvent → Prop}
    (h : Emits (wireTracing σ) x S E) : Grows x := by
  intro w
  have hadded : ∃ ev, (x w).2.events = w.events ++ ev := by
    rcases hr : x w with ⟨e | a, s⟩
    · obtain ⟨ev, hran, _⟩ := (h w).2 e s hr
      exact ⟨ev, hran⟩
    · obtain ⟨ev, hran, _⟩ := (h w).1 a s hr
      exact ⟨ev, hran⟩
  obtain ⟨ev, hev⟩ := hadded
  rw [hev, sends_append]
  exact List.prefix_append _ _

theorem Grows.bind (hx : Grows x) (hf : ∀ a, Grows (f a)) : Grows (x >>= f) := by
  intro w
  have hfirst := hx w
  rw [Effect.run_bind]
  rcases hr : x w with ⟨e | a, s⟩
  · rw [hr] at hfirst
    exact hfirst
  · rw [hr] at hfirst
    exact hfirst.trans (hf a s)

theorem Alike.bind (hx : Alike bytes x y) (hf : ∀ a, Alike bytes (f a) (g a)) :
    Alike bytes (x >>= f) (y >>= g) := by
  intro w w' hstep
  obtain ⟨hresult, hafter⟩ := hx w w' hstep
  rw [Effect.run_bind, Effect.run_bind]
  rcases hr : x w with ⟨r, s⟩
  rcases hr' : y w' with ⟨r', s'⟩
  rw [hr, hr'] at hresult hafter
  cases hresult
  cases r with
  | error e => exact ⟨rfl, hafter⟩
  | ok a => exact hf a s s' hafter

theorem Alike.behind (h : Alike bytes x y) : Behind bytes P x y := by
  intro w w' hstep
  obtain ⟨hresult, hafter⟩ := h w w' hstep
  rw [hafter.sends]
  exact ⟨List.prefix_rfl, fun a ha _ => ⟨hresult ▸ ha, hafter⟩⟩

theorem Alike.ofExcept {r : Except EgressError α} :
    Alike (σ := σ) bytes (Effect.ofExcept r) (Effect.ofExcept r) := fun _ _ h => ⟨rfl, h⟩

theorem Alike.require {p : Prop} [Decidable p] {e : EgressError} :
    Alike (σ := σ) bytes (Effect.require p e) (Effect.require p e) := by
  unfold Effect.require
  split
  · exact fun _ _ h => ⟨rfl, h⟩
  · exact fun _ _ h => ⟨rfl, h⟩

theorem Alike.ret {a : α} : Alike bytes (pure a : WireCall σ α) (pure a) := fun _ _ h => ⟨rfl, h⟩

/-- One that rests is behind any other. -/
theorem Rests.behind (hx : Rests P x) (hy : Grows y) : Behind bytes P x y := by
  intro w w' hstep
  obtain ⟨hsends, hnone⟩ := hx w
  refine ⟨?_, fun a ha hP => absurd hP (hnone a ha)⟩
  unfold sendsBut
  rw [hsends]
  have hgrows := hy.but bytes w'
  rw [← hstep.sends] at hgrows
  exact hgrows

theorem Rests.ret {a : α} (h : ¬ P a) : Rests P (pure a : WireCall σ α) := by
  refine fun w => ⟨rfl, fun b hb => ?_⟩
  cases hb
  exact h

theorem Rests.raise {e : EgressError} : Rests P (Effect.raise e : WireCall σ α) :=
  fun _ => ⟨rfl, fun _ h => (nomatch h)⟩

/-- **One after another**: what comes after a result outside of `P` has to rest. -/
theorem Behind.bind (hx : Behind bytes P x y) (hg : ∀ a, Grows (g a))
    (hf : ∀ a, P a → Behind bytes R (f a) (g a)) (hrest : ∀ a, ¬ P a → Rests R (f a)) :
    Behind bytes R (x >>= f) (y >>= g) := by
  intro w w' hstep
  obtain ⟨hearlier, hresult⟩ := hx w w' hstep
  have hlater : sendsBut bytes (y w').2.events <+: sendsBut bytes ((y >>= g) w').2.events := by
    rw [Effect.run_bind]
    rcases y w' with ⟨e | a, s⟩
    · exact List.prefix_rfl
    · exact (hg a).but _ s
  rw [Effect.run_bind]
  rcases hr : x w with ⟨e | a, s⟩
  · rw [hr] at hearlier
    exact ⟨hearlier.trans hlater, fun _ h => (nomatch h)⟩
  · rw [hr] at hearlier hresult
    by_cases hP : P a
    · obtain ⟨hsame, hafter⟩ := hresult a rfl hP
      rcases hr' : y w' with ⟨r', s'⟩
      rw [hr'] at hsame hafter
      cases hsame
      rw [Effect.bind_of_ok hr']
      exact hf a hP s s' hafter
    · obtain ⟨hsends, hnone⟩ := hrest a hP s
      refine ⟨?_, fun b hb hR => absurd hR (hnone b hb)⟩
      dsimp only
      unfold sendsBut
      rw [hsends]
      exact hearlier.trans hlater

/-- A handler that sends nothing. -/
theorem Behind.attempt {handler handler' : EgressError → WireCall σ α}
    (hx : Behind bytes P x y) (hh : ∀ e, Rests (fun _ => True) (handler e)) (hh' : ∀ e, Grows (handler' e)) :
    Behind bytes (fun _ => False) (Effect.attempt x handler) (Effect.attempt y handler') := by
  intro w w' hstep
  refine ⟨?_, fun _ _ h => h.elim⟩
  have hearlier := (hx w w' hstep).1
  have hlater : sendsBut bytes (y w').2.events <+:
      sendsBut bytes (Effect.attempt y handler' w').2.events := by
    unfold Effect.attempt
    rcases y w' with ⟨e | a, s⟩
    · exact (hh' e).but _ s
    · exact List.prefix_rfl
  refine List.IsPrefix.trans ?_ hlater
  unfold Effect.attempt
  rcases hr : x w with ⟨e | a, s⟩
  · rw [hr] at hearlier
    dsimp only
    unfold sendsBut
    rw [((hh e) s).1]
    exact hearlier
  · rw [hr] at hearlier
    exact hearlier

end

/-! ## A client and one that is derived from it -/

/-- A client that is at most as free as another one. -/
structure Within (derived client : GuardedHttpsClient) : Prop where
  policy : derived.policy = client.policy
  answers : derived.maxDnsAnswers = client.maxDnsAnswers
  redirects : derived.maxRedirects ≤ client.maxRedirects
  attempts : derived.maxAttemptsPerHop ≤ client.maxAttemptsPerHop
  bytes : derived.maxResponseBytes ≤ client.maxResponseBytes

theorem restricted_within {client derived : GuardedHttpsClient}
    {maxRedirects maxAttemptsPerHop maxResponseBytes : Int}
    (h : client.restricted maxRedirects maxAttemptsPerHop maxResponseBytes = .ok derived) :
    Within derived client := by
  unfold GuardedHttpsClient.restricted GuardedHttpsClient.create at h
  split at h
  · cases h
  · split at h
    · cases h
    · split at h
      · cases h
      · cases h
        exact ⟨rfl, Int.toNat_natCast _, by dsimp only; omega, by dsimp only; omega,
          by dsimp only; omega⟩

section
variable {library : EgressLibrary} {client derived : GuardedHttpsClient} {σ : Type}
  {network : Network σ} {hop : Hop} {timeoutSeconds : PyFloat} {origin : ExactHttpsOrigin}

/-- The network of a derived client, as the client meets it. -/
abbrev met (network : Network σ) (derived : GuardedHttpsClient) : Network σ :=
  network.limited derived.maxResponseBytes

/-- A result on which a request goes on. -/
def Redirected : Hop ⊕ GuardedHttpResponse → Prop := fun r => r.isLeft = true

theorem resolveHost_alike : Alike derived.maxResponseBytes
    (resolveHost network origin timeoutSeconds) (resolveHost (met network derived) origin timeoutSeconds) := by
  rintro w w' ⟨hnetwork, hsends⟩
  have hresolve : (met network derived).resolve = network.resolve := rfl
  unfold resolveHost
  rw [hresolve, ← hnetwork]
  have hadded : ∀ answers, sendsBut derived.maxResponseBytes
        (w.events ++ [.resolved origin.host origin.port answers]) =
      sendsBut derived.maxResponseBytes (w'.events ++ [.resolved origin.host origin.port answers]) := by
    intro answers
    unfold sendsBut at hsends ⊢
    rw [sends_append, sends_append, List.map_append, List.map_append, hsends]
  rcases network.resolve origin.host origin.port timeoutSeconds w.network with ⟨e | answers, state⟩
  · exact ⟨rfl, rfl, hadded _⟩
  · exact ⟨rfl, rfl, hadded _⟩

theorem sendRequest_alike (admitted : AdmittedEgressHop) : Alike derived.maxResponseBytes
    (sendRequest network (hopSend derived hop timeoutSeconds admitted))
    (sendRequest (met network derived) (hopSend client hop timeoutSeconds admitted)) := by
  rintro w w' ⟨hnetwork, hsends⟩
  have hsend : (met network derived).send (hopSend client hop timeoutSeconds admitted) =
      network.send (hopSend derived hop timeoutSeconds admitted) := rfl
  unfold sendRequest
  rw [hsend, ← hnetwork]
  have hadded : ∀ outcome, sendsBut derived.maxResponseBytes
        (w.events ++ [.sent (hopSend derived hop timeoutSeconds admitted) outcome]) =
      sendsBut derived.maxResponseBytes
        (w'.events ++ [.sent (hopSend client hop timeoutSeconds admitted) outcome]) := by
    intro outcome
    unfold sendsBut at hsends ⊢
    rw [sends_append, sends_append, List.map_append, List.map_append, hsends]
    rfl
  rcases network.send (hopSend derived hop timeoutSeconds admitted) w.network with ⟨e | response, state⟩
  · exact ⟨rfl, rfl, hadded _⟩
  · exact ⟨rfl, rfl, hadded _⟩

theorem attemptHop_alike (h : Within derived client) : Alike derived.maxResponseBytes
    (attemptHop library network derived hop timeoutSeconds origin)
    (attemptHop library (met network derived) client hop timeoutSeconds origin) := by
  unfold attemptHop
  rw [h.policy, h.answers]
  exact resolveHost_alike.bind fun answers => Alike.require.bind fun _ =>
    Alike.ofExcept.bind fun admitted => sendRequest_alike admitted

theorem attempts_grows (horigin : client.policy.authorizeOrigin library hop.url = .ok origin) (n : Nat) :
    Grows (attempts library network client hop timeoutSeconds origin n) :=
  .of_emits (attempts_emits network client horigin n)

theorem attempts_behind (h : Within derived client)
    (horigin : client.policy.authorizeOrigin library hop.url = .ok origin) : ∀ {n m : Nat}, n ≤ m →
    Behind derived.maxResponseBytes (fun response => response.statusCode ∉ retryableStatuses)
      (attempts library network derived hop timeoutSeconds origin n)
      (attempts library (met network derived) client hop timeoutSeconds origin m)
  | 0, m, _ => Rests.raise.behind (attempts_grows horigin m)
  | n + 1, m, hle => by
    obtain ⟨m, rfl⟩ : ∃ k, m = k + 1 := ⟨m - 1, by omega⟩
    have hrest : ∀ response : GuardedHttpResponse, Grows (σ := σ)
        (if response.statusCode ∉ retryableStatuses then pure response
          else if m = 0 then pure response
          else attempts library (met network derived) client hop timeoutSeconds origin m) := by
      intro response
      split
      · exact fun _ => List.prefix_rfl
      · split
        · exact fun _ => List.prefix_rfl
        · exact attempts_grows horigin m
    unfold attempts
    refine ((attemptHop_alike h).behind (P := fun _ => True)).bind hrest (fun response _ => ?_)
      fun _ hno => absurd trivial hno
    by_cases hstatus : response.statusCode ∉ retryableStatuses
    · rw [if_pos hstatus, if_pos hstatus]
      exact Alike.ret.behind
    · rw [if_neg hstatus]
      by_cases hlast : n = 0
      · rw [if_pos hlast]
        have hgrows := hrest response
        rw [if_neg hstatus] at hgrows ⊢
        refine Rests.behind (Rests.ret ?_) hgrows
        exact hstatus
      · rw [if_neg hlast, if_neg hstatus, if_neg (by omega)]
        exact attempts_behind h horigin (by omega)

theorem requestHop_behind (h : Within derived client) :
    Behind derived.maxResponseBytes (fun response => response.statusCode ∉ retryableStatuses)
      (requestHop library network derived hop timeoutSeconds)
      (requestHop library (met network derived) client hop timeoutSeconds) := by
  unfold requestHop
  rw [h.policy]
  cases horigin : client.policy.authorizeOrigin library hop.url with
  | error e => exact Alike.behind fun w w' hstep => ⟨rfl, hstep⟩
  | ok origin =>
    rw [Effect.ok_then, Effect.ok_then]
    exact attempts_behind h horigin h.attempts

/-- A redirect is not retried. -/
theorem not_redirect_of_retryable : ∀ status ∈ retryableStatuses, status ∉ redirectStatuses := by decide

theorem requestRound_grows : Grows (requestRound library network client timeoutSeconds hop) := by
  unfold requestRound
  refine (Grows.of_emits (requestHop_emits network client)).bind fun response => ?_
  split
  · exact fun _ => List.prefix_rfl
  · split
    · exact fun _ => List.prefix_rfl
    · exact Grows.bind (fun _ => List.prefix_rfl) fun _ _ => List.prefix_rfl

/-- The client follows the redirects that the derived one follows. -/
theorem redirectHop_within (h : Within derived client) {statusCode : Int} {location : String} {next : Hop}
    (hnext : redirectHop library derived hop statusCode location = .ok next) :
    redirectHop library client hop statusCode location = .ok next := by
  have hlimit := (redirectHop_ok hnext).1
  unfold redirectHop at hnext ⊢
  rw [if_neg (Nat.not_le_of_lt hlimit), h.policy] at hnext
  rw [if_neg (Nat.not_le_of_lt (hlimit.trans_le h.redirects))]
  exact hnext

theorem requestRound_behind (h : Within derived client) :
    Behind derived.maxResponseBytes Redirected
      (requestRound library network derived timeoutSeconds hop)
      (requestRound library (met network derived) client timeoutSeconds hop) := by
  unfold requestRound
  refine (requestHop_behind h).bind (fun response => ?_) (fun response _ => ?_) fun response hretry => ?_
  · split
    · exact fun _ => List.prefix_rfl
    · split
      · exact fun _ => List.prefix_rfl
      · exact Grows.bind (fun _ => List.prefix_rfl) fun _ _ => List.prefix_rfl
  · split
    · exact Alike.ret.behind
    · cases header library response.headers "location" with
      | none => exact Alike.ret.behind
      | some location =>
        dsimp only
        cases hnext : redirectHop library derived hop response.statusCode location with
        | error e =>
          exact Rests.behind Rests.raise (Grows.bind (fun _ => List.prefix_rfl) fun _ _ => List.prefix_rfl)
        | ok next =>
          rw [redirectHop_within h hnext]
          exact Alike.ret.behind
  · have hstatus := not_redirect_of_retryable _ (not_not.mp hretry)
    rw [if_pos hstatus]
    refine Rests.ret ?_
    unfold Redirected
    nofun

theorem loop_behind (h : Within derived client) : ∀ (fuel : Nat) (hop : Hop),
    Behind derived.maxResponseBytes (fun _ => False)
      (Effect.loop (requestRound library network derived timeoutSeconds) fuel hop)
      (Effect.loop (requestRound library (met network derived) client timeoutSeconds) fuel hop)
  | 0, _ => Alike.ret.behind
  | fuel + 1, hop => by
    have hgrows : ∀ (fuel : Nat) (hop : Hop), Grows (σ := σ)
        (Effect.loop (requestRound library (met network derived) client timeoutSeconds) fuel hop) := by
      intro fuel
      induction fuel with
      | zero => exact fun _ _ => List.prefix_rfl
      | succ fuel ih =>
        intro hop
        rw [Effect.loop]
        refine requestRound_grows.bind fun r => ?_
        cases r with
        | inl next => exact ih next
        | inr response => exact fun _ => List.prefix_rfl
    rw [Effect.loop, Effect.loop]
    refine (requestRound_behind h).bind (fun r => ?_) (fun r hr => ?_) fun r hr => ?_
    · cases r with
      | inl next => exact hgrows fuel next
      | inr response => exact fun _ => List.prefix_rfl
    · cases r with
      | inl next => exact loop_behind h fuel next
      | inr response => cases hr
    · cases r with
      | inl next => exact absurd rfl hr
      | inr response => exact Rests.ret fun hfalse => hfalse

theorem auditDenial_rests {P : Option GuardedHttpResponse → Prop} (e : EgressError) :
    Rests (σ := σ) P (auditDenial client e) := by
  intro wire
  have hemits : Emits (wireTracing σ) (auditDenial client e : WireCall σ (Option GuardedHttpResponse))
      (fun _ _ => False) Unsent := auditDenial_emits e
  replace hemits := hemits wire
  rcases hr : auditDenial client e wire with ⟨e' | r, s⟩
  · obtain ⟨ev, hran, hunsent⟩ := hemits.2 e' s hr
    refine ⟨?_, fun _ h => (nomatch h)⟩
    have hevents : s.events = wire.events ++ ev := hran
    dsimp only
    rw [hevents, hunsent.sends_append]
  · obtain ⟨_, _, hfalse⟩ := hemits.1 r s hr
    exact hfalse.elim

/-- **A derived client sends** what the client sends first. -/
theorem request_behind (h : Within derived client) (fuel : Nat) (method url : String)
    (headers : Headers) (body : Option String) :
    Behind derived.maxResponseBytes (fun _ => False)
      (request library network derived fuel method url headers body timeoutSeconds)
      (request library (met network derived) client fuel method url headers body timeoutSeconds) := by
  have hgrows : ∀ e : EgressError, Grows (σ := σ)
      (auditDenial client e : WireCall σ (Option GuardedHttpResponse)) :=
    fun e => .of_emits (auditDenial_emits e)
  have hattempt : ∀ hop : Hop, Behind derived.maxResponseBytes (fun _ => False)
      (Effect.attempt (Effect.loop (requestRound library network derived timeoutSeconds) fuel hop)
        (auditDenial derived))
      (Effect.attempt
        (Effect.loop (requestRound library (met network derived) client timeoutSeconds) fuel hop)
        (auditDenial client)) :=
    fun hop => (loop_behind h fuel hop).attempt (fun e => auditDenial_rests e) hgrows
  unfold request
  by_cases htimeout : notPositive timeoutSeconds = false
  · rw [Effect.require_then _ htimeout, Effect.require_then _ htimeout]
    cases validatedMethod library method with
    | error e => exact Alike.behind fun w w' hstep => ⟨rfl, hstep⟩
    | ok method =>
      rw [Effect.ok_then, Effect.ok_then]
      cases validatedHeaders library headers with
      | error e => exact Alike.behind fun w w' hstep => ⟨rfl, hstep⟩
      | ok headers => exact hattempt _
  · rw [Effect.require_not_then _ htimeout, Effect.require_not_then _ htimeout]
    exact Alike.behind fun w w' hstep => ⟨rfl, hstep⟩

/-! ## Every request -/

/-- A request ends, on fuel for one round more than it may be redirected. -/
theorem request_ends (network : Network σ) (fuel : Nat) (hfuel : client.maxRedirects < fuel) (method url : String)
    (headers : Headers) (body : Option String) :
    Triple (fun _ => True) (request library network client fuel method url headers body timeoutSeconds)
      (fun r _ => r ≠ none) fun _ _ => True := by
  have hround : ∀ hop : Hop, Triple (fun _ : Wire σ => hop.redirects ≤ client.maxRedirects)
      (requestRound library network client timeoutSeconds hop)
      (fun r _ => Sum.elim (fun next => next.redirects ≤ client.maxRedirects ∧
        client.maxRedirects - next.redirects < client.maxRedirects - hop.redirects) (fun _ => True) r)
      fun _ _ => True := by
    intro hop wire hredirects
    have hbefore : HopBefore library client hop [] := .start hredirects
    have hround : Triple (fun _ => True) (requestRound library network client timeoutSeconds hop)
        (fun r _ => Sum.elim (fun next => next.redirects ≤ client.maxRedirects ∧
          next.redirects = hop.redirects + 1) (fun _ => True) r) fun _ _ => True :=
      (requestRound_emits network hbefore).returns fun r ev hr => by
        cases r with
        | inl next => exact ⟨hr.1.1, hr.2⟩
        | inr response => trivial
    refine ⟨fun r s hr => ?_, fun _ _ _ => trivial⟩
    have hnext := (hround wire trivial).1 r s hr
    cases r with
    | inl next =>
      obtain ⟨hle, hcount⟩ := hnext
      exact ⟨hle, by omega⟩
    | inr response => trivial
  have hloop : ∀ hop : Hop, hop.redirects = 0 → Triple (fun _ => True)
      (Effect.loop (requestRound library network client timeoutSeconds) fuel hop)
      (fun r _ => r ≠ none) fun _ _ => True := by
    intro hop hzero
    refine (Triple.loop_ends (μ := fun hop => client.maxRedirects - hop.redirects) hround fuel hop
      (by omega)).pre fun _ _ => ?_
    rw [hzero]
    exact Nat.zero_le _
  unfold request
  refine Triple.bind (Q := fun _ _ => True) ?_ fun _ => ?_
  · exact .require (fun _ _ _ => trivial) fun _ _ _ => trivial
  refine Triple.bind (Q := fun _ _ => True) (.ofExcept (fun _ _ _ _ => trivial) fun _ _ _ _ => trivial) fun _ => ?_
  refine Triple.bind (Q := fun _ _ => True) (.ofExcept (fun _ _ _ _ => trivial) fun _ _ _ _ => trivial) fun _ => ?_
  refine (hloop _ rfl).attempt fun e wire _ => ⟨fun r s hr => ?_, fun _ _ _ => trivial⟩
  exact absurd rfl ((auditDenial_rests (P := fun r => r = r) e wire).2 r (by rw [hr]))

end

/-- What the sends of a request have to do with the events before them. -/
structure GuardedRun (library : EgressLibrary) (client : GuardedHttpsClient)
    (events : List WireEvent) : Prop where
  admitted : ∀ before send outcome after, events = before ++ .sent send outcome :: after →
    Admitted library client.policy before send
  /-- A sensitive header is sent while the origin has stayed the same. -/
  sensitive : ∀ before send outcome after, events = before ++ .sent send outcome :: after →
    Sensitive library send.headers → ∀ earlier ∈ sends before,
      originFromUrl library earlier.url = originFromUrl library send.url
  /-- A header that is dropped, stays away. -/
  dropped : ∀ before send outcome after, events = before ++ .sent send outcome :: after →
    ∀ earlier ∈ sends before, send.headers.Sublist earlier.headers
  bounded : (sends events).length ≤ (client.maxRedirects + 1) * client.maxAttemptsPerHop

/-- **Every request is guarded**, ends, and does not send more through a derived client. -/
theorem egress_guarded (library : EgressLibrary) (client : GuardedHttpsClient) {σ : Type}
    (network : Network σ) (state : σ) (fuel : Nat) (method url : String) (headers : Headers)
    (body : Option String) (timeoutSeconds : PyFloat) :
    let run (network : Network σ) (client : GuardedHttpsClient) :=
      request library network client fuel method url headers body timeoutSeconds ⟨state, []⟩
    GuardedRun library client (run network client).2.events ∧
    (client.maxRedirects < fuel → (run network client).1 ≠ .ok none) ∧
    ∀ maxRedirects maxAttemptsPerHop maxResponseBytes derived,
      client.restricted maxRedirects maxAttemptsPerHop maxResponseBytes = .ok derived →
      Within derived client ∧
      sendsBut derived.maxResponseBytes (run network derived).2.events <+:
        sendsBut derived.maxResponseBytes
          (run (network.limited derived.maxResponseBytes) client).2.events := by
  have hshown : RequestShown library client (request library network client fuel method url headers
      body timeoutSeconds ⟨state, []⟩).2.events := by
    have hemits : Emits (wireTracing σ) (request library network client fuel method url headers body
        timeoutSeconds) (fun _ => RequestShown library client) (RequestShown library client) :=
      request_emits network fuel method url headers body
    replace hemits := hemits ⟨state, []⟩
    rcases hr : request library network client fuel method url headers body timeoutSeconds
      ⟨state, []⟩ with ⟨e | r, s⟩
    · obtain ⟨ev, hran, hdone⟩ := hemits.2 e s hr
      have hevents : s.events = [] ++ ev := hran
      rw [hevents]
      exact hdone
    · obtain ⟨ev, hran, hdone⟩ := hemits.1 r s hr
      have hevents : s.events = [] ++ ev := hran
      rw [hevents]
      exact hdone
  obtain ⟨hlawful, hbounded⟩ := hshown
  refine ⟨⟨?_, ?_, ?_, hbounded⟩, fun hfuel hnone => ?_, fun _ _ _ derived hderived => ?_⟩
  · intro before send outcome after hsplit
    have hsend : LawfulSend library client.policy before send := hlawful before _ after hsplit
    exact hsend.admitted
  · intro before send outcome after hsplit
    have hsend : LawfulSend library client.policy before send := hlawful before _ after hsplit
    exact hsend.sensitive
  · intro before send outcome after hsplit
    have hsend : LawfulSend library client.policy before send := hlawful before _ after hsplit
    exact hsend.headers
  · have hends : Triple (fun _ => True) (request library network client fuel method url headers body
        timeoutSeconds) (fun r _ => r ≠ none) fun _ _ => True :=
      request_ends network fuel hfuel method url headers body
    replace hends := hends ⟨state, []⟩ trivial
    rcases hr : request library network client fuel method url headers body timeoutSeconds
      ⟨state, []⟩ with ⟨r, s⟩
    beta_reduce at hnone
    rw [hr] at hnone
    dsimp only at hnone
    subst hnone
    exact absurd rfl (hends.1 none s hr)
  · have hwithin := restricted_within hderived
    exact ⟨hwithin, (request_behind hwithin fuel method url headers body _ _ ⟨rfl, rfl⟩).1⟩

end ProofAgent.Egress
