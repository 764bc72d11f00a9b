import ProofAgent.Security.SessionTransactions

/-! # What becomes of a session

The requests of a pool keep what they guarantee under every schedule: a session stays
revoked, its absolute expiry stays, and a resolution succeeds at a moment at which the
stored row is live under the token of the request. Tokens are drawn once, so one that
is gone stays away. -/
namespace ProofAgent.Sessions

open Base

variable (service : SessionService)

/-! ## Every request -/

section
variable {service}

theorem Guarantees.map {α β : Type} {drawn : Option String} {served : β → SessionStore → Prop}
    {f : α → β} {r : Option (Except SessionError α)} {s t : SessionStore}
    (h : Guarantees service drawn (fun a => served (f a)) r s t) :
    Guarantees service drawn served (r.map (Except.map f)) s t := by
  refine ⟨?_, fun b hb => ?_⟩
  · rw [Option.isSome_map]
    exact h.step
  · obtain ⟨x, rfl, hx⟩ := Option.map_eq_some_iff.mp hb
    cases x with
    | error e => cases hx
    | ok a =>
      cases hx
      exact h.served a rfl

theorem Keeps.map {α β : Type} {x : SessionCall α} {drawn : Option String}
    {served : β → SessionStore → Prop} {s : SessionStore} (f : α → β)
    (h : Keeps service x drawn (fun a => served (f a)) s) :
    Keeps service (x.map f) drawn served s :=
  Process.Obeys.map f (h.weaken Guarantees.map)

theorem SessionRequest.call_keeps (request : SessionRequest) (s : SessionStore) :
    Keeps service (request.call service) request.drawn (request.served service) s := by
  cases request with
  | startLogin env state nonce verifier redirectUri now =>
    exact (startLogin_keeps env state nonce verifier redirectUri now s).map _
  | completeLogin env state code now => exact (completeLogin_keeps env state code now s).map _
  | resolveSession env cookieToken now => exact (resolveSession_keeps env cookieToken now s).map _
  | logout cookieToken now =>
    refine Keeps.map _ fun s' _ => ⟨trivial, ⟨?_, fun _ _ => trivial⟩, trivial⟩
    exact revokeByTokenHash_step _ (service.sha256 cookieToken) now s'

end

variable (requests : List SessionRequest)

/-- What the request `i` guarantees. -/
def Guarded (i : Nat) (r : Option (Except SessionError SessionReply)) (s t : SessionStore) : Prop :=
  ∃ request, requests[i]? = some request ∧
    Guarantees service request.drawn (request.served service) r s t

section
variable {service} {requests}

theorem guarded_cooperation :
    Cooperation (fun _ _ => True) (fun _ => StoreFollows) (Guarded service requests) where
  refl _ s := .refl s
  trans h h' := h.trans h'
  tolerates _ _ h := by
    obtain ⟨_, _, hguarantees⟩ := h
    exact hguarantees.step.follows

theorem pool_obeys : (SessionRequest.pool service requests).Obeys (fun _ _ => True)
    (fun _ => StoreFollows) (Guarded service requests) := by
  intro i x hx
  unfold SessionRequest.pool at hx
  dsimp only at hx
  rw [List.getElem?_map, Option.map_eq_some_iff] at hx
  obtain ⟨request, hrequest, rfl⟩ := hx
  exact (request.call_keeps _).weaken fun h => ⟨request, hrequest, h⟩

/-- What a schedule does to the store. -/
theorem follows_interleave (first rest : List Nat) :
    StoreFollows ((SessionRequest.pool service requests).interleave first).state
      ((SessionRequest.pool service requests).interleave (first ++ rest)).state := by
  rw [Pool.interleave_append]
  refine Pool.Obeys.related guarded_cooperation .refl .trans (fun _ h => ?_)
    (pool_obeys.interleave guarded_cooperation)
  obtain ⟨_, _, hguarantees⟩ := h
  exact hguarantees.step.follows

theorem wellFormed_empty : SessionStore.empty.WellFormed :=
  ⟨fun _ hrow => (nomatch hrow), fun _ hrow => (nomatch hrow)⟩

theorem wellFormed_interleave (first : List Nat) :
    ((SessionRequest.pool service requests).interleave first).state.WellFormed := by
  refine (Pool.Obeys.invariant (I := fun c => c.state.WellFormed) guarded_cooperation ?_
    pool_obeys wellFormed_empty)
  intro c i write next hwellFormed hcall _ hguarded
  obtain ⟨_, _, hguarantees⟩ := hguarded
  rw [Pool.advance_step hcall]
  exact hguarantees.step.wellFormed hwellFormed

/-- The requests that may give a token have ended. -/
def Spent (requests : List SessionRequest) (token : String)
    (c : Pool SessionStore SessionError SessionReply) : Prop :=
  ∀ (i : Nat) (request : SessionRequest), requests[i]? = some request →
    request.drawn = some token → c.result i ≠ none

/-- One request gives a token. -/
theorem drawn_once (hdrawn : (requests.filterMap SessionRequest.drawn).Nodup) {i j : Nat}
    {request other : SessionRequest} {token : String} (hi : requests[i]? = some request)
    (hj : requests[j]? = some other) (hrequest : request.drawn = some token)
    (hother : other.drawn = some token) : i = j := by
  rw [List.Nodup, List.pairwise_filterMap, List.pairwise_iff_getElem] at hdrawn
  obtain ⟨hilt, hi⟩ := List.getElem?_eq_some_iff.mp hi
  obtain ⟨hjlt, hj⟩ := List.getElem?_eq_some_iff.mp hj
  by_contra hne
  rcases Nat.lt_or_gt_of_ne hne with hlt | hlt
  · refine hdrawn i j hilt hjlt hlt token ?_ token ?_ rfl
    · rw [hi]
      exact hrequest
    · rw [hj]
      exact hother
  · refine hdrawn j i hjlt hilt hlt token ?_ token ?_ rfl
    · rw [hj]
      exact hother
    · rw [hi]
      exact hrequest

/-- A token comes into the store when the request ends that has drawn it. -/
theorem Guarded.tokens {i : Nat} {r : Option (Except SessionError SessionReply)}
    {s t : SessionStore} (h : Guarded service requests i r s t) {token : String}
    (htoken : t.Holds (service.sha256 token)) :
    s.Holds (service.sha256 token) ∨ r ≠ none ∧
      ∃ request, requests[i]? = some request ∧ request.drawn = some token := by
  obtain ⟨request, hrequest, hguarantees⟩ := h
  refine (hguarantees.step.tokens _ htoken).imp_right fun hgives => ?_
  cases r with
  | none => cases hgives
  | some r =>
    rw [Option.isSome_some, if_pos rfl, Option.map_eq_some_iff] at hgives
    obtain ⟨drawn, hdrawn, hsame⟩ := hgives
    rw [service.sha256_injective hsame] at hdrawn
    exact ⟨nofun, request, hrequest, hdrawn⟩

/-- **Tokens are spent**: those of the store were drawn by requests that have ended. -/
theorem tokens_spent (hdrawn : (requests.filterMap SessionRequest.drawn).Nodup) {first : List Nat}
    {token : String}
    (htoken : ((SessionRequest.pool service requests).interleave first).state.Holds
      (service.sha256 token)) :
    Spent requests token ((SessionRequest.pool service requests).interleave first) := by
  revert token
  refine Pool.Obeys.invariant (I := fun c => ∀ {token}, c.state.Holds (service.sha256 token) →
    Spent requests token c) guarded_cooperation ?_ pool_obeys ?_
  · intro c i write next hinv hcall _ hguarded token htoken j request hrequest hj hrunning
    have hbefore : c.result j ≠ none → False := fun hended => by
      obtain ⟨r, hr⟩ := Option.ne_none_iff_exists'.mp hended
      rw [Pool.result_advance hr] at hrunning
      cases hrunning
    rw [Pool.advance_step hcall] at htoken hrunning
    rcases hguarded.tokens htoken with hold | ⟨hended, other, hother, hi⟩
    · exact hbefore (hinv hold j request hrequest hj)
    · cases drawn_once hdrawn hother hrequest hi hj
      rw [Pool.result_set_self hcall] at hrunning
      exact hended hrunning
  · intro token hholds
    obtain ⟨row, hrow, _⟩ := hholds
    cases hrow

/-- **A spent token stays away.** -/
theorem absent_interleave {token : String} {rest : List Nat}
    {c : Pool SessionStore SessionError SessionReply}
    (hobeys : c.Obeys (fun _ _ => True) (fun _ => StoreFollows) (Guarded service requests))
    (hspent : Spent requests token c) (habsent : ¬ c.state.Holds (service.sha256 token)) :
    ¬ (c.interleave rest).state.Holds (service.sha256 token) := by
  refine (Pool.Obeys.invariant (I := fun c => Spent requests token c ∧
    ¬ c.state.Holds (service.sha256 token)) guarded_cooperation ?_ hobeys ⟨hspent, habsent⟩).2
  intro c i write next hinv hcall _ hguarded
  refine ⟨fun j request hrequest hj hrunning => ?_, fun htoken => ?_⟩
  · obtain ⟨r, hr⟩ := Option.ne_none_iff_exists'.mp (hinv.1 j request hrequest hj)
    rw [Pool.result_advance hr] at hrunning
    cases hrunning
  · rw [Pool.advance_step hcall] at htoken
    rcases hguarded.tokens htoken with hold | ⟨_, request, hrequest, hi⟩
    · exact hinv.2 hold
    · refine hinv.1 i request hrequest hi ?_
      unfold Pool.result
      rw [hcall]
      rfl

/-! ## Requests that end -/

/-- **A resolution is served from a row that is live.** -/
theorem resolved_live {c : Pool SessionStore SessionError SessionReply}
    (hobeys : c.Obeys (fun _ _ => True) (fun _ => StoreFollows) (Guarded service requests))
    {i : Nat} {env : Collaborators} {cookieToken : String} {now : Instant}
    {resolution : SessionResolution}
    (hrequest : requests[i]? = some (.resolveSession env cookieToken now))
    (hrunning : c.result i = none) {schedule : List Nat}
    (hended : (c.interleave schedule).result i = some (.ok (.resolved resolution))) :
    ∃ before after, schedule = before ++ i :: after ∧ (c.interleave before).state.Live
      (service.sha256 cookieToken) resolution.projection.sessionId now := by
  obtain ⟨before, after, rfl, hends⟩ := Pool.ends_of_result hrunning hended
  refine ⟨before, after, rfl, ?_⟩
  obtain ⟨_, request, hsame, hguarantees⟩ :=
    (hobeys.interleave guarded_cooperation).ends guarded_cooperation hends
  rw [hrequest] at hsame
  cases hsame
  exact hguarantees.served _ rfl

/-- **A login that succeeds consumes its attempt.** -/
theorem login_consumes {i : Nat} {env : Collaborators} {state code : String} {now : Instant}
    {reply : SessionReply} {schedule : List Nat}
    (hrequest : requests[i]? = some (.completeLogin env state code now))
    (hended : ((SessionRequest.pool service requests).interleave schedule).result i =
      some (.ok reply)) :
    ∃ before after, schedule = before ++ i :: after ∧
      (∃ a ∈ ((SessionRequest.pool service requests).interleave before).state.attempts.rows,
        a.stateSha256 = service.sha256 state ∧ a.consumedAt = none) ∧
      ∃ a ∈ ((SessionRequest.pool service requests).interleave (before ++ [i])).state.attempts.rows,
        a.stateSha256 = service.sha256 state ∧ a.consumedAt.isSome = true := by
  have hcall : (SessionRequest.pool service requests).calls[i]? =
      some ((SessionRequest.completeLogin env state code now).call service) := by
    unfold SessionRequest.pool
    rw [List.getElem?_map, hrequest]
    rfl
  obtain ⟨before, after, rfl, hbefore⟩ := Pool.first_step hcall hended
  refine ⟨before, after, rfl, ?_⟩
  rw [Pool.interleave_append, Pool.interleave_cons] at hended
  rw [Pool.interleave_append, Pool.interleave_cons, Pool.interleave_nil]
  generalize (SessionRequest.pool service requests).interleave before = c at hbefore hended ⊢
  have hadvance := Pool.advance_step hbefore
  rw [hadvance]
  cases hfind : c.state.attempts.rows.find? (consumable (service.sha256 state) now) with
  | none =>
    have hfailed : (c.advance i).result i =
        some (.error (.authentication "OIDC authorization state is invalid or replayed")) := by
      rw [hadvance, Pool.result_set_self hbefore]
      simp only [consumeLoginAttempt, hfind, Option.map_none]
      rfl
    rw [Pool.result_interleave hfailed] at hended
    cases hended
  | some a =>
    have hmem := List.mem_of_find?_eq_some hfind
    have hmatch := List.find?_some hfind
    have hconsumed := hmatch
    unfold consumable at hmatch
    simp only [Bool.and_eq_true, decide_eq_true_eq, Option.isNone_iff_eq_none] at hmatch
    refine ⟨⟨a, hmem, hmatch.1.1, hmatch.1.2⟩, { a with consumedAt := some now }, ?_, hmatch.1.1, rfl⟩
    exact consumeLoginAttempt_mem hmem hconsumed

/-- An attempt is not consumed twice. -/
theorem attempt_once {first rest : List Nat} {stateSha256 : String}
    {a b : OidcLoginAttemptRecord}
    (ha : a ∈ ((SessionRequest.pool service requests).interleave first).state.attempts.rows)
    (hastate : a.stateSha256 = stateSha256) (hconsumed : a.consumedAt.isSome = true)
    (hb : b ∈ ((SessionRequest.pool service requests).interleave (first ++ rest)).state.attempts.rows)
    (hbstate : b.stateSha256 = stateSha256) : b.consumedAt ≠ none := by
  intro hfresh
  obtain ⟨later, hlater, hfollows⟩ := (follows_interleave first rest).attempts a ha
  have hsame : b = later :=
    Table.eq_of_key hb hlater (hbstate.trans (hastate.symm.trans hfollows.state.symm))
  have hlaterConsumed := hfollows.consumed hconsumed
  rw [← hsame, hfresh] at hlaterConsumed
  cases hlaterConsumed

theorem resolveSession_alone (env : Collaborators) (cookieToken : String) (now : Instant)
    (s : SessionStore) : (resolveSession service env cookieToken now).alone s =
      (resolveRecord service env cookieToken now (s.sessions.rows.find? fun row =>
        row.sessionTokenSha256 = service.sha256 cookieToken)).alone s := rfl

theorem renew_alone (env : Collaborators) (record : OperatorSessionRecord) (cookieToken : String)
    (now : Instant) (claims : SessionClaims) (s : SessionStore) :
    let next := if rotates env record claims then env.tokenUrlsafe else cookieToken
    let updated := nextRecord service env record next now claims
    (renew service env record cookieToken now claims).alone s =
      (updateSession updated record.sessionVersion >>= fun _ =>
        pure (resolution service env updated next (rotates env record claims))) s :=
  Process.alone_bind _ s

/-- A request that nothing comes between resolves the live session of its token. -/
theorem alone_live {env : Collaborators} {cookieToken : String} {now : Instant}
    {s : SessionStore} {resolution : SessionResolution}
    (h : ((resolveSession service env cookieToken now).alone s).1 = .ok resolution) :
    s.Live (service.sha256 cookieToken) resolution.projection.sessionId now := by
  rw [resolveSession_alone] at h
  cases hfind : s.sessions.rows.find? fun row =>
      row.sessionTokenSha256 = service.sha256 cookieToken with
  | none =>
    rw [hfind] at h
    cases h
  | some record =>
    rw [hfind] at h
    have hmem := List.mem_of_find?_eq_some hfind
    have htoken : record.sessionTokenSha256 = service.sha256 cookieToken := by
      simpa using List.find?_some hfind
    rcases resolveRecord_cases env cookieToken now record with
      ⟨e, hend⟩ | ⟨message, hend⟩ | ⟨hlive, claims, _, hend⟩
    · rw [hend] at h
      cases h
    · rw [hend] at h
      cases h
    · rw [hend, renew_alone, Effect.run_bind] at h
      refine ⟨record, hmem, ?_, htoken, hlive⟩
      split at h
      · cases h
        rfl
      · cases h

end

/-! ## The lifecycle -/

variable (requests : List SessionRequest)

/-- The moment that a schedule leads to. -/
abbrev moment (schedule : List Nat) : Pool SessionStore SessionError SessionReply :=
  (SessionRequest.pool service requests).interleave schedule

/-- A store that requests lead to. -/
def Reachable (s : SessionStore) : Prop :=
  ∃ (requests : List SessionRequest) (schedule : List Nat), s = (moment service requests schedule).state

theorem Reachable.wellFormed {service : SessionService} {s : SessionStore}
    (h : Reachable service s) : s.WellFormed := by
  obtain ⟨requests, schedule, rfl⟩ := h
  exact wellFormed_interleave schedule

/-- **The life of the sessions**: `first` leads to a moment, and `rest` on from it. -/
structure Lifecycle (first rest : List Nat) : Prop where
  /-- The absolute expiry of a session stays, and it is never idle for longer. -/
  expiry : ∀ row ∈ (moment service requests first).state.sessions.rows,
    row.idleExpiresAt ≤ row.absoluteExpiresAt ∧
      ∃ later ∈ (moment service requests (first ++ rest)).state.sessions.rows,
        later.sessionId = row.sessionId ∧ later.absoluteExpiresAt = row.absoluteExpiresAt
  /-- A session stays revoked, -/
  revoked : ∀ row ∈ (moment service requests first).state.sessions.rows,
    row.revokedAt.isSome = true →
      ∃ later ∈ (moment service requests (first ++ rest)).state.sessions.rows,
        later.sessionId = row.sessionId ∧ later.revokedAt = row.revokedAt
  /-- and never resolves again, for requests that had read it before, either. -/
  unresolved : ∀ row ∈ (moment service requests first).state.sessions.rows,
    row.revokedAt.isSome = true → ∀ i env cookieToken now resolution,
      requests[i]? = some (.resolveSession env cookieToken now) →
      (moment service requests first).result i = none →
      (moment service requests (first ++ rest)).result i = some (.ok (.resolved resolution)) →
      resolution.projection.sessionId ≠ row.sessionId
  /-- One token resolves for a session at a moment. -/
  oneToken : ∀ env env' cookieToken cookieToken' now now' resolution resolution',
    ((resolveSession service env cookieToken now).alone
      (moment service requests first).state).1 = .ok resolution →
    ((resolveSession service env' cookieToken' now').alone
      (moment service requests first).state).1 = .ok resolution' →
    resolution.projection.sessionId = resolution'.projection.sessionId → cookieToken = cookieToken'
  /-- A token that has been rotated away never resolves again. -/
  rotated : ∀ cookieToken,
    (moment service requests first).state.Holds (service.sha256 cookieToken) →
    ¬ (moment service requests (first ++ rest)).state.Holds (service.sha256 cookieToken) →
    ∀ i env now resolution more, requests[i]? = some (.resolveSession env cookieToken now) →
      (moment service requests (first ++ rest)).result i = none →
      (moment service requests (first ++ rest ++ more)).result i ≠ some (.ok (.resolved resolution))
  /-- A resolution succeeds before the stored expiries. -/
  live : ∀ i env cookieToken now resolution,
    requests[i]? = some (.resolveSession env cookieToken now) →
    (moment service requests first).result i = some (.ok (.resolved resolution)) →
    ∃ before after, first = before ++ i :: after ∧
      (moment service requests before).state.Live (service.sha256 cookieToken)
        resolution.projection.sessionId now
  /-- A state value completes one login. -/
  logins : ∀ i j env env' state code code' now now' reply reply',
    requests[i]? = some (.completeLogin env state code now) →
    requests[j]? = some (.completeLogin env' state code' now') →
    (moment service requests first).result i = some (.ok reply) →
    (moment service requests first).result j = some (.ok reply') → i = j

section
variable {service} {requests}

/-- One schedule of two logins is longer when they begin. -/
theorem logins_once {first : List Nat} {i j : Nat} {env env' : Collaborators}
    {state code code' : String} {now now' : Instant} {reply reply' : SessionReply}
    (hi : requests[i]? = some (.completeLogin env state code now))
    (hj : requests[j]? = some (.completeLogin env' state code' now'))
    (hiok : (moment service requests first).result i = some (.ok reply))
    (hjok : (moment service requests first).result j = some (.ok reply')) : i = j := by
  obtain ⟨before, after, rfl, ⟨a, ha, hastate, hafresh⟩, a', ha', hastate', haconsumed⟩ :=
    login_consumes hi hiok
  obtain ⟨before', after', hsplit, ⟨b, hb, hbstate, hbfresh⟩, b', hb', hbstate', hbconsumed⟩ :=
    login_consumes hj hjok
  rcases List.append_eq_append_iff.mp hsplit with ⟨middle, rfl, hmiddle⟩ | ⟨middle, rfl, hmiddle⟩
  · cases middle with
    | nil => exact (List.cons.inj hmiddle).1
    | cons k middle =>
      rw [← (List.cons.inj hmiddle).1, ← List.singleton_append, ← List.append_assoc] at hb
      exact absurd hbfresh (attempt_once ha' hastate' haconsumed hb hbstate)
  · cases middle with
    | nil => exact (List.cons.inj hmiddle).1.symm
    | cons k middle =>
      rw [← (List.cons.inj hmiddle).1, ← List.singleton_append, ← List.append_assoc] at ha
      exact absurd hafresh (attempt_once hb' hbstate' hbconsumed ha hastate)

end

/-- Sessions under every schedule of every list of requests, where tokens are drawn once. -/
theorem lifecycle (hdrawn : (requests.filterMap SessionRequest.drawn).Nodup)
    (first rest : List Nat) : Lifecycle service requests first rest where
  expiry row hrow := by
    obtain ⟨later, hlater, hfollows⟩ := (follows_interleave first rest).sessions row hrow
    exact ⟨((wellFormed_interleave first).sound row hrow).bounded, later, hlater, hfollows.sessionId, hfollows.absolute⟩
  revoked row hrow hrevoked := by
    obtain ⟨later, hlater, hfollows⟩ := (follows_interleave first rest).sessions row hrow
    exact ⟨later, hlater, hfollows.sessionId, hfollows.revoked hrevoked⟩
  unresolved row hrow hrevoked i env cookieToken now resolution hrequest hrunning hended hsame := by
    unfold moment at hended
    rw [Pool.interleave_append] at hended
    obtain ⟨before, _, _, live, hlive, hid, _, hunrevoked, _⟩ :=
      resolved_live (pool_obeys.interleave guarded_cooperation) hrequest hrunning hended
    rw [← Pool.interleave_append] at hlive
    obtain ⟨later, hlater, hfollows⟩ := (follows_interleave first before).sessions row hrow
    have heq : live = later :=
      Table.eq_of_key hlive hlater (hid.trans (hsame.trans hfollows.sessionId.symm))
    rw [heq, hfollows.revoked hrevoked] at hunrevoked
    rw [hunrevoked] at hrevoked
    cases hrevoked
  oneToken env env' cookieToken cookieToken' now now' resolution resolution' h h' hsame := by
    obtain ⟨row, hrow, hid, htoken, _⟩ := alone_live h
    obtain ⟨row', hrow', hid', htoken', _⟩ := alone_live h'
    have heq : row = row' := Table.eq_of_key hrow hrow' (hid.trans (hsame.trans hid'.symm))
    rw [heq, htoken'] at htoken
    exact (service.sha256_injective htoken).symm
  rotated cookieToken hheld hgone i env now resolution more hrequest hrunning hended := by
    unfold moment at hended
    rw [Pool.interleave_append _ (first ++ rest)] at hended
    have hobeys : (SessionRequest.pool service requests).Obeys _ _ (Guarded service requests) :=
      pool_obeys
    obtain ⟨before, _, _, row, hrow, _, htoken, _⟩ :=
      resolved_live (hobeys.interleave guarded_cooperation) hrequest hrunning hended
    have hspent : Spent requests cookieToken (moment service requests (first ++ rest)) := by
      intro j request hj hdraws
      obtain ⟨r, hr⟩ := Option.ne_none_iff_exists'.mp (tokens_spent hdrawn hheld j request hj hdraws)
      unfold moment
      rw [Pool.interleave_append, Pool.result_interleave hr]
      exact Option.some_ne_none r
    exact absent_interleave (hobeys.interleave guarded_cooperation) hspent hgone ⟨row, hrow, htoken⟩
  live i env cookieToken now resolution hrequest hended := by
    have hrunning : (SessionRequest.pool service requests).result i = none := by
      unfold Pool.result SessionRequest.pool
      rw [List.getElem?_map, hrequest]
      rfl
    exact resolved_live pool_obeys hrequest hrunning hended
  logins i j env env' state code code' now now' reply reply' := logins_once

namespace Sample

/-- Digests that keep their text. -/
def digests : SessionService where
  sha256 := id
  hmacSha256 _ message := message
  csrfKey := "key"
  sha256_injective := Function.injective_id
  hmacSha256_injective _ := Function.injective_id

def operator (claimsVerifiedAt : Instant) : OidcPrincipal where
  subject := "operator"
  issuer := "https://issuer"
  audience := "dashboard"
  displayName := "Operator"
  authenticatedAt := claimsVerifiedAt
  claimsVerifiedAt

/-- Collaborators that answer at `now`, with the permission epoch and the token that is drawn. -/
def answers (now : Instant) (permissionEpoch : Nat) (tokenUrlsafe : String) : Collaborators where
  encrypt plaintext _ := .ok ⟨plaintext, "v1"⟩
  decrypt ciphertext _ _ := .ok ciphertext
  exchangeCode _ _ _ _ := some ⟨operator now, "material"⟩
  refresh material := some ⟨operator now, material⟩
  activeMapping := none
  permissionEpoch
  storedPermissionEpoch := permissionEpoch
  effectivePermissions _ := []
  institutionAuthorization _ := {}
  tokenUrlsafe
  uuid4 := "session"

/-- A login and two requests, the second at a new permission epoch. -/
def logins : List SessionRequest :=
  [.startLogin (answers 0 1 "") "state" "nonce" "verifier" "https://agent" 0,
    .completeLogin (answers 0 1 "token-1") "state" "code" 0,
    .resolveSession (answers (seconds 60) 1 "token-2") "token-1" (seconds 60),
    .resolveSession (answers (seconds 90) 2 "token-3") "token-1" (seconds 90)]

end Sample

theorem sample_lifecycle :
    Lifecycle Sample.digests Sample.logins [0, 1, 1, 3] [2, 2, 3] :=
  lifecycle _ _ (by decide) _ _

namespace Sample

/-- The store after a login. -/
def store : SessionStore := (moment digests logins [0, 1, 1]).state

/-- The session of the login. -/
def session : OperatorSessionRecord :=
  firstRecord digests (answers 0 1 "token-1") 0 ⟨operator 0, "material"⟩ ⟨"material", "v1"⟩

theorem store_reachable : Reachable digests store := ⟨logins, [0, 1, 1], rfl⟩

theorem store_rows : store.sessions.rows = [session] := by
  rfl

theorem session_mem : session ∈ store.sessions.rows := by
  rw [store_rows]
  exact List.mem_singleton_self _

end Sample

end ProofAgent.Sessions
