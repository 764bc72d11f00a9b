import ProofAgent.Security.SessionLifecycle
import ProofAgent.Identity.OidcClient

/-! # The owner of a session

A session is opened for the issuer and the subject of a verified ID token. Its claims
are verified again every hour, by the refresh token that it has kept, and the principal
is replaced by that of the new ID token. The issuer is always the one of the
configuration; the subject is whatever the new token says. So a session keeps its owner
as long as the provider answers each refresh with the subject of the session. -/
namespace ProofAgent.Oidc

open Base Sessions

variable {client : GuardedOidcClient} {answers : ProviderAnswers}

/-- The collaborators of a call whose OIDC client is `client`. -/
def GuardedOidcClient.connect (client : GuardedOidcClient) (answers : ProviderAnswers)
    (env : Collaborators) : Collaborators :=
  { env with
    exchangeCode := fun code codeVerifier expectedNonce redirectUri =>
      (exchangeCode client answers code codeVerifier expectedNonce redirectUri).toOption
    refresh := fun material => (refresh client answers material).toOption }

/-- The provider answers the refresh of some material, if at all, with an ID token of the
subject. -/
def AnswersFor (client : GuardedOidcClient) (answers : ProviderAnswers)
    (material subject : String) : Prop :=
  ∀ token tokenResponse idToken jwks claims, refreshToken client material = .ok token →
    postToken client answers (refreshForm token) = .ok tokenResponse →
    tokenResponse.lookup "id_token" = some (.str idToken) → loadJwks client answers = .ok jwks →
    client.library.decode idToken jwks = some claims → claims.lookup "sub" = some (.str subject)

theorem identityOf_ok {claims : Claims} {issuer subject : String}
    (h : identityOf client claims = .ok (issuer, subject)) :
    issuer = client.configuration.issuer ∧ claims.lookup "sub" = some (.str subject) := by
  unfold identityOf at h
  split at h
  · rename_i hsubject
    split at h
    · rename_i hvalid
      cases h
      exact ⟨hvalid.1, hsubject⟩
    · cases h
  · cases h

/-- The principal of some claims: that of their issuer, which is the configured one, and
their subject. -/
theorem validateClaims_ok {claims : Claims} {expectedNonce : Option String}
    {principal : OidcPrincipal}
    (h : validateClaims client answers claims expectedNonce = .ok principal) :
    principal.issuer = client.configuration.issuer ∧
      claims.lookup "sub" = some (.str principal.subject) := by
  unfold validateClaims at h
  obtain ⟨⟨issuer, subject⟩, hidentity, h⟩ := bind_ok h
  dsimp only at h
  split at h
  · cases h
  · obtain ⟨_, _, h⟩ := bind_ok h
    obtain ⟨_, _, h⟩ := bind_ok h
    obtain ⟨_, _, h⟩ := bind_ok h
    obtain ⟨_, _, h⟩ := bind_ok h
    obtain ⟨_, _, h⟩ := bind_ok h
    obtain ⟨_, _, h⟩ := bind_ok h
    split at h
    · cases h
    · cases h
      exact identityOf_ok hidentity

theorem verifiedMaterial_ok {tokenResponse : Claims} {expectedNonce : Option String}
    {verified : VerifiedOidcIdentity}
    (h : verifiedMaterial client answers tokenResponse expectedNonce = .ok verified) :
    verified.principal.issuer = client.configuration.issuer ∧
      ∃ idToken jwks claims, tokenResponse.lookup "id_token" = some (.str idToken) ∧
        loadJwks client answers = .ok jwks ∧ client.library.decode idToken jwks = some claims ∧
        claims.lookup "sub" = some (.str verified.principal.subject) := by
  unfold verifiedMaterial at h
  split at h
  · rename_i idToken hid
    split at h
    · cases h
    · obtain ⟨jwks, hjwks, h⟩ := bind_ok h
      split at h
      · cases h
      · rename_i claims hclaims
        obtain ⟨principal, hprincipal, h⟩ := bind_ok h
        cases h
        obtain ⟨hissuer, hsubject⟩ := validateClaims_ok hprincipal
        exact ⟨hissuer, idToken, jwks, claims, hid, hjwks, hclaims, hsubject⟩
  · cases h

theorem exchangeCode_issuer {code codeVerifier expectedNonce redirectUri : String}
    {verified : VerifiedOidcIdentity}
    (h : exchangeCode client answers code codeVerifier expectedNonce redirectUri = .ok verified) :
    verified.principal.issuer = client.configuration.issuer := by
  unfold exchangeCode at h
  split at h
  · cases h
  · split at h
    · cases h
    · obtain ⟨_, _, h⟩ := bind_ok h
      exact (verifiedMaterial_ok h).1

/-- The refresh token is put after the others. -/
theorem lookup_idToken (tokenResponse : Claims) (token : String) :
    (if (tokenResponse.lookup "refresh_token").isSome = true then tokenResponse
      else tokenResponse ++ [("refresh_token", .str token)]).lookup "id_token" =
      tokenResponse.lookup "id_token" := by
  split
  · rfl
  · rw [List.lookup_append]
    exact Option.or_none

/-- **A refresh keeps the issuer**, and has the subject that the provider answers for. -/
theorem refresh_owner {material : String} {verified : VerifiedOidcIdentity}
    (h : refresh client answers material = .ok verified) :
    verified.principal.issuer = client.configuration.issuer ∧
      ∀ subject, AnswersFor client answers material subject →
        verified.principal.subject = subject := by
  unfold refresh at h
  obtain ⟨token, htoken, h⟩ := bind_ok h
  obtain ⟨tokenResponse, hresponse, h⟩ := bind_ok h
  obtain ⟨hissuer, idToken, jwks, claims, hid, hjwks, hclaims, hsubject⟩ := verifiedMaterial_ok h
  rw [lookup_idToken] at hid
  refine ⟨hissuer, fun subject hanswers => ?_⟩
  have hsame := hanswers token tokenResponse idToken jwks claims htoken hresponse hid hjwks hclaims
  rw [hsubject] at hsame
  cases hsame
  rfl

end ProofAgent.Oidc

namespace ProofAgent.Sessions

open Base Oidc

/-! ## Owners -/

/-- Who a principal is: the issuer and the subject. -/
def ownerOf (principal : OidcPrincipal) : String × String := (principal.issuer, principal.subject)

/-- The sessions of a store stay, each with its owner. -/
def OwnersFollow (s t : SessionStore) : Prop :=
  Table.Evolves (fun old new : OperatorSessionRecord => new.sessionId = old.sessionId ∧
    ownerOf new.principal = ownerOf old.principal) s.sessions t.sessions

/-- The sessions of a store are of one issuer. -/
def SessionStore.Issued (issuer : String) (s : SessionStore) : Prop :=
  ∀ row ∈ s.sessions.rows, row.principal.issuer = issuer

theorem OwnersFollow.refl (s : SessionStore) : OwnersFollow s s :=
  Table.Evolves.refl fun _ => ⟨rfl, rfl⟩

theorem OwnersFollow.trans {s t u : SessionStore} (hst : OwnersFollow s t)
    (htu : OwnersFollow t u) : OwnersFollow s u :=
  Table.Evolves.trans (fun _ _ _ h h' => ⟨h'.1.trans h.1, h'.2.trans h.2⟩) hst htu

/-- What a transaction does to the owners of the sessions, where `faithful` says that the
provider answers it for the right subject. -/
structure OwnerStep {α : Type} (issuer : String) (faithful : SessionStore → Prop)
    (owned : α → SessionStore → Prop) (r : Option (Except SessionError α)) (s t : SessionStore) :
    Prop where
  follows : StoreFollows s t
  issued : s.Issued issuer → t.Issued issuer
  kept : s.Issued issuer → faithful s → OwnersFollow s t
  owned : ∀ a, r = some (.ok a) → owned a t

/-- A rewriting of rows that keeps the principal of each. -/
theorem ownersFollow_update {s : SessionStore} {p : OperatorSessionRecord → Bool}
    {f : OperatorSessionRecord → OperatorSessionRecord}
    {hf : ∀ row, (f row).sessionId = row.sessionId}
    (hsame : ∀ row ∈ s.sessions.rows, p row = true →
      ownerOf (f row).principal = ownerOf row.principal) :
    OwnersFollow s { s with sessions := s.sessions.update p f hf } := by
  intro row hrow
  have hmem : (if p row = true then f row else row) ∈ (s.sessions.update p f hf).rows :=
    Table.mem_update.mpr ⟨row, hrow, rfl⟩
  refine ⟨_, hmem, ?_⟩
  split
  · rename_i hp
    exact ⟨hf row, hsame row hrow hp⟩
  · exact ⟨rfl, rfl⟩

theorem issued_update {s : SessionStore} {p : OperatorSessionRecord → Bool}
    {f : OperatorSessionRecord → OperatorSessionRecord} {issuer : String}
    {hf : ∀ row, (f row).sessionId = row.sessionId}
    (hissuer : ∀ row ∈ s.sessions.rows, p row = true → row.principal.issuer = issuer →
      (f row).principal.issuer = issuer) (h : s.Issued issuer) :
    ({ s with sessions := s.sessions.update p f hf } : SessionStore).Issued issuer := by
  intro row hrow
  have hmem : row ∈ (s.sessions.update p f hf).rows := hrow
  obtain ⟨old, hold, rfl⟩ := Table.mem_update.mp hmem
  split
  · rename_i hp
    exact hissuer old hold hp (h old hold)
  · exact h old hold

section
variable {service : SessionService} {α : Type} {issuer : String} {faithful : SessionStore → Prop}
  {owned : α → SessionStore → Prop}

/-- What is left of a request keeps the owners. -/
abbrev KeepsOwners (x : SessionCall α) (issuer : String) (faithful : SessionStore → Prop)
    (owned : α → SessionStore → Prop) (s : SessionStore) : Prop :=
  x.Obeys (fun _ => True) StoreFollows (OwnerStep issuer faithful owned) s

/-- A transaction that leaves the sessions alone. -/
theorem OwnerStep.of_sessions {r : Option (Except SessionError α)} {s t : SessionStore}
    (hfollows : StoreFollows s t) (hsessions : t.sessions = s.sessions)
    (howned : ∀ a, r = some (.ok a) → owned a t) : OwnerStep issuer faithful owned r s t := by
  refine ⟨hfollows, fun h => ?_, fun _ _ => ?_, howned⟩
  · unfold SessionStore.Issued
    rw [hsessions]
    exact h
  · unfold OwnersFollow
    rw [hsessions]
    exact OwnersFollow.refl s

theorem revokeByTokenHash_owners (service : SessionService) (tokenSha256 : String)
    (revokedAt : Instant) {s : SessionStore} {r : Option (Except SessionError α)}
    (hr : ∀ a, r = some (.ok a) → owned a (revokeByTokenHash tokenSha256 revokedAt s).2) :
    OwnerStep issuer faithful owned r s (revokeByTokenHash tokenSha256 revokedAt s).2 := by
  have hstep : SessionStep service none s (revokeByTokenHash tokenSha256 revokedAt s).2 :=
    revokeByTokenHash_step none tokenSha256 revokedAt s
  exact ⟨hstep.follows, issued_update fun _ _ _ h => h,
    fun _ _ => ownersFollow_update fun _ _ _ => rfl, hr⟩

/-- A session comes in with its owner. -/
theorem createSession_owners {drawn : Option String} {session : OperatorSessionRecord}
    {s : SessionStore} {r : Option (Except SessionError α)} (hsound : SoundRecord session)
    (hdrawn : drawn.map service.sha256 = some session.sessionTokenSha256)
    (hissuer : session.principal.issuer = issuer)
    (howned : ∀ a, r = some (.ok a) → session ∈ (createSession session s).2.sessions.rows →
      owned a (createSession session s).2)
    (hfailed : ∀ e, (createSession session s).1 = .error e → ∀ a, r ≠ some (.ok a)) :
    OwnerStep issuer faithful owned r s (createSession session s).2 := by
  have hstep : SessionStep service drawn s (createSession session s).2 :=
    createSession_step hsound hdrawn s
  rcases createSession_cases session s with ⟨e, hrun⟩ | ⟨sessions, hinsert, _, hrun⟩
  · have hsessions : (createSession session s).2.sessions = s.sessions := by rw [hrun]
    exact .of_sessions hstep.follows hsessions fun a ha => absurd ha (hfailed e (by rw [hrun]) a)
  · have hrows := (Table.insert?_some hinsert).1
    rw [hrun] at hstep howned ⊢
    refine ⟨hstep.follows, fun h row hrow => ?_, fun _ _ => ?_, fun a ha => howned a ha ?_⟩
    · have hmem : row ∈ sessions.rows := hrow
      rw [hrows] at hmem
      rcases List.mem_append.mp hmem with hold | hnew
      · exact h row hold
      · rw [List.mem_singleton.mp hnew]
        exact hissuer
    · exact Table.Evolves.of_insert (fun _ => ⟨rfl, rfl⟩) hinsert
    · show session ∈ sessions.rows
      rw [hrows]
      exact List.mem_append_right _ (List.mem_singleton_self _)

/-- The next version of a session that has been read as `record`. -/
theorem updateSession_owners {record session : OperatorSessionRecord}
    {s : SessionStore} {r : Option (Except SessionError α)}
    (hfollows : StoreFollows s (updateSession session record.sessionVersion s).2)
    (hid : session.sessionId = record.sessionId)
    (hread : ∀ row ∈ s.sessions.rows, row.sessionId = record.sessionId →
      row.sessionVersion = record.sessionVersion → row = record)
    (hissuer : record.principal.issuer = issuer → session.principal.issuer = issuer)
    (hsubject : record ∈ s.sessions.rows → faithful s →
      session.principal.subject = record.principal.subject)
    (howned : ∀ a, r = some (.ok a) →
      session ∈ (updateSession session record.sessionVersion s).2.sessions.rows →
      owned a (updateSession session record.sessionVersion s).2)
    (hfailed : ∀ e, (updateSession session record.sessionVersion s).1 = .error e →
      ∀ a, r ≠ some (.ok a)) :
    OwnerStep issuer faithful owned r s (updateSession session record.sessionVersion s).2 := by
  rcases updateSession_cases session record.sessionVersion s with
    ⟨e, hrun⟩ | ⟨_, hany, _, hrun⟩
  · have hsessions : (updateSession session record.sessionVersion s).2.sessions = s.sessions := by
      rw [hrun]
    exact .of_sessions hfollows hsessions fun a ha => absurd ha (hfailed e (by rw [hrun]) a)
  · have hrow : ∀ row ∈ s.sessions.rows,
        isVersion session.sessionId record.sessionVersion row = true → row = record := by
      intro row hrow hmatch
      rw [isVersion_iff, hid] at hmatch
      exact hread row hrow hmatch.1 hmatch.2
    rw [hrun] at hfollows howned ⊢
    refine ⟨hfollows, issued_update fun row hmem hmatch h => ?_, fun hissued hfaithful => ?_,
      fun a ha => howned a ha ?_⟩
    · rw [hrow row hmem hmatch] at h
      exact hissuer h
    · refine ownersFollow_update fun row hmem hmatch => ?_
      have hsame := hrow row hmem hmatch
      rw [hsame] at hmem ⊢
      refine Prod.ext ?_ (hsubject hmem hfaithful)
      exact (hissuer (hissued record hmem)).trans (hissued record hmem).symm
    · obtain ⟨row, hmem, hmatch⟩ := List.any_eq_true.mp hany
      have hsame := hrow row hmem hmatch
      rw [hsame] at hmem
      exact mem_updated hmem hid

/-! ## Requests -/

/-- A transaction on the attempts, or a look, that the request goes on after. -/
theorem KeepsOwners.atomic_then {β : Type} {x : SessionQuery β} {f : β → SessionCall α}
    {s : SessionStore} (hfollows : ∀ s', StoreFollows s' (x s').2)
    (hsessions : ∀ s', (x s').2.sessions = s'.sessions)
    (hgoes : ∀ b a, (f b).result ≠ some (.ok a))
    (hrest : ∀ s' b, StoreFollows s s' → (x s').1 = .ok b →
      KeepsOwners (f b) issuer faithful owned (x s').2) :
    KeepsOwners (.atomic x >>= f) issuer faithful owned s := by
  intro s' hs'
  let rest : SessionCall α := .ofExcept (x s').1 >>= f
  show True ∧ OwnerStep issuer faithful owned rest.result s' (x s').2 ∧
    KeepsOwners rest issuer faithful owned (x s').2
  dsimp only [rest]
  rcases hx : (x s').1 with e | b
  · exact ⟨trivial, .of_sessions (hfollows s') (hsessions s') (fun _ => nofun), trivial⟩
  · exact ⟨trivial, .of_sessions (hfollows s') (hsessions s') (fun a ha => absurd ha (hgoes b a)),
      hrest s' b hs' hx⟩

/-- The last transaction of a request. -/
theorem KeepsOwners.last {β : Type} {x : SessionQuery β} {g : β → α} {s : SessionStore}
    (h : ∀ s', StoreFollows s s' →
      OwnerStep issuer faithful owned (some ((x s').1.map g)) s' (x s').2) :
    KeepsOwners (.atomic x >>= fun b => pure (g b)) issuer faithful owned s := by
  intro s' hs'
  have hlast := h s' hs'
  let rest : SessionCall α := .ofExcept (x s').1 >>= fun b => pure (g b)
  show True ∧ OwnerStep issuer faithful owned rest.result s' (x s').2 ∧
    KeepsOwners rest issuer faithful owned (x s').2
  dsimp only [rest]
  rcases hx : (x s').1 with e | b
  · rw [hx] at hlast
    exact ⟨trivial, hlast, trivial⟩
  · rw [hx] at hlast
    exact ⟨trivial, hlast, trivial⟩

theorem map_ok {ε β : Type} {x : Except ε β} {g : β → α} {a : α} (h : some (x.map g) = some (.ok a)) :
    ∃ b, x = .ok b ∧ g b = a := by
  cases x with
  | error e => cases h
  | ok b =>
    cases h
    exact ⟨b, rfl, rfl⟩

variable {client : GuardedOidcClient} {answers : ProviderAnswers}

/-- The principal of a login is that of the ID token that was exchanged for its code. -/
def LoggedInAs (client : GuardedOidcClient) (answers : ProviderAnswers) (code : String)
    (resolution : SessionResolution) : Prop :=
  ∃ codeVerifier nonce redirectUri verified,
    exchangeCode client answers code codeVerifier nonce redirectUri = .ok verified ∧
      resolution.projection.principal = verified.principal

/-- A store has the session of a resolution, with its principal. -/
def SessionStore.Shows (t : SessionStore) (resolution : SessionResolution) : Prop :=
  ∃ row ∈ t.sessions.rows, row.sessionId = resolution.projection.sessionId ∧
    row.principal = resolution.projection.principal

theorem exchange_some {env : Collaborators} {attempt : OidcLoginAttemptRecord}
    {stateSha256 code : String} {verified : VerifiedOidcIdentity}
    (h : exchange (client.connect answers env) attempt stateSha256 code = some verified) :
    ∃ codeVerifier nonce redirectUri,
      exchangeCode client answers code codeVerifier nonce redirectUri = .ok verified := by
  unfold exchange at h
  obtain ⟨nonce, _, h⟩ := Option.bind_eq_some_iff.mp h
  obtain ⟨verifier, _, h⟩ := Option.bind_eq_some_iff.mp h
  refine ⟨verifier, nonce, attempt.redirectUri, ?_⟩
  unfold GuardedOidcClient.connect at h
  dsimp only at h
  cases hexchange : exchangeCode client answers code verifier nonce attempt.redirectUri with
  | error e =>
    rw [hexchange] at h
    cases h
  | ok v =>
    rw [hexchange] at h
    cases h
    rfl

theorem startLogin_owners (env : Collaborators) (state nonce verifier redirectUri : String)
    (now : Instant) (s : SessionStore) :
    KeepsOwners (startLogin service env state nonce verifier redirectUri now) issuer faithful
      (fun _ _ => True) s := by
  unfold startLogin
  rcases orOther (env.encrypt nonce ("oidc-nonce:" ++ service.sha256 state)) with e | nonceEnvelope
  · trivial
  rcases orOther (env.encrypt verifier ("oidc-pkce:" ++ service.sha256 state)) with e | envelope
  · trivial
  show KeepsOwners (if nonceEnvelope.keyVersion ≠ envelope.keyVersion then _ else _) _ _ _ s
  split
  · trivial
  · intro s' _
    let attempt : OidcLoginAttemptRecord := {
      stateSha256 := service.sha256 state
      nonceEnvelope := nonceEnvelope.ciphertext
      pkceVerifierEnvelope := envelope.ciphertext
      envelopeKeyVersion := nonceEnvelope.keyVersion
      redirectUri, createdAt := now, expiresAt := now + loginLifetime }
    have hstep : SessionStep service none s' (createLoginAttempt attempt s').2 :=
      createLoginAttempt_step none attempt s'
    have hsessions : (createLoginAttempt attempt s').2.sessions = s'.sessions := by
      unfold createLoginAttempt
      split <;> rfl
    exact ⟨trivial, .of_sessions hstep.follows hsessions fun _ _ => trivial, trivial⟩

theorem completeLogin_owners (env : Collaborators) (state code : String) (now : Instant)
    (s : SessionStore) :
    KeepsOwners (completeLogin service (client.connect answers env) state code now)
      client.configuration.issuer faithful
      (fun resolution t => LoggedInAs client answers code resolution ∧ t.Shows resolution) s := by
  refine .atomic_then (fun s' => ?_) (fun s' => rfl) (fun attempt a => ?_) fun s' attempt _ _ => ?_
  · have hstep : SessionStep service none s'
        (consumeLoginAttempt (service.sha256 state) now s').2 :=
      consumeLoginAttempt_step none _ now s'
    exact hstep.follows
  · cases attempt with
    | none => nofun
    | some attempt =>
      dsimp only
      cases exchange (client.connect answers env) attempt (service.sha256 state) code with
      | none => nofun
      | some verified =>
        dsimp only
        cases orOther ((client.connect answers env).encrypt verified.providerTokenMaterial
          ("oidc-session:" ++ (client.connect answers env).uuid4)) with
        | error e => nofun
        | ok envelope => nofun
  · cases attempt with
    | none => trivial
    | some attempt =>
      dsimp only
      cases hexchange : exchange (client.connect answers env) attempt (service.sha256 state) code with
      | none => trivial
      | some verified =>
        dsimp only
        obtain ⟨verifier, nonce, uri, hverified⟩ := exchange_some hexchange
        cases orOther ((client.connect answers env).encrypt verified.providerTokenMaterial
          ("oidc-session:" ++ (client.connect answers env).uuid4)) with
        | error e => trivial
        | ok envelope =>
          refine KeepsOwners.last fun t _ => ?_
          let session := firstRecord service (client.connect answers env) now verified envelope
          have hdrawn : (some env.tokenUrlsafe).map service.sha256 =
              some session.sessionTokenSha256 := rfl
          refine createSession_owners (firstRecord_sound _ now verified envelope) hdrawn
            (exchangeCode_issuer hverified) (fun a ha hmem => ?_) fun e he a ha => ?_
          · obtain ⟨_, _, rfl⟩ := map_ok ha
            exact ⟨⟨verifier, nonce, uri, verified, hverified, rfl⟩, _, hmem, rfl, rfl⟩
          · obtain ⟨_, hok, _⟩ := map_ok ha
            rw [he] at hok
            cases hok

variable (service) (client) (answers) in
/-- The provider answers a refresh of the session that a cookie resolves, if it comes to one,
with the subject that the session has. -/
def Faithful (env : Collaborators) (cookieToken : String) (now : Instant) (s : SessionStore) : Prop :=
  ∀ row ∈ s.sessions.rows, row.sessionTokenSha256 = service.sha256 cookieToken →
    row.revokedAt = none → now < row.absoluteExpiresAt → now < row.idleExpiresAt →
    claimFreshness ≤ now - row.claimsVerifiedAt →
    ∀ material, env.decrypt row.providerTokenEnvelope row.envelopeKeyVersion
      ("oidc-session:" ++ row.sessionId) = .ok material →
    AnswersFor client answers material row.principal.subject

/-- The claims that a session goes on with are of its issuer, and of its subject where the
provider is faithful. -/
theorem claimsOf_owner {env : Collaborators} {record : OperatorSessionRecord} {now : Instant}
    {claims : SessionClaims} (h : ClaimsOf (client.connect answers env) record now claims) :
    (record.principal.issuer = client.configuration.issuer →
      claims.principal.issuer = client.configuration.issuer) ∧
    ((claimFreshness ≤ now - record.claimsVerifiedAt →
      ∀ material, env.decrypt record.providerTokenEnvelope record.envelopeKeyVersion
        ("oidc-session:" ++ record.sessionId) = .ok material →
        AnswersFor client answers material record.principal.subject) →
      claims.principal.subject = record.principal.subject) := by
  rcases h with hkept | ⟨hold, material, refreshed, hmaterial, hrefresh, hprincipal⟩
  · rw [hkept]
    exact ⟨id, fun _ => rfl⟩
  · have hok : refresh client answers material = .ok refreshed := by
      unfold GuardedOidcClient.connect at hrefresh
      dsimp only at hrefresh
      cases hr : refresh client answers material with
      | error e =>
        rw [hr] at hrefresh
        cases hrefresh
      | ok v =>
        rw [hr] at hrefresh
        cases hrefresh
        rfl
    obtain ⟨hissuer, hsubject⟩ := refresh_owner hok
    rw [hprincipal]
    exact ⟨fun _ => hissuer, fun h => hsubject _ (h hold material hmaterial)⟩

theorem renew_owners {env : Collaborators} {record : OperatorSessionRecord} {cookieToken : String}
    {now : Instant} {claims : SessionClaims} {s : SessionStore} (hmem : record ∈ s.sessions.rows)
    (htoken : record.sessionTokenSha256 = service.sha256 cookieToken)
    (hlive : record.revokedAt = none ∧ now < record.absoluteExpiresAt ∧ now < record.idleExpiresAt)
    (hclaims : ClaimsOf (client.connect answers env) record now claims) :
    KeepsOwners (renew service (client.connect answers env) record cookieToken now claims)
      client.configuration.issuer (Faithful service client answers env cookieToken now)
      (fun resolution t => t.Shows resolution) s := by
  obtain ⟨hissuer, hsubject⟩ := claimsOf_owner hclaims
  refine KeepsOwners.last fun s' hs' => ?_
  have hread : ∀ row ∈ s'.sessions.rows, row.sessionId = record.sessionId →
      row.sessionVersion = record.sessionVersion → row = record :=
    fun row hrow => hs'.same_version hmem hrow
  have hkeeps : Keeps service (renew service (client.connect answers env) record cookieToken now
      claims) _ _ s := renew_keeps (client.connect answers env) hmem htoken hlive
  refine updateSession_owners (hkeeps s' hs').2.1.step.follows rfl hread hissuer (fun hrow hfaithful => ?_)
    (fun a ha hrow => ?_) fun e he a ha => ?_
  · exact hsubject (hfaithful record hrow htoken hlive.1 hlive.2.1 hlive.2.2)
  · obtain ⟨_, _, rfl⟩ := map_ok ha
    exact ⟨_, hrow, rfl, rfl⟩
  · obtain ⟨_, hok, _⟩ := map_ok ha
    rw [he] at hok
    cases hok

theorem resolveSession_owners (env : Collaborators) (cookieToken : String) (now : Instant)
    (s : SessionStore) :
    KeepsOwners (resolveSession service (client.connect answers env) cookieToken now)
      client.configuration.issuer (Faithful service client answers env cookieToken now)
      (fun resolution t => t.Shows resolution) s := by
  refine .atomic_then (fun s' => .refl s') (fun s' => rfl) (fun record a => ?_)
    fun s' record _ hread => ?_
  · cases record with
    | none => nofun
    | some record =>
      rcases resolveRecord_cases (client.connect answers env) cookieToken now record with
        ⟨e, hend⟩ | ⟨message, hend⟩ | ⟨_, claims, _, hend⟩
      all_goals rw [hend]; nofun
  · cases record with
    | none => trivial
    | some record =>
      have hfind : s'.sessions.rows.find?
          (fun row => row.sessionTokenSha256 = service.sha256 cookieToken) = some record :=
        Except.ok.inj hread
      have hmem := List.mem_of_find?_eq_some hfind
      have htoken : record.sessionTokenSha256 = service.sha256 cookieToken := by
        simpa using List.find?_some hfind
      rcases resolveRecord_cases (client.connect answers env) cookieToken now record with
        ⟨e, hend⟩ | ⟨message, hend⟩ | ⟨hlive, claims, hclaims, hend⟩
      · rw [hend]
        trivial
      · rw [hend]
        intro t _
        refine ⟨trivial, revokeByTokenHash_owners service _ now fun a ha => ?_, trivial⟩
        cases ha
      · rw [hend]
        exact renew_owners hmem htoken hlive hclaims

end

/-! ## Every run -/

/-- A call to the service, with what the provider answers it. -/
abbrev ClientCall := ProviderAnswers × SessionRequest

section
variable (service : SessionService) (client : GuardedOidcClient)

namespace ClientCall

/-- The request of a call, whose OIDC client is `client`. -/
def request (call : ClientCall) : SessionRequest :=
  match call.2 with
  | .startLogin env state nonce verifier redirectUri now =>
    .startLogin (client.connect call.1 env) state nonce verifier redirectUri now
  | .completeLogin env state code now => .completeLogin (client.connect call.1 env) state code now
  | .resolveSession env cookieToken now =>
    .resolveSession (client.connect call.1 env) cookieToken now
  | .logout cookieToken now => .logout cookieToken now

/-- Whether the provider answers a call at a store for the subject of its session. -/
def IsFaithful (call : ClientCall) (s : SessionStore) : Prop :=
  match call.2 with
  | .resolveSession env cookieToken now => Faithful service client call.1 env cookieToken now s
  | _ => True

/-- What a reply shows of the store, and of the provider. -/
def Owns (call : ClientCall) (reply : SessionReply) (t : SessionStore) : Prop :=
  match call.2, reply with
  | .completeLogin _ _ code _, .loggedIn resolution =>
    LoggedInAs client call.1 code resolution ∧ t.Shows resolution
  | .resolveSession _ _ _, .resolved resolution => t.Shows resolution
  | _, _ => True

end ClientCall

/-- The moment that a schedule of calls leads to. -/
abbrev ownMoment (calls : List ClientCall) (schedule : List Nat) :
    Pool SessionStore SessionError SessionReply :=
  moment service (calls.map (ClientCall.request client)) schedule

/-- What the call `i` guarantees. -/
def OwnGuarded (calls : List ClientCall) (i : Nat) (r : Option (Except SessionError SessionReply))
    (s t : SessionStore) : Prop :=
  ∃ call, calls[i]? = some call ∧ OwnerStep client.configuration.issuer
    (call.IsFaithful service client) (call.Owns client) r s t

/-- The provider answers the call `i` for the subject of its session. -/
def FaithfulAt (calls : List ClientCall) (i : Nat) (s : SessionStore) : Prop :=
  ∀ call, calls[i]? = some call → call.IsFaithful service client s

/-- At every step of the schedule, the provider is faithful. -/
def FaithfulAlong (calls : List ClientCall) (schedule : List Nat) : Prop :=
  ∀ before i after, schedule = before ++ i :: after →
    FaithfulAt service client calls i (ownMoment service client calls before).state

section
variable {service client} {calls : List ClientCall}

theorem OwnerStep.map {α β : Type} {issuer : String} {faithful : SessionStore → Prop}
    {owned : β → SessionStore → Prop} {f : α → β} {r : Option (Except SessionError α)}
    {s t : SessionStore} (h : OwnerStep issuer faithful (fun a => owned (f a)) r s t) :
    OwnerStep issuer faithful owned (r.map (Except.map f)) s t := by
  refine ⟨h.follows, h.issued, h.kept, fun b hb => ?_⟩
  obtain ⟨x, rfl, hx⟩ := Option.map_eq_some_iff.mp hb
  cases x with
  | error e => cases hx
  | ok a =>
    cases hx
    exact h.owned a rfl

theorem ClientCall.keeps (call : ClientCall) (s : SessionStore) :
    KeepsOwners ((call.request client).call service) client.configuration.issuer
      (call.IsFaithful service client) (call.Owns client) s := by
  obtain ⟨answers, request⟩ := call
  cases request with
  | startLogin env state nonce verifier redirectUri now =>
    exact Process.Obeys.map _ ((startLogin_owners _ state nonce verifier redirectUri now s).weaken
      OwnerStep.map)
  | completeLogin env state code now =>
    exact Process.Obeys.map _ ((completeLogin_owners env state code now s).weaken OwnerStep.map)
  | resolveSession env cookieToken now =>
    exact Process.Obeys.map _ ((resolveSession_owners env cookieToken now s).weaken OwnerStep.map)
  | logout cookieToken now =>
    refine Process.Obeys.map _ fun s' _ => ⟨trivial, ?_, trivial⟩
    exact revokeByTokenHash_owners service _ now fun _ _ => trivial

theorem ownGuarded_cooperation :
    Cooperation (fun _ _ => True) (fun _ => StoreFollows) (OwnGuarded service client calls) where
  refl _ s := .refl s
  trans h h' := h.trans h'
  tolerates _ _ h := by
    obtain ⟨_, _, hstep⟩ := h
    exact hstep.follows

theorem ownPool_obeys : (SessionRequest.pool service (calls.map (ClientCall.request client))).Obeys
    (fun _ _ => True) (fun _ => StoreFollows) (OwnGuarded service client calls) := by
  intro i x hx
  unfold SessionRequest.pool at hx
  dsimp only at hx
  rw [List.getElem?_map, List.getElem?_map, Option.map_eq_some_iff] at hx
  obtain ⟨request, hrequest, rfl⟩ := hx
  obtain ⟨call, hcall, rfl⟩ := Option.map_eq_some_iff.mp hrequest
  exact (call.keeps _).weaken fun h => ⟨call, hcall, h⟩

/-- What a faithful schedule does to sessions of the configured issuer. -/
theorem issued_follow {schedule : List Nat} {c : Pool SessionStore SessionError SessionReply}
    (hobeys : c.Obeys (fun _ _ => True) (fun _ => StoreFollows) (OwnGuarded service client calls))
    (hfaithful : ∀ before i after, schedule = before ++ i :: after →
      FaithfulAt service client calls i (c.interleave before).state)
    (hissued : c.state.Issued client.configuration.issuer) :
    (c.interleave schedule).state.Issued client.configuration.issuer ∧
      OwnersFollow c.state (c.interleave schedule).state := by
  revert hissued
  refine Pool.Obeys.related_along (T := fun s t => s.Issued client.configuration.issuer →
    t.Issued client.configuration.issuer ∧ OwnersFollow s t) (C := FaithfulAt service client calls)
    ownGuarded_cooperation (fun s h => ⟨h, .refl s⟩) (fun hst htu h => ?_)
    (fun {i r s t} hfaithful hguarded hissued => ?_) hobeys hfaithful
  · obtain ⟨ht, hst⟩ := hst h
    obtain ⟨hu, htu⟩ := htu ht
    exact ⟨hu, hst.trans htu⟩
  · obtain ⟨call, hcall, hstep⟩ := hguarded
    exact ⟨hstep.issued hissued, hstep.kept hissued (hfaithful call hcall)⟩

/-- The owners of the sessions, along the rest of a faithful schedule. -/
theorem owners_follow {first rest : List Nat}
    (h : FaithfulAlong service client calls (first ++ rest)) :
    OwnersFollow (ownMoment service client calls first).state
      (ownMoment service client calls (first ++ rest)).state := by
  have hempty : SessionStore.empty.Issued client.configuration.issuer := fun _ hrow => (nomatch hrow)
  have hprefix : ∀ before i after, first = before ++ i :: after →
      FaithfulAt service client calls i (ownMoment service client calls before).state := by
    intro before i after hsplit
    exact h before i (after ++ rest) (by rw [hsplit, List.append_assoc, List.cons_append])
  have hsuffix : ∀ before i after, rest = before ++ i :: after →
      FaithfulAt service client calls i
        ((ownMoment service client calls first).interleave before).state := by
    intro before i after hsplit
    have hbefore := h (first ++ before) i after (by rw [hsplit, List.append_assoc])
    unfold ownMoment moment at hbefore
    rw [Pool.interleave_append] at hbefore
    exact hbefore
  have hissued := (issued_follow ownPool_obeys hprefix hempty).1
  have hfollows := (issued_follow (ownPool_obeys.interleave ownGuarded_cooperation) hsuffix
    hissued).2
  rw [← Pool.interleave_append] at hfollows
  exact hfollows

/-- What a call that has ended well shows of the store that it left. -/
theorem ended_owns {first : List Nat} {i : Nat} {call : ClientCall} {reply : SessionReply}
    (hcall : calls[i]? = some call)
    (hended : (ownMoment service client calls first).result i = some (.ok reply)) :
    (∃ e, (call.request client).call service = .done e) ∨ ∃ before after,
      first = before ++ i :: after ∧
        call.Owns client reply (ownMoment service client calls (before ++ [i])).state := by
  by_cases hrunning :
      (SessionRequest.pool service (calls.map (ClientCall.request client))).result i = none
  · obtain ⟨before, after, rfl, hends⟩ := Pool.ends_of_result hrunning hended
    refine .inr ⟨before, after, rfl, ?_⟩
    obtain ⟨_, other, hother, hstep⟩ :=
      (ownPool_obeys.interleave ownGuarded_cooperation).ends ownGuarded_cooperation hends
    rw [hcall] at hother
    cases hother
    unfold ownMoment moment
    rw [Pool.interleave_append]
    exact hstep.owned _ rfl
  · left
    unfold Pool.result SessionRequest.pool at hrunning
    rw [List.getElem?_map, List.getElem?_map, hcall] at hrunning
    cases hprocess : (call.request client).call service with
    | done e => exact ⟨e, rfl⟩
    | step write next =>
      refine absurd ?_ hrunning
      show ((call.request client).call service).result = none
      rw [hprocess]
      rfl

end

/-! ## Owners -/

/-- Whose the sessions are, at `first` and after `rest`. -/
structure OwnersKept (calls : List ClientCall) (first rest : List Nat) : Prop where
  /-- A session keeps its owner, -/
  kept : OwnersFollow (ownMoment service client calls first).state
    (ownMoment service client calls (first ++ rest)).state
  /-- which is the one that was verified at its login, -/
  login : ∀ i answers env state code now resolution,
    calls[i]? = some (answers, .completeLogin env state code now) →
    (ownMoment service client calls first).result i = some (.ok (.loggedIn resolution)) →
    LoggedInAs client answers code resolution ∧
      ∀ row ∈ (ownMoment service client calls (first ++ rest)).state.sessions.rows,
        row.sessionId = resolution.projection.sessionId →
        ownerOf row.principal = ownerOf resolution.projection.principal
  /-- and for whom a cookie of the session resolves. -/
  resolved : ∀ i answers env cookieToken now resolution,
    calls[i]? = some (answers, .resolveSession env cookieToken now) →
    (ownMoment service client calls first).result i = some (.ok (.resolved resolution)) →
      ∀ row ∈ (ownMoment service client calls (first ++ rest)).state.sessions.rows,
        row.sessionId = resolution.projection.sessionId →
        ownerOf row.principal = ownerOf resolution.projection.principal

section
variable {service client} {calls : List ClientCall}

/-- The owner that a resolution has shown is that of its session from then on. -/
theorem shown_owner {before after rest : List Nat} {i : Nat} {resolution : SessionResolution}
    (h : FaithfulAlong service client calls (before ++ i :: after ++ rest))
    (hshows : (ownMoment service client calls (before ++ [i])).state.Shows resolution)
    {row : OperatorSessionRecord}
    (hrow : row ∈ (ownMoment service client calls (before ++ i :: after ++ rest)).state.sessions.rows)
    (hid : row.sessionId = resolution.projection.sessionId) :
    ownerOf row.principal = ownerOf resolution.projection.principal := by
  have hsplit : before ++ i :: after ++ rest = before ++ [i] ++ (after ++ rest) := by
    simp only [List.append_assoc, List.cons_append, List.nil_append]
  rw [hsplit] at h hrow
  obtain ⟨shown, hshown, hshownId, hprincipal⟩ := hshows
  obtain ⟨later, hlater, hlaterId, howner⟩ := owners_follow h shown hshown
  have hsame : row = later :=
    Table.eq_of_key hrow hlater (hid.trans (hshownId.symm.trans hlaterId.symm))
  rw [hsame, howner, hprincipal]

end

/-- **A session keeps its owner** in every run in which the provider answers each refresh
for the subject of the session. -/
theorem owners_kept (calls : List ClientCall) (first rest : List Nat)
    (hfaithful : FaithfulAlong service client calls (first ++ rest)) :
    OwnersKept service client calls first rest where
  kept := owners_follow hfaithful
  login i answers env state code now resolution hcall hended := by
    rcases ended_owns hcall hended with ⟨e, hdone⟩ | ⟨before, after, rfl, howns⟩
    · cases hdone
    · exact ⟨howns.1, fun row hrow hid => shown_owner hfaithful howns.2 hrow hid⟩
  resolved i answers env cookieToken now resolution hcall hended row hrow hid := by
    rcases ended_owns hcall hended with ⟨e, hdone⟩ | ⟨before, after, rfl, howns⟩
    · cases hdone
    · exact shown_owner hfaithful howns hrow hid

end

namespace Sample

/-- The claims of an ID token whose text is its subject. -/
def idTokenClaims (subject : String) : Claims :=
  [("iss", .str "https://issuer"), ("sub", .str subject), ("aud", .str "dashboard"),
    ("nonce", .str "nonce"), ("iat", .int 0), ("exp", .int 86400)]

/-- Bodies of responses, by their names; `alice` and `bob` are ID tokens. -/
def loads (body : String) : Option Json :=
  if body = "keys" then some (.obj [("keys", .arr [.null])])
  else if body = "material" then some (.obj [("refresh_token", .str "token")])
  else some (.obj [("id_token", .str body)])

def oidcClient : GuardedOidcClient where
  configuration := { issuer := "https://issuer", clientId := "dashboard" }
  urls := {
    urlsplit := fun _ => some ⟨"https", "agent", "/", "", "", some "agent", none, none, some none⟩
    urljoin := fun _ url => some url
    encodeIdna := some
    lower := id }
  library := {
    loads
    dumps := fun _ => "material"
    importKeySet := fun _ => some ()
    decode := fun idToken _ => some (idTokenClaims idToken) }

/-- A provider that answers with the ID token of a subject. -/
def provider (subject : String) (clock : Instant) : ProviderAnswers where
  token _ := some ⟨200, subject⟩
  jwks := some ⟨200, "keys"⟩
  clock

/-- Alice logs in, and two hours later her session is refreshed with an ID token of
`refreshed`. -/
def refreshedFor (refreshed : String) : List ClientCall :=
  [(provider "alice" 0,
      .startLogin (answers 0 1 "") "state" "nonce" "verifier" "https://agent" 0),
    (provider "alice" 0, .completeLogin (answers 0 1 "token-1") "state" "code" 0),
    (provider refreshed (seconds 7200),
      .resolveSession (answers (seconds 7200) 1 "token-2") "token-1" (seconds 7200))]

/-- The sessions of the store after a schedule, with their owners. -/
def owners (refreshed : String) (schedule : List Nat) : List (String × String × String) :=
  (ownMoment digests oidcClient (refreshedFor refreshed) schedule).state.sessions.rows.map fun row =>
    (row.sessionId, ownerOf row.principal)

theorem postToken_alice (clock : Instant) (form : List (String × String)) :
    postToken oidcClient (provider "alice" clock) form = .ok [("id_token", .str "alice")] := by
  rfl

/-- A provider that answers every form for Alice, does so for a refresh. -/
theorem provider_answersFor (clock : Instant) (material : String) :
    AnswersFor oidcClient (provider "alice" clock) material "alice" := by
  intro token tokenResponse idToken jwks claims _ hresponse hid _ hclaims
  rw [postToken_alice] at hresponse
  cases hresponse
  cases hid
  cases hclaims
  rfl

/-- The sessions of Alice stay hers. -/
theorem alice_only (before after : List Nat) (i : Nat)
    (hsplit : [0, 1, 1, 2, 2] = before ++ i :: after) : ∀ row ∈
      (ownMoment digests oidcClient (refreshedFor "alice") before).state.sessions.rows,
      row.principal.subject = "alice" := by
  have hbefore : before = [0, 1, 1, 2, 2].take before.length := by
    rw [hsplit, List.take_left]
  have hlength : before.length < 5 := by
    have h := congrArg List.length hsplit
    simp only [List.length_append, List.length_cons, List.length_nil] at h
    omega
  rw [hbefore]
  generalize before.length = n at hlength
  revert n
  decide +kernel

theorem alice_faithful :
    FaithfulAlong digests oidcClient (refreshedFor "alice") ([0, 1, 1] ++ [2, 2]) := by
  intro before i after hsplit call hcall
  obtain ⟨provided, request⟩ := call
  cases request with
  | resolveSession env cookieToken now =>
    have hmem := List.mem_of_getElem? hcall
    have hprovider : provided = provider "alice" (seconds 7200) := by
      simp only [refreshedFor, List.mem_cons, List.not_mem_nil, Prod.mk.injEq, reduceCtorEq,
        and_false, false_or, or_false] at hmem
      exact hmem.1
    intro row hrow _ _ _ _ _ material _
    rw [hprovider, alice_only before after i hsplit row hrow]
    exact provider_answersFor (seconds 7200) material
  | startLogin _ _ _ _ _ _ => trivial
  | completeLogin _ _ _ _ => trivial
  | logout _ _ => trivial

theorem owners_login : owners "bob" [0, 1, 1] = [("session", "https://issuer", "alice")] := by
  decide +kernel

theorem owners_refreshed :
    owners "bob" ([0, 1, 1] ++ [2, 2]) = [("session", "https://issuer", "bob")] := by
  decide +kernel

end Sample

theorem alice_keeps_session :
    OwnersKept Sample.digests Sample.oidcClient (Sample.refreshedFor "alice") [0, 1, 1] [2, 2] :=
  owners_kept _ _ _ _ _ Sample.alice_faithful

/-- A refresh that returns another subject hands the session over. -/
theorem refresh_changes_owner :
    ¬ OwnersKept Sample.digests Sample.oidcClient (Sample.refreshedFor "bob") [0, 1, 1] [2, 2] := by
  intro h
  have hbefore : ("session", "https://issuer", "alice") ∈ Sample.owners "bob" [0, 1, 1] := by
    rw [Sample.owners_login]
    exact List.mem_singleton_self _
  obtain ⟨row, hrow, hsame⟩ := List.mem_map.mp hbefore
  obtain ⟨later, hlater, hid, howner⟩ := h.kept row hrow
  have hafter : (later.sessionId, ownerOf later.principal) ∈
      Sample.owners "bob" ([0, 1, 1] ++ [2, 2]) := List.mem_map.mpr ⟨later, hlater, rfl⟩
  rw [Sample.owners_refreshed, List.mem_singleton, hid, howner, hsame] at hafter
  revert hafter
  decide

end ProofAgent.Sessions
