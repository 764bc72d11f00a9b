import ProofAgent.Persistence.SecurityRepository

/-! # Operator sessions

A login and a request each make a few transactions, and ask their collaborators (the
token cipher, the OIDC provider, the permission mapping) between them. A request may
rotate the token of its session: the cookie that it came with stops resolving, and
the new one has to reach the browser. -/
namespace ProofAgent.Sessions

open Base

/-! ## Collaborators -/

/-- What `exchange_code` and `refresh` return. -/
structure VerifiedOidcIdentity where
  principal : OidcPrincipal
  providerTokenMaterial : String
  deriving DecidableEq

inductive CipherFailure where
  /-- `TokenEnvelopeUnavailableError`. -/
  | unavailable
  | other
  deriving DecidableEq

/-- A ciphertext and the version of its key. -/
structure TokenEnvelope where
  ciphertext : String
  keyVersion : String
  deriving DecidableEq

/-- What the collaborators answer during one call, and what it draws. -/
structure Collaborators where
  encrypt : (plaintext context : String) → Except CipherFailure TokenEnvelope
  decrypt : (ciphertext keyVersion context : String) → Except CipherFailure String
  /-- `none` where it raises. -/
  exchangeCode : (code codeVerifier expectedNonce redirectUri : String) → Option VerifiedOidcIdentity
  /-- `none` where it raises. -/
  refresh : (providerTokenMaterial : String) → Option VerifiedOidcIdentity
  activeMapping : Option String
  /-- The permission epoch, at the first look and at the second. -/
  permissionEpoch : Nat
  storedPermissionEpoch : Nat
  effectivePermissions : OidcPrincipal → List String
  institutionAuthorization : OidcPrincipal → InstitutionAuthorizationContext
  /-- `secrets.token_urlsafe(48)`. -/
  tokenUrlsafe : String
  /-- `uuid4()`. -/
  uuid4 : String

/-- The digests of the service, which do not collide, and its key. -/
structure SessionService where
  sha256 : String → String
  hmacSha256 : (key message : String) → String
  csrfKey : String
  sha256_injective : Function.Injective sha256
  hmacSha256_injective : ∀ key, Function.Injective (hmacSha256 key)

structure SessionResolution where
  projection : OperatorSessionProjection
  cookieToken : String
  rotated : Bool
  permissionMappingVersionId : Option String := none
  permissionEpoch : Nat := 0
  institutionAuthorization : InstitutionAuthorizationContext := {}

abbrev SessionCall (α : Type) := Process SessionStore SessionError α

def loginLifetime : Int := seconds 600

def absoluteLifetime : Int := days 7

def idleLifetime : Int := days 1

def claimFreshness : Int := seconds 3600

variable (service : SessionService) (env : Collaborators)

/-! ## Resolutions -/

/-- The CSRF token of a cookie. -/
def SessionService.csrfToken (cookieToken : String) : String :=
  service.hmacSha256 service.csrfKey ("proof-agent-csrf:" ++ cookieToken)

/-- `_resolution`. -/
def resolution (record : OperatorSessionRecord) (cookieToken : String) (rotated : Bool) :
    SessionResolution where
  projection := {
    sessionId := record.sessionId
    principal := record.principal
    absoluteExpiresAt := record.absoluteExpiresAt
    idleExpiresAt := record.idleExpiresAt
    claimsRefreshDueAt := record.claimsVerifiedAt + claimFreshness
    csrfToken := service.csrfToken cookieToken
    effectivePermissions := env.effectivePermissions record.principal }
  cookieToken
  rotated
  permissionMappingVersionId := record.permissionMappingVersionId
  permissionEpoch := record.permissionEpoch
  institutionAuthorization := env.institutionAuthorization record.principal

/-- What the cipher raises where nothing catches it. -/
def orOther {α : Type} : Except CipherFailure α → Except SessionError α
  | .ok a => .ok a
  | .error _ => .error .other

/-! ## Logging in -/

/-- `start_login`, with the state, the nonce and the verifier that it draws. -/
def startLogin (state nonce verifier redirectUri : String) (now : Instant) : SessionCall Unit := do
  let nonceEnvelope ← .ofExcept (orOther (env.encrypt nonce ("oidc-nonce:" ++ service.sha256 state)))
  let verifierEnvelope ← .ofExcept
    (orOther (env.encrypt verifier ("oidc-pkce:" ++ service.sha256 state)))
  if nonceEnvelope.keyVersion ≠ verifierEnvelope.keyVersion then .raise .other
  else
    .atomic (createLoginAttempt {
      stateSha256 := service.sha256 state
      nonceEnvelope := nonceEnvelope.ciphertext
      pkceVerifierEnvelope := verifierEnvelope.ciphertext
      envelopeKeyVersion := nonceEnvelope.keyVersion
      redirectUri, createdAt := now, expiresAt := now + loginLifetime })

/-- What the provider says about the code of an attempt; `none` where anything raises. -/
def exchange (attempt : OidcLoginAttemptRecord) (stateSha256 code : String) :
    Option VerifiedOidcIdentity := do
  let nonce ← (env.decrypt attempt.nonceEnvelope attempt.envelopeKeyVersion
    ("oidc-nonce:" ++ stateSha256)).toOption
  let verifier ← (env.decrypt attempt.pkceVerifierEnvelope attempt.envelopeKeyVersion
    ("oidc-pkce:" ++ stateSha256)).toOption
  env.exchangeCode code verifier nonce attempt.redirectUri

/-- The session of a login. -/
def firstRecord (now : Instant) (verified : VerifiedOidcIdentity) (envelope : TokenEnvelope) :
    OperatorSessionRecord where
  sessionId := env.uuid4
  sessionVersion := 1
  sessionTokenSha256 := service.sha256 env.tokenUrlsafe
  principal := verified.principal
  providerTokenEnvelope := envelope.ciphertext
  envelopeKeyVersion := envelope.keyVersion
  permissionMappingVersionId := env.activeMapping
  permissionEpoch := env.permissionEpoch
  createdAt := now
  absoluteExpiresAt := now + absoluteLifetime
  idleExpiresAt := min (now + idleLifetime) (now + absoluteLifetime)
  claimsVerifiedAt := verified.principal.claimsVerifiedAt

/-- `complete_login`. -/
def completeLogin (state code : String) (now : Instant) : SessionCall SessionResolution := do
  let stateDigest := service.sha256 state
  match ← .atomic (consumeLoginAttempt stateDigest now) with
  | none => .raise (.authentication "OIDC authorization state is invalid or replayed")
  | some attempt =>
    match exchange env attempt stateDigest code with
    | none => .raise (.authentication "OIDC authorization response is invalid")
    | some verified => do
      let envelope ← .ofExcept
        (orOther (env.encrypt verified.providerTokenMaterial ("oidc-session:" ++ env.uuid4)))
      let record := firstRecord service env now verified envelope
      .atomic (createSession record)
      return resolution service env record env.tokenUrlsafe true

/-! ## Resolving a session -/

/-- Revoke the session of a token and reject the request. -/
def revokeAndReject {α : Type} (tokenHash : String) (now : Instant) (message : String) :
    SessionCall α := do
  let _ ← .atomic (revokeByTokenHash tokenHash now)
  .raise (.authentication message)

/-- The principal and the envelope that a session goes on with. -/
structure SessionClaims where
  principal : OidcPrincipal
  envelope : TokenEnvelope
  refreshed : Bool

/-- The claims of a session, verified again if they are an hour old. -/
def currentClaims (record : OperatorSessionRecord) (tokenHash : String) (now : Instant)
    (providerMaterial : String) : SessionCall SessionClaims :=
  if claimFreshness ≤ now - record.claimsVerifiedAt then
    match env.refresh providerMaterial with
    | none => revokeAndReject tokenHash now "OIDC claim refresh failed"
    | some refreshed => do
      let envelope ← .ofExcept
        (orOther (env.encrypt refreshed.providerTokenMaterial ("oidc-session:" ++ record.sessionId)))
      return ⟨refreshed.principal, envelope, true⟩
  else
    return ⟨record.principal, ⟨record.providerTokenEnvelope, record.envelopeKeyVersion⟩, false⟩

/-- The record that a resolution writes. -/
def nextRecord (record : OperatorSessionRecord) (nextCookie : String) (now : Instant)
    (claims : SessionClaims) : OperatorSessionRecord :=
  { record with
    sessionVersion := record.sessionVersion + 1
    sessionTokenSha256 := service.sha256 nextCookie
    principal := claims.principal
    providerTokenEnvelope := claims.envelope.ciphertext
    envelopeKeyVersion := claims.envelope.keyVersion
    permissionMappingVersionId := env.activeMapping
    permissionEpoch := env.storedPermissionEpoch
    idleExpiresAt := min (now + idleLifetime) record.absoluteExpiresAt
    claimsVerifiedAt := claims.principal.claimsVerifiedAt }

/-- Whether the token of a session is rotated with these claims. -/
def rotates (record : OperatorSessionRecord) (claims : SessionClaims) : Bool :=
  record.permissionEpoch ≠ env.permissionEpoch || claims.refreshed

/-- The write of a resolution. -/
def renew (record : OperatorSessionRecord) (cookieToken : String) (now : Instant)
    (claims : SessionClaims) : SessionCall SessionResolution := do
  let rotate := rotates env record claims
  let nextCookie := if rotate then env.tokenUrlsafe else cookieToken
  let updated := nextRecord service env record nextCookie now claims
  let _ ← .atomic (updateSession updated record.sessionVersion)
  return resolution service env updated nextCookie rotate

/-- What `resolve_session` does with the record that it has read. -/
def resolveRecord (cookieToken : String) (now : Instant) :
    Option OperatorSessionRecord → SessionCall SessionResolution
  | none => .raise (.authentication "operator session is unavailable")
  | some record =>
    let tokenHash := service.sha256 cookieToken
    if record.revokedAt.isSome = true then
      .raise (.authentication "operator session is unavailable")
    else if record.absoluteExpiresAt ≤ now ∨ record.idleExpiresAt ≤ now then
      revokeAndReject tokenHash now "operator session expired"
    else
      match env.decrypt record.providerTokenEnvelope record.envelopeKeyVersion
          ("oidc-session:" ++ record.sessionId) with
      | .error .unavailable => revokeAndReject tokenHash now "operator session key is unavailable"
      | .error .other => .raise .other
      | .ok providerMaterial => do
        let claims ← currentClaims env record tokenHash now providerMaterial
        renew service env record cookieToken now claims

/-- `resolve_session`. -/
def resolveSession (cookieToken : String) (now : Instant) : SessionCall SessionResolution := do
  let record ← .atomic (getByTokenHash (service.sha256 cookieToken))
  resolveRecord service env cookieToken now record

/-- `logout`. -/
def logout (cookieToken : String) (now : Instant) : SessionCall Bool :=
  .atomic (revokeByTokenHash (service.sha256 cookieToken) now)

end ProofAgent.Sessions
