import ProofAgent.Security.SessionService
import ProofAgent.Base.Json
import ProofAgent.Base.Url

/-! # The OIDC client

Authorization codes and refresh tokens are exchanged for a token response, whose ID
token is verified: its signature by the keys of the provider, then its issuer, its
audience, its nonce if one is expected, and its times. The principal of a session is
made of the claims. -/
namespace ProofAgent.Oidc

open Base Sessions

/-! ## Configuration and libraries -/

structure OidcProviderConfiguration where
  issuer : String
  clientId : String
  groupsClaim : String := "groups"
  rolesClaim : String := "roles"

inductive OidcFailure where
  /-- `OidcVerificationError`. -/
  | verification (reasonCode : String)
  /-- `ValueError` or `ValidationError`. -/
  | value
  /-- `TypeError` of `compare_digest`. -/
  | type
  /-- `OverflowError` of `fromtimestamp`. -/
  | overflow
  deriving DecidableEq

/-- A body of bytes, as text. -/
structure HttpResponse where
  statusCode : Nat
  body : String

abbrev Claims := List (String × Json)

/-- The libraries for JSON and for JSON Web Tokens; `none` where they raise. -/
structure TokenLibrary where
  loads : String → Option Json
  dumps : Json → String
  importKeySet : Json → Option Unit
  /-- The claims of a token that one of the keys has signed. -/
  decode : (idToken : String) → (jwks : Json) → Option Claims

/-- What the provider answers during one call, and when. -/
structure ProviderAnswers where
  /-- The token endpoint; `none` where the request raises. -/
  token : (form : List (String × String)) → Option HttpResponse
  /-- The keys of the provider. -/
  jwks : Option HttpResponse
  clock : Instant

/-- `GuardedOidcClient`, without what its requests are sent with. -/
structure GuardedOidcClient where
  configuration : OidcProviderConfiguration
  urls : UrlParser
  library : TokenLibrary
  maxResponseBytes : Nat := 1024 * 1024
  clockSkewSeconds : Nat := 60

variable (client : GuardedOidcClient) (answers : ProviderAnswers)

/-! ## Responses -/

/-- `_decode_json_object`. -/
def decodeJsonObject (value : String) : Except OidcFailure Claims :=
  if client.maxResponseBytes < value.utf8ByteSize then
    .error (.verification "provider_response_too_large")
  else match client.library.loads value with
    | some (.obj fields) => .ok fields
    | _ => .error (.verification "provider_response_invalid")

/-- `_post_token`. -/
def postToken (form : List (String × String)) : Except OidcFailure Claims :=
  match answers.token form with
  | none => .error (.verification "token_endpoint_unavailable")
  | some response =>
    if response.statusCode ≠ 200 then .error (.verification "token_exchange_rejected")
    else decodeJsonObject client response.body

/-- `_load_jwks`. -/
def loadJwks : Except OidcFailure Json :=
  match answers.jwks with
  | none => .error (.verification "jwks_unavailable")
  | some response =>
    if response.statusCode ≠ 200 then .error (.verification "jwks_unavailable")
    else do
      let jwks ← decodeJsonObject client response.body
      match jwks.lookup "keys" with
      | some (.arr (_ :: _)) =>
        match client.library.importKeySet (.obj jwks) with
        | none => .error (.verification "jwks_invalid")
        | some () => .ok (.obj jwks)
      | _ => .error (.verification "jwks_invalid")

/-! ## Claims -/

/-- `_integer_claim`. -/
def integerClaim (claims : Claims) (name : String) : Except OidcFailure Int :=
  match claims.lookup name with
  | some (.int n) => .ok n
  | _ => .error (.verification ("id_token_" ++ name ++ "_invalid"))

/-- `_string_tuple_claim`. -/
def stringTupleClaim (claims : Claims) (name : String) : Except OidcFailure (List String) :=
  match claims.lookup name with
  | none => .ok []
  | some (.arr items) =>
    match items.mapM Json.asStr with
    | some texts =>
      if "" ∈ texts then .error (.verification "id_token_trusted_claim_invalid")
      else .ok texts.eraseDups
    | none => .error (.verification "id_token_trusted_claim_invalid")
  | some _ => .error (.verification "id_token_trusted_claim_invalid")

/-- The audiences of an ID token, if they are texts. -/
def audiencesOf (claims : Claims) : Option (List String) :=
  match claims.lookup "aud" with
  | some (.str audience) => some [audience]
  | some (.arr items) => items.mapM Json.asStr
  | _ => none

/-- `hmac.compare_digest`, which raises where a text is not ASCII. -/
def nonceMatches (nonce expected : String) : Except OidcFailure Bool :=
  if (nonce ++ expected).toList.all (fun c => c.toNat < 128) = true then
    .ok (nonce = expected)
  else .error .type

/-- The check of the nonce, where one is expected. -/
def checkNonce (claims : Claims) : Option String → Except OidcFailure Unit
  | none => .ok ()
  | some expected =>
    match claims.lookup "nonce" with
    | some (.str nonce) => do
      if ← nonceMatches nonce expected then .ok ()
      else .error (.verification "id_token_nonce_invalid")
    | _ => .error (.verification "id_token_nonce_invalid")

/-- The seconds of an instant. -/
def epochSeconds (now : Instant) : Int := Int.tdiv now 1000000

/-- `_timestamp_from_epoch`: the years 1 to 9999. -/
def timestampFromEpoch (value : Int) : Except OidcFailure Instant :=
  if -62135596800 ≤ value ∧ value ≤ 253402300799 then .ok (seconds value) else .error .overflow

/-- The check of the times of an ID token; when it was issued. -/
def checkTimes (claims : Claims) : Except OidcFailure Int := do
  let now := epochSeconds answers.clock
  let issuedAt ← integerClaim claims "iat"
  let expiresAt ← integerClaim claims "exp"
  if now + client.clockSkewSeconds < issuedAt ∨ expiresAt ≤ now - client.clockSkewSeconds ∨
      expiresAt ≤ issuedAt then
    .error (.verification "id_token_time_invalid")
  else .ok issuedAt

/-- When the operator authenticated. -/
def authTime (claims : Claims) (issuedAt : Int) : Except OidcFailure Int :=
  match claims.lookup "auth_time" with
  | none => .ok issuedAt
  | some (.int n) => .ok n
  | some _ => .error (.verification "id_token_auth_time_invalid")

/-- The name of an operator, or else their subject. -/
def displayName (claims : Claims) (subject : String) : String :=
  match claims.lookup "name" with
  | some (.str name) => name
  | _ => subject

/-- The issuer and the subject of an ID token. -/
def identityOf (claims : Claims) : Except OidcFailure (String × String) :=
  match claims.lookup "iss", claims.lookup "sub" with
  | some (.str issuer), some (.str subject) =>
    if issuer = client.configuration.issuer ∧ subject ≠ "" then .ok (issuer, subject)
    else .error (.verification "id_token_identity_invalid")
  | _, _ => .error (.verification "id_token_identity_invalid")

/-- `_validate_claims`. -/
def validateClaims (claims : Claims) (expectedNonce : Option String) :
    Except OidcFailure OidcPrincipal := do
  let (issuer, subject) ← identityOf client claims
  if client.configuration.clientId ∉ (audiencesOf claims).getD [] then
    .error (.verification "id_token_audience_invalid")
  else do
    checkNonce claims expectedNonce
    let issuedAt ← checkTimes client answers claims
    let authTime ← authTime claims issuedAt
    let groups ← stringTupleClaim claims client.configuration.groupsClaim
    let roles ← stringTupleClaim claims client.configuration.rolesClaim
    let authenticatedAt ← timestampFromEpoch authTime
    if displayName claims subject = "" then .error .value
    else .ok {
      subject, issuer
      audience := client.configuration.clientId
      displayName := displayName claims subject
      trustedGroups := groups
      trustedRoles := roles
      authenticatedAt
      claimsVerifiedAt := answers.clock }

/-! ## Exchanges -/

/-- What is kept of a token response. -/
def retained (tokenResponse : Claims) : Claims :=
  tokenResponse.filter fun p =>
    p.1 ∈ ["access_token", "expires_in", "id_token", "refresh_token", "scope", "token_type"]

/-- `_verified_material`. -/
def verifiedMaterial (tokenResponse : Claims) (expectedNonce : Option String) :
    Except OidcFailure VerifiedOidcIdentity :=
  match tokenResponse.lookup "id_token" with
  | some (.str idToken) =>
    if idToken = "" then .error (.verification "id_token_missing")
    else do
      let jwks ← loadJwks client answers
      match client.library.decode idToken jwks with
      | none => .error (.verification "id_token_signature_invalid")
      | some claims => do
        let principal ← validateClaims client answers claims expectedNonce
        return ⟨principal, client.library.dumps (.obj (retained tokenResponse))⟩
  | _ => .error (.verification "id_token_missing")

/-- `_validate_redirect_uri`. -/
def validRedirectUri (value : String) : Bool :=
  match client.urls.urlsplit value with
  | none => false
  | some parsed =>
    client.urls.lower parsed.scheme = "https" && parsed.hostname.isSome &&
      parsed.username.isNone && parsed.password.isNone && parsed.query = "" && parsed.fragment = ""

/-- `exchange_code`. -/
def exchangeCode (code codeVerifier expectedNonce redirectUri : String) :
    Except OidcFailure VerifiedOidcIdentity :=
  if validRedirectUri client redirectUri = false then .error .value
  else if code = "" ∨ codeVerifier = "" ∨ expectedNonce = "" then
    .error (.verification "authorization_material_invalid")
  else do
    let tokenResponse ← postToken client answers [("grant_type", "authorization_code"),
      ("code", code), ("redirect_uri", redirectUri), ("code_verifier", codeVerifier)]
    verifiedMaterial client answers tokenResponse (some expectedNonce)

/-- The refresh token of the material that a session has kept. -/
def refreshToken (providerTokenMaterial : String) : Except OidcFailure String := do
  let prior ← decodeJsonObject client providerTokenMaterial
  match prior.lookup "refresh_token" with
  | some (.str token) =>
    if token = "" then .error (.verification "refresh_token_unavailable") else .ok token
  | _ => .error (.verification "refresh_token_unavailable")

/-- What a refresh posts. -/
def refreshForm (token : String) : List (String × String) :=
  [("grant_type", "refresh_token"), ("refresh_token", token)]

/-- `refresh`. -/
def refresh (providerTokenMaterial : String) : Except OidcFailure VerifiedOidcIdentity := do
  let token ← refreshToken client providerTokenMaterial
  let tokenResponse ← postToken client answers (refreshForm token)
  let tokenResponse := if (tokenResponse.lookup "refresh_token").isSome = true then tokenResponse
    else tokenResponse ++ [("refresh_token", .str token)]
  verifiedMaterial client answers tokenResponse none

end ProofAgent.Oidc
