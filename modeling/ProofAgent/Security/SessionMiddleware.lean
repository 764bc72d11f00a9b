import ProofAgent.Security.SessionLifecycle

/-! # The middleware of the session

A request resolves the session of its cookie before the application gets it. A
mutating request has to carry the CSRF token of the session as well, which is made
of the cookie that the session has by then. -/
namespace ProofAgent.Sessions

open Base

/-! ## Same origin, and the token of the session -/

/-- What `urlsplit` reads out of a URL. -/
structure SplitUrl where
  scheme : String
  netloc : String
  hostname : Option String
  username : Option String
  password : Option String
  /-- `none` where reading it raises. -/
  port : Option (Option Nat)

/-- The library that splits URLs; `none` where it raises. -/
structure UrlLibrary where
  urlsplit : String → Option SplitUrl
  encodeIdna : String → Option String
  lower : String → String

inductive CsrfFailure where
  /-- `CsrfRejectedError`. -/
  | rejected (reasonCode : String)
  | value
  | type
  deriving DecidableEq

variable (urls : UrlLibrary)

/-- `_normalized_origin`; whatever it raises is a `ValueError`. -/
def normalizedOrigin (value : String) : Option String := do
  let parsed ← urls.urlsplit value
  if urls.lower parsed.scheme ≠ "https" then none
  else
    let hostname ← parsed.hostname
    if parsed.username.isSome = true ∨ parsed.password.isSome = true then none
    else
      let host ← urls.encodeIdna hostname
      match ← parsed.port with
      | none | some 0 => some ("https://" ++ urls.lower host ++ ":443")
      | some port => some ("https://" ++ urls.lower host ++ ":" ++ toString port)

/-- `_referer_origin`. -/
def refererOrigin : Option String → Option String
  | none => none
  | some value =>
    if value = "" then none
    else (urls.urlsplit value).bind fun parsed =>
      normalizedOrigin urls (parsed.scheme ++ "://" ++ parsed.netloc)

/-- The origin of a request: its `Origin`, or else that of its `Referer`. -/
def requestOrigin (origin referer : Option String) : Except CsrfFailure (Option String) :=
  match origin.filter (· ≠ "") with
  | some origin =>
    match normalizedOrigin urls origin with
    | none => .error .value
    | some normalized => .ok (some normalized)
  | none => .ok (refererOrigin urls referer)

/-- `hmac.compare_digest` with a digest, which is ASCII; it raises for any other text. -/
def compareDigest (supplied expected : String) : Except CsrfFailure Bool :=
  if supplied = expected then .ok true
  else if supplied.toList.all (fun c => c.toNat < 128) = true then .ok false
  else .error .type

/-- `require_same_origin_csrf`. -/
def requireSameOriginCsrf (stableOrigin : String) (origin referer suppliedToken : Option String)
    (expectedToken : String) : Except CsrfFailure Unit := do
  match normalizedOrigin urls stableOrigin with
  | none => .error .value
  | some expected => do
    let requested ← requestOrigin urls origin referer
    if requested ≠ some expected then .error (.rejected "browser_origin_rejected")
    else
      match suppliedToken with
      | none => .error (.rejected "csrf_token_rejected")
      | some supplied => do
        if ← compareDigest supplied expectedToken then .ok ()
        else .error (.rejected "csrf_token_rejected")

/-! ## Dispatching -/

/-- What the middleware reads of a request. -/
structure ApiRequest where
  method : String
  path : String
  /-- The session cookie. -/
  cookie : Option String
  origin : Option String := none
  referer : Option String := none
  /-- `X-CSRF-Token`. -/
  csrfToken : Option String := none
  deriving DecidableEq

inductive Answer where
  | rejected (status : Nat) (detail : String) (deletesCookie : Bool)
  /-- The answer of the application to the session it is given, with the cookie that is set. -/
  | passed (session : Option SessionResolution) (setCookie : Option String)

def publicPaths : List String := ["/api/auth/login", "/api/auth/callback", "/livez"]

def mutatingMethods : List String := ["POST", "PUT", "PATCH", "DELETE"]

namespace ApiRequest

/-- Whether a request goes to the application as it is. -/
def isOpen (request : ApiRequest) : Bool :=
  publicPaths.contains request.path || !("/api".toList.isPrefixOf request.path.toList)

def isMutating (request : ApiRequest) : Bool :=
  mutatingMethods.contains (.ofList (request.method.toList.map Char.toUpper))

end ApiRequest

/-- The answer to a request without a session. -/
def authenticationRequired (deletesCookie : Bool) : Answer :=
  .rejected 401 "authentication_required" deletesCookie

/-- What `dispatch` catches of a resolution: the cookie is rejected; the rest escapes. -/
def authenticate : Except SessionError SessionResolution →
    Except SessionError (Except Answer SessionResolution)
  | .ok resolution => .ok (.ok resolution)
  | .error (.authentication _) => .ok (.error (authenticationRequired true))
  | .error e => .error e

/-- The answer of the application; a rotated session sets its new cookie. -/
def callNext (resolution : SessionResolution) : Answer :=
  .passed (some resolution) (if resolution.rotated = true then some resolution.cookieToken else none)

/-- `dispatch`, with the session at hand. -/
def serve (stableOrigin : String) (request : ApiRequest) (resolution : SessionResolution) :
    Except SessionError Answer :=
  if request.isMutating = true then
    match requireSameOriginCsrf urls stableOrigin request.origin request.referer request.csrfToken
        resolution.projection.csrfToken with
    | .error (.rejected reasonCode) => .ok (.rejected 403 reasonCode false)
    | .error .value => .ok (.rejected 403 "browser_origin_rejected" false)
    | .error .type => .error .other
    | .ok () => .ok (callNext resolution)
  else .ok (callNext resolution)

/-- `ProductionSessionSecurityMiddleware.dispatch`. -/
def dispatch (service : SessionService) (env : Collaborators) (stableOrigin : String)
    (request : ApiRequest) (now : Instant) : SessionCall Answer :=
  if request.isOpen = true then return .passed none none
  else
    match request.cookie.filter (· ≠ "") with
    | none => return authenticationRequired false
    | some cookie => do
      let resolved ← (resolveSession service env cookie now).caught
      match authenticate resolved with
      | .error e => .raise e
      | .ok (.error answer) => return answer
      | .ok (.ok resolution) => .ofExcept (serve urls stableOrigin request resolution)

end ProofAgent.Sessions
