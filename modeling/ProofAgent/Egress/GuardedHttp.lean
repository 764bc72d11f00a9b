import ProofAgent.Egress.Policy
import ProofAgent.Base.Decimal
import ProofAgent.Base.Effect

/-! # The guarded HTTPS client

Every attempt of a hop resolves the host anew, has the whole answer admitted and connects
to an address of it. A redirect is a new hop, of which the policy has to allow the origin. -/
namespace ProofAgent.Egress

open Base

abbrev Headers := List (String × String)

/-- A body is kept as text. -/
structure GuardedHttpResponse where
  statusCode : Int
  headers : Headers
  body : String
  deriving DecidableEq

/-- The arguments of `transport.send`. -/
structure Send where
  method : String
  url : String
  connectAddress : String
  tlsHostname : String
  headers : Headers
  body : Option String
  timeoutSeconds : PyFloat
  maxResponseBytes : Nat
  deriving DecidableEq

/-- The resolver and the transport, which may do anything that their own state allows; they
raise an error with a message. -/
structure Network (σ : Type) where
  resolve : (host : String) → (port : Nat) → (timeoutSeconds : PyFloat) → σ →
    Except String (List String) × σ
  send : Send → σ → Except String GuardedHttpResponse × σ

/-- What a client does outside of itself, with what came of it. -/
inductive WireEvent where
  | resolved (host : String) (port : Nat) (answers : Except String (List String))
  | sent (send : Send) (outcome : Except String GuardedHttpResponse)
  /-- A call of the denial audit sink. -/
  | audited (reasonCode : String) (origin : Option String)

structure Wire (σ : Type) where
  network : σ
  events : List WireEvent

abbrev WireCall (σ α : Type) := Effect (Wire σ) EgressError α

structure GuardedHttpsClient where
  policy : CompiledEgressPolicy
  maxRedirects : Nat
  maxAttemptsPerHop : Nat
  maxDnsAnswers : Nat
  maxResponseBytes : Nat
  /-- Whether there is a `denial_audit_sink`. -/
  audited : Bool
  attempts_pos : 1 ≤ maxAttemptsPerHop

/-- `GuardedHttpsClient(...)`. -/
def GuardedHttpsClient.create (policy : CompiledEgressPolicy)
    (maxRedirects maxAttemptsPerHop maxDnsAnswers maxResponseBytes : Int) (audited : Bool) :
    Except EgressError GuardedHttpsClient :=
  if maxRedirects < 0 then .error (.value "max_redirects cannot be negative")
  else if h : maxAttemptsPerHop < 1 then .error (.value "max_attempts_per_hop must be positive")
  else if maxDnsAnswers < 1 ∨ maxResponseBytes < 1 then
    .error (.value "guarded HTTPS bounds must be positive")
  else .ok {
    policy
    maxRedirects := maxRedirects.toNat
    maxAttemptsPerHop := maxAttemptsPerHop.toNat
    maxDnsAnswers := maxDnsAnswers.toNat
    maxResponseBytes := maxResponseBytes.toNat
    audited
    attempts_pos := by omega }

/-- `restricted`; the resolver and the transport stay the same. -/
def GuardedHttpsClient.restricted (client : GuardedHttpsClient)
    (maxRedirects maxAttemptsPerHop maxResponseBytes : Int) : Except EgressError GuardedHttpsClient :=
  GuardedHttpsClient.create client.policy (min maxRedirects client.maxRedirects)
    (min maxAttemptsPerHop client.maxAttemptsPerHop) client.maxDnsAnswers
    (min maxResponseBytes client.maxResponseBytes) client.audited

/-! ## Checks of the arguments -/

variable (library : EgressLibrary)

/-- `_validated_method`. -/
def validatedMethod (method : String) : Except EgressError String :=
  let normalized := library.upper method
  if normalized = "" ∨ library.isAlpha normalized = false ∨ normalized.length > 16 then
    .error (.value "guarded HTTPS method is invalid")
  else .ok normalized

/-- Whether a header may be given. -/
def validHeader (header : String × String) : Bool :=
  let lines := header.1.toList ++ header.2.toList
  header.1 ≠ "" && header.2 ≠ "" && !lines.contains '\r' && !lines.contains '\n' &&
    !(["host", "connection", "transfer-encoding"].contains (library.lower header.1))

/-- `_validated_headers`. -/
def validatedHeaders (headers : Headers) : Except EgressError Headers :=
  if headers.all (validHeader library) = true then .ok headers
  else .error (.value "guarded HTTPS header is invalid")

/-- `_header`. -/
def header (headers : Headers) (name : String) : Option String :=
  (headers.find? fun header => library.lower header.1 = library.lower name).map (·.2)

/-- `_REDIRECT_STATUSES`. -/
def redirectStatuses : List Int := [301, 302, 303, 307, 308]

/-- `_RETRYABLE_STATUSES`. -/
def retryableStatuses : List Int := [408, 425, 429, 500, 502, 503, 504]

/-- `_SENSITIVE_REDIRECT_HEADERS`. -/
def sensitiveRedirectHeaders : List String :=
  ["authorization", "cookie", "proxy-authorization", "x-api-key", "x-auth-token", "x-vault-token"]

/-- Whether a header is listed as sensitive. -/
def isSensitive (header : String × String) : Bool :=
  sensitiveRedirectHeaders.contains (library.lower header.1)

/-- Whether a header is about the body. -/
def isContentHeader (header : String × String) : Bool :=
  ["content-length", "content-type"].contains (library.lower header.1)

/-! ## Requests -/

section
variable {σ : Type} (network : Network σ) (client : GuardedHttpsClient)

/-- A hop of a request. -/
structure Hop where
  method : String
  url : String
  headers : Headers
  body : Option String
  redirects : Nat

/-- `resolver.resolve`, where an error of any kind is a denial. -/
def resolveHost (origin : ExactHttpsOrigin) (timeoutSeconds : PyFloat) : WireCall σ (List String) :=
  fun wire =>
    let (answers, state) := network.resolve origin.host origin.port timeoutSeconds wire.network
    let wire := ⟨state, wire.events ++ [.resolved origin.host origin.port answers]⟩
    match answers with
    | .ok answers => (.ok answers, wire)
    | .error _ => (.error (.denied "dns_resolution_failed" (some origin.value)), wire)

/-- `transport.send`. -/
def sendRequest (send : Send) : WireCall σ GuardedHttpResponse := fun wire =>
  let (outcome, state) := network.send send wire.network
  let wire := ⟨state, wire.events ++ [.sent send outcome]⟩
  match outcome with
  | .ok response => (.ok response, wire)
  | .error message => (.error (.transport message), wire)

/-- What is sent for a hop to an admitted address. -/
def hopSend (hop : Hop) (timeoutSeconds : PyFloat) (admitted : AdmittedEgressHop) : Send where
  method := hop.method
  url := hop.url
  connectAddress := admitted.addresses.headD ""
  tlsHostname := admitted.origin.host
  headers := hop.headers
  body := hop.body
  timeoutSeconds
  maxResponseBytes := client.maxResponseBytes

/-- One attempt of a hop. -/
def attemptHop (hop : Hop) (timeoutSeconds : PyFloat) (origin : ExactHttpsOrigin) :
    WireCall σ GuardedHttpResponse := do
  let answers ← resolveHost network origin timeoutSeconds
  Effect.require (answers.length ≤ client.maxDnsAnswers)
    (.denied "dns_answer_limit_exceeded" (some origin.value))
  let admitted ← .ofExcept ( client.policy.admit library hop.url answers)
  sendRequest network (hopSend client hop timeoutSeconds admitted)

/-- The loop of `_request_hop`, with the attempts that are left. -/
def attempts (hop : Hop) (timeoutSeconds : PyFloat) (origin : ExactHttpsOrigin) :
    Nat → WireCall σ GuardedHttpResponse
  | 0 => Effect.raise (.assertion "bounded retry loop did not return")
  | left + 1 => do
    let response ← attemptHop library network client hop timeoutSeconds origin
    if response.statusCode ∉ retryableStatuses then return response
    else if left = 0 then return response
    else attempts hop timeoutSeconds origin left

/-- `_request_hop`. -/
def requestHop (hop : Hop) (timeoutSeconds : PyFloat) : WireCall σ GuardedHttpResponse := do
  let origin ← .ofExcept (client.policy.authorizeOrigin library hop.url)
  attempts library network client hop timeoutSeconds origin client.maxAttemptsPerHop

/-- The headers of the next hop, before its method is known. -/
def redirectedHeaders (currentOrigin nextOrigin : ExactHttpsOrigin) (headers : Headers) : Headers :=
  if currentOrigin ≠ nextOrigin then headers.filter fun header => !isSensitive library header
  else headers

/-- The hop to `nextUrl`. -/
def nextHop (hop : Hop) (statusCode : Int) (nextUrl : String)
    (currentOrigin nextOrigin : ExactHttpsOrigin) : Hop :=
  let headers := redirectedHeaders library currentOrigin nextOrigin hop.headers
  if statusCode = 303 ∨ (statusCode ∈ [301, 302] ∧ hop.method = "POST") then {
    method := "GET"
    url := nextUrl
    headers := headers.filter fun header => !isContentHeader library header
    body := none
    redirects := hop.redirects + 1 }
  else { hop with url := nextUrl, headers, redirects := hop.redirects + 1 }

/-- `urljoin`. -/
def joinUrl (url location : String) : Except EgressError String :=
  match library.urljoin url location with
  | none => .error (.value "invalid URL")
  | some next => .ok next

/-- Following the location of a redirect. -/
def redirectHop (hop : Hop) (statusCode : Int) (location : String) : Except EgressError Hop :=
  if client.maxRedirects ≤ hop.redirects then .error (.denied "redirect_limit_exceeded" none)
  else do
    let nextUrl ← joinUrl library hop.url location
    let currentOrigin ← client.policy.authorizeOrigin library hop.url
    let nextOrigin ← client.policy.authorizeOrigin library nextUrl
    return nextHop library hop statusCode nextUrl currentOrigin nextOrigin

/-- The body of the loop of `request`. -/
def requestRound (timeoutSeconds : PyFloat) (hop : Hop) : WireCall σ (Hop ⊕ GuardedHttpResponse) := do
  let response ← requestHop library network client hop timeoutSeconds
  if response.statusCode ∉ redirectStatuses then return .inr response
  else match header library response.headers "location" with
    | none => return .inr response
    | some location => do
      let next ← .ofExcept (redirectHop library client hop response.statusCode location)
      return .inl next

/-- `_audit_denial`, and the denial again. -/
def auditDenial {α : Type} : EgressError → WireCall σ α
  | .denied reasonCode origin => do
    if client.audited = true then
      Effect.modify fun wire => { wire with events := wire.events ++ [.audited reasonCode origin] }
    Effect.raise (.denied reasonCode origin)
  | e => Effect.raise e

/-- `timeout_seconds <= 0`. -/
def notPositive (x : PyFloat) : Bool := x.negative || x.coefficient = 0

/-- `request`, on fuel for its loop. -/
def request (fuel : Nat) (method url : String) (headers : Headers) (body : Option String)
    (timeoutSeconds : PyFloat) : WireCall σ (Option GuardedHttpResponse) := do
  Effect.require (notPositive timeoutSeconds = false) (.value "guarded HTTPS timeout must be positive")
  let normalizedMethod ← .ofExcept (validatedMethod library method)
  let currentHeaders ← .ofExcept (validatedHeaders library headers)
  Effect.attempt
    (Effect.loop (requestRound library network client timeoutSeconds) fuel
      ⟨normalizedMethod, url, currentHeaders, body, 0⟩)
    (auditDenial client)

end

end ProofAgent.Egress
