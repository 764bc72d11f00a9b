import ProofAgent.Security.SessionMiddleware

/-! # A browser and its session

A browser sends one request after the other, follows the cookies that it is sent and
carries the CSRF token of the last projection it has been given. A rotation gives the
session a new cookie and a new CSRF token at once, so a mutating request at which one
is due is refused for a token that the browser could not know, and the answer that
refuses it does not bring the new cookie either. -/
namespace ProofAgent.Sessions

open Base

/-! ## The browser -/

/-- The store of the backend, and what the browser has of its session. -/
structure Browser where
  store : SessionStore
  cookie : Option String
  csrfToken : Option String

/-- What a browser is made to send, and what the collaborators answer then. -/
structure BrowserRequest where
  env : Collaborators
  now : Instant
  method : String
  path : String

/-- `GET /api/auth/session`, which is answered with the projection of the session. -/
def BrowserRequest.isProjection (r : BrowserRequest) : Bool :=
  r.method = "GET" && r.path = "/api/auth/session"

/-- The requests that end a session, or begin one. -/
def BrowserRequest.endsSession (r : BrowserRequest) : Bool :=
  ["/api/auth/logout", "/api/auth/callback"].contains r.path

variable (urls : UrlLibrary) (service : SessionService) (stableOrigin : String)

namespace Browser

/-- The request, with the headers of the browser. -/
def request (b : Browser) (r : BrowserRequest) : ApiRequest where
  method := r.method
  path := r.path
  cookie := b.cookie
  origin := some stableOrigin
  csrfToken := b.csrfToken

/-- The answer to a request, and the store that it leaves. -/
def exchange (b : Browser) (r : BrowserRequest) : Except SessionError Answer × SessionStore :=
  (dispatch urls service r.env stableOrigin (b.request stableOrigin r) r.now).alone b.store

/-- What the browser takes from an answer. -/
def receive (b : Browser) (r : BrowserRequest) (store : SessionStore) :
    Except SessionError Answer → Browser
  | .ok (.passed session setCookie) => {
      store
      cookie := setCookie.or b.cookie
      csrfToken := if r.isProjection = true
        then (session.map fun resolution => resolution.projection.csrfToken).or b.csrfToken
        else b.csrfToken }
  | .ok (.rejected _ _ deletesCookie) =>
    { b with store, cookie := if deletesCookie = true then none else b.cookie }
  | .error _ => { b with store }

/-- The browser, after a request. -/
def send (b : Browser) (r : BrowserRequest) : Browser :=
  let (answer, store) := b.exchange urls service stableOrigin r
  b.receive r store answer

/-- Something holds at each request of a sequence. -/
def Along (p : Browser → BrowserRequest → Prop) : Browser → List BrowserRequest → Prop
  | _, [] => True
  | b, r :: rest => p b r ∧ (b.send urls service stableOrigin r).Along p rest

end Browser

/-! ## What is asked of a request -/

variable (sessionId : String)

/-- A request inside the lifetimes of the session, whose claims can be refreshed. -/
structure Attended (env : Collaborators) (now : Instant) (row : OperatorSessionRecord) : Prop where
  absolute : now < row.absoluteExpiresAt
  idle : now < row.idleExpiresAt
  decrypts : ∃ material, env.decrypt row.providerTokenEnvelope row.envelopeKeyVersion
    ("oidc-session:" ++ row.sessionId) = .ok material
  refreshes : ∀ material, ∃ refreshed envelope, env.refresh material = some refreshed ∧
    refreshed.principal.subject = row.principal.subject ∧
    env.encrypt refreshed.providerTokenMaterial ("oidc-session:" ++ row.sessionId) = .ok envelope

/-- Whether the token of a session is rotated at a request. -/
def rotationDue (env : Collaborators) (now : Instant) (row : OperatorSessionRecord) : Bool :=
  row.permissionEpoch ≠ env.permissionEpoch || claimFreshness ≤ now - row.claimsVerifiedAt

namespace Browser

/-- The session is attended to at a request. -/
def Served (b : Browser) (r : BrowserRequest) : Prop :=
  r.endsSession = false ∧
    ∀ row ∈ b.store.sessions.rows, row.sessionId = sessionId → Attended r.env r.now row

/-- The cookie of the browser resolves to its session. -/
def Resolves (b : Browser) : Prop :=
  ∀ env now, (∀ row ∈ b.store.sessions.rows, row.sessionId = sessionId → Attended env now row) →
    ¬ b.store.Holds (service.sha256 env.tokenUrlsafe) → ∃ cookie resolution, b.cookie = some cookie ∧
      ((resolveSession service env cookie now).alone b.store).1 = .ok resolution ∧
      resolution.projection.sessionId = sessionId

/-- The request gets through to the application, and the cookie still resolves after it. -/
def Continues (b : Browser) (r : BrowserRequest) : Prop :=
  (∃ session setCookie,
    (b.exchange urls service stableOrigin r).1 = .ok (.passed session setCookie)) ∧
  (b.send urls service stableOrigin r).Resolves service sessionId

/-- A mutating request comes when no rotation is due, with the CSRF token of its cookie. -/
def Unrotated (b : Browser) (r : BrowserRequest) : Prop :=
  (b.request stableOrigin r).isOpen = false → (b.request stableOrigin r).isMutating = true →
    b.csrfToken = b.cookie.map service.csrfToken ∧
    ∀ row ∈ b.store.sessions.rows, row.sessionId = sessionId → rotationDue r.env r.now row = false

end Browser

/-! ## One request -/

section
variable {urls} {service} {stableOrigin} {sessionId}

theorem csrfToken_injective : Function.Injective service.csrfToken := by
  intro cookie other h
  have hmessage := service.hmacSha256_injective _ h
  simpa using hmessage

/-- The claims that a resolution goes on with. -/
theorem currentClaims_attended {env : Collaborators} {now : Instant} {row : OperatorSessionRecord}
    (h : Attended env now row) (tokenHash material : String) :
    ∃ claims, currentClaims env row tokenHash now material = pure claims ∧
      rotates env row claims = rotationDue env now row := by
  unfold currentClaims rotates rotationDue
  by_cases hdue : claimFreshness ≤ now - row.claimsVerifiedAt
  · obtain ⟨refreshed, envelope, hrefresh, _, hencrypt⟩ := h.refreshes material
    rw [if_pos hdue, hrefresh]
    dsimp only
    rw [hencrypt]
    refine ⟨_, rfl, ?_⟩
    simp [hdue]
  · rw [if_neg hdue]
    refine ⟨_, rfl, ?_⟩
    simp [hdue]

/-- **A request that is attended to resolves**: the row is rewritten, with a new token if a
rotation is due. -/
theorem resolveSession_attended {env : Collaborators} {now : Instant} {s : SessionStore}
    {row : OperatorSessionRecord} {cookie : String} (hs : s.WellFormed)
    (hrow : row ∈ s.sessions.rows) (htoken : row.sessionTokenSha256 = service.sha256 cookie)
    (hunrevoked : row.revokedAt = none) (hattended : Attended env now row)
    (hfresh : ¬ s.Holds (service.sha256 env.tokenUrlsafe)) :
    ∃ claims, let next := if rotationDue env now row then env.tokenUrlsafe else cookie
      let updated := nextRecord service env row next now claims
      ((resolveSession service env cookie now).alone s).1 =
        .ok (resolution service env updated next (rotationDue env now row)) ∧
      ((resolveSession service env cookie now).alone s).2 =
        (updateSession updated row.sessionVersion s).2 ∧
      updateSession updated row.sessionVersion s = (.ok updated, { s with
        sessions := s.sessions.update (isVersion updated.sessionId row.sessionVersion)
          (fun row => { updated with sessionId := row.sessionId }) fun _ => rfl }) := by
  obtain ⟨material, hdecrypt⟩ := hattended.decrypts
  obtain ⟨claims, hclaims, hrotates⟩ :=
    currentClaims_attended hattended (service.sha256 cookie) material
  refine ⟨claims, ?_⟩
  have hlive : ¬ (row.absoluteExpiresAt ≤ now ∨ row.idleExpiresAt ≤ now) := by
    rw [not_or, not_le, not_le]
    exact ⟨hattended.absolute, hattended.idle⟩
  have hresolves : resolveRecord service env cookie now (some row) =
      renew service env row cookie now claims := by
    unfold resolveRecord
    dsimp only
    rw [hunrevoked, if_neg (by simp), if_neg hlive, hdecrypt]
    dsimp only
    rw [hclaims]
    rfl
  have hwrite : updateSession (nextRecord service env row
      (if rotationDue env now row then env.tokenUrlsafe else cookie) now claims)
      row.sessionVersion s = _ := updateSession_current hrow rfl rfl (by
    split
    · exact not_taken_of_absent hfresh
    · exact hs.unique.not_taken hrow rfl htoken.symm)
  dsimp only
  rw [resolveSession_alone, hs.find_token hrow htoken, hresolves, renew_alone, hrotates,
    Effect.run_bind, hwrite]
  exact ⟨rfl, rfl, rfl⟩

/-! ## The session of the browser -/

/-- The browser has the cookie of its session, whose row is live, and what it has of the
CSRF tokens was not made of a token that is still to be drawn. -/
structure InSession (service : SessionService) (sessionId : String) (rest : List BrowserRequest)
    (b : Browser) (cookie : String) (row : OperatorSessionRecord) : Prop where
  wellFormed : b.store.WellFormed
  held : b.cookie = some cookie
  nonempty : cookie ≠ ""
  mem : row ∈ b.store.sessions.rows
  ofSession : row.sessionId = sessionId
  token : row.sessionTokenSha256 = service.sha256 cookie
  unrevoked : row.revokedAt = none
  undrawn : ∀ r ∈ rest, ¬ b.store.Holds (service.sha256 r.env.tokenUrlsafe)
  csrf : ∀ csrfToken, b.csrfToken = some csrfToken → ∃ token,
    csrfToken = service.csrfToken token ∧ ∀ r ∈ rest, r.env.tokenUrlsafe ≠ token

theorem InSession.resolves {b : Browser} {cookie : String} {row : OperatorSessionRecord}
    {rest : List BrowserRequest} (h : InSession service sessionId rest b cookie row) :
    b.Resolves service sessionId := by
  intro env now hattended hfresh
  obtain ⟨claims, hok, _⟩ := resolveSession_attended h.wellFormed h.mem h.token h.unrevoked
    (hattended row h.mem h.ofSession) hfresh
  exact ⟨cookie, _, h.held, hok, h.ofSession⟩

/-- The store after a request that is attended to. -/
theorem InSession.after {b : Browser} {cookie : String} {row : OperatorSessionRecord}
    {r : BrowserRequest} {rest : List BrowserRequest}
    (h : InSession service sessionId (r :: rest) b cookie row) (hserved : b.Served sessionId r)
    (hdraw : r.env.tokenUrlsafe ≠ "") (hrest : ∀ other ∈ rest, other.env.tokenUrlsafe ≠ r.env.tokenUrlsafe) :
    let due := rotationDue r.env r.now row
    let next := if due then r.env.tokenUrlsafe else cookie
    ∃ updated store, (resolveSession service r.env cookie r.now).alone b.store =
        (.ok (resolution service r.env updated next due), store) ∧
      ∀ csrfToken, (∀ token, csrfToken = some token → ∃ source, token = service.csrfToken source ∧
          ∀ other ∈ rest, other.env.tokenUrlsafe ≠ source) →
        InSession service sessionId rest ⟨store, some next, csrfToken⟩ next updated := by
  intro due next
  have hattended := hserved.2 row h.mem h.ofSession
  have hfresh := h.undrawn r (List.mem_cons_self ..)
  obtain ⟨claims, hok, hstate, hwrite⟩ :=
    resolveSession_attended h.wellFormed h.mem h.token h.unrevoked hattended hfresh
  refine ⟨nextRecord service r.env row next r.now claims,
    ((resolveSession service r.env cookie r.now).alone b.store).2, Prod.ext hok rfl, ?_⟩
  intro csrfToken hcsrf
  have hstep : SessionStep service (some r.env.tokenUrlsafe) b.store
      ((resolveSession service r.env cookie r.now).alone b.store).2 := by
    rw [hstate]
    refine updateSession_step rfl (fun other hother hid _ => Table.eq_of_key hother h.mem hid)
      rfl rfl ⟨min_le_right _ _, rfl⟩ ?_
    rw [h.token]
    unfold nextRecord
    dsimp only
    split
    · exact .inr rfl
    · exact .inl rfl
  refine ⟨hstep.wellFormed h.wellFormed, rfl, ?_, ?_, h.ofSession, rfl, h.unrevoked, ?_, hcsrf⟩
  · dsimp only [next]
    split
    · exact hdraw
    · exact h.nonempty
  · rw [hstate, hwrite]
    exact mem_updated h.mem rfl
  · intro other hother hholds
    rcases hstep.tokens _ hholds with hold | hdrawn
    · exact h.undrawn other (List.mem_cons_of_mem r hother) hold
    · rw [Option.map_some, Option.some.injEq] at hdrawn
      exact hrest other hother (service.sha256_injective hdrawn).symm

/-! ## Through the middleware -/

theorem exchange_open {b : Browser} {r : BrowserRequest}
    (hopen : (b.request stableOrigin r).isOpen = true) :
    b.exchange urls service stableOrigin r = (.ok (.passed none none), b.store) := by
  unfold Browser.exchange dispatch
  rw [if_pos hopen]
  rfl

theorem exchange_closed {b : Browser} {r : BrowserRequest} {cookie : String}
    {resolution : SessionResolution} {store : SessionStore}
    (hclosed : (b.request stableOrigin r).isOpen = false) (hheld : b.cookie = some cookie)
    (hnonempty : cookie ≠ "")
    (hresolves : (resolveSession service r.env cookie r.now).alone b.store = (.ok resolution, store)) :
    b.exchange urls service stableOrigin r =
      (serve urls stableOrigin (b.request stableOrigin r) resolution, store) := by
  have hcookie : (b.request stableOrigin r).cookie.filter (· ≠ "") = some cookie := by
    unfold Browser.request
    rw [hheld]
    simp [hnonempty]
  unfold Browser.exchange dispatch
  rw [hclosed, if_neg Bool.false_ne_true, hcookie]
  dsimp only
  rw [Process.alone_bind, Effect.run_bind, Process.alone_caught, hresolves]
  rfl

variable {origin : String}

/-- A mutating request passes with the CSRF token of the session alone. -/
theorem serve_mutating {b : Browser} {r : BrowserRequest} (resolution : SessionResolution)
    (hstable : stableOrigin ≠ "") (horigin : normalizedOrigin urls stableOrigin = some origin)
    (hmutating : (b.request stableOrigin r).isMutating = true) :
    (b.csrfToken = some resolution.projection.csrfToken →
      serve urls stableOrigin (b.request stableOrigin r) resolution = .ok (callNext resolution)) ∧
    ((∃ session setCookie, serve urls stableOrigin (b.request stableOrigin r) resolution =
      .ok (.passed session setCookie)) → b.csrfToken = some resolution.projection.csrfToken) := by
  have hrequested : requestOrigin urls (b.request stableOrigin r).origin
      (b.request stableOrigin r).referer = .ok (some origin) := by
    have hsent : (b.request stableOrigin r).origin.filter (· ≠ "") = some stableOrigin := by
      unfold Browser.request
      simp [Option.filter, hstable]
    unfold requestOrigin
    rw [hsent]
    dsimp only
    rw [horigin]
  have hcsrf : (b.request stableOrigin r).csrfToken = b.csrfToken := rfl
  unfold serve requireSameOriginCsrf
  rw [if_pos hmutating, horigin, hrequested, hcsrf]
  dsimp only [bind, Except.bind]
  rw [if_neg (by simp)]
  cases b.csrfToken with
  | none => exact ⟨nofun, fun ⟨_, _, h⟩ => nomatch h⟩
  | some supplied =>
    dsimp only
    unfold compareDigest
    by_cases hsame : supplied = resolution.projection.csrfToken
    · rw [if_pos hsame]
      exact ⟨fun _ => rfl, fun _ => congrArg some hsame⟩
    · refine ⟨fun h => absurd (Option.some.inj h) hsame, fun ⟨_, _, h⟩ => ?_⟩
      rw [if_neg hsame] at h
      by_cases hascii : supplied.toList.all (fun c => c.toNat < 128) = true
      · rw [if_pos hascii] at h
        cases h
      · rw [if_neg hascii] at h
        cases h

/-- The session goes on after a request that the application gets. -/
theorem InSession.passed {b : Browser} {r : BrowserRequest} {rest : List BrowserRequest}
    {updated : OperatorSessionRecord} {store : SessionStore} {cookie next : String} {due : Bool}
    (hheld : b.cookie = some cookie) (hnext : next = if due then r.env.tokenUrlsafe else cookie)
    (hexchange : b.exchange urls service stableOrigin r =
      (.ok (callNext (resolution service r.env updated next due)), store))
    (hundrawn : ∀ other ∈ rest, other.env.tokenUrlsafe ≠ next)
    (hcsrf : ∀ csrfToken, b.csrfToken = some csrfToken → ∃ source,
      csrfToken = service.csrfToken source ∧ ∀ other ∈ rest, other.env.tokenUrlsafe ≠ source)
    (hafter : ∀ csrfToken, (∀ token, csrfToken = some token → ∃ source,
      token = service.csrfToken source ∧ ∀ other ∈ rest, other.env.tokenUrlsafe ≠ source) →
        InSession service sessionId rest ⟨store, some next, csrfToken⟩ next updated) :
    InSession service sessionId rest (b.send urls service stableOrigin r) next updated := by
  have hcookie : (if due = true then some next else none).or b.cookie = some next := by
    rw [hheld, hnext]
    cases due with
    | true => rfl
    | false => rfl
  have hsend : b.send urls service stableOrigin r = ⟨store, some next,
      if r.isProjection = true then some (service.csrfToken next) else b.csrfToken⟩ := by
    unfold Browser.send
    rw [hexchange]
    unfold Browser.receive callNext
    dsimp only
    rw [show (resolution service r.env updated next due).rotated = due from rfl,
      show (resolution service r.env updated next due).cookieToken = next from rfl, hcookie]
    rfl
  rw [hsend]
  refine hafter _ fun token htoken => ?_
  split at htoken
  · exact ⟨next, (Option.some.inj htoken).symm, hundrawn⟩
  · exact hcsrf token htoken

theorem InSession.tail {b : Browser} {cookie : String} {row : OperatorSessionRecord}
    {r : BrowserRequest} {rest : List BrowserRequest}
    (h : InSession service sessionId (r :: rest) b cookie row) :
    InSession service sessionId rest b cookie row :=
  { h with
    undrawn := fun other hother => h.undrawn other (List.mem_cons_of_mem r hother)
    csrf := fun csrfToken hcsrf => by
      obtain ⟨source, hsource, hdraws⟩ := h.csrf csrfToken hcsrf
      exact ⟨source, hsource, fun other hother => hdraws other (List.mem_cons_of_mem r hother)⟩ }

theorem send_open {b : Browser} {r : BrowserRequest}
    (hopen : (b.request stableOrigin r).isOpen = true) :
    b.send urls service stableOrigin r = b := by
  unfold Browser.send
  rw [exchange_open hopen]
  unfold Browser.receive
  dsimp only
  rw [Option.map_none, Option.none_or, Option.none_or, ite_self]

/-- A mutating request is not to come at a rotation, and has the token of its cookie. -/
theorem InSession.unrotated_iff {b : Browser} {cookie : String} {row : OperatorSessionRecord}
    {r : BrowserRequest} {rest : List BrowserRequest}
    (h : InSession service sessionId (r :: rest) b cookie row)
    (hclosed : (b.request stableOrigin r).isOpen = false)
    (hmutating : (b.request stableOrigin r).isMutating = true) :
    b.Unrotated service stableOrigin sessionId r ↔ b.csrfToken = some (service.csrfToken
      (if rotationDue r.env r.now row then r.env.tokenUrlsafe else cookie)) := by
  constructor
  · intro hunrotated
    obtain ⟨hcsrf, hdue⟩ := hunrotated hclosed hmutating
    rw [hcsrf, h.held, hdue row h.mem h.ofSession]
    rfl
  · intro hcsrf _ _
    obtain ⟨source, hsource, hdraws⟩ := h.csrf _ hcsrf
    have hdue : rotationDue r.env r.now row = false := by
      by_contra hdue
      rw [Bool.not_eq_false] at hdue
      rw [hdue, if_pos rfl] at hsource
      exact hdraws r (List.mem_cons_self ..) (csrfToken_injective hsource)
    rw [hdue, if_neg Bool.false_ne_true] at hcsrf
    refine ⟨by rw [hcsrf, h.held]; rfl, fun other hother hid => ?_⟩
    rw [Table.eq_of_key hother h.mem (hid.trans h.ofSession.symm)]
    exact hdue

/-- **One request of the browser.** -/
theorem InSession.step {b : Browser} {cookie : String} {row : OperatorSessionRecord}
    {r : BrowserRequest} {rest : List BrowserRequest}
    (hstable : stableOrigin ≠ "") (horigin : normalizedOrigin urls stableOrigin = some origin)
    (h : InSession service sessionId (r :: rest) b cookie row) (hserved : b.Served sessionId r)
    (hdraw : r.env.tokenUrlsafe ≠ "")
    (hrest : ∀ other ∈ rest, other.env.tokenUrlsafe ≠ r.env.tokenUrlsafe) :
    (b.Continues urls service stableOrigin sessionId r ↔
      b.Unrotated service stableOrigin sessionId r) ∧
    (b.Unrotated service stableOrigin sessionId r → ∃ cookie row,
      InSession service sessionId rest (b.send urls service stableOrigin r) cookie row) := by
  by_cases hopen : (b.request stableOrigin r).isOpen = true
  · have hcontinues : b.Continues urls service stableOrigin sessionId r := by
      refine ⟨⟨none, none, by rw [exchange_open hopen]⟩, ?_⟩
      rw [send_open hopen]
      exact h.resolves
    refine ⟨iff_of_true hcontinues fun hclosed => ?_, fun _ => ⟨cookie, row, ?_⟩⟩
    · rw [hopen] at hclosed
      cases hclosed
    · rw [send_open hopen]
      exact h.tail
  rw [Bool.not_eq_true] at hopen
  obtain ⟨updated, store, hresolves, hafter⟩ := h.after hserved hdraw hrest
  set due := rotationDue r.env r.now row with hdue
  set next := if due then r.env.tokenUrlsafe else cookie with hnext
  have hexchange : b.exchange urls service stableOrigin r = _ :=
    exchange_closed hopen h.held h.nonempty hresolves
  have hundrawn : ∀ other ∈ rest, other.env.tokenUrlsafe ≠ next := by
    intro other hother hsame
    rw [hnext] at hsame
    split at hsame
    · exact hrest other hother hsame
    · refine h.undrawn other (List.mem_cons_of_mem r hother) ⟨row, h.mem, ?_⟩
      rw [hsame, h.token]
  -- Where the application gets the request, the session goes on.
  have hgoes : serve urls stableOrigin (b.request stableOrigin r)
      (resolution service r.env updated next due) = .ok (callNext (resolution service r.env updated next due)) →
      b.Continues urls service stableOrigin sessionId r ∧
        InSession service sessionId rest (b.send urls service stableOrigin r) next updated := by
    intro hserve
    rw [hserve] at hexchange
    have hsession := InSession.passed h.held hnext hexchange hundrawn h.tail.csrf hafter
    exact ⟨⟨⟨_, _, congrArg Prod.fst hexchange⟩, hsession.resolves⟩, hsession⟩
  by_cases hmutating : (b.request stableOrigin r).isMutating = true
  · obtain ⟨hpasses, hneeds⟩ := serve_mutating (resolution service r.env updated next due)
      hstable horigin hmutating
    have hiff := h.unrotated_iff hopen hmutating
    refine ⟨⟨fun hcontinues => hiff.mpr (hneeds ?_), fun hunrotated => ?_⟩, fun hunrotated => ?_⟩
    · obtain ⟨⟨session, setCookie, hpassed⟩, _⟩ := hcontinues
      rw [hexchange] at hpassed
      exact ⟨session, setCookie, hpassed⟩
    · exact (hgoes (hpasses (hiff.mp hunrotated))).1
    · exact ⟨next, updated, (hgoes (hpasses (hiff.mp hunrotated))).2⟩
  · obtain ⟨hcontinues, hsession⟩ := hgoes (by
      unfold serve
      rw [if_neg hmutating])
    exact ⟨iff_of_true hcontinues fun _ h => absurd h hmutating, fun _ => ⟨next, updated, hsession⟩⟩

/-- **Requests one after the other.** -/
theorem InSession.continues_iff
    (hstable : stableOrigin ≠ "") (horigin : normalizedOrigin urls stableOrigin = some origin) :
    ∀ {requests : List BrowserRequest} {b : Browser} {cookie : String} {row : OperatorSessionRecord},
    InSession service sessionId requests b cookie row →
    b.Along urls service stableOrigin (Browser.Served sessionId) requests →
    (∀ r ∈ requests, r.env.tokenUrlsafe ≠ "") →
    (requests.map (·.env.tokenUrlsafe)).Nodup →
    (b.Along urls service stableOrigin (Browser.Continues urls service stableOrigin sessionId) requests ↔
      b.Along urls service stableOrigin (Browser.Unrotated service stableOrigin sessionId) requests)
  | [], _, _, _, _, _, _, _ => Iff.rfl
  | r :: rest, b, cookie, row, h, hserved, hdraws, hnodup => by
    rw [List.map_cons, List.nodup_cons] at hnodup
    obtain ⟨hiff, hnext⟩ := h.step hstable horigin hserved.1 (hdraws r (List.mem_cons_self ..))
      fun other hother hsame => hnodup.1 (List.mem_map.mpr ⟨other, hother, hsame⟩)
    have hrest : b.Unrotated service stableOrigin sessionId r →
        ((b.send urls service stableOrigin r).Along urls service stableOrigin
          (Browser.Continues urls service stableOrigin sessionId) rest ↔
        (b.send urls service stableOrigin r).Along urls service stableOrigin
          (Browser.Unrotated service stableOrigin sessionId) rest) := by
      intro hunrotated
      obtain ⟨cookie, row, hsession⟩ := hnext hunrotated
      exact hsession.continues_iff hstable horigin hserved.2
        (fun other hother => hdraws other (List.mem_cons_of_mem r hother)) hnodup.2
    unfold Browser.Along
    rw [hiff]
    exact and_congr_right hrest

/-- **The session of a browser goes on exactly while** no mutating request comes at a rotation,
or with a CSRF token from before one. -/
theorem session_continues_iff {s : SessionStore} (hreachable : Reachable service s)
    {record : OperatorSessionRecord} (hrecord : record ∈ s.sessions.rows) {cookie : String}
    (hcookie : cookie ≠ "") (htoken : record.sessionTokenSha256 = service.sha256 cookie)
    (hunrevoked : record.revokedAt = none) (hstable : stableOrigin ≠ "")
    (horigin : normalizedOrigin urls stableOrigin = some origin) {requests : List BrowserRequest}
    (hdraws : ∀ r ∈ requests, r.env.tokenUrlsafe ≠ "" ∧ ¬ s.Holds (service.sha256 r.env.tokenUrlsafe))
    (hdistinct : (requests.map (·.env.tokenUrlsafe)).Nodup)
    (hserved : Browser.Along urls service stableOrigin (Browser.Served record.sessionId)
      ⟨s, some cookie, none⟩ requests) :
    Browser.Along urls service stableOrigin
        (Browser.Continues urls service stableOrigin record.sessionId) ⟨s, some cookie, none⟩ requests ↔
      Browser.Along urls service stableOrigin
        (Browser.Unrotated service stableOrigin record.sessionId) ⟨s, some cookie, none⟩ requests :=
  InSession.continues_iff hstable horigin
    ⟨hreachable.wellFormed, rfl, hcookie, hrecord, rfl, htoken, hunrevoked,
      fun r hr => (hdraws r hr).2, nofun⟩
    hserved (fun r hr => (hdraws r hr).1) hdistinct

end

namespace Sample

/-- A library for the stable origin. -/
def splitUrls : UrlLibrary where
  urlsplit _ := some ⟨"https", "agent", some "agent", none, none, some none⟩
  encodeIdna host := some host
  lower text := text

/-- The browser after its login. -/
def browser : Browser := ⟨store, some "token-1", none⟩

/-- The requests of the browser: it gets a projection, sends a command when the claims are an
hour old, and asks for a projection again. -/
def first : BrowserRequest :=
  ⟨answers (seconds 60) 1 "token-2", seconds 60, "GET", "/api/auth/session"⟩

def command : BrowserRequest :=
  ⟨answers (seconds 3600) 1 "token-3", seconds 3600, "POST", "/api/runs"⟩

def last : BrowserRequest :=
  ⟨answers (seconds 3660) 1 "token-4", seconds 3660, "GET", "/api/auth/session"⟩

/-- The browser after some requests. -/
def visited (requests : List BrowserRequest) : Browser :=
  requests.foldl (Browser.send splitUrls digests "https://agent") browser

/-- The session after a resolution. -/
def renewed (record : OperatorSessionRecord) (env : Collaborators) (cookie : String)
    (now claimsVerifiedAt : Instant) : OperatorSessionRecord :=
  nextRecord digests env record cookie now ⟨operator claimsVerifiedAt, ⟨"material", "v1"⟩, false⟩

def firstSession : OperatorSessionRecord :=
  renewed session first.env "token-1" first.now 0

def commandSession : OperatorSessionRecord :=
  renewed firstSession command.env "token-3" command.now command.now

theorem store_tokens {tokenSha256 : String} (h : store.Holds tokenSha256) :
    tokenSha256 = "token-1" := by
  obtain ⟨row, hrow, rfl⟩ := h
  rw [store_rows] at hrow
  cases List.mem_singleton.mp hrow
  rfl

theorem first_rows : (visited [first]).store.sessions.rows = [firstSession] := by
  rfl

theorem command_rows : (visited [first, command]).store.sessions.rows = [commandSession] := by
  rfl

theorem visit_served : browser.Along splitUrls digests "https://agent"
    (Browser.Served session.sessionId) [first, command, last] := by
  refine ⟨⟨rfl, fun row hrow _ => ?_⟩, ⟨rfl, fun row hrow _ => ?_⟩, ⟨rfl, fun row hrow _ => ?_⟩,
    trivial⟩
  · have hmem : row ∈ [session] := store_rows ▸ hrow
    cases List.mem_singleton.mp hmem
    exact ⟨by decide, by decide, ⟨_, rfl⟩, fun _ => ⟨_, _, rfl, rfl, rfl⟩⟩
  · have hmem : row ∈ [firstSession] := first_rows ▸ hrow
    cases List.mem_singleton.mp hmem
    exact ⟨by decide, by decide, ⟨_, rfl⟩, fun _ => ⟨_, _, rfl, rfl, rfl⟩⟩
  · have hmem : row ∈ [commandSession] := command_rows ▸ hrow
    cases List.mem_singleton.mp hmem
    exact ⟨by decide, by decide, ⟨_, rfl⟩, fun _ => ⟨_, _, rfl, rfl, rfl⟩⟩

end Sample

theorem visit_continues_iff :
    Sample.browser.Along Sample.splitUrls Sample.digests "https://agent"
        (Browser.Continues Sample.splitUrls Sample.digests "https://agent" Sample.session.sessionId)
        [Sample.first, Sample.command, Sample.last] ↔
      Sample.browser.Along Sample.splitUrls Sample.digests "https://agent"
        (Browser.Unrotated Sample.digests "https://agent" Sample.session.sessionId)
        [Sample.first, Sample.command, Sample.last] := by
  refine session_continues_iff Sample.store_reachable Sample.session_mem (by decide) rfl rfl
    (by decide) rfl (fun r hr => ?_) (by decide) Sample.visit_served
  simp only [List.mem_cons, List.not_mem_nil, or_false] at hr
  rcases hr with rfl | rfl | rfl
  · exact ⟨by decide, fun h => absurd (Sample.store_tokens h) (by decide)⟩
  · exact ⟨by decide, fun h => absurd (Sample.store_tokens h) (by decide)⟩
  · exact ⟨by decide, fun h => absurd (Sample.store_tokens h) (by decide)⟩

/-- A command at a rotation is refused, and the browser is logged out. -/
theorem command_at_rotation :
    Sample.browser.Along Sample.splitUrls Sample.digests "https://agent"
      (Browser.Served Sample.session.sessionId) [Sample.first, Sample.command, Sample.last] ∧
    ((Sample.visited [Sample.first]).exchange Sample.splitUrls Sample.digests "https://agent"
      Sample.command).1 = .ok (.rejected 403 "csrf_token_rejected" false) ∧
    ((Sample.visited [Sample.first, Sample.command]).exchange Sample.splitUrls Sample.digests
      "https://agent" Sample.last).1 = .ok (.rejected 401 "authentication_required" true) :=
  ⟨Sample.visit_served, rfl, rfl⟩

end ProofAgent.Sessions
