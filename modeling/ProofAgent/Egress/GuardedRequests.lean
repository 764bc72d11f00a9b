import ProofAgent.Egress.GuardedHttp
import ProofAgent.Base.Emits
import ProofAgent.Base.Trails

/-! # What a guarded request sends

Every send follows the answers that it is admitted by, its headers are among those of every
send before it, and sensitive ones among them only while the origin has stayed the same. -/
namespace ProofAgent.Egress

open Base

variable (library : EgressLibrary) (policy : CompiledEgressPolicy)

/-! ## Lawful sends -/

/-- The sends of a list of events. -/
def sends (events : List WireEvent) : List Send :=
  events.filterMap fun
    | .sent send _ => some send
    | _ => none

/-- A send that comes right after the answers that it is admitted by. -/
def Admitted (before : List WireEvent) (send : Send) : Prop :=
  ∃ origin rule answers earlier, before = earlier ++ [.resolved origin.host origin.port (.ok answers)] ∧
    (∃ parts, library.urlsplit send.url = some parts ∧ library.lower parts.scheme = "https") ∧
    originFromUrl library send.url = .ok origin ∧ rule ∈ policy.rules ∧ rule.origin = origin ∧
    send.tlsHostname = origin.host ∧
    (∀ value ∈ answers, ∃ address, library.ipAddress value = some address ∧
      ∃ ipNetwork ∈ rule.networks, ipNetwork.contains address = true) ∧
    ∃ value ∈ answers, ∃ address, library.ipAddress value = some address ∧
      send.connectAddress = library.addressText address

/-- Whether some header is listed as sensitive. -/
def Sensitive (headers : Headers) : Prop := ∃ header ∈ headers, isSensitive library header = true

/-- What a send has to do with the events before it. -/
structure LawfulSend (before : List WireEvent) (send : Send) : Prop where
  admitted : Admitted library policy before send
  headers : ∀ earlier ∈ sends before, send.headers.Sublist earlier.headers
  sensitive : Sensitive library send.headers → ∀ earlier ∈ sends before,
    originFromUrl library earlier.url = originFromUrl library send.url

/-- An event after the ones before it. -/
def Lawful (before : List WireEvent) : WireEvent → Prop
  | .sent send _ => LawfulSend library policy before send
  | _ => True

/-- What has been shown up to an attempt of a hop, with a bound on the sends. -/
structure HopShown (hop : Hop) (bound : Nat) (events : List WireEvent) : Prop where
  lawful : Justified (Lawful library policy) events
  bounded : (sends events).length ≤ bound
  headers : ∀ earlier ∈ sends events, hop.headers.Sublist earlier.headers
  sensitive : Sensitive library hop.headers → ∀ earlier ∈ sends events,
    originFromUrl library earlier.url = originFromUrl library hop.url

/-- The events of an attempt that sends. -/
def SentOnce (hop : Hop) (origin : ExactHttpsOrigin) (events : List WireEvent) : Prop :=
  ∃ answers send outcome,
    events = [.resolved origin.host origin.port (.ok answers), .sent send outcome] ∧
    send.url = hop.url ∧ send.headers = hop.headers ∧
    Admitted library policy [.resolved origin.host origin.port (.ok answers)] send

/-- The events of the attempts of a hop, of which at most `n` send. -/
inductive Attempted (hop : Hop) (origin : ExactHttpsOrigin) : Nat → List WireEvent → Prop where
  | stopped {n : Nat} {events : List WireEvent} (h : ∀ e ∈ events, ∃ answers,
      e = .resolved origin.host origin.port answers) : Attempted hop origin n events
  | sent {n : Nat} {once events : List WireEvent} (h : SentOnce library policy hop origin once)
      (rest : Attempted hop origin n events) : Attempted hop origin (n + 1) (once ++ events)

section
variable {library} {policy} {hop : Hop} {origin : ExactHttpsOrigin} {n : Nat}
  {events more : List WireEvent}

theorem sends_append (events more : List WireEvent) : sends (events ++ more) = sends events ++ sends more :=
  List.filterMap_append

/-- More events before a send keep it admitted. -/
theorem Admitted.after {before : List WireEvent} {send : Send} (h : Admitted library policy before send)
    (events : List WireEvent) : Admitted library policy (events ++ before) send := by
  obtain ⟨origin, rule, answers, earlier, rfl, hrest⟩ := h
  exact ⟨origin, rule, answers, events ++ earlier, (List.append_assoc ..).symm, hrest⟩

/-- An attempt that sends. -/
theorem HopShown.sentOnce (h : HopShown library policy hop n events)
    (hsent : SentOnce library policy hop origin more) :
    HopShown library policy hop (n + 1) (events ++ more) := by
  obtain ⟨answers, send, outcome, rfl, hurl, hheaders, hadmitted⟩ := hsent
  have hsends : sends (events ++ [.resolved origin.host origin.port (.ok answers),
      .sent send outcome]) = sends events ++ [send] := by
    rw [sends_append]
    rfl
  have hbefore : sends (events ++ [.resolved origin.host origin.port (.ok answers)]) =
      sends events := by
    rw [sends_append]
    exact List.append_nil _
  refine ⟨?_, ?_, fun earlier hearlier => ?_, fun hsensitive earlier hearlier => ?_⟩
  · have hresolved : Justified (Lawful library policy)
        (events ++ [.resolved origin.host origin.port (.ok answers)]) := h.lawful.concat trivial
    have hsend : LawfulSend library policy
        (events ++ [.resolved origin.host origin.port (.ok answers)]) send := by
      refine ⟨hadmitted.after events, ?_, ?_⟩
      · rw [hbefore, hheaders]
        exact h.headers
      · rw [hbefore, hheaders, hurl]
        exact h.sensitive
    have hlawful : Justified (Lawful library policy)
        (events ++ [.resolved origin.host origin.port (.ok answers)] ++ [.sent send outcome]) :=
      hresolved.concat hsend
    rw [List.append_assoc] at hlawful
    exact hlawful
  · rw [hsends, List.length_append]
    exact Nat.add_le_add_right h.bounded 1
  · rw [hsends, List.mem_append, List.mem_singleton] at hearlier
    rcases hearlier with hearlier | rfl
    · exact h.headers earlier hearlier
    · rw [hheaders]
  · rw [hsends, List.mem_append, List.mem_singleton] at hearlier
    rcases hearlier with hearlier | rfl
    · exact h.sensitive hsensitive earlier hearlier
    · rw [hurl]

/-- Events without a send. -/
def Unsent (events : List WireEvent) : Prop := ∀ e ∈ events, ∀ send outcome, e ≠ .sent send outcome

theorem Unsent.sends_append (h : Unsent more) (events : List WireEvent) :
    sends (events ++ more) = sends events := by
  have hnone : sends more = [] := by
    unfold sends
    rw [List.filterMap_eq_nil_iff]
    intro e he
    cases e with
    | sent send outcome => exact absurd rfl (h _ he send outcome)
    | resolved | audited => rfl
  rw [Egress.sends_append, hnone, List.append_nil]

theorem Unsent.lawful (h : Unsent more) (hevents : Justified (Lawful library policy) events) :
    Justified (Lawful library policy) (events ++ more) := by
  induction more using List.reverseRecOn with
  | nil =>
    rw [List.append_nil]
    exact hevents
  | append_singleton more e ih =>
    rw [← List.append_assoc]
    refine (ih fun e' he' => h e' (List.mem_append_left _ he')).concat ?_
    cases e with
    | sent send outcome =>
      exact absurd rfl (h _ (List.mem_append_right _ (List.mem_singleton_self _)) send outcome)
    | resolved | audited => trivial

theorem HopShown.unsent (h : HopShown library policy hop n events) (hmore : Unsent more) :
    HopShown library policy hop n (events ++ more) := by
  have hsends := hmore.sends_append events
  exact ⟨hmore.lawful h.lawful, hsends ▸ h.bounded, hsends ▸ h.headers, hsends ▸ h.sensitive⟩

/-- **The attempts of a hop.** -/
theorem HopShown.attempted {k : Nat} (hattempted : Attempted library policy hop origin k more) :
    ∀ {n : Nat} {events : List WireEvent}, HopShown library policy hop n events →
      HopShown library policy hop (n + k) (events ++ more) := by
  induction hattempted with
  | stopped hstop =>
    intro n events h
    have hunsent := h.unsent fun e he send outcome hsent => by
      obtain ⟨answers, rfl⟩ := hstop e he
      cases hsent
    exact { hunsent with bounded := hunsent.bounded.trans (Nat.le_add_right _ _) }
  | sent honce _ ih =>
    intro n events h
    have hrest := ih (h.sentOnce honce)
    rw [List.append_assoc, Nat.add_assoc, Nat.add_comm 1] at hrest
    exact hrest

/-! ## One hop -/

variable {σ : Type} (network : Network σ) (client : GuardedHttpsClient) {timeoutSeconds : PyFloat}

/-- The events of a computation are what it adds. -/
def wireTracing (σ : Type) : Tracing (Wire σ) WireEvent where
  ran s t events := t.events = s.events ++ events
  refl s := (List.append_nil _).symm
  trans h h' := by rw [h', h, List.append_assoc]

theorem resolveHost_emits : Emits (wireTracing σ) (resolveHost network origin timeoutSeconds)
    (fun answers ev => ev = [.resolved origin.host origin.port (.ok answers)])
    (fun ev => ∃ answers, ev = [.resolved origin.host origin.port answers]) := by
  intro wire
  unfold resolveHost
  rcases network.resolve origin.host origin.port timeoutSeconds wire.network with ⟨e | answers, state⟩
  · refine ⟨fun _ _ hr => (nomatch hr), fun _ _ hr => ?_⟩
    cases hr
    exact ⟨_, rfl, _, rfl⟩
  · refine ⟨fun _ _ hr => ?_, fun _ _ hr => (nomatch hr)⟩
    cases hr
    exact ⟨_, rfl, rfl⟩

theorem sendRequest_emits (send : Send) : Emits (wireTracing σ) (sendRequest network send)
    (fun response ev => ev = [.sent send (.ok response)])
    (fun ev => ∃ outcome, ev = [.sent send outcome]) := by
  intro wire
  unfold sendRequest
  rcases network.send send wire.network with ⟨e | response, state⟩
  · refine ⟨fun _ _ hr => (nomatch hr), fun _ _ hr => ?_⟩
    cases hr
    exact ⟨_, rfl, _, rfl⟩
  · refine ⟨fun _ _ hr => ?_, fun _ _ hr => (nomatch hr)⟩
    cases hr
    exact ⟨_, rfl, rfl⟩

/-- What is sent to an admitted address. -/
theorem hopSend_admitted {answers : List String} {admitted : AdmittedEgressHop}
    (horigin : client.policy.authorizeOrigin library hop.url = .ok origin)
    (h : client.policy.admit library hop.url answers = .ok admitted) :
    Admitted library client.policy [.resolved origin.host origin.port (.ok answers)]
      (hopSend client hop timeoutSeconds admitted) := by
  obtain ⟨hsame, rule, hrule, hruleOrigin, hvalues, first, rest, haddresses, hfirst⟩ := admit_ok h
  have heq : admitted.origin = origin := Except.ok.inj (hsame.symm.trans horigin)
  refine ⟨origin, rule, answers, [], rfl, originFromUrl_https (authorizeOrigin_ok horigin).1,
    (authorizeOrigin_ok horigin).1, hrule, hruleOrigin.trans heq, congrArg ExactHttpsOrigin.host heq, fun value hvalue => ?_, ?_⟩
  · obtain ⟨address, haddress, hallowed⟩ := hvalues value hvalue
    exact ⟨address, haddress, List.any_eq_true.mp hallowed⟩
  · unfold hopSend
    rw [haddresses]
    exact hfirst

theorem attemptHop_emits (horigin : client.policy.authorizeOrigin library hop.url = .ok origin) :
    Emits (wireTracing σ) (attemptHop library network client hop timeoutSeconds origin)
      (fun _ ev => SentOnce library client.policy hop origin ev)
      (Attempted library client.policy hop origin 1) := by
  have hstop : ∀ answers, Attempted library client.policy hop origin 1
      [.resolved origin.host origin.port answers] := fun answers =>
    .stopped fun e he => ⟨answers, List.mem_singleton.mp he⟩
  unfold attemptHop
  refine (resolveHost_emits network).bind (fun ev he => ?_) fun answers ev hev => ?_
  · obtain ⟨answers, rfl⟩ := he
    exact hstop answers
  subst hev
  refine Emits.require.quietly (hstop _) fun _ _ => ?_
  refine Emits.ofExcept.quietly (hstop _) fun admitted hadmitted => ?_
  have hsend : Admitted library client.policy [.resolved origin.host origin.port (.ok answers)]
      (hopSend client hop timeoutSeconds admitted) := hopSend_admitted client horigin hadmitted
  refine (sendRequest_emits network _).conseq (fun response ev hev => ?_) fun ev hev => ?_
  · subst hev
    exact ⟨answers, _, _, rfl, rfl, rfl, hsend⟩
  · obtain ⟨outcome, rfl⟩ := hev
    have honce : SentOnce library client.policy hop origin
        [.resolved origin.host origin.port (.ok answers),
          .sent (hopSend client hop timeoutSeconds admitted) outcome] :=
      ⟨answers, _, outcome, rfl, rfl, rfl, hsend⟩
    have hrest : Attempted library client.policy hop origin 0 [] :=
      .stopped fun _ h => absurd h List.not_mem_nil
    have hattempted := Attempted.sent honce hrest
    exact hattempted

theorem Attempted.mono {k : Nat} (h : Attempted library policy hop origin k events) :
    ∀ {n : Nat}, k ≤ n → Attempted library policy hop origin n events := by
  induction h with
  | stopped hstop => exact fun _ => .stopped hstop
  | sent honce _ ih =>
    intro n hle
    obtain ⟨m, rfl⟩ : ∃ m, n = m + 1 := ⟨n - 1, by omega⟩
    exact .sent honce (ih (by omega))

theorem attempts_emits (horigin : client.policy.authorizeOrigin library hop.url = .ok origin) :
    ∀ left, Emits (wireTracing σ) (attempts library network client hop timeoutSeconds origin left)
      (fun _ => Attempted library client.policy hop origin left)
      (Attempted library client.policy hop origin left)
  | 0 => Emits.raise (.stopped fun _ h => absurd h List.not_mem_nil)
  | left + 1 => by
    have hnone : Attempted library client.policy hop origin left [] :=
      .stopped fun _ h => absurd h List.not_mem_nil
    unfold attempts
    refine (attemptHop_emits network client horigin).bind
      (fun ev he => he.mono (Nat.le_add_left 1 left)) fun response ev hev => ?_
    refine Emits.ite (fun _ => .ret (.sent hev hnone)) fun _ => ?_
    refine Emits.ite (fun _ => .ret (.sent hev hnone)) fun _ => ?_
    exact (attempts_emits horigin left).conseq (fun _ _ h => .sent hev h) fun _ h => .sent hev h

theorem requestHop_emits :
    Emits (wireTracing σ) (requestHop library network client hop timeoutSeconds)
      (fun _ ev => ∃ origin, Attempted library client.policy hop origin client.maxAttemptsPerHop ev)
      (fun ev => ev = [] ∨
        ∃ origin, Attempted library client.policy hop origin client.maxAttemptsPerHop ev) := by
  unfold requestHop
  refine Emits.ofExcept.quietly (.inl rfl) fun origin horigin => ?_
  exact (attempts_emits network client horigin _).conseq (fun _ _ h => ⟨origin, h⟩)
    fun _ h => .inr ⟨origin, h⟩

/-! ## A request -/

/-- What has been shown before a hop. -/
def HopBefore (library : EgressLibrary) (client : GuardedHttpsClient) (hop : Hop)
    (events : List WireEvent) : Prop :=
  hop.redirects ≤ client.maxRedirects ∧
    HopShown library client.policy hop (hop.redirects * client.maxAttemptsPerHop) events

/-- What a request has shown when it is over. -/
def RequestShown (library : EgressLibrary) (client : GuardedHttpsClient) (events : List WireEvent) : Prop :=
  Justified (Lawful library client.policy) events ∧
    (sends events).length ≤ (client.maxRedirects + 1) * client.maxAttemptsPerHop

variable {client}

theorem HopBefore.shown (h : HopBefore library client hop events)
    (hattempted : Attempted library client.policy hop origin client.maxAttemptsPerHop more) :
    HopShown library client.policy hop ((hop.redirects + 1) * client.maxAttemptsPerHop)
      (events ++ more) := by
  rw [Nat.succ_mul]
  exact h.2.attempted hattempted

theorem HopShown.request (hredirects : hop.redirects ≤ client.maxRedirects)
    (h : HopShown library client.policy hop ((hop.redirects + 1) * client.maxAttemptsPerHop) events) :
    RequestShown library client events :=
  ⟨h.lawful, h.bounded.trans (Nat.mul_le_mul_right _ (Nat.succ_le_succ hredirects))⟩

theorem HopBefore.start (hredirects : hop.redirects ≤ client.maxRedirects) :
    HopBefore library client hop [] :=
  ⟨hredirects, .nil, Nat.zero_le _, fun _ h => absurd h List.not_mem_nil,
    fun _ _ h => absurd h List.not_mem_nil⟩

theorem HopBefore.request (h : HopBefore library client hop events) :
    RequestShown library client events :=
  ⟨h.2.lawful, h.2.bounded.trans (Nat.mul_le_mul_right _ (h.1.trans (Nat.le_succ _)))⟩

/-- The headers of the next hop are among those of this one, and sensitive ones among them
only where the origin is the same. -/
theorem redirectedHeaders_sublist (library : EgressLibrary) (currentOrigin nextOrigin : ExactHttpsOrigin)
    (headers : Headers) :
    (redirectedHeaders library currentOrigin nextOrigin headers).Sublist headers ∧
      (Sensitive library (redirectedHeaders library currentOrigin nextOrigin headers) →
        currentOrigin = nextOrigin) := by
  unfold redirectedHeaders
  by_cases hsame : currentOrigin = nextOrigin
  · rw [if_neg (not_not.mpr hsame)]
    exact ⟨.refl _, fun _ => hsame⟩
  · rw [if_pos hsame]
    refine ⟨List.filter_sublist, fun ⟨header, hheader, hsensitive⟩ => ?_⟩
    have hkept := (List.mem_filter.mp hheader).2
    rw [hsensitive] at hkept
    cases hkept

theorem nextHop_spec (library : EgressLibrary) (hop : Hop) (statusCode : Int) (nextUrl : String)
    (currentOrigin nextOrigin : ExactHttpsOrigin) :
    let next := nextHop library hop statusCode nextUrl currentOrigin nextOrigin
    next.url = nextUrl ∧ next.redirects = hop.redirects + 1 ∧ next.headers.Sublist hop.headers ∧
      (Sensitive library next.headers → currentOrigin = nextOrigin) := by
  obtain ⟨hsublist, hsensitive⟩ := redirectedHeaders_sublist library currentOrigin nextOrigin hop.headers
  unfold nextHop
  dsimp only
  split
  · refine ⟨rfl, rfl, List.filter_sublist.trans hsublist, fun ⟨header, hheader, h⟩ => ?_⟩
    exact hsensitive ⟨header, List.mem_of_mem_filter hheader, h⟩
  · exact ⟨rfl, rfl, hsublist, hsensitive⟩

/-- A redirect that is followed. -/
theorem redirectHop_ok {next : Hop} {statusCode : Int} {location : String}
    (h : redirectHop library client hop statusCode location = .ok next) :
    hop.redirects < client.maxRedirects ∧ ∃ nextUrl currentOrigin nextOrigin,
      client.policy.authorizeOrigin library hop.url = .ok currentOrigin ∧
      client.policy.authorizeOrigin library nextUrl = .ok nextOrigin ∧
      next = nextHop library hop statusCode nextUrl currentOrigin nextOrigin := by
  unfold redirectHop at h
  by_cases hlimit : client.maxRedirects ≤ hop.redirects
  · rw [if_pos hlimit] at h
    cases h
  rw [if_neg hlimit] at h
  cases hjoin : joinUrl library hop.url location with
  | error e =>
    rw [hjoin] at h
    cases h
  | ok nextUrl =>
    rw [hjoin] at h
    cases hcurrent : client.policy.authorizeOrigin library hop.url with
    | error e =>
      rw [hcurrent] at h
      cases h
    | ok currentOrigin =>
      rw [hcurrent] at h
      cases hnext : client.policy.authorizeOrigin library nextUrl with
      | error e =>
        change (client.policy.authorizeOrigin library nextUrl >>= _) = _ at h
        rw [hnext] at h
        cases h
      | ok nextOrigin =>
        change (client.policy.authorizeOrigin library nextUrl >>= _) = _ at h
        rw [hnext] at h
        cases h
        exact ⟨Nat.lt_of_not_le hlimit, nextUrl, currentOrigin, nextOrigin, rfl, hnext, rfl⟩

/-- **From one hop to the next.** -/
theorem HopShown.next {next : Hop} {statusCode : Int} {location : String}
    (h : HopShown library client.policy hop ((hop.redirects + 1) * client.maxAttemptsPerHop) events)
    (hnext : redirectHop library client hop statusCode location = .ok next) :
    HopBefore library client next events ∧ next.redirects = hop.redirects + 1 := by
  obtain ⟨hredirects, nextUrl, currentOrigin, nextOrigin, hcurrent, hallowed, rfl⟩ := redirectHop_ok hnext
  obtain ⟨hurl, hcount, hsublist, hsensitive⟩ :=
    nextHop_spec library hop statusCode nextUrl currentOrigin nextOrigin
  unfold HopBefore
  rw [hcount]
  refine ⟨⟨hredirects, h.lawful, h.bounded,
    fun earlier hearlier => hsublist.trans (h.headers earlier hearlier),
    fun hcarries earlier hearlier => ?_⟩, rfl⟩
  have hsame := hsensitive hcarries
  have hbefore : Sensitive library hop.headers := by
    obtain ⟨header, hheader, hlisted⟩ := hcarries
    exact ⟨header, hsublist.subset hheader, hlisted⟩
  rw [hurl, (authorizeOrigin_ok hallowed).1, h.sensitive hbefore earlier hearlier,
    (authorizeOrigin_ok hcurrent).1, hsame]

theorem requestRound_emits (h : HopBefore library client hop events) :
    Emits (wireTracing σ) (requestRound library network client timeoutSeconds hop)
      (fun r ev => Sum.elim
        (fun next => HopBefore library client next (events ++ ev) ∧
          next.redirects = hop.redirects + 1)
        (fun _ => RequestShown library client (events ++ ev)) r)
      (fun ev => RequestShown library client (events ++ ev)) := by
  unfold requestRound
  refine (requestHop_emits network client).bind (fun ev he => ?_) fun response ev hev => ?_
  · rcases he with rfl | ⟨origin, hattempted⟩
    · rw [List.append_nil]
      exact h.request
    · exact (h.shown hattempted).request h.1
  obtain ⟨origin, hattempted⟩ := hev
  have hshown := h.shown hattempted
  have hdone : RequestShown library client (events ++ (ev ++ [])) := by
    rw [List.append_nil]
    exact hshown.request h.1
  refine Emits.ite (fun _ => .ret hdone) fun _ => ?_
  cases header library response.headers "location" with
  | none => exact .ret hdone
  | some location =>
    refine Emits.ofExcept.quietly hdone fun next hnext => .ret ?_
    rw [List.append_nil]
    exact hshown.next hnext

theorem auditDenial_emits {α : Type} (e : EgressError) :
    Emits (wireTracing σ) (auditDenial client e : WireCall σ α) (fun _ _ => False) Unsent := by
  have hraise : ∀ e : EgressError, Emits (wireTracing σ) (Effect.raise e : WireCall σ α)
      (fun _ _ => False) Unsent :=
    fun _ => .raise fun _ h => absurd h List.not_mem_nil
  cases e with
  | value | assertion | transport => exact hraise _
  | denied reasonCode origin =>
    unfold auditDenial
    dsimp only
    by_cases haudited : client.audited = true
    · rw [if_pos haudited]
      have haudit : Emits (wireTracing σ) (Effect.modify fun wire : Wire σ => { wire with
          events := wire.events ++ [.audited reasonCode origin] } : WireCall σ Unit)
          (fun _ ev => ev = [.audited reasonCode origin]) fun ev => False := Emits.modify fun _ => rfl
      refine haudit.bind (fun _ he => he.elim) fun _ ev hev => ?_
      subst hev
      refine .raise fun x hx send outcome hsent => ?_
      rw [List.append_nil, List.mem_singleton] at hx
      rw [hx] at hsent
      cases hsent
    · rw [if_neg haudited]
      exact hraise _

/-- **A request shows** lawful sends only, as many as its hops have attempts. -/
theorem request_emits (fuel : Nat) (method url : String) (headers : Headers) (body : Option String) :
    Emits (wireTracing σ) (request library network client fuel method url headers body timeoutSeconds)
      (fun _ => RequestShown library client) (RequestShown library client) := by
  have hstart : RequestShown library client [] := ⟨.nil, Nat.zero_le _⟩
  unfold request
  refine Emits.require.quietly hstart fun _ _ => ?_
  refine Emits.ofExcept.quietly hstart fun method _ => ?_
  refine Emits.ofExcept.quietly hstart fun headers _ => ?_
  refine Emits.attempt (E := RequestShown library client) ?_ fun e ev he => ?_
  · have hstart : HopBefore library client ⟨method, url, headers, body, 0⟩ [] :=
      .start (Nat.zero_le _)
    have hround : ∀ hop ev, HopBefore library client hop ev → Emits (wireTracing σ)
        (requestRound library network client timeoutSeconds hop)
        (fun r ev' => Sum.elim (fun next => HopBefore library client next (ev ++ ev'))
          (fun _ => RequestShown library client (ev ++ ev')) r)
        (fun ev' => RequestShown library client (ev ++ ev')) := by
      intro hop ev h
      refine (requestRound_emits network h).conseq (fun r ev' hr => ?_) fun _ he => he
      cases r with
      | inl next => exact hr.1
      | inr response => exact hr
    refine (Emits.loop hround fuel _ [] hstart).conseq (fun r ev h => ?_) fun ev h => h
    rcases h with ⟨hop, _, hbefore⟩ | ⟨_, _, hdone⟩
    · exact hbefore.request
    · exact hdone
  · refine (auditDenial_emits e).conseq (fun _ _ h => h.elim) fun ev' hev' => ?_
    unfold RequestShown
    rw [hev'.sends_append]
    exact ⟨hev'.lawful he.1, he.2⟩

end

end ProofAgent.Egress
