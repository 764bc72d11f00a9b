import Mathlib.Data.List.Find
import ProofAgent.Base.VersionRaces
import ProofAgent.Security.SessionMiddleware

/-! # Requests of one page

The requests of a page carry one cookie. Each of them reads the session and writes its
next version, so they race for the version: the requests that overlap with another one
cost one of the two its write, and what is raised then is not what the middleware
catches. -/
namespace ProofAgent.Sessions

open Base

variable (service : SessionService)

/-! ## Requests with one cookie -/

/-- A request, with what its collaborators answer. -/
structure ParallelRequest where
  env : Collaborators
  now : Instant

/-- The session is valid for a request, and no rotation of it is due. -/
structure Settled (record : OperatorSessionRecord) (request : ParallelRequest) : Prop where
  fresh : request.now - record.claimsVerifiedAt < claimFreshness
  epoch : request.env.permissionEpoch = record.permissionEpoch
  storedEpoch : request.env.storedPermissionEpoch = record.permissionEpoch
  decrypts : ∃ material, request.env.decrypt record.providerTokenEnvelope
    record.envelopeKeyVersion ("oidc-session:" ++ record.sessionId) = .ok material
  unrevoked : record.revokedAt = none
  absolute : request.now < record.absoluteExpiresAt
  idle : request.now < record.idleExpiresAt

/-- The pool of requests with one cookie. -/
def parallel (s : SessionStore) (cookieToken : String) (requests : List ParallelRequest) :
    Pool SessionStore SessionError SessionResolution :=
  ⟨s, requests.map fun request => resolveSession service request.env cookieToken request.now⟩

/-- The claims of a session that is not refreshed. -/
def keptClaims (record : OperatorSessionRecord) : SessionClaims :=
  ⟨record.principal, ⟨record.providerTokenEnvelope, record.envelopeKeyVersion⟩, false⟩

/-- The session of a row, after some of the requests have been served. -/
structure Renewed (record : OperatorSessionRecord) (requests : List ParallelRequest)
    (row : OperatorSessionRecord) : Prop where
  kept : row = { record with
    sessionVersion := row.sessionVersion
    permissionMappingVersionId := row.permissionMappingVersionId
    idleExpiresAt := row.idleExpiresAt }
  idle : ∀ request ∈ requests, request.now < row.idleExpiresAt

section
variable {service} {record row : OperatorSessionRecord} {requests : List ParallelRequest}
  {request : ParallelRequest} {cookieToken : String}

/-- What a request does with the session that it reads: it writes the next version. -/
theorem resolveRecord_settled (hrow : Renewed record requests row) (hrequest : request ∈ requests)
    (hsettled : Settled record request) :
    resolveRecord service request.env cookieToken request.now (some row) =
      renew service request.env row cookieToken request.now (keptClaims row) := by
  obtain ⟨material, hdecrypts⟩ := hsettled.decrypts
  have hidle := hrow.idle request hrequest
  have hkept := hrow.kept
  have habsolute : row.absoluteExpiresAt = record.absoluteExpiresAt := by rw [hkept]
  have hclaims : row.claimsVerifiedAt = record.claimsVerifiedAt := by rw [hkept]
  have hrevoked : row.revokedAt = record.revokedAt := by rw [hkept]
  have hdecrypt : request.env.decrypt row.providerTokenEnvelope row.envelopeKeyVersion
      ("oidc-session:" ++ row.sessionId) = .ok material := by
    rw [hkept]
    exact hdecrypts
  have hlive : ¬ (row.absoluteExpiresAt ≤ request.now ∨ row.idleExpiresAt ≤ request.now) := by
    rw [not_or, not_le, not_le, habsolute]
    exact ⟨hsettled.absolute, hidle⟩
  have hcurrent : currentClaims request.env row (service.sha256 cookieToken) request.now material =
      pure (keptClaims row) := by
    unfold currentClaims
    rw [if_neg (by rw [not_le, hclaims]; exact hsettled.fresh)]
    rfl
  unfold resolveRecord
  dsimp only
  rw [hrevoked, hsettled.unrevoked, if_neg (by simp), if_neg hlive, hdecrypt]
  dsimp only
  rw [hcurrent]
  rfl

theorem rotates_settled (hrow : Renewed record requests row) (hsettled : Settled record request) :
    rotates request.env row (keptClaims row) = false := by
  have hepoch : row.permissionEpoch = record.permissionEpoch := by rw [hrow.kept]
  unfold rotates keptClaims
  simp [hepoch, hsettled.epoch]

/-- The row that a request writes. -/
theorem Renewed.next (hrow : Renewed record requests row) (hsettled : Settled record request)
    (hclaims : record.claimsVerifiedAt = record.principal.claimsVerifiedAt)
    (htoken : record.sessionTokenSha256 = service.sha256 cookieToken)
    (hlater : ∀ other ∈ requests, other.now < request.now + idleLifetime ∧
      other.now < record.absoluteExpiresAt) :
    Renewed record requests
      (nextRecord service request.env row cookieToken request.now (keptClaims row)) := by
  have hkept := hrow.kept
  have hsame : row.principal.claimsVerifiedAt = record.claimsVerifiedAt := by
    rw [hkept]
    exact hclaims.symm
  refine ⟨?_, fun other hother => lt_min (hlater other hother).1 ?_⟩
  · unfold nextRecord keptClaims
    rw [hsettled.storedEpoch, ← htoken, hsame, hkept]
  · have habsolute : row.absoluteExpiresAt = record.absoluteExpiresAt := by rw [hkept]
    rw [habsolute]
    exact (hlater other hother).2

/-! ## One write -/

/-- The row of a token, after its session has been rewritten. -/
theorem find_update {s : SessionStore} {tokenSha256 : String}
    (hfind : s.sessions.rows.find? (fun row => row.sessionTokenSha256 = tokenSha256) = some row)
    {session : OperatorSessionRecord} (hid : session.sessionId = row.sessionId)
    (htoken : session.sessionTokenSha256 = tokenSha256) :
    (s.sessions.update (isVersion session.sessionId row.sessionVersion)
      (fun row => { session with sessionId := row.sessionId }) fun _ => rfl).rows.find?
        (fun row => row.sessionTokenSha256 = tokenSha256) = some session := by
  have hrow := List.mem_of_find?_eq_some hfind
  have hrowToken : row.sessionTokenSha256 = tokenSha256 := by simpa using List.find?_some hfind
  have hsame : ∀ other ∈ s.sessions.rows,
      decide ((if isVersion session.sessionId row.sessionVersion other = true then
        { session with sessionId := other.sessionId } else other).sessionTokenSha256 = tokenSha256) =
      decide (other.sessionTokenSha256 = tokenSha256) := by
    intro other hother
    split
    · rename_i hmatch
      have heq : other = row :=
        Table.eq_of_key hother hrow ((isVersion_iff.mp hmatch).1.trans hid)
      rw [heq, hrowToken, ← htoken]
    · rfl
  unfold Table.update
  dsimp only
  rw [List.find?_map]
  refine (congrArg _ ((List.find?_congr hsame).trans hfind)).trans ?_
  rw [Option.map_some, if_pos (isVersion_iff.mpr ⟨hid.symm, rfl⟩), ← hid]

end

/-! ## The race -/

variable (record : OperatorSessionRecord) (cookieToken : String)

/-- Where a request is that a writer of the race stands for, at the row of the session. -/
def Tracked (requests : List ParallelRequest) (row : OperatorSessionRecord)
    (request : ParallelRequest) (call : Option (SessionCall SessionResolution)) : Phase → Prop
  | .idle => call = some (resolveSession service request.env cookieToken request.now)
  | .reading version => ∃ read, Renewed record requests read ∧ read.sessionVersion = version ∧
    version ≤ row.sessionVersion ∧ (version = row.sessionVersion → read = row) ∧
    call = some (renew service request.env read cookieToken request.now (keptClaims read))
  | .served => ∃ resolution, call = some (.done (.ok resolution)) ∧
    resolution.projection.sessionId = record.sessionId ∧ resolution.cookieToken = cookieToken ∧
    resolution.rotated = false
  | .conflict => ∃ version actual, call =
    some (.done (.error (.persistenceConflict "operator_session" record.sessionId version actual)))

/-- The requests of a pool race for the version of their session. -/
structure Races (requests : List ParallelRequest)
    (c : Pool SessionStore SessionError SessionResolution) (r : Race) : Prop where
  wellFormed : c.state.WellFormed
  tracked : ∃ row, c.state.sessions.rows.find?
      (fun row => row.sessionTokenSha256 = service.sha256 cookieToken) = some row ∧
    Renewed record requests row ∧ row.sessionVersion = r.version ∧
    ∀ i request, requests[i]? = some request →
      Tracked service record cookieToken requests row request c.calls[i]? (r.phases i)

section
variable {service} {record row : OperatorSessionRecord} {cookieToken : String}
  {requests : List ParallelRequest} {request : ParallelRequest}

/-- A request stays where it is while another one writes. -/
theorem Tracked.later {call : Option (SessionCall SessionResolution)} {phase : Phase}
    {next : OperatorSessionRecord}
    (h : Tracked service record cookieToken requests row request call phase)
    (hlater : row.sessionVersion < next.sessionVersion) :
    Tracked service record cookieToken requests next request call phase := by
  cases phase with
  | idle => exact h
  | reading version =>
    obtain ⟨read, hread, hversion, hle, _, hcall⟩ := h
    refine ⟨read, hread, hversion, by omega, fun hsame => ?_, hcall⟩
    omega
  | served => exact h
  | conflict => exact h

/-- The transactions of a request that has read the session. -/
theorem renew_eq_step (read : OperatorSessionRecord) (request : ParallelRequest)
    (hrotates : rotates request.env read (keptClaims read) = false) :
    let updated := nextRecord service request.env read cookieToken request.now (keptClaims read)
    renew service request.env read cookieToken request.now (keptClaims read) =
      .step (fun s => (updateSession updated read.sessionVersion s).2) fun s =>
        (Process.ofExcept (updateSession updated read.sessionVersion s).1 :
          SessionCall OperatorSessionRecord) >>= fun _ =>
            pure (resolution service request.env updated cookieToken false) := by
  unfold renew
  rw [hrotates]
  rfl

variable (hclaims : record.claimsVerifiedAt = record.principal.claimsVerifiedAt)
  (htoken : record.sessionTokenSha256 = service.sha256 cookieToken)
  (hsettled : ∀ request ∈ requests, Settled record request)
  (htogether : ∀ request ∈ requests, ∀ other ∈ requests, other.now < request.now + idleLifetime)

include hclaims htoken hsettled htogether

/-- **A transaction of a request is a step of the race.** -/
theorem Races.advance {c : Pool SessionStore SessionError SessionResolution} {r : Race} {i : Nat}
    (h : Races service record cookieToken requests c r) (hi : i < requests.length) :
    Races service record cookieToken requests (c.advance i) (r.step i) := by
  obtain ⟨row, hfind, hrenewed, hversion, htracked⟩ := h.tracked
  obtain ⟨request, hrequest⟩ : ∃ request, requests[i]? = some request :=
    ⟨_, List.getElem?_eq_getElem hi⟩
  have hmem : request ∈ requests := List.mem_of_getElem? hrequest
  have hcall := htracked i request hrequest
  cases hphase : r.phases i with
  | idle =>
    rw [hphase] at hcall
    have hread : c.calls[i]? = some (.step id fun s => resolveRecord service request.env
        cookieToken request.now (s.sessions.rows.find? fun row =>
          row.sessionTokenSha256 = service.sha256 cookieToken)) := hcall
    rw [Pool.advance_step hread, Race.step_idle hphase]
    refine ⟨h.wellFormed, row, hfind, hrenewed, hversion, fun j other hother => ?_⟩
    by_cases hj : j = i
    · subst hj
      cases hrequest.symm.trans hother
      dsimp only
      rw [Function.update_self, Pool.getElem?_set_self hread, hfind,
        resolveRecord_settled hrenewed hmem (hsettled request hmem)]
      exact ⟨row, hrenewed, hversion, Nat.le_of_eq hversion.symm, fun _ => rfl, rfl⟩
    · dsimp only
      rw [Function.update_of_ne hj, Pool.getElem?_set_ne (Ne.symm hj)]
      exact htracked j other hother
  | reading version =>
    rw [hphase] at hcall
    obtain ⟨read, hreadRenewed, hreadVersion, hle, hcurrent, hstep⟩ := hcall
    rw [renew_eq_step read request (rotates_settled hreadRenewed (hsettled request hmem))] at hstep
    rw [Pool.advance_step hstep]
    have hrow := List.mem_of_find?_eq_some hfind
    by_cases hsame : version = r.version
    · -- The version is still the one that has been read.
      subst hsame
      have hread : read = row := hcurrent hversion.symm
      subst hread
      have hrowToken : service.sha256 cookieToken = read.sessionTokenSha256 := by
        rw [hrenewed.kept, htoken]
      have hnext := hrenewed.next (hsettled request hmem) hclaims htoken fun other hother =>
        ⟨htogether request hmem other hother, (hsettled other hother).absolute⟩
      have hwellFormed : SessionStep service none c.state (updateSession (nextRecord service
          request.env read cookieToken request.now (keptClaims read)) read.sessionVersion c.state).2 :=
        updateSession_step rfl (fun other hother hid _ => Table.eq_of_key hother hrow hid) rfl rfl
          ⟨min_le_right _ _, rfl⟩ (.inl hrowToken)
      have hwrite : updateSession (nextRecord service request.env read cookieToken request.now
          (keptClaims read)) read.sessionVersion c.state = _ :=
        updateSession_current hrow rfl rfl (h.wellFormed.unique.not_taken hrow rfl hrowToken)
      rw [Race.step_write hphase]
      refine ⟨hwellFormed.wellFormed h.wellFormed, _, ?_, hnext, ?_, fun j other hother => ?_⟩
      · dsimp only
        rw [hwrite]
        exact find_update hfind rfl rfl
      · show read.sessionVersion + 1 = _
        rw [hversion]
      · by_cases hj : j = i
        · subst hj
          dsimp only
          rw [Function.update_self, Pool.getElem?_set_self hstep, hwrite]
          refine ⟨_, rfl, ?_, rfl, rfl⟩
          show read.sessionId = record.sessionId
          rw [hrenewed.kept]
        · dsimp only
          rw [Function.update_of_ne hj, Pool.getElem?_set_ne (Ne.symm hj)]
          exact (htracked j other hother).later (Nat.lt_succ_self _)
    · -- Another request has written in between.
      have hlate : row.sessionVersion ≠ read.sessionVersion := by
        rw [hversion, hreadVersion]
        exact Ne.symm hsame
      have hid : read.sessionId = row.sessionId := by
        rw [hreadRenewed.kept, hrenewed.kept]
      have hwrite : updateSession (nextRecord service request.env read cookieToken request.now
          (keptClaims read)) read.sessionVersion c.state = _ :=
        updateSession_late rfl hrow hid hlate
      rw [Race.step_late hphase hsame, hwrite]
      refine ⟨h.wellFormed, row, hfind, hrenewed, hversion, fun j other hother => ?_⟩
      by_cases hj : j = i
      · subst hj
        dsimp only
        rw [Function.update_self, Pool.getElem?_set_self hstep]
        refine ⟨read.sessionVersion, some row.sessionVersion, ?_⟩
        have hrecordId : record.sessionId = read.sessionId := by rw [hreadRenewed.kept]
        rw [hrecordId]
        rfl
      · dsimp only
        rw [Function.update_of_ne hj, Pool.getElem?_set_ne (Ne.symm hj)]
        exact htracked j other hother
  | served =>
    rw [hphase] at hcall
    obtain ⟨resolution, hdone, _⟩ := hcall
    have hstill : c.advance i = c := by
      unfold Pool.advance
      rw [hdone]
    rw [hstill, Race.step_ended (.inl hphase)]
    exact h
  | conflict =>
    rw [hphase] at hcall
    obtain ⟨version, actual, hdone⟩ := hcall
    have hstill : c.advance i = c := by
      unfold Pool.advance
      rw [hdone]
    rw [hstill, Race.step_ended (.inr hphase)]
    exact h

/-- A schedule of the requests is a run of the race. -/
theorem Races.interleave : ∀ {schedule : List Nat}
    {c : Pool SessionStore SessionError SessionResolution} {r : Race},
    Races service record cookieToken requests c r → (∀ i ∈ schedule, i < requests.length) →
    Races service record cookieToken requests (c.interleave schedule) (r.run schedule)
  | [], _, _, h, _ => h
  | i :: schedule, c, r, h, hlt => by
    rw [Pool.interleave_cons]
    have hnext := h.advance hclaims htoken hsettled htogether (hlt i (List.mem_cons_self ..))
    exact Races.interleave (r := r.step i) hnext fun j hj => hlt j (List.mem_cons_of_mem i hj)

omit hclaims htogether in
/-- The requests, before any of them has read. -/
theorem races_parallel {s : SessionStore} (hs : s.WellFormed) (hrecord : record ∈ s.sessions.rows) :
    Races service record cookieToken requests (parallel service s cookieToken requests)
      ⟨record.sessionVersion, fun _ => .idle⟩ := by
  refine ⟨hs, record, ?_, ⟨rfl, fun request hrequest => (hsettled request hrequest).idle⟩, rfl,
    fun i request hrequest => ?_⟩
  · exact hs.find_token hrecord htoken
  · unfold parallel
    dsimp only
    rw [List.getElem?_map, hrequest]
    rfl

end

/-! ## Every schedule -/

/-- A request that has ended has been served, or has lost the race. -/
theorem Races.result {service : SessionService} {record : OperatorSessionRecord}
    {cookieToken : String} {requests : List ParallelRequest}
    {c : Pool SessionStore SessionError SessionResolution} {r : Race}
    (h : Races service record cookieToken requests c r) {i : Nat} (hi : i < requests.length) :
    (r.phases i = .served → ∃ resolution, c.result i = some (.ok resolution) ∧
      resolution.projection.sessionId = record.sessionId ∧ resolution.cookieToken = cookieToken ∧
      resolution.rotated = false) ∧
    (r.phases i = .conflict → ∃ version actual, c.result i = some (.error
      (.persistenceConflict "operator_session" record.sessionId version actual))) := by
  obtain ⟨row, _, _, _, htracked⟩ := h.tracked
  have hcall := htracked i _ (List.getElem?_eq_getElem hi)
  refine ⟨fun hserved => ?_, fun hconflict => ?_⟩
  · rw [hserved] at hcall
    obtain ⟨resolution, hdone, hrest⟩ := hcall
    refine ⟨resolution, ?_, hrest⟩
    unfold Pool.result
    rw [hdone]
    rfl
  · rw [hconflict] at hcall
    obtain ⟨version, actual, hdone⟩ := hcall
    refine ⟨version, actual, ?_⟩
    unfold Pool.result
    rw [hdone]
    rfl

/-- **The requests of a page are served exactly when they do not overlap**; otherwise one of
them raises what the middleware lets escape. -/
theorem parallel_served_iff {service : SessionService} {s : SessionStore}
    (hreachable : Reachable service s) {record : OperatorSessionRecord}
    (hrecord : record ∈ s.sessions.rows) {cookieToken : String}
    (htoken : record.sessionTokenSha256 = service.sha256 cookieToken)
    {requests : List ParallelRequest} (hsettled : ∀ request ∈ requests, Settled record request)
    (htogether : ∀ request ∈ requests, ∀ other ∈ requests, other.now < request.now + idleLifetime)
    {schedule : List Nat} (hschedule : ∀ i, schedule.count i = if i < requests.length then 2 else 0) :
    let c := (parallel service s cookieToken requests).interleave schedule
    ((∀ i < requests.length, ∃ resolution, c.result i = some (.ok resolution) ∧
      resolution.projection.sessionId = record.sessionId) ↔ Race.NoOverlap schedule) ∧
    ((∀ i < requests.length, ∀ result, c.result i = some result →
      ∃ admission, authenticate result = .ok admission) ↔ Race.NoOverlap schedule) := by
  intro c
  have hwellFormed := hreachable.wellFormed
  have hmem : ∀ i, i ∈ schedule ↔ i < requests.length := by
    intro i
    rw [← List.count_pos_iff, hschedule i]
    split <;> simp_all
  have hraces : Races service record cookieToken requests c
      (Race.run ⟨record.sessionVersion, fun _ => .idle⟩ schedule) :=
    (races_parallel htoken hsettled hwellFormed hrecord).interleave
      (hwellFormed.sound record hrecord).claims htoken hsettled htogether fun i hi => (hmem i).mp hi
  set race := Race.run ⟨record.sessionVersion, fun _ => .idle⟩ schedule with hrace
  have hcount : ∀ i ∈ schedule, schedule.count i = 2 := by
    intro i hi
    rw [hschedule i, if_pos ((hmem i).mp hi)]
  have hended : ∀ i < requests.length, race.phases i = .served ∨ race.phases i = .conflict :=
    fun i hi => Race.ended_of_count rfl (hcount i ((hmem i).mpr hi))
  have hserved : (∀ i < requests.length, race.phases i = .served) ↔ Race.NoOverlap schedule := by
    rw [← Race.served_iff_noOverlap (r := ⟨record.sessionVersion, fun _ => .idle⟩) hcount fun _ _ => rfl]
    exact ⟨fun h i hi => h i ((hmem i).mp hi), fun h i hi => h i ((hmem i).mpr hi)⟩
  constructor
  · rw [← hserved]
    refine ⟨fun h i hi => (hended i hi).resolve_right fun hconflict => ?_, fun h i hi => ?_⟩
    · obtain ⟨version, actual, hfailed⟩ := (hraces.result hi).2 hconflict
      obtain ⟨resolution, hok, _⟩ := h i hi
      rw [hfailed] at hok
      cases hok
    · obtain ⟨resolution, hok, hid, _⟩ := (hraces.result hi).1 (h i hi)
      exact ⟨resolution, hok, hid⟩
  · rw [← hserved]
    refine ⟨fun h i hi => (hended i hi).resolve_right fun hconflict => ?_, fun h i hi result hresult => ?_⟩
    · obtain ⟨version, actual, hfailed⟩ := (hraces.result hi).2 hconflict
      obtain ⟨_, hescapes⟩ := h i hi _ hfailed
      cases hescapes
    · obtain ⟨resolution, hok, _⟩ := (hraces.result hi).1 (h i hi)
      rw [hok] at hresult
      cases hresult
      exact ⟨_, rfl⟩

namespace Sample

/-- Two requests of a page, a minute after the login. -/
def page : List ParallelRequest :=
  [⟨answers (seconds 60) 1 "token-2", seconds 60⟩, ⟨answers (seconds 60) 1 "token-3", seconds 60⟩]

theorem page_settled : ∀ request ∈ page, Settled session request := by
  intro request hrequest
  simp only [page, List.mem_cons, List.not_mem_nil, or_false] at hrequest
  rcases hrequest with rfl | rfl
  · exact ⟨by decide, rfl, rfl, ⟨_, rfl⟩, rfl, by decide, by decide⟩
  · exact ⟨by decide, rfl, rfl, ⟨_, rfl⟩, rfl, by decide, by decide⟩

theorem page_together : ∀ request ∈ page, ∀ other ∈ page, other.now < request.now + idleLifetime := by
  decide

end Sample

theorem page_served :
    let c := (parallel Sample.digests Sample.store "token-1" Sample.page).interleave [0, 0, 1, 1]
    ((∀ i < Sample.page.length, ∃ resolution, c.result i = some (.ok resolution) ∧
      resolution.projection.sessionId = Sample.session.sessionId) ↔
        Race.NoOverlap [0, 0, 1, 1]) ∧
    ((∀ i < Sample.page.length, ∀ result, c.result i = some result →
      ∃ admission, authenticate result = .ok admission) ↔ Race.NoOverlap [0, 0, 1, 1]) := by
  refine parallel_served_iff Sample.store_reachable Sample.session_mem rfl Sample.page_settled
    Sample.page_together fun i => ?_
  match i with
  | 0 => rfl
  | 1 => rfl
  | i + 2 =>
    rw [if_neg (by simp [Sample.page])]
    rfl

/-- Two requests that have both read before one of them writes: the second write raises. -/
theorem overlapping_requests_fail :
    Reachable Sample.digests Sample.store ∧ Sample.session ∈ Sample.store.sessions.rows ∧
    (∀ request ∈ Sample.page, Settled Sample.session request) ∧
    ((parallel Sample.digests Sample.store "token-1" Sample.page).interleave [0, 1, 0, 1]).result 1 =
      some (.error (.persistenceConflict "operator_session" "session" 1 (some 2))) ∧
    authenticate (.error (.persistenceConflict "operator_session" "session" 1 (some 2))) =
      .error (.persistenceConflict "operator_session" "session" 1 (some 2)) :=
  ⟨Sample.store_reachable, Sample.session_mem, Sample.page_settled, rfl, rfl⟩

end ProofAgent.Sessions
