import ProofAgent.Security.SessionService

/-! # The transactions of a session

Logins, requests and logouts race for the rows of the session table. A row is
rewritten in two ways, by its version and by its token, and both count the version
up; so a request that writes the version it has read, writes over the row it has
read. Each request is followed through its transactions, with whatever others do
between them. -/
namespace ProofAgent.Sessions

open Base

variable (service : SessionService)

/-! ## Requests -/

/-- A call to the service, with what its collaborators answer. -/
inductive SessionRequest where
  | startLogin (env : Collaborators) (state nonce verifier redirectUri : String) (now : Instant)
  | completeLogin (env : Collaborators) (state code : String) (now : Instant)
  | resolveSession (env : Collaborators) (cookieToken : String) (now : Instant)
  | logout (cookieToken : String) (now : Instant)

inductive SessionReply where
  | started
  | loggedIn (resolution : SessionResolution)
  | resolved (resolution : SessionResolution)
  | loggedOut (revoked : Bool)

namespace SessionRequest

/-- The transactions of a request. -/
def call : SessionRequest → SessionCall SessionReply
  | startLogin env state nonce verifier redirectUri now =>
    (Sessions.startLogin service env state nonce verifier redirectUri now).map fun _ => .started
  | completeLogin env state code now =>
    (Sessions.completeLogin service env state code now).map .loggedIn
  | resolveSession env cookieToken now =>
    (Sessions.resolveSession service env cookieToken now).map .resolved
  | logout cookieToken now => (Sessions.logout service cookieToken now).map .loggedOut

/-- The token that a request may give to a session. -/
def drawn : SessionRequest → Option String
  | completeLogin env _ _ _ => some env.tokenUrlsafe
  | resolveSession env _ _ => some env.tokenUrlsafe
  | startLogin .. | logout .. => none

/-- The pool of some requests, at the empty store. -/
def pool (requests : List SessionRequest) : Pool SessionStore SessionError SessionReply :=
  ⟨.empty, requests.map (call service)⟩

end SessionRequest

/-! ## Transactions -/

/-- What becomes of the row of a session. -/
structure RowFollows (old new : OperatorSessionRecord) : Prop where
  sessionId : new.sessionId = old.sessionId
  absolute : new.absoluteExpiresAt = old.absoluteExpiresAt
  revoked : old.revokedAt.isSome = true → new.revokedAt = old.revokedAt
  version : old.sessionVersion ≤ new.sessionVersion
  unchanged : new.sessionVersion = old.sessionVersion → new = old

/-- A consumed attempt stays consumed. -/
structure AttemptFollows (old new : OidcLoginAttemptRecord) : Prop where
  state : new.stateSha256 = old.stateSha256
  consumed : old.consumedAt.isSome = true → new.consumedAt.isSome = true

/-- What becomes of a store. -/
structure StoreFollows (s t : SessionStore) : Prop where
  attempts : Table.Evolves AttemptFollows s.attempts t.attempts
  sessions : Table.Evolves RowFollows s.sessions t.sessions

/-- A session with a token. -/
def SessionStore.Holds (s : SessionStore) (tokenSha256 : String) : Prop :=
  ∃ row ∈ s.sessions.rows, row.sessionTokenSha256 = tokenSha256

/-- A session is not idle for longer than it lives, and its claims are those of its
principal. -/
structure SoundRecord (row : OperatorSessionRecord) : Prop where
  bounded : row.idleExpiresAt ≤ row.absoluteExpiresAt
  claims : row.claimsVerifiedAt = row.principal.claimsVerifiedAt

/-- No two sessions have one token. -/
def SessionStore.TokensUnique (s : SessionStore) : Prop :=
  ∀ row ∈ s.sessions.rows, ∀ other ∈ s.sessions.rows,
    row.sessionTokenSha256 = other.sessionTokenSha256 → row.sessionId = other.sessionId

structure SessionStore.WellFormed (s : SessionStore) : Prop where
  sound : ∀ row ∈ s.sessions.rows, SoundRecord row
  unique : s.TokensUnique

/-- What one transaction does, where `drawn` is the token that it may give. -/
structure SessionStep (drawn : Option String) (s t : SessionStore) : Prop where
  follows : StoreFollows s t
  wellFormed : s.WellFormed → t.WellFormed
  tokens : ∀ hash, t.Holds hash → s.Holds hash ∨ drawn.map service.sha256 = some hash

theorem RowFollows.refl (row : OperatorSessionRecord) : RowFollows row row :=
  ⟨rfl, rfl, fun _ => rfl, le_refl _, fun _ => rfl⟩

theorem RowFollows.trans {a b c : OperatorSessionRecord} (hab : RowFollows a b)
    (hbc : RowFollows b c) : RowFollows a c where
  sessionId := hbc.sessionId.trans hab.sessionId
  absolute := hbc.absolute.trans hab.absolute
  revoked h := by
    have hb := hab.revoked h
    rw [hbc.revoked (by rw [hb]; exact h), hb]
  version := hab.version.trans hbc.version
  unchanged h := by
    have hle := hab.version
    have hle' := hbc.version
    rw [hbc.unchanged (by omega), hab.unchanged (by omega)]

theorem AttemptFollows.refl (a : OidcLoginAttemptRecord) : AttemptFollows a a := ⟨rfl, id⟩

theorem AttemptFollows.trans {a b c : OidcLoginAttemptRecord} (hab : AttemptFollows a b)
    (hbc : AttemptFollows b c) : AttemptFollows a c :=
  ⟨hbc.state.trans hab.state, fun h => hbc.consumed (hab.consumed h)⟩

theorem StoreFollows.refl (s : SessionStore) : StoreFollows s s :=
  ⟨.refl .refl, .refl .refl⟩

theorem StoreFollows.trans {s t u : SessionStore} (hst : StoreFollows s t)
    (htu : StoreFollows t u) : StoreFollows s u :=
  ⟨hst.attempts.trans (fun _ _ _ => .trans) htu.attempts,
    hst.sessions.trans (fun _ _ _ => .trans) htu.sessions⟩

/-- A row is the row that it was, where its version is. -/
theorem StoreFollows.same_version {s t : SessionStore} (h : StoreFollows s t)
    {old row : OperatorSessionRecord} (hold : old ∈ s.sessions.rows) (hrow : row ∈ t.sessions.rows)
    (hid : row.sessionId = old.sessionId) (hversion : row.sessionVersion = old.sessionVersion) :
    row = old := by
  obtain ⟨new, hnew, hfollows⟩ := h.sessions old hold
  have hsame : row = new := Table.eq_of_key hrow hnew (hid.trans hfollows.sessionId.symm)
  subst hsame
  exact hfollows.unchanged hversion

section
variable {service}

theorem SessionStep.refl (drawn : Option String) (s : SessionStore) :
    SessionStep service drawn s s :=
  ⟨.refl s, id, fun _ h => .inl h⟩

/-- A transaction on the attempts. -/
theorem SessionStep.of_attempts {s : SessionStore} {attempts : Table OidcLoginAttemptRecord.stateSha256}
    (drawn : Option String) (h : Table.Evolves AttemptFollows s.attempts attempts) :
    SessionStep service drawn s { s with attempts } :=
  ⟨⟨h, .refl .refl⟩, fun h => ⟨h.sound, h.unique⟩, fun _ h => .inl h⟩

theorem createLoginAttempt_step (drawn : Option String) (attempt : OidcLoginAttemptRecord)
    (s : SessionStore) : SessionStep service drawn s (createLoginAttempt attempt s).2 := by
  unfold createLoginAttempt
  cases hinsert : s.attempts.insert? attempt with
  | some attempts => exact .of_attempts drawn (.of_insert .refl hinsert)
  | none => exact .refl drawn s

theorem consumeLoginAttempt_step (drawn : Option String) (stateSha256 : String)
    (consumedAt : Instant) (s : SessionStore) :
    SessionStep service drawn s (consumeLoginAttempt stateSha256 consumedAt s).2 := by
  refine .of_attempts drawn fun a ha => ?_
  by_cases hmatch : consumable stateSha256 consumedAt a = true
  · exact ⟨_, Table.mem_update.mpr ⟨a, ha, (if_pos hmatch).symm⟩, rfl, fun _ => rfl⟩
  · exact ⟨a, Table.mem_update.mpr ⟨a, ha, (if_neg hmatch).symm⟩, .refl a⟩

/-- An attempt that matches is consumed. -/
theorem consumeLoginAttempt_mem {stateSha256 : String} {consumedAt : Instant} {s : SessionStore}
    {a : OidcLoginAttemptRecord} (ha : a ∈ s.attempts.rows)
    (hmatch : consumable stateSha256 consumedAt a = true) :
    { a with consumedAt := some consumedAt } ∈
      (consumeLoginAttempt stateSha256 consumedAt s).2.attempts.rows := by
  have hmem : { a with consumedAt := some consumedAt } ∈ (s.attempts.update
      (consumable stateSha256 consumedAt) (fun a => { a with consumedAt := some consumedAt })
      fun _ => rfl).rows := Table.mem_update.mpr ⟨a, ha, (if_pos hmatch).symm⟩
  exact hmem

/-- A rewriting of some rows of the session table. -/
theorem SessionStep.of_update {s : SessionStore} {drawn : Option String}
    {p : OperatorSessionRecord → Bool} {f : OperatorSessionRecord → OperatorSessionRecord}
    {hf : ∀ row, (f row).sessionId = row.sessionId}
    (hfollows : ∀ row ∈ s.sessions.rows, p row = true → RowFollows row (f row))
    (hsound : ∀ row ∈ s.sessions.rows, p row = true → SoundRecord row → SoundRecord (f row))
    (hunique : s.TokensUnique →
      ({ s with sessions := s.sessions.update p f hf } : SessionStore).TokensUnique)
    (htokens : ∀ row ∈ s.sessions.rows, p row = true →
      (f row).sessionTokenSha256 = row.sessionTokenSha256 ∨
        drawn.map service.sha256 = some (f row).sessionTokenSha256) :
    SessionStep service drawn s { s with sessions := s.sessions.update p f hf } where
  follows := by
    refine ⟨.refl .refl, fun row hrow => ?_⟩
    have hmem : (if p row = true then f row else row) ∈ (s.sessions.update p f hf).rows :=
      Table.mem_update.mpr ⟨row, hrow, rfl⟩
    refine ⟨_, hmem, ?_⟩
    split
    · rename_i hp
      exact hfollows row hrow hp
    · exact .refl row
  wellFormed h := by
    refine ⟨fun row hrow => ?_, hunique h.unique⟩
    have hmem : row ∈ (s.sessions.update p f hf).rows := hrow
    obtain ⟨old, hold, rfl⟩ := Table.mem_update.mp hmem
    split
    · rename_i hp
      exact hsound old hold hp (h.sound old hold)
    · exact h.sound old hold
  tokens hash := by
    rintro ⟨row, hrow, rfl⟩
    have hmem : row ∈ (s.sessions.update p f hf).rows := hrow
    obtain ⟨old, hold, rfl⟩ := Table.mem_update.mp hmem
    split
    · rename_i hp
      rcases htokens old hold hp with hsame | hdrawn
      · exact .inl ⟨old, hold, hsame.symm⟩
      · exact .inr hdrawn
    · exact .inl ⟨old, hold, rfl⟩

/-- A rewriting that keeps the tokens. -/
theorem SessionStore.TokensUnique.update {s : SessionStore} {p : OperatorSessionRecord → Bool}
    {f : OperatorSessionRecord → OperatorSessionRecord}
    {hf : ∀ row, (f row).sessionId = row.sessionId}
    (hsame : ∀ row, (f row).sessionTokenSha256 = row.sessionTokenSha256) (h : s.TokensUnique) :
    ({ s with sessions := s.sessions.update p f hf } : SessionStore).TokensUnique := by
  have hkept : ∀ row ∈ (s.sessions.update p f hf).rows, ∃ old ∈ s.sessions.rows,
      row.sessionId = old.sessionId ∧ row.sessionTokenSha256 = old.sessionTokenSha256 := by
    intro row hrow
    obtain ⟨old, hold, rfl⟩ := Table.mem_update.mp hrow
    refine ⟨old, hold, ?_⟩
    split
    · exact ⟨hf old, hsame old⟩
    · exact ⟨rfl, rfl⟩
  intro row hrow other hother htoken
  obtain ⟨old, hold, hid, hold'⟩ := hkept row hrow
  obtain ⟨old₂, hold₂, hid₂, hold₂'⟩ := hkept other hother
  rw [hid, hid₂]
  exact h old hold old₂ hold₂ (by rw [← hold', htoken, hold₂'])

theorem tokenTaken_iff {s : SessionStore} {session : OperatorSessionRecord} :
    tokenTaken s session = false ↔ ∀ row ∈ s.sessions.rows,
      row.sessionTokenSha256 = session.sessionTokenSha256 → row.sessionId = session.sessionId := by
  unfold tokenTaken
  simp

/-- A row that comes in with a token that is not taken. -/
theorem SessionStore.TokensUnique.add {s t : SessionStore} {session : OperatorSessionRecord}
    (hcases : ∀ row ∈ t.sessions.rows, row ∈ s.sessions.rows ∨
      row.sessionTokenSha256 = session.sessionTokenSha256 ∧ row.sessionId = session.sessionId)
    (htaken : tokenTaken s session = false) (h : s.TokensUnique) : t.TokensUnique := by
  rw [tokenTaken_iff] at htaken
  intro row hrow other hother htoken
  rcases hcases row hrow with hold | ⟨hnew, hid⟩
  · rcases hcases other hother with hold' | ⟨hnew', hid'⟩
    · exact h row hold other hold' htoken
    · exact (htaken row hold (htoken.trans hnew')).trans hid'.symm
  · rcases hcases other hother with hold' | ⟨_, hid'⟩
    · exact hid.trans (htaken other hold' (htoken.symm.trans hnew)).symm
    · exact hid.trans hid'.symm

theorem revokeByTokenHash_step (drawn : Option String) (tokenSha256 : String)
    (revokedAt : Instant) (s : SessionStore) :
    SessionStep service drawn s (revokeByTokenHash tokenSha256 revokedAt s).2 := by
  refine .of_update (fun row _ hmatch => ?_) (fun _ _ _ h => ⟨h.bounded, h.claims⟩)
    (.update fun _ => rfl) fun _ _ _ => .inl rfl
  simp only [isRevocable, Bool.and_eq_true, Option.isNone_iff_eq_none] at hmatch
  refine ⟨rfl, rfl, fun h => ?_, Nat.le_succ _, fun h => ?_⟩
  · rw [hmatch.2] at h
    cases h
  · exact absurd h (Nat.succ_ne_self _)

/-- A session is created, or the store stays as it is. -/
theorem createSession_cases (session : OperatorSessionRecord) (s : SessionStore) :
    (∃ e, createSession session s = (.error e, s)) ∨
      ∃ sessions, s.sessions.insert? session = some sessions ∧ tokenTaken s session = false ∧
        createSession session s = (.ok (), { s with sessions }) := by
  unfold createSession
  by_cases hone : session.sessionVersion = 1
  · rw [Effect.require_then _ hone, Effect.read_then]
    cases hinsert : s.sessions.insert? session with
    | none => exact .inl ⟨_, rfl⟩
    | some sessions =>
      by_cases htaken : tokenTaken s session = false
      · refine .inr ⟨sessions, rfl, htaken, ?_⟩
        dsimp only
        rw [Effect.require_then _ htaken]
        rfl
      · refine .inl ⟨.integrity, ?_⟩
        dsimp only
        rw [Effect.require_not_then _ htaken]
        rfl
  · rw [Effect.require_not_then _ hone]
    exact .inl ⟨_, rfl⟩

theorem createSession_step {drawn : Option String} {session : OperatorSessionRecord}
    (hsound : SoundRecord session)
    (hdrawn : drawn.map service.sha256 = some session.sessionTokenSha256) (s : SessionStore) :
    SessionStep service drawn s (createSession session s).2 := by
  rcases createSession_cases session s with ⟨e, hrun⟩ | ⟨sessions, hinsert, htaken, hrun⟩
  · rw [hrun]
    exact .refl drawn s
  · rw [hrun]
    have hrows := (Table.insert?_some hinsert).1
    have hcases : ∀ row ∈ sessions.rows, row ∈ s.sessions.rows ∨ row = session := by
      intro row hrow
      rw [hrows] at hrow
      exact (List.mem_append.mp hrow).imp_right List.mem_singleton.mp
    refine ⟨⟨.refl .refl, .of_insert .refl hinsert⟩, fun h => ⟨fun row hrow => ?_, ?_⟩,
      fun hash hholds => ?_⟩
    · rcases hcases row hrow with hold | rfl
      · exact h.sound row hold
      · exact hsound
    · refine h.unique.add (fun row hrow => ?_) htaken
      rcases hcases row hrow with hold | rfl
      · exact .inl hold
      · exact .inr ⟨rfl, rfl⟩
    · obtain ⟨row, hrow, rfl⟩ := hholds
      rcases hcases row hrow with hold | rfl
      · exact .inl ⟨row, hold, rfl⟩
      · exact .inr hdrawn

/-- The version of a session is rewritten, or the store stays as it is. -/
theorem updateSession_cases (session : OperatorSessionRecord) (version : Nat) (s : SessionStore) :
    (∃ e, updateSession session version s = (.error e, s)) ∨
      session.sessionVersion = version + 1 ∧
      s.sessions.rows.any (isVersion session.sessionId version) = true ∧
      tokenTaken s session = false ∧ updateSession session version s = (.ok session, { s with
        sessions := s.sessions.update (isVersion session.sessionId version)
          (fun row => { session with sessionId := row.sessionId }) fun _ => rfl }) := by
  unfold updateSession
  by_cases hnext : session.sessionVersion = version + 1
  · rw [Effect.require_then _ hnext, Effect.read_then]
    by_cases hany : s.sessions.rows.any (isVersion session.sessionId version) = true
    · rw [if_pos hany]
      by_cases htaken : tokenTaken s session = false
      · rw [Effect.require_then _ htaken]
        exact .inr ⟨hnext, hany, htaken, rfl⟩
      · rw [Effect.require_not_then _ htaken]
        exact .inl ⟨_, rfl⟩
    · rw [if_neg hany]
      exact .inl ⟨_, rfl⟩
  · rw [Effect.require_not_then _ hnext]
    exact .inl ⟨_, rfl⟩

theorem isVersion_iff {sessionId : String} {version : Nat} {row : OperatorSessionRecord} :
    isVersion sessionId version row = true ↔
      row.sessionId = sessionId ∧ row.sessionVersion = version := by
  unfold isVersion
  simp

/-- The next version of a session, written over a row that has been read as `record`. -/
theorem updateSession_step {drawn : Option String} {record session : OperatorSessionRecord}
    {s : SessionStore} (hid : session.sessionId = record.sessionId)
    (hread : ∀ row ∈ s.sessions.rows, row.sessionId = record.sessionId →
      row.sessionVersion = record.sessionVersion → row = record)
    (habsolute : session.absoluteExpiresAt = record.absoluteExpiresAt)
    (hrevoked : session.revokedAt = record.revokedAt)
    (hsound : SoundRecord session)
    (htoken : session.sessionTokenSha256 = record.sessionTokenSha256 ∨
      drawn.map service.sha256 = some session.sessionTokenSha256) :
    SessionStep service drawn s (updateSession session record.sessionVersion s).2 := by
  rcases updateSession_cases session record.sessionVersion s with
    ⟨e, hrun⟩ | ⟨hnext, _, htaken, hrun⟩
  · rw [hrun]
    exact .refl drawn s
  · rw [hrun]
    have hrow : ∀ row ∈ s.sessions.rows,
        isVersion session.sessionId record.sessionVersion row = true → row = record := by
      intro row hrow hmatch
      rw [isVersion_iff, hid] at hmatch
      exact hread row hrow hmatch.1 hmatch.2
    refine .of_update (fun row hmem hmatch => ?_)
      (fun row hmem hmatch _ => ⟨hsound.bounded, hsound.claims⟩) (fun h => ?_) fun row hmem hmatch => ?_
    · cases hrow row hmem hmatch
      refine ⟨rfl, habsolute, fun _ => hrevoked, ?_, fun h => ?_⟩
      · show record.sessionVersion ≤ session.sessionVersion
        omega
      · change session.sessionVersion = record.sessionVersion at h
        omega
    · refine h.add (fun row hmem => ?_) htaken
      have hupdated : row ∈ (s.sessions.update (isVersion session.sessionId record.sessionVersion)
          (fun row => { session with sessionId := row.sessionId }) fun _ => rfl).rows := hmem
      obtain ⟨old, hold, rfl⟩ := Table.mem_update.mp hupdated
      split
      · rename_i hmatch
        exact .inr ⟨rfl, (isVersion_iff.mp hmatch).1⟩
      · exact .inl hold
    · cases hrow row hmem hmatch
      exact htoken

/-! ## Rows and tokens -/

/-- The row of a token is found. -/
theorem SessionStore.WellFormed.find_token {s : SessionStore} (h : s.WellFormed)
    {row : OperatorSessionRecord} (hrow : row ∈ s.sessions.rows) {tokenSha256 : String}
    (htoken : row.sessionTokenSha256 = tokenSha256) :
    s.sessions.rows.find? (fun row => row.sessionTokenSha256 = tokenSha256) = some row := by
  cases hfind : s.sessions.rows.find? fun row => row.sessionTokenSha256 = tokenSha256 with
  | none =>
    have habsent := List.find?_eq_none.mp hfind row hrow
    simp [htoken] at habsent
  | some other =>
    have hother := List.mem_of_find?_eq_some hfind
    have hotherToken : other.sessionTokenSha256 = tokenSha256 := by
      simpa using List.find?_some hfind
    exact congrArg some (Table.eq_of_key hother hrow
      (h.unique other hother row hrow (hotherToken.trans htoken.symm)))

/-- A session does not take its own token from another one. -/
theorem SessionStore.TokensUnique.not_taken {s : SessionStore} (h : s.TokensUnique)
    {row session : OperatorSessionRecord} (hrow : row ∈ s.sessions.rows)
    (hid : session.sessionId = row.sessionId)
    (htoken : session.sessionTokenSha256 = row.sessionTokenSha256) :
    tokenTaken s session = false := by
  rw [tokenTaken_iff]
  intro other hother hsame
  rw [hid]
  exact h other hother row hrow (hsame.trans htoken)

/-- A token that no session has is not taken. -/
theorem not_taken_of_absent {s : SessionStore} {session : OperatorSessionRecord}
    (h : ¬ s.Holds session.sessionTokenSha256) : tokenTaken s session = false := by
  rw [tokenTaken_iff]
  intro other hother hsame
  exact absurd ⟨other, hother, hsame⟩ h

/-- A version that is there is rewritten. -/
theorem updateSession_current {s : SessionStore} {row session : OperatorSessionRecord}
    (hrow : row ∈ s.sessions.rows) (hid : session.sessionId = row.sessionId)
    (hversion : session.sessionVersion = row.sessionVersion + 1)
    (htaken : tokenTaken s session = false) :
    updateSession session row.sessionVersion s = (.ok session, { s with
      sessions := s.sessions.update (isVersion session.sessionId row.sessionVersion)
        (fun row => { session with sessionId := row.sessionId }) fun _ => rfl }) := by
  have hany : s.sessions.rows.any (isVersion session.sessionId row.sessionVersion) = true :=
    List.any_eq_true.mpr ⟨row, hrow, isVersion_iff.mpr ⟨hid.symm, rfl⟩⟩
  unfold updateSession
  rw [Effect.require_then _ hversion, Effect.read_then, if_pos hany, Effect.require_then _ htaken]
  rfl

/-- The row that has been rewritten. -/
theorem mem_updated {s : SessionStore} {row session : OperatorSessionRecord}
    (hrow : row ∈ s.sessions.rows) (hid : session.sessionId = row.sessionId) :
    session ∈ (s.sessions.update (isVersion session.sessionId row.sessionVersion)
      (fun row => { session with sessionId := row.sessionId }) fun _ => rfl).rows := by
  rw [Table.mem_update]
  refine ⟨row, hrow, ?_⟩
  rw [if_pos (isVersion_iff.mpr ⟨hid.symm, rfl⟩), ← hid]

/-- A version that is not there is not rewritten. -/
theorem updateSession_late {s : SessionStore} {row session : OperatorSessionRecord} {version : Nat}
    (hversion : session.sessionVersion = version + 1) (hrow : row ∈ s.sessions.rows)
    (hid : session.sessionId = row.sessionId) (hlate : row.sessionVersion ≠ version) :
    updateSession session version s =
      (.error (.persistenceConflict "operator_session" session.sessionId version
        (some row.sessionVersion)), s) := by
  have hnone : ¬ s.sessions.rows.any (isVersion session.sessionId version) = true := by
    rw [List.any_eq_true]
    rintro ⟨other, hother, hmatch⟩
    obtain ⟨hother', hversion'⟩ := isVersion_iff.mp hmatch
    have hsame : other = row := Table.eq_of_key hother hrow (hother'.trans hid)
    exact hlate (hsame ▸ hversion')
  unfold updateSession
  rw [Effect.require_then _ hversion, Effect.read_then, if_neg hnone, hid, Table.find?_of_mem hrow]
  rfl

/-! ## What a request guarantees -/

/-- A session that its token resolves. -/
def SessionStore.Live (s : SessionStore) (tokenSha256 sessionId : String) (now : Instant) : Prop :=
  ∃ row ∈ s.sessions.rows, row.sessionId = sessionId ∧ row.sessionTokenSha256 = tokenSha256 ∧
    row.revokedAt = none ∧ now < row.absoluteExpiresAt ∧ now < row.idleExpiresAt

end

/-- What a transaction does that leaves the request with the result `r`. -/
structure Guarantees {α : Type} (drawn : Option String) (served : α → SessionStore → Prop)
    (r : Option (Except SessionError α)) (s t : SessionStore) : Prop where
  step : SessionStep service (if r.isSome then drawn else none) s t
  served : ∀ a, r = some (.ok a) → served a s

/-- What a reply says about the store that it was given at. -/
def SessionRequest.served : SessionRequest → SessionReply → SessionStore → Prop
  | .resolveSession _ cookieToken now, .resolved resolution, s =>
    s.Live (service.sha256 cookieToken) resolution.projection.sessionId now
  | _, _, _ => True

/-- The guarantee of what is left of a request. -/
abbrev Keeps {α : Type} (x : SessionCall α) (drawn : Option String)
    (served : α → SessionStore → Prop) (s : SessionStore) : Prop :=
  x.Obeys (fun _ => True) StoreFollows (Guarantees service drawn served) s

section
variable {service} {α : Type} {drawn : Option String} {served : α → SessionStore → Prop}

/-- A transaction that does not end the request well. -/
theorem Guarantees.of_step {r : Option (Except SessionError α)} {s t : SessionStore}
    (hstep : ∀ drawn, SessionStep service drawn s t) (hr : ∀ a, r ≠ some (.ok a)) :
    Guarantees service drawn served r s t :=
  ⟨hstep _, fun a h => absurd h (hr a)⟩

/-- A transaction that the request goes on after. -/
theorem Keeps.atomic_then {β : Type} {x : SessionQuery β} {f : β → SessionCall α} {s : SessionStore}
    (hstep : ∀ drawn s', SessionStep service drawn s' (x s').2)
    (hgoes : ∀ b a, (f b).result ≠ some (.ok a))
    (hrest : ∀ s' b, StoreFollows s s' → (x s').1 = .ok b →
      Keeps service (f b) drawn served (x s').2) :
    Keeps service (.atomic x >>= f) drawn served s := by
  intro s' hs'
  let rest : SessionCall α := .ofExcept (x s').1 >>= f
  show True ∧ Guarantees service drawn served rest.result s' (x s').2 ∧
    Keeps service rest drawn served (x s').2
  dsimp only [rest]
  rcases hx : (x s').1 with e | b
  · exact ⟨trivial, .of_step (fun drawn => hstep drawn s') (fun _ => nofun), trivial⟩
  · exact ⟨trivial, .of_step (fun drawn => hstep drawn s') (hgoes b), hrest s' b hs' hx⟩

/-- The last transaction of a request. -/
theorem Keeps.last {β : Type} {x : SessionQuery β} {g : β → α} {s : SessionStore}
    (hstep : ∀ s', StoreFollows s s' → SessionStep service drawn s' (x s').2)
    (hserved : ∀ s' b, StoreFollows s s' → (x s').1 = .ok b → served (g b) s') :
    Keeps service (.atomic x >>= fun b => pure (g b)) drawn served s := by
  intro s' hs'
  let rest : SessionCall α := .ofExcept (x s').1 >>= fun b => pure (g b)
  show True ∧ Guarantees service drawn served rest.result s' (x s').2 ∧
    Keeps service rest drawn served (x s').2
  dsimp only [rest]
  rcases hx : (x s').1 with e | b
  · exact ⟨trivial, ⟨hstep s' hs', fun _ => nofun⟩, trivial⟩
  · refine ⟨trivial, ⟨hstep s' hs', fun a ha => ?_⟩, trivial⟩
    cases ha
    exact hserved s' b hs' hx

theorem revokeAndReject_keeps (tokenHash : String) (now : Instant) (message : String)
    (s : SessionStore) :
    Keeps service (revokeAndReject tokenHash now message : SessionCall α) drawn served s := by
  intro s' _
  exact ⟨trivial, .of_step (fun drawn => revokeByTokenHash_step drawn tokenHash now s')
    (fun _ => nofun), trivial⟩

end

/-! ## Logging in -/

section
variable {service} (env : Collaborators)

theorem startLogin_keeps (state nonce verifier redirectUri : String) (now : Instant)
    (s : SessionStore) : Keeps service (startLogin service env state nonce verifier redirectUri now)
      none (fun _ _ => True) s := by
  unfold startLogin
  rcases orOther (env.encrypt nonce ("oidc-nonce:" ++ service.sha256 state)) with e | nonceEnvelope
  · trivial
  rcases orOther (env.encrypt verifier ("oidc-pkce:" ++ service.sha256 state)) with e | envelope
  · trivial
  show Keeps service (if nonceEnvelope.keyVersion ≠ envelope.keyVersion then _ else _) _ _ s
  split
  · trivial
  · intro s' _
    refine ⟨trivial, ⟨?_, fun _ _ => trivial⟩, trivial⟩
    rw [ite_self]
    exact createLoginAttempt_step none _ s'

theorem firstRecord_sound (now : Instant) (verified : VerifiedOidcIdentity)
    (envelope : TokenEnvelope) : SoundRecord (firstRecord service env now verified envelope) :=
  ⟨min_le_right _ _, rfl⟩

theorem completeLogin_keeps (state code : String) (now : Instant) (s : SessionStore) :
    Keeps service (completeLogin service env state code now) (some env.tokenUrlsafe)
      (fun _ _ => True) s := by
  refine .atomic_then (fun drawn s' => consumeLoginAttempt_step drawn _ now s')
    (fun attempt a => ?_) fun s' attempt _ _ => ?_
  · cases attempt with
    | none => nofun
    | some attempt =>
      dsimp only
      cases exchange env attempt (service.sha256 state) code with
      | none => nofun
      | some verified =>
        dsimp only
        cases orOther (env.encrypt verified.providerTokenMaterial ("oidc-session:" ++ env.uuid4)) with
        | error e => nofun
        | ok envelope => nofun
  · cases attempt with
    | none => trivial
    | some attempt =>
      dsimp only
      cases exchange env attempt (service.sha256 state) code with
      | none => trivial
      | some verified =>
        dsimp only
        cases orOther (env.encrypt verified.providerTokenMaterial ("oidc-session:" ++ env.uuid4)) with
        | error e => trivial
        | ok envelope =>
          refine Keeps.last (fun t _ => ?_) fun _ _ _ _ => trivial
          exact createSession_step (firstRecord_sound env now verified envelope) rfl t

end

/-! ## Resolving -/

section
variable {service} (env : Collaborators)

/-- Where the principal of some claims comes from: the session has it, or a refresh of its
material has returned it. -/
def ClaimsOf (record : OperatorSessionRecord) (now : Instant) (claims : SessionClaims) : Prop :=
  claims.principal = record.principal ∨ claimFreshness ≤ now - record.claimsVerifiedAt ∧
    ∃ material refreshed, env.decrypt record.providerTokenEnvelope record.envelopeKeyVersion
      ("oidc-session:" ++ record.sessionId) = .ok material ∧
      env.refresh material = some refreshed ∧ claims.principal = refreshed.principal

theorem currentClaims_cases {record : OperatorSessionRecord} (tokenHash : String) (now : Instant)
    {providerMaterial : String}
    (hmaterial : env.decrypt record.providerTokenEnvelope record.envelopeKeyVersion
      ("oidc-session:" ++ record.sessionId) = .ok providerMaterial) :
    currentClaims env record tokenHash now providerMaterial =
        revokeAndReject tokenHash now "OIDC claim refresh failed" ∨
      (∃ e, currentClaims env record tokenHash now providerMaterial = .raise e) ∨
      ∃ claims, ClaimsOf env record now claims ∧
        currentClaims env record tokenHash now providerMaterial = pure claims := by
  unfold currentClaims
  split
  · rename_i hold
    cases hrefresh : env.refresh providerMaterial with
    | none => exact .inl rfl
    | some refreshed =>
      refine .inr ?_
      dsimp only
      cases orOther (env.encrypt refreshed.providerTokenMaterial
        ("oidc-session:" ++ record.sessionId)) with
      | error e => exact .inl ⟨e, rfl⟩
      | ok envelope =>
        exact .inr ⟨_, .inr ⟨hold, providerMaterial, refreshed, hmaterial, hrefresh, rfl⟩, rfl⟩
  · exact .inr (.inr ⟨_, .inl rfl, rfl⟩)

/-- What a request does with the row that it has read: it ends, it revokes the row, or it
writes the next version of a row that is live. -/
theorem resolveRecord_cases (cookieToken : String) (now : Instant) (record : OperatorSessionRecord) :
    (∃ e, resolveRecord service env cookieToken now (some record) = .raise e) ∨
      (∃ message, resolveRecord service env cookieToken now (some record) =
        revokeAndReject (service.sha256 cookieToken) now message) ∨
      (record.revokedAt = none ∧ now < record.absoluteExpiresAt ∧ now < record.idleExpiresAt) ∧
        ∃ claims, ClaimsOf env record now claims ∧
          resolveRecord service env cookieToken now (some record) =
            renew service env record cookieToken now claims := by
  unfold resolveRecord
  dsimp only
  by_cases hrevoked : record.revokedAt.isSome = true
  · rw [if_pos hrevoked]
    exact .inl ⟨_, rfl⟩
  rw [if_neg hrevoked]
  by_cases hexpired : record.absoluteExpiresAt ≤ now ∨ record.idleExpiresAt ≤ now
  · rw [if_pos hexpired]
    exact .inr (.inl ⟨_, rfl⟩)
  rw [if_neg hexpired]
  rcases hmaterial : env.decrypt record.providerTokenEnvelope record.envelopeKeyVersion
    ("oidc-session:" ++ record.sessionId) with failure | providerMaterial
  · cases failure with
    | unavailable => exact .inr (.inl ⟨_, rfl⟩)
    | other => exact .inl ⟨_, rfl⟩
  · dsimp only
    rcases currentClaims_cases env (service.sha256 cookieToken) now hmaterial with
      hclaims | ⟨e, hclaims⟩ | ⟨claims, hfrom, hclaims⟩
    · rw [hclaims]
      exact .inr (.inl ⟨_, rfl⟩)
    · rw [hclaims]
      exact .inl ⟨e, rfl⟩
    · rw [hclaims]
      rw [not_or, not_le, not_le] at hexpired
      rw [Bool.not_eq_true, Option.isSome_eq_false_iff, Option.isNone_iff_eq_none] at hrevoked
      exact .inr (.inr ⟨⟨hrevoked, hexpired⟩, claims, hfrom, rfl⟩)

/-- A write that succeeds was of the version that is there. -/
theorem updateSession_ok {session updated : OperatorSessionRecord} {version : Nat} {s : SessionStore}
    (h : (updateSession session version s).1 = .ok updated) :
    ∃ row ∈ s.sessions.rows, row.sessionId = session.sessionId ∧ row.sessionVersion = version := by
  rcases updateSession_cases session version s with ⟨e, hrun⟩ | ⟨_, hany, _, _⟩
  · rw [hrun] at h
    cases h
  · obtain ⟨row, hrow, hmatch⟩ := List.any_eq_true.mp hany
    exact ⟨row, hrow, isVersion_iff.mp hmatch⟩

/-- The write of a request is over the row that it has read. -/
theorem renew_keeps {record : OperatorSessionRecord} {cookieToken : String} {now : Instant}
    {claims : SessionClaims} {s : SessionStore} (hmem : record ∈ s.sessions.rows)
    (htoken : record.sessionTokenSha256 = service.sha256 cookieToken)
    (hlive : record.revokedAt = none ∧ now < record.absoluteExpiresAt ∧ now < record.idleExpiresAt) :
    Keeps service (renew service env record cookieToken now claims) (some env.tokenUrlsafe)
      (fun resolution s =>
        s.Live (service.sha256 cookieToken) resolution.projection.sessionId now) s := by
  refine Keeps.last (fun s' hs' => ?_) fun s' _ hs' hok => ?_
  · refine updateSession_step rfl (fun row hrow => hs'.same_version hmem hrow) rfl rfl
      ⟨min_le_right _ _, rfl⟩ ?_
    rw [htoken]
    unfold nextRecord
    split
    · exact .inr rfl
    · exact .inl rfl
  · obtain ⟨row, hrow, hid, hversion⟩ := updateSession_ok hok
    have hsame := hs'.same_version hmem hrow hid hversion
    exact ⟨row, hrow, hid, hsame ▸ htoken, hsame ▸ hlive⟩

theorem resolveSession_keeps (cookieToken : String) (now : Instant) (s : SessionStore) :
    Keeps service (resolveSession service env cookieToken now) (some env.tokenUrlsafe)
      (fun resolution s =>
        s.Live (service.sha256 cookieToken) resolution.projection.sessionId now) s := by
  refine .atomic_then (fun drawn s' => .refl drawn s') (fun record a => ?_) fun s' record _ hread => ?_
  · cases record with
    | none => nofun
    | some record =>
      rcases resolveRecord_cases env cookieToken now record with
        ⟨e, hend⟩ | ⟨message, hend⟩ | ⟨_, claims, _, hend⟩
      all_goals rw [hend]; nofun
  · cases record with
    | none => trivial
    | some record =>
      have hfind : s'.sessions.rows.find?
          (fun row => row.sessionTokenSha256 = service.sha256 cookieToken) = some record :=
        Except.ok.inj hread
      have hmem := List.mem_of_find?_eq_some hfind
      have htoken : record.sessionTokenSha256 = service.sha256 cookieToken := by
        simpa using List.find?_some hfind
      rcases resolveRecord_cases env cookieToken now record with
        ⟨e, hend⟩ | ⟨message, hend⟩ | ⟨hlive, claims, _, hend⟩
      · rw [hend]
        trivial
      · rw [hend]
        exact revokeAndReject_keeps _ now message _
      · rw [hend]
        exact renew_keeps env hmem htoken hlive

end

end ProofAgent.Sessions
