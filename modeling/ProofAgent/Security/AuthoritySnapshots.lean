import ProofAgent.Delivery.RunQueueApi
import ProofAgent.Security.AuthorityReads
import ProofAgent.Security.SessionLifecycle

/-! # One snapshot of the authority

The version, the epoch and the permissions of a session are read one after the other. They belong
together when no activation of another version falls between the first and the last of the reads;
an activation that does leaves a session with the version of one mapping and the epoch, or the
permissions, of another. -/
namespace ProofAgent.Sessions

open Base Base.Process SecurityConfigurationRepository

variable {service : SessionService} {recovery : RecoveryOidcGroupMapping} {env : Collaborators}
  {α : Type}

/-! ## What happens between the reads -/

/-- A step of the others: an activation, a new version, or anything to the sessions. -/
inductive Elsewhere : AuthorityWorld → AuthorityWorld → Prop
  | activated {versionId auditId : String} {version : PermissionMappingVersion}
      {security : SecurityConfiguration} (w : AuthorityWorld)
      (h : activatePermissionMapping versionId auditId w.security = (.ok version, security)) :
      Elsewhere w { w with
        security
        journal := w.journal ++ [.current security.activePermissionMapping security.permissionEpoch] }
  | appended {mapping version : PermissionMappingVersion} {expectedRevision : Nat}
      {security : SecurityConfiguration} (w : AuthorityWorld)
      (h : appendPermissionMapping mapping expectedRevision w.security = (.ok version, security)) :
      Elsewhere w { w with security }
  | sessions (sessions : SessionStore) (w : AuthorityWorld) : Elsewhere w { w with sessions }

/-- The current pair is in the journal. -/
def Noted (w : AuthorityWorld) : Prop :=
  .current w.security.activePermissionMapping w.security.permissionEpoch ∈ w.journal

/-- A moment and a later one: versions stay, and another active version has been noted. -/
structure Later (s t : AuthorityWorld) : Prop where
  journal : s.journal <+: t.journal
  versions : ∀ versionId mapping, s.security.permissionMappingVersions.find? versionId = some mapping →
    t.security.permissionMappingVersions.find? versionId = some mapping
  active : t.security.activePermissionMapping = s.security.activePermissionMapping ∨
    ∃ epoch, .current t.security.activePermissionMapping epoch ∈ t.journal.drop s.journal.length

theorem Later.refl (w : AuthorityWorld) : Later w w := ⟨List.prefix_rfl, fun _ _ h => h, .inl rfl⟩

theorem Later.trans {s t u : AuthorityWorld} (hst : Later s t) (htu : Later t u) : Later s u := by
  refine ⟨hst.journal.trans htu.journal,
    fun versionId mapping h => htu.versions _ _ (hst.versions _ _ h), ?_⟩
  have hlength : s.journal.length ≤ t.journal.length := hst.journal.length_le
  rcases htu.active with hsame | ⟨epoch, hnoted⟩
  · rw [hsame]
    rcases hst.active with hsame' | ⟨epoch, hnoted⟩
    · exact .inl hsame'
    · exact .inr ⟨epoch, (htu.journal.drop _).mem hnoted⟩
  · exact .inr ⟨epoch, List.drop_subset_drop_left _ hlength hnoted⟩

theorem activatePermissionMapping_ok {versionId auditId : String} {version : PermissionMappingVersion}
    {s t : SecurityConfiguration}
    (h : activatePermissionMapping versionId auditId s = (.ok version, t)) :
    t.permissionMappingVersions = s.permissionMappingVersions ∧
      t.authority = (some versionId, s.permissionEpoch + 1) := by
  unfold activatePermissionMapping at h
  split at h
  · cases h
  · split at h
    · cases h
    · obtain ⟨_, rfl⟩ := Prod.mk.inj h
      exact ⟨rfl, rfl⟩

theorem appendPermissionMapping_ok {mapping version : PermissionMappingVersion}
    {expectedRevision : Nat} {s t : SecurityConfiguration}
    (h : appendPermissionMapping mapping expectedRevision s = (.ok version, t)) :
    t.permissionMappingVersions.rows = s.permissionMappingVersions.rows ++ [mapping] ∧
      t.authority = s.authority := by
  unfold appendPermissionMapping at h
  split at h
  · cases h
  · split at h
    · cases h
    · split at h
      · cases h
      · rename_i hinsert
        obtain ⟨_, rfl⟩ := Prod.mk.inj h
        exact ⟨(Table.insert?_some hinsert).1, rfl⟩

theorem Elsewhere.later {s t : AuthorityWorld} (h : Elsewhere s t) :
    Later s t ∧ (Noted s → Noted t) := by
  cases h with
  | @activated _ _ _ security _ h =>
    obtain ⟨hversions, _⟩ := activatePermissionMapping_ok h
    refine ⟨⟨List.prefix_append _ _, fun versionId mapping hfind => hversions ▸ hfind,
      .inr ⟨security.permissionEpoch, ?_⟩⟩, fun _ => ?_⟩
    · rw [List.drop_left]
      exact List.mem_singleton_self _
    · exact List.mem_append_right _ (List.mem_singleton_self _)
  | appended _ h =>
    obtain ⟨hrows, hauthority⟩ := appendPermissionMapping_ok h
    obtain ⟨hactive, hepoch⟩ := Prod.mk.inj hauthority
    refine ⟨⟨List.prefix_rfl, fun versionId mapping hfind => ?_, .inl hactive⟩, fun hnoted => ?_⟩
    · unfold Table.find? at hfind ⊢
      rw [hrows, List.find?_append, hfind]
      rfl
    · unfold Noted
      dsimp only
      rw [hactive, hepoch]
      exact hnoted
  | sessions _ _ => exact ⟨⟨List.prefix_rfl, fun _ _ h => h, .inl rfl⟩, id⟩

/-- A later moment, at which the current pair is in the journal. -/
def Reaches (s t : AuthorityWorld) : Prop := Later s t ∧ Noted t

theorem Reaches.trans {s t u : AuthorityWorld} (hst : Reaches s t) (htu : Reaches t u) :
    Reaches s u :=
  ⟨hst.1.trans htu.1, htu.2⟩

theorem Noted.among {s t : AuthorityWorld} (hs : Noted s)
    (hst : Relation.ReflTransGen Elsewhere s t) : Reaches s t := by
  induction hst with
  | refl => exact ⟨.refl s, hs⟩
  | tail _ hstep ih => exact ⟨ih.1.trans hstep.later.1, hstep.later.2 ih.2⟩

theorem Noted.log {w : AuthorityWorld} (h : Noted w) (e : AuthorityEvent) : Reaches w (w.log e) :=
  ⟨⟨List.prefix_append _ _, fun _ _ h => h, .inl rfl⟩, List.mem_append_left _ h⟩

/-! ## The calls -/

/-- What a call does to the sessions leaves the authority to the others. -/
theorem onSessions_ensures (x : SessionCall α) : ∀ {s : AuthorityWorld}, Noted s →
    (onSessions x).Ensures Elsewhere (fun _ t => Reaches s t) s := by
  induction x with
  | done r => exact fun hs => ⟨.refl _, hs⟩
  | step write next ih =>
    intro s hs t hst
    have hreaches := hs.among hst
    have hwritten := hreaches.2.among (.single (.sessions (write t.sessions) t))
    exact ensures_mono (fun _ u hu => hreaches.trans (hwritten.trans hu)) (ih t.sessions hwritten.2)

/-- An authority that is not changed between the call's two looks at the mapping, except by an
activation of the version that is active. -/
def StableReads (journal : List AuthorityEvent) : Prop :=
  ∀ before mid after versionId, journal = before ++ .mappingRead versionId :: (mid ++ .institutionRead :: after) →
    ∀ other epoch, .current other epoch ∈ mid → other = versionId

/-- A resolution carries a pair that was current at one instant, and what its mapping gives. -/
structure Consistent (recovery : RecoveryOidcGroupMapping) (w : AuthorityWorld)
    (r : SessionResolution) : Prop where
  current : .current r.permissionMappingVersionId r.permissionEpoch ∈ w.journal
  permissions : r.projection.effectivePermissions = permissionValues
    (effectivePermissions recovery r.projection.principal
      (w.security.mapping r.permissionMappingVersionId))
  institution : r.institutionAuthorization = institutionAuthorization r.projection.principal
    (w.security.mapping r.permissionMappingVersionId)

/-- The call has read `versionId` as its last event, and then the epoch of a record. -/
structure Prepared (versionId : Option String) (epoch : Nat) (w : AuthorityWorld) : Prop where
  noted : Noted w
  reads : ∃ before s u, s.journal = before ++ [.mappingRead versionId] ∧
    s.security.activePermissionMapping = versionId ∧ Later s u ∧ Later u w ∧
    .current u.security.activePermissionMapping epoch ∈ u.journal

/-- The active version has a mapping, and its id is that version. -/
theorem getActivePermissionMapping_versionId (s : SecurityConfiguration) :
    (getActivePermissionMapping s).map (·.versionId) = s.activePermissionMapping := by
  unfold getActivePermissionMapping
  cases hactive : s.activePermissionMapping with
  | none => rfl
  | some versionId =>
    obtain ⟨mapping, hmapping⟩ := Option.isSome_iff_exists.mp (s.active_known versionId hactive)
    rw [Option.bind_some, hmapping, Option.map_some, (Table.find?_some hmapping).2]

theorem Later.mapping {s t : AuthorityWorld} (h : Later s t) {versionId : Option String}
    (hactive : s.security.activePermissionMapping = versionId) :
    t.security.mapping versionId = s.security.mapping versionId := by
  cases versionId with
  | none => rfl
  | some versionId =>
    obtain ⟨mapping, hmapping⟩ := Option.isSome_iff_exists.mp (s.security.active_known versionId hactive)
    exact (h.versions _ _ hmapping).trans hmapping.symm

theorem resolution_ensures {record : OperatorSessionRecord} {cookieToken : String} {rotated : Bool}
    {w : AuthorityWorld}
    (h : Prepared record.permissionMappingVersionId record.permissionEpoch w) :
    (WithAuthority.resolution service recovery env record cookieToken rotated).Ensures Elsewhere
      (fun r t => ∀ resolution, r = .ok resolution → StableReads t.journal →
        Consistent recovery t resolution) w := by
  intro u₁ hu₁ u₂ hu₂ resolution hr hsettled
  obtain ⟨before, s, u, hbefore, hactive, hsu, huw, hcurrent⟩ := h.reads
  have hfirst := h.noted.among hu₁
  have hsecond := hfirst.2.among hu₂
  have huu₁ : Later u u₁ := huw.trans hfirst.1
  obtain ⟨mid, hmid⟩ := (hsu.trans (huu₁.trans hsecond.1)).journal
  have hquiet : ∀ other epoch, .current other epoch ∈ mid → other = record.permissionMappingVersionId :=
    hsettled before mid [] _ (by
      show u₂.journal ++ [.institutionRead] = _
      rw [← hmid, hbefore]
      simp)
  -- the version that was read is the active one at every moment of the call
  have hstill : ∀ x, Later s x → Later x u₂ →
      x.security.activePermissionMapping = record.permissionMappingVersionId := by
    intro x hsx hxu
    rcases hsx.active with hsame | ⟨epoch, hnoted⟩
    · exact hsame.trans hactive
    · refine hquiet _ epoch ?_
      have hmem := (hxu.journal.drop _).mem hnoted
      rwa [← hmid, List.drop_left] at hmem
  obtain rfl := Except.ok.inj hr
  have hu := hstill u hsu (huu₁.trans hsecond.1)
  have h₁ := hstill u₁ (hsu.trans huu₁) hsecond.1
  have h₂ := hstill u₂ (hsu.trans (huu₁.trans hsecond.1)) (.refl _)
  refine ⟨?_, ?_, ?_⟩
  · rw [hu] at hcurrent
    exact List.mem_append_left _ ((huu₁.trans hsecond.1).journal.mem hcurrent)
  · show permissionValues (effectivePermissions recovery record.principal
      (u₁.security.mapping u₁.security.activePermissionMapping)) = _
    rw [h₁, ← hsecond.1.mapping h₁]
    rfl
  · show institutionAuthorization record.principal
      (u₂.security.mapping u₂.security.activePermissionMapping) = _
    rw [h₂]
    rfl

theorem permissionEpoch_ensures {β : Type} {Q : Except SessionError β → AuthorityWorld → Prop}
    {f : Nat → AuthorityCall β} {w : AuthorityWorld} (hw : Noted w)
    (h : ∀ t, Reaches w t → (f t.security.permissionEpoch).Ensures Elsewhere Q t) :
    (permissionEpoch >>= f).Ensures Elsewhere Q w :=
  fun t ht => h t (hw.among ht)

/-- The record of a login or of a request has the version and the epoch that the call has read. -/
theorem read_ensures {Q : Except SessionError SessionResolution → AuthorityWorld → Prop}
    {f : Option PermissionMappingVersion → Nat → AuthorityCall SessionResolution} {w : AuthorityWorld}
    (hw : Noted w) (h : ∀ active epoch t,
      Prepared (active.map (·.versionId)) epoch t → (f active epoch).Ensures Elsewhere Q t) :
    (activeMapping >>= fun active => permissionEpoch >>= fun epoch => f active epoch).Ensures
      Elsewhere Q w := by
  intro s hs
  have hlogged := (hw.among hs).2.log
    (.mappingRead ((getActivePermissionMapping s.security).map (·.versionId)))
  refine permissionEpoch_ensures hlogged.2 fun u hreaches => ?_
  refine h (getActivePermissionMapping s.security) u.security.permissionEpoch u
    ⟨hreaches.2, s.journal, _, u, rfl, ?_, hreaches.1, .refl u, hreaches.2⟩
  exact (getActivePermissionMapping_versionId s.security).symm

theorem Prepared.reaches {versionId : Option String} {epoch : Nat} {s t : AuthorityWorld}
    (h : Prepared versionId epoch s) (hst : Reaches s t) : Prepared versionId epoch t := by
  obtain ⟨before, first, u, hbefore, hactive, hsu, hus, hcurrent⟩ := h.reads
  exact ⟨hst.2, before, first, u, hbefore, hactive, hsu, hus.trans hst.1, hcurrent⟩

/-- What is left of a call after its write. -/
theorem written_ensures {β : Type} {x : SessionCall β} {record : OperatorSessionRecord}
    {cookieToken : String} {rotated : Bool} {w : AuthorityWorld}
    (h : Prepared record.permissionMappingVersionId record.permissionEpoch w) :
    (onSessions x >>= fun _ =>
      WithAuthority.resolution service recovery env record cookieToken rotated).Ensures Elsewhere
      (fun r t => ∀ resolution, r = .ok resolution → StableReads t.journal →
        Consistent recovery t resolution) w := by
  refine ensures_bind (ensures_mono (fun r t ht => ?_) (onSessions_ensures x h.noted))
  cases r with
  | error e => exact fun _ hr => (nomatch hr)
  | ok _ => exact resolution_ensures (h.reaches ht)

theorem completeLogin_ensures (state code : String) (now : Instant) {w : AuthorityWorld}
    (hw : Noted w) :
    (WithAuthority.completeLogin service recovery env state code now).Ensures Elsewhere
      (fun r t => ∀ resolution, r = .ok resolution → StableReads t.journal →
        Consistent recovery t resolution) w := by
  refine ensures_bind (ensures_mono (fun r t ht => ?_) (onSessions_ensures _ hw))
  cases r with
  | error e => exact fun _ hr => (nomatch hr)
  | ok attempt =>
    cases attempt with
    | none => exact ensures_raise fun _ hr => (nomatch hr)
    | some attempt =>
      dsimp only
      split
      · exact ensures_raise fun _ hr => (nomatch hr)
      · rename_i verified _
        refine ensures_bind (ensures_ofExcept ?_)
        cases orOther (env.encrypt verified.providerTokenMaterial ("oidc-session:" ++ env.uuid4)) with
        | error e => exact fun _ hr => (nomatch hr)
        | ok envelope => exact read_ensures ht.2 fun active epoch u hu => written_ensures hu

theorem revokeAndReject_ensures {Q : Except SessionError α → AuthorityWorld → Prop}
    (hQ : ∀ e t, Q (.error e) t) (tokenHash message : String) (now : Instant) (w : AuthorityWorld) :
    (onSessions (revokeAndReject tokenHash now message)).Ensures Elsewhere Q w := by
  intro t _
  show (onSessions (.ofExcept (revokeByTokenHash tokenHash now t.sessions).1 >>= fun _ =>
    .raise (.authentication message))).Ensures Elsewhere Q _
  cases (revokeByTokenHash tokenHash now t.sessions).1 with
  | error e => exact hQ _ _
  | ok _ => exact hQ _ _

theorem resolveSession_ensures (cookieToken : String) (now : Instant) {w : AuthorityWorld}
    (hw : Noted w) :
    (WithAuthority.resolveSession service recovery env cookieToken now).Ensures Elsewhere
      (fun r t => ∀ resolution, r = .ok resolution → StableReads t.journal →
        Consistent recovery t resolution) w := by
  refine ensures_bind (ensures_mono (fun r t ht => ?_) (onSessions_ensures _ hw))
  cases r with
  | error e => exact fun _ hr => (nomatch hr)
  | ok found =>
    cases found with
    | none => exact ensures_raise fun _ hr => (nomatch hr)
    | some record =>
      dsimp only [WithAuthority.resolveRecord]
      split
      · exact ensures_raise fun _ hr => (nomatch hr)
      · split
        · exact revokeAndReject_ensures (fun _ _ _ hr => (nomatch hr)) _ _ _ _
        · split
          · exact revokeAndReject_ensures (fun _ _ _ hr => (nomatch hr)) _ _ _ _
          · exact ensures_raise fun _ hr => (nomatch hr)
          · refine permissionEpoch_ensures ht.2 fun u hu => ?_
            refine ensures_bind (ensures_mono (fun r v hv => ?_) (onSessions_ensures _ hu.2))
            cases r with
            | error e => exact fun _ hr => (nomatch hr)
            | ok claims => exact read_ensures hv.2 fun active storedEpoch x hx => written_ensures hx

/-! ## Every interleaving -/

/-- The calls that return a session. -/
inductive SignIn where
  | completeLogin (env : Collaborators) (state code : String) (now : Instant)
  | resolveSession (env : Collaborators) (cookieToken : String) (now : Instant)

variable (service recovery) in
def SignIn.call : SignIn → AuthorityCall SessionResolution
  | completeLogin env state code now => WithAuthority.completeLogin service recovery env state code now
  | resolveSession env cookieToken now =>
    WithAuthority.resolveSession service recovery env cookieToken now

/-- The instant at which a run begins. -/
def AuthorityWorld.beginning (sessions : SessionStore) (security : SecurityConfiguration) :
    AuthorityWorld :=
  ⟨sessions, security, [.current security.activePermissionMapping security.permissionEpoch]⟩

/-- A run is bound to one mapping: its version and its epoch were current at one instant, and it
was permitted by that mapping, which also gives its institution authorization. -/
structure AdmittedUnder (recovery : RecoveryOidcGroupMapping) (w : AuthorityWorld)
    (principal : OidcPrincipal) (request : RunRequest) : Prop where
  current : .current (some request.permissionMappingVersionId) request.permissionEpoch ∈ w.journal
  permitted : .runSubmit ∈ effectivePermissions recovery principal
    (w.security.mapping (some request.permissionMappingVersionId))
  institution : request.institutionAuthorization = institutionAuthorization principal
    (w.security.mapping (some request.permissionMappingVersionId))

theorem mem_permissionValues {p : Permission} {permissions : List Permission} :
    p.value ∈ permissionValues permissions ↔ p ∈ permissions := by
  unfold permissionValues
  rw [(List.perm_insertionSort _ _).mem_iff, List.mem_map]
  constructor
  · rintro ⟨q, hq, hvalue⟩
    exact Permission.value_injective hvalue ▸ hq
  · exact fun hp => ⟨p, hp, rfl⟩

theorem Consistent.admitted {w : AuthorityWorld} {r : SessionResolution}
    (h : Consistent recovery w r) {rt : Runtime} {agent : PublishedAgent} {submission : Submission}
    {now : Instant} {db db' : Database} {record : RunQueueRecord}
    (hsubmit : RunQueueApi.submitRun rt r.identity agent submission now db =
      .ok ((record, true), db')) :
    AdmittedUnder recovery w r.projection.principal record.request := by
  obtain ⟨hpermitted, hversion, hepoch, hinstitution⟩ := RunQueueApi.submitRun_created hsubmit
  have hversion : some record.request.permissionMappingVersionId = r.permissionMappingVersionId :=
    hversion
  refine ⟨?_, ?_, ?_⟩
  · rw [hversion, hepoch]
    exact h.current
  · rw [hversion]
    have hvalue : Permission.runSubmit.value ∈ r.projection.effectivePermissions := hpermitted
    rw [h.permissions] at hvalue
    exact mem_permissionValues.mp hvalue
  · rw [hversion, hinstitution]
    exact h.institution

/-- **One snapshot.** Whatever happens around a login or a request: if no activation of another
version falls between its reads, the session it returns carries a version and an epoch that were
current at one instant and what this mapping gives to its principal; and so does every run that
is admitted under it. -/
theorem session_consistent (call : SignIn) (sessions : SessionStore)
    (security : SecurityConfiguration) {resolution : SessionResolution} {t : AuthorityWorld}
    (hends : (call.call service recovery).EndsAmong Elsewhere (.beginning sessions security)
      (.ok resolution) t) (hsettled : StableReads t.journal) :
    Consistent recovery t resolution ∧
      ∀ (rt : Runtime) (agent : PublishedAgent) (submission : Submission) (now : Instant)
        (db db' : Database) (record : RunQueueRecord),
        RunQueueApi.submitRun rt resolution.identity agent submission now db =
          .ok ((record, true), db') →
        AdmittedUnder recovery t resolution.projection.principal record.request := by
  have hnoted : Noted (.beginning sessions security) := List.mem_singleton_self _
  have hensures : (call.call service recovery).Ensures Elsewhere (fun r t =>
      ∀ resolution, r = .ok resolution → StableReads t.journal → Consistent recovery t resolution)
      (.beginning sessions security) := by
    cases call with
    | completeLogin env state code now => exact completeLogin_ensures state code now hnoted
    | resolveSession env cookieToken now => exact resolveSession_ensures cookieToken now hnoted
  have hconsistent := hensures.ends hends resolution rfl hsettled
  exact ⟨hconsistent, fun _ _ _ _ _ _ _ hsubmit => hconsistent.admitted hsubmit⟩

namespace Sample

/-- A mapping with one rule, for the staff. -/
def staffMapping (versionId : String) (revision : Nat) (permission : Permission) :
    PermissionMappingVersion where
  versionId
  revision
  rules := [⟨"groups", "staff", [permission], none, List.nodup_singleton _⟩]
  distinct := List.nodup_singleton _

/-- Two versions; the first one is active. -/
def configuration : SecurityConfiguration where
  permissionMappingVersions :=
    ⟨[staffMapping "first" 1 .runSubmit, staffMapping "second" 2 .runView], by decide⟩
  activePermissionMapping := some "first"
  permissionMappingRevision := 2
  permissionEpoch := 1
  active_known := by decide

def recoveryGroup : RecoveryOidcGroupMapping where
  claimPath := "groups"
  groupName := "recovery"
  permissions := [.permissionMappingView, .permissionMappingEdit, .auditView]
  minimum := fun _ h => h

def loginAttempt : OidcLoginAttemptRecord where
  stateSha256 := "state"
  nonceEnvelope := "nonce"
  pkceVerifierEnvelope := "verifier"
  envelopeKeyVersion := "v1"
  redirectUri := "https://agent"
  createdAt := 0
  expiresAt := loginLifetime

/-- The login of an operator of the staff. -/
def staffLogin : SignIn :=
  .completeLogin { answers 0 1 "token-1" with
    exchangeCode := fun _ _ _ _ => some ⟨{ operator 0 with trustedGroups := ["staff"] }, "material"⟩ }
    "state" "code" 0

def beginning : AuthorityWorld :=
  .beginning ⟨⟨[loginAttempt], List.nodup_singleton _⟩, .empty⟩ configuration

/-- The second version is activated. -/
def activate (w : AuthorityWorld) : AuthorityWorld :=
  match activatePermissionMapping "second" "audit" w.security with
  | (.ok _, security) => { w with
      security
      journal := w.journal ++ [.current security.activePermissionMapping security.permissionEpoch] }
  | (.error _, _) => w

/-- It is activated after the first transactions of the login, which then goes on. -/
def activatedAfter (before later : Nat) : Moment AuthorityWorld SessionError SessionResolution :=
  let m := Moment.advance^[before] ⟨staffLogin.call digests recoveryGroup, beginning⟩
  Moment.advance^[later] ⟨m.rest, activate m.state⟩

theorem activatedAfter_reached (before later : Nat) :
    Relation.ReflTransGen (Move Elsewhere) ⟨staffLogin.call digests recoveryGroup, beginning⟩
      (activatedAfter before later) := by
  unfold activatedAfter
  refine (Moment.reaches _ ⟨staffLogin.call digests recoveryGroup, beginning⟩ before).trans ?_
  generalize Moment.advance^[before] (⟨staffLogin.call digests recoveryGroup, beginning⟩ :
    Moment AuthorityWorld SessionError SessionResolution) = m
  refine .trans ?_ (Moment.reaches _ _ later)
  unfold activate
  split
  · rename_i security hactivate
    exact .single (.others _ (.activated m.state hactivate))
  · exact .refl

/-- What a login returns that ends with its next transaction. -/
def returned (m : Moment AuthorityWorld SessionError SessionResolution) :
    Option (Option String × Nat × List String) :=
  match m.last with
  | some (.ok r) =>
    some (r.permissionMappingVersionId, r.permissionEpoch, r.projection.effectivePermissions)
  | _ => none

theorem returned_eq {m : Moment AuthorityWorld SessionError SessionResolution}
    {versionId : Option String} {epoch : Nat} {permissions : List String}
    (h : returned m = some (versionId, epoch, permissions)) :
    ∃ r, m.last = some (.ok r) ∧ r.permissionMappingVersionId = versionId ∧
      r.permissionEpoch = epoch ∧ r.projection.effectivePermissions = permissions := by
  unfold returned at h
  split at h
  · rename_i r hlast
    obtain ⟨hversion, hrest⟩ := Prod.mk.inj (Option.some.inj h)
    obtain ⟨hepoch, hpermissions⟩ := Prod.mk.inj hrest
    exact ⟨r, hlast, hversion, hepoch, hpermissions⟩
  · cases h

end Sample

/-- An activation between the reads of a login: its session has the first version, the epoch of
the second one and the permissions of the second one. -/
theorem snapshot_mixed : ∃ r t,
    (Sample.staffLogin.call Sample.digests Sample.recoveryGroup).EndsAmong Elsewhere
      Sample.beginning (.ok r) t ∧
    r.permissionMappingVersionId = some "first" ∧ r.permissionEpoch = 2 ∧
    r.projection.effectivePermissions = ["run.view"] ∧
    (t.sessions.sessions.rows.map fun row => (row.permissionMappingVersionId, row.permissionEpoch)) =
      [(some "first", 2)] ∧
    (∀ epoch, .current (some "first") epoch ∈ t.journal → epoch = 1) ∧
    ¬ Consistent Sample.recoveryGroup t r := by
  obtain ⟨r, hlast, hversion, hepoch, hpermissions⟩ := Sample.returned_eq
    (by decide +kernel : Sample.returned (Sample.activatedAfter 2 3) = some (some "first", 2, ["run.view"]))
  have hjournal : (Sample.activatedAfter 2 3).advance.state.journal =
      [.current (some "first") 1, .mappingRead (some "first"), .current (some "second") 2,
        .institutionRead] := by
    decide +kernel
  have hfirst : ∀ epoch, .current (some "first") epoch ∈
      (Sample.activatedAfter 2 3).advance.state.journal → epoch = 1 := by
    intro epoch hmem
    rw [hjournal] at hmem
    simpa using hmem
  refine ⟨r, _, Moment.ends (Sample.activatedAfter_reached 2 3) hlast, hversion, hepoch, hpermissions,
    by decide +kernel, hfirst, fun hconsistent => ?_⟩
  have hcurrent := hconsistent.current
  rw [hversion, hepoch] at hcurrent
  exact absurd (hfirst 2 hcurrent) (by decide)

/-- The same login, when the activation comes before its reads. -/
theorem session_consistent_login : ∃ r t,
    (Sample.staffLogin.call Sample.digests Sample.recoveryGroup).EndsAmong Elsewhere
      Sample.beginning (.ok r) t ∧ Consistent Sample.recoveryGroup t r := by
  obtain ⟨r, hlast, _⟩ := Sample.returned_eq
    (by decide +kernel : Sample.returned (Sample.activatedAfter 1 4) = some (some "second", 2, ["run.view"]))
  have hends := Moment.ends (Sample.activatedAfter_reached 1 4) hlast
  have hjournal : (Sample.activatedAfter 1 4).advance.state.journal =
      [.current (some "first") 1, .current (some "second") 2, .mappingRead (some "second"),
        .institutionRead] := by
    decide +kernel
  refine ⟨r, _, hends, (session_consistent Sample.staffLogin _ _ hends fun before mid after versionId h => ?_).1⟩
  rw [hjournal] at h
  rcases before with _ | ⟨a, _ | ⟨b, _ | ⟨c, before⟩⟩⟩
  · cases h
  · cases h
  · simp only [List.cons_append, List.nil_append, List.cons.injEq] at h
    rcases mid with _ | ⟨d, mid⟩
    · exact fun _ _ hmem => (nomatch hmem)
    · simp at h
  · have hlength := congrArg List.length h
    simp at hlength
    omega

end ProofAgent.Sessions
