import ProofAgent.Base.Accompanied
import ProofAgent.Contracts.Security
import ProofAgent.Persistence.SecurityRepository
import ProofAgent.Security.SessionService

/-! # Sessions and the security configuration

A login and a request read the active mapping, the permission epoch and, for the permissions and
for the institution authorization, the active mapping again. Each of these is a transaction of
its own, and an activation may come between any two of them. The journal is a ghost: it has the
pair of version and epoch at each instant, and the call's first and last look at the mapping.

Permissions are the union of what the rules of a mapping grant to the trusted claims of the
principal, and of what the deployment keeps for its recovery group. -/
namespace ProofAgent.Sessions

open Base

/-! ## Permissions of a principal -/

/-- `_claim_values`. -/
def claimValues (principal : OidcPrincipal) (claimPath : String) : List String :=
  if claimPath = "groups" ∨ claimPath = "trusted_groups" then principal.trustedGroups
  else if claimPath = "roles" ∨ claimPath = "trusted_roles" then principal.trustedRoles
  else (principal.trustedClaims.lookup claimPath).getD []

/-- The rules of a mapping that a principal matches. -/
def matchedRules (principal : OidcPrincipal) (selected : Option PermissionMappingVersion) :
    List PermissionClaimRule :=
  match selected with
  | none => []
  | some mapping =>
    mapping.rules.filter fun rule => (claimValues principal rule.claimPath).contains rule.claimValue

/-- `effective_permissions`, without repetitions. -/
def effectivePermissions (recovery : RecoveryOidcGroupMapping) (principal : OidcPrincipal)
    (selected : Option PermissionMappingVersion) : List Permission :=
  let granted := (matchedRules principal selected).flatMap (·.permissions)
  if (claimValues principal recovery.claimPath).contains recovery.groupName then
    (granted ++ recovery.permissions).dedup
  else granted.dedup

/-- `tuple(sorted(item.value for item in permissions))`. -/
def permissionValues (permissions : List Permission) : List String :=
  (permissions.map Permission.value).insertionSort (· ≤ ·)

/-- `institution_authorization`. -/
def institutionAuthorization (principal : OidcPrincipal)
    (selected : Option PermissionMappingVersion) : InstitutionAuthorizationContext :=
  let admitted (field : InstitutionAuthorizationContext → List String) : List String :=
    ((matchedRules principal selected).flatMap fun rule =>
      (rule.institutionAuthorization.map field).getD []).dedup.insertionSort (· ≤ ·)
  { institutions := admitted (·.institutions)
    regions := admitted (·.regions)
    channels := admitted (·.channels)
    roles := admitted (·.roles)
    businessLines := admitted (·.businessLines) }

/-! ## Calls with transactions in between -/

inductive AuthorityEvent where
  /-- From now on this pair is the current one. -/
  | current (versionId : Option String) (epoch : Nat)
  /-- The call has read the active mapping, for the record that it writes. -/
  | mappingRead (versionId : Option String)
  /-- The call has read it for the last time, for the institution authorization. -/
  | institutionRead
  deriving DecidableEq

/-- What logins, requests and activations share. -/
structure AuthorityWorld where
  sessions : SessionStore
  security : SecurityConfiguration
  journal : List AuthorityEvent

def AuthorityWorld.log (e : AuthorityEvent) (w : AuthorityWorld) : AuthorityWorld :=
  { w with journal := w.journal ++ [e] }

abbrev AuthorityCall (α : Type) := Process AuthorityWorld SessionError α

/-- A call that works on the sessions. -/
def onSessions {α : Type} : SessionCall α → AuthorityCall α
  | .done r => .done r
  | .step write next =>
    .step (fun w => { w with sessions := write w.sessions }) fun w => onSessions (next w.sessions)

open SecurityConfigurationRepository

/-- `active_mapping`. -/
def activeMapping : AuthorityCall (Option PermissionMappingVersion) :=
  .step (fun w => w.log (.mappingRead ((getActivePermissionMapping w.security).map (·.versionId))))
    fun w => .done (.ok (getActivePermissionMapping w.security))

/-- `permission_epoch`. -/
def permissionEpoch : AuthorityCall Nat := .step id fun w => .done (.ok w.security.permissionEpoch)

/-- The read of `effective_permissions`. -/
def readPermissions : AuthorityCall (Option PermissionMappingVersion) :=
  .step id fun w => .done (.ok (getActivePermissionMapping w.security))

/-- The read of `institution_authorization`. -/
def readInstitution : AuthorityCall (Option PermissionMappingVersion) :=
  .step (·.log .institutionRead) fun w => .done (.ok (getActivePermissionMapping w.security))

variable (service : SessionService) (recovery : RecoveryOidcGroupMapping) (env : Collaborators)

/-- The answers of the mapping for a record. -/
def Collaborators.mapped (active : Option PermissionMappingVersion) (epoch storedEpoch : Nat) :
    Collaborators :=
  { env with
    activeMapping := active.map (·.versionId)
    permissionEpoch := epoch
    storedPermissionEpoch := storedEpoch }

/-- The answers of the mapping for a resolution. -/
def Collaborators.authorized (permissions institution : Option PermissionMappingVersion) :
    Collaborators :=
  { env with
    effectivePermissions := fun principal =>
      permissionValues (Sessions.effectivePermissions recovery principal permissions)
    institutionAuthorization := fun principal =>
      Sessions.institutionAuthorization principal institution }

namespace WithAuthority

/-- `_resolution`. -/
def resolution (record : OperatorSessionRecord) (cookieToken : String) (rotated : Bool) :
    AuthorityCall SessionResolution := do
  let permissions ← readPermissions
  let institution ← readInstitution
  return Sessions.resolution service (env.authorized recovery permissions institution) record
    cookieToken rotated

/-- `complete_login`. -/
def completeLogin (state code : String) (now : Instant) : AuthorityCall SessionResolution := do
  let stateDigest := service.sha256 state
  match ← onSessions (.atomic (consumeLoginAttempt stateDigest now)) with
  | none => .raise (.authentication "OIDC authorization state is invalid or replayed")
  | some attempt =>
    match exchange env attempt stateDigest code with
    | none => .raise (.authentication "OIDC authorization response is invalid")
    | some verified => do
      let envelope ← .ofExcept
        (orOther (env.encrypt verified.providerTokenMaterial ("oidc-session:" ++ env.uuid4)))
      let active ← activeMapping
      let epoch ← permissionEpoch
      let record := firstRecord service (env.mapped active epoch epoch) now verified envelope
      onSessions (.atomic (createSession record))
      resolution service recovery env record env.tokenUrlsafe true

/-- The write of a request, with the epoch that it has looked at first. -/
def renew (record : OperatorSessionRecord) (cookieToken : String) (now : Instant) (epoch : Nat)
    (claims : SessionClaims) : AuthorityCall SessionResolution := do
  let active ← activeMapping
  let storedEpoch ← permissionEpoch
  let env := env.mapped active epoch storedEpoch
  let rotate := rotates env record claims
  let nextCookie := if rotate then env.tokenUrlsafe else cookieToken
  let updated := nextRecord service env record nextCookie now claims
  let _ ← onSessions (.atomic (updateSession updated record.sessionVersion))
  resolution service recovery env updated nextCookie rotate

/-- What `resolve_session` does with the record that it has read. -/
def resolveRecord (cookieToken : String) (now : Instant) :
    Option OperatorSessionRecord → AuthorityCall SessionResolution
  | none => .raise (.authentication "operator session is unavailable")
  | some record =>
    let tokenHash := service.sha256 cookieToken
    if record.revokedAt.isSome = true then
      .raise (.authentication "operator session is unavailable")
    else if record.absoluteExpiresAt ≤ now ∨ record.idleExpiresAt ≤ now then
      onSessions (revokeAndReject tokenHash now "operator session expired")
    else
      match env.decrypt record.providerTokenEnvelope record.envelopeKeyVersion
          ("oidc-session:" ++ record.sessionId) with
      | .error .unavailable =>
        onSessions (revokeAndReject tokenHash now "operator session key is unavailable")
      | .error .other => .raise .other
      | .ok providerMaterial => do
        let epoch ← permissionEpoch
        let claims ← onSessions (currentClaims env record tokenHash now providerMaterial)
        renew service recovery env record cookieToken now epoch claims

/-- `resolve_session`. -/
def resolveSession (cookieToken : String) (now : Instant) : AuthorityCall SessionResolution := do
  let record ← onSessions (.atomic (getByTokenHash (service.sha256 cookieToken)))
  resolveRecord service recovery env cookieToken now record

end WithAuthority

/-! ## Calls that nothing comes between -/

theorem onSessions_alone {α : Type} : ∀ (x : SessionCall α) (w : AuthorityWorld),
    (onSessions x).alone w = ((x.alone w.sessions).1, { w with sessions := (x.alone w.sessions).2 })
  | .done _, _ => rfl
  | .step write next, w => onSessions_alone (next w.sessions) { w with sessions := write w.sessions }

/-- What the collaborators answer by a configuration that stays as it is. -/
def Collaborators.answering (security : SecurityConfiguration) : Collaborators :=
  (env.mapped (getActivePermissionMapping security) security.permissionEpoch
    security.permissionEpoch).authorized recovery (getActivePermissionMapping security)
      (getActivePermissionMapping security)

/-- The write of a record, and its resolution. -/
theorem written_alone (w w' : AuthorityWorld) (hsecurity : w'.security = w.security)
    {β : Type} (x : SessionCall β) (record : OperatorSessionRecord) (cookieToken : String)
    (rotated : Bool) :
    let here := (onSessions x >>= fun _ =>
      WithAuthority.resolution service recovery env record cookieToken rotated).alone w'
    let there := (x >>= fun _ => (pure (resolution service (env.answering recovery w.security) record
      cookieToken rotated) : SessionCall _)).alone w'.sessions
    here.1 = there.1 ∧ here.2.sessions = there.2 := by
  dsimp only
  rw [Process.alone_bind, Process.alone_bind, Effect.run_bind, Effect.run_bind, onSessions_alone]
  cases h : x.alone w'.sessions with
  | mk r sessions =>
    cases r with
    | error e => exact ⟨rfl, rfl⟩
    | ok a =>
      rw [← hsecurity]
      exact ⟨rfl, rfl⟩

/-- **A login alone** is the login whose collaborators answer by the active mapping. -/
theorem login_alone (state code : String) (now : Instant) (w : AuthorityWorld) :
    ((WithAuthority.completeLogin service recovery env state code now).alone w).1 =
      ((completeLogin service (env.answering recovery w.security) state code now).alone w.sessions).1 ∧
    ((WithAuthority.completeLogin service recovery env state code now).alone w).2.sessions =
      ((completeLogin service (env.answering recovery w.security) state code now).alone w.sessions).2 := by
  unfold WithAuthority.completeLogin completeLogin
  rw [Process.alone_bind, Process.alone_bind, Effect.run_bind, Effect.run_bind, onSessions_alone]
  cases h : (Process.atomic (consumeLoginAttempt (service.sha256 state) now)).alone w.sessions with
  | mk r sessions =>
    cases r with
    | error e => exact ⟨rfl, rfl⟩
    | ok found =>
      cases found with
      | none => exact ⟨rfl, rfl⟩
      | some attempt =>
        have hexchange : exchange (env.answering recovery w.security) attempt (service.sha256 state) code =
          exchange env attempt (service.sha256 state) code := rfl
        dsimp only
        rw [hexchange]
        cases exchange env attempt (service.sha256 state) code with
        | none => exact ⟨rfl, rfl⟩
        | some verified =>
          have hencrypt : (env.answering recovery w.security).encrypt verified.providerTokenMaterial
              ("oidc-session:" ++ (env.answering recovery w.security).uuid4) =
            env.encrypt verified.providerTokenMaterial ("oidc-session:" ++ env.uuid4) := rfl
          dsimp only
          rw [hencrypt]
          cases orOther (env.encrypt verified.providerTokenMaterial ("oidc-session:" ++ env.uuid4)) with
          | error e => exact ⟨rfl, rfl⟩
          | ok envelope =>
            let record := firstRecord service (env.answering recovery w.security) now verified envelope
            exact written_alone service recovery env w { w with sessions, journal := w.journal ++
              [.mappingRead ((getActivePermissionMapping w.security).map (·.versionId))] } rfl
              (.atomic (createSession record)) record env.tokenUrlsafe true

/-- What a request does with the provider material of its record. -/
theorem claims_alone (cookieToken : String) (now : Instant) (w : AuthorityWorld)
    (sessions : SessionStore) (record : OperatorSessionRecord) (material : String) :
    let here := (permissionEpoch >>= fun epoch =>
      onSessions (currentClaims env record (service.sha256 cookieToken) now material) >>= fun claims =>
        WithAuthority.renew service recovery env record cookieToken now epoch claims).alone
          { w with sessions }
    let env' := env.answering recovery w.security
    let there := (currentClaims env' record (service.sha256 cookieToken) now material >>= fun claims =>
      renew service env' record cookieToken now claims).alone sessions
    here.1 = there.1 ∧ here.2.sessions = there.2 := by
  intro here env' there
  have hclaims : currentClaims env' record (service.sha256 cookieToken) now material =
    currentClaims env record (service.sha256 cookieToken) now material := rfl
  have hhere : here = (onSessions (currentClaims env record (service.sha256 cookieToken) now material) >>=
      fun claims => WithAuthority.renew service recovery env record cookieToken now
        w.security.permissionEpoch claims).alone { w with sessions } := rfl
  have hthere : there = (currentClaims env record (service.sha256 cookieToken) now material >>=
      fun claims => renew service env' record cookieToken now claims).alone sessions := by
    rw [← hclaims]
  rw [hhere, hthere, Process.alone_bind, Process.alone_bind, Effect.run_bind, Effect.run_bind,
    onSessions_alone]
  cases (currentClaims env record (service.sha256 cookieToken) now material).alone sessions with
  | mk r sessions' =>
    cases r with
    | error e => exact ⟨rfl, rfl⟩
    | ok claims =>
      let rotate := rotates env' record claims
      let updated := nextRecord service env' record (if rotate then env.tokenUrlsafe else cookieToken)
        now claims
      exact written_alone service recovery env w { w with sessions := sessions', journal := w.journal ++
        [.mappingRead ((getActivePermissionMapping w.security).map (·.versionId))] } rfl
        (.atomic (updateSession updated record.sessionVersion)) updated
        (if rotate then env.tokenUrlsafe else cookieToken) rotate

/-- **A request alone** is the request whose collaborators answer by the active mapping. -/
theorem request_alone (cookieToken : String) (now : Instant) (w : AuthorityWorld) :
    ((WithAuthority.resolveSession service recovery env cookieToken now).alone w).1 =
      ((resolveSession service (env.answering recovery w.security) cookieToken now).alone w.sessions).1 ∧
    ((WithAuthority.resolveSession service recovery env cookieToken now).alone w).2.sessions =
      ((resolveSession service (env.answering recovery w.security) cookieToken now).alone w.sessions).2 := by
  unfold WithAuthority.resolveSession resolveSession
  rw [Process.alone_bind, Process.alone_bind, Effect.run_bind, Effect.run_bind, onSessions_alone]
  cases h : (Process.atomic (getByTokenHash (service.sha256 cookieToken))).alone w.sessions with
  | mk r sessions =>
    cases r with
    | error e => exact ⟨rfl, rfl⟩
    | ok found =>
      cases found with
      | none => exact ⟨rfl, rfl⟩
      | some record =>
        have hdecrypt : (env.answering recovery w.security).decrypt record.providerTokenEnvelope
            record.envelopeKeyVersion ("oidc-session:" ++ record.sessionId) =
          env.decrypt record.providerTokenEnvelope record.envelopeKeyVersion
            ("oidc-session:" ++ record.sessionId) := rfl
        dsimp only [WithAuthority.resolveRecord, resolveRecord]
        rw [hdecrypt]
        split
        · exact ⟨rfl, rfl⟩
        · split
          · rw [onSessions_alone]
            exact ⟨rfl, rfl⟩
          · cases env.decrypt record.providerTokenEnvelope record.envelopeKeyVersion
                ("oidc-session:" ++ record.sessionId) with
            | error failure =>
              cases failure with
              | unavailable =>
                dsimp only
                rw [onSessions_alone]
                exact ⟨rfl, rfl⟩
              | other => exact ⟨rfl, rfl⟩
            | ok material => exact claims_alone service recovery env cookieToken now w sessions record material

end ProofAgent.Sessions
