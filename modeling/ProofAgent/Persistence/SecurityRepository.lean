import ProofAgent.Base.Effect
import ProofAgent.Base.Interleaving
import ProofAgent.Base.Table
import ProofAgent.Contracts.Security

/-! # The security configuration

Mapping versions are appended; one of them is active, and every activation counts the permission
epoch up in the same transaction. The reads of the mapping and of the epoch are transactions of
their own. -/
namespace ProofAgent

open Base

inductive SecurityError where
  | value (message : String)
  | persistenceConflict (resourceType resourceId : String) (expectedRevision actualRevision : Nat)
  | persistenceNotFound (resourceType resourceId : String)
  /-- `IntegrityError` of a primary key. -/
  | integrity
  deriving DecidableEq

/-- The tables of the permission mappings. -/
structure SecurityConfiguration where
  permissionMappingVersions : Table PermissionMappingVersion.versionId
  /-- The row of `active_permission_mapping`; its version is a foreign key. -/
  activePermissionMapping : Option String := none
  permissionMappingRevision : Nat := 0
  permissionEpoch : Nat := 0
  auditEvents : List String := []
  active_known : ∀ versionId ∈ activePermissionMapping,
    (permissionMappingVersions.find? versionId).isSome = true

abbrev SecurityQuery (α : Type) := Effect SecurityConfiguration SecurityError α

namespace SecurityConfigurationRepository

def appendPermissionMapping (version : PermissionMappingVersion) (expectedRevision : Nat) :
    SecurityQuery PermissionMappingVersion := fun s =>
  if version.revision ≠ expectedRevision + 1 then
    (.error (.value "permission mapping revision must increment exactly once"), s)
  else if s.permissionMappingRevision ≠ expectedRevision then
    (.error (.persistenceConflict "permission_mapping" version.versionId expectedRevision
      s.permissionMappingRevision), s)
  else
    match h : s.permissionMappingVersions.insert? version with
    | none => (.error .integrity, s)
    | some permissionMappingVersions => (.ok version, { s with
        permissionMappingVersions
        permissionMappingRevision := version.revision
        active_known := fun versionId hactive => by
          have hknown := s.active_known versionId hactive
          unfold Table.find? at hknown ⊢
          rw [(Table.insert?_some h).1, List.find?_append]
          cases hfound : s.permissionMappingVersions.rows.find?
              fun row => decide (row.versionId = versionId) with
          | none => rw [hfound] at hknown; cases hknown
          | some row => rfl })

def getPermissionMapping (versionId : String) (s : SecurityConfiguration) :
    Option PermissionMappingVersion :=
  s.permissionMappingVersions.find? versionId

def getActivePermissionMapping (s : SecurityConfiguration) : Option PermissionMappingVersion :=
  s.activePermissionMapping.bind s.permissionMappingVersions.find?

/-- `activate_permission_mapping`; `auditId` is the id of the audit event. -/
def activatePermissionMapping (versionId auditId : String) :
    SecurityQuery PermissionMappingVersion := fun s =>
  match h : s.permissionMappingVersions.find? versionId with
  | none => (.error (.persistenceNotFound "permission_mapping_version" versionId), s)
  | some version =>
    if auditId ∈ s.auditEvents then (.error (.persistenceConflict "audit_event" auditId 0 1), s)
    else (.ok version, { s with
      activePermissionMapping := some versionId
      permissionEpoch := s.permissionEpoch + 1
      auditEvents := s.auditEvents ++ [auditId]
      active_known := fun other hactive => by
        rw [← Option.some.inj hactive, h]
        rfl })

end SecurityConfigurationRepository

/-- The active version and the permission epoch. -/
def SecurityConfiguration.authority (s : SecurityConfiguration) : Option String × Nat :=
  (s.activePermissionMapping, s.permissionEpoch)

/-- The mapping of a version. -/
def SecurityConfiguration.mapping (s : SecurityConfiguration) (versionId : Option String) :
    Option PermissionMappingVersion :=
  versionId.bind s.permissionMappingVersions.find?

end ProofAgent

/-! # The session repository

Login attempts are consumed once, by a conditional update. A session is updated by its
id and its version, and revoked by the hash of its token; both count the version up.
Each method is a transaction of its own. -/
namespace ProofAgent.Sessions

open Base

/-- What is raised while a session is resolved. -/
inductive SessionError where
  /-- `OperatorAuthenticationError`. -/
  | authentication (message : String)
  /-- `PersistenceConflictError`. -/
  | persistenceConflict (resourceType resourceId : String) (expectedRevision : Nat)
      (actualRevision : Option Nat)
  | value (message : String)
  /-- `IntegrityError` of a unique column. -/
  | integrity
  /-- What a collaborator raises. -/
  | other
  deriving DecidableEq

/-- The two tables of the repository. -/
structure SessionStore where
  attempts : Table OidcLoginAttemptRecord.stateSha256
  sessions : Table OperatorSessionRecord.sessionId

def SessionStore.empty : SessionStore := ⟨.empty, .empty⟩

abbrev SessionQuery (α : Type) := Effect SessionStore SessionError α

/-- `create_login_attempt`. -/
def createLoginAttempt (attempt : OidcLoginAttemptRecord) : SessionQuery Unit := fun s =>
  match s.attempts.insert? attempt with
  | some attempts => (.ok (), { s with attempts })
  | none =>
    (.error (.persistenceConflict "oidc_login_attempt" attempt.stateSha256 0 (some 1)), s)

/-- The attempts that `consume_login_attempt` matches. -/
def consumable (stateSha256 : String) (consumedAt : Instant) (a : OidcLoginAttemptRecord) : Bool :=
  a.stateSha256 = stateSha256 && a.consumedAt.isNone && consumedAt < a.expiresAt

/-- `consume_login_attempt`. -/
def consumeLoginAttempt (stateSha256 : String) (consumedAt : Instant) :
    SessionQuery (Option OidcLoginAttemptRecord) := fun s =>
  let consume (a : OidcLoginAttemptRecord) := { a with consumedAt := some consumedAt }
  (.ok ((s.attempts.rows.find? (consumable stateSha256 consumedAt)).map consume),
    { s with attempts := s.attempts.update (consumable stateSha256 consumedAt) consume fun _ => rfl })

/-- Whether a token hash is that of another session; the column is unique. -/
def tokenTaken (s : SessionStore) (session : OperatorSessionRecord) : Bool :=
  s.sessions.rows.any fun row =>
    row.sessionTokenSha256 = session.sessionTokenSha256 && row.sessionId ≠ session.sessionId

/-- `create_session`. -/
def createSession (session : OperatorSessionRecord) : SessionQuery Unit := do
  Effect.require (session.sessionVersion = 1) (.value "new operator session version must be 1")
  let s ← Effect.read
  match s.sessions.insert? session with
  | some sessions => do
    Effect.require (tokenTaken s session = false) .integrity
    Effect.modify fun s => { s with sessions }
  | none =>
    Effect.raise (.persistenceConflict "operator_session" session.sessionId 0 (some 1))

/-- `get_by_token_hash`. -/
def getByTokenHash (tokenSha256 : String) : SessionQuery (Option OperatorSessionRecord) := do
  let s ← Effect.read
  return s.sessions.rows.find? fun row => row.sessionTokenSha256 = tokenSha256

/-- The row that `update_session` matches. -/
def isVersion (sessionId : String) (version : Nat) (row : OperatorSessionRecord) : Bool :=
  row.sessionId = sessionId && row.sessionVersion = version

/-- `update_session`. -/
def updateSession (session : OperatorSessionRecord) (expectedSessionVersion : Nat) :
    SessionQuery OperatorSessionRecord := do
  Effect.require (session.sessionVersion = expectedSessionVersion + 1)
    (.value "session update must increment version exactly once")
  let s ← Effect.read
  if s.sessions.rows.any (isVersion session.sessionId expectedSessionVersion) then do
    Effect.require (tokenTaken s session = false) .integrity
    Effect.modify fun s => { s with
      sessions := s.sessions.update (isVersion session.sessionId expectedSessionVersion)
        (fun row => { session with sessionId := row.sessionId }) fun _ => rfl }
    return session
  else
    Effect.raise (.persistenceConflict "operator_session" session.sessionId expectedSessionVersion
      ((s.sessions.find? session.sessionId).map (·.sessionVersion)))

/-- The row that `revoke_by_token_hash` matches. -/
def isRevocable (tokenSha256 : String) (row : OperatorSessionRecord) : Bool :=
  row.sessionTokenSha256 = tokenSha256 && row.revokedAt.isNone

/-- `revoke_by_token_hash`. -/
def revokeByTokenHash (tokenSha256 : String) (revokedAt : Instant) : SessionQuery Bool := fun s =>
  let revoke (row : OperatorSessionRecord) :=
    { row with revokedAt := some revokedAt, sessionVersion := row.sessionVersion + 1 }
  (.ok (s.sessions.rows.any (isRevocable tokenSha256)),
    { s with sessions := s.sessions.update (isRevocable tokenSha256) revoke fun _ => rfl })

end ProofAgent.Sessions
