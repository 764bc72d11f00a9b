import ProofAgent.Contracts.Security
import ProofAgent.Delivery.TaskExecutionService
import ProofAgent.Security.SessionService

/-! # Submitting a run

A request is admitted under the identity of its session: the permissions are those of the
projection, and the run is bound to the version and the epoch of the resolution. -/
namespace ProofAgent

open Base

/-- `OperatorIdentityContext`; a permission is its value. -/
structure OperatorIdentityContext where
  operatorId : String
  displayName : String
  permissions : List String
  institutionAuthorization : InstitutionAuthorizationContext := {}
  permissionMappingVersionId : Option String := none
  permissionEpoch : Nat := 0

/-- `_identity`. -/
def Sessions.SessionResolution.identity (resolution : Sessions.SessionResolution) :
    OperatorIdentityContext where
  operatorId := resolution.projection.principal.subject
  displayName := resolution.projection.principal.displayName
  permissions := resolution.projection.effectivePermissions
  institutionAuthorization := resolution.institutionAuthorization
  permissionMappingVersionId := resolution.permissionMappingVersionId
  permissionEpoch := resolution.permissionEpoch

def requireOperatorPermission (identity : OperatorIdentityContext) (permission : Permission) :
    Except Error Unit :=
  require (permission.value ∈ identity.permissions)
    (.http 403 ("Operator lacks required permission: " ++ permission.value))

namespace RunQueueApi

/-- `submit_run`, with the agent and the conversation that it has looked up. -/
def submitRun (rt : Runtime) (identity : OperatorIdentityContext) (agent : PublishedAgent)
    (submission : Submission) (now : Instant) (db : Database) :
    Except Error ((RunQueueRecord × Bool) × Database) := do
  requireOperatorPermission identity .runSubmit
  RunSubmissionService.submit rt agent
    { permissionMappingVersionId := identity.permissionMappingVersionId
      permissionEpoch := identity.permissionEpoch
      institutionAuthorization := identity.institutionAuthorization }
    { submission with operatorSubject := identity.operatorId } now db

/-- A run that is created has the authority of the identity. -/
theorem submitRun_created {rt : Runtime} {identity : OperatorIdentityContext}
    {agent : PublishedAgent} {submission : Submission} {now : Instant} {db db' : Database}
    {record : RunQueueRecord}
    (h : submitRun rt identity agent submission now db = .ok ((record, true), db')) :
    Permission.runSubmit.value ∈ identity.permissions ∧
      some record.request.permissionMappingVersionId = identity.permissionMappingVersionId ∧
      record.request.permissionEpoch = identity.permissionEpoch ∧
      record.request.institutionAuthorization = identity.institutionAuthorization := by
  obtain ⟨_, hpermitted, h⟩ := bind_ok h
  obtain ⟨_, _, h⟩ := bind_ok h
  obtain ⟨versionId, hversion, h⟩ := bind_ok h
  obtain ⟨_, _, h⟩ := bind_ok h
  obtain ⟨_, _, h⟩ := bind_ok h
  obtain ⟨request, hrequest, h⟩ := bind_ok h
  have hfields := RunRequest.make_ok hrequest
  have hsame : record.request = request := by
    unfold RunQueueRepository.admitRun at h
    dsimp only at h
    split at h
    · obtain ⟨_, _, h⟩ := bind_ok h
      obtain ⟨_, _, h⟩ := bind_ok h
      cases pure_ok h
    · obtain ⟨_, _, h⟩ := bind_ok h
      obtain ⟨_, _, h⟩ := bind_ok h
      obtain ⟨record', hrecord, h⟩ := bind_ok h
      obtain ⟨_, _, h⟩ := bind_ok h
      obtain ⟨_, _, h⟩ := bind_ok h
      cases pure_ok h
      rw [(RunQueueRecord.validate_ok hrecord).1]
  rw [hsame, hfields]
  exact ⟨require_ok hpermitted, (orRaise_ok hversion).symm, rfl, rfl⟩

end RunQueueApi

end ProofAgent
