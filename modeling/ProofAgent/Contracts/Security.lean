import ProofAgent.Contracts.RunExecution

/-! # Operators, their sessions and their permissions

The records of a login attempt and of a session, as the backend keeps them, and the
projection of a session that the browser gets.

A mapping version grants permissions, and scopes of institution knowledge, to trusted claims of
the OIDC provider. It is immutable; another version takes its place by an activation. -/
namespace ProofAgent

open Base

/-! ## Operators and sessions -/

/-- `OidcPrincipal`. -/
structure OidcPrincipal where
  subject : String
  issuer : String
  audience : String
  displayName : String
  email : Option String := none
  trustedGroups : List String := []
  trustedRoles : List String := []
  trustedClaims : List (String × List String) := []
  authenticatedAt : Instant
  claimsVerifiedAt : Instant
  deriving DecidableEq

structure OidcLoginAttemptRecord where
  stateSha256 : String
  nonceEnvelope : String
  pkceVerifierEnvelope : String
  envelopeKeyVersion : String
  redirectUri : String
  createdAt : Instant
  expiresAt : Instant
  consumedAt : Option Instant := none
  deriving DecidableEq

structure OperatorSessionRecord where
  sessionId : String
  sessionVersion : Nat
  sessionTokenSha256 : String
  principal : OidcPrincipal
  providerTokenEnvelope : String
  envelopeKeyVersion : String
  permissionMappingVersionId : Option String := none
  permissionEpoch : Nat
  createdAt : Instant
  absoluteExpiresAt : Instant
  idleExpiresAt : Instant
  claimsVerifiedAt : Instant
  revokedAt : Option Instant := none
  deriving DecidableEq

/-- What the browser gets to see of a session. -/
structure OperatorSessionProjection where
  sessionId : String
  principal : OidcPrincipal
  absoluteExpiresAt : Instant
  idleExpiresAt : Instant
  claimsRefreshDueAt : Instant
  csrfToken : String
  effectivePermissions : List String := []
  deriving DecidableEq

/-! ## Permission mappings -/

inductive Permission where
  | runSubmit | runView | runCancel
  | agentView | agentEdit | agentValidate | agentPublish
  | knowledgeSourceView | knowledgeSourceEdit | knowledgeSourceReview | knowledgeSourcePublish
  | knowledgeSourceArchive
  | modelConnectionView | modelConnectionEdit | modelConnectionValidate | modelConnectionArchive
  | toolSourceView | toolSourceEdit | toolSourceValidate | toolSourceArchive
  | evaluationView | evaluationRun | evaluationCurationReview
  | permissionMappingView | permissionMappingEdit
  | egressPolicyView | egressPolicyEdit
  | secretHandleView | secretHandleUse
  | auditView | auditExport
  deriving DecidableEq

def Permission.value : Permission → String
  | runSubmit => "run.submit"
  | runView => "run.view"
  | runCancel => "run.cancel"
  | agentView => "agent.view"
  | agentEdit => "agent.edit"
  | agentValidate => "agent.validate"
  | agentPublish => "agent.publish"
  | knowledgeSourceView => "knowledge_source.view"
  | knowledgeSourceEdit => "knowledge_source.edit"
  | knowledgeSourceReview => "knowledge_source.review"
  | knowledgeSourcePublish => "knowledge_source.publish"
  | knowledgeSourceArchive => "knowledge_source.archive"
  | modelConnectionView => "model_connection.view"
  | modelConnectionEdit => "model_connection.edit"
  | modelConnectionValidate => "model_connection.validate"
  | modelConnectionArchive => "model_connection.archive"
  | toolSourceView => "tool_source.view"
  | toolSourceEdit => "tool_source.edit"
  | toolSourceValidate => "tool_source.validate"
  | toolSourceArchive => "tool_source.archive"
  | evaluationView => "evaluation.view"
  | evaluationRun => "evaluation.run"
  | evaluationCurationReview => "evaluation_curation.review"
  | permissionMappingView => "permission_mapping.view"
  | permissionMappingEdit => "permission_mapping.edit"
  | egressPolicyView => "egress_policy.view"
  | egressPolicyEdit => "egress_policy.edit"
  | secretHandleView => "secret_handle.view"
  | secretHandleUse => "secret_handle.use"
  | auditView => "audit.view"
  | auditExport => "audit.export"

def Permission.all : List Permission :=
  [.runSubmit, .runView, .runCancel, .agentView, .agentEdit, .agentValidate, .agentPublish,
    .knowledgeSourceView, .knowledgeSourceEdit, .knowledgeSourceReview, .knowledgeSourcePublish,
    .knowledgeSourceArchive, .modelConnectionView, .modelConnectionEdit, .modelConnectionValidate,
    .modelConnectionArchive, .toolSourceView, .toolSourceEdit, .toolSourceValidate,
    .toolSourceArchive, .evaluationView, .evaluationRun, .evaluationCurationReview,
    .permissionMappingView, .permissionMappingEdit, .egressPolicyView, .egressPolicyEdit,
    .secretHandleView, .secretHandleUse, .auditView, .auditExport]

theorem Permission.mem_all (p : Permission) : p ∈ all := by
  cases p <;> decide

theorem Permission.value_injective {p q : Permission} (h : p.value = q.value) : p = q :=
  List.inj_on_of_nodup_map (by decide +kernel : (all.map value).Nodup) p.mem_all q.mem_all h

structure PermissionClaimRule where
  claimPath : String
  claimValue : String
  permissions : List Permission := []
  institutionAuthorization : Option InstitutionAuthorizationContext := none
  distinct : permissions.Nodup
  deriving DecidableEq

structure PermissionMappingVersion where
  versionId : String
  revision : Nat
  rules : List PermissionClaimRule := []
  distinct : (rules.map fun rule => (rule.claimPath, rule.claimValue)).Nodup
  deriving DecidableEq

/-- The deployment's own grant, which keeps the minimum for a recovery. -/
structure RecoveryOidcGroupMapping where
  claimPath : String
  groupName : String
  permissions : List Permission
  minimum : ∀ p ∈ [Permission.permissionMappingView, .permissionMappingEdit, .auditView],
    p ∈ permissions

end ProofAgent
