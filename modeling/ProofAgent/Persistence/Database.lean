import ProofAgent.Base.Table
import ProofAgent.Contracts.RunExecution
import ProofAgent.Contracts.WorkflowTaskJson

/-! # The tables

The rows that the repositories read and write, each with the columns that they
use. The three result columns of a run and of an attempt are one
`RunResultAvailability`, whose shape a check constraint demands; a queue table
keeps a contract as the value that its JSON column decodes to, and
`workflow_tasks` keeps the JSON itself, since storage may change it. -/
namespace ProofAgent

open Base

/-! ## The run queue -/

structure RunRow where
  runId : String
  state : RunLifecycleState
  stateVersion : Nat
  submittedBy : String
  requestSha256 : String
  idempotencyKey : String
  conversationId : Option String
  requestJson : RunRequest
  enqueuedAt : Instant
  startedAt : Option Instant
  completedAt : Option Instant
  result : RunResultAvailability
  terminalFailureJson : Option RunFailure
  createdAt : Instant
  updatedAt : Instant
  deriving DecidableEq

structure AttemptRow where
  attemptId : String
  runId : String
  attemptNumber : Nat
  state : RunLifecycleState
  stateVersion : Nat
  fencingToken : Nat
  claimToken : String
  activationEpoch : Nat
  executorId : String
  heartbeatAt : Instant
  leaseExpiresAt : Instant
  deadlineAt : Instant
  result : RunResultAvailability
  terminalFailureJson : Option RunFailure
  attemptJson : RunAttempt
  createdAt : Instant
  updatedAt : Instant
  deriving DecidableEq

structure FairnessRow where
  operatorSubject : String
  lastClaimedAt : Instant
  claimCount : Nat
  deriving DecidableEq

structure WorkerRoleRow where
  role : String
  slot : Nat
  state : RoleActivationState
  ownerId : Option String
  leaseExpiresAt : Option Instant
  deriving DecidableEq

structure QueueTables where
  runs : Table RunRow.runId
  runAttempts : Table AttemptRow.attemptId
  /-- The last value of `run_fencing_epoch_seq`. -/
  runFencingEpochSeq : Nat
  runExecutorActivations : Table RoleActivation.slot
  runOperatorFairness : Table FairnessRow.operatorSubject

/-! ## Artifacts and conversations -/

structure ArtifactOwner where
  ownerType : String
  ownerId : String
  deriving DecidableEq

inductive ArtifactKind where
  | runTrace | governanceReceipt | validationCapture | knowledgeSource | knowledgeIndexMember
  | knowledgeManifest | agentConfigurationBundle | evaluationEvidence | releaseManifest | htmlReport
  | bundleIndex | releaseAttestation | releaseClosureAudit | releaseEvidence
  | softwareBillOfMaterials | buildProvenance | artifactManifest
  deriving DecidableEq

structure ArtifactObjectVersion where
  objectId : String
  bucket : String
  objectKey : String
  versionId : String
  sha256 : String
  sizeBytes : Nat
  kind : ArtifactKind
  owner : ArtifactOwner
  contentType : String
  createdAt : Instant
  expiresAt : Option Instant := none
  displayFilename : Option String := none
  deriving DecidableEq

namespace ArtifactObjectVersion

def isManifest (ref : ArtifactObjectVersion) : Bool := ref.kind = .artifactManifest

/-- What a store keeps: the exact version of an object. -/
def exact (ref : ArtifactObjectVersion) : String × String × String :=
  (ref.bucket, ref.objectKey, ref.versionId)

end ArtifactObjectVersion

/-- `ArtifactManifest`, with its members by their ids. -/
structure ArtifactManifest where
  manifestId : String
  owner : ArtifactOwner
  members : List (String × ArtifactObjectVersion)
  createdAt : Instant
  member_ids : (members.map Prod.fst).Nodup
  member_versions : (members.map fun m => m.2.exact).Nodup
  member_owners : ∀ m ∈ members, m.2.owner = owner
  nonempty : members ≠ []
  deriving DecidableEq

inductive ArtifactVisibility where
  | invisible | visible | expired | corrupt
  deriving DecidableEq

inductive ObjectState where
  | verified | corrupt
  deriving DecidableEq

/-- A row of `artifact_objects`, whose columns repeat its `ref_json`. -/
structure ObjectRow where
  refJson : ArtifactObjectVersion
  state : ObjectState
  corruptAt : Option Instant
  deriving DecidableEq

def ObjectRow.objectId (row : ObjectRow) : String := row.refJson.objectId

/-- A row of `artifact_manifests`. -/
structure ManifestRow where
  manifestId : String
  owner : ArtifactOwner
  manifestObjectId : String
  deriving DecidableEq

/-- A row of `artifact_manifest_members`. -/
structure MemberRow where
  manifestId : String
  memberId : String
  objectId : String
  deriving DecidableEq

def MemberRow.key (row : MemberRow) : String × String := (row.manifestId, row.memberId)

/-- A row of `artifact_owner_bindings`; only a visible binding exposes a result. -/
structure BindingRow where
  owner : ArtifactOwner
  manifestId : String
  visibility : ArtifactVisibility
  visibleAt : Option Instant
  resultAvailable : Bool
  updatedAt : Instant
  visible_result : resultAvailable = decide (visibility = .visible)
  deriving DecidableEq

structure ArtifactTables where
  objects : Table ObjectRow.objectId
  manifests : Table ManifestRow.manifestId
  members : Table MemberRow.key
  bindings : Table BindingRow.owner

def ArtifactTables.empty : ArtifactTables where
  objects := .empty
  manifests := .empty
  members := .empty
  bindings := .empty

structure ConversationTurn where
  turnId : String
  runId : String
  agentId : String
  question : String
  createdAt : Instant
  deriving DecidableEq

structure ConversationRow where
  conversationId : String
  agentId : String
  updatedAt : Instant
  deriving DecidableEq

/-- A row of `conversation_turns`. -/
structure TurnRow where
  turnId : String
  conversationId : String
  ordinal : Nat
  runId : String
  turnJson : ConversationTurn
  deriving DecidableEq

structure ConversationTables where
  conversations : Table ConversationRow.conversationId
  turns : Table TurnRow.turnId

/-! ## Workflow tasks -/

structure TaskRow where
  taskId : String
  owner : TaskOwner
  version : Nat
  goalRevision : Nat
  schemaVersion : Nat
  phase : TaskPhase
  snapshotJson : Json
  snapshotSha256 : String
  createdAt : Instant
  updatedAt : Instant
  rawContentExpiresAt : Instant

/-- A row of `workflow_task_resumes`. -/
structure ResumeRow where
  intentId : String
  taskId : String
  owner : TaskOwner
  goalRevision : Nat
  intentJson : ResumeIntent
  createdAt : Instant
  runId : Option String
  deriving DecidableEq

structure TaskTables where
  workflowTasks : Table TaskRow.taskId
  resumes : Table ResumeRow.intentId

structure Database where
  queue : QueueTables
  workerRoles : Table WorkerRoleRow.role
  artifacts : ArtifactTables
  conversations : ConversationTables
  tasks : TaskTables

/-- The database after the migrations: the two worker roles are on standby. -/
def Database.initial : Database where
  queue :=
    { runs := .empty, runAttempts := .empty, runFencingEpochSeq := 0
      runExecutorActivations := .empty, runOperatorFairness := .empty }
  workerRoles :=
    ⟨[⟨"run_executor", 1, .standby, none, none⟩, ⟨"knowledge_worker", 1, .standby, none, none⟩],
      by decide⟩
  artifacts := .empty
  conversations := { conversations := .empty, turns := .empty }
  tasks := { workflowTasks := .empty, resumes := .empty }

end ProofAgent
