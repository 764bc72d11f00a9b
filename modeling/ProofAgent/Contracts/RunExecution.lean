import ProofAgent.Contracts.Platform

/-! # Run execution contracts

The durable states of a run and the transitions between them, the request that
was admitted, the attempt that executes it and the claim that an executor holds
on it. `RunRequest`, `RunExecutionSnapshot`, `RunResultAvailability` and
`RunClaim` carry what their validators check. `RunQueueRecord` and `RunAttempt`
do not: the repository rewrites them with `model_copy`, which skips the
validators, and validates what it reads. -/
namespace ProofAgent

open Base

inductive RunLifecycleState where
  | queued | running | finalizing | succeeded | failed | timedOut | cancelRequested | cancelled
  deriving DecidableEq

namespace RunLifecycleState

def value : RunLifecycleState → String
  | queued => "queued"
  | running => "running"
  | finalizing => "finalizing"
  | succeeded => "succeeded"
  | failed => "failed"
  | timedOut => "timed_out"
  | cancelRequested => "cancel_requested"
  | cancelled => "cancelled"

def isTerminal : RunLifecycleState → Bool
  | succeeded | failed | timedOut | cancelled => true
  | _ => false

/-- `_ACTIVE_STATES`. -/
def isActive : RunLifecycleState → Bool
  | running | finalizing | cancelRequested => true
  | _ => false

/-- `_ALLOWED_TRANSITIONS`. -/
def allowed : RunLifecycleState → RunLifecycleState → Bool
  | queued, running | queued, cancelled => true
  | running, finalizing | running, cancelRequested | running, failed | running, timedOut => true
  | finalizing, succeeded | finalizing, cancelRequested | finalizing, failed
  | finalizing, timedOut => true
  | cancelRequested, cancelled | cancelRequested, failed | cancelRequested, timedOut => true
  | _, _ => false

theorem terminal_not_active {s : RunLifecycleState} (h : s.isTerminal = true) :
    s.isActive = false := by
  cases s <;> simp_all [isTerminal, isActive]

theorem active_not_terminal {s : RunLifecycleState} (h : s.isActive = true) :
    s.isTerminal = false := by
  cases s <;> simp_all [isTerminal, isActive]

theorem active_ne_queued {s : RunLifecycleState} (h : s.isActive = true) : s ≠ queued := by
  rintro rfl; cases h

/-- A state is queued, active or terminal. -/
theorem trichotomy (s : RunLifecycleState) :
    s = queued ∨ s.isActive = true ∨ s.isTerminal = true := by
  cases s <;> simp [isTerminal, isActive]

theorem allowed_from_terminal {s t : RunLifecycleState} (h : allowed s t = true) :
    s.isTerminal = false := by
  cases s <;> cases t <;> simp_all [allowed, isTerminal]

theorem allowed_ne_queued {s t : RunLifecycleState} (h : allowed s t = true) : t ≠ queued := by
  rintro rfl; cases s <;> simp [allowed] at h

end RunLifecycleState

def assertRunTransition (source target : RunLifecycleState) : Except Error Unit :=
  require (source.allowed target = true)
    (.value ("Run transition is not allowed: " ++ source.value ++ " -> " ++ target.value))

inductive RunFailureCode where
  | executorLost | snapshotInvalid | deadlineExceeded | executionFailed | finalizationFailed
  | artifactIntegrity | cancelled
  deriving DecidableEq

structure RunFailure where
  code : RunFailureCode
  safeDetail : Option String := none
  deriving DecidableEq

inductive RunPurpose where
  | production | validation | evaluationSample
  deriving DecidableEq

def RunPurpose.value : RunPurpose → String
  | production => "production"
  | validation => "validation"
  | evaluationSample => "evaluation_sample"

inductive ReceiptOutcome where
  | answeredWithCitations | refusedNoEvidence | escalatedWeakEvidence | waitingForApproval
  | waitingForUserClarification | toolApprovalDenied | policyDenied | failedWithTrace
  | failedReceiptUnavailable
  deriving DecidableEq

/-! ## Requests -/

/-- The frozen task snapshot that a run executes: all three or none. -/
structure TaskBinding where
  taskId : String
  expectedTaskVersion : Nat
  taskSnapshotSha256 : String
  deriving DecidableEq

/-- `InstitutionAuthorizationContext`; it is public exactly when no scope is admitted. -/
structure InstitutionAuthorizationContext where
  institutions : List String := []
  regions : List String := []
  channels : List String := []
  roles : List String := []
  businessLines : List String := []
  deriving DecidableEq

def InstitutionAuthorizationContext.toJson (c : InstitutionAuthorizationContext) : Json :=
  let scopes := [("institutions", c.institutions), ("regions", c.regions),
    ("channels", c.channels), ("roles", c.roles), ("business_lines", c.businessLines)]
  .obj ((scopes.map fun (k, values) => (k, .arr (values.map .str))) ++
    [("public_only", .bool (scopes.all fun (_, values) => values.isEmpty))])

/-- The arguments of `RunRequest(...)`. -/
structure RunRequestFields where
  runId : String
  operatorSubject : String
  idempotencyKey : String
  runPurpose : RunPurpose := .production
  agentId : String
  agentVersionId : String
  question : String
  allowUntrustedWebSupplement : Bool := false
  conversationId : Option String := none
  conversationTurnCount : Option Nat := none
  task : Option TaskBinding := none
  permissionMappingVersionId : String
  permissionEpoch : Nat
  institutionAuthorization : InstitutionAuthorizationContext := {}
  submittedAt : Instant
  deriving DecidableEq

namespace RunRequestFields

def boundedText (value : String) (limit : Nat) : Bool :=
  1 ≤ value.length && value.length ≤ limit

/-- `reject_unsafe_text`. -/
def safeText (value : String) : Bool := isStripped value && !hasNulCharacter value

def checks (f : RunRequestFields) : List (Bool × Error) :=
  [check (isUuid f.runId = true ∧ isUuid f.agentVersionId = true ∧
        isUuid f.permissionMappingVersionId = true ∧ f.conversationId.all isUuid = true)
      "Run request identifiers must be UUIDs",
    check (boundedText f.operatorSubject 255 = true ∧ boundedText f.idempotencyKey 128 = true ∧
        boundedText f.agentId 255 = true ∧ boundedText f.question 32768 = true ∧
        f.task.all (fun t => boundedText t.taskId 128) = true)
      "Run request text must be bounded",
    check (1 ≤ f.permissionEpoch ∧ ∀ t ∈ f.task, 1 ≤ t.expectedTaskVersion)
      "Run request versions must be positive",
    check ([f.operatorSubject, f.idempotencyKey, f.agentId, f.question].all safeText = true)
      "Run request text is invalid",
    check (f.conversationId = none → f.conversationTurnCount = none)
      "Conversation turn count requires a conversation identity"]

end RunRequestFields

structure RunRequest extends RunRequestFields where
  accepted : ∀ c ∈ toRunRequestFields.checks, c.1 = true
  deriving DecidableEq

/-- `RunRequest(...)`. -/
def RunRequest.make (f : RunRequestFields) : Except Error RunRequest :=
  orInvalid f.checks fun h => ⟨f, h⟩

theorem RunRequest.make_ok {f : RunRequestFields} {r : RunRequest}
    (h : RunRequest.make f = .ok r) : r.toRunRequestFields = f := by
  obtain ⟨_, rfl⟩ := orInvalid_ok h
  rfl

/-- The request without its identity and its time. -/
def RunRequest.canonicalJson (r : RunRequest) : Json :=
  .obj ([("contract_version", .str "proofagent.run-execution.v1"),
    ("operator_subject", .str r.operatorSubject), ("idempotency_key", .str r.idempotencyKey),
    ("run_purpose", .str r.runPurpose.value), ("agent_id", .str r.agentId),
    ("agent_version_id", .str r.agentVersionId), ("question", .str r.question),
    ("allow_untrusted_web_supplement", .bool r.allowUntrustedWebSupplement),
    ("conversation_id", .ofOption .str r.conversationId),
    ("conversation_turn_count", .ofOption (fun n : Nat => .int n) r.conversationTurnCount),
    ("permission_mapping_version_id", .str r.permissionMappingVersionId),
    ("permission_epoch", .int r.permissionEpoch),
    ("institution_authorization", r.institutionAuthorization.toJson)] ++
    match r.task with
    | none => []
    | some t => [("task_id", .str t.taskId), ("expected_task_version", .int t.expectedTaskVersion),
        ("task_snapshot_sha256", .str t.taskSnapshotSha256)])

def RunRequest.canonicalSha256 (rt : Runtime) (r : RunRequest) : String :=
  rt.sha256 r.canonicalJson

/-! ## Attempts and claims -/

structure RunExecutionSnapshot where
  runId : String
  attemptId : String
  attemptNumber : Nat
  releaseId : String
  imageDigest : String
  agentId : String
  agentVersionId : String
  agentConfigurationSha256 : String
  knowledgeConfigurationSha256 : String
  modelConfigurationSha256 : String
  egressPolicyVersionId : String
  egressPolicySha256 : String
  permissionMappingVersionId : String
  permissionMappingSha256 : String
  permissionEpoch : Nat
  institutionAuthorizationSha256 : String
  toolConfigurationSha256 : String
  secretHandleIds : List String
  frozenAt : Instant
  handles_sorted : secretHandleIds.Pairwise (· < ·)
  deriving DecidableEq

def RunExecutionSnapshot.canonicalSha256 (rt : Runtime) (s : RunExecutionSnapshot) : String :=
  rt.sha256 (.obj [("contract_version", .str "proofagent.run-execution.v1"),
    ("run_id", .str s.runId), ("attempt_id", .str s.attemptId),
    ("attempt_number", .int s.attemptNumber), ("release_id", .str s.releaseId),
    ("image_digest", .str s.imageDigest), ("agent_id", .str s.agentId),
    ("agent_version_id", .str s.agentVersionId),
    ("agent_configuration_sha256", .str s.agentConfigurationSha256),
    ("knowledge_configuration_sha256", .str s.knowledgeConfigurationSha256),
    ("model_configuration_sha256", .str s.modelConfigurationSha256),
    ("egress_policy_version_id", .str s.egressPolicyVersionId),
    ("egress_policy_sha256", .str s.egressPolicySha256),
    ("permission_mapping_version_id", .str s.permissionMappingVersionId),
    ("permission_mapping_sha256", .str s.permissionMappingSha256),
    ("permission_epoch", .int s.permissionEpoch),
    ("institution_authorization_sha256", .str s.institutionAuthorizationSha256),
    ("tool_configuration_sha256", .str s.toolConfigurationSha256),
    ("secret_handle_ids", .arr (s.secretHandleIds.map .str)), ("frozen_at", .time s.frozenAt)])

structure RunResultAvailability where
  resultAvailable : Bool := false
  artifactManifestId : Option String := none
  receiptOutcome : Option ReceiptOutcome := none
  exact_manifest : resultAvailable = artifactManifestId.isSome := by decide
  no_receipt : resultAvailable = false → receiptOutcome = none := by decide
  deriving DecidableEq

/-- `RunResultAvailability()`. -/
def RunResultAvailability.unavailable : RunResultAvailability := {}

/-- `RunResultAvailability(result_available=True, ...)`. -/
def RunResultAvailability.available (manifestId : String) (outcome : Option ReceiptOutcome) :
    RunResultAvailability where
  resultAvailable := true
  artifactManifestId := some manifestId
  receiptOutcome := outcome
  exact_manifest := rfl
  no_receipt := fun h => by cases h

structure RunQueueRecord where
  request : RunRequest
  requestSha256 : String
  state : RunLifecycleState
  stateVersion : Nat
  result : RunResultAvailability := .unavailable
  failure : Option RunFailure := none
  enqueuedAt : Instant
  startedAt : Option Instant := none
  completedAt : Option Instant := none
  updatedAt : Instant
  deriving DecidableEq

structure RunAttempt where
  attemptId : String
  runId : String
  attemptNumber : Nat
  state : RunLifecycleState
  stateVersion : Nat
  claimToken : String
  fencingEpoch : Nat
  activationEpoch : Nat
  executorId : String
  heartbeatAt : Instant
  leaseExpiresAt : Instant
  deadlineAt : Instant
  snapshot : RunExecutionSnapshot
  snapshotSha256 : String
  result : RunResultAvailability := .unavailable
  failure : Option RunFailure := none
  createdAt : Instant
  updatedAt : Instant
  deriving DecidableEq

/-- What both kinds of record check of a state, its result and its failure. -/
def outcomeChecks (kind : String) (state : RunLifecycleState) (result : RunResultAvailability)
    (failure : Option RunFailure) : List (Bool × Error) :=
  [check (result.resultAvailable = true → state = .succeeded)
      ("Only a succeeded " ++ kind ++ " can expose a result"),
    check (state = .succeeded → failure = none)
      ("Succeeded " ++ kind ++ " cannot contain a failure"),
    check (state = .failed ∨ state = .timedOut → failure.isSome = true)
      ("Failed " ++ kind ++ " requires a stable failure code")]

/-- `validate_queue_record`. -/
def RunQueueRecord.checks (rt : Runtime) (r : RunQueueRecord) : List (Bool × Error) :=
  [check (1 ≤ r.stateVersion) "state_version must be positive",
    check (r.requestSha256 = r.request.canonicalSha256 rt)
      "Run request digest does not match canonical request",
    check (r.enqueuedAt = r.request.submittedAt) "Run enqueue time must match submitted time",
    check (∀ t ∈ r.startedAt, r.enqueuedAt ≤ t) "Run start time cannot precede enqueue",
    check (∀ t ∈ r.completedAt, r.enqueuedAt ≤ t) "Run completion time cannot precede enqueue",
    check (r.state.isTerminal = r.completedAt.isSome)
      "Terminal Run requires exactly one completion timestamp"] ++
  outcomeChecks "Run" r.state r.result r.failure

def RunQueueRecord.validate (rt : Runtime) (r : RunQueueRecord) : Except Error RunQueueRecord := do
  requireAll (r.checks rt)
  return r

/-- `validate_attempt`. -/
def RunAttempt.checks (rt : Runtime) (a : RunAttempt) : List (Bool × Error) :=
  [check (1 ≤ a.attemptNumber ∧ 1 ≤ a.stateVersion ∧ 1 ≤ a.fencingEpoch ∧ 1 ≤ a.activationEpoch)
      "Run Attempt counters must be positive",
    check (a.heartbeatAt < a.leaseExpiresAt) "Run Attempt lease must follow heartbeat",
    check (a.createdAt < a.deadlineAt) "Run Attempt deadline must follow creation",
    check (a.snapshot.runId = a.runId ∧ a.snapshot.attemptId = a.attemptId ∧
        a.snapshot.attemptNumber = a.attemptNumber)
      "Run Attempt snapshot identity does not match",
    check (a.snapshotSha256 = a.snapshot.canonicalSha256 rt)
      "Run Attempt snapshot digest does not match"] ++
  outcomeChecks "Run Attempt" a.state a.result a.failure

def RunAttempt.validate (rt : Runtime) (a : RunAttempt) : Except Error RunAttempt := do
  requireAll (a.checks rt)
  return a

structure RunClaim where
  runRequest : RunRequest
  attempt : RunAttempt
  same_run : runRequest.runId = attempt.runId
  same_agent : runRequest.agentId = attempt.snapshot.agentId
  same_version : runRequest.agentVersionId = attempt.snapshot.agentVersionId
  deriving DecidableEq

/-- `RunClaim(...)`. -/
def RunClaim.make (request : RunRequest) (attempt : RunAttempt) : Except Error RunClaim :=
  if h : request.runId = attempt.runId ∧ request.agentId = attempt.snapshot.agentId ∧
      request.agentVersionId = attempt.snapshot.agentVersionId then
    .ok ⟨request, attempt, h.1, h.2.1, h.2.2⟩
  else .error (.value "Run claim identities do not match")

inductive RoleActivationState where
  | standby | active | draining
  deriving DecidableEq

structure RoleActivation where
  slot : Nat
  state : RoleActivationState
  activationEpoch : Nat
  executorId : Option String
  updatedAt : Instant
  deriving DecidableEq

/-! ## What the validators establish -/

structure OutcomeValid (state : RunLifecycleState) (result : RunResultAvailability)
    (failure : Option RunFailure) : Prop where
  result : result.resultAvailable = true → state = .succeeded
  success : state = .succeeded → failure = none
  failure : state = .failed ∨ state = .timedOut → failure.isSome = true

structure RunQueueRecord.Valid (rt : Runtime) (r : RunQueueRecord) : Prop where
  version : 1 ≤ r.stateVersion
  digest : r.requestSha256 = r.request.canonicalSha256 rt
  enqueued : r.enqueuedAt = r.request.submittedAt
  started : ∀ t ∈ r.startedAt, r.enqueuedAt ≤ t
  completed : ∀ t ∈ r.completedAt, r.enqueuedAt ≤ t
  terminal : r.state.isTerminal = r.completedAt.isSome
  outcome : OutcomeValid r.state r.result r.failure

structure RunAttempt.Valid (rt : Runtime) (a : RunAttempt) : Prop where
  counters : 1 ≤ a.attemptNumber ∧ 1 ≤ a.stateVersion ∧ 1 ≤ a.fencingEpoch ∧ 1 ≤ a.activationEpoch
  lease : a.heartbeatAt < a.leaseExpiresAt
  deadline : a.createdAt < a.deadlineAt
  identity : a.snapshot.runId = a.runId ∧ a.snapshot.attemptId = a.attemptId ∧
    a.snapshot.attemptNumber = a.attemptNumber
  digest : a.snapshotSha256 = a.snapshot.canonicalSha256 rt
  outcome : OutcomeValid a.state a.result a.failure

theorem RunQueueRecord.checks_iff {rt : Runtime} {r : RunQueueRecord} :
    (∀ c ∈ r.checks rt, c.1 = true) ↔ r.Valid rt := by
  simp only [checks, outcomeChecks, List.cons_append, List.nil_append, List.forall_mem_cons,
    check_iff, List.not_mem_nil, false_implies, implies_true, and_true]
  exact ⟨fun ⟨h1, h2, h3, h4, h5, h6, h7, h8, h9⟩ => ⟨h1, h2, h3, h4, h5, h6, ⟨h7, h8, h9⟩⟩,
    fun ⟨h1, h2, h3, h4, h5, h6, ⟨h7, h8, h9⟩⟩ => ⟨h1, h2, h3, h4, h5, h6, h7, h8, h9⟩⟩

theorem RunAttempt.checks_iff {rt : Runtime} {a : RunAttempt} :
    (∀ c ∈ a.checks rt, c.1 = true) ↔ a.Valid rt := by
  simp only [checks, outcomeChecks, List.cons_append, List.nil_append, List.forall_mem_cons,
    check_iff, List.not_mem_nil, false_implies, implies_true, and_true]
  exact ⟨fun ⟨h1, h2, h3, h4, h5, h6, h7, h8⟩ => ⟨h1, h2, h3, h4, h5, ⟨h6, h7, h8⟩⟩,
    fun ⟨h1, h2, h3, h4, h5, ⟨h6, h7, h8⟩⟩ => ⟨h1, h2, h3, h4, h5, h6, h7, h8⟩⟩

theorem RunQueueRecord.validate_ok {rt : Runtime} {r r' : RunQueueRecord}
    (h : r.validate rt = .ok r') : r' = r ∧ r.Valid rt := by
  obtain ⟨_, hc, h⟩ := bind_ok h
  exact ⟨(pure_ok h).symm, checks_iff.mp (requireAll_ok_iff.mp hc)⟩

theorem RunQueueRecord.validate_of {rt : Runtime} {r : RunQueueRecord} (h : r.Valid rt) :
    r.validate rt = .ok r := by
  rw [RunQueueRecord.validate, requireAll_ok_iff.mpr (checks_iff.mpr h)]
  rfl

theorem RunAttempt.validate_ok {rt : Runtime} {a a' : RunAttempt} (h : a.validate rt = .ok a') :
    a' = a ∧ a.Valid rt := by
  obtain ⟨_, hc, h⟩ := bind_ok h
  exact ⟨(pure_ok h).symm, checks_iff.mp (requireAll_ok_iff.mp hc)⟩

theorem RunAttempt.validate_of {rt : Runtime} {a : RunAttempt} (h : a.Valid rt) :
    a.validate rt = .ok a := by
  rw [RunAttempt.validate, requireAll_ok_iff.mpr (checks_iff.mpr h)]
  rfl

theorem RunClaim.make_ok {request : RunRequest} {attempt : RunAttempt} {claim : RunClaim}
    (h : RunClaim.make request attempt = .ok claim) :
    claim.runRequest = request ∧ claim.attempt = attempt := by
  unfold RunClaim.make at h
  split at h
  · cases h; exact ⟨rfl, rfl⟩
  · cases h

theorem assertRunTransition_ok {source target : RunLifecycleState} {u : Unit}
    (h : assertRunTransition source target = .ok u) : source.allowed target = true :=
  require_ok h

end ProofAgent
