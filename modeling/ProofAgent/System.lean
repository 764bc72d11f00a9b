import ProofAgent.Base.History
import ProofAgent.Delivery.WorkflowTaskApi

/-! # The calls of the system

Every transaction that the repositories, the task service and the execution
service offer is a call; a history is a list of them, made by any executors,
operators and requests in any order. What other parts of the system write
(worker-role leases, conversations, the visibility of artifacts) is a call of
the environment. -/
namespace ProofAgent

open Base

inductive QueueCall where
  | admitRun (request : RunRequest)
  | activateRole (slot : Nat) (executorId : String) (now : Instant)
  | claimNext (arguments : RunQueueRepository.ClaimArguments)
  | heartbeat (claim : RunClaim) (now : Instant) (leaseSeconds : Int)
  | markFinalizing (claim : RunClaim) (now : Instant)
  | requestCancel (runId operatorSubject : String) (now : Instant)
  | commitTerminalFailure (claim : RunClaim) (target : RunLifecycleState) (failure : RunFailure)
      (now : Instant)
  | commitSuccess (claim : RunClaim) (arguments : RunQueueRepository.SuccessArguments)
      (now : Instant)
  | reapExpiredLeases (now : Instant)

inductive TaskCall where
  | create (goal : GoalContract) (owner : TaskOwner) (now : Instant)
      (latestRunId creationRequestSha256 conversationId : Option String)
      (allowUntrustedWebSupplement : Bool)
  | requestResume (taskId : String) (owner : TaskOwner) (expectedVersion : Nat) (now : Instant)
  | renewExpiredQuestions (taskId : String) (owner : TaskOwner) (expectedVersion : Nat)
      (now : Instant)
  | recordFailedRun (taskId runId : String) (owner : TaskOwner) (now : Instant)
  | ask (taskId : String) (question : QuestionRequest) (owner : TaskOwner) (expectedVersion : Nat)
      (now : Instant)
  | answer (taskId : String) (answer : TypedAnswer) (owner : TaskOwner) (now : Instant)
      (intentId : String)
  | reviseGoal (taskId : String) (goal : GoalContract) (owner : TaskOwner) (expectedVersion : Nat)
      (now : Instant)
  | assess (taskId : String) (assessments : List CriterionAssessment) (owner : TaskOwner)
      (expectedVersion : Nat) (now : Instant) (verifiedProofRefs : List String)
  | transition (taskId : String) (phase : TaskPhase) (owner : TaskOwner) (expectedVersion : Nat)
      (now : Instant)
  | expireQuestions (taskId : String) (owner : TaskOwner) (expectedVersion : Nat) (now : Instant)
  | bindRun (taskId runId : String) (owner : TaskOwner) (expectedVersion : Nat) (now : Instant)
      (usageDelta : Option TaskBudgetUsage)
  | applyUpdate (update : WorkflowTaskUpdate) (owner : TaskOwner) (now : Instant)
      (runId expectedSnapshotSha256 : String)
  | purgeExpired (now : Instant)

/-- The writes of the rest of the system. -/
inductive OutsideCall where
  | workerRoles (rows : Table WorkerRoleRow.role)
  | createConversation (record : ConversationRow)
  | deleteConversation (conversationId : String)
  /-- `mark_corrupt` and `expire_due` on one binding. -/
  | hideArtifact (owner : ArtifactOwner) (visibility : ArtifactVisibility)

inductive Call where
  | queue (call : QueueCall)
  | task (call : TaskCall)
  | createTask (arguments : TaskExecutionService.CreateArguments)
  | dispatch (intent : ResumeIntent) (owner : TaskOwner) (publishedAgent : PublishedAgent)
      (now : Instant) (admission : Admission) (conversationTurnCount : Option Nat)
  | submit (publishedAgent : PublishedAgent) (admission : Admission) (submission : Submission)
      (now : Instant)
  | outside (call : OutsideCall)

/-- What a call returns. -/
inductive Reply where
  | admitted (record : RunQueueRecord) (created : Bool)
  | activation (activation : RoleActivation)
  | claim (claim : Option RunClaim)
  | renewed (claim : Except Error RunClaim)
  | record (record : RunQueueRecord)
  | count (n : Nat)
  | snapshot (snapshot : WorkflowTaskSnapshot)
  | intent (intent : ResumeIntent)
  | submission (submission : AnswerSubmission)
  | created (snapshot : WorkflowTaskSnapshot) (created : Bool)
  | done

/-- Name the reply of a call. -/
def reply {α σ : Type} (name : α → Reply) (x : Except Error (α × σ)) : Except Error (Reply × σ) :=
  x.map fun (a, s) => (name a, s)

theorem reply_ok {α σ : Type} {name : α → Reply} {x : Except Error (α × σ)} {o : Reply} {s : σ}
    (h : reply name x = .ok (o, s)) : ∃ a, x = .ok (a, s) ∧ o = name a := by
  cases x with
  | error e => cases h
  | ok r => cases h; exact ⟨r.1, rfl, rfl⟩

def QueueCall.exec (rt : Runtime) (call : QueueCall) (db : Database) :
    Except Error (Reply × Database) :=
  match call with
  | .admitRun request => reply (fun r => .admitted r.1 r.2) (RunQueueRepository.admitRun rt request db)
  | .activateRole slot executorId now =>
    reply .activation (RunQueueRepository.activateRole slot executorId now db)
  | .claimNext c => reply .claim (RunQueueRepository.claimNext rt c db)
  | .heartbeat claim now lease =>
    reply .renewed (RunQueueRepository.heartbeat rt claim now lease db)
  | .markFinalizing claim now => reply .renewed (RunQueueRepository.markFinalizing rt claim now db)
  | .requestCancel runId operator now =>
    reply .record (RunQueueRepository.requestCancel rt runId operator now db)
  | .commitTerminalFailure claim target failure now =>
    reply .record (RunQueueRepository.commitTerminalFailure rt claim target failure now db)
  | .commitSuccess claim a now => reply .record (RunQueueRepository.commitSuccess rt claim a now db)
  | .reapExpiredLeases now => reply .count (RunQueueRepository.reapExpiredLeases rt now db)

def TaskCall.exec (rt : Runtime) (call : TaskCall) (db : TaskTables) :
    Except Error (Reply × TaskTables) :=
  match call with
  | .create goal owner now runId sha conversationId allow =>
    reply .snapshot (WorkflowTaskService.create rt goal owner now runId sha conversationId allow db)
  | .requestResume taskId owner version now =>
    reply .intent (WorkflowTaskService.requestResume rt taskId owner version now db)
  | .renewExpiredQuestions taskId owner version now =>
    reply .snapshot (WorkflowTaskService.renewExpiredQuestions rt taskId owner version now db)
  | .recordFailedRun taskId runId owner now =>
    reply .snapshot (WorkflowTaskService.recordFailedRun rt taskId runId owner now db)
  | .ask taskId question owner version now =>
    reply .snapshot (WorkflowTaskService.ask rt taskId question owner version now db)
  | .answer taskId a owner now intentId =>
    reply .submission (WorkflowTaskService.answer rt taskId a owner now intentId db)
  | .reviseGoal taskId goal owner version now =>
    reply .snapshot (WorkflowTaskService.reviseGoal rt taskId goal owner version now db)
  | .assess taskId assessments owner version now refs =>
    reply .snapshot (WorkflowTaskService.assess rt taskId assessments owner version now refs db)
  | .transition taskId phase owner version now =>
    reply .snapshot (WorkflowTaskService.transition rt taskId phase owner version now db)
  | .expireQuestions taskId owner version now =>
    reply .snapshot (WorkflowTaskService.expireQuestions rt taskId owner version now db)
  | .bindRun taskId runId owner version now delta =>
    reply .snapshot (WorkflowTaskService.bindRun rt taskId runId owner version now delta db)
  | .applyUpdate update owner now runId sha =>
    reply .snapshot (WorkflowTaskService.applyUpdate rt update owner now runId sha db)
  | .purgeExpired now => .ok (.done, WorkflowTaskRepository.purgeExpired now db)

/-- A binding that `mark_corrupt` or `expire_due` hides. -/
def BindingRow.hide (b : BindingRow) (visibility : ArtifactVisibility) : BindingRow :=
  ArtifactRepository.hideBinding visibility b.updatedAt b

def OutsideCall.exec (call : OutsideCall) (db : Database) : Except Error (Reply × Database) :=
  match call with
  | .workerRoles rows => .ok (.done, { db with workerRoles := rows })
  | .createConversation record => do
    let conversations ← ConversationRepository.create record db.conversations
    return (.done, { db with conversations })
  | .deleteConversation conversationId =>
    .ok (.done, { db with
      conversations := ConversationRepository.delete conversationId db.conversations })
  | .hideArtifact owner visibility => do
    require (visibility = .expired ∨ visibility = .corrupt) (.value "artifact stays visible")
    let bindings := db.artifacts.bindings.update (fun b => b.owner = owner)
      (fun b => b.hide visibility) (fun _ => rfl)
    return (.done, { db with artifacts := { db.artifacts with bindings } })

/-- The system: how it answers a call. -/
def exec (rt : Runtime) : Service Database Call Reply Error := fun call db =>
  match call with
  | .queue call => call.exec rt db
  | .task call => do
    let (r, tasks) ← call.exec rt db.tasks
    return (r, { db with tasks })
  | .createTask a =>
    reply (fun r => .created r.1 r.2) (TaskExecutionService.create rt a db)
  | .dispatch intent owner agent now admission turns =>
    reply .snapshot (TaskExecutionService.dispatch rt intent owner agent now admission turns db)
  | .submit agent admission submission now =>
    reply (fun r => .admitted r.1 r.2)
      (RunSubmissionService.submit rt agent admission submission now db)
  | .outside call => call.exec db

/-- A state that some history reaches from the empty database. -/
def Reachable (rt : Runtime) (db : Database) : Prop :=
  ∃ calls, db = after (exec rt) Database.initial calls

/-! ## A small system

Two operators and one executor, on which the hypotheses of later results are tried. -/
namespace Sample

/-- The request of a standalone run, submitted when the clock starts. -/
def requestFields (runId operatorSubject : String) : RunRequestFields where
  runId := runId
  operatorSubject := operatorSubject
  idempotencyKey := runId
  agentId := "agent"
  agentVersionId := "00000000-0000-4000-8000-0000000000aa"
  question := "question"
  permissionMappingVersionId := "00000000-0000-4000-8000-0000000000bb"
  permissionEpoch := 1
  submittedAt := 0

def aliceFirst : RunRequest :=
  ⟨requestFields "00000000-0000-4000-8000-000000000001" "alice", by decide +kernel⟩

def aliceSecond : RunRequest :=
  ⟨requestFields "00000000-0000-4000-8000-000000000002" "alice", by decide +kernel⟩

def bob : RunRequest :=
  ⟨requestFields "00000000-0000-4000-8000-000000000003" "bob", by decide +kernel⟩

/-- An authority that resolves every run. -/
def snapshotFactory : RunQueueRepository.SnapshotFactory :=
  fun request attemptId attemptNumber now => .ok {
    runId := request.runId, attemptId, attemptNumber, releaseId := "release"
    imageDigest := "image", agentId := request.agentId, agentVersionId := request.agentVersionId
    agentConfigurationSha256 := "agent", knowledgeConfigurationSha256 := "knowledge"
    modelConfigurationSha256 := "model", egressPolicyVersionId := "egress"
    egressPolicySha256 := "egress", permissionMappingVersionId := request.permissionMappingVersionId
    permissionMappingSha256 := "mapping", permissionEpoch := request.permissionEpoch
    institutionAuthorizationSha256 := "institution", toolConfigurationSha256 := "tool"
    secretHandleIds := [], frozenAt := now, handles_sorted := .nil }

/-- A claim by the one executor. -/
def claim (attemptId : String) (now : Instant) : RunQueueRepository.ClaimArguments where
  slot := 1
  executorId := "executor"
  activationEpoch := 1
  now := now
  leaseSeconds := 30
  deadlineSeconds := 60
  snapshotFactory := snapshotFactory
  attemptId := attemptId
  claimToken := "claim_" ++ attemptId
  skipped := 0

/-- The executor holds its role for an hour and is activated. -/
def activated : List Call :=
  [.outside (.workerRoles
    ⟨[⟨"run_executor", 1, .active, some "executor", some (seconds 3600)⟩], by decide⟩),
   .queue (.activateRole 1 "executor" 0)]

end Sample

end ProofAgent
