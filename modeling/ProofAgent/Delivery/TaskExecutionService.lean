import ProofAgent.Persistence.RunQueueRepository

/-! # Publishing task runs

Submission of a request to the queue, and the two transactions that publish a
run of a task: `create` with the task's first run, and `dispatch` of a resume
intent. The configuration is the one with a database and a queue. -/
namespace ProofAgent

open Base

/-- What submission reads of a published agent. -/
structure PublishedAgent where
  agentId : String
  agentVersionId : Option String
  /-- Whether some resolved knowledge binding is not an external one. -/
  legacyKnowledge : Bool := false
  deriving DecidableEq

/-- `_admission(identity)`. -/
structure Admission where
  permissionMappingVersionId : Option String
  permissionEpoch : Nat
  institutionAuthorization : InstitutionAuthorizationContext := {}
  deriving DecidableEq

/-- What a submission says about the run. -/
structure Submission where
  runId : String
  question : String
  operatorSubject : String
  idempotencyKey : String
  conversationId : Option String := none
  conversationTurnCount : Option Nat := none
  allowUntrustedWebSupplement : Bool := false
  runPurpose : RunPurpose := .production
  task : Option TaskBinding := none

namespace RunSubmissionService

def submit (rt : Runtime) (agent : PublishedAgent) (admission : Admission) (s : Submission)
    (now : Instant) (db : Database) : Except Error ((RunQueueRecord × Bool) × Database) := do
  let agentVersionId ← orRaise agent.agentVersionId
    (.runSubmissionRejected "Run admission requires an immutable Published Agent Version")
  let permissionMappingVersionId ← orRaise admission.permissionMappingVersionId
    (.runSubmissionRejected
      "Run admission requires the authenticated permission authority version")
  require (1 ≤ admission.permissionEpoch)
    (.runSubmissionRejected
      "Run admission requires the authenticated permission authority version")
  require (agent.legacyKnowledge = false)
    (.runSubmissionRejected "Legacy KSS Agent execution is retired")
  let request ← RunRequest.make {
    runId := s.runId, operatorSubject := s.operatorSubject, idempotencyKey := s.idempotencyKey
    runPurpose := s.runPurpose, agentId := agent.agentId, agentVersionId, question := s.question
    allowUntrustedWebSupplement := s.allowUntrustedWebSupplement
    conversationId := s.conversationId, conversationTurnCount := s.conversationTurnCount
    task := s.task, permissionMappingVersionId, permissionEpoch := admission.permissionEpoch
    institutionAuthorization := admission.institutionAuthorization, submittedAt := now }
  RunQueueRepository.admitRun rt request db

end RunSubmissionService

namespace TaskExecutionService

/-- `_submit`. -/
def submit (rt : Runtime) (snapshot : WorkflowTaskSnapshot) (agent : PublishedAgent) (now : Instant)
    (idempotencyKey : String) (admission : Admission) (conversationTurnCount : Option Nat)
    (db : Database) : Except Error Database := do
  require (agent.agentVersionId = some snapshot.owner.agentVersion)
    (.persistenceInvariant "task execution requires its frozen Published Agent Version")
  let (_, db) ← RunSubmissionService.submit rt agent admission {
    runId := orText snapshot.latestRunId "", question := snapshot.goal.objective
    operatorSubject := snapshot.owner.actorSubject, idempotencyKey
    conversationId := snapshot.conversationId, conversationTurnCount
    allowUntrustedWebSupplement := snapshot.allowUntrustedWebSupplement
    task := some {
      taskId := snapshot.goal.taskId, expectedTaskVersion := snapshot.version
      taskSnapshotSha256 := snapshot.digest rt } } now db
  return db

/-- What the caller of `create` supplies. -/
structure CreateArguments where
  goal : GoalContract
  owner : TaskOwner
  requestSha256 : String
  publishedAgent : PublishedAgent
  now : Instant
  admission : Admission
  conversationId : Option String := none
  conversationTurnCount : Option Nat := none
  allowUntrustedWebSupplement : Bool := false

/-- A task that is there already must come from the same request. -/
def sameCreation (existing : WorkflowTaskSnapshot) (requestSha256 : String) : Except Error Unit :=
  require (existing.creationRequestSha256 = some requestSha256)
    (.persistenceIdempotencyConflict "task creation key was reused for another request")

def create (rt : Runtime) (a : CreateArguments) (db : Database) :
    Except Error ((WorkflowTaskSnapshot × Bool) × Database) := do
  let runId := rt.uuid5 (a.goal.taskId ++ ":initial")
  match ← WorkflowTaskRepository.get rt a.goal.taskId a.owner db.tasks with
  | some existing => do
    sameCreation existing a.requestSha256
    return ((existing, false), db)
  | none =>
    match WorkflowTaskService.create rt a.goal a.owner a.now (some runId) (some a.requestSha256)
        a.conversationId a.allowUntrustedWebSupplement db.tasks with
    | .ok (snapshot, tasks) => do
      let db ← submit rt snapshot a.publishedAgent a.now ("task-initial:" ++ a.goal.taskId)
        a.admission a.conversationTurnCount { db with tasks }
      return ((snapshot, true), db)
    | .error (.persistenceConflict ..) => do
      let existing ← WorkflowTaskService.get rt a.goal.taskId a.owner db.tasks
      sameCreation existing a.requestSha256
      return ((existing, false), db)
    | .error e => .error e

def dispatch (rt : Runtime) (intent : ResumeIntent) (owner : TaskOwner)
    (publishedAgent : PublishedAgent) (now : Instant) (admission : Admission)
    (conversationTurnCount : Option Nat) (db : Database) :
    Except Error (WorkflowTaskSnapshot × Database) := do
  let runId := rt.uuid5 intent.intentId
  let current ← WorkflowTaskService.get rt intent.taskId owner db.tasks
  if current.latestRunId = some runId then return (current, db)
  require (current.goal.revision = intent.goalRevision ∧ current.phase = .active ∧
      intent.owner = owner)
    (.persistenceInvariant "resume intent no longer matches its task")
  require (current.version = intent.snapshotVersion)
    (.persistenceInvariant "resume intent does not own the current task version")
  let (snapshot, tasks) ← WorkflowTaskService.bindRun rt intent.taskId runId owner current.version
    now none db.tasks
  let db ← submit rt snapshot publishedAgent now intent.intentId admission conversationTurnCount
    { db with tasks }
  let tasks ← WorkflowTaskRepository.markResumeDispatched intent.intentId owner runId db.tasks
  return (snapshot, { db with tasks })

end TaskExecutionService

end ProofAgent
