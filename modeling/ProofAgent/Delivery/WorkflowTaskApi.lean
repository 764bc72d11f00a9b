import ProofAgent.Delivery.TaskExecutionService

/-! # The task endpoints

An endpoint makes several calls, each of which commits by itself: where a later
one raises, the earlier ones stay. So an endpoint returns the database also
when it raises. The clock stands still within one request. -/
namespace ProofAgent.WorkflowTaskApi

open Base

/-- What an endpoint leaves behind: its reply or error, and the database. -/
abbrev Endpoint (α : Type) := Database → Except Error α × Database

/-- Go on with the reply, if there is one. -/
def Endpoint.bind {α β : Type} (x : Endpoint α) (f : α → Endpoint β) : Endpoint β := fun db =>
  match x db with
  | (.ok a, db) => f a db
  | (.error e, db) => (.error e, db)

instance : Monad Endpoint where
  pure a := fun db => (.ok a, db)
  bind := Endpoint.bind

/-- A read, or a check. -/
def look {α : Type} (f : Database → Except Error α) : Endpoint α := fun db => (f db, db)

/-- A transaction: it commits, or it raises and leaves the database as it was. -/
def commit {α : Type} (f : Database → Except Error (α × Database)) : Endpoint α := fun db =>
  match f db with
  | .ok (a, db') => (.ok a, db')
  | .error e => (.error e, db)

/-- A transaction on the task tables. -/
def commitTask {α : Type} (f : TaskTables → Except Error (α × TaskTables)) : Endpoint α :=
  commit fun db => do
    let (a, tasks) ← f db.tasks
    return (a, { db with tasks })

/-- `_service`: every request purges the expired tasks. -/
def service (now : Instant) : Endpoint Unit := fun db =>
  (.ok (), { db with tasks := WorkflowTaskRepository.purgeExpired now db.tasks })

/-- What a request carries: the published agents, the operator's admission and the clock. -/
structure Request where
  resolve : String → String → Option PublishedAgent
  admission : Admission
  now : Instant

/-- `_agent`. -/
def agent (request : Request) (owner : TaskOwner) : Except Error PublishedAgent := do
  let agent ← orRaise (request.resolve owner.agentId owner.agentVersion)
    (.http 409 "task_agent_version_unavailable")
  require (agent.agentVersionId = some owner.agentVersion)
    (.http 409 "task_agent_version_unavailable")
  return agent

/-- `_conversation`: the number of its turns. -/
def conversation (conversationId : Option String) (agentId : String) (db : Database) :
    Except Error (Option Nat) :=
  match conversationId with
  | none => .ok none
  | some conversationId => do
    require (isUuid conversationId = true)
      (.persistenceInvariant "conversation_id must be a full UUID")
    let header ← orRaise (db.conversations.conversations.find? conversationId)
      (.http 404 "task_conversation_not_found")
    require (header.agentId = agentId) (.http 404 "task_conversation_not_found")
    return some (ConversationRepository.turnsOf conversationId db.conversations)

/-- The pending intents of a task at its goal revision. -/
def pendingIntents (taskId : String) (owner : TaskOwner) (goalRevision : Nat) (db : Database) :
    Except Error (List ResumeIntent) := do
  let intents ← WorkflowTaskRepository.listPendingResumes owner 100 db.tasks
  return intents.filter fun i => i.taskId = taskId && i.goalRevision = goalRevision

/-- Whether a run of the task is still going on. -/
def runInProgress (rt : Runtime) (latestRunId : Option String) (db : Database) :
    Except Error Bool :=
  match latestRunId with
  | none => .ok false
  | some runId => do
    let previous ← RunQueueRepository.get rt runId db
    return previous.any fun record => !record.state.isTerminal

/-- The loop over the pending intents. -/
def dispatchAll (rt : Runtime) (request : Request) (owner : TaskOwner) (agent : PublishedAgent) :
    List ResumeIntent → WorkflowTaskSnapshot → Endpoint WorkflowTaskSnapshot
  | [], snapshot => pure snapshot
  | intent :: rest, snapshot =>
    if intent.goalRevision ≠ snapshot.goal.revision then
      dispatchAll rt request owner agent rest snapshot
    else do
      let turns ← look (conversation snapshot.conversationId owner.agentId)
      let snapshot ← commit (TaskExecutionService.dispatch rt intent owner agent request.now
        request.admission turns)
      dispatchAll rt request owner agent rest snapshot

/-- `_resume_locked`. -/
def resumeLocked (rt : Runtime) (request : Request) (taskId : String) (owner : TaskOwner)
    (allowContinue : Bool) : Endpoint WorkflowTaskSnapshot := do
  service request.now
  let agent ← look fun _ => agent request owner
  let snapshot ← look fun db => WorkflowTaskService.get rt taskId owner db.tasks
  if allowContinue = true ∧ (snapshot.phase = .paused ∨ snapshot.phase = .waitingForInput) ∧
      snapshot.questions.any (fun q => q.lapsed snapshot.goal.revision request.now) = true then
    commitTask (WorkflowTaskService.renewExpiredQuestions rt taskId owner snapshot.version
      request.now)
  else
    let pending ← look (pendingIntents taskId owner snapshot.goal.revision)
    if pending = [] ∧ allowContinue = true ∧
        (snapshot.phase = .active ∨ snapshot.phase = .paused) then
      if blocked snapshot.questions snapshot.goal.revision = true then
        if snapshot.phase = .paused then
          commitTask (WorkflowTaskService.transition rt taskId .waitingForInput owner
            snapshot.version request.now)
        else pure snapshot
      else if ← look (runInProgress rt snapshot.latestRunId) then pure snapshot
      else
        let intent ← commitTask (WorkflowTaskService.requestResume rt taskId owner
          snapshot.version request.now)
        dispatchAll rt request owner agent [intent] snapshot
    else dispatchAll rt request owner agent pending snapshot

/-- `resume_task`, after its request's purge. -/
def resumeTask (rt : Runtime) (request : Request) (taskId : String) (owner : TaskOwner) :
    Endpoint WorkflowTaskSnapshot := do
  service request.now
  resumeLocked rt request taskId owner true

def answerTask (rt : Runtime) (request : Request) (taskId : String) (owner : TaskOwner)
    (answer : TypedAnswer) (intentId : String) : Endpoint WorkflowTaskSnapshot := do
  let _ ← look fun _ => agent request owner
  service request.now
  let _ ← commitTask (WorkflowTaskService.answer rt taskId answer owner request.now intentId)
  service request.now
  resumeLocked rt request taskId owner false

def reviseTaskGoal (rt : Runtime) (request : Request) (taskId : String) (owner : TaskOwner)
    (goal : GoalContract) (expectedVersion : Nat) : Endpoint WorkflowTaskSnapshot := do
  service request.now
  let current ← look fun db => WorkflowTaskService.get rt taskId owner db.tasks
  let running ← look (runInProgress rt current.latestRunId)
  look fun _ => require (running = false) (.http 409 "task_run_must_stop_before_goal_revision")
  commitTask (WorkflowTaskService.reviseGoal rt taskId goal owner expectedVersion request.now)

/-- The phases that `TaskPhaseBody` admits. -/
def requestedPhases : List TaskPhase := [.paused, .active, .waitingForInput, .cancelled]

def changeTaskPhase (rt : Runtime) (request : Request) (taskId : String) (owner : TaskOwner)
    (phase : TaskPhase) (expectedVersion : Nat) : Endpoint WorkflowTaskSnapshot := do
  look fun _ => require (phase ∈ requestedPhases) (.http 422 "invalid_workflow_task_request")
  service request.now
  let current ← look fun db => WorkflowTaskService.get rt taskId owner db.tasks
  look fun _ => require (current.version = expectedVersion)
    (.persistenceConflict "workflow_task" taskId expectedVersion (some current.version))
  let running ← look (runInProgress rt current.latestRunId)
  let updated ←
    if phase = .paused ∧ running = true then
      commitTask (WorkflowTaskService.recordFailedRun rt taskId (orText current.latestRunId "") owner
        request.now)
    else
      commitTask (WorkflowTaskService.transition rt taskId phase owner expectedVersion request.now)
  if (phase = .paused ∨ phase = .cancelled) ∧ running = true then
    let _ ← commit (RunQueueRepository.requestCancel rt (orText current.latestRunId "")
      owner.actorSubject request.now)
    pure updated
  else pure updated

def getTask (rt : Runtime) (request : Request) (taskId : String) (owner : TaskOwner) :
    Endpoint WorkflowTaskSnapshot := do
  service request.now
  let snapshot ← look fun db => WorkflowTaskService.get rt taskId owner db.tasks
  if snapshot.questions.any (fun q => q.status = .pending && q.request.expiresAt ≤ request.now) then
    commitTask (WorkflowTaskService.expireQuestions rt taskId owner snapshot.version request.now)
  else pure snapshot

end ProofAgent.WorkflowTaskApi
