import ProofAgent.Persistence.Database

/-! # Workflow tasks in storage

Snapshots with their resume intents. A read rebuilds the snapshot from its JSON
and compares its digest and its columns; a write goes through `validate_swap`
against the snapshot that is there. -/
namespace ProofAgent

open Base

/-- `required criteria ⊆ satisfied` of `validate_swap` and of `transition`. -/
def SnapshotFields.requiredSatisfied (s : SnapshotFields) : Bool :=
  s.goal.acceptanceCriteria.all fun c => !c.required || s.assessments.any fun a =>
    a.criterionId = c.criterionId && (a.status = .satisfied && a.goalRevision = s.goal.revision)

/-- Whether the counters of a budget stay below those of another. -/
def TaskBudgetUsage.within (previous usage : TaskBudgetUsage) : Bool :=
  previous.modelCalls ≤ usage.modelCalls && previous.retrievalCalls ≤ usage.retrievalCalls &&
  previous.toolCalls ≤ usage.toolCalls && previous.unknownModelCalls ≤ usage.unknownModelCalls &&
  !usage.activeSeconds.lt previous.activeSeconds

/-- Whether the token count may follow the previous one: once unknown it stays so. -/
def tokensWithin : Option Nat → Option Nat → Bool
  | none, none => true
  | none, some _ => false
  | some _, none => true
  | some previous, some tokens => previous ≤ tokens

/-- What `validate_swap` asks of a resume intent. -/
def describesCommit (intent : ResumeIntent) (updated : WorkflowTaskSnapshot) (owner : TaskOwner) :
    Bool :=
  intent.taskId = updated.goal.taskId && intent.owner = owner &&
  intent.goalRevision = updated.goal.revision && intent.snapshotVersion = updated.version &&
  updated.phase = .active &&
  !(intent.kind = .questionAnswer && !updated.questions.any fun q =>
    intent.questionId = some q.request.questionId && q.resumeIntentId = some intent.intentId &&
    q.status = .answered)

/-- The bound on a stored snapshot. -/
def maxSnapshotBytes : Nat := 524288

def validateSwap (rt : Runtime) (current updated : WorkflowTaskSnapshot) (owner : TaskOwner)
    (expectedVersion : Nat) (resumeIntent : Option ResumeIntent) : Except Error Unit := do
  require (current.owner = owner ∧ updated.owner = owner)
    (.persistenceNotFound "workflow_task" current.goal.taskId)
  require (current.version = expectedVersion)
    (.persistenceConflict "workflow_task" current.goal.taskId expectedVersion
      (some current.version))
  require (updated.version = expectedVersion + 1 ∧ current.goal.taskId = updated.goal.taskId ∧
      updated.createdAt = current.createdAt ∧
      updated.rawContentExpiresAt = current.rawContentExpiresAt ∧
      updated.creationRequestSha256 = current.creationRequestSha256 ∧
      updated.conversationId = current.conversationId ∧
      updated.allowUntrustedWebSupplement = current.allowUntrustedWebSupplement ∧
      current.updatedAt ≤ updated.updatedAt ∧
      (updated.goal.revision = current.goal.revision ∨
        updated.goal.revision = current.goal.revision + 1))
    (.persistenceInvariant "workflow task swap violates immutable identity or revision")
  require (updated.goal.revision = current.goal.revision → updated.goal = current.goal)
    (.persistenceInvariant "goal edits require a new goal revision")
  require (current.phase.isTerminal = false)
    (.persistenceInvariant "terminal workflow task cannot be changed")
  require (updated.phase = .complete → updated.requiredSatisfied = true)
    (.persistenceInvariant "required criteria have not been verified")
  require (current.budgetUsage.within updated.budgetUsage = true)
    (.persistenceInvariant "cumulative workflow budget cannot decrease")
  require (tokensWithin current.budgetUsage.tokens updated.budgetUsage.tokens = true)
    (.persistenceInvariant "unknown or accumulated token usage cannot be reset")
  require (rt.dumpSize updated.toJson ≤ maxSnapshotBytes)
    (.persistenceInvariant "workflow snapshot exceeds bounded storage size")
  require (resumeIntent.all fun intent => describesCommit intent updated owner)
    (.persistenceInvariant "resume intent must describe the exact committed answer")

namespace WorkflowTaskRepository

/-- The columns of a snapshot, with what storage makes of its JSON. -/
def rowOf (rt : Runtime) (s : WorkflowTaskSnapshot) (stored : Json) : TaskRow where
  taskId := s.goal.taskId
  owner := s.owner
  version := s.version
  goalRevision := s.goal.revision
  schemaVersion := 1
  phase := s.phase
  snapshotJson := stored
  snapshotSha256 := s.digest rt
  createdAt := s.createdAt
  updatedAt := s.updatedAt
  rawContentExpiresAt := s.rawContentExpiresAt

/-- `_decode`. -/
def decode (rt : Runtime) (row : TaskRow) : Except Error WorkflowTaskSnapshot := do
  let snapshot ← orRaise (WorkflowTaskSnapshot.ofJson row.snapshotJson)
    (.value "WorkflowTaskSnapshot validation failed")
  require (snapshot.digest rt = row.snapshotSha256 ∧ snapshot.version = row.version ∧
      snapshot.goal.revision = row.goalRevision ∧ row.schemaVersion = 1 ∧
      snapshot.phase = row.phase ∧ snapshot.owner = row.owner ∧
      snapshot.rawContentExpiresAt = row.rawContentExpiresAt)
    (.persistenceInvariant "workflow snapshot integrity mismatch")
  return snapshot

/-- Write a snapshot's JSON. -/
def store (s : WorkflowTaskSnapshot) : Except Error Json :=
  orRaise s.toJson.jsonb (.data "unsupported Unicode escape sequence")

def create (rt : Runtime) (snapshot : WorkflowTaskSnapshot) (db : TaskTables) :
    Except Error TaskTables := do
  require (snapshot.version = 1 ∧ snapshot.goal.revision = 1)
    (.persistenceInvariant "new workflow snapshot must start at version one")
  require (rt.dumpSize snapshot.toJson ≤ maxSnapshotBytes)
    (.persistenceInvariant "workflow snapshot exceeds bounded storage size")
  let stored ← store snapshot
  require (snapshot.rawContentExpiresAt ≤ snapshot.createdAt + days 90)
    (.integrity "workflow_tasks_retention")
  let workflowTasks ← orRaise (db.workflowTasks.insert? (rowOf rt snapshot stored))
    (.persistenceConflict "workflow_task" snapshot.goal.taskId 0 none)
  return { db with workflowTasks }

/-- The row of a task, for its owner. -/
def rowFor (taskId : String) (owner : TaskOwner) (db : TaskTables) : Option TaskRow :=
  (db.workflowTasks.find? taskId).filter fun row => row.owner = owner

def get (rt : Runtime) (taskId : String) (owner : TaskOwner) (db : TaskTables) :
    Except Error (Option WorkflowTaskSnapshot) :=
  match rowFor taskId owner db with
  | none => .ok none
  | some row => (decode rt row).map some

/-- The assignments of the update statement. -/
def TaskRow.assign (rt : Runtime) (row : TaskRow) (s : WorkflowTaskSnapshot) (stored : Json) :
    TaskRow :=
  { row with
    version := s.version
    goalRevision := s.goal.revision
    phase := s.phase
    snapshotJson := stored
    snapshotSha256 := s.digest rt
    updatedAt := s.updatedAt }

def compareAndSwap (rt : Runtime) (snapshot : WorkflowTaskSnapshot) (owner : TaskOwner)
    (expectedVersion : Nat) (resumeIntent : Option ResumeIntent) (db : TaskTables) :
    Except Error TaskTables := do
  let row ← orRaise (rowFor snapshot.goal.taskId owner db)
    (.persistenceNotFound "workflow_task" snapshot.goal.taskId)
  let current ← decode rt row
  validateSwap rt current snapshot owner expectedVersion resumeIntent
  let stored ← store snapshot
  let workflowTasks := db.workflowTasks.update
    (fun r => r.taskId = snapshot.goal.taskId && r.version = expectedVersion && r.owner = owner)
    (fun r => TaskRow.assign rt r snapshot stored) fun _ => rfl
  match resumeIntent with
  | none => return { db with workflowTasks }
  | some intent => do
    let resumes ← orRaise
      (db.resumes.insert? {
        intentId := intent.intentId, taskId := intent.taskId, owner,
        goalRevision := intent.goalRevision, intentJson := intent,
        createdAt := intent.createdAt, runId := none })
      (.integrity "workflow_task_resumes_pkey")
    return { workflowTasks, resumes }

/-- The order of `list_pending_resumes`. -/
def resumeBefore (a b : ResumeRow) : Bool :=
  a.createdAt < b.createdAt || (a.createdAt = b.createdAt && a.intentId ≤ b.intentId)

def listPendingResumes (owner : TaskOwner) (limit : Nat) (db : TaskTables) :
    Except Error (List ResumeIntent) := do
  require (1 ≤ limit ∧ limit ≤ 500) (.value "resume list limit must be between one and 500")
  return (((db.resumes.rows.filter fun r => r.owner = owner && r.runId = none).insertionSort
    fun a b => resumeBefore a b = true).take limit).map (·.intentJson)

def markResumeDispatched (intentId : String) (owner : TaskOwner) (runId : String)
    (db : TaskTables) : Except Error TaskTables := do
  require (1 ≤ runId.length ∧ runId.length ≤ 128) (.value "resume run id must be bounded")
  let row ← orRaise ((db.resumes.find? intentId).filter fun r => r.owner = owner)
    (.persistenceNotFound "workflow_resume" intentId)
  require (row.runId = none ∨ row.runId = some runId)
    (.persistenceInvariant "resume intent already belongs to a different run")
  return { db with
    resumes := db.resumes.update (fun r => r.intentId = intentId && r.owner = owner)
      (fun r => { r with runId := some runId }) fun _ => rfl }

/-- `purge_expired`; the resume intents of a deleted task go with it. -/
def purgeExpired (now : Instant) (db : TaskTables) : TaskTables where
  workflowTasks := db.workflowTasks.delete fun r => r.rawContentExpiresAt ≤ now
  resumes := db.resumes.delete fun r =>
    (db.workflowTasks.find? r.taskId).any fun t => t.rawContentExpiresAt ≤ now

end WorkflowTaskRepository

end ProofAgent
