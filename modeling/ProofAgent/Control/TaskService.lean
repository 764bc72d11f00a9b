import ProofAgent.Contracts.WorkflowTaskJson
import ProofAgent.Persistence.WorkflowTaskRepository

/-! # Workflow task commands

The reducers that compute the next snapshot, and the service that reads a
snapshot, reduces it and swaps it in. Where the code makes a fresh identifier,
it is an argument. -/
namespace ProofAgent

open Base

/-! ## Answer requirements -/

def isPerformanceComparison (question : String) : Bool :=
  ["业绩", "经营表现", "业务表现"].any (containsText · question) &&
  ["亮点", "较好", "比较好", "优势", "增长"].any (containsText · question) &&
  ["较差", "比较差", "弱项", "不足", "压力", "劣势", "下滑"].any (containsText · question)

def answerContractId : String := "proofagent-answer-contract"

/-- The control-owned check of a performance objective. -/
def answerContract (objective : String) : AcceptanceCriterion where
  criterionId := answerContractId
  description := objective
  verifier := .groundedAnalysis

def compileGoalRequirements (goal : GoalContract) (previousGoal : Option GoalContract) :
    Except Error GoalContract := do
  let reserved := goal.acceptanceCriteria.filter fun c => c.criterionId = answerContractId
  require (reserved = [] ∨
      ∃ p ∈ previousGoal, ∀ c ∈ reserved, c ∈ p.acceptanceCriteria)
    (.persistenceInvariant
      "proofagent-answer-contract is reserved for the control-owned objective check")
  let criteria := goal.acceptanceCriteria.filter fun c => c.criterionId ≠ answerContractId
  if isPerformanceComparison goal.objective then
    require (criteria.length < 32)
      (.persistenceInvariant
        "analysis tasks allow at most 31 custom criteria plus the objective check")
    require (goal.objective.length ≤ 2048) (.value "description must be bounded")
    GoalContract.make { goal.toGoalFields with
      acceptanceCriteria := criteria ++ [answerContract goal.objective] }
  else GoalContract.make { goal.toGoalFields with acceptanceCriteria := criteria }

/-! ## Reducers -/

/-- `_changed`. -/
def changed (s : WorkflowTaskSnapshot) (now : Instant) (updates : SnapshotFields → SnapshotFields) :
    Except Error WorkflowTaskSnapshot :=
  WorkflowTaskSnapshot.make
    { updates s.toSnapshotFields with version := s.version + 1, updatedAt := now }

/-- A question that keeps the task from going on. -/
def QuestionState.blocks (q : QuestionState) (revision : Nat) : Bool :=
  q.request.blocking && q.request.goalRevision = revision && q.status.isOpen

/-- `_blocked`. -/
def blocked (questions : List QuestionState) (revision : Nat) : Bool :=
  questions.any fun q => q.blocks revision

/-- A question without an answer; `asked_at` is kept. -/
def QuestionState.unanswered (q : QuestionState) (status : QuestionStatus)
    (h : status ≠ .answered) : QuestionState where
  request := q.request
  askedAt := q.askedAt
  status := status
  coherent_answer := by simp [h]

/-- The fields of a request that a repeated question must agree on. -/
def QuestionRequest.sameQuestion (a b : QuestionRequest) : Bool :=
  a.taskId = b.taskId && a.goalRevision = b.goalRevision && a.fields = b.fields &&
  a.blocking = b.blocking && a.affectedCriteria = b.affectedCriteria && a.dedupeKey = b.dedupeKey

/-- Whether the question was asked before, going through the questions in order. -/
def askedBefore (question : QuestionRequest) : List QuestionState → Except Error Bool
  | [] => .ok false
  | existing :: rest =>
    if existing.request.goalRevision = question.goalRevision ∧
        existing.request.dedupeKey = question.dedupeKey then do
      require (existing.request.sameQuestion question = true)
        (.persistenceIdempotencyConflict "question dedupe key was reused for different fields")
      return true
    else if existing.request.questionId = question.questionId then
      .error (.persistenceIdempotencyConflict "question id was already used")
    else askedBefore question rest

def reduceQuestion (s : WorkflowTaskSnapshot) (question : QuestionRequest) (now : Instant) :
    Except Error WorkflowTaskSnapshot := do
  require (s.phase.isTerminal = false ∧ s.phase ≠ .paused)
    (.persistenceInvariant "task cannot ask in its current phase")
  require (question.taskId = s.goal.taskId ∧ question.goalRevision = s.goal.revision)
    (.persistenceInvariant "question must bind the current goal")
  require (now < question.expiresAt ∧ question.expiresAt ≤ s.rawContentExpiresAt)
    (.persistenceInvariant "question expiry must be inside the task retention window")
  require (∀ c ∈ question.affectedCriteria, c ∈ s.goal.acceptanceCriteria.map (·.criterionId))
    (.persistenceInvariant "question contains unknown acceptance criteria")
  require (question.blocking = true ∨ ∀ f ∈ question.fields, f.name ∉ s.goal.requiredContext)
    (.persistenceInvariant "required context cannot become a nonblocking question")
  if ← askedBefore question s.questions then return s
  changed s now fun f => { f with
    questions := f.questions ++ [{ request := question, askedAt := some now }]
    phase := if question.blocking then .waitingForInput else f.phase }

/-- `type(value) in expected_types[value_type]`. -/
def Scalar.hasType : Scalar → ValueType → Bool
  | .str _, .string => true
  | .int _, .integer => true
  | .int _, .number => true
  | .float _, .number => true
  | .bool _, .boolean => true
  | _, _ => false

/-- The bounds of a text field. -/
def Scalar.withinField (v : Scalar) (f : QuestionField) : Bool :=
  match v with
  | .str s => s.length ≤ f.maxLength && (f.choices = [] || s ∈ f.choices)
  | _ => true

/-- The checks of an answer against the fields of its question. -/
def checkAnswer (fields : List QuestionField) (values : AnswerValues) : Except Error Unit := do
  require ((∀ p ∈ values.entries, p.1 ∈ fields.map (·.name)) ∧
      ∀ f ∈ fields, f.required = true → f.name ∈ values.entries.map (·.1))
    (.persistenceInvariant "answer fields do not match the question schema")
  requireAll (values.entries.flatMap fun p =>
    match fields.find? fun f => f.name = p.1 with
    | none => []
    | some f =>
      [(p.2.hasType f.valueType,
          .persistenceInvariant "answer value does not match its declared type"),
        (p.2.withinField f, .persistenceInvariant "answer value violates its declared bounds")])

/-- `QuestionState(status="answered", ...)`. -/
def QuestionState.answeredWith (q : QuestionState) (answer : TypedAnswer) (fingerprint : String)
    (now : Instant) (resumeIntentId : Option String) : QuestionState where
  request := q.request
  askedAt := q.askedAt
  status := .answered
  answer := some answer
  answerFingerprint := some fingerprint
  answeredAt := some now
  resumeIntentId := resumeIntentId
  coherent_answer := ⟨rfl, rfl, rfl⟩

/-- Put a question in the place of the one with its identifier. -/
def replaceQuestion (questionId : String) (q : QuestionState) (questions : List QuestionState) :
    List QuestionState :=
  questions.map fun old => if old.request.questionId = questionId then q else old

def reduceAnswer (rt : Runtime) (s : WorkflowTaskSnapshot) (answer : TypedAnswer) (now : Instant)
    (intentId : String) : Except Error AnswerSubmission := do
  require (answer.expectedGoalRevision = s.goal.revision)
    (.persistenceConflict "workflow_goal" s.goal.taskId answer.expectedGoalRevision
      (some s.goal.revision))
  let fingerprint := answer.fingerprint rt
  match s.questions.find? fun q => q.answer.any fun a => a.idempotencyKey = answer.idempotencyKey with
  | some previous => do
    require (previous.answerFingerprint = some fingerprint)
      (.persistenceIdempotencyConflict "answer idempotency key was reused")
    return { snapshot := s, replayed := true }
  | none => do
    let item ← orRaise (s.questions.find? fun q => q.request.questionId = answer.questionId)
      (.persistenceNotFound "workflow_question" answer.questionId)
    if item.status = .answered then
      require (item.answerFingerprint = some fingerprint)
        (.persistenceIdempotencyConflict "question already has a different answer")
      return { snapshot := s, replayed := true }
    require (s.phase.isTerminal = false ∧ s.phase ≠ .paused)
      (.persistenceInvariant "task cannot accept answers in its current phase")
    require (item.status = .pending ∧ now < item.request.expiresAt)
      (.persistenceInvariant "question is expired or superseded")
    checkAnswer item.request.fields answer.values
    let answered := item.answeredWith answer fingerprint now
    let questions := replaceQuestion answer.questionId (answered none) s.questions
    if s.phase = .waitingForInput ∧ blocked questions s.goal.revision = false then
      let updated ← changed s now fun f => { f with
        questions := replaceQuestion answer.questionId (answered (some intentId)) questions
        phase := .active }
      return {
        snapshot := updated
        resumeIntent := some {
          intentId, taskId := s.goal.taskId, owner := s.owner, goalRevision := s.goal.revision
          snapshotVersion := s.version + 1, questionId := some answer.questionId
          checkpointRef := item.request.checkpointRef, createdAt := now
          question_identity := rfl } }
    let updated ← changed s now fun f => { f with questions }
    return { snapshot := updated }

/-- The budget after a run. -/
def TaskBudgetUsage.plus (rt : Runtime) (previous delta : TaskBudgetUsage) :
    Except Error TaskBudgetUsage := do
  let activeSeconds ← orRaise (rt.addFloat previous.activeSeconds delta.activeSeconds)
    (.value "active_seconds must be finite")
  if h : activeSeconds.nonneg = true then
    return {
      modelCalls := previous.modelCalls + delta.modelCalls
      retrievalCalls := previous.retrievalCalls + delta.retrievalCalls
      toolCalls := previous.toolCalls + delta.toolCalls
      tokens := do return (← previous.tokens) + (← delta.tokens)
      unknownModelCalls := previous.unknownModelCalls + delta.unknownModelCalls
      activeSeconds, nonneg_seconds := h }
  else .error (.value "active_seconds must not be negative")

/-- The texts by which `assess` and `apply_update` reject an assessment. -/
structure AssessmentErrors where
  unbound : String
  unverified : String
  noBasis : String

/-- The parameter that a criterion's verifier needs; `grounded_analysis` is not in the table. -/
def AcceptanceCriterion.basis (c : AcceptanceCriterion) : Except Error (Option String) :=
  match c.verifier with
  | .sourceSupport => .ok c.query
  | .verifiedTool => .ok c.toolStepId
  | .answerCoverage => .ok c.expectedText
  | .groundedAnalysis => .error (.key "grounded_analysis")

/-- `merged[assessment.criterion_id] = assessment`. -/
def mergeAssessment (merged : List CriterionAssessment) (a : CriterionAssessment) :
    List CriterionAssessment :=
  if merged.any fun old => old.criterionId = a.criterionId then
    merged.map fun old => if old.criterionId = a.criterionId then a else old
  else merged ++ [a]

/-- Check one assessment against its criterion and merge it. -/
def acceptAssessment (errors : AssessmentErrors) (goal : GoalContract)
    (verifiedProofRefs : List String) (merged : List CriterionAssessment)
    (a : CriterionAssessment) : Except Error (List CriterionAssessment) := do
  let criterion ← orRaise (goal.acceptanceCriteria.find? fun c => c.criterionId = a.criterionId)
    (.persistenceInvariant errors.unbound)
  require (a.verifier = criterion.verifier ∧ a.goalRevision = goal.revision)
    (.persistenceInvariant errors.unbound)
  if a.status = .satisfied then
    require (∀ r ∈ a.proofRefs, r ∈ verifiedProofRefs) (.persistenceInvariant errors.unverified)
    let basis ← criterion.basis
    require (basis.isSome = true) (.persistenceInvariant errors.noBasis)
    return mergeAssessment merged a
  return mergeAssessment merged a

/-- `text or default`. -/
def orText (text : Option String) (default : String) : String :=
  (text.filter fun t => t ≠ "").getD default

/-- `f"{latest_run_id or task_id}:{digest}"`. -/
def checkpointRef (rt : Runtime) (s : WorkflowTaskSnapshot) (taskId : String) : String :=
  orText s.latestRunId taskId ++ ":" ++ s.digest rt

/-- `identity[:32]`. -/
def shortIdentity (identity : String) : String := String.ofList (identity.toList.take 32)

/-- A question that `renew_expired_questions` asks again. -/
def QuestionState.lapsed (q : QuestionState) (revision : Nat) (now : Instant) : Bool :=
  q.request.goalRevision = revision && q.status.isOpen && q.request.expiresAt ≤ now

/-- How long a renewed question stays open. -/
def renewalLifetime (q : QuestionState) : Int :=
  let lifetime := match q.askedAt with
    | none => days 1
    | some askedAt => q.request.expiresAt - askedAt
  min (max lifetime (seconds 1)) (days 7)

/-! ## The service -/

namespace WorkflowTaskService

open WorkflowTaskRepository (compareAndSwap)

def create (rt : Runtime) (goal : GoalContract) (owner : TaskOwner) (now : Instant)
    (latestRunId creationRequestSha256 conversationId : Option String)
    (allowUntrustedWebSupplement : Bool) (db : TaskTables) :
    Except Error (WorkflowTaskSnapshot × TaskTables) := do
  require (goal.revision = 1)
    (.persistenceInvariant "new tasks must start at goal revision one")
  let goal ← compileGoalRequirements goal none
  let snapshot ← WorkflowTaskSnapshot.make {
    goal, owner, creationRequestSha256, conversationId, allowUntrustedWebSupplement
    version := 1, latestRunId
    latestRunGoalRevision := if (latestRunId.filter fun r => r ≠ "").isSome then some 1 else none
    createdAt := now, updatedAt := now, rawContentExpiresAt := now + days 90 }
  let db ← WorkflowTaskRepository.create rt snapshot db
  return (snapshot, db)

def get (rt : Runtime) (taskId : String) (owner : TaskOwner) (db : TaskTables) :
    Except Error WorkflowTaskSnapshot := do
  orRaise (← WorkflowTaskRepository.get rt taskId owner db)
    (.persistenceNotFound "workflow_task" taskId)

/-- `_current`. -/
def current (rt : Runtime) (taskId : String) (owner : TaskOwner) (expectedVersion : Nat)
    (now : Instant) (db : TaskTables) : Except Error WorkflowTaskSnapshot := do
  let s ← get rt taskId owner db
  require (s.version = expectedVersion)
    (.persistenceConflict "workflow_task" taskId expectedVersion (some s.version))
  require (now < s.rawContentExpiresAt)
    (.persistenceInvariant "workflow task retention has expired")
  require (s.updatedAt ≤ now) (.persistenceInvariant "task command timestamp is stale")
  return s

/-- The intent that `request_resume` writes. -/
def continueIntent (rt : Runtime) (s : WorkflowTaskSnapshot) (taskId : String) (owner : TaskOwner)
    (now : Instant) : ResumeIntent where
  kind := .continuation
  intentId := "continue-" ++
    rt.sha256 (.arr [.str taskId, .int s.goal.revision, .int s.version])
  taskId := taskId
  owner := owner
  goalRevision := s.goal.revision
  snapshotVersion := s.version + 1
  checkpointRef := checkpointRef rt s taskId
  createdAt := now
  question_identity := by decide

def requestResume (rt : Runtime) (taskId : String) (owner : TaskOwner) (expectedVersion : Nat)
    (now : Instant) (db : TaskTables) : Except Error (ResumeIntent × TaskTables) := do
  let s ← current rt taskId owner expectedVersion now db
  require ((s.phase = .active ∨ s.phase = .paused) ∧ blocked s.questions s.goal.revision = false)
    (.persistenceInvariant "task cannot continue with unanswered required questions")
  let updated ← changed s now fun f => { f with phase := .active }
  let intent := continueIntent rt s taskId owner now
  let db ← compareAndSwap rt updated owner s.version (some intent) db
  return (intent, db)

def renewedQuestion (rt : Runtime) (s : WorkflowTaskSnapshot) (taskId : String) (now : Instant)
    (q : QuestionState) : QuestionState :=
  let identity := rt.sha256 (.arr [.str q.request.questionId, .int s.version])
  { request :=
      { toQuestionRequestFields := { q.request.toQuestionRequestFields with
          questionId := "q-renew-" ++ shortIdentity identity
          dedupeKey := identity
          checkpointRef := checkpointRef rt s taskId
          expiresAt := min (now + renewalLifetime q) s.rawContentExpiresAt }
        accepted := q.request.accepted }
    askedAt := some now }

def renewExpiredQuestions (rt : Runtime) (taskId : String) (owner : TaskOwner)
    (expectedVersion : Nat) (now : Instant) (db : TaskTables) :
    Except Error (WorkflowTaskSnapshot × TaskTables) := do
  let s ← current rt taskId owner expectedVersion now db
  require (s.phase = .paused ∨ s.phase = .waitingForInput)
    (.persistenceInvariant "question renewal requires a waiting or paused task")
  let lapsed := fun q : QuestionState => q.lapsed s.goal.revision now
  let questions := s.questions.map fun q =>
    if lapsed q then q.unanswered .superseded (by decide) else q
  let renewed := (s.questions.filter lapsed).map (renewedQuestion rt s taskId now)
  if renewed = [] then return (s, db)
  let updated ← changed s now fun f => { f with
    questions := questions ++ renewed, phase := .waitingForInput }
  let db ← compareAndSwap rt updated owner s.version none db
  return (updated, db)

/-- Whether a failed run says nothing new about its task. -/
def failureRecorded (s : WorkflowTaskSnapshot) (runId : String) : Bool :=
  s.latestRunId ≠ some runId || s.phase.isTerminal ||
  s.latestRunGoalRevision ≠ some s.goal.revision ||
  (s.phase = .paused && s.budgetUsage.tokens = none)

def recordFailedRun (rt : Runtime) (taskId runId : String) (owner : TaskOwner) (now : Instant)
    (db : TaskTables) : Except Error (WorkflowTaskSnapshot × TaskTables) := do
  let s ← get rt taskId owner db
  if failureRecorded s runId then return (s, db)
  let updated ← changed s now fun f => { f with
    budgetUsage := { f.budgetUsage with
      tokens := none, unknownModelCalls := f.budgetUsage.unknownModelCalls + 1 }
    phase := .paused }
  let db ← compareAndSwap rt updated owner s.version none db
  return (updated, db)

def ask (rt : Runtime) (taskId : String) (question : QuestionRequest) (owner : TaskOwner)
    (expectedVersion : Nat) (now : Instant) (db : TaskTables) :
    Except Error (WorkflowTaskSnapshot × TaskTables) := do
  let s ← current rt taskId owner expectedVersion now db
  let updated ← reduceQuestion s question now
  if updated = s then return (updated, db)
  let db ← compareAndSwap rt updated owner expectedVersion none db
  return (updated, db)

/-- One round of the loop of `answer` up to its swap. -/
def readAnswer (rt : Runtime) (taskId : String) (answer : TypedAnswer) (owner : TaskOwner)
    (now : Instant) (intentId : String) (db : TaskTables) :
    Except Error (WorkflowTaskSnapshot × AnswerSubmission) := do
  let s ← get rt taskId owner db
  require (now < s.rawContentExpiresAt ∧ s.updatedAt ≤ now)
    (.persistenceInvariant "workflow task timestamp or retention is invalid")
  let result ← reduceAnswer rt s answer now intentId
  return (s, result)

/-- `answer` when no other call comes between its read and its swap. -/
def answer (rt : Runtime) (taskId : String) (answer : TypedAnswer) (owner : TaskOwner)
    (now : Instant) (intentId : String) (db : TaskTables) :
    Except Error (AnswerSubmission × TaskTables) := do
  let (s, result) ← readAnswer rt taskId answer owner now intentId db
  if result.replayed then return (result, db)
  let db ← compareAndSwap rt result.snapshot owner s.version result.resumeIntent db
  return (result, db)

def reviseGoal (rt : Runtime) (taskId : String) (goal : GoalContract) (owner : TaskOwner)
    (expectedVersion : Nat) (now : Instant) (db : TaskTables) :
    Except Error (WorkflowTaskSnapshot × TaskTables) := do
  let s ← current rt taskId owner expectedVersion now db
  require (s.phase.isTerminal = false ∧ goal.taskId = taskId ∧
      goal.revision = s.goal.revision + 1)
    (.persistenceInvariant "goal revision must advance an unfinished task by one")
  let goal ← compileGoalRequirements goal (some s.goal)
  let updated ← changed s now fun f => { f with
    goal
    questions := f.questions.map fun q =>
      if q.status.isOpen then q.unanswered .superseded (by decide) else q
    assessments := []
    phase := if f.phase = .waitingForInput then .active else f.phase }
  let db ← compareAndSwap rt updated owner expectedVersion none db
  return (updated, db)

def assessErrors : AssessmentErrors where
  unbound := "assessment must bind its current goal criterion"
  unverified := "assessment includes an unverified proof reference"
  noBasis := "criterion without verification basis must remain unassessed"

def assess (rt : Runtime) (taskId : String) (assessments : List CriterionAssessment)
    (owner : TaskOwner) (expectedVersion : Nat) (now : Instant) (verifiedProofRefs : List String)
    (db : TaskTables) : Except Error (WorkflowTaskSnapshot × TaskTables) := do
  let s ← current rt taskId owner expectedVersion now db
  require (s.phase = .active)
    (.persistenceInvariant "only active tasks can accept verifier results")
  let merged ← assessments.foldlM (acceptAssessment assessErrors s.goal verifiedProofRefs)
    s.assessments
  let updated ← changed s now fun f => { f with assessments := merged }
  let db ← compareAndSwap rt updated owner expectedVersion none db
  return (updated, db)

/-- The `allowed` table of `transition`. -/
def allowedPhase : TaskPhase → TaskPhase → Bool
  | .active, .paused | .active, .complete | .active, .failed | .active, .cancelled => true
  | .waitingForInput, .paused | .waitingForInput, .failed | .waitingForInput, .cancelled => true
  | .paused, .active | .paused, .waitingForInput | .paused, .cancelled => true
  | _, _ => false

def transition (rt : Runtime) (taskId : String) (phase : TaskPhase) (owner : TaskOwner)
    (expectedVersion : Nat) (now : Instant) (db : TaskTables) :
    Except Error (WorkflowTaskSnapshot × TaskTables) := do
  let s ← current rt taskId owner expectedVersion now db
  require (allowedPhase s.phase phase = true)
    (.persistenceInvariant "invalid workflow task phase transition")
  require (phase = .active → blocked s.questions s.goal.revision = false)
    (.persistenceInvariant "unanswered required questions prevent task resumption")
  require (phase = .complete → s.requiredSatisfied = true)
    (.persistenceInvariant "all required criteria need verification before completion")
  let updated ← changed s now fun f => { f with phase }
  let db ← compareAndSwap rt updated owner expectedVersion none db
  return (updated, db)

def expireQuestions (rt : Runtime) (taskId : String) (owner : TaskOwner) (expectedVersion : Nat)
    (now : Instant) (db : TaskTables) : Except Error (WorkflowTaskSnapshot × TaskTables) := do
  let s ← current rt taskId owner expectedVersion now db
  let questions := s.questions.map fun q =>
    if q.status = .pending ∧ q.request.expiresAt ≤ now then q.unanswered .expired (by decide)
    else q
  if questions = s.questions then return (s, db)
  let updated ← changed s now fun f => { f with questions }
  let db ← compareAndSwap rt updated owner expectedVersion none db
  return (updated, db)

def bindRun (rt : Runtime) (taskId runId : String) (owner : TaskOwner) (expectedVersion : Nat)
    (now : Instant) (usageDelta : Option TaskBudgetUsage) (db : TaskTables) :
    Except Error (WorkflowTaskSnapshot × TaskTables) := do
  let s ← current rt taskId owner expectedVersion now db
  require (s.phase.isTerminal = false)
    (.persistenceInvariant "terminal task cannot bind another run")
  let usage ← s.budgetUsage.plus rt (usageDelta.getD {})
  let updated ← changed s now fun f => { f with
    latestRunId := some runId
    latestRunGoalRevision := some f.goal.revision
    budgetUsage := usage }
  let db ← compareAndSwap rt updated owner expectedVersion none db
  return (updated, db)

def updateErrors : AssessmentErrors where
  unbound := "task assessment is not bound to its criterion"
  unverified := "task assessment references unverified proof"
  noBasis := "criterion without a verification basis remains unassessed"

/-- The question that an update asks. -/
def requestedQuestion (rt : Runtime) (s : WorkflowTaskSnapshot) (draft : TaskQuestionDraft)
    (now : Instant) (runId : String) : QuestionRequestFields :=
  let identity := rt.sha256 (.arr (draft.fields.map fun f => .obj f.jsonFields))
  { questionId := "q-" ++ toString s.goal.revision ++ "-" ++ shortIdentity identity
    taskId := s.goal.taskId
    goalRevision := s.goal.revision
    stage := draft.stage
    fields := draft.fields
    affectedCriteria := draft.affectedCriteria
    expiresAt := min (now + seconds draft.waitTimeoutSeconds) s.rawContentExpiresAt
    dedupeKey := identity
    checkpointRef := runId ++ ":" ++ s.digest rt }

/-- The questions and the phase after an update's question. -/
def projectQuestion (rt : Runtime) (s : WorkflowTaskSnapshot) (update : WorkflowTaskUpdate)
    (now : Instant) (runId : String) : Except Error (List QuestionState × TaskPhase) :=
  match update.question with
  | some draft => do
    let requested ← QuestionRequest.make (requestedQuestion rt s draft now runId)
    let projected ← reduceQuestion s requested now
    return (projected.questions, projected.phase)
  | none => do
    require (update.phase ≠ .waitingForInput)
      (.persistenceInvariant "waiting task update requires a question")
    return (s.questions, update.phase)

def applyUpdate (rt : Runtime) (update : WorkflowTaskUpdate) (owner : TaskOwner) (now : Instant)
    (runId expectedSnapshotSha256 : String) (db : TaskTables) :
    Except Error (WorkflowTaskSnapshot × TaskTables) := do
  let s ← current rt update.taskId owner update.expectedVersion now db
  require (s.digest rt = expectedSnapshotSha256 ∧ s.goal.revision = update.goalRevision)
    (.persistenceInvariant "task update does not match the frozen execution snapshot")
  require (s.phase = .active ∧ s.latestRunId = some runId)
    (.persistenceInvariant "task update does not own the active run")
  let merged ← update.assessments.foldlM
    (acceptAssessment updateErrors s.goal update.verifiedProofRefs) s.assessments
  let usage ← s.budgetUsage.plus rt update.usageDelta
  let (questions, phase) ← projectQuestion rt s update now runId
  let updated ← changed s now fun f => { f with
    assessments := merged, budgetUsage := usage, questions, phase }
  let db ← compareAndSwap rt updated owner s.version none db
  return (updated, db)

end WorkflowTaskService

end ProofAgent
