import ProofAgent.Contracts.Platform

/-! # Workflow task contracts

A task's goal, its questions and their answers, the assessments of its criteria,
its budget, and the snapshot that holds them all. What a validator checks is a
field of the structure; `make` is the constructor that raises. -/
namespace ProofAgent

open Base

inductive Verifier where
  | sourceSupport | verifiedTool | answerCoverage | groundedAnalysis
  deriving DecidableEq

def Verifier.value : Verifier → String
  | sourceSupport => "source_support"
  | verifiedTool => "verified_tool"
  | answerCoverage => "answer_coverage"
  | groundedAnalysis => "grounded_analysis"

inductive TaskPhase where
  | active | waitingForInput | paused | complete | failed | cancelled
  deriving DecidableEq

def TaskPhase.value : TaskPhase → String
  | active => "active"
  | waitingForInput => "waiting_for_input"
  | paused => "paused"
  | complete => "complete"
  | failed => "failed"
  | cancelled => "cancelled"

/-- `TERMINAL_PHASES`. -/
def TaskPhase.isTerminal : TaskPhase → Bool
  | complete | failed | cancelled => true
  | _ => false

inductive QuestionStage where
  | goal | intent | plan | evidence | tool | answer | response
  deriving DecidableEq

def QuestionStage.value : QuestionStage → String
  | goal => "goal"
  | intent => "intent"
  | plan => "plan"
  | evidence => "evidence"
  | tool => "tool"
  | answer => "answer"
  | response => "response"

inductive ValueType where
  | string | integer | number | boolean
  deriving DecidableEq

def ValueType.value : ValueType → String
  | string => "string"
  | integer => "integer"
  | number => "number"
  | boolean => "boolean"

inductive AssessmentStatus where
  | unassessed | satisfied | failed
  deriving DecidableEq

def AssessmentStatus.value : AssessmentStatus → String
  | unassessed => "unassessed"
  | satisfied => "satisfied"
  | failed => "failed"

inductive QuestionStatus where
  | pending | answered | expired | superseded
  deriving DecidableEq

def QuestionStatus.value : QuestionStatus → String
  | pending => "pending"
  | answered => "answered"
  | expired => "expired"
  | superseded => "superseded"

/-- `status in {"pending", "expired"}`. -/
def QuestionStatus.isOpen : QuestionStatus → Bool
  | pending | expired => true
  | _ => false

inductive ResumeKind where
  | questionAnswer | continuation
  deriving DecidableEq

def ResumeKind.value : ResumeKind → String
  | questionAnswer => "question_answer"
  | continuation => "continue"

structure TaskOwner where
  actorSubject : String
  agentId : String
  agentVersion : String
  deriving DecidableEq

/-! ## Goals -/

theorem Verifier.unqueried (verifier : Verifier) :
    (none : Option String).isSome = true → verifier = .sourceSupport :=
  fun h => absurd h Bool.false_ne_true

theorem Verifier.unquoted (verifier : Verifier) :
    (none : Option String).isSome = true → verifier = .answerCoverage :=
  fun h => absurd h Bool.false_ne_true

theorem Verifier.untooled (verifier : Verifier) :
    (none : Option String).isSome = true → verifier = .verifiedTool :=
  fun h => absurd h Bool.false_ne_true

structure AcceptanceCriterion where
  criterionId : String
  description : String
  required : Bool := true
  verifier : Verifier
  query : Option String := none
  expectedText : Option String := none
  toolStepId : Option String := none
  query_basis : query.isSome = true → verifier = .sourceSupport := by
    first | exact Verifier.unqueried _ | decide
  text_basis : expectedText.isSome = true → verifier = .answerCoverage := by
    first | exact Verifier.unquoted _ | decide
  tool_basis : toolStepId.isSome = true → verifier = .verifiedTool := by
    first | exact Verifier.untooled _ | decide
  deriving DecidableEq

/-- The arguments of `GoalContract(...)`. -/
structure GoalFields where
  taskId : String
  revision : Nat
  objective : String
  sourceInputRef : String
  acceptanceCriteria : List AcceptanceCriterion
  constraints : List String := []
  requiredContext : List String := []
  deriving DecidableEq

def GoalFields.checks (g : GoalFields) : List (Bool × Error) :=
  [check (1 ≤ g.revision) "goal revision must be positive",
    check (1 ≤ g.acceptanceCriteria.length ∧ g.acceptanceCriteria.length ≤ 32)
      "a goal has between one and 32 acceptance criteria",
    check (g.constraints.length ≤ 32 ∧ g.requiredContext.length ≤ 32)
      "a goal has at most 32 constraints and context fields",
    check (g.acceptanceCriteria.map (·.criterionId)).Nodup
      "acceptance criterion identifiers must be unique",
    check (g.acceptanceCriteria.any (·.required) = true)
      "a goal requires at least one required acceptance criterion",
    check g.requiredContext.Nodup "required context fields must be unique"]

structure GoalContract extends GoalFields where
  accepted : ∀ c ∈ toGoalFields.checks, c.1 = true
  deriving DecidableEq

def GoalContract.make (g : GoalFields) : Except Error GoalContract :=
  orInvalid g.checks fun h => ⟨g, h⟩

/-! ## Questions and answers -/

theorem ValueType.freely (valueType : ValueType) :
    ([] : List String) ≠ [] → valueType = .string :=
  fun h => absurd rfl h

theorem no_choices : ([] : List String).Nodup := .nil

structure QuestionField where
  name : String
  label : String
  valueType : ValueType := .string
  required : Bool := true
  choices : List String := []
  maxLength : Nat := 2048
  string_choices : choices ≠ [] → valueType = .string := by
    first | exact ValueType.freely _ | decide
  unique_choices : choices.Nodup := by first | exact no_choices | decide
  deriving DecidableEq

theorem QuestionField.of_string {valueType : ValueType} {choices : List String}
    (h : (choices ≠ [] → valueType = .string) ∧ choices.Nodup) :
    choices ≠ [] → valueType = .string :=
  h.1

theorem QuestionField.of_nodup {valueType : ValueType} {choices : List String}
    (h : (choices ≠ [] → valueType = .string) ∧ choices.Nodup) : choices.Nodup :=
  h.2

/-- The arguments of `QuestionRequest(...)`. -/
structure QuestionRequestFields where
  questionId : String
  taskId : String
  goalRevision : Nat
  stage : QuestionStage
  fields : List QuestionField
  blocking : Bool := true
  affectedCriteria : List String := []
  expiresAt : Instant
  dedupeKey : String
  checkpointRef : String
  deriving DecidableEq

def QuestionRequestFields.checks (q : QuestionRequestFields) : List (Bool × Error) :=
  [check (1 ≤ q.goalRevision) "goal revision must be positive",
    check (1 ≤ q.fields.length ∧ q.fields.length ≤ 8)
      "a question has between one and eight fields",
    check (q.affectedCriteria.length ≤ 32) "a question affects at most 32 criteria",
    check (q.fields.map (·.name)).Nodup "question field names must be unique"]

structure QuestionRequest extends QuestionRequestFields where
  accepted : ∀ c ∈ toQuestionRequestFields.checks, c.1 = true
  deriving DecidableEq

def QuestionRequest.make (q : QuestionRequestFields) : Except Error QuestionRequest :=
  orInvalid q.checks fun h => ⟨q, h⟩

/-- `str | int | float | bool`. -/
inductive Scalar where
  | str (value : String)
  | int (value : Int)
  | float (value : PyFloat)
  | bool (value : Bool)
  deriving DecidableEq

/-- What `bounded_scalar_values` asks of one value: text is not blank, and a
number is finite as a float. -/
def Scalar.bounded : Scalar → Bool
  | .str s => !isBlank s && s.length ≤ 8192
  | .int n => n.natAbs < 2 ^ 1024 - 2 ^ 970
  | _ => true

/-- An answer's mapping; the order in which a mapping was filled is no part of
it, so its entries stand in the order of their names. -/
structure AnswerValues where
  entries : List (String × Scalar)
  ordered : entries.Pairwise fun a b => a.1 < b.1
  deriving DecidableEq

def AnswerValues.get? (v : AnswerValues) (name : String) : Option Scalar := v.entries.lookup name

structure TypedAnswer where
  questionId : String
  expectedGoalRevision : Nat
  values : AnswerValues
  idempotencyKey : String
  size : 1 ≤ values.entries.length ∧ values.entries.length ≤ 8
  bounded : ∀ p ∈ values.entries, 1 ≤ p.1.length ∧ p.1.length ≤ 128 ∧ p.2.bounded = true
  deriving DecidableEq

structure CriterionAssessment where
  criterionId : String
  goalRevision : Nat
  status : AssessmentStatus := .unassessed
  verifier : Verifier
  proofRefs : List String := []
  proof_for_success : status = .satisfied → proofRefs ≠ [] := by decide
  deriving DecidableEq

theorem QuestionStatus.unanswered :
    (none : Option TypedAnswer).isSome = decide (pending = answered) ∧
      (none : Option String).isSome = decide (pending = answered) ∧
      (none : Option Instant).isSome = decide (pending = answered) := by
  decide

structure QuestionState where
  request : QuestionRequest
  askedAt : Option Instant := none
  status : QuestionStatus := .pending
  answer : Option TypedAnswer := none
  answerFingerprint : Option String := none
  answeredAt : Option Instant := none
  resumeIntentId : Option String := none
  coherent_answer : answer.isSome = decide (status = .answered) ∧
    answerFingerprint.isSome = decide (status = .answered) ∧
    answeredAt.isSome = decide (status = .answered) := by
      first | exact QuestionStatus.unanswered | decide
  deriving DecidableEq

/-! ## Snapshots -/

theorem unused_seconds : PyFloat.zero.nonneg = true := rfl

structure TaskBudgetUsage where
  modelCalls : Nat := 0
  retrievalCalls : Nat := 0
  toolCalls : Nat := 0
  tokens : Option Nat := some 0
  unknownModelCalls : Nat := 0
  activeSeconds : PyFloat := .zero
  nonneg_seconds : activeSeconds.nonneg = true := by first | exact unused_seconds | decide
  deriving DecidableEq

/-- The arguments of `WorkflowTaskSnapshot(...)`. -/
structure SnapshotFields where
  goal : GoalContract
  owner : TaskOwner
  creationRequestSha256 : Option String := none
  conversationId : Option String := none
  allowUntrustedWebSupplement : Bool := false
  version : Nat
  phase : TaskPhase := .active
  questions : List QuestionState := []
  assessments : List CriterionAssessment := []
  latestRunId : Option String := none
  latestRunGoalRevision : Option Nat := none
  budgetUsage : TaskBudgetUsage := {}
  createdAt : Instant
  updatedAt : Instant
  rawContentExpiresAt : Instant
  deriving DecidableEq

def SnapshotFields.checks (s : SnapshotFields) : List (Bool × Error) :=
  [check (1 ≤ s.version) "version must be positive",
    check (s.questions.length ≤ 64) "a task has at most 64 questions",
    check (s.assessments.length ≤ 32) "a task has at most 32 assessments",
    check (s.createdAt ≤ s.updatedAt ∧ s.createdAt < s.rawContentExpiresAt)
      "task timestamps are inconsistent",
    check (s.questions.map (·.request.questionId)).Nodup
      "task question identifiers must be unique",
    check (s.assessments.map (·.criterionId)).Nodup
      "task assessment identifiers must be unique"]

structure WorkflowTaskSnapshot extends SnapshotFields where
  accepted : ∀ c ∈ toSnapshotFields.checks, c.1 = true
  deriving DecidableEq

def WorkflowTaskSnapshot.make (s : SnapshotFields) : Except Error WorkflowTaskSnapshot :=
  orInvalid s.checks fun h => ⟨s, h⟩

theorem WorkflowTaskSnapshot.make_ok {f : SnapshotFields} {s : WorkflowTaskSnapshot}
    (h : WorkflowTaskSnapshot.make f = .ok s) : s.toSnapshotFields = f := by
  obtain ⟨_, rfl⟩ := orInvalid_ok h
  rfl

structure ResumeIntent where
  kind : ResumeKind := .questionAnswer
  intentId : String
  taskId : String
  owner : TaskOwner
  goalRevision : Nat
  snapshotVersion : Nat
  questionId : Option String := none
  checkpointRef : String
  createdAt : Instant
  question_identity : questionId.isSome = decide (kind = .questionAnswer)
  deriving DecidableEq

structure AnswerSubmission where
  snapshot : WorkflowTaskSnapshot
  resumeIntent : Option ResumeIntent := none
  replayed : Bool := false
  deriving DecidableEq

/-! ## Updates by a run -/

structure TaskQuestionDraft where
  stage : QuestionStage
  fields : List QuestionField
  affectedCriteria : List String := []
  waitTimeoutSeconds : Nat := 86400
  size : 1 ≤ fields.length ∧ fields.length ≤ 3
  timeout : 1 ≤ waitTimeoutSeconds ∧ waitTimeoutSeconds ≤ 604800 := by decide
  deriving DecidableEq

structure WorkflowTaskUpdate where
  taskId : String
  expectedVersion : Nat
  goalRevision : Nat
  assessments : List CriterionAssessment := []
  verifiedProofRefs : List String := []
  question : Option TaskQuestionDraft := none
  usageDelta : TaskBudgetUsage := {}
  phase : TaskPhase := .active
  not_cancelled : phase ≠ .cancelled := by decide
  deriving DecidableEq

end ProofAgent
