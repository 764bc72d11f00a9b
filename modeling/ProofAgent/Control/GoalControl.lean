import ProofAgent.Contracts.ControlledReactJson
import ProofAgent.ControlledReact.TaskCompletion
import ProofAgent.ControlledReact.ToolProposalBinding

/-! # Verifying a task's goal

What a task's answers tell a run, and the assessment of a goal's criteria that a
run proposes at its end. -/
namespace ProofAgent

open Base

inductive ValidationStatus where
  | passed | failed
  deriving DecidableEq

structure ValidationResult where
  status : ValidationStatus
  metadata : FrozenDict := .empty
  deriving DecidableEq

/-- The functions over business texts that a grounded analysis is checked by. -/
structure GoalKnowledge extends CoverageKnowledge where
  verifiedBusinessBody : String → List EvidenceChunk → Option String
  /-- `validate_answer_facts` of a message, its citations and its evidence, for an outcome. -/
  validateAnswerFacts : String → List String → List EvidenceChunk → ReceiptOutcome → ValidationResult
  /-- The rows of `requirement_report`. -/
  requirementReport : String → String → List EvidenceChunk → List FrozenDict

/-- The answer of a question that was answered at the goal's revision. -/
def currentAnswer (task : WorkflowTaskSnapshot) (question : QuestionState) : Option TypedAnswer :=
  if question.status = .answered ∧ question.request.goalRevision = task.goal.revision then
    question.answer
  else none

/-- The entries that one question adds, under each field's name and its label. -/
def answeredEntries (task : WorkflowTaskSnapshot) (question : QuestionState) :
    List (String × Json) :=
  match currentAnswer task question with
  | none => []
  | some answer => question.request.fields.flatMap fun field =>
    match answer.values.get? field.name with
    | none => []
    | some value => [(field.name, value.toJson), (field.label, value.toJson)]

def answeredFields (task : WorkflowTaskSnapshot) : FrozenDict :=
  ToolProposalParameterBinder.dictOf (task.questions.flatMap (answeredEntries task))

/-- `answered_fields(task) if task else {}`. -/
def suppliedFields (task : Option WorkflowTaskSnapshot) : FrozenDict :=
  (task.map answeredFields).getD .empty

def requiredGoalQueries (task : WorkflowTaskSnapshot) : List String :=
  ((task.goal.acceptanceCriteria.filter fun c => c.required && c.verifier = .sourceSupport).filterMap
    (·.query)).eraseDups

/-- What a run hands to `assess_goal`. -/
structure GoalEvidence where
  completion : Option RetrievalTaskCompletion
  evidence : List EvidenceChunk
  message : String
  outcome : ReceiptOutcome
  toolProofs : List (String × List String) := []

namespace GoalEvidence

variable (rt : Runtime) (knowledge : GoalKnowledge) (e : GoalEvidence)

def accepted : List EvidenceChunk := e.evidence.filter fun chunk => chunk.status = .accepted

/-- `'answer:sha256:' + sha256(message.encode()).hexdigest()`. -/
def answerProof : String := "answer:sha256:" ++ rt.sha256 (.str e.message)

/-- A grounded analysis is verified. -/
def analysisVerified (goal : GoalContract) (criterion : AcceptanceCriterion) : Bool :=
  isPerformanceComparison goal.objective && criterion.description = goal.objective &&
    goal.constraints = [] && (knowledge.verifiedBusinessBody e.message e.accepted).isSome &&
    (knowledge.validateAnswerFacts e.message (e.accepted.map fun c => orText c.citation c.source)
      e.accepted e.outcome).status = .passed &&
    knowledge.requirementReport goal.objective e.message e.accepted ≠ [] &&
    (knowledge.requirementReport goal.objective e.message e.accepted).all
      fun row => row.get? "status" = some (.str "satisfied")

/-- The proofs of one criterion. -/
def proofs (goal : GoalContract) (criterion : AcceptanceCriterion) : List String :=
  if e.outcome ≠ .answeredWithCitations then []
  else match criterion.verifier with
    | .sourceSupport =>
      match criterion.query, e.completion with
      | some query, some completion =>
        ((completion.requirements.find? fun row => row.requirement.query = query).map
          (·.supportingTruthRefs)).getD []
      | _, _ => []
    | .answerCoverage =>
      match criterion.expectedText with
      | some text =>
        if containsText text e.message && e.accepted.any (fun chunk => containsText text chunk.content)
        then [e.answerProof rt] else []
      | none => []
    | .groundedAnalysis => if e.analysisVerified knowledge goal criterion then [e.answerProof rt] else []
    | .verifiedTool =>
      match criterion.toolStepId with
      | some step => (e.toolProofs.lookup step).getD []
      | none => []

/-- An assessment is a success if it has a proof. -/
def assessment (goal : GoalContract) (criterion : AcceptanceCriterion) : CriterionAssessment :=
  let proofRefs := e.proofs rt knowledge goal criterion
  { criterionId := criterion.criterionId
    goalRevision := goal.revision
    verifier := criterion.verifier
    status := if proofRefs = [] then .unassessed else .satisfied
    proofRefs
    proof_for_success := by
      intro h
      split at h
      · cases h
      · assumption }

end GoalEvidence

def assessGoal (rt : Runtime) (knowledge : GoalKnowledge) (task : WorkflowTaskSnapshot)
    (e : GoalEvidence) : List CriterionAssessment :=
  task.goal.acceptanceCriteria.map (e.assessment rt knowledge task.goal)

end ProofAgent
