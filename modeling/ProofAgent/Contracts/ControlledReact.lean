import ProofAgent.Base.Mapping
import ProofAgent.Contracts.WorkflowTask
import ProofAgent.Contracts.RunExecution
import Mathlib.Data.List.SplitOn

/-! # Controlled ReAct contracts

Proposed actions, observations and the truths behind them, tool proposals, tool
task plans, and the state that one run of the orchestrator advances. What the
state keeps for display only, the trace projections and the recorded model
exchanges, is left out. -/
namespace ProofAgent

open Base

inductive ReActActionType where
  | askClarification | planRetrieval | runRetrievalStep | proposeToolCall | generateFinalAnswer
  | escalate | stop | refuse
  deriving DecidableEq

def ReActActionType.value : ReActActionType → String
  | askClarification => "ask_clarification"
  | planRetrieval => "plan_retrieval"
  | runRetrievalStep => "run_retrieval_step"
  | proposeToolCall => "propose_tool_call"
  | generateFinalAnswer => "generate_final_answer"
  | escalate => "escalate"
  | stop => "stop"
  | refuse => "refuse"

/-- What a call of the orchestrator or of one of its ports raises. -/
inductive ReactError where
  | proofAgent (code message fix : String)
  /-- `ValueError`, and pydantic's `ValidationError`. -/
  | value (message : String)
  | key (name : String)
  | budgetExceeded (reason : String)
  /-- `ModelOutputNormalizationError` of a role. -/
  | normalization (role : String)
  /-- What else a port raised. -/
  | port (description : String)
  deriving DecidableEq

inductive PolicyDecisionType where
  | allow | deny | requireApproval | escalate
  deriving DecidableEq

def PolicyDecisionType.value : PolicyDecisionType → String
  | allow => "allow"
  | deny => "deny"
  | requireApproval => "require_approval"
  | escalate => "escalate"

structure ReasoningSummary where
  goal : String
  observations : List String
  candidateActions : List ReActActionType
  selectedAction : ReActActionType
  rationaleSummary : String
  riskFlags : List String
  requiredEvidence : List String
  deriving DecidableEq

structure ReActActionProposal where
  actionId : String
  actionType : ReActActionType
  reasoningSummary : ReasoningSummary
  parameters : FrozenDict := .empty
  targetToolName : Option String := none
  riskLevel : String
  deriving DecidableEq

/-! ## Observations -/

inductive EvidenceStatus where
  | candidate | accepted | rejected
  deriving DecidableEq

def EvidenceStatus.value : EvidenceStatus → String
  | candidate => "candidate"
  | accepted => "accepted"
  | rejected => "rejected"

/-- A chunk of evidence; `details` holds the fields that only its dump shows. -/
structure EvidenceChunk where
  source : String
  content : String
  status : EvidenceStatus
  citation : Option String := none
  details : FrozenDict := .empty
  deriving DecidableEq

structure RetrievalObservationTruth where
  truthRef : String
  observationId : String
  actionId : String
  acceptedEvidence : List EvidenceChunk := []
  rejectedEvidenceSummary : FrozenDict := .empty
  admissionMetadata : FrozenDict := .empty
  citationRefs : List String := []
  deriving DecidableEq

structure ToolObservationTruth where
  truthRef : String
  observationId : String
  actionId : String
  toolName : String
  authorizedResult : FrozenDict := .empty
  resultSchemaId : Option String := none
  approvalRef : Option String := none
  redactionMetadata : FrozenDict := .empty
  deriving DecidableEq

inductive ObservationTruthArtifact where
  | retrieval (truth : RetrievalObservationTruth)
  | tool (truth : ToolObservationTruth)
  deriving DecidableEq

namespace ObservationTruthArtifact

def truthRef : ObservationTruthArtifact → String
  | retrieval t => t.truthRef
  | tool t => t.truthRef

def observationId : ObservationTruthArtifact → String
  | retrieval t => t.observationId
  | tool t => t.observationId

def actionId : ObservationTruthArtifact → String
  | retrieval t => t.actionId
  | tool t => t.actionId

/-- `truth.model_copy(update={"truth_ref": ref})`. -/
def withTruthRef : ObservationTruthArtifact → String → ObservationTruthArtifact
  | retrieval t, ref => retrieval { t with truthRef := ref }
  | tool t, ref => tool { t with truthRef := ref }

@[simp] theorem truthRef_withTruthRef (t : ObservationTruthArtifact) (ref : String) :
    (t.withTruthRef ref).truthRef = ref := by
  cases t <;> rfl

@[simp] theorem observationId_withTruthRef (t : ObservationTruthArtifact) (ref : String) :
    (t.withTruthRef ref).observationId = t.observationId := by
  cases t <;> rfl

@[simp] theorem actionId_withTruthRef (t : ObservationTruthArtifact) (ref : String) :
    (t.withTruthRef ref).actionId = t.actionId := by
  cases t <;> rfl

@[simp] theorem withTruthRef_withTruthRef (t : ObservationTruthArtifact) (a b : String) :
    (t.withTruthRef a).withTruthRef b = t.withTruthRef b := by
  cases t <;> rfl

end ObservationTruthArtifact

structure ObservationRecord where
  observationId : String
  actionId : String
  actionType : ReActActionType
  round : Int
  truthRef : String
  summary : FrozenDict := .empty
  acceptedEvidenceCount : Int := 0
  newEvidenceCount : Int := 0
  unresolvedSubgoals : List String := []
  sourceRefs : List String := []
  citationRefs : List String := []
  deriving DecidableEq

structure AnswerEvidenceContext where
  runId : String
  observationTruth : List ObservationTruthArtifact
  citationRefs : List String
  sourceRefs : List String

/-! ## Tool proposals -/

inductive ToolProposalParameterSource where
  | userSupplied | controlledContext | authorizedResourceHandle | systemGenerated | plannerLiteral
  deriving DecidableEq

def ToolProposalParameterSource.value : ToolProposalParameterSource → String
  | userSupplied => "user_supplied"
  | controlledContext => "controlled_context"
  | authorizedResourceHandle => "authorized_resource_handle"
  | systemGenerated => "system_generated"
  | plannerLiteral => "planner_literal"

structure ToolProposalParameter where
  name : String
  required : Bool := false
  valueType : String := "string"
  valueSource : ToolProposalParameterSource := .userSupplied
  description : Option String := none
  enumValues : List String := []
  deriving DecidableEq

structure ToolProposalInterface where
  toolContractId : String
  riskLevel : String
  readOnly : Bool
  requiresApproval : Bool
  parameters : List ToolProposalParameter := []
  deriving DecidableEq

structure EffectiveToolProposalScope where
  runId : String
  planRound : Int
  toolInterfaces : List ToolProposalInterface := []
  schemaDigest : String
  deriving DecidableEq

/-- `tool_contract_ids`. -/
def EffectiveToolProposalScope.toolContractIds (s : EffectiveToolProposalScope) : List String :=
  s.toolInterfaces.map (·.toolContractId)

structure BoundToolProposal where
  actionId : String
  toolContractId : String
  parameters : FrozenDict
  parameterSources : FrozenDict
  parameterDigest : String
  scopeDigest : Option String
  deriving DecidableEq

structure ApprovedToolProposalSnapshot where
  snapshotId : String
  actionId : String
  toolContractId : String
  parameters : FrozenDict
  parameterDigest : String
  scopeDigest : Option String
  policyDecision : String
  riskLevel : String
  approvalReason : String
  deriving DecidableEq

/-! ## Tool tasks -/

structure ToolResultBinding where
  stepId : String
  path : List String
  deriving DecidableEq

/-- An exact calculation; the one operation is the sum. -/
structure ExactCalculation where
  operandParameter : String
  resultField : String
  deriving DecidableEq

theorem unbound_ordered :
    ([] : List (String × ToolResultBinding)).Pairwise (fun a b => a.1 < b.1) := .nil

theorem unbound_separate :
    ([] : List (String × ToolResultBinding)).all (fun b => !FrozenDict.empty.has b.1) = true := rfl

theorem unbound_bounded :
    FrozenDict.empty.fields.length + ([] : List (String × ToolResultBinding)).length ≤ 32 := by
  decide

/-- One step of a plan. The bindings stand in the order of their names. -/
structure ToolTaskStep where
  stepId : String
  toolName : String
  parameters : FrozenDict := .empty
  bindings : List (String × ToolResultBinding) := []
  calculation : Option ExactCalculation := none
  reportFields : List String := []
  ordered : bindings.Pairwise (fun a b => a.1 < b.1) := by first | exact unbound_ordered | decide
  separate : bindings.all (fun b => !parameters.has b.1) = true := by
    first | exact unbound_separate | decide
  bounded : parameters.fields.length + bindings.length ≤ 32 := by
    first | exact unbound_bounded | decide
  deriving DecidableEq

/-- A step's bindings name earlier steps, and no step is named twice. -/
def orderedSteps : List String → List ToolTaskStep → Bool
  | _, [] => true
  | seen, step :: rest =>
    !seen.contains step.stepId && step.bindings.all (fun b => seen.contains b.2.stepId) &&
      orderedSteps (step.stepId :: seen) rest

structure ToolTaskPlan where
  steps : List ToolTaskStep
  size : 1 ≤ steps.length ∧ steps.length ≤ 8
  dependencies : orderedSteps [] steps = true
  deriving DecidableEq

structure ToolTaskReportRow where
  stepId : String
  toolName : String
  truthRef : String
  inputDigest : String
  values : FrozenDict
  deriving DecidableEq

structure ToolTaskReport where
  runId : String
  planDigest : String
  rows : List ToolTaskReportRow
  deriving DecidableEq

/-! ## The conversation and the run -/

structure TaskStateItem where
  key : String
  value : String
  sourceTurnId : String
  kind : String := "constraint"
  deriving DecidableEq

structure ConversationTaskState where
  items : List TaskStateItem := []
  unresolved : List String := []
  deriving DecidableEq

structure ContextAdmission where
  taskState : Option ConversationTaskState := none
  workflowTask : Option WorkflowTaskSnapshot := none
  admitted : Bool
  turnCount : Int := 0
  includedTurnIds : List String := []
  summary : String := ""
  recentSummary : Option String := none
  charCount : Int := 0
  maxTurns : Int := 3
  droppedTurnIds : List String := []
  fallbackReasons : List String := []
  clarificationTurnIds : List String := []
  deriving DecidableEq

structure MemoryRecallWorkingPayload where
  scope : String
  sourceRefs : List String := []
  summary : String := ""
  facts : FrozenDict := .empty
  deriving DecidableEq

inductive ControlledReActRunPhase where
  | planning | observing | waiting | terminal
  deriving DecidableEq

def ControlledReActRunPhase.value : ControlledReActRunPhase → String
  | planning => "planning"
  | observing => "observing"
  | waiting => "waiting"
  | terminal => "terminal"

theorem one_tool_call : 1 ≤ 8 := by decide

theorem four_rounds : 4 ≤ 64 := by decide

structure ControlledReActRunState where
  runId : String
  templateName : String
  templateDescriptorVersion : String
  question : String
  executionConfigurationDigest : Option String := none
  businessFlowSkillPackId : Option String := none
  toolTaskPlan : Option ToolTaskPlan := none
  maxToolCalls : Nat := 1
  taskPlanRoundLimit : Nat := 4
  institutionAuthorization : InstitutionAuthorizationContext := {}
  conversationContext : Option ContextAdmission := none
  memoryRecallPayloads : List MemoryRecallWorkingPayload := []
  phase : ControlledReActRunPhase := .planning
  planRound : Nat := 0
  actionHistory : List ReActActionProposal := []
  observationRecords : List ObservationRecord := []
  intentResolution : Option FrozenDict := none
  effectiveToolProposalScope : Option EffectiveToolProposalScope := none
  effectiveReactActionSet : List ReActActionType := []
  boundToolProposal : Option BoundToolProposal := none
  approvedToolProposalSnapshot : Option ApprovedToolProposalSnapshot := none
  memoryContext : FrozenDict := .empty
  memoryReadPerformed : Bool := false
  tool_calls : maxToolCalls ≤ 8 := by first | exact one_tool_call | decide
  round_limit : taskPlanRoundLimit ≤ 64 := by first | exact four_rounds | decide
  deriving DecidableEq

/-- `conversation_context.workflow_task`. -/
def ControlledReActRunState.workflowTask (s : ControlledReActRunState) :
    Option WorkflowTaskSnapshot :=
  s.conversationContext.bind (·.workflowTask)

structure ControlledReActRunStateSnapshot where
  snapshotId : String
  runId : String
  state : ControlledReActRunState
  integrityHmacSha256 : Option String := none
  deriving DecidableEq

/-! ## Evidence chunks

The fields of a chunk that the validators read, where they stand in its dump, and what the
validators do with the white space of their texts. -/

/-- `text.split()`. -/
def wordsOf (text : String) : List String :=
  ((text.toList.splitOnP isSpace).filter fun word => word ≠ []).map String.ofList

/-- `" ".join(text.split())`. -/
def collapseSpace (text : String) : String := " ".intercalate (wordsOf text)

namespace EvidenceChunk

/-- A field that is a text or `None`. -/
def textField (c : EvidenceChunk) (name : String) : Option String :=
  match c.details.get? name with
  | some (.str value) => some value
  | _ => none

def evidenceId (c : EvidenceChunk) : Option String := c.textField "evidence_id"

def sourceId (c : EvidenceChunk) : Option String := c.textField "source_id"

def chunkId (c : EvidenceChunk) : Option String := c.textField "chunk_id"

def authorityAdmitted (c : EvidenceChunk) : Bool :=
  ((c.details.get? "authority_admitted").bind Json.asBool).getD false

def supportedEvidenceSlotIds (c : EvidenceChunk) : List String :=
  ((c.details.get? "supported_evidence_slot_ids").bind (Json.asList Json.asStr)).getD []

end EvidenceChunk

/-- The evidence that was accepted. -/
def acceptedEvidence (evidence : List EvidenceChunk) : List EvidenceChunk :=
  evidence.filter fun chunk => chunk.status = .accepted

end ProofAgent
