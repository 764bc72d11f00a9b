import ProofAgent.Base.Effect
import ProofAgent.Control.ExecutionBudget
import ProofAgent.Control.ExecutionPolicy
import ProofAgent.Control.GoalControl
import ProofAgent.ControlledReact.ToolTaskCompletion

/-! # The orchestrator's ports

A port is a family of calls that may do anything to its own state, and raise. The
planner, the policy and the other ports share the state `W`; the truth store has
the state `T` and the snapshot store the state `S`. What a trace event shows is
left out. -/
namespace ProofAgent

open Base

structure AnswerSynthesisResult where
  outcome : ReceiptOutcome
  finalOutput : String
  message : String
  recoveryRequirementIds : List String := []
  answerRequirementReport : List FrozenDict := []
  factValidation : Option ValidationResult := none
  evidence : List EvidenceChunk := []

structure MemoryWriteCandidate where
  values : FrozenDict
  writeSource : String := "controlled_react_v3"

structure ApprovalPause where
  approvalId : String
  actionId : String
  toolName : String
  policyDecision : PolicyDecisionType
  checkpointRef : String
  parameters : FrozenDict

structure ClarificationNeed where
  actionId : Option String
  missingFields : List String
  message : String
  reason : String

/-- What an execution returns. The stage results are read off the state that
`stages` names. -/
structure WorkflowTemplateExecutionResult where
  runId : String
  templateName : String
  templateDescriptorVersion : String
  outcome : ReceiptOutcome
  finalOutput : String
  message : String
  approvalPause : Option ApprovalPause := none
  clarificationNeed : Option ClarificationNeed := none
  evidence : List EvidenceChunk := []
  stages : Option ControlledReActRunState := none
  intentResolution : Option FrozenDict := none
  toolTaskReport : Option ToolTaskReport := none
  executionPlan : Option ResolvedExecutionPlan := none
  workflowTaskUpdate : Option WorkflowTaskUpdate := none

/-- The functions over texts that a run rests on. -/
structure RunKnowledge extends GoalKnowledge where
  /-- `canonical_json_bytes(value).decode("utf-8")`. -/
  canonicalText : Json → String
  /-- The identifiers and source texts of `answer_requirements`. -/
  answerRequirements : String → List (String × String)
  irrelevantPurchasePolicyField : String → String → Bool
  /-- The violations of `evaluate_assurance` on a day. -/
  evaluateAssurance : AssurancePolicy → Int → List EvidenceChunk → Option String →
    Option ValidationResult → Except ReactError (List String)

/-! ## Ports -/

section
variable (W : Type)

structure MemoryPort where
  read : ControlledReActRunState → Effect W ReactError FrozenDict
  prepareWrite : ControlledReActRunState → AnswerSynthesisResult →
    Effect W ReactError (Option MemoryWriteCandidate)
  commitWrite : MemoryWriteCandidate → Effect W ReactError ValidationResult

structure PolicyPort where
  evaluate : ControlledReActRunState → ReActActionProposal → Effect W ReactError PolicyDecisionType
  evaluateMemoryWrite : Option (ControlledReActRunState → MemoryWriteCandidate →
    Effect W ReactError PolicyDecisionType) := none
  evaluateAnswer : Option (ControlledReActRunState → ReActActionProposal → AnswerEvidenceContext →
    AnswerSynthesisResult → Effect W ReactError PolicyDecisionType) := none

structure BudgetLedgerPort where
  restoreUsage : LedgerUsage → Effect W ReactError Unit
  ensureAvailable : Effect W ReactError Unit
  snapshot : Effect W ReactError LedgerUsage

structure SnapshotStorePort where
  save : ControlledReActRunStateSnapshot → Effect W ReactError String
  load : String → Effect W ReactError ControlledReActRunStateSnapshot

abbrev ObservationPort : Type :=
  ControlledReActRunState → ReActActionProposal → ObservationIdentity →
    Effect W ReactError ObservationEffect

end

structure ControlledReActPorts (W T S : Type) where
  planner : ControlledReActRunState → Effect W ReactError ReActActionProposal
  answerSynthesis : ControlledReActRunState → ReActActionProposal → AnswerEvidenceContext →
    Effect W ReactError AnswerSynthesisResult
  /-- The dump of the resolved intent and the admitted skill pack. -/
  intentResolution : Option (ControlledReActRunState →
    Effect W ReactError (FrozenDict × Option String)) := none
  memory : Option (MemoryPort W) := none
  knowledgeObservation : Option (ObservationPort W) := none
  toolObservation : Option (ObservationPort W) := none
  policy : Option (PolicyPort W) := none
  /-- The decision that the reviewer suggests. -/
  review : Option (ControlledReActRunState → ReActActionProposal →
    Effect W ReactError PolicyDecisionType) := none
  /-- An event's type and status. -/
  trace : Option (String → String → Effect W ReactError Unit) := none
  toolProposalScope : Option (ControlledReActRunState →
    Effect W ReactError EffectiveToolProposalScope) := none
  snapshotStore : Option (SnapshotStorePort S) := none
  /-- The store in memory where no other one is given. -/
  observationTruthStore : ObservationTruthStorePort T
  executionConfigurationDigest : Option String := none
  executionPolicy : Option WorkflowExecutionPolicy := none
  interactionPolicy : Option InteractionPolicy := none
  assurancePolicy : Option AssurancePolicy := none
  budgetLedger : Option (BudgetLedgerPort W) := none
  /-- The day that `datetime.now` shows. -/
  today : Effect W ReactError Int
  /-- The difference of two floats; `none` is an infinity. -/
  subFloat : PyFloat → PyFloat → Option PyFloat

/-! ## Requests -/

structure ControlledReActStartRequest where
  runId : String
  templateName : String
  templateDescriptorVersion : String
  question : String
  institutionAuthorization : InstitutionAuthorizationContext := {}
  conversationContext : Option ContextAdmission := none
  memoryRecallPayloads : List MemoryRecallWorkingPayload := []
  maxPlanRounds : Nat := 4
  toolTaskPlan : Option ToolTaskPlan := none
  maxToolCalls : Nat := 1
  taskCheckpointRef : Option String := none

structure ControlledReActResumeRequest where
  snapshotRef : String
  approvalId : String
  approved : Bool
  actor : String
  maxPlanRounds : Nat := 4
  expectedRunId : Option String := none
  institutionAuthorization : InstitutionAuthorizationContext := {}

/-! ## The orchestrator's state -/

/-- What a run did that others can see. -/
inductive RunEvent where
  | scopeResolved (state : ControlledReActRunState) (scope : EffectiveToolProposalScope)
  | policyEvaluated (state : ControlledReActRunState) (action : ReActActionProposal)
      (decision : PolicyDecisionType)
  | knowledgeObserved (state : ControlledReActRunState) (action : ReActActionProposal)
  | toolObserved (state : ControlledReActRunState) (action : ReActActionProposal)
  /-- An observation was committed, which led to this state. -/
  | committed (state : ControlledReActRunState)
  | snapshotSaved (snapshot : ControlledReActRunStateSnapshot)
  | snapshotLoaded (snapshot : ControlledReActRunStateSnapshot)
  /-- A request decided on the approval that this state waits for. -/
  | approvalDecided (request : ControlledReActResumeRequest) (state : ControlledReActRunState)

/-- The states of the ports, what the orchestrator keeps between its calls, and
the history of what it did. -/
structure Machine (W T S : Type) where
  world : W
  truths : T
  snapshots : S
  lastTaskCheckpointRef : Option String
  taskQuestion : Option TaskQuestionDraft
  goalAssessments : List CriterionAssessment
  lastExecutionPlan : ResolvedExecutionPlan
  journal : List RunEvent

/-- A computation of the orchestrator. -/
abbrev Orchestration (W T S : Type) : Type → Type := Effect (Machine W T S) ReactError

namespace Orchestration

variable {W T S α : Type}

/-- Call a port. -/
def callPort (x : Effect W ReactError α) : Orchestration W T S α :=
  Effect.focus (·.world) (fun m world => { m with world }) x

def callTruths (x : Effect T ReactError α) : Orchestration W T S α :=
  Effect.focus (·.truths) (fun m truths => { m with truths }) x

def callSnapshots (x : Effect S ReactError α) : Orchestration W T S α :=
  Effect.focus (·.snapshots) (fun m snapshots => { m with snapshots }) x

def log (event : RunEvent) : Orchestration W T S Unit :=
  Effect.modify fun m => { m with journal := m.journal ++ [event] }

/-- Call a port that is configured. -/
def whenPort {β : Type} (port : Option β) (call : β → Orchestration W T S Unit) :
    Orchestration W T S Unit :=
  match port with
  | some p => call p
  | none => pure ()

/-- `_emit_trace`. -/
def emitTrace (ports : ControlledReActPorts W T S) (eventType status : String) :
    Orchestration W T S Unit :=
  whenPort ports.trace fun emit => callPort (emit eventType status)

/-- `budget_ledger.ensure_available()`, if there is a ledger. -/
def ensureAvailable (ports : ControlledReActPorts W T S) : Orchestration W T S Unit :=
  whenPort ports.budgetLedger fun ledger => callPort ledger.ensureAvailable

end Orchestration

end ProofAgent
