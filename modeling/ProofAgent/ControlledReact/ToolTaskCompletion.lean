import ProofAgent.ControlledReact.ObservationCommit
import ProofAgent.ControlledReact.TaskCompletion

/-! # Progress of a tool task

A plan's steps are served in order by the run's tool observations. Progress is
worked out anew from the records, the actions and the stored truths each time. -/
namespace ProofAgent

open Base

def taskError : ReactError :=
  runtimeError "Tool task result or dependency verification failed."
    "Restart with verified same-Run tool results and the frozen task plan."

/-! ## Exact calculations -/

/-- A `Decimal` that was written without an exponent: `coefficient / 10 ^ scale`. -/
structure ExactDecimal where
  coefficient : Int
  scale : Nat
  deriving DecidableEq

namespace ExactDecimal

/-- The coefficient at a scale that is not smaller. -/
def coefficientAt (d : ExactDecimal) (scale : Nat) : Int :=
  d.coefficient * 10 ^ (scale - d.scale)

/-- Equality of the values. -/
def same (a b : ExactDecimal) : Bool :=
  a.coefficientAt (max a.scale b.scale) = b.coefficientAt (max a.scale b.scale)

/-- The sum, which must have no more than `precision` significant digits. -/
def add (precision : Nat) (a b : ExactDecimal) : Option ExactDecimal :=
  let scale := max a.scale b.scale
  let sum := a.coefficientAt scale + b.coefficientAt scale
  let excess := (Nat.digits 10 sum.natAbs).length - precision
  if sum.natAbs % 10 ^ excess = 0 then some ⟨sum, scale⟩ else none

end ExactDecimal

/-- The parts of `-?[0-9]+(\.[0-9]+)?`: the sign, the digits before the point and
the digits after it. -/
def decimalParts (text : List Char) : Option (Bool × List Char × List Char) :=
  let (negative, rest) := match text with
    | '-' :: rest => (true, rest)
    | _ => (false, text)
  match rest.splitOn '.' with
  | [whole] => some (negative, whole, [])
  | [whole, fraction] => if fraction = [] then none else some (negative, whole, fraction)
  | _ => none

/-- `_decimal_number`. -/
def decimalNumber : Option Json → Except ReactError ExactDecimal
  | some (.str value) => do
    require (value.length ≤ 128) taskError
    let (negative, whole, fraction) ← orRaise (decimalParts value.toList) taskError
    require (whole ≠ []) taskError
    let magnitude ← orRaise (decimalDigits (whole ++ fraction)) taskError
    return ⟨if negative then -magnitude else magnitude, fraction.length⟩
  | _ => .error taskError

/-- The precision of the context of `_expected_sum`. -/
def calculationPrecision : Nat := 260

/-- `_expected_sum`. -/
def expectedSum (calculation : ExactCalculation) (parameters : FrozenDict) :
    Except ReactError ExactDecimal := do
  let operands ← orRaise ((parameters.get? calculation.operandParameter).bind (Json.asList some))
    taskError
  require (1 ≤ operands.length ∧ operands.length ≤ 1000) taskError
  operands.foldlM (fun total value => do
    let operand ← decimalNumber (some value)
    orRaise (total.add calculationPrecision operand) taskError) ⟨0, 0⟩

/-- `verify_calculation`. -/
def verifyCalculation (step : ToolTaskStep) (parameters result : FrozenDict) :
    Except ReactError Unit :=
  match step.calculation with
  | none => .ok ()
  | some calculation => do
    let expected ← expectedSum calculation parameters
    let actual ← decimalNumber (result.get? calculation.resultField)
    require (expected.same actual = true) taskError

/-! ## Parameters of a step -/

/-- `task_result`. -/
def taskResult (truth : ToolObservationTruth) : Except ReactError FrozenDict :=
  let result := truth.authorizedResult
  if result.get? "provider" = some (.str "mcp") then do
    require (result.get? "result_schema_validation" = some (.str "passed")) taskError
    orRaise ((result.get? "summary").bind FrozenDict.ofJson?) taskError
  else .ok result

/-- `value[part]` for each part of a path. -/
def followPath (value : Json) (path : List String) : Except ReactError Json :=
  path.foldlM (fun value part => orRaise (value.field part) taskError) value

/-- The steps that have a verified result, with their truths. -/
abbrev TaskResults : Type := List (String × ToolObservationTruth)

/-- The value that a binding takes from an earlier step. -/
def boundValue (results : TaskResults) (binding : ToolResultBinding) : Except ReactError Json := do
  let prior ← orRaise (results.lookup binding.stepId) taskError
  let result ← taskResult prior
  followPath result.json binding.path

/-- `parameters_for`. -/
def parametersFor (step : ToolTaskStep) (results : TaskResults) : Except ReactError FrozenDict := do
  let values ← step.bindings.mapM fun b => do
    let value ← boundValue results b.2
    return (b.1, value)
  let parameters := step.parameters.update (.ofFields values)
  match step.calculation with
  | none => return parameters
  | some calculation => do
    let _ ← expectedSum calculation parameters
    return parameters

/-! ## Progress -/

variable (rt : Runtime)

/-- `digest`. -/
def taskDigest (value : Json) : String := rt.sha256 value.canonical

def ToolTaskPlan.digest (plan : ToolTaskPlan) : String := taskDigest rt (.obj plan.jsonFields)

/-- `action_id`. -/
def ToolTaskStep.actionId (step : ToolTaskStep) : String := "act_task_" ++ step.stepId

structure ToolTaskProgress where
  results : TaskResults
  pending : Option ToolTaskStep

/-- The tool observations of a state. -/
def ControlledReActRunState.toolRecords (state : ControlledReActRunState) : List ObservationRecord :=
  state.observationRecords.filter fun record => record.actionType = .proposeToolCall

/-- The tool observations are those of the plan's first steps, in rounds that
increase. -/
def toolRecordsFollow (plan : ToolTaskPlan) (records : List ObservationRecord) : Bool :=
  records.map (·.actionId) = (plan.steps.take records.length).map (·.actionId) &&
    records.length ≤ plan.steps.length &&
    (records.zip records.tail).all fun p => p.1.round < p.2.round

/-- What one served step must satisfy. -/
def servedStep (state : ControlledReActRunState) (plan : ToolTaskPlan) (step : ToolTaskStep)
    (record : ObservationRecord) (truth : ToolObservationTruth) (action : ReActActionProposal)
    (results : TaskResults) : Except ReactError Unit := do
  let binding ← requireBoundObservationTruth rt (.tool truth)
  let parameters ← parametersFor step results
  require (binding.runId = state.runId ∧ binding.reference = record.truthRef ∧
      record.observationId = truth.observationId ∧ truth.toolName = step.toolName ∧
      action.targetToolName = some step.toolName ∧
      taskDigest rt action.parameters.json = taskDigest rt parameters.json ∧
      truth.redactionMetadata.get? "executed" = some (.bool true) ∧
      truth.redactionMetadata.get? "task_input_digest" =
        some (.str (taskDigest rt parameters.json)) ∧
      truth.redactionMetadata.get? "task_plan_digest" = some (.str (plan.digest rt)) ∧
      record.unresolvedSubgoals = []) taskError
  let result ← taskResult truth
  verifyCalculation step parameters result

/-- The loop of `assess_tool_tasks` over the steps that are left. -/
def assessSteps (state : ControlledReActRunState) (plan : ToolTaskPlan)
    (truths : List ObservationTruthArtifact) :
    TaskResults → List ToolTaskStep → Except ReactError ToolTaskProgress
  | results, [] => .ok ⟨results, none⟩
  | results, step :: rest =>
    -- A later entry of the source's dictionaries replaces an earlier one.
    match state.observationRecords.reverse.find? (fun r => r.actionId = step.actionId) with
    | none => .ok ⟨results, some step⟩
    | some record =>
      match truths.reverse.find? (fun t => t.actionId = step.actionId),
          state.actionHistory.reverse.find? (fun a => a.actionId = step.actionId) with
      | some (.tool truth), some action => do
        servedStep rt state plan step record truth action results
        assessSteps state plan truths (results ++ [(step.stepId, truth)]) rest
      | _, _ => .error taskError

def assessToolTasks (state : ControlledReActRunState) (truths : List ObservationTruthArtifact) :
    Except ReactError ToolTaskProgress :=
  match state.toolTaskPlan with
  | none => .ok ⟨[], none⟩
  | some plan => do
    require (toolRecordsFollow plan state.toolRecords = true) taskError
    assessSteps rt state plan truths [] plan.steps

def pendingToolAction (step : ToolTaskStep) (parameters : FrozenDict) : ReActActionProposal where
  actionId := step.actionId
  actionType := .proposeToolCall
  targetToolName := some step.toolName
  parameters := parameters
  riskLevel := "low"
  reasoningSummary :=
    { goal := "Complete the frozen read-only task."
      observations := []
      candidateActions := [.proposeToolCall, .refuse]
      selectedAction := .proposeToolCall
      rationaleSummary := "Execute the next verified dependency step."
      riskFlags := []
      requiredEvidence := [step.stepId] }

/-- One row of the report. -/
def reportRow (step : ToolTaskStep) (truth : ToolObservationTruth) :
    Except ReactError ToolTaskReportRow := do
  let values ← taskResult truth
  require (step.reportFields.all values.has = true) taskError
  let inputDigest ← orRaise ((truth.redactionMetadata.get? "task_input_digest").bind Json.asStr)
    (.key "task_input_digest")
  return { stepId := step.stepId, toolName := step.toolName, truthRef := truth.truthRef, inputDigest
           values := .ofFields (step.reportFields.eraseDups.filterMap fun key =>
             (values.get? key).map fun value => (key, value)) }

def buildToolTaskReport (state : ControlledReActRunState) (truths : List ObservationTruthArtifact) :
    Except ReactError ToolTaskReport := do
  let progress ← assessToolTasks rt state truths
  let plan ← orRaise state.toolTaskPlan taskError
  require (progress.pending = none) taskError
  let rows ← plan.steps.mapM fun step => do
    let truth ← orRaise (progress.results.lookup step.stepId) (.key step.stepId)
    reportRow step truth
  return { runId := state.runId, planDigest := plan.digest rt, rows }


end ProofAgent
