import ProofAgent.ControlledReact.Ports

/-! # Planning one round

What happens between two actions: the intent is prepared once, the completion of
its queries is assessed from the stored truths, the plan's action set is narrowed,
and the planner's proposal is constrained to it. -/
namespace ProofAgent

open Base

/-! ## Reading the intent and the proposal -/

/-- The strings of a JSON array. -/
def textItems : Option Json → List String
  | some (.arr items) => items.filterMap Json.asStr
  | _ => []

namespace ControlledReActRunState

/-- `state.intent_resolution or {}`. -/
def intent (s : ControlledReActRunState) : FrozenDict := s.intentResolution.getD .empty

/-- `intent.get('recommended_next_action') == action.value`. -/
def recommends (s : ControlledReActRunState) (action : ReActActionType) : Bool :=
  s.intent.get? "recommended_next_action" = some (.str action.value)

end ControlledReActRunState

/-- `bool(value)`. -/
def truthy : Option Json → Bool
  | none | some .null | some (.bool false) | some (.str "") | some (.arr []) | some (.obj []) => false
  | some (.int n) => n ≠ 0
  | some (.float x) => !x.isZero
  | some _ => true

/-- `_clarification_missing_fields`. -/
def clarificationMissingFields (action : ReActActionProposal) : List String :=
  let candidates := match action.parameters.get? "missing_fields" with
    | some (.str field) => [field]
    | some (.obj fields) => fields.map Prod.fst
    | raw => textItems raw
  match (candidates.map stripText).filter (· ≠ "") with
  | [] => ["required_details"]
  | fields => fields

/-- The stage that a clarification names. -/
def interactionStage (action : ReActActionProposal) : InteractionStage :=
  match action.parameters.get? "interaction_stage" with
  | some (.str "goal") => .goal
  | some (.str "evidence") => .evidence
  | some (.str "tool_input") => .toolInput
  | some (.str "finalization") => .finalization
  | _ => .plan

/-- `_required_context_action`. -/
def requiredContextAction (fields : List String) (stage : InteractionStage) : ReActActionProposal where
  actionId := "act_required_context"
  actionType := .askClarification
  riskLevel := "low"
  parameters := .ofFields [("missing_fields", textsJson fields), ("interaction_stage", .str stage.value)]
  reasoningSummary :=
    { goal := "Resolve required Task context."
      observations := []
      candidateActions := [.askClarification]
      selectedAction := .askClarification
      rationaleSummary := "The frozen goal requires information before execution."
      riskFlags := ["missing_required_context"]
      requiredEvidence := [] }

namespace ControlledReActOrchestrator

open Orchestration

variable {W T S : Type} (rt : Runtime) (knowledge : RunKnowledge) (ports : ControlledReActPorts W T S)

/-- `configured_tools_enabled` and the like do not change the compiled plan's decisions. -/
def initialExecutionPlan : ResolvedExecutionPlan :=
  (compileExecutionPlan ports.executionPolicy 0 false).getD
    { requestedComplexity := none, effectiveComplexity := none }

/-- `execution_policy or interaction_policy or assurance_policy`. -/
def hasPolicies : Bool :=
  ports.executionPolicy.isSome || ports.interactionPolicy.isSome || ports.assurancePolicy.isSome

/-! ## The stored truths -/

/-- The loop of `_answer_evidence_context`. -/
def loadTruths : List ObservationRecord → Orchestration W T S (List ObservationTruthArtifact)
  | [] => pure []
  | record :: rest => do
    let loadedTruth ← callTruths (ports.observationTruthStore.load record.truthRef)
    let binding ← Effect.ofExcept (requireBoundObservationTruth rt loadedTruth)
    Effect.require (binding.reference = record.truthRef)
      (.value "truth store loaded a mismatched truth_ref")
    let truths ← loadTruths rest
    return binding.truth :: truths

/-- One pair of `_validate_answer_truth_context`. -/
def validateAnswerTruth (record : ObservationRecord) (truth : ObservationTruthArtifact) :
    Except ReactError Unit := do
  require (record.truthRef = truth.truthRef)
    (.value "observation record truth_ref does not match truth artifact")
  require (record.observationId = truth.observationId)
    (.value "observation record id does not match truth artifact")
  require (record.actionId = truth.actionId)
    (.value "observation record action_id does not match truth artifact")
  match truth with
  | .retrieval t =>
    require (∀ ref ∈ record.citationRefs, ref ∈ t.citationRefs)
      (.value "observation record citation_refs are missing from truth artifact")
  | .tool _ =>
    require (record.citationRefs = []) (.value "tool observation record must not carry citation_refs")

/-- `_validate_answer_truth_context`. -/
def validateAnswerTruthContext (records : List ObservationRecord)
    (truths : List ObservationTruthArtifact) : Except ReactError Unit :=
  (records.zip truths).forM fun p => validateAnswerTruth p.1 p.2

/-- `_answer_evidence_context`. -/
def answerEvidenceContext (state : ControlledReActRunState) :
    Orchestration W T S AnswerEvidenceContext := do
  let truths ← loadTruths rt ports state.observationRecords
  Effect.ofExcept (validateAnswerTruthContext state.observationRecords truths)
  return { runId := state.runId
           observationTruth := truths
           citationRefs := state.observationRecords.flatMap (·.citationRefs)
           sourceRefs := state.observationRecords.flatMap (·.sourceRefs) }

/-- `_task_completion` with the context at hand. -/
def completionWith (state : ControlledReActRunState) (context : AnswerEvidenceContext) :
    Except ReactError (Option RetrievalTaskCompletion) := do
  let requirements ← requiredRetrievals rt state.intentResolution
  if requirements = [] then return none
  else do
    let optional ← optionalQueries state.intentResolution
    let completion ← assessRetrievalCompletion rt knowledge.toCoverageKnowledge state.runId
      requirements state.observationRecords context.observationTruth state.question optional
    return some completion

/-- `_task_completion`. -/
def taskCompletion (state : ControlledReActRunState) :
    Orchestration W T S (Option RetrievalTaskCompletion) := do
  let requirements ← Effect.ofExcept (requiredRetrievals rt state.intentResolution)
  if requirements = [] then return none
  else do
    let context ← answerEvidenceContext rt ports state
    Effect.ofExcept (completionWith rt knowledge state context)

/-! ## Before the loop -/

/-- `'field_' + sha256(name.encode()).hexdigest()[:24]`. -/
def hashedFieldName (name : String) : String := "field_" ++ takeText 24 (rt.sha256 (.str name))

/-- Make a goal's query required, or add it. -/
def requireQuery (queries : List FrozenDict) (query : String) : List FrozenDict :=
  let isQuery := fun item : FrozenDict => item.get? "query" = some (.str query)
  if queries.any isQuery then
    let (before, rest) := queries.span fun item => !isQuery item
    before ++ (rest.take 1).map (·.insert "required" (.bool true)) ++ rest.drop 1
  else queries ++ [.ofFields [("query", .str query), ("required", .bool true),
    ("intent_angle", .str "explicit_goal"), ("reason", .str "Required by the frozen Task goal.")]]

/-- The intent that a task's answers and goal leave. -/
def taskIntent (task : WorkflowTaskSnapshot) (intent : FrozenDict) : Except ReactError FrozenDict := do
  let supplied := answeredFields task
  let missing := (textItems (intent.get? "missing_fields")).filter fun name => !supplied.has name
  let deferred := (textItems (intent.get? "deferred_answer_fields")).filter fun name =>
    !supplied.has name && !supplied.has (hashedFieldName rt name)
  let next := if missing = [] ∧
      intent.get? "recommended_next_action" = some (.str ReActActionType.askClarification.value) then
    intent.insert "recommended_next_action" (.str ReActActionType.planRetrieval.value)
  else intent
  let items := match intent.get? "retrieval_query_set" with
    | some (.arr items) => items.filterMap FrozenDict.ofJson?
    | _ => []
  let queries := (requiredGoalQueries task).foldl requireQuery items
  require (queries.length ≤ 5)
    (.proofAgent "PA_CONFIG_002" "Goal exceeds the bounded retrieval query set."
      "Split the goal into smaller Tasks.")
  return ((next.insert "deferred_answer_fields" (textsJson deferred)).insert "missing_fields"
    (textsJson missing)).insert "retrieval_query_set" (.arr (queries.map FrozenDict.json))

/-- `_resolve_execution_plan`. -/
def resolveExecutionPlan (state : ControlledReActRunState) : Orchestration W T S Unit := do
  let requirements ← Effect.ofExcept (requiredRetrievals rt state.intentResolution)
  let plan ← Effect.ofExcept (orRaise (compileExecutionPlan ports.executionPolicy requirements.length
      (state.toolTaskPlan.isSome || state.recommends .proposeToolCall))
    (.value "required_query_count must be between zero and five"))
  Effect.modify fun m => { m with lastExecutionPlan := plan }
  if hasPolicies ports then emitTrace ports "workflow_execution_resolved" "ok" else pure ()

/-- The intent resolution of `_prepare_pre_loop_state`. -/
def resolveIntent (state : ControlledReActRunState) : Orchestration W T S ControlledReActRunState :=
  match ports.intentResolution with
  | none => pure state
  | some resolve => do
    let (intent, skillPack) ← callPort (resolve state)
    emitTrace ports "intent_resolution" "ok"
    emitTrace ports "retrieval_query_set" "ok"
    return { state with businessFlowSkillPackId := skillPack, intentResolution := some intent }

/-- The task's part of `_prepare_pre_loop_state`. -/
def admitTaskIntent (state : ControlledReActRunState) : Except ReactError ControlledReActRunState :=
  match state.workflowTask with
  | none => .ok state
  | some task => do
    let intent ← taskIntent rt task state.intent
    return { state with intentResolution := some intent }

/-- The memory that a run reads, unless it is a lite one. -/
def readMemory (state : ControlledReActRunState) : Orchestration W T S ControlledReActRunState :=
  match ports.memory with
  | none => pure state
  | some memory => do
    let m ← Effect.read
    if m.lastExecutionPlan.effectiveComplexity = some .lite then return state
    else do
      let memoryContext ← callPort (memory.read state)
      return { state with memoryContext, memoryReadPerformed := true }

/-- `_prepare_pre_loop_state`. -/
def preparePreLoopState (state : ControlledReActRunState) :
    Orchestration W T S ControlledReActRunState := do
  let state ← resolveIntent ports state
  let state ← Effect.ofExcept (admitTaskIntent rt state)
  resolveExecutionPlan rt ports state
  readMemory ports state

/-! ## The plan's action set -/

/-- `_eligible_actions_for_state`. -/
def eligibleActionsForState (state : ControlledReActRunState) (maxPlanRounds : Nat)
    (completion : Option RetrievalTaskCompletion) :
    List ReActActionType × Option ConvergenceSignal :=
  match completion with
  | none => computeEligibleActionSet state.planRound maxPlanRounds state.actionHistory
      state.observationRecords
  | some completion =>
    if completion.complete then
      if state.observationRecords.any fun r => r.unresolvedSubgoals.any (· ≠ "tool_approval_denied")
      then ([.askClarification, .refuse], some .unresolvedSubgoals)
      else ([.askClarification, .generateFinalAnswer, .refuse], some .requiredRetrievalComplete)
    else if maxPlanRounds ≤ state.planRound then
      ([.askClarification, .refuse], some .planBudgetExhausted)
    else if completion.pending = [] then ([.askClarification, .refuse], some .requirementsUnsatisfied)
    else ([.askClarification, .planRetrieval, .proposeToolCall, .refuse],
      some .requiredRetrievalPending)

/-- The scope of a round, if a scope port is configured. -/
def resolveScope (state : ControlledReActRunState) :
    Orchestration W T S (Option EffectiveToolProposalScope) :=
  match ports.toolProposalScope with
  | none => pure none
  | some resolve => do
    let scope ← callPort (resolve state)
    log (.scopeResolved state scope)
    return some scope

/-- `_prepare_plan_state`. -/
def preparePlanState (state : ControlledReActRunState) (maxPlanRounds : Nat) :
    Orchestration W T S ControlledReActRunState := do
  let completion ← taskCompletion rt knowledge ports state
  let eligible := (eligibleActionsForState state maxPlanRounds completion).1
  if completion.isSome then emitTrace ports "task_completion_evaluated" "ok" else pure ()
  let scope ← resolveScope ports state
  let eligible := if scope.any fun s => s.toolInterfaces = [] then
      eligible.filter fun t => t ≠ .proposeToolCall else eligible
  return { state with
    effectiveToolProposalScope := scope
    effectiveReactActionSet := eligible
    boundToolProposal := none
    approvedToolProposalSnapshot := none }

/-! ## Choosing the action -/

/-- The action by which a compiled workflow goes on. -/
def compiledProposal (planRound : Nat) (blockedReason : Option String) : ReActActionProposal :=
  let kind := if blockedReason.isSome then ReActActionType.refuse else .generateFinalAnswer
  { actionId := "act_compiled_" ++ toString planRound
    actionType := kind
    riskLevel := "low"
    parameters := match blockedReason with
      | some reason => .ofFields [("refusal_reason", .str reason)]
      | none => .empty
    reasoningSummary :=
      { goal := "Complete the admitted task requirements."
        observations := []
        candidateActions := [kind]
        selectedAction := kind
        rationaleSummary := "The compiled workflow selects the next bounded action."
        riskFlags := []
        requiredEvidence := [] } }

/-- What the intent alone decides, under a policy or a task. -/
def intentAction (state : ControlledReActRunState) : Option ReActActionProposal :=
  if ports.executionPolicy.isSome || ports.interactionPolicy.isSome || state.workflowTask.isSome then
    let missing := textItems (state.intent.get? "missing_fields")
    if missing ≠ [] ∨ state.recommends .askClarification = true then
      some (requiredContextAction (if missing = [] then ["required_context"] else missing) .goal)
    else if state.recommends .refuse then
      some (incompleteRefusal (requiredContextAction ["inadmissible_intent"] .goal)
        "business_flow_admission_failed")
    else none
  else none

/-- `_compiled_action`. -/
def compiledAction (state : ControlledReActRunState) :
    Orchestration W T S (Option ReActActionProposal) :=
  match intentAction ports state with
  | some action => pure (some action)
  | none => do
    let plan := (← Effect.read).lastExecutionPlan
    if plan.blockedReason = none ∧ plan.effectiveComplexity ≠ some .lite then return none
    else do
      let completion ← taskCompletion rt knowledge ports state
      match plan.blockedReason, completion with
      | some reason, _ => return some (compiledProposal state.planRound (some reason))
      | none, none => return none
      | none, some completion =>
        match completion.pending with
        | requirement :: _ => return some (pendingRetrievalAction
            (compiledProposal state.planRound none) requirement state.planRound)
        | [] => return some (compiledProposal state.planRound none)

/-- The reason that a clarification gives for a field. -/
def clarificationReason (row : FrozenDict) : InteractionReason :=
  match row.get? "kind" with
  | some (.str "preference") => .preference
  | some (.str "retrievable") => .retrievable
  | some (.str "material_ambiguity") => .materialAmbiguity
  | _ => .requiredContext

/-- `assessments.get(name, {})`. -/
def clarificationAssessment (action : ReActActionProposal) (name : String) : FrozenDict :=
  let rows := match action.parameters.get? "clarification_assessments" with
    | some (.arr items) => items.filterMap FrozenDict.ofJson?
    | _ => []
  (rows.reverse.find? fun row => row.get? "field" = some (.str name)).getD .empty

/-- The field still blocks the run. -/
def fieldBlocks (state : ControlledReActRunState) (action : ReActActionProposal) (name : String) :
    Except ReactError Bool := do
  let task := state.workflowTask
  let required := task.any fun t => name ∈ t.goal.requiredContext
  let stage := interactionStage action
  let requirements ← requiredRetrievals rt state.intentResolution
  if stage ≠ .toolInput ∧ required = false ∧ state.toolTaskPlan = none ∧
      action.targetToolName = none ∧ state.recommends .proposeToolCall = false ∧
      requirements ≠ [] ∧ knowledge.irrelevantPurchasePolicyField state.question name = true then
    return false
  else if name ∈ textItems (state.intent.get? "deferred_answer_fields") ∧ required = false ∧
      stage ≠ .toolInput then
    return false
  else match ports.interactionPolicy with
    | none => return true
    | some policy =>
      let row := clarificationAssessment action name
      let reason := if required then .requiredContext else clarificationReason row
      return decideInteraction policy stage reason (truthy (row.get? "default_assumption"))
        ((task.map fun t => t.questions.length).getD 0) ≠ .proceed

/-- `_apply_plan_interaction`. -/
def applyPlanInteraction (state : ControlledReActRunState) (action : ReActActionProposal) :
    Except ReactError ReActActionProposal :=
  if action.actionType ≠ .askClarification then .ok action
  else do
    let supplied := suppliedFields state.workflowTask
    let fields := (clarificationMissingFields action).filter fun name => !supplied.has name
    let blocking ← fields.filterM (fieldBlocks rt knowledge ports state action)
    if blocking ≠ [] then
      return { action with
        parameters := action.parameters.insert "missing_fields" (textsJson blocking) }
    else
      return { action with
        actionType := .generateFinalAnswer
        parameters := .empty
        reasoningSummary := { action.reasoningSummary with selectedAction := .generateFinalAnswer } }

/-- The next step of a tool task, as an action. -/
def toolTaskAction (state : ControlledReActRunState) (action : ReActActionProposal)
    (maxPlanRounds : Nat) (step : ToolTaskStep) (results : TaskResults) :
    Except ReactError ReActActionProposal := do
  let used := state.actionHistory.countP fun a => a.actionType = .proposeToolCall
  if maxPlanRounds ≤ state.planRound ∨ state.maxToolCalls ≤ used then
    return incompleteRefusal action "plan_budget_exhausted"
  else do
    let parameters ← parametersFor step results
    let proposed := pendingToolAction step parameters
    match state.effectiveToolProposalScope with
    | none => return proposed
    | some scope =>
      match scope.toolInterfaces.find? fun i => some i.toolContractId = proposed.targetToolName with
      | none => return incompleteRefusal action "tool_scope_denied"
      | some interface =>
        if interface.readOnly = false ∨ interface.requiresApproval = true then
          return incompleteRefusal action "tool_scope_denied"
        else return { proposed with riskLevel := interface.riskLevel }

/-- What a tool task makes of the proposal; `none` leaves it to the action set. -/
def constrainToTask (state : ControlledReActRunState) (action : ReActActionProposal)
    (maxPlanRounds : Nat) (completion : Option RetrievalTaskCompletion)
    (progress : ToolTaskProgress) : Except ReactError (Option ReActActionProposal) :=
  match completion.filter fun c => !c.complete with
  | some c =>
    match c.pending with
    | requirement :: _ =>
      if state.planRound < maxPlanRounds then
        .ok (some (pendingRetrievalAction action requirement state.planRound))
      else .ok (some (incompleteRefusal action "requirements_unsatisfied"))
    | [] => .ok (some (incompleteRefusal action "requirements_unsatisfied"))
  | none =>
    match progress.pending with
    | some step => (toolTaskAction state action maxPlanRounds step progress.results).map some
    | none =>
      if action.actionType = .proposeToolCall then
        .ok (some (incompleteRefusal action "requirements_unsatisfied"))
      else .ok none

/-- A pending requirement comes before an answer and before other queries. -/
def redirectToPending (state : ControlledReActRunState) (action : ReActActionProposal)
    (eligible : List ReActActionType) (completion : RetrievalTaskCompletion) : ReActActionProposal :=
  match completion.pending with
  | [] => action
  | requirement :: _ =>
    if .planRetrieval ∈ eligible ∧ (action.actionType = .generateFinalAnswer ∨
        action.actionType = .planRetrieval ∧ ∀ item ∈ completion.pending,
          action.parameters.get? "query" ≠ some (.str item.query)) then
      pendingRetrievalAction action requirement state.planRound
    else action

/-- The signals that refuse a run whose retrieval is required. -/
def ConvergenceSignal.refuses : ConvergenceSignal → Bool
  | .planBudgetExhausted | .requirementsUnsatisfied | .unresolvedSubgoals => true
  | _ => false

/-- What the action set makes of the proposal. -/
def constrainToEligible (state : ControlledReActRunState) (action : ReActActionProposal)
    (maxPlanRounds : Nat) (completion : Option RetrievalTaskCompletion) :
    Except ReactError ReActActionProposal :=
  let (eligible, signal) := eligibleActionsForState state maxPlanRounds completion
  let eligible := if state.effectiveReactActionSet = [] then eligible
    else eligible.filter fun t => t ∈ state.effectiveReactActionSet
  if completion.isSome = true ∧ (action.actionType = .refuse ∨ action.actionType = .askClarification)
  then .ok action
  else
    let action := match completion with
      | some c => redirectToPending state action eligible c
      | none => action
    match completion, signal.filter ConvergenceSignal.refuses with
    | some _, some s => .ok (incompleteRefusal action s.value)
    | _, _ => do
      let constrained ← constrainAction action eligible signal
      if shouldBlockDuplicateObservationAction constrained state.actionHistory
          state.observationRecords then
        return { constrained with
          actionType := .refuse
          parameters := .ofFields [("refusal_reason", .str "observation_no_progress")] }
      else return constrained

/-- `_constrain_next_action`. -/
def constrainNextAction (state : ControlledReActRunState) (action : ReActActionProposal)
    (maxPlanRounds : Nat) : Orchestration W T S ReActActionProposal := do
  let completion ← taskCompletion rt knowledge ports state
  if state.toolTaskPlan.isSome = true ∧ action.actionType ≠ .refuse ∧
      action.actionType ≠ .askClarification then do
    let context ← answerEvidenceContext rt ports state
    let progress ← Effect.ofExcept (assessToolTasks rt state context.observationTruth)
    let decided ← Effect.ofExcept (constrainToTask state action maxPlanRounds completion progress)
    match decided with
    | some action => return action
    | none => Effect.ofExcept (constrainToEligible state action maxPlanRounds completion)
  else Effect.ofExcept (constrainToEligible state action maxPlanRounds completion)

/-- The compiled action, or else the planner's. -/
def proposeAction (state : ControlledReActRunState) : Orchestration W T S ReActActionProposal := do
  let compiled ← compiledAction rt knowledge ports state
  match compiled with
  | some action => return action
  | none => callPort (ports.planner state)

/-- `_plan_next_action`. -/
def planNextAction (state : ControlledReActRunState) (maxPlanRounds : Nat) :
    Orchestration W T S (ControlledReActRunState × ReActActionProposal) := do
  let planningState ← preparePlanState rt knowledge ports state maxPlanRounds
  ensureAvailable ports
  let proposed ← proposeAction rt knowledge ports planningState
  let admitted ← Effect.ofExcept (applyPlanInteraction rt knowledge ports planningState proposed)
  let action ← constrainNextAction rt knowledge ports planningState admitted maxPlanRounds
  emitTrace ports "reasoning_summary" "ok"
  return (planningState, action)

end ControlledReActOrchestrator

end ProofAgent
