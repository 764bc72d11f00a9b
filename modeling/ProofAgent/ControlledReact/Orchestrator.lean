import ProofAgent.ControlledReact.Planning

/-! # What the orchestrator does with an action

It observes knowledge and tools and commits what was observed, asks the user,
refuses, writes to the memory, and pauses the run in a snapshot before a tool
that needs an approval. -/
namespace ProofAgent

open Base

/-- `conversation_context.workflow_task`. -/
def ControlledReActStartRequest.workflowTask (r : ControlledReActStartRequest) :
    Option WorkflowTaskSnapshot :=
  r.conversationContext.bind (·.workflowTask)

/-- The request with which a resumed run goes on. -/
def ControlledReActRunState.startRequest (s : ControlledReActRunState) (maxPlanRounds : Nat) :
    ControlledReActStartRequest where
  runId := s.runId
  templateName := s.templateName
  templateDescriptorVersion := s.templateDescriptorVersion
  question := s.question
  institutionAuthorization := s.institutionAuthorization
  maxPlanRounds := maxPlanRounds

/-- `action.target_tool_name or default`. -/
def ReActActionProposal.toolName (action : ReActActionProposal) (default : String) : String :=
  orText action.targetToolName default

/-! ## Results -/

/-- A result that only says how the run ended. -/
def ControlledReActStartRequest.ended (r : ControlledReActStartRequest) (outcome : ReceiptOutcome)
    (message : String) : WorkflowTemplateExecutionResult where
  runId := r.runId
  templateName := r.templateName
  templateDescriptorVersion := r.templateDescriptorVersion
  outcome := outcome
  finalOutput := message
  message := message

/-- A result with the stages and the intent of a state. -/
def ControlledReActStartRequest.endedIn (r : ControlledReActStartRequest)
    (state : ControlledReActRunState) (outcome : ReceiptOutcome) (message : String) :
    WorkflowTemplateExecutionResult :=
  { r.ended outcome message with stages := some state, intentResolution := state.intentResolution }

/-- `_workflow_result_from_answer`. -/
def workflowResultFromAnswer (state : ControlledReActRunState) (answer : AnswerSynthesisResult) :
    WorkflowTemplateExecutionResult where
  runId := state.runId
  templateName := state.templateName
  templateDescriptorVersion := state.templateDescriptorVersion
  outcome := answer.outcome
  finalOutput := answer.finalOutput
  message := answer.message
  evidence := answer.evidence
  stages := some state
  intentResolution := state.intentResolution

/-- An answer that is a message of the control plane. -/
def controlAnswer (outcome : ReceiptOutcome) (message : String) : AnswerSynthesisResult :=
  { outcome, finalOutput := message, message }

/-! ## Denied tools -/

/-- `_denied_tool_names`. -/
def deniedToolNames (state : ControlledReActRunState) : List String :=
  let denied := state.observationRecords.filter fun r => "tool_approval_denied" ∈ r.unresolvedSubgoals
  denied.filterMap fun r =>
    (r.sourceRefs.find? fun ref => "tool://".toList.isPrefixOf ref.toList).map fun ref =>
      String.ofList (ref.toList.drop 7)

/-- `_final_answer_blocked_by_denied_tool`. -/
def finalAnswerBlockedByDeniedTool (state : ControlledReActRunState) : Bool :=
  deniedToolNames state ≠ [] && state.observationRecords.all fun r => r.acceptedEvidenceCount ≤ 0

/-- `_tool_approval_denied_answer`. -/
def toolApprovalDeniedAnswer (state : ControlledReActRunState) : AnswerSynthesisResult :=
  let toolName := (deniedToolNames state).head?.getD "requested"
  controlAnswer .toolApprovalDenied
    ("The " ++ toolName ++ " tool is still required after approval was denied.")

/-! ## Refusals -/

/-- The reason that a refusal gives. -/
def refusalReason (action : ReActActionProposal) : Option String :=
  (action.parameters.get? "refusal_reason").bind Json.asStr

/-- The message of `_refuse_plan_budget_exhausted`. -/
def refusalMessage (reason : Option String) (completion : Option RetrievalTaskCompletion) : String :=
  if reason = some "business_flow_admission_failed" then
    "Unable to continue because the Business Flow Skill Pack route was not admitted."
  else if reason = some "policy_denied" then
    "Unable to continue because policy denied the request."
  else if reason = some "complexity_ceiling_exceeded" then
    "任务需要更高的流程复杂度；当前上限不允许升级。请调整目标或复杂度上限。"
  else if reason = some "unresolved_subgoals" then
    "Unable to finalize because retrieval observations still contain unresolved subgoals."
  else if completion.isSome = true ∧ reason ∉ [some "requirements_unsatisfied",
      some "plan_budget_exhausted", some "observation_no_progress"] then
    "Unable to continue because the planner declined the request."
  else match completion.filter fun c => !c.complete with
    | some c => "Unable to complete the request: " ++ toString c.unmetCount ++
        " required retrieval requirement(s) lack verified evidence." ++
        (if reason = some "plan_budget_exhausted" then " The plan budget was exhausted." else "")
    | none =>
      if reason = some "observation_no_progress" then
        "Unable to answer because no governed evidence met admission requirements."
      else "Unable to continue gathering evidence within the plan budget."

/-! ## Tool proposals -/

/-- `_tool_scope_violation`. -/
def toolScopeViolation (state : ControlledReActRunState) (action : ReActActionProposal) : Bool :=
  state.effectiveToolProposalScope.any fun scope =>
    scope.toolContractIds.all fun id => some id ≠ action.targetToolName

/-- `_parameter_digest`. -/
def parameterDigest (rt : Runtime) (parameters : FrozenDict) : String :=
  "sha256:" ++ rt.sha256 parameters.json.canonical

/-- `_approved_tool_integrity_mismatch`. -/
def approvedToolIntegrityMismatch (rt : Runtime) (state : ControlledReActRunState)
    (action : ReActActionProposal) : Bool :=
  state.approvedToolProposalSnapshot.any fun snapshot =>
    snapshot.actionId ≠ action.actionId || snapshot.toolContractId ≠ action.toolName "" ||
      snapshot.parameterDigest ≠ parameterDigest rt action.parameters

/-- `_approved_tool_snapshot`. -/
def approvedToolSnapshot (state : ControlledReActRunState) (action : ReActActionProposal) :
    Option ApprovedToolProposalSnapshot :=
  state.boundToolProposal.map fun bound =>
    { snapshotId := "approved_" ++ action.actionId
      actionId := action.actionId
      toolContractId := bound.toolContractId
      parameters := bound.parameters
      parameterDigest := bound.parameterDigest
      scopeDigest := bound.scopeDigest
      policyDecision := PolicyDecisionType.requireApproval.value
      riskLevel := action.riskLevel
      approvalReason := "Human approval required before tool execution." }

/-- `_approval_pause_snapshot_id`. -/
def approvalPauseSnapshotId (rt : Runtime) (state : ControlledReActRunState)
    (action : ReActActionProposal) : String :=
  let identity : Json := .obj
    [("schema_version", .str "proofagent.controlled-react.pause-identity.v1"),
      ("plan_round", natJson state.planRound), ("action_id", .str action.actionId)]
  "snap_" ++ toString state.planRound ++ "_" ++ rt.sha256 identity.canonical

/-- `[A-Za-z0-9_-]{1,limit}`. -/
def isActionIdentity (limit : Nat) (value : String) : Bool :=
  1 ≤ value.length && value.length ≤ limit &&
    value.toList.all fun c => c.isAlphanum || c = '_' || c = '-'

/-- The field that asks the user for a tool's parameter. -/
def toolQuestionField (key : String) (parameter : ToolProposalParameter) :
    Except ReactError (Option QuestionField) := do
  let ask (valueType : ValueType) (choices : List String) : Except ReactError (Option QuestionField) :=
    if h : (choices ≠ [] → valueType = .string) ∧ choices.Nodup then
      .ok (some { name := key
                  label := takeText 1024 (orText parameter.description parameter.name)
                  valueType, choices, string_choices := QuestionField.of_string h,
                  unique_choices := QuestionField.of_nodup h })
    else .error (.value "question choices must be unique")
  match parameter.valueType with
  | "string" => ask .string (if parameter.enumValues.length ≤ 20 then parameter.enumValues else [])
  | "integer" => ask .integer []
  | "number" => ask .number []
  | "boolean" => ask .boolean []
  | _ => return none

/-- What `_tool_user_context` has collected. -/
structure ToolUserContext where
  parameters : FrozenDict
  fields : List QuestionField := []

/-- One parameter of the interface: it is proposed, supplied, asked for or left out. -/
def supplyParameter (toolContractId : String) (supplied : FrozenDict) (c : ToolUserContext)
    (parameter : ToolProposalParameter) : Except ReactError ToolUserContext :=
  if parameter.valueSource ≠ .userSupplied ∨ c.parameters.has parameter.name = true then .ok c
  else
    let key := "tool:" ++ toolContractId ++ ":" ++ parameter.name
    match supplied.get? key with
    | some value => .ok { c with parameters := c.parameters.insert parameter.name value }
    | none =>
      if parameter.required then do
        let field ← toolQuestionField key parameter
        return { c with fields := c.fields ++ field.toList }
      else .ok c

/-- `_tool_user_context`. -/
def toolUserContext (state : ControlledReActRunState) (action : ReActActionProposal) :
    Except ReactError (ReActActionProposal × List QuestionField) :=
  match state.effectiveToolProposalScope.bind fun scope =>
      scope.toolInterfaces.find? fun i => some i.toolContractId = action.targetToolName with
  | none => .ok (action, [])
  | some interface => do
    let c ← interface.parameters.foldlM
      (supplyParameter interface.toolContractId (suppliedFields state.workflowTask))
      { parameters := action.parameters }
    return ({ action with parameters := c.parameters }, c.fields)

/-- `_bind_tool_proposal`. -/
def bindToolProposal (rt : Runtime) (state : ControlledReActRunState) (action : ReActActionProposal) :
    Except ReactError (ControlledReActRunState × ReActActionProposal) :=
  match state.effectiveToolProposalScope with
  | none => .ok (state, action)
  | some scope => do
    let bound ← ToolProposalParameterBinder.bind rt state.runId action scope
    return ({ state with boundToolProposal := some bound },
      { action with parameters := bound.parameters })

/-! ## Questions -/

/-- The name is one that a question field may have. -/
def isFieldName (value : String) : Bool :=
  1 ≤ value.length && value.length ≤ 128 &&
    value.toList.all fun c => c.isAlphanum || "-_.:/".toList.contains c

/-- The field that asks for a missing piece of context. -/
def contextField (rt : Runtime) (name : String) : QuestionField where
  name := if isFieldName name then name
    else ControlledReActOrchestrator.hashedFieldName rt name
  label := takeText 1024 name

/-- The stage of a task's question. -/
def InteractionStage.questionStage : InteractionStage → QuestionStage
  | goal => .goal
  | plan => .plan
  | evidence => .evidence
  | toolInput => .tool
  | finalization => .answer

/-- `TaskQuestionDraft(...)`; every required criterion is affected. -/
def questionDraft (task : WorkflowTaskSnapshot) (stage : QuestionStage) (fields : List QuestionField)
    (policy : InteractionPolicy) : Except ReactError TaskQuestionDraft :=
  if h : 1 ≤ fields.length ∧ fields.length ≤ 3 then
    .ok { stage, fields
          affectedCriteria := (task.goal.acceptanceCriteria.filter (·.required)).map (·.criterionId)
          waitTimeoutSeconds := policy.waitTimeoutSeconds
          size := h, timeout := policy.timeout }
  else .error (.value "a question asks for one to three fields")

/-- `any("\u4e00" <= char <= "\u9fff" for char in text)`. -/
def hasChinese (text : String) : Bool :=
  text.toList.any fun c => 0x4e00 ≤ c.toNat && c.toNat ≤ 0x9fff

namespace ControlledReActOrchestrator

open Orchestration

variable {W T S : Type} (rt : Runtime) (knowledge : RunKnowledge) (ports : ControlledReActPorts W T S)

/-! ## Observations -/

/-- The truth store as the committer sees it. -/
def truthStore : ObservationTruthStorePort (Machine W T S) where
  save truth := callTruths (ports.observationTruthStore.save truth)
  load truthRef := callTruths (ports.observationTruthStore.load truthRef)

/-- `_allocate_observation_identity`. -/
def allocateObservationIdentity (state : ControlledReActRunState) (action : ReActActionProposal) :
    ObservationIdentity :=
  ObservationIdentity.allocate state.runId state.planRound action.actionId

/-- `_commit_observation_effect`, its trace projections apart. -/
def commitObservationEffect (state : ControlledReActRunState) (action : ReActActionProposal)
    (effect : ObservationEffect) (identity : ObservationIdentity) :
    Orchestration W T S ControlledReActRunState := do
  let result ← ObservationCommitter.commit rt (truthStore ports) state action effect (some identity)
  if result.state.observationRecords.length ≤ state.observationRecords.length then
    return result.state
  else do
    log (.committed result.state)
    return result.state

/-- The next round, in which an action is observed. -/
def nextRound (state : ControlledReActRunState) (history : List ReActActionProposal) :
    ControlledReActRunState :=
  { state with phase := .observing, planRound := state.planRound + 1, actionHistory := history }

/-- `_observe_knowledge`. -/
def observeKnowledge (state : ControlledReActRunState) (action : ReActActionProposal) :
    Orchestration W T S ControlledReActRunState := do
  let observe ← Effect.ofExcept (orRaise ports.knowledgeObservation
    (.value "knowledge observation port is required for retrieval actions"))
  let observingState := nextRound state (state.actionHistory ++ [action])
  let identity := allocateObservationIdentity observingState action
  log (.knowledgeObserved observingState action)
  let effect ← callPort (observe observingState action identity)
  commitObservationEffect rt ports observingState action effect identity

/-- Call the tool, on the record. -/
def callTool (observe : ObservationPort W) (observingState : ControlledReActRunState)
    (action : ReActActionProposal) (identity : ObservationIdentity) :
    Orchestration W T S ObservationEffect := do
  log (.toolObserved observingState action)
  callPort (observe observingState action identity)

/-- The action serves the pending step. -/
def servesStep (action : ReActActionProposal) (step : ToolTaskStep) (parameters : FrozenDict) : Bool :=
  action.targetToolName = some step.toolName &&
    taskDigest rt action.parameters.json = taskDigest rt parameters.json

/-- Check a task's action against the pending step, before the tool is called. -/
def requireStep (state : ControlledReActRunState) (action : ReActActionProposal)
    (progress : ToolTaskProgress) : Except ReactError Unit :=
  match state.toolTaskPlan with
  | none => .ok ()
  | some _ => do
    let step ← orRaise progress.pending taskError
    require (action.targetToolName = some step.toolName) taskError
    let parameters ← parametersFor step progress.results
    require (servesStep rt action step parameters = true) taskError

/-- Check a task's result, and stamp it with the digests of its input and its plan. -/
def stampEffect (state : ControlledReActRunState) (action : ReActActionProposal)
    (progress : ToolTaskProgress) (effect : ObservationEffect) : Except ReactError ObservationEffect :=
  match state.toolTaskPlan with
  | none => .ok effect
  | some plan => do
    let step ← orRaise progress.pending taskError
    match effect.truthArtifact with
    | .retrieval _ => .error taskError
    | .tool truth => do
      require (truth.redactionMetadata.get? "executed" = some (.bool true)) taskError
      let parameters ← parametersFor step progress.results
      require (servesStep rt action step parameters = true) taskError
      let result ← taskResult truth
      verifyCalculation step parameters result
      let redactionMetadata := (truth.redactionMetadata.insert "task_input_digest"
        (.str (taskDigest rt parameters.json))).insert "task_plan_digest" (.str (plan.digest rt))
      return { effect with truthArtifact := .tool { truth with redactionMetadata } }

/-- `snapshot_store.save(snapshot)`, on the record. -/
def publishSnapshot (store : SnapshotStorePort S) (snapshot : ControlledReActRunStateSnapshot) :
    Orchestration W T S String := do
  log (.snapshotSaved snapshot)
  callSnapshots (store.save snapshot)

/-- Save a snapshot under the reference that it binds to, and read it back. -/
def saveSnapshot (store : SnapshotStorePort S) (snapshot : ControlledReActRunStateSnapshot)
    (mismatch : ReactError) : Orchestration W T S SnapshotArtifactBinding := do
  let expected ← Effect.ofExcept (bindControlledReactSnapshot rt snapshot)
  let reference ← publishSnapshot store snapshot
  Effect.require (reference = expected.reference) mismatch
  let stored ← callSnapshots (store.load reference)
  Effect.ofExcept (verifyControlledReactSnapshotBinding rt stored reference)

/-- The checkpoint that is saved after a step of a tool task. -/
def taskCheckpoint (committed : ControlledReActRunState) : ControlledReActRunStateSnapshot where
  snapshotId := "task_" ++ toString committed.planRound
  runId := committed.runId
  state := { committed with phase := .planning }

/-- Save the checkpoint of a tool task, if there is a store. -/
def saveTaskCheckpoint (committed : ControlledReActRunState) : Orchestration W T S Unit :=
  match committed.toolTaskPlan, ports.snapshotStore with
  | some _, some store => do
    let binding ← saveSnapshot rt store (taskCheckpoint committed) taskError
    Effect.modify fun m => { m with lastTaskCheckpointRef := some binding.reference }
  | _, _ => pure ()

/-- `_observe_tool`. -/
def observeTool (state : ControlledReActRunState) (action : ReActActionProposal) :
    Orchestration W T S ControlledReActRunState := do
  let observe ← Effect.ofExcept (orRaise ports.toolObservation
    (.value "tool observation port is required for allowed tool actions"))
  Effect.require (state.toolRecords.length < state.maxToolCalls) taskError
  let context ← answerEvidenceContext rt ports state
  let progress ← Effect.ofExcept (assessToolTasks rt state context.observationTruth)
  Effect.ofExcept (requireStep rt state action progress)
  let observingState := nextRound state (state.actionHistory ++ [action])
  let identity := allocateObservationIdentity observingState action
  let effect ← callTool observe observingState action identity
  let effect ← Effect.ofExcept (stampEffect rt state action progress effect)
  let committed ← commitObservationEffect rt ports observingState action effect identity
  saveTaskCheckpoint rt ports committed
  return committed

/-- What a denied approval is observed as. -/
def denialEffect (state : ControlledReActRunState) (action : ReActActionProposal)
    (request : ControlledReActResumeRequest) (identity : ObservationIdentity) : ObservationEffect :=
  let toolName := action.toolName "unknown_tool"
  let authorizedResult := FrozenDict.ofFields
    [("approval_state", .str "denied"), ("actor", .str request.actor)]
  { observationRecord :=
      { observationId := identity.observationId
        actionId := action.actionId
        actionType := action.actionType
        round := state.planRound
        truthRef := identity.truthRef
        unresolvedSubgoals := ["tool_approval_denied"]
        sourceRefs := ["tool://" ++ toolName] }
    truthArtifact := .tool
      { truthRef := identity.truthRef
        observationId := identity.observationId
        actionId := action.actionId
        toolName
        authorizedResult
        resultSchemaId := some (toolName ++ ".approval.v1")
        approvalRef := some request.approvalId }
    traceProjection := authorizedResult
    toolSummaryProjection := some authorizedResult }

/-- `_observe_tool_approval_denial`. -/
def observeToolApprovalDenial (state : ControlledReActRunState) (action : ReActActionProposal)
    (request : ControlledReActResumeRequest) : Orchestration W T S ControlledReActRunState :=
  let observingState := nextRound state state.actionHistory
  let identity := allocateObservationIdentity observingState action
  commitObservationEffect rt ports observingState action
    (denialEffect observingState action request identity) identity

/-! ## Ending a run -/

/-- Write to the memory what the answer leaves for it; how that went is shown only. -/
def writeMemory (state : ControlledReActRunState) (answer : AnswerSynthesisResult) :
    Orchestration W T S Unit :=
  match ports.memory with
  | none => pure ()
  | some memory => do
    let m ← Effect.read
    if m.lastExecutionPlan.effectiveComplexity = some .lite then return ()
    else do
      let candidate ← callPort (memory.prepareWrite state answer)
      match candidate with
      | none => return ()
      | some candidate => do
        emitTrace ports "memory_write_requested" "ok"
        let decision ← memoryDecision state candidate
        if decision.any fun d => d ≠ .allow then emitTrace ports "memory_write_decision" "blocked"
        else do
          ensureAvailable ports
          let result ← callPort (memory.commitWrite candidate)
          emitTrace ports "memory_write_decision" (if result.status = .passed then "ok" else "blocked")
where
  /-- `_memory_write_policy_decision`. -/
  memoryDecision (state : ControlledReActRunState) (candidate : MemoryWriteCandidate) :
      Orchestration W T S (Option PolicyDecisionType) :=
    match ports.policy.bind (·.evaluateMemoryWrite) with
    | none => pure none
    | some evaluate => do
      let decision ← callPort (evaluate state candidate)
      emitTrace ports "policy_decision" (if decision = .allow then "ok" else "blocked")
      return some decision

/-- `_refuse_plan_budget_exhausted`. -/
def refusePlanBudgetExhausted (request : ControlledReActStartRequest) (action : ReActActionProposal)
    (state : ControlledReActRunState) : Orchestration W T S WorkflowTemplateExecutionResult := do
  let completion ← taskCompletion rt knowledge ports state
  let message := refusalMessage (refusalReason action) completion
  writeMemory ports state (controlAnswer .refusedNoEvidence message)
  return request.endedIn state .refusedNoEvidence message

/-- Put the missing fields to the task as its question. -/
def askTask (task : Option WorkflowTaskSnapshot) (stage : InteractionStage)
    (missingFields : List String) (structuredFields : Option (List QuestionField))
    (policy : InteractionPolicy) : Orchestration W T S Unit :=
  match task with
  | none => pure ()
  | some task => do
    let fields := match structuredFields with
      | some fields => fields.take policy.maxQuestionsPerRound
      | none => missingFields.map (contextField rt)
    let draft ← Effect.ofExcept (questionDraft task stage.questionStage fields policy)
    Effect.modify fun m => { m with taskQuestion := some draft }

/-- The result that asks the user. -/
def clarificationResult (request : ControlledReActStartRequest) (action : ReActActionProposal)
    (state : ControlledReActRunState) (missingFields : List String) :
    WorkflowTemplateExecutionResult :=
  let firstField := missingFields.head?.getD ""
  let message := if hasChinese state.question then "为继续处理，请先补充：" ++ firstField ++ "。"
    else "To continue, please clarify: " ++ firstField ++ "."
  { request.endedIn state .waitingForUserClarification message with
    clarificationNeed := some
      { actionId := some action.actionId
        missingFields
        message
        reason := if "ambiguous_business_flow" ∈ action.reasoningSummary.riskFlags then
          "ambiguous_business_flow" else "missing_required_context" } }

/-- `_ask_clarification`. -/
def askClarification (request : ControlledReActStartRequest) (action : ReActActionProposal)
    (state : ControlledReActRunState) (structuredFields : Option (List QuestionField)) :
    Orchestration W T S WorkflowTemplateExecutionResult :=
  let missingFields := clarificationMissingFields action
  let stage := interactionStage action
  let task := state.workflowTask
  if ports.interactionPolicy.isSome || task.isSome then do
    let policy := ports.interactionPolicy.getD .initial
    let decision := decideInteraction policy stage .requiredContext false
      ((task.map fun t => t.questions.length).getD 0)
    let missingFields := missingFields.take policy.maxQuestionsPerRound
    emitTrace ports "interaction_decided" (if decision = .ask then "waiting" else "blocked")
    if decision ≠ .ask then
      let message := "缺少完成任务所需的信息，任务已暂停：" ++ "、".intercalate missingFields
      return { request.ended .refusedNoEvidence message with
        intentResolution := state.intentResolution }
    else do
      askTask rt task stage missingFields structuredFields policy
      return clarificationResult request action state missingFields
  else return clarificationResult request action state missingFields

/-- `_review_denies`. -/
def reviewDenies (state : ControlledReActRunState) (action : ReActActionProposal) :
    Orchestration W T S Bool :=
  match ports.review with
  | none => pure false
  | some review => do
    let suggested ← callPort (review state action)
    return suggested = .deny

/-- `_policy_decision`. -/
def policyDecision (state : ControlledReActRunState) (action : ReActActionProposal) :
    Orchestration W T S PolicyDecisionType :=
  match ports.policy with
  | none => pure .requireApproval
  | some policy => do
    let decision ← callPort (policy.evaluate state action)
    log (.policyEvaluated state action decision)
    return decision

/-- The snapshot in which a run waits for an approval. -/
def pauseSnapshot (request : ControlledReActStartRequest) (state : ControlledReActRunState)
    (action : ReActActionProposal) : ControlledReActRunStateSnapshot where
  snapshotId := approvalPauseSnapshotId rt state action
  runId := request.runId
  state := { state with
    phase := .waiting
    actionHistory := state.actionHistory ++ [action]
    approvedToolProposalSnapshot := approvedToolSnapshot state action }

/-- `_pause_for_tool_approval`. -/
def pauseForToolApproval (request : ControlledReActStartRequest) (state : ControlledReActRunState)
    (action : ReActActionProposal) : Orchestration W T S WorkflowTemplateExecutionResult := do
  let store ← Effect.ofExcept (orRaise ports.snapshotStore
    (.value "snapshot store port is required for approval pause"))
  let snapshot := pauseSnapshot rt request state action
  let binding ← saveSnapshot rt store snapshot
    (.value "snapshot store returned a mismatched snapshot_ref")
  Effect.require (binding.payload.canonical = Json.canonical (.obj snapshot.jsonFields))
    (.value "snapshot store loaded a mismatched snapshot payload")
  let toolName := action.toolName "unknown_tool"
  let message := "Waiting for approval before " ++ toolName ++ " can execute."
  return { request.endedIn snapshot.state .waitingForApproval message with
    approvalPause := some
      { approvalId := "appr_" ++ action.actionId
        actionId := action.actionId
        toolName
        policyDecision := .requireApproval
        checkpointRef := binding.reference
        parameters := action.parameters } }

end ControlledReActOrchestrator

end ProofAgent
