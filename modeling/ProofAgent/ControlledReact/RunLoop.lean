import ProofAgent.ControlledReact.Orchestrator

/-! # Starting and resuming a run

The loop serves one action after another until one of them ends the run. It has
no bound of its own, so it runs on fuel and returns nothing when that is used up. -/
namespace ProofAgent

open Base

/-- `{key: None if either is None else max(0, total[key] - before[key])}`. -/
def usageDelta (subFloat : PyFloat → PyFloat → Option PyFloat) (total : LedgerUsage)
    (before : TaskBudgetUsage) : Except ReactError TaskBudgetUsage := do
  let seconds ← orRaise (total.activeSeconds.bind fun t => subFloat t before.activeSeconds)
    (.value "active_seconds must be finite")
  let activeSeconds := if seconds.nonneg then seconds else .zero
  if h : activeSeconds.nonneg = true then
    return {
      modelCalls := (total.modelCalls - before.modelCalls).toNat
      retrievalCalls := (total.retrievalCalls - before.retrievalCalls).toNat
      toolCalls := (total.toolCalls - before.toolCalls).toNat
      tokens := do return ((← total.tokens) - (← before.tokens)).toNat
      unknownModelCalls := (total.unknownModelCalls - before.unknownModelCalls).toNat
      activeSeconds, nonneg_seconds := h }
  else .error (.value "active_seconds must not be negative")

/-- `task.budget_usage.model_dump()`. -/
def TaskBudgetUsage.ledgerUsage (usage : TaskBudgetUsage) : LedgerUsage where
  modelCalls := usage.modelCalls
  retrievalCalls := usage.retrievalCalls
  toolCalls := usage.toolCalls
  tokens := usage.tokens.map Int.ofNat
  activeSeconds := some usage.activeSeconds
  unknownModelCalls := usage.unknownModelCalls

/-- The evidence that the stored truths accepted. -/
def AnswerEvidenceContext.boundEvidence (c : AnswerEvidenceContext) : List EvidenceChunk :=
  c.observationTruth.flatMap fun
    | .retrieval truth => truth.acceptedEvidence
    | .tool _ => []

/-- The criteria that a goal requires and the assessments do not satisfy. -/
def unsatisfiedCriteria (task : WorkflowTaskSnapshot) (assessments : List CriterionAssessment) :
    List AcceptanceCriterion :=
  task.goal.acceptanceCriteria.filter fun c => c.required &&
    !assessments.any fun a => a.status = .satisfied && a.criterionId = c.criterionId

/-- The query by which a reviewed gap in the evidence is filled, if a round is left. -/
def evidenceGap (knowledge : RunKnowledge) (state : ControlledReActRunState) (maxPlanRounds : Nat)
    (answer : AnswerSynthesisResult) : Option RequiredRetrieval :=
  let requirements := (knowledge.answerRequirements state.question).reverse
  let validIds := answer.recoveryRequirementIds.filter fun id => requirements.any fun r => r.1 = id
  let attempted := (state.actionHistory.filter fun a => a.actionType = .planRetrieval).filterMap
    fun a => (a.parameters.get? "query").bind Json.asStr
  let queries := validIds.filterMap fun id => (requirements.lookup id).map fun sourceText =>
    { requirementId := id
      query := takeText 1024 state.question ++ " 补充原文依据：" ++ takeText 512 sourceText }
  let pending := queries.filter fun r : RequiredRetrieval => r.query ∉ attempted
  if validIds.length = answer.recoveryRequirementIds.length ∧ state.planRound < maxPlanRounds ∧
      state.toolTaskPlan = none then pending.head?
  else none

/-- The answer names gaps that a further retrieval might fill. -/
def AnswerSynthesisResult.hasGaps (answer : AnswerSynthesisResult) : Bool :=
  answer.recoveryRequirementIds ≠ [] &&
    (answer.outcome = .failedWithTrace || answer.outcome = .answeredWithCitations)

/-- What an answer with gaps becomes when none of them is filled any more. -/
def AnswerSynthesisResult.withoutGaps (answer : AnswerSynthesisResult) : AnswerSynthesisResult :=
  if answer.hasGaps then
    let message := if answer.outcome = .answeredWithCitations then answer.message
      else "部分问题仍缺少可验证依据，已停止重复补查；本次任务未完成。"
    { answer with recoveryRequirementIds := [], message, finalOutput := message }
  else answer

namespace ControlledReActOrchestrator

open Orchestration

variable {W T S : Type} (rt : Runtime) (knowledge : RunKnowledge) (ports : ControlledReActPorts W T S)

/-! ## The final answer -/

/-- `evaluate_assurance`, on the day that the clock shows. -/
def assuranceViolations (policy : AssurancePolicy) (evidence : List EvidenceChunk)
    (message : Option String) (factValidation : Option ValidationResult) :
    Orchestration W T S (List String) := do
  let today ← callPort ports.today
  Effect.ofExcept (knowledge.evaluateAssurance policy today evidence message factValidation)

/-- The refusal of an answer whose sources do not meet the assurance policy. -/
def refuseUnassured (context : AnswerEvidenceContext) :
    Orchestration W T S (Option AnswerSynthesisResult) :=
  match ports.assurancePolicy with
  | none => pure none
  | some policy => do
    let violations ← assuranceViolations knowledge ports policy context.boundEvidence none none
    if violations = [] then return none
    else do
      emitTrace ports "assurance_evaluated" "blocked"
      return some (controlAnswer .refusedNoEvidence
        ("已检索的证据未达到配置的可信度要求：" ++ ", ".intercalate violations))

/-- The report of a finished tool task, or else the synthesized answer. -/
def synthesizeAnswer (state : ControlledReActRunState) (action : ReActActionProposal)
    (context : AnswerEvidenceContext) :
    Orchestration W T S (Option ToolTaskReport × AnswerSynthesisResult) :=
  if state.toolTaskPlan.isSome then do
    let report ← Effect.ofExcept (buildToolTaskReport rt state context.observationTruth)
    let reportText := knowledge.canonicalText (.obj report.jsonFields)
    return (some report, controlAnswer .answeredWithCitations reportText)
  else do
    let refused ← refuseUnassured knowledge ports context
    match refused with
    | some answer => return (none, answer)
    | none => do
      let answer ← callPort (ports.answerSynthesis state action context)
      return (none, answer)

/-- The refusal of an answer that does not meet the assurance policy. -/
def refuseUnassuredAnswer (state : ControlledReActRunState) (context : AnswerEvidenceContext)
    (progress : ToolTaskProgress) (answer : AnswerSynthesisResult) :
    Orchestration W T S (Option AnswerSynthesisResult) :=
  let evidence := context.boundEvidence
  let verifiedToolReport := state.toolTaskPlan.isSome && progress.pending = none &&
    progress.results ≠ []
  match ports.assurancePolicy.filter fun policy => !verifiedToolReport || evidence ≠ [] ||
      requiresExternalSources policy with
  | none => pure none
  | some policy => do
    let violations ← assuranceViolations knowledge ports policy evidence (some answer.message)
      answer.factValidation
    emitTrace ports "assurance_evaluated" (if violations = [] then "ok" else "blocked")
    if violations = [] then return none
    else
      let message := "答案未达到配置的可信度要求：" ++ ", ".intercalate violations
      return some { controlAnswer .refusedNoEvidence message with evidence }

/-- Assess the task's goal; the refusal of an answer that a strict policy finds lacking. -/
def refuseUnverifiedGoal (state : ControlledReActRunState) (context : AnswerEvidenceContext)
    (progress : ToolTaskProgress) (answer : AnswerSynthesisResult) :
    Orchestration W T S (Option AnswerSynthesisResult) :=
  match state.workflowTask with
  | none => pure none
  | some task => do
    let completion ← taskCompletion rt knowledge ports state
    let assessments := assessGoal rt knowledge.toGoalKnowledge task
      { completion, evidence := context.boundEvidence, message := answer.message
        outcome := answer.outcome
        toolProofs := progress.results.map fun p => (p.1, [p.2.truthRef]) }
    Effect.modify fun m => { m with goalAssessments := assessments }
    if ports.assurancePolicy.any (·.strict) && unsatisfiedCriteria task assessments ≠ [] then
      return some { controlAnswer .refusedNoEvidence "必要验收条件尚未获得验证，无法完成任务。" with
        evidence := context.boundEvidence }
    else return none

/-- The answer, if the policy allows it. -/
def answerInPolicy (state : ControlledReActRunState) (action : ReActActionProposal)
    (context : AnswerEvidenceContext) (answer : AnswerSynthesisResult) :
    Orchestration W T S AnswerSynthesisResult :=
  match ports.policy.bind (·.evaluateAnswer) with
  | none => pure answer
  | some evaluate => do
    let decision ← callPort (evaluate state action context answer)
    if decision = .allow then return answer
    else
      return { controlAnswer .policyDenied "The final answer was blocked by policy." with
        evidence := answer.evidence }

/-- `_admit_final_answer`. -/
def admitFinalAnswer (state : ControlledReActRunState) (action : ReActActionProposal)
    (context : AnswerEvidenceContext) (answer : AnswerSynthesisResult) :
    Orchestration W T S AnswerSynthesisResult :=
  if answer.outcome ≠ .answeredWithCitations then pure answer
  else do
    let report := if answer.answerRequirementReport ≠ [] then answer.answerRequirementReport
      else knowledge.requirementReport state.question answer.message context.boundEvidence
    let answer := { answer with answerRequirementReport := report }
    let progress ← Effect.ofExcept (assessToolTasks rt state context.observationTruth)
    ensureAvailable ports
    let unassured ← refuseUnassuredAnswer knowledge ports state context progress answer
    match unassured with
    | some refusal => return refusal
    | none => do
      let unverified ← refuseUnverifiedGoal rt knowledge ports state context progress answer
      match unverified with
      | some refusal => return refusal
      | none => answerInPolicy ports state action context answer

/-! ## One action of the loop -/

/-- The state and the action that the loop goes on with, or the result that ends it. -/
abbrev LoopStep : Type :=
  (ControlledReActRunState × ReActActionProposal) ⊕ WorkflowTemplateExecutionResult

/-- Plan the next action from an observed state. -/
def goOn (state : ControlledReActRunState) (maxPlanRounds : Nat) : Orchestration W T S LoopStep := do
  let next ← planNextAction rt knowledge ports state maxPlanRounds
  return .inl next

/-- A result whose stages show the completion. -/
def withTaskCompletion (state : ControlledReActRunState) (result : WorkflowTemplateExecutionResult) :
    Orchestration W T S LoopStep := do
  let _ ← taskCompletion rt knowledge ports state
  return .inr result

/-- Admit the answer and end the run with it. -/
def endWithAnswer (state : ControlledReActRunState) (action : ReActActionProposal)
    (context : AnswerEvidenceContext) (report : Option ToolTaskReport)
    (answer : AnswerSynthesisResult) : Orchestration W T S LoopStep := do
  let admitted ← admitFinalAnswer rt knowledge ports state action context answer
  writeMemory ports state admitted
  return .inr { workflowResultFromAnswer state admitted with
    toolTaskReport := if admitted.outcome = .answeredWithCitations then report else none }

/-- The branch of `GENERATE_FINAL_ANSWER`. -/
def finalAnswerStep (request : ControlledReActStartRequest) (state : ControlledReActRunState)
    (action : ReActActionProposal) (maxPlanRounds : Nat) : Orchestration W T S LoopStep :=
  if finalAnswerBlockedByDeniedTool state then
    return .inr (workflowResultFromAnswer state (toolApprovalDeniedAnswer state))
  else do
    let context ← answerEvidenceContext rt ports state
    let progress ← Effect.ofExcept (assessToolTasks rt state context.observationTruth)
    Effect.require (progress.pending = none) taskError
    let completion ← Effect.ofExcept (completionWith rt knowledge state context)
    if completion.any fun c => !c.complete then do
      let result ← refusePlanBudgetExhausted rt knowledge ports request
        (incompleteRefusal action "requirements_unsatisfied") state
      return .inr result
    else do
      let (report, answer) ← synthesizeAnswer rt knowledge ports state action context
      match (if answer.hasGaps then evidenceGap knowledge state maxPlanRounds answer else none) with
      | some requirement => do
        emitTrace ports "workflow_stage_result" "ok"
        -- The gap is retrieved as any other query is, in a round of its own.
        return .inl (state, pendingRetrievalAction action requirement state.planRound)
      | none => endWithAnswer rt knowledge ports state action context report answer.withoutGaps

/-- The branch of `PLAN_RETRIEVAL`. -/
def retrievalStep (request : ControlledReActStartRequest) (state : ControlledReActRunState)
    (action : ReActActionProposal) (maxPlanRounds : Nat) : Orchestration W T S LoopStep := do
  let denied ← reviewDenies ports state action
  if denied then
    withTaskCompletion rt knowledge ports state
      (request.endedIn state .refusedNoEvidence
        "The retrieval action was not run because review denied it.")
  else do
    let observed ← observeKnowledge rt ports state action
    goOn rt knowledge ports observed maxPlanRounds

/-- A tool proposal that the user's context completes. -/
def dispatchTool (request : ControlledReActStartRequest) (state : ControlledReActRunState)
    (action : ReActActionProposal) (maxPlanRounds : Nat) : Orchestration W T S LoopStep := do
  let (state, action) ← Effect.ofExcept (bindToolProposal rt state action)
  let decision ← policyDecision ports state action
  match decision with
  | .deny =>
    withTaskCompletion rt knowledge ports state
      (request.endedIn state .toolApprovalDenied
        ("The " ++ action.toolName "unknown_tool" ++ " tool was not run because policy denied it."))
  | .allow => do
    let observed ← observeTool rt ports state action
    goOn rt knowledge ports observed maxPlanRounds
  | _ => do
    let result ← pauseForToolApproval rt ports request state action
    return .inr result

/-- The branch of `PROPOSE_TOOL_CALL`. -/
def toolStep (request : ControlledReActStartRequest) (state : ControlledReActRunState)
    (action : ReActActionProposal) (maxPlanRounds : Nat) : Orchestration W T S LoopStep :=
  if toolScopeViolation state action then
    withTaskCompletion rt knowledge ports state
      (request.endedIn state .refusedNoEvidence
        ("The " ++ action.toolName "unknown_tool" ++ " tool was not run because it is outside " ++
          "the effective tool proposal scope."))
  else if ports.interactionPolicy.isSome || state.workflowTask.isSome then do
    let (action, fields) ← Effect.ofExcept (toolUserContext state action)
    if fields ≠ [] then do
      let result ← askClarification rt ports request
        (requiredContextAction (fields.map (·.name)) .toolInput) state (some fields)
      return .inr result
    else dispatchTool rt knowledge ports request state action maxPlanRounds
  else dispatchTool rt knowledge ports request state action maxPlanRounds

/-- The body of the loop. -/
def loopStep (request : ControlledReActStartRequest) (maxPlanRounds : Nat)
    (current : ControlledReActRunState × ReActActionProposal) : Orchestration W T S LoopStep :=
  let (state, action) := current
  match action.actionType with
  | .refuse => do
    let result ← refusePlanBudgetExhausted rt knowledge ports request action state
    return .inr result
  | .askClarification => do
    let result ← askClarification rt ports request action state none
    withTaskCompletion rt knowledge ports state result
  | .generateFinalAnswer => finalAnswerStep rt knowledge ports request state action maxPlanRounds
  | .planRetrieval => retrievalStep rt knowledge ports request state action maxPlanRounds
  | .proposeToolCall => toolStep rt knowledge ports request state action maxPlanRounds
  | _ => Effect.raise (.value ("unsupported start action: " ++ action.actionType.value))

/-- `_run_loop`. -/
def runLoop (fuel : Nat) (request : ControlledReActStartRequest) (maxPlanRounds : Nat)
    (current : ControlledReActRunState × ReActActionProposal) :
    Orchestration W T S (Option WorkflowTemplateExecutionResult) :=
  Effect.loop (loopStep rt knowledge ports request maxPlanRounds) fuel current

/-- Plan the first action of a state, and loop. -/
def planAndRun (fuel : Nat) (request : ControlledReActStartRequest) (state : ControlledReActRunState)
    (maxPlanRounds : Nat) : Orchestration W T S (Option WorkflowTemplateExecutionResult) := do
  let current ← planNextAction rt knowledge ports state maxPlanRounds
  runLoop rt knowledge ports fuel request maxPlanRounds current

/-! ## Start -/

/-- The state that a request starts in. -/
def startState (request : ControlledReActStartRequest) : Except ReactError ControlledReActRunState :=
  let roundLimit := if request.toolTaskPlan.isSome then request.maxPlanRounds else 4
  if h : request.maxToolCalls ≤ 8 ∧ roundLimit ≤ 64 then
    .ok
      { runId := request.runId
        templateName := request.templateName
        templateDescriptorVersion := request.templateDescriptorVersion
        question := request.question
        executionConfigurationDigest := ports.executionConfigurationDigest
        toolTaskPlan := request.toolTaskPlan
        maxToolCalls := request.maxToolCalls
        taskPlanRoundLimit := roundLimit
        institutionAuthorization := request.institutionAuthorization
        conversationContext := request.conversationContext
        memoryRecallPayloads := request.memoryRecallPayloads
        phase := .planning
        tool_calls := h.1
        round_limit := h.2 }
  else .error (.value "a run state's limits are out of range")

/-- The question that a task must answer before it can run. -/
def missingContext (task : WorkflowTaskSnapshot) : List String :=
  task.goal.requiredContext.filter fun name => !(answeredFields task).has name

/-- The question that unclear constraints of the conversation make necessary. -/
def taskStateClarification : ReActActionProposal where
  actionId := "act_task_state_clarification"
  actionType := .askClarification
  riskLevel := "low"
  parameters := .ofFields [("missing_fields", textsJson ["the current task constraints"])]
  reasoningSummary :=
    { goal := "Resolve the current task constraints."
      observations := []
      candidateActions := [.askClarification]
      selectedAction := .askClarification
      rationaleSummary := "Conflicting or incomplete user constraints need clarification."
      riskFlags := []
      requiredEvidence := [] }

/-- What must be asked before anything is planned. -/
def openingQuestion (state : ControlledReActRunState) : Except ReactError (Option ReActActionProposal) := do
  let missing := (state.workflowTask.map missingContext).getD []
  require (state.workflowTask.all fun task => task.phase = .active)
    (runtimeError "Task is not active." "Resume the Task through its authority.")
  if missing ≠ [] then return some (requiredContextAction missing .goal)
  else if (state.conversationContext.bind (·.taskState)).any fun s => s.unresolved ≠ [] then
    return some taskStateClarification
  else return none

/-- The restored state is one of this request, and waits for its next plan. -/
def restoredMatches (restored state : ControlledReActRunState) : Bool :=
  restored.runId = state.runId && restored.question = state.question &&
    restored.templateName = state.templateName &&
    restored.templateDescriptorVersion = state.templateDescriptorVersion &&
    restored.institutionAuthorization = state.institutionAuthorization &&
    restored.executionConfigurationDigest = state.executionConfigurationDigest &&
    restored.conversationContext = state.conversationContext &&
    restored.memoryRecallPayloads = state.memoryRecallPayloads &&
    restored.toolTaskPlan = state.toolTaskPlan && restored.maxToolCalls = state.maxToolCalls &&
    restored.taskPlanRoundLimit = state.taskPlanRoundLimit && restored.phase = .planning

/-- `snapshot_store.load(reference)`, on the record. -/
def fetchSnapshot (store : SnapshotStorePort S) (reference : String) :
    Orchestration W T S ControlledReActRunStateSnapshot := do
  let snapshot ← callSnapshots (store.load reference)
  log (.snapshotLoaded snapshot)
  return snapshot

/-- Load a snapshot and verify its binding. -/
def loadSnapshot (store : SnapshotStorePort S) (reference : String) :
    Orchestration W T S ControlledReActRunStateSnapshot := do
  let snapshot ← fetchSnapshot store reference
  let _ ← Effect.ofExcept (verifyControlledReactSnapshotBinding rt snapshot reference)
  return snapshot

/-- Go on from a task's checkpoint. -/
def restoreCheckpoint (state : ControlledReActRunState) (reference : String) :
    Orchestration W T S ControlledReActRunState := do
  let store ← Effect.ofExcept (orRaise ports.snapshotStore taskError)
  Effect.require (state.toolTaskPlan.isSome = true) taskError
  let snapshot ← loadSnapshot rt store reference
  let restored := snapshot.state
  Effect.require (restoredMatches restored state = true) taskError
  let _ ← taskCompletion rt knowledge ports restored
  let context ← answerEvidenceContext rt ports restored
  let _ ← Effect.ofExcept (assessToolTasks rt restored context.observationTruth)
  Effect.modify fun m => { m with lastTaskCheckpointRef := some reference }
  resolveExecutionPlan rt ports restored
  return restored

/-- The message of `_intent_contract_failure`. -/
def intentContractFailure (request : ControlledReActStartRequest) : WorkflowTemplateExecutionResult :=
  request.ended .failedWithTrace
    (if hasChinese request.question then
      "意图解析失败：模型输出在一次修复后仍未通过结构校验。请查看运行诊断。"
    else "Intent resolution failed validation after one repair. See run diagnostics.")

/-- The state in which the loop begins, or the result of a request that does not
get there. -/
def enterLoop (request : ControlledReActStartRequest) :
    Orchestration W T S (ControlledReActRunState ⊕ WorkflowTemplateExecutionResult) := do
  let state ← Effect.ofExcept (startState ports request)
  let question ← Effect.ofExcept (openingQuestion state)
  match question, request.taskCheckpointRef with
  | some action, _ => do
    let result ← askClarification rt ports request action state none
    return .inr result
  | none, some reference => do
    let restored ← restoreCheckpoint rt knowledge ports state reference
    return .inl restored
  | none, none =>
    Effect.attempt
      (do
        let prepared ← preparePreLoopState rt ports state
        return .inl prepared)
      fun e =>
        if e = .normalization "intent_resolution" then do
          emitTrace ports "model_output_normalization_failed" "blocked"
          return .inr (intentContractFailure request)
        else Effect.raise e

/-- `_start`. -/
def startRun (fuel : Nat) (request : ControlledReActStartRequest) :
    Orchestration W T S (Option WorkflowTemplateExecutionResult) := do
  let entered ← enterLoop rt knowledge ports request
  match entered with
  | .inr result => return some result
  | .inl state => planAndRun rt knowledge ports fuel request state request.maxPlanRounds

/-- `_start` within the budget. -/
def startInBudget (fuel : Nat) (request : ControlledReActStartRequest) :
    Orchestration W T S (Option WorkflowTemplateExecutionResult) :=
  Effect.attempt
    (do
      ensureAvailable ports
      let result ← startRun rt knowledge ports fuel request
      ensureAvailable ports
      return result)
    fun
      | .budgetExceeded reason => do
        Effect.modify fun m => { m with taskQuestion := none, goalAssessments := [] }
        emitTrace ports "workflow_budget_exhausted" "blocked"
        return some (request.ended .refusedNoEvidence ("任务已达到配置的执行预算：" ++ reason))
      | e => Effect.raise e

/-- The names that an answered run leaves for its task to ask. -/
def deferredFields (result : WorkflowTemplateExecutionResult) : List String :=
  textItems ((result.intentResolution.getD .empty).get? "deferred_answer_fields")

/-- Ask for what an answered run deferred. -/
def deferQuestion (task : WorkflowTaskSnapshot) (result : WorkflowTemplateExecutionResult) :
    Orchestration W T S Unit :=
  let policy := ports.interactionPolicy.getD .initial
  let deferred := deferredFields result
  if deferred ≠ [] ∧ result.outcome = .answeredWithCitations ∧
      task.questions.length < policy.maxRounds then do
    let fields := (deferred.take policy.maxQuestionsPerRound).map fun name =>
      { name := hashedFieldName rt name, label := takeText 1024 name : QuestionField }
    let draft ← Effect.ofExcept (questionDraft task .answer fields policy)
    Effect.modify fun m => { m with taskQuestion := some draft }
  else pure ()

/-- What the run used of its task's budget. -/
def usedBudget (task : WorkflowTaskSnapshot) : Orchestration W T S TaskBudgetUsage :=
  match ports.budgetLedger with
  | none => pure {}
  | some ledger => do
    let total ← callPort ledger.snapshot
    Effect.ofExcept (usageDelta ports.subFloat total task.budgetUsage)

/-- The phase that a run leaves its task in. -/
def taskPhase (question : Option TaskQuestionDraft) (complete : Bool) : TaskPhase :=
  if question.isSome then .waitingForInput else if complete then .complete else .paused

theorem taskPhase_ne_cancelled (question : Option TaskQuestionDraft) (complete : Bool) :
    taskPhase question complete ≠ .cancelled := by
  unfold taskPhase
  split
  · simp
  · split <;> simp

/-- The update that a run proposes to its task. -/
def taskUpdate (task : WorkflowTaskSnapshot) (result : WorkflowTemplateExecutionResult) :
    Orchestration W T S WorkflowTaskUpdate := do
  deferQuestion rt ports task result
  let m ← Effect.read
  let assessments := if m.goalAssessments ≠ [] then m.goalAssessments
    else assessGoal rt knowledge.toGoalKnowledge task
      { completion := none, evidence := [], message := "", outcome := result.outcome }
  let complete := deferredFields result = [] && result.outcome = .answeredWithCitations &&
    unsatisfiedCriteria task assessments = []
  let usage ← usedBudget ports task
  return { taskId := task.goal.taskId
           expectedVersion := task.version
           goalRevision := task.goal.revision
           assessments
           verifiedProofRefs := (assessments.flatMap (·.proofRefs)).eraseDups
           question := m.taskQuestion
           usageDelta := usage
           phase := taskPhase m.taskQuestion complete
           not_cancelled := taskPhase_ne_cancelled _ _ }

/-- Add the compiled plan and the task's update to a result. -/
def finishStart (request : ControlledReActStartRequest) (result : WorkflowTemplateExecutionResult) :
    Orchestration W T S WorkflowTemplateExecutionResult := do
  let m ← Effect.read
  let planned := if hasPolicies ports then { result with executionPlan := some m.lastExecutionPlan }
    else result
  match request.workflowTask with
  | none => return planned
  | some task => do
    let update ← taskUpdate rt knowledge ports task planned
    return { planned with workflowTaskUpdate := some update }

/-- `start`. -/
def start (fuel : Nat) (request : ControlledReActStartRequest) :
    Orchestration W T S (Option WorkflowTemplateExecutionResult) := do
  whenPort ports.budgetLedger fun ledger => callPort (ledger.restoreUsage
    ((request.workflowTask.map fun task => task.budgetUsage.ledgerUsage).getD {}))
  let result ← startInBudget rt knowledge ports fuel request
  match result with
  | none => return none
  | some result => do
    let result ← finishStart rt knowledge ports request result
    return some result

/-! ## Resume -/

def resumeIdentityError (what : String) : ReactError :=
  runtimeError ("controlled ReAct resume " ++ what)
    "Discard the stale approval checkpoint and restart the run."

/-- The action that a snapshot waits for, if the request may resume it. -/
def pendingApproval (request : ControlledReActResumeRequest) (state : ControlledReActRunState) :
    Except ReactError ReActActionProposal := do
  require (request.expectedRunId.all fun id => state.runId = id)
    (resumeIdentityError "run identity does not match signed context")
  require (state.institutionAuthorization = request.institutionAuthorization)
    (resumeIdentityError "institution authorization does not match snapshot")
  let action ← orRaise state.actionHistory.getLast?
    (.value "approval resume snapshot is missing pending action")
  require (isActionIdentity 128 action.actionId = true)
    (resumeIdentityError "action identity is invalid")
  require (isActionIdentity 133 request.approvalId = true ∧
      request.approvalId = "appr_" ++ action.actionId)
    (resumeIdentityError "approval identity does not match pending action")
  return action

/-- `_deny_approved_tool_integrity_mismatch`. -/
def denyApprovedToolIntegrityMismatch (state : ControlledReActRunState) (maxPlanRounds : Nat) :
    WorkflowTemplateExecutionResult :=
  (state.startRequest maxPlanRounds).endedIn state .refusedNoEvidence
    "The approved tool proposal no longer matches the pending execution request."

/-- Call the approved tool and commit what it returns. -/
def observeApprovedTool (observe : ObservationPort W) (state : ControlledReActRunState)
    (action : ReActActionProposal) : Orchestration W T S ControlledReActRunState := do
  let observingState := nextRound state state.actionHistory
  let identity := allocateObservationIdentity observingState action
  let effect ← callTool observe observingState action identity
  commitObservationEffect rt ports observingState action effect identity

/-- Go on from an observed approval. -/
def resumeLoop (fuel : Nat) (state : ControlledReActRunState) (maxPlanRounds : Nat) :
    Orchestration W T S (Option WorkflowTemplateExecutionResult) :=
  planAndRun rt knowledge ports fuel (state.startRequest maxPlanRounds) state maxPlanRounds

/-- What a decision makes of a pending approval. -/
def decideApproval (fuel : Nat) (request : ControlledReActResumeRequest)
    (state : ControlledReActRunState) (action : ReActActionProposal) :
    Orchestration W T S (Option WorkflowTemplateExecutionResult) :=
  if request.approved then do
    let observe ← Effect.ofExcept (orRaise ports.toolObservation
      (.value "tool observation port is required for approval resume"))
    if approvedToolIntegrityMismatch rt state action then
      return some (denyApprovedToolIntegrityMismatch state request.maxPlanRounds)
    else do
      let observed ← observeApprovedTool rt ports observe state action
      resumeLoop rt knowledge ports fuel observed request.maxPlanRounds
  else do
    let observed ← observeToolApprovalDenial rt ports state action request
    resumeLoop rt knowledge ports fuel observed request.maxPlanRounds

/-- `resume`. -/
def resume (fuel : Nat) (request : ControlledReActResumeRequest) :
    Orchestration W T S (Option WorkflowTemplateExecutionResult) := do
  let store ← Effect.ofExcept (orRaise ports.snapshotStore
    (.value "snapshot store port is required for approval resume"))
  let snapshot ← loadSnapshot rt store request.snapshotRef
  let action ← Effect.ofExcept (pendingApproval request snapshot.state)
  -- The original requirement proofs are checked before anything is observed.
  let _ ← taskCompletion rt knowledge ports snapshot.state
  log (.approvalDecided request snapshot.state)
  decideApproval rt knowledge ports fuel request snapshot.state action

end ControlledReActOrchestrator

end ProofAgent
