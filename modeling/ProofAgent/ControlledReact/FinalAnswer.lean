import ProofAgent.Answers.ModelOutput
import ProofAgent.ControlledReact.RunLoop

/-! # The attempts at a final answer

A model is asked for an answer over the accepted evidence. Its output is validated, an output that
quotes is reviewed by a further call, and one that fails is repaired once. Before each call the
policy decides on it; a call that overflows the model's context is made once more without what was
recalled. Nothing sets the mode in which a repair selects source statements, which is left out. -/
namespace ProofAgent

open Base Answers
open TaskState (Text)

/-! ## Requests -/

/-- What the messages of a request are written from. -/
inductive AnswerPrompt where
  | answer (question : String) (requirements : List AnswerRequirement) (records : List AnswerRecord)
      (allowedRefs : List Text) (conversation : Option ContextAdmission)
      (memory : List MemoryRecallWorkingPayload) (intent stage : Option FrozenDict)
  | review (question : String) (requirements : List AnswerRequirement) (output : FinalAnswerOutput)
      (records : List AnswerRecord) (task : Option WorkflowTaskSnapshot) (intent : Option FrozenDict)
  | repair (question : String) (requirements : List AnswerRequirement) (records : List AnswerRecord)
      (allowedRefs : List Text) (previousContent : String) (previousFinishReason : Option String)
      (errorCode : String) (violationCodes : List String) (violationCount : Nat)
      (conversation : Option ContextAdmission) (intent stage : Option FrozenDict)

structure RequestMetadata where
  question : String
  conversationContextAdmitted : Bool
  memoryRecallAdmitted : Bool
  role : String := "final_answer"
  repairAttempt : Option Nat := none
  contextCompression : Option String := none
  contextConvergenceLevel : Option String := none
  contextOverflowRecovery : Bool := false
  answerGroundingReview : Bool := false

structure ModelRequest where
  provider : String
  model : String
  prompt : AnswerPrompt
  temperature : Option Int := none
  maxOutputTokens : Option Nat := none
  stream : Bool := false
  responseFormat : String := "json"
  functionSchema : String := "submit_final_answer"
  metadata : RequestMetadata
  evidenceSources : List String

structure ModelResponse where
  content : String
  providerName : String
  modelName : String
  finishReason : Option String := none

/-- An exception of a provider: its `code`, if it has one, and its text. -/
structure ModelFault where
  code : Option String := none
  text : String

def ModelFault.raised (fault : ModelFault) : ReactError := .port fault.text

/-- `_model_call_policy_context`. -/
structure ModelCallContext where
  provider : String
  model : String
  role : String
  estimatedTokens : Option Nat
  stream : Bool
  costClass : String
  messageCount : Nat
  responseFormat : String

/-- `cost_class`. -/
def costClass (provider : String) : String :=
  if provider = "deterministic" then "local"
  else if provider = "azure_openai" then "enterprise"
  else "remote"

/-- What the manifest says of the context. -/
structure ContextConfig where
  budgetProfile : Option String := none
  dynamicCalibration : Bool := true

/-! ## Ports -/

/-- What an attempt calls. -/
structure AnswerModelPorts (W : Type) where
  providerName : String
  modelName : String
  context : Option ContextConfig := none
  stage : Option FrozenDict := none
  /-- `refresh_workflow_stage_context` for the evidence of an answer. -/
  refreshStage : ControlledReActRunState → List EvidenceChunk → Option FrozenDict
  /-- `sum(len(message.content) for message in request.messages)`. -/
  promptLength : AnswerPrompt → Nat
  evaluate : ModelCallContext → String → Effect W ReactError PolicyDecisionType
  estimateTokens : ModelRequest → Effect W ReactError (Option Nat)
  generate : ModelRequest → Effect W ModelFault ModelResponse
  /-- An event's type and status. -/
  emit : String → String → Effect W ReactError Unit
  recordCalibration : (failedTokens recoveredTokens : Nat) → Effect W ReactError Unit
  cancellationCheck : Effect W ReactError Unit

/-- What an attempt did that others can see. -/
inductive AttemptEvent where
  | decided (request : ModelRequest) (decision : PolicyDecisionType)
  | answered (request : ModelRequest) (response : ModelResponse)
  | failed (request : ModelRequest) (fault : ModelFault)

/-- The state of the ports, and the history of what was asked of them. -/
structure AttemptMachine (W : Type) where
  world : W
  journal : List AttemptEvent

abbrev Attempt (W : Type) : Type → Type := Effect (AttemptMachine W) ReactError

/-! ## Attempts -/

inductive FinalAnswerAttemptStatus where
  | admitted | policyDenied | schemaFailed | safetyFailed | citationBindingFailed
  | finalAnswerAdequacyFailed | answerFactsFailed | validationFailed | modelError
  deriving DecidableEq

def FinalAnswerAttemptStatus.value : FinalAnswerAttemptStatus → String
  | admitted => "admitted"
  | policyDenied => "policy_denied"
  | schemaFailed => "schema_failed"
  | safetyFailed => "safety_failed"
  | citationBindingFailed => "citation_binding_failed"
  | finalAnswerAdequacyFailed => "final_answer_adequacy_failed"
  | answerFactsFailed => "answer_facts_failed"
  | validationFailed => "validation_failed"
  | modelError => "model_error"

structure PreparedFinalAnswerAttempt where
  request : ModelRequest
  estimatedTokens : Option Nat
  evidence : List EvidenceChunk

structure GeneratedFinalAnswerAttempt where
  prepared : PreparedFinalAnswerAttempt
  response : ModelResponse

/-- `WorkflowStageFailureDiagnostic` of a failed validation. -/
structure FailureDiagnostic where
  errorCode : String
  rawContentLength : Nat
  violationCodes : List String
  violationCount : Nat

structure NormalizedFinalAnswerAttempt where
  generated : GeneratedFinalAnswerAttempt
  validationResults : List AnswerCheck
  status : FinalAnswerAttemptStatus
  diagnostic : Option FailureDiagnostic := none
  message : Option String := none
  priorGeneratedAttempts : List GeneratedFinalAnswerAttempt := []
  priorDiagnostics : List FailureDiagnostic := []
  groundingReview : Option AnswerCheck := none
  reviewGeneratedAttempts : List GeneratedFinalAnswerAttempt := []

/-- An `AnswerSynthesisResult` with its interactions and diagnostics. -/
structure AttemptResult extends AnswerSynthesisResult where
  interactions : List GeneratedFinalAnswerAttempt := []
  diagnostics : List FailureDiagnostic := []

/-- What the attempts take from elsewhere. -/
structure AttemptLibrary extends OutputLibrary where
  /-- `json.dumps(value, ensure_ascii=False, sort_keys=True)`. -/
  dumpsSorted : Json → Text

/-- What the validators of an answer raise. -/
def answerError : QuotedAnswerError → ReactError
  | .evidence .integrityCheckFailed => .proofAgent "PA_KNOWLEDGE_002" "" ""
  | .question .tooLong => .proofAgent "PA_RUNTIME_001" "" ""

namespace FinalAnswerAttemptRunner

variable {W : Type} (lib : AttemptLibrary) (ports : AnswerModelPorts W)

/-! ## Calls -/

def callPort {α : Type} (x : Effect W ReactError α) : Attempt W α :=
  Effect.focus (·.world) (fun m world => { m with world }) x

def log (event : AttemptEvent) : Attempt W Unit :=
  Effect.modify fun m => { m with journal := m.journal ++ [event] }

def emit (eventType status : String) : Attempt W Unit := callPort (ports.emit eventType status)

/-- Call the provider; its exception is a value here. -/
def callProvider (request : ModelRequest) : Attempt W (Except ModelFault ModelResponse) := fun m =>
  match ports.generate request m.world with
  | (.ok response, world) =>
    (.ok (.ok response), { world, journal := m.journal ++ [.answered request response] })
  | (.error fault, world) =>
    (.ok (.error fault), { world, journal := m.journal ++ [.failed request fault] })

def policyContext (prepared : PreparedFinalAnswerAttempt) : ModelCallContext where
  provider := prepared.request.provider
  model := prepared.request.model
  role := prepared.request.metadata.role
  estimatedTokens := prepared.estimatedTokens
  stream := prepared.request.stream
  costClass := costClass prepared.request.provider
  messageCount := 2
  responseFormat := prepared.request.responseFormat

/-- The result of a call that the policy does not allow. -/
def policyDenied (prepared : PreparedFinalAnswerAttempt) : AttemptResult where
  outcome := .policyDenied
  finalOutput := "The final-answer model call was blocked by policy."
  message := "The final-answer model call was blocked by policy."
  evidence := prepared.evidence

/-- `_is_context_limit_error`. -/
def isContextLimitError (fault : ModelFault) : Bool :=
  fault.code.any (["PA_MODEL_CONTEXT_LIMIT", "context_length_exceeded"].contains ·) ||
    ["context length", "context window", "maximum context", "too many tokens", "token limit",
      "context limit"].any fun marker => hasPart marker (lib.lower fault.text.toList)

/-- `_context_overflow_recovery_allowed`. -/
def contextOverflowRecoveryAllowed (request : ModelRequest) (fault : ModelFault) : Bool :=
  !request.metadata.answerGroundingReview && !request.metadata.contextOverflowRecovery &&
    ports.context.all (fun c => c.budgetProfile.isNone && c.dynamicCalibration) &&
    isContextLimitError lib fault

/-! ## Requests of an attempt -/

section
variable (state : ControlledReActRunState)

/-- `build_model_request`. -/
def buildModelRequest (evidence : List EvidenceChunk) (provider model : String)
    (memory : List MemoryRecallWorkingPayload) (intent stage : Option FrozenDict) :
    Except QuotedAnswerError ModelRequest := do
  let evidence := acceptedEvidence evidence
  let records ← (answerEvidenceRecords lib.toAnswerLibrary evidence).mapError .evidence
  let requirements ← (answerRequirements lib.sha256 state.question.toList).mapError .question
  return {
    provider, model
    prompt := .answer state.question requirements records (allowedCitationRefs evidence)
      state.conversationContext memory intent stage
    metadata :=
      { question := state.question
        conversationContextAdmitted := state.conversationContext.any (·.admitted)
        memoryRecallAdmitted := !memory.isEmpty }
    evidenceSources := evidence.map (·.source) }

/-- `prepare`. -/
def prepare (evidence : List EvidenceChunk) : Attempt W PreparedFinalAnswerAttempt := do
  let evidence ← Effect.ofExcept <|
    (uniqueAnswerEvidence lib.toAnswerLibrary (acceptedEvidence evidence)).mapError
      fun e => answerError (.evidence e)
  let request ← Effect.ofExcept <| (buildModelRequest lib state evidence ports.providerName
    ports.modelName state.memoryRecallPayloads state.intentResolution ports.stage).mapError answerError
  let estimatedTokens ← callPort (ports.estimateTokens request)
  return { request, estimatedTokens, evidence }

/-- The request of `_prepare_context_overflow_retry`. -/
def overflowRetryRequest (prepared : PreparedFinalAnswerAttempt) :
    Except QuotedAnswerError ModelRequest := do
  let retry ← buildModelRequest lib state prepared.evidence prepared.request.provider
    prepared.request.model [] none ports.stage
  return { retry with
    temperature := prepared.request.temperature
    maxOutputTokens := prepared.request.maxOutputTokens
    stream := prepared.request.stream
    metadata := { prepared.request.metadata with
      conversationContextAdmitted := state.conversationContext.any (·.admitted)
      memoryRecallAdmitted := false
      contextCompression := some "optional_memory_recall_omitted"
      contextConvergenceLevel := some "deep_compression"
      contextOverflowRecovery := true } }

/-- `_prepare_context_overflow_retry`. -/
def prepareContextOverflowRetry (prepared : PreparedFinalAnswerAttempt) :
    Attempt W PreparedFinalAnswerAttempt := do
  let request ← Effect.ofExcept ((overflowRetryRequest lib ports state prepared).mapError answerError)
  let estimatedTokens ← callPort (ports.estimateTokens request)
  return { request, estimatedTokens, evidence := prepared.evidence }

/-- `_estimated_tokens`. -/
def estimatedTokens (prepared : PreparedFinalAnswerAttempt) : Nat :=
  prepared.estimatedTokens.getD (ports.promptLength prepared.request.prompt)

/-- The decision of the policy on a call. -/
def decideCall (action : ReActActionProposal) (prepared : PreparedFinalAnswerAttempt) :
    Attempt W PolicyDecisionType := do
  let decision ← callPort (ports.evaluate (policyContext prepared)
    (state.runId ++ ":" ++ action.actionId ++ ":before_model_call"))
  log (.decided prepared.request decision)
  emit ports "policy_decision" (if decision = .allow then "ok" else "blocked")
  return decision

/-- Prepare the call that is made after an overflow, and record what it saves. -/
def recoverOverflow (prepared : PreparedFinalAnswerAttempt) :
    Attempt W PreparedFinalAnswerAttempt := do
  emit ports "model_error" "error"
  let retry ← prepareContextOverflowRetry lib ports state prepared
  callPort (ports.recordCalibration (estimatedTokens ports prepared) (estimatedTokens ports retry))
  emit ports "context_budget_calibration_update" "ok"
  return retry

/-- One call of the model, if the policy allows it. -/
def callModel (action : ReActActionProposal) (prepared : PreparedFinalAnswerAttempt)
    (handler : ModelFault → Attempt W (AttemptResult ⊕ GeneratedFinalAnswerAttempt)) :
    Attempt W (AttemptResult ⊕ GeneratedFinalAnswerAttempt) := do
  let decision ← decideCall ports state action prepared
  if decision ≠ .allow then return .inl (policyDenied prepared)
  else do
    emit ports "model_request" "ok"
    let called ← callProvider ports prepared.request
    match called with
    | .ok response => do
      emit ports "model_response" "ok"
      return .inr { prepared, response }
    | .error fault => handler fault

/-- Raise the exception of a call. -/
def raiseFault (fault : ModelFault) : Attempt W (AttemptResult ⊕ GeneratedFinalAnswerAttempt) := do
  emit ports "model_error" "error"
  Effect.raise fault.raised

/-- `generate`, with so many recoveries from an overflow. -/
def generateWithin (action : ReActActionProposal) : Nat → PreparedFinalAnswerAttempt →
    Attempt W (AttemptResult ⊕ GeneratedFinalAnswerAttempt)
  | 0, prepared => callModel ports state action prepared (raiseFault ports)
  | recoveries + 1, prepared => callModel ports state action prepared fun fault =>
    if contextOverflowRecoveryAllowed lib ports prepared.request fault then do
      let retry ← recoverOverflow lib ports state prepared
      generateWithin action recoveries retry
    else raiseFault ports fault

/-- `generate`. A retry is not retried. -/
def generate (action : ReActActionProposal) (prepared : PreparedFinalAnswerAttempt) :
    Attempt W (AttemptResult ⊕ GeneratedFinalAnswerAttempt) :=
  generateWithin lib ports state action 1 prepared

/-! ## Validation -/

/-- `_attempt_status`, by the order of `_primary_error_code`. -/
def attemptStatus (failed : List AnswerCheck) : FinalAnswerAttemptStatus :=
  let names := failed.map (·.validator)
  if .schema ∈ names then .schemaFailed
  else if .safety ∈ names then .safetyFailed
  else if .citations ∈ names then .citationBindingFailed
  else if .finalAnswerAdequacy ∈ names then .finalAnswerAdequacyFailed
  else if .answerFacts ∈ names then .answerFactsFailed
  else .validationFailed

/-- `_primary_error_code`. -/
def primaryErrorCode (failed : List AnswerCheck) : String :=
  match attemptStatus failed with
  | .validationFailed => "final_answer_validation_failed"
  | status => status.value

def failedChecks (results : List AnswerCheck) : List AnswerCheck :=
  results.filter fun r => r.status = .failed

/-- `final_answer_validation_failure_diagnostic`. -/
def failureDiagnostic (response : ModelResponse) (results : List AnswerCheck) :
    Attempt W FailureDiagnostic := do
  let failed := failedChecks results
  emit ports "final_answer_validation_failed" "blocked"
  return {
    errorCode := primaryErrorCode failed
    rawContentLength := response.content.length
    violationCodes := uniqueBy id (failed.flatMap (·.violationCodes))
    violationCount := (failed.map fun r => r.violationCodes.length).sum }

/-- The output of a response; a response without one has none that quotes. -/
def outputOf (response : ModelResponse) : Option FinalAnswerOutput :=
  (structuredFinalAnswerOutput lib.toOutputLibrary response.content.toList).toOption

/-- `normalize`. -/
def normalize (generated : GeneratedFinalAnswerAttempt) :
    Attempt W NormalizedFinalAnswerAttempt := do
  let response := generated.response
  let results ← Effect.ofExcept <|
    (validateModelOutput lib.toOutputLibrary response.content.toList response.finishReason
      .answeredWithCitations generated.prepared.evidence state.question.toList).mapError answerError
  if failedChecks results ≠ [] then do
    let diagnostic ← failureDiagnostic ports response results
    return {
      generated
      validationResults := results
      status := attemptStatus (failedChecks results)
      diagnostic := some diagnostic }
  else
    return {
      generated
      validationResults := results
      status := .admitted
      message := some (((outputOf lib response).map (·.message)).getD response.content) }

/-! ## The review of a quoted answer -/

/-- `CHECKS`. -/
def reviewChecks : List String := ["claims_supported", "conditions_preserved", "requirements_addressed"]

/-- `validate_grounding_review`. -/
def validateGroundingReview (response : ModelResponse) : AnswerCheck :=
  let result := if response.content.length ≤ 4000 then lib.loads response.content.toList else none
  let values := (result.filter (hasKeys reviewChecks)).bind fun json =>
    reviewChecks.mapM fun key => json.readField Json.asBool key
  let errors := match values with
    | some values => ((reviewChecks.zip values).filter fun p => !p.2).map fun p =>
        "grounding_" ++ p.1 ++ "_failed"
    | none => ["grounding_review_invalid"]
  .of .answerFacts errors.isEmpty errors

/-- `grounding_review_request`. -/
def groundingReviewRequest (original : ModelRequest) (output : FinalAnswerOutput)
    (evidence : List EvidenceChunk) : Except QuotedAnswerError ModelRequest := do
  let requirements ← (answerRequirements lib.sha256 state.question.toList).mapError .question
  let records ← (answerEvidenceRecords lib.toAnswerLibrary evidence).mapError .evidence
  return { original with
    prompt := .review state.question requirements output records state.workflowTask
      state.intentResolution
    functionSchema := "review_grounded_answer"
    maxOutputTokens := some 256
    temperature := some 0
    stream := false
    metadata := { original.metadata with
      role := "harness_review", answerGroundingReview := true } }

/-- `_stage_llm_interactions`. -/
def stageLlmInteractions (normalized : NormalizedFinalAnswerAttempt) :
    List GeneratedFinalAnswerAttempt :=
  let order (a : GeneratedFinalAnswerAttempt) : Nat :=
    2 * a.prepared.request.metadata.repairAttempt.getD 0 +
      if a.prepared.request.metadata.answerGroundingReview then 1 else 0
  (normalized.priorGeneratedAttempts ++ normalized.generated ::
    normalized.reviewGeneratedAttempts).insertionSort fun a b => order a ≤ order b

/-- An attempt after its review. -/
def reviewed (normalized : NormalizedFinalAnswerAttempt) (review : GeneratedFinalAnswerAttempt) :
    Attempt W NormalizedFinalAnswerAttempt := do
  let result := validateGroundingReview lib review.response
  let results := normalized.validationResults ++ [result]
  let normalized := { normalized with
    validationResults := results
    groundingReview := some result
    reviewGeneratedAttempts := normalized.reviewGeneratedAttempts ++ [review] }
  if result.status = .failed then do
    let diagnostic ← failureDiagnostic ports normalized.generated.response results
    return { normalized with status := .answerFactsFailed, diagnostic := some diagnostic }
  else return { normalized with diagnostic := none }

/-- `review_grounding`. -/
def reviewGrounding (action : ReActActionProposal) (normalized : NormalizedFinalAnswerAttempt) :
    Attempt W (AttemptResult ⊕ NormalizedFinalAnswerAttempt) :=
  if normalized.status ≠ .admitted then pure (.inr normalized)
  else
    match (outputOf lib normalized.generated.response).filter fun o => o.analysis.isSome with
    | none => pure (.inr normalized)
    | some output => do
      let prepared := normalized.generated.prepared
      let request ← Effect.ofExcept <|
        (groundingReviewRequest lib state prepared.request output prepared.evidence).mapError
          answerError
      let estimatedTokens ← callPort (ports.estimateTokens request)
      let review ← generate lib ports state action
        { request, estimatedTokens, evidence := prepared.evidence }
      match review with
      | .inl denied => return .inl { denied with interactions := stageLlmInteractions normalized }
      | .inr review => do
        let normalized ← reviewed lib ports normalized review
        return .inr normalized

/-! ## The repair -/

/-- `_repair_eligible`. -/
def repairEligible (normalized : NormalizedFinalAnswerAttempt) : Bool :=
  let evidence := normalized.generated.prepared.evidence
  if normalized.validationResults.any fun r => r.validator = .safety && r.status = .failed then false
  else if 1 ≤ normalized.priorGeneratedAttempts.length then false
  else if evidence = [] then false
  else match normalized.status with
    | .schemaFailed => true
    | .citationBindingFailed => allowedCitationRefs evidence ≠ []
    | .finalAnswerAdequacyFailed | .answerFactsFailed => true
    | _ => false

/-- `_final_answer_repair_request`. -/
def finalAnswerRepairRequest (normalized : NormalizedFinalAnswerAttempt) :
    Except QuotedAnswerError ModelRequest := do
  let { prepared, response } := normalized.generated
  let requirements ← (answerRequirements lib.sha256 state.question.toList).mapError .question
  let records ← (answerEvidenceRecords lib.toAnswerLibrary prepared.evidence).mapError .evidence
  return {
    provider := prepared.request.provider
    model := prepared.request.model
    prompt := .repair state.question requirements records (allowedCitationRefs prepared.evidence)
      response.content response.finishReason normalized.status.value
      ((normalized.diagnostic.map (·.violationCodes)).getD [])
      ((normalized.diagnostic.map (·.violationCount)).getD 0)
      state.conversationContext state.intentResolution ports.stage
    functionSchema := prepared.request.functionSchema
    maxOutputTokens := prepared.request.maxOutputTokens
    stream := prepared.request.stream
    metadata := { prepared.request.metadata with
      role := "final_answer", repairAttempt := some 1 }
    evidenceSources := prepared.request.evidenceSources }

/-- A repaired attempt with the history of the one before. -/
def withHistory (normalized repaired : NormalizedFinalAnswerAttempt) :
    NormalizedFinalAnswerAttempt :=
  { repaired with
    reviewGeneratedAttempts := normalized.reviewGeneratedAttempts ++ repaired.reviewGeneratedAttempts
    priorDiagnostics := normalized.priorDiagnostics ++ normalized.diagnostic.toList
    priorGeneratedAttempts := normalized.priorGeneratedAttempts ++ [normalized.generated] }

/-- `repair`. -/
def repair (action : ReActActionProposal) (normalized : NormalizedFinalAnswerAttempt) :
    Attempt W (AttemptResult ⊕ NormalizedFinalAnswerAttempt) :=
  if !repairEligible normalized then pure (.inr normalized)
  else do
    let request ← Effect.ofExcept
      ((finalAnswerRepairRequest lib ports state normalized).mapError answerError)
    let estimatedTokens ← callPort (ports.estimateTokens request)
    let generated ← generate lib ports state action
      { request, estimatedTokens, evidence := normalized.generated.prepared.evidence }
    match generated with
    | .inl denied => return .inl { denied with interactions := stageLlmInteractions normalized }
    | .inr generated => do
      let repaired ← normalize lib ports state generated
      let repaired ← reviewGrounding lib ports state action repaired
      match repaired with
      | .inl denied => return .inl { denied with
          interactions := stageLlmInteractions normalized ++ denied.interactions }
      | .inr repaired => return .inr (withHistory normalized repaired)

/-! ## The result -/

/-- `answer_binding`. -/
def answerBinding (message : String) (evidence : List EvidenceChunk) : List (String × Json) :=
  let records := (((acceptedEvidence evidence).map fun e => lib.dumpsSorted <|
    .arr [.str (e.citation.getD ""), .str e.content, .str "accepted",
      (e.details.get? "structured_data").getD .null]).dedup).mergeSort fun a b => decide (a ≤ b)
  [("message_sha256", .str (lib.sha256 message)),
    ("evidence_sha256", .str (lib.sha256 (.ofList (lib.dumpsSorted
      (.arr (records.map fun r => .str (.ofList r)))))))]

/-- An attempt without the review that its quotes need is a failed one. -/
def requireReview (normalized : NormalizedFinalAnswerAttempt) :
    Attempt W NormalizedFinalAnswerAttempt :=
  let quoted := (outputOf lib normalized.generated.response).any fun o => o.analysis.isSome
  let passed := normalized.groundingReview.any fun r => r.status = .passed
  if quoted && normalized.diagnostic.isNone && !passed then do
    let diagnostic ← failureDiagnostic ports normalized.generated.response
      [.of .answerFacts false ["grounding_review_missing"]]
    return { normalized with diagnostic := some diagnostic, status := .answerFactsFailed }
  else pure normalized

/-- What the user is shown of a failed attempt. -/
def failureMessage (diagnostic : FailureDiagnostic) : String :=
  let cjk := state.question.toList.any isCjk
  if "model_output_truncated" ∈ diagnostic.violationCodes then
    if cjk then "回答生成失败：达到输出 Token 上限，压缩重试后仍未完整输出。请提高输出预留或缩小问题范围。"
    else "Answer truncated at the output token limit after compact retry. Increase the output allowance or narrow the question."
  else if cjk then "回答生成失败：模型输出未通过校验。请查看运行诊断。"
  else "Answer generation failed: model output did not pass validation. See run diagnostics."

/-- The result of a failed attempt. -/
def failedResult (normalized : NormalizedFinalAnswerAttempt) (diagnostic : FailureDiagnostic) :
    AttemptResult where
  outcome := .failedWithTrace
  finalOutput := failureMessage state diagnostic
  message := failureMessage state diagnostic
  evidence := normalized.generated.prepared.evidence
  interactions := stageLlmInteractions normalized
  diagnostics := diagnostic :: normalized.priorDiagnostics

/-- The answer of an output that quotes. -/
def quotedAnswer (evidence : List EvidenceChunk) (answer : QuotedOutput) : AnswerSynthesisResult :=
  let message := String.ofList (renderQuotedAnswer answer.message answer.quotes)
  let checked := Json.int answer.quotes.length
  { outcome := .answeredWithCitations
    finalOutput := message
    message
    factValidation := some
      { status := .passed
        metadata := .ofFields (answerBinding lib message evidence ++
          [("verification_kind", .str "quote_binding_and_model_review"),
            ("checked_statement_count", checked), ("unassessed_statement_count", checked)]) }
    answerRequirementReport := answer.coverage.map fun row => .ofFields
      [("requirement_id", .str row.requirementId), ("status", .str "unassessed"),
        ("disposition", .str row.status), ("verification_kind", .str "model_assessed")]
    recoveryRequirementIds :=
      (answer.coverage.filter fun row => row.status = "needs_evidence").map (·.requirementId)
    evidence }

/-- The result of a literal answer. -/
def literalResult (normalized : NormalizedFinalAnswerAttempt) : AttemptResult :=
  let message := (normalized.message.filter (· ≠ "")).getD normalized.generated.response.content
  { outcome := .answeredWithCitations
    finalOutput := message
    message
    evidence := normalized.generated.prepared.evidence
    interactions := stageLlmInteractions normalized }

/-- `admit`. -/
def admitAttempt (normalized : NormalizedFinalAnswerAttempt) : Attempt W AttemptResult := do
  let normalized ← requireReview lib ports normalized
  match normalized.diagnostic with
  | some diagnostic => return failedResult state normalized diagnostic
  | none =>
    match (outputOf lib normalized.generated.response).filter fun o => o.analysis.isSome with
    | none => return literalResult normalized
    | some output => do
      let answer ← Effect.ofExcept (orRaise (readQuotedOutput output.toJson) (.key "claim"))
      return { quotedAnswer lib normalized.generated.prepared.evidence answer with
        interactions := stageLlmInteractions normalized }

/-- `run`. -/
def run (action : ReActActionProposal) (evidence : List EvidenceChunk) : Attempt W AttemptResult := do
  let prepared ← prepare lib ports state evidence
  let generated ← generate lib ports state action prepared
  match generated with
  | .inl result => return result
  | .inr generated => do
    let normalized ← normalize lib ports state generated
    let normalized ← reviewGrounding lib ports state action normalized
    match normalized with
    | .inl result => return result
    | .inr normalized => do
      let repaired ← repair lib ports state action normalized
      match repaired with
      | .inl result => return result
      | .inr repaired => admitAttempt lib ports state repaired

end

/-! ## The adapter -/

/-- `_string_value`. -/
def stringValue : Option Json → Option String
  | some (.str s) => if TaskState.strip s.toList ≠ [] then some s else none
  | _ => none

/-- `_tool_answer_from_answer_context`. -/
def toolAnswer (context : AnswerEvidenceContext) : Option String :=
  context.observationTruth.reverse.findSome? fun
    | .retrieval _ => none
    | .tool truth =>
      if stringValue (truth.authorizedResult.get? "approval_state") = some "denied" then none
      else match stringValue (truth.authorizedResult.get? "status") with
        | some status => some (truth.toolName ++ " returned status " ++ status ++ ".")
        | none => some (truth.toolName ++ " returned an authorized result.")

/-- The answer that no accepted evidence leaves: that of the last tool, or a refusal. -/
def answerWithoutEvidence (context : AnswerEvidenceContext) : AnswerSynthesisResult :=
  match toolAnswer context with
  | some text => controlAnswer .answeredWithCitations text
  | none => controlAnswer .refusedNoEvidence "Unable to answer without accepted governed evidence."

/-- `_ModelAnswerSynthesisAdapter.synthesize`. -/
def synthesize (state : ControlledReActRunState) (action : ReActActionProposal)
    (context : AnswerEvidenceContext) : Attempt W AnswerSynthesisResult := do
  callPort ports.cancellationCheck
  let evidence ← Effect.ofExcept <|
    (uniqueAnswerEvidence lib.toAnswerLibrary context.boundEvidence).mapError
      fun e => answerError (.evidence e)
  if evidence = [] then return answerWithoutEvidence context
  else do
    let result ← run lib { ports with stage := ports.refreshStage state evidence } state action evidence
    callPort ports.cancellationCheck
    return result.toAnswerSynthesisResult

end FinalAnswerAttemptRunner

end ProofAgent
