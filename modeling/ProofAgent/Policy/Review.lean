import ProofAgent.Policy.Engine
import ProofAgent.Base.Effect

/-! # Reviews

A reviewer may suggest a decision. A suggestion that is well formed for the enforcement
point is compared with what the rules decide, and the stricter of the two is taken. What
takes the place of a suggestion that is not, or that never came, is not compared. -/
namespace ProofAgent.Policy

open Base

/-- `ALLOWED_REVIEW_DECISIONS`. -/
def allowedReviewDecisionsFor : EnforcementPoint → List PolicyDecisionType
  | .beforeRetrievalPlan | .beforeRetrievalStep | .beforeModelCall => [.allow, .deny, .escalate]
  | .beforeToolCall => [.allow, .deny, .requireApproval, .escalate]
  | .beforeRetrieval | .beforeAnswer | .beforeMemoryWrite => []

/-- `_STRICTNESS`. -/
def strictness : PolicyDecisionType → Nat
  | .allow => 0
  | .requireApproval => 1
  | .escalate => 2
  | .deny => 3

def isStricterThan (candidate baseline : PolicyDecisionType) : Bool :=
  strictness baseline < strictness candidate

structure ReviewDecision where
  reviewId : String
  enforcementPoint : EnforcementPoint
  suggestedDecision : PolicyDecisionType
  confidence : PyFloat
  subjectActionId : String

/-! ## Failing closed -/

/-- The fallback that a context declares, if it is a decision. -/
def reviewFallback (context : PyDict) : Option (Except PyError PolicyDecisionType) :=
  match context.lookup "review_fallback_decision" with
  | none | some .none => none
  | some fallback => some (decisionType fallback)

/-- `fail_closed_decision_type`. -/
def failClosedDecisionType (point : EnforcementPoint) (context : PyDict) : PolicyDecisionType :=
  match point with
  | .beforeToolCall => .requireApproval
  | .beforeRetrievalPlan | .beforeRetrievalStep =>
    match reviewFallback context with
    | some (.ok fallback) =>
      if fallback ∈ allowedReviewDecisionsFor point then fallback else .deny
    | some (.error _) | none => .deny
  | .beforeModelCall | .beforeRetrieval | .beforeAnswer | .beforeMemoryWrite => .deny

/-- `fail_closed_policy_decision`. -/
def failClosedPolicyDecision (point : EnforcementPoint) (context : PyDict) (traceEventId : String) :
    PolicyDecision where
  decision := failClosedDecisionType point context
  enforcementPoint := point
  reason := "Review output was invalid; failed closed with " ++
    (failClosedDecisionType point context).value ++ "."
  policyRuleId := "auto_review." ++ point.value ++ ".fail_closed"
  metadata := context
  traceEventId

/-- `review_event_metadata`. -/
def reviewEventMetadata (review : ReviewDecision) (final : PolicyDecision) (overridden : Bool)
    (errorCode : Option String) : PyDict :=
  [("used_review", .bool true), ("final_decision", .str final.decision.value),
    ("overridden", .bool overridden), ("review_id", .str review.reviewId),
    ("review_enforcement_point", .str review.enforcementPoint.value),
    ("suggested_decision", .str review.suggestedDecision.value),
    ("subject_action_id", .str review.subjectActionId),
    ("review_confidence", .float review.confidence)] ++
  (errorCode.map fun code => ("error_code", PyValue.str code)).toList

/-- `evaluate_with_review`. -/
def PolicyEngine.evaluateWithReview (policy : PolicyEngine) (point : EnforcementPoint)
    (context : PyDict) (review : Option ReviewDecision) (traceEventId : String) :
    Except PyError (PolicyDecision × PyDict) := do
  let deterministic ← policy.evaluate point context traceEventId
  match review with
  | none => return (deterministic, [("used_review", .bool false)])
  | some review =>
    let failed := failClosedPolicyDecision point context traceEventId
    if review.enforcementPoint ≠ point then
      return (failed, reviewEventMetadata review failed false "review_enforcement_point_mismatch")
    else if review.suggestedDecision ∉ allowedReviewDecisionsFor point then
      return (failed, reviewEventMetadata review failed false "invalid_review_decision")
    else if isStricterThan deterministic.decision review.suggestedDecision = true then
      return (deterministic, reviewEventMetadata review deterministic true none)
    else if isStricterThan review.suggestedDecision deterministic.decision = true then
      let final : PolicyDecision := {
        decision := review.suggestedDecision
        enforcementPoint := point
        reason := "Auto review suggested a stricter decision at " ++ point.value ++ "."
        policyRuleId := "auto_review." ++ point.value
        metadata := context
        traceEventId }
      return (final, reviewEventMetadata review final false none)
    else return (deterministic, reviewEventMetadata review deterministic false none)

/-! ## Reviewing an action -/

/-- What a reviewer raises. -/
inductive ReviewFailure where
  /-- `ModelOutputNormalizationError`. -/
  | normalization (role errorCode : String) (rawContentLength : Nat)
  | other (errorClass : String)

/-- A review subagent; what it is shown is the context of the review. -/
abbrev ReviewSubagent :=
  EnforcementPoint → ReActActionProposal → PyDict → Except ReviewFailure ReviewDecision

structure TraceEvent where
  eventType : String
  status : String
  payload : PyDict

abbrev Traced (α : Type) := Effect (List TraceEvent) PyError α

def emit (eventType status : String) (payload : PyDict) : Traced Unit :=
  .modify fun events => events ++ [⟨eventType, status, payload⟩]

/-- `emit_policy_decision`. -/
def emitPolicyDecision (decision : PolicyDecision) : Traced Unit :=
  emit "policy_decision" (if decision.decision = .allow then "ok" else "blocked")
    [("decision", .str decision.decision.value),
      ("enforcement_point", .str decision.enforcementPoint.value),
      ("policy_rule_id", .str decision.policyRuleId), ("reason", .str decision.reason)]

/-- What the configuration of reviews and the caller of one give. -/
structure ReviewOptions where
  autoReviewEnabled : Bool
  reviewSubagent : Option ReviewSubagent
  lowRiskFastPathEnabled : Bool := true
  traceEventId : String := ""
  workflowStageContext : PyDict := []

/-- `_positive_int`. -/
def positiveInt (value : Option PyValue) : Int :=
  match (value.getD .none).toInt with
  | .ok n => max 0 n
  | .error _ => 0

/-- `_low_risk_fast_path_reason`. -/
def lowRiskFastPathReason (options : ReviewOptions) (point : EnforcementPoint) (context : PyDict)
    (proposal : ReActActionProposal) : Option String :=
  if options.lowRiskFastPathEnabled = false ∨ options.autoReviewEnabled = false ∨
      options.reviewSubagent.isNone = true ∨ proposal.riskLevel ≠ "low" then none
  else match point, proposal.actionType with
    | .beforeRetrievalPlan, .planRetrieval => some "low_risk_policy_allow"
    | .beforeRetrievalStep, .runRetrievalStep => some "low_risk_policy_allow"
    | .beforeModelCall, .generateFinalAnswer =>
      if 0 < positiveInt (context.lookup "accepted_evidence_count") ∧
          ((context.lookup "citations_present").getD .none).truthy = true then
        some "low_risk_policy_allow"
      else none
    | _, _ => none

/-- The context that a reviewer is shown. -/
def reviewContext (options : ReviewOptions) (context : PyDict) : PyDict :=
  if options.workflowStageContext = [] then context
  else context.filter (fun p => p.1 ≠ "workflow_stage_context") ++
    [("workflow_stage_context", .dict options.workflowStageContext)]

/-- What the reviewer of an action answers, if there is one. -/
def reviewAnswer (options : ReviewOptions) (point : EnforcementPoint) (context : PyDict)
    (proposal : ReActActionProposal) : Option (Except ReviewFailure ReviewDecision) :=
  if options.autoReviewEnabled = true then
    options.reviewSubagent.map fun review => review point proposal (reviewContext options context)
  else none

/-- What is decided when the reviewer raises. -/
def reviewFailed (point : EnforcementPoint) (context : PyDict) (proposal : ReActActionProposal)
    (traceEventId : String) (failure : ReviewFailure) : Traced (PolicyDecision × PyDict) := do
  let final := failClosedPolicyDecision point context traceEventId
  let event (errorCode errorClass : String) : PyDict :=
    [("used_review", .bool false), ("final_decision", .str final.decision.value),
      ("overridden", .bool false), ("error_code", .str errorCode),
      ("error_class", .str errorClass), ("subject_action_id", .str proposal.actionId)]
  match failure with
  | .normalization role errorCode rawContentLength => do
    emit "model_output_normalization_failed" "blocked" [("role", .str role),
      ("error_code", .str errorCode), ("raw_content_length", .int rawContentLength),
      ("subject_action_id", .str proposal.actionId), ("enforcement_point", .str point.value)]
    let event := event errorCode "ModelOutputNormalizationError"
    emit "review_error" "error" event
    emitPolicyDecision final
    return (final, event)
  | .other errorClass => do
    let event := event "review_subagent_error" errorClass
    emit "review_error" "error" event
    emitPolicyDecision final
    return (final, event)

/-- What the engine decides with the suggestion of the reviewer, if there is one. -/
def decideWithReview (policy : PolicyEngine) (options : ReviewOptions) (point : EnforcementPoint)
    (context : PyDict) (review : Option ReviewDecision) : Traced (PolicyDecision × PyDict) := do
  let (final, event) ← .ofExcept
    (policy.evaluateWithReview point context review options.traceEventId)
  emit "review_decision" (if final.decision = .allow then "ok" else "blocked") event
  if ((event.lookup "overridden").getD .none).truthy = true then
    emit "review_overridden" "blocked" event
  emitPolicyDecision final
  return (final, event)

/-- What is decided with the answer of the reviewer. -/
def reviewAnswered (policy : PolicyEngine) (options : ReviewOptions) (point : EnforcementPoint)
    (context : PyDict) (proposal : ReActActionProposal) : Traced (PolicyDecision × PyDict) :=
  match reviewAnswer options point context proposal with
  | some (.error failure) => reviewFailed point context proposal options.traceEventId failure
  | some (.ok review) => decideWithReview policy options point context (some review)
  | none => decideWithReview policy options point context none

/-- `review_action`. -/
def reviewAction (policy : PolicyEngine) (options : ReviewOptions) (point : EnforcementPoint)
    (context : PyDict) (proposal : ReActActionProposal) : Traced (PolicyDecision × PyDict) := do
  let fastPathReason := lowRiskFastPathReason options point context proposal
  let reviewable := options.autoReviewEnabled && options.reviewSubagent.isSome
  emit "review_requested" (if reviewable then "ok" else "blocked")
    [("action_id", .str proposal.actionId), ("action_type", .str proposal.actionType.value),
      ("enforcement_point", .str point.value),
      ("auto_review_enabled", .bool options.autoReviewEnabled),
      ("reviewer_available", .bool options.reviewSubagent.isSome),
      ("low_risk_fast_path_enabled", .bool options.lowRiskFastPathEnabled),
      ("fast_path_candidate", .bool fastPathReason.isSome)]
  match fastPathReason with
  | none => reviewAnswered policy options point context proposal
  | some reason => do
    let deterministic ← .ofExcept (policy.evaluate point context options.traceEventId)
    if deterministic.decision = .allow then do
      let event : PyDict := [("used_review", .bool false),
        ("final_decision", .str deterministic.decision.value), ("overridden", .bool false),
        ("review_enforcement_point", .str point.value),
        ("subject_action_id", .str proposal.actionId), ("fast_path_reason", .str reason)]
      emit "review_decision" "ok" event
      emitPolicyDecision deterministic
      return (deterministic, event)
    else reviewAnswered policy options point context proposal

end ProofAgent.Policy
