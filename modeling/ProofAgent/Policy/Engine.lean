import ProofAgent.Base.PyValue
import ProofAgent.Base.Outcome
import ProofAgent.Contracts.ControlledReact

/-! # The policy engine

A list of rules is evaluated at an enforcement point, on a context: the first rule of
the point that decides, decides. Without a decision the action is allowed. -/
namespace ProofAgent.Policy

open Base

inductive EnforcementPoint where
  | beforeRetrieval | beforeRetrievalPlan | beforeRetrievalStep | beforeAnswer | beforeToolCall
  | beforeMemoryWrite | beforeModelCall
  deriving DecidableEq

def EnforcementPoint.value : EnforcementPoint → String
  | beforeRetrieval => "before_retrieval"
  | beforeRetrievalPlan => "before_retrieval_plan"
  | beforeRetrievalStep => "before_retrieval_step"
  | beforeAnswer => "before_answer"
  | beforeToolCall => "before_tool_call"
  | beforeMemoryWrite => "before_memory_write"
  | beforeModelCall => "before_model_call"

/-- `PolicyDecisionType(value)`. -/
def decisionType : PyValue → Except PyError PolicyDecisionType
  | .str "allow" => .ok .allow
  | .str "deny" => .ok .deny
  | .str "require_approval" => .ok .requireApproval
  | .str "escalate" => .ok .escalate
  | _ => .error .value

/-- `PolicyRule`. -/
structure PolicyRule where
  ruleId : String
  enforcementPoint : EnforcementPoint
  condition : PyDict := []
  decision : PyDict := []
  reasonTemplate : String

structure PolicyDecision where
  decision : PolicyDecisionType
  enforcementPoint : EnforcementPoint
  reason : String
  policyRuleId : String
  metadata : PyDict := []
  traceEventId : String

/-! ## Rules -/

/-- `_decision_from_rule`. -/
def decisionFromRule (rule : PolicyRule) (key : String) : Except PyError PolicyDecisionType :=
  decisionType ((rule.decision.lookup key).getD (.str "allow"))

/-- `_evaluate_before_answer`. -/
def evaluateBeforeAnswer (rule : PolicyRule) (context : PyDict) :
    Except PyError (Option PolicyDecisionType) := do
  let minCount ← ((rule.condition.lookup "min_evidence_count").getD (.int 0)).toInt
  let requireCitations := ((rule.condition.lookup "require_citations").getD (.bool false)).truthy
  let acceptedCount ← ((context.lookup "accepted_evidence_count").getD (.int 0)).toInt
  let citationsPresent := ((context.lookup "citations_present").getD (.bool false)).truthy
  let evidencePassed := minCount ≤ acceptedCount && (!requireCitations || citationsPresent)
  let toolResultPassed := ((context.lookup "authorized_tool_result_support").getD (.bool false)).truthy
  some <$> decisionFromRule rule (if evidencePassed || toolResultPassed then "on_pass" else "on_fail")

/-- `_evaluate_before_tool_call`. -/
def evaluateBeforeToolCall (rule : PolicyRule) (context : PyDict) :
    Except PyError (Option PolicyDecisionType) :=
  if PyValue.differs (rule.condition.lookup "tool_name") (context.lookup "tool_name") = true then
    .ok none
  else if ((rule.condition.lookup "risk_level").any fun level =>
      PyValue.differs (some level) (context.lookup "risk_level")) = true then
    .ok none
  else some <$> decisionFromRule rule "on_match"

/-- The texts in the set that is made of a value; a text is a set of its characters. -/
def textsOf : PyValue → Except PyError (List String)
  | .str s => .ok (s.toList.map String.singleton)
  | .list items | .tuple items =>
    if items.any (fun item => match item with
      | .list _ | .dict _ => true
      | _ => false) = true then .error .type
    else .ok (items.filterMap fun item => match item with
      | .str s => some s
      | _ => none)
  | .dict fields => .ok (fields.map Prod.fst)
  | _ => .error .type

/-- `_evaluate_before_memory_write`. -/
def evaluateBeforeMemoryWrite (rule : PolicyRule) (context : PyDict) :
    Except PyError (Option PolicyDecisionType) := do
  let denyFields ← textsOf ((rule.condition.lookup "deny_fields").getD (.tuple []))
  match (context.lookup "write").getD (.dict context) with
  | .dict write =>
    if (write.any fun p => p.1 ∈ denyFields) = true then some <$> decisionFromRule rule "on_match"
    else some <$> decisionFromRule rule "on_pass"
  | _ => some <$> decisionFromRule rule "on_pass"

/-- `_evaluate_before_retrieval`. -/
def evaluateBeforeRetrieval (rule : PolicyRule) : Except PyError (Option PolicyDecisionType) :=
  if (rule.decision.any fun p => p.2.eq false (.str "deny")) = true then
    some <$> decisionFromRule rule "on_match"
  else .ok (some .allow)

/-- `_evaluate_before_model_call`. -/
def evaluateBeforeModelCall (rule : PolicyRule) (context : PyDict) :
    Except PyError (Option PolicyDecisionType) :=
  if (["provider", "model", "cost_class", "stream"].any fun key =>
      (rule.condition.lookup key).any fun value =>
        PyValue.differs (some value) (context.lookup key)) = true then
    .ok none
  else
    match rule.condition.lookup "max_estimated_tokens" with
    | none | some .none => some <$> decisionFromRule rule "on_match"
    | some maxTokens =>
      match context.lookup "estimated_tokens" with
      | none | some .none => some <$> decisionFromRule rule "on_fail"
      | some estimated => do
        let estimated ← estimated.toInt
        let maxTokens ← maxTokens.toInt
        some <$> decisionFromRule rule (if maxTokens < estimated then "on_fail" else "on_match")

/-- `_evaluate_rule`. -/
def evaluateRule (rule : PolicyRule) (context : PyDict) :
    Except PyError (Option PolicyDecisionType) :=
  match rule.enforcementPoint with
  | .beforeAnswer => evaluateBeforeAnswer rule context
  | .beforeToolCall => evaluateBeforeToolCall rule context
  | .beforeMemoryWrite => evaluateBeforeMemoryWrite rule context
  | .beforeRetrieval | .beforeRetrievalPlan | .beforeRetrievalStep => evaluateBeforeRetrieval rule
  | .beforeModelCall => evaluateBeforeModelCall rule context

/-! ## Evaluation -/

/-- `PolicyEngine`. -/
structure PolicyEngine where
  rules : List PolicyRule

/-- The first rule of the point that decides. -/
def firstMatch (point : EnforcementPoint) (context : PyDict) :
    List PolicyRule → Except PyError (Option (PolicyRule × PolicyDecisionType))
  | [] => .ok none
  | rule :: rest =>
    if rule.enforcementPoint ≠ point then firstMatch point context rest
    else do
      match ← evaluateRule rule context with
      | none => firstMatch point context rest
      | some decision => .ok (some (rule, decision))

/-- `evaluate`. -/
def PolicyEngine.evaluate (policy : PolicyEngine) (point : EnforcementPoint) (context : PyDict)
    (traceEventId : String) : Except PyError PolicyDecision := do
  match ← firstMatch point context policy.rules with
  | some (rule, decision) => return {
      decision
      enforcementPoint := point
      reason := rule.reasonTemplate
      policyRuleId := rule.ruleId
      metadata := context
      traceEventId }
  | none => return {
      decision := .allow
      enforcementPoint := point
      reason := "No blocking policy rule matched."
      policyRuleId := "default.allow"
      metadata := context
      traceEventId }

end ProofAgent.Policy
