import ProofAgent.Policy.Review

/-! # Reviews and the rules

The rules decide without a reviewer; a review may make the decision stricter. A suggestion
that is well formed never relaxes it, since the stricter of the two is taken. What a failed
review falls back to is fixed by the point, or declared by the context, and is not compared
with the rules: there a review relaxes what the rules decide. -/
namespace ProofAgent.Policy

open Base

/-! ## Conditions -/

/-- A suggestion for the point, of a kind that the point allows. -/
structure ReviewDecision.WellFormed (review : ReviewDecision) (point : EnforcementPoint) : Prop where
  here : review.enforcementPoint = point
  allowed : review.suggestedDecision ∈ allowedReviewDecisionsFor point

/-- What a failed review falls back to at the point is no less strict than `decided`: a tool
call falls back to an approval, a retrieval to the fallback of the context, if it declares one
that the point allows, and everything else to a denial. -/
def FallsBackStrictly (point : EnforcementPoint) (context : PyDict) (decided : PolicyDecisionType) :
    Prop :=
  match point with
  | .beforeToolCall => decided = .allow ∨ decided = .requireApproval
  | .beforeRetrievalPlan | .beforeRetrievalStep =>
    ∀ fallback, reviewFallback context = some (.ok fallback) →
      fallback ∈ allowedReviewDecisionsFor point → strictness decided ≤ strictness fallback
  | .beforeModelCall | .beforeRetrieval | .beforeAnswer | .beforeMemoryWrite => True

/-- Where a reviewer answers, it is with a suggestion that is well formed, or what takes its
place is strict enough. -/
def Heeds (point : EnforcementPoint) (context : PyDict) (decided : PolicyDecisionType) :
    Option (Except ReviewFailure ReviewDecision) → Prop
  | none => True
  | some (.ok review) => review.WellFormed point ∨ FallsBackStrictly point context decided
  | some (.error _) => FallsBackStrictly point context decided

/-! ## Failing closed -/

theorem strictness_le_deny (decided : PolicyDecisionType) :
    strictness decided ≤ strictness .deny := by
  cases decided <;> decide

theorem strictness_allow_le (final : PolicyDecisionType) : strictness .allow ≤ strictness final :=
  Nat.zero_le _

theorem strictness_le_approval (decided : PolicyDecisionType) :
    strictness decided ≤ strictness .requireApproval ↔
      decided = .allow ∨ decided = .requireApproval := by
  cases decided <;> decide

/-- What a retrieval falls back to. -/
theorem retrieval_fallback_iff {point : EnforcementPoint} {context : PyDict}
    {decided : PolicyDecisionType} :
    strictness decided ≤ strictness (match reviewFallback context with
      | some (.ok fallback) => if fallback ∈ allowedReviewDecisionsFor point then fallback else .deny
      | some (.error _) | none => .deny) ↔
    ∀ fallback, reviewFallback context = some (.ok fallback) →
      fallback ∈ allowedReviewDecisionsFor point → strictness decided ≤ strictness fallback := by
  rcases reviewFallback context with _ | _ | fallback
  · exact ⟨fun _ _ h => (nomatch h), fun _ => strictness_le_deny decided⟩
  · exact ⟨fun _ _ h => (nomatch h), fun _ => strictness_le_deny decided⟩
  · dsimp only
    split
    · rename_i hallowed
      refine ⟨fun h other hsame _ => ?_, fun h => h fallback rfl hallowed⟩
      cases hsame
      exact h
    · rename_i hrefused
      refine ⟨fun _ other hsame hallowed => ?_, fun _ => strictness_le_deny decided⟩
      cases hsame
      exact absurd hallowed hrefused

theorem failClosed_iff (point : EnforcementPoint) (context : PyDict) (decided : PolicyDecisionType) :
    strictness decided ≤ strictness (failClosedDecisionType point context) ↔
      FallsBackStrictly point context decided := by
  unfold failClosedDecisionType FallsBackStrictly
  cases point with
  | beforeToolCall => exact strictness_le_approval decided
  | beforeRetrievalPlan => exact retrieval_fallback_iff
  | beforeRetrievalStep => exact retrieval_fallback_iff
  | beforeModelCall => exact iff_of_true (strictness_le_deny decided) trivial
  | beforeRetrieval => exact iff_of_true (strictness_le_deny decided) trivial
  | beforeAnswer => exact iff_of_true (strictness_le_deny decided) trivial
  | beforeMemoryWrite => exact iff_of_true (strictness_le_deny decided) trivial

/-- Nothing is less strict than to allow. -/
theorem heeds_allow (point : EnforcementPoint) (context : PyDict)
    (answer : Option (Except ReviewFailure ReviewDecision)) : Heeds point context .allow answer := by
  have hfalls : FallsBackStrictly point context .allow :=
    (failClosed_iff point context .allow).mp (strictness_allow_le _)
  match answer with
  | none => trivial
  | some (.ok _) => exact .inr hfalls
  | some (.error _) => exact hfalls

/-! ## What the rules decide -/

/-- The decision of the rules does not depend on the trace event that it is for. -/
theorem evaluate_decision {policy : PolicyEngine} {point : EnforcementPoint} {context : PyDict}
    {traceEventId other : String} {decided again : PolicyDecision}
    (h : policy.evaluate point context traceEventId = .ok decided)
    (h' : policy.evaluate point context other = .ok again) : again.decision = decided.decision := by
  obtain ⟨first, hfirst, h⟩ := bind_ok h
  obtain ⟨second, hsecond, h'⟩ := bind_ok h'
  rw [hfirst] at hsecond
  cases hsecond
  match first with
  | none =>
    cases h
    cases h'
    rfl
  | some (rule, decision) =>
    cases h
    cases h'
    rfl

/-- A decision with a review, against that of the rules. -/
theorem evaluateWithReview_iff {policy : PolicyEngine} {point : EnforcementPoint}
    {context : PyDict} {review : Option ReviewDecision} {traceEventId : String}
    {final : PolicyDecision} {event : PyDict}
    (h : policy.evaluateWithReview point context review traceEventId = .ok (final, event)) :
    ∃ decided, policy.evaluate point context traceEventId = .ok decided ∧
      (strictness decided.decision ≤ strictness final.decision ↔
        Heeds point context decided.decision (review.map .ok)) := by
  obtain ⟨decided, hdecided, h⟩ := bind_ok h
  refine ⟨decided, hdecided, ?_⟩
  cases review with
  | none =>
    cases h
    exact iff_of_true le_rfl trivial
  | some review =>
    dsimp only at h
    have hfailed : strictness decided.decision ≤
        strictness (failClosedPolicyDecision point context traceEventId).decision ↔
        FallsBackStrictly point context decided.decision := failClosed_iff point context decided.decision
    split at h
    · rename_i helsewhere
      cases h
      refine hfailed.trans ⟨.inr, fun h => h.resolve_left fun hwell => helsewhere hwell.here⟩
    · rename_i hhere
      rw [not_not] at hhere
      split at h
      · rename_i hrefused
        cases h
        exact hfailed.trans ⟨.inr, fun h => h.resolve_left fun hwell => hrefused hwell.allowed⟩
      · rename_i hallowed
        rw [not_not] at hallowed
        have hheeds : Heeds point context decided.decision (some (.ok review)) :=
          .inl ⟨hhere, hallowed⟩
        split at h
        · cases h
          exact iff_of_true le_rfl hheeds
        · split at h
          · rename_i hstricter
            cases h
            exact iff_of_true (le_of_lt (of_decide_eq_true hstricter)) hheeds
          · cases h
            exact iff_of_true le_rfl hheeds

/-! ## Reviewing an action -/

/-- A review that has failed decides what it falls back to. -/
theorem reviewFailed_returns {point : EnforcementPoint} {context : PyDict}
    {proposal : ReActActionProposal} {traceEventId : String} {failure : ReviewFailure}
    {final : PolicyDecision} {event : PyDict} {events events' : List TraceEvent}
    (h : reviewFailed point context proposal traceEventId failure events =
      (.ok (final, event), events')) :
    final = failClosedPolicyDecision point context traceEventId := by
  cases failure with
  | normalization role errorCode rawContentLength =>
    cases h
    rfl
  | other errorClass =>
    cases h
    rfl

/-- What the engine decides is what is returned. -/
theorem decideWithReview_returns {policy : PolicyEngine} {options : ReviewOptions}
    {point : EnforcementPoint} {context : PyDict} {review : Option ReviewDecision}
    {final : PolicyDecision} {event : PyDict} {events events' : List TraceEvent}
    (h : decideWithReview policy options point context review events =
      (.ok (final, event), events')) :
    policy.evaluateWithReview point context review options.traceEventId = .ok (final, event) := by
  obtain ⟨⟨decision, metadata⟩, _, hevaluate, h⟩ := Effect.bind_ok h
  dsimp only at h
  obtain ⟨_, _, _, h⟩ := Effect.bind_ok h
  split at h
  all_goals
    cases h
    exact (Prod.mk.inj hevaluate).1

/-- A review that no fast path has spared, against the rules. -/
theorem reviewAnswered_iff {policy : PolicyEngine} {options : ReviewOptions}
    {point : EnforcementPoint} {context : PyDict} {proposal : ReActActionProposal}
    {decided final : PolicyDecision} {traceEventId : String} {event : PyDict}
    {events events' : List TraceEvent}
    (hdecided : policy.evaluate point context traceEventId = .ok decided)
    (h : reviewAnswered policy options point context proposal events =
      (.ok (final, event), events')) :
    strictness decided.decision ≤ strictness final.decision ↔
      Heeds point context decided.decision (reviewAnswer options point context proposal) := by
  have hengine : ∀ review, decideWithReview policy options point context review events =
      (.ok (final, event), events') → (strictness decided.decision ≤ strictness final.decision ↔
        Heeds point context decided.decision (review.map .ok)) := by
    intro review hreview
    obtain ⟨again, hagain, hiff⟩ := evaluateWithReview_iff (decideWithReview_returns hreview)
    rw [evaluate_decision hdecided hagain] at hiff
    exact hiff
  unfold reviewAnswered at h
  match hanswer : reviewAnswer options point context proposal with
  | none =>
    rw [hanswer] at h
    exact hengine none h
  | some (.error failure) =>
    rw [hanswer] at h
    rw [reviewFailed_returns h]
    exact failClosed_iff point context decided.decision
  | some (.ok review) =>
    rw [hanswer] at h
    exact hengine (some review) h

theorem reviewAction_iff {policy : PolicyEngine} {options : ReviewOptions}
    {point : EnforcementPoint} {context : PyDict} {proposal : ReActActionProposal}
    {decided final : PolicyDecision} {traceEventId : String} {event : PyDict}
    {events events' : List TraceEvent}
    (hdecided : policy.evaluate point context traceEventId = .ok decided)
    (h : reviewAction policy options point context proposal events =
      (.ok (final, event), events')) :
    strictness decided.decision ≤ strictness final.decision ↔
      Heeds point context decided.decision (reviewAnswer options point context proposal) := by
  obtain ⟨_, requested, _, h⟩ := Effect.bind_ok h
  dsimp only at h
  cases hreason : lowRiskFastPathReason options point context proposal with
  | none =>
    rw [hreason] at h
    exact reviewAnswered_iff hdecided h
  | some reason =>
    rw [hreason] at h
    obtain ⟨again, _, hagain, h⟩ := Effect.bind_ok h
    have hsame := evaluate_decision hdecided (Prod.mk.inj hagain).1
    split at h
    · -- The rules allow the action, and the fast path takes their decision.
      rename_i hallow
      have hfinal : final.decision = .allow := by
        cases h
        exact hallow
      rw [hfinal, ← hsame, hallow]
      exact iff_of_true le_rfl (heeds_allow point context _)
    · exact reviewAnswered_iff hdecided h

/-! ## Both -/

/-- **A decision with a review is no less strict than that of the rules** exactly where the
suggestion is well formed, or what takes its place is strict enough. -/
theorem reviews_strict_iff (policy : PolicyEngine) (point : EnforcementPoint) (context : PyDict)
    (traceEventId : String) (decided : PolicyDecision)
    (hdecided : policy.evaluate point context traceEventId = .ok decided) :
    (∀ review traceEventId final event,
      policy.evaluateWithReview point context review traceEventId = .ok (final, event) →
      (strictness decided.decision ≤ strictness final.decision ↔
        Heeds point context decided.decision (review.map .ok))) ∧
    ∀ options proposal events final event events',
      reviewAction policy options point context proposal events = (.ok (final, event), events') →
      (strictness decided.decision ≤ strictness final.decision ↔
        Heeds point context decided.decision (reviewAnswer options point context proposal)) := by
  refine ⟨fun review traceEventId final event h => ?_, fun _ _ _ _ _ _ h =>
    reviewAction_iff hdecided h⟩
  obtain ⟨again, hagain, hiff⟩ := evaluateWithReview_iff h
  rw [evaluate_decision hdecided hagain] at hiff
  exact hiff

namespace Sample

/-- Transfers are denied. -/
def policy : PolicyEngine where
  rules := [{
    ruleId := "deny_transfers"
    enforcementPoint := .beforeToolCall
    condition := [("tool_name", .str "transfer")]
    decision := [("on_match", .str "deny")]
    reasonTemplate := "Transfers are denied." }]

def context : PyDict := [("tool_name", .str "transfer")]

def proposal : ReActActionProposal where
  actionId := "action"
  actionType := .proposeToolCall
  reasoningSummary := {
    goal := "", observations := [], candidateActions := [], selectedAction := .proposeToolCall
    rationaleSummary := "", riskFlags := [], requiredEvidence := [] }
  targetToolName := some "transfer"
  riskLevel := "high"

/-- A reviewer whose provider fails. -/
def failing : ReviewOptions where
  autoReviewEnabled := true
  reviewSubagent := some fun _ _ _ => .error (.other "ProviderTimeout")

def denial : PolicyDecision where
  decision := .deny
  enforcementPoint := .beforeToolCall
  reason := "Transfers are denied."
  policyRuleId := "deny_transfers"
  metadata := context
  traceEventId := ""

theorem policy_denies : policy.evaluate .beforeToolCall context "" = .ok denial := rfl

theorem failing_returns : ∃ event events, reviewAction policy failing .beforeToolCall context proposal
    [] = (.ok (failClosedPolicyDecision .beforeToolCall context "", event), events) :=
  ⟨_, _, rfl⟩

/-- A suggestion to allow a transfer. -/
def suggestion : ReviewDecision where
  reviewId := "review"
  enforcementPoint := .beforeToolCall
  suggestedDecision := .allow
  confidence := .zero
  subjectActionId := "action"

end Sample

/-- A reviewer that suggests to allow what the rules deny, is overridden. -/
theorem denied_transfer_stays_denied :
    ∃ event, Sample.policy.evaluateWithReview .beforeToolCall Sample.context
        (some Sample.suggestion) "" = .ok (Sample.denial, event) ∧
      (strictness Sample.denial.decision ≤ strictness Sample.denial.decision ↔
        Heeds .beforeToolCall Sample.context .deny (some (.ok Sample.suggestion))) :=
  ⟨_, rfl, (reviews_strict_iff _ _ _ _ _ Sample.policy_denies).1 (some Sample.suggestion) "" _ _ rfl⟩

/-- A reviewer that fails turns a denial into a request for approval. -/
theorem failing_review_relaxes :
    ∃ final event events, reviewAction Sample.policy Sample.failing .beforeToolCall Sample.context
        Sample.proposal [] = (.ok (final, event), events) ∧
      Sample.policy.evaluate .beforeToolCall Sample.context "" = .ok Sample.denial ∧
      ¬ strictness Sample.denial.decision ≤ strictness final.decision := by
  obtain ⟨event, events, hreturns⟩ := Sample.failing_returns
  exact ⟨_, event, events, hreturns, Sample.policy_denies, by decide⟩

end ProofAgent.Policy
