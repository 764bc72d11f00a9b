import ProofAgent.Contracts.ControlledReact

/-! # Which actions a round may take

The plan's action set is narrowed from the rounds, the observations and the
actions so far. A set of action types is the list of its members in the order of
their values. -/
namespace ProofAgent

open Base

/-- Why the plan's action set was narrowed, or why a run was refused. -/
inductive ConvergenceSignal where
  | planBudgetExhausted | answerReady | actionRepetition | evidenceSaturation
  | requiredRetrievalComplete | requiredRetrievalPending | requirementsUnsatisfied
  | unresolvedSubgoals
  deriving DecidableEq

def ConvergenceSignal.value : ConvergenceSignal → String
  | planBudgetExhausted => "plan_budget_exhausted"
  | answerReady => "answer_ready"
  | actionRepetition => "action_repetition"
  | evidenceSaturation => "evidence_saturation"
  | requiredRetrievalComplete => "required_retrieval_complete"
  | requiredRetrievalPending => "required_retrieval_pending"
  | requirementsUnsatisfied => "requirements_unsatisfied"
  | unresolvedSubgoals => "unresolved_subgoals"

/-- `_PLAN_ELIGIBLE_ACTIONS`. -/
def planEligibleActions : List ReActActionType :=
  [.askClarification, .generateFinalAnswer, .planRetrieval, .proposeToolCall, .refuse]

/-- `_TERMINAL_NARROWED_ACTIONS`. -/
def terminalNarrowedActions : List ReActActionType := [.generateFinalAnswer, .refuse]

/-- `_ANSWER_READY_ACTIONS`. -/
def answerReadyActions : List ReActActionType := [.generateFinalAnswer]

/-- `_REFUSE_ONLY_ACTIONS`. -/
def refuseOnlyActions : List ReActActionType := [.refuse]

/-- The actions that end in an observation. -/
def ReActActionType.observes (t : ReActActionType) : Bool :=
  t = .planRetrieval || t = .proposeToolCall

/-- `_latest_observation_has_unresolved_subgoals`. -/
def latestObservationHasUnresolvedSubgoals (observations : List ObservationRecord) : Bool :=
  observations.getLast?.any fun latest => latest.unresolvedSubgoals ≠ []

/-- `_detect_answer_ready`. -/
def detectAnswerReady (observations : List ObservationRecord) : Bool :=
  observations.getLast?.any (fun latest => 0 < latest.acceptedEvidenceCount) &&
    !latestObservationHasUnresolvedSubgoals observations

/-- `_action_fingerprint`. -/
def actionFingerprint (action : ReActActionProposal) : ReActActionType × FrozenDict :=
  (action.actionType, action.parameters)

/-- `_detect_action_repetition`: the last two actions are the same. -/
def detectActionRepetition (actionHistory : List ReActActionProposal) : Bool :=
  match actionHistory.reverse with
  | latest :: previous :: _ => actionFingerprint previous = actionFingerprint latest
  | _ => false

/-- `_detect_evidence_saturation`: the last two counts are not above the one before. -/
def detectEvidenceSaturation (evidenceTrajectory : List Int) : Bool :=
  match evidenceTrajectory.reverse with
  | latest :: previous :: baseline :: _ => previous ≤ baseline && latest ≤ baseline
  | _ => false

def computeEligibleActionSet (planRounds maxPlanRounds : Nat)
    (actionHistory : List ReActActionProposal) (observations : List ObservationRecord) :
    List ReActActionType × Option ConvergenceSignal :=
  if maxPlanRounds ≤ planRounds then (refuseOnlyActions, some .planBudgetExhausted)
  else if detectAnswerReady observations then (answerReadyActions, some .answerReady)
  else if detectActionRepetition actionHistory then
    (terminalNarrowedActions, some .actionRepetition)
  else if detectEvidenceSaturation (observations.map (·.acceptedEvidenceCount)) then
    (terminalNarrowedActions, some .evidenceSaturation)
  else (planEligibleActions, none)

def shouldBlockDuplicateObservationAction (proposal : ReActActionProposal)
    (actionHistory : List ReActActionProposal) (observations : List ObservationRecord) : Bool :=
  proposal.actionType.observes &&
    actionHistory.any (fun entry => actionFingerprint entry = actionFingerprint proposal) &&
    !latestObservationHasUnresolvedSubgoals observations

/-- The type that `constrain_action` falls back to. -/
def constrainedDefault (eligible : List ReActActionType) (signal : Option ConvergenceSignal) :
    Except ReactError ReActActionType :=
  if signal = some .planBudgetExhausted ∧ .refuse ∈ eligible then .ok .refuse
  else if .generateFinalAnswer ∈ eligible then .ok .generateFinalAnswer
  else if .refuse ∈ eligible then .ok .refuse
  else if .askClarification ∈ eligible then .ok .askClarification
  else orRaise eligible.head? (.port "list index out of range")

def constrainAction (proposal : ReActActionProposal) (eligible : List ReActActionType)
    (signal : Option ConvergenceSignal) : Except ReactError ReActActionProposal :=
  if proposal.actionType ∈ eligible then .ok proposal
  else do
    let actionType ← constrainedDefault eligible signal
    return { proposal with actionType }

/-! ## Constraints -/

/-- A constrained action is an eligible one. -/
theorem constrainAction_mem {proposal action : ReActActionProposal}
    {eligible : List ReActActionType} {signal : Option ConvergenceSignal}
    (h : constrainAction proposal eligible signal = .ok action) : action.actionType ∈ eligible := by
  unfold constrainAction at h
  split at h
  · rename_i hmem
    cases h
    exact hmem
  · obtain ⟨actionType, hdefault, h₁⟩ := bind_ok h
    cases pure_ok h₁
    unfold constrainedDefault at hdefault
    split at hdefault
    · rename_i hs
      cases hdefault
      exact hs.2
    split at hdefault
    · cases hdefault
      assumption
    split at hdefault
    · cases hdefault
      assumption
    split at hdefault
    · cases hdefault
      assumption
    · exact List.mem_of_mem_head? (orRaise_ok hdefault)

/-- Once the rounds are used up, no action that observes is eligible. -/
theorem computeEligibleActionSet_observes {planRounds maxPlanRounds : Nat}
    {actionHistory : List ReActActionProposal} {observations : List ObservationRecord}
    {t : ReActActionType} (ht : t.observes = true)
    (h : t ∈ (computeEligibleActionSet planRounds maxPlanRounds actionHistory observations).1) :
    planRounds < maxPlanRounds := by
  by_cases hmax : maxPlanRounds ≤ planRounds
  · rw [computeEligibleActionSet, if_pos hmax] at h
    cases List.mem_singleton.mp h
    cases ht
  · omega

end ProofAgent
