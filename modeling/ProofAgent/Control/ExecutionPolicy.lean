import Mathlib.Data.List.Basic

/-! # Workflow policies

The opt-in controls over a run, what they compile to, and when a run may ask its
user. Preferences never grant authority. -/
namespace ProofAgent

inductive Complexity where
  | lite | standard | deep
  deriving DecidableEq

def Complexity.order : Complexity → Nat
  | lite => 0
  | standard => 1
  | deep => 2

structure WorkflowExecutionPolicy where
  complexity : Complexity := .standard
  ceiling : Complexity := .deep
  autoEscalate : Bool := true
  ceiling_not_lower : complexity.order ≤ ceiling.order := by decide
  deriving DecidableEq

inductive ClarificationIntensity where
  | minimal | balanced | thorough
  deriving DecidableEq

inductive InteractionStage where
  | goal | plan | evidence | toolInput | finalization
  deriving DecidableEq

def InteractionStage.value : InteractionStage → String
  | goal => "goal"
  | plan => "plan"
  | evidence => "evidence"
  | toolInput => "tool_input"
  | finalization => "finalization"

inductive InteractionReason where
  | requiredContext | materialAmbiguity | preference | retrievable | scopeChange | budgetChange
  | applicabilityUnresolved | requiredParameter | userPreferenceBlocking
  deriving DecidableEq

/-- `reason in REQUIRED_REASONS`. -/
def InteractionReason.isRequired : InteractionReason → Bool
  | requiredContext | scopeChange | budgetChange | applicabilityUnresolved | requiredParameter
  | userPreferenceBlocking => true
  | materialAmbiguity | preference | retrievable => false

inductive InteractionMode where
  | autonomous | adaptive | interactive
  deriving DecidableEq

structure InteractionCheckpoint where
  intensity : Option ClarificationIntensity := none
  askOn : List InteractionReason := []
  deriving DecidableEq

structure InteractionPolicy where
  mode : InteractionMode := .adaptive
  intensity : ClarificationIntensity := .balanced
  maxRounds : Nat := 2
  maxQuestionsPerRound : Nat := 1
  /-- `unavailable == "pause"`. -/
  pauseWhenUnavailable : Bool := false
  waitTimeoutSeconds : Nat := 86400
  checkpoints : List (InteractionStage × InteractionCheckpoint) := []
  rounds : maxRounds ≤ 16 := by decide
  questions : 1 ≤ maxQuestionsPerRound ∧ maxQuestionsPerRound ≤ 3 := by decide
  timeout : 1 ≤ waitTimeoutSeconds ∧ waitTimeoutSeconds ≤ 604800 := by decide

/-- `InteractionPolicy()`. -/
def InteractionPolicy.initial : InteractionPolicy := {}

inductive InteractionDecision where
  | proceed | ask | missingContext | pause
  deriving DecidableEq

/-- `decide_interaction`. -/
def decideInteraction (policy : InteractionPolicy) (stage : InteractionStage)
    (reason : InteractionReason) (hasDefault : Bool) (roundsAsked : Nat) : InteractionDecision :=
  if reason = .retrievable then .proceed
  else
    let required := reason.isRequired
    let checkpoint := policy.checkpoints.lookup stage
    let intensity := (checkpoint.bind (·.intensity)).getD policy.intensity
    let optionalAsk := checkpoint.any (fun c => reason ∈ c.askOn) || policy.mode = .interactive ||
      intensity = .thorough || (intensity = .balanced && !hasDefault)
    if !required && (!optionalAsk || policy.mode = .autonomous || policy.maxRounds ≤ roundsAsked) then
      .proceed
    else if policy.mode = .autonomous || policy.maxRounds ≤ roundsAsked then
      if policy.pauseWhenUnavailable then .pause else .missingContext
    else .ask

structure AssuranceRequirements where
  minSources : Nat := 1
  maxAgeDays : Option Nat := none
  requiredMetadata : List String := []
  sources : 1 ≤ minSources ∧ minSources ≤ 8 := by decide
  deriving DecidableEq

structure AssurancePolicy where
  /-- `level == "strict"`. -/
  strict : Bool := false
  evidence : AssuranceRequirements := {}
  checkpoints : List (InteractionStage × AssuranceRequirements) := []
  deriving DecidableEq

/-- `requires_external_sources`. -/
def requiresExternalSources (policy : AssurancePolicy) : Bool :=
  (policy.evidence :: policy.checkpoints.map Prod.snd).any fun requirement =>
    1 < requirement.minSources || requirement.maxAgeDays.isSome || requirement.requiredMetadata ≠ []

/-- What a policy compiles to; without one, `legacy` complexities are `none`. -/
structure ResolvedExecutionPlan where
  requestedComplexity : Option Complexity
  effectiveComplexity : Option Complexity
  blockedReason : Option String := none
  escalated : Bool := false
  deriving DecidableEq

/-- `compile_execution_plan`, its listing of the stages apart; `none` where it raises. -/
def compileExecutionPlan (execution : Option WorkflowExecutionPolicy) (requiredQueryCount : Nat)
    (hasToolTasks : Bool) : Option ResolvedExecutionPlan :=
  let requested := execution.map (·.complexity)
  if 5 < requiredQueryCount then none
  else if requested = some .lite ∧ (1 < requiredQueryCount ∨ hasToolTasks = true) then
    if execution.any fun e => e.autoEscalate && e.ceiling ≠ .lite then
      some { requestedComplexity := requested, effectiveComplexity := some .standard
             escalated := true }
    else
      some { requestedComplexity := requested, effectiveComplexity := requested
             blockedReason := some "complexity_ceiling_exceeded" }
  else some { requestedComplexity := requested, effectiveComplexity := requested }

end ProofAgent
