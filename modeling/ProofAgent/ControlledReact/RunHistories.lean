import ProofAgent.ControlledReact.Calls
import ProofAgent.ControlledReact.Journal

/-! # Histories of calls

The orchestrator is called again and again, to start runs and to resume them, and
between its calls anything may happen to its ports, the snapshots apart. The whole
journal is one trail, in which every loaded snapshot was saved before. -/
namespace ProofAgent

open Base ControlledReActOrchestrator

variable {W T S : Type}

/-- What can happen. -/
inductive OrchestratorCall (W T S : Type) where
  | start (fuel : Nat) (request : ControlledReActStartRequest)
  | resume (fuel : Nat) (request : ControlledReActResumeRequest)
  | elsewhere (change : Machine W T S → Machine W T S)

section
variable (rt : Runtime) (knowledge : RunKnowledge) (ports : ControlledReActPorts W T S)

/-- The machine after a call, whether it returned or raised. -/
def OrchestratorCall.run (m : Machine W T S) : OrchestratorCall W T S → Machine W T S
  | .start fuel request => (ControlledReActOrchestrator.start rt knowledge ports fuel request m).2
  | .resume fuel request => (ControlledReActOrchestrator.resume rt knowledge ports fuel request m).2
  | .elsewhere change => { change m with snapshots := m.snapshots, journal := m.journal }

/-- The machine after a history. -/
def operate (calls : List (OrchestratorCall W T S)) (m : Machine W T S) : Machine W T S :=
  calls.foldl (OrchestratorCall.run rt knowledge ports) m

end

/-- Nothing was done yet, and nothing was saved. -/
structure Machine.Unused (holds : S → ControlledReActRunStateSnapshot → Prop)
    (m : Machine W T S) : Prop where
  journal : m.journal = []
  snapshots : ∀ x, ¬ holds m.snapshots x

/-- A move inside a call, or one that enters or leaves it. -/
inductive HistoryMove (rt : Runtime) (ports : ControlledReActPorts W T S) :
    RunPhase → List RunEvent → RunPhase → Prop
  | inside {p q : RunPhase} {events : List RunEvent} (hmove : RunMove rt ports p events q) :
      HistoryMove rt ports p events q
  | left (p : RunPhase) : HistoryMove rt ports p [] .idle
  | started {state : ControlledReActRunState} (limit : Nat) (hfresh : state.Fresh) :
      HistoryMove rt ports .idle [] (.planning limit state)
  | loaded (snapshot : ControlledReActRunStateSnapshot) :
      HistoryMove rt ports .idle [.snapshotLoaded snapshot] (.loaded snapshot)

/-- What happened from the first call on. -/
abbrev HistoryTrail (rt : Runtime) (ports : ControlledReActPorts W T S) :
    RunPhase → List RunEvent → RunPhase → Prop :=
  Trail (HistoryMove rt ports)

variable {rt : Runtime} {knowledge : RunKnowledge} {ports : ControlledReActPorts W T S}
  {holds : S → ControlledReActRunStateSnapshot → Prop} {m m' : Machine W T S}
  {events : List RunEvent} {p q : RunPhase}

theorem RunTrail.inHistory (h : RunTrail rt ports p events q) : HistoryTrail rt ports p events q :=
  Trail.mono h fun _ _ _ => .inside

theorem ControlledReActOrchestrator.Started.history {request : ControlledReActStartRequest}
    (h : Started rt ports request events p) : HistoryTrail rt ports .idle events p := by
  cases h with
  | refused => exact .refl
  | ran hentered htrail =>
    cases hentered with
    | fresh hfresh => exact .after (.started _ hfresh) (RunTrail.inHistory htrail)
    | restarted snapshot =>
      have hrun : RunTrail rt ports (.loaded snapshot) _ p :=
        .after (.restarted request.maxPlanRounds) htrail
      exact .after (HistoryMove.loaded snapshot) (RunTrail.inHistory hrun)

theorem ControlledReActOrchestrator.Resumed.history (h : Resumed rt ports events p) :
    HistoryTrail rt ports .idle events p := by
  cases h with
  | refused => exact .refl
  | ran htrail =>
    exact .after (HistoryMove.loaded _) (RunTrail.inHistory htrail)

/-! ## The journal of a history -/

/-- The machine's journal is a sound trail from the first call on. -/
structure Trailed (rt : Runtime) (ports : ControlledReActPorts W T S)
    (holds : S → ControlledReActRunStateSnapshot → Prop) (m : Machine W T S) (p : RunPhase) :
    Prop where
  trail : HistoryTrail rt ports .idle m.journal p
  sound : m.Sound holds

theorem Trailed.first (h : m.Unused holds) : Trailed rt ports holds m .idle := by
  refine ⟨?_, fun x hx => absurd hx (h.snapshots x), ?_⟩
  · rw [h.journal]
    exact .refl
  · rw [h.journal]
    exact .nil

/-- What a call showed, after a history. -/
theorem Trailed.ran (h : Trailed rt ports holds m .idle)
    (hran : (journaled W T holds).ran m m' events) (htrail : HistoryTrail rt ports .idle events p) :
    Trailed rt ports holds m' p := by
  refine ⟨?_, hran.2 h.sound⟩
  rw [hran.1]
  exact h.trail.trans htrail

theorem Trailed.leave (h : Trailed rt ports holds m p) : Trailed rt ports holds m .idle :=
  ⟨h.trail.quiet (.left p), h.sound⟩

/-- **A start after a history**, and where its result was given. -/
theorem Trailed.start (hkeep : ports.KeepSnapshots holds) (h : Trailed rt ports holds m .idle)
    {fuel : Nat} {request : ControlledReActStartRequest}
    {r : Option WorkflowTemplateExecutionResult}
    (hstart : start rt knowledge ports fuel request m = (.ok r, m')) :
    ∃ p, Trailed rt ports holds m' p ∧ GivenIn rt ports p r := by
  have hemits : Emits (journaled W T holds) (ControlledReActOrchestrator.start rt knowledge ports fuel
    request) _ _ := start_emits hkeep fuel request
  obtain ⟨events, hran, p, hstarted, hgiven⟩ := (hemits m).1 r m' hstart
  exact ⟨p, h.ran hran hstarted.history, hgiven⟩

/-- **A resume after a history**, and where its result was given. -/
theorem Trailed.resume (hkeep : ports.KeepSnapshots holds) (h : Trailed rt ports holds m .idle)
    {fuel : Nat} {request : ControlledReActResumeRequest}
    {r : Option WorkflowTemplateExecutionResult}
    (hresume : resume rt knowledge ports fuel request m = (.ok r, m')) :
    ∃ p, Trailed rt ports holds m' p ∧ GivenIn rt ports p r := by
  have hemits : Emits (journaled W T holds) (ControlledReActOrchestrator.resume rt knowledge ports
    fuel request) _ _ := resume_emits hkeep fuel request
  obtain ⟨events, hran, p, hresumed, hgiven⟩ := (hemits m).1 r m' hresume
  exact ⟨p, h.ran hran hresumed.history, hgiven⟩

theorem Trailed.call (hkeep : ports.KeepSnapshots holds) (h : Trailed rt ports holds m .idle)
    (call : OrchestratorCall W T S) : Trailed rt ports holds (call.run rt knowledge ports m) .idle := by
  cases call with
  | start fuel request =>
    rcases hr : ControlledReActOrchestrator.start rt knowledge ports fuel request m with ⟨e | r, m'⟩
    · have hemits : Emits (journaled W T holds) (ControlledReActOrchestrator.start rt knowledge ports
        fuel request) _ _ := start_emits hkeep fuel request
      obtain ⟨events, hran, p, hstarted⟩ := (hemits m).2 e m' hr
      simp only [OrchestratorCall.run, hr]
      exact (h.ran hran hstarted.history).leave
    · obtain ⟨p, htrailed, _⟩ := h.start hkeep hr
      simp only [OrchestratorCall.run, hr]
      exact htrailed.leave
  | resume fuel request =>
    rcases hr : ControlledReActOrchestrator.resume rt knowledge ports fuel request m with ⟨e | r, m'⟩
    · have hemits : Emits (journaled W T holds) (ControlledReActOrchestrator.resume rt knowledge ports
        fuel request) _ _ := resume_emits hkeep fuel request
      obtain ⟨events, hran, p, hresumed⟩ := (hemits m).2 e m' hr
      simp only [OrchestratorCall.run, hr]
      exact (h.ran hran hresumed.history).leave
    · obtain ⟨p, htrailed, _⟩ := h.resume hkeep hr
      simp only [OrchestratorCall.run, hr]
      exact htrailed.leave
  | elsewhere change => exact ⟨h.trail, h.sound.held, h.sound.loads⟩

/-- **The journal of a history** is a sound trail. -/
theorem operate_trailed (hkeep : ports.KeepSnapshots holds) (hunused : m.Unused holds)
    (calls : List (OrchestratorCall W T S)) :
    Trailed rt ports holds (operate rt knowledge ports calls m) .idle := by
  have hall : ∀ (calls : List (OrchestratorCall W T S)) (m : Machine W T S),
      Trailed rt ports holds m .idle →
        Trailed rt ports holds (operate rt knowledge ports calls m) .idle := by
    intro calls
    induction calls with
    | nil => exact fun m h => h
    | cons call calls ih => exact fun m h => ih _ (h.call hkeep call)
  exact hall calls m (.first hunused)

/-! ## A small orchestrator

Its stores are in memory; on it the hypotheses of later results are tried. -/
namespace Sample

/-- A runtime whose digests have the form of digests. -/
def digestRuntime : Runtime :=
  { runtime with sha256 := fun _ => "0000000000000000000000000000000000000000000000000000000000000000" }

/-- No text is about business. -/
def runKnowledge : RunKnowledge where
  missingPerformanceCoverage _ _ := []
  answerFactRepairStatements _ := []
  assessmentGaps _ := []
  verifiedBusinessBody _ _ := none
  validateAnswerFacts _ _ _ _ := { status := .passed }
  requirementReport _ _ _ := []
  canonicalText _ := ""
  answerRequirements _ := []
  irrelevantPurchasePolicyField _ _ := false
  evaluateAssurance _ _ _ _ _ := .ok []

def proposal (actionId : String) (actionType : ReActActionType) (parameters : FrozenDict) :
    ReActActionProposal where
  actionId := actionId
  actionType := actionType
  parameters := parameters
  riskLevel := "low"
  reasoningSummary :=
    { goal := "goal"
      observations := []
      candidateActions := [actionType]
      selectedAction := actionType
      rationaleSummary := "rationale"
      riskFlags := []
      requiredEvidence := [] }

def machine : Machine Unit InMemoryObservationTruthStore InMemorySnapshotStore where
  world := ()
  truths := .empty
  snapshots := .empty
  lastTaskCheckpointRef := none
  taskQuestion := none
  goalAssessments := []
  lastExecutionPlan := { requestedComplexity := none, effectiveComplexity := none }
  journal := []

theorem machine_unused : machine.Unused InMemorySnapshotStore.Holds :=
  ⟨rfl, InMemorySnapshotStore.holds_empty⟩

/-- Ports with a planner and a policy, and stores in memory. -/
def orchestratorPorts (planner : ControlledReActRunState → ReActActionProposal)
    (decision : PolicyDecisionType) :
    ControlledReActPorts Unit InMemoryObservationTruthStore InMemorySnapshotStore where
  planner state := pure (planner state)
  answerSynthesis _ _ _ := Effect.raise (.port "no answer")
  policy := some { evaluate := fun _ _ => pure decision }
  snapshotStore := some (InMemorySnapshotStore.port digestRuntime)
  observationTruthStore := InMemoryObservationTruthStore.port digestRuntime
  today := pure 0
  subFloat _ _ := none

/-- The store keeps snapshots whatever the other ports are. -/
theorem keepSnapshots
    {ports : ControlledReActPorts Unit InMemoryObservationTruthStore InMemorySnapshotStore}
    (h : ports.snapshotStore = some (InMemorySnapshotStore.port digestRuntime)) :
    ports.KeepSnapshots InMemorySnapshotStore.Holds := by
  intro store hstore
  rw [h] at hstore
  cases hstore
  exact InMemorySnapshotStore.port_keeps

/-- A run is started. -/
def startRequest : ControlledReActStartRequest where
  runId := "run"
  templateName := "controlled_react"
  templateDescriptorVersion := "1"
  question := "question"

/-- A call returned a result with an outcome. -/
def gave (outcome : ReceiptOutcome) : Except ReactError (Option WorkflowTemplateExecutionResult) → Bool
  | .ok (some result) => result.outcome = outcome
  | _ => false

theorem gave_iff {outcome : ReceiptOutcome}
    {r : Except ReactError (Option WorkflowTemplateExecutionResult)} :
    gave outcome r = true ↔ ∃ result, r = .ok (some result) ∧ result.outcome = outcome := by
  rcases r with e | (_ | result)
  · simp [gave]
  · simp [gave]
  · simp [gave]

end Sample

end ProofAgent
