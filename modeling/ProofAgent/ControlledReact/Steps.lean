import ProofAgent.ControlledReact.Rounds

/-! # What a step of the loop shows

Every step is one of a few: it ends or raises quietly, goes back for a gap in the
evidence, retrieves, or takes a tool proposal to the policy and from there to the
tool or to an approval. -/
namespace ProofAgent

open Base

/-- No store but one that keeps what was saved. -/
def ControlledReActPorts.KeepSnapshots {W T S : Type} (ports : ControlledReActPorts W T S)
    (holds : S → ControlledReActRunStateSnapshot → Prop) : Prop :=
  ∀ store, ports.snapshotStore = some store → store.Keeps holds

namespace ControlledReActOrchestrator

open Orchestration

variable {W T S : Type} {rt : Runtime} {knowledge : RunKnowledge} {ports : ControlledReActPorts W T S}
  {holds : S → ControlledReActRunStateSnapshot → Prop}

/-- The round in which a planned action is observed. -/
def observing (state : ControlledReActRunState) (action : ReActActionProposal) :
    ControlledReActRunState :=
  nextRound state (state.actionHistory ++ [action])

/-- The checkpoint of a tool task, where it is saved. -/
inductive Checkpointed (action : ReActActionProposal) (observed : ControlledReActRunState) :
    List RunEvent → Prop
  | skipped : Checkpointed action observed []
  | saved (htool : action.actionType = .proposeToolCall)
      (htask : observed.toolTaskPlan.isSome = true) :
      Checkpointed action observed [.snapshotSaved (taskCheckpoint observed)]

/-- What follows the call that observes an action: the commit, the checkpoint and
the choice of the next action. It may stop anywhere. -/
inductive Followed (ports : ControlledReActPorts W T S) (maxPlanRounds : Nat)
    (observing : ControlledReActRunState) (action : ReActActionProposal) :
    List RunEvent → Option (ControlledReActRunState × ReActActionProposal) → Prop
  | stopped : Followed ports maxPlanRounds observing action [] none
  | committed {observed : ControlledReActRunState} {commits saves plan : List RunEvent}
      {next : Option (ControlledReActRunState × ReActActionProposal)}
      (hcommit : CommittedTo observing action observed commits) (hsave : Checkpointed action observed saves)
      (hplan : Planned ports maxPlanRounds observed plan next) :
      Followed ports maxPlanRounds observing action (commits ++ (saves ++ plan)) next

/-- What a proposal is dispatched as: its parameters are completed by what the user
supplied, and bound if the round has a scope. -/
structure Dispatched (rt : Runtime) (state : ControlledReActRunState) (action : ReActActionProposal)
    (bound : ControlledReActRunState × ReActActionProposal) : Prop where
  proposes : action.actionType = .proposeToolCall
  inScope : toolScopeViolation state action = false
  binds : ∃ parameters, bindToolProposal rt state { action with parameters } = .ok bound

/-- Binding keeps the action, its parameters apart. -/
theorem bindToolProposal_ok {state : ControlledReActRunState} {action : ReActActionProposal}
    {bound : ControlledReActRunState × ReActActionProposal}
    (h : bindToolProposal rt state action = .ok bound) :
    (state.effectiveToolProposalScope = none ∧ bound = (state, action)) ∨
      ∃ scope proposal, state.effectiveToolProposalScope = some scope ∧
        ToolProposalParameterBinder.bind rt state.runId action scope = .ok proposal ∧
        bound = ({ state with boundToolProposal := some proposal },
          { action with parameters := proposal.parameters }) := by
  unfold bindToolProposal at h
  split at h
  · rename_i hnone
    cases h
    exact .inl ⟨hnone, rfl⟩
  · rename_i scope hscope
    obtain ⟨proposal, hbind, h₁⟩ := bind_ok h
    cases pure_ok h₁
    exact .inr ⟨scope, proposal, hscope, hbind, rfl⟩

theorem Dispatched.tool {state : ControlledReActRunState} {action : ReActActionProposal}
    {bound : ControlledReActRunState × ReActActionProposal} (h : Dispatched rt state action bound) :
    bound.2.actionType = .proposeToolCall := by
  obtain ⟨parameters, hbind⟩ := h.binds
  obtain ⟨_, rfl⟩ | ⟨_, _, _, _, rfl⟩ := bindToolProposal_ok hbind
  · exact h.proposes
  · exact h.proposes

/-- What the policy was asked, if there is one. -/
inductive Evaluated (ports : ControlledReActPorts W T S)
    (bound : ControlledReActRunState × ReActActionProposal) (decision : PolicyDecisionType) :
    List RunEvent → Prop
  | policy : ports.policy.isSome = true →
      Evaluated ports bound decision [.policyEvaluated bound.1 bound.2 decision]
  | unasked : ports.policy = none → decision = .requireApproval → Evaluated ports bound decision []

/-- **One step of the loop**, and what it goes on with. -/
inductive Stepped (rt : Runtime) (ports : ControlledReActPorts W T S)
    (request : ControlledReActStartRequest) (maxPlanRounds : Nat)
    (state : ControlledReActRunState) (action : ReActActionProposal) :
    List RunEvent → Option (ControlledReActRunState × ReActActionProposal) → Prop
  | quiet : Stepped rt ports request maxPlanRounds state action [] none
  | gap (requirement : RequiredRetrieval) (hanswer : action.actionType = .generateFinalAnswer)
      (hround : state.planRound < maxPlanRounds) :
      Stepped rt ports request maxPlanRounds state action []
        (some (state, pendingRetrievalAction action requirement state.planRound))
  | retrieved {events : List RunEvent}
      {next : Option (ControlledReActRunState × ReActActionProposal)}
      (hretrieval : action.actionType = .planRetrieval)
      (hfollow : Followed ports maxPlanRounds (observing state action) action events next) :
      Stepped rt ports request maxPlanRounds state action
        (.knowledgeObserved (observing state action) action :: events) next
  | evaluated {bound : ControlledReActRunState × ReActActionProposal}
      {decision : PolicyDecisionType} {asked : List RunEvent}
      (hdispatch : Dispatched rt state action bound) (hpolicy : Evaluated ports bound decision asked) :
      Stepped rt ports request maxPlanRounds state action asked none
  | called {bound : ControlledReActRunState × ReActActionProposal} {asked events : List RunEvent}
      {next : Option (ControlledReActRunState × ReActActionProposal)}
      (hdispatch : Dispatched rt state action bound) (hpolicy : Evaluated ports bound .allow asked)
      (hcap : bound.1.toolRecords.length < bound.1.maxToolCalls)
      (hfollow : Followed ports maxPlanRounds (observing bound.1 bound.2) bound.2 events next) :
      Stepped rt ports request maxPlanRounds state action
        (asked ++ .toolObserved (observing bound.1 bound.2) bound.2 :: events) next
  | paused {bound : ControlledReActRunState × ReActActionProposal} {decision : PolicyDecisionType}
      {asked : List RunEvent} (hdispatch : Dispatched rt state action bound)
      (hpolicy : Evaluated ports bound decision asked) :
      Stepped rt ports request maxPlanRounds state action
        (asked ++ [.snapshotSaved (pauseSnapshot rt request bound.1 bound.2)]) none

/-- What an answered result rests on. -/
structure Answers (rt : Runtime) (ports : ControlledReActPorts W T S)
    (state : ControlledReActRunState) (result : WorkflowTemplateExecutionResult) : Prop where
  stages : result.stages = some state
  run : result.runId = state.runId
  intent : result.intentResolution = state.intentResolution
  served : RequirementsServed rt ports state

/-- What a step returns: the loop goes on, or it ends with a result. An answered one
shows nothing more. -/
def StepReturns (rt : Runtime) (ports : ControlledReActPorts W T S)
    (request : ControlledReActStartRequest) (maxPlanRounds : Nat)
    (state : ControlledReActRunState) (action : ReActActionProposal) (step : LoopStep)
    (events : List RunEvent) : Prop :=
  match step with
  | .inl next => Stepped rt ports request maxPlanRounds state action events (some next)
  | .inr result => Stepped rt ports request maxPlanRounds state action events none ∧
      (result.outcome = .answeredWithCitations → events = [] ∧ Answers rt ports state result)

/-! ## Quiet endings -/

theorem writeMemory_silent (state : ControlledReActRunState) (answer : AnswerSynthesisResult) :
    Silent (journaled W T holds) (writeMemory ports state answer) := by
  unfold writeMemory
  split
  · exact Silent.ret
  · refine Silent.andThen Emits.read rfl fun m => ?_
    refine Emits.ite (fun _ => Silent.ret) fun _ => ?_
    refine (callPort_silent _).andThen rfl fun candidate => ?_
    split
    · exact Silent.ret
    · refine (emitTrace_silent ports _ _).andThen rfl fun _ => ?_
      refine Silent.andThen ?_ rfl fun decision => ?_
      · unfold writeMemory.memoryDecision
        split
        · exact Silent.ret
        · refine (callPort_silent _).andThen rfl fun _ => ?_
          exact (emitTrace_silent ports _ _).andThen rfl fun _ => Silent.ret
      · refine Emits.ite (fun _ => emitTrace_silent ports _ _) fun _ => ?_
        refine (ensureAvailable_silent ports).andThen rfl fun _ => ?_
        exact (callPort_silent _).andThen rfl fun _ => emitTrace_silent ports _ _

theorem refusePlanBudgetExhausted_emits (request : ControlledReActStartRequest)
    (action : ReActActionProposal) (state : ControlledReActRunState) :
    Emits (journaled W T holds)
      (refusePlanBudgetExhausted rt knowledge ports request action state)
      (fun result events => NoEvent events ∧ result.outcome = .refusedNoEvidence) NoEvent := by
  refine (taskCompletion_silent state).andThen rfl fun completion => ?_
  exact (writeMemory_silent state _).andThen rfl fun _ => Emits.ret ⟨rfl, rfl⟩

theorem askTask_silent (task : Option WorkflowTaskSnapshot) (stage : InteractionStage)
    (missingFields : List String) (structuredFields : Option (List QuestionField))
    (policy : InteractionPolicy) :
    Silent (journaled W T holds)
      (askTask rt task stage missingFields structuredFields policy : Orchestration W T S Unit) := by
  unfold askTask
  split
  · exact Silent.ret
  · exact Silent.ofExcept.andThen rfl fun _ => modify_silent (fun _ => rfl) fun _ => rfl

theorem askClarification_emits (request : ControlledReActStartRequest)
    (action : ReActActionProposal) (state : ControlledReActRunState)
    (structuredFields : Option (List QuestionField)) :
    Emits (journaled W T holds) (askClarification rt ports request action state structuredFields)
      (fun result events => NoEvent events ∧ result.outcome ≠ .answeredWithCitations) NoEvent := by
  unfold askClarification
  refine Emits.ite (fun _ => ?_) fun _ => Emits.ret ⟨rfl, nofun⟩
  refine (emitTrace_silent ports _ _).andThen rfl fun _ => ?_
  refine Emits.ite (fun _ => Emits.ret ⟨rfl, nofun⟩) fun _ => ?_
  exact (askTask_silent _ _ _ _ _).andThen rfl fun _ => Emits.ret ⟨rfl, nofun⟩

theorem withTaskCompletion_emits {state : ControlledReActRunState}
    {result : WorkflowTemplateExecutionResult} :
    Emits (journaled W T holds) (withTaskCompletion rt knowledge ports state result)
      (fun step events => NoEvent events ∧ step = .inr result) NoEvent :=
  (taskCompletion_silent state).andThen rfl fun _ => Emits.ret ⟨rfl, rfl⟩

/-! ## Answers -/

theorem assuranceViolations_silent (policy : AssurancePolicy) (evidence : List EvidenceChunk)
    (message : Option String) (factValidation : Option ValidationResult) :
    Silent (journaled W T holds)
      (assuranceViolations knowledge ports policy evidence message factValidation) :=
  (callPort_silent _).andThen rfl fun _ => Silent.ofExcept

theorem synthesizeAnswer_silent (state : ControlledReActRunState) (action : ReActActionProposal)
    (context : AnswerEvidenceContext) :
    Silent (journaled W T holds) (synthesizeAnswer rt knowledge ports state action context) := by
  unfold synthesizeAnswer
  refine Emits.ite (fun _ => Silent.ofExcept.andThen rfl fun _ => Silent.ret) fun _ => ?_
  refine Silent.andThen ?_ rfl fun refused => ?_
  · unfold refuseUnassured
    split
    · exact Silent.ret
    · refine (assuranceViolations_silent _ _ _ _).andThen rfl fun violations => ?_
      refine Emits.ite (fun _ => Silent.ret) fun _ => ?_
      exact (emitTrace_silent ports _ _).andThen rfl fun _ => Silent.ret
  · split
    · exact Silent.ret
    · exact (callPort_silent _).andThen rfl fun _ => Silent.ret

theorem refuseUnassuredAnswer_silent (state : ControlledReActRunState)
    (context : AnswerEvidenceContext) (progress : ToolTaskProgress) (answer : AnswerSynthesisResult) :
    Silent (journaled W T holds)
      (refuseUnassuredAnswer knowledge ports state context progress answer) := by
  unfold refuseUnassuredAnswer
  dsimp only
  split
  · exact Silent.ret
  · refine (assuranceViolations_silent _ _ _ _).andThen rfl fun violations => ?_
    refine (emitTrace_silent ports _ _).andThen rfl fun _ => ?_
    exact Emits.ite (fun _ => Silent.ret) fun _ => Silent.ret

theorem refuseUnverifiedGoal_silent (state : ControlledReActRunState)
    (context : AnswerEvidenceContext) (progress : ToolTaskProgress) (answer : AnswerSynthesisResult) :
    Silent (journaled W T holds)
      (refuseUnverifiedGoal rt knowledge ports state context progress answer) := by
  unfold refuseUnverifiedGoal
  split
  · exact Silent.ret
  · refine (taskCompletion_silent state).andThen rfl fun completion => ?_
    refine Silent.andThen (modify_silent (fun _ => rfl) fun _ => rfl) rfl fun _ => ?_
    exact Emits.ite (fun _ => Silent.ret) fun _ => Silent.ret

theorem answerInPolicy_silent (state : ControlledReActRunState) (action : ReActActionProposal)
    (context : AnswerEvidenceContext) (answer : AnswerSynthesisResult) :
    Silent (journaled W T holds) (answerInPolicy ports state action context answer) := by
  unfold answerInPolicy
  split
  · exact Silent.ret
  · refine (callPort_silent _).andThen rfl fun decision => ?_
    exact Emits.ite (fun _ => Silent.ret) fun _ => Silent.ret

theorem admitFinalAnswer_silent (state : ControlledReActRunState) (action : ReActActionProposal)
    (context : AnswerEvidenceContext) (answer : AnswerSynthesisResult) :
    Silent (journaled W T holds) (admitFinalAnswer rt knowledge ports state action context answer) := by
  unfold admitFinalAnswer
  refine Emits.ite (fun _ => Silent.ret) fun _ => ?_
  refine Silent.ofExcept.andThen rfl fun progress => ?_
  refine (ensureAvailable_silent ports).andThen rfl fun _ => ?_
  refine (refuseUnassuredAnswer_silent _ _ _ _).andThen rfl fun unassured => ?_
  split
  · exact Silent.ret
  · refine (refuseUnverifiedGoal_silent _ _ _ _).andThen rfl fun unverified => ?_
    split
    · exact Silent.ret
    · exact answerInPolicy_silent _ _ _ _

/-- **A final answer** is given only once the required queries are served; a gap in
it goes back to a retrieval while a round is left. -/
theorem finalAnswerStep_emits (request : ControlledReActStartRequest)
    (state : ControlledReActRunState) (action : ReActActionProposal) (maxPlanRounds : Nat)
    (hanswer : action.actionType = .generateFinalAnswer) :
    Emits (journaled W T holds)
      (finalAnswerStep rt knowledge ports request state action maxPlanRounds)
      (StepReturns rt ports request maxPlanRounds state action)
      fun events => Stepped rt ports request maxPlanRounds state action events none := by
  refine Emits.ite (fun _ => Emits.ret ⟨.quiet, nofun⟩) fun _ => ?_
  refine (answerEvidenceContext_emits state).quietly .quiet fun context hcontext => ?_
  refine Silent.ofExcept.andThen .quiet fun progress => ?_
  refine Silent.require.andThen .quiet fun _ => ?_
  refine Emits.ofExcept.quietly .quiet fun completion hcompletion => ?_
  refine Emits.ite (fun _ => ?_) fun hcomplete => ?_
  · refine (refusePlanBudgetExhausted_emits _ _ _).quietly .quiet fun result hresult => ?_
    exact Emits.ret ⟨.quiet, fun h => by rw [hresult] at h; cases h⟩
  refine (synthesizeAnswer_silent _ _ _).andThen .quiet fun p => ?_
  obtain ⟨report, answer⟩ := p
  simp only
  split
  · rename_i requirement hgap
    refine (emitTrace_silent ports _ _).andThen .quiet fun _ => Emits.ret ?_
    refine Stepped.gap requirement hanswer ?_
    split at hgap
    · unfold evidenceGap at hgap
      simp only at hgap
      split at hgap
      · rename_i hround
        exact hround.2.1
      · cases hgap
    · cases hgap
  · refine (admitFinalAnswer_silent _ _ _ _).andThen .quiet fun admitted => ?_
    refine (writeMemory_silent _ _).andThen .quiet fun _ => Emits.ret ⟨.quiet, fun _ => ?_⟩
    exact ⟨rfl, rfl, rfl, rfl, completionWith_served hcontext hcompletion (by simpa using hcomplete)⟩

/-! ## Observations -/

/-- Going on from a committed observation. -/
theorem goOn_emits {before observed : ControlledReActRunState} {action : ReActActionProposal}
    {commits saves : List RunEvent} {maxPlanRounds : Nat}
    (hcommit : CommittedTo before action observed commits) (hsave : Checkpointed action observed saves) :
    Emits (journaled W T holds) (goOn rt knowledge ports observed maxPlanRounds)
      (fun step events => ∃ next, step = .inl next ∧
        Followed ports maxPlanRounds before action (commits ++ (saves ++ events)) (some next))
      fun events => Followed ports maxPlanRounds before action (commits ++ (saves ++ events)) none := by
  refine (planNextAction_emits observed maxPlanRounds).bind (fun events he => ?_)
    fun next events hnext => ?_
  · exact .committed hcommit hsave he
  · refine Emits.ret ⟨next, rfl, ?_⟩
    rw [List.append_nil]
    exact .committed hcommit hsave hnext

theorem observeKnowledge_emits (state : ControlledReActRunState) (action : ReActActionProposal) :
    Emits (journaled W T holds) (observeKnowledge rt ports state action)
      (fun observed events => ∃ commits,
        events = .knowledgeObserved (observing state action) action :: commits ∧
          CommittedTo (observing state action) action observed commits)
      fun events => events = [] ∨ events = [.knowledgeObserved (observing state action) action] := by
  refine Silent.ofExcept.andThen (.inl rfl) fun observe => ?_
  refine (log_emits fun _ => by simp).bind (fun _ he => he.elim) fun _ events he => ?_
  rw [he]
  refine (callPort_silent _).andThen (.inr rfl) fun effect => ?_
  refine (commitObservationEffect_emits _ _ _ _).conseq (fun observed commits hc => ?_)
    fun commits hc => ?_
  · exact ⟨commits, rfl, hc⟩
  · rw [hc]
    exact .inr rfl

theorem saveSnapshot_emits {store : SnapshotStorePort S} (hk : store.Keeps holds)
    (snapshot : ControlledReActRunStateSnapshot) (mismatch : ReactError) :
    Emits (journaled W T holds) (saveSnapshot rt store snapshot mismatch)
      (fun _ events => events = [.snapshotSaved snapshot])
      fun events => events = [] ∨ events = [.snapshotSaved snapshot] := by
  refine Silent.ofExcept.andThen (.inl rfl) fun expected => ?_
  refine (publishSnapshot_emits hk snapshot).bind (fun _ he => .inr he) fun reference events he => ?_
  rw [he]
  refine Silent.require.andThen (.inr rfl) fun _ => ?_
  refine (loadSnapshots_silent hk reference).andThen (.inr rfl) fun stored => ?_
  exact Silent.ofExcept.last (fun _ => rfl) (.inr rfl)

theorem saveTaskCheckpoint_emits (hkeep : ports.KeepSnapshots holds) {action : ReActActionProposal}
    (htool : action.actionType = .proposeToolCall) (committed : ControlledReActRunState) :
    Emits (journaled W T holds) (saveTaskCheckpoint rt ports committed)
      (fun _ => Checkpointed action committed) (Checkpointed action committed) := by
  unfold saveTaskCheckpoint
  split
  · rename_i plan store hplan hstore
    have hsaved : Checkpointed action committed [.snapshotSaved (taskCheckpoint committed)] :=
      .saved htool (by rw [hplan]; rfl)
    refine (saveSnapshot_emits (hkeep store hstore) _ _).bind (fun events he => ?_)
      fun binding events he => ?_
    · rcases he with rfl | rfl
      · exact .skipped
      · exact hsaved
    · rw [he]
      exact Silent.last (modify_silent (fun _ => rfl) fun _ => rfl) (fun _ => hsaved) hsaved
  · exact Emits.ret .skipped

/-- **A retrieval** is observed in a round of its own. -/
theorem retrievalStep_emits (request : ControlledReActStartRequest)
    (state : ControlledReActRunState) (action : ReActActionProposal) (maxPlanRounds : Nat)
    (hretrieval : action.actionType = .planRetrieval) :
    Emits (journaled W T holds)
      (retrievalStep rt knowledge ports request state action maxPlanRounds)
      (StepReturns rt ports request maxPlanRounds state action)
      fun events => Stepped rt ports request maxPlanRounds state action events none := by
  refine Silent.andThen ?_ .quiet fun denied => ?_
  · unfold reviewDenies
    split
    · exact Silent.ret
    · exact (callPort_silent _).andThen rfl fun _ => Silent.ret
  refine Emits.ite (fun _ => ?_) fun _ => ?_
  · refine withTaskCompletion_emits.conseq (fun step events h => ?_) fun events h => ?_
    · obtain ⟨rfl, rfl⟩ := h
      exact ⟨.quiet, nofun⟩
    · rw [h]
      exact .quiet
  · refine (observeKnowledge_emits state action).bind (fun events he => ?_)
      fun observed events hobserved => ?_
    · rcases he with rfl | rfl
      · exact .quiet
      · exact .retrieved hretrieval .stopped
    · obtain ⟨commits, rfl, hcommit⟩ := hobserved
      refine (goOn_emits hcommit .skipped).conseq (fun step events h => ?_) fun events h => ?_
      · obtain ⟨next, rfl, hfollow⟩ := h
        exact .retrieved hretrieval hfollow
      · exact .retrieved hretrieval h

/-! ## Tools -/

/-- **A tool call** stays under the cap, and is on the record before it is made. -/
theorem observeTool_emits (hkeep : ports.KeepSnapshots holds) (state : ControlledReActRunState)
    {action : ReActActionProposal} (htool : action.actionType = .proposeToolCall)
    (maxPlanRounds : Nat) :
    Emits (journaled W T holds) (observeTool rt ports state action)
      (fun observed events => state.toolRecords.length < state.maxToolCalls ∧
        ∃ commits saves, events = .toolObserved (observing state action) action :: (commits ++ saves) ∧
          CommittedTo (observing state action) action observed commits ∧
          Checkpointed action observed saves)
      fun events => events = [] ∨ state.toolRecords.length < state.maxToolCalls ∧
        ∃ rest, events = .toolObserved (observing state action) action :: rest ∧
          Followed ports maxPlanRounds (observing state action) action rest none := by
  refine Silent.ofExcept.andThen (.inl rfl) fun observe => ?_
  refine Emits.require.quietly (.inl rfl) fun _ hcap => ?_
  refine (answerEvidenceContext_silent state).andThen (.inl rfl) fun context => ?_
  refine Silent.ofExcept.andThen (.inl rfl) fun progress => ?_
  refine Silent.ofExcept.andThen (.inl rfl) fun _ => ?_
  refine Emits.bind (R := fun _ events => events = [.toolObserved (observing state action) action])
    (E := fun events => events = [.toolObserved (observing state action) action]) ?_
    (fun events he => .inr ⟨hcap, [], he, .stopped⟩) fun effect events he => ?_
  · refine (log_emits fun _ => by simp).bind (fun _ he => he.elim) fun _ events he => ?_
    rw [he]
    exact (callPort_silent _).last (fun _ => rfl) rfl
  rw [he]
  refine Silent.ofExcept.andThen (.inr ⟨hcap, [], rfl, .stopped⟩) fun stamped => ?_
  refine (commitObservationEffect_emits _ _ _ _).bind (fun events hc => ?_)
    fun observed commits hcommit => ?_
  · rw [hc]
    exact .inr ⟨hcap, [], rfl, .stopped⟩
  refine (saveTaskCheckpoint_emits hkeep htool observed).bind (fun saves hsave => ?_)
    fun _ saves hsave => ?_
  · refine .inr ⟨hcap, commits ++ saves, rfl, ?_⟩
    have hfollow : Followed ports maxPlanRounds (observing state action) action
        (commits ++ (saves ++ [])) none := .committed hcommit hsave .stopped
    rw [List.append_nil] at hfollow
    exact hfollow
  · refine Emits.ret ⟨hcap, commits, saves, ?_, hcommit, hsave⟩
    rw [List.append_nil]
    rfl

theorem policyDecision_emits (state : ControlledReActRunState) (action : ReActActionProposal) :
    Emits (journaled W T holds) (policyDecision ports state action)
      (fun decision => Evaluated ports (state, action) decision) NoEvent := by
  unfold policyDecision
  split
  · rename_i hport
    exact Emits.ret (.unasked hport rfl)
  · rename_i policy hport
    refine (callPort_silent _).andThen rfl fun decision => ?_
    refine (log_emits fun _ => by simp).bind (fun _ he => he.elim) fun _ events he => ?_
    rw [he]
    exact Emits.ret (.policy (by rw [hport]; rfl))

theorem pauseForToolApproval_emits (hkeep : ports.KeepSnapshots holds)
    (request : ControlledReActStartRequest) (state : ControlledReActRunState)
    (action : ReActActionProposal) :
    Emits (journaled W T holds) (pauseForToolApproval rt ports request state action)
      (fun result events => events = [.snapshotSaved (pauseSnapshot rt request state action)] ∧
        result.outcome = .waitingForApproval)
      fun events => events = [] ∨
        events = [.snapshotSaved (pauseSnapshot rt request state action)] := by
  refine Emits.ofExcept.quietly (.inl rfl) fun store hstore => ?_
  refine (saveSnapshot_emits (hkeep store (orRaise_ok hstore)) _ _).bind (fun _ he => he)
    fun binding events he => ?_
  rw [he]
  exact Silent.require.andThen (.inr rfl) fun _ => Emits.ret ⟨rfl, rfl⟩

/-- **A dispatched proposal** goes to the policy, and from there to the tool, to an
approval or nowhere. -/
theorem dispatchTool_emits (hkeep : ports.KeepSnapshots holds)
    (request : ControlledReActStartRequest) {state : ControlledReActRunState}
    {action : ReActActionProposal} (parameters : FrozenDict) (maxPlanRounds : Nat)
    (hproposes : action.actionType = .proposeToolCall)
    (hscope : toolScopeViolation state action = false) :
    Emits (journaled W T holds)
      (dispatchTool rt knowledge ports request state { action with parameters } maxPlanRounds)
      (StepReturns rt ports request maxPlanRounds state action)
      fun events => Stepped rt ports request maxPlanRounds state action events none := by
  refine Emits.ofExcept.quietly .quiet fun bound hbound => ?_
  have hdispatch : Dispatched rt state action bound := ⟨hproposes, hscope, parameters, hbound⟩
  obtain ⟨state', action'⟩ := bound
  refine (policyDecision_emits state' action').bind (fun events he => by rw [he]; exact .quiet)
    fun decision asked hasked => ?_
  have hquiet : Stepped rt ports request maxPlanRounds state action asked none :=
    .evaluated hdispatch hasked
  have hpause := @Stepped.paused W T S rt ports request maxPlanRounds state action _ _ _ hdispatch hasked
  cases decision with
  | deny =>
    refine withTaskCompletion_emits.conseq (fun step events h => ?_) fun events h => ?_
    · obtain ⟨rfl, rfl⟩ := h
      rw [List.append_nil]
      exact ⟨hquiet, nofun⟩
    · rw [h, List.append_nil]
      exact hquiet
  | allow =>
    refine (observeTool_emits hkeep state' hdispatch.tool maxPlanRounds).bind (fun events he => ?_)
      fun observed events hobserved => ?_
    · rcases he with rfl | ⟨hcap, rest, rfl, hfollow⟩
      · rw [List.append_nil]
        exact hquiet
      · exact .called hdispatch hasked hcap hfollow
    · obtain ⟨hcap, commits, saves, rfl, hcommit, hsave⟩ := hobserved
      refine (goOn_emits hcommit hsave).conseq (fun step events h => ?_) fun events h => ?_
      · obtain ⟨next, rfl, hfollow⟩ := h
        rw [List.cons_append, List.append_assoc]
        exact .called hdispatch hasked hcap hfollow
      · rw [List.cons_append, List.append_assoc]
        exact .called hdispatch hasked hcap h
  | _ =>
    refine (pauseForToolApproval_emits hkeep request state' action').bind (fun events he => ?_)
      fun result events hresult => ?_
    · rcases he with rfl | rfl
      · rw [List.append_nil]
        exact hquiet
      · exact hpause
    · obtain ⟨rfl, houtcome⟩ := hresult
      refine Emits.ret ⟨?_, fun h => by rw [houtcome] at h; cases h⟩
      rw [List.append_nil]
      exact hpause

theorem toolUserContext_ok {state : ControlledReActRunState} {action action' : ReActActionProposal}
    {fields : List QuestionField} (h : toolUserContext state action = .ok (action', fields)) :
    ∃ parameters, action' = { action with parameters } := by
  unfold toolUserContext at h
  split at h
  · cases h
    exact ⟨action.parameters, rfl⟩
  · obtain ⟨c, _, h₁⟩ := bind_ok h
    cases pure_ok h₁
    exact ⟨c.parameters, rfl⟩

/-- **A tool proposal** outside the round's scope goes nowhere. -/
theorem toolStep_emits (hkeep : ports.KeepSnapshots holds) (request : ControlledReActStartRequest)
    (state : ControlledReActRunState) (action : ReActActionProposal) (maxPlanRounds : Nat)
    (hproposes : action.actionType = .proposeToolCall) :
    Emits (journaled W T holds) (toolStep rt knowledge ports request state action maxPlanRounds)
      (StepReturns rt ports request maxPlanRounds state action)
      fun events => Stepped rt ports request maxPlanRounds state action events none := by
  refine Emits.ite (fun _ => ?_) fun hscope => ?_
  · refine withTaskCompletion_emits.conseq (fun step events h => ?_) fun events h => ?_
    · obtain ⟨rfl, rfl⟩ := h
      exact ⟨.quiet, nofun⟩
    · rw [h]
      exact .quiet
  have hscope : toolScopeViolation state action = false := by simpa using hscope
  refine Emits.ite (fun _ => ?_) fun _ => dispatchTool_emits hkeep request _ _ hproposes hscope
  refine Emits.ofExcept.quietly .quiet fun p hcontext => ?_
  obtain ⟨action', fields⟩ := p
  obtain ⟨parameters, rfl⟩ := toolUserContext_ok hcontext
  refine Emits.ite (fun _ => ?_) fun _ => dispatchTool_emits hkeep request _ _ hproposes hscope
  refine (askClarification_emits _ _ _ _).quietly .quiet fun result hresult => ?_
  exact Emits.ret ⟨.quiet, fun h => absurd h hresult⟩

/-- **Every step of the loop** is one of those. -/
theorem loopStep_emits (hkeep : ports.KeepSnapshots holds) (request : ControlledReActStartRequest)
    (maxPlanRounds : Nat) (current : ControlledReActRunState × ReActActionProposal) :
    Emits (journaled W T holds) (loopStep rt knowledge ports request maxPlanRounds current)
      (StepReturns rt ports request maxPlanRounds current.1 current.2)
      fun events => Stepped rt ports request maxPlanRounds current.1 current.2 events none := by
  obtain ⟨state, action⟩ := current
  unfold loopStep
  dsimp only
  split
  · refine (refusePlanBudgetExhausted_emits _ _ _).quietly .quiet fun result hresult => ?_
    exact Emits.ret ⟨.quiet, fun h => by rw [hresult] at h; cases h⟩
  · refine (askClarification_emits _ _ _ _).quietly .quiet fun result hresult => ?_
    refine withTaskCompletion_emits.conseq (fun step events h => ?_) fun events h => ?_
    · obtain ⟨rfl, rfl⟩ := h
      exact ⟨.quiet, fun h => absurd h hresult⟩
    · rw [h]
      exact .quiet
  · rename_i htype
    exact finalAnswerStep_emits request state action maxPlanRounds htype
  · rename_i htype
    exact retrievalStep_emits request state action maxPlanRounds htype
  · rename_i htype
    exact toolStep_emits hkeep request state action maxPlanRounds htype
  · exact Emits.raise .quiet

end ControlledReActOrchestrator

end ProofAgent
