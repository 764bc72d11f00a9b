import ProofAgent.ControlledReact.Steps

/-! # The phases of a run

A call of the orchestrator enters a run and moves it from phase to phase: an action
is chosen under a scope, evaluated or retrieved, observed, and committed. What a
call did is a trail of such moves, wherever it stopped. -/
namespace ProofAgent

open Base ControlledReActOrchestrator

/-- Where a run stands. The limit is the one on its rounds. -/
inductive RunPhase where
  | idle
  | loaded (snapshot : ControlledReActRunStateSnapshot)
  | decided (request : ControlledReActResumeRequest) (state : ControlledReActRunState)
      (action : ReActActionProposal)
  | planning (limit : Nat) (state : ControlledReActRunState)
  | choosing (limit : Nat) (state : ControlledReActRunState)
      (scope : Option EffectiveToolProposalScope)
  | acting (limit : Nat) (state : ControlledReActRunState) (action : ReActActionProposal)
  | evaluated (limit : Nat) (bound : ControlledReActRunState × ReActActionProposal)
      (decision : PolicyDecisionType)
  | observed (limit : Nat) (observing : ControlledReActRunState) (action : ReActActionProposal)
  | committed (limit : Nat) (state : ControlledReActRunState) (action : ReActActionProposal)

/-- The state of a phase. -/
def RunPhase.state : RunPhase → Option ControlledReActRunState
  | .idle => none
  | .loaded snapshot => some snapshot.state
  | .decided _ state _ | .planning _ state | .choosing _ state _ | .acting _ state _ |
    .observed _ state _ | .committed _ state _ => some state
  | .evaluated _ bound _ => some bound.1

variable {W T S : Type}

/-- **One move** inside a call. -/
inductive RunMove (rt : Runtime) (ports : ControlledReActPorts W T S) :
    RunPhase → List RunEvent → RunPhase → Prop
  | restarted {snapshot : ControlledReActRunStateSnapshot} (limit : Nat) :
      RunMove rt ports (.loaded snapshot) [] (.planning limit snapshot.state)
  | decided {snapshot : ControlledReActRunStateSnapshot} {request : ControlledReActResumeRequest}
      {action : ReActActionProposal}
      (hpending : pendingApproval request snapshot.state = .ok action) :
      RunMove rt ports (.loaded snapshot) [.approvalDecided request snapshot.state]
        (.decided request snapshot.state action)
  | approved {request : ControlledReActResumeRequest} {state : ControlledReActRunState}
      {action : ReActActionProposal} (happroved : request.approved = true)
      (hintegrity : approvedToolIntegrityMismatch rt state action = false) :
      RunMove rt ports (.decided request state action)
        [.toolObserved (nextRound state state.actionHistory) action]
        (.observed request.maxPlanRounds (nextRound state state.actionHistory) action)
  | denied {request : ControlledReActResumeRequest} {state : ControlledReActRunState}
      {action : ReActActionProposal} (hdenied : request.approved = false) :
      RunMove rt ports (.decided request state action) []
        (.observed request.maxPlanRounds (nextRound state state.actionHistory) action)
  | resolved {limit : Nat} {state : ControlledReActRunState} (scope : EffectiveToolProposalScope)
      (hport : ports.toolProposalScope.isSome = true) :
      RunMove rt ports (.planning limit state) [.scopeResolved state scope]
        (.choosing limit state (some scope))
  | unscoped {limit : Nat} {state : ControlledReActRunState}
      (hport : ports.toolProposalScope = none) :
      RunMove rt ports (.planning limit state) [] (.choosing limit state none)
  | chosen {limit : Nat} {state : ControlledReActRunState}
      {scope : Option EffectiveToolProposalScope} (eligible : List ReActActionType)
      (action : ReActActionProposal)
      (hround : action.actionType.observes = true → state.planRound < limit) :
      RunMove rt ports (.choosing limit state scope) []
        (.acting limit (state.planned scope eligible) action)
  | gap {limit : Nat} {state : ControlledReActRunState} {action : ReActActionProposal}
      (requirement : RequiredRetrieval) (hanswer : action.actionType = .generateFinalAnswer)
      (hround : state.planRound < limit) :
      RunMove rt ports (.acting limit state action) []
        (.acting limit state (pendingRetrievalAction action requirement state.planRound))
  | retrieved {limit : Nat} {state : ControlledReActRunState} {action : ReActActionProposal}
      (hretrieval : action.actionType = .planRetrieval) :
      RunMove rt ports (.acting limit state action)
        [.knowledgeObserved (observing state action) action]
        (.observed limit (observing state action) action)
  | evaluated {limit : Nat} {state : ControlledReActRunState} {action : ReActActionProposal}
      {bound : ControlledReActRunState × ReActActionProposal} {decision : PolicyDecisionType}
      {asked : List RunEvent} (hdispatch : Dispatched rt state action bound)
      (hpolicy : Evaluated ports bound decision asked) :
      RunMove rt ports (.acting limit state action) asked (.evaluated limit bound decision)
  | called {limit : Nat} {bound : ControlledReActRunState × ReActActionProposal}
      (hcap : bound.1.toolRecords.length < bound.1.maxToolCalls) :
      RunMove rt ports (.evaluated limit bound .allow)
        [.toolObserved (observing bound.1 bound.2) bound.2]
        (.observed limit (observing bound.1 bound.2) bound.2)
  | paused {limit : Nat} {bound : ControlledReActRunState × ReActActionProposal}
      {decision : PolicyDecisionType} (request : ControlledReActStartRequest) :
      RunMove rt ports (.evaluated limit bound decision)
        [.snapshotSaved (pauseSnapshot rt request bound.1 bound.2)] .idle
  | recorded {limit : Nat} {observing next : ControlledReActRunState} {action : ReActActionProposal}
      {commits : List RunEvent} (hcommit : CommittedTo observing action next commits) :
      RunMove rt ports (.observed limit observing action) commits (.committed limit next action)
  | checkpointed {limit : Nat} {state : ControlledReActRunState} {action : ReActActionProposal}
      {saves : List RunEvent} (hsave : Checkpointed action state saves) :
      RunMove rt ports (.committed limit state action) saves (.planning limit state)

/-- What happened inside a call. -/
abbrev RunTrail (rt : Runtime) (ports : ControlledReActPorts W T S) :
    RunPhase → List RunEvent → RunPhase → Prop :=
  Trail (RunMove rt ports)

namespace ControlledReActOrchestrator

variable {rt : Runtime} {knowledge : RunKnowledge} {ports : ControlledReActPorts W T S}
  {limit : Nat} {state : ControlledReActRunState} {action : ReActActionProposal}
  {events : List RunEvent} {next : Option (ControlledReActRunState × ReActActionProposal)}

/-- The phase in which the loop goes on, if it does. -/
def ActsOn (limit : Nat) : Option (ControlledReActRunState × ReActActionProposal) → RunPhase → Prop
  | none, _ => True
  | some (state, action), p => p = .acting limit state action

theorem Planned.trail (rt : Runtime) (h : Planned ports limit state events next) :
    ∃ p, RunTrail rt ports (.planning limit state) events p ∧ ActsOn limit next p := by
  cases h with
  | stopped => exact ⟨_, .refl, trivial⟩
  | resolved scope hport => exact ⟨_, .one (.resolved scope hport), trivial⟩
  | chosen scope eligible action hscope hround =>
    refine ⟨_, ?_, rfl⟩
    cases scope with
    | none =>
      have hport : ports.toolProposalScope = none := by simpa using hscope.symm
      exact .quiet (.one (.unscoped hport)) (.chosen eligible action hround)
    | some scope =>
      exact .quiet (.one (.resolved scope (by simpa using hscope.symm)))
        (.chosen eligible action hround)

theorem Followed.trail (rt : Runtime) {before : ControlledReActRunState}
    (h : Followed ports limit before action events next) :
    ∃ p, RunTrail rt ports (.observed limit before action) events p ∧ ActsOn limit next p := by
  cases h with
  | stopped => exact ⟨_, .refl, trivial⟩
  | committed hcommit hsave hplan =>
    obtain ⟨p, htrail, hacts⟩ := hplan.trail rt
    exact ⟨p, .after (.recorded hcommit) (.after (.checkpointed hsave) htrail), hacts⟩

theorem Stepped.trail {request : ControlledReActStartRequest}
    (h : Stepped rt ports request limit state action events next) :
    ∃ p, RunTrail rt ports (.acting limit state action) events p ∧ ActsOn limit next p := by
  cases h with
  | quiet => exact ⟨_, .refl, trivial⟩
  | gap requirement hanswer hround => exact ⟨_, .one (.gap requirement hanswer hround), rfl⟩
  | retrieved hretrieval hfollow =>
    obtain ⟨p, htrail, hacts⟩ := hfollow.trail rt
    exact ⟨p, .after (.retrieved hretrieval) htrail, hacts⟩
  | evaluated hdispatch hpolicy => exact ⟨_, .one (.evaluated hdispatch hpolicy), trivial⟩
  | called hdispatch hpolicy hcap hfollow =>
    obtain ⟨p, htrail, hacts⟩ := hfollow.trail rt
    exact ⟨p, .after (.evaluated hdispatch hpolicy) (.after (.called hcap) htrail), hacts⟩
  | paused hdispatch hpolicy =>
    exact ⟨_, .after (.evaluated hdispatch hpolicy) (.one (.paused request)), trivial⟩

/-! ## A call is a trail -/

variable {holds : S → ControlledReActRunStateSnapshot → Prop}

/-- An answered result is given in the phase whose state it rests on. -/
def GivenIn (rt : Runtime) (ports : ControlledReActPorts W T S) (p : RunPhase)
    (r : Option WorkflowTemplateExecutionResult) : Prop :=
  ∀ result, r = some result → result.outcome = .answeredWithCitations →
    ∃ limit state action, p = .acting limit state action ∧ Answers rt ports state result

/-- What a call returns, from a phase on. -/
def Returns (rt : Runtime) (ports : ControlledReActPorts W T S) (p : RunPhase)
    (r : Option WorkflowTemplateExecutionResult) (events : List RunEvent) : Prop :=
  ∃ q, RunTrail rt ports p events q ∧ GivenIn rt ports q r

/-- What a call that raises did, from a phase on. -/
def Stops (rt : Runtime) (ports : ControlledReActPorts W T S) (p : RunPhase)
    (events : List RunEvent) : Prop :=
  ∃ q, RunTrail rt ports p events q

theorem GivenIn.none (p : RunPhase) : GivenIn rt ports p none := by
  intro result h
  cases h

theorem Returns.after {p q : RunPhase} {r : Option WorkflowTemplateExecutionResult}
    {before : List RunEvent} (htrail : RunTrail rt ports p before q) (h : Returns rt ports q r events) :
    Returns rt ports p r (before ++ events) := by
  obtain ⟨q', htrail', hgiven⟩ := h
  exact ⟨q', htrail.trans htrail', hgiven⟩

theorem Stops.after {p q : RunPhase} {before : List RunEvent}
    (htrail : RunTrail rt ports p before q) (h : Stops rt ports q events) :
    Stops rt ports p (before ++ events) := by
  obtain ⟨q', htrail'⟩ := h
  exact ⟨q', htrail.trans htrail'⟩

/-- **The loop** takes step after step. -/
theorem runLoop_emits (hkeep : ports.KeepSnapshots holds) (fuel : Nat)
    (request : ControlledReActStartRequest) (limit : Nat)
    (current : ControlledReActRunState × ReActActionProposal) :
    Emits (journaled W T holds) (runLoop rt knowledge ports fuel request limit current)
      (Returns rt ports (.acting limit current.1 current.2))
      (Stops rt ports (.acting limit current.1 current.2)) := by
  unfold runLoop
  refine Emits.conseq (Emits.loop
    (I := fun c before => RunTrail rt ports (.acting limit current.1 current.2) before
      (.acting limit c.1 c.2))
    (F := fun result => Returns rt ports (.acting limit current.1 current.2) (some result))
    (fun c before hbefore => ?_) fuel current [] .refl) (fun r events h => ?_) fun events h => h
  · refine (loopStep_emits hkeep request limit c).conseq (fun step events h => ?_) fun events h => ?_
    · cases step with
      | inl c' =>
        obtain ⟨p, htrail, hacts⟩ := Stepped.trail h
        cases hacts
        exact hbefore.trans htrail
      | inr result =>
        obtain ⟨hstep, hanswer⟩ := h
        obtain ⟨p, htrail, _⟩ := hstep.trail
        by_cases houtcome : result.outcome = .answeredWithCitations
        · obtain ⟨rfl, hanswers⟩ := hanswer houtcome
          refine ⟨_, hbefore.trans .refl, ?_⟩
          rintro _ ⟨⟩ _
          exact ⟨limit, c.1, c.2, rfl, hanswers⟩
        · refine ⟨p, hbefore.trans htrail, ?_⟩
          rintro _ ⟨⟩ h
          exact absurd h houtcome
    · obtain ⟨p, htrail, _⟩ := h.trail
      exact ⟨p, hbefore.trans htrail⟩
  · rcases h with ⟨c, rfl, htrail⟩ | ⟨result, rfl, hreturns⟩
    · exact ⟨_, htrail, .none _⟩
    · exact hreturns

theorem planAndRun_emits (hkeep : ports.KeepSnapshots holds) (fuel : Nat)
    (request : ControlledReActStartRequest) (state : ControlledReActRunState) (limit : Nat) :
    Emits (journaled W T holds) (planAndRun rt knowledge ports fuel request state limit)
      (Returns rt ports (.planning limit state)) (Stops rt ports (.planning limit state)) := by
  refine (planNextAction_emits state limit).bind (fun events h => ?_) fun current events h => ?_
  · obtain ⟨p, htrail, _⟩ := h.trail rt
    exact ⟨p, htrail⟩
  · obtain ⟨p, htrail, hacts⟩ := h.trail rt
    cases hacts
    exact (runLoop_emits hkeep fuel request limit current).conseq
      (fun r events' h => h.after htrail) fun events' h => h.after htrail

end ControlledReActOrchestrator

end ProofAgent
