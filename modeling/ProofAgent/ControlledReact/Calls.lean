import ProofAgent.ControlledReact.Phases

/-! # The trails of the orchestrator's calls

A start enters a run with a fresh state or with a checkpoint that it loaded; a
resume enters it with the snapshot that it loaded. -/
namespace ProofAgent

open Base

/-- A state in which nothing has been done. -/
structure ControlledReActRunState.Fresh (s : ControlledReActRunState) : Prop where
  records : s.observationRecords = []
  history : s.actionHistory = []
  round : s.planRound = 0

namespace ControlledReActOrchestrator

open Orchestration

variable {W T S : Type} {rt : Runtime} {knowledge : RunKnowledge} {ports : ControlledReActPorts W T S}
  {holds : S → ControlledReActRunStateSnapshot → Prop} {events : List RunEvent}

/-- The state that a start plans from. -/
inductive Entered : List RunEvent → ControlledReActRunState → Prop
  | fresh {state : ControlledReActRunState} : state.Fresh → Entered [] state
  | restarted (snapshot : ControlledReActRunStateSnapshot) :
      Entered [.snapshotLoaded snapshot] snapshot.state

/-- What a start did, and where it stopped. -/
inductive Started (rt : Runtime) (ports : ControlledReActPorts W T S)
    (request : ControlledReActStartRequest) : List RunEvent → RunPhase → Prop
  | refused : Started rt ports request [] .idle
  | ran {before rest : List RunEvent} {state : ControlledReActRunState} {p : RunPhase}
      (hentered : Entered before state)
      (htrail : RunTrail rt ports (.planning request.maxPlanRounds state) rest p) :
      Started rt ports request (before ++ rest) p

/-- What a resume did, and where it stopped. -/
inductive Resumed (rt : Runtime) (ports : ControlledReActPorts W T S) :
    List RunEvent → RunPhase → Prop
  | refused : Resumed rt ports [] .idle
  | ran {snapshot : ControlledReActRunStateSnapshot} {rest : List RunEvent} {p : RunPhase}
      (htrail : RunTrail rt ports (.loaded snapshot) rest p) :
      Resumed rt ports (.snapshotLoaded snapshot :: rest) p

/-! ## Before the loop -/

theorem startState_fresh {request : ControlledReActStartRequest} {state : ControlledReActRunState}
    (h : startState ports request = .ok state) : state.Fresh := by
  unfold startState at h
  dsimp only at h
  by_cases hlimits : request.maxToolCalls ≤ 8 ∧
      (if request.toolTaskPlan.isSome then request.maxPlanRounds else 4) ≤ 64
  · rw [dif_pos hlimits] at h
    cases h
    exact ⟨rfl, rfl, rfl⟩
  · rw [dif_neg hlimits] at h
    cases h

theorem resolveExecutionPlan_silent (state : ControlledReActRunState) :
    Silent (journaled W T holds) (resolveExecutionPlan rt ports state) := by
  refine Silent.ofExcept.andThen rfl fun requirements => ?_
  refine Silent.ofExcept.andThen rfl fun plan => ?_
  refine Silent.andThen (modify_silent (fun _ => rfl) fun _ => rfl) rfl fun _ => ?_
  exact Emits.ite (fun _ => emitTrace_silent ports _ _) fun _ => Silent.ret

theorem preparePreLoopState_emits {state : ControlledReActRunState} (hfresh : state.Fresh) :
    Emits (journaled W T holds) (preparePreLoopState rt ports state)
      (fun prepared events => NoEvent events ∧ prepared.Fresh) NoEvent := by
  refine Emits.quietly (P := ControlledReActRunState.Fresh) ?_ rfl fun resolved hresolved => ?_
  · unfold resolveIntent
    split
    · exact Emits.ret ⟨rfl, hfresh⟩
    · refine (callPort_silent _).andThen rfl fun p => ?_
      refine (emitTrace_silent ports _ _).andThen rfl fun _ => ?_
      refine (emitTrace_silent ports _ _).andThen rfl fun _ => ?_
      exact Emits.ret ⟨rfl, hfresh.records, hfresh.history, hfresh.round⟩
  refine Emits.ofExcept.quietly rfl fun admitted hadmitted => ?_
  have hadmitted : admitted.Fresh := by
    unfold admitTaskIntent at hadmitted
    split at hadmitted
    · cases hadmitted
      exact hresolved
    · obtain ⟨intent, _, h⟩ := bind_ok hadmitted
      cases pure_ok h
      exact ⟨hresolved.records, hresolved.history, hresolved.round⟩
  refine (resolveExecutionPlan_silent _).andThen rfl fun _ => ?_
  unfold readMemory
  split
  · exact Emits.ret ⟨rfl, hadmitted⟩
  · refine Silent.andThen Emits.read rfl fun m => ?_
    refine Emits.ite (fun _ => Emits.ret ⟨rfl, hadmitted⟩) fun _ => ?_
    refine (callPort_silent _).andThen rfl fun memoryContext => ?_
    exact Emits.ret ⟨rfl, hadmitted.records, hadmitted.history, hadmitted.round⟩

/-- A snapshot is on the record once it is loaded, verified or not. -/
theorem loadSnapshot_emits {store : SnapshotStorePort S} (hk : store.Keeps holds)
    (reference : String) :
    Emits (journaled W T holds) (loadSnapshot rt store reference)
      (fun snapshot events => events = [.snapshotLoaded snapshot])
      fun events => events = [] ∨ ∃ snapshot, events = [.snapshotLoaded snapshot] := by
  refine (fetchSnapshot_emits hk reference).bind (fun _ he => .inl he) fun snapshot events he => ?_
  rw [he]
  exact Silent.ofExcept.andThen (.inr ⟨snapshot, rfl⟩) fun _ => Emits.ret rfl

theorem restoreCheckpoint_emits (hkeep : ports.KeepSnapshots holds) (state : ControlledReActRunState)
    (reference : String) :
    Emits (journaled W T holds) (restoreCheckpoint rt knowledge ports state reference)
      (fun restored events => Entered events restored)
      fun events => events = [] ∨ ∃ snapshot, events = [.snapshotLoaded snapshot] := by
  refine Emits.ofExcept.quietly (.inl rfl) fun store hstore => ?_
  refine Silent.require.andThen (.inl rfl) fun _ => ?_
  refine (loadSnapshot_emits (hkeep store (orRaise_ok hstore)) reference).bind (fun _ he => he)
    fun snapshot events he => ?_
  rw [he]
  have hstop : [RunEvent.snapshotLoaded snapshot] ++ [] = [] ∨
      ∃ s, [RunEvent.snapshotLoaded snapshot] ++ [] = [.snapshotLoaded s] := .inr ⟨snapshot, rfl⟩
  refine Silent.require.andThen hstop fun _ => ?_
  refine (taskCompletion_silent _).andThen hstop fun _ => ?_
  refine (answerEvidenceContext_silent _).andThen hstop fun context => ?_
  refine Silent.ofExcept.andThen hstop fun _ => ?_
  refine Silent.andThen (modify_silent (fun _ => rfl) fun _ => rfl) hstop fun _ => ?_
  exact (resolveExecutionPlan_silent _).andThen hstop fun _ => Emits.ret (.restarted snapshot)

/-- What stops before the first plan. -/
theorem Started.entering {request : ControlledReActStartRequest}
    (h : events = [] ∨ ∃ snapshot, events = [.snapshotLoaded snapshot]) :
    ∃ p, Started rt ports request events p := by
  rcases h with rfl | ⟨snapshot, rfl⟩
  · exact ⟨_, .refused⟩
  · exact ⟨_, .ran (.restarted snapshot) .refl⟩

theorem enterLoop_emits (hkeep : ports.KeepSnapshots holds) (request : ControlledReActStartRequest) :
    Emits (journaled W T holds) (enterLoop rt knowledge ports request)
      (fun entered events => match entered with
        | .inl state => Entered events state
        | .inr result => events = [] ∧ result.outcome ≠ .answeredWithCitations)
      fun events => events = [] ∨ ∃ snapshot, events = [.snapshotLoaded snapshot] := by
  refine Emits.ofExcept.quietly (.inl rfl) fun state hstate => ?_
  refine Silent.ofExcept.andThen (.inl rfl) fun question => ?_
  split
  · refine (askClarification_emits _ _ _ _).quietly (.inl rfl) fun result hresult => ?_
    exact Emits.ret ⟨rfl, hresult⟩
  · refine (restoreCheckpoint_emits hkeep state _).bind (fun _ he => he) fun restored events h => ?_
    refine Emits.ret ?_
    rw [List.append_nil]
    exact h
  · refine Emits.attempt (E := NoEvent) ?_ fun e events he => ?_
    · refine (preparePreLoopState_emits (startState_fresh hstate)).quietly rfl fun prepared h => ?_
      exact Emits.ret (.fresh h)
    · rw [he]
      refine Emits.ite (fun _ => ?_) fun _ => Emits.raise (.inl rfl)
      exact (emitTrace_silent ports _ _).andThen (.inl rfl) fun _ => Emits.ret ⟨rfl, nofun⟩

/-! ## Start -/

theorem startRun_emits (hkeep : ports.KeepSnapshots holds) (fuel : Nat)
    (request : ControlledReActStartRequest) :
    Emits (journaled W T holds) (startRun rt knowledge ports fuel request)
      (fun r events => ∃ p, Started rt ports request events p ∧ GivenIn rt ports p r)
      fun events => ∃ p, Started rt ports request events p := by
  refine (enterLoop_emits hkeep request).bind (fun events he => Started.entering he)
    fun entered events h => ?_
  cases entered with
  | inr result =>
    obtain ⟨rfl, houtcome⟩ := h
    refine Emits.ret ⟨_, .refused, ?_⟩
    rintro _ ⟨⟩ h
    exact absurd h houtcome
  | inl state =>
    refine (planAndRun_emits hkeep fuel request state _).conseq (fun r rest hr => ?_) fun rest hr => ?_
    · obtain ⟨p, htrail, hgiven⟩ := hr
      exact ⟨p, .ran h htrail, hgiven⟩
    · obtain ⟨p, htrail⟩ := hr
      exact ⟨p, .ran h htrail⟩

theorem startInBudget_emits (hkeep : ports.KeepSnapshots holds) (fuel : Nat)
    (request : ControlledReActStartRequest) :
    Emits (journaled W T holds) (startInBudget rt knowledge ports fuel request)
      (fun r events => ∃ p, Started rt ports request events p ∧ GivenIn rt ports p r)
      fun events => ∃ p, Started rt ports request events p := by
  refine Emits.attempt (E := fun events => ∃ p, Started rt ports request events p) ?_
    fun e events he => ?_
  · refine (ensureAvailable_silent ports).andThen ⟨_, .refused⟩ fun _ => ?_
    refine (startRun_emits hkeep fuel request).bind (fun _ he => he) fun r events h => ?_
    obtain ⟨p, hstarted, hgiven⟩ := h
    have hstop : ∃ p, Started rt ports request (events ++ []) p := by
      rw [List.append_nil]
      exact ⟨p, hstarted⟩
    refine (ensureAvailable_silent ports).andThen hstop fun _ => Emits.ret ?_
    rw [List.append_nil]
    exact ⟨p, hstarted, hgiven⟩
  · have hstop : ∃ p, Started rt ports request (events ++ []) p := by
      rw [List.append_nil]
      exact he
    split
    · refine Silent.andThen (modify_silent (fun _ => rfl) fun _ => rfl) hstop fun _ => ?_
      refine (emitTrace_silent ports _ _).andThen hstop fun _ => Emits.ret ?_
      obtain ⟨p, hp⟩ := hstop
      refine ⟨p, hp, ?_⟩
      rintro _ ⟨⟩ houtcome
      cases houtcome
    · exact Emits.raise hstop

theorem taskUpdate_silent (task : WorkflowTaskSnapshot) (result : WorkflowTemplateExecutionResult) :
    Silent (journaled W T holds) (taskUpdate rt knowledge ports task result) := by
  refine Silent.andThen ?_ rfl fun _ => ?_
  · unfold deferQuestion
    refine Emits.ite (fun _ => ?_) fun _ => Silent.ret
    exact Silent.ofExcept.andThen rfl fun _ => modify_silent (fun _ => rfl) fun _ => rfl
  refine Silent.andThen Emits.read rfl fun m => ?_
  refine Silent.andThen ?_ rfl fun usage => Silent.ret
  unfold usedBudget
  split
  · exact Silent.ret
  · exact (callPort_silent _).andThen rfl fun _ => Silent.ofExcept

/-- What finishing a start adds to a result leaves its answer as it was. -/
structure Finishes (result finished : WorkflowTemplateExecutionResult) : Prop where
  outcome : finished.outcome = result.outcome
  stages : finished.stages = result.stages
  run : finished.runId = result.runId
  intent : finished.intentResolution = result.intentResolution

theorem Finishes.givenIn {result finished : WorkflowTemplateExecutionResult} {p : RunPhase}
    (h : Finishes result finished) (hgiven : GivenIn rt ports p (some result)) :
    GivenIn rt ports p (some finished) := by
  rintro _ ⟨⟩ houtcome
  obtain ⟨limit, state, action, hp, hanswers⟩ := hgiven result rfl (h.outcome.symm.trans houtcome)
  exact ⟨limit, state, action, hp, h.stages.trans hanswers.stages, h.run.trans hanswers.run,
    h.intent.trans hanswers.intent, hanswers.served⟩

theorem finishStart_emits (request : ControlledReActStartRequest)
    (result : WorkflowTemplateExecutionResult) :
    Emits (journaled W T holds) (finishStart rt knowledge ports request result)
      (fun finished events => NoEvent events ∧ Finishes result finished) NoEvent := by
  refine Silent.andThen Emits.read rfl fun m => ?_
  dsimp only
  have hplanned : Finishes result
      (if hasPolicies ports then { result with executionPlan := some m.lastExecutionPlan }
        else result) := by
    split
    · exact ⟨rfl, rfl, rfl, rfl⟩
    · exact ⟨rfl, rfl, rfl, rfl⟩
  split
  · exact Emits.ret ⟨rfl, hplanned⟩
  · refine (taskUpdate_silent _ _).andThen rfl fun update => Emits.ret ⟨rfl, ?_⟩
    exact ⟨hplanned.outcome, hplanned.stages, hplanned.run, hplanned.intent⟩

/-- **A start** is a trail from a fresh state or from a checkpoint. -/
theorem start_emits (hkeep : ports.KeepSnapshots holds) (fuel : Nat)
    (request : ControlledReActStartRequest) :
    Emits (journaled W T holds) (start rt knowledge ports fuel request)
      (fun r events => ∃ p, Started rt ports request events p ∧ GivenIn rt ports p r)
      fun events => ∃ p, Started rt ports request events p := by
  refine (whenPort_silent fun _ => callPort_silent _).andThen ⟨_, .refused⟩ fun _ => ?_
  refine (startInBudget_emits hkeep fuel request).bind (fun _ he => he) fun r events h => ?_
  obtain ⟨p, hstarted, hgiven⟩ := h
  have hstop : Started rt ports request (events ++ []) p := by
    rw [List.append_nil]
    exact hstarted
  split
  · exact Emits.ret ⟨p, hstop, .none p⟩
  · refine (finishStart_emits _ _).quietly ⟨p, hstop⟩ fun finished hfinishes => ?_
    exact Emits.ret ⟨p, hstop, hfinishes.givenIn hgiven⟩

/-! ## Resume -/

theorem Returns.of_quiet {p : RunPhase} {result : WorkflowTemplateExecutionResult}
    (houtcome : result.outcome ≠ .answeredWithCitations) : Returns rt ports p (some result) [] := by
  refine ⟨p, .refl, ?_⟩
  rintro _ ⟨⟩ h
  exact absurd h houtcome

/-- Going on from the commit of an approval or a denial. -/
theorem resumeLoop_emits (hkeep : ports.KeepSnapshots holds) (fuel : Nat)
    {before observed : ControlledReActRunState} {action : ReActActionProposal}
    {commits : List RunEvent} (limit : Nat) (hcommit : CommittedTo before action observed commits) :
    Emits (journaled W T holds) (resumeLoop rt knowledge ports fuel observed limit)
      (fun r events => Returns rt ports (.observed limit before action) r (commits ++ events))
      fun events => Stops rt ports (.observed limit before action) (commits ++ events) := by
  have htrail : RunTrail rt ports (.observed limit before action) commits (.planning limit observed) :=
    .quiet (.one (.recorded hcommit)) (.checkpointed .skipped)
  exact (planAndRun_emits hkeep fuel _ observed limit).conseq (fun r events h => h.after htrail)
    fun events h => h.after htrail

theorem observeApprovedTool_emits (observe : ObservationPort W) (state : ControlledReActRunState)
    (action : ReActActionProposal) :
    Emits (journaled W T holds) (observeApprovedTool rt ports observe state action)
      (fun observed events => ∃ commits,
        events = .toolObserved (nextRound state state.actionHistory) action :: commits ∧
          CommittedTo (nextRound state state.actionHistory) action observed commits)
      fun events => events = [] ∨
        events = [.toolObserved (nextRound state state.actionHistory) action] := by
  refine Emits.bind
    (R := fun _ events => events = [.toolObserved (nextRound state state.actionHistory) action])
    (E := fun events => events = [.toolObserved (nextRound state state.actionHistory) action])
    ?_ (fun _ he => .inr he) fun effect events he => ?_
  · refine (log_emits fun _ => by simp).bind (fun _ he => he.elim) fun _ events he => ?_
    rw [he]
    exact (callPort_silent _).last (fun _ => rfl) rfl
  · rw [he]
    refine (commitObservationEffect_emits _ _ _ _).conseq (fun observed commits hc => ?_)
      fun events he => ?_
    · exact ⟨commits, rfl, hc⟩
    · rw [he]
      exact .inr rfl

/-- **A decision** calls the approved tool, or records that it was denied. -/
theorem decideApproval_emits (hkeep : ports.KeepSnapshots holds) (fuel : Nat)
    (request : ControlledReActResumeRequest) (state : ControlledReActRunState)
    (action : ReActActionProposal) :
    Emits (journaled W T holds) (decideApproval rt knowledge ports fuel request state action)
      (Returns rt ports (.decided request state action))
      (Stops rt ports (.decided request state action)) := by
  have hstop : Stops rt ports (.decided request state action) [] := ⟨_, .refl⟩
  refine Emits.ite (fun happroved => ?_) fun hdenied => ?_
  · refine Silent.ofExcept.andThen hstop fun observe => ?_
    refine Emits.ite (fun _ => Emits.ret (.of_quiet nofun)) fun hintegrity => ?_
    have hcall := @RunMove.approved W T S rt ports request state action happroved
      (by simpa using hintegrity)
    refine (observeApprovedTool_emits observe state action).bind (fun events he => ?_)
      fun observed events h => ?_
    · rcases he with rfl | rfl
      · exact hstop
      · exact ⟨_, .one hcall⟩
    · obtain ⟨commits, rfl, hcommit⟩ := h
      refine (resumeLoop_emits hkeep fuel _ hcommit).conseq (fun r events h => ?_) fun events h => ?_
      · have hafter := Returns.after (.one hcall) h
        exact hafter
      · have hafter := Stops.after (.one hcall) h
        exact hafter
  · have hdenied : request.approved = false := by simpa using hdenied
    have hcall : RunMove rt ports (.decided request state action) [] _ := .denied hdenied
    refine (commitObservationEffect_emits _ _ _ _).bind (fun events he => ?_) fun observed commits h => ?_
    · rw [he]
      exact hstop
    · refine (resumeLoop_emits hkeep fuel _ h).conseq (fun r events h => ?_) fun events h => ?_
      · have hafter := Returns.after (.one hcall) h
        exact hafter
      · have hafter := Stops.after (.one hcall) h
        exact hafter

/-- **A resume** is a trail from the snapshot that it loaded. -/
theorem resume_emits (hkeep : ports.KeepSnapshots holds) (fuel : Nat)
    (request : ControlledReActResumeRequest) :
    Emits (journaled W T holds) (resume rt knowledge ports fuel request)
      (fun r events => ∃ p, Resumed rt ports events p ∧ GivenIn rt ports p r)
      fun events => ∃ p, Resumed rt ports events p := by
  refine Emits.ofExcept.quietly ⟨_, .refused⟩ fun store hstore => ?_
  refine (loadSnapshot_emits (hkeep store (orRaise_ok hstore)) _).bind (fun events he => ?_)
    fun snapshot events he => ?_
  · rcases he with rfl | ⟨snapshot, rfl⟩
    · exact ⟨_, .refused⟩
    · exact ⟨_, .ran .refl⟩
  rw [he]
  refine Emits.ofExcept.quietly ⟨_, .ran .refl⟩ fun action hpending => ?_
  refine (taskCompletion_silent _).andThen ⟨_, .ran .refl⟩ fun _ => ?_
  refine (log_emits fun _ => by simp).bind (fun _ he => he.elim) fun _ events he => ?_
  rw [he]
  refine (decideApproval_emits hkeep fuel request _ action).conseq (fun r events h => ?_)
    fun events h => ?_
  · obtain ⟨p, htrail, hgiven⟩ := Returns.after (.one (.decided hpending)) h
    exact ⟨p, .ran htrail, hgiven⟩
  · obtain ⟨p, htrail⟩ := Stops.after (.one (.decided hpending)) h
    exact ⟨p, .ran htrail⟩

end ControlledReActOrchestrator

end ProofAgent
