import ProofAgent.ControlledReact.Committing
import ProofAgent.ControlledReact.RequiredEvidence

/-! # What a round shows

One action of the loop leaves a short stretch of the journal: the scope under
which it was chosen, what the policy said of it, the call that observed it, and
the state that the observation led to. -/
namespace ProofAgent

open Base

/-! ## Planning -/

/-- The state in which the next action is chosen. -/
def ControlledReActRunState.planned (s : ControlledReActRunState)
    (scope : Option EffectiveToolProposalScope) (eligible : List ReActActionType) :
    ControlledReActRunState :=
  { s with
    effectiveToolProposalScope := scope
    effectiveReactActionSet := eligible
    boundToolProposal := none
    approvedToolProposalSnapshot := none }

namespace ControlledReActOrchestrator

open Orchestration

variable {W T S : Type} {rt : Runtime} {knowledge : RunKnowledge} {ports : ControlledReActPorts W T S}
  {holds : S → ControlledReActRunStateSnapshot → Prop}

/-- What choosing an action shows; a round may stop before there is one. -/
inductive Planned (ports : ControlledReActPorts W T S) (maxPlanRounds : Nat)
    (state : ControlledReActRunState) :
    List RunEvent → Option (ControlledReActRunState × ReActActionProposal) → Prop
  | stopped : Planned ports maxPlanRounds state [] none
  | resolved (scope : EffectiveToolProposalScope) (hport : ports.toolProposalScope.isSome = true) :
      Planned ports maxPlanRounds state [.scopeResolved state scope] none
  | chosen (scope : Option EffectiveToolProposalScope) (eligible : List ReActActionType)
      (action : ReActActionProposal) (hscope : scope.isSome = ports.toolProposalScope.isSome)
      (hround : action.actionType.observes = true → state.planRound < maxPlanRounds) :
      Planned ports maxPlanRounds state (scope.toList.map (.scopeResolved state))
        (some (state.planned scope eligible, action))

/-- The truths are loaded record by record. -/
theorem loadTruths_emits : ∀ records : List ObservationRecord,
    Emits (journaled W T holds) (loadTruths rt ports records)
      (fun truths events => NoEvent events ∧ List.Forall₂ (LoadedFor ports) records truths) NoEvent
  | [] => Emits.ret ⟨rfl, .nil⟩
  | record :: rest => by
    refine (callTruths_emits _).quietly rfl fun loadedTruth hload => ?_
    refine Emits.ofExcept.quietly rfl fun binding hbinding => ?_
    refine Silent.require.andThen rfl fun _ => ?_
    refine (loadTruths_emits rest).quietly rfl fun truths hrest => Emits.ret ⟨rfl, .cons ?_ hrest⟩
    rw [(requireBoundObservationTruth_ok hbinding).2.2.1]
    exact hload

theorem answerEvidenceContext_emits (state : ControlledReActRunState) :
    Emits (journaled W T holds) (answerEvidenceContext rt ports state)
      (fun context events => NoEvent events ∧
        List.Forall₂ (LoadedFor ports) state.observationRecords context.observationTruth)
      NoEvent := by
  refine (loadTruths_emits _).quietly rfl fun truths htruths => ?_
  exact Silent.ofExcept.andThen rfl fun _ => Emits.ret ⟨rfl, htruths⟩

theorem answerEvidenceContext_silent (state : ControlledReActRunState) :
    Silent (journaled W T holds) (answerEvidenceContext rt ports state) :=
  (answerEvidenceContext_emits state).conseq (fun _ _ h => h.1) fun _ h => h

theorem taskCompletion_silent (state : ControlledReActRunState) :
    Silent (journaled W T holds) (taskCompletion rt knowledge ports state) := by
  refine Silent.ofExcept.andThen rfl fun requirements => ?_
  refine Emits.ite (fun _ => Silent.ret) fun _ => ?_
  exact (answerEvidenceContext_silent state).andThen rfl fun context => Silent.ofExcept

/-- An eligible action observes only while a round is left. -/
theorem eligibleActionsForState_observes {state : ControlledReActRunState} {maxPlanRounds : Nat}
    {completion : Option RetrievalTaskCompletion} {t : ReActActionType} (ht : t.observes = true)
    (h : t ∈ (eligibleActionsForState state maxPlanRounds completion).1) :
    state.planRound < maxPlanRounds := by
  unfold eligibleActionsForState at h
  cases completion with
  | none => exact computeEligibleActionSet_observes ht h
  | some completion =>
    have hask : t ∉ [ReActActionType.askClarification, .generateFinalAnswer, .refuse] := by
      intro hmem
      cases t <;> simp_all [ReActActionType.observes]
    have hless : t ∉ [ReActActionType.askClarification, .refuse] := fun hmem =>
      hask (by simp_all)
    simp only at h
    by_cases hcomplete : completion.complete = true
    · rw [if_pos hcomplete] at h
      split at h
      · exact absurd h hless
      · exact absurd h hask
    · rw [if_neg hcomplete] at h
      by_cases hmax : maxPlanRounds ≤ state.planRound
      · rw [if_pos hmax] at h
        exact absurd h hless
      · omega

theorem toolTaskAction_observes {state : ControlledReActRunState}
    {proposal action : ReActActionProposal} {maxPlanRounds : Nat} {step : ToolTaskStep}
    {results : TaskResults} (h : toolTaskAction state proposal maxPlanRounds step results = .ok action)
    (hobs : action.actionType.observes = true) : state.planRound < maxPlanRounds := by
  unfold toolTaskAction at h
  simp only at h
  split at h
  · cases pure_ok h
    cases hobs
  · omega

theorem constrainToTask_observes {state : ControlledReActRunState}
    {proposal action : ReActActionProposal} {maxPlanRounds : Nat}
    {completion : Option RetrievalTaskCompletion} {progress : ToolTaskProgress}
    (h : constrainToTask state proposal maxPlanRounds completion progress = .ok (some action))
    (hobs : action.actionType.observes = true) : state.planRound < maxPlanRounds := by
  unfold constrainToTask at h
  split at h
  · split at h
    · split at h
      · assumption
      · cases h
        cases hobs
    · cases h
      cases hobs
  · split at h
    · rename_i step _
      cases htool : toolTaskAction state proposal maxPlanRounds step progress.results with
      | error e =>
        rw [htool] at h
        cases h
      | ok action' =>
        rw [htool] at h
        cases h
        exact toolTaskAction_observes htool hobs
    · split at h
      · cases h
        cases hobs
      · cases h

theorem constrainToEligible_observes {state : ControlledReActRunState}
    {proposal action : ReActActionProposal} {maxPlanRounds : Nat}
    {completion : Option RetrievalTaskCompletion}
    (h : constrainToEligible state proposal maxPlanRounds completion = .ok action)
    (hobs : action.actionType.observes = true) : state.planRound < maxPlanRounds := by
  unfold constrainToEligible at h
  simp only at h
  split at h
  · rename_i hquiet
    cases h
    rcases hquiet.2 with hr | hr
    · rw [hr] at hobs
      cases hobs
    · rw [hr] at hobs
      cases hobs
  · split at h
    · cases h
      cases hobs
    · obtain ⟨constrained, hc, h₁⟩ := bind_ok h
      have hmem := constrainAction_mem hc
      split at h₁
      · cases pure_ok h₁
        cases hobs
      · cases pure_ok h₁
        split at hmem
        · exact eligibleActionsForState_observes hobs hmem
        · exact eligibleActionsForState_observes hobs (List.mem_of_mem_filter hmem)

theorem constrainNextAction_emits (state : ControlledReActRunState) (proposal : ReActActionProposal)
    (maxPlanRounds : Nat) :
    Emits (journaled W T holds) (constrainNextAction rt knowledge ports state proposal maxPlanRounds)
      (fun action events => NoEvent events ∧
        (action.actionType.observes = true → state.planRound < maxPlanRounds)) NoEvent := by
  have heligible : ∀ completion, Emits (journaled W T holds)
      (Effect.ofExcept (constrainToEligible state proposal maxPlanRounds completion) :
        Orchestration W T S ReActActionProposal)
      (fun action events => NoEvent events ∧
        (action.actionType.observes = true → state.planRound < maxPlanRounds)) NoEvent :=
    fun completion => Emits.ofExcept.conseq
      (fun action _ h => ⟨h.1, constrainToEligible_observes h.2⟩) fun _ h => h
  refine (taskCompletion_silent state).andThen rfl fun completion => ?_
  refine Emits.ite (fun _ => ?_) fun _ => heligible completion
  refine (answerEvidenceContext_silent state).andThen rfl fun context => ?_
  refine Silent.ofExcept.andThen rfl fun progress => ?_
  refine Emits.ofExcept.quietly rfl fun decided hdecided => ?_
  cases decided with
  | some action => exact Emits.ret ⟨rfl, constrainToTask_observes hdecided⟩
  | none => exact heligible completion

theorem compiledAction_silent (state : ControlledReActRunState) :
    Silent (journaled W T holds) (compiledAction rt knowledge ports state) := by
  unfold compiledAction
  split
  · exact Silent.ret
  · refine Silent.andThen Emits.read rfl fun m => ?_
    refine Emits.ite (fun _ => Silent.ret) fun _ => ?_
    refine (taskCompletion_silent state).andThen rfl fun completion => ?_
    split
    · exact Silent.ret
    · exact Silent.ret
    · split
      · exact Silent.ret
      · exact Silent.ret

theorem proposeAction_silent (state : ControlledReActRunState) :
    Silent (journaled W T holds) (proposeAction rt knowledge ports state) := by
  refine (compiledAction_silent state).andThen rfl fun compiled => ?_
  split
  · exact Silent.ret
  · exact callPort_silent _

theorem resolveScope_emits (state : ControlledReActRunState) :
    Emits (journaled W T holds) (resolveScope ports state)
      (fun scope events => events = scope.toList.map (.scopeResolved state) ∧
        scope.isSome = ports.toolProposalScope.isSome) NoEvent := by
  unfold resolveScope
  split
  · rename_i hport
    exact Emits.ret ⟨rfl, by rw [hport]; rfl⟩
  · rename_i resolve hport
    refine (callPort_silent _).andThen rfl fun scope => ?_
    refine (log_emits fun _ => by simp).bind (fun _ he => he.elim) fun _ events he => ?_
    rw [he]
    exact Emits.ret ⟨rfl, by rw [hport]; rfl⟩

theorem preparePlanState_emits (state : ControlledReActRunState) (maxPlanRounds : Nat) :
    Emits (journaled W T holds) (preparePlanState rt knowledge ports state maxPlanRounds)
      (fun planning events => ∃ scope eligible, planning = state.planned scope eligible ∧
        events = scope.toList.map (.scopeResolved state) ∧
        scope.isSome = ports.toolProposalScope.isSome) NoEvent := by
  refine (taskCompletion_silent state).andThen rfl fun completion => ?_
  have hrest : ∀ eligible : Option EffectiveToolProposalScope → List ReActActionType,
      Emits (journaled W T holds)
        (resolveScope ports state >>= fun scope => pure (state.planned scope (eligible scope)))
        (fun planning events => ∃ scope eligible, planning = state.planned scope eligible ∧
          events = scope.toList.map (.scopeResolved state) ∧
          scope.isSome = ports.toolProposalScope.isSome) NoEvent := by
    refine fun eligible => (resolveScope_emits state).bind (fun _ he => he) fun scope events hs => ?_
    refine Emits.ret ⟨scope, _, rfl, ?_, hs.2⟩
    rw [List.append_nil]
    exact hs.1
  refine Emits.ite (fun _ => ?_) fun _ => hrest _
  exact (emitTrace_silent ports _ _).andThen rfl fun _ => hrest _

/-- **Choosing an action** shows the scope of the round, and only an action with a
round left observes. -/
theorem planNextAction_emits (state : ControlledReActRunState) (maxPlanRounds : Nat) :
    Emits (journaled W T holds) (planNextAction rt knowledge ports state maxPlanRounds)
      (fun next events => Planned ports maxPlanRounds state events (some next))
      fun events => Planned ports maxPlanRounds state events none := by
  refine (preparePlanState_emits state maxPlanRounds).bind (fun events he => ?_)
    fun planning events hplan => ?_
  · rw [he]
    exact .stopped
  obtain ⟨scope, eligible, rfl, rfl, hscope⟩ := hplan
  have hstop : Planned ports maxPlanRounds state
      (scope.toList.map (.scopeResolved state) ++ []) none := by
    cases scope with
    | none => exact .stopped
    | some scope => exact .resolved scope hscope.symm
  refine (ensureAvailable_silent ports).andThen hstop fun _ => ?_
  refine (proposeAction_silent _).andThen hstop fun proposed => ?_
  refine Silent.ofExcept.andThen hstop fun admitted => ?_
  refine (constrainNextAction_emits _ _ _).quietly hstop fun action haction => ?_
  refine (emitTrace_silent ports _ _).andThen hstop fun _ => ?_
  refine Emits.ret ?_
  rw [List.append_nil]
  exact .chosen scope eligible action hscope haction

/-! ## Committing -/

/-- The state that a commit leads to: the observation had a record already, or it
gets one. -/
inductive CommittedTo (observing : ControlledReActRunState) (action : ReActActionProposal) :
    ControlledReActRunState → List RunEvent → Prop
  | again : CommittedTo observing action observing []
  | recorded {next : ControlledReActRunState} (record : ObservationRecord)
      (htype : record.actionType = action.actionType)
      (hnext : next = { observing with
        phase := .planning, observationRecords := observing.observationRecords ++ [record] }) :
      CommittedTo observing action next [.committed next]

theorem truthStore_save_silent (truth : ObservationTruthArtifact) :
    Silent (journaled W T holds) ((truthStore ports).save truth) :=
  callTruths_silent _

theorem verifyStoredTruth_silent (truth : ObservationTruthArtifact) (reference : String) :
    Silent (journaled W T holds)
      (ObservationCommitter.verifyStoredTruth rt (truthStore ports) truth reference) := by
  refine Silent.andThen (callTruths_silent _) rfl fun storedTruth => ?_
  refine Silent.ofExcept.andThen rfl fun storedBinding => ?_
  exact Silent.require.andThen rfl fun _ => Silent.require

/-- A commit keeps the state, or adds a record of the action's type. -/
theorem commit_emits (state : ControlledReActRunState) (action : ReActActionProposal)
    (effect : ObservationEffect) (identity : Option ObservationIdentity) :
    Emits (journaled W T holds)
      (ObservationCommitter.commit rt (truthStore ports) state action effect identity)
      (fun result events => NoEvent events ∧ (result.state = state ∨
        ∃ record : ObservationRecord, record.actionType = action.actionType ∧
          result.state = { state with
            phase := .planning, observationRecords := state.observationRecords ++ [record] }))
      NoEvent := by
  refine Emits.ofExcept.quietly rfl fun bound hbound => ?_
  obtain ⟨binding, record⟩ := bound
  obtain ⟨hvalid, _, _, _, _, htype, _⟩ :=
    bound_ok (c := { action, effect, expectedIdentity := identity }) hbound
  have haction : record.actionType = action.actionType := by
    obtain ⟨_, _, h₁⟩ := bind_ok hvalid
    obtain ⟨_, _, h₂⟩ := bind_ok h₁
    obtain ⟨_, hreq, _⟩ := bind_ok h₂
    exact htype.trans (require_ok hreq)
  cases hm : ObservationCommitter.matchingObservation state record with
  | some existing =>
    simp only [hm]
    refine Silent.require.andThen rfl fun _ => ?_
    exact (verifyStoredTruth_silent _ _).andThen rfl fun _ => Emits.ret ⟨rfl, .inl rfl⟩
  | none =>
    simp only [hm]
    refine Emits.ofExcept.quietly rfl fun next hnext => ?_
    refine (truthStore_save_silent _).andThen rfl fun _ => ?_
    refine Silent.require.andThen rfl fun _ => ?_
    refine (verifyStoredTruth_silent _ _).andThen rfl fun _ => Emits.ret ⟨rfl, .inr ?_⟩
    exact ⟨record, haction, (commitRecord_ok hm hnext).2⟩

theorem commitObservationEffect_emits (state : ControlledReActRunState)
    (action : ReActActionProposal) (effect : ObservationEffect) (identity : ObservationIdentity) :
    Emits (journaled W T holds) (commitObservationEffect rt ports state action effect identity)
      (CommittedTo state action) NoEvent := by
  refine (commit_emits state action effect (some identity)).quietly rfl fun result hresult => ?_
  refine Emits.ite (fun hle => ?_) fun hgt => ?_
  · rcases hresult with heq | ⟨record, _, heq⟩
    · rw [heq]
      exact Emits.ret .again
    · rw [heq, List.length_append] at hle
      exact absurd hle (by simp)
  · refine (log_emits fun _ => by simp).bind (fun _ he => he.elim) fun _ events he => ?_
    rw [he]
    rcases hresult with heq | ⟨record, htype, heq⟩
    · rw [heq] at hgt
      exact absurd (Nat.le_refl _) hgt
    · exact Emits.ret (.recorded record htype heq)

end ControlledReActOrchestrator

end ProofAgent
