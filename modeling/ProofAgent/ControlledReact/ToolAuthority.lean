import ProofAgent.ControlledReact.RunHistories

/-! # The authority of a tool call

A tool is called right after the policy allowed the call, or right after an approval
was decided on a saved snapshot. Where a scope port is configured, what is called is
what the binder made of a proposal, under the scope that was resolved in the round of
the proposal. -/
namespace ProofAgent

open Base ControlledReActOrchestrator

variable {W T S : Type}

section
variable (rt : Runtime) (ports : ControlledReActPorts W T S)

/-- An action is what the binder made of a proposal under the scope of a state, which
was resolved in a round of the state's run. -/
structure BoundTo (shown : List RunEvent) (s : ControlledReActRunState) (round : Nat)
    (action : ReActActionProposal) (scope : EffectiveToolProposalScope) : Prop where
  effective : s.effectiveToolProposalScope = some scope
  resolved : ∃ planning, .scopeResolved planning scope ∈ shown ∧ planning.runId = s.runId ∧
    planning.planRound = round
  bound : ∃ proposal bound, ToolProposalParameterBinder.bind rt s.runId proposal scope = .ok bound ∧
    ToolProposalParameterBinder.BoundBy rt s.runId proposal scope bound ∧
    action = { proposal with parameters := bound.parameters }

/-- So it is, where there is a scope port. -/
def BoundIn (shown : List RunEvent) (s : ControlledReActRunState) (round : Nat)
    (action : ReActActionProposal) : Prop :=
  ports.toolProposalScope.isSome = true → ∃ scope, BoundTo rt shown s round action scope

/-- The tool call that a saved state ends in. One that waits for its approval was
proposed in the state's own round, and carries the proposal to approve if there is a
scope port. -/
structure PendingCall (shown : List RunEvent) (s : ControlledReActRunState)
    (action : ReActActionProposal) : Prop where
  last : s.actionHistory.getLast? = some action
  tool : action.actionType = .proposeToolCall
  bound : ∃ round, BoundIn rt ports shown s round action ∧ (s.phase = .waiting → round = s.planRound)
  proposed : s.phase = .waiting → ports.toolProposalScope.isSome = true →
    ∃ approved, s.approvedToolProposalSnapshot = some approved

/-- A request approved the call that a saved snapshot ends in. -/
structure ApprovedCall (shown : List RunEvent) (snapshot : ControlledReActRunStateSnapshot)
    (request : ControlledReActResumeRequest) (action : ReActActionProposal) : Prop where
  saved : WasSaved shown snapshot
  pending : PendingCall rt ports shown snapshot.state action
  approved : request.approved = true
  approvalId : request.approvalId = "appr_" ++ action.actionId
  runId : ∀ id, request.expectedRunId = some id → snapshot.state.runId = id
  authorization : snapshot.state.institutionAuthorization = request.institutionAuthorization
  /-- The proposal that the snapshot carries is the one that is executed. -/
  integrity : ∀ approved, snapshot.state.approvedToolProposalSnapshot = some approved →
    approved.actionId = action.actionId ∧ approved.toolContractId = action.toolName "" ∧
      approved.parameterDigest = parameterDigest rt action.parameters

/-- **What a tool call rests on.** -/
inductive ToolAuthority (before : List RunEvent) (s : ControlledReActRunState)
    (action : ReActActionProposal) : Prop
  | allowed (prior : List RunEvent) (state : ControlledReActRunState)
      (hlast : before = prior ++ [.policyEvaluated state action .allow])
      (hround : s = observing state action)
      (hbound : BoundIn rt ports prior state state.planRound action)
  | approved (prior : List RunEvent) (snapshot : ControlledReActRunStateSnapshot)
      (request : ControlledReActResumeRequest)
      (hlast : before = prior ++ [.snapshotLoaded snapshot, .approvalDecided request snapshot.state])
      (hround : s = nextRound snapshot.state snapshot.state.actionHistory)
      (hcall : ApprovedCall rt ports prior snapshot request action)

/-- A call has its authority, and what is saved ends in a call. -/
def Sanctioned (before : List RunEvent) : RunEvent → Prop
  | .toolObserved s action => ToolAuthority rt ports before s action
  | .snapshotSaved x => ∃ action, PendingCall rt ports before x.state action
  | _ => True

/-- A scope of the round that a state is in was resolved. -/
def ScopeResolved (shown : List RunEvent) (s : ControlledReActRunState) : Prop :=
  ports.toolProposalScope.isSome = true → ∃ scope planning,
    s.effectiveToolProposalScope = some scope ∧ .scopeResolved planning scope ∈ shown ∧
      planning.runId = s.runId ∧ planning.planRound = s.planRound

/-- The last action of a state, where it is a tool call, was bound. -/
def LastBound (shown : List RunEvent) (s : ControlledReActRunState) (action : ReActActionProposal) :
    Prop :=
  s.actionHistory.getLast? = some action ∧
    (action.actionType = .proposeToolCall → ∃ round, BoundIn rt ports shown s round action)

/-- What is known of the next call in each phase. -/
def RunPhase.Prepares (shown : List RunEvent) : RunPhase → Prop
  | .idle | .planning _ _ => True
  | .loaded x => ∃ prior, shown = prior ++ [.snapshotLoaded x] ∧ WasSaved prior x ∧
      ∃ action, PendingCall rt ports prior x.state action
  | .decided request s action => ∃ prior x,
      shown = prior ++ [.snapshotLoaded x, .approvalDecided request x.state] ∧ s = x.state ∧
        WasSaved prior x ∧ pendingApproval request s = .ok action ∧
        PendingCall rt ports prior s action
  | .choosing _ s scope => ports.toolProposalScope.isSome = true →
      ∃ resolved, scope = some resolved ∧ .scopeResolved s resolved ∈ shown
  | .acting _ s _ => ScopeResolved ports shown s
  | .evaluated _ bound decision => bound.2.actionType = .proposeToolCall ∧
      (ports.toolProposalScope.isSome = true → bound.1.boundToolProposal.isSome = true) ∧
      BoundIn rt ports shown bound.1 bound.1.planRound bound.2 ∧
      (decision = .allow → ∃ prior, shown = prior ++ [.policyEvaluated bound.1 bound.2 .allow] ∧
        BoundIn rt ports prior bound.1 bound.1.planRound bound.2)
  | .observed _ s action | .committed _ s action => LastBound rt ports shown s action

/-- Every call so far had its authority, and the next one is prepared. -/
structure InAuthority (shown : List RunEvent) (p : RunPhase) : Prop where
  sanctioned : Justified (Sanctioned rt ports) shown
  prepares : p.Prepares rt ports shown

end

variable {rt : Runtime} {knowledge : RunKnowledge} {ports : ControlledReActPorts W T S}
  {holds : S → ControlledReActRunStateSnapshot → Prop} {m : Machine W T S}
  {shown more : List RunEvent} {s s' : ControlledReActRunState} {action : ReActActionProposal}
  {round : Nat}

/-! ## Bound actions -/

/-- Only the run and the scope of a state matter. -/
theorem BoundIn.transfer (h : BoundIn rt ports shown s round action)
    (hmem : ∀ e ∈ shown, e ∈ more) (hrun : s'.runId = s.runId)
    (hscope : s'.effectiveToolProposalScope = s.effectiveToolProposalScope) :
    BoundIn rt ports more s' round action := by
  intro hport
  obtain ⟨scope, hbound⟩ := h hport
  obtain ⟨planning, hresolved, hplanning⟩ := hbound.resolved
  refine ⟨scope, hscope.trans hbound.effective, ⟨planning, hmem _ hresolved, ?_⟩, ?_⟩
  · rw [hrun]
    exact hplanning
  · rw [hrun]
    exact hbound.bound

theorem BoundIn.append (h : BoundIn rt ports shown s round action) (more : List RunEvent) :
    BoundIn rt ports (shown ++ more) s round action :=
  h.transfer (fun _ he => List.mem_append_left _ he) rfl rfl

/-- Binding under the scope of the round. -/
theorem ControlledReActOrchestrator.Dispatched.boundIn
    {bound : ControlledReActRunState × ReActActionProposal}
    (h : Dispatched rt s action bound) (hscope : ScopeResolved ports shown s) :
    BoundIn rt ports shown bound.1 bound.1.planRound bound.2 ∧
      (ports.toolProposalScope.isSome = true → bound.1.boundToolProposal.isSome = true) := by
  obtain ⟨parameters, hbind⟩ := h.binds
  refine ⟨fun hport => ?_, fun hport => ?_⟩
  · obtain ⟨scope, planning, heffective, hresolved, hrun, hround⟩ := hscope hport
    obtain ⟨hnone, rfl⟩ | ⟨scope', proposal, hscope', hproposal, rfl⟩ := bindToolProposal_ok hbind
    · rw [heffective] at hnone
      cases hnone
    · rw [heffective] at hscope'
      cases hscope'
      exact ⟨scope, heffective, ⟨planning, hresolved, hrun, hround⟩, _, proposal, hproposal,
        ToolProposalParameterBinder.bind_ok hproposal, rfl⟩
  · obtain ⟨scope, _, heffective, _⟩ := hscope hport
    obtain ⟨hnone, rfl⟩ | ⟨_, proposal, _, _, rfl⟩ := bindToolProposal_ok hbind
    · rw [heffective] at hnone
      cases hnone
    · rfl

/-! ## Pending calls -/

theorem PendingCall.append (h : PendingCall rt ports shown s action) (more : List RunEvent) :
    PendingCall rt ports (shown ++ more) s action := by
  obtain ⟨round, hbound, hround⟩ := h.bound
  exact ⟨h.last, h.tool, ⟨round, hbound.append more, hround⟩, h.proposed⟩

/-- What was saved ends in a call, also once it is read back. -/
theorem WasSaved.pendingCall {x : ControlledReActRunStateSnapshot} (h : WasSaved shown x)
    (hsanctioned : Justified (Sanctioned rt ports) shown) :
    ∃ action, PendingCall rt ports shown x.state action := by
  obtain ⟨saved, hmem, hx⟩ := h
  obtain ⟨before, after, rfl⟩ := List.append_of_mem hmem
  obtain ⟨action, hcall⟩ := hsanctioned before (.snapshotSaved saved) after rfl
  have hlater : PendingCall rt ports (before ++ .snapshotSaved saved :: after) saved.state action :=
    hcall.append _
  rcases hx with rfl | rfl
  · exact ⟨action, hlater⟩
  · obtain ⟨round, hbound, hround⟩ := hlater.bound
    exact ⟨action, hlater.last, hlater.tool,
      ⟨round, hbound.transfer (fun _ he => he) rfl rfl, hround⟩, hlater.proposed⟩

/-- What a pending approval was checked for. -/
theorem pendingApproval_ok {request : ControlledReActResumeRequest}
    (h : pendingApproval request s = .ok action) :
    s.actionHistory.getLast? = some action ∧ request.approvalId = "appr_" ++ action.actionId ∧
      (∀ id, request.expectedRunId = some id → s.runId = id) ∧
      s.institutionAuthorization = request.institutionAuthorization := by
  obtain ⟨_, hrun, h₁⟩ := bind_ok h
  obtain ⟨_, hauthorization, h₂⟩ := bind_ok h₁
  obtain ⟨pending, hlast, h₃⟩ := bind_ok h₂
  obtain ⟨_, _, h₄⟩ := bind_ok h₃
  obtain ⟨_, hid, h₅⟩ := bind_ok h₄
  cases pure_ok h₅
  refine ⟨orRaise_ok hlast, (require_ok hid).2, fun id hexpected => ?_, require_ok hauthorization⟩
  have hall := require_ok hrun
  rw [hexpected] at hall
  simpa using hall

theorem approvedToolIntegrity_ok {approved : ApprovedToolProposalSnapshot}
    (h : approvedToolIntegrityMismatch rt s action = false)
    (happroved : s.approvedToolProposalSnapshot = some approved) :
    approved.actionId = action.actionId ∧ approved.toolContractId = action.toolName "" ∧
      approved.parameterDigest = parameterDigest rt action.parameters := by
  unfold approvedToolIntegrityMismatch at h
  rw [happroved] at h
  simpa [and_assoc] using h

/-- The pause before a call saves it as the pending one. -/
theorem pauseSnapshot_pending {bound : ControlledReActRunState × ReActActionProposal}
    (request : ControlledReActStartRequest) (htool : bound.2.actionType = .proposeToolCall)
    (hproposal : ports.toolProposalScope.isSome = true → bound.1.boundToolProposal.isSome = true)
    (hbound : BoundIn rt ports shown bound.1 bound.1.planRound bound.2) :
    PendingCall rt ports shown (pauseSnapshot rt request bound.1 bound.2).state bound.2 where
  last := List.getLast?_concat
  tool := htool
  bound := ⟨bound.1.planRound, hbound.transfer (fun _ he => he) rfl rfl, fun _ => rfl⟩
  proposed _ hport := by
    obtain ⟨proposal, heq⟩ := Option.isSome_iff_exists.mp (hproposal hport)
    refine Option.isSome_iff_exists.mp ?_
    simp only [pauseSnapshot, approvedToolSnapshot, heq, Option.map_some, Option.isSome_some]

/-! ## Moves -/

theorem LastBound.transfer (h : LastBound rt ports shown s action) (more : List RunEvent)
    (hrun : s'.runId = s.runId) (hhistory : s'.actionHistory = s.actionHistory)
    (hscope : s'.effectiveToolProposalScope = s.effectiveToolProposalScope) :
    LastBound rt ports (shown ++ more) s' action := by
  refine ⟨by rw [hhistory]; exact h.1, fun htool => ?_⟩
  obtain ⟨round, hbound⟩ := h.2 htool
  exact ⟨round, hbound.transfer (fun _ he => List.mem_append_left _ he) hrun hscope⟩

/-- The action of a round that begins. -/
theorem LastBound.observing (h : action.actionType = .proposeToolCall →
      ∃ round, BoundIn rt ports shown s round action) :
    LastBound rt ports shown (observing s action) action := by
  refine ⟨List.getLast?_concat, fun htool => ?_⟩
  obtain ⟨round, hbound⟩ := h htool
  exact ⟨round, hbound.transfer (fun _ he => he) rfl rfl⟩

/-- The action of a round that begins with a decision. -/
theorem PendingCall.lastBound (h : PendingCall rt ports shown s action) (more : List RunEvent) :
    LastBound rt ports (shown ++ more) (nextRound s s.actionHistory) action := by
  obtain ⟨round, hbound, _⟩ := h.bound
  refine ⟨h.last, fun _ => ⟨round, ?_⟩⟩
  exact hbound.transfer (fun _ he => List.mem_append_left _ he) rfl rfl

/-- **Every move keeps the calls in authority.** -/
theorem RunMove.inAuthority {p q : RunPhase} (h : InAuthority rt ports shown p)
    (hmove : RunMove rt ports p more q) : InAuthority rt ports (shown ++ more) q := by
  obtain ⟨hsanctioned, hprepares⟩ := h
  have hstays : Justified (Sanctioned rt ports) (shown ++ []) := by
    rw [List.append_nil]
    exact hsanctioned
  cases hmove with
  | restarted limit => exact ⟨hstays, trivial⟩
  | @decided x request action hpending =>
    refine ⟨hsanctioned.concat trivial, ?_⟩
    obtain ⟨prior, rfl, hsaved, action', hcall⟩ := hprepares
    have hsame : action' = action := by
      have hlast := (pendingApproval_ok hpending).1
      rw [hcall.last] at hlast
      exact Option.some.inj hlast
    subst hsame
    exact ⟨prior, x, by rw [List.append_assoc]; rfl, rfl, hsaved, hpending, hcall⟩
  | approved happroved hintegrity =>
    obtain ⟨prior, x, rfl, rfl, hsaved, hpending, hcall⟩ := hprepares
    obtain ⟨_, hid, hrun, hauthorization⟩ := pendingApproval_ok hpending
    refine ⟨hsanctioned.concat (.approved prior x _ rfl rfl ?_), ?_⟩
    · exact ⟨hsaved, hcall, happroved, hid, hrun, hauthorization,
        fun _ heq => approvedToolIntegrity_ok hintegrity heq⟩
    · rw [List.append_assoc]
      exact hcall.lastBound _
  | denied hdenied =>
    obtain ⟨prior, x, rfl, rfl, _, _, hcall⟩ := hprepares
    refine ⟨hstays, ?_⟩
    rw [List.append_assoc]
    exact hcall.lastBound _
  | resolved scope hport =>
    refine ⟨hsanctioned.concat trivial, fun _ => ⟨scope, rfl, ?_⟩⟩
    exact List.mem_append_right _ (List.mem_singleton.mpr rfl)
  | unscoped hport =>
    refine ⟨hstays, fun hsome => ?_⟩
    rw [hport] at hsome
    cases hsome
  | chosen eligible action hround =>
    refine ⟨hstays, fun hport => ?_⟩
    obtain ⟨scope, rfl, hresolved⟩ := hprepares hport
    exact ⟨scope, _, rfl, List.mem_append_left _ hresolved, rfl, rfl⟩
  | gap requirement hanswer hround =>
    rw [List.append_nil]
    exact ⟨hsanctioned, hprepares⟩
  | retrieved hretrieval =>
    refine ⟨hsanctioned.concat trivial, .observing fun htool => ?_⟩
    rw [hretrieval] at htool
    cases htool
  | evaluated hdispatch hpolicy =>
    obtain ⟨hbound, hproposal⟩ := hdispatch.boundIn hprepares
    cases hpolicy with
    | policy hport =>
      refine ⟨hsanctioned.concat trivial, hdispatch.tool, hproposal, hbound.append _, ?_⟩
      rintro rfl
      exact ⟨shown, rfl, hbound⟩
    | unasked hport hdecision =>
      refine ⟨hstays, hdispatch.tool, hproposal, hbound.append _, fun hallow => ?_⟩
      rw [hdecision] at hallow
      cases hallow
  | called hcap =>
    obtain ⟨_, _, hbound, hallow⟩ := hprepares
    obtain ⟨prior, hlast, hprior⟩ := hallow rfl
    refine ⟨hsanctioned.concat (.allowed prior _ hlast rfl hprior), .observing fun _ => ?_⟩
    exact ⟨_, hbound.append _⟩
  | paused request =>
    obtain ⟨htool, hproposal, hbound, _⟩ := hprepares
    exact ⟨hsanctioned.concat ⟨_, pauseSnapshot_pending request htool hproposal hbound⟩, trivial⟩
  | recorded hcommit =>
    cases hcommit with
    | again =>
      rw [List.append_nil]
      exact ⟨hsanctioned, hprepares⟩
    | recorded record htype hnext =>
      subst hnext
      exact ⟨hsanctioned.concat trivial, hprepares.transfer _ rfl rfl rfl⟩
  | checkpointed hsave =>
    cases hsave with
    | skipped => exact ⟨hstays, trivial⟩
    | saved htool htask =>
      obtain ⟨hlast, hbound⟩ := hprepares
      obtain ⟨round, hround⟩ := hbound htool
      refine ⟨hsanctioned.concat ⟨_, hlast, htool, ⟨round, ?_, ?_⟩, ?_⟩, trivial⟩
      · exact hround.transfer (fun _ he => he) rfl rfl
      · intro hwaiting
        cases hwaiting
      · intro hwaiting
        cases hwaiting

/-- **So does every history.** -/
theorem HistoryTrail.inAuthority {p : RunPhase} (h : HistoryTrail rt ports .idle shown p)
    (hloads : Justified LoadsSaved shown) : InAuthority rt ports shown p := by
  have hinv := h.invariant
    (I := fun shown p => Justified LoadsSaved shown → InAuthority rt ports shown p)
    (fun shown p more q hp hmove hloads => ?_) fun _ => ⟨.nil, trivial⟩
  · exact hinv hloads
  · have hbefore := hp hloads.before
    cases hmove with
    | inside hmove => exact RunMove.inAuthority hbefore hmove
    | left p => exact ⟨by rw [List.append_nil]; exact hbefore.sanctioned, trivial⟩
    | started limit hfresh => exact ⟨by rw [List.append_nil]; exact hbefore.sanctioned, trivial⟩
    | loaded snapshot =>
      have hsaved := hloads.last snapshot rfl
      exact ⟨hbefore.sanctioned.concat trivial, shown, rfl, hsaved,
        hsaved.pendingCall hbefore.sanctioned⟩

/-- Every tool call of every history has its authority. -/
theorem tool_calls_authorized (hkeep : ports.KeepSnapshots holds) (hunused : m.Unused holds)
    (calls : List (OrchestratorCall W T S)) (before after : List RunEvent)
    (s : ControlledReActRunState) (action : ReActActionProposal)
    (hcall : (operate rt knowledge ports calls m).journal = before ++ .toolObserved s action :: after) :
    ToolAuthority rt ports before s action := by
  have htrailed : Trailed rt ports holds (operate rt knowledge ports calls m) .idle :=
    operate_trailed hkeep hunused calls
  exact (htrailed.trail.inAuthority htrailed.sound.loads).sanctioned before _ after hcall

namespace Sample

/-- One tool call after another, each with a note of its own. -/
def proposeNote (state : ControlledReActRunState) : ReActActionProposal :=
  let round := toString (state.planRound + 1)
  { proposal ("act_" ++ round) .proposeToolCall (.ofFields [("note", .str ("note " ++ round))]) with
    targetToolName := some "update_record" }

/-- The tool records that it was called. -/
def recordTool : ObservationPort Unit := fun state action identity => pure
  { observationRecord :=
      { observationId := identity.observationId, actionId := action.actionId
        actionType := action.actionType, round := state.planRound, truthRef := identity.truthRef }
    truthArtifact := .tool
      { truthRef := identity.truthRef, observationId := identity.observationId
        actionId := action.actionId, toolName := "update_record" } }

/-- A tool with a note from the planner and a key of its own. -/
def recordScope (state : ControlledReActRunState) : EffectiveToolProposalScope where
  runId := state.runId
  planRound := state.planRound
  schemaDigest := "schema"
  toolInterfaces :=
    [{ toolContractId := "update_record"
       riskLevel := "low"
       readOnly := false
       requiresApproval := false
       parameters := [{ name := "note" }, { name := "idempotency_key", valueSource := .systemGenerated }] }]

/-- The tool calls of a journal. -/
def toolCalls (m : Machine Unit InMemoryObservationTruthStore InMemorySnapshotStore) :
    List (ControlledReActRunState × ReActActionProposal) :=
  m.journal.filterMap fun
    | .toolObserved s action => some (s, action)
    | _ => none

theorem mem_toolCalls {m : Machine Unit InMemoryObservationTruthStore InMemorySnapshotStore}
    {call : ControlledReActRunState × ReActActionProposal} (h : call ∈ toolCalls m) :
    .toolObserved call.1 call.2 ∈ m.journal := by
  obtain ⟨e, hmem, he⟩ := List.mem_filterMap.mp h
  split at he
  · cases he
    exact hmem
  · cases he

/-- Every call is allowed, under a scope. -/
def scopedPorts : ControlledReActPorts Unit InMemoryObservationTruthStore InMemorySnapshotStore :=
  { orchestratorPorts proposeNote .allow with
    toolObservation := some recordTool
    toolProposalScope := some fun state => pure (recordScope state) }

def scopedCall : List (OrchestratorCall Unit InMemoryObservationTruthStore InMemorySnapshotStore) :=
  [.start 3 { startRequest with maxPlanRounds := 1 }]

/-- Every call waits for an approval, and there is no scope port. -/
def approvalPorts : ControlledReActPorts Unit InMemoryObservationTruthStore InMemorySnapshotStore :=
  { orchestratorPorts proposeNote .requireApproval with toolObservation := some recordTool }

/-- The snapshot in which a run waits in a round. -/
def pauseReference (round : String) : String :=
  let digest := digestRuntime.sha256 .null
  snapshotReference "run" ("snap_" ++ round ++ "_" ++ digest) digest

def approval (round action : String) : ControlledReActResumeRequest where
  snapshotRef := pauseReference round
  approvalId := "appr_act_" ++ action
  approved := true
  actor := "alice"
  maxPlanRounds := 2

/-- A run pauses twice and is approved twice. -/
def approvedTwice : Machine Unit InMemoryObservationTruthStore InMemorySnapshotStore :=
  operate digestRuntime runKnowledge approvalPorts
    [.start 3 startRequest, .resume 3 (approval "0" "1"), .resume 3 (approval "1" "2")] machine

/-- How many tool records each commit of a journal led to, and the cap on them. -/
def committedCalls (m : Machine Unit InMemoryObservationTruthStore InMemorySnapshotStore) :
    List (String × Nat × Nat) :=
  m.journal.filterMap fun
    | .committed s => some (s.runId, s.toolRecords.length, s.maxToolCalls)
    | _ => none

theorem mem_committedCalls {m : Machine Unit InMemoryObservationTruthStore InMemorySnapshotStore}
    {entry : String × Nat × Nat} (h : entry ∈ committedCalls m) :
    ∃ s, .committed s ∈ m.journal ∧ entry = (s.runId, s.toolRecords.length, s.maxToolCalls) := by
  obtain ⟨e, hmem, he⟩ := List.mem_filterMap.mp h
  split at he
  · cases he
    exact ⟨_, hmem, rfl⟩
  · cases he

theorem approvedTwice_calls :
    ((toolCalls approvedTwice).map fun c => (c.1.boundToolProposal, c.1.approvedToolProposalSnapshot))
        = [(none, none), (none, none)] ∧
      committedCalls approvedTwice = [("run", 1, 1), ("run", 2, 1)] := by
  decide +kernel

theorem scoped_called : (toolCalls (operate digestRuntime runKnowledge scopedPorts scopedCall
    machine)).length = 1 := by
  decide +kernel

end Sample

/-- A call under a scope, and its authority. -/
theorem tool_calls_authorized_scoped : ∃ before after s action,
    (operate Sample.digestRuntime Sample.runKnowledge Sample.scopedPorts Sample.scopedCall
      Sample.machine).journal = before ++ .toolObserved s action :: after ∧
      ToolAuthority Sample.digestRuntime Sample.scopedPorts before s action := by
  obtain ⟨call, hcall⟩ := List.length_pos_iff_exists_mem.mp
    (by rw [Sample.scoped_called]; decide : 0 < (Sample.toolCalls _).length)
  obtain ⟨before, after, hsplit⟩ := List.append_of_mem (Sample.mem_toolCalls hcall)
  have hkeep : Sample.scopedPorts.KeepSnapshots InMemorySnapshotStore.Holds :=
    Sample.keepSnapshots rfl
  exact ⟨before, after, call.1, call.2, hsplit, tool_calls_authorized hkeep Sample.machine_unused
    Sample.scopedCall before after call.1 call.2 hsplit⟩

/-- Without a scope port an approved call is made with the parameters that the planner
proposed: no binder made them, and no digest of them was saved. -/
theorem approved_call_unbound : ¬ ∀ s action,
    .toolObserved s action ∈ Sample.approvedTwice.journal →
      (∃ bound, s.boundToolProposal = some bound ∧ action.parameters = bound.parameters) ∧
        ∃ approved, s.approvedToolProposalSnapshot = some approved ∧
          approved.parameterDigest = parameterDigest Sample.digestRuntime action.parameters := by
  intro h
  have hcalls := Sample.approvedTwice_calls.1
  rcases hfirst : Sample.toolCalls Sample.approvedTwice with _ | ⟨call, rest⟩
  · rw [hfirst] at hcalls
    cases hcalls
  · rw [hfirst, List.map_cons, List.cons_eq_cons] at hcalls
    have hmem : call ∈ Sample.toolCalls Sample.approvedTwice := by
      rw [hfirst]
      exact List.mem_cons_self ..
    obtain ⟨⟨bound, hbound, _⟩, _⟩ := h call.1 call.2 (Sample.mem_toolCalls hmem)
    have hnone := congrArg Prod.fst hcalls.1
    simp only [hbound] at hnone
    cases hnone

end ProofAgent
