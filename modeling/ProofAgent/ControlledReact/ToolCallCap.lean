import ProofAgent.ControlledReact.ToolAuthority

/-! # The cap on tool calls

A tool call that the policy allows is made only while the cap leaves room for it. An
approval that is decided is observed without that check, so a run stays within its
cap as long as every approval that is decided on finds room. -/
namespace ProofAgent

open Base ControlledReActOrchestrator

variable {W T S : Type}

/-- The tool observations of a state are within its cap. -/
def WithinCap (s : ControlledReActRunState) : Prop := s.toolRecords.length ≤ s.maxToolCalls

/-- One more tool observation would be. -/
def RoomForCall (s : ControlledReActRunState) : Prop := s.toolRecords.length < s.maxToolCalls

/-- The next observation of a phase may be one of a tool. -/
def RunPhase.CallsTool : RunPhase → Prop
  | .decided _ _ _ => True
  | .observed _ _ action => action.actionType = .proposeToolCall
  | _ => False

/-- The states that a run committed and saved are within their caps, and where a tool is
about to be observed there is room for it. -/
structure InCap (runId : String) (shown : List RunEvent) (p : RunPhase) : Prop where
  commits : ∀ s, .committed s ∈ shown → s.runId = runId → WithinCap s
  saves : ∀ x, .snapshotSaved x ∈ shown → x.state.runId = runId → WithinCap x.state
  state : ∀ s, p.state = some s → s.runId = runId → WithinCap s
  room : ∀ s, p.state = some s → s.runId = runId → p.CallsTool → RoomForCall s

variable {rt : Runtime} {knowledge : RunKnowledge} {ports : ControlledReActPorts W T S}
  {holds : S → ControlledReActRunStateSnapshot → Prop} {m : Machine W T S}
  {shown more : List RunEvent} {s s' : ControlledReActRunState} {action : ReActActionProposal}
  {runId : String} {p q : RunPhase}

/-! ## States -/

/-- The same run, with the same records under the same cap. -/
structure SameCalls (s s' : ControlledReActRunState) : Prop where
  run : s'.runId = s.runId
  records : s'.observationRecords = s.observationRecords
  cap : s'.maxToolCalls = s.maxToolCalls

theorem SameCalls.withinCap (h : SameCalls s s') (hs : WithinCap s) : WithinCap s' := by
  unfold WithinCap ControlledReActRunState.toolRecords at *
  rw [h.records, h.cap]
  exact hs

theorem SameCalls.roomForCall (h : SameCalls s s') (hs : RoomForCall s) : RoomForCall s' := by
  unfold RoomForCall ControlledReActRunState.toolRecords at *
  rw [h.records, h.cap]
  exact hs

theorem withinCap_fresh (h : s.Fresh) : WithinCap s := by
  unfold WithinCap ControlledReActRunState.toolRecords
  rw [h.records]
  exact Nat.zero_le _

/-- A commit stays within the cap if there was room for a tool observation. -/
theorem ControlledReActOrchestrator.CommittedTo.withinCap {commits : List RunEvent}
    (h : CommittedTo s action s' commits) (hs : WithinCap s)
    (hroom : action.actionType = .proposeToolCall → RoomForCall s) : WithinCap s' := by
  cases h with
  | again => exact hs
  | recorded record htype hnext =>
    subst hnext
    unfold WithinCap ControlledReActRunState.toolRecords at *
    simp only [List.filter_append, List.length_append]
    by_cases htool : record.actionType = .proposeToolCall
    · have hlt := hroom (htype.symm.trans htool)
      unfold RoomForCall ControlledReActRunState.toolRecords at hlt
      simp only [htool, decide_true, List.filter_cons_of_pos, List.filter_nil, List.length_singleton]
      omega
    · simp only [htool, decide_false, Bool.false_eq_true, not_false_eq_true,
        List.filter_cons_of_neg, List.filter_nil, List.length_nil, Nat.add_zero]
      exact hs

/-! ## Moves -/

/-- An event that commits and saves nothing of the run beyond its cap. -/
def KeepsCap (runId : String) : RunEvent → Prop
  | .committed s => s.runId = runId → WithinCap s
  | .snapshotSaved x => x.state.runId = runId → WithinCap x.state
  | _ => True

theorem InCap.first : InCap runId [] .idle where
  commits s hs := by cases hs
  saves x hx := by cases hx
  state s hs := by cases hs
  room s hs := by cases hs

/-- A phase that follows, with the events that led to it. -/
theorem InCap.next (h : InCap runId shown p) (hmore : ∀ e ∈ more, KeepsCap runId e)
    (hstate : ∀ s, q.state = some s → s.runId = runId → WithinCap s)
    (hroom : ∀ s, q.state = some s → s.runId = runId → q.CallsTool → RoomForCall s) :
    InCap runId (shown ++ more) q where
  commits s hs hrun := by
    rcases List.mem_append.mp hs with hs | hs
    · exact h.commits s hs hrun
    · exact hmore _ hs hrun
  saves x hx hrun := by
    rcases List.mem_append.mp hx with hx | hx
    · exact h.saves x hx hrun
    · exact hmore _ hx hrun
  state := hstate
  room := hroom

/-- A phase with the same records that observes no tool, after an event of no matter. -/
theorem InCap.on (h : InCap runId shown p) (hp : p.state = some s) (hq : q.state = some s')
    (hsame : SameCalls s s') (hcalls : ¬ q.CallsTool) (hmore : ∀ e ∈ more, KeepsCap runId e) :
    InCap runId (shown ++ more) q := by
  refine h.next hmore (fun t ht hrun => ?_) fun t ht hrun hq => absurd hq hcalls
  rw [hq] at ht
  cases ht
  exact hsame.withinCap (h.state s hp (hsame.run.symm.trans hrun))

/-- A tool is about to be observed: there is room for it. -/
theorem InCap.calling (h : InCap runId shown p) (hp : p.state = some s) (hq : q.state = some s')
    (hsame : SameCalls s s') (hroom : s.runId = runId → RoomForCall s)
    (hmore : ∀ e ∈ more, KeepsCap runId e) : InCap runId (shown ++ more) q := by
  refine h.next hmore (fun t ht hrun => ?_) fun t ht hrun _ => ?_
  · rw [hq] at ht
    cases ht
    exact hsame.withinCap (h.state s hp (hsame.run.symm.trans hrun))
  · rw [hq] at ht
    cases ht
    exact hsame.roomForCall (hroom (hsame.run.symm.trans hrun))

theorem keepsCap_nil : ∀ e ∈ ([] : List RunEvent), KeepsCap runId e := fun _ he => by cases he

theorem keepsCap_one {e : RunEvent} (h : KeepsCap runId e) : ∀ e' ∈ [e], KeepsCap runId e' := by
  intro e' he
  cases List.mem_singleton.mp he
  exact h

/-- Binding changes neither the run nor its records. -/
theorem ControlledReActOrchestrator.Dispatched.sameCalls
    {bound : ControlledReActRunState × ReActActionProposal} (h : Dispatched rt s action bound) :
    SameCalls s bound.1 := by
  obtain ⟨parameters, hbind⟩ := h.binds
  obtain ⟨_, rfl⟩ | ⟨_, _, _, _, rfl⟩ := bindToolProposal_ok hbind
  · exact ⟨rfl, rfl, rfl⟩
  · exact ⟨rfl, rfl, rfl⟩

/-- **Every move stays within the cap**, if an approval that it decides finds room. -/
theorem RunMove.inCap (h : InCap runId shown p) (hmove : RunMove rt ports p more q)
    (happrovals : ∀ request s, .approvalDecided request s ∈ more → s.runId = runId → RoomForCall s) :
    InCap runId (shown ++ more) q := by
  cases hmove with
  | restarted limit => exact h.on rfl rfl ⟨rfl, rfl, rfl⟩ id keepsCap_nil
  | @decided x request action hpending =>
    refine h.calling (s := x.state) rfl rfl ⟨rfl, rfl, rfl⟩ (fun hrun => ?_) (keepsCap_one trivial)
    exact happrovals request x.state (List.mem_singleton.mpr rfl) hrun
  | @approved request state action happroved hintegrity =>
    exact h.calling (s := state) rfl rfl ⟨rfl, rfl, rfl⟩ (fun hrun => h.room state rfl hrun trivial)
      (keepsCap_one trivial)
  | @denied request state action hdenied =>
    exact h.calling (s := state) rfl rfl ⟨rfl, rfl, rfl⟩ (fun hrun => h.room state rfl hrun trivial)
      keepsCap_nil
  | resolved scope hport => exact h.on rfl rfl ⟨rfl, rfl, rfl⟩ id (keepsCap_one trivial)
  | unscoped hport => exact h.on rfl rfl ⟨rfl, rfl, rfl⟩ id keepsCap_nil
  | chosen eligible action hround => exact h.on rfl rfl ⟨rfl, rfl, rfl⟩ id keepsCap_nil
  | gap requirement hanswer hround => exact h.on rfl rfl ⟨rfl, rfl, rfl⟩ id keepsCap_nil
  | @retrieved limit state action hretrieval =>
    refine h.on (s := state) rfl rfl ⟨rfl, rfl, rfl⟩ (fun htool => ?_) (keepsCap_one trivial)
    have hboth := hretrieval.symm.trans htool
    cases hboth
  | evaluated hdispatch hpolicy =>
    refine h.on rfl rfl hdispatch.sameCalls id ?_
    cases hpolicy with
    | policy hport => exact keepsCap_one trivial
    | unasked hport hdecision => exact keepsCap_nil
  | @called limit bound hcap =>
    exact h.calling (s := bound.1) rfl rfl ⟨rfl, rfl, rfl⟩ (fun _ => hcap) (keepsCap_one trivial)
  | @paused limit bound decision request =>
    refine h.next (keepsCap_one fun hrun => ?_) (fun s hs => by cases hs) fun s hs => by cases hs
    have hsame : SameCalls bound.1 (pauseSnapshot rt request bound.1 bound.2).state := ⟨rfl, rfl, rfl⟩
    exact hsame.withinCap (h.state bound.1 rfl hrun)
  | @recorded limit observing next action commits hcommit =>
    have hrun : next.runId = observing.runId := by
      cases hcommit with
      | again => rfl
      | recorded record htype hnext =>
        rw [hnext]
    have hnext : next.runId = runId → WithinCap next := fun hid =>
      hcommit.withinCap (h.state observing rfl (hrun.symm.trans hid)) fun htool =>
        h.room observing rfl (hrun.symm.trans hid) htool
    refine h.next ?_ (fun s hs hid => ?_) fun s hs hid hcalls => hcalls.elim
    · cases hcommit with
      | again => exact keepsCap_nil
      | recorded record htype heq => exact keepsCap_one hnext
    · cases hs
      exact hnext hid
  | @checkpointed limit state action saves hsave =>
    refine h.on (s := state) rfl rfl ⟨rfl, rfl, rfl⟩ id ?_
    cases hsave with
    | skipped => exact keepsCap_nil
    | saved htool htask =>
      refine keepsCap_one fun hrun => ?_
      have hsame : SameCalls state (taskCheckpoint state).state := ⟨rfl, rfl, rfl⟩
      exact hsame.withinCap (h.state state rfl hrun)

/-- What a run saved is within its cap, also once it is read back. -/
theorem WasSaved.withinCap {x : ControlledReActRunStateSnapshot} (h : WasSaved shown x)
    (hsaves : ∀ x, .snapshotSaved x ∈ shown → x.state.runId = runId → WithinCap x.state)
    (hrun : x.state.runId = runId) : WithinCap x.state := by
  obtain ⟨saved, hmem, rfl | rfl⟩ := h
  · exact hsaves _ hmem hrun
  · have hsaved : WithinCap saved.state := hsaves saved hmem hrun
    exact hsaved

/-- **So does every history**, if every approval that it decides finds room. -/
theorem HistoryTrail.inCap (h : HistoryTrail rt ports .idle shown p)
    (hloads : Justified LoadsSaved shown)
    (happrovals : ∀ request s, .approvalDecided request s ∈ shown → s.runId = runId →
      RoomForCall s) : InCap runId shown p := by
  have hinv := h.invariant (I := fun shown p => Justified LoadsSaved shown →
    (∀ request s, .approvalDecided request s ∈ shown → s.runId = runId → RoomForCall s) →
      InCap runId shown p) (fun shown p more q hp hmove hloads happrovals => ?_)
    (fun _ _ => InCap.first : _ → _ → InCap runId [] .idle)
  · exact hinv hloads happrovals
  · have hbefore := hp hloads.before fun request s hs =>
      happrovals request s (List.mem_append_left _ hs)
    cases hmove with
    | inside hmove =>
      exact RunMove.inCap hbefore hmove fun request s hs =>
        happrovals request s (List.mem_append_right _ hs)
    | left p => exact hbefore.next keepsCap_nil (fun s hs => by cases hs) fun s hs => by cases hs
    | started limit hfresh =>
      refine hbefore.next keepsCap_nil (fun s hs _ => ?_) fun s _ _ hcalls => hcalls.elim
      cases hs
      exact withinCap_fresh hfresh
    | loaded snapshot =>
      refine hbefore.next (keepsCap_one trivial) (fun s hs hrun => ?_) fun s _ _ hcalls => hcalls.elim
      cases hs
      exact (hloads.last snapshot rfl).withinCap hbefore.saves hrun

namespace Sample

/-- A run pauses once and is approved; the next proposal is refused for want of rounds. -/
def approvedOnce : List (OrchestratorCall Unit InMemoryObservationTruthStore InMemorySnapshotStore) :=
  [.start 3 startRequest, .resume 3 { approval "0" "1" with maxPlanRounds := 1 }]

/-- The approvals of a journal, with the tool records of their states and the caps. -/
def approvals (m : Machine Unit InMemoryObservationTruthStore InMemorySnapshotStore) :
    List (Nat × Nat) :=
  m.journal.filterMap fun
    | .approvalDecided _ s => some (s.toolRecords.length, s.maxToolCalls)
    | _ => none

theorem mem_approvals {m : Machine Unit InMemoryObservationTruthStore InMemorySnapshotStore}
    {request : ControlledReActResumeRequest} {s : ControlledReActRunState}
    (h : .approvalDecided request s ∈ m.journal) :
    (s.toolRecords.length, s.maxToolCalls) ∈ approvals m :=
  List.mem_filterMap.mpr ⟨_, h, rfl⟩

theorem approvedOnce_calls :
    let m := operate digestRuntime runKnowledge approvalPorts approvedOnce machine
    approvals m = [(0, 1)] ∧ committedCalls m = [("run", 1, 1)] := by
  decide +kernel

end Sample

end ProofAgent
