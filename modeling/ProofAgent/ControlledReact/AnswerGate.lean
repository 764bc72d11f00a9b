import ProofAgent.ControlledReact.RunHistories

/-! # The gate of required evidence

The records of a state were all committed in its own run: an observation is added by
a commit, and a snapshot passes on what its run had committed. With the gate of the
final answer this says what an answered result rests on. -/
namespace ProofAgent

open Base ControlledReActOrchestrator

variable {W T S : Type} {rt : Runtime} {knowledge : RunKnowledge} {ports : ControlledReActPorts W T S}
  {holds : S → ControlledReActRunStateSnapshot → Prop} {m : Machine W T S}

/-- A record was committed in a run: a commit of the run added it. -/
def CommittedIn (shown : List RunEvent) (runId : String) (r : ObservationRecord) : Prop :=
  ∃ committed, .committed committed ∈ shown ∧ committed.runId = runId ∧
    committed.observationRecords.getLast? = some r

/-- The records of a state were committed in the state's run. -/
def OwnRecords (shown : List RunEvent) (s : ControlledReActRunState) : Prop :=
  ∀ r ∈ s.observationRecords, CommittedIn shown s.runId r

namespace OwnRecords

variable {shown : List RunEvent} {s s' : ControlledReActRunState}

theorem append (h : OwnRecords shown s) (more : List RunEvent) : OwnRecords (shown ++ more) s := by
  intro r hr
  obtain ⟨committed, hmem, hrun, hrec⟩ := h r hr
  exact ⟨committed, List.mem_append_left _ hmem, hrun, hrec⟩

/-- Only the run and the records of a state matter. -/
theorem of_same (h : OwnRecords shown s) (hrun : s'.runId = s.runId)
    (hrecords : s'.observationRecords = s.observationRecords) : OwnRecords shown s' := by
  intro r hr
  rw [hrecords] at hr
  rw [hrun]
  exact h r hr

theorem of_fresh (h : s.Fresh) : OwnRecords shown s := by
  intro r hr
  rw [h.records] at hr
  cases hr

/-- A commit adds a record that it shows. -/
theorem committed {action : ReActActionProposal} {commits : List RunEvent}
    (h : OwnRecords shown s) (hcommit : CommittedTo s action s' commits) :
    OwnRecords (shown ++ commits) s' := by
  cases hcommit with
  | again => exact h.append _
  | recorded record htype hnext =>
    subst hnext
    intro r hr
    rcases List.mem_append.mp hr with hr | hr
    · exact h.append _ r hr
    · cases List.mem_singleton.mp hr
      exact ⟨_, List.mem_append_right _ (List.mem_singleton.mpr rfl), rfl, List.getLast?_concat⟩

end OwnRecords

/-- A snapshot is saved with records of its own run. -/
def SavesOwn (before : List RunEvent) (e : RunEvent) : Prop :=
  ∀ x, e = .snapshotSaved x → OwnRecords before x.state

/-- What was saved has records of its own run, also once it is read back. -/
theorem WasSaved.ownRecords {shown : List RunEvent} {x : ControlledReActRunStateSnapshot}
    (h : WasSaved shown x) (hsaves : Justified SavesOwn shown) : OwnRecords shown x.state := by
  obtain ⟨saved, hmem, hx⟩ := h
  obtain ⟨before, after, rfl⟩ := List.append_of_mem hmem
  have hown := (hsaves before _ after rfl saved rfl).append (.snapshotSaved saved :: after)
  rcases hx with rfl | rfl
  · exact hown
  · exact hown.of_same rfl rfl

/-- Wherever a run stands, its records are its own. -/
structure OwnIn (shown : List RunEvent) (p : RunPhase) : Prop where
  saves : Justified SavesOwn shown
  state : ∀ s, p.state = some s → OwnRecords shown s

/-- A phase with the same run and records, after an event that saves nothing. -/
theorem OwnIn.on {shown more : List RunEvent} {p q : RunPhase} {s : ControlledReActRunState}
    (h : OwnIn shown p) (hp : p.state = some s)
    (hq : ∀ s', q.state = some s' → s'.runId = s.runId ∧ s'.observationRecords = s.observationRecords)
    (hmore : more = [] ∨ ∃ e, more = [e] ∧ SavesOwn shown e) : OwnIn (shown ++ more) q := by
  refine ⟨?_, fun s' hs' => ?_⟩
  · rcases hmore with rfl | ⟨e, rfl, he⟩
    · rw [List.append_nil]
      exact h.saves
    · exact h.saves.concat he
  · obtain ⟨hrun, hrecords⟩ := hq s' hs'
    exact ((h.state s hp).append more).of_same hrun hrecords

/-- **Every move keeps the records of a run its own.** -/
theorem RunMove.own {shown more : List RunEvent} {p q : RunPhase} (h : OwnIn shown p)
    (hmove : RunMove rt ports p more q) : OwnIn (shown ++ more) q := by
  have hquiet : ∀ {e : RunEvent}, (∀ x, e ≠ .snapshotSaved x) → SavesOwn shown e :=
    fun hne x hx => absurd hx (hne x)
  cases hmove with
  | restarted limit =>
    refine h.on rfl ?_ (.inl rfl)
    rintro _ ⟨⟩
    exact ⟨rfl, rfl⟩
  | decided hpending =>
    refine h.on rfl ?_ (.inr ⟨_, rfl, hquiet (by simp)⟩)
    rintro _ ⟨⟩
    exact ⟨rfl, rfl⟩
  | approved happroved hintegrity =>
    refine h.on rfl ?_ (.inr ⟨_, rfl, hquiet (by simp)⟩)
    rintro _ ⟨⟩
    exact ⟨rfl, rfl⟩
  | denied hdenied =>
    refine h.on rfl ?_ (.inl rfl)
    rintro _ ⟨⟩
    exact ⟨rfl, rfl⟩
  | resolved scope hport =>
    refine h.on rfl ?_ (.inr ⟨_, rfl, hquiet (by simp)⟩)
    rintro _ ⟨⟩
    exact ⟨rfl, rfl⟩
  | unscoped hport =>
    refine h.on rfl ?_ (.inl rfl)
    rintro _ ⟨⟩
    exact ⟨rfl, rfl⟩
  | chosen eligible action hround =>
    refine h.on rfl ?_ (.inl rfl)
    rintro _ ⟨⟩
    exact ⟨rfl, rfl⟩
  | gap requirement hanswer hround =>
    refine h.on rfl ?_ (.inl rfl)
    rintro _ ⟨⟩
    exact ⟨rfl, rfl⟩
  | retrieved hretrieval =>
    refine h.on rfl ?_ (.inr ⟨_, rfl, hquiet (by simp)⟩)
    rintro _ ⟨⟩
    exact ⟨rfl, rfl⟩
  | evaluated hdispatch hpolicy =>
    refine h.on rfl ?_ ?_
    · rintro _ ⟨⟩
      obtain ⟨parameters, hbind⟩ := hdispatch.binds
      obtain ⟨_, rfl⟩ | ⟨_, _, _, _, rfl⟩ := bindToolProposal_ok hbind
      · exact ⟨rfl, rfl⟩
      · exact ⟨rfl, rfl⟩
    · cases hpolicy with
      | policy hport => exact .inr ⟨_, rfl, hquiet (by simp)⟩
      | unasked hport hdecision => exact .inl rfl
  | called hcap =>
    refine h.on rfl ?_ (.inr ⟨_, rfl, hquiet (by simp)⟩)
    rintro _ ⟨⟩
    exact ⟨rfl, rfl⟩
  | paused request =>
    refine h.on rfl (fun s' hs' => by cases hs') (.inr ⟨_, rfl, ?_⟩)
    rintro _ ⟨⟩
    exact (h.state _ rfl).of_same rfl rfl
  | recorded hcommit =>
    refine ⟨?_, ?_⟩
    · cases hcommit with
      | again =>
        rw [List.append_nil]
        exact h.saves
      | recorded record htype hnext => exact h.saves.concat (hquiet (by simp))
    · rintro _ ⟨⟩
      exact (h.state _ rfl).committed hcommit
  | checkpointed hsave =>
    refine h.on rfl ?_ ?_
    · rintro _ ⟨⟩
      exact ⟨rfl, rfl⟩
    · cases hsave with
      | skipped => exact .inl rfl
      | saved htool htask =>
        refine .inr ⟨_, rfl, ?_⟩
        rintro _ ⟨⟩
        exact (h.state _ rfl).of_same rfl rfl

/-- **So does every history.** -/
theorem HistoryTrail.own {shown : List RunEvent} {p : RunPhase}
    (h : HistoryTrail rt ports .idle shown p) (hloads : Justified LoadsSaved shown) :
    OwnIn shown p := by
  have hinv := h.invariant (I := fun shown p => Justified LoadsSaved shown → OwnIn shown p)
    (fun shown p more q hp hmove hloads => ?_) fun _ => ⟨.nil, fun s hs => by cases hs⟩
  · exact hinv hloads
  · have hown := hp hloads.before
    cases hmove with
    | inside hmove => exact RunMove.own hown hmove
    | left p => exact ⟨by rw [List.append_nil]; exact hown.saves, fun s hs => by cases hs⟩
    | started limit hfresh =>
      refine ⟨by rw [List.append_nil]; exact hown.saves, ?_⟩
      rintro _ ⟨⟩
      exact .of_fresh hfresh
    | loaded snapshot =>
      refine ⟨hown.saves.concat fun x hx => (nomatch hx), ?_⟩
      rintro _ ⟨⟩
      exact ((hloads.last snapshot rfl).ownRecords hown.saves).append _

/-! ## The gate -/

/-- What a cited answer rests on: every query that its intent requires is served by
a record that was committed in its run. -/
def EvidenceGated (rt : Runtime) (ports : ControlledReActPorts W T S) (shown : List RunEvent)
    (result : WorkflowTemplateExecutionResult) : Prop :=
  ∃ requirements, requiredRetrievals rt result.intentResolution = .ok requirements ∧
    ∀ requirement ∈ requirements, ∃ record truth, CommittedIn shown result.runId record ∧
      LoadedFor ports record (.retrieval truth) ∧
      ServesQuery rt result.runId requirement.query record truth

/-- **A result that is given after a history** is gated, if it is a cited answer. -/
theorem Trailed.gated {p : RunPhase} (h : Trailed rt ports holds m p)
    {result : WorkflowTemplateExecutionResult} (hgiven : GivenIn rt ports p (some result))
    (houtcome : result.outcome = .answeredWithCitations) :
    EvidenceGated rt ports m.journal result := by
  obtain ⟨limit, state, action, rfl, hanswers⟩ := hgiven result rfl houtcome
  have hown : OwnRecords m.journal state := (h.trail.own h.sound.loads).state state rfl
  obtain ⟨requirements, hreq, hserved⟩ := hanswers.served
  refine ⟨requirements, by rw [hanswers.intent]; exact hreq, fun requirement hmem => ?_⟩
  obtain ⟨record, hrecord, truth, hload, hserves⟩ := hserved requirement hmem
  rw [hanswers.run]
  exact ⟨record, truth, hown record hrecord, hload, hserves⟩

/-- Every call that gives a cited answer, after whatever was called before, gives it
on the evidence that its intent requires. -/
theorem answers_gated (hkeep : ports.KeepSnapshots holds) (hunused : m.Unused holds)
    (calls : List (OrchestratorCall W T S)) (fuel : Nat) (result : WorkflowTemplateExecutionResult)
    (houtcome : result.outcome = .answeredWithCitations) (m' : Machine W T S) :
    (∀ request, start rt knowledge ports fuel request (operate rt knowledge ports calls m)
        = (.ok (some result), m') → EvidenceGated rt ports m'.journal result) ∧
      ∀ request, resume rt knowledge ports fuel request (operate rt knowledge ports calls m)
        = (.ok (some result), m') → EvidenceGated rt ports m'.journal result := by
  have htrailed : Trailed rt ports holds (operate rt knowledge ports calls m) .idle :=
    operate_trailed hkeep hunused calls
  refine ⟨fun request hstart => ?_, fun request hresume => ?_⟩
  · obtain ⟨p, hp, hgiven⟩ := htrailed.start hkeep hstart
    exact hp.gated hgiven houtcome
  · obtain ⟨p, hp, hgiven⟩ := htrailed.resume hkeep hresume
    exact hp.gated hgiven houtcome

namespace Sample

def chunk : EvidenceChunk where
  source := "report"
  content := "text"
  status := .accepted
  citation := some "report#1"

/-- The planner retrieves once and then answers. -/
def retrievalPorts :
    ControlledReActPorts Unit InMemoryObservationTruthStore InMemorySnapshotStore :=
  let planner (state : ControlledReActRunState) :=
    if state.observationRecords = [] then
      proposal "ask" .planRetrieval (.ofFields [("query", .str "query")])
    else proposal "answer" .generateFinalAnswer .empty
  { orchestratorPorts planner .allow with
    answerSynthesis := fun _ _ _ => pure
      { outcome := .answeredWithCitations, finalOutput := "text", message := "text"
        evidence := [chunk] }
    intentResolution := some fun _ => pure
      (.ofFields [("retrieval_query_set",
        .arr [.obj [("query", .str "query"), ("required", .bool true)]])], none)
    knowledgeObservation := some fun state action identity => pure
      { observationRecord :=
          { observationId := identity.observationId, actionId := action.actionId
            actionType := action.actionType, round := state.planRound, truthRef := identity.truthRef
            acceptedEvidenceCount := 1, sourceRefs := ["report"], citationRefs := ["report#1"] }
        truthArtifact := .retrieval
          { truthRef := identity.truthRef, observationId := identity.observationId
            actionId := action.actionId, acceptedEvidence := [chunk]
            admissionMetadata := .ofFields [("query", .str "query")], citationRefs := ["report#1"] } } }

theorem retrieval_answered : gave .answeredWithCitations
    (start digestRuntime runKnowledge retrievalPorts 3 startRequest machine).1 = true := by
  decide +kernel

end Sample

/-- A run with one required query gives a cited answer. -/
theorem answers_gated_retrieval : ∃ result m',
    start Sample.digestRuntime Sample.runKnowledge Sample.retrievalPorts 3 Sample.startRequest
        Sample.machine = (.ok (some result), m') ∧
      result.outcome = .answeredWithCitations ∧
      EvidenceGated Sample.digestRuntime Sample.retrievalPorts m'.journal result := by
  have hgave := Sample.retrieval_answered
  rcases hstart : start Sample.digestRuntime Sample.runKnowledge Sample.retrievalPorts 3
    Sample.startRequest Sample.machine with ⟨r, m'⟩
  rw [hstart] at hgave
  obtain ⟨result, rfl, houtcome⟩ := Sample.gave_iff.mp hgave
  have hkeep : Sample.retrievalPorts.KeepSnapshots InMemorySnapshotStore.Holds :=
    Sample.keepSnapshots rfl
  have hgated := @answers_gated _ _ _ Sample.digestRuntime Sample.runKnowledge _ _ _ hkeep
    Sample.machine_unused [] 3 result houtcome m'
  exact ⟨result, m', rfl, houtcome, hgated.1 Sample.startRequest hstart⟩

end ProofAgent
