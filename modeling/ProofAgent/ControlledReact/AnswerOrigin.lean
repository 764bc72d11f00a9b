import ProofAgent.ControlledReact.AnswerGate
import ProofAgent.ControlledReact.FinalAnswerGate

/-! # Where an answer comes from

A run gives a cited answer in one place of its loop. It is the report of a tool task, or the
synthesis port gave it over truths that were loaded for the records of the run's state. -/
namespace ProofAgent

open Base Answers

variable {W T S : Type} {rt : Runtime} {knowledge : RunKnowledge} {ports : ControlledReActPorts W T S}

/-- The synthesis port gave the answer that a result shows. -/
structure SynthesizedOver (ports : ControlledReActPorts W T S) (state : ControlledReActRunState)
    (context : AnswerEvidenceContext) (result : WorkflowTemplateExecutionResult) : Prop where
  stages : result.stages = some state
  loaded : List.Forall₂ (LoadedFor ports) state.observationRecords context.observationTruth
  given : ∃ action answer w w', ports.answerSynthesis state action context w = (.ok answer, w') ∧
    answer.outcome = .answeredWithCitations ∧ result.message = answer.message ∧
    result.evidence = answer.evidence

/-- A cited answer reports a tool task, or it was synthesized. -/
def Originates (ports : ControlledReActPorts W T S) (result : WorkflowTemplateExecutionResult) : Prop :=
  result.outcome = .answeredWithCitations →
    result.toolTaskReport.isSome = true ∨ ∃ state context, SynthesizedOver ports state context result

theorem Originates.of_other {result : WorkflowTemplateExecutionResult}
    (h : result.outcome ≠ .answeredWithCitations) : Originates ports result :=
  fun houtcome => absurd houtcome h

namespace ControlledReActOrchestrator

open Orchestration

/-! ## The final answer -/

/-- A refusal in place of an answer. -/
def Refuses (refusal : Option AnswerSynthesisResult) : Prop :=
  ∀ a, refusal = some a → a.outcome ≠ .answeredWithCitations

theorem Refuses.none : Refuses none := fun _ h => by cases h

theorem Refuses.refusal {message : String} {evidence : List EvidenceChunk} :
    Refuses (some { controlAnswer .refusedNoEvidence message with evidence }) := by
  rintro _ ⟨⟩ h
  cases h

/-- If one is still an answer, so was the other, and it shows the same. -/
def SameAnswer (answer admitted : AnswerSynthesisResult) : Prop :=
  admitted.outcome = .answeredWithCitations → answer.outcome = .answeredWithCitations ∧
    admitted.message = answer.message ∧ admitted.evidence = answer.evidence

theorem SameAnswer.of_other {answer admitted : AnswerSynthesisResult}
    (h : admitted.outcome ≠ .answeredWithCitations) : SameAnswer answer admitted :=
  fun houtcome => absurd houtcome h

theorem sameAnswer_withoutGaps (answer : AnswerSynthesisResult) :
    SameAnswer answer answer.withoutGaps := by
  unfold AnswerSynthesisResult.withoutGaps
  split
  · intro houtcome
    have hanswered : answer.outcome = .answeredWithCitations := houtcome
    exact ⟨hanswered, by simp [hanswered], rfl⟩
  · exact fun houtcome => ⟨houtcome, rfl, rfl⟩

theorem refuseUnassuredAnswer_yields (state : ControlledReActRunState)
    (context : AnswerEvidenceContext) (progress : ToolTaskProgress) (answer : AnswerSynthesisResult) :
    Yields (refuseUnassuredAnswer knowledge ports state context progress answer) Refuses := by
  unfold refuseUnassuredAnswer
  dsimp only
  split
  · exact Yields.ret .none
  · refine Yields.andThen fun violations => Yields.andThen fun _ => ?_
    exact Yields.ite (fun _ => Yields.ret .none) fun _ => Yields.ret .refusal

theorem refuseUnverifiedGoal_yields (state : ControlledReActRunState)
    (context : AnswerEvidenceContext) (progress : ToolTaskProgress) (answer : AnswerSynthesisResult) :
    Yields (refuseUnverifiedGoal rt knowledge ports state context progress answer) Refuses := by
  unfold refuseUnverifiedGoal
  split
  · exact Yields.ret .none
  · refine Yields.andThen fun completion => Yields.andThen fun _ => ?_
    exact Yields.ite (fun _ => Yields.ret .refusal) fun _ => Yields.ret .none

theorem answerInPolicy_yields (state : ControlledReActRunState) (action : ReActActionProposal)
    (context : AnswerEvidenceContext) {answer : AnswerSynthesisResult}
    (h : answer.outcome = .answeredWithCitations) :
    Yields (answerInPolicy ports state action context answer) (SameAnswer answer) := by
  unfold answerInPolicy
  split
  · exact Yields.ret fun _ => ⟨h, rfl, rfl⟩
  · refine Yields.andThen fun decision => Yields.ite (fun _ => Yields.ret ?_) fun _ => Yields.ret ?_
    · exact fun _ => ⟨h, rfl, rfl⟩
    · exact .of_other fun houtcome => by cases houtcome

/-- What is admitted is the answer as it was, or a refusal. -/
theorem admitFinalAnswer_yields (state : ControlledReActRunState) (action : ReActActionProposal)
    (context : AnswerEvidenceContext) (answer : AnswerSynthesisResult) :
    Yields (admitFinalAnswer rt knowledge ports state action context answer) (SameAnswer answer) := by
  unfold admitFinalAnswer
  refine Yields.ite (fun _ => Yields.ret fun houtcome => ⟨houtcome, rfl, rfl⟩) fun hanswered => ?_
  have hanswered : answer.outcome = .answeredWithCitations := not_not.mp hanswered
  refine Yields.andThen fun progress => Yields.andThen fun _ => ?_
  refine (refuseUnassuredAnswer_yields _ _ _ _).bind fun unassured hunassured => ?_
  split
  · exact Yields.ret (.of_other (hunassured _ rfl))
  · refine (refuseUnverifiedGoal_yields _ _ _ _).bind fun unverified hunverified => ?_
    split
    · exact Yields.ret (.of_other (hunverified _ rfl))
    · refine (answerInPolicy_yields state action context ?_).mono fun admitted h => h
      exact hanswered

/-- What is synthesized comes with a report, or from the port. -/
theorem synthesizeAnswer_yields (state : ControlledReActRunState) (action : ReActActionProposal)
    (context : AnswerEvidenceContext) :
    Yields (synthesizeAnswer rt knowledge ports state action context) fun p =>
      p.2.outcome = .answeredWithCitations → p.1.isSome = true ∨
        ∃ w w', ports.answerSynthesis state action context w = (.ok p.2, w') := by
  unfold synthesizeAnswer
  refine Yields.ite (fun _ => ?_) fun _ => ?_
  · exact Yields.andThen fun report => Yields.ret fun _ => .inl rfl
  have hrefused : Yields (refuseUnassured knowledge ports context) Refuses := by
    unfold refuseUnassured
    split
    · exact Yields.ret .none
    · refine Yields.andThen fun violations => Yields.ite (fun _ => Yields.ret .none) fun _ => ?_
      exact Yields.andThen fun _ => Yields.ret .refusal
  refine hrefused.bind fun refused hrefused => ?_
  split
  · exact Yields.ret fun houtcome => absurd houtcome (hrefused _ rfl)
  · refine Yields.focus.bind fun answer hanswer => Yields.ret fun _ => .inr hanswer

theorem endWithAnswer_yields (state : ControlledReActRunState) (action : ReActActionProposal)
    (context : AnswerEvidenceContext) (report : Option ToolTaskReport)
    (answer : AnswerSynthesisResult) :
    Yields (endWithAnswer rt knowledge ports state action context report answer) fun step =>
      ∃ admitted, SameAnswer answer admitted ∧
        step = .inr { workflowResultFromAnswer state admitted with
          toolTaskReport := if admitted.outcome = .answeredWithCitations then report else none } := by
  refine (admitFinalAnswer_yields _ _ _ _).bind fun admitted hsame => ?_
  exact Yields.andThen fun _ => Yields.ret ⟨admitted, hsame, rfl⟩

/-! ## The loop -/

/-- What a step ends a run with. -/
def EndsOriginal (ports : ControlledReActPorts W T S) (step : LoopStep) : Prop :=
  ∀ result, step = .inr result → Originates ports result

theorem EndsOriginal.inl {next : ControlledReActRunState × ReActActionProposal} :
    EndsOriginal ports (.inl next) := fun _ h => by cases h

theorem EndsOriginal.inr {result : WorkflowTemplateExecutionResult} (h : Originates ports result) :
    EndsOriginal ports (.inr result) := by
  rintro _ ⟨⟩
  exact h

theorem withTaskCompletion_yields {state : ControlledReActRunState}
    {result : WorkflowTemplateExecutionResult} (h : result.outcome ≠ .answeredWithCitations) :
    Yields (withTaskCompletion rt knowledge ports state result) (EndsOriginal ports) :=
  Yields.andThen fun _ => Yields.ret (.inr (.of_other h))

theorem goOn_yields (state : ControlledReActRunState) (maxPlanRounds : Nat) :
    Yields (goOn rt knowledge ports state maxPlanRounds) (EndsOriginal ports) :=
  Yields.andThen fun _ => Yields.ret .inl

theorem refusePlanBudgetExhausted_yields (request : ControlledReActStartRequest)
    (action : ReActActionProposal) (state : ControlledReActRunState) :
    Yields (refusePlanBudgetExhausted rt knowledge ports request action state)
      fun result => result.outcome ≠ .answeredWithCitations :=
  Yields.andThen fun _ => Yields.andThen fun _ => Yields.ret fun h => by cases h

theorem askClarification_yields (request : ControlledReActStartRequest)
    (action : ReActActionProposal) (state : ControlledReActRunState)
    (structuredFields : Option (List QuestionField)) :
    Yields (askClarification rt ports request action state structuredFields)
      fun result => result.outcome ≠ .answeredWithCitations := by
  have hemits : Emits (journaled W T fun _ _ => True)
      (askClarification rt ports request action state structuredFields) _ _ :=
    askClarification_emits request action state structuredFields
  exact Yields.of_emits hemits fun _ _ h => h.2

theorem pauseForToolApproval_yields (request : ControlledReActStartRequest)
    (state : ControlledReActRunState) (action : ReActActionProposal) :
    Yields (pauseForToolApproval rt ports request state action)
      fun result => result.outcome ≠ .answeredWithCitations :=
  Yields.andThen fun _ => Yields.andThen fun _ => Yields.andThen fun _ =>
    Yields.ret fun h => by cases h

/-- **The final answer** has its origin. -/
theorem finalAnswerStep_yields (request : ControlledReActStartRequest)
    (state : ControlledReActRunState) (action : ReActActionProposal) (maxPlanRounds : Nat) :
    Yields (finalAnswerStep rt knowledge ports request state action maxPlanRounds)
      (EndsOriginal ports) := by
  refine Yields.ite (fun _ => Yields.ret (.inr (.of_other fun h => by cases h))) fun _ => ?_
  have hemits : Emits (journaled W T fun _ _ => True) (answerEvidenceContext rt ports state) _ _ :=
    answerEvidenceContext_emits state
  refine (Yields.of_emits hemits fun _ _ h => h.2).bind fun context hloaded => ?_
  refine Yields.andThen fun progress => Yields.andThen fun _ => Yields.andThen fun completion => ?_
  refine Yields.ite (fun _ => ?_) fun _ => ?_
  · refine (refusePlanBudgetExhausted_yields _ _ _).bind fun result hresult => ?_
    exact Yields.ret (.inr (.of_other hresult))
  refine (synthesizeAnswer_yields _ _ _).bind fun p hp => ?_
  obtain ⟨report, answer⟩ := p
  simp only
  split
  · exact Yields.andThen fun _ => Yields.ret .inl
  refine (endWithAnswer_yields _ _ _ _ _).mono fun step hstep => ?_
  obtain ⟨admitted, hsame, rfl⟩ := hstep
  refine .inr fun houtcome => ?_
  have houtcome : admitted.outcome = .answeredWithCitations := houtcome
  obtain ⟨hgapless, hmessage, hevidence⟩ := hsame houtcome
  obtain ⟨hanswered, hmessage', hevidence'⟩ := sameAnswer_withoutGaps answer hgapless
  rcases hp hanswered with hreport | ⟨w, w', hgiven⟩
  · left
    rw [houtcome]
    exact hreport
  · right
    exact ⟨state, context, rfl, hloaded, action, answer, w, w', hgiven, hanswered,
      hmessage.trans hmessage', hevidence.trans hevidence'⟩

theorem toolStep_yields (request : ControlledReActStartRequest) (state : ControlledReActRunState)
    (action : ReActActionProposal) (maxPlanRounds : Nat) :
    Yields (toolStep rt knowledge ports request state action maxPlanRounds) (EndsOriginal ports) := by
  have hdispatch : ∀ action, Yields
      (dispatchTool rt knowledge ports request state action maxPlanRounds) (EndsOriginal ports) := by
    intro action
    refine Yields.andThen fun bound => ?_
    obtain ⟨state, action⟩ := bound
    refine Yields.andThen fun decision => ?_
    cases decision with
    | deny => exact withTaskCompletion_yields fun h => by cases h
    | allow => exact Yields.andThen fun observed => goOn_yields _ _
    | _ =>
      refine (pauseForToolApproval_yields _ _ _).bind fun result hresult => ?_
      exact Yields.ret (.inr (.of_other hresult))
  unfold toolStep
  refine Yields.ite (fun _ => withTaskCompletion_yields fun h => by cases h) fun _ => ?_
  refine Yields.ite (fun _ => ?_) fun _ => hdispatch action
  refine Yields.andThen fun p => ?_
  obtain ⟨action, fields⟩ := p
  refine Yields.ite (fun _ => ?_) fun _ => hdispatch action
  refine (askClarification_yields _ _ _ _).bind fun result hresult => ?_
  exact Yields.ret (.inr (.of_other hresult))

/-- **A step** ends a run with an answer that has its origin. -/
theorem loopStep_yields (request : ControlledReActStartRequest) (maxPlanRounds : Nat)
    (current : ControlledReActRunState × ReActActionProposal) :
    Yields (loopStep rt knowledge ports request maxPlanRounds current) (EndsOriginal ports) := by
  obtain ⟨state, action⟩ := current
  unfold loopStep
  dsimp only
  split
  · refine (refusePlanBudgetExhausted_yields _ _ _).bind fun result hresult => ?_
    exact Yields.ret (.inr (.of_other hresult))
  · refine (askClarification_yields _ _ _ _).bind fun result hresult => ?_
    exact withTaskCompletion_yields hresult
  · exact finalAnswerStep_yields request state action maxPlanRounds
  · refine Yields.andThen fun denied => Yields.ite (fun _ => ?_) fun _ => ?_
    · exact withTaskCompletion_yields fun h => by cases h
    · exact Yields.andThen fun observed => goOn_yields _ _
  · exact toolStep_yields request state action maxPlanRounds
  · exact Yields.raise

/-! ## Starts and resumes -/

/-- What a call returns. -/
def ReturnsOriginal (ports : ControlledReActPorts W T S)
    (r : Option WorkflowTemplateExecutionResult) : Prop :=
  ∀ result, r = some result → Originates ports result

theorem ReturnsOriginal.some {result : WorkflowTemplateExecutionResult} (h : Originates ports result) :
    ReturnsOriginal ports (some result) := by
  rintro _ ⟨⟩
  exact h

theorem planAndRun_yields (fuel : Nat) (request : ControlledReActStartRequest)
    (state : ControlledReActRunState) (maxPlanRounds : Nat) :
    Yields (planAndRun rt knowledge ports fuel request state maxPlanRounds) (ReturnsOriginal ports) :=
  Yields.andThen fun current => Yields.loop (loopStep_yields request maxPlanRounds) fuel current

theorem startRun_yields (fuel : Nat) (request : ControlledReActStartRequest) :
    Yields (startRun rt knowledge ports fuel request) (ReturnsOriginal ports) := by
  have hentered : Yields (enterLoop rt knowledge ports request) fun entered =>
      ∀ result, entered = .inr result → result.outcome ≠ .answeredWithCitations := by
    refine Yields.andThen fun state => Yields.andThen fun question => ?_
    split
    · refine (askClarification_yields _ _ _ _).bind fun result hresult => Yields.ret ?_
      rintro _ ⟨⟩
      exact hresult
    · exact Yields.andThen fun restored => Yields.ret fun _ h => by cases h
    · refine Yields.attempt (Yields.andThen fun _ => Yields.ret fun _ h => by cases h) fun e => ?_
      refine Yields.ite (fun _ => Yields.andThen fun _ => Yields.ret ?_) fun _ => Yields.raise
      rintro _ ⟨⟩ h
      cases h
  refine hentered.bind fun entered h => ?_
  cases entered with
  | inr result => exact Yields.ret (.some (.of_other (h result rfl)))
  | inl state => exact planAndRun_yields fuel request state _

theorem startInBudget_yields (fuel : Nat) (request : ControlledReActStartRequest) :
    Yields (startInBudget rt knowledge ports fuel request) (ReturnsOriginal ports) := by
  refine Yields.attempt (Yields.andThen fun _ => ?_) fun e => ?_
  · refine (startRun_yields fuel request).bind fun r hr => ?_
    exact Yields.andThen fun _ => Yields.ret hr
  · split
    · refine Yields.andThen fun _ => Yields.andThen fun _ => Yields.ret ?_
      exact .some (.of_other fun h => by cases h)
    · exact Yields.raise

/-- Finishing a start leaves the origin of its answer. -/
theorem finishStart_yields (request : ControlledReActStartRequest)
    {result : WorkflowTemplateExecutionResult} (h : Originates ports result) :
    Yields (finishStart rt knowledge ports request result) (Originates ports) := by
  refine Yields.andThen fun m => ?_
  dsimp only
  have hplanned : Originates ports (if hasPolicies ports then
      { result with executionPlan := some m.lastExecutionPlan } else result) := by
    split
    · intro houtcome
      refine (h houtcome).imp_right fun ⟨state, context, hs⟩ => ⟨state, context, ?_⟩
      exact ⟨hs.stages, hs.loaded, hs.given⟩
    · exact h
  split
  · exact Yields.ret hplanned
  · refine Yields.andThen fun update => Yields.ret fun houtcome => ?_
    refine (hplanned houtcome).imp_right fun ⟨state, context, hs⟩ => ⟨state, context, ?_⟩
    exact ⟨hs.stages, hs.loaded, hs.given⟩

/-- **A start** returns an answer that has its origin. -/
theorem start_yields (fuel : Nat) (request : ControlledReActStartRequest) :
    Yields (start rt knowledge ports fuel request) (ReturnsOriginal ports) := by
  refine Yields.andThen fun _ => (startInBudget_yields fuel request).bind fun r hr => ?_
  split
  · exact Yields.ret fun _ h => by cases h
  · exact (finishStart_yields request (hr _ rfl)).bind fun result h => Yields.ret (.some h)

/-- **A resume** returns an answer that has its origin. -/
theorem resume_yields (fuel : Nat) (request : ControlledReActResumeRequest) :
    Yields (resume rt knowledge ports fuel request) (ReturnsOriginal ports) := by
  refine Yields.andThen fun store => Yields.andThen fun snapshot => Yields.andThen fun action => ?_
  refine Yields.andThen fun _ => Yields.andThen fun _ => ?_
  refine Yields.ite (fun _ => ?_) fun _ => ?_
  · refine Yields.andThen fun observe => Yields.ite (fun _ => Yields.ret ?_) fun _ => ?_
    · exact .some (.of_other fun h => by cases h)
    · exact Yields.andThen fun observed => planAndRun_yields fuel _ observed _
  · exact Yields.andThen fun observed => planAndRun_yields fuel _ observed _

end ControlledReActOrchestrator

open ControlledReActOrchestrator FinalAnswerAttemptRunner

/-! ## The adapter -/

/-- What the answer of a tool says. -/
def ReportsTool (truth : ToolObservationTruth) (text : String) : Prop :=
  stringValue (truth.authorizedResult.get? "approval_state") ≠ some "denied" ∧
    (text = truth.toolName ++ " returned an authorized result." ∨
      ∃ status, stringValue (truth.authorizedResult.get? "status") = some status ∧
        text = truth.toolName ++ " returned status " ++ status ++ ".")

theorem toolAnswer_reports {context : AnswerEvidenceContext} {text : String}
    (h : toolAnswer context = some text) :
    ∃ truth, .tool truth ∈ context.observationTruth ∧ ReportsTool truth text := by
  obtain ⟨loaded, hmem, htext⟩ := List.exists_of_findSome?_eq_some h
  have hmem := List.mem_reverse.mp hmem
  cases loaded with
  | retrieval truth => cases htext
  | tool truth =>
    simp only at htext
    split at htext
    · cases htext
    rename_i happroved
    refine ⟨truth, hmem, happroved, ?_⟩
    split at htext
    · rename_i status hstatus
      cases htext
      exact .inr ⟨status, hstatus, rfl⟩
    · cases htext
      exact .inl rfl

/-- **What the adapter answers** is the report of a tool, or a validated output over the accepted
evidence. -/
theorem synthesize_yields {V : Type} {lib : AttemptLibrary} {model : AnswerModelPorts V}
    (state : ControlledReActRunState) (action : ReActActionProposal)
    (context : AnswerEvidenceContext) :
    Yields (synthesize lib model state action context) fun answer =>
      answer.outcome = .answeredWithCitations →
        (∃ truth, .tool truth ∈ context.observationTruth ∧ ReportsTool truth answer.message) ∨
        ∃ evidence events, answer.evidence = evidence ∧
          (∀ chunk ∈ evidence, chunk.status = .accepted ∧ chunk ∈ context.boundEvidence) ∧
          ShowsOutput lib state evidence events answer := by
  refine Yields.andThen fun _ => Yields.ofExcept.bind fun unique hunique => ?_
  refine Yields.ite (fun _ => Yields.ret fun houtcome => .inl ?_) fun _ => ?_
  · unfold answerWithoutEvidence at houtcome ⊢
    cases htool : toolAnswer context with
    | none =>
      rw [htool] at houtcome
      cases houtcome
    | some text => exact toolAnswer_reports htool
  have hrun : ∀ ports : AnswerModelPorts V, Yields (run lib ports state action unique) fun result =>
      ∃ events, Shows lib state (uniqueBy evidenceIdentity (acceptedEvidence unique)) events
        result.toAnswerSynthesisResult :=
    fun ports => Yields.of_emits (run_emits unique) fun result events h => ⟨events, h.2⟩
  refine (hrun _).bind fun result hresult => ?_
  refine Yields.andThen fun _ => Yields.ret fun houtcome => .inr ?_
  obtain ⟨events, hshows⟩ := hresult
  refine ⟨_, events, hshows.sameEvidence, fun chunk hchunk => ?_, ?_⟩
  · have hunique := pure_ok (bind_ok (mapError_ok hunique)).choose_spec.2
    have hchunk := (List.mem_filter.mp (mem_of_mem_uniqueBy hchunk)).1
    rw [← hunique] at hchunk
    obtain ⟨hbound, haccepted⟩ := List.mem_filter.mp (mem_of_mem_uniqueBy hchunk)
    exact ⟨by simpa using haccepted, hbound⟩
  · rcases hshows.shown with ⟨_, hshown⟩ | ⟨hother, _⟩
    · exact hshown
    · rw [houtcome] at hother
      simp at hother

/-! ## What cited answers rest on -/

/-- A truth that was loaded for a record committed in a run. -/
def LoadedIn (ports : ControlledReActPorts W T S) (shown : List RunEvent) (runId : String)
    (truth : ObservationTruthArtifact) : Prop :=
  ∃ record, CommittedIn shown runId record ∧ LoadedFor ports record truth

/-- What a cited answer rests on: the report of a tool task, what a tool of its run gave back, or a
validated output over evidence that its run accepted. -/
inductive RestsOn (lib : AttemptLibrary) (ports : ControlledReActPorts W T S) (shown : List RunEvent)
    (result : WorkflowTemplateExecutionResult) : Prop
  | report (reported : result.toolTaskReport.isSome = true)
  | tool {truth : ToolObservationTruth} (loaded : LoadedIn ports shown result.runId (.tool truth))
      (reports : ReportsTool truth result.message)
  | output {state : ControlledReActRunState} {events : List AttemptEvent}
      {answer : AnswerSynthesisResult} (stages : result.stages = some state)
      (accepted : ∀ chunk ∈ result.evidence, chunk.status = .accepted ∧ ∃ truth,
        LoadedIn ports shown result.runId (.retrieval truth) ∧ chunk ∈ truth.acceptedEvidence)
      (validated : ShowsOutput lib state result.evidence events answer)
      (message : result.message = answer.message)

/-- What a state's context loaded, its run committed. -/
theorem OwnRecords.loadedIn {shown : List RunEvent} {s : ControlledReActRunState}
    {truths : List ObservationTruthArtifact} (h : OwnRecords shown s)
    (hloaded : List.Forall₂ (LoadedFor ports) s.observationRecords truths) :
    ∀ truth ∈ truths, LoadedIn ports shown s.runId truth := by
  intro truth hmem
  obtain ⟨i, hi, rfl⟩ := List.getElem_of_mem hmem
  have hlen := hloaded.length_eq
  have hload := hloaded.get (hlen ▸ hi) hi
  exact ⟨_, h _ (List.get_mem _ _), hload⟩

variable {V : Type} {lib : AttemptLibrary} {model : AnswerModelPorts V}
  {answering : ControlledReActPorts (AttemptMachine V) T S}
  {holds : S → ControlledReActRunStateSnapshot → Prop} {m : Machine (AttemptMachine V) T S}

/-- **A result that is given after a history** rests on what its run committed. -/
theorem Trailed.restsOn {p : RunPhase} (h : Trailed rt answering holds m p)
    (hsynthesis : answering.answerSynthesis = synthesize lib model)
    {result : WorkflowTemplateExecutionResult} (hgiven : GivenIn rt answering p (some result))
    (horigin : Originates answering result) (houtcome : result.outcome = .answeredWithCitations) :
    RestsOn lib answering m.journal result := by
  obtain ⟨limit, state, action, rfl, hanswers⟩ := hgiven result rfl houtcome
  have hown : OwnRecords m.journal state := (h.trail.own h.sound.loads).state state rfl
  rcases horigin houtcome with hreport | ⟨state', context, hover⟩
  · exact .report hreport
  obtain rfl : state = state' := Option.some.inj (hanswers.stages.symm.trans hover.stages)
  have hloaded := hown.loadedIn hover.loaded
  rw [← hanswers.run] at hloaded
  obtain ⟨action, answer, w, w', hgave, hanswered, hmessage, hevidence⟩ := hover.given
  rw [hsynthesis] at hgave
  rcases (synthesize_yields state action context w trivial).1 answer w' hgave hanswered with
    ⟨truth, htruth, hreports⟩ | ⟨evidence, events, rfl, haccepted, hshows⟩
  · exact .tool (hloaded _ htruth) (by rw [hmessage]; exact hreports)
  · refine .output hanswers.stages (fun chunk hchunk => ?_) (by rw [hevidence]; exact hshows) hmessage
    rw [hevidence] at hchunk
    obtain ⟨hstatus, hbound⟩ := haccepted chunk hchunk
    obtain ⟨truth, htruth, hmem⟩ := List.mem_flatMap.mp hbound
    cases truth with
    | retrieval truth => exact ⟨hstatus, truth, hloaded _ htruth, hmem⟩
    | tool truth => cases hmem

namespace Sample

def waitingText : String := "The waiting period is 90 days."

def waitingGuide : EvidenceChunk :=
  Answers.Sample.guide "- The waiting period is 90 days. Riders vary."

/-- What the model returns. -/
def waitingContent : String :=
  "\x7b\"message\": \"The waiting period is 90 days.\", \"citations\": [\"knowledge://guide#page=1\"]\x7d"

/-- It reads and writes the one output. -/
def attemptLibrary : AttemptLibrary where
  toAnswerLibrary := Answers.Sample.answerLibrary
  loads text := if text = waitingContent.toList then
    some (.obj [("message", .str waitingText), ("citations", .arr [.str "knowledge://guide#page=1"])])
  else none
  dumps _ := ("\x7b\"outcome\": \"ANSWERED_WITH_CITATIONS\", " ++ waitingContent.drop 1).toList
  lower := List.map Char.toLower
  dumpsSorted _ := []

def answerModel : AnswerModelPorts Unit where
  providerName := "provider"
  modelName := "model"
  refreshStage _ _ := none
  promptLength _ := 0
  evaluate _ _ := pure .allow
  estimateTokens _ := pure none
  generate _ := pure { content := waitingContent, providerName := "provider", modelName := "model" }
  emit _ _ := pure ()
  recordCalibration _ _ := pure ()
  cancellationCheck := pure ()

/-- The planner retrieves a guide and then answers. -/
def answeringPorts :
    ControlledReActPorts (AttemptMachine Unit) InMemoryObservationTruthStore
      InMemorySnapshotStore where
  planner state := pure <|
    if state.observationRecords = [] then
      proposal "ask" .planRetrieval (.ofFields [("query", .str "query")])
    else proposal "answer" .generateFinalAnswer .empty
  answerSynthesis := synthesize attemptLibrary answerModel
  policy := some { evaluate := fun _ _ => pure .allow }
  snapshotStore := some (InMemorySnapshotStore.port digestRuntime)
  observationTruthStore := InMemoryObservationTruthStore.port digestRuntime
  today := pure 0
  subFloat _ _ := none
  knowledgeObservation := some fun state action identity => pure
    { observationRecord :=
        { observationId := identity.observationId, actionId := action.actionId
          actionType := action.actionType, round := state.planRound, truthRef := identity.truthRef
          acceptedEvidenceCount := 1, sourceRefs := [waitingGuide.source]
          citationRefs := ["knowledge://guide#page=1"] }
      truthArtifact := .retrieval
        { truthRef := identity.truthRef, observationId := identity.observationId
          actionId := action.actionId, acceptedEvidence := [waitingGuide]
          admissionMetadata := .ofFields [("query", .str "query")]
          citationRefs := ["knowledge://guide#page=1"] } }

def answerMachine : Machine (AttemptMachine Unit) InMemoryObservationTruthStore
    InMemorySnapshotStore where
  world := { world := (), journal := [] }
  truths := .empty
  snapshots := .empty
  lastTaskCheckpointRef := none
  taskQuestion := none
  goalAssessments := []
  lastExecutionPlan := { requestedComplexity := none, effectiveComplexity := none }
  journal := []

def waitingRequest : ControlledReActStartRequest :=
  { startRequest with question := "How long is the waiting period?" }

theorem waiting_answered : gave .answeredWithCitations
    (start digestRuntime runKnowledge answeringPorts 3 waitingRequest answerMachine).1 = true := by
  decide +kernel

theorem answerMachine_unused : answerMachine.Unused InMemorySnapshotStore.Holds :=
  ⟨rfl, InMemorySnapshotStore.holds_empty⟩

theorem answeringPorts_keep : answeringPorts.KeepSnapshots InMemorySnapshotStore.Holds := by
  intro store hstore
  obtain rfl := Option.some.inj hstore
  exact InMemorySnapshotStore.port_keeps

end Sample

end ProofAgent
