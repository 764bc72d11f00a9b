import ProofAgent.ControlledReact.Orchestrator
import ProofAgent.Tasks.RoundTrip

/-! # The question that an update leaves

An update with a question draft leaves a waiting question, unless a question of the task's
goal revision was asked under the same key before: `reduce_question` then gives the snapshot
back as it was, and the task stays active. A draft that is made of missing fields is a
question unless two of its fields have one name. -/
namespace ProofAgent

open Base

/-- The task waits for an answer to a question with the draft's fields. -/
structure WaitsFor (s : WorkflowTaskSnapshot) (draft : TaskQuestionDraft) : Prop where
  phase : s.phase = .waitingForInput
  question : ∃ q ∈ s.questions, q.status = .pending ∧ q.request.blocking = true ∧
    q.request.goalRevision = s.goal.revision ∧ q.request.fields = draft.fields

/-- The dedupe key of a draft. -/
def draftKey (rt : Runtime) (draft : TaskQuestionDraft) : String :=
  rt.sha256 (.arr (draft.fields.map fun f => .obj f.jsonFields))

/-- A question of the current goal revision has the key, whatever its status. -/
def KeyAsked (rt : Runtime) (s : WorkflowTaskSnapshot) (draft : TaskQuestionDraft) : Prop :=
  ∃ q ∈ s.questions, q.request.goalRevision = s.goal.revision ∧
    q.request.dedupeKey = draftKey rt draft

/-- `apply_update` can make a question of the draft, whatever the snapshot. -/
def MakesQuestion (rt : Runtime) (draft : TaskQuestionDraft) : Prop :=
  ∀ s now runId, ∃ question,
    QuestionRequest.make (WorkflowTaskService.requestedQuestion rt s draft now runId) = .ok question

/-- The bounds of a field's name and label. -/
def QuestionField.InContract (f : QuestionField) : Prop :=
  isFieldName f.name = true ∧ 1 ≤ f.label.length ∧ f.label.length ≤ 1024

/-- The fields that a clarification asks for. -/
def clarificationFields (rt : Runtime) (policy : InteractionPolicy) (missingFields : List String)
    (structuredFields : Option (List QuestionField)) : List QuestionField :=
  match structuredFields with
  | some fields => fields.take policy.maxQuestionsPerRound
  | none => missingFields.map (contextField rt)

/-! ## Asked before -/

theorem returned_of_toOption {α : Type} {x : Except Error α} {a : α} (h : x.toOption = some a) :
    x = .ok a := by
  cases x with
  | error e => cases h
  | ok b => exact congrArg Except.ok (Option.some.inj h)

/-- **The questions are searched by revision and key, in all statuses.** -/
theorem askedBefore_iff {question : QuestionRequest} {questions : List QuestionState} {b : Bool}
    (h : askedBefore question questions = .ok b) :
    b = true ↔ ∃ q ∈ questions, q.request.goalRevision = question.goalRevision ∧
      q.request.dedupeKey = question.dedupeKey := by
  induction questions with
  | nil =>
    cases h
    simp
  | cons existing rest ih =>
    unfold askedBefore at h
    by_cases hsame : existing.request.goalRevision = question.goalRevision ∧
        existing.request.dedupeKey = question.dedupeKey
    · rw [if_pos hsame] at h
      obtain ⟨_, _, h⟩ := bind_ok h
      cases pure_ok h
      exact ⟨fun _ => ⟨existing, List.mem_cons_self, hsame⟩, fun _ => rfl⟩
    · rw [if_neg hsame] at h
      by_cases hid : existing.request.questionId = question.questionId
      · rw [if_pos hid] at h
        cases h
      · rw [if_neg hid] at h
        rw [ih h]
        simp only [List.mem_cons, exists_eq_or_imp, hsame, false_or]

theorem QuestionRequest.make_ok {f : QuestionRequestFields} {question : QuestionRequest}
    (h : QuestionRequest.make f = .ok question) : question.toQuestionRequestFields = f := by
  obtain ⟨_, rfl⟩ := orInvalid_ok h
  rfl

/-- What `apply_update` makes of its question: the questions stay and the task stays active, or
the question is the last one and the task waits. -/
theorem projectQuestion_draft {rt : Runtime} {s : WorkflowTaskSnapshot} {update : WorkflowTaskUpdate}
    {now : Instant} {runId : String} {questions : List QuestionState} {phase : TaskPhase}
    {draft : TaskQuestionDraft} (hdraft : update.question = some draft)
    (h : WorkflowTaskService.projectQuestion rt s update now runId = .ok (questions, phase)) :
    (KeyAsked rt s draft ∧ questions = s.questions ∧ phase = s.phase) ∨
      (¬ KeyAsked rt s draft ∧ phase = .waitingForInput ∧
        ∃ question : QuestionRequest, questions = s.questions ++ [{ request := question, askedAt := some now }] ∧
          question.toQuestionRequestFields =
            WorkflowTaskService.requestedQuestion rt s draft now runId) := by
  unfold WorkflowTaskService.projectQuestion at h
  rw [hdraft] at h
  obtain ⟨question, hmake, h⟩ := bind_ok h
  obtain ⟨projected, hprojected, h⟩ := bind_ok h
  obtain ⟨rfl, rfl⟩ := Prod.mk.inj (pure_ok h)
  have hfields := QuestionRequest.make_ok hmake
  have hrevision : question.goalRevision = s.goal.revision := by rw [hfields]; rfl
  have hkey : question.dedupeKey = draftKey rt draft := by rw [hfields]; rfl
  have hblocking : question.blocking = true := by rw [hfields]; rfl
  obtain ⟨_, _, h⟩ := bind_ok hprojected
  obtain ⟨_, _, h⟩ := bind_ok h
  obtain ⟨_, _, h⟩ := bind_ok h
  obtain ⟨_, _, h⟩ := bind_ok h
  obtain ⟨_, _, h⟩ := bind_ok h
  obtain ⟨before, hbefore, h⟩ := bind_ok h
  have hasked := askedBefore_iff hbefore
  rw [hrevision, hkey] at hasked
  cases before with
  | true =>
    cases pure_ok h
    exact .inl ⟨hasked.mp rfl, rfl, rfl⟩
  | false =>
    rw [if_neg Bool.false_ne_true] at h
    have hwrites := changed_ok h
    refine .inr ⟨fun hk => Bool.false_ne_true (hasked.mpr hk), ?_, question, hwrites.questions, hfields⟩
    rw [hwrites.phase]
    exact if_pos hblocking

/-- **An update that asks leaves a waiting question exactly if its key is new.** -/
theorem applyUpdate_waits_iff {rt : Runtime} {update : WorkflowTaskUpdate} {owner : TaskOwner}
    {now : Instant} {runId sha : String} {t t' : TaskTables} {u : WorkflowTaskSnapshot}
    {draft : TaskQuestionDraft} (hdraft : update.question = some draft)
    (h : WorkflowTaskService.applyUpdate rt update owner now runId sha t = .ok (u, t')) :
    ∃ s, WorkflowTaskService.current rt update.taskId owner update.expectedVersion now t = .ok s ∧
      (WaitsFor u draft ↔ ¬ KeyAsked rt s draft) := by
  obtain ⟨s, hs, h⟩ := bind_ok h
  obtain ⟨_, _, h⟩ := bind_ok h
  obtain ⟨_, howns, h⟩ := bind_ok h
  obtain ⟨merged, _, h⟩ := bind_ok h
  obtain ⟨usage, _, h⟩ := bind_ok h
  obtain ⟨⟨questions, phase⟩, hprojected, h⟩ := bind_ok h
  obtain ⟨u₁, hu, h⟩ := bind_ok h
  obtain ⟨t₁, _, h⟩ := bind_ok h
  obtain ⟨rfl, rfl⟩ := Prod.mk.inj (pure_ok h)
  have hactive := (require_ok howns).1
  have hwrites := changed_ok hu
  refine ⟨s, hs, ?_⟩
  rcases projectQuestion_draft hdraft hprojected with ⟨hasked, _, hphase⟩ |
    ⟨hnew, hphase, question, hquestions, hfields⟩
  · refine ⟨fun hwaits => ?_, fun hnew => absurd hasked hnew⟩
    have hstays : u₁.phase = .active := by rw [hwrites.phase, ← hactive, ← hphase]
    rw [hwaits.phase] at hstays
    cases hstays
  · refine ⟨fun _ => hnew, fun _ => ⟨by rw [hwrites.phase, ← hphase],
      { request := question, askedAt := some now }, ?_, rfl, ?_, ?_, ?_⟩⟩
    · rw [hwrites.questions]
      exact hquestions ▸ List.mem_append_right _ (List.mem_singleton_self _)
    · rw [hfields]
      rfl
    · rw [hwrites.goal, hfields]
      rfl
    · rw [hfields]
      rfl

/-! ## Drafts -/

theorem GoalContract.sizes (goal : GoalContract) :
    1 ≤ goal.revision ∧ goal.acceptanceCriteria.length ≤ 32 := by
  have h := goal.accepted
  simp only [GoalFields.checks, List.forall_mem_cons, check_iff] at h
  exact ⟨h.1, h.2.1.2⟩

/-- A draft is a question exactly if its fields have different names. -/
theorem makesQuestion_iff {rt : Runtime} (task : WorkflowTaskSnapshot) {draft : TaskQuestionDraft}
    (hcriteria : draft.affectedCriteria.length ≤ 32) :
    MakesQuestion rt draft ↔ (draft.fields.map (·.name)).Nodup := by
  constructor
  · intro h
    obtain ⟨question, hmake⟩ := h task 0 ""
    obtain ⟨hchecks, _⟩ := orInvalid_ok hmake
    simp only [QuestionRequestFields.checks, List.forall_mem_cons, check_iff] at hchecks
    exact hchecks.2.2.2.1
  · intro hnames s now runId
    refine ⟨_, orInvalid_of ?_⟩
    simp only [QuestionRequestFields.checks, List.forall_mem_cons, check_iff, List.not_mem_nil,
      false_implies, implies_true, and_true]
    exact ⟨s.goal.sizes.1, ⟨draft.size.1, draft.size.2.trans (by decide)⟩, hcriteria,
      hnames⟩

/-- There is a missing field, and none is the empty text. -/
theorem clarificationMissingFields_spec (action : ReActActionProposal) :
    clarificationMissingFields action ≠ [] ∧
      ∀ name ∈ clarificationMissingFields action, name ≠ "" := by
  unfold clarificationMissingFields
  extract_lets candidates
  have hnames : ∀ name ∈ (candidates.map stripText).filter (· ≠ ""), name ≠ "" :=
    fun name hname => of_decide_eq_true (List.mem_filter.mp hname).2
  revert hnames
  cases (candidates.map stripText).filter (· ≠ "") with
  | nil => exact fun _ => ⟨List.cons_ne_nil _ _, by decide⟩
  | cons field fields => exact fun hnames => ⟨List.cons_ne_nil _ _, hnames⟩

theorem length_takeText (n : Nat) (value : String) :
    (takeText n value).length = min n value.length := by
  simp [takeText, String.length_toList]

theorem length_pos_of_ne {value : String} (h : value ≠ "") : 1 ≤ value.length := by
  by_contra hnot
  exact h (String.length_eq_zero_iff.mp (by omega))

/-- A hexadecimal digit may stand in a name. -/
theorem hexDigit_alphanum {c : Char}
    (h : (('0' ≤ c && c ≤ '9') || ('a' ≤ c && c ≤ 'f')) = true) : c.isAlphanum = true := by
  simp only [Bool.or_eq_true, Bool.and_eq_true, decide_eq_true_eq] at h
  have hspell : c.isAlphanum = ((c.isUpper || ('a'.val ≤ c.val && c.val ≤ 'z'.val)) ||
      ('0'.val ≤ c.val && c.val ≤ '9'.val)) := rfl
  rw [hspell]
  simp only [Bool.or_eq_true, Bool.and_eq_true, decide_eq_true_eq]
  rcases h with ⟨h0, h9⟩ | ⟨ha, hf⟩
  · exact .inr ⟨h0, h9⟩
  · have hz : 'f'.val ≤ 'z'.val := by decide
    exact .inl (.inr ⟨ha, UInt32.le_trans hf hz⟩)

/-- A hashed name is a field's name. -/
theorem isFieldName_hashed {rt : Runtime} (hsha : ∀ j, isSha256Digest (rt.sha256 j) = true)
    (name : String) : isFieldName (ControlledReActOrchestrator.hashedFieldName rt name) = true := by
  have hdigest := hsha (.str name)
  simp only [isSha256Digest, Bool.and_eq_true, decide_eq_true_eq, List.all_eq_true] at hdigest
  have hlength : (ControlledReActOrchestrator.hashedFieldName rt name).length = 30 := by
    have hpart := length_takeText 24 (rt.sha256 (.str name))
    rw [hdigest.1] at hpart
    simp only [ControlledReActOrchestrator.hashedFieldName, String.length_append, hpart]
    rfl
  simp only [isFieldName, hlength, Bool.and_eq_true, decide_eq_true_eq, List.all_eq_true]
  refine ⟨⟨by decide, by decide⟩, fun c hc => ?_⟩
  rw [ControlledReActOrchestrator.hashedFieldName, String.toList_append] at hc
  rcases List.mem_append.mp hc with hc | hc
  · have hletters : "field_".toList.all (fun c => c.isAlphanum || "-_.:/".toList.contains c) = true := by
      decide
    exact List.all_eq_true.mp hletters c hc
  · rw [takeText, String.toList_ofList] at hc
    rw [hexDigit_alphanum (hdigest.2 c (List.mem_of_mem_take hc))]
    rfl

/-- **The field for a missing name keeps the bounds of the question contract.** -/
theorem contextField_inContract {rt : Runtime} (hsha : ∀ j, isSha256Digest (rt.sha256 j) = true)
    {name : String} (hname : name ≠ "") : (contextField rt name).InContract := by
  refine ⟨?_, ?_, ?_⟩
  · unfold contextField
    by_cases h : isFieldName name = true
    · simp only [h, if_true]
    · simp only [h]
      exact isFieldName_hashed hsha name
  · have := length_pos_of_ne hname
    simp only [contextField, length_takeText]
    omega
  · simp only [contextField, length_takeText]
    omega

section
variable {W T S : Type}

/-- What `askTask` leaves: the draft over the fields of the clarification. -/
theorem askTask_draft (rt : Runtime) (task : WorkflowTaskSnapshot) (stage : InteractionStage)
    (missingFields : List String) (structuredFields : Option (List QuestionField))
    (policy : InteractionPolicy) (m : Machine W T S)
    (hsize : 1 ≤ (clarificationFields rt policy missingFields structuredFields).length ∧
      (clarificationFields rt policy missingFields structuredFields).length ≤ 3) :
    ∃ draft : TaskQuestionDraft,
      ControlledReActOrchestrator.askTask rt (some task) stage missingFields structuredFields policy m =
        (.ok (), { m with taskQuestion := some draft }) ∧
      draft.fields = clarificationFields rt policy missingFields structuredFields ∧
      draft.affectedCriteria =
        (task.goal.acceptanceCriteria.filter (·.required)).map (·.criterionId) := by
  refine ⟨⟨stage.questionStage, _, _, policy.waitTimeoutSeconds, hsize, policy.timeout⟩, ?_, rfl, rfl⟩
  have hdraft : questionDraft task stage.questionStage
      (clarificationFields rt policy missingFields structuredFields) policy =
      .ok ⟨stage.questionStage, clarificationFields rt policy missingFields structuredFields,
        (task.goal.acceptanceCriteria.filter (·.required)).map (·.criterionId),
        policy.waitTimeoutSeconds, hsize, policy.timeout⟩ := by
    unfold questionDraft
    rw [dif_pos hsize]
  unfold ControlledReActOrchestrator.askTask
  change (Effect.ofExcept (questionDraft task stage.questionStage
    (clarificationFields rt policy missingFields structuredFields) policy) >>= _) m = _
  rw [hdraft]
  rfl

end

/-! ## The question of an update -/

/-- Both halves of "an update that asks leaves a waiting question": what `apply_update` leaves,
and which drafts of missing fields are questions. -/
theorem asking_leaves_question_iff {rt : Runtime}
    (hsha : ∀ j, isSha256Digest (rt.sha256 j) = true) :
    (∀ (update : WorkflowTaskUpdate) (owner : TaskOwner) (now : Instant) (runId sha : String)
      (t t' : TaskTables) (u : WorkflowTaskSnapshot) (draft : TaskQuestionDraft),
      update.question = some draft →
      WorkflowTaskService.applyUpdate rt update owner now runId sha t = .ok (u, t') →
      ∃ s, WorkflowTaskService.current rt update.taskId owner update.expectedVersion now t = .ok s ∧
        (WaitsFor u draft ↔ ¬ KeyAsked rt s draft)) ∧
    (∀ {W T S : Type} (task : WorkflowTaskSnapshot) (stage : InteractionStage)
      (action : ReActActionProposal) (structuredFields : Option (List QuestionField))
      (policy : InteractionPolicy) (m : Machine W T S),
      let missingFields := (clarificationMissingFields action).take policy.maxQuestionsPerRound
      structuredFields ≠ some [] →
      ∃ draft : TaskQuestionDraft,
        ControlledReActOrchestrator.askTask rt (some task) stage missingFields structuredFields policy m =
          (.ok (), { m with taskQuestion := some draft }) ∧
        (structuredFields = none → ∀ f ∈ draft.fields, f.InContract) ∧
        (MakesQuestion rt draft ↔
          ((clarificationFields rt policy missingFields structuredFields).map (·.name)).Nodup)) := by
  refine ⟨fun update owner now runId sha t t' u draft hdraft h => applyUpdate_waits_iff hdraft h, ?_⟩
  intro W T S task stage action structuredFields policy m missingFields hsome
  obtain ⟨hne, hnames⟩ := clarificationMissingFields_spec action
  have hround := policy.questions
  have hsize : 1 ≤ (clarificationFields rt policy missingFields structuredFields).length ∧
      (clarificationFields rt policy missingFields structuredFields).length ≤ 3 := by
    cases structuredFields with
    | none =>
      have hpos := List.length_pos_iff.mpr hne
      simp only [clarificationFields, missingFields, List.length_map, List.length_take]
      omega
    | some fields =>
      have hpos : 0 < fields.length := List.length_pos_iff.mpr fun h => hsome (by rw [h])
      simp only [clarificationFields, List.length_take]
      omega
  obtain ⟨draft, hask, hfields, hcriteria⟩ :=
    askTask_draft rt task stage missingFields structuredFields policy m hsize
  have hcount : draft.affectedCriteria.length ≤ 32 := by
    rw [hcriteria, List.length_map]
    exact (List.length_filter_le _ _).trans task.goal.sizes.2
  refine ⟨draft, hask, fun hnone f hf => ?_, hfields ▸ makesQuestion_iff task hcount⟩
  subst hnone
  rw [hfields] at hf
  obtain ⟨name, hname, rfl⟩ := List.mem_map.mp hf
  exact contextField_inContract hsha (hnames name (List.mem_of_mem_take hname))

namespace Sample

mutual
/-- The number of values inside a value. -/
def nodes : Json → Nat
  | .arr items => 1 + nodesOfItems items
  | .obj fields => 1 + nodesOfFields fields
  | _ => 1

def nodesOfItems : List Json → Nat
  | [] => 0
  | j :: rest => nodes j + nodesOfItems rest

def nodesOfFields : List (String × Json) → Nat
  | [] => 0
  | (_, j) :: rest => nodes j + nodesOfFields rest
end

/-- A digest with as many ones as it can have, up to the number of values. -/
def sizeDigest (n : Nat) : String :=
  String.ofList (List.replicate (64 - n % 65) '0' ++ List.replicate (n % 65) '1')

def sizeRuntime : Runtime := { runtime with sha256 := fun j => sizeDigest (nodes j) }

theorem sizeRuntime_sha256 (j : Json) : isSha256Digest (sizeRuntime.sha256 j) = true := by
  have hlt : nodes j % 65 < 65 := Nat.mod_lt _ (by decide)
  have hlength : (sizeDigest (nodes j)).length = 64 := by
    simp only [sizeDigest, String.length_ofList, List.length_append, List.length_replicate]
    omega
  simp only [isSha256Digest, sizeRuntime, hlength, Bool.and_eq_true, List.all_eq_true,
    decide_true, true_and]
  intro c hc
  simp only [sizeDigest, String.toList_ofList, List.mem_append, List.mem_replicate] at hc
  rcases hc with ⟨_, rfl⟩ | ⟨_, rfl⟩
  · rfl
  · rfl

/-- A draft that asks for a region. -/
def regionDraft : TaskQuestionDraft where
  stage := .plan
  fields := [contextField sizeRuntime "region"]
  affectedCriteria := ["c"]
  size := by decide
  timeout := InteractionPolicy.initial.timeout

/-- The update of a run that asks for the region. -/
def regionUpdate (version : Nat) : WorkflowTaskUpdate where
  taskId := "task"
  expectedVersion := version
  goalRevision := 1
  question := some regionDraft
  phase := .waitingForInput

def regionAnswer : TypedAnswer where
  questionId := "q-1-" ++ shortIdentity (draftKey sizeRuntime regionDraft)
  expectedGoalRevision := 1
  values := ⟨[("region", .str "north")], by simp⟩
  idempotencyKey := "answer"
  size := by decide
  bounded := by decide

/-- The first run asks for the region, is told it, and a second run goes on. -/
def regionHistory : List Call :=
  [.task (.create goal owner 0 (some "run-1") none none false),
   .task (.applyUpdate (regionUpdate 1) owner 0 "run-1" (sizeDigest 41)),
   .task (.answer "task" regionAnswer owner 0 "resume"),
   .task (.bindRun "task" "run-2" owner 3 0 none)]

/-- What the tables hold when the second run ends. -/
def regionTables : TaskTables := (after (exec sizeRuntime) Database.initial regionHistory).tasks

/-- The update of the second run is taken, and the task is active. -/
theorem region_active :
    (WorkflowTaskService.applyUpdate sizeRuntime (regionUpdate 4) owner 0 "run-2" (sizeDigest 72)
      regionTables).toOption.map (fun r => r.1.phase) = some .active := by
  decide +kernel

/-- The task of the first run. -/
def firstTables : TaskTables :=
  (after (exec sizeRuntime) Database.initial (regionHistory.take 1)).tasks

theorem first_current :
    (WorkflowTaskService.current sizeRuntime "task" owner 1 0 firstTables).toOption.map
      (fun s => s.questions) = some [] := by
  decide +kernel

theorem first_returns :
    (WorkflowTaskService.applyUpdate sizeRuntime (regionUpdate 1) owner 0 "run-1" (sizeDigest 41)
      firstTables).toOption.isSome = true := by
  decide +kernel

/-- An action that names one missing field twice. -/
def regionTwice : ReActActionProposal := requiredContextAction ["region", "region"] .plan

theorem regionTwice_missing : clarificationMissingFields regionTwice = ["region", "region"] := by
  decide +kernel

def idleMachine : Machine Unit Unit Unit where
  world := ()
  truths := ()
  snapshots := ()
  lastTaskCheckpointRef := none
  taskQuestion := none
  goalAssessments := []
  lastExecutionPlan := { requestedComplexity := none, effectiveComplexity := none }
  journal := []

end Sample

/-- The second run's update leaves no waiting question, and the draft that asks for a region
twice is no question. -/
theorem asking_leaves_no_question :
    ∃ u t', WorkflowTaskService.applyUpdate Sample.sizeRuntime (Sample.regionUpdate 4) Sample.owner 0
        "run-2" (Sample.sizeDigest 72) Sample.regionTables = .ok (u, t') ∧
      ¬ WaitsFor u Sample.regionDraft ∧
      ∃ draft, ControlledReActOrchestrator.askTask Sample.sizeRuntime (some u) .plan
          ((clarificationMissingFields Sample.regionTwice).take 2) none { maxQuestionsPerRound := 2 }
          Sample.idleMachine = (.ok (), { Sample.idleMachine with taskQuestion := some draft }) ∧
        ¬ MakesQuestion Sample.sizeRuntime draft := by
  obtain ⟨⟨u, t'⟩, happly, hactive⟩ := Option.map_eq_some_iff.mp Sample.region_active
  have hreturned := returned_of_toOption happly
  refine ⟨u, t', hreturned, fun hwaits => ?_, ?_⟩
  · have hphase := hwaits.phase.symm.trans hactive
    cases hphase
  · rw [Sample.regionTwice_missing]
    obtain ⟨draft, hask, hfields, hcriteria⟩ := askTask_draft Sample.sizeRuntime u .plan
      ["region", "region"] none { maxQuestionsPerRound := 2 } Sample.idleMachine
      ⟨by decide, by decide⟩
    refine ⟨draft, hask, fun hmakes => ?_⟩
    have hcount : draft.affectedCriteria.length ≤ 32 := by
      rw [hcriteria, List.length_map]
      exact (List.length_filter_le _ _).trans u.goal.sizes.2
    have hnames := (makesQuestion_iff u hcount).mp hmakes
    rw [hfields] at hnames
    exact (List.nodup_cons.mp hnames).1 List.mem_cons_self

/-- The first run's update leaves its question, and asking for one region is asking a question. -/
theorem asking_leaves_question_region :
    ∃ u t', WorkflowTaskService.applyUpdate Sample.sizeRuntime (Sample.regionUpdate 1) Sample.owner 0
        "run-1" (Sample.sizeDigest 41) Sample.firstTables = .ok (u, t') ∧
      WaitsFor u Sample.regionDraft ∧
      ∃ draft, ControlledReActOrchestrator.askTask Sample.sizeRuntime (some u) .plan
          ((clarificationMissingFields Sample.regionTwice).take 1) none {} Sample.idleMachine =
            (.ok (), { Sample.idleMachine with taskQuestion := some draft }) ∧
        MakesQuestion Sample.sizeRuntime draft := by
  obtain ⟨happly, hask⟩ := asking_leaves_question_iff Sample.sizeRuntime_sha256
  obtain ⟨⟨u, t'⟩, hreturned⟩ := Option.isSome_iff_exists.mp Sample.first_returns
  have hreturned := returned_of_toOption hreturned
  obtain ⟨s, hs, hwaits⟩ := happly _ _ _ _ _ _ _ u Sample.regionDraft rfl hreturned
  obtain ⟨draft, hdraft, _, hmakes⟩ := hask u .plan Sample.regionTwice none {} Sample.idleMachine nofun
  refine ⟨u, t', hreturned, hwaits.mpr ?_, draft, hdraft, hmakes.mpr ?_⟩
  · rintro ⟨q, hq, _⟩
    have hquestions := Sample.first_current
    rw [show WorkflowTaskService.current Sample.sizeRuntime "task" Sample.owner 1 0 Sample.firstTables =
      .ok s from hs] at hquestions
    have hnone : s.questions = [] := Option.some.inj hquestions
    rw [hnone] at hq
    cases hq
  · rw [Sample.regionTwice_missing]
    exact List.nodup_singleton _

end ProofAgent
