import ProofAgent.Tasks.Storage

/-! # What a command does to a snapshot

Every write of the task service comes from one of the changes below. Each says
what the command has checked on the snapshot that it read and the fields that it
writes; the version and the time are the same for all of them. `V` holds of the
assessments that a verifier presented together with their proofs. -/
namespace ProofAgent

open Base WorkflowTaskRepository WorkflowTaskService

variable {rt : Runtime} {V : CriterionAssessment → Prop} {s u : WorkflowTaskSnapshot}
  {now : Instant}

/-! ## Questions and answers -/

/-- What `reduce_question` checks before it appends the question. -/
structure Asks (s : WorkflowTaskSnapshot) (question : QuestionRequest) (now : Instant) : Prop where
  working : s.phase.isTerminal = false ∧ s.phase ≠ .paused
  task_id : question.taskId = s.goal.taskId
  revision : question.goalRevision = s.goal.revision
  window : now < question.expiresAt ∧ question.expiresAt ≤ s.rawContentExpiresAt
  context : question.blocking = true ∨ ∀ f ∈ question.fields, f.name ∉ s.goal.requiredContext
  unasked : askedBefore question s.questions = .ok false

def askedFields (s : WorkflowTaskSnapshot) (question : QuestionRequest) (now : Instant) :
    SnapshotFields :=
  { s.toSnapshotFields with
    questions := s.questions ++ [{ request := question, askedAt := some now }]
    phase := if question.blocking then .waitingForInput else s.phase }

/-- What `reduce_answer` checks before it writes the answer. -/
structure Accepts (s : WorkflowTaskSnapshot) (answer : TypedAnswer) (item : QuestionState)
    (now : Instant) : Prop where
  revision : answer.expectedGoalRevision = s.goal.revision
  new_key : ∀ q ∈ s.questions, ∀ a ∈ q.answer, a.idempotencyKey ≠ answer.idempotencyKey
  found : s.questions.find? (fun q => q.request.questionId = answer.questionId) = some item
  working : s.phase.isTerminal = false ∧ s.phase ≠ .paused
  pending : item.status = .pending
  in_time : now < item.request.expiresAt
  typed : checkAnswer item.request.fields answer.values = .ok ()

/-- The questions after an answer. -/
def answeredQuestions (rt : Runtime) (s : WorkflowTaskSnapshot) (answer : TypedAnswer)
    (item : QuestionState) (now : Instant) (intentId : Option String) : List QuestionState :=
  replaceQuestion answer.questionId (item.answeredWith answer (answer.fingerprint rt) now intentId)
    s.questions

/-- Whether an answer lets its task go on. -/
def resumes (rt : Runtime) (s : WorkflowTaskSnapshot) (answer : TypedAnswer) (item : QuestionState)
    (now : Instant) : Prop :=
  s.phase = .waitingForInput ∧
    blocked (answeredQuestions rt s answer item now none) s.goal.revision = false

theorem answered_question (answer : TypedAnswer) :
    (some answer.questionId).isSome = decide (ResumeKind.questionAnswer = .questionAnswer) :=
  rfl

/-- The intent that such an answer writes. -/
def answerIntent (s : WorkflowTaskSnapshot) (answer : TypedAnswer) (item : QuestionState)
    (now : Instant) (intentId : String) : ResumeIntent where
  intentId := intentId
  taskId := s.goal.taskId
  owner := s.owner
  goalRevision := s.goal.revision
  snapshotVersion := s.version + 1
  questionId := some answer.questionId
  checkpointRef := item.request.checkpointRef
  createdAt := now
  question_identity := answered_question answer

/-! ## Changes -/

inductive SnapshotChange (rt : Runtime) (V : CriterionAssessment → Prop)
    (s : WorkflowTaskSnapshot) (now : Instant) : Option ResumeIntent → SnapshotFields → Prop where
  | asked (question : QuestionRequest) (asks : Asks s question now) :
    SnapshotChange rt V s now none (askedFields s question now)
  | answered (answer : TypedAnswer) (item : QuestionState) (accepts : Accepts s answer item now)
      (waits : ¬ resumes rt s answer item now) :
    SnapshotChange rt V s now none
      { s.toSnapshotFields with questions := answeredQuestions rt s answer item now none }
  | resumed (answer : TypedAnswer) (item : QuestionState) (intentId : String)
      (accepts : Accepts s answer item now) (resumes : resumes rt s answer item now) :
    SnapshotChange rt V s now (some (answerIntent s answer item now intentId))
      { s.toSnapshotFields with
        questions := answeredQuestions rt s answer item now (some intentId), phase := .active }
  | continued (idle : s.phase = .active ∨ s.phase = .paused)
      (free : blocked s.questions s.goal.revision = false) :
    SnapshotChange rt V s now (some (continueIntent rt s s.goal.taskId s.owner now))
      { s.toSnapshotFields with phase := .active }
  | renewed (waiting : s.phase = .paused ∨ s.phase = .waitingForInput) :
    SnapshotChange rt V s now none
      { s.toSnapshotFields with
        questions :=
          (s.questions.map fun q =>
            if q.lapsed s.goal.revision now then q.unanswered .superseded (by decide) else q) ++
          (s.questions.filter fun q => q.lapsed s.goal.revision now).map
            (renewedQuestion rt s s.goal.taskId now)
        phase := .waitingForInput }
  | runFailed (runId : String) (news : failureRecorded s runId = false) :
    SnapshotChange rt V s now none
      { s.toSnapshotFields with
        budgetUsage := { s.budgetUsage with
          tokens := none, unknownModelCalls := s.budgetUsage.unknownModelCalls + 1 }
        phase := .paused }
  | revised (goal : GoalContract) (working : s.phase.isTerminal = false)
      (task_id : goal.taskId = s.goal.taskId)
      (revision : goal.revision = s.goal.revision + 1) :
    SnapshotChange rt V s now none
      { s.toSnapshotFields with
        goal
        questions := s.questions.map fun q =>
          if q.status.isOpen then q.unanswered .superseded (by decide) else q
        assessments := []
        phase := if s.phase = .waitingForInput then .active else s.phase }
  | assessed (errors : AssessmentErrors) (assessments merged : List CriterionAssessment)
      (verifiedProofRefs : List String) (active : s.phase = .active)
      (presented : ∀ a ∈ assessments, (∀ r ∈ a.proofRefs, r ∈ verifiedProofRefs) → V a)
      (merges : assessments.foldlM (acceptAssessment errors s.goal verifiedProofRefs)
        s.assessments = .ok merged) :
    SnapshotChange rt V s now none { s.toSnapshotFields with assessments := merged }
  | transitioned (phase : TaskPhase) (allowed : allowedPhase s.phase phase = true)
      (free : phase = .active → blocked s.questions s.goal.revision = false)
      (done : phase = .complete → s.requiredSatisfied = true) :
    SnapshotChange rt V s now none { s.toSnapshotFields with phase }
  | expired :
    SnapshotChange rt V s now none
      { s.toSnapshotFields with
        questions := s.questions.map fun q =>
          if q.status = .pending ∧ q.request.expiresAt ≤ now then q.unanswered .expired (by decide)
          else q }
  | bound (runId : String) (delta usage : TaskBudgetUsage) (working : s.phase.isTerminal = false)
      (sum : s.budgetUsage.plus rt delta = .ok usage) :
    SnapshotChange rt V s now none
      { s.toSnapshotFields with
        latestRunId := some runId
        latestRunGoalRevision := some s.goal.revision
        budgetUsage := usage }
  /-- A run's update that asks nothing new. -/
  | updated (errors : AssessmentErrors) (assessments merged : List CriterionAssessment)
      (verifiedProofRefs : List String) (delta usage : TaskBudgetUsage) (phase : TaskPhase)
      (active : s.phase = .active) (phase_ne : phase ≠ .waitingForInput)
      (presented : ∀ a ∈ assessments, (∀ r ∈ a.proofRefs, r ∈ verifiedProofRefs) → V a)
      (merges : assessments.foldlM (acceptAssessment errors s.goal verifiedProofRefs)
        s.assessments = .ok merged)
      (sum : s.budgetUsage.plus rt delta = .ok usage) :
    SnapshotChange rt V s now none
      { s.toSnapshotFields with assessments := merged, budgetUsage := usage, phase }
  /-- A run's update with a question. -/
  | updatedAsking (errors : AssessmentErrors) (assessments merged : List CriterionAssessment)
      (verifiedProofRefs : List String) (delta usage : TaskBudgetUsage)
      (question : QuestionRequest) (active : s.phase = .active)
      (asks : Asks s question now)
      (presented : ∀ a ∈ assessments, (∀ r ∈ a.proofRefs, r ∈ verifiedProofRefs) → V a)
      (merges : assessments.foldlM (acceptAssessment errors s.goal verifiedProofRefs)
        s.assessments = .ok merged)
      (sum : s.budgetUsage.plus rt delta = .ok usage) :
    SnapshotChange rt V s now none
      { askedFields s question now with assessments := merged, budgetUsage := usage }

theorem SnapshotChange.task_id {f : SnapshotFields} {intent : Option ResumeIntent}
    (h : SnapshotChange rt V s now intent f) : f.goal.taskId = s.goal.taskId := by
  cases h with
  | revised goal _ task_id _ => exact task_id
  | _ => rfl

/-- The snapshot with the changed fields. -/
def Writes (f : SnapshotFields) (s : WorkflowTaskSnapshot) (now : Instant)
    (u : WorkflowTaskSnapshot) : Prop :=
  u.toSnapshotFields = { f with version := s.version + 1, updatedAt := now }

namespace Writes

variable {f : SnapshotFields} (h : Writes f s now u)
include h

theorem goal : u.goal = f.goal := by rw [h]
theorem owner : u.owner = f.owner := by rw [h]
theorem phase : u.phase = f.phase := by rw [h]
theorem questions : u.questions = f.questions := by rw [h]
theorem budgetUsage : u.budgetUsage = f.budgetUsage := by rw [h]
theorem updatedAt : u.updatedAt = now := by rw [h]

end Writes

theorem changed_ok {updates : SnapshotFields → SnapshotFields}
    (h : changed s now updates = .ok u) : Writes (updates s.toSnapshotFields) s now u :=
  WorkflowTaskSnapshot.make_ok h

/-! ## Reducers -/

theorem reduceQuestion_ok {question : QuestionRequest} (h : reduceQuestion s question now = .ok u) :
    u = s ∨ Asks s question now ∧ Writes (askedFields s question now) s now u := by
  obtain ⟨_, hworking, h⟩ := bind_ok h
  obtain ⟨_, hgoal, h⟩ := bind_ok h
  obtain ⟨_, hwindow, h⟩ := bind_ok h
  obtain ⟨_, _, h⟩ := bind_ok h
  obtain ⟨_, hcontext, h⟩ := bind_ok h
  obtain ⟨before, hbefore, h⟩ := bind_ok h
  cases before with
  | true => exact .inl (pure_ok h).symm
  | false =>
    rw [if_neg Bool.false_ne_true] at h
    refine .inr ⟨?_, changed_ok h⟩
    exact ⟨require_ok hworking, (require_ok hgoal).1, (require_ok hgoal).2, require_ok hwindow,
      require_ok hcontext, hbefore⟩

theorem replaceQuestion_replaceQuestion {id : String} {p q : QuestionState}
    (hp : p.request.questionId = id) (questions : List QuestionState) :
    replaceQuestion id q (replaceQuestion id p questions) = replaceQuestion id q questions := by
  unfold replaceQuestion
  rw [List.map_map]
  refine List.map_congr_left fun old _ => ?_
  simp only [Function.comp]
  by_cases hold : old.request.questionId = id
  · rw [if_pos hold, if_pos hold, if_pos hp]
  · rw [if_neg hold, if_neg hold]

/-- An answer is a replay, or it was accepted. -/
theorem reduceAnswer_ok {answer : TypedAnswer} {intentId : String} {result : AnswerSubmission}
    (h : reduceAnswer rt s answer now intentId = .ok result) :
    (result = { snapshot := s, replayed := true }) ∨
    result.replayed = false ∧ ∃ item, Accepts s answer item now ∧
      ((¬ resumes rt s answer item now ∧ result.resumeIntent = none ∧
          Writes { s.toSnapshotFields with
            questions := answeredQuestions rt s answer item now none } s now result.snapshot) ∨
        resumes rt s answer item now ∧
          result.resumeIntent = some (answerIntent s answer item now intentId) ∧
          Writes { s.toSnapshotFields with
            questions := answeredQuestions rt s answer item now (some intentId)
            phase := .active } s now result.snapshot) := by
  obtain ⟨_, hrevision, h⟩ := bind_ok h
  simp only at h
  split at h
  · obtain ⟨_, _, h⟩ := bind_ok h
    exact .inl (pure_ok h).symm
  · rename_i hkeys
    obtain ⟨item, hitem, h⟩ := bind_ok h
    have hfound := orRaise_ok hitem
    split at h
    · obtain ⟨_, _, h⟩ := bind_ok h
      exact .inl (pure_ok h).symm
    · obtain ⟨_, hworking, h⟩ := bind_ok h
      obtain ⟨_, hpending, h⟩ := bind_ok h
      obtain ⟨_, htyped, h⟩ := bind_ok h
      have haccepts : Accepts s answer item now := by
        refine ⟨require_ok hrevision, fun q hq a ha he => ?_, hfound, require_ok hworking,
          (require_ok hpending).1, (require_ok hpending).2, htyped⟩
        have := List.find?_eq_none.mp hkeys q hq
        rw [ha] at this
        simp [he] at this
      have hid : item.request.questionId = answer.questionId := by
        simpa using List.find?_some hfound
      split at h
      · rename_i hresumes
        obtain ⟨updated, hchanged, h⟩ := bind_ok h
        cases pure_ok h
        have hwrites := changed_ok hchanged
        rw [replaceQuestion_replaceQuestion
          (p := item.answeredWith answer (answer.fingerprint rt) now none) hid] at hwrites
        exact .inr ⟨rfl, item, haccepts, .inr ⟨hresumes, rfl, hwrites⟩⟩
      · rename_i hwaits
        obtain ⟨updated, hchanged, h⟩ := bind_ok h
        cases pure_ok h
        exact .inr ⟨rfl, item, haccepts, .inl ⟨hwaits, rfl, changed_ok hchanged⟩⟩

theorem compileGoalRequirements_ok {goal goal' : GoalContract} {previous : Option GoalContract}
    (h : compileGoalRequirements goal previous = .ok goal') :
    goal'.taskId = goal.taskId ∧ goal'.revision = goal.revision := by
  obtain ⟨_, _, h⟩ := bind_ok h
  simp only at h
  split at h
  · obtain ⟨_, _, h⟩ := bind_ok h
    obtain ⟨_, _, h⟩ := bind_ok h
    obtain ⟨_, rfl⟩ := orInvalid_ok h
    exact ⟨rfl, rfl⟩
  · obtain ⟨_, rfl⟩ := orInvalid_ok h
    exact ⟨rfl, rfl⟩

end ProofAgent
