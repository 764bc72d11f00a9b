import ProofAgent.Contracts.WorkflowTask

/-! # Workflow task contracts as JSON

`toJson` is `model_dump(mode="json")` and `ofJson` is `model_validate`. A
snapshot's digest is taken over the first; storage keeps the first and rebuilds
the snapshot by the second. The only numbers whose type no field fixes are the
values of an answer: `onFloats g` is a snapshot after its answers' floats went
through `g`, and `WorkflowTaskSnapshot.ofJson_reshape` says that reading back
is `onFloats`. -/
namespace ProofAgent

open Base
open Base.Json (readField asStr asBool asNat asFloat asTime asList asOption ofOption reshape)

/-! ## Enumerations and optional values -/

/-- Read an enumeration by the texts of its members. -/
def readEnum {α : Type} (members : List α) (value : α → String) (j : Json) : Option α :=
  j.asStr.bind fun s => members.find? fun a => value a = s

def Verifier.ofJson : Json → Option Verifier :=
  readEnum [.sourceSupport, .verifiedTool, .answerCoverage, .groundedAnalysis] Verifier.value

def TaskPhase.ofJson : Json → Option TaskPhase :=
  readEnum [.active, .waitingForInput, .paused, .complete, .failed, .cancelled] TaskPhase.value

def QuestionStage.ofJson : Json → Option QuestionStage :=
  readEnum [.goal, .intent, .plan, .evidence, .tool, .answer, .response] QuestionStage.value

def ValueType.ofJson : Json → Option ValueType :=
  readEnum [.string, .integer, .number, .boolean] ValueType.value

def AssessmentStatus.ofJson : Json → Option AssessmentStatus :=
  readEnum [.unassessed, .satisfied, .failed] AssessmentStatus.value

def QuestionStatus.ofJson : Json → Option QuestionStatus :=
  readEnum [.pending, .answered, .expired, .superseded] QuestionStatus.value

@[simp] theorem Verifier.ofJson_value (v : Verifier) : Verifier.ofJson (.str v.value) = some v := by
  cases v <;> decide

@[simp] theorem TaskPhase.ofJson_value (p : TaskPhase) :
    TaskPhase.ofJson (.str p.value) = some p := by
  cases p <;> decide

@[simp] theorem QuestionStage.ofJson_value (s : QuestionStage) :
    QuestionStage.ofJson (.str s.value) = some s := by
  cases s <;> decide

@[simp] theorem ValueType.ofJson_value (t : ValueType) :
    ValueType.ofJson (.str t.value) = some t := by
  cases t <;> decide

@[simp] theorem AssessmentStatus.ofJson_value (s : AssessmentStatus) :
    AssessmentStatus.ofJson (.str s.value) = some s := by
  cases s <;> decide

@[simp] theorem QuestionStatus.ofJson_value (s : QuestionStatus) :
    QuestionStatus.ofJson (.str s.value) = some s := by
  cases s <;> decide

def natJson (n : Nat) : Json := .int n

def textsJson (texts : List String) : Json := .arr (texts.map .str)

section
variable (f : PyFloat → Json)

@[simp] theorem reshape_natJson (n : Nat) : reshape f (natJson n) = natJson n := rfl

@[simp] theorem asNat_natJson (n : Nat) : asNat (natJson n) = some n := Json.asNat_natCast n

@[simp] theorem asOption_text (s : Option String) :
    asOption asStr (reshape f (ofOption .str s)) = some s := by
  cases s <;> rfl

@[simp] theorem asOption_nat (n : Option Nat) :
    asOption asNat (reshape f (ofOption natJson n)) = some n := by
  cases n with
  | none => rfl
  | some n => simp [ofOption, natJson, asOption]

@[simp] theorem asOption_time (t : Option Instant) :
    asOption asTime (reshape f (ofOption .time t)) = some t := by
  cases t <;> rfl

theorem mapM_some {α : Type} (items : List α) : items.mapM some = some items := by
  induction items with
  | nil => rfl
  | cons a rest ih => rw [List.mapM_cons, ih]; rfl

theorem asList_all {α : Type} {write : α → Json} {read : Json → Option α}
    (h : ∀ a, read (reshape f (write a)) = some a) (items : List α) :
    asList read (reshape f (.arr (items.map write))) = some items := by
  rw [Json.asList_reshape f _ fun a _ => h a, mapM_some]

@[simp] theorem asList_texts (texts : List String) :
    asList asStr (reshape f (textsJson texts)) = some texts :=
  asList_all f (fun _ => rfl) texts

end

/-! ## Owners, goals and questions -/

def TaskOwner.jsonFields (o : TaskOwner) : List (String × Json) :=
  [("actor_subject", .str o.actorSubject), ("agent_id", .str o.agentId),
    ("agent_version", .str o.agentVersion)]

def TaskOwner.ofJson (j : Json) : Option TaskOwner := do
  let actorSubject ← readField asStr "actor_subject" j
  let agentId ← readField asStr "agent_id" j
  let agentVersion ← readField asStr "agent_version" j
  return { actorSubject, agentId, agentVersion }

theorem TaskOwner.ofJson_reshape (f : PyFloat → Json) (o : TaskOwner) :
    TaskOwner.ofJson (reshape f (.obj o.jsonFields)) = some o := by
  have hkeys : (o.jsonFields.map Prod.fst).Nodup := by simp [jsonFields]
  simp only [ofJson, Json.readField_reshape f hkeys]
  simp [jsonFields, List.lookup_cons]

def AcceptanceCriterion.jsonFields (c : AcceptanceCriterion) : List (String × Json) :=
  [("criterion_id", .str c.criterionId), ("description", .str c.description),
    ("required", .bool c.required), ("verifier", .str c.verifier.value),
    ("query", ofOption .str c.query), ("expected_text", ofOption .str c.expectedText),
    ("tool_step_id", ofOption .str c.toolStepId)]

def AcceptanceCriterion.ofJson (j : Json) : Option AcceptanceCriterion := do
  let criterionId ← readField asStr "criterion_id" j
  let description ← readField asStr "description" j
  let required ← readField asBool "required" j
  let verifier ← readField Verifier.ofJson "verifier" j
  let query ← readField (asOption asStr) "query" j
  let expectedText ← readField (asOption asStr) "expected_text" j
  let toolStepId ← readField (asOption asStr) "tool_step_id" j
  if h : (query.isSome = true → verifier = .sourceSupport) ∧
      (expectedText.isSome = true → verifier = .answerCoverage) ∧
      (toolStepId.isSome = true → verifier = .verifiedTool) then
    return { criterionId, description, required, verifier, query, expectedText, toolStepId,
             query_basis := h.1, text_basis := h.2.1, tool_basis := h.2.2 }
  else none

theorem AcceptanceCriterion.ofJson_reshape (f : PyFloat → Json) (c : AcceptanceCriterion) :
    AcceptanceCriterion.ofJson (reshape f (.obj c.jsonFields)) = some c := by
  have hkeys : (c.jsonFields.map Prod.fst).Nodup := by simp [jsonFields]
  simp only [ofJson, Json.readField_reshape f hkeys]
  simp [jsonFields, List.lookup_cons]
  exact ⟨c.query_basis, c.text_basis, c.tool_basis⟩

def GoalContract.jsonFields (g : GoalContract) : List (String × Json) :=
  [("task_id", .str g.taskId), ("revision", natJson g.revision), ("objective", .str g.objective),
    ("source_input_ref", .str g.sourceInputRef),
    ("acceptance_criteria", .arr (g.acceptanceCriteria.map fun c => .obj c.jsonFields)),
    ("constraints", textsJson g.constraints), ("required_context", textsJson g.requiredContext)]

def GoalContract.ofJson (j : Json) : Option GoalContract := do
  let taskId ← readField asStr "task_id" j
  let revision ← readField asNat "revision" j
  let objective ← readField asStr "objective" j
  let sourceInputRef ← readField asStr "source_input_ref" j
  let acceptanceCriteria ← readField (asList AcceptanceCriterion.ofJson) "acceptance_criteria" j
  let constraints ← readField (asList asStr) "constraints" j
  let requiredContext ← readField (asList asStr) "required_context" j
  (GoalContract.make { taskId, revision, objective, sourceInputRef, acceptanceCriteria, constraints,
                       requiredContext }).toOption

theorem GoalContract.make_self (g : GoalContract) : GoalContract.make g.toGoalFields = .ok g :=
  orInvalid_of g.accepted

theorem GoalContract.ofJson_reshape (f : PyFloat → Json) (g : GoalContract) :
    GoalContract.ofJson (reshape f (.obj g.jsonFields)) = some g := by
  have hkeys : (g.jsonFields.map Prod.fst).Nodup := by simp [jsonFields]
  have hcriteria := asList_all f (AcceptanceCriterion.ofJson_reshape f) g.acceptanceCriteria
  have hmake := congrArg Except.toOption g.make_self
  simp only [ofJson, Json.readField_reshape f hkeys]
  simp [jsonFields, List.lookup_cons, hcriteria, -Json.reshape_arr]
  exact hmake

def QuestionField.jsonFields (q : QuestionField) : List (String × Json) :=
  [("name", .str q.name), ("label", .str q.label), ("value_type", .str q.valueType.value),
    ("required", .bool q.required), ("choices", textsJson q.choices),
    ("max_length", natJson q.maxLength)]

def QuestionField.ofJson (j : Json) : Option QuestionField := do
  let name ← readField asStr "name" j
  let label ← readField asStr "label" j
  let valueType ← readField ValueType.ofJson "value_type" j
  let required ← readField asBool "required" j
  let choices ← readField (asList asStr) "choices" j
  let maxLength ← readField asNat "max_length" j
  if h : (choices ≠ [] → valueType = .string) ∧ choices.Nodup then
    return { name, label, valueType, required, choices, maxLength, string_choices := h.1,
             unique_choices := h.2 }
  else none

theorem QuestionField.ofJson_reshape (f : PyFloat → Json) (q : QuestionField) :
    QuestionField.ofJson (reshape f (.obj q.jsonFields)) = some q := by
  have hkeys : (q.jsonFields.map Prod.fst).Nodup := by simp [jsonFields]
  simp only [ofJson, Json.readField_reshape f hkeys]
  simp [jsonFields, List.lookup_cons]
  exact ⟨q.string_choices, q.unique_choices⟩

def QuestionRequest.jsonFields (q : QuestionRequest) : List (String × Json) :=
  [("question_id", .str q.questionId), ("task_id", .str q.taskId),
    ("goal_revision", natJson q.goalRevision), ("stage", .str q.stage.value),
    ("fields", .arr (q.fields.map fun g => .obj g.jsonFields)), ("blocking", .bool q.blocking),
    ("affected_criteria", textsJson q.affectedCriteria), ("expires_at", .time q.expiresAt),
    ("dedupe_key", .str q.dedupeKey), ("checkpoint_ref", .str q.checkpointRef)]

def QuestionRequest.ofJson (j : Json) : Option QuestionRequest := do
  let questionId ← readField asStr "question_id" j
  let taskId ← readField asStr "task_id" j
  let goalRevision ← readField asNat "goal_revision" j
  let stage ← readField QuestionStage.ofJson "stage" j
  let fields ← readField (asList QuestionField.ofJson) "fields" j
  let blocking ← readField asBool "blocking" j
  let affectedCriteria ← readField (asList asStr) "affected_criteria" j
  let expiresAt ← readField asTime "expires_at" j
  let dedupeKey ← readField asStr "dedupe_key" j
  let checkpointRef ← readField asStr "checkpoint_ref" j
  (QuestionRequest.make { questionId, taskId, goalRevision, stage, fields, blocking,
                          affectedCriteria, expiresAt, dedupeKey, checkpointRef }).toOption

theorem QuestionRequest.make_self (q : QuestionRequest) :
    QuestionRequest.make q.toQuestionRequestFields = .ok q :=
  orInvalid_of q.accepted

theorem QuestionRequest.ofJson_reshape (f : PyFloat → Json) (q : QuestionRequest) :
    QuestionRequest.ofJson (reshape f (.obj q.jsonFields)) = some q := by
  have hkeys : (q.jsonFields.map Prod.fst).Nodup := by simp [jsonFields]
  have hfields := asList_all f (QuestionField.ofJson_reshape f) q.fields
  have hmake := congrArg Except.toOption q.make_self
  simp only [ofJson, Json.readField_reshape f hkeys]
  simp [jsonFields, List.lookup_cons, hfields, -Json.reshape_arr]
  exact hmake

/-! ## Answers -/

def Scalar.toJson : Scalar → Json
  | .str s => .str s
  | .int n => .int n
  | .float x => .float x
  | .bool b => .bool b

def Scalar.ofJson : Json → Option Scalar
  | .str s => some (.str s)
  | .int n => some (.int n)
  | .float x => some (.float x)
  | .bool b => some (.bool b)
  | _ => none

/-- The value after a float went through `g`. -/
def Scalar.onFloats (g : PyFloat → Scalar) : Scalar → Scalar
  | .float x => g x
  | v => v

theorem Scalar.ofJson_reshape (g : PyFloat → Scalar) (v : Scalar) :
    Scalar.ofJson (reshape (fun x => (g x).toJson) v.toJson) = some (v.onFloats g) := by
  cases v with
  | float x =>
    rw [toJson, Json.reshape_float, onFloats]
    cases g x <;> rfl
  | str s => rfl
  | int n => rfl
  | bool b => rfl

/-- The order of entries by their names. -/
def nameLe (a b : String × Scalar) : Prop := a.1 ≤ b.1

instance : DecidableRel nameLe := fun a b => inferInstanceAs (Decidable (a.1 ≤ b.1))

instance : Std.Total nameLe := ⟨fun a b => String.le_total a.1 b.1⟩

instance : IsTrans (String × Scalar) nameLe := ⟨fun _ _ _ => String.le_trans⟩

/-- The mapping with the given entries, whose names are distinct. -/
def AnswerValues.ofEntries (entries : List (String × Scalar)) : Option AnswerValues :=
  if h : (entries.insertionSort nameLe).Pairwise fun a b => a.1 < b.1 then some ⟨_, h⟩ else none

theorem AnswerValues.ofEntries_perm (v : AnswerValues) {entries : List (String × Scalar)}
    (h : entries.Perm v.entries) : AnswerValues.ofEntries entries = some v := by
  have hsorted : entries.insertionSort nameLe = v.entries := by
    have hp : (entries.insertionSort nameLe).Perm v.entries :=
      (List.perm_insertionSort ..).trans h
    have hv : (v.entries.map Prod.fst).Nodup :=
      List.pairwise_map.mpr (v.ordered.imp String.ne_of_lt)
    have hle : v.entries.Pairwise nameLe := v.ordered.imp String.lt_asymm
    refine List.Perm.eq_of_pairwise (fun a b ha hb hab hba => ?_)
      (List.pairwise_insertionSort nameLe entries) hle hp
    exact List.inj_on_of_nodup_map hv (hp.subset ha) hb (String.le_antisymm hab hba)
  have hordered := v.ordered
  rw [← hsorted] at hordered
  rw [ofEntries, dif_pos hordered]
  obtain ⟨es, ho⟩ := v
  simp only at hsorted
  subst hsorted
  rfl

def AnswerValues.onFloats (g : PyFloat → Scalar) (v : AnswerValues) : AnswerValues where
  entries := v.entries.map fun p => (p.1, p.2.onFloats g)
  ordered := List.pairwise_map.mpr v.ordered

def AnswerValues.toJson (v : AnswerValues) : Json :=
  .obj (v.entries.map fun p => (p.1, p.2.toJson))

def AnswerValues.ofJson : Json → Option AnswerValues
  | .obj fields =>
    (fields.mapM fun p => (Scalar.ofJson p.2).map (Prod.mk p.1)).bind AnswerValues.ofEntries
  | _ => none

theorem AnswerValues.ofJson_reshape (g : PyFloat → Scalar) (v : AnswerValues) :
    AnswerValues.ofJson (reshape (fun x => (g x).toJson) v.toJson) = some (v.onFloats g) := by
  have hread : ∀ es : List (String × Scalar),
      ((es.map fun p => (p.1, reshape (fun x => (g x).toJson) p.2.toJson)).mapM
        fun p => (Scalar.ofJson p.2).map (Prod.mk p.1)) =
        some (es.map fun p => (p.1, p.2.onFloats g)) := by
    intro es
    induction es with
    | nil => rfl
    | cons p rest ih =>
      rw [List.map_cons, List.mapM_cons, ih, Scalar.ofJson_reshape]
      rfl
  rw [toJson, Json.reshape_obj, List.map_map, ofJson]
  have hsort := Json.sortFields_map
    (fun w : Scalar => reshape (fun x => (g x).toJson) w.toJson) v.entries
  simp only [Function.comp_def, hsort, hread, Option.bind_some]
  exact (v.onFloats g).ofEntries_perm ((Json.sortFields_perm v.entries).map _)

def TypedAnswer.jsonFields (a : TypedAnswer) : List (String × Json) :=
  [("question_id", .str a.questionId),
    ("expected_goal_revision", natJson a.expectedGoalRevision), ("values", a.values.toJson),
    ("idempotency_key", .str a.idempotencyKey)]

/-- `fingerprint()`: the idempotency key is no part of it. -/
def TypedAnswer.fingerprint (rt : Runtime) (a : TypedAnswer) : String :=
  rt.sha256 (.obj [("question_id", .str a.questionId),
    ("expected_goal_revision", natJson a.expectedGoalRevision), ("values", a.values.toJson)])

/-- `TypedAnswer(...)`. -/
def TypedAnswer.make (questionId : String) (expectedGoalRevision : Nat) (values : AnswerValues)
    (idempotencyKey : String) : Option TypedAnswer :=
  if h : (1 ≤ values.entries.length ∧ values.entries.length ≤ 8) ∧
      ∀ p ∈ values.entries, 1 ≤ p.1.length ∧ p.1.length ≤ 128 ∧ p.2.bounded = true then
    some { questionId, expectedGoalRevision, values, idempotencyKey, size := h.1, bounded := h.2 }
  else none

def TypedAnswer.ofJson (j : Json) : Option TypedAnswer := do
  let questionId ← readField asStr "question_id" j
  let expectedGoalRevision ← readField asNat "expected_goal_revision" j
  let values ← readField AnswerValues.ofJson "values" j
  let idempotencyKey ← readField asStr "idempotency_key" j
  TypedAnswer.make questionId expectedGoalRevision values idempotencyKey

/-- The answer after its floats went through `g`, if its validator accepts them. -/
def TypedAnswer.onFloats (g : PyFloat → Scalar) (a : TypedAnswer) : Option TypedAnswer :=
  TypedAnswer.make a.questionId a.expectedGoalRevision (a.values.onFloats g) a.idempotencyKey

theorem TypedAnswer.ofJson_reshape (g : PyFloat → Scalar) (a : TypedAnswer) :
    TypedAnswer.ofJson (reshape (fun x => (g x).toJson) (.obj a.jsonFields)) = a.onFloats g := by
  have hkeys : (a.jsonFields.map Prod.fst).Nodup := by simp [jsonFields]
  simp only [ofJson, Json.readField_reshape _ hkeys]
  simp [jsonFields, List.lookup_cons, AnswerValues.ofJson_reshape, onFloats]

/-! ## Assessments, questions and snapshots -/

def CriterionAssessment.jsonFields (a : CriterionAssessment) : List (String × Json) :=
  [("criterion_id", .str a.criterionId), ("goal_revision", natJson a.goalRevision),
    ("status", .str a.status.value), ("verifier", .str a.verifier.value),
    ("proof_refs", textsJson a.proofRefs)]

def CriterionAssessment.ofJson (j : Json) : Option CriterionAssessment := do
  let criterionId ← readField asStr "criterion_id" j
  let goalRevision ← readField asNat "goal_revision" j
  let status ← readField AssessmentStatus.ofJson "status" j
  let verifier ← readField Verifier.ofJson "verifier" j
  let proofRefs ← readField (asList asStr) "proof_refs" j
  if h : status = .satisfied → proofRefs ≠ [] then
    return { criterionId, goalRevision, status, verifier, proofRefs, proof_for_success := h }
  else none

theorem CriterionAssessment.ofJson_reshape (f : PyFloat → Json) (a : CriterionAssessment) :
    CriterionAssessment.ofJson (reshape f (.obj a.jsonFields)) = some a := by
  have hkeys : (a.jsonFields.map Prod.fst).Nodup := by simp [jsonFields]
  simp only [ofJson, Json.readField_reshape f hkeys]
  simp [jsonFields, List.lookup_cons]
  exact a.proof_for_success

def QuestionState.jsonFields (q : QuestionState) : List (String × Json) :=
  [("request", .obj q.request.jsonFields), ("asked_at", ofOption .time q.askedAt),
    ("status", .str q.status.value), ("answer", ofOption (fun a => .obj a.jsonFields) q.answer),
    ("answer_fingerprint", ofOption .str q.answerFingerprint),
    ("answered_at", ofOption .time q.answeredAt),
    ("resume_intent_id", ofOption .str q.resumeIntentId)]

/-- `QuestionState(...)`. -/
def QuestionState.make (request : QuestionRequest) (askedAt : Option Instant)
    (status : QuestionStatus) (answer : Option TypedAnswer) (answerFingerprint : Option String)
    (answeredAt : Option Instant) (resumeIntentId : Option String) : Option QuestionState :=
  if h : answer.isSome = decide (status = .answered) ∧
      answerFingerprint.isSome = decide (status = .answered) ∧
      answeredAt.isSome = decide (status = .answered) then
    some { request, askedAt, status, answer, answerFingerprint, answeredAt, resumeIntentId,
           coherent_answer := h }
  else none

def QuestionState.ofJson (j : Json) : Option QuestionState := do
  let request ← readField QuestionRequest.ofJson "request" j
  let askedAt ← readField (asOption asTime) "asked_at" j
  let status ← readField QuestionStatus.ofJson "status" j
  let answer ← readField (asOption TypedAnswer.ofJson) "answer" j
  let answerFingerprint ← readField (asOption asStr) "answer_fingerprint" j
  let answeredAt ← readField (asOption asTime) "answered_at" j
  let resumeIntentId ← readField (asOption asStr) "resume_intent_id" j
  QuestionState.make request askedAt status answer answerFingerprint answeredAt resumeIntentId

/-- The question after its answer's floats went through `g`. -/
def QuestionState.onFloats (g : PyFloat → Scalar) (q : QuestionState) : Option QuestionState :=
  (q.answer.mapM (TypedAnswer.onFloats g)).bind fun answer =>
    QuestionState.make q.request q.askedAt q.status answer q.answerFingerprint q.answeredAt
      q.resumeIntentId

theorem QuestionState.ofJson_reshape (g : PyFloat → Scalar) (q : QuestionState) :
    QuestionState.ofJson (reshape (fun x => (g x).toJson) (.obj q.jsonFields)) =
      q.onFloats g := by
  have hkeys : (q.jsonFields.map Prod.fst).Nodup := by simp [jsonFields]
  have hanswer : asOption TypedAnswer.ofJson (reshape (fun x => (g x).toJson)
      (ofOption (fun a => .obj a.jsonFields) q.answer)) = q.answer.mapM (TypedAnswer.onFloats g) :=
    Json.asOption_reshape _ (fun a _ => by simp [Json.reshape_obj])
      fun a _ => a.ofJson_reshape g
  simp only [ofJson, Json.readField_reshape _ hkeys]
  simp [jsonFields, List.lookup_cons, QuestionRequest.ofJson_reshape, hanswer, onFloats]

def TaskBudgetUsage.jsonFields (u : TaskBudgetUsage) : List (String × Json) :=
  [("model_calls", natJson u.modelCalls), ("retrieval_calls", natJson u.retrievalCalls),
    ("tool_calls", natJson u.toolCalls), ("tokens", ofOption natJson u.tokens),
    ("unknown_model_calls", natJson u.unknownModelCalls),
    ("active_seconds", .float u.activeSeconds)]

def TaskBudgetUsage.ofJson (j : Json) : Option TaskBudgetUsage := do
  let modelCalls ← readField asNat "model_calls" j
  let retrievalCalls ← readField asNat "retrieval_calls" j
  let toolCalls ← readField asNat "tool_calls" j
  let tokens ← readField (asOption asNat) "tokens" j
  let unknownModelCalls ← readField asNat "unknown_model_calls" j
  let activeSeconds ← readField asFloat "active_seconds" j
  if h : activeSeconds.nonneg = true then
    return { modelCalls, retrievalCalls, toolCalls, tokens, unknownModelCalls, activeSeconds,
             nonneg_seconds := h }
  else none

theorem TaskBudgetUsage.ofJson_reshape (f : PyFloat → Json) (u : TaskBudgetUsage)
    (hseconds : asFloat (f u.activeSeconds) = some u.activeSeconds) :
    TaskBudgetUsage.ofJson (reshape f (.obj u.jsonFields)) = some u := by
  have hkeys : (u.jsonFields.map Prod.fst).Nodup := by simp [jsonFields]
  simp only [ofJson, Json.readField_reshape f hkeys]
  simp [jsonFields, List.lookup_cons, hseconds]
  exact u.nonneg_seconds

def WorkflowTaskSnapshot.jsonFields (s : WorkflowTaskSnapshot) : List (String × Json) :=
  [("schema_version", natJson 1), ("goal", .obj s.goal.jsonFields),
    ("owner", .obj s.owner.jsonFields),
    ("creation_request_sha256", ofOption .str s.creationRequestSha256),
    ("conversation_id", ofOption .str s.conversationId),
    ("allow_untrusted_web_supplement", .bool s.allowUntrustedWebSupplement),
    ("version", natJson s.version), ("phase", .str s.phase.value),
    ("questions", .arr (s.questions.map fun q => .obj q.jsonFields)),
    ("assessments", .arr (s.assessments.map fun a => .obj a.jsonFields)),
    ("latest_run_id", ofOption .str s.latestRunId),
    ("latest_run_goal_revision", ofOption natJson s.latestRunGoalRevision),
    ("budget_usage", .obj s.budgetUsage.jsonFields), ("created_at", .time s.createdAt),
    ("updated_at", .time s.updatedAt), ("raw_content_expires_at", .time s.rawContentExpiresAt)]

def WorkflowTaskSnapshot.toJson (s : WorkflowTaskSnapshot) : Json := .obj s.jsonFields

def WorkflowTaskSnapshot.digest (rt : Runtime) (s : WorkflowTaskSnapshot) : String :=
  rt.sha256 s.toJson

/-- `WorkflowTaskSnapshot.model_validate(...)`; the schema version is a literal. -/
def WorkflowTaskSnapshot.ofJson (j : Json) : Option WorkflowTaskSnapshot := do
  let schemaVersion ← readField asNat "schema_version" j
  let goal ← readField GoalContract.ofJson "goal" j
  let owner ← readField TaskOwner.ofJson "owner" j
  let creationRequestSha256 ← readField (asOption asStr) "creation_request_sha256" j
  let conversationId ← readField (asOption asStr) "conversation_id" j
  let allowUntrustedWebSupplement ← readField asBool "allow_untrusted_web_supplement" j
  let version ← readField asNat "version" j
  let phase ← readField TaskPhase.ofJson "phase" j
  let questions ← readField (asList QuestionState.ofJson) "questions" j
  let assessments ← readField (asList CriterionAssessment.ofJson) "assessments" j
  let latestRunId ← readField (asOption asStr) "latest_run_id" j
  let latestRunGoalRevision ← readField (asOption asNat) "latest_run_goal_revision" j
  let budgetUsage ← readField TaskBudgetUsage.ofJson "budget_usage" j
  let createdAt ← readField asTime "created_at" j
  let updatedAt ← readField asTime "updated_at" j
  let rawContentExpiresAt ← readField asTime "raw_content_expires_at" j
  if schemaVersion = 1 then
    (WorkflowTaskSnapshot.make {
      goal, owner, creationRequestSha256, conversationId, allowUntrustedWebSupplement, version,
      phase, questions, assessments, latestRunId, latestRunGoalRevision, budgetUsage, createdAt,
      updatedAt, rawContentExpiresAt }).toOption
  else none

/-- The snapshot after its answers' floats went through `g`. -/
def WorkflowTaskSnapshot.onFloats (g : PyFloat → Scalar) (s : WorkflowTaskSnapshot) :
    Option WorkflowTaskSnapshot :=
  (s.questions.mapM (QuestionState.onFloats g)).bind fun questions =>
    (WorkflowTaskSnapshot.make { s.toSnapshotFields with questions }).toOption

/-- **Reading back.** Whatever storage makes of a float, if it leaves the seconds
of the budget readable then it reads the snapshot back with its answers' floats
replaced, and nothing else. -/
theorem WorkflowTaskSnapshot.ofJson_reshape (g : PyFloat → Scalar) (s : WorkflowTaskSnapshot)
    (hseconds : asFloat (g s.budgetUsage.activeSeconds).toJson =
      some s.budgetUsage.activeSeconds) :
    WorkflowTaskSnapshot.ofJson (reshape (fun x => (g x).toJson) s.toJson) = s.onFloats g := by
  have hkeys : (s.jsonFields.map Prod.fst).Nodup := by simp [jsonFields]
  have hquestions := Json.asList_reshape (fun x => (g x).toJson) s.questions
    fun q _ => q.ofJson_reshape g
  have hassessments := asList_all (fun x => (g x).toJson)
    (CriterionAssessment.ofJson_reshape _) s.assessments
  have hbudget := s.budgetUsage.ofJson_reshape (fun x => (g x).toJson) hseconds
  rw [toJson]
  simp only [ofJson, Json.readField_reshape _ hkeys]
  simp [jsonFields, List.lookup_cons, GoalContract.ofJson_reshape, TaskOwner.ofJson_reshape,
    hquestions, hassessments, hbudget, -Json.reshape_arr]
  rfl

end ProofAgent
