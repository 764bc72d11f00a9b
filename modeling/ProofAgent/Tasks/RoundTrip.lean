import ProofAgent.Tasks.Histories

/-! # Which snapshots survive storage

The digest of a snapshot is taken over its floats as the program has them, and
checked over the floats as storage gives them back. A snapshot therefore
survives exactly if storage leaves the floats of its answers as they are: no
negative zero, and none whose expanded decimal has no fractional digits. -/
namespace ProofAgent

open Base WorkflowTaskRepository

variable {rt : Runtime}

/-- A value that storage gives back as it was. -/
def Scalar.survives : Scalar → Bool
  | .float x => !x.isNegativeZero && !x.readsBackAsInt
  | _ => true

/-- No answer of the snapshot has a value that storage changes. -/
def WorkflowTaskSnapshot.survives (s : WorkflowTaskSnapshot) : Prop :=
  ∀ q ∈ s.questions, ∀ a ∈ q.answer, ∀ p ∈ a.values.entries, p.2.survives = true

theorem Scalar.onFloats_eq_iff (v : Scalar) : v.onFloats storedScalar = v ↔ v.survives = true := by
  cases v with
  | float x =>
    simp only [onFloats, storedScalar, survives, Bool.and_eq_true, Bool.not_eq_true']
    cases hint : x.readsBackAsInt with
    | true => simp
    | false =>
      simp only [Bool.false_eq_true, if_false, Scalar.float.injEq, and_true]
      cases hneg : x.isNegativeZero with
      | true => simp [x.unsigned_ne hneg]
      | false => simp [x.unsigned_eq hneg]
  | str s => simp [onFloats, survives]
  | int n => simp [onFloats, survives]
  | bool b => simp [onFloats, survives]

theorem AnswerValues.onFloats_eq_iff (v : AnswerValues) :
    v.onFloats storedScalar = v ↔ ∀ p ∈ v.entries, p.2.survives = true := by
  have hmap : v.onFloats storedScalar = v ↔
      (v.entries.map fun p => (p.1, p.2.onFloats storedScalar)) = v.entries.map id := by
    rw [List.map_id]
    constructor
    · intro h
      exact congrArg AnswerValues.entries h
    · intro h
      obtain ⟨entries, ordered⟩ := v
      simp only [onFloats, AnswerValues.mk.injEq]
      exact h
  rw [hmap, List.map_inj_left]
  refine forall₂_congr fun p _ => ?_
  rw [← Scalar.onFloats_eq_iff, Prod.ext_iff]
  exact ⟨fun h => h.2, fun h => ⟨rfl, h⟩⟩

theorem TypedAnswer.onFloats_eq_iff (a : TypedAnswer) :
    a.onFloats storedScalar = some a ↔ ∀ p ∈ a.values.entries, p.2.survives = true := by
  rw [← AnswerValues.onFloats_eq_iff]
  constructor
  · intro h
    exact (TypedAnswer.onFloats_ok h).2.2.2.symm
  · intro h
    rw [onFloats, h, make, dif_pos ⟨a.size, a.bounded⟩]

theorem QuestionState.onFloats_eq_iff (q : QuestionState) :
    q.onFloats storedScalar = some q ↔
      ∀ a ∈ q.answer, ∀ p ∈ a.values.entries, p.2.survives = true := by
  have hanswer : q.answer.mapM (TypedAnswer.onFloats storedScalar) = some q.answer ↔
      ∀ a ∈ q.answer, ∀ p ∈ a.values.entries, p.2.survives = true := by
    cases q.answer with
    | none => simp
    | some a =>
      simp only [Option.mem_def, Option.some.injEq, forall_eq', ← TypedAnswer.onFloats_eq_iff]
      cases h : a.onFloats storedScalar <;> simp [h]
  rw [← hanswer]
  constructor
  · intro h
    exact (QuestionState.onFloats_ok h).answer
  · intro h
    rw [onFloats, h, Option.bind_some, make, dif_pos q.coherent_answer]

theorem WorkflowTaskSnapshot.onFloats_eq_iff (s : WorkflowTaskSnapshot) :
    s.onFloats storedScalar = some s ↔ s.survives := by
  have hquestions : s.questions.mapM (QuestionState.onFloats storedScalar) = some s.questions ↔
      s.survives := by
    rw [Json.mapM_eq_some_iff, List.forall₂_same]
    exact forall₂_congr fun q _ => q.onFloats_eq_iff
  rw [← hquestions]
  constructor
  · intro h
    unfold onFloats at h
    obtain ⟨questions, hq, hmake⟩ := Option.bind_eq_some_iff.mp h
    have hsame : s.questions = questions := congrArg SnapshotFields.questions (make_toOption hmake)
    rw [hq, hsame]
  · intro h
    rw [onFloats, h, Option.bind_some]
    show (WorkflowTaskSnapshot.make s.toSnapshotFields).toOption = some s
    rw [WorkflowTaskSnapshot.make, orInvalid_of s.accepted]
    rfl

/-! ## Reading a row -/

/-- **A row gives its snapshot back exactly if the snapshot survives.** -/
theorem TaskRow.Holds.decode_self_iff {row : TaskRow} {s : WorkflowTaskSnapshot}
    (h : row.Holds rt s) : decode rt row = .ok s ↔ s.survives := by
  rw [h.decode_iff, s.onFloats_eq_iff]
  exact and_iff_left rfl

theorem get_row {t : TaskTables} {row : TaskRow} (h : row ∈ t.workflowTasks.rows) :
    WorkflowTaskRepository.get rt row.taskId row.owner t = (decode rt row).map some := by
  rw [WorkflowTaskRepository.get, rowFor_eq_some_iff.mpr ⟨h, rfl, rfl⟩]

/-- Each row holds the snapshot that the last accepted write wrote, and `get` returns that
snapshot exactly if storage leaves the floats of its answers alone. -/
structure StoredSnapshots (rt : Runtime) (t : TaskTables) : Prop where
  held : ∀ row ∈ t.workflowTasks.rows, ∃ s, row.Holds rt s
  exact : ∀ row ∈ t.workflowTasks.rows, ∀ s, row.Holds rt s →
    (WorkflowTaskRepository.get rt row.taskId row.owner t = .ok (some s) ↔ s.survives)

/-- **Snapshots in storage**, after every history. -/
theorem history_roundTrip (rt : Runtime) (calls : List Call) :
    StoredSnapshots rt (after (exec rt) Database.initial calls).tasks := by
  refine ⟨Reachable.rowsHold ⟨calls, rfl⟩, fun row hrow s hholds => ?_⟩
  rw [get_row hrow, ← hholds.decode_self_iff]
  cases decode rt row with
  | error e => exact ⟨(nomatch ·), (nomatch ·)⟩
  | ok s' => simp [Except.map]

/-! ## An answer that makes its task unreadable -/
namespace Sample

mutual
/-- The number of floats in a value. -/
def floats : Json → Nat
  | .float _ => 1
  | .arr items => floatsOfItems items
  | .obj fields => floatsOfFields fields
  | _ => 0

def floatsOfItems : List Json → Nat
  | [] => 0
  | j :: rest => floats j + floatsOfItems rest

def floatsOfFields : List (String × Json) → Nat
  | [] => 0
  | (_, j) :: rest => floats j + floatsOfFields rest
end

/-- A digest that tells a float from an integer. -/
def floatRuntime : Runtime :=
  { runtime with sha256 := fun j => String.ofList (List.replicate (floats j) 'f') }

def owner : TaskOwner := ⟨"alice", "agent", "00000000-0000-4000-8000-0000000000aa"⟩

def goal : GoalContract :=
  ⟨{ taskId := "task", revision := 1, objective := "objective", sourceInputRef := "input"
     acceptanceCriteria := [{ criterionId := "c", description := "d", verifier := .sourceSupport }] },
    by decide⟩

/-- A question for a number. -/
def amountQuestion : QuestionRequest :=
  ⟨{ questionId := "q", taskId := "task", goalRevision := 1, stage := .goal
     fields := [{ name := "amount", label := "Amount", valueType := .number }]
     expiresAt := days 1, dedupeKey := "key", checkpointRef := "checkpoint" }, by decide⟩

/-- The answer `1e16`. -/
def amountAnswer : TypedAnswer where
  questionId := "q"
  expectedGoalRevision := 1
  values := ⟨[("amount", .float ⟨false, 1, 16, by decide⟩)], by simp⟩
  idempotencyKey := "answer"
  size := by decide
  bounded := by decide

/-- A task is created, asks for an amount, and is told `1e16`. -/
def amountHistory : List Call :=
  [.task (.create goal owner 0 none none none false),
   .task (.ask "task" amountQuestion owner 1 0),
   .task (.answer "task" amountAnswer owner 0 "resume")]

/-- Whether the task is there and its snapshot fails the integrity check. -/
def unreadable (rt : Runtime) (t : TaskTables) : Bool :=
  t.workflowTasks.rows.any fun row => row.taskId = "task" && row.version = 3 &&
    match decode rt row with
    | .error (.persistenceInvariant m) => m = "workflow snapshot integrity mismatch"
    | _ => false

theorem amount_unreadable :
    unreadable floatRuntime (after (exec floatRuntime) Database.initial amountHistory).tasks =
      true := by
  decide +kernel

end Sample

/-- The answer was accepted, and the task cannot be read any more. -/
theorem largeFloat_unreadable :
    ∃ row ∈ (after (exec Sample.floatRuntime) Database.initial Sample.amountHistory).tasks.workflowTasks.rows,
      ∃ s, row.Holds Sample.floatRuntime s ∧ s.version = 3 ∧
        WorkflowTaskRepository.get Sample.floatRuntime row.taskId row.owner
          (after (exec Sample.floatRuntime) Database.initial Sample.amountHistory).tasks =
          .error (.persistenceInvariant "workflow snapshot integrity mismatch") := by
  have h := Sample.amount_unreadable
  simp only [Sample.unreadable, List.any_eq_true, Bool.and_eq_true, decide_eq_true_eq] at h
  obtain ⟨row, hrow, ⟨_, hversion⟩, hdecode⟩ := h
  obtain ⟨s, hs⟩ := Reachable.rowsHold ⟨Sample.amountHistory, rfl⟩ row hrow
  refine ⟨row, hrow, s, hs, hs.version ▸ hversion, ?_⟩
  rw [get_row hrow]
  split at hdecode
  · rename_i m hm
    rw [hm, of_decide_eq_true hdecode]
    rfl
  · cases hdecode

end ProofAgent
