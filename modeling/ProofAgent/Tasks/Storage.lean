import ProofAgent.Control.TaskService

/-! # What a task row holds

A row holds the snapshot that was written last, as storage keeps it. Reading it
back changes the floats of its answers and nothing else, and the digest shows
whether it changed them. A swap replaces one row, whose snapshot is the one
that the command had read. -/
namespace ProofAgent

open Base WorkflowTaskRepository

variable {rt : Runtime} {g : PyFloat → Scalar}

/-! ## Reading back -/

/-- What storage makes of an answer's float. -/
def storedScalar (x : PyFloat) : Scalar :=
  if x.readsBackAsInt then .int x.toInt else .float x.unsigned

theorem storedScalar_toJson (x : PyFloat) : (storedScalar x).toJson = Json.storedFloat x := by
  rw [storedScalar, Json.storedFloat_eq]
  split <;> rfl

/-- A question as it is read back: only the values of its answer can differ. -/
structure QuestionState.Reread (g : PyFloat → Scalar) (q q' : QuestionState) : Prop where
  request : q'.request = q.request
  askedAt : q'.askedAt = q.askedAt
  status : q'.status = q.status
  answer : q.answer.mapM (TypedAnswer.onFloats g) = some q'.answer
  answerFingerprint : q'.answerFingerprint = q.answerFingerprint
  answeredAt : q'.answeredAt = q.answeredAt
  resumeIntentId : q'.resumeIntentId = q.resumeIntentId

theorem QuestionState.onFloats_ok {q q' : QuestionState} (h : q.onFloats g = some q') :
    q.Reread g q' := by
  unfold onFloats at h
  obtain ⟨answer, hanswer, h⟩ := Option.bind_eq_some_iff.mp h
  unfold make at h
  split at h
  · cases h
    exact ⟨rfl, rfl, rfl, hanswer, rfl, rfl, rfl⟩
  · cases h

theorem TypedAnswer.onFloats_ok {a a' : TypedAnswer} (h : a.onFloats g = some a') :
    a'.questionId = a.questionId ∧ a'.expectedGoalRevision = a.expectedGoalRevision ∧
      a'.idempotencyKey = a.idempotencyKey ∧ a'.values = a.values.onFloats g := by
  unfold onFloats make at h
  split at h
  · cases h
    exact ⟨rfl, rfl, rfl, rfl⟩
  · cases h

/-- A snapshot as it is read back. -/
structure WorkflowTaskSnapshot.Reread (g : PyFloat → Scalar) (s s' : WorkflowTaskSnapshot) :
    Prop where
  fields : s'.toSnapshotFields = { s.toSnapshotFields with questions := s'.questions }
  questions : List.Forall₂ (QuestionState.Reread g) s.questions s'.questions

theorem make_toOption {f : SnapshotFields} {s : WorkflowTaskSnapshot}
    (h : (WorkflowTaskSnapshot.make f).toOption = some s) : s.toSnapshotFields = f := by
  cases hm : WorkflowTaskSnapshot.make f with
  | error e => rw [hm] at h; cases h
  | ok s' =>
    rw [hm] at h
    cases h
    exact WorkflowTaskSnapshot.make_ok hm

theorem WorkflowTaskSnapshot.onFloats_ok {s s' : WorkflowTaskSnapshot}
    (h : s.onFloats g = some s') : s.Reread g s' := by
  unfold onFloats at h
  obtain ⟨questions, hquestions, h⟩ := Option.bind_eq_some_iff.mp h
  have hfields := make_toOption h
  have hq : s'.questions = questions := congrArg SnapshotFields.questions hfields
  refine ⟨by rw [hfields], ?_⟩
  rw [hq]
  exact (Json.mapM_eq_some_iff.mp hquestions).imp fun _ _ hone => QuestionState.onFloats_ok hone

namespace WorkflowTaskSnapshot.Reread

variable {s s' : WorkflowTaskSnapshot} (h : s.Reread g s')
include h

theorem goal : s'.goal = s.goal := by
  simpa using congrArg SnapshotFields.goal h.fields

theorem owner : s'.owner = s.owner := by
  simpa using congrArg SnapshotFields.owner h.fields

theorem version : s'.version = s.version := by
  simpa using congrArg SnapshotFields.version h.fields

theorem phase : s'.phase = s.phase := by
  simpa using congrArg SnapshotFields.phase h.fields

theorem assessments : s'.assessments = s.assessments := by
  simpa using congrArg SnapshotFields.assessments h.fields

theorem budgetUsage : s'.budgetUsage = s.budgetUsage := by
  simpa using congrArg SnapshotFields.budgetUsage h.fields

theorem createdAt : s'.createdAt = s.createdAt := by
  simpa using congrArg SnapshotFields.createdAt h.fields

theorem updatedAt : s'.updatedAt = s.updatedAt := by
  simpa using congrArg SnapshotFields.updatedAt h.fields

theorem rawContentExpiresAt : s'.rawContentExpiresAt = s.rawContentExpiresAt := by
  simpa using congrArg SnapshotFields.rawContentExpiresAt h.fields

theorem mem_questions {q' : QuestionState} (hq' : q' ∈ s'.questions) :
    ∃ q ∈ s.questions, q.Reread g q' := by
  have hq := h.questions
  generalize s.questions = qs at hq
  generalize s'.questions = qs' at hq hq'
  induction hq with
  | nil => cases hq'
  | cons hone _ ih =>
    rcases List.mem_cons.mp hq' with rfl | hq'
    · exact ⟨_, by simp, hone⟩
    · obtain ⟨q, hq, hre⟩ := ih hq'
      exact ⟨q, List.mem_cons_of_mem _ hq, hre⟩

/-- What looks at the requests and the statuses only does not see the difference. -/
theorem any_questions {p : QuestionState → Bool}
    (hp : ∀ q q', q'.request = q.request → q'.status = q.status → p q' = p q) :
    s'.questions.any p = s.questions.any p := by
  have hq := h.questions
  generalize s.questions = qs at hq
  generalize s'.questions = qs' at hq
  induction hq with
  | nil => rfl
  | cons hone _ ih => rw [List.any_cons, List.any_cons, ih, hp _ _ hone.request hone.status]

end WorkflowTaskSnapshot.Reread

/-! ## Rows -/

/-- The row holds the snapshot that was written last. -/
structure TaskRow.Holds (rt : Runtime) (row : TaskRow) (s : WorkflowTaskSnapshot) : Prop where
  written : ∃ stored, s.toJson.jsonb = some stored ∧ row = rowOf rt s stored
  seconds : s.budgetUsage.activeSeconds.isNegativeZero = false

namespace TaskRow.Holds

variable {row : TaskRow} {s s' : WorkflowTaskSnapshot}

theorem task_id (h : row.Holds rt s) : row.taskId = s.goal.taskId := by
  obtain ⟨_, _, rfl⟩ := h.written; rfl

theorem owner (h : row.Holds rt s) : row.owner = s.owner := by
  obtain ⟨_, _, rfl⟩ := h.written; rfl

theorem version (h : row.Holds rt s) : row.version = s.version := by
  obtain ⟨_, _, rfl⟩ := h.written; rfl

theorem snapshotJson (h : row.Holds rt s) :
    row.snapshotJson = s.toJson.reshape fun x => (storedScalar x).toJson := by
  obtain ⟨stored, hstored, rfl⟩ := h.written
  unfold Json.jsonb at hstored
  split at hstored
  · cases hstored
  · cases hstored
    simp only [rowOf, funext storedScalar_toJson]

/-- **Reading a row.** -/
theorem decode_iff (h : row.Holds rt s) :
    decode rt row = .ok s' ↔ s.onFloats storedScalar = some s' ∧ s'.digest rt = s.digest rt := by
  have hread : WorkflowTaskSnapshot.ofJson row.snapshotJson = s.onFloats storedScalar := by
    rw [h.snapshotJson]
    refine WorkflowTaskSnapshot.ofJson_reshape storedScalar s ?_
    rw [storedScalar_toJson, Json.asFloat_storedFloat h.seconds]
  obtain ⟨stored, _, hrow⟩ := h.written
  constructor
  · intro hd
    obtain ⟨s₁, hs₁, hd⟩ := bind_ok hd
    obtain ⟨_, hmatch, hd⟩ := bind_ok hd
    cases pure_ok hd
    refine ⟨hread ▸ orRaise_ok hs₁, ?_⟩
    have hm := (require_ok hmatch).1
    rw [hrow] at hm
    exact hm
  · rintro ⟨hs', hdigest⟩
    have hre := WorkflowTaskSnapshot.onFloats_ok hs'
    rw [decode, hread, hs', orRaise_some, ok_bind, require_true]
    · rfl
    · rw [hrow]
      exact ⟨hdigest, hre.version, by rw [hre.goal]; rfl, rfl, hre.phase, hre.owner,
        hre.rawContentExpiresAt⟩

theorem reread (h : row.Holds rt s) (hd : decode rt row = .ok s') : s.Reread storedScalar s' :=
  WorkflowTaskSnapshot.onFloats_ok (h.decode_iff.mp hd).1

end TaskRow.Holds

theorem rowFor_eq_some_iff {taskId : String} {owner : TaskOwner} {t : TaskTables} {row : TaskRow} :
    rowFor taskId owner t = some row ↔
      row ∈ t.workflowTasks.rows ∧ row.taskId = taskId ∧ row.owner = owner := by
  rw [rowFor, Option.filter_eq_some_iff, Table.find?_eq_some_iff, decide_eq_true_eq, and_assoc]

theorem get_eq {taskId : String} {owner : TaskOwner} {t : TaskTables} :
    WorkflowTaskService.get rt taskId owner t =
      (orRaise (rowFor taskId owner t) (.persistenceNotFound "workflow_task" taskId)).bind
        (decode rt) := by
  rw [WorkflowTaskService.get, WorkflowTaskRepository.get]
  cases rowFor taskId owner t with
  | none => rfl
  | some row =>
    show (do orRaise (← (decode rt row).map some) _) = decode rt row
    cases decode rt row <;> rfl

theorem get_ok {taskId : String} {owner : TaskOwner} {t : TaskTables} {s : WorkflowTaskSnapshot} :
    WorkflowTaskService.get rt taskId owner t = .ok s ↔
      ∃ row, rowFor taskId owner t = some row ∧ decode rt row = .ok s := by
  rw [get_eq]
  cases rowFor taskId owner t with
  | none => exact ⟨(nomatch ·), fun ⟨_, h, _⟩ => by cases h⟩
  | some row => exact ⟨fun h => ⟨row, rfl, h⟩, fun ⟨_, h, hd⟩ => by cases h; exact hd⟩

/-! ## Swaps -/

/-- What `validate_swap` accepts. -/
structure ValidSwap (rt : Runtime) (s u : WorkflowTaskSnapshot) (intent : Option ResumeIntent) :
    Prop where
  owner : u.owner = s.owner
  version : u.version = s.version + 1
  task_id : u.goal.taskId = s.goal.taskId
  created : u.createdAt = s.createdAt
  expires : u.rawContentExpiresAt = s.rawContentExpiresAt
  request : u.creationRequestSha256 = s.creationRequestSha256
  conversation : u.conversationId = s.conversationId
  supplement : u.allowUntrustedWebSupplement = s.allowUntrustedWebSupplement
  updated : s.updatedAt ≤ u.updatedAt
  revision : u.goal.revision = s.goal.revision ∨ u.goal.revision = s.goal.revision + 1
  goal : u.goal.revision = s.goal.revision → u.goal = s.goal
  unfinished : s.phase.isTerminal = false
  complete : u.phase = .complete → u.requiredSatisfied = true
  budget : s.budgetUsage.within u.budgetUsage = true
  tokens : tokensWithin s.budgetUsage.tokens u.budgetUsage.tokens = true
  size : rt.dumpSize u.toJson ≤ maxSnapshotBytes
  intent : intent.all (fun i => describesCommit i u s.owner) = true

theorem validateSwap_iff {s u : WorkflowTaskSnapshot} {intent : Option ResumeIntent} :
    validateSwap rt s u s.owner s.version intent = .ok () ↔ ValidSwap rt s u intent := by
  constructor
  · intro h
    obtain ⟨_, howner, h⟩ := bind_ok h
    obtain ⟨_, _, h⟩ := bind_ok h
    obtain ⟨_, hsame, h⟩ := bind_ok h
    obtain ⟨_, hgoal, h⟩ := bind_ok h
    obtain ⟨_, hopen, h⟩ := bind_ok h
    obtain ⟨_, hcomplete, h⟩ := bind_ok h
    obtain ⟨_, hbudget, h⟩ := bind_ok h
    obtain ⟨_, htokens, h⟩ := bind_ok h
    obtain ⟨_, hsize, h⟩ := bind_ok h
    obtain ⟨hv, ht, hc, he, hr, hconv, hweb, hu, hrev⟩ := require_ok hsame
    exact ⟨(require_ok howner).2, hv, ht.symm, hc, he, hr, hconv, hweb, hu, hrev,
      require_ok hgoal, require_ok hopen, require_ok hcomplete, require_ok hbudget,
      require_ok htokens, require_ok hsize, require_ok h⟩
  · intro h
    unfold validateSwap
    rw [require_true _ ⟨rfl, h.owner⟩, ok_bind, require_true _ rfl, ok_bind,
      require_true _ ⟨h.version, h.task_id.symm, h.created, h.expires, h.request, h.conversation,
        h.supplement, h.updated, h.revision⟩, ok_bind, require_true _ h.goal, ok_bind,
      require_true _ h.unfinished, ok_bind, require_true _ h.complete, ok_bind,
      require_true _ h.budget, ok_bind, require_true _ h.tokens, ok_bind, require_true _ h.size,
      ok_bind, require_true _ h.intent]

/-- The row of a resume intent that was not dispatched yet. -/
def pendingRow (intent : ResumeIntent) (owner : TaskOwner) : ResumeRow where
  intentId := intent.intentId
  taskId := intent.taskId
  owner := owner
  goalRevision := intent.goalRevision
  intentJson := intent
  createdAt := intent.createdAt
  runId := none

/-- What a swap does to the intents. -/
def InsertsIntent (t t' : TaskTables) (intent : Option ResumeIntent) (owner : TaskOwner) : Prop :=
  match intent with
  | none => t'.resumes = t.resumes
  | some i => t.resumes.insert? (pendingRow i owner) = some t'.resumes

/-- One committed swap: `row` held what was read as `s`, and now holds `u`. -/
structure Swapped (rt : Runtime) (t t' : TaskTables) (row new : TaskRow)
    (s u : WorkflowTaskSnapshot) (intent : Option ResumeIntent) : Prop where
  decoded : decode rt row = .ok s
  valid : ValidSwap rt s u intent
  written : ∃ stored, u.toJson.jsonb = some stored ∧ new = rowOf rt u stored
  replaced : Table.Replaced t.workflowTasks t'.workflowTasks row new
  resumes : InsertsIntent t t' intent s.owner

/-- Every row holds a snapshot. -/
def RowsHold (rt : Runtime) (t : TaskTables) : Prop :=
  ∀ row ∈ t.workflowTasks.rows, ∃ s, row.Holds rt s

theorem store_ok {s : WorkflowTaskSnapshot} {stored : Json} (h : store s = .ok stored) :
    s.toJson.jsonb = some stored :=
  orRaise_ok h

/-- **A swap that returns** has found the snapshot that the command read. -/
theorem compareAndSwap_ok {t t' : TaskTables} {s u : WorkflowTaskSnapshot} {taskId : String}
    {owner : TaskOwner} {v : Nat} {intent : Option ResumeIntent} (hrows : RowsHold rt t)
    (hget : WorkflowTaskService.get rt taskId owner t = .ok s)
    (htask : u.goal.taskId = s.goal.taskId)
    (h : compareAndSwap rt u owner v intent t = .ok t') :
    ∃ row new, rowFor taskId owner t = some row ∧ Swapped rt t t' row new s u intent := by
  obtain ⟨row, hfor, hdecode⟩ := get_ok.mp hget
  obtain ⟨hmem, hid, howner⟩ := rowFor_eq_some_iff.mp hfor
  obtain ⟨s₀, hholds⟩ := hrows row hmem
  have hre := hholds.reread hdecode
  have hsid : s.goal.taskId = taskId := by rw [hre.goal, ← hholds.task_id, hid]
  have hsowner : s.owner = owner := by rw [hre.owner, ← hholds.owner, howner]
  have hsversion : row.version = s.version := by rw [hre.version, ← hholds.version]
  unfold compareAndSwap at h
  rw [htask, hsid, hfor, orRaise_some, ok_bind, hdecode, ok_bind] at h
  obtain ⟨_, hvalid, h⟩ := bind_ok h
  obtain ⟨stored, hstored, h⟩ := bind_ok h
  obtain rfl : s.version = v := by
    obtain ⟨_, _, hvalid⟩ := bind_ok hvalid
    obtain ⟨_, hv, _⟩ := bind_ok hvalid
    exact require_ok hv
  subst hsowner
  have hvalid := validateSwap_iff.mp hvalid
  have hassign : TaskRow.assign rt row u stored = rowOf rt u stored := by
    obtain ⟨stored₀, _, hrow⟩ := hholds.written
    rw [hrow]
    simp only [TaskRow.assign, rowOf, TaskRow.mk.injEq, true_and]
    rw [hvalid.task_id, hvalid.owner, hvalid.created, hvalid.expires, hre.goal, hre.owner,
      hre.createdAt, hre.rawContentExpiresAt]
    exact ⟨rfl, rfl, rfl, rfl⟩
  let p := fun r : TaskRow =>
    decide (r.taskId = taskId) && decide (r.version = s.version) && decide (r.owner = s.owner)
  have hprow : p row = true := by
    simp [p, hid, hsversion, howner]
  have hone : t.workflowTasks.count p = 1 :=
    Table.count_eq_one hmem hprow fun r _ hr => by
      simp only [p, Bool.and_eq_true, decide_eq_true_eq] at hr
      rw [hr.1.1, hid]
  obtain ⟨old, hold, hpold, hreplaced⟩ :=
    Table.replaced_of_update (fun r => TaskRow.assign rt r u stored) (fun _ => rfl) hone
  obtain rfl : old = row := Table.eq_of_key hold hmem (by
    simp only [p, Bool.and_eq_true, decide_eq_true_eq] at hpold
    rw [hpold.1.1, hid])
  rw [hassign] at hreplaced
  refine ⟨old, rowOf rt u stored, hfor, hdecode, hvalid, ⟨stored, store_ok hstored, rfl⟩, ?_, ?_⟩
  · cases intent with
    | none => cases h; exact hreplaced
    | some i =>
      obtain ⟨resumes, _, h⟩ := bind_ok h
      cases h
      exact hreplaced
  · cases intent with
    | none => cases h; rfl
    | some i =>
      obtain ⟨resumes, hinsert, h⟩ := bind_ok h
      cases h
      exact orRaise_ok hinsert

theorem create_ok {t t' : TaskTables} {s : WorkflowTaskSnapshot} (h : create rt s t = .ok t') :
    s.version = 1 ∧ s.goal.revision = 1 ∧
      ∃ stored, s.toJson.jsonb = some stored ∧
        t.workflowTasks.insert? (rowOf rt s stored) = some t'.workflowTasks ∧
        t' = { t with workflowTasks := t'.workflowTasks } := by
  obtain ⟨_, hfirst, h⟩ := bind_ok h
  obtain ⟨_, _, h⟩ := bind_ok h
  obtain ⟨stored, hstored, h⟩ := bind_ok h
  obtain ⟨_, _, h⟩ := bind_ok h
  obtain ⟨rows, hrows, h⟩ := bind_ok h
  cases pure_ok h
  exact ⟨(require_ok hfirst).1, (require_ok hfirst).2, stored, store_ok hstored, orRaise_ok hrows,
    rfl⟩

theorem markResumeDispatched_ok {t t' : TaskTables} {intentId runId : String} {owner : TaskOwner}
    (h : markResumeDispatched intentId owner runId t = .ok t') :
    ∃ row ∈ t.resumes.rows, row.intentId = intentId ∧ row.owner = owner ∧
      Table.Replaced t.resumes t'.resumes row { row with runId := some runId } ∧
      t'.workflowTasks = t.workflowTasks := by
  obtain ⟨_, _, h⟩ := bind_ok h
  obtain ⟨row, hrow, h⟩ := bind_ok h
  obtain ⟨_, _, h⟩ := bind_ok h
  cases pure_ok h
  have hfound := orRaise_ok hrow
  rw [Option.filter_eq_some_iff, Table.find?_eq_some_iff, decide_eq_true_eq] at hfound
  obtain ⟨⟨hmem, hid⟩, howner⟩ := hfound
  have hone : t.resumes.count (fun r => decide (r.intentId = intentId) && decide (r.owner = owner))
      = 1 :=
    Table.count_eq_one hmem (by simp [hid, howner]) fun r _ hr => by
      simp only [Bool.and_eq_true, decide_eq_true_eq] at hr
      rw [hr.1, hid]
  obtain ⟨old, hold, hp, hreplaced⟩ :=
    Table.replaced_of_update (fun r : ResumeRow => { r with runId := some runId }) (fun _ => rfl) hone
  simp only [Bool.and_eq_true, decide_eq_true_eq] at hp
  exact ⟨old, hold, hp.1, hp.2, hreplaced, rfl⟩

end ProofAgent
