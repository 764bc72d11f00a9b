import ProofAgent.Tasks.Histories

/-! # Stored snapshots are coherent

Eleven commands rebuild parts of a snapshot. The invariant holds of whatever any
of them writes and of whatever is read back, and each write advances the version
by one and the budget not backwards. -/
namespace ProofAgent

open Base WorkflowTaskRepository

variable {rt : Runtime}

/-- How the parts of a snapshot fit together; `offered` holds of what was presented to the
verifiers with verified proofs. -/
structure TaskCoherent (offered : CriterionAssessment → Prop) (s : WorkflowTaskSnapshot) :
    Prop where
  free : s.phase = .active ∨ s.phase = .complete → ∀ q ∈ s.questions, q.request.blocking = true →
    q.request.goalRevision = s.goal.revision → q.status ≠ .pending ∧ q.status ≠ .expired
  current : ∀ q ∈ s.questions, q.status = .pending ∨ q.status = .expired →
    q.request.goalRevision = s.goal.revision
  complete : s.phase = .complete → ∀ c ∈ s.goal.acceptanceCriteria, c.required = true →
    ∃ a ∈ s.assessments, a.criterionId = c.criterionId ∧ a.status = .satisfied ∧
      a.goalRevision = s.goal.revision ∧ a.verifier = c.verifier ∧ a.proofRefs ≠ [] ∧
      offered a ∧ ∃ basis, c.basis = .ok (some basis)

theorem isOpen_iff {status : QuestionStatus} :
    status.isOpen = true ↔ status = .pending ∨ status = .expired := by
  cases status <;> simp [QuestionStatus.isOpen]

/-- A criterion is known by its identifier. -/
theorem GoalContract.criterion_unique (goal : GoalContract) {c d : AcceptanceCriterion}
    (hc : c ∈ goal.acceptanceCriteria) (hd : d ∈ goal.acceptanceCriteria)
    (h : c.criterionId = d.criterionId) : c = d := by
  have hunique := goal.accepted _ (List.mem_cons_of_mem _ (List.mem_cons_of_mem _
    (List.mem_cons_of_mem _ (List.mem_cons_self ..))))
  exact List.inj_on_of_nodup_map (check_iff.mp hunique) hc hd h

theorem TaskSound.coherent {offered : CriterionAssessment → Prop} {s : WorkflowTaskSnapshot}
    (h : TaskSound offered s.toSnapshotFields) : TaskCoherent offered s where
  free := by
    intro hphase q hq hblocking hrevision
    have hfree := blocked_eq_false_iff.mp (h.free hphase) q hq
    simp only [QuestionState.blocks, hblocking, hrevision, decide_true, Bool.true_and] at hfree
    rw [← not_or, ← isOpen_iff, hfree]
    exact Bool.false_ne_true
  current := fun q hq hopen => h.current q hq (isOpen_iff.mpr hopen)
  complete := by
    intro hphase c hc hrequired
    have hsatisfied := List.all_eq_true.mp (h.complete hphase) c hc
    simp only [hrequired, Bool.not_true, Bool.false_or, List.any_eq_true, Bool.and_eq_true,
      decide_eq_true_eq] at hsatisfied
    obtain ⟨a, ha, hid, hstatus, hrevision⟩ := hsatisfied
    obtain ⟨_, d, hd, hdid, hverifier, hbasis⟩ := h.accepted a ha
    obtain rfl := s.goal.criterion_unique hd hc (hdid.trans hid)
    obtain ⟨hoffered, basis, hb⟩ := hbasis hstatus
    exact ⟨a, ha, hid, hstatus, hrevision, hverifier, a.proof_for_success hstatus, hoffered, basis,
      hb⟩

/-- One committed write of a task. -/
structure TaskRow.Advances (rt : Runtime) (row new : TaskRow) : Prop where
  version : new.version = row.version + 1
  budget : ∃ s u, row.Holds rt s ∧ new.Holds rt u ∧ s.budgetUsage.within u.budgetUsage = true ∧
    tokensWithin s.budgetUsage.tokens u.budgetUsage.tokens = true

theorem Committed.advances {V : String → CriterionAssessment → Prop} {t t' : TaskTables}
    {row new : TaskRow} {s u : WorkflowTaskSnapshot} {now : Instant} {intent : Option ResumeIntent}
    (hinv : TaskInvariant rt V t) (c : Committed rt V t t' row new s u now intent) :
    row.Advances rt new := by
  obtain ⟨⟨s₀, hholds, hre⟩, hnew, _⟩ := c.holds hinv
  refine ⟨?_, s₀, u, hholds, hnew, ?_, ?_⟩
  · rw [hnew.version, c.valid.version, hre.version, hholds.version]
  · rw [← hre.budgetUsage]; exact c.valid.budget
  · rw [← hre.budgetUsage]; exact c.valid.tokens

/-- The rows of a task before and after some writes. -/
theorem writes_advance {V : String → CriterionAssessment → Prop} {t t' : TaskTables}
    (hinv : TaskInvariant rt V t) (chain : Relation.ReflTransGen (TaskWrite rt V) t t')
    {row new : TaskRow} (hrow : row ∈ t.workflowTasks.rows) (hnew : new ∈ t'.workflowTasks.rows)
    (hid : new.taskId = row.taskId) : Relation.ReflTransGen (TaskRow.Advances rt) row new := by
  suffices h : TaskInvariant rt V t' ∧ ∃ r ∈ t'.workflowTasks.rows, r.taskId = row.taskId ∧
      Relation.ReflTransGen (TaskRow.Advances rt) row r by
    obtain ⟨_, r, hr, hrid, hchain⟩ := h
    obtain rfl := Table.eq_of_key hr hnew (hrid.trans hid.symm)
    exact hchain
  clear hnew hid
  induction chain with
  | refl => exact ⟨hinv, row, hrow, rfl, .refl⟩
  | tail _ hw ih =>
    obtain ⟨hinv₁, r, hr, hrid, hchain⟩ := ih
    refine ⟨hw.keeps hinv₁, ?_⟩
    cases hw with
    | committed old new s u now intent c =>
      by_cases hold : r = old
      · subst hold
        exact ⟨new, c.replaced.mem_new, c.replaced.same_key.trans hrid,
          hchain.tail (c.advances hinv₁)⟩
      · exact ⟨r, c.replaced.mem_of_ne' hr hold, hrid, hchain⟩
    | dispatched _ _ _ frame => exact ⟨r, frame ▸ hr, hrid, hchain⟩

/-- The invariant of the workflow tasks after a history. -/
structure WorkflowTaskInvariant (rt : Runtime) (calls : List Call) (db : Database) : Prop where
  stored : ∀ row ∈ db.tasks.workflowTasks.rows, ∃ s, row.Holds rt s ∧
    TaskCoherent (presented calls row.taskId) s
  read : ∀ taskId owner s, WorkflowTaskService.get rt taskId owner db.tasks = .ok s →
    TaskCoherent (presented calls taskId) s
  /-- A command writes at most once, and advances the task that it writes. -/
  command : ∀ (call : TaskCall) (o : Reply) (t' : TaskTables), call.isCommand = true →
    call.exec rt db.tasks = .ok (o, t') → t'.workflowTasks = db.tasks.workflowTasks ∨
      ∃ row new, Table.Replaced db.tasks.workflowTasks t'.workflowTasks row new ∧
        row.Advances rt new
  /-- Whatever is called, a task that is still there was advanced write by write. -/
  writes : ∀ (call : Call), ∀ row ∈ db.tasks.workflowTasks.rows,
    ∀ new ∈ (step (exec rt) db call).tasks.workflowTasks.rows, new.taskId = row.taskId →
      Relation.ReflTransGen (TaskRow.Advances rt) row new

/-- **Workflow tasks stay coherent**, whatever is called in whatever order. -/
theorem history_tasksCoherent (rt : Runtime) (calls : List Call) :
    WorkflowTaskInvariant rt calls (after (exec rt) Database.initial calls) := by
  have hinv := history_taskInvariant rt calls
  have hq : QueueInvariant rt (after (exec rt) Database.initial calls).queue :=
    Reachable.queue ⟨calls, rfl⟩
  generalize after (exec rt) Database.initial calls = db at hinv hq
  refine ⟨fun row hrow => ?_, fun taskId owner s hget => ?_, fun call o t' hcommand h => ?_,
    fun call row hrow new hnew hid => ?_⟩
  · obtain ⟨s, hholds, hsound⟩ := hinv row hrow
    exact ⟨s, hholds, hsound.coherent⟩
  · obtain ⟨row, hfor, hdecode⟩ := get_ok.mp hget
    obtain ⟨hmem, rfl, _⟩ := rowFor_eq_some_iff.mp hfor
    obtain ⟨s₀, hholds, hsound⟩ := hinv row hmem
    exact (hsound.reread (hholds.reread hdecode)).coherent
  · have hV : TaskInvariant rt (fun id a => presented calls id a ∨ call.presents id a) db.tasks :=
      fun row hrow => (hinv row hrow).imp fun s hs => ⟨hs.1, hs.2.mono fun _ => .inl⟩
    rcases call.command_ok (V := fun id a => presented calls id a ∨ call.presents id a) hV.rows
      (fun _ _ => .inr) hcommand h with rfl | hw
    · exact .inl rfl
    · cases hw with
      | committed row new s u now intent c => exact .inr ⟨row, new, c.replaced, c.advances hV⟩
      | dispatched _ _ _ frame => exact .inl frame
  · have hV : TaskInvariant rt (fun id a => presented calls id a ∨ call.presents id a) db.tasks :=
      fun row hrow => (hinv row hrow).imp fun s hs => ⟨hs.1, hs.2.mono fun _ => .inl⟩
    rcases step_cases (exec rt) db call with hs | ⟨o, ho⟩
    · rw [hs] at hnew
      rw [Table.eq_of_key hnew hrow hid]
    · cases exec_step hq hV (fun _ _ => .inr) ho with
      | created s c =>
        obtain ⟨stored, _, hinsert⟩ := c.insert
        have hold := (Table.insert?_some hinsert).1
        have hrow' : row ∈ (step (exec rt) db call).tasks.workflowTasks.rows := by
          rw [hold]; exact List.mem_append_left _ hrow
        rw [Table.eq_of_key hnew hrow' hid]
      | purged now result =>
        rw [result] at hnew
        rw [Table.eq_of_key (Table.mem_delete.mp hnew).1 hrow hid]
      | written chain => exact writes_advance hV chain hrow hnew hid

end ProofAgent
