import ProofAgent.Tasks.Invariant
import ProofAgent.RunQueue.Histories

/-! # Histories of the tasks

A task is written by its own commands, by the run that finishes, by the run that
is lost and by the dispatch of an intent; it is created once and purged when its
retention time has passed. Whatever is called in whatever order, each row holds
a sound snapshot, and each write raises its version by one. -/
namespace ProofAgent

open Base WorkflowTaskRepository

variable {rt : Runtime} {V : String → CriterionAssessment → Prop} {t t' : TaskTables}

/-! ## Changes of the tables -/

/-- A row was replaced by what a command made of it. -/
structure Committed (rt : Runtime) (V : String → CriterionAssessment → Prop) (t t' : TaskTables)
    (row new : TaskRow) (s u : WorkflowTaskSnapshot) (now : Instant)
    (intent : Option ResumeIntent) : Prop extends Swapped rt t t' row new s u intent where
  change : ∃ f, SnapshotChange rt (V row.taskId) s now intent f ∧ Writes f s now u

inductive TaskWrite (rt : Runtime) (V : String → CriterionAssessment → Prop) (t t' : TaskTables) :
    Prop where
  | committed (row new : TaskRow) (s u : WorkflowTaskSnapshot) (now : Instant)
      (intent : Option ResumeIntent) (result : Committed rt V t t' row new s u now intent)
  | dispatched (row : ResumeRow) (runId : String)
      (replaced : Table.Replaced t.resumes t'.resumes row { row with runId := some runId })
      (frame : t'.workflowTasks = t.workflowTasks)

/-- A task was created. -/
structure Created (rt : Runtime) (t t' : TaskTables) (s : WorkflowTaskSnapshot) : Prop where
  version : s.version = 1
  phase : s.phase = .active
  questions : s.questions = []
  assessments : s.assessments = []
  budget : s.budgetUsage = {}
  times : s.createdAt = s.updatedAt
  insert : ∃ stored, s.toJson.jsonb = some stored ∧
    t.workflowTasks.insert? (rowOf rt s stored) = some t'.workflowTasks
  frame : t'.resumes = t.resumes

/-- What one call does to the tasks. -/
inductive TaskStep (rt : Runtime) (V : String → CriterionAssessment → Prop) (t t' : TaskTables) :
    Prop where
  | created (s : WorkflowTaskSnapshot) (result : Created rt t t' s)
  | purged (now : Instant) (result : t' = purgeExpired now t)
  | written (chain : Relation.ReflTransGen (TaskWrite rt V) t t')

theorem TaskStep.none : TaskStep rt V t t := .written .refl

theorem TaskStep.one (h : TaskWrite rt V t t') : TaskStep rt V t t' := .written (.single h)

/-! ## The invariant -/

def TaskInvariant (rt : Runtime) (V : String → CriterionAssessment → Prop) (t : TaskTables) :
    Prop :=
  ∀ row ∈ t.workflowTasks.rows, ∃ s, row.Holds rt s ∧ TaskSound (V row.taskId) s.toSnapshotFields

theorem TaskInvariant.rows (h : TaskInvariant rt V t) : RowsHold rt t := fun row hrow =>
  (h row hrow).imp fun _ hs => hs.1

theorem TaskInvariant.initial : TaskInvariant rt V Database.initial.tasks := fun _ h => by cases h

/-- A budget never ends with a negative zero. -/
theorem TaskBudgetUsage.plus_seconds {previous delta usage : TaskBudgetUsage}
    (h : previous.activeSeconds.isNegativeZero = false)
    (hplus : previous.plus rt delta = .ok usage) : usage.activeSeconds.isNegativeZero = false := by
  obtain ⟨activeSeconds, hsum, hplus⟩ := bind_ok hplus
  split at hplus
  · cases pure_ok hplus
    refine Bool.eq_false_iff.mpr fun hneg => ?_
    have := (rt.addFloat_negativeZero _ _ _ (orRaise_ok hsum) hneg).1
    rw [h] at this
    cases this
  · cases hplus

theorem SnapshotChange.seconds {W : CriterionAssessment → Prop} {s : WorkflowTaskSnapshot}
    {now : Instant} {intent : Option ResumeIntent} {f : SnapshotFields}
    (c : SnapshotChange rt W s now intent f)
    (h : s.budgetUsage.activeSeconds.isNegativeZero = false) :
    f.budgetUsage.activeSeconds.isNegativeZero = false := by
  cases c with
  | bound _ _ _ _ sum => exact TaskBudgetUsage.plus_seconds h sum
  | updated _ _ _ _ _ _ _ _ _ _ _ sum => exact TaskBudgetUsage.plus_seconds h sum
  | updatedAsking _ _ _ _ _ _ _ _ _ _ _ sum => exact TaskBudgetUsage.plus_seconds h sum
  | _ => exact h

/-- The fields that the invariant reads are those of the change. -/
theorem Writes.sound {W : CriterionAssessment → Prop} {s u : WorkflowTaskSnapshot} {now : Instant}
    {f : SnapshotFields} (h : Writes f s now u) (hf : TaskSound W f) :
    TaskSound W u.toSnapshotFields := by
  rw [h]
  exact ⟨hf.free, hf.current, hf.accepted, hf.complete⟩

/-- **A commit** leaves a row that holds a sound snapshot. -/
theorem Committed.holds {row new : TaskRow} {s u : WorkflowTaskSnapshot} {now : Instant}
    {intent : Option ResumeIntent} (hinv : TaskInvariant rt V t)
    (c : Committed rt V t t' row new s u now intent) :
    (∃ s₀, row.Holds rt s₀ ∧ s₀.Reread storedScalar s) ∧ new.Holds rt u ∧
      new.taskId = row.taskId ∧ TaskSound (V row.taskId) s.toSnapshotFields ∧
      TaskSound (V row.taskId) u.toSnapshotFields := by
  obtain ⟨s₀, hholds, hsound⟩ := hinv row c.replaced.mem_old
  have hre := hholds.reread c.decoded
  obtain ⟨f, hchange, hwrites⟩ := c.change
  have hs := hsound.reread hre
  have hseconds : s.budgetUsage.activeSeconds.isNegativeZero = false := by
    rw [hre.budgetUsage]; exact hholds.seconds
  have hnew : new.Holds rt u := ⟨c.written, by
    rw [hwrites.budgetUsage]; exact hchange.seconds hseconds⟩
  refine ⟨⟨s₀, hholds, hre⟩, hnew, c.replaced.same_key, hs, hwrites.sound (hchange.sound hs ?_)⟩
  intro hcomplete
  have := c.valid.complete (hwrites.phase.trans hcomplete)
  rw [hwrites] at this
  exact this

theorem TaskWrite.keeps (hinv : TaskInvariant rt V t) (h : TaskWrite rt V t t') :
    TaskInvariant rt V t' := by
  cases h with
  | committed row new s u now intent c =>
    intro r hr
    rcases c.replaced.mem_cases hr with rfl | ⟨hr, _⟩
    · obtain ⟨_, hnew, hid, _, hsound⟩ := c.holds hinv
      exact ⟨u, hnew, hid ▸ hsound⟩
    · exact hinv r hr
  | dispatched row runId replaced frame =>
    intro r hr
    rw [frame] at hr
    exact hinv r hr

theorem TaskStep.keeps (hinv : TaskInvariant rt V t) (h : TaskStep rt V t t') :
    TaskInvariant rt V t' := by
  cases h with
  | created s c =>
    obtain ⟨stored, hstored, hinsert⟩ := c.insert
    intro r hr
    rw [(Table.insert?_some hinsert).1, List.mem_append, List.mem_singleton] at hr
    rcases hr with hr | rfl
    · exact hinv r hr
    · refine ⟨s, ⟨⟨stored, hstored, rfl⟩, by rw [c.budget]; rfl⟩, ?_⟩
      refine ⟨fun _ => by rw [c.questions]; rfl, ?_, ?_, fun hc => ?_⟩
      · rw [c.questions]; simp
      · rw [c.assessments]; simp
      · rw [c.phase] at hc; cases hc
  | purged now result =>
    subst result
    intro r hr
    exact hinv r (Table.mem_delete.mp hr).1
  | written chain =>
    induction chain with
    | refl => exact hinv
    | tail _ hw ih => exact hw.keeps ih

/-! ## Calls -/

/-- Some calls present assessments to the verifiers, each with proofs that were verified. -/
def presents (taskId : String) (assessments : List CriterionAssessment) (refs : List String)
    (id : String) (a : CriterionAssessment) : Prop :=
  taskId = id ∧ a ∈ assessments ∧ ∀ r ∈ a.proofRefs, r ∈ refs

def TaskCall.presents : TaskCall → String → CriterionAssessment → Prop
  | .assess taskId assessments _ _ _ refs => ProofAgent.presents taskId assessments refs
  | .applyUpdate update _ _ _ _ =>
    ProofAgent.presents update.taskId update.assessments update.verifiedProofRefs
  | _ => fun _ _ => False

def Call.presents : Call → String → CriterionAssessment → Prop
  | .task call => call.presents
  | .queue (.commitSuccess _ arguments _) => fun id a => ∃ update ∈ arguments.workflowTaskUpdate,
      ProofAgent.presents update.taskId update.assessments update.verifiedProofRefs id a
  | _ => fun _ _ => False

/-- A command that commits is one write. -/
theorem Commits.write {taskId : String} {owner : TaskOwner} {s u : WorkflowTaskSnapshot}
    {now : Instant} {intent : Option ResumeIntent}
    (h : Commits rt (V taskId) t t' taskId owner s u now intent) : TaskWrite rt V t t' := by
  obtain ⟨⟨row, new, hfor, hswapped⟩, hchange⟩ := h
  have hid := (rowFor_eq_some_iff.mp hfor).2.1
  exact .committed row new s u now intent ⟨hswapped, hid ▸ hchange⟩

/-- What a returning command of a task does: nothing, or one write. -/
theorem Returned.step {taskId : String} {owner : TaskOwner} {u : WorkflowTaskSnapshot}
    {now : Instant} (h : Returned rt (V taskId) t t' taskId owner u now) :
    t' = t ∨ TaskWrite rt V t t' := by
  obtain ⟨s, _, ⟨rfl, _⟩ | hc⟩ := h
  · exact .inl rfl
  · exact .inr hc.write

/-- Whether a call is one of a task's commands, which write at most once. -/
def TaskCall.isCommand : TaskCall → Bool
  | .create .. | .purgeExpired _ => false
  | _ => true

theorem TaskCall.command_ok {call : TaskCall} {o : Reply} (hrows : RowsHold rt t)
    (hV : ∀ id a, call.presents id a → V id a) (hcommand : call.isCommand = true)
    (h : call.exec rt t = .ok (o, t')) : t' = t ∨ TaskWrite rt V t t' := by
  cases call with
  | create => cases hcommand
  | purgeExpired => cases hcommand
  | requestResume taskId owner version now =>
    obtain ⟨_, h, _⟩ := reply_ok h
    obtain ⟨s, u, _, _, _, hc⟩ := WorkflowTaskService.requestResume_ok hrows h
    exact .inr hc.write
  | renewExpiredQuestions taskId owner version now =>
    obtain ⟨_, h, _⟩ := reply_ok h
    exact (WorkflowTaskService.renewExpiredQuestions_ok hrows h).step
  | recordFailedRun taskId runId owner now =>
    obtain ⟨_, h, _⟩ := reply_ok h
    exact (WorkflowTaskService.recordFailedRun_ok hrows h).step
  | ask taskId question owner version now =>
    obtain ⟨_, h, _⟩ := reply_ok h
    exact (WorkflowTaskService.ask_ok hrows h).step
  | answer taskId a owner now intentId =>
    obtain ⟨_, h, _⟩ := reply_ok h
    obtain ⟨s, _, ⟨_, rfl⟩ | ⟨_, _, hc⟩⟩ := WorkflowTaskService.answer_ok hrows h
    · exact .inl rfl
    · exact .inr hc.write
  | reviseGoal taskId goal owner version now =>
    obtain ⟨_, h, _⟩ := reply_ok h
    exact (WorkflowTaskService.reviseGoal_ok hrows h).step
  | assess taskId assessments owner version now refs =>
    obtain ⟨_, h, _⟩ := reply_ok h
    exact (WorkflowTaskService.assess_ok hrows (fun a ha hr => hV _ _ ⟨rfl, ha, hr⟩) h).step
  | transition taskId phase owner version now =>
    obtain ⟨_, h, _⟩ := reply_ok h
    exact (WorkflowTaskService.transition_ok hrows h).step
  | expireQuestions taskId owner version now =>
    obtain ⟨_, h, _⟩ := reply_ok h
    exact (WorkflowTaskService.expireQuestions_ok hrows h).step
  | bindRun taskId runId owner version now delta =>
    obtain ⟨_, h, _⟩ := reply_ok h
    obtain ⟨s, _, hc⟩ := WorkflowTaskService.bindRun_ok hrows h
    exact .inr hc.write
  | applyUpdate update owner now runId sha =>
    obtain ⟨_, h, _⟩ := reply_ok h
    exact (WorkflowTaskService.applyUpdate_ok hrows (fun a ha hr => hV _ _ ⟨rfl, ha, hr⟩) h).step

theorem create_step {goal : GoalContract} {owner : TaskOwner} {now : Instant}
    {latestRunId sha conversationId : Option String} {allow : Bool} {s : WorkflowTaskSnapshot}
    (h : WorkflowTaskService.create rt goal owner now latestRunId sha conversationId allow t =
      .ok (s, t')) : Created rt t t' s := by
  obtain ⟨hcreate, _, _, hphase, hquestions, hassessments, _, hbudget, hcreated, hupdated, _⟩ :=
    WorkflowTaskService.create_ok h
  obtain ⟨hversion, _, stored, hstored, hinsert, hframe⟩ := create_ok hcreate
  exact ⟨hversion, hphase, hquestions, hassessments, hbudget, hcreated.trans hupdated.symm,
    ⟨stored, hstored, hinsert⟩, by rw [hframe]⟩

theorem TaskCall.step_ok {call : TaskCall} {o : Reply} (hrows : RowsHold rt t)
    (hV : ∀ id a, call.presents id a → V id a) (h : call.exec rt t = .ok (o, t')) :
    TaskStep rt V t t' := by
  cases hcommand : call.isCommand with
  | true =>
    rcases call.command_ok hrows hV hcommand h with rfl | hw
    · exact .none
    · exact .one hw
  | false =>
    cases call with
    | create goal owner now runId sha conversationId allow =>
      obtain ⟨s, h, _⟩ := reply_ok h
      exact .created s (create_step h)
    | purgeExpired now => cases h; exact .purged now rfl
    | _ => cases hcommand

variable {db db' : Database}

theorem recordFailedTask_step {request : RunRequest} {now : Instant} (hrows : RowsHold rt db.tasks)
    (h : RunQueueRepository.recordFailedTask rt request now db = .ok db') :
    db'.tasks = db.tasks ∨ TaskWrite rt V db.tasks db'.tasks := by
  unfold RunQueueRepository.recordFailedTask at h
  split at h
  · cases h; exact .inl rfl
  · obtain ⟨⟨u, tasks⟩, hrecord, h⟩ := bind_ok h
    cases pure_ok h
    exact (WorkflowTaskService.recordFailedRun_ok hrows hrecord).step

/-- Reaping writes each lost run's task in turn. -/
theorem reap_step {now : Instant} : ∀ {rows : List AttemptRow} {db db' : Database},
    QueueInvariant rt db.queue → TaskInvariant rt V db.tasks → rows.Nodup →
    (∀ row ∈ rows, row ∈ db.queue.runAttempts.rows ∧ row.state.isActive = true) →
    rows.foldlM (RunQueueRepository.reapAttempt rt now) db = .ok db' →
    Relation.ReflTransGen (TaskWrite rt V) db.tasks db'.tasks
  | [], db, db', _, _, _, _, h => by
    cases pure_ok h
    exact .refl
  | row :: rows, db, db', hq, ht, hnodup, hmem, h => by
    rw [List.foldlM_cons] at h
    obtain ⟨db₁, hone, hrest⟩ := bind_ok h
    obtain ⟨hrow, hactive⟩ := hmem row (by simp)
    obtain ⟨run, hmoved, hrecord⟩ := reapAttempt_ok hq hrow hactive hone
    rw [List.nodup_cons] at hnodup
    have hq₁ : QueueInvariant rt db₁.queue := QueueChange.keeps hq (.moved _ _ _ _ _ _ hmoved)
    have hmem₁ : ∀ a ∈ rows, a ∈ db₁.queue.runAttempts.rows ∧ a.state.isActive = true :=
      fun a ha => ⟨hmoved.attempts.mem_of_ne' (hmem a (by simp [ha])).1
        (by rintro rfl; exact hnodup.1 ha), (hmem a (by simp [ha])).2⟩
    have hstep : db₁.tasks = db.tasks ∨ TaskWrite rt V db.tasks db₁.tasks :=
      @recordFailedTask_step rt V { db with queue := db₁.queue } db₁ _ _ ht.rows hrecord
    rcases hstep with hsame | hw
    · rw [← hsame]
      exact reap_step hq₁ (hsame ▸ ht) hnodup.2 hmem₁ hrest
    · exact .head hw (reap_step hq₁ (hw.keeps ht) hnodup.2 hmem₁ hrest)

theorem applySuccessUpdate_step {claim : RunClaim} {a : RunQueueRepository.SuccessArguments}
    {now : Instant} (hrows : RowsHold rt db.tasks)
    (hV : ∀ update ∈ a.workflowTaskUpdate, ∀ id x, presents update.taskId update.assessments
      update.verifiedProofRefs id x → V id x)
    (h : RunQueueRepository.applySuccessUpdate rt claim a now db = .ok db') :
    db'.tasks = db.tasks ∨ TaskWrite rt V db.tasks db'.tasks := by
  unfold RunQueueRepository.applySuccessUpdate at h
  split at h
  · cases h; exact .inl rfl
  · rename_i update hupdate
    obtain ⟨_, _, h⟩ := bind_ok h
    obtain ⟨⟨u, tasks⟩, happly, h⟩ := bind_ok h
    cases pure_ok h
    exact (WorkflowTaskService.applyUpdate_ok hrows
      (fun x hx hr => hV update hupdate _ x ⟨rfl, hx, hr⟩) happly).step

theorem queueCall_step {call : QueueCall} {o : Reply} (hq : QueueInvariant rt db.queue)
    (ht : TaskInvariant rt V db.tasks) (hV : ∀ id a, (Call.queue call).presents id a → V id a)
    (h : call.exec rt db = .ok (o, db')) :
    Relation.ReflTransGen (TaskWrite rt V) db.tasks db'.tasks := by
  cases call with
  | admitRun request =>
    rw [QueueCall.exec] at h
    obtain ⟨r, h, _⟩ := reply_ok h
    rw [(admit_chain h).2]
  | activateRole slot executorId now =>
    obtain ⟨r, h, _⟩ := reply_ok h
    rw [(activateRole_ok h).2.2.2.2.2]
  | claimNext c =>
    obtain ⟨r, h, _⟩ := reply_ok h
    rcases (claimNext_ok hq h).2 with ⟨_, rfl, _⟩ | ⟨row, claim, _, _, _, hframe⟩
    · exact .refl
    · rw [hframe]
  | heartbeat claim now lease =>
    obtain ⟨r, h, _⟩ := reply_ok h
    obtain ⟨_, hframe⟩ := heartbeat_ok hq h
    rw [hframe]
  | markFinalizing claim now =>
    obtain ⟨r, h, _⟩ := reply_ok h
    obtain ⟨_, hframe⟩ := markFinalizing_ok hq h
    rw [hframe]
  | requestCancel runId operator now =>
    obtain ⟨r, h, _⟩ := reply_ok h
    obtain ⟨run, _, _, ⟨rfl, _⟩ | ⟨_, hframe, _⟩ | ⟨row, _, hframe, _⟩⟩ := requestCancel_ok hq h
    · exact .refl
    · rw [hframe]
    · rw [hframe]
  | commitTerminalFailure claim target failure now =>
    obtain ⟨r, h, _⟩ := reply_ok h
    obtain ⟨run, row, _, _, hrecord⟩ := commitTerminalFailure_ok hq h
    have hstep : db'.tasks = db.tasks ∨ TaskWrite rt V db.tasks db'.tasks :=
      @recordFailedTask_step rt V { db with queue := db'.queue } db' _ _ ht.rows hrecord
    rcases hstep with hsame | hw
    · rw [hsame]
    · exact .single hw
  | commitSuccess claim a now =>
    obtain ⟨r, h, _⟩ := reply_ok h
    obtain ⟨run, row, db₁, db₂, _, _, _, hqueue, hturn, hupdate⟩ := commitSuccess_ok hq h
    have hsame : db₂.tasks = db.tasks := by
      rw [appendSuccessTurn_frame hturn, hqueue]
    rw [← hsame] at ht ⊢
    rcases applySuccessUpdate_step ht.rows (fun update hu id x hx => hV id x ⟨update, hu, hx⟩)
      hupdate with hsame | hw
    · rw [hsame]
    · exact .single hw
  | reapExpiredLeases now =>
    obtain ⟨n, h, _⟩ := reply_ok h
    obtain ⟨db₁, hfold, h⟩ := bind_ok h
    obtain ⟨_, rfl⟩ := Prod.mk.inj (pure_ok h)
    exact reap_step hq ht (expiredAttempts_nodup _ _) (fun row hrow =>
      ⟨(mem_expiredAttempts.mp hrow).1, (mem_expiredAttempts.mp hrow).2.1⟩) hfold

theorem taskCreate_step {a : TaskExecutionService.CreateArguments}
    {r : WorkflowTaskSnapshot × Bool} (h : TaskExecutionService.create rt a db = .ok (r, db')) :
    TaskStep rt V db.tasks db'.tasks := by
  obtain ⟨found, _, h⟩ := bind_ok h
  split at h
  · obtain ⟨_, _, h⟩ := bind_ok h
    cases pure_ok h
    exact .none
  · split at h
    · rename_i snapshot tasks hcreate
      obtain ⟨db₁, hs, h⟩ := bind_ok h
      cases pure_ok h
      rw [(taskSubmit_chain hs).2]
      exact .created snapshot (create_step hcreate)
    · obtain ⟨_, _, h⟩ := bind_ok h
      obtain ⟨_, _, h⟩ := bind_ok h
      cases pure_ok h
      exact .none
    · cases h

theorem dispatch_step {intent : ResumeIntent} {owner : TaskOwner} {agent : PublishedAgent}
    {now : Instant} {admission : Admission} {turns : Option Nat} {s : WorkflowTaskSnapshot}
    (hrows : RowsHold rt db.tasks)
    (h : TaskExecutionService.dispatch rt intent owner agent now admission turns db =
      .ok (s, db')) :
    Relation.ReflTransGen (TaskWrite rt V) db.tasks db'.tasks := by
  obtain ⟨current, _, h⟩ := bind_ok h
  split at h
  · cases pure_ok h
    exact .refl
  · obtain ⟨_, _, h⟩ := bind_ok h
    obtain ⟨_, _, h⟩ := bind_ok h
    obtain ⟨⟨snapshot, tasks⟩, hbind, h⟩ := bind_ok h
    obtain ⟨db₁, hs, h⟩ := bind_ok h
    obtain ⟨tasks₂, hmark, h⟩ := bind_ok h
    cases pure_ok h
    obtain ⟨_, _, hc⟩ := WorkflowTaskService.bindRun_ok (V := V intent.taskId) hrows hbind
    have hsame : db₁.tasks = tasks := by rw [(taskSubmit_chain hs).2]
    rw [hsame] at hmark
    obtain ⟨row, _, _, _, hreplaced, hframe⟩ := markResumeDispatched_ok hmark
    exact .tail (.single hc.write) (.dispatched row _ hreplaced hframe)

theorem OutsideCall.tasks_eq {call : OutsideCall} {o : Reply} (h : call.exec db = .ok (o, db')) :
    db'.tasks = db.tasks := by
  cases call with
  | workerRoles rows => cases h; rfl
  | createConversation record =>
    obtain ⟨_, _, h⟩ := bind_ok h
    cases pure_ok h
    rfl
  | deleteConversation conversationId => cases h; rfl
  | hideArtifact owner visibility =>
    obtain ⟨_, _, h⟩ := bind_ok h
    cases pure_ok h
    rfl

/-- **What any call does to the tasks.** -/
theorem exec_step {call : Call} {o : Reply} (hq : QueueInvariant rt db.queue)
    (ht : TaskInvariant rt V db.tasks) (hV : ∀ id a, call.presents id a → V id a)
    (h : exec rt call db = .ok (o, db')) : TaskStep rt V db.tasks db'.tasks := by
  cases call with
  | queue call => exact .written (queueCall_step hq ht hV h)
  | task call =>
    obtain ⟨⟨r, tasks⟩, hcall, h⟩ := bind_ok h
    cases pure_ok h
    exact call.step_ok ht.rows hV hcall
  | createTask a =>
    rw [exec] at h
    obtain ⟨r, h, _⟩ := reply_ok h
    exact taskCreate_step h
  | dispatch intent owner agent now admission turns =>
    obtain ⟨r, h, _⟩ := reply_ok h
    exact .written (dispatch_step ht.rows h)
  | submit agent admission submission now =>
    rw [exec] at h
    obtain ⟨r, h, _⟩ := reply_ok h
    rw [(submit_chain h).2]
    exact .none
  | outside call =>
    rw [call.tasks_eq h]
    exact .none

/-! ## Histories -/

/-- The assessments that a history has presented to the verifiers. -/
def presented (calls : List Call) (id : String) (a : CriterionAssessment) : Prop :=
  ∃ call ∈ calls, call.presents id a

/-- The invariant of both stores, along a history that presents nothing beyond `V`. -/
theorem history_tasks : ∀ {calls : List Call} {db : Database}, QueueInvariant rt db.queue →
    TaskInvariant rt V db.tasks → (∀ id a, presented calls id a → V id a) →
    TaskInvariant rt V (after (exec rt) db calls).tasks
  | [], _, _, ht, _ => ht
  | call :: calls, db, hq, ht, hV => by
    rw [after_cons]
    have hrest : ∀ id a, presented calls id a → V id a := fun id a ⟨c, hc, hp⟩ =>
      hV id a ⟨c, List.mem_cons_of_mem _ hc, hp⟩
    rcases step_cases (exec rt) db call with hs | ⟨o, ho⟩
    · rw [hs]; exact history_tasks hq ht hrest
    · refine history_tasks (QueueChain.keeps hq (exec_chain hq ho)) ?_ hrest
      exact (exec_step hq ht (fun id a hp => hV id a ⟨call, by simp, hp⟩) ho).keeps ht

theorem history_taskInvariant (rt : Runtime) (calls : List Call) :
    TaskInvariant rt (presented calls) (after (exec rt) Database.initial calls).tasks :=
  history_tasks (.initial rt) .initial fun _ _ h => h

/-- Every row of a reachable state holds a snapshot. -/
theorem Reachable.rowsHold {db : Database} (h : Reachable rt db) : RowsHold rt db.tasks := by
  obtain ⟨calls, rfl⟩ := h
  exact (history_taskInvariant rt calls).rows

end ProofAgent
