import ProofAgent.RunQueue.Returns
import ProofAgent.Tasks.Returns

/-! # Recovery of lost runs

Reaping and a terminal failure record the failure on the run's task in the same
transaction. They go through exactly where the task of every affected run is
still there, reads back, and has room for the note; a purged task stops the
recovery of all the runs that are reaped with it. -/
namespace ProofAgent

open Base RunQueueRepository WorkflowTaskRepository
open WorkflowTaskService (recordFailedRun failureRecorded)

variable {rt : Runtime} {db db' : Database} {t t' : TaskTables} {now : Instant}

/-! ## The note on the task -/

/-- The fields of a task whose latest run failed. -/
def failureUpdate (f : SnapshotFields) : SnapshotFields :=
  { f with
    budgetUsage := { f.budgetUsage with
      tokens := none, unknownModelCalls := f.budgetUsage.unknownModelCalls + 1 }
    phase := .paused }

/-- Whether a snapshot has room for the note, or needs none. -/
def HasRoom (rt : Runtime) (s : WorkflowTaskSnapshot) (runId : String) (now : Instant) : Prop :=
  failureRecorded s runId = true ∨
    ∀ u, changed s now failureUpdate = .ok u → rt.dumpSize u.toJson ≤ maxSnapshotBytes

/-- The task of a run is there, reads back, and has room for the note. -/
def Recoverable (rt : Runtime) (t : TaskTables) (now : Instant) (request : RunRequest) : Prop :=
  ∀ b ∈ request.task, ∃ s, WorkflowTaskService.get rt b.taskId (taskOwner request) t = .ok s ∧
    HasRoom rt s request.runId now

theorem recordFailedRun_eq {taskId runId : String} {owner : TaskOwner} :
    recordFailedRun rt taskId runId owner now t = (do
      let s ← WorkflowTaskService.get rt taskId owner t
      if failureRecorded s runId then return (s, t)
      let u ← changed s now failureUpdate
      let t ← compareAndSwap rt u owner s.version none t
      return (u, t)) := rfl

/-- The note is a valid swap if it fits. -/
theorem failure_validSwap {s u : WorkflowTaskSnapshot} {runId : String} (hnow : s.updatedAt ≤ now)
    (hnews : failureRecorded s runId = false) (hu : changed s now failureUpdate = .ok u)
    (hsize : rt.dumpSize u.toJson ≤ maxSnapshotBytes) : ValidSwap rt s u none := by
  have hw : Writes (failureUpdate s.toSnapshotFields) s now u := changed_ok hu
  have hopen : s.phase.isTerminal = false := by
    simp only [failureRecorded, Bool.or_eq_false_iff] at hnews
    exact hnews.1.1.2
  have hbudget : s.budgetUsage.within u.budgetUsage = true := by
    rw [hw.budgetUsage]
    simp [TaskBudgetUsage.within, failureUpdate, PyFloat.lt_irrefl]
  have htokens : tokensWithin s.budgetUsage.tokens u.budgetUsage.tokens = true := by
    rw [hw.budgetUsage]
    show tokensWithin s.budgetUsage.tokens none = true
    cases s.budgetUsage.tokens <;> rfl
  exact {
    owner := hw.owner
    version := by rw [hw]
    task_id := by rw [hw.goal]; rfl
    created := by rw [hw]; rfl
    expires := by rw [hw]; rfl
    request := by rw [hw]; rfl
    conversation := by rw [hw]; rfl
    supplement := by rw [hw]; rfl
    updated := by rw [hw.updatedAt]; exact hnow
    revision := .inl (by rw [hw.goal]; rfl)
    goal := fun _ => hw.goal
    unfinished := hopen
    complete := fun hc => by rw [hw.phase] at hc; cases hc
    budget := hbudget
    tokens := htokens
    size := hsize
    intent := rfl }

/-- The note adds no text. -/
theorem failure_hasNul {s u : WorkflowTaskSnapshot} (hu : changed s now failureUpdate = .ok u) :
    u.toJson.hasNul = s.toJson.hasNul := by
  have hw : Writes (failureUpdate s.toSnapshotFields) s now u := changed_ok hu
  rw [WorkflowTaskSnapshot.hasNul_toJson, WorkflowTaskSnapshot.hasNul_toJson, hw]
  rfl

/-- No stored timestamp of a task is later than the clock. -/
def TasksBefore (t : TaskTables) (now : Instant) : Prop :=
  ∀ row ∈ t.workflowTasks.rows, row.updatedAt ≤ now

theorem TaskRow.Holds.updatedAt_eq {row : TaskRow} {s s' : WorkflowTaskSnapshot}
    (h : row.Holds rt s) (hd : decode rt row = .ok s') : s'.updatedAt = row.updatedAt := by
  rw [(h.reread hd).updatedAt]
  obtain ⟨_, _, rfl⟩ := h.written
  rfl

/-- **The note is written** exactly if the task is there, reads back and has room. -/
theorem recordFailedRun_returns_iff (hrows : RowsHold rt t) (hbefore : TasksBefore t now)
    {taskId runId : String} {owner : TaskOwner} :
    (∃ r, recordFailedRun rt taskId runId owner now t = .ok r) ↔
      ∃ s, WorkflowTaskService.get rt taskId owner t = .ok s ∧ HasRoom rt s runId now := by
  rw [recordFailedRun_eq]
  cases hget : WorkflowTaskService.get rt taskId owner t with
  | error e => exact ⟨fun ⟨_, h⟩ => (nomatch h), fun ⟨_, h, _⟩ => (nomatch h)⟩
  | ok s =>
    obtain ⟨hid, howner⟩ := get_identity hrows hget
    obtain ⟨row, hfor, hdecode⟩ := get_ok.mp hget
    have hmem := (rowFor_eq_some_iff.mp hfor).1
    obtain ⟨s₀, hholds⟩ := hrows row hmem
    have hnow : s.updatedAt ≤ now := hholds.updatedAt_eq hdecode ▸ hbefore row hmem
    rw [ok_bind]
    cases hnews : failureRecorded s runId with
    | true => exact ⟨fun _ => ⟨s, rfl, .inl hnews⟩, fun _ => ⟨_, rfl⟩⟩
    | false =>
      obtain ⟨u, hu⟩ := changed_of_same failureUpdate hnow rfl rfl rfl rfl
      rw [if_neg Bool.false_ne_true, hu, ok_bind]
      have hw : Writes (failureUpdate s.toSnapshotFields) s now u := changed_ok hu
      constructor
      · rintro ⟨r, h⟩
        obtain ⟨t₁, hswap, _⟩ := bind_ok h
        obtain ⟨_, _, _, hswapped⟩ := compareAndSwap_ok hrows hget
          (by rw [hw.goal]; rfl) hswap
        refine ⟨s, rfl, .inr fun u' hu' => ?_⟩
        cases hu.symm.trans hu'
        exact hswapped.valid.size
      · rintro ⟨s', hs', hroom⟩
        cases hs'
        have hsize := (hroom.resolve_left (by rw [hnews]; exact Bool.false_ne_true)) u hu
        subst hid howner
        obtain ⟨t₁, hswap⟩ := compareAndSwap_of hfor hdecode
          (failure_validSwap hnow hnews hu hsize)
          (by rw [failure_hasNul hu]; exact hholds.hasNul hdecode) (fun i hi => by cases hi)
        rw [hswap]
        exact ⟨_, rfl⟩

theorem recordFailedTask_returns_iff (hrows : RowsHold rt db.tasks)
    (hbefore : TasksBefore db.tasks now) {request : RunRequest} :
    (∃ db', recordFailedTask rt request now db = .ok db') ↔
      Recoverable rt db.tasks now request := by
  unfold recordFailedTask Recoverable
  cases request.task with
  | none => exact ⟨fun _ b hb => (nomatch hb), fun _ => ⟨_, rfl⟩⟩
  | some b =>
    simp only [Option.mem_def, Option.some.injEq, forall_eq']
    rw [← recordFailedRun_returns_iff hrows hbefore]
    constructor
    · rintro ⟨db', h⟩
      obtain ⟨r, hr, _⟩ := bind_ok h
      exact ⟨r, hr⟩
    · rintro ⟨r, hr⟩
      rw [hr]
      exact ⟨_, rfl⟩

/-! ## What the note leaves for other runs -/

theorem rowFor_replaced {row new : TaskRow} (taskId : String) (owner : TaskOwner)
    (h : Table.Replaced t.workflowTasks t'.workflowTasks row new) (hnew : new.owner = row.owner) :
    (taskId = row.taskId ∧ owner = row.owner ∧ rowFor taskId owner t = some row ∧
        rowFor taskId owner t' = some new) ∨
      rowFor taskId owner t' = rowFor taskId owner t := by
  by_cases hid : taskId = row.taskId
  · subst hid
    have hold : t.workflowTasks.find? row.taskId = some row := Table.find?_of_mem h.mem_old
    have hnew' : t'.workflowTasks.find? row.taskId = some new := h.find?_new
    unfold rowFor
    rw [hold, hnew']
    by_cases howner : owner = row.owner
    · refine .inl ⟨rfl, howner, ?_, ?_⟩ <;> simp [howner, hnew]
    · right
      have hother : ¬ row.owner = owner := fun he => howner he.symm
      rw [Option.filter_some, Option.filter_some, hnew]
      simp only [hother, decide_false, Bool.false_eq_true, if_false]
  · right
    unfold rowFor
    rw [h.find?_ne hid]

/-- A note was written on the task of a run. -/
structure NoteWritten (rt : Runtime) (request : RunRequest) (now : Instant) (t t' : TaskTables)
    (b : TaskBinding) (row new : TaskRow) (s u : WorkflowTaskSnapshot) : Prop where
  bound : request.task = some b
  found : rowFor b.taskId (taskOwner request) t = some row
  news : failureRecorded s request.runId = false
  note : Writes (failureUpdate s.toSnapshotFields) s now u
  decoded : decode rt row = .ok s
  written : decode rt new = .ok u
  holds : new.Holds rt u
  owner : new.owner = row.owner
  updated : new.updatedAt = now
  replaced : Table.Replaced t.workflowTasks t'.workflowTasks row new

/-- There was nothing to note on the task of a run. -/
def NothingToNote (rt : Runtime) (request : RunRequest) (t : TaskTables) : Prop :=
  ∀ b ∈ request.task, ∃ s, WorkflowTaskService.get rt b.taskId (taskOwner request) t = .ok s ∧
    failureRecorded s request.runId = true

theorem recordFailedTask_rows (hrows : RowsHold rt db.tasks) {request : RunRequest}
    (h : recordFailedTask rt request now db = .ok db') :
    (db'.tasks = db.tasks ∧ NothingToNote rt request db.tasks) ∨
      ∃ b row new s u, NoteWritten rt request now db.tasks db'.tasks b row new s u := by
  unfold recordFailedTask at h
  split at h
  · rename_i hnone
    cases h
    refine .inl ⟨rfl, fun b hb => ?_⟩
    rw [hnone] at hb
    cases hb
  · rename_i b hb
    obtain ⟨⟨r, tasks⟩, hrecord, h⟩ := bind_ok h
    cases pure_ok h
    rw [recordFailedRun_eq] at hrecord
    obtain ⟨s, hget, hrecord⟩ := bind_ok hrecord
    split at hrecord
    · rename_i hnone
      cases pure_ok hrecord
      refine .inl ⟨rfl, fun b' hb' => ?_⟩
      obtain rfl : b = b' := Option.some.inj (hb.symm.trans hb')
      exact ⟨r, hget, hnone⟩
    · rename_i hnews
      obtain ⟨u, hu, hrecord⟩ := bind_ok hrecord
      obtain ⟨t₁, hswap, hrecord⟩ := bind_ok hrecord
      obtain ⟨_, rfl⟩ := Prod.mk.inj (pure_ok hrecord)
      have hw : Writes (failureUpdate s.toSnapshotFields) s now u := changed_ok hu
      obtain ⟨row, new, hfor, hswapped⟩ := compareAndSwap_ok hrows hget (by rw [hw.goal]; rfl)
        hswap
      obtain ⟨s₀, hholds⟩ := hrows row (rowFor_eq_some_iff.mp hfor).1
      have hre := hholds.reread hswapped.decoded
      have hnew : new.Holds rt u := ⟨hswapped.written, by
        rw [hw.budgetUsage]
        show s.budgetUsage.activeSeconds.isNegativeZero = false
        rw [hre.budgetUsage]
        exact hholds.seconds⟩
      have hsurvives : u.survives := by
        intro q hq
        rw [hw.questions] at hq
        exact hre.survives q hq
      refine .inr ⟨b, row, new, s, u, {
        bound := hb
        found := hfor
        news := Bool.not_eq_true _ ▸ hnews
        note := hw
        decoded := hswapped.decoded
        written := hnew.decode_self_iff.mpr hsurvives
        holds := hnew
        owner := by rw [hnew.owner, hswapped.valid.owner, hre.owner, hholds.owner]
        updated := ?_
        replaced := hswapped.replaced }⟩
      obtain ⟨_, _, rfl⟩ := hswapped.written
      exact hw.updatedAt

theorem recordFailedTask_rowsHold (hrows : RowsHold rt db.tasks) {request : RunRequest}
    (h : recordFailedTask rt request now db = .ok db') : RowsHold rt db'.tasks := by
  rcases recordFailedTask_rows hrows h with ⟨hsame, _⟩ | ⟨_, _, new, _, u, hwritten⟩
  · rw [hsame]
    exact hrows
  · intro r hr
    rcases hwritten.replaced.mem_cases hr with rfl | ⟨hr, _⟩
    · exact ⟨u, hwritten.holds⟩
    · exact hrows r hr

theorem recordFailedTask_keeps (hrows : RowsHold rt db.tasks) (hbefore : TasksBefore db.tasks now)
    {request : RunRequest} (h : recordFailedTask rt request now db = .ok db') :
    RowsHold rt db'.tasks ∧ TasksBefore db'.tasks now := by
  refine ⟨recordFailedTask_rowsHold hrows h, ?_⟩
  rcases recordFailedTask_rows hrows h with ⟨hsame, _⟩ | ⟨_, _, _, _, _, hwritten⟩
  · rw [hsame]
    exact hbefore
  · intro r hr
    rcases hwritten.replaced.mem_cases hr with rfl | ⟨hr, _⟩
    · exact hwritten.updated.le
    · exact hbefore r hr

/-- **The note of one run** leaves the recovery of every other run as it was. -/
theorem recordFailedTask_recoverable (hrows : RowsHold rt db.tasks) {request other : RunRequest}
    (h : recordFailedTask rt request now db = .ok db') (hne : other.runId ≠ request.runId) :
    Recoverable rt db'.tasks now other ↔ Recoverable rt db.tasks now other := by
  rcases recordFailedTask_rows hrows h with ⟨hsame, _⟩ | ⟨_, row, new, s, u, hwritten⟩
  · rw [hsame]
  · have hlatest : s.latestRunId = some request.runId := by
      have hnews := hwritten.news
      simp only [failureRecorded, Bool.or_eq_false_iff, decide_eq_false_iff_not, ne_eq,
        Decidable.not_not] at hnews
      exact hnews.1.1.1
    have hlatest' : u.latestRunId = some request.runId := by
      rw [hwritten.note]
      exact hlatest
    have hnews : ∀ x : WorkflowTaskSnapshot, x.latestRunId = some request.runId →
        HasRoom rt x other.runId now := by
      intro x hx
      left
      have : ¬ some request.runId = some other.runId := fun he => hne (Option.some.inj he).symm
      simp [failureRecorded, hx, this]
    refine forall₂_congr fun b _ => ?_
    rcases rowFor_replaced b.taskId (taskOwner other) hwritten.replaced hwritten.owner with
      ⟨_, _, hold, hnew⟩ | hsame
    · exact ⟨fun _ => ⟨s, get_ok.mpr ⟨row, hold, hwritten.decoded⟩, hnews s hlatest⟩,
        fun _ => ⟨u, get_ok.mpr ⟨new, hnew, hwritten.written⟩, hnews u hlatest'⟩⟩
    · simp only [get_eq, hsame]

/-! ## Reaping -/

/-- No stored timestamp is later than the clock. -/
structure Database.Before (db : Database) (now : Instant) : Prop where
  runs : ∀ r ∈ db.queue.runs.rows, r.updatedAt ≤ now
  attempts : ∀ a ∈ db.queue.runAttempts.rows, a.updatedAt ≤ now
  tasks : TasksBefore db.tasks now

theorem Database.Before.created (h : db.Before now) (hinv : QueueInvariant rt db.queue)
    {run : RunRow} {a : AttemptRow} (hrun : run ∈ db.queue.runs.rows)
    (ha : a ∈ db.queue.runAttempts.rows) : run.createdAt ≤ now ∧ a.createdAt ≤ now :=
  ⟨(hinv.runs run hrun).constraints.2.1.trans (h.runs run hrun),
    (hinv.attempts a ha).constraints.2.2.2.2.1.trans (h.attempts a ha)⟩

/-- The tasks of the runs of some attempts can take note. -/
def AllRecoverable (rt : Runtime) (db : Database) (now : Instant) (rows : List AttemptRow) : Prop :=
  ∀ a ∈ rows, ∀ run ∈ db.queue.runs.rows, run.runId = a.runId →
    Recoverable rt db.tasks now run.requestJson

/-- The other runs stay as they are when one run is moved. -/
theorem Moved.other_run {q q' : QueueTables} {run r : RunRow} {attempt : AttemptRow}
    {target : RunLifecycleState} {outcome : RunResultAvailability} {failure : Option RunFailure}
    (h : Moved q q' run attempt target outcome failure now) (hne : r.runId ≠ run.runId) :
    r ∈ q'.runs.rows ↔ r ∈ q.runs.rows := by
  constructor
  · intro hr
    rcases h.runs.mem_cases hr with rfl | ⟨hr, _⟩
    · exact absurd rfl hne
    · exact hr
  · exact fun hr => h.runs.mem_of_ne hr hne

theorem reap_returns_iff : ∀ {rows : List AttemptRow} {db : Database},
    QueueInvariant rt db.queue → RowsHold rt db.tasks → TasksBefore db.tasks now → rows.Nodup →
    (∀ a ∈ rows, a ∈ db.queue.runAttempts.rows ∧ a.state.isActive = true ∧ a.createdAt ≤ now ∧
      ∀ run ∈ db.queue.runs.rows, run.runId = a.runId → run.createdAt ≤ now) →
    ((∃ db', rows.foldlM (reapAttempt rt now) db = .ok db') ↔ AllRecoverable rt db now rows)
  | [], _, _, _, _, _, _ => ⟨fun _ a ha => (nomatch ha), fun _ => ⟨_, rfl⟩⟩
  | row :: rows, db, hinv, hrows, hbefore, hnodup, hmem => by
    obtain ⟨hrow, hactive, hcreated, hcreatedR⟩ := hmem row (by simp)
    obtain ⟨run, hrun, hsame, _⟩ := hinv.mirror row hrow
    obtain ⟨q', hmoved, heq⟩ := reapAttempt_eq hinv hrow hactive hrun hsame
      ⟨hcreatedR run hrun hsame, hcreated⟩
    rw [List.nodup_cons] at hnodup
    rw [List.foldlM_cons, heq]
    have hrecord : (∃ db', recordFailedTask rt run.requestJson now { db with queue := q' } = .ok db') ↔
        Recoverable rt db.tasks now run.requestJson :=
      recordFailedTask_returns_iff (by exact hrows) (by exact hbefore)
    have hid : run.requestJson.runId = run.runId := (hinv.runs run hrun).run_id.symm
    cases hone : recordFailedTask rt run.requestJson now { db with queue := q' } with
    | error e =>
      refine ⟨fun ⟨_, h⟩ => (nomatch h), fun h => ?_⟩
      obtain ⟨db', hdb'⟩ := hrecord.mpr (h row (by simp) run hrun hsame)
      cases hone.symm.trans hdb'
    | ok db₁ =>
      rw [ok_bind]
      have hqueue : db₁.queue = q' := by rw [recordFailedTask_frame hone]
      obtain ⟨hrows₁, hbefore₁⟩ :=
        recordFailedTask_keeps (by exact hrows) (by exact hbefore) hone
      have hinv₁ : QueueInvariant rt db₁.queue := by
        rw [hqueue]
        exact QueueChange.keeps hinv (.moved _ _ _ _ _ _ hmoved)
      -- the runs of the other attempts are other runs
      have hother : ∀ a ∈ rows, a.runId ≠ run.runId := by
        intro a ha he
        have := hinv.once a (hmem a (by simp [ha])).1 row hrow (he.trans hsame)
        rw [this] at ha
        exact hnodup.1 ha
      have hruns : ∀ a ∈ rows, ∀ r : RunRow, r.runId = a.runId →
          (r ∈ db₁.queue.runs.rows ↔ r ∈ db.queue.runs.rows) := by
        intro a ha r hr
        rw [hqueue]
        exact hmoved.other_run (fun he => hother a ha (hr.symm.trans he))
      have ih := reap_returns_iff hinv₁ hrows₁ hbefore₁ hnodup.2 (fun a ha => by
        obtain ⟨ha', hact, hc, hr⟩ := hmem a (by simp [ha])
        refine ⟨?_, hact, hc, fun r hr' he => hr r ((hruns a ha r he).mp hr') he⟩
        rw [hqueue]
        exact hmoved.attempts.mem_of_ne' ha' (by rintro rfl; exact hnodup.1 ha))
      rw [ih]
      have hfirst : Recoverable rt db.tasks now run.requestJson := hrecord.mp ⟨db₁, hone⟩
      have htasks : ∀ a ∈ rows, ∀ r ∈ db.queue.runs.rows, r.runId = a.runId →
          (Recoverable rt db₁.tasks now r.requestJson ↔
            Recoverable rt db.tasks now r.requestJson) := by
        intro a ha r hr he
        have hne : r.requestJson.runId ≠ run.requestJson.runId := by
          rw [hid, ← (hinv.runs r hr).run_id, he]
          exact hother a ha
        have hkept := recordFailedTask_recoverable (by exact hrows) hone hne
        exact hkept
      constructor
      · intro h a ha r hr he
        rcases List.mem_cons.mp ha with rfl | ha
        · rw [Table.eq_of_key hr hrun (he.trans hsame.symm)]
          exact hfirst
        · exact (htasks a ha r hr he).mp (h a ha r ((hruns a ha r he).mpr hr) he)
      · intro h a ha r hr he
        have hr' := (hruns a ha r he).mp hr
        exact (htasks a ha r hr' he).mpr (h a (List.mem_cons_of_mem _ ha) r hr' he)

/-- Reaping leaves an attempt and its run failed. -/
def FailedTogether (q : QueueTables) (a : AttemptRow) : Prop :=
  (∃ a' ∈ q.runAttempts.rows, a'.attemptId = a.attemptId ∧ a'.state = .failed) ∧
    ∃ r ∈ q.runs.rows, r.runId = a.runId ∧ r.state = .failed

theorem reapExpiredLeases_recovers {n : Nat} (hinv : QueueInvariant rt db.queue)
    (h : reapExpiredLeases rt now db = .ok (n, db')) :
    ∀ a ∈ expiredAttempts now db.queue, FailedTogether db'.queue a := by
  obtain ⟨db₁, hfold, h⟩ := bind_ok h
  obtain ⟨_, rfl⟩ := Prod.mk.inj (pure_ok h)
  obtain ⟨hchain, _, _, hfailed⟩ := reap_ok hinv (expiredAttempts_nodup _ _)
    (fun row hrow => ⟨(mem_expiredAttempts.mp hrow).1, (mem_expiredAttempts.mp hrow).2.1⟩) hfold
  have hinv' := QueueChain.keeps hinv hchain
  intro a ha
  have hmem := hfailed a ha
  obtain ⟨r, hr, hid, hstate, _⟩ := hinv'.mirror _ hmem
  exact ⟨⟨_, hmem, rfl, rfl⟩, r, hr, hid, hstate⟩

theorem reapExpiredLeases_returns_iff (hinv : QueueInvariant rt db.queue)
    (hrows : RowsHold rt db.tasks) (hbefore : db.Before now) :
    (∃ r, reapExpiredLeases rt now db = .ok r) ↔
      AllRecoverable rt db now (expiredAttempts now db.queue) := by
  have hiff := reap_returns_iff hinv hrows hbefore.tasks (expiredAttempts_nodup now db.queue) fun a ha => by
      obtain ⟨hmem, hactive, _⟩ := mem_expiredAttempts.mp ha
      obtain ⟨r, hr, _⟩ := hinv.mirror a hmem
      exact ⟨hmem, hactive, (hbefore.created hinv hr hmem).2,
        fun run hrun _ => (hbefore.created hinv hrun hmem).1⟩
  rw [← hiff]
  constructor
  · rintro ⟨r, h⟩
    obtain ⟨db₁, hfold, _⟩ := bind_ok h
    exact ⟨db₁, hfold⟩
  · rintro ⟨db₁, hfold⟩
    unfold reapExpiredLeases
    dsimp only
    rw [hfold]
    exact ⟨_, rfl⟩

/-! ## Terminal failures -/

/-- A claim whose activation is live passes the checks of its role. -/
theorem liveRole_passes (hinv : QueueInvariant rt db.queue) {claim : RunClaim}
    (h : ∃ x ∈ db.queue.runExecutorActivations.rows,
      ownsActivation x.slot claim.attempt.executorId claim.attempt.activationEpoch x ∧
      requireWorkerRoleLease x.slot claim.attempt.executorId now true db = .ok ()) :
    ∃ slot, activeSlotForClaim claim db.queue = .ok slot ∧
      requireActiveRole slot claim.attempt.executorId claim.attempt.activationEpoch now true db =
        .ok () := by
  obtain ⟨x, hx, howns, hworker⟩ := h
  refine ⟨x.slot, ?_, ?_⟩
  · unfold activeSlotForClaim
    cases hfound : db.queue.runExecutorActivations.rows.find? fun a => a.state = .active &&
        a.activationEpoch = claim.attempt.activationEpoch &&
        a.executorId = some claim.attempt.executorId with
    | none =>
      have := List.find?_eq_none.mp hfound x hx
      simp [howns.2.1, howns.2.2.1, howns.2.2.2] at this
    | some y =>
      have hy := List.find?_some hfound
      simp only [Bool.and_eq_true, decide_eq_true_eq] at hy
      rw [hinv.one_activation y (List.mem_of_find?_eq_some hfound) x hx hy.1.1 howns.2.1]
      rfl
  · unfold requireActiveRole
    rw [require_true _ ⟨x, hx, howns⟩, ok_bind, hworker]

/-- The owner of a live claim gets its attempt. -/
theorem Owned.lockOwnedAttempt (hinv : QueueInvariant rt db.queue) {claim : RunClaim}
    {row : AttemptRow} {allow : Bool} (h : Owned claim row now allow db) :
    lockOwnedAttempt claim now allow db = .ok row := by
  obtain ⟨slot, hslot, hrole⟩ := liveRole_passes hinv h.role
  unfold RunQueueRepository.lockOwnedAttempt
  rw [hslot, ok_bind, hrole, ok_bind, ← h.attempt_id, Table.find?_of_mem h.mem, orRaise_some,
    ok_bind, require_true _ h.identity, ok_bind, require_true _ h.active, ok_bind,
    require_true _ h.lease, ok_bind, require_true _ h.deadline]
  rfl

/-- **A terminal failure of a live claim** fails at most where it is recorded on the task. -/
theorem commitTerminalFailure_eq (failure : RunFailure) (hinv : QueueInvariant rt db.queue)
    {claim : RunClaim} {row : AttemptRow} {run : RunRow} {target : RunLifecycleState}
    (htarget : target = .failed ∨ target = .timedOut ∨ target = .cancelled)
    (howned : Owned claim row now (target = .timedOut) db) (hallowed : row.state.allowed target = true)
    (hrun : run ∈ db.queue.runs.rows) (hsame : run.runId = row.runId)
    (hnow : run.createdAt ≤ now ∧ row.createdAt ≤ now) :
    ∃ q', Moved db.queue q' run row target .unavailable (some failure) now ∧
      commitTerminalFailure rt claim target failure now db = (do
        let db ← recordFailedTask rt run.requestJson now { db with queue := q' }
        return (run.record.ended target .unavailable (some failure) now, db)) := by
  have hsound := hinv.attempts row howned.mem
  have hterminal : target.isTerminal = true := by rcases htarget with rfl | rfl | rfl <;> rfl
  have hne : target ≠ .succeeded := by rcases htarget with rfl | rfl | rfl <;> decide
  obtain ⟨q₁, q₂, hwrite, hread, hwriteRun, hmoved⟩ := move_returns hinv howned.mem hrun hsame
    howned.active hallowed (.failing failure hterminal hne) hnow rfl
    (run.record.ended target .unavailable (some failure) now) rfl (by
      rw [if_pos hterminal]; exact run.assign_ended ..)
  have htransition : assertRunTransition row.attemptJson.state target = .ok () := by
    rw [hsound.state_eq]
    exact require_true _ hallowed
  have htransitionR : assertRunTransition run.record.state target = .ok () := by
    show assertRunTransition run.state target = .ok ()
    rw [(hinv.run_of howned.mem hrun hsame).1]
    exact require_true _ hallowed
  have hid : claim.runRequest.runId = run.runId := howned.run_id.trans hsame.symm
  refine ⟨q₂, hmoved, ?_⟩
  unfold commitTerminalFailure
  rw [require_true _ htarget, ok_bind, howned.lockOwnedAttempt hinv, ok_bind,
    hsound.attemptFromRow, ok_bind, htransition, ok_bind, hwrite, ok_bind, hid, hread, ok_bind,
    htransitionR, ok_bind]
  show (writeRun _ run.state run.stateVersion q₁ >>= _) = _
  rw [hwriteRun]
  rfl

/-! ## Every history -/

/-- When failures are recovered. -/
structure RecoversFailures (rt : Runtime) (db : Database) : Prop where
  /-- All the expired attempts fail with their runs, or none does. -/
  reap : ∀ now, db.Before now →
    ((∃ n db', reapExpiredLeases rt now db = .ok (n, db') ∧
        ∀ a ∈ expiredAttempts now db.queue, FailedTogether db'.queue a) ↔
      AllRecoverable rt db now (expiredAttempts now db.queue))
  /-- The owner of a live claim ends its run. -/
  commit : ∀ claim row target failure now, db.Before now →
    (target = .failed ∨ target = .timedOut ∨ target = .cancelled) →
    Owned claim row now (target = .timedOut) db → row.state.allowed target = true →
    ((∃ record db', commitTerminalFailure rt claim target failure now db = .ok (record, db') ∧
        ∃ r ∈ db'.queue.runs.rows, r.runId = row.runId ∧ r.state = target) ↔
      AllRecoverable rt db now [row])

/-- **Failures are recovered exactly where the tasks can take note of them.** -/
theorem history_recovery (rt : Runtime) (calls : List Call) :
    RecoversFailures rt (after (exec rt) Database.initial calls) := by
  have hreach : Reachable rt (after (exec rt) Database.initial calls) := ⟨calls, rfl⟩
  have hinv := hreach.queue
  have hrows := hreach.rowsHold
  generalize after (exec rt) Database.initial calls = db at hinv hrows
  constructor
  · intro now hbefore
    rw [← reapExpiredLeases_returns_iff hinv hrows hbefore]
    constructor
    · rintro ⟨n, db', h, _⟩
      exact ⟨_, h⟩
    · rintro ⟨⟨n, db'⟩, h⟩
      exact ⟨n, db', h, reapExpiredLeases_recovers hinv h⟩
  · intro claim row target failure now hbefore htarget howned hallowed
    obtain ⟨run, hrun, hsame, _⟩ := hinv.mirror row howned.mem
    obtain ⟨q', hmoved, heq⟩ := commitTerminalFailure_eq failure hinv htarget howned
      hallowed hrun hsame (hbefore.created hinv hrun howned.mem)
    have hrecord : (∃ db', recordFailedTask rt run.requestJson now { db with queue := q' } = .ok db') ↔
        Recoverable rt db.tasks now run.requestJson :=
      recordFailedTask_returns_iff (by exact hrows) (by exact hbefore.tasks)
    rw [heq]
    constructor
    · rintro ⟨record, db', h, _⟩ a ha r hr he
      obtain rfl := List.mem_singleton.mp ha
      rw [Table.eq_of_key hr hrun (he.trans hsame.symm)]
      obtain ⟨db₁, hone, _⟩ := bind_ok h
      exact hrecord.mp ⟨db₁, hone⟩
    · intro h
      obtain ⟨db₁, hone⟩ := hrecord.mpr (h row (by simp) run hrun hsame)
      rw [hone]
      refine ⟨_, db₁, rfl, run.move target .unavailable (some failure)
        (if target.isTerminal then some now else none) now, ?_, hsame, rfl⟩
      rw [show db₁.queue = q' by rw [recordFailedTask_frame hone]]
      exact hmoved.runs.mem_new

/-! ## A purged task -/
namespace Sample

/-- A runtime whose derived identifiers are UUIDs. -/
def uuidRuntime : Runtime :=
  { runtime with uuid5 := fun _ => "00000000-0000-4000-8000-00000000000f" }

def publishedAgent : PublishedAgent where
  agentId := "agent"
  agentVersionId := some "00000000-0000-4000-8000-0000000000aa"

def admission : Admission where
  permissionMappingVersionId := some "00000000-0000-4000-8000-0000000000bb"
  permissionEpoch := 1

def createArguments : TaskExecutionService.CreateArguments where
  goal := goal
  owner := owner
  requestSha256 := "request"
  publishedAgent := publishedAgent
  now := 0
  admission := admission

/-- A task with its first run, and an executor on the last day on which the task is kept. -/
def lastDay : List Call :=
  [.createTask createArguments,
   .outside (.workerRoles
    ⟨[⟨"run_executor", 1, .active, some "executor", some (days 91)⟩], by decide⟩),
   .queue (.activateRole 1 "executor" (days 89))]

/-- The run is claimed ten seconds before the task is purged. -/
def lateClaim : ClaimArguments := claim "attempt" (days 90 - seconds 10)

def purgedHistory : List Call :=
  lastDay ++ [.queue (.claimNext lateClaim), .task (.purgeExpired (days 90))]

def purged : Database := after (exec uuidRuntime) Database.initial purgedHistory

/-- The executor reports its run failed as soon as the task is gone. -/
def failPurged : Except Error RunQueueRecord := do
  let (claim, _) ← claimNext uuidRuntime lateClaim
    (after (exec uuidRuntime) Database.initial lastDay)
  let claim ← orRaise claim (.value "nothing to claim")
  let (record, _) ← commitTerminalFailure uuidRuntime claim .failed { code := .executionFailed }
    (days 90) purged
  return record

end Sample

/-- **A purged task stops the recovery of its run**: neither the executor, whose lease runs
for another twenty seconds, nor the reaper, forty seconds after it has run out, can end it. -/
theorem purgedTask_unrecovered :
    Sample.failPurged = .error (.persistenceNotFound "workflow_task" "task") ∧
    (reapExpiredLeases Sample.uuidRuntime (days 90 + seconds 60) Sample.purged).map (·.1) =
      .error (.persistenceNotFound "workflow_task" "task") ∧
    (expiredAttempts (days 90 + seconds 60) Sample.purged.queue).map (·.state) = [.running] ∧
    (Sample.purged.queue.runs.rows.all fun r => r.updatedAt ≤ days 90) = true ∧
    (Sample.purged.queue.runAttempts.rows.all fun a => a.updatedAt ≤ days 90) = true ∧
    (Sample.purged.tasks.workflowTasks.rows.all fun t => t.updatedAt ≤ days 90) = true := by
  decide

end ProofAgent
