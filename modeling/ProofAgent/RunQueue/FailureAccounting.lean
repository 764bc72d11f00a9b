import ProofAgent.RunQueue.Recovery

/-! # What failed runs leave on their tasks

A run that ends without a result is recorded on its task in the same transaction, but only while it
is the task's latest run, was started for the task's present goal and the task goes on. The budget
of the task is unknown afterwards in this case, and otherwise only if it was unknown before. -/
namespace ProofAgent

open Base RunQueueRepository WorkflowTaskRepository
open WorkflowTaskService (failureRecorded)

variable {rt : Runtime} {db db' db₁ : Database} {t t' : TaskTables} {now : Instant}
  {taskId : String} {owner : TaskOwner}

/-! ## Which failures are noted -/

/-- The run is the latest one of a task that goes on, and was started for its present goal. -/
def WorkflowTaskSnapshot.Carries (s : WorkflowTaskSnapshot) (runId : String) : Prop :=
  s.latestRunId = some runId ∧ s.phase.isTerminal = false ∧
    s.latestRunGoalRevision = some s.goal.revision

/-- The task is paused and what it has left is unknown. -/
def WorkflowTaskSnapshot.Stopped (s : WorkflowTaskSnapshot) : Prop :=
  s.phase = .paused ∧ s.budgetUsage.tokens = none

/-- The request is bound to the task, under its owner. -/
def RunRequest.BelongsTo (request : RunRequest) (taskId : String) (owner : TaskOwner) : Prop :=
  (∃ b ∈ request.task, b.taskId = taskId) ∧ taskOwner request = owner

theorem stopped_of_recorded {s : WorkflowTaskSnapshot} {runId : String}
    (h : failureRecorded s runId = true) (hcarries : s.Carries runId) : s.Stopped := by
  obtain ⟨hlatest, hopen, hgoal⟩ := hcarries
  simpa [failureRecorded, hlatest, hopen, hgoal, WorkflowTaskSnapshot.Stopped] using h

theorem carries_of_news {s : WorkflowTaskSnapshot} {runId : String}
    (h : failureRecorded s runId = false) : s.Carries runId := by
  simp only [failureRecorded, Bool.or_eq_false_iff, decide_eq_false_iff_not, ne_eq,
    Decidable.not_not] at h
  exact ⟨h.1.1.1, h.1.1.2, h.1.2⟩

/-- What failures leave of a task: one was noted on it, or it is as it was. -/
def FailureNoted (reports : WorkflowTaskSnapshot → Prop) :
    Except Error WorkflowTaskSnapshot → Except Error WorkflowTaskSnapshot → Prop
  | .error e, y => y = .error e
  | .ok s, y => ∃ s', y = .ok s' ∧ (reports s ∧ s'.Stopped ∨ ¬ reports s ∧ s' = s)

theorem FailureNoted.refl {reports : WorkflowTaskSnapshot → Prop} {x : Except Error WorkflowTaskSnapshot}
    (h : ∀ s, x = .ok s → reports s → s.Stopped) : FailureNoted reports x x := by
  cases x with
  | error e => rfl
  | ok s =>
    refine ⟨s, rfl, ?_⟩
    by_cases hs : reports s
    · exact .inl ⟨hs, h s rfl hs⟩
    · exact .inr ⟨hs, rfl⟩

theorem FailureNoted.congr {p q : WorkflowTaskSnapshot → Prop}
    {x y : Except Error WorkflowTaskSnapshot} (h : FailureNoted p x y) (hpq : ∀ s, p s ↔ q s) :
    FailureNoted q x y := by
  obtain rfl : p = q := funext fun s => propext (hpq s)
  exact h

theorem FailureNoted.stops {reports : WorkflowTaskSnapshot → Prop} {s s' : WorkflowTaskSnapshot}
    (h : reports s) (hstopped : s'.Stopped) : FailureNoted reports (.ok s) (.ok s') :=
  ⟨s', rfl, .inl ⟨h, hstopped⟩⟩

theorem FailureNoted.trans {p q : WorkflowTaskSnapshot → Prop} {x y z : Except Error WorkflowTaskSnapshot}
    (h : FailureNoted p x y) (h' : FailureNoted q y z) : FailureNoted (fun s => p s ∨ q s) x z := by
  cases x with
  | error e =>
    obtain rfl : y = .error e := h
    exact h'
  | ok s =>
    obtain ⟨s₁, rfl, ⟨hp, hstopped⟩ | ⟨hp, rfl⟩⟩ := h
    · obtain ⟨s₂, rfl, ⟨_, hstopped'⟩ | ⟨_, rfl⟩⟩ := h'
      · exact ⟨s₂, rfl, .inl ⟨.inl hp, hstopped'⟩⟩
      · exact ⟨s₂, rfl, .inl ⟨.inl hp, hstopped⟩⟩
    · obtain ⟨s₂, rfl, ⟨hq, hstopped⟩ | ⟨hq, rfl⟩⟩ := h'
      · exact ⟨s₂, rfl, .inl ⟨.inr hq, hstopped⟩⟩
      · exact ⟨s₂, rfl, .inr ⟨not_or.mpr ⟨hp, hq⟩, rfl⟩⟩

/-- **The note of one run** stops the task that carries it, and no other task. -/
theorem recordFailedTask_noted (hrows : RowsHold rt db.tasks) {request : RunRequest}
    (h : recordFailedTask rt request now db = .ok db') (taskId : String) (owner : TaskOwner) :
    FailureNoted (fun s => request.BelongsTo taskId owner ∧ s.Carries request.runId)
      (WorkflowTaskService.get rt taskId owner db.tasks)
      (WorkflowTaskService.get rt taskId owner db'.tasks) := by
  rcases recordFailedTask_rows hrows h with ⟨hsame, hnothing⟩ | ⟨b, row, new, s, u, hwritten⟩
  · rw [hsame]
    refine .refl fun s hget ⟨⟨⟨b, hb, hid⟩, howner⟩, hcarries⟩ => ?_
    obtain ⟨s', hget', hrecorded⟩ := hnothing b hb
    rw [hid, howner, hget] at hget'
    cases hget'
    exact stopped_of_recorded hrecorded hcarries
  · obtain ⟨_, hrowid, hrowowner⟩ := rowFor_eq_some_iff.mp hwritten.found
    have hstopped : u.Stopped := by
      constructor
      · rw [hwritten.note.phase]
        rfl
      · rw [hwritten.note.budgetUsage]
        rfl
    rcases rowFor_replaced taskId owner hwritten.replaced hwritten.owner with
      ⟨hid, howner, hold, hnew⟩ | hsame
    · rw [get_ok.mpr ⟨row, hold, hwritten.decoded⟩, get_ok.mpr ⟨new, hnew, hwritten.written⟩]
      have hbound : request.BelongsTo taskId owner :=
        ⟨⟨b, hwritten.bound, hrowid.symm.trans hid.symm⟩, hrowowner.symm.trans howner.symm⟩
      exact .stops ⟨hbound, carries_of_news hwritten.news⟩ hstopped
    · rw [get_eq, get_eq, hsame]
      refine .refl fun s' hget ⟨⟨⟨b', hb', hid⟩, howner⟩, _⟩ => ?_
      obtain rfl : b = b' := Option.some.inj (hwritten.bound.symm.trans hb')
      have hbefore := hwritten.found
      rw [hid, howner] at hbefore
      have hafter : rowFor taskId owner db'.tasks = some new := rowFor_eq_some_iff.mpr
        ⟨hwritten.replaced.mem_new, hwritten.replaced.same_key.trans (hrowid.trans hid),
          hwritten.owner.trans (hrowowner.trans howner)⟩
      rw [hsame, hbefore] at hafter
      obtain rfl := Option.some.inj hafter
      obtain rfl : s = u := Except.ok.inj (hwritten.decoded.symm.trans hwritten.written)
      rw [← get_eq, get_ok.mpr ⟨row, hbefore, hwritten.decoded⟩] at hget
      cases hget
      exact hstopped

/-! ## Steps that end runs -/

/-- The run has not ended. -/
def LiveRun (q : QueueTables) (runId : String) : Prop :=
  ∃ r ∈ q.runs.rows, r.runId = runId ∧ r.state.isTerminal = false

/-- A step ends the runs of some requests without a result. -/
structure RunsFailed (rt : Runtime) (fails : RunRequest → Prop) (db db' : Database) : Prop where
  found : ∀ request, fails request → ∀ b ∈ request.task, ∃ s,
    WorkflowTaskService.get rt b.taskId (taskOwner request) db.tasks = .ok s
  noted : ∀ taskId owner, FailureNoted
    (fun s => ∃ request, fails request ∧ request.BelongsTo taskId owner ∧ s.Carries request.runId)
    (WorkflowTaskService.get rt taskId owner db.tasks)
    (WorkflowTaskService.get rt taskId owner db'.tasks)
  live : ∀ runId, LiveRun db'.queue runId ↔
    LiveRun db.queue runId ∧ ∀ request, fails request → request.runId ≠ runId

variable {p q : RunRequest → Prop}

theorem RunsFailed.none : RunsFailed rt (fun _ => False) db db where
  found _ h := h.elim
  noted _ _ := .refl fun _ _ ⟨_, h, _⟩ => h.elim
  live _ := ⟨fun h => ⟨h, fun _ h => h.elim⟩, And.left⟩

theorem RunsFailed.trans (h : RunsFailed rt p db db₁) (h' : RunsFailed rt q db₁ db') :
    RunsFailed rt (fun request => p request ∨ q request) db db' where
  found request hfails b hb := by
    rcases hfails with hfails | hfails
    · exact h.found request hfails b hb
    · obtain ⟨s₁, hs₁⟩ := h'.found request hfails b hb
      have hnoted := h.noted b.taskId (taskOwner request)
      rw [hs₁] at hnoted
      cases hget : WorkflowTaskService.get rt b.taskId (taskOwner request) db.tasks with
      | ok s => exact ⟨s, rfl⟩
      | error e =>
        rw [hget] at hnoted
        cases hnoted
  noted taskId owner := by
    refine ((h.noted taskId owner).trans (h'.noted taskId owner)).congr fun s => ?_
    constructor
    · rintro (⟨request, hfails, hs⟩ | ⟨request, hfails, hs⟩)
      · exact ⟨request, .inl hfails, hs⟩
      · exact ⟨request, .inr hfails, hs⟩
    · rintro ⟨request, hfails | hfails, hs⟩
      · exact .inl ⟨request, hfails, hs⟩
      · exact .inr ⟨request, hfails, hs⟩
  live runId := by
    rw [h'.live, h.live, and_assoc]
    refine and_congr_right fun _ => ⟨fun ⟨hp, hq⟩ request hfails => hfails.elim (hp request) (hq request),
      fun hpq => ⟨fun request hfails => hpq request (.inl hfails),
        fun request hfails => hpq request (.inr hfails)⟩⟩

/-- **One run that ends** and is recorded on its task. -/
theorem Moved.runsFailed {run : RunRow} {attempt : AttemptRow} {target : RunLifecycleState}
    {outcome : RunResultAvailability} {failure : Option RunFailure} (hrows : RowsHold rt db.tasks)
    (hinv : QueueInvariant rt db.queue) (hterminal : target.isTerminal = true)
    (hmoved : Moved db.queue db'.queue run attempt target outcome failure now)
    (h : recordFailedTask rt run.requestJson now { db with queue := db'.queue } = .ok db') :
    RunsFailed rt (fun request => request = run.requestJson) db db' where
  found request hfails b hb := by
    subst hfails
    rcases recordFailedTask_rows (by exact hrows) h with ⟨_, hnothing⟩ | ⟨b', row, _, s, _, hwritten⟩
    · obtain ⟨s, hget, _⟩ := hnothing b hb
      exact ⟨s, hget⟩
    · obtain rfl : b' = b := Option.some.inj (hwritten.bound.symm.trans hb)
      exact ⟨s, get_ok.mpr ⟨row, hwritten.found, hwritten.decoded⟩⟩
  noted taskId owner := by
    have hnoted := recordFailedTask_noted (by exact hrows) h taskId owner
    refine hnoted.congr fun s => ?_
    constructor
    · exact fun hs => ⟨_, rfl, hs⟩
    · rintro ⟨_, rfl, hs⟩
      exact hs
  live runId := by
    have hid : run.requestJson.runId = run.runId := (hinv.runs run hmoved.runs.mem_old).run_id.symm
    constructor
    · rintro ⟨r, hr, rfl, hopen⟩
      rcases hmoved.runs.mem_cases hr with rfl | ⟨hr, hne⟩
      · rw [show (run.move target outcome failure _ now).state = target from rfl, hterminal] at hopen
        cases hopen
      · refine ⟨⟨r, hr, rfl, hopen⟩, ?_⟩
        rintro _ rfl
        rw [hid]
        exact Ne.symm hne
    · rintro ⟨⟨r, hr, rfl, hopen⟩, hother⟩
      have hne := hother _ rfl
      rw [hid] at hne
      exact ⟨r, hmoved.runs.mem_of_ne hr hne.symm, rfl, hopen⟩

theorem RunsFailed.congr (h : RunsFailed rt p db db') (hpq : ∀ request, p request ↔ q request) :
    RunsFailed rt q db db' := by
  obtain rfl : p = q := funext fun request => propext (hpq request)
  exact h

/-- **Reaping** ends the runs of the attempts, and each is recorded on its task. -/
theorem reap_runsFailed : ∀ {rows : List AttemptRow} {db db' : Database},
    QueueInvariant rt db.queue → RowsHold rt db.tasks → rows.Nodup →
    (∀ a ∈ rows, a ∈ db.queue.runAttempts.rows ∧ a.state.isActive = true) →
    rows.foldlM (reapAttempt rt now) db = .ok db' →
    RunsFailed rt (fun request => ∃ a ∈ rows, ∃ run ∈ db.queue.runs.rows,
      run.runId = a.runId ∧ request = run.requestJson) db db'
  | [], _, _, _, _, _, _, h => by
    cases pure_ok h
    exact RunsFailed.none.congr fun _ => ⟨False.elim, fun ⟨_, ha, _⟩ => absurd ha List.not_mem_nil⟩
  | row :: rows, db, db', hinv, hrows, hnodup, hmem, h => by
    rw [List.foldlM_cons] at h
    obtain ⟨db₁, hone, hrest⟩ := bind_ok h
    obtain ⟨hrow, hactive⟩ := hmem row List.mem_cons_self
    obtain ⟨run, hmoved, hrecord⟩ := reapAttempt_ok hinv hrow hactive hone
    rw [List.nodup_cons] at hnodup
    have hfirst := hmoved.runsFailed hrows hinv rfl hrecord
    -- the runs of the other attempts are other runs
    have hother : ∀ a ∈ rows, a.runId ≠ run.runId := by
      intro a ha he
      have hone := hinv.once a (hmem a (List.mem_cons_of_mem _ ha)).1 row hrow (he.trans hmoved.same_run.symm)
      rw [hone] at ha
      exact hnodup.1 ha
    have hinv₁ : QueueInvariant rt db₁.queue :=
      QueueChange.keeps hinv (.moved _ _ _ _ _ _ hmoved)
    have hrest := reap_runsFailed hinv₁ (recordFailedTask_rowsHold (by exact hrows) hrecord) hnodup.2
      (fun a ha => by
        obtain ⟨ha', hact⟩ := hmem a (List.mem_cons_of_mem _ ha)
        exact ⟨hmoved.attempts.mem_of_ne' ha' (by rintro rfl; exact hnodup.1 ha), hact⟩) hrest
    refine (hfirst.trans hrest).congr fun request => ?_
    constructor
    · rintro (rfl | ⟨a, ha, r, hr, hid, rfl⟩)
      · exact ⟨row, List.mem_cons_self, run, hmoved.runs.mem_old, hmoved.same_run.symm, rfl⟩
      · exact ⟨a, List.mem_cons_of_mem _ ha, r,
          (hmoved.other_run (hid.trans_ne (hother a ha))).mp hr, hid, rfl⟩
    · rintro ⟨a, ha, r, hr, hid, rfl⟩
      rcases List.mem_cons.mp ha with rfl | ha
      · left
        rw [Table.eq_of_key hr hmoved.runs.mem_old (hid.trans hmoved.same_run)]
      · exact .inr ⟨a, ha, r, (hmoved.other_run (hid.trans_ne (hother a ha))).mpr hr, hid, rfl⟩

/-! ## The calls that fail runs -/

/-- A call that ends runs without a result. -/
inductive FailureCall where
  | commitTerminalFailure (claim : RunClaim) (target : RunLifecycleState) (failure : RunFailure)
      (now : Instant)
  | reapExpiredLeases (now : Instant)

def FailureCall.call : FailureCall → QueueCall
  | commitTerminalFailure claim target failure now =>
    .commitTerminalFailure claim target failure now
  | reapExpiredLeases now => .reapExpiredLeases now

/-- The run ends with the call: it is the claimed one, or its lease has run out. -/
def FailureCall.Fails (q : QueueTables) : FailureCall → RunRow → Prop
  | commitTerminalFailure claim _ _ _, run => run.runId = claim.runRequest.runId
  | reapExpiredLeases now, run => ∃ a ∈ expiredAttempts now q, run.runId = a.runId

/-- **Both calls** end the runs that they fail, and these are recorded on their tasks. -/
theorem FailureCall.runsFailed {call : FailureCall} {o : Reply} (hinv : QueueInvariant rt db.queue)
    (hrows : RowsHold rt db.tasks) (h : call.call.exec rt db = .ok (o, db')) :
    RunsFailed rt (fun request => ∃ run ∈ db.queue.runs.rows, call.Fails db.queue run ∧
      request = run.requestJson) db db' := by
  cases call with
  | commitTerminalFailure claim target failure now =>
    obtain ⟨record, h, _⟩ := reply_ok h
    obtain ⟨run, row, hmoved, htarget, hrecord⟩ := commitTerminalFailure_ok hinv h
    have hterminal : target.isTerminal = true := by rcases htarget with rfl | rfl | rfl <;> rfl
    refine (hmoved.moved.runsFailed hrows hinv hterminal hrecord).congr fun request => ?_
    constructor
    · rintro rfl
      exact ⟨run, hmoved.moved.runs.mem_old, hmoved.run_id, rfl⟩
    · rintro ⟨r, hr, hid, rfl⟩
      rw [Table.eq_of_key hr hmoved.moved.runs.mem_old (Eq.trans hid hmoved.run_id.symm)]
  | reapExpiredLeases now =>
    obtain ⟨n, h, _⟩ := reply_ok h
    obtain ⟨db₁, hfold, h⟩ := bind_ok h
    obtain ⟨_, rfl⟩ := Prod.mk.inj (pure_ok h)
    refine (reap_runsFailed hinv hrows (expiredAttempts_nodup now db.queue) (fun a ha => ?_)
      hfold).congr fun request => ?_
    · obtain ⟨hmem, hactive, _⟩ := mem_expiredAttempts.mp ha
      exact ⟨hmem, hactive⟩
    · constructor
      · rintro ⟨a, ha, run, hrun, hid, rfl⟩
        exact ⟨run, hrun, ⟨a, ha, hid⟩, rfl⟩
      · rintro ⟨run, hrun, ⟨a, ha, hid⟩, rfl⟩
        exact ⟨a, ha, run, hrun, hid, rfl⟩

/-! ## Accounting -/

/-- The task accounts for a run that has failed. -/
structure WorkflowTaskSnapshot.AccountsFor (s : WorkflowTaskSnapshot) (q : QueueTables)
    (runId : String) : Prop where
  /-- The failed run is not the one that the task waits for. -/
  released : ¬ (s.phase = .active ∧ s.latestRunId = some runId)
  /-- What the task has used is unknown. -/
  unknown : s.budgetUsage.tokens = none
  /-- The task is active only with a live run. -/
  live : s.phase = .active → ∃ id ∈ s.latestRunId, LiveRun q id

/-- The task of a failed run accounts for it. -/
def FailureAccounted (rt : Runtime) (db : Database) (request : RunRequest) (b : TaskBinding) :
    Prop :=
  ∃ s, WorkflowTaskService.get rt b.taskId (taskOwner request) db.tasks = .ok s ∧
    s.AccountsFor db.queue request.runId

/-- The call ends the latest run of the task, which goes on with the goal of that run. -/
def FailureCall.Stops (call : FailureCall) (q : QueueTables) (taskId : String) (owner : TaskOwner)
    (s : WorkflowTaskSnapshot) : Prop :=
  ∃ run ∈ q.runs.rows, call.Fails q run ∧ run.requestJson.BelongsTo taskId owner ∧
    s.Carries run.runId

/-- The task was stopped before, or goes on with a run that the call leaves live. -/
structure FailureCall.Spares (call : FailureCall) (q : QueueTables) (s : WorkflowTaskSnapshot) :
    Prop where
  unknown : s.budgetUsage.tokens = none
  live : s.phase = .active → ∃ run ∈ q.runs.rows, s.latestRunId = some run.runId ∧
    run.state.isTerminal = false ∧ ¬ call.Fails q run

variable {call : FailureCall}

instance (q : QueueTables) (runId : String) : Decidable (LiveRun q runId) :=
  inferInstanceAs (Decidable (∃ r ∈ q.runs.rows, _ ∧ _))

instance (s : WorkflowTaskSnapshot) (q : QueueTables) (runId : String) :
    Decidable (s.AccountsFor q runId) :=
  decidable_of_iff (¬ (s.phase = .active ∧ s.latestRunId = some runId) ∧
      s.budgetUsage.tokens = none ∧ (s.phase = .active → ∃ id ∈ s.latestRunId, LiveRun q id))
    ⟨fun h => ⟨h.1, h.2.1, h.2.2⟩, fun h => ⟨h.released, h.unknown, h.live⟩⟩

instance (rt : Runtime) (db : Database) (request : RunRequest) (b : TaskBinding) :
    Decidable (FailureAccounted rt db request b) :=
  decidable_of_iff (∃ s ∈ (WorkflowTaskService.get rt b.taskId (taskOwner request) db.tasks).toOption,
      s.AccountsFor db.queue request.runId) (by
    unfold FailureAccounted
    cases WorkflowTaskService.get rt b.taskId (taskOwner request) db.tasks <;> simp [Except.toOption])

instance (call : FailureCall) (q : QueueTables) (run : RunRow) : Decidable (call.Fails q run) :=
  match call with
  | .commitTerminalFailure claim _ _ _ =>
    inferInstanceAs (Decidable (run.runId = claim.runRequest.runId))
  | .reapExpiredLeases now =>
    inferInstanceAs (Decidable (∃ a ∈ expiredAttempts now q, run.runId = a.runId))

/-- A stopped task accounts for every run. -/
theorem WorkflowTaskSnapshot.Stopped.accountsFor {s : WorkflowTaskSnapshot} (h : s.Stopped)
    (q : QueueTables) (runId : String) : s.AccountsFor q runId where
  released hactive := by
    have hpaused := h.1
    rw [hactive.1] at hpaused
    cases hpaused
  unknown := h.2
  live hactive := by
    have hpaused := h.1
    rw [hactive] at hpaused
    cases hpaused

/-- The runs that stay live are the live ones that do not fail. -/
theorem RunsFailed.live_iff (hinv : QueueInvariant rt db.queue) {runId : String}
    (h : RunsFailed rt (fun request => ∃ run ∈ db.queue.runs.rows, call.Fails db.queue run ∧
      request = run.requestJson) db db') :
    LiveRun db'.queue runId ↔ ∃ run ∈ db.queue.runs.rows, run.runId = runId ∧
      run.state.isTerminal = false ∧ ¬ call.Fails db.queue run := by
  have hid : ∀ run ∈ db.queue.runs.rows, run.requestJson.runId = run.runId :=
    fun run hrun => (hinv.runs run hrun).run_id.symm
  rw [h.live]
  constructor
  · rintro ⟨⟨run, hrun, rfl, hopen⟩, hother⟩
    exact ⟨run, hrun, rfl, hopen, fun hfails => hother _ ⟨run, hrun, hfails, rfl⟩ (hid run hrun)⟩
  · rintro ⟨run, hrun, rfl, hopen, hnot⟩
    refine ⟨⟨run, hrun, rfl, hopen⟩, ?_⟩
    rintro _ ⟨other, hother, hfails, rfl⟩ he
    rw [hid other hother] at he
    rw [Table.eq_of_key hother hrun he] at hfails
    exact hnot hfails

/-- **A failed run is accounted for** exactly if the call ends the latest run of its task, which
goes on with the goal of that run, or the task was stopped before or goes on with a live run. -/
theorem failure_accounted_iff {o : Reply} (hinv : QueueInvariant rt db.queue)
    (hrows : RowsHold rt db.tasks) (h : call.call.exec rt db = .ok (o, db')) {run : RunRow}
    (hrun : run ∈ db.queue.runs.rows) (hfails : call.Fails db.queue run) {b : TaskBinding}
    (hb : b ∈ run.requestJson.task) :
    FailureAccounted rt db' run.requestJson b ↔
      ∃ s, WorkflowTaskService.get rt b.taskId (taskOwner run.requestJson) db.tasks = .ok s ∧
        (call.Stops db.queue b.taskId (taskOwner run.requestJson) s ∨ call.Spares db.queue s) := by
  have hfailed := call.runsFailed hinv hrows h
  obtain ⟨s, hget⟩ := hfailed.found _ ⟨run, hrun, hfails, rfl⟩ b hb
  have hnoted := hfailed.noted b.taskId (taskOwner run.requestJson)
  have hid : ∀ run ∈ db.queue.runs.rows, run.requestJson.runId = run.runId :=
    fun run hrun => (hinv.runs run hrun).run_id.symm
  rw [hget] at hnoted
  unfold FailureAccounted
  rw [hget]
  obtain ⟨s', hget', ⟨⟨_, ⟨r, hr, hrfails, rfl⟩, hbelongs, hcarries⟩, hstopped⟩ | ⟨hnot, rfl⟩⟩ := hnoted
  · rw [hid r hr] at hcarries
    exact iff_of_true ⟨s', hget', hstopped.accountsFor _ _⟩
      ⟨s, rfl, .inl ⟨r, hr, hrfails, hbelongs, hcarries⟩⟩
  · constructor
    · rintro ⟨s₁, hs₁, haccounts⟩
      obtain rfl := Except.ok.inj (hget'.symm.trans hs₁)
      refine ⟨_, rfl, .inr ⟨haccounts.unknown, fun hactive => ?_⟩⟩
      obtain ⟨id, hlatest, hlive⟩ := haccounts.live hactive
      obtain ⟨r, hr, rfl, hopen, hspared⟩ := (hfailed.live_iff hinv).mp hlive
      exact ⟨r, hr, hlatest, hopen, hspared⟩
    · rintro ⟨s₁, hs₁, hstops | hspares⟩
      · obtain rfl := Except.ok.inj hs₁
        obtain ⟨r, hr, hrfails, hbelongs, hcarries⟩ := hstops
        rw [← hid r hr] at hcarries
        exact absurd ⟨_, ⟨r, hr, hrfails, rfl⟩, hbelongs, hcarries⟩ hnot
      · obtain rfl := Except.ok.inj hs₁
        refine ⟨_, hget', ⟨fun ⟨hactive, hlatest⟩ => ?_, hspares.unknown, fun hactive => ?_⟩⟩
        · obtain ⟨r, hr, hlatest', _, hspared⟩ := hspares.live hactive
          rw [hid run hrun, hlatest'] at hlatest
          rw [Table.eq_of_key hr hrun (Option.some.inj hlatest)] at hspared
          exact hspared hfails
        · obtain ⟨r, hr, hlatest, hopen, hspared⟩ := hspares.live hactive
          exact ⟨r.runId, hlatest, (hfailed.live_iff hinv).mpr ⟨r, hr, rfl, hopen, hspared⟩⟩

/-- **Failed runs are accounted for** after any history, whatever was done to their tasks
meanwhile, exactly under these conditions. -/
theorem history_failures_accounted_iff {calls : List Call} {call : FailureCall} {o : Reply}
    (h : exec rt (.queue call.call) (after (exec rt) Database.initial calls) = .ok (o, db'))
    {run : RunRow} (hrun : run ∈ (after (exec rt) Database.initial calls).queue.runs.rows)
    (hfails : call.Fails (after (exec rt) Database.initial calls).queue run) {b : TaskBinding}
    (hb : b ∈ run.requestJson.task) :
    FailureAccounted rt db' run.requestJson b ↔
      ∃ s, WorkflowTaskService.get rt b.taskId (taskOwner run.requestJson)
          (after (exec rt) Database.initial calls).tasks = .ok s ∧
        (call.Stops (after (exec rt) Database.initial calls).queue b.taskId
            (taskOwner run.requestJson) s ∨
          call.Spares (after (exec rt) Database.initial calls).queue s) :=
  have hreach : Reachable rt (after (exec rt) Database.initial calls) := ⟨calls, rfl⟩
  failure_accounted_iff hreach.queue hreach.rowsHold h hrun hfails hb

instance (request : RunRequest) (taskId : String) (owner : TaskOwner) :
    Decidable (request.BelongsTo taskId owner) :=
  inferInstanceAs (Decidable (_ ∧ _))

instance (s : WorkflowTaskSnapshot) (runId : String) : Decidable (s.Carries runId) :=
  inferInstanceAs (Decidable (_ ∧ _ ∧ _))

instance (call : FailureCall) (q : QueueTables) (taskId : String) (owner : TaskOwner)
    (s : WorkflowTaskSnapshot) : Decidable (call.Stops q taskId owner s) :=
  inferInstanceAs (Decidable (∃ run ∈ q.runs.rows, _ ∧ _ ∧ _))

theorem exists_of_checked {ε α : Type} {x : Except ε α} {P : α → Prop} [DecidablePred P]
    (h : x.map (fun a => decide (P a)) = .ok true) : ∃ a, x = .ok a ∧ P a := by
  cases x with
  | error e => cases h
  | ok a => exact ⟨a, rfl, of_decide_eq_true (Except.ok.inj h)⟩

namespace Sample

/-- The first run of a task is claimed. -/
def running : List Call :=
  [.createTask createArguments] ++ activated ++ [.queue (.claimNext (claim "attempt" (seconds 1)))]

def secondGoal : GoalContract :=
  ⟨{ taskId := "task", revision := 2, objective := "second objective", sourceInputRef := "input"
     acceptanceCriteria := [{ criterionId := "c", description := "d", verifier := .sourceSupport }] },
    by decide⟩

/-- The goal is revised while the run goes on. -/
def revised : List Call :=
  running ++ [.task (.reviseGoal "task" secondGoal Sample.owner 1 (seconds 2))]

/-- The reaper comes when the lease has run out. -/
def reaping : FailureCall := .reapExpiredLeases (seconds 60)

def database (calls : List Call) : Database := after (exec uuidRuntime) Database.initial calls

/-- The task is found with what the reaper stops. -/
theorem running_stops : ∃ run ∈ (database running).queue.runs.rows,
    reaping.Fails (database running).queue run ∧ ∃ b ∈ run.requestJson.task,
      ((WorkflowTaskService.get uuidRuntime b.taskId (taskOwner run.requestJson)
        (database running).tasks).map fun s => decide (reaping.Stops (database running).queue
          b.taskId (taskOwner run.requestJson) s)) = .ok true := by
  decide +kernel

end Sample

/-- The reaper accounts for a run that was lost while its task waited for it. -/
theorem lostRun_accounted :
    ∃ o db', exec Sample.uuidRuntime (.queue Sample.reaping.call) (Sample.database Sample.running) =
        .ok (o, db') ∧
      ∃ run ∈ (Sample.database Sample.running).queue.runs.rows, ∃ b ∈ run.requestJson.task,
        FailureAccounted Sample.uuidRuntime db' run.requestJson b := by
  have hdone : (exec Sample.uuidRuntime (.queue Sample.reaping.call)
      (Sample.database Sample.running)).map (fun _ => decide True) = .ok true := by
    decide +kernel
  obtain ⟨⟨o, db'⟩, h, _⟩ := exists_of_checked hdone
  obtain ⟨run, hrun, hfails, b, hb, hstops⟩ := Sample.running_stops
  obtain ⟨s, hget, hstops⟩ := exists_of_checked hstops
  exact ⟨o, db', h, run, hrun, b, hb,
    (history_failures_accounted_iff h hrun hfails hb).mpr ⟨s, hget, .inl hstops⟩⟩

/-- **A failure after a revision of the goal is not accounted for**: the task stays active on the
failed run, with the usage that it had. -/
theorem revisedGoal_unaccounted :
    ∃ o db', exec Sample.uuidRuntime (.queue Sample.reaping.call) (Sample.database Sample.revised) =
        .ok (o, db') ∧
      ∃ run ∈ (Sample.database Sample.revised).queue.runs.rows,
        Sample.reaping.Fails (Sample.database Sample.revised).queue run ∧
          ∃ b ∈ run.requestJson.task, ¬ FailureAccounted Sample.uuidRuntime db' run.requestJson b := by
  have hdone : (exec Sample.uuidRuntime (.queue Sample.reaping.call)
      (Sample.database Sample.revised)).map (fun r => decide
        (∃ run ∈ (Sample.database Sample.revised).queue.runs.rows,
          Sample.reaping.Fails (Sample.database Sample.revised).queue run ∧
            ∃ b ∈ run.requestJson.task,
              ¬ FailureAccounted Sample.uuidRuntime r.2 run.requestJson b)) = .ok true := by
    decide +kernel
  obtain ⟨⟨o, db'⟩, h, hrun⟩ := exists_of_checked hdone
  exact ⟨o, db', h, hrun⟩

end ProofAgent
