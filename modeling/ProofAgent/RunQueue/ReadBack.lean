import ProofAgent.RunQueue.Returns

/-! # What was written reads back

Rows are rewritten by unvalidated copies, under the clocks of many processes, and
validated when they are read. The check constraints refuse a write that is earlier
than the row, so every committed row passes its validators. A row can then stop
a call in one way only: the call's clock is earlier than the row. -/
namespace ProofAgent

open Base RunQueueRepository

variable {rt : Runtime} {db : Database}

/-! ## Pages -/

theorem mem_pageRows {ilike : String → String → Bool} {p : PageArguments} {q : QueueTables}
    {r : RunRow} (h : r ∈ pageRows ilike p q) : r ∈ q.runs.rows := by
  have hsorted := List.mem_of_mem_drop (List.mem_of_mem_take h)
  rw [List.mem_insertionSort, List.mem_filter] at hsorted
  exact hsorted.1

theorem mapM_toRecord {rows : List RunRow} (h : ∀ r ∈ rows, r.Sound rt) :
    rows.mapM (RunRow.toRecord rt) = .ok (rows.map RunRow.record) := by
  induction rows with
  | nil => rfl
  | cons r rest ih =>
    rw [List.mapM_cons, (h r (by simp)).toRecord, ok_bind, ih fun s hs => h s (by simp [hs])]
    rfl

theorem listPage_eq (hinv : QueueInvariant rt db.queue) {ilike : String → String → Bool}
    {p : PageArguments} (hp : p.Accepted) :
    listPage rt ilike p db =
      .ok ((pageRows ilike p db.queue).map RunRow.record,
        db.queue.runs.count (p.selects ilike)) := by
  unfold listPage
  rw [require_true _ hp, ok_bind, mapM_toRecord fun r hr => hinv.runs r (mem_pageRows hr)]
  rfl

theorem getRun_eq (hinv : QueueInvariant rt db.queue) {runId : String} (h : isUuid runId = true) :
    RunQueueRepository.get rt runId db =
      .ok ((db.queue.runs.find? runId).map RunRow.record) := by
  unfold RunQueueRepository.get
  rw [require_true _ h, ok_bind]
  cases hfound : db.queue.runs.find? runId with
  | none => rfl
  | some row =>
    dsimp only
    rw [(hinv.runs row (Table.find?_some hfound).1).toRecord]
    rfl

/-! ## Claims -/

/-- A call of `claim_next` by an active executor. -/
structure Calling (db : Database) (c : ClaimArguments) : Prop where
  lease : 1 ≤ c.leaseSeconds ∧ c.leaseSeconds ≤ maxAttemptDeadlineSeconds
  deadline : 1 ≤ c.deadlineSeconds ∧ c.deadlineSeconds ≤ maxAttemptDeadlineSeconds
  shorter : c.leaseSeconds < c.deadlineSeconds
  active : requireActiveRole c.slot c.executorId c.activationEpoch c.now false db = .ok ()
  fresh : ∀ a ∈ db.queue.runAttempts.rows, a.attemptId ≠ c.attemptId

theorem Calling.claimNext_eq {c : ClaimArguments} (h : Calling db c) :
    claimNext rt c db =
      if maxActiveAttempts ≤ db.queue.runAttempts.count hasActiveAttempt then .ok (none, db)
      else match fairClaimSelect db.queue with
        | none => .ok (none, db)
        | some row => do
          let (claim, db) ← claimRow rt c row db
          return (some claim, db) := by
  unfold claimNext
  rw [require_true _ h.lease, require_true _ h.deadline, require_true _ h.shorter, h.active]
  rfl

/-- **A claim** returns unless there is capacity for a run that is later than its clock. -/
theorem claimNext_returns_iff (hinv : QueueInvariant rt db.queue) {c : ClaimArguments}
    {P : String → Prop} (h : Calling db c) (hresolves : Resolves c.snapshotFactory P)
    (hgood : ∀ row, fairClaimSelect db.queue = some row → ¬ P row.runId) :
    (∃ r, claimNext rt c db = .ok r) ↔
      maxActiveAttempts ≤ db.queue.runAttempts.count hasActiveAttempt ∨
        ∀ row, fairClaimSelect db.queue = some row → row.enqueuedAt ≤ c.now := by
  by_cases hfull : maxActiveAttempts ≤ db.queue.runAttempts.count hasActiveAttempt
  · rw [h.claimNext_eq, if_pos hfull]
    exact ⟨fun _ => .inl hfull, fun _ => ⟨_, rfl⟩⟩
  · cases hselected : fairClaimSelect db.queue with
    | none =>
      rw [h.claimNext_eq, if_neg hfull, hselected]
      exact ⟨fun _ => .inr (by simp), fun _ => ⟨_, rfl⟩⟩
    | some row =>
      have hserving : Serving db c :=
        ⟨h.lease, h.deadline, h.shorter, h.active, Nat.not_le.mp hfull, h.fresh⟩
      constructor
      · rintro ⟨⟨claim, db'⟩, hok⟩
        obtain ⟨_, ⟨_, _, hfull' | hnone⟩ | ⟨row', claim', _, hc, _⟩⟩ := claimNext_ok hinv hok
        · exact absurd hfull' hfull
        · rw [hselected] at hnone; cases hnone
        · cases hselected.symm.trans hc.selected
          right
          rintro _ ⟨⟩
          rw [← (hinv.runs row (fairClaimSelect_some hselected).1).created]
          exact hc.created
      · rintro (hfull' | hnow)
        · exact absurd hfull' hfull
        · obtain ⟨claim, db', hok⟩ := claimNext_claims hinv hserving hresolves hselected
            (hgood row hselected) (hnow row rfl)
          exact ⟨_, hok⟩

/-! ## Cancellations -/

theorem cancellableAttempt_some (hinv : QueueInvariant rt db.queue) {run : RunRow}
    (hrun : run ∈ db.queue.runs.rows) (hactive : run.state.isActive = true) :
    ∃ a ∈ db.queue.runAttempts.rows, a.runId = run.runId ∧ a.state = run.state ∧
      cancellableAttempt run.runId run.state db.queue = some a := by
  obtain ⟨a, ha, hid, hstate⟩ := hinv.attempt_of hrun hactive
  have hfilter : db.queue.runAttempts.rows.filter
      (fun b => decide (b.runId = run.runId) && decide (b.state = run.state)) ≠ [] := by
    refine List.ne_nil_of_mem (a := a) (List.mem_filter.mpr ⟨ha, ?_⟩)
    simp [hid, hstate]
  unfold cancellableAttempt
  cases hsort : (db.queue.runAttempts.rows.filter fun b => decide (b.runId = run.runId) &&
      decide (b.state = run.state)).insertionSort fun a b => b.attemptNumber ≤ a.attemptNumber with
  | nil =>
    have hlength := congrArg List.length hsort
    rw [List.length_insertionSort, List.length_nil] at hlength
    exact absurd (List.eq_nil_of_length_eq_zero hlength) hfilter
  | cons b rest =>
    have hb : b ∈ db.queue.runAttempts.rows.filter
        (fun b => decide (b.runId = run.runId) && decide (b.state = run.state)) := by
      rw [← List.mem_insertionSort (fun a b => b.attemptNumber ≤ a.attemptNumber), hsort]
      exact List.mem_cons_self
    rw [List.mem_filter] at hb
    simp only [Bool.and_eq_true, decide_eq_true_eq] at hb
    exact ⟨b, hb.1, hb.2.1, hb.2.2, rfl⟩

theorem requestCancel_queued (hinv : QueueInvariant rt db.queue) {run : RunRow}
    (hrun : run ∈ db.queue.runs.rows) (hqueued : run.state = .queued) {now : Instant}
    (hnow : run.createdAt ≤ now) :
    ∃ r, requestCancel rt run.runId run.submittedBy now db = .ok r := by
  have hsound := hinv.runs run hrun
  have howner : run.record.request.operatorSubject = run.submittedBy := hsound.operator.symm
  have hstate : run.record.state = .queued := hqueued
  have hmoved := hsound.move (@moveOutcome.failing .cancelled { code := .cancelled } rfl
    (by decide)) rfl hnow
  obtain ⟨q₁, hwrite⟩ := writeRun_of { run.record.moved .cancelled now with
      failure := some { code := .cancelled }, completedAt := some now } hrun
    hsound.run_id.symm ⟨Nat.succ_pos _, hnow, fun hr => by
      rw [show (run.assign _).result = run.result from rfl,
        (hsound.quiet (by rw [hqueued]; rfl)).1] at hr
      cases hr⟩
  unfold requestCancel
  rw [lockedRunRecord_of hrun hsound, ok_bind, require_true _ howner, ok_bind, hstate,
    if_neg (by decide), if_pos rfl]
  dsimp only
  rw [hqueued] at hwrite
  rw [show assertRunTransition .queued .cancelled = .ok () from rfl, ok_bind,
    show run.record.stateVersion = run.stateVersion from rfl, hwrite]
  exact ⟨_, rfl⟩

theorem requestCancel_active (hinv : QueueInvariant rt db.queue) {run : RunRow}
    (hrun : run ∈ db.queue.runs.rows) (hstate : run.state = .running ∨ run.state = .finalizing)
    {now : Instant} (hnow : run.createdAt ≤ now)
    (hattempts : ∀ a ∈ db.queue.runAttempts.rows, a.runId = run.runId → a.createdAt ≤ now) :
    ∃ r, requestCancel rt run.runId run.submittedBy now db = .ok r := by
  have hsound := hinv.runs run hrun
  have howner : run.record.request.operatorSubject = run.submittedBy := hsound.operator.symm
  have hactive : run.state.isActive = true := by rcases hstate with h | h <;> rw [h] <;> rfl
  have hterminal := RunLifecycleState.active_not_terminal hactive
  have hallowed : run.state.allowed .cancelRequested = true := by
    rcases hstate with h | h <;> rw [h] <;> rfl
  obtain ⟨a, ha, hid, hsame, hfound⟩ := cancellableAttempt_some hinv hrun hactive
  have hsoundA := hinv.attempts a ha
  obtain ⟨q₁, q₂, hwrite, _, hwriteRun, _⟩ := move_returns hinv ha hrun hid.symm
    (hsame ▸ hactive) (hsame ▸ hallowed) (@moveOutcome.going .cancelRequested rfl)
    ⟨hnow, hattempts a ha hid⟩ (hsoundA.moved_eq (hsame ▸ hterminal) _ _)
    (run.record.moved .cancelRequested now) rfl
    (hsound.assign_moved hterminal .cancelRequested now)
  have hrecord : run.record.state = run.state := rfl
  have hversion : run.record.stateVersion = run.stateVersion := rfl
  have htransition : assertRunTransition a.attemptJson.state .cancelRequested = .ok () := by
    rw [hsoundA.state_eq, hsame]
    exact require_true _ hallowed
  have hgoing : ¬ (run.state.isTerminal = true ∨ run.state = .cancelRequested) := by
    rcases hstate with h | h <;> rw [h] <;> decide
  have hclaimed : ¬ run.state = .queued := RunLifecycleState.active_ne_queued hactive
  unfold requestCancel
  rw [lockedRunRecord_of hrun hsound, ok_bind, require_true _ howner, ok_bind, hrecord,
    if_neg hgoing, if_neg hclaimed, require_true _ hstate, ok_bind, hfound, orRaise_some, ok_bind,
    hsoundA.attemptFromRow, ok_bind, htransition, ok_bind, hwrite, ok_bind]
  dsimp only
  rw [hversion, hwriteRun]
  exact ⟨_, rfl⟩

/-- **A cancellation by the operator of the run** returns unless its clock is earlier than
the run, or the attempt, that it would have to rewrite. -/
theorem requestCancel_returns_iff (hinv : QueueInvariant rt db.queue) {run : RunRow}
    (hrun : run ∈ db.queue.runs.rows) {now : Instant} :
    (∃ r, requestCancel rt run.runId run.submittedBy now db = .ok r) ↔
      run.state.isTerminal = true ∨ run.state = .cancelRequested ∨
        (run.createdAt ≤ now ∧
          ∀ a ∈ db.queue.runAttempts.rows, a.runId = run.runId → a.createdAt ≤ now) := by
  have hsound := hinv.runs run hrun
  have howner : run.record.request.operatorSubject = run.submittedBy := hsound.operator.symm
  have hrecord : run.record.state = run.state := rfl
  constructor
  · rintro ⟨⟨record, db'⟩, hok⟩
    obtain ⟨run', hrun', hid, hcases⟩ := requestCancel_ok hinv hok
    obtain rfl := Table.eq_of_key hrun' hrun hid
    rcases hcases with ⟨_, _, hended⟩ | ⟨hw, _⟩ | ⟨row, hm, _⟩
    · rcases hended with hended | hended
      · exact .inl hended
      · exact .inr (.inl hended)
    · refine .inr (.inr ⟨hw.created, fun a ha he => ?_⟩)
      exact absurd ((hinv.run_of ha hrun he.symm).1.symm.trans hw.queued)
        (hinv.attempts a ha).constraints.2.2.2.1
    · refine .inr (.inr ⟨hm.created.1, fun a ha he => ?_⟩)
      rw [hinv.once a ha row hm.attempts.mem_old (he.trans hm.same_run.symm)]
      exact hm.created.2
  · intro h
    by_cases hended : run.state.isTerminal = true ∨ run.state = .cancelRequested
    · unfold requestCancel
      rw [lockedRunRecord_of hrun hsound, ok_bind, require_true _ howner, ok_bind, hrecord,
        if_pos hended]
      exact ⟨_, rfl⟩
    · obtain ⟨hcreated, hattempts⟩ : run.createdAt ≤ now ∧
          ∀ a ∈ db.queue.runAttempts.rows, a.runId = run.runId → a.createdAt ≤ now := by
        rcases h with h | h | h
        · exact absurd (.inl h) hended
        · exact absurd (.inr h) hended
        · exact h
      rcases RunLifecycleState.trichotomy run.state with hqueued | hactive | hterminal
      · exact requestCancel_queued hinv hrun hqueued hcreated
      · refine requestCancel_active hinv hrun ?_ hcreated hattempts
        revert hactive hended
        cases run.state <;> simp [RunLifecycleState.isActive]
      · exact absurd (.inl hterminal) hended

/-! ## Lost executors -/

/-- Reaping raises only where a failure is recorded on a task. -/
theorem reap_raises {now : Instant} {e : Error} : ∀ {rows : List AttemptRow} {db : Database},
    QueueInvariant rt db.queue → QueueClocked db.queue → rows.Nodup →
    (∀ row ∈ rows, row ∈ db.queue.runAttempts.rows ∧ row.state.isActive = true ∧
      row.leaseExpiresAt ≤ now) →
    rows.foldlM (reapAttempt rt now) db = .error e →
    ∃ request db₁, recordFailedTask rt request now db₁ = .error e
  | [], _, _, _, _, _, h => by cases h
  | row :: rows, db, hinv, hclocked, hnodup, hmem, h => by
    obtain ⟨hrow, hactive, hlease⟩ := hmem row (by simp)
    obtain ⟨run, hrun, hsame, _⟩ := hinv.mirror row hrow
    obtain ⟨q', hmoved, heq⟩ := reapAttempt_eq hinv hrow hactive hrun hsame
      (hclocked.expired hinv hrow hrun hsame hlease)
    rw [List.foldlM_cons, heq] at h
    cases hrecord : recordFailedTask rt run.requestJson now { db with queue := q' } with
    | error e' =>
      rw [hrecord] at h
      cases h
      exact ⟨_, _, hrecord⟩
    | ok db₁ =>
      rw [hrecord, ok_bind] at h
      have hqueue : db₁.queue = q' := by rw [recordFailedTask_frame hrecord]
      have hchange : QueueChange rt db.queue db₁.queue := by
        rw [hqueue]
        exact .moved _ _ _ _ _ _ hmoved
      rw [List.nodup_cons] at hnodup
      refine reap_raises (hchange.keeps hinv) (hchange.keepsClocked hinv hclocked) hnodup.2
        (fun a ha => ?_) h
      obtain ⟨ha', hrest⟩ := hmem a (by simp [ha])
      refine ⟨?_, hrest⟩
      rw [hqueue]
      exact hmoved.attempts.mem_of_ne' ha' (by rintro rfl; exact hnodup.1 ha)

/-! ## The rows of every history -/

/-- What the calls find in the rows of the queue. -/
structure QueueReadsBack (rt : Runtime) (db : Database) : Prop where
  runs : ∀ r ∈ db.queue.runs.rows, r.toRecord rt = .ok r.record
  /-- The columns of an attempt repeat the attempt that is read. -/
  attempts : ∀ a ∈ db.queue.runAttempts.rows,
    attemptFromRow rt a = .ok a.attemptJson ∧ a = AttemptRow.ofAttempt a.attemptJson
  get : ∀ runId, isUuid runId = true → RunQueueRepository.get rt runId db =
    .ok ((db.queue.runs.find? runId).map RunRow.record)
  list_page : ∀ ilike p, p.Accepted → listPage rt ilike p db =
    .ok ((pageRows ilike p db.queue).map RunRow.record,
      db.queue.runs.count (p.selects ilike))
  claim_next : ∀ c P, Calling db c → Resolves c.snapshotFactory P →
    (∀ row, fairClaimSelect db.queue = some row → ¬ P row.runId) →
    ((∃ r, claimNext rt c db = .ok r) ↔
      maxActiveAttempts ≤ db.queue.runAttempts.count hasActiveAttempt ∨
        ∀ row, fairClaimSelect db.queue = some row → row.enqueuedAt ≤ c.now)
  request_cancel : ∀ run ∈ db.queue.runs.rows, ∀ now,
    ((∃ r, requestCancel rt run.runId run.submittedBy now db = .ok r) ↔
      run.state.isTerminal = true ∨ run.state = .cancelRequested ∨
        (run.createdAt ≤ now ∧
          ∀ a ∈ db.queue.runAttempts.rows, a.runId = run.runId → a.createdAt ≤ now))
  /-- Reaping raises only where a task does. -/
  reap_expired_leases : ∀ now e, reapExpiredLeases rt now db = .error e →
    ∃ request db₁, recordFailedTask rt request now db₁ = .error e

/-- **Queue rows always read back**, whatever the clocks of the calls that wrote them. -/
theorem history_readsBack (rt : Runtime) (calls : List Call) :
    QueueReadsBack rt (after (exec rt) Database.initial calls) := by
  have hreachable : Reachable rt (after (exec rt) Database.initial calls) := ⟨calls, rfl⟩
  have hinv := hreachable.queue
  have hclocked := hreachable.clocked
  exact {
    runs := fun r hr => (hinv.runs r hr).toRecord
    attempts := fun a ha => ⟨(hinv.attempts a ha).attemptFromRow, (hinv.attempts a ha).columns⟩
    get := fun runId h => getRun_eq hinv h
    list_page := fun ilike p hp => listPage_eq hinv hp
    claim_next := fun c P h hresolves hgood => claimNext_returns_iff hinv h hresolves hgood
    request_cancel := fun run hrun now => requestCancel_returns_iff hinv hrun
    reap_expired_leases := fun now e h => by
      unfold reapExpiredLeases at h
      dsimp only at h
      cases hfold : (expiredAttempts now
          (after (exec rt) Database.initial calls).queue).foldlM (reapAttempt rt now)
          (after (exec rt) Database.initial calls) with
      | ok db₁ => rw [hfold] at h; cases h
      | error e' =>
        rw [hfold] at h
        cases h
        exact reap_raises hinv hclocked (expiredAttempts_nodup _ _)
          (fun row hrow => mem_expiredAttempts.mp hrow) hfold }

/-! ## A clock behind another one -/

/-- A run that was submitted by a clock which is a minute ahead. -/
def earlyRequest : RunRequest :=
  ⟨{ Sample.requestFields "00000000-0000-4000-8000-000000000001" "alice" with
    submittedAt := seconds 60 }, by decide +kernel⟩

/-- What a claim by the executor at the start of the clock comes to. -/
def claimAtOne (calls : List Call) : Except Error (Option RunClaim) :=
  (claimNext Sample.runtime (Sample.claim "attempt" 1)
    (after (exec Sample.runtime) Database.initial calls)).map (·.1)

/-- **A run from the future**: an executor whose clock is behind the submitting server's finds
the queue empty; once that run is admitted, its row reads back and the same call raises. -/
theorem earlyRun_raises :
    claimAtOne Sample.activated = .ok none ∧
    claimAtOne (Sample.activated ++ [.queue (.admitRun earlyRequest)]) =
      .error (.value "Run start time cannot precede enqueue") ∧
    ∃ r ∈ (after (exec Sample.runtime) Database.initial
        (Sample.activated ++ [.queue (.admitRun earlyRequest)])).queue.runs.rows,
      r.requestJson = earlyRequest ∧ r.toRecord Sample.runtime = .ok r.record := by
  decide +kernel

end ProofAgent
