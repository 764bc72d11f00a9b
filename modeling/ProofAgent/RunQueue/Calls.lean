import ProofAgent.RunQueue.Statements

/-! # The calls of the repository

One lemma per call: what a call that returned has found and done. All later
results about the queue start from these. -/
namespace ProofAgent

open Base RunQueueRepository

variable {rt : Runtime} {db db' : Database}

theorem admit_ok {request : RunRequest} {r : RunQueueRecord × Bool}
    (h : admitRun rt request db = .ok (r, db')) :
    db' = db ∨
      (∃ row, Admitted rt db.queue db'.queue row) ∧ db' = { db with queue := db'.queue } := by
  unfold admitRun at h
  dsimp only at h
  split at h
  · obtain ⟨_, _, h⟩ := bind_ok h
    obtain ⟨_, _, h⟩ := bind_ok h
    cases pure_ok h
    exact .inl rfl
  · obtain ⟨_, hroom, h⟩ := bind_ok h
    obtain ⟨_, hfree, h⟩ := bind_ok h
    obtain ⟨record, hrecord, h⟩ := bind_ok h
    obtain ⟨_, _, h⟩ := bind_ok h
    obtain ⟨runs, hruns, h⟩ := bind_ok h
    cases pure_ok h
    obtain ⟨rfl, hvalid⟩ := RunQueueRecord.validate_ok hrecord
    refine .inr ⟨⟨_, {
      insert := orRaise_ok hruns, sound := ?_, queued := rfl, room := require_ok hroom, free := ?_
      frame := rfl }⟩, rfl⟩
    · exact {
        run_id := rfl
        operator := rfl
        conversation := rfl
        created := rfl
        record := { hvalid with }
        constraints := ⟨Nat.le_refl _, Int.le_refl _, fun hr => by cases hr⟩
        quiet := fun _ => ⟨rfl, rfl⟩ }
    · intro s hs hc he
      obtain ⟨c, hc⟩ := Option.isSome_iff_exists.mp hc
      have hno := require_ok hfree c hc s hs
      rcases RunLifecycleState.trichotomy s.state with hq | ha | ht
      · exact absurd ⟨he.trans hc, .inl hq⟩ hno
      · exact absurd ⟨he.trans hc, .inr ha⟩ hno
      · exact ht

theorem mem_activateRole {slot : Nat} {executorId : String} {now : Instant}
    {activation : RoleActivation} (h : activateRole slot executorId now db = .ok (activation, db'))
    {x : RoleActivation} (hx : x ∈ db'.queue.runExecutorActivations.rows) :
    x = activation ∨ x.state ≠ .active ∧ ∃ y ∈ db.queue.runExecutorActivations.rows,
      x.activationEpoch = y.activationEpoch := by
  obtain ⟨_, _, h⟩ := bind_ok h
  obtain ⟨_, _, h⟩ := bind_ok h
  obtain ⟨_, _, h⟩ := bind_ok h
  cases pure_ok h
  rcases Table.mem_upsert.mp hx with ⟨hx, hk⟩ | ⟨rfl, _⟩ | ⟨o, ho, hk, rfl⟩
  · obtain ⟨y, hy, rfl⟩ := Table.mem_update.mp hx
    right
    split
    · exact ⟨by simp, y, hy, rfl⟩
    · rename_i hne
      exact ⟨by simpa using hne, y, hy, rfl⟩
  · exact .inl rfl
  · left
    rw [hk]

theorem currentEpoch_le {q : QueueTables} {n : Nat}
    (h : ∀ x ∈ q.runExecutorActivations.rows, x.activationEpoch ≤ n) : currentEpoch q ≤ n := by
  rw [currentEpoch]
  generalize q.runExecutorActivations.rows = rows at h
  induction rows with
  | nil => exact Nat.zero_le _
  | cons y rest ih =>
    rw [List.map_cons, List.foldr_cons]
    exact Nat.max_le.mpr ⟨h y (by simp), ih fun x hx => h x (by simp [hx])⟩

/-- **An activation** gets the next epoch and is the only active one. -/
theorem activateRole_ok {slot : Nat} {executorId : String} {now : Instant}
    {activation : RoleActivation}
    (h : activateRole slot executorId now db = .ok (activation, db')) :
    activation.activationEpoch = currentEpoch db.queue + 1 ∧ activation.state = .active ∧
      activation ∈ db'.queue.runExecutorActivations.rows ∧
      (∀ x ∈ db'.queue.runExecutorActivations.rows, x.state = .active → x = activation) ∧
      Activated db.queue db'.queue ∧ db' = { db with queue := db'.queue } := by
  have hmem := fun x hx => mem_activateRole (x := x) h hx
  have hactive : ∀ x ∈ db'.queue.runExecutorActivations.rows, x.state = .active → x = activation :=
    fun x hx hact => (hmem x hx).resolve_right fun hne => hne.1 hact
  obtain ⟨_, _, h⟩ := bind_ok h
  obtain ⟨_, _, h⟩ := bind_ok h
  obtain ⟨_, _, h⟩ := bind_ok h
  obtain ⟨rfl, rfl⟩ := Prod.mk.inj (pure_ok h)
  have hin : (⟨slot, .active, currentEpoch db.queue + 1, some executorId, now⟩ : RoleActivation) ∈
      ((db.queue.runExecutorActivations.update (fun a => a.state = .active)
        (fun a => { a with state := .standby, executorId := none, updatedAt := now })
        fun _ => rfl).upsert ⟨slot, .active, currentEpoch db.queue + 1, some executorId, now⟩
        (fun a => ⟨a.slot, .active, currentEpoch db.queue + 1, some executorId, now⟩)
        fun _ => rfl).rows := by
    rw [Table.mem_upsert]
    by_cases hk : ∃ o ∈ (db.queue.runExecutorActivations.update (fun a => a.state = .active)
        (fun a => { a with state := .standby, executorId := none, updatedAt := now })
        fun _ => rfl).rows, o.slot = slot
    · obtain ⟨o, ho, hk⟩ := hk
      exact .inr (.inr ⟨o, ho, hk, by rw [hk]⟩)
    · push Not at hk
      exact .inr (.inl ⟨rfl, hk⟩)
  refine ⟨rfl, rfl, hin, hactive, ⟨?_, ?_, ?_, rfl⟩, rfl⟩
  · intro x hx hact
    rw [hactive x hx hact]
  · intro x hx y hy hxa hya
    rw [hactive x hx hxa, hactive y hy hya]
  · refine Nat.le_antisymm (currentEpoch_le fun x hx => ?_) ?_
    · rcases hmem x hx with rfl | ⟨_, y, hy, he⟩
      · exact Nat.le_refl _
      · rw [he]; exact (le_currentEpoch hy).trans (Nat.le_succ _)
    · exact le_currentEpoch (q := { db.queue with runExecutorActivations := _ }) hin

theorem heartbeat_ok {claim : RunClaim} {now : Instant} {leaseSeconds : Int}
    {r : Except Error RunClaim} (hinv : QueueInvariant rt db.queue)
    (h : heartbeat rt claim now leaseSeconds db = .ok (r, db')) :
    (∃ row new, Owned claim row now false db ∧ Renewed rt db.queue db'.queue row new) ∧
      db' = { db with queue := db'.queue } := by
  obtain ⟨_, _, h⟩ := bind_ok h
  obtain ⟨row, hrow, h⟩ := bind_ok h
  obtain ⟨attempt, hattempt, h⟩ := bind_ok h
  obtain ⟨_, hlease, h⟩ := bind_ok h
  obtain ⟨queue, hwrite, h⟩ := bind_ok h
  obtain ⟨_, rfl⟩ := Prod.mk.inj (pure_ok h)
  have howned := lockOwnedAttempt_ok hrow
  have hsound := hinv.attempts row howned.mem
  obtain rfl := attemptFromRow_ok hattempt
  obtain ⟨row', hrep, hid, _, hcons, hq⟩ := writeAttempt_ok hwrite
  obtain rfl : row' = row :=
    Table.eq_of_key hrep.mem_old howned.mem (hid.trans hsound.attemptId_eq)
  have hvalid := hsound.attempt
  have hquiet := hsound.quiet (RunLifecycleState.active_not_terminal howned.active)
  obtain ⟨hres, hfail⟩ := hsound.outcome_eq
  refine ⟨⟨row', _, howned, {
    attempt := hrep
    sound := {
      columns := by
        conv_lhs => rw [hsound.columns]
        rfl
      attempt := { hvalid with lease := require_ok hlease }
      constraints := hcons
      quiet := fun _ => ⟨hres.trans hquiet.1, hfail.trans hquiet.2⟩ }
    active := howned.active
    same_run := rfl
    same_outcome := ⟨hsound.state_eq, hres, hfail⟩
    same_token := rfl
    same_epoch := rfl
    times := ⟨rfl, hcons.2.2.2.2.1⟩
    frame := hq }⟩, rfl⟩

/-- What a call has moved on behalf of the owner of a claim. -/
structure OwnerMoved (rt : Runtime) (claim : RunClaim) (now : Instant) (allowDeadlineExpired : Bool)
    (db : Database) (q' : QueueTables) (run : RunRow) (row : AttemptRow)
    (target : RunLifecycleState) (outcome : RunResultAvailability)
    (failure : Option RunFailure) : Prop where
  owned : Owned claim row now allowDeadlineExpired db
  run_id : run.runId = claim.runRequest.runId
  moved : Moved db.queue q' run row target outcome failure now

theorem markFinalizing_ok {claim : RunClaim} {now : Instant} {r : Except Error RunClaim}
    (hinv : QueueInvariant rt db.queue) (h : markFinalizing rt claim now db = .ok (r, db')) :
    (∃ run row, OwnerMoved rt claim now false db db'.queue run row .finalizing .unavailable none ∧
      run.state = .running) ∧ db' = { db with queue := db'.queue } := by
  obtain ⟨row, hrow, h⟩ := bind_ok h
  obtain ⟨attempt, hattempt, h⟩ := bind_ok h
  obtain ⟨_, hallowed, h⟩ := bind_ok h
  obtain ⟨q, hwrite, h⟩ := bind_ok h
  obtain ⟨record, hrecord, h⟩ := bind_ok h
  obtain ⟨_, hrunning, h⟩ := bind_ok h
  obtain ⟨queue, hwriteRun, h⟩ := bind_ok h
  obtain ⟨_, rfl⟩ := Prod.mk.inj (pure_ok h)
  have howned := lockOwnedAttempt_ok hrow
  have hsound := hinv.attempts row howned.mem
  obtain rfl := attemptFromRow_ok hattempt
  obtain ⟨run, hrun, hid, rfl⟩ := run_between hwrite hrecord
  have hnt := RunLifecycleState.active_not_terminal howned.active
  have hallowed := hsound.state_eq ▸ assertRunTransition_ok hallowed
  have hstate : run.state = .running := require_ok hrunning
  have hrec := (hinv.runs run hrun).assign_moved (by rw [hstate]; rfl) .finalizing now
  exact ⟨⟨run, row, {
    owned := howned
    run_id := hid
    moved := moved_of_writes hinv howned.mem hrun (hid.trans howned.run_id) howned.active hallowed
      (.going rfl) (hsound.moved_eq hnt _ _) hwrite rfl hrec hwriteRun }, hstate⟩, rfl⟩

/-- A cancellation that returned found the run cancelled already or ended, withdrew it from
the queue, or requested the cancellation of its attempt. -/
theorem requestCancel_ok {runId operatorSubject : String} {now : Instant} {record : RunQueueRecord}
    (hinv : QueueInvariant rt db.queue)
    (h : requestCancel rt runId operatorSubject now db = .ok (record, db')) :
    ∃ run ∈ db.queue.runs.rows, run.runId = runId ∧
      ((db' = db ∧ record = run.record ∧
          (run.state.isTerminal = true ∨ run.state = .cancelRequested)) ∨
        (Withdrawn db.queue db'.queue run now ∧ db' = { db with queue := db'.queue } ∧
          record.state = .cancelled) ∨
        ∃ row, Moved db.queue db'.queue run row .cancelRequested .unavailable none now ∧
          db' = { db with queue := db'.queue } ∧ record.state = .cancelRequested) := by
  obtain ⟨found, hfound, h⟩ := bind_ok h
  obtain ⟨run, hrun, hid, rfl⟩ := lockedRunRecord_ok hfound
  obtain ⟨_, _, h⟩ := bind_ok h
  have hsoundR := hinv.runs run hrun
  refine ⟨run, hrun, hid, ?_⟩
  split at h
  · rename_i hended
    obtain ⟨rfl, rfl⟩ := Prod.mk.inj (pure_ok h)
    exact .inl ⟨rfl, rfl, hended⟩
  · split at h
    · rename_i hqueued
      obtain ⟨_, _, h⟩ := bind_ok h
      obtain ⟨queue, hwrite, h⟩ := bind_ok h
      obtain ⟨rfl, rfl⟩ := Prod.mk.inj (pure_ok h)
      obtain ⟨run', hrep, hid', _, _, hcons, hq⟩ := writeRun_ok hwrite
      obtain rfl : run' = run :=
        Table.eq_of_key hrep.mem_old hrun (hid'.trans hsoundR.run_id.symm)
      have hqueued : run'.state = .queued := hqueued
      have hassign : run'.assign { run'.record.moved .cancelled now with
          failure := some { code := .cancelled }, completedAt := some now } =
          run'.move .cancelled .unavailable (some { code := .cancelled }) (some now) now := by
        have hr := (hsoundR.quiet (by rw [hqueued]; rfl)).1
        simp only [RunRow.assign, RunQueueRecord.moved, RunRow.record, RunRow.move, hr]
      rw [hassign] at hrep hcons
      exact .inr (.inl ⟨⟨hrep, hqueued, hcons.2.1, hq⟩, rfl, rfl⟩)
    · obtain ⟨_, hstate, h⟩ := bind_ok h
      obtain ⟨row, hrow, h⟩ := bind_ok h
      obtain ⟨attempt, hattempt, h⟩ := bind_ok h
      obtain ⟨_, hallowed, h⟩ := bind_ok h
      obtain ⟨q, hwrite, h⟩ := bind_ok h
      obtain ⟨queue, hwriteRun, h⟩ := bind_ok h
      obtain ⟨rfl, rfl⟩ := Prod.mk.inj (pure_ok h)
      have hstate : run.state = .running ∨ run.state = .finalizing := require_ok hstate
      have hrowmem := List.mem_of_head? (orRaise_ok hrow)
      rw [List.mem_insertionSort, List.mem_filter] at hrowmem
      obtain ⟨hmem, hp⟩ := hrowmem
      simp only [Bool.and_eq_true, decide_eq_true_eq] at hp
      have hsound := hinv.attempts row hmem
      obtain rfl := attemptFromRow_ok hattempt
      have hactive : row.state.isActive = true := by
        rw [hp.2]; rcases hstate with hs | hs <;> (show run.state.isActive = true; rw [hs]; rfl)
      have hnt := RunLifecycleState.active_not_terminal hactive
      have hntR : run.state.isTerminal = false := by
        rcases hstate with hs | hs <;> rw [hs] <;> rfl
      have hallowed := hsound.state_eq ▸ assertRunTransition_ok hallowed
      have hmoved := moved_of_writes hinv hmem hrun (hid.trans hp.1.symm) hactive hallowed
        (.going rfl) (hsound.moved_eq hnt _ _) hwrite rfl
        (hsoundR.assign_moved hntR .cancelRequested now) hwriteRun
      exact .inr (.inr ⟨row, hmoved, rfl, rfl⟩)

/-! ## Terminal commits -/

theorem recordFailedTask_frame {request : RunRequest} {now : Instant}
    (h : recordFailedTask rt request now db = .ok db') : db' = { db with tasks := db'.tasks } := by
  unfold recordFailedTask at h
  split at h
  · cases h; rfl
  · obtain ⟨r, _, h⟩ := bind_ok h
    cases pure_ok h
    rfl

theorem appendSuccessTurn_frame {claim : RunClaim} {a : SuccessArguments}
    (h : appendSuccessTurn claim a db = .ok db') :
    db' = { db with conversations := db'.conversations } := by
  unfold appendSuccessTurn at h
  split at h
  · obtain ⟨r, _, h⟩ := bind_ok h
    cases pure_ok h
    rfl
  · cases h; rfl

theorem applySuccessUpdate_frame {claim : RunClaim} {a : SuccessArguments} {now : Instant}
    (h : applySuccessUpdate rt claim a now db = .ok db') :
    db' = { db with tasks := db'.tasks } := by
  unfold applySuccessUpdate at h
  split at h
  · cases h; rfl
  · obtain ⟨_, _, h⟩ := bind_ok h
    obtain ⟨r, _, h⟩ := bind_ok h
    cases pure_ok h
    rfl

theorem RunRow.assign_ended (r : RunRow) (target : RunLifecycleState)
    (result : RunResultAvailability) (failure : Option RunFailure) (now : Instant) :
    r.assign (r.record.ended target result failure now) =
      r.move target result failure (some now) now := rfl

theorem commitTerminalFailure_ok {claim : RunClaim} {target : RunLifecycleState}
    {failure : RunFailure} {now : Instant} {record : RunQueueRecord}
    (hinv : QueueInvariant rt db.queue)
    (h : commitTerminalFailure rt claim target failure now db = .ok (record, db')) :
    ∃ run row, OwnerMoved rt claim now (target = .timedOut) db db'.queue run row target
        .unavailable (some failure) ∧
      (target = .failed ∨ target = .timedOut ∨ target = .cancelled) ∧
      recordFailedTask rt run.requestJson now { db with queue := db'.queue } = .ok db' := by
  obtain ⟨_, htarget, h⟩ := bind_ok h
  obtain ⟨row, hrow, h⟩ := bind_ok h
  obtain ⟨attempt, hattempt, h⟩ := bind_ok h
  obtain ⟨_, hallowed, h⟩ := bind_ok h
  obtain ⟨q, hwrite, h⟩ := bind_ok h
  obtain ⟨found, hfound, h⟩ := bind_ok h
  obtain ⟨_, _, h⟩ := bind_ok h
  obtain ⟨queue, hwriteRun, h⟩ := bind_ok h
  obtain ⟨db₁, hrecord, h⟩ := bind_ok h
  obtain ⟨_, rfl⟩ := Prod.mk.inj (pure_ok h)
  have htarget := require_ok htarget
  have howned := lockOwnedAttempt_ok hrow
  have hsound := hinv.attempts row howned.mem
  obtain rfl := attemptFromRow_ok hattempt
  obtain ⟨run, hrun, hid, rfl⟩ := run_between hwrite hfound
  have hallowed := hsound.state_eq ▸ assertRunTransition_ok hallowed
  have hterminal : target.isTerminal = true := by rcases htarget with rfl | rfl | rfl <;> rfl
  have hne : target ≠ .succeeded := by rcases htarget with rfl | rfl | rfl <;> decide
  have hqueue : db₁.queue = queue := by rw [recordFailedTask_frame hrecord]
  rw [hqueue]
  refine ⟨run, row, {
    owned := howned
    run_id := hid
    moved := moved_of_writes hinv howned.mem hrun (hid.trans howned.run_id) howned.active hallowed
      (.failing failure hterminal hne) rfl hwrite rfl ?_ hwriteRun }, htarget, hrecord⟩
  rw [if_pos hterminal]
  exact run.assign_ended ..

/-- **A success** is committed by the owner of a finalizing attempt. -/
theorem commitSuccess_ok {claim : RunClaim} {a : SuccessArguments} {now : Instant}
    {record : RunQueueRecord} (hinv : QueueInvariant rt db.queue)
    (h : commitSuccess rt claim a now db = .ok (record, db')) :
    ∃ run row db₁ db₂, OwnerMoved rt claim now false db db'.queue run row .succeeded
        (.available a.manifest.manifestId a.receiptOutcome) none ∧
      run.state = .finalizing ∧ checkSuccess claim a = .ok () ∧
      db₁ = { db with queue := db₁.queue, artifacts := db₁.artifacts } ∧
      appendSuccessTurn claim a db₁ = .ok db₂ ∧
      applySuccessUpdate rt claim a now db₂ = .ok db' := by
  obtain ⟨_, hcheck, h⟩ := bind_ok h
  obtain ⟨row, hrow, h⟩ := bind_ok h
  obtain ⟨attempt, hattempt, h⟩ := bind_ok h
  obtain ⟨_, hfinal, h⟩ := bind_ok h
  obtain ⟨found, hfound, h⟩ := bind_ok h
  obtain ⟨_, hstate, h⟩ := bind_ok h
  obtain ⟨⟨binding, artifacts⟩, _, h⟩ := bind_ok h
  obtain ⟨_, _, h⟩ := bind_ok h
  obtain ⟨q, hwrite, h⟩ := bind_ok h
  obtain ⟨queue, hwriteRun, h⟩ := bind_ok h
  obtain ⟨db₂, hturn, h⟩ := bind_ok h
  obtain ⟨db₃, hupdate, h⟩ := bind_ok h
  obtain ⟨_, rfl⟩ := Prod.mk.inj (pure_ok h)
  have howned := lockOwnedAttempt_ok hrow
  have hsound := hinv.attempts row howned.mem
  obtain rfl := attemptFromRow_ok hattempt
  obtain ⟨run, hrun, hid, rfl⟩ := lockedRunRecord_ok hfound
  have hstate : run.state = .finalizing := require_ok hstate
  have hallowed : row.state.allowed .succeeded = true := by
    have : row.attemptJson.state = .finalizing := require_ok hfinal
    rw [hsound.state_eq] at this
    rw [this]; rfl
  have hqueue : db₃.queue = queue := by
    rw [applySuccessUpdate_frame hupdate, appendSuccessTurn_frame hturn]
  rw [hqueue]
  exact ⟨run, row, _, db₂, {
    owned := howned
    run_id := hid
    moved := moved_of_writes hinv howned.mem hrun (hid.trans howned.run_id) howned.active hallowed
      (.succeeding _) rfl hwrite rfl (run.assign_ended ..) hwriteRun },
    hstate, hcheck, rfl, hturn, hupdate⟩

/-! ## Lost executors -/

theorem reapAttempt_ok {now : Instant} {row : AttemptRow} (hinv : QueueInvariant rt db.queue)
    (hrow : row ∈ db.queue.runAttempts.rows) (hactive : row.state.isActive = true)
    (h : reapAttempt rt now db row = .ok db') :
    ∃ run, Moved db.queue db'.queue run row .failed .unavailable (some { code := .executorLost })
        now ∧
      recordFailedTask rt run.requestJson now { db with queue := db'.queue } = .ok db' := by
  obtain ⟨attempt, hattempt, h⟩ := bind_ok h
  obtain ⟨q, hwrite, h⟩ := bind_ok h
  obtain ⟨found, hfound, h⟩ := bind_ok h
  obtain ⟨_, _, h⟩ := bind_ok h
  obtain ⟨queue, hwriteRun, hrecord⟩ := bind_ok h
  have hsound := hinv.attempts row hrow
  obtain rfl := attemptFromRow_ok hattempt
  obtain ⟨run, hrun, hid, rfl⟩ := run_between hwrite hfound
  have hqueue : db'.queue = queue := by rw [recordFailedTask_frame hrecord]
  rw [hqueue]
  refine ⟨run, moved_of_writes hinv hrow hrun (hid.trans hsound.runId_eq) hactive ?_
    (.failing _ rfl (by decide)) rfl hwrite rfl (run.assign_ended ..) hwriteRun, hrecord⟩
  revert hactive
  cases row.state <;> simp [RunLifecycleState.isActive, RunLifecycleState.allowed]

theorem mem_expiredAttempts {now : Instant} {q : QueueTables} {row : AttemptRow} :
    row ∈ expiredAttempts now q ↔ row ∈ q.runAttempts.rows ∧ row.state.isActive = true ∧
      row.leaseExpiresAt ≤ now := by
  rw [expiredAttempts, List.mem_insertionSort, List.mem_filter]
  simp

theorem expiredAttempts_nodup (now : Instant) (q : QueueTables) : (expiredAttempts now q).Nodup :=
  (List.perm_insertionSort _ _).nodup_iff.mpr
    ((List.Nodup.of_map _ q.runAttempts.distinct).filter _)

/-- Reaping is one move for each attempt; the others keep their rows. -/
theorem reap_ok {now : Instant} : ∀ {rows : List AttemptRow} {db db' : Database},
    QueueInvariant rt db.queue → rows.Nodup →
    (∀ row ∈ rows, row ∈ db.queue.runAttempts.rows ∧ row.state.isActive = true) →
    rows.foldlM (reapAttempt rt now) db = .ok db' →
    Relation.ReflTransGen (QueueChange rt) db.queue db'.queue ∧
      db' = { db with
        queue := { db.queue with
          runs := db'.queue.runs, runAttempts := db'.queue.runAttempts }
        tasks := db'.tasks } ∧
      (∀ a ∈ db.queue.runAttempts.rows, a ∉ rows → a ∈ db'.queue.runAttempts.rows) ∧
      ∀ row ∈ rows, row.move .failed .unavailable (some { code := .executorLost }) now ∈
        db'.queue.runAttempts.rows
  | [], db, db', _, _, _, h => by
    cases pure_ok h
    exact ⟨.refl, rfl, fun _ ha _ => ha, by simp⟩
  | row :: rows, db, db', hinv, hnodup, hmem, h => by
    rw [List.foldlM_cons] at h
    obtain ⟨db₁, hone, hrest⟩ := bind_ok h
    obtain ⟨hrow, hactive⟩ := hmem row (by simp)
    obtain ⟨run, hmoved, hrecord⟩ := reapAttempt_ok hinv hrow hactive hone
    have hchange : QueueChange rt db.queue db₁.queue := .moved _ _ _ _ _ _ hmoved
    have hframe := recordFailedTask_frame hrecord
    rw [List.nodup_cons] at hnodup
    have hstay : ∀ a ∈ db.queue.runAttempts.rows, a ≠ row → a ∈ db₁.queue.runAttempts.rows :=
      fun a ha hne => hmoved.attempts.mem_of_ne' ha hne
    obtain ⟨hchain, hframe', hothers, hfailed⟩ := reap_ok (hchange.keeps hinv) hnodup.2
      (fun a ha => ⟨hstay a (hmem a (by simp [ha])).1 (by rintro rfl; exact hnodup.1 ha),
        (hmem a (by simp [ha])).2⟩) hrest
    refine ⟨.head hchange hchain, ?_, fun a ha hnot => ?_, fun a ha => ?_⟩
    · rw [hframe', hframe, hmoved.frame]
    · rw [List.mem_cons, not_or] at hnot
      exact hothers a (hstay a ha hnot.1) hnot.2
    · rcases List.mem_cons.mp ha with rfl | ha
      · refine hothers _ hmoved.attempts.mem_new fun hin => ?_
        have := (hmem _ (List.mem_cons_of_mem _ hin)).2
        cases this
      · exact hfailed a ha

theorem reapExpiredLeases_ok {now : Instant} {n : Nat} (hinv : QueueInvariant rt db.queue)
    (h : reapExpiredLeases rt now db = .ok (n, db')) :
    Relation.ReflTransGen (QueueChange rt) db.queue db'.queue ∧
      db' = { db with
        queue := { db.queue with
          runs := db'.queue.runs, runAttempts := db'.queue.runAttempts }
        tasks := db'.tasks } := by
  obtain ⟨db₁, hfold, h⟩ := bind_ok h
  obtain ⟨_, rfl⟩ := Prod.mk.inj (pure_ok h)
  obtain ⟨hchain, hframe, _⟩ := reap_ok hinv (expiredAttempts_nodup _ _)
    (fun row hrow => ⟨(mem_expiredAttempts.mp hrow).1, (mem_expiredAttempts.mp hrow).2.1⟩) hfold
  exact ⟨hchain, hframe⟩

/-! ## Claims -/

theorem requireActiveRole_ok {slot : Nat} {executorId : String} {epoch : Nat} {now : Instant}
    {allow : Bool} {u : Unit} (h : requireActiveRole slot executorId epoch now allow db = .ok u) :
    ∃ x ∈ db.queue.runExecutorActivations.rows, ownsActivation slot executorId epoch x := by
  obtain ⟨_, h, _⟩ := bind_ok h
  exact require_ok h

/-- **A claim** starts the selected run with a new attempt of the caller. -/
theorem claimRow_ok {c : ClaimArguments} {row : RunRow} {claim : RunClaim}
    (hinv : QueueInvariant rt db.queue) (hselected : fairClaimSelect db.queue = some row)
    (hroom : db.queue.runAttempts.count hasActiveAttempt < maxActiveAttempts)
    (hepoch : c.activationEpoch ≤ currentEpoch db.queue)
    (h : claimRow rt c row db = .ok (claim, db')) :
    Claimed rt db.queue db'.queue row claim.attempt c.now ∧ claim.runRequest = row.requestJson ∧
      db' = { db with queue := db'.queue } := by
  obtain ⟨snapshot, _, h⟩ := bind_ok h
  obtain ⟨_, _, h⟩ := bind_ok h
  obtain ⟨attempt, hattempt, h⟩ := bind_ok h
  obtain ⟨q₁, hinsert, h⟩ := bind_ok h
  obtain ⟨running, hrunning, h⟩ := bind_ok h
  obtain ⟨⟨rowcount, q₂⟩, hupdate, h⟩ := bind_ok h
  obtain ⟨_, hcount, h⟩ := bind_ok h
  obtain ⟨claim', hclaim, h⟩ := bind_ok h
  obtain ⟨rfl, rfl⟩ := Prod.mk.inj (pure_ok h)
  obtain ⟨rfl, hvalid⟩ := RunAttempt.validate_ok hattempt
  obtain ⟨rfl, hvalidR⟩ := RunQueueRecord.validate_ok hrunning
  obtain ⟨hclaimR, hclaimA⟩ := RunClaim.make_ok hclaim
  obtain ⟨_, hcons, hinsert⟩ := bind_ok hinsert
  obtain ⟨_, _, hinsert⟩ := bind_ok hinsert
  obtain ⟨runAttempts, hrows, hinsert⟩ := bind_ok hinsert
  cases pure_ok hinsert
  obtain ⟨_, hconsR, hupdate⟩ := bind_ok hupdate
  cases pure_ok hupdate
  obtain ⟨hrow, hhead⟩ := fairClaimSelect_some hselected
  have hsoundR := hinv.runs row hrow
  obtain ⟨run, hrun, hp, hrep⟩ := Table.replaced_of_update
    (fun r : RunRow => r.started (runningRecord row c.now).stateVersion c.now)
    (fun _ => rfl) (require_ok hcount)
  have hcreated := (require_ok hconsR run hrun hp).2.1
  simp only [Bool.and_eq_true, decide_eq_true_eq] at hp
  obtain rfl : run = row := Table.eq_of_key hrun hrow hp.1.1
  rw [hclaimA]
  refine ⟨?_, hclaimR, rfl⟩
  exact {
    room := hroom
    selected := hselected
    run := hrep
    insert := orRaise_ok hrows
    sound := ⟨rfl, hvalid, require_ok hcons, fun _ => ⟨rfl, rfl⟩⟩
    running := rfl
    same_run := hsoundR.run_id.symm
    fence := by simp only [claimedAttempt]; omega
    epoch := hepoch
    created := hcreated
    times := ⟨rfl, rfl⟩
    frame := by rw [hsoundR.operator]; rfl }

/-- A claim that returned found no capacity, no queued run, or claimed the selected run. -/
theorem claimNext_ok {c : ClaimArguments} {claim : Option RunClaim}
    (hinv : QueueInvariant rt db.queue) (h : claimNext rt c db = .ok (claim, db')) :
    c.activationEpoch ≤ currentEpoch db.queue ∧
      ((claim = none ∧ db' = db ∧
        (maxActiveAttempts ≤ db.queue.runAttempts.count hasActiveAttempt ∨
          fairClaimSelect db.queue = none)) ∨
      ∃ row claim', claim = some claim' ∧
        Claimed rt db.queue db'.queue row claim'.attempt c.now ∧
        claim'.runRequest = row.requestJson ∧ db' = { db with queue := db'.queue }) := by
  obtain ⟨_, _, h⟩ := bind_ok h
  obtain ⟨_, _, h⟩ := bind_ok h
  obtain ⟨_, _, h⟩ := bind_ok h
  obtain ⟨_, hrole, h⟩ := bind_ok h
  obtain ⟨x, hx, _, _, _, hepoch⟩ := requireActiveRole_ok hrole
  have hle : c.activationEpoch ≤ currentEpoch db.queue := hepoch ▸ le_currentEpoch hx
  refine ⟨hle, ?_⟩
  split at h
  · rename_i hfull
    obtain ⟨rfl, rfl⟩ := Prod.mk.inj (pure_ok h)
    exact .inl ⟨rfl, rfl, .inl hfull⟩
  · rename_i hroom
    split at h
    · rename_i hnone
      obtain ⟨rfl, rfl⟩ := Prod.mk.inj (pure_ok h)
      exact .inl ⟨rfl, rfl, .inr hnone⟩
    · rename_i row hselected
      obtain ⟨⟨claim', db₁⟩, hclaim, h⟩ := bind_ok h
      obtain ⟨rfl, rfl⟩ := Prod.mk.inj (pure_ok h)
      exact .inr ⟨row, claim', rfl,
        claimRow_ok hinv hselected (Nat.not_le.mp hroom) hle hclaim⟩

end ProofAgent
