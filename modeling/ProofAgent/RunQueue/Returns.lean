import ProofAgent.RunQueue.Blocking

/-! # When the calls of the queue return

The inversion lemmas say what a call that returned has done; here a call is
shown to return. In a queue that satisfies the invariant every row reads back,
so a move fails only where its clock is earlier than a row it would rewrite. -/
namespace ProofAgent

open Base RunQueueRepository

variable {rt : Runtime} {q q' : QueueTables} {db : Database}

/-! ## Reading -/

theorem RunRow.Sound.toRecord {r : RunRow} (h : r.Sound rt) : r.toRecord rt = .ok r.record :=
  RunQueueRecord.validate_of h.record

theorem AttemptRow.Sound.attemptFromRow {a : AttemptRow} (h : a.Sound rt) :
    attemptFromRow rt a = .ok a.attemptJson :=
  RunAttempt.validate_of h.attempt

theorem lockedRunRecord_of {r : RunRow} (hr : r ∈ q.runs.rows) (h : r.Sound rt) :
    lockedRunRecord rt r.runId q = .ok r.record := by
  rw [lockedRunRecord, Table.find?_of_mem hr]
  exact h.toRecord

/-! ## Writing -/

theorem writeAttempt_of {a : AttemptRow} {attempt : RunAttempt} (ha : a ∈ q.runAttempts.rows)
    (h : a.Sound rt) (hid : attempt.attemptId = a.attemptId)
    (htokens : attempt.claimToken = a.claimToken ∧ attempt.fencingEpoch = a.fencingToken ∧
      attempt.activationEpoch = a.activationEpoch) (hcons : (a.assign attempt).constraints) :
    ∃ q₁, writeAttempt attempt a.attemptJson.stateVersion q = .ok q₁ := by
  obtain ⟨htoken, hfence, hepoch⟩ := htokens
  unfold writeAttempt
  dsimp only
  rw [hid, htoken, hfence, hepoch, h.version_eq]
  have hone : ∀ r ∈ q.runAttempts.rows, (decide (r.attemptId = a.attemptId) &&
      decide (r.stateVersion = a.stateVersion) && decide (r.claimToken = a.claimToken) &&
      decide (r.fencingToken = a.fencingToken) &&
      decide (r.activationEpoch = a.activationEpoch)) = true → r.attemptId = a.attemptId := by
    intro r _ hp
    simp only [Bool.and_eq_true, decide_eq_true_eq] at hp
    exact hp.1.1.1.1
  rw [require_true _ fun r hr hp => Table.eq_of_key hr ha (hone r hr hp) ▸ hcons, ok_bind,
    require_true _ (Table.count_eq_one ha (by simp) hone)]
  exact ⟨_, rfl⟩

theorem writeRun_of {run : RunRow} (record : RunQueueRecord) (hrun : run ∈ q.runs.rows)
    (hid : record.request.runId = run.runId) (hcons : (run.assign record).constraints) :
    ∃ q₁, writeRun record run.state run.stateVersion q = .ok q₁ := by
  unfold writeRun
  rw [hid]
  obtain ⟨q₁, hupdate⟩ := updateRuns_of (q := q)
    (fun r => r.runId = run.runId && r.state = run.state && r.stateVersion = run.stateVersion)
    (fun r => r.assign record) (fun _ => rfl) hrun (by simp)
    (fun r hp => by simp only [Bool.and_eq_true, decide_eq_true_eq] at hp; exact hp.1.1) hcons
  rw [hupdate]
  exact ⟨_, rfl⟩

/-- **The two writes of a move** return where no row is later than the clock. -/
theorem move_returns (hinv : QueueInvariant rt q) {a : AttemptRow} {run : RunRow}
    (ha : a ∈ q.runAttempts.rows) (hrun : run ∈ q.runs.rows) (hsame : run.runId = a.runId)
    {target : RunLifecycleState} {outcome : RunResultAvailability} {failure : Option RunFailure}
    {now : Instant} (hactive : a.state.isActive = true) (hallowed : a.state.allowed target = true)
    (hout : moveOutcome target outcome failure) (hnow : run.createdAt ≤ now ∧ a.createdAt ≤ now)
    {attempt : RunAttempt} (hattempt : attempt = a.attemptJson.ended target outcome failure now)
    (record : RunQueueRecord) (hrequest : record.request = run.requestJson)
    (hrecord : run.assign record = run.move target outcome failure
      (if target.isTerminal then some now else none) now) :
    ∃ q₁ q₂, writeAttempt attempt a.attemptJson.stateVersion q = .ok q₁ ∧
      lockedRunRecord rt run.runId q₁ = .ok run.record ∧
      writeRun record run.state run.stateVersion q₁ = .ok q₂ ∧
      Moved q q₂ run a target outcome failure now := by
  have hsoundA := hinv.attempts a ha
  have hsoundR := hinv.runs run hrun
  have hne := RunLifecycleState.allowed_ne_queued hallowed
  have hmovedA := hsoundA.move hout hne hnow.2
  have hmovedR := hsoundR.move hout rfl hnow.1
  have hcolumns : attempt.claimToken = a.claimToken ∧ attempt.fencingEpoch = a.fencingToken ∧
      attempt.activationEpoch = a.activationEpoch := by
    rw [hattempt]
    refine ⟨?_, ?_, ?_⟩ <;> (conv_rhs => rw [hsoundA.columns]) <;> rfl
  obtain ⟨q₁, hwrite⟩ := writeAttempt_of ha hsoundA
    (by rw [hattempt]; exact hsoundA.attemptId_eq) hcolumns
    (by rw [hattempt, hsoundA.assign_ended]; exact hmovedA.constraints)
  obtain ⟨_, _, _, _, _, hq₁⟩ := writeAttempt_ok hwrite
  have hrun₁ : run ∈ q₁.runs.rows := by rw [hq₁]; exact hrun
  obtain ⟨q₂, hwriteRun⟩ := writeRun_of _ hrun₁
    (by rw [hrequest]; exact hsoundR.run_id.symm) (by rw [hrecord]; exact hmovedR.constraints)
  exact ⟨q₁, q₂, hwrite, lockedRunRecord_of hrun₁ hsoundR, hwriteRun,
    moved_of_writes hinv ha hrun hsame hactive hallowed hout hattempt hwrite hrequest hrecord
      hwriteRun⟩

/-! ## The clocks of the rows -/

/-- An attempt is no earlier than its run, and was last renewed no earlier than it began. -/
structure QueueClocked (q : QueueTables) : Prop where
  renewed : ∀ a ∈ q.runAttempts.rows, a.createdAt ≤ a.heartbeatAt
  submitted : ∀ a ∈ q.runAttempts.rows, ∀ r ∈ q.runs.rows, r.runId = a.runId →
    r.createdAt ≤ a.createdAt

theorem QueueClocked.initial : QueueClocked Database.initial.queue := by
  constructor <;> simp [Database.initial, Table.empty]

theorem QueueChange.keepsClocked (hinv : QueueInvariant rt q) (h : QueueClocked q)
    (c : QueueChange rt q q') : QueueClocked q' := by
  cases c with
  | admitted row c =>
    obtain ⟨hrows, hfresh⟩ := Table.insert?_some c.insert
    have hattempts : q'.runAttempts = q.runAttempts := by rw [c.frame]
    refine ⟨fun a ha => h.renewed a (hattempts ▸ ha), fun a ha r hr he => ?_⟩
    rw [hattempts] at ha
    rw [hrows, List.mem_append, List.mem_singleton] at hr
    rcases hr with hr | rfl
    · exact h.submitted a ha r hr he
    · obtain ⟨s, hs, hk, _⟩ := hinv.mirror a ha
      exact absurd (hk.trans he.symm) (hfresh s hs)
  | claimed row attempt now c =>
    obtain ⟨hrows, _⟩ := Table.insert?_some c.insert
    have hsubmitted : ∀ r ∈ q'.runs.rows, ∃ s ∈ q.runs.rows, s.runId = r.runId ∧
        s.createdAt = r.createdAt := by
      intro r hr
      rcases c.run.mem_cases hr with rfl | ⟨hr, _⟩
      · exact ⟨row, c.run.mem_old, rfl, rfl⟩
      · exact ⟨r, hr, rfl, rfl⟩
    have hmem : ∀ a ∈ q'.runAttempts.rows,
        a ∈ q.runAttempts.rows ∨ a = AttemptRow.ofAttempt attempt := fun a ha => by
      rw [hrows, List.mem_append, List.mem_singleton] at ha
      exact ha
    obtain ⟨hcreated, hheartbeat⟩ := c.times
    refine ⟨fun a ha => ?_, fun a ha r hr he => ?_⟩
    · rcases hmem a ha with ha | rfl
      · exact h.renewed a ha
      · exact (hcreated.trans hheartbeat.symm).le
    · obtain ⟨s, hs, hk, hc⟩ := hsubmitted r hr
      rw [← hc]
      rcases hmem a ha with ha | rfl
      · exact h.submitted a ha s hs (hk.trans he)
      · obtain rfl := Table.eq_of_key hs c.run.mem_old (hk.trans (he.trans c.same_run))
        exact c.created.trans hcreated.ge
  | renewed old new c =>
    have hruns : q'.runs = q.runs := by rw [c.frame]
    refine ⟨fun a ha => ?_, fun a ha r hr he => ?_⟩
    · rcases c.attempt.mem_cases ha with rfl | ⟨ha, _⟩
      · exact c.times.2
      · exact h.renewed a ha
    · rw [hruns] at hr
      rcases c.attempt.mem_cases ha with rfl | ⟨ha, _⟩
      · rw [c.times.1]
        exact h.submitted old c.attempt.mem_old r hr (he.trans c.same_run)
      · exact h.submitted a ha r hr he
  | moved run attempt target outcome failure now c =>
    refine ⟨fun a ha => ?_, fun a ha r hr he => ?_⟩
    · rcases c.attempts.mem_cases ha with rfl | ⟨ha, _⟩
      · exact h.renewed attempt c.attempts.mem_old
      · exact h.renewed a ha
    · have hold : ∃ b ∈ q.runAttempts.rows, b.runId = a.runId ∧ b.createdAt = a.createdAt := by
        rcases c.attempts.mem_cases ha with rfl | ⟨ha, _⟩
        · exact ⟨attempt, c.attempts.mem_old, rfl, rfl⟩
        · exact ⟨a, ha, rfl, rfl⟩
      obtain ⟨b, hb, hk, hc⟩ := hold
      rw [← hc]
      rcases c.runs.mem_cases hr with rfl | ⟨hr, _⟩
      · exact h.submitted b hb run c.runs.mem_old (he.trans hk.symm)
      · exact h.submitted b hb r hr (he.trans hk.symm)
  | withdrawn run now c =>
    have hattempts : q'.runAttempts = q.runAttempts := by rw [c.frame]
    refine ⟨fun a ha => h.renewed a (hattempts ▸ ha), fun a ha r hr he => ?_⟩
    rw [hattempts] at ha
    rcases c.replaced.mem_cases hr with rfl | ⟨hr, _⟩
    · exact h.submitted a ha run c.replaced.mem_old he
    · exact h.submitted a ha r hr he
  | activated c =>
    have hruns : q'.runs = q.runs := by rw [c.frame]
    have hattempts : q'.runAttempts = q.runAttempts := by rw [c.frame]
    exact ⟨fun a ha => h.renewed a (hattempts ▸ ha),
      fun a ha r hr he => h.submitted a (hattempts ▸ ha) r (hruns ▸ hr) he⟩

theorem QueueChain.keepsClocked (hinv : QueueInvariant rt q) (h : QueueClocked q)
    (c : QueueChain rt q q') : QueueClocked q' := by
  induction c with
  | refl => exact h
  | tail hc c ih => exact c.keepsClocked (QueueChain.keeps hinv hc) ih

theorem Reachable.clocked (h : Reachable rt db) : QueueClocked db.queue := by
  obtain ⟨calls, rfl⟩ := h
  exact QueueChain.keepsClocked (.initial rt) .initial (history_chain (.initial rt) calls)

/-- A reaped attempt, and its run, are earlier than the clock that reaps it. -/
theorem QueueClocked.expired (hinv : QueueInvariant rt q) (h : QueueClocked q) {a : AttemptRow}
    {run : RunRow} {now : Instant} (ha : a ∈ q.runAttempts.rows) (hrun : run ∈ q.runs.rows)
    (hsame : run.runId = a.runId) (hlease : a.leaseExpiresAt ≤ now) :
    run.createdAt ≤ now ∧ a.createdAt ≤ now := by
  have hbefore : a.heartbeatAt < a.leaseExpiresAt := by
    have := (hinv.attempts a ha).attempt.lease
    rw [(hinv.attempts a ha).columns]
    exact this
  have hcreated : a.createdAt ≤ now :=
    (h.renewed a ha).trans (hbefore.le.trans hlease)
  exact ⟨(h.submitted a ha run hrun hsame).trans hcreated, hcreated⟩

/-! ## Lost executors -/

/-- **Reaping an attempt** fails at most where the failure is recorded on its task. -/
theorem reapAttempt_eq (hinv : QueueInvariant rt db.queue) {row : AttemptRow} {run : RunRow}
    {now : Instant} (hrow : row ∈ db.queue.runAttempts.rows) (hactive : row.state.isActive = true)
    (hrun : run ∈ db.queue.runs.rows) (hsame : run.runId = row.runId)
    (hnow : run.createdAt ≤ now ∧ row.createdAt ≤ now) :
    ∃ q', Moved db.queue q' run row .failed .unavailable (some { code := .executorLost }) now ∧
      reapAttempt rt now db row =
        recordFailedTask rt run.requestJson now { db with queue := q' } := by
  have hsound := hinv.attempts row hrow
  have hallowed : row.state.allowed .failed = true := by
    revert hactive
    cases row.state <;> simp [RunLifecycleState.isActive, RunLifecycleState.allowed]
  obtain ⟨q₁, q₂, hwrite, hread, hwriteRun, hmoved⟩ := move_returns hinv hrow hrun hsame hactive
    hallowed (.failing { code := .executorLost } rfl (by decide)) hnow rfl
    (run.record.ended .failed .unavailable (some { code := .executorLost }) now) rfl
    (run.assign_ended ..)
  have hactiveR : run.record.state.isActive = true := by
    show run.state.isActive = true
    rw [(hinv.run_of hrow hrun hsame).1]
    exact hactive
  refine ⟨q₂, hmoved, ?_⟩
  unfold reapAttempt
  rw [hsound.attemptFromRow, ok_bind]
  dsimp only
  rw [hwrite, ok_bind, hsound.runId_eq, ← hsame, hread, ok_bind, require_true _ hactiveR, ok_bind]
  show (writeRun _ run.state run.stateVersion q₁ >>= _) = _
  rw [hwriteRun]
  rfl

end ProofAgent
