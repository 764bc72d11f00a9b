import ProofAgent.Base.Accompanied
import ProofAgent.Delivery.RunExecutor
import ProofAgent.RunQueue.Deadlines

/-! # What happens around an executor

While an attempt is executed, requests cancel runs, other executors claim and finish theirs, the
same executor renews leases, tasks change and clocks go on. Only the commands of the attempt's
owner are kept out, and a reaper whose clock is past the lease. None of these moves the attempt,
except for a cancellation of its run. -/
namespace ProofAgent

open Base RunQueueRepository

variable {rt : Runtime} {W : Type} {claim : RunClaim}

/-- A call that leaves the commands of the attempt to its owner, and its lease alive. -/
def Permitted (claim : RunClaim) (db : Database) : Call → Prop
  | .queue (.markFinalizing c _) => c.attempt.attemptId ≠ claim.attempt.attemptId
  | .queue (.commitSuccess c _ _) => c.attempt.attemptId ≠ claim.attempt.attemptId
  | .queue (.commitTerminalFailure c _ _ _) => c.attempt.attemptId ≠ claim.attempt.attemptId
  | .queue (.reapExpiredLeases now) => ∀ a ∈ db.queue.runAttempts.rows,
    a.attemptId = claim.attempt.attemptId → now < a.leaseExpiresAt
  | _ => True

/-- The note of a cancellation that was requested of the claim's run. -/
def cancellations (claim : RunClaim) : Call → Reply → List ExecutorEvent
  | .queue (.requestCancel runId _ _), .record record =>
    if runId = claim.runRequest.runId ∧ record.state = .cancelRequested then [.cancelRequested] else []
  | _, _ => []

/-- A step of the others: a call, another time on the clock, or anything outside of the queue. -/
inductive Outside (rt : Runtime) (claim : RunClaim) : ExecutorWorld W → ExecutorWorld W → Prop
  | call {c : Call} {o : Reply} {db' : Database} (s : ExecutorWorld W)
      (hpermitted : Permitted claim s.db c) (h : exec rt c s.db = .ok (o, db')) :
      Outside rt claim s { s with db := db', journal := s.journal ++ cancellations claim c o }
  | clock (now : Instant) (s : ExecutorWorld W) : Outside rt claim s { s with clock := now }
  | outer (w : W) (s : ExecutorWorld W) : Outside rt claim s { s with outer := w }

/-- The attempt of the claim is there; if a cancellation was requested, it is in that state. -/
structure Tracked (rt : Runtime) (claim : RunClaim) (s : ExecutorWorld W) : Prop where
  queue : QueueInvariant rt s.db.queue
  attempt : ∃ a ∈ s.db.queue.runAttempts.rows,
    (AttemptRow.ofAttempt claim.attempt).KeepsClaim a ∧
      (ExecutorEvent.cancelRequested ∈ s.journal → a.state = .cancelRequested)

/-! ## One call -/

/-- Where an attempt is after a call that another one made. -/
structure Stays (db' : Database) (a : AttemptRow) : Prop where
  row : ∃ a' ∈ db'.queue.runAttempts.rows, a.KeepsClaim a' ∧
    (a'.state = a.state ∨ a'.state = .cancelRequested)

theorem Stays.same {db' : Database} {a : AttemptRow} (h : a ∈ db'.queue.runAttempts.rows) :
    Stays db' a := ⟨a, h, .refl a, .inl rfl⟩

theorem Stays.of_attempts {db db' : Database} {a : AttemptRow} (ha : a ∈ db.queue.runAttempts.rows)
    (h : db'.queue.runAttempts = db.queue.runAttempts) : Stays db' a :=
  .same (h ▸ ha)

/-- A move on behalf of the owner of another attempt. -/
theorem Stays.of_other {db db' : Database} {a row : AttemptRow} {c : RunClaim} {now : Instant}
    {allow : Bool} {run : RunRow} {target : RunLifecycleState} {outcome : RunResultAvailability}
    {failure : Option RunFailure} (ha : a ∈ db.queue.runAttempts.rows)
    (h : OwnerMoved rt c now allow db db'.queue run row target outcome failure)
    (hother : c.attempt.attemptId ≠ a.attemptId) : Stays db' a := by
  refine .same (h.moved.attempts.mem_of_ne' ha ?_)
  rintro rfl
  exact hother h.owned.attempt_id.symm

theorem heartbeat_stays {db db' : Database} {a : AttemptRow} {c : RunClaim} {now : Instant}
    {lease : Int} {r : Except Error RunClaim} (hinv : QueueInvariant rt db.queue)
    (ha : a ∈ db.queue.runAttempts.rows) (h : heartbeat rt c now lease db = .ok (r, db')) :
    Stays db' a := by
  obtain ⟨a', ha', hkeeps⟩ := (heartbeat_deadlines hinv h).attempts a ha
  obtain ⟨⟨row, new, _, hr⟩, _⟩ := heartbeat_ok hinv h
  refine ⟨a', ha', hkeeps, .inl ?_⟩
  rcases hr.attempt.successor ha with ⟨rfl, hnew⟩ | ⟨_, hsame⟩
  · rw [Table.eq_of_key ha' hnew (hkeeps.attempt_id.trans hr.attempt.same_key.symm)]
    exact hr.same_outcome.1
  · rw [Table.eq_of_key ha' hsame hkeeps.attempt_id]

theorem requestCancel_stays {db db' : Database} {a : AttemptRow} {runId operator : String}
    {now : Instant} {record : RunQueueRecord} (hinv : QueueInvariant rt db.queue)
    (ha : a ∈ db.queue.runAttempts.rows)
    (h : requestCancel rt runId operator now db = .ok (record, db')) : Stays db' a := by
  obtain ⟨run, _, _, ⟨rfl, _⟩ | ⟨hw, _⟩ | ⟨row, hm, _⟩⟩ := requestCancel_ok hinv h
  · exact .same ha
  · exact .of_attempts ha (by rw [hw.frame])
  · rcases hm.attempts.successor ha with ⟨rfl, hnew⟩ | ⟨_, hsame⟩
    · exact ⟨_, hnew, ⟨rfl, rfl, rfl, rfl, rfl, rfl, rfl, rfl⟩, .inr rfl⟩
    · exact .same hsame

theorem QueueCall.stays {db db' : Database} {a : AttemptRow} {call : QueueCall} {o : Reply}
    (hinv : QueueInvariant rt db.queue) (ha : a ∈ db.queue.runAttempts.rows)
    (hid : a.attemptId = claim.attempt.attemptId) (hpermitted : Permitted claim db (.queue call))
    (h : call.exec rt db = .ok (o, db')) : Stays db' a := by
  cases call with
  | admitRun request =>
    rw [QueueCall.exec] at h
    obtain ⟨r, h, _⟩ := reply_ok h
    exact .of_attempts ha (by rw [(admit_chain h).2])
  | activateRole slot executorId now =>
    obtain ⟨r, h, _⟩ := reply_ok h
    exact .of_attempts ha (by rw [(activateRole_ok h).2.2.2.2.1.frame])
  | claimNext c =>
    obtain ⟨r, h, _⟩ := reply_ok h
    rcases (claimNext_ok hinv h).2 with ⟨_, rfl, _⟩ | ⟨row, claim', _, hc, _⟩
    · exact .same ha
    · refine .same ?_
      rw [(Table.insert?_some hc.insert).1]
      exact List.mem_append_left _ ha
  | heartbeat c now lease =>
    obtain ⟨r, h, _⟩ := reply_ok h
    exact heartbeat_stays hinv ha h
  | markFinalizing c now =>
    obtain ⟨r, h, _⟩ := reply_ok h
    obtain ⟨⟨run, row, hm, _⟩, _⟩ := markFinalizing_ok hinv h
    exact .of_other ha hm (hid ▸ hpermitted)
  | requestCancel runId operator now =>
    obtain ⟨r, h, _⟩ := reply_ok h
    exact requestCancel_stays hinv ha h
  | commitTerminalFailure c target failure now =>
    obtain ⟨r, h, _⟩ := reply_ok h
    obtain ⟨run, row, hm, _⟩ := commitTerminalFailure_ok hinv h
    exact .of_other ha hm (hid ▸ hpermitted)
  | commitSuccess c arguments now =>
    obtain ⟨r, h, _⟩ := reply_ok h
    obtain ⟨run, row, _, _, hm, _⟩ := commitSuccess_ok hinv h
    exact .of_other ha hm (hid ▸ hpermitted)
  | reapExpiredLeases now =>
    obtain ⟨n, h, _⟩ := reply_ok h
    obtain ⟨db₁, hfold, h⟩ := bind_ok h
    obtain ⟨_, rfl⟩ := Prod.mk.inj (pure_ok h)
    obtain ⟨_, _, hothers, _⟩ := reap_ok hinv (expiredAttempts_nodup _ _)
      (fun row hrow => ⟨(mem_expiredAttempts.mp hrow).1, (mem_expiredAttempts.mp hrow).2.1⟩) hfold
    refine .same (hothers a ha fun hexpired => ?_)
    exact absurd (mem_expiredAttempts.mp hexpired).2.2 (not_le.mpr (hpermitted a ha hid))

/-- **A permitted call leaves the attempt in its state, or requests its cancellation.** -/
theorem exec_stays {db db' : Database} {a : AttemptRow} {call : Call} {o : Reply}
    (hinv : QueueInvariant rt db.queue) (ha : a ∈ db.queue.runAttempts.rows)
    (hid : a.attemptId = claim.attempt.attemptId) (hpermitted : Permitted claim db call)
    (h : exec rt call db = .ok (o, db')) : Stays db' a := by
  cases call with
  | queue call => exact call.stays hinv ha hid hpermitted h
  | task call =>
    obtain ⟨r, _, h⟩ := bind_ok h
    cases pure_ok h
    exact .same ha
  | createTask arguments =>
    rw [exec] at h
    obtain ⟨r, h, _⟩ := reply_ok h
    exact .of_attempts ha (by rw [(taskCreate_chain h).2])
  | dispatch intent owner agent now admission turns =>
    obtain ⟨r, h, _⟩ := reply_ok h
    exact .of_attempts ha (by rw [(dispatch_chain h).2])
  | submit agent admission submission now =>
    rw [exec] at h
    obtain ⟨r, h, _⟩ := reply_ok h
    exact .of_attempts ha (by rw [(submit_chain h).2])
  | outside call => exact .of_attempts ha (by rw [call.queue_eq h])

/-! ## Requests -/

/-- The run of an attempt with the claim's columns is the claim's run. -/
theorem AttemptRow.KeepsClaim.run_eq {a : AttemptRow}
    (h : (AttemptRow.ofAttempt claim.attempt).KeepsClaim a) : a.runId = claim.runRequest.runId :=
  h.run_id.trans claim.same_run.symm

/-- A cancellation that was noted has reached the attempt. -/
theorem cancellations_reach {db db' : Database} {a : AttemptRow} {call : Call} {o : Reply}
    (hinv : QueueInvariant rt db.queue) (ha : a ∈ db'.queue.runAttempts.rows)
    (hrun : a.runId = claim.runRequest.runId) (h : exec rt call db = .ok (o, db'))
    (hnoted : ExecutorEvent.cancelRequested ∈ cancellations claim call o) :
    a.state = .cancelRequested := by
  unfold cancellations at hnoted
  split at hnoted
  · rename_i runId operator now record
    split at hnoted
    · rename_i hsame
      obtain ⟨rfl, hstate⟩ := hsame
      have hinv' := QueueChain.keeps hinv (exec_chain hinv h)
      obtain ⟨r, h, hr⟩ := reply_ok h
      cases hr
      obtain ⟨run, hmem, hid, ⟨rfl, rfl, _⟩ | ⟨_, _, hcancelled⟩ | ⟨row, hm, _⟩⟩ :=
        requestCancel_ok hinv h
      · rw [← (hinv.run_of ha hmem (hid.trans hrun.symm)).1]
        exact hstate
      · rw [hcancelled] at hstate
        cases hstate
      · exact ((hinv'.run_of ha hm.runs.mem_new (hid.trans hrun.symm)).1).symm
    · cases hnoted
  · cases hnoted

/-- **A step of the others keeps the attempt tracked.** -/
theorem Tracked.outside {s t : ExecutorWorld W} (h : Tracked rt claim s)
    (hst : Outside rt claim s t) : Tracked rt claim t := by
  cases hst with
  | call s hpermitted hcall =>
    obtain ⟨a, ha, hclaim, hpending⟩ := h.attempt
    have hstays := exec_stays h.queue ha hclaim.attempt_id hpermitted hcall
    obtain ⟨a', ha', hkeeps, hstate⟩ := hstays.row
    have hclaim' := AttemptRow.KeepsClaim.trans _ _ _ hclaim hkeeps
    refine ⟨QueueChain.keeps h.queue (exec_chain h.queue hcall), a', ha', hclaim', fun hnoted => ?_⟩
    rcases List.mem_append.mp hnoted with hearlier | hnow
    · rcases hstate with hsame | hcancel
      · rw [hsame, hpending hearlier]
      · exact hcancel
    · exact cancellations_reach h.queue ha' hclaim'.run_eq hcall hnow
  | clock now => exact ⟨h.queue, h.attempt⟩
  | outer w => exact ⟨h.queue, h.attempt⟩

theorem Tracked.among {s t : ExecutorWorld W} (h : Tracked rt claim s)
    (hst : Relation.ReflTransGen (Outside rt claim) s t) : Tracked rt claim t := by
  induction hst with
  | refl => exact h
  | tail _ hstep ih => exact ih.outside hstep

end ProofAgent
