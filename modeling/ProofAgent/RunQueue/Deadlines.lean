import ProofAgent.RunQueue.Growth
import ProofAgent.RunQueue.Recovery

/-! # Leases and deadlines

`claim_next` gives an attempt a lease that is shorter than its deadline, and `heartbeat` never
renews it past the deadline. From the deadline on, every attempt's lease has therefore run out,
and `_lock_owned_attempt` looks at the lease first: what it allows of an attempt whose deadline
has expired is never reached. -/
namespace ProofAgent

open Base RunQueueRepository

variable {rt : Runtime} {db db' : Database} {now : Instant}

/-- No lease outlasts the deadline of its attempt. -/
def LeasesBounded (q : QueueTables) : Prop :=
  ∀ a ∈ q.runAttempts.rows, a.leaseExpiresAt ≤ a.deadlineAt

/-- The columns that a claim fixes. -/
structure AttemptRow.KeepsClaim (a a' : AttemptRow) : Prop where
  attempt_id : a'.attemptId = a.attemptId
  run_id : a'.runId = a.runId
  token : a'.claimToken = a.claimToken
  fencing : a'.fencingToken = a.fencingToken
  epoch : a'.activationEpoch = a.activationEpoch
  executor : a'.executorId = a.executorId
  deadline : a'.deadlineAt = a.deadlineAt
  created : a'.createdAt = a.createdAt

namespace AttemptRow.KeepsClaim

theorem refl (a : AttemptRow) : a.KeepsClaim a := ⟨rfl, rfl, rfl, rfl, rfl, rfl, rfl, rfl⟩

theorem trans (a b c : AttemptRow) (h : a.KeepsClaim b) (h' : b.KeepsClaim c) : a.KeepsClaim c where
  attempt_id := h'.attempt_id.trans h.attempt_id
  run_id := h'.run_id.trans h.run_id
  token := h'.token.trans h.token
  fencing := h'.fencing.trans h.fencing
  epoch := h'.epoch.trans h.epoch
  executor := h'.executor.trans h.executor
  deadline := h'.deadline.trans h.deadline
  created := h'.created.trans h.created

end AttemptRow.KeepsClaim

/-- Bounded leases stay bounded, and every attempt keeps what its claim fixed. -/
structure DeadlinesKept (q q' : QueueTables) : Prop where
  leases : LeasesBounded q → LeasesBounded q'
  attempts : Table.Evolves AttemptRow.KeepsClaim q.runAttempts q'.runAttempts

namespace DeadlinesKept

variable {q q' : QueueTables}

theorem of_attempts (h : q'.runAttempts = q.runAttempts) : DeadlinesKept q q' := by
  refine ⟨fun hb => ?_, ?_⟩
  · unfold LeasesBounded
    rw [h]
    exact hb
  · rw [h]
    exact .refl .refl

theorem refl (q : QueueTables) : DeadlinesKept q q := of_attempts rfl

theorem trans (q₁ q₂ q₃ : QueueTables) (h : DeadlinesKept q₁ q₂) (h' : DeadlinesKept q₂ q₃) :
    DeadlinesKept q₁ q₃ where
  leases := fun hb => h'.leases (h.leases hb)
  attempts := h.attempts.trans AttemptRow.KeepsClaim.trans h'.attempts

/-- One attempt is replaced. -/
theorem of_replaced {old new : AttemptRow} (h : Table.Replaced q.runAttempts q'.runAttempts old new)
    (hkeeps : old.KeepsClaim new)
    (hlease : old.leaseExpiresAt ≤ old.deadlineAt → new.leaseExpiresAt ≤ new.deadlineAt) :
    DeadlinesKept q q' where
  leases := by
    intro hb a ha
    rcases (h.rows a).mp ha with rfl | ⟨ha, _⟩
    · exact hlease (hb old h.mem_old)
    · exact hb a ha
  attempts := .of_replaced .refl h hkeeps

theorem of_moved {run : RunRow} {attempt : AttemptRow} {target : RunLifecycleState}
    {outcome : RunResultAvailability} {failure : Option RunFailure}
    (h : Moved q q' run attempt target outcome failure now) : DeadlinesKept q q' :=
  of_replaced h.attempts ⟨rfl, rfl, rfl, rfl, rfl, rfl, rfl, rfl⟩ id

end DeadlinesKept

/-! ## Calls -/

/-- **A claim's lease is shorter than its deadline.** -/
theorem claimNext_lease {c : ClaimArguments} {claim : RunClaim}
    (h : claimNext rt c db = .ok (some claim, db')) :
    claim.attempt.leaseExpiresAt ≤ claim.attempt.deadlineAt := by
  obtain ⟨_, _, h⟩ := bind_ok h
  obtain ⟨_, _, h⟩ := bind_ok h
  obtain ⟨_, hshorter, h⟩ := bind_ok h
  obtain ⟨_, _, h⟩ := bind_ok h
  split at h
  · cases pure_ok h
  · split at h
    · cases pure_ok h
    · obtain ⟨⟨claim', db₁⟩, hclaim, h⟩ := bind_ok h
      obtain ⟨hsome, rfl⟩ := Prod.mk.inj (pure_ok h)
      obtain rfl := Option.some.inj hsome
      obtain ⟨snapshot, _, hclaim⟩ := bind_ok hclaim
      obtain ⟨_, _, hclaim⟩ := bind_ok hclaim
      obtain ⟨attempt, hattempt, hclaim⟩ := bind_ok hclaim
      obtain ⟨q₁, _, hclaim⟩ := bind_ok hclaim
      obtain ⟨running, _, hclaim⟩ := bind_ok hclaim
      obtain ⟨⟨rowcount, q₂⟩, _, hclaim⟩ := bind_ok hclaim
      obtain ⟨_, _, hclaim⟩ := bind_ok hclaim
      obtain ⟨claim', hmake, hclaim⟩ := bind_ok hclaim
      obtain ⟨rfl, _⟩ := Prod.mk.inj (pure_ok hclaim)
      rw [(RunClaim.make_ok hmake).2, (RunAttempt.validate_ok hattempt).1]
      have hle : seconds c.leaseSeconds ≤ seconds c.deadlineSeconds := by
        have := require_ok hshorter
        unfold seconds
        omega
      exact Int.add_le_add_left hle c.now

theorem claimNext_deadlines {c : ClaimArguments} {claim : Option RunClaim}
    (hinv : QueueInvariant rt db.queue) (h : claimNext rt c db = .ok (claim, db')) :
    DeadlinesKept db.queue db'.queue := by
  rcases (claimNext_ok hinv h).2 with ⟨_, rfl, _⟩ | ⟨row, claim', rfl, hc, _⟩
  · exact .refl _
  · refine ⟨fun hb a ha => ?_, .of_insert .refl hc.insert⟩
    rw [(Table.insert?_some hc.insert).1] at ha
    rcases List.mem_append.mp ha with ha | ha
    · exact hb a ha
    · rw [List.mem_singleton.mp ha]
      exact claimNext_lease h

/-- **A heartbeat renews the lease up to the deadline.** -/
theorem heartbeat_deadlines {claim : RunClaim} {leaseSeconds : Int} {r : Except Error RunClaim}
    (hinv : QueueInvariant rt db.queue)
    (h : heartbeat rt claim now leaseSeconds db = .ok (r, db')) :
    DeadlinesKept db.queue db'.queue := by
  obtain ⟨_, _, h⟩ := bind_ok h
  obtain ⟨row, hrow, h⟩ := bind_ok h
  obtain ⟨attempt, hattempt, h⟩ := bind_ok h
  obtain ⟨_, _, h⟩ := bind_ok h
  obtain ⟨queue, hwrite, h⟩ := bind_ok h
  obtain ⟨_, rfl⟩ := Prod.mk.inj (pure_ok h)
  have howned := lockOwnedAttempt_ok hrow
  have hsound := hinv.attempts row howned.mem
  obtain rfl := attemptFromRow_ok hattempt
  obtain ⟨row', hrep, hid, _⟩ := writeAttempt_ok hwrite
  obtain rfl : row' = row :=
    Table.eq_of_key hrep.mem_old howned.mem (hid.trans hsound.attemptId_eq)
  have hdeadline : row'.attemptJson.deadlineAt = row'.deadlineAt := by
    conv_rhs => rw [hsound.columns]
    rfl
  refine .of_replaced hrep ⟨rfl, rfl, rfl, rfl, rfl, rfl, rfl, rfl⟩ fun _ => ?_
  exact le_of_le_of_eq (min_le_right _ _) hdeadline

/-- Reaping is one move after another. -/
theorem reap_deadlines : ∀ {rows : List AttemptRow} {db db' : Database},
    QueueInvariant rt db.queue → rows.Nodup →
    (∀ row ∈ rows, row ∈ db.queue.runAttempts.rows ∧ row.state.isActive = true) →
    rows.foldlM (reapAttempt rt now) db = .ok db' → DeadlinesKept db.queue db'.queue
  | [], _, _, _, _, _, h => by
    cases pure_ok h
    exact .refl _
  | row :: rows, db, db', hinv, hnodup, hmem, h => by
    rw [List.foldlM_cons] at h
    obtain ⟨db₁, hone, hrest⟩ := bind_ok h
    obtain ⟨hrow, hactive⟩ := hmem row List.mem_cons_self
    obtain ⟨run, hmoved, _⟩ := reapAttempt_ok hinv hrow hactive hone
    have hchange : QueueChange rt db.queue db₁.queue := .moved _ _ _ _ _ _ hmoved
    rw [List.nodup_cons] at hnodup
    refine DeadlinesKept.trans _ _ _ (.of_moved hmoved)
      (reap_deadlines (hchange.keeps hinv) hnodup.2 (fun a ha => ?_) hrest)
    obtain ⟨hold, hactive'⟩ := hmem a (List.mem_cons_of_mem _ ha)
    exact ⟨hmoved.attempts.mem_of_ne' hold (by rintro rfl; exact hnodup.1 ha), hactive'⟩

theorem QueueCall.deadlines {call : QueueCall} {o : Reply} (hinv : QueueInvariant rt db.queue)
    (h : call.exec rt db = .ok (o, db')) : DeadlinesKept db.queue db'.queue := by
  cases call with
  | admitRun request =>
    rw [QueueCall.exec] at h
    obtain ⟨r, h, _⟩ := reply_ok h
    exact .of_attempts (by rw [(admit_chain h).2])
  | activateRole slot executorId now =>
    obtain ⟨r, h, _⟩ := reply_ok h
    exact .of_attempts (by rw [(activateRole_ok h).2.2.2.2.1.frame])
  | claimNext c =>
    obtain ⟨r, h, _⟩ := reply_ok h
    exact claimNext_deadlines hinv h
  | heartbeat claim now lease =>
    obtain ⟨r, h, _⟩ := reply_ok h
    exact heartbeat_deadlines hinv h
  | markFinalizing claim now =>
    obtain ⟨r, h, _⟩ := reply_ok h
    obtain ⟨⟨run, row, hm, _⟩, _⟩ := markFinalizing_ok hinv h
    exact .of_moved hm.moved
  | requestCancel runId operator now =>
    obtain ⟨r, h, _⟩ := reply_ok h
    obtain ⟨run, _, _, ⟨rfl, _⟩ | ⟨hw, _⟩ | ⟨row, hm, _⟩⟩ := requestCancel_ok hinv h
    · exact .refl _
    · exact .of_attempts (by rw [hw.frame])
    · exact .of_moved hm
  | commitTerminalFailure claim target failure now =>
    obtain ⟨r, h, _⟩ := reply_ok h
    obtain ⟨run, row, hm, _⟩ := commitTerminalFailure_ok hinv h
    exact .of_moved hm.moved
  | commitSuccess claim a now =>
    obtain ⟨r, h, _⟩ := reply_ok h
    obtain ⟨run, row, _, _, hm, _⟩ := commitSuccess_ok hinv h
    exact .of_moved hm.moved
  | reapExpiredLeases now =>
    obtain ⟨n, h, _⟩ := reply_ok h
    obtain ⟨db₁, hfold, h⟩ := bind_ok h
    obtain ⟨_, rfl⟩ := Prod.mk.inj (pure_ok h)
    exact reap_deadlines hinv (expiredAttempts_nodup _ _)
      (fun row hrow => ⟨(mem_expiredAttempts.mp hrow).1, (mem_expiredAttempts.mp hrow).2.1⟩) hfold

theorem exec_deadlines {call : Call} {o : Reply} (hinv : QueueInvariant rt db.queue)
    (h : exec rt call db = .ok (o, db')) : DeadlinesKept db.queue db'.queue := by
  cases call with
  | queue call => exact call.deadlines hinv h
  | task call =>
    obtain ⟨r, _, h⟩ := bind_ok h
    cases pure_ok h
    exact .refl _
  | createTask a =>
    rw [exec] at h
    obtain ⟨r, h, _⟩ := reply_ok h
    exact .of_attempts (by rw [(taskCreate_chain h).2])
  | dispatch intent owner agent now admission turns =>
    obtain ⟨r, h, _⟩ := reply_ok h
    exact .of_attempts (by rw [(dispatch_chain h).2])
  | submit agent admission submission now =>
    rw [exec] at h
    obtain ⟨r, h, _⟩ := reply_ok h
    exact .of_attempts (by rw [(submit_chain h).2])
  | outside call => exact .of_attempts (by rw [call.queue_eq h])

/-! ## Histories -/

theorem DeadlinesKept.of_history (hinv : QueueInvariant rt db.queue) (calls : List Call) :
    DeadlinesKept db.queue (after (exec rt) db calls).queue :=
  after_related (I := fun db => QueueInvariant rt db.queue)
    (R := fun a b => DeadlinesKept a.queue b.queue)
    (fun _ _ _ _ hi h => QueueChain.keeps hi (exec_chain hi h)) (fun _ => .refl _)
    (fun _ _ _ => .trans _ _ _) (fun _ _ _ _ hi h => exec_deadlines hi h) calls db hinv

/-- **In every reachable state the leases are bounded by the deadlines.** -/
theorem Reachable.leasesBounded (h : Reachable rt db) : LeasesBounded db.queue := by
  obtain ⟨calls, rfl⟩ := h
  exact (DeadlinesKept.of_history (.initial rt) calls).leases fun _ ha => (nomatch ha)

/-! ## Timeouts -/

/-- The attempt of a claim is active, under a live activation and worker role; nothing is said
of its lease. -/
structure RoleOwned (claim : RunClaim) (row : AttemptRow) (now : Instant) (db : Database) : Prop where
  mem : row ∈ db.queue.runAttempts.rows
  attempt_id : row.attemptId = claim.attempt.attemptId
  identity : row.runId = claim.attempt.runId ∧ row.claimToken = claim.attempt.claimToken ∧
    row.fencingToken = claim.attempt.fencingEpoch ∧
    row.activationEpoch = claim.attempt.activationEpoch ∧
    row.executorId = claim.attempt.executorId
  active : row.state.isActive = true
  role : ∃ x ∈ db.queue.runExecutorActivations.rows,
    ownsActivation x.slot claim.attempt.executorId claim.attempt.activationEpoch x ∧
    requireWorkerRoleLease x.slot claim.attempt.executorId now true db = .ok ()

/-- **The owner of an expired lease is told so**, whatever it wants the attempt for. -/
theorem RoleOwned.expired (hinv : QueueInvariant rt db.queue) {claim : RunClaim} {row : AttemptRow}
    (h : RoleOwned claim row now db) (hlease : row.leaseExpiresAt ≤ now) (allow : Bool) :
    lockOwnedAttempt claim now allow db =
      .error (.runClaimRejected "Run Attempt lease has expired") := by
  obtain ⟨slot, hslot, hrole⟩ := liveRole_passes hinv h.role
  have hnot : ¬ now < row.leaseExpiresAt := not_lt.mpr hlease
  unfold RunQueueRepository.lockOwnedAttempt
  rw [hslot, ok_bind, hrole, ok_bind, ← h.attempt_id, Table.find?_of_mem h.mem, orRaise_some,
    ok_bind, require_true _ h.identity, ok_bind, require_true _ h.active, ok_bind]
  unfold require
  rw [if_neg hnot]
  rfl

/-- The attempt of a claim along a history: its row has the deadline of the claim, and its lease
ends by then. -/
theorem claimed_lease {c : ClaimArguments} {claim : RunClaim} {row : AttemptRow}
    (hdb : Reachable rt db) (hclaim : claimNext rt c db = .ok (some claim, db')) (rest : List Call)
    (hrow : row ∈ (after (exec rt) db' rest).queue.runAttempts.rows)
    (hid : row.attemptId = claim.attempt.attemptId) :
    row.leaseExpiresAt ≤ claim.attempt.deadlineAt := by
  have hinv := hdb.queue
  have hcall : exec rt (.queue (.claimNext c)) db = .ok (.claim (some claim), db') := by
    simp only [exec, QueueCall.exec, hclaim]
    rfl
  have hinv' := QueueChain.keeps hinv (exec_chain hinv hcall)
  have hbounded := ((DeadlinesKept.of_history hinv' rest).leases
    ((exec_deadlines hinv hcall).leases hdb.leasesBounded)) row hrow
  rcases (claimNext_ok hinv hclaim).2 with ⟨hnone, _⟩ | ⟨run, claim', hsome, hc, _⟩
  · cases hnone
  · obtain rfl := Option.some.inj hsome
    have hnew : AttemptRow.ofAttempt claim.attempt ∈ db'.queue.runAttempts.rows := by
      rw [(Table.insert?_some hc.insert).1]
      exact List.mem_append_right _ (List.mem_singleton_self _)
    obtain ⟨later, hlater, hkept⟩ := (DeadlinesKept.of_history hinv' rest).attempts _ hnew
    obtain rfl := Table.eq_of_key hrow hlater (hid.trans hkept.attempt_id.symm)
    exact le_of_le_of_eq hbounded hkept.deadline

/-- **No timeout is ever recorded.** Whatever happened since an attempt was claimed, its owner's
`commit_terminal_failure` with the target `TIMED_OUT` raises at every instant from the deadline
on; if the attempt is active under a live role, because its lease has expired. -/
theorem timeout_never_recorded {c : ClaimArguments} {claim : RunClaim} (hdb : Reachable rt db)
    (hclaim : claimNext rt c db = .ok (some claim, db')) (rest : List Call) (owner : RunClaim)
    (howner : owner.attempt.attemptId = claim.attempt.attemptId)
    (hdeadline : claim.attempt.deadlineAt ≤ now) (failure : RunFailure) :
    (∃ e, commitTerminalFailure rt owner .timedOut failure now (after (exec rt) db' rest) =
      .error e) ∧
    ∀ row, RoleOwned owner row now (after (exec rt) db' rest) →
      commitTerminalFailure rt owner .timedOut failure now (after (exec rt) db' rest) =
        .error (.runClaimRejected "Run Attempt lease has expired") := by
  have hinv := hdb.queue
  have hcall : exec rt (.queue (.claimNext c)) db = .ok (.claim (some claim), db') := by
    simp only [exec, QueueCall.exec, hclaim]
    rfl
  have hinv' : QueueInvariant rt (after (exec rt) db' rest).queue :=
    QueueChain.keeps (QueueChain.keeps hinv (exec_chain hinv hcall))
      (history_chain (QueueChain.keeps hinv (exec_chain hinv hcall)) rest)
  refine ⟨?_, fun row howned => ?_⟩
  · cases h : commitTerminalFailure rt owner .timedOut failure now (after (exec rt) db' rest) with
    | error e => exact ⟨e, rfl⟩
    | ok r =>
      obtain ⟨run, row, hm, _⟩ := commitTerminalFailure_ok hinv' h
      have hlease := claimed_lease hdb hclaim rest hm.owned.mem (hm.owned.attempt_id.trans howner)
      exact absurd hm.owned.lease (not_lt.mpr (hlease.trans hdeadline))
  · have hlease := claimed_lease hdb hclaim rest howned.mem (howned.attempt_id.trans howner)
    unfold commitTerminalFailure
    rw [require_true _ (.inr (.inl rfl)), ok_bind,
      howned.expired hinv' (hlease.trans hdeadline)]
    rfl

namespace Sample

/-- An executor and a run in its queue. -/
def queuedRun : Database := after (exec runtime) Database.initial
  (activated ++ [.queue (.admitRun aliceFirst)])

/-- A claim with a lease of 30 seconds and a deadline after 60. -/
def timedClaim : ClaimArguments := claim "attempt" 0

/-- The owner sends a heartbeat after 20 and after 45 seconds, and records a timeout at the
deadline: the attempt's state and lease, and what becomes of the timeout. -/
def timeoutAtDeadline : Except Error (RunLifecycleState × Instant × Except Error RunQueueRecord) := do
  let (claim, db) ← claimNext runtime timedClaim queuedRun
  let claim ← orRaise claim (.value "nothing to claim")
  let (_, db) ← heartbeat runtime claim (seconds 20) 30 db
  let (_, db) ← heartbeat runtime claim (seconds 45) 30 db
  let row ← orRaise (db.queue.runAttempts.find? claim.attempt.attemptId) (.value "no attempt")
  return (row.state, row.leaseExpiresAt,
    (commitTerminalFailure runtime claim .timedOut { code := .deadlineExceeded }
      claim.attempt.deadlineAt db).map (·.1))

theorem timedClaim_claims :
    (claimNext runtime timedClaim queuedRun).toOption.map (fun r => r.1.isSome) = some true := by
  decide

end Sample

/-- A running attempt whose owner has renewed its lease in time cannot time out. -/
theorem timeout_rejected_at_deadline :
    RunLifecycleState.running.allowed .timedOut = true ∧
    Sample.timeoutAtDeadline = .ok (.running, seconds 60,
      .error (.runClaimRejected "Run Attempt lease has expired")) := by
  decide

/-- The owner of the claim cannot record its timeout at the deadline. -/
theorem timeout_never_recorded_attempt : ∃ claim db',
    claimNext Sample.runtime Sample.timedClaim Sample.queuedRun = .ok (some claim, db') ∧
      ∃ e, commitTerminalFailure Sample.runtime claim .timedOut { code := .deadlineExceeded }
        claim.attempt.deadlineAt db' = .error e := by
  have hclaims := Sample.timedClaim_claims
  cases h : claimNext Sample.runtime Sample.timedClaim Sample.queuedRun with
  | error e =>
    rw [h] at hclaims
    cases hclaims
  | ok r =>
    obtain ⟨claim, db'⟩ := r
    rw [h] at hclaims
    cases claim with
    | none => cases hclaims
    | some claim =>
      exact ⟨claim, db', rfl, (timeout_never_recorded ⟨_, rfl⟩ h [] claim rfl le_rfl _).1⟩

end ProofAgent
