import ProofAgent.RunQueue.Changes

/-! # The statements of the repository

What a statement that returned has done: a conditional write reached exactly one
row, and the two writes of a transition move a run together with its attempt. -/
namespace ProofAgent

open Base RunQueueRepository

/-! ## Statements -/

theorem writeRun_ok {record : RunQueueRecord} {state : RunLifecycleState} {version : Nat}
    {q q' : QueueTables} (h : writeRun record state version q = .ok q') :
    ∃ run, Table.Replaced q.runs q'.runs run (run.assign record) ∧
      run.runId = record.request.runId ∧ run.state = state ∧ run.stateVersion = version ∧
      (run.assign record).constraints ∧ q' = { q with runs := q'.runs } := by
  obtain ⟨⟨rowcount, q₁⟩, hu, h⟩ := bind_ok h
  obtain ⟨_, hcount, h⟩ := bind_ok h
  obtain ⟨_, hcons, hu⟩ := bind_ok hu
  cases pure_ok h
  cases pure_ok hu
  obtain ⟨run, hrun, hp, hrep⟩ := Table.replaced_of_update
    (fun r : RunRow => r.assign record) (fun _ => rfl) (require_ok hcount)
  have hc := require_ok hcons run hrun hp
  simp only [Bool.and_eq_true, decide_eq_true_eq] at hp
  exact ⟨run, hrep, hp.1.1, hp.1.2, hp.2, hc, rfl⟩

theorem writeAttempt_ok {attempt : RunAttempt} {version : Nat} {q q' : QueueTables}
    (h : writeAttempt attempt version q = .ok q') :
    ∃ a, Table.Replaced q.runAttempts q'.runAttempts a (a.assign attempt) ∧
      a.attemptId = attempt.attemptId ∧ a.stateVersion = version ∧
      (a.assign attempt).constraints ∧ q' = { q with runAttempts := q'.runAttempts } := by
  obtain ⟨_, hcons, h⟩ := bind_ok h
  obtain ⟨_, hcount, h⟩ := bind_ok h
  cases pure_ok h
  obtain ⟨a, ha, hp, hrep⟩ := Table.replaced_of_update
    (fun r : AttemptRow => r.assign attempt) (fun _ => rfl) (require_ok hcount)
  have hc := require_ok hcons a ha hp
  simp only [Bool.and_eq_true, decide_eq_true_eq] at hp
  exact ⟨a, hrep, hp.1.1.1.1, hp.1.1.1.2, hc, rfl⟩

theorem lockedRunRecord_ok {rt : Runtime} {runId : String} {q : QueueTables}
    {record : RunQueueRecord} (h : lockedRunRecord rt runId q = .ok record) :
    ∃ run ∈ q.runs.rows, run.runId = runId ∧ record = run.record := by
  obtain ⟨run, hrun, h⟩ := bind_ok h
  obtain ⟨hm, hk⟩ := Table.find?_some (orRaise_ok hrun)
  exact ⟨run, hm, hk, (RunQueueRecord.validate_ok h).1⟩

theorem attemptFromRow_ok {rt : Runtime} {row : AttemptRow} {a : RunAttempt}
    (h : attemptFromRow rt row = .ok a) : a = row.attemptJson :=
  (RunAttempt.validate_ok h).1

/-! ## Moving a run and its attempt -/

/-- Inside its active states a record moves without an outcome. -/
theorem RunRow.Sound.assign_moved {rt : Runtime} {r : RunRow} (h : r.Sound rt)
    (hs : r.state.isTerminal = false) (target : RunLifecycleState) (now : Instant) :
    r.assign (r.record.moved target now) = r.move target .unavailable none none now := by
  obtain ⟨hr, hf⟩ := h.quiet hs
  have hc : r.completedAt = none := by
    have := h.record.terminal
    simp only [RunRow.record, hs] at this
    simpa using this.symm
  simp only [RunRow.assign, RunQueueRecord.moved, RunRow.record, RunRow.move, hr, hf, hc]

theorem AttemptRow.Sound.outcome_eq {rt : Runtime} {a : AttemptRow} (h : a.Sound rt) :
    a.attemptJson.result = a.result ∧ a.attemptJson.failure = a.terminalFailureJson := by
  constructor
  · conv_rhs => rw [h.columns]
    rfl
  · conv_rhs => rw [h.columns]
    rfl

theorem AttemptRow.Sound.moved_eq {rt : Runtime} {a : AttemptRow} (h : a.Sound rt)
    (hs : a.state.isTerminal = false) (target : RunLifecycleState) (now : Instant) :
    a.attemptJson.moved target now = a.attemptJson.ended target .unavailable none now := by
  obtain ⟨hr, hf⟩ := h.quiet hs
  obtain ⟨hr', hf'⟩ := h.outcome_eq
  simp only [RunAttempt.ended, RunAttempt.moved, hr', hf', hr, hf]

theorem AttemptRow.Sound.state_eq {rt : Runtime} {a : AttemptRow} (h : a.Sound rt) :
    a.attemptJson.state = a.state := by
  conv_rhs => rw [h.columns]
  rfl

theorem AttemptRow.Sound.version_eq {rt : Runtime} {a : AttemptRow} (h : a.Sound rt) :
    a.attemptJson.stateVersion = a.stateVersion := by
  conv_rhs => rw [h.columns]
  rfl

theorem AttemptRow.Sound.attemptId_eq {rt : Runtime} {a : AttemptRow} (h : a.Sound rt) :
    a.attemptJson.attemptId = a.attemptId := by
  conv_rhs => rw [h.columns]
  rfl

theorem AttemptRow.Sound.runId_eq {rt : Runtime} {a : AttemptRow} (h : a.Sound rt) :
    a.attemptJson.runId = a.runId := by
  conv_rhs => rw [h.columns]
  rfl

/-- The run that is read between the two writes of a move. -/
theorem run_between {rt : Runtime} {q q₁ : QueueTables} {record : RunQueueRecord}
    {runId : String} {attempt : RunAttempt} {version : Nat}
    (hwrite : writeAttempt attempt version q = .ok q₁)
    (hread : lockedRunRecord rt runId q₁ = .ok record) :
    ∃ run ∈ q.runs.rows, run.runId = runId ∧ record = run.record := by
  obtain ⟨_, _, _, _, _, hq⟩ := writeAttempt_ok hwrite
  obtain ⟨run, hrun, hrest⟩ := lockedRunRecord_ok hread
  rw [hq] at hrun
  exact ⟨run, hrun, hrest⟩

/-- **The two writes of a move** rewrite the attempt and its run. -/
theorem moved_of_writes {rt : Runtime} {q q₁ q₂ : QueueTables} (hinv : QueueInvariant rt q)
    {a : AttemptRow} (ha : a ∈ q.runAttempts.rows) {run : RunRow} (hrun : run ∈ q.runs.rows)
    (hsame : run.runId = a.runId) {target : RunLifecycleState} {outcome : RunResultAvailability}
    {failure : Option RunFailure} {now : Instant} (hactive : a.state.isActive = true)
    (hallowed : a.state.allowed target = true) (hout : moveOutcome target outcome failure)
    {attempt : RunAttempt} {version : Nat}
    (hattempt : attempt = a.attemptJson.ended target outcome failure now)
    (hwrite : writeAttempt attempt version q = .ok q₁)
    {record : RunQueueRecord} {state : RunLifecycleState} {stateVersion : Nat}
    (hid : record.request = run.requestJson)
    (hrecord : run.assign record = run.move target outcome failure
      (if target.isTerminal then some now else none) now)
    (hwriteRun : writeRun record state stateVersion q₁ = .ok q₂) :
    Moved q q₂ run a target outcome failure now := by
  have hsound := hinv.attempts a ha
  obtain ⟨a', hrepA, hidA, _, hconsA, hq₁⟩ := writeAttempt_ok hwrite
  obtain rfl : a' = a := by
    refine Table.eq_of_key hrepA.mem_old ha (hidA.trans ?_)
    rw [hattempt]; exact hsound.attemptId_eq
  obtain ⟨run', hrepR, hidR, _, _, hconsR, hq₂⟩ := writeRun_ok hwriteRun
  have hruns : q₁.runs = q.runs := by rw [hq₁]
  rw [hruns] at hrepR
  obtain rfl : run' = run := by
    refine Table.eq_of_key hrepR.mem_old hrun (hidR.trans ?_)
    rw [hid]; exact (hinv.runs run hrun).run_id.symm
  have hattempts : q₂.runAttempts = q₁.runAttempts := by rw [hq₂]
  rw [hrecord] at hrepR hconsR
  rw [hattempt, hsound.assign_ended] at hrepA hconsA
  exact {
    runs := hrepR
    attempts := hattempts ▸ hrepA
    same_run := hsame.symm
    active := hactive
    allowed := hallowed
    outcome_ok := hout
    created := ⟨hconsR.2.1, hconsA.2.2.2.2.1⟩
    frame := by rw [hq₂, hq₁] }

/-! ## The owner of an attempt -/

/-- What `_lock_owned_attempt` has checked of a claim's attempt. -/
structure Owned (claim : RunClaim) (row : AttemptRow) (now : Instant) (allowDeadlineExpired : Bool)
    (db : Database) : Prop where
  mem : row ∈ db.queue.runAttempts.rows
  attempt_id : row.attemptId = claim.attempt.attemptId
  identity : row.runId = claim.attempt.runId ∧ row.claimToken = claim.attempt.claimToken ∧
    row.fencingToken = claim.attempt.fencingEpoch ∧
    row.activationEpoch = claim.attempt.activationEpoch ∧
    row.executorId = claim.attempt.executorId
  active : row.state.isActive = true
  lease : now < row.leaseExpiresAt
  deadline : allowDeadlineExpired = true ∨ now < row.deadlineAt
  role : ∃ x ∈ db.queue.runExecutorActivations.rows,
    ownsActivation x.slot claim.attempt.executorId claim.attempt.activationEpoch x ∧
    requireWorkerRoleLease x.slot claim.attempt.executorId now true db = .ok ()

theorem lockOwnedAttempt_ok {claim : RunClaim} {now : Instant} {allow : Bool} {db : Database}
    {row : AttemptRow} (h : lockOwnedAttempt claim now allow db = .ok row) :
    Owned claim row now allow db := by
  obtain ⟨slot, hslot, h⟩ := bind_ok h
  obtain ⟨_, hrole, h⟩ := bind_ok h
  obtain ⟨row', hrow, h⟩ := bind_ok h
  obtain ⟨_, hident, h⟩ := bind_ok h
  obtain ⟨_, hactive, h⟩ := bind_ok h
  obtain ⟨_, hlease, h⟩ := bind_ok h
  obtain ⟨_, hdeadline, h⟩ := bind_ok h
  cases pure_ok h
  obtain ⟨x, hx, hslot⟩ := bind_ok hslot
  cases pure_ok hslot
  have hfound := orRaise_ok hx
  have hp := List.find?_some hfound
  simp only [Bool.and_eq_true, decide_eq_true_eq] at hp
  obtain ⟨_, _, hworker⟩ := bind_ok hrole
  obtain ⟨hm, hk⟩ := Table.find?_some (orRaise_ok hrow)
  exact {
    mem := hm
    attempt_id := hk
    identity := require_ok hident
    active := require_ok hactive
    lease := require_ok hlease
    deadline := require_ok hdeadline
    role := ⟨x, List.mem_of_find?_eq_some hfound, ⟨rfl, hp.1.1, hp.2, hp.1.2⟩, hworker⟩ }

/-- The claim's run is the run of the attempt it owns. -/
theorem Owned.run_id {claim : RunClaim} {row : AttemptRow} {now : Instant} {allow : Bool}
    {db : Database} (h : Owned claim row now allow db) :
    claim.runRequest.runId = row.runId :=
  claim.same_run.trans h.identity.1.symm

/-- Only the latest activation owns anything. -/
theorem Owned.epoch {rt : Runtime} {claim : RunClaim} {row : AttemptRow} {now : Instant}
    {allow : Bool} {db : Database} (hinv : QueueInvariant rt db.queue)
    (h : Owned claim row now allow db) :
    claim.attempt.activationEpoch = currentEpoch db.queue := by
  obtain ⟨x, hx, ⟨_, hact, _, hepoch⟩, _⟩ := h.role
  rw [← hepoch]
  exact (hinv.activations x hx hact).1

end ProofAgent
