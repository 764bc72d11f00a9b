import ProofAgent.RunQueue.Growth

/-! # Stale owners are fenced

An executor acts on an old `RunClaim` value, whose token and fencing epoch are
still well formed. `Owned` is what the database demands of it: the latest
activation and an active attempt. Both are lost for good, the one to the next
activation and the other to the end of the attempt. -/
namespace ProofAgent

open Base RunQueueRepository

variable {rt : Runtime} {db db' : Database}

/-- A call that only the owner of a claim may make. -/
inductive OwnerCall where
  | heartbeat (now : Instant) (leaseSeconds : Int)
  | markFinalizing (now : Instant)
  | commitTerminalFailure (target : RunLifecycleState) (failure : RunFailure) (now : Instant)
  | commitSuccess (arguments : SuccessArguments) (now : Instant)

def OwnerCall.on (claim : RunClaim) : OwnerCall → Call
  | .heartbeat now leaseSeconds => .queue (.heartbeat claim now leaseSeconds)
  | .markFinalizing now => .queue (.markFinalizing claim now)
  | .commitTerminalFailure target failure now =>
    .queue (.commitTerminalFailure claim target failure now)
  | .commitSuccess arguments now => .queue (.commitSuccess claim arguments now)

/-- A call that raises; then nothing at all has changed. -/
def Raises (rt : Runtime) (db : Database) (call : Call) : Prop :=
  (∃ e, exec rt call db = .error e) ∧ step (exec rt) db call = db

theorem Raises.of_not_ok {call : Call} (h : ∀ o db', exec rt call db ≠ .ok (o, db')) :
    Raises rt db call := by
  obtain ⟨e, he⟩ := raises_of_not_ok fun r : Reply × Database => h r.1 r.2
  exact ⟨⟨e, he⟩, step_error he⟩

theorem OwnerCall.owned {op : OwnerCall} {claim : RunClaim} {o : Reply}
    (hinv : QueueInvariant rt db.queue) (h : exec rt (op.on claim) db = .ok (o, db')) :
    ∃ row now allow, Owned claim row now allow db := by
  cases op with
  | heartbeat now leaseSeconds =>
    obtain ⟨r, h, _⟩ := reply_ok h
    obtain ⟨⟨row, _, howned, _⟩, _⟩ := heartbeat_ok hinv h
    exact ⟨row, now, _, howned⟩
  | markFinalizing now =>
    obtain ⟨r, h, _⟩ := reply_ok h
    obtain ⟨⟨run, row, hm, _⟩, _⟩ := markFinalizing_ok hinv h
    exact ⟨row, now, _, hm.owned⟩
  | commitTerminalFailure target failure now =>
    obtain ⟨r, h, _⟩ := reply_ok h
    obtain ⟨run, row, hm, _⟩ := commitTerminalFailure_ok hinv h
    exact ⟨row, now, _, hm.owned⟩
  | commitSuccess arguments now =>
    obtain ⟨r, h, _⟩ := reply_ok h
    obtain ⟨run, row, _, _, hm, _⟩ := commitSuccess_ok hinv h
    exact ⟨row, now, _, hm.owned⟩

/-- A claim of an earlier activation. -/
theorem OwnerCall.raises_of_epoch (hinv : QueueInvariant rt db.queue) {claim : RunClaim}
    (h : claim.attempt.activationEpoch < currentEpoch db.queue) (op : OwnerCall) :
    Raises rt db (op.on claim) :=
  .of_not_ok fun o db' hok => by
    obtain ⟨row, now, allow, howned⟩ := op.owned hinv hok
    exact absurd (howned.epoch hinv) (Nat.ne_of_lt h)

/-- A claim whose attempt has ended. -/
theorem OwnerCall.raises_of_ended (hinv : QueueInvariant rt db.queue) {claim : RunClaim}
    {a : AttemptRow} (ha : a ∈ db.queue.runAttempts.rows)
    (hid : a.attemptId = claim.attempt.attemptId) (hended : a.state.isTerminal = true)
    (op : OwnerCall) : Raises rt db (op.on claim) :=
  .of_not_ok fun o db' hok => by
    obtain ⟨row, now, allow, howned⟩ := op.owned hinv hok
    obtain rfl := Table.eq_of_key ha howned.mem (hid.trans howned.attempt_id.symm)
    rw [RunLifecycleState.active_not_terminal howned.active] at hended
    cases hended

/-! ## Terminal commits -/

/-- A call that returned and ended the run: a commit of either kind, the reaping of
its attempt, or the cancellation of the queued run. -/
def EndsRun (rt : Runtime) (db : Database) (runId : String) (call : Call) : Prop :=
  (∃ o db', exec rt call db = .ok (o, db')) ∧
    match call with
    | .queue (.commitSuccess claim ..) => claim.runRequest.runId = runId
    | .queue (.commitTerminalFailure claim ..) => claim.runRequest.runId = runId
    | .queue (.reapExpiredLeases now) => ∃ a ∈ expiredAttempts now db.queue, a.runId = runId
    | .queue (.requestCancel id ..) =>
      id = runId ∧ ∃ r ∈ db.queue.runs.rows, r.runId = runId ∧ r.state = .queued
    | _ => False

/-- A run that has ended. -/
def HasEnded (q : QueueTables) (runId : String) : Prop :=
  ∃ r ∈ q.runs.rows, r.runId = runId ∧ r.state.isTerminal = true

theorem HasEnded.grows {q q' : QueueTables} {runId : String} (h : HasEnded q runId)
    (hgrow : QueueGrows q q') : HasEnded q' runId := by
  obtain ⟨r, hr, hid, ht⟩ := h
  obtain ⟨r', hr', hf⟩ := hgrow.runs r hr
  exact ⟨r', hr', hf.run_id.trans hid, by rw [hf.settled ht]; exact ht⟩

theorem not_hasEnded {q : QueueTables} {r : RunRow} (hr : r ∈ q.runs.rows)
    (h : r.state.isTerminal = false) : ¬ HasEnded q r.runId := by
  rintro ⟨s, hs, hid, ht⟩
  obtain rfl := Table.eq_of_key hs hr hid
  rw [h] at ht
  cases ht

/-- The run of a move was going on before and has the target state after it. -/
theorem Moved.ends {q q' : QueueTables} {run : RunRow} {attempt : AttemptRow}
    {target : RunLifecycleState} {outcome : RunResultAvailability} {failure : Option RunFailure}
    {now : Instant} (hinv : QueueInvariant rt q)
    (h : Moved q q' run attempt target outcome failure now) (ht : target.isTerminal = true) :
    ¬ HasEnded q run.runId ∧ HasEnded q' run.runId := by
  have hstate := (hinv.run_of h.attempts.mem_old h.runs.mem_old h.same_run.symm).1
  refine ⟨not_hasEnded h.runs.mem_old ?_, _, h.runs.mem_new, rfl, ht⟩
  rw [hstate]
  exact RunLifecycleState.active_not_terminal h.active

/-- A run ends only while it is going on, and then it has ended. -/
theorem EndsRun.ends {runId : String} {call : Call} (hinv : QueueInvariant rt db.queue)
    (h : EndsRun rt db runId call) :
    ¬ HasEnded db.queue runId ∧ HasEnded (step (exec rt) db call).queue runId := by
  obtain ⟨⟨o, db', hok⟩, hcall⟩ := h
  rw [step_ok hok]
  split at hcall
  · obtain ⟨r, hok, _⟩ := reply_ok hok
    obtain ⟨run, row, _, _, hm, _⟩ := commitSuccess_ok hinv hok
    obtain rfl := hm.run_id.trans hcall
    exact hm.moved.ends hinv rfl
  · obtain ⟨r, hok, _⟩ := reply_ok hok
    obtain ⟨run, row, hm, htarget, _⟩ := commitTerminalFailure_ok hinv hok
    obtain rfl := hm.run_id.trans hcall
    exact hm.moved.ends hinv (by rcases htarget with rfl | rfl | rfl <;> rfl)
  · obtain ⟨n, hok, _⟩ := reply_ok hok
    obtain ⟨a, ha, rfl⟩ := hcall
    have hchain := (reapExpiredLeases_ok hinv hok).1
    obtain ⟨db₁, hfold, hok⟩ := bind_ok hok
    obtain ⟨_, rfl⟩ := Prod.mk.inj (pure_ok hok)
    obtain ⟨_, _, _, hfailed⟩ := reap_ok hinv (expiredAttempts_nodup _ _)
      (fun row hrow => ⟨(mem_expiredAttempts.mp hrow).1, (mem_expiredAttempts.mp hrow).2.1⟩) hfold
    obtain ⟨ha', hactive, _⟩ := mem_expiredAttempts.mp ha
    constructor
    · obtain ⟨r, hr, hid, hs, _⟩ := hinv.mirror a ha'
      rw [← hid]
      refine not_hasEnded hr ?_
      rw [hs]
      exact RunLifecycleState.active_not_terminal hactive
    · obtain ⟨r, hr, hid, hs, _⟩ := (QueueChain.keeps hinv hchain).mirror _ (hfailed a ha)
      exact ⟨r, hr, hid, by rw [hs]; rfl⟩
  · obtain ⟨rfl, r, hr, hid, hqueued⟩ := hcall
    obtain ⟨record, hok, _⟩ := reply_ok hok
    obtain ⟨run, hrun, hrunId, hcases⟩ := requestCancel_ok hinv hok
    obtain rfl := Table.eq_of_key hr hrun (hid.trans hrunId.symm)
    rw [← hid]
    refine ⟨not_hasEnded hr (by rw [hqueued]; rfl), ?_⟩
    rcases hcases with ⟨_, _, hended⟩ | ⟨hw, _⟩ | ⟨row, hm, _⟩
    · rw [hqueued] at hended
      rcases hended with hended | hended <;> cases hended
    · exact ⟨_, hw.replaced.mem_new, rfl, rfl⟩
    · have hs := (hinv.run_of hm.attempts.mem_old hr hm.same_run.symm).1
      have := hm.active
      rw [← hs, hqueued] at this
      cases this
  · cases hcall

/-! ## Whole histories -/

/-- What an activation at the end of a history does, however the history goes on. -/
structure ActivationFences (rt : Runtime) (db : Database) (activation : RoleActivation)
    (rest : List Call) : Prop where
  active : ∀ x ∈ db.queue.runExecutorActivations.rows, x.state = .active ↔ x = activation
  present : activation ∈ db.queue.runExecutorActivations.rows
  /-- Later activations get a larger epoch. -/
  increasing : ∀ slot executorId now next db',
    activateRole slot executorId now (after (exec rt) db rest) = .ok (next, db') →
      activation.activationEpoch < next.activationEpoch
  /-- Claims of smaller epochs are refused. -/
  fenced : ∀ claim op, claim.attempt.activationEpoch < activation.activationEpoch →
    Raises rt (after (exec rt) db rest) (OwnerCall.on claim op)

theorem activation_fences {slot : Nat} {executorId : String} {now : Instant}
    {activation : RoleActivation} (hinv : QueueInvariant rt db.queue)
    (h : activateRole slot executorId now db = .ok (activation, db')) (rest : List Call) :
    ActivationFences rt db' activation rest := by
  obtain ⟨hepoch, hactive, hmem, hone, hchange, _⟩ := activateRole_ok h
  have hinv' : QueueInvariant rt db'.queue := hchange.keeps hinv
  have hgrow := QueueGrows.of_history hinv' rest
  have hle := (le_currentEpoch hmem).trans hgrow.epoch
  have hrest := QueueChain.keeps hinv' (history_chain hinv' rest)
  exact {
    active := fun x hx => ⟨hone x hx, fun he => he ▸ hactive⟩
    present := hmem
    increasing := fun slot executorId now next db'' hnext => by
      obtain ⟨hnextEpoch, _⟩ := activateRole_ok hnext
      omega
    fenced := fun claim op hlt => op.raises_of_epoch hrest (Nat.lt_of_lt_of_le hlt hle) }

/-- **Executors are fenced.** After any history: an activation fences all smaller epochs
however the history goes on, an attempt that has ended stays closed to its owner, and no
run is ended twice. -/
theorem executor_fencing (rt : Runtime) (first rest : List Call) :
    let db := after (exec rt) Database.initial first
    (∀ slot executorId now activation db',
      activateRole slot executorId now db = .ok (activation, db') →
        ActivationFences rt db' activation rest) ∧
    (∀ a ∈ db.queue.runAttempts.rows, a.state.isTerminal = true → ∀ (claim : RunClaim) op,
      claim.attempt.attemptId = a.attemptId →
        Raises rt (after (exec rt) db rest) (OwnerCall.on claim op)) ∧
    ∀ runId call, EndsRun rt db runId call →
      ∀ again, ¬ EndsRun rt (after (exec rt) db (call :: rest)) runId again := by
  intro db
  have hreach : Reachable rt db := ⟨first, rfl⟩
  have hinv := hreach.queue
  refine ⟨fun slot executorId now activation db' h => activation_fences hinv h rest,
    fun a ha hended claim op hid => ?_, fun runId call hends again hagain => ?_⟩
  · obtain ⟨a', ha', hfollows⟩ := (QueueGrows.of_history hinv rest).attempts a ha
    have hsame := hfollows.settled hended
    subst hsame
    exact op.raises_of_ended (hreach.after rest).queue ha' hid.symm hended
  · have hinv' := (hreach.after [call]).queue
    have hgrow := QueueGrows.of_history hinv' rest
    exact (hagain.ends (hreach.after (call :: rest)).queue).1 ((hends.ends hinv).2.grows hgrow)

end ProofAgent
