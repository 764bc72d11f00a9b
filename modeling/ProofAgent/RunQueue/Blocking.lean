import ProofAgent.RunQueue.Fairness

/-! # A run that cannot be claimed

`claim_next` asks the snapshot authority inside its transaction. Where that
raises, everything is rolled back, the fairness row of the operator included,
and so the next call selects the same run. As long as the selected runs resolve,
every call takes one run out of the queue, and a waiting run is reached; once a
run that does not resolve is selected, no claim succeeds any more. -/
namespace ProofAgent

open Base RunQueueRepository

variable {rt : Runtime} {db db' : Database}

/-- A factory that raises on the runs of `P` and resolves all others. -/
structure Resolves (factory : SnapshotFactory) (P : String → Prop) : Prop where
  raises : ∀ request attemptId number now, P request.runId →
    ∃ e, factory request attemptId number now = .error e
  succeeds : ∀ request attemptId number now, ¬ P request.runId →
    ∃ s, factory request attemptId number now = .ok s ∧ s.runId = request.runId ∧
      s.attemptId = attemptId ∧ s.attemptNumber = number ∧ s.agentId = request.agentId ∧
      s.agentVersionId = request.agentVersionId

/-- A call of `claim_next` by an active executor with free capacity. -/
structure Serving (db : Database) (c : ClaimArguments) : Prop where
  lease : 1 ≤ c.leaseSeconds ∧ c.leaseSeconds ≤ maxAttemptDeadlineSeconds
  deadline : 1 ≤ c.deadlineSeconds ∧ c.deadlineSeconds ≤ maxAttemptDeadlineSeconds
  shorter : c.leaseSeconds < c.deadlineSeconds
  active : requireActiveRole c.slot c.executorId c.activationEpoch c.now false db = .ok ()
  capacity : db.queue.runAttempts.count hasActiveAttempt < maxActiveAttempts
  fresh : ∀ a ∈ db.queue.runAttempts.rows, a.attemptId ≠ c.attemptId

theorem Serving.claimNext_eq {c : ClaimArguments} {row : RunRow} (h : Serving db c)
    (hselected : fairClaimSelect db.queue = some row) :
    claimNext rt c db = (do
      let (claim, db) ← claimRow rt c row db
      return (some claim, db)) := by
  unfold claimNext
  have hfree : ¬ maxActiveAttempts ≤ db.queue.runAttempts.count fun a => a.state.isActive :=
    Nat.not_le.mpr h.capacity
  rw [require_true _ h.lease, require_true _ h.deadline, require_true _ h.shorter, h.active,
    if_neg hfree, hselected]
  rfl

/-- **A run that does not resolve** makes the claim raise. -/
theorem claimNext_raises {c : ClaimArguments} {row : RunRow} {P : String → Prop}
    (hinv : QueueInvariant rt db.queue) (hserving : Serving db c)
    (hresolves : Resolves c.snapshotFactory P) (hselected : fairClaimSelect db.queue = some row)
    (hbad : P row.runId) : ∃ e, claimNext rt c db = .error e := by
  rw [hserving.claimNext_eq hselected]
  have hrow := (fairClaimSelect_some hselected).1
  rw [(hinv.runs row hrow).run_id] at hbad
  refine bind_raises ?_
  unfold claimRow
  exact bind_raises (hresolves.raises _ _ _ _ hbad)

/-- The attempt of a claim is valid. -/
theorem claimedAttempt_valid (rt : Runtime) {c : ClaimArguments} {request : RunRequest} {number fence : Nat}
    {s : RunExecutionSnapshot} (hserving : Serving db c) (hepoch : 1 ≤ c.activationEpoch)
    (hs : s.runId = request.runId ∧ s.attemptId = c.attemptId ∧ s.attemptNumber = number)
    (hnumber : 1 ≤ number) (hfence : 1 ≤ fence) :
    (claimedAttempt rt c request number fence s).Valid rt where
  counters := ⟨hnumber, Nat.le_refl _, hfence, hepoch⟩
  lease := lt_add_seconds _ hserving.lease.1
  deadline := lt_add_seconds _ hserving.deadline.1
  identity := hs
  digest := rfl
  outcome := (moveOutcome.going rfl).valid

theorem insertAttempt_of (attempt : RunAttempt) (q : QueueTables)
    (hcons : (AttemptRow.ofAttempt attempt).constraints)
    (hrun : ∀ a ∈ q.runAttempts.rows, a.runId ≠ attempt.runId)
    (hfresh : ∀ a ∈ q.runAttempts.rows, a.attemptId ≠ attempt.attemptId) :
    ∃ q', insertAttempt attempt q = .ok q' ∧ q'.runs = q.runs := by
  obtain ⟨runAttempts, hinsert⟩ := Table.insert?_isSome (t := q.runAttempts)
    (r := AttemptRow.ofAttempt attempt) hfresh
  have hunique : ∀ a ∈ q.runAttempts.rows, a.runId = (AttemptRow.ofAttempt attempt).runId →
      a.attemptNumber ≠ (AttemptRow.ofAttempt attempt).attemptNumber ∧
        a.fencingToken ≠ (AttemptRow.ofAttempt attempt).fencingToken :=
    fun a ha he => absurd he (hrun a ha)
  unfold insertAttempt
  dsimp only
  rw [require_true _ hcons, require_true _ hunique, hinsert]
  exact ⟨_, rfl, rfl⟩

/-- An update that reaches one row by its key. -/
theorem updateRuns_of (p : RunRow → Bool) (f : RunRow → RunRow) (hf : ∀ r, (f r).runId = r.runId)
    {q : QueueTables} {row : RunRow} (hrow : row ∈ q.runs.rows) (hp : p row = true)
    (hone : ∀ r, p r = true → r.runId = row.runId) (hcons : (f row).constraints) :
    ∃ q', updateRuns p f hf q = .ok (1, q') := by
  unfold updateRuns
  rw [require_true _ fun r hr hpr => Table.eq_of_key hr hrow (hone r hpr) ▸ hcons,
    Table.count_eq_one hrow hp fun r _ hpr => hone r hpr]
  exact ⟨_, rfl⟩

/-- **A run that resolves** is claimed. -/
theorem claimNext_claims {c : ClaimArguments} {row : RunRow} {P : String → Prop}
    (hinv : QueueInvariant rt db.queue) (hserving : Serving db c)
    (hresolves : Resolves c.snapshotFactory P) (hselected : fairClaimSelect db.queue = some row)
    (hgood : ¬ P row.runId) (hnow : row.enqueuedAt ≤ c.now) :
    ∃ claim db', claimNext rt c db = .ok (some claim, db') := by
  obtain ⟨hrow, hhead⟩ := fairClaimSelect_some hselected
  have hqueued := isOperatorHead_queued hhead
  have hsound := hinv.runs row hrow
  obtain ⟨x, hx, _, hactive, _, hepoch⟩ := requireActiveRole_ok hserving.active
  have hepoch : 1 ≤ c.activationEpoch := hepoch ▸ (hinv.activations x hx hactive).2
  rw [hsound.run_id] at hgood
  obtain ⟨s, hs, hid, hattemptId, hnumber, hagent, hversion⟩ := hresolves.succeeds row.requestJson
    c.attemptId (nextAttemptNumber db.queue row.runId) c.now hgood
  -- the run has no attempt yet
  have hnone : ∀ a ∈ db.queue.runAttempts.rows, a.runId ≠ row.requestJson.runId := by
    intro a ha he
    rw [← hsound.run_id] at he
    exact (hinv.attempts a ha).constraints.2.2.2.1 ((hinv.run_of ha hrow he.symm).1 ▸ hqueued)
  have hvalid := claimedAttempt_valid rt hserving hepoch ⟨hid, hattemptId, hnumber⟩
    (Nat.succ_pos _) (Nat.succ_pos (db.queue.runFencingEpochSeq + c.skipped))
  have hstarted := hsound.started (Nat.succ_pos row.stateVersion) hqueued (hsound.created ▸ hnow)
  have hrunning : (runningRecord row c.now).Valid rt := by
    obtain ⟨hres, hfail⟩ := hsound.quiet (by rw [hqueued]; rfl)
    have hcompleted : row.completedAt = none := by
      have hterminal := hsound.record.terminal
      simp only [RunRow.record, hqueued, RunLifecycleState.isTerminal] at hterminal
      simpa using hterminal.symm
    have := hstarted.record
    simp only [RunRow.record, RunRow.started, hres, hfail, hcompleted] at this
    exact this
  obtain ⟨q₁, hinsert, hruns⟩ := insertAttempt_of
    (claimedAttempt rt c row.requestJson (nextAttemptNumber db.queue row.runId)
      (db.queue.runFencingEpochSeq + c.skipped + 1) s)
    { db.queue with runFencingEpochSeq := db.queue.runFencingEpochSeq + c.skipped + 1 }
    ⟨hvalid.counters.1, Nat.le_refl _, hvalid.counters.2.2.1, by simp [AttemptRow.ofAttempt,
      claimedAttempt], Int.le_refl _, fun hr => by cases hr⟩ hnone hserving.fresh
  obtain ⟨q₂, hupdate⟩ := updateRuns_of (q := q₁)
    (fun r => r.runId = row.runId && r.state = .queued && r.stateVersion = row.stateVersion)
    (fun r => r.started (runningRecord row c.now).stateVersion c.now) (fun _ => rfl)
    (hruns ▸ hrow) (by simp [hqueued])
    (fun r hp => by simp only [Bool.and_eq_true, decide_eq_true_eq] at hp; exact hp.1.1)
    hstarted.constraints
  rw [hserving.claimNext_eq hselected]
  unfold claimRow
  simp only [hs, ok_bind]
  rw [require_true _ ⟨hid, hattemptId, hnumber⟩, RunAttempt.validate_of hvalid, ok_bind, ok_bind,
    hinsert, ok_bind, RunQueueRecord.validate_of hrunning, ok_bind, hupdate, ok_bind,
    require_true _ rfl, ok_bind, RunClaim.make, dif_pos ⟨rfl, hagent.symm, hversion.symm⟩]
  exact ⟨_, _, rfl⟩

/-! ## Runs that have left the queue -/

/-- The number of runs that are no longer queued. -/
def left (q : QueueTables) : Nat := q.runs.count fun r => !isQueued r

theorem left_add_queued (q : QueueTables) :
    left q + q.runs.count isQueued = q.runs.rows.length := by
  have h := List.length_eq_countP_add_countP isQueued (l := q.runs.rows)
  simp only [Bool.not_eq_true, Bool.decide_eq_false] at h
  rw [left, Table.count, Table.count, Nat.add_comm]
  exact h.symm

/-- A claim takes a run out of the queue. -/
theorem Claimed.left_lt {q q' : QueueTables} {row : RunRow} {attempt : RunAttempt} {now : Instant}
    (c : Claimed rt q q' row attempt now) : left q' = left q + 1 := by
  have hqueued := isOperatorHead_queued (fairClaimSelect_some c.selected).2
  exact c.run.lt_count (by simp [isQueued, hqueued]) (by simp [isQueued, RunRow.started])

/-- No change puts a run back. -/
theorem QueueChange.left_le {q q' : QueueTables} (c : QueueChange rt q q') : left q ≤ left q' := by
  cases c with
  | admitted row c =>
    rw [left, left, Table.count_insert c.insert]
    exact Nat.le_add_right _ _
  | claimed row attempt now c => rw [c.left_lt]; exact Nat.le_succ _
  | renewed old new c => rw [c.frame]; exact Nat.le_refl _
  | moved run attempt target outcome failure now c =>
    refine c.runs.le_count fun _ => ?_
    simp [isQueued, RunRow.move, RunLifecycleState.allowed_ne_queued c.allowed]
  | withdrawn run now c =>
    exact c.replaced.le_count fun _ => by simp [isQueued, RunRow.move]
  | activated c => rw [c.frame]; exact Nat.le_refl _

theorem step_left_le (hinv : QueueInvariant rt db.queue) (call : Call) :
    left db.queue ≤ left (step (exec rt) db call).queue := by
  rcases step_cases (exec rt) db call with h | ⟨o, h⟩
  · rw [h]
  · exact QueueChain.related (R := fun q q' => left q ≤ left q') (fun _ => Nat.le_refl _)
      (fun _ _ _ => Nat.le_trans) (fun _ _ _ c => c.left_le) hinv (exec_chain hinv h)

/-! ## Histories of claims -/

/-- A condition that holds whenever the history calls `claim_next`. -/
def AtEveryClaim (rt : Runtime) (Q : Database → ClaimArguments → Prop) :
    Database → List Call → Prop
  | _, [] => True
  | db, call :: calls =>
    (∀ c, call = .queue (.claimNext c) → Q db c) ∧
      AtEveryClaim rt Q (step (exec rt) db call) calls

def isClaimCall : Call → Bool
  | .queue (.claimNext _) => true
  | _ => false

/-- An active executor calls with free capacity, and its factory resolves what is not in `P`. -/
def Offered (P : String → Prop) (db : Database) (c : ClaimArguments) : Prop :=
  Serving db c ∧ Resolves c.snapshotFactory P

/-- The selected run is not in `P`, and was not submitted after the clock of the call. -/
def Unblocked (P : String → Prop) (db : Database) (c : ClaimArguments) : Prop :=
  ∀ row, fairClaimSelect db.queue = some row → ¬ P row.runId ∧ row.enqueuedAt ≤ c.now

/-- A queued run is selected, unless another one is. -/
theorem fairClaimSelect_isSome {q : QueueTables} {r : RunRow} (hr : r ∈ q.runs.rows)
    (hq : r.state = .queued) : ∃ row, fairClaimSelect q = some row := by
  obtain ⟨s, hs, _, hhead⟩ := Waiting.head ⟨r, hr, rfl, hq⟩
  have hmem : s ∈ (q.runs.rows.filter (isOperatorHead q)).insertionSort
      fun r s => claimBefore q r s = true := by
    rw [List.mem_insertionSort, List.mem_filter]
    exact ⟨hs, hhead⟩
  unfold fairClaimSelect
  cases hsort : (q.runs.rows.filter (isOperatorHead q)).insertionSort
      fun r s => claimBefore q r s = true with
  | nil => rw [hsort] at hmem; cases hmem
  | cons x rest => exact ⟨x, rfl⟩

theorem step_claims {c : ClaimArguments} {P : String → Prop} {r : RunRow}
    (hinv : QueueInvariant rt db.queue) (hoffered : Offered P db c) (hfree : Unblocked P db c)
    (hr : r ∈ db.queue.runs.rows) (hq : r.state = .queued) :
    left (step (exec rt) db (.queue (.claimNext c))).queue = left db.queue + 1 := by
  obtain ⟨row, hselected⟩ := fairClaimSelect_isSome hr hq
  obtain ⟨hgood, hnow⟩ := hfree row hselected
  obtain ⟨claim, db', hok⟩ := claimNext_claims hinv hoffered.1 hoffered.2 hselected hgood hnow
  have hstep : step (exec rt) db (.queue (.claimNext c)) = db' :=
    step_ok (o := .claim (some claim)) (by simp [exec, QueueCall.exec, hok, reply, Except.map])
  obtain ⟨_, ⟨hnone, _⟩ | ⟨row', claim', _, hc, _⟩⟩ := claimNext_ok hinv hok
  · cases hnone
  · rw [hstep]
    exact hc.left_lt

/-- While a run stays queued, every call takes another one out of the queue. -/
theorem claims_leave {P : String → Prop} {r : RunRow} : ∀ {calls : List Call} {db : Database},
    QueueInvariant rt db.queue → AtEveryClaim rt (Offered P) db calls →
    AtEveryClaim rt (Unblocked P) db calls → r ∈ (after (exec rt) db calls).queue.runs.rows →
    r.state = .queued → (∃ s ∈ db.queue.runs.rows, s.runId = r.runId) →
      left db.queue + calls.countP isClaimCall ≤ left (after (exec rt) db calls).queue
  | [], _, _, _, _, _, _, _ => Nat.le_refl _
  | call :: calls, db, hinv, hoffered, hfree, hr, hq, ⟨s, hs, hid⟩ => by
    have hinv' := QueueChain.keeps hinv (history_chain hinv [call])
    -- the run is queued all along
    obtain ⟨s', hs', hf⟩ := (QueueGrows.of_history hinv [call]).runs s hs
    have ih := claims_leave hinv' hoffered.2 hfree.2 hr hq ⟨s', hs', hf.run_id.trans hid⟩
    obtain ⟨r', hr', hf'⟩ := (QueueGrows.of_history hinv (call :: calls)).runs s hs
    obtain rfl := Table.eq_of_key hr' hr (hf'.run_id.trans hid)
    have hsq : s.state = .queued := RunLifecycleState.reaches_queued (hq ▸ hf'.states)
    simp only [after_cons, after_nil] at ih ⊢
    rw [List.countP_cons]
    have hle := step_left_le hinv call
    cases hcall : isClaimCall call with
    | false => simp only [Bool.false_eq_true, if_false]; omega
    | true =>
      obtain ⟨c, rfl⟩ : ∃ c, call = .queue (.claimNext c) := by
        unfold isClaimCall at hcall
        split at hcall
        · exact ⟨_, rfl⟩
        · cases hcall
      have := step_claims hinv (hoffered.1 c rfl) (hfree.1 c rfl) hs hsq
      simp only [if_true]
      omega

/-- A claim call on which the factory raises, whatever run is selected out of `P`. -/
def FailsOn (P : String → Prop) (call : Call) : Prop :=
  ∃ c, call = .queue (.claimNext c) ∧ ∀ request attemptId number now, P request.runId →
    ∃ e, c.snapshotFactory request attemptId number now = .error e

theorem claimNext_some {c : ClaimArguments} {claim : RunClaim}
    (h : claimNext rt c db = .ok (some claim, db')) :
    ∃ row, fairClaimSelect db.queue = some row ∧ claimRow rt c row db = .ok (claim, db') := by
  obtain ⟨_, _, h⟩ := bind_ok h
  obtain ⟨_, _, h⟩ := bind_ok h
  obtain ⟨_, _, h⟩ := bind_ok h
  obtain ⟨_, _, h⟩ := bind_ok h
  split at h
  · cases pure_ok h
  · split at h
    · cases pure_ok h
    · rename_i row hselected
      obtain ⟨r, hrow, h⟩ := bind_ok h
      cases pure_ok h
      exact ⟨row, hselected, hrow⟩

/-- **Once a run of `P` is selected**, it is selected for ever, and nothing changes. -/
theorem claims_blocked {P : String → Prop} {row : RunRow} (hinv : QueueInvariant rt db.queue)
    (hselected : fairClaimSelect db.queue = some row) (hbad : P row.runId) (calls : List Call)
    (hcalls : ∀ call ∈ calls, FailsOn P call) : after (exec rt) db calls = db := by
  induction calls with
  | nil => rfl
  | cons call calls ih =>
    rw [after_cons]
    have hstep : step (exec rt) db call = db := by
      obtain ⟨c, rfl, hraises⟩ := hcalls call (by simp)
      rcases step_cases (exec rt) db (.queue (.claimNext c)) with h | ⟨o, h⟩
      · exact h
      · obtain ⟨claim, hok, _⟩ := reply_ok h
        obtain ⟨_, ⟨_, hsame, _⟩ | ⟨_, claim', rfl, _⟩⟩ := claimNext_ok hinv hok
        · exact hsame
        · obtain ⟨row', hselected', hrow⟩ := claimNext_some hok
          cases hselected.symm.trans hselected'
          obtain ⟨s, hs, _⟩ := bind_ok hrow
          rw [(hinv.runs row (fairClaimSelect_some hselected).1).run_id] at hbad
          obtain ⟨e, he⟩ := hraises _ c.attemptId (nextAttemptNumber db.queue row.runId) c.now hbad
          cases he.symm.trans hs
    rw [hstep]
    exact ih fun call hcall => hcalls call (by simp [hcall])

/-! ## The queue and its bad runs -/

/-- What the claims do to the queue that a history has reached. -/
structure ClaimsWithBadRuns (rt : Runtime) (P : String → Prop) (db : Database) : Prop where
  /-- As long as no run of `P` is selected, a queued run is claimed or cancelled after at most
  one call for each run that waits or is admitted meanwhile. -/
  progress : ∀ r ∈ db.queue.runs.rows, r.state = .queued → ∀ calls,
    AtEveryClaim rt (Offered P) db calls → AtEveryClaim rt (Unblocked P) db calls →
    let later := (after (exec rt) db calls).queue
    db.queue.runs.count isQueued + (later.runs.rows.length - db.queue.runs.rows.length) ≤
        calls.countP isClaimCall →
      ∃ r' ∈ later.runs.rows, r'.runId = r.runId ∧
        (r'.state = .cancelled ∨ ∃ a ∈ later.runAttempts.rows, a.runId = r.runId)
  /-- The selected run is claimed exactly if it is not in `P`. -/
  exact : ∀ c row, Offered P db c → fairClaimSelect db.queue = some row → row.enqueuedAt ≤ c.now →
    ((∃ claim db', claimNext rt c db = .ok (some claim, db')) ↔ ¬ P row.runId)
  /-- Once a run of `P` is selected, no number of calls changes anything. -/
  blocked : ∀ row, fairClaimSelect db.queue = some row → P row.runId → ∀ calls,
    (∀ call ∈ calls, FailsOn P call) → after (exec rt) db calls = db

/-- **A run that does not resolve blocks the queue** from the moment it is selected, and
not before. -/
theorem history_claims (rt : Runtime) (P : String → Prop) (first : List Call) :
    ClaimsWithBadRuns rt P (after (exec rt) Database.initial first) := by
  have hinv : QueueInvariant rt (after (exec rt) Database.initial first).queue :=
    Reachable.queue ⟨first, rfl⟩
  generalize after (exec rt) Database.initial first = db at hinv
  refine ⟨?_, ?_, fun row hselected hbad calls hcalls => claims_blocked hinv hselected hbad calls hcalls⟩
  · intro r hr hq calls hoffered hfree later hmany
    have hgrow := QueueGrows.of_history hinv calls
    have hinv' := QueueChain.keeps hinv (history_chain hinv calls)
    obtain ⟨r', hr', hf⟩ := hgrow.runs r hr
    refine ⟨r', hr', hf.run_id, ?_⟩
    by_cases hq' : r'.state = .queued
    · have hleave := claims_leave hinv hoffered hfree hr' hq' ⟨r, hr, hf.run_id.symm⟩
      have hsome : 0 < later.runs.count isQueued :=
        List.countP_pos_iff.mpr ⟨r', hr', by simp [isQueued, hq']⟩
      have hbefore := left_add_queued db.queue
      have hafter := left_add_queued later
      have : left db.queue + calls.countP isClaimCall ≤ left later := hleave
      omega
    · by_cases hc : r'.state = .cancelled
      · exact .inl hc
      · obtain ⟨a, ha, he⟩ := hinv'.claimed r' hr' hq' hc
        exact .inr ⟨a, ha, he.trans hf.run_id⟩
  · intro c row hoffered hselected hnow
    constructor
    · rintro ⟨claim, db', hok⟩ hbad
      obtain ⟨e, he⟩ := claimNext_raises hinv hoffered.1 hoffered.2 hselected hbad
      cases he.symm.trans hok
    · exact fun hgood => claimNext_claims hinv hoffered.1 hoffered.2 hselected hgood hnow

/-! ## One bad run -/

/-- An authority that does not resolve Alice's run. -/
def unresolvable : SnapshotFactory := fun request attemptId number now =>
  if request.runId = Sample.aliceFirst.runId then .error (.snapshotFactory "no such agent version")
  else Sample.snapshotFactory request attemptId number now

def badClaim : ClaimArguments := { Sample.claim "attempt" 1 with snapshotFactory := unresolvable }

theorem unresolvable_resolves : Resolves badClaim.snapshotFactory (· = Sample.aliceFirst.runId) where
  raises _ _ _ _ hbad := ⟨_, if_pos hbad⟩
  succeeds _ _ _ _ hgood := ⟨_, if_neg hgood, rfl, rfl, rfl, rfl, rfl⟩

/-- Alice's run waits first, Bob's after it. -/
def badHistory : List Call :=
  Sample.activated ++ [.queue (.admitRun Sample.aliceFirst), .queue (.admitRun Sample.bob)]

def badRunFirst : Database := after (exec Sample.runtime) Database.initial badHistory

theorem badRunFirst_state :
    ((fairClaimSelect badRunFirst.queue).map (·.runId) = some Sample.aliceFirst.runId ∧
      badRunFirst.queue.runAttempts.rows.length = 0 ∧
      (requireActiveRole 1 "executor" 1 1 false badRunFirst).isOk = true) ∧
    (∃ r ∈ badRunFirst.queue.runs.rows, r.runId = Sample.bob.runId ∧ r.state = .queued) ∧
    ∃ r ∈ badRunFirst.queue.runs.rows, r.runId = Sample.aliceFirst.runId ∧ r.state = .queued := by
  decide +kernel

theorem badRunFirst_serving : Serving badRunFirst badClaim := by
  obtain ⟨⟨_, hnone, hrole⟩, _⟩ := badRunFirst_state
  have hrows := List.eq_nil_of_length_eq_zero hnone
  refine ⟨by decide, by decide, by decide, ?_, ?_, ?_⟩
  · show requireActiveRole 1 "executor" 1 1 false badRunFirst = .ok ()
    cases h : requireActiveRole 1 "executor" 1 1 false badRunFirst with
    | ok u => rfl
    | error e => rw [h] at hrole; cases hrole
  · rw [Table.count, hrows]
    decide
  · rw [hrows]
    simp

theorem badRunFirst_step : step (exec Sample.runtime) badRunFirst (.queue (.claimNext badClaim)) =
    badRunFirst := by
  obtain ⟨row, hrow, hid⟩ := Option.map_eq_some_iff.mp badRunFirst_state.1.1
  have hinv : QueueInvariant Sample.runtime badRunFirst.queue := Reachable.queue ⟨badHistory, rfl⟩
  exact claims_blocked (P := (· = Sample.aliceFirst.runId)) hinv hrow hid
    [.queue (.claimNext badClaim)] fun call hcall =>
      ⟨badClaim, List.mem_singleton.mp hcall, unresolvable_resolves.raises⟩

/-- **Bob waits for ever**: however often an active executor with free capacity calls, Bob's
run, which resolves, stays queued, and Alice's run is neither failed nor passed over. -/
theorem badRunFirst_blocked :
    (∃ r ∈ badRunFirst.queue.runs.rows, r.runId = Sample.bob.runId ∧ r.state = .queued) ∧
    (∃ r ∈ badRunFirst.queue.runs.rows, r.runId = Sample.aliceFirst.runId ∧ r.state = .queued) ∧
    Sample.bob.runId ≠ Sample.aliceFirst.runId ∧
    ∀ n, AtEveryClaim Sample.runtime (Offered (· = Sample.aliceFirst.runId)) badRunFirst
        (List.replicate n (.queue (.claimNext badClaim))) ∧
      after (exec Sample.runtime) badRunFirst
        (List.replicate n (.queue (.claimNext badClaim))) = badRunFirst := by
  obtain ⟨_, hbob, halice⟩ := badRunFirst_state
  refine ⟨hbob, halice, by decide, fun n => ?_⟩
  induction n with
  | zero => exact ⟨trivial, rfl⟩
  | succ n ih =>
    rw [List.replicate_succ, after_cons, badRunFirst_step]
    refine ⟨⟨?_, ?_⟩, ih.2⟩
    · rintro c ⟨⟩
      exact ⟨badRunFirst_serving, unresolvable_resolves⟩
    · rw [badRunFirst_step]
      exact ih.1

end ProofAgent
