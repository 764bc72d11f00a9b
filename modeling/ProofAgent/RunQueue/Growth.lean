import ProofAgent.RunQueue.Histories

/-! # What a history keeps

Rows are never deleted: a run and an attempt follow their former selves along
`_ALLOWED_TRANSITIONS`, and a terminal row does not change at all. Epochs and
fencing tokens only grow. `QueueGrows` says so of two queues; every change
respects it, so the two ends of every history are related by it. -/
namespace ProofAgent

open Base RunQueueRepository

namespace RunLifecycleState

/-- A state that some transitions lead to. -/
abbrev reaches : RunLifecycleState → RunLifecycleState → Prop :=
  Relation.ReflTransGen fun s t => s.allowed t = true

/-- Nothing returns to the queue. -/
theorem reaches_queued {s : RunLifecycleState} (h : s.reaches .queued) : s = .queued := by
  rcases Relation.ReflTransGen.cases_tail h with he | ⟨u, _, hstep⟩
  · exact he.symm
  · exact absurd rfl (allowed_ne_queued hstep)

/-- Whether a run in this state was cancelled or ended without a result. -/
def isLost : RunLifecycleState → Bool
  | cancelRequested | cancelled | failed | timedOut => true
  | _ => false

/-- A requested cancellation is never taken back. -/
theorem reaches_of_lost {s t : RunLifecycleState} (h : s.reaches t) (hs : s.isLost = true) :
    t.isLost = true := by
  induction h with
  | refl => exact hs
  | @tail u v _ hstep ih => revert ih hstep; cases u <;> cases v <;> simp [isLost, allowed]

end RunLifecycleState

structure RunRow.Follows (r r' : RunRow) : Prop where
  run_id : r'.runId = r.runId
  operator : r'.submittedBy = r.submittedBy
  created : r'.createdAt = r.createdAt
  states : r.state.reaches r'.state
  settled : r.state.isTerminal = true → r' = r

structure AttemptRow.Follows (a a' : AttemptRow) : Prop where
  attempt_id : a'.attemptId = a.attemptId
  run_id : a'.runId = a.runId
  fencing : a'.fencingToken = a.fencingToken
  epoch : a'.activationEpoch = a.activationEpoch
  states : a.state.reaches a'.state
  settled : a.state.isTerminal = true → a' = a

namespace RunRow.Follows

theorem refl (r : RunRow) : r.Follows r := ⟨rfl, rfl, rfl, .refl, fun _ => rfl⟩

theorem trans (r s o : RunRow) (h : r.Follows s) (h' : s.Follows o) : r.Follows o where
  run_id := h'.run_id.trans h.run_id
  operator := h'.operator.trans h.operator
  created := h'.created.trans h.created
  states := h.states.trans h'.states
  settled := fun ht => by
    have hs := h.settled ht
    rw [← hs] at ht
    rw [h'.settled ht, hs]

/-- A row that one transition leads to follows. -/
theorem of_allowed {r r' : RunRow} (hid : r'.runId = r.runId) (hop : r'.submittedBy = r.submittedBy)
    (hcreated : r'.createdAt = r.createdAt) (h : r.state.allowed r'.state = true) :
    r.Follows r' where
  run_id := hid
  operator := hop
  created := hcreated
  states := .single h
  settled := fun ht => by
    rw [RunLifecycleState.allowed_from_terminal h] at ht
    cases ht

end RunRow.Follows

namespace AttemptRow.Follows

theorem refl (a : AttemptRow) : a.Follows a := ⟨rfl, rfl, rfl, rfl, .refl, fun _ => rfl⟩

theorem trans (a b c : AttemptRow) (h : a.Follows b) (h' : b.Follows c) : a.Follows c where
  attempt_id := h'.attempt_id.trans h.attempt_id
  run_id := h'.run_id.trans h.run_id
  fencing := h'.fencing.trans h.fencing
  epoch := h'.epoch.trans h.epoch
  states := h.states.trans h'.states
  settled := fun ht => by
    have hs := h.settled ht
    rw [← hs] at ht
    rw [h'.settled ht, hs]

end AttemptRow.Follows

structure QueueGrows (q q' : QueueTables) : Prop where
  runs : Table.Evolves RunRow.Follows q.runs q'.runs
  attempts : Table.Evolves AttemptRow.Follows q.runAttempts q'.runAttempts
  epoch : currentEpoch q ≤ currentEpoch q'
  fence : q.runFencingEpochSeq ≤ q'.runFencingEpochSeq

namespace QueueGrows

variable {rt : Runtime} {q q' : QueueTables}

theorem refl (q : QueueTables) : QueueGrows q q :=
  ⟨.refl .refl, .refl .refl, Nat.le_refl _, Nat.le_refl _⟩

theorem trans (q₁ q₂ q₃ : QueueTables) (h : QueueGrows q₁ q₂) (h' : QueueGrows q₂ q₃) :
    QueueGrows q₁ q₃ where
  runs := h.runs.trans RunRow.Follows.trans h'.runs
  attempts := h.attempts.trans AttemptRow.Follows.trans h'.attempts
  epoch := h.epoch.trans h'.epoch
  fence := h.fence.trans h'.fence

/-- **Every change lets the queue grow.** -/
theorem of_change (h : QueueInvariant rt q) (c : QueueChange rt q q') : QueueGrows q q' := by
  cases c with
  | admitted row c =>
    refine ⟨.of_insert .refl c.insert, ?_, ?_, ?_⟩ <;> rw [c.frame]
    · exact .refl .refl
    · exact Nat.le_refl _
  | claimed row attempt now c =>
    refine ⟨.of_replaced .refl c.run ?_, .of_insert .refl c.insert, ?_, ?_⟩
    · have hq := isOperatorHead_queued (fairClaimSelect_some c.selected).2
      exact .of_allowed rfl rfl rfl (by rw [hq]; rfl)
    · rw [c.frame]; exact Nat.le_refl _
    · rw [c.frame]; exact Nat.le_of_lt c.fence
  | renewed old new c =>
    refine ⟨?_, .of_replaced .refl c.attempt ?_, ?_, ?_⟩
    · rw [c.frame]; exact .refl .refl
    · exact {
        attempt_id := c.attempt.same_key
        run_id := c.same_run
        fencing := c.same_token
        epoch := c.same_epoch
        states := by rw [c.same_outcome.1]
        settled := fun ht => by
          rw [RunLifecycleState.active_not_terminal c.active] at ht
          cases ht }
    · rw [c.frame]; exact Nat.le_refl _
    · rw [c.frame]
  | moved run attempt target outcome failure now c =>
    have hstate := (h.run_of c.attempts.mem_old c.runs.mem_old c.same_run.symm).1
    refine ⟨.of_replaced .refl c.runs (.of_allowed rfl rfl rfl ?_),
      .of_replaced .refl c.attempts ?_, ?_, ?_⟩
    · rw [hstate]; exact c.allowed
    · exact {
        attempt_id := rfl
        run_id := rfl
        fencing := rfl
        epoch := rfl
        states := .single c.allowed
        settled := fun ht => by
          rw [RunLifecycleState.active_not_terminal c.active] at ht
          cases ht }
    · rw [c.frame]; exact Nat.le_refl _
    · rw [c.frame]
  | withdrawn run now c =>
    refine ⟨.of_replaced .refl c.replaced (.of_allowed rfl rfl rfl (by rw [c.queued]; rfl)),
      ?_, ?_, ?_⟩ <;> rw [c.frame]
    · exact .refl .refl
    · exact Nat.le_refl _
  | activated c =>
    refine ⟨?_, ?_, ?_, ?_⟩
    · rw [c.frame]; exact .refl .refl
    · rw [c.frame]; exact .refl .refl
    · rw [c.current]; exact Nat.le_succ _
    · rw [c.frame]

theorem of_chain (h : QueueInvariant rt q) (c : QueueChain rt q q') : QueueGrows q q' :=
  c.related refl trans (fun _ _ => of_change) h

/-- **A history lets the queue grow.** -/
theorem of_history {db : Database} (h : QueueInvariant rt db.queue) (calls : List Call) :
    QueueGrows db.queue (after (exec rt) db calls).queue :=
  of_chain h (history_chain h calls)

end QueueGrows

/-! ## Runs and their attempts agree

The run row and the attempt row are two records that seven calls rewrite. The
invariant makes them agree in every reachable state, and bounds the queue. -/

/-- Some call of the history claimed the run. -/
def EverClaimed (rt : Runtime) (calls : List Call) (runId : String) : Prop :=
  ∃ first c rest claim db', calls = first ++ .queue (.claimNext c) :: rest ∧
    claimNext rt c (after (exec rt) Database.initial first) = .ok (some claim, db') ∧
    claim.runRequest.runId = runId

/-- How the runs, their attempts and the bounds of a queue fit together. -/
structure RunQueueCoherent (q : QueueTables) (claimed : String → Prop) : Prop where
  queued : ∀ r ∈ q.runs.rows, r.state = .queued → ∀ a ∈ q.runAttempts.rows, a.runId ≠ r.runId
  /-- A running, finalizing or cancelling run has exactly one active attempt. -/
  active : ∀ r ∈ q.runs.rows, r.state.isActive = true → ∃ a ∈ q.runAttempts.rows,
    a.runId = r.runId ∧ a.state = r.state ∧
      ∀ b ∈ q.runAttempts.rows, b.runId = r.runId → b.state.isActive = true → b = a
  terminal : ∀ r ∈ q.runs.rows, r.state.isTerminal = true →
    (∀ a ∈ q.runAttempts.rows, a.runId = r.runId → a.state.isActive = false) ∧
    (claimed r.runId → ∃ a ∈ q.runAttempts.rows, a.runId = r.runId) ∧
    ∀ a ∈ q.runAttempts.rows, a.runId = r.runId → a.state = r.state ∧ a.result = r.result ∧
      a.terminalFailureJson = r.terminalFailureJson ∧
      ∀ b ∈ q.runAttempts.rows, b.runId = r.runId → b = a
  active_bound : q.runAttempts.count (fun a => a.state.isActive) ≤ 5
  queued_bound : q.runs.count (fun r => r.state = .queued) ≤ 50
  conversation : ∀ c, ∀ r ∈ q.runs.rows, ∀ s ∈ q.runs.rows, r.conversationId = some c →
    s.conversationId = some c → r.state.isTerminal = false → s.state.isTerminal = false → r = s

theorem QueueInvariant.coherent {rt : Runtime} {q : QueueTables} {claimed : String → Prop}
    (h : QueueInvariant rt q)
    (hclaimed : ∀ runId, claimed runId → ∃ a ∈ q.runAttempts.rows, a.runId = runId) :
    RunQueueCoherent q claimed where
  queued r hr hq a ha he := by
    have hs := (h.run_of ha hr he.symm).1
    exact (h.attempts a ha).constraints.2.2.2.1 (hs ▸ hq)
  active r hr hactive := by
    obtain ⟨a, ha, he, hs⟩ := h.attempt_of hr hactive
    exact ⟨a, ha, he, hs, fun b hb hbe _ => h.once b hb a ha (hbe.trans he.symm)⟩
  terminal r hr ht := by
    refine ⟨fun a ha he => ?_, fun hc => hclaimed _ hc, fun a ha he => ?_⟩
    · rw [← (h.run_of ha hr he.symm).1]
      exact RunLifecycleState.terminal_not_active ht
    · obtain ⟨hs, hres, hfail⟩ := h.run_of ha hr he.symm
      exact ⟨hs.symm, hres.symm, hfail.symm,
        fun b hb hbe => h.once b hb a ha (hbe.trans he.symm)⟩
  active_bound := h.active_bound
  queued_bound := h.queued_bound
  conversation c r hr s hs hrc hsc hrt hst :=
    h.conversations r hr s hs (by rw [hrc]; rfl) (hrc.trans hsc.symm) hrt hst

/-- A run that was claimed keeps an attempt. -/
theorem EverClaimed.attempt {rt : Runtime} {calls : List Call} {runId : String}
    (h : EverClaimed rt calls runId) :
    ∃ a ∈ (after (exec rt) Database.initial calls).queue.runAttempts.rows, a.runId = runId := by
  obtain ⟨first, c, rest, claim, db', rfl, hclaim, rfl⟩ := h
  have hinv := (Reachable.queue ⟨first, rfl⟩ : QueueInvariant rt _)
  obtain ⟨_, ⟨hnone, _⟩ | ⟨row, claim', hsome, hc, _⟩⟩ := claimNext_ok hinv hclaim
  · cases hnone
  · cases hsome
    have hstep : step (exec rt) (after (exec rt) Database.initial first) (.queue (.claimNext c)) =
        db' := step_ok (o := .claim (some claim)) (by simp [exec, QueueCall.exec, hclaim, reply,
          Except.map])
    have hmem : AttemptRow.ofAttempt claim.attempt ∈ db'.queue.runAttempts.rows := by
      rw [(Table.insert?_some hc.insert).1]
      exact List.mem_append_right _ (List.mem_singleton.mpr rfl)
    have hgrow := QueueGrows.of_history
      (QueueChange.keeps hinv (.claimed _ _ _ hc) : QueueInvariant rt db'.queue) rest
    obtain ⟨a, ha, hfollows⟩ := hgrow.attempts _ hmem
    refine ⟨a, ?_, hfollows.run_id.trans claim.same_run.symm⟩
    rw [after_append, after_cons, hstep]
    exact ha

/-- **Every reachable queue is coherent**, whatever calls are made in whatever order. -/
theorem history_coherent (rt : Runtime) (calls : List Call) :
    RunQueueCoherent (after (exec rt) Database.initial calls).queue (EverClaimed rt calls) :=
  (Reachable.queue ⟨calls, rfl⟩).coherent fun _ h => h.attempt

end ProofAgent
