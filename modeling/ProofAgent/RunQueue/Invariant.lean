import ProofAgent.System

/-! # What every queue state satisfies

A row is sound when it reads back as a valid contract that its columns repeat.
`QueueInvariant` puts the rows together: a run and its attempt are written by
the same calls and mirror each other, at most one attempt belongs to a run, and
the bounds on active attempts, queued runs and conversations hold. -/
namespace ProofAgent

open Base

/-- The row after its run moved on. -/
def RunRow.move (r : RunRow) (target : RunLifecycleState) (result : RunResultAvailability)
    (failure : Option RunFailure) (completedAt : Option Instant) (now : Instant) : RunRow :=
  { r with
    state := target
    stateVersion := r.stateVersion + 1
    result
    terminalFailureJson := failure
    completedAt
    updatedAt := now }

/-- The row after its attempt moved on. -/
def AttemptRow.move (a : AttemptRow) (target : RunLifecycleState) (result : RunResultAvailability)
    (failure : Option RunFailure) (now : Instant) : AttemptRow :=
  { a with
    state := target
    stateVersion := a.stateVersion + 1
    result
    terminalFailureJson := failure
    attemptJson := a.attemptJson.ended target result failure now
    updatedAt := now }

structure RunRow.Sound (rt : Runtime) (r : RunRow) : Prop where
  run_id : r.runId = r.requestJson.runId
  operator : r.submittedBy = r.requestJson.operatorSubject
  conversation : r.conversationId = r.requestJson.conversationId
  created : r.createdAt = r.enqueuedAt
  record : r.record.Valid rt
  constraints : r.constraints
  quiet : r.state.isTerminal = false → r.result = .unavailable ∧ r.terminalFailureJson = none

structure AttemptRow.Sound (rt : Runtime) (a : AttemptRow) : Prop where
  columns : a = AttemptRow.ofAttempt a.attemptJson
  attempt : a.attemptJson.Valid rt
  constraints : a.constraints
  quiet : a.state.isTerminal = false → a.result = .unavailable ∧ a.terminalFailureJson = none

/-- What a move makes of the result and the failure. -/
def moveOutcome (target : RunLifecycleState) (result : RunResultAvailability)
    (failure : Option RunFailure) : Prop :=
  (target = .succeeded → failure = none) ∧
  (target ≠ .succeeded → result = .unavailable) ∧
  (target.isTerminal = true → target ≠ .succeeded → failure.isSome = true) ∧
  (target.isTerminal = false → failure = none)

theorem moveOutcome.valid {target : RunLifecycleState} {result : RunResultAvailability}
    {failure : Option RunFailure} (h : moveOutcome target result failure) :
    OutcomeValid target result failure where
  result := fun hr => by
    by_contra hne
    rw [h.2.1 hne] at hr
    cases hr
  success := h.1
  failure := fun hf => h.2.2.1 (by rcases hf with rfl | rfl <;> rfl)
    (by rcases hf with rfl | rfl <;> decide)

theorem moveOutcome.going {target : RunLifecycleState} (h : target.isTerminal = false) :
    moveOutcome target .unavailable none :=
  ⟨fun _ => rfl, fun _ => rfl, fun ht => (Bool.false_ne_true (h.symm.trans ht)).elim,
    fun _ => rfl⟩

theorem moveOutcome.failing {target : RunLifecycleState} (failure : RunFailure)
    (ht : target.isTerminal = true) (hne : target ≠ .succeeded) :
    moveOutcome target .unavailable (some failure) :=
  ⟨fun h => absurd h hne, fun _ => rfl, fun _ _ => rfl,
    fun h => (Bool.false_ne_true (h.symm.trans ht)).elim⟩

theorem moveOutcome.succeeding (result : RunResultAvailability) :
    moveOutcome .succeeded result none :=
  ⟨fun _ => rfl, fun h => absurd rfl h, fun _ h => absurd rfl h, fun _ => rfl⟩

/-! ## Rows that moved are sound -/

theorem RunRow.Sound.move {rt : Runtime} {r : RunRow} (h : r.Sound rt)
    {target : RunLifecycleState} {result : RunResultAvailability} {failure : Option RunFailure}
    {completedAt : Option Instant} {now : Instant} (hout : moveOutcome target result failure)
    (hcompleted : completedAt = if target.isTerminal then some now else none)
    (hnow : r.createdAt ≤ now) :
    (r.move target result failure completedAt now).Sound rt where
  run_id := h.run_id
  operator := h.operator
  conversation := h.conversation
  created := h.created
  record := {
    version := Nat.succ_pos _
    digest := h.record.digest
    enqueued := h.record.enqueued
    started := h.record.started
    completed := fun t ht => by
      simp only [RunRow.record, RunRow.move, hcompleted] at ht ⊢
      split at ht
      · cases ht; rw [← h.created]; exact hnow
      · cases ht
    terminal := by
      simp only [RunRow.record, RunRow.move, hcompleted]
      cases target.isTerminal <;> rfl
    outcome := hout.valid }
  constraints := ⟨Nat.succ_pos _, hnow, hout.valid.result⟩
  quiet := fun hq => ⟨hout.2.1 (by rintro rfl; cases hq), hout.2.2.2 hq⟩

theorem RunRow.Sound.started {rt : Runtime} {r : RunRow} (h : r.Sound rt) {version : Nat}
    {now : Instant} (hv : 1 ≤ version) (hq : r.state = .queued) (hnow : r.createdAt ≤ now) :
    (r.started version now).Sound rt where
  run_id := h.run_id
  operator := h.operator
  conversation := h.conversation
  created := h.created
  record := {
    version := hv
    digest := h.record.digest
    enqueued := h.record.enqueued
    started := fun t ht => by
      simp only [RunRow.record, RunRow.started, Option.mem_some_iff] at ht ⊢
      rw [← ht, ← h.created]; exact hnow
    completed := h.record.completed
    terminal := by
      have ht := h.record.terminal
      simp only [RunRow.record, hq] at ht
      exact ht
    outcome := by
      obtain ⟨hr, hf⟩ := h.quiet (by rw [hq]; rfl)
      simp only [RunRow.record, RunRow.started, hr, hf]
      exact (moveOutcome.going rfl).valid }
  constraints := ⟨hv, hnow, fun hr => by
    have := (h.quiet (by rw [hq]; rfl)).1
    simp only [RunRow.started, this] at hr
    cases hr⟩
  quiet := fun _ => h.quiet (by rw [hq]; rfl)

/-- A terminal move keeps the columns of an attempt in step with its JSON. -/
theorem AttemptRow.Sound.assign_ended {rt : Runtime} {a : AttemptRow} (h : a.Sound rt)
    (target : RunLifecycleState) (result : RunResultAvailability) (failure : Option RunFailure)
    (now : Instant) :
    a.assign (a.attemptJson.ended target result failure now) =
      a.move target result failure now := by
  have hc := h.columns
  have hv : a.stateVersion = a.attemptJson.stateVersion := by rw [hc]; rfl
  have hh : a.heartbeatAt = a.attemptJson.heartbeatAt := by rw [hc]; rfl
  have hl : a.leaseExpiresAt = a.attemptJson.leaseExpiresAt := by rw [hc]; rfl
  simp only [AttemptRow.assign, AttemptRow.move, RunAttempt.ended, RunAttempt.moved, hv, hh, hl]

theorem AttemptRow.Sound.move {rt : Runtime} {a : AttemptRow} (h : a.Sound rt)
    {target : RunLifecycleState} {result : RunResultAvailability} {failure : Option RunFailure}
    {now : Instant} (hout : moveOutcome target result failure) (hne : target ≠ .queued)
    (hnow : a.createdAt ≤ now) : (a.move target result failure now).Sound rt where
  columns := by
    rw [← h.assign_ended]
    have hc := h.columns
    conv_lhs => rw [hc]
    rfl
  attempt := {
    counters := ⟨h.attempt.counters.1, Nat.succ_pos _, h.attempt.counters.2.2⟩
    lease := h.attempt.lease
    deadline := h.attempt.deadline
    identity := h.attempt.identity
    digest := h.attempt.digest
    outcome := hout.valid }
  constraints := ⟨h.constraints.1, Nat.succ_pos _, h.constraints.2.2.1, hne, hnow,
    hout.valid.result⟩
  quiet := fun hq => ⟨hout.2.1 (by rintro rfl; cases hq), hout.2.2.2 hq⟩

/-! ## The queue as a whole -/

def isQueued (r : RunRow) : Bool := r.state = .queued

def hasActiveAttempt (a : AttemptRow) : Bool := a.state.isActive

structure QueueInvariant (rt : Runtime) (q : QueueTables) : Prop where
  runs : ∀ r ∈ q.runs.rows, r.Sound rt
  attempts : ∀ a ∈ q.runAttempts.rows, a.Sound rt
  /-- An attempt repeats the outcome of its run. -/
  mirror : ∀ a ∈ q.runAttempts.rows, ∃ r ∈ q.runs.rows, r.runId = a.runId ∧ r.state = a.state ∧
    r.result = a.result ∧ r.terminalFailureJson = a.terminalFailureJson
  /-- A run leaves the queue by a claim or a cancellation. -/
  claimed : ∀ r ∈ q.runs.rows, r.state ≠ .queued → r.state ≠ .cancelled →
    ∃ a ∈ q.runAttempts.rows, a.runId = r.runId
  /-- No run is claimed twice. -/
  once : ∀ a ∈ q.runAttempts.rows, ∀ b ∈ q.runAttempts.rows, a.runId = b.runId → a = b
  active_bound : q.runAttempts.count hasActiveAttempt ≤ maxActiveAttempts
  queued_bound : q.runs.count isQueued ≤ maxQueuedRuns
  conversations : ∀ r ∈ q.runs.rows, ∀ s ∈ q.runs.rows, r.conversationId.isSome = true →
    r.conversationId = s.conversationId → r.state.isTerminal = false →
    s.state.isTerminal = false → r = s
  fencing : ∀ a ∈ q.runAttempts.rows, a.fencingToken ≤ q.runFencingEpochSeq
  epochs : ∀ a ∈ q.runAttempts.rows, a.activationEpoch ≤ RunQueueRepository.currentEpoch q
  /-- The active activation is the latest one. -/
  activations : ∀ x ∈ q.runExecutorActivations.rows, x.state = .active →
    x.activationEpoch = RunQueueRepository.currentEpoch q ∧ 1 ≤ x.activationEpoch
  one_activation : ∀ x ∈ q.runExecutorActivations.rows, ∀ y ∈ q.runExecutorActivations.rows,
    x.state = .active → y.state = .active → x = y

namespace QueueInvariant

variable {rt : Runtime} {q : QueueTables}

/-- The run of an attempt. -/
theorem run_of (h : QueueInvariant rt q) {a : AttemptRow} {r : RunRow}
    (ha : a ∈ q.runAttempts.rows) (hr : r ∈ q.runs.rows) (he : r.runId = a.runId) :
    r.state = a.state ∧ r.result = a.result ∧ r.terminalFailureJson = a.terminalFailureJson := by
  obtain ⟨s, hs, hk, hrest⟩ := h.mirror a ha
  obtain rfl := Table.eq_of_key hr hs (he.trans hk.symm)
  exact hrest

/-- An attempt of a run in an active state is the active one. -/
theorem attempt_of (h : QueueInvariant rt q) {r : RunRow} (hr : r ∈ q.runs.rows)
    (hactive : r.state.isActive = true) :
    ∃ a ∈ q.runAttempts.rows, a.runId = r.runId ∧ a.state = r.state := by
  obtain ⟨a, ha, he⟩ := h.claimed r hr (RunLifecycleState.active_ne_queued hactive)
    (by rintro hs; rw [hs] at hactive; cases hactive)
  exact ⟨a, ha, he, (h.run_of ha hr he.symm).1.symm⟩

end QueueInvariant

theorem le_currentEpoch {q : QueueTables} {x : RoleActivation}
    (h : x ∈ q.runExecutorActivations.rows) :
    x.activationEpoch ≤ RunQueueRepository.currentEpoch q := by
  rw [RunQueueRepository.currentEpoch]
  generalize q.runExecutorActivations.rows = rows at h
  induction rows with
  | nil => cases h
  | cons y rest ih =>
    simp only [List.map_cons, List.foldr_cons]
    rcases List.mem_cons.mp h with rfl | h
    · exact Nat.le_max_left ..
    · exact (ih h).trans (Nat.le_max_right ..)

/-- The empty queue. -/
theorem QueueInvariant.initial (rt : Runtime) : QueueInvariant rt Database.initial.queue := by
  constructor <;> simp [Database.initial, Table.empty, Table.count]

end ProofAgent
