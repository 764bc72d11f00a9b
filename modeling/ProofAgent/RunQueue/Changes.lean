import ProofAgent.RunQueue.Invariant

/-! # What a call does to the queue

`QueueChange` lists the ways in which a call rewrites the queue: it admits,
claims, renews, moves a run with its attempt, withdraws a queued run or
activates an executor. `QueueChange.keeps` is the one place where the invariant
is proved; every call is shown to be a sequence of such changes elsewhere. -/
namespace ProofAgent

open Base RunQueueRepository

/-- A run moved on together with its active attempt. -/
structure Moved (q q' : QueueTables) (run : RunRow) (attempt : AttemptRow)
    (target : RunLifecycleState) (outcome : RunResultAvailability) (failure : Option RunFailure)
    (now : Instant) : Prop where
  runs : Table.Replaced q.runs q'.runs run
    (run.move target outcome failure (if target.isTerminal then some now else none) now)
  attempts : Table.Replaced q.runAttempts q'.runAttempts attempt
    (attempt.move target outcome failure now)
  same_run : attempt.runId = run.runId
  active : attempt.state.isActive = true
  allowed : attempt.state.allowed target = true
  outcome_ok : moveOutcome target outcome failure
  created : run.createdAt ≤ now ∧ attempt.createdAt ≤ now
  frame : q' = { q with runs := q'.runs, runAttempts := q'.runAttempts }

/-- A run was admitted. -/
structure Admitted (rt : Runtime) (q q' : QueueTables) (row : RunRow) : Prop where
  insert : q.runs.insert? row = some q'.runs
  sound : row.Sound rt
  queued : row.state = .queued
  room : q.runs.count isQueued < maxQueuedRuns
  free : ∀ r ∈ q.runs.rows, row.conversationId.isSome = true →
    r.conversationId = row.conversationId → r.state.isTerminal = true
  frame : q' = { q with runs := q'.runs }

/-- The selected run was claimed by a new attempt. -/
structure Claimed (rt : Runtime) (q q' : QueueTables) (row : RunRow) (attempt : RunAttempt)
    (now : Instant) : Prop where
  room : q.runAttempts.count hasActiveAttempt < maxActiveAttempts
  selected : fairClaimSelect q = some row
  run : Table.Replaced q.runs q'.runs row (row.started (row.stateVersion + 1) now)
  insert : q.runAttempts.insert? (AttemptRow.ofAttempt attempt) = some q'.runAttempts
  sound : (AttemptRow.ofAttempt attempt).Sound rt
  running : attempt.state = .running
  same_run : attempt.runId = row.runId
  fence : q.runFencingEpochSeq < attempt.fencingEpoch
  epoch : attempt.activationEpoch ≤ currentEpoch q
  created : row.createdAt ≤ now
  times : attempt.createdAt = now ∧ attempt.heartbeatAt = now
  frame : q' = countClaim row.submittedBy now
    { q with
      runs := q'.runs, runAttempts := q'.runAttempts, runFencingEpochSeq := attempt.fencingEpoch }

/-- The lease of an active attempt was renewed. -/
structure Renewed (rt : Runtime) (q q' : QueueTables) (old new : AttemptRow) : Prop where
  attempt : Table.Replaced q.runAttempts q'.runAttempts old new
  sound : new.Sound rt
  active : old.state.isActive = true
  same_run : new.runId = old.runId
  same_outcome : new.state = old.state ∧ new.result = old.result ∧
    new.terminalFailureJson = old.terminalFailureJson
  same_token : new.fencingToken = old.fencingToken
  same_epoch : new.activationEpoch = old.activationEpoch
  times : new.createdAt = old.createdAt ∧ new.createdAt ≤ new.heartbeatAt
  frame : q' = { q with runAttempts := q'.runAttempts }

/-- A queued run was cancelled. -/
structure Withdrawn (q q' : QueueTables) (run : RunRow) (now : Instant) : Prop where
  replaced : Table.Replaced q.runs q'.runs run (run.move .cancelled .unavailable
    (some { code := .cancelled }) (some now) now)
  queued : run.state = .queued
  created : run.createdAt ≤ now
  frame : q' = { q with runs := q'.runs }

/-- An executor was activated under the next epoch. -/
structure Activated (q q' : QueueTables) : Prop where
  epoch : ∀ x ∈ q'.runExecutorActivations.rows, x.state = .active →
    x.activationEpoch = currentEpoch q + 1
  one : ∀ x ∈ q'.runExecutorActivations.rows, ∀ y ∈ q'.runExecutorActivations.rows,
    x.state = .active → y.state = .active → x = y
  current : currentEpoch q' = currentEpoch q + 1
  frame : q' = { q with runExecutorActivations := q'.runExecutorActivations }

inductive QueueChange (rt : Runtime) (q q' : QueueTables) : Prop where
  | admitted (row : RunRow) (result : Admitted rt q q' row)
  | claimed (row : RunRow) (attempt : RunAttempt) (now : Instant)
      (result : Claimed rt q q' row attempt now)
  | renewed (old new : AttemptRow) (result : Renewed rt q q' old new)
  | moved (run : RunRow) (attempt : AttemptRow) (target : RunLifecycleState)
      (outcome : RunResultAvailability) (failure : Option RunFailure) (now : Instant)
      (result : Moved q q' run attempt target outcome failure now)
  | withdrawn (run : RunRow) (now : Instant) (result : Withdrawn q q' run now)
  | activated (result : Activated q q')

/-- The selected run is queued, and no queued run of its operator came before it. -/
theorem fairClaimSelect_some {q : QueueTables} {row : RunRow}
    (h : fairClaimSelect q = some row) : row ∈ q.runs.rows ∧ isOperatorHead q row = true := by
  have hm := List.mem_of_head? h
  rw [List.mem_insertionSort, List.mem_filter] at hm
  exact hm

theorem isOperatorHead_queued {q : QueueTables} {row : RunRow}
    (h : isOperatorHead q row = true) : row.state = .queued := by
  simp only [isOperatorHead, Bool.and_eq_true, decide_eq_true_eq] at h
  exact h.1

/-! ## Every change keeps the invariant -/

variable {rt : Runtime} {q q' : QueueTables}

theorem Admitted.keeps {row : RunRow} (h : QueueInvariant rt q) (c : Admitted rt q q' row) :
    QueueInvariant rt q' := by
  obtain ⟨runs, _, _, _, _⟩ := q'
  obtain ⟨insert, sound, queued, room, free, frame⟩ := c
  cases frame
  obtain ⟨hrows, hfresh⟩ := Table.insert?_some insert
  have hmem : ∀ r ∈ runs.rows, r ∈ q.runs.rows ∨ r = row := fun r hr => by
    rw [hrows, List.mem_append, List.mem_singleton] at hr
    exact hr
  have hkeep : ∀ r ∈ q.runs.rows, r ∈ runs.rows := fun r hr => by
    rw [hrows]; exact List.mem_append_left _ hr
  refine { h with
    runs := fun r hr => ?_, mirror := fun a ha => ?_, claimed := fun r hr hnq hnc => ?_
    queued_bound := ?_, conversations := fun r hr s hs hc he hrt hst => ?_ }
  · rcases hmem r hr with hr | rfl
    · exact h.runs r hr
    · exact sound
  · obtain ⟨r, hr, hrest⟩ := h.mirror a ha
    exact ⟨r, hkeep r hr, hrest⟩
  · rcases hmem r hr with hr | rfl
    · exact h.claimed r hr hnq hnc
    · exact absurd queued hnq
  · have hq : isQueued row = true := by simp [isQueued, queued]
    rw [Table.count_insert insert, hq, if_pos rfl]
    exact room
  · rcases hmem r hr with hr | rfl <;> rcases hmem s hs with hs | rfl
    · exact h.conversations r hr s hs hc he hrt hst
    · have := free r hr (he ▸ hc) he
      rw [hrt] at this; cases this
    · have := free s hs hc he.symm
      rw [hst] at this; cases this
    · rfl

theorem Claimed.keeps {row : RunRow} {attempt : RunAttempt} {now : Instant}
    (h : QueueInvariant rt q) (c : Claimed rt q q' row attempt now) : QueueInvariant rt q' := by
  obtain ⟨runs, runAttempts, _, _, _⟩ := q'
  obtain ⟨room, selected, run, insert, sound, hrunning, hrunId, hfence, epoch, created, _, frame⟩ :=
    c
  simp only [countClaim, QueueTables.mk.injEq, true_and] at frame
  obtain ⟨rfl, rfl, rfl⟩ := frame
  obtain ⟨hrow, hhead⟩ := fairClaimSelect_some selected
  have hqueued := isOperatorHead_queued hhead
  obtain ⟨hrows, _⟩ := Table.insert?_some insert
  have hquiet := (h.runs row hrow).quiet (by rw [hqueued]; rfl)
  have hquietA := sound.quiet (show attempt.state.isTerminal = false by rw [hrunning]; rfl)
  have hmem : ∀ a ∈ runAttempts.rows,
      a ∈ q.runAttempts.rows ∨ a = AttemptRow.ofAttempt attempt := fun a ha => by
    rw [hrows, List.mem_append, List.mem_singleton] at ha
    exact ha
  have hkeep : ∀ a ∈ q.runAttempts.rows, a ∈ runAttempts.rows := fun a ha => by
    rw [hrows]; exact List.mem_append_left _ ha
  have hnew : AttemptRow.ofAttempt attempt ∈ runAttempts.rows := by
    rw [hrows]; exact List.mem_append_right _ (by simp)
  -- no attempt belongs to the queued run yet
  have hnone : ∀ a ∈ q.runAttempts.rows, a.runId ≠ row.runId := fun a ha he => by
    have hs := (h.run_of ha hrow he.symm).1
    exact (h.attempts a ha).constraints.2.2.2.1 (hs ▸ hqueued)
  refine { h with
    runs := fun r hr => ?_, attempts := fun a ha => ?_, mirror := fun a ha => ?_
    claimed := fun r hr hnq hnc => ?_, once := fun a ha b hb he => ?_, active_bound := ?_
    queued_bound := ?_, conversations := fun r hr s hs hc he hrt hst => ?_
    fencing := fun a ha => ?_, epochs := fun a ha => ?_ }
  · rcases run.mem_cases hr with rfl | ⟨hr, _⟩
    · exact (h.runs row hrow).started (Nat.succ_pos _) hqueued created
    · exact h.runs r hr
  · rcases hmem a ha with ha | rfl
    · exact h.attempts a ha
    · exact sound
  · rcases hmem a ha with ha | rfl
    · obtain ⟨r, hr, he, hrest⟩ := h.mirror a ha
      exact ⟨r, run.mem_of_ne' hr (fun hrr => hnone a ha (by rw [← he, hrr])), he, hrest⟩
    · refine ⟨_, run.mem_new, hrunId.symm, hrunning.symm, ?_, ?_⟩
      · exact hquiet.1.trans hquietA.1.symm
      · exact hquiet.2.trans hquietA.2.symm
  · rcases run.mem_cases hr with rfl | ⟨hr, _⟩
    · exact ⟨_, hnew, hrunId⟩
    · obtain ⟨a, ha, he⟩ := h.claimed r hr hnq hnc
      exact ⟨a, hkeep a ha, he⟩
  · rcases hmem a ha with ha | rfl <;> rcases hmem b hb with hb | rfl
    · exact h.once a ha b hb he
    · exact absurd (he.trans hrunId) (hnone a ha)
    · exact absurd (he.symm.trans hrunId) (hnone b hb)
    · rfl
  · show runAttempts.count hasActiveAttempt ≤ maxActiveAttempts
    rw [Table.count_insert insert]
    have : (if hasActiveAttempt (AttemptRow.ofAttempt attempt) = true then 1 else 0) ≤ 1 := by
      split <;> omega
    omega
  · refine (run.count_le fun hq => ?_).trans h.queued_bound
    simp [isQueued, RunRow.started] at hq
  · have hold : ∀ r ∈ runs.rows, r.state.isTerminal = false →
        ∃ r₀ ∈ q.runs.rows, r₀.runId = r.runId ∧ r₀.conversationId = r.conversationId ∧
          r₀.state.isTerminal = false := fun r hr hrt => by
      rcases run.mem_cases hr with rfl | ⟨hr, _⟩
      · exact ⟨row, hrow, rfl, rfl, by rw [hqueued]; rfl⟩
      · exact ⟨r, hr, rfl, rfl, hrt⟩
    obtain ⟨r₀, hr₀, hrk, hrc, hrt₀⟩ := hold r hr hrt
    obtain ⟨s₀, hs₀, hsk, hsc, hst₀⟩ := hold s hs hst
    have := h.conversations r₀ hr₀ s₀ hs₀ (hrc ▸ hc) (by rw [hrc, hsc, he]) hrt₀ hst₀
    exact Table.eq_of_key hr hs (by rw [← hrk, ← hsk, this])
  · rcases hmem a ha with ha | rfl
    · exact (h.fencing a ha).trans (Nat.le_of_lt hfence)
    · exact Nat.le_refl _
  · rcases hmem a ha with ha | rfl
    · exact h.epochs a ha
    · exact epoch

theorem Renewed.keeps {old new : AttemptRow} (h : QueueInvariant rt q)
    (c : Renewed rt q q' old new) : QueueInvariant rt q' := by
  obtain ⟨_, runAttempts, _, _, _⟩ := q'
  obtain ⟨attempt, sound, active, hrun, ⟨hstate, hres, hfail⟩, hfence, hepoch, _, frame⟩ := c
  cases frame
  refine { h with
    attempts := fun a ha => ?_, mirror := fun a ha => ?_, claimed := fun r hr hnq hnc => ?_
    once := fun a ha b hb he => ?_, active_bound := ?_, fencing := fun a ha => ?_
    epochs := fun a ha => ?_ }
  · rcases attempt.mem_cases ha with rfl | ⟨ha, _⟩
    · exact sound
    · exact h.attempts a ha
  · rcases attempt.mem_cases ha with rfl | ⟨ha, _⟩
    · rw [hrun, hstate, hres, hfail]
      exact h.mirror old attempt.mem_old
    · exact h.mirror a ha
  · obtain ⟨a, ha, he⟩ := h.claimed r hr hnq hnc
    rcases attempt.successor ha with ⟨rfl, hn⟩ | ⟨_, ha⟩
    · exact ⟨new, hn, hrun.trans he⟩
    · exact ⟨a, ha, he⟩
  · rcases attempt.mem_cases ha with rfl | ⟨ha, hak⟩ <;>
      rcases attempt.mem_cases hb with rfl | ⟨hb, hbk⟩
    · rfl
    · exact absurd (congrArg AttemptRow.attemptId
        (h.once old attempt.mem_old b hb (hrun ▸ he))).symm hbk
    · exact absurd (congrArg AttemptRow.attemptId
        (h.once a ha old attempt.mem_old (he.trans hrun))) hak
    · exact h.once a ha b hb he
  · exact (attempt.count_le fun _ => active).trans h.active_bound
  · rcases attempt.mem_cases ha with rfl | ⟨ha, _⟩
    · rw [hfence]; exact h.fencing old attempt.mem_old
    · exact h.fencing a ha
  · rcases attempt.mem_cases ha with rfl | ⟨ha, _⟩
    · rw [hepoch]; exact h.epochs old attempt.mem_old
    · exact h.epochs a ha

theorem Moved.keeps {run : RunRow} {attempt : AttemptRow} {target : RunLifecycleState}
    {outcome : RunResultAvailability} {failure : Option RunFailure} {now : Instant}
    (h : QueueInvariant rt q) (c : Moved q q' run attempt target outcome failure now) :
    QueueInvariant rt q' := by
  obtain ⟨runs, runAttempts, _, _, _⟩ := q'
  obtain ⟨runReplaced, attemptReplaced, same_run, active, allowed, outcome_ok, created, frame⟩ :=
    c
  cases frame
  have hrun := runReplaced.mem_old
  have hattempt := attemptReplaced.mem_old
  have hstate := (h.run_of hattempt hrun same_run.symm).1
  have hne := RunLifecycleState.allowed_ne_queued allowed
  have hnt : run.state.isTerminal = false := by
    rw [hstate]; exact RunLifecycleState.active_not_terminal active
  refine { h with
    runs := fun r hr => ?_, attempts := fun a ha => ?_, mirror := fun a ha => ?_
    claimed := fun r hr hnq hnc => ?_, once := fun a ha b hb he => ?_, active_bound := ?_
    queued_bound := ?_, conversations := fun r hr s hs hc he hrt hst => ?_
    fencing := fun a ha => ?_, epochs := fun a ha => ?_ }
  · rcases runReplaced.mem_cases hr with rfl | ⟨hr, _⟩
    · exact (h.runs run hrun).move outcome_ok rfl created.1
    · exact h.runs r hr
  · rcases attemptReplaced.mem_cases ha with rfl | ⟨ha, _⟩
    · exact (h.attempts attempt hattempt).move outcome_ok hne created.2
    · exact h.attempts a ha
  · rcases attemptReplaced.mem_cases ha with rfl | ⟨ha, hak⟩
    · exact ⟨_, runReplaced.mem_new, same_run.symm, rfl, rfl, rfl⟩
    · obtain ⟨r, hr, he, hrest⟩ := h.mirror a ha
      refine ⟨r, runReplaced.mem_of_ne' hr fun hrr => ?_, he, hrest⟩
      exact hak (congrArg AttemptRow.attemptId (h.once a ha attempt hattempt
        (by rw [← he, hrr, same_run])))
  · rcases runReplaced.mem_cases hr with rfl | ⟨hr, hrk⟩
    · exact ⟨_, attemptReplaced.mem_new, same_run⟩
    · obtain ⟨a, ha, he⟩ := h.claimed r hr hnq hnc
      refine ⟨a, attemptReplaced.mem_of_ne' ha fun haa => ?_, he⟩
      exact hrk (by rw [← he, haa, same_run])
  · rcases attemptReplaced.mem_cases ha with rfl | ⟨ha, hak⟩ <;>
      rcases attemptReplaced.mem_cases hb with rfl | ⟨hb, hbk⟩
    · rfl
    · exact absurd (congrArg AttemptRow.attemptId (h.once attempt hattempt b hb he)).symm hbk
    · exact absurd (congrArg AttemptRow.attemptId (h.once a ha attempt hattempt he)) hak
    · exact h.once a ha b hb he
  · exact (attemptReplaced.count_le fun _ => active).trans h.active_bound
  · refine (runReplaced.count_le fun hq => ?_).trans h.queued_bound
    simp [isQueued, RunRow.move, hne] at hq
  · have hold : ∀ r ∈ runs.rows, r.state.isTerminal = false →
        ∃ r₀ ∈ q.runs.rows, r₀.runId = r.runId ∧ r₀.conversationId = r.conversationId ∧
          r₀.state.isTerminal = false := fun r hr hrt => by
      rcases runReplaced.mem_cases hr with rfl | ⟨hr, _⟩
      · exact ⟨run, hrun, rfl, rfl, hnt⟩
      · exact ⟨r, hr, rfl, rfl, hrt⟩
    obtain ⟨r₀, hr₀, hrk, hrc, hrt₀⟩ := hold r hr hrt
    obtain ⟨s₀, hs₀, hsk, hsc, hst₀⟩ := hold s hs hst
    have := h.conversations r₀ hr₀ s₀ hs₀ (hrc ▸ hc) (by rw [hrc, hsc, he]) hrt₀ hst₀
    exact Table.eq_of_key hr hs (by rw [← hrk, ← hsk, this])
  · rcases attemptReplaced.mem_cases ha with rfl | ⟨ha, _⟩
    · exact h.fencing attempt hattempt
    · exact h.fencing a ha
  · rcases attemptReplaced.mem_cases ha with rfl | ⟨ha, _⟩
    · exact h.epochs attempt hattempt
    · exact h.epochs a ha

theorem Withdrawn.keeps {run : RunRow} {now : Instant} (h : QueueInvariant rt q)
    (c : Withdrawn q q' run now) : QueueInvariant rt q' := by
  obtain ⟨runs, _, _, _, _⟩ := q'
  obtain ⟨replaced, queued, created, frame⟩ := c
  cases frame
  have hrun := replaced.mem_old
  refine { h with
    runs := fun r hr => ?_, mirror := fun a ha => ?_, claimed := fun r hr hnq hnc => ?_
    queued_bound := ?_, conversations := fun r hr s hs hc he hrt hst => ?_ }
  · rcases replaced.mem_cases hr with rfl | ⟨hr, _⟩
    · exact (h.runs run hrun).move (.failing _ rfl (by decide)) rfl created
    · exact h.runs r hr
  · obtain ⟨r, hr, he, hs, hrest⟩ := h.mirror a ha
    refine ⟨r, replaced.mem_of_ne' hr fun hrr => ?_, he, hs, hrest⟩
    exact (h.attempts a ha).constraints.2.2.2.1 (by rw [← hs, hrr, queued])
  · rcases replaced.mem_cases hr with rfl | ⟨hr, _⟩
    · exact absurd rfl hnc
    · exact h.claimed r hr hnq hnc
  · refine (replaced.count_le fun hq => ?_).trans h.queued_bound
    simp [isQueued, RunRow.move] at hq
  · rcases replaced.mem_cases hr with rfl | ⟨hr, _⟩
    · cases hrt
    · rcases replaced.mem_cases hs with rfl | ⟨hs, _⟩
      · cases hst
      · exact h.conversations r hr s hs hc he hrt hst

theorem Activated.keeps (h : QueueInvariant rt q) (c : Activated q q') : QueueInvariant rt q' := by
  obtain ⟨_, _, _, activations, _⟩ := q'
  obtain ⟨epoch, one, current, frame⟩ := c
  cases frame
  exact { h with
    epochs := fun a ha => by rw [current]; exact (h.epochs a ha).trans (Nat.le_succ _)
    activations := fun x hx hact => by
      rw [current, epoch x hx hact]
      exact ⟨rfl, Nat.succ_pos _⟩
    one_activation := one }

/-- **Every change keeps the invariant.** -/
theorem QueueChange.keeps (h : QueueInvariant rt q) (c : QueueChange rt q q') :
    QueueInvariant rt q' := by
  cases c with
  | admitted _ c => exact c.keeps h
  | claimed _ _ _ c => exact c.keeps h
  | renewed _ _ c => exact c.keeps h
  | moved _ _ _ _ _ _ c => exact c.keeps h
  | withdrawn _ _ c => exact c.keeps h
  | activated c => exact c.keeps h

end ProofAgent
