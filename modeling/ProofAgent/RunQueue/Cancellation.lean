import ProofAgent.RunQueue.Fencing

/-! # Cancellation wins

A cancellation may land between any two steps of the executor. From then on the
run is in a state from which `SUCCEEDED` is out of reach, and `commit_success`,
the only call that exposes a result, appends a turn or applies a task update,
accepts finalizing runs only. -/
namespace ProofAgent

open Base RunQueueRepository

variable {rt : Runtime} {db db' : Database}

/-! ## Turns -/

theorem appendTurn_mem {conversationId : String} {turn : ConversationTurn} {count : Nat}
    {c c' : ConversationTables} (h : ConversationRepository.appendTurn conversationId turn count c =
      .ok c') {t : TurnRow} (ht : t ∈ c'.turns.rows) : t ∈ c.turns.rows ∨ t.runId = turn.runId := by
  obtain ⟨_, _, h⟩ := bind_ok h
  obtain ⟨_, _, h⟩ := bind_ok h
  obtain ⟨_, _, h⟩ := bind_ok h
  obtain ⟨_, _, h⟩ := bind_ok h
  obtain ⟨turns, hturns, h⟩ := bind_ok h
  cases pure_ok h
  rw [(Table.insert?_some (orRaise_ok hturns)).1, List.mem_append, List.mem_singleton] at ht
  rcases ht with ht | rfl
  · exact .inl ht
  · exact .inr rfl

/-- The turn of a success carries the run of its claim. -/
theorem appendSuccessTurn_mem {claim : RunClaim} {a : SuccessArguments}
    (hcheck : checkSuccess claim a = .ok ()) (h : appendSuccessTurn claim a db = .ok db')
    {t : TurnRow} (ht : t ∈ db'.conversations.turns.rows) :
    t ∈ db.conversations.turns.rows ∨ t.runId = claim.runRequest.runId := by
  unfold appendSuccessTurn at h
  split at h
  · rename_i conversationId turn count hconv hturn _
    obtain ⟨c, hc, h⟩ := bind_ok h
    cases pure_ok h
    rcases appendTurn_mem hc ht with ht | ht
    · exact .inl ht
    · obtain ⟨_, _, hcheck⟩ := bind_ok hcheck
      obtain ⟨_, _, hcheck⟩ := bind_ok hcheck
      obtain ⟨_, _, hcheck⟩ := bind_ok hcheck
      rw [if_neg (by rw [hconv]; simp)] at hcheck
      obtain ⟨_, _, hcheck⟩ := bind_ok hcheck
      exact .inr (ht.trans (require_ok hcheck turn (by rw [hturn]; rfl)).1)
  · cases h
    exact .inl ht

/-- A success appends at most the turn of its own run, which was finalizing. -/
theorem commitSuccess_turns {claim : RunClaim} {a : SuccessArguments} {now : Instant}
    {record : RunQueueRecord} (hinv : QueueInvariant rt db.queue)
    (h : commitSuccess rt claim a now db = .ok (record, db')) {t : TurnRow}
    (ht : t ∈ db'.conversations.turns.rows) :
    t ∈ db.conversations.turns.rows ∨
      ∃ r ∈ db.queue.runs.rows, r.runId = t.runId ∧ r.state = .finalizing := by
  obtain ⟨run, row, db₁, db₂, hm, hstate, hcheck, hframe, hturn, hupdate⟩ := commitSuccess_ok hinv h
  rw [applySuccessUpdate_frame hupdate] at ht
  rcases appendSuccessTurn_mem hcheck hturn ht with ht | hid
  · rw [hframe] at ht
    exact .inl ht
  · exact .inr ⟨run, hm.moved.runs.mem_old, hm.run_id.trans hid.symm, hstate⟩

/-- Every other call of the queue leaves the conversations as they are. -/
theorem QueueCall.conversations_eq {call : QueueCall} {o : Reply}
    (hinv : QueueInvariant rt db.queue) (h : call.exec rt db = .ok (o, db'))
    (hsuccess : ∀ claim a now, call ≠ .commitSuccess claim a now) :
    db'.conversations = db.conversations := by
  cases call with
  | admitRun request =>
    rw [QueueCall.exec] at h
    obtain ⟨r, h, _⟩ := reply_ok h
    rw [(admit_chain h).2]
  | activateRole slot executorId now =>
    obtain ⟨r, h, _⟩ := reply_ok h
    rw [(activateRole_ok h).2.2.2.2.2]
  | claimNext c =>
    obtain ⟨r, h, _⟩ := reply_ok h
    obtain ⟨_, ⟨_, rfl, _⟩ | ⟨_, _, _, _, _, hframe⟩⟩ := claimNext_ok hinv h
    · rfl
    · rw [hframe]
  | heartbeat claim now lease =>
    obtain ⟨r, h, _⟩ := reply_ok h
    rw [(heartbeat_ok hinv h).2]
  | markFinalizing claim now =>
    obtain ⟨r, h, _⟩ := reply_ok h
    rw [(markFinalizing_ok hinv h).2]
  | requestCancel runId operator now =>
    obtain ⟨r, h, _⟩ := reply_ok h
    obtain ⟨_, _, _, ⟨rfl, _⟩ | ⟨_, hframe, _⟩ | ⟨_, _, hframe, _⟩⟩ := requestCancel_ok hinv h
    · rfl
    · rw [hframe]
    · rw [hframe]
  | commitTerminalFailure claim target failure now =>
    obtain ⟨r, h, _⟩ := reply_ok h
    obtain ⟨run, row, _, _, hrecord⟩ := commitTerminalFailure_ok hinv h
    rw [recordFailedTask_frame hrecord]
  | commitSuccess claim a now => exact absurd rfl (hsuccess claim a now)
  | reapExpiredLeases now =>
    obtain ⟨n, h, _⟩ := reply_ok h
    rw [(reapExpiredLeases_ok hinv h).2]

theorem OutsideCall.turns_subset {call : OutsideCall} {o : Reply}
    (h : call.exec db = .ok (o, db')) {t : TurnRow} (ht : t ∈ db'.conversations.turns.rows) :
    t ∈ db.conversations.turns.rows := by
  cases call with
  | workerRoles rows => cases h; exact ht
  | createConversation record =>
    obtain ⟨c, hc, h⟩ := bind_ok h
    obtain ⟨_, _, hc⟩ := bind_ok hc
    cases pure_ok h
    cases pure_ok hc
    exact ht
  | deleteConversation conversationId =>
    cases h
    exact (Table.mem_delete.mp ht).1
  | hideArtifact owner visibility =>
    obtain ⟨_, _, h⟩ := bind_ok h
    cases pure_ok h
    exact ht

/-- **Only the success of a finalizing run appends a turn.** -/
theorem exec_turns {call : Call} {o : Reply} (hinv : QueueInvariant rt db.queue)
    (h : exec rt call db = .ok (o, db')) {t : TurnRow} (ht : t ∈ db'.conversations.turns.rows) :
    t ∈ db.conversations.turns.rows ∨
      ∃ r ∈ db.queue.runs.rows, r.runId = t.runId ∧ r.state = .finalizing := by
  cases call with
  | queue call =>
    by_cases hsuccess : ∃ claim a now, call = .commitSuccess claim a now
    · obtain ⟨claim, a, now, rfl⟩ := hsuccess
      obtain ⟨record, h, _⟩ := reply_ok h
      exact commitSuccess_turns hinv h ht
    · rw [call.conversations_eq hinv h fun claim a now he => hsuccess ⟨claim, a, now, he⟩] at ht
      exact .inl ht
  | task call =>
    obtain ⟨r, _, h⟩ := bind_ok h
    cases pure_ok h
    exact .inl ht
  | createTask a =>
    rw [exec] at h
    obtain ⟨r, h, _⟩ := reply_ok h
    rw [(taskCreate_chain h).2] at ht
    exact .inl ht
  | dispatch intent owner agent now admission turns =>
    obtain ⟨r, h, _⟩ := reply_ok h
    rw [(dispatch_chain h).2] at ht
    exact .inl ht
  | submit agent admission submission now =>
    rw [exec] at h
    obtain ⟨r, h, _⟩ := reply_ok h
    rw [(submit_chain h).2] at ht
    exact .inl ht
  | outside call => exact .inl (call.turns_subset h ht)

/-! ## Lost runs -/

/-- The run is cancelling or has ended without a result. -/
def IsLost (q : QueueTables) (runId : String) : Prop :=
  ∃ r ∈ q.runs.rows, r.runId = runId ∧ r.state.isLost = true

theorem IsLost.grows {q q' : QueueTables} {runId : String} (h : IsLost q runId)
    (hgrow : QueueGrows q q') : IsLost q' runId := by
  obtain ⟨r, hr, hid, hlost⟩ := h
  obtain ⟨r', hr', hf⟩ := hgrow.runs r hr
  exact ⟨r', hr', hf.run_id.trans hid, RunLifecycleState.reaches_of_lost hf.states hlost⟩

theorem IsLost.state {q : QueueTables} {r : RunRow} (h : IsLost q r.runId)
    (hr : r ∈ q.runs.rows) : r.state.isLost = true := by
  obtain ⟨s, hs, hid, hlost⟩ := h
  rwa [← Table.eq_of_key hs hr hid]

theorem IsLost.not_finalizing {q : QueueTables} {r : RunRow} (h : IsLost q r.runId)
    (hr : r ∈ q.runs.rows) : r.state ≠ .finalizing := by
  intro hs
  have := h.state hr
  rw [hs] at this
  cases this

/-- A lost run exposes nothing. -/
theorem OutcomeValid.unavailable {state : RunLifecycleState} {result : RunResultAvailability}
    {failure : Option RunFailure} (h : OutcomeValid state result failure)
    (hlost : state.isLost = true) : state ≠ .succeeded ∧ result.resultAvailable = false := by
  have hne : state ≠ .succeeded := by
    rintro rfl
    cases hlost
  exact ⟨hne, Bool.eq_false_iff.mpr fun hr => hne (h.result hr)⟩

/-- What a later state shows of a run that was cancelled in an earlier one. -/
structure StaysCancelled (rt : Runtime) (earlier later : Database) (runId : String) : Prop where
  run : ∀ r ∈ later.queue.runs.rows, r.runId = runId →
    r.state ≠ .succeeded ∧ r.result.resultAvailable = false
  attempts : ∀ a ∈ later.queue.runAttempts.rows, a.runId = runId →
    a.state ≠ .succeeded ∧ a.result.resultAvailable = false
  turns : ∀ t ∈ later.conversations.turns.rows, t.runId = runId →
    t ∈ earlier.conversations.turns.rows
  /-- No success is committed, and so no turn is appended and no task update applied. -/
  refused : ∀ claim a now, claim.runRequest.runId = runId →
    Raises rt later (.queue (.commitSuccess claim a now))

theorem IsLost.later {runId : String} (hinv : QueueInvariant rt db.queue)
    (h : IsLost db.queue runId) (rest : List Call) :
    StaysCancelled rt db (after (exec rt) db rest) runId := by
  have hinv' := QueueChain.keeps hinv (history_chain hinv rest)
  have hlater := h.grows (QueueGrows.of_history hinv rest)
  refine ⟨fun r hr hid => ?_, fun a ha hid => ?_, ?_, fun claim a now hid => ?_⟩
  · exact (hinv'.runs r hr).record.outcome.unavailable ((hid ▸ hlater).state hr)
  · obtain ⟨r, hr, hrid, hs, hres, _⟩ := hinv'.mirror a ha
    rw [← hs, ← hres]
    exact (hinv'.runs r hr).record.outcome.unavailable
      ((hrid.trans hid ▸ hlater : IsLost _ r.runId).state hr)
  · refine (after_related (I := fun db => QueueInvariant rt db.queue ∧ IsLost db.queue runId)
      (R := fun d d' => ∀ t ∈ d'.conversations.turns.rows, t.runId = runId →
        t ∈ d.conversations.turns.rows)
      (fun c d o d' hi hc => ?_) (fun d t ht _ => ht) (fun d₁ d₂ d₃ h₁ h₂ => ?_)
      (fun c d o d' hi hc t ht hid => ?_) rest db ⟨hinv, h⟩)
    · have hchain := exec_chain hi.1 hc
      exact ⟨QueueChain.keeps hi.1 hchain, hi.2.grows (QueueGrows.of_chain hi.1 hchain)⟩
    · exact fun t ht hid => h₁ t (h₂ t ht hid) hid
    · rcases exec_turns hi.1 hc ht with ht | ⟨r, hr, hrid, hs⟩
      · exact ht
      · exact absurd hs ((hrid.trans hid ▸ hi.2 : IsLost _ r.runId).not_finalizing hr)
  · refine .of_not_ok fun o db'' hok => ?_
    obtain ⟨record, hok, _⟩ := reply_ok hok
    obtain ⟨run, row, _, _, hm, hs, _⟩ := commitSuccess_ok hinv' hok
    exact (hm.run_id.trans hid ▸ hlater : IsLost _ run.runId).not_finalizing
      hm.moved.runs.mem_old hs

/-- A cancellation that returned a cancelling or cancelled run leaves it lost. -/
theorem requestCancel_lost {runId operatorSubject : String} {now : Instant}
    {record : RunQueueRecord} (hinv : QueueInvariant rt db.queue)
    (h : requestCancel rt runId operatorSubject now db = .ok (record, db'))
    (hstate : record.state = .cancelRequested ∨ record.state = .cancelled) :
    QueueInvariant rt db'.queue ∧ IsLost db'.queue runId := by
  obtain ⟨run, hrun, rfl, ⟨rfl, rfl, _⟩ | ⟨hw, _⟩ | ⟨row, hm, _⟩⟩ := requestCancel_ok hinv h
  · refine ⟨hinv, run, hrun, rfl, ?_⟩
    rcases hstate with hs | hs <;> (show run.state.isLost = true; rw [show run.state = _ from hs]; rfl)
  · exact ⟨hw.keeps hinv, _, hw.replaced.mem_new, rfl, rfl⟩
  · exact ⟨hm.keeps hinv, _, hm.runs.mem_new, rfl, rfl⟩

/-! ## Ended runs -/

/-- A run that has ended gets no attempt, and those it has stay. -/
theorem HasEnded.attempts_of_change {q q' : QueueTables} {runId : String}
    (hinv : QueueInvariant rt q) (h : HasEnded q runId) (c : QueueChange rt q q')
    {a : AttemptRow} (ha : a ∈ q'.runAttempts.rows) (hid : a.runId = runId) :
    a ∈ q.runAttempts.rows := by
  -- no active attempt belongs to the run
  have hidle : ∀ b ∈ q.runAttempts.rows, b.state.isActive = true → b.runId ≠ runId := by
    rintro b hb hactive rfl
    obtain ⟨r, hr, hrid, hs, _⟩ := hinv.mirror b hb
    refine not_hasEnded hr ?_ (hrid ▸ h)
    rw [hs]
    exact RunLifecycleState.active_not_terminal hactive
  cases c with
  | admitted row c => rwa [c.frame] at ha
  | claimed row attempt now c =>
    rw [(Table.insert?_some c.insert).1, List.mem_append, List.mem_singleton] at ha
    rcases ha with ha | rfl
    · exact ha
    · obtain ⟨hrow, hhead⟩ := fairClaimSelect_some c.selected
      have hend : ¬ HasEnded q row.runId :=
        not_hasEnded hrow (by rw [isOperatorHead_queued hhead]; rfl)
      exact absurd (c.same_run.symm.trans hid ▸ h) hend
  | renewed old new c =>
    rcases c.attempt.mem_cases ha with rfl | ⟨ha, _⟩
    · exact absurd (c.same_run.symm.trans hid) (hidle old c.attempt.mem_old c.active)
    · exact ha
  | moved run attempt target outcome failure now c =>
    rcases c.attempts.mem_cases ha with rfl | ⟨ha, _⟩
    · exact absurd hid (hidle attempt c.attempts.mem_old c.active)
    · exact ha
  | withdrawn run now c => rwa [c.frame] at ha
  | activated c => rwa [c.frame] at ha

theorem HasEnded.attempts_of_chain {q q' : QueueTables} {runId : String}
    (hinv : QueueInvariant rt q) (h : HasEnded q runId) (c : QueueChain rt q q')
    {a : AttemptRow} (ha : a ∈ q'.runAttempts.rows) (hid : a.runId = runId) :
    a ∈ q.runAttempts.rows := by
  induction c with
  | refl => exact ha
  | tail hc c ih =>
    have hinv' := QueueChain.keeps hinv hc
    exact ih ((h.grows (QueueGrows.of_chain hinv hc)).attempts_of_change hinv' c ha hid)

/-! ## Whole histories -/

/-- **Cancellation wins**, and a terminal state is final: after any history, a cancellation
that returned holds however the history goes on, and a run that has ended keeps its row and
its attempts as they are. -/
theorem cancellation_wins (rt : Runtime) (first rest : List Call) :
    let db := after (exec rt) Database.initial first
    (∀ runId operatorSubject now record db',
      requestCancel rt runId operatorSubject now db = .ok (record, db') →
      record.state = .cancelRequested ∨ record.state = .cancelled →
        StaysCancelled rt db' (after (exec rt) db' rest) runId) ∧
    ∀ r ∈ db.queue.runs.rows, r.state.isTerminal = true →
      r ∈ (after (exec rt) db rest).queue.runs.rows ∧
      ∀ a, a.runId = r.runId → (a ∈ (after (exec rt) db rest).queue.runAttempts.rows ↔
        a ∈ db.queue.runAttempts.rows) := by
  intro db
  have hinv : QueueInvariant rt db.queue := Reachable.queue ⟨first, rfl⟩
  refine ⟨fun runId operator now record db' h hstate => ?_, fun r hr ht => ?_⟩
  · obtain ⟨hinv', hlost⟩ := requestCancel_lost hinv h hstate
    exact hlost.later hinv' rest
  · have hgrow := QueueGrows.of_history hinv rest
    have hchain := history_chain hinv rest
    constructor
    · obtain ⟨r', hr', hf⟩ := hgrow.runs r hr
      rwa [hf.settled ht] at hr'
    · refine fun a hid => ⟨fun ha => ?_, fun ha => ?_⟩
      · exact HasEnded.attempts_of_chain hinv ⟨r, hr, rfl, ht⟩ hchain ha hid
      obtain ⟨a', ha', hf⟩ := hgrow.attempts a ha
      rwa [hf.settled (by rw [← (hinv.run_of ha hr hid.symm).1]; exact ht)] at ha'

end ProofAgent
