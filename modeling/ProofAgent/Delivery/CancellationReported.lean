import ProofAgent.Delivery.ExecutorSurroundings
import ProofAgent.RunQueue.ReadBack

/-! # When a cancellation is reported

A cancellation that reaches a claimed run makes the executor's cancellation check raise, or its
commit be rejected, and both end in `CANCELLED`. Between the second check and `mark_finalizing`
it makes the transition to `FINALIZING` fail instead, and that is handled as any other error:
the run ends in `FAILED`. So does what the finalizer or the commit raises on its own. -/
namespace ProofAgent

open Base Base.Process RunQueueRepository

variable {rt : Runtime} {W α : Type} {claim : RunClaim}

/-- The claim stays live: its deadline is not reached, its lease, its activation and its worker
role are there at each of the executor's commands, and its handler raises at most cancellations. -/
def ExecutorEvent.Live (claim : RunClaim) : ExecutorEvent → Prop
  | .clockRead now => now < claim.attempt.deadlineAt
  | .commanded _ now db => now < claim.attempt.deadlineAt ∧
    (∀ a ∈ db.queue.runAttempts.rows, a.attemptId = claim.attempt.attemptId → now < a.leaseExpiresAt) ∧
    ∃ x ∈ db.queue.runExecutorActivations.rows,
      ownsActivation x.slot claim.attempt.executorId claim.attempt.activationEpoch x ∧
      requireWorkerRoleLease x.slot claim.attempt.executorId now true db = .ok ()
  | .handlerRaised (.runExecutionCancelled _) => True
  | .handlerRaised _ => False
  | .cancelRequested => True

/-- No failure is committed while a cancellation is pending; and the task of a run whose
cancellation is committed can take note of it, by a clock that is not behind the claim. -/
def ExecutorEvent.Reports (rt : Runtime) (claim : RunClaim) : ExecutorEvent → Prop
  | .commanded (.commitTerminalFailure target) now db =>
    ∀ run ∈ db.queue.runs.rows, run.runId = claim.runRequest.runId → run.state = .cancelRequested →
      target ≠ .failed ∧ run.createdAt ≤ now ∧ claim.attempt.createdAt ≤ now ∧
        ∃ db', recordFailedTask rt run.requestJson now db = .ok db'
  | _ => True

/-- The run of the claim is cancelled. -/
def EndsCancelled (claim : RunClaim) (db : Database) : Prop :=
  ∃ run ∈ db.queue.runs.rows, run.runId = claim.runRequest.runId ∧ run.state = .cancelled ∧
    run.terminalFailureJson = some { code := .cancelled }

/-- What the executor makes of a cancellation when it returns. -/
def Reported (rt : Runtime) (claim : RunClaim) (r : Except ExecutorException Unit)
    (s : ExecutorWorld W) : Prop :=
  (∀ e ∈ s.journal, e.Live claim) → (∀ e ∈ s.journal, e.Reports rt claim) →
    ExecutorEvent.cancelRequested ∈ s.journal → r = .ok () ∧ EndsCancelled claim s.db

/-- The claim did not stay live. -/
def Spoiled (claim : RunClaim) (s : ExecutorWorld W) : Prop := ∃ e ∈ s.journal, ¬ e.Live claim

/-- The attempt is tracked, and nothing but a reached deadline has raised a timeout. -/
def Safe (rt : Runtime) (claim : RunClaim) (r : Except ExecutorException α) (s : ExecutorWorld W) :
    Prop :=
  Tracked rt claim s ∧ ∀ message, r = .error (.runExecutionTimedOut message) → Spoiled claim s

/-- What was raised goes on as the result of the whole. -/
theorem Safe.error {β : Type} {e : ExecutorException} {s : ExecutorWorld W}
    (h : Safe rt claim (.error e : Except ExecutorException α) s) :
    Safe rt claim (.error e : Except ExecutorException β) s := by
  refine ⟨h.1, fun message htimeout => h.2 message ?_⟩
  cases htimeout
  rfl

theorem Outside.journal {s t : ExecutorWorld W} (h : Relation.ReflTransGen (Outside rt claim) s t) :
    ∀ e ∈ s.journal, e ∈ t.journal := by
  induction h with
  | refl => exact fun _ he => he
  | tail _ hstep ih =>
    intro e he
    cases hstep with
    | call s hpermitted hcall => exact List.mem_append_left _ (ih e he)
    | clock now => exact ih e he
    | outer w => exact ih e he

/-! ## Moments of the executor -/

theorem Tracked.log {s : ExecutorWorld W} {e : ExecutorEvent} (h : Tracked rt claim s)
    (he : e ≠ .cancelRequested) : Tracked rt claim (s.log e) := by
  obtain ⟨a, ha, hclaim, hpending⟩ := h.attempt
  refine ⟨h.queue, a, ha, hclaim, fun hnoted => hpending ?_⟩
  rcases List.mem_append.mp hnoted with hnoted | hnoted
  · exact hnoted
  · exact absurd (List.mem_singleton.mp hnoted).symm he

/-- The run of the claim, in the state of its attempt. -/
theorem Tracked.run {s : ExecutorWorld W} (h : Tracked rt claim s) :
    ∃ run ∈ s.db.queue.runs.rows, run.runId = claim.runRequest.runId ∧
      (ExecutorEvent.cancelRequested ∈ s.journal → run.state = .cancelRequested) := by
  obtain ⟨a, ha, hclaim, hpending⟩ := h.attempt
  obtain ⟨run, hrun, hid, hstate, _⟩ := h.queue.mirror a ha
  exact ⟨run, hrun, hid.trans hclaim.run_eq, fun hnoted => hstate.trans (hpending hnoted)⟩

/-- A run that is in another state has not been asked to stop. -/
theorem Tracked.unrequested {s : ExecutorWorld W} (h : Tracked rt claim s) {run : RunRow}
    (hrun : run ∈ s.db.queue.runs.rows) (hid : run.runId = claim.runRequest.runId)
    (hstate : run.state ≠ .cancelRequested) : ExecutorEvent.cancelRequested ∉ s.journal := by
  intro hnoted
  obtain ⟨run', hrun', hid', hpending⟩ := h.run
  obtain rfl := Table.eq_of_key hrun hrun' (hid.trans hid'.symm)
  exact hstate (hpending hnoted)

namespace RunExecutor

theorem now_ensures {Q : Except ExecutorException Instant → ExecutorWorld W → Prop}
    {s : ExecutorWorld W} (hs : Tracked rt claim s)
    (h : ∀ t, Relation.ReflTransGen (Outside rt claim) s t → Tracked rt claim (t.log (.clockRead t.clock)) →
      Q (.ok t.clock) (t.log (.clockRead t.clock))) :
    (now : Execution W Instant).Ensures (Outside rt claim) Q s :=
  fun t ht => h t ht ((hs.among ht).log nofun)

theorem get_ensures {Q : Except ExecutorException (Option RunQueueRecord) → ExecutorWorld W → Prop}
    {s : ExecutorWorld W} (hs : Tracked rt claim s)
    (h : ∀ t run, Relation.ReflTransGen (Outside rt claim) s t → Tracked rt claim t →
      run ∈ t.db.queue.runs.rows → run.runId = claim.runRequest.runId → Q (.ok (some run.record)) t) :
    (get rt claim : Execution W _).Ensures (Outside rt claim) Q s := by
  intro t ht
  have htracked := hs.among ht
  obtain ⟨run, hrun, hid, _⟩ := htracked.run
  have huuid : isUuid claim.runRequest.runId = true := by
    have haccepted := claim.runRequest.accepted
    simp only [RunRequestFields.checks, List.forall_mem_cons, check_iff] at haccepted
    exact haccepted.1.1
  have hget : RunQueueRepository.get rt claim.runRequest.runId t.db = .ok (some run.record) := by
    rw [getRun_eq htracked.queue huuid, ← hid, Table.find?_of_mem hrun]
    rfl
  show Q ((RunQueueRepository.get rt claim.runRequest.runId t.db).mapError .repository) t
  rw [hget]
  exact h t run ht htracked hrun hid

/-- A command is rejected and leaves the database, or what it returns or raises is built on the
database that it leaves. -/
theorem command_ensures {Q : Except ExecutorException α → ExecutorWorld W → Prop}
    {kind : ExecutorCommand} {now : Instant} {x : Database → Except Error (Except Error α × Database)}
    {s : ExecutorWorld W}
    (hrejected : ∀ t e, Relation.ReflTransGen (Outside rt claim) s t → x t.db = .error e →
      Q (.error (.repository e)) (t.log (.commanded kind now t.db)))
    (hdone : ∀ t made db', Relation.ReflTransGen (Outside rt claim) s t → x t.db = .ok (made, db') →
      Q (made.mapError .repository) { t.log (.commanded kind now t.db) with db := db' }) :
    (command kind now x).Ensures (Outside rt claim) Q s := by
  intro t ht
  show Q (commandResult (x t.db)) { t.log (.commanded kind now t.db) with db := commandedDb (x t.db) t.db }
  cases h : x t.db with
  | error e => exact hrejected t e ht h
  | ok r =>
    obtain ⟨made, db'⟩ := r
    cases made with
    | error e => exact hdone t (.error e) db' ht h
    | ok a => exact hdone t (.ok a) db' ht h

/-- **The check changes nothing, and raises a timeout only at the deadline.** -/
theorem check_ensures {s : ExecutorWorld W} (hs : Tracked rt claim s) :
    (checkCancellationOrDeadline rt claim : Execution W Unit).Ensures (Outside rt claim)
      (Safe rt claim) s := by
  refine ensures_bind (now_ensures hs fun t _ ht => ?_)
  by_cases hlate : claim.attempt.deadlineAt ≤ t.clock
  · simp only [hlate, if_true]
    refine ensures_raise ⟨ht, fun _ _ => ⟨.clockRead t.clock, ?_, not_lt.mpr hlate⟩⟩
    exact List.mem_append_right _ (List.mem_singleton_self _)
  · simp only [hlate, if_false]
    refine ensures_bind (get_ensures ht fun u run _ hu _ _ => ?_)
    dsimp only
    split
    · exact ensures_raise ⟨hu, nofun⟩
    · split
      · exact ensures_raise ⟨hu, nofun⟩
      · exact ensures_pure ⟨hu, nofun⟩

/-- A handler leaves the queue to the executor. -/
theorem handling_ensures {check : Execution W Unit}
    (hcheck : ∀ s, Tracked rt claim s →
      check.Ensures (Outside rt claim) (fun _ t => Tracked rt claim t) s)
    (x : Handling W α) : ∀ s, Tracked rt claim s →
      (x.run check).Ensures (Outside rt claim) (fun _ t => Tracked rt claim t) s := by
  induction x with
  | done result => exact fun _ hs => hs
  | act write next ih =>
    intro s hs t ht
    have htracked := hs.among ht
    exact ih t _ ⟨htracked.queue, htracked.attempt⟩
  | check next ih =>
    intro s hs
    exact ensures_caught (ensures_mono (fun r t ht => ih r t ht) (hcheck s hs))

/-- What the handler raises is a cancellation, or the claim did not stay live. -/
theorem handle_ensures (handler : RunClaim → Handling W RunWorkResult) {s : ExecutorWorld W}
    (hs : Tracked rt claim s) :
    (handle rt handler claim).Ensures (Outside rt claim) (Safe rt claim) s := by
  refine ensures_caught (ensures_mono (fun r t ht => ?_) (handling_ensures
    (fun s hs => ensures_mono (fun _ _ h => h.1) (check_ensures hs)) (handler claim) s hs))
  cases r with
  | ok handled => exact ensures_pure ⟨ht, nofun⟩
  | error e =>
    intro u hu
    refine ⟨(ht.among hu).log nofun, fun message htimeout => ⟨.handlerRaised e, ?_, ?_⟩⟩
    · exact List.mem_append_right _ (List.mem_singleton_self _)
    · obtain rfl : e = .runExecutionTimedOut message := Except.error.inj htimeout
      exact id

theorem markFinalizing_request {db db' : Database} {now : Instant} {finalized : RunClaim}
    (h : RunQueueRepository.markFinalizing rt claim now db = .ok (.ok finalized, db')) :
    finalized.runRequest = claim.runRequest := by
  obtain ⟨row, _, h⟩ := bind_ok h
  obtain ⟨attempt, _, h⟩ := bind_ok h
  obtain ⟨_, _, h⟩ := bind_ok h
  obtain ⟨q, _, h⟩ := bind_ok h
  obtain ⟨record, _, h⟩ := bind_ok h
  obtain ⟨_, _, h⟩ := bind_ok h
  obtain ⟨queue, _, h⟩ := bind_ok h
  exact (RunClaim.make_ok (Prod.mk.inj (pure_ok h)).1).1

/-- **A run that is marked as finalizing has not been asked to stop.** -/
theorem markFinalizing_ensures {s : ExecutorWorld W} (hs : Tracked rt claim s) (now : Instant) :
    (command .markFinalizing now (RunQueueRepository.markFinalizing rt claim now) :
      Execution W RunClaim).Ensures (Outside rt claim)
      (fun r t => Safe rt claim r t ∧ ∀ finalized, r = .ok finalized →
        finalized.runRequest = claim.runRequest) s := by
  refine command_ensures (fun t e ht _ => ?_) (fun t made db' ht h => ?_)
  · exact ⟨⟨(hs.among ht).log nofun, nofun⟩, fun _ h => (nomatch h)⟩
  · have htracked := hs.among ht
    obtain ⟨⟨run, row, hm, hrunning⟩, _⟩ := markFinalizing_ok htracked.queue h
    obtain ⟨a, ha, hclaim, _⟩ := htracked.attempt
    obtain rfl := Table.eq_of_key ha hm.owned.mem (hclaim.attempt_id.trans hm.owned.attempt_id.symm)
    have hlog : Tracked rt claim (t.log (.commanded .markFinalizing now t.db)) := htracked.log nofun
    have hnew := hlog.unrequested hm.moved.runs.mem_old hm.run_id (by rw [hrunning]; decide)
    have hchange : QueueChange rt t.db.queue db'.queue := .moved _ _ _ _ _ _ hm.moved
    have htracked' : Tracked rt claim
        { t.log (.commanded .markFinalizing now t.db) with db := db' } :=
      ⟨hchange.keeps htracked.queue, _, hm.moved.attempts.mem_new,
        .trans _ _ _ hclaim ⟨rfl, rfl, rfl, rfl, rfl, rfl, rfl, rfl⟩, fun hnoted => absurd hnoted hnew⟩
    cases made with
    | error e => exact ⟨⟨htracked', nofun⟩, fun _ h => (nomatch h)⟩
    | ok finalized =>
      refine ⟨⟨htracked', nofun⟩, fun finalized' hsame => ?_⟩
      obtain rfl : finalized = finalized' := Except.ok.inj hsame
      exact markFinalizing_request h

theorem work_ensures (handler : RunClaim → Handling W RunWorkResult) {s : ExecutorWorld W}
    (hs : Tracked rt claim s) :
    (work rt handler claim).Ensures (Outside rt claim)
      (fun r t => Safe rt claim r t ∧ ∀ worked, r = .ok worked →
        worked.2.runRequest = claim.runRequest) s := by
  refine ensures_bind (ensures_mono (fun r t ht => ?_) (check_ensures hs))
  cases r with
  | error e => exact ⟨ht.error, fun _ h => (nomatch h)⟩
  | ok u =>
    refine ensures_bind (ensures_mono (fun r t ht => ?_) (handle_ensures handler ht.1))
    cases r with
    | error e => exact ⟨ht.error, fun _ h => (nomatch h)⟩
    | ok handled =>
      refine ensures_bind (ensures_mono (fun r t ht => ?_) (check_ensures ht.1))
      cases r with
      | error e => exact ⟨ht.error, fun _ h => (nomatch h)⟩
      | ok u =>
        refine ensures_bind (now_ensures ht.1 fun t _ ht => ?_)
        refine ensures_bind (ensures_mono (fun r t ht => ?_) (markFinalizing_ensures ht _))
        cases r with
        | error e => exact ⟨ht.1.error, fun _ h => (nomatch h)⟩
        | ok finalized =>
          refine ensures_pure ⟨⟨ht.1.1, nofun⟩, fun worked hworked => ?_⟩
          obtain rfl := Except.ok.inj hworked
          exact ht.2 finalized rfl

/-! ## Artifacts -/

variable {library : ArtifactLibrary} {store : ArtifactStore W}

/-- A call of the store leaves the queue to the executor. -/
theorem callStore_ensures (x : Effect W String α) {s : ExecutorWorld W} (hs : Tracked rt claim s) :
    (ArtifactBundleFinalizer.callStore .finalizer
      (Effect.focus (·.outer) (fun s outer => { s with outer }) x) : Execution W α).Ensures
        (Outside rt claim) (Safe rt claim) s := by
  intro t ht
  have htracked := hs.among ht
  refine ⟨⟨htracked.queue, htracked.attempt⟩, fun message htimeout => ?_⟩
  cases h : (x t.outer).1 with
  | ok a =>
    simp only [Effect.focus, h] at htimeout
    cases htimeout
  | error e =>
    simp only [Effect.focus, h] at htimeout
    cases htimeout

theorem verifyExact_ensures (ref : ArtifactObjectVersion) {s : ExecutorWorld W}
    (hs : Tracked rt claim s) :
    (ArtifactBundleFinalizer.verifyExact library store.outer .finalizer ref : Execution W Unit).Ensures
      (Outside rt claim) (Safe rt claim) s := by
  refine ensures_bind (ensures_mono (fun r t ht => ?_) (callStore_ensures (store.headExact ref) hs))
  cases r with
  | error e => exact ht.error
  | ok head =>
    dsimp only
    split
    · exact ensures_raise ⟨ht.1, nofun⟩
    · refine ensures_bind (ensures_mono (fun r u hu => ?_) (callStore_ensures (store.openExact ref) ht.1))
      cases r with
      | error e => exact hu.error
      | ok content =>
        dsimp only
        split
        · exact ensures_raise ⟨hu.1, nofun⟩
        · split
          · exact ensures_raise ⟨hu.1, nofun⟩
          · exact ensures_pure ⟨hu.1, nofun⟩

theorem upload_ensures (request : ArtifactPutRequest) (content : List UInt8) {s : ExecutorWorld W}
    (hs : Tracked rt claim s) :
    (ArtifactBundleFinalizer.upload library store.outer .finalizer request content :
      Execution W ArtifactObjectVersion).Ensures (Outside rt claim) (Safe rt claim) s := by
  refine ensures_bind (ensures_mono (fun r t ht => ?_)
    (callStore_ensures (store.putImmutable request content) hs))
  cases r with
  | error e => exact ht.error
  | ok ref =>
    refine ensures_bind (ensures_mono (fun r u hu => ?_) (verifyExact_ensures ref ht.1))
    cases r with
    | error e => exact hu.error
    | ok _ => exact ensures_pure ⟨hu.1, nofun⟩

theorem uploadMember_ensures (owner : ArtifactOwner) (uploaded : List (String × ArtifactObjectVersion))
    (member : ArtifactMemberPayload) {s : ExecutorWorld W} (hs : Tracked rt claim s) :
    (ArtifactBundleFinalizer.uploadMember library store.outer .finalizer
      (checkCancellationOrDeadline rt claim) owner uploaded member : Execution W _).Ensures
        (Outside rt claim) (Safe rt claim) s := by
  refine ensures_bind (ensures_mono (fun r t ht => ?_) (check_ensures hs))
  cases r with
  | error e => exact ht.error
  | ok _ =>
    refine ensures_bind (ensures_mono (fun r u hu => ?_) (upload_ensures _ member.content ht.1))
    cases r with
    | error e => exact hu.error
    | ok ref => exact ensures_pure ⟨hu.1, nofun⟩

/-- **The finalizer raises a timeout only where the check does.** -/
theorem prepare_ensures (owner : ArtifactOwner) (manifestId : String)
    (members : List ArtifactMemberPayload) {s : ExecutorWorld W} (hs : Tracked rt claim s) :
    (ArtifactBundleFinalizer.prepare library store.outer .finalizer finalizerClock
      (checkCancellationOrDeadline rt claim) owner manifestId members : Execution W _).Ensures
        (Outside rt claim) (Safe rt claim) s := by
  intro t ht
  have htracked := hs.among ht
  dsimp only
  show Ensures _ _ (ite _ _ _) t
  split
  · exact ensures_raise ⟨htracked, nofun⟩
  · split
    · exact ensures_raise ⟨htracked, nofun⟩
    · refine ensures_bind (ensures_foldlM (I := fun _ t => Tracked rt claim t)
        (fun uploaded u hu => ?_) (fun uploaded member u hu => ?_) _ htracked)
      · dsimp only
        cases hmake : ArtifactManifest.make manifestId owner uploaded t.clock with
        | error e =>
          refine ensures_bind (ensures_ofExcept ?_)
          exact ⟨hu, nofun⟩
        | ok manifest =>
          refine ensures_bind (ensures_ofExcept ?_)
          refine ensures_bind (ensures_mono (fun r v hv => ?_) (check_ensures hu))
          cases r with
          | error e => exact hv.error
          | ok _ =>
            refine ensures_bind (ensures_mono (fun r v hv => ?_) (upload_ensures _ _ hv.1))
            cases r with
            | error e => exact hv.error
            | ok ref => exact ensures_pure ⟨hv.1, nofun⟩
      · refine ensures_mono (fun r v hv => ?_) (uploadMember_ensures owner uploaded member hu)
        cases r with
        | error e => exact hv.error
        | ok _ => exact hv.1

theorem inside_ok {x : Except Error (α × Database)} {made : Except Error α} {db' : Database}
    (h : inside x = .ok (made, db')) : ∃ a, made = .ok a ∧ x = .ok (a, db') := by
  cases x with
  | error e => cases h
  | ok r =>
    obtain ⟨rfl, rfl⟩ := Prod.mk.inj (Except.ok.inj h)
    exact ⟨_, rfl, rfl⟩

/-- **A run that succeeds has not been asked to stop.** -/
theorem commitSuccess_ensures {finalized : RunClaim} {now : Instant} {arguments : SuccessArguments}
    (hrequest : finalized.runRequest = claim.runRequest) {s : ExecutorWorld W}
    (hs : Tracked rt claim s) :
    (command .commitSuccess now fun db =>
      inside (RunQueueRepository.commitSuccess rt finalized arguments now db) :
      Execution W RunQueueRecord).Ensures (Outside rt claim)
      (fun r t => (∀ e, r = .error e → Safe rt claim r t) ∧
        ∀ record, r = .ok record → ExecutorEvent.cancelRequested ∉ t.journal) s := by
  refine command_ensures (fun t e ht _ => ?_) (fun t made db' ht h => ?_)
  · exact ⟨fun _ _ => ⟨(hs.among ht).log nofun, nofun⟩, fun _ h => (nomatch h)⟩
  · have htracked := hs.among ht
    obtain ⟨record, rfl, hcommit⟩ := inside_ok h
    obtain ⟨run, row, _, _, hm, hstate, _⟩ := commitSuccess_ok htracked.queue hcommit
    refine ⟨fun _ h => (nomatch h), fun _ _ => ?_⟩
    have hlog : Tracked rt claim (t.log (.commanded .commitSuccess now t.db)) := htracked.log nofun
    exact hlog.unrequested hm.moved.runs.mem_old (hm.run_id.trans (by rw [hrequest]))
      (by rw [hstate]; decide)

theorem finish_ensures {manifestId : String} {handled : RunWorkResult} {finalized : RunClaim}
    (hrequest : finalized.runRequest = claim.runRequest) {s : ExecutorWorld W}
    (hs : Tracked rt claim s) :
    (finish rt library store manifestId claim handled finalized).Ensures (Outside rt claim)
      (fun r t => (∀ e, r = .error e → Safe rt claim r t) ∧
        (r = .ok () → ExecutorEvent.cancelRequested ∉ t.journal)) s := by
  refine ensures_bind (ensures_mono (fun r t ht => ?_) (prepare_ensures _ _ _ hs))
  cases r with
  | error e => exact ⟨fun _ _ => ht.error, nofun⟩
  | ok prepared =>
    refine ensures_bind (ensures_mono (fun r t ht => ?_) (check_ensures ht.1))
    cases r with
    | error e => exact ⟨fun _ _ => ht.error, nofun⟩
    | ok _ =>
      refine ensures_bind (now_ensures ht.1 fun t _ ht => ?_)
      refine ensures_bind (ensures_mono (fun r t ht => ?_) (commitSuccess_ensures hrequest ht))
      cases r with
      | error e => exact ⟨fun _ _ => (ht.1 e rfl).error, nofun⟩
      | ok record => exact ensures_pure ⟨nofun, fun _ => ht.2 record rfl⟩

/-! ## What the exceptions are turned into -/

theorem recordFailedTask_queue {request : RunRequest} {now : Instant} {db db' : Database}
    (q : QueueTables) (h : recordFailedTask rt request now db = .ok db') :
    ∃ db'', recordFailedTask rt request now { db with queue := q } = .ok db'' := by
  unfold recordFailedTask at h ⊢
  cases htask : request.task with
  | none => exact ⟨_, rfl⟩
  | some t =>
    rw [htask] at h
    obtain ⟨r, hrecord, _⟩ := bind_ok h
    refine ⟨{ db with queue := q, tasks := r.2 }, ?_⟩
    show WorkflowTaskService.recordFailedRun rt t.taskId request.runId (taskOwner request) now
      db.tasks >>= (fun r => pure ({ db with queue := q, tasks := r.2 } : Database)) = _
    rw [hrecord]
    rfl

/-- **A cancellation that was requested can be committed**, if the claim is live. -/
theorem commitCancelled_returns {s : ExecutorWorld W} {target : RunLifecycleState} {now : Instant}
    (hs : Tracked rt claim s) (hnoted : ExecutorEvent.cancelRequested ∈ s.journal)
    (hlive : (ExecutorEvent.commanded (.commitTerminalFailure target) now s.db).Live claim)
    (hreports : (ExecutorEvent.commanded (.commitTerminalFailure target) now s.db).Reports rt claim) :
    target ≠ .failed ∧ ∃ r, commitTerminalFailure rt claim .cancelled { code := .cancelled } now s.db =
      .ok r := by
  obtain ⟨a, ha, hclaim, hpending⟩ := hs.attempt
  obtain ⟨run, hrun, hid, hstate⟩ := hs.run
  obtain ⟨hdeadline, hlease, hrole⟩ := hlive
  obtain ⟨hne, hcreated, hclaimed, db', hrecord⟩ := hreports run hrun hid (hstate hnoted)
  have hactive : a.state.isActive = true := by rw [hpending hnoted]; rfl
  have howned : Owned claim a now false s.db := {
    mem := ha
    attempt_id := hclaim.attempt_id
    identity := ⟨hclaim.run_id, hclaim.token, hclaim.fencing, hclaim.epoch, hclaim.executor⟩
    active := hactive
    lease := hlease a ha hclaim.attempt_id
    deadline := .inr (hclaim.deadline ▸ hdeadline)
    role := hrole }
  have hallowed : a.state.allowed .cancelled = true := by rw [hpending hnoted]; rfl
  obtain ⟨q', _, heq⟩ := commitTerminalFailure_eq { code := .cancelled } hs.queue (.inr (.inr rfl))
    howned hallowed hrun (hid.trans hclaim.run_eq.symm) ⟨hcreated, hclaim.created ▸ hclaimed⟩
  obtain ⟨db'', hrecord'⟩ := recordFailedTask_queue q' hrecord
  refine ⟨hne, (run.record.ended .cancelled .unavailable (some { code := .cancelled }) now, db''), ?_⟩
  rw [heq, hrecord']
  rfl

/-- What a committed cancellation leaves. -/
theorem committed_cancelled {now : Instant} {db db' : Database} {record : RunQueueRecord}
    (hinv : QueueInvariant rt db.queue)
    (h : commitTerminalFailure rt claim .cancelled { code := .cancelled } now db = .ok (record, db')) :
    EndsCancelled claim db' := by
  obtain ⟨run, row, hm, _⟩ := commitTerminalFailure_ok hinv h
  exact ⟨_, hm.moved.runs.mem_new, hm.run_id, rfl, rfl⟩

/-- A terminal failure is committed for a cancellation, for another error or after the deadline. -/
theorem terminal_ensures {target : RunLifecycleState} {code : RunFailureCode} {s : ExecutorWorld W}
    (hs : Tracked rt claim s)
    (hkind : (target = .cancelled ∧ code = .cancelled) ∨ target = .failed ∨ Spoiled claim s) :
    (terminalBestEffort rt claim target code).Ensures (Outside rt claim) (Reported rt claim) s := by
  have hcommit : (now >>= fun now => command (.commitTerminalFailure target) now fun db =>
      inside (RunQueueRepository.commitTerminalFailure rt claim target { code } now db) :
      Execution W RunQueueRecord).Ensures (Outside rt claim) (fun r t =>
        (∀ e ∈ t.journal, e.Live claim) → (∀ e ∈ t.journal, e.Reports rt claim) →
          ExecutorEvent.cancelRequested ∈ t.journal →
          (∃ record, r = .ok record) ∧ EndsCancelled claim t.db) s := by
    refine ensures_bind (now_ensures hs fun t hst ht => ?_)
    -- the state in which the commit is made, and what its event says of it
    have hmade : ∀ u, Relation.ReflTransGen (Outside rt claim) (t.log (.clockRead t.clock)) u →
        let journal := (u.log (.commanded (.commitTerminalFailure target) t.clock u.db)).journal
        (∀ e ∈ journal, e.Live claim) → (∀ e ∈ journal, e.Reports rt claim) →
          ExecutorEvent.cancelRequested ∈ journal → (target = .cancelled ∧ code = .cancelled) ∧
          ∃ r, commitTerminalFailure rt claim .cancelled { code := .cancelled } t.clock u.db = .ok r := by
      intro u hu journal hlive hreports hnoted
      have hlast : ExecutorEvent.commanded (.commitTerminalFailure target) t.clock u.db ∈ journal :=
        List.mem_append_right _ (List.mem_singleton_self _)
      have hearlier : ExecutorEvent.cancelRequested ∈ u.journal := by
        rcases List.mem_append.mp hnoted with h | h
        · exact h
        · cases List.mem_singleton.mp h
      obtain ⟨hne, hreturns⟩ := commitCancelled_returns (ht.among hu) hearlier
        (hlive _ hlast) (hreports _ hlast)
      refine ⟨?_, hreturns⟩
      rcases hkind with hcancelled | hfailed | hspoiled
      · exact hcancelled
      · exact absurd hfailed hne
      · obtain ⟨e, he, hnot⟩ := hspoiled
        refine absurd (hlive e (List.mem_append_left _ (Outside.journal hu _ ?_))) hnot
        exact List.mem_append_left _ (Outside.journal hst _ he)
    refine command_ensures (fun u e hu hrejected hlive hreports hnoted => ?_)
      (fun u made db' hu hreturned hlive hreports hnoted => ?_)
    · obtain ⟨⟨rfl, rfl⟩, r, hr⟩ := hmade u hu hlive hreports hnoted
      rw [hr] at hrejected
      cases hrejected
    · obtain ⟨⟨rfl, rfl⟩, _⟩ := hmade u hu hlive hreports hnoted
      obtain ⟨record, rfl, hcommitted⟩ := inside_ok hreturned
      exact ⟨⟨record, rfl⟩, committed_cancelled (ht.among hu).queue hcommitted⟩
  refine ensures_caught (ensures_mono (fun r t ht => ?_) hcommit)
  cases r with
  | ok record => exact ensures_pure fun hlive hreports hnoted => ⟨rfl, (ht hlive hreports hnoted).2⟩
  | error e =>
    have hnone : ∀ r : Except ExecutorException Unit, Reported rt claim r t := by
      intro r hlive hreports hnoted
      obtain ⟨⟨record, hr⟩, _⟩ := ht hlive hreports hnoted
      cases hr
    split
    · exact ensures_pure (hnone _)
    · exact ensures_pure (hnone _)
    · exact ensures_pure (hnone _)
    · exact ensures_raise (hnone _)

/-- **An exception of a live claim** is reported as the cancellation that was requested. -/
theorem recover_ensures (finalizing : Bool) {e : ExecutorException} {s : ExecutorWorld W}
    (hs : Safe rt claim (.error e : Except ExecutorException α) s) :
    (recover rt claim finalizing e : Execution W Unit).Ensures (Outside rt claim)
      (Reported rt claim) s := by
  unfold recover
  split
  · exact terminal_ensures hs.1 (.inl ⟨rfl, rfl⟩)
  · exact terminal_ensures hs.1 (.inr (.inr (hs.2 _ rfl)))
  · refine ensures_bind (get_ensures hs.1 fun t run _ ht hrun hid => ?_)
    dsimp only
    split
    · exact terminal_ensures ht (.inl ⟨rfl, rfl⟩)
    · rename_i hother
      refine ensures_pure fun _ _ hnoted => absurd hnoted (ht.unrequested hrun hid fun hstate => ?_)
      exact hother (decide_eq_true hstate)
  · exact terminal_ensures hs.1 (.inr (.inl rfl))

variable {library : ArtifactLibrary} {store : ArtifactStore W}

theorem executeClaim_ensures (handler : RunClaim → Handling W RunWorkResult) {manifestId : String}
    {s : ExecutorWorld W} (hs : Tracked rt claim s) :
    (executeClaim rt library store handler manifestId claim).Ensures (Outside rt claim)
      (Reported rt claim) s := by
  refine ensures_caught (ensures_mono (fun r t ht => ?_) (work_ensures handler hs))
  cases r with
  | error e => exact recover_ensures false ht.1
  | ok worked =>
    refine ensures_caught (ensures_mono (fun r u hu => ?_) (finish_ensures (ht.2 worked rfl) ht.1.1))
    cases r with
    | error e => exact recover_ensures true (hu.1 e rfl)
    | ok _ => exact ensures_pure fun _ _ hnoted => absurd hnoted (hu.2 rfl)

end RunExecutor

/-- A fresh claim is tracked. -/
theorem Tracked.claimed {c : ClaimArguments} {db db' : Database} (hdb : Reachable rt db)
    (hclaim : claimNext rt c db = .ok (some claim, db')) (clock : Instant) (outer : W) :
    Tracked rt claim ⟨db', clock, outer, []⟩ := by
  have hcall : exec rt (.queue (.claimNext c)) db = .ok (.claim (some claim), db') := by
    simp only [exec, QueueCall.exec, hclaim]
    rfl
  rcases (claimNext_ok hdb.queue hclaim).2 with ⟨hnone, _⟩ | ⟨run, claim', hsome, hc, _⟩
  · cases hnone
  · obtain rfl := Option.some.inj hsome
    refine ⟨QueueChain.keeps hdb.queue (exec_chain hdb.queue hcall),
      AttemptRow.ofAttempt claim.attempt, ?_, .refl _, fun h => absurd h List.not_mem_nil⟩
    rw [(Table.insert?_some hc.insert).1]
    exact List.mem_append_right _ (List.mem_singleton_self _)

instance (e : ExecutorEvent) : Decidable (e.Live claim) :=
  match e with
  | .clockRead now => inferInstanceAs (Decidable (now < claim.attempt.deadlineAt))
  | .commanded _ now db => inferInstanceAs (Decidable (now < claim.attempt.deadlineAt ∧
    (∀ a ∈ db.queue.runAttempts.rows, a.attemptId = claim.attempt.attemptId → now < a.leaseExpiresAt) ∧
    ∃ x ∈ db.queue.runExecutorActivations.rows,
      ownsActivation x.slot claim.attempt.executorId claim.attempt.activationEpoch x ∧
      requireWorkerRoleLease x.slot claim.attempt.executorId now true db = .ok ()))
  | .handlerRaised (.runExecutionCancelled _) => isTrue trivial
  | .handlerRaised (.runExecutionTimedOut _) => isFalse id
  | .handlerRaised (.repository _) => isFalse id
  | .handlerRaised (.finalizer _) => isFalse id
  | .handlerRaised (.handler _) => isFalse id
  | .cancelRequested => isTrue trivial

instance (request : RunRequest) (now : Instant) (db : Database) :
    Decidable (∃ db', recordFailedTask rt request now db = .ok db') :=
  match recordFailedTask rt request now db with
  | .ok db' => isTrue ⟨db', rfl⟩
  | .error _ => isFalse fun ⟨_, hok⟩ => nomatch hok

instance (e : ExecutorEvent) : Decidable (e.Reports rt claim) :=
  match e with
  | .clockRead _ => isTrue trivial
  | .commanded .markFinalizing _ _ => isTrue trivial
  | .commanded .commitSuccess _ _ => isTrue trivial
  | .commanded (.commitTerminalFailure target) now db => inferInstanceAs (Decidable
    (∀ run ∈ db.queue.runs.rows, run.runId = claim.runRequest.runId → run.state = .cancelRequested →
      target ≠ .failed ∧ run.createdAt ≤ now ∧ claim.attempt.createdAt ≤ now ∧
        ∃ db', recordFailedTask rt run.requestJson now db = .ok db'))
  | .handlerRaised _ => isTrue trivial
  | .cancelRequested => isTrue trivial

instance (e : ExecutorEvent) : Decidable (e = .cancelRequested) :=
  match e with
  | .clockRead _ => isFalse nofun
  | .commanded .. => isFalse nofun
  | .handlerRaised _ => isFalse nofun
  | .cancelRequested => isTrue rfl

namespace Sample

def claimed : Option (RunClaim × Database) :=
  match claimNext runtime timedClaim queuedRun with
  | .ok (some claim, db) => some (claim, db)
  | _ => none

theorem claimed_isSome : claimed.isSome = true := by decide

/-- The claim of alice's run. -/
def aliceClaim : RunClaim := (claimed.get claimed_isSome).1

theorem claimNext_aliceClaim : claimNext runtime timedClaim queuedRun =
    .ok (some aliceClaim, (claimed.get claimed_isSome).2) := by
  have h := Option.some_get claimed_isSome
  unfold aliceClaim
  revert h
  generalize claimed.get claimed_isSome = c
  intro h
  unfold claimed at h
  split at h
  · rename_i hclaim
    obtain rfl := Option.some.inj h
    exact hclaim
  · cases h

/-- An object store that is out of order. -/
def brokenStore : ArtifactStore Unit where
  putImmutable _ _ s := (.error "unavailable", s)
  headExact _ s := (.error "unavailable", s)
  openExact _ s := (.error "unavailable", s)

def library : ArtifactLibrary where
  sha256 content := toString content.length
  manifestBytes _ := []

/-- The execution of the claim, with a handler that returns at once. -/
def execution : Execution Unit Unit :=
  RunExecutor.executeClaim runtime library brokenStore (fun _ => .done (.ok ⟨[], none, none, none, none⟩))
    "manifest" aliceClaim

def started : ExecutorWorld Unit := ⟨(claimed.get claimed_isSome).2, 0, (), []⟩

def cancelAlice : Call := .queue (.requestCancel aliceFirst.runId aliceFirst.operatorSubject 0)

/-- Alice cancels her run. -/
def cancel (s : ExecutorWorld Unit) : ExecutorWorld Unit :=
  match exec runtime cancelAlice s.db with
  | .ok (o, db') => { s with db := db', journal := s.journal ++ cancellations aliceClaim cancelAlice o }
  | .error _ => s

/-- She does so after the first transactions of the execution, which then goes on. -/
def cancelledAfter (before later : Nat) : Moment (ExecutorWorld Unit) ExecutorException Unit :=
  let m := Moment.advance^[before] ⟨execution, started⟩
  Moment.advance^[later] ⟨m.rest, cancel m.state⟩

theorem cancelledAfter_reached (before later : Nat) :
    Relation.ReflTransGen (Move (Outside runtime aliceClaim)) ⟨execution, started⟩
      (cancelledAfter before later) := by
  unfold cancelledAfter
  refine (Moment.reaches _ ⟨execution, started⟩ before).trans ?_
  generalize Moment.advance^[before] (⟨execution, started⟩ : Moment (ExecutorWorld Unit) _ _) = m
  refine .trans ?_ (Moment.reaches _ _ later)
  unfold cancel
  split
  · rename_i o db' hcall
    exact .single (.others _ (.call m.state trivial hcall))
  · exact .refl

end Sample

end ProofAgent
