import ProofAgent.RunQueue.Calls

/-! # Histories of the queue

Whatever calls are made and in whatever order, the queue goes from one state to
the next by a chain of changes. The invariant therefore holds in every
reachable state, and a relation that every change respects holds between the
ends of every history. -/
namespace ProofAgent

open Base RunQueueRepository

/-- A chain of changes. -/
abbrev QueueChain (rt : Runtime) : QueueTables → QueueTables → Prop :=
  Relation.ReflTransGen (QueueChange rt)

variable {rt : Runtime} {db db' : Database}

theorem QueueChain.keeps {q q' : QueueTables} (h : QueueInvariant rt q) (c : QueueChain rt q q') :
    QueueInvariant rt q' := by
  induction c with
  | refl => exact h
  | tail _ c ih => exact c.keeps ih

/-- **The chain rule.** A reflexive and transitive relation that every change respects
holds between the ends of a chain. -/
theorem QueueChain.related {R : QueueTables → QueueTables → Prop} (refl : ∀ q, R q q)
    (trans : ∀ q₁ q₂ q₃, R q₁ q₂ → R q₂ q₃ → R q₁ q₃)
    (change : ∀ q q', QueueInvariant rt q → QueueChange rt q q' → R q q') {q q' : QueueTables}
    (h : QueueInvariant rt q) (c : QueueChain rt q q') : R q q' := by
  induction c with
  | refl => exact refl _
  | tail hc c ih => exact trans _ _ _ ih (change _ _ (QueueChain.keeps h hc) c)

/-! ## Calls -/

theorem admit_chain {request : RunRequest} {r : RunQueueRecord × Bool}
    (h : admitRun rt request db = .ok (r, db')) :
    QueueChain rt db.queue db'.queue ∧
      db' = { db with queue := { db.queue with runs := db'.queue.runs } } := by
  rcases admit_ok h with rfl | ⟨⟨row, hc⟩, hframe⟩
  · exact ⟨.refl, rfl⟩
  · exact ⟨.single (.admitted row hc), by rw [hframe, hc.frame]⟩

theorem submit_chain {agent : PublishedAgent} {admission : Admission} {s : Submission}
    {now : Instant} {r : RunQueueRecord × Bool}
    (h : RunSubmissionService.submit rt agent admission s now db = .ok (r, db')) :
    QueueChain rt db.queue db'.queue ∧
      db' = { db with queue := { db.queue with runs := db'.queue.runs } } := by
  obtain ⟨_, _, h⟩ := bind_ok h
  obtain ⟨_, _, h⟩ := bind_ok h
  obtain ⟨_, _, h⟩ := bind_ok h
  obtain ⟨_, _, h⟩ := bind_ok h
  obtain ⟨_, _, h⟩ := bind_ok h
  exact admit_chain h

theorem taskSubmit_chain {s : WorkflowTaskSnapshot} {agent : PublishedAgent} {now : Instant}
    {key : String} {admission : Admission} {turns : Option Nat}
    (h : TaskExecutionService.submit rt s agent now key admission turns db = .ok db') :
    QueueChain rt db.queue db'.queue ∧
      db' = { db with queue := { db.queue with runs := db'.queue.runs } } := by
  obtain ⟨_, _, h⟩ := bind_ok h
  obtain ⟨⟨r, db₁⟩, hs, h⟩ := bind_ok h
  cases pure_ok h
  exact submit_chain hs

theorem taskCreate_chain {a : TaskExecutionService.CreateArguments}
    {r : WorkflowTaskSnapshot × Bool} (h : TaskExecutionService.create rt a db = .ok (r, db')) :
    QueueChain rt db.queue db'.queue ∧
      db' = { db with
        queue := { db.queue with runs := db'.queue.runs }, tasks := db'.tasks } := by
  obtain ⟨found, _, h⟩ := bind_ok h
  split at h
  · obtain ⟨_, _, h⟩ := bind_ok h
    cases pure_ok h
    exact ⟨.refl, rfl⟩
  · split at h
    · obtain ⟨db₁, hs, h⟩ := bind_ok h
      cases pure_ok h
      obtain ⟨hchain, hframe⟩ := taskSubmit_chain hs
      exact ⟨hchain, by rw [hframe]⟩
    · obtain ⟨_, _, h⟩ := bind_ok h
      obtain ⟨_, _, h⟩ := bind_ok h
      cases pure_ok h
      exact ⟨.refl, rfl⟩
    · cases h

theorem dispatch_chain {intent : ResumeIntent} {owner : TaskOwner} {agent : PublishedAgent}
    {now : Instant} {admission : Admission} {turns : Option Nat} {s : WorkflowTaskSnapshot}
    (h : TaskExecutionService.dispatch rt intent owner agent now admission turns db =
      .ok (s, db')) :
    QueueChain rt db.queue db'.queue ∧
      db' = { db with
        queue := { db.queue with runs := db'.queue.runs }, tasks := db'.tasks } := by
  obtain ⟨_, _, h⟩ := bind_ok h
  split at h
  · cases pure_ok h
    exact ⟨.refl, rfl⟩
  · obtain ⟨_, _, h⟩ := bind_ok h
    obtain ⟨_, _, h⟩ := bind_ok h
    obtain ⟨_, _, h⟩ := bind_ok h
    obtain ⟨db₁, hs, h⟩ := bind_ok h
    obtain ⟨_, _, h⟩ := bind_ok h
    cases pure_ok h
    obtain ⟨hchain, hframe⟩ := taskSubmit_chain hs
    exact ⟨hchain, by rw [hframe]⟩

theorem QueueCall.chain {call : QueueCall} {o : Reply} (hinv : QueueInvariant rt db.queue)
    (h : call.exec rt db = .ok (o, db')) : QueueChain rt db.queue db'.queue := by
  cases call with
  | admitRun request =>
    rw [QueueCall.exec] at h
    obtain ⟨r, h, _⟩ := reply_ok h
    exact (admit_chain h).1
  | activateRole slot executorId now =>
    obtain ⟨r, h, _⟩ := reply_ok h
    exact .single (.activated (activateRole_ok h).2.2.2.2.1)
  | claimNext c =>
    obtain ⟨r, h, _⟩ := reply_ok h
    rcases (claimNext_ok hinv h).2 with ⟨_, rfl, _⟩ | ⟨row, claim, _, hc, _⟩
    · exact .refl
    · exact .single (.claimed _ _ _ hc)
  | heartbeat claim now lease =>
    obtain ⟨r, h, _⟩ := reply_ok h
    obtain ⟨⟨row, new, _, hr⟩, _⟩ := heartbeat_ok hinv h
    exact .single (.renewed _ _ hr)
  | markFinalizing claim now =>
    obtain ⟨r, h, _⟩ := reply_ok h
    obtain ⟨⟨run, row, hm, _⟩, _⟩ := markFinalizing_ok hinv h
    exact .single (.moved _ _ _ _ _ _ hm.moved)
  | requestCancel runId operator now =>
    obtain ⟨r, h, _⟩ := reply_ok h
    obtain ⟨run, _, _, ⟨rfl, _⟩ | ⟨hw, _⟩ | ⟨row, hm, _⟩⟩ := requestCancel_ok hinv h
    · exact .refl
    · exact .single (.withdrawn _ _ hw)
    · exact .single (.moved _ _ _ _ _ _ hm)
  | commitTerminalFailure claim target failure now =>
    obtain ⟨r, h, _⟩ := reply_ok h
    obtain ⟨run, row, hm, _⟩ := commitTerminalFailure_ok hinv h
    exact .single (.moved _ _ _ _ _ _ hm.moved)
  | commitSuccess claim a now =>
    obtain ⟨r, h, _⟩ := reply_ok h
    obtain ⟨run, row, _, _, hm, _⟩ := commitSuccess_ok hinv h
    exact .single (.moved _ _ _ _ _ _ hm.moved)
  | reapExpiredLeases now =>
    obtain ⟨n, h, _⟩ := reply_ok h
    exact (reapExpiredLeases_ok hinv h).1

theorem OutsideCall.queue_eq {call : OutsideCall} {o : Reply} (h : call.exec db = .ok (o, db')) :
    db'.queue = db.queue := by
  cases call with
  | workerRoles rows => cases h; rfl
  | createConversation record =>
    obtain ⟨_, _, h⟩ := bind_ok h
    cases pure_ok h
    rfl
  | deleteConversation conversationId => cases h; rfl
  | hideArtifact owner visibility =>
    obtain ⟨_, _, h⟩ := bind_ok h
    cases pure_ok h
    rfl

theorem exec_chain {call : Call} {o : Reply} (hinv : QueueInvariant rt db.queue)
    (h : exec rt call db = .ok (o, db')) : QueueChain rt db.queue db'.queue := by
  cases call with
  | queue call => exact call.chain hinv h
  | task call =>
    obtain ⟨r, _, h⟩ := bind_ok h
    cases pure_ok h
    exact .refl
  | createTask a =>
    rw [exec] at h
    obtain ⟨r, h, _⟩ := reply_ok h
    exact (taskCreate_chain h).1
  | dispatch intent owner agent now admission turns =>
    obtain ⟨r, h, _⟩ := reply_ok h
    exact (dispatch_chain h).1
  | submit agent admission submission now =>
    rw [exec] at h
    obtain ⟨r, h, _⟩ := reply_ok h
    exact (submit_chain h).1
  | outside call => rw [call.queue_eq h]

/-! ## Histories -/

/-- What every call does to the queue, every history does. -/
theorem history_chain (hinv : QueueInvariant rt db.queue) (calls : List Call) :
    QueueChain rt db.queue (after (exec rt) db calls).queue :=
  after_related (I := fun db => QueueInvariant rt db.queue)
    (R := fun a b => QueueChain rt a.queue b.queue)
    (fun _ _ _ _ hi h => QueueChain.keeps hi (exec_chain hi h)) (fun _ => .refl)
    (fun _ _ _ => .trans) (fun _ _ _ _ hi h => exec_chain hi h) calls db hinv

/-- **Every reachable queue satisfies the invariant.** -/
theorem Reachable.queue (h : Reachable rt db) : QueueInvariant rt db.queue := by
  obtain ⟨calls, rfl⟩ := h
  exact QueueChain.keeps (.initial rt) (history_chain (.initial rt) calls)

theorem Reachable.after (h : Reachable rt db) (calls : List Call) :
    Reachable rt (after (exec rt) db calls) := by
  obtain ⟨first, rfl⟩ := h
  exact ⟨first ++ calls, (after_append _ _ _).symm⟩

end ProofAgent
