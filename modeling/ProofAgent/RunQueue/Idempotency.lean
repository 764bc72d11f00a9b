import Mathlib.Data.Set.Function
import ProofAgent.RunQueue.Returns

/-! # A key is admitted once

An operator's idempotency key is bound to the first request that is admitted under it. Later calls
rewrite the run but not what it was admitted with, so that the request finds its run again whenever
it is sent once more. -/
namespace ProofAgent

open Base RunQueueRepository

/-- What a run was admitted with. -/
structure RunBinding where
  operator : String
  idempotencyKey : String
  requestSha256 : String
  request : RunRequest

/-- The operator and the key. -/
def RunBinding.owner (b : RunBinding) : String × String := (b.operator, b.idempotencyKey)

def RunRow.binding (r : RunRow) : RunBinding where
  operator := r.submittedBy
  idempotencyKey := r.idempotencyKey
  requestSha256 := r.requestSha256
  request := r.requestJson

def QueueTables.bindings (q : QueueTables) : Set RunBinding := {b | ∃ r ∈ q.runs.rows, r.binding = b}

/-- The bindings stay, and each key stays bound to one run, with the key of its request. -/
structure KeysGrow (q q' : QueueTables) : Prop where
  kept : q.bindings ⊆ q'.bindings
  once : Set.InjOn RunBinding.owner q.bindings → Set.InjOn RunBinding.owner q'.bindings

namespace KeysGrow

variable {q q' : QueueTables} {rt : Runtime} {db db' : Database} {now : Instant}

theorem of_eq (h : q'.bindings = q.bindings) : KeysGrow q q' := by
  refine ⟨h.symm.subset, fun honce => ?_⟩
  rw [h]
  exact honce

theorem refl (q : QueueTables) : KeysGrow q q := of_eq rfl

theorem trans (q₁ q₂ q₃ : QueueTables) (h : KeysGrow q₁ q₂) (h' : KeysGrow q₂ q₃) : KeysGrow q₁ q₃ :=
  ⟨h.kept.trans h'.kept, fun honce => h'.once (h.once honce)⟩

theorem of_runs (h : q'.runs = q.runs) : KeysGrow q q' := by
  refine of_eq ?_
  unfold QueueTables.bindings
  rw [h]

/-- A run is rewritten, and not what it was admitted with. -/
theorem of_replaced {old new : RunRow} (h : Table.Replaced q.runs q'.runs old new)
    (hsame : new.binding = old.binding) : KeysGrow q q' := by
  refine of_eq (Set.Subset.antisymm ?_ ?_)
  · rintro _ ⟨r, hr, rfl⟩
    rcases h.mem_cases hr with rfl | ⟨hr, _⟩
    · exact ⟨old, h.mem_old, hsame.symm⟩
    · exact ⟨r, hr, rfl⟩
  · rintro _ ⟨r, hr, rfl⟩
    rcases h.successor hr with ⟨rfl, hnew⟩ | ⟨_, hr⟩
    · exact ⟨new, hnew, hsame⟩
    · exact ⟨r, hr, rfl⟩

theorem of_moved {run : RunRow} {attempt : AttemptRow} {target : RunLifecycleState}
    {outcome : RunResultAvailability} {failure : Option RunFailure}
    (h : Moved q q' run attempt target outcome failure now) : KeysGrow q q' :=
  of_replaced h.runs rfl

/-- A run is inserted under a key that no other run has. -/
theorem of_insert {row : RunRow} (h : q.runs.insert? row = some q'.runs)
    (hfresh : ∀ r ∈ q.runs.rows, r.binding.owner ≠ row.binding.owner) : KeysGrow q q' := by
  have hbindings : q'.bindings = insert row.binding q.bindings := by
    ext b
    simp only [QueueTables.bindings, (Table.insert?_some h).1, Set.mem_ofPred_eq, Set.mem_insert_iff,
      List.mem_append, List.mem_singleton]
    constructor
    · rintro ⟨r, hr | rfl, rfl⟩
      · exact .inr ⟨r, hr, rfl⟩
      · exact .inl rfl
    · rintro (rfl | ⟨r, hr, rfl⟩)
      · exact ⟨row, .inr rfl, rfl⟩
      · exact ⟨r, .inl hr, rfl⟩
  refine ⟨hbindings ▸ Set.subset_insert _ _, fun honce => ?_⟩
  rw [hbindings]
  rintro _ (rfl | ⟨r, hr, rfl⟩) _ (rfl | ⟨s, hs, rfl⟩) howner
  · rfl
  · exact absurd howner.symm (hfresh s hs)
  · exact absurd howner (hfresh r hr)
  · exact honce ⟨r, hr, rfl⟩ ⟨s, hs, rfl⟩ howner

end KeysGrow

/-! ## Admission -/

variable {rt : Runtime} {db db' : Database}

/-- The run that an admission finds under its key. -/
def boundRun (request : RunRequest) (q : QueueTables) : Option RunRow :=
  q.runs.rows.find? fun r => r.submittedBy = request.operatorSubject &&
    r.idempotencyKey = request.idempotencyKey

/-- An admission finds the run of its key, or binds its key. -/
theorem admitRun_cases {request : RunRequest} {r : RunQueueRecord × Bool}
    (h : admitRun rt request db = .ok (r, db')) :
    (db' = db ∧ ∃ row, boundRun request db.queue = some row ∧
      row.requestSha256 = request.canonicalSha256 rt ∧ r.1.request = row.requestJson) ∨
    (boundRun request db.queue = none ∧ r.1.request = request ∧
      ∃ record, record.request = request ∧ record.requestSha256 = request.canonicalSha256 rt ∧
        db.queue.runs.insert? (.ofRecord record) = some db'.queue.runs) := by
  unfold admitRun at h
  dsimp only at h
  split at h
  · rename_i row hfound
    obtain ⟨_, hdigest, h⟩ := bind_ok h
    obtain ⟨record, hrecord, h⟩ := bind_ok h
    cases pure_ok h
    refine .inl ⟨rfl, row, hfound, require_ok hdigest, ?_⟩
    rw [(RunQueueRecord.validate_ok hrecord).1]
    rfl
  · rename_i hfound
    obtain ⟨_, _, h⟩ := bind_ok h
    obtain ⟨_, _, h⟩ := bind_ok h
    obtain ⟨record, hrecord, h⟩ := bind_ok h
    obtain ⟨_, _, h⟩ := bind_ok h
    obtain ⟨runs, hruns, h⟩ := bind_ok h
    cases pure_ok h
    obtain ⟨rfl, _⟩ := RunQueueRecord.validate_ok hrecord
    exact .inr ⟨hfound, rfl, _, rfl, rfl, orRaise_ok hruns⟩

theorem KeysGrow.admitRun {request : RunRequest} {r : RunQueueRecord × Bool}
    (h : admitRun rt request db = .ok (r, db')) : KeysGrow db.queue db'.queue := by
  rcases admitRun_cases h with ⟨rfl, _⟩ | ⟨hnone, _, record, rfl, _, hinsert⟩
  · exact .refl _
  · refine .of_insert hinsert fun s hs howner => ?_
    have hs := List.find?_eq_none.mp hnone s hs
    obtain ⟨hoperator, hkey⟩ := Prod.mk.inj howner
    simp only [Bool.and_eq_true, decide_eq_true_eq, not_and] at hs
    exact hs hoperator hkey

theorem KeysGrow.submit {agent : PublishedAgent} {admission : Admission} {s : Submission}
    {now : Instant} {r : RunQueueRecord × Bool}
    (h : RunSubmissionService.submit rt agent admission s now db = .ok (r, db')) :
    KeysGrow db.queue db'.queue := by
  obtain ⟨_, _, h⟩ := bind_ok h
  obtain ⟨_, _, h⟩ := bind_ok h
  obtain ⟨_, _, h⟩ := bind_ok h
  obtain ⟨_, _, h⟩ := bind_ok h
  obtain ⟨_, _, h⟩ := bind_ok h
  exact .admitRun h

theorem KeysGrow.taskSubmit {s : WorkflowTaskSnapshot} {agent : PublishedAgent} {now : Instant}
    {key : String} {admission : Admission} {turns : Option Nat}
    (h : TaskExecutionService.submit rt s agent now key admission turns db = .ok db') :
    KeysGrow db.queue db'.queue := by
  obtain ⟨_, _, h⟩ := bind_ok h
  obtain ⟨⟨r, db₁⟩, hs, h⟩ := bind_ok h
  cases pure_ok h
  exact .submit hs

theorem KeysGrow.taskCreate {a : TaskExecutionService.CreateArguments}
    {r : WorkflowTaskSnapshot × Bool} (h : TaskExecutionService.create rt a db = .ok (r, db')) :
    KeysGrow db.queue db'.queue := by
  obtain ⟨found, _, h⟩ := bind_ok h
  split at h
  · obtain ⟨_, _, h⟩ := bind_ok h
    obtain ⟨_, rfl⟩ := Prod.mk.inj (pure_ok h)
    exact .refl _
  · split at h
    · obtain ⟨db₁, hs, h⟩ := bind_ok h
      obtain ⟨_, rfl⟩ := Prod.mk.inj (pure_ok h)
      have hgrow := KeysGrow.taskSubmit hs
      exact hgrow
    · obtain ⟨_, _, h⟩ := bind_ok h
      obtain ⟨_, _, h⟩ := bind_ok h
      obtain ⟨_, rfl⟩ := Prod.mk.inj (pure_ok h)
      exact .refl _
    · cases h

theorem KeysGrow.dispatch {intent : ResumeIntent} {owner : TaskOwner} {agent : PublishedAgent}
    {now : Instant} {admission : Admission} {turns : Option Nat} {s : WorkflowTaskSnapshot}
    (h : TaskExecutionService.dispatch rt intent owner agent now admission turns db =
      .ok (s, db')) : KeysGrow db.queue db'.queue := by
  obtain ⟨_, _, h⟩ := bind_ok h
  split at h
  · cases pure_ok h
    exact .refl _
  · obtain ⟨_, _, h⟩ := bind_ok h
    obtain ⟨_, _, h⟩ := bind_ok h
    obtain ⟨_, _, h⟩ := bind_ok h
    obtain ⟨db₁, hs, h⟩ := bind_ok h
    obtain ⟨_, _, h⟩ := bind_ok h
    cases pure_ok h
    have hgrow := KeysGrow.taskSubmit hs
    exact hgrow

/-! ## Calls -/

theorem KeysGrow.reap {now : Instant} : ∀ {rows : List AttemptRow} {db db' : Database},
    QueueInvariant rt db.queue → rows.Nodup →
    (∀ row ∈ rows, row ∈ db.queue.runAttempts.rows ∧ row.state.isActive = true) →
    rows.foldlM (reapAttempt rt now) db = .ok db' → KeysGrow db.queue db'.queue
  | [], _, _, _, _, _, h => by
    cases pure_ok h
    exact .refl _
  | row :: rows, db, db', hinv, hnodup, hmem, h => by
    rw [List.foldlM_cons] at h
    obtain ⟨db₁, hone, hrest⟩ := bind_ok h
    obtain ⟨hrow, hactive⟩ := hmem row List.mem_cons_self
    obtain ⟨run, hmoved, _⟩ := reapAttempt_ok hinv hrow hactive hone
    have hchange : QueueChange rt db.queue db₁.queue := .moved _ _ _ _ _ _ hmoved
    rw [List.nodup_cons] at hnodup
    refine KeysGrow.trans _ _ _ (.of_moved hmoved)
      (KeysGrow.reap (hchange.keeps hinv) hnodup.2 (fun a ha => ?_) hrest)
    obtain ⟨hold, hactive'⟩ := hmem a (List.mem_cons_of_mem _ ha)
    exact ⟨hmoved.attempts.mem_of_ne' hold (by rintro rfl; exact hnodup.1 ha), hactive'⟩

theorem QueueCall.keysGrow {call : QueueCall} {o : Reply} (hinv : QueueInvariant rt db.queue)
    (h : call.exec rt db = .ok (o, db')) : KeysGrow db.queue db'.queue := by
  cases call with
  | admitRun request =>
    rw [QueueCall.exec] at h
    obtain ⟨r, h, _⟩ := reply_ok h
    exact .admitRun h
  | activateRole slot executorId now =>
    obtain ⟨r, h, _⟩ := reply_ok h
    exact .of_runs (by rw [(activateRole_ok h).2.2.2.2.1.frame])
  | claimNext c =>
    obtain ⟨r, h, _⟩ := reply_ok h
    rcases (claimNext_ok hinv h).2 with ⟨_, rfl, _⟩ | ⟨row, claim, _, hc, _⟩
    · exact .refl _
    · exact .of_replaced hc.run rfl
  | heartbeat claim now lease =>
    obtain ⟨r, h, _⟩ := reply_ok h
    obtain ⟨⟨row, new, _, hr⟩, _⟩ := heartbeat_ok hinv h
    exact .of_runs (by rw [hr.frame])
  | markFinalizing claim now =>
    obtain ⟨r, h, _⟩ := reply_ok h
    obtain ⟨⟨run, row, hm, _⟩, _⟩ := markFinalizing_ok hinv h
    exact .of_moved hm.moved
  | requestCancel runId operator now =>
    obtain ⟨r, h, _⟩ := reply_ok h
    obtain ⟨run, _, _, ⟨rfl, _⟩ | ⟨hw, _⟩ | ⟨row, hm, _⟩⟩ := requestCancel_ok hinv h
    · exact .refl _
    · exact .of_replaced hw.replaced rfl
    · exact .of_moved hm
  | commitTerminalFailure claim target failure now =>
    obtain ⟨r, h, _⟩ := reply_ok h
    obtain ⟨run, row, hm, _⟩ := commitTerminalFailure_ok hinv h
    exact .of_moved hm.moved
  | commitSuccess claim a now =>
    obtain ⟨r, h, _⟩ := reply_ok h
    obtain ⟨run, row, _, _, hm, _⟩ := commitSuccess_ok hinv h
    exact .of_moved hm.moved
  | reapExpiredLeases now =>
    obtain ⟨n, h, _⟩ := reply_ok h
    obtain ⟨db₁, hfold, h⟩ := bind_ok h
    obtain ⟨_, rfl⟩ := Prod.mk.inj (pure_ok h)
    exact .reap hinv (expiredAttempts_nodup _ _)
      (fun row hrow => ⟨(mem_expiredAttempts.mp hrow).1, (mem_expiredAttempts.mp hrow).2.1⟩) hfold

theorem exec_keysGrow {call : Call} {o : Reply} (hinv : QueueInvariant rt db.queue)
    (h : exec rt call db = .ok (o, db')) : KeysGrow db.queue db'.queue := by
  cases call with
  | queue call => exact call.keysGrow hinv h
  | task call =>
    obtain ⟨r, _, h⟩ := bind_ok h
    cases pure_ok h
    exact .refl _
  | createTask a =>
    rw [exec] at h
    obtain ⟨r, h, _⟩ := reply_ok h
    exact .taskCreate h
  | dispatch intent owner agent now admission turns =>
    obtain ⟨r, h, _⟩ := reply_ok h
    exact .dispatch h
  | submit agent admission submission now =>
    rw [exec] at h
    obtain ⟨r, h, _⟩ := reply_ok h
    exact .submit h
  | outside call => exact .of_runs (by rw [call.queue_eq h])

/-- **Every history keeps the keys.** -/
theorem KeysGrow.of_history (hinv : QueueInvariant rt db.queue) (calls : List Call) :
    KeysGrow db.queue (after (exec rt) db calls).queue :=
  after_related (I := fun db => QueueInvariant rt db.queue)
    (R := fun a b => KeysGrow a.queue b.queue)
    (fun _ _ _ _ hi h => QueueChain.keeps hi (exec_chain hi h)) (fun _ => .refl _)
    (fun _ _ _ => .trans _ _ _) (fun _ _ _ _ hi h => exec_keysGrow hi h) calls db hinv

/-- **In every reachable state each key is bound once.** -/
theorem Reachable.keysOnce (h : Reachable rt db) : Set.InjOn RunBinding.owner db.queue.bindings := by
  obtain ⟨calls, rfl⟩ := h
  refine (KeysGrow.of_history (.initial rt) calls).once ?_
  rintro _ ⟨r, hr, _⟩
  cases hr

/-! ## Resending -/

/-- An admitted request is bound to the run that the admission returned. -/
theorem admitRun_bound {request : RunRequest} {r : RunQueueRecord × Bool}
    (h : admitRun rt request db = .ok (r, db')) : ∃ b ∈ db'.queue.bindings,
      b.owner = (request.operatorSubject, request.idempotencyKey) ∧
      b.requestSha256 = request.canonicalSha256 rt ∧ b.request = r.1.request := by
  rcases admitRun_cases h with ⟨rfl, row, hfound, hdigest, hrequest⟩ |
    ⟨_, hrequest, record, rfl, hdigest, hinsert⟩
  · have howner := List.find?_some hfound
    simp only [Bool.and_eq_true, decide_eq_true_eq] at howner
    exact ⟨row.binding, ⟨row, List.mem_of_find?_eq_some hfound, rfl⟩,
      Prod.ext howner.1 howner.2, hdigest, hrequest.symm⟩
  · refine ⟨(RunRow.ofRecord record).binding, ⟨_, ?_, rfl⟩, rfl, hdigest, hrequest.symm⟩
    rw [(Table.insert?_some hinsert).1]
    exact List.mem_append_right _ (List.mem_singleton_self _)

/-- What an admission finds under a bound key. -/
theorem admitRun_of_bound (hinv : QueueInvariant rt db.queue) {request : RunRequest} {row : RunRow}
    (hfound : boundRun request db.queue = some row) :
    admitRun rt request db =
      if request.canonicalSha256 rt = row.requestSha256 then .ok ((row.record, false), db)
      else .error (.runIdempotencyConflict "Idempotency key is already bound to another request") := by
  have hsound := hinv.runs row (List.mem_of_find?_eq_some hfound)
  unfold boundRun at hfound
  unfold admitRun
  rw [hfound]
  dsimp only
  split
  · rename_i hdigest
    rw [require_true _ hdigest.symm, ok_bind, hsound.toRecord]
    rfl
  · rename_i hdigest
    unfold require
    rw [if_neg fun h => hdigest h.symm]
    rfl

/-- The key of `first` is bound to one run, which has the request of `record`. A request under the
key finds that run and changes nothing if it is the same one, and is rejected if not. -/
def BoundOnce (rt : Runtime) (first : RunRequest) (record : RunQueueRecord) (again : RunRequest)
    (db : Database) : Prop :=
  ∃ row ∈ db.queue.runs.rows, row.requestJson = record.request ∧
    (∀ other ∈ db.queue.runs.rows, other.submittedBy = first.operatorSubject →
      other.idempotencyKey = first.idempotencyKey → other = row) ∧
    admitRun rt again db =
      if again.canonicalSha256 rt = first.canonicalSha256 rt then .ok ((row.record, false), db)
      else .error (.runIdempotencyConflict "Idempotency key is already bound to another request")

/-- **Admission is idempotent.** Whatever happens after a request was admitted, its key stays bound
to the one run that the admission returned: the same request finds that run again, as it then is,
and any other request under the key is rejected. -/
theorem admissions_idempotent (rt : Runtime) (before later : List Call) (first again : RunRequest)
    (r : RunQueueRecord × Bool) (db : Database)
    (hfirst : admitRun rt first (after (exec rt) Database.initial before) = .ok (r, db))
    (hoperator : again.operatorSubject = first.operatorSubject)
    (hkey : again.idempotencyKey = first.idempotencyKey) :
    BoundOnce rt first r.1 again (after (exec rt) db later) := by
  have hreachable : Reachable rt db := by
    have hcall : exec rt (.queue (.admitRun first)) (after (exec rt) Database.initial before) =
        .ok (.admitted r.1 r.2, db) := by
      simp only [exec, QueueCall.exec, hfirst]
      rfl
    refine ⟨before ++ [.queue (.admitRun first)], ?_⟩
    rw [after_append, after_cons, step_ok hcall, after_nil]
  have hlater := hreachable.after later
  have hinv := hlater.queue
  obtain ⟨b, hb, howner, hdigest, hrequest⟩ := admitRun_bound hfirst
  obtain ⟨row, hrow, rfl⟩ := (KeysGrow.of_history hreachable.queue later).kept hb
  have honly : ∀ other ∈ (after (exec rt) db later).queue.runs.rows,
      other.submittedBy = first.operatorSubject → other.idempotencyKey = first.idempotencyKey →
        other = row := by
    intro other hother hop hk
    have howned : other.binding.owner = (first.operatorSubject, first.idempotencyKey) :=
      Prod.mk.injEq .. ▸ ⟨hop, hk⟩
    have hsame : other.binding = row.binding := hlater.keysOnce ⟨other, hother, rfl⟩
      ⟨row, hrow, rfl⟩ (howned.trans howner.symm)
    have hrun : other.requestJson = row.requestJson := congrArg RunBinding.request hsame
    refine Table.eq_of_key hother hrow ?_
    show other.runId = row.runId
    rw [(hinv.runs other hother).run_id, (hinv.runs row hrow).run_id, hrun]
  refine ⟨row, hrow, hrequest, honly, ?_⟩
  obtain ⟨hop, hk⟩ := Prod.mk.inj howner
  have hfound : boundRun again (after (exec rt) db later).queue = some row := by
    cases hfind : boundRun again (after (exec rt) db later).queue with
    | none =>
      have hnot := List.find?_eq_none.mp hfind row hrow
      rw [hoperator, hkey] at hnot
      simp only [Bool.and_eq_true, decide_eq_true_eq] at hnot
      exact absurd ⟨hop, hk⟩ hnot
    | some other =>
      have howned := List.find?_some hfind
      rw [hoperator, hkey] at howned
      simp only [Bool.and_eq_true, decide_eq_true_eq] at howned
      rw [honly other (List.mem_of_find?_eq_some hfind) howned.1 howned.2]
  rw [admitRun_of_bound hinv hfound, ← hdigest]
  rfl

namespace Sample

/-- Alice's first request, sent again later. -/
def aliceAgain : RunRequest :=
  ⟨{ requestFields "00000000-0000-4000-8000-000000000004" "alice" with
    idempotencyKey := "00000000-0000-4000-8000-000000000001", submittedAt := seconds 10 },
    by decide +kernel⟩

end Sample

/-- A request whose run was claimed finds it again. -/
theorem admissions_idempotent_claimed : ∃ r db,
    admitRun Sample.runtime Sample.aliceFirst
        (after (exec Sample.runtime) Database.initial Sample.activated) = .ok (r, db) ∧
      BoundOnce Sample.runtime Sample.aliceFirst r.1 Sample.aliceAgain
        (after (exec Sample.runtime) db [.queue (.claimNext (Sample.claim "first" 1))]) := by
  have hok : (admitRun Sample.runtime Sample.aliceFirst
      (after (exec Sample.runtime) Database.initial Sample.activated)).toOption.isSome = true := by
    decide +kernel
  rcases h : admitRun Sample.runtime Sample.aliceFirst
    (after (exec Sample.runtime) Database.initial Sample.activated) with e | ⟨r, db⟩
  · rw [h] at hok
    cases hok
  · exact ⟨r, db, rfl, admissions_idempotent Sample.runtime Sample.activated _ Sample.aliceFirst
      Sample.aliceAgain r db h rfl rfl⟩

end ProofAgent
