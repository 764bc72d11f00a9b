import ProofAgent.Control.TaskService
import ProofAgent.Persistence.ArtifactRepository

/-! # The run queue

Bounded admission and fenced, fair claims. Every call is one transaction: it
returns a reply and the next database, or raises and writes nothing. A fresh
UUID, a claim token and the values that the fencing sequence skipped are
arguments; a sequence keeps the values that a rolled back claim drew. -/

/-! ## Conversations

`append_turn` appends one turn at the position the caller expects; `create` and
`delete` are the other writes, and a deleted conversation takes its turns along. -/
namespace ProofAgent.ConversationRepository

open Base

def create (record : ConversationRow) (db : ConversationTables) :
    Except Error ConversationTables := do
  let conversations ← orRaise (db.conversations.insert? record)
    (.persistenceConflict "conversation" record.conversationId 0 (some 0))
  return { db with conversations }

def delete (conversationId : String) (db : ConversationTables) : ConversationTables where
  conversations := db.conversations.delete fun c => c.conversationId = conversationId
  turns := db.turns.delete fun t => t.conversationId = conversationId

def turnsOf (conversationId : String) (db : ConversationTables) : Nat :=
  db.turns.count fun t => t.conversationId = conversationId

def appendTurn (conversationId : String) (turn : ConversationTurn) (expectedTurnCount : Nat)
    (db : ConversationTables) : Except Error ConversationTables := do
  let header ← orRaise (db.conversations.find? conversationId)
    (.persistenceNotFound "conversation" conversationId)
  require (header.agentId = turn.agentId)
    (.persistenceInvariant "conversation turn agent_id must match its conversation")
  require (turnsOf conversationId db = expectedTurnCount)
    (.persistenceConflict "conversation" conversationId expectedTurnCount
      (some (turnsOf conversationId db)))
  require (∀ t ∈ db.turns.rows, ¬ (t.conversationId = conversationId ∧
      (t.ordinal = expectedTurnCount + 1 ∨ t.runId = turn.runId)))
    (.integrity "conversation_turns_conversation_id_key")
  let turns ← orRaise
    (db.turns.insert? ⟨turn.turnId, conversationId, expectedTurnCount + 1, turn.runId, turn⟩)
    (.persistenceConflict "conversation_turn" turn.turnId 0 (some 1))
  return {
    conversations := db.conversations.update (fun c => c.conversationId = conversationId)
      (fun c => { c with updatedAt := turn.createdAt }) fun _ => rfl
    turns }

end ProofAgent.ConversationRepository

namespace ProofAgent

open Base

def maxQueuedRuns : Nat := 50
def maxActiveAttempts : Nat := 5
def maxAttemptDeadlineSeconds : Int := 120

/-! ## Rows and records -/

/-- The record that a row holds. -/
def RunRow.record (row : RunRow) : RunQueueRecord where
  request := row.requestJson
  requestSha256 := row.requestSha256
  state := row.state
  stateVersion := row.stateVersion
  result := row.result
  failure := row.terminalFailureJson
  enqueuedAt := row.enqueuedAt
  startedAt := row.startedAt
  completedAt := row.completedAt
  updatedAt := row.updatedAt

/-- `_record_from_row`. -/
def RunRow.toRecord (rt : Runtime) (row : RunRow) : Except Error RunQueueRecord :=
  row.record.validate rt

/-- The check constraints of `runs` that a write could violate. -/
def RunRow.constraints (row : RunRow) : Prop :=
  1 ≤ row.stateVersion ∧ row.createdAt ≤ row.updatedAt ∧
    (row.result.resultAvailable = true → row.state = .succeeded)

instance (row : RunRow) : Decidable row.constraints := by unfold RunRow.constraints; infer_instance

/-- The row that `admit` inserts. -/
def RunRow.ofRecord (r : RunQueueRecord) : RunRow where
  runId := r.request.runId
  state := r.state
  stateVersion := r.stateVersion
  submittedBy := r.request.operatorSubject
  requestSha256 := r.requestSha256
  idempotencyKey := r.request.idempotencyKey
  conversationId := r.request.conversationId
  requestJson := r.request
  enqueuedAt := r.request.submittedAt
  startedAt := none
  completedAt := none
  result := .unavailable
  terminalFailureJson := none
  createdAt := r.request.submittedAt
  updatedAt := r.request.submittedAt

/-- The assignments of `_write_run`. -/
def RunRow.assign (row : RunRow) (r : RunQueueRecord) : RunRow :=
  { row with
    state := r.state
    stateVersion := r.stateVersion
    startedAt := r.startedAt
    completedAt := r.completedAt
    result := r.result
    terminalFailureJson := r.failure
    updatedAt := r.updatedAt }

/-- The assignments of `claim_next`. -/
def RunRow.started (row : RunRow) (stateVersion : Nat) (now : Instant) : RunRow :=
  { row with state := .running, stateVersion, startedAt := some now, updatedAt := now }

/-- The check constraints of `run_attempts` that a write could violate. -/
def AttemptRow.constraints (row : AttemptRow) : Prop :=
  1 ≤ row.attemptNumber ∧ 1 ≤ row.stateVersion ∧ 1 ≤ row.fencingToken ∧ row.state ≠ .queued ∧
    row.createdAt ≤ row.updatedAt ∧ (row.result.resultAvailable = true → row.state = .succeeded)

instance (row : AttemptRow) : Decidable row.constraints := by
  unfold AttemptRow.constraints; infer_instance

/-- The row that `claim_next` inserts. -/
def AttemptRow.ofAttempt (a : RunAttempt) : AttemptRow where
  attemptId := a.attemptId
  runId := a.runId
  attemptNumber := a.attemptNumber
  state := a.state
  stateVersion := a.stateVersion
  fencingToken := a.fencingEpoch
  claimToken := a.claimToken
  activationEpoch := a.activationEpoch
  executorId := a.executorId
  heartbeatAt := a.heartbeatAt
  leaseExpiresAt := a.leaseExpiresAt
  deadlineAt := a.deadlineAt
  result := a.result
  terminalFailureJson := a.failure
  attemptJson := a
  createdAt := a.createdAt
  updatedAt := a.updatedAt

/-- The assignments of `_write_attempt`. -/
def AttemptRow.assign (row : AttemptRow) (a : RunAttempt) : AttemptRow :=
  { row with
    state := a.state
    stateVersion := a.stateVersion
    heartbeatAt := a.heartbeatAt
    leaseExpiresAt := a.leaseExpiresAt
    result := a.result
    terminalFailureJson := a.failure
    attemptJson := a
    updatedAt := a.updatedAt }

/-- The next record or attempt on a transition. -/
def RunQueueRecord.moved (r : RunQueueRecord) (target : RunLifecycleState) (now : Instant) :
    RunQueueRecord :=
  { r with state := target, stateVersion := r.stateVersion + 1, updatedAt := now }

def RunQueueRecord.ended (r : RunQueueRecord) (target : RunLifecycleState)
    (result : RunResultAvailability) (failure : Option RunFailure) (now : Instant) :
    RunQueueRecord :=
  { r.moved target now with result, failure, completedAt := some now }

def RunAttempt.moved (a : RunAttempt) (target : RunLifecycleState) (now : Instant) : RunAttempt :=
  { a with state := target, stateVersion := a.stateVersion + 1, updatedAt := now }

def RunAttempt.ended (a : RunAttempt) (target : RunLifecycleState) (result : RunResultAvailability)
    (failure : Option RunFailure) (now : Instant) : RunAttempt :=
  { a.moved target now with result, failure }

namespace RunQueueRepository

/-! ## Statements -/

/-- `UPDATE runs SET f WHERE p`: the number of rows reached. -/
def updateRuns (p : RunRow → Bool) (f : RunRow → RunRow) (hf : ∀ r, (f r).runId = r.runId)
    (q : QueueTables) : Except Error (Nat × QueueTables) := do
  require (∀ r ∈ q.runs.rows, p r = true → (f r).constraints) (.integrity "runs_check")
  return (q.runs.count p, { q with runs := q.runs.update p f hf })

/-- `_write_run`. -/
def writeRun (record : RunQueueRecord) (expectedState : RunLifecycleState)
    (expectedStateVersion : Nat) (q : QueueTables) : Except Error QueueTables := do
  let (rowcount, q) ← updateRuns
    (fun r => r.runId = record.request.runId && r.state = expectedState &&
      r.stateVersion = expectedStateVersion)
    (fun r => r.assign record) (fun _ => rfl) q
  require (rowcount = 1) (.runClaimRejected "Run conditional update was fenced")
  return q

/-- `_write_attempt`. -/
def writeAttempt (attempt : RunAttempt) (expectedStateVersion : Nat) (q : QueueTables) :
    Except Error QueueTables := do
  let p := fun r : AttemptRow => r.attemptId = attempt.attemptId &&
    r.stateVersion = expectedStateVersion && r.claimToken = attempt.claimToken &&
    r.fencingToken = attempt.fencingEpoch && r.activationEpoch = attempt.activationEpoch
  require (∀ r ∈ q.runAttempts.rows, p r = true → (r.assign attempt).constraints)
    (.integrity "run_attempts_check")
  require (q.runAttempts.count p = 1)
    (.runClaimRejected "Run Attempt conditional update was fenced")
  return { q with runAttempts := q.runAttempts.update p (fun r => r.assign attempt) fun _ => rfl }

/-- `_locked_run_record`. -/
def lockedRunRecord (rt : Runtime) (runId : String) (q : QueueTables) :
    Except Error RunQueueRecord := do
  let row ← orRaise (q.runs.find? runId) (.runClaimRejected "Run does not exist")
  row.toRecord rt

/-- `_attempt_from_row`. -/
def attemptFromRow (rt : Runtime) (row : AttemptRow) : Except Error RunAttempt :=
  row.attemptJson.validate rt

/-! ## Admission -/

/-- `admit`. -/
def admitRun (rt : Runtime) (request : RunRequest) (db : Database) :
    Except Error ((RunQueueRecord × Bool) × Database) := do
  let requestSha256 := request.canonicalSha256 rt
  match db.queue.runs.rows.find? fun r => r.submittedBy = request.operatorSubject &&
      r.idempotencyKey = request.idempotencyKey with
  | some existing => do
    require (existing.requestSha256 = requestSha256)
      (.runIdempotencyConflict "Idempotency key is already bound to another request")
    let record ← existing.toRecord rt
    return ((record, false), db)
  | none => do
    require (db.queue.runs.count (fun r => r.state = .queued) < maxQueuedRuns)
      (.runQueueOverloaded maxQueuedRuns)
    require (∀ c ∈ request.conversationId, ∀ r ∈ db.queue.runs.rows,
        ¬ (r.conversationId = some c ∧ (r.state = .queued ∨ r.state.isActive = true)))
      (.runConversationBusy "Conversation already has a non-terminal Run")
    let record ← RunQueueRecord.validate rt {
      request, requestSha256, state := .queued, stateVersion := 1
      enqueuedAt := request.submittedAt, updatedAt := request.submittedAt }
    require (request.canonicalJson.hasNul = false) (.data "unsupported Unicode escape sequence")
    let runs ← orRaise (db.queue.runs.insert? (RunRow.ofRecord record)) (.integrity "runs_pkey")
    return ((record, true), { db with queue := { db.queue with runs } })

def get (rt : Runtime) (runId : String) (db : Database) : Except Error (Option RunQueueRecord) := do
  require (isUuid runId = true) (.persistenceInvariant "run_id must be a full UUID")
  match db.queue.runs.find? runId with
  | none => return none
  | some row => return some (← row.toRecord rt)

/-! ## Roles -/

/-- `_require_worker_role_lease`. -/
def requireWorkerRoleLease (slot : Nat) (executorId : String) (now : Instant)
    (allowDraining : Bool) (db : Database) : Except Error Unit :=
  require (∃ w ∈ db.workerRoles.rows, w.role = "run_executor" ∧ w.slot = slot ∧
      (w.state = .active ∨ (allowDraining = true ∧ w.state = .draining)) ∧
      w.ownerId = some executorId ∧ ∃ t ∈ w.leaseExpiresAt, now < t)
    (.runClaimRejected "Run Executor worker-role lease is not live")

/-- Whether an activation row is the active one of this slot, executor and epoch. -/
def ownsActivation (slot : Nat) (executorId : String) (activationEpoch : Nat)
    (a : RoleActivation) : Prop :=
  a.slot = slot ∧ a.state = .active ∧ a.executorId = some executorId ∧
    a.activationEpoch = activationEpoch

instance (slot : Nat) (executorId : String) (epoch : Nat) (a : RoleActivation) :
    Decidable (ownsActivation slot executorId epoch a) := by unfold ownsActivation; infer_instance

/-- `_require_active_role`. -/
def requireActiveRole (slot : Nat) (executorId : String) (activationEpoch : Nat) (now : Instant)
    (allowDraining : Bool) (db : Database) : Except Error Unit := do
  require (∃ a ∈ db.queue.runExecutorActivations.rows,
      ownsActivation slot executorId activationEpoch a)
    (.runClaimRejected "Run Executor role is not active at this epoch")
  requireWorkerRoleLease slot executorId now allowDraining db

/-- `coalesce(max(activation_epoch), 0)`. -/
def currentEpoch (q : QueueTables) : Nat :=
  (q.runExecutorActivations.rows.map (·.activationEpoch)).foldr max 0

def activateRole (slot : Nat) (executorId : String) (now : Instant) (db : Database) :
    Except Error (RoleActivation × Database) := do
  require (slot = 1 ∨ slot = 2) (.value "Run Executor slot must be 1 or 2")
  require (1 ≤ executorId.length ∧ executorId.length ≤ 255) (.value "Run Executor id is invalid")
  requireWorkerRoleLease slot executorId now false db
  let activation : RoleActivation := {
    slot, state := .active, activationEpoch := currentEpoch db.queue + 1
    executorId := some executorId, updatedAt := now }
  let standby := db.queue.runExecutorActivations.update (fun a => a.state = .active)
    (fun a => { a with state := .standby, executorId := none, updatedAt := now }) fun _ => rfl
  let runExecutorActivations := standby.upsert activation
    (fun a => { activation with slot := a.slot }) fun _ => rfl
  return (activation, { db with queue := { db.queue with runExecutorActivations } })

/-! ## Claims -/

/-- `last_claimed_at` of the operator, if it has claimed before. -/
def lastClaimedAt (q : QueueTables) (operatorSubject : String) : Option Instant :=
  (q.runOperatorFairness.find? operatorSubject).map (·.lastClaimedAt)

/-- `(created_at, run_id)` of one run before that of another. -/
def createdBefore (r s : RunRow) : Bool :=
  r.createdAt < s.createdAt || (r.createdAt = s.createdAt && r.runId < s.runId)

/-- The order of `_fair_claim_select`; an operator without a claim comes first. -/
def claimBefore (q : QueueTables) (r s : RunRow) : Bool :=
  match lastClaimedAt q r.submittedBy, lastClaimedAt q s.submittedBy with
  | none, some _ => true
  | some _, none => false
  | none, none => !createdBefore s r
  | some a, some b => a < b || (a = b && !createdBefore s r)

/-- A queued run of an operator with no earlier one. -/
def isOperatorHead (q : QueueTables) (r : RunRow) : Bool :=
  r.state = .queued && q.runs.rows.all fun s =>
    !(s.state = .queued && s.submittedBy = r.submittedBy && createdBefore s r)

/-- `_fair_claim_select`. -/
def fairClaimSelect (q : QueueTables) : Option RunRow :=
  ((q.runs.rows.filter (isOperatorHead q)).insertionSort fun r s => claimBefore q r s = true).head?

/-- The snapshot authority that a claim is given. -/
abbrev SnapshotFactory :=
  RunRequest → String → Nat → Instant → Except Error RunExecutionSnapshot

/-- What the caller of `claim_next` supplies, with what is drawn afresh in it. -/
structure ClaimArguments where
  slot : Nat
  executorId : String
  activationEpoch : Nat
  now : Instant
  leaseSeconds : Int
  deadlineSeconds : Int
  snapshotFactory : SnapshotFactory
  /-- `str(uuid4())`. -/
  attemptId : String
  /-- `"claim_" + token_urlsafe(32)`. -/
  claimToken : String
  /-- How many values of the sequence rolled back claims drew. -/
  skipped : Nat

/-- `coalesce(max(attempt_number), 0) + 1`. -/
def nextAttemptNumber (q : QueueTables) (runId : String) : Nat :=
  ((q.runAttempts.rows.filter fun a => a.runId = runId).map (·.attemptNumber)).foldr max 0 + 1

/-- The attempt that a claim creates. -/
def claimedAttempt (rt : Runtime) (c : ClaimArguments) (request : RunRequest)
    (attemptNumber fencingEpoch : Nat) (snapshot : RunExecutionSnapshot) : RunAttempt where
  attemptId := c.attemptId
  runId := request.runId
  attemptNumber := attemptNumber
  state := .running
  stateVersion := 1
  claimToken := c.claimToken
  fencingEpoch := fencingEpoch
  activationEpoch := c.activationEpoch
  executorId := c.executorId
  heartbeatAt := c.now
  leaseExpiresAt := c.now + seconds c.leaseSeconds
  deadlineAt := c.now + seconds c.deadlineSeconds
  snapshot := snapshot
  snapshotSha256 := snapshot.canonicalSha256 rt
  createdAt := c.now
  updatedAt := c.now

/-- `INSERT INTO run_attempts`. -/
def insertAttempt (attempt : RunAttempt) (q : QueueTables) : Except Error QueueTables := do
  let row := AttemptRow.ofAttempt attempt
  require row.constraints (.integrity "run_attempts_check")
  require (∀ r ∈ q.runAttempts.rows, r.runId = row.runId →
      r.attemptNumber ≠ row.attemptNumber ∧ r.fencingToken ≠ row.fencingToken)
    (.integrity "run_attempts_run_id_key")
  let runAttempts ← orRaise (q.runAttempts.insert? row) (.integrity "run_attempts_pkey")
  return { q with runAttempts }

/-- The record of a run that a claim starts; only its validator is used. -/
def runningRecord (row : RunRow) (now : Instant) : RunQueueRecord where
  request := row.requestJson
  requestSha256 := row.requestSha256
  state := .running
  stateVersion := row.stateVersion + 1
  enqueuedAt := row.enqueuedAt
  startedAt := some now
  updatedAt := now

/-- The upsert of the operator's fairness row. -/
def countClaim (operatorSubject : String) (now : Instant) (q : QueueTables) : QueueTables :=
  let runOperatorFairness := q.runOperatorFairness.upsert ⟨operatorSubject, now, 1⟩
    (fun f => { f with lastClaimedAt := now, claimCount := f.claimCount + 1 }) (fun _ => rfl)
  { q with runOperatorFairness }

/-- `claim_next` from the selected row on. -/
def claimRow (rt : Runtime) (c : ClaimArguments) (row : RunRow) (db : Database) :
    Except Error (RunClaim × Database) := do
  let request := row.requestJson
  let attemptNumber := nextAttemptNumber db.queue row.runId
  let fencingEpoch := db.queue.runFencingEpochSeq + c.skipped + 1
  let snapshot ← c.snapshotFactory request c.attemptId attemptNumber c.now
  require (snapshot.runId = request.runId ∧ snapshot.attemptId = c.attemptId ∧
      snapshot.attemptNumber = attemptNumber)
    (.value "Snapshot authority returned a mismatched Run identity")
  let attempt ← (claimedAttempt rt c request attemptNumber fencingEpoch snapshot).validate rt
  let q ← insertAttempt attempt { db.queue with runFencingEpochSeq := fencingEpoch }
  let running ← (runningRecord row c.now).validate rt
  let (rowcount, q) ← updateRuns
    (fun r => r.runId = row.runId && r.state = .queued && r.stateVersion = row.stateVersion)
    (fun r => r.started running.stateVersion c.now) (fun _ => rfl) q
  require (rowcount = 1) (.runClaimRejected "Queued Run changed during its claim")
  let claim ← RunClaim.make request attempt
  return (claim, { db with queue := countClaim request.operatorSubject c.now q })

def claimNext (rt : Runtime) (c : ClaimArguments) (db : Database) :
    Except Error (Option RunClaim × Database) := do
  require (1 ≤ c.leaseSeconds ∧ c.leaseSeconds ≤ maxAttemptDeadlineSeconds)
    (.value "Run lease seconds are outside the supported envelope")
  require (1 ≤ c.deadlineSeconds ∧ c.deadlineSeconds ≤ maxAttemptDeadlineSeconds)
    (.value "Run deadline seconds are outside the supported envelope")
  require (c.leaseSeconds < c.deadlineSeconds)
    (.value "Run lease must be shorter than the Attempt deadline")
  requireActiveRole c.slot c.executorId c.activationEpoch c.now false db
  if maxActiveAttempts ≤ db.queue.runAttempts.count fun a => a.state.isActive then
    return (none, db)
  match fairClaimSelect db.queue with
  | none => return (none, db)
  | some row => do
    let (claim, db) ← claimRow rt c row db
    return (some claim, db)

/-! ## The owner of an attempt -/

/-- `_active_slot_for_claim`. -/
def activeSlotForClaim (claim : RunClaim) (q : QueueTables) : Except Error Nat := do
  let a ← orRaise (q.runExecutorActivations.rows.find? fun a => a.state = .active &&
      a.activationEpoch = claim.attempt.activationEpoch &&
      a.executorId = some claim.attempt.executorId)
    (.runClaimRejected "Run Executor activation is stale")
  return a.slot

/-- `_lock_owned_attempt`. -/
def lockOwnedAttempt (claim : RunClaim) (now : Instant) (allowDeadlineExpired : Bool)
    (db : Database) : Except Error AttemptRow := do
  let slot ← activeSlotForClaim claim db.queue
  requireActiveRole slot claim.attempt.executorId claim.attempt.activationEpoch now true db
  let row ← orRaise (db.queue.runAttempts.find? claim.attempt.attemptId)
    (.runClaimRejected "Run Attempt does not exist")
  require (row.runId = claim.attempt.runId ∧ row.claimToken = claim.attempt.claimToken ∧
      row.fencingToken = claim.attempt.fencingEpoch ∧
      row.activationEpoch = claim.attempt.activationEpoch ∧
      row.executorId = claim.attempt.executorId)
    (.runClaimRejected "Run Attempt claim is stale or fenced")
  require (row.state.isActive = true) (.runClaimRejected "Run Attempt is already terminal")
  require (now < row.leaseExpiresAt) (.runClaimRejected "Run Attempt lease has expired")
  require (allowDeadlineExpired = true ∨ now < row.deadlineAt)
    (.runClaimRejected "Run Attempt deadline has expired")
  return row

/-- The claim is built after the transaction has committed, so that its validator
does not undo the write. -/
def heartbeat (rt : Runtime) (claim : RunClaim) (now : Instant) (leaseSeconds : Int)
    (db : Database) : Except Error (Except Error RunClaim × Database) := do
  require (1 ≤ leaseSeconds ∧ leaseSeconds ≤ maxAttemptDeadlineSeconds)
    (.value "Run lease seconds are outside the supported envelope")
  let row ← lockOwnedAttempt claim now false db
  let attempt ← attemptFromRow rt row
  let leaseExpiresAt := min (now + seconds leaseSeconds) attempt.deadlineAt
  require (now < leaseExpiresAt) (.runClaimRejected "Run Attempt deadline has expired")
  let renewed := { attempt with heartbeatAt := now, leaseExpiresAt, updatedAt := now }
  let queue ← writeAttempt renewed attempt.stateVersion db.queue
  return (RunClaim.make claim.runRequest renewed, { db with queue })

def markFinalizing (rt : Runtime) (claim : RunClaim) (now : Instant) (db : Database) :
    Except Error (Except Error RunClaim × Database) := do
  let row ← lockOwnedAttempt claim now false db
  let attempt ← attemptFromRow rt row
  assertRunTransition attempt.state .finalizing
  let finalizing := attempt.moved .finalizing now
  let q ← writeAttempt finalizing attempt.stateVersion db.queue
  let record ← lockedRunRecord rt claim.runRequest.runId q
  require (record.state = .running) (.runClaimRejected "Run is no longer running")
  let queue ← writeRun (record.moved .finalizing now) .running record.stateVersion q
  return (RunClaim.make claim.runRequest finalizing, { db with queue })

/-! ## Cancellation -/

/-- The attempt that a cancellation reaches: the latest in the run's state. -/
def cancellableAttempt (runId : String) (state : RunLifecycleState) (q : QueueTables) :
    Option AttemptRow :=
  ((q.runAttempts.rows.filter fun a => a.runId = runId && a.state = state).insertionSort
    fun a b => b.attemptNumber ≤ a.attemptNumber).head?

def requestCancel (rt : Runtime) (runId operatorSubject : String) (now : Instant) (db : Database) :
    Except Error (RunQueueRecord × Database) := do
  let record ← lockedRunRecord rt runId db.queue
  require (record.request.operatorSubject = operatorSubject)
    (.runClaimRejected "Run is not owned by this operator")
  if record.state.isTerminal = true ∨ record.state = .cancelRequested then return (record, db)
  if record.state = .queued then
    assertRunTransition record.state .cancelled
    let cancelled := { record.moved .cancelled now with
      failure := some { code := .cancelled }, completedAt := some now }
    let queue ← writeRun cancelled record.state record.stateVersion db.queue
    return (cancelled, { db with queue })
  require (record.state = .running ∨ record.state = .finalizing)
    (.runClaimRejected "Run cannot be cancelled from its current state")
  let row ← orRaise (cancellableAttempt runId record.state db.queue)
    (.runClaimRejected "Run has no cancellable Attempt")
  let attempt ← attemptFromRow rt row
  assertRunTransition attempt.state .cancelRequested
  let q ← writeAttempt (attempt.moved .cancelRequested now) attempt.stateVersion db.queue
  let cancel := record.moved .cancelRequested now
  let queue ← writeRun cancel record.state record.stateVersion q
  return (cancel, { db with queue })

/-! ## Terminal commits -/

/-- The owner of the task that a request runs. -/
def taskOwner (request : RunRequest) : TaskOwner where
  actorSubject := request.operatorSubject
  agentId := request.agentId
  agentVersion := request.agentVersionId

/-- `_record_failed_task`. -/
def recordFailedTask (rt : Runtime) (request : RunRequest) (now : Instant) (db : Database) :
    Except Error Database :=
  match request.task with
  | none => .ok db
  | some t => do
    let (_, tasks) ← WorkflowTaskService.recordFailedRun rt t.taskId request.runId
      (taskOwner request) now db.tasks
    return { db with tasks }

def commitTerminalFailure (rt : Runtime) (claim : RunClaim) (target : RunLifecycleState)
    (failure : RunFailure) (now : Instant) (db : Database) :
    Except Error (RunQueueRecord × Database) := do
  require (target = .failed ∨ target = .timedOut ∨ target = .cancelled)
    (.value "Terminal failure target is invalid")
  let row ← lockOwnedAttempt claim now (target = .timedOut) db
  let attempt ← attemptFromRow rt row
  assertRunTransition attempt.state target
  let q ← writeAttempt (attempt.ended target .unavailable (some failure) now)
    attempt.stateVersion db.queue
  let record ← lockedRunRecord rt claim.runRequest.runId q
  assertRunTransition record.state target
  let terminal := record.ended target .unavailable (some failure) now
  let queue ← writeRun terminal record.state record.stateVersion q
  let db ← recordFailedTask rt record.request now { db with queue }
  return (terminal, db)

/-- What the executor hands to `commit_success`. -/
structure SuccessArguments where
  manifest : ArtifactManifest
  manifestRef : ArtifactObjectVersion
  receiptOutcome : Option ReceiptOutcome := none
  conversationTurn : Option ConversationTurn := none
  expectedConversationTurnCount : Option Nat := none
  workflowTaskUpdate : Option WorkflowTaskUpdate := none

/-- The checks of `commit_success` before its transaction. -/
def checkSuccess (claim : RunClaim) (a : SuccessArguments) : Except Error Unit := do
  require (claim.runRequest.task.isNone = a.workflowTaskUpdate.isNone)
    (.value "Task Run completion requires its exact internal task update")
  require (a.manifestRef.isManifest = true)
    (.value "Run success requires an artifact manifest object")
  require (a.manifest.owner.ownerType = "run_attempt" ∧
      a.manifest.owner.ownerId = claim.attempt.attemptId ∧ a.manifestRef.owner = a.manifest.owner)
    (.value "Run artifact manifest owner does not match the Attempt")
  if claim.runRequest.conversationId = none then
    require (a.conversationTurn = none ∧ a.expectedConversationTurnCount = none)
      (.value "Conversation Turn cannot be attached to a standalone Run")
  else
    require (a.conversationTurn.isSome = true ∧ a.expectedConversationTurnCount.isSome = true ∧
        claim.runRequest.conversationTurnCount = a.expectedConversationTurnCount)
      (.value "Conversation Run success requires its frozen Turn append")
    require (∀ turn ∈ a.conversationTurn, turn.runId = claim.runRequest.runId ∧
        turn.agentId = claim.runRequest.agentId ∧ turn.question = claim.runRequest.question)
      (.value "Conversation Turn does not match the frozen Run request")

/-- Append the run's turn to its conversation, if it has one. -/
def appendSuccessTurn (claim : RunClaim) (a : SuccessArguments) (db : Database) :
    Except Error Database :=
  match claim.runRequest.conversationId, a.conversationTurn, a.expectedConversationTurnCount with
  | some conversationId, some turn, some count => do
    let conversations ← ConversationRepository.appendTurn conversationId turn count db.conversations
    return { db with conversations }
  | _, _, _ => .ok db

/-- Apply the run's update to its task, if it has one. -/
def applySuccessUpdate (rt : Runtime) (claim : RunClaim) (a : SuccessArguments) (now : Instant)
    (db : Database) : Except Error Database :=
  match a.workflowTaskUpdate with
  | none => .ok db
  | some update => do
    let request := claim.runRequest
    let binding ← orRaise (request.task.filter fun t => t.taskId = update.taskId &&
        t.expectedTaskVersion = update.expectedVersion)
      (.runClaimRejected "task update does not match the claimed Run")
    let (_, tasks) ← WorkflowTaskService.applyUpdate rt update (taskOwner request) now
      request.runId binding.taskSnapshotSha256 db.tasks
    return { db with tasks }

def commitSuccess (rt : Runtime) (claim : RunClaim) (a : SuccessArguments) (now : Instant)
    (db : Database) : Except Error (RunQueueRecord × Database) := do
  checkSuccess claim a
  let row ← lockOwnedAttempt claim now false db
  let attempt ← attemptFromRow rt row
  require (attempt.state = .finalizing)
    (.runClaimRejected "Only a finalizing Attempt can succeed")
  let record ← lockedRunRecord rt claim.runRequest.runId db.queue
  require (record.state = .finalizing) (.runClaimRejected "Run is no longer finalizing")
  let (binding, artifacts) ←
    ArtifactRepository.commitVisibleManifest a.manifest a.manifestRef db.artifacts
  require (binding.resultAvailable = true)
    (.runClaimRejected "Artifact authority did not expose the result")
  let result := RunResultAvailability.available a.manifest.manifestId a.receiptOutcome
  let terminal := record.ended .succeeded result none now
  let q ← writeAttempt (attempt.ended .succeeded result none now) attempt.stateVersion db.queue
  let queue ← writeRun terminal .finalizing record.stateVersion q
  let db ← appendSuccessTurn claim a { db with queue, artifacts }
  let db ← applySuccessUpdate rt claim a now db
  return (terminal, db)

/-! ## Lost executors -/

/-- Fail one expired attempt with its run, and record it on the run's task. -/
def reapAttempt (rt : Runtime) (now : Instant) (db : Database) (row : AttemptRow) :
    Except Error Database := do
  let attempt ← attemptFromRow rt row
  let failure : RunFailure := { code := .executorLost }
  let q ← writeAttempt (attempt.ended .failed .unavailable (some failure) now)
    attempt.stateVersion db.queue
  let record ← lockedRunRecord rt attempt.runId q
  require (record.state.isActive = true)
    (.runClaimRejected "Expired Attempt disagrees with durable Run state")
  let queue ← writeRun (record.ended .failed .unavailable (some failure) now)
    record.state record.stateVersion q
  recordFailedTask rt record.request now { db with queue }

/-- The attempts whose lease has expired, the longest expired first. -/
def expiredAttempts (now : Instant) (q : QueueTables) : List AttemptRow :=
  (q.runAttempts.rows.filter fun a => a.state.isActive && a.leaseExpiresAt ≤ now).insertionSort
    fun a b => a.leaseExpiresAt ≤ b.leaseExpiresAt

def reapExpiredLeases (rt : Runtime) (now : Instant) (db : Database) :
    Except Error (Nat × Database) := do
  let rows := expiredAttempts now db.queue
  let db ← rows.foldlM (reapAttempt rt now) db
  return (rows.length, db)

/-! ## Pages -/

/-- What the caller of `list_page` supplies. -/
structure PageArguments where
  limit : Int
  offset : Int
  runPurpose : Option RunPurpose := none
  search : Option String := none
  states : List RunLifecycleState := []
  receiptOutcome : Option ReceiptOutcome := none

/-- The conditions of `list_page`; `ilike` is the database's containment in any case. -/
def PageArguments.selects (p : PageArguments) (ilike : String → String → Bool) (r : RunRow) :
    Bool :=
  p.runPurpose.all (fun purpose => r.requestJson.runPurpose = purpose) &&
  (p.states.isEmpty || r.state ∈ p.states) &&
  p.receiptOutcome.all (fun outcome => r.result.receiptOutcome = some outcome) &&
  p.search.all fun text =>
    ilike r.runId text || ilike r.requestJson.agentId text || ilike r.requestJson.question text

/-- Whether `list_page` accepts its arguments. -/
def PageArguments.Accepted (p : PageArguments) : Prop :=
  (1 ≤ p.limit ∧ p.limit ≤ 200) ∧ 0 ≤ p.offset ∧
    ∀ text ∈ p.search, text ≠ "" ∧ text.length ≤ 256 ∧ hasNulCharacter text = false

instance (p : PageArguments) : Decidable p.Accepted := by
  unfold PageArguments.Accepted; infer_instance

/-- The rows that `list_page` reads, the newest first. -/
def pageRows (ilike : String → String → Bool) (p : PageArguments) (q : QueueTables) :
    List RunRow :=
  ((((q.runs.rows.filter (p.selects ilike)).insertionSort
    fun r s => createdBefore r s = false).drop p.offset.toNat).take p.limit.toNat)

def listPage (rt : Runtime) (ilike : String → String → Bool) (p : PageArguments) (db : Database) :
    Except Error (List RunQueueRecord × Nat) := do
  require p.Accepted (.value "Run page arguments are invalid")
  let records ← (pageRows ilike p db.queue).mapM (RunRow.toRecord rt)
  return (records, db.queue.runs.count (p.selects ilike))

end RunQueueRepository

end ProofAgent
