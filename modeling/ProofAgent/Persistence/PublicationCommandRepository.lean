import ProofAgent.Base.Transactions
import ProofAgent.Contracts.Platform

/-! # Commands that publish an agent

A row reserves an actor's idempotency key for one request. Its execution claim is a
lease with a fencing token, which another owner takes over once it has expired; the
candidate is checkpointed before anything is published, and a terminal receipt ends
the command. What follows a transaction runs after its commit. -/
namespace ProofAgent.FormalPublication

open Base

/-! ## Texts -/

/-- The texts that stand for UUIDs and instants. -/
structure TextCodec where
  /-- `str(UUID(value))`, where `value` is a UUID. -/
  uuid : String → Option String
  uuid_canonical : ∀ x u, uuid x = some u → uuid u = some u
  /-- `timestamp_text`. -/
  timestampText : Instant → String
  /-- `datetime.fromisoformat`, where it gives an aware time. -/
  fromIsoformat : String → Option Instant
  fromIsoformat_text : ∀ t, fromIsoformat (timestampText t) = some t

variable (codec : TextCodec)

/-- `uuid_value`. -/
def uuidValue (value field : String) : Except Error String :=
  orRaise (codec.uuid value) (.persistenceInvariant (field ++ " must be a full UUID"))

/-- `timestamp_value`. -/
def timestampValue (value field : String) : Except Error Instant :=
  orRaise (codec.fromIsoformat value) (.persistenceInvariant (field ++ " must be ISO-8601"))

/-- The pattern of a digest. -/
def isSha256 (value : String) : Bool :=
  value.length = 64 && value.toList.all fun c =>
    ('0' ≤ c && c ≤ '9') || ('a' ≤ c && c ≤ 'f')

/-! ## Contracts -/

/-- `FormalProductionAgentPublicationCommandState`. -/
inductive CommandState where
  | inProgress | succeeded | failed
  deriving DecidableEq

/-- The fields of a receipt that its state decides. -/
structure ReceiptPayload where
  state : CommandState
  completedAt : Option String := none
  publishedVersionId : Option String := none
  validationRunId : Option String := none
  releaseReferenceId : Option String := none
  publishedAt : Option String := none
  failureCode : Option String := none
  deriving DecidableEq

/-- A text that is there and not empty. -/
def given (value : Option String) : Bool := value.any (· ≠ "")

/-- `require_state_payload`. -/
def ReceiptPayload.requireStatePayload (p : ReceiptPayload) : Bool :=
  let success := [given p.publishedVersionId, given p.validationRunId, given p.releaseReferenceId,
    given p.publishedAt]
  match p.state with
  | .inProgress => p.completedAt.isNone && !success.any id && p.failureCode.isNone
  | .succeeded => p.completedAt.isSome && success.all id && p.failureCode.isNone
  | .failed => p.completedAt.isSome && !success.any id && p.failureCode.any fun code => !isBlank code

/-- `FormalProductionAgentPublicationCommandReceipt`. -/
structure CommandReceipt extends ReceiptPayload where
  commandId : String
  agentId : String
  draftId : String
  draftRevision : Nat
  requestSha256 : String
  startedAt : String
  state_payload : toReceiptPayload.requireStatePayload = true
  deriving DecidableEq

/-- `FormalProductionAgentPublicationExecutionClaim`. -/
structure ExecutionClaim where
  fencingToken : Nat
  ownerId : String
  leaseExpiresAt : String
  token_positive : 1 ≤ fencingToken
  owner_length : 1 ≤ ownerId.length ∧ ownerId.length ≤ 128
  deriving DecidableEq

def ExecutionClaim.make (fencingToken : Nat) (ownerId leaseExpiresAt : String) :
    Except Error ExecutionClaim :=
  if h : 1 ≤ fencingToken then
    if h' : 1 ≤ ownerId.length ∧ ownerId.length ≤ 128 then
      .ok ⟨fencingToken, ownerId, leaseExpiresAt, h, h'⟩
    else .error (.value "owner_id")
  else .error (.value "fencing_token")

/-- `FormalProductionAgentPublicationCandidateCheckpoint`. -/
structure CandidateCheckpoint where
  formalCandidateSha256 : String
  knowledgeReleaseCandidateSha256 : String
  checkpointedAt : String
  digests : isSha256 formalCandidateSha256 = true ∧ isSha256 knowledgeReleaseCandidateSha256 = true
  deriving DecidableEq

def CandidateCheckpoint.make (formal knowledge checkpointedAt : String) :
    Except Error CandidateCheckpoint :=
  if h : isSha256 formal = true ∧ isSha256 knowledge = true then
    .ok ⟨formal, knowledge, checkpointedAt, h⟩
  else .error (.value "formal_candidate_sha256")

/-- `FormalProductionAgentPublicationCommandRecord`. -/
structure CommandRecord where
  actorSubject : String
  idempotencyKey : String
  receipt : CommandReceipt
  executionClaim : Option ExecutionClaim := none
  candidateCheckpoint : Option CandidateCheckpoint := none
  deriving DecidableEq

/-- `FormalProductionAgentPublicationCommandReservation`. -/
structure CommandReservation where
  record : CommandRecord
  created : Bool
  acquired : Bool
  deriving DecidableEq

/-! ## The table -/

/-- A row of `formal_agent_publication_commands`. -/
structure CommandRow where
  commandId : String
  actorSubject : String
  idempotencyKey : String
  requestSha256 : String
  state : CommandState
  agentId : String
  draftId : String
  draftRevision : Nat
  receiptJson : CommandReceipt
  startedAt : Instant
  completedAt : Option Instant
  updatedAt : Instant
  executionFencingToken : Option Nat
  leaseOwner : Option String
  leaseExpiresAt : Option Instant
  formalCandidateSha256 : Option String
  knowledgeReleaseCandidateSha256 : Option String
  candidateCheckpointedAt : Option Instant
  deriving DecidableEq

/-- The unique constraint `formal_agent_publication_commands_actor_key`. -/
def CommandRow.actorKey (row : CommandRow) : String × String :=
  (row.actorSubject, row.idempotencyKey)

def CommandRecord.actorKey (record : CommandRecord) : String × String :=
  (record.actorSubject, record.idempotencyKey)

abbrev CommandTable := Table CommandRow.actorKey

abbrev Command (α : Type) := Effect CommandTable Error α

/-! ## Checks -/

/-- `_require_request_identity`. -/
def requireRequestIdentity (persisted proposed : CommandRecord) : Except Error Unit :=
  require (persisted.receipt.requestSha256 = proposed.receipt.requestSha256)
    (.persistenceIdempotencyConflict
      "formal publication idempotency key is bound to another request")

/-- `_require_execution_claim`. -/
def requireExecutionClaim (record : CommandRecord) : Except Error ExecutionClaim :=
  orRaise record.executionClaim (.persistenceInvariant "formal command execution claim is required")

/-- `_require_lease_duration`. -/
def requireLeaseDuration (value : Int) : Except Error Unit :=
  require (0 < value ∧ value ≤ seconds 3600)
    (.persistenceInvariant "formal command lease duration is invalid")

/-- `_require_same_identity`. -/
def requireSameIdentity (current desired : CommandRecord) : Except Error Unit :=
  require (current.actorSubject = desired.actorSubject ∧
      current.idempotencyKey = desired.idempotencyKey ∧
      current.receipt.commandId = desired.receipt.commandId ∧
      current.receipt.requestSha256 = desired.receipt.requestSha256 ∧
      current.receipt.agentId = desired.receipt.agentId ∧
      current.receipt.draftId = desired.receipt.draftId ∧
      current.receipt.draftRevision = desired.receipt.draftRevision)
    (.persistenceInvariant "formal command completion identity mismatch")

/-- `_require_same_execution_claim`. -/
def requireSameExecutionClaim (current desired : CommandRecord) : Except Error Unit :=
  require (current.executionClaim.isSome = true ∧ desired.executionClaim.isSome = true ∧
      current.executionClaim = desired.executionClaim)
    (.persistenceInvariant "formal command completion execution claim mismatch")

/-- `_require_same_candidate_checkpoint`. -/
def requireSameCandidateCheckpoint (current desired : CommandRecord) : Except Error Unit :=
  require (current.candidateCheckpoint = desired.candidateCheckpoint)
    (.persistenceInvariant "formal command candidate checkpoint mismatch")

/-! ## Rows and records -/

/-- `_values`, of a record in progress. -/
def values (record : CommandRecord) (updatedAt : Instant) : Except Error CommandRow := do
  let receipt := record.receipt
  let claim ← requireExecutionClaim record
  let startedAt ← timestampValue codec receipt.startedAt "started_at"
  let commandId ← uuidValue codec receipt.commandId "command_id"
  let draftId ← uuidValue codec receipt.draftId "draft_id"
  let leaseExpiresAt ← timestampValue codec claim.leaseExpiresAt "lease_expires_at"
  return {
    commandId, actorSubject := record.actorSubject, idempotencyKey := record.idempotencyKey
    requestSha256 := receipt.requestSha256, state := receipt.state, agentId := receipt.agentId
    draftId, draftRevision := receipt.draftRevision, receiptJson := receipt
    startedAt, completedAt := none, updatedAt
    executionFencingToken := some claim.fencingToken, leaseOwner := some claim.ownerId
    leaseExpiresAt := some leaseExpiresAt, formalCandidateSha256 := none
    knowledgeReleaseCandidateSha256 := none, candidateCheckpointedAt := none }

/-- The execution claim of a row. -/
def rowClaim (row : CommandRow) : Except Error (Option ExecutionClaim) :=
  match row.executionFencingToken, row.leaseOwner, row.leaseExpiresAt with
  | none, none, none => .ok none
  | some token, some owner, some expiry =>
    some <$> ExecutionClaim.make token owner (codec.timestampText expiry)
  | _, _, _ => .error (.persistenceInvariant "formal command execution claim is incomplete")

/-- The candidate checkpoint of a row. -/
def rowCheckpoint (row : CommandRow) : Except Error (Option CandidateCheckpoint) :=
  match row.formalCandidateSha256, row.knowledgeReleaseCandidateSha256,
      row.candidateCheckpointedAt with
  | none, none, none => .ok none
  | some formal, some knowledge, some checkpointedAt =>
    some <$> CandidateCheckpoint.make formal knowledge (codec.timestampText checkpointedAt)
  | _, _, _ => .error (.persistenceInvariant "formal command candidate checkpoint is incomplete")

/-- Whether the columns of a row are those of its receipt. -/
def CommandRow.columnsAgree (row : CommandRow) : Prop :=
  row.commandId = row.receiptJson.commandId ∧ row.requestSha256 = row.receiptJson.requestSha256 ∧
    row.state = row.receiptJson.state ∧ row.agentId = row.receiptJson.agentId ∧
    row.draftId = row.receiptJson.draftId ∧ row.draftRevision = row.receiptJson.draftRevision

instance (row : CommandRow) : Decidable row.columnsAgree := by
  unfold CommandRow.columnsAgree
  infer_instance

/-- `_row_record`. -/
def rowRecord (row : CommandRow) : Except Error CommandRecord := do
  let executionClaim ← rowClaim codec row
  let candidateCheckpoint ← rowCheckpoint codec row
  require row.columnsAgree
    (.persistenceInvariant "formal command columns and receipt disagree")
  return { actorSubject := row.actorSubject, idempotencyKey := row.idempotencyKey
           receipt := row.receiptJson, executionClaim, candidateCheckpoint }

/-! ## Statements -/

/-- `INSERT ... ON CONFLICT (actor_subject, idempotency_key) DO NOTHING RETURNING *`. -/
def insertCommand (row : CommandRow) : Command (Option CommandRow) := do
  let table ← Effect.read
  match table.insert? row with
  | none => return none
  | some table' => do
    Effect.require (∀ r ∈ table.rows, r.commandId ≠ row.commandId)
      (.integrity "formal_agent_publication_commands_pkey")
    Effect.modify fun _ => table'
    return some row

/-- `SELECT ... FOR UPDATE` of the row under the key of a record. -/
def lockedRow (record : CommandRecord) : Command CommandRow := do
  let table ← Effect.read
  Effect.ofExcept (orRaise (table.find? record.actorKey)
    (.persistenceInvariant "formal command reservation was not found"))

/-! ## `reserve` -/

/-- Whether a claim's lease is unexpired. -/
def claimLive (claim : Option ExecutionClaim) (now : Instant) : Except Error Bool :=
  match claim with
  | none => .ok false
  | some claim => do
    let expiry ← timestampValue codec claim.leaseExpiresAt "lease_expires_at"
    return now < expiry

/-- The fencing token of the next claim. -/
def nextFencingToken (claim : Option ExecutionClaim) : Nat :=
  match claim with
  | none => 1
  | some claim => claim.fencingToken + 1

/-- The part of `reserve` that takes a command over. -/
def takeOver (persisted : CommandRecord) (ownerId : String) (leaseDuration : Int) (now : Instant) :
    Command CommandReservation := do
  let nextClaim ← Effect.ofExcept (ExecutionClaim.make (nextFencingToken persisted.executionClaim)
    ownerId (codec.timestampText (now + leaseDuration)))
  let commandId ← Effect.ofExcept (uuidValue codec persisted.receipt.commandId "command_id")
  let leaseExpiresAt ← Effect.ofExcept
    (timestampValue codec nextClaim.leaseExpiresAt "lease_expires_at")
  let updated ← updateReturning
    (fun row => row.commandId = commandId ∧ row.state = .inProgress)
    (fun row => { row with
      executionFencingToken := some nextClaim.fencingToken, leaseOwner := some nextClaim.ownerId
      leaseExpiresAt := some leaseExpiresAt, updatedAt := now })
    (fun _ => rfl) (.persistenceInvariant "formal command takeover lost its lock")
  let takenOver ← Effect.ofExcept (rowRecord codec updated)
  Effect.require (takenOver.executionClaim = some nextClaim)
    (.persistenceInvariant "formal command takeover result is inconsistent")
  return ⟨takenOver, false, true⟩

/-- The part of `reserve` that finds the key taken. -/
def reserveTaken (record : CommandRecord) (ownerId : String) (leaseDuration : Int) (now : Instant) :
    Command CommandReservation := do
  let row ← lockedRow record
  let persisted ← Effect.ofExcept (rowRecord codec row)
  Effect.ofExcept (requireRequestIdentity persisted record)
  if persisted.receipt.state ≠ .inProgress then return ⟨persisted, false, false⟩
  else do
    let live ← Effect.ofExcept (claimLive codec persisted.executionClaim now)
    if live then return ⟨persisted, false, false⟩
    else takeOver codec persisted ownerId leaseDuration now

/-- The transaction of `reserve`: a reservation of a taken key, or the row that was inserted. -/
def reserveRow (record : CommandRecord) (claim : ExecutionClaim) (leaseDuration : Int)
    (now lockedAt : Instant) : Command (CommandReservation ⊕ CommandRow) := do
  let first ← Effect.ofExcept (ExecutionClaim.make 1 claim.ownerId
    (codec.timestampText (now + leaseDuration)))
  let row ← Effect.ofExcept (values codec { record with executionClaim := some first } now)
  let inserted ← insertCommand row
  match inserted with
  | some row => return .inr row
  | none => do
    let reservation ← reserveTaken codec record claim.ownerId leaseDuration lockedAt
    return .inl reservation

/-- `reserve`. The database clock reads `now` before the insert and `lockedAt` once the
row of a taken key is locked. -/
def reserve (record : CommandRecord) (leaseDuration : Int) (now lockedAt : Instant) :
    Command CommandReservation := do
  Effect.require (record.receipt.state = .inProgress)
    (.persistenceInvariant "formal command reservation must be in progress")
  let claim ← Effect.ofExcept (requireExecutionClaim record)
  Effect.ofExcept (requireLeaseDuration leaseDuration)
  let reserved ← Effect.transaction (reserveRow codec record claim leaseDuration now lockedAt)
  match reserved with
  | .inl reservation => return reservation
  | .inr row => do
    let persisted ← Effect.ofExcept (rowRecord codec row)
    Effect.ofExcept (requireRequestIdentity persisted record)
    return ⟨persisted, true, true⟩

/-! ## `checkpoint_candidate` -/

/-- The transaction of `checkpoint_candidate`: the record that has a checkpoint already, or
the row that was updated with the checkpoint that it got. -/
def checkpointRow (record : CommandRecord) (claim : ExecutionClaim)
    (formalCandidateSha256 knowledgeReleaseCandidateSha256 : String) (now : Instant) :
    Command (CommandRecord ⊕ CommandRow × CandidateCheckpoint) := do
  let row ← lockedRow record
  let current ← Effect.ofExcept (rowRecord codec row)
  Effect.ofExcept (requireSameIdentity current record)
  Effect.ofExcept (requireSameExecutionClaim current record)
  Effect.require (current.receipt.state = .inProgress)
    (.persistenceInvariant "formal command checkpoint is terminal")
  if current.candidateCheckpoint.isSome then return .inl current
  else do
    let checkpoint ← Effect.ofExcept (CandidateCheckpoint.make formalCandidateSha256
      knowledgeReleaseCandidateSha256 (codec.timestampText now))
    let commandId ← Effect.ofExcept (uuidValue codec record.receipt.commandId "command_id")
    let checkpointedAt ← Effect.ofExcept
      (timestampValue codec checkpoint.checkpointedAt "candidate_checkpointed_at")
    let updated ← updateReturning
      (fun row => row.commandId = commandId ∧ row.state = .inProgress ∧
        row.executionFencingToken = some claim.fencingToken ∧ row.leaseOwner = some claim.ownerId ∧
        row.formalCandidateSha256 = none ∧ row.knowledgeReleaseCandidateSha256 = none ∧
        row.candidateCheckpointedAt = none)
      (fun row => { row with
        formalCandidateSha256 := some checkpoint.formalCandidateSha256
        knowledgeReleaseCandidateSha256 := some checkpoint.knowledgeReleaseCandidateSha256
        candidateCheckpointedAt := some checkpointedAt, updatedAt := now })
      (fun _ => rfl) (.persistenceInvariant "formal command checkpoint lost its lock")
    return .inr (updated, checkpoint)

def checkpointCandidate (record : CommandRecord)
    (formalCandidateSha256 knowledgeReleaseCandidateSha256 : String) (now : Instant) :
    Command CommandRecord := do
  Effect.require (record.receipt.state = .inProgress)
    (.persistenceInvariant "formal command checkpoint must be in progress")
  let claim ← Effect.ofExcept (requireExecutionClaim record)
  let written ← Effect.transaction (checkpointRow codec record claim formalCandidateSha256
    knowledgeReleaseCandidateSha256 now)
  match written with
  | .inl current => return current
  | .inr (row, checkpoint) => do
    let checkpointed ← Effect.ofExcept (rowRecord codec row)
    Effect.require (checkpointed.candidateCheckpoint = some checkpoint)
      (.persistenceInvariant "formal command checkpoint result is inconsistent")
    return checkpointed

/-! ## `complete` -/

/-- The transaction of `complete`: the record that is terminal already, or the row that was
updated. -/
def completeRow (record : CommandRecord) : Command (CommandRecord ⊕ CommandRow) := do
  let row ← lockedRow record
  let current ← Effect.ofExcept (rowRecord codec row)
  Effect.ofExcept (requireSameIdentity current record)
  Effect.ofExcept (requireSameExecutionClaim current record)
  Effect.ofExcept (requireSameCandidateCheckpoint current record)
  let claim ← Effect.ofExcept (requireExecutionClaim record)
  if current.receipt.state ≠ .inProgress then return .inl current
  else do
    let completed ← Effect.ofExcept (orRaise record.receipt.completedAt (.value "completed_at"))
    let commandId ← Effect.ofExcept (uuidValue codec record.receipt.commandId "command_id")
    let completedAt ← Effect.ofExcept (timestampValue codec completed "completed_at")
    let updated ← updateReturning
      (fun row => row.commandId = commandId ∧ row.state = .inProgress ∧
        row.executionFencingToken = some claim.fencingToken ∧ row.leaseOwner = some claim.ownerId)
      (fun row => { row with
        state := record.receipt.state, receiptJson := record.receipt
        completedAt := some completedAt, updatedAt := completedAt })
      (fun _ => rfl) (.persistenceInvariant "formal command completion lost its lock")
    return .inr updated

/-- `complete`; the lease may have expired, as long as nobody has taken the command over. -/
def complete (record : CommandRecord) : Command CommandRecord := do
  Effect.require (record.receipt.state ≠ .inProgress)
    (.persistenceInvariant "formal command completion must be terminal")
  let written ← Effect.transaction (completeRow codec record)
  match written with
  | .inl current => return current
  | .inr row => do
    let persisted ← Effect.ofExcept (rowRecord codec row)
    Effect.require (persisted = record)
      (.persistenceInvariant "formal command completion result is inconsistent")
    return persisted

end ProofAgent.FormalPublication
