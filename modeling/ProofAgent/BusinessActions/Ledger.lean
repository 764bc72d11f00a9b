import ProofAgent.Base.Interleaving
import ProofAgent.Base.Json
import ProofAgent.Base.Mapping
import ProofAgent.Base.Outcome
import ProofAgent.Contracts.Platform

/-! # The local ledger of business actions

One row for each key that an action was asked for under. An attempt acquires the row with a
lease and a fence, begins the action and records its outcome; every one of these is a
transaction of its own. -/
namespace ProofAgent.BusinessActions

open Base

/-! ## Business actions

A request for an action is known by two digests: one of the key under which it is
dispatched at most once, and one of the whole request. A receipt binds an outcome to
both of them. -/

/-- The functions of the standard library that business actions are built on. A float is
the number that it stands for. -/
structure ActionLibrary where
  sha256 : String → String
  /-- `json.dumps`, with sorted keys and without spaces. -/
  dumps : Json → String
  /-- `datetime.timestamp`. -/
  timestamp : Instant → Rat
  /-- Addition of floats. -/
  add : Rat → Rat → Rat

inductive ActionError where
  /-- `ActionBoundaryError`. -/
  | boundary (message : String)
  | value (message : String)
  | assertion
  /-- `ValidationError` of a stored receipt. -/
  | validation
  /-- `IntegrityError` of the table. -/
  | integrity
  /-- What a collaborator raises; `exception` when it is an `Exception`. -/
  | raised (exception : Bool)
  deriving DecidableEq

/-- Whether `except Exception` catches it. -/
def ActionError.isException : ActionError → Bool
  | raised exception => exception
  | _ => true

/-! ## Digests -/

/-- The limit of `_plain`. -/
def requireDepth (depth : Nat) : Except ActionError Unit :=
  require (depth ≤ 16) (.value "action parameters exceed depth limit")

mutual
/-- `_plain`. -/
def plain (depth : Nat) : Json → Except ActionError Json
  | .obj fields => do
    requireDepth depth
    pure (.obj (← plainFields (depth + 1) fields))
  | .arr items => do
    requireDepth depth
    pure (.arr (← plainItems (depth + 1) items))
  | value => do
    requireDepth depth
    pure value

def plainItems (depth : Nat) : List Json → Except ActionError (List Json)
  | [] => pure []
  | item :: items => do pure ((← plain depth item) :: (← plainItems depth items))

def plainFields (depth : Nat) : List (String × Json) → Except ActionError (List (String × Json))
  | [] => pure []
  | (key, item) :: fields => do pure ((key, ← plain depth item) :: (← plainFields depth fields))
end

variable (library : ActionLibrary)

def digestOf (value : Json) : String := library.sha256 (library.dumps value)

/-- `action_digest`. -/
def actionDigest (value : Json) : Except ActionError String := (plain 0 value).map (digestOf library)

/-! ## Records -/

structure ActionRequest where
  actorId : String
  tenantId : String
  operation : String
  resourceId : String
  businessKey : String
  contractDigest : String
  parameters : FrozenDict

def ActionRequest.keyFields (request : ActionRequest) : Json :=
  .obj [("tenant", .str request.tenantId), ("operation", .str request.operation),
    ("resource", .str request.resourceId), ("key", .str request.businessKey)]

/-- `key_digest`; the texts of a key are not nested. -/
def ActionRequest.keyDigest (request : ActionRequest) : String := digestOf library request.keyFields

/-- `model_dump`. -/
def ActionRequest.dumped (request : ActionRequest) : Json :=
  .obj [("actor_id", .str request.actorId), ("tenant_id", .str request.tenantId),
    ("operation", .str request.operation), ("resource_id", .str request.resourceId),
    ("business_key", .str request.businessKey), ("contract_digest", .str request.contractDigest),
    ("parameters", request.parameters.json)]

/-- `request_digest`. -/
def ActionRequest.requestDigest (request : ActionRequest) : Except ActionError String :=
  actionDigest library request.dumped

structure ActionAuthorization where
  actorId : String
  tenantId : String
  operation : String
  resourceId : String
  requestDigest : String
  contractDigest : String
  permissionVersion : String
  expiresAt : Instant

/-- The outcome that a receipt attests. -/
inductive ReceiptOutcome where
  | succeeded | failed
  deriving DecidableEq

structure ActionReceipt where
  providerReceiptId : String
  keyDigest : String
  requestDigest : String
  contractDigest : String
  outcome : ReceiptOutcome
  deriving DecidableEq

inductive OutcomeState where
  | succeeded | failed | outcomeUnknown
  deriving DecidableEq

def ReceiptOutcome.state : ReceiptOutcome → OutcomeState
  | succeeded => .succeeded
  | failed => .failed

structure ProviderActionResult where
  state : OutcomeState
  receipt : Option ActionReceipt := none

structure ActionOutcome where
  state : OutcomeState
  receipt : Option ActionReceipt := none
  replayed : Bool := false
  deriving DecidableEq

inductive ReservationMode where
  | execute | reconcile | replay
  deriving DecidableEq

structure ActionReservation where
  keyDigest : String
  requestDigest : String
  attemptId : String
  fence : Nat
  mode : ReservationMode
  outcome : Option ActionOutcome := none
  deriving DecidableEq

/-! ## The ledger -/

inductive ActionState where
  | reserved | executing | succeeded | failed | outcomeUnknown
  deriving DecidableEq

def OutcomeState.stored : OutcomeState → ActionState
  | succeeded => .succeeded
  | failed => .failed
  | outcomeUnknown => .outcomeUnknown

/-- A row of `business_actions`. -/
structure ActionRow where
  keyDigest : String
  requestDigest : String
  state : ActionState
  attemptId : String
  fence : Nat
  leaseUntil : Rat
  retainUntil : Rat
  receipt : Option ActionReceipt

abbrev ActionTable : Type := Table ActionRow.keyDigest

abbrev ActionQuery : Type → Type := Effect ActionTable ActionError

structure LocalBusinessActionLedger where
  retentionSeconds : Rat
  positive : 0 < retentionSeconds

variable (library : ActionLibrary) (ledger : LocalBusinessActionLedger)

/-- `INSERT INTO business_actions`. -/
def insertAction (row : ActionRow) : ActionQuery Unit := do
  let actions ← Effect.read
  match actions.insert? row with
  | some actions => Effect.modify fun _ => actions
  | none => Effect.raise .integrity

/-- `UPDATE business_actions SET ... WHERE key_digest=?`, for assignments that keep the key. -/
def updateAction (keyDigest : String) (assign : ActionRow → ActionRow)
    (hassign : ∀ row, (assign row).keyDigest = row.keyDigest) : ActionQuery Unit :=
  Effect.modify fun actions => actions.update (fun row => row.keyDigest = keyDigest) assign hassign

/-- The outcome of a row that has one. -/
def ActionRow.recorded? (row : ActionRow) : Option ReceiptOutcome :=
  match row.state with
  | .succeeded => some .succeeded
  | .failed => some .failed
  | _ => none

/-- `acquire` of a row whose outcome is recorded. -/
def replayRow (row : ActionRow) (key fingerprint attemptId : String) (outcome : ReceiptOutcome) :
    ActionQuery ActionReservation := do
  let receipt ← .ofExcept (orRaise row.receipt .validation)
  Effect.require (receipt.keyDigest = key ∧ receipt.requestDigest = fingerprint ∧ receipt.outcome = outcome)
    (.boundary "stored receipt binding is invalid")
  pure ⟨key, fingerprint, attemptId, row.fence, .replay, some ⟨receipt.outcome.state, some receipt, true⟩⟩

/-- `acquire` of a row without an outcome. -/
def takeOverRow (row : ActionRow) (key fingerprint attemptId : String) (timestamp leaseSeconds : Rat) :
    ActionQuery ActionReservation := do
  Effect.require (¬ timestamp < row.leaseUntil)
    (.boundary "business action has an active execution lease")
  Effect.require (row.state ∈ [ActionState.reserved, .executing, .outcomeUnknown])
    (.boundary "business action state is invalid")
  let mode : ReservationMode := if row.state = .reserved then .execute else .reconcile
  let state : ActionState := if mode = .execute then .reserved else .outcomeUnknown
  let fence := row.fence + 1
  updateAction key (fun row => { row with
    state, attemptId, fence, leaseUntil := library.add timestamp leaseSeconds }) fun _ => rfl
  pure ⟨key, fingerprint, attemptId, fence, mode, none⟩

/-- The transaction of `acquire`. -/
def acquireRow (key fingerprint attemptId : String) (timestamp leaseSeconds : Rat) :
    ActionQuery ActionReservation := do
  let actions ← Effect.read
  match actions.find? key with
  | none =>
    insertAction ⟨key, fingerprint, .reserved, attemptId, 1, library.add timestamp leaseSeconds,
      library.add timestamp ledger.retentionSeconds, none⟩
    pure ⟨key, fingerprint, attemptId, 1, .execute, none⟩
  | some row =>
    Effect.require (row.requestDigest = fingerprint)
      (.boundary "business idempotency key conflicts with the exact request")
    Effect.require (timestamp < row.retainUntil)
      (.boundary "business idempotency horizon requires reconciliation policy")
    match row.recorded? with
    | some outcome => replayRow row key fingerprint attemptId outcome
    | none => takeOverRow library row key fingerprint attemptId timestamp leaseSeconds

/-- `acquire`. -/
def acquire (request : ActionRequest) (attemptId : String) (now : Instant) (leaseSeconds : Rat) :
    ActionQuery ActionReservation := do
  Effect.require (0 < leaseSeconds ∧ leaseSeconds ≤ 300) (.boundary "invalid execution lease")
  let fingerprint ← .ofExcept (request.requestDigest library)
  Effect.transaction
    (acquireRow library ledger (request.keyDigest library) fingerprint attemptId
      (library.timestamp now) leaseSeconds)

/-- What `_transition` requires of the row that it finds. -/
def ActionRow.HeldBy (row : ActionRow) (reservation : ActionReservation) (now : Instant)
    (expected : List ActionState) : Prop :=
  row.attemptId = reservation.attemptId ∧ row.fence = reservation.fence ∧
    row.requestDigest = reservation.requestDigest ∧ library.timestamp now < row.leaseUntil ∧
    row.state ∈ expected

instance (row : ActionRow) (reservation : ActionReservation) (now : Instant) (expected : List ActionState) :
    Decidable (row.HeldBy library reservation now expected) := inferInstanceAs (Decidable (_ ∧ _))

/-- `_transition`. -/
def transition (reservation : ActionReservation) (now : Instant) (expected : List ActionState)
    (state : ActionState) (receipt : Option ActionReceipt) : ActionQuery Unit :=
  Effect.transaction do
    let actions ← Effect.read
    let row ← .ofExcept (orRaise (actions.find? reservation.keyDigest)
      (.boundary "stale business execution attempt"))
    Effect.require (row.HeldBy library reservation now expected)
      (.boundary "stale business execution attempt")
    updateAction reservation.keyDigest (fun row => { row with state, receipt }) fun _ => rfl

/-- `begin`. -/
def begin (reservation : ActionReservation) (now : Instant) : ActionQuery Unit := do
  Effect.require (reservation.mode = .execute)
    (.boundary "reconciliation cannot dispatch a new action")
  transition library reservation now [.reserved] .executing none

/-- Whether a receipt binds an outcome to a key and a request. -/
def ActionReceipt.Binds (receipt : ActionReceipt) (keyDigest requestDigest : String)
    (state : OutcomeState) : Prop :=
  receipt.keyDigest = keyDigest ∧ receipt.requestDigest = requestDigest ∧ receipt.outcome.state = state

instance (receipt : ActionReceipt) (keyDigest requestDigest : String) (state : OutcomeState) :
    Decidable (receipt.Binds keyDigest requestDigest state) := inferInstanceAs (Decidable (_ ∧ _))

/-- `finish`. -/
def finish (reservation : ActionReservation) (outcome : ActionOutcome) (now : Instant) :
    ActionQuery Unit := do
  Effect.require (outcome.state = .outcomeUnknown ∨ outcome.receipt.any (fun receipt =>
      receipt.Binds reservation.keyDigest reservation.requestDigest outcome.state) = true)
    (.boundary "verified receipt does not bind to reservation")
  transition library reservation now [.executing, .outcomeUnknown] outcome.state.stored outcome.receipt

end ProofAgent.BusinessActions
