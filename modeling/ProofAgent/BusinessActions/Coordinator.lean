import ProofAgent.BusinessActions.Ledger

/-! # The coordinator of business actions

A run authorizes a request, acquires the row of its key, begins, calls the provider and
finishes. Its collaborators answer from a world that all runs share; a call of the provider
is made at one moment and returns at a later one. -/
namespace ProofAgent.BusinessActions

open Base

variable {W : Type}

/-- What a run has done. -/
inductive ActionEvent where
  | acquired (run : Nat) (reservation : ActionReservation)
  | begun (run : Nat) (reservation : ActionReservation)
  /-- The call of `provider.execute`. -/
  | dispatched (run : Nat) (reservation : ActionReservation)
  /-- The call of `provider.reconcile`. -/
  | reconciled (run : Nat) (reservation : ActionReservation)
  | finished (run : Nat) (reservation : ActionReservation) (outcome : ActionOutcome)
  deriving DecidableEq

/-- The table, the world of the collaborators, and what has been done so far. -/
structure ActionSystem (W : Type) where
  actions : ActionTable
  world : W
  events : List ActionEvent

/-- A call of a collaborator. -/
abbrev Answer (W : Type) : Type → Type := Effect W ActionError

abbrev ActionProcess (W : Type) : Type → Type := Process (ActionSystem W) ActionError

structure BusinessActionAuthority (W : Type) where
  authorize : ActionRequest → Instant → Answer W (Option ActionAuthorization)
  isCurrent : ActionAuthorization → Instant → Answer W Bool

structure BusinessActionProvider (W : Type) where
  contractDigest : String
  execute : ActionRequest → ActionAuthorization → String → Answer W ProviderActionResult
  reconcile : ActionRequest → ActionAuthorization → String → Answer W ProviderActionResult
  verifyReceipt : ActionRequest → ActionReceipt → String → Answer W Bool

structure BusinessActionCoordinator (W : Type) where
  authority : BusinessActionAuthority W
  provider : BusinessActionProvider W
  clock : Answer W Instant
  leaseSeconds : Rat

/-! ## Steps -/

def ask {α : Type} (answer : Answer W α) : ActionProcess W α :=
  .atomic (Effect.focus ActionSystem.world (fun s world => { s with world }) answer)

/-- The call of a collaborator is made. -/
def note (event : ActionEvent) : ActionProcess W Unit :=
  .atomic (Effect.modify fun s => { s with events := s.events ++ [event] })

/-- A transaction of the ledger, on the system. -/
def onLedger {α : Type} (query : ActionQuery α) (event : α → ActionEvent) :
    Effect (ActionSystem W) ActionError α := fun s =>
  match query s.actions with
  | (.ok a, actions) => (.ok a, { s with actions, events := s.events ++ [event a] })
  | (.error e, actions) => (.error e, { s with actions })

def inLedger {α : Type} (query : ActionQuery α) (event : α → ActionEvent) : ActionProcess W α :=
  .atomic (onLedger query event)

/-! ## A run -/

variable (library : ActionLibrary) (ledger : LocalBusinessActionLedger) (c : BusinessActionCoordinator W)

def denied : ActionError := .boundary "exact business action authorization denied"

/-- What `_authorize` requires of an authorization before it asks whether it is current. -/
def authorized (request : ActionRequest) (requestDigest : String) (now : Instant)
    (authorization : ActionAuthorization) : Bool :=
  authorization.requestDigest = requestDigest ∧
    authorization.contractDigest = request.contractDigest ∧
    c.provider.contractDigest = request.contractDigest ∧ now < authorization.expiresAt

/-- `_authorize`. -/
def authorize (request : ActionRequest) : ActionProcess W ActionAuthorization := do
  let now ← ask c.clock
  match ← ask (c.authority.authorize request now) with
  | none => .raise denied
  | some authorization =>
    if authorization.actorId = request.actorId ∧ authorization.tenantId = request.tenantId ∧
        authorization.operation = request.operation ∧ authorization.resourceId = request.resourceId then do
      let requestDigest ← .ofExcept (request.requestDigest library)
      if authorized c request requestDigest now authorization = true then do
        if ← ask (c.authority.isCurrent authorization now) then pure authorization
        else .raise denied
      else .raise denied
    else .raise denied

/-- `if cancellation_check: cancellation_check()`. -/
def cancellation (check : Option (Answer W Unit)) : ActionProcess W Unit :=
  match check with
  | some check => ask check
  | none => pure ()

/-- The call of the provider. -/
def callProvider (run : Nat) (request : ActionRequest) (authorization : ActionAuthorization)
    (reservation : ActionReservation) : ActionProcess W ProviderActionResult :=
  if reservation.mode = .execute then do
    note (.dispatched run reservation)
    ask (c.provider.execute request authorization reservation.keyDigest)
  else do
    note (.reconciled run reservation)
    ask (c.provider.reconcile request authorization reservation.keyDigest)

/-- Whether a receipt is the one of a result. -/
def receiptFits (request : ActionRequest) (requestDigest : String) (result : ProviderActionResult)
    (receipt : ActionReceipt) : Bool :=
  receipt.keyDigest = request.keyDigest library ∧ receipt.requestDigest = requestDigest ∧
    receipt.contractDigest = request.contractDigest ∧ receipt.outcome.state = result.state

/-- The outcome that a result of the provider is taken for. -/
def outcomeOf (request : ActionRequest) (result : ProviderActionResult) : ActionProcess W ActionOutcome :=
  if result.state = .outcomeUnknown then pure { state := .outcomeUnknown }
  else match result.receipt with
    | none => pure { state := .outcomeUnknown }
    | some receipt => do
      if receipt.keyDigest = request.keyDigest library then do
        let requestDigest ← .ofExcept (request.requestDigest library)
        if receiptFits library request requestDigest result receipt = true then do
          if ← ask (c.provider.verifyReceipt request receipt (request.keyDigest library)) then
            pure { state := result.state, receipt := some receipt }
          else pure { state := .outcomeUnknown }
        else pure { state := .outcomeUnknown }
      else pure { state := .outcomeUnknown }

/-- The call of the provider, where every `Exception` leaves the outcome unknown. -/
def settle (run : Nat) (request : ActionRequest) (authorization : ActionAuthorization)
    (reservation : ActionReservation) : ActionProcess W ActionOutcome := do
  let called : ActionProcess W ActionOutcome := do
    outcomeOf library c request (← callProvider c run request authorization reservation)
  match ← called.caught with
  | .ok outcome => pure outcome
  | .error e => if e.isException = true then pure { state := .outcomeUnknown } else .raise e

/-- `begin`, of a reservation to execute. -/
def beginExecution (run : Nat) (reservation : ActionReservation) : ActionProcess W Unit :=
  if reservation.mode = .execute then do
    let now ← ask c.clock
    inLedger (begin library reservation now) fun _ => .begun run reservation
  else pure ()

/-- `execute`, from the reservation of a row without an outcome on. -/
def carryOut (run : Nat) (request : ActionRequest) (reservation : ActionReservation)
    (check : Option (Answer W Unit)) : ActionProcess W ActionOutcome := do
  cancellation check
  let authorization ← authorize library c request
  beginExecution library c run reservation
  let outcome ← settle library c run request authorization reservation
  let now ← ask c.clock
  inLedger (finish library reservation outcome now) fun _ => .finished run reservation outcome
  cancellation check
  pure outcome

/-- A call of `execute`; `production` is what it reads of its environment. -/
structure ActionRun (W : Type) where
  coordinator : BusinessActionCoordinator W
  request : ActionRequest
  production : Bool
  /-- `uuid4().hex`. -/
  attemptId : String
  cancellationCheck : Option (Answer W Unit)

/-- `execute`. -/
def execute (run : Nat) (call : ActionRun W) : ActionProcess W ActionOutcome :=
  if call.production = true then
    .raise (.boundary "local action simulation is unavailable in production")
  else do
    let _ ← authorize library call.coordinator call.request
    let now ← ask call.coordinator.clock
    let reservation ← inLedger
      (acquire library ledger call.request call.attemptId now call.coordinator.leaseSeconds)
      (.acquired run)
    if reservation.mode = .replay then do
      let _ ← authorize library call.coordinator call.request
      .ofExcept (orRaise reservation.outcome .assertion)
    else carryOut library call.coordinator run call.request reservation call.cancellationCheck

/-- The runs, before the first of them, on an empty table. -/
def actionPool (world : W) (runs : List (ActionRun W)) :
    Pool (ActionSystem W) ActionError ActionOutcome :=
  ⟨⟨.empty, world, []⟩, runs.mapIdx (execute library ledger)⟩

end ProofAgent.BusinessActions
