import ProofAgent.Base.Transactions
import ProofAgent.Persistence.Database

/-! # The authority for worker roles

One row holds the ownership lease of a worker role. An owner gets an activation
object from each call and presents it with the next one; four of the five calls
compare it with the row, column by column, and write the row if it matches. The row
of `knowledge_worker`, which no `ProductionWorkerRole` names, is left out. -/
namespace ProofAgent

open Base

/-! ## `WorkerRoleActivation` -/

inductive ProductionWorkerRole where
  | runExecutor
  deriving DecidableEq

structure WorkerRoleActivation where
  role : ProductionWorkerRole
  slot : Nat
  state : RoleActivationState
  activationEpoch : Nat
  ownerId : Option String := none
  heartbeatAt : Option Instant := none
  leaseExpiresAt : Option Instant := none
  updatedAt : Instant
  deriving DecidableEq

inductive WorkerRoleError where
  /-- `ValueError`, and pydantic's `ValidationError`. -/
  | value (message : String)
  /-- `RuntimeError`. -/
  | runtime (message : String)
  | leaseConflict (message : String)
  | leaseLost (message : String)
  deriving DecidableEq

/-- `state in {ACTIVE, DRAINING}`. -/
def RoleActivationState.isOwned : RoleActivationState → Bool
  | .standby => false
  | .active | .draining => true

namespace WorkerRoleActivation

def hasCompleteLease (a : WorkerRoleActivation) : Bool :=
  a.ownerId.isSome && a.heartbeatAt.isSome && a.leaseExpiresAt.isSome

/-- Whether any column of a lease is set. -/
def hasAnyLease (a : WorkerRoleActivation) : Bool :=
  a.ownerId.isSome || a.heartbeatAt.isSome || a.leaseExpiresAt.isSome

/-- What the field constraints and `validate_ownership_lease` check. -/
def checks (a : WorkerRoleActivation) : List (Bool × WorkerRoleError) :=
  [(decide (1 ≤ a.slot ∧ a.slot ≤ 2), .value "slot"),
   (a.ownerId.all fun owner => decide (1 ≤ owner.length ∧ owner.length ≤ 255), .value "owner_id"),
   (decide (a.state.isOwned = a.hasCompleteLease),
    .value "An owned worker role requires one complete lease"),
   (a.state.isOwned || !a.hasAnyLease,
    .value "A standby worker role cannot retain an ownership lease"),
   (a.heartbeatAt.all fun h => a.leaseExpiresAt.all fun t => decide (h < t),
    .value "Worker role lease expiry must follow its heartbeat")]

/-- `WorkerRoleActivation(...)`. -/
def validated (a : WorkerRoleActivation) : Except WorkerRoleError WorkerRoleActivation := do
  requireAll a.checks
  return a

/-- `is_live`. -/
def isLive (a : WorkerRoleActivation) (at_ : Instant) : Bool :=
  a.state.isOwned && a.leaseExpiresAt.any fun t => at_ < t

/-- The row as the run queue reads it. -/
def toRow (a : WorkerRoleActivation) : WorkerRoleRow where
  role := "run_executor"
  slot := a.slot
  state := a.state
  ownerId := a.ownerId
  leaseExpiresAt := a.leaseExpiresAt

end WorkerRoleActivation

/-! ## `PostgresWorkerRoleRepository` -/

/-- `production_worker_role_activations`. -/
abbrev WorkerRoleTable := Table WorkerRoleActivation.role

namespace WorkerRoleRepository

abbrev Call := Effect WorkerRoleTable WorkerRoleError WorkerRoleActivation

/-- The table after the migrations, of which one wrote the row at `createdAt`. -/
def initial (createdAt : Instant) : WorkerRoleTable :=
  ⟨[{ role := .runExecutor, slot := 1, state := .standby, activationEpoch := 0
      updatedAt := createdAt }], List.nodup_singleton _⟩

/-- `_validate_identity`. -/
def validateIdentity (slot : Nat) (ownerId : String) : Except WorkerRoleError Unit := do
  require (slot = 1 ∨ slot = 2) (.value "Worker role slot must be 1 or 2")
  require (ownerId ≠ "" ∧ isStripped ownerId = true ∧ ownerId.length ≤ 255)
    (.value "Worker role owner id is invalid")

/-- `_validate_time_and_lease`; the time is an aware one. -/
def validateLease (leaseSeconds : Int) : Except WorkerRoleError Unit :=
  require (1 ≤ leaseSeconds ∧ leaseSeconds ≤ 300)
    (.value "Worker role lease is outside the supported envelope")

/-- `_locked_current`. -/
def lockedCurrent (role : ProductionWorkerRole) : Call := do
  let table ← Effect.read
  Effect.ofExcept do
    let row ← orRaise (table.find? role) (.runtime "Worker role authority is not initialized")
    row.validated

/-- `_write`. -/
def write (activation : WorkerRoleActivation) (expectedEpoch : Nat) :
    Effect WorkerRoleTable WorkerRoleError Unit :=
  updateOne (fun row => row.role = activation.role ∧ row.activationEpoch = expectedEpoch)
    (fun row => { activation with role := row.role }) (fun _ => rfl)
    (.leaseConflict "Worker role activation CAS failed")

def activate (role : ProductionWorkerRole) (slot : Nat) (ownerId : String) (expectedEpoch : Int)
    (now : Instant) (leaseSeconds : Int) : Call := do
  Effect.ofExcept (validateIdentity slot ownerId)
  Effect.ofExcept (validateLease leaseSeconds)
  Effect.require (0 ≤ expectedEpoch) (.value "Expected worker role epoch cannot be negative")
  Effect.transaction do
    let current ← lockedCurrent role
    Effect.require (current.activationEpoch = expectedEpoch)
      (.leaseConflict "Worker role activation epoch changed before promotion")
    Effect.require (current.isLive now = false)
      (.leaseConflict "A live worker role lease must drain or expire before promotion")
    let activation ← Effect.ofExcept (WorkerRoleActivation.validated
      { role, slot, state := .active, activationEpoch := current.activationEpoch + 1
        ownerId := some ownerId, heartbeatAt := some now
        leaseExpiresAt := some (now + seconds leaseSeconds), updatedAt := now })
    write activation current.activationEpoch
    return activation

/-- The columns of a row that a call compares with the object it was given; `updated_at`
is not one of them. -/
def matchesLease (activation : WorkerRoleActivation) (state : RoleActivationState)
    (row : WorkerRoleActivation) : Bool :=
  row.role = activation.role ∧ row.slot = activation.slot ∧ row.state = state ∧
    row.activationEpoch = activation.activationEpoch ∧ row.ownerId = activation.ownerId ∧
    row.heartbeatAt = activation.heartbeatAt ∧ row.leaseExpiresAt = activation.leaseExpiresAt

/-- `lease_expires_at > now`. -/
def unexpired (now : Instant) (row : WorkerRoleActivation) : Bool :=
  row.leaseExpiresAt.any fun t => now < t

def heartbeat (activation : WorkerRoleActivation) (now : Instant) (leaseSeconds : Int) : Call := do
  Effect.ofExcept (validateLease leaseSeconds)
  Effect.require (activation.state = .active ∨ activation.state = .draining)
    (.leaseLost "A standby worker role has no lease to renew")
  Effect.require (∃ h ∈ activation.heartbeatAt, h ≤ now)
    (.value "Worker role heartbeat time cannot move backwards")
  let renewed := { activation with
    heartbeatAt := some now, leaseExpiresAt := some (now + seconds leaseSeconds), updatedAt := now }
  updateOne (fun row => matchesLease activation activation.state row && unexpired now row)
    (fun row => { row with
      heartbeatAt := renewed.heartbeatAt, leaseExpiresAt := renewed.leaseExpiresAt, updatedAt := now })
    (fun _ => rfl) (.leaseLost "Worker role lease is expired or fenced")
  return renewed

def beginDraining (activation : WorkerRoleActivation) (now : Instant) : Call := do
  Effect.require (activation.state = .active)
    (.leaseLost "Only an active worker role can begin draining")
  let draining := { activation with state := .draining, updatedAt := now }
  updateOne (fun row => matchesLease activation .active row && unexpired now row)
    (fun row => { row with state := .draining, updatedAt := now }) (fun _ => rfl)
    (.leaseLost "Worker role lease is expired or fenced")
  return draining

/-- `resume_active`: cancel a drain without a new epoch. -/
def resumeActive (activation : WorkerRoleActivation) (now : Instant) : Call := do
  Effect.require (activation.state = .draining)
    (.leaseLost "Only a draining worker role can resume")
  let active := { activation with state := .active, updatedAt := now }
  updateOne (fun row => matchesLease activation .draining row && unexpired now row)
    (fun row => { row with state := .active, updatedAt := now }) (fun _ => rfl)
    (.leaseLost "Worker role lease is expired or fenced")
  return active

/-- `release`; an owner may release a lease that has expired. -/
def release (activation : WorkerRoleActivation) (now : Instant) : Call := do
  Effect.require (activation.state = .active ∨ activation.state = .draining)
    (.leaseLost "A standby worker role has no lease to release")
  let standby := { activation with
    state := .standby, ownerId := none, heartbeatAt := none, leaseExpiresAt := none, updatedAt := now }
  updateOne (fun row => matchesLease activation activation.state row)
    (fun row => { row with
      state := .standby, ownerId := none, heartbeatAt := none, leaseExpiresAt := none
      updatedAt := now })
    (fun _ => rfl) (.leaseLost "Worker role lease is fenced")
  return standby

end WorkerRoleRepository

end ProofAgent
