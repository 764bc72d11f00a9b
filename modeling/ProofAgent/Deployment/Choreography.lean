import ProofAgent.Base.Effect
import ProofAgent.Contracts.Platform

/-! # The choreography of a deployment

`deploy` goes through its steps, aborts when one fails before the gateway switch and
rolls back when one fails after it. An operation answers or raises, and whichever it
does, its effect may have taken place: the journal keeps both, while the code sees
only the answer. -/
namespace ProofAgent.Deployment

open Base

/-! ## Deployments between two slots

What a deployment is asked for, the records of its steps and its result, and the
routing generations of the gateway. -/

inductive DeploymentSlot where
  | blue | green
  deriving DecidableEq

inductive DeploymentOutcome where
  | deployed | aborted | abortFailed | rolledBack | rollbackFailed
  deriving DecidableEq

inductive DeploymentStepStatus where
  | succeeded | failed
  deriving DecidableEq

inductive DeploymentStepName where
  | validatePrechecks | lockedExpandMigration | startCandidateStandby | candidateReadiness
  | isolatedSmoke | bidirectionalQueueContract | pauseAdmission | oldWorkersDraining
  | oldClaimsZero | gatewaySwitch | candidateActivation | stableOriginSmoke | soak
  | stopOldCompute | resumeAdmission | abortOldWorkersActive | abortCandidateStandby
  | rollbackOldApiReadiness | rollbackGateway | rollbackCandidateDraining
  | rollbackCandidateClaimsZero | rollbackCandidateFenced | rollbackOldActivation
  | rollbackFailLostAttempts
  deriving DecidableEq

/-- `CandidateBinding`. -/
structure CandidateBinding where
  releaseId : String
  imageReference : String
  deploymentCompatibilityManifestSha256 : String
  migrationSetSha256 : String
  schemaRevision : String
  deriving DecidableEq

/-- `binding_sha256`. -/
def CandidateBinding.bindingSha256 (rt : Runtime) (b : CandidateBinding) : String :=
  rt.sha256 (.obj [("release_id", .str b.releaseId), ("image_reference", .str b.imageReference),
    ("deployment_compatibility_manifest_sha256", .str b.deploymentCompatibilityManifestSha256),
    ("migration_set_sha256", .str b.migrationSetSha256),
    ("schema_revision", .str b.schemaRevision)])

structure BlueGreenDeploymentRequest where
  binding : CandidateBinding
  oldSlot : DeploymentSlot
  candidateSlot : DeploymentSlot
  oldActivationEpoch : Nat
  activeGatewayGeneration : Nat
  drainTimeoutSeconds : Nat := 150
  soakSeconds : Nat := 1800
  admissionPauseAuthorized : Bool := false
  epoch_positive : 1 ≤ oldActivationEpoch
  generation_positive : 1 ≤ activeGatewayGeneration
  drain_timeout : 1 ≤ drainTimeoutSeconds ∧ drainTimeoutSeconds ≤ 150
  soak : soakSeconds = 1800
  /-- `require_distinct_slots`. -/
  distinct_slots : oldSlot ≠ candidateSlot

structure GatewayRoutingGeneration where
  generation : Nat
  slot : DeploymentSlot
  deploymentBindingSha256 : String
  includeSha256 : String
  deriving DecidableEq

/-- A lower-case letter or a digit. -/
def isCodeLetter (c : Char) : Bool := ('a' ≤ c && c ≤ 'z') || ('0' ≤ c && c ≤ '9')

/-- The pattern and the length of an error code in a step record. -/
def isRecordedCode (code : String) : Bool :=
  code.length ≤ 128 && code.toList.head?.any isCodeLetter &&
    code.toList.all fun c => isCodeLetter c || c = '.' || c = '_' || c = '-'

structure DeploymentStepRecord where
  name : DeploymentStepName
  status : DeploymentStepStatus
  deploymentBindingSha256 : String
  candidateReleaseId : String
  startedAt : Instant
  completedAt : Instant
  errorCode : Option String := none
  deriving DecidableEq

/-- The field constraints of a step record and `validate_result`. -/
def DeploymentStepRecord.valid (r : DeploymentStepRecord) : Bool :=
  r.errorCode.all isRecordedCode && r.startedAt ≤ r.completedAt &&
    (r.status = .failed) = r.errorCode.isSome

structure BlueGreenDeploymentResult where
  outcome : DeploymentOutcome
  deploymentBindingSha256 : String
  steps : List DeploymentStepRecord
  gatewayGeneration : Option Nat := none
  candidateActivationEpoch : Option Nat := none
  switchedAt : Option Instant := none
  retentionUntil : Option Instant := none
  deriving DecidableEq

/-! ## Rollback assets -/

/-- A time of the day, in hours. -/
def hours (n : Int) : Int := seconds (n * 3600)

/-- The day of the week of a day since 1970, from Monday. -/
def weekday (day : Int) : Int := (day + 3) % 7

/-- The first day from `day` on that is not on a weekend. -/
def nextWorkday (day : Int) : Int :=
  if weekday day = 5 then day + 2 else if weekday day = 6 then day + 1 else day

/-- `rollback_asset_retention_deadline`; Shanghai is eight hours ahead of UTC. -/
def rollbackAssetRetentionDeadline (switchedAt : Instant) : Instant :=
  let local_ := switchedAt + hours 8
  let day := local_ / days 1
  let day := if 5 ≤ weekday day ∨ hours 9 ≤ local_ % days 1 then day + 1 else day
  let supportWindowEnd := days (nextWorkday day) + hours 18 - hours 8
  max (switchedAt + hours 24) supportWindowEnd

-- a switch on a Friday evening, in Shanghai
example : rollbackAssetRetentionDeadline (days 20651 + hours 11) = days 20654 + hours 10 := by decide

/-! ## Operations -/

/-- What an operation raises. -/
inductive OperationFailure where
  /-- `DeploymentActionError`. -/
  | action (errorCode : String)
  /-- `GatewaySwitchError`. -/
  | gatewaySwitch (errorCode : String)
  | other
  deriving DecidableEq

/-- What became of a call. -/
structure Attempt (α : Type) where
  /-- Whether the effect of the operation took place, also where it raised. -/
  tookEffect : Bool
  result : Except OperationFailure α

/-- A call against the world, which the operations read and change. -/
abbrev OperationPort (W α : Type) := W → Attempt α × W

/-- `BlueGreenOperations`, for one request. -/
structure BlueGreenOperations (W : Type) where
  validatePrechecks : OperationPort W Unit
  runLockedExpandMigration : OperationPort W Unit
  startCandidateStandby : OperationPort W Unit
  assertCandidateReady : OperationPort W Unit
  runIsolatedSmoke : OperationPort W Unit
  queueContractsAreBidirectionallyCompatible : OperationPort W Bool
  pauseAdmission : OperationPort W Unit
  resumeAdmission : OperationPort W Unit
  beginOldWorkersDraining : OperationPort W Unit
  waitOldClaimsZero : Nat → OperationPort W Bool
  restoreOldWorkersActive : Nat → OperationPort W Unit
  keepCandidateStandby : OperationPort W Unit
  activateCandidateWorkers : Nat → OperationPort W Int
  runStableOriginSmoke : OperationPort W Unit
  soak : Nat → OperationPort W Unit
  stopOldCompute : OperationPort W Unit
  assertOldApiReady : OperationPort W Unit
  beginCandidateWorkersDraining : OperationPort W Unit
  waitCandidateClaimsZero : Nat → OperationPort W Bool
  fenceCandidateAndWaitForLeaseExpiry : OperationPort W Unit
  activateOldWorkers : Int → OperationPort W Int
  failLostCandidateAttempts : OperationPort W Unit

/-- The operations, by name. -/
inductive Operation where
  | validatePrechecks | runLockedExpandMigration | startCandidateStandby | assertCandidateReady
  | runIsolatedSmoke | queueContractsAreBidirectionallyCompatible | pauseAdmission
  | resumeAdmission | beginOldWorkersDraining | waitOldClaimsZero | restoreOldWorkersActive
  | keepCandidateStandby | activateCandidateWorkers | runStableOriginSmoke | soak | stopOldCompute
  | assertOldApiReady | beginCandidateWorkersDraining | waitCandidateClaimsZero
  | fenceCandidateAndWaitForLeaseExpiry | activateOldWorkers | failLostCandidateAttempts
  | switchGateway (target : DeploymentSlot)
  deriving DecidableEq

/-- A call in the journal; it succeeded if it returned what the choreography asks for. -/
structure OperationCall where
  operation : Operation
  tookEffect : Bool
  succeeded : Bool
  deriving DecidableEq

structure BlueGreenChoreographer (W : Type) where
  operations : BlueGreenOperations W
  /-- `gateway.switch`. -/
  switch : (targetSlot : DeploymentSlot) → (bindingSha256 : String) → (currentGeneration : Int) →
    OperationPort W GatewayRoutingGeneration
  clock : W → Instant × W
  runtime : Runtime
  /-- `str.islower` and `str.isdigit` of a character. -/
  isLower : Char → Bool
  isDigit : Char → Bool

/-! ## The state of `deploy` -/

/-- The local variables of `deploy`. -/
structure Progress where
  candidateStarted : Bool := false
  oldWorkersDraining : Bool := false
  admissionPaused : Bool := false
  gateway : Option GatewayRoutingGeneration := none
  switchedAt : Option Instant := none
  candidateEpoch : Option Int := none

structure DeployState (W : Type) where
  world : W
  steps : List DeploymentStepRecord := []
  progress : Progress := {}
  journal : List OperationCall := []

inductive Interruption where
  /-- `_StepFailed`. -/
  | stepFailed
  /-- A step record that its validator refuses; nothing catches this one. -/
  | invalidRecord
  deriving DecidableEq

variable {W α : Type}

abbrev Action (W α : Type) := Effect (DeployState W) OperationFailure α

abbrev Deploy (W α : Type) := Effect (DeployState W) Interruption α

variable (c : BlueGreenChoreographer W) (request : BlueGreenDeploymentRequest)

/-- Call an operation; `accepts` says whether what it returns is what was asked for. -/
def call (operation : Operation) (port : OperationPort W α) (accepts : α → Bool) : Action W α :=
  fun s =>
    let (attempt, world) := port s.world
    let entry : OperationCall := match attempt.result with
      | .ok a => ⟨operation, attempt.tookEffect, accepts a⟩
      | .error _ => ⟨operation, attempt.tookEffect, false⟩
    (attempt.result, { s with world, journal := s.journal ++ [entry] })

/-- Call an operation that returns nothing. -/
def invoke (operation : Operation) (port : OperationPort W Unit) : Action W Unit :=
  call operation port fun _ => true

/-- `_now`. -/
def now : Deploy W Instant := fun s =>
  let (instant, world) := c.clock s.world
  (.ok instant, { s with world })

/-- `_append_step`. -/
def appendStep (name : DeploymentStepName) (startedAt : Instant) (status : DeploymentStepStatus)
    (errorCode : Option String) : Deploy W Unit := do
  let completedAt ← now c
  let record : DeploymentStepRecord := {
    name, status, deploymentBindingSha256 := request.binding.bindingSha256 c.runtime
    candidateReleaseId := request.binding.releaseId, startedAt, completedAt, errorCode }
  Effect.require (record.valid = true) .invalidRecord
  Effect.modify fun s => { s with steps := s.steps ++ [record] }

/-- The error code that `_run` records for a failure. -/
def OperationFailure.code : OperationFailure → String
  | .action errorCode => errorCode
  | .gatewaySwitch _ | .other => "deployment_operation_failed"

/-- What an action answered, once it has run. -/
def outcome (action : Action W α) : Deploy W (Except OperationFailure α) := fun s =>
  let (result, s) := action s
  (.ok result, s)

/-- `_run`. -/
def run (name : DeploymentStepName) (action : Action W α) : Deploy W α := do
  let startedAt ← now c
  let result ← outcome action
  match result with
  | .ok a => do
    appendStep c request name startedAt .succeeded none
    return a
  | .error failure => do
    appendStep c request name startedAt .failed (some failure.code)
    Effect.raise .stepFailed

/-- `_recover`. -/
def recover (name : DeploymentStepName) (action : Action W α) : Deploy W Bool :=
  Effect.attempt (do
      let _ ← run c request name action
      return true)
    fun
      | .stepFailed => return false
      | .invalidRecord => Effect.raise .invalidRecord

def setProgress (f : Progress → Progress) : Deploy W Unit :=
  Effect.modify fun s => { s with progress := f s.progress }

/-! ## Actions -/

/-- `_require_queue_policy`. -/
def requireQueuePolicy : Action W Bool := do
  let compatible ← call .queueContractsAreBidirectionallyCompatible
    c.operations.queueContractsAreBidirectionallyCompatible id
  Effect.require (compatible = true ∨ request.admissionPauseAuthorized = true)
    (.action "queue_contract_incompatible")
  return compatible

/-- `_require_old_claims_zero`. -/
def requireOldClaimsZero : Action W Unit := do
  let drained ← call .waitOldClaimsZero
    (c.operations.waitOldClaimsZero request.drainTimeoutSeconds) id
  Effect.require (drained = true) (.action "old_claims_drain_timeout")

/-- `_activate_candidate`. -/
def activateCandidate : Action W Int := do
  let epoch ← call .activateCandidateWorkers
    (c.operations.activateCandidateWorkers request.oldActivationEpoch)
    fun epoch => (request.oldActivationEpoch : Int) < epoch
  Effect.require (request.oldActivationEpoch < epoch) (.action "candidate_activation_epoch_not_higher")
  return epoch

/-- The check of `DeploymentActionError(error_code)`. -/
def traceSafe (errorCode : String) : Bool :=
  errorCode ≠ "" && errorCode.length ≤ 128 &&
    errorCode.toList.all fun ch =>
      c.isLower ch || c.isDigit ch || ch = '.' || ch = '_' || ch = '-'

/-- Whether a generation is the one that a switch was asked for. -/
def isRequested (targetSlot : DeploymentSlot) (currentGeneration : Int)
    (result : GatewayRoutingGeneration) : Bool :=
  result.slot = targetSlot ∧ (result.generation : Int) = currentGeneration + 1 ∧
    result.deploymentBindingSha256 = request.binding.bindingSha256 c.runtime

/-- `_switch_gateway`. A code that is not trace-safe raises a `ValueError` instead. -/
def switchGateway (targetSlot : DeploymentSlot) (currentGeneration : Int) :
    Action W GatewayRoutingGeneration := do
  let result ← Effect.attempt
    (call (.switchGateway targetSlot)
      (c.switch targetSlot (request.binding.bindingSha256 c.runtime) currentGeneration)
      (isRequested c request targetSlot currentGeneration))
    fun
      | .gatewaySwitch errorCode =>
        Effect.raise (if traceSafe c errorCode then .action errorCode else .other)
      | failure => Effect.raise failure
  Effect.require (isRequested c request targetSlot currentGeneration result = true)
    (.action "gateway_generation_mismatch")
  return result

/-! ## Aborting and rolling back -/

/-- A recovery step that is only needed if `needed`. -/
def recoverIf (needed : Bool) (name : DeploymentStepName) (action : Action W Unit) :
    Deploy W Bool :=
  if needed then recover c request name action else return true

/-- `_abort_before_switch`. -/
def abortBeforeSwitch (p : Progress) : Deploy W Bool := do
  let restored ← recoverIf c request p.oldWorkersDraining .abortOldWorkersActive
    (invoke .restoreOldWorkersActive
      (c.operations.restoreOldWorkersActive request.oldActivationEpoch))
  let standby ← recoverIf c request p.candidateStarted .abortCandidateStandby
    (invoke .keepCandidateStandby c.operations.keepCandidateStandby)
  let resumed ← recoverIf c request p.admissionPaused .resumeAdmission
    (invoke .resumeAdmission c.operations.resumeAdmission)
  return restored && standby && resumed

/-- `route_old`, with the generation that it leaves behind. -/
def routeOld (currentGeneration : Int) : Deploy W (Bool × Option GatewayRoutingGeneration) :=
  Effect.attempt (do
      let gateway ← run c request .rollbackGateway
        (switchGateway c request request.oldSlot currentGeneration)
      return (true, some gateway))
    fun
      | .stepFailed => return (false, none)
      | .invalidRecord => Effect.raise .invalidRecord

/-- `wait_candidate`. -/
def waitCandidate : Action W Unit := do
  let drained ← call .waitCandidateClaimsZero
    (c.operations.waitCandidateClaimsZero request.drainTimeoutSeconds) id
  Effect.require (drained = true) (.action "candidate_claims_drain_timeout")

/-- `activate_old`. -/
def activateOld (authorityEpoch : Int) : Action W Unit := do
  let epoch ← call .activateOldWorkers (c.operations.activateOldWorkers authorityEpoch)
    fun epoch => authorityEpoch < epoch
  Effect.require (authorityEpoch < epoch) (.action "rollback_activation_epoch_not_higher")

/-- The wait for the candidate's claims, if its drain has begun. -/
def drainCandidate (drainStarted : Bool) : Deploy W Bool :=
  if drainStarted then
    recover c request .rollbackCandidateClaimsZero (waitCandidate c request)
  else return false

/-- `_rollback_after_switch`. -/
def rollbackAfterSwitch (currentGeneration authorityEpoch : Int) (admissionPaused : Bool) :
    Deploy W (Bool × Option GatewayRoutingGeneration) := do
  let ready ← recover c request .rollbackOldApiReadiness
    (invoke .assertOldApiReady c.operations.assertOldApiReady)
  let (routed, rollbackGateway) ← routeOld c request currentGeneration
  let drainStarted ← recover c request .rollbackCandidateDraining
    (invoke .beginCandidateWorkersDraining c.operations.beginCandidateWorkersDraining)
  let drained ← drainCandidate c request drainStarted
  let fenced ← recoverIf c request (!drained) .rollbackCandidateFenced
    (invoke .fenceCandidateAndWaitForLeaseExpiry c.operations.fenceCandidateAndWaitForLeaseExpiry)
  let activated ← recover c request .rollbackOldActivation (activateOld c authorityEpoch)
  let failed ← recover c request .rollbackFailLostAttempts
    (invoke .failLostCandidateAttempts c.operations.failLostCandidateAttempts)
  let resumed ← recoverIf c request admissionPaused .resumeAdmission
    (invoke .resumeAdmission c.operations.resumeAdmission)
  return (ready && routed && drainStarted && fenced && activated && failed && resumed,
    rollbackGateway)

/-! ## `deploy` -/

/-- The steps before the gateway switch. -/
def beforeSwitch : Deploy W Unit := do
  run c request .validatePrechecks
    (invoke .validatePrechecks c.operations.validatePrechecks)
  run c request .lockedExpandMigration
    (invoke .runLockedExpandMigration c.operations.runLockedExpandMigration)
  run c request .startCandidateStandby
    (invoke .startCandidateStandby c.operations.startCandidateStandby)
  setProgress fun p => { p with candidateStarted := true }
  run c request .candidateReadiness
    (invoke .assertCandidateReady c.operations.assertCandidateReady)
  run c request .isolatedSmoke
    (invoke .runIsolatedSmoke c.operations.runIsolatedSmoke)
  let compatible ← run c request .bidirectionalQueueContract (requireQueuePolicy c request)
  if compatible then return ()
  else do
    run c request .pauseAdmission
      (invoke .pauseAdmission c.operations.pauseAdmission)
    setProgress fun p => { p with admissionPaused := true }

/-- The drain of the old workers and the gateway switch. -/
def switchToCandidate : Deploy W Unit := do
  run c request .oldWorkersDraining
    (invoke .beginOldWorkersDraining c.operations.beginOldWorkersDraining)
  setProgress fun p => { p with oldWorkersDraining := true }
  run c request .oldClaimsZero (requireOldClaimsZero c request)
  let gateway ← run c request .gatewaySwitch
    (switchGateway c request request.candidateSlot request.activeGatewayGeneration)
  setProgress fun p => { p with gateway := some gateway }
  let switchedAt ← now c
  setProgress fun p => { p with switchedAt := some switchedAt }

/-- The steps after the gateway switch. -/
def afterSwitch : Deploy W Unit := do
  let epoch ← run c request .candidateActivation (activateCandidate c request)
  setProgress fun p => { p with candidateEpoch := some epoch }
  run c request .stableOriginSmoke
    (invoke .runStableOriginSmoke c.operations.runStableOriginSmoke)
  run c request .soak (invoke .soak (c.operations.soak request.soakSeconds))
  run c request .stopOldCompute (invoke .stopOldCompute c.operations.stopOldCompute)
  let s ← Effect.read
  if s.progress.admissionPaused then
    run c request .resumeAdmission (invoke .resumeAdmission c.operations.resumeAdmission)
  else return ()

/-- `_result`. -/
def result (outcome : DeploymentOutcome) (gateway : Option GatewayRoutingGeneration)
    (candidateEpoch : Option Int) (switchedAt : Option Instant) :
    Deploy W BlueGreenDeploymentResult := do
  let s ← Effect.read
  return {
    outcome, deploymentBindingSha256 := request.binding.bindingSha256 c.runtime, steps := s.steps
    gatewayGeneration := gateway.map (·.generation)
    candidateActivationEpoch := candidateEpoch.map Int.toNat, switchedAt
    retentionUntil := switchedAt.map rollbackAssetRetentionDeadline }

/-- The handler of `_StepFailed`. -/
def contain : Deploy W BlueGreenDeploymentResult := do
  let s ← Effect.read
  let p := s.progress
  match p.gateway with
  | none => do
    let abortOk ← abortBeforeSwitch c request p
    result c request (if abortOk then .aborted else .abortFailed) none none none
  | some gateway => do
    let (rollbackOk, rollbackGateway) ← rollbackAfterSwitch c request gateway.generation
      (p.candidateEpoch.getD request.oldActivationEpoch) p.admissionPaused
    result c request (if rollbackOk then .rolledBack else .rollbackFailed)
      (rollbackGateway.or (some gateway)) p.candidateEpoch p.switchedAt

def deploy : Deploy W BlueGreenDeploymentResult :=
  Effect.attempt (do
      beforeSwitch c request
      switchToCandidate c request
      afterSwitch c request
      let s ← Effect.read
      result c request .deployed s.progress.gateway s.progress.candidateEpoch
        s.progress.switchedAt)
    fun
      | .stepFailed => contain c request
      | .invalidRecord => Effect.raise .invalidRecord

/-! ## A small deployment -/

namespace Sample

/-- An operation that takes effect and returns, unless it is one of those that raise. -/
def answer (raising : List Operation) (operation : Operation) (value : α) : OperationPort Unit α :=
  fun w => if operation ∈ raising then (⟨false, .error .other⟩, w) else (⟨true, .ok value⟩, w)

def operations (raising : List Operation) : BlueGreenOperations Unit where
  validatePrechecks := answer raising .validatePrechecks ()
  runLockedExpandMigration := answer raising .runLockedExpandMigration ()
  startCandidateStandby := answer raising .startCandidateStandby ()
  assertCandidateReady := answer raising .assertCandidateReady ()
  runIsolatedSmoke := answer raising .runIsolatedSmoke ()
  queueContractsAreBidirectionallyCompatible :=
    answer raising .queueContractsAreBidirectionallyCompatible true
  pauseAdmission := answer raising .pauseAdmission ()
  resumeAdmission := answer raising .resumeAdmission ()
  beginOldWorkersDraining := answer raising .beginOldWorkersDraining ()
  waitOldClaimsZero _ := answer raising .waitOldClaimsZero true
  restoreOldWorkersActive _ := answer raising .restoreOldWorkersActive ()
  keepCandidateStandby := answer raising .keepCandidateStandby ()
  activateCandidateWorkers epoch := answer raising .activateCandidateWorkers (epoch + 1)
  runStableOriginSmoke := answer raising .runStableOriginSmoke ()
  soak _ := answer raising .soak ()
  stopOldCompute := answer raising .stopOldCompute ()
  assertOldApiReady := answer raising .assertOldApiReady ()
  beginCandidateWorkersDraining := answer raising .beginCandidateWorkersDraining ()
  waitCandidateClaimsZero _ := answer raising .waitCandidateClaimsZero true
  fenceCandidateAndWaitForLeaseExpiry := answer raising .fenceCandidateAndWaitForLeaseExpiry ()
  activateOldWorkers epoch := answer raising .activateOldWorkers (epoch + 1)
  failLostCandidateAttempts := answer raising .failLostCandidateAttempts ()

def choreographer (operations : BlueGreenOperations Unit) : BlueGreenChoreographer Unit where
  operations
  switch target binding generation w :=
    (⟨true, .ok ⟨(generation + 1).toNat, target, binding, "include"⟩⟩, w)
  clock w := (0, w)
  runtime := ProofAgent.Sample.runtime
  isLower ch := 'a' ≤ ch && ch ≤ 'z'
  isDigit ch := '0' ≤ ch && ch ≤ '9'

def release : BlueGreenDeploymentRequest where
  binding := ⟨"release-1", "registry/proof-agent", "manifest", "migrations", "0011"⟩
  oldSlot := .blue
  candidateSlot := .green
  oldActivationEpoch := 7
  activeGatewayGeneration := 12
  epoch_positive := by decide
  generation_positive := by decide
  drain_timeout := by decide
  soak := rfl
  distinct_slots := by decide

end Sample

end ProofAgent.Deployment
