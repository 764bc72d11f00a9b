import ProofAgent.Control.ArtifactFinalization
import ProofAgent.System

/-! # The run executor

`RunExecutor._execute_claim` runs one claimed attempt: it looks for a cancellation, calls the
handler, looks again, marks the run as finalizing, uploads the artifacts and commits. Each of
these is a transaction of its own, and what it raises is handled by the kind of exception. The
journal is a ghost: it has the executor's readings of the clock, its commands with the database
that they met, and the cancellations that were requested of the run. -/
namespace ProofAgent

open Base

/-- What `_execute_claim` may catch. -/
inductive ExecutorException where
  | runExecutionCancelled (message : String)
  | runExecutionTimedOut (message : String)
  | repository (e : Error)
  | finalizer (e : FinalizerError)
  /-- Any other exception of the handler. -/
  | handler (message : String)
  deriving DecidableEq

/-- The executor's commands to the queue. -/
inductive ExecutorCommand where
  | markFinalizing | commitSuccess
  | commitTerminalFailure (target : RunLifecycleState)
  deriving DecidableEq

inductive ExecutorEvent where
  | clockRead (now : Instant)
  | commanded (command : ExecutorCommand) (now : Instant) (before : Database)
  | handlerRaised (e : ExecutorException)
  /-- `request_cancel` returned the run in the state `CANCEL_REQUESTED`. -/
  | cancelRequested

/-- What an executor and those around it share; `outer` is what the handler and the store work on. -/
structure ExecutorWorld (W : Type) where
  db : Database
  clock : Instant
  outer : W
  journal : List ExecutorEvent

structure RunWorkResult where
  members : List ArtifactMemberPayload
  receiptOutcome : Option ReceiptOutcome := none
  conversationTurn : Option ConversationTurn := none
  expectedConversationTurnCount : Option Nat := none
  workflowTaskUpdate : Option WorkflowTaskUpdate := none

variable {W α : Type}

/-- A handler at work: it ends, or does something outside of the queue, or calls the cancellation
check and goes on with what that returned or raised. -/
inductive Handling (W α : Type) where
  | done (result : Except ExecutorException α)
  | act (write : ExecutorWorld W → W) (next : ExecutorWorld W → Handling W α)
  | check (next : Except ExecutorException Unit → Handling W α)

/-- A computation of the executor. -/
abbrev Execution (W : Type) : Type → Type := Process (ExecutorWorld W) ExecutorException

def Handling.run (check : Execution W Unit) : Handling W α → Execution W α
  | .done result => .done result
  | .act write next => .step (fun s => { s with outer := write s }) fun s => (next s).run check
  | .check next => check.caught >>= fun result => (next result).run check

def ExecutorWorld.log (e : ExecutorEvent) (s : ExecutorWorld W) : ExecutorWorld W :=
  { s with journal := s.journal ++ [e] }

/-- A store that works on what is outside of the queue. -/
def ArtifactStore.outer (store : ArtifactStore W) : ArtifactStore (ExecutorWorld W) where
  putImmutable request content :=
    .focus (·.outer) (fun s outer => { s with outer }) (store.putImmutable request content)
  headExact ref := .focus (·.outer) (fun s outer => { s with outer }) (store.headExact ref)
  openExact ref := .focus (·.outer) (fun s outer => { s with outer }) (store.openExact ref)

namespace RunExecutor

variable (rt : Runtime) (library : ArtifactLibrary) (store : ArtifactStore W)
  (handler : RunClaim → Handling W RunWorkResult) (manifestId : String) (claim : RunClaim)

/-- `_now`. -/
def now : Execution W Instant :=
  .step (fun s => s.log (.clockRead s.clock)) fun s => .done (.ok s.clock)

/-- The finalizer's clock. -/
def finalizerClock : Execution W Instant := .step id fun s => .done (.ok s.clock)

/-- `self._repository.get(...)`. -/
def get : Execution W (Option RunQueueRecord) :=
  .step id fun s =>
    .done ((RunQueueRepository.get rt claim.runRequest.runId s.db).mapError .repository)

/-- The database after a command. -/
def commandedDb (x : Except Error (Except Error α × Database)) (db : Database) : Database :=
  match x with
  | .ok (_, db') => db'
  | .error _ => db

/-- What a command returns or raises; a contract that is built after the transaction may raise
when its writes are already there. -/
def commandResult (x : Except Error (Except Error α × Database)) : Except ExecutorException α :=
  match x with
  | .ok (.ok a, _) => .ok a
  | .ok (.error e, _) | .error e => .error (.repository e)

/-- A command to the queue. -/
def command (kind : ExecutorCommand) (now : Instant)
    (x : Database → Except Error (Except Error α × Database)) : Execution W α :=
  .step (fun s => { s.log (.commanded kind now s.db) with db := commandedDb (x s.db) s.db })
    fun s => .done (commandResult (x s.db))

/-- A command whose result is built inside its transaction. -/
def inside (x : Except Error (α × Database)) : Except Error (Except Error α × Database) :=
  x.map fun r => (.ok r.1, r.2)

/-- `_check_cancellation_or_deadline`. -/
def checkCancellationOrDeadline : Execution W Unit := do
  let now ← now
  if claim.attempt.deadlineAt ≤ now then
    .raise (.runExecutionTimedOut "Run Attempt deadline exceeded")
  else do
    let current ← get rt claim
    match current with
    | none => .raise (.repository (.runClaimRejected "Run disappeared during execution"))
    | some record =>
      if record.state = .cancelRequested ∨ record.state = .cancelled then
        .raise (.runExecutionCancelled "Run cancellation requested")
      else if record.state.isTerminal then
        .raise (.repository (.runClaimRejected "Run is already terminal"))
      else pure ()

/-- `_terminal_best_effort`. -/
def terminalBestEffort (target : RunLifecycleState) (code : RunFailureCode) : Execution W Unit :=
  let commit : Execution W RunQueueRecord := do
    let now ← now
    command (.commitTerminalFailure target) now fun db =>
      inside (RunQueueRepository.commitTerminalFailure rt claim target { code } now db)
  commit.caught >>= fun result =>
    match result with
    | .ok _ => pure ()
    | .error (.repository (.runClaimRejected _)) => pure ()
    | .error (.repository (.value _)) => pure ()
    | .error e => .raise e

/-- Call the handler; what it raises is noted. -/
def handle : Execution W RunWorkResult :=
  ((handler claim).run (checkCancellationOrDeadline rt claim)).caught >>= fun result =>
    match result with
    | .ok handled => pure handled
    | .error e => .step (·.log (.handlerRaised e)) fun _ => .raise e

/-- What is tried before the run is finalizing. -/
def work : Execution W (RunWorkResult × RunClaim) := do
  checkCancellationOrDeadline rt claim
  let handled ← handle rt handler claim
  checkCancellationOrDeadline rt claim
  let now ← now
  let finalized ← command .markFinalizing now (RunQueueRepository.markFinalizing rt claim now)
  return (handled, finalized)

/-- What is tried of a finalizing run. -/
def finish (handled : RunWorkResult) (finalized : RunClaim) : Execution W Unit := do
  let prepared ← ArtifactBundleFinalizer.prepare library store.outer .finalizer finalizerClock
    (checkCancellationOrDeadline rt claim) ⟨"run_attempt", claim.attempt.attemptId⟩ manifestId
    handled.members
  checkCancellationOrDeadline rt claim
  let now ← now
  let _ ← command .commitSuccess now fun db =>
    inside (RunQueueRepository.commitSuccess rt finalized
      { manifest := prepared.manifest
        manifestRef := prepared.manifestRef
        receiptOutcome := handled.receiptOutcome
        conversationTurn := handled.conversationTurn
        expectedConversationTurnCount := handled.expectedConversationTurnCount
        workflowTaskUpdate := handled.workflowTaskUpdate } now db)
  return ()

/-- The `except` branches. -/
def recover (finalizing : Bool) : ExecutorException → Execution W Unit
  | .runExecutionCancelled _ => terminalBestEffort rt claim .cancelled .cancelled
  | .runExecutionTimedOut _ => terminalBestEffort rt claim .timedOut .deadlineExceeded
  | .repository (.runClaimRejected _) => do
    let current ← get rt claim
    if current.any (fun record => record.state = .cancelRequested) then
      terminalBestEffort rt claim .cancelled .cancelled
    else pure ()
  | _ => terminalBestEffort rt claim .failed
    (if finalizing then .finalizationFailed else .executionFailed)

/-- `_execute_claim`. -/
def executeClaim : Execution W Unit :=
  (work rt handler claim).caught >>= fun worked =>
    match worked with
    | .error e => recover rt claim false e
    | .ok (handled, finalized) =>
      (finish rt library store manifestId claim handled finalized).caught >>= fun finished =>
        match finished with
        | .error e => recover rt claim true e
        | .ok _ => pure ()

end RunExecutor

end ProofAgent
