import ProofAgent.Contracts.Platform

/-! # The budget of a run

One ledger counts what all roles of a run consume. A model call is charged its
reservation before it starts and its usage once that is known. The clock's
readings, the differences between them and the fresh identifiers are arguments. -/
namespace ProofAgent

open Base

/-- What the ledger takes from the floating-point unit. `none` is an infinity. -/
structure ClockArithmetic where
  add : PyFloat → PyFloat → Option PyFloat
  sub : PyFloat → PyFloat → Option PyFloat
  /-- Adding what is not negative makes no float smaller. -/
  le_add : ∀ x y z : PyFloat, y.nonneg = true → add x y = some z → z.lt x = false
  /-- A difference is positive if its sides are in order: there is no underflow. -/
  sub_pos : ∀ x y : PyFloat, x.nonneg = true → x.lt y = true →
    ∃ z, sub y x = some z ∧ PyFloat.zero.lt z = true

inductive BudgetReason where
  | modelCallsExhausted | retrievalCallsExhausted | toolCallsExhausted | tokenBudgetExhausted
  | activeTimeExhausted
  deriving DecidableEq

inductive BudgetError where
  | value (message : String)
  | exceeded (reason : BudgetReason)
  deriving DecidableEq

/-- `WorkflowBudget`. -/
structure WorkflowBudget where
  maxModelCalls : Nat := 16
  maxRetrievalCalls : Nat := 5
  maxToolCalls : Nat := 4
  maxTotalTokens : Nat := 262144
  reservedOutputTokens : Nat := 65536
  maxActiveSeconds : Nat := 600
  model_calls : 2 ≤ maxModelCalls ∧ maxModelCalls ≤ 128 := by decide
  retrieval_calls : 1 ≤ maxRetrievalCalls ∧ maxRetrievalCalls ≤ 32 := by decide
  tool_calls : maxToolCalls ≤ 8 := by decide
  total_tokens : 512 ≤ maxTotalTokens ∧ maxTotalTokens ≤ 1000000 := by decide
  reserved_tokens : 64 ≤ reservedOutputTokens ∧ reservedOutputTokens ≤ 131072 := by decide
  active_seconds : 1 ≤ maxActiveSeconds ∧ maxActiveSeconds ≤ 1800 := by decide
  reserve_fits : reservedOutputTokens < maxTotalTokens := by decide

/-- `max_active_seconds` as a float. -/
def WorkflowBudget.maxSeconds (budget : WorkflowBudget) : PyFloat :=
  PyFloat.ofDecimal false budget.maxActiveSeconds 0

structure ModelReservation where
  reservationId : String
  inputTokens : Nat
  maxOutputTokens : Nat
  timeoutSeconds : PyFloat
  deriving DecidableEq

def ModelReservation.tokens (r : ModelReservation) : Nat := r.inputTokens + r.maxOutputTokens

/-- `TokenUsage`. -/
structure TokenUsage where
  inputTokens : Int
  outputTokens : Int
  totalTokens : Option Int := none
  deriving DecidableEq

/-- The mapping that a snapshot returns and a restore takes. -/
structure LedgerUsage where
  modelCalls : Int := 0
  retrievalCalls : Int := 0
  toolCalls : Int := 0
  tokens : Option Int := some 0
  /-- `none` is an infinity. -/
  activeSeconds : Option PyFloat := some .zero
  unknownModelCalls : Int := 0
  deriving DecidableEq

structure WorkflowBudgetLedger where
  budget : WorkflowBudget
  started : PyFloat
  modelCalls : Nat
  retrievalCalls : Nat
  toolCalls : Nat
  tokens : Int
  unknownModelCalls : Nat
  priorActiveSeconds : PyFloat
  pending : List (String × ModelReservation)
  used : Bool
  restored : Bool

/-- `_counter`. -/
def counter (value : Int) : Except BudgetError Nat :=
  if 0 ≤ value then .ok value.toNat
  else .error (.value "budget counters must be nonnegative integers")

/-- `_actual_usage_tokens`. -/
def actualUsageTokens : Option TokenUsage → Option Int
  | none => none
  | some usage =>
    if usage.inputTokens < 0 ∨ usage.outputTokens < 0 ∨ usage.totalTokens.any (· < 0) then none
    else
      let total := max (usage.inputTokens + usage.outputTokens) (usage.totalTokens.getD 0)
      if 0 < total then some total else none

namespace WorkflowBudgetLedger

/-- An unknown token count is no capacity. -/
def restoredTokens (budget : WorkflowBudget) : Option Int → Except BudgetError Nat
  | none => .ok budget.maxTotalTokens
  | some tokens => counter tokens

/-- `WorkflowBudgetLedger(budget, usage=usage)`, when the clock shows `now`. -/
def make (budget : WorkflowBudget) (usage : Option LedgerUsage) (now : PyFloat) :
    Except BudgetError WorkflowBudgetLedger := do
  let previous := usage.getD {}
  let modelCalls ← counter previous.modelCalls
  let retrievalCalls ← counter previous.retrievalCalls
  let toolCalls ← counter previous.toolCalls
  let tokens ← restoredTokens budget previous.tokens
  let unknownModelCalls ← counter previous.unknownModelCalls
  let elapsed ← orRaise (previous.activeSeconds.filter fun x => x.nonneg)
    (.value "active_seconds must be a finite nonnegative number")
  return {
    budget, started := now, modelCalls, retrievalCalls, toolCalls, tokens, unknownModelCalls
    priorActiveSeconds := elapsed, pending := [], used := false, restored := usage.isSome }

def restoreUsage (ledger : WorkflowBudgetLedger) (usage : LedgerUsage) (now : PyFloat) :
    Except BudgetError WorkflowBudgetLedger := do
  let restored ← make ledger.budget (some usage) now
  require (ledger.used = false ∧ ledger.restored = false)
    (.value "workflow budget usage can only be restored before first use")
  return { ledger with
    modelCalls := restored.modelCalls
    retrievalCalls := restored.retrievalCalls
    toolCalls := restored.toolCalls
    tokens := restored.tokens
    unknownModelCalls := restored.unknownModelCalls
    priorActiveSeconds := restored.priorActiveSeconds
    started := restored.started
    restored := true }

/-- `max(0.0, clock() - started)`; `none` is an infinity. -/
def sinceStart (ca : ClockArithmetic) (ledger : WorkflowBudgetLedger) (now : PyFloat) :
    Option PyFloat :=
  (ca.sub now ledger.started).map fun d => if PyFloat.zero.lt d then d else .zero

/-- `elapsed_seconds`; `none` is an infinity. -/
def elapsedSeconds (ca : ClockArithmetic) (ledger : WorkflowBudgetLedger) (now : PyFloat) :
    Option PyFloat :=
  (ledger.sinceStart ca now).bind (ca.add ledger.priorActiveSeconds)

def snapshot (ca : ClockArithmetic) (ledger : WorkflowBudgetLedger) (now : PyFloat) :
    LedgerUsage where
  modelCalls := ledger.modelCalls
  retrievalCalls := ledger.retrievalCalls
  toolCalls := ledger.toolCalls
  tokens := some ledger.tokens
  activeSeconds := ledger.elapsedSeconds ca now
  unknownModelCalls := ledger.unknownModelCalls + ledger.pending.length

/-- `elapsed_seconds < max_active_seconds`. -/
def inTime (ca : ClockArithmetic) (ledger : WorkflowBudgetLedger) (now : PyFloat) : Bool :=
  (ledger.elapsedSeconds ca now).any fun x => x.lt ledger.budget.maxSeconds

/-- `_ensure_available`. -/
def ensureAvailable (ca : ClockArithmetic) (ledger : WorkflowBudgetLedger) (now : PyFloat) :
    Except BudgetError Unit := do
  require (ledger.inTime ca now = true) (.exceeded .activeTimeExhausted)
  require (ledger.tokens < ledger.budget.maxTotalTokens) (.exceeded .tokenBudgetExhausted)

/-- The arguments of `reserve_model`. -/
structure ReserveArguments where
  estimatedInputTokens : Int
  maxOutputTokens : Option Int := none
  timeoutSeconds : Option PyFloat := none

/-- The output tokens that a call may reserve. -/
def outputTokens (budget : WorkflowBudget) : Option Int → Except BudgetError Nat
  | none => .ok budget.reservedOutputTokens
  | some n => do
    let n ← counter n
    require (n ≠ 0) (.value "max_output_tokens must be positive")
    return min budget.reservedOutputTokens n

/-- `min(timeout_seconds or remaining_time, remaining_time)`. -/
def timeout (requested : Option PyFloat) (remaining : PyFloat) : PyFloat :=
  match requested with
  | none => remaining
  | some t => if remaining.lt t then remaining else t

/-- `pending[id] = reservation`. -/
def putPending (pending : List (String × ModelReservation)) (r : ModelReservation) :
    List (String × ModelReservation) :=
  (pending.filter fun p => p.1 ≠ r.reservationId) ++ [(r.reservationId, r)]

/-- `reserve_model`, when the clock shows `now` at the check and `later` at the remaining time. -/
def reserveModel (ca : ClockArithmetic) (ledger : WorkflowBudgetLedger) (a : ReserveArguments)
    (now later : PyFloat) (reservationId : String) :
    Except BudgetError (ModelReservation × WorkflowBudgetLedger) := do
  let estimated ← counter a.estimatedInputTokens
  let inputTokens := max 1 estimated
  let output ← outputTokens ledger.budget a.maxOutputTokens
  require (a.timeoutSeconds.all fun t => PyFloat.zero.lt t)
    (.value "timeout_seconds must be finite and positive")
  ledger.ensureAvailable ca now
  require (ledger.modelCalls < ledger.budget.maxModelCalls) (.exceeded .modelCallsExhausted)
  require (ledger.tokens + inputTokens + output ≤ ledger.budget.maxTotalTokens)
    (.exceeded .tokenBudgetExhausted)
  let elapsed ← orRaise (ledger.elapsedSeconds ca later) (.exceeded .activeTimeExhausted)
  let remaining ← orRaise
    ((ca.sub ledger.budget.maxSeconds elapsed).filter fun x => PyFloat.zero.lt x)
    (.exceeded .activeTimeExhausted)
  let reservation : ModelReservation :=
    { reservationId, inputTokens, maxOutputTokens := output,
      timeoutSeconds := timeout a.timeoutSeconds remaining }
  return (reservation, { ledger with
    modelCalls := ledger.modelCalls + 1
    used := true
    tokens := ledger.tokens + reservation.tokens
    pending := putPending ledger.pending reservation })

def completeModel (ledger : WorkflowBudgetLedger) (reservation : ModelReservation)
    (usage : Option TokenUsage) : Except BudgetError WorkflowBudgetLedger := do
  require (ledger.pending.lookup reservation.reservationId = some reservation)
    (.value "unknown or completed model reservation")
  let pending := ledger.pending.filter fun p => p.1 ≠ reservation.reservationId
  match actualUsageTokens usage with
  | none => return { ledger with unknownModelCalls := ledger.unknownModelCalls + 1, pending }
  | some actual =>
    return { ledger with tokens := ledger.tokens + actual - reservation.tokens, pending }

def consumeRetrieval (ca : ClockArithmetic) (ledger : WorkflowBudgetLedger) (now : PyFloat) :
    Except BudgetError WorkflowBudgetLedger := do
  ledger.ensureAvailable ca now
  require (ledger.retrievalCalls < ledger.budget.maxRetrievalCalls)
    (.exceeded .retrievalCallsExhausted)
  return { ledger with retrievalCalls := ledger.retrievalCalls + 1, used := true }

def consumeTool (ca : ClockArithmetic) (ledger : WorkflowBudgetLedger) (now : PyFloat) :
    Except BudgetError WorkflowBudgetLedger := do
  ledger.ensureAvailable ca now
  require (ledger.toolCalls < ledger.budget.maxToolCalls) (.exceeded .toolCallsExhausted)
  return { ledger with toolCalls := ledger.toolCalls + 1, used := true }

end WorkflowBudgetLedger

end ProofAgent
