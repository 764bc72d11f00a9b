import ProofAgent.Base.History
import ProofAgent.Base.Reservations
import ProofAgent.Control.ExecutionBudget

/-! # The ledger's accounts

A client keeps a log of what the ledger granted it and of what it reported back.
Over any sequence of calls, crashes included, the ledger's token count is the
balance of the account that the log describes. -/
namespace ProofAgent

open Base

/-! ## Calls and lives -/

inductive LedgerCall where
  | reserveModel (arguments : WorkflowBudgetLedger.ReserveArguments) (now later : PyFloat)
      (reservationId : String)
  | completeModel (reservation : ModelReservation) (usage : Option TokenUsage)
  | consumeRetrieval (now : PyFloat)
  | consumeTool (now : PyFloat)
  /-- The ledger is snapshotted and discarded, and its snapshot is restored into a new ledger
  when the clock shows `later`; the token count may have become unknown. -/
  | restart (now later : PyFloat) (unknownTokens : Bool)

/-- What a restart restores. -/
def restartUsage (ca : ClockArithmetic) (ledger : WorkflowBudgetLedger) (now : PyFloat)
    (unknownTokens : Bool) : LedgerUsage :=
  let usage := ledger.snapshot ca now
  if unknownTokens then { usage with tokens := none } else usage

/-- How a ledger answers a call; a reservation is the reply to `reserve_model`. -/
def ledgerService (ca : ClockArithmetic) :
    Service WorkflowBudgetLedger LedgerCall (Option ModelReservation) BudgetError
  | .reserveModel a now later reservationId, ledger => do
    let (reservation, ledger) ← ledger.reserveModel ca a now later reservationId
    return (some reservation, ledger)
  | .completeModel reservation usage, ledger => do
    return (none, ← ledger.completeModel reservation usage)
  | .consumeRetrieval now, ledger => do return (none, ← ledger.consumeRetrieval ca now)
  | .consumeTool now, ledger => do return (none, ← ledger.consumeTool ca now)
  | .restart now later unknownTokens, ledger => do
    let new ← WorkflowBudgetLedger.make ledger.budget none later
    return (none, ← new.restoreUsage (restartUsage ca ledger now unknownTokens) later)

/-! ## The log -/

structure LedgerLog where
  /-- The token count that the present life began with. -/
  opening : Int
  settled : List (ModelReservation × Option TokenUsage) := []
  outstanding : List ModelReservation := []
  /-- The granted calls of all lives. -/
  modelCalls : Nat := 0
  retrievalCalls : Nat := 0
  toolCalls : Nat := 0

/-- What a settled call is charged: its usage, or its reservation when that is unknown. -/
def settledTokens (settled : ModelReservation × Option TokenUsage) : Int :=
  (actualUsageTokens settled.2).getD settled.1.tokens

/-- Note a call that returned; `ledger` is the ledger before it. -/
def LedgerLog.note (log : LedgerLog) (ledger : WorkflowBudgetLedger) :
    LedgerCall → Option ModelReservation → LedgerLog
  | .reserveModel .., reply =>
    { log with
      outstanding := log.outstanding ++ reply.toList, modelCalls := log.modelCalls + 1 }
  | .completeModel reservation usage, _ =>
    { log with
      settled := log.settled ++ [(reservation, usage)]
      outstanding := log.outstanding.filter fun r => r.reservationId ≠ reservation.reservationId }
  | .consumeRetrieval _, _ => { log with retrievalCalls := log.retrievalCalls + 1 }
  | .consumeTool _, _ => { log with toolCalls := log.toolCalls + 1 }
  | .restart _ _ unknownTokens, _ =>
    { log with
      opening := if unknownTokens then ledger.budget.maxTotalTokens else ledger.tokens
      settled := [], outstanding := [] }

/-- One call on a ledger and its log; a call that raises changes neither. -/
def loggedStep (ca : ClockArithmetic) (s : WorkflowBudgetLedger × LedgerLog) (call : LedgerCall) :
    WorkflowBudgetLedger × LedgerLog :=
  match ledgerService ca call s.1 with
  | .ok (reply, ledger) => (ledger, s.2.note s.1 call reply)
  | .error _ => s

def logged (ca : ClockArithmetic) (s : WorkflowBudgetLedger × LedgerLog)
    (calls : List LedgerCall) : WorkflowBudgetLedger × LedgerLog :=
  calls.foldl (loggedStep ca) s

/-- The ledger of a logged history is the ledger of the history. -/
theorem logged_fst (ca : ClockArithmetic) : ∀ (calls : List LedgerCall)
    (s : WorkflowBudgetLedger × LedgerLog),
    (logged ca s calls).1 = after (ledgerService ca) s.1 calls
  | [], _ => rfl
  | call :: calls, s => by
    have hstep : (loggedStep ca s call).1 = step (ledgerService ca) s.1 call := by
      unfold loggedStep step
      cases ledgerService ca call s.1 <;> rfl
    rw [after_cons, ← hstep, ← logged_fst ca calls]
    rfl

/-! ## The ledger refines an account -/

/-- The identifiers under which the log's reservations are held. -/
def LedgerLog.ids (log : LedgerLog) : List String := log.outstanding.map (·.reservationId)

/-- The account that a log describes. -/
def LedgerLog.account (log : LedgerLog) (h : log.ids.Nodup) : Account String where
  opening := log.opening
  charges := log.settled.map settledTokens
  holds := log.outstanding.map fun r => (r.reservationId, (r.tokens : Int))
  distinct := by rw [List.map_map]; exact h

/-- The pending table of a ledger, from the reservations that are outstanding. -/
def pendingOf (outstanding : List ModelReservation) : List (String × ModelReservation) :=
  outstanding.map fun r => (r.reservationId, r)

/-- The ledger stands as its log says. -/
structure Tracks (ledger : WorkflowBudgetLedger) (log : LedgerLog) : Prop where
  ids : log.ids.Nodup
  pending : ledger.pending = pendingOf log.outstanding
  tokens : ledger.tokens = (log.account ids).balance
  modelCalls : ledger.modelCalls = log.modelCalls ∧ log.modelCalls ≤ ledger.budget.maxModelCalls
  retrievalCalls : ledger.retrievalCalls = log.retrievalCalls ∧
    log.retrievalCalls ≤ ledger.budget.maxRetrievalCalls
  toolCalls : ledger.toolCalls = log.toolCalls ∧ log.toolCalls ≤ ledger.budget.maxToolCalls

/-! ## What the calls have done when they return -/

section

variable {ca : ClockArithmetic} {ledger ledger' : WorkflowBudgetLedger}

theorem counter_ok {value : Int} {n : Nat} (h : counter value = .ok n) : (n : Int) = value := by
  unfold counter at h
  split at h
  · cases h; omega
  · cases h

namespace WorkflowBudgetLedger

/-- What was checked before a reservation was granted. -/
structure Grants (ca : ClockArithmetic) (ledger : WorkflowBudgetLedger) (now : PyFloat)
    (r : ModelReservation) : Prop where
  inTime : ledger.inTime ca now = true
  available : ledger.tokens < ledger.budget.maxTotalTokens
  calls : ledger.modelCalls < ledger.budget.maxModelCalls
  room : ledger.tokens + r.tokens ≤ ledger.budget.maxTotalTokens

theorem ensureAvailable_ok {now : PyFloat} {u : Unit} (h : ledger.ensureAvailable ca now = .ok u) :
    ledger.inTime ca now = true ∧ ledger.tokens < ledger.budget.maxTotalTokens := by
  obtain ⟨_, htime, h⟩ := bind_ok h
  exact ⟨require_ok htime, require_ok h⟩

theorem reserveModel_ok {a : ReserveArguments} {now later : PyFloat} {id : String}
    {r : ModelReservation} (h : ledger.reserveModel ca a now later id = .ok (r, ledger')) :
    ledger.Grants ca now r ∧ r.reservationId = id ∧
      ledger' = { ledger with
        modelCalls := ledger.modelCalls + 1
        used := true
        tokens := ledger.tokens + r.tokens
        pending := putPending ledger.pending r } := by
  obtain ⟨estimated, _, h⟩ := bind_ok h
  obtain ⟨output, _, h⟩ := bind_ok h
  obtain ⟨_, _, h⟩ := bind_ok h
  obtain ⟨_, havailable, h⟩ := bind_ok h
  obtain ⟨_, hcalls, h⟩ := bind_ok h
  obtain ⟨_, hroom, h⟩ := bind_ok h
  obtain ⟨elapsed, _, h⟩ := bind_ok h
  obtain ⟨remaining, _, h⟩ := bind_ok h
  obtain ⟨rfl, rfl⟩ := Prod.mk.inj (pure_ok h)
  obtain ⟨htime, htokens⟩ := ensureAvailable_ok havailable
  have hroom := require_ok hroom
  refine ⟨⟨htime, htokens, require_ok hcalls, ?_⟩, rfl, rfl⟩
  simp only [ModelReservation.tokens]
  push_cast
  omega

/-- A completed call releases its reservation and charges what it came to. -/
theorem completeModel_ok {r : ModelReservation} {usage : Option TokenUsage}
    (h : ledger.completeModel r usage = .ok ledger') :
    ledger.pending.lookup r.reservationId = some r ∧
      ledger'.tokens = ledger.tokens + settledTokens (r, usage) - r.tokens ∧
      ledger'.pending = ledger.pending.filter (fun p => p.1 ≠ r.reservationId) ∧
      ledger'.budget = ledger.budget ∧ ledger'.modelCalls = ledger.modelCalls ∧
      ledger'.retrievalCalls = ledger.retrievalCalls ∧ ledger'.toolCalls = ledger.toolCalls := by
  obtain ⟨_, hpending, h⟩ := bind_ok h
  refine ⟨require_ok hpending, ?_⟩
  simp only at h
  split at h
  · rename_i hnone
    cases pure_ok h
    exact ⟨by simp [settledTokens, hnone], rfl, rfl, rfl, rfl, rfl⟩
  · rename_i actual hsome
    cases pure_ok h
    exact ⟨by simp [settledTokens, hsome], rfl, rfl, rfl, rfl, rfl⟩

theorem make_ok {budget : WorkflowBudget} {usage : Option LedgerUsage} {now : PyFloat}
    (h : make budget usage now = .ok ledger) :
    ledger.budget = budget ∧ (ledger.modelCalls : Int) = (usage.getD {}).modelCalls ∧
      (ledger.retrievalCalls : Int) = (usage.getD {}).retrievalCalls ∧
      (ledger.toolCalls : Int) = (usage.getD {}).toolCalls ∧
      ledger.tokens = (usage.getD {}).tokens.getD budget.maxTotalTokens ∧
      (usage.getD {}).activeSeconds = some ledger.priorActiveSeconds ∧
      ledger.priorActiveSeconds.nonneg = true ∧ ledger.pending = [] := by
  obtain ⟨modelCalls, hmodel, h⟩ := bind_ok h
  obtain ⟨retrievalCalls, hretrieval, h⟩ := bind_ok h
  obtain ⟨toolCalls, htool, h⟩ := bind_ok h
  obtain ⟨tokens, htokens, h⟩ := bind_ok h
  obtain ⟨unknown, _, h⟩ := bind_ok h
  obtain ⟨elapsed, helapsed, h⟩ := bind_ok h
  cases pure_ok h
  have htokens : (tokens : Int) = (usage.getD {}).tokens.getD budget.maxTotalTokens := by
    cases hcount : (usage.getD {}).tokens with
    | none => rw [hcount] at htokens; cases htokens; rfl
    | some n => rw [hcount] at htokens; exact counter_ok htokens
  have hseconds := orRaise_ok helapsed
  rw [Option.filter_eq_some_iff] at hseconds
  exact ⟨rfl, counter_ok hmodel, counter_ok hretrieval, counter_ok htool, htokens, hseconds.1,
    hseconds.2, rfl⟩

/-- **A restored ledger** continues the counters and the active time of its snapshot. -/
theorem restart_ok {now later : PyFloat} {unknown : Bool} {o : Option ModelReservation}
    (h : ledgerService ca (.restart now later unknown) ledger = .ok (o, ledger')) :
    ledger'.budget = ledger.budget ∧ ledger'.modelCalls = ledger.modelCalls ∧
      ledger'.retrievalCalls = ledger.retrievalCalls ∧ ledger'.toolCalls = ledger.toolCalls ∧
      ledger'.tokens = (if unknown then (ledger.budget.maxTotalTokens : Int) else ledger.tokens) ∧
      ledger.elapsedSeconds ca now = some ledger'.priorActiveSeconds ∧
      ledger'.priorActiveSeconds.nonneg = true ∧ ledger'.pending = [] := by
  obtain ⟨new, hnew, h⟩ := bind_ok h
  obtain ⟨final, hrestore, h⟩ := bind_ok h
  obtain ⟨_, rfl⟩ := Prod.mk.inj (pure_ok h)
  obtain ⟨restored, hrestored, hrestore⟩ := bind_ok hrestore
  obtain ⟨_, _, hrestore⟩ := bind_ok hrestore
  cases pure_ok hrestore
  obtain ⟨hbudget, _, _, _, _, _, _, hpending⟩ := make_ok hnew
  obtain ⟨_, hm, hr, ht, htokens, hseconds, hnonneg, _⟩ := make_ok hrestored
  cases unknown <;>
    simp only [restartUsage, snapshot, Option.getD_some, Bool.false_eq_true, if_false, if_true]
      at hm hr ht htokens hseconds ⊢
  · exact ⟨hbudget, Int.ofNat_inj.mp hm, Int.ofNat_inj.mp hr, Int.ofNat_inj.mp ht, htokens,
      hseconds, hnonneg, hpending⟩
  · exact ⟨hbudget, Int.ofNat_inj.mp hm, Int.ofNat_inj.mp hr, Int.ofNat_inj.mp ht,
      by rw [htokens, hbudget]; rfl, hseconds, hnonneg, hpending⟩

end WorkflowBudgetLedger

/-! ## Every call keeps the accounts -/

/-- The identifier that a call brings with it. -/
def LedgerCall.newId : LedgerCall → Option String
  | .reserveModel _ _ _ id => some id
  | _ => none

variable {log : LedgerLog} {call : LedgerCall} {reply : Option ModelReservation}

theorem lookup_pendingOf {r : ModelReservation} {id : String} : ∀ {outstanding},
    (pendingOf outstanding).lookup id = some r → r ∈ outstanding ∧ r.reservationId = id
  | [], h => by cases h
  | x :: rest, h => by
    rw [pendingOf, List.map_cons, List.lookup_cons] at h
    split at h
    · rename_i hid
      cases h
      exact ⟨by simp, (beq_iff_eq.mp hid).symm⟩
    · obtain ⟨hr, hid⟩ := lookup_pendingOf h
      exact ⟨List.mem_cons_of_mem _ hr, hid⟩

theorem Tracks.reserve {a : WorkflowBudgetLedger.ReserveArguments} {now later : PyFloat}
    {id : String} {r : ModelReservation} (t : Tracks ledger log) (hfresh : id ∉ log.ids)
    (h : ledger.reserveModel ca a now later id = .ok (r, ledger')) :
    Tracks ledger' (log.note ledger (.reserveModel a now later id) (some r)) := by
  obtain ⟨hgrants, hid, rfl⟩ := WorkflowBudgetLedger.reserveModel_ok h
  have hout : ∀ x ∈ log.outstanding, x.reservationId ≠ r.reservationId := fun x hx he =>
    hfresh (hid ▸ he ▸ List.mem_map_of_mem hx)
  have hids : (log.outstanding ++ [r]).map (·.reservationId) = log.ids ++ [id] := by
    rw [List.map_append, List.map_singleton, hid]; rfl
  have hnodup : (log.ids ++ [id]).Nodup := by
    rw [List.nodup_append]
    refine ⟨t.ids, List.nodup_singleton _, ?_⟩
    intro x hx y hy hxy
    rw [List.mem_singleton] at hy
    exact hfresh (hy ▸ hxy ▸ hx)
  refine ⟨by simpa only [LedgerLog.ids, LedgerLog.note, Option.toList_some, hids] using hnodup,
    ?_, ?_, ⟨by simp [LedgerLog.note, t.modelCalls.1], ?_⟩, t.retrievalCalls, t.toolCalls⟩
  · have hkeep : ledger.pending.filter (fun p => p.1 ≠ r.reservationId) = ledger.pending := by
      rw [t.pending, List.filter_eq_self]
      intro p hp
      obtain ⟨x, hx, rfl⟩ := List.mem_map.mp hp
      simpa using hout x hx
    simp only [WorkflowBudgetLedger.putPending, hkeep, LedgerLog.note, Option.toList_some]
    rw [t.pending, pendingOf, pendingOf, List.map_append, List.map_singleton]
  · have hhold := (log.account t.ids).balance_hold r.reservationId r.tokens (by
      rw [LedgerLog.account, List.map_map]
      rw [hid]; exact hfresh)
    have htokens := t.tokens
    simp only [Account.balance, LedgerLog.account, LedgerLog.note, Account.hold,
      Option.toList_some, List.map_append, List.map_cons, List.map_nil] at hhold htokens ⊢
    rw [htokens]
    exact hhold.symm
  · have := hgrants.calls
    simp only [LedgerLog.note]
    rw [t.modelCalls.1] at this
    exact this

theorem Tracks.complete {r : ModelReservation} {usage : Option TokenUsage} (t : Tracks ledger log)
    (h : ledger.completeModel r usage = .ok ledger') :
    Tracks ledger' (log.note ledger (.completeModel r usage) none) := by
  obtain ⟨hlookup, htokens', hpending, hbudget, hm, hr, ht⟩ :=
    WorkflowBudgetLedger.completeModel_ok h
  rw [t.pending] at hlookup
  obtain ⟨hmem, _⟩ := lookup_pendingOf hlookup
  have hids : (log.note ledger (.completeModel r usage) none).ids.Nodup :=
    t.ids.sublist (List.filter_sublist.map _)
  refine ⟨hids, ?_, ?_, by rw [hm, hbudget]; exact t.modelCalls,
    by rw [hr, hbudget]; exact t.retrievalCalls, by rw [ht, hbudget]; exact t.toolCalls⟩
  · rw [hpending, t.pending, pendingOf, List.filter_map]
    rfl
  · have hsettle := (log.account t.ids).balance_settle (k := r.reservationId) (n := r.tokens)
      (List.mem_map.mpr ⟨r, hmem, rfl⟩) (settledTokens (r, usage))
    have htokens := t.tokens
    rw [htokens', htokens, ← hsettle]
    simp only [Account.balance, LedgerLog.account, Account.settle, LedgerLog.note, List.map_append,
      List.map_cons, List.map_nil, List.filter_map]
    rfl

/-- **Every call keeps the ledger on its log.** -/
theorem Tracks.step (t : Tracks ledger log) (hfresh : ∀ id ∈ call.newId, id ∉ log.ids)
    (h : ledgerService ca call ledger = .ok (reply, ledger')) :
    Tracks ledger' (log.note ledger call reply) := by
  cases call with
  | reserveModel a now later id =>
    obtain ⟨⟨r, l⟩, hreserve, h⟩ := bind_ok h
    obtain ⟨rfl, rfl⟩ := Prod.mk.inj (pure_ok h)
    exact t.reserve (hfresh id rfl) hreserve
  | completeModel r usage =>
    obtain ⟨l, hcomplete, h⟩ := bind_ok h
    obtain ⟨rfl, rfl⟩ := Prod.mk.inj (pure_ok h)
    exact t.complete hcomplete
  | consumeRetrieval now =>
    obtain ⟨l, hconsume, h⟩ := bind_ok h
    obtain ⟨rfl, rfl⟩ := Prod.mk.inj (pure_ok h)
    obtain ⟨_, _, hconsume⟩ := bind_ok hconsume
    obtain ⟨_, hroom, hconsume⟩ := bind_ok hconsume
    cases pure_ok hconsume
    refine ⟨t.ids, t.pending, t.tokens, t.modelCalls, ⟨by simp [LedgerLog.note,
      t.retrievalCalls.1], ?_⟩, t.toolCalls⟩
    have := require_ok hroom
    rw [t.retrievalCalls.1] at this
    exact this
  | consumeTool now =>
    obtain ⟨l, hconsume, h⟩ := bind_ok h
    obtain ⟨rfl, rfl⟩ := Prod.mk.inj (pure_ok h)
    obtain ⟨_, _, hconsume⟩ := bind_ok hconsume
    obtain ⟨_, hroom, hconsume⟩ := bind_ok hconsume
    cases pure_ok hconsume
    refine ⟨t.ids, t.pending, t.tokens, t.modelCalls, t.retrievalCalls, ⟨by simp [LedgerLog.note,
      t.toolCalls.1], ?_⟩⟩
    have := require_ok hroom
    rw [t.toolCalls.1] at this
    exact this
  | restart now later unknown =>
    obtain ⟨hbudget, hm, hr, ht, htokens, _, _, hpending⟩ := WorkflowBudgetLedger.restart_ok h
    refine ⟨List.nodup_nil, hpending, ?_, by rw [hm, hbudget]; exact t.modelCalls,
      by rw [hr, hbudget]; exact t.retrievalCalls, by rw [ht, hbudget]; exact t.toolCalls⟩
    rw [htokens]
    simp [Account.balance, LedgerLog.account, LedgerLog.note]

/-- The log holds no identifier but those that were brought in. -/
theorem LedgerLog.ids_note {id : String} (h : id ∈ (log.note ledger call reply).ids)
    (hreply : ∀ r ∈ reply, some r.reservationId = call.newId) :
    id ∈ log.ids ∨ call.newId = some id := by
  cases call with
  | reserveModel a now later new =>
    simp only [ids, note, List.map_append, List.mem_append] at h
    rcases h with h | h
    · exact .inl h
    · obtain ⟨r, hr, rfl⟩ := List.mem_map.mp h
      exact .inr (hreply r (by simpa using hr)).symm
  | completeModel r usage =>
    obtain ⟨x, hx, rfl⟩ := List.mem_map.mp h
    exact .inl (List.mem_map_of_mem (List.mem_filter.mp hx).1)
  | consumeRetrieval now => exact .inl h
  | consumeTool now => exact .inl h
  | restart now later unknown => cases h

theorem reply_newId (h : ledgerService ca call ledger = .ok (reply, ledger')) :
    ∀ r ∈ reply, some r.reservationId = call.newId := by
  intro r hr
  cases call with
  | reserveModel a now later id =>
    obtain ⟨⟨r', l⟩, hreserve, h⟩ := bind_ok h
    obtain ⟨rfl, rfl⟩ := Prod.mk.inj (pure_ok h)
    cases hr
    rw [(WorkflowBudgetLedger.reserveModel_ok hreserve).2.1]
    rfl
  | _ =>
    obtain ⟨l, _, h⟩ := bind_ok h
    first
    | (obtain ⟨rfl, rfl⟩ := Prod.mk.inj (pure_ok h); cases hr)
    | (obtain ⟨l', _, h⟩ := bind_ok h
       obtain ⟨rfl, rfl⟩ := Prod.mk.inj (pure_ok h); cases hr)

/-- **Every history keeps the ledger on its log.** -/
theorem Tracks.run : ∀ {calls : List LedgerCall} {s : WorkflowBudgetLedger × LedgerLog},
    Tracks s.1 s.2 → (calls.filterMap LedgerCall.newId).Nodup →
    (∀ id ∈ calls.filterMap LedgerCall.newId, id ∉ s.2.ids) →
    Tracks (logged ca s calls).1 (logged ca s calls).2
  | [], _, t, _, _ => t
  | call :: calls, s, t, hnodup, hfresh => by
    have htail : (calls.filterMap LedgerCall.newId).Nodup :=
      hnodup.sublist ((List.sublist_cons_self _ _).filterMap _)
    show Tracks (logged ca (loggedStep ca s call) calls).1 (logged ca (loggedStep ca s call) calls).2
    cases h : ledgerService ca call s.1 with
    | error e =>
      rw [show loggedStep ca s call = s by simp [loggedStep, h]]
      exact run t htail fun id hid => hfresh id
        (((List.sublist_cons_self _ _).filterMap _).subset hid)
    | ok r =>
      obtain ⟨reply, ledger'⟩ := r
      rw [show loggedStep ca s call = (ledger', s.2.note s.1 call reply) by simp [loggedStep, h]]
      refine run (t.step (fun id hid => hfresh id (List.mem_filterMap.mpr ⟨call, by simp, hid⟩)) h)
        htail fun id hid hin => ?_
      rcases LedgerLog.ids_note hin (reply_newId h) with hold | hnew
      · exact hfresh id (((List.sublist_cons_self _ _).filterMap _).subset hid) hold
      · rw [List.filterMap_cons_some hnew, List.nodup_cons] at hnodup
        exact hnodup.1 hid

/-! ## Bounds -/

/-- No call reports more tokens than it reserved. -/
def LedgerCall.honest : LedgerCall → Prop
  | .completeModel r usage => ∀ n ∈ actualUsageTokens usage, n ≤ r.tokens
  | _ => True

theorem honest_bound (hbound : ledger.tokens ≤ ledger.budget.maxTotalTokens) (hhonest : call.honest)
    (h : ledgerService ca call ledger = .ok (reply, ledger')) :
    ledger'.tokens ≤ ledger'.budget.maxTotalTokens := by
  cases call with
  | reserveModel a now later id =>
    obtain ⟨⟨r, l⟩, hreserve, h⟩ := bind_ok h
    obtain ⟨rfl, rfl⟩ := Prod.mk.inj (pure_ok h)
    obtain ⟨hgrants, _, rfl⟩ := WorkflowBudgetLedger.reserveModel_ok hreserve
    exact hgrants.room
  | completeModel r usage =>
    obtain ⟨l, hcomplete, h⟩ := bind_ok h
    obtain ⟨rfl, rfl⟩ := Prod.mk.inj (pure_ok h)
    obtain ⟨_, htokens, _, hbudget, _⟩ := WorkflowBudgetLedger.completeModel_ok hcomplete
    have hcharge : settledTokens (r, usage) ≤ r.tokens := by
      unfold settledTokens
      cases hu : actualUsageTokens usage with
      | none => exact le_refl _
      | some n => exact hhonest n hu
    rw [htokens, hbudget]
    omega
  | consumeRetrieval now =>
    obtain ⟨l, hconsume, h⟩ := bind_ok h
    obtain ⟨rfl, rfl⟩ := Prod.mk.inj (pure_ok h)
    obtain ⟨_, _, hconsume⟩ := bind_ok hconsume
    obtain ⟨_, _, hconsume⟩ := bind_ok hconsume
    cases pure_ok hconsume
    exact hbound
  | consumeTool now =>
    obtain ⟨l, hconsume, h⟩ := bind_ok h
    obtain ⟨rfl, rfl⟩ := Prod.mk.inj (pure_ok h)
    obtain ⟨_, _, hconsume⟩ := bind_ok hconsume
    obtain ⟨_, _, hconsume⟩ := bind_ok hconsume
    cases pure_ok hconsume
    exact hbound
  | restart now later unknown =>
    obtain ⟨hbudget, _, _, _, htokens, _⟩ := WorkflowBudgetLedger.restart_ok h
    rw [htokens, hbudget]
    cases unknown with
    | true => exact le_refl _
    | false => exact hbound

theorem honest_run : ∀ {calls : List LedgerCall} {ledger : WorkflowBudgetLedger},
    ledger.tokens ≤ ledger.budget.maxTotalTokens → (∀ call ∈ calls, call.honest) →
    (after (ledgerService ca) ledger calls).tokens ≤
      (after (ledgerService ca) ledger calls).budget.maxTotalTokens
  | [], _, hbound, _ => hbound
  | call :: calls, ledger, hbound, hhonest => by
    rw [after_cons]
    refine honest_run ?_ fun c hc => hhonest c (List.mem_cons_of_mem _ hc)
    rcases step_cases (ledgerService ca) ledger call with hs | ⟨o, ho⟩
    · rw [hs]; exact hbound
    · exact honest_bound hbound (hhonest call (by simp)) ho

/-! ## Restored ledgers -/

namespace WorkflowBudgetLedger

/-- A grant depends on the arguments, the counters and the clock. -/
theorem reserveModel_of {a : ReserveArguments} {now later now' later' : PyFloat} {id : String}
    {other other' : WorkflowBudgetLedger} {r : ModelReservation}
    (hbudget : other.budget = ledger.budget)
    (hcalls : other.modelCalls = ledger.modelCalls) (htokens : ledger.tokens ≤ other.tokens)
    (htime : ledger.inTime ca now = true)
    (hremaining : ∃ elapsed remaining, ledger.elapsedSeconds ca later = some elapsed ∧
      ca.sub ledger.budget.maxSeconds elapsed = some remaining ∧ PyFloat.zero.lt remaining = true)
    (h : other.reserveModel ca a now' later' id = .ok (r, other')) :
    ∃ granted, ledger.reserveModel ca a now later id = .ok granted := by
  obtain ⟨estimated, hestimated, h⟩ := bind_ok h
  obtain ⟨output, houtput, h⟩ := bind_ok h
  obtain ⟨_, htimeout, h⟩ := bind_ok h
  obtain ⟨_, havailable, h⟩ := bind_ok h
  obtain ⟨_, hmodel, h⟩ := bind_ok h
  obtain ⟨_, hroom, _⟩ := bind_ok h
  obtain ⟨elapsed, remaining, helapsed, hsub, hpos⟩ := hremaining
  have hfree := (ensureAvailable_ok havailable).2
  have hroom := require_ok hroom
  have hmodel := require_ok hmodel
  rw [hbudget] at houtput hfree hroom hmodel
  rw [hcalls] at hmodel
  have havailable' : ledger.ensureAvailable ca now = .ok () := by
    rw [ensureAvailable, require_true _ htime, ok_bind, require_true _ (by omega)]
  unfold reserveModel
  rw [hestimated, ok_bind, houtput, ok_bind, require_true _ (require_ok htimeout), ok_bind,
    havailable', ok_bind, require_true _ hmodel, ok_bind, require_true _ (by omega), ok_bind,
    helapsed, orRaise_some, ok_bind, hsub, Option.filter_some, if_pos hpos, orRaise_some, ok_bind]
  exact ⟨_, rfl⟩

/-- **A restored ledger grants nothing that its snapshot would have refused.** -/
theorem restored_grants {now later now' later' : PyFloat} {unknown : Bool}
    {o : Option ModelReservation} {a : ReserveArguments} {id : String} {r : ModelReservation}
    {after : WorkflowBudgetLedger}
    (hrestart : ledgerService ca (.restart now later unknown) ledger = .ok (o, ledger'))
    (h : ledger'.reserveModel ca a now' later' id = .ok (r, after)) :
    ∃ granted, ledger.reserveModel ca a now now id = .ok granted := by
  obtain ⟨hbudget, hm, _, _, htokens, helapsed, hnonneg, _⟩ := restart_ok hrestart
  obtain ⟨hgrants, _, _⟩ := reserveModel_ok h
  have hfree := hgrants.available
  have hle : ledger.tokens ≤ ledger'.tokens := by
    cases unknown with
    | true => rw [htokens, hbudget] at hfree; exact absurd hfree (lt_irrefl _)
    | false => rw [htokens]; exact le_refl _
  -- the active time of the snapshot is brought forward, so it was in time too
  have hprior : ledger'.priorActiveSeconds.lt ledger.budget.maxSeconds = true := by
    have htime := hgrants.inTime
    unfold inTime at htime
    rw [Option.any_eq_true] at htime
    obtain ⟨x, hx, hlt⟩ := htime
    unfold elapsedSeconds at hx
    obtain ⟨d, hd, hadd⟩ := Option.bind_eq_some_iff.mp hx
    rw [hbudget] at hlt
    refine PyFloat.lt_of_le_of_lt (ca.le_add _ d x ?_ hadd) hlt
    unfold sinceStart at hd
    obtain ⟨y, _, rfl⟩ := Option.map_eq_some_iff.mp hd
    split
    · rename_i hpos; exact PyFloat.nonneg_of_pos hpos
    · rfl
  obtain ⟨remaining, hsub, hpos⟩ := ca.sub_pos _ _ hnonneg hprior
  refine reserveModel_of hbudget hm hle ?_ ⟨_, remaining, helapsed, hsub, hpos⟩ h
  rw [inTime, helapsed]
  exact hprior

/-- No call changes a ledger whose tokens are spent and which waits for nothing, up to restarts. -/
theorem spent_step (hspent : ledger.tokens = ledger.budget.maxTotalTokens ∧ ledger.pending = [])
    (h : ledgerService ca call ledger = .ok (reply, ledger')) :
    ledger'.tokens = ledger'.budget.maxTotalTokens ∧ ledger'.pending = [] := by
  cases call with
  | reserveModel a now later id =>
    obtain ⟨⟨r, l⟩, hreserve, _⟩ := bind_ok h
    have hfree := (reserveModel_ok hreserve).1.available
    rw [hspent.1] at hfree
    exact absurd hfree (lt_irrefl _)
  | completeModel r usage =>
    obtain ⟨l, hcomplete, _⟩ := bind_ok h
    have hpending := (completeModel_ok hcomplete).1
    rw [hspent.2] at hpending
    cases hpending
  | consumeRetrieval now =>
    obtain ⟨l, hconsume, _⟩ := bind_ok h
    obtain ⟨_, havailable, _⟩ := bind_ok hconsume
    have hfree := (ensureAvailable_ok havailable).2
    rw [hspent.1] at hfree
    exact absurd hfree (lt_irrefl _)
  | consumeTool now =>
    obtain ⟨l, hconsume, _⟩ := bind_ok h
    obtain ⟨_, havailable, _⟩ := bind_ok hconsume
    have hfree := (ensureAvailable_ok havailable).2
    rw [hspent.1] at hfree
    exact absurd hfree (lt_irrefl _)
  | restart now later unknown =>
    obtain ⟨hbudget, _, _, _, htokens, _, _, hpending⟩ := restart_ok h
    refine ⟨?_, hpending⟩
    rw [htokens, hbudget]
    cases unknown with
    | true => rfl
    | false => exact hspent.1

end WorkflowBudgetLedger

theorem ledgerService_budget (h : ledgerService ca call ledger = .ok (reply, ledger')) :
    ledger'.budget = ledger.budget := by
  cases call with
  | reserveModel a now later id =>
    obtain ⟨⟨r, l⟩, hreserve, h⟩ := bind_ok h
    obtain ⟨rfl, rfl⟩ := Prod.mk.inj (pure_ok h)
    rw [(WorkflowBudgetLedger.reserveModel_ok hreserve).2.2]
  | completeModel r usage =>
    obtain ⟨l, hcomplete, h⟩ := bind_ok h
    obtain ⟨rfl, rfl⟩ := Prod.mk.inj (pure_ok h)
    exact (WorkflowBudgetLedger.completeModel_ok hcomplete).2.2.2.1
  | consumeRetrieval now =>
    obtain ⟨l, hconsume, h⟩ := bind_ok h
    obtain ⟨rfl, rfl⟩ := Prod.mk.inj (pure_ok h)
    obtain ⟨_, _, hconsume⟩ := bind_ok hconsume
    obtain ⟨_, _, hconsume⟩ := bind_ok hconsume
    cases pure_ok hconsume
    rfl
  | consumeTool now =>
    obtain ⟨l, hconsume, h⟩ := bind_ok h
    obtain ⟨rfl, rfl⟩ := Prod.mk.inj (pure_ok h)
    obtain ⟨_, _, hconsume⟩ := bind_ok hconsume
    obtain ⟨_, _, hconsume⟩ := bind_ok hconsume
    cases pure_ok hconsume
    rfl
  | restart now later unknown => exact (WorkflowBudgetLedger.restart_ok h).1

end

/-! ## Histories -/

/-- A new ledger and the calls on it, whose identifiers are all fresh. -/
structure LedgerHistory where
  budget : WorkflowBudget
  started : PyFloat
  calls : List LedgerCall
  fresh : (calls.filterMap LedgerCall.newId).Nodup

namespace LedgerHistory

/-- The ledger and its log before the first call. -/
def first (h : LedgerHistory) : WorkflowBudgetLedger × LedgerLog :=
  ({ budget := h.budget, started := h.started, modelCalls := 0, retrievalCalls := 0, toolCalls := 0
     tokens := 0, unknownModelCalls := 0, priorActiveSeconds := .zero, pending := []
     used := false, restored := false }, { opening := 0 })

def ledger (ca : ClockArithmetic) (h : LedgerHistory) : WorkflowBudgetLedger :=
  (logged ca h.first h.calls).1

def log (ca : ClockArithmetic) (h : LedgerHistory) : LedgerLog := (logged ca h.first h.calls).2

theorem tracks (ca : ClockArithmetic) (h : LedgerHistory) : Tracks (h.ledger ca) (h.log ca) := by
  refine Tracks.run ?_ h.fresh fun _ _ hin => List.not_mem_nil hin
  exact ⟨List.nodup_nil, rfl, rfl, ⟨rfl, Nat.zero_le _⟩, ⟨rfl, Nat.zero_le _⟩,
    ⟨rfl, Nat.zero_le _⟩⟩

theorem budget_eq (ca : ClockArithmetic) (h : LedgerHistory) : (h.ledger ca).budget = h.budget := by
  have hrun : (after (ledgerService ca) h.first.1 h.calls).budget = h.first.1.budget :=
    (after_invariant (I := fun l => l.budget = h.budget) (fun call l o l' hl hs => by
      rw [← hl]
      exact ledgerService_budget hs) h.calls h.first.1 rfl)
  rw [ledger, logged_fst]
  exact hrun

end LedgerHistory

/-- The laws of the ledger at the end of a history. -/
structure BudgetAccounted (ca : ClockArithmetic) (h : LedgerHistory) : Prop where
  /-- What the present life began with, what its settled calls came to, and what is held. -/
  tokens : (h.ledger ca).tokens = (h.log ca).opening + ((h.log ca).settled.map settledTokens).sum +
    ((h.log ca).outstanding.map fun r => (r.tokens : Int)).sum
  /-- The granted calls of all lives. -/
  calls : (h.log ca).modelCalls ≤ h.budget.maxModelCalls ∧
    (h.log ca).retrievalCalls ≤ h.budget.maxRetrievalCalls ∧
    (h.log ca).toolCalls ≤ h.budget.maxToolCalls
  bounded : (∀ call ∈ h.calls, call.honest) → (h.ledger ca).tokens ≤ h.budget.maxTotalTokens
  restored : ∀ now later unknown o ledger', ledgerService ca (.restart now later unknown)
      (h.ledger ca) = .ok (o, ledger') →
    ∀ a now' later' id granted', ledger'.reserveModel ca a now' later' id = .ok granted' →
      ∃ granted, (h.ledger ca).reserveModel ca a now now id = .ok granted
  unknown : ∀ usage now ledger', usage.tokens = none →
    WorkflowBudgetLedger.make h.budget (some usage) now = .ok ledger' →
    ∀ calls a now' later' id, ∃ e,
      (after (ledgerService ca) ledger' calls).reserveModel ca a now' later' id = .error e

end ProofAgent
