import ProofAgent.BusinessActions.Ledger

/-! # What the ledger does

An acquisition inserts a row, finds one with an outcome, or takes one over; a transition
changes the row that the attempt holds. What is refused leaves the table as it was. -/
namespace ProofAgent.BusinessActions

open Base

variable {library : ActionLibrary} {ledger : LocalBusinessActionLedger} {s t : ActionTable}

/-! ## Statements -/

/-- An update that finds its row. -/
theorem updateAction_replaced {row : ActionRow} {key : String} {assign : ActionRow → ActionRow}
    {hassign : ∀ row, (assign row).keyDigest = row.keyDigest} (hrow : row ∈ s.rows)
    (hkey : row.keyDigest = key) :
    Table.Replaced s (s.update (fun r => r.keyDigest = key) assign hassign) row (assign row) := by
  subst hkey
  have hone : s.count (fun r => r.keyDigest = row.keyDigest) = 1 :=
    Table.count_eq_one hrow (decide_eq_true rfl) fun other _ h => of_decide_eq_true h
  obtain ⟨old, hold, hkey, hreplaced⟩ := Table.replaced_of_update assign hassign hone
  rw [Table.eq_of_key hold hrow (of_decide_eq_true hkey)] at hreplaced
  exact hreplaced

theorem insertAction_ok {row : ActionRow} (h : insertAction row s = (.ok (), t)) :
    t.rows = s.rows ++ [row] ∧ ∀ other ∈ s.rows, other.keyDigest ≠ row.keyDigest := by
  unfold insertAction at h
  rw [Effect.read_then] at h
  cases hinsert : s.insert? row with
  | none =>
    rw [hinsert] at h
    cases h
  | some actions =>
    rw [hinsert] at h
    cases h
    exact Table.insert?_some hinsert

/-! ## Acquiring -/

/-- The row that an attempt on it has taken over. -/
def ActionRow.takenOver (row : ActionRow) (reservation : ActionReservation) (leaseUntil : Rat) : ActionRow :=
  { row with
    state := if reservation.mode = .execute then .reserved else .outcomeUnknown
    attemptId := reservation.attemptId
    fence := reservation.fence
    leaseUntil }

/-- What an acquisition of a key does to the table. -/
inductive Acquired (key fingerprint : String) (s : ActionTable) :
    ActionReservation → ActionTable → Prop where
  | inserted {row : ActionRow} {t : ActionTable} (sameKey : row.keyDigest = key)
      (sameDigest : row.requestDigest = fingerprint) (reserved : row.state = .reserved) (first : row.fence = 1)
      (rows : t.rows = s.rows ++ [row]) (fresh : ∀ other ∈ s.rows, other.keyDigest ≠ row.keyDigest) :
      Acquired key fingerprint s ⟨key, fingerprint, row.attemptId, 1, .execute, none⟩ t
  | replayed {attemptId : String} {row : ActionRow} {outcome : ReceiptOutcome} {receipt : ActionReceipt}
      (mem : row ∈ s.rows) (sameKey : row.keyDigest = key) (sameDigest : row.requestDigest = fingerprint)
      (recorded : row.recorded? = some outcome) (kept : row.receipt = some receipt) :
      Acquired key fingerprint s
        ⟨key, fingerprint, attemptId, row.fence, .replay, some ⟨outcome.state, some receipt, true⟩⟩ s
  | tookOver {row : ActionRow} {reservation : ActionReservation} {leaseUntil : Rat} {t : ActionTable}
      (sameKey : row.keyDigest = key) (sameDigest : row.requestDigest = fingerprint)
      (unrecorded : row.recorded? = none) (keyDigest : reservation.keyDigest = key)
      (requestDigest : reservation.requestDigest = fingerprint) (fence : reservation.fence = row.fence + 1)
      (mode : reservation.mode = if row.state = .reserved then .execute else .reconcile)
      (replaced : Table.Replaced s t row (row.takenOver reservation leaseUntil)) :
      Acquired key fingerprint s reservation t

theorem replayRow_ok {row : ActionRow} {key fingerprint attemptId : String} {outcome : ReceiptOutcome}
    {reservation : ActionReservation}
    (h : replayRow row key fingerprint attemptId outcome s = (.ok reservation, t)) :
    t = s ∧ ∃ receipt, row.receipt = some receipt ∧
      reservation = ⟨key, fingerprint, attemptId, row.fence, .replay,
        some ⟨outcome.state, some receipt, true⟩⟩ := by
  unfold replayRow at h
  obtain ⟨receipt, hreceipt, h⟩ := Effect.ofExcept_bind_ok h
  obtain ⟨⟨_, _, houtcome⟩, h⟩ := Effect.require_bind_ok h
  cases h
  rw [houtcome]
  exact ⟨rfl, receipt, orRaise_ok hreceipt, rfl⟩

theorem takeOverRow_ok {row : ActionRow} {fingerprint attemptId : String} {timestamp leaseSeconds : Rat}
    {reservation : ActionReservation} (hrow : row ∈ s.rows) (hdigest : row.requestDigest = fingerprint)
    (hopen : row.recorded? = none)
    (h : takeOverRow library row row.keyDigest fingerprint attemptId timestamp leaseSeconds s =
      (.ok reservation, t)) : Acquired row.keyDigest fingerprint s reservation t := by
  unfold takeOverRow at h
  obtain ⟨_, h⟩ := Effect.require_bind_ok h
  obtain ⟨_, h⟩ := Effect.require_bind_ok h
  unfold updateAction at h
  rw [Effect.modify_then] at h
  cases h
  exact .tookOver rfl hdigest hopen rfl rfl rfl rfl (updateAction_replaced hrow rfl)

theorem acquireRow_ok {key fingerprint attemptId : String} {timestamp leaseSeconds : Rat}
    {reservation : ActionReservation}
    (h : acquireRow library ledger key fingerprint attemptId timestamp leaseSeconds s =
      (.ok reservation, t)) : Acquired key fingerprint s reservation t := by
  unfold acquireRow at h
  rw [Effect.read_then] at h
  cases hfind : s.find? key with
  | none =>
    rw [hfind] at h
    obtain ⟨_, u, hinsert, h⟩ := Effect.bind_ok h
    cases h
    obtain ⟨hrows, hfresh⟩ := insertAction_ok hinsert
    exact .inserted rfl rfl rfl rfl hrows hfresh
  | some row =>
    rw [hfind] at h
    obtain ⟨hdigest, h⟩ := Effect.require_bind_ok h
    obtain ⟨_, h⟩ := Effect.require_bind_ok h
    obtain ⟨hrow, rfl⟩ := Table.find?_some hfind
    cases hrecorded : row.recorded? with
    | none =>
      rw [hrecorded] at h
      exact takeOverRow_ok hrow hdigest hrecorded h
    | some outcome =>
      rw [hrecorded] at h
      obtain ⟨rfl, receipt, hreceipt, rfl⟩ := replayRow_ok h
      exact .replayed hrow rfl hdigest hrecorded hreceipt

theorem acquire_ok {request : ActionRequest} {attemptId : String} {now : Instant} {leaseSeconds : Rat}
    {reservation : ActionReservation}
    (h : acquire library ledger request attemptId now leaseSeconds s = (.ok reservation, t)) :
    ∃ fingerprint, request.requestDigest library = .ok fingerprint ∧
      Acquired (request.keyDigest library) fingerprint s reservation t := by
  unfold acquire at h
  obtain ⟨_, h⟩ := Effect.require_bind_ok h
  obtain ⟨fingerprint, hfingerprint, h⟩ := Effect.ofExcept_bind_ok h
  exact ⟨fingerprint, hfingerprint, acquireRow_ok (Effect.transaction_ok h)⟩

theorem acquire_atomic {request : ActionRequest} {attemptId : String} {now : Instant}
    {leaseSeconds : Rat} : Atomic (acquire library ledger request attemptId now leaseSeconds) := by
  unfold acquire
  refine .bind .require fun _ => .bind .ofExcept fun _ => ?_
  exact .transaction

/-! ## Transitions -/

/-- What an attempt does to the row that it holds. -/
structure Transitioned (reservation : ActionReservation) (expected : List ActionState)
    (state : ActionState) (receipt : Option ActionReceipt) (s t : ActionTable) (row : ActionRow) : Prop where
  key : row.keyDigest = reservation.keyDigest
  attempt : row.attemptId = reservation.attemptId
  fence : row.fence = reservation.fence
  digest : row.requestDigest = reservation.requestDigest
  expected : row.state ∈ expected
  replaced : Table.Replaced s t row { row with state, receipt }

section
variable {reservation : ActionReservation} {now : Instant} {expected : List ActionState}
  {state : ActionState} {receipt : Option ActionReceipt} {outcome : ActionOutcome}

theorem transition_ok {u : Unit}
    (h : transition library reservation now expected state receipt s = (.ok u, t)) :
    ∃ row, Transitioned reservation expected state receipt s t row := by
  unfold transition at h
  replace h := Effect.transaction_ok h
  rw [Effect.read_then] at h
  obtain ⟨row, hfind, h⟩ := Effect.ofExcept_bind_ok h
  obtain ⟨⟨hattempt, hfence, hdigest, _, hstate⟩, h⟩ := Effect.require_bind_ok h
  obtain ⟨hrow, hkey⟩ := Table.find?_some (orRaise_ok hfind)
  cases h
  exact ⟨row, hkey, hattempt, hfence, hdigest, hstate, updateAction_replaced hrow hkey⟩

/-- An attempt that does not hold the row changes nothing. -/
theorem transition_stale (h : ∀ row, s.find? reservation.keyDigest = some row →
    row.fence ≠ reservation.fence ∨ row.leaseUntil ≤ library.timestamp now) :
    transition library reservation now expected state receipt s =
      (.error (.boundary "stale business execution attempt"), s) := by
  unfold transition Effect.transaction
  rw [Effect.read_then]
  cases hfind : s.find? reservation.keyDigest with
  | none => rfl
  | some row =>
    have hheld : ¬ row.HeldBy library reservation now expected := by
      rintro ⟨_, hfence, _, hlease, _⟩
      rcases h row hfind with hother | hexpired
      · exact hother hfence
      · exact absurd hlease (not_lt.mpr hexpired)
    have hor : orRaise (some row) (ActionError.boundary "stale business execution attempt") = .ok row := rfl
    rw [hor, Effect.ok_then, Effect.require_not_then _ hheld]
    rfl

theorem begin_ok {u : Unit} (h : begin library reservation now s = (.ok u, t)) :
    reservation.mode = .execute ∧
      ∃ row, Transitioned reservation [.reserved] .executing none s t row := by
  unfold begin at h
  obtain ⟨hmode, h⟩ := Effect.require_bind_ok h
  exact ⟨hmode, transition_ok h⟩

theorem begin_atomic : Atomic (begin library reservation now) := by
  unfold begin
  exact .bind .require fun _ => .transaction

theorem finish_ok {u : Unit} (h : finish library reservation outcome now s = (.ok u, t)) :
    (outcome.state = .outcomeUnknown ∨ ∃ receipt, outcome.receipt = some receipt ∧
      receipt.Binds reservation.keyDigest reservation.requestDigest outcome.state) ∧
      ∃ row, Transitioned reservation [.executing, .outcomeUnknown] outcome.state.stored
        outcome.receipt s t row := by
  unfold finish at h
  obtain ⟨hbound, h⟩ := Effect.require_bind_ok h
  refine ⟨hbound.imp_right fun hany => ?_, transition_ok h⟩
  cases hreceipt : outcome.receipt with
  | none =>
    rw [hreceipt] at hany
    cases hany
  | some receipt =>
    rw [hreceipt] at hany
    exact ⟨receipt, rfl, of_decide_eq_true hany⟩

theorem finish_atomic : Atomic (finish library reservation outcome now) := by
  unfold finish
  exact .bind .require fun _ => .transaction

end

end ProofAgent.BusinessActions
