import ProofAgent.Base.Trails
import ProofAgent.BusinessActions.Coordinator
import ProofAgent.BusinessActions.LedgerCalls

/-! # Histories of business actions

What runs have done is lawful when every event follows from the ones before it: a key is
begun once and by the holder of its fence, is dispatched by the run that has begun it, and
its known outcome comes once. The rows of the ledger agree with what has been done. -/
namespace ProofAgent.BusinessActions

open Base

variable {W : Type}

namespace ActionEvent

def run : ActionEvent → Nat
  | acquired run _ | begun run _ | dispatched run _ | reconciled run _ | finished run _ _ => run

def reservation : ActionEvent → ActionReservation
  | acquired _ r | begun _ r | dispatched _ r | reconciled _ r | finished _ r _ => r

def key (e : ActionEvent) : String := e.reservation.keyDigest

/-- Whether an event takes a fence of the key. -/
def takes (key : String) : ActionEvent → Bool
  | acquired _ r => r.keyDigest = key && r.mode ≠ .replay
  | _ => false

/-- Whether an event is a transaction of the ledger. -/
def writes : ActionEvent → Bool
  | acquired _ _ | begun _ _ | finished _ _ _ => true
  | dispatched _ _ | reconciled _ _ => false

end ActionEvent

/-- The fence that was taken last of a key. -/
def currentFence (key : String) (events : List ActionEvent) : Nat :=
  events.foldl (fun fence e => if e.takes key = true then e.reservation.fence else fence) 0

/-- The action of a key has begun. -/
def Began (key : String) (events : List ActionEvent) : Prop :=
  ∃ i r, .begun i r ∈ events ∧ r.keyDigest = key

/-- What a run has done. -/
def ownEvents (i : Nat) (events : List ActionEvent) : List ActionEvent :=
  events.filter fun e => e.run = i

/-- What each event follows from. -/
def Lawful (before : List ActionEvent) : ActionEvent → Prop
  | .acquired i r => ownEvents i before = [] ∧
    (r.mode ≠ .replay → currentFence r.keyDigest before < r.fence) ∧
    (r.mode = .execute → ¬ Began r.keyDigest before) ∧
    (∀ j q o, .finished j q o ∈ before → q.keyDigest = r.keyDigest → o.state ≠ .outcomeUnknown →
      r.mode = .replay ∧ r.outcome = some { o with replayed := true })
  | .begun i r => .acquired i r ∈ before ∧ r.mode = .execute ∧
    r.fence = currentFence r.keyDigest before ∧ ¬ Began r.keyDigest before
  | .dispatched i r => .begun i r ∈ before ∧ ∀ q, .dispatched i q ∉ before
  | .reconciled i r => .acquired i r ∈ before ∧ r.mode = .reconcile
  | .finished i r _ => (.dispatched i r ∈ before ∨ .reconciled i r ∈ before) ∧
    r.fence = currentFence r.keyDigest before ∧
    ∀ j q o, .finished j q o ∈ before → q.keyDigest = r.keyDigest → o.state = .outcomeUnknown

/-- A row agrees with what has been done under its key. -/
structure RowAgrees (events : List ActionEvent) (row : ActionRow) : Prop where
  fence : row.fence = currentFence row.keyDigest events
  began : row.state ≠ .reserved ↔ Began row.keyDigest events
  unrecorded : row.recorded? = none → ∀ i r o, .finished i r o ∈ events →
    r.keyDigest = row.keyDigest → o.state = .outcomeUnknown
  recorded : ∀ outcome, row.recorded? = some outcome → row.receipt.isSome = true ∧
    ∀ i r o, .finished i r o ∈ events → r.keyDigest = row.keyDigest → o.state ≠ .outcomeUnknown →
      o.state = outcome.state ∧ o.receipt = row.receipt

/-- The history is lawful, each event is about the request of its run, and the table agrees. -/
structure Kept (library : ActionLibrary) (runs : List (ActionRun W)) (s : ActionSystem W) : Prop where
  lawful : Justified Lawful s.events
  asked : ∀ e ∈ s.events, ∃ call, runs[e.run]? = some call ∧
    e.key = call.request.keyDigest library ∧
    call.request.requestDigest library = .ok e.reservation.requestDigest
  row : ∀ e ∈ s.events, ∃ row ∈ s.actions.rows, row.keyDigest = e.key ∧
    row.requestDigest = e.reservation.requestDigest
  agrees : ∀ row ∈ s.actions.rows, RowAgrees s.events row

/-- What becomes of a row: its request stays, and so does all of it once its outcome is recorded. -/
def RowFollows (row next : ActionRow) : Prop :=
  next.keyDigest = row.keyDigest ∧ next.requestDigest = row.requestDigest ∧
    (row.recorded?.isSome = true → next = row)

section
variable {key : String} {events : List ActionEvent} {e : ActionEvent} {row next : ActionRow}
  {s t : ActionTable}

theorem rowFollows_refl (row : ActionRow) : RowFollows row row := ⟨rfl, rfl, fun _ => rfl⟩

theorem rowFollows_trans (row next later : ActionRow) (h : RowFollows row next)
    (h' : RowFollows next later) : RowFollows row later := by
  obtain ⟨hkey, hdigest, hsame⟩ := h
  obtain ⟨hkey', hdigest', hsame'⟩ := h'
  refine ⟨hkey'.trans hkey, hdigest'.trans hdigest, fun hrecorded => ?_⟩
  have hnext := hsame hrecorded
  subst hnext
  exact hsame' hrecorded

/-! ## One more event -/

theorem currentFence_concat : currentFence key (events ++ [e]) =
    if e.takes key = true then e.reservation.fence else currentFence key events := by
  unfold currentFence
  rw [List.foldl_append]
  rfl

theorem takes_key (h : e.takes key = true) : e.key = key := by
  cases e with
  | acquired i r =>
    unfold ActionEvent.takes at h
    rw [Bool.and_eq_true] at h
    exact of_decide_eq_true h.1
  | begun | dispatched | reconciled | finished => cases h

theorem currentFence_other (h : e.key ≠ key) :
    currentFence key (events ++ [e]) = currentFence key events := by
  rw [currentFence_concat, if_neg fun htakes => h (takes_key htakes)]

theorem began_concat : Began key (events ++ [e]) ↔
    Began key events ∨ ∃ i r, e = .begun i r ∧ r.keyDigest = key := by
  unfold Began
  constructor
  · rintro ⟨i, r, hmem, hkey⟩
    rcases List.mem_append.mp hmem with hmem | hmem
    · exact .inl ⟨i, r, hmem, hkey⟩
    · exact .inr ⟨i, r, (List.mem_singleton.mp hmem).symm, hkey⟩
  · rintro (⟨i, r, hmem, hkey⟩ | ⟨i, r, rfl, hkey⟩)
    · exact ⟨i, r, List.mem_append_left _ hmem, hkey⟩
    · exact ⟨i, r, List.mem_append_right _ (List.mem_singleton_self _), hkey⟩

/-- An event that takes no fence of the row, does not begin it and does not finish it. -/
theorem RowAgrees.concat (h : RowAgrees events row) (hfence : e.takes row.keyDigest = false)
    (hbegun : ∀ i r, e = .begun i r → r.keyDigest ≠ row.keyDigest)
    (hfinished : ∀ i r o, e = .finished i r o → r.keyDigest ≠ row.keyDigest) :
    RowAgrees (events ++ [e]) row := by
  have hold : ∀ i r o, .finished i r o ∈ events ++ [e] → r.keyDigest = row.keyDigest →
      .finished i r o ∈ events := by
    intro i r o hmem hkey
    rcases List.mem_append.mp hmem with hmem | hmem
    · exact hmem
    · exact absurd hkey (hfinished i r o (List.mem_singleton.mp hmem).symm)
  refine ⟨?_, ?_, fun hnone i r o hmem hkey => ?_, fun outcome hsome => ?_⟩
  · rw [currentFence_concat, hfence, if_neg Bool.false_ne_true]
    exact h.fence
  · rw [began_concat, or_iff_left]
    · exact h.began
    · rintro ⟨i, r, he, hkey⟩
      exact hbegun i r he hkey
  · exact h.unrecorded hnone i r o (hold i r o hmem hkey) hkey
  · obtain ⟨hreceipt, hall⟩ := h.recorded outcome hsome
    exact ⟨hreceipt, fun i r o hmem hkey => hall i r o (hold i r o hmem hkey) hkey⟩

/-- An event under another key. -/
theorem RowAgrees.other (h : RowAgrees events row) (hkey : e.key ≠ row.keyDigest) :
    RowAgrees (events ++ [e]) row := by
  refine h.concat ?_ ?_ ?_
  · rw [← Bool.not_eq_true]
    exact fun htakes => hkey (takes_key htakes)
  · rintro i r rfl
    exact hkey
  · rintro i r o rfl
    exact hkey

/-! ## What a run has done -/

theorem ownEvents_concat {i : Nat} (h : e.run = i) :
    ownEvents i (events ++ [e]) = ownEvents i events ++ [e] := by
  simp [ownEvents, List.filter_append, h]

theorem ownEvents_other {i : Nat} (h : e.run ≠ i) :
    ownEvents i (events ++ [e]) = ownEvents i events := by
  simp [ownEvents, List.filter_append, h]

theorem mem_of_own {i : Nat} (h : e ∈ ownEvents i events) : e ∈ events := List.mem_of_mem_filter h

theorem mem_own (h : e ∈ events) : e ∈ ownEvents e.run events :=
  List.mem_filter.mpr ⟨h, decide_eq_true rfl⟩

end

section
variable {library : ActionLibrary} {runs : List (ActionRun W)} {s : ActionSystem W} {e : ActionEvent}
  {actions : ActionTable}

/-- **One more event**, with what it does to the row of its key. -/
theorem Kept.next (h : Kept library runs s) (hlawful : Lawful s.events e)
    (hasked : ∃ call, runs[e.run]? = some call ∧ e.key = call.request.keyDigest library ∧
      call.request.requestDigest library = .ok e.reservation.requestDigest)
    (hrow : ∃ row ∈ actions.rows, row.keyDigest = e.key ∧
      row.requestDigest = e.reservation.requestDigest)
    (hfollows : Table.Evolves RowFollows s.actions actions)
    (hothers : ∀ row ∈ actions.rows, row.keyDigest ≠ e.key → row ∈ s.actions.rows)
    (hagrees : ∀ row ∈ actions.rows, row.keyDigest = e.key → RowAgrees (s.events ++ [e]) row) :
    Kept library runs { s with actions, events := s.events ++ [e] } where
  lawful := h.lawful.concat hlawful
  asked e' he' := by
    rcases List.mem_append.mp he' with he' | he'
    · exact h.asked e' he'
    · rw [List.mem_singleton.mp he']
      exact hasked
  row e' he' := by
    rcases List.mem_append.mp he' with he' | he'
    · obtain ⟨row, hrow, hkey, hdigest⟩ := h.row e' he'
      obtain ⟨next, hnext, hsame, hrequest, _⟩ := hfollows row hrow
      exact ⟨next, hnext, hsame.trans hkey, hrequest.trans hdigest⟩
    · rw [List.mem_singleton.mp he']
      exact hrow
  agrees row hrow := by
    by_cases hkey : row.keyDigest = e.key
    · exact hagrees row hrow hkey
    · exact (h.agrees row (hothers row hrow hkey)).other (Ne.symm hkey)

/-- The event of a run that has a row and leaves it as it is. -/
theorem Kept.noted (h : Kept library runs s) (hlawful : Lawful s.events e) {e' : ActionEvent}
    (he' : e' ∈ s.events) (hrun : e'.run = e.run) (hreservation : e'.reservation = e.reservation)
    (hfence : ∀ key, e.takes key = false) (hbegun : ∀ i r, e ≠ .begun i r)
    (hfinished : ∀ i r o, e ≠ .finished i r o) :
    Kept library runs { s with events := s.events ++ [e] } := by
  have hkey : e'.key = e.key := congrArg ActionReservation.keyDigest hreservation
  obtain ⟨call, hcall, hrequest, hdigest⟩ := h.asked e' he'
  obtain ⟨row, hrow, hrowKey, hrowDigest⟩ := h.row e' he'
  refine h.next hlawful ?_ ?_ ?_ (fun _ hrow _ => hrow) fun row hrow _ => ?_
  · rw [hrun] at hcall
    rw [hkey] at hrequest
    rw [hreservation] at hdigest
    exact ⟨call, hcall, hrequest, hdigest⟩
  · rw [hkey] at hrowKey
    rw [hreservation] at hrowDigest
    exact ⟨row, hrow, hrowKey, hrowDigest⟩
  · exact Table.Evolves.refl rowFollows_refl
  · exact (h.agrees row hrow).concat (hfence _) (fun i r he => absurd he (hbegun i r))
      fun i r o he => absurd he (hfinished i r o)

end

end ProofAgent.BusinessActions
