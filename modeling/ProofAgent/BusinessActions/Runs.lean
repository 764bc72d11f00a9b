import ProofAgent.BusinessActions.History

/-! # Runs of the coordinator

What a run does is lawful and keeps the table in agreement, whatever others do between its
steps. -/
namespace ProofAgent.BusinessActions

open Base

variable {W : Type} {library : ActionLibrary} {ledger : LocalBusinessActionLedger}
  {runs : List (ActionRun W)} {s : ActionSystem W} {i : Nat} {call : ActionRun W}

/-! ## The transactions of the ledger -/

theorem currentFence_none {key : String} {events : List ActionEvent} (h : ∀ e ∈ events, e.key ≠ key) :
    currentFence key events = 0 := by
  induction events using List.reverseRecOn with
  | nil => rfl
  | append_singleton events e ih =>
    rw [currentFence_other (h e (List.mem_append_right _ (List.mem_singleton_self e)))]
    exact ih fun e' he' => h e' (List.mem_append_left _ he')

theorem recorded_of_reserved {row : ActionRow} (h : row.state = .reserved) : row.recorded? = none := by
  unfold ActionRow.recorded?
  rw [h]

/-- A row that changes without an outcome. -/
theorem evolves_replaced {s t : ActionTable} {row next : ActionRow} (h : Table.Replaced s t row next)
    (hdigest : next.requestDigest = row.requestDigest) (hnone : row.recorded? = none) :
    Table.Evolves RowFollows s t := by
  refine .of_replaced rowFollows_refl h ⟨h.same_key, hdigest, fun hsome => ?_⟩
  rw [hnone] at hsome
  cases hsome

/-- The rows under the key of a row that was replaced. -/
theorem replaced_key {s t : ActionTable} {row next found : ActionRow} (h : Table.Replaced s t row next)
    (hfound : found ∈ t.rows) (hkey : found.keyDigest = row.keyDigest) : found = next := by
  rcases h.mem_cases hfound with rfl | ⟨_, hne⟩
  · rfl
  · exact absurd hkey hne

/-- An event of the run about its own request. -/
def Asks (library : ActionLibrary) (call : ActionRun W) (r : ActionReservation) : Prop :=
  r.keyDigest = call.request.keyDigest library ∧ call.request.requestDigest library = .ok r.requestDigest

/-- A first acquisition, under a key that nothing was done under. -/
theorem inserted_kept {row : ActionRow} {r : ActionReservation} {actions : ActionTable}
    (h : Kept library runs s) (hown : ownEvents i s.events = []) (hcall : runs[i]? = some call)
    (hasks : Asks library call r) (hkey : row.keyDigest = r.keyDigest) (hdigest : row.requestDigest = r.requestDigest)
    (hstate : row.state = .reserved) (hfence : row.fence = r.fence) (hfirst : r.fence = 1)
    (hmode : r.mode = .execute) (hrows : actions.rows = s.actions.rows ++ [row])
    (hfresh : ∀ other ∈ s.actions.rows, other.keyDigest ≠ row.keyDigest) :
    Kept library runs { s with actions, events := s.events ++ [.acquired i r] } ∧
      Table.Evolves RowFollows s.actions actions := by
  have hnone : ∀ e ∈ s.events, e.key ≠ r.keyDigest := by
    intro e he hsameKey
    obtain ⟨other, hother, hotherKey, _⟩ := h.row e he
    exact hfresh other hother (hotherKey.trans (hsameKey.trans hkey.symm))
  have hbegan : ¬ Began r.keyDigest s.events := by
    rintro ⟨j, q, hmem, hsameKey⟩
    exact hnone _ hmem hsameKey
  have hfollows : Table.Evolves RowFollows s.actions actions := fun other hother =>
    ⟨other, by rw [hrows]; exact List.mem_append_left _ hother, rowFollows_refl other⟩
  have hlawful : Lawful s.events (.acquired i r) := by
    refine ⟨hown, fun _ => ?_, fun _ => hbegan, fun j q o hmem hsameKey => ?_⟩
    · rw [currentFence_none hnone, hfirst]
      exact Nat.one_pos
    · exact absurd hsameKey (hnone _ hmem)
  have hagrees : RowAgrees (s.events ++ [.acquired i r]) row := by
    have hunfinished : ∀ j q o, .finished j q o ∈ s.events ++ [.acquired i r] →
        q.keyDigest ≠ row.keyDigest := by
      intro j q o hmem hsameKey
      rcases List.mem_append.mp hmem with hmem | hmem
      · exact hnone _ hmem (hsameKey.trans hkey)
      · cases List.mem_singleton.mp hmem
    refine ⟨?_, ?_, fun _ j q o hmem hsameKey => ?_, fun outcome hsome => ?_⟩
    · rw [currentFence_concat, if_pos]
      · exact hfence
      · simp [ActionEvent.takes, hkey, hmode]
    · rw [hkey, hstate, began_concat]
      simp [hbegan]
    · exact absurd hsameKey (hunfinished j q o hmem)
    · rw [recorded_of_reserved hstate] at hsome
      cases hsome
  refine ⟨h.next hlawful ⟨call, hcall, hasks⟩ ⟨row, ?_, hkey, hdigest⟩ hfollows
    (fun other hother hne => ?_) fun found hfound hfoundKey => ?_, hfollows⟩
  · rw [hrows]
    exact List.mem_append_right _ (List.mem_singleton_self row)
  · rw [hrows, List.mem_append, List.mem_singleton] at hother
    refine hother.resolve_right fun heq => hne ?_
    rw [heq]
    exact hkey
  · rw [hrows, List.mem_append, List.mem_singleton] at hfound
    rcases hfound with hfound | rfl
    · exact absurd (hfoundKey.trans hkey.symm) (hfresh found hfound)
    · exact hagrees

/-- A later acquisition, of a row whose outcome is recorded. -/
theorem replayed_kept {row : ActionRow} {outcome : ReceiptOutcome} {receipt : ActionReceipt}
    {r : ActionReservation} (h : Kept library runs s) (hown : ownEvents i s.events = [])
    (hcall : runs[i]? = some call) (hasks : Asks library call r) (hrow : row ∈ s.actions.rows) (hkey : row.keyDigest = r.keyDigest)
    (hdigest : row.requestDigest = r.requestDigest) (hrecorded : row.recorded? = some outcome)
    (hreceipt : row.receipt = some receipt) (hmode : r.mode = .replay)
    (houtcome : r.outcome = some ⟨outcome.state, some receipt, true⟩) :
    Kept library runs { s with events := s.events ++ [.acquired i r] } := by
  have hlawful : Lawful s.events (.acquired i r) := by
    refine ⟨hown, fun hother => absurd hmode hother, fun hexecute => ?_, fun j q o hmem hsameKey hknown => ?_⟩
    · rw [hmode] at hexecute
      cases hexecute
    · obtain ⟨_, hall⟩ := (h.agrees row hrow).recorded outcome hrecorded
      obtain ⟨hstate, hkept⟩ := hall j q o hmem (hsameKey.trans hkey.symm) hknown
      rw [hreceipt] at hkept
      refine ⟨hmode, ?_⟩
      rw [houtcome, ← hstate, ← hkept]
  refine h.next hlawful ⟨call, hcall, hasks⟩ ⟨row, hrow, hkey, hdigest⟩ (.refl rowFollows_refl)
    (fun _ hother _ => hother) fun found hfound _ => ?_
  refine (h.agrees found hfound).concat ?_ (fun _ _ he => ?_) fun _ _ _ he => ?_
  · simp [ActionEvent.takes, hmode]
  · cases he
  · cases he

/-- A later acquisition, of a row without an outcome. -/
theorem tookOver_kept {row : ActionRow} {r : ActionReservation} {leaseUntil : Rat}
    {actions : ActionTable} (h : Kept library runs s) (hown : ownEvents i s.events = [])
    (hcall : runs[i]? = some call) (hasks : Asks library call r) (hkey : row.keyDigest = r.keyDigest)
    (hdigest : row.requestDigest = r.requestDigest) (hnone : row.recorded? = none)
    (hfence : r.fence = row.fence + 1)
    (hmode : r.mode = if row.state = .reserved then .execute else .reconcile)
    (hreplaced : Table.Replaced s.actions actions row (row.takenOver r leaseUntil)) :
    Kept library runs { s with actions, events := s.events ++ [.acquired i r] } ∧
      Table.Evolves RowFollows s.actions actions := by
  have hold := h.agrees row hreplaced.mem_old
  have hfollows : Table.Evolves RowFollows s.actions actions := evolves_replaced hreplaced rfl hnone
  have hreplay : r.mode ≠ .replay := by
    rw [hmode]
    split <;> nofun
  have hexecute : r.mode = .execute ↔ row.state = .reserved := by
    rw [hmode]
    split <;> simp_all
  have hlawful : Lawful s.events (.acquired i r) := by
    refine ⟨hown, fun _ => ?_, fun hmode => ?_, fun j q o hmem hsameKey hknown => ?_⟩
    · rw [← hkey, ← hold.fence, hfence]
      exact Nat.lt_succ_self _
    · rw [← hkey, ← hold.began]
      exact not_not.mpr (hexecute.mp hmode)
    · exact absurd (hold.unrecorded hnone j q o hmem (hsameKey.trans hkey.symm)) hknown
  have hagrees : RowAgrees (s.events ++ [.acquired i r]) (row.takenOver r leaseUntil) := by
    have hstate : (row.takenOver r leaseUntil).state ≠ .reserved ↔ row.state ≠ .reserved := by
      unfold ActionRow.takenOver
      by_cases hreserved : row.state = .reserved
      · simp [hreserved, hexecute]
      · simp [hreserved, hexecute]
    have hunrecorded : (row.takenOver r leaseUntil).recorded? = none := by
      unfold ActionRow.takenOver ActionRow.recorded?
      by_cases hmode : r.mode = .execute
      · simp [hmode]
      · simp [hmode]
    refine ⟨?_, ?_, fun _ j q o hmem hsameKey => ?_, fun outcome hsome => ?_⟩
    · rw [currentFence_concat, if_pos]
      · rfl
      · unfold ActionEvent.takes
        rw [Bool.and_eq_true]
        exact ⟨decide_eq_true hkey.symm, decide_eq_true hreplay⟩
    · rw [hstate, hold.began, began_concat, or_iff_left]
      · rfl
      · rintro ⟨j, q, hevent, _⟩
        cases hevent
    · rcases List.mem_append.mp hmem with hmem | hmem
      · exact hold.unrecorded hnone j q o hmem hsameKey
      · cases List.mem_singleton.mp hmem
    · rw [hunrecorded] at hsome
      cases hsome
  refine ⟨h.next hlawful ⟨call, hcall, hasks⟩ ⟨_, hreplaced.mem_new, hkey, hdigest⟩ hfollows
    (fun found hfound hne => ?_) fun found hfound hfoundKey => ?_, hfollows⟩
  · rcases hreplaced.mem_cases hfound with rfl | ⟨hfound, _⟩
    · exact absurd hkey hne
    · exact hfound
  · rw [replaced_key hreplaced hfound (hfoundKey.trans hkey.symm)]
    exact hagrees

theorem Acquired.kept {fingerprint : String} {r : ActionReservation} {actions : ActionTable}
    (hacquired : Acquired (call.request.keyDigest library) fingerprint s.actions r actions)
    (h : Kept library runs s) (hown : ownEvents i s.events = []) (hcall : runs[i]? = some call)
    (hdigest : call.request.requestDigest library = .ok fingerprint) :
    Kept library runs { s with actions, events := s.events ++ [.acquired i r] } ∧
      Table.Evolves RowFollows s.actions actions := by
  cases hacquired with
  | inserted hkey hsame hstate hfirst hrows hfresh =>
    exact inserted_kept h hown hcall ⟨rfl, hdigest⟩ hkey hsame hstate hfirst rfl rfl hrows hfresh
  | replayed hrow hkey hsame hrecorded hreceipt =>
    exact ⟨replayed_kept h hown hcall ⟨rfl, hdigest⟩ hrow hkey hsame hrecorded hreceipt rfl rfl,
      .refl rowFollows_refl⟩
  | tookOver hkey hsame hnone hrKey hrDigest hfence hmode hreplaced =>
    exact tookOver_kept h hown hcall ⟨hrKey, hrDigest ▸ hdigest⟩ (hkey.trans hrKey.symm)
      (hsame.trans hrDigest.symm) hnone hfence hmode hreplaced

/-- A transition of the row that a run holds. -/
theorem Transitioned.kept {r : ActionReservation} {expected : List ActionState} {state : ActionState}
    {receipt : Option ActionReceipt} {actions : ActionTable} {row : ActionRow} {e : ActionEvent}
    (htransition : Transitioned r expected state receipt s.actions actions row)
    (h : Kept library runs s) (hr : e.reservation = r) (hacquired : .acquired e.run r ∈ s.events)
    (hnone : row.recorded? = none) (hlawful : Lawful s.events e)
    (hagrees : RowAgrees (s.events ++ [e]) { row with state, receipt }) :
    Kept library runs { s with actions, events := s.events ++ [e] } ∧
      Table.Evolves RowFollows s.actions actions := by
  have hreplaced := htransition.replaced
  have hfollows : Table.Evolves RowFollows s.actions actions := evolves_replaced hreplaced rfl hnone
  have hkey : row.keyDigest = e.key := by
    unfold ActionEvent.key
    rw [hr]
    exact htransition.key
  refine ⟨h.next hlawful ?_ ⟨_, hreplaced.mem_new, hkey, ?_⟩ hfollows (fun found hfound hne => ?_)
    fun found hfound hfoundKey => ?_, hfollows⟩
  · have hasked := h.asked _ hacquired
    unfold ActionEvent.key at hasked ⊢
    rw [hr]
    exact hasked
  · rw [hr]
    exact htransition.digest
  · rcases hreplaced.mem_cases hfound with rfl | ⟨hfound, _⟩
    · exact absurd hkey hne
    · exact hfound
  · rw [replaced_key hreplaced hfound (hfoundKey.trans hkey.symm)]
    exact hagrees

theorem begun_kept {r : ActionReservation} {actions : ActionTable} {row : ActionRow}
    (htransition : Transitioned r [.reserved] .executing none s.actions actions row)
    (h : Kept library runs s) (hmode : r.mode = .execute) (hacquired : .acquired i r ∈ s.events) :
    Kept library runs { s with actions, events := s.events ++ [.begun i r] } ∧
      Table.Evolves RowFollows s.actions actions := by
  have hold := h.agrees row htransition.replaced.mem_old
  have hstate : row.state = .reserved := List.mem_singleton.mp htransition.expected
  have hnone := recorded_of_reserved hstate
  refine htransition.kept h rfl hacquired hnone ⟨hacquired, hmode, ?_, ?_⟩
    ⟨?_, ?_, fun _ j q o hmem hsameKey => ?_, fun _ hsome => ?_⟩
  · rw [← htransition.key, ← hold.fence, htransition.fence]
  · rw [← htransition.key, ← hold.began]
    exact not_not.mpr hstate
  · rw [currentFence_concat]
    exact hold.fence
  · rw [began_concat]
    exact ⟨fun _ => .inr ⟨i, r, rfl, htransition.key.symm⟩, fun _ => nofun⟩
  · rcases List.mem_append.mp hmem with hmem | hmem
    · exact hold.unrecorded hnone j q o hmem hsameKey
    · cases List.mem_singleton.mp hmem
  · cases hsome

theorem recorded_stored {row : ActionRow} {state : OutcomeState} (h : row.state = state.stored) :
    (state = .outcomeUnknown ∧ row.recorded? = none) ∨
      ∃ outcome, row.recorded? = some outcome ∧ outcome.state = state := by
  unfold ActionRow.recorded?
  rw [h]
  cases state with
  | succeeded => exact .inr ⟨.succeeded, rfl, rfl⟩
  | failed => exact .inr ⟨.failed, rfl, rfl⟩
  | outcomeUnknown => exact .inl ⟨rfl, rfl⟩

theorem finished_kept {r : ActionReservation} {o : ActionOutcome} {actions : ActionTable} {row : ActionRow}
    (htransition : Transitioned r [.executing, .outcomeUnknown] o.state.stored o.receipt s.actions actions row)
    (h : Kept library runs s) (hbound : o.state = .outcomeUnknown ∨ o.receipt.isSome = true)
    (hacquired : .acquired i r ∈ s.events)
    (hcalled : .dispatched i r ∈ s.events ∨ .reconciled i r ∈ s.events) :
    Kept library runs { s with actions, events := s.events ++ [.finished i r o] } ∧
      Table.Evolves RowFollows s.actions actions := by
  have hold := h.agrees row htransition.replaced.mem_old
  have hstate : row.state = .executing ∨ row.state = .outcomeUnknown := by
    have hexpected := htransition.expected
    simpa using hexpected
  have hnone : row.recorded? = none := by
    unfold ActionRow.recorded?
    rcases hstate with hstate | hstate
    · rw [hstate]
    · rw [hstate]
  have hunknown : ∀ j q o', .finished j q o' ∈ s.events → q.keyDigest = row.keyDigest →
      o'.state = .outcomeUnknown := hold.unrecorded hnone
  have hcases : ∀ j q o', .finished j q o' ∈ s.events ++ [.finished i r o] → q.keyDigest = row.keyDigest →
      o'.state = .outcomeUnknown ∨ o' = o := by
    intro j q o' hmem hsameKey
    rcases List.mem_append.mp hmem with hmem | hmem
    · exact .inl (hunknown j q o' hmem hsameKey)
    · cases List.mem_singleton.mp hmem
      exact .inr rfl
  have hrecorded := @recorded_stored { row with state := o.state.stored, receipt := o.receipt } o.state rfl
  refine htransition.kept h rfl hacquired hnone ⟨hcalled, ?_, fun j q o' hmem hsameKey => ?_⟩
    ⟨?_, ?_, fun hopen j q o' hmem hsameKey => ?_, fun outcome hsome => ?_⟩
  · rw [← htransition.key, ← hold.fence, htransition.fence]
  · exact hunknown j q o' hmem (hsameKey.trans htransition.key.symm)
  · rw [currentFence_concat]
    exact hold.fence
  · have hbegan : Began row.keyDigest s.events := hold.began.mp fun hreserved => by
      rw [hreserved] at hstate
      simp at hstate
    have hstored : o.state.stored ≠ .reserved := by
      cases o.state <;> nofun
    rw [began_concat]
    exact ⟨fun _ => .inl hbegan, fun _ => hstored⟩
  · rcases hcases j q o' hmem hsameKey with hstate | rfl
    · exact hstate
    · rcases hrecorded with ⟨hstate, _⟩ | ⟨_, hsome, _⟩
      · exact hstate
      · rw [hopen] at hsome
        cases hsome
  · rcases hrecorded with ⟨_, hopen⟩ | ⟨outcome', hsome', hsame⟩
    · rw [hopen] at hsome
      cases hsome
    · rw [hsome'] at hsome
      cases hsome
      refine ⟨hbound.resolve_left fun hstate => ?_, fun j q o' hmem hsameKey hknown => ?_⟩
      · rw [hstate] at hsame
        cases outcome <;> cases hsame
      · rcases hcases j q o' hmem hsameKey with hstate | rfl
        · exact absurd hstate hknown
        · exact ⟨hsame.symm, rfl⟩

/-! ## The steps of a run -/

section
variable (library runs)

/-- A run has done so much, in a history that is kept. -/
def Stage (i : Nat) (done : List ActionEvent) (s : ActionSystem W) : Prop :=
  Kept library runs s ∧ ownEvents i s.events = done

/-- What others do to a run. -/
def Undisturbed (i : Nat) (s t : ActionSystem W) : Prop :=
  (Kept library runs s → Kept library runs t) ∧ ownEvents i t.events = ownEvents i s.events

/-- What a step of a run does. -/
structure Acts (i : Nat) (s t : ActionSystem W) : Prop where
  kept : Kept library runs t
  follows : Table.Evolves RowFollows s.actions t.actions
  events : t.events = s.events ∧ t.actions = s.actions ∨ ∃ e, e.run = i ∧ t.events = s.events ++ [e] ∧
    (t.actions = s.actions ∨ e.writes = true)

/-- What a run leads to. -/
abbrev RunLeads {α : Type} (i : Nat) (x : ActionProcess W α)
    (Q : Except ActionError α → ActionSystem W → Prop) (s : ActionSystem W) : Prop :=
  x.Leads (Undisturbed library runs i) (Acts library runs i) Q s

end

section
variable {α : Type} {done : List ActionEvent} {t : ActionSystem W} {c : BusinessActionCoordinator W}
  {request : ActionRequest} {r : ActionReservation}

theorem Kept.congr (h : Kept library runs s) (hactions : t.actions = s.actions)
    (hevents : t.events = s.events) : Kept library runs t := by
  obtain ⟨actions, world, events⟩ := t
  cases hactions
  cases hevents
  exact ⟨h.lawful, h.asked, h.row, h.agrees⟩

theorem Stage.undisturbed (h : Stage library runs i done s) (hst : Undisturbed library runs i s t) :
    Stage library runs i done t :=
  ⟨hst.1 h.1, hst.2.trans h.2⟩

/-- A step that does nothing to the ledger. -/
theorem acts_quiet (h : Kept library runs s) (hactions : t.actions = s.actions)
    (hevents : t.events = s.events) : Acts library runs i s t where
  kept := h.congr hactions hevents
  follows := by
    rw [hactions]
    exact .refl rowFollows_refl
  events := .inl ⟨hevents, hactions⟩

/-- What comes after a part of a run that leaves the stage as it is. -/
theorem stage_then {β : Type} {x : ActionProcess W α} {f : α → ActionProcess W β}
    {Q : Except ActionError β → ActionSystem W → Prop}
    (hx : RunLeads library runs i x (fun _ => Stage library runs i done) s)
    (he : ∀ e t, Stage library runs i done t → Q (.error e) t)
    (hf : ∀ a t, Stage library runs i done t → RunLeads library runs i (f a) Q t) :
    RunLeads library runs i (x >>= f) Q s :=
  Process.Leads.bind (Q := fun _ => Stage library runs i done) hf he hx

theorem ask_leads (answer : Answer W α) (h : Stage library runs i done s) :
    RunLeads library runs i (ask answer) (fun _ => Stage library runs i done) s := by
  refine .atomic fun s' hs' => ?_
  have hstage := h.undisturbed hs'
  exact ⟨acts_quiet hstage.1 rfl rfl, hstage.1.congr rfl rfl, hstage.2⟩

theorem cancellation_leads (check : Option (Answer W Unit)) (h : Stage library runs i done s) :
    RunLeads library runs i (cancellation check) (fun _ => Stage library runs i done) s := by
  cases check with
  | none => exact h
  | some check => exact ask_leads check h

theorem authorize_leads (h : Stage library runs i done s) :
    RunLeads library runs i (authorize library c request) (fun _ => Stage library runs i done) s := by
  unfold authorize
  refine stage_then (ask_leads _ h) (fun _ _ ht => ht) fun now t ht => ?_
  refine stage_then (ask_leads _ ht) (fun _ _ ht => ht) fun found t ht => ?_
  cases found with
  | none => exact ht
  | some authorization =>
    dsimp only
    split
    · have hdigest : RunLeads library runs i (.ofExcept (request.requestDigest library))
          (fun _ => Stage library runs i done) t := ht
      refine stage_then hdigest (fun _ _ ht => ht) fun digest t ht => ?_
      split
      · refine stage_then (ask_leads _ ht) (fun _ _ ht => ht) fun current t ht => ?_
        cases current with
        | false => exact ht
        | true => exact ht
      · exact ht
    · exact ht

/-- A call of the provider, or of anything else that an event is noted of. -/
theorem note_leads {e : ActionEvent} (h : Stage library runs i done s) (hrun : e.run = i)
    (hkept : ∀ s, Stage library runs i done s → Kept library runs { s with events := s.events ++ [e] }) :
    RunLeads library runs i (note e) (fun _ => Stage library runs i (done ++ [e])) s := by
  refine .atomic fun s' hs' => ?_
  have hstage := h.undisturbed hs'
  refine ⟨⟨hkept s' hstage, .refl rowFollows_refl, .inr ⟨e, hrun, rfl, .inl rfl⟩⟩, hkept s' hstage, ?_⟩
  rw [← hstage.2]
  exact ownEvents_concat hrun

/-- A transaction of the ledger. -/
theorem inLedger_leads {query : ActionQuery α} {event : α → ActionEvent}
    {Q : Except ActionError α → ActionSystem W → Prop} (h : Stage library runs i done s)
    (hatomic : Atomic query) (hrun : ∀ a, (event a).run = i ∧ (event a).writes = true)
    (he : ∀ e t, Stage library runs i done t → Q (.error e) t)
    (hok : ∀ s a actions, Stage library runs i done s → query s.actions = (.ok a, actions) →
      Kept library runs { s with actions, events := s.events ++ [event a] } ∧
        Table.Evolves RowFollows s.actions actions ∧
        ∀ t, Stage library runs i (done ++ [event a]) t → Q (.ok a) t) :
    RunLeads library runs i (inLedger query event) Q s := by
  refine .atomic fun s' hs' => ?_
  have hstage := h.undisturbed hs'
  unfold onLedger
  rcases hquery : query s'.actions with ⟨e | a, actions⟩
  · have hsame := hatomic _ _ _ hquery
    exact ⟨acts_quiet hstage.1 hsame rfl, he e _ ⟨hstage.1.congr hsame rfl, hstage.2⟩⟩
  · obtain ⟨hkept, hfollows, hQ⟩ := hok s' a actions hstage hquery
    refine ⟨⟨hkept, hfollows, .inr ⟨event a, (hrun a).1, rfl, .inr (hrun a).2⟩⟩, hQ _ ⟨hkept, ?_⟩⟩
    rw [← hstage.2]
    exact ownEvents_concat (hrun a).1

end

/-! ## The run -/

/-- The call of the provider that a reservation is for. -/
def calling (i : Nat) (r : ActionReservation) : ActionEvent :=
  if r.mode = .execute then .dispatched i r else .reconciled i r

/-- What a run has done before it calls the provider. -/
def beforeCall (i : Nat) (r : ActionReservation) : List ActionEvent :=
  if r.mode = .execute then [.acquired i r, .begun i r] else [.acquired i r]

section
variable {done : List ActionEvent} {t : ActionSystem W} {c : BusinessActionCoordinator W}
  {request : ActionRequest} {r : ActionReservation}

theorem calling_run : (calling i r).run = i := by
  unfold calling
  split <;> rfl

theorem acquired_mem_beforeCall : .acquired i r ∈ beforeCall i r := by
  unfold beforeCall
  split <;> simp

theorem called_kept (h : Stage library runs i (beforeCall i r) s) (hmode : r.mode ≠ .replay) :
    Kept library runs { s with events := s.events ++ [calling i r] } := by
  have hacquired : .acquired i r ∈ s.events := by
    refine mem_of_own (i := i) ?_
    rw [h.2]
    exact acquired_mem_beforeCall
  by_cases hexecute : r.mode = .execute
  · have hown : ownEvents i s.events = [.acquired i r, .begun i r] := by
      rw [h.2]
      exact if_pos hexecute
    have hcalling : calling i r = .dispatched i r := if_pos hexecute
    rw [hcalling]
    refine h.1.noted ⟨mem_of_own (i := i) ?_, fun q hmem => ?_⟩ hacquired rfl rfl (fun _ => rfl)
      (fun _ _ he => ?_) fun _ _ _ he => ?_
    · rw [hown]
      simp
    · have hmine := mem_own hmem
      unfold ActionEvent.run at hmine
      rw [hown] at hmine
      simp at hmine
    · cases he
    · cases he
  · have hcalling : calling i r = .reconciled i r := if_neg hexecute
    have hreconcile : r.mode = .reconcile := by
      cases hr : r.mode with
      | execute => exact absurd hr hexecute
      | reconcile => rfl
      | replay => exact absurd hr hmode
    rw [hcalling]
    refine h.1.noted ⟨hacquired, hreconcile⟩ hacquired rfl rfl (fun _ => rfl)
      (fun _ _ he => ?_) fun _ _ _ he => ?_
    · cases he
    · cases he

theorem callProvider_leads {authorization : ActionAuthorization} (h : Stage library runs i (beforeCall i r) s)
    (hmode : r.mode ≠ .replay) :
    RunLeads library runs i (callProvider c i request authorization r)
      (fun _ => Stage library runs i (beforeCall i r ++ [calling i r])) s := by
  have hnote := note_leads h calling_run fun s hs => called_kept hs hmode
  unfold callProvider
  unfold calling at hnote ⊢
  split
  · rename_i hexecute
    rw [if_pos hexecute] at hnote
    exact Process.Leads.bind (Q := fun _ => Stage library runs i (beforeCall i r ++ [.dispatched i r]))
      (fun _ t ht => ask_leads _ ht) (fun _ _ ht => ht) hnote
  · rename_i hexecute
    rw [if_neg hexecute] at hnote
    exact Process.Leads.bind (Q := fun _ => Stage library runs i (beforeCall i r ++ [.reconciled i r]))
      (fun _ t ht => ask_leads _ ht) (fun _ _ ht => ht) hnote

theorem outcomeOf_leads {result : ProviderActionResult} (h : Stage library runs i done s) :
    RunLeads library runs i (outcomeOf library c request result) (fun _ => Stage library runs i done) s := by
  unfold outcomeOf
  split
  · exact h
  · split
    · exact h
    · split
      · have hdigest : RunLeads library runs i (.ofExcept (request.requestDigest library))
            (fun _ => Stage library runs i done) s := h
        refine stage_then hdigest (fun _ _ ht => ht) fun digest t ht => ?_
        split
        · refine stage_then (ask_leads _ ht) (fun _ _ ht => ht) fun verified t ht => ?_
          cases verified with
          | false => exact ht
          | true => exact ht
        · exact ht
      · exact h

theorem settle_leads {authorization : ActionAuthorization} (h : Stage library runs i (beforeCall i r) s)
    (hmode : r.mode ≠ .replay) :
    RunLeads library runs i (settle library c i request authorization r)
      (fun _ => Stage library runs i (beforeCall i r ++ [calling i r])) s := by
  unfold settle
  have hcalled : RunLeads library runs i
      (callProvider c i request authorization r >>= fun result => outcomeOf library c request result)
      (fun _ => Stage library runs i (beforeCall i r ++ [calling i r])) s :=
    Process.Leads.bind (Q := fun _ => Stage library runs i (beforeCall i r ++ [calling i r]))
      (fun _ t ht => outcomeOf_leads ht) (fun _ _ ht => ht) (callProvider_leads h hmode)
  refine stage_then (Process.Leads.caught hcalled) (fun _ _ ht => ht) fun outcome t ht => ?_
  cases outcome with
  | ok outcome => exact ht
  | error e =>
    dsimp only
    split
    · exact ht
    · exact ht

theorem beginExecution_leads (h : Stage library runs i [.acquired i r] s) :
    RunLeads library runs i (beginExecution library c i r)
      (fun result t => result = .ok () → Stage library runs i (beforeCall i r) t) s := by
  unfold beginExecution
  by_cases hexecute : r.mode = .execute
  · rw [if_pos hexecute]
    refine stage_then (ask_leads _ h) (fun _ _ _ he => (nomatch he)) fun now t ht => ?_
    refine inLedger_leads ht begin_atomic (fun _ => ⟨rfl, rfl⟩) (fun _ _ _ he => (nomatch he)) ?_
    intro s u actions hs hquery
    obtain ⟨_, row, htransition⟩ := begin_ok hquery
    have hacquired : .acquired i r ∈ s.events := by
      refine mem_of_own (i := i) ?_
      rw [hs.2]
      exact List.mem_singleton_self _
    obtain ⟨hkept, hfollows⟩ := begun_kept htransition hs.1 hexecute hacquired
    refine ⟨hkept, hfollows, fun t ht _ => ?_⟩
    unfold beforeCall
    rw [if_pos hexecute]
    exact ht
  · rw [if_neg hexecute]
    intro _
    unfold beforeCall
    rw [if_neg hexecute]
    exact h

/-- What a run returns: the outcome that was recorded before, or the one that it has recorded. -/
def Returned (i : Nat) (result : Except ActionError ActionOutcome) (events : List ActionEvent) : Prop :=
  ∀ outcome, result = .ok outcome →
    (∃ r, .acquired i r ∈ events ∧ r.mode = .replay ∧ r.outcome = some outcome) ∨
      ∃ r, .finished i r outcome ∈ events

theorem carryOut_leads {check : Option (Answer W Unit)} (h : Stage library runs i [.acquired i r] s)
    (hmode : r.mode ≠ .replay) :
    RunLeads library runs i (carryOut library c i request r check)
      (fun result t => Returned i result t.events) s := by
  have hraised : ∀ (e : ActionError) (t : ActionSystem W), Returned i (.error e) t.events :=
    fun _ _ _ he => (nomatch he)
  unfold carryOut
  refine stage_then (cancellation_leads check h) (fun e t _ => hraised e t) fun _ t ht => ?_
  refine stage_then (authorize_leads ht) (fun e t _ => hraised e t) fun authorization t ht => ?_
  refine Process.Leads.bind (Q := fun result t => result = .ok () → Stage library runs i (beforeCall i r) t)
    (fun _ t ht => ?_) (fun e t _ => hraised e t) (beginExecution_leads ht)
  refine Process.Leads.bind (Q := fun _ => Stage library runs i (beforeCall i r ++ [calling i r]))
    (fun outcome t ht => ?_) (fun e t _ => hraised e t) (settle_leads (ht rfl) hmode)
  refine stage_then (ask_leads _ ht) (fun e t _ => hraised e t) fun now t ht => ?_
  refine Process.Leads.bind (Q := fun result t => result = .ok () →
      Stage library runs i (beforeCall i r ++ [calling i r] ++ [.finished i r outcome]) t)
    (fun _ t ht => ?_) (fun e t _ => hraised e t) ?_
  · have hfinished : ∀ t, Stage library runs i
        (beforeCall i r ++ [calling i r] ++ [.finished i r outcome]) t →
        Returned i (.ok outcome) t.events := by
      intro t ht o ho
      cases ho
      refine .inr ⟨r, mem_of_own (i := i) ?_⟩
      rw [ht.2]
      exact List.mem_append_right _ (List.mem_singleton_self _)
    refine stage_then (cancellation_leads check (ht rfl)) (fun e t _ => hraised e t) fun _ t ht => ?_
    exact hfinished t ht
  · refine inLedger_leads ht finish_atomic (fun _ => ⟨rfl, rfl⟩) (fun _ _ _ he => (nomatch he)) ?_
    intro s u actions hs hquery
    obtain ⟨hbound, row, htransition⟩ := finish_ok hquery
    have hmine : ∀ e ∈ beforeCall i r ++ [calling i r], e ∈ s.events := by
      intro e he
      refine mem_of_own (i := i) ?_
      rw [hs.2]
      exact he
    have hcalled : .dispatched i r ∈ s.events ∨ .reconciled i r ∈ s.events := by
      have hmem := hmine (calling i r) (List.mem_append_right _ (List.mem_singleton_self _))
      unfold calling at hmem
      split at hmem
      · exact .inl hmem
      · exact .inr hmem
    obtain ⟨hkept, hfollows⟩ := finished_kept htransition hs.1
      (hbound.imp_right fun ⟨receipt, hreceipt, _⟩ => by rw [hreceipt]; rfl)
      (hmine _ (List.mem_append_left _ acquired_mem_beforeCall)) hcalled
    exact ⟨hkept, hfollows, fun t ht _ => ht⟩

/-- **A run**, from its first step on. -/
theorem execute_leads (hcall : runs[i]? = some call) (h : Stage library runs i [] s) :
    RunLeads library runs i (execute library ledger i call)
      (fun result t => Returned i result t.events) s := by
  have hraised : ∀ (e : ActionError) (t : ActionSystem W), Returned i (.error e) t.events :=
    fun _ _ _ he => (nomatch he)
  unfold execute
  split
  · exact hraised _ s
  refine stage_then (authorize_leads h) (fun e t _ => hraised e t) fun _ t ht => ?_
  refine stage_then (ask_leads _ ht) (fun e t _ => hraised e t) fun now t ht => ?_
  refine Process.Leads.bind (Q := fun result t => ∀ r, result = .ok r →
      Stage library runs i [.acquired i r] t) (fun r t ht => ?_) (fun e t _ => hraised e t) ?_
  · replace ht := ht r rfl
    split
    · rename_i hreplay
      refine stage_then (authorize_leads ht) (fun e t _ => hraised e t) fun _ t ht outcome ho => ?_
      refine .inl ⟨r, mem_of_own (i := i) ?_, hreplay, orRaise_ok ho⟩
      rw [ht.2]
      exact List.mem_singleton_self _
    · rename_i hreplay
      exact carryOut_leads ht hreplay
  · refine inLedger_leads ht acquire_atomic (fun _ => ⟨rfl, rfl⟩) (fun _ _ _ _ he => (nomatch he)) ?_
    intro s r actions hs hquery
    obtain ⟨fingerprint, hdigest, hacquired⟩ := acquire_ok hquery
    obtain ⟨hkept, hfollows⟩ := hacquired.kept hs.1 hs.2 hcall hdigest
    refine ⟨hkept, hfollows, fun t ht q hq => ?_⟩
    cases hq
    exact ht

end

end ProofAgent.BusinessActions
