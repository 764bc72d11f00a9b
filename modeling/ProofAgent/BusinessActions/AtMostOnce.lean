import ProofAgent.BusinessActions.Runs

/-! # Business actions are dispatched at most once

Runs of any coordinators go by any schedule, and one that is not scheduled again has
crashed. For each key the provider is called to execute once, by the run that has begun the
action as the holder of its fence; what comes later reconciles, until there is an outcome
to replay. -/
namespace ProofAgent.BusinessActions

open Base

variable {W : Type} (library : ActionLibrary) (ledger : LocalBusinessActionLedger)
  (runs : List (ActionRun W))

abbrev ActionPool (W : Type) : Type := Pool (ActionSystem W) ActionError ActionOutcome

/-- What a step of a run guarantees. -/
def Guaranteed (i : Nat) (result : Option (Except ActionError ActionOutcome)) (s t : ActionSystem W) :
    Prop :=
  Acts library runs i s t ∧ ∀ r, result = some r → Returned i r t.events

section
variable {library} {ledger} {runs} {s t : ActionSystem W} {i j : Nat}

theorem kept_empty (world : W) : Kept library runs ⟨.empty, world, []⟩ where
  lawful := .nil
  asked _ h := (nomatch h)
  row _ h := (nomatch h)
  agrees _ h := (nomatch h)

theorem Acts.undisturbed (h : Acts library runs i s t) (hij : i ≠ j) : Undisturbed library runs j s t := by
  refine ⟨fun _ => h.kept, ?_⟩
  rcases h.events with ⟨hevents, _⟩ | ⟨e, hrun, hevents, _⟩
  · rw [hevents]
  · rw [hevents]
    exact ownEvents_other (hrun ▸ hij)

theorem Acts.mem (h : Acts library runs i s t) {e : ActionEvent} (he : e ∈ s.events) : e ∈ t.events := by
  rcases h.events with ⟨hevents, _⟩ | ⟨_, _, hevents, _⟩
  · rw [hevents]
    exact he
  · rw [hevents]
    exact List.mem_append_left _ he

theorem actions_cooperation : Cooperation (fun _ => Kept library runs) (Undisturbed library runs)
    (Guaranteed library runs) where
  refl _ _ := ⟨id, rfl⟩
  trans h h' := ⟨fun hs => h'.1 (h.1 hs), h'.2.trans h.2⟩
  tolerates hij _ h := h.1.undisturbed hij

theorem actionPool_leads (world : W) {x : ActionProcess W ActionOutcome}
    (hx : (actionPool library ledger world runs).calls[i]? = some x) :
    RunLeads library runs i x (fun result t => Returned i result t.events) ⟨.empty, world, []⟩ := by
  unfold actionPool at hx
  rw [List.getElem?_mapIdx, Option.map_eq_some_iff] at hx
  obtain ⟨call, hcall, rfl⟩ := hx
  exact execute_leads hcall ⟨kept_empty world, rfl⟩

variable (library ledger runs) in
theorem actionPool_obeys (world : W) : (actionPool library ledger world runs).Obeys
    (fun _ => Kept library runs) (Undisturbed library runs) (Guaranteed library runs) := by
  intro i x hx
  exact (actionPool_leads world hx).obeys (fun hs hst => hst.1 hs) (fun hacts => hacts.kept)
    (kept_empty world)

variable (library ledger runs) in
theorem interleave_kept (world : W) (schedule : List Nat) :
    Kept library runs ((actionPool library ledger world runs).interleave schedule).state := by
  refine Pool.Obeys.invariant (I := fun c => Kept library runs c.state) actions_cooperation ?_
    (actionPool_obeys library ledger runs world) (kept_empty world)
  intro c i write next _ hcall _ hguaranteed
  rw [Pool.advance_step hcall]
  exact hguaranteed.1.kept

theorem Returned.mono {result : Except ActionError ActionOutcome} {events more : List ActionEvent}
    (h : Returned i result events) (hmore : ∀ e ∈ events, e ∈ more) : Returned i result more := by
  intro outcome houtcome
  rcases h outcome houtcome with ⟨r, hmem, hmode⟩ | ⟨r, hmem⟩
  · exact .inl ⟨r, hmore _ hmem, hmode⟩
  · exact .inr ⟨r, hmore _ hmem⟩

variable (library ledger runs) in
theorem interleave_returned (world : W) (schedule : List Nat) :
    ∀ i result, ((actionPool library ledger world runs).interleave schedule).result i = some result →
      Returned i result ((actionPool library ledger world runs).interleave schedule).state.events := by
  refine Pool.Obeys.invariant
    (I := fun c => ∀ i result, c.result i = some result → Returned i result c.state.events)
    actions_cooperation ?_ (actionPool_obeys library ledger runs world) ?_
  · intro c j write next hc hcall _ hguaranteed i result hresult
    rw [Pool.advance_step hcall] at hresult ⊢
    by_cases hij : j = i
    · subst hij
      rw [Pool.result_set_self hcall] at hresult
      exact hguaranteed.2 result hresult
    · have hold : c.result i = some result := by
        rw [← Pool.result_advance_ne hij, Pool.advance_step hcall]
        exact hresult
      exact (hc i result hold).mono fun _ he => hguaranteed.1.mem he
  · intro i result hresult
    unfold Pool.result at hresult
    obtain ⟨x, hx, hended⟩ := Option.bind_eq_some_iff.mp hresult
    exact (actionPool_leads world hx).ended hended

end

/-! ## What every schedule does -/

/-- The dispatch of a key. -/
def ActionEvent.dispatches (key : String) : ActionEvent → Bool
  | dispatched _ r => r.keyDigest = key
  | _ => false

/-- What has been done at `c`, and what is done from there on. -/
structure DispatchedOnce (c : ActionPool W) : Prop where
  once : ∀ key, c.state.events.countP (ActionEvent.dispatches key) ≤ 1
  /-- A dispatch comes after the holder of the current fence has begun. -/
  holder : ∀ before i r after, c.state.events = before ++ .dispatched i r :: after →
    ∃ earlier later, before = earlier ++ .begun i r :: later ∧ .acquired i r ∈ earlier ∧
      r.mode = .execute ∧ r.fence = currentFence r.keyDigest earlier ∧ ¬ Began r.keyDigest earlier
  /-- An attempt on a key whose action has begun. -/
  reconciles : ∀ before i r after, c.state.events = before ++ .acquired i r :: after →
    Began r.keyDigest before → r.mode ≠ .execute ∧ ∀ q, .dispatched i q ∉ c.state.events
  fences : ∀ before i r after, c.state.events = before ++ .acquired i r :: after → r.mode ≠ .replay →
    currentFence r.keyDigest before < r.fence
  current : ∀ row ∈ c.state.actions.rows, row.fence = currentFence row.keyDigest c.state.events
  /-- Only an acquisition, or the holder of the current fence, changes the table. -/
  changes : ∀ i, (c.advance i).state.actions ≠ c.state.actions →
    ∃ e, e.run = i ∧ (c.advance i).state.events = c.state.events ++ [e] ∧
      ((∃ r, e = .acquired i r) ∨ e.reservation.fence = currentFence e.key c.state.events)
  /-- An attempt with another fence, or whose lease has expired. -/
  stale : ∀ r now, (∀ row, c.state.actions.find? r.keyDigest = some row →
      row.fence ≠ r.fence ∨ row.leaseUntil ≤ library.timestamp now) →
    (∃ e, begin library r now c.state.actions = (.error e, c.state.actions)) ∧
      ∀ outcome, ∃ e, finish library r outcome now c.state.actions = (.error e, c.state.actions)
  /-- The outcome that a run has recorded is the one of the row. -/
  recorded : ∀ i r o, .finished i r o ∈ c.state.events → o.state ≠ .outcomeUnknown →
    ∃ row ∈ c.state.actions.rows, row.keyDigest = r.keyDigest ∧ row.receipt = o.receipt ∧
      row.recorded?.map ReceiptOutcome.state = some o.state
  settled : ∀ row ∈ c.state.actions.rows, row.recorded?.isSome = true → ∀ rest,
    row ∈ (c.interleave rest).state.actions.rows
  replays : ∀ before i r after, c.state.events = before ++ .acquired i r :: after →
    ∀ j q o, .finished j q o ∈ before → q.keyDigest = r.keyDigest → o.state ≠ .outcomeUnknown →
      r.mode = .replay ∧ r.outcome = some { o with replayed := true }
  returned : ∀ i result, c.result i = some result → Returned i result c.state.events
  /-- A run acquires once. -/
  acquires : ∀ before i r after, c.state.events = before ++ .acquired i r :: after →
    ownEvents i before = []
  /-- A request with the same key and another digest. -/
  conflicts : ∀ (i : Nat) call, runs[i]? = some call → ∀ row ∈ c.state.actions.rows,
    row.keyDigest = call.request.keyDigest library →
    call.request.requestDigest library ≠ .ok row.requestDigest →
    (∀ e ∈ c.state.events, e.run ≠ i) ∧ (c.advance i).state.actions = c.state.actions ∧
      ∀ outcome, c.result i ≠ some (.ok outcome)

section
variable {library} {runs} {s : ActionSystem W} {events : List ActionEvent}

theorem begun_unique (h : Justified Lawful events) {i j : Nat} {r q : ActionReservation}
    (hr : .begun i r ∈ events) (hq : .begun j q ∈ events) (hkey : r.keyDigest = q.keyDigest) :
    (.begun i r : ActionEvent) = .begun j q := by
  refine h.unique (p := fun e => ∃ i r, e = .begun i r ∧ r.keyDigest = q.keyDigest) ?_ hr hq
    ⟨i, r, rfl, hkey⟩ ⟨j, q, rfl, rfl⟩
  rintro before e hlawful ⟨i, r, rfl, hkey⟩ e' he' ⟨j, q', rfl, hkey'⟩
  exact hlawful.2.2.2 ⟨j, q', he', hkey'.trans hkey.symm⟩

theorem acquired_unique (h : Justified Lawful events) {i : Nat} {r q : ActionReservation}
    (hr : .acquired i r ∈ events) (hq : .acquired i q ∈ events) : r = q := by
  have hsame : (.acquired i r : ActionEvent) = .acquired i q := by
    refine h.unique (p := fun e => ∃ r, e = .acquired i r) ?_ hr hq ⟨r, rfl⟩ ⟨q, rfl⟩
    rintro before e hlawful ⟨r, rfl⟩ e' he' ⟨q, rfl⟩
    have hmine := mem_own he'
    have hnone : ownEvents i before = [] := hlawful.1
    unfold ActionEvent.run at hmine
    rw [hnone] at hmine
    cases hmine
  cases hsame
  rfl

/-- What comes before a dispatch. -/
theorem dispatched_begun (h : Justified Lawful events) {i : Nat} {r : ActionReservation}
    (hmem : .dispatched i r ∈ events) : .acquired i r ∈ events ∧ r.mode = .execute := by
  obtain ⟨before, after, rfl⟩ := List.append_of_mem hmem
  obtain ⟨hbegun, _⟩ := h before _ after rfl
  obtain ⟨earlier, later, rfl⟩ := List.append_of_mem hbegun
  obtain ⟨hacquired, hmode, _⟩ := h.before earlier _ later rfl
  exact ⟨by simp [hacquired], hmode⟩

theorem dispatched_once (h : Justified Lawful events) (key : String) :
    events.countP (ActionEvent.dispatches key) ≤ 1 := by
  have hwhole : Justified (fun before e => Justified Lawful before ∧ Lawful before e) events := by
    intro before e after hsplit
    refine ⟨?_, h before e after hsplit⟩
    rw [hsplit] at h
    exact h.before
  refine hwhole.countP_le_one fun before e hlawful he e' he' => ?_
  rw [← Bool.not_eq_true]
  intro hother
  cases e with
  | acquired | begun | reconciled | finished => cases he
  | dispatched i r =>
    cases e' with
    | acquired | begun | reconciled | finished => cases hother
    | dispatched j q =>
      obtain ⟨hbefore, hbegun, hnone⟩ := hlawful
      have hkey : r.keyDigest = q.keyDigest := (of_decide_eq_true he).trans (of_decide_eq_true hother).symm
      obtain ⟨earlier, later, hsplit⟩ := List.append_of_mem he'
      have hbegun' : .begun j q ∈ before := by
        rw [hsplit]
        exact List.mem_append_left _ (hbefore earlier _ later hsplit).1
      cases begun_unique hbefore hbegun hbegun' hkey
      exact hnone r he'

theorem Kept.recorded (h : Kept library runs s) {i : Nat} {r : ActionReservation} {o : ActionOutcome}
    (hmem : .finished i r o ∈ s.events) (hknown : o.state ≠ .outcomeUnknown) :
    ∃ row ∈ s.actions.rows, row.keyDigest = r.keyDigest ∧ row.receipt = o.receipt ∧
      row.recorded?.map ReceiptOutcome.state = some o.state := by
  obtain ⟨row, hrow, hkey, _⟩ := h.row _ hmem
  have hagrees := h.agrees row hrow
  cases hrecorded : row.recorded? with
  | none => exact absurd (hagrees.unrecorded hrecorded i r o hmem hkey.symm) hknown
  | some outcome =>
    obtain ⟨hstate, hreceipt⟩ := (hagrees.recorded outcome hrecorded).2 i r o hmem hkey.symm hknown
    rw [hstate]
    exact ⟨row, hrow, hkey, hreceipt.symm, congrArg (Option.map ReceiptOutcome.state) hrecorded⟩

theorem Kept.unasked (h : Kept library runs s) {i : Nat} {call : ActionRun W}
    (hcall : runs[i]? = some call) {row : ActionRow} (hrow : row ∈ s.actions.rows)
    (hkey : row.keyDigest = call.request.keyDigest library)
    (hother : call.request.requestDigest library ≠ .ok row.requestDigest) :
    ∀ e ∈ s.events, e.run ≠ i := by
  rintro e he rfl
  obtain ⟨call', hcall', hasked, hdigest⟩ := h.asked e he
  obtain ⟨row', hrow', hkey', hdigest'⟩ := h.row e he
  rw [hcall] at hcall'
  cases hcall'
  have hsame : row' = row := Table.eq_of_key hrow' hrow (hkey'.trans (hasked.trans hkey.symm))
  rw [← hsame, hdigest'] at hother
  exact hother hdigest

end

/-- **Business actions** are dispatched at most once. -/
theorem actions_dispatched_once (world : W) (schedule : List Nat) :
    DispatchedOnce library runs ((actionPool library ledger world runs).interleave schedule) := by
  have hobeys : ((actionPool library ledger world runs).interleave schedule).Obeys
      (fun _ => Kept library runs) (Undisturbed library runs) (Guaranteed library runs) :=
    (actionPool_obeys library ledger runs world).interleave actions_cooperation
  have hkept := interleave_kept library ledger runs world schedule
  have hreturned := interleave_returned library ledger runs world schedule
  generalize (actionPool library ledger world runs).interleave schedule = c at *
  have hlawful := hkept.lawful
  have hacts : ∀ i, (c.advance i).state = c.state ∨ Acts library runs i c.state (c.advance i).state := by
    intro i
    rcases c.advance_cases i with hsame | ⟨write, next, hcall, hadvance⟩
    · exact .inl (congrArg Pool.state hsame)
    · obtain ⟨_, hguaranteed, _⟩ := hobeys.step actions_cooperation hcall
      rw [hadvance]
      exact .inr hguaranteed.1
  refine ⟨dispatched_once hlawful, fun before i r after hsplit => ?_,
    fun before i r after hsplit hbegan => ?_, fun before i r after hsplit => ?_,
    fun row hrow => (hkept.agrees row hrow).fence, fun i hchanged => ?_, fun r now hstale => ?_,
    fun i r o hmem hknown => hkept.recorded hmem hknown, fun row hrow hrecorded rest => ?_,
    fun before i r after hsplit => ?_, hreturned, fun before i r after hsplit => ?_,
    fun i call hcall row hrow hkey hother => ?_⟩
  · obtain ⟨hbegun, _⟩ := hlawful before _ after hsplit
    obtain ⟨earlier, later, hearlier⟩ := List.append_of_mem hbegun
    have hbefore : Justified Lawful before := by
      rw [hsplit] at hlawful
      exact hlawful.before
    obtain ⟨hacquired, hmode, hfence, hfirst⟩ := hbefore earlier _ later hearlier
    exact ⟨earlier, later, hearlier, hacquired, hmode, hfence, hfirst⟩
  · have hmode : r.mode ≠ .execute := fun hexecute =>
      (hlawful before _ after hsplit).2.2.1 hexecute hbegan
    refine ⟨hmode, fun q hmem => hmode ?_⟩
    obtain ⟨hacquired, hexecute⟩ := dispatched_begun hlawful hmem
    have hr : .acquired i r ∈ c.state.events := by
      rw [hsplit]
      simp
    rw [acquired_unique hlawful hr hacquired]
    exact hexecute
  · exact (hlawful before _ after hsplit).2.1
  · rcases hacts i with hsame | hacts
    · exact absurd (congrArg ActionSystem.actions hsame) hchanged
    · rcases hacts.events with ⟨_, hsame⟩ | ⟨e, hrun, hevents, hwrites⟩
      · exact absurd hsame hchanged
      · have he : Lawful c.state.events e := by
          have hafter := hacts.kept.lawful
          rw [hevents] at hafter
          exact hafter.last
        refine ⟨e, hrun, hevents, ?_⟩
        have hwrote := hwrites.resolve_left hchanged
        cases e with
        | acquired j r =>
          cases hrun
          exact .inl ⟨r, rfl⟩
        | begun j r => exact .inr he.2.2.1
        | finished j r o => exact .inr he.2.1
        | dispatched | reconciled => cases hwrote
  · refine ⟨?_, fun outcome => ?_⟩
    · unfold begin
      by_cases hmode : r.mode = .execute
      · rw [Effect.require_then _ hmode]
        exact ⟨_, transition_stale hstale⟩
      · rw [Effect.require_not_then _ hmode]
        exact ⟨_, rfl⟩
    · unfold finish
      by_cases hbound : outcome.state = .outcomeUnknown ∨ outcome.receipt.any (fun receipt =>
          receipt.Binds r.keyDigest r.requestDigest outcome.state) = true
      · rw [Effect.require_then _ hbound]
        exact ⟨_, transition_stale hstale⟩
      · rw [Effect.require_not_then _ hbound]
        exact ⟨_, rfl⟩
  · have hfollows : Table.Evolves RowFollows c.state.actions (c.interleave rest).state.actions :=
      Pool.Obeys.related (T := fun s t => Table.Evolves RowFollows s.actions t.actions)
        actions_cooperation (fun _ => .refl rowFollows_refl) (Table.Evolves.trans rowFollows_trans)
        (fun _ hguaranteed => hguaranteed.1.follows) hobeys
    obtain ⟨next, hnext, _, _, hsame⟩ := hfollows row hrow
    rw [← hsame hrecorded]
    exact hnext
  · exact (hlawful before _ after hsplit).2.2.2
  · exact (hlawful before _ after hsplit).1
  · have hunasked := hkept.unasked hcall hrow hkey hother
    refine ⟨hunasked, ?_, fun outcome hended => ?_⟩
    · rcases hacts i with hsame | hacts
      · rw [hsame]
      rcases hacts.events with ⟨_, hsame⟩ | ⟨e, hrun, hevents, _⟩
      · exact hsame
      · obtain ⟨next, hnext, hnextKey, hnextDigest, _⟩ := hacts.follows row hrow
        have he : e ∈ (c.advance i).state.events := by
          rw [hevents]
          exact List.mem_append_right _ (List.mem_singleton_self e)
        rw [← hnextDigest] at hother
        exact absurd hrun (hacts.kept.unasked hcall hnext (hnextKey.trans hkey) hother e he)
    · rcases hreturned i _ hended outcome rfl with ⟨r, hmem, _⟩ | ⟨r, hmem⟩
      · exact hunasked _ hmem rfl
      · exact hunasked _ hmem rfl

end ProofAgent.BusinessActions
