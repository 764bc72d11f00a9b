import ProofAgent.ControlledReact.Calls

/-! # A run is bounded

An action that observes is only chosen while a round is left, and its observation
uses the round up. A final answer goes back for a gap at most once before that. So
the rounds that are left, counted twice, and the answer that is pending go down with
every step of the loop. -/
namespace ProofAgent

open Base

namespace ControlledReActOrchestrator

variable {W T S : Type} {rt : Runtime} {knowledge : RunKnowledge} {ports : ControlledReActPorts W T S}
  {limit : Nat} {state : ControlledReActRunState} {action : ReActActionProposal}
  {events : List RunEvent}

/-! ## The measure -/

/-- An action that observes has a round left for it. -/
def RoundLeft (limit : Nat) (current : ControlledReActRunState × ReActActionProposal) : Prop :=
  current.2.actionType.observes = true → current.1.planRound < limit

/-- What is left of the loop. -/
def stepsLeft (limit : Nat) (current : ControlledReActRunState × ReActActionProposal) : Nat :=
  2 * (limit - current.1.planRound) +
    if current.2.actionType = .generateFinalAnswer then 1 else 0

theorem Planned.round {next : ControlledReActRunState × ReActActionProposal}
    (h : Planned ports limit state events (some next)) :
    next.1.planRound = state.planRound ∧ RoundLeft limit next := by
  cases h with
  | chosen scope eligible action hscope hround => exact ⟨rfl, hround⟩

theorem CommittedTo.round {before observed : ControlledReActRunState}
    (h : CommittedTo before action observed events) : observed.planRound = before.planRound := by
  cases h with
  | again => rfl
  | recorded record htype hnext =>
    rw [hnext]

theorem Followed.round {before : ControlledReActRunState}
    {next : ControlledReActRunState × ReActActionProposal}
    (h : Followed ports limit before action events (some next)) :
    next.1.planRound = before.planRound ∧ RoundLeft limit next := by
  cases h with
  | committed hcommit hsave hplan =>
    obtain ⟨hround, hleft⟩ := hplan.round
    exact ⟨hround.trans hcommit.round, hleft⟩

theorem Dispatched.round {bound : ControlledReActRunState × ReActActionProposal}
    (h : Dispatched rt state action bound) : bound.1.planRound = state.planRound := by
  obtain ⟨parameters, hbind⟩ := h.binds
  obtain ⟨_, rfl⟩ | ⟨_, _, _, _, rfl⟩ := bindToolProposal_ok hbind
  · rfl
  · rfl

/-- A step that the loop goes on from consumes a round, or goes back for a gap. -/
theorem Stepped.round {request : ControlledReActStartRequest}
    {next : ControlledReActRunState × ReActActionProposal}
    (h : Stepped rt ports request limit state action events (some next)) :
    RoundLeft limit next ∧
      (action.actionType.observes = true ∧ next.1.planRound = state.planRound + 1 ∨
        action.actionType = .generateFinalAnswer ∧ state.planRound < limit ∧ next.1 = state ∧
          next.2.actionType = .planRetrieval) := by
  cases h with
  | gap requirement hanswer hround => exact ⟨fun _ => hround, .inr ⟨hanswer, hround, rfl, rfl⟩⟩
  | retrieved hretrieval hfollow =>
    obtain ⟨hround, hleft⟩ := hfollow.round
    exact ⟨hleft, .inl ⟨by rw [hretrieval]; rfl, hround⟩⟩
  | called hdispatch hpolicy hcap hfollow =>
    obtain ⟨hround, hleft⟩ := hfollow.round
    refine ⟨hleft, .inl ⟨by rw [hdispatch.proposes]; rfl, hround.trans ?_⟩⟩
    exact congrArg (· + 1) hdispatch.round

/-- **Every step of the loop** leaves less of it. -/
theorem Stepped.decreases {request : ControlledReActStartRequest}
    {next : ControlledReActRunState × ReActActionProposal}
    (h : Stepped rt ports request limit state action events (some next))
    (hleft : RoundLeft limit (state, action)) :
    RoundLeft limit next ∧ stepsLeft limit next < stepsLeft limit (state, action) := by
  obtain ⟨hnext, ⟨hobs, hround⟩ | ⟨hanswer, hlt, hstate, hretrieval⟩⟩ := h.round
  · refine ⟨hnext, ?_⟩
    have hlt : state.planRound < limit := hleft hobs
    simp only [stepsLeft, hround]
    split
    · omega
    · omega
  · refine ⟨hnext, ?_⟩
    simp [stepsLeft, hstate, hanswer, hretrieval]

/-! ## Termination -/

open Orchestration

/-- The fuel that always suffices under a limit. -/
def enoughFuel (limit : Nat) : Nat := 2 * limit + 2

theorem stepsLeft_lt (limit : Nat) (current : ControlledReActRunState × ReActActionProposal) :
    stepsLeft limit current < enoughFuel limit := by
  unfold stepsLeft enoughFuel
  split
  · omega
  · omega

/-- The loop ends under enough fuel. -/
theorem runLoop_ends (fuel : Nat) (request : ControlledReActStartRequest) (limit : Nat)
    (current : ControlledReActRunState × ReActActionProposal) (hfuel : enoughFuel limit ≤ fuel)
    (hleft : RoundLeft limit current) :
    Triple (fun _ : Machine W T S => True) (runLoop rt knowledge ports fuel request limit current)
      (fun r _ => r ≠ none) fun _ _ => True := by
  refine (Triple.loop_ends (I := fun c _ => RoundLeft limit c) (μ := stepsLeft limit) (fun c => ?_)
    fuel current (Nat.lt_of_lt_of_le (stepsLeft_lt limit current) hfuel)).pre fun _ _ => hleft
  intro m hc
  have hemits : Emits (journaled W T fun _ _ => True) (loopStep rt knowledge ports request limit c)
      _ _ := loopStep_emits (fun store _ => store.keeps_anything) request limit c
  refine ⟨fun step m' hr => ?_, fun _ _ _ => trivial⟩
  obtain ⟨events, _, hreturned⟩ := (hemits m).1 step m' hr
  cases step with
  | inl next => exact Stepped.decreases hreturned hc
  | inr result => trivial

/-- The action that a run plans first has a round left, if it observes. -/
theorem planNextAction_roundLeft {m m' : Machine W T S}
    {current : ControlledReActRunState × ReActActionProposal}
    (h : planNextAction rt knowledge ports state limit m = (.ok current, m')) :
    RoundLeft limit current := by
  have hemits : Emits (journaled W T fun _ _ => True)
      (planNextAction rt knowledge ports state limit) _ _ := planNextAction_emits state limit
  obtain ⟨events, _, hplanned⟩ := (hemits m).1 current m' h
  exact hplanned.round.2

/-- From this machine on `x` ends, and `y` does what `x` does. -/
def Settled {α : Type} (x y : Orchestration W T S (Option α)) (m : Machine W T S) : Prop :=
  (x m).1 ≠ .ok none ∧ y m = x m

namespace Settled

variable {α β : Type} {x y : Orchestration W T S (Option α)} {m : Machine W T S}

theorem const (h : (x m).1 ≠ .ok none) : Settled x x m := ⟨h, rfl⟩

theorem bind {z : Orchestration W T S β} {f g : β → Orchestration W T S (Option α)}
    (h : ∀ b m', z m = (.ok b, m') → Settled (f b) (g b) m') :
    Settled (z >>= f) (z >>= g) m := by
  refine ⟨fun hnone => ?_, Effect.bind_congr fun b m' hz => (h b m' hz).2⟩
  rcases hz : z m with ⟨e | b, m'⟩
  · rw [Effect.bind_of_error hz] at hnone
    cases hnone
  · rw [Effect.bind_of_ok hz] at hnone
    exact (h b m' hz).1 hnone

/-- What comes after a call that settles. -/
theorem andThen {f : Option α → Orchestration W T S (Option β)} (h : Settled x y m)
    (hf : ∀ a m', (f (some a) m').1 ≠ .ok none) : Settled (x >>= f) (y >>= f) m := by
  obtain ⟨hends, heq⟩ := h
  refine ⟨fun hnone => ?_, ?_⟩
  · rcases hx : x m with ⟨e | a, m'⟩
    · rw [Effect.bind_of_error hx] at hnone
      cases hnone
    · rw [Effect.bind_of_ok hx] at hnone
      rw [hx] at hends
      cases a with
      | none => exact hends rfl
      | some a => exact hf a m' hnone
  · rw [Effect.run_bind, Effect.run_bind, heq]

theorem attempt {handler : ReactError → Orchestration W T S (Option α)} (h : Settled x y m)
    (hhandler : ∀ e m', (handler e m').1 ≠ .ok none) :
    Settled (Effect.attempt x handler) (Effect.attempt y handler) m := by
  obtain ⟨hends, heq⟩ := h
  refine ⟨fun hnone => ?_, Effect.attempt_congr heq⟩
  unfold Effect.attempt at hnone
  rcases hx : x m with ⟨e | a, m'⟩
  · rw [hx] at hnone
    exact hhandler e m' hnone
  · rw [hx] at hnone hends
    exact hends hnone

end Settled

/-- A call that ends in a value never returns `none`. -/
theorem bind_some_ne_none {α β : Type} {x : Orchestration W T S α} {f : α → β} (m : Machine W T S) :
    ((x >>= fun a => pure (some (f a))) m).1 ≠ .ok none := by
  rw [Effect.run_bind]
  rcases x m with ⟨e | a, m'⟩
  · exact nofun
  · exact nofun

variable {fuel : Nat} {request : ControlledReActStartRequest}

theorem planAndRun_settled (hfuel : enoughFuel limit ≤ fuel) (k : Nat) (m : Machine W T S) :
    Settled (planAndRun rt knowledge ports fuel request state limit)
      (planAndRun rt knowledge ports (fuel + k) request state limit) m := by
  refine Settled.bind fun current m' hplan => ?_
  have hends : (runLoop rt knowledge ports fuel request limit current m').1 ≠ .ok none := by
    intro hnone
    exact (runLoop_ends fuel request limit current hfuel (planNextAction_roundLeft hplan) m'
      trivial).1 none _ (Prod.ext hnone rfl) rfl
  exact ⟨hends, Effect.loop_more rfl hends k⟩

/-- **A start ends**, and what it does does not depend on the fuel. -/
theorem start_settled (hfuel : enoughFuel request.maxPlanRounds ≤ fuel) (k : Nat)
    (m : Machine W T S) :
    Settled (start rt knowledge ports fuel request) (start rt knowledge ports (fuel + k) request) m := by
  refine Settled.bind fun _ m₁ _ => Settled.andThen ?_ fun result m₂ => bind_some_ne_none m₂
  refine Settled.attempt ?_ fun e m₂ => ?_
  · refine Settled.bind fun _ m₂ _ => Settled.andThen ?_ fun result m₃ => ?_
    · refine Settled.bind fun entered m₃ _ => ?_
      cases entered with
      | inl state => exact planAndRun_settled hfuel k m₃
      | inr result => exact Settled.const nofun
    · exact bind_some_ne_none (f := fun _ => result) m₃
  · cases e with
    | budgetExceeded reason =>
      dsimp only
      rw [Effect.modify_then]
      exact bind_some_ne_none (f := fun _ => _) _
    | _ => exact nofun

/-! ## Rounds and commits -/

/-- The calls that observe, one a round. -/
def rounds (events : List RunEvent) : Nat :=
  events.countP fun
    | .knowledgeObserved .. | .toolObserved .. => true
    | _ => false

def commits (events : List RunEvent) : Nat :=
  events.countP fun
    | .committed _ => true
    | _ => false

theorem rounds_append (x y : List RunEvent) : rounds (x ++ y) = rounds x + rounds y :=
  List.countP_append

theorem commits_append (x y : List RunEvent) : commits (x ++ y) = commits x + commits y :=
  List.countP_append

/-- So many rounds were made since the run had `first` of them, and no more commits;
none was made beyond the limit. -/
structure Counted (limit first : Nat) (shown : List RunEvent) (planRound : Nat) : Prop where
  count : rounds shown + first = planRound
  within : rounds shown = 0 ∨ planRound ≤ limit
  commits_le : commits shown ≤ rounds shown

/-- The rounds and commits of a run, phase by phase. -/
def CountedIn (limit first : Nat) (shown : List RunEvent) : RunPhase → Prop
  | .planning l state | .choosing l state _ | .committed l state _ =>
    l = limit ∧ Counted limit first shown state.planRound
  | .acting l state action =>
    l = limit ∧ Counted limit first shown state.planRound ∧ RoundLeft limit (state, action)
  | .evaluated l bound _ =>
    l = limit ∧ Counted limit first shown bound.1.planRound ∧ bound.1.planRound < limit
  | .observed l observing _ =>
    l = limit ∧ Counted limit first shown observing.planRound ∧ commits shown < rounds shown
  | .idle => rounds shown ≤ limit ∧ commits shown ≤ rounds shown
  | .loaded _ | .decided .. => False

theorem Counted.le {first planRound : Nat} {shown : List RunEvent}
    (h : Counted limit first shown planRound) : rounds shown ≤ limit := by
  have hcount := h.count
  rcases h.within with hzero | hle
  · omega
  · omega

theorem CountedIn.le {first : Nat} {shown : List RunEvent} {p : RunPhase}
    (h : CountedIn limit first shown p) : rounds shown ≤ limit ∧ commits shown ≤ limit := by
  have hcounted : ∀ planRound, Counted limit first shown planRound →
      rounds shown ≤ limit ∧ commits shown ≤ limit := fun _ hc =>
    ⟨hc.le, hc.commits_le.trans hc.le⟩
  cases p with
  | idle => exact ⟨h.1, h.2.trans h.1⟩
  | loaded snapshot => exact h.elim
  | decided request state action => exact h.elim
  | planning l state => exact hcounted _ h.2
  | choosing l state scope => exact hcounted _ h.2
  | acting l state action => exact hcounted _ h.2.1
  | evaluated l bound decision => exact hcounted _ h.2.1
  | observed l observing action => exact hcounted _ h.2.1
  | committed l state action => exact hcounted _ h.2

/-- An event that is neither. -/
theorem Counted.quiet {first planRound : Nat} {shown more : List RunEvent}
    (h : Counted limit first shown planRound) (hr : rounds more = 0) (hc : commits more = 0) :
    Counted limit first (shown ++ more) planRound := by
  refine ⟨?_, ?_, ?_⟩
  · rw [rounds_append, hr]
    exact h.count
  · rw [rounds_append, hr]
    exact h.within
  · rw [rounds_append, commits_append, hr, hc]
    exact h.commits_le

/-- The call that makes one more round. -/
theorem Counted.observe {first planRound : Nat} {shown : List RunEvent} {e : RunEvent}
    (h : Counted limit first shown planRound) (hlt : planRound < limit) (hr : rounds [e] = 1)
    (hc : commits [e] = 0) : Counted limit first (shown ++ [e]) (planRound + 1) ∧
      commits (shown ++ [e]) < rounds (shown ++ [e]) := by
  have hcount := h.count
  have hle := h.commits_le
  refine ⟨⟨?_, .inr hlt, ?_⟩, ?_⟩
  · rw [rounds_append, hr]
    omega
  · rw [rounds_append, commits_append, hr, hc]
    omega
  · rw [rounds_append, commits_append, hr, hc]
    omega

/-- **Every move keeps the count.** -/
theorem RunMove.counted {first : Nat} {shown more : List RunEvent} {p q : RunPhase}
    (h : CountedIn limit first shown p) (hmove : RunMove rt ports p more q) :
    CountedIn limit first (shown ++ more) q := by
  cases hmove with
  | restarted l => exact h.elim
  | decided hpending => exact h.elim
  | approved happroved hintegrity => exact h.elim
  | denied hdenied => exact h.elim
  | resolved scope hport => exact ⟨h.1, h.2.quiet rfl rfl⟩
  | unscoped hport =>
    rw [List.append_nil]
    exact h
  | chosen eligible action hround =>
    rw [List.append_nil]
    obtain ⟨rfl, hcounted⟩ := h
    exact ⟨rfl, hcounted, hround⟩
  | gap requirement hanswer hround =>
    rw [List.append_nil]
    obtain ⟨rfl, hcounted, _⟩ := h
    exact ⟨rfl, hcounted, fun _ => hround⟩
  | retrieved hretrieval =>
    obtain ⟨rfl, hcounted, hleft⟩ := h
    exact ⟨rfl, hcounted.observe (hleft (by rw [hretrieval]; rfl)) rfl rfl⟩
  | evaluated hdispatch hpolicy =>
    obtain ⟨rfl, hcounted, hleft⟩ := h
    have hlt := hleft (by rw [hdispatch.proposes]; rfl)
    rw [← hdispatch.round] at hcounted hlt
    refine ⟨rfl, ?_, hlt⟩
    cases hpolicy with
    | policy hport => exact hcounted.quiet rfl rfl
    | unasked hport hdecision =>
      rw [List.append_nil]
      exact hcounted
  | called hcap =>
    obtain ⟨rfl, hcounted, hlt⟩ := h
    exact ⟨rfl, hcounted.observe hlt rfl rfl⟩
  | paused request =>
    obtain ⟨rfl, hcounted, _⟩ := h
    exact ⟨(hcounted.quiet rfl rfl).le, (hcounted.quiet rfl rfl).commits_le⟩
  | recorded hcommit =>
    obtain ⟨rfl, hcounted, hlt⟩ := h
    refine ⟨rfl, ?_⟩
    rw [hcommit.round]
    cases hcommit with
    | again =>
      rw [List.append_nil]
      exact hcounted
    | recorded record htype hnext =>
      refine ⟨?_, ?_, ?_⟩
      · rw [rounds_append]
        exact hcounted.count
      · rw [rounds_append]
        exact hcounted.within
      · rw [rounds_append, commits_append]
        exact hlt
  | checkpointed hsave =>
    cases hsave with
    | skipped =>
      rw [List.append_nil]
      exact h
    | saved htool htask => exact ⟨h.1, h.2.quiet rfl rfl⟩

theorem Started.counted {p : RunPhase} {request : ControlledReActStartRequest}
    (h : Started rt ports request events p) :
    rounds events ≤ request.maxPlanRounds ∧ commits events ≤ request.maxPlanRounds := by
  cases h with
  | refused => exact ⟨Nat.zero_le _, Nat.zero_le _⟩
  | ran hentered htrail =>
    rename_i state
    have hfirst : Counted request.maxPlanRounds state.planRound [] state.planRound :=
      ⟨Nat.zero_add _, .inl rfl, Nat.le_refl _⟩
    have hcount := (htrail.invariant (I := CountedIn request.maxPlanRounds state.planRound)
      (fun shown p y q hI hmove => RunMove.counted hI hmove) ⟨rfl, hfirst⟩).le
    rw [List.nil_append] at hcount
    cases hentered with
    | fresh _ => exact hcount
    | restarted snapshot =>
      rw [rounds_append, commits_append]
      simpa [rounds, commits] using hcount

/-- What bounds a start, whatever its ports do. -/
structure BoundedStart (rt : Runtime) (knowledge : RunKnowledge) (ports : ControlledReActPorts W T S)
    (request : ControlledReActStartRequest) : Prop where
  /-- The loop ends: enough fuel never runs out, and more of it changes nothing. -/
  terminates : ∀ m fuel, enoughFuel request.maxPlanRounds ≤ fuel →
    (start rt knowledge ports fuel request m).1 ≠ .ok none ∧
      ∀ k, start rt knowledge ports (fuel + k) request m = start rt knowledge ports fuel request m
  /-- A start makes at most so many rounds, and commits at most so many observations,
  whether it returns or raises. -/
  counted : ∀ m fuel, ∃ events,
    (start rt knowledge ports fuel request m).2.journal = m.journal ++ events ∧
      rounds events ≤ request.maxPlanRounds ∧ commits events ≤ request.maxPlanRounds
  /-- A final answer that goes back for a gap has a round left, and asks for a
  retrieval in the same state; the next step uses the round up or does not go on. -/
  recovery : ∀ state action m state' action' m',
    action.actionType = .generateFinalAnswer →
    loopStep rt knowledge ports request request.maxPlanRounds (state, action) m
      = (.ok (.inl (state', action')), m') →
    state.planRound < request.maxPlanRounds ∧ state' = state ∧
      action'.actionType = .planRetrieval ∧
      ∀ m₁ next m₂, loopStep rt knowledge ports request request.maxPlanRounds (state', action') m₁
        = (.ok (.inl next), m₂) → next.1.planRound = state.planRound + 1

end ControlledReActOrchestrator

open ControlledReActOrchestrator

variable {W T S : Type}

/-- **The loop is bounded.** -/
theorem start_bounded (rt : Runtime) (knowledge : RunKnowledge) (ports : ControlledReActPorts W T S)
    (request : ControlledReActStartRequest) : BoundedStart rt knowledge ports request where
  terminates m fuel hfuel :=
    ⟨(start_settled hfuel 0 m).1, fun k => (start_settled hfuel k m).2⟩
  counted m fuel := by
    have hemits : Emits (journaled W T fun _ _ => True) (start rt knowledge ports fuel request) _ _ :=
      start_emits (fun store _ => store.keeps_anything) fuel request
    rcases hr : start rt knowledge ports fuel request m with ⟨e | r, m'⟩
    · obtain ⟨events, hran, p, hstarted⟩ := (hemits m).2 e m' hr
      exact ⟨events, hran.1, hstarted.counted⟩
    · obtain ⟨events, hran, p, hstarted, _⟩ := (hemits m).1 r m' hr
      exact ⟨events, hran.1, hstarted.counted⟩
  recovery state action m state' action' m' hanswer hstep := by
    have hemits : ∀ c, Emits (journaled W T fun _ _ => True)
        (loopStep rt knowledge ports request request.maxPlanRounds c) _ _ :=
      fun c => loopStep_emits (fun store _ => store.keeps_anything) request _ c
    obtain ⟨events, _, hreturned⟩ := (hemits _ m).1 _ m' hstep
    have hround := (Stepped.round hreturned).2
    rcases hround with ⟨hobs, _⟩ | ⟨_, hlt, hstate, hretrieval⟩
    · dsimp only at hobs
      rw [hanswer] at hobs
      cases hobs
    · refine ⟨hlt, hstate, hretrieval, fun m₁ next m₂ hnext => ?_⟩
      obtain ⟨events', _, hreturned'⟩ := (hemits _ m₁).1 _ m₂ hnext
      rcases (Stepped.round hreturned').2 with ⟨_, hround⟩ | ⟨hanswer', _⟩
      · dsimp only at hround hstate
        rw [hround, hstate]
      · dsimp only at hanswer' hretrieval
        rw [hretrieval] at hanswer'
        cases hanswer'

end ProofAgent
