import ProofAgent.ControlledReact.ObservationCommit

/-! # What a commit can do

A commit over the store in memory raises and leaves everything as it was, finds
its observation recorded already, or records it and saves its truth. Everything
else about sequences of commits follows from these three cases. -/
namespace ProofAgent

open Base

/-- The arguments of one commit, the state apart. -/
structure CommitCall where
  action : ReActActionProposal
  effect : ObservationEffect
  expectedIdentity : Option ObservationIdentity := none

namespace InMemoryObservationTruthStore

/-- The store after a truth was saved under its binding. -/
def put (t : InMemoryObservationTruthStore) (b : ObservationTruthArtifactBinding) :
    InMemoryObservationTruthStore where
  truth := t.truth.insert b.reference b.truth
  refByBase := t.refByBase.insert b.baseReference b.reference

variable {rt : Runtime} {t t' : InMemoryObservationTruthStore}

theorem save_cases {truth : ObservationTruthArtifact} {r : Except ReactError String}
    (h : save rt truth t = (r, t')) :
    (∃ e, r = .error e ∧ t' = t) ∨
      ∃ b, requireBoundObservationTruth rt truth = .ok b ∧ r = .ok b.reference ∧ t' = t.put b ∧
        ∀ ref, t.refByBase.lookup b.baseReference = some ref → ref = b.reference := by
  unfold save at h
  cases hb : requireBoundObservationTruth rt truth with
  | error e =>
    rw [hb, Effect.error_then] at h
    cases h
    exact .inl ⟨e, rfl, rfl⟩
  | ok b =>
    rw [hb, Effect.ok_then, Effect.read_then] at h
    by_cases hbase : (t.refByBase.lookup b.baseReference).all (· = b.reference) = true
    · rw [Effect.require_then _ hbase, Effect.modify_then] at h
      cases h
      refine .inr ⟨b, rfl, rfl, rfl, fun ref href => ?_⟩
      rw [href] at hbase
      simpa using hbase
    · rw [Effect.require_not_then _ hbase] at h
      cases h
      exact .inl ⟨_, rfl, rfl⟩

theorem load_eq (ref : String) :
    load ref t = (orRaise (t.truth.lookup ref) (.key ref), t) := rfl

/-- Every truth is kept under the reference that binding it gives, and that
reference is the one of its base. -/
def Sound (rt : Runtime) (t : InMemoryObservationTruthStore) : Prop :=
  ∀ ref truth, t.truth.lookup ref = some truth →
    ∃ b, requireBoundObservationTruth rt truth = .ok b ∧ b.reference = ref ∧
      t.refByBase.lookup b.baseReference = some ref

theorem sound_empty : Sound rt empty := fun _ _ h => by cases h

theorem Sound.put (hs : Sound rt t) {truth : ObservationTruthArtifact}
    {b : ObservationTruthArtifactBinding} (hb : requireBoundObservationTruth rt truth = .ok b)
    (hbase : ∀ ref, t.refByBase.lookup b.baseReference = some ref → ref = b.reference) :
    Sound rt (t.put b) := by
  intro ref truth' h
  by_cases href : ref = b.reference
  · subst href
    rw [InMemoryObservationTruthStore.put, AList.lookup_insert] at h
    cases h
    rw [(requireBoundObservationTruth_ok hb).2.2.1]
    exact ⟨b, hb, rfl, AList.lookup_insert _⟩
  · rw [InMemoryObservationTruthStore.put, AList.lookup_insert_ne href] at h
    obtain ⟨b', hb', href', hlook⟩ := hs ref truth' h
    refine ⟨b', hb', href', ?_⟩
    by_cases hbb : b'.baseReference = b.baseReference
    · rw [hbb] at hlook
      exact absurd (hbase ref hlook) href
    · rw [InMemoryObservationTruthStore.put, AList.lookup_insert_ne hbb, hlook]

end InMemoryObservationTruthStore

open InMemoryObservationTruthStore (port put)

namespace CommitCall

variable (rt : Runtime)

/-- A commit over the store in memory. -/
def commit (c : CommitCall) (state : ControlledReActRunState) :
    Effect InMemoryObservationTruthStore ReactError ObservationCommitResult :=
  ObservationCommitter.commit rt (port rt) state c.action c.effect c.expectedIdentity

/-- The binding and the record that a commit works out. -/
def bound (c : CommitCall) (state : ControlledReActRunState) :
    Except ReactError (ObservationTruthArtifactBinding × ObservationRecord) :=
  ObservationCommitter.boundRecord rt state c.action c.effect c.expectedIdentity

end CommitCall

/-- The store holds this truth under this reference. -/
def Holds (rt : Runtime) (t : InMemoryObservationTruthStore) (truth : ObservationTruthArtifact)
    (ref : String) : Prop :=
  t.truth.lookup ref = some truth ∧
    ∃ b, requireBoundObservationTruth rt truth = .ok b ∧ b.reference = ref

section
variable {rt : Runtime} {c : CommitCall} {state : ControlledReActRunState}
  {t t' : InMemoryObservationTruthStore}

open ObservationCommitter

theorem verifyStoredTruth_cases {expected : ObservationTruthArtifact} {ref : String}
    {r : Except ReactError Unit} (h : verifyStoredTruth rt (port rt) expected ref t = (r, t')) :
    t' = t ∧ ((∃ e, r = .error e) ∨ r = .ok () ∧ Holds rt t expected ref) := by
  unfold verifyStoredTruth at h
  have hload : (port rt).load ref t = (orRaise (t.truth.lookup ref) (.key ref), t) := rfl
  cases hlook : t.truth.lookup ref with
  | none =>
    rw [hlook] at hload
    rw [Effect.bind_of_error hload] at h
    cases h
    exact ⟨rfl, .inl ⟨_, rfl⟩⟩
  | some truth =>
    rw [hlook] at hload
    rw [Effect.bind_of_ok hload] at h
    cases hb : requireBoundObservationTruth rt truth with
    | error e =>
      rw [hb, Effect.error_then] at h
      cases h
      exact ⟨rfl, .inl ⟨_, rfl⟩⟩
    | ok b =>
      rw [hb, Effect.ok_then] at h
      by_cases href : b.reference = ref
      · rw [Effect.require_then _ href] at h
        by_cases hp : b.truth.payload.canonical = expected.payload.canonical
        · rw [Effect.require, if_pos hp] at h
          cases h
          have htruth := (requireBoundObservationTruth_ok hb).2.2.1
          rw [htruth] at hp
          rw [← ObservationTruthArtifact.payload_inj hp]
          exact ⟨rfl, .inr ⟨rfl, hlook, b, hb, href⟩⟩
        · rw [Effect.require, if_neg hp] at h
          cases h
          exact ⟨rfl, .inl ⟨_, rfl⟩⟩
      · rw [Effect.require_not_then _ href] at h
        cases h
        exact ⟨rfl, .inl ⟨_, rfl⟩⟩

theorem Holds.verify {truth : ObservationTruthArtifact} {ref : String} (h : Holds rt t truth ref) :
    verifyStoredTruth rt (port rt) truth ref t = (.ok (), t) := by
  obtain ⟨hlook, b, hb, href⟩ := h
  have hload : (port rt).load ref t = (orRaise (t.truth.lookup ref) (.key ref), t) := rfl
  rw [hlook, orRaise_some] at hload
  have htruth := (requireBoundObservationTruth_ok hb).2.2.1
  unfold verifyStoredTruth
  rw [Effect.bind_of_ok hload, hb, Effect.ok_then, Effect.require_then _ href, Effect.require,
    if_pos (by rw [htruth]), Effect.run_pure]

/-- The observation was recorded before; its truth is the one that is stored. -/
structure CommittedAgain (rt : Runtime) (state : ControlledReActRunState)
    (t : InMemoryObservationTruthStore) (b : ObservationTruthArtifactBinding)
    (record : ObservationRecord) : Prop where
  existing : ∃ e, matchingObservation state record = some e ∧ e.truthRef = b.reference
  holds : Holds rt t b.truth b.reference

/-- The observation is new: it is appended, and its truth is saved. -/
structure CommittedNew (rt : Runtime) (state next : ControlledReActRunState)
    (t t' : InMemoryObservationTruthStore) (b : ObservationTruthArtifactBinding)
    (record : ObservationRecord) : Prop where
  fresh : matchingObservation state record = none
  observing : state.phase = .observing
  next_eq : next = { state with phase := .planning
                                observationRecords := state.observationRecords ++ [record] }
  saved : ∃ b', requireBoundObservationTruth rt b.truth = .ok b' ∧ b'.reference = b.reference ∧
    t' = t.put b' ∧ ∀ ref, t.refByBase.lookup b'.baseReference = some ref → ref = b'.reference

theorem CommittedNew.holds {next : ControlledReActRunState} {b : ObservationTruthArtifactBinding}
    {record : ObservationRecord} (h : CommittedNew rt state next t t' b record) :
    Holds rt t' b.truth b.reference := by
  obtain ⟨b', hb, href, rfl, _⟩ := h.saved
  have htruth := (requireBoundObservationTruth_ok hb).2.2.1
  refine ⟨?_, b', hb, href⟩
  rw [put, ← href, htruth, AList.lookup_insert]

theorem matchingObservation_none {record : ObservationRecord}
    (h : matchingObservation state record = none) : hasObservation state record = false := by
  rw [matchingObservation, List.find?_eq_none] at h
  rw [hasObservation, List.any_eq_false]
  exact h

theorem commitRecord_ok {action : ReActActionProposal} {record : ObservationRecord}
    {next : ControlledReActRunState} (hm : matchingObservation state record = none)
    (h : commitRecord state action record = .ok next) :
    state.phase = .observing ∧
      next = { state with phase := .planning
                          observationRecords := state.observationRecords ++ [record] } := by
  unfold commitRecord recordObservation at h
  obtain ⟨_, _, h₁⟩ := bind_ok h
  obtain ⟨observation, hobs, h₂⟩ := bind_ok h₁
  cases hobs
  obtain ⟨_, _, h₃⟩ := bind_ok h₂
  rw [matchingObservation_none hm] at h₃
  obtain ⟨_, hphase, h₄⟩ := bind_ok h₃
  exact ⟨require_ok hphase, (pure_ok h₄).symm⟩

theorem commitAgain_cases {b : ObservationTruthArtifactBinding} {existing : ObservationRecord}
    {effect : ObservationEffect} {r : Except ReactError ObservationCommitResult}
    (h : commitAgain rt (port rt) state effect b existing t = (r, t')) :
    t' = t ∧ ((∃ e, r = .error e) ∨ existing.truthRef = b.reference ∧
      Holds rt t b.truth b.reference ∧
      r = .ok { state, traceProjection := traceProjection existing effect }) := by
  unfold commitAgain at h
  by_cases href : existing.truthRef = b.reference
  · rw [Effect.require_then _ href] at h
    rcases hv : verifyStoredTruth rt (port rt) b.truth b.reference t with ⟨v, t₁⟩
    obtain ⟨rfl, ⟨e, rfl⟩ | ⟨rfl, hholds⟩⟩ := verifyStoredTruth_cases hv
    · rw [Effect.bind_of_error hv] at h
      cases h
      exact ⟨rfl, .inl ⟨_, rfl⟩⟩
    · rw [Effect.bind_of_ok hv] at h
      cases h
      exact ⟨rfl, .inr ⟨href, hholds, rfl⟩⟩
  · rw [Effect.require_not_then _ href] at h
    cases h
    exact ⟨rfl, .inl ⟨_, rfl⟩⟩

theorem commitNew_cases {action : ReActActionProposal} {b : ObservationTruthArtifactBinding}
    {record : ObservationRecord} {effect : ObservationEffect}
    {r : Except ReactError ObservationCommitResult} (hb : Binds rt effect.truthArtifact b)
    (hm : matchingObservation state record = none)
    (h : commitNew rt (port rt) state action effect b record t = (r, t')) :
    (∃ e, r = .error e ∧ t' = t) ∨ ∃ next, CommittedNew rt state next t t' b record ∧
      r = .ok { state := next, traceProjection := traceProjection record effect } := by
  unfold commitNew at h
  cases hn : commitRecord state action record with
  | error e =>
    rw [hn, Effect.error_then] at h
    cases h
    exact .inl ⟨_, rfl, rfl⟩
  | ok next =>
    obtain ⟨hphase, hnext⟩ := commitRecord_ok hm hn
    rw [hn, Effect.ok_then] at h
    rcases hs : (port rt).save b.truth t with ⟨v, t₁⟩
    obtain ⟨e, rfl, rfl⟩ | ⟨b', hb', rfl, rfl, hbase⟩ := InMemoryObservationTruthStore.save_cases hs
    · rw [Effect.bind_of_error hs] at h
      cases h
      exact .inl ⟨_, rfl, rfl⟩
    · rw [Effect.bind_of_ok hs] at h
      -- The store answers with what was bound, so nothing after the save raises.
      have href : b'.reference = b.reference := by
        rw [← (requireBoundObservationTruth_ok hb').2.1, hb.bound,
          ObservationTruthArtifact.truthRef_withTruthRef]
      have hnew : CommittedNew rt state next t (t.put b') b record :=
        ⟨hm, hphase, hnext, b', hb', href, rfl, hbase⟩
      rw [Effect.require_then _ href, Effect.bind_of_ok hnew.holds.verify] at h
      cases h
      exact .inr ⟨next, hnew, rfl⟩

theorem bound_ok {b : ObservationTruthArtifactBinding} {record : ObservationRecord}
    (h : c.bound rt state = .ok (b, record)) :
    validateEffect state c.action c.effect c.expectedIdentity = .ok () ∧
      Binds rt c.effect.truthArtifact b ∧ record.truthRef = b.reference ∧
      record.observationId = c.effect.observationRecord.observationId ∧
      record.actionId = c.effect.observationRecord.actionId ∧
      record.actionType = c.effect.observationRecord.actionType ∧
      record.round = c.effect.observationRecord.round := by
  unfold CommitCall.bound boundRecord at h
  obtain ⟨_, hv, h₁⟩ := bind_ok h
  obtain ⟨r, hr, h₂⟩ := bind_ok h₁
  obtain ⟨b', hb', h₃⟩ := bind_ok h₂
  cases pure_ok h₃
  unfold recordWithAuthoritativeSummary at hr
  obtain ⟨summary, _, hr⟩ := bind_ok hr
  cases pure_ok hr
  exact ⟨hv, bindObservationTruth_ok hb', rfl, rfl, rfl, rfl, rfl⟩

/-- **What a commit can do**: raise and change nothing, find its observation
recorded, or record it. -/
theorem commit_cases {r : Except ReactError ObservationCommitResult}
    (h : c.commit rt state t = (r, t')) :
    (∃ e, r = .error e ∧ t' = t) ∨ ∃ b record result, c.bound rt state = .ok (b, record) ∧
      r = .ok result ∧ (CommittedAgain rt state t b record ∧ result.state = state ∧ t' = t ∨
        CommittedNew rt state result.state t t' b record) := by
  unfold CommitCall.commit ObservationCommitter.commit at h
  cases hb : c.bound rt state with
  | error e =>
    rw [CommitCall.bound] at hb
    rw [hb, Effect.error_then] at h
    cases h
    exact .inl ⟨_, rfl, rfl⟩
  | ok br =>
    obtain ⟨b, record⟩ := br
    have hbinds := (bound_ok hb).2.1
    rw [CommitCall.bound] at hb
    rw [hb, Effect.ok_then] at h
    dsimp only at h
    cases hm : matchingObservation state record with
    | some existing =>
      rw [hm] at h
      obtain ⟨rfl, ⟨e, rfl⟩ | ⟨href, hholds, rfl⟩⟩ := commitAgain_cases h
      · exact .inl ⟨e, rfl, rfl⟩
      · exact .inr ⟨b, record, _, rfl, rfl, .inl ⟨⟨⟨existing, hm, href⟩, hholds⟩, rfl, rfl⟩⟩
    | none =>
      rw [hm] at h
      obtain ⟨e, rfl, rfl⟩ | ⟨next, hnew, rfl⟩ := commitNew_cases hbinds hm h
      · exact .inl ⟨e, rfl, rfl⟩
      · exact .inr ⟨b, record, _, rfl, rfl, .inr hnew⟩

/-! ## Sequences of commits -/

/-- What an action's observation was recorded as before, it is recorded as again. -/
def Recorded (rt : Runtime) (c : CommitCall) (state : ControlledReActRunState)
    (t : InMemoryObservationTruthStore) : Prop :=
  ∃ b record, c.bound rt state = .ok (b, record) ∧ CommittedAgain rt state t b record

theorem validateEffect_congr {action : ReActActionProposal} {effect : ObservationEffect}
    {identity : Option ObservationIdentity} {state state' : ControlledReActRunState}
    (h : state.planRound = state'.planRound) :
    validateEffect state action effect identity = validateEffect state' action effect identity := by
  unfold validateEffect
  rw [h]

theorem bound_congr {state state' : ControlledReActRunState} (h : state.planRound = state'.planRound) :
    c.bound rt state = c.bound rt state' := by
  unfold CommitCall.bound boundRecord
  rw [validateEffect_congr h]

theorem sameObservation_self (record : ObservationRecord) : sameObservation record record = true := by
  simp [sameObservation]

theorem CommittedNew.recorded {next : ControlledReActRunState} {b : ObservationTruthArtifactBinding}
    {record : ObservationRecord} (hb : c.bound rt state = .ok (b, record))
    (h : CommittedNew rt state next t t' b record) : Recorded rt c next t' := by
  have href := (bound_ok hb).2.2.1
  refine ⟨b, record, ?_, ⟨record, ?_, href⟩, h.holds⟩
  · rw [← hb, h.next_eq]
    exact bound_congr rfl
  · have hfresh := h.fresh
    rw [matchingObservation] at hfresh
    rw [h.next_eq, matchingObservation, List.find?_append, hfresh]
    simp [sameObservation_self]

/-- Committing a recorded observation once more changes nothing. -/
theorem Recorded.commit_again (h : Recorded rt c state t) :
    ∃ p, c.commit rt state t = (.ok { state, traceProjection := p }, t) := by
  obtain ⟨b, record, hb, ⟨existing, hm, href⟩, hholds⟩ := h
  refine ⟨traceProjection existing c.effect, ?_⟩
  rw [CommitCall.bound] at hb
  unfold CommitCall.commit ObservationCommitter.commit
  rw [hb, Effect.ok_then]
  dsimp only
  rw [hm]
  dsimp only
  rw [commitAgain, Effect.require_then _ href, Effect.bind_of_ok hholds.verify, Effect.run_pure]

/-- The text whose digest a commit's truth is bound to. -/
def CommitCall.envelope (rt : Runtime) (c : CommitCall) : Option Json :=
  (bindObservationTruth rt c.effect.truthArtifact).toOption.map fun b =>
    (observationEnvelope b.runId (c.effect.truthArtifact.withTruthRef b.baseReference)).canonical

/-- No two of these commits' truths have one digest for two contents. -/
def NoCollision (rt : Runtime) (calls : List CommitCall) : Prop :=
  ∀ c ∈ calls, ∀ d ∈ calls, ∀ a b, c.envelope rt = some a → d.envelope rt = some b →
    rt.sha256 a = rt.sha256 b → a = b

theorem NoCollision.truth_unique {calls : List CommitCall} (h : NoCollision rt calls)
    {d : CommitCall} (hc : c ∈ calls) (hd : d ∈ calls) {state' : ControlledReActRunState}
    {b b' : ObservationTruthArtifactBinding} {record record' : ObservationRecord}
    (hb : c.bound rt state = .ok (b, record)) (hb' : d.bound rt state' = .ok (b', record'))
    (href : b.reference = b'.reference) : b.truth = b'.truth := by
  have bind : ∀ {c : CommitCall} {s : ControlledReActRunState} {b : ObservationTruthArtifactBinding}
      {r : ObservationRecord}, c.bound rt s = .ok (b, r) →
      bindObservationTruth rt c.effect.truthArtifact = .ok b := by
    intro c s b r h
    unfold CommitCall.bound boundRecord at h
    obtain ⟨_, _, h₁⟩ := bind_ok h
    obtain ⟨_, _, h₂⟩ := bind_ok h₁
    obtain ⟨_, hb, h₃⟩ := bind_ok h₂
    cases pure_ok h₃
    exact hb
  refine (bound_ok hb).2.1.truth_unique (bound_ok hb').2.1 href ?_
  refine h c hc d hd _ _ ?_ ?_
  · rw [CommitCall.envelope, bind hb]
    rfl
  · rw [CommitCall.envelope, bind hb']
    rfl

/-- A recorded observation stays recorded when other commits return. -/
theorem Recorded.keep {calls : List CommitCall} (h : Recorded rt c state t)
    (hn : NoCollision rt calls) {d : CommitCall} (hc : c ∈ calls) (hd : d ∈ calls)
    {result : ObservationCommitResult} (hcommit : d.commit rt state t = (.ok result, t')) :
    Recorded rt c result.state t' := by
  obtain ⟨b, record, hb, ⟨existing, hm, href⟩, hlook, x, hx, hxref⟩ := h
  obtain ⟨e, he, _⟩ | ⟨b', record', result', hb', hr, hcase⟩ := commit_cases hcommit
  · cases he
  cases hr
  obtain ⟨_, hstate, rfl⟩ | hnew := hcase
  · rw [hstate]
    exact ⟨b, record, hb, ⟨existing, hm, href⟩, hlook, x, hx, hxref⟩
  · obtain ⟨y, hy, hyref, rfl, _⟩ := hnew.saved
    have hytruth := (requireBoundObservationTruth_ok hy).2.2.1
    refine ⟨b, record, ?_, ⟨existing, ?_, href⟩, ?_, x, hx, hxref⟩
    · rw [← hb, hnew.next_eq]
      exact bound_congr rfl
    · rw [matchingObservation] at hm
      rw [hnew.next_eq, matchingObservation, List.find?_append, hm, Option.some_or]
    · by_cases hsame : b.reference = y.reference
      · rw [put, hsame, AList.lookup_insert, hytruth,
          hn.truth_unique hc hd hb hb' (hsame.trans hyref)]
      · rw [put, AList.lookup_insert_ne hsame, hlook]

/-- A commit of other content for a recorded observation raises. -/
theorem Recorded.conflict (h : Recorded rt c state t) {d : CommitCall}
    (hobs : d.effect.observationRecord.observationId = c.effect.observationRecord.observationId)
    (hact : d.effect.observationRecord.actionId = c.effect.observationRecord.actionId)
    (hne : d.effect.truthArtifact.withTruthRef "" ≠ c.effect.truthArtifact.withTruthRef "") :
    ∃ e, (d.commit rt state t).1 = .error e := by
  obtain ⟨b, record, hb, ⟨existing, hm, href⟩, hlook, _⟩ := h
  rcases hcommit : d.commit rt state t with ⟨r, t'⟩
  obtain ⟨e, rfl, _⟩ | ⟨b', record', result, hb', rfl, hcase⟩ := commit_cases hcommit
  · exact ⟨e, rfl⟩
  exfalso
  obtain ⟨_, hbinds, _, hobs₁, hact₁, _⟩ := bound_ok hb
  obtain ⟨_, hbinds', _, hobs₂, hact₂, _⟩ := bound_ok hb'
  have hmatch : matchingObservation state record' = some existing := by
    rw [← hm, matchingObservation, matchingObservation]
    have hsame : (fun e => sameObservation e record') = fun e => sameObservation e record := by
      funext e
      rw [sameObservation, sameObservation, hobs₁, hobs₂, hact₁, hact₂, hobs, hact]
    rw [hsame]
  obtain ⟨⟨⟨e', hm', href'⟩, hlook', _⟩, _⟩ | hnew := hcase
  · rw [hmatch] at hm'
    cases hm'
    rw [← href', href, hlook] at hlook'
    have htruth := congrArg (·.withTruthRef "") (Option.some.inj hlook')
    simp only [hbinds.bound, hbinds'.bound, ObservationTruthArtifact.withTruthRef_withTruthRef]
      at htruth
    exact hne htruth.symm
  · have hfresh := hnew.fresh
    rw [hmatch] at hfresh
    cases hfresh

end

/-- A run's state and the truth store, with all the records that were committed to
the store. -/
structure CommitterWorld where
  state : ControlledReActRunState
  truthStore : InMemoryObservationTruthStore
  committed : List ObservationRecord

namespace CommitterWorld

variable (rt : Runtime)

/-- One commit; a commit that raises leaves the run in the state it was in. -/
def commit (w : CommitterWorld) (c : CommitCall) :
    Except ReactError ObservationCommitResult × CommitterWorld :=
  match c.commit rt w.state w.truthStore with
  | (.ok result, t) =>
    (.ok result, ⟨result.state, t, w.committed ++ result.state.observationRecords⟩)
  | (.error e, t) => (.error e, { w with truthStore := t })

def commitAll (w : CommitterWorld) (calls : List CommitCall) : CommitterWorld :=
  calls.foldl (fun w c => (w.commit rt c).2) w

/-- The worlds that commits lead to. Between two commits the run may move to any
state, its own later rounds and the states of other runs on the same store
included, whose records were committed. -/
inductive Reached : CommitterWorld → Prop
  | start {state : ControlledReActRunState} (h : state.observationRecords = []) :
      Reached ⟨state, .empty, []⟩
  | commit {w : CommitterWorld} (h : Reached w) (c : CommitCall) : Reached (w.commit rt c).2
  | move {w : CommitterWorld} (h : Reached w) {state : ControlledReActRunState}
      (hr : ∀ r ∈ state.observationRecords, r ∈ w.committed) : Reached { w with state }

variable {rt} {w : CommitterWorld} {c : CommitCall}

/-- The two ways a commit changes the world, as `commit_cases` says it. -/
theorem commit_eq : (w.commit rt c).2 = w ∧ (∃ e, (w.commit rt c).1 = .error e) ∨
    ∃ b record result, c.bound rt w.state = .ok (b, record) ∧ (w.commit rt c).1 = .ok result ∧
      (w.commit rt c).2.state = result.state ∧
      (w.commit rt c).2.committed = w.committed ++ result.state.observationRecords ∧
      c.commit rt w.state w.truthStore = (.ok result, (w.commit rt c).2.truthStore) ∧
      (CommittedAgain rt w.state w.truthStore b record ∧ result.state = w.state ∧
          (w.commit rt c).2.truthStore = w.truthStore ∨
        CommittedNew rt w.state result.state w.truthStore (w.commit rt c).2.truthStore b record) := by
  rcases hcommit : c.commit rt w.state w.truthStore with ⟨r, t⟩
  unfold commit
  rw [hcommit]
  obtain ⟨e, rfl, rfl⟩ | ⟨b, record, result, hb, rfl, hcase⟩ := commit_cases hcommit
  · exact .inl ⟨rfl, e, rfl⟩
  · exact .inr ⟨b, record, result, hb, rfl, rfl, rfl, rfl, hcase⟩

theorem commit_raised {e : ReactError} (h : (c.commit rt w.state w.truthStore).1 = .error e) :
    (w.commit rt c).1 = .error e := by
  rcases hcommit : c.commit rt w.state w.truthStore with ⟨r, t⟩
  unfold commit
  rw [hcommit] at h ⊢
  cases h
  rfl

/-- What every reached world satisfies. -/
structure Kept (rt : Runtime) (w : CommitterWorld) : Prop where
  sound : InMemoryObservationTruthStore.Sound rt w.truthStore
  held : ∀ r ∈ w.committed, ∃ truth, Holds rt w.truthStore truth r.truthRef
  own : ∀ r ∈ w.state.observationRecords, r ∈ w.committed

theorem Kept.commit (h : Kept rt w) : Kept rt (w.commit rt c).2 := by
  obtain ⟨heq, _⟩ | ⟨b, record, result, hb, hr, hstate, hcommitted, _, hcase⟩ := commit_eq (w := w) (c := c)
  · rw [heq]
    exact h
  obtain ⟨_, hsame, hstore⟩ | hnew := hcase
  · refine ⟨by rw [hstore]; exact h.sound, fun r hm => ?_, fun r hm => ?_⟩
    · rw [hcommitted, hsame] at hm
      rw [hstore]
      exact h.held r ((List.mem_append.mp hm).elim id (h.own r))
    · rw [hstate] at hm
      rw [hcommitted]
      exact List.mem_append_right _ hm
  · have hholds := hnew.holds
    obtain ⟨y, hy, hyref, hput, hbase⟩ := hnew.saved
    have hkept : ∀ r ∈ w.committed, ∃ truth, Holds rt (w.commit rt c).2.truthStore truth r.truthRef := by
      intro r hm
      obtain ⟨truth, hlook, hbound⟩ := h.held r hm
      by_cases href : r.truthRef = y.reference
      · rw [href, hyref]
        exact ⟨_, hholds⟩
      · refine ⟨truth, ?_, hbound⟩
        rw [hput, put, AList.lookup_insert_ne href, hlook]
    refine ⟨by rw [hput]; exact h.sound.put hy hbase, fun r hm => ?_, fun r hm => ?_⟩
    · rw [hcommitted, hnew.next_eq] at hm
      rcases List.mem_append.mp hm with hm | hm
      · exact hkept r hm
      rcases List.mem_append.mp hm with hm | hm
      · exact hkept r (h.own r hm)
      · rw [List.mem_singleton.mp hm, (bound_ok hb).2.2.1]
        exact ⟨_, hholds⟩
    · rw [hstate] at hm
      rw [hcommitted]
      exact List.mem_append_right _ hm

theorem Reached.kept (h : Reached rt w) : Kept rt w := by
  induction h with
  | start hr =>
    refine ⟨InMemoryObservationTruthStore.sound_empty, fun r hm => (nomatch hm), fun r hm => ?_⟩
    rw [hr] at hm
    cases hm
  | commit _ c ih => exact ih.commit
  | move _ hr ih => exact ⟨ih.sound, ih.held, hr⟩

/-- An accepted commit leaves its observation recorded. -/
theorem recorded_of_ok {result : ObservationCommitResult} (h : (w.commit rt c).1 = .ok result) :
    Recorded rt c (w.commit rt c).2.state (w.commit rt c).2.truthStore := by
  obtain ⟨_, e, he⟩ | ⟨b, record, r, hb, _, hstate, _, _, hcase⟩ := commit_eq (w := w) (c := c)
  · rw [he] at h
    cases h
  obtain ⟨hagain, hsame, hstore⟩ | hnew := hcase
  · rw [hstate, hsame, hstore]
    exact ⟨b, record, hb, hagain⟩
  · rw [hstate]
    exact hnew.recorded hb

theorem recorded_commit {calls : List CommitCall} {d : CommitCall}
    (h : Recorded rt c w.state w.truthStore) (hn : NoCollision rt calls) (hc : c ∈ calls)
    (hd : d ∈ calls) : Recorded rt c (w.commit rt d).2.state (w.commit rt d).2.truthStore := by
  obtain ⟨heq, _⟩ | ⟨_, _, result, _, _, hstate, _, hcommit, _⟩ := commit_eq (w := w) (c := d)
  · rw [heq]
    exact h
  · rw [hstate]
    exact h.keep hn hc hd hcommit

theorem recorded_commitAll {calls later : List CommitCall}
    (h : Recorded rt c w.state w.truthStore) (hn : NoCollision rt calls) (hc : c ∈ calls)
    (hl : ∀ d ∈ later, d ∈ calls) :
    Recorded rt c (w.commitAll rt later).state (w.commitAll rt later).truthStore := by
  induction later generalizing w with
  | nil => exact h
  | cons d later ih =>
    refine ih (recorded_commit h hn hc (hl d (List.mem_cons_self ..))) fun x hx => ?_
    exact hl x (List.mem_cons_of_mem _ hx)

/-- A base stays bound to the digest that it was bound to first. -/
theorem refByBase_commit {base ref : String} (h : w.truthStore.refByBase.lookup base = some ref) :
    (w.commit rt c).2.truthStore.refByBase.lookup base = some ref := by
  obtain ⟨heq, _⟩ | ⟨_, _, _, _, _, _, _, _, hcase⟩ := commit_eq (w := w) (c := c)
  · rw [heq]
    exact h
  obtain ⟨_, _, hstore⟩ | hnew := hcase
  · rw [hstore]
    exact h
  · obtain ⟨y, _, _, hput, hbase⟩ := hnew.saved
    rw [hput, put]
    by_cases hb : base = y.baseReference
    · subst hb
      rw [AList.lookup_insert, hbase ref h]
    · rw [AList.lookup_insert_ne hb, h]

/-- A commit of other content than the stored one, for an observation that is
recorded, raises. -/
theorem commit_conflict {existing : ObservationRecord} {truth : ObservationTruthArtifact}
    (hm : ObservationCommitter.matchingObservation w.state c.effect.observationRecord =
      some existing)
    (ht : w.truthStore.truth.lookup existing.truthRef = some truth)
    (hne : c.effect.truthArtifact.withTruthRef "" ≠ truth.withTruthRef "") :
    ∃ e, (w.commit rt c).1 = .error e := by
  obtain ⟨_, he⟩ | ⟨b, record, r, hb, _, _, _, _, hcase⟩ := commit_eq (w := w) (c := c)
  · exact he
  exfalso
  obtain ⟨_, hbinds, _, hobs, hact, _⟩ := bound_ok hb
  have hsame : ObservationCommitter.matchingObservation w.state record = some existing := by
    rw [← hm]
    unfold ObservationCommitter.matchingObservation sameObservation
    rw [hobs, hact]
  obtain ⟨⟨⟨e', hm', href⟩, hlook, _⟩, _⟩ | hnew := hcase
  · rw [hsame] at hm'
    cases hm'
    rw [← href, ht] at hlook
    have htruth := congrArg (·.withTruthRef "") (Option.some.inj hlook)
    simp only [hbinds.bound, ObservationTruthArtifact.withTruthRef_withTruthRef] at htruth
    exact hne htruth.symm
  · have hfresh := hnew.fresh
    rw [hsame] at hfresh
    cases hfresh

end CommitterWorld

open CommitterWorld in
/-- What commits to the store in memory guarantee, in any order and with any
retries, conflicts and failures among them. -/
structure CommitsObservations (rt : Runtime) : Prop where
  /-- A commit that raises leaves the state and the store as they were. -/
  atomic : ∀ (w : CommitterWorld) (c : CommitCall) e,
    (w.commit rt c).1 = .error e → (w.commit rt c).2 = w
  /-- The effect of an accepted commit is committed again, after any other
  commits, with nothing changed and no record added. -/
  idempotent : ∀ (w : CommitterWorld) (c : CommitCall) result (calls : List CommitCall),
    (w.commit rt c).1 = .ok result → NoCollision rt (c :: calls) →
      let later := (w.commit rt c).2.commitAll rt calls
      (∃ p, (later.commit rt c).1 = .ok { state := later.state, traceProjection := p }) ∧
        (later.commit rt c).2.state = later.state ∧
        (later.commit rt c).2.truthStore = later.truthStore
  /-- Other content under the identity of an accepted commit is refused. -/
  conflict : ∀ (w : CommitterWorld) (c d : CommitCall) result (calls : List CommitCall),
    (w.commit rt c).1 = .ok result → NoCollision rt (c :: calls) →
      d.effect.observationRecord.observationId = c.effect.observationRecord.observationId →
      d.effect.observationRecord.actionId = c.effect.observationRecord.actionId →
      d.effect.truthArtifact.withTruthRef "" ≠ c.effect.truthArtifact.withTruthRef "" →
      ∃ e, (((w.commit rt c).2.commitAll rt calls).commit rt d).1 = .error e
  /-- So is other content than the stored one under the identity of any record, in
  later rounds too. -/
  stored_conflict : ∀ (w : CommitterWorld) (c : CommitCall) existing truth,
    ObservationCommitter.matchingObservation w.state c.effect.observationRecord = some existing →
      w.truthStore.truth.lookup existing.truthRef = some truth →
      c.effect.truthArtifact.withTruthRef "" ≠ truth.withTruthRef "" →
      ∃ e, (w.commit rt c).1 = .error e
  /-- Every committed record's reference loads a truth that binds to it. -/
  loads : ∀ w, Reached rt w → ∀ r ∈ w.committed ++ w.state.observationRecords, ∃ truth b,
    (InMemoryObservationTruthStore.load r.truthRef w.truthStore).1 = .ok truth ∧
      requireBoundObservationTruth rt truth = .ok b ∧ b.reference = r.truthRef
  /-- Two truths with one base have one reference, and a base keeps its own. -/
  one_digest : ∀ w, Reached rt w → ∀ (truth truth' : ObservationTruthArtifact) ref ref' b b',
    w.truthStore.truth.lookup ref = some truth → w.truthStore.truth.lookup ref' = some truth' →
      requireBoundObservationTruth rt truth = .ok b →
      requireBoundObservationTruth rt truth' = .ok b' →
      b.baseReference = b'.baseReference → ref = ref'
  binding_kept : ∀ (w : CommitterWorld) (calls : List CommitCall) base ref,
    w.truthStore.refByBase.lookup base = some ref →
      (w.commitAll rt calls).truthStore.refByBase.lookup base = some ref

open CommitterWorld in
theorem commits_observations (rt : Runtime) : CommitsObservations rt where
  atomic w c e h := by
    obtain ⟨heq, _⟩ | ⟨_, _, _, _, hr, _⟩ := @commit_eq rt w c
    · exact heq
    · rw [h] at hr
      cases hr
  idempotent w c result calls h hn := by
    intro later
    have hrec : Recorded rt c later.state later.truthStore :=
      recorded_commitAll (recorded_of_ok h) hn (List.mem_cons_self ..)
        fun _ hd => List.mem_cons_of_mem _ hd
    obtain ⟨p, hp⟩ := hrec.commit_again
    unfold CommitterWorld.commit
    rw [hp]
    exact ⟨⟨p, rfl⟩, rfl, rfl⟩
  conflict w c d result calls h hn hobs hact hne := by
    let later := (w.commit rt c).2.commitAll rt calls
    have hrec : Recorded rt c later.state later.truthStore :=
      recorded_commitAll (recorded_of_ok h) hn (List.mem_cons_self ..)
      fun _ hd => List.mem_cons_of_mem _ hd
    obtain ⟨e, he⟩ := hrec.conflict hobs hact hne
    exact ⟨e, commit_raised he⟩
  stored_conflict w c existing truth hm ht hne := commit_conflict hm ht hne
  loads w h r hr := by
    have hkept := h.kept
    obtain ⟨truth, hlook, b, hb, href⟩ :=
      hkept.held r ((List.mem_append.mp hr).elim id (hkept.own r))
    refine ⟨truth, b, ?_, hb, href⟩
    rw [InMemoryObservationTruthStore.load_eq, hlook]
    rfl
  one_digest w h truth truth' ref ref' b b' ht ht' hb hb' hbase := by
    obtain ⟨x, hx, _, hlook⟩ := h.kept.sound ref truth ht
    obtain ⟨x', hx', _, hlook'⟩ := h.kept.sound ref' truth' ht'
    rw [hb] at hx
    rw [hb'] at hx'
    cases hx
    cases hx'
    rw [hbase, hlook'] at hlook
    exact (Option.some.inj hlook).symm
  binding_kept w calls base ref h := by
    induction calls generalizing w with
    | nil => exact h
    | cons c calls ih => exact ih _ (refByBase_commit h)

end ProofAgent
