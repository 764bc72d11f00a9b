import ProofAgent.Base.Emits
import ProofAgent.Base.Trails
import ProofAgent.ControlledReact.FinalAnswer

/-! # What a final answer rests on

Every call of the model follows a decision that allows it, and a run makes at most five. What a run
shows is the message of a valid output over the accepted evidence, reviewed if it quotes, or one of
a few texts of its own. -/
namespace ProofAgent

open Base Answers
open TaskState (Text)

/-! ## Calls of the model -/

/-- The request of a call. -/
def AttemptEvent.called? : AttemptEvent → Option ModelRequest
  | decided _ _ => none
  | answered request _ => some request
  | failed request _ => some request

/-- A call comes right after the decision that allows its request. -/
def AllowedBefore (before : List AttemptEvent) (e : AttemptEvent) : Prop :=
  ∀ request, e.called? = some request → before.getLast? = some (.decided request .allow)

/-- Calls that are all allowed, and so many at most. -/
structure CallsWithin (n : Nat) (events : List AttemptEvent) : Prop where
  allowed : Justified AllowedBefore events
  count : (events.filterMap (·.called?)).length ≤ n

theorem AllowedBefore.after {before : List AttemptEvent} {e : AttemptEvent}
    (h : AllowedBefore before e) (earlier : List AttemptEvent) : AllowedBefore (earlier ++ before) e := by
  intro request hcalled
  rw [List.getLast?_append, h request hcalled, Option.some_or]

namespace CallsWithin

variable {n k : Nat} {x y : List AttemptEvent}

theorem nil : CallsWithin n [] := ⟨.nil, Nat.zero_le _⟩

theorem mono (h : CallsWithin n x) (hn : n ≤ k) : CallsWithin k x := ⟨h.allowed, h.count.trans hn⟩

theorem append (hx : CallsWithin n x) (hy : CallsWithin k y) : CallsWithin (n + k) (x ++ y) := by
  refine ⟨hx.allowed.append hy.allowed fun earlier before e => (AllowedBefore.after · earlier), ?_⟩
  rw [List.filterMap_append, List.length_append]
  exact Nat.add_le_add hx.count hy.count

theorem decided (request : ModelRequest) (decision : PolicyDecisionType) :
    CallsWithin n [.decided request decision] := by
  refine ⟨Justified.nil.concat fun other hcalled => ?_, Nat.zero_le _⟩
  cases hcalled

/-- A call after its decision. -/
theorem call {request : ModelRequest} {e : AttemptEvent} (h : e.called? = some request) :
    CallsWithin (n + 1) [.decided request .allow, e] := by
  refine ⟨((decided (n := n) request .allow).allowed).concat (e := e) fun other hcalled => ?_, ?_⟩
  · obtain rfl := Option.some.inj (h.symm.trans hcalled)
    rfl
  · rw [show [AttemptEvent.decided request .allow, e].filterMap (·.called?) = [request] by
      rw [List.filterMap_cons_none rfl, List.filterMap_cons_some h, List.filterMap_nil]]
    exact Nat.le_add_left ..

end CallsWithin

namespace FinalAnswerAttemptRunner

variable {W : Type} {lib : AttemptLibrary} {ports : AnswerModelPorts W}
  {state : ControlledReActRunState} {action : ReActActionProposal}

/-- What a run appends to its journal. -/
def attemptJournal (W : Type) : Tracing (AttemptMachine W) AttemptEvent where
  ran m m' events := m'.journal = m.journal ++ events
  refl m := (List.append_nil _).symm
  trans {a b c x y} h h' := by rw [h', h, List.append_assoc]

theorem callPort_silent {α : Type} (x : Effect W ReactError α) :
    Silent (attemptJournal W) (callPort x) :=
  Emits.focus fun _ => (List.append_nil _).symm

theorem emit_silent (eventType status : String) : Silent (attemptJournal W) (emit ports eventType status) :=
  callPort_silent _

theorem log_emits (event : AttemptEvent) :
    Emits (attemptJournal W) (log event) (fun _ events => events = [event]) fun _ => False :=
  Emits.modify fun _ => rfl

/-- A call is journaled with its response, or with its fault. -/
theorem callProvider_emits (request : ModelRequest) :
    Emits (attemptJournal W) (callProvider ports request)
      (fun called events => (∃ response, called = .ok response ∧ events = [.answered request response]) ∨
        ∃ fault, called = .error fault ∧ events = [.failed request fault]) fun _ => False := by
  intro m
  unfold callProvider
  rcases ports.generate request m.world with ⟨fault | response, world⟩
  · refine ⟨fun called m' h => ?_, fun _ _ h => (nomatch h)⟩
    cases h
    exact ⟨_, rfl, .inr ⟨fault, rfl, rfl⟩⟩
  · refine ⟨fun called m' h => ?_, fun _ _ h => (nomatch h)⟩
    cases h
    exact ⟨_, rfl, .inl ⟨response, rfl, rfl⟩⟩

theorem decideCall_emits (prepared : PreparedFinalAnswerAttempt) :
    Emits (attemptJournal W) (decideCall ports state action prepared)
      (fun decision events => events = [.decided prepared.request decision])
      fun events => events = [] ∨ ∃ decision, events = [.decided prepared.request decision] := by
  refine Silent.andThen (callPort_silent _) (.inl rfl) fun decision => ?_
  refine (log_emits _).bind (fun _ h => h.elim) fun _ events he => ?_
  rw [he]
  refine Silent.andThen (emit_silent _ _) (.inr ⟨decision, rfl⟩) fun _ => ?_
  exact Emits.ret rfl

/-- 1 for a request that was recovered from an overflow. -/
def recovered (prepared : PreparedFinalAnswerAttempt) : Nat :=
  if prepared.request.metadata.contextOverflowRecovery then 1 else 0

/-- How many calls a generation may make. -/
def callLimit (prepared : PreparedFinalAnswerAttempt) : Nat :=
  if prepared.request.metadata.answerGroundingReview ||
    prepared.request.metadata.contextOverflowRecovery then 1 else 2

theorem contextOverflowRecoveryAllowed_fresh {request : ModelRequest} {fault : ModelFault}
    (h : contextOverflowRecoveryAllowed lib ports request fault = true) :
    request.metadata.answerGroundingReview = false ∧
      request.metadata.contextOverflowRecovery = false := by
  unfold contextOverflowRecoveryAllowed at h
  simp only [Bool.and_eq_true, Bool.not_eq_true'] at h
  exact h.1.1

/-- The result of a denial: a text of its own, over the evidence. -/
structure Denied (evidence : List EvidenceChunk) (denied : AttemptResult) : Prop where
  outcome : denied.outcome = .policyDenied
  message : denied.message = "The final-answer model call was blocked by policy."
  finalOutput : denied.finalOutput = denied.message
  unproved : denied.factValidation = none
  sameEvidence : denied.evidence = evidence

/-- What a generation returns: a denial, or a response to a request over the same evidence. -/
def Generates (prepared : PreparedFinalAnswerAttempt)
    (r : AttemptResult ⊕ GeneratedFinalAnswerAttempt) (events : List AttemptEvent) : Prop :=
  match r with
  | .inl denied => CallsWithin (callLimit prepared - 1) events ∧
      Denied prepared.evidence denied
  | .inr g => CallsWithin (1 + recovered g.prepared - recovered prepared) events ∧
      .answered g.prepared.request g.response ∈ events ∧
      g.prepared.evidence = prepared.evidence ∧
      recovered prepared ≤ recovered g.prepared ∧ recovered g.prepared ≤ 1 ∧
      g.prepared.request.metadata.answerGroundingReview =
        prepared.request.metadata.answerGroundingReview ∧
      (prepared.request.metadata.answerGroundingReview = true → g.prepared = prepared)

/-- The retry of an overflow. -/
structure RetryOf (prepared retry : PreparedFinalAnswerAttempt) : Prop where
  evidence : retry.evidence = prepared.evidence
  recovered : retry.request.metadata.contextOverflowRecovery = true
  review : retry.request.metadata.answerGroundingReview =
    prepared.request.metadata.answerGroundingReview

theorem recoverOverflow_emits (prepared : PreparedFinalAnswerAttempt) :
    Emits (attemptJournal W) (recoverOverflow lib ports state prepared)
      (fun retry events => NoEvent events ∧ RetryOf prepared retry) NoEvent := by
  refine Silent.andThen (emit_silent _ _) rfl fun _ => ?_
  refine Emits.quietly (P := RetryOf prepared) ?_ rfl fun retry hretry => ?_
  · refine Emits.ofExcept.quietly rfl fun request hrequest => ?_
    refine Silent.andThen (callPort_silent _) rfl fun _ => Emits.ret ⟨rfl, ?_⟩
    obtain ⟨built, _, hretry⟩ := bind_ok (mapError_ok hrequest)
    obtain rfl := pure_ok hretry
    exact ⟨rfl, rfl, rfl⟩
  · refine Silent.andThen (callPort_silent _) rfl fun _ => ?_
    exact Silent.andThen (emit_silent _ _) rfl fun _ => Emits.ret ⟨rfl, hretry⟩

/-- A call that returned. -/
theorem Generates.response {prepared : PreparedFinalAnswerAttempt} {response : ModelResponse} :
    Generates prepared (.inr { prepared, response })
      [.decided prepared.request .allow, .answered prepared.request response] := by
  refine ⟨?_, List.mem_cons_of_mem _ (List.mem_cons_self ..), rfl, le_refl _, ?_, rfl, fun _ => rfl⟩
  · rw [Nat.add_sub_cancel]
    exact CallsWithin.call (n := 0) rfl
  · unfold recovered
    split <;> decide

/-- The generation of a retry is one of the call that overflowed. -/
theorem Generates.retried {prepared retry : PreparedFinalAnswerAttempt} {fault : ModelFault}
    {r : AttemptResult ⊕ GeneratedFinalAnswerAttempt} {events : List AttemptEvent}
    (hallowed : contextOverflowRecoveryAllowed lib ports prepared.request fault = true)
    (hretry : RetryOf prepared retry) (h : Generates retry r events) :
    Generates prepared r
      (.decided prepared.request .allow :: .failed prepared.request fault :: events) := by
  obtain ⟨hreview, hfresh⟩ := contextOverflowRecoveryAllowed_fresh hallowed
  have hcall : CallsWithin 1 [.decided prepared.request .allow, .failed prepared.request fault] :=
    CallsWithin.call (n := 0) rfl
  have hretried : recovered retry = 1 := by
    unfold recovered
    rw [if_pos hretry.recovered]
  have hprepared : recovered prepared = 0 := by
    unfold recovered
    rw [hfresh]
    rfl
  cases r with
  | inl denied =>
    obtain ⟨hcalls, hdenied⟩ := h
    refine ⟨(hcall.append hcalls).mono ?_, hretry.evidence ▸ hdenied⟩
    unfold callLimit
    rw [hretry.recovered, hreview, hfresh, Bool.or_true]
    decide
  | inr g =>
    obtain ⟨hcalls, hanswered, hevidence, hle, hone, hsame, hkept⟩ := h
    refine ⟨(hcall.append hcalls).mono ?_, List.mem_cons_of_mem _ (List.mem_cons_of_mem _ hanswered),
      hevidence.trans hretry.evidence, ?_, hone, hsame.trans hretry.review, fun hkind => ?_⟩
    · omega
    · omega
    · rw [hreview] at hkind
      cases hkind

theorem one_le_callLimit (prepared : PreparedFinalAnswerAttempt) : 1 ≤ callLimit prepared := by
  unfold callLimit
  split <;> decide

/-- A call that raised is within the limit. -/
theorem callLimit_failed (prepared : PreparedFinalAnswerAttempt) (fault : ModelFault) :
    CallsWithin (callLimit prepared)
      [.decided prepared.request .allow, .failed prepared.request fault] :=
  (CallsWithin.call (n := 0) rfl).mono (one_le_callLimit prepared)

theorem callModel_emits {prepared : PreparedFinalAnswerAttempt}
    {handler : ModelFault → Attempt W (AttemptResult ⊕ GeneratedFinalAnswerAttempt)}
    (hhandler : ∀ fault, Emits (attemptJournal W) (handler fault)
      (fun r events => Generates prepared r
        (.decided prepared.request .allow :: .failed prepared.request fault :: events))
      fun events => CallsWithin (callLimit prepared)
        (.decided prepared.request .allow :: .failed prepared.request fault :: events)) :
    Emits (attemptJournal W) (callModel ports state action prepared handler)
      (Generates prepared) (CallsWithin (callLimit prepared)) := by
  refine (decideCall_emits prepared).bind (fun events he => ?_) fun decision events he => ?_
  · rcases he with rfl | ⟨decision, rfl⟩
    · exact .nil
    · exact .decided ..
  rw [he]
  refine Emits.ite (fun _ => Emits.ret ⟨.decided .., rfl, rfl, rfl, rfl, rfl⟩) fun hdecision => ?_
  obtain rfl := not_not.mp hdecision
  refine Silent.andThen (emit_silent _ _) (.decided ..) fun _ => ?_
  refine (callProvider_emits prepared.request).bind (fun _ h => h.elim) fun called events he => ?_
  rcases he with ⟨response, rfl, rfl⟩ | ⟨fault, rfl, rfl⟩
  · refine Silent.andThen (emit_silent _ _) ?_ fun _ => Emits.ret .response
    exact (CallsWithin.call (n := 0) rfl).mono (one_le_callLimit prepared)
  · exact hhandler fault

theorem raiseFault_emits {prepared : PreparedFinalAnswerAttempt} (fault : ModelFault) :
    Emits (attemptJournal W) (raiseFault ports fault)
      (fun r events => Generates prepared r
        (.decided prepared.request .allow :: .failed prepared.request fault :: events))
      fun events => CallsWithin (callLimit prepared)
        (.decided prepared.request .allow :: .failed prepared.request fault :: events) :=
  Silent.andThen (emit_silent _ _) (callLimit_failed prepared fault) fun _ =>
    Emits.raise (callLimit_failed prepared fault)

/-- **A generation** calls the model as often as its request lets it. -/
theorem generateWithin_emits : ∀ (recoveries : Nat) (prepared : PreparedFinalAnswerAttempt),
    Emits (attemptJournal W) (generateWithin lib ports state action recoveries prepared)
      (Generates prepared) (CallsWithin (callLimit prepared))
  | 0, prepared => callModel_emits fun fault => raiseFault_emits fault
  | recoveries + 1, prepared => by
    refine callModel_emits fun fault => Emits.ite (fun hallowed => ?_) fun _ => raiseFault_emits fault
    refine Emits.quietly (recoverOverflow_emits prepared) (callLimit_failed prepared fault)
      fun retry hretry => ?_
    refine (generateWithin_emits recoveries retry).conseq
      (fun r events h => h.retried hallowed hretry) fun events h => ?_
    obtain ⟨hreview, hfresh⟩ := contextOverflowRecoveryAllowed_fresh hallowed
    refine ((CallsWithin.call (n := 0) rfl).append h).mono ?_
    unfold callLimit
    rw [hretry.recovered, hreview, hfresh, Bool.or_true]
    decide

/-- A request that was recovered is not recovered again. -/
theorem generateWithin_recovered {prepared : PreparedFinalAnswerAttempt}
    (h : prepared.request.metadata.contextOverflowRecovery = true) : ∀ recoveries : Nat,
    generateWithin lib ports state action recoveries prepared =
      generateWithin lib ports state action 0 prepared
  | 0 => rfl
  | recoveries + 1 => by
    refine congrArg (callModel ports state action prepared) (funext fun fault => if_neg fun hallowed => ?_)
    have hfresh := (contextOverflowRecoveryAllowed_fresh hallowed).2
    rw [h] at hfresh
    cases hfresh

/-- The recursion of `generate` is no deeper than this. -/
theorem generateWithin_more (recoveries : Nat) (prepared : PreparedFinalAnswerAttempt) :
    generateWithin lib ports state action (recoveries + 1) prepared =
      generate lib ports state action prepared := by
  refine congrArg (callModel ports state action prepared) (funext fun fault => ?_)
  refine if_congr Iff.rfl (funext fun m => Effect.bind_congr fun retry m' hretry => ?_) rfl
  obtain ⟨_, _, _, hretry⟩ := ((recoverOverflow_emits prepared) m).1 retry m' hretry
  rw [generateWithin_recovered hretry.recovered, generateWithin_recovered hretry.recovered 0]

/-! ## Validated attempts -/

/-- A valid output of a complete response. -/
structure ValidResponse (lib : AttemptLibrary) (state : ControlledReActRunState)
    (evidence : List EvidenceChunk) (response : ModelResponse) (o : FinalAnswerOutput) : Prop where
  complete : response.finishReason ≠ some "length"
  valid : ValidOutput lib.toOutputLibrary evidence state.question.toList response.content.toList o

/-- An attempt is admitted over a valid output, or has failed and says so. -/
def Settled (lib : AttemptLibrary) (state : ControlledReActRunState)
    (normalized : NormalizedFinalAnswerAttempt) : Prop :=
  match normalized.diagnostic with
  | none => normalized.status = .admitted ∧ ∃ o, normalized.message = some o.message ∧
      ValidResponse lib state normalized.generated.prepared.evidence normalized.generated.response o
  | some _ => normalized.status ≠ .admitted

theorem attemptStatus_ne (failed : List AnswerCheck) : attemptStatus failed ≠ .admitted := by
  unfold attemptStatus
  dsimp only
  repeat' split
  all_goals decide

theorem failureDiagnostic_silent (response : ModelResponse) (results : List AnswerCheck) :
    Silent (attemptJournal W) (failureDiagnostic ports response results) :=
  Silent.andThen (emit_silent _ _) rfl fun _ => Emits.ret rfl

theorem outputOf_valid {evidence : List EvidenceChunk} {response : ModelResponse}
    {o : FinalAnswerOutput} (h : ValidResponse lib state evidence response o) :
    outputOf lib response = some o := by
  unfold outputOf
  rw [h.valid.read]
  rfl

/-- What is normalized stands for what was generated. -/
theorem normalize_emits (generated : GeneratedFinalAnswerAttempt) :
    Emits (attemptJournal W) (normalize lib ports state generated)
      (fun n events => NoEvent events ∧ n.generated = generated ∧ n.priorGeneratedAttempts = [] ∧
        n.groundingReview = none ∧ Settled lib state n) NoEvent := by
  refine Emits.ofExcept.quietly rfl fun results hresults => ?_
  refine Emits.ite (fun _ => ?_) fun hnone => ?_
  · refine Silent.andThen (failureDiagnostic_silent _ _) rfl fun diagnostic => ?_
    exact Emits.ret ⟨rfl, rfl, rfl, rfl, attemptStatus_ne _⟩
  · have hpassed : ∀ r ∈ results, r.status ≠ .failed := fun r hr hfailed =>
      hnone (List.ne_nil_of_mem (List.mem_filter.mpr ⟨hr, decide_eq_true hfailed⟩))
    obtain ⟨hcomplete, o, hvalid⟩ := validateModelOutput_valid (mapError_ok hresults) hpassed
    have hresponse : ValidResponse lib state generated.prepared.evidence generated.response o :=
      ⟨hcomplete, hvalid⟩
    refine Emits.ret ⟨rfl, rfl, rfl, rfl, rfl, o, ?_, hresponse⟩
    rw [outputOf_valid hresponse]
    rfl

/-! ## Reviews -/

/-- A review of the very output of a response came after it, over the same evidence, and passed. -/
def ReviewedIn (lib : AttemptLibrary) (state : ControlledReActRunState)
    (evidence : List EvidenceChunk) (request : ModelRequest) (response : ModelResponse)
    (o : FinalAnswerOutput) (events : List AttemptEvent) : Prop :=
  ∃ review verdict requirements records,
    [.answered request response, .answered review verdict].Sublist events ∧
      answerEvidenceRecords lib.toAnswerLibrary evidence = .ok records ∧
      review.prompt = .review state.question requirements o records state.workflowTask
        state.intentResolution ∧
      (validateGroundingReview lib verdict).status = .passed

/-- Where an attempt stands after so many events. -/
structure Standing (lib : AttemptLibrary) (state : ControlledReActRunState)
    (evidence : List EvidenceChunk) (normalized : NormalizedFinalAnswerAttempt)
    (events : List AttemptEvent) : Prop where
  answered : .answered normalized.generated.prepared.request normalized.generated.response ∈ events
  sameEvidence : normalized.generated.prepared.evidence = evidence
  settled : Settled lib state normalized
  /-- A review that passed is one of the attempt's output. -/
  reviewed : ∀ r o, normalized.groundingReview = some r → r.status = .passed →
    outputOf lib normalized.generated.response = some o →
    ReviewedIn lib state evidence normalized.generated.prepared.request
      normalized.generated.response o events

/-- What has not been reviewed stands on its response. -/
theorem Standing.normalized {evidence : List EvidenceChunk} {n : NormalizedFinalAnswerAttempt}
    {events : List AttemptEvent} (hsettled : Settled lib state n) (hreview : n.groundingReview = none)
    (hanswered : .answered n.generated.prepared.request n.generated.response ∈ events)
    (hevidence : n.generated.prepared.evidence = evidence) :
    Standing lib state evidence n events where
  answered := hanswered
  sameEvidence := hevidence
  settled := hsettled
  reviewed r o hr := by
    rw [hreview] at hr
    cases hr

/-- The request of a review shows the output and the records of the evidence. -/
theorem groundingReviewRequest_ok {original request : ModelRequest} {output : FinalAnswerOutput}
    {evidence : List EvidenceChunk}
    (h : groundingReviewRequest lib state original output evidence = .ok request) :
    (∃ requirements records, answerEvidenceRecords lib.toAnswerLibrary evidence = .ok records ∧
      request.prompt = .review state.question requirements output records state.workflowTask
        state.intentResolution) ∧
      request.metadata.answerGroundingReview = true ∧
      request.metadata.contextOverflowRecovery = original.metadata.contextOverflowRecovery := by
  obtain ⟨requirements, _, h⟩ := bind_ok h
  obtain ⟨records, hrecords, h⟩ := bind_ok h
  obtain rfl := pure_ok h
  exact ⟨⟨requirements, records, mapError_ok hrecords, rfl⟩, rfl, rfl⟩

/-- A generation makes no more calls than a fresh request may. -/
theorem callLimit_le (prepared : PreparedFinalAnswerAttempt) :
    callLimit prepared ≤ 2 - recovered prepared := by
  unfold callLimit recovered
  cases prepared.request.metadata.answerGroundingReview <;>
    cases prepared.request.metadata.contextOverflowRecovery <;> decide

/-- What reviewing or repairing an attempt returns. -/
def Stands (lib : AttemptLibrary) (state : ControlledReActRunState) (evidence : List EvidenceChunk)
    (before : List AttemptEvent) (r : AttemptResult ⊕ NormalizedFinalAnswerAttempt)
    (events : List AttemptEvent) : Prop :=
  r.elim (Denied evidence) fun n => Standing lib state evidence n (before ++ events)

theorem two_sublist {α : Type} {a b : α} {x y : List α} (ha : a ∈ x) (hb : b ∈ y) :
    [a, b].Sublist (x ++ y) :=
  (List.singleton_sublist.mpr ha).append (List.singleton_sublist.mpr hb)

/-- An attempt after its review. -/
theorem reviewed_emits {evidence : List EvidenceChunk} {before events : List AttemptEvent}
    {n : NormalizedFinalAnswerAttempt} {review : GeneratedFinalAnswerAttempt} {o : FinalAnswerOutput}
    (h : Standing lib state evidence n before) (hadmitted : n.status = .admitted)
    (ho : outputOf lib n.generated.response = some o)
    (hanswered : .answered review.prepared.request review.response ∈ events)
    (hprompt : ∃ requirements records,
      answerEvidenceRecords lib.toAnswerLibrary evidence = .ok records ∧
      review.prepared.request.prompt = .review state.question requirements o records
        state.workflowTask state.intentResolution) :
    Emits (attemptJournal W) (reviewed lib ports n review)
      (fun n' more => NoEvent more ∧ n'.generated = n.generated ∧
        Standing lib state evidence n' (before ++ events)) NoEvent := by
  have hlonger : before.Sublist (before ++ events) := List.sublist_append_left ..
  refine Emits.ite (fun hfailed => ?_) fun hpassed => Emits.ret ⟨rfl, rfl, ?_⟩
  · refine Silent.andThen (failureDiagnostic_silent _ _) rfl fun diagnostic => Emits.ret ⟨rfl, rfl, ?_⟩
    have hstatus : FinalAnswerAttemptStatus.answerFactsFailed ≠ .admitted := by decide
    refine ⟨hlonger.subset h.answered, h.sameEvidence, hstatus, ?_⟩
    intro r o' hr hpassed
    obtain rfl := Option.some.inj hr
    rw [hfailed] at hpassed
    cases hpassed
  · have hnone : n.diagnostic = none := by
      have hsettled := h.settled
      unfold Settled at hsettled
      split at hsettled
      · assumption
      · exact absurd hadmitted hsettled
    have hsettled := h.settled
    unfold Settled at hsettled
    rw [hnone] at hsettled
    refine ⟨hlonger.subset h.answered, h.sameEvidence, hsettled, fun r o' hr hstatus ho' => ?_⟩
    obtain rfl := Option.some.inj hr
    obtain rfl := Option.some.inj (ho.symm.trans ho')
    obtain ⟨requirements, records, hrecords, hprompt⟩ := hprompt
    exact ⟨_, _, requirements, records, two_sublist h.answered hanswered, hrecords, hprompt, hstatus⟩

/-- **A review** is one call at most, and leaves what was generated. -/
theorem reviewGrounding_emits {evidence : List EvidenceChunk} {before : List AttemptEvent}
    {n : NormalizedFinalAnswerAttempt} (h : Standing lib state evidence n before) :
    Emits (attemptJournal W) (reviewGrounding lib ports state action n)
      (fun r events => CallsWithin 1 events ∧ Stands lib state evidence before r events ∧
        ∀ n', r = .inr n' → n'.generated = n.generated)
      (CallsWithin 1) := by
  have hsame : Stands lib state evidence before (.inr n) [] := by
    unfold Stands
    rw [List.append_nil]
    exact h
  have hkeeps : ∀ n', (.inr n : AttemptResult ⊕ NormalizedFinalAnswerAttempt) = .inr n' →
      n'.generated = n.generated := by
    rintro _ ⟨⟩
    rfl
  refine Emits.ite (fun _ => Emits.ret ⟨.nil, hsame, hkeeps⟩) fun hadmitted => ?_
  split
  · exact Emits.ret ⟨.nil, hsame, hkeeps⟩
  · rename_i o ho
    obtain ⟨ho, _⟩ := Option.filter_eq_some_iff.mp ho
    refine Emits.ofExcept.quietly .nil fun request hrequest => ?_
    obtain ⟨hprompt, hreview, _⟩ := groundingReviewRequest_ok (mapError_ok hrequest)
    rw [h.sameEvidence] at hprompt
    refine Silent.andThen (callPort_silent _) .nil fun estimated => ?_
    refine (generateWithin_emits 1 _).bind (fun events he => ?_) fun r events hgenerates => ?_
    · refine he.mono ?_
      unfold callLimit
      rw [hreview]
      exact le_refl _
    cases r with
    | inl denied =>
      obtain ⟨hcalls, hdenied⟩ := hgenerates
      refine Emits.ret ⟨?_, ⟨hdenied.outcome, hdenied.message, hdenied.finalOutput,
        hdenied.unproved, hdenied.sameEvidence.trans h.sameEvidence⟩, fun n' hn' => by cases hn'⟩
      rw [List.append_nil]
      refine hcalls.mono ?_
      unfold callLimit
      rw [hreview]
      exact Nat.zero_le _
    | inr review =>
      obtain ⟨hcalls, hanswered, _, _, _, _, hkept⟩ := hgenerates
      have hprepared := hkept hreview
      rw [hprepared, Nat.add_sub_cancel] at hcalls
      have hreviewed := @reviewed_emits _ lib ports _ _ _ _ _ _ _ h (not_not.mp hadmitted) ho
        hanswered (by rw [hprepared]; exact hprompt)
      refine hreviewed.bind (fun more he => ?_) fun n' more hn' => ?_
      · rw [he, List.append_nil]
        exact hcalls
      · obtain ⟨hnone, hgenerated, hstands⟩ := hn'
        rw [hnone]
        refine Emits.ret ?_
        rw [List.append_nil, List.append_nil]
        refine ⟨hcalls, hstands, ?_⟩
        rintro _ ⟨⟩
        exact hgenerated

/-! ## Repairs -/

/-- The request of a repair is as fresh as the one that it repairs. -/
theorem finalAnswerRepairRequest_ok {n : NormalizedFinalAnswerAttempt} {request : ModelRequest}
    (h : finalAnswerRepairRequest lib ports state n = .ok request) :
    request.metadata.contextOverflowRecovery =
      n.generated.prepared.request.metadata.contextOverflowRecovery := by
  obtain ⟨requirements, _, h⟩ := bind_ok h
  obtain ⟨records, _, h⟩ := bind_ok h
  obtain rfl := pure_ok h
  rfl

theorem recovered_le (prepared : PreparedFinalAnswerAttempt) : recovered prepared ≤ 1 := by
  unfold recovered
  split <;> decide

/-- **A repair** is one generation and its review. -/
theorem repair_emits {evidence : List EvidenceChunk} {before : List AttemptEvent}
    {n : NormalizedFinalAnswerAttempt} (h : Standing lib state evidence n before) :
    Emits (attemptJournal W) (repair lib ports state action n)
      (fun r events => CallsWithin (3 - recovered n.generated.prepared) events ∧
        Stands lib state evidence before r events)
      (CallsWithin (3 - recovered n.generated.prepared)) := by
  have hone := recovered_le n.generated.prepared
  refine Emits.ite (fun _ => Emits.ret ⟨.nil, ?_⟩) fun _ => ?_
  · unfold Stands
    rw [List.append_nil]
    exact h
  refine Emits.ofExcept.quietly .nil fun request hrequest => ?_
  have hfresh := finalAnswerRepairRequest_ok (mapError_ok hrequest)
  refine Silent.andThen (callPort_silent _) .nil fun estimated => ?_
  have hrecovered : recovered ⟨request, estimated, n.generated.prepared.evidence⟩ =
      recovered n.generated.prepared := by
    unfold recovered
    rw [hfresh]
  refine (generateWithin_emits 1 _).bind (fun events he => ?_) fun r events hgenerates => ?_
  · have hlimit := callLimit_le ⟨request, estimated, n.generated.prepared.evidence⟩
    refine he.mono ?_
    omega
  cases r with
  | inl denied =>
    obtain ⟨hcalls, hdenied⟩ := hgenerates
    have hlimit := callLimit_le ⟨request, estimated, n.generated.prepared.evidence⟩
    refine Emits.ret ⟨?_, hdenied.outcome, hdenied.message, hdenied.finalOutput,
      hdenied.unproved, hdenied.sameEvidence.trans h.sameEvidence⟩
    rw [List.append_nil]
    refine hcalls.mono ?_
    omega
  | inr g =>
    obtain ⟨hcalls, hanswered, hover, hle, hg, _⟩ := hgenerates
    rw [hrecovered] at hcalls hle
    have hspent : CallsWithin (2 - recovered n.generated.prepared) events := hcalls.mono (by omega)
    have hstart : CallsWithin (3 - recovered n.generated.prepared) events := hcalls.mono (by omega)
    refine Emits.quietly (normalize_emits g) (by rw [List.append_nil]; exact hstart)
      fun fresh hfresh => ?_
    obtain ⟨rfl, _, hunreviewed, hsettled⟩ := hfresh
    have hstanding : Standing lib state evidence fresh (before ++ events) :=
      .normalized hsettled hunreviewed (List.mem_append_right _ hanswered) (hover.trans h.sameEvidence)
    refine (reviewGrounding_emits hstanding).bind (fun more he => ?_) fun r more hr => ?_
    · exact (hspent.append he).mono (by omega)
    obtain ⟨hreview, hstands, _⟩ := hr
    have htotal : CallsWithin (3 - recovered n.generated.prepared) (events ++ more) :=
      (hspent.append hreview).mono (by omega)
    cases r with
    | inl denied =>
      refine Emits.ret ?_
      rw [List.append_nil]
      exact ⟨htotal, hstands.outcome, hstands.message, hstands.finalOutput, hstands.unproved,
        hstands.sameEvidence⟩
    | inr repaired =>
      have hstands : Standing lib state evidence repaired (before ++ events ++ more) := hstands
      refine Emits.ret ?_
      rw [List.append_nil]
      refine ⟨htotal, ?_⟩
      show Standing lib state evidence (withHistory n repaired) (before ++ (events ++ more))
      rw [← List.append_assoc]
      exact ⟨hstands.answered, hstands.sameEvidence, hstands.settled, hstands.reviewed⟩

/-! ## What a run shows -/

/-- The texts that a run shows where it has no answer. -/
def ownTexts : List String :=
  ["The final-answer model call was blocked by policy.",
    "回答生成失败：达到输出 Token 上限，压缩重试后仍未完整输出。请提高输出预留或缩小问题范围。",
    "Answer truncated at the output token limit after compact retry. Increase the output allowance or narrow the question.",
    "回答生成失败：模型输出未通过校验。请查看运行诊断。",
    "Answer generation failed: model output did not pass validation. See run diagnostics."]

theorem failureMessage_mem (diagnostic : FailureDiagnostic) :
    failureMessage state diagnostic ∈ ownTexts := by
  unfold failureMessage
  dsimp only
  repeat' split
  all_goals simp [ownTexts]

/-- An answer is the message of a valid output, or the rendering of one that quotes and was
reviewed. -/
def ShowsOutput (lib : AttemptLibrary) (state : ControlledReActRunState)
    (evidence : List EvidenceChunk) (events : List AttemptEvent) (result : AnswerSynthesisResult) : Prop :=
  ∃ request response o, .answered request response ∈ events ∧
    ValidResponse lib state evidence response o ∧
    match o.analysis with
    | none => result.message = o.message ∧ result.factValidation = none
    | some _ => (∃ answer, readQuotedOutput o.toJson = some answer ∧
        result = quotedAnswer lib evidence answer) ∧
      ReviewedIn lib state evidence request response o events

/-- What a run shows: an answer, or one of its own texts. -/
structure Shows (lib : AttemptLibrary) (state : ControlledReActRunState)
    (evidence : List EvidenceChunk) (events : List AttemptEvent) (result : AnswerSynthesisResult) : Prop where
  sameEvidence : result.evidence = evidence
  finalOutput : result.finalOutput = result.message
  shown : (result.outcome = .answeredWithCitations ∧ ShowsOutput lib state evidence events result) ∨
    (result.outcome ∈ [.policyDenied, .failedWithTrace] ∧ result.message ∈ ownTexts ∧
      result.factValidation = none)

theorem Denied.shows {evidence : List EvidenceChunk} {events : List AttemptEvent}
    {denied : AttemptResult} (h : Denied evidence denied) :
    Shows lib state evidence events denied.toAnswerSynthesisResult where
  sameEvidence := h.sameEvidence
  finalOutput := h.finalOutput
  shown := .inr ⟨by simp [h.outcome], by simp [h.message, ownTexts], h.unproved⟩

theorem failedResult_shows {evidence : List EvidenceChunk} {events : List AttemptEvent}
    {n : NormalizedFinalAnswerAttempt} (h : n.generated.prepared.evidence = evidence)
    (diagnostic : FailureDiagnostic) :
    Shows lib state evidence events (failedResult state n diagnostic).toAnswerSynthesisResult where
  sameEvidence := h
  finalOutput := rfl
  shown := .inr ⟨by simp [failedResult], failureMessage_mem diagnostic, rfl⟩

/-- Whether an attempt's output quotes. -/
def quotes (lib : AttemptLibrary) (n : NormalizedFinalAnswerAttempt) : Bool :=
  (outputOf lib n.generated.response).any fun o => o.analysis.isSome

/-- An attempt that quotes is failed unless its review passed. -/
theorem requireReview_emits (n : NormalizedFinalAnswerAttempt) :
    Emits (attemptJournal W) (requireReview lib ports n)
      (fun n' events => NoEvent events ∧
        n'.generated.prepared.evidence = n.generated.prepared.evidence ∧
        (n'.diagnostic = none → n' = n ∧ (quotes lib n = true →
          ∃ r, n.groundingReview = some r ∧ r.status = .passed))) NoEvent := by
  refine Emits.ite (fun _ => ?_) fun hreview => Emits.ret ⟨rfl, rfl, fun hnone => ⟨rfl, ?_⟩⟩
  · refine Silent.andThen (failureDiagnostic_silent _ _) rfl fun diagnostic => ?_
    exact Emits.ret ⟨rfl, rfl, fun hnone => by cases hnone⟩
  · intro hquotes
    unfold quotes at hquotes
    rw [hquotes, hnone] at hreview
    cases hr : n.groundingReview with
    | none => simp [hr] at hreview
    | some r => exact ⟨r, rfl, by simpa [hr] using hreview⟩

/-- The text of a literal answer is that of its output. -/
theorem literalResult_message {evidence : List EvidenceChunk} {n : NormalizedFinalAnswerAttempt}
    {o : FinalAnswerOutput} (hmessage : n.message = some o.message)
    (h : ValidResponse lib state evidence n.generated.response o) :
    (literalResult n).message = o.message := by
  simp [literalResult, hmessage, Option.filter, h.valid.message_ne]

/-- What is admitted is shown. -/
theorem admitAttempt_emits {evidence : List EvidenceChunk} {before : List AttemptEvent}
    {n : NormalizedFinalAnswerAttempt} (h : Standing lib state evidence n before) :
    Emits (attemptJournal W) (admitAttempt lib ports state n)
      (fun result events => NoEvent events ∧ Shows lib state evidence before result.toAnswerSynthesisResult)
      NoEvent := by
  refine Emits.quietly (requireReview_emits n) rfl fun ready hready => ?_
  obtain ⟨hover, hready⟩ := hready
  split
  · exact Emits.ret ⟨rfl, failedResult_shows (hover.trans h.sameEvidence) _⟩
  rename_i hnone
  obtain ⟨rfl, hreview⟩ := hready hnone
  have hsettled := h.settled
  unfold Settled at hsettled
  rw [hnone, h.sameEvidence] at hsettled
  obtain ⟨_, o, hmessage, hresponse⟩ := hsettled
  have ho := outputOf_valid hresponse
  rw [ho]
  unfold quotes at hreview
  rw [ho] at hreview
  cases hanalysis : o.analysis with
  | none =>
    rw [show (some o).filter (fun o => o.analysis.isSome) = none by simp [Option.filter, hanalysis]]
    refine Emits.ret ⟨rfl, h.sameEvidence, rfl, .inl ⟨rfl, _, _, o, h.answered, hresponse, ?_⟩⟩
    rw [hanalysis]
    exact ⟨literalResult_message hmessage hresponse, rfl⟩
  | some analysis =>
    have hquoted : o.analysis.isSome = true := by rw [hanalysis]; rfl
    rw [show (some o).filter (fun o => o.analysis.isSome) = some o by simp [Option.filter, hanalysis]]
    refine Emits.ofExcept.quietly rfl fun answer hanswer => ?_
    obtain ⟨r, hr, hpassed⟩ := hreview hquoted
    refine Emits.ret ⟨rfl, h.sameEvidence, rfl, .inl ⟨rfl, _, _, o, h.answered, hresponse, ?_⟩⟩
    rw [hanalysis]
    refine ⟨⟨answer, orRaise_ok hanswer, ?_⟩, h.reviewed r o hr hpassed ho⟩
    rw [← h.sameEvidence]

/-! ## Runs -/

theorem acceptedEvidence_idem (evidence : List EvidenceChunk) :
    acceptedEvidence (acceptedEvidence evidence) = acceptedEvidence evidence := by
  unfold acceptedEvidence
  rw [List.filter_filter]
  simp

theorem prepare_emits (evidence : List EvidenceChunk) :
    Emits (attemptJournal W) (prepare lib ports state evidence)
      (fun prepared events => NoEvent events ∧
        prepared.evidence = uniqueBy evidenceIdentity (acceptedEvidence evidence) ∧
        recovered prepared = 0) NoEvent := by
  refine Emits.ofExcept.quietly rfl fun unique hunique => ?_
  refine Emits.ofExcept.quietly rfl fun request hrequest => ?_
  refine Silent.andThen (callPort_silent _) rfl fun estimated => Emits.ret ⟨rfl, ?_, ?_⟩
  · obtain ⟨_, _, hunique⟩ := bind_ok (mapError_ok hunique)
    rw [← pure_ok hunique, acceptedEvidence_idem]
  · obtain ⟨records, _, hrequest⟩ := bind_ok (mapError_ok hrequest)
    obtain ⟨requirements, _, hrequest⟩ := bind_ok hrequest
    obtain rfl := pure_ok hrequest
    rfl

/-- **A run** makes five calls at most, and what it returns is shown on what it did. -/
theorem run_emits (evidence : List EvidenceChunk) :
    Emits (attemptJournal W) (run lib ports state action evidence)
      (fun result events => CallsWithin 5 events ∧
        Shows lib state (uniqueBy evidenceIdentity (acceptedEvidence evidence)) events
          result.toAnswerSynthesisResult)
      (CallsWithin 5) := by
  refine Emits.quietly (prepare_emits evidence) .nil fun prepared hprepared => ?_
  obtain ⟨hover, hfresh⟩ := hprepared
  have hlimit := callLimit_le prepared
  refine (generateWithin_emits 1 prepared).bind (fun events he => he.mono (by omega))
    fun r events hgenerates => ?_
  cases r with
  | inl denied =>
    obtain ⟨hcalls, hdenied⟩ := hgenerates
    refine Emits.ret ?_
    rw [List.append_nil]
    exact ⟨hcalls.mono (by omega), hover ▸ hdenied.shows⟩
  | inr g =>
    obtain ⟨hcalls, hanswered, hsame, _, hone, _⟩ := hgenerates
    rw [hfresh, Nat.sub_zero] at hcalls
    refine Emits.quietly (normalize_emits g) ?_ fun n hn => ?_
    · rw [List.append_nil]
      exact hcalls.mono (by omega)
    obtain ⟨rfl, _, hunreviewed, hsettled⟩ := hn
    have hstanding := Standing.normalized hsettled hunreviewed hanswered (hsame.trans hover)
    refine (reviewGrounding_emits hstanding).bind (fun more he => ?_) fun r more hr => ?_
    · exact (hcalls.append he).mono (by omega)
    obtain ⟨hreview, hstands, hkept⟩ := hr
    have hspent := hcalls.append hreview
    cases r with
    | inl denied =>
      refine Emits.ret ?_
      rw [List.append_nil]
      exact ⟨hspent.mono (by omega), Denied.shows hstands⟩
    | inr standing =>
      have hgenerated := hkept standing rfl
      refine (repair_emits hstands).bind (fun last he => ?_) fun r last hr => ?_
      · rw [hgenerated] at he
        rw [← List.append_assoc]
        exact (hspent.append he).mono (by omega)
      obtain ⟨hrepair, hstands⟩ := hr
      rw [hgenerated] at hrepair
      have htotal : CallsWithin 5 (events ++ more ++ last) :=
        (hspent.append hrepair).mono (by omega)
      cases r with
      | inl denied =>
        refine Emits.ret ?_
        rw [List.append_nil, ← List.append_assoc]
        exact ⟨htotal, Denied.shows hstands⟩
      | inr repaired =>
        refine (admitAttempt_emits hstands).conseq (fun result tail hshown => ?_) fun tail he => ?_
        · obtain ⟨hnone, hshows⟩ := hshown
          rw [hnone, List.append_nil, ← List.append_assoc]
          exact ⟨htotal, hshows⟩
        · rw [he, List.append_nil, ← List.append_assoc]
          exact htotal

end FinalAnswerAttemptRunner

open FinalAnswerAttemptRunner

variable {W : Type}

/-- **Answers are validated.** Whatever the model, the policy and the trace do, a run calls the
model at most five times, each time right after it was allowed to, and shows nothing but a valid
output over the accepted evidence, reviewed if it quotes, or a text of its own. -/
theorem attempts_show_validated (lib : AttemptLibrary) (ports : AnswerModelPorts W)
    (state : ControlledReActRunState) (action : ReActActionProposal) (evidence : List EvidenceChunk)
    (m : AttemptMachine W) : ∃ events,
      (run lib ports state action evidence m).2.journal = m.journal ++ events ∧
      CallsWithin 5 events ∧
      ∀ result, (run lib ports state action evidence m).1 = .ok result →
        Shows lib state (uniqueBy evidenceIdentity (acceptedEvidence evidence)) events
          result.toAnswerSynthesisResult := by
  have hrun : Emits (attemptJournal W) (run lib ports state action evidence) _ _ := run_emits evidence
  rcases h : run lib ports state action evidence m with ⟨e | result, m'⟩
  · obtain ⟨events, hran, hcalls⟩ := (hrun m).2 e m' h
    exact ⟨events, hran, hcalls, fun result hresult => by cases hresult⟩
  · obtain ⟨events, hran, hcalls, hshows⟩ := (hrun m).1 result m' h
    refine ⟨events, hran, hcalls, fun result' hresult => ?_⟩
    cases hresult
    exact hshows

/-- What a run returns is shown on what it did. -/
theorem run_returns {lib : AttemptLibrary} {ports : AnswerModelPorts W}
    {state : ControlledReActRunState} {action : ReActActionProposal} {evidence : List EvidenceChunk}
    {m : AttemptMachine W} {result : AttemptResult}
    (h : (run lib ports state action evidence m).1 = .ok result) : ∃ events,
      (run lib ports state action evidence m).2.journal = m.journal ++ events ∧
      Shows lib state (uniqueBy evidenceIdentity (acceptedEvidence evidence)) events
        result.toAnswerSynthesisResult := by
  have hrun : Emits (attemptJournal W) (run lib ports state action evidence) _ _ := run_emits evidence
  obtain ⟨events, hran, _, hshows⟩ := (hrun m).1 result _ (Prod.ext h rfl)
  exact ⟨events, hran, hshows⟩

/-- An answer with quotes comes with its sources: the quotes can be read off what is shown, each is
one of an accepted chunk under its citation, and what is reported and left to recover are the
requirements of the question, each once. -/
def QuotedFaithfully (lib : AttemptLibrary) (state : ControlledReActRunState)
    (evidence : List EvidenceChunk) (outcome : Except ReactError AttemptResult) : Prop :=
  ∀ result, outcome = .ok result → result.factValidation ≠ none → ∃ answer requirements,
    answerRequirements lib.sha256 state.question.toList = .ok requirements ∧
    result.toAnswerSynthesisResult =
      quotedAnswer lib (uniqueBy evidenceIdentity (acceptedEvidence evidence)) answer ∧
    recoverQuotes result.message.toList = some (answer.quotes.map fun q => (q.claim, q.text)) ∧
    (∀ q ∈ answer.quotes, QuoteBound evidence answer.citations q) ∧
    (answer.coverage.map (·.requirementId)).Perm (requirements.map (·.requirementId)).dedup

/-- **Quoted answers** come with their sources. -/
theorem quoted_attempts_faithful (lib : AttemptLibrary) (ports : AnswerModelPorts W)
    (state : ControlledReActRunState) (action : ReActActionProposal) (evidence : List EvidenceChunk)
    (m : AttemptMachine W) :
    QuotedFaithfully lib state evidence (run lib ports state action evidence m).1 := by
  intro result hresult hproved
  obtain ⟨events, _, hshows⟩ := run_returns hresult
  rcases hshows.shown with ⟨_, hshown⟩ | ⟨_, _, hnone⟩
  · obtain ⟨request, response, o, _, hresponse, houtput⟩ := hshown
    cases hanalysis : o.analysis with
    | none =>
      rw [hanalysis] at houtput
      exact absurd houtput.2 hproved
    | some analysis =>
      rw [hanalysis] at houtput
      obtain ⟨⟨answer, hread, hanswer⟩, _⟩ := houtput
      obtain ⟨answer', requirements, hread', hrequirements, hne, hbound, hcovered⟩ :=
        hresponse.valid.quoted (by rw [hanalysis]; rfl)
      obtain rfl := Option.some.inj (hread.symm.trans hread')
      refine ⟨answer, requirements, hrequirements, hanswer, ?_, fun q hq => ?_, hcovered⟩
      · have hmessage : result.message =
            String.ofList (renderQuotedAnswer answer.message answer.quotes) := by
          rw [hanswer]
          rfl
        rw [hmessage, String.toList_ofList]
        exact recoverQuotes_render _ hne
      · exact (hbound q hq).mono fun chunk hchunk => mem_of_mem_uniqueBy (List.mem_filter.mp hchunk).1
  · exact absurd hnone hproved

end ProofAgent
