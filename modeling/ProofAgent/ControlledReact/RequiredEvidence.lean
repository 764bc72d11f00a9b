import ProofAgent.ControlledReact.Journal

/-! # What a completed query rests on

A completion is recomputed from the records of a state and the truths that the
store loads for them. When it is complete, every required query has a retrieval
among the records whose truth binds again under the record's reference and
supports the query. -/
namespace ProofAgent

open Base

variable {rt : Runtime} {W T S : Type} {ports : ControlledReActPorts W T S} {knowledge : RunKnowledge}

/-- A record whose truth serves a query in a run. -/
structure ServesQuery (rt : Runtime) (runId query : String) (record : ObservationRecord)
    (truth : RetrievalObservationTruth) : Prop where
  retrieval : record.actionType = .planRetrieval
  /-- The truth binds to the record's reference, in this run. -/
  verified : ∃ b, requireBoundObservationTruth rt (.retrieval truth) = .ok b ∧ b.runId = runId ∧
    b.reference = record.truthRef
  asked : ∃ text, truth.admissionMetadata.get? "query" = some (.str text) ∧ stripText text = query
  supported : ∃ chunk ∈ truth.acceptedEvidence, chunk.supports record truth = true

/-- The truth store loads this truth for the record, in some state of it. -/
def LoadedFor (ports : ControlledReActPorts W T S) (record : ObservationRecord)
    (truth : ObservationTruthArtifact) : Prop :=
  ∃ truths, (ports.observationTruthStore.load record.truthRef truths).1 = .ok truth

/-- **Every required query is served** by a record of the state. -/
def RequirementsServed (rt : Runtime) (ports : ControlledReActPorts W T S)
    (state : ControlledReActRunState) : Prop :=
  ∃ requirements, requiredRetrievals rt state.intentResolution = .ok requirements ∧
    ∀ requirement ∈ requirements, ∃ record ∈ state.observationRecords, ∃ truth,
      LoadedFor ports record (.retrieval truth) ∧
        ServesQuery rt state.runId requirement.query record truth

/-! ## Attempts -/

theorem attemptOf_ok {runId reference : String} {record : ObservationRecord}
    {truth : ObservationTruthArtifact} {a : RetrievalAttempt}
    (hb : ∃ b, requireBoundObservationTruth rt truth = .ok b ∧ b.runId = runId ∧
      b.reference = record.truthRef)
    (h : attemptOf reference record truth = some a) (hs : a.supported = true) :
    ∃ t, truth = .retrieval t ∧ ServesQuery rt runId a.query record t := by
  cases truth with
  | tool t => cases h
  | retrieval t =>
    simp only [attemptOf] at h
    split at h
    · rename_i query hquery
      split at h
      · cases h
      · rename_i hgood
        cases h
        obtain ⟨chunk, hmem, hsup⟩ := List.any_eq_true.mp hs
        refine ⟨t, rfl, ?_, hb, ⟨query, hquery, rfl⟩, chunk, hmem, hsup⟩
        exact not_not.mp fun hne => hgood (.inl hne)
    · cases h

theorem retrievalAttempt_ok {runId : String} {record : ObservationRecord}
    {truth : ObservationTruthArtifact} {attempt : Option RetrievalAttempt}
    (h : retrievalAttempt rt runId record truth = .ok attempt) :
    ∃ reference, attempt = attemptOf reference record truth ∧
      ∃ b, requireBoundObservationTruth rt truth = .ok b ∧ b.runId = runId ∧
        b.reference = record.truthRef := by
  obtain ⟨binding, hb, h₁⟩ := bind_ok h
  obtain ⟨_, hreq, h₂⟩ := bind_ok h₁
  obtain ⟨hrun, href, _⟩ := require_ok hreq
  exact ⟨_, (pure_ok h₂).symm, binding, hb, hrun, href.symm⟩

/-! ## Completion -/

/-- The supporting references of a query come from supported attempts at it. -/
theorem completionOf_complete {requirements : List RequiredRetrieval}
    {attempts : List RetrievalAttempt} {question : String} {optional : List String}
    {know : CoverageKnowledge}
    (h : (completionOf rt know requirements attempts question optional).complete = true)
    {requirement : RequiredRetrieval} (hmem : requirement ∈ requirements) :
    ∃ a ∈ attempts, a.query = requirement.query ∧ a.supported = true := by
  simp only [RetrievalTaskCompletion.complete, completionOf, Bool.and_eq_true,
    List.all_map, List.all_eq_true, Function.comp_apply] at h
  have hrow := h.1.2 requirement hmem
  by_contra hnone
  refine absurd hrow ?_
  have hempty : (attempts.filter fun a => a.query = requirement.query && a.supported) = [] := by
    rw [List.filter_eq_nil_iff]
    intro a ha hq
    simp only [Bool.and_eq_true, decide_eq_true_eq] at hq
    exact hnone ⟨a, ha, hq⟩
  simp [hempty]

theorem assessRetrievalCompletion_complete {runId : String}
    {requirements : List RequiredRetrieval} {records : List ObservationRecord}
    {truths : List ObservationTruthArtifact} {question : String} {optional : List String}
    {know : CoverageKnowledge} {completion : RetrievalTaskCompletion}
    (h : assessRetrievalCompletion rt know runId requirements records truths question optional
      = .ok completion)
    (hc : completion.complete = true) {requirement : RequiredRetrieval}
    (hmem : requirement ∈ requirements) :
    ∃ p ∈ records.zip truths, ∃ t, p.2 = .retrieval t ∧
      ServesQuery rt runId requirement.query p.1 t := by
  obtain ⟨attempts, hattempts, h₁⟩ := bind_ok h
  obtain ⟨_, _, h₂⟩ := bind_ok h₁
  cases pure_ok h₂
  obtain ⟨a, ha, hquery, hsup⟩ := completionOf_complete hc hmem
  obtain ⟨attempt, hattempt, hsome⟩ := List.mem_filterMap.mp ha
  simp only [id_eq] at hsome
  subst hsome
  obtain ⟨p, hp, hok⟩ := mapM_ok_mem hattempts hattempt
  obtain ⟨reference, heq, hb⟩ := retrievalAttempt_ok hok
  obtain ⟨t, ht, hserves⟩ := attemptOf_ok hb heq.symm hsup
  exact ⟨p, hp, t, ht, hquery ▸ hserves⟩

namespace ControlledReActOrchestrator

/-- The gate of a final answer: what is not incomplete is served. -/
theorem completionWith_served {state : ControlledReActRunState} {context : AnswerEvidenceContext}
    {completion : Option RetrievalTaskCompletion}
    (htruths : List.Forall₂ (LoadedFor ports) state.observationRecords context.observationTruth)
    (h : completionWith rt knowledge state context = .ok completion)
    (hc : completion.any (fun c => !c.complete) = false) : RequirementsServed rt ports state := by
  obtain ⟨requirements, hreq, h₁⟩ := bind_ok h
  refine ⟨requirements, hreq, fun requirement hmem => ?_⟩
  split at h₁
  · rename_i hnil
    rw [hnil] at hmem
    cases hmem
  · obtain ⟨optional, _, h₂⟩ := bind_ok h₁
    obtain ⟨c, hassess, h₃⟩ := bind_ok h₂
    cases pure_ok h₃
    have hcomplete : c.complete = true := by simpa using hc
    obtain ⟨p, hp, t, ht, hserves⟩ :=
      assessRetrievalCompletion_complete hassess hcomplete hmem
    obtain ⟨record, truth⟩ := p
    simp only at ht hserves
    subst ht
    exact ⟨record, (List.of_mem_zip hp).1, t, List.forall₂_zip htruths hp, hserves⟩

end ControlledReActOrchestrator

end ProofAgent
