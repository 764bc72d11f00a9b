import ProofAgent.Tasks.Calls

/-! # The invariant of a task

A task that works or is done has no blocking question open; every open question
belongs to the goal as it stands; and what counts as satisfied was presented to
the verifier that its criterion names. Each change of a snapshot keeps this. -/
namespace ProofAgent

open Base WorkflowTaskRepository WorkflowTaskService

variable {rt : Runtime} {V : CriterionAssessment → Prop} {s u : WorkflowTaskSnapshot}
  {now : Instant}

/-- An assessment that its criterion's acceptor took. -/
def Accepted (V : CriterionAssessment → Prop) (goal : GoalContract) (a : CriterionAssessment) :
    Prop :=
  a.goalRevision = goal.revision ∧
    ∃ c ∈ goal.acceptanceCriteria, c.criterionId = a.criterionId ∧ a.verifier = c.verifier ∧
      (a.status = .satisfied → V a ∧ ∃ basis, c.basis = .ok (some basis))

structure TaskSound (V : CriterionAssessment → Prop) (s : SnapshotFields) : Prop where
  free : s.phase = .active ∨ s.phase = .complete → blocked s.questions s.goal.revision = false
  current : ∀ q ∈ s.questions, q.status.isOpen = true → q.request.goalRevision = s.goal.revision
  accepted : ∀ a ∈ s.assessments, Accepted V s.goal a
  complete : s.phase = .complete → s.requiredSatisfied = true

theorem TaskSound.mono {W : CriterionAssessment → Prop} {f : SnapshotFields} (h : TaskSound V f)
    (hVW : ∀ a, V a → W a) : TaskSound W f where
  free := h.free
  current := h.current
  accepted := by
    intro a ha
    obtain ⟨hrevision, c, hc, hid, hverifier, hsatisfied⟩ := h.accepted a ha
    exact ⟨hrevision, c, hc, hid, hverifier, fun hs => ⟨hVW a (hsatisfied hs).1, (hsatisfied hs).2⟩⟩
  complete := h.complete

/-! ## Reading back -/

theorem TaskSound.reread {g : PyFloat → Scalar} {s' : WorkflowTaskSnapshot}
    (h : TaskSound V s.toSnapshotFields) (hre : s.Reread g s') :
    TaskSound V s'.toSnapshotFields where
  free := by
    intro hphase
    rw [hre.phase] at hphase
    rw [hre.goal, blocked, hre.any_questions, ← blocked]
    · exact h.free hphase
    · intro q q' hrequest hstatus
      simp only [QuestionState.blocks, hrequest, hstatus]
  current := by
    intro q' hq' hopen
    rw [hre.goal]
    obtain ⟨q, hq, hone⟩ := hre.mem_questions hq'
    rw [hone.request]
    rw [hone.status] at hopen
    exact h.current q hq hopen
  accepted := by rw [hre.assessments, hre.goal]; exact h.accepted
  complete := by
    intro hphase
    rw [hre.phase] at hphase
    have hc := h.complete hphase
    unfold SnapshotFields.requiredSatisfied at hc ⊢
    rw [hre.goal, hre.assessments]
    exact hc

/-! ## Assessments -/

theorem mem_mergeAssessment {merged : List CriterionAssessment} {a b : CriterionAssessment}
    (h : b ∈ mergeAssessment merged a) : b ∈ merged ∨ b = a := by
  unfold mergeAssessment at h
  split at h
  · obtain ⟨old, hold, rfl⟩ := List.mem_map.mp h
    split
    · exact .inr rfl
    · exact .inl hold
  · rcases List.mem_append.mp h with h | h
    · exact .inl h
    · exact .inr (List.mem_singleton.mp h)

theorem acceptAssessment_ok {errors : AssessmentErrors} {goal : GoalContract} {refs : List String}
    {merged merged' : List CriterionAssessment} {a : CriterionAssessment}
    (hV : (∀ r ∈ a.proofRefs, r ∈ refs) → V a)
    (h : acceptAssessment errors goal refs merged a = .ok merged') :
    merged' = mergeAssessment merged a ∧ Accepted V goal a := by
  obtain ⟨c, hfound, h⟩ := bind_ok h
  obtain ⟨_, hbound, h⟩ := bind_ok h
  have hfound := orRaise_ok hfound
  have hc := List.mem_of_find?_eq_some hfound
  have hid : c.criterionId = a.criterionId := by simpa using List.find?_some hfound
  obtain ⟨hverifier, hrevision⟩ := require_ok hbound
  split at h
  · obtain ⟨_, hverified, h⟩ := bind_ok h
    obtain ⟨basis, hbasis, h⟩ := bind_ok h
    obtain ⟨_, hsome, h⟩ := bind_ok h
    obtain ⟨b, rfl⟩ := Option.isSome_iff_exists.mp (require_ok hsome)
    exact ⟨(pure_ok h).symm, hrevision, c, hc, hid, hverifier,
      fun _ => ⟨hV (require_ok hverified), b, hbasis⟩⟩
  · rename_i hnot
    exact ⟨(pure_ok h).symm, hrevision, c, hc, hid, hverifier, fun hs => absurd hs hnot⟩

theorem acceptAll_ok {errors : AssessmentErrors} {goal : GoalContract} {refs : List String} :
    ∀ {assessments merged merged' : List CriterionAssessment},
      (∀ a ∈ assessments, (∀ r ∈ a.proofRefs, r ∈ refs) → V a) →
      (∀ a ∈ merged, Accepted V goal a) →
      assessments.foldlM (acceptAssessment errors goal refs) merged = .ok merged' →
      ∀ a ∈ merged', Accepted V goal a
  | [], _, _, _, hmerged, h => by cases pure_ok h; exact hmerged
  | a :: rest, merged, merged', hV, hmerged, h => by
    rw [List.foldlM_cons] at h
    obtain ⟨next, hone, hrest⟩ := bind_ok h
    obtain ⟨rfl, haccepted⟩ := acceptAssessment_ok (hV a (by simp)) hone
    refine acceptAll_ok (fun b hb => hV b (by simp [hb])) (fun b hb => ?_) hrest
    rcases mem_mergeAssessment hb with hb | rfl
    · exact hmerged b hb
    · exact haccepted

/-! ## Questions -/

theorem blocked_eq_false_iff {questions : List QuestionState} {revision : Nat} :
    blocked questions revision = false ↔ ∀ q ∈ questions, q.blocks revision = false := by
  simp only [blocked, List.any_eq_false, Bool.not_eq_true]

/-- Replacing questions by ones that do not block opens nothing. -/
theorem blocked_map {f : QuestionState → QuestionState} {questions : List QuestionState}
    {revision : Nat} (hf : ∀ q ∈ questions, (f q).blocks revision = true → q.blocks revision = true)
    (h : blocked questions revision = false) : blocked (questions.map f) revision = false := by
  rw [blocked_eq_false_iff] at h ⊢
  intro q hq
  obtain ⟨old, hold, rfl⟩ := List.mem_map.mp hq
  have := h old hold
  cases hb : (f old).blocks revision with
  | false => rfl
  | true => rw [hf old hold hb] at this; cases this

theorem blocks_closed {q : QuestionState} {revision : Nat} (h : q.status.isOpen = false) :
    q.blocks revision = false := by
  simp [QuestionState.blocks, h]

/-- An answered question stands where the answer's question stood. -/
theorem mem_answeredQuestions {answer : TypedAnswer} {item q : QuestionState}
    {intentId : Option String} (h : q ∈ answeredQuestions rt s answer item now intentId) :
    q.status.isOpen = false ∨ q ∈ s.questions := by
  obtain ⟨old, hold, rfl⟩ := List.mem_map.mp h
  split
  · exact .inl rfl
  · exact .inr hold

theorem answeredQuestions_blocked {answer : TypedAnswer} {item : QuestionState}
    {intentId : Option String} {revision : Nat} (h : blocked s.questions revision = false) :
    blocked (answeredQuestions rt s answer item now intentId) revision = false := by
  refine blocked_map (fun q _ hb => ?_) h
  split at hb
  · rw [blocks_closed rfl] at hb; cases hb
  · exact hb

/-- Which intent an answer carries does not matter for blocking. -/
theorem answeredQuestions_intent {answer : TypedAnswer} {item : QuestionState}
    {intentId : Option String} {revision : Nat} :
    blocked (answeredQuestions rt s answer item now intentId) revision =
      blocked (answeredQuestions rt s answer item now none) revision := by
  simp only [blocked, answeredQuestions, replaceQuestion, List.any_map]
  refine congrArg (s.questions.any ·) (funext fun q => ?_)
  simp only [Function.comp]
  split <;> rfl

/-! ## Every change keeps the invariant -/

theorem Asks.sound {question : QuestionRequest} (h : TaskSound V s.toSnapshotFields)
    (asks : Asks s question now) : TaskSound V (askedFields s question now) := by
  have hphase : (askedFields s question now).phase ≠ .complete := by
    intro hc
    cases hb : question.blocking with
    | true => simp [askedFields, hb] at hc
    | false =>
      have hcomplete : s.phase = .complete := by simpa [askedFields, hb] using hc
      have hworking := asks.working.1
      rw [hcomplete] at hworking
      cases hworking
  refine ⟨fun hgo => ?_, fun q hq hopen => ?_, h.accepted, fun hc => absurd hc hphase⟩
  · rcases hgo with hactive | hc
    · cases hb : question.blocking with
      | true => simp [askedFields, hb] at hactive
      | false =>
        have hold := h.free (.inl (by simpa [askedFields, hb] using hactive))
        simp only [askedFields, blocked, List.any_append, Bool.or_eq_false_iff] at hold ⊢
        exact ⟨hold, by simp [QuestionState.blocks, hb]⟩
    · exact absurd hc hphase
  · rcases List.mem_append.mp hq with hq | hq
    · exact h.current q hq hopen
    · obtain rfl := List.mem_singleton.mp hq
      exact asks.revision

theorem renewed_sound (h : TaskSound V s.toSnapshotFields) :
    TaskSound V { s.toSnapshotFields with
      questions :=
        (s.questions.map fun q =>
          if q.lapsed s.goal.revision now then q.unanswered .superseded (by decide) else q) ++
        (s.questions.filter fun q => q.lapsed s.goal.revision now).map
          (renewedQuestion rt s s.goal.taskId now)
      phase := .waitingForInput } := by
  refine ⟨fun hgo => ?_, fun q hq hopen => ?_, h.accepted, fun hc => by cases hc⟩
  · rcases hgo with hgo | hgo <;> cases hgo
  · rcases List.mem_append.mp hq with hq | hq
    · obtain ⟨old, hold, rfl⟩ := List.mem_map.mp hq
      split at hopen
      · cases hopen
      · rename_i hkept
        rw [if_neg hkept]
        exact h.current old hold hopen
    · obtain ⟨old, hold, rfl⟩ := List.mem_map.mp hq
      have hlapsed := (List.mem_filter.mp hold).2
      simp only [QuestionState.lapsed, Bool.and_eq_true, decide_eq_true_eq] at hlapsed
      exact hlapsed.1.1

theorem revised_sound {goal : GoalContract}
    (working : s.phase.isTerminal = false) :
    TaskSound V { s.toSnapshotFields with
      goal
      questions := s.questions.map fun q =>
        if q.status.isOpen then q.unanswered .superseded (by decide) else q
      assessments := []
      phase := if s.phase = .waitingForInput then .active else s.phase } := by
  have hclosed : ∀ q ∈ s.questions.map fun q : QuestionState =>
      if q.status.isOpen then q.unanswered .superseded (by decide) else q,
      q.status.isOpen = false := by
    intro q hq
    obtain ⟨old, _, rfl⟩ := List.mem_map.mp hq
    split
    · rfl
    · rename_i hc; exact Bool.eq_false_iff.mpr hc
  refine ⟨fun _ => ?_, fun q hq hopen => ?_, by simp, fun hc => ?_⟩
  · exact blocked_eq_false_iff.mpr fun q hq => blocks_closed (hclosed q hq)
  · rw [hclosed q hq] at hopen; cases hopen
  · have hcomplete : s.phase = .complete := by
      revert hc
      cases s.phase <;> simp
    rw [hcomplete] at working
    cases working

theorem expired_sound (h : TaskSound V s.toSnapshotFields) :
    TaskSound V { s.toSnapshotFields with
      questions := s.questions.map fun q =>
        if q.status = .pending ∧ q.request.expiresAt ≤ now then q.unanswered .expired (by decide)
        else q } := by
  refine ⟨fun hgo => blocked_map (fun q _ hb => ?_) (h.free hgo), fun q hq hopen => ?_, h.accepted,
    h.complete⟩
  · split at hb
    · rename_i hlate
      simp only [QuestionState.blocks, QuestionState.unanswered, Bool.and_eq_true] at hb ⊢
      exact ⟨hb.1, by rw [hlate.1]; rfl⟩
    · exact hb
  · obtain ⟨old, hold, rfl⟩ := List.mem_map.mp hq
    split at hopen
    · rename_i hlate
      rw [if_pos hlate]
      exact h.current old hold (by rw [hlate.1]; rfl)
    · rename_i hkept
      rw [if_neg hkept]
      exact h.current old hold hopen

/-- **Every change keeps the invariant**, given what the swap checks of a finished task. -/
theorem SnapshotChange.sound {intent : Option ResumeIntent} {f : SnapshotFields}
    (h : TaskSound V s.toSnapshotFields) (c : SnapshotChange rt V s now intent f)
    (hcomplete : f.phase = .complete → f.requiredSatisfied = true) : TaskSound V f := by
  have hquestions : ∀ {answer item intentId},
      ∀ q ∈ answeredQuestions rt s answer item now intentId, q.status.isOpen = true →
        q.request.goalRevision = s.goal.revision := by
    intro answer item intentId q hq hopen
    rcases mem_answeredQuestions hq with hclosed | hold
    · rw [hclosed] at hopen; cases hopen
    · exact h.current q hold hopen
  cases c with
  | asked question asks => exact asks.sound h
  | answered answer item accepts waits =>
    exact ⟨fun hgo => answeredQuestions_blocked (h.free hgo), hquestions, h.accepted, h.complete⟩
  | resumed answer item intentId accepts resumes =>
    exact ⟨fun _ => answeredQuestions_intent.trans resumes.2, hquestions, h.accepted,
      fun hc => by cases hc⟩
  | continued idle free => exact ⟨fun _ => free, h.current, h.accepted, fun hc => by cases hc⟩
  | renewed waiting => exact renewed_sound h
  | runFailed runId news =>
    refine ⟨fun hgo => ?_, h.current, h.accepted, fun hc => by cases hc⟩
    rcases hgo with hgo | hgo <;> cases hgo
  | revised goal working task_id revision => exact revised_sound working
  | assessed errors assessments merged refs active presented merges =>
    exact ⟨h.free, h.current, acceptAll_ok presented h.accepted merges, hcomplete⟩
  | transitioned phase allowed free done =>
    refine ⟨fun hgo => ?_, h.current, h.accepted, hcomplete⟩
    rcases hgo with hactive | hdone
    · exact free hactive
    · -- only an active task can be completed
      refine h.free (.inl ?_)
      simp only at hdone
      rw [hdone] at allowed
      revert allowed
      cases s.phase <;> simp [allowedPhase]
  | expired => exact expired_sound h
  | bound runId delta usage working sum => exact ⟨h.free, h.current, h.accepted, h.complete⟩
  | updated errors assessments merged refs delta usage phase active phase_ne presented merges sum =>
    exact ⟨fun _ => h.free (.inl active), h.current, acceptAll_ok presented h.accepted merges,
      hcomplete⟩
  | updatedAsking errors assessments merged refs delta usage question active asks presented merges
      sum =>
    have ha := asks.sound h
    exact ⟨ha.free, ha.current, acceptAll_ok presented h.accepted merges, hcomplete⟩

end ProofAgent
