import ProofAgent.Control.GoalControl
import ProofAgent.Tasks.Lifecycle

/-! # What a run proposes of its goal, and what its task accepts

`assess_goal` and the two commands that check an assessment know of the verifiers separately. They
agree on all of them but `grounded_analysis`, whose successes no command has a basis for. -/
namespace ProofAgent

open Base

variable {rt : Runtime} {knowledge : GoalKnowledge} {goal : GoalContract} {e : GoalEvidence}

/-- A criterion that is proposed as a success by its grounded analysis. -/
def GoalEvidence.analysed (knowledge : GoalKnowledge) (e : GoalEvidence) (goal : GoalContract)
    (c : AcceptanceCriterion) : Prop :=
  c.verifier = .groundedAnalysis ∧ e.outcome = .answeredWithCitations ∧
    e.analysisVerified knowledge goal c = true

/-- A criterion of a goal is found by its identifier. -/
theorem GoalContract.find_criterion (goal : GoalContract) {c : AcceptanceCriterion}
    (hc : c ∈ goal.acceptanceCriteria) :
    goal.acceptanceCriteria.find? (fun d => d.criterionId = c.criterionId) = some c := by
  cases hfound : goal.acceptanceCriteria.find? (fun d => d.criterionId = c.criterionId) with
  | none => simpa using List.find?_eq_none.mp hfound c hc
  | some d =>
    have hd := List.mem_of_find?_eq_some hfound
    have hid : d.criterionId = c.criterionId := by simpa using List.find?_some hfound
    rw [goal.criterion_unique hd hc hid]

/-- Where a criterion has proofs, its verifier has its parameter, or is a grounded analysis. -/
theorem basis_of_proofs {c : AcceptanceCriterion} (hproofs : e.proofs rt knowledge goal c ≠ []) :
    (c.verifier ≠ .groundedAnalysis ∧ ∃ basis, c.basis = .ok (some basis)) ∨
      e.analysed knowledge goal c := by
  unfold GoalEvidence.proofs at hproofs
  unfold AcceptanceCriterion.basis GoalEvidence.analysed
  by_cases houtcome : e.outcome = .answeredWithCitations
  · rw [if_neg (not_not.mpr houtcome)] at hproofs
    cases hverifier : c.verifier with
    | sourceSupport =>
      rw [hverifier] at hproofs
      cases hquery : c.query with
      | none => rw [hquery] at hproofs; exact absurd rfl hproofs
      | some query => exact .inl ⟨nofun, query, rfl⟩
    | verifiedTool =>
      rw [hverifier] at hproofs
      cases hstep : c.toolStepId with
      | none => rw [hstep] at hproofs; exact absurd rfl hproofs
      | some step => exact .inl ⟨nofun, step, rfl⟩
    | answerCoverage =>
      rw [hverifier] at hproofs
      cases htext : c.expectedText with
      | none => rw [htext] at hproofs; exact absurd rfl hproofs
      | some text => exact .inl ⟨nofun, text, rfl⟩
    | groundedAnalysis =>
      rw [hverifier] at hproofs
      by_cases hanalysis : e.analysisVerified knowledge goal c = true
      · exact .inr ⟨rfl, houtcome, hanalysis⟩
      · exact absurd (if_neg hanalysis) hproofs
  · exact absurd (if_pos houtcome) hproofs

/-- The proof of a grounded analysis is the answer. -/
theorem proofs_of_analysed {c : AcceptanceCriterion} (h : e.analysed knowledge goal c) :
    e.proofs rt knowledge goal c = [e.answerProof rt] := by
  obtain ⟨hverifier, houtcome, hanalysis⟩ := h
  unfold GoalEvidence.proofs
  rw [if_neg (not_not.mpr houtcome), hverifier]
  exact if_pos hanalysis

/-- **One assessment** is accepted unless it is the success of a grounded analysis. -/
theorem acceptAssessment_assessment (errors : AssessmentErrors) {verified : List String}
    {c : AcceptanceCriterion} (hc : c ∈ goal.acceptanceCriteria)
    (hverified : ∀ r ∈ e.proofs rt knowledge goal c, r ∈ verified)
    (merged : List CriterionAssessment) :
    (e.analysed knowledge goal c → acceptAssessment errors goal verified merged
      (e.assessment rt knowledge goal c) = .error (.key "grounded_analysis")) ∧
    (¬ e.analysed knowledge goal c → acceptAssessment errors goal verified merged
      (e.assessment rt knowledge goal c) =
        .ok (mergeAssessment merged (e.assessment rt knowledge goal c))) := by
  have hstatus : (e.assessment rt knowledge goal c).status =
      if e.proofs rt knowledge goal c = [] then .unassessed else .satisfied := rfl
  have hfound : goal.acceptanceCriteria.find? (fun d => d.criterionId =
      (e.assessment rt knowledge goal c).criterionId) = some c := goal.find_criterion hc
  have hbound : (e.assessment rt knowledge goal c).verifier = c.verifier ∧
      (e.assessment rt knowledge goal c).goalRevision = goal.revision := ⟨rfl, rfl⟩
  have hrefs : ∀ r ∈ (e.assessment rt knowledge goal c).proofRefs, r ∈ verified := hverified
  unfold acceptAssessment
  rw [hfound, orRaise_some, ok_bind, require, if_pos hbound, ok_bind, hstatus]
  constructor
  · intro hanalysed
    rw [proofs_of_analysed hanalysed, if_neg (List.cons_ne_nil _ _), if_pos rfl, require, if_pos hrefs, ok_bind]
    unfold AcceptanceCriterion.basis
    rw [hanalysed.1]
    rfl
  · intro hnot
    by_cases hproofs : e.proofs rt knowledge goal c = []
    · rw [if_pos hproofs, if_neg nofun]
      rfl
    · obtain ⟨_, basis, hbasis⟩ := (basis_of_proofs hproofs).resolve_right hnot
      rw [if_neg hproofs, if_pos rfl, require, if_pos hrefs, ok_bind, hbasis, ok_bind]
      rfl

/-- Assessments of some criteria of a goal are accepted one after the other. -/
theorem acceptAll_assessments (errors : AssessmentErrors) {verified : List String} :
    ∀ {criteria : List AcceptanceCriterion} {merged : List CriterionAssessment},
      (∀ c ∈ criteria, c ∈ goal.acceptanceCriteria) →
      (∀ c ∈ criteria, ∀ r ∈ e.proofs rt knowledge goal c, r ∈ verified) →
      ((∃ result, (criteria.map (e.assessment rt knowledge goal)).foldlM
        (acceptAssessment errors goal verified) merged = .ok result) ↔
        ∀ c ∈ criteria, ¬ e.analysed knowledge goal c)
  | [], merged, _, _ => ⟨fun _ _ h => absurd h List.not_mem_nil, fun _ => ⟨merged, rfl⟩⟩
  | c :: rest, merged, hof, hverified => by
    obtain ⟨hrejected, haccepted⟩ := acceptAssessment_assessment errors (hof c List.mem_cons_self)
      (hverified c List.mem_cons_self) merged
    rw [List.map_cons, List.foldlM_cons, List.forall_mem_cons]
    by_cases hanalysed : e.analysed knowledge goal c
    · rw [hrejected hanalysed]
      exact ⟨fun ⟨_, h⟩ => (nomatch h), fun h => absurd hanalysed h.1⟩
    · rw [haccepted hanalysed, ok_bind, acceptAll_assessments errors
        (fun d hd => hof d (List.mem_cons_of_mem _ hd))
        fun d hd => hverified d (List.mem_cons_of_mem _ hd)]
      exact ⟨fun h => ⟨hanalysed, h⟩, fun h => h.2⟩

/-- **The assessment of a goal agrees with its acceptors**, `assess` and `apply_update`, unless a
criterion is a success by its grounded analysis. -/
theorem goal_assessment_accepted (rt : Runtime) (knowledge : GoalKnowledge)
    (task : WorkflowTaskSnapshot) (e : GoalEvidence) (verified : List String)
    (hverified : ∀ a ∈ assessGoal rt knowledge task e, ∀ r ∈ a.proofRefs, r ∈ verified) :
    ((∃ merged, (assessGoal rt knowledge task e).foldlM
        (acceptAssessment WorkflowTaskService.assessErrors task.goal verified) task.assessments =
          .ok merged) ∧
      ∃ merged, (assessGoal rt knowledge task e).foldlM
        (acceptAssessment WorkflowTaskService.updateErrors task.goal verified) task.assessments =
          .ok merged) ↔
    ∀ c ∈ task.goal.acceptanceCriteria, ¬ e.analysed knowledge task.goal c := by
  have hproofs : ∀ c ∈ task.goal.acceptanceCriteria, ∀ r ∈ e.proofs rt knowledge task.goal c,
      r ∈ verified := fun c hc => hverified _ (List.mem_map_of_mem hc)
  unfold assessGoal
  rw [acceptAll_assessments _ (fun _ h => h) hproofs, acceptAll_assessments _ (fun _ h => h) hproofs]
  exact and_self_iff

/-! ## An analysis of both sides -/

namespace Sample

def analysisQuestion : String := "甲公司业绩有哪些亮点，哪些业务比较好，哪些业务比较差？"

def growthStatement : String := "2026 年第一季度，甲公司寿险业务营运利润 100.00 亿元，同比增长 6.4%。"

def declineStatement : String := "2026 年第一季度，甲公司寿险业务净利润 10.00 亿元，同比下降 3.0%。"

/-- The rendering of both statements. -/
def analysisMessage : String := "\n".intercalate
  ["资料范围说明：以下仅整理本次检索材料，未确认最新性或完整覆盖。",
    "比较口径说明：按各指标原文的同比或期初口径分别归纳，不作跨业务排名。",
    "亮点与表现较好的方面：寿险及健康险存在增长或成本改善指标。",
    "存在压力的方面：寿险及健康险存在承压指标。",
    "判断范围：指标承压不等于整个业务较差；未覆盖的业务不能据此评价。",
    "", "寿险及健康险：增长或成本改善与压力并存。", growthStatement, declineStatement]

/-- What the checks of a grounded analysis say about that rendering. -/
def analysisKnowledge : GoalKnowledge where
  missingPerformanceCoverage _ _ := []
  answerFactRepairStatements _ := [growthStatement, declineStatement]
  assessmentGaps _ := []
  verifiedBusinessBody message _ :=
    if message = analysisMessage then some (growthStatement ++ "\n" ++ declineStatement) else none
  validateAnswerFacts _ _ _ _ := ⟨.passed, .empty⟩
  requirementReport _ _ _ :=
    [.ofFields [("requirement_id", .str "ar_highlights"), ("status", .str "satisfied")],
      .ofFields [("requirement_id", .str "ar_strengths"), ("status", .str "satisfied")],
      .ofFields [("requirement_id", .str "ar_pressures"), ("status", .str "satisfied")]]

def analysisTask : WorkflowTaskSnapshot :=
  ⟨{ goal := ⟨{ taskId := "task", revision := 1, objective := analysisQuestion, sourceInputRef := "input"
                acceptanceCriteria := [answerContract analysisQuestion] }, by decide⟩
     owner := ⟨"alice", "agent", "tenant"⟩, version := 1, createdAt := 0, updatedAt := 0
     rawContentExpiresAt := days 90 }, by decide⟩

def analysisEvidence (outcome : ReceiptOutcome) : GoalEvidence where
  completion := none
  evidence := [{ source := "knowledge://performance", citation := some "knowledge://performance#bound"
                 content := growthStatement ++ "\n" ++ declineStatement, status := .accepted }]
  message := analysisMessage
  outcome := outcome

end Sample

theorem goal_assessment_accepted_refused :
    (∃ merged, (assessGoal Sample.runtime Sample.analysisKnowledge Sample.analysisTask
        (Sample.analysisEvidence .refusedNoEvidence)).foldlM
      (acceptAssessment WorkflowTaskService.assessErrors Sample.analysisTask.goal [])
      Sample.analysisTask.assessments = .ok merged) ∧
    ∃ merged, (assessGoal Sample.runtime Sample.analysisKnowledge Sample.analysisTask
        (Sample.analysisEvidence .refusedNoEvidence)).foldlM
      (acceptAssessment WorkflowTaskService.updateErrors Sample.analysisTask.goal [])
      Sample.analysisTask.assessments = .ok merged :=
  (goal_assessment_accepted Sample.runtime Sample.analysisKnowledge Sample.analysisTask
    (Sample.analysisEvidence .refusedNoEvidence) [] (by simp [assessGoal, GoalEvidence.assessment,
      GoalEvidence.proofs, Sample.analysisEvidence])).mpr fun _ _ h => (nomatch h.2.1)

/-- A command refuses a grounded analysis that is verified, whatever else its errors are. -/
theorem Sample.analysis_refused (errors : AssessmentErrors) :
    (assessGoal Sample.runtime Sample.analysisKnowledge Sample.analysisTask
      (Sample.analysisEvidence .answeredWithCitations)).foldlM
      (acceptAssessment errors Sample.analysisTask.goal
        [(Sample.analysisEvidence .answeredWithCitations).answerProof Sample.runtime])
      Sample.analysisTask.assessments = .error (.key "grounded_analysis") := by
  have hverified : (Sample.analysisEvidence .answeredWithCitations).analysisVerified
      Sample.analysisKnowledge Sample.analysisTask.goal (answerContract Sample.analysisQuestion) = true := by
    decide +kernel
  have hanalysed : (Sample.analysisEvidence .answeredWithCitations).analysed Sample.analysisKnowledge
      Sample.analysisTask.goal (answerContract Sample.analysisQuestion) := ⟨rfl, rfl, hverified⟩
  have hproofs : (Sample.analysisEvidence .answeredWithCitations).proofs Sample.runtime
      Sample.analysisKnowledge Sample.analysisTask.goal (answerContract Sample.analysisQuestion) =
        [(Sample.analysisEvidence .answeredWithCitations).answerProof Sample.runtime] :=
    proofs_of_analysed hanalysed
  have hstep := (acceptAssessment_assessment errors (List.mem_singleton.mpr rfl)
    (fun r hr => hproofs ▸ hr) Sample.analysisTask.assessments).1 hanalysed
  show (do let merged ← acceptAssessment _ _ _ _ _; _) = _
  rw [hstep]
  rfl

/-- A grounded analysis that is verified makes both commands raise a `KeyError`. -/
theorem analysis_rejected :
    (assessGoal Sample.runtime Sample.analysisKnowledge Sample.analysisTask
        (Sample.analysisEvidence .answeredWithCitations)).foldlM
        (acceptAssessment WorkflowTaskService.assessErrors Sample.analysisTask.goal
          [(Sample.analysisEvidence .answeredWithCitations).answerProof Sample.runtime])
        Sample.analysisTask.assessments = .error (.key "grounded_analysis") ∧
      (assessGoal Sample.runtime Sample.analysisKnowledge Sample.analysisTask
        (Sample.analysisEvidence .answeredWithCitations)).foldlM
        (acceptAssessment WorkflowTaskService.updateErrors Sample.analysisTask.goal
          [(Sample.analysisEvidence .answeredWithCitations).answerProof Sample.runtime])
        Sample.analysisTask.assessments = .error (.key "grounded_analysis") :=
  ⟨Sample.analysis_refused _, Sample.analysis_refused _⟩

end ProofAgent
