import ProofAgent.ControlledReact.BindingLaws
import ProofAgent.ControlledReact.ExactSums

/-! # The order of a tool task's steps

Progress is assessed only where the executed tool records are those of the plan's first
steps. The walk over the steps goes on while a step has a committed observation, and it goes
past a step only with its result verified from the results before it. -/
namespace ProofAgent

open Base

/-- A step is executed when an observation with its action id is committed. -/
def Executed (state : ControlledReActRunState) (step : ToolTaskStep) : Prop :=
  ∃ record ∈ state.observationRecords, record.actionId = step.actionId

/-- A step whose result was verified: it was called with the parameters that follow from the
results of the earlier steps, and what it calculated is exact. -/
structure StepVerified (state : ControlledReActRunState) (truths : List ObservationTruthArtifact)
    (results : TaskResults) (step : ToolTaskStep) (truth : ToolObservationTruth) : Prop where
  stored : ObservationTruthArtifact.tool truth ∈ truths ∧ truth.actionId = step.actionId ∧
    truth.toolName = step.toolName
  record : ∃ record ∈ state.observationRecords, record.actionId = step.actionId ∧
    record.observationId = truth.observationId ∧ record.truthRef = truth.truthRef
  executed : truth.redactionMetadata.get? "executed" = some (.bool true)
  action : ∃ action ∈ state.actionHistory, action.actionId = step.actionId ∧
    action.targetToolName = some step.toolName ∧
    parametersFor step results = .ok action.parameters
  /-- The reported result spells the sum of the operands. -/
  calculation : ∀ calculation, step.calculation = some calculation →
    ∃ parameters operands decimals result text, parametersFor step results = .ok parameters ∧
      parameters.get? calculation.operandParameter = some (.arr operands) ∧
      operands.mapM (fun v => decimalNumber (some v)) = .ok decimals ∧
      taskResult truth = .ok result ∧ result.get? calculation.resultField = some (.str text) ∧
      Denotes text (decimals.map ExactDecimal.value).sum

/-- The first steps of a list, each verified from the results before it. -/
inductive Served (state : ControlledReActRunState) (truths : List ObservationTruthArtifact) :
    TaskResults → List ToolTaskStep → TaskResults → Prop
  | none (results : TaskResults) : Served state truths results [] results
  | step {results final : TaskResults} {step : ToolTaskStep} {rest : List ToolTaskStep}
    {truth : ToolObservationTruth} : StepVerified state truths results step truth →
    Served state truths (results ++ [(step.stepId, truth)]) rest final →
    Served state truths results (step :: rest) final

/-- A record has the action id of a step. -/
def Executes (plan : ToolTaskPlan) (record : ObservationRecord) : Prop :=
  ∃ step ∈ plan.steps, record.actionId = step.actionId

/-- Progress in the plan's order. -/
structure InOrder (state : ControlledReActRunState) (plan : ToolTaskPlan)
    (truths : List ObservationTruthArtifact) (progress : ToolTaskProgress) : Prop where
  /-- The executed tool records are those of a prefix of the steps, none twice. -/
  records : state.toolRecords.map (·.actionId) =
    (plan.steps.take state.toolRecords.length).map (·.actionId)
  distinct : (state.toolRecords.map (·.actionId)).Nodup
  covered : state.toolRecords.length ≤ progress.results.length
  /-- No other results are there, if no record of another kind has a step's action id. -/
  toolRecordsOnly : (∀ record ∈ state.observationRecords, Executes plan record →
    record.actionType = .proposeToolCall) → state.toolRecords.length = progress.results.length
  /-- The results are those of a prefix, each derived from the earlier ones. -/
  served : Served state truths [] (plan.steps.take progress.results.length) progress.results
  ids : progress.results.map Prod.fst =
    (plan.steps.take progress.results.length).map (·.stepId)
  /-- What is pending is the first step that is not executed. -/
  executed : ∀ step ∈ plan.steps.take progress.results.length, Executed state step
  pending : progress.pending = plan.steps[progress.results.length]?
  unexecuted : ∀ step, progress.pending = some step → ¬ Executed state step

/-! ## Steps -/

theorem actionId_injective {a b : ToolTaskStep} (h : a.actionId = b.actionId) : a.stepId = b.stepId := by
  have hlist := congrArg String.toList h
  unfold ToolTaskStep.actionId at hlist
  rw [String.toList_append, String.toList_append] at hlist
  exact String.toList_inj.mp (List.append_cancel_left hlist)

theorem orderedSteps_nodup : ∀ {seen : List String} {steps : List ToolTaskStep},
    orderedSteps seen steps = true →
    (steps.map (·.stepId)).Nodup ∧ ∀ step ∈ steps, step.stepId ∉ seen
  | seen, [], _ => ⟨List.nodup_nil, fun _ h => (nomatch h)⟩
  | seen, step :: rest, h => by
    unfold orderedSteps at h
    rw [Bool.and_eq_true, Bool.and_eq_true] at h
    obtain ⟨⟨hnew, _⟩, hrest⟩ := h
    obtain ⟨hnodup, hseen⟩ := orderedSteps_nodup hrest
    have hstep : step.stepId ∉ seen := by simpa using hnew
    refine ⟨?_, fun other hother => ?_⟩
    · rw [List.map_cons, List.nodup_cons]
      refine ⟨fun hmem => ?_, hnodup⟩
      obtain ⟨other, hother, hid⟩ := List.mem_map.mp hmem
      exact hseen other hother (hid ▸ List.mem_cons_self ..)
    · rcases List.mem_cons.mp hother with rfl | hother
      · exact hstep
      · exact fun hmem => hseen other hother (List.mem_cons_of_mem _ hmem)

/-- No two steps of a plan have one action id. -/
theorem ToolTaskPlan.actionId_nodup (plan : ToolTaskPlan) :
    (plan.steps.map (·.actionId)).Nodup := by
  have hnodup := (orderedSteps_nodup plan.dependencies).1
  refine List.Nodup.map_on (fun a ha b hb hab => ?_) (List.Nodup.of_map _ hnodup)
  exact List.inj_on_of_nodup_map hnodup ha hb (actionId_injective hab)

variable {rt : Runtime} {sha : String → String} {state : ControlledReActRunState} {plan : ToolTaskPlan}
  {truths : List ObservationTruthArtifact}

theorem taskDigest_eq (hsha : DigestsText rt sha) (j : Json) :
    taskDigest rt j = sha (j.canonicalText false) := hsha.canonical j

/-- Mappings with one digest are the same. -/
theorem taskDigest_inj (hsha : DigestsText rt sha) {a b : FrozenDict}
    (hcollision : DigestsApart sha a.json b.json) (h : taskDigest rt a.json = taskDigest rt b.json) :
    a = b := by
  rw [taskDigest_eq hsha, taskDigest_eq hsha] at h
  have hcanonical := Json.canonicalText_eq_iff.mp (hcollision h)
  unfold FrozenDict.json at hcanonical
  rw [a.canonical, b.canonical] at hcanonical
  exact FrozenDict.ext_fields (Json.obj.inj hcanonical)

/-- The digests of parameters that are compared do not collide. -/
def ParametersApart (sha : String → String) (state : ControlledReActRunState) (plan : ToolTaskPlan) :
    Prop :=
  ∀ action ∈ state.actionHistory, ∀ step ∈ plan.steps, action.actionId = step.actionId →
    ∀ results parameters, parametersFor step results = .ok parameters →
      DigestsApart sha action.parameters.json parameters.json

theorem servedStep_ok (hsha : DigestsText rt sha) {step : ToolTaskStep} {record : ObservationRecord}
    {truth : ToolObservationTruth} {action : ReActActionProposal} {results : TaskResults}
    (happart : ∀ parameters, parametersFor step results = .ok parameters →
      DigestsApart sha action.parameters.json parameters.json)
    (hrecord : record ∈ state.observationRecords) (hrecordId : record.actionId = step.actionId)
    (htruth : ObservationTruthArtifact.tool truth ∈ truths) (htruthId : truth.actionId = step.actionId)
    (haction : action ∈ state.actionHistory) (hactionId : action.actionId = step.actionId)
    (h : servedStep rt state plan step record truth action results = .ok ()) :
    StepVerified state truths results step truth := by
  unfold servedStep at h
  obtain ⟨binding, hbound, h₁⟩ := bind_ok h
  obtain ⟨parameters, hparameters, h₂⟩ := bind_ok h₁
  obtain ⟨_, hchecked, h₃⟩ := bind_ok h₂
  obtain ⟨result, hresult, hverified⟩ := bind_ok h₃
  obtain ⟨_, hreference, hobservation, htool, htarget, hdigest, hexecuted, _⟩ := require_ok hchecked
  have hsame := taskDigest_inj hsha (happart parameters hparameters) hdigest
  have hbinding := (requireBoundObservationTruth_ok hbound).2.1
  refine ⟨⟨htruth, htruthId, htool⟩, ⟨record, hrecord, hrecordId, hobservation, ?_⟩, hexecuted,
    ⟨action, haction, hactionId, htarget, hsame ▸ hparameters⟩, fun calculation hcalculation => ?_⟩
  · rw [← hreference, ← hbinding]
    rfl
  · obtain ⟨total, text, htotal, htext, _, hdenotes⟩ := verifyCalculation_ok hcalculation hverified
    obtain ⟨operands, decimals, hoperands, hread, hvalue⟩ := expectedSum_ok htotal
    exact ⟨parameters, operands, decimals, result, text, hparameters, hoperands, hread, hresult,
      htext, hvalue ▸ hdenotes⟩

/-! ## The walk -/

theorem find?_reverse_some {α : Type} {p : α → Bool} {items : List α} {a : α}
    (h : items.reverse.find? p = some a) : a ∈ items ∧ p a = true :=
  ⟨List.mem_reverse.mp (List.mem_of_find?_eq_some h), List.find?_some h⟩

/-- **The walk over the steps** serves a prefix of them and stops at the first step without a
record. -/
theorem assessSteps_ok (hsha : DigestsText rt sha) {progress : ToolTaskProgress} :
    ∀ {steps : List ToolTaskStep} {results : TaskResults},
    (∀ action ∈ state.actionHistory, ∀ step ∈ steps, action.actionId = step.actionId →
      ∀ results parameters, parametersFor step results = .ok parameters →
        DigestsApart sha action.parameters.json parameters.json) →
    assessSteps rt state plan truths results steps = .ok progress →
    ∃ served rest, steps = served ++ rest ∧ Served state truths results served progress.results ∧
      progress.results.map Prod.fst = results.map Prod.fst ++ served.map (·.stepId) ∧
      progress.pending = rest.head? ∧ (∀ step ∈ served, Executed state step) ∧
      ∀ step, rest.head? = some step → ¬ Executed state step
  | [], results, _, h => by
    cases h
    exact ⟨[], [], rfl, .none _, by simp, rfl, fun _ h => (nomatch h), fun _ h => (nomatch h)⟩
  | step :: rest, results, happart, h => by
    unfold assessSteps at h
    cases hrecord : state.observationRecords.reverse.find? (fun r => r.actionId = step.actionId) with
    | none =>
      rw [hrecord] at h
      cases h
      refine ⟨[], step :: rest, rfl, .none _, by simp, rfl, fun _ h => (nomatch h), ?_⟩
      rintro other hother ⟨record, hmem, hid⟩
      cases hother
      have hno := List.find?_eq_none.mp hrecord record (List.mem_reverse.mpr hmem)
      exact hno (by simpa using hid)
    | some record =>
      rw [hrecord] at h
      obtain ⟨hrecordMem, hrecordId⟩ := find?_reverse_some hrecord
      dsimp only at h
      split at h
      · rename_i truth action htruth haction
        obtain ⟨htruthMem, htruthId⟩ := find?_reverse_some htruth
        obtain ⟨hactionMem, hactionId⟩ := find?_reverse_some haction
        have hid : record.actionId = step.actionId := by simpa using hrecordId
        obtain ⟨_, hstep, h⟩ := bind_ok h
        have hverified := servedStep_ok hsha
          (happart action hactionMem step (List.mem_cons_self ..) (of_decide_eq_true hactionId) results)
          hrecordMem hid htruthMem (of_decide_eq_true htruthId) hactionMem
          (of_decide_eq_true hactionId) hstep
        obtain ⟨served, rest', hsteps, hserved, hids, hpending, hexecuted, hfirst⟩ :=
          assessSteps_ok hsha
            (fun action haction other hother => happart action haction other
              (List.mem_cons_of_mem _ hother)) h
        refine ⟨step :: served, rest', by rw [hsteps]; rfl, .step hverified hserved, ?_, hpending, ?_,
          hfirst⟩
        · rw [hids]
          simp
        · intro other hother
          rcases List.mem_cons.mp hother with rfl | hother
          · exact ⟨record, hrecordMem, hid⟩
          · exact hexecuted other hother
      · cases h

theorem toolRecordsFollow_ok {records : List ObservationRecord}
    (h : toolRecordsFollow plan records = true) :
    records.map (·.actionId) = (plan.steps.take records.length).map (·.actionId) ∧
      records.length ≤ plan.steps.length := by
  unfold toolRecordsFollow at h
  simp only [Bool.and_eq_true, decide_eq_true_eq] at h
  exact h.1

theorem assessToolTasks_ok (hsha : DigestsText rt sha) (happart : ParametersApart sha state plan)
    (hplan : state.toolTaskPlan = some plan) {progress : ToolTaskProgress}
    (h : assessToolTasks rt state truths = .ok progress) : InOrder state plan truths progress := by
  unfold assessToolTasks at h
  rw [hplan] at h
  obtain ⟨_, hfollow, h⟩ := bind_ok h
  obtain ⟨hrecords, hlength⟩ := toolRecordsFollow_ok (require_ok hfollow)
  obtain ⟨served, rest, hsteps, hserved, hids, hpending, hexecuted, hfirst⟩ :=
    assessSteps_ok hsha happart h
  rw [List.map_nil, List.nil_append] at hids
  have hcount : progress.results.length = served.length := by
    have hlengths := congrArg List.length hids
    rwa [List.length_map, List.length_map] at hlengths
  have hprefix : plan.steps.take progress.results.length = served := by
    rw [hsteps, hcount, List.take_left]
  have hnext : plan.steps[progress.results.length]? = rest.head? := by
    rw [hsteps, hcount, List.getElem?_append_right (le_refl _), Nat.sub_self, List.head?_eq_getElem?]
  have hrecorded : ∀ i < state.toolRecords.length, ∀ step, plan.steps[i]? = some step →
      Executed state step := by
    intro i hi step hstep
    have hmem : step.actionId ∈ state.toolRecords.map (·.actionId) := by
      rw [hrecords]
      refine List.mem_map_of_mem (List.mem_of_getElem? (i := i) ?_)
      rw [List.getElem?_take_of_lt hi, hstep]
    obtain ⟨record, hrecord, hid⟩ := List.mem_map.mp hmem
    exact ⟨record, (List.mem_filter.mp hrecord).1, hid⟩
  have hcovered : state.toolRecords.length ≤ progress.results.length := by
    by_contra hlt
    rw [not_le] at hlt
    have hstep := List.getElem?_eq_getElem (lt_of_lt_of_le hlt hlength)
    exact hfirst _ (hnext ▸ hstep) (hrecorded _ hlt _ hstep)
  have hnodup : (state.toolRecords.map (·.actionId)).Nodup := by
    rw [hrecords]
    exact plan.actionId_nodup.sublist ((List.take_sublist _ _).map _)
  refine ⟨hrecords, hnodup, hcovered, fun htools => ?_, hprefix ▸ hserved, hprefix ▸ hids,
    hprefix ▸ hexecuted, hpending.trans hnext.symm, fun step hstep => hfirst step (hpending ▸ hstep)⟩
  by_contra hne
  have hlt : state.toolRecords.length < served.length := by omega
  -- The step after the tool records has a record, which is one of them.
  obtain ⟨record, hrecord, hid⟩ := hexecuted _ (List.getElem_mem hlt)
  have hmem : served[state.toolRecords.length] ∈ plan.steps.drop state.toolRecords.length := by
    rw [hsteps, List.drop_append_of_le_length hlt.le]
    exact List.mem_append_left _ (List.mem_drop_iff_getElem.mpr ⟨0, by omega, by simp⟩)
  have htool := htools record hrecord ⟨_, List.mem_of_mem_drop hmem, hid⟩
  have hin : record.actionId ∈ state.toolRecords.map (·.actionId) :=
    List.mem_map_of_mem (List.mem_filter.mpr ⟨hrecord, by simpa using htool⟩)
  rw [hrecords, hid] at hin
  have hparts := plan.actionId_nodup
  rw [← List.take_append_drop state.toolRecords.length plan.steps, List.map_append,
    List.nodup_append] at hparts
  exact hparts.2.2 _ hin _ (List.mem_map_of_mem hmem) rfl

namespace Sample

def amountsStep : ToolTaskStep where
  stepId := "sum"
  toolName := "ledger"
  parameters := amounts ["1.25", "-0.5"]
  calculation := some ⟨"amounts", "total"⟩

def mailStep : ToolTaskStep where
  stepId := "mail"
  toolName := "mailer"
  bindings := [("total", ⟨"sum", ["total"]⟩)]

def amountsPlan : ToolTaskPlan where
  steps := [amountsStep, mailStep]
  size := by decide
  dependencies := by decide

/-- The digests of the parameters, of the plan and of the truth, by the lengths of their
texts. -/
def taskSha (length : Nat) : String :=
  if length = 27 then "c98a53f377460843b0746953305c260b40dc73644ac837b7942ac2d4af6363cd"
  else if length = 398 then "3113c1d090f16deb298e617db5b8068070ee12d4dc51ef065f09c4f65aee6641"
  else "c89061aff50d8e8e40314e69f408d876ddfb4304cfaee51c77c8c3d8db5b3be8"

def taskRuntime : Runtime :=
  { runtime with sha256 := fun j => taskSha (Json.dumpChars false j.sorted).length }

theorem taskRuntime_digests : DigestsText taskRuntime fun text => taskSha text.length := by
  intro j
  simp only [taskRuntime, Json.canonicalText, String.length_ofList]

def sumReference : String := observationReference "run_1" "obs_1"
  "c89061aff50d8e8e40314e69f408d876ddfb4304cfaee51c77c8c3d8db5b3be8"

def sumTruth : ObservationTruthArtifact :=
  .tool { truthRef := sumReference, observationId := "obs_1", actionId := "act_task_sum"
          toolName := "ledger", authorizedResult := reportedTotal "0.75"
          redactionMetadata := .ofFields [("executed", .bool true),
            ("task_input_digest",
              .str "c98a53f377460843b0746953305c260b40dc73644ac837b7942ac2d4af6363cd"),
            ("task_plan_digest",
              .str "3113c1d090f16deb298e617db5b8068070ee12d4dc51ef065f09c4f65aee6641")] }

def taskState : ControlledReActRunState where
  runId := "run_1"
  templateName := "tool_task"
  templateDescriptorVersion := "1"
  question := "How much is it?"
  toolTaskPlan := some amountsPlan
  actionHistory := [pendingToolAction amountsStep amountsStep.parameters]
  observationRecords := [{ observationId := "obs_1", actionId := "act_task_sum"
                           actionType := .proposeToolCall, round := 1, truthRef := sumReference }]

theorem task_assessed : (assessToolTasks taskRuntime taskState [sumTruth]).toOption.map
    (fun progress => (progress.results.map Prod.fst, progress.pending)) =
      some (["sum"], some mailStep) := by
  decide +kernel

theorem task_apart : ParametersApart (fun text => taskSha text.length) taskState amountsPlan := by
  intro action haction step hstep hid results parameters hparameters
  obtain rfl := List.mem_singleton.mp haction
  have hsum : step = amountsStep := by
    rcases List.mem_cons.mp hstep with rfl | hstep
    · rfl
    · obtain rfl := List.mem_singleton.mp hstep
      exact absurd hid (by decide)
  subst hsum
  have hsame : parametersFor amountsStep results = .ok amountsStep.parameters := by
    have hplain : parametersFor amountsStep [] = .ok amountsStep.parameters := by decide +kernel
    exact hplain
  rw [hsame] at hparameters
  cases hparameters
  exact fun _ => rfl

end Sample

end ProofAgent
