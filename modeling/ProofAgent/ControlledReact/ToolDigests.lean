import ProofAgent.ControlledReact.BindingLaws
import ProofAgent.ControlledReact.Orchestrator

/-! # Digests of approved parameters

The binder digests the parameters that a user is asked to approve, and the orchestrator
digests the pending action's again when the approval comes back with the reloaded snapshot.
Both write the parameters as one canonical text, and the file of a snapshot gives the
parameters back as they were. -/
namespace ProofAgent

open Base ControlledReActOrchestrator
open Base.Json (ofOption readField asStr asList asOption reshape)

/-- `"sha256:" + hashlib.sha256(json.dumps(parameters, ..).encode("utf-8")).hexdigest()`, for
parameters. -/
def DigestsParameters (rt : Runtime) (sha : String → String) : Prop :=
  ∀ m : FrozenDict, rt.sha256 m.json = sha (m.json.canonicalText true)

/-! ## Reading a saved proposal -/

def ReActActionType.ofJson : Json → Option ReActActionType :=
  readEnum [.askClarification, .planRetrieval, .runRetrievalStep, .proposeToolCall,
    .generateFinalAnswer, .escalate, .stop, .refuse] ReActActionType.value

@[simp] theorem ReActActionType.ofJson_value (t : ReActActionType) :
    ReActActionType.ofJson (.str t.value) = some t := by
  cases t <;> decide

def ReasoningSummary.ofJson (j : Json) : Option ReasoningSummary := do
  let goal ← readField asStr "goal" j
  let observations ← readField (asList asStr) "observations" j
  let candidateActions ← readField (asList ReActActionType.ofJson) "candidate_actions" j
  let selectedAction ← readField ReActActionType.ofJson "selected_action" j
  let rationaleSummary ← readField asStr "rationale_summary" j
  let riskFlags ← readField (asList asStr) "risk_flags" j
  let requiredEvidence ← readField (asList asStr) "required_evidence" j
  return { goal, observations, candidateActions, selectedAction, rationaleSummary, riskFlags,
           requiredEvidence }

theorem ReasoningSummary.ofJson_reshape (r : ReasoningSummary) :
    ReasoningSummary.ofJson (reshape .float (.obj r.jsonFields)) = some r := by
  have hkeys : (r.jsonFields.map Prod.fst).Nodup := by simp [jsonFields]
  have hactions : asList ReActActionType.ofJson (reshape .float (.arr (r.candidateActions.map
      fun a => .str a.value))) = some r.candidateActions :=
    asList_all .float ReActActionType.ofJson_value r.candidateActions
  simp only [ofJson, Json.readField_reshape .float hkeys]
  simp [jsonFields, List.lookup_cons, hactions, -Json.reshape_arr]

def ReActActionProposal.ofJson (j : Json) : Option ReActActionProposal := do
  let actionId ← readField asStr "action_id" j
  let actionType ← readField ReActActionType.ofJson "action_type" j
  let reasoningSummary ← readField ReasoningSummary.ofJson "reasoning_summary" j
  let parameters ← readField FrozenDict.ofJson? "parameters" j
  let targetToolName ← readField (asOption asStr) "target_tool_name" j
  let riskLevel ← readField asStr "risk_level" j
  return { actionId, actionType, reasoningSummary, parameters, targetToolName, riskLevel }

theorem ReActActionProposal.ofJson_reshape (a : ReActActionProposal) :
    ReActActionProposal.ofJson (reshape .float (.obj a.jsonFields)) = some a := by
  have hkeys : (a.jsonFields.map Prod.fst).Nodup := by simp [jsonFields]
  have hsummary := a.reasoningSummary.ofJson_reshape
  simp only [ofJson, Json.readField_reshape .float hkeys]
  simp [jsonFields, List.lookup_cons, reshape_json, hsummary]

def ApprovedToolProposalSnapshot.ofJson (j : Json) : Option ApprovedToolProposalSnapshot := do
  let snapshotId ← readField asStr "snapshot_id" j
  let actionId ← readField asStr "action_id" j
  let toolContractId ← readField asStr "tool_contract_id" j
  let parameters ← readField FrozenDict.ofJson? "parameters" j
  let parameterDigest ← readField asStr "parameter_digest" j
  let scopeDigest ← readField (asOption asStr) "scope_digest" j
  let policyDecision ← readField asStr "policy_decision" j
  let riskLevel ← readField asStr "risk_level" j
  let approvalReason ← readField asStr "approval_reason" j
  return { snapshotId, actionId, toolContractId, parameters, parameterDigest, scopeDigest,
           policyDecision, riskLevel, approvalReason }

theorem ApprovedToolProposalSnapshot.ofJson_reshape (a : ApprovedToolProposalSnapshot) :
    ApprovedToolProposalSnapshot.ofJson (reshape .float (.obj a.jsonFields)) = some a := by
  have hkeys : (a.jsonFields.map Prod.fst).Nodup := by simp [jsonFields]
  simp only [ofJson, Json.readField_reshape .float hkeys]
  simp [jsonFields, List.lookup_cons, reshape_json]

theorem ApprovedToolProposalSnapshot.asOption_reshape (a : Option ApprovedToolProposalSnapshot) :
    asOption ApprovedToolProposalSnapshot.ofJson
      (reshape .float (ofOption (fun a => .obj a.jsonFields) a)) = some a := by
  cases a with
  | none => rfl
  | some a =>
    have hread := a.ofJson_reshape
    rw [Json.reshape_obj] at hread
    unfold ofOption
    rw [Json.reshape_obj, asOption, hread]
    rfl
    all_goals simp

/-! ## Saving and reloading -/

/-- What is written to a snapshot's file. -/
def snapshotFile (snapshot : ControlledReActRunStateSnapshot) : String :=
  (Json.obj snapshot.jsonFields).canonicalText false

/-- `json.loads` of a file: the value that the file's text was made of. Looking up a key does
not depend on the order of the keys. -/
def LoadedFrom (file : String) (payload : Json) : Prop :=
  payload.canonicalText false = file ∧ payload.canonical = payload

/-- What `model_validate` makes of the fields that are compared on a resume. -/
structure ReloadedAs (payload : Json) (s : ControlledReActRunState) : Prop where
  actions : readField (fun state => readField (asList ReActActionProposal.ofJson)
    "action_history" state) "state" payload = some s.actionHistory
  approved : readField (fun state => readField (asOption ApprovedToolProposalSnapshot.ofJson)
    "approved_tool_proposal_snapshot" state) "state" payload = some s.approvedToolProposalSnapshot

theorem ControlledReActRunState.jsonFields_nodup (s : ControlledReActRunState) :
    (s.jsonFields.map Prod.fst).Nodup := by
  unfold jsonFields unlessNone unlessDefault
  cases s.executionConfigurationDigest <;> cases s.businessFlowSkillPackId <;>
    cases s.toolTaskPlan <;> by_cases hc : s.maxToolCalls = 1 <;>
    by_cases hr : s.taskPlanRoundLimit = 4 <;> simp [hc, hr]

/-- The fields of a saved state are read back. -/
theorem saved_reloads (snapshot : ControlledReActRunStateSnapshot) :
    ReloadedAs (Json.obj snapshot.jsonFields).canonical snapshot.state := by
  have hkeys : (snapshot.jsonFields.map Prod.fst).Nodup := by
    simp [ControlledReActRunStateSnapshot.jsonFields]
  have hstate : snapshot.jsonFields.lookup "state" = some (.obj snapshot.state.jsonFields) := by
    simp [ControlledReActRunStateSnapshot.jsonFields, List.lookup_cons]
  have hnodup := snapshot.state.jsonFields_nodup
  have hactions : snapshot.state.jsonFields.lookup "action_history" =
      some (.arr (snapshot.state.actionHistory.map fun a => .obj a.jsonFields)) :=
    (Json.lookup_eq_some_iff hnodup).mpr (by simp [ControlledReActRunState.jsonFields])
  have happroved : snapshot.state.jsonFields.lookup "approved_tool_proposal_snapshot" =
      some (ofOption (fun a => .obj a.jsonFields) snapshot.state.approvedToolProposalSnapshot) :=
    (Json.lookup_eq_some_iff hnodup).mpr (by simp [ControlledReActRunState.jsonFields])
  unfold Json.canonical
  constructor
  · rw [Json.readField_reshape .float hkeys, hstate, Option.map_some, Option.bind_some,
      Json.readField_reshape .float hnodup, hactions, Option.map_some, Option.bind_some,
      asList_all .float ReActActionProposal.ofJson_reshape]
  · rw [Json.readField_reshape .float hkeys, hstate, Option.map_some, Option.bind_some,
      Json.readField_reshape .float hnodup, happroved, Option.map_some, Option.bind_some,
      ApprovedToolProposalSnapshot.asOption_reshape]

theorem LoadedFrom.eq {snapshot : ControlledReActRunStateSnapshot} {payload : Json}
    (h : LoadedFrom (snapshotFile snapshot) payload) :
    payload = (Json.obj snapshot.jsonFields).canonical := by
  rw [← h.2]
  exact Json.canonicalText_eq_iff.mp h.1

/-- **A reloaded snapshot** has the actions and the approved proposal that were saved. -/
theorem reloaded_eq {snapshot : ControlledReActRunStateSnapshot} {payload : Json}
    {s : ControlledReActRunState} (hload : LoadedFrom (snapshotFile snapshot) payload)
    (hread : ReloadedAs payload s) :
    s.actionHistory = snapshot.state.actionHistory ∧
      s.approvedToolProposalSnapshot = snapshot.state.approvedToolProposalSnapshot := by
  rw [hload.eq] at hread
  have hsaved := saved_reloads snapshot
  exact ⟨Option.some.inj (hread.actions.symm.trans hsaved.actions),
    Option.some.inj (hread.approved.symm.trans hsaved.approved)⟩

/-! ## The check on a resume -/

section
variable {rt : Runtime} {sha : String → String}

theorem parameterDigest_eq (hsha : DigestsParameters rt sha) (parameters : FrozenDict) :
    parameterDigest rt parameters = "sha256:" ++ sha (parameters.json.canonicalText true) := by
  have hcanonical : parameters.json.canonical = parameters.json := parameters.canonical
  unfold parameterDigest
  rw [hcanonical, hsha]

/-- Parameters with one digest are the same. -/
theorem parameterDigest_inj (hsha : DigestsParameters rt sha) {a b : FrozenDict}
    (hcollision : sha (a.json.canonicalText true) = sha (b.json.canonicalText true) →
      a.json.canonicalText true = b.json.canonicalText true)
    (h : parameterDigest rt a = parameterDigest rt b) : a = b := by
  rw [parameterDigest_eq hsha, parameterDigest_eq hsha] at h
  have hlist := congrArg String.toList h
  rw [String.toList_append, String.toList_append] at hlist
  have hcanonical := Json.canonicalText_eq_iff.mp
    (hcollision (String.toList_inj.mp (List.append_cancel_left hlist)))
  unfold FrozenDict.json at hcanonical
  rw [a.canonical, b.canonical] at hcanonical
  exact FrozenDict.ext_fields (Json.obj.inj hcanonical)

/-- **The two digests agree.** What the binder digests is what the orchestrator digests again,
and after a pause, with the snapshot written to a file and read from it, the check refuses
just an action with another id, another tool or other parameters. -/
theorem toolDigests_agree (hsha : DigestsParameters rt sha) {runId : String}
    {proposal : ReActActionProposal} {scope : EffectiveToolProposalScope} {bound : BoundToolProposal}
    (hbind : ToolProposalParameterBinder.bind rt runId proposal scope = .ok bound) :
    bound.parameterDigest = parameterDigest rt bound.parameters ∧
      ∀ (request : ControlledReActStartRequest) (state : ControlledReActRunState)
        (action : ReActActionProposal), state.boundToolProposal = some bound →
        action = { proposal with parameters := bound.parameters } →
        ∀ (payload : Json) (resumed : ControlledReActRunState),
          LoadedFrom (snapshotFile (pauseSnapshot rt request state action)) payload →
          ReloadedAs payload resumed →
          resumed.actionHistory.getLast? = some action ∧
          parameterDigest rt action.parameters = bound.parameterDigest ∧
          approvedToolIntegrityMismatch rt resumed action = false ∧
          ∀ changed : ReActActionProposal,
            (sha (action.parameters.json.canonicalText true) =
                sha (changed.parameters.json.canonicalText true) →
              action.parameters.json.canonicalText true = changed.parameters.json.canonicalText true) →
            (approvedToolIntegrityMismatch rt resumed changed = true ↔
              changed.actionId ≠ action.actionId ∨ changed.toolName "" ≠ action.toolName "" ∨
                changed.parameters ≠ action.parameters) := by
  have hby := ToolProposalParameterBinder.bind_ok hbind
  have hdigest : bound.parameterDigest = parameterDigest rt bound.parameters := hby.digest
  refine ⟨hdigest, fun request state action hbound haction payload resumed hload hread => ?_⟩
  obtain ⟨hactions, happroved⟩ := reloaded_eq hload hread
  have hlast : resumed.actionHistory.getLast? = some action := by
    rw [hactions]
    exact List.getLast?_concat
  have htool : action.toolName "" = bound.toolContractId := by
    have htarget : action.targetToolName = some bound.toolContractId := by
      rw [haction]
      exact hby.inScope.1
    unfold ReActActionProposal.toolName orText
    rw [htarget]
    by_cases hempty : bound.toolContractId = ""
    · rw [hempty]
      rfl
    · rw [Option.filter_some, if_pos (by simpa using hempty)]
      rfl
  have hparameters : action.parameters = bound.parameters := by rw [haction]
  have happroved : resumed.approvedToolProposalSnapshot = approvedToolSnapshot state action := happroved
  have hmismatch : ∀ changed : ReActActionProposal,
      approvedToolIntegrityMismatch rt resumed changed = true ↔
        changed.actionId ≠ action.actionId ∨ changed.toolName "" ≠ action.toolName "" ∨
          parameterDigest rt changed.parameters ≠ parameterDigest rt action.parameters := by
    intro changed
    unfold approvedToolIntegrityMismatch
    rw [happroved]
    unfold approvedToolSnapshot
    rw [hbound, Option.map_some, Option.any_some]
    simp only [Bool.or_eq_true, decide_eq_true_eq, or_assoc]
    rw [htool, hparameters, hdigest, ne_comm (a := action.actionId),
      ne_comm (a := bound.toolContractId), ne_comm (a := parameterDigest rt bound.parameters)]
  refine ⟨hlast, by rw [hparameters, hdigest], ?_, fun changed hcollision => ?_⟩
  · rw [Bool.eq_false_iff]
    intro h
    rcases (hmismatch action).mp h with h | h | h <;> exact h rfl
  · rw [hmismatch]
    refine or_congr_right (or_congr_right (not_congr ⟨fun h => ?_, fun h => by rw [h]⟩))
    exact (parameterDigest_inj hsha hcollision h.symm).symm

end

namespace Sample

/-- The digests of the parameters of a transfer of 5 and of 6. -/
def transferSha (text : String) : String :=
  if text = "\x7b\"amount\":5\x7d" then
    "7e84cbf0f7a7c92c037058665d66152f8eb8580ab2534e52c877bccceb9cc7bf"
  else "e4d23a63558e6b649a1d0e17f8d4186c7070a8652ff5e22ebe944e77b9d14a11"

def transferRuntime : Runtime :=
  { runtime with sha256 := fun j => transferSha (j.canonicalText true) }

def transferScope : EffectiveToolProposalScope where
  runId := "run_1"
  planRound := 0
  toolInterfaces := [{ toolContractId := "transfer", riskLevel := "high", readOnly := false
                       requiresApproval := true
                       parameters := [{ name := "amount", required := true, valueType := "integer" }] }]
  schemaDigest := "sha256:schema"

def transferProposal (amount : Int) : ReActActionProposal :=
  pendingToolAction { stepId := "1", toolName := "transfer" } (.ofFields [("amount", .int amount)])

def transferBound : BoundToolProposal where
  actionId := "act_task_1"
  toolContractId := "transfer"
  parameters := .ofFields [("amount", .int 5)]
  parameterSources := .ofFields [("amount", .str "user_supplied")]
  parameterDigest := "sha256:7e84cbf0f7a7c92c037058665d66152f8eb8580ab2534e52c877bccceb9cc7bf"
  scopeDigest := some "sha256:schema"

def transferState : ControlledReActRunState where
  runId := "run_1"
  templateName := "transfer"
  templateDescriptorVersion := "1"
  question := "Send five."
  boundToolProposal := some transferBound

def transferRequest : ControlledReActStartRequest := transferState.startRequest 3

def transferPause : ControlledReActRunStateSnapshot :=
  pauseSnapshot transferRuntime transferRequest transferState (transferProposal 5)

theorem transfer_bound : ToolProposalParameterBinder.bind transferRuntime "run_1" (transferProposal 5)
    transferScope = .ok transferBound := by
  rfl

theorem transferRuntime_digests : DigestsParameters transferRuntime transferSha := by
  intro m
  simp only [transferRuntime]

end Sample

/-- After a pause the transfer of 5 is let through, and one of 6 is not. -/
theorem toolDigests_agree_transfer :
    approvedToolIntegrityMismatch Sample.transferRuntime Sample.transferPause.state
        (Sample.transferProposal 5) = false ∧
      approvedToolIntegrityMismatch Sample.transferRuntime Sample.transferPause.state
        (Sample.transferProposal 6) = true := by
  have hloaded : LoadedFrom (snapshotFile Sample.transferPause)
      (Json.obj Sample.transferPause.jsonFields).canonical :=
    ⟨Json.canonicalText_eq_iff.mpr (Json.canonical_canonical _), Json.canonical_canonical _⟩
  obtain ⟨_, _, hsame, hchanged⟩ :=
    (toolDigests_agree Sample.transferRuntime_digests Sample.transfer_bound).2 Sample.transferRequest
      Sample.transferState (Sample.transferProposal 5) rfl rfl _ _ hloaded (saved_reloads _)
  refine ⟨hsame, (hchanged (Sample.transferProposal 6) fun hsha => ?_).mpr (.inr (.inr ?_))⟩
  · exact absurd hsha (by decide +kernel)
  · exact fun h => absurd (congrArg FrozenDict.json h) (by decide +kernel)
end ProofAgent
