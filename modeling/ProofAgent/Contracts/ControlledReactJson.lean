import ProofAgent.Contracts.ControlledReact
import ProofAgent.Contracts.WorkflowTaskJson

/-! # Controlled ReAct contracts as JSON

`jsonFields` is `model_dump`, with enumerations as their texts. Fields that the
contracts exclude at their default are absent, and the workflow task of a
conversation is never written. -/
namespace ProofAgent

open Base
open Base.Json (ofOption readField asStr asBool asNat asInt asList asOption reshape)

/-- A field that is left out at its default. -/
def unlessDefault {α : Type} [DecidableEq α] (key : String) (write : α → Json) (default value : α) :
    List (String × Json) :=
  if value = default then [] else [(key, write value)]

/-- A field that is left out when it is `None`. -/
def unlessNone {α : Type} (key : String) (write : α → Json) : Option α → List (String × Json)
  | none => []
  | some a => [(key, write a)]

def ReasoningSummary.jsonFields (r : ReasoningSummary) : List (String × Json) :=
  [("goal", .str r.goal), ("observations", textsJson r.observations),
    ("candidate_actions", .arr (r.candidateActions.map fun a => .str a.value)),
    ("selected_action", .str r.selectedAction.value),
    ("rationale_summary", .str r.rationaleSummary), ("risk_flags", textsJson r.riskFlags),
    ("required_evidence", textsJson r.requiredEvidence)]

def ReActActionProposal.jsonFields (a : ReActActionProposal) : List (String × Json) :=
  [("action_id", .str a.actionId), ("action_type", .str a.actionType.value),
    ("reasoning_summary", .obj a.reasoningSummary.jsonFields), ("parameters", a.parameters.json),
    ("target_tool_name", ofOption .str a.targetToolName), ("risk_level", .str a.riskLevel)]

/-! ## Observations -/

def EvidenceChunk.jsonFields (c : EvidenceChunk) : List (String × Json) :=
  [("source", .str c.source), ("content", .str c.content), ("status", .str c.status.value),
    ("citation", ofOption .str c.citation), ("details", c.details.json)]

def RetrievalObservationTruth.jsonFields (t : RetrievalObservationTruth) : List (String × Json) :=
  [("truth_ref", .str t.truthRef), ("observation_id", .str t.observationId),
    ("action_id", .str t.actionId), ("kind", .str "retrieval"),
    ("accepted_evidence", .arr (t.acceptedEvidence.map fun c => .obj c.jsonFields)),
    ("rejected_evidence_summary", t.rejectedEvidenceSummary.json),
    ("admission_metadata", t.admissionMetadata.json), ("citation_refs", textsJson t.citationRefs)]

def ToolObservationTruth.jsonFields (t : ToolObservationTruth) : List (String × Json) :=
  [("truth_ref", .str t.truthRef), ("observation_id", .str t.observationId),
    ("action_id", .str t.actionId), ("kind", .str "tool"), ("tool_name", .str t.toolName),
    ("authorized_result", t.authorizedResult.json),
    ("result_schema_id", ofOption .str t.resultSchemaId),
    ("approval_ref", ofOption .str t.approvalRef),
    ("redaction_metadata", t.redactionMetadata.json)]

/-- `model_payload(truth)`. -/
def ObservationTruthArtifact.payload : ObservationTruthArtifact → Json
  | retrieval t => .obj t.jsonFields
  | tool t => .obj t.jsonFields

/-! ## Reading a truth back -/

theorem reshape_json (m : FrozenDict) : reshape .float m.json = m.json := m.canonical

def EvidenceStatus.ofJson : Json → Option EvidenceStatus :=
  readEnum [.candidate, .accepted, .rejected] EvidenceStatus.value

@[simp] theorem EvidenceStatus.ofJson_value (s : EvidenceStatus) :
    EvidenceStatus.ofJson (.str s.value) = some s := by
  cases s <;> decide

def EvidenceChunk.ofJson (j : Json) : Option EvidenceChunk := do
  let source ← readField asStr "source" j
  let content ← readField asStr "content" j
  let status ← readField EvidenceStatus.ofJson "status" j
  let citation ← readField (asOption asStr) "citation" j
  let details ← readField FrozenDict.ofJson? "details" j
  return { source, content, status, citation, details }

theorem EvidenceChunk.ofJson_reshape (c : EvidenceChunk) :
    EvidenceChunk.ofJson (reshape .float (.obj c.jsonFields)) = some c := by
  have hkeys : (c.jsonFields.map Prod.fst).Nodup := by simp [jsonFields]
  simp only [ofJson, Json.readField_reshape .float hkeys]
  simp [jsonFields, List.lookup_cons, reshape_json]

def RetrievalObservationTruth.ofJson (j : Json) : Option RetrievalObservationTruth := do
  let truthRef ← readField asStr "truth_ref" j
  let observationId ← readField asStr "observation_id" j
  let actionId ← readField asStr "action_id" j
  let acceptedEvidence ← readField (asList EvidenceChunk.ofJson) "accepted_evidence" j
  let rejectedEvidenceSummary ← readField FrozenDict.ofJson? "rejected_evidence_summary" j
  let admissionMetadata ← readField FrozenDict.ofJson? "admission_metadata" j
  let citationRefs ← readField (asList asStr) "citation_refs" j
  return { truthRef, observationId, actionId, acceptedEvidence, rejectedEvidenceSummary,
           admissionMetadata, citationRefs }

def ToolObservationTruth.ofJson (j : Json) : Option ToolObservationTruth := do
  let truthRef ← readField asStr "truth_ref" j
  let observationId ← readField asStr "observation_id" j
  let actionId ← readField asStr "action_id" j
  let toolName ← readField asStr "tool_name" j
  let authorizedResult ← readField FrozenDict.ofJson? "authorized_result" j
  let resultSchemaId ← readField (asOption asStr) "result_schema_id" j
  let approvalRef ← readField (asOption asStr) "approval_ref" j
  let redactionMetadata ← readField FrozenDict.ofJson? "redaction_metadata" j
  return { truthRef, observationId, actionId, toolName, authorizedResult, resultSchemaId,
           approvalRef, redactionMetadata }

/-- `_observation_truth_from_payload`. -/
def ObservationTruthArtifact.ofJson (j : Json) : Option ObservationTruthArtifact :=
  match readField asStr "kind" j with
  | some "retrieval" => (RetrievalObservationTruth.ofJson j).map .retrieval
  | some "tool" => (ToolObservationTruth.ofJson j).map .tool
  | _ => none

/-- **A truth is what its payload is read as.** -/
theorem ObservationTruthArtifact.ofJson_payload (t : ObservationTruthArtifact) :
    ObservationTruthArtifact.ofJson t.payload.canonical = some t := by
  cases t with
  | retrieval t =>
    have hkeys : (t.jsonFields.map Prod.fst).Nodup := by simp [RetrievalObservationTruth.jsonFields]
    have hchunks := asList_all .float EvidenceChunk.ofJson_reshape t.acceptedEvidence
    simp only [payload, Json.canonical, ofJson, RetrievalObservationTruth.ofJson,
      Json.readField_reshape .float hkeys]
    simp [RetrievalObservationTruth.jsonFields, List.lookup_cons, reshape_json, hchunks,
      -Json.reshape_arr]
  | tool t =>
    have hkeys : (t.jsonFields.map Prod.fst).Nodup := by simp [ToolObservationTruth.jsonFields]
    simp only [payload, Json.canonical, ofJson, ToolObservationTruth.ofJson,
      Json.readField_reshape .float hkeys]
    simp [ToolObservationTruth.jsonFields, List.lookup_cons, reshape_json]

theorem ObservationTruthArtifact.payload_inj {a b : ObservationTruthArtifact}
    (h : a.payload.canonical = b.payload.canonical) : a = b := by
  have ha := a.ofJson_payload
  rw [h, b.ofJson_payload] at ha
  exact (Option.some.inj ha).symm

def ObservationRecord.jsonFields (r : ObservationRecord) : List (String × Json) :=
  [("observation_id", .str r.observationId), ("action_id", .str r.actionId),
    ("action_type", .str r.actionType.value), ("round", .int r.round),
    ("truth_ref", .str r.truthRef), ("summary", r.summary.json),
    ("accepted_evidence_count", .int r.acceptedEvidenceCount),
    ("new_evidence_count", .int r.newEvidenceCount),
    ("unresolved_subgoals", textsJson r.unresolvedSubgoals),
    ("source_refs", textsJson r.sourceRefs), ("citation_refs", textsJson r.citationRefs)]

/-! ## Tool proposals and tool tasks -/

def ToolProposalParameter.jsonFields (p : ToolProposalParameter) : List (String × Json) :=
  [("name", .str p.name), ("required", .bool p.required), ("value_type", .str p.valueType),
    ("value_source", .str p.valueSource.value), ("description", ofOption .str p.description),
    ("enum_values", textsJson p.enumValues)]

def ToolProposalInterface.jsonFields (i : ToolProposalInterface) : List (String × Json) :=
  [("tool_contract_id", .str i.toolContractId), ("risk_level", .str i.riskLevel),
    ("read_only", .bool i.readOnly), ("requires_approval", .bool i.requiresApproval),
    ("parameters", .arr (i.parameters.map fun p => .obj p.jsonFields))]

def EffectiveToolProposalScope.jsonFields (s : EffectiveToolProposalScope) :
    List (String × Json) :=
  [("run_id", .str s.runId), ("plan_round", .int s.planRound),
    ("tool_interfaces", .arr (s.toolInterfaces.map fun i => .obj i.jsonFields)),
    ("schema_digest", .str s.schemaDigest)]

def BoundToolProposal.jsonFields (b : BoundToolProposal) : List (String × Json) :=
  [("action_id", .str b.actionId), ("tool_contract_id", .str b.toolContractId),
    ("parameters", b.parameters.json), ("parameter_sources", b.parameterSources.json),
    ("parameter_digest", .str b.parameterDigest), ("scope_digest", ofOption .str b.scopeDigest)]

def ApprovedToolProposalSnapshot.jsonFields (a : ApprovedToolProposalSnapshot) :
    List (String × Json) :=
  [("snapshot_id", .str a.snapshotId), ("action_id", .str a.actionId),
    ("tool_contract_id", .str a.toolContractId), ("parameters", a.parameters.json),
    ("parameter_digest", .str a.parameterDigest), ("scope_digest", ofOption .str a.scopeDigest),
    ("policy_decision", .str a.policyDecision), ("risk_level", .str a.riskLevel),
    ("approval_reason", .str a.approvalReason)]

def ToolResultBinding.jsonFields (b : ToolResultBinding) : List (String × Json) :=
  [("step_id", .str b.stepId), ("path", textsJson b.path)]

def ExactCalculation.jsonFields (c : ExactCalculation) : List (String × Json) :=
  [("operation", .str "sum"), ("operand_parameter", .str c.operandParameter),
    ("result_field", .str c.resultField)]

def ToolTaskStep.jsonFields (s : ToolTaskStep) : List (String × Json) :=
  [("step_id", .str s.stepId), ("tool_name", .str s.toolName), ("parameters", s.parameters.json),
    ("bindings", .obj (s.bindings.map fun b => (b.1, .obj b.2.jsonFields))),
    ("calculation", ofOption (fun c => .obj c.jsonFields) s.calculation),
    ("report_fields", textsJson s.reportFields)]

def ToolTaskPlan.jsonFields (p : ToolTaskPlan) : List (String × Json) :=
  [("schema_version", .str "tool-task-plan.v1"),
    ("steps", .arr (p.steps.map fun s => .obj s.jsonFields))]

def ToolTaskReportRow.jsonFields (r : ToolTaskReportRow) : List (String × Json) :=
  [("step_id", .str r.stepId), ("tool_name", .str r.toolName), ("truth_ref", .str r.truthRef),
    ("input_digest", .str r.inputDigest), ("values", r.values.json)]

def ToolTaskReport.jsonFields (r : ToolTaskReport) : List (String × Json) :=
  [("schema_version", .str "tool-task-report.v1"), ("run_id", .str r.runId),
    ("plan_digest", .str r.planDigest), ("rows", .arr (r.rows.map fun row => .obj row.jsonFields))]

/-! ## The conversation and the run -/

def TaskStateItem.jsonFields (i : TaskStateItem) : List (String × Json) :=
  [("key", .str i.key), ("value", .str i.value), ("source_turn_id", .str i.sourceTurnId),
    ("kind", .str i.kind)]

def ConversationTaskState.jsonFields (s : ConversationTaskState) : List (String × Json) :=
  [("version", .int 1), ("items", .arr (s.items.map fun i => .obj i.jsonFields)),
    ("unresolved", textsJson s.unresolved)]

def ContextAdmission.jsonFields (c : ContextAdmission) : List (String × Json) :=
  unlessNone "task_state" (fun s => .obj s.jsonFields) c.taskState ++
    [("admitted", .bool c.admitted), ("turn_count", .int c.turnCount),
      ("included_turn_ids", textsJson c.includedTurnIds), ("summary", .str c.summary)] ++
    unlessNone "recent_summary" .str c.recentSummary ++
    [("char_count", .int c.charCount), ("max_turns", .int c.maxTurns),
      ("dropped_turn_ids", textsJson c.droppedTurnIds),
      ("fallback_reasons", textsJson c.fallbackReasons),
      ("clarification_turn_ids", textsJson c.clarificationTurnIds)]

def MemoryRecallWorkingPayload.jsonFields (m : MemoryRecallWorkingPayload) :
    List (String × Json) :=
  [("scope", .str m.scope), ("source_refs", textsJson m.sourceRefs), ("summary", .str m.summary),
    ("facts", m.facts.json)]

def ControlledReActRunState.jsonFields (s : ControlledReActRunState) : List (String × Json) :=
  [("run_id", .str s.runId), ("template_name", .str s.templateName),
    ("template_descriptor_version", .str s.templateDescriptorVersion),
    ("question", .str s.question)] ++
    unlessNone "execution_configuration_digest" .str s.executionConfigurationDigest ++
    unlessNone "business_flow_skill_pack_id" .str s.businessFlowSkillPackId ++
    unlessNone "tool_task_plan" (fun p => .obj p.jsonFields) s.toolTaskPlan ++
    unlessDefault "max_tool_calls" natJson 1 s.maxToolCalls ++
    unlessDefault "task_plan_round_limit" natJson 4 s.taskPlanRoundLimit ++
    [("institution_authorization", s.institutionAuthorization.toJson),
      ("conversation_context", ofOption (fun c => .obj c.jsonFields) s.conversationContext),
      ("memory_recall_payloads", .arr (s.memoryRecallPayloads.map fun m => .obj m.jsonFields)),
      ("phase", .str s.phase.value), ("plan_round", natJson s.planRound),
      ("action_history", .arr (s.actionHistory.map fun a => .obj a.jsonFields)),
      ("observation_records", .arr (s.observationRecords.map fun r => .obj r.jsonFields)),
      ("intent_resolution", ofOption FrozenDict.json s.intentResolution),
      ("effective_tool_proposal_scope",
        ofOption (fun e => .obj e.jsonFields) s.effectiveToolProposalScope),
      ("effective_react_action_set",
        .arr (s.effectiveReactActionSet.map fun a => .str a.value)),
      ("bound_tool_proposal", ofOption (fun b => .obj b.jsonFields) s.boundToolProposal),
      ("approved_tool_proposal_snapshot",
        ofOption (fun a => .obj a.jsonFields) s.approvedToolProposalSnapshot),
      ("memory_context", s.memoryContext.json),
      ("memory_read_performed", .bool s.memoryReadPerformed)]

def ControlledReActRunStateSnapshot.jsonFields (s : ControlledReActRunStateSnapshot) :
    List (String × Json) :=
  [("snapshot_id", .str s.snapshotId), ("run_id", .str s.runId), ("state", .obj s.state.jsonFields),
    ("integrity_version", .int 1), ("integrity_hmac_sha256", ofOption .str s.integrityHmacSha256)]

end ProofAgent
