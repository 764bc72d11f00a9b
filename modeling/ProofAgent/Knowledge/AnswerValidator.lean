import ProofAgent.Contracts.ControlledReact
import ProofAgent.ControlledReact.TaskCompletion

/-! # Insurance answers

A model writes an answer as JSON. It is parsed, the evidence that the authority admitted is put
together, the required evidence slots are evaluated, and each claim of the answer is compared with
the admitted evidence. A value whose validator fails is never built. -/
namespace ProofAgent.Knowledge

open Base

/-- The model whose validation raised, where nothing catches it. -/
inductive ValidationFailure where
  | admittedInsuranceEvidence
  | evidenceSlotEvaluation
  deriving DecidableEq

/-! ## Evidence slots -/

structure InsuranceEvidenceSlotRequirement where
  slotId : String
  requiredRuleUnitRevisionIds : List String := []

structure AdmittedInsuranceEvidence where
  evidenceId : String
  ruleUnitRevisionId : String
  citationUri : Option String := none
  supportedSlotIds : List String
  evidenceId_ne : evidenceId ≠ ""
  ruleUnitRevisionId_ne : ruleUnitRevisionId ≠ ""
  supportedSlotIds_ne : supportedSlotIds ≠ []
  uniqueSlots : supportedSlotIds.Nodup

structure EvidenceSlotEvaluation where
  complete : Bool
  satisfiedSlotIds : List String
  missingSlotIds : List String
  disjoint : ∀ slot ∈ satisfiedSlotIds, slot ∉ missingSlotIds
  complete_eq : complete = missingSlotIds.isEmpty

/-- Whether the items that support a slot carry all the rule units it requires. -/
def slotSatisfied (evidence : List AdmittedInsuranceEvidence)
    (requirement : InsuranceEvidenceSlotRequirement) : Bool :=
  let matching := evidence.filter fun item => requirement.slotId ∈ item.supportedSlotIds
  !matching.isEmpty && requirement.requiredRuleUnitRevisionIds.all fun id =>
    (matching.map (·.ruleUnitRevisionId)).contains id

def evaluateRequiredSlots (requirements : List InsuranceEvidenceSlotRequirement)
    (evidence : List AdmittedInsuranceEvidence) : Except ValidationFailure EvidenceSlotEvaluation :=
  let satisfied := (requirements.filter (slotSatisfied evidence)).map (·.slotId)
  let missing := (requirements.filter fun r => !slotSatisfied evidence r).map (·.slotId)
  if h : ∀ slot ∈ satisfied, slot ∉ missing then .ok
    { complete := missing.isEmpty
      satisfiedSlotIds := satisfied
      missingSlotIds := missing
      disjoint := h
      complete_eq := rfl }
  else .error .evidenceSlotEvaluation

/-! ## Answers -/

inductive AnswerSection where
  | recommendation | conditions | assumptions | ruleBasis | warnings | serviceReminder
  deriving DecidableEq

def AnswerSection.ofText : String → Option AnswerSection
  | "recommendation" => some .recommendation
  | "conditions" => some .conditions
  | "assumptions" => some .assumptions
  | "rule_basis" => some .ruleBasis
  | "warnings" => some .warnings
  | "service_reminder" => some .serviceReminder
  | _ => none

structure InsuranceAnswerClaim where
  «section» : AnswerSection
  text : String
  ruleUnitRevisionIds : List String
  citationUris : List String
  text_ne : text ≠ ""
  ruleUnitRevisionIds_ne : ruleUnitRevisionIds ≠ []
  citationUris_ne : citationUris ≠ []

/-- The sections that require a claim. -/
def substantiveSections : List AnswerSection :=
  [.recommendation, .conditions, .assumptions, .ruleBasis, .warnings]

structure GeneratedInsuranceAnswer where
  recommendation : String
  conditions : String
  assumptions : String
  ruleBasis : String
  warnings : String
  serviceReminder : String
  claims : List InsuranceAnswerClaim
  texts_ne : ∀ text ∈ [recommendation, conditions, assumptions, ruleBasis, warnings,
    serviceReminder], text ≠ ""
  claims_ne : claims ≠ []
  sectionsClaimed : ∀ s ∈ substantiveSections, s ∈ claims.map (·.section)

/-- `InsuranceAnswerClaim.model_validate`. -/
def readClaim (j : Json) : Option InsuranceAnswerClaim := do
  let kind ← j.readField (fun v => v.asStr.bind AnswerSection.ofText) "section"
  let text ← j.readField Json.asStr "text"
  let ruleUnitRevisionIds ← j.readField (Json.asList Json.asStr) "rule_unit_revision_ids"
  let citationUris ← j.readField (Json.asList Json.asStr) "citation_uris"
  if h : text ≠ "" ∧ ruleUnitRevisionIds ≠ [] ∧ citationUris ≠ [] then
    some ⟨kind, text, ruleUnitRevisionIds, citationUris, h.1, h.2.1, h.2.2⟩
  else none

/-- `GeneratedInsuranceAnswer.model_validate`. -/
def readAnswer (j : Json) : Option GeneratedInsuranceAnswer := do
  let recommendation ← j.readField Json.asStr "recommendation"
  let conditions ← j.readField Json.asStr "conditions"
  let assumptions ← j.readField Json.asStr "assumptions"
  let ruleBasis ← j.readField Json.asStr "rule_basis"
  let warnings ← j.readField Json.asStr "warnings"
  let serviceReminder ← j.readField Json.asStr "service_reminder"
  let claims ← j.readField (Json.asList readClaim) "claims"
  if h : (∀ text ∈ [recommendation, conditions, assumptions, ruleBasis, warnings,
      serviceReminder], text ≠ "") ∧ claims ≠ [] ∧
      ∀ s ∈ substantiveSections, s ∈ claims.map (·.section) then
    some ⟨recommendation, conditions, assumptions, ruleBasis, warnings, serviceReminder, claims,
      h.1, h.2.1, h.2.2⟩
  else none

def GeneratedInsuranceAnswer.sections (a : GeneratedInsuranceAnswer) : List String :=
  [a.recommendation, a.conditions, a.assumptions, a.ruleBasis, a.warnings, a.serviceReminder]

/-! ## Validation -/

inductive ValidationOutcome where
  | deliver | clarify | conflict | noRecommendation
  deriving DecidableEq

structure InsuranceAnswerValidationDecision where
  admitted : Bool
  outcome : ValidationOutcome
  reason : String
  deliverableAnswer : Option GeneratedInsuranceAnswer := none

/-- `_reject`. -/
def rejectAnswer (reason : String) : InsuranceAnswerValidationDecision :=
  { admitted := false, outcome := .noRecommendation, reason }

/-- Why a claim is refused, if it is. -/
def claimFault (evidence : List AdmittedInsuranceEvidence) (claim : InsuranceAnswerClaim) :
    Option String :=
  let admittedRuleIds := evidence.map (·.ruleUnitRevisionId)
  let admittedCitations := evidence.filterMap (·.citationUri)
  if !claim.ruleUnitRevisionIds.all fun id => admittedRuleIds.contains id then
    some "unsupported_rule_claim"
  else if !claim.citationUris.all fun uri => admittedCitations.contains uri then
    some "unsupported_citation"
  else none

def validateGeneratedInsuranceAnswer (generated : GeneratedInsuranceAnswer)
    (admittedEvidence : List AdmittedInsuranceEvidence) (slotEvaluation : EvidenceSlotEvaluation) :
    InsuranceAnswerValidationDecision :=
  if generated.sections.any fun text => stripText text = "" then
    rejectAnswer "missing_required_answer_section"
  else if !slotEvaluation.complete then
    { admitted := false, outcome := .clarify, reason := "required_evidence_slots_incomplete" }
  else match generated.claims.findSome? (claimFault admittedEvidence) with
    | some reason => rejectAnswer reason
    | none =>
      { admitted := true, outcome := .deliver, reason := "admitted",
        deliverableAnswer := some generated }

/-- Whether a chunk is admitted evidence. -/
def isAdmitted (item : EvidenceChunk) : Bool :=
  item.authorityAdmitted && !item.supportedEvidenceSlotIds.isEmpty

/-- `item.evidence_id or item.source`. -/
def admittedId (item : EvidenceChunk) : String := orText item.evidenceId item.source

/-- `item.chunk_id or item.evidence_id or item.source`. -/
def admittedRuleUnit (item : EvidenceChunk) : String := orText item.chunkId (admittedId item)

/-- `AdmittedInsuranceEvidence(...)` of a chunk. -/
def admittedItem (item : EvidenceChunk) : Except ValidationFailure AdmittedInsuranceEvidence :=
  if h : admittedId item ≠ "" ∧ admittedRuleUnit item ≠ "" ∧ item.supportedEvidenceSlotIds ≠ [] ∧
      item.supportedEvidenceSlotIds.Nodup then
    .ok ⟨admittedId item, admittedRuleUnit item, item.citation, item.supportedEvidenceSlotIds,
      h.1, h.2.1, h.2.2.1, h.2.2.2⟩
  else .error .admittedInsuranceEvidence

/-- `validate_serialized_insurance_answer`; the payload is what `json.loads` gives of the content,
if it gives anything. -/
def validateSerializedInsuranceAnswer (payload : Option Json) (evidence : List EvidenceChunk)
    (requirements : List InsuranceEvidenceSlotRequirement) :
    Except ValidationFailure InsuranceAnswerValidationDecision :=
  match payload.bind readAnswer with
  | none => .ok (rejectAnswer "invalid_structured_insurance_answer")
  | some generated => do
    let admitted ← (evidence.filter isAdmitted).mapM admittedItem
    let slotEvaluation ← evaluateRequiredSlots requirements admitted
    return validateGeneratedInsuranceAnswer generated admitted slotEvaluation

end ProofAgent.Knowledge
