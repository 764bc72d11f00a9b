import ProofAgent.Answers.Business
import ProofAgent.Base.Url
import ProofAgent.ControlledReact.FinalAnswer
import ProofAgent.Knowledge.ExternalProviders
import ProofAgent.Policy.Engine

/-! # Governed retrieval

The policy allows the retrieval from every selected source before the first one is asked.
Candidates of the selected sources become chunks of evidence that a threshold admits or
rejects, and the admitted ones are the truth of an observation. -/
namespace ProofAgent.Knowledge

open Base Policy RetrievalCall
open Answers (StructuredEvidenceRecord)

/-! ## Chunks -/

/-- The chunk that the service makes of a candidate. -/
structure GovernedChunk where
  source : String
  content : String
  status : EvidenceStatus
  evidenceId : String
  sourceId : String
  sourceVersionId : String
  bindingId : String
  providerName : String
  documentId : Option String
  chunkId : String
  providerNativeScore : PyFloat
  admissionScore : Option PyFloat
  citation : String
  structuredData : Option StructuredEvidenceRecord
  tenantId : Option String
  observedAt : String
  contentSha256 : String

def fieldJson (f : Answers.StructuredEvidenceField) : Json :=
  .obj [("field", .str f.field), ("value_type", .str f.valueType),
    ("value", match f.value with
      | .null => .null
      | .bool b => .bool b
      | .int n => .int n
      | .text s => .str s),
    ("unit", .ofOption .str f.unit)]

def recordJson (r : StructuredEvidenceRecord) : Json :=
  .obj [("schema_version", .str "proofagent-structured-evidence.v1"), ("record_id", .str r.recordId),
    ("fields", .arr (r.fields.map fieldJson))]

namespace GovernedChunk

def metadata (c : GovernedChunk) : Json :=
  .obj ([("admission_policy", .str "external-relevance-and-provenance.v1"),
    ("consistency", .str "mutable_remote"), ("observed_at", .str c.observedAt),
    ("content_sha256", .str c.contentSha256)] ++
    match c.tenantId with
    | none => []
    | some tenantId => [("tenant_id", .str tenantId)])

/-- The chunk as the rest of the program knows it. -/
def evidence (c : GovernedChunk) : EvidenceChunk where
  source := c.source
  content := c.content
  status := c.status
  citation := some c.citation
  details := .ofFields ([("evidence_id", .str c.evidenceId), ("source_id", .str c.sourceId),
    ("source_version_id", .str c.sourceVersionId), ("binding_id", .str c.bindingId),
    ("provider_name", .str c.providerName), ("document_id", .ofOption .str c.documentId),
    ("revision_id", .null), ("chunk_id", .str c.chunkId),
    ("provider_native_score", .float c.providerNativeScore), ("fusion_rank", .null),
    ("admission_score", .ofOption .float c.admissionScore), ("authority_admitted", .bool false),
    ("authority_outcome", .null), ("supported_evidence_slot_ids", .arr []),
    ("metadata", c.metadata), ("contributions", .arr [])] ++
    match c.structuredData with
    | none => []
    | some data => [("structured_data", recordJson data)])

end GovernedChunk

/-! ## Citations -/

section
variable (provider bindingId sourceId : String) (documentId : Option String) (chunkId : String)
  (tenantId : Option String)

/-- `external_evidence_source`. -/
def externalEvidenceSource : Except ReactError String :=
  if provider = "dify" ∧ documentId.any (· ≠ "") = true ∧ tenantId = none then
    .ok ("external://" ++ bindingId ++ "/datasets/" ++ sourceId ++ "/documents/" ++
      documentId.getD "")
  else if provider = "agentset" ∧ documentId = none then
    .ok ("external://" ++ bindingId ++ "/namespaces/" ++ quote sourceId ++
      (match tenantId with
        | none => ""
        | some tenantId => "/tenants/" ++ quote tenantId) ++ "/chunks/" ++ quote chunkId)
  else .error (.value "External evidence provider identity is invalid")

/-- The citation of a segment of a source. -/
def segmentCitation (source chunkId contentSha256 : String) : String :=
  source ++ "#segment=" ++ quote chunkId ++ "&sha256=" ++ contentSha256

end

variable (lib : ExternalLibrary)

/-- `validate_structured_source`. -/
def GovernedChunk.validateStructuredSource (c : GovernedChunk) : Except ReactError Unit :=
  match c.structuredData with
  | none => .ok ()
  | some data => do
    let source ← externalEvidenceSource c.providerName c.bindingId c.sourceId c.documentId c.chunkId
      c.tenantId
    require (lib.parseStructuredEvidence c.content = some data ∧ c.source ≠ "" ∧ c.bindingId ≠ "" ∧
        c.sourceId ≠ "" ∧ c.chunkId ≠ "" ∧ c.source = source ∧
        c.sourceVersionId = "sha256:" ++ lib.sha256 c.content ∧
        c.citation = segmentCitation c.source c.chunkId (lib.sha256 c.content))
      (.value "Structured evidence content or provenance does not match")

/-- Whether the relevance gate lets a candidate in: `native_score >= max(threshold, min_score)`. -/
def admitted (b : ExternalKnowledgeBinding) (minScore : PyFloat)
    (candidate : ExternalKnowledgeCandidate lib) : Bool :=
  let threshold := b.scoreThreshold.value
  candidate.available &&
    !candidate.nativeScore.value.lt (if threshold.lt minScore then minScore else threshold)

/-- The chunk of a candidate. -/
def chunkOf (b : ExternalKnowledgeBinding) (minScore : PyFloat) (observedAt : String)
    (candidate : ExternalKnowledgeCandidate lib) : Except ReactError GovernedChunk := do
  let source ← externalEvidenceSource b.provider b.bindingId b.sourceId candidate.documentId
    candidate.chunkId b.tenantId
  let isAdmitted := admitted lib b minScore candidate
  let chunk : GovernedChunk := {
    source
    content := candidate.content
    status := if isAdmitted then .candidate else .rejected
    evidenceId := b.bindingId ++ ":" ++ candidate.chunkId ++ ":" ++ candidate.contentSha256
    sourceId := b.sourceId
    sourceVersionId := "sha256:" ++ candidate.contentSha256
    bindingId := b.bindingId
    providerName := b.provider
    documentId := candidate.documentId
    chunkId := candidate.chunkId
    providerNativeScore := candidate.nativeScore.value
    admissionScore := if isAdmitted then some highestScore else none
    citation := segmentCitation source candidate.chunkId candidate.contentSha256
    structuredData := candidate.structuredData
    tenantId := b.tenantId
    observedAt
    contentSha256 := candidate.contentSha256 }
  chunk.validateStructuredSource lib
  return chunk

/-! ## The evaluation of evidence -/

/-- A chunk that is not rejected and reaches the score. -/
def reaches (minScore : PyFloat) (c : GovernedChunk) : Bool :=
  c.status ≠ .rejected && c.admissionScore.any fun score => !score.lt minScore

/-- `evaluate_evidence`. -/
def evaluateEvidence (chunks : List GovernedChunk) (minCount : Nat) (minScore : PyFloat) :
    ValidationResult :=
  let accepted := chunks.filter (reaches minScore)
  { status := if minCount ≤ accepted.length then .passed else .failed
    metadata := .ofFields [("accepted_count", .int accepted.length),
      ("rejected_count", .int (chunks.length - accepted.length : Nat)),
      ("accepted_sources", .arr (accepted.map fun c => .str c.source)),
      ("evidence", .arr (chunks.map fun c => .obj [("source", .str c.source),
        ("citation", .str c.citation), ("admission_score", .ofOption .float c.admissionScore),
        ("provider_native_score", .float c.providerNativeScore), ("fusion_rank", .null),
        ("authority_admitted", .bool false), ("authority_outcome", .null),
        ("status", .str (if reaches minScore c then "accepted" else "rejected"))])),
      ("admission_scores", .arr (chunks.map fun c => .ofOption .float c.admissionScore)),
      ("min_count", .int minCount), ("min_score", .float minScore)] }

/-- `_admit_evidence`, of the chunks that are accepted. -/
def admitEvidence (chunks : List GovernedChunk) (minScore : PyFloat) : List GovernedChunk :=
  (chunks.filter (reaches minScore)).map fun c => { c with status := .accepted }

/-! ## Retrieval -/

structure KnowledgeRetrievalRequest where
  question : String
  strategy : String
  topK : Int
  minScore : PyFloat
  preferredBindingIds : List String := []
  forceEmpty : Bool := false

structure KnowledgeRetrievalResult where
  evidence : List GovernedChunk
  evidenceResult : ValidationResult

/-- What the service is composed of. -/
structure RetrievalPorts (W : Type) extends ProviderPorts W where
  policy : PolicyEngine
  externalKnowledge : Option ExternalKnowledgeRuntime
  beforeQuery : Option (Effect W ReactError Unit) := none
  /-- An event's type and status. -/
  emit : String → String → Effect W ReactError Unit
  /-- `datetime.now(timezone.utc).isoformat()`. -/
  now : Effect W ReactError String

/-- `xs[:n]`. -/
def sliceTo {α : Type} (n : Int) (xs : List α) : List α :=
  if 0 ≤ n then xs.take n.toNat else xs.take (xs.length - n.natAbs)

def policyError : PyError → ReactError
  | .value => .value ""
  | .type => .port "TypeError"
  | .key => .key ""

variable {W : Type} (ports : RetrievalPorts W) (request : KnowledgeRetrievalRequest)

def policyContext (b : ExternalKnowledgeBinding) : PyDict :=
  [("question", .str request.question), ("strategy", .str request.strategy),
    ("provider", .str b.provider), ("binding_id", .str b.bindingId)] ++
  match b.source with
  | .dify datasetId .. => [("dataset_id", .str datasetId)]
  | .agentset namespaceId tenantId .. => [("namespace_id", .str namespaceId),
      ("tenant_id", match tenantId with
        | none => .none
        | some tenantId => .str tenantId)]

/-- Ask the policy about a source: whether it allows the retrieval. -/
def authorize (b : ExternalKnowledgeBinding) : RetrievalCall W Bool := do
  let decision ← Effect.ofExcept ((ports.policy.evaluate .beforeRetrieval (policyContext request b)
    "").mapError policyError)
  note (.decided b.bindingId decision.decision)
  callPort (ports.emit "policy_decision" (if decision.decision = .allow then "ok" else "blocked"))
  return decision.decision = .allow

/-- Ask about all sources, up to the first one that is not allowed. -/
def authorizeAll : List ExternalKnowledgeBinding → RetrievalCall W Bool
  | [] => pure true
  | b :: rest => do
    let allowed ← authorize ports request b
    if allowed = true then authorizeAll rest else pure false

/-- The chunks of a source. -/
def collectFrom (sources : ExternalKnowledgeRuntime) (b : ExternalKnowledgeBinding) :
    RetrievalCall W (List GovernedChunk) := do
  callPort (ports.beforeQuery.getD (pure ()))
  let result ← sources.query lib ports.toProviderPorts b.bindingId request.question
  Effect.require (result.bindingId = b.bindingId ∧ result.query = request.question)
    (.proofAgent "PA_KNOWLEDGE_002" "External Knowledge result scope mismatch."
      "Retrieve again using the frozen binding and exact question.")
  Effect.require (result.candidates.all (fun c =>
      c.structuredData.isSome = (b.contentFormat = .structuredJson)) = true)
    (.proofAgent "PA_KNOWLEDGE_002"
      "External Knowledge result format differs from its frozen binding."
      "Retrieve source records in the configured content format.")
  let observedAt ← callPort ports.now
  let chunks ← Effect.ofExcept ((sliceTo (min b.topK request.topK) result.candidates).mapM
    (chunkOf lib b request.minScore observedAt))
  callPort (ports.emit "knowledge_candidate_query" "ok")
  return chunks

def collect (sources : ExternalKnowledgeRuntime) :
    List ExternalKnowledgeBinding → RetrievalCall W (List GovernedChunk)
  | [] => pure []
  | b :: rest => do
    let chunks ← collectFrom lib ports request sources b
    let others ← collect sources rest
    return chunks ++ others

/-- `_evaluate_evidence`: without evidence, the result says why. -/
def evaluate (evidence : List GovernedChunk) (reasonCode : String) :
    RetrievalCall W ValidationResult := do
  let result := evaluateEvidence evidence 1 request.minScore
  let result := if result.status = .failed then
      { result with metadata := result.metadata.insert "no_evidence_reason_code" (.str reasonCode) }
    else result
  callPort (ports.emit "evidence_evaluation" (if result.status = .passed then "ok" else "blocked"))
  return result

/-- `_result_for_evidence`. -/
def resultForEvidence (evidence : List GovernedChunk) (reasonCode : String) :
    RetrievalCall W KnowledgeRetrievalResult := do
  let evidenceResult ← evaluate ports request evidence reasonCode
  return { evidence, evidenceResult }

/-- The selected sources: the preferred ones, or all. -/
def selectedBindings (sources : ExternalKnowledgeRuntime) : List ExternalKnowledgeBinding :=
  sources.bindings.filter fun b =>
    request.preferredBindingIds = [] || request.preferredBindingIds.contains b.bindingId

/-- `_retrieve_external`. -/
def retrieveExternal (sources : ExternalKnowledgeRuntime) :
    RetrievalCall W KnowledgeRetrievalResult := do
  Effect.require (request.preferredBindingIds.all
      (fun id => (sources.bindings.map (·.bindingId)).contains id) = true)
    (.proofAgent "PA_KNOWLEDGE_002" "Retrieval selected an unbound Knowledge source."
      "Select only bindings frozen in this Agent configuration.")
  -- All selected sources are authorized before any network effect.
  let allowed ← authorizeAll ports request (selectedBindings request sources)
  if allowed = true then do
    let evidence ← collect lib ports request sources (selectedBindings request sources)
    resultForEvidence ports request (if request.forceEmpty then [] else evidence)
      "external_knowledge_no_admissible_candidates"
  else resultForEvidence ports request [] "retrieval_policy_denied"

/-- `retrieve`, without the retired Knowledge Source Service. -/
def retrieve : RetrievalCall W KnowledgeRetrievalResult :=
  match ports.externalKnowledge with
  | some sources => retrieveExternal lib ports request sources
  | none => resultForEvidence ports request [] "no_knowledge_source_service_binding"

/-! ## The observation -/

structure RetrievalConfig where
  strategy : String
  topK : Int := 3
  minScore : PyFloat

/-- The invocation, as the adapter knows it. -/
structure ObservationSources (W : Type) extends RetrievalPorts W where
  cancellationCheck : Effect W ReactError Unit
  preferredBindingIds : Effect W ReactError (List String)
  retrieval : RetrievalConfig

/-- The parts of a performance that the accepted evidence covers, in the order of their names. -/
def answerCoverage (answers : Answers.AnswerLibrary) (evidence : List EvidenceChunk) :
    Except ReactError (List String) := do
  let options ← (Answers.answerFactRepairOptions answers evidence).mapError fun e =>
    answerError (.evidence e)
  let covered := Answers.performanceCoverage answers.toCharacterLibrary
    (Answers.joinWith "\n" (options.map (·.statement)))
  return (if .period ∈ covered then ["period"] else []) ++
    (if .pressures ∈ covered then ["pressures"] else []) ++
    if .strengths ∈ covered then ["strengths"] else []

/-- The summary, with its coverage where the question compares performances. -/
def observationSummary (answers : Answers.AnswerLibrary) (state : ControlledReActRunState)
    (truth : RetrievalObservationTruth) : Except ReactError FrozenDict := do
  let summary ← ObservationSummaryBuilder.buildRetrievalSummary truth
  if Answers.isPerformanceComparison state.question.toList = true then do
    let coverage ← answerCoverage answers truth.acceptedEvidence
    return summary.insert "answer_coverage" (textsJson coverage)
  else return summary

/-- The truth of a retrieval. -/
def retrievalTruth (query : String) (minScore : PyFloat) (evidence : List GovernedChunk)
    (action : ReActActionProposal) (identity : ObservationIdentity) : RetrievalObservationTruth :=
  let accepted := admitEvidence evidence minScore
  { truthRef := identity.truthRef
    observationId := identity.observationId
    actionId := action.actionId
    acceptedEvidence := accepted.map GovernedChunk.evidence
    rejectedEvidenceSummary := .ofFields [("count", .int (evidence.length - accepted.length : Nat))]
    admissionMetadata := .ofFields [("min_score", .float minScore),
      ("evidence_validation", (evaluateEvidence evidence 1 minScore).metadata.json),
      ("query", .str query)]
    citationRefs := accepted.map (·.citation) }

/-- The record of a retrieval. -/
def retrievalRecord (state : ControlledReActRunState) (action : ReActActionProposal)
    (identity : ObservationIdentity) (truth : RetrievalObservationTruth) (summary : FrozenDict) :
    ObservationRecord where
  observationId := identity.observationId
  actionId := action.actionId
  actionType := action.actionType
  round := state.planRound
  truthRef := identity.truthRef
  summary := summary
  acceptedEvidenceCount := truth.acceptedEvidence.length
  newEvidenceCount := (truth.citationRefs.dedup.filter fun ref =>
    !state.observationRecords.any fun previous => previous.citationRefs.contains ref).length
  sourceRefs := truth.acceptedEvidence.map (·.source)
  citationRefs := truth.citationRefs

/-- `_InvocationKnowledgeObservationAdapter.observe`. -/
def observe (answers : Answers.AnswerLibrary) (sources : ObservationSources W) :
    ObservationPort (Retrieval W) := fun state action identity => do
  callPort sources.cancellationCheck
  let query := (FinalAnswerAttemptRunner.stringValue (action.parameters.get? "query")).getD
    state.question
  let preferredBindingIds ← callPort sources.preferredBindingIds
  let result ← retrieve lib sources.toRetrievalPorts {
    question := query
    strategy := sources.retrieval.strategy
    topK := sources.retrieval.topK
    minScore := sources.retrieval.minScore
    preferredBindingIds }
  callPort sources.cancellationCheck
  let truth := retrievalTruth query sources.retrieval.minScore result.evidence action identity
  callPort (sources.emit "evidence_evaluation" (if truth.acceptedEvidence = [] then "blocked" else "ok"))
  let summary ← Effect.ofExcept (observationSummary answers state truth)
  return {
    observationRecord := retrievalRecord state action identity truth summary
    truthArtifact := .retrieval truth
    traceProjection := summary }

end ProofAgent.Knowledge
