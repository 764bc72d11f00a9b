import ProofAgent.Answers.Evidence
import ProofAgent.Base.Emits
import ProofAgent.TaskState.Statements

/-! # External knowledge providers

A frozen binding names one source of a provider. Its adapter posts a question to the
provider's service and reads candidates from what the service answers; it admits nothing.
A journal keeps what the adapters and their caller did, with the answers. -/
namespace ProofAgent.Knowledge

open Base
open Answers (StructuredEvidenceRecord)
open TaskState (isHexDigit)

/-! ## Identifiers -/

def isIdentifierChar (c : Char) : Bool := c.isAlphanum || c = '_' || c = '-'

/-- `^[A-Za-z0-9_-]+$`, of at most 128 characters. -/
def isIdentifier (s : String) : Bool :=
  s ≠ "" && s.length ≤ 128 && s.toList.all isIdentifierChar

/-- The hexadecimal digits of a UUID, in either case, and its hyphens. -/
def isDatasetIdentifier (s : String) : Bool :=
  s.length = 36 && s.toList.zipIdx.all fun (c, i) =>
    if i = 8 || i = 13 || i = 18 || i = 23 then c = '-'
    else c.isDigit || ('a' ≤ c && c ≤ 'f') || ('A' ≤ c && c ≤ 'F')

/-- `^ns_[A-Za-z0-9_-]+$`, of at most 128 characters. -/
def isNamespaceIdentifier (s : String) : Bool :=
  "ns_".toList.isPrefixOf s.toList && 3 < s.length && s.length ≤ 128 &&
    s.toList.all isIdentifierChar

/-- `^[A-Za-z0-9]{1,64}$`. -/
def isTenantIdentifier (s : String) : Bool :=
  s ≠ "" && s.length ≤ 64 && s.toList.all Char.isAlphanum

/-- `^[A-Za-z0-9_.:#-]+$`, of at most 512 characters. -/
def isChunkIdentifier (s : String) : Bool :=
  s ≠ "" && s.length ≤ 512 && s.toList.all fun c =>
    isIdentifierChar c || c = '.' || c = ':' || c = '#'

/-! ## Scores -/

/-- `1.0`. -/
def highestScore : PyFloat := .ofDecimal false 1 0

/-- A float from 0 to 1. -/
structure Score where
  value : PyFloat
  nonneg : value.lt .zero = false
  bounded : highestScore.lt value = false

def Score.ofFloat? (x : PyFloat) : Option Score :=
  if h : x.lt .zero = false ∧ highestScore.lt x = false then some ⟨x, h.1, h.2⟩ else none

/-- A strict float field takes an integer, but no boolean. -/
def readScore (j : Json) : Option Score := j.asFloat.bind Score.ofFloat?

/-! ## Bindings -/

structure ProductionSecretHandle where
  protocolId : String
  handleId : String
  versionId : Option String := none
  deriving DecidableEq

inductive DifySearchMethod where
  | semanticSearch | fullTextSearch | keywordSearch

def DifySearchMethod.value : DifySearchMethod → String
  | semanticSearch => "semantic_search"
  | fullTextSearch => "full_text_search"
  | keywordSearch => "keyword_search"

structure DifyRetrievalSettings where
  searchMethod : DifySearchMethod := .semanticSearch
  topK : Nat
  scoreThreshold : Score
  topK_range : 1 ≤ topK ∧ topK ≤ 20

inductive AgentsetSearchMethod where
  | semantic | keyword

def AgentsetSearchMethod.value : AgentsetSearchMethod → String
  | semantic => "semantic"
  | keyword => "keyword"

inductive RerankModel where
  | zerank2 | zerank1 | zerank1Small | rerankV4Pro | rerankV4Fast | rerankV35 | rerankEnglishV3
  | rerankMultilingualV3

def RerankModel.value : RerankModel → String
  | zerank2 => "zeroentropy:zerank-2"
  | zerank1 => "zeroentropy:zerank-1"
  | zerank1Small => "zeroentropy:zerank-1-small"
  | rerankV4Pro => "cohere:rerank-v4.0-pro"
  | rerankV4Fast => "cohere:rerank-v4.0-fast"
  | rerankV35 => "cohere:rerank-v3.5"
  | rerankEnglishV3 => "cohere:rerank-english-v3.0"
  | rerankMultilingualV3 => "cohere:rerank-multilingual-v3.0"

structure AgentsetRetrievalSettings where
  searchMethod : AgentsetSearchMethod := .semantic
  topK : Nat
  scoreThreshold : Score
  rerank : Bool := true
  rerankModel : RerankModel := .zerank2
  topK_range : 1 ≤ topK ∧ topK ≤ 20

/-- The source of a binding: `validate_source_scope` leaves a Dify dataset, or an Agentset
namespace with the tenant that it may be narrowed to. -/
inductive SourceScope where
  | dify (datasetId : String) (retrieval : DifyRetrievalSettings)
      (valid : isDatasetIdentifier datasetId = true)
  | agentset (namespaceId : String) (tenantId : Option String) (retrieval : AgentsetRetrievalSettings)
      (valid : isNamespaceIdentifier namespaceId = true)
      (valid_tenant : tenantId.all isTenantIdentifier = true)

inductive ContentFormat where
  | text | structuredJson
  deriving DecidableEq

structure ExternalKnowledgeBinding where
  bindingId : String
  endpoint : String
  source : SourceScope
  contentFormat : ContentFormat := .text
  credentialRef : ProductionSecretHandle
  valid_id : isIdentifier bindingId = true

namespace ExternalKnowledgeBinding

variable (b : ExternalKnowledgeBinding)

def provider : String :=
  match b.source with
  | .dify .. => "dify"
  | .agentset .. => "agentset"

/-- `source_id`. -/
def sourceId : String :=
  match b.source with
  | .dify datasetId .. => datasetId
  | .agentset namespaceId .. => namespaceId

def tenantId : Option String :=
  match b.source with
  | .dify .. => none
  | .agentset _ tenantId .. => tenantId

/-- `retrieval.top_k`. -/
def topK : Nat :=
  match b.source with
  | .dify _ retrieval _ => retrieval.topK
  | .agentset _ _ retrieval .. => retrieval.topK

/-- `retrieval.score_threshold`. -/
def scoreThreshold : Score :=
  match b.source with
  | .dify _ retrieval _ => retrieval.scoreThreshold
  | .agentset _ _ retrieval .. => retrieval.scoreThreshold

end ExternalKnowledgeBinding

/-! ## Candidates -/

/-- What the adapters take from elsewhere. -/
structure ExternalLibrary where
  /-- `sha256(text.encode()).hexdigest()`. -/
  sha256 : String → String
  /-- `str.lower`. -/
  lower : String → String
  /-- `json.loads(body)`; `none` where it raises. -/
  loads : List UInt8 → Option Json
  /-- `json.dumps(payload, ensure_ascii=False).encode()`. -/
  dumps : Json → List UInt8
  /-- `parse_structured_evidence`; `none` where it raises. -/
  parseStructuredEvidence : String → Option StructuredEvidenceRecord
  sha256_hex : ∀ s, ∀ c ∈ (sha256 s).toList, isHexDigit c = true

variable (lib : ExternalLibrary)

structure ExternalKnowledgeCandidate where
  documentId : Option String := none
  chunkId : String
  content : String
  contentSha256 : String
  nativeScore : Score
  available : Bool
  structuredData : Option StructuredEvidenceRecord := none
  valid_document : documentId.all isIdentifier = true
  valid_chunk : isChunkIdentifier chunkId = true
  /-- `verify_content`. -/
  verified : isBlank content = false ∧ lib.sha256 content = contentSha256 ∧
    structuredData.all (fun s => lib.parseStructuredEvidence content = some s) = true

/-- The record that is read from a content, where records are expected. -/
def readStructured (structured : Bool) (content : String) :
    Option (Option StructuredEvidenceRecord) :=
  if structured then (lib.parseStructuredEvidence content).map some else some none

/-- A candidate of a text, with its digest and the record that is read from it. -/
def makeCandidate (documentId : Option String) (chunkId content : String) (nativeScore : Score)
    (available structured : Bool) : Option (ExternalKnowledgeCandidate lib) := do
  let structuredData ← readStructured lib structured content
  if h : documentId.all isIdentifier = true ∧ isChunkIdentifier chunkId = true ∧
      content.length ≤ 100000 ∧ isBlank content = false ∧
      structuredData.all (fun s => lib.parseStructuredEvidence content = some s) = true then
    some {
      documentId, chunkId, content, contentSha256 := lib.sha256 content, nativeScore, available
      structuredData
      valid_document := h.1
      valid_chunk := h.2.1
      verified := ⟨h.2.2.2.1, rfl, h.2.2.2.2⟩ }
  else none

structure ExternalKnowledgeResult where
  bindingId : String
  query : String
  candidates : List (ExternalKnowledgeCandidate lib)

/-! ## Answers of the services -/

def readRows : Json → Option (List Json)
  | .arr items => some items
  | _ => none

/-- A text that is absent, or `null`. -/
def readText (j : Option Json) : Option (Option String) :=
  match j with
  | none | some .null => some none
  | some (.str s) => some (some s)
  | _ => none

/-- `segment.get("enabled", False)`. -/
def readEnabled (j : Option Json) : Option Bool :=
  match j with
  | none => some false
  | some (.bool b) => some b
  | _ => none

/-- The content of a segment, with its answer. -/
def segmentContent (content : String) (answer : Option String) : String :=
  match answer with
  | none => content
  | some text => if text = "" then content else content ++ "\n" ++ text

/-- Whether the document that a segment names is the one that it shows. -/
def sameDocument (segment : Json) (documentId : String) : Bool :=
  match segment.field "document" with
  | none | some .null => true
  | some document => document.readField Json.asStr "id" = some documentId

/-- `_candidate` of Dify. -/
def difyCandidate (structured : Bool) (row : Json) : Option (ExternalKnowledgeCandidate lib) := do
  let segment ← row.field "segment"
  let content ← segment.readField Json.asStr "content"
  let answer ← readText (segment.field "answer")
  let documentId ← segment.readField Json.asStr "document_id"
  let chunkId ← segment.readField Json.asStr "id"
  let enabled ← readEnabled (segment.field "enabled")
  let score ← (row.field "score").bind readScore
  if (structured && answer.any (· ≠ "")) || !sameDocument segment documentId ||
      !isIdentifier documentId || !isIdentifier chunkId then none
  else
    makeCandidate lib (some documentId) chunkId (segmentContent content answer) score
      (enabled && (segment.readField Json.asStr "status") = some "completed") structured

/-- `returned_query`. -/
def returnedQuery (data : Json) : Option Json := do
  let returned ← data.field "query"
  match returned with
  | .obj _ => returned.field "content"
  | other => some other

/-- What `DifyKnowledgeProvider.query` makes of the answer. -/
def difyResult (b : ExternalKnowledgeBinding) (question : String) (data : Json) :
    Option (ExternalKnowledgeResult lib) := do
  let returned ← returnedQuery data
  let records ← data.readField readRows "records"
  let candidates ← records.mapM (difyCandidate lib (b.contentFormat = .structuredJson))
  if returned.asStr = some question ∧ records.length ≤ 100 ∧
      (candidates.map fun c => (c.documentId, c.chunkId)).Nodup then
    some { bindingId := b.bindingId, query := question, candidates := candidates.take b.topK }
  else none

/-- A row of an Agentset search; a row that is found is available. -/
def agentsetCandidate (structured : Bool) (row : Json) :
    Option (ExternalKnowledgeCandidate lib) := do
  let chunkId ← row.readField Json.asStr "id"
  let text ← row.readField Json.asStr "text"
  let score ← (row.field "score").bind readScore
  makeCandidate lib none chunkId text score true structured

/-- What `AgentsetKnowledgeProvider.query` makes of the answer. -/
def agentsetResult (b : ExternalKnowledgeBinding) (question : String) (data : Json) :
    Option (ExternalKnowledgeResult lib) := do
  let success ← data.readField Json.asBool "success"
  let rows ← data.readField readRows "data"
  let candidates ← rows.mapM (agentsetCandidate lib (b.contentFormat = .structuredJson))
  if success = true ∧ rows.length ≤ 100 ∧ (candidates.map (·.chunkId)).Nodup then
    some { bindingId := b.bindingId, query := question, candidates := candidates.take b.topK }
  else none

/-- The result that the provider of a binding reads from an answer. -/
def providerResult (b : ExternalKnowledgeBinding) (question : String) (data : Json) :
    Option (ExternalKnowledgeResult lib) :=
  match b.source with
  | .dify .. => difyResult lib b question data
  | .agentset .. => agentsetResult lib b question data

/-! ## Requests -/

/-- The path under the endpoint. -/
def providerPath (b : ExternalKnowledgeBinding) : String :=
  match b.source with
  | .dify datasetId .. => "/datasets/" ++ datasetId ++ "/retrieve"
  | .agentset namespaceId .. => "/namespace/" ++ namespaceId ++ "/search"

def providerPayload (b : ExternalKnowledgeBinding) (question : String) : Json :=
  match b.source with
  | .dify _ retrieval _ => .obj [("query", .str question),
      ("retrieval_model", .obj [("search_method", .str retrieval.searchMethod.value),
        ("reranking_enable", .bool false), ("top_k", .int retrieval.topK),
        ("score_threshold_enabled", .bool true),
        ("score_threshold", .float retrieval.scoreThreshold.value)])]
  | .agentset _ _ retrieval .. => .obj [("query", .str question), ("topK", .int retrieval.topK),
      ("minScore", .float retrieval.scoreThreshold.value),
      ("mode", .str retrieval.searchMethod.value), ("rerank", .bool retrieval.rerank),
      ("rerankLimit", .int retrieval.topK), ("rerankModel", .str retrieval.rerankModel.value),
      ("includeMetadata", .bool false), ("includeRelationships", .bool false)]

structure ServiceRequest where
  method : String
  url : String
  headers : List (String × String)
  body : List UInt8
  timeoutSeconds : PyFloat

structure ServiceResponse where
  statusCode : Int
  headers : List (String × String)
  body : List UInt8

/-- What a secret provider resolves a handle to; the text is `none` where it is no UTF-8. -/
structure SecretMaterial where
  providerVersionId : Option String
  revealed : Option String

section
variable (W : Type)

structure SecretPort where
  protocolId : String
  resolve : ProductionSecretHandle → Effect W ReactError SecretMaterial

/-- The guarded client and the secrets that the adapters are given. -/
structure ProviderPorts where
  request : ServiceRequest → Effect W ReactError ServiceResponse
  secrets : SecretPort W
  timeoutSeconds : PyFloat
  maxResponseBytes : Nat := 1024 * 1024

/-- What a retrieval did. -/
inductive RetrievalEvent where
  /-- The policy decided on the retrieval from a binding. -/
  | decided (bindingId : String) (decision : PolicyDecisionType)
  | credentialUsed (bindingId : String)
  | posted (bindingId : String) (request : ServiceRequest)
  /-- What the service answered a request with. -/
  | answered (bindingId : String) (request : ServiceRequest) (data : Json)

structure Retrieval where
  world : W
  journal : List RetrievalEvent

end

variable {W : Type}

abbrev RetrievalCall (W : Type) : Type → Type := Effect (Retrieval W) ReactError

namespace RetrievalCall

/-- Call a port. -/
def callPort {α : Type} (x : Effect W ReactError α) : RetrievalCall W α :=
  Effect.focus (·.world) (fun r world => { r with world }) x

def note (event : RetrievalEvent) : RetrievalCall W Unit :=
  Effect.modify fun r => { r with journal := r.journal ++ [event] }

end RetrievalCall

open RetrievalCall

/-- `knowledge_error`. -/
def knowledgeError (reason : String) : ReactError :=
  .proofAgent "PA_KNOWLEDGE_002" ("External Knowledge request failed: " ++ reason ++ ".")
    ("Check the configured source, server credential reference and permitted Service API " ++
      "endpoint.")

/-- `validate_query`. -/
def validateQuery (question : String) : Except ReactError Unit :=
  require (isBlank question = false ∧ question.length ≤ 250) (knowledgeError "query_invalid")

/-- Printable characters without white space, at most 16384. -/
def isBearerToken (token : String) : Bool :=
  token ≠ "" && token.length ≤ 16384 && token.toList.all fun c => 33 ≤ c.toNat && c.toNat ≤ 126

variable (ports : ProviderPorts W) (b : ExternalKnowledgeBinding)

/-- The bearer token of a binding. -/
def bearerToken : RetrievalCall W String := do
  Effect.require (b.credentialRef.protocolId = ports.secrets.protocolId)
    (.value "credential protocol mismatch")
  note (.credentialUsed b.bindingId)
  let material ← callPort (ports.secrets.resolve b.credentialRef)
  Effect.require (material.providerVersionId = b.credentialRef.versionId)
    (.value "credential version mismatch")
  let token ← Effect.ofExcept (orRaise material.revealed (.value "'utf-8' codec can't decode"))
  Effect.require (isBearerToken token = true) (.value "invalid credential material")
  return token

/-- The reason that a status gives. -/
def failureReason (statusCode : Int) : String :=
  if statusCode = 401 then "unauthorized"
  else if statusCode = 403 then "forbidden"
  else if statusCode = 429 then "rate_limited"
  else if statusCode = 404 then
    match b.source with
    | .dify .. => "dataset_unavailable"
    | .agentset .. => "namespace_unavailable"
  else "http_failed"

/-- `value.strip()` of a text. -/
def stripText (s : String) : String := .ofList (TaskState.strip s.toList)

/-- The media type of a response, without its parameters. -/
def mediaType (response : ServiceResponse) : String :=
  let contentType := ((response.headers.find? fun p => lib.lower p.1 = "content-type").map
    Prod.snd).getD ""
  lib.lower (stripText (.ofList (contentType.toList.takeWhile (· ≠ ';'))))

/-- The request that a question is posted with. -/
def providerRequest (question token : String) : ServiceRequest where
  method := "POST"
  url := b.endpoint ++ providerPath b
  headers := [("Authorization", "Bearer " ++ token), ("Content-Type", "application/json"),
      ("Accept", "application/json")] ++
    match b.tenantId with
    | none => []
    | some tenantId => [("x-tenant-id", tenantId)]
  body := lib.dumps (providerPayload b question)
  timeoutSeconds := ports.timeoutSeconds

/-- `ExternalKnowledgeHttp.post`. -/
def post (question : String) : RetrievalCall W Json := do
  let token ← Effect.attempt (bearerToken ports b) fun _ =>
    Effect.raise (knowledgeError "credential_unavailable")
  let request := providerRequest lib ports b question token
  note (.posted b.bindingId request)
  let response ← Effect.attempt (callPort (ports.request request)) fun _ =>
    Effect.raise (knowledgeError "transport_failed")
  Effect.require (response.statusCode = 200) (knowledgeError (failureReason b response.statusCode))
  Effect.require (mediaType lib response = "application/json") (knowledgeError "response_invalid")
  Effect.require (response.body.length ≤ ports.maxResponseBytes) (knowledgeError "response_too_large")
  let data ← Effect.ofExcept (orRaise (lib.loads response.body) (knowledgeError "response_invalid"))
  note (.answered b.bindingId request data)
  return data

/-- `query` of a provider. -/
def providerQuery (question : String) : RetrievalCall W (ExternalKnowledgeResult lib) := do
  Effect.ofExcept (validateQuery question)
  let data ← post lib ports b question
  Effect.ofExcept (orRaise (providerResult lib b question data) (knowledgeError "response_invalid"))

/-! ## The sources of an agent -/

/-- The bindings of an agent. -/
structure ExternalKnowledgeRuntime where
  bindings : List ExternalKnowledgeBinding
  few : bindings.length ≤ 5
  unique : (bindings.map (·.bindingId)).Nodup

/-- `ManifestKnowledgeAuthorityGuard.resolve`, of the bindings of a manifest. -/
def ExternalKnowledgeRuntime.resolve (packageSources : List String)
    (bindings : List ExternalKnowledgeBinding) : Except ReactError ExternalKnowledgeRuntime :=
  if packageSources ≠ [] then
    .error (.proofAgent "PA_CONFIG_002"
      "Embedded and shared manifest Knowledge bindings are not supported."
      "Configure external knowledge_bindings with a supported provider.")
  else if h : bindings.length ≤ 5 ∧ (bindings.map (·.bindingId)).Nodup then
    .ok { bindings, few := h.1, unique := h.2 }
  else
    .error (.proofAgent "PA_CONFIG_002"
      "Knowledge bindings require at most five unique binding IDs."
      "Remove duplicate or excess external bindings.")

/-- `ExternalKnowledgeRuntime.query`; of two bindings with one id, the later one has the provider. -/
def ExternalKnowledgeRuntime.query (sources : ExternalKnowledgeRuntime) (bindingId question : String) :
    RetrievalCall W (ExternalKnowledgeResult lib) :=
  match sources.bindings.reverse.find? fun b => b.bindingId = bindingId with
  | none => Effect.raise (.proofAgent "PA_KNOWLEDGE_002" "External Knowledge binding is unavailable."
      "Use a binding frozen in this Agent configuration.")
  | some b => providerQuery lib ports b question

end ProofAgent.Knowledge
