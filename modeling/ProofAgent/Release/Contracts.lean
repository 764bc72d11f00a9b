import ProofAgent.Base.PyValue

/-! # Release contracts

A candidate, the results of its gates with their evidence, the manifest that holds them, and
the rules of a gate profile. -/
namespace ProofAgent.Release

open Base

abbrev Bytes := List UInt8

/-! ## Enumerations -/

inductive GateStatus where
  | passed | failed | skipped | error | notRun
  deriving DecidableEq

def GateStatus.value : GateStatus → String
  | passed => "passed"
  | failed => "failed"
  | skipped => "skipped"
  | error => "error"
  | notRun => "not_run"

inductive MetricKind where
  | bool | int | number | sha256
  deriving DecidableEq

def MetricKind.value : MetricKind → String
  | bool => "bool"
  | int => "int"
  | number => "number"
  | sha256 => "sha256"

inductive MetricComparison where
  | equal | minimum | maximum | binding | format
  deriving DecidableEq

def MetricComparison.value : MetricComparison → String
  | equal => "equal"
  | minimum => "minimum"
  | maximum => "maximum"
  | binding => "binding"
  | format => "format"

inductive MetricFailure where
  | thresholdMissed | insufficientSample | bindingMismatch
  deriving DecidableEq

def MetricFailure.value : MetricFailure → String
  | thresholdMissed => "threshold_missed"
  | insufficientSample => "insufficient_sample"
  | bindingMismatch => "binding_mismatch"

inductive BindingTarget where
  | migrationSet | knowledgeServiceMigrationSet | knowledgeServiceOpenapiContract
  | deploymentCompatibilityManifest
  deriving DecidableEq

def BindingTarget.value : BindingTarget → String
  | migrationSet => "migration_set"
  | knowledgeServiceMigrationSet => "knowledge_service_migration_set"
  | knowledgeServiceOpenapiContract => "knowledge_service_openapi_contract"
  | deploymentCompatibilityManifest => "deployment_compatibility_manifest"

/-- A metric; a float is finite. -/
inductive MetricValue where
  | bool (value : Bool)
  | int (value : Int)
  | float (value : PyFloat)
  | str (value : String)
  deriving DecidableEq

/-! ## Candidates and results -/

structure DigestRef where
  sha256 : String
  length : Nat
  deriving DecidableEq

structure KnowledgeServiceCandidateBinding where
  productVersion : String
  ociDigest : String
  pythonDistribution : DigestRef
  migrationSet : DigestRef
  openapiContract : DigestRef
  deriving DecidableEq

structure ProductionCandidateBinding where
  sourceCommit : String
  productVersion : String
  ociDigest : String
  pythonDistribution : DigestRef
  dashboardAssets : DigestRef
  operatorChatAssets : DigestRef
  migrationSet : DigestRef
  knowledgeSourceService : KnowledgeServiceCandidateBinding
  agentVersion : String
  agentBundle : DigestRef
  evaluationContract : DigestRef
  configurationSnapshot : DigestRef
  gateProfile : DigestRef
  deploymentCompatibilityManifest : DigestRef
  deriving DecidableEq

structure EvidenceRef where
  evidenceId : String
  kind : String
  uri : String
  digest : DigestRef
  candidateBindingSha256 : String
  producedAt : Instant
  expiresAt : Option Instant
  deriving DecidableEq

structure GateResult where
  gateId : String
  status : GateStatus
  candidateBindingSha256 : String
  evidence : List EvidenceRef
  metrics : List (String × MetricValue)
  blockerCodes : List String
  deriving DecidableEq

/-- A manifest; its gate ids are unique. -/
structure ReleaseGateManifest where
  candidate : ProductionCandidateBinding
  results : List GateResult
  generatedAt : Instant
  distinct : (results.map GateResult.gateId).Nodup

/-! ## Rules -/

structure EvidenceRule where
  kind : String
  maxAgeSeconds : Option Nat
  expiryRequired : Bool
  deriving DecidableEq

structure MetricRule where
  key : String
  kind : MetricKind
  comparison : MetricComparison
  expected : Option MetricValue := none
  failure : MetricFailure := .thresholdMissed
  bindingTarget : Option BindingTarget := none
  minimumAllowed : Option MetricValue := none
  maximumAllowed : Option MetricValue := none
  deriving DecidableEq

/-- The rule of a gate; the kinds of its evidence are unique. -/
structure GateRule where
  gateId : String
  evidence : List EvidenceRule
  metrics : List MetricRule
  distinct : (evidence.map EvidenceRule.kind).Nodup

structure GateProfile where
  gates : List GateRule

/-! ## Dumps -/

def DigestRef.json (d : DigestRef) : Json :=
  .obj [("sha256", .str d.sha256), ("length", .int d.length)]

def MetricValue.json : MetricValue → Json
  | bool b => .bool b
  | int n => .int n
  | float x => .float x
  | str s => .str s

def optional {α : Type} (dump : α → Json) : Option α → Json
  | none => .null
  | some a => dump a

def KnowledgeServiceCandidateBinding.json (k : KnowledgeServiceCandidateBinding) : Json :=
  .obj [("product_version", .str k.productVersion), ("oci_digest", .str k.ociDigest),
    ("python_distribution", k.pythonDistribution.json), ("migration_set", k.migrationSet.json),
    ("openapi_contract", k.openapiContract.json)]

def ProductionCandidateBinding.json (c : ProductionCandidateBinding) : Json :=
  .obj [("schema_version", .str "proofagent.candidate-binding.v2"),
    ("source_commit", .str c.sourceCommit), ("clean_tree", .bool true),
    ("product_version", .str c.productVersion), ("oci_digest", .str c.ociDigest),
    ("python_distribution", c.pythonDistribution.json),
    ("dashboard_assets", c.dashboardAssets.json),
    ("operator_chat_assets", c.operatorChatAssets.json),
    ("migration_set", c.migrationSet.json),
    ("knowledge_source_service", c.knowledgeSourceService.json),
    ("agent_id", .str "agent_management_insurance_specialist"),
    ("agent_version", .str c.agentVersion), ("agent_bundle", c.agentBundle.json),
    ("evaluation_contract", c.evaluationContract.json),
    ("configuration_snapshot", c.configurationSnapshot.json),
    ("gate_profile", c.gateProfile.json),
    ("deployment_compatibility_manifest", c.deploymentCompatibilityManifest.json)]

def EvidenceRef.json (e : EvidenceRef) : Json :=
  .obj [("evidence_id", .str e.evidenceId), ("kind", .str e.kind), ("uri", .str e.uri),
    ("digest", e.digest.json), ("candidate_binding_sha256", .str e.candidateBindingSha256),
    ("produced_at", .time e.producedAt), ("expires_at", optional .time e.expiresAt)]

def GateResult.json (r : GateResult) : Json :=
  .obj [("gate_id", .str r.gateId), ("status", .str r.status.value),
    ("candidate_binding_sha256", .str r.candidateBindingSha256),
    ("evidence", .arr (r.evidence.map EvidenceRef.json)),
    ("metrics", .obj (r.metrics.map fun m => (m.1, m.2.json))),
    ("blocker_codes", .arr (r.blockerCodes.map .str))]

def EvidenceRule.json (r : EvidenceRule) : Json :=
  .obj [("kind", .str r.kind), ("max_age_seconds", optional (fun n : Nat => .int n) r.maxAgeSeconds),
    ("expiry_required", .bool r.expiryRequired)]

def MetricRule.json (r : MetricRule) : Json :=
  .obj [("key", .str r.key), ("kind", .str r.kind.value), ("comparison", .str r.comparison.value),
    ("expected", optional MetricValue.json r.expected), ("failure", .str r.failure.value),
    ("binding_target", optional (fun t : BindingTarget => .str t.value) r.bindingTarget),
    ("minimum_allowed", optional MetricValue.json r.minimumAllowed),
    ("maximum_allowed", optional MetricValue.json r.maximumAllowed)]

def GateRule.json (r : GateRule) : Json :=
  .obj [("gate_id", .str r.gateId), ("evidence", .arr (r.evidence.map EvidenceRule.json)),
    ("metrics", .arr (r.metrics.map MetricRule.json))]

def GateProfile.json (p : GateProfile) : Json :=
  .obj [("schema_version", .str "proofagent.gate-profile.v2"),
    ("profile_id", .str "initial-private-pilot-v2"), ("gates", .arr (p.gates.map GateRule.json))]

/-! ## Digests -/

/-- The functions that digests are made with. -/
structure DigestLibrary where
  sha256Hex : Bytes → String
  canonicalJsonBytes : Json → Bytes

variable (digests : DigestLibrary)

/-- `digest_ref`. -/
def DigestLibrary.digestRef (data : Bytes) : DigestRef := ⟨digests.sha256Hex data, data.length⟩

/-- `candidate_binding_sha256`. -/
def DigestLibrary.candidateBindingSha256 (candidate : ProductionCandidateBinding) : String :=
  digests.sha256Hex (digests.canonicalJsonBytes candidate.json)

/-- `gate_result_sha256`. -/
def DigestLibrary.gateResultSha256 (result : GateResult) : String :=
  digests.sha256Hex (digests.canonicalJsonBytes result.json)

/-- `[0-9a-f]{64}`. -/
def isLowerSha256 (text : List Char) : Bool :=
  text.length = 64 && text.all fun c => ('0' ≤ c && c ≤ '9') || ('a' ≤ c && c ≤ 'f')

/-- `parse_content_addressed_uri`; `none` where it raises. -/
def parseContentAddressedUri (uri : String) : Option String :=
  match uri.toList.dropPrefix? "artifact://sha256/".toList with
  | some rest => if isLowerSha256 rest = true then some (String.ofList rest) else none
  | none => none

end ProofAgent.Release
