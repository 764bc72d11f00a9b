import ProofAgent.Release.Contracts

/-! # The gate engine

The evidence and the metrics of a gate are held against its rule. Every finding is a
blocker, and a gate without blockers passes. -/
namespace ProofAgent.Release

open Base

/-! ## The gate profile

The profile `initial-private-pilot-v2` that the package carries. -/

/-- A metric that has to be true. -/
def required (key : String) : MetricRule :=
  { key, kind := .bool, comparison := .equal, expected := some (.bool true) }

/-- A count that has to be zero. -/
def noneOf (key : String) : MetricRule :=
  { key, kind := .int, comparison := .equal, expected := some (.int 0) }

/-- A digest that has to be that of a part of the candidate. -/
def boundTo (key : String) (target : BindingTarget) : MetricRule :=
  { key, kind := .sha256, comparison := .binding, failure := .bindingMismatch,
    bindingTarget := some target }

/-- A measurement from zero to a limit. -/
def atMost (key : String) (limit : Int) : MetricRule :=
  { key, kind := .number, comparison := .maximum, expected := some (.int limit),
    minimumAllowed := some (.int 0) }

/-- A number of samples. -/
def samples (key : String) (least : Int) : MetricRule :=
  { key, kind := .int, comparison := .minimum, expected := some (.int least),
    failure := .insufficientSample }

/-- A measurement from a limit on. -/
def atLeast (key : String) (least : Int) : MetricRule :=
  { key, kind := .number, comparison := .minimum, expected := some (.int least) }

/-- A digest of any value. -/
def anyDigest (key : String) : MetricRule := { key, kind := .sha256, comparison := .format }

def candidateIntegrity : GateRule where
  gateId := "candidate_integrity"
  evidence := [
    ⟨"candidate_quality", none, false⟩,
    ⟨"distribution_image", none, false⟩,
    ⟨"supply_chain_security", some 86400, true⟩]
  metrics := [
    { key := "quality_line_coverage_percent", kind := .number, comparison := .minimum, expected := some (.int 90), maximumAllowed := some (.int 100) },
    noneOf "quality_required_command_failures",
    noneOf "quality_required_integration_skips",
    required "distribution_clean_install_passed",
    required "distribution_image_readiness_passed",
    required "distribution_knowledge_service_clean_install_passed",
    required "distribution_knowledge_service_image_readiness_passed",
    noneOf "security_unresolved_critical_findings",
    noneOf "security_unresolved_high_findings",
    required "security_runtime_hardening_passed",
    required "security_sbom_present",
    required "security_provenance_verified",
    required "security_knowledge_service_runtime_hardening_passed",
    required "security_knowledge_service_sbom_present",
    required "security_knowledge_service_provenance_verified"]
  distinct := by decide +kernel

def accessSecurity : GateRule where
  gateId := "access_security"
  evidence := [
    ⟨"identity_authorization", some 259200, true⟩,
    ⟨"secrets_egress", some 259200, true⟩]
  metrics := [
    required "identity_required_checks_passed",
    required "secrets_egress_required_checks_passed"]
  distinct := by decide +kernel

def governedBehavior : GateRule where
  gateId := "governed_behavior"
  evidence := [
    ⟨"deterministic_evaluation", none, false⟩,
    ⟨"real_llm_evaluation", some 259200, true⟩]
  metrics := [
    noneOf "deterministic_required_case_failures",
    noneOf "deterministic_required_case_skips",
    noneOf "real_llm_required_case_failures",
    noneOf "real_llm_required_case_skips",
    samples "real_llm_sample_count" 1]
  distinct := by decide +kernel

def operationalReadiness : GateRule where
  gateId := "operational_readiness"
  evidence := [
    ⟨"dependency_compatibility", some 259200, true⟩,
    ⟨"capacity_responsiveness", some 259200, true⟩,
    ⟨"queue_progress", some 259200, true⟩,
    ⟨"browser_operations", some 259200, true⟩]
  metrics := [
    required "compatibility_postgresql_bound",
    required "compatibility_s3_bound",
    required "compatibility_oidc_bound",
    required "compatibility_secret_provider_bound",
    required "compatibility_gateway_bound",
    required "compatibility_model_bound",
    required "compatibility_knowledge_source_service_bound",
    required "compatibility_opensearch_bound",
    required "compatibility_knowledge_model_plane_bound",
    required "compatibility_tool_mode_bound",
    boundTo "compatibility_manifest_sha256" .deploymentCompatibilityManifest,
    boundTo "compatibility_knowledge_service_openapi_sha256" .knowledgeServiceOpenapiContract,
    { key := "capacity_online_sessions", kind := .int, comparison := .minimum, expected := some (.int 20) },
    { key := "capacity_active_attempts", kind := .int, comparison := .equal, expected := some (.int 5) },
    { key := "capacity_queued_runs", kind := .int, comparison := .equal, expected := some (.int 50) },
    required "capacity_overload_request_51_passed",
    atLeast "capacity_load_duration_seconds" 1800,
    samples "capacity_admission_sample_count" 200,
    samples "capacity_first_progress_sample_count" 200,
    samples "capacity_terminal_sample_count" 100,
    atMost "capacity_admission_p95_ms" 500,
    atMost "capacity_first_progress_p95_ms" 1000,
    atMost "capacity_free_slot_start_p95_ms" 1000,
    atMost "capacity_standard_terminal_p95_ms" 60000,
    atMost "capacity_max_attempt_terminal_ms" 120000,
    required "queue_required_checks_passed",
    atLeast "queue_soak_duration_seconds" 14400,
    required "browser_required_checks_passed",
    { key := "browser_pilot_operator_count", kind := .int, comparison := .minimum, expected := some (.int 3), maximumAllowed := some (.int 5) },
    atLeast "browser_support_window_seconds" 32400,
    { key := "browser_required_scenario_coverage_percent", kind := .number, comparison := .equal, expected := some (.int 100) }]
  distinct := by decide +kernel

def deploymentRecovery : GateRule where
  gateId := "deployment_recovery"
  evidence := [
    ⟨"fault", some 259200, true⟩,
    ⟨"combined_restore", some 2592000, true⟩,
    ⟨"blue_green", some 259200, true⟩]
  metrics := [
    required "fault_matrix_passed",
    { key := "recovery_reference_digest_verification_percent", kind := .number, comparison := .equal, expected := some (.int 100) },
    atMost "recovery_rpo_minutes" 15,
    atMost "recovery_rto_minutes" 240,
    anyDigest "recovery_topology_sha256",
    anyDigest "recovery_backup_policy_sha256",
    boundTo "recovery_migration_set_sha256" .migrationSet,
    boundTo "recovery_knowledge_service_migration_set_sha256" .knowledgeServiceMigrationSet,
    required "deployment_required_checks_passed",
    required "deployment_metadata_v2_transition_safe",
    atMost "deployment_drain_seconds" 150,
    atLeast "deployment_soak_seconds" 1800,
    anyDigest "deployment_topology_sha256",
    anyDigest "deployment_backup_policy_sha256",
    boundTo "deployment_migration_set_sha256" .migrationSet,
    boundTo "deployment_knowledge_service_migration_set_sha256" .knowledgeServiceMigrationSet,
    boundTo "deployment_compatibility_manifest_sha256" .deploymentCompatibilityManifest]
  distinct := by decide +kernel

/-- `INITIAL_PRIVATE_PILOT_PROFILE`. -/
def initialPrivatePilotProfile : GateProfile where
  gates := [candidateIntegrity, accessSecurity, governedBehavior, operationalReadiness, deploymentRecovery]

/-! ## The engine -/

/-- A blocker, if the condition holds. -/
def blockIf (p : Prop) [Decidable p] (code : String) : List String := if p then [code] else []

@[simp] theorem blockIf_eq_nil {p : Prop} [Decidable p] {code : String} : blockIf p code = [] ↔ ¬ p := by
  unfold blockIf
  split
  · rename_i hp
    exact ⟨nofun, fun h => absurd hp h⟩
  · rename_i hp
    exact ⟨fun _ => hp, fun _ => rfl⟩

/-- The values that a `Counter` counts more than once. -/
def duplicates (values : List String) : List String := values.dedup.filter fun v => 1 < values.count v

/-! ## Evidence -/

variable (rule : GateRule)

/-- What is wrong with the kinds and the ids of the evidence. -/
def kindBlockers (evidence : List EvidenceRef) : List String :=
  let actualKinds := evidence.map EvidenceRef.kind
  let allowedKinds := rule.evidence.map EvidenceRule.kind
  allowedKinds.flatMap (fun kind =>
    let count := actualKinds.count kind
    if count = 0 then ["evidence.missing:" ++ rule.gateId ++ ":" ++ kind]
    else blockIf (count ≠ 1) ("evidence.cardinality:" ++ rule.gateId ++ ":" ++ kind)) ++
  actualKinds.flatMap (fun kind =>
    blockIf (kind ∉ allowedKinds) ("evidence.kind_unknown:" ++ rule.gateId ++ ":" ++ kind)) ++
  (duplicates (evidence.map EvidenceRef.evidenceId)).map ("evidence.duplicate_id:" ++ ·)

/-- The rule of a kind. -/
def GateRule.evidenceRule? (kind : String) : Option EvidenceRule :=
  rule.evidence.find? fun item => item.kind = kind

/-- What is wrong with an item of the evidence at `evaluatedAt`. -/
def itemBlockers (expectedBinding : String) (evaluatedAt : Instant) (item : EvidenceRef) : List String :=
  blockIf (item.candidateBindingSha256 ≠ expectedBinding) ("evidence.binding_mismatch:" ++ item.evidenceId) ++
  blockIf (evaluatedAt < item.producedAt) ("evidence.produced_in_future:" ++ item.evidenceId) ++
  (match item.expiresAt with
    | none => []
    | some expiresAt =>
      blockIf (expiresAt ≤ item.producedAt)
        ("evidence.expiry_not_after_production:" ++ item.evidenceId) ++
      blockIf (expiresAt ≤ evaluatedAt) ("evidence.expired:" ++ item.evidenceId)) ++
  match rule.evidenceRule? item.kind with
  | none => []
  | some evidenceRule =>
    blockIf (evidenceRule.expiryRequired = true ∧ item.expiresAt = none)
      ("evidence.expiry_missing:" ++ item.evidenceId) ++
    match evidenceRule.maxAgeSeconds with
    | none => []
    | some maxAgeSeconds =>
      (match item.expiresAt with
        | none => []
        | some expiresAt =>
          blockIf (item.producedAt < expiresAt ∧ seconds maxAgeSeconds < expiresAt - item.producedAt)
            ("evidence.expiry_exceeds_policy:" ++ item.evidenceId)) ++
      blockIf (item.producedAt ≤ evaluatedAt ∧ seconds maxAgeSeconds ≤ evaluatedAt - item.producedAt)
        ("evidence.policy_stale:" ++ item.evidenceId)

/-! ## Metrics -/

/-- `_metric_type_matches`. -/
def metricTypeMatches (value : MetricValue) (metricRule : MetricRule) : Bool :=
  match metricRule.kind, value with
  | .bool, .bool _ => true
  | .int, .int _ => true
  | .number, .int _ => true
  | .number, .float _ => true
  | .sha256, .str s => isLowerSha256 s.toList
  | _, _ => false

/-- A number, as a decimal; a boolean is one as well. -/
def MetricValue.number : MetricValue → Option PyFloat
  | bool b => some (.ofDecimal false b.toNat 0)
  | int n => some (.ofDecimal (n < 0) n.natAbs 0)
  | float x => some x
  | str _ => none

/-- `x <= y`. -/
def decimalLe (x y : PyFloat) : Bool :=
  let exponent := min x.exponent y.exponent
  let scaled (z : PyFloat) : Int :=
    (if z.negative then -1 else 1) * (z.coefficient * 10 ^ (z.exponent - exponent).toNat : Nat)
  scaled x ≤ scaled y

/-- `value >= bound`, where the kinds of the profile make both of them numbers. -/
def MetricValue.atLeast (value bound : MetricValue) : Bool :=
  match value.number, bound.number with
  | some x, some y => decimalLe y x
  | _, _ => false

/-- `value == expected`. -/
def MetricValue.equals (value expected : MetricValue) : Bool :=
  match value, expected with
  | .str a, .str b => a = b
  | a, b => a.atLeast b && b.atLeast a

/-- The digest that a metric is bound to. -/
def expectedDigest (candidate : ProductionCandidateBinding) : BindingTarget → String
  | .migrationSet => candidate.migrationSet.sha256
  | .knowledgeServiceMigrationSet => candidate.knowledgeSourceService.migrationSet.sha256
  | .knowledgeServiceOpenapiContract => candidate.knowledgeSourceService.openapiContract.sha256
  | .deploymentCompatibilityManifest => candidate.deploymentCompatibilityManifest.sha256

/-- `_metric_satisfies`. -/
def metricSatisfies (value : MetricValue) (metricRule : MetricRule)
    (candidate : ProductionCandidateBinding) : Bool :=
  let within (holds : MetricValue → Bool) : Option MetricValue → Bool
    | none => true
    | some bound => holds bound
  match metricRule.comparison with
  | .format => true
  | .binding =>
    match metricRule.bindingTarget with
    | none => false
    | some target => value.equals (.str (expectedDigest candidate target))
  | .equal =>
    match metricRule.expected with
    | none => false
    | some expected => value.equals expected
  | .minimum =>
    within (value.atLeast ·) metricRule.minimumAllowed && within (·.atLeast value) metricRule.maximumAllowed &&
      within (value.atLeast ·) metricRule.expected
  | .maximum =>
    within (value.atLeast ·) metricRule.minimumAllowed && within (·.atLeast value) metricRule.maximumAllowed &&
      within (·.atLeast value) metricRule.expected

/-- What is wrong with the metrics. -/
def metricBlockers (candidate : ProductionCandidateBinding) (metrics : List (String × MetricValue)) :
    List String :=
  metrics.flatMap (fun metric => blockIf (metric.1 ∉ rule.metrics.map MetricRule.key)
    ("metric.unknown:" ++ rule.gateId ++ ":" ++ metric.1)) ++
  rule.metrics.flatMap fun metricRule =>
    match metrics.lookup metricRule.key with
    | none => ["metric.missing:" ++ rule.gateId ++ ":" ++ metricRule.key]
    | some value =>
      if metricTypeMatches value metricRule = false then
        ["metric.type_mismatch:" ++ rule.gateId ++ ":" ++ metricRule.key]
      else blockIf (metricSatisfies value metricRule candidate = false)
        ("metric." ++ metricRule.failure.value ++ ":" ++ rule.gateId ++ ":" ++ metricRule.key)

/-! ## Gates -/

variable (digests : DigestLibrary)

/-- What is wrong with the profile that a candidate is bound to. -/
def profileBlockers (profile : GateProfile) (candidate : ProductionCandidateBinding) : List String :=
  let packaged := digests.digestRef (digests.canonicalJsonBytes profile.json)
  blockIf (candidate.gateProfile.sha256 ≠ packaged.sha256) "profile.sha256_mismatch" ++
  blockIf (candidate.gateProfile.length ≠ packaged.length) "profile.length_mismatch"

/-- `_collect_policy_blockers`. -/
def collectPolicyBlockers (profile : GateProfile) (candidate : ProductionCandidateBinding)
    (evidence : List EvidenceRef) (metrics : List (String × MetricValue)) (evaluatedAt : Instant) :
    List String :=
  profileBlockers digests profile candidate ++ kindBlockers rule evidence ++
    evidence.flatMap (itemBlockers rule (digests.candidateBindingSha256 candidate) evaluatedAt) ++
    metricBlockers rule candidate metrics

/-- `gate_policy_blockers`, for the rule of the gate. -/
def gatePolicyBlockers (profile : GateProfile) (candidate : ProductionCandidateBinding)
    (evidence : List EvidenceRef) (metrics : List (String × MetricValue)) (evaluatedAt : Instant) :
    List String :=
  sortedSet (collectPolicyBlockers rule digests profile candidate evidence metrics evaluatedAt)

end ProofAgent.Release
