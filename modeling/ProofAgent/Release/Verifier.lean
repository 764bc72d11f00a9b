import ProofAgent.Release.GateEngine

/-! # The release verifier

A manifest is verified at an instant, with what is read of the artifacts of its evidence and
what their attestations claim. The decision is GO where nothing blocks it. -/
namespace ProofAgent.Release

open Base

inductive Decision where
  | go | noGo
  deriving DecidableEq

structure ReleaseDecision where
  decision : Decision
  candidateBindingSha256 : String
  checkedAt : Instant
  blockerCodes : List String
  deriving DecidableEq

structure VerifiedAttestationClaims where
  artifactSha256 : String
  candidateBindingSha256 : String
  gateResultSha256 : String
  deriving DecidableEq

/-- `VerifierInternalError`. -/
structure VerifierInternalError where
  message : String
  deriving DecidableEq

/-- What `artifact_reader.read` comes to. -/
inductive ReadOutcome where
  | bytes (artifact : Bytes)
  /-- Something else than bytes. -/
  | other
  /-- `ArtifactUnavailableError`, or another `OSError`. -/
  | unavailable
  | failed

/-- What `attestation_verifier.verify` comes to. -/
inductive AttestationOutcome where
  | claims (claims : VerifiedAttestationClaims)
  | invalid
  /-- `AttestationUnavailableError`. -/
  | unavailable
  /-- `AttestationVerificationError`. -/
  | error
  | failed
  deriving DecidableEq

abbrev ArtifactReader := EvidenceRef → ReadOutcome

abbrev AttestationVerifier := (result : GateResult) → (evidence : EvidenceRef) → (artifact : Bytes) →
  (candidateBindingSha256 : String) → AttestationOutcome

/-- `_DEPLOYMENT_WINDOW`. -/
def deploymentWindow : Int := seconds (24 * 60 * 60)

/-! ## Parts of the verification -/

/-- What is wrong with the instant. -/
def windowBlockers (generatedAt checkedAt : Instant) : List String :=
  if checkedAt < generatedAt then ["manifest.generated_in_future"]
  else blockIf (deploymentWindow < checkedAt - generatedAt) "deployment.window_expired"

/-- What is wrong with the gates that there are results of. -/
def gateBlockers (profile : GateProfile) (results : List GateResult) : List String :=
  let gateIds := results.map GateResult.gateId
  let required := profile.gates.map GateRule.gateId
  (duplicates gateIds).map ("gate.duplicate:" ++ ·) ++
  required.flatMap (fun gateId => blockIf (gateId ∉ gateIds) ("gate.missing:" ++ gateId)) ++
  gateIds.dedup.flatMap fun gateId => blockIf (gateId ∉ required) ("gate.unknown:" ++ gateId)

/-- `_verify_evidence_identity`. -/
def evidenceIdentityBlockers (evidence : List EvidenceRef) : List String :=
  (duplicates (evidence.map EvidenceRef.evidenceId)).map ("evidence.duplicate_id:" ++ ·) ++
  (duplicates (evidence.map EvidenceRef.uri)).map ("evidence.duplicate_uri:" ++ ·) ++
  (duplicates (evidence.map (·.digest.sha256))).map ("evidence.duplicate_digest:" ++ ·)

variable (digests : DigestLibrary)

/-- What is wrong with the attestation of an artifact. -/
def attestationBlockers (verifier : AttestationVerifier) (binding : String) (result : GateResult)
    (evidence : EvidenceRef) (artifact : Bytes) : Except VerifierInternalError (List String) :=
  match verifier result evidence artifact binding with
  | .unavailable => .ok ["evidence.attestation_unavailable:" ++ evidence.evidenceId]
  | .error => .ok ["evidence.attestation_error:" ++ evidence.evidenceId]
  | .failed => .error ⟨"unexpected attestation verifier failure"⟩
  | .invalid => .ok ["evidence.attestation_invalid:" ++ evidence.evidenceId]
  | .claims claims =>
    .ok (blockIf (claims ≠ ⟨digests.sha256Hex artifact, binding, digests.gateResultSha256 result⟩)
      ("evidence.attestation_claim_mismatch:" ++ evidence.evidenceId))

/-- `_verify_evidence_artifact`. -/
def verifyEvidenceArtifact (reader : ArtifactReader) (verifier : AttestationVerifier)
    (binding : String) (bindingsValid : Bool) (result : GateResult) (evidence : EvidenceRef) :
    Except VerifierInternalError (List String) :=
  match parseContentAddressedUri evidence.uri with
  | none => .ok ["evidence.uri_invalid:" ++ evidence.evidenceId]
  | some uriDigest =>
    if uriDigest ≠ evidence.digest.sha256 then
      .ok ["evidence.uri_digest_mismatch:" ++ evidence.evidenceId]
    else match reader evidence with
      | .unavailable => .ok ["evidence.unavailable:" ++ evidence.evidenceId]
      | .failed => .error ⟨"unexpected artifact reader failure"⟩
      | .other => .error ⟨"artifact reader returned non-bytes data"⟩
      | .bytes artifact =>
        let mismatches :=
          blockIf (artifact.length ≠ evidence.digest.length)
            ("evidence.length_mismatch:" ++ evidence.evidenceId) ++
          blockIf (digests.sha256Hex artifact ≠ evidence.digest.sha256)
            ("evidence.digest_mismatch:" ++ evidence.evidenceId)
        if mismatches ≠ [] ∨ bindingsValid = false then .ok mismatches
        else attestationBlockers digests verifier binding result evidence artifact

/-- The rule of a gate. -/
def GateProfile.rule? (profile : GateProfile) (gateId : String) : Option GateRule :=
  profile.gates.find? fun rule => rule.gateId = gateId

/-- What is wrong with an item of the evidence of a result. -/
def evidenceBlockers (reader : ArtifactReader) (verifier : AttestationVerifier) (generatedAt : Instant)
    (binding : String) (result : GateResult) (evidence : EvidenceRef) :
    Except VerifierInternalError (List String) := do
  let bindingsValid := result.candidateBindingSha256 = binding ∧ evidence.candidateBindingSha256 = binding
  let artifact ← verifyEvidenceArtifact digests reader verifier binding (decide bindingsValid) result evidence
  return blockIf (generatedAt < evidence.producedAt) ("evidence.produced_in_future:" ++ evidence.evidenceId) ++
    blockIf (evidence.candidateBindingSha256 ≠ binding) ("evidence.binding_mismatch:" ++ evidence.evidenceId) ++
    artifact

/-- What is wrong with a result at `checkedAt`. -/
def resultBlockers (profile : GateProfile) (reader : ArtifactReader) (verifier : AttestationVerifier)
    (manifest : ReleaseGateManifest) (checkedAt : Instant) (result : GateResult) :
    Except VerifierInternalError (List String) := do
  let binding := digests.candidateBindingSha256 manifest.candidate
  let evidence ← result.evidence.mapM
    (evidenceBlockers digests reader verifier manifest.generatedAt binding result)
  return blockIf (result.status ≠ .passed) ("gate.status:" ++ result.gateId ++ ":" ++ result.status.value) ++
    blockIf (result.candidateBindingSha256 ≠ binding) ("gate.binding_mismatch:" ++ result.gateId) ++
    result.blockerCodes.map ("gate.reported_blocker:" ++ result.gateId ++ ":" ++ ·) ++
    (match profile.rule? result.gateId with
      | none => []
      | some rule => gatePolicyBlockers rule digests profile manifest.candidate result.evidence
        result.metrics checkedAt) ++
    evidence.flatten

/-- The expiries that the rules require. -/
def requiredExpiries (profile : GateProfile) (results : List GateResult) : List Instant :=
  results.flatMap fun result => result.evidence.filterMap fun evidence => do
    let rule ← profile.rule? result.gateId
    let evidenceRule ← rule.evidenceRule? evidence.kind
    if evidenceRule.expiryRequired = true then evidence.expiresAt else none

/-- What is wrong with the earliest of the required expiries. -/
def expiryWindowBlockers (expiries : List Instant) (checkedAt : Instant) : List String :=
  match expiries.min? with
  | none => []
  | some earliest => blockIf (earliest ≤ checkedAt) "deployment.evidence_window_expired"

/-- `_verify_recovery_deployment_bindings`. -/
def recoveryBlockers (results : List GateResult) : List String :=
  match results.find? fun result => result.gateId = "deployment_recovery" with
  | none => []
  | some result =>
    ["topology_sha256", "backup_policy_sha256", "migration_set_sha256"].flatMap fun key =>
      match result.metrics.lookup ("recovery_" ++ key), result.metrics.lookup ("deployment_" ++ key) with
      | some (.str recovery), some (.str deployment) =>
        blockIf (recovery ≠ deployment) ("metric.binding_mismatch:deployment_recovery:recovery_" ++ key)
      | _, _ => []

/-! ## The decision -/

/-- `verify_release_manifest`, with a profile. -/
def verifyWith (profile : GateProfile) (manifest : ReleaseGateManifest) (checkedAt : Instant)
    (reader : ArtifactReader) (verifier : AttestationVerifier) :
    Except VerifierInternalError ReleaseDecision := do
  let results ← manifest.results.mapM
    (resultBlockers digests profile reader verifier manifest checkedAt)
  let blockers :=
    profileBlockers digests profile manifest.candidate ++
    windowBlockers manifest.generatedAt checkedAt ++
    gateBlockers profile manifest.results ++
    evidenceIdentityBlockers (manifest.results.flatMap GateResult.evidence) ++
    results.flatten ++
    expiryWindowBlockers (requiredExpiries profile manifest.results) checkedAt ++
    recoveryBlockers manifest.results
  let blockerCodes := sortedSet blockers
  return {
    decision := if blockerCodes = [] then .go else .noGo
    candidateBindingSha256 := digests.candidateBindingSha256 manifest.candidate
    checkedAt
    blockerCodes }

/-- `verify_release_manifest`. -/
def verifyReleaseManifest (manifest : ReleaseGateManifest) (checkedAt : Instant)
    (reader : ArtifactReader) (verifier : AttestationVerifier) :
    Except VerifierInternalError ReleaseDecision :=
  verifyWith digests initialPrivatePilotProfile manifest checkedAt reader verifier

end ProofAgent.Release
