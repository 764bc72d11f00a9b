import ProofAgent.Release.GoWindow

/-! # Laws of the decision

The GO times of a manifest are an interval from its generation on. Rearranging the results
changes no decision, and rearranging the evidence of a result changes it through its
attestations only, which are of a digest of the whole result. -/
namespace ProofAgent.Release

open Base

/-! ## Findings that do not depend on an order -/

theorem duplicates_eq_nil_iff {values : List String} : duplicates values = [] ↔ values.Nodup := by
  unfold duplicates
  rw [List.filter_eq_nil_iff, List.nodup_iff_count_le_one]
  constructor
  · intro h value
    by_cases hvalue : value ∈ values
    · have hcount := h value (List.mem_dedup.mpr hvalue)
      rw [decide_eq_true_iff] at hcount
      exact not_lt.mp hcount
    · rw [List.count_eq_zero_of_not_mem hvalue]
      exact Nat.zero_le _
  · intro h value _
    rw [decide_eq_true_iff]
    exact not_lt.mpr (h value)

theorem gateBlockers_eq_nil_iff {profile : GateProfile} {results : List GateResult} :
    gateBlockers profile results = [] ↔ (results.map GateResult.gateId).Nodup ∧
      (∀ gateId ∈ profile.gates.map GateRule.gateId, gateId ∈ results.map GateResult.gateId) ∧
      ∀ gateId ∈ results.map GateResult.gateId, gateId ∈ profile.gates.map GateRule.gateId := by
  unfold gateBlockers
  dsimp only
  rw [List.append_eq_nil_iff, List.append_eq_nil_iff, List.map_eq_nil_iff, duplicates_eq_nil_iff,
    List.flatMap_eq_nil_iff, List.flatMap_eq_nil_iff, and_assoc]
  simp only [blockIf_eq_nil, not_not, List.mem_dedup]

theorem evidenceIdentityBlockers_eq_nil_iff {evidence : List EvidenceRef} :
    evidenceIdentityBlockers evidence = [] ↔ (evidence.map EvidenceRef.evidenceId).Nodup ∧
      (evidence.map EvidenceRef.uri).Nodup ∧ (evidence.map (·.digest.sha256)).Nodup := by
  unfold evidenceIdentityBlockers
  rw [List.append_eq_nil_iff, List.append_eq_nil_iff, List.map_eq_nil_iff, List.map_eq_nil_iff,
    List.map_eq_nil_iff, duplicates_eq_nil_iff, duplicates_eq_nil_iff, duplicates_eq_nil_iff, and_assoc]

theorem kindBlockers_eq_nil_iff {rule : GateRule} {evidence : List EvidenceRef} :
    kindBlockers rule evidence = [] ↔
      (∀ kind ∈ rule.evidence.map EvidenceRule.kind, (evidence.map EvidenceRef.kind).count kind = 1) ∧
      (∀ kind ∈ evidence.map EvidenceRef.kind, kind ∈ rule.evidence.map EvidenceRule.kind) ∧
      (evidence.map EvidenceRef.evidenceId).Nodup := by
  have hone : ∀ kind, (if (evidence.map EvidenceRef.kind).count kind = 0 then
        ["evidence.missing:" ++ rule.gateId ++ ":" ++ kind]
      else blockIf ((evidence.map EvidenceRef.kind).count kind ≠ 1)
        ("evidence.cardinality:" ++ rule.gateId ++ ":" ++ kind)) = [] ↔
      (evidence.map EvidenceRef.kind).count kind = 1 := by
    intro kind
    split
    · rename_i hzero
      exact ⟨fun h => absurd h (List.cons_ne_nil _ _), fun h => by omega⟩
    · rw [blockIf_eq_nil, not_not]
  unfold kindBlockers
  dsimp only
  rw [List.append_eq_nil_iff, List.append_eq_nil_iff, List.map_eq_nil_iff, duplicates_eq_nil_iff,
    List.flatMap_eq_nil_iff, List.flatMap_eq_nil_iff, and_assoc]
  simp only [hone, blockIf_eq_nil, not_not]

/-- What is wrong with the metrics that bind a recovery to its deployment. -/
def recoveryResultBlockers (result : GateResult) : List String :=
  ["topology_sha256", "backup_policy_sha256", "migration_set_sha256"].flatMap fun key =>
    match result.metrics.lookup ("recovery_" ++ key), result.metrics.lookup ("deployment_" ++ key) with
    | some (.str recovery), some (.str deployment) =>
      blockIf (recovery ≠ deployment) ("metric.binding_mismatch:deployment_recovery:recovery_" ++ key)
    | _, _ => []

theorem recoveryBlockers_eq_nil_iff {results : List GateResult}
    (hdistinct : (results.map GateResult.gateId).Nodup) :
    recoveryBlockers results = [] ↔ ∀ result ∈ results, result.gateId = "deployment_recovery" →
      recoveryResultBlockers result = [] := by
  unfold recoveryBlockers
  cases hfind : results.find? fun result => result.gateId = "deployment_recovery" with
  | none =>
    refine ⟨fun _ result hresult hid => ?_, fun _ => rfl⟩
    have hnone := List.find?_eq_none.mp hfind result hresult
    rw [decide_eq_true hid] at hnone
    exact absurd rfl hnone
  | some found =>
    have hfound := List.mem_of_find?_eq_some hfind
    have hid := List.find?_some hfind
    rw [decide_eq_true_iff] at hid
    refine ⟨fun h result hresult hsame => ?_, fun h => h found hfound hid⟩
    rw [List.inj_on_of_nodup_map hdistinct hresult hfound (hsame.trans hid.symm)]
    exact h

/-! ## Rearranging -/

/-- A result with its evidence in another order. -/
def Rearranged (result other : GateResult) : Prop :=
  other = { result with evidence := other.evidence } ∧ other.evidence.Perm result.evidence

/-- A manifest with its results, and the evidence in them, in another order. -/
structure RearrangedBy (rearrange : GateResult → GateResult) (manifest other : ReleaseGateManifest) :
    Prop where
  candidate : other.candidate = manifest.candidate
  generatedAt : other.generatedAt = manifest.generatedAt
  each : ∀ result ∈ manifest.results, Rearranged result (rearrange result)
  results : other.results.Perm (manifest.results.map rearrange)

/-- A verifier to which it is the same, for the evidence of a manifest, whether an attestation
is of a result or of the rearranged one. -/
def AttestsAlike (digests : DigestLibrary) (verifier : AttestationVerifier)
    (manifest : ReleaseGateManifest) (rearrange : GateResult → GateResult) : Prop :=
  ∀ result ∈ manifest.results, ∀ item ∈ result.evidence, ∀ artifact,
    attestationBlockers digests verifier (digests.candidateBindingSha256 manifest.candidate)
      (rearrange result) item artifact = .ok [] ↔
    attestationBlockers digests verifier (digests.candidateBindingSha256 manifest.candidate)
      result item artifact = .ok []

section
variable {digests : DigestLibrary} {profile : GateProfile} {reader : ArtifactReader}
  {verifier : AttestationVerifier} {manifest other : ReleaseGateManifest}
  {rearrange : GateResult → GateResult} {result : GateResult} {item : EvidenceRef}

theorem verifyEvidenceArtifact_congr {binding : String} {valid : Bool} {result' : GateResult}
    (h : ∀ artifact, attestationBlockers digests verifier binding result' item artifact = .ok [] ↔
      attestationBlockers digests verifier binding result item artifact = .ok []) :
    verifyEvidenceArtifact digests reader verifier binding valid result' item = .ok [] ↔
      verifyEvidenceArtifact digests reader verifier binding valid result item = .ok [] := by
  unfold verifyEvidenceArtifact
  split
  · rfl
  · split
    · rfl
    · split
      · rfl
      · rfl
      · rfl
      · dsimp only
        split
        · rfl
        · exact h _

theorem evidenceBlockers_congr {binding : String} {generatedAt : Instant} {result' : GateResult}
    (hbinding : result'.candidateBindingSha256 = result.candidateBindingSha256)
    (h : ∀ artifact, attestationBlockers digests verifier binding result' item artifact = .ok [] ↔
      attestationBlockers digests verifier binding result item artifact = .ok []) :
    evidenceBlockers digests reader verifier generatedAt binding result' item = .ok [] ↔
      evidenceBlockers digests reader verifier generatedAt binding result item = .ok [] := by
  have hsplit : ∀ r : GateResult,
      evidenceBlockers digests reader verifier generatedAt binding r item = .ok [] ↔
      ¬ generatedAt < item.producedAt ∧ ¬ item.candidateBindingSha256 ≠ binding ∧
        verifyEvidenceArtifact digests reader verifier binding (decide (r.candidateBindingSha256 = binding ∧
          item.candidateBindingSha256 = binding)) r item = .ok [] := by
    intro r
    unfold evidenceBlockers
    dsimp only
    rw [bind_clean]
    simp only [List.append_eq_nil_iff, blockIf_eq_nil]
    constructor
    · rintro ⟨found, hfound, ⟨hproduced, hbound⟩, rfl⟩
      exact ⟨hproduced, hbound, hfound⟩
    · rintro ⟨hproduced, hbound, hfound⟩
      exact ⟨[], hfound, ⟨hproduced, hbound⟩, rfl⟩
  rw [hsplit, hsplit, hbinding, verifyEvidenceArtifact_congr h]

theorem timelessResult_rearranged (h : RearrangedBy rearrange manifest other)
    (hattests : AttestsAlike digests verifier manifest rearrange) (hresult : result ∈ manifest.results) :
    TimelessResult digests profile reader verifier other (rearrange result) ↔
      TimelessResult digests profile reader verifier manifest result := by
  have heach := h.each result hresult
  obtain ⟨hsame, hperm⟩ := heach
  have hstatus : (rearrange result).status = result.status := by rw [hsame]
  have hgate : (rearrange result).gateId = result.gateId := by rw [hsame]
  have hbinding : (rearrange result).candidateBindingSha256 = result.candidateBindingSha256 := by rw [hsame]
  have hcodes : (rearrange result).blockerCodes = result.blockerCodes := by rw [hsame]
  have hmetrics : (rearrange result).metrics = result.metrics := by rw [hsame]
  have hkinds : ∀ rule : GateRule,
      kindBlockers rule (rearrange result).evidence = [] ↔ kindBlockers rule result.evidence = [] := by
    intro rule
    rw [kindBlockers_eq_nil_iff, kindBlockers_eq_nil_iff]
    simp only [(hperm.map EvidenceRef.kind).count_eq, (hperm.map EvidenceRef.kind).mem_iff,
      (hperm.map EvidenceRef.evidenceId).nodup_iff]
  have hevidence : ∀ item ∈ result.evidence,
      evidenceBlockers digests reader verifier manifest.generatedAt
        (digests.candidateBindingSha256 manifest.candidate) (rearrange result) item = .ok [] ↔
      evidenceBlockers digests reader verifier manifest.generatedAt
        (digests.candidateBindingSha256 manifest.candidate) result item = .ok [] := fun item hitem =>
    evidenceBlockers_congr hbinding (hattests result hresult item hitem)
  constructor
  · rintro ⟨h₁, h₂, h₃, h₄, h₅⟩
    rw [hstatus] at h₁
    rw [hbinding, h.candidate] at h₂
    rw [hcodes] at h₃
    rw [hgate, h.candidate, hmetrics] at h₄
    rw [h.generatedAt, h.candidate] at h₅
    refine ⟨h₁, h₂, h₃, fun rule hrule => ?_, fun item hitem => ?_⟩
    · obtain ⟨hpackaged, hkind, hmetric, hitems⟩ := h₄ rule hrule
      exact ⟨hpackaged, (hkinds rule).mp hkind, hmetric,
        fun item hitem => hitems item (hperm.mem_iff.mpr hitem)⟩
    · exact (hevidence item hitem).mp (h₅ item (hperm.mem_iff.mpr hitem))
  · rintro ⟨h₁, h₂, h₃, h₄, h₅⟩
    refine ⟨hstatus.trans h₁, ?_, hcodes.trans h₃, fun rule hrule => ?_, fun item hitem => ?_⟩
    · rw [hbinding, h.candidate]
      exact h₂
    · rw [hgate] at hrule
      obtain ⟨hpackaged, hkind, hmetric, hitems⟩ := h₄ rule hrule
      rw [h.candidate, hmetrics]
      exact ⟨hpackaged, (hkinds rule).mpr hkind, hmetric,
        fun item hitem => hitems item (hperm.mem_iff.mp hitem)⟩
    · rw [h.generatedAt, h.candidate]
      exact (hevidence item (hperm.mem_iff.mp hitem)).mpr (h₅ item (hperm.mem_iff.mp hitem))

/-- What holds of every result of the rearranged manifest. -/
theorem RearrangedBy.forall_results (h : RearrangedBy rearrange manifest other) {P : GateResult → Prop} :
    (∀ result ∈ other.results, P result) ↔ ∀ result ∈ manifest.results, P (rearrange result) := by
  simp only [h.results.mem_iff, List.forall_mem_map]

theorem RearrangedBy.gateIds (h : RearrangedBy rearrange manifest other) :
    (other.results.map GateResult.gateId).Perm (manifest.results.map GateResult.gateId) := by
  refine (h.results.map GateResult.gateId).trans (List.Perm.of_eq ?_)
  rw [List.map_map]
  refine List.map_congr_left fun result hresult => ?_
  have hsame := (h.each result hresult).1
  rw [Function.comp_apply, hsame]

theorem RearrangedBy.evidence (h : RearrangedBy rearrange manifest other) :
    (other.results.flatMap GateResult.evidence).Perm (manifest.results.flatMap GateResult.evidence) := by
  refine (h.results.flatMap_right GateResult.evidence).trans ?_
  have heach := h.each
  generalize manifest.results = results at heach
  induction results with
  | nil => exact .refl _
  | cons result results ih =>
    rw [List.map_cons, List.flatMap_cons, List.flatMap_cons]
    exact (heach result List.mem_cons_self).2.append
      (ih fun other hother => heach other (List.mem_cons_of_mem _ hother))

theorem timelessChecks_rearranged (h : RearrangedBy rearrange manifest other)
    (hattests : AttestsAlike digests verifier manifest rearrange) :
    TimelessChecks digests profile reader verifier other ↔
      TimelessChecks digests profile reader verifier manifest := by
  have hgates : gateBlockers profile other.results = [] ↔ gateBlockers profile manifest.results = [] := by
    rw [gateBlockers_eq_nil_iff, gateBlockers_eq_nil_iff, h.gateIds.nodup_iff]
    simp only [h.gateIds.mem_iff]
  have hidentity : evidenceIdentityBlockers (other.results.flatMap GateResult.evidence) = [] ↔
      evidenceIdentityBlockers (manifest.results.flatMap GateResult.evidence) = [] := by
    rw [evidenceIdentityBlockers_eq_nil_iff, evidenceIdentityBlockers_eq_nil_iff,
      (h.evidence.map EvidenceRef.evidenceId).nodup_iff, (h.evidence.map EvidenceRef.uri).nodup_iff,
      (h.evidence.map (·.digest.sha256)).nodup_iff]
  have hrecovery : recoveryBlockers other.results = [] ↔ recoveryBlockers manifest.results = [] := by
    rw [recoveryBlockers_eq_nil_iff other.distinct, recoveryBlockers_eq_nil_iff manifest.distinct,
      h.forall_results]
    refine forall₂_congr fun result hresult => ?_
    have hsame := (h.each result hresult).1
    have hgate : (rearrange result).gateId = result.gateId := by rw [hsame]
    have hmetrics : (rearrange result).metrics = result.metrics := by rw [hsame]
    unfold recoveryResultBlockers
    rw [hgate, hmetrics]
  have hresults : (∀ result ∈ other.results, TimelessResult digests profile reader verifier other result) ↔
      ∀ result ∈ manifest.results, TimelessResult digests profile reader verifier manifest result := by
    rw [h.forall_results]
    exact forall₂_congr fun result hresult => timelessResult_rearranged h hattests hresult
  constructor
  · rintro ⟨h₁, h₂, h₃, h₄, h₅⟩
    rw [h.candidate] at h₁
    exact ⟨h₁, hgates.mp h₂, hidentity.mp h₃, hrecovery.mp h₄, hresults.mp h₅⟩
  · rintro ⟨h₁, h₂, h₃, h₄, h₅⟩
    rw [← h.candidate] at h₁
    exact ⟨h₁, hgates.mpr h₂, hidentity.mpr h₃, hrecovery.mpr h₄, hresults.mpr h₅⟩

theorem inWindow_rearranged (h : RearrangedBy rearrange manifest other) {checkedAt : Instant} :
    InWindow profile other checkedAt ↔ InWindow profile manifest checkedAt := by
  have hunexpired : ∀ result ∈ manifest.results, ∀ {P : EvidenceRef → Prop},
      (∀ item ∈ (rearrange result).evidence, P item) ↔ ∀ item ∈ result.evidence, P item := by
    intro result hresult P
    simp only [(h.each result hresult).2.mem_iff]
  have hgate : ∀ result ∈ manifest.results, (rearrange result).gateId = result.gateId := by
    intro result hresult
    rw [(h.each result hresult).1]
  constructor
  · rintro ⟨h₁, h₂, h₃, h₄⟩
    rw [h.generatedAt] at h₁ h₂
    rw [h.forall_results] at h₃ h₄
    refine ⟨h₁, h₂, fun result hresult => (hunexpired result hresult).mp (h₃ result hresult),
      fun result hresult => ?_⟩
    have hfresh := h₄ result hresult
    rw [hgate result hresult] at hfresh
    exact (hunexpired result hresult).mp hfresh
  · rintro ⟨h₁, h₂, h₃, h₄⟩
    rw [← h.generatedAt] at h₁ h₂
    refine ⟨h₁, h₂, h.forall_results.mpr fun result hresult =>
      (hunexpired result hresult).mpr (h₃ result hresult),
      h.forall_results.mpr fun result hresult => ?_⟩
    rw [hgate result hresult]
    exact (hunexpired result hresult).mpr (h₄ result hresult)

/-- **Rearranging** a manifest changes no decision, where the attestations are alike. -/
theorem goAt_rearranged (h : RearrangedBy rearrange manifest other)
    (hattests : AttestsAlike digests verifier manifest rearrange) (checkedAt : Instant) :
    GoAt digests profile reader verifier other checkedAt ↔
      GoAt digests profile reader verifier manifest checkedAt := by
  rw [goAt_iff, goAt_iff, timelessChecks_rearranged h hattests, inWindow_rearranged h]

end

/-! ## Returning -/

/-- Checks of which none raises. -/
theorem mapM_returns {α β ε : Type} {f : α → Except ε β} : ∀ (xs : List α),
    (∀ x ∈ xs, ∃ y, f x = .ok y) → ∃ ys, xs.mapM f = .ok ys
  | [], _ => ⟨[], rfl⟩
  | x :: xs, h => by
    obtain ⟨y, hy⟩ := h x List.mem_cons_self
    obtain ⟨ys, hys⟩ := mapM_returns xs fun x' hx' => h x' (List.mem_cons_of_mem _ hx')
    refine ⟨y :: ys, ?_⟩
    rw [List.mapM_cons, hy, hys]
    rfl

/-- The verification returns, where artifacts are read and attestations verified or refused. -/
theorem verifyWith_returns {digests : DigestLibrary} {profile : GateProfile} {reader : ArtifactReader}
    {verifier : AttestationVerifier} {manifest : ReleaseGateManifest} {checkedAt : Instant}
    (hreader : ∀ item, ∃ artifact, reader item = .bytes artifact)
    (hverifier : ∀ result item artifact binding, verifier result item artifact binding ≠ .failed) :
    ∃ decision, verifyWith digests profile manifest checkedAt reader verifier = .ok decision := by
  have hattestation : ∀ binding result item artifact,
      ∃ found, attestationBlockers digests verifier binding result item artifact = .ok found := by
    intro binding result item artifact
    unfold attestationBlockers
    cases houtcome : verifier result item artifact binding with
    | failed => exact absurd houtcome (hverifier result item artifact binding)
    | claims | invalid | unavailable | error => exact ⟨_, rfl⟩
  have hartifact : ∀ binding valid result item, ∃ found,
      verifyEvidenceArtifact digests reader verifier binding valid result item = .ok found := by
    intro binding valid result item
    obtain ⟨artifact, hread⟩ := hreader item
    unfold verifyEvidenceArtifact
    rw [hread]
    split
    · exact ⟨_, rfl⟩
    · split
      · exact ⟨_, rfl⟩
      · dsimp only
        split
        · exact ⟨_, rfl⟩
        · exact hattestation binding result item artifact
  have hresult : ∀ result, ∃ found,
      resultBlockers digests profile reader verifier manifest checkedAt result = .ok found := by
    intro result
    obtain ⟨found, hfound⟩ := mapM_returns (f := evidenceBlockers digests reader verifier
      manifest.generatedAt (digests.candidateBindingSha256 manifest.candidate) result)
      result.evidence fun item _ => by
        obtain ⟨found, hfound⟩ := hartifact (digests.candidateBindingSha256 manifest.candidate)
          (decide (result.candidateBindingSha256 = digests.candidateBindingSha256 manifest.candidate ∧
            item.candidateBindingSha256 = digests.candidateBindingSha256 manifest.candidate)) result item
        unfold evidenceBlockers
        dsimp only
        rw [hfound]
        exact ⟨_, rfl⟩
    unfold resultBlockers
    dsimp only
    rw [hfound]
    exact ⟨_, rfl⟩
  obtain ⟨results, hresults⟩ := mapM_returns manifest.results fun result _ => hresult result
  unfold verifyWith
  rw [hresults]
  exact ⟨_, rfl⟩

/-! ## The interval -/

/-- An earlier instant, from the generation on, is in the window as well. -/
theorem InWindow.earlier {profile : GateProfile} {manifest : ReleaseGateManifest} {t t' : Instant}
    (h : InWindow profile manifest t) (hgenerated : manifest.generatedAt ≤ t') (hle : t' ≤ t) :
    InWindow profile manifest t' where
  generated := hgenerated
  deployed := hle.trans h.deployed
  unexpired result hresult item hitem e he := hle.trans_lt (h.unexpired result hresult item hitem e he)
  fresh result hresult item hitem rule evidenceRule age hrule hfind hage :=
    (Int.sub_le_sub_right hle _).trans_lt
      (h.fresh result hresult item hitem rule evidenceRule age hrule hfind hage)

/-- **The GO window of a manifest**: the decision is GO where the checks without the clock pass
and the instant is in the window; the GO times are an interval from the generation on, after
which there is no GO; and the decision does not depend on the order of the results, nor on
that of the evidence where the attestations are alike. -/
theorem go_window (digests : DigestLibrary) (manifest : ReleaseGateManifest) (reader : ArtifactReader)
    (verifier : AttestationVerifier) :
    let verify (manifest : ReleaseGateManifest) (checkedAt : Instant) :=
      verifyReleaseManifest digests manifest checkedAt reader verifier
    let goAt (manifest : ReleaseGateManifest) (checkedAt : Instant) :=
      ∃ decision, verify manifest checkedAt = .ok decision ∧ decision.decision = .go
    (∀ t decision, verify manifest t = .ok decision → (decision.decision = .go ↔
      TimelessChecks digests initialPrivatePilotProfile reader verifier manifest ∧
        InWindow initialPrivatePilotProfile manifest t)) ∧
    (∀ t, goAt manifest t → manifest.generatedAt ≤ t ∧
      ∀ t', manifest.generatedAt ≤ t' → t' ≤ t → goAt manifest t') ∧
    (∀ t decision, verify manifest t = .ok decision → decision.decision = .noGo →
      manifest.generatedAt ≤ t → ∀ t', t ≤ t' → ¬ goAt manifest t') ∧
    ∀ rearrange other, RearrangedBy rearrange manifest other →
      (rearrange = id ∨ AttestsAlike digests verifier manifest rearrange) →
      ∀ t, goAt other t ↔ goAt manifest t := by
  have hiff : ∀ t, (∃ decision, verifyReleaseManifest digests manifest t reader verifier = .ok decision ∧
      decision.decision = .go) ↔ TimelessChecks digests initialPrivatePilotProfile reader verifier manifest ∧
        InWindow initialPrivatePilotProfile manifest t := fun t => goAt_iff
  have hearlier : ∀ t t', (∃ decision, verifyReleaseManifest digests manifest t reader verifier =
      .ok decision ∧ decision.decision = .go) → manifest.generatedAt ≤ t' → t' ≤ t →
      ∃ decision, verifyReleaseManifest digests manifest t' reader verifier = .ok decision ∧
        decision.decision = .go := by
    intro t t' hgo hgenerated hle
    obtain ⟨htimeless, hwindow⟩ := (hiff t).mp hgo
    exact (hiff t').mpr ⟨htimeless, hwindow.earlier hgenerated hle⟩
  refine ⟨fun t decision hreturns => ?_, fun t hgo => ⟨((hiff t).mp hgo).2.generated, fun t' => hearlier t t' hgo⟩,
    fun t decision hreturns hno hgenerated t' hle hgo => ?_,
    fun rearrange other hother hattests t => ?_⟩
  · rw [← hiff t]
    refine ⟨fun hgo => ⟨decision, hreturns, hgo⟩, fun ⟨found, hfound, hgo⟩ => ?_⟩
    rw [Except.ok.inj (hreturns.symm.trans hfound)]
    exact hgo
  · obtain ⟨found, hfound, hfoundGo⟩ := hearlier t' t hgo hgenerated hle
    rw [← Except.ok.inj (hreturns.symm.trans hfound), hno] at hfoundGo
    cases hfoundGo
  · refine goAt_rearranged hother ?_ t
    rcases hattests with rfl | hattests
    · exact fun _ _ _ _ _ => Iff.rfl
    · exact hattests

namespace Sample

mutual
/-- The numbers of a value, and where it begins and ends. -/
def jsonBytes : Json → Bytes
  | .null => [0]
  | .bool b => [1, if b then 1 else 0]
  | .int n | .time n => [2, n.toNat.toUInt8]
  | .float _ => [3]
  | .str _ => [4]
  | .arr items => 5 :: itemBytes items
  | .obj fields => 6 :: fieldBytes fields

def itemBytes : List Json → Bytes
  | [] => [7]
  | x :: xs => jsonBytes x ++ itemBytes xs

def fieldBytes : List (String × Json) → Bytes
  | [] => [7]
  | (_, x) :: xs => jsonBytes x ++ fieldBytes xs
end

/-- The hexadecimal digits of a number. -/
def hexDigits : Nat → Nat → List Char
  | 0, _ => []
  | k + 1, n => Nat.digitChar (n % 16) :: hexDigits k (n / 16)

/-- A digest of 256 bits. -/
def digestOf (data : Bytes) : String :=
  String.ofList (hexDigits 64 (data.foldl (fun h b => (h * 257 + b.toNat + 1) % 2 ^ 256) 7))

def digests : DigestLibrary := ⟨digestOf, jsonBytes⟩

def part (n : UInt8) : DigestRef := digests.digestRef [n]

def candidate : ProductionCandidateBinding where
  sourceCommit := String.ofList (List.replicate 40 'c')
  productVersion := "1.0.0"
  ociDigest := "sha256:" ++ digestOf [0]
  pythonDistribution := part 1
  dashboardAssets := part 2
  operatorChatAssets := part 3
  migrationSet := part 4
  knowledgeSourceService := ⟨"1.0.0", "sha256:" ++ digestOf [5], part 6, part 7, part 8⟩
  agentVersion := "1"
  agentBundle := part 9
  evaluationContract := part 10
  configurationSnapshot := part 11
  gateProfile := digests.digestRef (jsonBytes initialPrivatePilotProfile.json)
  deploymentCompatibilityManifest := part 12

def binding : String := digests.candidateBindingSha256 candidate

/-- The artifact of a kind of evidence. -/
def artifact (kind : String) : Bytes := kind.toList.map fun c => c.toNat.toUInt8

/-- The evidence for a rule. -/
def evidence (rule : EvidenceRule) : EvidenceRef where
  evidenceId := rule.kind
  kind := rule.kind
  uri := "artifact://sha256/" ++ digestOf (artifact rule.kind)
  digest := digests.digestRef (artifact rule.kind)
  candidateBindingSha256 := binding
  producedAt := 0
  expiresAt := if rule.expiryRequired = true then some (seconds 3600) else none

/-- A metric that satisfies a rule. -/
def metric (rule : MetricRule) : String × MetricValue :=
  (rule.key, match rule.bindingTarget, rule.expected with
    | some target, _ => .str (expectedDigest candidate target)
    | none, some expected => expected
    | none, none => .str (digestOf [13]))

def result (rule : GateRule) : GateResult where
  gateId := rule.gateId
  status := .passed
  candidateBindingSha256 := binding
  evidence := rule.evidence.map evidence
  metrics := rule.metrics.map metric
  blockerCodes := []

/-- A result with its evidence the other way round. -/
def reversed (result : GateResult) : GateResult := { result with evidence := result.evidence.reverse }

/-- A manifest of the results of all gates. -/
def manifest : ReleaseGateManifest where
  candidate := candidate
  results := initialPrivatePilotProfile.gates.map result
  generatedAt := 0
  distinct := by decide +kernel

def other : ReleaseGateManifest :=
  { manifest with
    results := manifest.results.map reversed
    distinct := by decide +kernel }

def reader : ArtifactReader := fun item => .bytes (artifact item.kind)

/-- A verifier that holds the attestations of the results of the manifest. -/
def verifier : AttestationVerifier := fun result _ artifact binding =>
  if digests.gateResultSha256 result ∈ manifest.results.map digests.gateResultSha256 then
    .claims ⟨digestOf artifact, binding, digests.gateResultSha256 result⟩
  else .invalid

theorem length_hexDigits : ∀ k n, (hexDigits k n).length = k
  | 0, _ => rfl
  | k + 1, n => congrArg (· + 1) (length_hexDigits k (n / 16))

theorem hexDigits_lower : ∀ k n, (hexDigits k n).all (fun c =>
    ('0' ≤ c && c ≤ '9') || ('a' ≤ c && c ≤ 'f')) = true
  | 0, _ => rfl
  | k + 1, n => by
    have hdigit : ∀ d < 16, (('0' ≤ d.digitChar && d.digitChar ≤ '9') ||
        ('a' ≤ d.digitChar && d.digitChar ≤ 'f')) = true := by decide
    unfold hexDigits
    rw [List.all_cons, hdigit _ (Nat.mod_lt n (by decide)), hexDigits_lower k (n / 16)]
    rfl

theorem parse_uri (data : Bytes) :
    parseContentAddressedUri ("artifact://sha256/" ++ digestOf data) = some (digestOf data) := by
  have htext : (digestOf data).toList =
      hexDigits 64 (data.foldl (fun h b => (h * 257 + b.toNat + 1) % 2 ^ 256) 7) :=
    String.toList_ofList
  have hlower : isLowerSha256 (digestOf data).toList = true := by
    unfold isLowerSha256
    rw [htext, length_hexDigits, hexDigits_lower]
    rfl
  unfold parseContentAddressedUri
  rw [String.toList_append, List.dropPrefix?_append_of_beq _ (beq_self_eq_true _)]
  dsimp only
  rw [if_pos hlower, String.ofList_toList]

theorem rule?_of_mem {gate : GateRule} (hgate : gate ∈ initialPrivatePilotProfile.gates) :
    initialPrivatePilotProfile.rule? gate.gateId = some gate := by
  have hdistinct : (initialPrivatePilotProfile.gates.map GateRule.gateId).Nodup := by decide +kernel
  unfold GateProfile.rule?
  cases hfind : initialPrivatePilotProfile.gates.find? fun rule => rule.gateId = gate.gateId with
  | none =>
    have hnone := List.find?_eq_none.mp hfind gate hgate
    rw [decide_eq_true rfl] at hnone
    exact absurd rfl hnone
  | some found =>
    have hid := List.find?_some hfind
    rw [decide_eq_true_iff] at hid
    rw [List.inj_on_of_nodup_map hdistinct (List.mem_of_find?_eq_some hfind) hgate hid]

theorem mem_results {r : GateResult} (h : r ∈ manifest.results) :
    ∃ gate ∈ initialPrivatePilotProfile.gates, r = result gate := by
  obtain ⟨gate, hgate, rfl⟩ := List.mem_map.mp h
  exact ⟨gate, hgate, rfl⟩

theorem mem_evidence {gate : GateRule} {item : EvidenceRef} (h : item ∈ (result gate).evidence) :
    ∃ rule ∈ gate.evidence, item = evidence rule := by
  obtain ⟨rule, hrule, rfl⟩ := List.mem_map.mp h
  exact ⟨rule, hrule, rfl⟩

/-- The rule of an item of the evidence. -/
theorem evidenceRule?_eq {gate : GateRule} {rule found : EvidenceRule} (hrule : rule ∈ gate.evidence)
    (h : gate.evidenceRule? rule.kind = some found) : found = rule := by
  unfold GateRule.evidenceRule? at h
  have hkind := List.find?_some h
  rw [decide_eq_true_iff] at hkind
  exact List.inj_on_of_nodup_map gate.distinct (List.mem_of_find?_eq_some h) hrule hkind

/-- Evidence that the verifier holds an attestation of. -/
theorem evidence_clean {gate : GateRule} (hgate : gate ∈ initialPrivatePilotProfile.gates)
    (rule : EvidenceRule) :
    evidenceBlockers digests reader verifier 0 binding (result gate) (evidence rule) = .ok [] := by
  have hsigned : digests.gateResultSha256 (result gate) ∈
      manifest.results.map digests.gateResultSha256 :=
    List.mem_map_of_mem (List.mem_map_of_mem hgate)
  have hattested : attestationBlockers digests verifier binding (result gate) (evidence rule)
      (artifact rule.kind) = .ok [] := by
    unfold attestationBlockers verifier
    rw [if_pos hsigned]
    exact congrArg Except.ok (blockIf_eq_nil.mpr (not_not.mpr rfl))
  have hartifact : verifyEvidenceArtifact digests reader verifier binding
      (decide ((result gate).candidateBindingSha256 = binding ∧
        (evidence rule).candidateBindingSha256 = binding)) (result gate) (evidence rule) = .ok [] := by
    have huri : parseContentAddressedUri (evidence rule).uri = some (evidence rule).digest.sha256 :=
      parse_uri _
    have hlength : ¬ (artifact rule.kind).length ≠ (evidence rule).digest.length := not_not.mpr rfl
    have hdigest : ¬ digests.sha256Hex (artifact rule.kind) ≠ (evidence rule).digest.sha256 :=
      not_not.mpr rfl
    have hvalid : decide ((result gate).candidateBindingSha256 = binding ∧
        (evidence rule).candidateBindingSha256 = binding) = true := decide_eq_true ⟨rfl, rfl⟩
    have hread : reader (evidence rule) = .bytes (artifact rule.kind) := rfl
    unfold verifyEvidenceArtifact
    rw [huri, hvalid]
    dsimp only
    rw [if_neg (not_not.mpr rfl), hread]
    dsimp only
    rw [blockIf_eq_nil.mpr hlength, blockIf_eq_nil.mpr hdigest, if_neg (by simp)]
    exact hattested
  have hproduced : ¬ (0 : Instant) < (evidence rule).producedAt := lt_irrefl _
  have hbound : ¬ (evidence rule).candidateBindingSha256 ≠ binding := not_not.mpr rfl
  unfold evidenceBlockers
  dsimp only
  rw [hartifact, blockIf_eq_nil.mpr hproduced, blockIf_eq_nil.mpr hbound]
  rfl

/-- Every rule allows evidence of an hour. -/
theorem hour_le_age {gate : GateRule} (hgate : gate ∈ initialPrivatePilotProfile.gates)
    {rule : EvidenceRule} (hrule : rule ∈ gate.evidence) {age : Nat}
    (hage : rule.maxAgeSeconds = some age) : 3600 ≤ age := by
  have hages : ∀ gate ∈ initialPrivatePilotProfile.gates, ∀ rule ∈ gate.evidence,
      rule.maxAgeSeconds.all (3600 ≤ ·) = true := by decide
  have hall := hages gate hgate rule hrule
  rw [hage] at hall
  exact of_decide_eq_true hall

theorem evidence_expiresAt {rule : EvidenceRule} {expiresAt : Instant}
    (h : (evidence rule).expiresAt = some expiresAt) : expiresAt = seconds 3600 := by
  unfold evidence at h
  dsimp only at h
  split at h
  · exact (Option.some.inj h).symm
  · cases h

theorem sound {gate : GateRule} (hgate : gate ∈ initialPrivatePilotProfile.gates)
    {rule : EvidenceRule} (hrule : rule ∈ gate.evidence) : SoundItem gate binding (evidence rule) where
  bound := rfl
  ordered expiresAt h := by
    rw [evidence_expiresAt h]
    exact (by decide : (0 : Instant) < seconds 3600)
  expiry found hfound hrequired := by
    cases evidenceRule?_eq hrule hfound
    unfold evidence
    dsimp only
    rw [if_pos hrequired]
    nofun
  within found age expiresAt hfound hage h := by
    cases evidenceRule?_eq hrule hfound
    have hle := hour_le_age hgate hrule hage
    have hseconds : (3600 : Int) * 1000000 - 0 ≤ age * 1000000 := by omega
    rw [evidence_expiresAt h]
    exact hseconds

theorem timeless : TimelessChecks digests initialPrivatePilotProfile reader verifier manifest where
  packaged := by
    unfold profileBlockers
    rw [List.append_eq_nil_iff, blockIf_eq_nil, blockIf_eq_nil]
    exact ⟨not_not.mpr rfl, not_not.mpr rfl⟩
  gates := by decide +kernel
  identity := by decide +kernel
  recovery := by decide +kernel
  results r hr := by
    have hkinds : ∀ gate ∈ initialPrivatePilotProfile.gates,
        kindBlockers gate (result gate).evidence = [] := by decide +kernel
    have hmetrics : ∀ gate ∈ initialPrivatePilotProfile.gates,
        metricBlockers gate candidate (result gate).metrics = [] := by decide +kernel
    obtain ⟨gate, hgate, rfl⟩ := mem_results hr
    refine ⟨rfl, rfl, rfl, fun found hfound => ?_, fun item hitem => ?_⟩
    · cases (rule?_of_mem hgate).symm.trans hfound
      refine ⟨?_, hkinds gate hgate, hmetrics gate hgate, fun item hitem => ?_⟩
      · unfold profileBlockers
        rw [List.append_eq_nil_iff, blockIf_eq_nil, blockIf_eq_nil]
        exact ⟨not_not.mpr rfl, not_not.mpr rfl⟩
      · obtain ⟨rule, hrule, rfl⟩ := mem_evidence hitem
        exact sound hgate hrule
    · obtain ⟨rule, _, rfl⟩ := mem_evidence hitem
      exact evidence_clean hgate rule

theorem inWindow : InWindow initialPrivatePilotProfile manifest (seconds 60) where
  generated := by decide
  deployed := by decide
  unexpired r hr item hitem expiresAt h := by
    obtain ⟨gate, _, rfl⟩ := mem_results hr
    obtain ⟨rule, _, rfl⟩ := mem_evidence hitem
    rw [evidence_expiresAt h]
    decide
  fresh r hr item hitem found evidenceRule age hfound hrule hage := by
    obtain ⟨gate, hgate, rfl⟩ := mem_results hr
    obtain ⟨rule, hmem, rfl⟩ := mem_evidence hitem
    cases (rule?_of_mem hgate).symm.trans hfound
    cases evidenceRule?_eq hmem hrule
    have hle := hour_le_age hgate hmem hage
    have hseconds : (60 : Int) * 1000000 - 0 < age * 1000000 := by omega
    exact hseconds

/-- The attestations are not of the reversed results. -/
theorem reversed_unattested : evidenceBlockers digests reader verifier 0 binding
    (reversed (result candidateIntegrity)) (evidence ⟨"candidate_quality", none, false⟩) ≠ .ok [] := by
  decide +kernel

end Sample

/-- **The order of the evidence matters** to a verifier that holds attestations of the results. -/
theorem evidence_order_matters :
    RearrangedBy Sample.reversed Sample.manifest Sample.other ∧
    (∃ decision, verifyReleaseManifest Sample.digests Sample.manifest (seconds 60) Sample.reader
      Sample.verifier = .ok decision ∧ decision.decision = .go) ∧
    ∃ decision, verifyReleaseManifest Sample.digests Sample.other (seconds 60) Sample.reader
      Sample.verifier = .ok decision ∧ decision.decision = .noGo := by
  have hrearranged : RearrangedBy Sample.reversed Sample.manifest Sample.other := by
    refine ⟨?_, ?_, fun result _ => ⟨rfl, List.reverse_perm _⟩, ?_⟩
    · unfold Sample.other
      rfl
    · unfold Sample.other
      rfl
    · unfold Sample.other
      exact List.Perm.refl _
  refine ⟨hrearranged, goAt_iff.mpr ⟨Sample.timeless, Sample.inWindow⟩, ?_⟩
  obtain ⟨decision, hdecision⟩ : ∃ decision, verifyWith Sample.digests initialPrivatePilotProfile
      Sample.other (seconds 60) Sample.reader Sample.verifier = .ok decision := by
    refine verifyWith_returns (fun item => ⟨_, rfl⟩) fun result item data binding => ?_
    unfold Sample.verifier
    split <;> nofun
  refine ⟨decision, hdecision, ?_⟩
  cases hno : decision.decision with
  | noGo => rfl
  | go =>
    have htimeless := (goAt_iff.mp ⟨decision, hdecision, hno⟩).1
    have hmem : Sample.reversed (Sample.result candidateIntegrity) ∈ Sample.other.results := by
      unfold Sample.other
      exact List.mem_map_of_mem (List.mem_map_of_mem List.mem_cons_self)
    have hclean := (htimeless.results _ hmem).evidence (Sample.evidence ⟨"candidate_quality", none, false⟩) (by
      unfold Sample.reversed
      exact List.mem_reverse.mpr (List.mem_map_of_mem List.mem_cons_self))
    exact absurd hclean Sample.reversed_unattested

end ProofAgent.Release
