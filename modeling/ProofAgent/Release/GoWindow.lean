import ProofAgent.Release.Verifier

/-! # The GO window

The decision is GO where the checks that do not look at the clock pass, and the instant is in
the window: neither before the manifest nor a day after it, before every expiry, and before
the evidence gets too old. -/
namespace ProofAgent.Release

open Base

/-! ## Lists of findings -/

section
variable {α β ε : Type}

/-- Checks that may raise, of which none finds anything. -/
theorem mapM_clean {f : α → Except ε (List β)} : ∀ {xs : List α},
    (∃ found, xs.mapM f = .ok found ∧ found.flatten = []) ↔ ∀ x ∈ xs, f x = .ok []
  | [] => ⟨fun _ _ h => absurd h List.not_mem_nil, fun _ => ⟨[], rfl, rfl⟩⟩
  | x :: xs => by
    rw [List.mapM_cons, List.forall_mem_cons, ← mapM_clean]
    constructor
    · rintro ⟨found, hfound, hclean⟩
      cases hx : f x with
      | error e =>
        rw [hx] at hfound
        cases hfound
      | ok first =>
        rw [hx] at hfound
        cases hrest : xs.mapM f with
        | error e =>
          change (xs.mapM f >>= _) = _ at hfound
          rw [hrest] at hfound
          cases hfound
        | ok rest =>
          change (xs.mapM f >>= _) = _ at hfound
          rw [hrest] at hfound
          cases hfound
          rw [List.flatten_cons, List.append_eq_nil_iff] at hclean
          exact ⟨congrArg _ hclean.1, rest, rfl, hclean.2⟩
    · rintro ⟨hx, rest, hrest, hclean⟩
      rw [hx, hrest]
      exact ⟨[] :: rest, rfl, hclean⟩

/-- A computation from findings, that finds nothing. -/
theorem bind_clean {x : Except ε α} {f : α → List β} :
    (do let a ← x; return f a) = (.ok [] : Except ε (List β)) ↔ ∃ a, x = .ok a ∧ f a = [] := by
  cases x with
  | error e => exact ⟨nofun, fun ⟨_, h, _⟩ => (nomatch h)⟩
  | ok a =>
    refine ⟨fun h => ⟨a, rfl, Except.ok.inj h⟩, fun ⟨_, h, hnil⟩ => ?_⟩
    cases h
    exact congrArg Except.ok hnil

end

/-! ## Evidence -/

/-- The checks of an item that do not look at the clock. -/
structure SoundItem (rule : GateRule) (binding : String) (item : EvidenceRef) : Prop where
  bound : item.candidateBindingSha256 = binding
  ordered : ∀ expiresAt, item.expiresAt = some expiresAt → item.producedAt < expiresAt
  expiry : ∀ evidenceRule, rule.evidenceRule? item.kind = some evidenceRule →
    evidenceRule.expiryRequired = true → item.expiresAt ≠ none
  within : ∀ evidenceRule age expiresAt, rule.evidenceRule? item.kind = some evidenceRule →
    evidenceRule.maxAgeSeconds = some age → item.expiresAt = some expiresAt →
    expiresAt - item.producedAt ≤ seconds age

/-- The checks of an item at an instant. -/
structure TimelyItem (rule : GateRule) (checkedAt : Instant) (item : EvidenceRef) : Prop where
  produced : item.producedAt ≤ checkedAt
  unexpired : ∀ expiresAt, item.expiresAt = some expiresAt → checkedAt < expiresAt
  fresh : ∀ evidenceRule age, rule.evidenceRule? item.kind = some evidenceRule →
    evidenceRule.maxAgeSeconds = some age → checkedAt - item.producedAt < seconds age

theorem itemBlockers_eq_nil_iff {rule : GateRule} {binding : String} {checkedAt : Instant}
    {item : EvidenceRef} : itemBlockers rule binding checkedAt item = [] ↔
      SoundItem rule binding item ∧ TimelyItem rule checkedAt item := by
  unfold itemBlockers
  rw [List.append_eq_nil_iff, List.append_eq_nil_iff, List.append_eq_nil_iff, blockIf_eq_nil,
    blockIf_eq_nil]
  constructor
  · rintro ⟨⟨⟨hbound, hproduced⟩, hexpiry⟩, hrule⟩
    have hproduced : item.producedAt ≤ checkedAt := not_lt.mp hproduced
    have hexpires : ∀ expiresAt, item.expiresAt = some expiresAt →
        item.producedAt < expiresAt ∧ checkedAt < expiresAt := by
      intro expiresAt he
      rw [he] at hexpiry
      dsimp only at hexpiry
      rw [List.append_eq_nil_iff, blockIf_eq_nil, blockIf_eq_nil] at hexpiry
      exact ⟨not_le.mp hexpiry.1, not_le.mp hexpiry.2⟩
    refine ⟨⟨not_not.mp hbound, fun e he => (hexpires e he).1, fun evidenceRule hfind hrequired hnone => ?_,
      fun evidenceRule age e hfind hage he => ?_⟩,
      ⟨hproduced, fun e he => (hexpires e he).2, fun evidenceRule age hfind hage => ?_⟩⟩
    all_goals
      rw [hfind] at hrule
      dsimp only at hrule
      rw [List.append_eq_nil_iff, blockIf_eq_nil] at hrule
    · exact hrule.1 ⟨hrequired, hnone⟩
    · have hage' := hrule.2
      rw [hage, he] at hage'
      dsimp only at hage'
      rw [List.append_eq_nil_iff, blockIf_eq_nil] at hage'
      exact not_lt.mp fun hlt => hage'.1 ⟨(hexpires e he).1, hlt⟩
    · have hage' := hrule.2
      rw [hage] at hage'
      dsimp only at hage'
      rw [List.append_eq_nil_iff, blockIf_eq_nil] at hage'
      exact not_le.mp fun hle => hage'.2 ⟨hproduced, hle⟩
  · rintro ⟨hsound, htimely⟩
    refine ⟨⟨⟨not_not.mpr hsound.bound, not_lt.mpr htimely.produced⟩, ?_⟩, ?_⟩
    · cases he : item.expiresAt with
      | none => rfl
      | some e =>
        dsimp only
        rw [List.append_eq_nil_iff, blockIf_eq_nil, blockIf_eq_nil]
        exact ⟨not_le.mpr (hsound.ordered e he), not_le.mpr (htimely.unexpired e he)⟩
    · cases hfind : rule.evidenceRule? item.kind with
      | none => rfl
      | some evidenceRule =>
        dsimp only
        rw [List.append_eq_nil_iff, blockIf_eq_nil]
        refine ⟨fun h => hsound.expiry evidenceRule hfind h.1 h.2, ?_⟩
        cases hage : evidenceRule.maxAgeSeconds with
        | none => rfl
        | some age =>
          dsimp only
          rw [List.append_eq_nil_iff, blockIf_eq_nil]
          refine ⟨?_, fun h => absurd (htimely.fresh evidenceRule age hfind hage) (not_lt.mpr h.2)⟩
          cases he : item.expiresAt with
          | none => rfl
          | some e =>
            dsimp only
            rw [blockIf_eq_nil]
            exact fun h => absurd (hsound.within evidenceRule age e hfind hage he) (not_le.mpr h.2)

/-! ## Results -/

variable (digests : DigestLibrary) (profile : GateProfile) (reader : ArtifactReader)
  (verifier : AttestationVerifier) (manifest : ReleaseGateManifest)

/-- The checks of a result that do not look at the clock. -/
structure TimelessResult (result : GateResult) : Prop where
  status : result.status = .passed
  binding : result.candidateBindingSha256 = digests.candidateBindingSha256 manifest.candidate
  reported : result.blockerCodes = []
  rule : ∀ rule, profile.rule? result.gateId = some rule →
    profileBlockers digests profile manifest.candidate = [] ∧ kindBlockers rule result.evidence = [] ∧
    metricBlockers rule manifest.candidate result.metrics = [] ∧
    ∀ item ∈ result.evidence,
      SoundItem rule (digests.candidateBindingSha256 manifest.candidate) item
  evidence : ∀ item ∈ result.evidence, evidenceBlockers digests reader verifier manifest.generatedAt
    (digests.candidateBindingSha256 manifest.candidate) result item = .ok []

/-- The checks of a manifest that do not look at the clock. -/
structure TimelessChecks : Prop where
  packaged : profileBlockers digests profile manifest.candidate = []
  gates : gateBlockers profile manifest.results = []
  identity : evidenceIdentityBlockers (manifest.results.flatMap GateResult.evidence) = []
  recovery : recoveryBlockers manifest.results = []
  results : ∀ result ∈ manifest.results, TimelessResult digests profile reader verifier manifest result

/-- **The window** of a manifest. -/
structure InWindow (checkedAt : Instant) : Prop where
  generated : manifest.generatedAt ≤ checkedAt
  deployed : checkedAt ≤ manifest.generatedAt + deploymentWindow
  unexpired : ∀ result ∈ manifest.results, ∀ item ∈ result.evidence, ∀ expiresAt,
    item.expiresAt = some expiresAt → checkedAt < expiresAt
  fresh : ∀ result ∈ manifest.results, ∀ item ∈ result.evidence, ∀ rule evidenceRule age,
    profile.rule? result.gateId = some rule → rule.evidenceRule? item.kind = some evidenceRule →
    evidenceRule.maxAgeSeconds = some age → checkedAt - item.producedAt < seconds age

section
variable {digests profile reader verifier manifest} {checkedAt : Instant} {result : GateResult}

theorem gatePolicyBlockers_eq_nil_iff {rule : GateRule} :
    gatePolicyBlockers rule digests profile manifest.candidate result.evidence result.metrics checkedAt =
      [] ↔ profileBlockers digests profile manifest.candidate = [] ∧
      kindBlockers rule result.evidence = [] ∧
      metricBlockers rule manifest.candidate result.metrics = [] ∧
      ∀ item ∈ result.evidence,
        SoundItem rule (digests.candidateBindingSha256 manifest.candidate) item ∧
          TimelyItem rule checkedAt item := by
  unfold gatePolicyBlockers collectPolicyBlockers
  rw [sortedSet_eq_nil_iff, List.append_eq_nil_iff, List.append_eq_nil_iff, List.append_eq_nil_iff,
    List.flatMap_eq_nil_iff]
  simp only [itemBlockers_eq_nil_iff]
  exact ⟨fun ⟨⟨⟨hprofile, hkinds⟩, hitems⟩, hmetrics⟩ => ⟨hprofile, hkinds, hmetrics, hitems⟩,
    fun ⟨hprofile, hkinds, hmetrics, hitems⟩ => ⟨⟨⟨hprofile, hkinds⟩, hitems⟩, hmetrics⟩⟩

theorem resultBlockers_clean_iff :
    resultBlockers digests profile reader verifier manifest checkedAt result = .ok [] ↔
      TimelessResult digests profile reader verifier manifest result ∧
      ∀ rule, profile.rule? result.gateId = some rule →
        ∀ item ∈ result.evidence, TimelyItem rule checkedAt item := by
  unfold resultBlockers
  dsimp only
  rw [bind_clean]
  simp only [List.append_eq_nil_iff, blockIf_eq_nil, List.map_eq_nil_iff, not_not]
  constructor
  · rintro ⟨found, hfound, ⟨⟨⟨hstatus, hbinding⟩, hreported⟩, hpolicy⟩, hclean⟩
    have hrule : ∀ rule, profile.rule? result.gateId = some rule →
        gatePolicyBlockers rule digests profile manifest.candidate result.evidence result.metrics
          checkedAt = [] := by
      intro rule hfind
      rw [hfind] at hpolicy
      exact hpolicy
    refine ⟨⟨hstatus, hbinding, hreported, fun rule hfind => ?_, mapM_clean.mp ⟨found, hfound, hclean⟩⟩,
      fun rule hfind item hitem => ?_⟩
    · obtain ⟨hprofile, hkinds, hmetrics, hitems⟩ := gatePolicyBlockers_eq_nil_iff.mp (hrule rule hfind)
      exact ⟨hprofile, hkinds, hmetrics, fun item hitem => (hitems item hitem).1⟩
    · obtain ⟨_, _, _, hitems⟩ := gatePolicyBlockers_eq_nil_iff.mp (hrule rule hfind)
      exact (hitems item hitem).2
  · rintro ⟨htimeless, htimely⟩
    obtain ⟨found, hfound, hclean⟩ := mapM_clean.mpr htimeless.evidence
    refine ⟨found, hfound, ⟨⟨⟨htimeless.status, htimeless.binding⟩, htimeless.reported⟩, ?_⟩, hclean⟩
    cases hfind : profile.rule? result.gateId with
    | none => rfl
    | some rule =>
      obtain ⟨hprofile, hkinds, hmetrics, hitems⟩ := htimeless.rule rule hfind
      exact gatePolicyBlockers_eq_nil_iff.mpr
        ⟨hprofile, hkinds, hmetrics, fun item hitem => ⟨hitems item hitem, htimely rule hfind item hitem⟩⟩

/-! ## The decision -/

theorem windowBlockers_eq_nil_iff {generatedAt : Instant} : windowBlockers generatedAt checkedAt = [] ↔
    generatedAt ≤ checkedAt ∧ checkedAt ≤ generatedAt + deploymentWindow := by
  unfold windowBlockers
  split
  · rename_i hbefore
    exact ⟨nofun, fun h => absurd h.1 (not_le.mpr hbefore)⟩
  · rename_i hbefore
    rw [blockIf_eq_nil, not_lt]
    exact ⟨fun h => ⟨not_lt.mp hbefore, Int.le_add_of_sub_left_le h⟩,
      fun h => Int.sub_left_le_of_le_add h.2⟩

theorem expiryWindowBlockers_eq_nil {expiries : List Instant} (h : ∀ e ∈ expiries, checkedAt < e) :
    expiryWindowBlockers expiries checkedAt = [] := by
  unfold expiryWindowBlockers
  cases hmin : expiries.min? with
  | none => rfl
  | some earliest =>
    dsimp only
    rw [blockIf_eq_nil]
    exact not_le.mpr (h earliest (List.min?_mem hmin))

/-- The required expiries are expiries of the evidence. -/
theorem mem_requiredExpiries {results : List GateResult} {expiresAt : Instant}
    (h : expiresAt ∈ requiredExpiries profile results) :
    ∃ result ∈ results, ∃ item ∈ result.evidence, item.expiresAt = some expiresAt := by
  unfold requiredExpiries at h
  obtain ⟨result, hresult, h⟩ := List.mem_flatMap.mp h
  obtain ⟨item, hitem, h⟩ := List.mem_filterMap.mp h
  obtain ⟨rule, _, h⟩ := Option.bind_eq_some_iff.mp h
  obtain ⟨evidenceRule, _, h⟩ := Option.bind_eq_some_iff.mp h
  split at h
  · exact ⟨result, hresult, item, hitem, h⟩
  · cases h

/-- Every result is of a gate with a rule. -/
theorem rule_of_gates (h : gateBlockers profile manifest.results = [])
    (hresult : result ∈ manifest.results) : ∃ rule, profile.rule? result.gateId = some rule := by
  unfold gateBlockers at h
  rw [List.append_eq_nil_iff, List.flatMap_eq_nil_iff] at h
  have hknown := h.2 result.gateId (List.mem_dedup.mpr (List.mem_map_of_mem hresult))
  rw [blockIf_eq_nil, not_not] at hknown
  obtain ⟨rule, hrule, hid⟩ := List.mem_map.mp hknown
  cases hfind : profile.rule? result.gateId with
  | some found => exact ⟨found, rfl⟩
  | none =>
    have hnone := List.find?_eq_none.mp hfind rule hrule
    rw [decide_eq_true hid] at hnone
    exact absurd rfl hnone

variable (digests profile reader verifier manifest)

/-- The verifier returns, and decides GO. -/
def GoAt (checkedAt : Instant) : Prop :=
  ∃ decision, verifyWith digests profile manifest checkedAt reader verifier = .ok decision ∧
    decision.decision = .go

variable {digests profile reader verifier manifest}

theorem goAt_iff_clean : GoAt digests profile reader verifier manifest checkedAt ↔
    profileBlockers digests profile manifest.candidate = [] ∧
    windowBlockers manifest.generatedAt checkedAt = [] ∧
    gateBlockers profile manifest.results = [] ∧
    evidenceIdentityBlockers (manifest.results.flatMap GateResult.evidence) = [] ∧
    (∀ result ∈ manifest.results,
      resultBlockers digests profile reader verifier manifest checkedAt result = .ok []) ∧
    expiryWindowBlockers (requiredExpiries profile manifest.results) checkedAt = [] ∧
    recoveryBlockers manifest.results = [] := by
  unfold GoAt verifyWith
  rw [← mapM_clean]
  cases hresults : manifest.results.mapM
      (resultBlockers digests profile reader verifier manifest checkedAt) with
  | error e => exact ⟨fun ⟨_, h, _⟩ => (nomatch h), fun ⟨_, _, _, _, ⟨_, h, _⟩, _⟩ => (nomatch h)⟩
  | ok results =>
    constructor
    · rintro ⟨decision, hdecision, hgo⟩
      cases hdecision
      have hcodes := of_not_not fun hne => absurd ((if_neg hne).symm.trans hgo) nofun
      rw [sortedSet_eq_nil_iff] at hcodes
      simp only [List.append_eq_nil_iff] at hcodes
      obtain ⟨⟨⟨⟨⟨⟨hprofile, hwindow⟩, hgates⟩, hidentity⟩, hclean⟩, hexpiry⟩, hrecovery⟩ := hcodes
      exact ⟨hprofile, hwindow, hgates, hidentity, ⟨results, rfl, hclean⟩, hexpiry, hrecovery⟩
    · rintro ⟨hprofile, hwindow, hgates, hidentity, ⟨found, hfound, hclean⟩, hexpiry, hrecovery⟩
      cases hfound
      refine ⟨_, rfl, if_pos (sortedSet_eq_nil_iff.mpr ?_)⟩
      rw [hprofile, hwindow, hgates, hidentity, hclean, hexpiry, hrecovery]
      rfl

/-- **GO**: what does not look at the clock passes, and the instant is in the window. -/
theorem goAt_iff : GoAt digests profile reader verifier manifest checkedAt ↔
    TimelessChecks digests profile reader verifier manifest ∧ InWindow profile manifest checkedAt := by
  rw [goAt_iff_clean, windowBlockers_eq_nil_iff]
  simp only [resultBlockers_clean_iff]
  constructor
  · rintro ⟨hprofile, ⟨hgenerated, hdeployed⟩, hgates, hidentity, hresults, _, hrecovery⟩
    refine ⟨⟨hprofile, hgates, hidentity, hrecovery, fun result hresult => (hresults result hresult).1⟩,
      hgenerated, hdeployed, fun result hresult item hitem => ?_,
      fun result hresult item hitem rule evidenceRule age hrule => ?_⟩
    · obtain ⟨rule, hrule⟩ := rule_of_gates hgates hresult
      exact ((hresults result hresult).2 rule hrule item hitem).unexpired
    · exact ((hresults result hresult).2 rule hrule item hitem).fresh evidenceRule age
  · rintro ⟨htimeless, hwindow⟩
    refine ⟨htimeless.packaged, ⟨hwindow.generated, hwindow.deployed⟩, htimeless.gates,
      htimeless.identity, fun result hresult => ⟨htimeless.results result hresult,
        fun rule hrule item hitem => ⟨?_, hwindow.unexpired result hresult item hitem,
          fun evidenceRule age => hwindow.fresh result hresult item hitem rule evidenceRule age hrule⟩⟩,
      expiryWindowBlockers_eq_nil fun e he => ?_, htimeless.recovery⟩
    · -- evidence is not younger than its manifest
      have hevidence := (htimeless.results result hresult).evidence item hitem
      unfold evidenceBlockers at hevidence
      dsimp only at hevidence
      rw [bind_clean] at hevidence
      obtain ⟨_, _, hclean⟩ := hevidence
      rw [List.append_eq_nil_iff, List.append_eq_nil_iff, blockIf_eq_nil] at hclean
      exact (not_lt.mp hclean.1.1).trans hwindow.generated
    · obtain ⟨result, hresult, item, hitem, hexpires⟩ := mem_requiredExpiries he
      exact hwindow.unexpired result hresult item hitem e hexpires

end

end ProofAgent.Release
