import ProofAgent.Knowledge.InsuranceAuthority

/-! # Context expansion and the authority gate

A rule unit that has been selected is expanded by its neighbours. Their metadata is read
first, and the content of those that it admits after. The metadata of a unit has its
publication, its visibility, its institutions, its dates and its conditions, but not its
regions, channels, roles and business lines; so the expansion of a restricted unit admits
audiences that the authority gate refuses. -/
namespace ProofAgent.Knowledge

open Base

/-! ## Expansion -/

inductive ExpansionKind where
  | heading | tableHeader | rowGroup | continuation | definition
  deriving DecidableEq

structure ExpansionSeed where
  ruleUnitRevisionId : String
  sourceId : String
  sourcePublicationSeq : Nat
  asOfDate : Date
  authorization : InstitutionAuthorizationContext
  normalizedConditions : List (String × String) := []
  allowedExpansionKinds : List ExpansionKind

structure ExpansionCandidateMetadata where
  ruleUnitRevisionId : String
  sourceId : String
  sourcePublicationSeqFrom : Nat
  sourcePublicationSeqTo : Option Nat := none
  visibility : Visibility
  allowedInstitutions : List String := []
  effectiveFrom : Option Date := none
  effectiveTo : Option Date := none
  applicabilityConditions : List (String × String) := []
  expansionKind : ExpansionKind

/-- `RuleContextExpansionStore`. -/
structure RuleContextExpansionStore where
  expansionMetadata : ExpansionSeed → List ExpansionCandidateMetadata
  /-- The content of the given units, by their ids. -/
  loadContent : List String → List (String × String)

structure ExpandedInsuranceContext where
  unitIds : List String
  contentByUnitId : List (String × String) := []
  excludedCount : Nat

/-- `_metadata_admitted`. -/
def metadataAdmitted (item : ExpansionCandidateMetadata) (seed : ExpansionSeed) : Bool :=
  if item.sourceId ≠ seed.sourceId ∨ item.expansionKind ∉ seed.allowedExpansionKinds then false
  else if isMember item.sourcePublicationSeqFrom item.sourcePublicationSeqTo
      seed.sourcePublicationSeq = false then false
  else if item.effectiveFrom.any (fun first => seed.asOfDate < first) = true then false
  else if item.effectiveTo.any (fun last => last < seed.asOfDate) = true then false
  else if item.visibility = .RESTRICTED ∧ (publicOnly seed.authorization = true ∨
      (item.allowedInstitutions.isEmpty = false ∧
        (item.allowedInstitutions.any fun institution =>
          seed.authorization.institutions.contains institution) = false)) then false
  else item.applicabilityConditions.all fun p => seed.normalizedConditions.lookup p.1 = some p.2

/-- The units whose content an expansion loads. -/
def admittedIds (seed : ExpansionSeed) (store : RuleContextExpansionStore) : List String :=
  ((store.expansionMetadata seed).filter fun item => metadataAdmitted item seed).map
    (·.ruleUnitRevisionId)

/-- `expand_context`. -/
def expandContext (seed : ExpansionSeed) (store : RuleContextExpansionStore) :
    Except String ExpandedInsuranceContext :=
  let metadata := store.expansionMetadata seed
  let admitted := admittedIds seed store
  let loaded := if admitted = [] then [] else store.loadContent admitted
  if (loaded.all fun p => p.1 ∈ admitted) = true ∧
      (admitted.all fun id => (loaded.lookup id).isSome) = true then
    .ok {
      unitIds := admitted
      contentByUnitId := loaded
      excludedCount := metadata.length - admitted.length }
  else .error "context store must return exactly the admitted expansion ids"

/-! ## One law, twice -/

/-- The metadata of a unit that the expansion is shown, where retrieval would be shown the
candidate. -/
def InsuranceAuthorityCandidate.expansionMetadata (candidate : InsuranceAuthorityCandidate)
    (kind : ExpansionKind) : ExpansionCandidateMetadata where
  ruleUnitRevisionId := candidate.ruleUnitRevisionId
  sourceId := candidate.sourceId
  sourcePublicationSeqFrom := candidate.publicationSeqFrom
  sourcePublicationSeqTo := candidate.publicationSeqTo
  visibility := candidate.visibility
  allowedInstitutions := candidate.allowedInstitutions
  effectiveFrom := candidate.effectiveFrom
  effectiveTo := candidate.effectiveTo
  applicabilityConditions := candidate.applicabilityConditions
  expansionKind := kind

/-- A seed and a context of one request. -/
structure SameRequest (seed : ExpansionSeed) (context : InsuranceAuthorityContext) : Prop where
  sourceId : context.sourceId = seed.sourceId
  sourcePublicationSeq : context.sourcePublicationSeq = seed.sourcePublicationSeq
  asOfDate : context.asOfDate = seed.asOfDate
  authorization : context.authorization = seed.authorization
  normalizedConditions : context.normalizedConditions = seed.normalizedConditions

/-- The metadata of a unit in a store is that of its candidate. -/
def Projects (seed : ExpansionSeed) (store : RuleContextExpansionStore)
    (candidate : InsuranceAuthorityCandidate) : Prop :=
  ∀ item ∈ store.expansionMetadata seed, item.ruleUnitRevisionId = candidate.ruleUnitRevisionId →
    ∃ kind, item = candidate.expansionMetadata kind

/-- The regions, channels, roles and business lines of a restricted unit admit the audience. -/
def AudienceAdmitted (candidate : InsuranceAuthorityCandidate)
    (authorization : InstitutionAuthorizationContext) : Prop :=
  candidate.visibility = .PUBLIC ∨
    scopeAllows candidate.allowedRegions authorization.regions = true ∧
    scopeAllows candidate.allowedChannels authorization.channels = true ∧
    scopeAllows candidate.allowedRoles authorization.roles = true ∧
    scopeAllows candidate.allowedBusinessLines authorization.businessLines = true

/-- The gate has made a decision on a candidate, in which it passes the four checks. -/
def GatePasses (candidate : InsuranceAuthorityCandidate) (context : InsuranceAuthorityContext) :
    Prop :=
  ∃ decision, evaluateInsuranceAuthority candidate context = .ok decision ∧
    ∀ name ∈ [AuthorityGateCheckName.publicationMembership, .authorization, .effectivePeriod,
        .applicability],
      ∃ check ∈ decision.gateResult.checks, check.check = name ∧ check.passed = true

/-! ## What the expansion has checked -/

theorem dateIsEffective_of {first last : Option Date} {asOf : Date}
    (hfirst : ¬ first.any (fun first => asOf < first) = true)
    (hlast : ¬ last.any (fun last => last < asOf) = true) : dateIsEffective first last asOf = true := by
  unfold dateIsEffective
  rw [Bool.not_eq_true] at hfirst hlast
  rw [hfirst, hlast]
  rfl

/-- An admitted unit is published, in force and applicable; if it is restricted, one of its
institutions is admitted. -/
theorem metadataAdmitted_checks {candidate : InsuranceAuthorityCandidate} {kind : ExpansionKind}
    {seed : ExpansionSeed} (h : metadataAdmitted (candidate.expansionMetadata kind) seed = true) :
    isMember candidate.publicationSeqFrom candidate.publicationSeqTo seed.sourcePublicationSeq = true ∧
      dateIsEffective candidate.effectiveFrom candidate.effectiveTo seed.asOfDate = true ∧
      (candidate.visibility = .RESTRICTED → publicOnly seed.authorization = false ∧
        scopeAllows candidate.allowedInstitutions seed.authorization.institutions = true) ∧
      applicabilityAllows candidate.applicabilityConditions seed.normalizedConditions = true := by
  unfold metadataAdmitted InsuranceAuthorityCandidate.expansionMetadata at h
  dsimp only at h
  split at h
  · cases h
  split at h
  · cases h
  rename_i hmember
  split at h
  · cases h
  rename_i hfirst
  split at h
  · cases h
  rename_i hlast
  split at h
  · cases h
  rename_i haudience
  refine ⟨by simpa using hmember, dateIsEffective_of hfirst hlast, fun hrestricted => ?_, h⟩
  rw [not_and_or] at haudience
  have hscope := haudience.resolve_left (not_not.mpr hrestricted)
  rw [not_or, Bool.not_eq_true] at hscope
  refine ⟨hscope.1, ?_⟩
  unfold scopeAllows
  rw [Bool.or_eq_true]
  by_cases hempty : candidate.allowedInstitutions.isEmpty = true
  · exact .inl hempty
  · refine .inr ?_
    by_contra hnone
    exact hscope.2 ⟨by simpa using hempty, by simpa using hnone⟩

/-- The gate makes every check, on a unit that has an id. -/
theorem gatePasses_iff (candidate : InsuranceAuthorityCandidate)
    (context : InsuranceAuthorityContext) : GatePasses candidate context ↔
      stripWhitespace candidate.ruleUnitRevisionId ≠ "" ∧
      ∀ name ∈ [AuthorityGateCheckName.publicationMembership, .authorization, .effectivePeriod,
        .applicability], passes candidate context name = true := by
  unfold GatePasses evaluateInsuranceAuthority
  split
  · rename_i hblank
    refine ⟨?_, fun h => absurd hblank h.1⟩
    rintro ⟨decision, hdecision, _⟩
    cases hdecision
  · rename_i hid
    refine ⟨?_, fun h => ⟨_, rfl, fun name hname => ?_⟩⟩
    · rintro ⟨decision, hdecision, hchecks⟩
      cases hdecision
      refine ⟨hid, fun name hname => ?_⟩
      obtain ⟨check, hmem, hcheck, hpassed⟩ := hchecks name hname
      obtain ⟨made, _, rfl⟩ := List.mem_map.mp hmem
      rw [← hcheck]
      exact hpassed
    · refine ⟨makeCheck candidate context name, List.mem_map.mpr ⟨name, ?_, rfl⟩, rfl, h.2 name hname⟩
      cases name <;> decide

/-- The authorization of the gate, beyond what the expansion has checked. -/
theorem authorizationAllows_iff {candidate : InsuranceAuthorityCandidate}
    {authorization : InstitutionAuthorizationContext}
    (hchecked : candidate.visibility = .RESTRICTED → publicOnly authorization = false ∧
      scopeAllows candidate.allowedInstitutions authorization.institutions = true) :
    authorizationAllows candidate authorization = true ↔ AudienceAdmitted candidate authorization := by
  unfold authorizationAllows AudienceAdmitted
  cases hvisibility : candidate.visibility with
  | PUBLIC => simp
  | RESTRICTED =>
    obtain ⟨hscoped, hinstitutions⟩ := hchecked hvisibility
    simp [hscoped, hinstitutions]

theorem mem_admittedIds {seed : ExpansionSeed} {store : RuleContextExpansionStore} {id : String}
    (h : id ∈ admittedIds seed store) : ∃ item ∈ store.expansionMetadata seed,
      item.ruleUnitRevisionId = id ∧ metadataAdmitted item seed = true := by
  obtain ⟨item, hitem, hid⟩ := List.mem_map.mp h
  obtain ⟨hmem, hadmitted⟩ := List.mem_filter.mp hitem
  exact ⟨item, hmem, hid, hadmitted⟩

/-- The content that an expansion returns is that of the admitted units. -/
theorem expandContext_content {seed : ExpansionSeed} {store : RuleContextExpansionStore}
    {expanded : ExpandedInsuranceContext} (h : expandContext seed store = .ok expanded) :
    ∀ content ∈ expanded.contentByUnitId, content.1 ∈ admittedIds seed store := by
  unfold expandContext at h
  dsimp only at h
  generalize (if admittedIds seed store = [] then []
    else store.loadContent (admittedIds seed store)) = loaded at h
  split at h
  · rename_i hexact
    cases h
    intro content hcontent
    exact of_decide_eq_true (List.all_eq_true.mp hexact.1 content hcontent)
  · cases h

/-! ## What the gate says of a unit that is loaded -/

/-- **A unit whose content is loaded passes the gate** exactly where its other scopes admit
the audience, too. -/
theorem expansion_passes_gate_iff (seed : ExpansionSeed) (store : RuleContextExpansionStore)
    (candidate : InsuranceAuthorityCandidate) (context : InsuranceAuthorityContext)
    (hrequest : SameRequest seed context) (hprojects : Projects seed store candidate)
    (hdigest : candidate.manifestDigestValid = true) :
    (∀ expanded, expandContext seed store = .ok expanded →
      ∀ content ∈ expanded.contentByUnitId, content.1 ∈ admittedIds seed store) ∧
    (candidate.ruleUnitRevisionId ∈ admittedIds seed store →
      (GatePasses candidate context ↔ stripWhitespace candidate.ruleUnitRevisionId ≠ "" ∧
        AudienceAdmitted candidate seed.authorization)) := by
  refine ⟨fun expanded => expandContext_content, fun hloaded => ?_⟩
  obtain ⟨item, hitem, hid, hadmitted⟩ := mem_admittedIds hloaded
  obtain ⟨kind, rfl⟩ := hprojects item hitem hid
  obtain ⟨hmember, heffective, haudience, happlies⟩ := metadataAdmitted_checks hadmitted
  rw [gatePasses_iff, ← authorizationAllows_iff haudience]
  refine and_congr_right fun _ => ⟨fun h => ?_, fun h name hname => ?_⟩
  · have hauthorized := h .authorization (by decide)
    unfold passes at hauthorized
    rw [hrequest.authorization] at hauthorized
    exact hauthorized
  · simp only [List.mem_cons, List.not_mem_nil, or_false] at hname
    rcases hname with rfl | rfl | rfl | rfl
    · unfold passes
      rw [hdigest, hrequest.sourcePublicationSeq, hmember]
      rfl
    · unfold passes
      rw [hrequest.authorization]
      exact h
    · unfold passes
      rw [hrequest.asOfDate]
      exact heffective
    · unfold passes
      rw [hrequest.normalizedConditions]
      exact happlies

namespace Sample

/-- A unit for one institution, and for the regions `regions`. -/
def unit (regions : List String) : InsuranceAuthorityCandidate where
  ruleUnitRevisionId := "unit"
  sourceId := "source"
  indexGenerationId := "generation"
  indexUuid := "index"
  publicationSeqFrom := 1
  visibility := .RESTRICTED
  allowedInstitutions := ["INST-1"]
  allowedRegions := regions
  citationUri := "citation"
  manifestCitationUri := "citation"
  metadataDigestValid := true
  visibilityDigestValid := true
  manifestDigestValid := true
  publicationInterval := by
    intro _ h
    cases h
  effectivePeriod := by
    intro _ _ h
    cases h

/-- An operator of the institution, in the north. -/
def authorization : InstitutionAuthorizationContext where
  institutions := ["INST-1"]
  regions := ["north"]

def seed : ExpansionSeed where
  ruleUnitRevisionId := "selected"
  sourceId := "source"
  sourcePublicationSeq := 7
  asOfDate := 0
  authorization := authorization
  allowedExpansionKinds := [.definition]

def context : InsuranceAuthorityContext where
  sourceId := "source"
  indexGenerationId := "generation"
  indexUuid := "index"
  sourcePublicationSeq := 7
  asOfDate := 0
  authorization := authorization

def store (regions : List String) : RuleContextExpansionStore where
  expansionMetadata _ := [(unit regions).expansionMetadata .definition]
  loadContent ids := ids.map fun id => (id, "text")

theorem store_projects (regions : List String) : Projects seed (store regions) (unit regions) :=
  fun _ hitem _ => ⟨.definition, List.mem_singleton.mp hitem⟩

theorem sameRequest : SameRequest seed context := ⟨rfl, rfl, rfl, rfl, rfl⟩

theorem unit_loaded (regions : List String) :
    (unit regions).ruleUnitRevisionId ∈ admittedIds seed (store regions) := by
  have hadmitted : metadataAdmitted ((unit regions).expansionMetadata .definition) seed = true := rfl
  exact List.mem_map.mpr ⟨_, List.mem_filter.mpr ⟨List.mem_singleton_self _, hadmitted⟩, rfl⟩

end Sample

theorem northern_unit_passes :
    GatePasses (Sample.unit ["north"]) Sample.context ↔
      stripWhitespace "unit" ≠ "" ∧ AudienceAdmitted (Sample.unit ["north"]) Sample.authorization :=
  (expansion_passes_gate_iff Sample.seed (Sample.store ["north"]) (Sample.unit ["north"])
    Sample.context Sample.sameRequest (Sample.store_projects ["north"]) rfl).2
    (Sample.unit_loaded ["north"])

/-- A unit for the south is loaded for an operator in the north, and the gate refuses it. -/
theorem southern_unit_leaks :
    expandContext Sample.seed (Sample.store ["south"]) =
        .ok ⟨["unit"], [("unit", "text")], 0⟩ ∧
      ¬ GatePasses (Sample.unit ["south"]) Sample.context := by
  refine ⟨by rfl, fun h => ?_⟩
  have hauthorized := ((gatePasses_iff _ _).mp h).2 .authorization (by decide)
  revert hauthorized
  decide +kernel

end ProofAgent.Knowledge
