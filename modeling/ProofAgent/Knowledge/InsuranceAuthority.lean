import ProofAgent.Contracts.RunExecution

/-! # The authority gate of rule units

A candidate that retrieval has ranked is checked against its publication, its audience, its
dates and its conditions, whatever its relevance. All checks are made, in a fixed order, and
the result has each of them once. -/
namespace ProofAgent.Knowledge

open Base

/-- A calendar date, counted in days. -/
abbrev Date := Int

inductive Visibility where
  | PUBLIC | RESTRICTED
  deriving DecidableEq

/-- `InstitutionAuthorizationContext.public_only`. -/
def publicOnly (authorization : InstitutionAuthorizationContext) : Bool :=
  authorization.institutions.isEmpty && authorization.regions.isEmpty &&
    authorization.channels.isEmpty && authorization.roles.isEmpty &&
    authorization.businessLines.isEmpty

structure InsuranceAuthorityContext where
  sourceId : String
  indexGenerationId : String
  indexUuid : String
  sourcePublicationSeq : Nat
  asOfDate : Date
  authorization : InstitutionAuthorizationContext
  normalizedConditions : List (String × String) := []

/-- `InsuranceAuthorityCandidate`, whose intervals are valid. -/
structure InsuranceAuthorityCandidate where
  ruleUnitRevisionId : String
  sourceId : String
  indexGenerationId : String
  indexUuid : String
  publicationSeqFrom : Nat
  publicationSeqTo : Option Nat := none
  visibility : Visibility
  allowedInstitutions : List String := []
  allowedRegions : List String := []
  allowedChannels : List String := []
  allowedRoles : List String := []
  allowedBusinessLines : List String := []
  effectiveFrom : Option Date := none
  effectiveTo : Option Date := none
  applicabilityConditions : List (String × String) := []
  precedenceConflict : Bool := false
  citationUri : String
  manifestCitationUri : String
  metadataDigestValid : Bool
  visibilityDigestValid : Bool
  manifestDigestValid : Bool
  publicationInterval : ∀ last, publicationSeqTo = some last → publicationSeqFrom ≤ last
  effectivePeriod : ∀ first last, effectiveFrom = some first → effectiveTo = some last →
    first ≤ last

/-! ## Checks -/

inductive AuthorityGateCheckName where
  | publishedVersion | metadataDigest | visibilityDigest | publicationMembership | visibility
  | authorization | effectivePeriod | applicability | precedence | citation
  deriving DecidableEq

/-- The reason code of a check that fails. -/
def AuthorityGateCheckName.reasonCode : AuthorityGateCheckName → String
  | publishedVersion => "WRONG_PUBLISHED_VERSION"
  | metadataDigest => "METADATA_DIGEST_MISMATCH"
  | visibilityDigest => "VISIBILITY_DIGEST_MISMATCH"
  | publicationMembership => "OUTSIDE_PUBLICATION_MEMBERSHIP"
  | visibility => "INVALID_VISIBILITY_SCOPE"
  | authorization => "ACL_MISMATCH"
  | effectivePeriod => "OUTSIDE_EFFECTIVE_PERIOD"
  | applicability => "CONDITIONS_DO_NOT_MATCH"
  | precedence => "PRECEDENCE_CONFLICT"
  | citation => "CITATION_NOT_IN_MANIFEST"

/-- `_CHECK_ORDER`. -/
def checkOrder : List AuthorityGateCheckName :=
  [.publishedVersion, .metadataDigest, .visibilityDigest, .publicationMembership, .visibility,
    .authorization, .effectivePeriod, .applicability, .precedence, .citation]

/-- Whether a scope admits an audience; an empty scope admits every one. -/
def scopeAllows (allowed admitted : List String) : Bool :=
  allowed.isEmpty || allowed.any fun item => admitted.contains item

/-- Whether a publication is in the interval of a unit. -/
def isMember (first : Nat) (last : Option Nat) (seq : Nat) : Bool :=
  first ≤ seq && last.all fun last => seq ≤ last

section
variable (candidate : InsuranceAuthorityCandidate)

/-- `_visibility_shape_valid`. -/
def visibilityShapeValid : Bool :=
  candidate.visibility = .RESTRICTED || (candidate.allowedInstitutions.isEmpty &&
    candidate.allowedRegions.isEmpty && candidate.allowedChannels.isEmpty &&
    candidate.allowedRoles.isEmpty && candidate.allowedBusinessLines.isEmpty)

/-- `_authorization_allows`. -/
def authorizationAllows (authorization : InstitutionAuthorizationContext) : Bool :=
  candidate.visibility = .PUBLIC || (!publicOnly authorization &&
    [(candidate.allowedInstitutions, authorization.institutions),
      (candidate.allowedRegions, authorization.regions),
      (candidate.allowedChannels, authorization.channels),
      (candidate.allowedRoles, authorization.roles),
      (candidate.allowedBusinessLines, authorization.businessLines)].all
        fun scope => scopeAllows scope.1 scope.2)

end

/-- `_date_is_effective`. -/
def dateIsEffective (effectiveFrom effectiveTo : Option Date) (asOf : Date) : Bool :=
  !(effectiveFrom.any (fun first => asOf < first) || effectiveTo.any fun last => last < asOf)

/-- `_applicability_allows`. -/
def applicabilityAllows (required conditions : List (String × String)) : Bool :=
  required.all fun p => conditions.lookup p.1 = some p.2

/-- Whether a candidate passes a check. -/
def passes (candidate : InsuranceAuthorityCandidate) (context : InsuranceAuthorityContext) :
    AuthorityGateCheckName → Bool
  | .publishedVersion =>
    candidate.sourceId = context.sourceId &&
      candidate.indexGenerationId = context.indexGenerationId &&
      candidate.indexUuid = context.indexUuid
  | .metadataDigest => candidate.metadataDigestValid
  | .visibilityDigest => candidate.visibilityDigestValid
  | .publicationMembership => candidate.manifestDigestValid &&
      isMember candidate.publicationSeqFrom candidate.publicationSeqTo context.sourcePublicationSeq
  | .visibility => visibilityShapeValid candidate
  | .authorization => authorizationAllows candidate context.authorization
  | .effectivePeriod =>
    dateIsEffective candidate.effectiveFrom candidate.effectiveTo context.asOfDate
  | .applicability =>
    applicabilityAllows candidate.applicabilityConditions context.normalizedConditions
  | .precedence => !candidate.precedenceConflict
  | .citation => candidate.citationUri = candidate.manifestCitationUri

/-! ## Results -/

/-- A check that has been made; one that failed says why. -/
structure AuthorityGateCheck where
  check : AuthorityGateCheckName
  passed : Bool
  reasonCode : Option String
  explained : reasonCode.isSome = !passed

inductive FailureHandling where
  | clarify | conflict | noRecommendation
  deriving DecidableEq

/-- `InsuranceRuleAuthorityGateResult`: every check once, and a way to handle a failure. -/
structure AuthorityGateResult where
  ruleUnitRevisionId : String
  checks : List AuthorityGateCheck
  failureHandling : Option FailureHandling
  distinct : (checks.map (·.check)).Nodup
  complete : ∀ name, name ∈ checks.map (·.check)
  handled : failureHandling.isNone = checks.all (·.passed)

/-- `PASS`, rather than `FAIL`. -/
def AuthorityGateResult.outcomePass (result : AuthorityGateResult) : Bool :=
  result.failureHandling.isNone

/-- The check of a candidate by its name. -/
def makeCheck (candidate : InsuranceAuthorityCandidate) (context : InsuranceAuthorityContext)
    (name : AuthorityGateCheckName) : AuthorityGateCheck where
  check := name
  passed := passes candidate context name
  reasonCode := if passes candidate context name = true then none else some name.reasonCode
  explained := by cases passes candidate context name <;> rfl

/-- The checks of a candidate that fail, by their names. -/
def failedNames (candidate : InsuranceAuthorityCandidate) (context : InsuranceAuthorityContext) :
    List AuthorityGateCheckName :=
  checkOrder.filter fun name => !passes candidate context name

/-- What a failure comes to. -/
def failureHandling (failed : List AuthorityGateCheckName) : Option FailureHandling :=
  if failed = [] then none
  else if .precedence ∈ failed then some .conflict
  else if failed = [.applicability] then some .clarify
  else some .noRecommendation

theorem failureHandling_isNone (failed : List AuthorityGateCheckName) :
    (failureHandling failed).isNone = failed.isEmpty := by
  unfold failureHandling
  cases failed with
  | nil => rfl
  | cons name rest =>
    rw [if_neg (List.cons_ne_nil name rest)]
    split
    · rfl
    · split <;> rfl

theorem makeCheck_names (candidate : InsuranceAuthorityCandidate)
    (context : InsuranceAuthorityContext) :
    (checkOrder.map (makeCheck candidate context)).map (·.check) = checkOrder := rfl

theorem failedNames_isEmpty (candidate : InsuranceAuthorityCandidate)
    (context : InsuranceAuthorityContext) : (failedNames candidate context).isEmpty =
      (checkOrder.map (makeCheck candidate context)).all (·.passed) := by
  unfold failedNames
  rw [Bool.eq_iff_iff, List.isEmpty_iff, List.filter_eq_nil_iff, List.all_map, List.all_eq_true]
  refine forall₂_congr fun name _ => ?_
  rw [Bool.not_eq_true', Bool.not_eq_false]
  rfl

structure InsuranceAuthorityDecision where
  admitted : Bool
  /-- `none` for `admitted`. -/
  outcome : Option FailureHandling
  gateResult : AuthorityGateResult

/-- White space in the sense of `strip_whitespace`. -/
def isWhitespace (c : Char) : Bool :=
  let n := c.toNat
  (9 ≤ n && n ≤ 13) || n = 32 || n = 0x85 || n = 0xa0 || n = 0x1680 ||
    (0x2000 ≤ n && n ≤ 0x200a) || n = 0x2028 || n = 0x2029 || n = 0x202f || n = 0x205f || n = 0x3000

/-- `NonBlankStr`, as a field stores it. -/
def stripWhitespace (value : String) : String :=
  .ofList ((value.toList.dropWhile isWhitespace).reverse.dropWhile isWhitespace).reverse

/-- `evaluate_insurance_authority`; the result takes no id of white space only. -/
def evaluateInsuranceAuthority (candidate : InsuranceAuthorityCandidate)
    (context : InsuranceAuthorityContext) : Except String InsuranceAuthorityDecision :=
  if stripWhitespace candidate.ruleUnitRevisionId = "" then .error "rule_unit_revision_id"
  else
    let handling := failureHandling (failedNames candidate context)
    .ok {
      admitted := handling.isNone
      outcome := handling
      gateResult := {
        ruleUnitRevisionId := stripWhitespace candidate.ruleUnitRevisionId
        checks := checkOrder.map (makeCheck candidate context)
        failureHandling := handling
        distinct := by rw [makeCheck_names]; decide
        complete := fun name => by rw [makeCheck_names]; cases name <;> decide
        handled := (failureHandling_isNone _).trans (failedNames_isEmpty candidate context) } }

end ProofAgent.Knowledge
