import ProofAgent.Base.Url
import ProofAgent.Base.PyValue

/-! # The egress policy

A policy allows exact HTTPS origins, each with the networks that its addresses lie in.
A hop is admitted when its origin is one of them and every address of the DNS answer lies
in a network of that origin. -/
namespace ProofAgent.Egress

open Base

/-! ## Addresses and networks -/

inductive IpVersion where
  | v4 | v6
  deriving DecidableEq

/-- The bits of an address. -/
def IpVersion.width : IpVersion → Nat
  | v4 => 32
  | v6 => 128

structure IpAddress where
  version : IpVersion
  value : Nat
  scopeId : Option String
  deriving DecidableEq

structure IpNetwork where
  version : IpVersion
  networkAddress : Nat
  prefixLength : Nat
  deriving DecidableEq

/-- `address in network`. -/
def IpNetwork.contains (network : IpNetwork) (address : IpAddress) : Bool :=
  let hosts := 2 ^ (network.version.width - network.prefixLength)
  address.version = network.version && address.value / hosts * hosts = network.networkAddress

/-- The functions of the language that read URLs, addresses and texts; `none` where one of
them raises a `ValueError`. -/
structure EgressLibrary extends UrlParser where
  ipAddress : String → Option IpAddress
  /-- `ip_network(value, strict=True)`. -/
  ipNetwork : String → Option IpNetwork
  addressText : IpAddress → String
  upper : String → String
  isAlpha : String → Bool

/-! ## Origins -/

@[ext] structure ExactHttpsOrigin where
  host : String
  port : Nat
  host_ne : host ≠ ""
  port_pos : 1 ≤ port
  port_le : port ≤ 65535

instance : DecidableEq ExactHttpsOrigin :=
  fun _ _ => decidable_of_iff _ ExactHttpsOrigin.ext_iff.symm

/-- `ExactHttpsOrigin(host=..., port=...)`. -/
def ExactHttpsOrigin.of? (host : String) (port : Nat) : Option ExactHttpsOrigin :=
  if h : host ≠ "" ∧ 1 ≤ port ∧ port ≤ 65535 then some ⟨host, port, h.1, h.2.1, h.2.2⟩ else none

def ExactHttpsOrigin.value (origin : ExactHttpsOrigin) : String :=
  "https://" ++ origin.host ++ ":" ++ toString origin.port

inductive EgressError where
  | value (message : String)
  /-- `EgressDeniedError`. -/
  | denied (reasonCode : String) (origin : Option String)
  | assertion (message : String)
  /-- What the transport raised. -/
  | transport (message : String)
  deriving DecidableEq

variable (library : EgressLibrary)

/-- `_origin_from_url`. -/
def originFromUrl (url : String) : Except EgressError ExactHttpsOrigin :=
  match library.urlsplit url with
  | none => .error (.denied "url_invalid" none)
  | some parsed =>
    if library.lower parsed.scheme ≠ "https" then .error (.denied "https_required" none)
    else if parsed.username.isSome = true ∨ parsed.password.isSome = true then
      .error (.denied "userinfo_forbidden" none)
    else if parsed.fragment ≠ "" then .error (.denied "fragment_forbidden" none)
    else match parsed.hostname with
      | none => .error (.denied "exact_host_required" none)
      | some hostname =>
        if '*' ∈ hostname.toList then .error (.denied "exact_host_required" none)
        else
          let origin : Option ExactHttpsOrigin := do
            let host ← library.encodeIdna hostname
            match ← parsed.port with
            | none | some 0 => ExactHttpsOrigin.of? (library.lower host) 443
            | some port => ExactHttpsOrigin.of? (library.lower host) port
          match origin with
          | none => .error (.denied "url_invalid" none)
          | some origin => .ok origin

/-! ## Policies -/

structure EgressOriginRule where
  origin : ExactHttpsOrigin
  allowedIpNetworks : List String
  deriving DecidableEq

/-- The rules of an `EgressPolicyVersion`; their origins are unique. -/
structure EgressPolicyVersion where
  rules : List EgressOriginRule
  distinct : (rules.map EgressOriginRule.origin).Nodup

/-- `_CompiledOriginRule`, with the origin that it is kept under. -/
structure CompiledOriginRule where
  origin : ExactHttpsOrigin
  networks : List IpNetwork
  deriving DecidableEq

structure CompiledEgressPolicy where
  rules : List CompiledOriginRule
  distinct : (rules.map CompiledOriginRule.origin).Nodup

/-- `_CompiledOriginRule.from_contract`. -/
def CompiledOriginRule.fromContract (rule : EgressOriginRule) : Option CompiledOriginRule :=
  (rule.allowedIpNetworks.mapM library.ipNetwork).map (⟨rule.origin, ·⟩)

theorem fromContract_origin {rule : EgressOriginRule} {compiled : CompiledOriginRule}
    (h : CompiledOriginRule.fromContract library rule = some compiled) :
    compiled.origin = rule.origin := by
  unfold CompiledOriginRule.fromContract at h
  obtain ⟨_, _, rfl⟩ := Option.map_eq_some_iff.mp h
  rfl

theorem fromContract_origins : ∀ {rules : List EgressOriginRule} {compiled : List CompiledOriginRule},
    rules.mapM (CompiledOriginRule.fromContract library) = some compiled →
    compiled.map CompiledOriginRule.origin = rules.map EgressOriginRule.origin
  | [], compiled, h => by
    cases h
    rfl
  | rule :: rules, compiled, h => by
    rw [List.mapM_cons] at h
    obtain ⟨first, hfirst, h⟩ := Option.bind_eq_some_iff.mp h
    obtain ⟨rest, hrest, h⟩ := Option.bind_eq_some_iff.mp h
    cases h
    rw [List.map_cons, List.map_cons, fromContract_origin library hfirst, fromContract_origins hrest]

/-- `CompiledEgressPolicy(version)`. -/
def CompiledEgressPolicy.ofVersion (version : EgressPolicyVersion) : Option CompiledEgressPolicy :=
  match h : version.rules.mapM (CompiledOriginRule.fromContract library) with
  | none => none
  | some rules => some ⟨rules, fromContract_origins library h ▸ version.distinct⟩

namespace CompiledEgressPolicy

variable (policy : CompiledEgressPolicy)

/-- The rule of an origin. -/
def rule? (origin : ExactHttpsOrigin) : Option CompiledOriginRule :=
  policy.rules.find? fun rule => rule.origin = origin

/-- `authorize_origin`. -/
def authorizeOrigin (url : String) : Except EgressError ExactHttpsOrigin := do
  let origin ← originFromUrl library url
  if (policy.rule? origin).isNone = true then
    .error (.denied "origin_not_allowed" (some origin.value))
  else return origin

end CompiledEgressPolicy

/-- `_CompiledOriginRule.allows`. -/
def CompiledOriginRule.allows (rule : CompiledOriginRule) (address : IpAddress) : Bool :=
  rule.networks.any fun network => network.contains address

structure AdmittedEgressHop where
  origin : ExactHttpsOrigin
  addresses : List String

/-- The loop of `admit` over the answers. -/
def admittedAddresses (rule : CompiledOriginRule) (origin : ExactHttpsOrigin) :
    List String → Except EgressError (List String)
  | [] => .ok []
  | value :: answers =>
    match library.ipAddress value with
    | none => .error (.denied "dns_address_invalid" (some origin.value))
    | some address =>
      if rule.allows address = true then
        (admittedAddresses rule origin answers).map (library.addressText address :: ·)
      else .error (.denied "dns_address_not_allowed" (some origin.value))

/-- `admit`. -/
def CompiledEgressPolicy.admit (policy : CompiledEgressPolicy) (url : String)
    (resolvedAddresses : List String) : Except EgressError AdmittedEgressHop := do
  let origin ← policy.authorizeOrigin library url
  match policy.rule? origin with
  | none => .error (.denied "origin_not_allowed" (some origin.value))
  | some rule =>
    if resolvedAddresses = [] then .error (.denied "dns_no_addresses" (some origin.value))
    else do
      let normalized ← admittedAddresses library rule origin resolvedAddresses
      return ⟨origin, sortedSet normalized⟩

/-! ## What is admitted -/

section
variable {library} {policy : CompiledEgressPolicy} {url : String} {origin : ExactHttpsOrigin}

theorem authorizeOrigin_ok (h : policy.authorizeOrigin library url = .ok origin) :
    originFromUrl library url = .ok origin ∧ ∃ rule ∈ policy.rules, rule.origin = origin ∧
      policy.rule? origin = some rule := by
  unfold CompiledEgressPolicy.authorizeOrigin at h
  cases horigin : originFromUrl library url with
  | error e =>
    rw [horigin] at h
    cases h
  | ok found =>
    rw [horigin] at h
    change (if (policy.rule? found).isNone = true then _ else Except.ok found) = _ at h
    cases hrule : policy.rule? found with
    | none =>
      rw [hrule] at h
      cases h
    | some rule =>
      rw [hrule] at h
      cases h
      unfold CompiledEgressPolicy.rule? at hrule
      exact ⟨rfl, rule, List.mem_of_find?_eq_some hrule, by simpa using List.find?_some hrule, hrule⟩

/-- An origin is read out of an HTTPS URL only. -/
theorem originFromUrl_https (h : originFromUrl library url = .ok origin) :
    ∃ parts, library.urlsplit url = some parts ∧ library.lower parts.scheme = "https" := by
  unfold originFromUrl at h
  cases hparts : library.urlsplit url with
  | none =>
    rw [hparts] at h
    cases h
  | some parts =>
    rw [hparts] at h
    refine ⟨parts, rfl, ?_⟩
    by_contra hscheme
    dsimp only at h
    rw [if_pos hscheme] at h
    cases h

/-- Every address of the answer is read, and lies in a network of the rule. -/
theorem admittedAddresses_ok {rule : CompiledOriginRule} :
    ∀ {answers normalized : List String}, admittedAddresses library rule origin answers = .ok normalized →
      normalized.length = answers.length ∧
      (∀ value ∈ answers, ∃ address, library.ipAddress value = some address ∧
        rule.allows address = true) ∧
      ∀ text ∈ normalized, ∃ value ∈ answers, ∃ address,
        library.ipAddress value = some address ∧ text = library.addressText address
  | [], normalized, h => by
    cases h
    exact ⟨rfl, fun _ hvalue => (nomatch hvalue), fun _ htext => (nomatch htext)⟩
  | value :: answers, normalized, h => by
    unfold admittedAddresses at h
    cases haddress : library.ipAddress value with
    | none =>
      rw [haddress] at h
      cases h
    | some address =>
      rw [haddress] at h
      dsimp only at h
      by_cases hallowed : rule.allows address = true
      swap
      · rw [if_neg hallowed] at h
        cases h
      rw [if_pos hallowed] at h
      cases hrest : admittedAddresses library rule origin answers with
      | error e =>
        rw [hrest] at h
        cases h
      | ok rest =>
        rw [hrest] at h
        cases h
        obtain ⟨hlength, hvalues, htexts⟩ := admittedAddresses_ok hrest
        refine ⟨congrArg (· + 1) hlength, fun other hother => ?_, fun text htext => ?_⟩
        · rcases List.mem_cons.mp hother with rfl | hother
          · exact ⟨address, haddress, hallowed⟩
          · exact hvalues other hother
        · rcases List.mem_cons.mp htext with rfl | htext
          · exact ⟨value, List.mem_cons_self, address, haddress, rfl⟩
          · obtain ⟨other, hother, hrest⟩ := htexts text htext
            exact ⟨other, List.mem_cons_of_mem _ hother, hrest⟩

/-- **What is admitted**: an origin of the policy, and answers within its networks. -/
theorem admit_ok {answers : List String} {admitted : AdmittedEgressHop}
    (h : policy.admit library url answers = .ok admitted) :
    policy.authorizeOrigin library url = .ok admitted.origin ∧
    ∃ rule ∈ policy.rules, rule.origin = admitted.origin ∧
      (∀ value ∈ answers, ∃ address, library.ipAddress value = some address ∧
        rule.allows address = true) ∧
      ∃ first rest, admitted.addresses = first :: rest ∧ ∃ value ∈ answers, ∃ address,
        library.ipAddress value = some address ∧ first = library.addressText address := by
  unfold CompiledEgressPolicy.admit at h
  cases horigin : policy.authorizeOrigin library url with
  | error e =>
    rw [horigin] at h
    cases h
  | ok origin =>
    rw [horigin] at h
    obtain ⟨_, rule, hrule, hsame, hfind⟩ := authorizeOrigin_ok horigin
    change (match policy.rule? origin with
      | none => _
      | some rule => _) = _ at h
    rw [hfind] at h
    dsimp only at h
    by_cases hempty : answers = []
    · rw [if_pos hempty] at h
      cases h
    rw [if_neg hempty] at h
    cases hadmitted : admittedAddresses library rule origin answers with
    | error e =>
      rw [hadmitted] at h
      cases h
    | ok normalized =>
      rw [hadmitted] at h
      cases h
      obtain ⟨hlength, hvalues, htexts⟩ := admittedAddresses_ok hadmitted
      refine ⟨rfl, rule, hrule, hsame, hvalues, ?_⟩
      cases haddresses : sortedSet normalized with
      | nil =>
        have hnone : normalized = [] := List.eq_nil_iff_forall_not_mem.mpr fun text htext => by
          have hmem := mem_sortedSet.mpr htext
          rw [haddresses] at hmem
          cases hmem
        rw [hnone] at hlength
        exact absurd (List.eq_nil_of_length_eq_zero hlength.symm) hempty
      | cons first rest =>
        refine ⟨first, rest, rfl, htexts first (mem_sortedSet.mp ?_)⟩
        rw [haddresses]
        exact List.mem_cons_self

end

end ProofAgent.Egress
