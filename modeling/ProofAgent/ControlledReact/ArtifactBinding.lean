import ProofAgent.Contracts.ControlledReactJson

/-! # Digest-bound references

A snapshot and an observation's truth are named by references that end in the
digest of their content. A truth's digest is taken while the truth carries its
base reference, which has no digest yet. -/
namespace ProofAgent

open Base

def snapshotBindingSchemaVersion : String := "proofagent.controlled-react.snapshot-binding.v1"

def observationTruthBindingSchemaVersion : String :=
  "proofagent.controlled-react.observation-truth-binding.v1"

def controlledReactSnapshotRefPrefix : String := "controlled-react://"

def observationTruthRefPrefix : String := "observation://"

/-- `PA_RUNTIME_001`. -/
def runtimeError (message fix : String) : ReactError := .proofAgent "PA_RUNTIME_001" message fix

def invalidReferenceError (artifactName reference : String) : ReactError :=
  runtimeError ("invalid " ++ artifactName ++ " reference: " ++ reference)
    "Use the immutable digest-bearing reference emitted at commit time."

def identityError (artifactName reference : String) : ReactError :=
  runtimeError (artifactName ++ " identity or digest does not match: " ++ reference)
    "Discard the stale artifact and restart the run."

/-- `PureWindowsPath(value).drive` is not empty; the value has no separator. -/
def hasDrive (value : String) : Bool := value.toList[1]? = some ':'

def safeIdentifier (value : String) : Bool :=
  value ≠ "" && value ≠ "." && value ≠ ".." &&
    value.toList.all (fun c => c ≠ '/' && c ≠ '\\' && c ≠ '\x00') && !hasDrive value

def requireSafeIdentifier (value label : String) : Except ReactError String :=
  if safeIdentifier value then .ok value
  else .error (runtimeError ("invalid controlled ReAct artifact " ++ label)
    "Use a non-empty single-segment identifier without path separators.")

/-- `[0-9a-f]{64}`. -/
def isSha256Digest (value : String) : Bool :=
  value.length = 64 &&
    value.toList.all fun c => ('0' ≤ c && c ≤ '9') || ('a' ≤ c && c ≤ 'f')

def requireSha256Digest (value : String) : Except ReactError String :=
  if isSha256Digest value then .ok value
  else .error (invalidReferenceError "SHA-256 artifact" value)

/-- The parts between slashes of what follows the scheme. -/
def referenceParts (scheme reference : String) : Option (List String) :=
  if scheme.toList.isPrefixOf reference.toList then
    some (((reference.toList.drop scheme.toList.length).splitOn '/').map String.ofList)
  else none

/-! ## References -/

/-- `_observation_base_reference`. -/
def observationBaseReference (runId observationId : String) : String :=
  observationTruthRefPrefix ++ runId ++ "/" ++ observationId ++ "/truth"

def observationReference (runId observationId digest : String) : String :=
  observationBaseReference runId observationId ++ "/sha256/" ++ digest

def snapshotReference (runId snapshotId digest : String) : String :=
  controlledReactSnapshotRefPrefix ++ runId ++ "/" ++ snapshotId ++ "/sha256/" ++ digest

def parseObservationReference (reference : String) (digestRequired : Bool) :
    Except ReactError (String × String × Option String) :=
  match referenceParts observationTruthRefPrefix reference with
  | some [runId, observationId, "truth"] =>
    if digestRequired then .error (invalidReferenceError "observation truth" reference)
    else do
      let runId ← requireSafeIdentifier runId "run id"
      let observationId ← requireSafeIdentifier observationId "observation id"
      return (runId, observationId, none)
  | some [runId, observationId, "truth", "sha256", digest] => do
    let runId ← requireSafeIdentifier runId "run id"
    let observationId ← requireSafeIdentifier observationId "observation id"
    let digest ← requireSha256Digest digest
    return (runId, observationId, some digest)
  | _ => .error (invalidReferenceError "observation truth" reference)

def parseSnapshotReference (reference : String) : Except ReactError (String × String × String) :=
  match referenceParts controlledReactSnapshotRefPrefix reference with
  | some [runId, snapshotId, "sha256", digest] => do
    let runId ← requireSafeIdentifier runId "run id"
    let snapshotId ← requireSafeIdentifier snapshotId "snapshot id"
    let digest ← requireSha256Digest digest
    return (runId, snapshotId, digest)
  | _ => .error (invalidReferenceError "controlled ReAct snapshot" reference)

/-! ## Bindings -/

structure ObservationTruthArtifactBinding where
  baseReference : String
  reference : String
  digest : String
  runId : String
  observationId : String
  truth : ObservationTruthArtifact

structure SnapshotArtifactBinding where
  reference : String
  digest : String
  runId : String
  snapshotId : String
  payload : Json

/-- What an observation truth's digest is taken of. -/
def observationEnvelope (runId : String) (normalized : ObservationTruthArtifact) : Json :=
  .obj [("schema_version", .str observationTruthBindingSchemaVersion), ("run_id", .str runId),
    ("payload", normalized.payload)]

/-- What a snapshot's digest is taken of. -/
def snapshotEnvelope (snapshot : ControlledReActRunStateSnapshot) : Json :=
  .obj [("schema_version", .str snapshotBindingSchemaVersion),
    ("payload", .obj snapshot.jsonFields)]

section
variable (rt : Runtime)

/-- `_binding_digest`. -/
def bindingDigest (envelope : Json) : String := rt.sha256 envelope.canonical

def bindObservationTruth (truth : ObservationTruthArtifact) :
    Except ReactError ObservationTruthArtifactBinding := do
  let (runId, observationId, suppliedDigest) ← parseObservationReference truth.truthRef false
  require (truth.observationId = observationId)
    (identityError "controlled ReAct observation truth" truth.truthRef)
  let baseReference := observationBaseReference runId observationId
  let normalized := truth.withTruthRef baseReference
  let digest := bindingDigest rt (observationEnvelope runId normalized)
  let reference := baseReference ++ "/sha256/" ++ digest
  require (suppliedDigest = none ∨ suppliedDigest = some digest ∧ truth.truthRef = reference)
    (identityError "controlled ReAct observation truth" truth.truthRef)
  return { baseReference, reference, digest, runId, observationId
           truth := normalized.withTruthRef reference }

def requireBoundObservationTruth (truth : ObservationTruthArtifact) :
    Except ReactError ObservationTruthArtifactBinding := do
  let (_, _, suppliedDigest) ← parseObservationReference truth.truthRef true
  let binding ← bindObservationTruth rt truth
  require (suppliedDigest = some binding.digest)
    (identityError "controlled ReAct observation truth" truth.truthRef)
  return binding

def bindControlledReactSnapshot (snapshot : ControlledReActRunStateSnapshot) :
    Except ReactError SnapshotArtifactBinding := do
  let runId ← requireSafeIdentifier snapshot.runId "run id"
  let snapshotId ← requireSafeIdentifier snapshot.snapshotId "snapshot id"
  require (snapshot.state.runId = runId)
    (identityError "controlled ReAct snapshot" snapshot.runId)
  let digest := bindingDigest rt (snapshotEnvelope snapshot)
  return { reference := snapshotReference runId snapshotId digest, digest, runId, snapshotId
           payload := .obj snapshot.jsonFields }

def verifyControlledReactSnapshotBinding (snapshot : ControlledReActRunStateSnapshot)
    (reference : String) : Except ReactError SnapshotArtifactBinding := do
  let (runId, snapshotId, digest) ← parseSnapshotReference reference
  let binding ← bindControlledReactSnapshot rt snapshot
  require (binding.runId = runId ∧ binding.snapshotId = snapshotId ∧ binding.digest = digest ∧
    binding.reference = reference) (identityError "controlled ReAct snapshot" reference)
  return binding

/-! ## What a binding says -/

theorem referenceParts_eq {scheme reference : String} {parts : List String}
    (h : referenceParts scheme reference = some parts) :
    reference.toList = scheme.toList ++ ['/'].intercalate (parts.map String.toList) := by
  unfold referenceParts at h
  split at h
  · rename_i hp
    obtain ⟨rest, hrest⟩ := List.isPrefixOf_iff_prefix.mp hp
    cases h
    rw [← hrest, List.drop_left, List.map_map]
    have hid : (String.toList ∘ String.ofList) = id := funext fun l => String.toList_ofList
    rw [hid, List.map_id, List.intercalate_splitOn]
  · cases h

theorem eq_of_toList {a b : String} (h : a.toList = b.toList) : a = b := String.toList_inj.mp h

theorem requireSafeIdentifier_ok {value label v : String}
    (h : requireSafeIdentifier value label = .ok v) : v = value ∧ safeIdentifier value = true := by
  unfold requireSafeIdentifier at h
  split at h
  · rename_i hs
    exact ⟨(Except.ok.inj h).symm, hs⟩
  · cases h

theorem requireSha256Digest_ok {value v : String} (h : requireSha256Digest value = .ok v) :
    v = value ∧ isSha256Digest value = true := by
  unfold requireSha256Digest at h
  split at h
  · rename_i hs
    exact ⟨(Except.ok.inj h).symm, hs⟩
  · cases h

/-- A reference that was parsed is the one that its parts spell. -/
theorem parseObservationReference_ok {reference runId observationId : String} {required : Bool}
    {d : Option String}
    (h : parseObservationReference reference required = .ok (runId, observationId, d)) :
    safeIdentifier runId = true ∧ safeIdentifier observationId = true ∧
      (d = none ∧ required = false ∧ reference = observationBaseReference runId observationId ∨
        ∃ digest, d = some digest ∧ isSha256Digest digest = true ∧
          reference = observationReference runId observationId digest) := by
  unfold parseObservationReference at h
  split at h
  · rename_i r o hparts
    have heq := referenceParts_eq hparts
    split at h
    · cases h
    · rename_i hreq
      obtain ⟨r', hr, h₁⟩ := bind_ok h
      obtain ⟨o', ho, h₂⟩ := bind_ok h₁
      obtain ⟨rfl, hr⟩ := requireSafeIdentifier_ok hr
      obtain ⟨rfl, ho⟩ := requireSafeIdentifier_ok ho
      cases pure_ok h₂
      refine ⟨hr, ho, .inl ⟨rfl, by simpa using hreq, eq_of_toList ?_⟩⟩
      rw [heq]
      simp [observationBaseReference, List.intercalate]
  · rename_i r o dg hparts
    have heq := referenceParts_eq hparts
    obtain ⟨r', hr, h₁⟩ := bind_ok h
    obtain ⟨o', ho, h₂⟩ := bind_ok h₁
    obtain ⟨d', hd, h₃⟩ := bind_ok h₂
    obtain ⟨rfl, hr⟩ := requireSafeIdentifier_ok hr
    obtain ⟨rfl, ho⟩ := requireSafeIdentifier_ok ho
    obtain ⟨rfl, hd⟩ := requireSha256Digest_ok hd
    cases pure_ok h₃
    refine ⟨hr, ho, .inr ⟨_, rfl, hd, eq_of_toList ?_⟩⟩
    rw [heq]
    simp [observationReference, observationBaseReference, List.intercalate]
  · cases h

/-- A bound reference is parsed in the same way where a base one is allowed too. -/
theorem parseObservationReference_weaken {reference : String} {parts : String × String × Option String}
    (h : parseObservationReference reference true = .ok parts) :
    parseObservationReference reference false = .ok parts := by
  unfold parseObservationReference at h ⊢
  split at h
  · cases h
  · exact h
  · cases h

theorem safeIdentifier_noSlash {value : String} (h : safeIdentifier value = true) :
    '/' ∉ value.toList := by
  simp only [safeIdentifier, Bool.and_eq_true, List.all_eq_true] at h
  intro hm
  have := h.1.2 _ hm
  simp at this

theorem isSha256Digest_noSlash {value : String} (h : isSha256Digest value = true) :
    '/' ∉ value.toList := by
  simp only [isSha256Digest, Bool.and_eq_true, List.all_eq_true] at h
  intro hm
  have := h.2 _ hm
  simp at this

theorem referenceParts_intercalate (scheme : String) {reference : String} {parts : List String}
    (h : reference.toList = scheme.toList ++ ['/'].intercalate (parts.map String.toList))
    (hne : parts ≠ []) (hp : ∀ p ∈ parts, '/' ∉ p.toList) :
    referenceParts scheme reference = some parts := by
  have hsplit : (['/'].intercalate (parts.map String.toList)).splitOn '/' = parts.map String.toList :=
    List.splitOn_intercalate '/' (by simpa using hp) (by simpa using hne)
  rw [referenceParts, if_pos (List.isPrefixOf_iff_prefix.mpr ⟨_, h.symm⟩), h, List.drop_left, hsplit,
    List.map_map]
  have hid : (String.ofList ∘ String.toList) = id := funext fun s => String.ofList_toList
  rw [hid, List.map_id]

/-- **A rendered reference is parsed to its parts.** -/
theorem parseObservationReference_bound {runId observationId digest : String}
    (hr : safeIdentifier runId = true) (ho : safeIdentifier observationId = true)
    (hd : isSha256Digest digest = true) (required : Bool) :
    parseObservationReference (observationReference runId observationId digest) required =
      .ok (runId, observationId, some digest) := by
  have hparts : referenceParts observationTruthRefPrefix
      (observationReference runId observationId digest) =
        some [runId, observationId, "truth", "sha256", digest] := by
    refine referenceParts_intercalate _ ?_ (by simp) ?_
    · simp [observationReference, observationBaseReference, List.intercalate]
    · have := safeIdentifier_noSlash hr
      have := safeIdentifier_noSlash ho
      have := isSha256Digest_noSlash hd
      simp [*]
  rw [parseObservationReference, hparts]
  simp [requireSafeIdentifier, requireSha256Digest, hr, ho, hd, pure, Except.pure]

theorem parseObservationReference_base {runId observationId : String}
    (hr : safeIdentifier runId = true) (ho : safeIdentifier observationId = true) :
    parseObservationReference (observationBaseReference runId observationId) false =
      .ok (runId, observationId, none) := by
  have hparts : referenceParts observationTruthRefPrefix
      (observationBaseReference runId observationId) = some [runId, observationId, "truth"] := by
    refine referenceParts_intercalate _ ?_ (by simp) ?_
    · simp [observationBaseReference, List.intercalate]
    · have := safeIdentifier_noSlash hr
      have := safeIdentifier_noSlash ho
      simp [*]
  rw [parseObservationReference, hparts]
  simp [requireSafeIdentifier, hr, ho, pure, Except.pure]

/-- **A rendered snapshot reference** is parsed to its parts. -/
theorem parseSnapshotReference_bound {runId snapshotId digest : String}
    (hr : safeIdentifier runId = true) (hs : safeIdentifier snapshotId = true)
    (hd : isSha256Digest digest = true) :
    parseSnapshotReference (snapshotReference runId snapshotId digest) =
      .ok (runId, snapshotId, digest) := by
  have hparts : referenceParts controlledReactSnapshotRefPrefix
      (snapshotReference runId snapshotId digest) = some [runId, snapshotId, "sha256", digest] := by
    refine referenceParts_intercalate _ ?_ (by simp) ?_
    · simp [snapshotReference, List.intercalate]
    · have := safeIdentifier_noSlash hr
      have := safeIdentifier_noSlash hs
      have := isSha256Digest_noSlash hd
      simp [*]
  rw [parseSnapshotReference, hparts]
  simp [requireSafeIdentifier, requireSha256Digest, hr, hs, hd, pure, Except.pure]

/-- A bound reference determines its parts, whatever the digest's text. -/
theorem observationReference_inj {r o d r' o' d' : String} (hr : safeIdentifier r = true)
    (ho : safeIdentifier o = true) (hr' : safeIdentifier r' = true) (ho' : safeIdentifier o' = true)
    (h : observationReference r o d = observationReference r' o' d') : r = r' ∧ o = o' ∧ d = d' := by
  have split : ∀ {r o d : String}, safeIdentifier r = true → safeIdentifier o = true →
      ((observationReference r o d).toList.drop observationTruthRefPrefix.toList.length).splitOn '/' =
        r.toList :: o.toList :: "truth".toList :: "sha256".toList :: d.toList.splitOn '/' := by
    intro r o d hr ho
    have hlist : (observationReference r o d).toList = observationTruthRefPrefix.toList ++
        (r.toList ++ '/' :: (o.toList ++ '/' :: ("truth".toList ++ '/' ::
          ("sha256".toList ++ '/' :: d.toList)))) := by
      simp [observationReference, observationBaseReference]
    rw [hlist, List.drop_left, List.splitOn_append_cons_self_of_not_mem (safeIdentifier_noSlash hr),
      List.splitOn_append_cons_self_of_not_mem (safeIdentifier_noSlash ho),
      List.splitOn_append_cons_self_of_not_mem (by decide),
      List.splitOn_append_cons_self_of_not_mem (by decide)]
  have hs := split hr ho (d := d)
  rw [h, split hr' ho'] at hs
  simp only [List.cons.injEq, true_and] at hs
  obtain ⟨hrr, hoo, hdd⟩ := hs
  refine ⟨eq_of_toList hrr.symm, eq_of_toList hoo.symm, eq_of_toList ?_⟩
  have hjoin : ∀ text : List Char, ['/'].intercalate (text.splitOn '/') = text :=
    fun _ => List.intercalate_splitOn '/'
  rw [← hjoin d.toList, ← hdd, hjoin]

/-- What `bind_observation_truth` returns. -/
structure Binds (truth : ObservationTruthArtifact) (b : ObservationTruthArtifactBinding) :
    Prop where
  base : b.baseReference = observationBaseReference b.runId b.observationId
  reference : b.reference = observationReference b.runId b.observationId b.digest
  digest : b.digest = bindingDigest rt (observationEnvelope b.runId (truth.withTruthRef b.baseReference))
  bound : b.truth = truth.withTruthRef b.reference
  observation : truth.observationId = b.observationId
  run_safe : safeIdentifier b.runId = true
  observation_safe : safeIdentifier b.observationId = true
  supplied : truth.truthRef = b.baseReference ∨ truth.truthRef = b.reference

variable {rt}

theorem bindObservationTruth_ok {truth : ObservationTruthArtifact}
    {b : ObservationTruthArtifactBinding} (h : bindObservationTruth rt truth = .ok b) :
    Binds rt truth b := by
  unfold bindObservationTruth at h
  obtain ⟨⟨runId, observationId, supplied⟩, hparse, h₁⟩ := bind_ok h
  obtain ⟨_, hobs, h₂⟩ := bind_ok h₁
  obtain ⟨_, hsup, h₃⟩ := bind_ok h₂
  have hobs := require_ok hobs
  have hsup := require_ok hsup
  obtain ⟨hr, ho, href⟩ := parseObservationReference_ok hparse
  cases pure_ok h₃
  refine ⟨rfl, rfl, rfl, by simp, hobs, hr, ho, ?_⟩
  rcases href with ⟨rfl, _, href⟩ | ⟨dg, rfl, _, _⟩
  · exact .inl href
  · rcases hsup with hs | hs
    · cases hs
    · exact .inr hs.2

/-- What `require_bound_observation_truth` returns is the binding of a truth that
carries its bound reference already. -/
theorem requireBoundObservationTruth_ok {truth : ObservationTruthArtifact}
    {b : ObservationTruthArtifactBinding} (h : requireBoundObservationTruth rt truth = .ok b) :
    Binds rt truth b ∧ truth.truthRef = b.reference ∧ b.truth = truth ∧
      isSha256Digest b.digest = true := by
  unfold requireBoundObservationTruth at h
  obtain ⟨⟨runId, observationId, supplied⟩, hparse, h₁⟩ := bind_ok h
  obtain ⟨b', hbind, h₂⟩ := bind_ok h₁
  obtain ⟨_, hsup, h₃⟩ := bind_ok h₂
  have hsup := require_ok hsup
  cases pure_ok h₃
  have hb := bindObservationTruth_ok hbind
  obtain ⟨_, _, href⟩ := parseObservationReference_ok hparse
  obtain ⟨hn, _, _⟩ | ⟨dg, hdg, hhex, href⟩ := href
  · rw [hn] at hsup
    cases hsup
  rw [hdg] at hsup
  cases hsup
  have htref : truth.truthRef = b.reference := by
    unfold bindObservationTruth at hbind
    obtain ⟨parts, hparse', k₁⟩ := bind_ok hbind
    rw [parseObservationReference_weaken hparse] at hparse'
    cases hparse'
    obtain ⟨_, _, k₂⟩ := bind_ok k₁
    obtain ⟨_, hs, k₃⟩ := bind_ok k₂
    have hs := require_ok hs
    cases pure_ok k₃
    rcases hs with hs | hs
    · rw [hdg] at hs
      cases hs
    · exact hs.2
  refine ⟨hb, htref, ?_, hhex⟩
  rw [hb.bound, ← htref]
  cases truth <;> rfl

/-- Binding a truth again, under its base reference or under the bound one, changes nothing. -/
theorem Binds.bindAgain {truth : ObservationTruthArtifact} {b : ObservationTruthArtifactBinding}
    (h : Binds rt truth b) (hd : isSha256Digest b.digest = true) {reference : String}
    (href : reference = b.baseReference ∨ reference = b.reference) :
    bindObservationTruth rt (truth.withTruthRef reference) = .ok b := by
  have hobs : (truth.withTruthRef reference).observationId = b.observationId := by
    rw [ObservationTruthArtifact.observationId_withTruthRef, h.observation]
  have hr : b.baseReference ++ "/sha256/" ++ b.digest = b.reference := by
    rw [h.reference, h.base, observationReference]
  have hbase : parseObservationReference b.baseReference false =
      .ok (b.runId, b.observationId, none) := by
    rw [h.base]
    exact parseObservationReference_base h.run_safe h.observation_safe
  have hbound : parseObservationReference b.reference false =
      .ok (b.runId, b.observationId, some b.digest) := by
    rw [h.reference]
    exact parseObservationReference_bound h.run_safe h.observation_safe hd false
  unfold bindObservationTruth
  rw [ObservationTruthArtifact.truthRef_withTruthRef]
  rcases href with rfl | rfl
  · rw [hbase]
    simp only [ok_bind]
    rw [require_true _ hobs, ok_bind]
    simp only [ObservationTruthArtifact.withTruthRef_withTruthRef, ← h.base, ← h.digest, hr]
    rw [require_true _ (.inl trivial), ok_bind, ← h.bound]
    rfl
  · rw [hbound]
    simp only [ok_bind]
    rw [require_true _ hobs, ok_bind]
    simp only [ObservationTruthArtifact.withTruthRef_withTruthRef, ← h.base, ← h.digest, hr]
    rw [require_true _ (.inr ⟨trivial, trivial⟩), ok_bind, ← h.bound]
    rfl

/-- A truth that was bound, with a well-formed digest, is accepted as bound. -/
theorem Binds.requireBound {truth : ObservationTruthArtifact} {b : ObservationTruthArtifactBinding}
    (h : Binds rt truth b) (hd : isSha256Digest b.digest = true) :
    requireBoundObservationTruth rt b.truth = .ok b := by
  have hparse := parseObservationReference_bound h.run_safe h.observation_safe hd
  have href : b.truth.truthRef = b.reference := by
    rw [h.bound, ObservationTruthArtifact.truthRef_withTruthRef]
  have hbind : bindObservationTruth rt b.truth = .ok b := by
    rw [h.bound]
    exact h.bindAgain hd (.inr rfl)
  unfold requireBoundObservationTruth
  rw [href, h.reference, hparse true]
  simp only [ok_bind, hbind, require_true]
  rfl

/-- What is bound to one reference is one truth, unless the digests collide. -/
theorem Binds.truth_unique {truth truth' : ObservationTruthArtifact}
    {b b' : ObservationTruthArtifactBinding} (h : Binds rt truth b) (h' : Binds rt truth' b')
    (href : b.reference = b'.reference)
    (hsha : rt.sha256 (observationEnvelope b.runId (truth.withTruthRef b.baseReference)).canonical =
      rt.sha256 (observationEnvelope b'.runId (truth'.withTruthRef b'.baseReference)).canonical →
      (observationEnvelope b.runId (truth.withTruthRef b.baseReference)).canonical =
        (observationEnvelope b'.runId (truth'.withTruthRef b'.baseReference)).canonical) :
    b.truth = b'.truth := by
  have hparts := href
  rw [h.reference, h'.reference] at hparts
  obtain ⟨hrun, hobs, hdigest⟩ := observationReference_inj h.run_safe h.observation_safe
    h'.run_safe h'.observation_safe hparts
  rw [h.digest, h'.digest, bindingDigest, bindingDigest] at hdigest
  have henv := congrArg (fun j => j.field "payload") (hsha hdigest)
  have hkeys : ∀ run t, (([("schema_version", Json.str observationTruthBindingSchemaVersion),
      ("run_id", .str run), ("payload", ObservationTruthArtifact.payload t)]).map Prod.fst).Nodup := by
    simp
  simp only [observationEnvelope, Json.canonical, Json.field_reshape .float (hkeys _ _)] at henv
  simp [List.lookup_cons] at henv
  have htruth := ObservationTruthArtifact.payload_inj henv
  have hbase : b.baseReference = b'.baseReference := by rw [h.base, h'.base, hrun, hobs]
  rw [h.bound, h'.bound, href, ← truth.withTruthRef_withTruthRef b.baseReference, htruth,
    truth'.withTruthRef_withTruthRef]

end

end ProofAgent
