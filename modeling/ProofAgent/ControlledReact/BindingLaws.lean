import ProofAgent.Base.CanonicalText
import ProofAgent.ControlledReact.ArtifactBinding

/-! # What a binding guarantees

The digests are taken of canonical JSON texts, and such a text determines the value that it
was made of. So a reference names one artifact: what is bound is accepted under its
reference, and anything else under the reference is refused, as long as the two texts that
are compared have no common digest. -/
namespace ProofAgent

open Base

/-- `hashlib.sha256(canonical_json_bytes(value)).hexdigest()`. -/
def DigestsText (rt : Runtime) (sha : String → String) : Prop :=
  ∀ j, rt.sha256 j = sha (j.canonicalText false)

/-- Two values whose texts have one digest have one text. -/
def DigestsApart (sha : String → String) (a b : Json) : Prop :=
  sha (a.canonicalText false) = sha (b.canonicalText false) → a.canonicalText false = b.canonicalText false

/-- The envelope of a truth's payload. -/
def truthEnvelope (runId : String) (payload : Json) : Json :=
  .obj [("schema_version", .str observationTruthBindingSchemaVersion), ("run_id", .str runId),
    ("payload", payload)]

/-- The envelope of a snapshot's payload. -/
def payloadEnvelope (payload : Json) : Json :=
  .obj [("schema_version", .str snapshotBindingSchemaVersion), ("payload", payload)]

/-- What holds of a truth that was bound. -/
structure TruthBound (rt : Runtime) (sha : String → String) (truth : ObservationTruthArtifact)
    (b : ObservationTruthArtifactBinding) : Prop where
  idempotent : bindObservationTruth rt b.truth = .ok b
  accepted : requireBoundObservationTruth rt b.truth = .ok b
  /-- Base reference or bound reference, the binding is the same. -/
  eitherReference : ∀ reference, reference = b.baseReference ∨ reference = b.reference →
    bindObservationTruth rt (truth.withTruthRef reference) = .ok b
  /-- The order of keys is of no account. -/
  keyOrder : ∀ payload, Json.Reordered (truth.withTruthRef b.baseReference).payload payload →
    sha ((truthEnvelope b.runId payload).canonicalText false) = b.digest
  parsed : parseObservationReference b.reference true = .ok (b.runId, b.observationId, some b.digest)
  /-- Another artifact under a reference with this digest is refused. -/
  tampered : ∀ changed runId observationId, changed ≠ b.truth →
    changed.truthRef = observationReference runId observationId b.digest →
    DigestsApart sha (truthEnvelope b.runId (truth.withTruthRef b.baseReference).payload)
      (truthEnvelope runId
        (changed.withTruthRef (observationBaseReference runId observationId)).payload) →
    ∃ e, requireBoundObservationTruth rt changed = .error e
  /-- Under another reference of the run, the artifact is refused. -/
  renamed : ∀ reference, reference ≠ b.reference →
    (∀ runId observationId digest, reference = observationReference runId observationId digest →
      runId = b.runId) →
    ∃ e, requireBoundObservationTruth rt (b.truth.withTruthRef reference) = .error e

/-- What holds of a snapshot that was bound. -/
structure SnapshotBound (rt : Runtime) (sha : String → String)
    (snapshot : ControlledReActRunStateSnapshot) (b : SnapshotArtifactBinding) : Prop where
  accepted : verifyControlledReactSnapshotBinding rt snapshot b.reference = .ok b
  keyOrder : ∀ payload, Json.Reordered (.obj snapshot.jsonFields) payload →
    sha ((payloadEnvelope payload).canonicalText false) = b.digest
  parsed : parseSnapshotReference b.reference = .ok (b.runId, b.snapshotId, b.digest)
  /-- A snapshot with another payload is refused. -/
  tampered : ∀ changed : ControlledReActRunStateSnapshot,
    (Json.obj changed.jsonFields).canonical ≠ (Json.obj snapshot.jsonFields).canonical →
    DigestsApart sha (payloadEnvelope (.obj snapshot.jsonFields))
      (payloadEnvelope (.obj changed.jsonFields)) →
    ∃ e, verifyControlledReactSnapshotBinding rt changed b.reference = .error e
  /-- Another reference is refused. -/
  renamed : ∀ reference, reference ≠ b.reference →
    ∃ e, verifyControlledReactSnapshotBinding rt snapshot reference = .error e

/-! ## Digests of envelopes -/

section
variable {rt : Runtime} {sha : String → String}

theorem DigestsText.canonical (h : DigestsText rt sha) (j : Json) :
    bindingDigest rt j = sha (j.canonicalText false) := by
  unfold bindingDigest
  rw [h j.canonical, Json.canonicalText_eq_iff.mpr j.canonical_canonical]

theorem truthEnvelope_reordered (runId : String) {payload payload' : Json}
    (h : Json.Reordered payload payload') :
    Json.Reordered (truthEnvelope runId payload) (truthEnvelope runId payload') :=
  h.field [("schema_version", .str observationTruthBindingSchemaVersion), ("run_id", .str runId)] []
    "payload"

theorem payloadEnvelope_reordered {payload payload' : Json} (h : Json.Reordered payload payload') :
    Json.Reordered (payloadEnvelope payload) (payloadEnvelope payload') :=
  h.field [("schema_version", .str snapshotBindingSchemaVersion)] [] "payload"

theorem truthEnvelope_payload (runId : String) (payload : Json) :
    (truthEnvelope runId payload).canonical.field "run_id" = some (.str runId) ∧
      (truthEnvelope runId payload).canonical.field "payload" = some payload.canonical := by
  have hkeys : ([("schema_version", Json.str observationTruthBindingSchemaVersion),
      ("run_id", .str runId), ("payload", payload)].map Prod.fst).Nodup := by
    simp
  unfold truthEnvelope Json.canonical
  rw [Json.field_reshape .float hkeys, Json.field_reshape .float hkeys]
  simp [List.lookup_cons]

theorem payloadEnvelope_payload (payload : Json) :
    (payloadEnvelope payload).canonical.field "payload" = some payload.canonical := by
  have hkeys : ([("schema_version", Json.str snapshotBindingSchemaVersion),
      ("payload", payload)].map Prod.fst).Nodup := by
    simp
  unfold payloadEnvelope Json.canonical
  rw [Json.field_reshape .float hkeys]
  simp [List.lookup_cons]

/-! ## References -/

theorem splitOn_singleton {text : List Char} {part : List Char} (h : text.splitOn '/' = [part]) :
    text = part := by
  have hjoin : ['/'].intercalate (text.splitOn '/') = text := List.intercalate_splitOn '/'
  rw [h, List.intercalate_singleton] at hjoin
  exact hjoin.symm

/-- A reference that spells safe parts spells no others. -/
theorem observationReference_read {runId observationId digest runId' observationId' digest' : String}
    (hr : safeIdentifier runId' = true) (ho : safeIdentifier observationId' = true)
    (hd : isSha256Digest digest = true) (hd' : isSha256Digest digest' = true)
    (h : observationReference runId observationId digest =
      observationReference runId' observationId' digest') :
    runId = runId' ∧ observationId = observationId' ∧ digest = digest' := by
  have hlist : ∀ r o d : String, (observationReference r o d).toList =
      observationTruthRefPrefix.toList ++ (r.toList ++ '/' :: (o.toList ++ '/' ::
        ("truth".toList ++ '/' :: ("sha256".toList ++ '/' :: d.toList)))) := by
    intro r o d
    simp [observationReference, observationBaseReference]
  have hsplit := congrArg (fun text : String =>
    (text.toList.drop observationTruthRefPrefix.toList.length).splitOn '/') h
  have hleaf : ∀ {d : String}, isSha256Digest d = true → d.toList.splitOn '/' = [d.toList] :=
    fun hd => List.splitOn_eq_singleton (isSha256Digest_noSlash hd)
  simp only [hlist, List.drop_left, List.splitOn_append_cons_self, hleaf hd, hleaf hd',
    List.splitOn_eq_singleton (safeIdentifier_noSlash hr),
    List.splitOn_eq_singleton (safeIdentifier_noSlash ho)] at hsplit
  obtain ⟨x, xs, hx⟩ := List.exists_cons_of_ne_nil (List.splitOn_ne_nil '/' runId.toList)
  obtain ⟨y, ys, hy⟩ :=
    List.exists_cons_of_ne_nil (List.splitOn_ne_nil '/' observationId.toList)
  rw [hx, hy] at hsplit
  have hlength := congrArg List.length hsplit
  simp only [List.length_append, List.length_cons, List.length_nil] at hlength
  obtain rfl : xs = [] := List.eq_nil_of_length_eq_zero (by omega)
  obtain rfl : ys = [] := List.eq_nil_of_length_eq_zero (by omega)
  simp only [List.singleton_append, List.cons.injEq] at hsplit
  have hlast := List.append_cancel_left (List.append_cancel_left hsplit.2.2)
  refine ⟨eq_of_toList ?_, eq_of_toList ?_, eq_of_toList (List.singleton_inj.mp hlast)⟩
  · rw [splitOn_singleton hx, hsplit.1]
  · rw [splitOn_singleton hy, hsplit.2.1]

/-! ## Truths -/

/-- What is accepted under a reference with a bound truth's digest is that truth. -/
theorem Binds.unique_of_digest (hsha : DigestsText rt sha)
    {truth changed : ObservationTruthArtifact} {b b' : ObservationTruthArtifactBinding}
    (h : Binds rt truth b) (hchanged : Binds rt changed b') (hdigest : b'.digest = b.digest)
    (hcollision : DigestsApart sha (truthEnvelope b.runId (truth.withTruthRef b.baseReference).payload)
      (truthEnvelope b'.runId (changed.withTruthRef b'.baseReference).payload)) :
    b'.truth = b.truth := by
  have hd := h.digest
  have hd' := hchanged.digest
  rw [hsha.canonical] at hd hd'
  have htext := hcollision (hd.symm.trans (hdigest.symm.trans hd'))
  have hcanonical := Json.canonicalText_eq_iff.mp htext
  have hrun : b.runId = b'.runId := by
    have hfield := congrArg (fun j => j.field "run_id") hcanonical
    rw [(truthEnvelope_payload _ _).1, (truthEnvelope_payload _ _).1] at hfield
    exact Json.str.inj (Option.some.inj hfield)
  have hpayload := congrArg (fun j => j.field "payload") hcanonical
  rw [(truthEnvelope_payload _ _).2, (truthEnvelope_payload _ _).2] at hpayload
  have htruth := ObservationTruthArtifact.payload_inj (Option.some.inj hpayload)
  have hobservation : b.observationId = b'.observationId := by
    have hid := congrArg ObservationTruthArtifact.observationId htruth
    rwa [ObservationTruthArtifact.observationId_withTruthRef,
      ObservationTruthArtifact.observationId_withTruthRef, h.observation, hchanged.observation] at hid
  have href : b'.reference = b.reference := by
    rw [h.reference, hchanged.reference, hrun, hobservation, hdigest]
  rw [h.bound, hchanged.bound, href, ← truth.withTruthRef_withTruthRef b.baseReference, htruth,
    changed.withTruthRef_withTruthRef]

theorem Binds.laws (hsha : DigestsText rt sha) (hhex : ∀ text, isSha256Digest (sha text) = true)
    {truth : ObservationTruthArtifact} {b : ObservationTruthArtifactBinding} (h : Binds rt truth b) :
    TruthBound rt sha truth b := by
  have hd : isSha256Digest b.digest = true := by
    rw [h.digest, hsha.canonical]
    exact hhex _
  have hbound : bindObservationTruth rt b.truth = .ok b := by
    rw [h.bound]
    exact h.bindAgain hd (.inr rfl)
  refine ⟨hbound, h.requireBound hd, fun reference => h.bindAgain hd, ?_, ?_, ?_, ?_⟩
  · intro payload hpayload
    rw [h.digest, hsha.canonical]
    exact congrArg sha (Json.canonicalText_eq_iff.mpr
      (truthEnvelope_reordered b.runId hpayload).canonical_eq.symm)
  · rw [h.reference]
    exact parseObservationReference_bound h.run_safe h.observation_safe hd true
  · intro changed runId observationId hne href hcollision
    refine raises_of_not_ok fun b' hb' => hne ?_
    obtain ⟨hbinds, href', htruth, hhex'⟩ := requireBoundObservationTruth_ok hb'
    rw [href', hbinds.reference] at href
    obtain ⟨rfl, rfl, hdigest⟩ :=
      observationReference_read hbinds.run_safe hbinds.observation_safe hd hhex' href.symm
    rw [← hbinds.base] at hcollision
    rw [← htruth]
    exact h.unique_of_digest hsha hbinds hdigest.symm hcollision
  · intro reference hne hrun
    refine raises_of_not_ok fun b' hb' => hne ?_
    obtain ⟨hbinds, href', _, _⟩ := requireBoundObservationTruth_ok hb'
    rw [ObservationTruthArtifact.truthRef_withTruthRef] at href'
    have hobservation : b'.observationId = b.observationId := by
      have hid := hbinds.observation
      rw [ObservationTruthArtifact.observationId_withTruthRef, h.bound,
        ObservationTruthArtifact.observationId_withTruthRef, h.observation] at hid
      exact hid.symm
    have hrunId : b'.runId = b.runId := hrun _ _ _ (href'.trans hbinds.reference)
    have hdigest : b'.digest = b.digest := by
      rw [hbinds.digest, h.digest, hbinds.base, h.base, hrunId, hobservation, h.bound,
        ObservationTruthArtifact.withTruthRef_withTruthRef,
        ObservationTruthArtifact.withTruthRef_withTruthRef]
    rw [href', hbinds.reference, hrunId, hobservation, hdigest, ← h.reference]

/-! ## Snapshots -/

theorem bindControlledReactSnapshot_ok {snapshot : ControlledReActRunStateSnapshot}
    {b : SnapshotArtifactBinding} (h : bindControlledReactSnapshot rt snapshot = .ok b) :
    safeIdentifier b.runId = true ∧ safeIdentifier b.snapshotId = true ∧
      b.reference = snapshotReference b.runId b.snapshotId b.digest ∧
      b.digest = bindingDigest rt (snapshotEnvelope snapshot) := by
  unfold bindControlledReactSnapshot at h
  obtain ⟨runId, hrun, h₁⟩ := bind_ok h
  obtain ⟨snapshotId, hsnapshot, h₂⟩ := bind_ok h₁
  obtain ⟨_, _, h₃⟩ := bind_ok h₂
  obtain ⟨rfl, hr⟩ := requireSafeIdentifier_ok hrun
  obtain ⟨rfl, hs⟩ := requireSafeIdentifier_ok hsnapshot
  cases pure_ok h₃
  exact ⟨hr, hs, rfl, rfl⟩

/-- What a verification that returned has compared. -/
theorem verifyControlledReactSnapshotBinding_ok {snapshot : ControlledReActRunStateSnapshot}
    {reference : String} {b : SnapshotArtifactBinding}
    (h : verifyControlledReactSnapshotBinding rt snapshot reference = .ok b) :
    bindControlledReactSnapshot rt snapshot = .ok b ∧ b.reference = reference ∧
      ∃ runId snapshotId, parseSnapshotReference reference = .ok (runId, snapshotId, b.digest) := by
  unfold verifyControlledReactSnapshotBinding at h
  obtain ⟨⟨runId, snapshotId, digest⟩, hparse, h₁⟩ := bind_ok h
  obtain ⟨binding, hbind, h₂⟩ := bind_ok h₁
  obtain ⟨_, hsame, h₃⟩ := bind_ok h₂
  obtain ⟨_, _, rfl, hreference⟩ := require_ok hsame
  cases pure_ok h₃
  exact ⟨hbind, hreference, runId, snapshotId, hparse⟩

theorem bindControlledReactSnapshot_laws (hsha : DigestsText rt sha)
    (hhex : ∀ text, isSha256Digest (sha text) = true) {snapshot : ControlledReActRunStateSnapshot}
    {b : SnapshotArtifactBinding} (h : bindControlledReactSnapshot rt snapshot = .ok b) :
    SnapshotBound rt sha snapshot b := by
  obtain ⟨hr, hs, href, hdigest⟩ := bindControlledReactSnapshot_ok h
  have hd : isSha256Digest b.digest = true := by
    rw [hdigest, hsha.canonical]
    exact hhex _
  have hparsed : parseSnapshotReference b.reference = .ok (b.runId, b.snapshotId, b.digest) := by
    rw [href]
    exact parseSnapshotReference_bound hr hs hd
  refine ⟨?_, ?_, hparsed, ?_, ?_⟩
  · unfold verifyControlledReactSnapshotBinding
    rw [hparsed, ok_bind]
    dsimp only
    rw [h, ok_bind, require_true _ ⟨rfl, rfl, rfl, rfl⟩]
    rfl
  · intro payload hpayload
    rw [hdigest, hsha.canonical]
    exact congrArg sha (Json.canonicalText_eq_iff.mpr
      (payloadEnvelope_reordered hpayload).canonical_eq.symm)
  · intro changed hchanged hcollision
    refine raises_of_not_ok fun b' hb' => hchanged ?_
    obtain ⟨hbind, _, runId, snapshotId, hparse⟩ := verifyControlledReactSnapshotBinding_ok hb'
    have hsame : b'.digest = b.digest := by
      rw [hparsed, Except.ok.injEq, Prod.mk.injEq, Prod.mk.injEq] at hparse
      exact hparse.2.2.symm
    have hdigest' := (bindControlledReactSnapshot_ok hbind).2.2.2
    rw [hsha.canonical] at hdigest hdigest'
    have htext := hcollision (hdigest.symm.trans (hsame.symm.trans hdigest'))
    have hpayload := congrArg (fun j => j.field "payload") (Json.canonicalText_eq_iff.mp htext)
    rw [payloadEnvelope_payload, payloadEnvelope_payload] at hpayload
    exact (Option.some.inj hpayload).symm
  · intro reference hne
    refine raises_of_not_ok fun b' hb' => hne ?_
    obtain ⟨hbind, href', _⟩ := verifyControlledReactSnapshotBinding_ok hb'
    rw [h] at hbind
    cases hbind
    exact href'.symm

end

namespace Sample

def ledgerTruth (total : Int) (reference : String) : ObservationTruthArtifact :=
  .tool { truthRef := reference, observationId := "obs_1", actionId := "act_1", toolName := "ledger"
          authorizedResult := .ofFields [("total", .int total)] }

def ledgerEnvelope (total : Int) : Json :=
  truthEnvelope "run_1" (ledgerTruth total "observation://run_1/obs_1/truth").payload

def ledgerDigest : String := "66985a951e8f93e439fd70e1b979595cbd804fcf04cbeafb62768bed292a3711"

/-- The digests of the envelopes of a total of 3 and of 4. -/
def ledgerSha (text : String) : String :=
  if text = (ledgerEnvelope 3).canonicalText false then ledgerDigest
  else "9830abde694166908b1694993f1b86f2dc4f51aadd6d48d22d4f48003931f9e2"

def ledgerRuntime : Runtime := { runtime with sha256 := fun j => ledgerSha (j.canonicalText false) }

def ledgerBinding : ObservationTruthArtifactBinding where
  baseReference := "observation://run_1/obs_1/truth"
  reference := observationReference "run_1" "obs_1" ledgerDigest
  digest := ledgerDigest
  runId := "run_1"
  observationId := "obs_1"
  truth := ledgerTruth 3 (observationReference "run_1" "obs_1" ledgerDigest)

theorem ledgerRuntime_digests : DigestsText ledgerRuntime ledgerSha := by
  intro j
  simp only [ledgerRuntime]

theorem ledgerSha_hex (text : String) : isSha256Digest (ledgerSha text) = true := by
  unfold ledgerSha
  split <;> decide

theorem ledger_binds : Binds ledgerRuntime (ledgerTruth 3 "observation://run_1/obs_1/truth")
    ledgerBinding where
  base := rfl
  reference := rfl
  digest := ((ledgerRuntime_digests.canonical (ledgerEnvelope 3)).trans (if_pos rfl)).symm
  bound := rfl
  observation := rfl
  run_safe := by decide
  observation_safe := by decide
  supplied := .inl rfl

theorem ledgerTruth_ne (reference reference' : String) :
    ledgerTruth 4 reference ≠ ledgerTruth 3 reference' := by
  intro h
  injection h with htruth
  injection htruth with _ _ _ _ hresult
  exact absurd hresult (by decide)

/-- The digests of the two totals are different ones. -/
theorem ledgerSha_ne : ledgerSha ((ledgerEnvelope 3).canonicalText false) ≠
    ledgerSha ((ledgerEnvelope 4).canonicalText false) := by
  have htext : (ledgerEnvelope 4).canonicalText false ≠ (ledgerEnvelope 3).canonicalText false := by
    rw [Ne, Json.canonicalText_eq_iff]
    decide +kernel
  unfold ledgerSha
  rw [if_pos rfl, if_neg htext]
  decide

end Sample

end ProofAgent
