import ProofAgent.Persistence.Database

/-! # Artifact references

`commit_visible_manifest` records the exact objects of a manifest and binds the manifest
to its owner. A second commit of the same manifest returns the binding as it stands. An
owner's binding is read as visible while all of its objects are verified and unexpired. -/
namespace ProofAgent

open Base

/-- `ArtifactOwnerBinding`. -/
structure ArtifactOwnerBinding where
  owner : ArtifactOwner
  manifest : ArtifactObjectVersion
  visibility : ArtifactVisibility
  visibleAt : Option Instant
  resultAvailable : Bool
  deriving DecidableEq

def ArtifactOwnerBinding.checks (binding : ArtifactOwnerBinding) : List (Bool × Error) :=
  [check (binding.manifest.isManifest = true) "owner binding requires an artifact manifest",
    check (binding.manifest.owner = binding.owner) "owner binding manifest owner does not match",
    check (binding.visibility = .visible → binding.visibleAt.isSome = true ∧ binding.resultAvailable = true)
      "visible owner requires timestamp and available result",
    check (binding.visibility ≠ .visible → binding.resultAvailable = false)
      "non-visible owner cannot expose a result"]

/-- An object that has expired at `now`. -/
def ObjectRow.expired (row : ObjectRow) (now : Instant) : Bool := row.refJson.expiresAt.any (· ≤ now)

/-- An object that keeps a result from being seen at `now`. -/
def ObjectRow.hides (row : ObjectRow) (now : Instant) : Bool :=
  row.state ≠ .verified || row.expired now

namespace ArtifactRepository

/-- `_insert_exact_ref`; the caller turns a violated constraint into `conflict`. -/
def insertExactRef (conflict : Error) (db : ArtifactTables) (ref : ArtifactObjectVersion) :
    Except Error ArtifactTables :=
  match db.objects.find? ref.objectId with
  | some existing => do
    require (existing.refJson = ref) (.persistenceConflict "artifact_object" ref.objectId 0 (some 1))
    return db
  | none => do
    require (∀ row ∈ db.objects.rows, row.refJson.exact ≠ ref.exact) conflict
    let objects ← orRaise (db.objects.insert? ⟨ref, .verified, none⟩) conflict
    return { db with objects }

/-- Insert a row of `artifact_manifest_members`. -/
def insertMember (conflict : Error) (manifestId : String) (db : ArtifactTables)
    (member : String × ArtifactObjectVersion) : Except Error ArtifactTables := do
  require (∀ row ∈ db.members.rows, ¬ (row.manifestId = manifestId ∧ row.objectId = member.2.objectId))
    conflict
  let members ← orRaise (db.members.insert? ⟨manifestId, member.1, member.2.objectId⟩) conflict
  return { db with members }

/-- The objects of the members of a manifest. -/
def memberObjects (db : ArtifactTables) (manifestId : String) : List ObjectRow :=
  (db.members.rows.filter (·.manifestId = manifestId)).filterMap fun m => db.objects.find? m.objectId

/-- `_binding_in_connection`. -/
def bindingInConnection (db : ArtifactTables) (owner : ArtifactOwner) (requireVisible : Bool)
    (now : Instant) : Except Error (Option ArtifactOwnerBinding) :=
  match db.bindings.find? owner with
  | none => .ok none
  | some row =>
    match (db.manifests.find? row.manifestId).bind fun m => db.objects.find? m.manifestObjectId with
    | none => .ok none
    | some object =>
      if requireVisible && !(row.visibility = .visible && row.resultAvailable && !object.hides now &&
          !(memberObjects db row.manifestId).any (·.hides now)) then .ok none
      else do
        let binding : ArtifactOwnerBinding :=
          ⟨owner, object.refJson, row.visibility, row.visibleAt, row.resultAvailable⟩
        requireAll binding.checks
        return some binding

/-- `commit_visible_manifest`. -/
def commitVisibleManifest (manifest : ArtifactManifest) (manifestRef : ArtifactObjectVersion)
    (db : ArtifactTables) : Except Error (ArtifactOwnerBinding × ArtifactTables) := do
  require (manifestRef.isManifest = true)
    (.value "artifact visibility requires an ARTIFACT_MANIFEST ref")
  require (manifestRef.owner = manifest.owner)
    (.value "manifest reference owner does not match manifest owner")
  match (db.bindings.find? manifest.owner).bind fun b => (db.manifests.find? b.manifestId) with
  | some existing => do
    require (existing.manifestId = manifest.manifestId ∧ existing.manifestObjectId = manifestRef.objectId)
      (.persistenceConflict "artifact_owner_binding"
        (manifest.owner.ownerType ++ ":" ++ manifest.owner.ownerId) 0 (some 1))
    let found ← bindingInConnection db manifest.owner false manifest.createdAt
    let binding ← orRaise found (.persistenceInvariant "binding is not None")
    return (binding, db)
  | none => do
    let conflict := Error.persistenceConflict "artifact_manifest" manifest.manifestId 0 (some 1)
    let db ← (manifest.members.map (·.2)).foldlM (insertExactRef conflict) db
    let db ← insertExactRef conflict db manifestRef
    require (∀ m ∈ db.manifests.rows, m.manifestObjectId ≠ manifestRef.objectId) conflict
    let manifests ← orRaise
      (db.manifests.insert? ⟨manifest.manifestId, manifest.owner, manifestRef.objectId⟩) conflict
    let db ← manifest.members.foldlM (insertMember conflict manifest.manifestId) { db with manifests }
    require (∀ b ∈ db.bindings.rows, b.manifestId ≠ manifest.manifestId) conflict
    let bindings ← orRaise (db.bindings.insert?
      ⟨manifest.owner, manifest.manifestId, .visible, some manifest.createdAt, true,
        manifest.createdAt, rfl⟩) conflict
    return (⟨manifest.owner, manifestRef, .visible, some manifest.createdAt, true⟩, { db with bindings })

def getVisibleBinding (owner : ArtifactOwner) (now : Instant) (db : ArtifactTables) :
    Except Error (Option ArtifactOwnerBinding) := bindingInConnection db owner true now

/-- Take the result of a binding out of sight. -/
def hideBinding (visibility : ArtifactVisibility) (now : Instant) (row : BindingRow) : BindingRow :=
  { row with
    visibility, updatedAt := now, resultAvailable := decide (visibility = .visible), visible_result := rfl }

/-- The bindings of manifests that `affected` holds of, out of sight, and how many were not. -/
def hideBindings (affected : String → Bool) (visibility : ArtifactVisibility) (now : Instant)
    (db : ArtifactTables) : Nat × ArtifactTables :=
  let visible := fun row : BindingRow => affected row.manifestId && row.visibility = .visible
  (db.bindings.count visible,
    { db with bindings := db.bindings.update visible (hideBinding visibility now) fun _ => rfl })

/-- A manifest with the object. -/
def refersTo (db : ArtifactTables) (objectId manifestId : String) : Bool :=
  db.manifests.rows.any (fun m => m.manifestId = manifestId && m.manifestObjectId = objectId) ||
    db.members.rows.any fun m => m.manifestId = manifestId && m.objectId = objectId

/-- `mark_corrupt`. -/
def markCorrupt (ref : ArtifactObjectVersion) (now : Instant) (db : ArtifactTables) :
    Nat × ArtifactTables :=
  let same := fun row : ObjectRow => row.objectId = ref.objectId && row.refJson.exact = ref.exact
  let objects := db.objects.update same
    (fun row => { row with state := .corrupt, corruptAt := some now }) fun _ => rfl
  if db.objects.count same ≠ 1 then (0, { db with objects })
  else hideBindings (refersTo { db with objects } ref.objectId) .corrupt now { db with objects }

/-- A manifest with an object that has expired. -/
def expiredManifest (db : ArtifactTables) (now : Instant) (manifestId : String) : Bool :=
  (memberObjects db manifestId).any (·.expired now) ||
    ((db.manifests.find? manifestId).bind fun m => db.objects.find? m.manifestObjectId).any
      (·.expired now)

/-- `expire_due`. -/
def expireDue (now : Instant) (db : ArtifactTables) : Nat × ArtifactTables :=
  hideBindings (expiredManifest db now) .expired now db

/-- `contains_exact`. -/
def containsExact (db : ArtifactTables) (ref : ArtifactObjectVersion) : Bool :=
  db.objects.rows.any (·.refJson.exact = ref.exact)

end ArtifactRepository

end ProofAgent
