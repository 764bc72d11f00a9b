import ProofAgent.Base.Interleaving
import ProofAgent.Base.Transactions
import ProofAgent.Base.Mapping
import ProofAgent.Contracts.RunExecution

/-! # Versioned shared assets

An asset has a base row with its current content, and a row for each version of it. A save
names the revision that it expects. It locks the base row, if there is one, until it commits;
where there is none, nothing is locked, and another save may have inserted the row by the
time that this one comes to. -/
namespace ProofAgent.Assets

open Base

inductive SharedAssetKind where
  | modelConnection | toolSource
  deriving DecidableEq

def SharedAssetKind.value : SharedAssetKind → String
  | modelConnection => "model_connection"
  | toolSource => "tool_source"

structure SharedAssetVersionRef where
  kind : SharedAssetKind
  assetId : String
  versionId : String
  revision : Nat
  contentDigest : String
  deriving DecidableEq

/-! ## Tables -/

/-- A row of the base table. -/
structure AssetRow where
  assetId : String
  revision : Nat
  lifecycleState : String
  configuration : FrozenDict
  createdAt : Instant
  updatedAt : Instant
  deriving DecidableEq

/-- A row of the version table. -/
structure AssetVersionRow where
  versionId : String
  assetId : String
  revision : Nat
  contentSha256 : String
  version : FrozenDict
  createdAt : Instant
  deriving DecidableEq

structure AssetStore where
  assets : Table AssetRow.assetId
  versions : Table AssetVersionRow.versionId

def AssetStore.empty : AssetStore := ⟨.empty, .empty⟩

inductive AssetError where
  | value (message : String)
  /-- `PersistenceConflictError`. -/
  | conflict (resourceType resourceId : String) (expectedRevision : Int)
      (actualRevision : Option Nat)
  /-- `PersistenceInvariantError`. -/
  | invariant (message : String)
  /-- `IntegrityError` of a constraint. -/
  | integrity
  /-- `NoResultFound`. -/
  | noResult
  deriving DecidableEq

/-- The repository: its kind, and the functions that it is built on, of which the first two
do not collide. -/
structure VersionedAssetRepository where
  kind : SharedAssetKind
  sha256 : String → String
  /-- `json.dumps(..., sort_keys=True)`. -/
  dumps : FrozenDict → String
  uuid : String → Option String
  sha256_injective : Function.Injective sha256
  dumps_injective : Function.Injective dumps

variable (repository : VersionedAssetRepository)

/-- `_payload_digest`. -/
def VersionedAssetRepository.payloadDigest (payload : FrozenDict) : String :=
  repository.sha256 (repository.dumps payload)

/-- `_version_ref`. -/
def VersionedAssetRepository.versionRef (row : AssetVersionRow) : SharedAssetVersionRef where
  kind := repository.kind
  assetId := row.assetId
  versionId := row.versionId
  revision := row.revision
  contentDigest := row.contentSha256

/-! ## Saving -/

/-- The arguments of `save`, and the id that it draws; a timestamp is `none` where its text is
not one. -/
structure SaveRequest where
  payload : FrozenDict
  assetId : String
  lifecycleState : String
  createdAt : Option Instant
  updatedAt : Option Instant
  expectedRevision : Int
  versionId : String

abbrev AssetQuery (α : Type) := Effect AssetStore AssetError α

/-- `timestamp_value`. -/
def timestampValue (value : Option Instant) (field : String) : AssetQuery Instant :=
  .ofExcept (orRaise value (.invariant (field ++ " must be ISO-8601")))

/-- Whether a row is the given version of an asset. -/
def isRevision (assetId : String) (revision : Nat) (row : AssetVersionRow) : Bool :=
  row.assetId = assetId && row.revision = revision

/-- The version that a save inserts. -/
def versionRow (request : SaveRequest) (revision : Nat) (updatedAt : Instant) : AssetVersionRow where
  versionId := request.versionId
  assetId := request.assetId
  revision
  contentSha256 := repository.payloadDigest request.payload
  version := request.payload
  createdAt := updatedAt

/-- Insert a version; its id, and its revision among those of the asset, are unique. -/
def insertVersion (request : SaveRequest) (revision : Nat) (updatedAt : Instant) :
    AssetQuery SharedAssetVersionRef := do
  let row := versionRow repository request revision updatedAt
  let s ← Effect.read
  match s.versions.insert? row with
  | none => Effect.raise .integrity
  | some versions => do
    Effect.require (s.versions.rows.any (isRevision request.assetId revision) = false) .integrity
    Effect.modify fun s => { s with versions }
    return repository.versionRef row

/-- A conflict of revisions. -/
def revisionConflict (request : SaveRequest) (actual : Option Nat) : AssetError :=
  .conflict repository.kind.value request.assetId request.expectedRevision actual

/-- A save over the base row that it has locked. -/
def saveOver (request : SaveRequest) (current : AssetRow) : AssetQuery SharedAssetVersionRef := do
  Effect.require ((current.revision : Int) = request.expectedRevision)
    (revisionConflict repository request (some current.revision))
  if repository.payloadDigest current.configuration = repository.payloadDigest request.payload then do
    let s ← Effect.read
    match s.versions.rows.find? (isRevision request.assetId current.revision) with
    | none => Effect.raise .noResult
    | some row => return repository.versionRef row
  else do
    let _ ← timestampValue request.createdAt "created_at"
    let updatedAt ← timestampValue request.updatedAt "updated_at"
    Effect.require (current.createdAt ≤ updatedAt) .integrity
    Effect.modify fun s => { s with
      assets := s.assets.update (fun row => row.assetId = request.assetId)
        (fun row => { row with
          revision := current.revision + 1
          lifecycleState := request.lifecycleState
          configuration := request.payload
          updatedAt }) fun _ => rfl }
    insertVersion repository request (current.revision + 1) updatedAt

/-- The first statement of a save, and what comes after it where it locks a row. -/
def saveLocked (request : SaveRequest) : AssetQuery (Option SharedAssetVersionRef) := do
  let s ← Effect.read
  match s.assets.find? request.assetId with
  | some current => some <$> saveOver repository request current
  | none => do
    Effect.require (request.expectedRevision = 0) (revisionConflict repository request none)
    return none

/-- A save that has found no base row: `INSERT ... ON CONFLICT DO NOTHING`. -/
def saveFirst (request : SaveRequest) : AssetQuery SharedAssetVersionRef := do
  let createdAt ← timestampValue request.createdAt "created_at"
  let updatedAt ← timestampValue request.updatedAt "updated_at"
  Effect.require (createdAt ≤ updatedAt) .integrity
  let s ← Effect.read
  match s.assets.insert? {
      assetId := request.assetId
      revision := 1
      lifecycleState := request.lifecycleState
      configuration := request.payload
      createdAt, updatedAt } with
  | none =>
    Effect.raise (revisionConflict repository request
      ((s.assets.find? request.assetId).map (·.revision)))
  | some assets => do
    Effect.modify fun s => { s with assets }
    insertVersion repository request 1 updatedAt

/-- `save`. -/
def save (request : SaveRequest) : Process AssetStore AssetError SharedAssetVersionRef := do
  if request.expectedRevision < 0 then .raise (.value "expected_revision cannot be negative")
  else do
    match ← .atomic (.transaction (saveLocked repository request)) with
    | some ref => return ref
    | none => .atomic (.transaction (saveFirst repository request))

/-! ## Resolving a version -/

/-- `resolve_version`. -/
def resolveVersion (assetId : String) (versionId : Option String) :
    AssetQuery (Option SharedAssetVersionRef) := do
  let s ← Effect.read
  match versionId with
  | none =>
    return (s.versions.rows.find? fun row => row.assetId = assetId &&
      s.assets.rows.any fun asset => asset.assetId = row.assetId && asset.revision = row.revision).map
        repository.versionRef
  | some versionId => do
    let versionId ← .ofExcept (orRaise (repository.uuid versionId)
      (.invariant "shared_asset_version_id must be a full UUID"))
    return (s.versions.rows.find? fun row => row.assetId = assetId && row.versionId = versionId).map
      repository.versionRef

end ProofAgent.Assets
