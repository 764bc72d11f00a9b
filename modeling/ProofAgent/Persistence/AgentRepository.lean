import ProofAgent.Base.PyValue
import ProofAgent.Persistence.VersionedAssets

/-! # Agents, their drafts and their published versions

A draft has one row with its revision. Publication copies the contract of a revision of a
draft to a row that nothing changes any more, records the shared assets that it resolved,
and makes it the active version of the agent; an activation moves the active pointer to a
version that is there. Each call is one transaction, under a lock on the agent where it
moves the pointer. -/
namespace ProofAgent.Agents

open Base Assets

/-! ## Contracts -/

structure ContractBundle where
  agentYaml : String
  policyYaml : String
  toolsYaml : String
  extraFiles : PyDict
  advancedFields : PyDict

/-- `==`. -/
def ContractBundle.eq (a b : ContractBundle) : Bool :=
  a.agentYaml = b.agentYaml && a.policyYaml = b.policyYaml && a.toolsYaml = b.toolsYaml &&
    PyValue.eq true (.dict a.extraFiles) (.dict b.extraFiles) &&
    PyValue.eq true (.dict a.advancedFields) (.dict b.advancedFields)

structure DraftAgent where
  agentId : String
  draftId : String
  contractBundle : ContractBundle
  createdAt : String
  updatedAt : String
  /-- The fields that the repository does not look at. -/
  details : PyDict

structure AgentDraftRecord where
  draft : DraftAgent
  revision : Nat

/-- Versions of shared assets, one for each asset. -/
structure ResolvedSharedAssetVersions where
  versions : List SharedAssetVersionRef
  unique : (versions.map fun item => (item.kind, item.assetId)).Nodup

structure PublishedAgentVersion where
  agentId : String
  versionId : String
  sourceDraftId : String
  contractBundle : ContractBundle
  publishedAt : String
  publishedBy : String
  resolvedSharedAssetVersions : ResolvedSharedAssetVersions
  details : PyDict

structure ActiveAgentVersion where
  agentId : String
  versionId : String
  activatedAt : String
  activatedBy : String
  rollbackFromVersionId : Option String

/-- What the active pointer must be for a call to move it. -/
structure ActiveAgentPointerExpectation where
  versionId : Option String

structure AgentActivationRecord where
  activation : ActiveAgentVersion
  activePointerExpectation : ActiveAgentPointerExpectation
  rollback_origin : activation.rollbackFromVersionId = activePointerExpectation.versionId

structure AgentPublicationRecord where
  version : PublishedAgentVersion
  activation : ActiveAgentVersion
  draftRevision : Nat
  activePointerExpectation : Option ActiveAgentPointerExpectation
  revision_pos : 1 ≤ draftRevision
  agent_id : activation.agentId = version.agentId
  version_id : activation.versionId = version.versionId

/-! ## Tables -/

structure AgentDraftRow where
  draftId : String
  agentId : String
  revision : Nat
  draftJson : DraftAgent
  createdAt : Instant
  updatedAt : Instant

structure AgentVersionRow where
  versionId : String
  agentId : String
  sourceDraftId : String
  sourceDraftRevision : Nat
  versionJson : PublishedAgentVersion
  publishedAt : Instant
  publishedBy : String

structure ActiveAgentVersionRow where
  agentId : String
  versionId : String
  activationJson : ActiveAgentVersion
  activatedAt : Instant

structure SharedAssetRefRow where
  agentVersionId : String
  assetKind : SharedAssetKind
  assetId : String
  assetVersionId : String
  assetRevision : Nat
  contentSha256 : String

def SharedAssetRefRow.key (row : SharedAssetRefRow) : String × SharedAssetKind × String :=
  (row.agentVersionId, row.assetKind, row.assetId)

structure AgentStore where
  drafts : Table AgentDraftRow.draftId
  versions : Table AgentVersionRow.versionId
  active : Table ActiveAgentVersionRow.agentId
  sharedAssetRefs : Table SharedAssetRefRow.key
  modelConnectionVersions : Table AssetVersionRow.versionId
  toolSourceVersions : Table AssetVersionRow.versionId

def AgentStore.empty : AgentStore := ⟨.empty, .empty, .empty, .empty, .empty, .empty⟩

/-- `_SHARED_VERSION_TABLES`. -/
def AgentStore.sharedVersions (s : AgentStore) : SharedAssetKind → Table AssetVersionRow.versionId
  | .modelConnection => s.modelConnectionVersions
  | .toolSource => s.toolSourceVersions

inductive AgentError where
  | value (message : String)
  /-- pydantic's `ValidationError`. -/
  | validation
  /-- `PersistenceConflictError`. -/
  | conflict (resourceType resourceId : String) (expectedRevision : Int)
      (actualRevision : Option Nat)
  /-- `PersistencePointerConflictError`. -/
  | pointerConflict (resourceType resourceId : String) (expectedPointer actualPointer : Option String)
  /-- `PersistenceInvariantError`. -/
  | invariant (message : String)
  /-- `PersistenceNotFoundError`. -/
  | notFound (resourceType resourceId : String)
  /-- `IntegrityError` of a constraint. -/
  | integrity (constraint : String)
  /-- `DataError`. -/
  | data (message : String)
  deriving DecidableEq

/-- The functions that the repository is built on. -/
structure AgentLibrary where
  /-- `UUID(value)`, in its canonical text. -/
  uuid : String → Option String
  /-- `datetime.fromisoformat`: no datetime, a naive one, or an instant. -/
  fromIsoFormat : String → Option (Option Instant)
  /-- `DraftAgent.model_validate` of the JSON that a draft was stored as. -/
  validateDraft : DraftAgent → Except AgentError DraftAgent

abbrev AgentQuery (α : Type) := Effect AgentStore AgentError α

variable (lib : AgentLibrary)

/-- `uuid_value`. -/
def uuidValue (value field : String) : Except AgentError String :=
  orRaise (lib.uuid value) (.invariant (field ++ " must be a full UUID"))

/-- `timestamp_value`. -/
def timestampValue (value field : String) : Except AgentError Instant := do
  let parsed ← orRaise (lib.fromIsoFormat value) (.invariant (field ++ " must be ISO-8601"))
  orRaise parsed (.invariant (field ++ " must be timezone-aware"))

/-! ## Drafts -/

/-- Whether a row is the draft of an agent. -/
def isDraft (agentId draftId : String) (row : AgentDraftRow) : Bool :=
  row.draftId = draftId && row.agentId = agentId

/-- `get_draft`. -/
def getDraft (agentId draftId : String) : AgentQuery (Option AgentDraftRecord) := do
  let draftId ← .ofExcept (uuidValue lib draftId "draft_id")
  let s ← Effect.read
  match s.drafts.rows.find? (isDraft agentId draftId) with
  | none => return none
  | some row => do
    let draft ← .ofExcept (lib.validateDraft row.draftJson)
    return some { draft, revision := row.revision }

/-- The largest value of an integer column. -/
def maxInteger : Nat := 2147483647

def firstRow (draft : DraftAgent) (draftId : String) (createdAt updatedAt : Instant) :
    AgentDraftRow :=
  { draftId, agentId := draft.agentId, revision := 1, draftJson := draft, createdAt, updatedAt }

/-- The first revision: `INSERT ... ON CONFLICT DO NOTHING RETURNING revision`. -/
def insertDraft (draft : DraftAgent) (draftId : String) (createdAt updatedAt : Instant) :
    AgentQuery (Option Nat) := do
  Effect.require (createdAt ≤ updatedAt) (.integrity "agent_drafts_time_order")
  let s ← Effect.read
  match s.drafts.insert? (firstRow draft draftId createdAt updatedAt) with
  | none => return none
  | some drafts => do
    Effect.modify fun s => { s with drafts }
    return some 1

/-- Whether a row is the given revision of a draft. -/
def isRevision (agentId draftId : String) (revision : Int) (row : AgentDraftRow) : Bool :=
  isDraft agentId draftId row && (row.revision : Int) = revision

/-- The row with the next revision of its draft. -/
def AgentDraftRow.next (row : AgentDraftRow) (draft : DraftAgent) (updatedAt : Instant) :
    AgentDraftRow :=
  { row with revision := row.revision + 1, draftJson := draft, updatedAt }

/-- A later revision: `UPDATE ... WHERE revision = expected RETURNING revision`. -/
def updateDraft (draft : DraftAgent) (draftId : String) (updatedAt : Instant)
    (expectedRevision : Int) : AgentQuery (Option Nat) := do
  let s ← Effect.read
  match s.drafts.rows.find? (isRevision draft.agentId draftId expectedRevision) with
  | none => return none
  | some row => do
    Effect.require (row.revision + 1 ≤ maxInteger) (.data "integer out of range")
    Effect.require (row.createdAt ≤ updatedAt) (.integrity "agent_drafts_time_order")
    Effect.modify fun s => { s with
      drafts := s.drafts.update (isRevision draft.agentId draftId expectedRevision)
        (fun row => row.next draft updatedAt) fun _ => rfl }
    return some (row.revision + 1)

/-- The statement that writes the revision after the expected one. -/
def insertOrUpdate (draft : DraftAgent) (draftId : String) (createdAt updatedAt : Instant)
    (expectedRevision : Int) : AgentQuery (Option Nat) :=
  if expectedRevision = 0 then insertDraft draft draftId createdAt updatedAt
  else updateDraft draft draftId updatedAt expectedRevision

/-- The revision that was written, or else a conflict with the one that is there. -/
def writeDraft (draft : DraftAgent) (draftId : String) (createdAt updatedAt : Instant)
    (expectedRevision : Int) : AgentQuery Nat := do
  match ← insertOrUpdate draft draftId createdAt updatedAt expectedRevision with
  | some revision => return revision
  | none => do
    let s ← Effect.read
    Effect.raise (.conflict "agent_draft" draft.draftId expectedRevision
      ((s.drafts.rows.find? (isDraft draft.agentId draftId)).map (·.revision)))

/-- `save_draft`. -/
def saveDraft (draft : DraftAgent) (expectedRevision : Int) : AgentQuery AgentDraftRecord := do
  Effect.require (0 ≤ expectedRevision) (.value "expected_revision cannot be negative")
  let draftId ← .ofExcept (uuidValue lib draft.draftId "draft_id")
  let createdAt ← .ofExcept (timestampValue lib draft.createdAt "created_at")
  let updatedAt ← .ofExcept (timestampValue lib draft.updatedAt "updated_at")
  let nextRevision ←
    Effect.transaction (writeDraft draft draftId createdAt updatedAt expectedRevision)
  return { draft, revision := nextRevision }

/-! ## The active pointer -/

/-- The version that an agent has active. -/
def AgentStore.pointer (s : AgentStore) (agentId : String) : Option String :=
  (s.active.find? agentId).map (·.versionId)

/-- The id of the version that the pointer is expected to name. -/
def expectedPointer : Option String → Except AgentError (Option String)
  | none => .ok none
  | some versionId => some <$> uuidValue lib versionId "expected_active_version_id"

/-- Raise unless the pointer is the expected one. -/
def requirePointer (agentId : String) (expected : Option String) : AgentQuery Unit := do
  let s ← Effect.read
  Effect.require (s.pointer agentId = expected)
    (.pointerConflict "active_agent_version" agentId expected (s.pointer agentId))

/-- A publication may leave its expectation out. -/
def requireExpectation (agentId : String) :
    Option ActiveAgentPointerExpectation → AgentQuery Unit
  | none => pure ()
  | some expectation => do
    let expected ← .ofExcept (expectedPointer lib expectation.versionId)
    requirePointer agentId expected

/-- `INSERT ... ON CONFLICT (agent_id) DO UPDATE`. -/
def setActive (activation : ActiveAgentVersion) (versionId : String) : AgentQuery Unit := do
  let activatedAt ← .ofExcept (timestampValue lib activation.activatedAt "activated_at")
  Effect.modify fun s => { s with
    active := s.active.upsert
      { agentId := activation.agentId, versionId, activationJson := activation, activatedAt }
      (fun row => { row with versionId, activationJson := activation, activatedAt }) fun _ => rfl }

/-- `activate_version`. -/
def activateVersion (record : AgentActivationRecord) : AgentQuery AgentActivationRecord := do
  let value := record.activation
  let versionId ← .ofExcept (uuidValue lib value.versionId "version_id")
  let expected ← .ofExcept (expectedPointer lib record.activePointerExpectation.versionId)
  Effect.transaction do
    requirePointer value.agentId expected
    let s ← Effect.read
    Effect.require
      ((s.versions.rows.find? fun row => row.agentId = value.agentId && row.versionId = versionId).isSome)
      (.notFound "agent_version" value.versionId)
    setActive lib value versionId
  return record

/-! ## Publication -/

/-- The version of an asset that a reference is about. -/
def isReferred (reference : SharedAssetVersionRef) (versionId : String) (row : AssetVersionRow) :
    Bool :=
  row.versionId = versionId && row.assetId = reference.assetId &&
    row.revision = reference.revision && row.contentSha256 = reference.contentDigest

/-- `_require_shared_asset_versions`. -/
def requireSharedAssetVersions : List SharedAssetVersionRef → AgentQuery Unit
  | [] => pure ()
  | reference :: references => do
    let versionId ← .ofExcept (uuidValue lib reference.versionId "shared_asset_version_id")
    let s ← Effect.read
    Effect.require (((s.sharedVersions reference.kind).rows.any (isReferred reference versionId)) = true)
      (.notFound (reference.kind.value ++ "_version")
        (reference.assetId ++ ":" ++ reference.versionId))
    requireSharedAssetVersions references

/-- The row of a reference. -/
def refRow (agentVersionId assetVersionId : String) (item : SharedAssetVersionRef) :
    SharedAssetRefRow where
  agentVersionId
  assetKind := item.kind
  assetId := item.assetId
  assetVersionId
  assetRevision := item.revision
  contentSha256 := item.contentDigest

def insertRef (agentVersionId : String) (item : SharedAssetVersionRef) : AgentQuery Unit := do
  let assetVersionId ← .ofExcept (uuidValue lib item.versionId "shared_asset_version_id")
  let s ← Effect.read
  match s.sharedAssetRefs.insert? (refRow agentVersionId assetVersionId item) with
  | none => Effect.raise (.integrity "agent_version_shared_asset_refs_pkey")
  | some sharedAssetRefs => Effect.modify fun s => { s with sharedAssetRefs }

/-- The rows of the references of a version. -/
def insertRefs (agentVersionId : String) : List SharedAssetVersionRef → AgentQuery Unit
  | [] => pure ()
  | item :: items => do
    insertRef lib agentVersionId item
    insertRefs agentVersionId items

def versionRow (version : PublishedAgentVersion) (versionId draftId : String) (draftRevision : Nat)
    (publishedAt : Instant) : AgentVersionRow where
  versionId
  agentId := version.agentId
  sourceDraftId := draftId
  sourceDraftRevision := draftRevision
  versionJson := version
  publishedAt
  publishedBy := version.publishedBy

def insertVersion (version : PublishedAgentVersion) (versionId draftId : String)
    (draftRevision : Nat) : AgentQuery Unit := do
  let publishedAt ← .ofExcept (timestampValue lib version.publishedAt "published_at")
  let s ← Effect.read
  match s.versions.insert? (versionRow version versionId draftId draftRevision publishedAt) with
  | none => Effect.raise (.integrity "agent_versions_pkey")
  | some versions => Effect.modify fun s => { s with versions }

/-- The draft at the revision that is published. -/
def lockDraft (version : PublishedAgentVersion) (draftId : String) (expectedDraftRevision : Int) :
    AgentQuery AgentDraftRow := do
  let s ← Effect.read
  match s.drafts.rows.find? (isDraft version.agentId draftId) with
  | none =>
    Effect.raise (.conflict "agent_draft" version.sourceDraftId expectedDraftRevision none)
  | some row => do
    Effect.require ((row.revision : Int) = expectedDraftRevision)
      (.conflict "agent_draft" version.sourceDraftId expectedDraftRevision (some row.revision))
    return row

/-- `publish_version`. -/
def publishVersion (publication : AgentPublicationRecord) (expectedDraftRevision : Int) :
    AgentQuery AgentPublicationRecord := do
  Effect.require ((publication.draftRevision : Int) = expectedDraftRevision)
    (.invariant "publication draft_revision must match expected_draft_revision")
  let version := publication.version
  let versionId ← .ofExcept (uuidValue lib version.versionId "version_id")
  let draftId ← .ofExcept (uuidValue lib version.sourceDraftId "source_draft_id")
  Effect.transaction do
    requireExpectation lib version.agentId publication.activePointerExpectation
    let row ← lockDraft version draftId expectedDraftRevision
    let persisted ← .ofExcept (lib.validateDraft row.draftJson)
    Effect.require (version.contractBundle.eq persisted.contractBundle = true)
      (.invariant "published Agent contract must match the revisioned Draft Agent")
    let s ← Effect.read
    Effect.require ((s.versions.find? versionId).isNone)
      (.conflict "agent_version" version.versionId 0 (some 1))
    requireSharedAssetVersions lib version.resolvedSharedAssetVersions.versions
    insertVersion lib version versionId draftId row.revision
    insertRefs lib versionId version.resolvedSharedAssetVersions.versions
    setActive lib publication.activation versionId
  return publication

/-! ## Calls -/

/-- The calls of the repository, and the versions that shared assets get meanwhile. -/
inductive AgentCall where
  | saveDraft (draft : DraftAgent) (expectedRevision : Int)
  | publishVersion (publication : AgentPublicationRecord) (expectedDraftRevision : Int)
  | activateVersion (record : AgentActivationRecord)
  /-- A save of a shared asset adds a version. -/
  | addAssetVersion (kind : SharedAssetKind) (row : AssetVersionRow)

/-- The next version of a shared asset. -/
def addAssetVersion (kind : SharedAssetKind) (row : AssetVersionRow) : AgentQuery Unit := do
  let s ← Effect.read
  match kind, (s.sharedVersions kind).insert? row with
  | _, none => Effect.raise (.integrity "version_pkey")
  | .modelConnection, some versions =>
    Effect.modify fun s => { s with modelConnectionVersions := versions }
  | .toolSource, some versions => Effect.modify fun s => { s with toolSourceVersions := versions }

def AgentCall.exec : AgentCall → AgentQuery Unit
  | saveDraft draft expectedRevision => do
    let _ ← Agents.saveDraft lib draft expectedRevision
  | publishVersion publication expectedDraftRevision => do
    let _ ← Agents.publishVersion lib publication expectedDraftRevision
  | activateVersion record => do
    let _ ← Agents.activateVersion lib record
  | addAssetVersion kind row => Agents.addAssetVersion kind row

end ProofAgent.Agents
