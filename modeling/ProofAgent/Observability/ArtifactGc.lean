import Mathlib.Data.List.Sort
import ProofAgent.Base.Interleaving
import ProofAgent.Persistence.ArtifactRepository

/-! # Collecting orphaned artifacts

The object store keeps exact versions. The collector looks for versions older than a day that no
manifest refers to, and deletes each in a transaction of its own. Meanwhile others upload
versions, commit manifests, and take results out of sight. -/
namespace ProofAgent

open Base

/-- `ORPHAN_GRACE`. -/
def orphanGrace : Int := seconds (24 * 3600)

/-- `ORPHAN_HEALTH_LIMIT`. -/
def orphanHealthLimit : Int := days 7

structure ArtifactGcReport where
  scanned : Nat
  referenced : Nat
  deleted : Nat
  failed : Nat
  oldestOrphanAgeSeconds : Option Int
  releaseHealthy : Bool
  dryRun : Bool
  deriving DecidableEq

/-- What the calls raise: errors of the repository, and `ArtifactStoreError`. -/
inductive ArtifactError where
  | repository (e : Error)
  | artifactStore (message : String)
  deriving DecidableEq

/-! ## The world of the calls -/

/-- What happened to artifacts: a commit bound a manifest to its owner, `mark_corrupt` found a
recorded version, a collection of the time `now` made the store lose a version. -/
inductive ArtifactEvent where
  | committed (manifest : ArtifactManifest) (manifestRef : ArtifactObjectVersion) (time : Instant)
  | marked (ref : ArtifactObjectVersion)
  | deleted (ref : ArtifactObjectVersion) (now : Instant)
  deriving DecidableEq

/-- The tables, the versions that the object store has, and what happened. -/
structure ArtifactWorld where
  clock : Instant
  db : ArtifactTables
  store : List ArtifactObjectVersion
  journal : List ArtifactEvent

/-- What the object store does when it is asked to delete a version that it has. -/
inductive DeleteFate where
  | deleted | raised | raisedAfterDeleting
  deriving DecidableEq

/-- What the object store answers to one collection. -/
structure StoreAnswers where
  lists : Bool
  deletes : ArtifactObjectVersion → DeleteFate

/-- The version is in the tables, under its id. -/
def ArtifactRepository.isRecorded (db : ArtifactTables) (ref : ArtifactObjectVersion) : Bool :=
  db.objects.rows.any fun row => row.objectId = ref.objectId && row.refJson.exact = ref.exact

namespace ArtifactWorld

abbrev Call (α : Type) : Type := Effect ArtifactWorld ArtifactError α

/-- `put_immutable`, with the version that it made. -/
def putImmutable (ref : ArtifactObjectVersion) : Call ArtifactObjectVersion := fun w =>
  let ref := { ref with createdAt := w.clock }
  if w.store.any fun stored => stored.exact = ref.exact then
    (.error (.artifactStore "system-generated artifact key collided"), w)
  else (.ok ref, { w with store := w.store ++ [ref] })

/-- Created before the other, or together with it under a smaller id. -/
def listedBefore (a b : ArtifactObjectVersion) : Prop :=
  a.createdAt < b.createdAt ∨ a.createdAt = b.createdAt ∧ a.objectId ≤ b.objectId

instance : DecidableRel listedBefore := fun a b =>
  inferInstanceAs (Decidable (a.createdAt < b.createdAt ∨
    a.createdAt = b.createdAt ∧ a.objectId ≤ b.objectId))

/-- `iter_versions_before`. -/
def iterVersionsBefore (before : Instant) (answers : StoreAnswers) :
    Call (List ArtifactObjectVersion) := fun w =>
  if answers.lists then
    (.ok ((w.store.filter (·.createdAt < before)).insertionSort listedBefore), w)
  else (.error (.artifactStore "S3 artifact version listing failed"), w)

/-- `delete_exact`, for a collection of the time `now`. -/
def deleteExact (ref : ArtifactObjectVersion) (now : Instant) (answers : StoreAnswers) :
    Call Unit := fun w =>
  let without : ArtifactWorld :=
    { w with store := w.store.filter (· ≠ ref), journal := w.journal ++ [.deleted ref now] }
  if ref ∉ w.store then (.error (.artifactStore "exact artifact version is unavailable"), w)
  else match answers.deletes ref with
    | .deleted => (.ok (), without)
    | .raised => (.error (.artifactStore "exact S3 artifact delete failed"), w)
    | .raisedAfterDeleting =>
      (.error (.artifactStore "S3 deleted an unexpected artifact version"), without)

/-- A read of the repository. -/
def reading {α : Type} (f : ArtifactTables → α) : Call α := fun w => (.ok (f w.db), w)

/-- `delete_if_unreferenced`. The lock on the exact version, which a commit takes too, is held
from the check to the end. -/
def deleteIfUnreferenced (ref : ArtifactObjectVersion) (deleter : Call Unit) : Call Bool := do
  let contained ← reading (ArtifactRepository.containsExact · ref)
  if contained then return false
  deleter
  return true

/-- `commit_visible_manifest`. A commit that finds its manifest bound already, binds nothing. -/
def commitVisibleManifest (manifest : ArtifactManifest) (manifestRef : ArtifactObjectVersion) :
    Call ArtifactOwnerBinding := fun w =>
  match ArtifactRepository.commitVisibleManifest manifest manifestRef w.db with
  | .error e => (.error (.repository e), w)
  | .ok (binding, db) =>
    if (w.db.bindings.find? manifest.owner).isSome then (.ok binding, { w with db })
    else
      (.ok binding,
        { w with db, journal := w.journal ++ [.committed manifest manifestRef w.clock] })

/-- `mark_corrupt`. -/
def markCorrupt (ref : ArtifactObjectVersion) (now : Instant) : Call Nat := fun w =>
  let (hidden, db) := ArtifactRepository.markCorrupt ref now w.db
  if ArtifactRepository.isRecorded w.db ref then
    (.ok hidden, { w with db, journal := w.journal ++ [.marked ref] })
  else (.ok hidden, { w with db })

/-- `expire_due`. -/
def expireDue (now : Instant) : Call Nat := fun w =>
  let (hidden, db) := ArtifactRepository.expireDue now w.db
  (.ok hidden, { w with db })

end ArtifactWorld

/-! ## Calls -/

abbrev ArtifactProcess (α : Type) : Type := Process ArtifactWorld ArtifactError α

/-- `datetime.now(UTC)`. -/
def readClock : ArtifactProcess Instant := .atomic fun w => (.ok w.clock, w)

namespace ArtifactGarbageCollector

/-- What `collect` counts. -/
structure Counts where
  scanned : Nat := 0
  referenced : Nat := 0
  deleted : Nat := 0
  failed : Nat := 0
  oldestAge : Option Int := none

/-- The body of the loop. -/
def collectVersion (now : Instant) (dryRun : Bool) (answers : StoreAnswers) (counts : Counts)
    (ref : ArtifactObjectVersion) : ArtifactProcess Counts := do
  let counts := { counts with scanned := counts.scanned + 1 }
  let contained ← Process.atomic (ArtifactWorld.reading (ArtifactRepository.containsExact · ref))
  if contained then return { counts with referenced := counts.referenced + 1 }
  let age := now - ref.createdAt
  let counts := { counts with oldestAge := some (counts.oldestAge.elim age (max · age)) }
  if dryRun then return counts
  let removed ← (Process.atomic
    (ArtifactWorld.deleteIfUnreferenced ref (ArtifactWorld.deleteExact ref now answers))).caught
  match removed with
  | .error _ => return { counts with failed := counts.failed + 1 }
  | .ok true => return { counts with deleted := counts.deleted + 1 }
  | .ok false => return { counts with referenced := counts.referenced + 1 }

def Counts.report (counts : Counts) (dryRun : Bool) : ArtifactGcReport where
  scanned := counts.scanned
  referenced := counts.referenced
  deleted := counts.deleted
  failed := counts.failed
  oldestOrphanAgeSeconds := counts.oldestAge.map fun age => max 0 (age.tdiv 1000000)
  releaseHealthy := counts.failed = 0 && counts.oldestAge.all (· ≤ orphanHealthLimit)
  dryRun := dryRun

def collect (now : Instant) (dryRun : Bool) (answers : StoreAnswers) :
    ArtifactProcess ArtifactGcReport := do
  let refs ← Process.atomic (ArtifactWorld.iterVersionsBefore (now - orphanGrace) answers)
  let counts ← refs.foldlM (collectVersion now dryRun answers) {}
  return counts.report dryRun

end ArtifactGarbageCollector

inductive ArtifactCall where
  /-- Time passes. -/
  | wait (elapsed : Nat)
  | upload (ref : ArtifactObjectVersion)
  | commit (manifest : ArtifactManifest) (manifestRef : ArtifactObjectVersion)
  | markCorrupt (ref : ArtifactObjectVersion)
  | expireDue
  | collect (dryRun : Bool) (answers : StoreAnswers)

inductive ArtifactReply where
  | waited
  | uploaded (ref : ArtifactObjectVersion)
  | bound (binding : ArtifactOwnerBinding)
  | hidden (bindings : Nat)
  | collected (report : ArtifactGcReport)
  deriving DecidableEq

/-- The transactions of a call. -/
def ArtifactCall.process : ArtifactCall → ArtifactProcess ArtifactReply
  | wait elapsed => Process.atomic fun w => (.ok .waited, { w with clock := w.clock + elapsed })
  | upload ref => (Process.atomic (ArtifactWorld.putImmutable ref)).map .uploaded
  | commit manifest manifestRef =>
    (Process.atomic (ArtifactWorld.commitVisibleManifest manifest manifestRef)).map .bound
  | markCorrupt ref => do
    let now ← readClock
    (Process.atomic (ArtifactWorld.markCorrupt ref now)).map .hidden
  | expireDue => do
    let now ← readClock
    (Process.atomic (ArtifactWorld.expireDue now)).map .hidden
  | collect dryRun answers => do
    let now ← readClock
    (ArtifactGarbageCollector.collect now dryRun answers).map .collected

/-- The calls before the first of them, when nothing is stored. -/
def artifactPool (start : Instant) (calls : List ArtifactCall) :
    Pool ArtifactWorld ArtifactError ArtifactReply :=
  ⟨⟨start, .empty, [], []⟩, calls.map ArtifactCall.process⟩

end ProofAgent
