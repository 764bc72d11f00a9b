import ProofAgent.Base.Interleaving
import ProofAgent.Persistence.ArtifactRepository

/-! # Artifact bundles

`ArtifactBundleFinalizer.prepare` uploads the members of a bundle in the order of their ids and
the manifest last, and reads every exact version back before it goes on. The store is outside
the program; the caller's cancellation check is called before every upload. -/
namespace ProofAgent

open Base

/-- What the finalizer raises itself, and what the store raises. -/
inductive FinalizerError where
  | value (message : String)
  | runtime (message : String)
  | store (message : String)
  deriving DecidableEq

/-- The functions of the standard library that the finalizer uses. -/
structure ArtifactLibrary where
  /-- `hashlib.sha256(content).hexdigest()`. -/
  sha256 : List UInt8 → String
  /-- The canonical JSON text of `manifest.model_dump(mode="json")`. -/
  manifestBytes : ArtifactManifest → List UInt8

structure ArtifactPutRequest where
  kind : ArtifactKind
  owner : ArtifactOwner
  contentType : String
  expectedSha256 : String
  expectedSizeBytes : Nat
  displayFilename : Option String := none
  expiresAt : Option Instant := none
  deriving DecidableEq

/-- The store as the finalizer sees it; `openExact` gives the whole stream. -/
structure ArtifactStore (σ : Type) where
  putImmutable : ArtifactPutRequest → List UInt8 → Effect σ String ArtifactObjectVersion
  headExact : ArtifactObjectVersion → Effect σ String ArtifactObjectVersion
  openExact : ArtifactObjectVersion → Effect σ String (List UInt8)

structure ArtifactMemberPayload where
  memberId : String
  kind : ArtifactKind
  contentType : String
  content : List UInt8
  displayFilename : Option String := none
  expiresAt : Option Instant := none
  member_kind : kind ≠ .artifactManifest
  complete : memberId ≠ "" ∧ contentType ≠ "" ∧ content ≠ []
  deriving DecidableEq

structure PreparedArtifactBundle where
  manifest : ArtifactManifest
  manifestRef : ArtifactObjectVersion
  deriving DecidableEq

/-- `ArtifactManifest(...)`. -/
def ArtifactManifest.make (manifestId : String) (owner : ArtifactOwner)
    (members : List (String × ArtifactObjectVersion)) (createdAt : Instant) :
    Except FinalizerError ArtifactManifest :=
  if hnonempty : members ≠ [] then
    if hids : (members.map Prod.fst).Nodup then
      if hversions : (members.map fun m => m.2.exact).Nodup then
        if howners : ∀ m ∈ members, m.2.owner = owner then
          .ok ⟨manifestId, owner, members, createdAt, hids, hversions, howners, hnonempty⟩
        else .error (.value "artifact manifest member owner does not match")
      else .error (.value "artifact manifest contains duplicate exact members")
    else .error (.value "artifact manifest contains duplicate member ids")
  else .error (.value "artifact manifest has no members")

namespace ArtifactBundleFinalizer

variable {σ ε : Type} (library : ArtifactLibrary) (store : ArtifactStore σ)
  (fault : FinalizerError → ε)

/-- One call of the store. -/
def callStore {α : Type} (x : Effect σ String α) : Process σ ε α :=
  .step (fun s => (x s).2) fun s => .done ((x s).1.mapError fun message => fault (.store message))

/-- `_verify_exact`. -/
def verifyExact (ref : ArtifactObjectVersion) : Process σ ε Unit := do
  let head ← callStore fault (store.headExact ref)
  if head ≠ ref then
    .raise (fault (.runtime "artifact exact head does not match returned reference"))
  else do
    let content ← callStore fault (store.openExact ref)
    if ref.sizeBytes < content.length then
      .raise (fault (.runtime "artifact exact read exceeds authority length"))
    else if content.length ≠ ref.sizeBytes ∨ library.sha256 content ≠ ref.sha256 then
      .raise (fault (.runtime "artifact exact read failed length or digest verification"))
    else pure ()

/-- Upload an object and read it back. -/
def upload (request : ArtifactPutRequest) (content : List UInt8) :
    Process σ ε ArtifactObjectVersion := do
  let ref ← callStore fault (store.putImmutable request content)
  verifyExact library store fault ref
  return ref

/-- One round of the loop over the members. -/
def uploadMember (check : Process σ ε Unit) (owner : ArtifactOwner)
    (uploaded : List (String × ArtifactObjectVersion)) (member : ArtifactMemberPayload) :
    Process σ ε (List (String × ArtifactObjectVersion)) := do
  check
  let ref ← upload library store fault
    { kind := member.kind
      owner
      contentType := member.contentType
      expectedSha256 := library.sha256 member.content
      expectedSizeBytes := member.content.length
      displayFilename := member.displayFilename
      expiresAt := member.expiresAt } member.content
  return uploaded ++ [(member.memberId, ref)]

def prepare (clock : Process σ ε Instant) (check : Process σ ε Unit) (owner : ArtifactOwner)
    (manifestId : String) (members : List ArtifactMemberPayload) :
    Process σ ε PreparedArtifactBundle := do
  let now ← clock
  if members = [] then .raise (fault (.value "artifact bundle requires at least one member"))
  else if ¬ (members.map (·.memberId)).Nodup then
    .raise (fault (.value "artifact bundle contains duplicate member ids"))
  else do
    let sorted := members.insertionSort fun a b => a.memberId ≤ b.memberId
    let uploaded ← sorted.foldlM (uploadMember library store fault check owner) []
    let manifest ← .ofExcept ((ArtifactManifest.make manifestId owner uploaded now).mapError fault)
    let content := library.manifestBytes manifest
    check
    let manifestRef ← upload library store fault
      { kind := .artifactManifest
        owner
        contentType := "application/vnd.proofagent.artifact-manifest+json"
        expectedSha256 := library.sha256 content
        expectedSizeBytes := content.length
        displayFilename := some "artifact-manifest.json" } content
    return { manifest, manifestRef }

end ArtifactBundleFinalizer

end ProofAgent
