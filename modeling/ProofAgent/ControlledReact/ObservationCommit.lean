import ProofAgent.Base.Effect
import ProofAgent.ControlledReact.ArtifactBinding
import Mathlib.Data.List.AList

/-! # Committing observations

The committer checks an effect against the action and the round, binds its truth
to a digest, lets the state machine record the observation, and only then saves
the truth. A truth store is any pair of calls; the one in memory keeps a truth
under its bound reference and the bound reference under its base. -/
namespace ProofAgent

open Base

structure ObservationIdentity where
  observationId : String
  truthRef : String
  deriving DecidableEq

/-- `ObservationIdentity.allocate`. -/
def ObservationIdentity.allocate (runId : String) (planRound : Nat) (actionId : String) :
    ObservationIdentity :=
  let observationId := "obs_" ++ toString planRound ++ "_" ++ actionId
  { observationId, truthRef := observationBaseReference runId observationId }

structure ObservationEffect where
  observationRecord : ObservationRecord
  truthArtifact : ObservationTruthArtifact
  traceProjection : FrozenDict := .empty
  toolSummaryFields : List String := []
  toolSummaryProjection : Option FrozenDict := none

structure ObservationCommitResult where
  state : ControlledReActRunState
  traceProjection : FrozenDict

/-! ## Truth stores -/

/-- `_ObservationTruthStore`: two calls on a state. -/
structure ObservationTruthStorePort (σ : Type) where
  save : ObservationTruthArtifact → Effect σ ReactError String
  load : String → Effect σ ReactError ObservationTruthArtifact

structure InMemoryObservationTruthStore where
  truth : AList fun _ : String => ObservationTruthArtifact
  refByBase : AList fun _ : String => String

namespace InMemoryObservationTruthStore

def empty : InMemoryObservationTruthStore := ⟨∅, ∅⟩

variable (rt : Runtime)

def save (truth : ObservationTruthArtifact) :
    Effect InMemoryObservationTruthStore ReactError String := do
  let binding ← Effect.ofExcept (requireBoundObservationTruth rt truth)
  let store ← Effect.read
  Effect.require ((store.refByBase.lookup binding.baseReference).all (· = binding.reference))
    (.value "conflicting observation truth already exists")
  Effect.modify fun store =>
    { truth := store.truth.insert binding.reference binding.truth
      refByBase := store.refByBase.insert binding.baseReference binding.reference }
  return binding.reference

def load (truthRef : String) : Effect InMemoryObservationTruthStore ReactError
    ObservationTruthArtifact := do
  let store ← Effect.read
  Effect.ofExcept (orRaise (store.truth.lookup truthRef) (.key truthRef))

def port : ObservationTruthStorePort InMemoryObservationTruthStore where
  save := save rt
  load := load

end InMemoryObservationTruthStore

/-! ## Summaries -/

/-- The digits of a number in decimal. -/
def decimalDigits (text : List Char) : Option Nat :=
  if text ≠ [] ∧ text.all Char.isDigit then
    some (text.foldl (fun n c => 10 * n + (c.toNat - '0'.toNat)) 0)
  else none

/-- `int(value or 0)`; a text must be a plain decimal number. -/
def intOrZero : Option Json → Except ReactError Int
  | none | some .null => .ok 0
  | some (.bool b) => .ok b.toNat
  | some (.int n) => .ok n
  | some (.float x) =>
    let magnitude := if 0 ≤ x.exponent then x.coefficient * 10 ^ x.exponent.toNat
      else x.coefficient / 10 ^ (-x.exponent).toNat
    .ok (if x.negative then -magnitude else magnitude)
  | some (.str "") => .ok 0
  | some (.str s) => orRaise (match s.toList with
      | '-' :: rest => (decimalDigits rest).map fun n => -(n : Int)
      | digits => (decimalDigits digits).map fun n => (n : Int))
      (.value ("invalid literal for int() with base 10: " ++ s))
  | some (.arr []) | some (.obj []) => .ok 0
  | some _ => .error (.port "int() argument must be a string or a real number")

namespace ObservationSummaryBuilder

/-- `_build_retrieval_summary`. -/
def buildRetrievalSummary (truth : RetrievalObservationTruth) : Except ReactError FrozenDict := do
  let rejectedCount ← intOrZero (truth.rejectedEvidenceSummary.get? "count")
  return .ofFields ([("truth_kind", .str "retrieval"),
    ("accepted_evidence_count", .int truth.acceptedEvidence.length),
    ("rejected_evidence_count", .int rejectedCount),
    ("citation_count", .int truth.citationRefs.length)] ++
    ["min_score", "evidence_validation"].filterMap fun key =>
      (truth.admissionMetadata.get? key).map fun value => (key, value))

/-- `_build_tool_summary`. -/
def buildToolSummary (truth : ToolObservationTruth) (toolSummaryFields : List String)
    (toolSummaryProjection : Option FrozenDict) : Except ReactError FrozenDict := do
  let fields := match toolSummaryProjection with
    | some projection => projection
    | none => .ofFields (toolSummaryFields.dedup.filterMap fun field =>
        (truth.authorizedResult.get? field).map fun value => (field, value))
  let redactedCount ← intOrZero (truth.redactionMetadata.get? "redacted_field_count")
  return .ofFields [("truth_kind", .str "tool"), ("tool_name", .str truth.toolName),
    ("result_schema_id", .ofOption .str truth.resultSchemaId), ("fields", fields.json),
    ("result", fields.json), ("redacted_field_count", .int redactedCount)]

def build (effect : ObservationEffect) : Except ReactError FrozenDict :=
  match effect.truthArtifact with
  | .retrieval truth => buildRetrievalSummary truth
  | .tool truth => buildToolSummary truth effect.toolSummaryFields effect.toolSummaryProjection

end ObservationSummaryBuilder

/-! ## The state machine -/

/-- A command to record an observation, the only kind there is. -/
structure TransitionCommand where
  commandId : String
  action : ReActActionProposal

structure EffectResult where
  commandId : String
  observationRecord : Option ObservationRecord := none

/-- One observation has at most one record. -/
def sameObservation (a b : ObservationRecord) : Bool :=
  a.observationId = b.observationId && a.actionId = b.actionId

/-- `_has_observation`. -/
def hasObservation (state : ControlledReActRunState) (observation : ObservationRecord) : Bool :=
  state.observationRecords.any fun existing => sameObservation existing observation

/-- `_record_observation`. -/
def recordObservation (state : ControlledReActRunState) (command : TransitionCommand)
    (effect : EffectResult) : Except ReactError ControlledReActRunState := do
  require (effect.commandId = command.commandId)
    (.value "effect result does not match transition command")
  let observation ← orRaise effect.observationRecord
    (.value "record_observation requires an ObservationRecord")
  require (observation.actionId = command.action.actionId)
    (.value "observation action_id does not match command action")
  if hasObservation state observation then return state
  else do
    require (state.phase = .observing)
      (.value "observation records can only be committed while observing")
    return { state with phase := .planning
                        observationRecords := state.observationRecords ++ [observation] }

/-! ## The committer -/

namespace ObservationCommitter

/-- `_validate_effect`. -/
def validateEffect (state : ControlledReActRunState) (action : ReActActionProposal)
    (effect : ObservationEffect) (expectedIdentity : Option ObservationIdentity) :
    Except ReactError Unit := do
  let record := effect.observationRecord
  let truth := effect.truthArtifact
  require (record.round = state.planRound)
    (.value "observation round does not match current plan round")
  require (record.actionId = action.actionId)
    (.value "observation action_id does not match action")
  require (record.actionType = action.actionType)
    (.value "observation action_type does not match action")
  require (truth.actionId = action.actionId) (.value "truth action_id does not match action")
  require (record.observationId = truth.observationId)
    (.value "observation_id does not match truth artifact")
  require (record.truthRef = truth.truthRef)
    (.value "observation truth_ref does not match truth artifact")
  require (expectedIdentity.all fun identity => record.observationId = identity.observationId)
    (.value "observation_id does not match allocated observation identity")
  require (expectedIdentity.all fun identity => record.truthRef = identity.truthRef)
    (.value "truth_ref does not match allocated observation identity")

/-- `_matching_observation`. -/
def matchingObservation (state : ControlledReActRunState) (record : ObservationRecord) :
    Option ObservationRecord :=
  state.observationRecords.find? fun existing => sameObservation existing record

/-- `_trace_projection`. -/
def traceProjection (record : ObservationRecord) (effect : ObservationEffect) : FrozenDict :=
  let fields := FrozenDict.ofFields [("observation_id", .str record.observationId),
    ("action_id", .str record.actionId), ("action_type", .str record.actionType.value),
    ("round", .int record.round), ("truth_ref", .str record.truthRef),
    ("accepted_evidence_count", .int record.acceptedEvidenceCount),
    ("new_evidence_count", .int record.newEvidenceCount),
    ("source_refs", textsJson record.sourceRefs), ("citation_refs", textsJson record.citationRefs)]
  effect.traceProjection.update (fields.update record.summary)

variable (rt : Runtime) {σ : Type} (truthStore : ObservationTruthStorePort σ)

/-- `_verify_stored_truth`. -/
def verifyStoredTruth (expectedTruth : ObservationTruthArtifact) (expectedReference : String) :
    Effect σ ReactError Unit := do
  let storedTruth ← truthStore.load expectedReference
  let storedBinding ← Effect.ofExcept (requireBoundObservationTruth rt storedTruth)
  Effect.require (storedBinding.reference = expectedReference)
    (.value "truth store loaded a mismatched truth_ref")
  Effect.require (storedBinding.truth.payload.canonical = expectedTruth.payload.canonical)
    (.value "truth store loaded a mismatched observation payload")

/-- `_record_with_authoritative_summary`. -/
def recordWithAuthoritativeSummary (effect : ObservationEffect) :
    Except ReactError ObservationRecord := do
  let summary ← ObservationSummaryBuilder.build effect
  return { effect.observationRecord with summary }

/-- `_commit_record`. -/
def commitRecord (state : ControlledReActRunState) (action : ReActActionProposal)
    (record : ObservationRecord) : Except ReactError ControlledReActRunState :=
  let commandId := "commit_" ++ record.observationId
  recordObservation state { commandId, action } { commandId, observationRecord := some record }

/-- What a commit works out before it touches the store: the bound truth, and the
record that carries its reference. -/
def boundRecord (state : ControlledReActRunState) (action : ReActActionProposal)
    (effect : ObservationEffect) (expectedIdentity : Option ObservationIdentity) :
    Except ReactError (ObservationTruthArtifactBinding × ObservationRecord) := do
  validateEffect state action effect expectedIdentity
  let record ← recordWithAuthoritativeSummary effect
  let truthBinding ← bindObservationTruth rt effect.truthArtifact
  return (truthBinding, { record with truthRef := truthBinding.reference })

/-- The observation has a record already. -/
def commitAgain (state : ControlledReActRunState) (effect : ObservationEffect)
    (truthBinding : ObservationTruthArtifactBinding) (existingRecord : ObservationRecord) :
    Effect σ ReactError ObservationCommitResult := do
  Effect.require (existingRecord.truthRef = truthBinding.reference)
    (.value "conflicting observation payload for committed observation identity")
  verifyStoredTruth rt truthStore truthBinding.truth truthBinding.reference
  return { state, traceProjection := traceProjection existingRecord effect }

def commitNew (state : ControlledReActRunState) (action : ReActActionProposal)
    (effect : ObservationEffect) (truthBinding : ObservationTruthArtifactBinding)
    (record : ObservationRecord) : Effect σ ReactError ObservationCommitResult := do
  let next ← Effect.ofExcept (commitRecord state action record)
  let savedTruthRef ← truthStore.save truthBinding.truth
  Effect.require (savedTruthRef = truthBinding.reference)
    (.value "truth store returned a mismatched truth_ref")
  verifyStoredTruth rt truthStore truthBinding.truth truthBinding.reference
  return { state := next, traceProjection := traceProjection record effect }

def commit (state : ControlledReActRunState) (action : ReActActionProposal)
    (effect : ObservationEffect) (expectedIdentity : Option ObservationIdentity) :
    Effect σ ReactError ObservationCommitResult := do
  let (truthBinding, record) ← Effect.ofExcept (boundRecord rt state action effect expectedIdentity)
  match matchingObservation state record with
  | some existingRecord => commitAgain rt truthStore state effect truthBinding existingRecord
  | none => commitNew rt truthStore state action effect truthBinding record

end ObservationCommitter

end ProofAgent
