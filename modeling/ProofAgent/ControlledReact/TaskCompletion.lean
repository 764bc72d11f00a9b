import ProofAgent.Control.TaskService
import ProofAgent.ControlledReact.ActionControl
import ProofAgent.ControlledReact.ArtifactBinding

/-! # Completion of the required retrievals

A run's intent lists retrieval queries, some of them required. A query is
attempted once a retrieval observation was made for it, and supported once such
an observation has an accepted chunk whose source and citation are bound in the
record and in the truth. -/
namespace ProofAgent

open Base

/-- The functions over business texts that completion rests on. -/
structure CoverageKnowledge where
  missingPerformanceCoverage : String → String → List String
  /-- The statements of `answer_fact_repair_options`. -/
  answerFactRepairStatements : List EvidenceChunk → List String
  assessmentGaps : List EvidenceChunk → List String

/-- `value.strip()`. -/
def stripText (value : String) : String :=
  String.ofList ((value.toList.dropWhile isSpace).reverse.dropWhile isSpace).reverse

/-- `value[:n]`. -/
def takeText (n : Nat) (value : String) : String := String.ofList (value.toList.take n)

structure RequiredRetrieval where
  requirementId : String
  query : String
  deriving DecidableEq

structure RetrievalRequirementProgress where
  requirement : RequiredRetrieval
  attempted : Bool
  supportingTruthRefs : List String
  deriving DecidableEq

structure RetrievalTaskCompletion where
  requirements : List RetrievalRequirementProgress
  missingAnswerRequirements : List String := []
  supplementary : List RequiredRetrieval := []
  deriving DecidableEq

namespace RetrievalTaskCompletion

def complete (c : RetrievalTaskCompletion) : Bool :=
  c.requirements ≠ [] && c.requirements.all (fun row => row.supportingTruthRefs ≠ []) &&
    c.missingAnswerRequirements = []

def pending (c : RetrievalTaskCompletion) : List RequiredRetrieval :=
  let required := (c.requirements.filter fun row => !row.attempted).map (·.requirement)
  if required ≠ [] ∨ c.requirements.any (fun row => row.supportingTruthRefs = []) = true then
    required
  else if c.missingAnswerRequirements ≠ [] then c.supplementary else []

def unmetCount (c : RetrievalTaskCompletion) : Nat :=
  c.requirements.countP fun row => row.supportingTruthRefs = []

end RetrievalTaskCompletion

def incompleteRefusal (proposal : ReActActionProposal) (reason : String) : ReActActionProposal :=
  { proposal with
    actionType := .refuse
    parameters := .ofFields [("refusal_reason", .str reason)]
    targetToolName := none
    reasoningSummary := { proposal.reasoningSummary with
      selectedAction := .refuse
      rationaleSummary := "The retrieval completion gate does not permit a final answer." } }

def pendingRetrievalAction (proposal : ReActActionProposal) (requirement : RequiredRetrieval)
    (planRound : Nat) : ReActActionProposal where
  actionId := "act_required_" ++ toString (planRound + 1) ++ "_" ++
    String.ofList ((requirement.requirementId.toList.drop 3).take 16)
  actionType := .planRetrieval
  parameters := .ofFields [("query", .str requirement.query)]
  riskLevel := proposal.riskLevel
  reasoningSummary :=
    { goal := "Complete the required retrieval evidence."
      observations := ["A required query has no verified evidence."]
      candidateActions := [.planRetrieval, .refuse]
      selectedAction := .planRetrieval
      rationaleSummary := "Retrieve the pending requirement before finalizing."
      riskFlags := proposal.reasoningSummary.riskFlags
      requiredEvidence := [requirement.requirementId] }

/-! ## The intent's queries -/

/-- `_invalid_requirement`. -/
def invalidRequirement : ReactError :=
  runtimeError "Required retrieval specification is invalid."
    "Use the validated bounded Intent Resolution query set."

/-- One item of an intent's `retrieval_query_set`. -/
structure RetrievalQuery where
  query : String
  required : Bool
  deriving DecidableEq

def RetrievalQuery.ofJson (item : Json) : Except ReactError RetrievalQuery := do
  let required ← orRaise ((item.field "required").bind Json.asBool) invalidRequirement
  let query ← orRaise ((item.field "query").bind Json.asStr) invalidRequirement
  require (isBlank query = false) invalidRequirement
  return { query, required }

/-- The validated `retrieval_query_set` of an intent. -/
def retrievalQuerySet : Option FrozenDict → Except ReactError (List RetrievalQuery)
  | none => .ok []
  | some intent =>
    match intent.get? "retrieval_query_set" with
    | none => .ok []
    | some (.arr items) => do
      require (items.length ≤ 5) invalidRequirement
      items.mapM RetrievalQuery.ofJson
    | some _ => .error invalidRequirement

variable (rt : Runtime)

/-- `RequiredRetrieval("rq_" + sha256(query.encode()).hexdigest(), query)`. -/
def requirementFor (query : String) : RequiredRetrieval :=
  { requirementId := "rq_" ++ rt.sha256 (.str query), query }

def requiredRetrievals (intent : Option FrozenDict) : Except ReactError (List RequiredRetrieval) := do
  let items ← retrievalQuerySet intent
  return (((items.filter (·.required)).map fun item => stripText item.query).eraseDups).map
    (requirementFor rt)

/-- The queries of an intent that are not required. -/
def optionalQueries (intent : Option FrozenDict) : Except ReactError (List String) := do
  let items ← retrievalQuerySet intent
  return (items.filter fun item => !item.required).map (·.query)

/-! ## Progress -/

/-- `chunk.citation in refs`. -/
def EvidenceChunk.citedIn (chunk : EvidenceChunk) (refs : List String) : Bool :=
  chunk.citation.any fun citation => citation ∈ refs

/-- An accepted chunk whose source and citation are bound in the record and in the
truth. -/
def EvidenceChunk.bound (chunk : EvidenceChunk) (record : ObservationRecord)
    (truth : RetrievalObservationTruth) : Bool :=
  chunk.status = .accepted && chunk.source ∈ record.sourceRefs &&
    chunk.citedIn record.citationRefs && chunk.citedIn truth.citationRefs

/-- Such a chunk supports the query unless its source or its citation is blank. -/
def EvidenceChunk.supports (chunk : EvidenceChunk) (record : ObservationRecord)
    (truth : RetrievalObservationTruth) : Bool :=
  chunk.bound record truth && !isBlank chunk.source && chunk.citation.any fun c => !isBlank c

/-- What one retrieval observation says about its query. -/
structure RetrievalAttempt where
  query : String
  reference : String
  supported : Bool
  evidence : List EvidenceChunk

/-- The attempt that a record and its truth stand for; `none` when they are no
retrieval of a query. -/
def attemptOf (reference : String) (record : ObservationRecord) :
    ObservationTruthArtifact → Option RetrievalAttempt
  | .tool _ => none
  | .retrieval truth =>
    match truth.admissionMetadata.get? "query" with
    | some (.str query) =>
      if record.actionType ≠ .planRetrieval ∨ isBlank query = true then none
      else some
        { query := stripText query
          reference
          supported := truth.acceptedEvidence.any (·.supports record truth)
          evidence := truth.acceptedEvidence.filter (·.bound record truth) }
    | _ => none

/-- One pair of `zip(records, truths)`. -/
def retrievalAttempt (runId : String) (record : ObservationRecord)
    (truth : ObservationTruthArtifact) : Except ReactError (Option RetrievalAttempt) := do
  let binding ← requireBoundObservationTruth rt truth
  require (binding.runId = runId ∧ record.truthRef = binding.reference ∧
      record.observationId = truth.observationId ∧ record.actionId = truth.actionId)
    (runtimeError "Retrieval completion evidence identity is invalid."
      "Restart the run with its own immutable observation artifacts.")
  return attemptOf binding.reference record truth

/-- The queries that can supplement a business question. -/
def supplementQueries (question : String) (optional : List String) : List String :=
  optional.take 3 ++
    [takeText 150 question ++ " 实际报告期 各业务营运利润 新业务价值率 净息差 下降 亏损 减值"]

variable (knowledge : CoverageKnowledge)

/-- The parts of a business question that the evidence does not cover. -/
def missingCoverage (question : String) (evidence : List EvidenceChunk) : List String :=
  if isPerformanceComparison question then
    (knowledge.missingPerformanceCoverage question
        ("\n".intercalate (knowledge.answerFactRepairStatements evidence)) ++
      knowledge.assessmentGaps evidence).eraseDups
  else []

/-- The progress that a list of attempts amounts to. -/
def completionOf (requirements : List RequiredRetrieval) (attempts : List RetrievalAttempt)
    (question : String) (optional : List String) : RetrievalTaskCompletion :=
  let missing := missingCoverage knowledge question (attempts.flatMap (·.evidence))
  { requirements := requirements.map fun requirement =>
      { requirement
        attempted := attempts.any fun a => a.query = requirement.query
        supportingTruthRefs := ((attempts.filter fun a =>
          a.query = requirement.query && a.supported).map (·.reference)).eraseDups }
    missingAnswerRequirements := missing
    supplementary := if missing = [] then [] else
      (((supplementQueries question optional).eraseDups).filter fun q =>
        q ≠ "" && !attempts.any fun a => a.query = q).map (requirementFor rt) }

def assessRetrievalCompletion (runId : String) (requirements : List RequiredRetrieval)
    (records : List ObservationRecord) (truths : List ObservationTruthArtifact)
    (question : String) (optional : List String) : Except ReactError RetrievalTaskCompletion := do
  let attempts ← (records.zip truths).mapM fun p => retrievalAttempt rt runId p.1 p.2
  require (records.length = truths.length) (.value "zip() arguments have different lengths")
  return completionOf rt knowledge requirements (attempts.filterMap id) question optional

end ProofAgent
