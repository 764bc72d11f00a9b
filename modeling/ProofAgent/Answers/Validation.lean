import ProofAgent.Answers.Business

/-! # Validation of an answer's facts

Every statement of an answer is compared with what the cited records state, literally for typed
records; an answer without structured records must also be literal as a whole. -/
namespace ProofAgent.Answers

open Base Base.Regex
open TaskState (Text strip)

/-! ## What is cited -/

/-- The value of a field as an answer spells it. -/
def FieldValue.rendered : FieldValue → Text
  | null => "null".toList
  | bool b => (if b then "true" else "false").toList
  | int n => (toString n).toList
  | text s => s.toList

/-- What the cited records state, and the subjects and the literal values of the typed ones. -/
structure CitedSources where
  statements : List Text := []
  literalValues : List (Text × Text) := []
  typedSubjects : List Text := []

namespace CitedSources

/-- The subjects that a field of a record gives a value to; its bare name only where one typed
record is cited. -/
def subjects (typedCount : Nat) (r : StructuredEvidenceRecord) (f : StructuredEvidenceField) :
    List Text :=
  (r.recordId.toList ++ ' ' :: f.field.toList) ::
    if typedCount = 1 then [f.field.toList] else []

/-- `f"{rendered} {unit}"`. -/
def valueText (f : StructuredEvidenceField) : Text :=
  f.value.rendered ++ ' ' :: (orText f.unit "").toList

def ofField (typedCount : Nat) (r : StructuredEvidenceRecord) (f : StructuredEvidenceField) :
    CitedSources where
  statements := (subjects typedCount r f).map fun s => s ++ " is ".toList ++ valueText f
  literalValues :=
    if f.valueType = "decimal" ∨ f.valueType = "integer" then []
    else (subjects typedCount r f).map fun s => (s, strip (valueText f))
  typedSubjects := subjects typedCount r f

def append (a b : CitedSources) : CitedSources where
  statements := a.statements ++ b.statements
  literalValues := a.literalValues ++ b.literalValues
  typedSubjects := a.typedSubjects ++ b.typedSubjects

section
variable (lib : CharacterLibrary)

def ofRecord (typedCount : Nat) (r : AnswerRecord) : CitedSources :=
  match r.structured with
  | none =>
    { statements := Answers.statements lib r.content.toList true ++
        (tableSourceStatements lib r.content.toList).map (rstrip "。") }
  | some typed => (typed.fields.map (ofField typedCount typed)).foldr append {}

def ofRecords (cited : List AnswerRecord) : CitedSources :=
  (cited.map (ofRecord lib (cited.countP fun r => r.structured.isSome))).foldr append {}

end

/-- The subjects of the typed records, the longest ones first. -/
def knownSubjects (s : CitedSources) : List Text :=
  s.typedSubjects.dedup.insertionSort fun a b => b.length ≤ a.length

section
variable (lib : CharacterLibrary)

/-- The facts that are supported. -/
def supported (s : CitedSources) : List (Text × Text) :=
  s.statements.map fun statement => fact lib statement s.knownSubjects

/-- The values that a subject is given. -/
def valuesOf (s : CitedSources) (subject : Text) : List Text :=
  (((s.supported lib).filter fun f => f.1 = subject).map Prod.snd).dedup

end

/-- The values of a typed subject that are compared literally. -/
def literalValuesOf (s : CitedSources) (subject : Text) : List Text :=
  ((s.literalValues.filter fun p => p.1 = subject).map Prod.snd).dedup

end CitedSources

/-! ## Statements of the answer -/

/-- What is found of a statement. -/
inductive Verdict where
  | exempt
  | unassessed
  | supported
  | violation (code diagnosis : String)
  deriving DecidableEq

def Verdict.code? : Verdict → Option String
  | violation code _ => some code
  | _ => none

section
variable (lib : CharacterLibrary)

/-- The check of one statement. -/
def assess (sources : CitedSources) (statement : Text) : Verdict :=
  if statement = rstrip "。" scopeDisclosure then .exempt
  else
    let known := sources.knownSubjects
    let stated := fact lib statement known
    let numeric := occurs (digit lib) statement
    if !numeric && stated.1 = [] then .unassessed
    else
      let (subject, rawValue) := parts lib statement known
      let literal := sources.literalValuesOf subject
      if stated ∉ sources.supported lib ∨ ¬ (literal = [] ∨ rawValue ∈ literal) then
        .violation (if numeric then "unsupported_numeric_fact" else "unsupported_explicit_assertion")
          (if stated.1 ≠ [] ∧ sources.valuesOf lib stated.1 ≠ [] then "subject_matched_value_mismatch"
            else "no_exact_subject_match")
      else if stated.1 ≠ [] ∧ (1 < (sources.valuesOf lib stated.1).length ∨ 1 < literal.length) then
        .violation "conflicting_explicit_assertion" "conflicting_source_values"
      else .supported

end

/-- The result of `validate_answer_facts`. -/
structure FactCheck where
  codes : List String
  checked : Nat
  unassessed : Nat
  coverage : String
  diagnostics : List (Nat × String × String) := []
  deriving DecidableEq

def FactCheck.passed (c : FactCheck) : Bool := c.codes.isEmpty

/-- The result over the verdicts of the statements. -/
def FactCheck.ofVerdicts (verdicts : List Verdict) : FactCheck where
  codes := uniqueBy id (verdicts.filterMap (·.code?))
  checked := verdicts.countP fun v => v ≠ .exempt && v ≠ .unassessed
  unassessed := verdicts.countP (· = .unassessed)
  coverage := "bounded_consistency_only"
  diagnostics := (verdicts.zipIdx.filterMap fun
    | (.violation code diagnosis, i) => some (i, code, diagnosis)
    | _ => none).take 32

def FactCheck.inputLimit : FactCheck where
  codes := ["fact_check_input_limit"]
  checked := 0
  unassessed := 0
  coverage := "not_evaluated"

def FactCheck.notApplicable : FactCheck where
  codes := []
  checked := 0
  unassessed := 0
  coverage := "not_applicable"

variable (lib : AnswerLibrary)

/-- The message whose statements are checked: the body of a business answer, if it is one. -/
def assessedMessage (message : Text) (accepted : List EvidenceChunk) : Except EvidenceError Text := do
  if startsWith (.ofList (scopeDisclosure ++ "\n比较口径说明".toList)) message then
    let body ← verifiedBusinessBody lib message accepted
    return body.getD message
  else return message

/-- Whether the input is more than is checked. -/
def overInputLimit (message : Text) (evidence : List EvidenceChunk) : Bool :=
  maxAnswerChars < message.length || 128 < evidence.length ||
    maxEvidenceChars < (evidence.map fun e => e.content.length).sum

/-- `validate_answer_facts`. -/
def validateAnswerFacts (message : Text) (citations : List String) (evidence : List EvidenceChunk)
    (outcome : ReceiptOutcome) : Except EvidenceError FactCheck := do
  if outcome ≠ .answeredWithCitations then return .notApplicable
  else if overInputLimit message evidence then return .inputLimit
  else
    let accepted := acceptedEvidence evidence
    let records ← answerEvidenceRecords lib accepted
    let sources := CitedSources.ofRecords lib.toCharacterLibrary (citedRecords records citations)
    let message ← assessedMessage lib message accepted
    let answer := statements lib.toCharacterLibrary message false
    if maxStatements < sources.statements.length + answer.length then return .inputLimit
    else return .ofVerdicts (answer.map (assess lib.toCharacterLibrary sources))

/-! ## Literal answers -/

/-- `literal_key`. -/
def literalKey (lib : CharacterLibrary) (text : Text) : Text :=
  canonical lib (cjkSpacing (rstrip "。." (withoutPreface text)))

/-- The literal keys of the cited records. -/
def originalKeys (lib : CharacterLibrary) (records : List AnswerRecord) : List Text :=
  records.flatMap fun r =>
    (statements lib r.content.toList true ++ tableSourceStatements lib r.content.toList).map
      (literalKey lib)

/-- The result of a message that is no literal answer. -/
def FactCheck.quotesRequired : FactCheck where
  codes := ["analysis_quotes_required"]
  checked := 0
  unassessed := 0
  coverage := "literal_source_binding"

/-- `validate_source_bound_answer`. -/
def validateSourceBoundAnswer (message : Text) (citations : List String)
    (evidence : List EvidenceChunk) (outcome : ReceiptOutcome) : Except EvidenceError FactCheck := do
  let result ← validateAnswerFacts lib message citations evidence outcome
  if !result.passed ∨ outcome ≠ .answeredWithCitations then return result
  else
    let records ← answerEvidenceRecords lib evidence
    let records := citedRecords records citations
    if records.any (·.structured.isSome) ∧ result.unassessed = 0 then return result
    else
      let body ← verifiedBusinessBody lib message evidence
      if body.isSome then return result
      else if (statements lib.toCharacterLibrary message false).any fun s =>
          literalKey lib.toCharacterLibrary s ∉ originalKeys lib.toCharacterLibrary records then
        return .quotesRequired
      else return result

/-! ## Selected statements

A model repairs an answer by the ids of source statements. The ids are checked against the options
of the evidence, and the statements are rendered in the order of the options. -/

/-! ## The question -/

/-- `is_performance_comparison`. -/
def isPerformanceComparison (question : Text) : Bool :=
  occurs (words ["业绩", "经营表现", "业务表现"]) question &&
    occurs (words ["亮点", "较好", "比较好", "优势", "增长"]) question &&
    occurs (words ["较差", "比较差", "弱项", "不足", "压力", "劣势", "下滑"]) question

inductive RequirementKind where
  | highlights | strengths | pressures | question
  deriving DecidableEq

structure AnswerRequirement where
  requirementId : String
  sourceText : Text
  kind : RequirementKind
  deriving DecidableEq

/-- `ProofAgentError("PA_RUNTIME_001", ...)`. -/
inductive QuestionError where
  | tooLong
  deriving DecidableEq

def requirementKind (part : Text) : RequirementKind :=
  if occurs (words ["亮点", "优势"]) part then .highlights
  else if occurs (words ["较好", "比较好"]) part then .strengths
  else if occurs (words ["较差", "比较差", "弱项", "不足", "压力", "劣势", "下滑"]) part then .pressures
  else .question

/-- `answer_requirements`. -/
def answerRequirements (sha256 : String → String) (question : Text) :
    Except QuestionError (List AnswerRequirement) := do
  require (question.length ≤ 8192) QuestionError.tooLong
  let parts := (((plus (oneOf "，,。；;？?\n")).splitBy question).map strip).filter (· ≠ [])
  let parts := if 16 < parts.length then [question] else parts
  return (uniqueBy id parts).map fun part =>
    { requirementId := "ar_" ++ takeText 16 (sha256 (.ofList part))
      sourceText := part
      kind := requirementKind part }

/-! ## Rendering -/

/-- Why a selection is not rendered: the code of `SourceSelectionError`, or what the functions it
calls raise. -/
inductive SelectionError where
  | source (code : String)
  | evidence (e : EvidenceError)
  | question (e : QuestionError)
  deriving DecidableEq

/-- The number in the id of an option, `s0`, `s1`, .... -/
def optionNumber (options : List RepairOption) (id : String) : Option Nat :=
  (List.range options.length).find? fun i => id = "s" ++ toString i

/-- The requirements that a model says are without evidence. -/
def evidenceGap (lib : AnswerLibrary) (question : Text) (gaps : Json) : SelectionError :=
  match answerRequirements lib.sha256 question with
  | .error e => .question e
  | .ok allowed =>
    match Json.asList Json.asStr gaps with
    | none => .source "invalid_evidence_gap_requirement"
    | some ids =>
      if ¬ (1 ≤ ids.length ∧ ids.length ≤ 16) ∨
          (ids.any fun i => i ∉ allowed.map (·.requirementId)) ∨ ¬ ids.Nodup then
        .source "invalid_evidence_gap_requirement"
      else .source "answer_evidence_gap"

/-- The statements that a list of ids selects, by their numbers in order. -/
def selectedNumbers (options : List RepairOption) (ids : Json) :
    Except SelectionError (List Nat) := do
  let items ← orRaise (Json.asList some ids) (.source "source_selection_invalid_array")
  require (1 ≤ items.length ∧ items.length ≤ 16)
    (SelectionError.source "source_selection_count_out_of_range")
  let ids ← items.mapM fun j => orRaise j.asStr (.source "source_selection_invalid_id_type")
  let numbers ← ids.mapM fun id =>
    orRaise (optionNumber options id) (.source "source_selection_unknown_id")
  require ids.Nodup (SelectionError.source "source_selection_duplicate_id")
  return numbers.insertionSort (· ≤ ·)

/-- The content of a rendered answer. -/
structure RenderedSelection where
  message : Text
  citations : List String
  deriving DecidableEq

/-- The answer of the selected statements. -/
def renderNumbers (lib : AnswerLibrary) (evidence : List EvidenceChunk)
    (options : List RepairOption) (question : Text) (numbers : List Nat) :
    Except SelectionError RenderedSelection := do
  let selected := numbers.filterMap (options[·]?)
  let citations := uniqueBy id (selected.map (·.citation))
  if isPerformanceComparison question then
    match renderSelected lib.toCharacterLibrary evidence options numbers with
    | .ok message => return { message, citations }
    | .error _ => .error (.source "business_coverage_incomplete")
  else return { message := joinWith "\n" (selected.map (·.statement)), citations }

/-- `render_selection` of a response: the length of its content, and what `json.loads` gives of it,
if it gives anything. -/
def renderSelection (lib : AnswerLibrary) (contentLength : Nat) (payload : Option Json)
    (evidence : List EvidenceChunk) (question : Text) : Except SelectionError RenderedSelection := do
  require (contentLength ≤ 20000) (SelectionError.source "source_selection_output_too_large")
  let payload ← orRaise payload (.source "source_selection_invalid_json")
  match payload with
  | .obj [(key, value)] =>
    if key = "evidence_gap_requirement_ids" ∧ isPerformanceComparison question = true then
      .error (evidenceGap lib question value)
    else if key = "statement_ids" then
      match answerFactRepairOptions lib evidence with
      | .error e => .error (.evidence e)
      | .ok options =>
        let numbers ← selectedNumbers options value
        renderNumbers lib evidence options question numbers
    else .error (.source "source_selection_invalid_fields")
  | _ => .error (.source "source_selection_invalid_fields")

end ProofAgent.Answers
