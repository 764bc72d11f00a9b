import ProofAgent.Answers.Validation
import ProofAgent.Base.NumberChars

/-! # Quoted answers

An answer that is no source text quotes the chunks it rests on, and says of every requirement of
the question whether it is covered. Its quotes are rendered as literal blocks. -/
namespace ProofAgent.Answers

open Base Base.Regex
open TaskState (Text strip)

/-! ## Output -/

def maxQuotes : Nat := 16

def maxQuoteChars : Nat := 6000

def maxOutputChars : Nat := 32000

def coverageStatuses : List String := ["answered", "needs_evidence", "needs_user_input"]

structure Quote where
  claim : Text
  text : Text
  citation : String
  deriving DecidableEq

structure CoverageRow where
  requirementId : String
  status : String
  deriving DecidableEq

/-- Whether an object has just these keys. -/
def hasKeys (keys : List String) : Json → Bool
  | .obj fields => (fields.map Prod.fst).isPerm keys
  | _ => false

/-- A field that is a text with more than white space. -/
def readNonblank (key : String) (item : Json) : Option String :=
  (item.readField Json.asStr key).filter fun value => strip value.toList ≠ []

def readQuote (item : Json) : Option Quote :=
  if hasKeys ["claim", "text", "citation"] item then do
    let claim ← readNonblank "claim" item
    let text ← readNonblank "text" item
    let citation ← readNonblank "citation" item
    return { claim := claim.toList, text := text.toList, citation }
  else none

def readCoverageRow (row : Json) : Option CoverageRow :=
  if hasKeys ["requirement_id", "status"] row then do
    let requirementId ← row.readField Json.asStr "requirement_id"
    let status ← (row.readField Json.asStr "status").filter fun s => s ∈ coverageStatuses
    return { requirementId, status }
  else none

/-- The message and the citations of an output. -/
def readMessage (output : Json) : Option (Text × List String) := do
  let message ← (readNonblank "message" output).filter fun m => m.toList.length ≤ 16000
  let citations ← output.readField (Json.asList Json.asStr) "citations"
  return (message.toList, citations)

/-- The quotes of an output, which are as many as an answer may have. -/
def quoteItems (output : Json) : Option (List Json) :=
  (output.readField (Json.asList some) "quotes").filter fun items =>
    1 ≤ items.length ∧ items.length ≤ maxQuotes

/-! ## Validation -/

/-- What the functions that are called raise. -/
inductive QuotedAnswerError where
  | evidence (e : EvidenceError)
  | question (e : QuestionError)
  deriving DecidableEq

/-- The result of `_result`. -/
structure QuoteCheck where
  codes : List String
  checked : Nat
  verificationKind : String := "quote_binding_only"
  deriving DecidableEq

def QuoteCheck.ofErrors (errors : List String) (count : Nat) : QuoteCheck where
  codes := uniqueBy id errors
  checked := count

def QuoteCheck.passed (c : QuoteCheck) : Bool := c.codes.isEmpty

/-- The texts of the accepted chunks with a citation. -/
def quoteSources (evidence : List EvidenceChunk) (citation : String) : List Text :=
  ((acceptedEvidence evidence).filter fun e => e.citation = some citation ∧ citation ≠ "").map
    fun e => collapse e.content.toList

section
variable (lib : AnswerLibrary) (citations : List String) (evidence : List EvidenceChunk)

/-- The errors of a quote. -/
def quoteErrors (q : Quote) : Except EvidenceError (List String) := do
  let sized := if maxQuoteChars < q.text.length ∨ 4000 < q.claim.length then ["quote_size_limit"]
    else []
  if q.citation ∉ citations ∨ quoteSources evidence q.citation = [] then
    return sized ++ ["unsupported_quote_citation"]
  else if ¬ ∃ source ∈ quoteSources evidence q.citation, collapse q.text <:+: source then
    return sized ++ ["quote_not_in_source"]
  else
    let check ← validateAnswerFacts lib q.text [q.citation] evidence .answeredWithCitations
    return sized ++ if "conflicting_explicit_assertion" ∈ check.codes then
      ["conflicting_explicit_assertion"] else []

def itemErrors (item : Json) : Except EvidenceError (List String) :=
  match readQuote item with
  | none => .ok ["invalid_quote"]
  | some q => quoteErrors lib citations evidence q

/-- The errors of the citations of an answer and its quotes. -/
def citationErrors (quotes : List Quote) : List String :=
  if (∃ q ∈ quotes, q.citation ∉ citations) ∨ (∃ c ∈ citations, quoteSources evidence c = []) ∨
      ¬ citations.Nodup then
    ["citation_quote_mismatch"]
  else []

end

/-- The errors of the coverage of the expected requirements. -/
def coverageErrors (expected : List String) (coverage : Option (List Json)) : List String :=
  match coverage with
  | none => ["missing_requirement_coverage"]
  | some rows =>
    if rows.length ≠ expected.dedup.length then ["missing_requirement_coverage"]
    else
      let ids := (rows.filterMap readCoverageRow).map (·.requirementId)
      ((rows.filter fun row => (readCoverageRow row).isNone).map
        fun _ => "invalid_requirement_coverage") ++
        if ¬ (ids ⊆ expected ∧ expected ⊆ ids) ∨ ¬ ids.Nodup then ["invalid_requirement_coverage"]
        else []

def totalChars (message : Text) (quotes : List Quote) : Nat :=
  message.length + (quotes.map fun q => q.text.length + q.claim.length).sum

/-- `validate_quoted_answer`. -/
def validateQuotedAnswer (lib : AnswerLibrary) (output : Json) (evidence : List EvidenceChunk)
    (question : Text) : Except QuotedAnswerError QuoteCheck :=
  match readMessage output, quoteItems output with
  | none, _ => .ok (.ofErrors ["invalid_quoted_answer"] 0)
  | some _, none => .ok (.ofErrors ["invalid_quote_count"] 0)
  | some (message, citations), some items =>
    match items.mapM (itemErrors lib citations evidence),
        answerRequirements lib.sha256 question with
    | .error e, _ => .error (.evidence e)
    | .ok _, .error e => .error (.question e)
    | .ok errors, .ok requirements =>
      let quotes := items.filterMap readQuote
      .ok <| .ofErrors
        (errors.flatten ++ citationErrors citations evidence quotes ++
          (if maxOutputChars < totalChars message quotes then ["quoted_answer_size_limit"] else []) ++
          coverageErrors (requirements.map (·.requirementId))
            (output.readField (Json.asList some) "coverage"))
        items.length

/-! ## Rendering -/

/-- `message.find(part)`. -/
def findText (part text : Text) : Option Nat :=
  text.tails.findIdx? fun suffix => part.isPrefixOf suffix

/-- Where the markers of the quotes stand, with their numbers. -/
def anchors (message : Text) (quotes : List Quote) : List (Nat × Nat) :=
  (quotes.zipIdx 1).filterMap fun p =>
    (findText p.1.claim message).map fun position => (position + p.1.claim.length, p.2)

def anchorMarker (numbers : List Nat) : Text :=
  "〔原文 ".toList ++ joinWith "、" (numbers.map (Nat.toDigits 10)) ++ "〕".toList

/-- The message with its markers, put in from the last one on. -/
def anchoredMessage (message : Text) (quotes : List Quote) : Text :=
  let positions := ((anchors message quotes).map Prod.fst).dedup.insertionSort (· ≥ ·)
  positions.foldl (fun text position =>
    text.take position ++ anchorMarker (((anchors message quotes).filter
      fun a => a.1 = position).map Prod.snd) ++ text.drop position) message

def backtick : Char := .ofNat 0x60

/-- `max((len(s) for s in re.findall(ticks, text)), default=0)`, the pattern being that of a run of
backticks. -/
def longestTicks (text : Text) : Nat :=
  (((plus (one backtick)).findAll text).map fun m => m.text.length).foldr max 0

/-- The length of the fences of a text. -/
def fenceLength (text : Text) : Nat := max 3 (1 + longestTicks text)

/-- A text between its fences. -/
def literalBlock (text : Text) : Text :=
  let fence := List.replicate (fenceLength text) backtick
  fence ++ "text\n".toList ++ text ++ '\n' :: fence

/-- The parts of a quote: its number, its claim and its text. -/
def quoteParts (q : Quote) (number : Nat) : List Text :=
  ["\n原文 ".toList ++ Nat.toDigits 10 number ++ "：".toList,
    "对应结论：\n\n".toList ++ literalBlock q.claim, literalBlock q.text]

/-- `render_quoted_answer`. -/
def renderQuotedAnswer (message : Text) (quotes : List Quote) : Text :=
  joinWith "\n\n" ([strip (anchoredMessage message quotes), "\n**引用原文**".toList] ++
    (quotes.zipIdx 1).flatMap fun p => quoteParts p.1 p.2)

end ProofAgent.Answers
