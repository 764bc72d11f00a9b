import ProofAgent.Answers.Text
import ProofAgent.Base.Outcome
import ProofAgent.Contracts.ControlledReact

/-! # The evidence of an answer

Accepted chunks are validated once more and taken once each, whatever their scores and the time
they were observed at; each gives one record. -/
namespace ProofAgent.Answers

open Base
open TaskState (Text)

/-- What the validators of answers take from elsewhere. -/
structure AnswerLibrary extends CharacterLibrary where
  /-- Whether `EvidenceChunk.model_validate` of the chunk's dump returns. -/
  validates : EvidenceChunk → Bool
  /-- `sha256(text.encode()).hexdigest()`. -/
  sha256 : String → String

/-- `ProofAgentError("PA_KNOWLEDGE_002", ...)`. -/
inductive EvidenceError where
  | integrityCheckFailed
  deriving DecidableEq

/-! ## Structured records -/

inductive FieldValue where
  | null
  | bool (value : Bool)
  | int (value : Int)
  | text (value : String)
  deriving DecidableEq

structure StructuredEvidenceField where
  field : String
  valueType : String
  value : FieldValue
  unit : Option String := none
  field_ne : field ≠ ""
  deriving DecidableEq

structure StructuredEvidenceRecord where
  recordId : String
  fields : List StructuredEvidenceField
  deriving DecidableEq

/-- The value of a field in a dump. -/
def readValue : Json → Option FieldValue
  | .null => some .null
  | .bool b => some (.bool b)
  | .int n => some (.int n)
  | .str s => some (.text s)
  | _ => none

def readStructuredField (j : Json) : Option StructuredEvidenceField := do
  let field ← j.readField Json.asStr "field"
  let valueType ← j.readField Json.asStr "value_type"
  let value ← j.readField readValue "value"
  let unit ← j.readField (Json.asOption Json.asStr) "unit"
  if h : field ≠ "" then some { field, valueType, value, unit, field_ne := h } else none

def readStructuredRecord (j : Json) : Option StructuredEvidenceRecord := do
  let recordId ← j.readField Json.asStr "record_id"
  let fields ← j.readField (Json.asList readStructuredField) "fields"
  return { recordId, fields }

/-- `chunk.structured_data`. -/
def structuredData (chunk : EvidenceChunk) : Option StructuredEvidenceRecord :=
  (chunk.details.get? "structured_data").bind readStructuredRecord

/-! ## Records -/

/-- What two chunks that are taken for one have in common. -/
structure EvidenceIdentity where
  source : String
  content : String
  citation : Option String
  details : FrozenDict
  deriving DecidableEq

/-- The remaining fields without the scores and the time of the observation. -/
def identityDetails (details : FrozenDict) : FrozenDict :=
  .ofFields <| (details.fields.filter fun p =>
    p.1 ∉ ["provider_native_score", "fusion_rank", "admission_score"]).map fun p =>
      match p.1, p.2 with
      | "metadata", .obj fields => ("metadata", .obj (fields.filter fun q => q.1 ≠ "observed_at"))
      | _, _ => p

def evidenceIdentity (chunk : EvidenceChunk) : EvidenceIdentity where
  source := chunk.source
  content := chunk.content
  citation := chunk.citation
  details := identityDetails chunk.details

/-- The first item of each key. -/
def uniqueBy {α κ : Type} [DecidableEq κ] (key : α → κ) : List α → List α
  | [] => []
  | a :: rest => a :: (uniqueBy key rest).filter fun b => key b ≠ key a

/-- `unique_answer_evidence`. -/
def uniqueAnswerEvidence (lib : AnswerLibrary) (evidence : List EvidenceChunk) :
    Except EvidenceError (List EvidenceChunk) := do
  require ((acceptedEvidence evidence).all lib.validates = true) EvidenceError.integrityCheckFailed
  return uniqueBy evidenceIdentity (acceptedEvidence evidence)

structure AnswerRecord where
  source : String
  citation : Option String
  content : String
  structured : Option StructuredEvidenceRecord := none
  deriving DecidableEq

def answerRecord (chunk : EvidenceChunk) : AnswerRecord where
  source := chunk.source
  citation := chunk.citation
  content := chunk.content
  structured := structuredData chunk

/-- `answer_evidence_records`. -/
def answerEvidenceRecords (lib : AnswerLibrary) (evidence : List EvidenceChunk) :
    Except EvidenceError (List AnswerRecord) := do
  let unique ← uniqueAnswerEvidence lib evidence
  return unique.map answerRecord

/-- Whether the citation or the source of a record is among the citations. -/
def AnswerRecord.cited (r : AnswerRecord) (citations : List String) : Bool :=
  r.citation.any citations.contains || citations.contains r.source

/-- The records of what is cited. -/
def citedRecords (records : List AnswerRecord) (citations : List String) : List AnswerRecord :=
  records.filter fun r => r.cited citations

/-! ## One chunk each -/

section
variable {α κ : Type} [DecidableEq κ] {key : α → κ}

theorem mem_of_mem_uniqueBy {a : α} : ∀ {items : List α}, a ∈ uniqueBy key items → a ∈ items
  | [], h => h
  | b :: rest, h => by
    rcases List.mem_cons.mp h with rfl | h
    · exact List.mem_cons_self ..
    · exact List.mem_cons_of_mem _ (mem_of_mem_uniqueBy (List.mem_filter.mp h).1)

/-- Every item is there by its key. -/
theorem exists_mem_uniqueBy (key : α → κ) {a : α} : ∀ {items : List α}, a ∈ items →
    ∃ b ∈ uniqueBy key items, key b = key a
  | b :: rest, h => by
    by_cases hkey : key a = key b
    · exact ⟨b, List.mem_cons_self .., hkey.symm⟩
    · rcases List.mem_cons.mp h with rfl | h
      · exact absurd rfl hkey
      · obtain ⟨c, hc, hsame⟩ := exists_mem_uniqueBy key h
        refine ⟨c, List.mem_cons_of_mem _ (List.mem_filter.mpr ⟨hc, ?_⟩), hsame⟩
        rw [hsame]
        exact decide_eq_true hkey

/-- Selecting by the key before or after makes no difference. -/
theorem uniqueBy_filter {p : α → Bool} (hp : ∀ a b, key a = key b → p a = p b) :
    ∀ items : List α, uniqueBy key (items.filter p) = (uniqueBy key items).filter p
  | [] => rfl
  | a :: rest => by
    have ih := uniqueBy_filter hp rest
    by_cases ha : p a = true
    · rw [List.filter_cons_of_pos ha]
      show a :: _ = ((a :: _).filter p : List α)
      rw [List.filter_cons_of_pos ha, ih, List.filter_filter, List.filter_filter]
      exact congrArg (a :: ·) (List.filter_congr fun b _ => Bool.and_comm ..)
    · rw [List.filter_cons_of_neg ha, ih]
      show _ = ((a :: _).filter p : List α)
      rw [List.filter_cons_of_neg ha, List.filter_filter]
      refine List.filter_congr fun b _ => ?_
      cases hb : p b with
      | false => rfl
      | true =>
        have hkey : key b ≠ key a := fun h => ha (hp b a h ▸ hb)
        rw [decide_eq_true hkey]
        rfl

end

theorem answerEvidenceRecords_ok {lib : AnswerLibrary} {evidence : List EvidenceChunk}
    {records : List AnswerRecord} (h : answerEvidenceRecords lib evidence = .ok records) :
    (acceptedEvidence evidence).all lib.validates = true ∧
      records = (uniqueBy evidenceIdentity (acceptedEvidence evidence)).map answerRecord := by
  obtain ⟨unique, hunique, h⟩ := bind_ok h
  obtain ⟨_, hvalid, hunique⟩ := bind_ok hunique
  exact ⟨require_ok hvalid, by rw [← pure_ok h, ← pure_ok hunique]⟩

theorem answerEvidenceRecords_eq {lib : AnswerLibrary} {evidence : List EvidenceChunk}
    (h : (acceptedEvidence evidence).all lib.validates = true) :
    answerEvidenceRecords lib evidence =
      .ok ((uniqueBy evidenceIdentity (acceptedEvidence evidence)).map answerRecord) := by
  unfold answerEvidenceRecords uniqueAnswerEvidence
  rw [require_true _ h]
  rfl

namespace Sample

/-- The character classes on ASCII and CJK, where NFC changes nothing. -/
def answerLibrary : AnswerLibrary where
  nfc := id
  isWord c := c.isAlphanum || c = '_' || isCjk c
  isDecimal := Char.isDigit
  decimalValue c := c.toNat - '0'.toNat
  nfc_newline _ _ := rfl
  word_newline := rfl
  decimal_newline := rfl
  validates _ := true
  sha256 := id

/-- An accepted chunk of a guide. -/
def guide (content : String) : EvidenceChunk where
  source := "knowledge://guide"
  content := content
  status := .accepted
  citation := some "knowledge://guide#page=1"

end Sample

end ProofAgent.Answers
