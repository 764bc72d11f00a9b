import ProofAgent.Answers.Evidence
import ProofAgent.Answers.Text
import ProofAgent.Contracts.RunExecution
import ProofAgent.Control.GoalControl

/-! # Answer facts

A text is split into statements, and a statement is read as a subject and a value. Every fact of an
answer must be one of the cited sources, and a subject may have one value only. -/
namespace ProofAgent.Answers

open Base Base.Regex
open TaskState (Text strip isLetter)

def maxAnswerChars : Nat := 16000

def maxEvidenceChars : Nat := 1000000

def maxStatements : Nat := 2048

/-- `SCOPE_DISCLOSURE`. -/
def scopeDisclosure : Text := "资料范围说明：以下仅整理本次检索材料，未确认最新性或完整覆盖。".toList

section
variable (lib : CharacterLibrary)

/-! ## Statements -/

def bullet : Regex := oneOf "-*+"

/-- `^([ \t]*(?:[-*+]\s+)?❖\s+[^\n]*[\u4e00-\u9fff])\.{3,}\d+(?:\.\d+)+[ \t]*$`. -/
def dottedLeader : Regex :=
  concat [lineStart,
    .group (concat [star blank, opt (concat [bullet, plus space]), one '❖', plus space,
      star notNewline, .char isCjk]),
    .many (one '.') 3 none, plus (digit lib), plus (concat [one '.', plus (digit lib)]), star blank,
    lineEnd]

/-- `[^\W\d_]` after the place. -/
def beforeLetter : Regex :=
  .between fun _ after => after.any fun c => lib.isWord c && !lib.isDecimal c && c ≠ '_'

/-- `^[ \t]*(?:[-*+][ \t]+(?:❖[ \t]+)?|❖[ \t]+)(?=[^\W\d_])`. -/
def listMarker : Regex :=
  concat [lineStart, star blank,
    .alt (concat [bullet, plus blank, opt (concat [one '❖', plus blank])])
      (concat [one '❖', plus blank]),
    beforeLetter lib]

/-- `^[ \t]*\d+[.)][ \t]+`. -/
def orderedIndex : Regex :=
  concat [lineStart, star blank, plus (digit lib), oneOf ".)", plus blank]

/-- `[。；;\n]+|\.(?=\s|$)`. -/
def statementEnd : Regex :=
  .alt (plus (oneOf "。；;\n")) (.seq (one '.') (.between fun _ after => after.all isSpace))

/-- `_statements`. -/
def statements (text : Text) (source : Bool) : List Text :=
  let normalized := lib.nfc text
  let normalized := if source then (dottedLeader lib).subBy (fun m => m.group.getD []) normalized
    else normalized
  let normalized := replace (listMarker lib) "" normalized
  let normalized := replace (orderedIndex lib) "" normalized
  ((statementEnd.splitBy normalized).map strip).filter (· ≠ [])

/-! ## Facts -/

/-- ` +` between CJK characters, or between them and digits. -/
def cjkGap : Regex :=
  .alt (concat [.between fun before _ => before.any isCjk, plus (one ' '),
      .between fun _ after => after.any fun c => isCjk c || isAsciiDigit c])
    (concat [.between fun before _ => before.any fun c => isAsciiDigit c || c = '%', plus (one ' '),
      .between fun _ after => after.any isCjk])

/-- `_cjk_spacing`. -/
def cjkSpacing (text : Text) : Text := replace cjkGap "" text

/-- `^Based on the accepted evidence,\s*`. -/
def evidencePreface : Regex :=
  concat [textStart, anyCase "based on the accepted evidence,", star space]

def withoutPreface (text : Text) : Text := replace evidencePreface "" text

/-- `(?:\s+(?:is|are)\s+|\s*[:：=为是]\s*)(.+)`. -/
def assignment : Regex :=
  .seq (.alt (concat [plus space, .alt (anyCase "is") (anyCase "are"), plus space])
      (concat [star space, oneOf ":：=为是", star space]))
    (.group (plus notNewline))

/-- `^(?:若|如果|If\s+)[^,，]+[,，]\s*`. -/
def antecedent : Regex :=
  concat [anyOf [one '若', Regex.text "如果", .seq (anyCase "if") (plus space)],
    plus (.char fun c => c ≠ ',' && c ≠ '，'), oneOf ",，", star space]

/-- `_ASSERTION`. -/
def assertion : Regex :=
  .alt (concat [wordBoundary lib, .alt (anyCase "is") (anyCase "are"), wordBoundary lib])
    (oneOf ":：=")

/-- `_CHINESE_ASSERTION`. -/
def chineseAssertion : Regex :=
  .seq (.between fun before _ => before.any (· ≠ '\n')) (oneOf "为是")

/-- The assertion of a statement from a place on. -/
def assertionFrom (c : Cursor) : Option Match :=
  (((assertion lib).findFrom c).find? fun m => m.before ≠ []).or (chineseAssertion.findFrom c).head?

/-- `_parts`. -/
def parts (statement : Text) (knownSubjects : List Text := []) : Text × Text :=
  let statement := withoutPreface statement
  let known := knownSubjects.findSome? fun subject =>
    if subject.isPrefixOf statement then
      (assignment.fullMatch (statement.drop subject.length)).map fun c =>
        (subject, strip (c.group.getD []))
    else none
  known.getD <|
    let conditional := antecedent.matchStart statement
    let found := (assertionFrom lib (conditional.getD (.start statement))).or
      (conditional.bind fun _ => assertionFrom lib (.start statement))
    match found with
    | some m => (strip m.before, strip m.after)
    | none => ([], strip statement)

/-- `_NUMBER`. -/
def number : Regex :=
  concat [.between fun before _ => !before.any fun c => lib.isWord c || ".+-".toList.contains c,
    opt (oneOf "+-"),
    .alt (.seq (.many (digit lib) 1 (some 3)) (plus (.seq (one ',') (.many (digit lib) 3 (some 3)))))
      (plus (digit lib)),
    opt (.seq (one '.') (plus (digit lib))),
    .between fun _ after => !after.any fun c => lib.isWord c || c = '.']

/-- `str(Decimal)` of digits. -/
def plainDigit (c : Char) : Char := .ofNat (48 + lib.decimalValue c)

/-- `decimal_text` of a match. -/
def decimalText (number : Text) : Text :=
  let digits := number.dropWhile fun c => c = '+' || c = '-'
  match digits with
  | '0' :: c :: _ => if lib.isDecimal c then number else canonicalDecimal number digits
  | _ => canonicalDecimal number digits
where
  /-- The number without a plus sign, without zeros that do not count, and a zero without its sign. -/
  canonicalDecimal (number digits : Text) : Text :=
    let plain := (digits.filter (· ≠ ',')).map fun c => if c = '.' then c else plainDigit lib c
    let whole := (plain.takeWhile (· ≠ '.')).dropWhile (· = '0')
    let fraction := ((plain.dropWhile (· ≠ '.')).drop 1).rdropWhile (· = '0')
    if whole = [] ∧ fraction = [] then ['0']
    else (if number.head? = some '-' then ['-'] else []) ++ (if whole = [] then ['0'] else whole) ++
      if fraction = [] then [] else '.' :: fraction

/-- `_canonical`. -/
def canonical (text : Text) : Text :=
  let text := replace (concat [wordBoundary lib,
    anyOf [Regex.text "CNY", Regex.text "RMB", Regex.text "yuan"], wordBoundary lib]) " yuan "
    (strip text)
  collapse ((number lib).subBy (fun m => decimalText lib m.text) text)

/-- `_fact`. -/
def fact (statement : Text) (knownSubjects : List Text := []) : Text × Text :=
  let (subject, value) := parts lib statement knownSubjects
  let (subject, value) :=
    if knownSubjects = [] then (cjkSpacing subject, cjkSpacing value) else (subject, value)
  (subject, if subject ≠ [] then canonical lib value else value)

/-! ## Repair options -/

structure RepairOption where
  statement : Text
  citation : String
  deriving DecidableEq

/-- Whether a statement is no sentence to select. -/
def notSelectable (statement : Text) : Bool :=
  (["#", "|", "![", "<"] : List String).any (startsWith · statement) ||
    endsWith ":" statement || endsWith "：" statement || hasPart "<" statement ||
    hasPart "**" statement ||
    ((concat [oneOf "（(", plus (digit lib), oneOf "）)"] : Regex).matchStart statement).isSome

/-- A statement with its punctuation restored. -/
def punctuated (statement : Text) : Text :=
  if (["?", "!", "？", "！", "。"] : List String).any (endsWith · statement) then statement
  else statement ++ if statement.any isCjk then ['。'] else ['.']

/-- The loop of `answer_fact_repair_options` over the statements, with their citations. -/
def selectOptions : (seen : List (Text × String)) → (options : List RepairOption) →
    (totalChars : Nat) → List (Text × String) → List RepairOption
  | _, options, _, [] => options
  | seen, options, totalChars, (statement, citation) :: rest =>
    if notSelectable lib statement ∨ (statement, citation) ∈ seen then
      selectOptions seen options totalChars rest
    else if 128 ≤ options.length ∨
        maxAnswerChars < totalChars + (punctuated statement).length then options
    else selectOptions ((statement, citation) :: seen)
      (options ++ [⟨punctuated statement, citation⟩])
      (totalChars + (punctuated statement).length) rest

/-- The statements of a record, those of its tables first. -/
def recordStatements (r : AnswerRecord) : List Text :=
  tableSourceStatements lib r.content.toList ++ statements lib r.content.toList true

/-- `record["citation"] or record["source"]`. -/
def recordCitation (r : AnswerRecord) : String := orText r.citation r.source

end

/-- `answer_fact_repair_options`. -/
def answerFactRepairOptions (lib : AnswerLibrary) (evidence : List EvidenceChunk) :
    Except EvidenceError (List RepairOption) := do
  let records ← answerEvidenceRecords lib evidence
  return selectOptions lib.toCharacterLibrary [] [] 0 <|
    (records.filter fun r => r.structured = none).flatMap fun r =>
      (recordStatements lib.toCharacterLibrary r).map fun s => (s, recordCitation r)

end ProofAgent.Answers
