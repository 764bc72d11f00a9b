import ProofAgent.Base.Regex
import ProofAgent.Contracts.ControlledReact
import ProofAgent.TaskState.Statements

/-! # The texts of answers and evidence

Character classes, the methods of `str` that the validators call, and the patterns they share. -/
namespace ProofAgent.Answers

open Base Base.Regex
open TaskState (Text strip isLetter)

scoped instance : LawfulBEq Text := inferInstanceAs (LawfulBEq (List Char))

/-- What the validators take from `unicodedata` and from the character classes of `re`. -/
structure CharacterLibrary where
  /-- `normalize("NFC", text)`. -/
  nfc : Text → Text
  /-- `\w`. -/
  isWord : Char → Bool
  /-- `\d`. -/
  isDecimal : Char → Bool
  decimalValue : Char → Nat
  nfc_newline : ∀ a b, nfc (a ++ '\n' :: b) = nfc a ++ '\n' :: nfc b
  word_newline : isWord '\n' = false
  decimal_newline : isDecimal '\n' = false

/-- `[\u4e00-\u9fff]`. -/
def isCjk (c : Char) : Bool := 0x4e00 ≤ c.toNat && c.toNat ≤ 0x9fff

/-- `[0-9]`. -/
def isAsciiDigit (c : Char) : Bool := '0' ≤ c && c ≤ '9'

def isBlankChar (c : Char) : Bool := c = ' ' || c = '\t'

/-! ## Methods of `str` -/

def startsWith (part : String) (text : Text) : Bool := part.toList.isPrefixOf text

def endsWith (part : String) (text : Text) : Bool := part.toList.isSuffixOf text

/-- `part in text`. -/
def hasPart (part : String) (text : Text) : Bool := text.tails.any fun t => startsWith part t

/-- `separator.join(parts)`. -/
def joinWith (separator : String) (parts : List Text) : Text := separator.toList.intercalate parts

/-- `text.rstrip(chars)`. -/
def rstrip (chars : String) (text : Text) : Text := text.rdropWhile fun c => chars.toList.contains c

/-- `text.strip(chars)`. -/
def stripChars (chars : String) (text : Text) : Text :=
  rstrip chars (text.dropWhile fun c => chars.toList.contains c)

/-- `" ".join(text.split())`. -/
def collapse (text : Text) : Text := (collapseSpace (.ofList text)).toList

def isLineBreak (c : Char) : Bool :=
  let n := c.toNat
  (10 ≤ n && n ≤ 13) || (28 ≤ n && n ≤ 30) || n = 0x85 || n = 0x2028 || n = 0x2029

/-- The lines of a text, of which a newline right after a carriage return ends none. -/
def splitLinesFrom : (afterReturn : Bool) → Text → List Text
  | _, [] => []
  | afterReturn, c :: rest =>
    if afterReturn && c = '\n' then splitLinesFrom false rest
    else if isLineBreak c then [] :: splitLinesFrom (c = '\r') rest
    else consHead c (splitLinesFrom false rest)

/-- `text.splitlines()`. -/
def splitLines (text : Text) : List Text := splitLinesFrom false text

/-! ## Patterns -/

/-- `^` with `re.M`. -/
def lineStart : Regex := .between fun before _ => before.all (· = '\n')

/-- `$` with `re.M`. -/
def lineEnd : Regex := .between fun _ after => after.all (· = '\n')

/-- `^` without `re.M`. -/
def textStart : Regex := .between fun before _ => before.isNone

def space : Regex := .char isSpace

def blank : Regex := .char isBlankChar

def notNewline : Regex := .char (· ≠ '\n')

def oneOf (chars : String) : Regex := .char fun c => chars.toList.contains c

/-- A word with `re.IGNORECASE`. -/
def anyCase (word : String) : Regex := concat (word.toList.map fun letter => .char (isLetter letter))

section
variable (lib : CharacterLibrary)

def digit : Regex := .char lib.isDecimal

/-- `\b`. -/
def wordBoundary : Regex :=
  .between fun before after => before.any lib.isWord != after.any lib.isWord

end

/-- Whether a pattern without groups occurs in a text. -/
def occurs (r : Regex) (text : Text) : Bool := (r.search text).isSome

/-- `re.sub(r, replacement, text)`. -/
def replace (r : Regex) (replacement : String) (text : Text) : Text :=
  r.subBy (fun _ => replacement.toList) text

example : splitLines "a\r\nb\n\nc".toList = ["a".toList, "b".toList, [], "c".toList] := by
  decide +kernel

/-! ## Source tables

Each row of a Markdown table under a heading becomes one statement that names its columns. A row
refers to notes by number; a note travels with the row. -/

section
variable (lib : CharacterLibrary)

/-! ## Cells -/

/-- `<br\s*/?>`. -/
def lineBreakTag : Regex := concat [anyCase "<br", star space, opt (one '/'), one '>']

/-- `<sup>\s*\((\d+)\)\s*</sup>`. -/
def noteTag : Regex :=
  concat [anyCase "<sup>", star space, one '(', .group (plus (digit lib)), one ')', star space,
    anyCase "</sup>"]

/-- `_cell`. -/
def cell (value : Text) : Option Text :=
  let value := replace lineBreakTag " " value
  let value := (noteTag lib).subBy
    (fun m => "(注".toList ++ m.group.getD [] ++ ")".toList) value
  let value := strip (replace (Regex.text "**") "" value)
  if value.any (fun c => "<>|\n。；;".toList.contains c) ∨ 400 < value.length then none else some value

/-! ## Rows -/

/-- `仅限|如果|(?:^|[，。])若|除非|不适用|适用条件`. -/
def conditionWords : Regex :=
  anyOf [Regex.text "仅限", Regex.text "如果", .seq (.alt textStart (oneOf "，。")) (one '若'),
    Regex.text "除非", Regex.text "不适用", Regex.text "适用条件"]

/-- `\s*:?-{3,}:?\s*`. -/
def separatorCell : Regex :=
  concat [star space, opt (one ':'), .many (one '-') 3 none, opt (one ':'), star space]

/-- `\(注(\d+)\)`. -/
def noteReference : Regex :=
  concat [Regex.text "(注", .group (plus (digit lib)), one ')']

/-- `\s*注\s*[:：]\s*\(ref\)`. -/
def noteLine (ref : Text) : Regex :=
  concat [star space, one '注', star space, oneOf ":：", star space, one '(',
    Regex.text (.ofList ref), one ')']

/-- The columns of a line of a table. -/
def columns (line : Text) : List Text := (stripChars "|" (strip line)).splitOn '|'

/-- The note that a row refers to, if one line is that note. -/
def noteOf (lines : List Text) (ref : Text) : Option Text :=
  match ((lines.filter fun line => ((noteLine ref).matchStart line).isSome).map strip).dedup with
  | [note] => (cell lib (rstrip "。" note)).filter (· ≠ [])
  | _ => none

/-- The references to notes, each once and in order. -/
def noteReferences (bound : Text) : List Text :=
  ((((noteReference lib).findAll bound).filterMap (·.group)).dedup.map String.ofList).insertionSort
    (· ≤ ·) |>.map String.toList

/-- The statement of a row; `none` where the row has none. -/
def rowStatement (lines : List Text) (heading period : Text) (headers : List Text) (line : Text) :
    Option Text := do
  let cells ← (columns line).mapM (cell lib)
  if cells.length ≠ headers.length ∨ cells.any List.isEmpty then none else
  match headers, cells with
  | header :: headers, first :: cells =>
    let bound := heading ++ "（".toList ++ (if period = [] then [] else period ++ "，".toList) ++ header ++
      "）".toList ++ first ++ "，".toList ++
      joinWith "，" ((headers.zip cells).map fun (h, c) => h ++ "：".toList ++ c)
    let notes ← (noteReferences lib bound).mapM (noteOf lib lines)
    return bound ++ (if notes = [] then [] else "，".toList ++ joinWith "，" notes) ++ "。".toList
  | _, _ => none

/-- The headers of a table that starts with these two lines. -/
def tableHeaders (heading line next : Text) : Option (List Text) :=
  match (columns line).mapM (cell lib) with
  | none => none
  | some headers =>
    let separators := columns next
    if heading = [] ∨ ¬ (2 ≤ headers.length ∧ headers.length ≤ 12) ∨ headers.any List.isEmpty ∨
        separators.length ≠ headers.length ∨
        (separators.any fun s => (separatorCell.fullMatch s).isNone) ∨ ¬ headers.Nodup then none
    else some headers

/-- The heading and the period after a line. -/
def nextHeading (heading period line : Text) : Text × Text :=
  if startsWith "#" line then
    ((cell lib (line.dropWhile fun c => c = '#' || c = ' ')).getD [], [])
  else if startsWith "截至" line ∧ line.length < 100 ∧ hasPart "期间" line then
    (heading, (cell lib line).getD [])
  else (heading, period)

/-- The statements of the lines from one on: within a table its rows, else up to the next table. -/
def tableStatements (lines : List Text) :
    (table : Option (List Text)) → (heading period : Text) → List Text → List Text
  | _, _, _, [] => []
  | some headers, heading, period, [line] =>
    if startsWith "|" (strip line) then
      (rowStatement lib lines heading period headers line).toList
    else []
  | none, _, _, [_] => []
  | table, heading, period, line :: next :: rest =>
    match table.filter fun _ => startsWith "|" (strip line) with
    | some headers =>
      (rowStatement lib lines heading period headers line).toList ++
        tableStatements lines (some headers) heading period (next :: rest)
    | none =>
      let (heading, period) := nextHeading lib heading period (strip line)
      match if startsWith "|" (strip line) then tableHeaders lib heading line next else none with
      | some headers => tableStatements lines (some headers) heading period rest
      | none => tableStatements lines none heading period (next :: rest)

/-- `table_source_statements`. -/
def tableSourceStatements (content : Text) : List Text :=
  if 100000 < content.length ∨ occurs conditionWords content then []
  else
    let lines := splitLines content
    (tableStatements lib lines none [] [] lines).take 128

end

end ProofAgent.Answers
