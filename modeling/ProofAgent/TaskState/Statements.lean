import Mathlib.Data.List.DropRight
import ProofAgent.Contracts.ControlledReact

/-! # The statements of a user turn

A question is split into statements, and each statement is read as a revision, an
explicit goal or constraint, a budget, a prohibition or none of these, in this order. -/
namespace ProofAgent.TaskState

abbrev Text := List Char

/-- The marks that end a statement. -/
def isMark (c : Char) : Bool :=
  c = '.' || c = '!' || c = '?' || c = '。' || c = '！' || c = '？' || c = ';' || c = '；'

/-- A letter, a digit or an underscore of ASCII. -/
def isAsciiWord (c : Char) : Bool := c.isAlphanum || c = '_'

def isHexDigit (c : Char) : Bool := ('0' ≤ c && c ≤ '9') || ('a' ≤ c && c ≤ 'f')

/-- The character classes of `re`, and the digest of a text. -/
structure TextLibrary where
  /-- `\w`. -/
  isWord : Char → Bool
  /-- `\d`. -/
  isDigit : Char → Bool
  /-- `sha256(value.encode()).hexdigest()`. -/
  sha256 : String → String
  ascii_word : ∀ c, isAsciiWord c = true → isWord c = true
  digit_word : ∀ c, isDigit c = true → isWord c = true
  word_not_space : ∀ c, isWord c = true → isSpace c = false
  word_not_mark : ∀ c, isWord c = true → isMark c = false
  bracket_not_word : isWord ']' = false
  sha256_length : ∀ s, (sha256 s).length = 64
  sha256_hex : ∀ s, ∀ c ∈ (sha256 s).toList, isHexDigit c = true

theorem isAsciiWord_range {c : Char} (h : isAsciiWord c = true) :
    (48 ≤ c.toNat ∧ c.toNat ≤ 57) ∨ (65 ≤ c.toNat ∧ c.toNat ≤ 90) ∨ c.toNat = 95 ∨
      (97 ≤ c.toNat ∧ c.toNat ≤ 122) := by
  have hspell : isAsciiWord c = (((decide (c.val ≥ 'A'.val ∧ c.val ≤ 'Z'.val) ||
      (c.val ≥ 'a'.val && c.val ≤ 'z'.val)) || (c.val ≥ '0'.val && c.val ≤ '9'.val)) || c = '_') :=
    rfl
  rw [hspell] at h
  simp only [Bool.or_eq_true, Bool.and_eq_true, decide_eq_true_eq] at h
  rcases h with ((h | h) | h) | rfl
  · exact .inr (.inl h)
  · exact .inr (.inr (.inr h))
  · exact .inl h
  · decide

theorem isSpace_of_isAsciiWord {c : Char} (h : isAsciiWord c = true) : isSpace c = false := by
  have hrange := isAsciiWord_range h
  simp only [isSpace, Bool.or_eq_false_iff, Bool.and_eq_false_iff, decide_eq_false_iff_not]
  omega

theorem isMark_of_isAsciiWord {c : Char} (h : isAsciiWord c = true) : isMark c = false := by
  rw [Bool.eq_false_iff]
  intro hmark
  simp only [isMark, Bool.or_eq_true, decide_eq_true_eq] at hmark
  rcases hmark with ((((((rfl | rfl) | rfl) | rfl) | rfl) | rfl) | rfl) | rfl <;>
    revert h <;> decide

variable (lib : TextLibrary)

/-! ## Splitting -/

/-- `re.split(r"(?<!\d)[.!?。！？;；]\s*|\n", ...)` after the character `previous`, where the
white space after a mark is `skipping`. -/
def split : (previous : Option Char) → (skipping : Bool) → (piece : Text) → Text → List Text
  | _, _, piece, [] => [piece]
  | previous, skipping, piece, c :: rest =>
    if skipping = true ∧ isSpace c = true then split (some c) true piece rest
    else if isMark c = true ∧ previous.any lib.isDigit = false then
      piece :: split (some c) true [] rest
    else if c = '\n' then piece :: split (some c) false [] rest
    else split (some c) false (piece ++ [c]) rest

/-- `str.strip`. -/
def strip (text : Text) : Text := (text.dropWhile isSpace).rdropWhile isSpace

/-- `str.rstrip('.。')`. -/
def rstripStops (text : Text) : Text := text.rdropWhile fun c => c = '.' || c = '。'

/-- `_statements`. -/
def statements (question : Text) : List Text :=
  (((split lib none false [] question).map strip).filter fun piece => !piece.isEmpty).map rstripStops

/-! ## Patterns -/

/-- Whether `re.IGNORECASE` takes `c` for the small letter `letter`. -/
def isLetter (letter c : Char) : Bool :=
  c.toLower = letter || (letter = 'i' && (c = 'İ' || c = 'ı')) || (letter = 's' && c = 'ſ') ||
    (letter = 'k' && c = '\u212A')

/-- What follows `word` at the start of a text. -/
def afterWord : (word : Text) → Text → Option Text
  | [], rest => some rest
  | letter :: word, c :: rest => if isLetter letter c then afterWord word rest else none
  | _ :: _, [] => none

/-- What follows the first of the words that the text starts with, and what that word stands for. -/
def afterOneOf {α : Type} (words : List (String × α)) (text : Text) : Option (α × Text) :=
  words.findSome? fun (word, meaning) => (afterWord word.toList text).map fun rest => (meaning, rest)

/-- `[\w-]`. -/
def isKeyCharacter (c : Char) : Bool := lib.isWord c || c = '-'

/-- `\[([\w-]{1,maxLength})\]`. -/
def bracketedKey (maxLength : Nat) : Text → Option (Text × Text)
  | '[' :: text =>
    let key := text.takeWhile (isKeyCharacter lib)
    match text.dropWhile (isKeyCharacter lib) with
    | ']' :: rest => if 1 ≤ key.length ∧ key.length ≤ maxLength then some (key, rest) else none
    | _ => none
  | _ => none

def isColon (c : Char) : Bool := c = ':' || c = '：'

/-- `\s*(.*)` at the end of a pattern. -/
def anyValue (text : Text) : Option Text :=
  let value := text.dropWhile isSpace
  if '\n' ∈ value then none else some value

/-- `\s*(.+)` at the end of a pattern: of a text that is all white space, the last character. -/
def someValue (text : Text) : Option Text :=
  let value := match text.dropWhile isSpace with
    | [] => text.getLast?.toList
    | value => value
  if value = [] ∨ '\n' ∈ value then none else some value

/-- `_EXPLICIT`: the kind of the item, its key and its value. -/
def matchExplicit (statement : Text) : Option (String × Text × Text) := do
  let (kind, rest) ← afterOneOf [("goal", "goal"), ("constraint", "constraint"), ("目标", "goal"),
    ("约束", "constraint")] statement
  let (key, rest) ← bracketedKey lib 64 rest
  match rest.dropWhile isSpace with
  | c :: rest => if isColon c then (someValue rest).map fun value => (kind, key, value) else none
  | [] => none

/-- `_REVISION`: whether it revokes the item, the key and the new value. -/
def matchRevision (statement : Text) : Option (Bool × Text × Option Text) := do
  let (revokes, rest) ← afterOneOf [("revise", false), ("revoke", true), ("修订", false),
    ("撤销", true)] statement
  let (key, rest) ← bracketedKey lib 96 rest
  match rest.dropWhile isSpace with
  | c :: rest => if isColon c then (anyValue rest).map fun value => (revokes, key, some value) else none
  | [] => some (revokes, key, none)

/-- `\s*(?:yuan|元|USD|CNY|美元)` up to the end. -/
def isUnit (text : Text) : Bool :=
  (["yuan", "元", "usd", "cny", "美元"] : List String).any fun unit =>
    afterWord unit.toList (text.dropWhile isSpace) = some []

/-- `\d+(?:\.\d+)?\s*(?:yuan|元|USD|CNY|美元)` up to the end. -/
def isAmount (text : Text) : Bool :=
  text.takeWhile lib.isDigit ≠ [] &&
    match text.dropWhile lib.isDigit with
    | '.' :: rest => rest.takeWhile lib.isDigit ≠ [] && isUnit (rest.dropWhile lib.isDigit)
    | rest => isUnit rest

/-- `Budget\s+(?:is|=)`, and `预算\s*(?:为|是|[:：=])`. -/
def afterBudget (statement : Text) : Option Text :=
  match afterWord "budget".toList statement with
  | some rest =>
    if rest.head?.any isSpace then
      (afterOneOf [("is", ()), ("=", ())] (rest.dropWhile isSpace)).map (·.2)
    else none
  | none =>
    (afterWord "预算".toList statement).bind fun rest =>
      (afterOneOf [("为", ()), ("是", ()), (":", ()), ("：", ()), ("=", ())]
        (rest.dropWhile isSpace)).map (·.2)

/-- `_BUDGET`: the amount. -/
def matchBudget (statement : Text) : Option Text :=
  (afterBudget statement).bind fun rest =>
    let amount := rest.dropWhile isSpace
    if isAmount lib amount then some amount else none

/-- `_PROHIBITION`. -/
def isProhibition (statement : Text) : Bool :=
  (afterOneOf [("do not ", ()), ("never ", ()), ("禁止", ()), ("不得", ())] statement).isSome

/-! ## Reading a statement -/

/-- What a statement says about the task. -/
inductive Statement where
  | revision (revokes : Bool) (key : String) (value : Option String)
  | explicit (kind key value : String)
  | budget (value : String)
  | prohibition (value : String)
  | other
  deriving DecidableEq

/-- The recognisers, in the order in which they are asked. -/
def readStatement (statement : Text) : Statement :=
  match matchRevision lib statement with
  | some (revokes, key, value) => .revision revokes (.ofList key) (value.map .ofList)
  | none =>
    match matchExplicit lib statement with
    | some (kind, key, value) => .explicit kind (.ofList key) (.ofList value)
    | none =>
      match matchBudget lib statement with
      | some value => .budget (.ofList value)
      | none =>
        if isProhibition statement then .prohibition (.ofList (statement ++ ['.'])) else .other

/-- The statements of a question, in order. -/
def readQuestion (question : String) : List Statement :=
  (statements lib question.toList).map (readStatement lib)

/-! ## A small library -/

namespace Sample

def library : TextLibrary where
  isWord := isAsciiWord
  isDigit := Char.isDigit
  sha256 _ := .ofList (List.replicate 64 'a')
  ascii_word _ h := h
  digit_word _ h := by simp [isAsciiWord, Char.isAlphanum, h]
  word_not_space _ := isSpace_of_isAsciiWord
  word_not_mark _ := isMark_of_isAsciiWord
  bracket_not_word := by decide
  sha256_length _ := by
    rw [String.length_ofList]
    rfl
  sha256_hex _ c hc := by
    rw [String.toList_ofList] at hc
    rw [List.eq_of_mem_replicate hc]
    decide

end Sample

-- a price keeps its point, and a prohibition gets its full stop back
example : readQuestion Sample.library "Goal[report]: Compare. 预算：3.5元。do not submit anything" =
    [.explicit "goal" "report" "Compare", .budget "3.5元", .prohibition "do not submit anything."] := by
  decide +kernel

end ProofAgent.TaskState
