import Mathlib.Data.List.Basic

/-! # Regular expressions

The matching of Python's `re`: a match at a place is the first success of a backtracking search
whose repetitions are greedy, and a scan of a text takes the matches from left to right, each from
where the one before it ended. No body of a repetition matches the empty text here, and a scan
leaves out empty matches. -/
namespace ProofAgent.Base

inductive Regex where
  | nil
  | char (p : Char → Bool)
  /-- The empty text, where the characters before and after it are as `p` says. -/
  | between (p : Option Char → Option Char → Bool)
  | seq (r s : Regex)
  | alt (r s : Regex)
  | many (r : Regex) (min : Nat) (max : Option Nat)
  | group (r : Regex)

/-- A place in a text: what is before it, last character first, what is after it, and what the group
has matched on the way to it. -/
structure Cursor where
  before : List Char
  after : List Char
  group : Option (List Char) := none
  deriving DecidableEq

namespace Cursor

def start (text : List Char) : Cursor := { before := [], after := text }

/-- The text between a place and a later one. -/
def upto (c d : Cursor) : List Char := c.after.take (c.after.length - d.after.length)

/-- The whole text. -/
def whole (c : Cursor) : List Char := c.before.reverse ++ c.after

end Cursor

namespace Regex

/-- The successes of a greedy repetition, the longest one first. -/
def repeatRun (step : Cursor → List Cursor) : Nat → Nat → Option Nat → Cursor → List Cursor
  | 0, min, _, c => if min = 0 then [c] else []
  | fuel + 1, min, max, c =>
    let more := if max = some 0 then [] else
      ((step c).filter fun d => d.after.length < c.after.length).flatMap
        (repeatRun step fuel (min - 1) (max.map (· - 1)))
    more ++ if min = 0 then [c] else []

/-- The successes at a place, in the order in which they are tried. -/
def run : Regex → Cursor → List Cursor
  | nil, c => [c]
  | char p, c =>
    match c.after with
    | x :: rest => if p x then [{ c with before := x :: c.before, after := rest }] else []
    | [] => []
  | between p, c => if p c.before.head? c.after.head? then [c] else []
  | seq r s, c => (r.run c).flatMap s.run
  | alt r s, c => r.run c ++ s.run c
  | many r min max, c => repeatRun r.run (c.after.length + 1) min max c
  | group r, c => (r.run c).map fun d => { d with group := some (c.upto d) }

/-! ## Scanning -/

/-- A match in a text. -/
structure Match where
  before : List Char
  text : List Char
  after : List Char
  group : Option (List Char)

/-- A character that no match covers, or a match. -/
inductive Piece where
  | plain (c : Char)
  | found (m : Match)

/-- The match at a place, unless it is empty. -/
def matchAt (r : Regex) (before after : List Char) : Option Cursor :=
  (r.run { before, after }).head?.filter fun d => d.after.length < after.length

/-- The pieces of what is after a place. -/
def piecesFrom (r : Regex) : Nat → (before after : List Char) → List Piece
  | 0, _, _ => []
  | fuel + 1, before, after =>
    match r.matchAt before after with
    | some d =>
      .found ⟨before.reverse, (Cursor.mk before after none).upto d, d.after, d.group⟩ ::
        r.piecesFrom fuel d.before d.after
    | none =>
      match after with
      | [] => []
      | x :: rest => .plain x :: r.piecesFrom fuel (x :: before) rest

/-- The pieces of a text. -/
def pieces (r : Regex) (text : List Char) : List Piece := r.piecesFrom text.length [] text

def Piece.match? : Piece → Option Match
  | plain _ => none
  | found m => some m

/-- `r.finditer(text, pos)`, the place being `pos`. -/
def findFrom (r : Regex) (c : Cursor) : List Match :=
  (r.piecesFrom c.after.length c.before c.after).filterMap Piece.match?

/-- `r.finditer(text)`. -/
def findAll (r : Regex) (text : List Char) : List Match := r.findFrom (.start text)

/-- `r.search(text)`. -/
def search (r : Regex) (text : List Char) : Option Match := (r.findAll text).head?

/-- `re.sub(r, replacement, text)`. -/
def subBy (r : Regex) (replacement : Match → List Char) (text : List Char) : List Char :=
  (r.pieces text).flatMap fun
    | .plain c => [c]
    | .found m => replacement m

/-- `re.match(r, text)`. -/
def matchStart (r : Regex) (text : List Char) : Option Cursor := r.matchAt [] text

/-- `re.fullmatch(r, text)`. -/
def fullMatch (r : Regex) (text : List Char) : Option Cursor :=
  (r.run (.start text)).find? fun d => d.after = []

/-- Put a character before the first part. -/
def consHead (c : Char) : List (List Char) → List (List Char)
  | part :: rest => (c :: part) :: rest
  | [] => [[c]]

/-- The parts of a text that the matches separate. -/
def splitPieces (pieces : List Piece) : List (List Char) :=
  pieces.foldr (fun
    | .plain c => consHead c
    | .found _ => ([] :: ·)) [[]]

/-- `re.split(r, text)`. -/
def splitBy (r : Regex) (text : List Char) : List (List Char) := splitPieces (r.pieces text)

/-! ## Shorthands -/

def one (c : Char) : Regex := char fun x => x = c

def text (s : String) : Regex := s.toList.foldr (fun c r => seq (one c) r) nil

def concat (rs : List Regex) : Regex := rs.foldr seq nil

def anyOf : List Regex → Regex
  | [] => char fun _ => false
  | [r] => r
  | r :: rest => alt r (anyOf rest)

def star (r : Regex) : Regex := many r 0 none

def plus (r : Regex) : Regex := many r 1 none

def opt (r : Regex) : Regex := many r 0 (some 1)

end Regex

end ProofAgent.Base
