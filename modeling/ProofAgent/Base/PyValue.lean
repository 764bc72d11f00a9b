import ProofAgent.Base.Decimal
import ProofAgent.Contracts.Platform
import Mathlib.Data.List.Dedup
import Mathlib.Data.String.Basic

/-! # Values of any type

A mapping of the source may hold values of any type. These are the ones that YAML and
JSON give, with the operators that the source applies to them: `==`, `bool` and `int`.
A frozen mapping keeps its sequences as tuples, so a list and a tuple stay apart, but
not inside of a frozen mapping that is compared as a whole. -/
namespace ProofAgent.Base

inductive PyValue where
  | none
  | bool (value : Bool)
  | int (value : Int)
  | float (value : PyFloat)
  | str (value : String)
  | list (items : List PyValue)
  | tuple (items : List PyValue)
  | dict (fields : List (String × PyValue))

/-- A mapping whose keys are texts. -/
abbrev PyDict := List (String × PyValue)

inductive PyError where
  | value | type | key
  deriving DecidableEq

namespace PyValue

/-- A number, of any of the three types. -/
def number : PyValue → Option PyFloat
  | bool b => some (.ofDecimal false b.toNat 0)
  | int n => some (.ofDecimal (n < 0) n.natAbs 0)
  | float x => some x.unsigned
  | _ => Option.none

mutual
/-- `==`; `whole` inside of a frozen mapping that is compared as a whole. -/
def eq (whole : Bool) : PyValue → PyValue → Bool
  | .none, .none => true
  | .str a, .str b => a = b
  | .list xs, .list ys => eqItems whole xs ys
  | .tuple xs, .tuple ys => eqItems whole xs ys
  | .list xs, .tuple ys => whole && eqItems whole xs ys
  | .tuple xs, .list ys => whole && eqItems whole xs ys
  | .dict xs, .dict ys => xs.length = ys.length && eqFields xs ys
  | a, b =>
    match a.number, b.number with
    | some x, some y => x = y
    | _, _ => false

def eqItems (whole : Bool) : List PyValue → List PyValue → Bool
  | [], [] => true
  | x :: xs, y :: ys => eq whole x y && eqItems whole xs ys
  | _, _ => false

def eqFields : PyDict → PyDict → Bool
  | [], _ => true
  | (k, x) :: xs, ys =>
    (match ys.lookup k with
      | some y => eq true x y
      | Option.none => false) && eqFields xs ys
end

/-- `a != b`, where each may be absent. -/
def differs : Option PyValue → Option PyValue → Bool
  | some a, some b => !eq false a b
  | some a, Option.none | Option.none, some a => !eq false a .none
  | Option.none, Option.none => false

/-- `bool(value)`. -/
def truthy : PyValue → Bool
  | none => false
  | bool b => b
  | int n => n ≠ 0
  | float x => !x.isZero
  | str s => s ≠ ""
  | list items | tuple items => !items.isEmpty
  | dict fields => !fields.isEmpty

/-- The digits of a number, with single underscores between them. -/
def digits (text : List Char) : Option Nat :=
  if (text.splitOn '_').all (fun part => !part.isEmpty && part.all Char.isDigit) = true then
    some ((text.filter (· ≠ '_')).foldl (fun n c => 10 * n + (c.toNat - '0'.toNat)) 0)
  else Option.none

/-- `int(text)`, in decimal. -/
def intOfText (text : String) : Option Int :=
  match ((text.toList.dropWhile isSpace).reverse.dropWhile isSpace).reverse with
  | '-' :: rest => (digits rest).map fun n => -(n : Int)
  | '+' :: rest => (digits rest).map fun n => (n : Int)
  | rest => (digits rest).map fun n => (n : Int)

/-- A float without its fraction. -/
def truncated (x : PyFloat) : Int :=
  let magnitude := if 0 ≤ x.exponent then x.coefficient * 10 ^ x.exponent.toNat
    else x.coefficient / 10 ^ (-x.exponent).toNat
  if x.negative then -magnitude else magnitude

/-- `int(value)`. -/
def toInt : PyValue → Except PyError Int
  | bool b => .ok b.toNat
  | int n => .ok n
  | float x => .ok (truncated x)
  | str s =>
    match intOfText s with
    | some n => .ok n
    | Option.none => .error .value
  | none | list _ | tuple _ | dict _ => .error .type

end PyValue

/-! ## Sets of texts -/

/-- `sorted(set(values))`. -/
def sortedSet (values : List String) : List String := values.dedup.insertionSort (· ≤ ·)

theorem mem_sortedSet {values : List String} {value : String} :
    value ∈ sortedSet values ↔ value ∈ values := by
  unfold sortedSet
  rw [List.mem_insertionSort, List.mem_dedup]

theorem sortedSet_eq_nil_iff {values : List String} : sortedSet values = [] ↔ values = [] := by
  rw [List.eq_nil_iff_forall_not_mem, List.eq_nil_iff_forall_not_mem]
  exact forall_congr' fun _ => not_congr mem_sortedSet

end ProofAgent.Base
