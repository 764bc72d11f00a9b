import ProofAgent.Base.Json
import ProofAgent.Base.Outcome

/-! # What the code takes from its platform

Instants, the errors that a call can raise, and the functions of the standard
library, of pydantic and of the floating-point unit that the model leaves open.
Identifiers, UUIDs and digests are text. -/
namespace ProofAgent

open Base

/-- A timezone-aware `datetime`, in microseconds. -/
abbrev Instant := Int

def seconds (n : Int) : Int := n * 1000000

def days (n : Int) : Int := seconds (n * 86400)

theorem lt_add_seconds (t : Instant) {n : Int} (h : 1 ≤ n) : t < t + seconds n := by
  refine Int.lt_add_of_pos_right t ?_
  unfold seconds
  omega

/-- The functions that are not under the repository's control. -/
structure Runtime where
  /-- The hexadecimal SHA-256 digest of a canonical JSON text; an f-string is
  passed as the array of its parts. -/
  sha256 : Json → String
  /-- `uuid5(NAMESPACE_URL, name)`. -/
  uuid5 : String → String
  /-- Addition of two finite floats, unless it overflows. -/
  addFloat : PyFloat → PyFloat → Option PyFloat
  /-- A sum is the negative zero only if both summands are. -/
  addFloat_negativeZero : ∀ x y z, addFloat x y = some z → z.isNegativeZero = true →
    x.isNegativeZero = true ∧ y.isNegativeZero = true
  addFloat_zero : ∀ x, x.isNegativeZero = false → addFloat x .zero = some x
  /-- `len(model.model_dump_json().encode())`. -/
  dumpSize : Json → Nat

/-- The errors that the modelled calls raise. -/
inductive Error where
  /-- `ValueError`, and pydantic's `ValidationError`. -/
  | value (message : String)
  | key (name : String)
  | runClaimRejected (message : String)
  | runIdempotencyConflict (message : String)
  | runQueueOverloaded (capacity : Nat)
  | runConversationBusy (message : String)
  | runSubmissionRejected (message : String)
  | persistenceConflict (resourceType resourceId : String) (expectedRevision : Nat)
      (actualRevision : Option Nat)
  | persistenceIdempotencyConflict (message : String)
  | persistenceInvariant (message : String)
  | persistenceNotFound (resourceType resourceId : String)
  /-- A constraint of the database. -/
  | integrity (constraint : String)
  /-- A value that a column's type cannot hold. -/
  | data (message : String)
  /-- What the snapshot factory of a claim raised. -/
  | snapshotFactory (reason : String)
  | http (status : Nat) (detail : String)
  deriving DecidableEq

/-- A condition that a validator checks. -/
def check (p : Prop) [Decidable p] (message : String) : Bool × Error := (decide p, .value message)

theorem check_iff {p : Prop} [Decidable p] {message : String} :
    (check p message).1 = true ↔ p := by
  simp [check]

/-- A validated contract, or what its validator raises. -/
def orInvalid {α : Type} (checks : List (Bool × Error))
    (build : (∀ c ∈ checks, c.1 = true) → α) : Except Error α :=
  match h : requireAll checks with
  | .ok () => .ok (build (requireAll_ok_iff.mp h))
  | .error e => .error e

theorem orInvalid_ok {α : Type} {checks : List (Bool × Error)}
    {build : (∀ c ∈ checks, c.1 = true) → α} {a : α} (h : orInvalid checks build = .ok a) :
    ∃ hc, a = build hc := by
  unfold orInvalid at h
  split at h
  · cases h; exact ⟨_, rfl⟩
  · cases h

theorem orInvalid_of {α : Type} {checks : List (Bool × Error)}
    {build : (∀ c ∈ checks, c.1 = true) → α} (hc : ∀ c ∈ checks, c.1 = true) :
    orInvalid checks build = .ok (build hc) := by
  unfold orInvalid
  split
  · rfl
  · rename_i e he
    rw [requireAll_ok_iff.mpr hc] at he
    cases he

/-- White space in the sense of `str.strip`. -/
def isSpace (c : Char) : Bool :=
  let n := c.toNat
  (9 ≤ n && n ≤ 13) || (28 ≤ n && n ≤ 32) || n = 0x85 || n = 0xa0 || n = 0x1680 ||
    (0x2000 ≤ n && n ≤ 0x200a) || n = 0x2028 || n = 0x2029 || n = 0x202f || n = 0x205f || n = 0x3000

/-- `value.strip() == value`. -/
def isStripped (value : String) : Bool :=
  !value.toList.head?.any isSpace && !value.toList.getLast?.any isSpace

/-- `not value.strip()`. -/
def isBlank (value : String) : Bool := value.toList.all isSpace

def hasNulCharacter (value : String) : Bool := value.toList.contains '\x00'

/-- `part in text`. -/
def containsText (part text : String) : Bool :=
  text.toList.tails.any fun t => part.toList.isPrefixOf t

/-- A UUID in its canonical spelling. -/
def isUuid (value : String) : Bool :=
  value.length = 36 && value.toList.zipIdx.all fun (c, i) =>
    if i = 8 || i = 13 || i = 18 || i = 23 then c = '-'
    else ('0' ≤ c && c ≤ '9') || ('a' ≤ c && c ≤ 'f')

example : isUuid "00000000-0000-4000-8000-00000000000a" = true := by decide

/-! ## A small runtime -/

namespace Sample

/-- Sums of which one side is zero. -/
def addFloat (x y : PyFloat) : Option PyFloat :=
  if y.isZero then some (if x.isNegativeZero && !y.negative then .zero else x)
  else if x.isZero then some y else none

def runtime : Runtime where
  sha256 _ := "sha256"
  uuid5 name := name
  addFloat := addFloat
  addFloat_negativeZero x y z h hz := by
    unfold addFloat at h
    split at h
    · rename_i hy
      split at h <;> cases h
      · cases hz
      · rename_i hsign
        simp only [hz, Bool.true_and, Bool.not_eq_true', Bool.not_eq_false] at hsign
        exact ⟨hz, by simp [PyFloat.isNegativeZero, hy, hsign]⟩
    · rename_i hy
      split at h <;> cases h
      simp [PyFloat.isNegativeZero, hy] at hz
  addFloat_zero x h := by simp [addFloat, h, PyFloat.isZero, PyFloat.zero]
  dumpSize _ := 0

end Sample

end ProofAgent
