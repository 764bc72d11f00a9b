import ProofAgent.Base.Decimal
import Mathlib.Data.List.Sort

/-! # JSON values and their storage

A dumped model is a JSON value; a timestamp's text is kept as the instant it
denotes. Stored as `jsonb`, a value loses the order of its keys, its numbers
become exact decimals, and text with a NUL character is refused. `reshape`
is that transformation with the fate of a float left open, so that one lemma
about a record serves both for reading the record back and for telling two
records apart by their JSON. -/
namespace ProofAgent.Base

inductive Json where
  | null
  | bool (value : Bool)
  | int (value : Int)
  | float (value : PyFloat)
  | str (value : String)
  | time (value : Int)
  | arr (items : List Json)
  | obj (fields : List (String × Json))

namespace Json

/-- The order in which `jsonb` keeps the keys of an object. -/
def keyBefore (a b : String) : Bool :=
  a.utf8ByteSize < b.utf8ByteSize || (a.utf8ByteSize = b.utf8ByteSize && a ≤ b)

def sortFields {β : Type} (fields : List (String × β)) : List (String × β) :=
  fields.insertionSort fun a b => keyBefore a.1 b.1 = true

theorem sortFields_perm {β : Type} (fields : List (String × β)) :
    (sortFields fields).Perm fields :=
  List.perm_insertionSort ..

/-- Sorting looks at the keys only. -/
theorem sortFields_map {β γ : Type} (g : β → γ) (fields : List (String × β)) :
    sortFields (fields.map fun p => (p.1, g p.2)) =
      (sortFields fields).map fun p => (p.1, g p.2) := by
  exact (List.map_insertionSort (fun a b : String × β => keyBefore a.1 b.1 = true)
    (fun a b : String × γ => keyBefore a.1 b.1 = true) (fun p => (p.1, g p.2)) fields
    fun _ _ _ _ => Iff.rfl).symm

section
variable (f : PyFloat → Json)

mutual
/-- Sort the keys of every object and put `f x` for every float `x`. -/
def reshape : Json → Json
  | .float x => f x
  | .arr items => .arr (reshapeItems items)
  | .obj fields => .obj (sortFields (reshapeFields fields))
  | .null => .null
  | .bool b => .bool b
  | .int n => .int n
  | .str s => .str s
  | .time t => .time t

def reshapeItems : List Json → List Json
  | [] => []
  | j :: rest => reshape j :: reshapeItems rest

def reshapeFields : List (String × Json) → List (String × Json)
  | [] => []
  | (k, j) :: rest => (k, reshape j) :: reshapeFields rest
end

theorem reshapeItems_eq : ∀ items : List Json, reshapeItems f items = items.map (reshape f)
  | [] => rfl
  | j :: rest => by rw [reshapeItems, reshapeItems_eq rest]; rfl

theorem reshapeFields_eq : ∀ fields : List (String × Json),
    reshapeFields f fields = fields.map fun p => (p.1, reshape f p.2)
  | [] => rfl
  | (k, j) :: rest => by rw [reshapeFields, reshapeFields_eq rest]; rfl

@[simp] theorem reshape_null : reshape f .null = .null := rfl
@[simp] theorem reshape_bool (b : Bool) : reshape f (.bool b) = .bool b := rfl
@[simp] theorem reshape_int (n : Int) : reshape f (.int n) = .int n := rfl
@[simp] theorem reshape_float (x : PyFloat) : reshape f (.float x) = f x := rfl
@[simp] theorem reshape_str (s : String) : reshape f (.str s) = .str s := rfl
@[simp] theorem reshape_time (t : Int) : reshape f (.time t) = .time t := rfl
@[simp] theorem reshape_arr (items : List Json) :
    reshape f (.arr items) = .arr (items.map (reshape f)) := by
  rw [reshape, reshapeItems_eq]
theorem reshape_obj (fields : List (String × Json)) :
    reshape f (.obj fields) = .obj (sortFields (fields.map fun p => (p.1, reshape f p.2))) := by
  rw [reshape, reshapeFields_eq]

end

mutual
/-- Whether a text in the value has a NUL character. -/
def hasNul : Json → Bool
  | .str s => s.toList.contains '\x00'
  | .arr items => anyItemNul items
  | .obj fields => anyFieldNul fields
  | _ => false

def anyItemNul : List Json → Bool
  | [] => false
  | j :: rest => hasNul j || anyItemNul rest

def anyFieldNul : List (String × Json) → Bool
  | [] => false
  | (k, j) :: rest => k.toList.contains '\x00' || hasNul j || anyFieldNul rest
end

/-- The number that a stored float is read back as. -/
def storedFloat (x : PyFloat) : Json :=
  match (Numeric.ofText x.repr).text.loads with
  | .int n => .int n
  | .float y => .float y

theorem storedFloat_eq (x : PyFloat) :
    storedFloat x = if x.readsBackAsInt then .int x.toInt else .float x.unsigned := by
  rw [storedFloat, PyFloat.loads_store]
  cases x.readsBackAsInt <;> rfl

/-- Write a value to a `jsonb` column, and read it back. -/
def jsonb (j : Json) : Option Json :=
  if j.hasNul then none else some (j.reshape storedFloat)

/-! ## Reading a value -/

def asBool : Json → Option Bool
  | .bool b => some b
  | _ => none

def asInt : Json → Option Int
  | .int n => some n
  | _ => none

def asNat (j : Json) : Option Nat :=
  j.asInt.bind fun n => if 0 ≤ n then some n.toNat else none

/-- A float field takes an integer too. -/
def asFloat : Json → Option PyFloat
  | .float x => some x
  | .int n => some (PyFloat.ofDecimal (n < 0) n.natAbs 0)
  | _ => none

def asStr : Json → Option String
  | .str s => some s
  | _ => none

def asTime : Json → Option Int
  | .time t => some t
  | _ => none

def asList {α : Type} (read : Json → Option α) : Json → Option (List α)
  | .arr items => items.mapM read
  | _ => none

/-- `null` for an absent value. -/
def asOption {α : Type} (read : Json → Option α) : Json → Option (Option α)
  | .null => some none
  | j => (read j).map some

def ofOption {α : Type} (write : α → Json) : Option α → Json
  | none => .null
  | some a => write a

/-- The value under a key. -/
def field (j : Json) (k : String) : Option Json :=
  match j with
  | .obj fields => fields.lookup k
  | _ => none

theorem lookup_eq_some_iff {fields : List (String × Json)} (h : (fields.map Prod.fst).Nodup)
    {k : String} {j : Json} : fields.lookup k = some j ↔ (k, j) ∈ fields := by
  induction fields with
  | nil => simp
  | cons p rest ih =>
    obtain ⟨k', j'⟩ := p
    rw [List.map_cons, List.nodup_cons] at h
    rw [List.lookup_cons, List.mem_cons, Prod.mk.injEq]
    by_cases hk : k = k'
    · subst hk
      have hno : (k, j) ∉ rest := fun hm => h.1 (List.mem_map.mpr ⟨_, hm, rfl⟩)
      simp [hno, eq_comm]
    · have hbeq : (k == k') = false := by simpa using hk
      rw [hbeq]
      simpa [hk] using ih h.2

/-- Keys that are distinct are found in any order. -/
theorem lookup_perm {fields other : List (String × Json)} (hp : fields.Perm other)
    (h : (fields.map Prod.fst).Nodup) (k : String) : fields.lookup k = other.lookup k := by
  have h' : (other.map Prod.fst).Nodup := (hp.map _).nodup_iff.mp h
  refine Option.ext fun j => ?_
  rw [lookup_eq_some_iff h, lookup_eq_some_iff h', hp.mem_iff]

/-- **A field of a reshaped object is the reshaped field.** -/
theorem field_reshape (f : PyFloat → Json) {fields : List (String × Json)}
    (h : (fields.map Prod.fst).Nodup) (k : String) :
    (reshape f (.obj fields)).field k = (fields.lookup k).map (reshape f) := by
  have hmap : ((fields.map fun p => (p.1, reshape f p.2)).map Prod.fst).Nodup := by
    rw [List.map_map]; exact h
  rw [reshape_obj, field, lookup_perm (sortFields_perm _)
    (((sortFields_perm _).map _).nodup_iff.mpr hmap)]
  clear h hmap
  induction fields with
  | nil => rfl
  | cons p rest ih =>
    rw [List.map_cons, List.lookup_cons, List.lookup_cons]
    cases k == p.1 with
    | true => rfl
    | false => exact ih

@[simp] theorem asStr_str (s : String) : asStr (.str s) = some s := rfl

@[simp] theorem asBool_bool (b : Bool) : asBool (.bool b) = some b := rfl

@[simp] theorem asTime_time (t : Int) : asTime (.time t) = some t := rfl

@[simp] theorem asNat_natCast (n : Nat) : asNat (.int n) = some n := by
  simp [asNat, asInt]

@[simp] theorem asFloat_float (x : PyFloat) : asFloat (.float x) = some x := rfl

/-- A float field is read back unless it held a negative zero. -/
theorem asFloat_storedFloat {x : PyFloat} (h : x.isNegativeZero = false) :
    asFloat (storedFloat x) = some x := by
  rw [storedFloat_eq]
  split
  · rename_i hint
    rw [asFloat, PyFloat.ofDecimal_toInt x hint]
  · rw [asFloat_float, PyFloat.unsigned_eq x h]

/-- Read the value under a key. -/
def readField {α : Type} (read : Json → Option α) (k : String) (j : Json) : Option α :=
  (j.field k).bind read

theorem readField_reshape {α : Type} {read : Json → Option α} (f : PyFloat → Json)
    {fields : List (String × Json)} (h : (fields.map Prod.fst).Nodup) {k : String} :
    readField read k (reshape f (.obj fields)) =
      ((fields.lookup k).map (reshape f)).bind read := by
  rw [readField, field_reshape f h]

/-- A list is read entry by entry. -/
theorem asList_reshape {α β : Type} {write : α → Json} {read : Json → Option β}
    {g : α → Option β} (f : PyFloat → Json) (items : List α)
    (h : ∀ a ∈ items, read (reshape f (write a)) = g a) :
    asList read (reshape f (.arr (items.map write))) = items.mapM g := by
  rw [reshape_arr, asList, List.map_map]
  induction items with
  | nil => rfl
  | cons a rest ih =>
    rw [List.map_cons, List.mapM_cons, List.mapM_cons, Function.comp, h a (by simp),
      ih fun b hb => h b (by simp [hb])]

/-- Reading all entries of a list reads each of them. -/
theorem mapM_eq_some_iff {α β : Type} {g : α → Option β} : ∀ {items : List α} {read : List β},
    items.mapM g = some read ↔ List.Forall₂ (fun a b => g a = some b) items read
  | [], read => by
    cases read with
    | nil => exact ⟨fun _ => .nil, fun _ => rfl⟩
    | cons b read => exact ⟨(nomatch ·), (nomatch ·)⟩
  | a :: items, read => by
    rw [List.mapM_cons]
    cases ha : g a with
    | none =>
      refine ⟨(nomatch ·), fun h => ?_⟩
      cases h with
      | cons hb _ => rw [ha] at hb; cases hb
    | some b =>
      cases hr : items.mapM g with
      | none =>
        refine ⟨(nomatch ·), fun h => ?_⟩
        cases h with
        | cons _ hrest => rw [mapM_eq_some_iff.mpr hrest] at hr; cases hr
      | some bs =>
        refine ⟨fun h => ?_, fun h => ?_⟩
        · cases h
          exact .cons ha (mapM_eq_some_iff.mp hr)
        · cases h with
          | cons hb hrest =>
            rw [ha] at hb
            rw [mapM_eq_some_iff.mpr hrest] at hr
            cases hb; cases hr; rfl

theorem asOption_reshape {α β : Type} {write : α → Json} {read : Json → Option β}
    {g : α → Option β} (f : PyFloat → Json) {value : Option α}
    (hnull : ∀ a, value = some a → reshape f (write a) ≠ .null)
    (h : ∀ a, value = some a → read (reshape f (write a)) = g a) :
    asOption read (reshape f (ofOption write value)) = value.mapM g := by
  cases value with
  | none => rfl
  | some a =>
    have hn := hnull a rfl
    have hr := h a rfl
    have hcases : asOption read (reshape f (write a)) = (read (reshape f (write a))).map some := by
      revert hn
      cases reshape f (write a) <;> simp [asOption]
    rw [ofOption, hcases, hr]
    rfl

end Json

end ProofAgent.Base
