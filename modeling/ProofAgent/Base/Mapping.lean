import ProofAgent.Base.Json

/-! # Frozen mappings

Python compares mappings without regard to the order of their keys. A canonical
value has the keys of its objects in order at every depth, and a frozen mapping
is one that is canonical, so that equal mappings are the same value. -/
namespace ProofAgent.Base

namespace Json

mutual
/-- Equality of values, part by part. -/
def same : Json → Json → Bool
  | .null, .null => true
  | .bool a, .bool b => a = b
  | .int a, .int b => a = b
  | .float a, .float b => a = b
  | .str a, .str b => a = b
  | .time a, .time b => a = b
  | .arr a, .arr b => sameItems a b
  | .obj a, .obj b => sameFields a b
  | _, _ => false

def sameItems : List Json → List Json → Bool
  | [], [] => true
  | a :: as, b :: bs => same a b && sameItems as bs
  | _, _ => false

def sameFields : List (String × Json) → List (String × Json) → Bool
  | [], [] => true
  | (k, a) :: as, (l, b) :: bs => k = l && same a b && sameFields as bs
  | _, _ => false
end

mutual
theorem same_iff : ∀ a b : Json, same a b = true ↔ a = b
  | .null, b => by cases b <;> simp [same]
  | .bool x, b => by cases b <;> simp [same]
  | .int x, b => by cases b <;> simp [same]
  | .float x, b => by cases b <;> simp [same]
  | .str x, b => by cases b <;> simp [same]
  | .time x, b => by cases b <;> simp [same]
  | .arr xs, b => by
    cases b with
    | arr ys => simp [same, sameItems_iff xs ys]
    | _ => simp [same]
  | .obj xs, b => by
    cases b with
    | obj ys => simp [same, sameFields_iff xs ys]
    | _ => simp [same]

theorem sameItems_iff : ∀ xs ys : List Json, sameItems xs ys = true ↔ xs = ys
  | [], ys => by cases ys <;> simp [sameItems]
  | x :: xs, ys => by
    cases ys with
    | nil => simp [sameItems]
    | cons y ys => simp [sameItems, same_iff x y, sameItems_iff xs ys]

theorem sameFields_iff : ∀ xs ys : List (String × Json), sameFields xs ys = true ↔ xs = ys
  | [], ys => by cases ys <;> simp [sameFields]
  | (k, x) :: xs, ys => by
    cases ys with
    | nil => simp [sameFields]
    | cons y ys =>
      obtain ⟨l, y⟩ := y
      simp [sameFields, same_iff x y, sameFields_iff xs ys, and_assoc]
end

instance : DecidableEq Json := fun a b => decidable_of_iff _ (same_iff a b)

/-! ## Canonical values -/

theorem keyBefore_total (a b : String) : keyBefore a b = true ∨ keyBefore b a = true := by
  simp only [keyBefore, Bool.or_eq_true, Bool.and_eq_true, decide_eq_true_eq]
  rcases Nat.lt_trichotomy a.utf8ByteSize b.utf8ByteSize with h | h | h
  · exact .inl (.inl h)
  · rcases String.le_total a b with hab | hba
    · exact .inl (.inr ⟨h, hab⟩)
    · exact .inr (.inr ⟨h.symm, hba⟩)
  · exact .inr (.inl h)

theorem keyBefore_trans {a b c : String} (hab : keyBefore a b = true)
    (hbc : keyBefore b c = true) : keyBefore a c = true := by
  simp only [keyBefore, Bool.or_eq_true, Bool.and_eq_true, decide_eq_true_eq] at hab hbc ⊢
  rcases hab with hab | ⟨hab, hle⟩ <;> rcases hbc with hbc | ⟨hbc, hle'⟩
  · exact .inl (hab.trans hbc)
  · exact .inl (hbc ▸ hab)
  · exact .inl (hab ▸ hbc)
  · exact .inr ⟨hab.trans hbc, String.le_trans hle hle'⟩

/-- Keys that are in order stay where they are. -/
theorem sortFields_sortFields {β : Type} (fields : List (String × β)) :
    sortFields (sortFields fields) = sortFields fields := by
  have : Std.Total fun a b : String × β => keyBefore a.1 b.1 = true :=
    ⟨fun a b => keyBefore_total a.1 b.1⟩
  have : IsTrans (String × β) fun a b => keyBefore a.1 b.1 = true :=
    ⟨fun _ _ _ => keyBefore_trans⟩
  exact (List.pairwise_insertionSort _ fields).insertionSort_eq

/-- The value with the keys of its objects in order. -/
def canonical (j : Json) : Json := reshape .float j

mutual
theorem reshape_reshape : ∀ j : Json, reshape .float (reshape .float j) = reshape .float j
  | .arr items => by
    rw [reshape, reshape, reshapeItems_reshapeItems items]
  | .obj fields => by
    rw [reshape, reshape, reshapeFields_eq _ (sortFields _), ← sortFields_map (reshape .float),
      ← reshapeFields_eq, reshapeFields_reshapeFields fields, sortFields_sortFields]
  | .null | .bool _ | .int _ | .float _ | .str _ | .time _ => rfl

theorem reshapeItems_reshapeItems : ∀ items : List Json,
    reshapeItems .float (reshapeItems .float items) = reshapeItems .float items
  | [] => rfl
  | j :: rest => by
    rw [reshapeItems, reshapeItems, reshape_reshape j, reshapeItems_reshapeItems rest]

theorem reshapeFields_reshapeFields : ∀ fields : List (String × Json),
    reshapeFields .float (reshapeFields .float fields) = reshapeFields .float fields
  | [] => rfl
  | (k, j) :: rest => by
    rw [reshapeFields, reshapeFields, reshape_reshape j, reshapeFields_reshapeFields rest]
end

theorem canonical_canonical (j : Json) : j.canonical.canonical = j.canonical := reshape_reshape j

end Json

/-! ## Mappings -/

/-- A mapping with text keys: the fields of a canonical object. -/
structure FrozenDict where
  fields : List (String × Json)
  canonical : Json.canonical (.obj fields) = .obj fields

namespace FrozenDict

instance : DecidableEq FrozenDict := fun a b =>
  decidable_of_iff (a.fields = b.fields) ⟨fun h => by cases a; cases b; simp_all, fun h => h ▸ rfl⟩

/-- The mapping with the given entries. -/
def ofFields (fields : List (String × Json)) : FrozenDict where
  fields := Json.sortFields (Json.reshapeFields .float fields)
  canonical := Json.canonical_canonical (.obj fields)

def empty : FrozenDict := ⟨[], rfl⟩

instance : Inhabited FrozenDict := ⟨empty⟩

def json (m : FrozenDict) : Json := .obj m.fields

def get? (m : FrozenDict) (key : String) : Option Json := m.fields.lookup key

def has (m : FrozenDict) (key : String) : Bool := m.fields.any fun p => p.1 = key

def keys (m : FrozenDict) : List String := m.fields.map Prod.fst

/-- `{**m, key: value}`. -/
def insert (m : FrozenDict) (key : String) (value : Json) : FrozenDict :=
  ofFields ((m.fields.filter fun p => p.1 ≠ key) ++ [(key, value)])

/-- `{**m, **other}`. -/
def update (m other : FrozenDict) : FrozenDict :=
  ofFields ((m.fields.filter fun p => !other.has p.1) ++ other.fields)

/-- The mapping that a JSON object is frozen to. -/
def ofJson? : Json → Option FrozenDict
  | .obj fields => some (ofFields fields)
  | _ => none

theorem ext_fields {a b : FrozenDict} (h : a.fields = b.fields) : a = b := by
  cases a
  cases b
  simp_all

/-- A mapping is what its own JSON is frozen to. -/
@[simp] theorem ofJson?_json (m : FrozenDict) : ofJson? m.json = some m :=
  congrArg some (ext_fields (Json.obj.inj m.canonical))

@[simp] theorem canonical_json (m : FrozenDict) : m.json.canonical = m.json := m.canonical

theorem ofFields_fields (m : FrozenDict) : ofFields m.fields = m :=
  ext_fields (Json.obj.inj m.canonical)

end FrozenDict

/-! ## Looking up keys

Sorting the entries of an object leaves every lookup as it is, and so a mapping to which a
key was assigned holds the assigned value under that key and all else as before. -/

namespace Json

/-- Sorting does not move an entry past another one with its key. -/
theorem lookup_sortFields {β : Type} (fields : List (String × β)) (k : String) :
    (sortFields fields).lookup k = fields.lookup k := by
  have hinsert : ∀ (entry : String × β) (rest : List (String × β)),
      (rest.orderedInsert (fun a b => keyBefore a.1 b.1 = true) entry).lookup k =
        (entry :: rest).lookup k := by
    intro entry rest
    induction rest with
    | nil => rfl
    | cons head rest ih =>
      rw [List.orderedInsert_cons]
      by_cases hbefore : keyBefore entry.1 head.1 = true
      · rw [if_pos hbefore]
      · have hne : entry.1 ≠ head.1 := by
          intro hsame
          rw [hsame] at hbefore
          exact hbefore ((keyBefore_total head.1 head.1).elim id id)
        obtain ⟨key, value⟩ := entry
        obtain ⟨key', value'⟩ := head
        rw [if_neg hbefore, List.lookup_cons, ih, List.lookup_cons, List.lookup_cons, List.lookup_cons]
        by_cases hk : k = key
        · subst hk
          have hk' : (k == key') = false := by simpa using hne
          rw [hk', beq_self_eq_true]
        · have hk' : (k == key) = false := by simpa using hk
          rw [hk']
  unfold sortFields
  induction fields with
  | nil => rfl
  | cons entry rest ih =>
    rw [List.insertionSort_cons, hinsert, List.lookup_cons, List.lookup_cons, ih]

theorem lookup_map {β γ : Type} (g : β → γ) (k : String) : ∀ fields : List (String × β),
    (fields.map fun p => (p.1, g p.2)).lookup k = (fields.lookup k).map g
  | [] => rfl
  | (key, value) :: rest => by
    rw [List.map_cons, List.lookup_cons, List.lookup_cons, lookup_map g k rest]
    cases k == key <;> rfl

end Json

namespace FrozenDict

theorem get?_ofFields (fields : List (String × Json)) (k : String) :
    (ofFields fields).get? k = (fields.lookup k).map (Json.reshape .float) := by
  unfold get? ofFields
  dsimp only
  rw [Json.lookup_sortFields, Json.reshapeFields_eq, Json.lookup_map]

/-- A value of a mapping is canonical. -/
theorem get?_canonical (m : FrozenDict) (k : String) :
    (m.get? k).map (Json.reshape .float) = m.get? k := by
  have hsame := get?_ofFields m.fields k
  rw [ofFields_fields] at hsame
  exact hsame.symm

/-- **An assignment** sets its key and leaves the other ones. -/
theorem get?_insert (m : FrozenDict) (key : String) (value : Json) (k : String) :
    (m.insert key value).get? k =
      if k = key then some (Json.reshape .float value) else m.get? k := by
  have hlookup : ∀ fields : List (String × Json),
      ((fields.filter fun p => p.1 ≠ key) ++ [(key, value)]).lookup k =
        if k = key then some value else fields.lookup k := by
    intro fields
    induction fields with
    | nil =>
      rw [List.filter_nil, List.nil_append, List.lookup_cons]
      by_cases hk : k = key
      · rw [if_pos hk, hk, beq_self_eq_true]
      · rw [if_neg hk, beq_eq_false_iff_ne.mpr hk]
    | cons p fields ih =>
      obtain ⟨key', value'⟩ := p
      rw [List.lookup_cons]
      by_cases hp : key' = key
      · rw [List.filter_cons_of_neg (by simpa using hp), ih]
        by_cases hk : k = key
        · rw [if_pos hk, if_pos hk]
        · rw [if_neg hk, if_neg hk, beq_eq_false_iff_ne.mpr (hp ▸ hk)]
      · rw [List.filter_cons_of_pos (by simpa using hp), List.cons_append, List.lookup_cons, ih]
        by_cases hk : k = key
        · rw [if_pos hk, if_pos hk, beq_eq_false_iff_ne.mpr (fun hsame => hp (hsame.symm.trans hk))]
        · rw [if_neg hk, if_neg hk]
  unfold insert
  rw [get?_ofFields, hlookup]
  by_cases hk : k = key
  · rw [if_pos hk, if_pos hk]
    rfl
  · rw [if_neg hk, if_neg hk]
    exact m.get?_canonical k

end FrozenDict

end ProofAgent.Base
