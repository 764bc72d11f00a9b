import Mathlib.Data.List.Nodup

/-! # Tables under a primary key

A table is a list of rows whose keys are distinct, with the three statements
that a repository issues: insert a row whose key is new, update the rows that
satisfy a condition, and delete them. Rows keep the order in which they were
inserted. -/
namespace ProofAgent.Base

/-- Rows with distinct keys. -/
structure Table {ρ κ : Type} (key : ρ → κ) where
  rows : List ρ
  distinct : (rows.map key).Nodup

namespace Table

variable {ρ κ : Type} {key : ρ → κ}

theorem ext_rows {t u : Table key} (h : t.rows = u.rows) : t = u := by
  cases t; cases u; cases h; rfl

/-- The table without rows. -/
def empty : Table key := ⟨[], List.nodup_nil⟩

@[simp] theorem rows_empty : (empty : Table key).rows = [] := rfl

/-- `SELECT ... WHERE key = k`. -/
def find? [DecidableEq κ] (t : Table key) (k : κ) : Option ρ :=
  t.rows.find? fun r => decide (key r = k)

/-- `SELECT count(*) ... WHERE p`. -/
def count (t : Table key) (p : ρ → Bool) : Nat := t.rows.countP p

/-- `INSERT`; refused when the key is taken. -/
def insert? [DecidableEq κ] (t : Table key) (r : ρ) : Option (Table key) :=
  if h : key r ∈ t.rows.map key then none
  else some ⟨t.rows ++ [r], by
    rw [List.map_append, List.nodup_append]
    refine ⟨t.distinct, by simp, ?_⟩
    intro a ha b hb he
    exact h (by rw [List.map_singleton, List.mem_singleton] at hb; rw [← hb, ← he]; exact ha)⟩

/-- `UPDATE ... SET f WHERE p`, for assignments that keep the key. -/
def update (t : Table key) (p : ρ → Bool) (f : ρ → ρ) (hf : ∀ r, key (f r) = key r) :
    Table key :=
  ⟨t.rows.map fun r => if p r then f r else r, by
    have : (t.rows.map fun r => if p r then f r else r).map key = t.rows.map key := by
      rw [List.map_map]
      refine List.map_congr_left fun r _ => ?_
      simp only [Function.comp]
      split
      · exact hf r
      · rfl
    rw [this]; exact t.distinct⟩

/-- `INSERT ... ON CONFLICT (key) DO UPDATE SET f`. -/
def upsert [DecidableEq κ] (t : Table key) (r : ρ) (f : ρ → ρ) (hf : ∀ r, key (f r) = key r) :
    Table key :=
  (t.insert? r).getD (t.update (fun s => key s = key r) f hf)

/-- `DELETE ... WHERE p`. -/
def delete (t : Table key) (p : ρ → Bool) : Table key :=
  ⟨t.rows.filter fun r => !p r, t.distinct.sublist (List.filter_sublist.map key)⟩

/-! ## Rows and keys -/

theorem eq_of_key {t : Table key} {r s : ρ} (hr : r ∈ t.rows) (hs : s ∈ t.rows)
    (h : key r = key s) : r = s :=
  List.inj_on_of_nodup_map t.distinct hr hs h

section
variable [DecidableEq κ]

theorem find?_some {t : Table key} {k : κ} {r : ρ} (h : t.find? k = some r) :
    r ∈ t.rows ∧ key r = k :=
  ⟨List.mem_of_find?_eq_some h, by simpa using List.find?_some h⟩

theorem find?_of_mem {t : Table key} {r : ρ} (h : r ∈ t.rows) : t.find? (key r) = some r := by
  cases hf : t.find? (key r) with
  | none =>
    have := List.find?_eq_none.mp hf r h
    simp at this
  | some s =>
    obtain ⟨hs, hk⟩ := find?_some hf
    rw [eq_of_key hs h hk]

theorem find?_eq_some_iff {t : Table key} {k : κ} {r : ρ} :
    t.find? k = some r ↔ r ∈ t.rows ∧ key r = k :=
  ⟨find?_some, fun ⟨hm, hk⟩ => hk ▸ find?_of_mem hm⟩

theorem find?_eq_none_iff {t : Table key} {k : κ} :
    t.find? k = none ↔ ∀ r ∈ t.rows, key r ≠ k := by
  simp [find?, List.find?_eq_none]

end

/-! ## Inserting -/

section
variable [DecidableEq κ]

theorem insert?_some {t u : Table key} {r : ρ} (h : t.insert? r = some u) :
    u.rows = t.rows ++ [r] ∧ ∀ s ∈ t.rows, key s ≠ key r := by
  unfold insert? at h
  split at h
  · cases h
  · rename_i hfresh
    cases h
    exact ⟨rfl, fun s hs he => hfresh (he ▸ List.mem_map_of_mem hs)⟩

theorem insert?_isSome {t : Table key} {r : ρ} (h : ∀ s ∈ t.rows, key s ≠ key r) :
    ∃ u, t.insert? r = some u := by
  unfold insert?
  split
  · rename_i hm
    obtain ⟨s, hs, he⟩ := List.mem_map.mp hm
    exact absurd he (h s hs)
  · exact ⟨_, rfl⟩

theorem insert?_eq_none_iff {t : Table key} {r : ρ} :
    t.insert? r = none ↔ ∃ s ∈ t.rows, key s = key r := by
  constructor
  · intro h
    by_contra hn
    obtain ⟨u, hu⟩ := insert?_isSome (t := t) (r := r) fun s hs he => hn ⟨s, hs, he⟩
    rw [h] at hu; cases hu
  · rintro ⟨s, hs, he⟩
    cases h : t.insert? r with
    | none => rfl
    | some u => exact absurd he ((insert?_some h).2 s hs)

end

/-! ## Updating and deleting -/

variable {p : ρ → Bool} {f : ρ → ρ} {hf : ∀ r, key (f r) = key r}

theorem mem_update {t : Table key} {r : ρ} :
    r ∈ (t.update p f hf).rows ↔ ∃ s ∈ t.rows, r = if p s then f s else s := by
  simp only [update, List.mem_map]
  exact ⟨fun ⟨s, hs, he⟩ => ⟨s, hs, he.symm⟩, fun ⟨s, hs, he⟩ => ⟨s, hs, he.symm⟩⟩

/-- The second table is the first with one row rewritten. -/
structure Replaced (t u : Table key) (old new : ρ) : Prop where
  mem_old : old ∈ t.rows
  same_key : key new = key old
  rows : ∀ r, r ∈ u.rows ↔ r = new ∨ (r ∈ t.rows ∧ key r ≠ key old)
  counts : ∀ q : ρ → Bool,
    u.count q + (if q old then 1 else 0) = t.count q + (if q new then 1 else 0)

theorem mem_delete {t : Table key} {r : ρ} :
    r ∈ (t.delete p).rows ↔ r ∈ t.rows ∧ p r = false := by
  simp [delete]

/-- After an upsert the row under the key is the new one or the rewritten one, and
the others stay. -/
theorem mem_upsert [DecidableEq κ] {t : Table key} {r s : ρ} :
    s ∈ (t.upsert r f hf).rows ↔
      (s ∈ t.rows ∧ key s ≠ key r) ∨ (s = r ∧ ∀ o ∈ t.rows, key o ≠ key r) ∨
        ∃ o ∈ t.rows, key o = key r ∧ s = f o := by
  rw [upsert]
  cases h : t.insert? r with
  | some u =>
    obtain ⟨hrows, hfresh⟩ := insert?_some h
    rw [Option.getD_some, hrows, List.mem_append, List.mem_singleton]
    constructor
    · rintro (hs | rfl)
      · exact .inl ⟨hs, hfresh s hs⟩
      · exact .inr (.inl ⟨rfl, hfresh⟩)
    · rintro (⟨hs, _⟩ | ⟨rfl, _⟩ | ⟨o, ho, hk, _⟩)
      · exact .inl hs
      · exact .inr rfl
      · exact absurd hk (hfresh o ho)
  | none =>
    obtain ⟨o, ho, hk⟩ := insert?_eq_none_iff.mp h
    rw [Option.getD_none, mem_update]
    constructor
    · rintro ⟨a, ha, rfl⟩
      by_cases hak : key a = key r
      · exact .inr (.inr ⟨a, ha, hak, by simp [hak]⟩)
      · exact .inl (by simpa [hak] using ha)
    · rintro (⟨hs, hne⟩ | ⟨_, hno⟩ | ⟨a, ha, hak, rfl⟩)
      · exact ⟨s, hs, by simp [hne]⟩
      · exact absurd hk (hno o ho)
      · exact ⟨a, ha, by simp [hak]⟩

theorem find?_upsert [DecidableEq κ] {t : Table key} {r : ρ} {k : κ} :
    (t.upsert r f hf).find? k =
      if k = key r then some (((t.find? k).map f).getD r) else t.find? k := by
  by_cases hk : k = key r
  · subst hk
    rw [if_pos rfl, find?_eq_some_iff, mem_upsert]
    cases h : t.find? (key r) with
    | none => exact ⟨.inr (.inl ⟨rfl, find?_eq_none_iff.mp h⟩), rfl⟩
    | some o =>
      obtain ⟨ho, hkey⟩ := find?_some h
      exact ⟨.inr (.inr ⟨o, ho, hkey, rfl⟩), (hf o).trans hkey⟩
  · rw [if_neg hk]
    refine Option.ext fun s => ?_
    rw [find?_eq_some_iff, find?_eq_some_iff, mem_upsert]
    constructor
    · rintro ⟨⟨hs, _⟩ | ⟨rfl, _⟩ | ⟨o, _, hkey, rfl⟩, rfl⟩
      · exact ⟨hs, rfl⟩
      · exact absurd rfl hk
      · exact absurd ((hf o).trans hkey) hk
    · rintro ⟨hs, rfl⟩
      exact ⟨.inl ⟨hs, hk⟩, rfl⟩

/-! ## Counting -/

theorem count_eq_zero {t : Table key} {q : ρ → Bool} (h : ∀ r ∈ t.rows, q r = false) :
    t.count q = 0 := by
  rw [count, List.countP_eq_zero]
  intro r hr
  simp [h r hr]

/-- A condition that singles out a key holds of one row. -/
theorem count_eq_one {t : Table key} {q : ρ → Bool} {r : ρ} (hr : r ∈ t.rows) (hq : q r = true)
    (hone : ∀ s ∈ t.rows, q s = true → key s = key r) : t.count q = 1 := by
  obtain ⟨rows, hnodup⟩ := t
  obtain ⟨front, back, rfl⟩ := List.append_of_mem hr
  rw [List.map_append, List.map_cons, List.nodup_append, List.nodup_cons] at hnodup
  obtain ⟨_, ⟨hback, _⟩, hfront⟩ := hnodup
  rw [count, List.countP_append, List.countP_cons_of_pos hq]
  have hfront0 : front.countP q = 0 := List.countP_eq_zero.mpr fun s hs hqs =>
    hfront _ (List.mem_map_of_mem hs) _ (List.mem_cons_self ..) (hone s (by simp [hs]) hqs)
  have hback0 : back.countP q = 0 := List.countP_eq_zero.mpr fun s hs hqs =>
    hback (hone s (by simp [hs]) hqs ▸ List.mem_map_of_mem hs)
  omega

theorem count_insert [DecidableEq κ] {t u : Table key} {r : ρ} (h : t.insert? r = some u)
    (q : ρ → Bool) : u.count q = t.count q + if q r then 1 else 0 := by
  rw [count, (insert?_some h).1, List.countP_append, List.countP_singleton, count]

/-- **An update that reaches one row** rewrites that row. -/
theorem replaced_of_update {t : Table key} (f : ρ → ρ) (hf : ∀ r, key (f r) = key r)
    (hone : t.count p = 1) :
    ∃ old ∈ t.rows, p old = true ∧ Replaced t (t.update p f hf) old (f old) := by
  obtain ⟨rows, hnodup⟩ := t
  simp only [count] at hone
  obtain ⟨old, hold, hp⟩ : ∃ old ∈ rows, p old = true :=
    List.countP_pos_iff.mp (by omega)
  obtain ⟨front, back, rfl⟩ := List.append_of_mem hold
  have hkeys := hnodup
  rw [List.countP_append, List.countP_cons_of_pos hp] at hone
  have hfront : ∀ r ∈ front, ¬ p r = true := List.countP_eq_zero.mp (by omega)
  have hback : ∀ r ∈ back, ¬ p r = true := List.countP_eq_zero.mp (by omega)
  have hmap : (front ++ old :: back).map (fun r => if p r then f r else r) =
      front ++ f old :: back := by
    rw [List.map_append, List.map_cons, if_pos hp]
    congr 1
    · exact (List.map_congr_left fun r hr => if_neg (hfront r hr)).trans (List.map_id _)
    · congr 1
      exact (List.map_congr_left fun r hr => if_neg (hback r hr)).trans (List.map_id _)
  refine ⟨old, hold, hp, hold, hf old, fun r => ?_, fun q => ?_⟩
  · rw [List.map_append, List.map_cons, List.nodup_append, List.nodup_cons] at hkeys
    obtain ⟨_, ⟨hbackkey, _⟩, hfrontkey⟩ := hkeys
    have hfne : ∀ s ∈ front, key s ≠ key old := fun s hs =>
      hfrontkey _ (List.mem_map_of_mem hs) _ (List.mem_cons_self ..)
    have hbne : ∀ s ∈ back, key s ≠ key old := fun s hs he =>
      hbackkey (he ▸ List.mem_map_of_mem hs)
    simp only [update, hmap, List.mem_append, List.mem_cons]
    constructor
    · rintro (hr | rfl | hr)
      · exact .inr ⟨.inl hr, hfne r hr⟩
      · exact .inl rfl
      · exact .inr ⟨.inr (.inr hr), hbne r hr⟩
    · rintro (rfl | ⟨hr | rfl | hr, hne⟩)
      · exact .inr (.inl rfl)
      · exact .inl hr
      · exact absurd rfl hne
      · exact .inr (.inr hr)
  · simp only [update, count, hmap, List.countP_append, List.countP_cons]
    omega

namespace Replaced

variable {t u : Table key} {old new : ρ}

theorem mem_new (h : Replaced t u old new) : new ∈ u.rows := (h.rows new).mpr (.inl rfl)

/-- A row of the new table is the new row or was there before. -/
theorem mem_cases (h : Replaced t u old new) {r : ρ} (hr : r ∈ u.rows) :
    r = new ∨ (r ∈ t.rows ∧ key r ≠ key old) :=
  (h.rows r).mp hr

/-- A row under another key stays. -/
theorem mem_of_ne (h : Replaced t u old new) {r : ρ} (hr : r ∈ t.rows) (hne : key r ≠ key old) :
    r ∈ u.rows :=
  (h.rows r).mpr (.inr ⟨hr, hne⟩)

theorem mem_of_ne' (h : Replaced t u old new) {r : ρ} (hr : r ∈ t.rows) (hne : r ≠ old) :
    r ∈ u.rows :=
  h.mem_of_ne hr fun hk => hne (eq_of_key hr h.mem_old hk)

/-- Every row keeps a successor under its key. -/
theorem successor (h : Replaced t u old new) {r : ρ} (hr : r ∈ t.rows) :
    (r = old ∧ new ∈ u.rows) ∨ (r ≠ old ∧ r ∈ u.rows) := by
  by_cases hk : key r = key old
  · exact .inl ⟨eq_of_key hr h.mem_old hk, h.mem_new⟩
  · exact .inr ⟨fun he => hk (he ▸ rfl), h.mem_of_ne hr hk⟩

theorem count_le (h : Replaced t u old new) {q : ρ → Bool} (hq : q new = true → q old = true) :
    u.count q ≤ t.count q := by
  have := h.counts q
  cases hn : q new with
  | false => simp only [hn, Bool.false_eq_true, if_false] at this; omega
  | true => simp only [hn, hq hn, if_true] at this; omega

theorem le_count (h : Replaced t u old new) {q : ρ → Bool} (hq : q old = true → q new = true) :
    t.count q ≤ u.count q := by
  have := h.counts q
  cases ho : q old with
  | false => simp only [ho, Bool.false_eq_true, if_false] at this; omega
  | true => simp only [ho, hq ho, if_true] at this; omega

theorem lt_count (h : Replaced t u old new) {q : ρ → Bool} (hold : q old = false)
    (hnew : q new = true) : u.count q = t.count q + 1 := by
  have := h.counts q
  simp only [hold, hnew, if_true, Bool.false_eq_true, if_false] at this
  omega

theorem find?_new [DecidableEq κ] (h : Replaced t u old new) : u.find? (key old) = some new :=
  find?_eq_some_iff.mpr ⟨h.mem_new, h.same_key⟩

theorem find?_ne [DecidableEq κ] (h : Replaced t u old new) {k : κ} (hk : k ≠ key old) :
    u.find? k = t.find? k := by
  refine Option.ext fun r => ?_
  rw [find?_eq_some_iff, find?_eq_some_iff]
  constructor
  · rintro ⟨hr, rfl⟩
    rcases h.mem_cases hr with rfl | ⟨hr, _⟩
    · exact absurd h.same_key hk
    · exact ⟨hr, rfl⟩
  · rintro ⟨hr, rfl⟩
    exact ⟨h.mem_of_ne hr hk, rfl⟩

end Replaced

/-! ## Evolving -/

/-- Every row of the first table has a successor in the second. -/
def Evolves (follows : ρ → ρ → Prop) (t u : Table key) : Prop :=
  ∀ r ∈ t.rows, ∃ s ∈ u.rows, follows r s

namespace Evolves

variable {follows : ρ → ρ → Prop} {t u v : Table key}

theorem refl (hrefl : ∀ r, follows r r) : Evolves follows t t := fun r hr => ⟨r, hr, hrefl r⟩

theorem trans (htrans : ∀ r s o, follows r s → follows s o → follows r o)
    (htu : Evolves follows t u) (huv : Evolves follows u v) : Evolves follows t v := by
  intro r hr
  obtain ⟨s, hs, hrs⟩ := htu r hr
  obtain ⟨o, ho, hso⟩ := huv s hs
  exact ⟨o, ho, htrans r s o hrs hso⟩

theorem of_replaced (hrefl : ∀ r, follows r r) {old new : ρ} (h : Replaced t u old new)
    (hfollows : follows old new) : Evolves follows t u := by
  intro r hr
  rcases h.successor hr with ⟨rfl, hnew⟩ | ⟨_, hr⟩
  · exact ⟨new, hnew, hfollows⟩
  · exact ⟨r, hr, hrefl r⟩

theorem of_insert [DecidableEq κ] (hrefl : ∀ r, follows r r) {r : ρ}
    (h : t.insert? r = some u) : Evolves follows t u := fun s hs =>
  ⟨s, by rw [(insert?_some h).1]; exact List.mem_append_left _ hs, hrefl s⟩

end Evolves

end Table

end ProofAgent.Base
