import Mathlib.Data.List.Basic

/-! # Parts between separators

The parts of a list that lie between separators, without the empty ones. What treats a list
separator by separator treats it part by part. -/
namespace ProofAgent.Base

section
variable {α : Type} {p : α → Bool}

/-- The parts between separators that are not empty. -/
def partsBy (p : α → Bool) (xs : List α) : List (List α) :=
  (xs.splitOnP p).filter fun part => part ≠ []

/-- A list has no separator, or there is a first one. -/
theorem separated_induction {P : List α → Prop} (plain : ∀ xs, (∀ x ∈ xs, p x = false) → P xs)
    (separated : ∀ xs sep ys, (∀ x ∈ xs, p x = false) → p sep = true → P ys → P (xs ++ sep :: ys))
    (xs : List α) : P xs := by
  have hfirst : ∀ xs : List α, (∀ x ∈ xs, p x = false) ∨
      ∃ a sep b, xs = a ++ sep :: b ∧ (∀ x ∈ a, p x = false) ∧ p sep = true := by
    intro xs
    induction xs with
    | nil => exact .inl fun _ hx => absurd hx List.not_mem_nil
    | cons x xs ih =>
      cases hx : p x with
      | true => exact .inr ⟨[], x, xs, rfl, fun _ hx => absurd hx List.not_mem_nil, hx⟩
      | false =>
        rcases ih with hnone | ⟨a, sep, b, rfl, ha, hsep⟩
        · exact .inl (List.forall_mem_cons.mpr ⟨hx, hnone⟩)
        · exact .inr ⟨x :: a, sep, b, rfl, List.forall_mem_cons.mpr ⟨hx, ha⟩, hsep⟩
  have hsize : ∀ (size : Nat) (xs : List α), xs.length ≤ size → P xs := by
    intro size
    induction size with
    | zero =>
      intro xs hlength
      obtain rfl := List.eq_nil_of_length_eq_zero (Nat.le_zero.mp hlength)
      exact plain [] fun _ hx => absurd hx List.not_mem_nil
    | succ size ih =>
      intro xs hlength
      rcases hfirst xs with hnone | ⟨a, sep, b, rfl, ha, hsep⟩
      · exact plain xs hnone
      · rw [List.length_append, List.length_cons] at hlength
        exact separated a sep b ha hsep (ih b (by omega))
  exact hsize _ xs (Nat.le_refl _)

/-- The elements of a part are no separators. -/
theorem mem_splitOnP {xs part : List α} (h : part ∈ xs.splitOnP p) :
    ∀ x ∈ part, p x = false ∧ x ∈ xs := by
  induction xs using separated_induction (p := p) with
  | plain xs hxs =>
    rw [List.splitOnP_eq_singleton hxs] at h
    obtain rfl := List.mem_singleton.mp h
    exact fun x hx => ⟨hxs x hx, hx⟩
  | separated xs sep ys hxs hsep ih =>
    rw [List.splitOnP_append_cons_of_forall_mem hxs sep hsep] at h
    intro x hx
    rcases List.mem_cons.mp h with rfl | h
    · exact ⟨hxs x hx, List.mem_append_left _ hx⟩
    · obtain ⟨hfalse, hmem⟩ := ih h x hx
      exact ⟨hfalse, List.mem_append_right _ (List.mem_cons_of_mem _ hmem)⟩

theorem partsBy_append_cons {sep : α} (hsep : p sep = true) (xs ys : List α) :
    partsBy p (xs ++ sep :: ys) = partsBy p xs ++ partsBy p ys := by
  unfold partsBy
  rw [List.splitOnP_append_cons xs ys hsep, List.filter_append]

theorem partsBy_nil : partsBy p [] = [] := by
  unfold partsBy
  rw [List.splitOnP_nil]
  rfl

theorem partsBy_part {xs : List α} (hne : xs ≠ []) (h : ∀ x ∈ xs, p x = false) :
    partsBy p xs = [xs] := by
  unfold partsBy
  rw [List.splitOnP_eq_singleton h, List.filter_cons_of_pos (by simpa using hne), List.filter_nil]

theorem mem_partsBy {xs part : List α} (h : part ∈ partsBy p xs) :
    part ≠ [] ∧ ∀ x ∈ part, p x = false ∧ x ∈ xs :=
  ⟨of_decide_eq_true (List.mem_filter.mp h).2, mem_splitOnP (List.mem_filter.mp h).1⟩

/-- **Parts that are joined** are the parts of what they make. -/
theorem partsBy_intercalate {sep : α} (hsep : p sep = true) : ∀ {parts : List (List α)},
    (∀ part ∈ parts, part ≠ [] ∧ ∀ x ∈ part, p x = false) → partsBy p ([sep].intercalate parts) = parts
  | [], _ => partsBy_nil
  | [part], h => by
    obtain ⟨hne, hpart⟩ := h part List.mem_cons_self
    rw [List.intercalate_singleton, partsBy_part hne hpart]
  | part :: next :: parts, h => by
    obtain ⟨⟨hne, hpart⟩, hrest⟩ := List.forall_mem_cons.mp h
    rw [List.intercalate_cons_cons, List.append_assoc, List.singleton_append,
      partsBy_append_cons hsep, partsBy_part hne hpart, partsBy_intercalate hsep hrest]
    rfl

/-- **Part by part**: what keeps separators gives the parts that it gives of each part. -/
theorem partsBy_map {f : List α → List α} (hnil : partsBy p (f []) = [])
    (hf : ∀ xs sep ys, p sep = true → f (xs ++ sep :: ys) = f xs ++ sep :: f ys) (xs : List α) :
    partsBy p (f xs) = (partsBy p xs).flatMap fun part => partsBy p (f part) := by
  have hplain : ∀ xs : List α, (∀ x ∈ xs, p x = false) →
      partsBy p (f xs) = (partsBy p xs).flatMap fun part => partsBy p (f part) := by
    intro xs hxs
    by_cases hne : xs = []
    · rw [hne, hnil, partsBy_nil]
      rfl
    · rw [partsBy_part hne hxs, List.flatMap_singleton]
  induction xs using separated_induction (p := p) with
  | plain xs hxs => exact hplain xs hxs
  | separated xs sep ys hxs hsep ih =>
    rw [hf xs sep ys hsep, partsBy_append_cons hsep, partsBy_append_cons hsep, List.flatMap_append, ih,
      hplain xs hxs]

end

end ProofAgent.Base
