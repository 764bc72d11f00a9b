import Mathlib.Combinatorics.SimpleGraph.Connectivity.Connected
import Mathlib.Data.Set.Card

/-! # Union-find with path halving

A dictionary of parents, in which a key that is its own parent is a root. A search shortens
the path that it walks, and a union hangs one root under another one. Which keys have the same
root is the equivalence that the unions generate. -/
namespace ProofAgent.Base

variable {κ : Type} [DecidableEq κ]

/-- A dictionary from keys to keys. -/
abbrev Parents (κ : Type) := κ → Option κ

namespace Parents

/-- `parents.setdefault(key, key)`. -/
def setDefault (parents : Parents κ) (key : κ) : Parents κ :=
  if (parents key).isSome then parents else Function.update parents key (some key)

/-- `while parents[key] != key: parents[key] = parents[parents[key]]; key = parents[key]`. -/
def climb : Nat → Parents κ → κ → Option (Parents κ × κ)
  | 0, _, _ => none
  | fuel + 1, parents, key => do
    let parent ← parents key
    if parent = key then return (parents, key)
    let grandparent ← parents parent
    climb fuel (Function.update parents key (some grandparent)) grandparent

/-- The root of a key, which is added when it is new. -/
def root (fuel : Nat) (parents : Parents κ) (key : κ) : Option (Parents κ × κ) :=
  climb fuel (parents.setDefault key) key

/-- `parents[root(child)] = root(key)`; the right side comes first. -/
def union (fuel : Nat) (parents : Parents κ) (child key : κ) : Option (Parents κ) := do
  let (parents, top) ← parents.root fuel key
  let (parents, bottom) ← parents.root fuel child
  return Function.update parents bottom (some top)

end Parents

/-! ## Forests -/

/-- The dictionary is a forest: `top` is the root of every key, and `rank` falls along every path
to it, down to zero. -/
structure Forest (parents : Parents κ) (top : κ → κ) (rank : κ → Nat) : Prop where
  link : ∀ k p, parents k = some p →
    (p = k ∧ top k = k ∧ rank k = 0) ∨ (rank p < rank k ∧ top p = top k ∧ top k ≠ k)
  closed : ∀ k p, parents k = some p → (parents p).isSome = true
  outside : ∀ k, parents k = none → top k = k ∧ rank k = 0

namespace Forest

variable {parents parents' : Parents κ} {top : κ → κ} {rank : κ → Nat} {k p : κ}

theorem empty : Forest (fun _ : κ => none) id (fun _ => 0) where
  link := fun _ _ h => (nomatch h)
  closed := fun _ _ h => (nomatch h)
  outside := fun _ _ => ⟨rfl, rfl⟩

theorem setDefault (h : Forest parents top rank) (key : κ) :
    Forest (parents.setDefault key) top rank ∧ ((parents.setDefault key) key).isSome = true ∧
      ∀ k, (parents k).isSome = true → ((parents.setDefault key) k).isSome = true := by
  unfold Parents.setDefault
  by_cases hkey : (parents key).isSome = true
  · rw [if_pos hkey]
    exact ⟨h, hkey, fun _ hk => hk⟩
  · rw [if_neg hkey]
    have hnone : parents key = none := by simpa using hkey
    refine ⟨⟨fun k p hp => ?_, fun k p hp => ?_, fun k hk => ?_⟩, by simp, fun k hk => ?_⟩
    · by_cases hk : k = key
      · subst hk
        rw [Function.update_self] at hp
        exact .inl ⟨(Option.some.inj hp).symm, h.outside k hnone⟩
      · rw [Function.update_of_ne hk] at hp
        exact h.link k p hp
    · by_cases hpk : p = key
      · rw [hpk, Function.update_self]
        rfl
      · rw [Function.update_of_ne hpk]
        by_cases hk : k = key
        · subst hk
          rw [Function.update_self] at hp
          exact absurd (Option.some.inj hp).symm hpk
        · rw [Function.update_of_ne hk] at hp
          exact h.closed k p hp
    · by_cases hkk : k = key
      · subst hkk
        rw [Function.update_self] at hk
        cases hk
      · rw [Function.update_of_ne hkk] at hk
        exact h.outside k hk
    · by_cases hkk : k = key
      · rw [hkk, Function.update_self]
        rfl
      · rw [Function.update_of_ne hkk]
        exact hk

/-- Hanging a key under its grandparent. -/
theorem halve (h : Forest parents top rank) {g : κ} (hp : parents k = some p) (hne : p ≠ k)
    (hg : parents p = some g) :
    Forest (Function.update parents k (some g)) top rank ∧ rank g < rank k ∧ top g = top k := by
  obtain ⟨hrank, htop, hnot⟩ := (h.link k p hp).resolve_left fun hroot => hne hroot.1
  have hbelow : rank g < rank k ∧ top g = top k := by
    rcases h.link p g hg with ⟨rfl, _⟩ | ⟨hrank', htop', _⟩
    · exact ⟨hrank, htop⟩
    · exact ⟨hrank'.trans hrank, htop'.trans htop⟩
  refine ⟨⟨fun j q hq => ?_, fun j q hq => ?_, fun j hj => ?_⟩, hbelow⟩
  · by_cases hj : j = k
    · subst hj
      rw [Function.update_self] at hq
      obtain rfl := Option.some.inj hq
      exact .inr ⟨hbelow.1, hbelow.2, hnot⟩
    · rw [Function.update_of_ne hj] at hq
      exact h.link j q hq
  · by_cases hqk : q = k
    · rw [hqk, Function.update_self]
      rfl
    · rw [Function.update_of_ne hqk]
      by_cases hj : j = k
      · subst hj
        rw [Function.update_self] at hq
        obtain rfl := Option.some.inj hq
        exact h.closed p _ hg
      · rw [Function.update_of_ne hj] at hq
        exact h.closed j q hq
  · by_cases hjk : j = k
    · subst hjk
      rw [Function.update_self] at hj
      cases hj
    · rw [Function.update_of_ne hjk] at hj
      exact h.outside j hj

/-- **The search ends** at the root of the key, within as many steps as its rank, and leaves the
roots as they are. -/
theorem climb : ∀ {fuel : Nat} {parents : Parents κ} {key : κ}, Forest parents top rank →
    (parents key).isSome = true → rank key < fuel →
    ∃ parents', Parents.climb fuel parents key = some (parents', top key) ∧
      Forest parents' top rank ∧ ∀ k, (parents k).isSome = true → (parents' k).isSome = true
  | fuel + 1, parents, key, h, hkey, hfuel => by
    obtain ⟨p, hp⟩ := Option.isSome_iff_exists.mp hkey
    unfold Parents.climb
    rw [hp, Option.bind_eq_bind, Option.bind_some]
    by_cases hroot : p = key
    · rw [if_pos hroot]
      rcases h.link key p hp with ⟨_, htop, _⟩ | ⟨hrank, _⟩
      · exact ⟨parents, by rw [htop]; rfl, h, fun _ hk => hk⟩
      · exact absurd hrank (by rw [hroot]; exact lt_irrefl _)
    · obtain ⟨g, hg⟩ := Option.isSome_iff_exists.mp (h.closed key p hp)
      obtain ⟨hforest, hrank, htop⟩ := h.halve hp hroot hg
      have hsome : ∀ k, (parents k).isSome = true →
          (Function.update parents key (some g) k).isSome = true := by
        intro k hk
        by_cases hkk : k = key
        · rw [hkk, Function.update_self]
          rfl
        · rw [Function.update_of_ne hkk]
          exact hk
      obtain ⟨parents', hclimb, hforest', hkept⟩ := climb hforest
        (hsome g (h.closed p g hg)) (by omega : rank g < fuel)
      rw [if_neg hroot, hg, Option.bind_some, hclimb, htop]
      exact ⟨parents', rfl, hforest', fun k hk => hkept k (hsome k hk)⟩

/-- The root of a key. -/
theorem root (h : Forest parents top rank) {fuel : Nat} {key : κ} (hfuel : rank key < fuel) :
    ∃ parents', parents.root fuel key = some (parents', top key) ∧ Forest parents' top rank ∧
      (parents' key).isSome = true ∧ ∀ k, (parents k).isSome = true → (parents' k).isSome = true := by
  obtain ⟨hforest, hkey, hkept⟩ := h.setDefault key
  obtain ⟨parents', hclimb, hforest', hkept'⟩ := hforest.climb hkey hfuel
  exact ⟨parents', hclimb, hforest', hkept' key hkey, fun k hk => hkept' k (hkept k hk)⟩

/-- A root is its own parent. -/
theorem parent_top (h : Forest parents top rank) (hk : (parents k).isSome = true) :
    parents (top k) = some (top k) ∧ top (top k) = top k := by
  induction hn : rank k using Nat.strong_induction_on generalizing k with
  | _ n ih =>
    obtain ⟨p, hp⟩ := Option.isSome_iff_exists.mp hk
    rcases h.link k p hp with ⟨rfl, htop, _⟩ | ⟨hrank, htop, _⟩
    · rw [htop, htop]
      exact ⟨hp, rfl⟩
    · rw [← htop]
      exact ih (rank p) (hn ▸ hrank) (h.closed k p hp) rfl

/-- The roots after a union. -/
def merge (top : κ → κ) (child key : κ) (k : κ) : κ := if top k = top child then top key else top k

/-- A root is hung under another key that is a root. -/
theorem hang (h : Forest parents top rank) {child key : κ} (hchild : (parents child).isSome = true)
    (hkey : (parents key).isSome = true) :
    ∃ rank', Forest (Function.update parents (top child) (some (top key))) (merge top child key) rank' ∧
      ∀ k, rank' k ≤ rank k + 1 := by
  obtain ⟨hb, htb⟩ := h.parent_top hchild
  obtain ⟨ht, htt⟩ := h.parent_top hkey
  by_cases hsame : top key = top child
  · have hparents : Function.update parents (top child) (some (top key)) = parents := by
      rw [hsame, ← hb, Function.update_eq_self]
    have htop : merge top child key = top := by
      funext k
      unfold merge
      split
      · rename_i hk
        rw [hk, hsame]
      · rfl
    exact ⟨rank, by rw [hparents, htop]; exact h, fun k => Nat.le_succ _⟩
  · refine ⟨fun k => if top k = top child then rank k + 1 else rank k,
      ⟨fun k p hp => ?_, fun k p hp => ?_, fun k hk => ?_⟩, fun k => ?_⟩
    · unfold merge
      by_cases hk : k = top child
      · rw [hk, Function.update_self] at hp
        obtain rfl := Option.some.inj hp
        rcases h.link _ _ ht with ⟨_, _, hzero⟩ | ⟨_, _, hnot⟩
        · rw [hk, htb, htt, if_pos rfl, if_neg hsame, if_pos rfl, if_neg hsame, hzero]
          exact .inr ⟨Nat.succ_pos _, rfl, hsame⟩
        · exact absurd htt hnot
      · rw [Function.update_of_ne hk] at hp
        rcases h.link k p hp with ⟨rfl, htop, hzero⟩ | ⟨hrank, htop, hnot⟩
        · rw [htop, if_neg hk, if_neg hk]
          exact .inl ⟨rfl, rfl, hzero⟩
        · right
          rw [htop]
          by_cases hin : top k = top child
          · rw [if_pos hin, if_pos hin, if_pos hin]
            refine ⟨by omega, rfl, fun he => hsame ?_⟩
            rw [← hin, ← he, htt]
          · rw [if_neg hin, if_neg hin, if_neg hin]
            exact ⟨hrank, rfl, hnot⟩
    · by_cases hpc : p = top child
      · rw [hpc, Function.update_self]
        rfl
      · rw [Function.update_of_ne hpc]
        by_cases hk : k = top child
        · rw [hk, Function.update_self] at hp
          rw [← Option.some.inj hp, ht]
          rfl
        · rw [Function.update_of_ne hk] at hp
          exact h.closed k p hp
    · by_cases hkc : k = top child
      · rw [hkc, Function.update_self] at hk
        cases hk
      · rw [Function.update_of_ne hkc] at hk
        obtain ⟨htop, hzero⟩ := h.outside k hk
        unfold merge
        rw [htop, if_neg hkc, if_neg hkc]
        exact ⟨rfl, hzero⟩
    · dsimp only
      split
      · exact le_rfl
      · exact Nat.le_succ _

/-- **A union** succeeds with enough fuel, and merges the two roots. -/
theorem union (h : Forest parents top rank) {fuel bound : Nat} (hbound : ∀ k, rank k ≤ bound)
    (hfuel : bound < fuel) (child key : κ) :
    ∃ parents' rank', parents.union fuel child key = some parents' ∧
      Forest parents' (merge top child key) rank' ∧ ∀ k, rank' k ≤ bound + 1 := by
  obtain ⟨parents₁, hroot, h₁, hkey, _⟩ := h.root ((hbound key).trans_lt hfuel)
  obtain ⟨parents₂, hroot', h₂, hchild, hkept⟩ := h₁.root ((hbound child).trans_lt hfuel)
  obtain ⟨rank', h₃, hrank⟩ := h₂.hang hchild (hkept key hkey)
  refine ⟨_, rank', ?_, h₃, fun k => (hrank k).trans (Nat.succ_le_succ (hbound k))⟩
  unfold Parents.union
  rw [hroot, Option.bind_eq_bind, Option.bind_some]
  dsimp only
  rw [hroot']
  rfl

end Forest

end ProofAgent.Base
