import Mathlib.Combinatorics.SimpleGraph.Connectivity.Connected
import Mathlib.Data.Set.Card
import ProofAgent.Base.UnionFind

/-! # Components of things that share keys

Things have two keys each, and two things are adjacent when they share one of them. Uniting the
keys of every thing leaves as many roots as the graph has components. -/
namespace ProofAgent.Base

variable {κ V : Type}

/-! ## Unions, one after the other -/

section
variable [DecidableEq κ]

namespace Parents

/-- `parents[root(child)] = root(key)` for some pairs of keys. -/
def unionAll (fuel : Nat) (pairs : List (κ × κ)) (parents : Parents κ) : Option (Parents κ) :=
  pairs.foldlM (fun parents pair => parents.union fuel pair.2 pair.1) parents

/-- `[root(key) for key in keys]`. -/
def roots (fuel : Nat) : List κ → Parents κ → Option (List κ)
  | [], _ => some []
  | key :: keys, parents => do
    let (parents, top) ← parents.root fuel key
    let rest ← roots fuel keys parents
    return top :: rest

end Parents

namespace Forest

variable {parents : Parents κ} {top : κ → κ} {rank : κ → Nat}

/-- What a union adds to the equality of roots. -/
theorem merge_self (top : κ → κ) (child key : κ) : merge top child key key = merge top child key child := by
  unfold merge
  rw [if_pos rfl]
  split
  · rfl
  · rfl

theorem merge_of_eq {child key x y : κ} (h : top x = top y) :
    merge top child key x = merge top child key y := by
  unfold merge
  rw [h]

/-- Two keys have the same root after a union when they had it before, or are connected by the
united keys. -/
theorem eqvGen_of_merge {r : κ → κ → Prop} {child key x y : κ}
    (hsound : ∀ x y, top x = top y → Relation.EqvGen r x y) (hnew : Relation.EqvGen r key child)
    (h : merge top child key x = merge top child key y) : Relation.EqvGen r x y := by
  unfold merge at h
  by_cases hx : top x = top child
  · have hxk : Relation.EqvGen r x key := .trans _ _ _ (hsound x child hx) (.symm _ _ hnew)
    by_cases hy : top y = top child
    · exact .trans _ _ _ hxk (.trans _ _ _ hnew (.symm _ _ (hsound y child hy)))
    · rw [if_pos hx, if_neg hy] at h
      exact .trans _ _ _ hxk (hsound key y h)
  · by_cases hy : top y = top child
    · rw [if_neg hx, if_pos hy] at h
      exact .trans _ _ _ (hsound x key h) (.trans _ _ _ hnew (.symm _ _ (hsound y child hy)))
    · rw [if_neg hx, if_neg hy] at h
      exact hsound x y h

/-- **Many unions** succeed with enough fuel; the roots are then equal as the pairs generate it. -/
theorem unionAll {fuel : Nat} {r : κ → κ → Prop} : ∀ {pairs : List (κ × κ)} {parents : Parents κ}
    {top : κ → κ} {rank : κ → Nat} {bound : Nat}, Forest parents top rank → (∀ k, rank k ≤ bound) →
    bound + pairs.length ≤ fuel → (∀ pair ∈ pairs, Relation.EqvGen r pair.1 pair.2) →
    (∀ x y, top x = top y → Relation.EqvGen r x y) →
    ∃ parents' top' rank', Parents.unionAll fuel pairs parents = some parents' ∧
      Forest parents' top' rank' ∧ (∀ k, rank' k ≤ bound + pairs.length) ∧
      (∀ x y, top' x = top' y → Relation.EqvGen r x y) ∧
      (∀ x y, top x = top y → top' x = top' y) ∧ ∀ pair ∈ pairs, top' pair.1 = top' pair.2
  | [], parents, top, rank, bound, h, hbound, _, _, hsound =>
    ⟨parents, top, rank, rfl, h, hbound, hsound, fun _ _ he => he, fun _ hp => (nomatch hp)⟩
  | (key, child) :: pairs, parents, top, rank, bound, h, hbound, hfuel, hpairs, hsound => by
    rw [List.length_cons] at hfuel
    obtain ⟨parents₁, rank₁, hunion, h₁, hbound₁⟩ := h.union hbound (show bound < fuel by omega) child key
    have hnew : Relation.EqvGen r key child := hpairs (key, child) List.mem_cons_self
    obtain ⟨parents₂, top₂, rank₂, hall, h₂, hbound₂, hsound₂, hkept, hlinked⟩ :=
      unionAll h₁ hbound₁ (show bound + 1 + pairs.length ≤ fuel by omega)
        (fun pair hp => hpairs pair (List.mem_cons_of_mem _ hp))
        (fun x y he => eqvGen_of_merge hsound hnew he)
    refine ⟨parents₂, top₂, rank₂, ?_, h₂, fun k => ?_, hsound₂,
      fun x y he => hkept x y (merge_of_eq he), fun pair hp => ?_⟩
    · show (parents.union fuel child key >>= fun parents => Parents.unionAll fuel pairs parents) = _
      rw [hunion]
      exact hall
    · rw [List.length_cons]
      exact (hbound₂ k).trans (by omega)
    · rcases List.mem_cons.mp hp with rfl | hp
      · exact hkept _ _ (merge_self top child key)
      · exact hlinked pair hp

theorem roots {fuel : Nat} : ∀ {keys : List κ} {parents : Parents κ}, Forest parents top rank →
    (∀ k, rank k < fuel) → Parents.roots fuel keys parents = some (keys.map top)
  | [], _, _, _ => rfl
  | key :: keys, parents, h, hfuel => by
    obtain ⟨parents', hroot, h', _⟩ := h.root (hfuel key)
    unfold Parents.roots
    rw [hroot, Option.bind_eq_bind, Option.bind_some]
    dsimp only
    rw [roots h' hfuel]
    rfl

end Forest

end

/-! ## The graph -/

/-- Things are adjacent when they share one of their two keys. -/
def sharing (a b : V → κ) : SimpleGraph V where
  Adj v w := v ≠ w ∧ (a v = a w ∨ b v = b w)
  symm := ⟨fun _ _ ⟨hne, h⟩ => ⟨hne.symm, h.imp Eq.symm Eq.symm⟩⟩
  loopless := ⟨fun _ h => h.1 rfl⟩

/-- The two keys of one thing. -/
def Linked (a b : V → κ) (x y : κ) : Prop := ∃ v, x = a v ∧ y = b v

section
variable {a b : V → κ} {v w : V}

theorem reachable_of_shared (h : a v = a w ∨ b v = b w) : (sharing a b).Reachable v w := by
  by_cases hne : v = w
  · rw [hne]
  · exact SimpleGraph.Adj.reachable ⟨hne, h⟩

/-- Keys that are connected by things are the same key or belong to connected things. -/
theorem touched_of_eqvGen (hab : ∀ v w, a v ≠ b w) {x y : κ} (h : Relation.EqvGen (Linked a b) x y) :
    x = y ∨ ∃ v w, (a v = x ∨ b v = x) ∧ (a w = y ∨ b w = y) ∧ (sharing a b).Reachable v w := by
  -- two things that touch one key share it
  have hshare : ∀ {u v : V} {x : κ}, (a u = x ∨ b u = x) → (a v = x ∨ b v = x) →
      (sharing a b).Reachable u v := by
    rintro u v x (hu | hu) (hv | hv)
    · exact reachable_of_shared (.inl (hu.trans hv.symm))
    · exact absurd (hu.trans hv.symm) (hab u v)
    · exact absurd (hv.trans hu.symm) (hab v u)
    · exact reachable_of_shared (.inr (hu.trans hv.symm))
  induction h with
  | rel x y h =>
    obtain ⟨v, rfl, rfl⟩ := h
    exact .inr ⟨v, v, .inl rfl, .inr rfl, .refl v⟩
  | refl x => exact .inl rfl
  | symm x y _ ih =>
    rcases ih with rfl | ⟨v, w, hv, hw, hvw⟩
    · exact .inl rfl
    · exact .inr ⟨w, v, hw, hv, hvw.symm⟩
  | trans x y z _ _ ih ih' =>
    rcases ih with rfl | ⟨v, w, hv, hw, hvw⟩
    · exact ih'
    · rcases ih' with rfl | ⟨v', w', hv', hw', hvw'⟩
      · exact .inr ⟨v, w, hv, hw, hvw⟩
      · exact .inr ⟨v, w', hv, hw', hvw.trans ((hshare hw hv').trans hvw')⟩

/-- Things are connected exactly when their first keys have the same root. -/
theorem reachable_iff (hab : ∀ v w, a v ≠ b w) {top : κ → κ} (hlinked : ∀ v, top (a v) = top (b v))
    (hsound : ∀ x y, top x = top y → Relation.EqvGen (Linked a b) x y) :
    (sharing a b).Reachable v w ↔ top (a v) = top (a w) := by
  constructor
  · rintro ⟨walk⟩
    induction walk with
    | nil => rfl
    | cons hadj _ ih =>
      rw [← ih]
      rcases hadj.2 with h | h
      · rw [h]
      · rw [hlinked, h, ← hlinked]
  · intro h
    rcases touched_of_eqvGen hab (hsound _ _ h) with h | ⟨v', w', hv, hw, hvw⟩
    · exact reachable_of_shared (.inl h)
    · have hv : (sharing a b).Reachable v v' := by
        rcases hv with hv | hv
        · exact reachable_of_shared (.inl hv.symm)
        · exact absurd hv.symm (hab v v')
      have hw : (sharing a b).Reachable w' w := by
        rcases hw with hw | hw
        · exact reachable_of_shared (.inl hw)
        · exact absurd hw.symm (hab w w')
      exact hv.trans (hvw.trans hw)

end

/-- A graph has as many components as a labelling that tells them apart has labels. -/
theorem card_components {G : SimpleGraph V} {f : V → κ}
    (h : ∀ v w, G.Reachable v w ↔ f v = f w) : Nat.card G.ConnectedComponent = (Set.range f).ncard := by
  let label : G.ConnectedComponent → Set.range f :=
    SimpleGraph.ConnectedComponent.lift (fun v => ⟨f v, v, rfl⟩) fun v w walk _ =>
      Subtype.ext ((h v w).mp walk.reachable)
  have hlabel : Function.Bijective label := by
    constructor
    · intro c d
      refine SimpleGraph.ConnectedComponent.ind₂ (fun v w he => ?_) c d
      exact SimpleGraph.ConnectedComponent.eq.mpr ((h v w).mpr (congrArg Subtype.val he))
    · rintro ⟨_, v, rfl⟩
      exact ⟨G.connectedComponentMk v, rfl⟩
  rw [Nat.card_eq_of_bijective label hlabel, Nat.card_coe_set_eq]

end ProofAgent.Base
