import Mathlib.Data.List.Nodup
import Mathlib.Algebra.BigOperators.Group.List.Basic
import Mathlib.Tactic.Ring

/-! # Accounts with reservations

An account is charged in two ways: an amount is held under a key before it is
known what will be spent, and a held amount is settled by the charge that came
out. The balance counts both, whatever the order in which holds are settled. -/
namespace ProofAgent.Base

variable {κ : Type}

/-- What was brought forward, what was charged since, and what is held. -/
structure Account (κ : Type) where
  opening : Int
  charges : List Int
  holds : List (κ × Int)
  distinct : (holds.map Prod.fst).Nodup

namespace Account

def balance (a : Account κ) : Int := a.opening + a.charges.sum + (a.holds.map Prod.snd).sum

/-- An account with nothing charged and nothing held. -/
def start (opening : Int) : Account κ := ⟨opening, [], [], List.nodup_nil⟩

/-- Hold an amount under a new key. -/
def hold (a : Account κ) (k : κ) (amount : Int) (h : k ∉ a.holds.map Prod.fst) : Account κ where
  opening := a.opening
  charges := a.charges
  holds := a.holds ++ [(k, amount)]
  distinct := by
    rw [List.map_append, List.nodup_append]
    refine ⟨a.distinct, List.nodup_singleton _, ?_⟩
    intro x hx y hy hxy
    rw [List.map_singleton, List.mem_singleton] at hy
    rw [hxy, hy] at hx
    exact h hx

/-- Release the hold under a key and charge what it came to. -/
def settle [DecidableEq κ] (a : Account κ) (k : κ) (charge : Int) : Account κ where
  opening := a.opening
  charges := a.charges ++ [charge]
  holds := a.holds.filter fun p => p.1 ≠ k
  distinct := a.distinct.sublist (List.filter_sublist.map _)

@[simp] theorem balance_start (opening : Int) : (start opening : Account κ).balance = opening := by
  simp [balance, start]

theorem balance_hold (a : Account κ) (k : κ) (amount : Int) (h : k ∉ a.holds.map Prod.fst) :
    (a.hold k amount h).balance = a.balance + amount := by
  simp only [balance, hold, List.map_append, List.map_cons, List.map_nil, List.sum_append,
    List.sum_cons, List.sum_nil]
  ring

/-- Taking out the one hold under a key takes its amount off the sum. -/
theorem sum_release [DecidableEq κ] : ∀ {holds : List (κ × Int)}, (holds.map Prod.fst).Nodup → ∀ {k : κ} {n : Int},
    (k, n) ∈ holds →
    ((holds.filter fun p => p.1 ≠ k).map Prod.snd).sum + n = (holds.map Prod.snd).sum
  | [], _, _, _, h => by cases h
  | (k', n') :: rest, hnodup, k, n, h => by
    rw [List.map_cons, List.nodup_cons] at hnodup
    by_cases hk : k' = k
    · subst hk
      have hout : rest.filter (fun p => decide (p.1 ≠ k')) = rest := by
        refine List.filter_eq_self.mpr fun p hp => decide_eq_true ?_
        intro he
        have hkey := List.mem_map_of_mem (f := Prod.fst) hp
        rw [he] at hkey
        exact hnodup.1 hkey
      obtain rfl : n = n' := by
        rcases List.mem_cons.mp h with h | h
        · exact (Prod.mk.inj h).2
        · exact absurd (List.mem_map_of_mem h) hnodup.1
      rw [List.filter_cons_of_neg (by simp), hout, List.map_cons, List.sum_cons]
      ring
    · have hin : (k, n) ∈ rest := by
        rcases List.mem_cons.mp h with h | h
        · exact absurd (Prod.mk.inj h).1.symm hk
        · exact h
      have ih := sum_release hnodup.2 hin
      rw [List.filter_cons_of_pos (by simpa using hk), List.map_cons, List.map_cons, List.sum_cons,
        List.sum_cons, ← ih]
      ring

/-- **Settling** replaces the hold by the charge. -/
theorem balance_settle [DecidableEq κ] (a : Account κ) {k : κ} {n : Int} (h : (k, n) ∈ a.holds) (charge : Int) :
    (a.settle k charge).balance = a.balance + charge - n := by
  have hsum := sum_release a.distinct h
  simp only [balance, settle, List.sum_append, List.sum_cons, List.sum_nil]
  rw [← hsum]
  ring

end Account

end ProofAgent.Base
