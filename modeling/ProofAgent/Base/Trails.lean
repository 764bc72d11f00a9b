import Mathlib.Data.List.Induction

/-! # Runs that show events

A move leads from one phase to the next and shows a list of events; a trail is a
sequence of moves. An invariant of a trail relates its phase to everything shown so
far. Events are justified when each one follows from those before it. -/
namespace ProofAgent.Base

variable {φ τ : Type}

/-- A sequence of moves, with the events that they show. -/
inductive Trail (move : φ → List τ → φ → Prop) (p : φ) : List τ → φ → Prop
  | refl : Trail move p [] p
  | step {q r : φ} {x y : List τ} : Trail move p x q → move q y r → Trail move p (x ++ y) r

namespace Trail

variable {move : φ → List τ → φ → Prop} {p q r : φ} {x y : List τ}

theorem one (h : move p x q) : Trail move p x q := .step .refl h

theorem trans (h : Trail move p x q) (h' : Trail move q y r) : Trail move p (x ++ y) r := by
  induction h' with
  | refl =>
    rw [List.append_nil]
    exact h
  | step _ hmove ih =>
    rw [← List.append_assoc]
    exact ih.step hmove

/-- A move that shows nothing, at the end. -/
theorem quiet (h : Trail move p x q) (hmove : move q [] r) : Trail move p x r := by
  have htrail := h.step hmove
  rw [List.append_nil] at htrail
  exact htrail

/-- A move before a trail. -/
theorem after (hmove : move p x q) (h : Trail move q y r) : Trail move p (x ++ y) r :=
  (one hmove).trans h

/-- The moves of one kind are moves of another. -/
theorem mono {move' : φ → List τ → φ → Prop} (h : Trail move p x q)
    (hmove : ∀ p x q, move p x q → move' p x q) : Trail move' p x q := by
  induction h with
  | refl => exact .refl
  | step _ hm ih => exact ih.step (hmove _ _ _ hm)

/-- **The invariant of a trail**, over what was shown so far and the phase. -/
theorem invariant {I : List τ → φ → Prop}
    (hmove : ∀ shown p y q, I shown p → move p y q → I (shown ++ y) q) (h : Trail move p x q) :
    ∀ {shown}, I shown p → I (shown ++ x) q := by
  induction h with
  | refl =>
    intro shown hp
    rw [List.append_nil]
    exact hp
  | step _ hm ih =>
    intro shown hp
    rw [← List.append_assoc]
    exact hmove _ _ _ _ (ih hp) hm

end Trail

/-! ## Justification -/

/-- Every event follows from the ones before it. -/
def Justified (J : List τ → τ → Prop) (events : List τ) : Prop :=
  ∀ before e after, events = before ++ e :: after → J before e

namespace Justified

variable {J J' : List τ → τ → Prop} {events : List τ} {e : τ}

theorem nil : Justified J [] := fun before e after h => by simp at h

/-- One more event. -/
theorem concat (h : Justified J events) (he : J events e) : Justified J (events ++ [e]) := by
  intro before e' after hsplit
  rcases List.eq_nil_or_concat after with rfl | ⟨after', last, rfl⟩
  · obtain ⟨rfl, hlast⟩ := List.append_inj' hsplit rfl
    cases hlast
    exact he
  · rw [List.concat_eq_append, ← List.cons_append, ← List.append_assoc] at hsplit
    obtain ⟨hinit, _⟩ := List.append_inj' hsplit rfl
    exact h before e' after' hinit

/-- What was justified before more events were shown. -/
theorem before {more : List τ} (h : Justified J (events ++ more)) : Justified J events := by
  intro before e after hsplit
  refine h before e (after ++ more) ?_
  rw [hsplit, List.append_assoc, List.cons_append]

theorem last (h : Justified J (events ++ [e])) : J events e := h events e [] rfl

/-- One justified list after another, where more before does no harm. -/
theorem append {more : List τ} (h : Justified J events) (hmore : Justified J more)
    (hmono : ∀ earlier before e, J before e → J (earlier ++ before) e) :
    Justified J (events ++ more) := by
  intro before e after hsplit
  rcases List.append_eq_append_iff.mp hsplit with ⟨mid, rfl, hrest⟩ | ⟨mid, hevents, hrest⟩
  · exact hmono events mid e (hmore mid e after hrest)
  · cases mid with
    | nil =>
      rw [List.append_nil] at hevents
      have h := hmono events [] e (hmore [] e after hrest.symm)
      rwa [List.append_nil, hevents] at h
    | cons a mid =>
      obtain ⟨rfl, rfl⟩ := List.cons.inj hrest
      exact h before e mid hevents

/-- Events of a kind that does not follow from one of its own. -/
theorem unique {p : τ → Prop} (h : Justified J events)
    (hfirst : ∀ before e, J before e → p e → ∀ e' ∈ before, ¬ p e') {a b : τ} (ha : a ∈ events)
    (hb : b ∈ events) (hpa : p a) (hpb : p b) : a = b := by
  obtain ⟨before, after, rfl⟩ := List.append_of_mem ha
  rcases List.mem_append.mp hb with hb | hb
  · exact absurd hpb (hfirst before a (h before a after rfl) hpa b hb)
  rcases List.mem_cons.mp hb with rfl | hb
  · rfl
  · obtain ⟨between, rest, rfl⟩ := List.append_of_mem hb
    have hlater := h (before ++ a :: between) b rest (by simp)
    exact absurd hpa (hfirst _ b hlater hpb a (by simp))

theorem countP_le_one {p : τ → Bool} (h : Justified J events)
    (hfirst : ∀ before e, J before e → p e = true → ∀ e' ∈ before, p e' = false) :
    events.countP p ≤ 1 := by
  induction events using List.reverseRecOn with
  | nil => exact Nat.zero_le 1
  | append_singleton events e ih =>
    rw [List.countP_append, List.countP_singleton]
    by_cases he : p e = true
    · have hnone : events.countP p = 0 := by
        rw [List.countP_eq_zero]
        intro e' he'
        rw [hfirst events e h.last he e' he']
        exact Bool.false_ne_true
      have hone : events.countP p + (if p e = true then 1 else 0) = 1 := by
        rw [hnone, if_pos he]
      exact Nat.le_of_eq hone
    · rw [if_neg he]
      exact ih h.before

end Justified

end ProofAgent.Base
