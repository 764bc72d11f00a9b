import Mathlib.Data.List.Nodup
import Mathlib.Order.Lattice

/-! # Serving the least recently served

A server picks one of the waiting clients, one that was never served if there
is one, and otherwise one whose last service is the oldest. A log holds the
services with their times, the latest first. Between two services of one client
every client that waits is served, so that a waiting client sees each of the
others at most once. -/
namespace ProofAgent.Base

variable {τ κ : Type} [DecidableEq κ]

/-- When the client was served last. -/
def lastServed : List (τ × κ) → κ → Option τ
  | [], _ => none
  | (t, d) :: log, c => if d = c then some t else lastServed log c

theorem mem_of_lastServed {log : List (τ × κ)} {c : κ} {t : τ} (h : lastServed log c = some t) :
    (t, c) ∈ log := by
  induction log with
  | nil => cases h
  | cons entry log ih =>
    obtain ⟨s, d⟩ := entry
    simp only [lastServed] at h
    by_cases hd : d = c
    · rw [if_pos hd] at h
      cases h
      simp [hd]
    · rw [if_neg hd] at h
      exact List.mem_cons_of_mem _ (ih h)

variable [LinearOrder τ]

/-- Whether a client last served at one time may come before a client last served at
another; never served comes first. -/
def mayPrecede : Option τ → Option τ → Prop
  | none, _ => True
  | some _, none => False
  | some s, some t => s ≤ t

/-- The times of a log, the latest first, strictly decrease. -/
def Timed (log : List (τ × κ)) : Prop := log.Pairwise fun s t => t.1 < s.1

theorem le_lastServed {log : List (τ × κ)} (htimed : Timed log) {c : κ} {t : τ}
    (h : (t, c) ∈ log) : ∃ s, lastServed log c = some s ∧ t ≤ s := by
  induction log with
  | nil => cases h
  | cons entry log ih =>
    obtain ⟨s, d⟩ := entry
    rw [Timed, List.pairwise_cons] at htimed
    simp only [lastServed]
    by_cases hd : d = c
    · refine ⟨s, by simp [hd], ?_⟩
      rcases List.mem_cons.mp h with he | h
      · cases he
        exact le_refl _
      · exact le_of_lt (htimed.1 _ h)
    · rw [if_neg hd]
      rcases List.mem_cons.mp h with he | h
      · cases he
        exact absurd rfl hd
      · exact ih htimed.2 h

/-- **Nobody waiting is overtaken twice.** If `a` was served at `t` and may now come before
`b` again, then `b` was served since. -/
theorem served_between {newer older : List (τ × κ)} {a b : κ} {t : τ} (hne : b ≠ a)
    (htimed : Timed (newer ++ (t, a) :: older))
    (h : mayPrecede (lastServed (newer ++ (t, a) :: older) a)
      (lastServed (newer ++ (t, a) :: older) b)) : ∃ s, (s, b) ∈ newer := by
  obtain ⟨s, hs, hts⟩ := le_lastServed htimed (c := a) (t := t) (by simp)
  rw [hs] at h
  cases hb : lastServed (newer ++ (t, a) :: older) b with
  | none => rw [hb] at h; exact h.elim
  | some u =>
    rw [hb] at h
    have hu := mem_of_lastServed hb
    rcases List.mem_append.mp hu with hu | hu
    · exact ⟨u, hu⟩
    · rcases List.mem_cons.mp hu with he | hu
      · cases he
        exact absurd rfl hne
      · -- an older service of `b` is before `t`, but `s ≤ u`
        have hlt := (List.pairwise_cons.mp (List.pairwise_append.mp htimed).2.1).1 _ hu
        exact absurd (lt_of_lt_of_le hlt (hts.trans h)) (lt_irrefl _)

/-- Every service of `newer` went to a client that might come before `b`. -/
def FairTo (b : κ) (older : List (τ × κ)) : List (τ × κ) → Prop
  | [] => True
  | (_, a) :: newer =>
    mayPrecede (lastServed (newer ++ older) a) (lastServed (newer ++ older) b) ∧
      FairTo b older newer

/-- **A waiting client waits for each other client at most once.** -/
theorem served_once {b : κ} {older : List (τ × κ)} : ∀ {newer : List (τ × κ)},
    Timed (newer ++ older) → FairTo b older newer → b ∉ newer.map Prod.snd →
      (newer.map Prod.snd).Nodup
  | [], _, _, _ => List.nodup_nil
  | (t, a) :: newer, htimed, hfair, hnot => by
    rw [List.map_cons, List.mem_cons, not_or] at hnot
    rw [List.map_cons, List.nodup_cons]
    have htimed' : Timed (newer ++ older) := (List.pairwise_cons.mp htimed).2
    refine ⟨fun ha => ?_, served_once htimed' hfair.2 hnot.2⟩
    obtain ⟨⟨s, a'⟩, hmem, ha'⟩ := List.mem_map.mp ha
    cases ha'
    obtain ⟨recent, past, rfl⟩ := List.append_of_mem hmem
    have hfair := hfair.1
    rw [List.append_assoc, List.cons_append] at htimed' hfair
    obtain ⟨u, hu⟩ := served_between hnot.1 htimed' hfair
    exact hnot.2 (List.mem_map.mpr ⟨(u, b), List.mem_append_left _ hu, rfl⟩)

end ProofAgent.Base
