import Mathlib.Data.List.Count
import Mathlib.Logic.Function.Basic

/-! # Races for a version

Writers read a version and write the next one, if it is still the version that they
have read. Every writer of a schedule is served exactly when no two of them overlap:
one that reads while another has read and not written yet costs one of the two its
write. -/
namespace ProofAgent.Base

/-- Where a writer is. -/
inductive Phase where
  | idle
  | reading (version : Nat)
  | served
  | conflict
  deriving DecidableEq

/-- A version, and the writers that race for it. -/
structure Race where
  version : Nat
  phases : Nat → Phase

namespace Race

/-- A writer reads the version, or writes the one after the version that it has read. -/
def step (r : Race) (i : Nat) : Race :=
  match r.phases i with
  | .idle => { r with phases := Function.update r.phases i (.reading r.version) }
  | .reading version =>
    if version = r.version then ⟨r.version + 1, Function.update r.phases i .served⟩
    else { r with phases := Function.update r.phases i .conflict }
  | .served | .conflict => r

def run (r : Race) (schedule : List Nat) : Race := schedule.foldl step r

/-- Nothing comes between the two steps of a writer. -/
def NoOverlap (schedule : List Nat) : Prop :=
  ∀ before mid after i, schedule = before ++ i :: (mid ++ i :: after) → mid = []

variable {r : Race} {i j : Nat}

/-! ## One step -/

theorem step_idle (h : r.phases i = .idle) :
    r.step i = { r with phases := Function.update r.phases i (.reading r.version) } := by
  unfold step
  rw [h]

theorem step_write (h : r.phases i = .reading r.version) :
    r.step i = ⟨r.version + 1, Function.update r.phases i .served⟩ := by
  unfold step
  rw [h]
  exact if_pos rfl

theorem step_late {version : Nat} (h : r.phases i = .reading version) (hlate : version ≠ r.version) :
    r.step i = { r with phases := Function.update r.phases i .conflict } := by
  unfold step
  rw [h]
  exact if_neg hlate

theorem step_ended (h : r.phases i = .served ∨ r.phases i = .conflict) : r.step i = r := by
  unfold step
  rcases h with h | h
  · rw [h]
  · rw [h]

theorem ended_of_reading {version : Nat} (h : r.phases i = .reading version) :
    (r.step i).phases i = .served ∨ (r.step i).phases i = .conflict := by
  by_cases hversion : version = r.version
  · subst hversion
    rw [step_write h]
    exact .inl (Function.update_self _ _ _)
  · rw [step_late h hversion]
    exact .inr (Function.update_self _ _ _)

/-- A step changes the phase of its writer. -/
theorem step_other (h : j ≠ i) : (r.step i).phases j = r.phases j := by
  unfold step
  split
  · exact Function.update_of_ne h _ _
  · split
    · exact Function.update_of_ne h _ _
    · exact Function.update_of_ne h _ _
  · rfl
  · rfl

theorem version_le_step : r.version ≤ (r.step i).version := by
  unfold step
  split
  · exact Nat.le_refl _
  · split
    · exact Nat.le_succ _
    · exact Nat.le_refl _
  · exact Nat.le_refl _
  · exact Nat.le_refl _

theorem run_other : ∀ {schedule : List Nat} {r : Race}, j ∉ schedule →
    (r.run schedule).phases j = r.phases j
  | [], _, _ => rfl
  | i :: schedule, r, h => by
    rw [List.mem_cons, not_or] at h
    exact (run_other (r := r.step i) h.2).trans (step_other h.1)

theorem run_append (first rest : List Nat) : r.run (first ++ rest) = (r.run first).run rest :=
  List.foldl_append

/-! ## Overlapping -/

/-- A writer that will not be served. -/
def Stale (i : Nat) (r : Race) : Prop :=
  (∃ version < r.version, r.phases i = .reading version) ∨ r.phases i = .conflict

/-- Two writers of which one will not be served. -/
def Clash (i j : Nat) (r : Race) : Prop :=
  Stale i r ∨ Stale j r ∨ ∃ version, r.phases i = .reading version ∧ r.phases j = .reading version

theorem Stale.step (h : Stale i r) (k : Nat) : Stale i (r.step k) := by
  by_cases hk : i = k
  · subst hk
    rcases h with ⟨version, hlt, hreading⟩ | hconflict
    · rw [step_late hreading (Nat.ne_of_lt hlt)]
      exact .inr (Function.update_self _ _ _)
    · rw [step_ended (.inr hconflict)]
      exact .inr hconflict
  · rcases h with ⟨version, hlt, hreading⟩ | hconflict
    · exact .inl ⟨version, Nat.lt_of_lt_of_le hlt version_le_step, (step_other hk).trans hreading⟩
    · exact .inr ((step_other hk).trans hconflict)

/-- Of two writers that have read the same version, one is late after the step of the other. -/
theorem stale_of_step {version : Nat} (hij : i ≠ j) (hi : r.phases i = .reading version)
    (hj : r.phases j = .reading version) : Stale i (r.step j) ∨ Stale j (r.step j) := by
  by_cases hversion : version = r.version
  · subst hversion
    rw [step_write hj]
    refine .inl (.inl ⟨r.version, Nat.lt_succ_self _, ?_⟩)
    exact (Function.update_of_ne hij _ _).trans hi
  · rw [step_late hj hversion]
    exact .inr (.inr (Function.update_self _ _ _))

theorem Clash.step (hij : i ≠ j) (h : Clash i j r) (k : Nat) : Clash i j (r.step k) := by
  rcases h with hstale | hstale | ⟨version, hi, hj⟩
  · exact .inl (hstale.step k)
  · exact .inr (.inl (hstale.step k))
  · by_cases hkj : j = k
    · subst hkj
      exact (stale_of_step hij hi hj).imp id .inl
    by_cases hki : i = k
    · subst hki
      exact (stale_of_step hij.symm hj hi).symm.imp id .inl
    · exact .inr (.inr ⟨version, (step_other hki).trans hi, (step_other hkj).trans hj⟩)

theorem Clash.run (hij : i ≠ j) : ∀ {schedule : List Nat} {r : Race}, Clash i j r →
    Clash i j (r.run schedule)
  | [], _, h => h
  | k :: _, r, h => Clash.run (r := r.step k) hij (h.step hij k)

/-- **Of two writers that clash, one is not served.** -/
theorem Clash.not_served (h : Clash i j r) : ¬ (r.phases i = .served ∧ r.phases j = .served) := by
  rintro ⟨hi, hj⟩
  rcases h with (⟨_, _, h⟩ | h) | (⟨_, _, h⟩ | h) | ⟨_, h, _⟩
  · rw [hi] at h
    cases h
  · rw [hi] at h
    cases h
  · rw [hj] at h
    cases h
  · rw [hj] at h
    cases h
  · rw [hi] at h
    cases h

/-- A step between the two steps of another writer makes them clash. -/
theorem clash_of_between (hij : i ≠ j) (hi : r.phases i = .idle)
    (hj : r.phases j = .idle ∨ ∃ version, r.phases j = .reading version) :
    Clash i j ((r.step i).step j) := by
  have hreads : (r.step i).phases i = .reading (r.step i).version := by
    rw [step_idle hi]
    exact Function.update_self _ _ _
  have hsame : (r.step i).phases j = r.phases j := step_other hij.symm
  rcases hj with hidle | ⟨version, hreading⟩
  · rw [step_idle (hsame.trans hidle)]
    refine .inr (.inr ⟨(r.step i).version, ?_, Function.update_self _ _ _⟩)
    exact (Function.update_of_ne hij _ _).trans hreads
  · by_cases hversion : version = (r.step i).version
    · subst hversion
      exact (stale_of_step hij hreads (hsame.trans hreading)).imp id .inl
    · rw [step_late (hsame.trans hreading) hversion]
      exact .inr (.inl (.inr (Function.update_self _ _ _)))

/-! ## Whole schedules -/

/-- A writer that has made one step has read a version. -/
theorem reading_of_count {schedule : List Nat} (hidle : r.phases j = .idle)
    (hcount : schedule.count j = 1) : ∃ version, (r.run schedule).phases j = .reading version := by
  have hmem : j ∈ schedule := List.count_pos_iff.mp (by omega)
  obtain ⟨before, after, rfl⟩ := List.append_of_mem hmem
  rw [List.count_append, List.count_cons_self] at hcount
  have hbefore : j ∉ before := List.count_eq_zero.mp (by omega)
  have hafter : j ∉ after := List.count_eq_zero.mp (by omega)
  rw [run_append]
  have hstill := (run_other (r := r) hbefore).trans hidle
  refine ⟨(r.run before).version, (run_other hafter).trans ?_⟩
  rw [step_idle hstill]
  exact Function.update_self _ _ _

/-- A writer that has made two steps has ended. -/
theorem ended_of_count {schedule : List Nat} (hidle : r.phases j = .idle)
    (hcount : schedule.count j = 2) :
    (r.run schedule).phases j = .served ∨ (r.run schedule).phases j = .conflict := by
  have hmem : j ∈ schedule := List.count_pos_iff.mp (by omega)
  obtain ⟨before, rest, rfl, hbefore⟩ := List.eq_append_cons_of_mem hmem
  rw [List.count_append, List.count_cons_self, List.count_eq_zero.mpr hbefore] at hcount
  have hrest : j ∈ rest := List.count_pos_iff.mp (by omega)
  obtain ⟨mid, after, rfl, hmid⟩ := List.eq_append_cons_of_mem hrest
  rw [List.count_append, List.count_cons_self, List.count_eq_zero.mpr hmid] at hcount
  have hafter : j ∉ after := List.count_eq_zero.mp (by omega)
  have hone : (before ++ j :: mid).count j = 1 := by
    rw [List.count_append, List.count_cons_self, List.count_eq_zero.mpr hbefore,
      List.count_eq_zero.mpr hmid]
  obtain ⟨version, hreading⟩ := reading_of_count hidle hone
  have hrun : r.run (before ++ j :: (mid ++ j :: after)) =
      ((r.run (before ++ j :: mid)).step j).run after := by
    rw [← List.cons_append, ← List.append_assoc, run_append]
    rfl
  rw [hrun, run_other hafter]
  exact ended_of_reading hreading

/-- Writers that do not overlap are served. -/
theorem served_of_noOverlap : ∀ {schedule : List Nat} {r : Race},
    (∀ i ∈ schedule, schedule.count i = 2) → (∀ i ∈ schedule, r.phases i = .idle) →
    NoOverlap schedule → ∀ i ∈ schedule, (r.run schedule).phases i = .served
  | [], _, _, _, _ => nofun
  | [i], _, hcount, _, _ => by
    have htwo := hcount i (List.mem_singleton_self i)
    rw [List.count_singleton_self] at htwo
    omega
  | i :: j :: rest, r, hcount, hidle, hno => by
    have htwo := hcount i (List.mem_cons_self ..)
    rw [List.count_cons_self] at htwo
    have hmem : i ∈ j :: rest := List.count_pos_iff.mp (by omega)
    obtain ⟨mid, after, hsplit⟩ := List.append_of_mem hmem
    have hmid : mid = [] := hno [] mid after i (by rw [hsplit]; rfl)
    rw [hmid, List.nil_append] at hsplit
    obtain ⟨rfl, rfl⟩ := List.cons.inj hsplit
    rw [List.count_cons_self] at htwo
    have hrest : j ∉ rest := List.count_eq_zero.mp (by omega)
    have hread := step_idle (hidle j (List.mem_cons_self ..))
    have hwrite : (r.step j).step j = ⟨r.version + 1, Function.update (r.step j).phases j .served⟩ := by
      rw [step_write (by rw [hread]; exact Function.update_self _ _ _), hread]
    intro k hk
    by_cases hkj : k = j
    · subst hkj
      refine (run_other (r := (r.step k).step k) hrest).trans ?_
      rw [hwrite]
      exact Function.update_self _ _ _
    · refine served_of_noOverlap (r := (r.step j).step j) (fun m hm => ?_) (fun m hm => ?_)
        (fun before mid after m hm => ?_) k ?_
      · have hm2 := hcount m (by simp [hm])
        have hmj : m ≠ j := fun h => hrest (h ▸ hm)
        rw [List.count_cons_of_ne hmj.symm, List.count_cons_of_ne hmj.symm] at hm2
        exact hm2
      · have hmj : m ≠ j := fun h => hrest (h ▸ hm)
        rw [step_other hmj, step_other hmj]
        exact hidle m (by simp [hm])
      · exact hno (j :: j :: before) mid after m (by rw [hm]; rfl)
      · simpa [hkj] using hk

/-- **Every writer of a schedule is served exactly when no two of them overlap.** -/
theorem served_iff_noOverlap {schedule : List Nat} (hcount : ∀ i ∈ schedule, schedule.count i = 2)
    (hidle : ∀ i ∈ schedule, r.phases i = .idle) :
    (∀ i ∈ schedule, (r.run schedule).phases i = .served) ↔ NoOverlap schedule := by
  refine ⟨fun hserved before mid after i hsplit => ?_, served_of_noOverlap hcount hidle⟩
  cases mid with
  | nil => rfl
  | cons j mid =>
    exfalso
    have himem : i ∈ schedule := by simp [hsplit]
    have hjmem : j ∈ schedule := by simp [hsplit]
    have hi2 := hcount i himem
    have hj2 := hcount j hjmem
    rw [hsplit] at hi2 hj2
    simp only [List.count_append, List.count_cons, beq_self_eq_true, if_true] at hi2 hj2
    have hij : i ≠ j := by
      intro h
      subst h
      simp only [beq_self_eq_true, if_true] at hi2
      omega
    have hjidle := hidle j hjmem
    have hclash : Clash i j (((r.run before).step i).step j) := by
      refine clash_of_between hij ?_ ?_
      · exact (run_other (List.count_eq_zero.mp (by omega))).trans (hidle i himem)
      · rcases Nat.eq_zero_or_pos (before.count j) with hzero | hpos
        · exact .inl ((run_other (List.count_eq_zero.mp hzero)).trans hjidle)
        · exact .inr (reading_of_count hjidle (by omega))
    have hrun : r.run schedule =
        (((r.run before).step i).step j).run (mid ++ i :: after) := by
      rw [hsplit, run_append]
      rfl
    have hlast : Clash i j (r.run schedule) := by
      rw [hrun]
      exact hclash.run hij
    exact hlast.not_served ⟨hserved i himem, hserved j hjmem⟩

end Race

end ProofAgent.Base
