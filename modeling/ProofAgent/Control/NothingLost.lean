import ProofAgent.Control.ContextAssembly

/-! # Nothing is lost silently

A reference that is not kept in a section is recorded as dropped, and a memory that there is no
room for is recorded as rejected. -/
namespace ProofAgent

open Base

/-! ## References -/

theorem dedupeRefs_append (acc refs : List String) (hacc : acc.Nodup) :
    (refs.foldl (fun deduped ref => if ref ∈ deduped then deduped else deduped ++ [ref]) acc).Nodup ∧
      ∀ ref, ref ∈ refs.foldl (fun deduped ref =>
        if ref ∈ deduped then deduped else deduped ++ [ref]) acc ↔ ref ∈ acc ∨ ref ∈ refs := by
  induction refs generalizing acc with
  | nil => exact ⟨hacc, fun ref => (or_iff_left List.not_mem_nil).symm⟩
  | cons next rest ih =>
    rw [List.foldl_cons]
    by_cases hnext : next ∈ acc
    · rw [if_pos hnext]
      obtain ⟨hnodup, hmem⟩ := ih acc hacc
      refine ⟨hnodup, fun ref => ?_⟩
      rw [hmem, List.mem_cons]
      constructor
      · exact Or.imp_right .inr
      · rintro (h | rfl | h)
        · exact .inl h
        · exact .inl hnext
        · exact .inr h
    · rw [if_neg hnext]
      obtain ⟨hnodup, hmem⟩ := ih (acc ++ [next])
        (List.concat_eq_append (a := next) ▸ hacc.concat hnext)
      refine ⟨hnodup, fun ref => ?_⟩
      rw [hmem, List.mem_append, List.mem_singleton, List.mem_cons, or_assoc]

theorem dedupeRefs_nodup (refs : List String) : (dedupeRefs refs).Nodup :=
  (dedupeRefs_append [] refs List.nodup_nil).1

theorem mem_dedupeRefs {ref : String} {refs : List String} : ref ∈ dedupeRefs refs ↔ ref ∈ refs := by
  refine ((dedupeRefs_append [] refs List.nodup_nil).2 ref).trans ?_
  exact or_iff_right List.not_mem_nil

theorem allButLast_append (n : Nat) (refs : List String) :
    allButLast n refs ++ lastRefs n refs = refs :=
  List.take_append_drop ..

section
variable {share : Int → Nat → Nat → Int}

@[simp] theorem sectionWithRefs_refs (s : WorkingContextSection) (refs : List String) :
    (sectionWithRefs share s refs).sourceRefs = refs := by
  unfold sectionWithRefs
  split
  · rename_i h
    exact h.symm
  · rfl

@[simp] theorem sectionWithRefs_id (s : WorkingContextSection) (refs : List String) :
    (sectionWithRefs share s refs).sectionId = s.sectionId := by
  unfold sectionWithRefs
  split <;> rfl

/-! ## Sections -/

/-- The sections that carry the state of the task and a clarification. -/
def protectedSections : List String := ["clarification_continuation", "task_state"]

/-- What is kept and what is dropped of a section are its references, once each. -/
structure Divided (s : WorkingContextSection) (o : SectionOutcome) : Prop where
  refs : (o.keptRefs ++ o.dropped).Perm s.sourceRefs
  sameSection : ∀ kept, o.kept = some kept → kept.sectionId = s.sectionId
  keepsProtected : s.sectionId ∈ protectedSections → o.kept.isSome ∧ o.dropped = []

theorem notProtected {s : WorkingContextSection} {id : String} (h : s.sectionId = id)
    (hid : id ∉ protectedSections) : s.sectionId ∉ protectedSections :=
  h ▸ hid

theorem divided_withRefs {s : WorkingContextSection} {refs dropped : List String}
    {reason : Option String} (hrefs : (refs ++ dropped).Perm s.sourceRefs)
    (hid : s.sectionId ∉ protectedSections) :
    Divided s ⟨some (sectionWithRefs share s refs), dropped, reason⟩ where
  refs := by
    show ((sectionWithRefs share s refs).sourceRefs ++ dropped).Perm s.sourceRefs
    rw [sectionWithRefs_refs]
    exact hrefs
  sameSection := fun kept hkept => by
    obtain rfl := Option.some.inj hkept
    exact sectionWithRefs_id s refs
  keepsProtected := fun h => absurd h hid

theorem divided_whole (s : WorkingContextSection) : Divided s { kept := some s } where
  refs := by
    show (s.sourceRefs ++ []).Perm s.sourceRefs
    rw [List.append_nil]
  sameSection := fun kept hkept => by rw [Option.some.inj hkept]
  keepsProtected := fun _ => ⟨rfl, rfl⟩

theorem narrowSection_divided (s : WorkingContextSection) : Divided s (narrowSection share s) := by
  unfold narrowSection
  split
  · rename_i h
    refine divided_withRefs (List.perm_append_comm.trans (.of_eq ?_)) (notProtected h.1 (by decide))
    exact allButLast_append 2 s.sourceRefs
  · split
    · rename_i h
      refine divided_withRefs (.of_eq ?_) (notProtected h.1 (by decide))
      exact List.take_append_drop 1 s.sourceRefs
    · exact divided_whole s

theorem compressSection_divided (s : WorkingContextSection) : Divided s (compressSection share s) := by
  unfold compressSection
  split
  · exact divided_whole s
  · rename_i hunprotected
    split
    · rename_i h
      refine divided_withRefs (List.perm_append_comm.trans (.of_eq ?_)) (notProtected h.1 (by decide))
      exact allButLast_append 1 s.sourceRefs
    · split
      · rename_i h
        refine divided_withRefs (.of_eq ?_) (notProtected h.1 (by decide))
        exact List.take_append_drop 1 s.sourceRefs
      · refine ⟨.refl _, nofun, fun h => absurd ?_ hunprotected⟩
        simpa [protectedSections] using h

/-- What becomes of a section, references that it has more than once apart. -/
structure Accounted (level : ContextConvergenceLevel) (s : WorkingContextSection)
    (o : SectionOutcome) : Prop where
  disjoint : ∀ ref ∈ o.keptRefs, ref ∉ o.dropped
  complete : ∀ ref, ref ∈ o.keptRefs ∨ ref ∈ o.dropped ↔ ref ∈ s.sourceRefs
  once : level ≠ .none → (o.keptRefs ++ o.dropped).Perm (dedupeRefs s.sourceRefs)
  sameSection : ∀ kept, o.kept = some kept → kept.sectionId = s.sectionId
  keepsProtected : s.sectionId ∈ protectedSections → o.kept.isSome ∧ o.dropped = []

/-- A division of the references of a section, once each, accounts for the section. -/
theorem Divided.accounted {level : ContextConvergenceLevel} {s : WorkingContextSection}
    {o : SectionOutcome} (h : Divided (dedupeSection share s) o) : Accounted level s o := by
  have hrefs : (o.keptRefs ++ o.dropped).Perm (dedupeRefs s.sourceRefs) := by
    have hrefs := h.refs
    unfold dedupeSection at hrefs
    rwa [sectionWithRefs_refs] at hrefs
  have hid : (dedupeSection share s).sectionId = s.sectionId := sectionWithRefs_id s _
  refine ⟨fun ref hkept hdropped => ?_, fun ref => ?_, fun _ => hrefs,
    fun kept hkept => (h.sameSection kept hkept).trans hid, fun hs => h.keepsProtected (hid ▸ hs)⟩
  · have hnodup := hrefs.nodup_iff.mpr (dedupeRefs_nodup s.sourceRefs)
    exact (List.nodup_append.mp hnodup).2.2 ref hkept ref hdropped rfl
  · rw [← List.mem_append, hrefs.mem_iff, mem_dedupeRefs]

/-! ## The sections of a run -/

/-- The outcomes of the sections, which make up the converged context. -/
structure OutcomesOf (level : ContextConvergenceLevel) (sections : List WorkingContextSection)
    (context : Converged) (outcomes : List SectionOutcome) : Prop where
  each : List.Forall₂ (Accounted level) sections outcomes
  kept : context.sections = outcomes.filterMap (·.kept)
  dropped : context.droppedRefs = outcomes.flatMap (·.dropped)

theorem forall₂_map {α β : Type} {R : α → β → Prop} {f : α → β} (h : ∀ a, R a (f a)) :
    ∀ items : List α, List.Forall₂ R items (items.map f)
  | [] => .nil
  | a :: rest => .cons (h a) (forall₂_map h rest)

theorem outcomesOf_converge {level : ContextConvergenceLevel}
    {narrow : WorkingContextSection → SectionOutcome} (hnarrow : ∀ s, Divided s (narrow s))
    (reasons : List String) (sections : List WorkingContextSection) :
    OutcomesOf level sections
      (converge reasons ((dedupeWorkingSections share sections).map narrow))
      (sections.map fun s => narrow (dedupeSection share s)) := by
  unfold dedupeWorkingSections
  rw [List.map_map]
  exact ⟨forall₂_map (fun s => (hnarrow (dedupeSection share s)).accounted) sections, rfl, rfl⟩

theorem filterMap_kept (f : WorkingContextSection → WorkingContextSection)
    (sections : List WorkingContextSection) :
    sections.map f = (sections.map fun s => SectionOutcome.mk (some (f s)) [] none).filterMap
      (·.kept) := by
  induction sections with
  | nil => rfl
  | cons s rest ih => exact congrArg (f s :: ·) ih

theorem flatMap_dropped (f : WorkingContextSection → WorkingContextSection)
    (sections : List WorkingContextSection) :
    (sections.map fun s => SectionOutcome.mk (some (f s)) [] none).flatMap (·.dropped) = [] := by
  induction sections with
  | nil => rfl
  | cons s rest ih => exact ih

theorem outcomesOf_level (sections : List WorkingContextSection) (level : ContextConvergenceLevel) :
    ∃ outcomes, OutcomesOf level sections (applyContextConvergence share sections level) outcomes := by
  cases level with
  | none =>
    refine ⟨sections.map fun s => ⟨some s, [], none⟩, forall₂_map (fun s => ?_) sections, ?_, ?_⟩
    · exact ⟨fun _ _ => List.not_mem_nil, fun _ => or_iff_left List.not_mem_nil, fun h => absurd rfl h,
        fun kept hkept => by rw [Option.some.inj hkept], fun _ => ⟨rfl, rfl⟩⟩
    · exact (List.map_id sections).symm.trans (filterMap_kept id sections)
    · exact (flatMap_dropped id sections).symm
  | level1 =>
    refine ⟨sections.map fun s => ⟨some (dedupeSection share s), [], none⟩,
      forall₂_map (fun s => (divided_whole (dedupeSection share s)).accounted) sections,
      filterMap_kept (dedupeSection share) sections,
      (flatMap_dropped (dedupeSection share) sections).symm⟩
  | level2 => exact ⟨_, outcomesOf_converge narrowSection_divided _ sections⟩
  | deepCompression => exact ⟨_, outcomesOf_converge compressSection_divided _ sections⟩

end

/-! ## Memories -/

section
variable (payloadJson : MemoryRecallWorkingPayload → String)

/-- What becomes of a memory: it is taken as it is, or its ids are recorded as rejected. -/
def TakenOrWithheld (m m' : MemoryRecallAdmission) : Prop := m' = m ∨ m' = m.withheld

/-- Whether an admission admits the memories it includes, and none that it rejects. -/
structure MemoryRecallAdmission.Consistent (m : MemoryRecallAdmission) : Prop where
  included : m.includedMemoryIds ≠ [] → m.admitted = true
  disjoint : ∀ id ∈ m.includedMemoryIds, id ∉ m.rejectedMemoryIds

theorem size_withheld (m : MemoryRecallAdmission) : m.withheld.size payloadJson = 0 := rfl

theorem admitMemories_bytes : ∀ (memories : List MemoryRecallAdmission) (remaining : Int),
    0 ≤ remaining →
    ((((admitMemories payloadJson remaining memories).map (·.size payloadJson)).sum : Nat) : Int) ≤
      remaining
  | [], _, h => h
  | m :: rest, remaining, h => by
    unfold admitMemories
    split
    · rename_i hfits
      have hrest := admitMemories_bytes rest (remaining - m.size payloadJson) (by omega)
      rw [List.map_cons, List.sum_cons]
      omega
    · have hrest := admitMemories_bytes rest remaining h
      rw [List.map_cons, List.sum_cons, size_withheld, Nat.zero_add]
      exact hrest

theorem admitMemories_each : ∀ (memories : List MemoryRecallAdmission) (remaining : Int),
    List.Forall₂ TakenOrWithheld memories (admitMemories payloadJson remaining memories)
  | [], _ => .nil
  | m :: rest, remaining => by
    unfold admitMemories
    split
    · exact .cons (.inl rfl) (admitMemories_each rest _)
    · exact .cons (.inr rfl) (admitMemories_each rest _)

/-- An id of a candidate is admitted or recorded as rejected. -/
theorem TakenOrWithheld.decided {m m' : MemoryRecallAdmission} (h : TakenOrWithheld m m')
    (hm : m.Consistent) {id : String} (hid : id ∈ m.includedMemoryIds ∨ id ∈ m.rejectedMemoryIds) :
    (m'.admitted = true ∧ id ∈ m'.includedMemoryIds) ↔ id ∉ m'.rejectedMemoryIds := by
  rcases h with rfl | rfl
  · constructor
    · exact fun ⟨_, hincluded⟩ => hm.disjoint id hincluded
    · intro hrejected
      have hincluded := hid.resolve_right hrejected
      exact ⟨hm.included (List.ne_nil_of_mem hincluded), hincluded⟩
  · refine iff_of_false (fun h => absurd h.1 Bool.false_ne_true) fun h => h ?_
    exact List.mem_append.mpr hid.symm

end

theorem boundTaskContext_bytes {admission bounded : ContextAdmission} {maxBytes : Int}
    (h : boundTaskContext admission maxBytes = .ok bounded) (hactive : activeTaskState admission ≠ none) :
    (bounded.summary.utf8ByteSize : Int) ≤ maxBytes := by
  unfold boundTaskContext at h
  split at h
  · rename_i hnone
    exact absurd hnone hactive
  · dsimp only at h
    split at h
    · cases h
    · rename_i hrequired
      split at h
      · rename_i hsummary
        obtain rfl := Except.ok.inj h
        exact hsummary
      · obtain rfl := Except.ok.inj h
        exact Int.not_lt.mp hrequired

/-- **Nothing is lost silently.** In each section the references that are kept and those that are
dropped from it are the references of the section, and none is both; sections that carry the state
of the task or a clarification are kept. Beside the state of a task there are no more memories than
there is room for, and each candidate is admitted or recorded as rejected. -/
theorem context_converges (share : Int → Nat → Nat → Int)
    (payloadJson : MemoryRecallWorkingPayload → String) :
    (∀ sections level, ∃ outcomes,
      OutcomesOf level sections (applyContextConvergence share sections level) outcomes) ∧
    ∀ admission memories maxBytes bounded taken,
      boundTaskInputs payloadJson admission memories maxBytes = .ok (bounded, taken) →
      if activeTaskState admission = none then bounded = admission ∧ taken = memories
      else
        ((bounded.summary.utf8ByteSize + (taken.map (·.size payloadJson)).sum : Nat) : Int) ≤
            maxBytes ∧
          List.Forall₂ (fun m m' => TakenOrWithheld m m' ∧ (m.Consistent →
            ∀ id, id ∈ m.includedMemoryIds ∨ id ∈ m.rejectedMemoryIds →
              ((m'.admitted = true ∧ id ∈ m'.includedMemoryIds) ↔ id ∉ m'.rejectedMemoryIds)))
            memories taken := by
  refine ⟨outcomesOf_level, fun admission memories maxBytes bounded taken h => ?_⟩
  obtain ⟨bounded', hbounded, h⟩ := bind_ok h
  split
  · rename_i hnone
    rw [hnone] at h
    obtain ⟨rfl, rfl⟩ := Prod.mk.inj (pure_ok h)
    unfold boundTaskContext at hbounded
    rw [hnone] at hbounded
    exact ⟨(Except.ok.inj hbounded).symm, rfl⟩
  · rename_i hactive
    have hbytes := boundTaskContext_bytes hbounded hactive
    split at h
    · rename_i hnone
      exact absurd hnone hactive
    · obtain ⟨rfl, rfl⟩ := Prod.mk.inj (pure_ok h)
      have hmemories := admitMemories_bytes payloadJson memories
        (maxBytes - bounded'.summary.utf8ByteSize) (by omega)
      refine ⟨by omega, ?_⟩
      exact (admitMemories_each payloadJson memories _).imp fun m m' htaken =>
        ⟨htaken, fun hm id hid => htaken.decided hm hid⟩

namespace Sample

/-- A conversation without a task. -/
def plainAdmission : ContextAdmission := { admitted := true, summary := "abc" }

/-- A conversation with an open point of its task. -/
def taskAdmission : ContextAdmission :=
  { admitted := true, taskState := some { unresolved := ["x"] } }

/-- A memory that is included. -/
def recalledMemory : MemoryRecallAdmission :=
  { admitted := true, includedMemoryIds := ["m"], summary := "abc" }

/-- A memory that is included by an admission that admits nothing. -/
def unadmittedMemory : MemoryRecallAdmission := { admitted := false, includedMemoryIds := ["m"] }

def payloadJson (payload : MemoryRecallWorkingPayload) : String := payload.summary

theorem task_bounded : boundTaskInputs payloadJson taskAdmission [recalledMemory] 100 =
    .ok (taskAdmission, [recalledMemory]) := by
  decide +kernel

end Sample

theorem context_converges_memory :
    ((Sample.taskAdmission.summary.utf8ByteSize +
      ([Sample.recalledMemory].map (·.size Sample.payloadJson)).sum : Nat) : Int) ≤ 100 := by
  have hbounded := (context_converges (fun tokens _ _ => tokens) Sample.payloadJson).2
    Sample.taskAdmission [Sample.recalledMemory] 100 _ _ Sample.task_bounded
  rw [if_neg (by decide)] at hbounded
  exact hbounded.1

/-- Without a task there is no bound, and an id may be neither admitted nor rejected. -/
theorem context_unbounded :
    (boundTaskInputs Sample.payloadJson Sample.plainAdmission [Sample.recalledMemory] 2 =
        .ok (Sample.plainAdmission, [Sample.recalledMemory]) ∧
      2 < Sample.plainAdmission.summary.utf8ByteSize) ∧
    boundTaskInputs Sample.payloadJson Sample.taskAdmission [Sample.unadmittedMemory] 100 =
        .ok (Sample.taskAdmission, [Sample.unadmittedMemory]) ∧
      Sample.unadmittedMemory.admitted = false ∧ Sample.unadmittedMemory.rejectedMemoryIds = [] := by
  decide +kernel

end ProofAgent
