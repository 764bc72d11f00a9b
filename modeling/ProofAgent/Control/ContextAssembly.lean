import ProofAgent.Base.Outcome
import ProofAgent.Contracts.ControlledReact

/-! # Context assembly

What a run starts from: its sections are narrowed until they fit, and recalled memories are taken
as long as there is room beside the state of the task. -/
namespace ProofAgent

open Base

/-! ## Convergence -/

/-- A section of the working context, by the references of its sources. -/
structure WorkingContextSection where
  sectionId : String
  sourceRefs : List String := []
  priority : Int
  stablePrefix : Bool := false
  estimatedTokens : Int := 0
  deriving DecidableEq

inductive ContextConvergenceLevel where
  | none | level1 | level2 | deepCompression
  deriving DecidableEq

/-- What becomes of a section: what is left of it, the references that are dropped, and why. -/
structure SectionOutcome where
  kept : Option WorkingContextSection
  dropped : List String := []
  reason : Option String := none

/-- The references that are kept of a section. -/
def SectionOutcome.keptRefs (o : SectionOutcome) : List String :=
  (o.kept.map (·.sourceRefs)).getD []

structure Converged where
  sections : List WorkingContextSection
  droppedRefs : List String := []
  fallbackReasons : List String := []
  deriving DecidableEq

/-- `_append_unique`. -/
def appendReason (reasons : List String) (reason : String) : List String :=
  if reason ∈ reasons then reasons else reasons ++ [reason]

/-- `_dedupe_refs`. -/
def dedupeRefs (refs : List String) : List String :=
  refs.foldl (fun deduped ref => if ref ∈ deduped then deduped else deduped ++ [ref]) []

/-- `refs[-n:]`. -/
def lastRefs (n : Nat) (refs : List String) : List String := refs.drop (refs.length - n)

/-- `refs[:-n]`. -/
def allButLast (n : Nat) (refs : List String) : List String := refs.take (refs.length - n)

section
variable (share : Int → Nat → Nat → Int)

/-- `_scaled_estimated_tokens`, with `int(estimated_tokens * (new_count / old_count))` as `share`. -/
def scaledEstimatedTokens (estimatedTokens : Int) (oldCount newCount : Nat) : Int :=
  if oldCount = 0 ∨ newCount = 0 then 0 else max 1 (share estimatedTokens oldCount newCount)

/-- `_section_with_refs`. -/
def sectionWithRefs (s : WorkingContextSection) (refs : List String) : WorkingContextSection :=
  if refs = s.sourceRefs then s
  else
    { s with
      sourceRefs := refs
      estimatedTokens := scaledEstimatedTokens share s.estimatedTokens s.sourceRefs.length refs.length }

/-- A section of `_dedupe_working_sections`. -/
def dedupeSection (s : WorkingContextSection) : WorkingContextSection :=
  sectionWithRefs share s (dedupeRefs s.sourceRefs)

/-- `_dedupe_working_sections`. -/
def dedupeWorkingSections (sections : List WorkingContextSection) : List WorkingContextSection :=
  sections.map (dedupeSection share)

/-- The loop of `_narrow_level2_working_sections` on one section. -/
def narrowSection (s : WorkingContextSection) : SectionOutcome :=
  if s.sectionId = "recent_turns" ∧ 2 < s.sourceRefs.length then
    { kept := some (sectionWithRefs share s (lastRefs 2 s.sourceRefs))
      dropped := allButLast 2 s.sourceRefs
      reason := some "conversation_turns_compacted_for_level2" }
  else if s.sectionId = "memory_recall" ∧ 1 < s.sourceRefs.length then
    { kept := some (sectionWithRefs share s (s.sourceRefs.take 1))
      dropped := s.sourceRefs.drop 1
      reason := some "memory_recall_narrowed_for_level2" }
  else { kept := some s }

/-- The loop of `_deep_compress_working_sections` on one section. -/
def compressSection (s : WorkingContextSection) : SectionOutcome :=
  if s.sectionId = "clarification_continuation" ∨ s.sectionId = "task_state" then { kept := some s }
  else if s.sectionId = "recent_turns" ∧ s.sourceRefs ≠ [] then
    { kept := some (sectionWithRefs share s (lastRefs 1 s.sourceRefs))
      dropped := allButLast 1 s.sourceRefs }
  else if s.sectionId = "memory_recall" ∧ s.sourceRefs ≠ [] then
    { kept := some (sectionWithRefs share s (s.sourceRefs.take 1))
      dropped := s.sourceRefs.drop 1 }
  else { kept := none, dropped := s.sourceRefs }

/-- The outcomes of the sections, put together. -/
def converge (reasons : List String) (outcomes : List SectionOutcome) : Converged where
  sections := outcomes.filterMap (·.kept)
  droppedRefs := outcomes.flatMap (·.dropped)
  fallbackReasons := (outcomes.filterMap (·.reason)).foldl appendReason reasons

/-- `_apply_context_convergence`. -/
def applyContextConvergence (sections : List WorkingContextSection) :
    ContextConvergenceLevel → Converged
  | .none => { sections }
  | .level1 =>
    { sections := dedupeWorkingSections share sections
      fallbackReasons := ["context_convergence_level1"] }
  | .level2 => converge ["context_convergence_level2"]
      ((dedupeWorkingSections share sections).map (narrowSection share))
  | .deepCompression =>
    converge ["context_convergence_deep_compression", "task_continuity_skeleton_deep_compression"]
      ((dedupeWorkingSections share sections).map (compressSection share))

end

/-! ## Memories beside the state of a task -/

/-- A recalled memory, with the fields that the assembly reads and sets. -/
structure MemoryRecallAdmission where
  admitted : Bool
  includedMemoryIds : List String := []
  rejectedMemoryIds : List String := []
  summary : String := ""
  factKeys : List String := []
  factCount : Nat := 0
  rejectionReasons : List (String × String) := []
  workingPayload : Option MemoryRecallWorkingPayload := none
  deriving DecidableEq

/-- `ProofAgentError("PA_REACT_001", ...)`. -/
inductive ContextError where
  | constraintsExceedBudget
  deriving DecidableEq

/-- `render_task_state`. -/
def renderTaskState (state : ConversationTaskState) : String :=
  if state.items = [] ∧ state.unresolved = [] then ""
  else
    "\n".intercalate <| ["User task state (not evidence or authorization):"] ++
      (state.items.map fun item => item.kind ++ "[" ++ item.key ++ "]=" ++ item.value ++ " (source=" ++
        item.sourceTurnId ++ ")") ++
      if state.unresolved = [] then []
      else ["UNRESOLVED task state; ask for clarification: " ++ ", ".intercalate state.unresolved]

/-- The state of the task, if it has something in it. -/
def activeTaskState (admission : ContextAdmission) : Option ConversationTaskState :=
  admission.taskState.filter fun state => state.items ≠ [] ∨ state.unresolved ≠ []

/-- `bound_task_context`. -/
def boundTaskContext (admission : ContextAdmission) (maxBytes : Int) :
    Except ContextError ContextAdmission :=
  match activeTaskState admission with
  | none => .ok admission
  | some state =>
    let required := renderTaskState state
    if maxBytes < required.utf8ByteSize then .error .constraintsExceedBudget
    else if (admission.summary.utf8ByteSize : Int) ≤ maxBytes then .ok admission
    else .ok { admission with
      summary := required
      recentSummary := some ""
      charCount := required.length
      includedTurnIds := []
      turnCount := 0
      droppedTurnIds := dedupeRefs (admission.droppedTurnIds ++ admission.includedTurnIds)
      fallbackReasons := admission.fallbackReasons ++ ["task_context_recent_detail_trimmed"] }

/-- A memory that there is no room for. -/
def MemoryRecallAdmission.withheld (m : MemoryRecallAdmission) : MemoryRecallAdmission :=
  { m with
    admitted := false
    workingPayload := none
    summary := ""
    includedMemoryIds := []
    factKeys := []
    factCount := 0
    rejectedMemoryIds := m.rejectedMemoryIds ++ m.includedMemoryIds
    rejectionReasons := (m.rejectionReasons.filter fun p => p.1 ∉ m.includedMemoryIds) ++
      m.includedMemoryIds.map fun key => (key, "task_state_context_budget") }

section
variable (payloadJson : MemoryRecallWorkingPayload → String)

/-- The bytes that a memory takes, with `model_dump_json` of its payload as `payloadJson`. -/
def MemoryRecallAdmission.size (m : MemoryRecallAdmission) : Nat :=
  if m.admitted then ((m.workingPayload.map payloadJson).getD m.summary).utf8ByteSize else 0

/-- The memories that there is room for, the others withheld. -/
def admitMemories : Int → List MemoryRecallAdmission → List MemoryRecallAdmission
  | _, [] => []
  | remaining, m :: rest =>
    if (m.size payloadJson : Int) ≤ remaining then
      m :: admitMemories (remaining - m.size payloadJson) rest
    else m.withheld :: admitMemories remaining rest

/-- `_bound_task_inputs`. -/
def boundTaskInputs (admission : ContextAdmission) (memories : List MemoryRecallAdmission)
    (maxBytes : Int) : Except ContextError (ContextAdmission × List MemoryRecallAdmission) := do
  let bounded ← boundTaskContext admission maxBytes
  match activeTaskState admission with
  | none => return (bounded, memories)
  | some _ =>
    return (bounded, admitMemories payloadJson (maxBytes - bounded.summary.utf8ByteSize) memories)

end

end ProofAgent
