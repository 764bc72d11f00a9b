import ProofAgent.Answers.Clarification

/-! # Required context

The policy on missing fields never lets a run go on without a field that it needs, whatever the
settings are and whatever the question is about. -/
namespace ProofAgent.Answers

open Base Base.Regex
open TaskState (Text strip)

/-! ## Narrowed intents -/

/-- How a field is assessed. -/
def IntentResolution.kindOf (r : IntentResolution) (field : Text) : Option AssessmentKind :=
  (r.assessment field).map (·.kind)

/-- What the steps before the policy keep of an intent, the fields apart that they drop. -/
structure Narrowed (dropped : Text → Prop) (r r' : IntentResolution) : Prop where
  kept : ∀ f ∈ r.missingFields, ¬ dropped f → f ∈ r'.missingFields
  kinds : ∀ f, ¬ dropped f → f ∈ r.missingFields → r'.kindOf f = r.kindOf f
  queries : r'.hasRequiredQuery = r.hasRequiredQuery
  refuses : r.recommendedNextAction = .refuse → r'.recommendedNextAction = .refuse
  refused : r'.recommendedNextAction = .refuse → r.recommendedNextAction = .refuse
  proposed : r'.recommendedNextAction = .proposeToolCall → r.recommendedNextAction = .proposeToolCall
  scope : r.scopeAssumptions.length ≤ 8 → r'.scopeAssumptions.length ≤ 8

namespace Narrowed

variable {dropped : Text → Prop} {r r' r'' : IntentResolution}

theorem refl (dropped : Text → Prop) (r : IntentResolution) : Narrowed dropped r r :=
  ⟨fun _ hf _ => hf, fun _ _ _ => rfl, rfl, id, id, id, id⟩

theorem trans (h : Narrowed dropped r r') (h' : Narrowed dropped r' r'') : Narrowed dropped r r'' where
  kept := fun f hf hdropped => h'.kept f (h.kept f hf hdropped) hdropped
  kinds := fun f hdropped hf =>
    (h'.kinds f hdropped (h.kept f hf hdropped)).trans (h.kinds f hdropped hf)
  queries := h'.queries.trans h.queries
  refuses := fun hr => h'.refuses (h.refuses hr)
  refused := fun hr => h.refused (h'.refused hr)
  proposed := fun hr => h.proposed (h'.proposed hr)
  scope := fun hr => h'.scope (h.scope hr)

end Narrowed

theorem length_uniqueBy_le {items : List Text} : (uniqueBy id items).length ≤ items.length := by
  induction items with
  | nil => exact Nat.le_refl _
  | cons a rest ih => exact Nat.succ_le_succ ((List.length_filter_le ..).trans ih)

theorem assessment_some {r : IntentResolution} {f : Text} {a : ClarificationAssessment}
    (h : r.assessment f = some a) : a ∈ r.clarificationAssessments ∧ a.field = f := by
  have hfield := List.find?_some
    (show r.clarificationAssessments.find? (fun a => decide (a.field = f)) = some a from h)
  exact ⟨List.mem_of_find?_eq_some h, of_decide_eq_true hfield⟩

theorem kindOf_congr {r r' : IntentResolution} (f : Text)
    (h : r'.clarificationAssessments = r.clarificationAssessments) : r'.kindOf f = r.kindOf f := by
  unfold IntentResolution.kindOf IntentResolution.assessment
  rw [h]

theorem kindOf_withDefaults (r : IntentResolution) (default : ClarificationAssessment → Text)
    (f : Text) : (r.withDefaults default).kindOf f = r.kindOf f := by
  unfold IntentResolution.kindOf IntentResolution.assessment IntentResolution.withDefaults
  rw [List.find?_map, Option.map_map]
  rfl

theorem kindOf_keepFields (r : IntentResolution) (keep : Text → Bool) {f : Text}
    (h : keep f = true) : (r.keepFields keep).kindOf f = r.kindOf f := by
  have hpred : (fun a : ClarificationAssessment =>
      decide (keep a.field = true ∧ decide (a.field = f) = true)) = fun a => decide (a.field = f) := by
    funext a
    refine decide_eq_decide.mpr ⟨fun ha => of_decide_eq_true ha.2, fun ha => ?_⟩
    exact ⟨ha ▸ h, decide_eq_true ha⟩
  unfold IntentResolution.kindOf IntentResolution.assessment IntentResolution.keepFields
  dsimp only
  rw [List.find?_filter, hpred]

theorem narrowed_period (lib : CharacterLibrary) (r : IntentResolution) (question : Text)
    (dropped : Text → Prop) : Narrowed dropped r (normalizePerformancePeriod lib r question) := by
  unfold normalizePerformancePeriod
  split
  · exact .refl dropped r
  · split
    · exact .refl dropped r
    · refine ⟨fun _ hf _ => hf, fun f _ _ => kindOf_withDefaults r _ f, ?_, id, id, id, fun h => ?_⟩
      · show (r.retrievalQuerySet.map _).any _ = _
        rw [List.any_map]
        refine congrArg (List.any r.retrievalQuerySet) (funext fun q => ?_)
        show (if occurs (yearText lib) q.query then _ else q).required = q.required
        split <;> rfl
      · exact length_uniqueBy_le.trans (by rwa [List.length_map])

/-- What the normalization of purchases drops. -/
def DropsField (r : IntentResolution) (question f : Text) : Prop :=
  irrelevantPurchasePolicyField question f = true ∧ r.hasRequiredQuery = true

theorem narrowed_purchase (r : IntentResolution) (question : Text) :
    Narrowed (DropsField r question) r (normalizePurchaseDependencies r question) := by
  unfold normalizePurchaseDependencies
  split
  · exact .refl _ r
  · rename_i hguard
    obtain ⟨haction, hquery⟩ := not_or.mp hguard
    dsimp only
    split
    · exact .refl _ r
    · generalize hirrelevant : (r.missingFields ++ r.deferredAnswerFields).filter
        (irrelevantPurchasePolicyField question) = irrelevant
      have hkeep : ∀ f, ¬ DropsField r question f → decide (f ∉ irrelevant) = true := by
        intro f hdropped
        refine decide_eq_true fun hmem => hdropped ⟨?_, by simpa using hquery⟩
        rw [← hirrelevant] at hmem
        exact (List.mem_filter.mp hmem).2
      have hkinds := fun f (hdropped : ¬ DropsField r question f) =>
        kindOf_keepFields r (fun f => decide (f ∉ irrelevant)) (hkeep f hdropped)
      refine ⟨fun f hf hdropped => List.mem_filter.mpr ⟨hf, hkeep f hdropped⟩,
        fun f hdropped _ => Eq.trans (kindOf_congr f rfl) (hkinds f hdropped), rfl, ?_, ?_, ?_, fun h => ?_⟩
      · intro hrefuse
        exact absurd ⟨by rw [hrefuse]; decide, by rw [hrefuse]; decide⟩ haction
      · dsimp only
        split
        · exact id
        · exact nofun
      · dsimp only
        split
        · exact id
        · exact nofun
      · show (if _ then _ else _ : List Text).length ≤ 8
        split
        · assumption
        · exact h

/-! ## Settled fields -/

section
variable {s : ClarificationSettings} (question : Text) {r : IntentResolution} {f : Text}

theorem fieldDecision_required (h : r.kindOf f = none ∨ r.kindOf f = some .requiredContext) :
    fieldDecision s r f = .block := by
  unfold IntentResolution.kindOf at h
  unfold fieldDecision
  cases hassessment : r.assessment f with
  | none => rfl
  | some a =>
    rw [hassessment] at h
    have hkind : a.kind = .requiredContext := by
      rcases h with h | h
      · cases h
      · exact Option.some.inj h
    dsimp only
    rw [hkind]

theorem fieldDecision_answer (h : r.kindOf f = some .answerContext) : fieldDecision s r f = .block ∨
    fieldDecision s r f = .defer ∧ r.recommendedNextAction ≠ .proposeToolCall ∧
      r.hasRequiredQuery = true := by
  obtain ⟨a, hassessment, hkind⟩ := Option.map_eq_some_iff.mp h
  unfold fieldDecision
  rw [hassessment]
  dsimp only
  rw [hkind]
  dsimp only
  split
  · rename_i hdefer
    exact .inr ⟨rfl, hdefer⟩
  · exact .inl rfl

theorem requiredQueries_any (question : Text) (queries : List RetrievalQueryItem) :
    (requiredQueries question queries).any (·.required) = true := by
  cases queries with
  | nil => rfl
  | cons first rest =>
    rw [requiredQueries]
    split
    · assumption
    · rfl

theorem mem_uniqueBy_id {items : List Text} {t : Text} (h : t ∈ items) : t ∈ uniqueBy id items := by
  obtain ⟨b, hb, hsame⟩ := exists_mem_uniqueBy id h
  exact (show b = t from hsame) ▸ hb

/-- A field that blocks is asked for. -/
theorem settleFields_block (hf : f ∈ r.missingFields) (hrefuse : r.recommendedNextAction ≠ .refuse)
    (h : fieldDecision s r f = .block) : f ∈ (settleFields s question r).missingFields ∧
      (settleFields s question r).recommendedNextAction = .askClarification := by
  have hblocking : f ∈ r.missingFields.filter fun f => fieldDecision s r f = .block :=
    List.mem_filter.mpr ⟨hf, decide_eq_true h⟩
  unfold settleFields
  rw [if_neg (not_or.mpr ⟨List.ne_nil_of_mem hf, hrefuse⟩)]
  dsimp only
  rw [if_pos (List.ne_nil_of_mem hblocking)]
  exact ⟨List.mem_filter.mpr ⟨hf, decide_eq_true hblocking⟩, rfl⟩

/-- A field that is deferred is so until after an answer from required queries. -/
theorem settleFields_defer (hf : f ∈ r.missingFields) (hrefuse : r.recommendedNextAction ≠ .refuse)
    (hpropose : r.recommendedNextAction ≠ .proposeToolCall) (hquery : r.hasRequiredQuery = true)
    (h : fieldDecision s r f = .defer) : f ∈ (settleFields s question r).deferredAnswerFields ∧
      (settleFields s question r).hasRequiredQuery = true := by
  have hdeferred : f ∈ uniqueBy id (r.deferredAnswerFields ++
      r.missingFields.filter fun f => fieldDecision s r f = .defer) :=
    mem_uniqueBy_id (List.mem_append_right _ (List.mem_filter.mpr ⟨hf, decide_eq_true h⟩))
  unfold settleFields
  rw [if_neg (not_or.mpr ⟨List.ne_nil_of_mem hf, hrefuse⟩)]
  dsimp only
  split
  · exact ⟨hdeferred, hquery⟩
  · split
    · exact ⟨hdeferred, hquery⟩
    · exact ⟨hdeferred, requiredQueries_any question _⟩

/-- The policy proposes no tool and adds no more assumptions than an intent has. -/
theorem settleFields_bounds (hscope : r.scopeAssumptions.length ≤ 8) :
    ((settleFields s question r).recommendedNextAction = .proposeToolCall →
      r.recommendedNextAction = .proposeToolCall) ∧
    (settleFields s question r).scopeAssumptions.length ≤ 8 := by
  unfold settleFields
  split
  · exact ⟨id, hscope⟩
  · dsimp only
    split
    · exact ⟨nofun, hscope⟩
    · split
      · exact ⟨nofun, hscope⟩
      · rename_i hcount
        split
        · exact ⟨id, hscope⟩
        · exact ⟨nofun, Nat.le_of_not_lt hcount⟩

theorem settleFields_refuse (h : r.recommendedNextAction = .refuse) : settleFields s question r = r := by
  unfold settleFields
  rw [if_pos (.inr h)]

end

theorem kindOf_eq_some {r : IntentResolution} {f : Text} {a : ClarificationAssessment}
    (ha : a ∈ r.clarificationAssessments) (hfield : a.field = f) : r.kindOf f = some a.kind := by
  unfold IntentResolution.kindOf
  cases hfound : r.assessment f with
  | none =>
    have hnone := List.find?_eq_none.mp hfound a ha
    exact absurd (decide_eq_true hfield) hnone
  | some b =>
    obtain ⟨hb, hbf⟩ := assessment_some hfound
    rw [List.inj_on_of_nodup_map r.assessed_once hb ha (hbf.trans hfield.symm)]
    rfl

/-- **Clarification.** A field without which a run may not go on is asked for, and a field that the
answer needs is asked for or deferred, unless it is of no account in a question about a purchase. -/
theorem clarification_keeps_context (lib : AnswerLibrary) (s : ClarificationSettings)
    (question : Text) (r r' : IntentResolution) (hscope : r.scopeAssumptions.length ≤ 8)
    (h : applyClarificationPolicy lib s question r = .ok r') :
    (∀ f ∈ r.missingFields, ¬ DropsField r question f →
      (∀ a ∈ r.clarificationAssessments, a.field = f → a.kind = .requiredContext) →
      f ∈ r'.missingFields ∧
        (r.recommendedNextAction ≠ .refuse → r'.recommendedNextAction = .askClarification)) ∧
    (∀ f ∈ r.missingFields, ¬ DropsField r question f →
      (∃ a ∈ r.clarificationAssessments, a.field = f ∧ a.kind = .answerContext) →
      f ∈ r'.missingFields ∨ f ∈ r'.deferredAnswerFields ∧ r'.hasRequiredQuery = true) ∧
    (r.recommendedNextAction = .refuse → r'.recommendedNextAction = .refuse) ∧
    (r'.recommendedNextAction = .proposeToolCall → r.recommendedNextAction = .proposeToolCall) ∧
    r'.scopeAssumptions.length ≤ 8 := by
  obtain ⟨requirements, _, h⟩ := bind_ok h
  obtain rfl := pure_ok h
  -- The requirements and the level that are set change nothing that the policy looks at.
  generalize hnormal : normalizePurchaseDependencies (normalizePerformancePeriod
    lib.toCharacterLibrary { r with answerRequirements := requirements } question) question = n
  have hn : Narrowed (DropsField r question) r n := by
    have hperiod : Narrowed (DropsField r question) r (normalizePerformancePeriod
        lib.toCharacterLibrary { r with answerRequirements := requirements } question) := by
      obtain ⟨kept, kinds, queries, refuses, refused, proposed, scope⟩ :=
        narrowed_period lib.toCharacterLibrary { r with answerRequirements := requirements } question
          (DropsField r question)
      exact ⟨kept, kinds, queries, refuses, refused, proposed, scope⟩
    have hpurchase := narrowed_purchase (normalizePerformancePeriod lib.toCharacterLibrary
      { r with answerRequirements := requirements } question) question
    rw [hnormal] at hpurchase
    refine hperiod.trans ?_
    unfold DropsField at hpurchase ⊢
    rwa [hperiod.queries] at hpurchase
  generalize hlevel : ({ n with appliedClarificationLevel := some s.level } : IntentResolution) = m
  have hm : Narrowed (DropsField r question) r m := by
    obtain ⟨kept, kinds, queries, refuses, refused, proposed, scope⟩ := hn
    rw [← hlevel]
    exact ⟨kept, kinds, queries, refuses, refused, proposed, scope⟩
  obtain ⟨hproposed, hlength⟩ := settleFields_bounds (s := s) question (hm.scope hscope)
  refine ⟨fun f hf hdropped hkind => ?_, fun f hf hdropped hkind => ?_, fun hrefuse => ?_,
    fun hpropose => hm.proposed (hproposed hpropose), hlength⟩
  · have hfm := hm.kept f hf hdropped
    by_cases hrefuse : m.recommendedNextAction = .refuse
    · rw [settleFields_refuse question hrefuse]
      exact ⟨hfm, fun hne => absurd (hm.refused hrefuse) hne⟩
    · have hblock : fieldDecision s m f = .block := by
        refine fieldDecision_required ?_
        rw [hm.kinds f hdropped hf]
        cases hfound : r.assessment f with
        | none => exact .inl (by rw [IntentResolution.kindOf, hfound]; rfl)
        | some a =>
          obtain ⟨ha, hfield⟩ := assessment_some hfound
          rw [IntentResolution.kindOf, hfound, Option.map_some, hkind a ha hfield]
          exact .inr rfl
      obtain ⟨hmissing, hask⟩ := settleFields_block question hfm hrefuse hblock
      exact ⟨hmissing, fun _ => hask⟩
  · have hfm := hm.kept f hf hdropped
    obtain ⟨a, ha, hfield, hanswer⟩ := hkind
    have hkindOf : m.kindOf f = some .answerContext := by
      rw [hm.kinds f hdropped hf, kindOf_eq_some ha hfield, hanswer]
    by_cases hrefuse : m.recommendedNextAction = .refuse
    · rw [settleFields_refuse question hrefuse]
      exact .inl hfm
    · rcases fieldDecision_answer (s := s) hkindOf with hblock | ⟨hdefer, hpropose, hquery⟩
      · exact .inl (settleFields_block question hfm hrefuse hblock).1
      · exact .inr (settleFields_defer question hfm hrefuse hpropose hquery hdefer)
  · rw [settleFields_refuse question (hm.refuses hrefuse)]
    exact hm.refuses hrefuse

/-- An intent to retrieve that lacks an identity and a preference. -/
def Sample.identityMissing : IntentResolution where
  missingFields := ["identity".toList, "scope".toList]
  recommendedNextAction := .planRetrieval
  clarificationAssessments := [⟨"scope".toList, .preference, "all".toList⟩]

theorem clarification_keeps_identity : ∃ r', applyClarificationPolicy Sample.answerLibrary {} "q".toList
    Sample.identityMissing = .ok r' ∧ "identity".toList ∈ r'.missingFields ∧
      r'.recommendedNextAction = .askClarification := by
  have hreturns : ∃ r', applyClarificationPolicy Sample.answerLibrary {} "q".toList
      Sample.identityMissing = .ok r' := ⟨_, rfl⟩
  obtain ⟨r', h⟩ := hreturns
  obtain ⟨hmissing, hask⟩ := (clarification_keeps_context Sample.answerLibrary {} "q".toList
    Sample.identityMissing r' (by decide) h).1 "identity".toList (by decide)
    (fun hdrops => absurd hdrops.2 (by decide)) (by decide)
  exact ⟨r', h, hmissing, hask (by decide)⟩

end ProofAgent.Answers
