import ProofAgent.Base.Mapping
import ProofAgent.Control.GoalControl

/-! # Whose answer stands under a name

`answered_fields` puts every supplied value under its field's name and under its label, one
question after another. Under a name stands the value of the last field that has it as its
name or as its label; the value of the most recent answer for that name can be another one. -/
namespace ProofAgent

open Base

/-- A field that an answer of the current goal revision supplied. An answered question has
the time of its answer. -/
structure SuppliedField where
  field : QuestionField
  value : Json
  answeredAt : Instant
  deriving DecidableEq

namespace SuppliedField

def named (k : String) (s : SuppliedField) : Bool := s.field.name = k

/-- The field's name or its label. -/
def under (k : String) (s : SuppliedField) : Bool := s.field.name = k || s.field.label = k

end SuppliedField

def suppliedBy (task : WorkflowTaskSnapshot) (question : QuestionState) : List SuppliedField :=
  match currentAnswer task question with
  | none => []
  | some answer => question.request.fields.filterMap fun field =>
    (answer.values.get? field.name).map fun value =>
      ⟨field, value.toJson, question.answeredAt.getD 0⟩

/-- The supplied fields in the order of the questions. -/
def supplied (task : WorkflowTaskSnapshot) : List SuppliedField :=
  task.questions.flatMap (suppliedBy task)

/-- The field named `k` that was answered most recently. -/
def latestNamed (k : String) (fields : List SuppliedField) : Option SuppliedField :=
  fields.foldl (fun best s =>
    if s.named k = true ∧ best.all (fun b => b.answeredAt ≤ s.answeredAt) = true then some s else best) none

/-- The last field with the name or the label `k`. -/
def lastUnder (k : String) (fields : List SuppliedField) : Option SuppliedField :=
  fields.reverse.find? (·.under k)

/-- The last field under a name, if there is one, holds the value of the most recently
answered field of that name. -/
def AttributedRight (task : WorkflowTaskSnapshot) (k : String) : Prop :=
  ∀ last, lastUnder k (supplied task) = some last →
    ∃ recent, latestNamed k (supplied task) = some recent ∧ last.value = recent.value

/-! ## The most recent answer -/

theorem latestNamed_append (k : String) (fields : List SuppliedField) (s : SuppliedField) :
    latestNamed k (fields ++ [s]) =
      if s.named k = true ∧ (latestNamed k fields).all (fun b => b.answeredAt ≤ s.answeredAt) = true then
        some s
      else latestNamed k fields := by
  unfold latestNamed
  rw [List.foldl_append]
  rfl

theorem lastUnder_append (k : String) (fields : List SuppliedField) (s : SuppliedField) :
    lastUnder k (fields ++ [s]) = if s.under k = true then some s else lastUnder k fields := by
  unfold lastUnder
  rw [List.reverse_append, List.reverse_singleton, List.singleton_append, List.find?_cons]
  cases s.under k <;> rfl

/-- **The most recent answer** is an answer for the name, and no answer for it is later. -/
theorem latestNamed_spec (k : String) (fields : List SuppliedField) :
    match latestNamed k fields with
    | none => ∀ s ∈ fields, s.named k = false
    | some recent => recent ∈ fields ∧ recent.named k = true ∧
      ∀ s ∈ fields, s.named k = true → s.answeredAt ≤ recent.answeredAt := by
  induction fields using List.reverseRecOn with
  | nil => exact fun _ h => (nomatch h)
  | append_singleton fields s ih =>
    rw [latestNamed_append]
    cases hlatest : latestNamed k fields with
    | none =>
      rw [hlatest] at ih
      by_cases hnamed : s.named k = true
      · rw [if_pos ⟨hnamed, rfl⟩]
        refine ⟨List.mem_append_right _ (List.mem_singleton_self s), hnamed, fun other hother hk => ?_⟩
        rcases List.mem_append.mp hother with hother | hother
        · rw [ih other hother] at hk
          cases hk
        · rw [List.mem_singleton.mp hother]
      · rw [if_neg fun h => hnamed h.1]
        intro other hother
        rcases List.mem_append.mp hother with hother | hother
        · exact ih other hother
        · rw [List.mem_singleton.mp hother]
          exact Bool.eq_false_iff.mpr hnamed
    | some best =>
      rw [hlatest] at ih
      obtain ⟨hmem, hbest, hlast⟩ := ih
      by_cases hnext : s.named k = true ∧ best.answeredAt ≤ s.answeredAt
      · rw [if_pos ⟨hnext.1, by simpa using hnext.2⟩]
        refine ⟨List.mem_append_right _ (List.mem_singleton_self s), hnext.1, fun other hother hk => ?_⟩
        rcases List.mem_append.mp hother with hother | hother
        · exact (hlast other hother hk).trans hnext.2
        · rw [List.mem_singleton.mp hother]
      · rw [if_neg fun h => hnext ⟨h.1, by simpa using h.2⟩]
        refine ⟨List.mem_append_left _ hmem, hbest, fun other hother hk => ?_⟩
        rcases List.mem_append.mp hother with hother | hother
        · exact hlast other hother hk
        · obtain rfl := List.mem_singleton.mp hother
          have hnot : ¬ best.answeredAt ≤ other.answeredAt := fun hle => hnext ⟨hk, hle⟩
          exact (not_le.mp hnot).le

/-! ## What stands under a name -/

theorem lastUnder_none {k : String} {fields : List SuppliedField} (h : lastUnder k fields = none) :
    latestNamed k fields = none := by
  cases hlatest : latestNamed k fields with
  | none => rfl
  | some recent =>
    have hspec := latestNamed_spec k fields
    rw [hlatest] at hspec
    have hno := List.find?_eq_none.mp h recent (List.mem_reverse.mpr hspec.1)
    have hnamed : recent.field.name = k := of_decide_eq_true hspec.2.1
    exact absurd (by simp [SuppliedField.under, hnamed]) hno

theorem toJson_canonical (value : Scalar) : Json.reshape .float value.toJson = value.toJson := by
  cases value <;> rfl

/-- The entries of the supplied fields. -/
def SuppliedField.entries (s : SuppliedField) : List (String × Json) :=
  [(s.field.name, s.value), (s.field.label, s.value)]

theorem answeredEntries_eq (task : WorkflowTaskSnapshot) (question : QuestionState) :
    answeredEntries task question = (suppliedBy task question).flatMap SuppliedField.entries := by
  unfold answeredEntries suppliedBy
  cases currentAnswer task question with
  | none => rfl
  | some answer =>
    dsimp only
    induction question.request.fields with
    | nil => rfl
    | cons field rest ih =>
      rw [List.flatMap_cons, ih, List.filterMap_cons]
      cases answer.values.get? field.name with
      | none => rfl
      | some value => rfl

theorem supplied_canonical {task : WorkflowTaskSnapshot} {s : SuppliedField} (h : s ∈ supplied task) :
    Json.reshape .float s.value = s.value := by
  obtain ⟨question, _, hs⟩ := List.mem_flatMap.mp h
  unfold suppliedBy at hs
  cases hanswer : currentAnswer task question with
  | none =>
    rw [hanswer] at hs
    cases hs
  | some answer =>
    rw [hanswer] at hs
    obtain ⟨field, _, hfield⟩ := List.mem_filterMap.mp hs
    obtain ⟨value, _, rfl⟩ := Option.map_eq_some_iff.mp hfield
    exact toJson_canonical value

/-- Assigning the fields in turn leaves under a key the last field's value. -/
theorem assigned_get? (k : String) (m : FrozenDict) (fields : List SuppliedField)
    (hcanonical : ∀ s ∈ fields, Json.reshape .float s.value = s.value) :
    ((fields.flatMap SuppliedField.entries).foldl (fun m entry => m.insert entry.1 entry.2) m).get? k =
      match lastUnder k fields with
      | none => m.get? k
      | some last => some last.value := by
  induction fields using List.reverseRecOn with
  | nil => rfl
  | append_singleton fields s ih =>
    have hs := hcanonical s (List.mem_append_right _ (List.mem_singleton_self s))
    have ih := ih fun other hother => hcanonical other (List.mem_append_left _ hother)
    have hentries : (fields ++ [s]).flatMap SuppliedField.entries =
        fields.flatMap SuppliedField.entries ++ s.entries := by simp
    rw [hentries, List.foldl_append, lastUnder_append]
    unfold SuppliedField.entries
    rw [List.foldl_cons, List.foldl_cons, List.foldl_nil, FrozenDict.get?_insert,
      FrozenDict.get?_insert, hs]
    unfold SuppliedField.entries at ih
    rw [ih]
    unfold SuppliedField.under
    by_cases hlabel : k = s.field.label
    · rw [if_pos hlabel, if_pos (by simp [hlabel])]
    · by_cases hname : k = s.field.name
      · rw [if_neg hlabel, if_pos hname, if_pos (by simp [hname])]
      · rw [if_neg hlabel, if_neg hname, if_neg (by simp [ne_comm.mp hlabel, ne_comm.mp hname])]

theorem answeredFields_get? (task : WorkflowTaskSnapshot) (k : String) :
    (answeredFields task).get? k = (lastUnder k (supplied task)).map (·.value) := by
  have hentries : task.questions.flatMap (answeredEntries task) =
      (supplied task).flatMap SuppliedField.entries := by
    unfold supplied
    rw [List.flatMap_assoc]
    exact List.flatMap_congr fun question _ => answeredEntries_eq task question
  unfold answeredFields ToolProposalParameterBinder.dictOf
  rw [hentries, assigned_get? k .empty _ fun s hs => supplied_canonical hs]
  cases lastUnder k (supplied task) <;> rfl

/-- Answers in the order of their questions, and no name that is another field's label, are
attributed right. -/
theorem attributedRight_of_separate (task : WorkflowTaskSnapshot) (k : String)
    (hlabels : ∀ s ∈ supplied task, s.field.label = k → s.field.name = k)
    (horder : ((supplied task).filter (·.named k)).Pairwise (·.answeredAt ≤ ·.answeredAt)) :
    AttributedRight task k := by
  have hsame : lastUnder k (supplied task) = latestNamed k (supplied task) := by
    generalize supplied task = fields at hlabels horder
    induction fields using List.reverseRecOn with
    | nil => rfl
    | append_singleton fields s ih =>
      rw [List.filter_append, List.pairwise_append] at horder
      have ih := ih (fun other hother => hlabels other (List.mem_append_left _ hother)) horder.1
      rw [lastUnder_append, latestNamed_append, ih]
      by_cases hnamed : s.named k = true
      · have hunder : s.under k = true := by
          have hname : s.field.name = k := of_decide_eq_true hnamed
          simp [SuppliedField.under, hname]
        have hlater : (latestNamed k fields).all (fun b => b.answeredAt ≤ s.answeredAt) = true := by
          have hspec := latestNamed_spec k fields
          cases hlatest : latestNamed k fields with
          | none => rfl
          | some best =>
            rw [hlatest] at hspec
            have hbest : best ∈ fields.filter (·.named k) := List.mem_filter.mpr ⟨hspec.1, hspec.2.1⟩
            have hs : s ∈ [s].filter (·.named k) :=
              List.mem_filter.mpr ⟨List.mem_singleton_self s, hnamed⟩
            simpa using horder.2.2 best hbest s hs
        rw [if_pos hunder, if_pos ⟨hnamed, hlater⟩]
      · have hunder : ¬ s.under k = true := by
          intro hunder
          unfold SuppliedField.under at hunder
          rw [Bool.or_eq_true, decide_eq_true_iff, decide_eq_true_iff] at hunder
          have hname := hunder.elim id
            (hlabels s (List.mem_append_right _ (List.mem_singleton_self s)))
          exact hnamed (decide_eq_true hname)
        rw [if_neg hunder, if_neg fun h => hnamed h.1]
  intro last hlast
  exact ⟨last, hsame ▸ hlast, rfl⟩

namespace Sample

def regionGoal : GoalContract :=
  ⟨{ taskId := "task", revision := 1, objective := "Report the region.", sourceInputRef := "input"
     acceptanceCriteria := [{ criterionId := "c", description := "d", verifier := .sourceSupport }] },
    by decide⟩

/-- A question for one field, and its answer. -/
def answeredQuestion (questionId name label value : String) (answeredAt : Instant)
    (hname : 1 ≤ name.length ∧ name.length ≤ 128) (hvalue : (Scalar.str value).bounded = true) :
    QuestionState where
  request := ⟨{ questionId, taskId := "task", goalRevision := 1, stage := .plan
                fields := [{ name, label }], expiresAt := days 1, dedupeKey := questionId
                checkpointRef := "checkpoint" }, by simp [QuestionRequestFields.checks, check]⟩
  status := .answered
  answer := some { questionId, expectedGoalRevision := 1, values := ⟨[(name, .str value)], by simp⟩
                   idempotencyKey := questionId, size := by simp
                   bounded := by
                     intro p hp
                     obtain rfl := List.mem_singleton.mp hp
                     exact ⟨hname.1, hname.2, hvalue⟩ }
  answerFingerprint := some "fingerprint"
  answeredAt := some answeredAt
  coherent_answer := by simp

/-- A task that was told the region, and then a note under the label "region". -/
def regionTask : WorkflowTaskSnapshot :=
  ⟨{ goal := regionGoal, owner := ⟨"alice", "agent", "tenant"⟩, version := 5
     questions := [answeredQuestion "q1" "region" "Region" "North" (seconds 10) (by decide) (by decide),
       answeredQuestion "q2" "note" "region" "South" (seconds 20) (by decide) (by decide)]
     createdAt := 0, updatedAt := seconds 20, rawContentExpiresAt := days 1 }, by decide⟩

end Sample

end ProofAgent
