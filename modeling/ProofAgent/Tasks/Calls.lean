import ProofAgent.Tasks.Changes
import ProofAgent.Delivery.TaskExecutionService

/-! # What a task command has done when it returns

A command either found nothing to do, or it has replaced the row that it read
by one of the changes. -/
namespace ProofAgent

open Base WorkflowTaskRepository

variable {rt : Runtime} {V : CriterionAssessment → Prop} {t t' : TaskTables}
  {s u : WorkflowTaskSnapshot} {taskId : String} {owner : TaskOwner} {now : Instant} {version : Nat}

/-- The command has read `s` and written `u`. -/
structure Commits (rt : Runtime) (V : CriterionAssessment → Prop) (t t' : TaskTables)
    (taskId : String) (owner : TaskOwner) (s u : WorkflowTaskSnapshot) (now : Instant)
    (intent : Option ResumeIntent) : Prop where
  row : ∃ row new, rowFor taskId owner t = some row ∧ Swapped rt t t' row new s u intent
  change : ∃ f, SnapshotChange rt V s now intent f ∧ Writes f s now u

/-- The command returned, with `u` as the task's snapshot. -/
def Returned (rt : Runtime) (V : CriterionAssessment → Prop) (t t' : TaskTables)
    (taskId : String) (owner : TaskOwner) (u : WorkflowTaskSnapshot) (now : Instant) : Prop :=
  ∃ s, WorkflowTaskService.get rt taskId owner t = .ok s ∧
    (t' = t ∧ u = s ∨ Commits rt V t t' taskId owner s u now none)

theorem get_identity (hrows : RowsHold rt t) (h : WorkflowTaskService.get rt taskId owner t = .ok s) :
    s.goal.taskId = taskId ∧ s.owner = owner := by
  obtain ⟨row, hfor, hdecode⟩ := get_ok.mp h
  obtain ⟨hmem, hid, howner⟩ := rowFor_eq_some_iff.mp hfor
  obtain ⟨s₀, hholds⟩ := hrows row hmem
  have hre := hholds.reread hdecode
  exact ⟨by rw [hre.goal, ← hholds.task_id, hid], by rw [hre.owner, ← hholds.owner, howner]⟩

theorem current_ok (h : WorkflowTaskService.current rt taskId owner version now t = .ok s) :
    WorkflowTaskService.get rt taskId owner t = .ok s ∧ s.version = version ∧
      now < s.rawContentExpiresAt ∧ s.updatedAt ≤ now := by
  obtain ⟨s₁, hget, h⟩ := bind_ok h
  obtain ⟨_, hversion, h⟩ := bind_ok h
  obtain ⟨_, hopen, h⟩ := bind_ok h
  obtain ⟨_, hclock, h⟩ := bind_ok h
  cases pure_ok h
  exact ⟨hget, require_ok hversion, require_ok hopen, require_ok hclock⟩

/-- **A change that was swapped in.** -/
theorem Commits.of_swap {f : SnapshotFields} {intent : Option ResumeIntent} {v : Nat}
    (hrows : RowsHold rt t) (hget : WorkflowTaskService.get rt taskId owner t = .ok s)
    (hchange : SnapshotChange rt V s now intent f) (hwrites : Writes f s now u)
    (h : compareAndSwap rt u owner v intent t = .ok t') :
    Commits rt V t t' taskId owner s u now intent := by
  have htask : u.goal.taskId = s.goal.taskId := by
    rw [hwrites.goal, hchange.task_id]
  exact ⟨compareAndSwap_ok hrows hget htask h, f, hchange, hwrites⟩

namespace WorkflowTaskService

theorem create_ok {goal : GoalContract} {latestRunId sha conversationId : Option String}
    {allow : Bool}
    (h : create rt goal owner now latestRunId sha conversationId allow t = .ok (u, t')) :
    WorkflowTaskRepository.create rt u t = .ok t' ∧ u.goal.taskId = goal.taskId ∧
      u.owner = owner ∧ u.phase = .active ∧ u.questions = [] ∧ u.assessments = [] ∧
      u.latestRunId = latestRunId ∧ u.budgetUsage = {} ∧ u.createdAt = now ∧
      u.updatedAt = now ∧ u.creationRequestSha256 = sha := by
  obtain ⟨_, _, h⟩ := bind_ok h
  obtain ⟨compiled, hcompiled, h⟩ := bind_ok h
  obtain ⟨snapshot, hmake, h⟩ := bind_ok h
  obtain ⟨t₁, hcreate, h⟩ := bind_ok h
  obtain ⟨rfl, rfl⟩ := Prod.mk.inj (pure_ok h)
  have hf := WorkflowTaskSnapshot.make_ok hmake
  refine ⟨hcreate, ?_⟩
  rw [hf]
  exact ⟨(compileGoalRequirements_ok hcompiled).1, rfl, rfl, rfl, rfl, rfl, rfl, rfl, rfl, rfl⟩

theorem requestResume_ok {intent : ResumeIntent} (hrows : RowsHold rt t)
    (h : requestResume rt taskId owner version now t = .ok (intent, t')) :
    ∃ s u, get rt taskId owner t = .ok s ∧ s.version = version ∧
      intent = continueIntent rt s s.goal.taskId s.owner now ∧
      Commits rt V t t' taskId owner s u now (some intent) := by
  obtain ⟨s, hs, h⟩ := bind_ok h
  obtain ⟨_, hidle, h⟩ := bind_ok h
  obtain ⟨u, hu, h⟩ := bind_ok h
  obtain ⟨t₁, hswap, h⟩ := bind_ok h
  obtain ⟨rfl, rfl⟩ := Prod.mk.inj (pure_ok h)
  obtain ⟨hget, hversion, _, _⟩ := current_ok hs
  obtain ⟨rfl, rfl⟩ := get_identity hrows hget
  exact ⟨s, u, hget, hversion, rfl, .of_swap hrows hget
    (.continued (require_ok hidle).1 (require_ok hidle).2) (changed_ok hu) hswap⟩

theorem renewExpiredQuestions_ok (hrows : RowsHold rt t)
    (h : renewExpiredQuestions rt taskId owner version now t = .ok (u, t')) :
    Returned rt V t t' taskId owner u now := by
  obtain ⟨s, hs, h⟩ := bind_ok h
  obtain ⟨_, hwaiting, h⟩ := bind_ok h
  obtain ⟨hget, _⟩ := current_ok hs
  obtain ⟨rfl, rfl⟩ := get_identity hrows hget
  simp only at h
  split at h
  · obtain ⟨rfl, rfl⟩ := Prod.mk.inj (pure_ok h)
    exact ⟨_, hget, .inl ⟨rfl, rfl⟩⟩
  · obtain ⟨u₁, hu, h⟩ := bind_ok h
    obtain ⟨t₁, hswap, h⟩ := bind_ok h
    obtain ⟨rfl, rfl⟩ := Prod.mk.inj (pure_ok h)
    exact ⟨s, hget, .inr (.of_swap hrows hget (.renewed (require_ok hwaiting)) (changed_ok hu)
      hswap)⟩

theorem recordFailedRun_ok {runId : String} (hrows : RowsHold rt t)
    (h : recordFailedRun rt taskId runId owner now t = .ok (u, t')) :
    Returned rt V t t' taskId owner u now := by
  obtain ⟨s, hget, h⟩ := bind_ok h
  split at h
  · obtain ⟨rfl, rfl⟩ := Prod.mk.inj (pure_ok h)
    exact ⟨_, hget, .inl ⟨rfl, rfl⟩⟩
  · rename_i hnews
    obtain ⟨u₁, hu, h⟩ := bind_ok h
    obtain ⟨t₁, hswap, h⟩ := bind_ok h
    obtain ⟨rfl, rfl⟩ := Prod.mk.inj (pure_ok h)
    exact ⟨s, hget, .inr (.of_swap hrows hget (.runFailed runId (Bool.eq_false_iff.mpr hnews))
      (changed_ok hu) hswap)⟩

theorem ask_ok {question : QuestionRequest} (hrows : RowsHold rt t)
    (h : ask rt taskId question owner version now t = .ok (u, t')) :
    Returned rt V t t' taskId owner u now := by
  obtain ⟨s, hs, h⟩ := bind_ok h
  obtain ⟨u₁, hu, h⟩ := bind_ok h
  obtain ⟨hget, _⟩ := current_ok hs
  split at h
  · rename_i hsame
    obtain ⟨rfl, rfl⟩ := Prod.mk.inj (pure_ok h)
    exact ⟨s, hget, .inl ⟨rfl, hsame⟩⟩
  · rename_i hne
    obtain ⟨t₁, hswap, h⟩ := bind_ok h
    obtain ⟨rfl, rfl⟩ := Prod.mk.inj (pure_ok h)
    rcases reduceQuestion_ok hu with rfl | ⟨hasks, hwrites⟩
    · exact absurd rfl hne
    · exact ⟨s, hget, .inr (.of_swap hrows hget (.asked question hasks) hwrites hswap)⟩

theorem readAnswer_ok {a : TypedAnswer} {intentId : String} {result : AnswerSubmission}
    (h : readAnswer rt taskId a owner now intentId t = .ok (s, result)) :
    get rt taskId owner t = .ok s ∧ (now < s.rawContentExpiresAt ∧ s.updatedAt ≤ now) ∧
      reduceAnswer rt s a now intentId = .ok result := by
  obtain ⟨s₁, hget, h⟩ := bind_ok h
  obtain ⟨_, hclock, h⟩ := bind_ok h
  obtain ⟨r, hreduce, h⟩ := bind_ok h
  obtain ⟨rfl, rfl⟩ := Prod.mk.inj (pure_ok h)
  exact ⟨hget, require_ok hclock, hreduce⟩

theorem answer_ok {a : TypedAnswer} {intentId : String} {result : AnswerSubmission}
    (hrows : RowsHold rt t)
    (h : answer rt taskId a owner now intentId t = .ok (result, t')) :
    ∃ s, readAnswer rt taskId a owner now intentId t = .ok (s, result) ∧
      ((result = { snapshot := s, replayed := true } ∧ t' = t) ∨
        result.replayed = false ∧ (∃ item, Accepts s a item now) ∧
          Commits rt V t t' taskId owner s result.snapshot now result.resumeIntent) := by
  obtain ⟨⟨s, r⟩, hread, h⟩ := bind_ok h
  obtain ⟨hget, _, hreduce⟩ := readAnswer_ok hread
  simp only at h
  split at h
  · rename_i hreplayed
    obtain ⟨rfl, rfl⟩ := Prod.mk.inj (pure_ok h)
    refine ⟨s, hread, .inl ⟨?_, rfl⟩⟩
    rcases reduceAnswer_ok hreduce with rfl | ⟨hnot, _⟩
    · rfl
    · rw [hnot] at hreplayed; cases hreplayed
  · rename_i hnew
    obtain ⟨t₁, hswap, h⟩ := bind_ok h
    obtain ⟨rfl, rfl⟩ := Prod.mk.inj (pure_ok h)
    refine ⟨s, hread, .inr ⟨Bool.eq_false_iff.mpr hnew, ?_⟩⟩
    rcases reduceAnswer_ok hreduce with rfl | ⟨_, item, haccepts, ⟨hwaits, hnone, hwrites⟩ |
      ⟨hresumes, hsome, hwrites⟩⟩
    · exact absurd rfl hnew
    · rw [hnone] at hswap ⊢
      exact ⟨⟨item, haccepts⟩, .of_swap hrows hget (.answered a item haccepts hwaits) hwrites hswap⟩
    · rw [hsome] at hswap ⊢
      exact ⟨⟨item, haccepts⟩,
        .of_swap hrows hget (.resumed a item intentId haccepts hresumes) hwrites hswap⟩

theorem reviseGoal_ok {goal : GoalContract} (hrows : RowsHold rt t)
    (h : reviseGoal rt taskId goal owner version now t = .ok (u, t')) :
    Returned rt V t t' taskId owner u now := by
  obtain ⟨s, hs, h⟩ := bind_ok h
  obtain ⟨_, hnext, h⟩ := bind_ok h
  obtain ⟨compiled, hcompiled, h⟩ := bind_ok h
  obtain ⟨u₁, hu, h⟩ := bind_ok h
  obtain ⟨t₁, hswap, h⟩ := bind_ok h
  obtain ⟨rfl, rfl⟩ := Prod.mk.inj (pure_ok h)
  obtain ⟨hget, _⟩ := current_ok hs
  obtain ⟨hid, _⟩ := get_identity hrows hget
  obtain ⟨hworking, htask, hrevision⟩ := require_ok hnext
  obtain ⟨htask', hrevision'⟩ := compileGoalRequirements_ok hcompiled
  exact ⟨s, hget, .inr (.of_swap hrows hget
    (.revised compiled hworking (by rw [htask', htask, hid]) (hrevision'.trans hrevision))
    (changed_ok hu) hswap)⟩

theorem assess_ok {assessments : List CriterionAssessment} {refs : List String}
    (hrows : RowsHold rt t)
    (hV : ∀ a ∈ assessments, (∀ r ∈ a.proofRefs, r ∈ refs) → V a)
    (h : assess rt taskId assessments owner version now refs t = .ok (u, t')) :
    Returned rt V t t' taskId owner u now := by
  obtain ⟨s, hs, h⟩ := bind_ok h
  obtain ⟨_, hactive, h⟩ := bind_ok h
  obtain ⟨merged, hmerged, h⟩ := bind_ok h
  obtain ⟨u₁, hu, h⟩ := bind_ok h
  obtain ⟨t₁, hswap, h⟩ := bind_ok h
  obtain ⟨rfl, rfl⟩ := Prod.mk.inj (pure_ok h)
  obtain ⟨hget, _⟩ := current_ok hs
  exact ⟨s, hget, .inr (.of_swap hrows hget
    (.assessed assessErrors assessments merged refs (require_ok hactive) hV hmerged)
    (changed_ok hu) hswap)⟩

theorem transition_ok {phase : TaskPhase} (hrows : RowsHold rt t)
    (h : transition rt taskId phase owner version now t = .ok (u, t')) :
    Returned rt V t t' taskId owner u now := by
  obtain ⟨s, hs, h⟩ := bind_ok h
  obtain ⟨_, hallowed, h⟩ := bind_ok h
  obtain ⟨_, hfree, h⟩ := bind_ok h
  obtain ⟨_, hdone, h⟩ := bind_ok h
  obtain ⟨u₁, hu, h⟩ := bind_ok h
  obtain ⟨t₁, hswap, h⟩ := bind_ok h
  obtain ⟨rfl, rfl⟩ := Prod.mk.inj (pure_ok h)
  obtain ⟨hget, _⟩ := current_ok hs
  exact ⟨s, hget, .inr (.of_swap hrows hget
    (.transitioned phase (require_ok hallowed) (require_ok hfree) (require_ok hdone))
    (changed_ok hu) hswap)⟩

theorem expireQuestions_ok (hrows : RowsHold rt t)
    (h : expireQuestions rt taskId owner version now t = .ok (u, t')) :
    Returned rt V t t' taskId owner u now := by
  obtain ⟨s, hs, h⟩ := bind_ok h
  obtain ⟨hget, _⟩ := current_ok hs
  simp only at h
  split at h
  · obtain ⟨rfl, rfl⟩ := Prod.mk.inj (pure_ok h)
    exact ⟨_, hget, .inl ⟨rfl, rfl⟩⟩
  · obtain ⟨u₁, hu, h⟩ := bind_ok h
    obtain ⟨t₁, hswap, h⟩ := bind_ok h
    obtain ⟨rfl, rfl⟩ := Prod.mk.inj (pure_ok h)
    exact ⟨s, hget, .inr (.of_swap hrows hget .expired (changed_ok hu) hswap)⟩

theorem bindRun_ok {runId : String} {delta : Option TaskBudgetUsage} (hrows : RowsHold rt t)
    (h : bindRun rt taskId runId owner version now delta t = .ok (u, t')) :
    ∃ s, get rt taskId owner t = .ok s ∧ Commits rt V t t' taskId owner s u now none := by
  obtain ⟨s, hs, h⟩ := bind_ok h
  obtain ⟨_, hworking, h⟩ := bind_ok h
  obtain ⟨usage, husage, h⟩ := bind_ok h
  obtain ⟨u₁, hu, h⟩ := bind_ok h
  obtain ⟨t₁, hswap, h⟩ := bind_ok h
  obtain ⟨rfl, rfl⟩ := Prod.mk.inj (pure_ok h)
  obtain ⟨hget, _⟩ := current_ok hs
  exact ⟨s, hget, .of_swap hrows hget (.bound runId _ usage (require_ok hworking) husage)
    (changed_ok hu) hswap⟩

/-- An update projects no question, or one that `reduce_question` accepts. -/
theorem projectQuestion_ok {update : WorkflowTaskUpdate} {runId : String}
    {r : List QuestionState × TaskPhase} (hactive : s.phase = .active)
    (h : projectQuestion rt s update now runId = .ok r) :
    (r.1 = s.questions ∧ r.2 ≠ .waitingForInput) ∨
      ∃ question, Asks s question now ∧ r.1 = (askedFields s question now).questions ∧
        r.2 = (askedFields s question now).phase := by
  unfold projectQuestion at h
  split at h
  · obtain ⟨question, _, h⟩ := bind_ok h
    obtain ⟨projected, hprojected, h⟩ := bind_ok h
    cases pure_ok h
    rcases reduceQuestion_ok hprojected with rfl | ⟨hasks, hwrites⟩
    · exact .inl ⟨rfl, by simp [hactive]⟩
    · exact .inr ⟨question, hasks, hwrites.questions, hwrites.phase⟩
  · obtain ⟨_, hphase, h⟩ := bind_ok h
    cases pure_ok h
    exact .inl ⟨rfl, require_ok hphase⟩

theorem applyUpdate_ok {update : WorkflowTaskUpdate} {runId sha : String} (hrows : RowsHold rt t)
    (hV : ∀ a ∈ update.assessments, (∀ r ∈ a.proofRefs, r ∈ update.verifiedProofRefs) → V a)
    (h : applyUpdate rt update owner now runId sha t = .ok (u, t')) :
    Returned rt V t t' update.taskId owner u now := by
  obtain ⟨s, hs, h⟩ := bind_ok h
  obtain ⟨_, _, h⟩ := bind_ok h
  obtain ⟨_, howns, h⟩ := bind_ok h
  obtain ⟨merged, hmerged, h⟩ := bind_ok h
  obtain ⟨usage, husage, h⟩ := bind_ok h
  obtain ⟨⟨questions, phase⟩, hprojected, h⟩ := bind_ok h
  obtain ⟨u₁, hu, h⟩ := bind_ok h
  obtain ⟨t₁, hswap, h⟩ := bind_ok h
  obtain ⟨rfl, rfl⟩ := Prod.mk.inj (pure_ok h)
  obtain ⟨hget, _⟩ := current_ok hs
  have hactive := (require_ok howns).1
  have hwrites := changed_ok hu
  refine ⟨s, hget, .inr ?_⟩
  rcases projectQuestion_ok hactive hprojected with ⟨hsame, hphase⟩ | ⟨question, hasks, hq, hp⟩
  · simp only at hsame hphase
    subst hsame
    exact .of_swap hrows hget (.updated updateErrors _ merged _ _ usage phase hactive hphase hV
      hmerged husage) hwrites hswap
  · simp only at hq hp
    subst hq hp
    exact .of_swap hrows hget (.updatedAsking updateErrors _ merged _ _ usage question hactive hasks
      hV hmerged husage) hwrites hswap

end WorkflowTaskService

end ProofAgent
