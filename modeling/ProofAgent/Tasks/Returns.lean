import ProofAgent.Tasks.RoundTrip

/-! # When the task commands return

A command that has read a snapshot fails to write only for a reason that its
checks name: the texts of a snapshot that was stored can be stored again, and
what was read back once reads back the same. -/
namespace ProofAgent

open Base WorkflowTaskRepository

variable {rt : Runtime} {s u : WorkflowTaskSnapshot} {now : Instant} {t : TaskTables}

/-! ## Validation -/

/-- What the validator of a snapshot asks of its fields. -/
structure SnapshotFields.Valid (f : SnapshotFields) : Prop where
  version : 1 ≤ f.version
  questions : f.questions.length ≤ 64
  assessments : f.assessments.length ≤ 32
  times : f.createdAt ≤ f.updatedAt ∧ f.createdAt < f.rawContentExpiresAt
  question_ids : (f.questions.map (·.request.questionId)).Nodup
  assessment_ids : (f.assessments.map (·.criterionId)).Nodup

theorem SnapshotFields.checks_iff {f : SnapshotFields} :
    (∀ c ∈ f.checks, c.1 = true) ↔ f.Valid := by
  simp only [checks, List.forall_mem_cons, check_iff, List.not_mem_nil, false_implies,
    implies_true, and_true]
  constructor
  · rintro ⟨h1, h2, h3, h4, h5, h6⟩
    exact ⟨h1, h2, h3, h4, h5, h6⟩
  · rintro ⟨h1, h2, h3, h4, h5, h6⟩
    exact ⟨h1, h2, h3, h4, h5, h6⟩

theorem WorkflowTaskSnapshot.valid (s : WorkflowTaskSnapshot) : s.toSnapshotFields.Valid :=
  SnapshotFields.checks_iff.mp s.accepted

theorem changed_of {updates : SnapshotFields → SnapshotFields}
    (h : ({ updates s.toSnapshotFields with version := s.version + 1, updatedAt := now } :
      SnapshotFields).Valid) : ∃ u, changed s now updates = .ok u :=
  ⟨_, orInvalid_of (SnapshotFields.checks_iff.mpr h)⟩

/-- A change that leaves the questions and the assessments alone. -/
theorem changed_of_same (updates : SnapshotFields → SnapshotFields) (hnow : s.updatedAt ≤ now)
    (hquestions : (updates s.toSnapshotFields).questions = s.questions)
    (hassessments : (updates s.toSnapshotFields).assessments = s.assessments)
    (hcreated : (updates s.toSnapshotFields).createdAt = s.createdAt)
    (hexpires : (updates s.toSnapshotFields).rawContentExpiresAt = s.rawContentExpiresAt) :
    ∃ u, changed s now updates = .ok u := by
  have hv := s.valid
  refine changed_of ⟨Nat.succ_pos _, ?_, ?_, ?_, ?_, ?_⟩
  · simpa only [hquestions] using hv.questions
  · simpa only [hassessments] using hv.assessments
  · simp only [hcreated, hexpires]
    exact ⟨hv.times.1.trans hnow, hv.times.2⟩
  · simpa only [hquestions] using hv.question_ids
  · simpa only [hassessments] using hv.assessment_ids

/-! ## Texts -/

/-- Whether one of some values has a text with a NUL character. -/
theorem hasNul_arr {α : Type} (write : α → Json) (items : List α) :
    (Json.arr (items.map write)).hasNul = items.any fun a => (write a).hasNul := by
  rw [Json.hasNul]
  induction items with
  | nil => rfl
  | cons a rest ih => rw [List.map_cons, Json.anyItemNul, ih, List.any_cons]

/-- The texts of a snapshot that its changes rarely touch. -/
theorem WorkflowTaskSnapshot.hasNul_toJson (s : WorkflowTaskSnapshot) :
    s.toJson.hasNul =
      ((Json.obj s.goal.jsonFields).hasNul || (Json.obj s.owner.jsonFields).hasNul ||
        (Json.ofOption .str s.creationRequestSha256).hasNul ||
        (Json.ofOption .str s.conversationId).hasNul ||
        (s.questions.any fun q => (Json.obj q.jsonFields).hasNul) ||
        (s.assessments.any fun a => (Json.obj a.jsonFields).hasNul) ||
        (Json.ofOption .str s.latestRunId).hasNul) := by
  have hphase : (Json.str s.phase.value).hasNul = false := by cases s.phase <;> decide
  have hrevision : (Json.ofOption natJson s.latestRunGoalRevision).hasNul = false := by
    cases s.latestRunGoalRevision <;> rfl
  have hbudget : (Json.obj s.budgetUsage.jsonFields).hasNul = false := by
    have htokens : (Json.ofOption natJson s.budgetUsage.tokens).hasNul = false := by
      cases s.budgetUsage.tokens <;> rfl
    simp only [TaskBudgetUsage.jsonFields, Json.hasNul, Json.anyFieldNul, htokens, natJson]
    decide
  have hquestions := hasNul_arr (fun q : QuestionState => Json.obj q.jsonFields) s.questions
  have hassessments := hasNul_arr (fun a : CriterionAssessment => Json.obj a.jsonFields)
    s.assessments
  have hkeys : (["schema_version", "goal", "owner", "creation_request_sha256", "conversation_id",
      "allow_untrusted_web_supplement", "version", "phase", "questions", "assessments",
      "latest_run_id", "latest_run_goal_revision", "budget_usage", "created_at", "updated_at",
      "raw_content_expires_at"].all fun k => !k.toList.contains '\x00') = true := by decide
  simp only [List.all_cons, List.all_nil, Bool.and_true, Bool.and_eq_true,
    Bool.not_eq_true'] at hkeys
  obtain ⟨k1, k2, k3, k4, k5, k6, k7, k8, k9, k10, k11, k12, k13, k14, k15, k16⟩ := hkeys
  rw [toJson, Json.hasNul]
  simp only [jsonFields, Json.anyFieldNul, k1, k2, k3, k4, k5, k6, k7, k8, k9, k10, k11, k12, k13,
    k14, k15, k16, hphase, hrevision, hbudget, hquestions, hassessments, Bool.false_or,
    Bool.or_false, Bool.or_assoc]
  simp only [natJson, Json.hasNul, Bool.false_or, Bool.or_false]

/-- Storage makes a text of no float. -/
theorem Scalar.hasNul_onFloats (v : Scalar) :
    (v.onFloats storedScalar).toJson.hasNul = v.toJson.hasNul := by
  cases v with
  | float x =>
    simp only [onFloats, storedScalar]
    cases x.readsBackAsInt <;> rfl
  | _ => rfl

theorem AnswerValues.hasNul_onFloats (v : AnswerValues) :
    (v.onFloats storedScalar).toJson.hasNul = v.toJson.hasNul := by
  have hentries : ∀ entries : List (String × Scalar), Json.anyFieldNul
      ((entries.map fun p => (p.1, p.2.onFloats storedScalar)).map fun p => (p.1, p.2.toJson)) =
      Json.anyFieldNul (entries.map fun p => (p.1, p.2.toJson)) := by
    intro entries
    induction entries with
    | nil => rfl
    | cons p rest ih => simp only [List.map_cons, Json.anyFieldNul, ih, Scalar.hasNul_onFloats]
  exact hentries v.entries

/-- The answer of a question is read back if there is one. -/
theorem QuestionState.Reread.answer_cases {g : PyFloat → Scalar} {q q' : QuestionState}
    (h : q.Reread g q') : (q.answer = none ∧ q'.answer = none) ∨
      ∃ a a', q.answer = some a ∧ q'.answer = some a' ∧ a.onFloats g = some a' := by
  have hread := h.answer
  cases hq : q.answer with
  | none =>
    rw [hq] at hread
    exact .inl ⟨rfl, (Option.some.inj hread).symm⟩
  | some a =>
    rw [hq] at hread
    cases ha : a.onFloats g with
    | none => simp [ha] at hread
    | some a' =>
      rw [Option.mapM_some, ha] at hread
      exact .inr ⟨a, a', rfl, (Option.some.inj hread).symm, ha⟩

theorem QuestionState.Reread.hasNul {q q' : QuestionState} (h : q.Reread storedScalar q') :
    (Json.obj q'.jsonFields).hasNul = (Json.obj q.jsonFields).hasNul := by
  have hanswer : (Json.ofOption (fun a : TypedAnswer => .obj a.jsonFields) q'.answer).hasNul =
      (Json.ofOption (fun a : TypedAnswer => .obj a.jsonFields) q.answer).hasNul := by
    rcases h.answer_cases with ⟨hq, hq'⟩ | ⟨a, a', hq, hq', ha⟩
    · rw [hq, hq']
    · obtain ⟨hid, hrevision, hkey, hvalues⟩ := TypedAnswer.onFloats_ok ha
      rw [hq, hq']
      simp only [Json.ofOption, Json.hasNul, TypedAnswer.jsonFields, Json.anyFieldNul, hid,
        hrevision, hkey, hvalues, AnswerValues.hasNul_onFloats]
  simp only [Json.hasNul, jsonFields, Json.anyFieldNul, h.request, h.askedAt, h.status,
    h.answerFingerprint, h.answeredAt, h.resumeIntentId, hanswer]

theorem WorkflowTaskSnapshot.Reread.hasNul {s s' : WorkflowTaskSnapshot}
    (h : s.Reread storedScalar s') : s'.toJson.hasNul = s.toJson.hasNul := by
  have hquestions : (s'.questions.any fun q => (Json.obj q.jsonFields).hasNul) =
      s.questions.any fun q => (Json.obj q.jsonFields).hasNul := by
    have hq := h.questions
    generalize s.questions = qs at hq
    generalize s'.questions = qs' at hq
    induction hq with
    | nil => rfl
    | cons hone _ ih => rw [List.any_cons, List.any_cons, ih, hone.hasNul]
  rw [WorkflowTaskSnapshot.hasNul_toJson, WorkflowTaskSnapshot.hasNul_toJson, hquestions, h.fields]

/-- **A snapshot that was read** has no text that storage refuses. -/
theorem TaskRow.Holds.hasNul {row : TaskRow} {s' : WorkflowTaskSnapshot} (h : row.Holds rt s)
    (hd : decode rt row = .ok s') : s'.toJson.hasNul = false := by
  obtain ⟨stored, hstored, _⟩ := h.written
  rw [(h.reread hd).hasNul]
  unfold Json.jsonb at hstored
  split at hstored
  · cases hstored
  · rename_i hnul
    exact Bool.eq_false_iff.mpr hnul

/-! ## Reading again -/

theorem Scalar.survives_onFloats (v : Scalar) : (v.onFloats storedScalar).survives = true := by
  cases v with
  | float x =>
    simp only [onFloats, storedScalar]
    cases hint : x.readsBackAsInt with
    | true => rfl
    | false =>
      have hsame : x.unsigned.readsBackAsInt = x.readsBackAsInt := rfl
      have hzero : x.unsigned.isNegativeZero = false := by
        cases h : x.isZero <;> simp_all [PyFloat.unsigned, PyFloat.isNegativeZero, PyFloat.isZero]
      simp [survives, hsame, hint, hzero]
  | _ => rfl

/-- **What was read back once** reads back the same. -/
theorem WorkflowTaskSnapshot.Reread.survives {s s' : WorkflowTaskSnapshot}
    (h : s.Reread storedScalar s') : s'.survives := by
  intro q' hq' a' ha' p hp
  obtain ⟨q, _, hre⟩ := h.mem_questions hq'
  rcases hre.answer_cases with ⟨_, hnone⟩ | ⟨a, b, _, hb, ha⟩
  · rw [hnone] at ha'
    cases ha'
  · rw [hb] at ha'
    cases ha'
    rw [(TypedAnswer.onFloats_ok ha).2.2.2] at hp
    obtain ⟨p₀, _, rfl⟩ := List.mem_map.mp hp
    exact p₀.2.survives_onFloats

/-! ## Swaps -/

theorem compareAndSwap_of {row : TaskRow} {intent : Option ResumeIntent}
    (hfor : rowFor s.goal.taskId s.owner t = some row) (hdecode : decode rt row = .ok s)
    (hvalid : ValidSwap rt s u intent) (hnul : u.toJson.hasNul = false)
    (hfresh : ∀ i ∈ intent, ∀ r ∈ t.resumes.rows, r.intentId ≠ i.intentId) :
    ∃ t', compareAndSwap rt u s.owner s.version intent t = .ok t' := by
  have hstore : store u = .ok (u.toJson.reshape Json.storedFloat) := by
    rw [store, Json.jsonb, if_neg (by rw [hnul]; exact Bool.false_ne_true)]
    rfl
  unfold compareAndSwap
  rw [hvalid.task_id, hfor, orRaise_some, ok_bind, hdecode, ok_bind, validateSwap_iff.mpr hvalid,
    ok_bind, hstore, ok_bind]
  cases intent with
  | none => exact ⟨_, rfl⟩
  | some i =>
    obtain ⟨resumes, hinsert⟩ := Table.insert?_isSome (t := t.resumes)
      (r := pendingRow i s.owner) fun r hr => hfresh i rfl r hr
    simp only [pendingRow] at hinsert
    dsimp only
    rw [hinsert]
    exact ⟨_, rfl⟩

end ProofAgent
