import ProofAgent.TaskState.Parsing
import ProofAgent.TaskState.Revisions

/-! # Which issues can be cleared

An issue is dropped when a statement settles a key that the issue mentions. The user
can settle every key of a goal or a constraint, by naming it, and every key of a
prohibition, by stating it again; no other key, and no issue that mentions none. -/
namespace ProofAgent.TaskState

variable (lib : TextLibrary)

/-! ## Keys that the user can settle -/

/-- A key that an item can have. -/
inductive Expressible : String → Prop where
  | named {key : String} : IsKey lib 64 key → Expressible key
  | prohibited {question value : String} : .prohibition value ∈ readQuestion lib question →
      value.length ≤ 512 → Expressible (prohibitionKey lib value)

/-- An issue that mentions a key the user can settle. -/
def Settleable (issue : String) : Prop := ∃ key, Expressible lib key ∧ mentions issue key = true

/-- The questions, asked in turns of any names, lead to a state of `goal`. -/
def Leads (goal : ConversationTaskState → Prop) (questions : List String)
    (state : ConversationTaskState) : Prop :=
  ∀ turnIds : List String, turnIds.length = questions.length →
    (∀ turnId ∈ turnIds, 1 ≤ turnId.length ∧ turnId.length ≤ 256) →
    ∃ state', foldTurns lib state (List.zipWith Turn.mk questions turnIds) = some state' ∧ goal state'

/-- There are questions after which no issue is left. -/
def Clearable (state : ConversationTaskState) : Prop :=
  ∃ questions, Leads lib (fun state' => state'.unresolved = []) questions state

variable {lib}

theorem isKey_of_ascii {n : Nat} {key : String} (hnonempty : 1 ≤ key.length) (hbounded : key.length ≤ n)
    (hcharacters : ∀ c ∈ key.toList, isAsciiWord c = true) : IsKey lib n key :=
  ⟨hnonempty, hbounded, fun c hc => by
    unfold isKeyCharacter
    rw [lib.ascii_word c (hcharacters c hc), Bool.true_or]⟩

theorem isWord_of_ascii {value : String} (hnonempty : value.toList ≠ [])
    (hcharacters : ∀ c ∈ value.toList, isAsciiWord c = true) : IsWord lib value :=
  ⟨hnonempty, fun c hc => by
    unfold isKeyCharacter
    rw [lib.ascii_word c (hcharacters c hc), Bool.true_or]⟩

theorem isAsciiWord_of_isHexDigit {c : Char} (h : isHexDigit c = true) : isAsciiWord c = true := by
  unfold isHexDigit at h
  have hspell : isAsciiWord c = (((c.isUpper || ('a' ≤ c && c ≤ 'z')) || ('0' ≤ c && c ≤ '9')) ||
      c = '_') := rfl
  rw [hspell]
  simp only [Bool.or_eq_true, Bool.and_eq_true, decide_eq_true_eq] at h ⊢
  rcases h with h | h
  · exact .inl (.inr h)
  · have hz : 'f' ≤ 'z' := by decide
    exact .inl (.inl (.inr ⟨h.1, Char.le_trans h.2 hz⟩))

theorem budget_isKey : IsKey lib 64 "budget" :=
  isKey_of_ascii (by decide) (by decide) (List.all_eq_true.mp (by decide))

/-- The key of a prohibition can be named by a revision. -/
theorem prohibitionKey_isKey {value : String} : IsKey lib 96 (prohibitionKey lib value) := by
  unfold prohibitionKey
  split
  · exact isKey_of_ascii (by decide) (by decide) (List.all_eq_true.mp (by decide))
  · have hlength : "prohibition_".length = 12 := by decide
    refine isKey_of_ascii ?_ ?_ fun c hc => ?_
    · rw [String.length_append, hlength]
      omega
    · rw [String.length_append, hlength, lib.sha256_length]
      decide
    · rw [String.toList_append] at hc
      rcases List.mem_append.mp hc with hc | hc
      · have hascii : ∀ c ∈ "prohibition_".toList, isAsciiWord c = true :=
          List.all_eq_true.mp (by decide)
        exact hascii c hc
      · exact isAsciiWord_of_isHexDigit (lib.sha256_hex value c hc)

theorem Expressible.isKey {key : String} (h : Expressible lib key) : IsKey lib 96 key := by
  cases h with
  | named hkey => exact hkey.mono (by decide)
  | prohibited _ _ => exact prohibitionKey_isKey

/-! ## What a statement can do -/

/-- Every item has a key that can be settled. -/
def HasExpressibleKeys (lib : TextLibrary) (items : List TaskStateItem) : Prop :=
  ∀ item ∈ items, Expressible lib item.key

/-- What a statement can do to the items and the issues. -/
inductive Edit (lib : TextLibrary) (w : Working) : Working → Prop where
  | nothing : Edit lib w w
  | report {w' : Working} {issue : String} : Edit lib w w' → Edit lib w (w'.report issue)
  | clear {w' : Working} {key : String} : Edit lib w w' → Expressible lib key →
      Edit lib w (w'.clear key)
  | delete {w' : Working} {key : String} : Edit lib w w' → Edit lib w (w'.delete key)
  | put {w' : Working} {item : TaskStateItem} : Edit lib w w' → Expressible lib item.key →
      Edit lib w (w'.put item)

section
variable {sourceId key value kind : String} {w w' w'' : Working}

theorem Edit.store (h : Edit lib w w') (hkey : value.length ≤ 512 → Expressible lib key)
    (hstore : store sourceId w' key value kind = some w'') : Edit lib w w'' := by
  by_cases hlong : 512 < value.length
  · unfold TaskState.store at hstore
    rw [if_pos (.inl hlong)] at hstore
    rw [← Option.some.inj hstore]
    exact h.report
  · rcases store_cases hstore with rfl | ⟨item, rfl, -, -, rfl⟩
    · exact h.report
    · exact h.put (hkey (not_lt.mp hlong))

theorem find_key {item : TaskStateItem} (h : w.find key = some item) :
    item ∈ w.items ∧ item.key = key :=
  ⟨List.mem_of_find?_eq_some h, by simpa using List.find?_some h⟩

/-- **What a statement does** is an edit. -/
theorem statement_edit {question : String} {statement : Statement}
    (hkeys : HasExpressibleKeys lib w.items) (hmem : statement ∈ readQuestion lib question)
    (hstep : reduceStatement lib sourceId w statement = some w') : Edit lib w w' := by
  cases statement with
  | revision revokes key value =>
    unfold reduceStatement at hstep
    dsimp only at hstep
    split at hstep
    · rw [← Option.some.inj hstep]
      exact Edit.nothing.report
    · rename_i item hfind
      obtain ⟨hitem, rfl⟩ := find_key hfind
      have hkey := hkeys item hitem
      split at hstep
      · rw [← Option.some.inj hstep]
        exact Edit.nothing.delete.clear hkey
      · split at hstep
        · rw [← Option.some.inj hstep]
          exact Edit.nothing.report
        · rw [← Option.some.inj hstep]
          exact Edit.nothing.report
        · exact (Edit.nothing.clear hkey).store (fun _ => hkey) hstep
  | explicit kind key value =>
    obtain ⟨t, -, ht⟩ := List.mem_map.mp hmem
    have hkey : Expressible lib key := .named (isKey_of_explicit ht)
    unfold reduceStatement at hstep
    dsimp only at hstep
    split at hstep
    · split at hstep
      · rw [← Option.some.inj hstep]
        exact Edit.nothing.report
      · exact (Edit.nothing.clear hkey).store (fun _ => hkey) hstep
    · exact (Edit.nothing.clear hkey).store (fun _ => hkey) hstep
  | budget value =>
    unfold reduceStatement at hstep
    dsimp only at hstep
    split at hstep
    · split at hstep
      · rw [← Option.some.inj hstep]
        exact Edit.nothing.report
      · exact Edit.nothing.store (fun _ => .named budget_isKey) hstep
    · exact Edit.nothing.store (fun _ => .named budget_isKey) hstep
  | prohibition value =>
    rw [reduceStatement_prohibition] at hstep
    by_cases hstated : (w.items.any fun item => item.value = value) = true
    · rw [if_pos hstated] at hstep
      rw [← Option.some.inj hstep]
      exact .nothing
    · rw [if_neg hstated] at hstep
      exact Edit.nothing.store (fun hvalue => .prohibited hmem hvalue) hstep
  | other =>
    rw [← Option.some.inj hstep]
    exact .nothing

theorem Edit.keys (h : Edit lib w w') (hkeys : HasExpressibleKeys lib w.items) :
    HasExpressibleKeys lib w'.items := by
  induction h with
  | nothing => exact hkeys
  | report _ ih => exact ih
  | clear _ _ ih => exact ih
  | delete _ ih => exact fun item hitem => ih item (List.mem_filter.mp hitem).1
  | @put w' item _ hitem ih =>
    intro new hnew
    unfold Working.put at hnew
    dsimp only at hnew
    split at hnew
    · obtain ⟨old, hold, rfl⟩ := List.mem_map.mp hnew
      split
      · exact hitem
      · exact ih old hold
    · rcases List.mem_append.mp hnew with hold | hnew
      · exact ih new hold
      · rw [List.mem_singleton.mp hnew]
        exact hitem

/-- The issue is one of the first 32. -/
def Early (issue : String) (unresolved : List String) : Prop :=
  ∃ first more, unresolved = first ++ more ∧ first.length ≤ 32 ∧ issue ∈ first

/-- An issue that cannot be settled stays. -/
theorem Edit.early {issue : String} (h : Edit lib w w') (hissue : ¬ Settleable lib issue)
    (hearly : Early issue w.unresolved) : Early issue w'.unresolved := by
  induction h with
  | nothing => exact hearly
  | @report w' other _ ih =>
    obtain ⟨first, more, hw, hlength, hfirst⟩ := ih
    refine ⟨first, more ++ [other], ?_, hlength, hfirst⟩
    rw [Working.report, hw, List.append_assoc]
  | @clear w' key _ hkey ih =>
    obtain ⟨first, more, hw, hlength, hfirst⟩ := ih
    let unmentioned : String → Bool := fun other => !mentions other key
    refine ⟨first.filter unmentioned, more.filter unmentioned, ?_, ?_, ?_⟩
    · rw [← List.filter_append, ← hw]
      rfl
    · exact (List.length_filter_le _ _).trans hlength
    · have hmentions : mentions issue key = false :=
        Bool.eq_false_of_not_eq_true fun hm => hissue ⟨key, hkey, hm⟩
      refine List.mem_filter.mpr ⟨hfirst, ?_⟩
      change (!mentions issue key) = true
      rw [hmentions]
      rfl
  | delete _ ih => exact ih
  | put _ _ ih => exact ih

end

/-! ## A turn and a run -/

section
variable {sourceId issue : String} {state state' : ConversationTaskState}

/-- Several statements of a question. -/
theorem statements_edit {question : String} : ∀ {statements : List Statement} {w w' : Working},
    (∀ statement ∈ statements, statement ∈ readQuestion lib question) →
    HasExpressibleKeys lib w.items →
    statements.foldlM (reduceStatement lib sourceId) w = some w' →
    HasExpressibleKeys lib w'.items ∧
      ∀ issue, ¬ Settleable lib issue → Early issue w.unresolved → Early issue w'.unresolved
  | [], w, w', _, hkeys, h => by
    rw [← Option.some.inj h]
    exact ⟨hkeys, fun _ _ hearly => hearly⟩
  | statement :: statements, w, w', hmem, hkeys, h => by
    rw [List.foldlM_cons, Option.bind_eq_bind, Option.bind_eq_some_iff] at h
    obtain ⟨w₁, hstep, h⟩ := h
    have hedit := statement_edit hkeys (hmem statement (List.mem_cons_self ..)) hstep
    obtain ⟨hkeys', hstays⟩ := statements_edit
      (fun other hother => hmem other (List.mem_cons_of_mem _ hother)) (hedit.keys hkeys) h
    exact ⟨hkeys', fun issue hissue hearly => hstays issue hissue (hedit.early hissue hearly)⟩

/-- What a turn leaves behind. -/
structure Sound (lib : TextLibrary) (state : ConversationTaskState) : Prop where
  keys : HasExpressibleKeys lib state.items
  items_room : state.items.length ≤ 32
  unresolved_room : state.unresolved.length ≤ 32
  distinct : (state.items.map (·.key)).Nodup

theorem finish_eq {w : Working} (h : w.finish = some state) :
    state.items = w.items ∧ state.unresolved = w.unresolved.eraseDups.take 32 ∧
      state.items.length ≤ 32 ∧ state.unresolved.length ≤ 32 ∧ (state.items.map (·.key)).Nodup := by
  unfold Working.finish makeState at h
  split at h
  · rename_i hvalid
    rw [← Option.some.inj h]
    exact ⟨rfl, rfl, hvalid.1, hvalid.2.1, hvalid.2.2⟩
  · cases h

theorem length_eraseDups_le : ∀ l : List String, l.eraseDups.length ≤ l.length
  | [] => Nat.le_refl _
  | a :: l => by
    rw [List.eraseDups_cons, List.length_cons, List.length_cons]
    have hfilter := List.length_filter_le (fun b => !b == a) l
    have := length_eraseDups_le (l.filter fun b => !b == a)
    omega
termination_by l => l.length
decreasing_by
  have := List.length_filter_le (fun b => !b == a) l
  simp only [List.length_cons]
  omega

theorem Early.kept {unresolved : List String} (h : Early issue unresolved) :
    issue ∈ unresolved.eraseDups.take 32 := by
  obtain ⟨first, more, rfl, hlength, hissue⟩ := h
  have hdistinct := (length_eraseDups_le first).trans hlength
  rw [List.eraseDups_append, List.take_append, List.take_of_length_le hdistinct]
  exact List.mem_append_left _ (List.mem_eraseDups.mpr hissue)

/-- **One turn** leaves a sound state, and every issue that cannot be settled. -/
theorem Sound.turn {question : String} (h : Sound lib state)
    (hturn : reduceTaskState lib state question sourceId = some state') :
    Sound lib state' ∧
      ∀ issue ∈ state.unresolved, ¬ Settleable lib issue → issue ∈ state'.unresolved := by
  obtain ⟨w, hfold, hfinish⟩ := Option.bind_eq_some_iff.mp hturn
  obtain ⟨hkeys, hstays⟩ := statements_edit (fun _ hs => hs) (w := begin state) h.keys hfold
  obtain ⟨hitems, hunresolved, hroom, hroom', hdistinct⟩ := finish_eq hfinish
  refine ⟨⟨by rw [hitems]; exact hkeys, hroom, hroom', hdistinct⟩, fun issue hmem hissue => ?_⟩
  rw [hunresolved]
  refine (hstays issue hissue ⟨state.unresolved, [], ?_, h.unresolved_room, hmem⟩).kept
  exact (List.append_nil _).symm

/-- **A run** does, too. -/
theorem Sound.run : ∀ {turns : List Turn} {state : ConversationTaskState}, Sound lib state →
    foldTurns lib state turns = some state' →
    Sound lib state' ∧
      ∀ issue ∈ state.unresolved, ¬ Settleable lib issue → issue ∈ state'.unresolved
  | [], state, h, hrun => by
    rw [← Option.some.inj hrun]
    exact ⟨h, fun _ hmem _ => hmem⟩
  | turn :: turns, state, h, hrun => by
    unfold foldTurns at hrun
    rw [List.foldlM_cons, Option.bind_eq_bind, Option.bind_eq_some_iff] at hrun
    obtain ⟨state₁, hturn, hrun⟩ := hrun
    obtain ⟨h₁, hstays⟩ := h.turn hturn
    obtain ⟨h', hstays'⟩ := h₁.run hrun
    exact ⟨h', fun issue hmem hissue => hstays' issue (hstays issue hmem hissue) hissue⟩

theorem sound_empty : Sound lib {} :=
  ⟨fun _ hitem => (nomatch hitem), by decide, by decide, by decide⟩

end

/-! ## Questions that clear -/

section
variable {goal goal' : ConversationTaskState → Prop} {state : ConversationTaskState}
  {question key value turnId : String} {questions questions' : List String}

theorem Leads.nil (h : goal state) : Leads lib goal [] state := fun turnIds _ _ => by
  refine ⟨state, ?_, h⟩
  cases turnIds <;> rfl

theorem Leads.cons (h : ∀ turnId : String, 1 ≤ turnId.length ∧ turnId.length ≤ 256 →
      ∃ state', reduceTaskState lib state question turnId = some state' ∧
        Leads lib goal questions state') : Leads lib goal (question :: questions) state := by
  intro turnIds hlength hvalid
  cases turnIds with
  | nil => cases hlength
  | cons turnId turnIds =>
    obtain ⟨state₁, hturn, hrest⟩ := h turnId (hvalid turnId (List.mem_cons_self ..))
    obtain ⟨state', hrun, hgoal⟩ := hrest turnIds (Nat.succ.inj hlength)
      fun other hother => hvalid other (List.mem_cons_of_mem _ hother)
    refine ⟨state', ?_, hgoal⟩
    unfold foldTurns at hrun ⊢
    rw [List.zipWith_cons_cons, List.foldlM_cons, hturn]
    exact hrun

theorem Leads.append (h : Leads lib goal questions state)
    (h' : ∀ state', goal state' → Leads lib goal' questions' state') :
    Leads lib goal' (questions ++ questions') state := by
  intro turnIds hlength hvalid
  rw [List.length_append] at hlength
  have htake : (turnIds.take questions.length).length = questions.length := by
    rw [List.length_take]
    omega
  obtain ⟨state₁, hrun, hgoal⟩ := h _ htake fun turnId hmem => hvalid turnId (List.mem_of_mem_take hmem)
  obtain ⟨state', hrun', hgoal'⟩ := h' state₁ hgoal (turnIds.drop questions.length)
    (by rw [List.length_drop]; omega) fun turnId hmem => hvalid turnId (List.mem_of_mem_drop hmem)
  refine ⟨state', ?_, hgoal'⟩
  have hzip : List.zipWith Turn.mk (questions ++ questions') turnIds =
      List.zipWith Turn.mk questions (turnIds.take questions.length) ++
        List.zipWith Turn.mk questions' (turnIds.drop questions.length) := by
    rw [← List.zipWith_append htake.symm, List.take_append_drop]
  unfold foldTurns at hrun hrun' ⊢
  rw [hzip, List.foldlM_append, hrun]
  exact hrun'

/-- A turn of one statement. -/
theorem turn_of_statement {statement : Statement} {w : Working}
    (hread : readQuestion lib question = [statement])
    (hstep : reduceStatement lib turnId (begin state) statement = some w)
    (hroom : w.items.length ≤ 32) (hdistinct : (w.items.map (·.key)).Nodup) :
    ∃ state', reduceTaskState lib state question turnId = some state' ∧ state'.items = w.items ∧
      ∀ issue ∈ state'.unresolved, issue ∈ w.unresolved := by
  refine ⟨⟨w.items, w.unresolved.eraseDups.take 32⟩, ?_, rfl, fun issue hissue => ?_⟩
  · unfold reduceTaskState
    rw [hread, List.foldlM_cons, hstep]
    unfold Working.finish makeState
    exact if_pos ⟨hroom, List.length_take_le _ _, hdistinct⟩
  · exact List.mem_eraseDups.mp (List.mem_of_mem_take hissue)

/-- `Revoke[key]` of the first item. -/
theorem revoke_turn {item : TaskStateItem} {items : List TaskStateItem} (turnId : String)
    (hitems : state.items = item :: items) (hkey : IsKey lib 96 item.key)
    (hroom : state.items.length ≤ 32) (hdistinct : (state.items.map (·.key)).Nodup) :
    ∃ state', reduceTaskState lib state ("Revoke[" ++ item.key ++ "]") turnId = some state' ∧
      state'.items = items ∧
      ∀ issue ∈ state'.unresolved, issue ∈ state.unresolved ∧ mentions issue item.key = false := by
  have hfind : (begin state).find item.key = some item := by
    unfold begin Working.find
    rw [hitems]
    exact List.find?_cons_of_pos (by simp)
  have hstep : reduceStatement lib turnId (begin state) (.revision true item.key none) =
      some (((begin state).delete item.key).clear item.key) := by
    unfold reduceStatement
    simp only [hfind]
    rfl
  rw [hitems, List.map_cons, List.nodup_cons] at hdistinct
  have hrest : (((begin state).delete item.key).clear item.key).items = items := by
    have hfilter : (item :: items).filter (fun old => old.key ≠ item.key) = items := by
      rw [List.filter_cons_of_neg (by simp), List.filter_eq_self]
      intro old hold
      have hne : old.key ≠ item.key := fun heq =>
        hdistinct.1 (List.mem_map.mpr ⟨old, hold, heq⟩)
      exact decide_eq_true hne
    rw [← hfilter, ← hitems]
    rfl
  rw [hitems, List.length_cons] at hroom
  obtain ⟨state', hturn, hitems', hissues⟩ := turn_of_statement (readQuestion_revoke hkey) hstep
    (by rw [hrest]; omega) (by rw [hrest]; exact hdistinct.2)
  refine ⟨state', hturn, hitems'.trans hrest, fun issue hissue => ?_⟩
  obtain ⟨hmem, hunmentioned⟩ := List.mem_filter.mp (hissues issue hissue)
  exact ⟨hmem, by simpa using hunmentioned⟩

/-- A value that is stored when there are no items. -/
theorem store_turn {statement : Statement} (value kind : String) (unresolved : List String)
    (hitems : state.items = []) (hread : readQuestion lib question = [statement])
    (hstep : reduceStatement lib turnId (begin state) statement =
      store turnId ⟨[], unresolved⟩ key value kind)
    (hissues : ∀ issue ∈ unresolved, issue ∈ state.unresolved) (hkey : IsKey lib 96 key)
    (hvalue : 1 ≤ value.length ∧ value.length ≤ 512)
    (hturnId : 1 ≤ turnId.length ∧ turnId.length ≤ 256) :
    ∃ state', reduceTaskState lib state question turnId = some state' ∧
      (∃ item, state'.items = [item] ∧ item.key = key) ∧
      ∀ issue ∈ state'.unresolved, issue ∈ state.unresolved := by
  have hstore : store turnId ⟨[], unresolved⟩ key value kind =
      some ⟨[⟨key, value, turnId, kind⟩], unresolved⟩ := by
    have hroom : ¬ (512 < value.length ∨ ((⟨[], unresolved⟩ : Working).find key).isNone = true ∧
        32 ≤ ([] : List TaskStateItem).length) := by
      rintro (hlong | ⟨_, hfull⟩)
      · omega
      · cases hfull
    unfold store
    rw [if_neg hroom, makeItem, if_pos ⟨⟨hkey.nonempty, hkey.bounded⟩, hvalue, hturnId⟩]
    rfl
  rw [hstore] at hstep
  obtain ⟨state', hturn, hitems', hsub⟩ := turn_of_statement hread hstep (by simp) (by simp)
  exact ⟨state', hturn, ⟨_, hitems', rfl⟩, fun issue hissue => hissues issue (hsub issue hissue)⟩

theorem prohibition_nonempty (h : .prohibition value ∈ readQuestion lib question) :
    1 ≤ value.length := by
  obtain ⟨t, -, ht⟩ := List.mem_map.mp h
  unfold readStatement at ht
  split at ht
  · cases ht
  · split at ht
    · cases ht
    · split at ht
      · cases ht
      · split at ht
        · cases ht
          rw [String.length_ofList, List.length_append]
          exact Nat.le_add_left ..
        · cases ht

/-- A question that stores an item under a key, when there are no items. -/
theorem Expressible.storable (h : Expressible lib key) :
    ∃ question, ∀ state : ConversationTaskState, state.items = [] →
      ∀ turnId : String, 1 ≤ turnId.length ∧ turnId.length ≤ 256 →
      ∃ state', reduceTaskState lib state question turnId = some state' ∧
        (∃ item, state'.items = [item] ∧ item.key = key) ∧
        ∀ issue ∈ state'.unresolved, issue ∈ state.unresolved := by
  have hisKey := h.isKey
  cases h with
  | named hkey =>
    refine ⟨"Goal[" ++ key ++ "]:" ++ "x", fun state hitems turnId hturnId => ?_⟩
    refine store_turn "x" "goal" (state.unresolved.filter fun issue => !mentions issue key) hitems
      (readQuestion_goal hkey (isWord_of_ascii (by decide) (List.all_eq_true.mp (by decide)))) ?_
      (fun issue hissue => (List.mem_filter.mp hissue).1) hisKey (by decide) hturnId
    unfold reduceStatement begin Working.find
    rw [hitems]
    rfl
  | @prohibited asked value hread hlength =>
    obtain ⟨question, hquestion⟩ := readQuestion_prohibition hread
    refine ⟨question, fun state hitems turnId hturnId => ?_⟩
    refine store_turn value "constraint" state.unresolved hitems hquestion ?_ (fun _ hissue => hissue) hisKey ⟨prohibition_nonempty hread, hlength⟩
      hturnId
    rw [reduceStatement_prohibition]
    unfold begin
    rw [hitems]
    rfl

end

/-- Revoking every item. -/
theorem leads_revoke_all : ∀ {items : List TaskStateItem} {state : ConversationTaskState},
    state.items = items → HasExpressibleKeys lib items → items.length ≤ 32 →
    (items.map (·.key)).Nodup →
    Leads lib (fun state' => state'.items = [] ∧ ∀ issue ∈ state'.unresolved, issue ∈ state.unresolved)
      (items.map fun item => "Revoke[" ++ item.key ++ "]") state
  | [], _, hitems, _, _, _ => .nil ⟨hitems, fun _ hissue => hissue⟩
  | item :: items, state, hitems, hkeys, hroom, hdistinct => by
    refine .cons fun turnId _ => ?_
    have hkey := (hkeys item (List.mem_cons_self ..)).isKey
    obtain ⟨state', hturn, hitems', hissues⟩ := revoke_turn turnId hitems hkey
      (by rw [hitems]; exact hroom) (by rw [hitems]; exact hdistinct)
    refine ⟨state', hturn, ?_⟩
    have hrest := leads_revoke_all hitems' (fun other hother => hkeys other (List.mem_cons_of_mem _ hother))
      (Nat.le_of_succ_le hroom) (List.nodup_cons.mp hdistinct).2
    intro turnIds hlength hvalid
    obtain ⟨last, hrun, hempty, hsub⟩ := hrest turnIds hlength hvalid
    exact ⟨last, hrun, hempty, fun issue hissue => (hissues issue (hsub issue hissue)).1⟩

/-- Settling a key. -/
theorem Expressible.leads {key : String} (h : Expressible lib key) :
    ∃ questions, ∀ state : ConversationTaskState, state.items = [] →
      Leads lib (fun state' => state'.items = [] ∧
        ∀ issue ∈ state'.unresolved, issue ∈ state.unresolved ∧ mentions issue key = false)
        questions state := by
  obtain ⟨question, hquestion⟩ := h.storable
  refine ⟨[question, "Revoke[" ++ key ++ "]"], fun state hitems => .cons fun turnId hturnId => ?_⟩
  obtain ⟨state₁, hturn, ⟨item, hitem, rfl⟩, hsub⟩ := hquestion state hitems turnId hturnId
  refine ⟨state₁, hturn, .cons fun turnId' _ => ?_⟩
  obtain ⟨state', hturn', hitems', hissues⟩ := revoke_turn turnId' hitem h.isKey
    (by rw [hitem, List.length_singleton]; decide) (by rw [hitem]; simp)
  exact ⟨state', hturn', .nil ⟨hitems', fun issue hissue =>
    ⟨hsub issue (hissues issue hissue).1, (hissues issue hissue).2⟩⟩⟩

/-- Settling a key of every issue. -/
theorem leads_clear : ∀ {issues : List String}, (∀ issue ∈ issues, Settleable lib issue) →
    ∃ questions, ∀ state : ConversationTaskState, state.items = [] →
      (∀ issue ∈ state.unresolved, issue ∈ issues) →
      Leads lib (fun state' => state'.unresolved = []) questions state
  | [], _ => ⟨[], fun _ _ hissues => .nil (List.eq_nil_iff_forall_not_mem.mpr fun issue hissue =>
      nomatch hissues issue hissue)⟩
  | issue :: issues, hsettle => by
    obtain ⟨key, hkey, hmentions⟩ := hsettle issue (List.mem_cons_self ..)
    obtain ⟨questions, hleads⟩ := hkey.leads
    obtain ⟨questions', hleads'⟩ := leads_clear fun other hother =>
      hsettle other (List.mem_cons_of_mem _ hother)
    refine ⟨questions ++ questions', fun state hitems hissues => ?_⟩
    refine (hleads state hitems).append fun state' hstate' => ?_
    refine hleads' state' hstate'.1 fun other hother => ?_
    obtain ⟨hmem, hunmentioned⟩ := hstate'.2 other hother
    rcases List.mem_cons.mp (hissues other hmem) with rfl | hmem
    · rw [hmentions] at hunmentioned
      cases hunmentioned
    · exact hmem

theorem clearable_of_settleable {state : ConversationTaskState} (h : Sound lib state)
    (hsettle : ∀ issue ∈ state.unresolved, Settleable lib issue) : Clearable lib state := by
  obtain ⟨questions, hleads⟩ := leads_clear hsettle
  exact ⟨_, (leads_revoke_all rfl h.keys h.items_room h.distinct).append fun state' hstate' =>
    hleads state' hstate'.1 hstate'.2⟩

theorem settleable_of_clearable {state : ConversationTaskState} (h : Sound lib state)
    (hclear : Clearable lib state) : ∀ issue ∈ state.unresolved, Settleable lib issue := by
  obtain ⟨questions, hleads⟩ := hclear
  obtain ⟨state', hrun, hempty⟩ := hleads (List.replicate questions.length "turn")
    List.length_replicate fun turnId hmem => by
      rw [List.eq_of_mem_replicate hmem]
      decide
  intro issue hissue
  by_contra hsettle
  have hkept := (h.run hrun).2 issue hissue hsettle
  rw [hempty] at hkept
  cases hkept

/-- **Which issues can be cleared**: in a state that user turns have led to, all of them, exactly
if each mentions a key that the user can settle. -/
theorem clearable_iff (lib : TextLibrary) (turns : List Turn) (state : ConversationTaskState)
    (hrun : foldTurns lib {} turns = some state) :
    Clearable lib state ↔ ∀ issue ∈ state.unresolved, Settleable lib issue := by
  have hsound := (sound_empty.run hrun).1
  exact ⟨settleable_of_clearable hsound, clearable_of_settleable hsound⟩

namespace Sample

/-- Two budgets, of which the second is a conflict. -/
def twoBudgets : List Turn := [⟨"Budget is 500 yuan. Budget is 200 yuan.", "turn-1"⟩]

def conflicted : ConversationTaskState where
  items := [⟨"budget", "500 yuan", "turn-1", "constraint"⟩]
  unresolved := ["conflicting_value:budget:turn-1"]

def longValue : String := .ofList (List.replicate 513 'x')

/-- A goal that is one character too long. -/
def longGoal : List Turn := [⟨"Goal[" ++ "report" ++ "]:" ++ longValue, "turn-1"⟩]

def overfull : ConversationTaskState := { unresolved := [stateCapacityExceeded "turn-1"] }

end Sample

theorem conflicted_clearable_iff :
    foldTurns Sample.library {} Sample.twoBudgets = some Sample.conflicted ∧
    (Clearable Sample.library Sample.conflicted ↔
      ∀ issue ∈ Sample.conflicted.unresolved, Settleable Sample.library issue) :=
  have hrun : foldTurns Sample.library {} Sample.twoBudgets = some Sample.conflicted := by
    decide
  ⟨hrun, clearable_iff Sample.library Sample.twoBudgets Sample.conflicted hrun⟩

/-- An issue that mentions a key has two colons. -/
theorem two_colons_of_mentions {issue key : String} (h : mentions issue key = true) :
    2 ≤ issue.toList.count ':' := by
  unfold mentions containsText at h
  obtain ⟨t, ht, hprefix⟩ := List.any_eq_true.mp h
  have hsub : (":" ++ key ++ ":").toList.Sublist issue.toList :=
    (List.isPrefixOf_iff_prefix.mp hprefix).sublist.trans ((List.mem_tails _ _).mp ht).sublist
  have hcolon : ":".toList = [':'] := by decide
  have hcount := hsub.count_le ':'
  rw [String.toList_append, String.toList_append, hcolon, List.count_append, List.count_append] at hcount
  have hone : List.count ':' [':'] = 1 := by decide
  omega

/-- A goal that is too long is reported. -/
theorem long_goal_reported {value turnId : String} (hvalue : IsWord lib value)
    (hlong : 512 < value.length) :
    foldTurns lib {} [⟨"Goal[" ++ "report" ++ "]:" ++ value, turnId⟩] =
      some { unresolved := [stateCapacityExceeded turnId] } := by
  have hkey : IsKey lib 64 "report" := isKey_of_ascii (by decide) (by decide) (List.all_eq_true.mp (by decide))
  have hstore : store turnId ((begin {}).clear "report") "report" value "goal" =
      some ⟨[], [stateCapacityExceeded turnId]⟩ := by
    unfold store
    rw [if_pos (.inl hlong)]
    rfl
  have hstep : reduceStatement lib turnId (begin {}) (.explicit "goal" "report" value) =
      some ⟨[], [stateCapacityExceeded turnId]⟩ := hstore
  have hturn : reduceTaskState lib {} ("Goal[" ++ "report" ++ "]:" ++ value) turnId =
      some { unresolved := [stateCapacityExceeded turnId] } := by
    unfold reduceTaskState
    rw [readQuestion_goal hkey hvalue, List.foldlM_cons, hstep]
    rfl
  unfold foldTurns
  rw [List.foldlM_cons, hturn]
  rfl

theorem replicate_isWord {n : Nat} (hn : n ≠ 0) : IsWord lib (.ofList (List.replicate n 'x')) := by
  refine isWord_of_ascii ?_ fun c hc => ?_
  · rw [String.toList_ofList]
    exact fun hnil => hn (by simpa using hnil)
  · rw [String.toList_ofList] at hc
    rw [List.eq_of_mem_replicate hc]
    decide

theorem longGoal_overfull : foldTurns Sample.library {} Sample.longGoal = some Sample.overfull := by
  have hword : IsWord Sample.library Sample.longValue := replicate_isWord (by decide)
  have hlength : Sample.longValue.length = 513 := by
    unfold Sample.longValue
    exact String.length_ofList.trans List.length_replicate
  exact long_goal_reported hword (by omega)

/-- An item that is too long leaves an issue that nothing clears. -/
theorem capacity_never_cleared :
    foldTurns Sample.library {} Sample.longGoal = some Sample.overfull ∧
      Sample.overfull.unresolved ≠ [] ∧ ¬ Clearable Sample.library Sample.overfull := by
  refine ⟨longGoal_overfull, List.cons_ne_nil _ _, fun hclear => ?_⟩
  have hsettle := settleable_of_clearable (sound_empty.run longGoal_overfull).1 hclear
  obtain ⟨key, _, hmentions⟩ := hsettle _ (List.mem_cons_self ..)
  have hcolons := two_colons_of_mentions hmentions
  have hone : ¬ 2 ≤ (stateCapacityExceeded "turn-1").toList.count ':' := by decide
  exact hone hcolons

end ProofAgent.TaskState
