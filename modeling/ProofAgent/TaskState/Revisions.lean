import ProofAgent.TaskState.Reduction

/-! # What changes a task-state item

An explicit statement or a budget with another value than the one held is reported as
a conflict. A prohibition is not: it is stored over what is held under its key. So the
items change only by revisions in exactly the runs where no prohibition meets another
value, and every conflict is kept where it is among the first 32 issues. -/
namespace ProofAgent.TaskState

variable (lib : TextLibrary)

/-! ## The steps of a run -/

/-- A statement that has been applied. -/
structure StatementStep where
  sourceId : String
  before : Working
  statement : Statement
  after : Working

/-- The statements of a turn, up to the first that is refused. -/
def turnSteps (sourceId : String) : Working → List Statement → List StatementStep
  | _, [] => []
  | w, statement :: rest =>
    match reduceStatement lib sourceId w statement with
    | none => []
    | some w' => ⟨sourceId, w, statement, w'⟩ :: turnSteps sourceId w' rest

/-- The statements of a run. -/
def steps : ConversationTaskState → List Turn → List StatementStep
  | _, [] => []
  | state, turn :: turns =>
    turnSteps lib turn.turnId (begin state) (readQuestion lib turn.question) ++
      match reduceTaskState lib state turn.question turn.turnId with
      | none => []
      | some state' => steps state' turns

/-- The end of a turn. -/
structure Closing where
  sourceId : String
  before : Working
  after : ConversationTaskState

def turnClosing (state : ConversationTaskState) (turn : Turn) : List Closing :=
  match (readQuestion lib turn.question).foldlM (reduceStatement lib turn.turnId) (begin state) with
  | none => []
  | some w => (w.finish.map fun state' => ⟨turn.turnId, w, state'⟩).toList

/-- The ends of the turns of a run. -/
def closings : ConversationTaskState → List Turn → List Closing
  | _, [] => []
  | state, turn :: turns =>
    turnClosing lib state turn ++
      match reduceTaskState lib state turn.question turn.turnId with
      | none => []
      | some state' => closings state' turns

theorem mem_turnSteps {sourceId : String} {x : StatementStep} : ∀ {w : Working}
    {statements : List Statement}, x ∈ turnSteps lib sourceId w statements →
    reduceStatement lib x.sourceId x.before x.statement = some x.after
  | _, [], h => (nomatch h)
  | w, statement :: rest, h => by
    unfold turnSteps at h
    split at h
    · cases h
    · rename_i w' hw
      rcases List.mem_cons.mp h with rfl | h
      · exact hw
      · exact mem_turnSteps h

theorem mem_steps {x : StatementStep} : ∀ {state : ConversationTaskState} {turns : List Turn},
    x ∈ steps lib state turns → reduceStatement lib x.sourceId x.before x.statement = some x.after
  | _, [], h => (nomatch h)
  | _, _ :: _, h => by
    unfold steps at h
    rcases List.mem_append.mp h with h | h
    · exact mem_turnSteps lib h
    · split at h
      · cases h
      · exact mem_steps h

theorem mem_turnClosing {state : ConversationTaskState} {turn : Turn} {x : Closing}
    (h : x ∈ turnClosing lib state turn) : x.before.finish = some x.after := by
  unfold turnClosing at h
  split at h
  · cases h
  · rename_i w _
    rcases hfinish : w.finish with _ | state'
    · rw [hfinish] at h
      cases h
    · rw [hfinish] at h
      rw [List.mem_singleton.mp h]
      exact hfinish

theorem mem_closings {x : Closing} : ∀ {state : ConversationTaskState} {turns : List Turn},
    x ∈ closings lib state turns → x.before.finish = some x.after
  | _, [], h => (nomatch h)
  | _, _ :: _, h => by
    unfold closings at h
    rcases List.mem_append.mp h with h | h
    · exact mem_turnClosing lib h
    · split at h
      · cases h
      · exact mem_closings h

/-! ## Statements that respect the items -/

/-- The value that is held under a key. -/
def Working.value (w : Working) (key : String) : Option String := (w.find key).map (·.value)

/-- The key that a statement revises or revokes. -/
def Statement.revises : Statement → Option String
  | .revision _ key _ => some key
  | _ => none

/-- The key and the value that a statement gives without revising. -/
def Statement.gives : Statement → Option (String × String)
  | .explicit _ key value => some (key, value)
  | .budget value => some ("budget", value)
  | .prohibition value => some (prohibitionKey lib value, value)
  | .revision .. | .other => none

/-- A value changes only by a revision, and another value is reported as a conflict. -/
structure Respects (x : StatementStep) : Prop where
  kept : ∀ key value, x.before.value key = some value → x.statement.revises ≠ some key →
    x.after.value key = some value
  conflict : ∀ key value old, x.statement.gives lib = some (key, value) →
    x.before.value key = some old → old ≠ value →
    x.after.items = x.before.items ∧
      x.after.unresolved = x.before.unresolved ++ [conflictingValue key x.sourceId]

/-- No other value is held under the key of a prohibition. -/
def Compatible (x : StatementStep) : Prop :=
  ∀ value old, x.statement = .prohibition value →
    x.before.value (prohibitionKey lib value) = some old → old = value

section
variable {w w' : Working} {item : TaskStateItem} {key key' value kind sourceId : String}

/-- An item in the place of the one of its key. -/
def replaceItem (item old : TaskStateItem) : TaskStateItem := if old.key = item.key then item else old

theorem replaceItem_key {old : TaskStateItem} : (replaceItem item old).key = old.key := by
  unfold replaceItem
  split
  · rename_i h
    exact h.symm
  · rfl

theorem find_replace (items : List TaskStateItem) :
    (items.map (replaceItem item)).find? (fun old => old.key = key) =
      (items.find? fun old => old.key = key).map (replaceItem item) := by
  rw [List.find?_map]
  congr 2
  funext old
  rw [Function.comp_apply, replaceItem_key]

theorem Working.find_put : (w.put item).find key = if key = item.key then some item else w.find key := by
  have hput : (w.put item).find key = if (w.find item.key).isSome = true then
      (w.find key).map (replaceItem item) else (w.items ++ [item]).find? fun old => old.key = key := by
    unfold Working.put Working.find
    split
    · exact find_replace w.items
    · rfl
  rw [hput]
  by_cases hkey : key = item.key
  · subst hkey
    rw [if_pos rfl]
    split
    · rename_i hsome
      obtain ⟨old, hold⟩ := Option.isSome_iff_exists.mp hsome
      have hold' : old.key = item.key := by simpa using List.find?_some hold
      rw [hold, Option.map_some, replaceItem, if_pos hold']
    · rename_i hnone
      have hfind : w.items.find? (fun old => old.key = item.key) = none :=
        Option.not_isSome_iff_eq_none.mp hnone
      rw [List.find?_append, hfind]
      simp
  · rw [if_neg hkey]
    split
    · rcases hfind : w.find key with _ | old
      · rfl
      · have hold : old.key = key := by simpa using List.find?_some hfind
        rw [Option.map_some, replaceItem, if_neg (by rw [hold]; exact hkey)]
    · rw [List.find?_append]
      unfold Working.find
      simp [Ne.symm hkey]

theorem Working.find_delete : (w.delete key').find key = if key = key' then none else w.find key := by
  unfold Working.delete Working.find
  rw [List.find?_filter]
  split
  · rename_i hkey
    rw [hkey]
    simp
  · rename_i hkey
    congr 1
    funext old
    by_cases hold : old.key = key
    · simp [hold, hkey]
    · simp [hold]

/-- A value that is stored, or has no place. -/
theorem store_cases (h : store sourceId w key value kind = some w') :
    w' = w.report (stateCapacityExceeded sourceId) ∨
      ∃ item, item.key = key ∧ item.value = value ∧ item.kind = kind ∧ w' = w.put item := by
  unfold store at h
  split at h
  · exact .inl (Option.some.inj h).symm
  · unfold makeItem at h
    split at h
    · exact .inr ⟨_, rfl, rfl, rfl, (Option.some.inj h).symm⟩
    · cases h

/-- Storing a value under its key, or under one that is free, keeps what is held elsewhere. -/
theorem store_keeps {old : String} (h : store sourceId w key value kind = some w')
    (hold : w.value key' = some old) (hsame : key' = key → old = value) :
    w'.value key' = some old := by
  rcases store_cases h with rfl | ⟨item, rfl, rfl, -, rfl⟩
  · exact hold
  · unfold Working.value
    rw [Working.find_put]
    split
    · rename_i hkey
      rw [Option.map_some, hsame hkey]
    · exact hold

end

/-! ## When a statement respects the items -/

section
variable {x : StatementStep} {key value : String}

theorem find_of_value {w : Working} {old : String} (h : w.value key = some old) :
    ∃ item, w.find key = some item ∧ item.value = old := by
  unfold Working.value at h
  rcases hfind : w.find key with _ | item
  · rw [hfind] at h
    cases h
  · rw [hfind] at h
    exact ⟨item, rfl, Option.some.inj h⟩

/-- A conflict that is reported. -/
theorem respects_of_report (hgives : x.statement.gives lib = some (key, value))
    (hafter : x.after = x.before.report (conflictingValue key x.sourceId)) : Respects lib x := by
  refine ⟨fun k v hk _ => ?_, fun k v old hk _ _ => ?_⟩
  · rw [hafter]
    exact hk
  · rw [hgives] at hk
    cases hk
    rw [hafter]
    exact ⟨rfl, rfl⟩

/-- A value that is stored where no other one is held. -/
theorem respects_of_store {kind : String} {cleared : Working}
    (hgives : x.statement.gives lib = some (key, value))
    (hstore : store x.sourceId cleared key value kind = some x.after)
    (hcleared : cleared.items = x.before.items)
    (hsame : ∀ old, x.before.value key = some old → old = value) : Respects lib x := by
  refine ⟨fun k v hk _ => ?_, fun k v old hk hold hne => ?_⟩
  · refine store_keeps hstore ?_ fun hkey => ?_
    · unfold Working.value Working.find
      rw [hcleared]
      exact hk
    · subst hkey
      exact hsame v hk
  · rw [hgives] at hk
    cases hk
    exact absurd (hsame old hold) hne

theorem revision_respects {revokes : Bool} {new : Option String}
    (hstatement : x.statement = .revision revokes key new)
    (h : reduceStatement lib x.sourceId x.before x.statement = some x.after) : Respects lib x := by
  refine ⟨fun k v hk hrevises => ?_, fun k v old hgives => ?_⟩
  · have hkey : k ≠ key := fun hkey => hrevises (by rw [hstatement, hkey]; rfl)
    rw [hstatement] at h
    unfold reduceStatement at h
    dsimp only at h
    split at h
    · rw [← Option.some.inj h]
      exact hk
    · split at h
      · have hdelete : ((x.before.delete key).clear key).find k = (x.before.delete key).find k := rfl
        rw [← Option.some.inj h]
        unfold Working.value
        rw [hdelete, Working.find_delete, if_neg hkey]
        exact hk
      · split at h
        · rw [← Option.some.inj h]
          exact hk
        · rw [← Option.some.inj h]
          exact hk
        · exact store_keeps h hk fun heq => absurd heq hkey
  · rw [hstatement] at hgives
    cases hgives

theorem explicit_respects {kind : String} (hstatement : x.statement = .explicit kind key value)
    (h : reduceStatement lib x.sourceId x.before x.statement = some x.after) : Respects lib x := by
  have hgives : x.statement.gives lib = some (key, value) := by rw [hstatement]; rfl
  rw [hstatement] at h
  unfold reduceStatement at h
  dsimp only at h
  split at h
  · rename_i item hfind
    split at h
    · exact respects_of_report lib hgives (Option.some.inj h).symm
    · rename_i hsame
      rw [not_or, not_not, not_not] at hsame
      refine respects_of_store lib hgives h rfl fun old hold => ?_
      obtain ⟨item', hfind', rfl⟩ := find_of_value hold
      rw [hfind] at hfind'
      cases hfind'
      exact hsame.1
  · rename_i hfind
    refine respects_of_store lib hgives h rfl fun old hold => ?_
    obtain ⟨item', hfind', -⟩ := find_of_value hold
    rw [hfind] at hfind'
    cases hfind'

theorem budget_respects (hstatement : x.statement = .budget value)
    (h : reduceStatement lib x.sourceId x.before x.statement = some x.after) : Respects lib x := by
  have hgives : x.statement.gives lib = some ("budget", value) := by rw [hstatement]; rfl
  rw [hstatement] at h
  unfold reduceStatement at h
  dsimp only at h
  split at h
  · rename_i item hfind
    split at h
    · exact respects_of_report lib hgives (Option.some.inj h).symm
    · rename_i hsame
      refine respects_of_store lib hgives h rfl fun old hold => ?_
      obtain ⟨item', hfind', rfl⟩ := find_of_value hold
      rw [hfind] at hfind'
      cases hfind'
      exact not_not.mp hsame
  · rename_i hfind
    refine respects_of_store lib hgives h rfl fun old hold => ?_
    obtain ⟨item', hfind', -⟩ := find_of_value hold
    rw [hfind] at hfind'
    cases hfind'

theorem reduceStatement_prohibition {sourceId : String} {w : Working} :
    reduceStatement lib sourceId w (.prohibition value) =
      if (w.items.any fun item => item.value = value) = true then some w
      else store sourceId w (prohibitionKey lib value) value "constraint" := rfl

/-- Texts that start differently. -/
theorem append_ne_append {s t a b : String} {c d : Char} (hs : s.toList.head? = some c)
    (ht : t.toList.head? = some d) (hne : c ≠ d) : s ++ a ≠ t ++ b := by
  intro heq
  have hlist := congrArg String.toList heq
  rw [String.toList_append, String.toList_append] at hlist
  have hhead := congrArg List.head? hlist
  rw [List.head?_append, List.head?_append, hs, ht] at hhead
  exact hne (Option.some.inj hhead)

theorem capacity_ne_conflict {sourceId sourceId' : String} :
    stateCapacityExceeded sourceId ≠ conflictingValue key sourceId' := by
  unfold stateCapacityExceeded conflictingValue keyIssue
  rw [String.append_assoc]
  exact append_ne_append (c := 's') (d := 'c') (by decide) (by decide) (by decide)

/-- A prohibition reports no conflict. -/
theorem prohibition_reports_no_conflict (hstatement : x.statement = .prohibition value)
    (h : reduceStatement lib x.sourceId x.before x.statement = some x.after) :
    x.after.unresolved ≠ x.before.unresolved ++ [conflictingValue key x.sourceId] := by
  have hsame : x.before.unresolved ≠ x.before.unresolved ++ [conflictingValue key x.sourceId] :=
    fun heq => by simpa using congrArg List.length heq
  rw [hstatement, reduceStatement_prohibition] at h
  by_cases hstated : (x.before.items.any fun item => item.value = value) = true
  · rw [if_pos hstated] at h
    rw [← Option.some.inj h]
    exact hsame
  · rw [if_neg hstated] at h
    cases store_cases h with
    | inl hafter =>
      rw [hafter]
      intro heq
      have hissue := List.append_cancel_left (show x.before.unresolved ++ [_] = _ from heq)
      exact capacity_ne_conflict (List.singleton_inj.mp hissue)
    | inr hstored =>
      obtain ⟨item, _, _, _, hafter⟩ := hstored
      rw [hafter]
      exact hsame

theorem prohibition_respects_iff (hstatement : x.statement = .prohibition value)
    (h : reduceStatement lib x.sourceId x.before x.statement = some x.after) :
    Respects lib x ↔ Compatible lib x := by
  have hgives : x.statement.gives lib = some (prohibitionKey lib value, value) := by
    rw [hstatement]
    rfl
  constructor
  · intro hrespects value' old hvalue hold
    by_contra hne
    rw [hstatement] at hvalue
    cases hvalue
    exact prohibition_reports_no_conflict lib hstatement h
      (hrespects.conflict _ _ old hgives hold hne).2
  · intro hcompatible
    have hsame : ∀ old, x.before.value (prohibitionKey lib value) = some old → old = value :=
      fun old => hcompatible value old hstatement
    rw [hstatement, reduceStatement_prohibition] at h
    by_cases hstated : (x.before.items.any fun item => item.value = value) = true
    · rw [if_pos hstated] at h
      have hafter := Option.some.inj h
      refine ⟨fun k v hk _ => hafter ▸ hk, fun k v old hk hold hne => ?_⟩
      rw [hgives] at hk
      cases hk
      exact absurd (hsame old hold) hne
    · rw [if_neg hstated] at h
      exact respects_of_store lib hgives h rfl hsame

/-- **When a statement respects the items.** -/
theorem respects_iff (h : reduceStatement lib x.sourceId x.before x.statement = some x.after) :
    Respects lib x ↔ Compatible lib x := by
  rcases hstatement : x.statement with ⟨revokes, key, new⟩ | ⟨kind, key, value⟩ | value | value | _
  · exact iff_of_true (revision_respects lib hstatement h)
      fun value old hvalue => by rw [hstatement] at hvalue; cases hvalue
  · exact iff_of_true (explicit_respects lib hstatement h)
      fun value old hvalue => by rw [hstatement] at hvalue; cases hvalue
  · exact iff_of_true (budget_respects lib hstatement h)
      fun value old hvalue => by rw [hstatement] at hvalue; cases hvalue
  · exact prohibition_respects_iff lib hstatement h
  · rw [hstatement] at h
    have hafter := Option.some.inj h
    refine iff_of_true ⟨fun k v hk _ => hafter ▸ hk, fun k v old hk => ?_⟩
      fun value old hvalue => by rw [hstatement] at hvalue; cases hvalue
    rw [hstatement] at hk
    cases hk

end

/-! ## Conflicts at the end of a turn -/

/-- The conflicts that a turn has found are kept. -/
def KeepsConflicts (x : Closing) : Prop :=
  ∀ key, conflictingValue key x.sourceId ∈ x.before.unresolved →
    conflictingValue key x.sourceId ∈ x.after.unresolved

/-- There is room for the conflicts of a turn: none comes after 32 other issues. -/
def HasRoomForConflicts (x : Closing) : Prop :=
  ∀ key, conflictingValue key x.sourceId ∉ x.before.unresolved.eraseDups.drop 32

theorem finish_unresolved {w : Working} {state : ConversationTaskState}
    (h : w.finish = some state) : state.unresolved = w.unresolved.eraseDups.take 32 := by
  unfold Working.finish makeState at h
  split at h
  · rw [← Option.some.inj h]
  · cases h

theorem nodup_eraseDups {α : Type} [DecidableEq α] : ∀ l : List α, l.eraseDups.Nodup
  | [] => List.nodup_nil
  | a :: l => by
    rw [List.eraseDups_cons]
    refine List.nodup_cons.mpr ⟨fun ha => ?_, nodup_eraseDups _⟩
    simpa using (List.mem_filter.mp (List.mem_eraseDups.mp ha)).2
termination_by l => l.length
decreasing_by
  have := List.length_filter_le (fun b => !b == a) l
  simp only [List.length_cons]
  omega

theorem keepsConflicts_iff {x : Closing} (h : x.before.finish = some x.after) :
    KeepsConflicts x ↔ HasRoomForConflicts x := by
  have hafter := finish_unresolved h
  have hnodup : (x.before.unresolved.eraseDups.take 32 ++
      x.before.unresolved.eraseDups.drop 32).Nodup := by
    rw [List.take_append_drop]
    exact nodup_eraseDups _
  have hdisjoint := (List.nodup_append'.mp hnodup).2.2
  constructor
  · intro hkeeps key hkey
    have hkept := hkeeps key (List.mem_eraseDups.mp (List.mem_of_mem_drop hkey))
    rw [hafter] at hkept
    exact hdisjoint hkept hkey
  · intro hroom key hkey
    rw [← List.mem_eraseDups, ← List.take_append_drop 32 x.before.unresolved.eraseDups] at hkey
    rw [hafter]
    exact (List.mem_append.mp hkey).resolve_right (hroom key)

/-- **What changes an item.** In a run from the empty state, every statement respects the items
and every turn keeps its conflicts exactly if no prohibition meets another value under its key
and no conflict comes after 32 other issues. -/
theorem items_respected_iff (turns : List Turn) :
    ((∀ x ∈ steps lib {} turns, Respects lib x) ∧ ∀ x ∈ closings lib {} turns, KeepsConflicts x) ↔
      (∀ x ∈ steps lib {} turns, Compatible lib x) ∧
        ∀ x ∈ closings lib {} turns, HasRoomForConflicts x := by
  refine and_congr (forall₂_congr fun x hx => ?_) (forall₂_congr fun x hx => ?_)
  · exact respects_iff lib (mem_steps lib hx)
  · exact keepsConflicts_iff (mem_closings lib hx)

namespace Sample

/-- A constraint, and a prohibition that has its key. -/
def restricted : List Turn :=
  [⟨"Constraint[no_submit]: Ask the owner first.", "turn-1"⟩, ⟨"Do not submit anything.", "turn-2"⟩]

end Sample

/-- The prohibition replaces the constraint, and no conflict is reported. -/
theorem prohibition_overwrites :
    (foldTurns Sample.library {} Sample.restricted).map
        (fun state => (state.items.map fun item => (item.key, item.value), state.unresolved)) =
      some ([("no_submit", "Do not submit anything.")], []) ∧
    ¬ ∀ x ∈ steps Sample.library {} Sample.restricted, Respects Sample.library x := by
  refine ⟨by decide, fun h => ?_⟩
  have hsteps : ((steps Sample.library {} Sample.restricted).any fun x =>
      x.before.value "no_submit" = some "Ask the owner first" ∧ x.statement.revises = none ∧
        x.after.value "no_submit" = some "Do not submit anything.") = true := by decide
  obtain ⟨x, hx, hvalues⟩ := List.any_eq_true.mp hsteps
  obtain ⟨hbefore, hrevises, hafter⟩ := of_decide_eq_true hvalues
  have hkept := (h x hx).kept "no_submit" "Ask the owner first" hbefore (by rw [hrevises]; nofun)
  rw [hafter] at hkept
  exact absurd (Option.some.inj hkept) (by decide)

end ProofAgent.TaskState
