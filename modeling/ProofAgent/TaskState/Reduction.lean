import ProofAgent.TaskState.Statements

/-! # Folding user turns into a task state

The statements of a turn are applied one after another to the items, by key, and to
the unresolved issues. -/
namespace ProofAgent.TaskState

variable (lib : TextLibrary)

/-! ## Issues -/

/-- An issue about a key, found in the turn `sourceId`. -/
def keyIssue (name key sourceId : String) : String := name ++ (":" ++ key ++ ":") ++ sourceId

def unknownRevision : String → String → String := keyIssue "unknown_revision"

def emptyRevision : String → String → String := keyIssue "empty_revision"

def conflictingValue : String → String → String := keyIssue "conflicting_value"

def stateCapacityExceeded (sourceId : String) : String := "state_capacity_exceeded:" ++ sourceId

/-- `f":{key}:" in issue`. -/
def mentions (issue key : String) : Bool := containsText (":" ++ key ++ ":") issue

/-! ## One statement -/

/-- The dictionary of the items, and the issues, while a turn is read. -/
structure Working where
  items : List TaskStateItem
  unresolved : List String
  deriving DecidableEq

/-- The item of a key. -/
def Working.find (w : Working) (key : String) : Option TaskStateItem :=
  w.items.find? fun item => item.key = key

/-- `items[item.key] = item`: an item that is there keeps its place. -/
def Working.put (w : Working) (item : TaskStateItem) : Working :=
  { w with items :=
    if (w.find item.key).isSome then
      w.items.map fun old => if old.key = item.key then item else old
    else w.items ++ [item] }

def Working.delete (w : Working) (key : String) : Working :=
  { w with items := w.items.filter fun item => item.key ≠ key }

def Working.report (w : Working) (issue : String) : Working :=
  { w with unresolved := w.unresolved ++ [issue] }

/-- Drop the issues that mention a key. -/
def Working.clear (w : Working) (key : String) : Working :=
  { w with unresolved := w.unresolved.filter fun issue => !mentions issue key }

/-- `TaskStateItem(...)`; `none` where its validator refuses. -/
def makeItem (key value kind sourceId : String) : Option TaskStateItem :=
  if (1 ≤ key.length ∧ key.length ≤ 96) ∧ (1 ≤ value.length ∧ value.length ≤ 512) ∧
      1 ≤ sourceId.length ∧ sourceId.length ≤ 256 then
    some { key, value, sourceTurnId := sourceId, kind }
  else none

/-- Keep a value that a statement gives, if there is room for it. -/
def store (sourceId : String) (w : Working) (key value kind : String) : Option Working :=
  if 512 < value.length ∨ ((w.find key).isNone = true ∧ 32 ≤ w.items.length) then
    some (w.report (stateCapacityExceeded sourceId))
  else (makeItem key value kind sourceId).map w.put

/-- `value.lower() == 'do not submit anything.'`. -/
def isNoSubmit (value : String) : Bool :=
  value.toList.map Char.toLower = "do not submit anything.".toList

def prohibitionKey (value : String) : String :=
  if isNoSubmit value then "no_submit" else "prohibition_" ++ lib.sha256 value

/-- The loop body of `reduce_task_state`. -/
def reduceStatement (sourceId : String) (w : Working) : Statement → Option Working
  | .revision revokes key value =>
    match w.find key with
    | none => some (w.report (unknownRevision key sourceId))
    | some item =>
      if revokes then some ((w.delete key).clear key)
      else match value with
        | none | some "" => some (w.report (emptyRevision key sourceId))
        | some value => store sourceId (w.clear key) key value item.kind
  | .explicit kind key value =>
    match w.find key with
    | some item =>
      if item.value ≠ value ∨ item.kind ≠ kind then some (w.report (conflictingValue key sourceId))
      else store sourceId (w.clear key) key value kind
    | none => store sourceId (w.clear key) key value kind
  | .budget value =>
    match w.find "budget" with
    | some item =>
      if item.value ≠ value then some (w.report (conflictingValue "budget" sourceId))
      else store sourceId w "budget" value "constraint"
    | none => store sourceId w "budget" value "constraint"
  | .prohibition value =>
    -- what is held under the key is not looked at
    if w.items.any fun item => item.value = value then some w
    else store sourceId w (prohibitionKey lib value) value "constraint"
  | .other => some w

/-! ## One turn -/

/-- `ConversationTaskState(...)`; `none` where its validators refuse. -/
def makeState (items : List TaskStateItem) (unresolved : List String) :
    Option ConversationTaskState :=
  if items.length ≤ 32 ∧ unresolved.length ≤ 32 ∧ (items.map (·.key)).Nodup then
    some { items, unresolved }
  else none

/-- What a turn leaves behind: the first 32 distinct issues. -/
def Working.finish (w : Working) : Option ConversationTaskState :=
  makeState w.items (w.unresolved.eraseDups.take 32)

/-- The working state at the start of a turn. -/
def begin (state : ConversationTaskState) : Working := ⟨state.items, state.unresolved⟩

/-- `reduce_task_state`. -/
def reduceTaskState (state : ConversationTaskState) (question sourceId : String) :
    Option ConversationTaskState :=
  ((readQuestion lib question).foldlM (reduceStatement lib sourceId) (begin state)).bind
    Working.finish

/-- A user turn. -/
structure Turn where
  question : String
  turnId : String
  deriving DecidableEq

/-- The fold over the turns of a conversation. -/
def foldTurns (state : ConversationTaskState) (turns : List Turn) : Option ConversationTaskState :=
  turns.foldlM (fun state turn => reduceTaskState lib state turn.question turn.turnId) state

end ProofAgent.TaskState
