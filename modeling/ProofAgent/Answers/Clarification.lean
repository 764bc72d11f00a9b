import ProofAgent.Answers.Validation
import ProofAgent.Control.ExecutionPolicy
import ProofAgent.Contracts.ControlledReact

/-! # Clarification

What a user is asked before a run retrieves. A missing field blocks the run, is deferred until after
the answer, or gives way to an assumption about the scope of the search. -/
namespace ProofAgent.Answers

open Base Base.Regex
open TaskState (Text strip)

/-! ## Intents -/

inductive AssessmentKind where
  | requiredContext | answerContext | preference | retrievable
  deriving DecidableEq

structure ClarificationAssessment where
  field : Text
  kind : AssessmentKind
  defaultAssumption : Text := []
  deriving DecidableEq

structure RetrievalQueryItem where
  query : Text
  intentAngle : String
  required : Bool
  reason : String
  deriving DecidableEq

/-- An intent, with the fields that the policy reads and sets. -/
structure IntentResolution where
  missingFields : List Text := []
  recommendedNextAction : ReActActionType
  retrievalQuerySet : List RetrievalQueryItem := []
  answerRequirements : List AnswerRequirement := []
  clarificationAssessments : List ClarificationAssessment := []
  scopeAssumptions : List Text := []
  deferredAnswerFields : List Text := []
  appliedClarificationLevel : Option ClarificationIntensity := none
  assessed_once : (clarificationAssessments.map (·.field)).Nodup := by decide
  assessed_missing : ∀ a ∈ clarificationAssessments, a.field ∈ missingFields := by decide

namespace IntentResolution

/-- Whether a query is required. -/
def hasRequiredQuery (r : IntentResolution) : Bool := r.retrievalQuerySet.any (·.required)

/-- The assessment of a field. -/
def assessment (r : IntentResolution) (field : Text) : Option ClarificationAssessment :=
  r.clarificationAssessments.find? fun a => a.field = field

/-- The intent with the missing fields that are kept, and with their assessments. -/
def keepFields (r : IntentResolution) (keep : Text → Bool) : IntentResolution :=
  { r with
    missingFields := r.missingFields.filter keep
    clarificationAssessments := r.clarificationAssessments.filter fun a => keep a.field
    assessed_once := (List.filter_sublist.map _).nodup r.assessed_once
    assessed_missing := fun a ha => by
      obtain ⟨ha, hkeep⟩ := List.mem_filter.mp ha
      exact List.mem_filter.mpr ⟨r.assessed_missing a ha, hkeep⟩ }

/-- The intent with other default assumptions. -/
def withDefaults (r : IntentResolution) (default : ClarificationAssessment → Text) :
    IntentResolution :=
  { r with
    clarificationAssessments :=
      r.clarificationAssessments.map fun a => { a with defaultAssumption := default a }
    assessed_once := by
      rw [List.map_map]
      exact r.assessed_once
    assessed_missing := fun b hb => by
      obtain ⟨a, ha, rfl⟩ := List.mem_map.mp hb
      exact r.assessed_missing a ha }

/-- The intent without missing fields. -/
def withoutFields (r : IntentResolution) : IntentResolution :=
  { r with
    missingFields := []
    clarificationAssessments := []
    assessed_once := List.nodup_nil
    assessed_missing := nofun }

end IntentResolution

/-! ## Periods -/

section
variable (lib : CharacterLibrary)

/-- `(?:19|20)\d{2}`. -/
def yearNumber : Regex := .seq (words ["19", "20"]) (.many (digit lib) 2 (some 2))

/-- `(?:19|20)\d{2}\s*年?`. -/
def yearText : Regex := concat [yearNumber lib, star space, opt (one '年')]

/-- `(?:19|20)\d{2}|今年|去年|前年|上年|本年|近\s*\d+\s*年`. -/
def requestedPeriod : Regex :=
  anyOf [yearNumber lib, words ["今年", "去年", "前年", "上年", "本年"],
    concat [one '近', star space, plus (digit lib), star space, one '年']]

def latestScope : Text := "查找最近可得的实际报告，具体报告期由检索证据确定；未核实最新性。".toList

/-- A query without the years that the question does not name. -/
def withoutYears (query : Text) : Text :=
  strip <| (yearText lib).subBy (fun m =>
    if startsWith "报" m.after && endsWith "年" m.text then "年".toList else []) query

/-- `_normalize_performance_period`. -/
def normalizePerformancePeriod (r : IntentResolution) (question : Text) : IntentResolution :=
  if !occurs (words ["业绩", "经营表现", "业务表现"]) question then r
  else if occurs (requestedPeriod lib) question then r
  else
    { r.withDefaults fun a =>
        if a.kind = .preference ∧ occurs (yearText lib) a.defaultAssumption then latestScope
        else a.defaultAssumption with
      scopeAssumptions := uniqueBy id (r.scopeAssumptions.map fun s =>
        if occurs (yearText lib) s then latestScope else s)
      retrievalQuerySet := r.retrievalQuerySet.map fun q =>
        if occurs (yearText lib) q.query then { q with query := withoutYears lib q.query } else q }

end

/-! ## Purchases -/

/-- `PURCHASE_SCOPE`. -/
def purchaseScope : Text :=
  "本轮按购前产品与适合性咨询处理；不要求已持有该产品的保单资料，个人适合性依据已提供信息与检索证据分析，确有缺口时再询问。".toList

/-- `.{low,high}`. -/
def anyBetween (low high : Nat) : Regex := .many notNewline low (some high)

/-- `适合.{0,8}(?:买|购买|投保|我)|(?:要不要|该不该|能不能|是否应该|想|准备|打算)(?:买|购买|投保)`. -/
def purchaseQuestion : Regex :=
  .alt (concat [Regex.text "适合", anyBetween 0 8, words ["买", "购买", "投保", "我"]])
    (.seq (words ["要不要", "该不该", "能不能", "是否应该", "想", "准备", "打算"])
      (words ["买", "购买", "投保"]))

/-- The operations on a policy that the user has. -/
def policyOperation : Regex :=
  .alt (words ["保单", "合同", "理赔", "退保", "续保", "领取", "已买", "买过", "买了", "买的", "已购", "已投保",
      "投保了", "投保过", "已持有", "已购买", "加保", "减保", "保全", "受益人", "报案", "出险"])
    (concat [Regex.text "我的", anyBetween 0 6, words ["赔", "现金价值"]])

/-- A field that asks for the details of a policy, and for nothing else. -/
def policyField : Regex :=
  concat [opt (Regex.text "用户"),
    opt (concat [Regex.text "是否", opt (words ["已经", "已"]), words ["投保", "购买"],
      opt (oneOf "该此本"), Regex.text "产品", opt (oneOf "及和")]),
    opt (Regex.text "具体"), Regex.text "保单", words ["信息", "资料", "编号", "号", "详情"],
    opt (concat [oneOf "（(", words ["如有追问需要", "如有", "若有"], oneOf "）)"]), opt (oneOf "？?")]

/-- `irrelevant_purchase_policy_field`. -/
def irrelevantPurchasePolicyField (question field : Text) : Bool :=
  if !occurs (words ["保险", "寿险", "重疾险", "医疗险", "意外险", "年金险"]) question then false
  else if !occurs purchaseQuestion question then false
  else if occurs policyOperation question then false
  else (policyField.fullMatch (strip field)).isSome

/-- `_normalize_purchase_dependencies`. -/
def normalizePurchaseDependencies (r : IntentResolution) (question : Text) : IntentResolution :=
  if (r.recommendedNextAction ≠ .planRetrieval ∧ r.recommendedNextAction ≠ .askClarification) ∨
      !r.hasRequiredQuery then r
  else
    let irrelevant := (r.missingFields ++ r.deferredAnswerFields).filter
      (irrelevantPurchasePolicyField question)
    if irrelevant = [] then r
    else
      let assumptions := uniqueBy id (r.scopeAssumptions ++ [purchaseScope])
      { r.keepFields fun f => f ∉ irrelevant with
        deferredAnswerFields := r.deferredAnswerFields.filter fun f => f ∉ irrelevant
        scopeAssumptions := if assumptions.length ≤ 8 then assumptions else r.scopeAssumptions
        recommendedNextAction :=
          if ∃ f ∈ r.missingFields, f ∉ irrelevant then r.recommendedNextAction else .planRetrieval }

/-! ## The policy -/

/-- What becomes of a missing field. -/
inductive FieldDecision where
  | block
  | defer
  | assume (assumption : Text)
  | drop
  deriving DecidableEq

/-- What the policy knows of a run: its configuration and how often its user was asked. -/
structure ClarificationSettings where
  /-- `(response or ResponseConfig()).clarification_level`. -/
  responseLevel : ClarificationIntensity := .balanced
  interaction : Option InteractionPolicy := none
  roundsAsked : Nat := 0

namespace ClarificationSettings

def level (s : ClarificationSettings) : ClarificationIntensity :=
  match s.interaction with
  | none => s.responseLevel
  | some interaction =>
    ((interaction.checkpoints.lookup .goal).bind (·.intensity)).getD interaction.intensity

/-- `should_ask` of a preference. -/
def shouldAsk (s : ClarificationSettings) (hasDefault : Bool) : Bool :=
  match s.interaction with
  | some interaction => decideInteraction interaction .goal .preference hasDefault s.roundsAsked = .ask
  | none => s.level = .thorough || (s.level = .balanced && !hasDefault)

end ClarificationSettings

/-- The branch of the loop over the missing fields that a field takes. -/
def fieldDecision (s : ClarificationSettings) (r : IntentResolution) (field : Text) : FieldDecision :=
  match r.assessment field with
  | none => .block
  | some a =>
    match a.kind with
    | .requiredContext => .block
    | .answerContext =>
      if r.recommendedNextAction ≠ .proposeToolCall ∧ r.hasRequiredQuery then .defer else .block
    | .preference =>
      if s.shouldAsk (a.defaultAssumption ≠ []) then .block
      else if a.defaultAssumption ≠ [] then .assume a.defaultAssumption else .drop
    | .retrievable => .drop

def FieldDecision.assumption? : FieldDecision → Option Text
  | assume assumption => some assumption
  | _ => none

/-- The queries of a retrieval, one of which is required. -/
def requiredQueries (question : Text) : List RetrievalQueryItem → List RetrievalQueryItem
  | [] =>
    [{ query := question, intentAngle := "original_question", required := true,
       reason := "Retrieve public facts before asking for optional detail." }]
  | first :: rest =>
    if (first :: rest).any (·.required) then first :: rest
    else { first with required := true } :: rest

/-- The policy on an intent whose dependencies are normalized. -/
def settleFields (s : ClarificationSettings) (question : Text) (r : IntentResolution) :
    IntentResolution :=
  if r.missingFields = [] ∨ r.recommendedNextAction = .refuse then r
  else
    let decision := fieldDecision s r
    let blocking := r.missingFields.filter fun f => decision f = .block
    let deferred := r.missingFields.filter fun f => decision f = .defer
    let assumptions := uniqueBy id (r.scopeAssumptions ++
      r.missingFields.filterMap fun f => (decision f).assumption?)
    let r := { r with deferredAnswerFields := uniqueBy id (r.deferredAnswerFields ++ deferred) }
    if blocking ≠ [] then
      { r.keepFields fun f => f ∈ blocking with recommendedNextAction := .askClarification }
    else if 8 < assumptions.length then { r with recommendedNextAction := .askClarification }
    else if r.recommendedNextAction = .proposeToolCall then r.withoutFields
    else
      { r.withoutFields with
        recommendedNextAction := .planRetrieval
        scopeAssumptions := assumptions
        retrievalQuerySet := requiredQueries question r.retrievalQuerySet }

/-- `apply_clarification_policy`. -/
def applyClarificationPolicy (lib : AnswerLibrary) (s : ClarificationSettings)
    (question : Text) (r : IntentResolution) : Except QuestionError IntentResolution := do
  let requirements ← answerRequirements lib.sha256 question
  let r := { r with answerRequirements := requirements }
  let r := normalizePerformancePeriod lib.toCharacterLibrary r question
  let r := normalizePurchaseDependencies r question
  return settleFields s question { r with appliedClarificationLevel := some s.level }

end ProofAgent.Answers
