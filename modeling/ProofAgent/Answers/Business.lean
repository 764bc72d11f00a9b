import ProofAgent.Answers.Facts

/-! # Business answers

A comparison of businesses is rendered from selected statements, with headings derived from the
directions of their figures. A message counts as such an answer only if rendering the statements
that are among its lines gives it back. -/
namespace ProofAgent.Answers

open Base Base.Regex
open TaskState (Text strip isLetter)

/-! ## Directions of figures -/

inductive CoveragePart where
  | period | strengths | pressures
  deriving DecidableEq

def words (alternatives : List String) : Regex := anyOf (alternatives.map Regex.text)

section
variable (lib : CharacterLibrary)

/-- `20\d{2}\s*年`. -/
def yearOf : Regex :=
  concat [Regex.text "20", .many (digit lib) 2 (some 2), star space, one '年']

/-- `营运利润|净利润|营业收入|保费收入|新业务价值(?!率)`. -/
def growthMetric : Regex :=
  .alt (words ["营运利润", "净利润", "营业收入", "保费收入"])
    (.seq (Regex.text "新业务价值") (.between fun _ after => after ≠ some '率'))

/-- `(?:变动|同比)[（(]%[）)]：\s*([+-]?\d+(?:\.\d+)?)\s*(?:，|$)`. -/
def changeColumn : Regex :=
  concat [words ["变动", "同比"], oneOf "（(", one '%', oneOf "）)", one '：', star space,
    .group (concat [opt (oneOf "+-"), plus (digit lib), opt (.seq (one '.') (plus (digit lib)))]),
    star space, .alt (one '，') (.between fun _ after => after.isNone)]

/-- `first.*second\s*\d`. -/
def thenNumber (first second : Regex) : Regex :=
  concat [first, star notNewline, second, star space, digit lib]

/-- The sign of a decimal number. -/
def decimalSign (number : Text) : Int :=
  if number.all fun c => !lib.isDecimal c || lib.decimalValue c = 0 then 0
  else if number.head? = some '-' then -1 else 1

/-- The parts that a sentence covers. -/
def sentenceCoverage (sentence : Text) : List CoveragePart :=
  if !occurs (digit lib) sentence || occurs (words ["预计", "预测", "假设", "目标", "不代表", "并非",
      "不意味着", "如果", "若"]) sentence then []
  else
    let growth := occurs growthMetric sentence
    let rate := occurs (words ["新业务价值率", "净息差", "拨备覆盖率"]) sentence
    let cost := hasPart "综合成本率" sentence
    let delta := (((changeColumn lib).search sentence).bind (·.group)).map (decimalSign lib)
    let period := occurs (concat [yearOf lib, star notNewline,
        words ["季度", "半年", "年报", "年度", "期间"]]) sentence ||
      (hasPart "期间" sentence && 2 ≤ ((yearOf lib).findAll sentence).length)
    let strengths := delta.any (fun d => (growth && 0 < d) || (cost && d < 0)) ||
      occurs (concat [growthMetric, star notNewline, words ["增长", "增加", "上升"], star space,
        opt (one '+'), digit lib]) sentence ||
      occurs (thenNumber lib (Regex.text "综合成本率") (words ["下降", "优化"])) sentence
    let pressures := delta.any (fun d => ((growth || rate) && d < 0) || (cost && 0 < d)) ||
      occurs (thenNumber lib (words ["价值率", "净息差", "拨备覆盖率", "营运利润", "净利润", "营业收入",
        "保费收入"]) (Regex.text "下降")) sentence ||
      occurs (concat [words ["净亏损", "亏损扩大", "减值损失增加"], star space, digit lib]) sentence ||
      occurs (thenNumber lib (Regex.text "综合成本率") (Regex.text "上升")) sentence
    (if period then [.period] else []) ++ (if strengths then [.strengths] else []) ++
      if pressures then [.pressures] else []

/-- `performance_coverage`. -/
def performanceCoverage (text : Text) : List CoveragePart :=
  (((oneOf "。；;\n").splitBy text).flatMap (sentenceCoverage lib)).dedup

/-! ## Businesses -/

/-- `ALIASES`. -/
def businessAliases : List (Text × List String) :=
  [("寿险及健康险".toList, ["寿险及健康险", "寿险", "人寿保险"]),
    ("产险".toList, ["财产保险", "财险", "产险"]), ("银行".toList, ["银行"])]

/-- `_business`. -/
def businessOf (text : Text) : Option Text :=
  match (businessAliases.filter fun p => p.2.any (hasPart · text)).map Prod.fst with
  | [name] => some name
  | _ => none

/-- Whether a text mentions a business. -/
def mentionsBusiness (text : Text) : Bool :=
  businessAliases.any fun p => p.2.any (hasPart · text)

/-- The text before each occurrence of a needle. -/
def beforeOccurrences (needle content : Text) : List Text :=
  if needle = [] then content.inits
  else ((Regex.text (.ofList needle)).findAll content).map (·.before)

/-- `^#{1,6}\s+([^\n]+)`. -/
def headingLine : Regex :=
  concat [lineStart, .many (one '#') 1 (some 6), plus space, .group (plus notNewline)]

/-- `\n\s*\n`. -/
def paragraphBreak : Regex := concat [one '\n', star space, one '\n']

/-- The business that the text before an occurrence gives it. -/
def contextOf (before : Text) : Option Text :=
  let heading := ((headingLine.findAll before).getLast?.bind (·.group)).bind businessOf
  let paragraph := (paragraphBreak.splitBy before).getLastD []
  if mentionsBusiness paragraph then
    match businessOf paragraph with
    | some name => if heading = none ∨ heading = some name then some name else none
    | none => none
  else heading

/-- The contexts of a statement in the chunks under its citation. -/
def contextsOf (evidence : List EvidenceChunk) (o : RepairOption) : List (Option Text) :=
  ((acceptedEvidence evidence).filter fun e => e.citation = some o.citation).flatMap fun e =>
    (beforeOccurrences (rstrip "。." o.statement) e.content.toList).map contextOf

/-- The business of a statement, from its text or from its context. -/
def statementBusiness (evidence : List EvidenceChunk) (o : RepairOption) : Option Text :=
  match businessOf o.statement with
  | some name => some name
  | none =>
    if mentionsBusiness o.statement then none
    else match (contextsOf evidence o).dedup with
      | [business] => business
      | _ => none

/-- A fact, the number in its id `s0`, `s1`, ... being that of its statement. -/
structure BusinessFact where
  statementId : Nat
  business : Text
  statement : Text
  citation : String
  directions : List CoveragePart
  deriving DecidableEq

/-- The fact of the statement with a number, if it is one. -/
def businessFact (evidence : List EvidenceChunk) (i : Nat) (o : RepairOption) : Option BusinessFact :=
  let directions := (performanceCoverage lib o.statement).filter (· ≠ .period)
  (statementBusiness evidence o).bind fun business =>
    if directions = [] then none
    else some ⟨i, business, o.statement, o.citation, directions⟩

/-- `business_facts` of the options of the evidence. -/
def businessFacts (evidence : List EvidenceChunk) (options : List RepairOption) :
    List BusinessFact :=
  options.zipIdx.filterMap fun p => businessFact lib evidence p.2 p.1

end

/-! ## Rendering -/

/-- The directions of the facts of a business. -/
def businessDirections (facts : List BusinessFact) (business : Text) : List CoveragePart :=
  [.pressures, .strengths].filter fun d =>
    facts.any fun f => f.business = business && f.directions.contains d

def CoveragePart.label : CoveragePart → Text
  | period => "period".toList
  | strengths => "strengths".toList
  | pressures => "pressures".toList

/-- `assessment_gaps` of the selected facts among all. -/
def assessmentGaps (facts chosen : List BusinessFact) : List Text :=
  if facts = [] then ["business_identity".toList]
  else (uniqueBy id (facts.map (·.business))).flatMap fun business =>
    ((businessDirections facts business).filter fun d =>
      !(businessDirections chosen business).contains d).map fun d =>
        business ++ ":".toList ++ d.label

/-- `BASIS`. -/
def comparisonBasis : Text := "比较口径说明：按各指标原文的同比或期初口径分别归纳，不作跨业务排名。".toList

/-- `LIMIT`. -/
def judgementLimit : Text := "判断范围：指标承压不等于整个业务较差；未覆盖的业务不能据此评价。".toList

/-- A line that names the businesses with a direction. -/
def directionLine (label some none : String) (facts : List BusinessFact) (d : CoveragePart) : Text :=
  let businesses := uniqueBy id ((facts.filter fun f => f.directions.contains d).map (·.business))
  label.toList ++ if businesses = [] then none.toList else joinWith "、" businesses ++ some.toList

/-- The heading of a business. -/
def businessHeading (facts : List BusinessFact) (business : Text) : Text :=
  let directions := businessDirections facts business
  let label :=
    if directions.length = 2 then "增长或成本改善与压力并存"
    else if directions.contains .strengths then "存在增长或成本改善指标" else "存在承压指标"
  business ++ "：".toList ++ label.toList ++ "。".toList

/-- The lines of a business: its heading and its statements. -/
def businessLines (facts : List BusinessFact) (business : Text) : List Text :=
  [[], businessHeading facts business] ++
    (facts.filter fun f => f.business = business).map (·.statement)

/-- The lines of an answer: its facts by business, and the other selected statements. -/
def businessAnswerLines (facts : List BusinessFact) (extra : List Text) : List Text :=
  [scopeDisclosure, comparisonBasis,
    directionLine "亮点与表现较好的方面：" "存在增长或成本改善指标。" "当前材料未形成可验证的改善判断。" facts
      .strengths,
    directionLine "存在压力的方面：" "存在承压指标。" "当前材料未形成可验证的承压判断。" facts .pressures,
    judgementLimit] ++
    (uniqueBy id (facts.map (·.business))).flatMap (businessLines facts) ++
    if extra = [] then [] else [[], "其他已选事实".toList] ++ extra

/-- Why an answer is not rendered: a `ValueError`, or an id that is not known. -/
inductive RenderError where
  | businessCoverageIncomplete | unknownStatement
  deriving DecidableEq

section
variable (lib : CharacterLibrary) (evidence : List EvidenceChunk) (options : List RepairOption)

/-- `render_business_answer` of the options of the evidence. -/
def renderSelected (selected : List Nat) : Except RenderError Text := do
  let facts := businessFacts lib evidence options
  let chosen := facts.filter fun f => f.statementId ∈ selected
  require (assessmentGaps facts chosen = []) RenderError.businessCoverageIncomplete
  let extra ← (selected.filter fun i => i ∉ chosen.map (·.statementId)).mapM fun i =>
    orRaise (options[i]?.map (·.statement)) RenderError.unknownStatement
  return joinWith "\n" (businessAnswerLines chosen extra)

/-- The numbers of the statements that are lines of a message. -/
def statementsIn (message : Text) : List Nat :=
  (options.zipIdx.filter fun p => p.1.statement ∈ splitLines message).map Prod.snd

/-- `verified_business_body` of the options of the evidence. -/
def verifiedBody (message : Text) : Option Text :=
  let ids := statementsIn options message
  if ¬ (1 ≤ ids.length ∧ ids.length ≤ 16) then none
  else if renderSelected lib evidence options ids = .ok message then
    some (joinWith "\n" (ids.filterMap fun i => options[i]?.map (·.statement)))
  else none

end

/-- `render_business_answer`. -/
def renderBusinessAnswer (lib : AnswerLibrary) (evidence : List EvidenceChunk)
    (selected : List Nat) : Except EvidenceError (Except RenderError Text) := do
  let options ← answerFactRepairOptions lib evidence
  return renderSelected lib.toCharacterLibrary evidence options selected

/-- `verified_business_body`. -/
def verifiedBusinessBody (lib : AnswerLibrary) (message : Text) (evidence : List EvidenceChunk) :
    Except EvidenceError (Option Text) := do
  let options ← answerFactRepairOptions lib evidence
  return verifiedBody lib.toCharacterLibrary evidence options message

end ProofAgent.Answers
