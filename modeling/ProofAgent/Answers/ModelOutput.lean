import ProofAgent.Answers.Citations
import ProofAgent.Answers.QuotedBlocks

/-! # The output of an answering model

The content of a response is read as a message with its citations, and with quotes and coverage
where it has either. Each validator says what it finds, and an output that one of them fails is no
answer. -/
namespace ProofAgent.Answers

open Base Base.Regex
open TaskState (Text strip)

/-- What the checks of an output take from elsewhere. -/
structure OutputLibrary extends AnswerLibrary where
  /-- `json.loads`, where it returns. -/
  loads : Text → Option Json
  /-- `json.dumps(value, ensure_ascii=False)`. -/
  dumps : Json → Text
  /-- `str.lower`. -/
  lower : Text → Text

/-! ## Reading -/

structure FinalAnswerOutput where
  message : String
  citations : List String
  /-- The quotes and the coverage, where there is either. -/
  analysis : Option (Json × Json) := none

/-- The dict of an output whose outcome is an answer. -/
def FinalAnswerOutput.toJson (o : FinalAnswerOutput) : Json :=
  .obj ([("outcome", .str "ANSWERED_WITH_CITATIONS"), ("message", .str o.message),
    ("citations", .arr (o.citations.map .str))] ++
      match o.analysis with
      | some (quotes, coverage) => [("quotes", quotes), ("coverage", coverage)]
      | none => [])

section
variable (lib : OutputLibrary)

/-- `_model_content_json`. -/
def modelContentJson (content : Text) : Except String Json :=
  if strip content = [] then .error "empty_model_output"
  else orRaise (lib.loads (strip content)) "model_output_json_parse_failed"

/-- `structured_final_answer_output`: the output, or the code of its parse error. -/
def structuredFinalAnswerOutput (content : Text) : Except String FinalAnswerOutput := do
  let raw ← modelContentJson lib content
  match raw with
  | .obj fields =>
    require (∀ p ∈ fields, p.1 ∈ ["message", "citations", "quotes", "coverage"])
      "model_output_unknown_fields"
    let message ← orRaise (raw.readField Json.asStr "message") "model_output_missing_message"
    let citations ← orRaise (raw.readField (Json.asList Json.asStr) "citations")
      "model_output_invalid_citations"
    let quotes := raw.field "quotes"
    let coverage := raw.field "coverage"
    return {
      message, citations
      analysis := if quotes.isSome || coverage.isSome then
        some (quotes.getD .null, coverage.getD .null) else none }
  | _ => .error "model_output_json_not_object"

end

/-! ## Validators -/

inductive AnswerValidator where
  | schema | safety | citations | finalAnswerAdequacy | answerFacts
  deriving DecidableEq

/-- What is read of a `ValidationResult`. -/
structure AnswerCheck where
  validator : AnswerValidator
  status : ValidationStatus
  violationCodes : List String := []
  deriving DecidableEq

def AnswerCheck.of (validator : AnswerValidator) (passed : Bool) (violationCodes : List String) :
    AnswerCheck where
  validator := validator
  status := if passed then .passed else .failed
  violationCodes := violationCodes

/-- `validate_final_output_schema`. -/
def validateFinalOutputSchema (output : Json) : AnswerCheck :=
  let missing := ["message", "outcome"].filter fun key => (output.field key).isNone
  let citationsValid := ((output.field "citations").getD (.arr [])).asList some |>.isSome
  .of .schema (missing = [] && citationsValid) []

section
variable (lib : OutputLibrary)

/-- `SECRET_MARKERS`. -/
def secretMarkers : List String := ["api_key", "access_token", "bearer ", "password", "secret-token"]

/-- `validate_no_secret_strings`. -/
def validateNoSecretStrings (text : Text) : AnswerCheck :=
  .of .safety (!secretMarkers.any fun marker => hasPart marker (lib.lower text)) []

/-- `validate_citation_refs_supported_by_evidence` of the citations of an answer. -/
def validateCitations (citations : List String) (evidence : List EvidenceChunk) : AnswerCheck :=
  .of .citations (validateCitationRefs lib.toCharacterLibrary (citations.map String.toList) evidence
    (evidence ≠ [])).passed []

/-! ## Adequacy -/

/-- `missing_performance_coverage`. -/
def missingPerformanceCoverage (question text : Text) : List CoveragePart :=
  if !isPerformanceComparison question then []
  else [.period, .strengths, .pressures].filter fun part =>
    part ∉ performanceCoverage lib.toCharacterLibrary text

/-- `\s*\[citation:[^\]]+\]`. -/
def internalCitationMarker : Regex :=
  concat [star space, Regex.text "[citation:", plus (.char (· ≠ ']')), one ']']

/-- `(?im)(?:^|\s)(?:citation|citations|引用|参考)[:：]\s*\S+`. -/
def citationLabel : Regex :=
  concat [.alt lineStart space,
    anyOf [anyCase "citation", anyCase "citations", Regex.text "引用", Regex.text "参考"],
    oneOf ":：", star space, plus (.char fun c => !isSpace c)]

/-- A number in brackets, or the same between backticks, with white space around it. -/
def numberedReference : Regex :=
  let number := concat [one '[', plus (digit lib.toCharacterLibrary), one ']']
  concat [.between fun before _ => before.all isSpace,
    .alt number (concat [one backtick, number, one backtick]),
    .between fun _ after => after.all isSpace]

/-- `_has_visible_citation_artifact`. -/
def hasVisibleCitationArtifact (message : Text) (evidence : List EvidenceChunk) : Bool :=
  occurs internalCitationMarker message || occurs citationLabel message ||
    hasPart "knowledge://source/" message || occurs (numberedReference lib) message ||
    (allowedCitationRefs evidence).any fun ref => ref <:+: message

/-- `_normalize_for_comparison`. -/
def normalizeForComparison (value : Text) : Text := strip (replace (plus space) " " value)

/-- `_normalize_evidence_body_for_comparison`. -/
def normalizeEvidenceBody (content : Text) : Text :=
  normalizeForComparison <| joinWith "\n" <| (splitLines content).filter fun line =>
    strip line ≠ [] && (line.dropWhile isSpace).head? ≠ some '#'

/-- `_looks_like_raw_evidence_candidate`. -/
def looksLikeRawEvidence (message evidence : Text) : Bool :=
  80 ≤ evidence.length && (message = evidence ||
    ((evidence.take 80).isPrefixOf message && 85 * evidence.length ≤ 100 * message.length))

/-- `_looks_like_raw_evidence_dump`. -/
def looksLikeRawEvidenceDump (message : Text) (evidence : List EvidenceChunk) : Bool :=
  let message := normalizeForComparison message
  message ≠ [] && evidence.any fun chunk =>
    [normalizeForComparison chunk.content.toList, normalizeEvidenceBody chunk.content.toList].any
      (looksLikeRawEvidence message)

/-- `_LIST_MARKER_RE`. -/
def answerListMarker : Regex :=
  .alt (concat [oneOf "-*+", plus space])
    (concat [plus (digit lib.toCharacterLibrary), oneOf ".)、", star space])

/-- `[A-Za-z]{2,}`. -/
def latinWord : Regex := .many (.char Char.isAlpha) 2 none

/-- `_has_answer_sentence_signal`. -/
def hasAnswerSentenceSignal (line : Text) : Bool :=
  let stripped := strip line
  8 ≤ stripped.length &&
    (stripped.getLast?.any (".!?;:。！？；：".toList.contains ·) ||
      (((answerListMarker lib).matchStart stripped).isSome &&
        (8 ≤ stripped.countP isCjk || 3 ≤ (latinWord.findAll stripped).length)))

/-- `_looks_like_table_fragment_without_conclusion`. -/
def looksLikeTableFragment (message : Text) : Bool :=
  let lines := ((splitLines message).map strip).filter (· ≠ [])
  6 ≤ lines.length && 7 * lines.length ≤ 10 * lines.countP (fun line => line.length ≤ 48) &&
    lines.countP (hasAnswerSentenceSignal lib) < 2

/-- `_LATIN_STOPWORDS`. -/
def latinStopwords : List String :=
  ["about", "after", "before", "does", "from", "have", "into", "rule", "should", "that", "the",
    "their", "this", "what", "when", "where", "which", "with", "would"]

/-- `_CJK_STOP_BIGRAMS`. -/
def cjkStopBigrams : List String := ["什么", "哪些", "多少", "如何", "怎么", "怎样", "了吗"]

/-- `[a-z0-9]+`. -/
def latinToken : Regex := plus (.char fun c => c.isLower || isAsciiDigit c)

/-- `re.findall(r"[a-z0-9]+", text)`. -/
def latinTokens (text : Text) : List Text := (latinToken.findAll text).map (·.text)

def bigrams (sequence : Text) : List Text := (sequence.zip sequence.tail).map fun p => [p.1, p.2]

/-- `_question_terms`. -/
def questionTerms (question : Text) : List Text :=
  uniqueBy id <| ((latinTokens (lib.lower question)).filter fun token =>
      4 ≤ token.length && .ofList token ∉ latinStopwords) ++
    (((plus (.char isCjk)).findAll question).flatMap fun m => bigrams m.text).filter fun term =>
      .ofList term ∉ cjkStopBigrams

/-- `_latin_prefix_match`. -/
def latinPrefixMatch (term : Text) (messageTokens : List Text) : Bool :=
  5 ≤ term.length && (latinToken.fullMatch term).isSome &&
    messageTokens.any fun token => 5 ≤ token.length && token.take 5 = term.take 5

/-- `_matched_terms`. -/
def matchedTerms (message : Text) (terms : List Text) : List Text :=
  terms.filter fun term => lib.lower term <:+: lib.lower message ||
    latinPrefixMatch (lib.lower term) (latinTokens (lib.lower message))

/-- `_minimum_question_term_matches`. -/
def minimumQuestionTermMatches (terms : List Text) : Nat := if 3 ≤ terms.length then 2 else 1

/-- The message without the disclosure of its scope. -/
def withoutDisclosure (message : Text) : Text :=
  let stripped := strip message
  if scopeDisclosure.isPrefixOf stripped then strip (stripped.drop scopeDisclosure.length)
  else stripped

def codeIf (condition : Bool) (code : String) : List String := if condition then [code] else []

/-- The codes for what an answer lacks; `body` is that of a verified business answer. -/
def adequacyCodes (question message : Text) (body : Option Text) (citations : List String)
    (evidence : List EvidenceChunk) (quoted : Bool) : List String :=
  let stripped := withoutDisclosure (body.getD message)
  let terms := questionTerms lib question
  (if quoted then [] else (missingPerformanceCoverage lib question message).map fun part =>
    "missing_analysis_" ++ .ofList part.label) ++
  codeIf (!quoted && isPerformanceComparison question && body.isNone) "missing_business_assessment" ++
  codeIf (stripped = []) "empty_answer" ++
  codeIf (citations = []) "missing_claim_citation_binding" ++
  codeIf (hasVisibleCitationArtifact lib stripped evidence) "visible_citation_artifact" ++
  codeIf (looksLikeRawEvidenceDump stripped evidence) "raw_evidence_dump" ++
  codeIf (looksLikeTableFragment lib stripped) "missing_business_conclusion" ++
  codeIf (terms ≠ [] && (matchedTerms lib stripped terms).length < minimumQuestionTermMatches terms)
    "missing_question_terms"

/-- The body of a business answer, where the question asks for one. -/
def boundBody (question message : Text) (evidence : List EvidenceChunk) :
    Except EvidenceError (Option Text) :=
  if isPerformanceComparison question then verifiedBusinessBody lib.toAnswerLibrary message evidence
  else .ok none

/-- `validate_final_answer_adequacy`. -/
def validateFinalAnswerAdequacy (question message : Text) (citations : List String)
    (evidence : List EvidenceChunk) (outcome : ReceiptOutcome) (quoted : Bool) :
    Except EvidenceError AnswerCheck :=
  if outcome ≠ .answeredWithCitations then .ok (.of .finalAnswerAdequacy true [])
  else do
    let body ← boundBody lib question message evidence
    let codes := adequacyCodes lib question message body citations evidence quoted
    return .of .finalAnswerAdequacy codes.isEmpty (uniqueBy id codes)

/-! ## The whole output -/

/-- The check of an output that quotes, or of one that must be literal. -/
def validateBinding (o : FinalAnswerOutput) (outcome : ReceiptOutcome)
    (evidence : List EvidenceChunk) (question : Text) : Except QuotedAnswerError AnswerCheck :=
  match o.analysis with
  | some _ => do
    let check ← validateQuotedAnswer lib.toAnswerLibrary o.toJson evidence question
    return .of .answerFacts check.passed check.codes
  | none => do
    let check ← (validateSourceBoundAnswer lib.toAnswerLibrary o.message.toList o.citations evidence
      outcome).mapError .evidence
    return .of .answerFacts check.passed check.codes

/-- `validate_model_output` of a response's content and finish reason. -/
def validateModelOutput (content : Text) (finishReason : Option String) (outcome : ReceiptOutcome)
    (evidence : List EvidenceChunk) (question : Text) :
    Except QuotedAnswerError (List AnswerCheck) :=
  if finishReason = some "length" then .ok [.of .schema false ["model_output_truncated"]]
  else
    match structuredFinalAnswerOutput lib content with
    | .error code =>
      .ok [.of .schema false [code], validateNoSecretStrings lib content,
        validateCitations lib [] evidence]
    | .ok o => do
      let adequacy ← (validateFinalAnswerAdequacy lib question o.message.toList o.citations evidence
        outcome o.analysis.isSome).mapError .evidence
      let binding ← validateBinding lib o outcome evidence question
      return [validateFinalOutputSchema o.toJson, validateNoSecretStrings lib (lib.dumps o.toJson),
        validateCitations lib o.citations evidence, adequacy, binding]

end

/-! ## What passes -/

/-- A quote is bound by more evidence. -/
theorem QuoteBound.mono {evidence more : List EvidenceChunk} {citations : List String} {q : Quote}
    (h : QuoteBound evidence citations q)
    (hmore : ∀ chunk ∈ acceptedEvidence evidence, chunk ∈ acceptedEvidence more) :
    QuoteBound more citations q := by
  obtain ⟨chunk, hchunk, hrest⟩ := h.inChunk
  exact ⟨h.cited, chunk, hmore chunk hchunk, hrest⟩

/-- What a quoted answer that passes is read as. -/
theorem validateQuotedAnswer_passed {lib : AnswerLibrary} {output : Json}
    {evidence : List EvidenceChunk} {question : Text} {check : QuoteCheck}
    (h : validateQuotedAnswer lib output evidence question = .ok check)
    (hpassed : check.passed = true) :
    ∃ answer requirements, readQuotedOutput output = some answer ∧
      answerRequirements lib.sha256 question = .ok requirements ∧ answer.quotes ≠ [] ∧
      (∀ q ∈ answer.quotes, QuoteBound evidence answer.citations q) ∧
      (answer.coverage.map (·.requirementId)).Perm (requirements.map (·.requirementId)).dedup := by
  unfold validateQuotedAnswer at h
  split at h
  · obtain rfl := Except.ok.inj h
    cases hpassed
  · obtain rfl := Except.ok.inj h
    cases hpassed
  · rename_i message citations items hmessage hitems
    split at h
    · cases h
    · cases h
    · rename_i errors requirements herrors hrequirements
      obtain rfl := Except.ok.inj h
      have hnil := uniqueBy_eq_nil (List.isEmpty_iff.mp hpassed)
      obtain ⟨hnil, hcoverage⟩ := List.append_eq_nil_iff.mp hnil
      obtain ⟨hnil, _⟩ := List.append_eq_nil_iff.mp hnil
      obtain ⟨hflat, _⟩ := List.append_eq_nil_iff.mp hnil
      obtain ⟨rows, covered, hrows, hcovered, hperm⟩ := coverageErrors_nil hcoverage
      have hread : ∀ item ∈ items, ∃ q, readQuote item = some q ∧
          QuoteBound evidence citations q := by
        intro item hitem
        obtain ⟨found, hfound, hok⟩ := mapM_ok_of_mem herrors hitem
        rw [List.flatten_eq_nil_iff.mp hflat found hfound] at hok
        exact itemErrors_nil hok
      have hquotes := mapM_filterMap fun item hitem => (hread item hitem).imp fun _ hq => hq.1
      have hne : items.filterMap readQuote ≠ [] := by
        obtain ⟨_, hcount⟩ := Option.filter_eq_some_iff.mp hitems
        obtain ⟨item, hitem⟩ := List.exists_mem_of_length_pos (of_decide_eq_true hcount).1
        obtain ⟨q, hq, _⟩ := hread item hitem
        exact List.ne_nil_of_mem (List.mem_filterMap.mpr ⟨item, hitem, hq⟩)
      refine ⟨⟨message, citations, items.filterMap readQuote, covered⟩, requirements, ?_,
        hrequirements, hne, fun q hq => ?_, hperm⟩
      · unfold readQuotedOutput
        rw [hmessage, hitems, hrows]
        simp only [Option.bind_eq_bind, Option.bind_some, hquotes, hcovered]
        rfl
      · obtain ⟨item, hitem, hitemRead⟩ := List.mem_filterMap.mp hq
        obtain ⟨q', hq', hbound⟩ := hread item hitem
        obtain rfl := Option.some.inj (hq'.symm.trans hitemRead)
        exact hbound

theorem AnswerCheck.of_status {validator : AnswerValidator} {passed : Bool} {codes : List String} :
    (AnswerCheck.of validator passed codes).status = .passed ↔ passed = true := by
  cases passed with
  | true => exact iff_of_true rfl rfl
  | false => exact iff_of_false (fun h => by cases h) (fun h => by cases h)

/-- A check is passed or failed. -/
theorem AnswerCheck.not_failed {validator : AnswerValidator} {passed : Bool} {codes : List String}
    (h : (AnswerCheck.of validator passed codes).status ≠ .failed) : passed = true := by
  cases passed with
  | true => rfl
  | false => exact absurd rfl h

/-- An output that no validator fails. -/
structure ValidOutput (lib : OutputLibrary) (evidence : List EvidenceChunk) (question content : Text)
    (o : FinalAnswerOutput) : Prop where
  read : structuredFinalAnswerOutput lib content = .ok o
  secretFree : ∀ marker ∈ secretMarkers, hasPart marker (lib.lower (lib.dumps o.toJson)) = false
  cited : (validateCitationRefs lib.toCharacterLibrary (o.citations.map String.toList) evidence
    (evidence ≠ [])).passed = true
  adequate : ∃ body, boundBody lib question o.message.toList evidence = .ok body ∧
    adequacyCodes lib question o.message.toList body o.citations evidence o.analysis.isSome = []
  bound : ∃ codes, validateBinding lib o .answeredWithCitations evidence question =
    .ok (.of .answerFacts true codes)

theorem mapError_ok {ε ε' α : Type} {f : ε → ε'} {x : Except ε α} {a : α}
    (h : x.mapError f = .ok a) : x = .ok a := by
  cases x with
  | ok b => exact congrArg Except.ok (Except.ok.inj h)
  | error e => cases h

section
variable {lib : OutputLibrary} {evidence : List EvidenceChunk} {question content message : Text}
  {finishReason : Option String} {o : FinalAnswerOutput}

theorem validateFinalAnswerAdequacy_ok {citations : List String} {quoted : Bool} {check : AnswerCheck}
    (h : validateFinalAnswerAdequacy lib question message citations evidence .answeredWithCitations
      quoted = .ok check) (hstatus : check.status ≠ .failed) :
    ∃ body, boundBody lib question message evidence = .ok body ∧
      adequacyCodes lib question message body citations evidence quoted = [] := by
  unfold validateFinalAnswerAdequacy at h
  rw [if_neg (not_not.mpr rfl)] at h
  obtain ⟨body, hbody, h⟩ := bind_ok h
  obtain rfl := pure_ok h
  exact ⟨body, hbody, List.isEmpty_iff.mp (AnswerCheck.not_failed hstatus)⟩

theorem validateBinding_ok {check : AnswerCheck}
    (h : validateBinding lib o .answeredWithCitations evidence question = .ok check)
    (hstatus : check.status ≠ .failed) : ∃ codes, check = .of .answerFacts true codes := by
  unfold validateBinding at h
  split at h
  · obtain ⟨result, _, h⟩ := bind_ok h
    obtain rfl := pure_ok h
    exact ⟨_, by rw [AnswerCheck.not_failed hstatus]⟩
  · obtain ⟨result, _, h⟩ := bind_ok h
    obtain rfl := pure_ok h
    exact ⟨_, by rw [AnswerCheck.not_failed hstatus]⟩

/-- **What no validator fails** is a complete output that is valid. -/
theorem validateModelOutput_valid {results : List AnswerCheck}
    (h : validateModelOutput lib content finishReason .answeredWithCitations evidence question =
      .ok results) (hresults : ∀ r ∈ results, r.status ≠ .failed) :
    finishReason ≠ some "length" ∧ ∃ o, ValidOutput lib evidence question content o := by
  unfold validateModelOutput at h
  split at h
  · obtain rfl := Except.ok.inj h
    exact absurd rfl (hresults _ (List.mem_singleton.mpr rfl))
  · rename_i hfinish
    refine ⟨hfinish, ?_⟩
    split at h
    · obtain rfl := Except.ok.inj h
      exact absurd rfl (hresults _ (List.mem_cons_self ..))
    · rename_i o hread
      obtain ⟨adequacy, hadequacy, h⟩ := bind_ok h
      obtain ⟨binding, hbinding, h⟩ := bind_ok h
      obtain rfl := pure_ok h
      simp only [List.forall_mem_cons, List.not_mem_nil, false_implies, implies_true,
        and_true] at hresults
      obtain ⟨_, hsafe, hcited, hadequate, hbound⟩ := hresults
      obtain ⟨codes, rfl⟩ := validateBinding_ok hbinding hbound
      refine ⟨o, hread, fun marker hmarker => ?_, AnswerCheck.not_failed hcited,
        validateFinalAnswerAdequacy_ok (mapError_ok hadequacy) hadequate, codes, hbinding⟩
      have hnone := List.any_eq_false.mp (Bool.not_eq_true' _ |>.mp (AnswerCheck.not_failed hsafe))
      exact Bool.eq_false_iff.mpr (hnone marker hmarker)

theorem codeIf_nil {condition : Bool} {code : String} (h : codeIf condition code = []) :
    condition = false := by
  cases condition with
  | true => cases h
  | false => rfl

/-- No line of an empty message is a statement. -/
theorem verifiedBusinessBody_nil {body : Option Text}
    (h : verifiedBusinessBody lib.toAnswerLibrary [] evidence = .ok body) : body = none := by
  obtain ⟨options, _, h⟩ := bind_ok h
  rw [← pure_ok h]
  have hids : statementsIn options [] = [] := by
    unfold statementsIn
    rw [List.filter_eq_nil_iff.mpr fun p _ => ?_]
    · rfl
    · exact decide_eq_true_eq.mp.mt List.not_mem_nil
  unfold verifiedBody
  rw [hids]
  rfl

namespace ValidOutput

/-- A valid output says something. -/
theorem message_ne (h : ValidOutput lib evidence question content o) : o.message ≠ "" := by
  intro hempty
  obtain ⟨body, hbody, hcodes⟩ := h.adequate
  have hnone : body = none := by
    unfold boundBody at hbody
    rw [hempty] at hbody
    split at hbody
    · exact verifiedBusinessBody_nil hbody
    · exact (Except.ok.inj hbody).symm
  unfold adequacyCodes at hcodes
  simp only [List.append_eq_nil_iff] at hcodes
  have hfull := codeIf_nil hcodes.1.1.1.1.1.2
  rw [hempty, hnone] at hfull
  exact absurd hfull (by decide)

/-- A valid output that quotes: its quotes are those of accepted chunks, and each requirement of
the question is covered once. -/
theorem quoted (h : ValidOutput lib evidence question content o) (hquoted : o.analysis.isSome = true) :
    ∃ answer requirements, readQuotedOutput o.toJson = some answer ∧
      answerRequirements lib.sha256 question = .ok requirements ∧ answer.quotes ≠ [] ∧
      (∀ q ∈ answer.quotes, QuoteBound evidence answer.citations q) ∧
      (answer.coverage.map (·.requirementId)).Perm (requirements.map (·.requirementId)).dedup := by
  obtain ⟨codes, hbound⟩ := h.bound
  unfold validateBinding at hbound
  split at hbound
  · obtain ⟨check, hcheck, hbound⟩ := bind_ok hbound
    have hpassed : check.passed = true := by
      have hstatus := congrArg AnswerCheck.status (pure_ok hbound)
      exact AnswerCheck.of_status.mp hstatus
    exact validateQuotedAnswer_passed hcheck hpassed
  · rename_i hnone
    rw [hnone] at hquoted
    cases hquoted

end ValidOutput

end

end ProofAgent.Answers
