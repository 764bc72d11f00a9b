import ProofAgent.Answers.Validation

/-! # What a literal answer rests on

Without structured records an answer passes as literal text of the cited records: each of its
statements is one of theirs, and none of its facts is contradicted there. -/
namespace ProofAgent.Answers

open Base
open TaskState (Text)

variable {lib : AnswerLibrary} {message : Text} {citations : List String}
  {evidence : List EvidenceChunk} {outcome : ReceiptOutcome} {result : FactCheck}

/-- Whether a chunk is accepted and cited. -/
def isCited (citations : List String) (chunk : EvidenceChunk) : Bool :=
  chunk.status = .accepted && (answerRecord chunk).cited citations

/-- The texts of a chunk: its statements and the rows of its tables. -/
def chunkTexts (lib : CharacterLibrary) (chunk : EvidenceChunk) : List Text :=
  statements lib chunk.content.toList true ++ tableSourceStatements lib chunk.content.toList

/-- The texts of a chunk as its facts are read of them. -/
def factTexts (lib : CharacterLibrary) (chunk : EvidenceChunk) : List Text :=
  statements lib chunk.content.toList true ++
    (tableSourceStatements lib chunk.content.toList).map (rstrip "。")

/-! ## Records -/

theorem acceptedEvidence_idem (evidence : List EvidenceChunk) :
    acceptedEvidence (acceptedEvidence evidence) = acceptedEvidence evidence := by
  unfold acceptedEvidence
  rw [List.filter_filter]
  exact List.filter_congr fun _ _ => Bool.and_self _

theorem mem_acceptedEvidence {chunk : EvidenceChunk} :
    chunk ∈ acceptedEvidence evidence ↔ chunk ∈ evidence ∧ chunk.status = .accepted := by
  rw [acceptedEvidence, List.mem_filter, decide_eq_true_eq]

theorem answerEvidenceRecords_accepted (lib : AnswerLibrary) (evidence : List EvidenceChunk) :
    answerEvidenceRecords lib (acceptedEvidence evidence) = answerEvidenceRecords lib evidence := by
  unfold answerEvidenceRecords uniqueAnswerEvidence
  rw [acceptedEvidence_idem]

theorem verifiedBusinessBody_accepted (lib : AnswerLibrary) (message : Text)
    (evidence : List EvidenceChunk) :
    verifiedBusinessBody lib message (acceptedEvidence evidence) =
      verifiedBusinessBody lib message evidence := by
  have hcontexts : ∀ o, contextsOf (acceptedEvidence evidence) o = contextsOf evidence o := by
    intro o
    unfold contextsOf
    rw [acceptedEvidence_idem]
  have hbusiness : statementBusiness (acceptedEvidence evidence) = statementBusiness evidence := by
    funext o
    unfold statementBusiness
    rw [hcontexts]
  unfold verifiedBusinessBody answerFactRepairOptions verifiedBody renderSelected businessFacts
    businessFact
  rw [answerEvidenceRecords_accepted, hbusiness]

/-- What a record has of its chunk is the same for every chunk of one identity. -/
structure SameTexts (a b : EvidenceChunk) : Prop where
  source : a.source = b.source
  citation : a.citation = b.citation
  content : a.content = b.content

theorem sameTexts_of_identity {a b : EvidenceChunk} (h : evidenceIdentity a = evidenceIdentity b) :
    SameTexts a b :=
  ⟨congrArg (·.source) h, congrArg (·.citation) h, congrArg (·.content) h⟩

theorem SameTexts.cited {a b : EvidenceChunk} (h : SameTexts a b) :
    (answerRecord a).cited citations = (answerRecord b).cited citations := by
  unfold AnswerRecord.cited answerRecord
  rw [h.source, h.citation]

/-- The cited records, by the chunks they are of. -/
theorem mem_citedRecords {records : List AnswerRecord} {r : AnswerRecord}
    (h : answerEvidenceRecords lib evidence = .ok records) (hr : r ∈ citedRecords records citations) :
    ∃ chunk ∈ evidence, isCited citations chunk = true ∧ answerRecord chunk = r := by
  obtain ⟨_, rfl⟩ := answerEvidenceRecords_ok h
  obtain ⟨hmem, hcited⟩ := List.mem_filter.mp hr
  obtain ⟨chunk, hchunk, rfl⟩ := List.mem_map.mp hmem
  obtain ⟨hevidence, haccepted⟩ := mem_acceptedEvidence.mp (mem_of_mem_uniqueBy hchunk)
  exact ⟨chunk, hevidence, Bool.and_eq_true_iff.mpr ⟨decide_eq_true haccepted, hcited⟩, rfl⟩

/-- Every cited chunk has its record among the cited ones, up to the scores. -/
theorem exists_citedRecord {records : List AnswerRecord} {chunk : EvidenceChunk}
    (h : answerEvidenceRecords lib evidence = .ok records) (hchunk : chunk ∈ evidence)
    (hcited : isCited citations chunk = true) :
    ∃ r ∈ citedRecords records citations, ∃ other ∈ evidence, answerRecord other = r ∧
      SameTexts other chunk := by
  obtain ⟨_, rfl⟩ := answerEvidenceRecords_ok h
  obtain ⟨haccepted, hcited⟩ := Bool.and_eq_true_iff.mp hcited
  obtain ⟨other, hother, hidentity⟩ := exists_mem_uniqueBy evidenceIdentity
    (mem_acceptedEvidence.mpr ⟨hchunk, of_decide_eq_true haccepted⟩)
  have hsame := sameTexts_of_identity hidentity
  exact ⟨answerRecord other, List.mem_filter.mpr ⟨List.mem_map_of_mem hother, hsame.cited ▸ hcited⟩,
    other, (mem_acceptedEvidence.mp (mem_of_mem_uniqueBy hother)).1, rfl, hsame⟩

/-! ## Sources -/

/-- Without structured records the sources are texts only. -/
structure Plain (sources : CitedSources) : Prop where
  typedSubjects : sources.typedSubjects = []
  literalValues : sources.literalValues = []

theorem ofRecords_plain {lib : CharacterLibrary} {cited : List AnswerRecord}
    (h : ∀ r ∈ cited, r.structured = none) : Plain (CitedSources.ofRecords lib cited) := by
  unfold CitedSources.ofRecords
  generalize (cited.countP fun r => r.structured.isSome) = n
  induction cited with
  | nil => exact ⟨rfl, rfl⟩
  | cons r rest ih =>
    obtain ⟨hr, hrest⟩ := List.forall_mem_cons.mp h
    obtain ⟨htyped, hliteral⟩ := ih hrest
    have hrecord : CitedSources.ofRecord lib n r =
        { statements := statements lib r.content.toList true ++
            (tableSourceStatements lib r.content.toList).map (rstrip "。") } := by
      unfold CitedSources.ofRecord
      rw [hr]
    rw [List.map_cons, List.foldr_cons, hrecord]
    refine ⟨?_, ?_⟩
    · show [] ++ CitedSources.typedSubjects _ = []
      exact htyped
    · show [] ++ CitedSources.literalValues _ = []
      exact hliteral

/-- The texts of the sources are those of the cited records. -/
theorem mem_ofRecords_statements {lib : CharacterLibrary} {cited : List AnswerRecord} {t : Text}
    (h : ∀ r ∈ cited, r.structured = none) :
    t ∈ (CitedSources.ofRecords lib cited).statements ↔
      ∃ r ∈ cited, t ∈ statements lib r.content.toList true ++
        (tableSourceStatements lib r.content.toList).map (rstrip "。") := by
  unfold CitedSources.ofRecords
  generalize (cited.countP fun r => r.structured.isSome) = n
  induction cited with
  | nil => simp
  | cons r rest ih =>
    obtain ⟨hr, hrest⟩ := List.forall_mem_cons.mp h
    have hrecord : (CitedSources.ofRecord lib n r).statements =
        statements lib r.content.toList true ++
          (tableSourceStatements lib r.content.toList).map (rstrip "。") := by
      unfold CitedSources.ofRecord
      rw [hr]
    rw [List.map_cons, List.foldr_cons, List.exists_mem_cons_iff, ← ih hrest, ← hrecord]
    exact List.mem_append

theorem Plain.knownSubjects {sources : CitedSources} (h : Plain sources) :
    sources.knownSubjects = [] := by
  unfold CitedSources.knownSubjects
  rw [h.typedSubjects]
  rfl

/-! ## Checked statements -/

/-- A check passes when no verdict is a violation. -/
theorem passed_ofVerdicts {verdicts : List Verdict} :
    (FactCheck.ofVerdicts verdicts).passed = true ↔
      ∀ code diagnosis, Verdict.violation code diagnosis ∉ verdicts := by
  show (uniqueBy id (verdicts.filterMap (·.code?))).isEmpty = true ↔ _
  rw [List.isEmpty_iff]
  constructor
  · intro h code diagnosis hmem
    have hcode : code ∈ verdicts.filterMap (·.code?) := List.mem_filterMap.mpr ⟨_, hmem, rfl⟩
    obtain ⟨kept, hkept, _⟩ := exists_mem_uniqueBy id hcode
    rw [h] at hkept
    exact List.not_mem_nil hkept
  · intro h
    have hnone : verdicts.filterMap (·.code?) = [] := by
      refine List.filterMap_eq_nil_iff.mpr fun v hv => ?_
      cases v with
      | violation code diagnosis => exact absurd hv (h code diagnosis)
      | exempt => rfl
      | unassessed => rfl
      | supported => rfl
    rw [hnone]
    rfl

/-- What a statement that is no violation says of its subject. -/
theorem assess_value {lib : CharacterLibrary} {sources : CitedSources} {s : Text}
    (hpass : ∀ code diagnosis, assess lib sources s ≠ .violation code diagnosis)
    (hs : s ≠ rstrip "。" scopeDisclosure) (hsubject : (fact lib s sources.knownSubjects).1 ≠ []) :
    fact lib s sources.knownSubjects ∈ sources.supported lib ∧
      (sources.valuesOf lib (fact lib s sources.knownSubjects).1).length ≤ 1 := by
  unfold assess at hpass
  rw [if_neg hs] at hpass
  simp only [hsubject, decide_false, Bool.and_false, Bool.false_eq_true, if_false] at hpass
  split at hpass
  · exact absurd rfl (hpass _ _)
  · rename_i hsupported
    rw [not_or, not_not] at hsupported
    refine ⟨hsupported.1, ?_⟩
    split at hpass
    · exact absurd rfl (hpass _ _)
    · rename_i hvalues
      by_contra hmore
      exact hvalues ⟨hsubject, .inl (by omega)⟩

/-- The values of a subject are at most one only if all the texts agree on it. -/
theorem value_unique {lib : CharacterLibrary} {sources : CitedSources} {a b : Text × Text}
    (ha : a ∈ sources.supported lib) (hb : b ∈ sources.supported lib) (hsame : b.1 = a.1)
    (hone : (sources.valuesOf lib a.1).length ≤ 1) : b.2 = a.2 := by
  have hmem : ∀ c ∈ sources.supported lib, c.1 = a.1 → c.2 ∈ sources.valuesOf lib a.1 := by
    intro c hc hsubject
    exact List.mem_dedup.mpr (List.mem_map_of_mem
      (List.mem_filter.mpr ⟨hc, decide_eq_true hsubject⟩))
  have hmem_a := hmem a ha rfl
  have hmem_b := hmem b hb hsame
  match hvalues : sources.valuesOf lib a.1, hone with
  | [], _ => exact absurd (hvalues ▸ hmem_a) List.not_mem_nil
  | [v], _ =>
    rw [hvalues, List.mem_singleton] at hmem_a hmem_b
    rw [hmem_a, hmem_b]

/-! ## Passing -/

/-- The checks that a message without a business body passed. -/
structure LiteralPass (lib : AnswerLibrary) (message : Text) (citations : List String)
    (evidence : List EvidenceChunk) (records : List AnswerRecord) : Prop where
  records_eq : answerEvidenceRecords lib evidence = .ok records
  inLimit : overInputLimit message evidence = false
  fewStatements : (CitedSources.ofRecords lib.toCharacterLibrary
      (citedRecords records citations)).statements.length +
    (statements lib.toCharacterLibrary message false).length ≤ maxStatements
  assessed : ∀ s ∈ statements lib.toCharacterLibrary message false, ∀ code diagnosis,
    assess lib.toCharacterLibrary (CitedSources.ofRecords lib.toCharacterLibrary
      (citedRecords records citations)) s ≠ .violation code diagnosis
  literal : ∀ s ∈ statements lib.toCharacterLibrary message false,
    literalKey lib.toCharacterLibrary s ∈
      originalKeys lib.toCharacterLibrary (citedRecords records citations)

/-- Without a business body it is the message itself that is checked. -/
theorem assessedMessage_eq (hbody : verifiedBusinessBody lib message evidence = .ok none) :
    assessedMessage lib message (acceptedEvidence evidence) = .ok message := by
  unfold assessedMessage
  split
  · rw [verifiedBusinessBody_accepted, hbody]
    rfl
  · rfl

theorem validateAnswerFacts_eq {records : List AnswerRecord}
    (hbody : verifiedBusinessBody lib message evidence = .ok none)
    (hrecords : answerEvidenceRecords lib evidence = .ok records) :
    validateAnswerFacts lib message citations evidence .answeredWithCitations =
      if overInputLimit message evidence then .ok .inputLimit
      else if maxStatements < (CitedSources.ofRecords lib.toCharacterLibrary
          (citedRecords records citations)).statements.length +
          (statements lib.toCharacterLibrary message false).length then .ok .inputLimit
      else .ok (.ofVerdicts ((statements lib.toCharacterLibrary message false).map
        (assess lib.toCharacterLibrary (CitedSources.ofRecords lib.toCharacterLibrary
          (citedRecords records citations))))) := by
  unfold validateAnswerFacts
  rw [if_neg (not_not.mpr rfl)]
  split
  · rfl
  · dsimp only
    rw [answerEvidenceRecords_accepted, hrecords, ok_bind, assessedMessage_eq hbody, ok_bind]
    split <;> rfl

/-- A body is found or not only where the evidence gives records. -/
theorem records_of_body {body : Option Text}
    (hbody : verifiedBusinessBody lib message evidence = .ok body) :
    ∃ records, answerEvidenceRecords lib evidence = .ok records := by
  obtain ⟨options, hoptions, _⟩ := bind_ok hbody
  obtain ⟨records, hrecords, _⟩ := bind_ok hoptions
  exact ⟨records, hrecords⟩

/-- **When a message passes** that has no business body, over evidence without typed records. -/
theorem passes_iff (hplain : ∀ chunk ∈ evidence, structuredData chunk = none)
    (hbody : verifiedBusinessBody lib message evidence = .ok none) :
    (∃ result, validateSourceBoundAnswer lib message citations evidence .answeredWithCitations =
        .ok result ∧ result.passed = true) ↔
      ∃ records, LiteralPass lib message citations evidence records := by
  obtain ⟨records, hrecords⟩ := records_of_body hbody
  have huntyped : (citedRecords records citations).any (·.structured.isSome) = false := by
    refine List.any_eq_false.mpr fun r hr => ?_
    obtain ⟨chunk, hchunk, _, rfl⟩ := mem_citedRecords hrecords hr
    show ¬ (structuredData chunk).isSome = true
    rw [hplain chunk hchunk]
    exact Bool.false_ne_true
  unfold validateSourceBoundAnswer
  rw [validateAnswerFacts_eq hbody hrecords]
  constructor
  · rintro ⟨result, h, hpassed⟩
    split at h
    · obtain rfl := pure_ok h
      cases hpassed
    · rename_i hlimit
      split at h
      · obtain rfl := pure_ok h
        cases hpassed
      · rename_i hfew
        rw [ok_bind] at h
        split at h
        · rename_i hfailed
          obtain rfl := pure_ok h
          rw [hpassed] at hfailed
          rcases hfailed with hfailed | hfailed
          · cases hfailed
          · exact absurd rfl hfailed
        · rename_i hall
          rw [hrecords, ok_bind] at h
          dsimp only at h
          rw [huntyped, hbody, ok_bind] at h
          rw [if_neg (fun hno => absurd hno.1 Bool.false_ne_true), Option.isSome_none,
            if_neg Bool.false_ne_true] at h
          split at h
          · obtain rfl := pure_ok h
            cases hpassed
          · rename_i hliteral
            refine ⟨records, hrecords, Bool.eq_false_iff.mpr hlimit, not_lt.mp hfew, ?_, ?_⟩
            · intro s hs code diagnosis hviolation
              have hpass := passed_ofVerdicts.mp ((pure_ok h) ▸ hpassed) code diagnosis
              exact hpass (List.mem_map.mpr ⟨s, hs, hviolation⟩)
            · intro s hs
              by_contra hno
              exact hliteral (List.any_eq_true.mpr ⟨s, hs, decide_eq_true hno⟩)
  · rintro ⟨records', h⟩
    obtain rfl : records = records' := Except.ok.inj (hrecords.symm.trans h.records_eq)
    have hpassed : (FactCheck.ofVerdicts ((statements lib.toCharacterLibrary message false).map
        (assess lib.toCharacterLibrary (CitedSources.ofRecords lib.toCharacterLibrary
          (citedRecords records citations))))).passed = true := by
      refine passed_ofVerdicts.mpr fun code diagnosis hmem => ?_
      obtain ⟨s, hs, hviolation⟩ := List.mem_map.mp hmem
      exact h.assessed s hs code diagnosis hviolation
    refine ⟨_, ?_, hpassed⟩
    rw [if_neg (Bool.eq_false_iff.mp h.inLimit), if_neg (not_lt.mpr h.fewStatements), ok_bind,
      hpassed, hrecords, ok_bind]
    dsimp only
    rw [huntyped, hbody, ok_bind]
    rw [if_neg (by simp), if_neg (fun hno => absurd hno.1 Bool.false_ne_true),
      Option.isSome_none, if_neg Bool.false_ne_true, if_neg]
    · rfl
    · rw [List.any_eq_true]
      rintro ⟨s, hs, hno⟩
      exact of_decide_eq_true hno (h.literal s hs)

/-! ## Only what is accepted and cited -/

theorem acceptedEvidence_filter_isCited (citations : List String) (evidence : List EvidenceChunk) :
    acceptedEvidence (evidence.filter (isCited citations)) =
      (acceptedEvidence evidence).filter fun c => (answerRecord c).cited citations := by
  unfold acceptedEvidence
  rw [List.filter_filter, List.filter_filter]
  refine List.filter_congr fun chunk _ => ?_
  unfold isCited
  cases decide (chunk.status = .accepted) <;> simp

/-- The cited records are the records of the chunks that are accepted and cited. -/
theorem citedRecords_filter {records : List AnswerRecord}
    (h : answerEvidenceRecords lib evidence = .ok records) :
    ∃ records', answerEvidenceRecords lib (evidence.filter (isCited citations)) = .ok records' ∧
      citedRecords records' citations = citedRecords records citations := by
  obtain ⟨hvalid, rfl⟩ := answerEvidenceRecords_ok h
  have hsub : (acceptedEvidence (evidence.filter (isCited citations))).all lib.validates = true := by
    rw [acceptedEvidence_filter_isCited]
    refine List.all_eq_true.mpr fun chunk hchunk => ?_
    exact List.all_eq_true.mp hvalid chunk (List.mem_filter.mp hchunk).1
  refine ⟨_, answerEvidenceRecords_eq hsub, ?_⟩
  unfold citedRecords
  rw [acceptedEvidence_filter_isCited, uniqueBy_filter fun a b hsame =>
      (sameTexts_of_identity hsame).cited, List.filter_map, List.filter_map, List.filter_filter]
  exact congrArg _ (List.filter_congr fun chunk _ => Bool.and_self _)

theorem sum_length_filter_le (p : EvidenceChunk → Bool) : ∀ evidence : List EvidenceChunk,
    ((evidence.filter p).map fun e => e.content.length).sum ≤
      (evidence.map fun e => e.content.length).sum
  | [] => Nat.le_refl _
  | chunk :: rest => by
    have ih := sum_length_filter_le p rest
    by_cases hp : p chunk = true
    · rw [List.filter_cons_of_pos hp, List.map_cons, List.sum_cons, List.map_cons, List.sum_cons]
      omega
    · rw [List.filter_cons_of_neg hp, List.map_cons, List.sum_cons]
      omega

theorem overInputLimit_filter (p : EvidenceChunk → Bool)
    (h : overInputLimit message evidence = false) :
    overInputLimit message (evidence.filter p) = false := by
  simp only [overInputLimit, Bool.or_eq_false_iff, decide_eq_false_iff_not, not_lt] at h ⊢
  obtain ⟨⟨hmessage, hcount⟩, hchars⟩ := h
  exact ⟨⟨hmessage, (List.length_filter_le _ _).trans hcount⟩,
    (sum_length_filter_le p evidence).trans hchars⟩

/-- What passed over the evidence passes over the chunks that are accepted and cited. -/
theorem passes_filter (hplain : ∀ chunk ∈ evidence, structuredData chunk = none)
    (hbody : verifiedBusinessBody lib message evidence = .ok none)
    (hbody' : verifiedBusinessBody lib message (evidence.filter (isCited citations)) = .ok none)
    (h : ∃ result, validateSourceBoundAnswer lib message citations evidence
      .answeredWithCitations = .ok result ∧ result.passed = true) :
    ∃ result, validateSourceBoundAnswer lib message citations (evidence.filter (isCited citations))
      .answeredWithCitations = .ok result ∧ result.passed = true := by
  obtain ⟨records, hpass⟩ := (passes_iff hplain hbody).mp h
  obtain ⟨records', hrecords', hsame⟩ := citedRecords_filter hpass.records_eq
  refine (passes_iff (fun chunk hchunk => hplain chunk (List.mem_filter.mp hchunk).1) hbody').mpr
    ⟨records', hrecords', overInputLimit_filter _ hpass.inLimit, ?_, ?_, ?_⟩
  · rw [hsame]
    exact hpass.fewStatements
  · rw [hsame]
    exact hpass.assessed
  · rw [hsame]
    exact hpass.literal

/-! ## Literal answers -/

/-- **A literal answer rests on its sources.** Each of its statements is, by its literal key, one of
an accepted and cited chunk; the other chunks are of no use to it; and but for the fixed disclosure
no accepted and cited chunk gives a subject of the answer another value. -/
theorem literal_answer_sound (lib : AnswerLibrary) (message : Text) (citations : List String)
    (evidence : List EvidenceChunk) (result : FactCheck)
    (hplain : ∀ chunk ∈ evidence, structuredData chunk = none)
    (hbody : verifiedBusinessBody lib message evidence = .ok none)
    (hvalid : validateSourceBoundAnswer lib message citations evidence .answeredWithCitations =
      .ok result) (hpassed : result.passed = true) :
    (∀ s ∈ statements lib.toCharacterLibrary message false, ∃ chunk ∈ evidence,
      isCited citations chunk = true ∧ ∃ t ∈ chunkTexts lib.toCharacterLibrary chunk,
        literalKey lib.toCharacterLibrary t = literalKey lib.toCharacterLibrary s) ∧
    (verifiedBusinessBody lib message (evidence.filter (isCited citations)) = .ok none →
      ∃ result, validateSourceBoundAnswer lib message citations
        (evidence.filter (isCited citations)) .answeredWithCitations = .ok result ∧
          result.passed = true) ∧
    ∀ s ∈ statements lib.toCharacterLibrary message false, s ≠ rstrip "。" scopeDisclosure →
      (fact lib.toCharacterLibrary s).1 ≠ [] → ∀ chunk ∈ evidence, isCited citations chunk = true →
      ∀ t ∈ factTexts lib.toCharacterLibrary chunk,
        (fact lib.toCharacterLibrary t).1 = (fact lib.toCharacterLibrary s).1 →
        (fact lib.toCharacterLibrary t).2 = (fact lib.toCharacterLibrary s).2 := by
  obtain ⟨records, hpass⟩ := (passes_iff hplain hbody).mp ⟨result, hvalid, hpassed⟩
  refine ⟨fun s hs => ?_, fun hbody' => passes_filter hplain hbody hbody' ⟨result, hvalid, hpassed⟩,
    fun s hs hdisclosure hsubject chunk hchunk hcited t ht hsame => ?_⟩
  · obtain ⟨r, hr, hkey⟩ := List.mem_flatMap.mp (hpass.literal s hs)
    obtain ⟨chunk, hchunk, hcited, rfl⟩ := mem_citedRecords hpass.records_eq hr
    obtain ⟨t, ht, hkey⟩ := List.mem_map.mp hkey
    exact ⟨chunk, hchunk, hcited, t, ht, hkey⟩
  · have hplainRecords : ∀ r ∈ citedRecords records citations, r.structured = none := by
      intro r hr
      obtain ⟨chunk, hchunk, _, rfl⟩ := mem_citedRecords hpass.records_eq hr
      exact hplain chunk hchunk
    have hknown : (CitedSources.ofRecords lib.toCharacterLibrary
        (citedRecords records citations)).knownSubjects = [] :=
      (ofRecords_plain hplainRecords).knownSubjects
    obtain ⟨r, hr, other, _, hrecord, hsameTexts⟩ :=
      exists_citedRecord hpass.records_eq hchunk hcited
    have hcontent : r.content = chunk.content := hrecord ▸ hsameTexts.content
    have hsource : t ∈ (CitedSources.ofRecords lib.toCharacterLibrary
        (citedRecords records citations)).statements :=
      (mem_ofRecords_statements hplainRecords).mpr ⟨r, hr, hcontent ▸ ht⟩
    have hvalue := assess_value (hpass.assessed s hs) hdisclosure
    rw [hknown] at hvalue
    obtain ⟨hstated, hone⟩ := hvalue hsubject
    refine value_unique hstated ?_ hsame hone
    exact List.mem_map.mpr ⟨t, hsource, by rw [hknown]⟩

namespace Sample

def termText : Text := "The waiting period is 90 days.".toList

def termChunks : List EvidenceChunk := [guide "- The waiting period is 90 days. Riders vary."]

/-- A guide that has the disclosure as a statement, and another value for its subject. -/
def disclosureChunks : List EvidenceChunk :=
  [guide (.ofList (scopeDisclosure ++ "\n资料范围说明：另行规定。".toList))]

end Sample

theorem literal_answer_sound_term :
    statements Sample.answerLibrary.toCharacterLibrary Sample.termText false ≠ [] ∧
    ∀ s ∈ statements Sample.answerLibrary.toCharacterLibrary Sample.termText false,
      ∃ chunk ∈ Sample.termChunks, isCited ["knowledge://guide#page=1"] chunk = true ∧
        ∃ t ∈ chunkTexts Sample.answerLibrary.toCharacterLibrary chunk,
          literalKey Sample.answerLibrary.toCharacterLibrary t =
            literalKey Sample.answerLibrary.toCharacterLibrary s :=
  ⟨by decide +kernel,
    (literal_answer_sound Sample.answerLibrary Sample.termText ["knowledge://guide#page=1"]
      Sample.termChunks ⟨[], 1, 0, "bounded_consistency_only", []⟩ (by decide +kernel)
      (by decide +kernel) (by decide +kernel) rfl).1⟩

/-- The disclosure passes where the guide gives its subject another value as well. -/
theorem disclosure_contradicted :
    (∀ chunk ∈ Sample.disclosureChunks, structuredData chunk = none) ∧
      verifiedBusinessBody Sample.answerLibrary scopeDisclosure Sample.disclosureChunks = .ok none ∧
      (∃ result, validateSourceBoundAnswer Sample.answerLibrary scopeDisclosure
        ["knowledge://guide#page=1"] Sample.disclosureChunks .answeredWithCitations = .ok result ∧
          result.passed = true) ∧
      ∃ s ∈ statements Sample.answerLibrary.toCharacterLibrary scopeDisclosure false,
        (fact Sample.answerLibrary.toCharacterLibrary s).1 ≠ [] ∧
        ∃ chunk ∈ Sample.disclosureChunks, isCited ["knowledge://guide#page=1"] chunk = true ∧
          ∃ t ∈ factTexts Sample.answerLibrary.toCharacterLibrary chunk,
            (fact Sample.answerLibrary.toCharacterLibrary t).1 =
              (fact Sample.answerLibrary.toCharacterLibrary s).1 ∧
            (fact Sample.answerLibrary.toCharacterLibrary t).2 ≠
              (fact Sample.answerLibrary.toCharacterLibrary s).2 := by
  refine ⟨by decide +kernel, by decide +kernel, ⟨⟨[], 0, 0, "bounded_consistency_only", []⟩,
    by decide +kernel, rfl⟩, ?_⟩
  decide +kernel

end ProofAgent.Answers
