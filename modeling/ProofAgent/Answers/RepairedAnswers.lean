import ProofAgent.Answers.LiteralAnswers
import ProofAgent.Answers.Validation
import ProofAgent.Answers.StatementLines

/-! # Repaired answers and the fact validator

A repaired answer is read again, line by line. It passes when each selected statement, read for
itself, is the statement of the source that it was made of, and no source contradicts it. -/
namespace ProofAgent.Answers

open Base
open TaskState (Text)

variable {lib : AnswerLibrary} {evidence : List EvidenceChunk} {records : List AnswerRecord}
  {options : List RepairOption}

/-- A statement of a record that an option was made of, as the facts of the sources have it. -/
def Origin (lib : CharacterLibrary) (records : List AnswerRecord) (o : RepairOption) (t : Text) :
    Prop :=
  ∃ r ∈ records, r.structured = none ∧ recordCitation r = o.citation ∧
    ((t ∈ statements lib r.content.toList true ∧ o.statement = punctuated t) ∨
      ∃ row ∈ tableSourceStatements lib r.content.toList, o.statement = punctuated row ∧
        t = rstrip "。" row)

/-- An option that is read as what it was made of. -/
def ReadsBack (lib : CharacterLibrary) (records : List AnswerRecord) (o : RepairOption) : Prop :=
  ∀ s ∈ statements lib o.statement false, Origin lib records o s

/-- The sources give the subject of a statement no other value. -/
def Unambiguous (lib : CharacterLibrary) (sources : CitedSources) (s : Text) : Prop :=
  (fact lib s sources.knownSubjects).1 ≠ [] →
    (∀ t ∈ sources.statements,
      (fact lib t sources.knownSubjects).1 = (fact lib s sources.knownSubjects).1 →
        (fact lib t sources.knownSubjects).2 = (fact lib s sources.knownSubjects).2) ∧
    ∀ value ∈ sources.literalValuesOf (parts lib s sources.knownSubjects).1,
      value = (parts lib s sources.knownSubjects).2

/-! ## Sources -/

theorem mem_foldr_append {f : CitedSources → List α} (hnil : f {} = [])
    (happend : ∀ a b, f (a.append b) = f a ++ f b) {x : α} {sources : List CitedSources} :
    x ∈ f (sources.foldr CitedSources.append {}) ↔ ∃ s ∈ sources, x ∈ f s := by
  induction sources with
  | nil => simp [hnil]
  | cons s rest ih => rw [List.foldr_cons, happend, List.mem_append, ih, List.exists_mem_cons_iff]

/-- The statements of a cited text are among the sources. -/
theorem mem_sources_statements {lib : CharacterLibrary} {cited : List AnswerRecord}
    {r : AnswerRecord} {t : Text} (hr : r ∈ cited) (hplain : r.structured = none)
    (ht : t ∈ statements lib r.content.toList true ++
      (tableSourceStatements lib r.content.toList).map (rstrip "。")) :
    t ∈ (CitedSources.ofRecords lib cited).statements := by
  refine (mem_foldr_append (f := CitedSources.statements) rfl fun a b => rfl).mpr
    ⟨_, List.mem_map_of_mem hr, ?_⟩
  unfold CitedSources.ofRecord
  rw [hplain]
  exact ht

theorem ofField_literal {typedCount : Nat} {r : StructuredEvidenceRecord}
    {f : StructuredEvidenceField} {p : Text × Text}
    (h : p ∈ (CitedSources.ofField typedCount r f).literalValues) :
    p.1 ∈ (CitedSources.ofField typedCount r f).typedSubjects := by
  unfold CitedSources.ofField at h ⊢
  dsimp only at h ⊢
  split at h
  · exact absurd h List.not_mem_nil
  · obtain ⟨subject, hsubject, rfl⟩ := List.mem_map.mp h
    exact hsubject

theorem ofField_subject_ne {typedCount : Nat} {r : StructuredEvidenceRecord}
    {f : StructuredEvidenceField} {s : Text}
    (h : s ∈ (CitedSources.ofField typedCount r f).typedSubjects) : s ≠ [] := by
  rcases List.mem_cons.mp h with rfl | h
  · exact List.append_ne_nil_of_right_ne_nil _ nofun
  · split at h
    · rw [List.mem_singleton.mp h]
      exact fun hnil => f.field_ne (String.toList_eq_nil_iff.mp hnil)
    · exact absurd h List.not_mem_nil

/-- A subject with literal values is a subject of a typed record, and has a name. -/
theorem literal_subject {lib : CharacterLibrary} {cited : List AnswerRecord} {p : Text × Text}
    (h : p ∈ (CitedSources.ofRecords lib cited).literalValues) :
    p.1 ∈ (CitedSources.ofRecords lib cited).typedSubjects ∧ p.1 ≠ [] := by
  obtain ⟨s, hs, hp⟩ :=
    (mem_foldr_append (f := CitedSources.literalValues) rfl fun a b => rfl).mp h
  obtain ⟨r, hr, rfl⟩ := List.mem_map.mp hs
  have hrecord : ∃ typed, r.structured = some typed := by
    unfold CitedSources.ofRecord at hp
    split at hp
    · exact absurd hp List.not_mem_nil
    · exact ⟨_, ‹_›⟩
  obtain ⟨typed, htyped⟩ := hrecord
  have hof : CitedSources.ofRecord lib (cited.countP fun r => r.structured.isSome) r =
      (typed.fields.map (CitedSources.ofField (cited.countP fun r => r.structured.isSome)
        typed)).foldr CitedSources.append {} := by
    unfold CitedSources.ofRecord
    rw [htyped]
  rw [hof] at hp
  obtain ⟨s, hs', hp⟩ :=
    (mem_foldr_append (f := CitedSources.literalValues) rfl fun a b => rfl).mp hp
  obtain ⟨field, hfield, rfl⟩ := List.mem_map.mp hs'
  have hsubject := ofField_literal hp
  refine ⟨(mem_foldr_append (f := CitedSources.typedSubjects) rfl fun a b => rfl).mpr
    ⟨_, List.mem_map_of_mem hr, ?_⟩, ofField_subject_ne hsubject⟩
  rw [hof]
  exact (mem_foldr_append (f := CitedSources.typedSubjects) rfl fun a b => rfl).mpr
    ⟨_, List.mem_map_of_mem hfield, hsubject⟩

/-! ## Statements of the answer -/

theorem length_dedup_le_one {α : Type} [DecidableEq α] {values : List α} {v : α}
    (h : ∀ w ∈ values, w = v) : values.dedup.length ≤ 1 := by
  have hnodup := List.nodup_dedup values
  match hvalues : values.dedup with
  | [] => exact Nat.zero_le _
  | [_] => exact Nat.le_refl _
  | a :: b :: rest =>
    have hmem : ∀ w ∈ a :: b :: rest, w = v := fun w hw => h w (List.mem_dedup.mp (hvalues ▸ hw))
    rw [hvalues, hmem a (by simp), hmem b (by simp)] at hnodup
    exact absurd (List.mem_cons_self ..) (List.nodup_cons.mp hnodup).1

/-- A statement without a subject has no literal values to meet. -/
theorem literalValuesOf_nil {lib : CharacterLibrary} {cited : List AnswerRecord} {s : Text}
    (h : (fact lib s (CitedSources.ofRecords lib cited).knownSubjects).1 = []) :
    (CitedSources.ofRecords lib cited).literalValuesOf
      (parts lib s (CitedSources.ofRecords lib cited).knownSubjects).1 = [] := by
  unfold CitedSources.literalValuesOf
  by_contra hne
  obtain ⟨value, hvalue⟩ := List.exists_mem_of_ne_nil _ hne
  obtain ⟨p, hp, rfl⟩ := List.mem_map.mp (List.mem_dedup.mp hvalue)
  obtain ⟨hliteral, hsubject⟩ := List.mem_filter.mp hp
  obtain ⟨htyped, hname⟩ := literal_subject hliteral
  -- With typed subjects the fact keeps the subject of the parts as it is.
  have hknown : (CitedSources.ofRecords lib cited).knownSubjects ≠ [] := by
    intro hnil
    have hmem : p.1 ∈ (CitedSources.ofRecords lib cited).knownSubjects :=
      (List.mem_insertionSort _).mpr (List.mem_dedup.mpr htyped)
    rw [hnil] at hmem
    exact List.not_mem_nil hmem
  have hsame : (fact lib s (CitedSources.ofRecords lib cited).knownSubjects).1 =
      (parts lib s (CitedSources.ofRecords lib cited).knownSubjects).1 := by
    unfold fact
    dsimp only
    rw [if_neg hknown]
  exact hname ((of_decide_eq_true hsubject).trans (hsame.symm.trans h))

/-- A statement of the sources that they do not contradict is no violation. -/
theorem assess_passes {lib : CharacterLibrary} {cited : List AnswerRecord} {s : Text}
    (hs : s ∈ (CitedSources.ofRecords lib cited).statements)
    (hone : Unambiguous lib (CitedSources.ofRecords lib cited) s) (code diagnosis : String) :
    assess lib (CitedSources.ofRecords lib cited) s ≠ .violation code diagnosis := by
  have hsupported : fact lib s (CitedSources.ofRecords lib cited).knownSubjects ∈
      (CitedSources.ofRecords lib cited).supported lib := List.mem_map_of_mem hs
  unfold assess
  split
  · exact nofun
  · dsimp only
    split
    · exact nofun
    · by_cases hsubject : (fact lib s (CitedSources.ofRecords lib cited).knownSubjects).1 = []
      · rw [literalValuesOf_nil hsubject, if_neg, if_neg]
        · exact nofun
        · exact fun hno => hno.1 hsubject
        · exact fun hno => hno.elim (· hsupported) (· (.inl rfl))
      · obtain ⟨hvalue, hliteral⟩ := hone hsubject
        have hvalues : ((CitedSources.ofRecords lib cited).valuesOf lib
            (fact lib s (CitedSources.ofRecords lib cited).knownSubjects).1).length ≤ 1 := by
          refine length_dedup_le_one
            (v := (fact lib s (CitedSources.ofRecords lib cited).knownSubjects).2) fun w hw => ?_
          obtain ⟨f, hf, rfl⟩ := List.mem_map.mp hw
          obtain ⟨hf, hsame⟩ := List.mem_filter.mp hf
          obtain ⟨t, ht, rfl⟩ := List.mem_map.mp hf
          exact hvalue t ht (of_decide_eq_true hsame)
        have hliterals : ((CitedSources.ofRecords lib cited).literalValuesOf
            (parts lib s (CitedSources.ofRecords lib cited).knownSubjects).1).length ≤ 1 :=
          length_dedup_le_one fun w hw => hliteral w (List.mem_dedup.mpr hw)
        rw [if_neg, if_neg]
        · exact nofun
        · rintro ⟨_, hmore | hmore⟩ <;> omega
        · rintro (hno | hno)
          · exact hno hsupported
          · rw [not_or] at hno
            obtain ⟨value, hmem⟩ := List.exists_mem_of_ne_nil _ hno.1
            exact hno.2 (hliteral value hmem ▸ hmem)

/-! ## Rendering -/

/-- The numbers that are selected are numbers of options, and there is one. -/
theorem selectedNumbers_ok {ids : Json} {numbers : List Nat}
    (h : selectedNumbers options ids = .ok numbers) :
    numbers ≠ [] ∧ ∀ n ∈ numbers, n < options.length := by
  obtain ⟨items, _, h⟩ := bind_ok h
  obtain ⟨_, hcount, h⟩ := bind_ok h
  obtain ⟨texts, htexts, h⟩ := bind_ok h
  obtain ⟨found, hfound, h⟩ := bind_ok h
  obtain ⟨_, _, h⟩ := bind_ok h
  obtain rfl := pure_ok h
  constructor
  · obtain ⟨item, hitem⟩ := List.exists_mem_of_length_pos (require_ok hcount).1
    obtain ⟨text, htext, _⟩ := mapM_ok_of_mem htexts hitem
    obtain ⟨n, hn, _⟩ := mapM_ok_of_mem hfound htext
    exact List.ne_nil_of_mem ((List.mem_insertionSort _).mpr hn)
  · intro n hn
    obtain ⟨text, _, htext⟩ := mapM_ok_mem hfound ((List.mem_insertionSort _).mp hn)
    exact List.mem_range.mp (List.mem_of_find?_eq_some (orRaise_ok htext))

/-- The options with the given numbers. -/
def numbered (options : List RepairOption) (numbers : List Nat) : List RepairOption :=
  numbers.filterMap (options[·]?)

theorem numbered_ne_nil {numbers : List Nat} (hne : numbers ≠ [])
    (h : ∀ n ∈ numbers, n < options.length) : numbered options numbers ≠ [] := by
  obtain ⟨n, hn⟩ := List.exists_mem_of_ne_nil _ hne
  exact List.ne_nil_of_mem (List.mem_filterMap.mpr ⟨n, hn, List.getElem?_eq_getElem (h n hn)⟩)

/-- Every record of which an option was made is cited. -/
theorem origin_cited {lib : CharacterLibrary} {o : RepairOption} {s : Text}
    {citations : List String} (h : Origin lib records o s) (ho : o.citation ∈ citations) :
    ∃ r ∈ citedRecords records citations, r.structured = none ∧
      s ∈ statements lib r.content.toList true ++
        (tableSourceStatements lib r.content.toList).map (rstrip "。") := by
  obtain ⟨r, hr, hplain, hcitation, hfrom⟩ := h
  refine ⟨r, List.mem_filter.mpr ⟨hr, ?_⟩, hplain, ?_⟩
  · rw [← hcitation] at ho
    unfold AnswerRecord.cited
    unfold recordCitation orText at ho
    cases hc : r.citation with
    | none =>
      rw [hc] at ho
      exact Bool.or_eq_true_iff.mpr (.inr (List.contains_iff_mem.mpr ho))
    | some c =>
      rw [hc, Option.filter_some] at ho
      by_cases hempty : c = ""
      · rw [if_neg (by simpa using hempty)] at ho
        exact Bool.or_eq_true_iff.mpr (.inr (List.contains_iff_mem.mpr ho))
      · rw [if_pos (by simpa using hempty)] at ho
        exact Bool.or_eq_true_iff.mpr (.inl (List.contains_iff_mem.mpr ho))
  · rcases hfrom with ⟨hs, _⟩ | ⟨row, hrow, _, rfl⟩
    · exact List.mem_append.mpr (.inl hs)
    · exact List.mem_append.mpr (.inr (List.mem_map_of_mem hrow))

/-- What is rendered of selected statements that are not compared. -/
theorem renderNumbers_ok {question : Text} {numbers : List Nat} {rendered : RenderedSelection}
    (hquestion : isPerformanceComparison question = false)
    (h : renderNumbers lib evidence options question numbers = .ok rendered) :
    rendered.message = joinWith "\n" ((numbered options numbers).map (·.statement)) ∧
      rendered.citations = uniqueBy id ((numbered options numbers).map (·.citation)) := by
  unfold renderNumbers at h
  dsimp only at h
  rw [hquestion, if_neg Bool.false_ne_true] at h
  obtain rfl := pure_ok h
  exact ⟨rfl, rfl⟩

/-- The answer of a selection that is not compared. -/
theorem renderSelection_eq {question : Text} {ids : Json} {numbers : List Nat} {contentLength : Nat}
    (hquestion : isPerformanceComparison question = false)
    (hoptions : answerFactRepairOptions lib evidence = .ok options)
    (hnumbers : selectedNumbers options ids = .ok numbers) (hlength : contentLength ≤ 20000) :
    renderSelection lib contentLength (some (.obj [("statement_ids", ids)])) evidence question =
      .ok { message := joinWith "\n" ((numbered options numbers).map (·.statement))
            citations := uniqueBy id ((numbered options numbers).map (·.citation)) } := by
  unfold renderSelection
  rw [require_true _ hlength, ok_bind, orRaise_some, ok_bind]
  dsimp only
  rw [if_neg (fun h => by simpa [hquestion] using h.2), if_pos rfl, hoptions]
  dsimp only
  rw [hnumbers, ok_bind]
  unfold renderNumbers
  dsimp only
  rw [hquestion, if_neg Bool.false_ne_true]
  rfl

/-! ## Passing -/

/-- The statements of the rendered message are statements of cited records. -/
theorem rendered_sources {question : Text} {numbers : List Nat} {rendered : RenderedSelection}
    (hquestion : isPerformanceComparison question = false)
    (hne : numbered options numbers ≠ [])
    (hrender : renderNumbers lib evidence options question numbers = .ok rendered)
    (hread : ∀ o ∈ numbered options numbers, ReadsBack lib.toCharacterLibrary records o) {s : Text}
    (hs : s ∈ statements lib.toCharacterLibrary rendered.message false) :
    ∃ o ∈ numbered options numbers, s ∈ statements lib.toCharacterLibrary o.statement false ∧
      s ∈ (CitedSources.ofRecords lib.toCharacterLibrary
        (citedRecords records rendered.citations)).statements := by
  obtain ⟨hmessage, hcitations⟩ := renderNumbers_ok hquestion hrender
  rw [hmessage] at hs
  obtain ⟨text, htext, hs⟩ := mem_statements_join _ (fun hnil => hne (List.map_eq_nil_iff.mp hnil)) hs
  obtain ⟨o, ho, rfl⟩ := List.mem_map.mp htext
  have hcitation : o.citation ∈ rendered.citations := by
    rw [hcitations]
    obtain ⟨c, hc, hsame⟩ := exists_mem_uniqueBy id (List.mem_map_of_mem (f := (·.citation)) ho)
    exact (show c = o.citation from hsame) ▸ hc
  obtain ⟨r, hr, hplain, hsource⟩ := origin_cited (hread o ho s hs) hcitation
  exact ⟨o, ho, hs, mem_sources_statements hr hplain hsource⟩

/-- The answer is within what the validator checks, and does not open as a business answer. -/
structure Assessable (lib : AnswerLibrary) (evidence : List EvidenceChunk)
    (records : List AnswerRecord) (rendered : RenderedSelection) : Prop where
  inLimit : overInputLimit rendered.message evidence = false
  fewStatements : (CitedSources.ofRecords lib.toCharacterLibrary
      (citedRecords records rendered.citations)).statements.length +
    (statements lib.toCharacterLibrary rendered.message false).length ≤ maxStatements
  notBusiness : startsWith (.ofList (scopeDisclosure ++ "\n比较口径说明".toList))
    rendered.message = false

/-- The check of an answer within the limits is that of its statements. -/
theorem Assessable.check {rendered : RenderedSelection}
    (h : Assessable lib evidence records rendered)
    (hrecords : answerEvidenceRecords lib evidence = .ok records) :
    validateAnswerFacts lib rendered.message rendered.citations evidence .answeredWithCitations =
      .ok (.ofVerdicts ((statements lib.toCharacterLibrary rendered.message false).map
        (assess lib.toCharacterLibrary (CitedSources.ofRecords lib.toCharacterLibrary
          (citedRecords records rendered.citations))))) := by
  have hassessed : assessedMessage lib rendered.message (acceptedEvidence evidence) =
      .ok rendered.message := by
    unfold assessedMessage
    rw [if_neg (Bool.eq_false_iff.mp h.notBusiness)]
    rfl
  unfold validateAnswerFacts
  rw [if_neg (not_not.mpr rfl), if_neg (Bool.eq_false_iff.mp h.inLimit)]
  dsimp only
  rw [answerEvidenceRecords_accepted, hrecords, ok_bind, hassessed, ok_bind,
    if_neg (not_lt.mpr h.fewStatements)]
  rfl

theorem uniqueBy_replicate {α κ : Type} [DecidableEq κ] (key : α → κ) (a : α) :
    ∀ n, uniqueBy key (List.replicate (n + 1) a) = [a]
  | 0 => rfl
  | n + 1 => by
    rw [List.replicate_succ]
    show a :: (uniqueBy key (List.replicate (n + 1) a)).filter _ = [a]
    rw [uniqueBy_replicate key a n, List.filter_cons_of_neg (by simp)]
    rfl

/-- Repeating an accepted chunk gives no further record. -/
theorem answerEvidenceRecords_replicate {chunk : EvidenceChunk} (haccepted : chunk.status = .accepted)
    (hvalid : lib.validates chunk = true) (n : Nat) :
    answerEvidenceRecords lib (List.replicate (n + 1) chunk) = .ok [answerRecord chunk] := by
  have hall : acceptedEvidence (List.replicate (n + 1) chunk) = List.replicate (n + 1) chunk :=
    List.filter_eq_self.mpr fun c hc => by
      rw [List.eq_of_mem_replicate hc]
      exact decide_eq_true haccepted
  rw [answerEvidenceRecords_eq, hall, uniqueBy_replicate]
  · rfl
  · rw [hall]
    refine List.all_eq_true.mpr fun c hc => ?_
    rw [List.eq_of_mem_replicate hc]
    exact hvalid

namespace Sample

/-- A question that compares nothing. -/
def termQuestion : Text := "How long do I wait?".toList

/-- The selection of the first statement. -/
def firstSelected : Json := .obj [("statement_ids", .arr [.str "s0"])]

/-- The answer of the statement that the waiting is 90 days. -/
def waitAnswer : RenderedSelection where
  message := "Wait: 90 days.".toList
  citations := ["knowledge://guide#page=1"]

def waitRecord : AnswerRecord := answerRecord (guide "- Wait: 90 days")

/-- One accepted chunk more than is checked. -/
def manyChunks : List EvidenceChunk := List.replicate 129 (guide "- Wait: 90 days")

end Sample

/-- A selection is rendered over more chunks than the validator checks. -/
theorem selection_over_limit :
    isPerformanceComparison Sample.termQuestion = false ∧
      renderSelection Sample.answerLibrary 26 (some Sample.firstSelected) Sample.manyChunks
        Sample.termQuestion = .ok Sample.waitAnswer ∧
      answerEvidenceRecords Sample.answerLibrary Sample.manyChunks = .ok [Sample.waitRecord] ∧
      (∀ s ∈ statements Sample.answerLibrary.toCharacterLibrary Sample.waitAnswer.message false,
        Unambiguous Sample.answerLibrary.toCharacterLibrary (CitedSources.ofRecords
          Sample.answerLibrary.toCharacterLibrary (citedRecords [Sample.waitRecord]
            Sample.waitAnswer.citations)) s) ∧
      ∃ check, validateAnswerFacts Sample.answerLibrary Sample.waitAnswer.message
        Sample.waitAnswer.citations Sample.manyChunks .answeredWithCitations = .ok check ∧
          check.passed = false := by
  have hrecords : answerEvidenceRecords Sample.answerLibrary Sample.manyChunks =
      .ok [Sample.waitRecord] := answerEvidenceRecords_replicate rfl rfl 128
  have hoptions : answerFactRepairOptions Sample.answerLibrary Sample.manyChunks =
      answerFactRepairOptions Sample.answerLibrary [Sample.guide "- Wait: 90 days"] := by
    unfold answerFactRepairOptions
    rw [hrecords]
    rfl
  have hone : answerFactRepairOptions Sample.answerLibrary [Sample.guide "- Wait: 90 days"] =
      .ok [⟨"Wait: 90 days.".toList, "knowledge://guide#page=1"⟩] := by decide +kernel
  have hnumbers : selectedNumbers [⟨"Wait: 90 days.".toList, "knowledge://guide#page=1"⟩]
      (.arr [.str "s0"]) = .ok [0] := by decide +kernel
  refine ⟨by decide +kernel, ?_, hrecords, ?_, .inputLimit, ?_, rfl⟩
  · exact renderSelection_eq (by decide +kernel) (hoptions.trans hone) hnumbers (by decide)
  · unfold Unambiguous
    decide +kernel
  · unfold validateAnswerFacts
    rw [if_neg (not_not.mpr rfl), if_pos (by decide +kernel)]
    rfl

/-- A selection whose answer is rejected, though its sources give no subject two values. -/
def RejectedSelection (evidence : List EvidenceChunk) (rendered : RenderedSelection) : Prop :=
  renderSelection Sample.answerLibrary 26 (some Sample.firstSelected) evidence Sample.termQuestion =
      .ok rendered ∧
    (∃ records, answerEvidenceRecords Sample.answerLibrary evidence = .ok records ∧
      ∀ s ∈ statements Sample.answerLibrary.toCharacterLibrary rendered.message false,
        Unambiguous Sample.answerLibrary.toCharacterLibrary (CitedSources.ofRecords
          Sample.answerLibrary.toCharacterLibrary (citedRecords records rendered.citations)) s) ∧
    ∃ check, validateAnswerFacts Sample.answerLibrary rendered.message rendered.citations evidence
      .answeredWithCitations = .ok check ∧ check.passed = false

/-- A statement in a numbered list within which it has a bullet. -/
def Sample.nested : List EvidenceChunk := [guide "1. - Wait: 90 days"]

def Sample.nestedAnswer : RenderedSelection where
  message := "- Wait: 90 days.".toList
  citations := ["knowledge://guide#page=1"]

end ProofAgent.Answers
