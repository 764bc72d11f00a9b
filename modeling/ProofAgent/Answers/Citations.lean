import ProofAgent.Answers.Evidence
import ProofAgent.Base.RegexMatches
import Mathlib.Data.Char
import Mathlib.Data.List.Lex

/-! # Citations

The references of an answer are compared with the citations and sources of the evidence. Those of
the evidence lose the punctuation at their ends, those of the answer only white space. -/
namespace ProofAgent.Answers

open Base Base.Regex
open TaskState (Text strip isAsciiWord)

/-! ## References -/

/-- `TRAILING_REF_PUNCTUATION`. -/
def trailingRefPunctuation : String := ".,;:!?)]\x7d。！？；，、"

/-- `[A-Za-z0-9_.-]`. -/
def isNameChar (c : Char) : Bool := isAsciiWord c || c = '.' || c = '-'

/-- `[A-Za-z0-9_.-]+\.md`. -/
def markdownName : Regex := .seq (plus (.char isNameChar)) (Regex.text ".md")

/-- `#[^\s\]\),;]*`. -/
def markdownAnchor : Regex :=
  .seq (one '#') (star (.char fun c => !isSpace c && !"]),;".toList.contains c))

/-- `_clean_ref`. -/
def cleanRef (ref : Text) : Text := rstrip trailingRefPunctuation (strip ref)

/-- `_append_unique`. -/
def appendUnique (refs : List Text) (ref : Text) : List Text :=
  if ref ≠ [] ∧ ref ∉ refs then refs ++ [ref] else refs

/-- `_structured_cited_refs`. -/
def structuredCitedRefs (citationRefs : List Text) : List Text :=
  citationRefs.foldl (fun refs ref => appendUnique refs (strip ref)) []

/-- The citations and sources of the chunks that are not rejected. -/
def citableRefs (evidence : List EvidenceChunk) : List Text :=
  (evidence.filter fun chunk => chunk.status ≠ .rejected).flatMap fun chunk =>
    chunk.source.toList :: (chunk.citation.map String.toList).toList

/-- `_allowed_citation_refs`. -/
def allowedCitationRefs (evidence : List EvidenceChunk) : List Text :=
  (evidence.flatMap fun chunk =>
    (chunk.citation.map String.toList).toList ++ [chunk.source.toList]).foldl
      (fun refs value => if strip value ≠ [] ∧ value ∉ refs then refs ++ [value] else refs) []

section
variable (lib : CharacterLibrary)

/-- `MARKDOWN_SOURCE_RE`. -/
def markdownSource : Regex :=
  .seq (wordBoundary lib) (.seq (.group markdownName) (opt markdownAnchor))

/-- `_markdown_source_refs`. -/
def markdownSourceRefs (ref : Text) : List Text :=
  (((markdownSource lib).findAll ref).filterMap fun m => m.group.map cleanRef).filter (· ≠ [])

/-- What `_add_supported_ref` adds. -/
def supportedBy (value : Text) : List Text :=
  if cleanRef value = [] then [] else cleanRef value :: markdownSourceRefs lib (cleanRef value)

/-- `_supported_refs` without observation records. -/
def supportedRefs (evidence : List EvidenceChunk) : List Text :=
  (citableRefs evidence).flatMap (supportedBy lib)

end

/-! ## Validation -/

structure CitationCheck where
  passed : Bool
  reason : String
  citedSources : List Text
  supportedSources : List Text
  unsupportedSources : List Text
  missingSupportedCitation : Bool
  deriving DecidableEq

/-- `_validate_cited_refs` without observation records. -/
def validateCitedRefs (lib : CharacterLibrary) (citedSources : List Text)
    (evidence : List EvidenceChunk) (requireSupportedCitation : Bool) : CitationCheck :=
  let supported := supportedRefs lib evidence
  let unsupported := citedSources.filter fun ref => ref ∉ supported
  let hasSupported := citedSources.any fun ref => ref ∈ supported
  let missing := requireSupportedCitation && supported ≠ [] && !hasSupported
  let passed := unsupported = [] && !missing && (citedSources = [] || hasSupported)
  { passed
    reason :=
      if passed then "Citations are supported by accepted evidence."
      else if unsupported ≠ [] then "Citations include unsupported sources."
      else "Missing supported citation references."
    citedSources
    supportedSources := supported.dedup.mergeSort fun a b => decide (a ≤ b)
    unsupportedSources := unsupported
    missingSupportedCitation := missing }

/-- `validate_citation_refs_supported_by_evidence` without observation records. -/
def validateCitationRefs (lib : CharacterLibrary) (citationRefs : List Text)
    (evidence : List EvidenceChunk) (requireSupportedCitation : Bool := false) : CitationCheck :=
  validateCitedRefs lib (structuredCitedRefs citationRefs) evidence requireSupportedCitation

/-! ## Cleaned references -/

section
variable {lib : CharacterLibrary} {evidence : List EvidenceChunk} {ref value : Text}

theorem rstrip_rstrip (chars : String) (text : Text) : rstrip chars (rstrip chars text) =
    rstrip chars text :=
  List.rdropWhile_idempotent ..

/-- What is supported has no punctuation at its end. -/
theorem rstrip_supported (h : ref ∈ supportedRefs lib evidence) :
    rstrip trailingRefPunctuation ref = ref := by
  obtain ⟨value, _, h⟩ := List.mem_flatMap.mp h
  unfold supportedBy at h
  split at h
  · exact absurd h List.not_mem_nil
  · rcases List.mem_cons.mp h with rfl | h
    · exact rstrip_rstrip ..
    · obtain ⟨m, _, hm⟩ := List.mem_filterMap.mp (List.mem_filter.mp h).1
      obtain ⟨name, _, rfl⟩ := Option.map_eq_some_iff.mp hm
      exact rstrip_rstrip ..

theorem mem_supportedRefs (hvalue : value ∈ citableRefs evidence) (hne : cleanRef value ≠ []) :
    cleanRef value ∈ supportedRefs lib evidence := by
  refine List.mem_flatMap.mpr ⟨value, hvalue, ?_⟩
  unfold supportedBy
  rw [if_neg hne]
  exact List.mem_cons_self ..

theorem supportedRefs_eq_nil :
    supportedRefs lib evidence = [] ↔ ∀ value ∈ citableRefs evidence, cleanRef value = [] := by
  rw [supportedRefs, List.flatMap_eq_nil_iff]
  refine forall₂_congr fun value _ => ?_
  unfold supportedBy
  split
  · rename_i h
    exact iff_of_true rfl h
  · rename_i h
    exact iff_of_false nofun h

/-! ## Names of markdown files -/

/-- A name of a markdown file that occurs in a text. -/
structure MarkdownNameIn (name text : Text) : Prop where
  ofStem : ∃ stem : Text, stem ≠ [] ∧ (∀ c ∈ stem, isNameChar c = true) ∧ name = stem ++ ".md".toList
  occurs : name <:+: text

theorem markdownName_run {c d : Cursor} (h : d ∈ markdownName.run c) :
    ∃ stem : Text, stem ≠ [] ∧ (∀ x ∈ stem, isNameChar x = true) ∧
      c.Took d (stem ++ ".md".toList) := by
  obtain ⟨e, he, hd⟩ := mem_run_seq.mp h
  obtain ⟨stem, htook, hall, hlength⟩ := run_many_char he
  exact ⟨stem, List.ne_nil_of_length_pos hlength, hall, htook.trans (run_text hd)⟩

/-- The group of a match is a name of a markdown file. -/
theorem markdownNameIn_of_match {m : Match} {name : Text}
    (h : (markdownSource lib).MatchOf ref m) (hname : m.group = some name) :
    MarkdownNameIn name ref := by
  obtain ⟨d, hd, hafter, hgroup⟩ := h.success
  obtain ⟨c, hc, hd⟩ := mem_run_seq.mp hd
  obtain ⟨rfl, _⟩ := mem_run_between.mp hc
  obtain ⟨e, he, hd⟩ := mem_run_seq.mp hd
  obtain ⟨f, hf, rfl⟩ := mem_run_group.mp he
  obtain ⟨stem, hne, hall, htook⟩ := markdownName_run hf
  have hanchor : (opt markdownAnchor).NoGroup := ⟨trivial, trivial⟩
  rw [run_group hanchor hd, htook.upto_eq] at hgroup
  obtain rfl : stem ++ ".md".toList = name := Option.some.inj (hgroup.trans hname)
  refine ⟨⟨stem, hne, hall, rfl⟩, m.before, f.after, ?_⟩
  have hafter : m.text ++ m.after = stem ++ ".md".toList ++ f.after := htook.after
  rw [List.append_assoc, ← hafter, ← List.append_assoc]
  exact h.parts

theorem isSpace_of_isNameChar {c : Char} (h : isNameChar c = true) : isSpace c = false := by
  simp only [isNameChar, Bool.or_eq_true, decide_eq_true_eq] at h
  rcases h with (h | rfl) | rfl
  · exact TaskState.isSpace_of_isAsciiWord h
  · decide
  · decide

theorem cleanRef_markdownName {name text : Text} (h : MarkdownNameIn name text) :
    cleanRef name = name := by
  obtain ⟨⟨stem, hne, hall, rfl⟩, _⟩ := h
  have hfront : (stem ++ ".md".toList).dropWhile isSpace = stem ++ ".md".toList := by
    cases stem with
    | nil => exact absurd rfl hne
    | cons c rest =>
      have hc := isSpace_of_isNameChar (hall c (List.mem_cons_self ..))
      rw [List.cons_append, List.dropWhile_cons_of_neg (Bool.eq_false_iff.mp hc)]
  have hend : ∀ p : Char → Bool, p 'd' = false →
      (stem ++ ".md".toList).rdropWhile p = stem ++ ".md".toList := by
    intro p hp
    have hconcat : stem ++ ".md".toList = (stem ++ ".m".toList) ++ ['d'] := by
      rw [List.append_assoc]
      rfl
    rw [hconcat, List.rdropWhile_concat_neg _ _ _ (Bool.eq_false_iff.mp hp)]
  unfold cleanRef strip rstrip
  rw [hfront, hend _ (by decide), hend _ (by decide)]

/-- What is supported is a citation or a source, or the name of a markdown file in one. -/
theorem of_mem_supportedRefs (h : ref ∈ supportedRefs lib evidence) :
    ∃ value ∈ citableRefs evidence, ref = cleanRef value ∨ MarkdownNameIn ref value := by
  obtain ⟨value, hvalue, h⟩ := List.mem_flatMap.mp h
  refine ⟨value, hvalue, ?_⟩
  unfold supportedBy at h
  split at h
  · exact absurd h List.not_mem_nil
  · rcases List.mem_cons.mp h with rfl | h
    · exact .inl rfl
    · obtain ⟨m, hm, hmap⟩ := List.mem_filterMap.mp (List.mem_filter.mp h).1
      obtain ⟨name, hname, rfl⟩ := Option.map_eq_some_iff.mp hmap
      have hmarkdown := markdownNameIn_of_match (matchOf_findAll hm) hname
      rw [cleanRef_markdownName hmarkdown]
      refine .inr ⟨hmarkdown.ofStem, hmarkdown.occurs.trans ?_⟩
      exact (List.rdropWhile_prefix _ _).isInfix.trans <|
        (List.rdropWhile_prefix _ _).isInfix.trans (List.dropWhile_suffix _).isInfix

end

/-! ## Cited references -/

theorem mem_structuredCitedRefs {ref : Text} {refs : List Text} :
    ref ∈ structuredCitedRefs refs ↔ ref ≠ [] ∧ ∃ r ∈ refs, strip r = ref := by
  have hfold : ∀ (refs acc : List Text),
      ref ∈ refs.foldl (fun refs r => appendUnique refs (strip r)) acc ↔
        ref ∈ acc ∨ ref ≠ [] ∧ ∃ r ∈ refs, strip r = ref := by
    intro refs
    induction refs with
    | nil => simp
    | cons r rest ih =>
      intro acc
      rw [List.foldl_cons, ih, List.exists_mem_cons_iff]
      unfold appendUnique
      split
      · rename_i h
        rw [List.mem_append, List.mem_singleton]
        constructor
        · rintro ((h | rfl) | ⟨hne, h⟩)
          · exact .inl h
          · exact .inr ⟨h.1, .inl rfl⟩
          · exact .inr ⟨hne, .inr h⟩
        · rintro (h | ⟨hne, rfl | h⟩)
          · exact .inl (.inl h)
          · exact .inl (.inr rfl)
          · exact .inr ⟨hne, h⟩
      · rename_i h
        constructor
        · rintro (h | ⟨hne, h⟩)
          · exact .inl h
          · exact .inr ⟨hne, .inr h⟩
        · rintro (h | ⟨hne, rfl | h⟩)
          · exact .inl h
          · exact .inl (by_contra fun hmem => h ⟨hne, hmem⟩)
          · exact .inr ⟨hne, h⟩
  rw [structuredCitedRefs, hfold]
  simp

theorem validateCitedRefs_passed {lib : CharacterLibrary} {cited : List Text}
    {evidence : List EvidenceChunk} {required : Bool} :
    (validateCitedRefs lib cited evidence required).passed = true ↔
      (∀ ref ∈ cited, ref ∈ supportedRefs lib evidence) ∧
        (required = true → cited ≠ [] ∨ supportedRefs lib evidence = []) := by
  have hunsupported : cited.filter (fun ref => decide (ref ∉ supportedRefs lib evidence)) = [] ↔
      ∀ ref ∈ cited, ref ∈ supportedRefs lib evidence := by
    rw [List.filter_eq_nil_iff]
    exact forall₂_congr fun ref _ => by rw [decide_eq_true_eq, not_not]
  have hsupported : (∀ ref ∈ cited, ref ∈ supportedRefs lib evidence) →
      (cited.any (fun ref => decide (ref ∈ supportedRefs lib evidence)) = true ↔ cited ≠ []) := by
    intro hall
    rw [List.any_eq_true]
    constructor
    · rintro ⟨ref, href, _⟩
      exact List.ne_nil_of_mem href
    · intro hne
      obtain ⟨ref, href⟩ := List.exists_mem_of_ne_nil _ hne
      exact ⟨ref, href, decide_eq_true (hall ref href)⟩
  show (decide _ && !(required && decide _ && !_) && (decide _ || _)) = true ↔ _
  rw [Bool.and_eq_true, Bool.and_eq_true, decide_eq_true_eq, hunsupported]
  constructor
  · rintro ⟨⟨hall, hmissing⟩, _⟩
    refine ⟨hall, fun hrequired => ?_⟩
    by_contra hnone
    obtain ⟨hcited, hne⟩ := not_or.mp hnone
    have hany := mt (hsupported hall).mp hcited
    rw [hrequired, decide_eq_true hne, Bool.eq_false_iff.mpr hany] at hmissing
    cases hmissing
  · rintro ⟨hall, hmissing⟩
    by_cases hcited : cited = []
    · refine ⟨⟨hall, ?_⟩, by rw [decide_eq_true hcited]; rfl⟩
      cases required with
      | false => rfl
      | true =>
        have hnil := (hmissing rfl).resolve_left (not_not.mpr hcited)
        rw [decide_eq_false (not_not.mpr hnil)]
        rfl
    · rw [(hsupported hall).mpr hcited]
      exact ⟨⟨hall, by simp⟩, by simp⟩

/-- **Cited references.** References that are citations or sources of the evidence pass when none
of them ends in punctuation, and only such references, or names of markdown files, pass. -/
theorem exact_citations_supported (lib : CharacterLibrary) (evidence : List EvidenceChunk)
    (required : Bool) (refs : List Text) :
    ((∀ ref ∈ refs, ∃ value ∈ citableRefs evidence, strip ref = strip value) →
      ((validateCitationRefs lib refs evidence required).passed = true ↔
        (∀ ref ∈ refs, cleanRef ref = strip ref) ∧
          (required = true → (∃ ref ∈ refs, strip ref ≠ []) ∨
            ∀ value ∈ citableRefs evidence, cleanRef value = []))) ∧
    ((validateCitationRefs lib refs evidence required).passed = true →
      ∀ ref ∈ refs, strip ref ≠ [] → ∃ value ∈ citableRefs evidence,
        strip ref = cleanRef value ∨ MarkdownNameIn (strip ref) value) := by
  unfold validateCitationRefs
  rw [validateCitedRefs_passed]
  have hcited : structuredCitedRefs refs ≠ [] ↔ ∃ ref ∈ refs, strip ref ≠ [] := by
    constructor
    · intro hne
      obtain ⟨found, hfound⟩ := List.exists_mem_of_ne_nil _ hne
      obtain ⟨hne, ref, href, rfl⟩ := mem_structuredCitedRefs.mp hfound
      exact ⟨ref, href, hne⟩
    · rintro ⟨ref, href, hne⟩
      exact List.ne_nil_of_mem (mem_structuredCitedRefs.mpr ⟨hne, ref, href, rfl⟩)
  constructor
  · intro hrefs
    rw [hcited, supportedRefs_eq_nil]
    refine and_congr_left fun _ => ⟨fun hall ref href => ?_, fun hclean found hfound => ?_⟩
    · by_cases hne : strip ref = []
      · unfold cleanRef
        rw [hne]
        rfl
      · exact rstrip_supported (hall _ (mem_structuredCitedRefs.mpr ⟨hne, ref, href, rfl⟩))
    · obtain ⟨hne, ref, href, rfl⟩ := mem_structuredCitedRefs.mp hfound
      obtain ⟨value, hvalue, hsame⟩ := hrefs ref href
      have hvalueClean : cleanRef value = strip ref := by
        rw [← hclean ref href]
        unfold cleanRef
        rw [hsame]
      rw [← hvalueClean]
      exact mem_supportedRefs hvalue (hvalueClean ▸ hne)
  · rintro ⟨hall, _⟩ ref href hne
    exact of_mem_supportedRefs (hall _ (mem_structuredCitedRefs.mpr ⟨hne, ref, href, rfl⟩))

/-- A reference with white space around it passes, and is a citation of the evidence. -/
theorem exact_citations_supported_guide :
    (validateCitationRefs Sample.answerLibrary.toCharacterLibrary [" knowledge://guide".toList]
      [Sample.guide ""] true).passed = true ∧
    ∃ value ∈ citableRefs [Sample.guide ""], strip " knowledge://guide".toList = cleanRef value ∨
      MarkdownNameIn (strip " knowledge://guide".toList) value := by
  obtain ⟨hpasses, honly⟩ := exact_citations_supported Sample.answerLibrary.toCharacterLibrary
    [Sample.guide ""] true [" knowledge://guide".toList]
  have hpassed := (hpasses (by decide)).mpr ⟨by decide, fun _ => .inl (by decide)⟩
  exact ⟨hpassed, honly hpassed _ (List.mem_singleton_self _) (by decide)⟩

/-- A chunk whose citation ends with a bracket. -/
def Sample.clause : EvidenceChunk := { guide "" with citation := some "guide(a)" }

/-- A reference that is offered to the model is refused. -/
theorem offered_reference_refused :
    "guide(a)".toList ∈ allowedCitationRefs [Sample.clause] ∧
      "guide(a)".toList ∈ citableRefs [Sample.clause] ∧
      ∀ required, (validateCitationRefs Sample.answerLibrary.toCharacterLibrary ["guide(a)".toList]
        [Sample.clause] required).passed = false := by
  decide +kernel

end ProofAgent.Answers
