import ProofAgent.Answers.LiteralAnswers
import ProofAgent.Answers.OptionLines

/-! # Business answers read back

A rendered comparison is recognised by finding, among its lines, the options that it was rendered
from. That gives the selection back when no other option has the text of one of its lines, and when
no selected statement is broken by the end of a line. -/
namespace ProofAgent.Answers

open Base Base.Regex
open TaskState (Text)

variable {lib : CharacterLibrary} {evidence : List EvidenceChunk} {options : List RepairOption}
  {selected : List Nat} {message : Text}

/-- The statements with the given numbers. -/
def selectedTexts (options : List RepairOption) (selected : List Nat) : List Text :=
  selected.filterMap fun i => options[i]?.map (·.statement)

/-- The facts that are selected. -/
def chosenFacts (lib : CharacterLibrary) (evidence : List EvidenceChunk)
    (options : List RepairOption) (selected : List Nat) : List BusinessFact :=
  (businessFacts lib evidence options).filter fun f => f.statementId ∈ selected

/-- The selected numbers that are of no fact. -/
def extraNumbers (chosen : List BusinessFact) (selected : List Nat) : List Nat :=
  selected.filter fun i => i ∉ chosen.map (·.statementId)

/-- The lines of an answer that are no statements. -/
def frameLines (chosen : List BusinessFact) (extra : List Nat) : List Text :=
  [scopeDisclosure, comparisonBasis,
    directionLine "亮点与表现较好的方面：" "存在增长或成本改善指标。" "当前材料未形成可验证的改善判断。" chosen
      .strengths,
    directionLine "存在压力的方面：" "存在承压指标。" "当前材料未形成可验证的承压判断。" chosen .pressures,
    judgementLimit] ++
    (uniqueBy id (chosen.map (·.business))).flatMap (fun b => [[], businessHeading chosen b]) ++
    if extra = [] then [] else [[], "其他已选事实".toList]

/-- The selected statements are lines, and no other option has the text of a line. -/
structure Recoverable (lib : CharacterLibrary) (evidence : List EvidenceChunk)
    (options : List RepairOption) (selected : List Nat) : Prop where
  oneLine : ∀ t ∈ selectedTexts options selected, OneLine t
  apart : ∀ i o, options[i]? = some o → i ∉ selected →
    o.statement ∉ selectedTexts options selected ∧
      o.statement ∉ frameLines (chosenFacts lib evidence options selected)
        (extraNumbers (chosenFacts lib evidence options selected) selected)

/-! ## Facts -/

/-- A fact is of the option with its number, and its business has a name. -/
structure FactOf (options : List RepairOption) (f : BusinessFact) : Prop where
  option : ∃ o, options[f.statementId]? = some o ∧ f.statement = o.statement
  business : f.business ∈ businessAliases.map Prod.fst
  directions : ∃ d ∈ f.directions, d ≠ .period

theorem businessOf_mem {text name : Text} (h : businessOf text = some name) :
    name ∈ businessAliases.map Prod.fst := by
  unfold businessOf at h
  split at h
  · rename_i found hfound
    obtain rfl := Option.some.inj h
    have hmem : found ∈ (businessAliases.filter fun p => p.2.any (hasPart · text)).map Prod.fst :=
      hfound ▸ List.mem_singleton_self found
    obtain ⟨p, hp, rfl⟩ := List.mem_map.mp hmem
    exact List.mem_map_of_mem (List.mem_filter.mp hp).1
  · cases h

theorem contextOf_mem {before name : Text} (h : contextOf before = some name) :
    name ∈ businessAliases.map Prod.fst := by
  unfold contextOf at h
  dsimp only at h
  split at h
  · split at h
    · rename_i found hfound
      split at h
      · exact businessOf_mem (hfound.trans h)
      · cases h
    · cases h
  · obtain ⟨heading, _, hname⟩ := Option.bind_eq_some_iff.mp h
    exact businessOf_mem hname

theorem statementBusiness_mem {o : RepairOption} {name : Text}
    (h : statementBusiness evidence o = some name) : name ∈ businessAliases.map Prod.fst := by
  unfold statementBusiness at h
  split at h
  · rename_i found hfound
    exact businessOf_mem (hfound.trans h)
  · split at h
    · cases h
    · split at h
      · rename_i business hone
        have hmem : business ∈ contextsOf evidence o :=
          List.mem_dedup.mp (hone ▸ List.mem_singleton_self business)
        obtain ⟨e, _, hbefore⟩ := List.mem_flatMap.mp hmem
        obtain ⟨before, _, rfl⟩ := List.mem_map.mp hbefore
        exact contextOf_mem h
      · cases h

theorem factOf_mem {f : BusinessFact} (h : f ∈ businessFacts lib evidence options) :
    FactOf options f := by
  obtain ⟨⟨o, i⟩, hmem, hfact⟩ := List.mem_filterMap.mp h
  unfold businessFact at hfact
  obtain ⟨business, hbusiness, hfact⟩ := Option.bind_eq_some_iff.mp hfact
  split at hfact
  · cases hfact
  · rename_i hdirections
    obtain rfl := Option.some.inj hfact
    obtain ⟨d, hd⟩ := List.exists_mem_of_ne_nil _ hdirections
    refine ⟨⟨o, ?_, rfl⟩, statementBusiness_mem hbusiness, d, hd, ?_⟩
    · exact List.mem_zipIdx_iff_getElem?.mp hmem
    · exact of_decide_eq_true (List.mem_filter.mp hd).2

/-! ## Rendering -/

theorem mem_selectedTexts {t : Text} :
    t ∈ selectedTexts options selected ↔ ∃ i ∈ selected, ∃ o, options[i]? = some o ∧
      o.statement = t := by
  simp only [selectedTexts, List.mem_filterMap, Option.map_eq_some_iff]

/-- The other statements of an answer are those with the selected numbers of no fact. -/
theorem extra_eq : ∀ {numbers : List Nat} {extra : List Text},
    (numbers.mapM fun i => orRaise (options[i]?.map (·.statement)) RenderError.unknownStatement) =
      .ok extra → extra = selectedTexts options numbers ∧ (extra = [] ↔ numbers = [])
  | [], extra, h => by
    obtain rfl := pure_ok h
    exact ⟨rfl, iff_of_true rfl rfl⟩
  | i :: rest, extra, h => by
    rw [List.mapM_cons] at h
    obtain ⟨t, ht, h⟩ := bind_ok h
    obtain ⟨others, hothers, h⟩ := bind_ok h
    obtain rfl := pure_ok h
    obtain ⟨rfl, _⟩ := extra_eq hothers
    refine ⟨?_, iff_of_false nofun nofun⟩
    show t :: selectedTexts options rest = (i :: rest).filterMap fun i => options[i]?.map (·.statement)
    rw [List.filterMap_cons, orRaise_ok ht]
    rfl

/-- What is rendered of a selection. -/
structure Rendered (lib : CharacterLibrary) (evidence : List EvidenceChunk)
    (options : List RepairOption) (selected : List Nat) (message : Text) : Prop where
  covered : assessmentGaps (businessFacts lib evidence options)
    (chosenFacts lib evidence options selected) = []
  message_eq : message = joinWith "\n" (businessAnswerLines (chosenFacts lib evidence options selected)
    (selectedTexts options
      (extraNumbers (chosenFacts lib evidence options selected) selected)))
  extra_nil : selectedTexts options (extraNumbers (chosenFacts lib evidence options selected)
      selected) = [] ↔ extraNumbers (chosenFacts lib evidence options selected) selected = []

theorem renderSelected_ok (h : renderSelected lib evidence options selected = .ok message) :
    Rendered lib evidence options selected message := by
  obtain ⟨_, hcovered, h⟩ := bind_ok h
  obtain ⟨extra, hextra, h⟩ := bind_ok h
  obtain ⟨rfl, hnil⟩ := extra_eq hextra
  exact ⟨require_ok hcovered, (pure_ok h).symm, hnil⟩

/-- The selected statements, by whether they are of facts. -/
theorem mem_selectedTexts_iff (lib : CharacterLibrary) (evidence : List EvidenceChunk)
    (options : List RepairOption) (selected : List Nat) {t : Text} : t ∈ selectedTexts options selected ↔
    (∃ f ∈ chosenFacts lib evidence options selected, f.statement = t) ∨
      t ∈ selectedTexts options (extraNumbers (chosenFacts lib evidence options selected)
        selected) := by
  rw [mem_selectedTexts, mem_selectedTexts]
  constructor
  · rintro ⟨i, hi, o, ho, rfl⟩
    by_cases hfact : i ∈ (chosenFacts lib evidence options selected).map (·.statementId)
    · obtain ⟨f, hf, rfl⟩ := List.mem_map.mp hfact
      obtain ⟨o', ho', hstatement⟩ := (factOf_mem (List.mem_filter.mp hf).1).option
      rw [ho'] at ho
      obtain rfl := Option.some.inj ho
      exact .inl ⟨f, hf, hstatement⟩
    · exact .inr ⟨i, List.mem_filter.mpr ⟨hi, decide_eq_true hfact⟩, o, ho, rfl⟩
  · rintro (⟨f, hf, rfl⟩ | ⟨i, hi, o, ho, rfl⟩)
    · obtain ⟨hf, hselected⟩ := List.mem_filter.mp hf
      obtain ⟨o, ho, hstatement⟩ := (factOf_mem hf).option
      exact ⟨f.statementId, of_decide_eq_true hselected, o, ho, hstatement.symm⟩
    · exact ⟨i, (List.mem_filter.mp hi).1, o, ho, rfl⟩

/-- The lines of an answer are its frame and the selected statements. -/
theorem mem_lines (h : Rendered lib evidence options selected message) {line : Text} :
    line ∈ businessAnswerLines (chosenFacts lib evidence options selected) (selectedTexts options
        (extraNumbers (chosenFacts lib evidence options selected) selected)) ↔
      line ∈ frameLines (chosenFacts lib evidence options selected)
        (extraNumbers (chosenFacts lib evidence options selected) selected) ∨
      line ∈ selectedTexts options selected := by
  have hselected : line ∈ selectedTexts options selected ↔ _ :=
    mem_selectedTexts_iff lib evidence options selected
  rw [hselected]
  generalize hchosen : chosenFacts lib evidence options selected = chosen
  have hnil := h.extra_nil
  rw [hchosen] at hnil
  unfold businessAnswerLines frameLines
  have hgroups : (line ∈ (uniqueBy id (chosen.map (·.business))).flatMap (businessLines chosen)) ↔
      line ∈ (uniqueBy id (chosen.map (·.business))).flatMap
        (fun b => [[], businessHeading chosen b]) ∨ ∃ f ∈ chosen, f.statement = line := by
    simp only [List.mem_flatMap, businessLines, List.mem_append, List.mem_map, List.mem_filter]
    constructor
    · rintro ⟨b, hb, hline | ⟨f, ⟨hf, _⟩, rfl⟩⟩
      · exact .inl ⟨b, hb, hline⟩
      · exact .inr ⟨f, hf, rfl⟩
    · rintro (⟨b, hb, hline⟩ | ⟨f, hf, rfl⟩)
      · exact ⟨b, hb, .inl hline⟩
      · obtain ⟨b, hb, hsame⟩ := exists_mem_uniqueBy id (List.mem_map_of_mem (f := (·.business)) hf)
        exact ⟨b, hb, .inr ⟨f, ⟨hf, decide_eq_true (show f.business = b from hsame.symm)⟩, rfl⟩⟩
  have hextra : (line ∈ if selectedTexts options (extraNumbers chosen selected) = [] then []
      else [[], "其他已选事实".toList] ++ selectedTexts options (extraNumbers chosen selected)) ↔
      (line ∈ if extraNumbers chosen selected = [] then ([] : List Text)
        else [[], "其他已选事实".toList]) ∨
        line ∈ selectedTexts options (extraNumbers chosen selected) := by
    by_cases hempty : extraNumbers chosen selected = []
    · rw [if_pos (hnil.mpr hempty), if_pos hempty, hnil.mpr hempty]
      simp
    · rw [if_neg (mt hnil.mp hempty), if_neg hempty, List.mem_append]
  rw [List.mem_append, List.mem_append, List.mem_append, List.mem_append, hgroups, hextra]
  exact (or_congr_left or_assoc.symm).trans or_or_or_comm

/-! ## Lines of an answer -/

/-- The last line has something in it. -/
def EndsWithText (lines : List Text) : Prop := ∀ last ∈ lines.getLast?, last ≠ []

theorem endsWithText_of_mem {lines : List Text} (h : ∀ line ∈ lines, line ≠ []) :
    EndsWithText lines :=
  fun last hlast => h last (List.mem_of_getLast? hlast)

theorem EndsWithText.append {xs ys : List Text} (hxs : EndsWithText xs) (hys : EndsWithText ys) :
    EndsWithText (xs ++ ys) := by
  intro last hlast
  rw [List.getLast?_append] at hlast
  rcases Option.or_eq_some_iff.mp hlast with h | ⟨_, h⟩
  · exact hys last h
  · exact hxs last h

theorem EndsWithText.flatMap {α : Type} {f : α → List Text} (hf : ∀ a, EndsWithText (f a)) :
    ∀ items : List α, EndsWithText (items.flatMap f)
  | [] => nofun
  | a :: rest => (hf a).append (.flatMap hf rest)

theorem splitLines_lines {lines : List Text} (hone : ∀ line ∈ lines, OneLine line)
    (hne : lines ≠ []) (hends : EndsWithText lines) : splitLines (joinWith "\n" lines) = lines := by
  obtain ⟨init, last, rfl⟩ := (List.eq_nil_or_concat' lines).resolve_left hne
  have hlast : last ≠ [] := hends last List.getLast?_concat
  obtain ⟨hinit, hone⟩ := List.forall_mem_append.mp hone
  exact splitLines_join hinit (hone last (List.mem_singleton_self last)) hlast

theorem oneLine_of_all {text : Text} (h : text.all (fun c => !isLineBreak c) = true) :
    OneLine text := by
  intro c hc
  exact Bool.not_eq_true' _ ▸ List.all_eq_true.mp h c hc

theorem OneLine.append {a b : Text} (ha : OneLine a) (hb : OneLine b) : OneLine (a ++ b) := by
  intro c hc
  rcases List.mem_append.mp hc with hc | hc
  · exact ha c hc
  · exact hb c hc

theorem OneLine.join {separator : String} (hseparator : OneLine separator.toList) :
    ∀ {lines : List Text}, (∀ line ∈ lines, OneLine line) → OneLine (joinWith separator lines)
  | [], _ => nofun
  | [line], h => by
    rw [joinWith_singleton]
    exact h line (List.mem_singleton_self line)
  | line :: next :: rest, h => by
    obtain ⟨hline, hrest⟩ := List.forall_mem_cons.mp h
    rw [joinWith_cons₂]
    exact (hline.append hseparator).append (OneLine.join hseparator hrest)

theorem oneLine_business {name : Text} (h : name ∈ businessAliases.map Prod.fst) : OneLine name := by
  have hall : (businessAliases.map Prod.fst).all (fun name => name.all fun c => !isLineBreak c) =
      true := by decide
  exact oneLine_of_all (List.all_eq_true.mp hall name h)

section
variable {chosen : List BusinessFact} (hchosen : ∀ f ∈ chosen, FactOf options f)
include hchosen

theorem oneLine_directionLine {label some none : String} {d : CoveragePart}
    (hlabel : OneLine label.toList) (hsome : OneLine some.toList) (hnone : OneLine none.toList) :
    OneLine (directionLine label some none chosen d) := by
  unfold directionLine
  refine hlabel.append ?_
  split
  · exact hnone
  · refine (OneLine.join (oneLine_of_all (by decide)) fun name hname => ?_).append hsome
    obtain ⟨f, hf, rfl⟩ := List.mem_map.mp (mem_of_mem_uniqueBy hname)
    exact oneLine_business (hchosen f (List.mem_filter.mp hf).1).business

theorem oneLine_heading {b : Text} (h : b ∈ uniqueBy id (chosen.map (·.business))) :
    OneLine (businessHeading chosen b) := by
  obtain ⟨f, hf, rfl⟩ := List.mem_map.mp (mem_of_mem_uniqueBy h)
  unfold businessHeading
  refine (((oneLine_business (hchosen f hf).business).append (oneLine_of_all (by decide))).append
    ?_).append (oneLine_of_all (by decide))
  split
  · exact oneLine_of_all (by decide)
  · split <;> exact oneLine_of_all (by decide)

theorem oneLine_frame (extra : List Nat) : ∀ line ∈ frameLines chosen extra, OneLine line := by
  intro line hline
  unfold frameLines at hline
  rcases List.mem_append.mp hline with hline | hline
  · rcases List.mem_append.mp hline with hline | hline
    · simp only [List.mem_cons, List.not_mem_nil, or_false] at hline
      rcases hline with rfl | rfl | rfl | rfl | rfl
      · exact oneLine_of_all (by decide)
      · exact oneLine_of_all (by decide)
      · exact oneLine_directionLine hchosen (oneLine_of_all (by decide)) (oneLine_of_all (by decide))
          (oneLine_of_all (by decide))
      · exact oneLine_directionLine hchosen (oneLine_of_all (by decide)) (oneLine_of_all (by decide))
          (oneLine_of_all (by decide))
      · exact oneLine_of_all (by decide)
    · obtain ⟨b, hb, hline⟩ := List.mem_flatMap.mp hline
      simp only [List.mem_cons, List.not_mem_nil, or_false] at hline
      rcases hline with rfl | rfl
      · exact nofun
      · exact oneLine_heading hchosen hb
  · split at hline
    · exact absurd hline List.not_mem_nil
    · simp only [List.mem_cons, List.not_mem_nil, or_false] at hline
      rcases hline with rfl | rfl
      · exact nofun
      · exact oneLine_of_all (by decide)

end

theorem businessHeading_ne_nil (facts : List BusinessFact) (b : Text) : businessHeading facts b ≠ [] := by
  unfold businessHeading
  exact List.append_ne_nil_of_right_ne_nil _ nofun

theorem endsWithText_lines {chosen : List BusinessFact} {extra : List Text}
    (hchosen : ∀ f ∈ chosen, f.statement ≠ []) (hextra : ∀ t ∈ extra, t ≠ []) :
    EndsWithText (businessAnswerLines chosen extra) := by
  unfold businessAnswerLines
  refine (EndsWithText.append ?_ (.flatMap (fun b => ?_) _)).append ?_
  · intro last hlast
    obtain rfl := Option.some.inj hlast
    exact (show judgementLimit ≠ [] by decide)
  · refine EndsWithText.append (fun last hlast => ?_) (endsWithText_of_mem fun t ht => ?_)
    · obtain rfl := Option.some.inj hlast
      exact businessHeading_ne_nil _ b
    · obtain ⟨f, hf, rfl⟩ := List.mem_map.mp ht
      exact hchosen f (List.mem_filter.mp hf).1
  · split
    · exact nofun
    · refine EndsWithText.append (fun last hlast => ?_) (endsWithText_of_mem hextra)
      obtain rfl := Option.some.inj hlast
      decide

/-! ## The statements found again -/

theorem mem_statementsIn {i : Nat} : i ∈ statementsIn options message ↔
    ∃ o, options[i]? = some o ∧ o.statement ∈ splitLines message := by
  unfold statementsIn
  rw [List.mem_map]
  constructor
  · rintro ⟨⟨o, i⟩, hmem, rfl⟩
    obtain ⟨hmem, hline⟩ := List.mem_filter.mp hmem
    exact ⟨o, List.mem_zipIdx_iff_getElem?.mp hmem, of_decide_eq_true hline⟩
  · rintro ⟨o, ho, hline⟩
    exact ⟨(o, i), List.mem_filter.mpr ⟨List.mem_zipIdx_iff_getElem?.mpr ho, decide_eq_true hline⟩,
      rfl⟩

theorem statementsIn_sorted (options : List RepairOption) (message : Text) :
    (statementsIn options message).Pairwise (· < ·) := by
  have hsub : List.Sublist (statementsIn options message) (options.zipIdx.map Prod.snd) :=
    List.filter_sublist.map _
  rw [List.zipIdx_map_snd] at hsub
  exact List.Pairwise.sublist hsub (List.pairwise_lt_range' ..)

theorem statementsIn_known {i : Nat} (h : i ∈ statementsIn options message) :
    i < options.length := by
  obtain ⟨o, ho, _⟩ := mem_statementsIn.mp h
  exact (List.getElem?_eq_some_iff.mp ho).1

theorem eq_of_sorted {xs ys : List Nat} (hxs : xs.Pairwise (· < ·)) (hys : ys.Pairwise (· < ·))
    (h : ∀ i, i ∈ xs ↔ i ∈ ys) : xs = ys :=
  hxs.sortedLT.eq_of_mem_iff hys.sortedLT fun i => h i

theorem length_selectedTexts : ∀ {numbers : List Nat}, (∀ i ∈ numbers, i < options.length) →
    (selectedTexts options numbers).length = numbers.length
  | [], _ => rfl
  | i :: rest, h => by
    obtain ⟨hi, hrest⟩ := List.forall_mem_cons.mp h
    have hcons : selectedTexts options (i :: rest) =
        options[i].statement :: selectedTexts options rest := by
      show (i :: rest).filterMap (fun i => options[i]?.map (·.statement)) = _
      rw [List.filterMap_cons, List.getElem?_eq_getElem hi]
      rfl
    rw [hcons, List.length_cons, List.length_cons, length_selectedTexts hrest]

section
variable (hoptions : ∀ o ∈ options, '\n' ∉ o.statement ∧ o.statement ≠ [])
include hoptions

theorem selectedTexts_texts {t : Text} (h : t ∈ selectedTexts options selected) :
    '\n' ∉ t ∧ t ≠ [] := by
  obtain ⟨i, _, o, ho, rfl⟩ := mem_selectedTexts.mp h
  exact hoptions o (List.mem_of_getElem? ho)

/-- A rendered answer is split into its lines again. -/
theorem splitLines_rendered (h : Rendered lib evidence options selected message)
    (hone : ∀ t ∈ selectedTexts options selected, OneLine t) :
    splitLines message = businessAnswerLines (chosenFacts lib evidence options selected)
      (selectedTexts options
        (extraNumbers (chosenFacts lib evidence options selected) selected)) := by
  have hfacts : ∀ f ∈ chosenFacts lib evidence options selected, FactOf options f :=
    fun f hf => factOf_mem (List.mem_filter.mp hf).1
  have hlines : ∀ line ∈ businessAnswerLines (chosenFacts lib evidence options selected)
      (selectedTexts options
        (extraNumbers (chosenFacts lib evidence options selected) selected)), OneLine line := by
    intro line hline
    rcases (mem_lines h).mp hline with hline | hline
    · exact oneLine_frame hfacts _ line hline
    · exact hone line hline
  rw [h.message_eq]
  refine splitLines_lines hlines nofun (endsWithText_lines (fun f hf => ?_) fun t ht =>
    (selectedTexts_texts hoptions ht).2)
  obtain ⟨o, ho, hstatement⟩ := (hfacts f hf).option
  rw [hstatement]
  exact (hoptions o (List.mem_of_getElem? ho)).2

variable (hsorted : selected.Pairwise (· < ·)) (hknown : ∀ i ∈ selected, i < options.length)
include hsorted hknown

theorem statementsIn_rendered (h : Rendered lib evidence options selected message) :
    statementsIn options message = selected ↔ Recoverable lib evidence options selected := by
  constructor
  · intro hids
    have hone : ∀ t ∈ selectedTexts options selected, OneLine t := by
      intro t ht
      obtain ⟨i, hi, o, ho, rfl⟩ := mem_selectedTexts.mp ht
      obtain ⟨o', ho', hline⟩ := mem_statementsIn.mp (hids.symm ▸ hi)
      obtain rfl := Option.some.inj (ho'.symm.trans ho)
      exact oneLine_of_mem hline
    have hsplit := splitLines_rendered hoptions h hone
    have hfound : ∀ i o, options[i]? = some o → i ∉ selected → o.statement ∉ splitLines message :=
      fun i o ho hi hline => hi (hids ▸ mem_statementsIn.mpr ⟨o, ho, hline⟩)
    refine ⟨hone, fun i o ho hi => ⟨fun hline => hfound i o ho hi ?_, fun hline =>
      hfound i o ho hi ?_⟩⟩
    · rw [hsplit]
      exact (mem_lines h).mpr (.inr hline)
    · rw [hsplit]
      exact (mem_lines h).mpr (.inl hline)
  · rintro ⟨hone, hapart⟩
    refine eq_of_sorted (statementsIn_sorted options message) hsorted fun i => ?_
    rw [mem_statementsIn, splitLines_rendered hoptions h hone]
    constructor
    · rintro ⟨o, ho, hline⟩
      by_contra hi
      rcases (mem_lines h).mp hline with hline | hline
      · exact (hapart i o ho hi).2 hline
      · exact (hapart i o ho hi).1 hline
    · intro hi
      have ho := List.getElem?_eq_getElem (hknown i hi)
      exact ⟨_, ho, (mem_lines h).mpr (.inr (mem_selectedTexts.mpr ⟨i, hi, _, ho, rfl⟩))⟩

/-- The statements found are the selected ones if they have the same texts. -/
theorem statementsIn_of_texts (h : Rendered lib evidence options selected message)
    (htexts : selectedTexts options (statementsIn options message) =
      selectedTexts options selected) : statementsIn options message = selected := by
  have hone : ∀ t ∈ selectedTexts options selected, OneLine t := by
    intro t ht
    obtain ⟨i, hi, o, ho, rfl⟩ := mem_selectedTexts.mp (htexts.symm ▸ ht)
    obtain ⟨o', ho', hline⟩ := mem_statementsIn.mp hi
    obtain rfl := Option.some.inj (ho'.symm.trans ho)
    exact oneLine_of_mem hline
  have hsubset : selected ⊆ statementsIn options message := by
    intro i hi
    have ho := List.getElem?_eq_getElem (hknown i hi)
    refine mem_statementsIn.mpr ⟨_, ho, ?_⟩
    rw [splitLines_rendered hoptions h hone]
    exact (mem_lines h).mpr (.inr (mem_selectedTexts.mpr ⟨i, hi, _, ho, rfl⟩))
  have hlength : (statementsIn options message).length = selected.length := by
    rw [← length_selectedTexts fun i hi => statementsIn_known hi, htexts, length_selectedTexts hknown]
  have hperm := (hsorted.sortedLT.nodup.subperm hsubset).perm_of_length_le hlength.le
  exact eq_of_sorted (statementsIn_sorted options message) hsorted fun i => hperm.symm.mem_iff

theorem verifiedBody_rendered (hrender : renderSelected lib evidence options selected = .ok message)
    (hlow : 1 ≤ selected.length) (hhigh : selected.length ≤ 16) :
    verifiedBody lib evidence options message =
      some (joinWith "\n" (selectedTexts options selected)) ↔
        Recoverable lib evidence options selected := by
  have h := renderSelected_ok hrender
  rw [← statementsIn_rendered hoptions hsorted hknown h]
  constructor
  · intro hbody
    refine statementsIn_of_texts hoptions hsorted hknown h ?_
    unfold verifiedBody at hbody
    dsimp only at hbody
    split at hbody
    · cases hbody
    · rename_i hcount
      split at hbody
      · have hknownIds : ∀ i ∈ statementsIn options message, i < options.length :=
          fun i hi => statementsIn_known hi
        have hne : ∀ {numbers : List Nat}, (∀ i ∈ numbers, i < options.length) →
            1 ≤ numbers.length → selectedTexts options numbers ≠ [] := by
          intro numbers hnumbers hlength
          exact List.ne_nil_of_length_pos (length_selectedTexts hnumbers ▸ hlength)
        exact joinWith_injective (fun t ht => (selectedTexts_texts hoptions ht).1)
          (fun t ht => (selectedTexts_texts hoptions ht).1)
          (hne hknownIds (not_not.mp hcount).1) (hne hknown hlow) (Option.some.inj hbody)
      · cases hbody
  · intro hids
    unfold verifiedBody
    dsimp only
    rw [hids, if_neg (not_not.mpr ⟨hlow, hhigh⟩), if_pos hrender]
    rfl

end

/-! ## The round trip -/

/-- An option that is a statement of an accepted chunk, under its citation or source. -/
def FromEvidence (lib : CharacterLibrary) (evidence : List EvidenceChunk) (o : RepairOption) : Prop :=
  ∃ chunk ∈ acceptedEvidence evidence, structuredData chunk = none ∧
    o.citation = recordCitation (answerRecord chunk) ∧
    ∃ s ∈ recordStatements lib (answerRecord chunk), o.statement = punctuated s

theorem option_fromEvidence {lib : AnswerLibrary} {o : RepairOption}
    (h : answerFactRepairOptions lib evidence = .ok options) (ho : o ∈ options) :
    FromEvidence lib.toCharacterLibrary evidence o := by
  obtain ⟨records, hrecords, r, hr, hplain, hcitation, hs⟩ := option_origin h ho
  obtain ⟨_, rfl⟩ := answerEvidenceRecords_ok hrecords
  obtain ⟨chunk, hchunk, rfl⟩ := List.mem_map.mp hr
  exact ⟨chunk, mem_of_mem_uniqueBy hchunk, hplain, hcitation.symm, hs⟩

theorem renderBusinessAnswer_eq {lib : AnswerLibrary}
    (h : answerFactRepairOptions lib evidence = .ok options) (selected : List Nat) :
    renderBusinessAnswer lib evidence selected =
      .ok (renderSelected lib.toCharacterLibrary evidence options selected) := by
  unfold renderBusinessAnswer
  rw [h]
  rfl

theorem verifiedBusinessBody_eq {lib : AnswerLibrary}
    (h : answerFactRepairOptions lib evidence = .ok options) (message : Text) :
    verifiedBusinessBody lib message evidence =
      .ok (verifiedBody lib.toCharacterLibrary evidence options message) := by
  unfold verifiedBusinessBody
  rw [h]
  rfl

/-- What a verified body says of its message. -/
theorem verifiedBody_some {body : Text} (h : verifiedBody lib evidence options message = some body) :
    (1 ≤ (statementsIn options message).length ∧ (statementsIn options message).length ≤ 16) ∧
      renderSelected lib evidence options (statementsIn options message) = .ok message ∧
      body = joinWith "\n" (selectedTexts options (statementsIn options message)) := by
  unfold verifiedBody at h
  dsimp only at h
  split at h
  · cases h
  · rename_i hcount
    split at h
    · rename_i hrender
      exact ⟨not_not.mp hcount, hrender, (Option.some.inj h).symm⟩
    · cases h

/-- **Business answers read back.** Selected statements are given back when they are lines and no
other option has the text of a line, and a message with a body is rendered from accepted chunks. -/
theorem business_round_trip (lib : AnswerLibrary) (evidence : List EvidenceChunk)
    (options : List RepairOption) (hoptions : answerFactRepairOptions lib evidence = .ok options) :
    (∀ selected message, selected.Pairwise (· < ·) → (∀ i ∈ selected, i < options.length) →
      1 ≤ selected.length → selected.length ≤ 16 →
      renderBusinessAnswer lib evidence selected = .ok (.ok message) →
      (verifiedBusinessBody lib message evidence =
          .ok (some (joinWith "\n" (selectedTexts options selected))) ↔
        Recoverable lib.toCharacterLibrary evidence options selected)) ∧
    ∀ message body, verifiedBusinessBody lib message evidence = .ok (some body) →
      ∃ selected, selected.Pairwise (· < ·) ∧ (1 ≤ selected.length ∧ selected.length ≤ 16) ∧
        (∀ i ∈ selected, ∃ o, options[i]? = some o ∧
          FromEvidence lib.toCharacterLibrary evidence o) ∧
        renderBusinessAnswer lib evidence selected = .ok (.ok message) ∧
        body = joinWith "\n" (selectedTexts options selected) := by
  constructor
  · intro selected message hsorted hknown hlow hhigh hrender
    rw [renderBusinessAnswer_eq hoptions] at hrender
    rw [verifiedBusinessBody_eq hoptions, Except.ok.injEq]
    exact verifiedBody_rendered (fun o ho => newline_option hoptions ho) hsorted hknown
      (Except.ok.inj hrender) hlow hhigh
  · intro message body hbody
    rw [verifiedBusinessBody_eq hoptions] at hbody
    obtain ⟨hcount, hrender, hbody⟩ := verifiedBody_some (Except.ok.inj hbody)
    refine ⟨statementsIn options message, statementsIn_sorted options message, hcount,
      fun i hi => ?_, by rw [renderBusinessAnswer_eq hoptions, hrender], hbody⟩
    obtain ⟨o, ho, _⟩ := mem_statementsIn.mp hi
    exact ⟨o, ho, option_fromEvidence hoptions (List.mem_of_getElem? ho)⟩

namespace Sample

/-- A chunk with a growing figure of a business. -/
def growth : EvidenceChunk := guide "寿险营运利润增长3"

/-- The same text under another citation. -/
def growthAgain : EvidenceChunk := { growth with citation := some "knowledge://guide#page=2" }

/-- A statement with a line separator in it. -/
def brokenGrowth : EvidenceChunk := guide "寿险\u2028营运利润增长3"

def growthOptions : List RepairOption := [⟨"寿险营运利润增长3。".toList, "knowledge://guide#page=1"⟩]

def growthMessage (statement : String) : Text :=
  joinWith "\n" [scopeDisclosure, comparisonBasis,
    "亮点与表现较好的方面：寿险及健康险存在增长或成本改善指标。".toList,
    "存在压力的方面：当前材料未形成可验证的承压判断。".toList, judgementLimit, [],
    "寿险及健康险：存在增长或成本改善指标。".toList, statement.toList]

theorem growthOptions_eq : answerFactRepairOptions answerLibrary [growth] = .ok growthOptions := by
  decide +kernel

theorem growth_renders : renderBusinessAnswer answerLibrary [growth] [0] =
    .ok (.ok (growthMessage "寿险营运利润增长3。")) := by
  decide +kernel

theorem growth_recoverable :
    Recoverable answerLibrary.toCharacterLibrary [growth] growthOptions [0] := by
  refine ⟨fun t ht => ?_, fun i o ho hi => ?_⟩
  · obtain rfl := List.mem_singleton.mp ht
    exact oneLine_of_all (by decide)
  · have hlt := (List.getElem?_eq_some_iff.mp ho).1
    obtain rfl : i = 0 := Nat.lt_one_iff.mp hlt
    exact absurd (List.mem_singleton_self 0) hi

end Sample

theorem business_round_trip_growth :
    verifiedBusinessBody Sample.answerLibrary (Sample.growthMessage "寿险营运利润增长3。")
      [Sample.growth] = .ok (some "寿险营运利润增长3。".toList) :=
  ((business_round_trip Sample.answerLibrary [Sample.growth] Sample.growthOptions
    Sample.growthOptions_eq).1 [0] _ (by decide) (by decide) (by decide) (by decide)
    Sample.growth_renders).mpr Sample.growth_recoverable

/-- A selected statement is lost if another option has its text, or if it is not one line. -/
theorem selection_lost :
    (renderBusinessAnswer Sample.answerLibrary [Sample.growth, Sample.growthAgain] [0] =
        .ok (.ok (Sample.growthMessage "寿险营运利润增长3。")) ∧
      verifiedBusinessBody Sample.answerLibrary (Sample.growthMessage "寿险营运利润增长3。")
        [Sample.growth, Sample.growthAgain] = .ok none) ∧
    renderBusinessAnswer Sample.answerLibrary [Sample.brokenGrowth] [0] =
        .ok (.ok (Sample.growthMessage "寿险\u2028营运利润增长3。")) ∧
      verifiedBusinessBody Sample.answerLibrary (Sample.growthMessage "寿险\u2028营运利润增长3。")
        [Sample.brokenGrowth] = .ok none := by
  decide +kernel

end ProofAgent.Answers
