import ProofAgent.Base.Parts
import ProofAgent.Answers.NumberReadings
import ProofAgent.TaskState.Parsing

/-! # Canonical texts

Two numbers have one canonical text exactly if they have one value. A canonical text stays as it is,
unless it has a number with separators, which two numbers make that a comma joins. -/
namespace ProofAgent.Answers

open Base Base.Regex
open TaskState (Text strip)

variable {lib : CharacterLibrary}

/-! ## Words -/

/-- `text.split()`. -/
def splitWords (text : Text) : List Text := partsBy isSpace text

def unwords (parts : List Text) : Text := [' '].intercalate parts

theorem collapse_eq (text : Text) : collapse text = unwords (splitWords text) := by
  have htext : (String.ofList text).toList = text := String.toList_ofList
  unfold collapse collapseSpace wordsOf unwords splitWords partsBy
  rw [String.toList_intercalate, List.map_map, htext]
  exact congrArg _ (List.map_id'' (fun _ => String.toList_ofList) _)

/-- What `split` gives. -/
def AreWords (parts : List Text) : Prop := ∀ part ∈ parts, part ≠ [] ∧ ∀ c ∈ part, isSpace c = false

theorem areWords_words (text : Text) : AreWords (splitWords text) :=
  fun _ hpart => ⟨(mem_partsBy hpart).1, fun c hc => ((mem_partsBy hpart).2 c hc).1⟩

theorem words_unwords {parts : List Text} (h : AreWords parts) : splitWords (unwords parts) = parts :=
  partsBy_intercalate rfl h

theorem words_space {c : Char} (hc : isSpace c = true) (a b : Text) :
    splitWords (a ++ c :: b) = splitWords a ++ splitWords b :=
  partsBy_append_cons hc a b

theorem words_word {word : Text} (hne : word ≠ []) (h : ∀ c ∈ word, isSpace c = false) :
    splitWords word = [word] :=
  partsBy_part hne h

theorem words_strip (text : Text) : splitWords (strip text) = splitWords text := by
  have hleft : ∀ text : Text, splitWords (text.dropWhile isSpace) = splitWords text := by
    intro text
    induction text with
    | nil => rfl
    | cons c text ih =>
      rw [List.dropWhile_cons]
      split
      · rename_i hc
        rw [ih, ← List.nil_append (c :: text), words_space hc]
        rfl
      · rfl
  have hright : ∀ text : Text, splitWords (text.rdropWhile isSpace) = splitWords text := by
    intro text
    induction text using List.reverseRecOn with
    | nil => rfl
    | append_singleton text c ih =>
      rw [List.rdropWhile_concat]
      split
      · rename_i hc
        rw [ih, words_space hc]
        exact (List.append_nil _).symm
      · rfl
  rw [strip, hright, hleft]

/-! ## Currencies -/

def currencies : List Text := ["CNY".toList, "RMB".toList, "yuan".toList]

/-- `\b(?:CNY|RMB|yuan)\b`. -/
def currency (lib : CharacterLibrary) : Regex :=
  concat [wordBoundary lib, anyOf [Regex.text "CNY", Regex.text "RMB", Regex.text "yuan"],
    wordBoundary lib]

def spellCurrency (lib : CharacterLibrary) (text : Text) : Text := replace (currency lib) " yuan " text

theorem canonical_eq (text : Text) : canonical lib text =
    unwords (splitWords (rewriteNumbers lib (spellCurrency lib (strip text)))) :=
  collapse_eq _

theorem mem_run_text {s : String} {c d : Cursor} :
    d ∈ (Regex.text s).run c ↔ Goes c d s.toList := by
  unfold Regex.text
  induction s.toList generalizing c with
  | nil =>
    constructor
    · intro h
      obtain rfl := List.mem_singleton.mp h
      exact .refl d
    · intro h
      exact List.mem_singleton.mpr h.of_eq
  | cons x rest ih =>
    rw [List.foldr_cons, mem_run_seq]
    constructor
    · rintro ⟨e, he, hd⟩
      exact (mem_run_one.mp he).trans (ih.mp hd)
    · intro h
      obtain ⟨e, he, hd⟩ := Goes.split (a := [x]) h
      exact ⟨e, mem_run_one.mpr he, ih.mpr hd⟩

theorem mem_run_currencies {c d : Cursor} :
    d ∈ (anyOf [Regex.text "CNY", Regex.text "RMB", Regex.text "yuan"]).run c ↔
      ∃ w ∈ currencies, Goes c d w := by
  show d ∈ (Regex.alt (Regex.text "CNY") (.alt (Regex.text "RMB") (Regex.text "yuan"))).run c ↔ _
  rw [mem_run_alt, mem_run_alt, mem_run_text, mem_run_text, mem_run_text]
  simp [currencies]

theorem mem_run_currency {c d : Cursor} : d ∈ (currency lib).run c ↔ ∃ w ∈ currencies, Goes c d w ∧
    c.before.head?.any lib.isWord ≠ c.after.head?.any lib.isWord ∧
    d.before.head?.any lib.isWord ≠ d.after.head?.any lib.isWord := by
  have hboundary : ∀ {e f : Cursor}, f ∈ (wordBoundary lib).run e ↔ f = e ∧
      e.before.head?.any lib.isWord ≠ e.after.head?.any lib.isWord := by
    intro e f
    rw [wordBoundary, mem_run_between, bne_iff_ne]
  show d ∈ (Regex.seq (wordBoundary lib) (.seq (anyOf [Regex.text "CNY", Regex.text "RMB",
    Regex.text "yuan"]) (.seq (wordBoundary lib) .nil))).run c ↔ _
  rw [mem_run_seq]
  constructor
  · rintro ⟨c', hc', hd⟩
    obtain ⟨rfl, hbefore⟩ := hboundary.mp hc'
    obtain ⟨e, he, hd⟩ := mem_run_seq.mp hd
    obtain ⟨e', he', hd⟩ := mem_run_seq.mp hd
    obtain rfl : d = e' := List.mem_singleton.mp hd
    obtain ⟨rfl, hafter⟩ := hboundary.mp he'
    obtain ⟨w, hw, hgoes⟩ := mem_run_currencies.mp he
    exact ⟨w, hw, hgoes, hbefore, hafter⟩
  · rintro ⟨w, hw, hgoes, hbefore, hafter⟩
    exact ⟨c, hboundary.mpr ⟨rfl, hbefore⟩, mem_run_seq.mpr ⟨d, mem_run_currencies.mpr ⟨w, hw, hgoes⟩,
      mem_run_seq.mpr ⟨d, hboundary.mpr ⟨rfl, hafter⟩, List.mem_singleton.mpr rfl⟩⟩⟩

section
theorem mark_space {c : Char} (hc : c ∈ ['+', '-', ',', '.']) : isSpace c = false := by
  have hall : ['+', '-', ',', '.'].all (fun c => !isSpace c) = true := rfl
  exact (Bool.not_eq_true' _).mp (List.all_eq_true.mp hall c hc)

variable (laws : NumberLaws lib)
include laws

namespace NumberLaws

/-- A currency is written in letters. -/
theorem currency_letters {w : Text} (hw : w ∈ currencies) :
    w ≠ [] ∧ ∀ c ∈ w, lib.isWord c = true ∧ lib.isDecimal c = false := by
  have hall : currencies.all (fun w => !w.isEmpty && w.all Char.isAlpha) = true := rfl
  have hletters := List.all_eq_true.mp hall w hw
  rw [Bool.and_eq_true, Bool.not_eq_true', List.all_eq_true] at hletters
  exact ⟨List.isEmpty_eq_false_iff.mp hletters.1, fun c hc =>
    ⟨laws.letter_word c (hletters.2 c hc), laws.letter_digit c (hletters.2 c hc)⟩⟩

/-- A currency stands where it is not part of a longer word. -/
theorem mem_run_currency_iff {before after : Text} {d : Cursor} :
    d ∈ (currency lib).run ⟨before, after, none⟩ ↔ ∃ w ∈ currencies, Goes ⟨before, after, none⟩ d w ∧
      before.head?.any lib.isWord = false ∧ d.after.head?.any lib.isWord = false := by
  rw [mem_run_currency]
  refine exists_congr fun w => and_congr_right fun hw => and_congr_right fun hgoes => ?_
  obtain ⟨hne, hletters⟩ := laws.currency_letters hw
  have hafter : after.head?.any lib.isWord = true := by
    obtain ⟨x, rest, rfl⟩ := List.exists_cons_of_ne_nil hne
    have htext : after = x :: (rest ++ d.after) := hgoes.toTook.after
    rw [htext]
    exact (hletters x List.mem_cons_self).1
  have hbefore : d.before.head?.any lib.isWord = true := by
    obtain ⟨x, rest, hlast⟩ := List.exists_cons_of_ne_nil (List.reverse_ne_nil_iff.mpr hne)
    rw [hgoes.toTook.before, hlast]
    exact (hletters x (List.mem_reverse.mp (by rw [hlast]; exact List.mem_cons_self))).1
  dsimp only
  rw [hafter, hbefore]
  simp

theorem currency_none {before after : Text} : (currency lib).matchAt before after = none ↔
    ∀ w ∈ currencies, ∀ rest, after = w ++ rest → before.head?.any lib.isWord = false →
      rest.head?.any lib.isWord = true := by
  constructor
  · intro h w hw rest htext hbefore
    rw [← Bool.not_eq_false]
    intro hrest
    have hmem : (⟨w.reverse ++ before, rest, none⟩ : Cursor) ∈
        (currency lib).run ⟨before, after, none⟩ :=
      laws.mem_run_currency_iff.mpr ⟨w, hw, ⟨⟨htext, rfl⟩, rfl⟩, hbefore, hrest⟩
    cases hhead : ((currency lib).run ⟨before, after, none⟩).head? with
    | none =>
      rw [List.head?_eq_none_iff.mp hhead] at hmem
      exact absurd hmem List.not_mem_nil
    | some d =>
      obtain ⟨w', hw', hgoes, _⟩ := laws.mem_run_currency_iff.mp (List.mem_of_head? hhead)
      have hshorter := hgoes.shorter (laws.currency_letters hw').1
      unfold matchAt at h
      rw [hhead, Option.filter_some, if_pos (decide_eq_true hshorter)] at h
      cases h
  · intro h
    cases hmatch : (currency lib).matchAt before after with
    | none => rfl
    | some d =>
      obtain ⟨w, hw, hgoes, hbefore, hafter⟩ := laws.mem_run_currency_iff.mp (matchAt_mem hmatch)
      rw [h w hw d.after hgoes.toTook.after hbefore] at hafter
      cases hafter

/-- What is no word character is kept where currencies are spelled. -/
theorem spellCurrency_apart {c : Char} (hc : lib.isWord c = false) (a b : Text) :
    spellCurrency lib (a ++ c :: b) = spellCurrency lib a ++ c :: spellCurrency lib b := by
  have htext : ∀ {w : String}, w.toList ∈ currencies → (Regex.text w).Apart c := by
    intro w hw
    have hletters : ∀ x ∈ w.toList, x ≠ c := by
      rintro x hx rfl
      rw [((laws.currency_letters hw).2 x hx).1] at hc
      cases hc
    unfold Regex.text
    revert hletters
    induction w.toList with
    | nil => exact fun _ => trivial
    | cons x rest ih =>
      intro hletters
      obtain ⟨hx, hrest⟩ := List.forall_mem_cons.mp hletters
      exact ⟨decide_eq_false (Ne.symm hx), ih hrest⟩
  have hboundary : (wordBoundary lib).Apart c := by
    constructor
    · intro before
      show (_ != false) = (_ != lib.isWord c)
      rw [hc]
    · intro after
      show (false != _) = (lib.isWord c != _)
      rw [hc]
  have hapart : (currency lib).Apart c :=
    ⟨hboundary, ⟨htext (by decide), htext (by decide), htext (by decide)⟩, hboundary, trivial⟩
  exact subBy_apart (f := fun _ => " yuan ".toList) hapart a b

/-- A run of word characters is a currency or stays as it is. -/
theorem spellCurrency_run {run : Text} (h : ∀ c ∈ run, lib.isWord c = true) :
    spellCurrency lib run = if run ∈ currencies then " yuan ".toList else run := by
  have hrest : ∀ {w rest : Text}, run = w ++ rest → rest.head?.any lib.isWord = false → rest = [] := by
    rintro w rest rfl hrest
    cases rest with
    | nil => rfl
    | cons x rest =>
      have hx : lib.isWord x = false := hrest
      rw [h x (by simp)] at hx
      cases hx
  have heq := subBy_eq (r := currency lib) (f := fun _ => " yuan ".toList) run
  show subBy _ _ _ = _
  rw [heq]
  by_cases hrun : run ∈ currencies
  · rw [if_pos hrun]
    cases hmatch : (currency lib).matchAt [] run with
    | none =>
      have := laws.currency_none.mp hmatch run hrun [] (List.append_nil _).symm rfl
      cases this
    | some d =>
      obtain ⟨w, _, hgoes, _, hafter⟩ := laws.mem_run_currency_iff.mp (matchAt_mem hmatch)
      rw [rewriteFrom_match hmatch, hrest hgoes.toTook.after hafter]
      rfl
  · rw [if_neg hrun]
    have hplain : ∀ (b a : Text), run = a ++ b →
        rewriteFrom (currency lib) (fun _ => " yuan ".toList) a.reverse b = b := by
      intro b
      induction b with
      | nil => exact fun _ _ => rfl
      | cons x b ih =>
        intro a hsplit
        have hmatch : (currency lib).matchAt a.reverse (x :: b) = none := by
          refine laws.currency_none.mpr fun w hw rest htext hbefore => ?_
          rw [← Bool.not_eq_false]
          intro hend
          have hnone : rest = [] := hrest (w := a ++ w) (by rw [hsplit, htext, List.append_assoc]) hend
          -- a currency at the end of the run is the whole run
          rcases List.eq_nil_or_concat a with rfl | ⟨a, y, rfl⟩
          · rw [hnone, List.append_nil] at htext
            rw [hsplit, List.nil_append, htext] at hrun
            exact hrun hw
          · rw [List.concat_eq_append, List.reverse_append] at hbefore
            have hy : lib.isWord y = false := hbefore
            rw [h y (by rw [hsplit]; simp)] at hy
            cases hy
        have hmore := ih (a ++ [x]) (by rw [hsplit, List.append_assoc]; rfl)
        rw [List.reverse_append] at hmore
        rw [rewriteFrom_plain hmatch]
        exact congrArg (x :: ·) hmore
    exact hplain run [] rfl

end NumberLaws

end

/-! ## Currencies that are spelled -/

/-- No run of word characters is a currency. -/
def CurrencyFree (lib : CharacterLibrary) (text : Text) : Prop :=
  ∀ run ∈ text.splitOnP (fun c => !lib.isWord c), run ∉ currencies

/-- A word in which there is nothing left to spell. -/
def Spelled (lib : CharacterLibrary) (word : Text) : Prop :=
  word = "yuan".toList ∨ CurrencyFree lib word

theorem currencyFree_append {c : Char} (hc : lib.isWord c = false) {a b : Text} :
    CurrencyFree lib (a ++ c :: b) ↔ CurrencyFree lib a ∧ CurrencyFree lib b := by
  unfold CurrencyFree
  rw [List.splitOnP_append_cons a b (by rw [hc]; rfl)]
  exact List.forall_mem_append

theorem currencyFree_run {run : Text} (h : ∀ c ∈ run, lib.isWord c = true) :
    CurrencyFree lib run ↔ run ∉ currencies := by
  unfold CurrencyFree
  rw [List.splitOnP_eq_singleton fun c hc => by rw [h c hc]; rfl]
  exact List.forall_mem_singleton

theorem currencyFree_nil : CurrencyFree lib [] :=
  (currencyFree_run fun _ hc => absurd hc List.not_mem_nil).mpr (by decide)

/-- Whether a run of word characters may follow. -/
def EndsOutside (lib : CharacterLibrary) (text : Text) : Prop :=
  text = [] ∨ ∃ a c, text = a ++ [c] ∧ lib.isWord c = false

theorem EndsOutside.run {start run : Text} (h : EndsOutside lib start)
    (hfree : CurrencyFree lib start) (hrun : ∀ c ∈ run, lib.isWord c = true) (hne : run ∉ currencies) :
    CurrencyFree lib (start ++ run) := by
  rcases h with rfl | ⟨a, c, rfl, hc⟩
  · exact (currencyFree_run hrun).mpr hne
  · rw [List.append_assoc, List.singleton_append, currencyFree_append hc]
    exact ⟨((currencyFree_append hc).mp hfree).1, (currencyFree_run hrun).mpr hne⟩

section
variable (laws : NumberLaws lib)
include laws

namespace NumberLaws

theorem space_not_word {c : Char} (h : lib.isWord c = true) : isSpace c = false := by
  cases hc : isSpace c with
  | false => rfl
  | true => rw [laws.space_word c hc] at h; cases h

/-- The words of a run that is spelled, after the beginning of a word. -/
theorem spelled_run {start run : Text} (hend : EndsOutside lib start)
    (hspace : ∀ c ∈ start, isSpace c = false) (hfree : CurrencyFree lib start)
    (hrun : ∀ c ∈ run, lib.isWord c = true) :
    ∀ word ∈ splitWords (start ++ spellCurrency lib run), Spelled lib word := by
  have hstart : ∀ word ∈ splitWords start, Spelled lib word := by
    intro word hword
    by_cases hne : start = []
    · rw [hne] at hword
      exact absurd hword List.not_mem_nil
    · rw [words_word hne hspace] at hword
      rw [List.mem_singleton.mp hword]
      exact .inr hfree
  rw [laws.spellCurrency_run hrun]
  by_cases hcurrency : run ∈ currencies
  · rw [if_pos hcurrency]
    have hwords : splitWords (start ++ " yuan ".toList) = splitWords start ++ ["yuan".toList] :=
      words_space (c := ' ') rfl start "yuan ".toList
    rw [hwords]
    intro word hword
    rcases List.mem_append.mp hword with hword | hword
    · exact hstart word hword
    · exact .inl (List.mem_singleton.mp hword)
  · rw [if_neg hcurrency]
    have hspaces : ∀ c ∈ start ++ run, isSpace c = false := by
      intro c hc
      rcases List.mem_append.mp hc with hc | hc
      · exact hspace c hc
      · exact laws.space_not_word (hrun c hc)
    intro word hword
    by_cases hne : start ++ run = []
    · rw [hne] at hword
      exact absurd hword List.not_mem_nil
    · rw [words_word hne hspaces] at hword
      rw [List.mem_singleton.mp hword]
      exact .inr (hend.run hfree hrun hcurrency)

/-- **The words of a text whose currencies are spelled.** -/
theorem spelled_words (text : Text) : ∀ start : Text, EndsOutside lib start →
    (∀ c ∈ start, isSpace c = false) → CurrencyFree lib start →
    ∀ word ∈ splitWords (start ++ spellCurrency lib text), Spelled lib word := by
  induction text using separated_induction (p := fun c => !lib.isWord c) with
  | plain run hrun =>
    exact fun start hend hspace hfree =>
      laws.spelled_run hend hspace hfree fun c hc => by simpa using hrun c hc
  | separated run c rest hrun hc ih =>
    have hrun : ∀ c ∈ run, lib.isWord c = true := fun c hc => by simpa using hrun c hc
    have hc : lib.isWord c = false := by simpa using hc
    intro start hend hspace hfree word hword
    have hhead := laws.spelled_run hend hspace hfree hrun
    rw [laws.spellCurrency_apart hc, ← List.append_assoc] at hword
    cases hcspace : isSpace c with
    | true =>
      rw [words_space hcspace] at hword
      rcases List.mem_append.mp hword with hword | hword
      · exact hhead word hword
      · exact ih [] (.inl rfl) (fun _ hc => absurd hc List.not_mem_nil) currencyFree_nil word hword
    | false =>
      rw [laws.spellCurrency_run hrun] at hword hhead
      by_cases hcurrency : run ∈ currencies
      · rw [if_pos hcurrency] at hword hhead
        have hsplit : (start ++ " yuan ".toList) ++ c :: spellCurrency lib rest =
            (start ++ " yuan".toList) ++ ' ' :: ([c] ++ spellCurrency lib rest) := by
          simp [List.append_assoc]
        have hlast : splitWords (start ++ " yuan ".toList) = splitWords (start ++ " yuan".toList) := by
          have h := words_space (c := ' ') rfl (start ++ " yuan".toList) []
          rw [List.append_assoc] at h
          exact h.trans (List.append_nil _)
        rw [hsplit, words_space (c := ' ') rfl] at hword
        rcases List.mem_append.mp hword with hword | hword
        · exact hhead word (hlast ▸ hword)
        · refine ih [c] (.inr ⟨[], c, rfl, hc⟩) ?_ ?_ word hword
          · intro x hx
            rw [List.mem_singleton.mp hx]
            exact hcspace
          · exact (currencyFree_append (a := []) hc).mpr ⟨currencyFree_nil, currencyFree_nil⟩
      · rw [if_neg hcurrency] at hword
        have hsplit : (start ++ run) ++ c :: spellCurrency lib rest =
            (start ++ run ++ [c]) ++ spellCurrency lib rest := by
          rw [List.append_assoc (start ++ run), List.singleton_append]
        rw [hsplit] at hword
        refine ih (start ++ run ++ [c]) (.inr ⟨_, c, rfl, hc⟩) ?_ ?_ word hword
        · intro x hx
          rcases List.mem_append.mp hx with hx | hx
          · rcases List.mem_append.mp hx with hx | hx
            · exact hspace x hx
            · exact laws.space_not_word (hrun x hx)
          · rw [List.mem_singleton.mp hx]
            exact hcspace
        · exact (currencyFree_append (b := []) hc).mpr
            ⟨hend.run hfree hrun hcurrency, currencyFree_nil⟩

/-- A text without currencies stays as it is. -/
theorem spellCurrency_free {text : Text} : CurrencyFree lib text → spellCurrency lib text = text := by
  induction text using separated_induction (p := fun c => !lib.isWord c) with
  | plain run hrun =>
    have hrun : ∀ c ∈ run, lib.isWord c = true := fun c hc => by simpa using hrun c hc
    intro hfree
    rw [laws.spellCurrency_run hrun, if_neg ((currencyFree_run hrun).mp hfree)]
  | separated run c rest hrun hc ih =>
    have hrun : ∀ c ∈ run, lib.isWord c = true := fun c hc => by simpa using hrun c hc
    have hc : lib.isWord c = false := by simpa using hc
    intro hfree
    obtain ⟨hrunfree, hrest⟩ := (currencyFree_append hc).mp hfree
    rw [laws.spellCurrency_apart hc, laws.spellCurrency_run hrun,
      if_neg ((currencyFree_run hrun).mp hrunfree), ih hrest]

/-- Spelling again gives the same word. -/
theorem words_spelled {word : Text} (h : Spelled lib word) (hne : word ≠ [])
    (hspace : ∀ c ∈ word, isSpace c = false) : splitWords (spellCurrency lib word) = [word] := by
  rcases h with rfl | hfree
  · have hletters : ∀ c ∈ "yuan".toList, lib.isWord c = true := fun c hc =>
      ((laws.currency_letters (w := "yuan".toList) (by decide)).2 c hc).1
    rw [laws.spellCurrency_run hletters, if_pos (by decide)]
    decide
  · rw [laws.spellCurrency_free hfree, words_word hne hspace]

end NumberLaws

end

/-! ## Numbers within splitWords -/

section
variable (laws : NumberLaws lib)
include laws

namespace NumberLaws

theorem number_apart {c : Char} (hword : lib.isWord c = false) (hmark : c ∉ ['+', '-', ',', '.']) :
    (number lib).Apart c := by
  have hdigit : lib.isDecimal c = false := laws.not_digit hword
  simp only [List.mem_cons, List.not_mem_nil, or_false, not_or] at hmark
  obtain ⟨hplus, hminus, hcomma, hpoint⟩ := hmark
  have hsign : (oneOf "+-").Apart c := by
    show "+-".toList.contains c = false
    simp [hplus, hminus]
  have hopens : opensNumber lib none = opensNumber lib (some c) := by
    simp [opensNumber, hword, hplus, hminus, hpoint]
  have hcloses : closesNumber lib none = closesNumber lib (some c) := by
    simp [closesNumber, hword, hpoint]
  have hgroup : (numberGroup lib).Apart c := ⟨decide_eq_false hcomma, hdigit⟩
  rw [number_eq]
  exact ⟨⟨fun _ => rfl, fun _ => hopens⟩, hsign, ⟨⟨hdigit, hgroup⟩, hdigit⟩,
    ⟨decide_eq_false hpoint, hdigit⟩, ⟨fun _ => hcloses, fun _ => rfl⟩, trivial⟩

theorem rewriteNumbers_space {c : Char} (hc : isSpace c = true) (a b : Text) :
    rewriteNumbers lib (a ++ c :: b) = rewriteNumbers lib a ++ c :: rewriteNumbers lib b := by
  refine subBy_apart (laws.number_apart (laws.space_word c hc) fun hmark => ?_) a b
  rw [mark_space hmark] at hc
  cases hc

omit laws in
/-- The characters of a number. -/
theorem text_chars {n : Numeral} (h : n.Valid lib) : ∀ c ∈ n.text,
    lib.isDecimal c = true ∨ c ∈ ['+', '-', ',', '.'] := by
  intro c hc
  unfold Numeral.text at hc
  rcases List.mem_append.mp hc with hc | hc
  · rcases h.sign with hs | ⟨s, hs, hsign⟩
    · rw [hs] at hc
      cases hc
    · rw [hsign] at hc
      obtain rfl := List.mem_singleton.mp hc
      exact .inr (List.mem_append_left [',', '.'] hs)
  · rcases List.mem_append.mp hc with hc | hc
    · exact .inl (h.digits c hc)
    · rcases List.mem_append.mp hc with hc | hc
      · obtain ⟨g, hg, hc⟩ := List.mem_flatMap.mp hc
        rcases List.mem_cons.mp hc with rfl | hc
        · exact .inr (by simp)
        · exact .inl ((h.groups g hg).1 c hc)
      · unfold fractionText at hc
        split at hc
        · cases hc
        · rcases List.mem_cons.mp hc with rfl | hc
          · exact .inr (by simp)
          · exact .inl (h.fraction c hc)

theorem text_space {n : Numeral} (h : n.Valid lib) : ∀ c ∈ n.text, isSpace c = false := by
  intro c hc
  rcases text_chars h c hc with hdigit | hmark
  · exact laws.space_not_word (laws.digit_word c hdigit)
  · exact mark_space hmark

/-- A number has no currencies. -/
theorem text_currencyFree {n : Numeral} (h : n.Valid lib) : CurrencyFree lib n.text := by
  intro run hrun hcurrency
  obtain ⟨hne, hletters⟩ := laws.currency_letters hcurrency
  obtain ⟨c, rest, rfl⟩ := List.exists_cons_of_ne_nil hne
  obtain ⟨hword, hmem⟩ := mem_splitOnP hrun c List.mem_cons_self
  obtain ⟨hisWord, hnotDigit⟩ := hletters c List.mem_cons_self
  rcases text_chars h c hmem with hdigit | hmark
  · rw [hnotDigit] at hdigit
    cases hdigit
  · rw [laws.mark_word c hmark] at hisWord
    cases hisWord

/-- A word is rewritten to a word. -/
theorem rewriteNumbers_word {word : Text} (hne : word ≠ []) (hspace : ∀ c ∈ word, isSpace c = false) :
    rewriteNumbers lib word ≠ [] ∧ ∀ c ∈ rewriteNumbers lib word, isSpace c = false := by
  obtain ⟨tokens, rfl, hreading, hrewrite⟩ := laws.reading _ [] word (Nat.le_refl _)
  rw [rewriteNumbers_eq, hrewrite]
  have hvalid := fun n hn => laws.rewritten_valid (hreading.valid (n := n) hn)
  constructor
  · cases tokens with
    | nil => exact absurd rfl hne
    | cons token tokens =>
      cases token with
      | plain c => exact List.cons_ne_nil _ _
      | number n =>
        exact fun hnil => (hvalid n List.mem_cons_self).text_ne (List.append_eq_nil_iff.mp hnil).1
  · intro c hc
    obtain ⟨token, htoken, hc⟩ := List.mem_flatMap.mp hc
    obtain ⟨old, hold, rfl⟩ := List.mem_map.mp htoken
    cases old with
    | plain x => exact hspace c (List.mem_flatMap.mpr ⟨.plain x, hold, hc⟩)
    | number n => exact laws.text_space (hvalid n hold) c hc

theorem words_rewriteNumbers (text : Text) :
    splitWords (rewriteNumbers lib text) = (splitWords text).map (rewriteNumbers lib) := by
  have hparts : splitWords (rewriteNumbers lib text) =
      (splitWords text).flatMap fun word => splitWords (rewriteNumbers lib word) :=
    partsBy_map (congrArg splitWords (rewriteNumbers_eq [])) (fun a c b hc => laws.rewriteNumbers_space hc a b)
      text
  rw [hparts, List.map_eq_flatMap]
  refine congrArg List.flatten (List.map_congr_left fun word hword => ?_)
  obtain ⟨hne, hspace⟩ := areWords_words text word hword
  obtain ⟨hne', hspace'⟩ := laws.rewriteNumbers_word hne hspace
  exact words_word hne' hspace'

theorem rewriteNumbers_unwords (parts : List Text) :
    rewriteNumbers lib (unwords parts) = unwords (parts.map (rewriteNumbers lib)) := by
  unfold unwords
  induction parts with
  | nil => rfl
  | cons part parts ih =>
    cases parts with
    | nil => rw [List.intercalate_singleton, List.map_singleton, List.intercalate_singleton]
    | cons next parts =>
      rw [List.map_cons] at ih
      rw [List.map_cons, List.map_cons]
      rw [List.intercalate_cons_cons, List.intercalate_cons_cons, List.append_assoc, List.append_assoc,
        List.singleton_append, List.singleton_append, laws.rewriteNumbers_space rfl, ih]

/-! ## Words that are spelled, rewritten -/

/-- What stands between numbers keeps a text free of currencies. -/
theorem currencyFree_tokens {tokens : List Token} : ∀ {opens : Bool} {run : Text},
    Reading lib opens tokens → (∀ c ∈ run, lib.isWord c = true) → (opens = true → run = []) →
    CurrencyFree lib (run ++ tokensText tokens) →
    CurrencyFree lib (run ++ tokensText (tokens.map (Token.rewritten lib))) := by
  induction tokens with
  | nil => exact fun _ _ _ hfree => hfree
  | cons token tokens ih =>
    intro opens run hreading hrun hopens hfree
    cases token with
    | plain c =>
      obtain ⟨_, hreading⟩ := hreading
      have hfree : CurrencyFree lib (run ++ c :: tokensText tokens) := hfree
      show CurrencyFree lib (run ++ c :: tokensText (tokens.map (Token.rewritten lib)))
      cases hc : lib.isWord c with
      | true =>
        have hopens : opensNumber lib (some c) = false := by
          show (!(lib.isWord c || _)) = false
          rw [hc]
          rfl
        rw [List.append_cons] at hfree ⊢
        refine ih hreading (fun x hx => ?_) (fun h => absurd (hopens.symm.trans h) Bool.false_ne_true) hfree
        rcases List.mem_append.mp hx with hx | hx
        · exact hrun x hx
        · rw [List.mem_singleton.mp hx]
          exact hc
      | false =>
        rw [currencyFree_append hc] at hfree ⊢
        exact ⟨hfree.1, @ih _ [] hreading (fun _ hx => absurd hx List.not_mem_nil)
          (fun _ => rfl) hfree.2⟩
    | number n =>
      obtain ⟨hopen, hn, hreading⟩ := hreading
      obtain rfl := hopens hopen
      have hvalid := laws.rewritten_valid hn.valid
      -- what follows a number does not go on with its last digits
      have hcut : ∀ {m : Numeral} {rest : Text}, m.Valid lib → closesNumber lib rest.head? = true →
          (CurrencyFree lib (m.text ++ rest) ↔ CurrencyFree lib rest) := by
        intro m rest hm hcloses
        cases rest with
        | nil =>
          rw [List.append_nil]
          exact iff_of_true (laws.text_currencyFree hm) currencyFree_nil
        | cons c rest =>
          have hc : (!(lib.isWord c || decide (c = '.'))) = true := hcloses
          rw [Bool.not_eq_true', Bool.or_eq_false_iff] at hc
          have hrest : CurrencyFree lib (c :: rest) ↔ CurrencyFree lib [] ∧ CurrencyFree lib rest :=
            currencyFree_append (a := []) hc.1
          rw [currencyFree_append hc.1, hrest]
          exact ⟨fun h => ⟨currencyFree_nil, h.2⟩, fun h => ⟨laws.text_currencyFree hm, h.2⟩⟩
      have hcloses : closesNumber lib
          (tokensText (tokens.map (Token.rewritten lib))).head? = true := by
        rw [reading_head hreading]
        exact hn.closes
      have hrest := (hcut hn.valid hn.closes).mp hfree
      exact (hcut hvalid hcloses).mpr (@ih _ [] hreading
        (fun _ hx => absurd hx List.not_mem_nil) (fun _ => rfl) hrest)

/-- A text without digits has no numbers. -/
theorem rewriteNumbers_letters {text : Text} (h : ∀ c ∈ text, lib.isDecimal c = false) :
    rewriteNumbers lib text = text := by
  obtain ⟨tokens, rfl, hreading, hrewrite⟩ := laws.reading _ [] text (Nat.le_refl _)
  rw [rewriteNumbers_eq, hrewrite]
  have hplain : tokens.map (Token.rewritten lib) = tokens := by
    refine (List.map_congr_left fun token htoken => ?_).trans (List.map_id' tokens)
    cases token with
    | plain c => rfl
    | number n =>
      obtain ⟨a, c, htext, hc⟩ := (hreading.valid htoken).last_digit
      rw [h c (List.mem_flatMap.mpr ⟨_, htoken, by rw [Token.text, htext]; simp⟩)] at hc
      cases hc
  rw [hplain]

theorem spelled_rewriteNumbers {word : Text} (h : Spelled lib word) :
    Spelled lib (rewriteNumbers lib word) := by
  rcases h with rfl | hfree
  · rw [laws.rewriteNumbers_letters fun c hc =>
      ((laws.currency_letters (w := "yuan".toList) (by decide)).2 c hc).2]
    exact .inl rfl
  · obtain ⟨tokens, rfl, hreading, hrewrite⟩ := laws.reading _ [] word (Nat.le_refl _)
    rw [rewriteNumbers_eq, hrewrite]
    have hnone : ∀ c ∈ ([] : Text), lib.isWord c = true := fun _ hx => absurd hx List.not_mem_nil
    exact .inr (laws.currencyFree_tokens hreading hnone (fun _ => rfl) hfree)

/-- Spelling the currencies of spelled words gives the same words. -/
theorem words_spellCurrency {text : Text} (h : ∀ word ∈ splitWords text, Spelled lib word) :
    splitWords (spellCurrency lib (strip text)) = splitWords text := by
  have hparts : splitWords (spellCurrency lib (strip text)) =
      (splitWords (strip text)).flatMap fun word => splitWords (spellCurrency lib word) :=
    partsBy_map (congrArg splitWords (laws.spellCurrency_free currencyFree_nil))
      (fun a c b hc => laws.spellCurrency_apart (laws.space_word c hc) a b) _
  rw [hparts, words_strip]
  refine Eq.trans (congrArg List.flatten (List.map_congr_left fun word hword => ?_))
    (List.flatMap_singleton' (splitWords text))
  obtain ⟨hne, hspace⟩ := areWords_words _ word hword
  exact laws.words_spelled (h word hword) hne hspace

/-! ## Canonical texts -/

/-- The canonical text, and what canonicalizing it again does. -/
theorem canonical_canonical (text : Text) : ∃ prepared : Text,
    canonical lib text = rewriteNumbers lib prepared ∧
      canonical lib (canonical lib text) = rewriteNumbers lib (canonical lib text) := by
  let spelled := spellCurrency lib (strip text)
  have hspelled : ∀ word ∈ splitWords spelled, Spelled lib word :=
    laws.spelled_words (strip text) [] (.inl rfl) (fun _ hc => absurd hc List.not_mem_nil)
      currencyFree_nil
  have htext : canonical lib text = unwords ((splitWords spelled).map (rewriteNumbers lib)) := by
    rw [canonical_eq, laws.words_rewriteNumbers]
  have hwords : splitWords (canonical lib text) = (splitWords spelled).map (rewriteNumbers lib) := by
    rw [canonical_eq, words_unwords (areWords_words _), laws.words_rewriteNumbers]
  have hagain : splitWords (spellCurrency lib (strip (canonical lib text))) =
      splitWords (canonical lib text) := by
    refine laws.words_spellCurrency fun word hword => ?_
    rw [hwords] at hword
    obtain ⟨old, hold, rfl⟩ := List.mem_map.mp hword
    exact laws.spelled_rewriteNumbers (hspelled old hold)
  refine ⟨unwords (splitWords spelled), by rw [laws.rewriteNumbers_unwords, htext], ?_⟩
  have hunwords : unwords (splitWords (canonical lib text)) = canonical lib text := by
    rw [hwords, ← htext]
  rw [canonical_eq (canonical lib text), laws.words_rewriteNumbers, hagain,
    ← laws.rewriteNumbers_unwords, hunwords]

/-- The canonical text of a number. -/
theorem canonical_number {n : Numeral} (h : n.Valid lib) :
    canonical lib n.text = decimalText lib n.text := by
  have hspace := laws.text_space h
  have hstrip : strip n.text = n.text :=
    TaskState.strip_eq_self (fun c hc => hspace c (List.mem_of_head? hc))
      fun c hc => hspace c (List.mem_of_getLast? hc)
  have hrewrite : rewriteNumbers lib n.text = decimalText lib n.text := by
    have hheads : n.Heads lib n.text [] := ⟨h, (List.append_nil _).symm, rfl⟩
    rw [rewriteNumbers_eq]
    cases hmatch : (number lib).matchAt [] n.text with
    | none => exact absurd hheads (laws.matchAt_none.mp hmatch rfl n [])
    | some d =>
      obtain ⟨_, m, hm, hgoes, hlongest⟩ := laws.matchAt_some hmatch
      have hlength := congrArg List.length hm.text
      have hle := hlongest n [] hheads
      rw [List.length_append] at hlength
      have hend : d.after = [] := List.eq_nil_of_length_eq_zero (by omega)
      have htext := hm.text
      rw [hend, List.append_nil] at htext
      rw [rewriteFrom_match hmatch, hgoes.toTook.upto_eq, hend, ← htext]
      exact List.append_nil _
  have hword : ∀ c ∈ decimalText lib n.text, isSpace c = false := by
    rw [← laws.rewritten_text h]
    exact laws.text_space (laws.rewritten_valid h)
  have hne : decimalText lib n.text ≠ [] := by
    rw [← laws.rewritten_text h]
    exact (laws.rewritten_valid h).text_ne
  rw [canonical_eq, hstrip, laws.spellCurrency_free (laws.text_currencyFree h), hrewrite,
    words_word hne hword, unwords, List.intercalate_singleton]

end NumberLaws

end

/-- **Canonical numbers and canonical texts.** Of two numbers that are no codes, the canonical texts
are the same exactly if the values are. A canonical text is left as it is exactly if no number in it,
codes apart, has a separator: a comma between two numbers can become one. -/
theorem canonical_laws (laws : NumberLaws lib) :
    (∀ s t : Text, ((number lib).fullMatch s).isSome = true → ((number lib).fullMatch t).isSome = true →
      zeroPadded lib s = false → zeroPadded lib t = false →
      (canonical lib s = canonical lib t ↔ numberValue lib s = numberValue lib t)) ∧
    ∀ text : Text, canonical lib (canonical lib text) = canonical lib text ↔
      ∀ m ∈ (number lib).findAll (canonical lib text), zeroPadded lib m.text = true ∨ ',' ∉ m.text := by
  constructor
  · intro s t hs ht hsp htp
    obtain ⟨m, hm, rfl⟩ := fullMatch_number.mp hs
    obtain ⟨n, hn, rfl⟩ := fullMatch_number.mp ht
    rw [laws.canonical_number hm, laws.canonical_number hn]
    exact laws.decimalText_eq_iff hm hn hsp htp
  · intro text
    obtain ⟨prepared, htext, hagain⟩ := laws.canonical_canonical text
    rw [hagain, htext]
    exact laws.rewriteNumbers_twice prepared

namespace Sample

theorem answerLibrary_numbers : NumberLaws answerLibrary.toCharacterLibrary where
  digit_word c hc := by
    have hdigit : c.isDigit = true := hc
    show (c.isAlphanum || c = '_' || isCjk c) = true
    rw [Char.isAlphanum, hdigit, Bool.or_true, Bool.true_or, Bool.true_or]
  digit_lt c hc := by
    have hdigit : ((c.val ≥ '0'.val && c.val ≤ '9'.val) : Bool) = true := hc
    have hle : c.toNat ≤ '9'.toNat := of_decide_eq_true (Bool.and_eq_true_iff.mp hdigit).2
    have h9 : '9'.toNat = 57 := rfl
    have h0 : '0'.toNat = 48 := rfl
    show c.toNat - '0'.toNat < 10
    omega
  ascii_digit d hd := by
    have hall : ∀ d < 10, (Char.ofNat (48 + d)).isDigit = true ∧
        (Char.ofNat (48 + d)).toNat - '0'.toNat = d := by decide
    exact hall d hd
  letter_word c hc := by
    show (c.isAlphanum || c = '_' || isCjk c) = true
    rw [Char.isAlphanum, hc, Bool.true_or, Bool.true_or, Bool.true_or]
  letter_digit c hc := by
    have hletter : (decide (c.val ≥ 'A'.val ∧ c.val ≤ 'Z'.val) ||
        ((c.val ≥ 'a'.val && c.val ≤ 'z'.val) : Bool)) = true := hc
    show ((c.val ≥ '0'.val && c.val ≤ '9'.val) : Bool) = false
    simp only [Bool.or_eq_true, Bool.and_eq_true, decide_eq_true_eq] at hletter
    simp only [Bool.and_eq_false_iff, decide_eq_false_iff_not]
    refine .inr fun hle => ?_
    have hle : c.toNat ≤ 57 := hle
    rcases hletter with hletter | hletter
    · have hge : 65 ≤ c.toNat := hletter.1
      omega
    · have hge : 97 ≤ c.toNat := hletter.1
      omega
  mark_word c hc := by
    have hall : ['+', '-', ',', '.'].all (fun c => !answerLibrary.isWord c) = true := rfl
    exact (Bool.not_eq_true' _).mp (List.all_eq_true.mp hall c hc)
  space_word c hc := by
    show (TaskState.isAsciiWord c || isCjk c) = false
    rw [Bool.or_eq_false_iff]
    constructor
    · rw [← Bool.not_eq_true]
      intro hword
      rw [TaskState.isSpace_of_isAsciiWord hword] at hc
      cases hc
    · rw [← Bool.not_eq_true]
      intro hcjk
      simp only [isCjk, Bool.and_eq_true, decide_eq_true_eq] at hcjk
      simp only [isSpace, Bool.or_eq_true, Bool.and_eq_true, decide_eq_true_eq] at hc
      omega

end Sample

/-- A comma between two numbers becomes a separator. -/
theorem canonical_again :
    canonical Sample.answerLibrary.toCharacterLibrary "1.0,567".toList = "1,567".toList ∧
      canonical Sample.answerLibrary.toCharacterLibrary
          (canonical Sample.answerLibrary.toCharacterLibrary "1.0,567".toList) ≠
        canonical Sample.answerLibrary.toCharacterLibrary "1.0,567".toList := by
  decide +kernel

theorem canonical_amounts :
    canonical Sample.answerLibrary.toCharacterLibrary "+1,234.50".toList =
        canonical Sample.answerLibrary.toCharacterLibrary "1234.5".toList ∧
      canonical Sample.answerLibrary.toCharacterLibrary
          (canonical Sample.answerLibrary.toCharacterLibrary "CNY 1,234.50".toList) =
        canonical Sample.answerLibrary.toCharacterLibrary "CNY 1,234.50".toList :=
  have laws := canonical_laws Sample.answerLibrary_numbers
  ⟨(laws.1 _ _ (by decide +kernel) (by decide +kernel) (by decide +kernel) (by decide +kernel)).mpr
      (by decide +kernel),
    (laws.2 _).mpr (by decide +kernel)⟩

end ProofAgent.Answers
