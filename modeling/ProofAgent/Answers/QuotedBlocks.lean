import ProofAgent.Answers.QuotedAnswer
import ProofAgent.Answers.StatementLines
import ProofAgent.Base.Fences
import ProofAgent.Base.RegexMatches

/-! # Quoted answers read back

An answer that passes quotes accepted chunks, and its rendering gives its quotes back: no claim and
no text has a run of backticks as long as the fences around it. -/
namespace ProofAgent.Answers

open Base Base.Regex Base.Fence
open TaskState (Text strip)

/-! ## Fences -/

/-- The lengths of the matches in what is after a place, at their most. -/
def longestFound (r : Regex) (fuel : Nat) (before after : Text) : Nat :=
  (((r.piecesFrom fuel before after).filterMap Piece.match?).map fun m => m.text.length).foldr max 0

/-- No run is longer than the matches of the expression. -/
theorem longestRun_le_found {mark : Char} : ∀ {fuel : Nat} {before after : Text},
    after.length ≤ fuel →
    longestRun mark after ≤ longestFound (plus (one mark)) fuel before after
  | fuel, before, [], _ => Nat.zero_le _
  | fuel + 1, before, c :: rest, h => by
    have hrest : rest.length ≤ fuel := Nat.le_of_succ_le_succ h
    have hlength := List.length_dropWhile_le (fun x => decide (x = mark)) rest
    by_cases hc : c = mark
    · have hp : decide (c = mark) = true := decide_eq_true hc
      have hmatch : (plus (one mark)).matchAt before (c :: rest) =
          some ⟨(rest.takeWhile (· = mark)).reverse ++ c :: before, rest.dropWhile (· = mark), none⟩ := by
        unfold matchAt
        rw [one, plus_char_head hp, Option.filter_some, if_pos]
        simp only [List.length_cons, decide_eq_true_eq]
        omega
      have htook : (Cursor.mk before (c :: rest) none).Took ⟨(rest.takeWhile (· = mark)).reverse ++
          c :: before, rest.dropWhile (· = mark), none⟩ (c :: rest.takeWhile (· = mark)) := by
        constructor
        · exact congrArg _ List.takeWhile_append_dropWhile.symm
        · rw [List.reverse_cons, List.append_assoc]
          rfl
      have hrun : runLength mark (c :: rest) = (c :: rest.takeWhile (· = mark)).length := by
        unfold runLength
        rw [List.takeWhile_cons_of_pos (p := fun x => decide (x = mark)) hp]
      rw [longestRun_first, List.dropWhile_cons_of_pos (p := fun x => decide (x = mark)) hp, hrun]
      unfold longestFound
      rw [piecesFrom_match hmatch, htook.upto_eq]
      exact max_le_max_left _ (longestRun_le_found (by omega))
    · have hmatch : (plus (one mark)).matchAt before (c :: rest) = none := by
        unfold matchAt
        rw [one, plus_char_fails (decide_eq_false hc)]
        rfl
      rw [longestRun_cons hc]
      unfold longestFound
      rw [piecesFrom_plain hmatch]
      exact longestRun_le_found hrest

theorem longestRun_lt_fence (text : Text) : longestRun backtick text < fenceLength text := by
  have hle : longestRun backtick text ≤ longestFound (plus (one backtick)) text.length [] text :=
    longestRun_le_found (Nat.le_refl _)
  have hticks : longestFound (plus (one backtick)) text.length [] text = longestTicks text := rfl
  unfold fenceLength
  omega

theorem longestRun_of_notMem {mark : Char} : ∀ {text : Text}, mark ∉ text → longestRun mark text = 0
  | [], _ => rfl
  | c :: rest, h => by
    obtain ⟨hc, hrest⟩ := not_or.mp (mt List.mem_cons.mpr h)
    rw [longestRun_cons (Ne.symm hc), longestRun_of_notMem hrest]

/-! ## Blocks -/

/-- What stands between the fences of a text. -/
def blockContent (text : Text) : Text := "text\n".toList ++ text ++ "\n".toList

theorem literalBlock_eq (text : Text) :
    literalBlock text = fenced backtick (fenceLength text) (blockContent text) := by
  unfold literalBlock fenced blockContent
  simp only [List.append_assoc]
  rfl

theorem blockContent_contained (text : Text) :
    Contained backtick (fenceLength text) (blockContent text) := by
  have hruns := longestRun_lt_fence text
  have hsplit : blockContent text = "text".toList ++ '\n' :: (text ++ '\n' :: []) := by
    unfold blockContent
    rw [List.append_assoc]
    rfl
  refine ⟨?_, ?_, nofun, ?_⟩
  · intro c hc
    obtain rfl := Option.some.inj hc
    decide
  · intro c hc
    rw [blockContent, show "\n".toList = ['\n'] from rfl, List.getLast?_concat] at hc
    obtain rfl := Option.some.inj hc
    decide
  · rw [hsplit, longestRun_append (by decide), longestRun_append (by decide),
      longestRun_of_notMem (show backtick ∉ "text".toList by decide), Nat.zero_max]
    exact max_lt hruns (lt_of_le_of_lt (Nat.zero_le _) hruns)

theorem contained_reverse {content : Text} {n : Nat} (h : Contained backtick n content) :
    Contained backtick n content.reverse := by
  refine ⟨fun c hc => h.endsPlain c ?_, fun c hc => h.startsPlain c ?_, ?_, ?_⟩
  · rwa [List.head?_reverse] at hc
  · rwa [List.getLast?_reverse] at hc
  · rw [Ne, List.reverse_eq_nil_iff]
    exact h.ne_nil
  · rw [longestRun_reverse]
    exact h.runs

theorem fenced_reverse (mark : Char) (n : Nat) (content : Text) :
    (fenced mark n content).reverse = fenced mark n content.reverse := by
  unfold fenced
  rw [List.reverse_append, List.reverse_append, List.reverse_replicate, List.append_assoc]

/-- What stands before the claim with a number. -/
def claimGap (number : Nat) : Text :=
  "\n\n\n原文 ".toList ++ Nat.toDigits 10 number ++ "：\n\n对应结论：\n\n".toList

/-- The blocks of a quote, with what stands before them. -/
def quoteFrames (q : Quote) (number : Nat) : List Framed :=
  [⟨claimGap number, fenceLength q.claim, blockContent q.claim⟩,
    ⟨"\n\n".toList, fenceLength q.text, blockContent q.text⟩]

theorem claimGap_plain (number : Nat) : backtick ∉ claimGap number := by
  unfold claimGap
  rw [List.mem_append, List.mem_append]
  rintro ((h | h) | h)
  · revert h
    decide
  · have hdigit := toDigits_digit h
    revert hdigit
    decide
  · revert h
    decide

theorem startsPlain_of_notMem {mark : Char} {text : Text} (h : mark ∉ text) :
    StartsPlain mark text :=
  fun _ hc heq => h (heq ▸ List.mem_of_mem_head? hc)

theorem endsPlain_of_notMem {mark : Char} {text : Text} (h : mark ∉ text) : EndsPlain mark text :=
  fun _ hc heq => h (heq ▸ List.mem_of_getLast? hc)

theorem three_le_fence (text : Text) : 3 ≤ fenceLength text := Nat.le_max_left ..

theorem quoteFrames_valid (q : Quote) (number : Nat) :
    ∀ f ∈ quoteFrames q number, f.Valid backtick 3 := by
  have hvalid : ∀ (gap text : Text), gap ≠ [] → backtick ∉ gap →
      (Framed.mk gap (fenceLength text) (blockContent text)).Valid backtick 3 := by
    intro gap text hne hplain
    refine ⟨hne, startsPlain_of_notMem hplain, endsPlain_of_notMem hplain, ?_, three_le_fence text,
      blockContent_contained text⟩
    show longestRun backtick gap < 3
    rw [longestRun_of_notMem hplain]
    decide
  intro f hf
  simp only [quoteFrames, List.mem_cons, List.not_mem_nil, or_false] at hf
  rcases hf with rfl | rfl
  · exact hvalid _ _ nofun (claimGap_plain number)
  · exact hvalid _ _ (by decide) (by decide)

/-! ## The section of the quotes -/

/-- The part of a rendered answer after its message and its heading. -/
def quoteSection (quotes : List Quote) : Text :=
  ((quotes.zipIdx 1).flatMap fun p => quoteFrames p.1 p.2).flatMap (Framed.text backtick)

theorem joinWith_cons (separator : String) (part : Text) (rest : List Text) :
    joinWith separator (part :: rest) = part ++ rest.flatMap (separator.toList ++ ·) := by
  induction rest generalizing part with
  | nil => rw [joinWith_singleton, List.flatMap_nil, List.append_nil]
  | cons next rest ih =>
    rw [joinWith_cons₂, ih, List.flatMap_cons, List.append_assoc, List.append_assoc]

theorem quoteParts_text (q : Quote) (number : Nat) :
    (quoteParts q number).flatMap ("\n\n".toList ++ ·) =
      (quoteFrames q number).flatMap (Framed.text backtick) := by
  have hnumber : "\n\n\n原文 ".toList = "\n\n".toList ++ "\n原文 ".toList := by decide
  have hlabel : "：\n\n对应结论：\n\n".toList =
      "：".toList ++ ("\n\n".toList ++ "对应结论：\n\n".toList) := by decide
  unfold quoteParts quoteFrames
  rw [literalBlock_eq, literalBlock_eq, List.flatMap_cons, List.flatMap_cons, List.flatMap_cons,
    List.flatMap_nil, List.flatMap_cons, List.flatMap_cons, List.flatMap_nil]
  unfold Framed.text claimGap
  rw [hnumber, hlabel]
  simp only [List.append_assoc, List.append_nil]

/-- What stands before the section of the quotes. -/
def renderedBody (message : Text) (quotes : List Quote) : Text :=
  strip (anchoredMessage message quotes) ++ ("\n\n".toList ++ "\n**引用原文**".toList)

theorem renderQuotedAnswer_eq (message : Text) (quotes : List Quote) :
    renderQuotedAnswer message quotes = renderedBody message quotes ++ quoteSection quotes := by
  have hparts : ((quotes.zipIdx 1).flatMap fun p => quoteParts p.1 p.2).flatMap
      ("\n\n".toList ++ ·) = quoteSection quotes := by
    unfold quoteSection
    rw [List.flatMap_assoc, List.flatMap_assoc]
    exact congrArg List.flatten (List.map_congr_left fun p _ => quoteParts_text p.1 p.2)
  unfold renderQuotedAnswer renderedBody
  simp only [List.cons_append, List.nil_append, joinWith_cons, List.flatMap_cons, hparts,
    List.append_assoc]

theorem quoteSection_concat (quotes : List Quote) (q : Quote) :
    quoteSection (quotes ++ [q]) = quoteSection quotes ++
      (claimGap (quotes.length + 1) ++ fenced backtick (fenceLength q.claim) (blockContent q.claim) ++
        ("\n\n".toList ++ fenced backtick (fenceLength q.text) (blockContent q.text))) := by
  unfold quoteSection
  rw [List.zipIdx_append, List.flatMap_append, List.flatMap_append, Nat.add_comm]
  congr 1
  simp only [List.zipIdx_cons, List.zipIdx_nil, List.flatMap_cons, List.flatMap_nil, List.append_nil,
    quoteFrames, Framed.text]

/-! ## Reading from the end -/

/-- The text of a block. -/
def unlabel (content : Text) : Text := (content.drop 5).dropLast

theorem unlabel_blockContent (text : Text) : unlabel (blockContent text) = text := by
  have hdrop : (blockContent text).drop 5 = text ++ ['\n'] := rfl
  rw [unlabel, hdrop, List.dropLast_concat]

/-- The claims and texts of the quotes that a reversed text starts with: the two last blocks are
those of a quote, and the quote with the number one is the first. -/
def recoverFrom : Nat → Text → Option (List (Text × Text))
  | 0, _ => none
  | fuel + 1, reversed =>
    (readBlock backtick 3 reversed).bind fun text =>
      (readBlock backtick 3 text.2).bind fun claim =>
        let quote := (unlabel claim.1.reverse, unlabel text.1.reverse)
        if (claimGap 1).reverse.isPrefixOf claim.2 then some [quote]
        else (recoverFrom fuel claim.2).map (· ++ [quote])

/-- The claims and texts that a rendered answer shows. -/
def recoverQuotes (rendered : Text) : Option (List (Text × Text)) :=
  recoverFrom rendered.length rendered.reverse

/-- The number one stands before the first claim only. -/
theorem claimGap_first {number : Nat} {rest : Text}
    (h : (claimGap 1).reverse <+: (claimGap number).reverse ++ rest) : number = 1 := by
  unfold claimGap at h
  simp only [List.reverse_append, List.append_assoc] at h
  rw [List.prefix_append_right_inj] at h
  have hone : (Nat.toDigits 10 1).reverse = ['1'] := by decide
  have hspace : ∃ before, ("\n\n\n原文 ".toList).reverse = ' ' :: before := ⟨_, rfl⟩
  obtain ⟨before, hbefore⟩ := hspace
  rw [hone, hbefore] at h
  cases hdigits : (Nat.toDigits 10 number).reverse with
  | nil =>
    rw [hdigits] at h
    obtain ⟨hfirst, _⟩ := List.cons_prefix_cons.mp h
    exact absurd hfirst (by decide)
  | cons d others =>
    rw [hdigits, List.cons_append, List.cons_append] at h
    obtain ⟨rfl, htail⟩ := List.cons_prefix_cons.mp h
    cases others with
    | nil =>
      refine toDigits_inj (List.reverse_injective ?_)
      rw [hdigits, hone]
    | cons e others =>
      obtain ⟨rfl, _⟩ := List.cons_prefix_cons.mp htail
      have hmem : ' ' ∈ Nat.toDigits 10 number := by
        rw [← List.mem_reverse, hdigits]
        exact List.mem_cons_of_mem _ (List.mem_cons_self ..)
      exact absurd (toDigits_digit hmem) (by decide)

theorem notMem_reverse {mark : Char} {text : Text} (h : mark ∉ text) : mark ∉ text.reverse :=
  fun hmem => h (List.mem_reverse.mp hmem)

/-- A block of a reversed text, after what is plain. -/
theorem readBlock_reverse {gap after : Text} (text : Text) (hgap : backtick ∉ gap)
    (hafter : StartsPlain backtick after) :
    readBlock backtick 3 (gap ++ ((fenced backtick (fenceLength text) (blockContent text)).reverse ++
      after)) = some ((blockContent text).reverse, after) := by
  rw [fenced_reverse]
  refine readBlock_fenced (by decide) (three_le_fence text) ?_ (endsPlain_of_notMem hgap)
    (contained_reverse (blockContent_contained text)) hafter
  rw [longestRun_of_notMem hgap]
  decide

theorem recoverFrom_section (body : Text) (quotes : List Quote) :
    ∀ (gap : Text) (fuel : Nat), quotes ≠ [] → quotes.length ≤ fuel → backtick ∉ gap →
      recoverFrom fuel (gap ++ (body ++ quoteSection quotes).reverse) =
        some (quotes.map fun q => (q.claim, q.text)) := by
  induction quotes using List.reverseRecOn with
  | nil => exact fun _ _ hne => absurd rfl hne
  | append_singleton quotes q ih =>
    intro gap fuel _ hfuel hgap
    rw [List.length_append, List.length_singleton] at hfuel
    obtain ⟨fuel, rfl⟩ : ∃ k, fuel = k + 1 := ⟨fuel - 1, by omega⟩
    have hreverse : (body ++ quoteSection (quotes ++ [q])).reverse =
        (fenced backtick (fenceLength q.text) (blockContent q.text)).reverse ++
          ("\n\n".toList.reverse ++
            ((fenced backtick (fenceLength q.claim) (blockContent q.claim)).reverse ++
              ((claimGap (quotes.length + 1)).reverse ++ (body ++ quoteSection quotes).reverse))) := by
      rw [quoteSection_concat]
      simp only [List.reverse_append, List.append_assoc]
    have hplain := notMem_reverse (claimGap_plain (quotes.length + 1))
    have hstart : StartsPlain backtick
        ((claimGap (quotes.length + 1)).reverse ++ (body ++ quoteSection quotes).reverse) := by
      intro c hc
      unfold claimGap at hc
      rw [List.reverse_append, List.append_assoc] at hc
      obtain rfl := Option.some.inj hc
      decide
    have hnewlines : StartsPlain backtick ("\n\n".toList.reverse ++
        ((fenced backtick (fenceLength q.claim) (blockContent q.claim)).reverse ++
          ((claimGap (quotes.length + 1)).reverse ++ (body ++ quoteSection quotes).reverse))) := by
      intro c hc
      obtain rfl := Option.some.inj hc
      decide
    unfold recoverFrom
    rw [hreverse, readBlock_reverse q.text hgap hnewlines, Option.bind_some,
      readBlock_reverse q.claim (by decide) hstart, Option.bind_some]
    dsimp only
    rw [List.reverse_reverse, List.reverse_reverse, unlabel_blockContent, unlabel_blockContent,
      List.map_append]
    by_cases hquotes : quotes = []
    · subst hquotes
      have hone : (claimGap 1).reverse.isPrefixOf
          ((claimGap (([] : List Quote).length + 1)).reverse ++ (body ++ quoteSection []).reverse) :=
        List.isPrefixOf_iff_prefix.mpr (List.prefix_append ..)
      rw [if_pos hone]
      rfl
    · have hnumber : ¬ (claimGap 1).reverse.isPrefixOf
          ((claimGap (quotes.length + 1)).reverse ++ (body ++ quoteSection quotes).reverse) := by
        intro hprefix
        have hone := claimGap_first (List.isPrefixOf_iff_prefix.mp hprefix)
        have hpos := List.length_pos_of_ne_nil hquotes
        omega
      rw [if_neg hnumber, ih _ fuel hquotes (by omega) hplain]
      rfl

theorem length_le_quoteSection (quotes : List Quote) : quotes.length ≤ (quoteSection quotes).length := by
  induction quotes using List.reverseRecOn with
  | nil => exact Nat.le_refl _
  | append_singleton quotes q ih =>
    have hgap : 0 < (claimGap (quotes.length + 1)).length := Nat.succ_pos _
    rw [quoteSection_concat, List.length_append, List.length_append, List.length_append,
      List.length_append, List.length_singleton]
    omega

/-- **A rendered answer shows its quotes.** -/
theorem recoverQuotes_render {quotes : List Quote} (message : Text) (h : quotes ≠ []) :
    recoverQuotes (renderQuotedAnswer message quotes) =
      some (quotes.map fun q => (q.claim, q.text)) := by
  have hlength := length_le_quoteSection quotes
  unfold recoverQuotes
  rw [renderQuotedAnswer_eq]
  refine recoverFrom_section _ quotes [] _ h ?_ List.not_mem_nil
  rw [List.length_append]
  omega

/-- The blocks of the section of the quotes are not closed within them. -/
theorem blocks_quoteSection (quotes : List Quote) : blocks backtick 3 (quoteSection quotes) =
    quotes.flatMap fun q => [blockContent q.claim, blockContent q.text] := by
  have hvalid : ∀ f ∈ (quotes.zipIdx 1).flatMap (fun p => quoteFrames p.1 p.2),
      f.Valid backtick 3 := by
    intro f hf
    obtain ⟨p, _, hf⟩ := List.mem_flatMap.mp hf
    exact quoteFrames_valid p.1 p.2 f hf
  have hfirst : quotes = (quotes.zipIdx 1).map Prod.fst := (List.zipIdx_map_fst ..).symm
  unfold quoteSection
  rw [blocks_flatMap (by decide) hvalid, List.map_flatMap]
  conv_rhs => rw [hfirst, List.flatMap_map]
  rfl

/-! ## What passes -/

/-- An output whose quotes and coverage are all well formed. -/
structure QuotedOutput where
  message : Text
  citations : List String
  quotes : List Quote
  coverage : List CoverageRow

def readQuotedOutput (output : Json) : Option QuotedOutput := do
  let (message, citations) ← readMessage output
  let quotes ← (← quoteItems output).mapM readQuote
  let coverage ← (← output.readField (Json.asList some) "coverage").mapM readCoverageRow
  return { message, citations, quotes, coverage }

/-- A quote of an accepted chunk with its citation, up to white space. -/
structure QuoteBound (evidence : List EvidenceChunk) (citations : List String) (q : Quote) : Prop where
  cited : q.citation ∈ citations
  inChunk : ∃ chunk ∈ acceptedEvidence evidence, chunk.citation = some q.citation ∧
    collapse q.text <:+: collapse chunk.content.toList

section
variable {lib : AnswerLibrary} {evidence : List EvidenceChunk} {citations : List String}

theorem mem_quoteSources {citation : String} {source : Text}
    (h : source ∈ quoteSources evidence citation) : ∃ chunk ∈ acceptedEvidence evidence,
      chunk.citation = some citation ∧ source = collapse chunk.content.toList := by
  obtain ⟨chunk, hchunk, rfl⟩ := List.mem_map.mp h
  obtain ⟨hchunk, hcitation⟩ := List.mem_filter.mp hchunk
  exact ⟨chunk, hchunk, (of_decide_eq_true hcitation).1, rfl⟩

theorem quoteErrors_nil {q : Quote} (h : quoteErrors lib citations evidence q = .ok []) :
    QuoteBound evidence citations q := by
  unfold quoteErrors at h
  dsimp only at h
  split at h
  · have hnil := pure_ok h
    exact absurd (List.append_eq_nil_iff.mp hnil).2 nofun
  · rename_i hcited
    split at h
    · have hnil := pure_ok h
      exact absurd (List.append_eq_nil_iff.mp hnil).2 nofun
    · rename_i hsource
      obtain ⟨source, hsource, hinfix⟩ := not_not.mp hsource
      obtain ⟨chunk, hchunk, hcitation, rfl⟩ := mem_quoteSources hsource
      exact ⟨not_not.mp (not_or.mp hcited).1, chunk, hchunk, hcitation, hinfix⟩

theorem itemErrors_nil {item : Json} (h : itemErrors lib citations evidence item = .ok []) :
    ∃ q, readQuote item = some q ∧ QuoteBound evidence citations q := by
  unfold itemErrors at h
  split at h
  · cases h
  · rename_i q hq
    exact ⟨q, hq, quoteErrors_nil h⟩

/-- What is read of every item is read of the list. -/
theorem mapM_filterMap {α β : Type} {f : α → Option β} : ∀ {items : List α},
    (∀ a ∈ items, ∃ b, f a = some b) → items.mapM f = some (items.filterMap f)
  | [], _ => rfl
  | a :: rest, h => by
    obtain ⟨⟨b, hb⟩, hrest⟩ := List.forall_mem_cons.mp h
    rw [List.mapM_cons, List.filterMap_cons, hb, mapM_filterMap hrest]
    rfl

theorem uniqueBy_eq_nil {errors : List String} (h : uniqueBy id errors = []) : errors = [] := by
  cases errors with
  | nil => rfl
  | cons e rest => cases h

theorem citationErrors_nil {quotes : List Quote} (h : citationErrors citations evidence quotes = []) :
    citations.Nodup ∧ ∀ c ∈ citations, ∃ chunk ∈ acceptedEvidence evidence,
      chunk.citation = some c := by
  unfold citationErrors at h
  split at h
  · cases h
  · rename_i hnone
    obtain ⟨_, hnone⟩ := not_or.mp hnone
    obtain ⟨hsources, hnodup⟩ := not_or.mp hnone
    refine ⟨not_not.mp hnodup, fun c hc => ?_⟩
    have hne : quoteSources evidence c ≠ [] := fun hnil => hsources ⟨c, hc, hnil⟩
    obtain ⟨source, hsource⟩ := List.exists_mem_of_ne_nil _ hne
    obtain ⟨chunk, hchunk, hcitation, _⟩ := mem_quoteSources hsource
    exact ⟨chunk, hchunk, hcitation⟩

theorem coverageErrors_nil {expected : List String} {coverage : Option (List Json)}
    (h : coverageErrors expected coverage = []) : ∃ rows covered, coverage = some rows ∧
      rows.mapM readCoverageRow = some covered ∧
        (covered.map (·.requirementId)).Perm expected.dedup := by
  unfold coverageErrors at h
  split at h
  · cases h
  · rename_i rows
    split at h
    · cases h
    · obtain ⟨hinvalid, hids⟩ := List.append_eq_nil_iff.mp h
      have hrows : ∀ row ∈ rows, ∃ read, readCoverageRow row = some read := by
        intro row hrow
        have hread := List.filter_eq_nil_iff.mp (List.map_eq_nil_iff.mp hinvalid) row hrow
        exact Option.ne_none_iff_exists'.mp (mt Option.isNone_iff_eq_none.mpr hread)
      refine ⟨rows, _, rfl, mapM_filterMap hrows, ?_⟩
      split at hids
      · cases hids
      · rename_i hsame
        obtain ⟨hsubset, hnodup⟩ := not_or.mp hsame
        obtain ⟨hforth, hback⟩ := not_not.mp hsubset
        refine (List.perm_ext_iff_of_nodup (not_not.mp hnodup) (List.nodup_dedup _)).mpr fun i => ?_
        rw [List.mem_dedup]
        exact ⟨fun hi => hforth hi, fun hi => hback hi⟩

end

/-- **Quoted answers.** An answer that passes quotes accepted chunks under their citations and
covers each requirement once, and its rendering gives its claims and its texts back. -/
theorem quoted_answer_faithful (lib : AnswerLibrary) (output : Json)
    (evidence : List EvidenceChunk) (question : Text) (check : QuoteCheck)
    (h : validateQuotedAnswer lib output evidence question = .ok check)
    (hpassed : check.passed = true) :
    ∃ answer requirements, readQuotedOutput output = some answer ∧
      answerRequirements lib.sha256 question = .ok requirements ∧
      (∀ q ∈ answer.quotes, QuoteBound evidence answer.citations q) ∧
      (answer.citations.Nodup ∧ ∀ c ∈ answer.citations, ∃ chunk ∈ acceptedEvidence evidence,
        chunk.citation = some c) ∧
      (answer.coverage.map (·.requirementId)).Perm
        (requirements.map (·.requirementId)).dedup ∧
      (∃ body, renderQuotedAnswer answer.message answer.quotes = body ++ quoteSection answer.quotes) ∧
      blocks backtick 3 (quoteSection answer.quotes) =
        (answer.quotes.flatMap fun q => [blockContent q.claim, blockContent q.text]) ∧
      recoverQuotes (renderQuotedAnswer answer.message answer.quotes) =
        some (answer.quotes.map fun q => (q.claim, q.text)) := by
  unfold validateQuotedAnswer at h
  split at h
  · obtain rfl := Except.ok.inj h
    cases hpassed
  · obtain rfl := Except.ok.inj h
    cases hpassed
  · rename_i message citations items hmessage hitems
    split at h
    · cases h
    · cases h
    · rename_i errors requirements herrors hrequirements
      obtain rfl := Except.ok.inj h
      have hnil := uniqueBy_eq_nil (List.isEmpty_iff.mp hpassed)
      obtain ⟨hnil, hcoverage⟩ := List.append_eq_nil_iff.mp hnil
      obtain ⟨hnil, _⟩ := List.append_eq_nil_iff.mp hnil
      obtain ⟨hflat, hcitations⟩ := List.append_eq_nil_iff.mp hnil
      obtain ⟨rows, covered, hrows, hcovered, hperm⟩ := coverageErrors_nil hcoverage
      have hread : ∀ item ∈ items, ∃ q, readQuote item = some q ∧
          QuoteBound evidence citations q := by
        intro item hitem
        obtain ⟨found, hfound, hok⟩ := mapM_ok_of_mem herrors hitem
        rw [List.flatten_eq_nil_iff.mp hflat found hfound] at hok
        exact itemErrors_nil hok
      have hquotes := mapM_filterMap fun item hitem => (hread item hitem).imp fun _ hq => hq.1
      obtain ⟨_, hcount⟩ := Option.filter_eq_some_iff.mp hitems
      have hne : items.filterMap readQuote ≠ [] := by
        obtain ⟨item, hitem⟩ := List.exists_mem_of_length_pos (of_decide_eq_true hcount).1
        obtain ⟨q, hq, _⟩ := hread item hitem
        exact List.ne_nil_of_mem (List.mem_filterMap.mpr ⟨item, hitem, hq⟩)
      refine ⟨⟨message, citations, items.filterMap readQuote, covered⟩, requirements, ?_,
        hrequirements, ?_, citationErrors_nil hcitations, hperm, ⟨_, renderQuotedAnswer_eq ..⟩,
        blocks_quoteSection _, recoverQuotes_render _ hne⟩
      · unfold readQuotedOutput
        rw [hmessage, hitems, hrows]
        simp only [Option.bind_eq_bind, Option.bind_some, hquotes, hcovered]
        rfl
      · intro q hq
        obtain ⟨item, hitem, hitemRead⟩ := List.mem_filterMap.mp hq
        obtain ⟨q', hq', hbound⟩ := hread item hitem
        obtain rfl := Option.some.inj (hq'.symm.trans hitemRead)
        exact hbound

namespace Sample

def quotedOutput : Json :=
  .obj [("message", .str "b"), ("citations", .arr [.str "knowledge://guide#page=1"]),
    ("quotes", .arr [.obj [("claim", .str "b"), ("text", .str "a  b"),
      ("citation", .str "knowledge://guide#page=1")]]),
    ("coverage", .arr [.obj [("requirement_id", .str "ar_b"), ("status", .str "answered")]])]

theorem quotedOutput_checked : validateQuotedAnswer answerLibrary quotedOutput [guide "a b"]
    "b".toList = .ok { codes := [], checked := 1 } := by
  decide +kernel

end Sample

theorem quoted_answer_faithful_term : ∃ answer requirements,
    readQuotedOutput Sample.quotedOutput = some answer ∧
      answerRequirements id "b".toList = .ok requirements ∧
      recoverQuotes (renderQuotedAnswer answer.message answer.quotes) =
        some (answer.quotes.map fun q => (q.claim, q.text)) := by
  obtain ⟨answer, requirements, hread, hrequirements, _, _, _, _, _, hrecover⟩ :=
    quoted_answer_faithful Sample.answerLibrary Sample.quotedOutput [Sample.guide "a b"] "b".toList _
      Sample.quotedOutput_checked rfl
  exact ⟨answer, requirements, hread, hrequirements, hrecover⟩

end ProofAgent.Answers
