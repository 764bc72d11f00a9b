import ProofAgent.Answers.StatementLines

/-! # Lines

A text whose lines end with newlines is split into them, and no option for a repair has a newline
in it. -/
namespace ProofAgent.Answers

open Base Base.Regex
open TaskState (Text strip)

/-! ## Splitting into lines -/

/-- A text without the end of a line in it. -/
def OneLine (text : Text) : Prop := ∀ c ∈ text, isLineBreak c = false

theorem splitLines_plain {c : Char} {rest : Text} (h : isLineBreak c = false) :
    splitLines (c :: rest) = consHead c (splitLines rest) := by
  unfold splitLines
  rw [splitLinesFrom, if_neg (by simp), h, if_neg Bool.false_ne_true]

theorem splitLines_newline (rest : Text) : splitLines ('\n' :: rest) = [] :: splitLines rest := rfl

theorem splitLines_single : ∀ {line : Text}, line ≠ [] → OneLine line → splitLines line = [line]
  | [], hne, _ => absurd rfl hne
  | c :: rest, _, h => by
    obtain ⟨hc, hrest⟩ := List.forall_mem_cons.mp h
    rw [splitLines_plain hc]
    cases rest with
    | nil => rfl
    | cons d rest =>
      rw [splitLines_single (show d :: rest ≠ [] from nofun) hrest]
      rfl

theorem splitLines_cons_line (rest : Text) : ∀ {line : Text}, OneLine line →
    splitLines (line ++ '\n' :: rest) = line :: splitLines rest
  | [], _ => splitLines_newline rest
  | c :: line, h => by
    obtain ⟨hc, hline⟩ := List.forall_mem_cons.mp h
    rw [List.cons_append, splitLines_plain hc, splitLines_cons_line rest hline]
    rfl

/-- **The lines of joined lines** are those lines, if the last one is not empty. -/
theorem splitLines_join : ∀ {lines : List Text} {last : Text}, (∀ line ∈ lines, OneLine line) →
    OneLine last → last ≠ [] → splitLines (joinWith "\n" (lines ++ [last])) = lines ++ [last]
  | [], last, _, hlast, hne => by
    rw [List.nil_append, joinWith_singleton]
    exact splitLines_single hne hlast
  | line :: rest, last, h, hlast, hne => by
    obtain ⟨hline, hrest⟩ := List.forall_mem_cons.mp h
    have hjoin : joinWith "\n" (line :: rest ++ [last]) =
        line ++ '\n' :: joinWith "\n" (rest ++ [last]) := by
      cases rest with
      | nil => rw [List.cons_append, List.nil_append, joinWith_cons₂, List.append_assoc]; rfl
      | cons next rest =>
        rw [List.cons_append, List.cons_append, joinWith_cons₂, List.append_assoc]; rfl
    rw [hjoin, splitLines_cons_line _ hline, splitLines_join hrest hlast hne]
    rfl

theorem oneLine_of_mem_consHead {c : Char} (hc : isLineBreak c = false) {parts : List Text}
    (h : ∀ part ∈ parts, OneLine part) : ∀ part ∈ consHead c parts, OneLine part := by
  cases parts with
  | nil =>
    intro part hpart d hd
    rw [List.mem_singleton.mp hpart] at hd
    rw [List.mem_singleton.mp hd, hc]
  | cons first rest =>
    obtain ⟨hfirst, hrest⟩ := List.forall_mem_cons.mp h
    exact List.forall_mem_cons.mpr ⟨List.forall_mem_cons.mpr ⟨hc, hfirst⟩, hrest⟩

theorem oneLine_of_mem_from : ∀ {text : Text} {afterReturn : Bool},
    ∀ line ∈ splitLinesFrom afterReturn text, OneLine line
  | [], _, line, h => absurd h List.not_mem_nil
  | c :: rest, afterReturn, line, h => by
    unfold splitLinesFrom at h
    split at h
    · exact oneLine_of_mem_from line h
    · split at h
      · rcases List.mem_cons.mp h with rfl | h
        · exact nofun
        · exact oneLine_of_mem_from line h
      · rename_i hbreak
        exact oneLine_of_mem_consHead (Bool.eq_false_iff.mpr hbreak)
          (fun part hpart => oneLine_of_mem_from part hpart) line h

/-- No line has the end of a line in it. -/
theorem oneLine_of_mem {text line : Text} (h : line ∈ splitLines text) : OneLine line :=
  oneLine_of_mem_from line h

/-- Lines without newlines are recovered from their join. -/
theorem joinWith_injective {xs ys : List Text} (hxs : ∀ x ∈ xs, '\n' ∉ x) (hys : ∀ y ∈ ys, '\n' ∉ y)
    (hx : xs ≠ []) (hy : ys ≠ []) (h : joinWith "\n" xs = joinWith "\n" ys) : xs = ys := by
  have hsplit := congrArg (List.splitOn '\n') h
  exact (List.splitOn_intercalate '\n' hxs hx).symm.trans
    (hsplit.trans (List.splitOn_intercalate '\n' hys hy))

/-! ## Options without newlines -/

theorem mem_of_mem_strip {c : Char} {text : Text} (h : c ∈ strip text) : c ∈ text :=
  (List.dropWhile_suffix _).subset ((List.rdropWhile_prefix _ _).subset h)

/-- The parts between the characters that end a statement have none of the stops in them. -/
theorem stop_of_mem_cut : ∀ {text part : Text}, part ∈ cut text → ∀ c ∈ part, isStop c = false
  | [], part, h, c, hc => by
    rw [List.mem_singleton.mp h] at hc
    exact absurd hc List.not_mem_nil
  | x :: rest, part, h, c, hc => by
    unfold cut at h
    split at h
    · rcases List.mem_cons.mp h with rfl | h
      · exact absurd hc List.not_mem_nil
      · exact stop_of_mem_cut h c hc
    · rename_i hends
      have hx : isStop x = false := (Bool.or_eq_false_iff.mp (Bool.eq_false_iff.mpr hends)).1
      cases hcut : cut rest with
      | nil => exact absurd hcut (cut_ne_nil rest)
      | cons first others =>
        rw [hcut] at h
        rcases List.mem_cons.mp h with rfl | h
        · rcases List.mem_cons.mp hc with rfl | hc
          · exact hx
          · exact stop_of_mem_cut (hcut ▸ List.mem_cons_self ..) c hc
        · exact stop_of_mem_cut (hcut ▸ List.mem_cons_of_mem _ h) c hc

/-- What holds of every result of a call holds of the results of the calls on a list. -/
theorem of_mapM_some {α β : Type} {f : α → Option β} {P : β → Prop}
    (hf : ∀ a b, f a = some b → P b) : ∀ {items : List α} {results : List β},
    items.mapM f = some results → ∀ b ∈ results, P b
  | [], results, h => by
    obtain rfl : [] = results := Option.some.inj h
    exact fun b hb => absurd hb List.not_mem_nil
  | a :: rest, results, h => by
    rw [List.mapM_cons] at h
    obtain ⟨b, hb, h⟩ := Option.bind_eq_some_iff.mp h
    obtain ⟨others, hothers, h⟩ := Option.bind_eq_some_iff.mp h
    obtain rfl : b :: others = results := Option.some.inj h
    exact List.forall_mem_cons.mpr ⟨hf a b hb, of_mapM_some hf hothers⟩

section
variable {lib : CharacterLibrary}

theorem newline_statements {text s : Text} {source : Bool} (h : s ∈ statements lib text source) :
    '\n' ∉ s := by
  intro hc
  have h : s ∈ nonblank (statementEnd.splitBy _) := h
  rw [nonblank_splitBy] at h
  obtain ⟨part, hpart, rfl⟩ := List.mem_map.mp (List.mem_filter.mp h).1
  exact Bool.false_ne_true ((stop_of_mem_cut hpart _ (mem_of_mem_strip hc)).symm.trans (by decide))

theorem newline_cell {value t : Text} (h : cell lib value = some t) : '\n' ∉ t := by
  intro hc
  unfold cell at h
  dsimp only at h
  split at h
  · cases h
  · rename_i hnone
    obtain rfl := Option.some.inj h
    exact hnone (.inl (List.any_eq_true.mpr ⟨_, hc, by decide⟩))

theorem newline_getD (value : Text) : '\n' ∉ (cell lib value).getD [] := by
  cases h : cell lib value with
  | none => exact List.not_mem_nil
  | some t => exact newline_cell h

theorem newline_append {a b : Text} (ha : '\n' ∉ a) (hb : '\n' ∉ b) : '\n' ∉ a ++ b := by
  rw [List.mem_append]
  exact not_or.mpr ⟨ha, hb⟩

theorem newline_join {separator : String} (hseparator : '\n' ∉ separator.toList) :
    ∀ {parts : List Text}, (∀ part ∈ parts, '\n' ∉ part) → '\n' ∉ joinWith separator parts
  | [], _ => List.not_mem_nil
  | [part], h => by
    rw [joinWith_singleton]
    exact h part (List.mem_singleton_self part)
  | part :: next :: rest, h => by
    obtain ⟨hpart, hrest⟩ := List.forall_mem_cons.mp h
    rw [joinWith_cons₂]
    exact newline_append (newline_append hpart hseparator) (newline_join hseparator hrest)

theorem newline_note {lines : List Text} {ref note : Text} (h : noteOf lib lines ref = some note) :
    '\n' ∉ note := by
  unfold noteOf at h
  split at h
  · exact newline_cell (Option.filter_eq_some_iff.mp h).1
  · cases h

/-- A row within a table without newlines gives a statement without newlines. -/
theorem newline_row {lines headers : List Text} {heading period line t : Text}
    (hheading : '\n' ∉ heading) (hperiod : '\n' ∉ period) (hheaders : ∀ h ∈ headers, '\n' ∉ h)
    (h : rowStatement lib lines heading period headers line = some t) : '\n' ∉ t := by
  unfold rowStatement at h
  obtain ⟨cells, hcells, h⟩ := Option.bind_eq_some_iff.mp h
  have hcells := of_mapM_some (P := fun t => '\n' ∉ t) (fun _ _ => newline_cell) hcells
  split at h
  · cases h
  · split at h
    · rename_i header headers first cells _ _ _
      obtain ⟨notes, hnotes, h⟩ := Option.bind_eq_some_iff.mp h
      obtain rfl := Option.some.inj h
      obtain ⟨hheader, hheaders⟩ := List.forall_mem_cons.mp hheaders
      obtain ⟨hfirst, hcells⟩ := List.forall_mem_cons.mp hcells
      have hnotes := of_mapM_some (P := fun t => '\n' ∉ t) (fun _ _ => newline_note) hnotes
      have hcolumns : ∀ part ∈ (headers.zip cells).map fun p => p.1 ++ "：".toList ++ p.2,
          '\n' ∉ part := by
        intro part hpart
        obtain ⟨⟨h, c⟩, hmem, rfl⟩ := List.mem_map.mp hpart
        exact newline_append (newline_append (hheaders h (List.of_mem_zip hmem).1) (by decide))
          (hcells c (List.of_mem_zip hmem).2)
      refine newline_append (newline_append (newline_append (newline_append (newline_append
        (newline_append (newline_append (newline_append (newline_append hheading (by decide)) ?_)
          hheader) (by decide)) hfirst) (by decide))
        (newline_join (by decide) hcolumns)) ?_) (by decide)
      · split
        · exact List.not_mem_nil
        · exact newline_append hperiod (by decide)
      · split
        · exact List.not_mem_nil
        · exact newline_append (by decide) (newline_join (by decide) hnotes)
    · cases h

theorem newline_headers {heading line next : Text} {headers : List Text}
    (h : tableHeaders lib heading line next = some headers) : ∀ header ∈ headers, '\n' ∉ header := by
  unfold tableHeaders at h
  split at h
  · cases h
  · rename_i found hfound
    dsimp only at h
    split at h
    · cases h
    · obtain rfl := Option.some.inj h
      exact of_mapM_some (fun _ _ => newline_cell) hfound

theorem newline_nextHeading {heading period line : Text} (hheading : '\n' ∉ heading)
    (hperiod : '\n' ∉ period) : '\n' ∉ (nextHeading lib heading period line).1 ∧
      '\n' ∉ (nextHeading lib heading period line).2 := by
  unfold nextHeading
  split
  · dsimp only
    exact ⟨newline_getD _, List.not_mem_nil⟩
  · split
    · dsimp only
      exact ⟨hheading, newline_getD line⟩
    · exact ⟨hheading, hperiod⟩

theorem newline_toList {o : Option Text} (h : ∀ t, o = some t → '\n' ∉ t) :
    ∀ t ∈ o.toList, '\n' ∉ t :=
  fun t ht => h t (Option.mem_toList.mp ht)

theorem newline_tableStatements {lines : List Text} : ∀ {table : Option (List Text)}
    {heading period : Text} {rest : List Text},
    (∀ headers, table = some headers → ∀ h ∈ headers, '\n' ∉ h) → '\n' ∉ heading → '\n' ∉ period →
    ∀ t ∈ tableStatements lib lines table heading period rest, '\n' ∉ t
  | _, _, _, [], _, _, _, t, ht => absurd ht List.not_mem_nil
  | some headers, heading, period, [line], htable, hheading, hperiod, t, ht => by
    unfold tableStatements at ht
    split at ht
    · exact newline_toList (fun t => newline_row hheading hperiod (htable headers rfl)) t ht
    · exact absurd ht List.not_mem_nil
  | none, _, _, [line], _, _, _, t, ht => absurd ht List.not_mem_nil
  | table, heading, period, line :: next :: rest, htable, hheading, hperiod, t, ht => by
    unfold tableStatements at ht
    split at ht
    · rename_i headers hheaders
      have hheaders := htable headers (Option.filter_eq_some_iff.mp hheaders).1
      rcases List.mem_append.mp ht with ht | ht
      · exact newline_toList (fun t => newline_row hheading hperiod hheaders) t ht
      · refine newline_tableStatements (fun found hfound => ?_) hheading hperiod t ht
        rw [← Option.some.inj hfound]
        exact hheaders
    · obtain ⟨hnext, hperiod⟩ :
          '\n' ∉ (nextHeading lib heading period (strip line)).1 ∧
            '\n' ∉ (nextHeading lib heading period (strip line)).2 :=
        newline_nextHeading hheading hperiod
      dsimp only at ht
      split at ht
      · rename_i headers hheaders
        split at hheaders
        · refine newline_tableStatements (fun found hfound => ?_) hnext hperiod t ht
          rw [← Option.some.inj hfound]
          exact newline_headers hheaders
        · cases hheaders
      · exact newline_tableStatements (fun _ h => by cases h) hnext hperiod t ht

theorem newline_tables {content t : Text} (h : t ∈ tableSourceStatements lib content) : '\n' ∉ t := by
  unfold tableSourceStatements at h
  split at h
  · exact absurd h List.not_mem_nil
  · exact newline_tableStatements (fun _ h => by cases h) List.not_mem_nil List.not_mem_nil t
      (List.mem_of_mem_take h)

theorem newline_punctuated {t : Text} (h : '\n' ∉ t) : '\n' ∉ punctuated t := by
  unfold punctuated
  split
  · exact h
  · refine newline_append h ?_
    split <;> decide

end

/-! ## Options -/

theorem punctuated_ne_nil (t : Text) : punctuated t ≠ [] := by
  unfold punctuated
  split
  · rename_i hends
    rintro rfl
    revert hends
    decide
  · exact List.append_ne_nil_of_right_ne_nil _ (by split <;> exact nofun)

theorem mem_selectOptions {lib : CharacterLibrary} {o : RepairOption} :
    ∀ {items : List (Text × String)} {seen : List (Text × String)} {options : List RepairOption}
      {totalChars : Nat}, o ∈ selectOptions lib seen options totalChars items →
      o ∈ options ∨ ∃ p ∈ items, o = ⟨punctuated p.1, p.2⟩
  | [], _, _, _, h => .inl h
  | (statement, citation) :: rest, seen, options, totalChars, h => by
    unfold selectOptions at h
    split at h
    · exact (mem_selectOptions h).imp_right fun ⟨p, hp, ho⟩ => ⟨p, List.mem_cons_of_mem _ hp, ho⟩
    · split at h
      · exact .inl h
      · rcases mem_selectOptions h with h | ⟨p, hp, ho⟩
        · rcases List.mem_append.mp h with h | h
          · exact .inl h
          · exact .inr ⟨_, List.mem_cons_self .., List.mem_singleton.mp h⟩
        · exact .inr ⟨p, List.mem_cons_of_mem _ hp, ho⟩

/-- An option is a statement of a record without structured data, under its citation. -/
theorem option_origin {lib : AnswerLibrary} {evidence : List EvidenceChunk}
    {options : List RepairOption} {o : RepairOption}
    (h : answerFactRepairOptions lib evidence = .ok options) (ho : o ∈ options) :
    ∃ records, answerEvidenceRecords lib evidence = .ok records ∧ ∃ r ∈ records,
      r.structured = none ∧ recordCitation r = o.citation ∧
        ∃ s ∈ recordStatements lib.toCharacterLibrary r, o.statement = punctuated s := by
  obtain ⟨records, hrecords, h⟩ := bind_ok h
  obtain rfl := pure_ok h
  refine ⟨records, hrecords, ?_⟩
  rcases mem_selectOptions ho with ho | ⟨p, hp, rfl⟩
  · exact absurd ho List.not_mem_nil
  · obtain ⟨r, hr, hp⟩ := List.mem_flatMap.mp hp
    obtain ⟨hr, hplain⟩ := List.mem_filter.mp hr
    obtain ⟨s, hs, rfl⟩ := List.mem_map.mp hp
    exact ⟨r, hr, of_decide_eq_true hplain, rfl, s, hs, rfl⟩

theorem newline_option {lib : AnswerLibrary} {evidence : List EvidenceChunk}
    {options : List RepairOption} {o : RepairOption}
    (h : answerFactRepairOptions lib evidence = .ok options) (ho : o ∈ options) :
    '\n' ∉ o.statement ∧ o.statement ≠ [] := by
  obtain ⟨_, _, r, _, _, _, s, hs, hstatement⟩ := option_origin h ho
  rw [hstatement]
  refine ⟨newline_punctuated ?_, punctuated_ne_nil s⟩
  rcases List.mem_append.mp hs with hs | hs
  · exact newline_tables hs
  · exact newline_statements hs

end ProofAgent.Answers
