import ProofAgent.Answers.Facts
import ProofAgent.Base.RegexLines

/-! # Statements line by line

A text is split into statements line by line: the statements of texts joined by newlines are those
of the texts. -/
namespace ProofAgent.Answers

open Base Base.Regex
open TaskState (Text strip)

/-! ## Runs of a class -/

theorem run_char_cons {p : Char → Bool} {x : Char} {rest before : Text} {g : Option Text} :
    (Regex.char p).run ⟨before, x :: rest, g⟩ = if p x then [⟨x :: before, rest, g⟩] else [] := rfl

/-- A greedy repetition of a class first tries the whole run. -/
theorem repeatRun_char {p : Char → Bool} : ∀ {fuel : Nat} {before after : Text}
    {g : Option Text}, after.length < fuel →
    (repeatRun (Regex.char p).run fuel 0 none ⟨before, after, g⟩).head? =
      some ⟨(after.takeWhile p).reverse ++ before, after.dropWhile p, g⟩
  | fuel + 1, before, [], g, _ => rfl
  | fuel + 1, before, x :: rest, g, h => by
    rw [List.length_cons] at h
    unfold repeatRun
    rw [run_char_cons]
    cases hx : p x with
    | false =>
      rw [List.takeWhile_cons_of_neg (Bool.eq_false_iff.mp hx),
        List.dropWhile_cons_of_neg (Bool.eq_false_iff.mp hx)]
      rfl
    | true =>
      rw [List.takeWhile_cons_of_pos hx, List.dropWhile_cons_of_pos hx, if_pos rfl,
        List.filter_cons_of_pos (by simp), List.head?_append]
      show ((repeatRun (Regex.char p).run fuel 0 none ⟨x :: before, rest, g⟩ ++ []).head?).or _ = _
      rw [List.append_nil, repeatRun_char (by omega), Option.some_or, List.reverse_cons,
        List.append_assoc]
      rfl

/-- The match of a run of a class. -/
theorem plus_char_head {p : Char → Bool} {x : Char} {rest before : Text} {g : Option Text}
    (hx : p x = true) : ((plus (Regex.char p)).run ⟨before, x :: rest, g⟩).head? =
      some ⟨(rest.takeWhile p).reverse ++ x :: before, rest.dropWhile p, g⟩ := by
  show (repeatRun (Regex.char p).run (rest.length + 1 + 1) 1 none ⟨before, x :: rest, g⟩).head? = _
  unfold repeatRun
  rw [run_char_cons, if_pos hx, List.filter_cons_of_pos (by simp), List.head?_append]
  show ((repeatRun (Regex.char p).run (rest.length + 1) 0 none ⟨x :: before, rest, g⟩ ++
    []).head?).or _ = _
  rw [List.append_nil, repeatRun_char (Nat.lt_succ_self _), Option.some_or]

theorem plus_char_fails {p : Char → Bool} {x : Char} {rest before : Text} {g : Option Text}
    (hx : p x = false) : (plus (Regex.char p)).run ⟨before, x :: rest, g⟩ = [] := by
  show repeatRun (Regex.char p).run (rest.length + 1 + 1) 1 none ⟨before, x :: rest, g⟩ = _
  unfold repeatRun
  rw [run_char_cons, hx]
  rfl

/-! ## The ends of statements -/

/-- `[。；;\n]`. -/
def isStop (c : Char) : Bool := "。；;\n".toList.contains c

/-- Whether a statement ends with a character, before what follows it. -/
def endsStatement (c : Char) (rest : Text) : Bool :=
  isStop c || (c = '.' && rest.head?.all isSpace)

/-- The parts of a text between the characters that end a statement. -/
def cut : Text → List Text
  | [] => [[]]
  | c :: rest => if endsStatement c rest then [] :: cut rest else consHead c (cut rest)

/-- The parts that are not blank, stripped. -/
def nonblank (parts : List Text) : List Text := (parts.map strip).filter (· ≠ [])

theorem nonblank_cons_nil (parts : List Text) : nonblank ([] :: parts) = nonblank parts := rfl

/-- Where the next statement starts, after a match at the first character. -/
theorem matchAt_statementEnd_stop (before rest : Text) {c : Char} (h : isStop c = true) :
    ∃ d, statementEnd.matchAt before (c :: rest) = some d ∧ d.after = rest.dropWhile isStop := by
  have hhead : (statementEnd.run ⟨before, c :: rest, none⟩).head? =
      some ⟨(rest.takeWhile isStop).reverse ++ c :: before, rest.dropWhile isStop, none⟩ := by
    show ((plus (Regex.char isStop)).run _ ++ _).head? = _
    rw [List.head?_append, plus_char_head h, Option.some_or]
  refine ⟨⟨(rest.takeWhile isStop).reverse ++ c :: before, rest.dropWhile isStop, none⟩, ?_, rfl⟩
  unfold matchAt
  rw [hhead, Option.filter_some, if_pos]
  have := List.length_dropWhile_le isStop rest
  simp only [List.length_cons, decide_eq_true_eq]
  omega

theorem matchAt_statementEnd_dot (before : Text) {rest : Text} (h : rest.head?.all isSpace = true) :
    ∃ d, statementEnd.matchAt before ('.' :: rest) = some d ∧ d.after = rest := by
  have hrun : statementEnd.run ⟨before, '.' :: rest, none⟩ = [⟨'.' :: before, rest, none⟩] := by
    show (plus (Regex.char isStop)).run _ ++ List.flatMap _ [Cursor.mk ('.' :: before) rest none] = _
    rw [plus_char_fails (by decide), List.nil_append, List.flatMap_singleton]
    show (if rest.head?.all isSpace then [_] else []) = _
    rw [h]
    rfl
  refine ⟨⟨'.' :: before, rest, none⟩, ?_, rfl⟩
  unfold matchAt
  rw [hrun]
  simp

theorem matchAt_statementEnd_none {before rest : Text} {c : Char}
    (h : endsStatement c rest = false) : statementEnd.matchAt before (c :: rest) = none := by
  obtain ⟨hstop, hdot⟩ := Bool.or_eq_false_iff.mp h
  have hrun : statementEnd.run ⟨before, c :: rest, none⟩ = [] := by
    show (plus (Regex.char isStop)).run _ ++ List.flatMap _ (if decide (c = '.') then [_] else []) = _
    rw [plus_char_fails hstop, List.nil_append]
    cases hc : decide (c = '.') with
    | false => rfl
    | true =>
      rw [hc, Bool.true_and] at hdot
      rw [if_pos rfl, List.flatMap_singleton]
      show (if rest.head?.all isSpace then [_] else []) = _
      rw [hdot]
      rfl
  unfold matchAt
  rw [hrun]
  rfl

/-! ## Splitting -/

/-- The parts of what is after a place. -/
def splitFrom (r : Regex) (before after : Text) : List Text :=
  splitPieces (r.piecesFrom after.length before after)

theorem splitFrom_match {r : Regex} {before after : Text} {d : Cursor}
    (h : r.matchAt before after = some d) :
    splitFrom r before after = [] :: splitFrom r d.before d.after := by
  have hshorter := matchAt_shorter h
  have hfuel : after.length ≤ (after.length - 1) + 1 := by omega
  unfold splitFrom
  rw [piecesFrom_fuel (Nat.le_refl _) hfuel, piecesFrom_match h, piecesFrom_fuel
    (show d.after.length ≤ after.length - 1 by omega) (Nat.le_refl _)]
  rfl

theorem splitFrom_plain {r : Regex} {before rest : Text} {c : Char}
    (h : r.matchAt before (c :: rest) = none) :
    splitFrom r before (c :: rest) = consHead c (splitFrom r (c :: before) rest) := by
  unfold splitFrom
  rw [List.length_cons, piecesFrom_plain h]
  rfl

/-- The stops after a stop end blank parts only. -/
theorem nonblank_cut_dropWhile : ∀ text : Text,
    nonblank (cut (text.dropWhile isStop)) = nonblank (cut text)
  | [] => rfl
  | c :: rest => by
    cases hc : isStop c with
    | false => rw [List.dropWhile_cons_of_neg (Bool.eq_false_iff.mp hc)]
    | true =>
      have hends : endsStatement c rest = true := Bool.or_eq_true_iff.mpr (.inl hc)
      rw [List.dropWhile_cons_of_pos hc, nonblank_cut_dropWhile rest, cut, if_pos hends,
        nonblank_cons_nil]

/-- Two ways to split have the same first part, and otherwise differ by blank parts. -/
def SameParts (xs ys : List Text) : Prop :=
  ∃ part rest rest', xs = part :: rest ∧ ys = part :: rest' ∧ nonblank rest = nonblank rest'

theorem SameParts.consHead {xs ys : List Text} (h : SameParts xs ys) (c : Char) :
    SameParts (Regex.consHead c xs) (Regex.consHead c ys) := by
  obtain ⟨part, rest, rest', rfl, rfl, hrest⟩ := h
  exact ⟨c :: part, rest, rest', rfl, rfl, hrest⟩

theorem SameParts.nonblank_eq {xs ys : List Text} (h : SameParts xs ys) :
    nonblank xs = nonblank ys := by
  obtain ⟨part, rest, rest', rfl, rfl, hrest⟩ := h
  show ((part :: rest).map strip).filter _ = ((part :: rest').map strip).filter _
  rw [List.map_cons, List.map_cons, List.filter_cons, List.filter_cons,
    show (rest.map strip).filter (· ≠ []) = (rest'.map strip).filter (· ≠ []) from hrest]

/-- The expression splits a text into the parts between the characters. -/
theorem splitFrom_statementEnd : ∀ (n : Nat) (before after : Text), after.length ≤ n →
    SameParts (splitFrom statementEnd before after) (cut after)
  | 0, before, after, h => by
    obtain rfl := List.eq_nil_of_length_eq_zero (Nat.le_zero.mp h)
    exact ⟨[], [], [], rfl, rfl, rfl⟩
  | n + 1, before, [], _ => ⟨[], [], [], rfl, rfl, rfl⟩
  | n + 1, before, c :: rest, h => by
    have hrest : rest.length ≤ n := Nat.le_of_succ_le_succ h
    cases hends : endsStatement c rest with
    | false =>
      rw [splitFrom_plain (matchAt_statementEnd_none hends), cut, hends]
      exact (splitFrom_statementEnd n _ rest hrest).consHead c
    | true =>
      rw [cut, if_pos hends]
      rcases Bool.or_eq_true_iff.mp hends with hstop | hdot
      · obtain ⟨d, hd, hafter⟩ := matchAt_statementEnd_stop before rest hstop
        have hlength := List.length_dropWhile_le isStop rest
        rw [splitFrom_match hd, hafter]
        refine ⟨[], _, _, rfl, rfl, ?_⟩
        rw [(splitFrom_statementEnd n d.before _ (hlength.trans hrest)).nonblank_eq,
          nonblank_cut_dropWhile]
      · obtain ⟨hc, hspace⟩ := Bool.and_eq_true_iff.mp hdot
        obtain rfl := of_decide_eq_true hc
        obtain ⟨d, hd, hafter⟩ := matchAt_statementEnd_dot before hspace
        rw [splitFrom_match hd, hafter]
        exact ⟨[], _, _, rfl, rfl, (splitFrom_statementEnd n d.before rest hrest).nonblank_eq⟩

theorem nonblank_splitBy (text : Text) : nonblank (statementEnd.splitBy text) = nonblank (cut text) :=
  (splitFrom_statementEnd _ [] text (Nat.le_refl _)).nonblank_eq

/-! ## Lines -/

theorem cut_ne_nil : ∀ text : Text, cut text ≠ []
  | [] => nofun
  | c :: rest => by
    unfold cut
    split
    · exact nofun
    · unfold consHead
      split <;> exact nofun

theorem consHead_append {c : Char} {xs ys : List Text} (h : xs ≠ []) :
    consHead c (xs ++ ys) = consHead c xs ++ ys := by
  cases xs with
  | nil => exact absurd rfl h
  | cons part rest => rfl

/-- A newline ends a statement, and a full stop before it does so too. -/
theorem cut_lines (b : Text) : ∀ a : Text, cut (a ++ '\n' :: b) = cut a ++ cut b
  | [] => rfl
  | c :: rest => by
    have hends : endsStatement c (rest ++ '\n' :: b) = endsStatement c rest := by
      cases rest <;> rfl
    rw [List.cons_append, cut, hends, cut_lines b rest, cut]
    split
    · rfl
    · exact consHead_append (cut_ne_nil rest)

theorem nonblank_append (xs ys : List Text) : nonblank (xs ++ ys) = nonblank xs ++ nonblank ys := by
  unfold nonblank
  rw [List.map_append, List.filter_append]

theorem joinWith_singleton (separator : String) (part : Text) : joinWith separator [part] = part :=
  List.append_nil part

theorem joinWith_cons₂ (separator : String) (part next : Text) (rest : List Text) :
    joinWith separator (part :: next :: rest) =
      part ++ separator.toList ++ joinWith separator (next :: rest) := by
  simp [joinWith, List.intercalate]

section
variable (lib : CharacterLibrary)

theorem listMarker_inLine : (listMarker lib).InLine := by
  have hword := lib.word_newline
  refine ⟨⟨fun before => rfl, fun after => rfl⟩, rfl, ⟨⟨rfl, rfl, ⟨rfl, rfl, trivial⟩, trivial⟩,
    rfl, rfl, trivial⟩, ⟨fun before => ?_, fun after => rfl⟩, trivial⟩
  show false = (lib.isWord '\n' && !lib.isDecimal '\n' && _)
  rw [hword]
  rfl

theorem orderedIndex_inLine : (orderedIndex lib).InLine :=
  ⟨⟨fun _ => rfl, fun _ => rfl⟩, rfl, lib.decimal_newline, rfl, rfl, trivial⟩

/-- **The statements of an answer** are those of its lines. -/
theorem statements_lines (a b : Text) :
    statements lib (a ++ '\n' :: b) false = statements lib a false ++ statements lib b false := by
  show nonblank (statementEnd.splitBy (replace (orderedIndex lib) "" (replace (listMarker lib) ""
      (lib.nfc (a ++ '\n' :: b))))) =
    nonblank (statementEnd.splitBy (replace (orderedIndex lib) "" (replace (listMarker lib) ""
      (lib.nfc a)))) ++
    nonblank (statementEnd.splitBy (replace (orderedIndex lib) "" (replace (listMarker lib) ""
      (lib.nfc b))))
  unfold replace
  rw [lib.nfc_newline, subBy_lines (listMarker_inLine lib), subBy_lines (orderedIndex_inLine lib),
    nonblank_splitBy, nonblank_splitBy, nonblank_splitBy, cut_lines, nonblank_append]

/-- The statements of texts joined by newlines are statements of the texts. -/
theorem mem_statements_join {s : Text} : ∀ {texts : List Text}, texts ≠ [] →
    s ∈ statements lib (joinWith "\n" texts) false → ∃ text ∈ texts, s ∈ statements lib text false
  | [text], _, h => ⟨text, List.mem_singleton_self _, joinWith_singleton "\n" text ▸ h⟩
  | text :: next :: rest, _, h => by
    rw [joinWith_cons₂, List.append_assoc] at h
    have h : s ∈ statements lib (text ++ '\n' :: joinWith "\n" (next :: rest)) false := h
    rw [statements_lines] at h
    rcases List.mem_append.mp h with h | h
    · exact ⟨text, List.mem_cons_self .., h⟩
    · obtain ⟨found, hmem, hs⟩ := mem_statements_join (show next :: rest ≠ [] from nofun) h
      exact ⟨found, List.mem_cons_of_mem _ hmem, hs⟩

end

end ProofAgent.Answers
