import ProofAgent.TaskState.Statements

/-! # Statements on their own

A statement of a question, asked on its own, is the same statement: a piece that was
not split is not split either where nothing comes before it. -/
namespace ProofAgent.TaskState

variable {lib : TextLibrary}

/-! ## What is not split -/

/-- No character of a text that comes after `previous` ends a statement. -/
def Unbroken (lib : TextLibrary) : (previous : Option Char) → Text → Prop
  | _, [] => True
  | previous, c :: rest =>
    (isMark c = true → previous.any lib.isDigit = true) ∧ c ≠ '\n' ∧ Unbroken lib (some c) rest

theorem split_of_unbroken : ∀ {text : Text} {previous : Option Char} {piece : Text},
    Unbroken lib previous text → split lib previous false piece text = [piece ++ text]
  | [], _, piece, _ => by rw [split, List.append_nil]
  | c :: rest, previous, piece, h => by
    obtain ⟨hmark, hnewline, hrest⟩ := h
    have hmark' : ¬ (isMark c = true ∧ previous.any lib.isDigit = false) := fun ⟨hm, hp⟩ => by
      rw [hmark hm] at hp
      cases hp
    rw [split, if_neg (fun hs => nomatch hs.1), if_neg hmark', if_neg hnewline,
      split_of_unbroken hrest, List.append_assoc, List.singleton_append]

theorem isSpace_newline : isSpace '\n' = true := by decide

/-- Characters without a mark or a space among them. -/
theorem plain_of_all {cs : List Char} (h : (cs.all fun c => !isMark c && !isSpace c) = true) :
    ∀ c ∈ cs, isMark c = false ∧ isSpace c = false := by
  intro c hc
  have hplain := List.all_eq_true.mp h c hc
  rw [Bool.and_eq_true, Bool.not_eq_true', Bool.not_eq_true'] at hplain
  exact hplain

theorem isDigit_of_isSpace {c : Char} (h : isSpace c = true) : lib.isDigit c = false := by
  rw [Bool.eq_false_iff]
  intro hdigit
  rw [lib.word_not_space c (lib.digit_word c hdigit)] at h
  cases h

theorem isDigit_of_isMark {c : Char} (h : isMark c = true) : lib.isDigit c = false := by
  rw [Bool.eq_false_iff]
  intro hdigit
  rw [lib.word_not_mark c (lib.digit_word c hdigit)] at h
  cases h

/-- Where no digit comes before a text, nothing need come before it. -/
theorem unbroken_none {previous : Option Char} {text : Text} (hprevious : previous.any lib.isDigit = false)
    (h : Unbroken lib previous text) : Unbroken lib none text := by
  cases text with
  | nil => trivial
  | cons c rest =>
    refine ⟨fun hmark => ?_, h.2.1, h.2.2⟩
    rw [h.1 hmark] at hprevious
    cases hprevious

theorem unbroken_prefix : ∀ {text : Text} {more : Text} {previous : Option Char},
    Unbroken lib previous (text ++ more) → Unbroken lib previous text
  | [], _, _, _ => trivial
  | _ :: _, _, _, h => ⟨h.1, h.2.1, unbroken_prefix h.2.2⟩

theorem last_or_cons {c : Char} {text : Text} {previous : Option Char} :
    ((c :: text).getLast?).or previous = text.getLast?.or (some c) := by
  cases text with
  | nil => rfl
  | cons d text =>
    rw [List.getLast?_cons_cons, List.getLast?_eq_some_getLast (List.cons_ne_nil d text),
      Option.some_or, Option.some_or]

theorem unbroken_suffix : ∀ {text : Text} {more : Text} {previous : Option Char},
    Unbroken lib previous (text ++ more) → Unbroken lib (text.getLast?.or previous) more
  | [], _, _, h => h
  | c :: text, more, previous, h => by
    rw [last_or_cons]
    exact unbroken_suffix h.2.2

theorem unbroken_concat {c : Char} : ∀ {text : Text} {previous : Option Char},
    Unbroken lib previous text → (isMark c = true → (text.getLast?.or previous).any lib.isDigit = true) →
    c ≠ '\n' → Unbroken lib previous (text ++ [c])
  | [], _, _, hmark, hnewline => ⟨hmark, hnewline, trivial⟩
  | d :: text, previous, h, hmark, hnewline => by
    rw [last_or_cons] at hmark
    exact ⟨h.1, h.2.1, unbroken_concat h.2.2 hmark hnewline⟩

/-- **Every piece is unbroken**: only its last character can be a digit before what comes next. -/
theorem unbroken_of_mem_split {t : Text} : ∀ {text : Text} {previous : Option Char} {skipping : Bool}
    {piece : Text}, Unbroken lib none piece →
    piece.getLast?.any lib.isDigit = previous.any lib.isDigit → (skipping = true → piece = []) →
    t ∈ split lib previous skipping piece text → Unbroken lib none t
  | [], _, _, piece, hpiece, _, _, ht => by
    rw [split, List.mem_singleton] at ht
    rw [ht]
    exact hpiece
  | c :: rest, previous, skipping, piece, hpiece, hlast, hskipping, ht => by
    have hfresh : ∀ {skipping : Bool}, lib.isDigit c = false →
        t ∈ split lib (some c) skipping [] rest → Unbroken lib none t := fun hdigit =>
      unbroken_of_mem_split trivial hdigit.symm fun _ => rfl
    rw [split] at ht
    split at ht
    · rename_i hskip
      rw [hskipping hskip.1] at ht
      exact hfresh (isDigit_of_isSpace hskip.2) ht
    · split at ht
      · rename_i hmark
        rcases List.mem_cons.mp ht with rfl | ht
        · exact hpiece
        · exact hfresh (isDigit_of_isMark hmark.1) ht
      · rename_i hmark
        split at ht
        · rename_i hnewline
          rcases List.mem_cons.mp ht with rfl | ht
          · exact hpiece
          · exact hfresh (isDigit_of_isSpace (hnewline ▸ isSpace_newline)) ht
        · rename_i hnewline
          refine unbroken_of_mem_split (unbroken_concat hpiece (fun hm => ?_) hnewline) ?_ (by nofun) ht
          · rw [Option.or_none, hlast, ← Bool.not_eq_false]
            exact fun hp => hmark ⟨hm, hp⟩
          · rw [List.getLast?_append]
            rfl

/-! ## A statement is asked again -/

theorem unbroken_dropSpaces {text : Text} (h : Unbroken lib none text) :
    Unbroken lib none (text.dropWhile isSpace) := by
  have hsuffix := h
  rw [← List.takeWhile_append_dropWhile (p := isSpace) (l := text)] at hsuffix
  refine unbroken_none ?_ (unbroken_suffix hsuffix)
  rw [Option.or_none]
  rcases hlast : (text.takeWhile isSpace).getLast? with _ | c
  · rfl
  · exact isDigit_of_isSpace (List.mem_takeWhile_imp (List.mem_of_getLast? hlast))

theorem unbroken_rdropWhile {p : Char → Bool} {text : Text} (h : Unbroken lib none text) :
    Unbroken lib none (text.rdropWhile p) := by
  obtain ⟨more, hmore⟩ := List.rdropWhile_prefix p text
  rw [← hmore] at h
  exact unbroken_prefix h

theorem unbroken_strip {text : Text} (h : Unbroken lib none text) : Unbroken lib none (strip text) :=
  unbroken_rdropWhile (unbroken_dropSpaces h)

theorem strip_eq_self {text : Text} (hhead : ∀ c, text.head? = some c → isSpace c = false)
    (hlast : ∀ c, text.getLast? = some c → isSpace c = false) : strip text = text := by
  have hdrop : text.dropWhile isSpace = text := by
    cases text with
    | nil => rfl
    | cons c rest => rw [List.dropWhile_cons_of_neg (by rw [hhead c rfl]; decide)]
  unfold strip
  rw [hdrop, List.rdropWhile_eq_self_iff]
  intro hne hspace
  rw [hlast _ (List.getLast?_eq_some_getLast hne)] at hspace
  cases hspace

/-- A text that is not split, and whose ends are not stripped, is its only statement. -/
theorem statements_of_unbroken {text : Text} (h : Unbroken lib none text) (hne : text ≠ [])
    (hhead : ∀ c, text.head? = some c → isSpace c = false)
    (hlast : ∀ c, text.getLast? = some c → isSpace c = false ∧ c ≠ '.' ∧ c ≠ '。') :
    statements lib text = [text] := by
  have hstrip : strip text = text := strip_eq_self hhead fun c hc => (hlast c hc).1
  have hstops : rstripStops text = text := by
    unfold rstripStops
    rw [List.rdropWhile_eq_self_iff]
    intro hne' hstop
    obtain ⟨-, hpoint, hstop'⟩ := hlast _ (List.getLast?_eq_some_getLast hne')
    simp [hpoint, hstop'] at hstop
  unfold statements
  rw [split_of_unbroken h, List.nil_append, List.map_singleton, hstrip, List.filter_cons_of_pos,
    List.filter_nil, List.map_singleton, hstops]
  simpa using hne

theorem strip_head {text : Text} {c : Char} (h : (strip text).head? = some c) :
    isSpace c = false := by
  have hprefix := List.rdropWhile_prefix isSpace (text.dropWhile isSpace)
  have hhead : (text.dropWhile isSpace).head? = some c := by
    obtain ⟨more, hmore⟩ := hprefix
    rw [← hmore, List.head?_append]
    unfold strip at h
    rw [h, Option.some_or]
  have hnot := List.head?_dropWhile_not isSpace text
  rw [hhead] at hnot
  simpa using hnot

theorem strip_last {text : Text} {c : Char} (h : (strip text).getLast? = some c) :
    isSpace c = false := by
  have hne : strip text ≠ [] := fun hnil => by
    rw [hnil] at h
    cases h
  have hnot := List.rdropWhile_last_not isSpace (text.dropWhile isSpace) hne
  rw [List.getLast?_eq_some_getLast hne] at h
  rw [← Option.some.inj h]
  exact Bool.eq_false_of_not_eq_true hnot

/-- **A statement asked on its own** is the same statement. -/
theorem statements_again {question t : Text} (h : t ∈ statements lib question) :
    statements lib t = [t] := by
  unfold statements at h
  obtain ⟨stripped, hmem, rfl⟩ := List.mem_map.mp h
  obtain ⟨hmem, hnonempty⟩ := List.mem_filter.mp hmem
  obtain ⟨piece, hpiece, rfl⟩ := List.mem_map.mp hmem
  have hne : strip piece ≠ [] := fun hnil => by
    rw [hnil] at hnonempty
    cases hnonempty
  have hunbroken : Unbroken lib none (strip piece) :=
    unbroken_strip (unbroken_of_mem_split (show Unbroken lib none [] from trivial) rfl (fun _ => rfl) hpiece)
  have hsplit : rstripStops (strip piece) ++
      (strip piece).rtakeWhile (fun c => c = '.' || c = '。') = strip piece :=
    List.rdropWhile_append_rtakeWhile
  -- a stop that is taken away comes after a digit, so nothing more is stripped
  have hlast : ∃ c, (rstripStops (strip piece)).getLast? = some c ∧ isSpace c = false := by
    rcases htaken : (strip piece).rtakeWhile (fun c => c = '.' || c = '。') with _ | ⟨d, more⟩
    · rw [htaken, List.append_nil] at hsplit
      rw [hsplit]
      exact ⟨_, List.getLast?_eq_some_getLast hne, strip_last (List.getLast?_eq_some_getLast hne)⟩
    · have hstop : (d = '.' || d = '。') = true := by
        refine List.mem_rtakeWhile_imp (p := fun c => c = '.' || c = '。') (l := strip piece) ?_
        rw [htaken]
        exact List.mem_cons_self ..
      have hmark : isMark d = true := by
        unfold isMark
        simp only [Bool.or_eq_true, decide_eq_true_eq] at hstop ⊢
        tauto
      rw [htaken] at hsplit
      have hrest := unbroken_suffix (hsplit ▸ hunbroken)
      have hdigit := hrest.1 hmark
      rw [Option.or_none] at hdigit
      rcases hl : (rstripStops (strip piece)).getLast? with _ | c
      · rw [hl] at hdigit
        cases hdigit
      · rw [hl] at hdigit
        exact ⟨c, rfl, lib.word_not_space c (lib.digit_word c hdigit)⟩
  obtain ⟨c, hc, hspace⟩ := hlast
  have hne' : rstripStops (strip piece) ≠ [] := fun hnil => by
    rw [hnil] at hc
    cases hc
  refine statements_of_unbroken (unbroken_rdropWhile hunbroken) hne' (fun d hd => ?_) fun d hd => ?_
  · refine strip_head (?_ : (strip piece).head? = some d)
    rw [← hsplit, List.head?_append, hd, Option.some_or]
  · rw [hc] at hd
    cases hd
    refine ⟨hspace, ?_⟩
    have hnot := List.rdropWhile_last_not (fun c => c = '.' || c = '。') (strip piece) hne'
    rw [List.getLast?_eq_some_getLast hne'] at hc
    rw [← Option.some.inj hc]
    simp only [Bool.or_eq_true, decide_eq_true_eq, not_or] at hnot
    exact hnot

/-! ## Keys -/

/-- A key that a statement can name. -/
structure IsKey (lib : TextLibrary) (maxLength : Nat) (key : String) : Prop where
  nonempty : 1 ≤ key.length
  bounded : key.length ≤ maxLength
  characters : ∀ c ∈ key.toList, isKeyCharacter lib c = true

theorem IsKey.mono {m n : Nat} {key : String} (h : IsKey lib m key) (hmn : m ≤ n) :
    IsKey lib n key :=
  ⟨h.nonempty, h.bounded.trans hmn, h.characters⟩

theorem isKeyCharacter_plain {c : Char} (h : isKeyCharacter lib c = true) :
    isMark c = false ∧ isSpace c = false := by
  rcases (Bool.or_eq_true _ _).mp h with hword | hhyphen
  · exact ⟨lib.word_not_mark c hword, lib.word_not_space c hword⟩
  · rw [of_decide_eq_true hhyphen]
    decide

theorem bracket_not_key : isKeyCharacter lib ']' = false := by
  unfold isKeyCharacter
  rw [lib.bracket_not_word]
  decide

theorem bracketedKey_of {n : Nat} {key : String} {rest : Text} (h : IsKey lib n key) :
    bracketedKey lib n ('[' :: (key.toList ++ ']' :: rest)) = some (key.toList, rest) := by
  have htake : (key.toList ++ ']' :: rest).takeWhile (isKeyCharacter lib) = key.toList := by
    rw [List.takeWhile_append_of_pos h.characters,
      List.takeWhile_cons_of_neg (by rw [bracket_not_key]; decide), List.append_nil]
  have hdrop : (key.toList ++ ']' :: rest).dropWhile (isKeyCharacter lib) = ']' :: rest := by
    rw [List.dropWhile_append_of_pos h.characters,
      List.dropWhile_cons_of_neg (by rw [bracket_not_key]; decide)]
  unfold bracketedKey
  simp only [htake, hdrop, String.length_toList]
  exact if_pos ⟨h.nonempty, h.bounded⟩

theorem isKey_of_bracketedKey {n : Nat} {text key rest : Text}
    (h : bracketedKey lib n text = some (key, rest)) : IsKey lib n (.ofList key) := by
  unfold bracketedKey at h
  split at h
  · rename_i text
    dsimp only at h
    split at h
    · split at h
      · rename_i hlength
        cases h
        refine ⟨by rw [String.length_ofList]; exact hlength.1,
          by rw [String.length_ofList]; exact hlength.2, fun c hc => ?_⟩
        rw [String.toList_ofList] at hc
        exact List.mem_takeWhile_imp hc
      · cases h
    · cases h
  · cases h

theorem isKey_of_explicit {t : Text} {kind key value : String}
    (h : readStatement lib t = .explicit kind key value) : IsKey lib 64 key := by
  unfold readStatement at h
  split at h
  · cases h
  · split at h
    · rename_i hmatch
      cases h
      unfold matchExplicit at hmatch
      simp only [Option.bind_eq_bind, Option.bind_eq_some_iff] at hmatch
      obtain ⟨_, _, ⟨key, rest⟩, hkey, hvalue⟩ := hmatch
      split at hvalue
      · split at hvalue
        · obtain ⟨value, _, heq⟩ := Option.map_eq_some_iff.mp hvalue
          cases heq
          exact isKey_of_bracketedKey hkey
        · cases hvalue
      · cases hvalue
    · split at h
      · cases h
      · split at h <;> cases h

/-! ## Statements about a key -/

theorem revoke_toList (key : String) :
    ("Revoke[" ++ key ++ "]").toList = ['R', 'e', 'v', 'o', 'k', 'e', '['] ++ key.toList ++ [']'] := by
  have hopen : "Revoke[".toList = ['R', 'e', 'v', 'o', 'k', 'e', '['] := by decide
  have hclose : "]".toList = [']'] := by decide
  rw [String.toList_append, String.toList_append, hopen, hclose]

theorem unbroken_plain : ∀ {text : Text} {previous : Option Char},
    (∀ c ∈ text, isMark c = false ∧ c ≠ '\n') → Unbroken lib previous text
  | [], _, _ => trivial
  | c :: rest, _, h => by
    have hc := h c (List.mem_cons_self ..)
    refine ⟨fun hmark => ?_, hc.2, unbroken_plain fun d hd => h d (List.mem_cons_of_mem _ hd)⟩
    rw [hc.1] at hmark
    cases hmark

/-- A text of plain characters is one statement. -/
theorem statements_plain {text : Text} (hne : text ≠ [])
    (hplain : ∀ c ∈ text, isMark c = false ∧ isSpace c = false) : statements lib text = [text] := by
  refine statements_of_unbroken (unbroken_plain fun c hc => ⟨(hplain c hc).1, ?_⟩) hne
    (fun c hc => (hplain c (List.mem_of_head? hc)).2) fun c hc => ?_
  · rintro rfl
    have hspace := (hplain _ hc).2
    rw [isSpace_newline] at hspace
    cases hspace
  · obtain ⟨hmark, hspace⟩ := hplain c (List.mem_of_getLast? hc)
    refine ⟨hspace, ?_, ?_⟩
    · rintro rfl
      cases hmark
    · rintro rfl
      cases hmark

theorem afterOneOf_revoke {rest : Text} :
    afterOneOf [("revise", false), ("revoke", true), ("修订", false), ("撤销", true)]
      ('R' :: 'e' :: 'v' :: 'o' :: 'k' :: 'e' :: rest) = some (true, rest) := by
  rfl

theorem matchRevision_revoke {key : String} (h : IsKey lib 96 key) :
    matchRevision lib ('R' :: 'e' :: 'v' :: 'o' :: 'k' :: 'e' :: '[' :: (key.toList ++ [']'])) =
      some (true, key.toList, none) := by
  unfold matchRevision
  rw [afterOneOf_revoke]
  simp only [Option.bind_eq_bind, Option.bind_some, bracketedKey_of h, List.dropWhile_nil]

/-- `Revoke[key]`. -/
theorem readQuestion_revoke {key : String} (h : IsKey lib 96 key) :
    readQuestion lib ("Revoke[" ++ key ++ "]") = [.revision true key none] := by
  have hstatements : statements lib (['R', 'e', 'v', 'o', 'k', 'e', '['] ++ key.toList ++ [']']) =
      [['R', 'e', 'v', 'o', 'k', 'e', '['] ++ key.toList ++ [']']] := by
    refine statements_plain (by simp) fun c hc => ?_
    rw [List.append_assoc, List.mem_append, List.mem_append] at hc
    have hfixed : ∀ c ∈ ['R', 'e', 'v', 'o', 'k', 'e', '[', ']'],
        isMark c = false ∧ isSpace c = false := plain_of_all (by decide)
    rcases hc with hc | hc | hc
    · exact hfixed c (List.mem_append_left [']'] hc)
    · exact isKeyCharacter_plain (h.characters c hc)
    · exact hfixed c (List.mem_append_right ['R', 'e', 'v', 'o', 'k', 'e', '['] hc)
  unfold readQuestion
  rw [revoke_toList]
  simp only [List.cons_append, List.nil_append] at hstatements ⊢
  rw [hstatements, List.map_singleton, readStatement, matchRevision_revoke h]
  simp only [Option.map_none, String.ofList_toList]

/-- A value without white space and marks. -/
structure IsWord (lib : TextLibrary) (value : String) : Prop where
  nonempty : value.toList ≠ []
  characters : ∀ c ∈ value.toList, isKeyCharacter lib c = true

theorem goal_toList (key value : String) :
    ("Goal[" ++ key ++ "]:" ++ value).toList =
      ['G', 'o', 'a', 'l', '['] ++ key.toList ++ [']', ':'] ++ value.toList := by
  have hopen : "Goal[".toList = ['G', 'o', 'a', 'l', '['] := by decide
  have hclose : "]:".toList = [']', ':'] := by decide
  rw [String.toList_append, String.toList_append, String.toList_append, hopen, hclose]

theorem afterOneOf_goal {rest : Text} :
    afterOneOf [("goal", "goal"), ("constraint", "constraint"), ("目标", "goal"), ("约束", "constraint")]
      ('G' :: 'o' :: 'a' :: 'l' :: rest) = some ("goal", rest) := by
  rfl

theorem IsWord.someValue {value : String} (h : IsWord lib value) :
    someValue value.toList = some value.toList := by
  obtain ⟨c, rest, hvalue⟩ := List.exists_cons_of_ne_nil h.nonempty
  have hspace : isSpace c = false :=
    (isKeyCharacter_plain (h.characters c (by rw [hvalue]; exact List.mem_cons_self ..))).2
  have hdrop : value.toList.dropWhile isSpace = value.toList := by
    rw [hvalue, List.dropWhile_cons_of_neg (by rw [hspace]; decide)]
  have hnewline : '\n' ∉ value.toList := fun hmem => by
    have hspace := (isKeyCharacter_plain (h.characters _ hmem)).2
    rw [isSpace_newline] at hspace
    cases hspace
  unfold TaskState.someValue
  rw [hdrop, hvalue]
  rw [hvalue] at hnewline
  exact if_neg (by rintro (hnil | hmem); cases hnil; exact hnewline hmem)

theorem matchExplicit_goal {key value : String} (h : IsKey lib 64 key) (hvalue : IsWord lib value) :
    matchExplicit lib ('G' :: 'o' :: 'a' :: 'l' :: '[' :: (key.toList ++ ']' :: ':' :: value.toList)) =
      some ("goal", key.toList, value.toList) := by
  have hcolon : (':' :: value.toList).dropWhile isSpace = ':' :: value.toList :=
    List.dropWhile_cons_of_neg (by decide)
  unfold matchExplicit
  rw [afterOneOf_goal]
  simp only [Option.bind_eq_bind, Option.bind_some, bracketedKey_of h, hcolon]
  rw [hvalue.someValue]
  rfl

theorem matchRevision_goal {rest : Text} :
    matchRevision lib ('G' :: 'o' :: 'a' :: 'l' :: rest) = none := by
  rfl

/-- `Goal[key]:value`. -/
theorem readQuestion_goal {key value : String} (h : IsKey lib 64 key) (hvalue : IsWord lib value) :
    readQuestion lib ("Goal[" ++ key ++ "]:" ++ value) = [.explicit "goal" key value] := by
  have hstatements : statements lib ('G' :: ['o', 'a', 'l', '['] ++ key.toList ++ [']', ':'] ++ value.toList) =
      ['G' :: ['o', 'a', 'l', '['] ++ key.toList ++ [']', ':'] ++ value.toList] := by
    refine statements_plain (by simp) fun c hc => ?_
    rw [List.append_assoc, List.append_assoc, List.mem_append, List.mem_append, List.mem_append] at hc
    have hfixed : ∀ c ∈ ['G', 'o', 'a', 'l', '[', ']', ':'],
        isMark c = false ∧ isSpace c = false := plain_of_all (by decide)
    rcases hc with hc | hc | hc | hc
    · exact hfixed c (List.mem_append_left [']', ':'] hc)
    · exact isKeyCharacter_plain (h.characters c hc)
    · exact hfixed c (List.mem_append_right ['G', 'o', 'a', 'l', '['] hc)
    · exact isKeyCharacter_plain (hvalue.characters c hc)
  unfold readQuestion
  rw [goal_toList]
  simp only [List.cons_append, List.nil_append, List.append_assoc] at hstatements ⊢
  rw [hstatements, List.map_singleton, readStatement, matchRevision_goal, matchExplicit_goal h hvalue]
  simp only [String.ofList_toList]

/-- A prohibition asked on its own. -/
theorem readQuestion_prohibition {question value : String}
    (h : .prohibition value ∈ readQuestion lib question) :
    ∃ statement, readQuestion lib statement = [.prohibition value] := by
  obtain ⟨t, ht, hvalue⟩ := List.mem_map.mp h
  refine ⟨.ofList t, ?_⟩
  unfold readQuestion
  rw [String.toList_ofList, statements_again ht, List.map_singleton, hvalue]

end ProofAgent.TaskState
