import ProofAgent.Answers.CanonicalTexts
import ProofAgent.Base.PyValue
import ProofAgent.Base.RegexSubstitution

/-! # Queries for the public web

A query is sanitized before a public search gets it: one sensitive pattern after the other gives way
to a label in brackets. No telephone number, no identifier and no secret is left of any query. What
takes the place of a telephone number may complete an address that was none before, so addresses are
left of no query without telephone numbers. -/
namespace ProofAgent.Tools

open Base Base.Regex
open Answers (CharacterLibrary Goes anyCase digit isAsciiDigit isCjk mem_run_one mem_run_text
  occurs oneOf replace wordBoundary)
open TaskState (Text isAsciiWord isLetter strip)

/-- The character classes of `re` are the ones of ASCII on its characters. -/
structure QueryLibrary extends CharacterLibrary where
  word_ascii : ∀ c, c.toNat < 128 → isWord c = isAsciiWord c
  decimal_ascii : ∀ c, c.toNat < 128 → isDecimal c = isAsciiDigit c

/-- The classes that have no more than the characters of ASCII. -/
def asciiLibrary : QueryLibrary where
  nfc text := text
  isWord := isAsciiWord
  isDecimal := isAsciiDigit
  decimalValue c := c.toNat - 48
  nfc_newline _ _ := rfl
  word_newline := rfl
  decimal_newline := rfl
  word_ascii _ _ := rfl
  decimal_ascii _ _ := rfl

/-! ## Patterns -/

/-- `[^/\s]`. -/
def isHostChar (c : Char) : Bool := c ≠ '/' && !isSpace c

/-- `[A-Za-z0-9]` with `re.IGNORECASE`. -/
def isAnyCaseAlphanum (c : Char) : Bool := c.isAlphanum || "İıſ\u212a".toList.contains c

/-- `(?:localhost|127\.0\.0\.1|[^/\s]*\.(?:local|internal))`. -/
def internalHost : Regex :=
  anyOf [text "localhost", text "127.0.0.1",
    concat [star (char isHostChar), one '.', anyOf [text "local", text "internal"]]]

/-- `https?://(?:localhost|127\.0\.0\.1|[^/\s]*\.(?:local|internal))\S*`. -/
def internalUrl : Regex :=
  seq (concat [text "http", opt (one 's'), text "://", internalHost]) (star (char fun c => !isSpace c))

section
variable (lib : QueryLibrary)

/-- `\b`. -/
def boundary : Regex := wordBoundary lib.toCharacterLibrary

/-- `\b[A-Za-z0-9._%+-]+@[A-Za-z0-9.-]+\.[A-Za-z]{2,}\b`. -/
def emailAddress : Regex :=
  concat [boundary lib, plus (char fun c => c.isAlphanum || "._%+-".toList.contains c), one '@',
    plus (char fun c => c.isAlphanum || ".-".toList.contains c), one '.',
    many (char Char.isAlpha) 2 none, boundary lib]

/-- `(?:\+?\d[\s.-]?){10,}\d`. -/
def phoneNumber : Regex :=
  concat [many (concat [opt (one '+'), digit lib.toCharacterLibrary,
    opt (char fun c => isSpace c || ".-".toList.contains c)]) 10 none, digit lib.toCharacterLibrary]

/-- `\b(?:words)[-_][tail]{min,}\b` with `re.IGNORECASE`. -/
def labelled (words : List String) (tail : Char → Bool) (min : Nat) : Regex :=
  concat [boundary lib, anyOf (words.map anyCase), oneOf "-_", many (char tail) min none, boundary lib]

/-- `\bCUST[-_][A-Za-z0-9-]+\b`. -/
def customerId : Regex := labelled lib ["cust"] (fun c => isAnyCaseAlphanum c || c = '-') 1

/-- `\b(?:CLM|POL|CLAIM|POLICY)[-_][A-Za-z0-9-]+\b`. -/
def resourceId : Regex :=
  labelled lib ["clm", "pol", "claim", "policy"] (fun c => isAnyCaseAlphanum c || c = '-') 1

/-- `\b(?:sk|pk|api|token)[-_][A-Za-z0-9]{16,}\b`. -/
def secretToken : Regex := labelled lib ["sk", "pk", "api", "token"] isAnyCaseAlphanum 16

/-! ## Sanitizing -/

structure SanitizationPattern where
  category : String
  replacement : String
  pattern : Regex

/-- `_SANITIZATION_PATTERNS`. -/
def sanitizationPatterns : List SanitizationPattern :=
  [⟨"internal_url", "[INTERNAL_URL]", internalUrl⟩, ⟨"contact", "[CONTACT]", emailAddress lib⟩,
    ⟨"contact", "[CONTACT]", phoneNumber lib⟩, ⟨"customer_id", "[CUSTOMER_ID]", customerId lib⟩,
    ⟨"resource_id", "[RESOURCE_ID]", resourceId lib⟩, ⟨"secret", "[SECRET]", secretToken lib⟩]

/-- Replace the patterns one after the other: the new text, and the categories that were found. -/
def substituteAll : List SanitizationPattern → Text → Text × List String
  | [], query => (query, [])
  | p :: rest, query =>
    let found := substituteAll rest (replace p.pattern p.replacement query)
    (found.1, if occurs p.pattern query then p.category :: found.2 else found.2)

/-- `UntrustedWebContext`, without results. -/
structure UntrustedWebContext where
  sanitizedQuery : Text
  sanitizationApplied : Bool
  sanitizationCategories : List String
  searchable : Bool
  deriving DecidableEq

/-- `_is_searchable`. -/
def isSearchable (sanitizedQuery : Text) : Bool :=
  let remaining := replace (concat [one '[', plus (char fun c => c.isUpper || c = '_'), one ']']) " "
    sanitizedQuery
  let remaining := replace (plus (char fun c => !(c.isAlphanum || isCjk c))) " " remaining
  strip remaining ≠ []

/-- `sanitize_web_search_query`. -/
def sanitizeWebSearchQuery (query : Text) : UntrustedWebContext :=
  let found := substituteAll (sanitizationPatterns lib) query
  { sanitizedQuery := found.1
    sanitizationApplied := found.2 ≠ []
    sanitizationCategories := sortedSet found.2
    searchable := isSearchable found.1 }

end

/-! ## Expressions that look into no bracket -/

section
variable {P : (Option Char → Option Char → Bool) → Prop} {c : Char}

theorem concat_apart : ∀ {rs : List Regex}, (∀ r ∈ rs, r.Apart c) → (concat rs).Apart c
  | [], _ => trivial
  | r :: rest, h => ⟨h r (List.mem_cons_self ..), concat_apart fun r' hr' =>
      h r' (List.mem_cons_of_mem _ hr')⟩

theorem anyOf_apart : ∀ {rs : List Regex}, (∀ r ∈ rs, r.Apart c) → (anyOf rs).Apart c
  | [], _ => rfl
  | [r], h => h r (List.mem_cons_self ..)
  | r :: r' :: rest, h => ⟨h r (List.mem_cons_self ..), anyOf_apart fun s hs =>
      h s (List.mem_cons_of_mem _ hs)⟩

theorem concat_betweens : ∀ {rs : List Regex}, (∀ r ∈ rs, r.Betweens P) → (concat rs).Betweens P
  | [], _ => trivial
  | r :: rest, h => ⟨h r (List.mem_cons_self ..), concat_betweens fun r' hr' =>
      h r' (List.mem_cons_of_mem _ hr')⟩

theorem anyOf_betweens : ∀ {rs : List Regex}, (∀ r ∈ rs, r.Betweens P) → (anyOf rs).Betweens P
  | [], _ => trivial
  | [r], h => h r (List.mem_cons_self ..)
  | r :: r' :: rest, h => ⟨h r (List.mem_cons_self ..), anyOf_betweens fun s hs =>
      h s (List.mem_cons_of_mem _ hs)⟩

theorem concat_proper : ∀ {rs : List Regex} {r : Regex}, r ∈ rs → r.Proper → (concat rs).Proper
  | s :: rest, r, h, hr => by
    rcases List.mem_cons.mp h with rfl | h
    · exact .inl hr
    · exact .inr (concat_proper h hr)

theorem concat_last {p : Option Char → Option Char → Bool} : ∀ {rs : List Regex} {c d : Cursor},
    d ∈ (concat (rs ++ [between p])).run c → p d.before.head? d.after.head? = true
  | [], c, d, h => by
    obtain ⟨e, he, hd⟩ := mem_run_seq.mp h
    obtain rfl : d = e := List.mem_singleton.mp hd
    obtain ⟨rfl, hp⟩ := mem_run_between.mp he
    exact hp
  | r :: rest, c, d, h => by
    obtain ⟨e, -, hd⟩ := mem_run_seq.mp h
    exact concat_last hd

/-- A sequence between two boundaries. -/
theorem concat_edged {p : Option Char → Option Char → Bool} (rs : List Regex) :
    (concat (between p :: (rs ++ [between p]))).Edged (· = p) := by
  intro before after d h p' hp'
  obtain rfl : p' = p := hp'
  obtain ⟨e, he, hd⟩ := mem_run_seq.mp (matchAt_mem h)
  obtain ⟨rfl, hfirst⟩ := mem_run_between.mp he
  exact ⟨hfirst, concat_last hd⟩

end

/-! ## The sensitive patterns -/

section
variable {lib : QueryLibrary}

/-- The kind of the boundaries of words. -/
def WordEdge (lib : QueryLibrary) (p : Option Char → Option Char → Bool) : Prop :=
  p = fun before after => before.any lib.isWord != after.any lib.isWord

/-- The labels, without their brackets. -/
def labels : List Text :=
  ["INTERNAL_URL".toList, "CONTACT".toList, "CUSTOMER_ID".toList, "RESOURCE_ID".toList, "SECRET".toList]

/-- What a pattern needs so that no substitution makes a place for it: it looks into no bracket, it is
in no label, and all its boundaries are of a kind. -/
structure Bracketed (P : (Option Char → Option Char → Bool) → Prop) (q : Regex) : Prop where
  proper : q.Proper
  betweens : q.Betweens P
  opening : q.Apart '['
  closing : q.Apart ']'
  labels : ∀ label ∈ labels, q.Unfound [] label

theorem word_opening (lib : QueryLibrary) : lib.isWord '[' = false := lib.word_ascii '[' (by decide)

theorem word_closing (lib : QueryLibrary) : lib.isWord ']' = false := lib.word_ascii ']' (by decide)

theorem boundary_apart {c : Char} (h : lib.isWord c = false) : (boundary lib).Apart c := by
  constructor
  · intro before
    simp [h]
  · intro after
    simp [h]

theorem anyCase_apart {c : Char} {word : String} (h : ∀ letter ∈ word.toList, isLetter letter c = false) :
    (anyCase word).Apart c := by
  refine concat_apart fun r hr => ?_
  obtain ⟨letter, hletter, rfl⟩ := List.mem_map.mp hr
  exact h letter hletter

theorem labelled_apart {words : List String} {tail : Char → Bool} {min : Nat} {c : Char}
    (hword : lib.isWord c = false) (hc : "-_".toList.contains c = false) (htail : tail c = false)
    (hwords : ∀ word ∈ words, ∀ letter ∈ word.toList, isLetter letter c = false) :
    (labelled lib words tail min).Apart c := by
  refine concat_apart fun r hr => ?_
  simp only [List.mem_cons, List.not_mem_nil, or_false] at hr
  rcases hr with rfl | rfl | rfl | rfl | rfl
  · exact boundary_apart hword
  · refine anyOf_apart fun r hr => ?_
    obtain ⟨word, hmem, rfl⟩ := List.mem_map.mp hr
    exact anyCase_apart (hwords word hmem)
  · exact hc
  · exact htail
  · exact boundary_apart hword

theorem labelled_betweens (words : List String) (tail : Char → Bool) (min : Nat) :
    (labelled lib words tail min).Betweens (WordEdge lib) := by
  refine concat_betweens fun r hr => ?_
  simp only [List.mem_cons, List.not_mem_nil, or_false] at hr
  rcases hr with rfl | rfl | rfl | rfl | rfl
  · exact rfl
  · refine anyOf_betweens fun r hr => ?_
    obtain ⟨word, -, rfl⟩ := List.mem_map.mp hr
    refine concat_betweens fun r hr => ?_
    obtain ⟨letter, -, rfl⟩ := List.mem_map.mp hr
    trivial
  · trivial
  · trivial
  · exact rfl

theorem labelled_proper (words : List String) (tail : Char → Bool) (min : Nat) :
    (labelled lib words tail min).Proper :=
  concat_proper (r := oneOf "-_") (by simp) trivial

theorem labelled_edged (words : List String) (tail : Char → Bool) (min : Nat) :
    (labelled lib words tail min).Edged (WordEdge lib) :=
  concat_edged [anyOf (words.map anyCase), oneOf "-_", many (char tail) min none]

/-- The words are in no label, whatever stands at their ends. -/
theorem unfound_labels {q : Regex} (hproper : q.Proper)
    (h : labels.all (fun label => (q.relax.search label).isNone) = true) :
    ∀ label ∈ labels, q.Unfound [] label := by
  intro label hlabel
  have hnone := List.all_eq_true.mp h label hlabel
  exact .of_relax hproper (search_eq_none.mp (Option.isNone_iff_eq_none.mp hnone))

end

/-! ## Internal addresses -/

/-- The expression takes just the texts in a language, and notes nothing. -/
def Spells (r : Regex) (L : Text → Prop) : Prop :=
  ∀ c d : Cursor, d ∈ r.run c ↔ ∃ w, L w ∧ Goes c d w

namespace Spells

variable {r s : Regex} {L M : Text → Prop}

theorem nil : Spells .nil (· = []) := by
  intro c d
  constructor
  · intro h
    obtain rfl := List.mem_singleton.mp h
    exact ⟨[], rfl, .refl d⟩
  · rintro ⟨w, rfl, hgoes⟩
    exact List.mem_singleton.mpr hgoes.of_eq

theorem text (word : String) : Spells (Regex.text word) (· = word.toList) := by
  intro c d
  rw [mem_run_text]
  exact ⟨fun h => ⟨_, rfl, h⟩, fun ⟨_, h, hgoes⟩ => h ▸ hgoes⟩

theorem one (x : Char) : Spells (Regex.one x) (· = [x]) := by
  intro c d
  rw [mem_run_one]
  exact ⟨fun h => ⟨_, rfl, h⟩, fun ⟨_, h, hgoes⟩ => h ▸ hgoes⟩

theorem opt (x : Char) : Spells (Regex.opt (Regex.one x)) fun w => w = [] ∨ w = [x] := by
  intro c d
  rw [opt_run, List.mem_append, List.mem_filter, mem_run_one, List.mem_singleton]
  constructor
  · rintro (⟨h, -⟩ | rfl)
    · exact ⟨[x], .inr rfl, h⟩
    · exact ⟨[], .inl rfl, .refl d⟩
  · rintro ⟨w, rfl | rfl, h⟩
    · exact .inr h.of_eq
    · refine .inl ⟨h, decide_eq_true ?_⟩
      rw [h.length_eq]
      exact Nat.lt_add_of_pos_left Nat.zero_lt_one

theorem star (p : Char → Bool) : Spells (Regex.star (char p)) fun w => ∀ x ∈ w, p x = true := by
  intro c d
  constructor
  · intro h
    obtain ⟨n, hsteps, -⟩ := mem_run_many.mp h
    obtain ⟨taken, htook, hgroup, hall, -⟩ := steps_char.mp hsteps
    exact ⟨taken, hall, htook, hgroup⟩
  · rintro ⟨taken, hall, hgoes⟩
    exact mem_run_many.mpr ⟨taken.length, steps_char.mpr ⟨taken, hgoes.toTook, hgoes.group, hall, rfl⟩,
      Nat.zero_le _, fun _ h => by cases h⟩

theorem seq (hr : Spells r L) (hs : Spells s M) :
    Spells (.seq r s) fun w => ∃ a b, w = a ++ b ∧ L a ∧ M b := by
  intro c d
  rw [mem_run_seq]
  constructor
  · rintro ⟨e, he, hd⟩
    obtain ⟨a, ha, hgoes⟩ := (hr c e).mp he
    obtain ⟨b, hb, hgoes'⟩ := (hs e d).mp hd
    exact ⟨a ++ b, ⟨a, b, rfl, ha, hb⟩, hgoes.trans hgoes'⟩
  · rintro ⟨w, ⟨a, b, rfl, ha, hb⟩, hgoes⟩
    obtain ⟨e, he, hd⟩ := hgoes.split
    exact ⟨e, (hr c e).mpr ⟨a, ha, he⟩, (hs e d).mpr ⟨b, hb, hd⟩⟩

theorem alt (hr : Spells r L) (hs : Spells s M) : Spells (.alt r s) fun w => L w ∨ M w := by
  intro c d
  rw [mem_run_alt, hr c d, hs c d]
  constructor
  · rintro (⟨w, hw, hgoes⟩ | ⟨w, hw, hgoes⟩)
    · exact ⟨w, .inl hw, hgoes⟩
    · exact ⟨w, .inr hw, hgoes⟩
  · rintro ⟨w, hw | hw, hgoes⟩
    · exact .inl ⟨w, hw, hgoes⟩
    · exact .inr ⟨w, hw, hgoes⟩

/-- There is a success just where a text of the language begins. -/
theorem run_ne_nil (hr : Spells r L) {c : Cursor} :
    r.run c ≠ [] ↔ ∃ w rest, c.after = w ++ rest ∧ L w := by
  constructor
  · intro h
    obtain ⟨d, hd⟩ := List.exists_mem_of_ne_nil _ h
    obtain ⟨w, hw, hgoes⟩ := (hr c d).mp hd
    exact ⟨w, d.after, hgoes.after, hw⟩
  · rintro ⟨w, rest, hafter, hw⟩
    exact List.ne_nil_of_mem ((hr c ⟨w.reverse ++ c.before, rest, c.group⟩).mpr
      ⟨w, hw, ⟨hafter, rfl⟩, rfl⟩)

end Spells

def schemes : List Text := ["http://".toList, "https://".toList]

def exactHosts : List Text := ["localhost".toList, "127.0.0.1".toList]

def hostSuffixes : List Text := [".local".toList, ".internal".toList]

/-- An internal host, of which `part` is before its suffix. -/
def HostOf (part host : Text) : Prop :=
  (∀ y ∈ part, isHostChar y = true) ∧ (part = [] ∧ host ∈ exactHosts ∨ host ∈ hostSuffixes)

/-- A text begins with an internal address. -/
def InternalAt (t : Text) : Prop :=
  ∃ scheme ∈ schemes, ∃ part host rest, t = scheme ++ (part ++ (host ++ rest)) ∧ HostOf part host

theorem spells_internalHost : Spells internalHost fun w => ∃ part host, w = part ++ host ∧
    HostOf part host := by
  have hspells := (Spells.text "localhost").alt ((Spells.text "127.0.0.1").alt
    ((Spells.star isHostChar).seq ((Spells.one '.').seq
      (((Spells.text "local").alt (Spells.text "internal")).seq .nil))))
  intro c d
  rw [show d ∈ internalHost.run c ↔ _ from hspells c d]
  refine exists_congr fun w => and_congr_left fun _ => ?_
  constructor
  · rintro (rfl | rfl | ⟨part, _, rfl, hpart, _, _, rfl, rfl, _, _, rfl, hword, rfl⟩)
    · exact ⟨[], _, rfl, nofun, .inl ⟨rfl, List.mem_cons_self ..⟩⟩
    · exact ⟨[], _, rfl, nofun, .inl ⟨rfl, List.mem_cons_of_mem _ (List.mem_cons_self ..)⟩⟩
    · refine ⟨part, _, rfl, hpart, .inr ?_⟩
      rcases hword with rfl | rfl
      · exact List.mem_cons_self ..
      · exact List.mem_cons_of_mem _ (List.mem_cons_self ..)
  · rintro ⟨part, host, rfl, hpart, ⟨rfl, hhost⟩ | hhost⟩
    · simp only [exactHosts, List.mem_cons, List.not_mem_nil, or_false] at hhost
      rcases hhost with rfl | rfl
      · exact .inl rfl
      · exact .inr (.inl rfl)
    · simp only [hostSuffixes, List.mem_cons, List.not_mem_nil, or_false] at hhost
      refine .inr (.inr ⟨part, host, rfl, hpart, ['.'], host.tail, ?_, rfl, host.tail, [], ?_, ?_, rfl⟩)
      · rcases hhost with rfl | rfl <;> rfl
      · exact (List.append_nil _).symm
      · rcases hhost with rfl | rfl
        · exact .inl rfl
        · exact .inr rfl

/-- **An internal address** is found just where one begins. -/
theorem internalUrl_run {c : Cursor} : internalUrl.run c ≠ [] ↔ InternalAt c.after := by
  have hspells := ((Spells.text "http").seq ((Spells.opt 's').seq ((Spells.text "://").seq
    (spells_internalHost.seq .nil)))).seq (Spells.star fun c => !isSpace c)
  rw [show internalUrl.run c ≠ [] ↔ _ from hspells.run_ne_nil]
  constructor
  · rintro ⟨_, rest, hafter, _, tail, rfl, ⟨_, _, rfl, rfl, _, _, rfl, hs, _, _, rfl, rfl, _, _, rfl,
      ⟨part, host, rfl, hhost⟩, rfl⟩, -⟩
    rcases hs with rfl | rfl
    · refine ⟨_, List.mem_cons_self .., part, host, tail ++ rest, ?_, hhost⟩
      rw [hafter]
      simp
    · refine ⟨_, List.mem_cons_of_mem _ (List.mem_cons_self ..), part, host, tail ++ rest, ?_, hhost⟩
      rw [hafter]
      simp
  · rintro ⟨scheme, hscheme, part, host, rest, hafter, hhost⟩
    simp only [schemes, List.mem_cons, List.not_mem_nil, or_false] at hscheme
    refine ⟨scheme ++ (part ++ host), rest, by rw [hafter]; simp, scheme ++ (part ++ host), [],
      (List.append_nil _).symm, ?_, nofun⟩
    have hrest : ∀ s : Text, s = [] ∨ s = ['s'] → ∃ a b, "http".toList ++ (s ++ ("://".toList ++
        (part ++ host))) = a ++ b ∧ a = "http".toList ∧ ∃ a' b', b = a' ++ b' ∧ (a' = [] ∨ a' = ['s']) ∧
        ∃ a b, b' = a ++ b ∧ a = "://".toList ∧ ∃ a b', b = a ++ b' ∧
          (∃ part host, a = part ++ host ∧ HostOf part host) ∧ b' = [] :=
      fun s hs => ⟨_, _, rfl, rfl, _, _, rfl, hs, _, _, rfl, rfl, part ++ host, [],
        (List.append_nil _).symm, ⟨part, host, rfl, hhost⟩, rfl⟩
    rcases hscheme with rfl | rfl
    · exact hrest [] (.inl rfl)
    · exact hrest ['s'] (.inr rfl)

/-! ## What addresses are made of -/

theorem isHostChar_of_word {c : Char} (h : isAsciiWord c = true) : isHostChar c = true := by
  unfold isHostChar
  rw [TaskState.isSpace_of_isAsciiWord h]
  have hne : c ≠ '/' := by
    rintro rfl
    exact absurd h (by decide)
  simp [hne]

theorem isHostChar_of_alphanum {c : Char} (h : c.isAlphanum = true) : isHostChar c = true :=
  isHostChar_of_word (by rw [isAsciiWord, h, Bool.true_or])

theorem isHostChar_of_mem {chars : List Char} (hchars : chars.all isHostChar = true) {c : Char}
    (h : chars.contains c = true) : isHostChar c = true :=
  List.all_eq_true.mp hchars c (List.contains_iff_mem.mp h)

theorem isHostChar_of_letter {letter c : Char} (hletter : letter.isLower = true)
    (h : isLetter letter c = true) : isHostChar c = true := by
  unfold isLetter at h
  have hlower : c.toLower = letter → isHostChar c = true := by
    intro hc
    refine isHostChar_of_alphanum ?_
    unfold Char.toLower at hc
    unfold Char.isAlphanum Char.isAlpha
    split at hc
    · rename_i hupper
      rw [show c.isUpper = true from decide_eq_true hupper]
      rfl
    · rw [hc, hletter]
      simp
  simp only [Bool.or_eq_true, Bool.and_eq_true, decide_eq_true_eq] at h
  rcases h with ((h | ⟨-, rfl | rfl⟩) | ⟨-, rfl⟩) | ⟨-, rfl⟩
  · exact hlower h
  all_goals decide

/-- The parts of addresses of their own have no character of a label. -/
theorem part_notMem_label {word label : Text} (hword : word ∈ schemes ++ exactHosts ++ hostSuffixes)
    (hlabel : label ∈ labels) : ∀ x ∈ word, x ∉ '[' :: (label ++ [']']) := by
  have hall : (schemes ++ exactHosts ++ hostSuffixes).all (fun word => labels.all fun label =>
      word.all fun x => !('[' :: (label ++ [']'])).contains x) = true := by decide
  intro x hx hmem
  have hx := List.all_eq_true.mp (List.all_eq_true.mp (List.all_eq_true.mp hall word hword) label hlabel)
    x hx
  rw [List.contains_iff_mem.mpr hmem] at hx
  cases hx

theorem scheme_cons {scheme : Text} (h : scheme ∈ schemes) : ∃ tail, scheme = 'h' :: tail := by
  simp only [schemes, List.mem_cons, List.not_mem_nil, or_false] at h
  rcases h with rfl | rfl
  · exact ⟨_, rfl⟩
  · exact ⟨_, rfl⟩

theorem suffix_cons {host : Text} (h : host ∈ hostSuffixes) : ∃ tail, host = '.' :: tail := by
  simp only [hostSuffixes, List.mem_cons, List.not_mem_nil, or_false] at h
  rcases h with rfl | rfl
  · exact ⟨_, rfl⟩
  · exact ⟨_, rfl⟩

/-- An address in a text with labels in place of its matches, where the matches of other patterns
have been replaced. -/
theorem internalAt_of_rewrites {keep : List Char → Prop} {label : Text} (hlabel : label ∈ labels)
    {a : Text} {scheme part host rest : Text} (hscheme : scheme ∈ schemes) (hhost : HostOf part host)
    (h : Rewrites keep (fun m _ => ∀ y ∈ m, isHostChar y = true) ('[' :: (label ++ [']'])) a
      (scheme ++ (part ++ (host ++ rest)))) : InternalAt a := by
  have hne : '[' :: (label ++ [']']) ≠ [] := List.cons_ne_nil _ _
  have hkeeps : ∀ {word : Text}, word ∈ schemes ++ exactHosts ++ hostSuffixes →
      ∀ x ∈ word, x ∉ '[' :: (label ++ [']']) := fun hword => part_notMem_label hword hlabel
  obtain ⟨a₁, rfl, hzone⟩ := h.literal_inv hne (hkeeps (by simp [hscheme]))
  obtain ⟨hpart, hwhole⟩ := hhost
  rcases hwhole with ⟨rfl, hexact⟩ | hsuffix
  · rw [List.nil_append] at hzone
    obtain ⟨a₂, rfl, -⟩ := hzone.literal_inv hne (hkeeps (by simp [hexact]))
    exact ⟨scheme, hscheme, [], host, a₂, rfl, nofun, .inl ⟨rfl, hexact⟩⟩
  · obtain ⟨tail, htail⟩ := suffix_cons hsuffix
    have hout : ∀ x ∈ host, x ∉ '[' :: (label ++ [']']) := hkeeps (by simp [hsuffix])
    rw [htail, List.cons_append] at hzone
    obtain ⟨part', a₂, rfl, hall, hend⟩ := Rewrites.split (fun m a hm => hm)
      (hout '.' (by simp [htail])) hpart hzone
    rw [show '.' :: (tail ++ rest) = host ++ rest by rw [htail, List.cons_append]] at hend
    obtain ⟨a₃, rfl, -⟩ := hend.literal_inv hne hout
    exact ⟨scheme, hscheme, part', host, a₃, rfl, hall, .inr hsuffix⟩

theorem internalUrl_proper : internalUrl.Proper := .inl (concat_proper (r := text "http") (by simp)
  (.inl trivial))

theorem internalUrl_unfound {before after : Text} : internalUrl.Unfound before after ↔
    ∀ u v, u ++ v = after → ¬ InternalAt v := by
  have hplace : ∀ before v : Text, internalUrl.matchAt before v = none ↔ ¬ InternalAt v := by
    intro before v
    rw [matchAt_eq_none internalUrl_proper]
    exact ⟨fun h hat => internalUrl_run.mpr hat h, fun h => by_contra fun hne => h (internalUrl_run.mp hne)⟩
  exact forall_congr' fun u => forall_congr' fun v => imp_congr_right fun _ => hplace _ v

/-- **Addresses elsewhere**: replacing matches without white space and slashes makes no internal
address. -/
theorem internalUrl_subBy {r : Regex} (hr : r.Within fun x => isHostChar x = true) {label : Text}
    (hlabel : label ∈ labels) {text : Text} (h : internalUrl.Unfound [] text) :
    internalUrl.Unfound [] (r.subBy (fun _ => '[' :: (label ++ [']'])) text) := by
  rw [internalUrl_unfound] at h ⊢
  rw [subBy_eq (f := fun _ => '[' :: (label ++ [']']))]
  have hrewrites : Rewrites (fun _ => True) (fun m _ => ∀ y ∈ m, isHostChar y = true)
      ('[' :: (label ++ [']'])) text (rewriteFrom r (fun _ => '[' :: (label ++ [']'])) [] text) :=
    rewrites_rewriteFrom (fun _ _ _ _ => trivial) (fun _ _ _ hm => matchAt_within hr hm) _ [] text
      (Nat.le_refl _)
  rintro u v huv ⟨scheme, hscheme, part, host, rest, rfl, hhost⟩
  obtain ⟨tail, rfl⟩ := scheme_cons hscheme
  rw [← huv] at hrewrites
  obtain ⟨u', a, rfl, -, hplace⟩ := Rewrites.split (z := fun _ => True) (fun _ _ _ _ _ => trivial)
    (part_notMem_label (show 'h' :: tail ∈ _ by simp [hscheme]) hlabel 'h' (List.mem_cons_self ..))
    (fun _ _ => trivial) hrewrites
  exact h u' a rfl (internalAt_of_rewrites hlabel hscheme hhost hplace)

/-- What is before the white space that ends a replaced address stays. -/
theorem internalUrl_self {text : Text} :
    internalUrl.Unfound [] (internalUrl.subBy (fun _ => "[INTERNAL_URL]".toList) text) := by
  have hlabel : "INTERNAL_URL".toList ∈ labels := List.mem_cons_self ..
  have hne : "[INTERNAL_URL]".toList ≠ [] := by simp
  have hout : ∀ {word : Text}, word ∈ schemes ++ exactHosts ++ hostSuffixes →
      ∀ x ∈ word, x ∉ "[INTERNAL_URL]".toList := fun hword => part_notMem_label hword hlabel
  rw [internalUrl_unfound]
  rw [subBy_eq (f := fun _ => "[INTERNAL_URL]".toList)]
  have hfound : ∀ before d (m : Text), internalUrl.matchAt before (m ++ d.after) = some d →
      (∃ y rest, m = y :: rest ∧ isSpace y = false) ∧ ∀ y rest, d.after = y :: rest → ¬ isSpace y = false := by
    intro before d m h
    constructor
    · have hshorter := matchAt_shorter h
      have hat := internalUrl_run.mp (List.ne_nil_of_mem (matchAt_mem h))
      obtain ⟨scheme, hscheme, part, host, rest, hafter, -⟩ := hat
      obtain ⟨tail, rfl⟩ := scheme_cons hscheme
      cases m with
      | nil => exact absurd hshorter (Nat.lt_irrefl _)
      | cons y m =>
        obtain ⟨rfl, -⟩ := List.cons.inj hafter
        exact ⟨'h', m, rfl, by decide⟩
    · intro y rest hy hspace
      have hend := seq_star_head (Option.filter_eq_some_iff.mp h).1 y rest hy
      rw [hspace] at hend
      cases hend
  have hrewrites : Rewrites (fun a => ¬ InternalAt a)
      (fun m a => (∃ y rest, m = y :: rest ∧ isSpace y = false) ∧
        ∀ y rest, a = y :: rest → ¬ isSpace y = false) "[INTERNAL_URL]".toList text
      (rewriteFrom internalUrl (fun _ => "[INTERNAL_URL]".toList) [] text) := rewrites_rewriteFrom
    (fun before x rest hnone hat => internalUrl_run.mpr hat ((matchAt_eq_none internalUrl_proper).mp hnone))
    hfound _ [] text (Nat.le_refl _)
  rintro u v huv ⟨scheme, hscheme, part, host, rest, rfl, hpart, hwhole⟩
  obtain ⟨tail, htail⟩ := scheme_cons hscheme
  rw [← huv, htail, List.cons_append] at hrewrites
  obtain ⟨u', a, -, -, hplace⟩ := Rewrites.split (z := fun _ => True) (fun _ _ _ _ _ => trivial)
    (@hout scheme (by simp [hscheme]) 'h' (by simp [htail])) (fun _ _ => trivial) hrewrites
  -- The address begins at a character that stays, where none began before.
  obtain ⟨a', rfl, hkeep, -⟩ := Rewrites.cons_inv hne (@hout scheme (by simp [hscheme]) 'h'
    (by simp [htail])) hplace
  rw [show 'h' :: (tail ++ (part ++ (host ++ rest))) = scheme ++ (part ++ (host ++ rest)) by
    rw [htail, List.cons_append]] at hplace
  obtain ⟨a₁, ha₁, hzone⟩ := hplace.literal_inv hne (hout (by simp [hscheme]))
  rw [ha₁] at hkeep
  rcases hwhole with ⟨rfl, hexact⟩ | hsuffix
  · rw [List.nil_append] at hzone
    obtain ⟨a₂, rfl, -⟩ := hzone.literal_inv hne (hout (by simp [hexact]))
    exact hkeep ⟨scheme, hscheme, [], host, a₂, rfl, nofun, .inl ⟨rfl, hexact⟩⟩
  · obtain ⟨last, hlast⟩ := suffix_cons hsuffix
    rw [hlast, List.cons_append] at hzone
    obtain ⟨a₂, rfl, hend⟩ := Rewrites.kept hne (fun _ _ hm => hm)
      (@hout host (by simp [hsuffix]) '.' (by simp [hlast])) (by decide)
      (fun y hy => (Bool.and_eq_true_iff.mp (hpart y hy)).2 |> (Bool.not_eq_true' _).mp) hzone
    rw [show '.' :: (last ++ rest) = host ++ rest by rw [hlast, List.cons_append]] at hend
    obtain ⟨a₃, rfl, -⟩ := hend.literal_inv hne (hout (by simp [hsuffix]))
    exact hkeep ⟨scheme, hscheme, part, host, a₃, rfl, hpart, .inr hsuffix⟩

/-! ## What is left of a query -/

section
variable {lib : QueryLibrary}

theorem decimal_label {c : Char} (h : c.toNat < 128) (hdigit : isAsciiDigit c = false) :
    lib.isDecimal c = false := (lib.decimal_ascii c h).trans hdigit

/-- A telephone number has a digit. -/
theorem phoneNumber_digit {c d : Cursor} (h : d ∈ (phoneNumber lib).run c) :
    ∃ x ∈ c.after, lib.isDecimal x = true := by
  obtain ⟨e, he, hd⟩ := mem_run_seq.mp h
  obtain ⟨f, hf, -⟩ := mem_run_seq.mp hd
  obtain ⟨x, rest, hafter, hx, -⟩ := mem_run_char.mp hf
  obtain ⟨taken, htook⟩ := run_took he
  refine ⟨x, ?_, hx⟩
  rw [htook.after, hafter]
  simp

theorem phoneNumber_apart {c : Char} (hdigit : lib.isDecimal c = false) (hplus : c ≠ '+')
    (hmark : ".-".toList.contains c = false) (hspace : isSpace c = false) :
    (phoneNumber lib).Apart c := by
  refine concat_apart fun r hr => ?_
  simp only [List.mem_cons, List.not_mem_nil, or_false] at hr
  rcases hr with rfl | rfl
  · refine @concat_apart c [_, _, _] fun r hr => ?_
    simp only [List.mem_cons, List.not_mem_nil, or_false] at hr
    rcases hr with rfl | rfl | rfl
    · exact decide_eq_false hplus
    · exact hdigit
    · show (isSpace c || _) = false
      rw [hspace, hmark]
      rfl
  · exact hdigit

theorem phoneNumber_proper : (phoneNumber lib).Proper :=
  concat_proper (r := digit lib.toCharacterLibrary) (by simp) trivial

/-- A telephone number has no boundaries. -/
theorem phoneNumber_betweens {P : (Option Char → Option Char → Bool) → Prop} :
    (phoneNumber lib).Betweens P := by
  refine concat_betweens fun r hr => ?_
  simp only [List.mem_cons, List.not_mem_nil, or_false] at hr
  rcases hr with rfl | rfl
  · refine @concat_betweens P [_, _, _] fun r hr => ?_
    simp only [List.mem_cons, List.not_mem_nil, or_false] at hr
    rcases hr with rfl | rfl | rfl
    · trivial
    · trivial
    · trivial
  · trivial

theorem phoneNumber_bracketed {P : (Option Char → Option Char → Bool) → Prop} :
    Bracketed P (phoneNumber lib) where
  proper := phoneNumber_proper
  betweens := phoneNumber_betweens
  opening := phoneNumber_apart (decimal_label (by decide) (by decide)) (by decide) (by decide) (by decide)
  closing := phoneNumber_apart (decimal_label (by decide) (by decide)) (by decide) (by decide) (by decide)
  labels := by
    intro label hlabel u v huv
    rw [matchAt_eq_none phoneNumber_proper, List.eq_nil_iff_forall_not_mem]
    intro d hd
    obtain ⟨x, hx, hdigit⟩ := phoneNumber_digit hd
    have hall : labels.all (fun label => label.all fun x => x.toNat < 128 && !isAsciiDigit x) = true := by
      decide
    have hlabelled := List.all_eq_true.mp (List.all_eq_true.mp hall label hlabel) x
      (huv ▸ List.mem_append_right u hx)
    obtain ⟨hascii, hno⟩ := Bool.and_eq_true_iff.mp hlabelled
    rw [decimal_label (of_decide_eq_true hascii) ((Bool.not_eq_true' _).mp hno)] at hdigit
    cases hdigit

theorem concat_within {z : Char → Prop} : ∀ {rs : List Regex}, (∀ r ∈ rs, r.Within z) →
    (concat rs).Within z
  | [], _ => trivial
  | r :: rest, h => ⟨h r (List.mem_cons_self ..), concat_within fun r' hr' =>
      h r' (List.mem_cons_of_mem _ hr')⟩

theorem anyOf_within {z : Char → Prop} : ∀ {rs : List Regex}, (∀ r ∈ rs, r.Within z) →
    (anyOf rs).Within z
  | [], _ => fun _ h => by cases h
  | [r], h => h r (List.mem_cons_self ..)
  | r :: r' :: rest, h => ⟨h r (List.mem_cons_self ..), anyOf_within fun s hs =>
      h s (List.mem_cons_of_mem _ hs)⟩

theorem isHostChar_or {chars : List Char} (hchars : chars.all isHostChar = true) {x : Char}
    (h : (x.isAlphanum || chars.contains x) = true) : isHostChar x = true := by
  rcases Bool.or_eq_true_iff.mp h with h | h
  · exact isHostChar_of_alphanum h
  · exact isHostChar_of_mem hchars h

theorem emailAddress_within : (emailAddress lib).Within fun x => isHostChar x = true := by
  refine concat_within fun r hr => ?_
  simp only [List.mem_cons, List.not_mem_nil, or_false] at hr
  rcases hr with rfl | rfl | rfl | rfl | rfl | rfl | rfl
  · trivial
  · exact fun x hx => isHostChar_or (by decide) hx
  · intro x hx
    rw [of_decide_eq_true hx]
    decide
  · exact fun x hx => isHostChar_or (by decide) hx
  · intro x hx
    rw [of_decide_eq_true hx]
    decide
  · exact fun x hx => isHostChar_of_alphanum (by rw [Char.isAlphanum, hx, Bool.true_or])
  · trivial

theorem emailAddress_edged : (emailAddress lib).Edged (WordEdge lib) :=
  concat_edged [plus _, one '@', plus _, one '.', many _ 2 none]

theorem emailAddress_apart {c : Char} (hword : lib.isWord c = false) (halnum : c.isAlphanum = false)
    (hmark : "._%+-@".toList.contains c = false) : (emailAddress lib).Apart c := by
  have hne : ∀ mark ∈ "._%+-@".toList, c ≠ mark := by
    rintro mark hmem rfl
    rw [List.contains_iff_mem.mpr hmem] at hmark
    cases hmark
  have hclass : ∀ {chars : List Char}, (∀ mark ∈ chars, mark ∈ "._%+-@".toList) →
      (c.isAlphanum || chars.contains c) = false := by
    intro chars hsub
    rw [halnum, Bool.false_or, Bool.eq_false_iff]
    exact fun h => hne c (hsub c (List.contains_iff_mem.mp h)) rfl
  refine concat_apart fun r hr => ?_
  simp only [List.mem_cons, List.not_mem_nil, or_false] at hr
  rcases hr with rfl | rfl | rfl | rfl | rfl | rfl | rfl
  · exact boundary_apart hword
  · exact hclass (by simp)
  · exact decide_eq_false (hne '@' (by simp))
  · exact hclass (by simp)
  · exact decide_eq_false (hne '.' (by simp))
  · exact (Bool.or_eq_false_iff.mp halnum).1
  · exact boundary_apart hword

theorem emailAddress_bracketed : Bracketed (WordEdge lib) (emailAddress lib) where
  proper := concat_proper (r := one '@') (by simp) trivial
  betweens := by
    refine concat_betweens fun r hr => ?_
    simp only [List.mem_cons, List.not_mem_nil, or_false] at hr
    rcases hr with rfl | rfl | rfl | rfl | rfl | rfl | rfl
    · exact rfl
    · trivial
    · trivial
    · trivial
    · trivial
    · trivial
    · exact rfl
  opening := emailAddress_apart (word_opening lib) (by decide) (by decide)
  closing := emailAddress_apart (word_closing lib) (by decide) (by decide)
  labels := unfound_labels (concat_proper (r := one '@') (by simp) trivial)
    (by decide : labels.all (fun label => ((emailAddress asciiLibrary).relax.search label).isNone) = true)

/-- The words of a pattern are of small letters. -/
def SmallWords (words : List String) : Prop :=
  words.all (fun word => word.toList.all Char.isLower) = true

theorem labelled_within {words : List String} {tail : Char → Bool} {min : Nat}
    (hwords : SmallWords words) (htail : ∀ x, tail x = true → isHostChar x = true) :
    (labelled lib words tail min).Within fun x => isHostChar x = true := by
  refine concat_within fun r hr => ?_
  simp only [List.mem_cons, List.not_mem_nil, or_false] at hr
  rcases hr with rfl | rfl | rfl | rfl | rfl
  · trivial
  · refine anyOf_within fun r hr => ?_
    obtain ⟨word, hword, rfl⟩ := List.mem_map.mp hr
    refine concat_within fun r hr => ?_
    obtain ⟨letter, hletter, rfl⟩ := List.mem_map.mp hr
    intro x hx
    exact isHostChar_of_letter (List.all_eq_true.mp (List.all_eq_true.mp hwords word hword) letter
      hletter) hx
  · exact fun x hx => isHostChar_of_mem (by decide) hx
  · exact htail
  · trivial

/-- A bracket is no letter. -/
theorem isLetter_bracket {letter : Char} (hletter : letter.isLower = true) :
    isLetter letter '[' = false ∧ isLetter letter ']' = false := by
  have hne : '[' ≠ letter ∧ ']' ≠ letter := by
    constructor
    · rintro rfl
      exact absurd hletter (by decide)
    · rintro rfl
      exact absurd hletter (by decide)
  simp [isLetter, show ('[' : Char).toLower = '[' from rfl, show (']' : Char).toLower = ']' from rfl, hne]

/-- A pattern of words, so long as its words are in no label. -/
theorem labelled_bracketed {words : List String} {tail : Char → Bool} {min : Nat}
    (hwords : SmallWords words) (htail : tail '[' = false ∧ tail ']' = false)
    (hlabels : labels.all (fun label => ((labelled asciiLibrary words tail min).relax.search
      label).isNone) = true) : Bracketed (WordEdge lib) (labelled lib words tail min) where
  proper := labelled_proper words tail min
  betweens := labelled_betweens words tail min
  opening := labelled_apart (word_opening lib) (by decide) htail.1 fun word hword letter hletter =>
    (isLetter_bracket (List.all_eq_true.mp (List.all_eq_true.mp hwords word hword) letter hletter)).1
  closing := labelled_apart (word_closing lib) (by decide) htail.2 fun word hword letter hletter =>
    (isLetter_bracket (List.all_eq_true.mp (List.all_eq_true.mp hwords word hword) letter hletter)).2
  labels := unfound_labels (labelled_proper words tail min) hlabels

theorem isHostChar_anyCase {x : Char} (h : isAnyCaseAlphanum x = true) : isHostChar x = true :=
  isHostChar_or (by decide) h

theorem isHostChar_anyCaseOrHyphen {x : Char} (h : (isAnyCaseAlphanum x || decide (x = '-')) = true) :
    isHostChar x = true := by
  rcases Bool.or_eq_true_iff.mp h with h | h
  · exact isHostChar_anyCase h
  · rw [of_decide_eq_true h]
    decide

theorem customerId_bracketed : Bracketed (WordEdge lib) (customerId lib) :=
  labelled_bracketed rfl (by decide) (by decide)

theorem resourceId_bracketed : Bracketed (WordEdge lib) (resourceId lib) :=
  labelled_bracketed rfl (by decide) (by decide)

theorem secretToken_bracketed : Bracketed (WordEdge lib) (secretToken lib) :=
  labelled_bracketed rfl (by decide) (by decide)

/-- The places of a label in a replacement. -/
theorem Bracketed.replaced {P : (Option Char → Option Char → Bool) → Prop} {q r : Regex}
    (hq : Bracketed P q) (hr : r.Edged P) {replacement : String} {label text : Text}
    (hlabel : label ∈ Tools.labels) (hreplacement : replacement.toList = '[' :: (label ++ [']']))
    (hout : q.UnfoundOutside r text) : q.Unfound [] (replace r replacement text) := by
  unfold Answers.replace
  rw [hreplacement]
  exact unfound_subBy hq.proper hq.betweens hr hq.opening hq.closing (hq.labels label hlabel) hout

theorem edged_none (r : Regex) : r.Edged fun _ => False := fun _ _ _ _ _ h => h.elim

/-- The three patterns of identifiers, each with the label that takes its place. -/
def identifiers (lib : QueryLibrary) : List (Regex × String) :=
  [(customerId lib, "[CUSTOMER_ID]"), (resourceId lib, "[RESOURCE_ID]"), (secretToken lib, "[SECRET]")]

theorem identifiers_edged {r : Regex} {replacement : String} (h : (r, replacement) ∈ identifiers lib) :
    r.Edged (WordEdge lib) := by
  simp only [identifiers, List.mem_cons, List.not_mem_nil, or_false] at h
  rcases h with h | h | h
  · cases h
    exact labelled_edged _ _ _
  · cases h
    exact labelled_edged _ _ _
  · cases h
    exact labelled_edged _ _ _

theorem identifiers_within {r : Regex} {replacement : String} (h : (r, replacement) ∈ identifiers lib) :
    r.Within fun x => isHostChar x = true := by
  simp only [identifiers, List.mem_cons, List.not_mem_nil, or_false] at h
  rcases h with h | h | h
  · cases h
    exact labelled_within rfl fun x hx => isHostChar_anyCaseOrHyphen hx
  · cases h
    exact labelled_within rfl fun x hx => isHostChar_anyCaseOrHyphen hx
  · cases h
    exact labelled_within rfl fun x hx => isHostChar_anyCase hx

theorem identifiers_label {r : Regex} {replacement : String} (h : (r, replacement) ∈ identifiers lib) :
    ∃ label ∈ labels, replacement.toList = '[' :: (label ++ [']']) := by
  simp only [identifiers, List.mem_cons, List.not_mem_nil, or_false] at h
  rcases h with h | h | h
  · cases h
    exact ⟨"CUSTOMER_ID".toList, by simp [labels], rfl⟩
  · cases h
    exact ⟨"RESOURCE_ID".toList, by simp [labels], rfl⟩
  · cases h
    exact ⟨"SECRET".toList, by simp [labels], rfl⟩

/-- A pattern stays out of a text in which identifiers are replaced. -/
theorem Bracketed.identifier {q r : Regex} {replacement : String} {text : Text}
    (hq : Bracketed (WordEdge lib) q) (h : (r, replacement) ∈ identifiers lib)
    (hnone : q.UnfoundOutside r text) : q.Unfound [] (Answers.replace r replacement text) := by
  obtain ⟨label, hlabel, hreplacement⟩ := identifiers_label h
  exact hq.replaced (identifiers_edged h) hlabel hreplacement hnone

/-- Replace the identifiers. -/
def withoutIdentifiers (lib : QueryLibrary) (text : Text) : Text :=
  (identifiers lib).foldl (fun text (r, replacement) => replace r replacement text) text

/-- What is kept by each replacement of an identifier is kept by all of them. -/
theorem withoutIdentifiers_keeps {p : Text → Prop} {text : Text}
    (hstep : ∀ r replacement text, (r, replacement) ∈ identifiers lib → p text →
      p (replace r replacement text)) (h : p text) : p (withoutIdentifiers lib text) :=
  hstep _ _ _ (by simp [identifiers]) (hstep _ _ _ (by simp [identifiers])
    (hstep _ _ _ (by simp [identifiers]) h))

theorem withoutIdentifiers_unfound {q : Regex} (hq : Bracketed (WordEdge lib) q) {text : Text}
    (h : q.Unfound [] text) : q.Unfound [] (withoutIdentifiers lib text) :=
  withoutIdentifiers_keeps (p := fun text => q.Unfound [] text)
    (fun _ _ _ hmem hnone => hq.identifier hmem hnone.outside) h

/-- No identifier is left. -/
theorem withoutIdentifiers_none {text : Text} {r : Regex} {replacement : String}
    (h : (r, replacement) ∈ identifiers lib) : r.Unfound [] (withoutIdentifiers lib text) := by
  have hself : ∀ text, r.UnfoundOutside r text := fun _ _ _ _ hnone => hnone
  have hcustomer : Bracketed (WordEdge lib) (customerId lib) := customerId_bracketed
  have hresource : Bracketed (WordEdge lib) (resourceId lib) := resourceId_bracketed
  have hsecret : Bracketed (WordEdge lib) (secretToken lib) := secretToken_bracketed
  simp only [identifiers, List.mem_cons, List.not_mem_nil, or_false] at h
  rcases h with h | h | h
  · cases h
    exact hcustomer.identifier (by simp [identifiers]) (hcustomer.identifier (by simp [identifiers])
      (hcustomer.identifier (by simp [identifiers]) (hself _)).outside).outside
  · cases h
    exact hresource.identifier (by simp [identifiers])
      (hresource.identifier (by simp [identifiers]) (hself _)).outside
  · cases h
    exact hsecret.identifier (by simp [identifiers]) (hself _)

theorem withoutIdentifiers_internalUrl {text : Text} (h : internalUrl.Unfound [] text) :
    internalUrl.Unfound [] (withoutIdentifiers lib text) :=
  withoutIdentifiers_keeps (p := fun text => internalUrl.Unfound [] text)
    (fun r replacement text hmem hnone => by
      obtain ⟨label, hlabel, hreplacement⟩ := identifiers_label hmem
      unfold Answers.replace
      rw [hreplacement]
      exact internalUrl_subBy (identifiers_within hmem) hlabel hnone) h

/-- The query with its addresses replaced. -/
def withoutAddresses (lib : QueryLibrary) (query : Text) : Text :=
  replace (emailAddress lib) "[CONTACT]" (replace internalUrl "[INTERNAL_URL]" query)

theorem substituteAll_fst : ∀ (patterns : List SanitizationPattern) (query : Text),
    (substituteAll patterns query).1 =
      patterns.foldl (fun text p => replace p.pattern p.replacement text) query
  | [], query => rfl
  | p :: rest, query => substituteAll_fst rest (replace p.pattern p.replacement query)

theorem sanitizedQuery_eq (query : Text) : (sanitizeWebSearchQuery lib query).sanitizedQuery =
    withoutIdentifiers lib (replace (phoneNumber lib) "[CONTACT]" (withoutAddresses lib query)) := by
  simp only [sanitizeWebSearchQuery, substituteAll_fst, sanitizationPatterns, withoutIdentifiers,
    identifiers, withoutAddresses, List.foldl_cons, List.foldl_nil]

theorem occurs_eq_false {q : Regex} {text : Text} : occurs q text = false ↔ q.Unfound [] text := by
  rw [← search_eq_none]
  exact Option.isSome_eq_false_iff.trans Option.isNone_iff_eq_none

/-- The patterns that are left of no query. -/
def neverLeft (lib : QueryLibrary) : List Regex :=
  [phoneNumber lib, customerId lib, resourceId lib, secretToken lib]

theorem withoutAddresses_phoneNumber {query : Text} (h : (phoneNumber lib).Unfound [] query) :
    (phoneNumber lib).Unfound [] (withoutAddresses lib query) := by
  have hphone : Bracketed (fun _ => False) (phoneNumber lib) := phoneNumber_bracketed
  exact hphone.replaced (edged_none _) (show "CONTACT".toList ∈ labels by simp [labels]) rfl
    (hphone.replaced (edged_none _) (show "INTERNAL_URL".toList ∈ labels by simp [labels]) rfl
      h.outside).outside

theorem sanitized_never_left (query : Text) {q : Regex} (hq : q ∈ neverLeft lib) :
    q.Unfound [] (sanitizeWebSearchQuery lib query).sanitizedQuery := by
  have hphone : Bracketed (fun _ => False) (phoneNumber lib) := phoneNumber_bracketed
  rw [sanitizedQuery_eq]
  simp only [neverLeft, List.mem_cons, List.not_mem_nil, or_false] at hq
  rcases hq with rfl | rfl | rfl | rfl
  · refine withoutIdentifiers_unfound phoneNumber_bracketed (hphone.replaced (edged_none _)
      (show "CONTACT".toList ∈ labels by simp [labels]) rfl fun _ _ _ hnone => hnone)
  · exact withoutIdentifiers_none
      (show (customerId lib, "[CUSTOMER_ID]") ∈ identifiers lib by simp [identifiers])
  · exact withoutIdentifiers_none
      (show (resourceId lib, "[RESOURCE_ID]") ∈ identifiers lib by simp [identifiers])
  · exact withoutIdentifiers_none
      (show (secretToken lib, "[SECRET]") ∈ identifiers lib by simp [identifiers])

/-- Without a telephone number, addresses are replaced for good. -/
theorem sanitized_addresses {query : Text} (h : (phoneNumber lib).Unfound [] query) :
    internalUrl.Unfound [] (sanitizeWebSearchQuery lib query).sanitizedQuery ∧
      (emailAddress lib).Unfound [] (sanitizeWebSearchQuery lib query).sanitizedQuery := by
  have hemail : Bracketed (WordEdge lib) (emailAddress lib) := emailAddress_bracketed
  have hphone : replace (phoneNumber lib) "[CONTACT]" (withoutAddresses lib query) =
      withoutAddresses lib query := subBy_unfound (withoutAddresses_phoneNumber h)
  rw [sanitizedQuery_eq, hphone]
  constructor
  · refine withoutIdentifiers_internalUrl (internalUrl_subBy emailAddress_within
      (show "CONTACT".toList ∈ labels by simp [labels]) ?_)
    exact internalUrl_self
  · refine withoutIdentifiers_unfound hemail (hemail.replaced emailAddress_edged
      (show "CONTACT".toList ∈ labels by simp [labels]) rfl fun _ _ _ hnone => hnone)

/-- Where no pattern is found, nothing changes. -/
theorem substituteAll_unfound : ∀ {patterns : List SanitizationPattern} {query : Text},
    (∀ p ∈ patterns, p.pattern.Unfound [] query) → substituteAll patterns query = (query, [])
  | [], query, _ => rfl
  | p :: rest, query, h => by
    obtain ⟨hp, hrest⟩ := List.forall_mem_cons.mp h
    have hsame : replace p.pattern p.replacement query = query := subBy_unfound hp
    have hnone : occurs p.pattern query = false := occurs_eq_false.mpr hp
    simp only [substituteAll, hsame, substituteAll_unfound hrest, hnone, Bool.false_eq_true, if_false]

/-- **What is left of a query**: of any query, whatever its characters are, no telephone number, no
customer id, no resource id and no secret. Of a query without a telephone number no internal address
and no e-mail address is left either, and sanitizing it again changes nothing and finds nothing. -/
theorem sanitized_query_left (lib : QueryLibrary) (query : Text) :
    (∀ q ∈ neverLeft lib, occurs q (sanitizeWebSearchQuery lib query).sanitizedQuery = false) ∧
    (occurs (phoneNumber lib) query = false →
      (∀ p ∈ sanitizationPatterns lib,
        occurs p.pattern (sanitizeWebSearchQuery lib query).sanitizedQuery = false) ∧
      (sanitizeWebSearchQuery lib (sanitizeWebSearchQuery lib query).sanitizedQuery).sanitizedQuery =
        (sanitizeWebSearchQuery lib query).sanitizedQuery ∧
      (sanitizeWebSearchQuery lib (sanitizeWebSearchQuery lib query).sanitizedQuery).sanitizationApplied =
        false) := by
  refine ⟨fun q hq => occurs_eq_false.mpr (sanitized_never_left query hq), fun hphone => ?_⟩
  obtain ⟨hurl, hemail⟩ := sanitized_addresses (occurs_eq_false.mp hphone)
  have hall : ∀ p ∈ sanitizationPatterns lib,
      p.pattern.Unfound [] (sanitizeWebSearchQuery lib query).sanitizedQuery := by
    have hnever : ∀ q ∈ neverLeft lib, q.Unfound [] (sanitizeWebSearchQuery lib query).sanitizedQuery :=
      fun q hq => sanitized_never_left query hq
    simp only [neverLeft, List.forall_mem_cons] at hnever
    obtain ⟨hphone, hcustomer, hresource, hsecret, -⟩ := hnever
    simp only [sanitizationPatterns, List.forall_mem_cons]
    exact ⟨hurl, hemail, hphone, hcustomer, hresource, hsecret, nofun⟩
  refine ⟨fun p hp => occurs_eq_false.mpr (hall p hp), ?_⟩
  generalize (sanitizeWebSearchQuery lib query).sanitizedQuery = s at hall
  simp only [sanitizeWebSearchQuery, substituteAll_unfound hall]
  exact ⟨trivial, decide_eq_false fun h => h rfl⟩

-- The label of a telephone number makes an e-mail address of what was none before it.
example : (sanitizeWebSearchQuery asciiLibrary "a@b.co12345678901".toList).sanitizedQuery =
    "a@b.co[CONTACT]".toList ∧ occurs (emailAddress asciiLibrary) "a@b.co12345678901".toList = false ∧
    occurs (emailAddress asciiLibrary) "a@b.co[CONTACT]".toList = true := by
  decide

end

end ProofAgent.Tools
