import ProofAgent.Answers.CanonicalNumbers

/-! # Reading and rewriting numbers

A text is read as numbers and as characters between them. The canonical text is read as the
canonical numbers, but for numbers that a comma joins. -/
namespace ProofAgent.Answers

open Base Base.Regex
open TaskState (Text strip)

variable {lib : CharacterLibrary}

/-- A character, or a number. -/
inductive Token where
  | plain (c : Char)
  | number (n : Numeral)

def Token.text : Token → Text
  | plain c => [c]
  | number n => n.text

def tokensText (tokens : List Token) : Text := tokens.flatMap Token.text

/-- A number as it is rewritten. -/
def Numeral.rewritten (lib : CharacterLibrary) (n : Numeral) : Numeral :=
  if zeroPadded lib n.text then n else n.canon lib

def Token.rewritten (lib : CharacterLibrary) : Token → Token
  | plain c => plain c
  | number n => number (n.rewritten lib)

/-- The tokens are those that the pattern finds: a number stands where one may begin, and no number
begins with a character between them. -/
def Reading (lib : CharacterLibrary) : (opens : Bool) → List Token → Prop
  | _, [] => True
  | opens, .plain c :: tokens =>
    (opens = true → ∀ (n : Numeral) (rest : Text), ¬ n.Heads lib (c :: tokensText tokens) rest) ∧
      Reading lib (opensNumber lib (some c)) tokens
  | opens, .number n :: tokens =>
    opens = true ∧ n.Heads lib (n.text ++ tokensText tokens) (tokensText tokens) ∧
      Reading lib false tokens

/-! ## Where numbers end -/

theorem Numeral.Valid.last_digit {n : Numeral} (h : n.Valid lib) :
    ∃ a c, n.text = a ++ [c] ∧ lib.isDecimal c = true := by
  have hdigits : ∀ {ds : Text}, Digits lib ds → ds ≠ [] → ∃ a c, ds = a ++ [c] ∧ lib.isDecimal c = true := by
    intro ds hds hne
    exact ⟨ds.dropLast, ds.getLast hne, (List.dropLast_append_getLast hne).symm,
      hds _ (List.getLast_mem hne)⟩
  unfold Numeral.text
  by_cases hfraction : n.fraction = []
  · rw [hfraction]
    rcases List.eq_nil_or_concat n.groups with hgroups | ⟨groups, g, hgroups⟩
    · obtain ⟨a, c, hwhole, hc⟩ := hdigits h.digits h.whole
      refine ⟨n.sign ++ a, c, ?_, hc⟩
      rw [hgroups, hwhole]
      simp [groupsText, fractionText]
    · have hg := h.groups g (by rw [hgroups]; simp)
      obtain ⟨a, c, hlast, hc⟩ := hdigits hg.1 (List.ne_nil_of_length_pos (by omega))
      refine ⟨n.sign ++ (n.whole ++ (groupsText groups ++ ',' :: a)), c, ?_, hc⟩
      rw [hgroups, hlast]
      simp [groupsText, fractionText]
  · obtain ⟨a, c, hlast, hc⟩ := hdigits h.fraction hfraction
    refine ⟨n.sign ++ (n.whole ++ (groupsText n.groups ++ '.' :: a)), c, ?_, hc⟩
    rw [fractionText, if_neg hfraction, hlast]
    simp

section
variable (laws : NumberLaws lib)
include laws

namespace NumberLaws

theorem rewritten_valid {n : Numeral} (h : n.Valid lib) : (n.rewritten lib).Valid lib := by
  unfold Numeral.rewritten
  split
  · exact h
  · exact laws.canon_valid h

theorem rewritten_text {n : Numeral} (h : n.Valid lib) :
    (n.rewritten lib).text = decimalText lib n.text := by
  rw [laws.decimalText_text h]
  unfold Numeral.rewritten
  split <;> rfl

/-- No number begins after a digit. -/
theorem opens_digit {c : Char} (h : lib.isDecimal c = true) : opensNumber lib (some c) = false := by
  show (!(lib.isWord c || _)) = false
  rw [laws.digit_word c h]
  rfl

theorem opens_after {n : Numeral} (h : n.Valid lib) (before : Text) :
    opensNumber lib (n.text.reverse ++ before).head? = false := by
  obtain ⟨a, c, htext, hc⟩ := h.last_digit
  rw [htext, List.reverse_append]
  exact laws.opens_digit hc

/-- **A text is read**, and rewritten number by number. -/
theorem reading (size : Nat) : ∀ before after : Text, after.length ≤ size → ∃ tokens : List Token,
    tokensText tokens = after ∧ Reading lib (opensNumber lib before.head?) tokens ∧
      rewriteFrom (number lib) (decimalText lib) before after =
        tokensText (tokens.map (Token.rewritten lib)) := by
  induction size with
  | zero =>
    intro before after hlength
    obtain rfl := List.eq_nil_of_length_eq_zero (Nat.le_zero.mp hlength)
    exact ⟨[], rfl, trivial, rfl⟩
  | succ size ih =>
    intro before after hlength
    cases hmatch : (number lib).matchAt before after with
    | some d =>
      obtain ⟨hopens, n, hn, hgoes, _⟩ := laws.matchAt_some hmatch
      obtain ⟨tokens, htokens, hreading, hrewrite⟩ := ih d.before d.after
        (by have := matchAt_shorter hmatch; omega)
      refine ⟨.number n :: tokens, ?_, ⟨hopens, ?_, ?_⟩, ?_⟩
      · rw [hn.text, ← htokens]
        rfl
      · rw [htokens, ← hn.text]
        exact hn
      · rw [hgoes.toTook.before, laws.opens_after hn.valid] at hreading
        exact hreading
      · rw [rewriteFrom_match hmatch, hgoes.toTook.upto_eq, hrewrite, ← laws.rewritten_text hn.valid]
        rfl
    | none =>
      have hnone := laws.matchAt_none.mp hmatch
      cases after with
      | nil => exact ⟨[], rfl, trivial, rfl⟩
      | cons c rest =>
        obtain ⟨tokens, htokens, hreading, hrewrite⟩ := ih (c :: before) rest (by simpa using hlength)
        refine ⟨.plain c :: tokens, congrArg (c :: ·) htokens, ⟨?_, hreading⟩, ?_⟩
        · rw [htokens]
          exact hnone
        · rw [rewriteFrom_plain hmatch, hrewrite]
          rfl

end NumberLaws

end

/-! ## Reading the canonical text -/

/-- Where no number may begin, a text that keeps it so is read character by character. -/
theorem reading_plain {prefixed rest : Text} : ∀ {tokens : List Token}, Reading lib false tokens →
    tokensText (tokens.map (Token.rewritten lib)) = prefixed ++ rest →
    (∀ c ∈ prefixed, opensNumber lib (some c) = false) →
    ∃ tokens', tokensText tokens = prefixed ++ tokensText tokens' ∧
      tokensText (tokens'.map (Token.rewritten lib)) = rest ∧ Reading lib false tokens' := by
  induction prefixed with
  | nil => exact fun {tokens} hreading htext _ => ⟨tokens, rfl, htext, hreading⟩
  | cons c prefixed ih =>
    intro tokens hreading htext hclosed
    obtain ⟨hc, hprefixed⟩ := List.forall_mem_cons.mp hclosed
    match tokens with
    | [] => cases htext
    | .number n :: tokens => exact absurd hreading.1 Bool.false_ne_true
    | .plain x :: tokens =>
      obtain rfl : x = c := (List.cons.inj htext).1
      have hmore : tokensText (tokens.map (Token.rewritten lib)) = prefixed ++ rest :=
        (List.cons.inj htext).2
      obtain ⟨_, hreading⟩ := hreading
      rw [hc] at hreading
      obtain ⟨tokens', htokens', hrest, hreading'⟩ := ih hreading hmore hprefixed
      exact ⟨tokens', congrArg (x :: ·) htokens', hrest, hreading'⟩

/-- What follows such a place begins as what is rewritten. -/
theorem reading_head {tokens : List Token} (h : Reading lib false tokens) :
    (tokensText (tokens.map (Token.rewritten lib))).head? = (tokensText tokens).head? := by
  match tokens with
  | [] => rfl
  | .plain _ :: _ => rfl
  | .number _ :: _ => exact absurd h.1 Bool.false_ne_true

section
variable (laws : NumberLaws lib)
include laws

namespace NumberLaws

/-- A number up to its first separator. -/
theorem heads_ungrouped {n : Numeral} {after rest : Text} (h : n.Heads lib after rest) :
    ∃ (m : Numeral) (rest' : Text), m.Heads lib after rest' ∧ m.groups = [] := by
  cases hgroups : n.groups with
  | nil => exact ⟨n, rest, h, hgroups⟩
  | cons g groups =>
    refine ⟨⟨n.sign, n.whole, [], []⟩, ',' :: (g ++ groupsText groups) ++ fractionText n.fraction ++
      rest, ⟨⟨h.valid.sign, h.valid.whole, h.valid.digits, fun h => absurd rfl h,
        fun _ hg => absurd hg List.not_mem_nil, fun _ hc => absurd hc List.not_mem_nil⟩, ?_,
      laws.closes_comma _⟩, rfl⟩
    rw [h.text, Numeral.text, Numeral.text, hgroups]
    simp [groupsText, fractionText]

/-- The characters of a number without separators are such that no number begins after them. -/
theorem ungrouped_closed {n : Numeral} (h : n.Valid lib) (hgroups : n.groups = []) :
    ∀ c ∈ n.text, opensNumber lib (some c) = false := by
  have hmark : ∀ c, c = '+' ∨ c = '-' ∨ c = '.' → opensNumber lib (some c) = false := by
    rintro c (rfl | rfl | rfl) <;> simp [opensNumber]
  intro c hc
  unfold Numeral.text at hc
  rw [hgroups] at hc
  rcases List.mem_append.mp hc with hc | hc
  · rcases h.sign with hs | ⟨s, hs, hsign⟩
    · rw [hs] at hc
      cases hc
    · rw [hsign] at hc
      obtain rfl := List.mem_singleton.mp hc
      rcases List.mem_cons.mp hs with rfl | hs
      · exact hmark _ (.inl rfl)
      · exact hmark _ (.inr (.inl (List.mem_singleton.mp hs)))
  · rcases List.mem_append.mp hc with hc | hc
    · exact laws.opens_digit (h.digits c hc)
    · have hc : c ∈ fractionText n.fraction := hc
      unfold fractionText at hc
      by_cases hfraction : n.fraction = []
      · rw [if_pos hfraction] at hc
        cases hc
      · rw [if_neg hfraction] at hc
        rcases List.mem_cons.mp hc with rfl | hc
        · exact hmark _ (.inr (.inr rfl))
        · exact laws.opens_digit (h.fraction c hc)

/-- **The rewritten text is read as the rewritten numbers.** -/
theorem reading_rewritten {tokens : List Token} : ∀ {opens : Bool}, Reading lib opens tokens →
    Reading lib opens (tokens.map (Token.rewritten lib)) := by
  induction tokens with
  | nil => exact fun _ => trivial
  | cons token tokens ih =>
    intro opens hreading
    cases token with
    | number n =>
      obtain ⟨hopens, hn, hreading⟩ := hreading
      refine ⟨hopens, ⟨laws.rewritten_valid hn.valid, rfl, ?_⟩, ih hreading⟩
      rw [reading_head hreading]
      exact hn.closes
    | plain c =>
      obtain ⟨hnone, hreading⟩ := hreading
      refine ⟨fun hopens n rest hn => ?_, ih hreading⟩
      -- the number up to its first separator is there in the text that is rewritten
      obtain ⟨m, rest', hm, hgroups⟩ := laws.heads_ungrouped hn
      have hclosed := laws.ungrouped_closed hm.valid hgroups
      obtain ⟨x, more, hmore⟩ := List.exists_cons_of_ne_nil hm.valid.text_ne
      have htext := hm.text
      rw [hmore] at htext hclosed
      obtain ⟨hx, hmoreClosed⟩ := List.forall_mem_cons.mp hclosed
      obtain rfl : c = x := (List.cons.inj htext).1
      rw [hx] at hreading
      obtain ⟨tokens', htokens', hrest, hreading'⟩ :=
        reading_plain hreading (List.cons.inj htext).2 hmoreClosed
      refine hnone hopens m (tokensText tokens') ⟨hm.valid, ?_, ?_⟩
      · rw [htokens', hmore]
        rfl
      · rw [← reading_head hreading', hrest]
        exact hm.closes

end NumberLaws

end

/-! ## Numbers that a comma joins -/

/-- Where there is a comma in a number, it begins a group. -/
theorem comma_split {fraction : Text} (hfraction : ',' ∉ fractionText fraction) :
    ∀ {groups : List Text} {start a tail : Text}, ',' ∉ start → (∀ g ∈ groups, ',' ∉ g) →
      start ++ (groupsText groups ++ fractionText fraction) = a ++ ',' :: tail →
      ∃ (gs : List Text) (g : Text) (gs' : List Text), groups = gs ++ g :: gs' ∧
        a = start ++ groupsText gs ∧ tail = g ++ (groupsText gs' ++ fractionText fraction) := by
  intro groups
  induction groups with
  | nil =>
    intro start a tail hstart _ h
    have hmem : ',' ∈ start ++ (groupsText [] ++ fractionText fraction) := by
      rw [h]
      simp
    rcases List.mem_append.mp hmem with hmem | hmem
    · exact absurd hmem hstart
    · exact absurd hmem hfraction
  | cons g groups ih =>
    intro start a tail hstart hgroups h
    obtain ⟨hg, hgroups⟩ := List.forall_mem_cons.mp hgroups
    have h : start ++ ',' :: (g ++ (groupsText groups ++ fractionText fraction)) = a ++ ',' :: tail := by
      rw [← h]
      simp [groupsText]
    rcases List.append_eq_append_iff.mp h with ⟨more, rfl, htail⟩ | ⟨more, rfl, htail⟩
    · cases more with
      | nil => exact ⟨[], g, groups, rfl, rfl, (List.cons.inj htail).2.symm⟩
      | cons x more =>
        obtain rfl : ',' = x := (List.cons.inj htail).1
        obtain ⟨gs, g', gs', rfl, rfl, rfl⟩ := ih hg hgroups (List.cons.inj htail).2
        refine ⟨g :: gs, g', gs', rfl, ?_, rfl⟩
        simp [groupsText]
    · cases more with
      | nil => exact ⟨[], g, groups, rfl, (by simp [groupsText]), (List.cons.inj htail).2⟩
      | cons x more =>
        obtain rfl : ',' = x := (List.cons.inj htail).1
        exact absurd (List.mem_append_right a List.mem_cons_self) hstart

/-- The longest number that a text begins with. -/
structure Numeral.Longest (lib : CharacterLibrary) (n : Numeral) (after rest : Text) : Prop
    extends n.Heads lib after rest where
  longest : ∀ (m : Numeral) (rest' : Text), m.Heads lib after rest' → m.text.length ≤ n.text.length

section
variable (laws : NumberLaws lib)
include laws

namespace NumberLaws

theorem comma_digits {ds : Text} (h : Digits lib ds) : ',' ∉ ds := fun hmem => by
  have hdigit := h ',' hmem
  rw [laws.mark_digit (by simp)] at hdigit
  cases hdigit

theorem comma_fraction {fraction : Text} (h : Digits lib fraction) : ',' ∉ fractionText fraction := by
  unfold fractionText
  by_cases hfraction : fraction = []
  · rw [if_pos hfraction]
    exact List.not_mem_nil
  · rw [if_neg hfraction]
    exact fun hmem => (List.mem_cons.mp hmem).elim (by decide) (laws.comma_digits h)

/-- A number with a comma in it, taken apart there. -/
theorem text_comma {n : Numeral} (h : n.Valid lib) {a tail : Text} (htext : n.text = a ++ ',' :: tail) :
    ∃ (gs : List Text) (g : Text) (gs' : List Text), n.groups = gs ++ g :: gs' ∧
      a = n.sign ++ n.whole ++ groupsText gs ∧
      tail = g ++ (groupsText gs' ++ fractionText n.fraction) := by
  have hsign : ',' ∉ n.sign := by
    rcases h.sign with hs | ⟨s, hs, hsign⟩
    · rw [hs]
      exact List.not_mem_nil
    · rw [hsign]
      intro hmem
      rw [← List.mem_singleton.mp hmem] at hs
      revert hs
      decide
  refine comma_split (laws.comma_fraction h.fraction)
    (fun hmem => (List.mem_append.mp hmem).elim hsign (laws.comma_digits h.digits))
    (fun g hg => laws.comma_digits (h.groups g hg).1) ?_
  rw [← htext, Numeral.text, List.append_assoc]

/-- What follows the first digits of a number is no digit. -/
theorem rest_digit {groups : List Text} {fraction rest : Text}
    (hcloses : closesNumber lib rest.head? = true) :
    (groupsText groups ++ (fractionText fraction ++ rest)).head?.any lib.isDecimal = false := by
  cases groups with
  | cons g groups => exact laws.mark_digit (by simp)
  | nil =>
    show (fractionText fraction ++ rest).head?.any lib.isDecimal = false
    unfold fractionText
    by_cases hfraction : fraction = []
    · rw [if_pos hfraction, List.nil_append]
      cases rest with
      | nil => rfl
      | cons c rest =>
        have hc : (!(lib.isWord c || decide (c = '.'))) = true := hcloses
        rw [Bool.not_eq_true', Bool.or_eq_false_iff] at hc
        exact laws.not_digit hc.1
    · rw [if_neg hfraction]
      exact laws.mark_digit (by simp)

omit laws in
/-- The first digits of a text. -/
theorem first_digits {a b after after' : Text} (ha : Digits lib a) (hb : Digits lib b)
    (hafter : after.head?.any lib.isDecimal = false) (hafter' : after'.head?.any lib.isDecimal = false)
    (h : a ++ after = b ++ after') : a = b := by
  have htake : ∀ {ds rest : Text}, Digits lib ds → rest.head?.any lib.isDecimal = false →
      (ds ++ rest).takeWhile lib.isDecimal = ds := by
    intro ds rest hds hrest
    rw [List.takeWhile_append_of_pos hds]
    cases rest with
    | nil => simp
    | cons c rest =>
      rw [List.takeWhile_cons_of_neg (by simpa using hrest), List.append_nil]
  rw [← htake ha hafter, ← htake hb hafter', h]

omit laws in
/-- After its first character a number has digits, commas and a point. -/
theorem text_tail {n : Numeral} (h : n.Valid lib) {a : Text} {x : Char} {more : Text} (ha : a ≠ [])
    (htext : n.text = a ++ x :: more) : lib.isDecimal x = true ∨ x = ',' ∨ x = '.' := by
  have hbody : ∀ c ∈ n.whole ++ (groupsText n.groups ++ fractionText n.fraction),
      lib.isDecimal c = true ∨ c = ',' ∨ c = '.' := by
    intro c hc
    rcases List.mem_append.mp hc with hc | hc
    · exact .inl (h.digits c hc)
    · rcases List.mem_append.mp hc with hc | hc
      · obtain ⟨g, hg, hc⟩ := List.mem_flatMap.mp hc
        rcases List.mem_cons.mp hc with rfl | hc
        · exact .inr (.inl rfl)
        · exact .inl ((h.groups g hg).1 c hc)
      · unfold fractionText at hc
        split at hc
        · cases hc
        · rcases List.mem_cons.mp hc with rfl | hc
          · exact .inr (.inr rfl)
          · exact .inl (h.fraction c hc)
  apply hbody
  unfold Numeral.text at htext
  rcases h.sign with hs | ⟨s, _, hs⟩
  · rw [hs, List.nil_append] at htext
    rw [htext]
    simp
  · obtain ⟨y, a, rfl⟩ := List.exists_cons_of_ne_nil ha
    rw [hs] at htext
    have hrest : n.whole ++ (groupsText n.groups ++ fractionText n.fraction) = a ++ x :: more :=
      (List.cons.inj htext).2
    rw [hrest]
    simp

/-- A number that is longer than one before it goes on with a comma. -/
theorem longer_comma {m n : Numeral} {rest after : Text} (hm : m.Heads lib (n.text ++ after) rest)
    (hn : n.Heads lib (n.text ++ after) after) (hlength : n.text.length ≤ m.text.length) :
    (m.text = n.text ∧ rest = after) ∨
      ∃ more, m.text = n.text ++ ',' :: more ∧ after = ',' :: (more ++ rest) := by
  rcases List.append_eq_append_iff.mp hm.text with ⟨more, hmore, hafter⟩ | ⟨more, hmore, hafter⟩
  · cases more with
    | nil => exact .inl ⟨hmore.trans (List.append_nil _), hafter.symm⟩
    | cons x more =>
      right
      have hcloses := hn.closes
      rw [hafter] at hcloses
      have hx : (!(lib.isWord x || decide (x = '.'))) = true := hcloses
      rw [Bool.not_eq_true', Bool.or_eq_false_iff, decide_eq_false_iff_not] at hx
      rcases text_tail hm.valid hn.valid.text_ne hmore with hdigit | rfl | hpoint
      · rw [laws.not_digit hx.1] at hdigit
        cases hdigit
      · exact ⟨more, hmore, hafter⟩
      · exact absurd hpoint hx.2
  · have hlengths := congrArg List.length hmore
    rw [List.length_append] at hlengths
    obtain rfl : more = [] := List.eq_nil_of_length_eq_zero (by omega)
    exact .inl ⟨(hmore.trans (List.append_nil _)).symm, hafter⟩

/-- What is left of a longest number after a comma is a longest number. -/
theorem longest_after {m : Numeral} {a more rest : Text}
    (hm : m.Longest lib (a ++ ',' :: (more ++ rest)) rest) (htext : m.text = a ++ ',' :: more) :
    ∃ k : Numeral, k.text = more ∧ k.Longest lib (more ++ rest) rest := by
  obtain ⟨gs, g, gs', hgroups, ha, hmore⟩ := laws.text_comma hm.valid htext
  have hall := hm.valid.groups
  rw [hgroups] at hall
  obtain ⟨hgs, hg, hgs'⟩ : (∀ g ∈ gs, Digits lib g ∧ g.length = 3) ∧ (Digits lib g ∧ g.length = 3) ∧
      ∀ g ∈ gs', Digits lib g ∧ g.length = 3 :=
    ⟨fun x hx => hall x (by simp [hx]), hall g (by simp), fun x hx => hall x (by simp [hx])⟩
  have hne : g ≠ [] := List.ne_nil_of_length_pos (by omega)
  refine ⟨⟨[], g, gs', m.fraction⟩, hmore.symm, ⟨⟨.inl rfl, hne, hg.1, fun _ => hg.2.le, hgs',
    hm.valid.fraction⟩, ?_, hm.closes⟩, ?_⟩
  · rw [hmore]
    rfl
  · intro k rest' hk
    -- such a number begins with the same digits, and the one before it can go on with it
    have hsign : k.sign = [] := by
      rcases hk.valid.sign with hs | ⟨s, hs, hsign⟩
      · exact hs
      · obtain ⟨d, ds, rfl⟩ := List.exists_cons_of_ne_nil hne
        have hheads := hk.text
        rw [hmore, Numeral.text, hsign] at hheads
        have hd := hg.1 d List.mem_cons_self
        rw [(List.cons.inj hheads).1] at hd
        have hmark : lib.isDecimal s = false := laws.mark_digit (by
          rcases List.mem_cons.mp hs with rfl | hs
          · simp
          · rw [List.mem_singleton.mp hs]
            simp)
        rw [hmark] at hd
        cases hd
    have hktext : k.text = k.whole ++ (groupsText k.groups ++ fractionText k.fraction) := by
      rw [Numeral.text, hsign, List.nil_append]
    have hwhole : g = k.whole := by
      refine first_digits hg.1 hk.valid.digits
        (laws.rest_digit hm.closes : (groupsText gs' ++ (fractionText m.fraction ++ _)).head?.any _ = _)
        (laws.rest_digit hk.closes :
          (groupsText k.groups ++ (fractionText k.fraction ++ _)).head?.any _ = _) ?_
      have hheads := hk.text
      rw [hmore, hktext] at hheads
      simpa only [List.append_assoc] using hheads
    have hjoined := hm.longest ⟨m.sign, m.whole, gs ++ g :: k.groups, k.fraction⟩ rest' ⟨⟨hm.valid.sign,
      hm.valid.whole, hm.valid.digits, fun _ => hm.valid.short (by rw [hgroups]; simp), ?_,
      hk.valid.fraction⟩, ?_, hk.closes⟩
    · have hjoinedText : (⟨m.sign, m.whole, gs ++ g :: k.groups, k.fraction⟩ : Numeral).text =
          a ++ ',' :: k.text := by
        rw [ha, hktext, ← hwhole]
        simp [Numeral.text, groupsText]
      rw [hjoinedText, htext, List.length_append, List.length_append, List.length_cons,
        List.length_cons] at hjoined
      rw [hmore] at hjoined
      show k.text.length ≤ (g ++ (groupsText gs' ++ fractionText m.fraction)).length
      omega
    · intro x hx
      rcases List.mem_append.mp hx with hx | hx
      · exact hgs x hx
      · rcases List.mem_cons.mp hx with rfl | hx
        · exact hg
        · exact hk.valid.groups x hx
    · rw [hk.text, hktext, ← hwhole, ha]
      simp [Numeral.text, groupsText]

/-- **A longest number ends where a token ends.** -/
theorem longest_ends (size : Nat) : ∀ {tokens : List Token} {m : Numeral} {rest : Text},
    tokens.length ≤ size → Reading lib true tokens → m.Longest lib (tokensText tokens) rest →
    ∃ tokens', rest = tokensText tokens' ∧ Reading lib false tokens' ∧
      tokens'.length < tokens.length ∧ tokens' <:+ tokens := by
  induction size with
  | zero =>
    intro tokens m rest hlength _ hm
    obtain rfl := List.eq_nil_of_length_eq_zero (Nat.le_zero.mp hlength)
    exact absurd (List.append_eq_nil_iff.mp hm.text.symm).1 hm.valid.text_ne
  | succ size ih =>
    intro tokens m rest hlength hreading hm
    match tokens with
    | [] => exact absurd (List.append_eq_nil_iff.mp hm.text.symm).1 hm.valid.text_ne
    | .plain c :: tokens => exact absurd hm.toHeads (hreading.1 rfl m rest)
    | .number n :: tokens =>
      obtain ⟨_, hn, hreading⟩ := hreading
      rcases laws.longer_comma hm.toHeads hn (hm.longest n _ hn) with ⟨_, hrest⟩ | ⟨more, htext, hafter⟩
      · exact ⟨tokens, hrest, hreading, Nat.lt_succ_self _, List.suffix_cons _ _⟩
      · match tokens with
        | [] => cases hafter
        | .number _ :: _ => exact absurd hreading.1 Bool.false_ne_true
        | .plain x :: tokens =>
          obtain rfl : x = ',' := (List.cons.inj hafter).1
          have hmore : tokensText tokens = more ++ rest := (List.cons.inj hafter).2
          have hlongest : m.Longest lib (n.text ++ ',' :: (more ++ rest)) rest :=
            hafter ▸ (show m.Longest lib (n.text ++ tokensText (.plain ',' :: tokens)) rest from hm)
          obtain ⟨k, _, hk⟩ := laws.longest_after hlongest htext
          have hopens : opensNumber lib (some ',') = true := by
            show (!(lib.isWord ',' || _)) = true
            rw [laws.mark_word ',' (by simp)]
            rfl
          obtain ⟨_, hreading⟩ := hreading
          rw [hopens] at hreading
          rw [← hmore] at hk
          simp only [List.length_cons] at hlength
          obtain ⟨tokens', hrest, hreading', hshorter, hsuffix⟩ := ih (by omega) hreading hk
          refine ⟨tokens', hrest, hreading', ?_, hsuffix.trans
            ((List.suffix_cons _ _).trans (List.suffix_cons _ _))⟩
          simp only [List.length_cons]
          omega

end NumberLaws

end

/-! ## Texts that are canonical already -/

/-- A number that is found is a code, or has no separators. -/
def Unseparated (lib : CharacterLibrary) (m : Match) : Prop :=
  zeroPadded lib m.text = true ∨ ',' ∉ m.text

section
variable (laws : NumberLaws lib)
include laws

namespace NumberLaws

theorem canon_comma {n : Numeral} (h : n.Valid lib) : ',' ∉ (n.canon lib).text := by
  have hvalid := laws.canon_valid h
  intro hmem
  obtain ⟨a, tail, htext⟩ := List.append_of_mem hmem
  obtain ⟨gs, g, gs', hgroups, _⟩ := laws.text_comma hvalid htext
  rw [n.canon_groups] at hgroups
  simp at hgroups

/-- Rewriting a number takes its separators away, unless it is a code. -/
theorem count_decimalText {n : Numeral} (h : n.Valid lib) :
    (decimalText lib n.text).count ',' ≤ n.text.count ',' ∧
      ((decimalText lib n.text).count ',' = n.text.count ',' →
        zeroPadded lib n.text = true ∨ ',' ∉ n.text) := by
  rw [laws.decimalText_text h]
  cases hpadded : zeroPadded lib n.text with
  | true => exact ⟨by rw [if_pos rfl], fun _ => .inl rfl⟩
  | false =>
    rw [if_neg Bool.false_ne_true, List.count_eq_zero.mpr (laws.canon_comma h)]
    exact ⟨Nat.zero_le _, fun hzero => .inr (List.count_eq_zero.mp hzero.symm)⟩

theorem count_rewriteFrom (size : Nat) : ∀ before after : Text, after.length ≤ size →
    (rewriteFrom (number lib) (decimalText lib) before after).count ',' ≤ after.count ',' ∧
      ((rewriteFrom (number lib) (decimalText lib) before after).count ',' = after.count ',' →
        ∀ m ∈ (number lib).findFrom ⟨before, after, none⟩, Unseparated lib m) := by
  induction size with
  | zero =>
    intro before after hlength
    obtain rfl := List.eq_nil_of_length_eq_zero (Nat.le_zero.mp hlength)
    exact ⟨Nat.le_refl _, fun _ m hm => absurd hm List.not_mem_nil⟩
  | succ size ih =>
    intro before after hlength
    cases hmatch : (number lib).matchAt before after with
    | some d =>
      obtain ⟨_, n, hn, hgoes, _⟩ := laws.matchAt_some hmatch
      obtain ⟨hle, hrest⟩ := ih d.before d.after (by have := matchAt_shorter hmatch; omega)
      obtain ⟨hnle, hnumber⟩ := laws.count_decimalText hn.valid
      have hcount : after.count ',' = n.text.count ',' + d.after.count ',' := by
        rw [hn.text, List.count_append]
      rw [rewriteFrom_match hmatch, hgoes.toTook.upto_eq, List.count_append, hcount]
      refine ⟨by omega, fun heq m hm => ?_⟩
      rw [findFrom_match hmatch, hgoes.toTook.upto_eq] at hm
      rcases List.mem_cons.mp hm with rfl | hm
      · exact hnumber (by omega)
      · exact hrest (by omega) m hm
    | none =>
      cases after with
      | nil => exact ⟨Nat.le_refl _, fun _ m hm => absurd hm List.not_mem_nil⟩
      | cons c rest =>
        obtain ⟨hle, hrest⟩ := ih (c :: before) rest (by simpa using hlength)
        rw [rewriteFrom_plain hmatch, findFrom_plain hmatch, List.count_cons, List.count_cons]
        exact ⟨by omega, fun heq => hrest (by omega)⟩

/-- A reading whose numbers are canonical stays as it is, if no comma joins two of them. -/
theorem rewriteFrom_reading (size : Nat) : ∀ (before : Text) (tokens : List Token),
    tokens.length ≤ size → Reading lib (opensNumber lib before.head?) tokens →
    (∀ n, Token.number n ∈ tokens → decimalText lib n.text = n.text) →
    (∀ m ∈ (number lib).findFrom ⟨before, tokensText tokens, none⟩, Unseparated lib m) →
    rewriteFrom (number lib) (decimalText lib) before (tokensText tokens) = tokensText tokens := by
  induction size with
  | zero =>
    intro before tokens hlength _ _ _
    obtain rfl := List.eq_nil_of_length_eq_zero (Nat.le_zero.mp hlength)
    rfl
  | succ size ih =>
    intro before tokens hlength hreading hnumbers hfound
    match tokens with
    | [] => rfl
    | .plain c :: tokens =>
      obtain ⟨hnone, hreading⟩ := hreading
      have hmatch : (number lib).matchAt before (c :: tokensText tokens) = none :=
        laws.matchAt_none.mpr hnone
      show rewriteFrom (number lib) (decimalText lib) before (c :: tokensText tokens) =
        c :: tokensText tokens
      rw [rewriteFrom_plain hmatch]
      refine congrArg (c :: ·) (ih (c :: before) tokens (by simpa using hlength) hreading
        (fun n hn => hnumbers n (List.mem_cons_of_mem _ hn)) fun m hm => hfound m ?_)
      show m ∈ (number lib).findFrom ⟨before, c :: tokensText tokens, none⟩
      rwa [findFrom_plain hmatch]
    | .number n :: tokens =>
      obtain ⟨hopens, hn, _⟩ := id hreading
      cases hmatch : (number lib).matchAt before (tokensText (.number n :: tokens)) with
      | none => exact absurd hn (laws.matchAt_none.mp hmatch hopens n _)
      | some d =>
        obtain ⟨_, m, hm, hgoes, hlongest⟩ := laws.matchAt_some hmatch
        rw [hopens] at hreading
        obtain ⟨tokens', hrest, hreading', hshorter, hsuffix⟩ :=
          laws.longest_ends _ (Nat.le_refl _) hreading ⟨hm, hlongest⟩
        have hfixed : decimalText lib m.text = m.text := by
          rw [findFrom_match hmatch, hgoes.toTook.upto_eq] at hfound
          rcases hfound _ List.mem_cons_self with hpadded | hcomma
          · have hpadded : zeroPadded lib m.text = true := hpadded
            rw [laws.decimalText_text hm.valid, hpadded, if_pos rfl]
          · have hcomma : ',' ∉ m.text := hcomma
            rcases laws.longer_comma hm hn (hlongest n _ hn) with ⟨htext, _⟩ | ⟨more, htext, _⟩
            · rw [htext]
              exact hnumbers n List.mem_cons_self
            · exact absurd (by rw [htext]; simp) hcomma
        rw [rewriteFrom_match hmatch, hgoes.toTook.upto_eq, hfixed, hrest, ih d.before tokens'
          (by simp only [List.length_cons] at hlength hshorter; omega) ?_
            (fun k hk => hnumbers k (hsuffix.subset hk)) fun k hk => hfound k ?_]
        · rw [hm.text, hrest]
        · rw [hgoes.toTook.before, laws.opens_after hm.valid]
          exact hreading'
        · rw [findFrom_match hmatch, hrest]
          exact List.mem_cons_of_mem _ hk

end NumberLaws

end

/-! ## Rewriting twice -/

/-- `_NUMBER.sub(decimal_text, text)`. -/
def rewriteNumbers (lib : CharacterLibrary) (text : Text) : Text :=
  (number lib).subBy (fun m => decimalText lib m.text) text

theorem rewriteNumbers_eq (text : Text) :
    rewriteNumbers lib text = rewriteFrom (number lib) (decimalText lib) [] text :=
  subBy_eq text

/-- A number that is read is one. -/
theorem Reading.valid {tokens : List Token} {n : Numeral} : ∀ {opens : Bool},
    Reading lib opens tokens → Token.number n ∈ tokens → n.Valid lib := by
  induction tokens with
  | nil => exact fun _ hn => absurd hn List.not_mem_nil
  | cons token tokens ih =>
    intro opens hreading hn
    cases token with
    | plain c =>
      rcases List.mem_cons.mp hn with heq | hn
      · cases heq
      · exact ih hreading.2 hn
    | number m =>
      rcases List.mem_cons.mp hn with heq | hn
      · cases heq
        exact hreading.2.1.valid
      · exact ih hreading.2.2 hn

section
variable (laws : NumberLaws lib)
include laws

namespace NumberLaws

theorem rewritten_fixed {tokens : List Token} {opens : Bool} (h : Reading lib opens tokens)
    {n : Numeral} (hn : Token.number n ∈ tokens.map (Token.rewritten lib)) :
    decimalText lib n.text = n.text := by
  obtain ⟨token, htoken, heq⟩ := List.mem_map.mp hn
  cases token with
  | plain c => cases heq
  | number m =>
    cases heq
    have hm := h.valid htoken
    rw [laws.rewritten_text hm, laws.decimalText_decimalText hm]

/-- **Rewriting twice** changes nothing more exactly if no comma joins numbers of the rewritten
text. -/
theorem rewriteNumbers_twice (text : Text) :
    rewriteNumbers lib (rewriteNumbers lib text) = rewriteNumbers lib text ↔
      ∀ m ∈ (number lib).findAll (rewriteNumbers lib text), Unseparated lib m := by
  obtain ⟨tokens, _, hreading, hrewrite⟩ := laws.reading _ [] text (Nat.le_refl _)
  rw [rewriteNumbers_eq (rewriteNumbers lib text), rewriteNumbers_eq text, hrewrite]
  constructor
  · intro h
    exact (laws.count_rewriteFrom _ [] _ (Nat.le_refl _)).2 (congrArg _ h)
  · exact laws.rewriteFrom_reading _ [] _ (Nat.le_refl _) (laws.reading_rewritten hreading)
      fun n hn => laws.rewritten_fixed hreading hn

end NumberLaws

end

end ProofAgent.Answers
