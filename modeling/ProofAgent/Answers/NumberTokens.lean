import ProofAgent.Answers.Facts
import ProofAgent.Base.RegexMatches

/-! # Number tokens

The pattern of numbers finds the longest number that starts at a place, if it stands apart from
words, signs and points. -/
namespace ProofAgent.Answers

open Base Base.Regex
open TaskState (Text strip)

/-- What is documented of the classes of digits and of words. -/
structure NumberLaws (lib : CharacterLibrary) : Prop where
  digit_word : ∀ c, lib.isDecimal c = true → lib.isWord c = true
  digit_lt : ∀ c, lib.isDecimal c = true → lib.decimalValue c < 10
  ascii_digit : ∀ d < 10, lib.isDecimal (.ofNat (48 + d)) = true ∧
    lib.decimalValue (.ofNat (48 + d)) = d
  letter_word : ∀ c, c.isAlpha = true → lib.isWord c = true
  letter_digit : ∀ c, c.isAlpha = true → lib.isDecimal c = false
  mark_word : ∀ c ∈ ['+', '-', ',', '.'], lib.isWord c = false
  space_word : ∀ c, isSpace c = true → lib.isWord c = false

variable {lib : CharacterLibrary}

namespace NumberLaws

variable (laws : NumberLaws lib)
include laws

theorem not_digit {c : Char} (h : lib.isWord c = false) : lib.isDecimal c = false := by
  cases hc : lib.isDecimal c with
  | false => rfl
  | true => rw [laws.digit_word c hc] at h; cases h

theorem mark_digit {c : Char} (h : c ∈ ['+', '-', ',', '.']) : lib.isDecimal c = false :=
  laws.not_digit (laws.mark_word c h)

theorem digit_ne {c m : Char} (h : lib.isDecimal c = true) (hm : m ∈ ['+', '-', ',', '.']) :
    c ≠ m := by
  rintro rfl
  rw [laws.mark_digit hm] at h
  cases h

end NumberLaws

/-! ## Numbers -/

/-- The parts of a number. -/
structure Numeral where
  sign : Text
  whole : Text
  groups : List Text
  fraction : Text

def fractionText (fraction : Text) : Text := if fraction = [] then [] else '.' :: fraction

def groupsText (groups : List Text) : Text := groups.flatMap (',' :: ·)

def Numeral.text (n : Numeral) : Text :=
  n.sign ++ (n.whole ++ (groupsText n.groups ++ fractionText n.fraction))

/-- All the characters are digits. -/
def Digits (lib : CharacterLibrary) (text : Text) : Prop := ∀ c ∈ text, lib.isDecimal c = true

structure Numeral.Valid (lib : CharacterLibrary) (n : Numeral) : Prop where
  sign : n.sign = [] ∨ ∃ c ∈ ['+', '-'], n.sign = [c]
  whole : n.whole ≠ []
  digits : Digits lib n.whole
  short : n.groups ≠ [] → n.whole.length ≤ 3
  groups : ∀ g ∈ n.groups, Digits lib g ∧ g.length = 3
  fraction : Digits lib n.fraction

/-- What stands before a number. -/
def opensNumber (lib : CharacterLibrary) (before : Option Char) : Bool :=
  !before.any fun c => lib.isWord c || ".+-".toList.contains c

/-- What stands after a number. -/
def closesNumber (lib : CharacterLibrary) (after : Option Char) : Bool :=
  !after.any fun c => lib.isWord c || c = '.'

theorem NumberLaws.closes_digit (laws : NumberLaws lib) {text : Text} {c : Char} {rest : Text}
    (h : text = c :: rest) (hc : lib.isDecimal c = true) : closesNumber lib text.head? = false := by
  subst h
  show (!(lib.isWord c || _)) = false
  rw [laws.digit_word c hc]
  rfl

theorem NumberLaws.closes_comma (laws : NumberLaws lib) (rest : Text) :
    closesNumber lib (',' :: rest).head? = true := by
  show (!(lib.isWord ',' || decide (',' = '.'))) = true
  rw [laws.mark_word ',' (by simp)]
  rfl

/-! ## The parts of the pattern -/

/-- `(?:\.\d+)?(?![\w.])`. -/
def numberEnd (lib : CharacterLibrary) : Regex :=
  .seq (opt (.seq (one '.') (plus (digit lib))))
    (.seq (.between fun _ after => closesNumber lib after) .nil)

/-- `,\d{3}`. -/
def numberGroup (lib : CharacterLibrary) : Regex := .seq (one ',') (.many (digit lib) 3 (some 3))

/-- `\d{1,3}(?:,\d{3})+`. -/
def groupedWhole (lib : CharacterLibrary) : Regex :=
  .seq (.many (digit lib) 1 (some 3)) (plus (numberGroup lib))

theorem number_eq : number lib = .seq (.between fun before _ => opensNumber lib before)
    (.seq (opt (oneOf "+-")) (.seq (.alt (groupedWhole lib) (plus (digit lib))) (numberEnd lib))) :=
  rfl

/-- The way that takes a text and nothing else. -/
structure Goes (c d : Cursor) (taken : Text) : Prop extends c.Took d taken where
  group : d.group = c.group

theorem Goes.trans {c d e : Cursor} {a b : Text} (h : Goes c d a) (h' : Goes d e b) :
    Goes c e (a ++ b) :=
  ⟨h.toTook.trans h'.toTook, h'.group.trans h.group⟩

theorem Goes.refl (c : Cursor) : Goes c c [] := ⟨.refl c, rfl⟩

theorem Goes.of_eq {c d : Cursor} (h : Goes c d []) : d = c := by
  obtain ⟨⟨hafter, hbefore⟩, hgroup⟩ := h
  obtain ⟨before, after, g⟩ := c
  obtain ⟨before', after', g'⟩ := d
  obtain rfl : after = after' := hafter
  obtain rfl : before' = before := hbefore
  obtain rfl : g' = g := hgroup
  rfl

/-- Where a way takes a text that is made of two, there is a place between them. -/
theorem Goes.split {c e : Cursor} {a b : Text} (h : Goes c e (a ++ b)) :
    ∃ d, Goes c d a ∧ Goes d e b := by
  refine ⟨⟨a.reverse ++ c.before, b ++ e.after, c.group⟩, ⟨⟨?_, rfl⟩, rfl⟩, ⟨⟨rfl, ?_⟩, h.group⟩⟩
  · rw [h.after, List.append_assoc]
  · rw [h.before, List.reverse_append, List.append_assoc]

theorem mem_run_one {x : Char} {c d : Cursor} : d ∈ (one x).run c ↔ Goes c d [x] := by
  rw [one, mem_run_char]
  constructor
  · rintro ⟨y, rest, hafter, hy, rfl⟩
    obtain rfl := of_decide_eq_true hy
    exact ⟨.one hafter, rfl⟩
  · rintro ⟨⟨hafter, hbefore⟩, hgroup⟩
    refine ⟨x, d.after, hafter, decide_eq_true rfl, ?_⟩
    obtain ⟨before', after', g'⟩ := d
    obtain rfl : before' = x :: c.before := hbefore
    obtain rfl : g' = c.group := hgroup
    rfl

theorem mem_run_digits {min : Nat} {max : Option Nat} {c d : Cursor} :
    d ∈ (Regex.many (digit lib) min max).run c ↔
      ∃ ds, Goes c d ds ∧ Digits lib ds ∧ min ≤ ds.length ∧ ∀ m ∈ max, ds.length ≤ m := by
  rw [digit, mem_run_many]
  constructor
  · rintro ⟨n, hsteps, hmin, hmax⟩
    obtain ⟨ds, htook, hgroup, hall, rfl⟩ := steps_char.mp hsteps
    exact ⟨ds, ⟨htook, hgroup⟩, hall, hmin, hmax⟩
  · rintro ⟨ds, hgoes, hall, hmin, hmax⟩
    exact ⟨ds.length, steps_char.mpr ⟨ds, hgoes.toTook, hgoes.group, hall, rfl⟩, hmin, hmax⟩

theorem mem_run_numberGroup {c d : Cursor} :
    d ∈ (numberGroup lib).run c ↔ ∃ g, Goes c d (',' :: g) ∧ Digits lib g ∧ g.length = 3 := by
  rw [numberGroup, mem_run_seq]
  constructor
  · rintro ⟨e, he, hd⟩
    obtain ⟨g, hg, hdigits, hmin, hmax⟩ := mem_run_digits.mp hd
    have := hmax 3 rfl
    exact ⟨g, (mem_run_one.mp he).trans hg, hdigits, by omega⟩
  · rintro ⟨g, hgoes, hdigits, hlength⟩
    obtain ⟨e, he, hd⟩ := Goes.split (a := [',']) hgoes
    refine ⟨e, mem_run_one.mpr he, mem_run_digits.mpr ⟨g, hd, hdigits, by omega, fun m hm => ?_⟩⟩
    obtain rfl := Option.some.inj hm
    omega

theorem steps_numberGroup {n : Nat} {c e : Cursor} : Steps (numberGroup lib).run n c e ↔
    ∃ groups : List Text, Goes c e (groupsText groups) ∧
      (∀ g ∈ groups, Digits lib g ∧ g.length = 3) ∧ groups.length = n := by
  constructor
  · intro h
    induction h with
    | zero c => exact ⟨[], .refl c, nofun, rfl⟩
    | succ hd _ _ ih =>
      obtain ⟨g, hg, hdigits, hlength⟩ := mem_run_numberGroup.mp hd
      obtain ⟨groups, hgroups, hall, hcount⟩ := ih
      refine ⟨g :: groups, hg.trans hgroups, List.forall_mem_cons.mpr ⟨⟨hdigits, hlength⟩, hall⟩, ?_⟩
      rw [List.length_cons, hcount]
  · rintro ⟨groups, hgoes, hall, rfl⟩
    induction groups generalizing c with
    | nil =>
      obtain rfl := hgoes.of_eq
      exact .zero _
    | cons g groups ih =>
      obtain ⟨⟨hdigits, hlength⟩, hall⟩ := List.forall_mem_cons.mp hall
      obtain ⟨d, hd, he⟩ := Goes.split (a := ',' :: g) hgoes
      refine .succ (mem_run_numberGroup.mpr ⟨g, hd, hdigits, hlength⟩) ?_ (ih he hall)
      rw [hd.after]
      simp

theorem mem_run_opt {r : Regex} {c d : Cursor} (hr : ∀ e ∈ r.run c, e.after.length < c.after.length) :
    d ∈ (opt r).run c ↔ d = c ∨ d ∈ r.run c := by
  rw [opt, mem_run_many]
  constructor
  · rintro ⟨n, hsteps, _, hmax⟩
    cases hsteps with
    | zero => exact .inl rfl
    | succ he _ hrest =>
      obtain rfl : _ = 0 := Nat.le_zero.mp (Nat.le_of_succ_le_succ (hmax 1 rfl))
      cases hrest
      exact .inr he
  · rintro (rfl | hd)
    · exact ⟨0, .zero _, Nat.le_refl _, fun _ _ => Nat.zero_le _⟩
    · refine ⟨1, .succ hd (hr d hd) (.zero d), Nat.zero_le _, fun m hm => ?_⟩
      obtain rfl := Option.some.inj hm
      exact Nat.le_refl _

theorem Goes.shorter {c d : Cursor} {taken : Text} (h : Goes c d taken) (hne : taken ≠ []) :
    d.after.length < c.after.length := by
  have hlength := h.toTook.length_eq
  have := List.length_pos_iff.mpr hne
  omega

theorem mem_run_point {c d : Cursor} : d ∈ ((one '.').seq (plus (digit lib))).run c ↔
    ∃ ds, Goes c d ('.' :: ds) ∧ Digits lib ds ∧ ds ≠ [] := by
  rw [mem_run_seq]
  constructor
  · rintro ⟨e, he, hd⟩
    obtain ⟨ds, hds, hdigits, hmin, _⟩ := mem_run_digits.mp hd
    exact ⟨ds, (mem_run_one.mp he).trans hds, hdigits, List.length_pos_iff.mp hmin⟩
  · rintro ⟨ds, hgoes, hdigits, hne⟩
    obtain ⟨e, he, hd⟩ := Goes.split (a := ['.']) hgoes
    exact ⟨e, mem_run_one.mpr he,
      mem_run_digits.mpr ⟨ds, hd, hdigits, List.length_pos_iff.mpr hne, nofun⟩⟩

theorem mem_run_numberEnd {c d : Cursor} : d ∈ (numberEnd lib).run c ↔
    ∃ fraction, Goes c d (fractionText fraction) ∧ Digits lib fraction ∧
      closesNumber lib d.after.head? = true := by
  have hshorter : ∀ e ∈ ((one '.').seq (plus (digit lib))).run c,
      e.after.length < c.after.length := by
    intro e he
    obtain ⟨ds, hds, _, _⟩ := mem_run_point.mp he
    exact hds.shorter (List.cons_ne_nil _ _)
  rw [numberEnd, mem_run_seq]
  constructor
  · rintro ⟨e, he, hrest⟩
    obtain ⟨e', he', hd⟩ := mem_run_seq.mp hrest
    obtain rfl : d = e' := List.mem_singleton.mp hd
    obtain ⟨rfl, hcloses⟩ := mem_run_between.mp he'
    rcases (mem_run_opt hshorter).mp he with rfl | he
    · exact ⟨[], .refl _, nofun, hcloses⟩
    · obtain ⟨ds, hds, hdigits, hne⟩ := mem_run_point.mp he
      refine ⟨ds, ?_, hdigits, hcloses⟩
      rw [fractionText, if_neg hne]
      exact hds
  · rintro ⟨fraction, hgoes, hdigits, hcloses⟩
    refine ⟨d, (mem_run_opt hshorter).mpr ?_, mem_run_seq.mpr ⟨d, mem_run_between.mpr ⟨rfl, hcloses⟩,
      List.mem_singleton.mpr rfl⟩⟩
    by_cases hne : fraction = []
    · left
      rw [hne] at hgoes
      exact hgoes.of_eq
    · right
      rw [fractionText, if_neg hne] at hgoes
      exact mem_run_point.mpr ⟨fraction, hgoes, hdigits, hne⟩

theorem mem_run_groupedWhole {c d : Cursor} : d ∈ (groupedWhole lib).run c ↔
    ∃ (whole : Text) (groups : List Text), Goes c d (whole ++ groupsText groups) ∧
      Digits lib whole ∧ whole ≠ [] ∧ whole.length ≤ 3 ∧ groups ≠ [] ∧
      ∀ g ∈ groups, Digits lib g ∧ g.length = 3 := by
  rw [groupedWhole, mem_run_seq]
  constructor
  · rintro ⟨e, he, hd⟩
    obtain ⟨whole, hwhole, hdigits, hmin, hmax⟩ := mem_run_digits.mp he
    obtain ⟨n, hsteps, hn, _⟩ := mem_run_many.mp hd
    obtain ⟨groups, hgroups, hall, rfl⟩ := steps_numberGroup.mp hsteps
    exact ⟨whole, groups, hwhole.trans hgroups, hdigits, List.length_pos_iff.mp hmin, hmax 3 rfl,
      List.length_pos_iff.mp hn, hall⟩
  · rintro ⟨whole, groups, hgoes, hdigits, hne, hshort, hgroups, hall⟩
    obtain ⟨e, he, hd⟩ := hgoes.split
    refine ⟨e, mem_run_digits.mpr ⟨whole, he, hdigits, List.length_pos_iff.mpr hne, fun m hm => ?_⟩,
      mem_run_many.mpr ⟨groups.length, steps_numberGroup.mpr ⟨groups, hd, hall, rfl⟩,
        List.length_pos_iff.mpr hgroups, nofun⟩⟩
    obtain rfl := Option.some.inj hm
    exact hshort

theorem mem_run_sign {c d : Cursor} : d ∈ (opt (oneOf "+-")).run c ↔
    ∃ sign, Goes c d sign ∧ (sign = [] ∨ ∃ x ∈ ['+', '-'], sign = [x]) := by
  have hone : ∀ e, e ∈ (oneOf "+-").run c ↔ ∃ x ∈ ['+', '-'], Goes c e [x] := by
    intro e
    rw [oneOf, mem_run_char]
    constructor
    · rintro ⟨x, rest, hafter, hx, rfl⟩
      exact ⟨x, by simpa using hx, ⟨.one hafter, rfl⟩⟩
    · rintro ⟨x, hx, ⟨⟨hafter, hbefore⟩, hgroup⟩⟩
      refine ⟨x, e.after, hafter, by simpa using hx, ?_⟩
      obtain ⟨before', after', g'⟩ := e
      obtain rfl : before' = x :: c.before := hbefore
      obtain rfl : g' = c.group := hgroup
      rfl
  rw [mem_run_opt fun e he => by
    obtain ⟨x, _, hx⟩ := (hone e).mp he
    exact hx.shorter (List.cons_ne_nil _ _)]
  constructor
  · rintro (rfl | hd)
    · exact ⟨[], .refl _, .inl rfl⟩
    · obtain ⟨x, hx, hgoes⟩ := (hone d).mp hd
      exact ⟨[x], hgoes, .inr ⟨x, hx, rfl⟩⟩
  · rintro ⟨sign, hgoes, rfl | ⟨x, hx, rfl⟩⟩
    · exact .inl hgoes.of_eq
    · exact .inr ((hone d).mpr ⟨x, hx, hgoes⟩)

/-- **The successes of the pattern** are the numbers that stand apart. -/
theorem mem_run_number {c d : Cursor} : d ∈ (number lib).run c ↔
    opensNumber lib c.before.head? = true ∧ ∃ n : Numeral, n.Valid lib ∧ Goes c d n.text ∧
      closesNumber lib d.after.head? = true := by
  rw [number_eq, mem_run_seq]
  constructor
  · rintro ⟨c', hc', hd⟩
    obtain ⟨rfl, hopens⟩ := mem_run_between.mp hc'
    obtain ⟨e, he, hd⟩ := mem_run_seq.mp hd
    obtain ⟨sign, hsign, hsigns⟩ := mem_run_sign.mp he
    obtain ⟨f, hf, hd⟩ := mem_run_seq.mp hd
    obtain ⟨fraction, hfraction, hdigits, hcloses⟩ := mem_run_numberEnd.mp hd
    refine ⟨hopens, ?_⟩
    rcases mem_run_alt.mp hf with hf | hf
    · obtain ⟨whole, groups, hgoes, hwhole, hne, hshort, hgroups, hall⟩ := mem_run_groupedWhole.mp hf
      refine ⟨⟨sign, whole, groups, fraction⟩, ⟨hsigns, hne, hwhole, fun _ => hshort, hall, hdigits⟩,
        ?_, hcloses⟩
      have := hsign.trans (hgoes.trans hfraction)
      rw [List.append_assoc] at this
      exact this
    · obtain ⟨whole, hgoes, hwhole, hmin, _⟩ := mem_run_digits.mp hf
      exact ⟨⟨sign, whole, [], fraction⟩, ⟨hsigns, List.length_pos_iff.mp hmin, hwhole,
        fun h => absurd rfl h, nofun, hdigits⟩, hsign.trans (hgoes.trans hfraction), hcloses⟩
  · rintro ⟨hopens, ⟨sign, whole, groups, fraction⟩, hvalid, hgoes, hcloses⟩
    obtain ⟨e, hsign, hgoes⟩ := hgoes.split
    rw [← List.append_assoc] at hgoes
    obtain ⟨f, hwhole, hfraction⟩ := hgoes.split
    refine ⟨c, mem_run_between.mpr ⟨rfl, hopens⟩, mem_run_seq.mpr ⟨e,
      mem_run_sign.mpr ⟨sign, hsign, hvalid.sign⟩, mem_run_seq.mpr ⟨f, mem_run_alt.mpr ?_,
        mem_run_numberEnd.mpr ⟨fraction, hfraction, hvalid.fraction, hcloses⟩⟩⟩⟩
    by_cases hgroups : groups = []
    · right
      subst hgroups
      have hwhole : Goes e f (whole ++ []) := hwhole
      rw [List.append_nil] at hwhole
      exact mem_run_digits.mpr ⟨whole, hwhole, hvalid.digits, List.length_pos_iff.mpr hvalid.whole,
        nofun⟩
    · left
      exact mem_run_groupedWhole.mpr ⟨whole, groups, hwhole, hvalid.digits, hvalid.whole,
        hvalid.short hgroups, hgroups, hvalid.groups⟩

/-! ## The longest number comes first -/

theorem numberEnd_le {c d : Cursor} (h : d ∈ (numberEnd lib).run c) :
    d.after.length ≤ c.after.length := by
  obtain ⟨fraction, hgoes, _, _⟩ := mem_run_numberEnd.mp h
  have := hgoes.toTook.length_eq
  omega

theorem NumberLaws.numberEnd_digit (laws : NumberLaws lib) {c d : Cursor} {x : Char} {rest : Text}
    (hafter : c.after = x :: rest) (hx : lib.isDecimal x = true) : d ∉ (numberEnd lib).run c := by
  intro hd
  obtain ⟨fraction, hgoes, _, hcloses⟩ := mem_run_numberEnd.mp hd
  have htook := hgoes.toTook.after
  rw [hafter, fractionText] at htook
  split at htook
  · rw [laws.closes_digit (show d.after = x :: rest from htook.symm) hx] at hcloses
    cases hcloses
  · obtain rfl : x = '.' := (List.cons.inj htook).1
    rw [laws.mark_digit (by simp)] at hx
    cases hx

theorem numberEnd_comma {c d : Cursor} {rest : Text} (hafter : c.after = ',' :: rest)
    (hd : d ∈ (numberEnd lib).run c) : d = c := by
  obtain ⟨fraction, hgoes, _, _⟩ := mem_run_numberEnd.mp hd
  by_cases hne : fraction = []
  · rw [hne] at hgoes
    exact hgoes.of_eq
  · have htook := hgoes.toTook.after
    rw [hafter, fractionText, if_neg hne] at htook
    exact absurd (List.cons.inj htook).1 (by decide)

theorem run_digit_ne {c : Cursor} (h : (digit lib).run c ≠ []) :
    ∃ x rest, c.after = x :: rest ∧ lib.isDecimal x = true := by
  obtain ⟨d, hd⟩ := List.exists_mem_of_ne_nil _ h
  obtain ⟨x, rest, hafter, hx, _⟩ := mem_run_char.mp hd
  exact ⟨x, rest, hafter, hx⟩

theorem run_numberGroup_ne {c : Cursor} (h : (numberGroup lib).run c ≠ []) :
    ∃ rest, c.after = ',' :: rest := by
  obtain ⟨d, hd⟩ := List.exists_mem_of_ne_nil _ h
  obtain ⟨g, hgoes, _⟩ := mem_run_numberGroup.mp hd
  exact ⟨_, hgoes.after⟩

theorem numberGroup_length (c : Cursor) : ((numberGroup lib).run c).length ≤ 1 :=
  run_seq_length (s := .many (digit lib) 3 (some 3)) run_char_length
    (fun d => repeatRun_exact_length run_char_length (d.after.length + 1) 3 d) c

theorem digits_pairwise (min : Nat) (max : Option Nat) (c : Cursor) :
    ((Regex.many (digit lib) min max).run c).Pairwise fun a b =>
      a.after.length < b.after.length ∧ (digit lib).run b ≠ [] :=
  repeatRun_pairwise run_char_length _ _ _ _

theorem numberEnd_pairwise (c : Cursor) : ((numberEnd lib).run c).Pairwise Longest := by
  have hlast : ∀ e f, f ∈ ((Regex.between fun _ after => closesNumber lib after).seq .nil).run e →
      f = e := by
    intro e f hf
    obtain ⟨e', he', hf⟩ := mem_run_seq.mp hf
    rw [List.mem_singleton.mp hf]
    exact (mem_run_between.mp he').1
  have hlength : ∀ e, (((Regex.between fun _ after => closesNumber lib after).seq .nil).run e).length
      ≤ 1 := by
    refine run_seq_length (fun e => ?_) fun e => Nat.le_refl _
    show (if _ then [e] else [] : List Cursor).length ≤ 1
    split <;> simp
  refine List.pairwise_flatMap.mpr ⟨fun e _ => pairwise_of_length_le_one (hlength e), ?_⟩
  rw [opt_run]
  refine List.pairwise_append.mpr ⟨List.Pairwise.filter _ ?_, List.pairwise_singleton _ _, ?_⟩
  · refine List.pairwise_flatMap.mpr ⟨fun e _ => ?_, pairwise_of_length_le_one (run_char_length c)⟩
    refine (digits_pairwise 1 none e).imp fun {a b} h x hx y hy => ?_
    rw [hlast a x hx, hlast b y hy]
    exact Nat.le_of_lt h.1
  · intro a ha b hb x hx y hy
    obtain rfl := List.mem_singleton.mp hb
    rw [hlast a x hx, hlast b y hy]
    exact Nat.le_of_lt (of_decide_eq_true (List.mem_filter.mp ha).2)

/-- Two digit runs from one place, the first of which ends before a comma. -/
theorem NumberLaws.runs_eq (laws : NumberLaws lib) {ds whole after rest : Text}
    (h : whole ++ ',' :: rest = ds ++ after) (hds : Digits lib ds) (hwhole : Digits lib whole) :
    (∃ x rest', after = x :: rest' ∧ lib.isDecimal x = true) ∨ after = ',' :: rest := by
  rcases List.append_eq_append_iff.mp h with ⟨more, rfl, hafter⟩ | ⟨more, hwhole', hafter⟩
  · cases more with
    | nil => exact .inr hafter.symm
    | cons x more =>
      have hx := hds x (by simp)
      rw [← (List.cons.inj hafter).1, laws.mark_digit (by simp)] at hx
      cases hx
  · cases more with
    | nil => exact .inr hafter
    | cons x more =>
      refine .inl ⟨x, _, hafter, hwhole x ?_⟩
      rw [hwhole']
      simp

theorem NumberLaws.whole_pairwise (laws : NumberLaws lib) (c : Cursor) :
    ((Regex.alt (groupedWhole lib) (plus (digit lib))).run c).Pairwise fun a b =>
      ∀ x ∈ (numberEnd lib).run a, ∀ y ∈ (numberEnd lib).run b, Longest x y := by
  refine List.pairwise_append.mpr ⟨?_, ?_, ?_⟩
  · refine List.pairwise_flatMap.mpr ⟨fun m _ => ?_, ?_⟩
    · refine (repeatRun_pairwise numberGroup_length _ _ _ m).imp fun {a b} h x hx y hy => ?_
      obtain ⟨rest, hcomma⟩ := run_numberGroup_ne h.2
      rw [numberEnd_comma hcomma hy]
      exact Nat.le_trans (numberEnd_le hx) (Nat.le_of_lt h.1)
    · refine (digits_pairwise 1 (some 3) c).imp fun {a b} h x _ y hy => ?_
      obtain ⟨z, rest, hdigit, hz⟩ := run_digit_ne h.2
      obtain ⟨n, hsteps, hn, _⟩ := mem_run_many.mp hy
      cases hsteps with
      | zero => exact absurd hn (by decide)
      | succ hd _ _ =>
        obtain ⟨rest', hcomma⟩ := run_numberGroup_ne (List.ne_nil_of_mem hd)
        obtain rfl := (List.cons.inj (hdigit.symm.trans hcomma)).1
        rw [laws.mark_digit (by simp)] at hz
        cases hz
  · refine (digits_pairwise 1 none c).imp fun {a b} h x _ y hy => ?_
    obtain ⟨z, rest, hdigit, hz⟩ := run_digit_ne h.2
    exact absurd hy (laws.numberEnd_digit hdigit hz)
  · intro a ha b hb x hx y hy
    obtain ⟨whole, groups, hgoes, hwhole, _, _, hgroups, _⟩ := mem_run_groupedWhole.mp ha
    obtain ⟨ds, hds, hdigits, _, _⟩ := mem_run_digits.mp hb
    obtain ⟨g, groups, rfl⟩ := List.exists_cons_of_ne_nil hgroups
    have htook := hgoes.toTook.after
    rw [List.append_assoc, hds.toTook.after] at htook
    rcases laws.runs_eq htook.symm hdigits hwhole with ⟨z, rest, hdigit, hz⟩ | hcomma
    · exact absurd hy (laws.numberEnd_digit hdigit hz)
    · rw [numberEnd_comma hcomma hy]
      refine Nat.le_trans (numberEnd_le hx) ?_
      have hlength : b.after.length = (',' :: (g ++ groupsText groups ++ a.after)).length :=
        congrArg List.length hcomma
      rw [hlength, List.length_cons, List.length_append]
      omega

/-- The successes of the pattern are in the order of their lengths. -/
theorem NumberLaws.number_pairwise (laws : NumberLaws lib) (c : Cursor) :
    ((number lib).run c).Pairwise Longest := by
  have hbody : ∀ e, (((Regex.alt (groupedWhole lib) (plus (digit lib))).seq (numberEnd lib)).run
      e).Pairwise Longest :=
    fun e => List.pairwise_flatMap.mpr ⟨fun d _ => numberEnd_pairwise d, laws.whole_pairwise e⟩
  rw [number_eq]
  refine List.pairwise_flatMap.mpr ⟨fun e _ => ?_, pairwise_of_length_le_one ?_⟩
  · refine List.pairwise_flatMap.mpr ⟨fun f _ => hbody f, ?_⟩
    rw [opt_run]
    refine List.pairwise_append.mpr ⟨pairwise_of_length_le_one (Nat.le_trans
      (List.length_filter_le _ _) (run_char_length e)), List.pairwise_singleton _ _, ?_⟩
    intro a ha b hb x _ y hy
    obtain rfl := List.mem_singleton.mp hb
    -- there is no number where the sign is
    obtain ⟨s, rest, hafter, hs, _⟩ := mem_run_char.mp (List.mem_filter.mp ha).1
    have hs : lib.isDecimal s = false := laws.mark_digit (by
      have : s ∈ ['+', '-'] := by simpa using hs
      rcases List.mem_cons.mp this with rfl | this
      · simp
      · rw [List.mem_singleton.mp this]
        simp)
    have hnone : ∀ (ds : Text) (f : Cursor) (more : Text), Goes b f (ds ++ more) → Digits lib ds →
        ds ≠ [] → False := by
      intro ds f more hgoes hdigits hne
      obtain ⟨x, ds, rfl⟩ := List.exists_cons_of_ne_nil hne
      have htook := hgoes.toTook.after
      rw [hafter] at htook
      have hx := hdigits x (by simp)
      rw [← (List.cons.inj htook).1, hs] at hx
      cases hx
    obtain ⟨f, hf, _⟩ := mem_run_seq.mp hy
    rcases mem_run_alt.mp hf with hf | hf
    · obtain ⟨whole, groups, hgoes, hdigits, hne, _⟩ := mem_run_groupedWhole.mp hf
      exact (hnone whole f _ hgoes hdigits hne).elim
    · obtain ⟨ds, hgoes, hdigits, hmin, _⟩ := mem_run_digits.mp hf
      exact (hnone ds f [] (by rw [List.append_nil]; exact hgoes) hdigits
        (List.length_pos_iff.mp hmin)).elim
  · show (if _ then [c] else [] : List Cursor).length ≤ 1
    split <;> simp

/-! ## The number at a place -/

/-- A number that a text begins with, apart from what follows it. -/
structure Numeral.Heads (lib : CharacterLibrary) (n : Numeral) (after rest : Text) : Prop where
  valid : n.Valid lib
  text : after = n.text ++ rest
  closes : closesNumber lib rest.head? = true

theorem Numeral.Valid.text_ne {n : Numeral} (h : n.Valid lib) : n.text ≠ [] := by
  intro htext
  obtain ⟨_, hwhole⟩ := List.append_eq_nil_iff.mp htext
  exact h.whole (List.append_eq_nil_iff.mp hwhole).1

theorem mem_run_number_iff {before after : Text} {d : Cursor} :
    d ∈ (number lib).run ⟨before, after, none⟩ ↔ opensNumber lib before.head? = true ∧
      ∃ n : Numeral, n.Heads lib after d.after ∧ Goes ⟨before, after, none⟩ d n.text := by
  rw [mem_run_number]
  refine and_congr_right fun _ => exists_congr fun n => ?_
  exact ⟨fun ⟨hvalid, hgoes, hcloses⟩ => ⟨⟨hvalid, hgoes.toTook.after, hcloses⟩, hgoes⟩,
    fun ⟨hheads, hgoes⟩ => ⟨hheads.valid, hgoes, hheads.closes⟩⟩

theorem Numeral.Heads.mem_run {n : Numeral} {before after rest : Text} (h : n.Heads lib after rest)
    (hopens : opensNumber lib before.head? = true) :
    ⟨n.text.reverse ++ before, rest, none⟩ ∈ (number lib).run ⟨before, after, none⟩ :=
  mem_run_number_iff.mpr ⟨hopens, n, h, ⟨⟨h.text, rfl⟩, rfl⟩⟩

namespace NumberLaws

variable (laws : NumberLaws lib)
include laws

/-- The first success takes the most. -/
theorem head_longest {c d e : Cursor} (hd : ((number lib).run c).head? = some d)
    (he : e ∈ (number lib).run c) : d.after.length ≤ e.after.length := by
  obtain ⟨rest, hrun⟩ := List.head?_eq_some_iff.mp hd
  have hpairwise := laws.number_pairwise c
  rw [hrun] at he hpairwise
  rcases List.mem_cons.mp he with rfl | he
  · exact Nat.le_refl _
  · exact (List.pairwise_cons.mp hpairwise).1 e he

/-- Where the pattern matches, it takes the longest number. -/
theorem matchAt_some {before after : Text} {d : Cursor}
    (h : (number lib).matchAt before after = some d) : opensNumber lib before.head? = true ∧
      ∃ n : Numeral, n.Heads lib after d.after ∧ Goes ⟨before, after, none⟩ d n.text ∧
        ∀ (m : Numeral) (rest : Text), m.Heads lib after rest → m.text.length ≤ n.text.length := by
  obtain ⟨hhead, _⟩ := Option.filter_eq_some_iff.mp h
  obtain ⟨hopens, n, hheads, hgoes⟩ := mem_run_number_iff.mp (List.mem_of_head? hhead)
  refine ⟨hopens, n, hheads, hgoes, fun m rest hm => ?_⟩
  have hle := laws.head_longest hhead (hm.mem_run hopens)
  have hn := congrArg List.length hheads.text
  rw [hm.text, List.length_append, List.length_append] at hn
  dsimp only at hle
  omega

theorem matchAt_none {before after : Text} : (number lib).matchAt before after = none ↔
    (opensNumber lib before.head? = true → ∀ (n : Numeral) (rest : Text), ¬ n.Heads lib after rest) := by
  constructor
  · intro h hopens n rest hn
    have hmem : _ ∈ (number lib).run ⟨before, after, none⟩ := hn.mem_run hopens
    cases hhead : ((number lib).run ⟨before, after, none⟩).head? with
    | none =>
      rw [List.head?_eq_none_iff.mp hhead] at hmem
      exact absurd hmem List.not_mem_nil
    | some d =>
      have hle := laws.head_longest hhead hmem
      have hlength := congrArg List.length hn.text
      have hpos := List.length_pos_iff.mpr hn.valid.text_ne
      rw [List.length_append] at hlength
      dsimp only at hle
      have hshorter : d.after.length < after.length := by omega
      unfold matchAt at h
      rw [hhead, Option.filter_some, if_pos (decide_eq_true hshorter)] at h
      cases h
  · intro h
    cases hmatch : (number lib).matchAt before after with
    | none => rfl
    | some d =>
      obtain ⟨hopens, n, hn, _⟩ := laws.matchAt_some hmatch
      exact absurd hn (h hopens n _)

end NumberLaws

/-- **A number as a whole text** is a text that a number spells. -/
theorem fullMatch_number {text : Text} :
    ((number lib).fullMatch text).isSome = true ↔ ∃ n : Numeral, n.Valid lib ∧ n.text = text := by
  rw [fullMatch, List.find?_isSome]
  constructor
  · rintro ⟨d, hd, hend⟩
    obtain ⟨_, n, hn, _⟩ := mem_run_number_iff.mp hd
    have htext := hn.text
    rw [of_decide_eq_true hend, List.append_nil] at htext
    exact ⟨n, hn.valid, htext.symm⟩
  · rintro ⟨n, hn, rfl⟩
    have hheads : n.Heads lib n.text [] := ⟨hn, (List.append_nil _).symm, rfl⟩
    have hopens : opensNumber lib ([] : Text).head? = true := rfl
    exact ⟨_, hheads.mem_run hopens, decide_eq_true rfl⟩

end ProofAgent.Answers
