import ProofAgent.Base.DecimalDigits
import ProofAgent.Answers.NumberTokens

/-! # Canonical numbers

A number is written without a plus sign, without separators and without the zeros that do not count.
Two numbers are written the same way exactly if they have the same value. -/
namespace ProofAgent.Answers

open Base Base.Regex
open TaskState (Text strip)

variable {lib : CharacterLibrary}

/-! ## Values -/

/-- A digit as `str(Decimal)` writes it. -/
def asciiDigit (d : Nat) : Char := .ofNat (48 + d)

/-- The number is a code: a zero with another digit after it. -/
def zeroPadded (lib : CharacterLibrary) (number : Text) : Bool :=
  let digits := number.dropWhile fun c => c = '+' || c = '-'
  digits.head? = some '0' && (digits.drop 1).head?.any lib.isDecimal

/-- The exact value of a number: its digits, with the point where it stands, and its sign. -/
def numberValue (lib : CharacterLibrary) (number : Text) : ℚ :=
  (if number.head? = some '-' then -1 else 1) *
    (positional ((number.filter lib.isDecimal).map lib.decimalValue) /
      10 ^ ((number.dropWhile (· ≠ '.')).drop 1).length)

namespace Numeral

/-- The digits before the point. -/
def integer (n : Numeral) : Text := n.whole ++ n.groups.flatten

/-- Those before the point that count. -/
def wholeDigits (lib : CharacterLibrary) (n : Numeral) : List Nat :=
  (n.integer.map lib.decimalValue).dropWhile fun d => d = 0

/-- Those after the point that count. -/
def fractionDigits (lib : CharacterLibrary) (n : Numeral) : List Nat :=
  (n.fraction.map lib.decimalValue).rdropWhile fun d => d = 0

def zero : Numeral := ⟨[], ['0'], [], []⟩

/-- The number in its canonical form. -/
def canon (lib : CharacterLibrary) (n : Numeral) : Numeral :=
  if n.wholeDigits lib = [] ∧ n.fractionDigits lib = [] then zero
  else
    { sign := if n.sign = ['-'] then ['-'] else []
      whole := if n.wholeDigits lib = [] then ['0'] else (n.wholeDigits lib).map asciiDigit
      groups := []
      fraction := (n.fractionDigits lib).map asciiDigit }

end Numeral

section
variable (laws : NumberLaws lib)
include laws

namespace NumberLaws

theorem asciiDigit_decimal {d : Nat} (hd : d < 10) : lib.isDecimal (asciiDigit d) = true :=
  (laws.ascii_digit d hd).1

theorem asciiDigit_value {d : Nat} (hd : d < 10) : lib.decimalValue (asciiDigit d) = d :=
  (laws.ascii_digit d hd).2

theorem values_lt {ds : Text} (h : Digits lib ds) : DecimalDigits (ds.map lib.decimalValue) := by
  intro v hv
  obtain ⟨c, hc, rfl⟩ := List.mem_map.mp hv
  exact laws.digit_lt c (h c hc)

theorem asciiDigits_digits {ds : List Nat} (h : DecimalDigits ds) :
    Digits lib (ds.map asciiDigit) := by
  intro c hc
  obtain ⟨d, hd, rfl⟩ := List.mem_map.mp hc
  exact laws.asciiDigit_decimal (h d hd)

theorem asciiDigits_values {ds : List Nat} (h : DecimalDigits ds) :
    (ds.map asciiDigit).map lib.decimalValue = ds := by
  rw [List.map_map]
  exact (List.map_congr_left fun d hd => laws.asciiDigit_value (h d hd)).trans (List.map_id' ds)

/-- Only the zero is written as a zero. -/
theorem asciiDigit_zero {d : Nat} (hd : d < 10) : asciiDigit d = '0' ↔ d = 0 := by
  constructor
  · intro h
    have hvalue := laws.asciiDigit_value hd
    have hzero := laws.asciiDigit_value (show 0 < 10 by decide)
    have hzero' : asciiDigit 0 = '0' := by decide
    rw [h, ← hzero', hzero] at hvalue
    exact hvalue.symm
  · rintro rfl
    decide

end NumberLaws

omit laws in
theorem Numeral.Valid.integer_digits {n : Numeral} (h : n.Valid lib) : Digits lib n.integer := by
  intro c hc
  rcases List.mem_append.mp hc with hc | hc
  · exact h.digits c hc
  · obtain ⟨g, hg, hc⟩ := List.mem_flatten.mp hc
    exact (h.groups g hg).1 c hc

namespace NumberLaws

theorem wholeDigits_lt {n : Numeral} (h : n.Valid lib) : DecimalDigits (n.wholeDigits lib) :=
  fun d hd => laws.values_lt h.integer_digits d ((List.dropWhile_sublist _).subset hd)

theorem fractionDigits_lt {n : Numeral} (h : n.Valid lib) : DecimalDigits (n.fractionDigits lib) :=
  fun d hd => laws.values_lt h.fraction d ((List.rdropWhile_prefix _ _).subset hd)

end NumberLaws

end

theorem Numeral.wholeDigits_head (n : Numeral) : (n.wholeDigits lib).head? ≠ some 0 := by
  intro hhead
  have hfalse := List.head?_dropWhile_not (fun d : Nat => decide (d = 0))
    (n.integer.map lib.decimalValue)
  unfold wholeDigits at hhead
  rw [hhead] at hfalse
  simp at hfalse

theorem Numeral.fractionDigits_last (n : Numeral) : (n.fractionDigits lib).getLast? ≠ some 0 := by
  intro hlast
  unfold fractionDigits at hlast
  rw [List.rdropWhile, List.getLast?_reverse] at hlast
  have hfalse := List.head?_dropWhile_not (fun d : Nat => decide (d = 0))
    (n.fraction.map lib.decimalValue).reverse
  rw [hlast] at hfalse
  simp at hfalse

/-! ## The parts of a text -/

theorem filter_digits {ds : Text} (h : Digits lib ds) : ds.filter lib.isDecimal = ds :=
  List.filter_eq_self.mpr h

theorem filter_groups {p : Char → Bool} {groups : List Text} (hcomma : p ',' = false)
    (hp : ∀ c, lib.isDecimal c = true → p c = true)
    (h : ∀ g ∈ groups, Digits lib g ∧ g.length = 3) :
    (groupsText groups).filter p = groups.flatten := by
  induction groups with
  | nil => rfl
  | cons g groups ih =>
    obtain ⟨⟨hg, _⟩, hgroups⟩ := List.forall_mem_cons.mp h
    show (',' :: g ++ groupsText groups).filter p = _
    rw [List.filter_append, List.filter_cons_of_neg (by simp [hcomma]), ih hgroups, List.flatten_cons,
      List.filter_eq_self.mpr fun c hc => hp c (hg c hc)]

theorem filter_fraction {p : Char → Bool} {fraction : Text}
    (hp : ∀ c, lib.isDecimal c = true → p c = true) (h : Digits lib fraction) :
    (fractionText fraction).filter p =
      if p '.' then fractionText fraction else fraction := by
  have hdigits : fraction.filter p = fraction := List.filter_eq_self.mpr fun c hc => hp c (h c hc)
  unfold fractionText
  by_cases hne : fraction = []
  · simp [hne]
  · rw [if_neg hne, List.filter_cons, hdigits]

/-- `+` or `-`. -/
def isSignChar (c : Char) : Bool := c = '+' || c = '-'

section
variable (laws : NumberLaws lib)
include laws

namespace NumberLaws

theorem whole_head {n : Numeral} (h : n.Valid lib) :
    ∃ c rest, n.whole = c :: rest ∧ lib.isDecimal c = true ∧ isSignChar c = false := by
  obtain ⟨c, rest, hwhole⟩ := List.exists_cons_of_ne_nil h.whole
  have hc := h.digits c (by rw [hwhole]; exact List.mem_cons_self)
  refine ⟨c, rest, hwhole, hc, ?_⟩
  have hplus := laws.digit_ne hc (m := '+') (by simp)
  have hminus := laws.digit_ne hc (m := '-') (by simp)
  simp [isSignChar, hplus, hminus]

/-- A number without its sign. -/
theorem unsigned_text {n : Numeral} (h : n.Valid lib) :
    n.text.dropWhile isSignChar = n.whole ++ (groupsText n.groups ++ fractionText n.fraction) := by
  obtain ⟨c, rest, hwhole, _, hsign⟩ := laws.whole_head h
  have hbody : (n.whole ++ (groupsText n.groups ++ fractionText n.fraction)).dropWhile isSignChar =
      n.whole ++ (groupsText n.groups ++ fractionText n.fraction) := by
    rw [hwhole, List.cons_append, List.dropWhile_cons_of_neg (by simp [hsign])]
  unfold Numeral.text
  rcases h.sign with hs | ⟨s, hs, hsign⟩
  · rw [hs, List.nil_append, hbody]
  · have hs : isSignChar s = true := by
      rcases List.mem_cons.mp hs with rfl | hs
      · rfl
      · rw [List.mem_singleton.mp hs]
        rfl
    rw [hsign, List.singleton_append, List.dropWhile_cons_of_pos hs, hbody]

/-- Digits are kept where a mark is taken away. -/
theorem filter_mark {ds : Text} (h : Digits lib ds) {m : Char} (hm : m ∈ ['+', '-', ',', '.']) :
    ds.filter (· ≠ m) = ds :=
  List.filter_eq_self.mpr fun c hc => decide_eq_true (laws.digit_ne (h c hc) hm)

/-- The characters of a number before its point. -/
theorem no_point {n : Numeral} (h : n.Valid lib) :
    ∀ c ∈ n.sign ++ (n.whole ++ groupsText n.groups), c ≠ '.' := by
  intro c hc
  rcases List.mem_append.mp hc with hc | hc
  · rcases h.sign with hs | ⟨s, hs, hsign⟩
    · rw [hs] at hc
      cases hc
    · rw [hsign] at hc
      obtain rfl := List.mem_singleton.mp hc
      rcases List.mem_cons.mp hs with rfl | hs
      · decide
      · rw [List.mem_singleton.mp hs]
        decide
  · rcases List.mem_append.mp hc with hc | hc
    · exact laws.digit_ne (h.digits c hc) (by simp)
    · obtain ⟨g, hg, hc⟩ := List.mem_flatMap.mp hc
      rcases List.mem_cons.mp hc with rfl | hc
      · decide
      · exact laws.digit_ne ((h.groups g hg).1 c hc) (by simp)

omit laws in
/-- What stands before the point, and what stands after it. -/
theorem split_point {a fraction : Text} (ha : ∀ c ∈ a, c ≠ '.') :
    (a ++ fractionText fraction).takeWhile (· ≠ '.') = a ∧
      ((a ++ fractionText fraction).dropWhile (· ≠ '.')).drop 1 = fraction := by
  have hall : ∀ c ∈ a, decide (c ≠ '.') = true := fun c hc => decide_eq_true (ha c hc)
  rw [List.takeWhile_append_of_pos hall, List.dropWhile_append_of_pos hall]
  unfold fractionText
  by_cases hne : fraction = []
  · simp [hne]
  · rw [if_neg hne, List.takeWhile_cons_of_neg (by simp), List.dropWhile_cons_of_neg (by simp),
      List.append_nil]
    exact ⟨rfl, rfl⟩

end NumberLaws

end

/-! ## The canonical text of a number -/

theorem decimalText_eq (number : Text) : decimalText lib number =
    if zeroPadded lib number then number
    else decimalText.canonicalDecimal lib number (number.dropWhile isSignChar) := by
  unfold decimalText zeroPadded
  dsimp only
  split
  · rename_i c rest hdigits
    have hunsigned : number.dropWhile isSignChar = '0' :: c :: rest := hdigits
    rw [hdigits, hunsigned]
    rfl
  · rename_i hother
    refine (if_neg fun hpadded => ?_).symm
    obtain ⟨hzero, hnext⟩ := Bool.and_eq_true_iff.mp hpadded
    obtain ⟨rest, hdigits⟩ := List.head?_eq_some_iff.mp (of_decide_eq_true hzero)
    rw [hdigits] at hnext
    cases rest with
    | nil => cases hnext
    | cons c rest => exact hother c rest hdigits

section
variable (laws : NumberLaws lib)
include laws

namespace NumberLaws

/-- The digits of a number as `Decimal` reads them. -/
theorem plain_text {n : Numeral} (h : n.Valid lib) :
    ((n.text.dropWhile isSignChar).filter (· ≠ ',')).map
        (fun c => if c = '.' then c else plainDigit lib c) =
      n.integer.map (plainDigit lib) ++ fractionText (n.fraction.map (plainDigit lib)) := by
  have hmap : ∀ {ds : Text}, Digits lib ds →
      ds.map (fun c => if c = '.' then c else plainDigit lib c) = ds.map (plainDigit lib) :=
    fun hds => List.map_congr_left fun c hc => if_neg (laws.digit_ne (hds c hc) (by simp))
  have hcomma : ∀ c, lib.isDecimal c = true → decide (c ≠ ',') = true :=
    fun c hc => decide_eq_true (laws.digit_ne hc (by simp))
  rw [laws.unsigned_text h, List.filter_append, List.filter_append, laws.filter_mark h.digits (by simp),
    filter_groups (by simp) hcomma h.groups, filter_fraction hcomma h.fraction, if_pos (by simp),
    ← List.append_assoc, List.map_append]
  show n.integer.map _ ++ _ = _
  rw [hmap h.integer_digits]
  congr 1
  unfold fractionText
  by_cases hne : n.fraction = []
  · simp [hne]
  · rw [if_neg hne, if_neg (by simpa using hne), List.map_cons, hmap h.fraction, if_pos rfl]

theorem plainDigit_point {ds : Text} (h : Digits lib ds) : ∀ c ∈ ds.map (plainDigit lib), c ≠ '.' := by
  intro c hc
  obtain ⟨d, hd, rfl⟩ := List.mem_map.mp hc
  exact laws.digit_ne (laws.asciiDigit_decimal (laws.digit_lt d (h d hd))) (by simp)

/-- Zeros are dropped as numbers and as characters. -/
theorem dropWhile_zeros {ds : Text} (h : Digits lib ds) :
    (ds.map (plainDigit lib)).dropWhile (fun c => c = '0') =
      ((ds.map lib.decimalValue).dropWhile fun d => d = 0).map asciiDigit := by
  induction ds with
  | nil => rfl
  | cons c ds ih =>
    obtain ⟨hc, hds⟩ := List.forall_mem_cons.mp h
    have hzero : plainDigit lib c = '0' ↔ lib.decimalValue c = 0 :=
      laws.asciiDigit_zero (laws.digit_lt c hc)
    rw [List.map_cons, List.map_cons, List.dropWhile_cons, List.dropWhile_cons]
    by_cases h0 : lib.decimalValue c = 0
    · rw [if_pos (decide_eq_true (hzero.mpr h0)), if_pos (decide_eq_true h0), ih hds]
    · rw [if_neg (fun hd => h0 (hzero.mp (of_decide_eq_true hd))), if_neg (by simpa using h0),
        List.map_cons, List.map_map]
      rfl

theorem rdropWhile_zeros {ds : Text} (h : Digits lib ds) :
    (ds.map (plainDigit lib)).rdropWhile (fun c => c = '0') =
      ((ds.map lib.decimalValue).rdropWhile fun d => d = 0).map asciiDigit := by
  rw [List.rdropWhile, List.rdropWhile, ← List.map_reverse, ← List.map_reverse,
    laws.dropWhile_zeros fun c hc => h c (List.mem_reverse.mp hc)]
  simp only [List.map_reverse]

theorem head_minus {n : Numeral} (h : n.Valid lib) : n.text.head? = some '-' ↔ n.sign = ['-'] := by
  obtain ⟨c, rest, hwhole, _, hc⟩ := laws.whole_head h
  unfold Numeral.text
  rcases h.sign with hs | ⟨s, _, hs⟩
  · rw [hs, List.nil_append, hwhole]
    refine iff_of_false (fun hhead => ?_) (List.cons_ne_nil _ _).symm
    rw [Option.some.inj hhead] at hc
    exact absurd hc (by decide)
  · rw [hs]
    exact ⟨fun hhead => by rw [Option.some.inj hhead], fun heq => by rw [heq]; rfl⟩

/-- **The canonical text** of a number that is no code. -/
theorem canonicalDecimal_text {n : Numeral} (h : n.Valid lib) :
    decimalText.canonicalDecimal lib n.text (n.text.dropWhile isSignChar) = (n.canon lib).text := by
  have hsplit := @split_point _ (n.fraction.map (plainDigit lib))
    (laws.plainDigit_point h.integer_digits)
  have hwhole : (n.integer.map (plainDigit lib)).dropWhile (fun c => c = '0') =
      (n.wholeDigits lib).map asciiDigit := laws.dropWhile_zeros h.integer_digits
  have hfraction : (n.fraction.map (plainDigit lib)).rdropWhile (fun c => c = '0') =
      (n.fractionDigits lib).map asciiDigit := laws.rdropWhile_zeros h.fraction
  have hsign := laws.head_minus h
  unfold decimalText.canonicalDecimal
  dsimp only
  rw [laws.plain_text h, hsplit.1, hsplit.2, hwhole, hfraction]
  unfold Numeral.canon
  by_cases hzero : n.wholeDigits lib = [] ∧ n.fractionDigits lib = []
  · rw [if_pos hzero, hzero.1, hzero.2, if_pos ⟨rfl, rfl⟩]
    rfl
  · rw [if_neg hzero, if_neg (by simpa using hzero)]
    show _ = (if n.sign = ['-'] then ['-'] else []) ++
      ((if n.wholeDigits lib = [] then ['0'] else (n.wholeDigits lib).map asciiDigit) ++
        ([] ++ fractionText ((n.fractionDigits lib).map asciiDigit)))
    simp only [hsign, fractionText, List.map_eq_nil_iff, List.nil_append, List.append_assoc]

theorem decimalText_text {n : Numeral} (h : n.Valid lib) :
    decimalText lib n.text = if zeroPadded lib n.text then n.text else (n.canon lib).text := by
  rw [decimalText_eq, laws.canonicalDecimal_text h]

/-! ## The value of a number -/

/-- **The value** of a number by its parts. -/
theorem numberValue_text {n : Numeral} (h : n.Valid lib) :
    numberValue lib n.text = (if n.sign = ['-'] then -1 else 1) *
      (positional (n.wholeDigits lib) + fractional (n.fractionDigits lib)) := by
  have hsign := laws.head_minus h
  have hsigns : n.sign.filter lib.isDecimal = [] := by
    refine List.filter_eq_nil_iff.mpr fun c hc hdigit => ?_
    rcases h.sign with hs | ⟨s, hs, hsign⟩
    · rw [hs] at hc
      cases hc
    · rw [hsign] at hc
      obtain rfl := List.mem_singleton.mp hc
      have hmark := laws.mark_digit (c := c) (by
        rcases List.mem_cons.mp hs with rfl | hs
        · simp
        · rw [List.mem_singleton.mp hs]
          simp)
      rw [hmark] at hdigit
      cases hdigit
  have hfilter : n.text.filter lib.isDecimal = n.integer ++ n.fraction := by
    unfold Numeral.text
    rw [List.filter_append, List.filter_append, List.filter_append, hsigns, filter_digits h.digits,
      filter_groups (laws.mark_digit (by simp)) (fun _ hc => hc) h.groups,
      filter_fraction (fun _ hc => hc) h.fraction, laws.mark_digit (by simp), if_neg (by simp),
      List.nil_append, ← List.append_assoc]
    rfl
  have htext : n.text = (n.sign ++ (n.whole ++ groupsText n.groups)) ++ fractionText n.fraction := by
    simp only [Numeral.text, List.append_assoc]
  have hpoint := (@split_point _ n.fraction (laws.no_point h)).2
  rw [← htext] at hpoint
  unfold numberValue
  rw [hpoint, hfilter, List.map_append, positional_append, List.length_map,
    Numeral.wholeDigits, Numeral.fractionDigits, positional_dropWhile, fractional_rdropWhile,
    fractional, List.length_map]
  simp only [hsign]
  congr 1
  push_cast
  field_simp

/-! ## Canonical numbers -/

theorem canon_valid {n : Numeral} (h : n.Valid lib) : (n.canon lib).Valid lib := by
  have hzero : Digits lib ['0'] := by
    intro c hc
    obtain rfl := List.mem_singleton.mp hc
    exact laws.asciiDigit_decimal (d := 0) (by decide)
  unfold Numeral.canon
  split
  · exact ⟨.inl rfl, List.cons_ne_nil _ _, hzero, fun h => absurd rfl h,
      fun _ hg => absurd hg List.not_mem_nil, fun _ hc => absurd hc List.not_mem_nil⟩
  · refine ⟨?_, ?_, ?_, fun h => absurd rfl h, fun _ hg => absurd hg List.not_mem_nil,
      laws.asciiDigits_digits (laws.fractionDigits_lt h)⟩
    · dsimp only
      split
      · exact .inr ⟨'-', by simp, rfl⟩
      · exact .inl rfl
    · dsimp only
      split
      · exact List.cons_ne_nil _ _
      · simpa using ‹_›
    · dsimp only
      split
      · exact hzero
      · exact laws.asciiDigits_digits (laws.wholeDigits_lt h)

theorem canon_digits {n : Numeral} (h : n.Valid lib) :
    (n.canon lib).wholeDigits lib = n.wholeDigits lib ∧
      (n.canon lib).fractionDigits lib = n.fractionDigits lib := by
  have hzero : (['0'].map lib.decimalValue).dropWhile (fun d => d = 0) = [] := by
    have hvalue : lib.decimalValue '0' = 0 := laws.asciiDigit_value (d := 0) (by decide)
    simp [hvalue]
  unfold Numeral.canon
  split
  · rename_i hboth
    rw [hboth.1, hboth.2]
    exact ⟨hzero, rfl⟩
  · constructor
    · show (((if n.wholeDigits lib = [] then ['0'] else (n.wholeDigits lib).map asciiDigit) ++
        ([] : List Text).flatten).map lib.decimalValue).dropWhile _ = _
      rw [List.flatten_nil, List.append_nil]
      split
      · rename_i hempty
        rw [hzero]
        exact hempty.symm
      · rw [laws.asciiDigits_values (laws.wholeDigits_lt h)]
        exact List.dropWhile_idempotent _ _
    · show (((n.fractionDigits lib).map asciiDigit).map lib.decimalValue).rdropWhile _ = _
      rw [laws.asciiDigits_values (laws.fractionDigits_lt h)]
      exact List.rdropWhile_idempotent _ _

end NumberLaws

end

theorem Numeral.canon_congr {m n : Numeral} (hwhole : m.wholeDigits lib = n.wholeDigits lib)
    (hfraction : m.fractionDigits lib = n.fractionDigits lib)
    (hsign : ¬ (n.wholeDigits lib = [] ∧ n.fractionDigits lib = []) →
      (m.sign = ['-'] ↔ n.sign = ['-'])) : m.canon lib = n.canon lib := by
  unfold canon
  rw [hwhole, hfraction]
  by_cases hzero : n.wholeDigits lib = [] ∧ n.fractionDigits lib = []
  · rw [if_pos hzero, if_pos hzero]
  · rw [if_neg hzero, if_neg hzero]
    simp only [hsign hzero]

theorem Numeral.canon_sign {n : Numeral} (h : ¬ (n.wholeDigits lib = [] ∧ n.fractionDigits lib = [])) :
    (n.canon lib).sign = ['-'] ↔ n.sign = ['-'] := by
  unfold canon
  rw [if_neg h]
  dsimp only
  split
  · rename_i hs
    exact iff_of_true rfl hs
  · rename_i hs
    exact iff_of_false (List.cons_ne_nil _ _).symm hs

theorem Numeral.canon_groups (n : Numeral) : (n.canon lib).groups = [] := by
  unfold canon
  split <;> rfl

section
variable (laws : NumberLaws lib) {m n : Numeral}
include laws

namespace NumberLaws

/-- A canonical number is canonical. -/
theorem canon_canon (h : n.Valid lib) : (n.canon lib).canon lib = n.canon lib :=
  Numeral.canon_congr (laws.canon_digits h).1 (laws.canon_digits h).2 Numeral.canon_sign

theorem canon_value (h : n.Valid lib) :
    numberValue lib (n.canon lib).text = numberValue lib n.text := by
  rw [laws.numberValue_text h, laws.numberValue_text (laws.canon_valid h), (laws.canon_digits h).1,
    (laws.canon_digits h).2]
  by_cases hzero : n.wholeDigits lib = [] ∧ n.fractionDigits lib = []
  · have hnone : (positional [] : ℚ) + fractional [] = 0 := by simp [positional, fractional]
    rw [hzero.1, hzero.2, hnone, mul_zero, mul_zero]
  · simp only [Numeral.canon_sign hzero]

/-- **Numbers of one value** have one canonical form. -/
theorem canon_of_value (hm : m.Valid lib) (hn : n.Valid lib)
    (h : numberValue lib m.text = numberValue lib n.text) : m.canon lib = n.canon lib := by
  rw [laws.numberValue_text hm, laws.numberValue_text hn] at h
  have hnonneg : ∀ k : Numeral,
      (0 : ℚ) ≤ positional (k.wholeDigits lib) + fractional (k.fractionDigits lib) :=
    fun k => add_nonneg (Nat.cast_nonneg _) (fractional_nonneg _)
  have habs : (positional (m.wholeDigits lib) : ℚ) + fractional (m.fractionDigits lib) =
      positional (n.wholeDigits lib) + fractional (n.fractionDigits lib) := by
    have hsize : ∀ (k : Numeral) (x : ℚ), 0 ≤ x →
        |(if k.sign = ['-'] then (-1 : ℚ) else 1) * x| = x := by
      intro k x hx
      split <;> simp [abs_of_nonneg hx]
    rw [← hsize m _ (hnonneg m), ← hsize n _ (hnonneg n), h]
  obtain ⟨hwhole, hfraction⟩ := written_inj (laws.wholeDigits_lt hm) (laws.wholeDigits_lt hn)
    (laws.fractionDigits_lt hm) (laws.fractionDigits_lt hn) m.wholeDigits_head n.wholeDigits_head
    m.fractionDigits_last n.fractionDigits_last habs
  refine Numeral.canon_congr hwhole hfraction fun hne => ?_
  -- the value is not zero, so that its sign counts
  have hpos : (positional (n.wholeDigits lib) : ℚ) + fractional (n.fractionDigits lib) ≠ 0 := by
    intro hzero
    have hnone : (positional [] : ℚ) + fractional [] = 0 := by simp [positional, fractional]
    have hnil : DecimalDigits [] := fun _ hd => absurd hd List.not_mem_nil
    exact hne (written_inj (laws.wholeDigits_lt hn) hnil (laws.fractionDigits_lt hn) hnil
      n.wholeDigits_head (by simp) n.fractionDigits_last (by simp) (hzero.trans hnone.symm))
  rw [habs] at h
  have hsigns := mul_right_cancel₀ hpos h
  by_cases hms : m.sign = ['-'] <;> by_cases hns : n.sign = ['-']
  · exact iff_of_true hms hns
  · rw [if_pos hms, if_neg hns] at hsigns
    norm_num at hsigns
  · rw [if_neg hms, if_pos hns] at hsigns
    norm_num at hsigns
  · exact iff_of_false hms hns

/-- A canonical number is no code. -/
theorem canon_not_padded (h : n.Valid lib) : zeroPadded lib (n.canon lib).text = false := by
  have hpoint : lib.isDecimal '.' = false := laws.mark_digit (by simp)
  have htext : (n.canon lib).text.dropWhile isSignChar =
      (n.canon lib).whole ++ fractionText (n.canon lib).fraction := by
    rw [laws.unsigned_text (laws.canon_valid h), n.canon_groups]
    rfl
  have hend : ∀ fraction : Text, (fractionText fraction).head?.any lib.isDecimal = false := by
    intro fraction
    unfold fractionText
    by_cases hne : fraction = []
    · rw [if_pos hne]
      rfl
    · rw [if_neg hne]
      exact hpoint
  unfold zeroPadded
  show (decide (((n.canon lib).text.dropWhile isSignChar).head? = some '0') &&
    (((n.canon lib).text.dropWhile isSignChar).drop 1).head?.any lib.isDecimal) = false
  rw [htext]
  unfold Numeral.canon
  by_cases hzero : n.wholeDigits lib = [] ∧ n.fractionDigits lib = []
  · rw [if_pos hzero]
    rfl
  · rw [if_neg hzero]
    dsimp only
    cases hds : n.wholeDigits lib with
    | nil =>
      rw [if_pos rfl]
      exact hend _
    | cons d ds =>
      have hhead : (n.wholeDigits lib).head? ≠ some 0 := n.wholeDigits_head
      have hd : d ≠ 0 := fun h0 => hhead (by rw [hds, h0]; rfl)
      have hlt := laws.wholeDigits_lt h d (by rw [hds]; exact List.mem_cons_self)
      rw [if_neg (List.cons_ne_nil _ _), List.map_cons, List.cons_append, List.head?_cons,
        decide_eq_false fun heq => hd ((laws.asciiDigit_zero hlt).mp (Option.some.inj heq))]
      rfl

/-- Canonicalizing a number twice changes nothing. -/
theorem decimalText_decimalText (h : n.Valid lib) :
    decimalText lib (decimalText lib n.text) = decimalText lib n.text := by
  cases hpadded : zeroPadded lib n.text with
  | true =>
    rw [laws.decimalText_text h, hpadded, if_pos rfl, laws.decimalText_text h, hpadded, if_pos rfl]
  | false =>
    rw [laws.decimalText_text h, hpadded, if_neg Bool.false_ne_true,
      laws.decimalText_text (laws.canon_valid h), laws.canon_not_padded h, if_neg Bool.false_ne_true,
      laws.canon_canon h]

/-- **Equal texts, equal values.** -/
theorem decimalText_eq_iff (hm : m.Valid lib) (hn : n.Valid lib)
    (hmp : zeroPadded lib m.text = false) (hnp : zeroPadded lib n.text = false) :
    decimalText lib m.text = decimalText lib n.text ↔
      numberValue lib m.text = numberValue lib n.text := by
  rw [laws.decimalText_text hm, laws.decimalText_text hn, hmp, hnp, if_neg Bool.false_ne_true,
    if_neg Bool.false_ne_true]
  constructor
  · intro h
    rw [← laws.canon_value hm, ← laws.canon_value hn, h]
  · intro h
    rw [laws.canon_of_value hm hn h]

end NumberLaws

end

end ProofAgent.Answers
