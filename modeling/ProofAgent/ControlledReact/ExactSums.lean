import ProofAgent.ControlledReact.ToolTaskCompletion
import Mathlib.Algebra.BigOperators.Group.List.Basic
import Mathlib.Data.Rat.Cast.Order
import Mathlib.Tactic.FieldSimp
import Mathlib.Tactic.Linarith

/-! # Exact sums

What a decimal text spells, and the sum of such texts. The operands are short enough for
the context's precision: a thousand of them, of 128 characters each, have a sum of at
most 258 digits, and so no addition rounds. -/
namespace ProofAgent

open Base

/-! ## What a text spells -/

/-- A decimal text: its sign, the digits before the point, and those after it. -/
structure DecimalText where
  negative : Bool
  whole : List Char
  fraction : List Char
  whole_digits : whole ≠ [] ∧ whole.all Char.isDigit = true
  fraction_digits : fraction.all Char.isDigit = true

namespace DecimalText

def chars (t : DecimalText) : List Char :=
  (if t.negative then ['-'] else []) ++ t.whole ++
    (if t.fraction = [] then [] else '.' :: t.fraction)

def value (t : DecimalText) : ℚ :=
  (if t.negative then -1 else 1) * Nat.ofDigitChars 10 (t.whole ++ t.fraction) 0 /
    10 ^ t.fraction.length

end DecimalText

/-- A text that spells a number. -/
def Denotes (text : String) (q : ℚ) : Prop :=
  ∃ t : DecimalText, t.chars = text.toList ∧ t.value = q

/-! ## Decimals and their values -/

namespace ExactDecimal

def value (d : ExactDecimal) : ℚ := d.coefficient / 10 ^ d.scale

theorem coefficientAt_value (d : ExactDecimal) {scale : Nat} (h : d.scale ≤ scale) :
    (d.coefficientAt scale : ℚ) = d.value * 10 ^ scale := by
  obtain ⟨k, rfl⟩ := Nat.exists_eq_add_of_le h
  have hpow : (10 : ℚ) ^ d.scale ≠ 0 := pow_ne_zero _ (by norm_num)
  unfold coefficientAt value
  rw [Nat.add_sub_cancel_left]
  push_cast
  rw [pow_add]
  field_simp

theorem same_iff {a b : ExactDecimal} : a.same b = true ↔ a.value = b.value := by
  have hpow : (10 : ℚ) ^ max a.scale b.scale ≠ 0 := pow_ne_zero _ (by norm_num)
  have ha := a.coefficientAt_value (le_max_left a.scale b.scale)
  have hb := b.coefficientAt_value (le_max_right a.scale b.scale)
  unfold same
  rw [decide_eq_true_iff]
  constructor
  · intro h
    rw [h, hb] at ha
    exact (mul_right_cancel₀ hpow ha).symm
  · intro h
    rw [h, ← hb] at ha
    exact_mod_cast ha

/-- A number of at most `n` operands' size. -/
structure Within (n : Nat) (d : ExactDecimal) : Prop where
  scale : d.scale ≤ 126
  magnitude : d.coefficient.natAbs ≤ n * 10 ^ 128 * 10 ^ d.scale

theorem Within.coefficientAt_le {n scale : Nat} {d : ExactDecimal} (h : d.Within n)
    (hscale : d.scale ≤ scale) : (d.coefficientAt scale).natAbs ≤ n * 10 ^ 128 * 10 ^ scale := by
  have hpow : (10 ^ (scale - d.scale) : Int).natAbs = 10 ^ (scale - d.scale) := by
    rw [Int.natAbs_pow]
    rfl
  have hsplit : 10 ^ scale = 10 ^ d.scale * 10 ^ (scale - d.scale) := by
    rw [← pow_add, Nat.add_sub_cancel' hscale]
  unfold coefficientAt
  rw [Int.natAbs_mul, hpow, hsplit, ← mul_assoc]
  exact Nat.mul_le_mul_right _ h.magnitude

/-- **An addition within the precision is exact.** -/
theorem add_exact {n : Nat} {a b : ExactDecimal} (ha : a.Within n) (hb : b.Within 1)
    (hn : n + 1 ≤ 10 ^ 3) :
    ∃ c, a.add calculationPrecision b = some c ∧ c.Within (n + 1) ∧ c.value = a.value + b.value := by
  have hscale : max a.scale b.scale ≤ 126 := max_le ha.scale hb.scale
  generalize hs : max a.scale b.scale = s at hscale
  have hsa : a.scale ≤ s := hs ▸ le_max_left ..
  have hsb : b.scale ≤ s := hs ▸ le_max_right ..
  have hsum : (a.coefficientAt s + b.coefficientAt s).natAbs ≤ (n + 1) * 10 ^ 128 * 10 ^ s := by
    have hboth := Int.natAbs_add_le (a.coefficientAt s) (b.coefficientAt s)
    have hab := Nat.add_le_add (ha.coefficientAt_le hsa) (hb.coefficientAt_le hsb)
    rw [← add_mul, ← add_mul] at hab
    exact hboth.trans hab
  have hdigits : (Nat.digits 10 (a.coefficientAt s + b.coefficientAt s).natAbs).length ≤
      calculationPrecision := by
    rw [Nat.digits_length_le_iff (by norm_num)]
    calc (a.coefficientAt s + b.coefficientAt s).natAbs
        ≤ (n + 1) * 10 ^ 128 * 10 ^ s := hsum
      _ ≤ 10 ^ 3 * 10 ^ 128 * 10 ^ 126 :=
        Nat.mul_le_mul (Nat.mul_le_mul_right _ hn) (Nat.pow_le_pow_right (by norm_num) hscale)
      _ < 10 ^ 3 * 10 ^ 128 * 10 ^ 129 :=
        Nat.mul_lt_mul_of_pos_left (Nat.pow_lt_pow_right (by norm_num) (by norm_num)) (by positivity)
      _ = 10 ^ calculationPrecision := by
        rw [show calculationPrecision = 3 + 128 + 129 from rfl, pow_add, pow_add]
  refine ⟨⟨a.coefficientAt s + b.coefficientAt s, s⟩, ?_, ⟨hscale, hsum⟩, ?_⟩
  · unfold add
    dsimp only
    rw [hs, Nat.sub_eq_zero_of_le hdigits, pow_zero, Nat.mod_one, if_pos rfl]
  · have hpow : (10 : ℚ) ^ s ≠ 0 := pow_ne_zero _ (by norm_num)
    unfold value
    push_cast
    rw [a.coefficientAt_value hsa, b.coefficientAt_value hsb, add_div, mul_div_cancel_right₀ _ hpow,
      mul_div_cancel_right₀ _ hpow]
    rfl

end ExactDecimal

/-! ## Reading a number -/

theorem decimalDigits_some {text : List Char} {n : Nat} :
    decimalDigits text = some n ↔
      text ≠ [] ∧ text.all Char.isDigit = true ∧ n = Nat.ofDigitChars 10 text 0 := by
  unfold decimalDigits
  rw [Nat.ofDigitChars_eq_foldl]
  by_cases h : text ≠ [] ∧ text.all Char.isDigit = true
  · rw [if_pos h, Option.some.injEq]
    exact ⟨fun hn => ⟨h.1, h.2, hn.symm⟩, fun hn => hn.2.2.symm⟩
  · rw [if_neg h]
    exact ⟨fun hn => (nomatch hn), fun hn => absurd ⟨hn.1, hn.2.1⟩ h⟩

theorem ofDigitChars_lt (digits : List Char) (h : digits.all Char.isDigit = true) :
    Nat.ofDigitChars 10 digits 0 < 10 ^ digits.length := by
  induction digits using List.reverseRecOn with
  | nil => exact Nat.one_pos
  | append_singleton digits c ih =>
    rw [List.all_append, Bool.and_eq_true] at h
    have hlt := ih h.1
    have hc : c.toNat - '0'.toNat ≤ 9 := by
      have hdigit : c.isDigit = true := by simpa using h.2
      simp only [Char.isDigit, Bool.and_eq_true, decide_eq_true_eq] at hdigit
      have hle : c.toNat ≤ '9'.toNat := hdigit.2
      have h9 : '9'.toNat = 57 := rfl
      have h0 : '0'.toNat = 48 := rfl
      omega
    have hstep : Nat.ofDigitChars 10 (digits ++ [c]) 0 =
        10 * Nat.ofDigitChars 10 digits 0 + (c.toNat - '0'.toNat) := by
      rw [Nat.ofDigitChars_append, Nat.ofDigitChars_cons, Nat.ofDigitChars_nil]
    rw [hstep, List.length_append, List.length_singleton, pow_succ]
    omega

theorem isDigit_ne_point {digits : List Char} (h : digits.all Char.isDigit = true) : '.' ∉ digits := by
  intro hmem
  have hdigit := List.all_eq_true.mp h '.' hmem
  revert hdigit
  decide

/-- The parts of what follows a sign. -/
def unsignedParts (negative : Bool) (rest : List Char) : Option (Bool × List Char × List Char) :=
  match rest.splitOn '.' with
  | [whole] => some (negative, whole, [])
  | [whole, fraction] => if fraction = [] then none else some (negative, whole, fraction)
  | _ => none

theorem decimalParts_minus (rest : List Char) :
    decimalParts ('-' :: rest) = unsignedParts true rest := rfl

theorem decimalParts_unsigned {text : List Char} (h : ∀ rest, text ≠ '-' :: rest) :
    decimalParts text = unsignedParts false text := by
  unfold decimalParts
  split
  rename_i hsign
  split at hsign
  · exact absurd rfl (h _)
  · cases hsign
    rfl

theorem unsignedParts_some {sign negative : Bool} {rest whole fraction : List Char}
    (h : unsignedParts sign rest = some (negative, whole, fraction)) :
    sign = negative ∧ rest = whole ++ (if fraction = [] then [] else '.' :: fraction) := by
  have hjoin : ['.'].intercalate (rest.splitOn '.') = rest := List.intercalate_splitOn '.'
  unfold unsignedParts at h
  split at h
  · rename_i whole' hsplit
    cases h
    rw [hsplit] at hjoin
    refine ⟨rfl, ?_⟩
    rw [← hjoin]
    simp [List.intercalate]
  · rename_i whole' fraction' hsplit
    by_cases hempty : fraction' = []
    · rw [if_pos hempty] at h
      cases h
    · rw [if_neg hempty] at h
      cases h
      rw [hsplit] at hjoin
      refine ⟨rfl, ?_⟩
      rw [if_neg hempty, ← hjoin]
      simp [List.intercalate]
  · cases h

/-- The parts of a text are what it is made of. -/
theorem decimalParts_some {text whole fraction : List Char} {negative : Bool}
    (h : decimalParts text = some (negative, whole, fraction)) :
    text = (if negative then ['-'] else []) ++ whole ++
      (if fraction = [] then [] else '.' :: fraction) := by
  by_cases hsign : ∃ rest, text = '-' :: rest
  · obtain ⟨rest, rfl⟩ := hsign
    rw [decimalParts_minus] at h
    obtain ⟨rfl, hparts⟩ := unsignedParts_some h
    rw [hparts]
    rfl
  · rw [decimalParts_unsigned fun rest hrest => hsign ⟨rest, hrest⟩] at h
    obtain ⟨rfl, hparts⟩ := unsignedParts_some h
    exact hparts

/-- A text is taken apart into what it is made of. -/
theorem decimalParts_chars (t : DecimalText) :
    decimalParts t.chars = some (t.negative, t.whole, t.fraction) := by
  obtain ⟨negative, whole, fraction, ⟨hwhole, hdigits⟩, hfraction⟩ := t
  have hrest : unsignedParts negative (whole ++ (if fraction = [] then [] else '.' :: fraction)) =
      some (negative, whole, fraction) := by
    unfold unsignedParts
    by_cases hempty : fraction = []
    · have hsplit : (['.'].intercalate [whole]).splitOn '.' = [whole] :=
        List.splitOn_intercalate '.' (by simpa using isDigit_ne_point hdigits) (by simp)
      rw [List.intercalate_singleton] at hsplit
      rw [if_pos hempty, List.append_nil, hsplit, hempty]
    · have hsplit : (['.'].intercalate [whole, fraction]).splitOn '.' = [whole, fraction] :=
        List.splitOn_intercalate '.'
          (by simpa using ⟨isDigit_ne_point hdigits, isDigit_ne_point hfraction⟩) (by simp)
      have hjoin : ['.'].intercalate [whole, fraction] = whole ++ '.' :: fraction := by
        simp [List.intercalate]
      rw [hjoin] at hsplit
      rw [if_neg hempty, hsplit]
      exact if_neg hempty
  have hplain : ∀ rest, whole ++ (if fraction = [] then [] else '.' :: fraction) ≠ '-' :: rest := by
    intro rest hhead
    obtain ⟨c, whole', rfl⟩ := List.exists_cons_of_ne_nil hwhole
    rw [List.cons_append, List.cons.injEq] at hhead
    rw [hhead.1, List.all_cons] at hdigits
    revert hdigits
    simp
  rw [← hrest]
  unfold DecimalText.chars
  rw [List.append_assoc]
  cases negative with
  | true => exact decimalParts_minus _
  | false => exact decimalParts_unsigned hplain

/-- **A number that is read** is what its text spells, and has an operand's size. -/
theorem decimalNumber_ok {reported : Option Json} {d : ExactDecimal}
    (h : decimalNumber reported = .ok d) : d.Within 1 ∧
      ∃ text : String, reported = some (.str text) ∧ text.length ≤ 128 ∧ Denotes text d.value := by
  unfold decimalNumber at h
  split at h
  · rename_i text
    obtain ⟨_, hlength, h⟩ := bind_ok h
    obtain ⟨⟨negative, whole, fraction⟩, hparts, h⟩ := bind_ok h
    obtain ⟨_, hwhole, h⟩ := bind_ok h
    obtain ⟨magnitude, hmagnitude, h⟩ := bind_ok h
    have hlength := require_ok hlength
    have hwhole := require_ok hwhole
    have hchars := decimalParts_some (orRaise_ok hparts)
    obtain ⟨_, hdigits, hmagnitude⟩ := decimalDigits_some.mp (orRaise_ok hmagnitude)
    have hboth := hdigits
    rw [List.all_append, Bool.and_eq_true] at hboth
    cases pure_ok h
    have hcount := congrArg List.length hchars
    rw [String.length_toList] at hcount
    refine ⟨⟨?_, ?_⟩, text, rfl, hlength,
      ⟨negative, whole, fraction, ⟨hwhole, hboth.1⟩, hboth.2⟩, hchars.symm, ?_⟩
    · have hpos := List.length_pos_of_ne_nil hwhole
      by_cases hempty : fraction = []
      · rw [hempty]
        exact Nat.zero_le _
      · rw [if_neg hempty] at hcount
        simp only [List.length_append, List.length_cons] at hcount
        dsimp only
        omega
    · have hlt := ofDigitChars_lt (whole ++ fraction) hdigits
      have hwholeLength : whole.length ≤ 128 := by
        simp only [List.length_append] at hcount
        omega
      have hpow : 10 ^ (whole ++ fraction).length ≤ 1 * 10 ^ 128 * 10 ^ fraction.length := by
        rw [List.length_append, pow_add, one_mul]
        exact Nat.mul_le_mul_right _ (Nat.pow_le_pow_right (by norm_num) hwholeLength)
      have habs : (if negative = true then -(magnitude : Int) else magnitude).natAbs = magnitude := by
        cases negative <;> simp
      dsimp only
      rw [habs, hmagnitude]
      exact hlt.le.trans hpow
    · unfold DecimalText.value ExactDecimal.value
      rw [hmagnitude]
      cases negative <;> simp
  · cases h

/-- **A number that its text spells** is read. -/
theorem Denotes.read {text : String} {q : ℚ} (h : Denotes text q) (hlength : text.length ≤ 128) :
    ∃ d, decimalNumber (some (.str text)) = .ok d ∧ d.value = q := by
  obtain ⟨t, hchars, hvalue⟩ := h
  have hparts := decimalParts_chars t
  rw [hchars] at hparts
  have hdigits : decimalDigits (t.whole ++ t.fraction) =
      some (Nat.ofDigitChars 10 (t.whole ++ t.fraction) 0) := by
    refine decimalDigits_some.mpr ⟨?_, ?_, rfl⟩
    · exact List.append_ne_nil_of_left_ne_nil t.whole_digits.1 _
    · rw [List.all_append, t.whole_digits.2, t.fraction_digits]
      rfl
  refine ⟨⟨if t.negative then -Nat.ofDigitChars 10 (t.whole ++ t.fraction) 0
    else Nat.ofDigitChars 10 (t.whole ++ t.fraction) 0, t.fraction.length⟩, ?_, ?_⟩
  · unfold decimalNumber
    dsimp only
    rw [require_true _ hlength, hparts, orRaise_some, ok_bind, ok_bind]
    dsimp only
    rw [require_true _ t.whole_digits.1, hdigits]
    rfl
  · rw [← hvalue]
    unfold ExactDecimal.value DecimalText.value
    cases t.negative <;> simp

/-! ## Sums -/

/-- The sums of the operands, from a total on. -/
def runningSum (total : ExactDecimal) (operands : List ExactDecimal) : Option ExactDecimal :=
  operands.foldlM (fun total operand => total.add calculationPrecision operand) total

/-- **The running sum** is exact. -/
theorem runningSum_exact : ∀ (operands : List ExactDecimal) (n : Nat) (total : ExactDecimal),
    (∀ d ∈ operands, d.Within 1) → n + operands.length ≤ 10 ^ 3 → total.Within n →
    ∃ sum, runningSum total operands = some sum ∧
      sum.value = total.value + (operands.map ExactDecimal.value).sum
  | [], n, total, _, _, _ => ⟨total, rfl, by simp⟩
  | d :: operands, n, total, hoperands, hn, htotal => by
    rw [List.length_cons] at hn
    obtain ⟨next, hadd, hwithin, hvalue⟩ := ExactDecimal.add_exact htotal
      (hoperands d (List.mem_cons_self ..)) (by omega)
    obtain ⟨sum, hsum, hsumValue⟩ := runningSum_exact operands (n + 1) next
      (fun d' hd' => hoperands d' (List.mem_cons_of_mem _ hd')) (by omega) hwithin
    refine ⟨sum, ?_, ?_⟩
    · unfold runningSum at hsum ⊢
      rw [List.foldlM_cons, hadd]
      exact hsum
    · rw [hsumValue, hvalue, List.map_cons, List.sum_cons, add_assoc]

/-- The sum that is expected is the running sum of the operands read. -/
theorem operands_foldlM : ∀ {operands : List Json} {decimals : List ExactDecimal}
    (total : ExactDecimal), operands.mapM (fun v => decimalNumber (some v)) = .ok decimals →
    operands.foldlM (fun total value => do
      let operand ← decimalNumber (some value)
      orRaise (total.add calculationPrecision operand) taskError) total =
      orRaise (runningSum total decimals) taskError
  | [], decimals, total, h => by
    cases h
    rfl
  | v :: operands, decimals, total, h => by
    rw [List.mapM_cons] at h
    obtain ⟨d, hd, h⟩ := bind_ok h
    obtain ⟨rest, hrest, h⟩ := bind_ok h
    cases pure_ok h
    rw [List.foldlM_cons, hd, ok_bind]
    unfold runningSum
    rw [List.foldlM_cons]
    cases hadd : total.add calculationPrecision d with
    | none => rfl
    | some next => exact operands_foldlM next hrest

/-- What was read of the operands. -/
theorem operands_read : ∀ {operands : List Json} {decimals : List ExactDecimal},
    operands.mapM (fun v => decimalNumber (some v)) = .ok decimals →
    List.Forall₂ (fun v d => decimalNumber (some v) = .ok d) operands decimals
  | [], decimals, h => by
    cases h
    exact .nil
  | v :: operands, decimals, h => by
    rw [List.mapM_cons] at h
    obtain ⟨d, hd, h⟩ := bind_ok h
    obtain ⟨rest, hrest, h⟩ := bind_ok h
    cases pure_ok h
    exact .cons hd (operands_read hrest)

/-- A sum that was reached has read every operand. -/
theorem operands_decimals : ∀ {operands : List Json} {total sum : ExactDecimal},
    operands.foldlM (fun total value => do
      let operand ← decimalNumber (some value)
      orRaise (total.add calculationPrecision operand) taskError) total = .ok sum →
    ∃ decimals, operands.mapM (fun v => decimalNumber (some v)) = .ok decimals
  | [], _, _, _ => ⟨[], rfl⟩
  | v :: operands, total, sum, h => by
    rw [List.foldlM_cons] at h
    obtain ⟨next, hnext, h⟩ := bind_ok h
    obtain ⟨d, hd, _⟩ := bind_ok hnext
    obtain ⟨rest, hrest⟩ := operands_decimals h
    exact ⟨d :: rest, by rw [List.mapM_cons, hd, ok_bind, hrest]; rfl⟩

/-- Every sum on the way to the last one is exact. -/
theorem runningSum_take {operands : List Json} {decimals : List ExactDecimal}
    (hcount : operands.length ≤ 1000)
    (hread : operands.mapM (fun v => decimalNumber (some v)) = .ok decimals) (n : Nat) :
    ∃ sum, runningSum ⟨0, 0⟩ (decimals.take n) = some sum ∧
      sum.value = ((decimals.take n).map ExactDecimal.value).sum := by
  have hwithin : ∀ d ∈ decimals, d.Within 1 := by
    intro d hd
    obtain ⟨v, _, hv⟩ := mapM_ok_mem hread hd
    exact (decimalNumber_ok hv).1
  have hlength : (decimals.take n).length ≤ 10 ^ 3 := by
    have hsame := (operands_read hread).length_eq
    rw [List.length_take]
    omega
  obtain ⟨sum, hsum, hvalue⟩ := runningSum_exact (decimals.take n) 0 ⟨0, 0⟩
    (fun d hd => hwithin d (List.mem_of_mem_take hd)) (by omega) ⟨Nat.zero_le _, Nat.zero_le _⟩
  refine ⟨sum, hsum, ?_⟩
  rw [hvalue]
  simp [ExactDecimal.value]

/-- **What is expected** of accepted operands is their sum. -/
theorem expectedSum_exact {calculation : ExactCalculation} {parameters : FrozenDict}
    {operands : List Json} {decimals : List ExactDecimal}
    (hoperands : parameters.get? calculation.operandParameter = some (.arr operands))
    (hcount : 1 ≤ operands.length ∧ operands.length ≤ 1000)
    (hread : operands.mapM (fun v => decimalNumber (some v)) = .ok decimals) :
    ∃ total, expectedSum calculation parameters = .ok total ∧
      total.value = (decimals.map ExactDecimal.value).sum := by
  obtain ⟨total, htotal, hvalue⟩ := runningSum_take hcount.2 hread decimals.length
  rw [List.take_length] at htotal hvalue
  refine ⟨total, ?_, hvalue⟩
  unfold expectedSum
  rw [hoperands, Option.bind_some, Json.asList, mapM_some, orRaise_some, ok_bind,
    require_true _ hcount, ok_bind, operands_foldlM _ hread, htotal]
  rfl

/-- What a sum was expected of. -/
theorem expectedSum_ok {calculation : ExactCalculation} {parameters : FrozenDict}
    {total : ExactDecimal} (h : expectedSum calculation parameters = .ok total) :
    ∃ operands decimals, parameters.get? calculation.operandParameter = some (.arr operands) ∧
      operands.mapM (fun v => decimalNumber (some v)) = .ok decimals ∧
      total.value = (decimals.map ExactDecimal.value).sum := by
  have hsum := h
  unfold expectedSum at h
  obtain ⟨operands, hoperands, h⟩ := bind_ok h
  obtain ⟨_, hcount, h⟩ := bind_ok h
  obtain ⟨decimals, hread⟩ := operands_decimals h
  obtain ⟨value, hvalue, hlist⟩ := Option.bind_eq_some_iff.mp (orRaise_ok hoperands)
  cases value with
  | arr items =>
    rw [Json.asList, mapM_some] at hlist
    cases hlist
    obtain ⟨total', htotal', hexact⟩ := expectedSum_exact hvalue (require_ok hcount) hread
    rw [hsum] at htotal'
    cases htotal'
    exact ⟨_, decimals, hvalue, hread, hexact⟩
  | _ => cases hlist

/-- A report that passes spells what is expected. -/
theorem verifyCalculation_ok {step : ToolTaskStep} {calculation : ExactCalculation}
    {parameters result : FrozenDict} (hcalculation : step.calculation = some calculation)
    (h : verifyCalculation step parameters result = .ok ()) :
    ∃ total text, expectedSum calculation parameters = .ok total ∧
      result.get? calculation.resultField = some (.str text) ∧ text.length ≤ 128 ∧
      Denotes text total.value := by
  unfold verifyCalculation at h
  rw [hcalculation] at h
  obtain ⟨total, htotal, h⟩ := bind_ok h
  obtain ⟨actual, hactual, h⟩ := bind_ok h
  obtain ⟨_, text, htext, hlength, hdenotes⟩ := decimalNumber_ok hactual
  have hsame := ExactDecimal.same_iff.mp (require_ok h)
  exact ⟨total, text, htotal, htext, hlength, by rwa [hsame]⟩

/-- **The calculation check** is exact: no addition of the operands rounds, what is expected
is their sum, and a reported result passes just when it is a text of at most 128 characters
that spells the sum. -/
theorem verifyCalculation_exact (step : ToolTaskStep) (calculation : ExactCalculation)
    (parameters : FrozenDict) (operands : List Json) (decimals : List ExactDecimal)
    (hcalculation : step.calculation = some calculation)
    (hoperands : parameters.get? calculation.operandParameter = some (.arr operands))
    (hcount : 1 ≤ operands.length ∧ operands.length ≤ 1000)
    (hread : operands.mapM (fun v => decimalNumber (some v)) = .ok decimals) :
    List.Forall₂ (fun v d => ∃ text : String, v = .str text ∧ Denotes text d.value)
        operands decimals ∧
      (∀ n, ∃ sum, runningSum ⟨0, 0⟩ (decimals.take n) = some sum ∧
        sum.value = ((decimals.take n).map ExactDecimal.value).sum) ∧
      (∃ total, expectedSum calculation parameters = .ok total ∧
        total.value = (decimals.map ExactDecimal.value).sum) ∧
      ∀ result : FrozenDict, verifyCalculation step parameters result = .ok () ↔
        ∃ text : String, result.get? calculation.resultField = some (.str text) ∧
          text.length ≤ 128 ∧ Denotes text (decimals.map ExactDecimal.value).sum := by
  obtain ⟨total, hexpected, hvalue⟩ := expectedSum_exact hoperands hcount hread
  refine ⟨(operands_read hread).imp fun v d hd => ?_, runningSum_take hcount.2 hread,
    ⟨total, hexpected, hvalue⟩, fun result => ?_⟩
  · obtain ⟨_, text, htext, _, hdenotes⟩ := decimalNumber_ok hd
    exact ⟨text, Option.some.inj htext, hdenotes⟩
  · constructor
    · intro h
      obtain ⟨total', text, htotal', htext, hlength, hdenotes⟩ := verifyCalculation_ok hcalculation h
      rw [hexpected] at htotal'
      cases htotal'
      exact ⟨text, htext, hlength, hvalue ▸ hdenotes⟩
    · rintro ⟨text, htext, hlength, hdenotes⟩
      obtain ⟨actual, hactual, hactualValue⟩ := hdenotes.read hlength
      unfold verifyCalculation
      rw [hcalculation]
      dsimp only
      rw [hexpected, ok_bind, htext, hactual, ok_bind]
      exact require_true _ (ExactDecimal.same_iff.mpr (hvalue.trans hactualValue.symm))

namespace Sample

def sumStep : ToolTaskStep where
  stepId := "sum"
  toolName := "ledger"
  calculation := some ⟨"amounts", "total"⟩

def amounts (texts : List String) : FrozenDict := .ofFields [("amounts", .arr (texts.map Json.str))]

def reportedTotal (text : String) : FrozenDict := .ofFields [("total", .str text)]

end Sample

theorem verifyCalculation_exact_amounts :
    verifyCalculation Sample.sumStep (Sample.amounts ["1.25", "-0.5"]) (Sample.reportedTotal "0.750") =
      .ok () :=
  ((verifyCalculation_exact Sample.sumStep ⟨"amounts", "total"⟩ (Sample.amounts ["1.25", "-0.5"])
    [.str "1.25", .str "-0.5"] [⟨125, 2⟩, ⟨-5, 1⟩] rfl (by decide +kernel) (by decide)
    (by decide +kernel)).2.2.2 _).mpr
    ⟨"0.750", by decide +kernel, by decide, ⟨false, ['0'], ['7', '5', '0'], by decide, by decide⟩, rfl, by
      have hdigits : Nat.ofDigitChars 10 ['0', '7', '5', '0'] 0 = 750 := rfl
      unfold DecimalText.value
      rw [List.cons_append, List.nil_append, hdigits]
      norm_num [ExactDecimal.value]⟩

namespace Sample

/-- The largest operand without a point, of 128 digits. -/
def nines : String := String.ofList (List.replicate 128 '9')

/-- Its successor. -/
def ninesAndOne : String := String.ofList ('1' :: List.replicate 128 '0')

end Sample

/-- A report that spells the sum of two accepted operands is refused where it is longer
than they may be. -/
theorem verifyCalculation_long_refused :
    [.str Sample.nines, .str "1"].mapM (fun v => decimalNumber (some v)) =
        .ok [⟨10 ^ 128 - 1, 0⟩, ⟨1, 0⟩] ∧
      Denotes Sample.ninesAndOne
        (([⟨10 ^ 128 - 1, 0⟩, ⟨1, 0⟩] : List ExactDecimal).map ExactDecimal.value).sum ∧
      verifyCalculation Sample.sumStep (Sample.amounts [Sample.nines, "1"])
        (Sample.reportedTotal Sample.ninesAndOne) = .error taskError := by
  refine ⟨by decide +kernel, ⟨⟨false, '1' :: List.replicate 128 '0', [], by decide, by decide⟩, ?_, ?_⟩,
    by decide +kernel⟩
  · exact (String.toList_ofList).symm
  · have hdigits : Nat.ofDigitChars 10 ('1' :: List.replicate 128 '0') 0 = 10 ^ 128 := by decide +kernel
    unfold DecimalText.value
    rw [List.append_nil, hdigits]
    norm_num [ExactDecimal.value]

end ProofAgent
