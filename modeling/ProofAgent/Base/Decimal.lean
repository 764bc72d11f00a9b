import Mathlib.Data.Nat.Digits.Lemmas
import Mathlib.Tactic.Ring

/-! # Floats as text, and text as exact decimals

Python writes a finite float as the shortest decimal that reads back as that
float, so the decimal stands for the float here. A PostgreSQL `numeric` stores
the decimal that a number's text denotes, exactly and with its number of
fractional digits, and writes it back without an exponent. Reading that text,
Python makes an integer of a number without fractional digits and a float of
any other. `loads_store` says which floats survive the round trip. -/
namespace ProofAgent.Base

/-- A finite float: `± coefficient * 10 ^ exponent`, its shortest decimal. -/
structure PyFloat where
  negative : Bool
  coefficient : Nat
  exponent : Int
  shortest : if coefficient = 0 then exponent = 0 else coefficient % 10 ≠ 0
  deriving DecidableEq

/-- The text of a number: its digits without the point, how many of them stand
after the point, and the exponent if it has one. -/
structure NumberText where
  negative : Bool
  digits : Nat
  fraction : Nat
  exponent : Option Int
  deriving DecidableEq

/-- A `numeric`: `unscaled / 10 ^ scale`. It has no negative zero. -/
structure Numeric where
  unscaled : Int
  scale : Nat
  deriving DecidableEq

/-- What `json.loads` makes of a number. -/
inductive PyNumber where
  | int (value : Int)
  | float (value : PyFloat)
  deriving DecidableEq

/-! ## Writing a float -/

namespace PyFloat

def zero : PyFloat := ⟨false, 0, 0, by decide⟩

def isZero (x : PyFloat) : Bool := x.coefficient = 0

def isNegativeZero (x : PyFloat) : Bool := x.negative && x.isZero

/-- Where the decimal point stands, counted from the first digit. -/
def decimalPoint (x : PyFloat) : Int := (Nat.digits 10 x.coefficient).length + x.exponent

/-- `repr` falls back to an exponent outside these positions of the point. -/
def usesExponent (x : PyFloat) : Bool := x.decimalPoint ≤ -4 || 16 < x.decimalPoint

/-- `float.__repr__`. -/
def repr (x : PyFloat) : NumberText :=
  if x.coefficient = 0 then ⟨x.negative, 0, 1, none⟩
  else if x.usesExponent then
    ⟨x.negative, x.coefficient, (Nat.digits 10 x.coefficient).length - 1, some (x.decimalPoint - 1)⟩
  else if 0 ≤ x.exponent then ⟨x.negative, x.coefficient * 10 ^ x.exponent.toNat * 10, 1, none⟩
  else ⟨x.negative, x.coefficient, (-x.exponent).toNat, none⟩

/-- The value, for comparisons: `x.scaled m * 10 ^ m` when `m ≤ x.exponent`. -/
def scaled (x : PyFloat) (m : Int) : Int :=
  (if x.negative then -1 else 1) * (x.coefficient * 10 ^ (x.exponent - m).toNat : Nat)

/-- `x < y` of floats. -/
def lt (x y : PyFloat) : Bool :=
  x.scaled (min x.exponent y.exponent) < y.scaled (min x.exponent y.exponent)

/-- `x >= 0`, which holds of the negative zero too. -/
def nonneg (x : PyFloat) : Bool := !x.negative || x.isZero

/-- Drop trailing zeros of `c`, at most `fuel` of them. -/
def strip : Nat → Nat → Int → Nat × Int
  | 0, c, e => (c, e)
  | fuel + 1, c, e => if c % 10 = 0 then strip fuel (c / 10) (e + 1) else (c, e)

theorem strip_shifted {c : Nat} (hc : c % 10 ≠ 0) :
    ∀ (k fuel : Nat) (e : Int), k ≤ fuel → strip fuel (c * 10 ^ k) e = (c, e + k)
  | 0, 0, e, _ => by simp [strip]
  | 0, fuel + 1, e, _ => by simp [strip, hc]
  | k + 1, 0, e, h => by omega
  | k + 1, fuel + 1, e, h => by
    have hmod : c * 10 ^ (k + 1) % 10 = 0 := by rw [pow_succ, ← mul_assoc]; omega
    have hdiv : c * 10 ^ (k + 1) / 10 = c * 10 ^ k := by rw [pow_succ, ← mul_assoc]; omega
    rw [strip, if_pos hmod, hdiv, strip_shifted hc k fuel (e + 1) (by omega)]
    simp only [Prod.mk.injEq, true_and]
    push_cast; ring

theorem strip_mod {fuel c : Nat} (e : Int) (hc : c ≠ 0) (h : c < 10 ^ fuel) :
    (strip fuel c e).1 % 10 ≠ 0 := by
  induction fuel generalizing c e with
  | zero => simp at h; omega
  | succ fuel ih =>
    rw [strip]
    split
    · exact ih _ (by omega) (by rw [pow_succ] at h; omega)
    · assumption

/-- The float with value `± c * 10 ^ e`. -/
def ofDecimal (negative : Bool) (c : Nat) (e : Int) : PyFloat :=
  if h : c = 0 then ⟨negative, 0, 0, by simp⟩
  else ⟨negative, (strip c c e).1, (strip c c e).2, by
    have hm := strip_mod e h (Nat.lt_pow_self (by omega))
    rw [if_neg (by omega)]; exact hm⟩

theorem coefficient_mod (x : PyFloat) (h : x.coefficient ≠ 0) : x.coefficient % 10 ≠ 0 := by
  have := x.shortest
  rwa [if_neg h] at this

/-- A float is found again from its value, however many zeros were appended. -/
theorem ofDecimal_shifted (x : PyFloat) (h : x.coefficient ≠ 0) (k : Nat) :
    ofDecimal x.negative (x.coefficient * 10 ^ k) (x.exponent - k) = x := by
  have hpos : x.coefficient * 10 ^ k ≠ 0 := Nat.mul_ne_zero h (by positivity)
  have hk : k ≤ x.coefficient * 10 ^ k :=
    calc k ≤ 10 ^ k := Nat.le_of_lt (Nat.lt_pow_self (by omega))
      _ ≤ x.coefficient * 10 ^ k := Nat.le_mul_of_pos_left _ (Nat.pos_of_ne_zero h)
  have hs := strip_shifted (x.coefficient_mod h) k _ (x.exponent - k) hk
  simp only [ofDecimal, dif_neg hpos, hs, Int.sub_add_cancel]

/-! ## The order of floats -/

theorem scaled_shift (x : PyFloat) {m n : Int} (hmn : m ≤ n) (hn : n ≤ x.exponent) :
    x.scaled m = x.scaled n * 10 ^ (n - m).toNat := by
  have hexp : (x.exponent - m).toNat = (x.exponent - n).toNat + (n - m).toNat := by omega
  rw [scaled, scaled, hexp, pow_add]
  push_cast
  ring

/-- Floats are compared at any common scale. -/
theorem lt_iff_scaled {x y : PyFloat} {m : Int} (hx : m ≤ x.exponent) (hy : m ≤ y.exponent) :
    x.lt y = true ↔ x.scaled m < y.scaled m := by
  have hm : m ≤ min x.exponent y.exponent := le_min hx hy
  rw [lt, decide_eq_true_eq, x.scaled_shift hm (min_le_left _ _),
    y.scaled_shift hm (min_le_right _ _)]
  exact (Int.mul_lt_mul_right (by positivity)).symm

theorem lt_irrefl (x : PyFloat) : x.lt x = false := by simp [lt]

theorem nonneg_of_pos {x : PyFloat} (h : zero.lt x = true) : x.nonneg = true := by
  rw [lt_iff_scaled (m := min 0 x.exponent) (min_le_left _ _) (min_le_right _ _)] at h
  unfold nonneg
  cases hneg : x.negative with
  | false => rfl
  | true =>
    simp only [scaled, zero, hneg, Bool.false_eq_true, if_false, if_true] at h
    push_cast at h
    have hpos : (0 : Int) ≤ (x.coefficient : Int) * 10 ^ (x.exponent - min 0 x.exponent).toNat := by
      positivity
    omega

theorem lt_of_le_of_lt {x y z : PyFloat} (hxy : y.lt x = false) (hyz : y.lt z = true) :
    x.lt z = true := by
  have hx : min x.exponent (min y.exponent z.exponent) ≤ x.exponent := min_le_left _ _
  have hy : min x.exponent (min y.exponent z.exponent) ≤ y.exponent :=
    (min_le_right _ _).trans (min_le_left _ _)
  have hz : min x.exponent (min y.exponent z.exponent) ≤ z.exponent :=
    (min_le_right _ _).trans (min_le_right _ _)
  rw [← Bool.not_eq_true, lt_iff_scaled hy hx] at hxy
  rw [lt_iff_scaled hy hz] at hyz
  rw [lt_iff_scaled hx hz]
  omega

end PyFloat

/-! ## Storing the text and reading it back -/

/-- The number of fractional digits a `numeric` keeps of a text. -/
def NumberText.scale (t : NumberText) : Nat := ((t.fraction : Int) - t.exponent.getD 0).toNat

/-- `numeric` input: the exponent is expanded, the fractional digits are kept. -/
def Numeric.ofText (t : NumberText) : Numeric :=
  let shift := (t.exponent.getD 0 - t.fraction + t.scale).toNat
  ⟨(if t.negative then -1 else 1) * (t.digits * 10 ^ shift : Nat), t.scale⟩

/-- `numeric` output: all digits, no exponent. -/
def Numeric.text (n : Numeric) : NumberText := ⟨n.unscaled < 0, n.unscaled.natAbs, n.scale, none⟩

/-- `json.loads` of a number. -/
def NumberText.loads (t : NumberText) : PyNumber :=
  if t.fraction = 0 ∧ t.exponent = none then
    .int ((if t.negative then -1 else 1) * t.digits)
  else .float (PyFloat.ofDecimal t.negative t.digits (t.exponent.getD 0 - t.fraction))

namespace PyFloat

/-- A float that the database writes back without fractional digits: `repr`
gave it an exponent that reaches past its last digit. -/
def readsBackAsInt (x : PyFloat) : Bool := !x.isZero && (0 ≤ x.exponent && 16 < x.decimalPoint)

/-- The integer that such a float is read back as. -/
def toInt (x : PyFloat) : Int := x.scaled 0

/-- A float without the sign of a zero. -/
def unsigned (x : PyFloat) : PyFloat := { x with negative := x.negative && !x.isZero }

theorem unsigned_eq (x : PyFloat) (h : x.isNegativeZero = false) : x.unsigned = x := by
  obtain ⟨n, c, e, hs⟩ := x
  simp only [isNegativeZero, isZero, unsigned, mk.injEq, and_self, and_true] at h ⊢
  revert h
  cases n <;> simp

theorem unsigned_ne (x : PyFloat) (h : x.isNegativeZero = true) : x.unsigned ≠ x := by
  obtain ⟨n, c, e, hs⟩ := x
  simp only [isNegativeZero, isZero, unsigned, ne_eq, mk.injEq, and_self, and_true] at h ⊢
  revert h
  cases n <;> simp

theorem sign_abs (b : Bool) (n : Nat) (h : n ≠ 0) :
    decide ((if b then (-1 : Int) else 1) * (n : Int) < 0) = b ∧
      ((if b then (-1 : Int) else 1) * (n : Int)).natAbs = n := by
  cases b
  · simp
  · simp [Nat.pos_of_ne_zero h]

/-- The text that storage returns for a float that has a fractional part in it. -/
theorem loads_fraction (x : PyFloat) (h : x.coefficient ≠ 0) (k s : Nat) (hs : s ≠ 0)
    (he : x.exponent - k = -(s : Int)) :
    (Numeric.text ⟨(if x.negative then -1 else 1) * (x.coefficient * 10 ^ k : Nat), s⟩).loads =
      .float x := by
  have hne : x.coefficient * 10 ^ k ≠ 0 := Nat.mul_ne_zero h (by positivity)
  obtain ⟨hsign, habs⟩ := sign_abs x.negative _ hne
  simp only [Numeric.text, NumberText.loads, hsign, habs, hs, false_and, if_false,
    Option.getD_none, PyNumber.float.injEq]
  rw [show (0 : Int) - s = x.exponent - k by omega]
  exact x.ofDecimal_shifted h k

/-- **What a stored float is read back as.** -/
theorem loads_store (x : PyFloat) :
    (Numeric.ofText x.repr).text.loads =
      if x.readsBackAsInt then .int x.toInt else .float x.unsigned := by
  by_cases h0 : x.coefficient = 0
  · -- a zero is written "0.0" or "-0.0", and loses its sign
    obtain ⟨n, c, e, hs⟩ := x
    simp only at h0
    subst h0
    simp only [if_true] at hs
    subst hs
    cases n
    · rfl
    · rfl
  have hz : x.isZero = false := by simp [isZero, h0]
  have hu : x.unsigned = x := x.unsigned_eq (by simp [isNegativeZero, hz])
  have hd : 0 < (Nat.digits 10 x.coefficient).length := by
    rw [List.length_pos_iff]; exact Nat.digits_ne_nil_iff_ne_zero.mpr h0
  rw [hu]
  by_cases hexp : x.usesExponent = true
  · -- scientific notation: the digits after the point are used up by the exponent
    by_cases hint : 0 ≤ x.exponent
    · have hbig : 16 < x.decimalPoint := by
        rw [usesExponent, Bool.or_eq_true, decide_eq_true_eq, decide_eq_true_eq] at hexp
        rw [decimalPoint] at hexp ⊢
        omega
      have hr : x.readsBackAsInt = true := by simp [readsBackAsInt, hz, hint, hbig]
      have hne : x.coefficient * 10 ^ x.exponent.toNat ≠ 0 := Nat.mul_ne_zero h0 (by positivity)
      obtain ⟨hsign, habs⟩ := sign_abs x.negative _ hne
      have hscale : (((Nat.digits 10 x.coefficient).length - 1 : Nat) -
          (x.decimalPoint - 1) : Int).toNat = 0 := by simp only [decimalPoint]; omega
      have hshift : ((x.decimalPoint - 1) -
          ((Nat.digits 10 x.coefficient).length - 1 : Nat) + (0 : Nat) : Int).toNat =
          x.exponent.toNat := by
        simp only [decimalPoint]; omega
      rw [if_pos hr]
      simp only [repr, if_neg h0, if_pos hexp, Numeric.ofText, NumberText.scale, Option.getD_some,
        hscale, hshift, Numeric.text, NumberText.loads, hsign, habs, and_self, if_true, toInt,
        scaled, Int.sub_zero]
    · have hr : x.readsBackAsInt = false := by simp [readsBackAsInt, hint]
      have hscale : (((Nat.digits 10 x.coefficient).length - 1 : Nat) -
          (x.decimalPoint - 1) : Int).toNat = (-x.exponent).toNat := by
        simp only [decimalPoint]; omega
      have hshift : ((x.decimalPoint - 1) - ((Nat.digits 10 x.coefficient).length - 1 : Nat) +
          ((-x.exponent).toNat : Nat) : Int).toNat = 0 := by
        simp only [decimalPoint]; omega
      simp only [hr, Bool.false_eq_true, if_false, repr, if_neg h0, if_pos hexp, Numeric.ofText,
        NumberText.scale, Option.getD_some, hscale, hshift]
      exact x.loads_fraction h0 0 _ (by omega) (by omega)
  · have hr : x.readsBackAsInt = false := by
      simp only [usesExponent, Bool.or_eq_true, decide_eq_true_eq, not_or] at hexp
      simp [readsBackAsInt, hexp.2]
    rw [hr, if_neg (by decide)]
    by_cases hint : 0 ≤ x.exponent
    · -- a whole number is written with ".0"
      simp only [repr, if_neg h0, if_neg hexp, if_pos hint, Numeric.ofText, NumberText.scale,
        Option.getD_none]
      rw [show ((0 : Int) - (1 : Nat) + ((((1 : Nat) : Int) - 0).toNat : Nat)).toNat = 0 by decide,
        show (((1 : Nat) : Int) - 0).toNat = 1 by decide, pow_zero, Nat.mul_one, Nat.mul_assoc,
        ← pow_succ]
      exact x.loads_fraction h0 _ 1 (by omega) (by omega)
    · simp only [repr, if_neg h0, if_neg hexp, if_neg hint, Numeric.ofText, NumberText.scale,
        Option.getD_none]
      rw [show ((((-x.exponent).toNat : Nat) : Int) - 0).toNat = (-x.exponent).toNat by omega,
        show ((0 : Int) - ((-x.exponent).toNat : Nat) + ((-x.exponent).toNat : Nat)).toNat = 0 by
          omega]
      exact x.loads_fraction h0 0 _ (by omega) (by omega)

/-- Reading the integer into a float field gives the float again. -/
theorem ofDecimal_toInt (x : PyFloat) (h : x.readsBackAsInt = true) :
    ofDecimal (x.toInt < 0) x.toInt.natAbs 0 = x := by
  simp only [readsBackAsInt, isZero, Bool.and_eq_true, Bool.not_eq_true', decide_eq_false_iff_not,
    decide_eq_true_eq] at h
  obtain ⟨h0, he, _⟩ := h
  have hne : x.coefficient * 10 ^ x.exponent.toNat ≠ 0 := Nat.mul_ne_zero h0 (by positivity)
  obtain ⟨hsign, habs⟩ := sign_abs x.negative _ hne
  have hx := x.ofDecimal_shifted h0 x.exponent.toNat
  rw [show x.exponent - (x.exponent.toNat : Int) = 0 by omega] at hx
  simp only [toInt, scaled, Int.sub_zero, hsign, habs]
  exact hx

example : (Numeric.ofText (ofDecimal false 1 16).repr).text.loads =
    .int 10000000000000000 := by decide

example : (Numeric.ofText (ofDecimal true 15 (-1)).repr).text.loads =
    .float (ofDecimal true 15 (-1)) := by decide

end PyFloat

end ProofAgent.Base
