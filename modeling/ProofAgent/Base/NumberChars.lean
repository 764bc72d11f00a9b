import ProofAgent.Base.Decimal

/-! # How a number is written

The characters of a number's text. The digits after the point are padded to their count,
and the exponent has a sign and two digits at least; so the text, closed by anything that
cannot go on with a number, determines its parts. -/
namespace ProofAgent.Base

/-- Digits with zeros before them, `width` of them at least. -/
def padded (width n : Nat) : List Char :=
  List.replicate (width - (Nat.toDigits 10 n).length) '0' ++ Nat.toDigits 10 n

/-- What can follow a number. -/
def NumberEnd (rest : List Char) : Prop :=
  ∀ c tail, rest = c :: tail → c ≠ '.' ∧ c ≠ 'e' ∧ c.isDigit = false

namespace NumberText

def signChars (negative : Bool) : List Char := if negative then ['-'] else []

def fractionChars (digits fraction : Nat) : List Char :=
  if fraction = 0 then [] else '.' :: padded fraction (digits % 10 ^ fraction)

def exponentChars : Option Int → List Char
  | none => []
  | some e => 'e' :: (if e < 0 then '-' else '+') :: padded 2 e.natAbs

def chars (t : NumberText) : List Char :=
  signChars t.negative ++ (Nat.toDigits 10 (t.digits / 10 ^ t.fraction) ++
    (fractionChars t.digits t.fraction ++ exponentChars t.exponent))

end NumberText

/-! ## Rows of digits -/

theorem toDigits_digit {n : Nat} {c : Char} (h : c ∈ Nat.toDigits 10 n) : c.isDigit = true :=
  Nat.isDigit_of_mem_toDigits (by decide) (by decide) h

theorem padded_digit {width n : Nat} {c : Char} (h : c ∈ padded width n) : c.isDigit = true := by
  unfold padded at h
  rcases List.mem_append.mp h with h | h
  · rw [List.eq_of_mem_replicate h]
    rfl
  · exact toDigits_digit h

theorem padded_value (width n : Nat) : Nat.ofDigitChars 10 (padded width n) 0 = n := by
  unfold padded
  rw [Nat.ofDigitChars_append, Nat.ofDigitChars_replicate_zero, Nat.mul_zero,
    Nat.ofDigitChars_ten_toDigits]

theorem padded_inj {width width' n n' : Nat} (h : padded width n = padded width' n') : n = n' := by
  have hvalue := congrArg (fun digits => Nat.ofDigitChars 10 digits 0) h
  rwa [padded_value, padded_value] at hvalue

theorem toDigits_inj {n n' : Nat} (h : Nat.toDigits 10 n = Nat.toDigits 10 n') : n = n' := by
  have hvalue := congrArg (fun digits => Nat.ofDigitChars 10 digits 0) h
  rwa [Nat.ofDigitChars_ten_toDigits, Nat.ofDigitChars_ten_toDigits] at hvalue

theorem padded_length {width n : Nat} (hwidth : 0 < width) (h : n < 10 ^ width) :
    (padded width n).length = width := by
  have hle : (Nat.toDigits 10 n).length ≤ width :=
    (Nat.length_toDigits_le_iff (by decide) hwidth).mpr h
  unfold padded
  rw [List.length_append, List.length_replicate]
  omega

/-- Rows of digits that end at the same place are the same. -/
theorem digits_code : ∀ {xs ys r s : List Char}, (∀ c ∈ xs, c.isDigit = true) →
    (∀ c ∈ ys, c.isDigit = true) → (∀ c tail, r = c :: tail → c.isDigit = false) →
    (∀ c tail, s = c :: tail → c.isDigit = false) → xs ++ r = ys ++ s → xs = ys ∧ r = s
  | [], [], _, _, _, _, _, _, h => ⟨rfl, h⟩
  | [], y :: ys, r, s, _, hy, hr, _, h => by
    have hdigit := hy y (List.mem_cons_self ..)
    rw [hr y (ys ++ s) h] at hdigit
    cases hdigit
  | x :: xs, [], r, s, hx, _, _, hs, h => by
    have hdigit := hx x (List.mem_cons_self ..)
    rw [hs x (xs ++ r) h.symm] at hdigit
    cases hdigit
  | x :: xs, y :: ys, r, s, hx, hy, hr, hs, h => by
    rw [List.cons_append, List.cons_append, List.cons.injEq] at h
    obtain ⟨rfl, h⟩ := h
    obtain ⟨rfl, hrest⟩ := digits_code (fun c hc => hx c (List.mem_cons_of_mem _ hc))
      (fun c hc => hy c (List.mem_cons_of_mem _ hc)) hr hs h
    exact ⟨rfl, hrest⟩

namespace NumberText

/-! ## What follows the digits -/

theorem exponentChars_end {e : Option Int} {r : List Char} (hr : NumberEnd r) :
    ∀ c tail, exponentChars e ++ r = c :: tail → c ≠ '.' ∧ c.isDigit = false := by
  intro c tail h
  cases e with
  | none => exact ⟨(hr c tail h).1, (hr c tail h).2.2⟩
  | some e =>
    obtain ⟨rfl, _⟩ := List.cons.inj h
    exact ⟨by decide, rfl⟩

theorem fractionChars_end {digits fraction : Nat} {e : Option Int} {r : List Char}
    (hr : NumberEnd r) :
    ∀ c tail, fractionChars digits fraction ++ (exponentChars e ++ r) = c :: tail →
      c.isDigit = false := by
  intro c tail h
  unfold fractionChars at h
  by_cases hf : fraction = 0
  · rw [if_pos hf] at h
    exact (exponentChars_end hr c tail h).2
  · rw [if_neg hf] at h
    obtain ⟨rfl, _⟩ := List.cons.inj h
    rfl

theorem exponentChars_code {e e' : Option Int} {r s : List Char} (hr : NumberEnd r)
    (hs : NumberEnd s) (h : exponentChars e ++ r = exponentChars e' ++ s) : e = e' ∧ r = s := by
  cases e with
  | none =>
    cases e' with
    | none => exact ⟨rfl, h⟩
    | some e' => exact absurd rfl (hr _ _ h).2.1
  | some e =>
    cases e' with
    | none => exact absurd rfl (hs _ _ h.symm).2.1
    | some e' =>
      unfold exponentChars at h
      simp only [List.cons_append, List.cons.injEq, true_and] at h
      obtain ⟨hsign, hdigits⟩ := h
      obtain ⟨hpadded, hrest⟩ := digits_code (fun _ => padded_digit) (fun _ => padded_digit)
        (fun c tail hc => (hr c tail hc).2.2) (fun c tail hc => (hs c tail hc).2.2) hdigits
      have habs := padded_inj hpadded
      refine ⟨congrArg some ?_, hrest⟩
      by_cases hneg : e < 0
      · have hneg' : e' < 0 := by
          by_contra hnot
          rw [if_pos hneg, if_neg hnot] at hsign
          exact absurd hsign (by decide)
        omega
      · have hneg' : ¬ e' < 0 := by
          intro hnot
          rw [if_neg hneg, if_pos hnot] at hsign
          exact absurd hsign (by decide)
        omega

theorem fractionChars_code {digits digits' fraction fraction' : Nat} {e e' : Option Int}
    {r s : List Char} (hr : NumberEnd r) (hs : NumberEnd s)
    (h : fractionChars digits fraction ++ (exponentChars e ++ r) =
      fractionChars digits' fraction' ++ (exponentChars e' ++ s)) :
    fraction = fraction' ∧ digits % 10 ^ fraction = digits' % 10 ^ fraction ∧
      exponentChars e ++ r = exponentChars e' ++ s := by
  unfold fractionChars at h
  by_cases hf : fraction = 0
  · rw [if_pos hf] at h
    by_cases hf' : fraction' = 0
    · rw [if_pos hf'] at h
      refine ⟨hf.trans hf'.symm, ?_, h⟩
      rw [hf, pow_zero, Nat.mod_one, Nat.mod_one]
    · rw [if_neg hf'] at h
      exact absurd rfl (exponentChars_end hr _ _ h).1
  · rw [if_neg hf] at h
    by_cases hf' : fraction' = 0
    · rw [if_pos hf'] at h
      exact absurd rfl (exponentChars_end hs _ _ h.symm).1
    · rw [if_neg hf', List.cons_append, List.cons_append, List.cons.injEq] at h
      obtain ⟨hpadded, hrest⟩ := digits_code (fun _ => padded_digit) (fun _ => padded_digit)
        (fun c tail hc => (exponentChars_end hr c tail hc).2)
        (fun c tail hc => (exponentChars_end hs c tail hc).2) h.2
      have hlength := congrArg List.length hpadded
      rw [padded_length (Nat.pos_of_ne_zero hf) (Nat.mod_lt _ (by positivity)),
        padded_length (Nat.pos_of_ne_zero hf') (Nat.mod_lt _ (by positivity))] at hlength
      subst hlength
      exact ⟨rfl, padded_inj hpadded, hrest⟩

/-- A number begins with its sign or a digit. -/
theorem chars_head (t : NumberText) : ∃ c rest, t.chars = c :: rest ∧ (c = '-' ∨ c.isDigit = true) := by
  unfold chars signChars
  cases t.negative with
  | true => exact ⟨'-', _, rfl, .inl rfl⟩
  | false =>
    obtain ⟨c, rest, hdigits⟩ :=
      List.exists_cons_of_ne_nil (Nat.toDigits_ne_nil (b := 10) (n := t.digits / 10 ^ t.fraction))
    have hc : c ∈ Nat.toDigits 10 (t.digits / 10 ^ t.fraction) := by
      rw [hdigits]
      exact List.mem_cons_self ..
    refine ⟨c, rest ++ (fractionChars t.digits t.fraction ++ exponentChars t.exponent), ?_,
      .inr (toDigits_digit hc)⟩
    rw [hdigits]
    rfl

/-- **A number's text** determines its parts and where it ends. -/
theorem chars_code {t t' : NumberText} {r s : List Char} (hr : NumberEnd r) (hs : NumberEnd s)
    (h : t.chars ++ r = t'.chars ++ s) : t = t' ∧ r = s := by
  obtain ⟨negative, digits, fraction, e⟩ := t
  obtain ⟨negative', digits', fraction', e'⟩ := t'
  have hplain : ∀ (digits : Nat) (rest tail : List Char),
      Nat.toDigits 10 digits ++ rest ≠ '-' :: tail := by
    intro digits rest tail hhead
    obtain ⟨c, cs, hdigits⟩ :=
      List.exists_cons_of_ne_nil (Nat.toDigits_ne_nil (b := 10) (n := digits))
    have hc : c.isDigit = true := toDigits_digit (n := digits) (by
      rw [hdigits]
      exact List.mem_cons_self ..)
    rw [hdigits, List.cons_append, List.cons.injEq] at hhead
    rw [hhead.1] at hc
    exact absurd hc (by decide)
  have hbody : negative = negative' ∧
      Nat.toDigits 10 (digits / 10 ^ fraction) ++
          (fractionChars digits fraction ++ (exponentChars e ++ r)) =
        Nat.toDigits 10 (digits' / 10 ^ fraction') ++
          (fractionChars digits' fraction' ++ (exponentChars e' ++ s)) := by
    unfold chars signChars at h
    simp only [List.append_assoc] at h
    cases negative with
    | true =>
      cases negative' with
      | true => exact ⟨rfl, (List.cons.inj h).2⟩
      | false => exact absurd h.symm (hplain _ _ _)
    | false =>
      cases negative' with
      | true => exact absurd h (hplain _ _ _)
      | false => exact ⟨rfl, h⟩
  obtain ⟨rfl, hbody⟩ := hbody
  obtain ⟨hwhole, hbody⟩ := digits_code (fun _ => toDigits_digit) (fun _ => toDigits_digit)
    (fractionChars_end hr) (fractionChars_end hs) hbody
  obtain ⟨rfl, hmod, hbody⟩ := fractionChars_code hr hs hbody
  obtain ⟨rfl, hrest⟩ := exponentChars_code hr hs hbody
  have hdigits : digits = digits' := by
    rw [← Nat.div_add_mod digits (10 ^ fraction), toDigits_inj hwhole, hmod, Nat.div_add_mod]
  exact ⟨by rw [hdigits], hrest⟩

/-- The text of an integer. -/
def ofInt (n : Int) : NumberText := ⟨n < 0, n.natAbs, 0, none⟩

theorem ofInt_loads (n : Int) : (ofInt n).loads = .int n := by
  unfold loads ofInt
  rw [if_pos ⟨rfl, rfl⟩]
  by_cases hn : n < 0
  · simp only [hn, decide_true, if_true, PyNumber.int.injEq]
    omega
  · simp only [hn, decide_false, Bool.false_eq_true, if_false, PyNumber.int.injEq]
    omega

end NumberText

namespace PyFloat

/-- **A float is read back** from its `repr`. -/
theorem repr_loads (x : PyFloat) : x.repr.loads = .float x := by
  by_cases h0 : x.coefficient = 0
  · obtain ⟨negative, c, e, hs⟩ := x
    dsimp only at h0
    subst h0
    rw [if_pos rfl] at hs
    subst hs
    rfl
  · have hdigits : 0 < (Nat.digits 10 x.coefficient).length :=
      List.length_pos_iff.mpr (Nat.digits_ne_nil_iff_ne_zero.mpr h0)
    unfold repr
    rw [if_neg h0]
    by_cases hexp : x.usesExponent = true
    · rw [if_pos hexp]
      unfold NumberText.loads
      rw [if_neg (by simp)]
      have hshift := x.ofDecimal_shifted h0 0
      rw [pow_zero, Nat.mul_one, Nat.cast_zero, Int.sub_zero] at hshift
      have he : x.decimalPoint - 1 - ((Nat.digits 10 x.coefficient).length - 1 : Nat) = x.exponent := by
        unfold decimalPoint
        omega
      rw [Option.getD_some, he, hshift]
    · rw [if_neg hexp]
      by_cases hint : 0 ≤ x.exponent
      · rw [if_pos hint]
        unfold NumberText.loads
        rw [if_neg (by simp)]
        have hshift := x.ofDecimal_shifted h0 (x.exponent.toNat + 1)
        have he : x.exponent - (x.exponent.toNat + 1 : Nat) = 0 - ((1 : Nat) : Int) := by omega
        rw [pow_succ, ← mul_assoc, he] at hshift
        rw [Option.getD_none, hshift]
      · rw [if_neg hint]
        unfold NumberText.loads
        rw [if_neg (by simp; omega)]
        have hshift := x.ofDecimal_shifted h0 0
        have he : x.exponent - ((0 : Nat) : Int) = 0 - ((-x.exponent).toNat : Int) := by omega
        rw [pow_zero, Nat.mul_one, he] at hshift
        rw [Option.getD_none, hshift]

end PyFloat

end ProofAgent.Base
