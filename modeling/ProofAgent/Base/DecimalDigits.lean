import Mathlib.Algebra.Order.Field.Basic
import Mathlib.Data.List.DropRight
import Mathlib.Data.Nat.Digits.Lemmas
import Mathlib.Data.Rat.Cast.Order
import Mathlib.Tactic.FieldSimp
import Mathlib.Tactic.Linarith

/-! # Decimal digits

The number that digits write, the most significant digit first, and the fraction that digits write
after a point. Without the zeros that do not count, there is one way to write a number. -/
namespace ProofAgent.Base

/-- The number that digits write. -/
def positional (ds : List ℕ) : ℕ := Nat.ofDigits 10 ds.reverse

/-- The number that digits write after a point. -/
def fractional (ds : List ℕ) : ℚ := positional ds / 10 ^ ds.length

/-- The entries are digits. -/
def DecimalDigits (ds : List ℕ) : Prop := ∀ d ∈ ds, d < 10

theorem positional_append (a b : List ℕ) :
    positional (a ++ b) = positional a * 10 ^ b.length + positional b := by
  unfold positional
  rw [List.reverse_append, Nat.ofDigits_append, List.length_reverse, mul_comm, add_comm]

theorem positional_cons_zero (ds : List ℕ) : positional (0 :: ds) = positional ds := by
  unfold positional
  rw [List.reverse_cons, Nat.ofDigits_append_zero]

theorem positional_replicate (n : ℕ) : positional (List.replicate n 0) = 0 := by
  unfold positional
  rw [List.reverse_replicate, Nat.ofDigits_replicate_zero]

theorem positional_lt {ds : List ℕ} (h : DecimalDigits ds) : positional ds < 10 ^ ds.length := by
  have hlt := Nat.ofDigits_lt_base_pow_length (b := 10) (by decide) (l := ds.reverse)
    fun d hd => h d (List.mem_reverse.mp hd)
  rw [List.length_reverse] at hlt
  exact hlt

/-- Zeros at the front do not count. -/
theorem positional_dropWhile (ds : List ℕ) :
    positional (ds.dropWhile fun d => d = 0) = positional ds := by
  induction ds with
  | nil => rfl
  | cons d ds ih =>
    rw [List.dropWhile_cons]
    split
    · rename_i hd
      rw [of_decide_eq_true hd, positional_cons_zero, ih]
    · rfl

/-- Zeros at the end of a fraction do not count. -/
theorem fractional_rdropWhile (ds : List ℕ) :
    fractional (ds.rdropWhile fun d => d = 0) = fractional ds := by
  induction ds using List.reverseRecOn with
  | nil => rfl
  | append_singleton ds d ih =>
    rw [List.rdropWhile_concat]
    split
    · rename_i hd
      rw [ih, of_decide_eq_true hd]
      unfold fractional
      rw [positional_append, List.length_append]
      have hzero : positional [0] = 0 := rfl
      rw [hzero, List.length_singleton, pow_succ]
      push_cast
      field_simp
      rw [add_zero, pow_succ]
      ring
    · rfl

/-- Digits of one length that write one number are the same. -/
theorem positional_inj_length {a b : List ℕ} (ha : DecimalDigits a) (hb : DecimalDigits b)
    (hlength : a.length = b.length) (h : positional a = positional b) : a = b := by
  refine List.reverse_injective (Nat.ofDigits_inj_of_len_eq (b := 10) (by decide) ?_ ?_ ?_ h)
  · rw [List.length_reverse, List.length_reverse, hlength]
  · exact fun d hd => ha d (List.mem_reverse.mp hd)
  · exact fun d hd => hb d (List.mem_reverse.mp hd)

/-- Digits without a zero at the front that write one number are the same. -/
theorem positional_inj {a b : List ℕ} (ha : DecimalDigits a) (hb : DecimalDigits b)
    (hahead : a.head? ≠ some 0) (hbhead : b.head? ≠ some 0)
    (h : positional a = positional b) : a = b := by
  have hdigits : ∀ {ds : List ℕ}, DecimalDigits ds → ds.head? ≠ some 0 →
      Nat.digits 10 (positional ds) = ds.reverse := by
    intro ds hds hhead
    refine Nat.digits_ofDigits 10 (by decide) _ (fun d hd => hds d (List.mem_reverse.mp hd)) ?_
    intro hne hzero
    apply hhead
    rw [← List.getLast?_reverse, List.getLast?_eq_some_getLast hne, hzero]
  exact List.reverse_injective ((hdigits ha hahead).symm.trans ((congrArg _ h).trans (hdigits hb hbhead)))

/-- Fractions without a zero at the end, the first no longer than the second. -/
theorem fraction_inj_of_le {a b : List ℕ} (ha : DecimalDigits a) (hb : DecimalDigits b)
    (hlast : b.getLast? ≠ some 0) (hle : a.length ≤ b.length)
    (h : positional a * 10 ^ b.length = positional b * 10 ^ a.length) : a = b := by
  obtain ⟨n, hn⟩ := Nat.exists_eq_add_of_le hle
  have hpad : positional (a ++ List.replicate n 0) = positional b := by
    rw [positional_append, positional_replicate, List.length_replicate, add_zero]
    refine Nat.eq_of_mul_eq_mul_right (show 0 < 10 ^ a.length by positivity) ?_
    rw [← h, hn, pow_add]
    ring
  have hsame : a ++ List.replicate n 0 = b := by
    refine positional_inj_length ?_ hb ?_ hpad
    · intro d hd
      rcases List.mem_append.mp hd with hd | hd
      · exact ha d hd
      · rw [(List.mem_replicate.mp hd).2]
        decide
    · rw [List.length_append, List.length_replicate, hn]
  cases n with
  | zero => rwa [List.replicate_zero, List.append_nil] at hsame
  | succ n =>
    rw [← hsame, List.replicate_succ', ← List.append_assoc, List.getLast?_concat] at hlast
    exact absurd rfl hlast

theorem fractional_lt_one {ds : List ℕ} (h : DecimalDigits ds) : fractional ds < 1 := by
  unfold fractional
  rw [div_lt_one (by positivity)]
  exact_mod_cast positional_lt h

theorem fractional_nonneg (ds : List ℕ) : 0 ≤ fractional ds := by
  unfold fractional
  positivity

theorem fractional_inj {a b : List ℕ} (ha : DecimalDigits a) (hb : DecimalDigits b)
    (halast : a.getLast? ≠ some 0) (hblast : b.getLast? ≠ some 0)
    (h : fractional a = fractional b) : a = b := by
  unfold fractional at h
  have hcross : positional a * 10 ^ b.length = positional b * 10 ^ a.length := by
    field_simp at h
    rw [mul_comm, mul_comm (positional b)]
    exact_mod_cast (by linarith : (10 : ℚ) ^ b.length * positional a = 10 ^ a.length * positional b)
  rcases Nat.le_total a.length b.length with hle | hle
  · exact fraction_inj_of_le ha hb hblast hle hcross
  · exact (fraction_inj_of_le hb ha halast hle hcross.symm).symm

/-- **One way to write a number**: without zeros at the front of its whole part and at the end of
its fraction. -/
theorem written_inj {w w' f f' : List ℕ} (hw : DecimalDigits w) (hw' : DecimalDigits w')
    (hf : DecimalDigits f) (hf' : DecimalDigits f') (hhead : w.head? ≠ some 0)
    (hhead' : w'.head? ≠ some 0) (hlast : f.getLast? ≠ some 0) (hlast' : f'.getLast? ≠ some 0)
    (h : (positional w : ℚ) + fractional f = positional w' + fractional f') : w = w' ∧ f = f' := by
  have hwhole : positional w = positional w' := by
    have hle : ∀ {m n : ℕ} {x y : ℚ}, (m : ℚ) + x = n + y → 0 ≤ x → y < 1 → m ≤ n := by
      intro m n x y hsum hx hy
      have hlt : (m : ℚ) < n + 1 := by linarith
      exact Nat.lt_succ_iff.mp (by exact_mod_cast hlt)
    exact Nat.le_antisymm (hle h (fractional_nonneg f) (fractional_lt_one hf'))
      (hle h.symm (fractional_nonneg f') (fractional_lt_one hf))
  rw [hwhole] at h
  exact ⟨positional_inj hw hw' hhead hhead' hwhole,
    fractional_inj hf hf' hlast hlast' (add_left_cancel h)⟩

end ProofAgent.Base
