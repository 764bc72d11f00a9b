import ProofAgent.Base.Json

/-! # A text for every JSON value

A prefix code writes a value so that its end can be seen. Codes put one after
another are a prefix code again, and so the text of a JSON value determines the
value. It stands in for a digest without collisions. -/
namespace ProofAgent.Base

variable {α β : Type}

/-- What is written determines the value and where its text ends. -/
def PrefixCode (write : α → List Char) : Prop :=
  ∀ ⦃a b r s⦄, write a ++ r = write b ++ s → a = b ∧ r = s

namespace PrefixCode

theorem comp {write : β → List Char} (h : PrefixCode write) {f : α → β}
    (hf : Function.Injective f) : PrefixCode fun a => write (f a) := by
  intro a b r s he
  obtain ⟨hab, hrs⟩ := h he
  exact ⟨hf hab, hrs⟩

/-- One code after another. -/
theorem pair {write : α → List Char} {write' : β → List Char} (h : PrefixCode write)
    (h' : PrefixCode write') : PrefixCode fun p : α × β => write p.1 ++ write' p.2 := by
  rintro ⟨a, a'⟩ ⟨b, b'⟩ r s he
  simp only [List.append_assoc] at he
  obtain ⟨rfl, hrest⟩ := h he
  obtain ⟨rfl, rfl⟩ := h' hrest
  exact ⟨rfl, rfl⟩

end PrefixCode

namespace Json

def digit (d : Nat) : Char := if d = 0 then '0' else '1'

/-- The binary digits of a number, closed by a comma. -/
def natText (n : Nat) : List Char := (Nat.digits 2 n).map digit ++ [',']

theorem digit_ne (d : Nat) : digit d ≠ ',' := by
  unfold digit
  split <;> decide

theorem digit_inj {d e : Nat} (hd : d < 2) (he : e < 2) (h : digit d = digit e) : d = e := by
  unfold digit at h
  split at h <;> split at h
  · omega
  · exact absurd h (by decide)
  · exact absurd h (by decide)
  · omega

theorem closed_digits : ∀ {xs ys : List Nat} {r s : List Char}, (∀ x ∈ xs, x < 2) →
    (∀ y ∈ ys, y < 2) → xs.map digit ++ ',' :: r = ys.map digit ++ ',' :: s → xs = ys ∧ r = s
  | [], [], r, s, _, _, h => by simpa using h
  | [], y :: ys, r, s, _, _, h => by
    simp only [List.map_nil, List.map_cons, List.nil_append, List.cons_append,
      List.cons.injEq] at h
    exact absurd h.1.symm (digit_ne y)
  | x :: xs, [], r, s, _, _, h => by
    simp only [List.map_nil, List.map_cons, List.nil_append, List.cons_append,
      List.cons.injEq] at h
    exact absurd h.1 (digit_ne x)
  | x :: xs, y :: ys, r, s, hx, hy, h => by
    simp only [List.map_cons, List.cons_append, List.cons.injEq] at h
    obtain ⟨rfl, hrs⟩ := closed_digits (fun z hz => hx z (by simp [hz]))
      (fun z hz => hy z (by simp [hz])) h.2
    obtain rfl := digit_inj (hx x (by simp)) (hy y (by simp)) h.1
    exact ⟨rfl, hrs⟩

theorem natText_code : PrefixCode natText := by
  intro a b r s h
  simp only [natText, List.append_assoc, List.singleton_append] at h
  obtain ⟨hdigits, hrs⟩ := closed_digits (fun _ hx => Nat.digits_lt_base (by decide) hx)
    (fun _ hy => Nat.digits_lt_base (by decide) hy) h
  exact ⟨Nat.digits_inj_iff.mp hdigits, hrs⟩

def intText (n : Int) : List Char := natText (if n < 0 then 1 else 0) ++ natText n.natAbs

theorem intText_code : PrefixCode intText := by
  refine (natText_code.pair natText_code).comp
    (f := fun n : Int => (if n < 0 then 1 else 0, n.natAbs)) fun m n h => ?_
  simp only [Prod.mk.injEq] at h
  split at h <;> split at h <;> omega

/-- The length of a text, and the text. -/
def strText (s : String) : List Char := natText s.length ++ s.toList

theorem strText_code : PrefixCode strText := by
  intro a b r s h
  simp only [strText, List.append_assoc] at h
  obtain ⟨hlen, h⟩ := natText_code h
  obtain ⟨hab, hrs⟩ := List.append_inj h (by rw [String.length_toList, String.length_toList, hlen])
  exact ⟨String.toList_inj.mp hab, hrs⟩

def floatText (x : PyFloat) : List Char :=
  natText x.negative.toNat ++ (natText x.coefficient ++ intText x.exponent)

theorem floatText_code : PrefixCode floatText := by
  refine (natText_code.pair (natText_code.pair intText_code)).comp
    (f := fun x : PyFloat => (x.negative.toNat, x.coefficient, x.exponent)) fun x y h => ?_
  obtain ⟨nx, cx, ex, hx⟩ := x
  obtain ⟨ny, cy, ey, hy⟩ := y
  simp only [Prod.mk.injEq] at h
  obtain ⟨hn, rfl, rfl⟩ := h
  revert hn
  cases nx <;> cases ny <;> simp

mutual
/-- A tag for the kind of the value, and its parts. -/
def chars : Json → List Char
  | .null => 'n' :: []
  | .bool b => 'b' :: natText b.toNat
  | .int n => 'i' :: intText n
  | .float x => 'f' :: floatText x
  | .str s => 's' :: strText s
  | .time t => 't' :: intText t
  | .arr items => 'a' :: itemChars items
  | .obj fields => 'o' :: fieldChars fields

def itemChars : List Json → List Char
  | [] => '0' :: []
  | j :: rest => '1' :: (chars j ++ itemChars rest)

def fieldChars : List (String × Json) → List Char
  | [] => '0' :: []
  | (k, j) :: rest => '1' :: (strText k ++ (chars j ++ fieldChars rest))
end

mutual
theorem chars_code : ∀ (a b : Json) (r s : List Char), chars a ++ r = chars b ++ s →
    a = b ∧ r = s
  | .null, b, r, s, h => by
    cases b <;> simp [chars] at h
    exact ⟨rfl, h⟩
  | .bool x, b, r, s, h => by
    cases b <;> simp [chars] at h
    rename_i y
    obtain ⟨hxy, hrs⟩ := natText_code h
    refine ⟨?_, hrs⟩
    revert hxy
    cases x <;> cases y <;> simp
  | .int n, b, r, s, h => by
    cases b <;> simp [chars] at h
    obtain ⟨rfl, hrs⟩ := intText_code h
    exact ⟨rfl, hrs⟩
  | .float x, b, r, s, h => by
    cases b <;> simp [chars] at h
    obtain ⟨rfl, hrs⟩ := floatText_code h
    exact ⟨rfl, hrs⟩
  | .str x, b, r, s, h => by
    cases b <;> simp [chars] at h
    obtain ⟨rfl, hrs⟩ := strText_code h
    exact ⟨rfl, hrs⟩
  | .time t, b, r, s, h => by
    cases b <;> simp [chars] at h
    obtain ⟨rfl, hrs⟩ := intText_code h
    exact ⟨rfl, hrs⟩
  | .arr xs, b, r, s, h => by
    cases b <;> simp [chars] at h
    obtain ⟨rfl, hrs⟩ := itemChars_code xs _ r s h
    exact ⟨rfl, hrs⟩
  | .obj fs, b, r, s, h => by
    cases b <;> simp [chars] at h
    obtain ⟨rfl, hrs⟩ := fieldChars_code fs _ r s h
    exact ⟨rfl, hrs⟩

theorem itemChars_code : ∀ (xs ys : List Json) (r s : List Char),
    itemChars xs ++ r = itemChars ys ++ s → xs = ys ∧ r = s
  | [], ys, r, s, h => by
    cases ys <;> simp [itemChars] at h
    exact ⟨rfl, h⟩
  | x :: xs, ys, r, s, h => by
    cases ys <;> simp [itemChars] at h
    obtain ⟨rfl, hrest⟩ := chars_code x _ _ _ h
    obtain ⟨rfl, hrs⟩ := itemChars_code xs _ r s hrest
    exact ⟨rfl, hrs⟩

theorem fieldChars_code : ∀ (xs ys : List (String × Json)) (r s : List Char),
    fieldChars xs ++ r = fieldChars ys ++ s → xs = ys ∧ r = s
  | [], ys, r, s, h => by
    cases ys <;> simp [fieldChars] at h
    exact ⟨rfl, h⟩
  | (k, x) :: xs, ys, r, s, h => by
    cases ys <;> simp [fieldChars] at h
    obtain ⟨rfl, hvalue⟩ := strText_code h
    obtain ⟨rfl, hrest⟩ := chars_code x _ _ _ hvalue
    obtain ⟨rfl, hrs⟩ := fieldChars_code xs _ r s hrest
    exact ⟨rfl, hrs⟩
end

/-- The text of a value. -/
def text (j : Json) : String := String.ofList j.chars

/-- **The text determines the value.** -/
theorem text_injective : Function.Injective text := fun a b h =>
  (chars_code a b [] [] (by rw [String.ofList_injective h])).1

end Json

end ProofAgent.Base
