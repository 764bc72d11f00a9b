import Mathlib.Data.List.Basic
import Mathlib.Tactic.IntervalCases

/-! # URLs

What the URL library of the language reads out of a URL is a parameter of the development. A
text is quoted byte by byte: an unreserved character stands for itself, and any other byte
for its two hexadecimal digits after a percent sign. A quoted text reads back, so no two texts
are quoted alike, and it has no separator of a URL in it. -/
namespace ProofAgent.Base

/-- What `urlsplit` reads out of a URL. -/
structure UrlParts where
  scheme : String
  netloc : String
  path : String
  query : String
  fragment : String
  hostname : Option String
  username : Option String
  password : Option String
  /-- `none` where reading it raises. -/
  port : Option (Option Nat)

/-- The URL library; `none` where it raises a `ValueError`. -/
structure UrlParser where
  urlsplit : String → Option UrlParts
  urljoin : (base url : String) → Option String
  encodeIdna : String → Option String
  lower : String → String

/-! ## Percent-encoding -/

/-- The characters that are never quoted. -/
def isUnreserved (c : Char) : Bool := c.isAlphanum || c = '_' || c = '.' || c = '-' || c = '~'

/-- A hexadecimal digit in upper case. -/
def hexDigit (n : Nat) : Char := .ofNat (if n < 10 then 48 + n else 55 + n)

def hexValue (c : Char) : Nat := if c.toNat < 58 then c.toNat - 48 else c.toNat - 55

def quoteByte (b : UInt8) : List Char :=
  if isUnreserved (.ofNat b.toNat) then [.ofNat b.toNat]
  else ['%', hexDigit (b.toNat / 16), hexDigit (b.toNat % 16)]

def quoteBytes (bytes : List UInt8) : List Char := bytes.flatMap quoteByte

/-- The bytes of a text in UTF-8. -/
def utf8Bytes (text : String) : List UInt8 := text.toByteArray.data.toList

/-- `quote(text, safe="")`. -/
def quote (text : String) : String := .ofList (quoteBytes (utf8Bytes text))

/-- Read what was quoted. -/
def unquoteBytes : List Char → List UInt8
  | '%' :: high :: low :: rest => .ofNat (16 * hexValue high + hexValue low) :: unquoteBytes rest
  | c :: rest => .ofNat c.toNat :: unquoteBytes rest
  | [] => []

/-! ## Bytes -/

theorem hexDigit_cases {n : Nat} (h : n < 16) :
    hexValue (hexDigit n) = n ∧ isUnreserved (hexDigit n) = true := by
  interval_cases n <;> decide

/-- A byte is the code of its character. -/
theorem toNat_ofNat_byte (b : UInt8) : (Char.ofNat b.toNat).toNat = b.toNat := by
  have hbyte := b.toNat_lt
  have hvalid : b.toNat.isValidChar := .inl (by omega)
  have hchar : Char.ofNat b.toNat = Char.ofNatAux b.toNat hvalid := dif_pos hvalid
  rw [hchar]
  rfl

theorem percent_reserved : isUnreserved '%' = false := by decide

/-- **A quoted byte reads back.** -/
theorem unquoteBytes_quoteByte (b : UInt8) (rest : List Char) :
    unquoteBytes (quoteByte b ++ rest) = b :: unquoteBytes rest := by
  have hbyte := b.toNat_lt
  unfold quoteByte
  split
  · rename_i hsafe
    have hne : Char.ofNat b.toNat ≠ '%' := by
      intro hpercent
      rw [hpercent, percent_reserved] at hsafe
      cases hsafe
    rw [List.singleton_append]
    rw [unquoteBytes.eq_2]
    · rw [toNat_ofNat_byte]
      simp
    · intro _ _ _ hpercent
      exact absurd hpercent hne
  · obtain ⟨hhigh, -⟩ := hexDigit_cases (n := b.toNat / 16) (by omega)
    obtain ⟨hlow, -⟩ := hexDigit_cases (n := b.toNat % 16) (by omega)
    rw [List.cons_append, List.cons_append, List.cons_append, List.nil_append, unquoteBytes, hhigh,
      hlow, Nat.div_add_mod]
    simp

theorem unquoteBytes_quoteBytes (bytes : List UInt8) : unquoteBytes (quoteBytes bytes) = bytes := by
  unfold quoteBytes
  induction bytes with
  | nil => rfl
  | cons b bytes ih => rw [List.flatMap_cons, unquoteBytes_quoteByte, ih]

/-- **Texts that are quoted alike are equal.** -/
theorem quote_injective : Function.Injective quote := by
  intro a b h
  have hbytes := congrArg (unquoteBytes ∘ String.toList) h
  simp only [quote, Function.comp_apply, String.toList_ofList, unquoteBytes_quoteBytes,
    utf8Bytes] at hbytes
  exact String.toByteArray_inj.mp (ByteArray.ext (Array.ext' hbytes))

theorem mem_quoteByte {b : UInt8} {c : Char} (h : c ∈ quoteByte b) :
    c = '%' ∨ isUnreserved c = true := by
  have hbyte := b.toNat_lt
  unfold quoteByte at h
  split at h
  · rename_i hsafe
    obtain rfl := List.mem_singleton.mp h
    exact .inr hsafe
  · rcases List.mem_cons.mp h with rfl | h
    · exact .inl rfl
    · right
      rcases List.mem_cons.mp h with rfl | h
      · exact (hexDigit_cases (by omega)).2
      · obtain rfl := List.mem_singleton.mp h
        exact (hexDigit_cases (by omega)).2

/-- A reserved character other than the percent sign is not in a quoted text. -/
theorem notMem_quote {c : Char} (hreserved : isUnreserved c = false) (hne : c ≠ '%')
    (text : String) : c ∉ (quote text).toList := by
  unfold quote quoteBytes
  rw [String.toList_ofList, List.mem_flatMap]
  rintro ⟨b, -, hmem⟩
  rcases mem_quoteByte hmem with rfl | hsafe
  · exact hne rfl
  · rw [hreserved] at hsafe
    cases hsafe

/-! ## What separators separate -/

/-- Up to the first separator, and after it, two lists that are equal are equal. -/
theorem cancel_separator {α : Type} {sep : α} : ∀ {p q x y : List α}, sep ∉ p → sep ∉ q →
    p ++ sep :: x = q ++ sep :: y → p = q ∧ x = y
  | [], [], x, y, _, _, h => ⟨rfl, (List.cons.inj h).2⟩
  | [], b :: q, x, y, _, hq, h => by
    obtain ⟨hsep, -⟩ := List.cons.inj h
    exact absurd (hsep ▸ List.mem_cons_self ..) hq
  | a :: p, [], x, y, hp, _, h => by
    obtain ⟨hsep, -⟩ := List.cons.inj h
    exact absurd (hsep ▸ List.mem_cons_self ..) hp
  | a :: p, b :: q, x, y, hp, hq, h => by
    obtain ⟨rfl, htail⟩ := List.cons.inj h
    obtain ⟨rfl, hrest⟩ := cancel_separator (fun hmem => hp (List.mem_cons_of_mem _ hmem))
      (fun hmem => hq (List.mem_cons_of_mem _ hmem)) htail
    exact ⟨rfl, hrest⟩

end ProofAgent.Base
