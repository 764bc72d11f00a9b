import ProofAgent.Base.Mapping
import ProofAgent.Base.NumberChars

/-! # Canonical JSON text

`json.dumps` with sorted keys and without blanks. Every character is written so that it can
be read back, and every value so that its end can be seen; the keys are sorted by code
points. Two values have one text just when they are the same up to the order of keys. -/
namespace ProofAgent.Base

/-! ## Characters -/

/-- `\uXXXX`. -/
def unicodeEscape (n : Nat) : List Char :=
  ['\\', 'u', Nat.digitChar (n / 4096 % 16), Nat.digitChar (n / 256 % 16),
    Nat.digitChar (n / 16 % 16), Nat.digitChar (n % 16)]

/-- How a character stands in a text. With `ensure_ascii` what is not ASCII is escaped, by a
surrogate pair where it needs one. -/
def escapeChar (ensureAscii : Bool) (c : Char) : List Char :=
  if c = '"' then ['\\', '"']
  else if c = '\\' then ['\\', '\\']
  else if c = '\n' then ['\\', 'n']
  else if c = '\r' then ['\\', 'r']
  else if c = '\t' then ['\\', 't']
  else if c = '\x08' then ['\\', 'b']
  else if c = '\x0c' then ['\\', 'f']
  else if c.toNat < 0x20 ∨ ensureAscii = true ∧ 0x7e < c.toNat then
    if c.toNat < 0x10000 then unicodeEscape c.toNat
    else unicodeEscape (0xd800 + (c.toNat - 0x10000) / 0x400) ++
      unicodeEscape (0xdc00 + (c.toNat - 0x10000) % 0x400)
  else [c]

/-- The number of four hexadecimal digits. -/
def readHex : List Char → Option (Nat × List Char)
  | a :: b :: c :: d :: rest =>
    some (4096 * hexValue a + 256 * hexValue b + 16 * hexValue c + hexValue d, rest)
  | _ => none
where
  hexValue (c : Char) : Nat := if c.isDigit then c.toNat - '0'.toNat else c.toNat - 'a'.toNat + 10

/-- The character that a text begins with, and what follows it. -/
def readChar : List Char → Option (Char × List Char)
  | '\\' :: 'u' :: rest => do
    let (n, rest) ← readHex rest
    if 0xd800 ≤ n ∧ n < 0xdc00 then
      let (m, rest) ← readHex (rest.drop 2)
      return (Char.ofNat (0x10000 + (n - 0xd800) * 0x400 + (m - 0xdc00)), rest)
    else return (Char.ofNat n, rest)
  | '\\' :: c :: rest =>
    some (if c = 'n' then '\n' else if c = 'r' then '\r' else if c = 't' then '\t'
      else if c = 'b' then '\x08' else if c = 'f' then '\x0c' else c, rest)
  | '"' :: _ => none
  | c :: rest => some (c, rest)
  | [] => none

theorem readChar_unicode (rest : List Char) : readChar ('\\' :: 'u' :: rest) =
    (readHex rest).bind fun p =>
      if 0xd800 ≤ p.1 ∧ p.1 < 0xdc00 then (readHex (p.2.drop 2)).bind fun q =>
        some (Char.ofNat (0x10000 + (p.1 - 0xd800) * 0x400 + (q.1 - 0xdc00)), q.2)
      else some (Char.ofNat p.1, p.2) := rfl

theorem unicodeEscape_eq (n : Nat) : unicodeEscape n = '\\' :: 'u' :: (unicodeEscape n).drop 2 := rfl

theorem hexValue_digitChar : ∀ d < 16, readHex.hexValue (Nat.digitChar d) = d := by decide

theorem readHex_escape {n : Nat} (h : n < 0x10000) (r : List Char) :
    readHex ((unicodeEscape n).drop 2 ++ r) = some (n, r) := by
  have hdigits : 4096 * (n / 4096 % 16) + 256 * (n / 256 % 16) + 16 * (n / 16 % 16) + n % 16 = n := by
    omega
  unfold unicodeEscape
  rw [List.drop_succ_cons, List.drop_succ_cons, List.drop_zero]
  simp only [List.cons_append, List.nil_append, readHex]
  rw [hexValue_digitChar _ (Nat.mod_lt _ (by decide)), hexValue_digitChar _ (Nat.mod_lt _ (by decide)),
    hexValue_digitChar _ (Nat.mod_lt _ (by decide)), hexValue_digitChar _ (Nat.mod_lt _ (by decide)),
    hdigits]

theorem toNat_bounds (c : Char) : c.toNat < 0xd800 ∨ 0xdfff < c.toNat ∧ c.toNat < 0x110000 := c.valid

/-- **A character is read back** from how it stands in a text. -/
theorem readChar_escape (ensureAscii : Bool) (c : Char) (r : List Char) :
    readChar (escapeChar ensureAscii c ++ r) = some (c, r) := by
  by_cases hquote : c = '"'
  · subst hquote; rfl
  by_cases hslash : c = '\\'
  · subst hslash; rfl
  by_cases hn : c = '\n'
  · subst hn; rfl
  by_cases hr : c = '\r'
  · subst hr; rfl
  by_cases ht : c = '\t'
  · subst ht; rfl
  by_cases hb : c = '\x08'
  · subst hb; rfl
  by_cases hf : c = '\x0c'
  · subst hf; rfl
  unfold escapeChar
  rw [if_neg hquote, if_neg hslash, if_neg hn, if_neg hr, if_neg ht, if_neg hb, if_neg hf]
  have hbounds := toNat_bounds c
  by_cases hescaped : c.toNat < 0x20 ∨ ensureAscii = true ∧ 0x7e < c.toNat
  · rw [if_pos hescaped]
    by_cases hshort : c.toNat < 0x10000
    · rw [if_pos hshort]
      have hread := readHex_escape hshort r
      have hplain : ¬ (0xd800 ≤ c.toNat ∧ c.toNat < 0xdc00) := by omega
      rw [unicodeEscape_eq, List.cons_append, List.cons_append, readChar_unicode, hread,
        Option.bind_some, if_neg hplain, Char.ofNat_toNat]
    · rw [if_neg hshort, List.append_assoc]
      generalize hv : c.toNat - 0x10000 = v
      have hhigh : 0xd800 ≤ 0xd800 + v / 0x400 ∧ 0xd800 + v / 0x400 < 0xdc00 := by omega
      have hread := readHex_escape (n := 0xd800 + v / 0x400) (by omega)
        (unicodeEscape (0xdc00 + v % 0x400) ++ r)
      have hlow := readHex_escape (n := 0xdc00 + v % 0x400) (by omega) r
      have hvalue : 0x10000 + (0xd800 + v / 0x400 - 0xd800) * 0x400 + (0xdc00 + v % 0x400 - 0xdc00) =
          c.toNat := by omega
      have hnext : (unicodeEscape (0xdc00 + v % 0x400) ++ r).drop 2 =
          (unicodeEscape (0xdc00 + v % 0x400)).drop 2 ++ r := rfl
      rw [unicodeEscape_eq, List.cons_append, List.cons_append, readChar_unicode, hread,
        Option.bind_some, if_pos hhigh, hnext, hlow, Option.bind_some, hvalue, Char.ofNat_toNat]
  · rw [if_neg hescaped]
    show readChar (c :: r) = _
    unfold readChar
    split
    · rename_i heq
      exact absurd (List.cons.inj heq).1 hslash
    · rename_i heq
      exact absurd (List.cons.inj heq).1 hslash
    · rename_i heq
      exact absurd (List.cons.inj heq).1 hquote
    · rename_i heq
      rw [(List.cons.inj heq).1, (List.cons.inj heq).2]
    · rename_i heq
      cases heq

/-- A text between quotes. -/
def quoted (ensureAscii : Bool) (text : String) : List Char :=
  '"' :: (text.toList.flatMap (escapeChar ensureAscii) ++ ['"'])

theorem escaped_code (ensureAscii : Bool) : ∀ {xs ys r s : List Char},
    xs.flatMap (escapeChar ensureAscii) ++ '"' :: r = ys.flatMap (escapeChar ensureAscii) ++ '"' :: s →
    xs = ys ∧ r = s
  | [], [], r, s, h => ⟨rfl, (List.cons.inj h).2⟩
  | [], y :: ys, r, s, h => by
    have hread := congrArg readChar h
    rw [List.flatMap_cons, List.append_assoc, readChar_escape] at hread
    cases hread
  | x :: xs, [], r, s, h => by
    have hread := congrArg readChar h
    rw [List.flatMap_cons, List.append_assoc, readChar_escape] at hread
    cases hread
  | x :: xs, y :: ys, r, s, h => by
    have hread := congrArg readChar h
    rw [List.flatMap_cons, List.flatMap_cons, List.append_assoc, List.append_assoc, readChar_escape,
      readChar_escape, Option.some.injEq, Prod.mk.injEq] at hread
    obtain ⟨rfl, hread⟩ := hread
    obtain ⟨rfl, hrest⟩ := escaped_code ensureAscii hread
    exact ⟨rfl, hrest⟩

theorem quoted_code {ensureAscii : Bool} {a b : String} {r s : List Char}
    (h : quoted ensureAscii a ++ r = quoted ensureAscii b ++ s) : a = b ∧ r = s := by
  unfold quoted at h
  rw [List.cons_append, List.cons_append, List.append_assoc, List.append_assoc] at h
  obtain ⟨hab, hrest⟩ := escaped_code ensureAscii (List.cons.inj h).2
  exact ⟨String.toList_inj.mp hab, hrest⟩

namespace Json

/-! ## Values -/

section
variable (ensureAscii : Bool)

mutual
/-- The text of a value, with its keys as they stand. `json.dumps` refuses a datetime; the
mark stands for that, so that no other value has its text. -/
def dumpChars : Json → List Char
  | .null => ['n', 'u', 'l', 'l']
  | .bool true => ['t', 'r', 'u', 'e']
  | .bool false => ['f', 'a', 'l', 's', 'e']
  | .int n => (NumberText.ofInt n).chars
  | .float x => x.repr.chars
  | .str s => quoted ensureAscii s
  | .time t => '@' :: (NumberText.ofInt t).chars
  | .arr [] => ['[', ']']
  | .arr (j :: rest) => '[' :: (dumpChars j ++ itemsTail rest)
  | .obj [] => ['{', '}']
  | .obj ((k, j) :: rest) => '{' :: (quoted ensureAscii k ++ ':' :: (dumpChars j ++ fieldsTail rest))

def itemsTail : List Json → List Char
  | [] => [']']
  | j :: rest => ',' :: (dumpChars j ++ itemsTail rest)

def fieldsTail : List (String × Json) → List Char
  | [] => ['}']
  | (k, j) :: rest => ',' :: (quoted ensureAscii k ++ ':' :: (dumpChars j ++ fieldsTail rest))
end

/-- The kind of a value, which its first character shows. -/
def kind : Json → Nat
  | .null => 0
  | .bool true => 1
  | .bool false => 2
  | .int _ => 3
  | .float _ => 3
  | .str _ => 4
  | .time _ => 5
  | .arr _ => 6
  | .obj _ => 7

def kindOfChar (c : Char) : Nat :=
  if c = 'n' then 0 else if c = 't' then 1 else if c = 'f' then 2 else if c = '"' then 4
  else if c = '@' then 5 else if c = '[' then 6 else if c = '{' then 7 else if c = ']' then 8 else 3

theorem kindOfChar_number {c : Char} (h : c = '-' ∨ c.isDigit = true) : kindOfChar c = 3 := by
  rcases h with rfl | h
  · rfl
  · unfold kindOfChar
    rw [if_neg, if_neg, if_neg, if_neg, if_neg, if_neg, if_neg, if_neg] <;>
      (rintro rfl; exact absurd h (by decide))

theorem dumpChars_head (j : Json) :
    ∃ c rest, dumpChars ensureAscii j = c :: rest ∧ kindOfChar c = j.kind := by
  have hnumber : ∀ t : NumberText, ∃ c rest, t.chars = c :: rest ∧ kindOfChar c = 3 := by
    intro t
    obtain ⟨c, rest, hchars, hc⟩ := t.chars_head
    exact ⟨c, rest, hchars, kindOfChar_number hc⟩
  match j with
  | .null => exact ⟨_, _, by rw [dumpChars], rfl⟩
  | .bool true => exact ⟨_, _, by rw [dumpChars], rfl⟩
  | .bool false => exact ⟨_, _, by rw [dumpChars], rfl⟩
  | .int n =>
    rw [dumpChars]
    exact hnumber _
  | .float x =>
    rw [dumpChars]
    exact hnumber _
  | .str s => exact ⟨'"', _, by rw [dumpChars, quoted], rfl⟩
  | .time t => exact ⟨_, _, by rw [dumpChars], rfl⟩
  | .arr [] => exact ⟨_, _, by rw [dumpChars], rfl⟩
  | .arr (j :: rest) => exact ⟨_, _, by rw [dumpChars], rfl⟩
  | .obj [] => exact ⟨_, _, by rw [dumpChars], rfl⟩
  | .obj ((k, j) :: rest) => exact ⟨_, _, by rw [dumpChars], rfl⟩

variable {ensureAscii}

theorem kind_eq {a b : Json} {r s : List Char}
    (h : dumpChars ensureAscii a ++ r = dumpChars ensureAscii b ++ s) : a.kind = b.kind := by
  obtain ⟨c, rest, ha, hc⟩ := dumpChars_head ensureAscii a
  obtain ⟨d, rest', hb, hd⟩ := dumpChars_head ensureAscii b
  rw [ha, hb, List.cons_append, List.cons_append, List.cons.injEq] at h
  rw [← hc, ← hd, h.1]

/-- No value begins with the end of a list. -/
theorem dumpChars_ne_end (j : Json) (r tail : List Char) :
    dumpChars ensureAscii j ++ r ≠ ']' :: tail := by
  intro h
  obtain ⟨c, rest, hj, hc⟩ := dumpChars_head ensureAscii j
  rw [hj, List.cons_append, List.cons.injEq] at h
  rw [h.1] at hc
  have hkind : j.kind ≤ 7 := by
    unfold kind
    split <;> decide
  have hend : kindOfChar ']' = 8 := rfl
  omega

theorem number_code {t t' : NumberText} {x y : PyNumber} {r s : List Char} (hr : NumberEnd r)
    (hs : NumberEnd s) (hx : t.loads = x) (hy : t'.loads = y) (h : t.chars ++ r = t'.chars ++ s) :
    x = y ∧ r = s := by
  obtain ⟨rfl, hrest⟩ := NumberText.chars_code hr hs h
  exact ⟨hx.symm.trans hy, hrest⟩

theorem numberEnd_items (rest : List Json) (r : List Char) :
    NumberEnd (itemsTail ensureAscii rest ++ r) := by
  intro c tail h
  cases rest with
  | nil =>
    rw [itemsTail] at h
    obtain ⟨rfl, _⟩ := List.cons.inj h
    decide
  | cons j rest =>
    rw [itemsTail] at h
    obtain ⟨rfl, _⟩ := List.cons.inj h
    decide

theorem numberEnd_fields (rest : List (String × Json)) (r : List Char) :
    NumberEnd (fieldsTail ensureAscii rest ++ r) := by
  intro c tail h
  match rest with
  | [] =>
    rw [fieldsTail] at h
    obtain ⟨rfl, _⟩ := List.cons.inj h
    decide
  | (k, j) :: rest =>
    rw [fieldsTail] at h
    obtain ⟨rfl, _⟩ := List.cons.inj h
    decide

mutual
theorem dumpChars_code : ∀ (a b : Json) (r s : List Char), NumberEnd r → NumberEnd s →
    dumpChars ensureAscii a ++ r = dumpChars ensureAscii b ++ s → a = b ∧ r = s
  | .null, b, r, s, hr, hs, h => by
    have hkind := kind_eq h
    match b with
    | .null =>
      rw [dumpChars] at h
      exact ⟨rfl, List.append_cancel_left h⟩
    | .bool true => cases hkind
    | .bool false => cases hkind
  | .bool true, b, r, s, hr, hs, h => by
    have hkind := kind_eq h
    match b with
    | .bool true =>
      rw [dumpChars] at h
      exact ⟨rfl, List.append_cancel_left h⟩
    | .bool false => cases hkind
  | .bool false, b, r, s, hr, hs, h => by
    have hkind := kind_eq h
    match b with
    | .bool true => cases hkind
    | .bool false =>
      rw [dumpChars] at h
      exact ⟨rfl, List.append_cancel_left h⟩
  | .int m, b, r, s, hr, hs, h => by
    have hkind := kind_eq h
    match b with
    | .bool true => cases hkind
    | .bool false => cases hkind
    | .int n =>
      rw [dumpChars, dumpChars] at h
      obtain ⟨hnumber, hrest⟩ :=
        number_code hr hs (NumberText.ofInt_loads m) (NumberText.ofInt_loads n) h
      exact ⟨congrArg _ (PyNumber.int.inj hnumber), hrest⟩
    | .float y =>
      rw [dumpChars, dumpChars] at h
      cases (number_code hr hs (NumberText.ofInt_loads m) y.repr_loads h).1
  | .float x, b, r, s, hr, hs, h => by
    have hkind := kind_eq h
    match b with
    | .bool true => cases hkind
    | .bool false => cases hkind
    | .int n =>
      rw [dumpChars, dumpChars] at h
      cases (number_code hr hs x.repr_loads (NumberText.ofInt_loads n) h).1
    | .float y =>
      rw [dumpChars, dumpChars] at h
      obtain ⟨hnumber, hrest⟩ := number_code hr hs x.repr_loads y.repr_loads h
      exact ⟨congrArg _ (PyNumber.float.inj hnumber), hrest⟩
  | .str x, b, r, s, hr, hs, h => by
    have hkind := kind_eq h
    match b with
    | .bool true => cases hkind
    | .bool false => cases hkind
    | .str y =>
      rw [dumpChars, dumpChars] at h
      obtain ⟨rfl, hrest⟩ := quoted_code h
      exact ⟨rfl, hrest⟩
  | .time x, b, r, s, hr, hs, h => by
    have hkind := kind_eq h
    match b with
    | .bool true => cases hkind
    | .bool false => cases hkind
    | .time y =>
      rw [dumpChars, dumpChars, List.cons_append, List.cons_append, List.cons.injEq] at h
      obtain ⟨hnumber, hrest⟩ :=
        number_code hr hs (NumberText.ofInt_loads x) (NumberText.ofInt_loads y) h.2
      exact ⟨congrArg _ (PyNumber.int.inj hnumber), hrest⟩
  | .arr xs, b, r, s, hr, hs, h => by
    have hkind := kind_eq h
    match b with
    | .bool true => cases hkind
    | .bool false => cases hkind
    | .arr ys =>
      match xs, ys with
      | [], [] =>
        rw [dumpChars] at h
        exact ⟨rfl, List.append_cancel_left h⟩
      | [], y :: ys =>
        rw [dumpChars, dumpChars] at h
        simp only [List.cons_append, List.cons.injEq, true_and, List.append_assoc] at h
        exact absurd h.symm (dumpChars_ne_end y _ _)
      | x :: xs, [] =>
        rw [dumpChars, dumpChars] at h
        simp only [List.cons_append, List.cons.injEq, true_and, List.append_assoc] at h
        exact absurd h (dumpChars_ne_end x _ _)
      | x :: xs, y :: ys =>
        rw [dumpChars, dumpChars, List.cons_append, List.cons_append, List.cons.injEq,
          List.append_assoc, List.append_assoc] at h
        obtain ⟨rfl, hitems⟩ := dumpChars_code x y _ _ (numberEnd_items _ _) (numberEnd_items _ _) h.2
        obtain ⟨rfl, hrest⟩ := itemsTail_code xs ys r s hitems
        exact ⟨rfl, hrest⟩
  | .obj fs, b, r, s, hr, hs, h => by
    have hkind := kind_eq h
    match b with
    | .bool true => cases hkind
    | .bool false => cases hkind
    | .obj gs =>
      match fs, gs with
      | [], [] =>
        rw [dumpChars] at h
        exact ⟨rfl, List.append_cancel_left h⟩
      | [], (l, y) :: gs =>
        rw [dumpChars, dumpChars] at h
        cases h
      | (k, x) :: fs, [] =>
        rw [dumpChars, dumpChars] at h
        cases h
      | (k, x) :: fs, (l, y) :: gs =>
        rw [dumpChars, dumpChars, List.cons_append, List.cons_append, List.cons.injEq,
          List.append_assoc, List.append_assoc] at h
        obtain ⟨rfl, hvalue⟩ := quoted_code h.2
        rw [List.cons_append, List.cons_append, List.cons.injEq, List.append_assoc,
          List.append_assoc] at hvalue
        obtain ⟨rfl, hfields⟩ :=
          dumpChars_code x y _ _ (numberEnd_fields _ _) (numberEnd_fields _ _) hvalue.2
        obtain ⟨rfl, hrest⟩ := fieldsTail_code fs gs r s hfields
        exact ⟨rfl, hrest⟩

theorem itemsTail_code : ∀ (xs ys : List Json) (r s : List Char),
    itemsTail ensureAscii xs ++ r = itemsTail ensureAscii ys ++ s → xs = ys ∧ r = s
  | [], [], r, s, h => by
    rw [itemsTail] at h
    exact ⟨rfl, List.append_cancel_left h⟩
  | [], y :: ys, r, s, h => by
    rw [itemsTail, itemsTail] at h
    cases h
  | x :: xs, [], r, s, h => by
    rw [itemsTail, itemsTail] at h
    cases h
  | x :: xs, y :: ys, r, s, h => by
    rw [itemsTail, itemsTail, List.cons_append, List.cons_append, List.cons.injEq,
      List.append_assoc, List.append_assoc] at h
    obtain ⟨rfl, hitems⟩ := dumpChars_code x y _ _ (numberEnd_items _ _) (numberEnd_items _ _) h.2
    obtain ⟨rfl, hrest⟩ := itemsTail_code xs ys r s hitems
    exact ⟨rfl, hrest⟩

theorem fieldsTail_code : ∀ (xs ys : List (String × Json)) (r s : List Char),
    fieldsTail ensureAscii xs ++ r = fieldsTail ensureAscii ys ++ s → xs = ys ∧ r = s
  | [], [], r, s, h => by
    rw [fieldsTail] at h
    exact ⟨rfl, List.append_cancel_left h⟩
  | [], (k, y) :: ys, r, s, h => by
    rw [fieldsTail, fieldsTail] at h
    cases h
  | (k, x) :: xs, [], r, s, h => by
    rw [fieldsTail, fieldsTail] at h
    cases h
  | (k, x) :: xs, (l, y) :: ys, r, s, h => by
    rw [fieldsTail, fieldsTail, List.cons_append, List.cons_append, List.cons.injEq,
      List.append_assoc, List.append_assoc] at h
    obtain ⟨rfl, hvalue⟩ := quoted_code h.2
    rw [List.cons_append, List.cons_append, List.cons.injEq, List.append_assoc,
      List.append_assoc] at hvalue
    obtain ⟨rfl, hfields⟩ := dumpChars_code x y _ _ (numberEnd_fields _ _) (numberEnd_fields _ _) hvalue.2
    obtain ⟨rfl, hrest⟩ := fieldsTail_code xs ys r s hfields
    exact ⟨rfl, hrest⟩
end

end

/-! ## Keys in the order of code points -/

/-- `sort_keys`. -/
def sortKeys {β : Type} (fields : List (String × β)) : List (String × β) :=
  fields.insertionSort fun a b => a.1 ≤ b.1

mutual
/-- A value with the keys of every object sorted. -/
def sorted : Json → Json
  | .arr items => .arr (sortedItems items)
  | .obj fields => .obj (sortKeys (sortedFields fields))
  | .null => .null
  | .bool b => .bool b
  | .int n => .int n
  | .float x => .float x
  | .str s => .str s
  | .time t => .time t

def sortedItems : List Json → List Json
  | [] => []
  | j :: rest => sorted j :: sortedItems rest

def sortedFields : List (String × Json) → List (String × Json)
  | [] => []
  | (k, j) :: rest => (k, sorted j) :: sortedFields rest
end

theorem sortedFields_eq (fields : List (String × Json)) :
    sortedFields fields = fields.map fun p => (p.1, sorted p.2) := by
  induction fields with
  | nil => rfl
  | cons field rest ih =>
    rw [List.map_cons, ← ih]
    rfl

/-- Two entries that an order tells apart can be inserted in either order. -/
theorem orderedInsert_comm {α : Type} {le : α → α → Prop} [DecidableRel le] (total : ∀ a b, le a b ∨ le b a)
    (trans : ∀ a b c, le a b → le b c → le a c) {a b : α} (hne : ¬ (le a b ∧ le b a)) :
    ∀ l : List α, (l.orderedInsert le a).orderedInsert le b = (l.orderedInsert le b).orderedInsert le a
  | [] => by
    simp only [List.orderedInsert_nil, List.orderedInsert_cons]
    rcases total a b with hab | hba
    · rw [if_pos hab, if_neg (fun hba => hne ⟨hab, hba⟩)]
    · rw [if_pos hba, if_neg (fun hab => hne ⟨hab, hba⟩)]
  | c :: l => by
    have ih := orderedInsert_comm total trans hne l
    by_cases hac : le a c
    · by_cases hbc : le b c
      · rcases total a b with hab | hba
        · simp only [List.orderedInsert_cons, if_pos hac, if_pos hbc, if_pos hab,
            if_neg (fun hba => hne ⟨hab, hba⟩)]
        · simp only [List.orderedInsert_cons, if_pos hac, if_pos hbc, if_pos hba,
            if_neg (fun hab => hne ⟨hab, hba⟩)]
      · have hba : ¬ le b a := fun hba => hbc (trans b a c hba hac)
        simp only [List.orderedInsert_cons, if_pos hac, if_neg hbc, if_neg hba]
    · by_cases hbc : le b c
      · have hab : ¬ le a b := fun hab => hac (trans a b c hab hbc)
        simp only [List.orderedInsert_cons, if_neg hac, if_pos hbc, if_neg hab]
      · simp only [List.orderedInsert_cons, if_neg hac, if_neg hbc, ih]

/-- Sorting by one order of the keys, and then by another one, is sorting by the other. -/
theorem insertionSort_insertionSort {α : Type} {le le' : α → α → Prop} [DecidableRel le]
    [DecidableRel le'] (total : ∀ a b, le a b ∨ le b a)
    (trans : ∀ a b c, le a b → le b c → le a c)
    (apart : ∀ a b, ¬ le' a b → ¬ (le a b ∧ le b a)) (l : List α) :
    (l.insertionSort le').insertionSort le = l.insertionSort le := by
  have hinsert : ∀ (a : α) (l : List α),
      (l.orderedInsert le' a).insertionSort le = (l.insertionSort le).orderedInsert le a := by
    intro a l
    induction l with
    | nil => rfl
    | cons b l ih =>
      rw [List.orderedInsert_cons]
      by_cases hab : le' a b
      · rw [if_pos hab]
        rfl
      · rw [if_neg hab, List.insertionSort_cons, ih, List.insertionSort_cons]
        exact orderedInsert_comm total trans (apart a b hab) _
  induction l with
  | nil => rfl
  | cons a l ih => rw [List.insertionSort_cons, hinsert, ih, List.insertionSort_cons]

theorem keyBefore_antisymm {a b : String} (hab : keyBefore a b = true)
    (hba : keyBefore b a = true) : a = b := by
  simp only [keyBefore, Bool.or_eq_true, Bool.and_eq_true, decide_eq_true_eq] at hab hba
  rcases hab with hab | ⟨_, hab⟩ <;> rcases hba with hba | ⟨_, hba⟩
  · omega
  · omega
  · omega
  · exact String.le_antisymm hab hba

theorem keyBefore_refl (a : String) : keyBefore a a = true := (keyBefore_total a a).elim id id

theorem sortFields_sortKeys {β : Type} (fields : List (String × β)) :
    sortFields (sortKeys fields) = sortFields fields := by
  have apart : ∀ a b : String × β, ¬ a.1 ≤ b.1 →
      ¬ (keyBefore a.1 b.1 = true ∧ keyBefore b.1 a.1 = true) := by
    rintro a b hab ⟨hkey, hkey'⟩
    rw [keyBefore_antisymm hkey hkey'] at hab
    exact hab (String.le_refl _)
  exact insertionSort_insertionSort (fun a b => keyBefore_total a.1 b.1)
    (fun a b c => keyBefore_trans (a := a.1) (b := b.1) (c := c.1)) apart fields

theorem sortKeys_sortFields {β : Type} (fields : List (String × β)) :
    sortKeys (sortFields fields) = sortKeys fields := by
  have apart : ∀ a b : String × β, ¬ keyBefore a.1 b.1 = true → ¬ (a.1 ≤ b.1 ∧ b.1 ≤ a.1) := by
    rintro a b hab ⟨hkey, hkey'⟩
    rw [String.le_antisymm hkey hkey'] at hab
    exact hab (keyBefore_refl _)
  exact insertionSort_insertionSort (fun a b => String.le_total a.1 b.1)
    (fun a b c => String.le_trans (a := a.1) (b := b.1) (c := c.1)) apart fields

theorem sortKeys_map {β γ : Type} (g : β → γ) (fields : List (String × β)) :
    sortKeys (fields.map fun p => (p.1, g p.2)) = (sortKeys fields).map fun p => (p.1, g p.2) :=
  (List.map_insertionSort (fun a b : String × β => a.1 ≤ b.1) (fun a b : String × γ => a.1 ≤ b.1)
    (fun p => (p.1, g p.2)) fields fun _ _ _ _ => Iff.rfl).symm

mutual
theorem canonical_sorted : ∀ j : Json, reshape .float (sorted j) = reshape .float j
  | .arr items => by
    rw [sorted, reshape, reshape, canonical_sortedItems items]
  | .obj fields => by
    rw [sorted, reshape, reshape, reshapeFields_eq _ (sortKeys _), ← sortKeys_map (reshape .float),
      ← reshapeFields_eq, canonical_sortedFields fields, sortFields_sortKeys]
  | .null | .bool _ | .int _ | .float _ | .str _ | .time _ => rfl

theorem canonical_sortedItems : ∀ items : List Json,
    reshapeItems .float (sortedItems items) = reshapeItems .float items
  | [] => rfl
  | j :: rest => by
    rw [sortedItems, reshapeItems, reshapeItems, canonical_sorted j, canonical_sortedItems rest]

theorem canonical_sortedFields : ∀ fields : List (String × Json),
    reshapeFields .float (sortedFields fields) = reshapeFields .float fields
  | [] => rfl
  | (k, j) :: rest => by
    rw [sortedFields, reshapeFields, reshapeFields, canonical_sorted j, canonical_sortedFields rest]
end

mutual
theorem sorted_canonical : ∀ j : Json, sorted (reshape .float j) = sorted j
  | .arr items => by
    rw [sorted, reshape, sorted, sortedItems_canonical items]
  | .obj fields => by
    rw [sorted, reshape, sorted, sortedFields_eq (sortFields _), ← sortFields_map sorted,
      ← sortedFields_eq, sortedFields_canonical fields, sortKeys_sortFields]
  | .null | .bool _ | .int _ | .float _ | .str _ | .time _ => rfl

theorem sortedItems_canonical : ∀ items : List Json,
    sortedItems (reshapeItems .float items) = sortedItems items
  | [] => rfl
  | j :: rest => by
    rw [sortedItems, reshapeItems, sortedItems, sorted_canonical j, sortedItems_canonical rest]

theorem sortedFields_canonical : ∀ fields : List (String × Json),
    sortedFields (reshapeFields .float fields) = sortedFields fields
  | [] => rfl
  | (k, j) :: rest => by
    rw [sortedFields, reshapeFields, sortedFields, sorted_canonical j, sortedFields_canonical rest]
end

/-! ## The text of a value -/

/-- `json.dumps(value, sort_keys=True, separators=(",", ":"))`. -/
def canonicalText (ensureAscii : Bool) (j : Json) : String :=
  String.ofList (dumpChars ensureAscii j.sorted)

/-- **The text determines the value**, up to the order of its keys. -/
theorem canonicalText_eq_iff {ensureAscii : Bool} {a b : Json} :
    canonicalText ensureAscii a = canonicalText ensureAscii b ↔ a.canonical = b.canonical := by
  have hnil : NumberEnd [] := fun _ _ h => (nomatch h)
  constructor
  · intro h
    have hsorted := (dumpChars_code a.sorted b.sorted [] [] hnil hnil
      (by rw [String.ofList_injective h])).1
    unfold canonical
    rw [← canonical_sorted a, hsorted, canonical_sorted b]
  · intro h
    unfold canonicalText
    unfold canonical at h
    rw [← sorted_canonical a, h, sorted_canonical b]

/-- Values with the keys of some objects, at any depth, in another order. -/
inductive Reordered : Json → Json → Prop
  | refl (j : Json) : Reordered j j
  | trans {a b c : Json} : Reordered a b → Reordered b c → Reordered a c
  | item {a b : Json} (before after : List Json) :
    Reordered a b → Reordered (.arr (before ++ a :: after)) (.arr (before ++ b :: after))
  | field {a b : Json} (before after : List (String × Json)) (key : String) :
    Reordered a b →
      Reordered (.obj (before ++ (key, a) :: after)) (.obj (before ++ (key, b) :: after))
  | keys {fields fields' : List (String × Json)} :
    (fields.map Prod.fst).Nodup → fields.Perm fields' → Reordered (.obj fields) (.obj fields')

theorem sortFields_perm_eq {fields fields' : List (String × Json)}
    (hkeys : (fields.map Prod.fst).Nodup) (hperm : fields.Perm fields') :
    sortFields fields = sortFields fields' := by
  have : Std.Total fun a b : String × Json => keyBefore a.1 b.1 = true :=
    ⟨fun a b => keyBefore_total a.1 b.1⟩
  have : IsTrans (String × Json) fun a b => keyBefore a.1 b.1 = true :=
    ⟨fun _ _ _ => keyBefore_trans⟩
  have hsame : (sortFields fields).Perm (sortFields fields') :=
    (sortFields_perm fields).trans (hperm.trans (sortFields_perm fields').symm)
  refine hsame.eq_of_pairwise (fun a b ha hb hab hba => ?_)
    (List.pairwise_insertionSort _ fields) (List.pairwise_insertionSort _ fields')
  have hb' : b ∈ fields := hperm.mem_iff.mpr ((sortFields_perm fields').mem_iff.mp hb)
  exact List.inj_on_of_nodup_map hkeys ((sortFields_perm fields).mem_iff.mp ha) hb'
    (keyBefore_antisymm hab hba)

/-- **Reordered keys** leave the text as it is. -/
theorem Reordered.canonical_eq {a b : Json} (h : Reordered a b) : a.canonical = b.canonical := by
  induction h with
  | refl => rfl
  | trans _ _ ih ih' => exact ih.trans ih'
  | item before after _ ih =>
    unfold canonical at ih ⊢
    rw [reshape_arr, reshape_arr, List.map_append, List.map_append, List.map_cons, List.map_cons, ih]
  | field before after key _ ih =>
    unfold canonical at ih ⊢
    rw [reshape_obj, reshape_obj, List.map_append, List.map_append, List.map_cons, List.map_cons, ih]
  | keys hkeys hperm =>
    unfold canonical
    rw [reshape_obj, reshape_obj]
    refine congrArg Json.obj (sortFields_perm_eq ?_ (hperm.map _))
    rw [List.map_map]
    exact hkeys

example : canonicalText false (.obj [("name", .str "Köln\n"), ("a", .arr [.int (-5), .null])]) =
    "\x7b\"a\":[-5,null],\"name\":\"Köln\\n\"\x7d" := by decide +kernel

example : canonicalText true (.arr [.str "ö", .float (PyFloat.ofDecimal false 15 (-1)), .bool true]) =
    "[\"\\u00f6\",1.5,true]" := by decide +kernel

end Json

end ProofAgent.Base
