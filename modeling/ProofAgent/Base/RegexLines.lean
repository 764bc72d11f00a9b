import ProofAgent.Base.Regex

/-! # Expressions within lines

An expression that takes no newline, and that takes the ends of a text for those of a line, finds
in a text what it finds in each of its lines. The same holds of any other separator. -/
namespace ProofAgent.Base

/-- The text within a longer one. -/
def Cursor.embed (earlier later : List Char) (c : Cursor) : Cursor :=
  { c with before := c.before ++ earlier, after := c.after ++ later }

namespace Regex

/-- The expression does not look across a separator. -/
def Apart (separator : Char) : Regex → Prop
  | nil => True
  | char p => p separator = false
  | between p => (∀ before, p before none = p before (some separator)) ∧
      ∀ after, p none after = p (some separator) after
  | seq r s => r.Apart separator ∧ s.Apart separator
  | alt r s => r.Apart separator ∧ s.Apart separator
  | many r _ _ => r.Apart separator
  | group r => r.Apart separator

/-- The expression does not look across the end of a line. -/
def InLine : Regex → Prop
  | nil => True
  | char p => p '\n' = false
  | between p => (∀ before, p before none = p before (some '\n')) ∧
      ∀ after, p none after = p (some '\n') after
  | seq r s => r.InLine ∧ s.InLine
  | alt r s => r.InLine ∧ s.InLine
  | many r _ _ => r.InLine
  | group r => r.InLine

theorem InLine.apart : ∀ {r : Regex}, r.InLine → r.Apart '\n'
  | nil, _ => trivial
  | char _, h => h
  | between _, h => h
  | seq _ _, h => ⟨h.1.apart, h.2.apart⟩
  | alt _ _, h => ⟨h.1.apart, h.2.apart⟩
  | many r _ _, h => InLine.apart (r := r) h
  | group r, h => InLine.apart (r := r) h

/-! ## Fuel -/

/-- More fuel than there is text makes no difference. -/
theorem repeatRun_fuel {step : Cursor → List Cursor} : ∀ {fuel fuel' min : Nat} {max : Option Nat}
    {c : Cursor}, c.after.length < fuel → c.after.length < fuel' →
    repeatRun step fuel min max c = repeatRun step fuel' min max c
  | fuel + 1, fuel' + 1, min, max, c, h, h' => by
    unfold repeatRun
    dsimp only
    congr 1
    split
    · rfl
    · refine congrArg List.flatten (List.map_congr_left fun d hd => ?_)
      have hshorter : d.after.length < c.after.length := by simpa using (List.mem_filter.mp hd).2
      exact repeatRun_fuel (by omega) (by omega)

/-- A match is not empty. -/
theorem matchAt_shorter {r : Regex} {before after : List Char} {d : Cursor}
    (h : r.matchAt before after = some d) : d.after.length < after.length := by
  simpa using (Option.filter_eq_some_iff.mp h).2

theorem matchAt_nil (r : Regex) (before : List Char) : r.matchAt before [] = none := by
  cases h : r.matchAt before [] with
  | none => rfl
  | some d => exact absurd (matchAt_shorter h) (Nat.not_lt_zero _)

theorem piecesFrom_nil (r : Regex) (before : List Char) : ∀ fuel, r.piecesFrom fuel before [] = []
  | 0 => rfl
  | fuel + 1 => by
    unfold piecesFrom
    rw [matchAt_nil]

theorem piecesFrom_fuel {r : Regex} : ∀ {fuel fuel' : Nat} {before after : List Char},
    after.length ≤ fuel → after.length ≤ fuel' →
    r.piecesFrom fuel before after = r.piecesFrom fuel' before after
  | fuel, fuel', before, [], _, _ => by rw [piecesFrom_nil, piecesFrom_nil]
  | fuel + 1, fuel' + 1, before, x :: rest, h, h' => by
    rw [List.length_cons] at h h'
    unfold piecesFrom
    split
    · rename_i d hd
      have hshorter := matchAt_shorter hd
      rw [List.length_cons] at hshorter
      exact congrArg _ (piecesFrom_fuel (by omega) (by omega))
    · exact congrArg _ (piecesFrom_fuel (by omega) (by omega))

/-! ## Embedding -/

section
variable {earlier later : List Char}

theorem repeatRun_embed {step : Cursor → List Cursor}
    (hstep : ∀ c, step (c.embed earlier later) = (step c).map (Cursor.embed earlier later)) :
    ∀ (fuel min : Nat) (max : Option Nat) (c : Cursor),
      repeatRun step fuel min max (c.embed earlier later) =
        (repeatRun step fuel min max c).map (Cursor.embed earlier later)
  | 0, min, max, c => by
    unfold repeatRun
    split <;> rfl
  | fuel + 1, min, max, c => by
    have hlength : ∀ d : Cursor, (d.embed earlier later).after.length <
        (c.embed earlier later).after.length ↔ d.after.length < c.after.length := by
      intro d
      show (d.after ++ later).length < (c.after ++ later).length ↔ _
      rw [List.length_append, List.length_append]
      omega
    unfold repeatRun
    dsimp only
    rw [List.map_append, hstep]
    congr 1
    · split
      · rfl
      · rw [List.filter_map, List.flatMap_map, List.map_flatMap]
        have hfilter : (step c).filter ((fun d => decide (d.after.length <
            (c.embed earlier later).after.length)) ∘ Cursor.embed earlier later) =
            (step c).filter fun d => decide (d.after.length < c.after.length) :=
          List.filter_congr fun d _ => decide_eq_decide.mpr (hlength d)
        rw [hfilter]
        exact congrArg List.flatten (List.map_congr_left fun d _ =>
          repeatRun_embed hstep fuel _ _ d)
    · split <;> rfl

/-- A group within a line matches the same text. -/
theorem upto_embed (c d : Cursor) :
    (c.embed earlier later).upto (d.embed earlier later) = c.upto d := by
  show (c.after ++ later).take ((c.after ++ later).length - (d.after ++ later).length) = _
  rw [List.length_append, List.length_append, Nat.add_sub_add_right,
    List.take_append_of_le_length (Nat.sub_le ..)]
  rfl

variable {separator : Char} (hearlier : earlier = [] ∨ earlier.head? = some separator)
  (hlater : later = [] ∨ later.head? = some separator)
include hearlier hlater

/-- **The successes between separators** are those in the text. -/
theorem run_embed : ∀ {r : Regex}, r.Apart separator → ∀ c : Cursor,
    r.run (c.embed earlier later) = (r.run c).map (Cursor.embed earlier later)
  | nil, _, c => rfl
  | char p, h, ⟨before, x :: rest, g⟩ => by
    show (if p x then [_] else []) = List.map _ (if p x then [_] else [])
    split <;> rfl
  | char p, h, ⟨before, [], g⟩ => by
    have h : p separator = false := h
    rcases hlater with rfl | hlater
    · rfl
    · cases later with
      | nil => rfl
      | cons x rest =>
        obtain rfl : x = separator := Option.some.inj hlater
        show (if p x then [_] else []) = _
        rw [h]
        rfl
  | between p, h, ⟨before, after, g⟩ => by
    have hbefore : ∀ a, p (before ++ earlier).head? a = p before.head? a := by
      intro a
      cases before with
      | cons x rest => rfl
      | nil =>
        rcases hearlier with rfl | hearlier
        · rfl
        · rw [List.nil_append, hearlier]
          exact (h.2 a).symm
    have hafter : ∀ b, p b (after ++ later).head? = p b after.head? := by
      intro b
      cases after with
      | cons x rest => rfl
      | nil =>
        rcases hlater with rfl | hlater
        · rfl
        · rw [List.nil_append, hlater]
          exact (h.1 b).symm
    show (if p (before ++ earlier).head? (after ++ later).head? then [_] else []) =
      List.map _ (if p before.head? after.head? then [_] else [])
    rw [hbefore, hafter]
    split <;> rfl
  | seq r s, h, c => by
    show (r.run (c.embed earlier later)).flatMap s.run = ((r.run c).flatMap s.run).map _
    rw [run_embed h.1, List.flatMap_map, List.map_flatMap]
    exact congrArg List.flatten (List.map_congr_left fun d _ => run_embed h.2 d)
  | alt r s, h, c => by
    show r.run (c.embed earlier later) ++ s.run (c.embed earlier later) = (r.run c ++ s.run c).map _
    rw [run_embed h.1, run_embed h.2, List.map_append]
  | many r min max, h, c => by
    have h : r.Apart separator := h
    show repeatRun r.run ((c.after ++ later).length + 1) min max (c.embed earlier later) =
      (repeatRun r.run (c.after.length + 1) min max c).map _
    have hmore : c.after.length < (c.after ++ later).length + 1 := by
      rw [List.length_append]
      omega
    rw [repeatRun_fuel (Nat.lt_succ_self _) hmore, repeatRun_embed (run_embed h)]
  | group r, h, c => by
    have h : r.Apart separator := h
    show (r.run (c.embed earlier later)).map _ = ((r.run c).map _).map _
    rw [run_embed h, List.map_map, List.map_map]
    refine List.map_congr_left fun d _ => ?_
    show ({ d.embed earlier later with group := some _ } : Cursor) = _
    rw [upto_embed]
    rfl

theorem matchAt_embed {r : Regex} (h : r.Apart separator) (before after : List Char) :
    r.matchAt (before ++ earlier) (after ++ later) =
      (r.matchAt before after).map (Cursor.embed earlier later) := by
  show (r.run (Cursor.embed earlier later { before, after })).head?.filter _ = _
  rw [run_embed hearlier hlater h, List.head?_map, Option.filter_map]
  unfold matchAt
  congr 1
  refine congrArg (fun p => Option.filter p _) (funext fun d => decide_eq_decide.mpr ?_)
  show (d.after ++ later).length < (after ++ later).length ↔ _
  rw [List.length_append, List.length_append]
  omega

end

/-! ## Lines -/

/-- What is after a place, with the texts of the matches rewritten. -/
def rewriteFrom (r : Regex) (f : List Char → List Char) (before after : List Char) : List Char :=
  (r.piecesFrom after.length before after).flatMap fun
    | .plain x => [x]
    | .found m => f m.text

section
variable {r : Regex} {f : List Char → List Char} {before after : List Char}

theorem subBy_eq (text : List Char) : r.subBy (fun m => f m.text) text = rewriteFrom r f [] text := by
  unfold subBy rewriteFrom pieces
  refine congrArg List.flatten (List.map_congr_left fun piece _ => ?_)
  cases piece <;> rfl

theorem piecesFrom_match {fuel : Nat} {d : Cursor} (h : r.matchAt before after = some d) :
    r.piecesFrom (fuel + 1) before after =
      .found ⟨before.reverse, (Cursor.mk before after none).upto d, d.after, d.group⟩ ::
        r.piecesFrom fuel d.before d.after := by
  simp only [piecesFrom, h]

theorem piecesFrom_plain {fuel : Nat} {x : Char} {rest : List Char}
    (h : r.matchAt before (x :: rest) = none) :
    r.piecesFrom (fuel + 1) before (x :: rest) = .plain x :: r.piecesFrom fuel (x :: before) rest := by
  simp only [piecesFrom, h]

theorem rewriteFrom_match {d : Cursor} (h : r.matchAt before after = some d) :
    rewriteFrom r f before after =
      f ((Cursor.mk before after none).upto d) ++ rewriteFrom r f d.before d.after := by
  have hshorter := matchAt_shorter h
  have hfuel : after.length ≤ (after.length - 1) + 1 := by omega
  unfold rewriteFrom
  rw [piecesFrom_fuel (Nat.le_refl _) hfuel, piecesFrom_match h, List.flatMap_cons,
    piecesFrom_fuel (show d.after.length ≤ after.length - 1 by omega) (Nat.le_refl _)]

theorem findFrom_match {d : Cursor} (h : r.matchAt before after = some d) :
    r.findFrom ⟨before, after, none⟩ =
      ⟨before.reverse, (Cursor.mk before after none).upto d, d.after, d.group⟩ ::
        r.findFrom ⟨d.before, d.after, none⟩ := by
  have hshorter := matchAt_shorter h
  have hfuel : after.length ≤ (after.length - 1) + 1 := by omega
  unfold findFrom
  dsimp only
  rw [piecesFrom_fuel (Nat.le_refl _) hfuel, piecesFrom_match h, List.filterMap_cons,
    piecesFrom_fuel (show d.after.length ≤ after.length - 1 by omega) (Nat.le_refl _)]
  rfl

theorem findFrom_plain {x : Char} {rest : List Char} (h : r.matchAt before (x :: rest) = none) :
    r.findFrom ⟨before, x :: rest, none⟩ = r.findFrom ⟨x :: before, rest, none⟩ := by
  unfold findFrom
  dsimp only
  rw [List.length_cons, piecesFrom_plain h, List.filterMap_cons]
  rfl

theorem rewriteFrom_plain {x : Char} {rest : List Char} (h : r.matchAt before (x :: rest) = none) :
    rewriteFrom r f before (x :: rest) = x :: rewriteFrom r f (x :: before) rest := by
  unfold rewriteFrom
  rw [List.length_cons, piecesFrom_plain h, List.flatMap_cons]
  rfl

variable {separator : Char}

/-- What is before a separator does not count. -/
theorem rewriteFrom_earlier (hr : r.Apart separator) {earlier : List Char}
    (hearlier : earlier = [] ∨ earlier.head? = some separator) (n : Nat) :
    ∀ before after : List Char, after.length ≤ n →
      rewriteFrom r f (before ++ earlier) after = rewriteFrom r f before after := by
  induction n with
  | zero =>
    intro before after hlength
    obtain rfl := List.eq_nil_of_length_eq_zero (Nat.le_zero.mp hlength)
    rfl
  | succ n ih =>
    intro before after hlength
    have hembed := matchAt_embed hearlier (.inl rfl) hr before after
    rw [List.append_nil] at hembed
    cases h : r.matchAt before after with
    | some d =>
      have hshorter := matchAt_shorter h
      rw [h] at hembed
      rw [rewriteFrom_match hembed, rewriteFrom_match h]
      show f ((Cursor.mk (before ++ earlier) after none).upto (d.embed earlier [])) ++
        rewriteFrom r f (d.before ++ earlier) (d.after ++ []) = _
      rw [List.append_nil, ih _ _ (by omega)]
      have hupto := @upto_embed earlier [] (Cursor.mk before after none) d
      simp only [Cursor.embed, List.append_nil] at hupto ⊢
      rw [hupto]
    | none =>
      rw [h] at hembed
      cases after with
      | nil => rfl
      | cons x rest =>
        rw [rewriteFrom_plain hembed, rewriteFrom_plain h, ← List.cons_append,
          ih _ _ (by simpa using hlength)]

/-- What is after a separator is treated for itself. -/
theorem rewriteFrom_later (hr : r.Apart separator) (later : List Char) (n : Nat) :
    ∀ before after : List Char, after.length ≤ n →
      rewriteFrom r f before (after ++ separator :: later) =
        rewriteFrom r f before after ++ separator :: rewriteFrom r f [] later := by
  have hseparator : ∀ before, rewriteFrom r f before (separator :: later) =
      separator :: rewriteFrom r f [] later := by
    intro before
    have hembed := matchAt_embed (.inl rfl) (.inr rfl : separator :: later = [] ∨ _) hr before []
    rw [List.append_nil, List.nil_append, matchAt_nil] at hembed
    rw [rewriteFrom_plain hembed,
      ← rewriteFrom_earlier hr (.inr rfl : separator :: before = [] ∨ _) _ [] later (Nat.le_refl _),
      List.nil_append]
  induction n with
  | zero =>
    intro before after hlength
    obtain rfl := List.eq_nil_of_length_eq_zero (Nat.le_zero.mp hlength)
    exact hseparator before
  | succ n ih =>
    intro before after hlength
    have hembed := matchAt_embed (.inl rfl) (.inr rfl : separator :: later = [] ∨ _) hr before after
    rw [List.append_nil] at hembed
    cases h : r.matchAt before after with
    | some d =>
      have hshorter := matchAt_shorter h
      rw [h] at hembed
      rw [rewriteFrom_match hembed, rewriteFrom_match h]
      show f ((Cursor.mk before (after ++ separator :: later) none).upto
        (d.embed [] (separator :: later))) ++
        rewriteFrom r f (d.before ++ []) (d.after ++ separator :: later) = _
      rw [List.append_nil, ih _ _ (by omega), ← List.append_assoc]
      have hupto := @upto_embed [] (separator :: later) (Cursor.mk before after none) d
      simp only [Cursor.embed, List.append_nil] at hupto ⊢
      rw [hupto]
    | none =>
      rw [h] at hembed
      cases after with
      | nil => exact hseparator before
      | cons x rest =>
        rw [List.cons_append] at hembed ⊢
        rw [rewriteFrom_plain hembed, rewriteFrom_plain h, ih _ _ (by simpa using hlength)]
        rfl

/-- **Rewriting part by part.** -/
theorem subBy_apart (hr : r.Apart separator) (a b : List Char) :
    r.subBy (fun m => f m.text) (a ++ separator :: b) =
      r.subBy (fun m => f m.text) a ++ separator :: r.subBy (fun m => f m.text) b := by
  rw [subBy_eq, subBy_eq, subBy_eq, rewriteFrom_later hr b _ [] a (Nat.le_refl _)]

/-- **Replacing line by line.** -/
theorem subBy_lines {replacement : List Char} (hr : r.InLine) (a b : List Char) :
    r.subBy (fun _ => replacement) (a ++ '\n' :: b) =
      r.subBy (fun _ => replacement) a ++ '\n' :: r.subBy (fun _ => replacement) b :=
  subBy_apart (f := fun _ => replacement) hr.apart a b

end

end Regex

end ProofAgent.Base
