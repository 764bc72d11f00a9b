import ProofAgent.Base.RegexMatches

/-! # What a substitution leaves

Where a substitution puts a label in brackets for each match, an expression that looks into no
bracket finds something in the new text only where it finds something in the old one that no match
covers, so long as the matches begin and end where its boundaries hold. -/
namespace ProofAgent.Base

namespace Regex

/-! ## Nothing to find -/

/-- No match begins within what is after a place. -/
def Unfound (r : Regex) (before after : List Char) : Prop :=
  ∀ u v, u ++ v = after → r.matchAt (u.reverse ++ before) v = none

theorem Unfound.here {r : Regex} {before after : List Char} (h : r.Unfound before after) :
    r.matchAt before after = none :=
  h [] after rfl

theorem unfound_nil (r : Regex) (before : List Char) : r.Unfound before [] := by
  intro u v h
  rw [(List.append_eq_nil_iff.mp h).2]
  exact matchAt_nil r _

theorem unfound_cons {r : Regex} {before rest : List Char} {x : Char}
    (hx : r.matchAt before (x :: rest) = none) (h : r.Unfound (x :: before) rest) :
    r.Unfound before (x :: rest) := by
  intro u v huv
  cases u with
  | nil =>
    obtain rfl : v = x :: rest := huv
    exact hx
  | cons y u =>
    obtain ⟨rfl, hrest⟩ := List.cons.inj huv
    rw [List.reverse_cons, List.append_assoc]
    exact h u v hrest

theorem Unfound.tail {r : Regex} {before rest : List Char} {x : Char}
    (h : r.Unfound before (x :: rest)) : r.Unfound (x :: before) rest := by
  intro u v huv
  have hplace := h (x :: u) v (by rw [List.cons_append, huv])
  rwa [List.reverse_cons, List.append_assoc] at hplace

theorem findFrom_nil (r : Regex) (before : List Char) : r.findFrom ⟨before, [], none⟩ = [] := by
  unfold findFrom
  rw [piecesFrom_nil]
  rfl

theorem findFrom_eq_nil {r : Regex} : ∀ {before after : List Char},
    r.findFrom ⟨before, after, none⟩ = [] ↔ r.Unfound before after
  | before, [] => iff_of_true (findFrom_nil r before) (unfound_nil r before)
  | before, x :: rest => by
    cases h : r.matchAt before (x :: rest) with
    | some d =>
      rw [findFrom_match h]
      refine iff_of_false (List.cons_ne_nil _ _) fun hnone => ?_
      rw [hnone.here] at h
      cases h
    | none =>
      rw [findFrom_plain h, findFrom_eq_nil]
      exact ⟨unfound_cons h, Unfound.tail⟩

/-- A search finds nothing just where no match begins. -/
theorem search_eq_none {r : Regex} {text : List Char} :
    r.search text = none ↔ r.Unfound [] text := by
  rw [← findFrom_eq_nil]
  exact List.head?_eq_none_iff

/-- Without a match, nothing is replaced. -/
theorem rewriteFrom_unfound {r : Regex} {f : List Char → List Char} : ∀ {before after : List Char},
    r.Unfound before after → rewriteFrom r f before after = after
  | before, [], _ => by
    unfold rewriteFrom
    rw [piecesFrom_nil]
    rfl
  | before, x :: rest, h => by rw [rewriteFrom_plain h.here, rewriteFrom_unfound h.tail]

theorem subBy_unfound {r : Regex} {replacement text : List Char} (h : r.Unfound [] text) :
    r.subBy (fun _ => replacement) text = text :=
  (subBy_eq (f := fun _ => replacement) text).trans (rewriteFrom_unfound h)

/-- Nothing is found across a separator. -/
theorem Unfound.apart {r : Regex} {separator : Char} (hr : r.Apart separator) {a b : List Char}
    (ha : r.Unfound [] a) (hb : r.Unfound [] b) : r.Unfound [] (a ++ separator :: b) := by
  intro u v huv
  rw [List.append_nil]
  rcases List.append_eq_append_iff.mp huv with ⟨w, rfl, rfl⟩ | ⟨w, rfl, hw⟩
  · have hembed := matchAt_embed (.inl rfl) (.inr rfl : separator :: b = [] ∨ _) hr u.reverse w
    have hnone := ha u w rfl
    rw [List.append_nil] at hembed hnone
    rw [hembed, hnone]
    rfl
  · cases w with
    | nil =>
      obtain rfl : v = separator :: b := hw.symm
      have hembed := matchAt_embed (.inl rfl) (.inr rfl : separator :: b = [] ∨ _) hr a.reverse []
      rw [List.append_nil, List.nil_append, matchAt_nil] at hembed
      rw [List.append_nil]
      exact hembed
    | cons x w =>
      obtain ⟨hx, rfl⟩ := List.cons.inj hw
      have hembed := matchAt_embed (.inr rfl : separator :: a.reverse = [] ∨ _) (.inl rfl) hr
        w.reverse v
      have hnone := hb w v rfl
      rw [List.append_nil] at hembed hnone
      rw [hnone] at hembed
      rw [← hx, List.reverse_append, List.reverse_cons, List.append_assoc]
      exact hembed

/-! ## Expressions that take something -/

/-- Every success takes a character. -/
def Proper : Regex → Prop
  | nil | between _ => False
  | char _ => True
  | seq r s => r.Proper ∨ s.Proper
  | alt r s => r.Proper ∧ s.Proper
  | many _ min _ => 0 < min
  | group r => r.Proper

theorem run_length {r : Regex} {c d : Cursor} (h : d ∈ r.run c) : d.after.length ≤ c.after.length := by
  obtain ⟨taken, htook⟩ := run_took h
  rw [htook.length_eq]
  exact Nat.le_add_left ..

theorem run_proper : ∀ {r : Regex}, r.Proper → ∀ {c d : Cursor}, d ∈ r.run c →
    d.after.length < c.after.length
  | char p, _, c, d, h => by
    obtain ⟨x, rest, hafter, -, rfl⟩ := mem_run_char.mp h
    rw [hafter]
    exact Nat.lt_succ_self _
  | seq r s, hr, c, d, h => by
    obtain ⟨e, he, hd⟩ := mem_run_seq.mp h
    rcases hr with hr | hs
    · exact Nat.lt_of_le_of_lt (run_length hd) (run_proper hr he)
    · exact Nat.lt_of_lt_of_le (run_proper hs hd) (run_length he)
  | alt r s, hr, c, d, h => by
    rcases mem_run_alt.mp h with h | h
    · exact run_proper hr.1 h
    · exact run_proper hr.2 h
  | many r min max, hmin, c, d, h => by
    obtain ⟨n, hsteps, hn, -⟩ := mem_run_many.mp h
    have := hsteps.length_le
    have hpos : 0 < min := hmin
    omega
  | group r, hr, c, d, h => by
    obtain ⟨e, he, rfl⟩ := mem_run_group.mp h
    have hshorter := run_proper (show r.Proper from hr) he
    exact hshorter

theorem matchAt_eq_none {r : Regex} (hr : r.Proper) {before after : List Char} :
    r.matchAt before after = none ↔ r.run ⟨before, after, none⟩ = [] := by
  constructor
  · intro h
    cases hrun : r.run ⟨before, after, none⟩ with
    | nil => rfl
    | cons e rest =>
      have hmem : e ∈ r.run ⟨before, after, none⟩ := by
        rw [hrun]
        exact List.mem_cons_self ..
      have hsome : r.matchAt before after = some e := by
        unfold matchAt
        rw [hrun]
        exact Option.filter_eq_some_iff.mpr ⟨rfl, decide_eq_true (run_proper hr hmem)⟩
      rw [hsome] at h
      cases h
  · intro h
    unfold matchAt
    rw [h]
    rfl

/-- The expression without its boundaries. -/
def relax : Regex → Regex
  | nil | between _ => nil
  | char p => char p
  | seq r s => seq r.relax s.relax
  | alt r s => alt r.relax s.relax
  | many r min max => many r.relax min max
  | group r => group r.relax

theorem relax_proper : ∀ {r : Regex}, r.Proper → r.relax.Proper
  | char _, _ => trivial
  | seq _ _, hr => hr.imp relax_proper relax_proper
  | alt _ _, hr => ⟨relax_proper hr.1, relax_proper hr.2⟩
  | many _ _ _, hmin => hmin
  | group r, hr => relax_proper (r := r) hr

/-- A success does without the boundaries. -/
theorem run_relax : ∀ {r : Regex} {c d : Cursor}, d ∈ r.run c → d ∈ r.relax.run c
  | nil, c, d, h => h
  | char p, c, d, h => h
  | between p, c, d, h => List.mem_singleton.mpr (mem_run_between.mp h).1
  | seq r s, c, d, h => by
    obtain ⟨e, he, hd⟩ := mem_run_seq.mp h
    exact mem_run_seq.mpr ⟨e, run_relax he, run_relax hd⟩
  | alt r s, c, d, h => mem_run_alt.mpr ((mem_run_alt.mp h).imp run_relax run_relax)
  | many r min max, c, d, h => by
    obtain ⟨n, hsteps, hbounds⟩ := mem_run_many.mp h
    refine mem_run_many.mpr ⟨n, ?_, hbounds⟩
    clear h hbounds
    induction hsteps with
    | zero c => exact .zero c
    | succ hd hshorter _ ih => exact .succ (run_relax hd) hshorter ih
  | group r, c, d, h => by
    obtain ⟨e, he, rfl⟩ := mem_run_group.mp h
    exact mem_run_group.mpr ⟨e, run_relax he, rfl⟩

theorem Unfound.of_relax {r : Regex} (hr : r.Proper) {before after : List Char}
    (h : r.relax.Unfound before after) : r.Unfound before after := by
  intro u v huv
  have hnone := (matchAt_eq_none (relax_proper hr)).mp (h u v huv)
  rw [matchAt_eq_none hr, List.eq_nil_iff_forall_not_mem]
  intro d hd
  rw [List.eq_nil_iff_forall_not_mem] at hnone
  exact hnone d (run_relax hd)

/-- All characters that the expression takes are of a kind. -/
def Within (z : Char → Prop) : Regex → Prop
  | nil | between _ => True
  | char p => ∀ x, p x = true → z x
  | seq r s | alt r s => r.Within z ∧ s.Within z
  | many r _ _ => r.Within z
  | group r => r.Within z

theorem run_within {z : Char → Prop} : ∀ {r : Regex}, r.Within z → ∀ {c d : Cursor}, d ∈ r.run c →
    ∃ taken, c.Took d taken ∧ ∀ x ∈ taken, z x
  | nil, _, c, d, h => by
    obtain rfl := List.mem_singleton.mp h
    exact ⟨[], .refl d, nofun⟩
  | char p, hr, c, d, h => by
    obtain ⟨x, rest, hafter, hx, rfl⟩ := mem_run_char.mp h
    refine ⟨[x], .one hafter, fun y hy => ?_⟩
    rw [List.mem_singleton.mp hy]
    exact hr x hx
  | between p, _, c, d, h => by
    obtain ⟨rfl, -⟩ := mem_run_between.mp h
    exact ⟨[], .refl d, nofun⟩
  | seq r s, hr, c, d, h => by
    obtain ⟨e, he, hd⟩ := mem_run_seq.mp h
    obtain ⟨taken, htook, hall⟩ := run_within hr.1 he
    obtain ⟨taken', htook', hall'⟩ := run_within hr.2 hd
    exact ⟨_, htook.trans htook', fun x hx => (List.mem_append.mp hx).elim (hall x) (hall' x)⟩
  | alt r s, hr, c, d, h => (mem_run_alt.mp h).elim (run_within hr.1) (run_within hr.2)
  | many r min max, hr, c, d, h => by
    have hr : r.Within z := hr
    obtain ⟨n, hsteps, -⟩ := mem_run_many.mp h
    clear h
    induction hsteps with
    | zero c => exact ⟨[], .refl c, nofun⟩
    | succ hd _ _ ih =>
      obtain ⟨taken, htook, hall⟩ := run_within hr hd
      obtain ⟨taken', htook', hall'⟩ := ih
      exact ⟨_, htook.trans htook', fun x hx => (List.mem_append.mp hx).elim (hall x) (hall' x)⟩
  | group r, hr, c, d, h => by
    obtain ⟨e, he, rfl⟩ := mem_run_group.mp h
    obtain ⟨taken, htook, hall⟩ := run_within (show r.Within z from hr) he
    exact ⟨taken, ⟨htook.after, htook.before⟩, hall⟩

/-- The text of a match is of the kind. -/
theorem matchAt_within {z : Char → Prop} {r : Regex} (hr : r.Within z) {before m : List Char}
    {d : Cursor} (h : r.matchAt before (m ++ d.after) = some d) : ∀ x ∈ m, z x := by
  obtain ⟨taken, htook, hall⟩ := run_within hr (matchAt_mem h)
  obtain rfl : m = taken := List.append_cancel_right htook.after
  exact hall

/-! ## Boundaries -/

/-- All boundaries of the expression are of a kind. -/
def Betweens (P : (Option Char → Option Char → Bool) → Prop) : Regex → Prop
  | nil | char _ => True
  | between p => P p
  | seq r s | alt r s => r.Betweens P ∧ s.Betweens P
  | many r _ _ => r.Betweens P
  | group r => r.Betweens P

section
variable {P : (Option Char → Option Char → Bool) → Prop} {earlier later whole : List Char}

/-- Boundaries of the kind hold where a text begins within a longer one. -/
def HoldsBefore (P : (Option Char → Option Char → Bool) → Prop) (earlier rest : List Char) : Prop :=
  earlier = [] ∨ ∀ p, P p → p earlier.head? rest.head? = true

/-- Boundaries of the kind hold where a text ends within a longer one. -/
def HoldsAfter (P : (Option Char → Option Char → Bool) → Prop) (before later : List Char) : Prop :=
  later = [] ∨ ∀ p, P p → p before.head? later.head? = true

theorem between_embed (hbefore : HoldsBefore P earlier (whole ++ later))
    (hafter : HoldsAfter P (whole.reverse ++ earlier) later) {p : Option Char → Option Char → Bool}
    (hp : P p) {before after : List Char} (hwhole : before.reverse ++ after = whole)
    (h : p before.head? after.head? = true) :
    p (before ++ earlier).head? (after ++ later).head? = true := by
  cases before with
  | nil =>
    obtain rfl : after = whole := hwhole
    rcases hbefore with rfl | hbefore
    · cases after with
      | cons x rest => exact h
      | nil =>
        rcases hafter with rfl | hafter
        · exact h
        · exact hafter p hp
    · exact hbefore p hp
  | cons y before =>
    cases after with
    | cons x rest => exact h
    | nil =>
      rcases hafter with rfl | hafter
      · exact h
      · have hhead := hafter p hp
        rw [← hwhole, List.append_nil, List.reverse_reverse] at hhead
        exact hhead

theorem run_whole {r : Regex} {c d : Cursor} (h : d ∈ r.run c) : d.whole = c.whole := by
  obtain ⟨taken, htook⟩ := run_took h
  unfold Cursor.whole
  rw [htook.after, htook.before, List.reverse_append, List.reverse_reverse, List.append_assoc]

/-- **A success within a longer text**: what an expression takes of a text it takes of a longer one
whose ends are boundaries. -/
theorem run_embed_mem (hbefore : HoldsBefore P earlier (whole ++ later))
    (hafter : HoldsAfter P (whole.reverse ++ earlier) later) : ∀ {r : Regex}, r.Betweens P →
    ∀ {c d : Cursor}, c.whole = whole → d ∈ r.run c →
      d.embed earlier later ∈ r.run (c.embed earlier later)
  | nil, _, c, d, _, h => by
    obtain rfl := List.mem_singleton.mp h
    exact List.mem_singleton.mpr rfl
  | char p, _, c, d, _, h => by
    obtain ⟨x, rest, hrest, hx, rfl⟩ := mem_run_char.mp h
    refine mem_run_char.mpr ⟨x, rest ++ later, ?_, hx, rfl⟩
    show c.after ++ later = _
    rw [hrest, List.cons_append]
  | between p, hr, c, d, hc, h => by
    obtain ⟨rfl, hp⟩ := mem_run_between.mp h
    exact mem_run_between.mpr ⟨rfl, between_embed hbefore hafter hr hc hp⟩
  | seq r s, hr, c, d, hc, h => by
    obtain ⟨e, he, hd⟩ := mem_run_seq.mp h
    refine mem_run_seq.mpr ⟨_, run_embed_mem hbefore hafter hr.1 hc he, ?_⟩
    exact run_embed_mem hbefore hafter hr.2 ((run_whole he).trans hc) hd
  | alt r s, hr, c, d, hc, h => mem_run_alt.mpr ((mem_run_alt.mp h).imp
      (run_embed_mem hbefore hafter hr.1 hc) (run_embed_mem hbefore hafter hr.2 hc))
  | many r min max, hr, c, d, hc, h => by
    have hr : r.Betweens P := hr
    obtain ⟨n, hsteps, hbounds⟩ := mem_run_many.mp h
    refine mem_run_many.mpr ⟨n, ?_, hbounds⟩
    clear h hbounds
    induction hsteps with
    | zero c => exact .zero _
    | @succ n c d e hd hshorter _ ih =>
      refine .succ (run_embed_mem hbefore hafter hr hc hd) ?_ (ih ((run_whole hd).trans hc))
      show (d.after ++ later).length < (c.after ++ later).length
      simp only [List.length_append]
      omega
  | group r, hr, c, d, hc, h => by
    obtain ⟨e, he, rfl⟩ := mem_run_group.mp h
    have hmem := run_embed_mem hbefore hafter (show r.Betweens P from hr) hc he
    refine mem_run_group.mpr ⟨_, hmem, ?_⟩
    show ({ e.embed earlier later with group := some _ } : Cursor) = _
    rw [upto_embed]

/-- What is not found in a longer text is not found in a part of it that ends at boundaries. -/
theorem Unfound.part {r : Regex} (hproper : r.Proper) (hr : r.Betweens P)
    (hbefore : HoldsBefore P earlier (whole ++ later))
    (hafter : HoldsAfter P (whole.reverse ++ earlier) later)
    (h : ∀ u v, u ++ v = whole → v ≠ [] → r.matchAt (u.reverse ++ earlier) (v ++ later) = none) :
    r.Unfound [] whole := by
  intro u v huv
  rcases eq_or_ne v [] with rfl | hv
  · exact matchAt_nil r _
  rw [matchAt_eq_none hproper, List.eq_nil_iff_forall_not_mem, List.append_nil]
  intro d hd
  have hwhole : (Cursor.mk u.reverse v none).whole = whole := by
    show u.reverse.reverse ++ v = whole
    rw [List.reverse_reverse, huv]
  have hmem := run_embed_mem hbefore hafter hr hwhole hd
  have hnone := (matchAt_eq_none hproper).mp (h u v huv hv)
  show False
  rw [show (Cursor.mk u.reverse v none).embed earlier later =
    ⟨u.reverse ++ earlier, v ++ later, none⟩ from rfl, hnone] at hmem
  exact absurd hmem List.not_mem_nil

end

/-! ## Substitutions -/

/-- Boundaries of the kind hold at both ends of every match. -/
def Edged (P : (Option Char → Option Char → Bool) → Prop) (r : Regex) : Prop :=
  ∀ before after d, r.matchAt before after = some d →
    ∀ p, P p → p before.head? after.head? = true ∧ p d.before.head? d.after.head? = true

section
variable {P : (Option Char → Option Char → Bool) → Prop} {q r : Regex} {opening closing : Char}
  {label : List Char}

/-- The places of a text that its matches do not cover. -/
def UnfoundOutside (q r : Regex) (text : List Char) : Prop :=
  ∀ before after, before.reverse ++ after = text → r.matchAt before after = none →
    q.matchAt before after = none

theorem Unfound.outside {text : List Char} (h : q.Unfound [] text) : q.UnfoundOutside r text := by
  intro before after htext _
  have hplace := h before.reverse after htext
  rwa [List.reverse_reverse, List.append_nil] at hplace

/-- From the end of the last match on: `gap` is what has been passed since. -/
theorem unfound_rewriteFrom (hproper : q.Proper) (hq : q.Betweens P) (hr : r.Edged P)
    (hopening : q.Apart opening) (hclosing : q.Apart closing) (hlabel : q.Unfound [] label)
    {text : List Char} (hout : q.UnfoundOutside r text) (n : Nat) :
    ∀ earlier gap after : List Char, after.length ≤ n →
      earlier.reverse ++ gap ++ after = text →
      HoldsBefore P earlier (gap ++ after) →
      (∀ u v, u ++ v = gap → v ≠ [] → q.matchAt (u.reverse ++ earlier) (v ++ after) = none) →
      q.Unfound [] (gap ++
        rewriteFrom r (fun _ => opening :: (label ++ [closing])) (gap.reverse ++ earlier) after) := by
  induction n with
  | zero =>
    intro earlier gap after hlength _ hbefore hgap
    obtain rfl := List.eq_nil_of_length_eq_zero (Nat.le_zero.mp hlength)
    rw [rewriteFrom_unfound (unfound_nil r _), List.append_nil]
    exact Unfound.part hproper hq hbefore (.inl rfl) hgap
  | succ n ih =>
    intro earlier gap after hlength htext hbefore hgap
    cases h : r.matchAt (gap.reverse ++ earlier) after with
    | some d =>
      have hshorter := matchAt_shorter h
      obtain ⟨taken, htook⟩ := run_took (matchAt_mem h)
      have hafter : after = taken ++ d.after := htook.after
      have hdbefore : d.before = taken.reverse ++ (gap.reverse ++ earlier) := htook.before
      have hedges := hr _ _ _ h
      rw [rewriteFrom_match h]
      have hgapNone : q.Unfound [] gap :=
        Unfound.part hproper hq hbefore (.inr fun p hp => (hedges p hp).1) hgap
      have hrest := ih d.before [] d.after (by omega)
        (by rw [hdbefore, ← htext, hafter]; simp) (.inr fun p hp => (hedges p hp).2)
        fun u v huv hv => absurd (List.append_eq_nil_iff.mp huv).2 hv
      have hlabels := hgapNone.apart hopening (hlabel.apart hclosing hrest)
      simpa only [List.cons_append, List.append_assoc, List.nil_append, List.reverse_nil] using hlabels
    | none =>
      cases after with
      | nil =>
        rw [rewriteFrom_unfound (unfound_nil r _), List.append_nil]
        exact Unfound.part hproper hq hbefore (.inl rfl) hgap
      | cons x rest =>
        rw [rewriteFrom_plain h]
        have hnone := hout (gap.reverse ++ earlier) (x :: rest) (by rw [← htext]; simp) h
        have hstep := ih earlier (gap ++ [x]) rest (by simpa using hlength)
          (by rw [← htext]; simp) (by simpa using hbefore) ?_
        · simpa only [List.reverse_append, List.reverse_cons, List.reverse_nil, List.nil_append,
            List.cons_append, List.append_assoc] using hstep
        intro u v huv hv
        obtain ⟨w, y, rfl⟩ : ∃ w y, v = w ++ [y] := List.eq_nil_or_concat' v |>.resolve_left hv
        rw [← List.append_assoc] at huv
        obtain ⟨rfl, hy⟩ := List.append_inj' huv rfl
        obtain rfl := List.singleton_inj.mp hy
        rw [List.append_assoc, List.singleton_append]
        rcases eq_or_ne w [] with rfl | hw
        · simpa using hnone
        · exact hgap u w rfl hw

/-- **What a substitution leaves**: outside the matches of `r` there is nothing to find, so there is
nothing to find in what is left of the text. -/
theorem unfound_subBy (hproper : q.Proper) (hq : q.Betweens P) (hr : r.Edged P)
    (hopening : q.Apart opening) (hclosing : q.Apart closing) (hlabel : q.Unfound [] label)
    {text : List Char} (hout : q.UnfoundOutside r text) :
    q.Unfound [] (r.subBy (fun _ => opening :: (label ++ [closing])) text) := by
  rw [subBy_eq (f := fun _ => opening :: (label ++ [closing]))]
  have hgap := unfound_rewriteFrom hproper hq hr hopening hclosing hlabel hout _ [] [] text
    (Nat.le_refl _) rfl (.inl rfl) fun u v huv hv => absurd (List.append_eq_nil_iff.mp huv).2 hv
  exact hgap

end

/-! ## Places of a rewritten text -/

/-- A text and the same text with matches replaced: `keep` holds of what is after a character that
stays, and `ok` of a match and what is after it. -/
inductive Rewrites (keep : List Char → Prop) (ok : List Char → List Char → Prop)
    (replacement : List Char) : List Char → List Char → Prop where
  | nil : Rewrites keep ok replacement [] []
  | plain {a b : List Char} (x : Char) : keep (x :: a) → Rewrites keep ok replacement a b →
      Rewrites keep ok replacement (x :: a) (x :: b)
  | found {a b : List Char} (m : List Char) : ok m a → Rewrites keep ok replacement a b →
      Rewrites keep ok replacement (m ++ a) (replacement ++ b)

section
variable {keep : List Char → Prop} {ok : List Char → List Char → Prop} {replacement : List Char}

theorem rewrites_rewriteFrom {r : Regex}
    (hkeep : ∀ before x rest, r.matchAt before (x :: rest) = none → keep (x :: rest))
    (hok : ∀ before d m, r.matchAt before (m ++ d.after) = some d → ok m d.after) (n : Nat) :
    ∀ before after : List Char, after.length ≤ n →
      Rewrites keep ok replacement after (rewriteFrom r (fun _ => replacement) before after) := by
  induction n with
  | zero =>
    intro before after hlength
    obtain rfl := List.eq_nil_of_length_eq_zero (Nat.le_zero.mp hlength)
    rw [rewriteFrom_unfound (unfound_nil r _)]
    exact .nil
  | succ n ih =>
    intro before after hlength
    cases h : r.matchAt before after with
    | some d =>
      have hshorter := matchAt_shorter h
      obtain ⟨taken, htook⟩ := run_took (matchAt_mem h)
      obtain rfl : after = taken ++ d.after := htook.after
      rw [rewriteFrom_match h]
      exact .found taken (hok before d taken h) (ih d.before d.after (by omega))
    | none =>
      cases after with
      | nil =>
        rw [rewriteFrom_unfound (unfound_nil r _)]
        exact .nil
      | cons x rest =>
        rw [rewriteFrom_plain h]
        exact .plain x (hkeep before x rest h) (ih (x :: before) rest (by simpa using hlength))

/-- A character that is not in the label was there before. -/
theorem Rewrites.cons_inv {x : Char} {a b : List Char} (hne : replacement ≠ [])
    (hx : x ∉ replacement) (h : Rewrites keep ok replacement a (x :: b)) :
    ∃ a', a = x :: a' ∧ keep (x :: a') ∧ Rewrites keep ok replacement a' b := by
  generalize hb : x :: b = b' at h
  cases h with
  | nil => cases hb
  | plain y hkeep hrest =>
    obtain ⟨rfl, rfl⟩ := List.cons.inj hb
    exact ⟨_, rfl, hkeep, hrest⟩
  | found m _ _ =>
    obtain ⟨y, rest, rfl⟩ := List.exists_cons_of_ne_nil hne
    obtain ⟨rfl, -⟩ := List.cons.inj hb
    exact absurd (List.mem_cons_self ..) hx

theorem Rewrites.literal_inv (hne : replacement ≠ []) : ∀ {literal a b : List Char},
    (∀ x ∈ literal, x ∉ replacement) → Rewrites keep ok replacement a (literal ++ b) →
    ∃ a', a = literal ++ a' ∧ Rewrites keep ok replacement a' b
  | [], a, b, _, h => ⟨a, rfl, h⟩
  | x :: literal, a, b, hout, h => by
    obtain ⟨hx, hout⟩ := List.forall_mem_cons.mp hout
    obtain ⟨a₁, rfl, -, hrest⟩ := h.cons_inv hne hx
    obtain ⟨a', rfl, hlast⟩ := hrest.literal_inv hne hout
    exact ⟨a', rfl, hlast⟩

/-- What is before a character that is not in the label comes from what was before it. -/
theorem Rewrites.split {z : Char → Prop} (hz : ∀ m a, ok m a → ∀ y ∈ m, z y) {x : Char}
    {a b part : List Char} (hx : x ∉ replacement) (hpart : ∀ y ∈ part, z y)
    (h : Rewrites keep ok replacement a (part ++ x :: b)) :
    ∃ part' a', a = part' ++ a' ∧ (∀ y ∈ part', z y) ∧ Rewrites keep ok replacement a' (x :: b) := by
  generalize hb : part ++ x :: b = b' at h
  induction h generalizing part with
  | nil => exact absurd hb (by simp)
  | @plain a₁ b₁ y hkeep hrest ih =>
    cases part with
    | nil =>
      obtain ⟨rfl, rfl⟩ := List.cons.inj hb
      exact ⟨[], x :: a₁, rfl, nofun, .plain x hkeep hrest⟩
    | cons y' part =>
      obtain ⟨rfl, htail⟩ := List.cons.inj hb
      obtain ⟨hy, hrun⟩ := List.forall_mem_cons.mp hpart
      obtain ⟨part', a', rfl, hall, hlast⟩ := ih hrun htail
      exact ⟨y' :: part', a', rfl, List.forall_mem_cons.mpr ⟨hy, hall⟩, hlast⟩
  | @found a₁ b₁ m hm hrest ih =>
    have hfrom : ∀ w, w ++ x :: b = b₁ → (∀ y ∈ w, z y) → ∃ part' a', m ++ a₁ = part' ++ a' ∧
        (∀ y ∈ part', z y) ∧ Rewrites keep ok replacement a' (x :: b) := by
      intro w hw hall
      obtain ⟨part', a', heq, hall', hlast⟩ := ih hall hw
      refine ⟨m ++ part', a', by rw [heq, List.append_assoc], fun y hy => ?_, hlast⟩
      exact (List.mem_append.mp hy).elim (hz m a₁ hm y) (hall' y)
    rcases List.append_eq_append_iff.mp hb with ⟨w, hw, htail⟩ | ⟨w, rfl, htail⟩
    · cases w with
      | nil => exact hfrom [] htail nofun
      | cons y w =>
        obtain ⟨rfl, -⟩ := List.cons.inj htail
        exact absurd (hw ▸ List.mem_append_right _ (List.mem_cons_self ..)) hx
    · exact hfrom w htail.symm fun y hy => hpart y (List.mem_append_right _ hy)

/-- Where what follows a match is not in a class, a run of the class up to a character of the class
that is not in the label was there before. -/
theorem Rewrites.kept {z : Char → Prop} (hne : replacement ≠ [])
    (hok : ∀ m a, ok m a → (∃ y rest, m = y :: rest ∧ z y) ∧ ∀ y rest, a = y :: rest → ¬ z y)
    {x : Char} {a b part : List Char} (hx : x ∉ replacement) (hzx : z x) (hpart : ∀ y ∈ part, z y)
    (h : Rewrites keep ok replacement a (part ++ x :: b)) :
    ∃ a', a = part ++ a' ∧ Rewrites keep ok replacement a' (x :: b) := by
  generalize hb : part ++ x :: b = b' at h
  induction h generalizing part with
  | nil => exact absurd hb (by simp)
  | @plain a₁ b₁ y hkeep hrest ih =>
    cases part with
    | nil =>
      obtain ⟨rfl, rfl⟩ := List.cons.inj hb
      exact ⟨x :: a₁, rfl, .plain x hkeep hrest⟩
    | cons y' part =>
      obtain ⟨rfl, htail⟩ := List.cons.inj hb
      obtain ⟨a', rfl, hlast⟩ := ih (List.forall_mem_cons.mp hpart).2 htail
      exact ⟨a', rfl, hlast⟩
  | @found a₁ b₁ m hm hrest ih =>
    -- What follows the label starts outside of the class, or ends.
    have hstart : ∀ y rest, b₁ = y :: rest → ¬ z y := by
      intro y rest hb₁ hy
      cases hrest with
      | nil => cases hb₁
      | plain y' _ _ =>
        obtain ⟨rfl, -⟩ := List.cons.inj hb₁
        exact (hok m _ hm).2 _ _ rfl hy
      | found m' hm' _ =>
        obtain ⟨⟨y', rest', rfl, hy'⟩, -⟩ := hok m' _ hm'
        exact (hok m _ hm).2 _ _ rfl hy'
    exfalso
    rcases List.append_eq_append_iff.mp hb with ⟨w, hw, htail⟩ | ⟨w, rfl, htail⟩
    · cases w with
      | nil => exact hstart x b htail.symm hzx
      | cons y w =>
        obtain ⟨rfl, -⟩ := List.cons.inj htail
        exact absurd (hw ▸ List.mem_append_right _ (List.mem_cons_self ..)) hx
    · cases w with
      | nil => exact hstart x b htail hzx
      | cons y w => exact hstart y _ htail (hpart y (List.mem_append_right _ (List.mem_cons_self ..)))

end

/-! ## Greedy ends -/

/-- A repetition of a class stops at a character outside of it, or at the end. -/
theorem star_head {p : Char → Bool} {c d : Cursor} (h : ((star (char p)).run c).head? = some d) :
    ∀ x rest, d.after = x :: rest → p x = false := by
  intro x rest hafter
  by_contra hnot
  have hx : p x = true := by simpa using hnot
  obtain ⟨n, hsteps, -⟩ := mem_run_many.mp (List.mem_of_mem_head? h)
  obtain ⟨taken, htook, hgroup, hall, hn⟩ := steps_char.mp hsteps
  -- One more character would be a longer success, which comes first.
  have hmore : (⟨x :: d.before, rest, d.group⟩ : Cursor) ∈ (star (char p)).run c := by
    refine mem_run_many.mpr ⟨n + 1, steps_char.mpr ⟨taken ++ [x], ⟨?_, ?_⟩, hgroup, ?_, ?_⟩,
      Nat.zero_le _, fun _ h => by cases h⟩
    · rw [htook.after, hafter, List.append_assoc]
      rfl
    · show x :: d.before = _
      rw [htook.before, List.reverse_append]
      rfl
    · intro y hy
      rcases List.mem_append.mp hy with hy | hy
      · exact hall y hy
      · rw [List.mem_singleton.mp hy]
        exact hx
    · rw [List.length_append, hn]
      rfl
  have hpairs := @repeatRun_pairwise (char p).run run_char_length
    (c.after.length + 1) 0 none c
  change ((star (char p)).run c).Pairwise _ at hpairs
  cases hrun : (star (char p)).run c with
  | nil =>
    rw [hrun] at h
    cases h
  | cons e others =>
    rw [hrun] at h hmore hpairs
    obtain rfl : e = d := Option.some.inj h
    rcases List.mem_cons.mp hmore with heq | hmem
    · rw [← heq] at hafter
      simp at hafter
    · have hlonger := ((List.pairwise_cons.mp hpairs).1 _ hmem).1
      rw [hafter, List.length_cons] at hlonger
      dsimp only at hlonger
      omega

theorem star_ne_nil (r : Regex) (c : Cursor) : (star r).run c ≠ [] := by
  have hmem : c ∈ (star r).run c :=
    mem_run_many.mpr ⟨0, .zero c, Nat.le_refl _, fun _ h => by cases h⟩
  exact List.ne_nil_of_mem hmem

theorem seq_star_head {r : Regex} {p : Char → Bool} {c d : Cursor}
    (h : ((seq r (star (char p))).run c).head? = some d) :
    ∀ x rest, d.after = x :: rest → p x = false := by
  have hrun : (seq r (star (char p))).run c = (r.run c).flatMap (star (char p)).run := rfl
  rw [hrun] at h
  cases hfirst : r.run c with
  | nil =>
    rw [hfirst] at h
    cases h
  | cons e others =>
    rw [hfirst, List.flatMap_cons, List.head?_append_of_ne_nil _ (star_ne_nil _ e)] at h
    exact star_head h

end Regex

end ProofAgent.Base
