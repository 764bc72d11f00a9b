import ProofAgent.Base.RegexLines

/-! # Where the matches are

A success of an expression is at a later place of the same text, and the matches of a scan lie one
after another in it. -/
namespace ProofAgent.Base

/-- The text that is taken on the way from a place to a later one. -/
structure Cursor.Took (c d : Cursor) (taken : List Char) : Prop where
  after : c.after = taken ++ d.after
  before : d.before = taken.reverse ++ c.before

namespace Cursor.Took

variable {c d e : Cursor} {taken taken' : List Char}

theorem refl (c : Cursor) : c.Took c [] := ⟨rfl, rfl⟩

theorem one {x : Char} {rest : List Char} (h : c.after = x :: rest) :
    c.Took { c with before := x :: c.before, after := rest } [x] :=
  ⟨h, rfl⟩

theorem trans (h : c.Took d taken) (h' : d.Took e taken') : c.Took e (taken ++ taken') := by
  constructor
  · rw [h.after, h'.after, List.append_assoc]
  · rw [h'.before, h.before, List.reverse_append, List.append_assoc]

/-- What was taken is what lies between. -/
theorem upto_eq (h : c.Took d taken) : c.upto d = taken := by
  unfold Cursor.upto
  rw [h.after, List.length_append, Nat.add_sub_cancel, List.take_left]

theorem length_eq (h : c.Took d taken) : c.after.length = taken.length + d.after.length := by
  rw [h.after, List.length_append]

end Cursor.Took

namespace Regex

/-! ## What a success takes -/

theorem mem_run_seq {r s : Regex} {c d : Cursor} :
    d ∈ (seq r s).run c ↔ ∃ e ∈ r.run c, d ∈ s.run e :=
  List.mem_flatMap

theorem mem_run_alt {r s : Regex} {c d : Cursor} :
    d ∈ (alt r s).run c ↔ d ∈ r.run c ∨ d ∈ s.run c :=
  List.mem_append

theorem mem_run_group {r : Regex} {c d : Cursor} :
    d ∈ (group r).run c ↔ ∃ e ∈ r.run c, d = { e with group := some (c.upto e) } := by
  show d ∈ (r.run c).map _ ↔ _
  rw [List.mem_map]
  exact exists_congr fun e => and_congr_right fun _ => eq_comm

theorem mem_run_between {p : Option Char → Option Char → Bool} {c d : Cursor} :
    d ∈ (between p).run c ↔ d = c ∧ p c.before.head? c.after.head? = true := by
  show d ∈ (if p c.before.head? c.after.head? then [c] else []) ↔ _
  split
  · rename_i h
    rw [List.mem_singleton, h]
    exact (and_iff_left rfl).symm
  · rename_i h
    exact iff_of_false List.not_mem_nil fun hd => h hd.2

theorem mem_run_char {p : Char → Bool} {c d : Cursor} :
    d ∈ (char p).run c ↔ ∃ x rest, c.after = x :: rest ∧ p x = true ∧
      d = { c with before := x :: c.before, after := rest } := by
  obtain ⟨before, after, g⟩ := c
  cases after with
  | nil => exact iff_of_false List.not_mem_nil fun ⟨_, _, h, _⟩ => nomatch h
  | cons x rest =>
    show d ∈ (if p x then [_] else []) ↔ _
    split
    · rename_i h
      rw [List.mem_singleton]
      constructor
      · exact fun hd => ⟨x, rest, rfl, h, hd⟩
      · rintro ⟨_, _, heq, _, rfl⟩
        cases heq
        rfl
    · rename_i h
      refine iff_of_false List.not_mem_nil ?_
      rintro ⟨_, _, heq, hx, _⟩
      cases heq
      exact h hx

/-- What holds of a way of no step, and of a step and a way that hold it, holds of a repetition. -/
theorem repeatRun_induction {step : Cursor → List Cursor} {P : Nat → Cursor → Cursor → Prop}
    (refl : ∀ c, P 0 c c)
    (step_trans : ∀ n c d e, d ∈ step c → d.after.length < c.after.length → P (n - 1) d e → P n c e) :
    ∀ {fuel min : Nat} {max : Option Nat} {c e : Cursor}, e ∈ repeatRun step fuel min max c →
      P min c e
  | 0, min, max, c, e, h => by
    unfold repeatRun at h
    split at h
    · rename_i hmin
      rw [hmin, List.mem_singleton.mp h]
      exact refl c
    · exact absurd h List.not_mem_nil
  | fuel + 1, min, max, c, e, h => by
    unfold repeatRun at h
    rcases List.mem_append.mp h with h | h
    · split at h
      · exact absurd h List.not_mem_nil
      · obtain ⟨d, hd, he⟩ := List.mem_flatMap.mp h
        obtain ⟨hd, hshorter⟩ := List.mem_filter.mp hd
        exact step_trans min c d e hd (of_decide_eq_true hshorter)
          (repeatRun_induction refl step_trans he)
    · split at h
      · rename_i hmin
        rw [hmin, List.mem_singleton.mp h]
        exact refl c
      · exact absurd h List.not_mem_nil

/-- A success is at a later place of the text. -/
theorem run_took : ∀ {r : Regex} {c d : Cursor}, d ∈ r.run c → ∃ taken, c.Took d taken
  | nil, c, d, h => by
    obtain rfl := List.mem_singleton.mp h
    exact ⟨[], .refl d⟩
  | char p, c, d, h => by
    obtain ⟨x, rest, hafter, _, rfl⟩ := mem_run_char.mp h
    exact ⟨[x], hafter, rfl⟩
  | between p, c, d, h => by
    obtain ⟨rfl, _⟩ := mem_run_between.mp h
    exact ⟨[], .refl d⟩
  | seq r s, c, d, h => by
    obtain ⟨e, he, hd⟩ := mem_run_seq.mp h
    obtain ⟨_, he⟩ := run_took he
    obtain ⟨_, hd⟩ := run_took hd
    exact ⟨_, he.trans hd⟩
  | alt r s, c, d, h => by
    rcases mem_run_alt.mp h with h | h
    · exact run_took h
    · exact run_took h
  | many r min max, c, d, h =>
    repeatRun_induction (P := fun _ c d => ∃ taken, c.Took d taken) (fun c => ⟨[], .refl c⟩)
      (fun _ _ _ _ hd _ he => by
        obtain ⟨_, hd⟩ := run_took hd
        obtain ⟨_, he⟩ := he
        exact ⟨_, hd.trans he⟩) h
  | group r, c, d, h => by
    obtain ⟨e, he, rfl⟩ := mem_run_group.mp h
    obtain ⟨taken, he⟩ := run_took he
    exact ⟨taken, he.after, he.before⟩

/-! ## Expressions without groups -/

def NoGroup : Regex → Prop
  | nil | char _ | between _ => True
  | seq r s | alt r s => r.NoGroup ∧ s.NoGroup
  | many r _ _ => r.NoGroup
  | group _ => False

theorem run_group : ∀ {r : Regex}, r.NoGroup → ∀ {c d : Cursor}, d ∈ r.run c → d.group = c.group
  | nil, _, c, d, h => by rw [List.mem_singleton.mp h]
  | char p, _, c, d, h => by
    obtain ⟨x, rest, _, _, rfl⟩ := mem_run_char.mp h
    rfl
  | between p, _, c, d, h => by rw [(mem_run_between.mp h).1]
  | seq r s, hr, c, d, h => by
    obtain ⟨e, he, hd⟩ := mem_run_seq.mp h
    rw [run_group hr.2 hd, run_group hr.1 he]
  | alt r s, hr, c, d, h => by
    rcases mem_run_alt.mp h with h | h
    · exact run_group hr.1 h
    · exact run_group hr.2 h
  | many r min max, hr, c, d, h =>
    repeatRun_induction (P := fun _ c d => d.group = c.group) (fun _ => rfl)
      (fun _ _ _ _ hd _ he => he.trans (run_group (show r.NoGroup from hr) hd)) h

/-! ## Words -/

/-- A repetition of a class takes characters of the class. -/
theorem run_many_char {p : Char → Bool} {min : Nat} {max : Option Nat} {c d : Cursor}
    (h : d ∈ (many (char p) min max).run c) :
    ∃ taken, c.Took d taken ∧ (∀ x ∈ taken, p x = true) ∧ min ≤ taken.length := by
  refine repeatRun_induction (P := fun n c d => ∃ taken, c.Took d taken ∧
    (∀ x ∈ taken, p x = true) ∧ n ≤ taken.length) (fun c => ⟨[], .refl c, nofun, Nat.le_refl _⟩)
    (fun n c d e hd _ he => ?_) h
  obtain ⟨x, rest, hafter, hx, rfl⟩ := mem_run_char.mp hd
  obtain ⟨taken, htook, hall, hlength⟩ := he
  refine ⟨x :: taken, ?_, List.forall_mem_cons.mpr ⟨hx, hall⟩, ?_⟩
  · exact (Cursor.Took.one hafter).trans htook
  · rw [List.length_cons]
    omega

/-- A text takes itself. -/
theorem run_letters : ∀ {letters : List Char} {c d : Cursor},
    d ∈ (letters.foldr (fun x r => seq (one x) r) nil).run c → c.Took d letters
  | [], c, d, h => by
    obtain rfl := List.mem_singleton.mp h
    exact .refl d
  | x :: rest, c, d, h => by
    obtain ⟨e, he, hd⟩ := mem_run_seq.mp h
    obtain ⟨y, rest', hafter, hy, rfl⟩ := mem_run_char.mp he
    obtain rfl := of_decide_eq_true hy
    exact (Cursor.Took.one hafter).trans (run_letters hd)

theorem run_text {s : String} {c d : Cursor} (h : d ∈ (text s).run c) : c.Took d s.toList :=
  run_letters h

/-! ## Scanning -/

theorem matchAt_mem {r : Regex} {before after : List Char} {d : Cursor}
    (h : r.matchAt before after = some d) : d ∈ r.run { before, after } :=
  List.mem_of_mem_head? (Option.filter_eq_some_iff.mp h).1

/-- A match of a scan is a success at its place in the text. -/
structure MatchOf (r : Regex) (text : List Char) (m : Match) : Prop where
  parts : m.before ++ m.text ++ m.after = text
  success : ∃ d ∈ r.run ⟨m.before.reverse, m.text ++ m.after, none⟩,
    d.after = m.after ∧ d.group = m.group

theorem matchOf_of_mem {r : Regex} {m : Match} : ∀ {fuel : Nat} {before after : List Char},
    Piece.found m ∈ r.piecesFrom fuel before after → r.MatchOf (before.reverse ++ after) m
  | 0, _, _, h => absurd h List.not_mem_nil
  | fuel + 1, before, after, h => by
    unfold piecesFrom at h
    split at h
    · rename_i d hd
      obtain ⟨taken, htook⟩ := run_took (matchAt_mem hd)
      have hafter : after = taken ++ d.after := htook.after
      have hbefore : d.before = taken.reverse ++ before := htook.before
      rcases List.mem_cons.mp h with h | h
      · obtain rfl : m = _ := Piece.found.inj h
        rw [htook.upto_eq]
        refine ⟨?_, d, ?_, rfl, rfl⟩
        · rw [hafter, List.append_assoc]
        · show d ∈ r.run ⟨before.reverse.reverse, taken ++ d.after, none⟩
          rw [List.reverse_reverse, ← hafter]
          exact matchAt_mem hd
      · have hrest := matchOf_of_mem h
        rw [hbefore, List.reverse_append, List.reverse_reverse, List.append_assoc, ← hafter] at hrest
        exact hrest
    · split at h
      · exact absurd h List.not_mem_nil
      · rename_i x rest _
        rcases List.mem_cons.mp h with h | h
        · cases h
        · have hrest := matchOf_of_mem h
          rw [List.reverse_cons, List.append_assoc] at hrest
          exact hrest

theorem matchOf_findAll {r : Regex} {text : List Char} {m : Match} (h : m ∈ r.findAll text) :
    r.MatchOf text m := by
  obtain ⟨piece, hpiece, hm⟩ := List.mem_filterMap.mp h
  cases piece with
  | plain c => cases hm
  | found m' =>
    obtain rfl := Option.some.inj hm
    exact (matchOf_of_mem hpiece : r.MatchOf (([] : List Char).reverse ++ text) m')

/-! ## Repetitions -/

/-- A number of steps, each of which takes something. -/
inductive Steps (step : Cursor → List Cursor) : Nat → Cursor → Cursor → Prop where
  | zero (c : Cursor) : Steps step 0 c c
  | succ {n : Nat} {c d e : Cursor} : d ∈ step c → d.after.length < c.after.length →
      Steps step n d e → Steps step (n + 1) c e

theorem steps_of_mem {step : Cursor → List Cursor} : ∀ {fuel min : Nat} {max : Option Nat}
    {c e : Cursor}, e ∈ repeatRun step fuel min max c →
    ∃ n, Steps step n c e ∧ min ≤ n ∧ ∀ m ∈ max, n ≤ m
  | 0, min, max, c, e, h => by
    unfold repeatRun at h
    split at h
    · rename_i hmin
      rw [List.mem_singleton.mp h]
      exact ⟨0, .zero c, Nat.le_of_eq hmin, fun _ _ => Nat.zero_le _⟩
    · exact absurd h List.not_mem_nil
  | fuel + 1, min, max, c, e, h => by
    unfold repeatRun at h
    rcases List.mem_append.mp h with h | h
    · split at h
      · exact absurd h List.not_mem_nil
      · rename_i hmax
        obtain ⟨d, hd, he⟩ := List.mem_flatMap.mp h
        obtain ⟨hd, hshorter⟩ := List.mem_filter.mp hd
        obtain ⟨n, hsteps, hn, hbound⟩ := steps_of_mem he
        refine ⟨n + 1, .succ hd (of_decide_eq_true hshorter) hsteps, by omega, ?_⟩
        intro m hm
        obtain rfl := Option.mem_def.mp hm
        have hpos : m ≠ 0 := fun h0 => hmax (by rw [h0])
        have := hbound (m - 1) rfl
        omega
    · split at h
      · rename_i hmin
        rw [List.mem_singleton.mp h]
        exact ⟨0, .zero c, Nat.le_of_eq hmin, fun _ _ => Nat.zero_le _⟩
      · exact absurd h List.not_mem_nil

theorem mem_of_steps {step : Cursor → List Cursor} : ∀ {fuel n min : Nat} {max : Option Nat}
    {c e : Cursor}, Steps step n c e → c.after.length < fuel → min ≤ n → (∀ m ∈ max, n ≤ m) →
    e ∈ repeatRun step fuel min max c
  | fuel + 1, 0, min, max, c, e, h, _, hmin, _ => by
    cases h
    unfold repeatRun
    refine List.mem_append_right _ ?_
    rw [if_pos (Nat.le_zero.mp hmin)]
    exact List.mem_singleton.mpr rfl
  | fuel + 1, n + 1, min, max, c, e, h, hfuel, hmin, hmax => by
    cases h with
    | succ hd hshorter hrest =>
      rename_i d
      unfold repeatRun
      refine List.mem_append_left _ ?_
      rw [if_neg (fun h0 : max = some 0 => absurd (hmax 0 h0) (by omega))]
      refine List.mem_flatMap.mpr ⟨d, List.mem_filter.mpr ⟨hd, decide_eq_true hshorter⟩, ?_⟩
      refine mem_of_steps hrest (by omega) (by omega) fun m hm => ?_
      obtain ⟨m', hm', rfl⟩ := Option.map_eq_some_iff.mp hm
      have := hmax m' hm'
      omega

theorem mem_run_many {r : Regex} {min : Nat} {max : Option Nat} {c e : Cursor} :
    e ∈ (many r min max).run c ↔ ∃ n, Steps r.run n c e ∧ min ≤ n ∧ ∀ m ∈ max, n ≤ m :=
  ⟨steps_of_mem, fun ⟨_, hsteps, hmin, hmax⟩ =>
    mem_of_steps hsteps (Nat.lt_succ_self _) hmin hmax⟩

theorem Steps.length_le {step : Cursor → List Cursor} {n : Nat} {c e : Cursor}
    (h : Steps step n c e) : e.after.length + n ≤ c.after.length := by
  induction h with
  | zero c => exact Nat.le_refl _
  | succ _ hshorter _ ih => omega

/-- What is left of at most one element. -/
theorem filter_one {cs : List Cursor} (h : cs.length ≤ 1) (p : Cursor → Bool) :
    cs.filter p = [] ∨ ∃ d, cs.filter p = [d] := by
  have hlength := Nat.le_trans (List.length_filter_le p cs) h
  cases hcs : cs.filter p with
  | nil => exact .inl rfl
  | cons d rest =>
    rw [hcs, List.length_cons] at hlength
    obtain rfl : rest = [] := List.eq_nil_of_length_eq_zero (by omega)
    exact .inr ⟨d, rfl⟩

/-- **The longest first**: where a step has one success at most, every later success of a repetition
is one from which another step is possible. -/
theorem repeatRun_pairwise {step : Cursor → List Cursor} (one : ∀ c, (step c).length ≤ 1) :
    ∀ (fuel min : Nat) (max : Option Nat) (c : Cursor), (repeatRun step fuel min max c).Pairwise
      fun a b => a.after.length < b.after.length ∧ step b ≠ []
  | 0, min, max, c => by
    unfold repeatRun
    split
    · exact List.pairwise_singleton _ _
    · exact List.Pairwise.nil
  | fuel + 1, min, max, c => by
    unfold repeatRun
    refine List.pairwise_append.mpr ⟨?_, ?_, fun a ha b hb => ?_⟩
    · split
      · exact List.Pairwise.nil
      · rcases filter_one (one c) fun d => decide (d.after.length < c.after.length) with hd | ⟨d, hd⟩
        · rw [hd]
          exact List.Pairwise.nil
        · rw [hd, List.flatMap_singleton]
          exact repeatRun_pairwise one _ _ _ d
    · split
      · exact List.pairwise_singleton _ _
      · exact List.Pairwise.nil
    · split at hb
      · obtain rfl := List.mem_singleton.mp hb
        split at ha
        · exact absurd ha List.not_mem_nil
        · obtain ⟨d, hd, ha⟩ := List.mem_flatMap.mp ha
          obtain ⟨hd, hshorter⟩ := List.mem_filter.mp hd
          obtain ⟨n, hsteps, _⟩ := steps_of_mem ha
          have hlength := hsteps.length_le
          have hshorter := of_decide_eq_true hshorter
          exact ⟨by omega, List.ne_nil_of_mem hd⟩
      · exact absurd hb List.not_mem_nil

theorem run_char_length {p : Char → Bool} (c : Cursor) : ((char p).run c).length ≤ 1 := by
  obtain ⟨before, after, g⟩ := c
  cases after with
  | nil => exact Nat.zero_le _
  | cons x rest =>
    show (if p x then [_] else [] : List Cursor).length ≤ 1
    split <;> simp

/-- As many steps as there may be and must be. -/
theorem repeatRun_exact_length {step : Cursor → List Cursor} (one : ∀ c, (step c).length ≤ 1) :
    ∀ (fuel n : Nat) (c : Cursor), (repeatRun step fuel n (some n) c).length ≤ 1
  | 0, n, c => by
    unfold repeatRun
    split <;> simp
  | fuel + 1, 0, c => by
    unfold repeatRun
    simp
  | fuel + 1, n + 1, c => by
    unfold repeatRun
    rw [if_neg (by simp), if_neg (Nat.succ_ne_zero n), List.append_nil]
    rcases filter_one (one c) fun d => decide (d.after.length < c.after.length) with hd | ⟨d, hd⟩
    · rw [hd]
      exact Nat.zero_le _
    · rw [hd, List.flatMap_singleton]
      exact repeatRun_exact_length one fuel n d

theorem run_seq_length {r s : Regex} (hr : ∀ c, (r.run c).length ≤ 1)
    (hs : ∀ c, (s.run c).length ≤ 1) (c : Cursor) : ((seq r s).run c).length ≤ 1 := by
  show ((r.run c).flatMap s.run).length ≤ 1
  have hone := filter_one (hr c) fun _ => true
  rw [List.filter_true] at hone
  rcases hone with hd | ⟨d, hd⟩
  · rw [hd]
    exact Nat.zero_le _
  · rw [hd, List.flatMap_singleton]
    exact hs d

/-- Steps of a class take characters of the class. -/
theorem steps_char {p : Char → Bool} {n : Nat} {c e : Cursor} : Steps (char p).run n c e ↔
    ∃ taken, c.Took e taken ∧ e.group = c.group ∧ (∀ x ∈ taken, p x = true) ∧ taken.length = n := by
  constructor
  · intro h
    induction h with
    | zero c => exact ⟨[], .refl c, rfl, nofun, rfl⟩
    | succ hd _ _ ih =>
      obtain ⟨x, rest, hafter, hx, rfl⟩ := mem_run_char.mp hd
      obtain ⟨taken, htook, hgroup, hall, hlength⟩ := ih
      refine ⟨x :: taken, (Cursor.Took.one hafter).trans htook, hgroup,
        List.forall_mem_cons.mpr ⟨hx, hall⟩, ?_⟩
      rw [List.length_cons, hlength]
  · rintro ⟨taken, htook, hgroup, hall, rfl⟩
    induction taken generalizing c with
    | nil =>
      obtain ⟨before, after, g⟩ := c
      obtain ⟨before', after', g'⟩ := e
      obtain ⟨hafter, hbefore⟩ := htook
      obtain rfl : after = after' := hafter
      obtain rfl : before' = before := hbefore
      obtain rfl : g' = g := hgroup
      exact .zero _
    | cons x taken ih =>
      obtain ⟨hx, hall⟩ := List.forall_mem_cons.mp hall
      have hafter : c.after = x :: (taken ++ e.after) := htook.after
      refine .succ (mem_run_char.mpr ⟨x, _, hafter, hx, rfl⟩) ?_ (ih ⟨rfl, ?_⟩ hgroup hall)
      · rw [hafter]
        simp
      · rw [htook.before, List.reverse_cons, List.append_assoc]
        rfl

/-- Two places in a text where the one is not before the other. -/
def Longest (a b : Cursor) : Prop := a.after.length ≤ b.after.length

theorem pairwise_of_length_le_one {cs : List Cursor} {R : Cursor → Cursor → Prop}
    (h : cs.length ≤ 1) : cs.Pairwise R := by
  match cs with
  | [] => exact List.Pairwise.nil
  | [d] => exact List.pairwise_singleton _ _
  | _ :: _ :: _ => exact absurd h (by simp)

theorem opt_run (r : Regex) (c : Cursor) :
    (opt r).run c = ((r.run c).filter fun d => d.after.length < c.after.length) ++ [c] := by
  have hlast : ∀ (fuel : Nat) (d : Cursor), repeatRun r.run fuel 0 (some 0) d = [d] := by
    intro fuel d
    cases fuel <;> rfl
  have hmore : ∀ (fuel : Nat) (ds : List Cursor), ds.flatMap (repeatRun r.run fuel 0 (some 0)) = ds := by
    intro fuel ds
    rw [funext (hlast fuel), List.flatMap_singleton']
  show repeatRun r.run (c.after.length + 1) 0 (some 1) c = _
  unfold repeatRun
  simp [hmore]

end Regex

end ProofAgent.Base
