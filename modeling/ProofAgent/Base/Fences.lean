import Mathlib.Data.List.Infix
import Mathlib.Data.List.TakeDrop

/-! # Fences

A block of a text stands between two fences, which are runs of a mark. A run that is as long as the
opening one, or longer, closes the block, so a block is read back if its fences are longer than
every run within it. -/
namespace ProofAgent.Base.Fence

section
variable (mark : Char)

/-- The length of the run at the start of a text. -/
def runLength (text : List Char) : Nat := (text.takeWhile (· = mark)).length

/-- The length of the longest run. -/
def longestRun : List Char → Nat
  | [] => 0
  | c :: rest => max (runLength mark (c :: rest)) (longestRun rest)

/-- What is before the first run of at least a length, the length of that run, and what is after
it. -/
def next (least : Nat) : List Char → Option (List Char × Nat × List Char)
  | [] => none
  | c :: rest =>
    if least ≤ runLength mark (c :: rest) then
      some ([], runLength mark (c :: rest), (c :: rest).dropWhile (· = mark))
    else (next least rest).map fun found => (c :: found.1, found.2)

/-- The first block of a text, and what is after it. -/
def readBlock (least : Nat) (text : List Char) : Option (List Char × List Char) :=
  (next mark least text).bind fun opening =>
    (next mark opening.2.1 opening.2.2).map fun closing => (closing.1, closing.2.2)

def blocksFrom (least : Nat) : Nat → List Char → List (List Char)
  | 0, _ => []
  | fuel + 1, text =>
    match readBlock mark least text with
    | none => []
    | some (content, rest) => content :: blocksFrom least fuel rest

/-- The blocks of a text whose fences have at least a length. -/
def blocks (least : Nat) (text : List Char) : List (List Char) :=
  blocksFrom mark least text.length text

/-- The text does not start with the mark. -/
def StartsPlain (text : List Char) : Prop := ∀ c ∈ text.head?, c ≠ mark

/-- The text does not end with the mark. -/
def EndsPlain (text : List Char) : Prop := ∀ c ∈ text.getLast?, c ≠ mark

/-- A block between fences of a length. -/
def fenced (n : Nat) (content : List Char) : List Char :=
  List.replicate n mark ++ content ++ List.replicate n mark

end

variable {mark : Char} {least n : Nat} {b after : List Char} {x : Char}

/-! ## Runs -/

theorem runLength_plain (h : x ≠ mark) : runLength mark (x :: b) = 0 := by
  unfold runLength
  rw [List.takeWhile_cons_of_neg (by simpa using h)]
  rfl

theorem runLength_mark : runLength mark (mark :: b) = runLength mark b + 1 := by
  unfold runLength
  rw [List.takeWhile_cons_of_pos (by simp), List.length_cons]

/-- A run ends where a text does that is followed by another character. -/
theorem runLength_append (h : x ≠ mark) : ∀ a : List Char,
    runLength mark (a ++ x :: b) = runLength mark a
  | [] => runLength_plain h
  | c :: rest => by
    by_cases hc : c = mark
    · rw [hc, List.cons_append, runLength_mark, runLength_mark, runLength_append h rest]
    · rw [List.cons_append, runLength_plain hc, runLength_plain hc]

theorem runLength_le_longestRun {text : List Char} : runLength mark text ≤ longestRun mark text := by
  cases text with
  | nil => exact Nat.le_refl _
  | cons c rest => exact Nat.le_max_left ..

theorem longestRun_append (h : x ≠ mark) : ∀ a : List Char,
    longestRun mark (a ++ x :: b) = max (longestRun mark a) (longestRun mark b)
  | [] => by
    show max (runLength mark (x :: b)) (longestRun mark b) = max 0 (longestRun mark b)
    rw [runLength_plain h]
  | c :: rest => by
    show max (runLength mark (c :: rest ++ x :: b)) (longestRun mark (rest ++ x :: b)) =
      max (max (runLength mark (c :: rest)) (longestRun mark rest)) (longestRun mark b)
    rw [runLength_append h, longestRun_append h rest, Nat.max_assoc]

theorem longestRun_cons (h : x ≠ mark) : longestRun mark (x :: b) = longestRun mark b := by
  show max (runLength mark (x :: b)) (longestRun mark b) = _
  rw [runLength_plain h, Nat.zero_max]

/-- The longest run is the first one, or after it. -/
theorem longestRun_first : ∀ text : List Char, longestRun mark text =
    max (runLength mark text) (longestRun mark (text.dropWhile (· = mark)))
  | [] => rfl
  | c :: rest => by
    by_cases hc : c = mark
    · show max (runLength mark (c :: rest)) (longestRun mark rest) = _
      rw [hc, List.dropWhile_cons_of_pos (by simp), longestRun_first rest, runLength_mark]
      omega
    · rw [List.dropWhile_cons_of_neg (by simpa using hc), runLength_plain hc, Nat.zero_max]

theorem le_runLength {k : Nat} : ∀ {text : List Char},
    k ≤ runLength mark text ↔ List.replicate k mark <+: text := by
  induction k with
  | zero => exact iff_of_true (Nat.zero_le _) (List.nil_prefix ..)
  | succ k ih =>
    intro text
    cases text with
    | nil => simp [runLength, List.replicate_succ]
    | cons c rest =>
      rw [List.replicate_succ, List.cons_prefix_cons]
      by_cases hc : c = mark
      · rw [hc, runLength_mark, Nat.add_le_add_iff_right, ih]
        exact (and_iff_right rfl).symm
      · rw [runLength_plain hc]
        exact iff_of_false (Nat.not_succ_le_zero _) fun h => hc h.1.symm

/-- A run is a part of the text. -/
theorem le_longestRun {k : Nat} : ∀ {text : List Char},
    k ≤ longestRun mark text ↔ List.replicate k mark <:+: text
  | [] => by
    rw [List.infix_nil, List.replicate_eq_nil_iff]
    exact Nat.le_zero
  | c :: rest => by
    rw [List.infix_cons_iff, ← le_runLength, ← le_longestRun]
    show k ≤ max (runLength mark (c :: rest)) (longestRun mark rest) ↔ _
    omega

theorem longestRun_reverse (text : List Char) :
    longestRun mark text.reverse = longestRun mark text := by
  refine eq_of_forall_le_iff fun k => ?_
  rw [le_longestRun, le_longestRun, ← List.reverse_replicate, List.reverse_infix,
    List.reverse_replicate]

/-! ## Reading -/

theorem next_fence (hleast : 0 < least) (hn : least ≤ n) (hafter : StartsPlain mark after) :
    next mark least (List.replicate n mark ++ after) = some ([], n, after) := by
  have htake : (List.replicate n mark ++ after).takeWhile (· = mark) = List.replicate n mark := by
    rw [List.takeWhile_append_of_pos (by simp)]
    cases after with
    | nil => simp
    | cons c rest => rw [List.takeWhile_cons_of_neg (by simpa using hafter c rfl), List.append_nil]
  have hdrop : (List.replicate n mark ++ after).dropWhile (· = mark) = after := by
    rw [List.dropWhile_append_of_pos (by simp)]
    cases after with
    | nil => rfl
    | cons c rest => rw [List.dropWhile_cons_of_neg (by simpa using hafter c rfl)]
  have hlength : runLength mark (List.replicate n mark ++ after) = n := by
    unfold runLength
    rw [htake, List.length_replicate]
  obtain ⟨k, rfl⟩ : ∃ k, n = k + 1 := ⟨n - 1, by omega⟩
  rw [List.replicate_succ, List.cons_append] at hlength hdrop ⊢
  unfold next
  rw [hlength, if_pos hn, hdrop]

/-- **The next fence** is not within a text whose runs are shorter. -/
theorem next_append (hleast : 0 < least) (hn : least ≤ n) (hafter : StartsPlain mark after) :
    ∀ {a : List Char}, longestRun mark a < least → EndsPlain mark a →
      next mark least (a ++ (List.replicate n mark ++ after)) = some (a, n, after)
  | [], _, _ => next_fence hleast hn hafter
  | c :: rest, hruns, hends => by
    obtain ⟨init, last, hconcat⟩ := (List.eq_nil_or_concat' (c :: rest)).resolve_left nofun
    have hlast : last ≠ mark := hends last (by rw [hconcat, List.getLast?_concat]; rfl)
    have hshort : runLength mark (c :: rest ++ (List.replicate n mark ++ after)) < least := by
      have hinit : runLength mark (c :: rest) = runLength mark init := by
        rw [hconcat, runLength_append hlast]
      rw [hconcat, List.append_assoc, List.singleton_append, runLength_append hlast, ← hinit]
      exact lt_of_le_of_lt runLength_le_longestRun hruns
    have hrest : longestRun mark rest < least := lt_of_le_of_lt (Nat.le_max_right ..) hruns
    have hendsRest : EndsPlain mark rest := by
      intro d hd
      refine hends d ?_
      cases rest with
      | nil => cases hd
      | cons e rest => exact hd
    rw [List.cons_append] at hshort ⊢
    unfold next
    rw [if_neg (by omega), next_append hleast hn hafter hrest hendsRest]
    rfl

/-- A block whose runs are shorter than its fences. -/
structure Contained (mark : Char) (n : Nat) (content : List Char) : Prop where
  startsPlain : StartsPlain mark content
  endsPlain : EndsPlain mark content
  ne_nil : content ≠ []
  runs : longestRun mark content < n

/-- **A block is read back**, and nothing of what is around it. -/
theorem readBlock_fenced {gap content : List Char} (hleast : 0 < least) (hn : least ≤ n)
    (hgap : longestRun mark gap < least) (hgapEnd : EndsPlain mark gap)
    (hcontent : Contained mark n content) (hafter : StartsPlain mark after) :
    readBlock mark least (gap ++ (fenced mark n content ++ after)) = some (content, after) := by
  have hstart : StartsPlain mark (content ++ (List.replicate n mark ++ after)) := by
    cases content with
    | nil => exact absurd rfl hcontent.ne_nil
    | cons c rest => exact hcontent.startsPlain
  unfold readBlock fenced
  rw [List.append_assoc, List.append_assoc, next_append hleast hn hstart hgap hgapEnd]
  show (next mark n (content ++ (List.replicate n mark ++ after))).map _ = _
  rw [next_append (by omega) (Nat.le_refl _) hafter hcontent.runs hcontent.endsPlain]
  rfl

/-! ## Sequences of blocks -/

/-- A block with what is before it. -/
structure Framed where
  gap : List Char
  length : Nat
  content : List Char

def Framed.text (mark : Char) (f : Framed) : List Char := f.gap ++ fenced mark f.length f.content

structure Framed.Valid (mark : Char) (least : Nat) (f : Framed) : Prop where
  gap_ne_nil : f.gap ≠ []
  gapStart : StartsPlain mark f.gap
  gapEnd : EndsPlain mark f.gap
  gapRuns : longestRun mark f.gap < least
  length_ge : least ≤ f.length
  contained : Contained mark f.length f.content

theorem startsPlain_flatMap : ∀ {frames : List Framed}, (∀ f ∈ frames, f.Valid mark least) →
    StartsPlain mark (frames.flatMap (Framed.text mark))
  | [], _ => nofun
  | f :: rest, h => by
    obtain ⟨hf, _⟩ := List.forall_mem_cons.mp h
    obtain ⟨c, gap, hgap⟩ := List.exists_cons_of_ne_nil hf.gap_ne_nil
    have hstart := hf.gapStart
    rw [hgap] at hstart
    rw [List.flatMap_cons, Framed.text, hgap]
    exact hstart

/-- **The blocks of a sequence** are those that it was made from. -/
theorem blocks_flatMap (hleast : 0 < least) {frames : List Framed}
    (h : ∀ f ∈ frames, f.Valid mark least) :
    blocks mark least (frames.flatMap (Framed.text mark)) = frames.map (·.content) := by
  have hfrom : ∀ (frames : List Framed), (∀ f ∈ frames, f.Valid mark least) → ∀ fuel,
      frames.length ≤ fuel →
      blocksFrom mark least fuel (frames.flatMap (Framed.text mark)) = frames.map (·.content) := by
    intro frames
    induction frames with
    | nil =>
      intro _ fuel _
      cases fuel with
      | zero => rfl
      | succ fuel => rfl
    | cons f rest ih =>
      intro h fuel hfuel
      obtain ⟨hf, hrest⟩ := List.forall_mem_cons.mp h
      cases fuel with
      | zero => exact absurd hfuel (Nat.not_succ_le_zero _)
      | succ fuel =>
        rw [List.flatMap_cons, Framed.text, List.append_assoc, blocksFrom,
          readBlock_fenced hleast hf.length_ge hf.gapRuns hf.gapEnd hf.contained
            (startsPlain_flatMap hrest)]
        exact congrArg _ (ih hrest fuel (Nat.le_of_succ_le_succ hfuel))
  refine hfrom frames h _ ?_
  clear hfrom
  induction frames with
  | nil => exact Nat.zero_le _
  | cons f rest ih =>
    obtain ⟨hf, hrest⟩ := List.forall_mem_cons.mp h
    have hpos := List.length_pos_of_ne_nil hf.gap_ne_nil
    have hlength := ih hrest
    rw [List.flatMap_cons, Framed.text, List.length_append, List.length_append, List.length_cons]
    omega

end ProofAgent.Base.Fence
