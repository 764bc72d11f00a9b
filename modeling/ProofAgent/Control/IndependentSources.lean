import ProofAgent.Base.SharedKeys
import ProofAgent.Contracts.ControlledReact
import ProofAgent.ControlledReact.TaskCompletion

/-! # Independent sources

Chunks of one source, and chunks with the same content, count once. The keys of sources and
contents are united chunk by chunk; the count is the number of roots of the source keys. The
chunks that are counted form a graph, in which chunks of one source and chunks with the same
content are adjacent. The count is the number of its components, as long as no two contents have
the same digest. -/
namespace ProofAgent

open Base

/-! ## Counting -/

section

/-- What the assurance takes from the standard library. -/
structure AssuranceLibrary where
  /-- `normalize('NFKC', text)`. -/
  nfkc : String → String
  /-- `text.casefold()`. -/
  casefold : String → String
  /-- `sha256(text.encode()).hexdigest()`. -/
  sha256 : String → String

variable (library : AssuranceLibrary)

/-- `(item.source_id or item.source).strip()`. -/
def countedSource (item : EvidenceChunk) : String := stripText (orText item.sourceId item.source)

/-- `' '.join(normalize('NFKC', item.content).casefold().split())`. -/
def countedContent (item : EvidenceChunk) : String :=
  collapseSpace (library.casefold (library.nfkc item.content))

/-- A chunk that is counted. -/
def countable (item : EvidenceChunk) : Bool :=
  countedSource item ≠ "" && countedContent library item ≠ ""

def sourceKey (item : EvidenceChunk) : String := "source:" ++ countedSource item

def contentKey (item : EvidenceChunk) : String :=
  "content:" ++ library.sha256 (countedContent library item)

/-- One round of the loop over the evidence. -/
def countChunk (fuel : Nat) (state : Parents String × List String) (item : EvidenceChunk) :
    Option (Parents String × List String) :=
  if countable library item then do
    let parents ← state.1.union fuel (contentKey library item) (sourceKey item)
    return (parents, state.2.insert (sourceKey item))
  else some state

/-- `_source_count`; every search for a root gets the same fuel. -/
def sourceCount (fuel : Nat) (evidence : List EvidenceChunk) : Option Nat := do
  let (parents, keys) ← evidence.foldlM (countChunk library fuel) (fun _ => none, [])
  let roots ← parents.roots fuel keys
  return roots.dedup.length

end

/-! ## What the count counts -/

variable {library : AssuranceLibrary} {evidence : List EvidenceChunk}

/-- The chunks that are counted, adjacent by their source or their content. -/
def sourceGraph (library : AssuranceLibrary) (evidence : List EvidenceChunk) :
    SimpleGraph {item // item ∈ evidence ∧ countable library item = true} :=
  sharing (fun item => countedSource item.1) fun item => countedContent library item.1

/-- No two contents of the evidence have the same digest. -/
def ContentDigestsApart (library : AssuranceLibrary) (evidence : List EvidenceChunk) : Prop :=
  ∀ a ∈ evidence, ∀ b ∈ evidence,
    library.sha256 (countedContent library a) = library.sha256 (countedContent library b) →
      countedContent library a = countedContent library b

theorem sourceKey_ne_contentKey (a b : EvidenceChunk) : sourceKey a ≠ contentKey library b := by
  intro h
  have hfirst := congrArg (fun key => key.toList.head?) h
  simp [sourceKey, contentKey, String.toList_append] at hfirst

/-- The graph, by the keys that are united. -/
theorem sourceGraph_eq (hapart : ContentDigestsApart library evidence) :
    sourceGraph library evidence =
      sharing (fun item => sourceKey item.1) fun item => contentKey library item.1 := by
  ext v w
  refine and_congr_right fun _ => or_congr ?_ ?_
  · exact ⟨fun h => congrArg ("source:" ++ ·) h, fun h => (String.append_right_inj _).mp h⟩
  · exact ⟨fun h => congrArg (fun content => "content:" ++ library.sha256 content) h,
      fun h => hapart v.1 v.2.1 w.1 w.2.1 ((String.append_right_inj _).mp h)⟩

/-! ## The loop -/

/-- The keys of the chunks that are counted. -/
def countedPairs (library : AssuranceLibrary) (evidence : List EvidenceChunk) :
    List (String × String) :=
  (evidence.filter (countable library)).map fun item => (sourceKey item, contentKey library item)

theorem mem_countedPairs {pair : String × String} : pair ∈ countedPairs library evidence ↔
    ∃ item ∈ evidence, countable library item = true ∧
      (sourceKey item, contentKey library item) = pair := by
  simp only [countedPairs, List.mem_map, List.mem_filter, and_assoc]

/-- The loop over the evidence unites the keys of the chunks that are counted. -/
theorem countChunks_eq {fuel : Nat} : ∀ {evidence : List EvidenceChunk} {parents parents' : Parents String}
    {keys : List String}, Parents.unionAll fuel (countedPairs library evidence) parents = some parents' →
    ∃ keys', evidence.foldlM (countChunk library fuel) (parents, keys) = some (parents', keys') ∧
      ∀ key, key ∈ keys' ↔ key ∈ keys ∨ ∃ pair ∈ countedPairs library evidence, pair.1 = key
  | [], parents, parents', keys, h => by
    obtain rfl := Option.some.inj h
    exact ⟨keys, rfl, fun key => by simp [countedPairs]⟩
  | item :: rest, parents, parents', keys, h => by
    by_cases hitem : countable library item = true
    · have hpairs : countedPairs library (item :: rest) =
          (sourceKey item, contentKey library item) :: countedPairs library rest := by
        simp [countedPairs, hitem]
      rw [hpairs] at h
      obtain ⟨next, hnext, hrest⟩ := Option.bind_eq_some_iff.mp h
      obtain ⟨keys', hfold, hkeys⟩ : ∃ keys', rest.foldlM (countChunk library fuel)
          (next, keys.insert (sourceKey item)) = some (parents', keys') ∧ _ := countChunks_eq hrest
      have hnext : parents.union fuel (contentKey library item) (sourceKey item) = some next := hnext
      have hstep : countChunk library fuel (parents, keys) item =
          some (next, keys.insert (sourceKey item)) := by
        unfold countChunk
        rw [if_pos hitem, hnext]
        rfl
      refine ⟨keys', ?_, fun key => ?_⟩
      · rw [List.foldlM_cons, hstep]
        exact hfold
      · rw [hkeys, hpairs, List.exists_mem_cons_iff, List.mem_insert_iff, or_assoc, or_left_comm,
          eq_comm]
    · have hpairs : countedPairs library (item :: rest) = countedPairs library rest := by
        simp [countedPairs, hitem]
      rw [hpairs] at h ⊢
      obtain ⟨keys', hfold, hkeys⟩ : ∃ keys', rest.foldlM (countChunk library fuel) (parents, keys) =
          some (parents', keys') ∧ _ := countChunks_eq h
      have hstep : countChunk library fuel (parents, keys) item = some (parents, keys) := if_neg hitem
      refine ⟨keys', ?_, hkeys⟩
      rw [List.foldlM_cons, hstep]
      exact hfold

/-- **The count is the number of components**, and every search for a root ends. -/
theorem sourceCount_eq (hapart : ContentDigestsApart library evidence) {fuel : Nat}
    (hfuel : evidence.length < fuel) :
    sourceCount library fuel evidence =
      some (Nat.card (sourceGraph library evidence).ConnectedComponent) := by
  let a : {item // item ∈ evidence ∧ countable library item = true} → String :=
    fun item => sourceKey item.1
  let b : {item // item ∈ evidence ∧ countable library item = true} → String :=
    fun item => contentKey library item.1
  have hlength : (countedPairs library evidence).length ≤ evidence.length := by
    rw [countedPairs, List.length_map]
    exact List.length_filter_le _ _
  have hempty : Forest (fun _ : String => none) id (fun _ => 0) := .empty
  have hgenerated : ∀ pair ∈ countedPairs library evidence,
      Relation.EqvGen (Linked a b) pair.1 pair.2 := by
    intro pair hpair
    obtain ⟨item, hitem, hcount, rfl⟩ := mem_countedPairs.mp hpair
    exact .rel _ _ ⟨⟨item, hitem, hcount⟩, rfl, rfl⟩
  have hsame : ∀ x y : String, id x = id y → Relation.EqvGen (Linked a b) x y := by
    intro x y h
    obtain rfl : x = y := h
    exact .refl x
  obtain ⟨parents, top, rank, hunions, hforest, hbound, hsound, _, hlinked⟩ :=
    hempty.unionAll (fun _ => Nat.le_refl 0)
      (show 0 + (countedPairs library evidence).length ≤ fuel by omega) hgenerated hsame
  obtain ⟨keys, hfold, hkeys⟩ : ∃ keys, evidence.foldlM (countChunk library fuel)
      (fun _ => none, []) = some (parents, keys) ∧ _ := countChunks_eq hunions
  have hroots : parents.roots fuel keys = some (keys.map top) :=
    hforest.roots fun k => (hbound k).trans_lt (by omega)
  have hcount : sourceCount library fuel evidence = some (keys.map top).dedup.length := by
    unfold sourceCount
    rw [hfold, Option.bind_eq_bind, Option.bind_some]
    dsimp only
    rw [hroots]
    rfl
  have hreach : ∀ v w, (sourceGraph library evidence).Reachable v w ↔ top (a v) = top (a w) := by
    intro v w
    rw [sourceGraph_eq hapart]
    exact reachable_iff (fun v w => sourceKey_ne_contentKey v.1 w.1)
      (fun v => hlinked _ (mem_countedPairs.mpr ⟨v.1, v.2.1, v.2.2, rfl⟩)) hsound
  have hrange : Set.range (fun v => top (a v)) = ((keys.map top).toFinset : Set String) := by
    ext x
    simp only [Set.mem_range, List.coe_toFinset, Set.mem_setOf_eq, List.mem_map, hkeys,
      List.not_mem_nil, false_or]
    constructor
    · rintro ⟨v, rfl⟩
      exact ⟨a v, ⟨_, mem_countedPairs.mpr ⟨v.1, v.2.1, v.2.2, rfl⟩, rfl⟩, rfl⟩
    · rintro ⟨_, ⟨_, hpair, rfl⟩, rfl⟩
      obtain ⟨item, hitem, hcount, rfl⟩ := mem_countedPairs.mp hpair
      exact ⟨⟨item, hitem, hcount⟩, rfl⟩
  rw [hcount, card_components hreach, hrange, Set.ncard_coe_finset, List.card_toFinset]

/-- The graph depends only on which chunks there are. -/
theorem sourceGraph_card_congr {evidence' : List EvidenceChunk}
    (hsame : ∀ item, item ∈ evidence ↔ item ∈ evidence') :
    Nat.card (sourceGraph library evidence).ConnectedComponent =
      Nat.card (sourceGraph library evidence').ConnectedComponent := by
  have hset : (fun item => item ∈ evidence ∧ countable library item = true) =
      fun item => item ∈ evidence' ∧ countable library item = true := by
    funext item
    rw [hsame]
  unfold sourceGraph
  rw [hset]

/-- **Independent sources are counted** as the components of the chunks that the count is given,
which are the accepted ones; the count does not depend on their order or on repetitions, nor on the
fuel, from one more than there are chunks. -/
theorem sources_counted (library : AssuranceLibrary) (evidence : List EvidenceChunk) (fuel : Nat)
    (hapart : ContentDigestsApart library evidence) (hfuel : evidence.length < fuel) :
    sourceCount library fuel evidence =
        some (Nat.card (sourceGraph library evidence).ConnectedComponent) ∧
      sourceCount library fuel (acceptedEvidence evidence) =
        some (Nat.card (sourceGraph library (acceptedEvidence evidence)).ConnectedComponent) ∧
      ∀ evidence' fuel', (∀ item, item ∈ evidence' ↔ item ∈ evidence) → evidence'.length < fuel' →
        sourceCount library fuel' evidence' = sourceCount library fuel evidence := by
  refine ⟨sourceCount_eq hapart hfuel, sourceCount_eq (fun a ha b hb => ?_) ?_,
    fun evidence' fuel' hsame hfuel' => ?_⟩
  · exact hapart a (List.mem_of_mem_filter ha) b (List.mem_of_mem_filter hb)
  · exact (List.length_filter_le _ _).trans_lt hfuel
  · rw [sourceCount_eq hapart hfuel, sourceCount_eq (fun a ha b hb =>
      hapart a ((hsame a).mp ha) b ((hsame b).mp hb)) hfuel', sourceGraph_card_congr hsame]

namespace Sample

/-- The library on lower-case ASCII, with the digests of two texts. -/
def assuranceLibrary : AssuranceLibrary where
  nfkc := id
  casefold := id
  sha256 text :=
    if text = "alpha" then "8ed3f6ad685b959ead7022518e1af76cd816f8e8ec7ccdda1ed4018e8f2223f8"
    else if text = "beta" then "f44e64e75f3948e9f73f8dfa94721c4ce8cbb4f265c4790c702b2d41cfbf2753"
    else text

/-- Two chunks of one source, and a republication of the second one. -/
def republished : List EvidenceChunk :=
  [{ source := "knowledge://guide", content := "alpha", status := .accepted },
    { source := "knowledge://guide", content := "beta", status := .accepted },
    { source := "knowledge://mirror", content := "beta ", status := .accepted }]

def rejectedChunk : EvidenceChunk where
  source := "knowledge://guide"
  content := "alpha"
  status := .rejected

end Sample

theorem sources_counted_republished :
    sourceCount Sample.assuranceLibrary 4 Sample.republished =
      some (Nat.card (sourceGraph Sample.assuranceLibrary Sample.republished).ConnectedComponent) :=
  (sources_counted Sample.assuranceLibrary Sample.republished 4
    (by unfold ContentDigestsApart; decide +kernel) (by decide)).1

example : sourceCount Sample.assuranceLibrary 4 Sample.republished = some 1 := by decide +kernel

/-- The count does not look at the status of a chunk. -/
theorem sourceCount_rejected :
    sourceCount Sample.assuranceLibrary 2 [Sample.rejectedChunk] = some 1 ∧
      sourceCount Sample.assuranceLibrary 2 [Sample.rejectedChunk] ≠
        some (Nat.card (sourceGraph Sample.assuranceLibrary
          (acceptedEvidence [Sample.rejectedChunk])).ConnectedComponent) := by
  have hone : sourceCount Sample.assuranceLibrary 2 [Sample.rejectedChunk] = some 1 := by
    decide +kernel
  refine ⟨hone, ?_⟩
  have hnone : acceptedEvidence [Sample.rejectedChunk] = [] := rfl
  rw [hone, hnone, ← sourceCount_eq (fun a ha => absurd ha List.not_mem_nil) (Nat.zero_lt_succ 0)]
  decide +kernel

end ProofAgent
