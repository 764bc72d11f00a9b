import ProofAgent.Knowledge.AnswerValidator

/-! # How a delivered claim is bound

The rule units and the citations of a claim are looked up among all the admitted evidence, each for
itself. A claim is bound when its units and its citations belong together; that follows only when
every admitted unit is carried under every admitted citation. -/
namespace ProofAgent.Knowledge

open Base

variable {payload : Option Json} {evidence : List EvidenceChunk}
  {requirements : List InsuranceEvidenceSlotRequirement}

/-- An admitted item carries a rule unit under a citation. -/
def Carried (evidence : List EvidenceChunk) (ruleUnit uri : String) : Prop :=
  ∃ item ∈ evidence, isAdmitted item = true ∧ admittedRuleUnit item = ruleUnit ∧
    item.citation = some uri

/-- The rule units and the citations of a claim belong together. -/
def ClaimBound (evidence : List EvidenceChunk) (claim : InsuranceAnswerClaim) : Prop :=
  (∀ id ∈ claim.ruleUnitRevisionIds, ∃ uri ∈ claim.citationUris, Carried evidence id uri) ∧
    ∀ uri ∈ claim.citationUris, ∃ id ∈ claim.ruleUnitRevisionIds, Carried evidence id uri

/-- The admitted items that support a slot carry all that it requires. -/
def SlotComplete (evidence : List EvidenceChunk)
    (requirement : InsuranceEvidenceSlotRequirement) : Prop :=
  (∃ item ∈ evidence, isAdmitted item = true ∧
      requirement.slotId ∈ item.supportedEvidenceSlotIds) ∧
    ∀ id ∈ requirement.requiredRuleUnitRevisionIds, ∃ item ∈ evidence, isAdmitted item = true ∧
      requirement.slotId ∈ item.supportedEvidenceSlotIds ∧ admittedRuleUnit item = id

/-- An answer that is delivered is bound claim by claim, over complete slots. -/
def DeliversBound (payload : Option Json) (evidence : List EvidenceChunk)
    (requirements : List InsuranceEvidenceSlotRequirement) : Prop :=
  ∀ decision answer,
    validateSerializedInsuranceAnswer payload evidence requirements = .ok decision →
    decision.outcome = .deliver → decision.deliverableAnswer = some answer →
    (∀ claim ∈ answer.claims, ClaimBound evidence claim) ∧
      ∀ requirement ∈ requirements, SlotComplete evidence requirement

/-- A chunk of which an admitted item can be built. -/
def Itemizable (item : EvidenceChunk) : Prop :=
  admittedId item ≠ "" ∧ admittedRuleUnit item ≠ "" ∧ item.supportedEvidenceSlotIds.Nodup

/-- Every admitted rule unit is carried under every admitted citation. -/
def FullyPaired (evidence : List EvidenceChunk) : Prop :=
  ∀ a ∈ evidence, isAdmitted a = true → ∀ b ∈ evidence, isAdmitted b = true →
    ∀ uri, b.citation = some uri → Carried evidence (admittedRuleUnit a) uri

/-! ## Admitted items -/

/-- The item that is built of a chunk. -/
structure ItemOf (chunk : EvidenceChunk) (item : AdmittedInsuranceEvidence) : Prop where
  ruleUnit : item.ruleUnitRevisionId = admittedRuleUnit chunk
  citation : item.citationUri = chunk.citation
  slots : item.supportedSlotIds = chunk.supportedEvidenceSlotIds

theorem admittedItem_ok {chunk : EvidenceChunk} {item : AdmittedInsuranceEvidence}
    (h : admittedItem chunk = .ok item) : ItemOf chunk item ∧ Itemizable chunk := by
  unfold admittedItem at h
  split at h
  · rename_i hmade
    obtain rfl := Except.ok.inj h
    exact ⟨⟨rfl, rfl, rfl⟩, hmade.1, hmade.2.1, hmade.2.2.2⟩
  · cases h

theorem admittedItem_made {chunk : EvidenceChunk} (hadmitted : isAdmitted chunk = true)
    (h : Itemizable chunk) : ∃ item, admittedItem chunk = .ok item := by
  have hslots : chunk.supportedEvidenceSlotIds ≠ [] := by
    simpa using (Bool.and_eq_true_iff.mp hadmitted).2
  exact ⟨_, dif_pos ⟨h.1, h.2.1, hslots, h.2.2⟩⟩

/-- What stands for the evidence in the checks. -/
structure ItemsOf (evidence : List EvidenceChunk) (items : List AdmittedInsuranceEvidence) :
    Prop where
  of_chunk : ∀ chunk ∈ evidence, isAdmitted chunk = true → ∃ item ∈ items, ItemOf chunk item
  of_item : ∀ item ∈ items, ∃ chunk ∈ evidence, isAdmitted chunk = true ∧ ItemOf chunk item

theorem itemsOf_made {items : List AdmittedInsuranceEvidence}
    (h : (evidence.filter isAdmitted).mapM admittedItem = .ok items) :
    ItemsOf evidence items where
  of_chunk chunk hmem hadmitted := by
    obtain ⟨item, hitem, hmade⟩ := mapM_ok_of_mem h (List.mem_filter.mpr ⟨hmem, hadmitted⟩)
    exact ⟨item, hitem, (admittedItem_ok hmade).1⟩
  of_item item hmem := by
    obtain ⟨chunk, hchunk, hmade⟩ := mapM_ok_mem h hmem
    obtain ⟨hmem, hadmitted⟩ := List.mem_filter.mp hchunk
    exact ⟨chunk, hmem, hadmitted, (admittedItem_ok hmade).1⟩

/-! ## What the checks say -/

theorem slotSatisfied_iff {items : List AdmittedInsuranceEvidence} (h : ItemsOf evidence items)
    (requirement : InsuranceEvidenceSlotRequirement) :
    slotSatisfied items requirement = true ↔ SlotComplete evidence requirement := by
  simp only [slotSatisfied, Bool.and_eq_true, Bool.not_eq_true', List.isEmpty_eq_false_iff,
    List.all_eq_true, List.contains_iff_mem, List.mem_map, List.mem_filter, decide_eq_true_eq]
  unfold SlotComplete
  refine and_congr ⟨fun hmatch => ?_, ?_⟩ (forall₂_congr fun id _ => ⟨?_, ?_⟩)
  · obtain ⟨item, hitem⟩ := List.exists_mem_of_ne_nil _ hmatch
    obtain ⟨hmem, hslot⟩ := List.mem_filter.mp hitem
    obtain ⟨chunk, hchunk, hadmitted, hof⟩ := h.of_item item hmem
    exact ⟨chunk, hchunk, hadmitted, hof.slots ▸ of_decide_eq_true hslot⟩
  · rintro ⟨chunk, hchunk, hadmitted, hslot⟩
    obtain ⟨item, hitem, hof⟩ := h.of_chunk chunk hchunk hadmitted
    refine List.ne_nil_of_mem (List.mem_filter.mpr ⟨hitem, ?_⟩)
    exact decide_eq_true (hof.slots ▸ hslot)
  · rintro ⟨item, ⟨hmem, hslot⟩, rfl⟩
    obtain ⟨chunk, hchunk, hadmitted, hof⟩ := h.of_item item hmem
    exact ⟨chunk, hchunk, hadmitted, hof.slots ▸ hslot, hof.ruleUnit.symm⟩
  · rintro ⟨chunk, hchunk, hadmitted, hslot, rfl⟩
    obtain ⟨item, hitem, hof⟩ := h.of_chunk chunk hchunk hadmitted
    exact ⟨item, ⟨hitem, hof.slots ▸ hslot⟩, hof.ruleUnit⟩

theorem missing_isEmpty_iff {items : List AdmittedInsuranceEvidence} :
    ((requirements.filter fun r => !slotSatisfied items r).map (·.slotId)).isEmpty = true ↔
      ∀ r ∈ requirements, slotSatisfied items r = true := by
  simp [List.filter_eq_nil_iff]

/-- The evaluation is complete when every required slot is satisfied. -/
theorem evaluateRequiredSlots_complete {items : List AdmittedInsuranceEvidence}
    {evaluation : EvidenceSlotEvaluation}
    (h : evaluateRequiredSlots requirements items = .ok evaluation) :
    evaluation.complete = true ↔ ∀ r ∈ requirements, slotSatisfied items r = true := by
  unfold evaluateRequiredSlots at h
  dsimp only at h
  split at h
  · obtain rfl := Except.ok.inj h
    exact missing_isEmpty_iff
  · cases h

/-- With every required slot satisfied the evaluation is built. -/
theorem evaluateRequiredSlots_made {items : List AdmittedInsuranceEvidence}
    (h : ∀ r ∈ requirements, slotSatisfied items r = true) :
    ∃ evaluation, evaluateRequiredSlots requirements items = .ok evaluation := by
  have hmissing := List.isEmpty_iff.mp (missing_isEmpty_iff.mpr h)
  refine ⟨_, dif_pos fun slot _ hslot => ?_⟩
  rw [hmissing] at hslot
  exact List.not_mem_nil hslot

/-- A claim passes when each of its rule units and each of its citations is admitted. -/
theorem claimFault_eq_none_iff {items : List AdmittedInsuranceEvidence} (h : ItemsOf evidence items)
    (claim : InsuranceAnswerClaim) : claimFault items claim = none ↔
      (∀ id ∈ claim.ruleUnitRevisionIds, ∃ chunk ∈ evidence, isAdmitted chunk = true ∧
        admittedRuleUnit chunk = id) ∧
      ∀ uri ∈ claim.citationUris, ∃ chunk ∈ evidence, isAdmitted chunk = true ∧
        chunk.citation = some uri := by
  have hunit : ∀ id, (items.map (·.ruleUnitRevisionId)).contains id = true ↔
      ∃ chunk ∈ evidence, isAdmitted chunk = true ∧ admittedRuleUnit chunk = id := by
    intro id
    rw [List.contains_iff_mem, List.mem_map]
    constructor
    · rintro ⟨item, hitem, rfl⟩
      obtain ⟨chunk, hchunk, hadmitted, hof⟩ := h.of_item item hitem
      exact ⟨chunk, hchunk, hadmitted, hof.ruleUnit.symm⟩
    · rintro ⟨chunk, hchunk, hadmitted, rfl⟩
      obtain ⟨item, hitem, hof⟩ := h.of_chunk chunk hchunk hadmitted
      exact ⟨item, hitem, hof.ruleUnit⟩
  have hcitation : ∀ uri, (items.filterMap (·.citationUri)).contains uri = true ↔
      ∃ chunk ∈ evidence, isAdmitted chunk = true ∧ chunk.citation = some uri := by
    intro uri
    rw [List.contains_iff_mem, List.mem_filterMap]
    constructor
    · rintro ⟨item, hitem, huri⟩
      obtain ⟨chunk, hchunk, hadmitted, hof⟩ := h.of_item item hitem
      exact ⟨chunk, hchunk, hadmitted, hof.citation ▸ huri⟩
    · rintro ⟨chunk, hchunk, hadmitted, huri⟩
      obtain ⟨item, hitem, hof⟩ := h.of_chunk chunk hchunk hadmitted
      exact ⟨item, hitem, hof.citation.trans huri⟩
  simp only [← hunit, ← hcitation, ← List.all_eq_true, claimFault]
  cases claim.ruleUnitRevisionIds.all fun id => (items.map (·.ruleUnitRevisionId)).contains id <;>
    cases claim.citationUris.all fun uri => (items.filterMap (·.citationUri)).contains uri <;> simp

/-- What is delivered passed every check. -/
theorem validateGenerated_deliver {generated answer : GeneratedInsuranceAnswer}
    {items : List AdmittedInsuranceEvidence} {evaluation : EvidenceSlotEvaluation}
    (h : (validateGeneratedInsuranceAnswer generated items evaluation).deliverableAnswer =
      some answer) :
    answer = generated ∧ evaluation.complete = true ∧
      ∀ claim ∈ generated.claims, claimFault items claim = none := by
  unfold validateGeneratedInsuranceAnswer at h
  split at h
  · cases h
  · split at h
    · cases h
    · rename_i hcomplete
      split at h
      · cases h
      · rename_i hclaims
        exact ⟨(Option.some.inj h).symm, by simpa using hcomplete, List.findSome?_eq_none_iff.mp hclaims⟩

/-- A call that delivers built the evidence and the evaluation. -/
theorem validateSerialized_deliver {decision : InsuranceAnswerValidationDecision}
    {answer : GeneratedInsuranceAnswer}
    (h : validateSerializedInsuranceAnswer payload evidence requirements = .ok decision)
    (hanswer : decision.deliverableAnswer = some answer) :
    ∃ items, ItemsOf evidence items ∧ (∀ chunk ∈ evidence, isAdmitted chunk = true →
        Itemizable chunk) ∧ (∀ r ∈ requirements, slotSatisfied items r = true) ∧
      ∀ claim ∈ answer.claims, claimFault items claim = none := by
  unfold validateSerializedInsuranceAnswer at h
  split at h
  · cases Except.ok.inj h
    cases hanswer
  · obtain ⟨items, hitems, h⟩ := bind_ok h
    obtain ⟨evaluation, hevaluation, h⟩ := bind_ok h
    obtain rfl := pure_ok h
    obtain ⟨rfl, hcomplete, hclaims⟩ := validateGenerated_deliver hanswer
    refine ⟨items, itemsOf_made hitems, fun chunk hmem hadmitted => ?_,
      (evaluateRequiredSlots_complete hevaluation).mp hcomplete, hclaims⟩
    obtain ⟨item, _, hmade⟩ := mapM_ok_of_mem hitems (List.mem_filter.mpr ⟨hmem, hadmitted⟩)
    exact (admittedItem_ok hmade).2

/-! ## Claim by claim -/

/-- The evidence can be put together, and every required slot is complete. -/
def Deliverable (evidence : List EvidenceChunk)
    (requirements : List InsuranceEvidenceSlotRequirement) : Prop :=
  (∀ chunk ∈ evidence, isAdmitted chunk = true → Itemizable chunk) ∧
    ∀ requirement ∈ requirements, SlotComplete evidence requirement

/-- Over fully paired evidence a claim that passes is bound. -/
theorem claimBound_of_passes {items : List AdmittedInsuranceEvidence} (h : ItemsOf evidence items)
    (hpaired : FullyPaired evidence) {claim : InsuranceAnswerClaim}
    (hpasses : claimFault items claim = none) : ClaimBound evidence claim := by
  obtain ⟨hunits, hcitations⟩ := (claimFault_eq_none_iff h claim).mp hpasses
  have hcarried : ∀ id ∈ claim.ruleUnitRevisionIds, ∀ uri ∈ claim.citationUris,
      Carried evidence id uri := by
    intro id hid uri huri
    obtain ⟨a, ha, hadmitted, rfl⟩ := hunits id hid
    obtain ⟨b, hb, hadmitted', hcitation⟩ := hcitations uri huri
    exact hpaired a ha hadmitted b hb hadmitted' uri hcitation
  obtain ⟨id, hid⟩ := List.exists_mem_of_ne_nil _ claim.ruleUnitRevisionIds_ne
  obtain ⟨uri, huri⟩ := List.exists_mem_of_ne_nil _ claim.citationUris_ne
  exact ⟨fun id hid => ⟨uri, huri, hcarried id hid uri huri⟩,
    fun uri huri => ⟨id, hid, hcarried id hid uri huri⟩⟩

/-- A claim of a section that names one rule unit and one citation. -/
def pairedClaim (kind ruleUnit uri : String) : Json :=
  .obj [("section", .str kind), ("text", .str "Supported."),
    ("rule_unit_revision_ids", .arr [.str ruleUnit]), ("citation_uris", .arr [.str uri])]

/-- The sections of an answer, with a text for each. -/
def pairedSections : List (String × String) :=
  [("recommendation", "Product A may apply."), ("conditions", "In Shanghai."),
    ("assumptions", "The region is Shanghai."), ("rule_basis", "Rule A governs."),
    ("warnings", "Underwriting remains required."),
    ("service_reminder", "Confirm before submission.")]

/-- An answer whose claims name one rule unit and one citation. -/
def pairedAnswer (ruleUnit uri : String) : Json :=
  .obj ((pairedSections.map fun p => (p.1, .str p.2)) ++
    [("claims", .arr (pairedSections.map fun p => pairedClaim p.1 ruleUnit uri))])

/-- What is read of such an answer. -/
structure Pairs (ruleUnit uri : String) (answer : GeneratedInsuranceAnswer) : Prop where
  ruleUnits : ∀ claim ∈ answer.claims, claim.ruleUnitRevisionIds = [ruleUnit]
  citations : ∀ claim ∈ answer.claims, claim.citationUris = [uri]
  texts : (answer.sections.any fun text => stripText text = "") = false

theorem readAnswer_paired (ruleUnit uri : String) :
    ∃ answer, readAnswer (pairedAnswer ruleUnit uri) = some answer ∧ Pairs ruleUnit uri answer := by
  refine ⟨_, rfl, ?_, ?_, ?_⟩
  · simp
  · simp
  · show ((pairedSections.map Prod.snd).any fun text => stripText text = "") = false
    decide +kernel

/-- An answer is delivered when its one pair is of an admitted unit and an admitted citation. -/
theorem delivers_paired (h : Deliverable evidence requirements) {a b : EvidenceChunk}
    (ha : a ∈ evidence) (hadmitted : isAdmitted a = true) (hb : b ∈ evidence)
    (hadmitted' : isAdmitted b = true) {uri : String} (huri : b.citation = some uri) :
    ∃ decision answer, validateSerializedInsuranceAnswer (some (pairedAnswer (admittedRuleUnit a) uri))
        evidence requirements = .ok decision ∧ decision.outcome = .deliver ∧
      decision.deliverableAnswer = some answer ∧ Pairs (admittedRuleUnit a) uri answer := by
  obtain ⟨answer, hread, hpairs⟩ := readAnswer_paired (admittedRuleUnit a) uri
  obtain ⟨items, hitems⟩ : ∃ items, (evidence.filter isAdmitted).mapM admittedItem = .ok items :=
    mapM_returns fun chunk hchunk => by
      obtain ⟨hmem, hadmitted⟩ := List.mem_filter.mp hchunk
      exact admittedItem_made hadmitted (h.1 chunk hmem hadmitted)
  have hof := itemsOf_made hitems
  have hslots : ∀ r ∈ requirements, slotSatisfied items r = true :=
    fun r hr => (slotSatisfied_iff hof r).mpr (h.2 r hr)
  obtain ⟨evaluation, hevaluation⟩ := evaluateRequiredSlots_made hslots
  have hcomplete := (evaluateRequiredSlots_complete hevaluation).mpr hslots
  have hclaims : answer.claims.findSome? (claimFault items) = none := by
    refine List.findSome?_eq_none_iff.mpr fun claim hclaim => (claimFault_eq_none_iff hof claim).mpr ?_
    rw [hpairs.ruleUnits claim hclaim, hpairs.citations claim hclaim]
    exact ⟨List.forall_mem_singleton.mpr ⟨a, ha, hadmitted, rfl⟩,
      List.forall_mem_singleton.mpr ⟨b, hb, hadmitted', huri⟩⟩
  have hdelivers : validateGeneratedInsuranceAnswer answer items evaluation =
      { admitted := true, outcome := .deliver, reason := "admitted",
        deliverableAnswer := some answer } := by
    unfold validateGeneratedInsuranceAnswer
    rw [hpairs.texts, hcomplete, hclaims]
    rfl
  refine ⟨validateGeneratedInsuranceAnswer answer items evaluation, answer, ?_, ?_, ?_, hpairs⟩
  · unfold validateSerializedInsuranceAnswer
    rw [Option.bind_some, hread]
    dsimp only
    rw [hitems, ok_bind, hevaluation, ok_bind]
    rfl
  · rw [hdelivers]
  · rw [hdelivers]

/-- **Delivered answers are bound claim by claim** when no answer can be delivered, or when every
admitted rule unit is carried under every admitted citation, and only then. -/
theorem delivered_claims_bound (evidence : List EvidenceChunk)
    (requirements : List InsuranceEvidenceSlotRequirement) :
    (∀ payload, DeliversBound payload evidence requirements) ↔
      (Deliverable evidence requirements → FullyPaired evidence) := by
  constructor
  · intro hbound hdeliverable a ha hadmitted b hb hadmitted' uri huri
    obtain ⟨decision, answer, hvalid, houtcome, hanswer, hpairs⟩ :=
      delivers_paired hdeliverable ha hadmitted hb hadmitted' huri
    obtain ⟨hclaims, _⟩ := hbound _ decision answer hvalid houtcome hanswer
    obtain ⟨claim, hclaim⟩ := List.exists_mem_of_ne_nil _ answer.claims_ne
    have hunit := (hclaims claim hclaim).1
    rw [hpairs.ruleUnits claim hclaim, hpairs.citations claim hclaim] at hunit
    simpa using hunit
  · intro hpaired payload decision answer hvalid _ hanswer
    obtain ⟨items, hof, hitemizable, hslots, hclaims⟩ := validateSerialized_deliver hvalid hanswer
    have hcomplete : ∀ r ∈ requirements, SlotComplete evidence r :=
      fun r hr => (slotSatisfied_iff hof r).mp (hslots r hr)
    exact ⟨fun claim hclaim => claimBound_of_passes hof (hpaired ⟨hitemizable, hcomplete⟩)
      (hclaims claim hclaim), hcomplete⟩

namespace Sample

/-- A chunk that the authority admitted for the governing rule. -/
def admittedChunk (ruleUnit uri : String) : EvidenceChunk where
  source := "knowledge://handbook"
  content := "The product accepts the occupation."
  status := .accepted
  citation := some uri
  details := .ofFields [("authority_admitted", .bool true), ("authority_outcome", .str "PASS"),
    ("chunk_id", .str ruleUnit),
    ("supported_evidence_slot_ids", .arr [.str "governing-rule"])]

def twoRules : List EvidenceChunk :=
  [admittedChunk "rule-A" "knowledge://handbook#page=1",
    admittedChunk "rule-B" "knowledge://handbook#page=2"]

def governingRule : InsuranceEvidenceSlotRequirement where
  slotId := "governing-rule"
  requiredRuleUnitRevisionIds := ["rule-A", "rule-B"]

end Sample

/-- A claim of the first rule is delivered under the citation of the second one. -/
theorem citation_borrowed :
    ¬ DeliversBound (some (pairedAnswer "rule-A" "knowledge://handbook#page=2")) Sample.twoRules
      [Sample.governingRule] := by
  intro hbound
  obtain ⟨hclaims, _⟩ := hbound _ _ rfl rfl rfl
  have hunit := (hclaims _ (List.mem_cons_self ..)).1
  revert hunit
  unfold Carried
  decide +kernel

end ProofAgent.Knowledge
