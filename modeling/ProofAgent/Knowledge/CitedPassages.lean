import ProofAgent.Knowledge.AdmittedEvidence

/-! # What a citation names

A citation of external evidence is written from the identity of a passage: its binding, its
source, where it stands in the source, and the digest of its content. Written as it is, the
citation names one passage only, whichever observation it was accepted by. -/
namespace ProofAgent.Knowledge

open Base

/-! ## Passages -/

/-- The identity of a passage of an external source. -/
inductive Passage where
  | dataset (bindingId datasetId documentId chunkId digest : String)
  | ofNamespace (bindingId namespaceId : String) (tenantId : Option String) (chunkId digest : String)
  deriving DecidableEq

namespace Passage

/-- Where the citation of a passage begins. -/
def source : Passage → String
  | dataset bindingId datasetId documentId _ _ =>
    "external://" ++ bindingId ++ "/datasets/" ++ datasetId ++ "/documents/" ++ documentId
  | ofNamespace bindingId namespaceId tenantId chunkId _ =>
    "external://" ++ bindingId ++ "/namespaces/" ++ quote namespaceId ++
      (match tenantId with
        | none => ""
        | some tenantId => "/tenants/" ++ quote tenantId) ++ "/chunks/" ++ quote chunkId

def chunkId : Passage → String
  | dataset _ _ _ chunkId _ => chunkId
  | ofNamespace _ _ _ chunkId _ => chunkId

def digest : Passage → String
  | dataset _ _ _ _ digest => digest
  | ofNamespace _ _ _ _ digest => digest

def citation (p : Passage) : String := segmentCitation p.source p.chunkId p.digest

/-- What is not quoted is an identifier. -/
def WellFormed : Passage → Prop
  | dataset bindingId datasetId documentId _ _ => isIdentifier bindingId = true ∧
      isDatasetIdentifier datasetId = true ∧ isIdentifier documentId = true
  | ofNamespace bindingId .. => isIdentifier bindingId = true

end Passage

/-! ## Separators -/

theorem notMem_identifier {s : String} (h : isIdentifier s = true) {c : Char}
    (hc : isIdentifierChar c = false) : c ∉ s.toList := by
  unfold isIdentifier at h
  obtain ⟨-, hall⟩ := Bool.and_eq_true_iff.mp h
  intro hmem
  have hidentifier := List.all_eq_true.mp hall c hmem
  rw [hc] at hidentifier
  cases hidentifier

theorem notMem_datasetIdentifier {s : String} (h : isDatasetIdentifier s = true) :
    '/' ∉ s.toList := by
  unfold isDatasetIdentifier at h
  obtain ⟨-, hall⟩ := Bool.and_eq_true_iff.mp h
  intro hmem
  obtain ⟨i, hi⟩ := List.getElem?_of_mem hmem
  have hdigit := List.all_eq_true.mp hall _ (List.mk_mem_zipIdx_iff_getElem?.mpr hi)
  dsimp only at hdigit
  split at hdigit
  · cases hdigit
  · cases hdigit

/-- A text without a separator, before the first separator. -/
theorem cancel_text {sep : Char} {p q : String} {x y : List Char} (hp : sep ∉ p.toList)
    (hq : sep ∉ q.toList) (h : p.toList ++ sep :: x = q.toList ++ sep :: y) : p = q ∧ x = y := by
  obtain ⟨htext, hrest⟩ := cancel_separator hp hq h
  exact ⟨String.toList_injective htext, hrest⟩

/-- A quoted text before the first separator. -/
theorem cancel_quoted {sep : Char} (hreserved : isUnreserved sep = false) (hne : sep ≠ '%')
    {p q : String} {x y : List Char} (h : (quote p).toList ++ sep :: x = (quote q).toList ++ sep :: y) :
    p = q ∧ x = y := by
  obtain ⟨hquoted, hrest⟩ := cancel_text (notMem_quote hreserved hne p) (notMem_quote hreserved hne q) h
  exact ⟨quote_injective hquoted, hrest⟩

/-- What follows the source in a citation. -/
def afterSource (chunkId digest : String) : List Char :=
  "segment=".toList ++ ((quote chunkId).toList ++ '&' :: ("sha256=".toList ++ digest.toList))

theorem afterSource_inj {c c' d d' : String} (h : afterSource c d = afterSource c' d') :
    c = c' ∧ d = d' := by
  obtain ⟨rfl, hrest⟩ := cancel_quoted (by decide) (by decide) (List.append_cancel_left h)
  exact ⟨rfl, String.toList_injective (List.append_cancel_left hrest)⟩

/-- What follows the namespace in a citation. -/
def afterNamespace (tenantId : Option String) (chunkId digest : String) : List Char :=
  match tenantId with
  | none => "chunks/".toList ++ ((quote chunkId).toList ++ '#' :: afterSource chunkId digest)
  | some tenantId => "tenants/".toList ++ ((quote tenantId).toList ++ '/' ::
      ("chunks/".toList ++ ((quote chunkId).toList ++ '#' :: afterSource chunkId digest)))

theorem afterNamespace_inj {t t' : Option String} {c c' d d' : String}
    (h : afterNamespace t c d = afterNamespace t' c' d') : t = t' ∧ c = c' ∧ d = d' := by
  have hchunk : ∀ {c c' d d' : String}, "chunks/".toList ++ ((quote c).toList ++ '#' :: afterSource c d) =
      "chunks/".toList ++ ((quote c').toList ++ '#' :: afterSource c' d') → c = c' ∧ d = d' := by
    intro c c' d d' h
    obtain ⟨-, hrest⟩ := cancel_quoted (by decide) (by decide) (List.append_cancel_left h)
    exact afterSource_inj hrest
  cases t with
  | none =>
    cases t' with
    | none => exact ⟨rfl, hchunk h⟩
    | some _ => exact absurd (List.cons.inj h).1 (by decide)
  | some _ =>
    cases t' with
    | none => exact absurd (List.cons.inj h).1 (by decide)
    | some _ =>
      obtain ⟨rfl, hrest⟩ := cancel_quoted (by decide) (by decide) (List.append_cancel_left h)
      exact ⟨rfl, hchunk hrest⟩

/-- What follows the binding in a citation. -/
def afterBinding : Passage → List Char
  | .dataset _ datasetId documentId chunkId digest =>
    "datasets/".toList ++ (datasetId.toList ++ '/' ::
      ("documents/".toList ++ (documentId.toList ++ '#' :: afterSource chunkId digest)))
  | .ofNamespace _ namespaceId tenantId chunkId digest =>
    "namespaces/".toList ++ ((quote namespaceId).toList ++ '/' ::
      afterNamespace tenantId chunkId digest)

def Passage.bindingId : Passage → String
  | dataset bindingId .. => bindingId
  | ofNamespace bindingId .. => bindingId

theorem citation_toList (p : Passage) : p.citation.toList =
    "external://".toList ++ (p.bindingId.toList ++ '/' :: afterBinding p) := by
  have hdatasets : "/datasets/".toList = '/' :: "datasets/".toList := by decide
  have hdocuments : "/documents/".toList = '/' :: "documents/".toList := by decide
  have hnamespaces : "/namespaces/".toList = '/' :: "namespaces/".toList := by decide
  have htenants : "/tenants/".toList = '/' :: "tenants/".toList := by decide
  have hchunks : "/chunks/".toList = '/' :: "chunks/".toList := by decide
  have hsegment : "#segment=".toList = '#' :: "segment=".toList := by decide
  have hsha : "&sha256=".toList = '&' :: "sha256=".toList := by decide
  cases p with
  | dataset bindingId datasetId documentId chunkId digest =>
    show ("external://" ++ bindingId ++ "/datasets/" ++ datasetId ++ "/documents/" ++ documentId ++
      "#segment=" ++ quote chunkId ++ "&sha256=" ++ digest).toList = _
    unfold afterBinding afterSource
    dsimp only [Passage.bindingId]
    generalize "datasets/".toList = datasets at *
    generalize "documents/".toList = documents at *
    generalize "segment=".toList = segment at *
    generalize "sha256=".toList = sha at *
    simp only [String.toList_append, hdatasets, hdocuments, hsegment, hsha]
    generalize "external://".toList = scheme
    simp only [List.append_assoc, List.cons_append]
  | ofNamespace bindingId namespaceId tenantId chunkId digest =>
    show ("external://" ++ bindingId ++ "/namespaces/" ++ quote namespaceId ++ _ ++ "/chunks/" ++
      quote chunkId ++ "#segment=" ++ quote chunkId ++ "&sha256=" ++ digest).toList = _
    unfold afterBinding afterNamespace afterSource
    dsimp only [Passage.bindingId]
    generalize "namespaces/".toList = namespaces at *
    generalize "tenants/".toList = tenants at *
    generalize "chunks/".toList = chunks at *
    generalize "segment=".toList = segment at *
    generalize "sha256=".toList = sha at *
    simp only [String.toList_append, hnamespaces, hchunks, hsegment, hsha]
    generalize "external://".toList = scheme
    cases tenantId with
    | none => simp only [List.append_assoc, List.cons_append, String.toList_empty, List.nil_append]
    | some tenantId =>
      simp only [String.toList_append, htenants, List.append_assoc, List.cons_append]

theorem Passage.WellFormed.binding {p : Passage} (h : p.WellFormed) : isIdentifier p.bindingId = true := by
  cases p with
  | dataset => exact h.1
  | ofNamespace => exact h

/-- **A citation names one passage.** -/
theorem citation_injective {p q : Passage} (hp : p.WellFormed) (hq : q.WellFormed)
    (h : p.citation = q.citation) : p = q := by
  have hchars := congrArg String.toList h
  rw [citation_toList, citation_toList] at hchars
  obtain ⟨hbinding, hafter⟩ := cancel_text (notMem_identifier hp.binding (by decide))
    (notMem_identifier hq.binding (by decide)) (List.append_cancel_left hchars)
  cases p with
  | dataset b s d c e =>
    cases q with
    | dataset b' s' d' c' e' =>
      obtain ⟨rfl, hdocument⟩ := cancel_text (notMem_datasetIdentifier hp.2.1)
        (notMem_datasetIdentifier hq.2.1) (List.append_cancel_left hafter)
      obtain ⟨rfl, hsegment⟩ := cancel_text (notMem_identifier hp.2.2 (by decide))
        (notMem_identifier hq.2.2 (by decide)) (List.append_cancel_left hdocument)
      obtain ⟨rfl, rfl⟩ := afterSource_inj hsegment
      obtain rfl : b = b' := hbinding
      rfl
    | ofNamespace => exact absurd (List.cons.inj hafter).1 (by decide)
  | ofNamespace b n t c e =>
    cases q with
    | dataset => exact absurd (List.cons.inj hafter).1 (by decide)
    | ofNamespace b' n' t' c' e' =>
      obtain ⟨rfl, hrest⟩ := cancel_quoted (by decide) (by decide) (List.append_cancel_left hafter)
      obtain ⟨rfl, rfl, rfl⟩ := afterNamespace_inj hrest
      obtain rfl : b = b' := hbinding
      rfl

/-! ## Accepted passages -/

section
variable {lib : ExternalLibrary} {b : ExternalKnowledgeBinding}

/-- The passage that a candidate of a binding shows. -/
def passageOf (b : ExternalKnowledgeBinding) (candidate : ExternalKnowledgeCandidate lib) : Passage :=
  match b.source with
  | .dify datasetId .. => .dataset b.bindingId datasetId (candidate.documentId.getD "")
      candidate.chunkId candidate.contentSha256
  | .agentset namespaceId tenantId .. => .ofNamespace b.bindingId namespaceId tenantId
      candidate.chunkId candidate.contentSha256

/-- **The source of a candidate** is that of its passage. -/
theorem source_passageOf {candidate : ExternalKnowledgeCandidate lib} {source : String}
    (h : externalEvidenceSource b.provider b.bindingId b.sourceId candidate.documentId
      candidate.chunkId b.tenantId = .ok source) :
    (passageOf b candidate).WellFormed ∧ source = (passageOf b candidate).source ∧
      candidate.documentId = match b.source with
        | .dify .. => some (candidate.documentId.getD "")
        | .agentset .. => none := by
  unfold externalEvidenceSource at h
  unfold ExternalKnowledgeBinding.provider at h
  unfold ExternalKnowledgeBinding.sourceId at h
  unfold ExternalKnowledgeBinding.tenantId at h
  unfold passageOf
  have hdocument := candidate.valid_document
  cases hsource : b.source with
  | dify datasetId retrieval valid =>
    simp only [hsource] at h ⊢
    split at h
    · rename_i hdify
      cases hid : candidate.documentId with
      | none =>
        rw [hid] at hdify
        exact absurd hdify.2.1 Bool.false_ne_true
      | some documentId =>
        rw [hid] at h hdocument
        cases h
        exact ⟨⟨b.valid_id, valid, hdocument⟩, rfl, rfl⟩
    · split at h
      · rename_i hagentset
        exact absurd hagentset.1 (by decide)
      · cases h
  | agentset namespaceId tenantId retrieval valid valid_tenant =>
    simp only [hsource] at h ⊢
    split at h
    · rename_i hdify
      exact absurd hdify.1 (by decide)
    · split at h
      · rename_i hagentset
        cases h
        exact ⟨b.valid_id, rfl, hagentset.2⟩
      · cases h

theorem chunkId_passageOf (candidate : ExternalKnowledgeCandidate lib) :
    (passageOf b candidate).chunkId = candidate.chunkId := by
  unfold passageOf
  split <;> rfl

theorem digest_passageOf (candidate : ExternalKnowledgeCandidate lib) :
    (passageOf b candidate).digest = candidate.contentSha256 := by
  unfold passageOf
  split <;> rfl

/-- A chunk cites the passage of its candidate. -/
theorem citation_passageOf {minScore : PyFloat} {observedAt : String}
    {candidate : ExternalKnowledgeCandidate lib} {c : GovernedChunk}
    (h : chunkOf lib b minScore observedAt candidate = .ok c) :
    (passageOf b candidate).WellFormed ∧ c.citation = (passageOf b candidate).citation := by
  have hshows := chunkOf_shows h
  obtain ⟨hwell, hsource, -⟩ := source_passageOf hshows.source
  refine ⟨hwell, ?_⟩
  unfold Passage.citation
  rw [chunkId_passageOf, digest_passageOf, hshows.citation, hsource]

/-- What a chunk is called, and where its passage is. -/
def passageFields (c : GovernedChunk) : List (String × Json) :=
  [("evidence_id", .str c.evidenceId), ("source_id", .str c.sourceId),
    ("source_version_id", .str c.sourceVersionId), ("binding_id", .str c.bindingId),
    ("provider_name", .str c.providerName), ("document_id", .ofOption .str c.documentId),
    ("chunk_id", .str c.chunkId)]

/-- The fields of a passage. -/
def Passage.fields : Passage → List (String × Json)
  | dataset bindingId datasetId documentId chunkId digest =>
    [("evidence_id", .str (bindingId ++ ":" ++ chunkId ++ ":" ++ digest)),
      ("source_id", .str datasetId), ("source_version_id", .str ("sha256:" ++ digest)),
      ("binding_id", .str bindingId), ("provider_name", .str "dify"), ("document_id", .str documentId),
      ("chunk_id", .str chunkId)]
  | ofNamespace bindingId namespaceId _ chunkId digest =>
    [("evidence_id", .str (bindingId ++ ":" ++ chunkId ++ ":" ++ digest)),
      ("source_id", .str namespaceId), ("source_version_id", .str ("sha256:" ++ digest)),
      ("binding_id", .str bindingId), ("provider_name", .str "agentset"), ("document_id", .null),
      ("chunk_id", .str chunkId)]

/-- **A chunk's fields are those of its passage.** -/
theorem passageFields_eq {minScore : PyFloat} {observedAt : String}
    {candidate : ExternalKnowledgeCandidate lib} {c : GovernedChunk}
    (h : chunkOf lib b minScore observedAt candidate = .ok c) :
    passageFields c = (passageOf b candidate).fields := by
  obtain ⟨-, -, hdocument⟩ := source_passageOf (chunkOf_shows h).source
  unfold chunkOf at h
  obtain ⟨source, -, h⟩ := bind_ok h
  obtain ⟨_, -, h⟩ := bind_ok h
  cases pure_ok h
  unfold passageFields passageOf ExternalKnowledgeBinding.provider ExternalKnowledgeBinding.sourceId
  dsimp only
  cases hsource : b.source with
  | dify datasetId retrieval valid =>
    simp only [hsource] at hdocument ⊢
    rw [hdocument]
    rfl
  | agentset namespaceId tenantId retrieval valid valid_tenant =>
    simp only [hsource] at hdocument ⊢
    rw [hdocument]
    rfl

/-- The fields of a chunk that say which passage it shows. -/
def passageKeys : List String :=
  ["evidence_id", "source_id", "source_version_id", "binding_id", "provider_name", "document_id",
    "chunk_id"]

theorem details_get? (c : GovernedChunk) {key : String} (hkey : key ∈ passageKeys) :
    c.evidence.details.get? key = (passageFields c).lookup key := by
  have hreshape : ∀ fields : List (String × Json), fields.map (fun p => (p.1, p.2.reshape .float)) = fields →
      (fields.lookup key).map (Json.reshape .float) = fields.lookup key := by
    intro fields hfields
    rw [← Json.lookup_map, hfields]
  have hfields : (passageFields c).map (fun p => (p.1, p.2.reshape .float)) = passageFields c := by
    unfold passageFields
    cases c.documentId <;> rfl
  rw [← hreshape _ hfields]
  unfold GovernedChunk.evidence
  dsimp only
  rw [FrozenDict.get?_ofFields]
  congr 1
  unfold passageKeys at hkey
  simp only [List.mem_cons, List.not_mem_nil, or_false] at hkey
  rcases hkey with rfl | rfl | rfl | rfl | rfl | rfl | rfl <;> rfl

/-- Two chunks show the same passage of the same source, with contents of the same digest. -/
structure SamePassage (lib : ExternalLibrary) (x y : EvidenceChunk) : Prop where
  source : x.source = y.source
  details : ∀ key ∈ passageKeys, x.details.get? key = y.details.get? key
  digest : lib.sha256 x.content = lib.sha256 y.content

/-- Two bindings' chunks with one citation show the same passage. -/
theorem Admits.samePassage {b' : ExternalKnowledgeBinding} {minScore minScore' : PyFloat}
    {candidate candidate' : ExternalKnowledgeCandidate lib} {x y : EvidenceChunk}
    (hx : Admits lib b minScore candidate x) (hy : Admits lib b' minScore' candidate' y)
    (hsame : x.citation = y.citation) : SamePassage lib x y := by
  obtain ⟨_, c, hc, rfl⟩ := hx.made
  obtain ⟨_, c', hc', rfl⟩ := hy.made
  obtain ⟨hwell, hcites⟩ := citation_passageOf hc
  obtain ⟨hwell', hcites'⟩ := citation_passageOf hc'
  have hpassage : passageOf b candidate = passageOf b' candidate' := by
    refine citation_injective hwell hwell' ?_
    rw [← hcites, ← hcites']
    exact Option.some.inj hsame
  refine ⟨?_, fun key hkey => ?_, ?_⟩
  · have hsource := (source_passageOf (chunkOf_shows hc).source).2.1
    have hsource' := (source_passageOf (chunkOf_shows hc').source).2.1
    exact hsource.trans ((congrArg Passage.source hpassage).trans hsource'.symm)
  · rw [details_get? _ hkey, details_get? _ hkey]
    exact congrArg (List.lookup key)
      ((passageFields_eq hc).trans ((congrArg Passage.fields hpassage).trans (passageFields_eq hc').symm))
  · rw [hx.content, hy.content, candidate.verified.2.1, candidate'.verified.2.1,
      ← digest_passageOf (b := b), ← digest_passageOf (b := b'), hpassage]

end

/-- A chunk that some observation accepted, of any agent and at any time. -/
def AcceptedSomewhere (lib : ExternalLibrary) (chunk : EvidenceChunk) : Prop :=
  ∃ (W : Type) (answers : Answers.AnswerLibrary) (sources : ObservationSources W)
    (state : ControlledReActRunState) (action : ReActActionProposal) (identity : ObservationIdentity)
    (r : Retrieval W) (effect : ObservationEffect),
    (observe lib answers sources state action identity r).1 = .ok effect ∧ chunk ∈ acceptedBy effect

theorem AcceptedSomewhere.admits {lib : ExternalLibrary} {chunk : EvidenceChunk}
    (h : AcceptedSomewhere lib chunk) :
    ∃ (b : ExternalKnowledgeBinding) (minScore : PyFloat) (candidate : ExternalKnowledgeCandidate lib),
      Admits lib b minScore candidate chunk := by
  obtain ⟨W, answers, sources, state, action, identity, r, effect, hrun, hmem⟩ := h
  obtain ⟨_, _, _, haccepted⟩ :=
    ((@observe_emits _ lib answers sources state action identity) r).1 effect _ (Prod.ext hrun rfl)
  obtain ⟨b, -, data, row, candidate, -, -, -, hadmits⟩ := haccepted.2 chunk hmem
  exact ⟨b, _, candidate, hadmits⟩

/-- **An accepted citation names one passage.** Chunks that any two observations accepted under
the same citation are of the same segment of the same document of the same source, and their
contents have the same digest. -/
theorem citation_names_passage {lib : ExternalLibrary} {x y : EvidenceChunk}
    (hx : AcceptedSomewhere lib x) (hy : AcceptedSomewhere lib y) (hsame : x.citation = y.citation) :
    SamePassage lib x y := by
  obtain ⟨_, _, _, hadmits⟩ := hx.admits
  obtain ⟨_, _, _, hadmits'⟩ := hy.admits
  exact hadmits.samePassage hadmits' hsame

namespace Sample

/-- A library for texts without structured records. -/
def knowledgeLibrary : ExternalLibrary where
  sha256 _ := "5e1f"
  lower text := text
  loads _ := some (.obj [("query", .obj [("content", .str "Is water damage covered?")]),
    ("records", .arr [.obj [("segment", .obj [("id", .str "s1"), ("document_id", .str "d1"),
      ("content", .str "Water damage is covered."), ("enabled", .bool true),
      ("status", .str "completed")]), ("score", .int 1)]])])
  dumps _ := []
  parseStructuredEvidence _ := none
  sha256_hex _ := List.all_eq_true.mp (by decide)

def clauseBinding : ExternalKnowledgeBinding where
  bindingId := "clauses"
  endpoint := "https://knowledge.example"
  source := .dify "00000000-0000-4000-8000-000000000001"
    { topK := 3, scoreThreshold := ⟨.zero, by decide, by decide⟩, topK_range := by decide } (by decide)
  credentialRef := { protocolId := "local-environment-v1", handleId := "CLAUSES", versionId := some "1" }
  valid_id := by decide

/-- An agent with one source, at a time. -/
def clauseSources (now : String) : ObservationSources Unit where
  request _ := pure { statusCode := 200, headers := [("content-type", "application/json")], body := [] }
  secrets := {
    protocolId := "local-environment-v1"
    resolve := fun _ => pure { providerVersionId := some "1", revealed := some "token" } }
  timeoutSeconds := highestScore
  policy := { rules := [] }
  externalKnowledge := some { bindings := [clauseBinding], few := by decide, unique := by decide }
  emit _ _ := pure ()
  now := pure now
  cancellationCheck := pure ()
  preferredBindingIds := pure []
  retrieval := { strategy := "single_step", minScore := .zero }

def clauseState : ControlledReActRunState where
  runId := "run"
  templateName := "support"
  templateDescriptorVersion := "1"
  question := "Is water damage covered?"

def clauseAction : ReActActionProposal where
  actionId := "act"
  actionType := .runRetrievalStep
  reasoningSummary := {
    goal := "", observations := [], candidateActions := [], selectedAction := .runRetrievalStep
    rationaleSummary := "", riskFlags := [], requiredEvidence := [] }
  riskLevel := "low"

def clauseEffect (now : String) : Except ReactError ObservationEffect :=
  (observe knowledgeLibrary Answers.Sample.answerLibrary (clauseSources now) clauseState clauseAction
    ⟨"obs", "truth"⟩ ⟨(), []⟩).1

/-- The chunk of the one row. -/
def clauseChunk (now : String) : EvidenceChunk :=
  GovernedChunk.evidence {
    source := "external://clauses/datasets/00000000-0000-4000-8000-000000000001/documents/d1"
    content := "Water damage is covered."
    status := .accepted
    evidenceId := "clauses:s1:5e1f"
    sourceId := "00000000-0000-4000-8000-000000000001"
    sourceVersionId := "sha256:5e1f"
    bindingId := "clauses"
    providerName := "dify"
    documentId := some "d1"
    chunkId := "s1"
    providerNativeScore := highestScore
    admissionScore := some highestScore
    citation := "external://clauses/datasets/00000000-0000-4000-8000-000000000001/documents/d1" ++
      "#segment=s1&sha256=5e1f"
    structuredData := none
    tenantId := none
    observedAt := now
    contentSha256 := "5e1f" }

theorem clause_accepted {now : String}
    (h : ((clauseEffect now).toOption.any fun e => decide (clauseChunk now ∈ acceptedBy e)) = true) :
    AcceptedSomewhere knowledgeLibrary (clauseChunk now) := by
  cases hrun : clauseEffect now with
  | error e =>
    rw [hrun] at h
    cases h
  | ok effect =>
    rw [hrun] at h
    exact ⟨Unit, _, clauseSources now, clauseState, clauseAction, _, _, effect, hrun,
      of_decide_eq_true h⟩

end Sample

theorem citation_names_passage_twice :
    SamePassage Sample.knowledgeLibrary (Sample.clauseChunk "2026-01-01T00:00:00+00:00")
      (Sample.clauseChunk "2026-01-02T00:00:00+00:00") :=
  citation_names_passage (Sample.clause_accepted (by decide +kernel))
    (Sample.clause_accepted (by decide +kernel)) rfl

/-! ## Counting passages -/

section
variable {W : Type} {lib : ExternalLibrary} {ports : RetrievalPorts W}
  {request : KnowledgeRetrievalRequest} {sources : ExternalKnowledgeRuntime}

/-- A chunk of a candidate of a binding. -/
def OfBinding (lib : ExternalLibrary) (b : ExternalKnowledgeBinding) (c : GovernedChunk) : Prop :=
  ∃ minScore observedAt candidate, chunkOf lib b minScore observedAt candidate = .ok c

theorem bindingId_passageOf {b : ExternalKnowledgeBinding} (candidate : ExternalKnowledgeCandidate lib) :
    (passageOf b candidate).bindingId = b.bindingId := by
  unfold passageOf
  split <;> rfl

/-- Chunks with one citation are of one binding. -/
theorem OfBinding.sameBinding {b b' : ExternalKnowledgeBinding} {c c' : GovernedChunk}
    (h : OfBinding lib b c) (h' : OfBinding lib b' c') (hsame : c.citation = c'.citation) :
    b.bindingId = b'.bindingId := by
  obtain ⟨_, _, candidate, hc⟩ := h
  obtain ⟨_, _, candidate', hc'⟩ := h'
  obtain ⟨hwell, hcites⟩ := citation_passageOf hc
  obtain ⟨hwell', hcites'⟩ := citation_passageOf hc'
  have hpassage := citation_injective hwell hwell' (hcites.symm.trans (hsame.trans hcites'))
  rw [← bindingId_passageOf (b := b) candidate, hpassage, bindingId_passageOf]

/-- The chunks of candidates that have an identity each cite a passage each. -/
theorem nodup_citations {b : ExternalKnowledgeBinding} {minScore : PyFloat} {observedAt : String} :
    ∀ {candidates : List (ExternalKnowledgeCandidate lib)} {chunks : List GovernedChunk},
      (candidates.map fun c => (c.documentId, c.chunkId)).Nodup →
      candidates.mapM (chunkOf lib b minScore observedAt) = .ok chunks →
      (chunks.map (·.citation)).Nodup
  | [], _, _, h => by
    cases pure_ok h
    exact List.nodup_nil
  | candidate :: rest, _, hnodup, h => by
    rw [List.mapM_cons] at h
    obtain ⟨c, hc, h⟩ := bind_ok h
    obtain ⟨chunks, hchunks, h⟩ := bind_ok h
    cases pure_ok h
    rw [List.map_cons, List.nodup_cons] at hnodup
    rw [List.map_cons, List.nodup_cons]
    refine ⟨fun hmem => hnodup.1 ?_, nodup_citations hnodup.2 hchunks⟩
    obtain ⟨c', hc', hsame⟩ := List.mem_map.mp hmem
    obtain ⟨candidate', hcandidate', hmade⟩ := mapM_ok_mem hchunks hc'
    refine List.mem_map.mpr ⟨candidate', hcandidate', ?_⟩
    obtain ⟨hwell, hcites⟩ := citation_passageOf hc
    obtain ⟨hwell', hcites'⟩ := citation_passageOf hmade
    have hpassage := citation_injective hwell' hwell (hcites'.symm.trans (hsame.trans hcites))
    have hdocument := (source_passageOf (chunkOf_shows hc).source).2.2
    have hdocument' := (source_passageOf (chunkOf_shows hmade).source).2.2
    have hchunk : candidate'.chunkId = candidate.chunkId := by
      rw [← chunkId_passageOf (b := b) candidate', hpassage, chunkId_passageOf]
    rw [hchunk, hdocument, hdocument']
    unfold passageOf at hpassage
    cases hsource : b.source with
    | dify =>
      simp only [hsource] at hpassage ⊢
      obtain ⟨-, -, hid, -, -⟩ := Passage.dataset.inj hpassage
      rw [hid]
    | agentset => rfl

theorem sliceTo_sublist {α : Type} (n : Int) (xs : List α) : (sliceTo n xs).Sublist xs := by
  unfold sliceTo
  split <;> exact List.take_sublist ..

/-- A source gives a citation once. -/
theorem collectFrom_yields {b : ExternalKnowledgeBinding} (hmem : b ∈ sources.bindings) :
    Yields (collectFrom lib ports request sources b) fun chunks =>
      (chunks.map (·.citation)).Nodup ∧ ∀ c ∈ chunks, OfBinding lib b c := by
  unfold collectFrom
  refine Yields.andThen fun _ => ?_
  have hquery : Yields (sources.query lib ports.toProviderPorts b.bindingId request.question)
      fun result => ∃ data, providerResult lib b request.question data = some result := by
    refine Yields.of_emits (query_emits sources hmem) fun result _ h => ?_
    obtain ⟨-, data, -, hresult⟩ := h
    exact ⟨data, hresult⟩
  refine hquery.bind fun result hresult => ?_
  obtain ⟨data, hresult⟩ := hresult
  refine Yields.andThen fun _ => Yields.andThen fun _ => Yields.andThen fun observedAt => ?_
  refine Yields.ofExcept.bind fun chunks hchunks => Yields.andThen fun _ => Yields.ret ⟨?_, ?_⟩
  · obtain ⟨candidates, -, hnodup, htake⟩ := providerResult_some hresult
    refine nodup_citations (hnodup.sublist (List.Sublist.map _ ?_)) hchunks
    rw [htake]
    exact (sliceTo_sublist _ _).trans (List.take_sublist ..)
  · intro c hc
    obtain ⟨candidate, -, hmade⟩ := mapM_ok_mem hchunks hc
    exact ⟨_, _, candidate, hmade⟩

/-- **All sources together** give a citation once. -/
theorem collect_yields : ∀ {bindings : List ExternalKnowledgeBinding}, bindings ⊆ sources.bindings →
    (bindings.map (·.bindingId)).Nodup → Yields (collect lib ports request sources bindings)
      fun chunks => (chunks.map (·.citation)).Nodup ∧ ∀ c ∈ chunks, ∃ b ∈ bindings, OfBinding lib b c
  | [], _, _ => Yields.ret ⟨List.nodup_nil, fun _ h => absurd h List.not_mem_nil⟩
  | b :: rest, hsub, hnodup => by
    rw [List.map_cons, List.nodup_cons] at hnodup
    rw [collect]
    refine (collectFrom_yields (hsub (List.mem_cons_self ..))).bind fun chunks hchunks => ?_
    refine (collect_yields (fun b' hb' => hsub (List.mem_cons_of_mem _ hb')) hnodup.2).bind
      fun others hothers => Yields.ret ⟨?_, fun c hc => ?_⟩
    · rw [List.map_append, List.nodup_append]
      refine ⟨hchunks.1, hothers.1, fun x hx y hy hsame => hnodup.1 ?_⟩
      obtain ⟨c, hc, rfl⟩ := List.mem_map.mp hx
      obtain ⟨c', hc', rfl⟩ := List.mem_map.mp hy
      obtain ⟨b', hb', hof⟩ := hothers.2 c' hc'
      rw [(hchunks.2 c hc).sameBinding hof hsame]
      exact List.mem_map_of_mem hb'
    · rcases List.mem_append.mp hc with hc | hc
      · exact ⟨b, List.mem_cons_self .., hchunks.2 c hc⟩
      · obtain ⟨b', hb', hof⟩ := hothers.2 c hc
        exact ⟨b', List.mem_cons_of_mem _ hb', hof⟩

theorem retrieve_yields : Yields (retrieve lib ports request) fun result =>
    (result.evidence.map (·.citation)).Nodup := by
  have hresult : ∀ (evidence : List GovernedChunk) (reasonCode : String),
      (evidence.map (·.citation)).Nodup → Yields (resultForEvidence ports request evidence reasonCode)
        fun result => (result.evidence.map (·.citation)).Nodup := by
    intro evidence reasonCode hnodup
    refine (Yields.of_emits (resultForEvidence_evidence evidence reasonCode) fun _ _ h => h.2).mono
      fun result hevidence => ?_
    rw [hevidence]
    exact hnodup
  unfold retrieve
  cases ports.externalKnowledge with
  | none => exact hresult _ _ List.nodup_nil
  | some sources =>
    show Yields (retrieveExternal lib ports request sources) _
    unfold retrieveExternal
    refine Yields.andThen fun _ => Yields.andThen fun allowed => Yields.ite (fun _ => ?_) fun _ => ?_
    · refine (collect_yields (fun b hb => (List.mem_filter.mp hb).1)
        (sources.unique.sublist (List.Sublist.map _ List.filter_sublist))).bind fun chunks hchunks => ?_
      refine hresult _ _ ?_
      split
      · exact List.nodup_nil
      · exact hchunks.1
    · exact hresult _ _ List.nodup_nil

/-- What an observation's record says of the evidence. -/
structure CountsPassages (state : ControlledReActRunState) (effect : ObservationEffect) : Prop where
  /-- The record cites what was accepted. -/
  cites : (acceptedBy effect).map (·.citation) = effect.observationRecord.citationRefs.map some
  distinct : effect.observationRecord.citationRefs.Nodup
  accepted : effect.observationRecord.acceptedEvidenceCount =
    effect.observationRecord.citationRefs.length
  /-- What no earlier record cites is new. -/
  fresh : effect.observationRecord.newEvidenceCount =
    (effect.observationRecord.citationRefs.filter fun ref =>
      !state.observationRecords.any fun previous => previous.citationRefs.contains ref).length

/-- **An observation counts a passage once.** The record of an observation cites every accepted
chunk, no two under one citation, and counts as new the ones that no earlier record cites. -/
theorem observation_counts_passages (lib : ExternalLibrary) (answers : Answers.AnswerLibrary)
    (sources : ObservationSources W) (state : ControlledReActRunState) (action : ReActActionProposal)
    (identity : ObservationIdentity) :
    Yields (observe lib answers sources state action identity) (CountsPassages state) := by
  unfold observe
  refine Yields.andThen fun _ => Yields.andThen fun preferred => ?_
  refine retrieve_yields.bind fun result hnodup => Yields.andThen fun _ => ?_
  dsimp only
  refine Yields.andThen fun _ => Yields.andThen fun summary => Yields.ret ?_
  have hdistinct : ((admitEvidence result.evidence sources.retrieval.minScore).map
      (·.citation)).Nodup := by
    unfold admitEvidence
    rw [List.map_map]
    exact hnodup.sublist (List.Sublist.map _ List.filter_sublist)
  refine ⟨?_, hdistinct, ?_, ?_⟩
  · show ((admitEvidence _ _).map GovernedChunk.evidence).map (·.citation) =
      ((admitEvidence _ _).map (·.citation)).map some
    rw [List.map_map, List.map_map]
    rfl
  · show (((admitEvidence _ _).map GovernedChunk.evidence).length : Int) =
      ((admitEvidence _ _).map (·.citation)).length
    rw [List.length_map, List.length_map]
  · unfold retrievalRecord retrievalTruth
    dsimp only
    rw [hdistinct.dedup]

end

end ProofAgent.Knowledge
