import ProofAgent.Persistence.AgentRepository

/-! # What the calls on agents do

A call that returns writes the next revision of a draft, a version with its references and the
pointer to it, or the pointer alone; a call that raises leaves all tables as they were. -/
namespace ProofAgent.Agents

open Base Assets

variable {lib : AgentLibrary} {s t : AgentStore}

/-! ## One call -/

/-- A save of a draft wrote its first row, or the next revision. -/
inductive DraftSaved (draft : DraftAgent) (draftId : String) (expectedRevision : Int)
    (s t : AgentStore) : Prop
  | created (new : AgentDraftRow) (drafts : Table AgentDraftRow.draftId)
      (expected : expectedRevision = 0) (id : new.draftId = draftId)
      (agent : new.agentId = draft.agentId) (revision : new.revision = 1)
      (insert : s.drafts.insert? new = some drafts) (frame : t = { s with drafts }) :
      DraftSaved draft draftId expectedRevision s t
  | revised (old : AgentDraftRow) (updatedAt : Instant) (drafts : Table AgentDraftRow.draftId)
      (id : old.draftId = draftId) (agent : old.agentId = draft.agentId)
      (revision : (old.revision : Int) = expectedRevision) (expected : expectedRevision ≠ 0)
      (replaced : Table.Replaced s.drafts drafts old (old.next draft updatedAt))
      (frame : t = { s with drafts }) : DraftSaved draft draftId expectedRevision s t

theorem isRevision_iff {agentId draftId : String} {revision : Int} {row : AgentDraftRow} :
    isRevision agentId draftId revision row = true ↔
      row.draftId = draftId ∧ row.agentId = agentId ∧ (row.revision : Int) = revision := by
  unfold isRevision isDraft
  rw [Bool.and_eq_true, Bool.and_eq_true, decide_eq_true_iff, decide_eq_true_iff,
    decide_eq_true_iff, and_assoc]

theorem saveDraft_ok {draft : DraftAgent} {expectedRevision : Int} {record : AgentDraftRecord}
    (h : saveDraft lib draft expectedRevision s = (.ok record, t)) :
    ∃ draftId, lib.uuid draft.draftId = some draftId ∧
      DraftSaved draft draftId expectedRevision s t := by
  obtain ⟨_, h⟩ := Effect.require_bind_ok h
  obtain ⟨draftId, hid, h⟩ := Effect.ofExcept_bind_ok h
  obtain ⟨createdAt, _, h⟩ := Effect.ofExcept_bind_ok h
  obtain ⟨updatedAt, _, h⟩ := Effect.ofExcept_bind_ok h
  obtain ⟨revision, h, _⟩ := Effect.bind_pure_ok h
  obtain ⟨written, s₁, hwrite, hdone⟩ := Effect.bind_ok (Effect.transaction_ok h)
  refine ⟨draftId, orRaise_ok hid, ?_⟩
  cases written with
  | none => cases hdone
  | some revision =>
    cases hdone
    unfold insertOrUpdate at hwrite
    split at hwrite
    · rename_i hzero
      obtain ⟨_, hwrite⟩ := Effect.require_bind_ok hwrite
      have hwrite := Effect.read_bind_ok hwrite
      cases hinsert : s.drafts.insert? (firstRow draft draftId createdAt updatedAt) with
      | none =>
        rw [hinsert] at hwrite
        cases hwrite
      | some drafts =>
        rw [hinsert] at hwrite
        cases hwrite
        exact .created _ drafts hzero rfl rfl rfl hinsert rfl
    · rename_i hnonzero
      have hwrite := Effect.read_bind_ok hwrite
      cases hfound : s.drafts.rows.find? (isRevision draft.agentId draftId expectedRevision) with
      | none =>
        rw [hfound] at hwrite
        cases hwrite
      | some old =>
        rw [hfound] at hwrite
        obtain ⟨_, hwrite⟩ := Effect.require_bind_ok hwrite
        obtain ⟨_, hwrite⟩ := Effect.require_bind_ok hwrite
        cases hwrite
        have hmem := List.mem_of_find?_eq_some hfound
        have hold := isRevision_iff.mp (List.find?_some hfound)
        have hkey : ∀ r ∈ s.drafts.rows,
            isRevision draft.agentId draftId expectedRevision r = true → r.draftId = old.draftId :=
          fun r _ hr => (isRevision_iff.mp hr).1.trans hold.1.symm
        have hcount := Table.count_eq_one hmem (List.find?_some hfound) hkey
        obtain ⟨old', hold', hp, hreplaced⟩ := Table.replaced_of_update
          (fun row : AgentDraftRow => row.next draft updatedAt) (fun _ => rfl) hcount
        obtain rfl := Table.eq_of_key hold' hmem (hkey old' hold' hp)
        exact .revised old' updatedAt _ hold.1 hold.2.1 hold.2.2 hnonzero hreplaced rfl

/-- The pointer is set to a version. -/
structure PointerSet (activation : ActiveAgentVersion) (versionId : String) (s t : AgentStore) :
    Prop where
  rows : ∃ activatedAt, t.active = s.active.upsert
    { agentId := activation.agentId, versionId, activationJson := activation, activatedAt }
    (fun row => { row with versionId, activationJson := activation, activatedAt }) fun _ => rfl
  frame : t = { s with active := t.active }

theorem setActive_ok {activation : ActiveAgentVersion} {versionId : String} {u : Unit}
    (h : setActive lib activation versionId s = (.ok u, t)) : PointerSet activation versionId s t := by
  obtain ⟨activatedAt, _, h⟩ := Effect.ofExcept_bind_ok h
  cases h
  exact ⟨⟨activatedAt, rfl⟩, rfl⟩

theorem requirePointer_ok {agentId : String} {expected : Option String} {u : Unit}
    (h : requirePointer agentId expected s = (.ok u, t)) : s.pointer agentId = expected ∧ t = s := by
  have h := Effect.read_bind_ok h
  unfold Effect.require at h
  split at h
  · rename_i hexpected
    cases h
    exact ⟨hexpected, rfl⟩
  · cases h

/-- An activation moved the pointer, which was as expected, to a version that is there. -/
structure Activated (lib : AgentLibrary) (record : AgentActivationRecord) (s t : AgentStore) : Prop where
  expected : expectedPointer lib record.activePointerExpectation.versionId =
    .ok (s.pointer record.activation.agentId)
  target : ∃ row ∈ s.versions.rows, row.agentId = record.activation.agentId ∧
    lib.uuid record.activation.versionId = some row.versionId ∧
    PointerSet record.activation row.versionId s t

theorem activateVersion_ok {record result : AgentActivationRecord}
    (h : activateVersion lib record s = (.ok result, t)) : Activated lib record s t := by
  obtain ⟨versionId, hid, h⟩ := Effect.ofExcept_bind_ok h
  obtain ⟨expected, hexpected, h⟩ := Effect.ofExcept_bind_ok h
  obtain ⟨_, hdone, _⟩ := Effect.bind_pure_ok h
  obtain ⟨_, s₁, hpointer, hrest⟩ := Effect.bind_ok (Effect.transaction_ok hdone)
  obtain ⟨hpointer, hsame⟩ := requirePointer_ok hpointer
  rw [hsame] at hrest
  obtain ⟨hfound, hset⟩ := Effect.require_bind_ok (Effect.read_bind_ok hrest)
  obtain ⟨row, hrow⟩ := Option.isSome_iff_exists.mp hfound
  have hmatch := List.find?_some hrow
  rw [Bool.and_eq_true, decide_eq_true_iff, decide_eq_true_iff] at hmatch
  refine ⟨hexpected.trans (congrArg _ hpointer.symm), row, List.mem_of_find?_eq_some hrow, hmatch.1, ?_, ?_⟩
  · rw [hmatch.2]
    exact orRaise_ok hid
  · rw [hmatch.2]
    exact setActive_ok hset

/-- The version of a shared asset that a reference is about is there. -/
def Referred (lib : AgentLibrary) (s : AgentStore) (item : SharedAssetVersionRef) : Prop :=
  ∃ row ∈ (s.sharedVersions item.kind).rows, lib.uuid item.versionId = some row.versionId ∧
    row.assetId = item.assetId ∧ row.revision = item.revision ∧
    row.contentSha256 = item.contentDigest

theorem requireSharedAssetVersions_ok {references : List SharedAssetVersionRef} {u : Unit}
    (h : requireSharedAssetVersions lib references s = (.ok u, t)) :
    (∀ item ∈ references, Referred lib s item) ∧ t = s := by
  induction references with
  | nil =>
    cases h
    exact ⟨fun _ hitem => absurd hitem List.not_mem_nil, rfl⟩
  | cons item items ih =>
    obtain ⟨versionId, hid, h⟩ := Effect.ofExcept_bind_ok h
    have h := Effect.read_bind_ok h
    obtain ⟨hfound, h⟩ := Effect.require_bind_ok h
    obtain ⟨hrest, hsame⟩ := ih h
    obtain ⟨row, hrow, hmatch⟩ := List.any_eq_true.mp hfound
    unfold isReferred at hmatch
    simp only [Bool.and_eq_true, decide_eq_true_eq] at hmatch
    refine ⟨List.forall_mem_cons.mpr ⟨⟨row, hrow, ?_, hmatch.1.1.2, hmatch.1.2, hmatch.2⟩, hrest⟩, hsame⟩
    rw [hmatch.1.1.1]
    exact orRaise_ok hid

/-- The row records a reference of a version. -/
def Records (lib : AgentLibrary) (agentVersionId : String) (items : List SharedAssetVersionRef)
    (row : SharedAssetRefRow) : Prop :=
  ∃ item ∈ items, ∃ assetVersionId, lib.uuid item.versionId = some assetVersionId ∧
    row = refRow agentVersionId assetVersionId item

theorem insertRefs_ok {agentVersionId : String} {items : List SharedAssetVersionRef} {u : Unit} :
    ∀ {s : AgentStore}, insertRefs lib agentVersionId items s = (.ok u, t) →
      (∀ row, row ∈ t.sharedAssetRefs.rows ↔
        row ∈ s.sharedAssetRefs.rows ∨ Records lib agentVersionId items row) ∧
      t = { s with sharedAssetRefs := t.sharedAssetRefs } := by
  induction items with
  | nil =>
    intro s h
    cases h
    exact ⟨fun row => ⟨.inl, fun h => h.elim id fun ⟨_, hitem, _⟩ => absurd hitem List.not_mem_nil⟩, rfl⟩
  | cons item items ih =>
    intro s h
    obtain ⟨_, s₁, hone, hrest⟩ := Effect.bind_ok h
    obtain ⟨assetVersionId, hid, hone⟩ := Effect.ofExcept_bind_ok hone
    have hone := Effect.read_bind_ok hone
    cases hinsert : s.sharedAssetRefs.insert? (refRow agentVersionId assetVersionId item) with
    | none =>
      rw [hinsert] at hone
      cases hone
    | some refs =>
      rw [hinsert] at hone
      cases hone
      obtain ⟨hrows, hframe⟩ := ih hrest
      obtain ⟨hinserted, _⟩ := Table.insert?_some hinsert
      refine ⟨fun row => ?_, hframe⟩
      have hid := orRaise_ok hid
      rw [hrows, hinserted, List.mem_append, List.mem_singleton]
      constructor
      · rintro ((hrow | rfl) | ⟨other, hother, hrow⟩)
        · exact .inl hrow
        · exact .inr ⟨item, List.mem_cons_self, assetVersionId, hid, rfl⟩
        · exact .inr ⟨other, List.mem_cons_of_mem _ hother, hrow⟩
      · rintro (hrow | ⟨other, hother, id, hother', rfl⟩)
        · exact .inl (.inl hrow)
        · rcases List.mem_cons.mp hother with rfl | hother
          · obtain rfl := Option.some.inj (hid.symm.trans hother')
            exact .inl (.inr rfl)
          · exact .inr ⟨other, hother, id, hother', rfl⟩

/-- A publication added a version of a draft, with its references, and set the pointer to it. -/
structure Published (lib : AgentLibrary) (publication : AgentPublicationRecord) (s t : AgentStore)
    (draft : AgentDraftRow) (new : AgentVersionRow) : Prop where
  expected : ∀ expectation ∈ publication.activePointerExpectation,
    expectedPointer lib expectation.versionId = .ok (s.pointer publication.version.agentId)
  draft_mem : draft ∈ s.drafts.rows
  draft_agent : draft.agentId = publication.version.agentId
  draft_revision : draft.revision = publication.draftRevision
  contract : ∃ persisted, lib.validateDraft draft.draftJson = .ok persisted ∧
    publication.version.contractBundle.eq persisted.contractBundle = true
  version : new.versionJson = publication.version
  version_id : lib.uuid publication.version.versionId = some new.versionId
  agent : new.agentId = publication.version.agentId
  source : new.sourceDraftId = draft.draftId ∧ new.sourceDraftRevision = draft.revision
  source_id : lib.uuid publication.version.sourceDraftId = some draft.draftId
  referred : ∀ item ∈ publication.version.resolvedSharedAssetVersions.versions, Referred lib s item
  insert : s.versions.insert? new = some t.versions
  refs : ∀ row, row ∈ t.sharedAssetRefs.rows ↔ row ∈ s.sharedAssetRefs.rows ∨
    Records lib new.versionId publication.version.resolvedSharedAssetVersions.versions row
  pointer : ∃ s₁ : AgentStore, s₁.active = s.active ∧
    PointerSet publication.activation new.versionId s₁ t
  frame : t = { s with
    versions := t.versions, sharedAssetRefs := t.sharedAssetRefs, active := t.active }

theorem requireExpectation_ok {agentId : String} {expectation : Option ActiveAgentPointerExpectation}
    {u : Unit} (h : requireExpectation lib agentId expectation s = (.ok u, t)) :
    (∀ e ∈ expectation, expectedPointer lib e.versionId = .ok (s.pointer agentId)) ∧ t = s := by
  cases expectation with
  | none =>
    cases h
    exact ⟨fun _ he => (nomatch he), rfl⟩
  | some expectation =>
    obtain ⟨expected, hparsed, h⟩ := Effect.ofExcept_bind_ok h
    obtain ⟨hpointer, hsame⟩ := requirePointer_ok h
    refine ⟨fun e he => ?_, hsame⟩
    obtain rfl := Option.some.inj he
    rw [hparsed, hpointer]

theorem lockDraft_ok {version : PublishedAgentVersion} {draftId : String}
    {expectedDraftRevision : Int} {row : AgentDraftRow}
    (h : lockDraft version draftId expectedDraftRevision s = (.ok row, t)) :
    row ∈ s.drafts.rows ∧ row.draftId = draftId ∧ row.agentId = version.agentId ∧
      (row.revision : Int) = expectedDraftRevision ∧ t = s := by
  have h := Effect.read_bind_ok h
  cases hfound : s.drafts.rows.find? (isDraft version.agentId draftId) with
  | none =>
    rw [hfound] at h
    cases h
  | some found =>
    rw [hfound] at h
    obtain ⟨hrevision, h⟩ := Effect.require_bind_ok h
    cases h
    have hdraft := List.find?_some hfound
    unfold isDraft at hdraft
    rw [Bool.and_eq_true, decide_eq_true_iff, decide_eq_true_iff] at hdraft
    exact ⟨List.mem_of_find?_eq_some hfound, hdraft.1, hdraft.2, hrevision, rfl⟩

theorem insertVersion_ok {version : PublishedAgentVersion} {versionId draftId : String}
    {draftRevision : Nat} {u : Unit}
    (h : insertVersion lib version versionId draftId draftRevision s = (.ok u, t)) :
    ∃ new, s.versions.insert? new = some t.versions ∧ new.versionId = versionId ∧
      new.agentId = version.agentId ∧ new.sourceDraftId = draftId ∧
      new.sourceDraftRevision = draftRevision ∧ new.versionJson = version ∧
      t = { s with versions := t.versions } := by
  obtain ⟨publishedAt, _, h⟩ := Effect.ofExcept_bind_ok h
  have h := Effect.read_bind_ok h
  cases hinsert : s.versions.insert? (versionRow version versionId draftId draftRevision publishedAt) with
  | none =>
    rw [hinsert] at h
    cases h
  | some versions =>
    rw [hinsert] at h
    cases h
    exact ⟨_, hinsert, rfl, rfl, rfl, rfl, rfl, rfl⟩

theorem publishVersion_ok {publication result : AgentPublicationRecord} {expectedDraftRevision : Int}
    (h : publishVersion lib publication expectedDraftRevision s = (.ok result, t)) :
    ∃ draft new, Published lib publication s t draft new := by
  obtain ⟨hexpected, h⟩ := Effect.require_bind_ok h
  obtain ⟨versionId, hid, h⟩ := Effect.ofExcept_bind_ok h
  obtain ⟨draftId, hdraftId, h⟩ := Effect.ofExcept_bind_ok h
  obtain ⟨_, h, _⟩ := Effect.bind_pure_ok h
  obtain ⟨_, s₁, hpointer, hrest⟩ := Effect.bind_ok (Effect.transaction_ok h)
  obtain ⟨hpointer, hsame⟩ := requireExpectation_ok hpointer
  rw [hsame] at hrest
  obtain ⟨draft, s₂, hlock, hrest⟩ := Effect.bind_ok hrest
  obtain ⟨hmem, hdraft, hagent, hrevision, hsame⟩ := lockDraft_ok hlock
  rw [hsame] at hrest
  obtain ⟨persisted, hpersisted, hrest⟩ := Effect.ofExcept_bind_ok hrest
  obtain ⟨hcontract, hrest⟩ := Effect.require_bind_ok hrest
  obtain ⟨_, hrest⟩ := Effect.require_bind_ok (Effect.read_bind_ok hrest)
  obtain ⟨_, s₃, hreferred, hrest⟩ := Effect.bind_ok hrest
  obtain ⟨hreferred, hsame⟩ := requireSharedAssetVersions_ok hreferred
  rw [hsame] at hrest
  obtain ⟨_, s₄, hversion, hrest⟩ := Effect.bind_ok hrest
  obtain ⟨new, hinsert, hnewId, hnewAgent, hsource, hsourceRevision, hjson, hs₄⟩ :=
    insertVersion_ok hversion
  obtain ⟨_, s₅, hrefs, hset⟩ := Effect.bind_ok hrest
  obtain ⟨hrefs, hs₅⟩ := insertRefs_ok hrefs
  have hset := setActive_ok hset
  have ht := hset.frame
  rw [hs₅, hs₄] at ht
  refine ⟨draft, new, {
    expected := hpointer
    draft_mem := hmem
    draft_agent := hagent
    draft_revision := Int.ofNat.inj (hrevision.trans hexpected.symm)
    contract := ⟨persisted, hpersisted, hcontract⟩
    version := hjson
    version_id := by rw [hnewId]; exact orRaise_ok hid
    agent := hnewAgent
    source := ⟨hsource.trans hdraft.symm, hsourceRevision⟩
    source_id := by rw [hdraft]; exact orRaise_ok hdraftId
    referred := hreferred
    insert := by rw [ht]; exact hinsert
    refs := fun row => ?_
    pointer := ⟨s₅, by rw [hs₅, hs₄], by rw [hnewId]; exact hset⟩
    frame := by rw [ht] }⟩
  have hrow := hrefs row
  rw [hs₄] at hrow
  rw [ht, hnewId]
  exact hrow

/-- A version was added to a shared asset. -/
structure AssetAdded (s t : AgentStore) : Prop where
  kept : ∀ kind, (s.sharedVersions kind).rows ⊆ (t.sharedVersions kind).rows
  frame : t = { s with
    modelConnectionVersions := t.modelConnectionVersions, toolSourceVersions := t.toolSourceVersions }

theorem addAssetVersion_ok {kind : SharedAssetKind} {row : AssetVersionRow} {u : Unit}
    (h : addAssetVersion kind row s = (.ok u, t)) : AssetAdded s t := by
  have h := Effect.read_bind_ok h
  cases hinsert : (s.sharedVersions kind).insert? row with
  | none =>
    rw [hinsert] at h
    cases kind <;> cases h
  | some versions =>
    rw [hinsert] at h
    have hrows := (Table.insert?_some hinsert).1
    cases kind with
    | modelConnection =>
      cases h
      refine ⟨fun kind => ?_, rfl⟩
      cases kind with
      | modelConnection =>
        show s.modelConnectionVersions.rows ⊆ versions.rows
        rw [hrows]
        exact List.subset_append_left _ _
      | toolSource => exact List.Subset.refl _
    | toolSource =>
      cases h
      refine ⟨fun kind => ?_, rfl⟩
      cases kind with
      | modelConnection => exact List.Subset.refl _
      | toolSource =>
        show s.toolSourceVersions.rows ⊆ versions.rows
        rw [hrows]
        exact List.subset_append_left _ _

/-- What a call that returned has done. -/
inductive Changed (lib : AgentLibrary) : AgentCall → AgentStore → AgentStore → Prop
  | saved {draft : DraftAgent} {expectedRevision : Int} {draftId : String} {s t : AgentStore} :
    lib.uuid draft.draftId = some draftId → DraftSaved draft draftId expectedRevision s t →
    Changed lib (.saveDraft draft expectedRevision) s t
  | published {publication : AgentPublicationRecord} {expectedDraftRevision : Int}
    {s t : AgentStore} {draft : AgentDraftRow} {new : AgentVersionRow} :
    Published lib publication s t draft new →
    Changed lib (.publishVersion publication expectedDraftRevision) s t
  | activated {record : AgentActivationRecord} {s t : AgentStore} : Activated lib record s t →
    Changed lib (.activateVersion record) s t
  | added {kind : SharedAssetKind} {row : AssetVersionRow} {s t : AgentStore} : AssetAdded s t →
    Changed lib (.addAssetVersion kind row) s t

theorem exec_ok {c : AgentCall} {u : Unit} (h : c.exec lib s = (.ok u, t)) : Changed lib c s t := by
  cases c with
  | saveDraft draft expectedRevision =>
    obtain ⟨record, h, _⟩ := Effect.bind_pure_ok h
    obtain ⟨draftId, hid, hsaved⟩ := saveDraft_ok h
    exact .saved hid hsaved
  | publishVersion publication expectedDraftRevision =>
    obtain ⟨record, h, _⟩ := Effect.bind_pure_ok h
    obtain ⟨draft, new, hpublished⟩ := publishVersion_ok h
    exact .published hpublished
  | activateVersion record =>
    obtain ⟨record, h, _⟩ := Effect.bind_pure_ok h
    exact .activated (activateVersion_ok h)
  | addAssetVersion kind row => exact .added (addAssetVersion_ok h)

/-! ## Calls that raise -/

theorem atomic_saveDraft (draft : DraftAgent) (expectedRevision : Int) :
    Atomic (saveDraft lib draft expectedRevision) :=
  .bind .require fun _ => .bind .ofExcept fun _ => .bind .ofExcept fun _ => .bind .ofExcept fun _ =>
    .bind_pure .transaction _

theorem atomic_activateVersion (record : AgentActivationRecord) :
    Atomic (activateVersion lib record) :=
  .bind .ofExcept fun _ => .bind .ofExcept fun _ => .bind_pure .transaction _

theorem atomic_publishVersion (publication : AgentPublicationRecord) (expectedDraftRevision : Int) :
    Atomic (publishVersion lib publication expectedDraftRevision) :=
  .bind .require fun _ => .bind .ofExcept fun _ => .bind .ofExcept fun _ =>
    .bind_pure .transaction _

theorem atomic_addAssetVersion (kind : SharedAssetKind) (row : AssetVersionRow) :
    Atomic (addAssetVersion kind row) := by
  refine .bind .read fun s => ?_
  cases (s.sharedVersions kind).insert? row with
  | none => cases kind <;> exact fun _ _ _ h => by cases h; rfl
  | some versions => cases kind <;> exact fun _ _ _ h => by cases h

/-- **A call that raises** leaves all tables as they were. -/
theorem exec_error {c : AgentCall} {e : AgentError} (h : c.exec lib s = (.error e, t)) : t = s := by
  have hatomic : Atomic (c.exec lib) := by
    cases c with
    | saveDraft draft expectedRevision => exact .bind_pure (atomic_saveDraft draft expectedRevision) _
    | publishVersion publication expectedDraftRevision =>
      exact .bind_pure (atomic_publishVersion publication expectedDraftRevision) _
    | activateVersion record => exact .bind_pure (atomic_activateVersion record) _
    | addAssetVersion kind row => exact atomic_addAssetVersion kind row
  exact hatomic s e t h

/-- A call leaves the tables alone, or returns. -/
theorem exec_cases (lib : AgentLibrary) (c : AgentCall) (s : AgentStore) :
    ((c.exec lib s).1.isOk = false ∧ (c.exec lib s).2 = s) ∨
      ((c.exec lib s).1.isOk = true ∧ Changed lib c s (c.exec lib s).2) := by
  rcases h : c.exec lib s with ⟨e | u, t⟩
  · exact .inl ⟨rfl, exec_error h⟩
  · exact .inr ⟨rfl, exec_ok h⟩

end ProofAgent.Agents
