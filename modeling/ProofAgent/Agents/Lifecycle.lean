import ProofAgent.Agents.Calls

/-! # The lifecycle of agents

Drafts, versions and active pointers after any calls, in any order. The revision of a draft
counts its saves, versions stay as they were published, with the contract of their draft at the
revision that they name, and the tables agree; of two calls that expect the pointer at one
version, the later one fails once the other has moved it. -/
namespace ProofAgent.Agents

open Base Assets

variable {lib : AgentLibrary} {s t : AgentStore}

/-! ## Revisions of drafts -/

/-- The revision of a draft, zero before its first save. -/
def AgentStore.revision (s : AgentStore) (draftId : String) : Nat :=
  ((s.drafts.find? draftId).map (·.revision)).getD 0

/-- The call saves the draft. -/
def AgentCall.saves (lib : AgentLibrary) (draftId : String) : AgentCall → Bool
  | saveDraft draft _ => lib.uuid draft.draftId = some draftId
  | _ => false

/-- The call saves the draft over a revision. -/
def AgentCall.savesOver (lib : AgentLibrary) (draftId : String) (revision : Int) :
    AgentCall → Bool
  | saveDraft draft expectedRevision =>
    lib.uuid draft.draftId = some draftId && expectedRevision = revision
  | _ => false

/-- How many calls of a kind return. -/
def returns (lib : AgentLibrary) (kind : AgentCall → Bool) : AgentStore → List AgentCall → Nat
  | _, [] => 0
  | s, c :: calls =>
    (if kind c && (c.exec lib s).1.isOk then 1 else 0) + returns lib kind (c.exec lib s).2 calls

theorem revision_of_find {draftId : String} {row : AgentDraftRow}
    (h : s.drafts.find? draftId = some row) : s.revision draftId = row.revision := by
  unfold AgentStore.revision
  rw [h]
  rfl

theorem revision_congr {draftId : String} (h : t.drafts.find? draftId = s.drafts.find? draftId) :
    t.revision draftId = s.revision draftId := by
  unfold AgentStore.revision
  rw [h]

/-- A save goes from the expected revision of its draft to the next one. -/
theorem DraftSaved.revision {draft : DraftAgent} {draftId : String} {expectedRevision : Int}
    (h : DraftSaved draft draftId expectedRevision s t) :
    (s.revision draftId : Int) = expectedRevision ∧ t.revision draftId = s.revision draftId + 1 := by
  cases h with
  | created new drafts hexpected hid _ hrevision hinsert hframe =>
    obtain ⟨hrows, hfresh⟩ := Table.insert?_some hinsert
    have habsent : s.drafts.find? draftId = none :=
      Table.find?_eq_none_iff.mpr fun r hr => by rw [← hid]; exact hfresh r hr
    have hfound : t.drafts.find? draftId = some new := by
      rw [hframe, ← hid]
      refine Table.find?_of_mem ?_
      rw [hrows]
      exact List.mem_append_right _ (List.mem_singleton_self _)
    have hzero : s.revision draftId = 0 := by
      unfold AgentStore.revision
      rw [habsent]
      rfl
    rw [revision_of_find hfound, hzero, hexpected, hrevision]
    exact ⟨rfl, rfl⟩
  | revised old updatedAt drafts hid _ hrevision _ hreplaced hframe =>
    have hbefore : s.drafts.find? draftId = some old := by
      rw [← hid]
      exact Table.find?_of_mem hreplaced.mem_old
    have hafter : t.drafts.find? draftId = some (old.next draft updatedAt) := by
      rw [hframe, ← hid]
      exact hreplaced.find?_new
    rw [revision_of_find hbefore, revision_of_find hafter]
    exact ⟨hrevision, rfl⟩

theorem DraftSaved.find?_ne {draft : DraftAgent} {draftId other : String} {expectedRevision : Int}
    (h : DraftSaved draft draftId expectedRevision s t) (hne : other ≠ draftId) :
    t.drafts.find? other = s.drafts.find? other := by
  cases h with
  | created new drafts _ hid _ _ hinsert hframe =>
    obtain ⟨hrows, _⟩ := Table.insert?_some hinsert
    rw [hframe]
    refine Option.ext fun row => ?_
    rw [Table.find?_eq_some_iff, Table.find?_eq_some_iff, hrows, List.mem_append, List.mem_singleton]
    refine and_congr_left fun hrow => ⟨fun hmem => hmem.resolve_right ?_, .inl⟩
    rintro rfl
    exact hne (hrow.symm.trans hid)
  | revised old updatedAt drafts hid _ _ _ hreplaced hframe =>
    rw [hframe]
    exact hreplaced.find?_ne fun he => hne (he.trans hid)

/-- Other calls leave the drafts alone. -/
theorem Changed.drafts {c : AgentCall} (h : Changed lib c s t)
    (hother : ∀ draft expectedRevision, c ≠ .saveDraft draft expectedRevision) :
    t.drafts = s.drafts := by
  cases h with
  | saved _ _ => exact absurd rfl (hother _ _)
  | published h => rw [h.frame]
  | activated h =>
    obtain ⟨_, _, _, _, hset⟩ := h.target
    rw [hset.frame]
  | added h => rw [h.frame]

/-- **One call** advances the revision of a draft exactly if it is a save of it that returns. -/
theorem revision_exec (c : AgentCall) (s : AgentStore) (draftId : String) :
    (c.exec lib s).2.revision draftId = s.revision draftId +
      if c.saves lib draftId && (c.exec lib s).1.isOk then 1 else 0 := by
  rcases exec_cases lib c s with ⟨hraise, hsame⟩ | ⟨hreturn, hchanged⟩
  · rw [hraise, hsame, Bool.and_false]
    rfl
  · rw [hreturn, Bool.and_true]
    cases hsaves : c.saves lib draftId with
    | true =>
      cases c with
      | saveDraft draft expectedRevision =>
        cases hchanged with
        | saved hid hsaved =>
          have hsame := hid.symm.trans (of_decide_eq_true hsaves)
          rw [Option.some.inj hsame] at hsaved
          exact hsaved.revision.2
      | publishVersion _ _ => cases hsaves
      | activateVersion _ => cases hsaves
      | addAssetVersion _ _ => cases hsaves
    | false =>
      refine (revision_congr ?_).trans (Nat.add_zero _).symm
      cases c with
      | saveDraft draft expectedRevision =>
        cases hchanged with
        | saved hid hsaved =>
          refine hsaved.find?_ne fun he => ?_
          rw [he] at hsaves
          exact absurd hid (of_decide_eq_false hsaves)
      | publishVersion _ _ => rw [hchanged.drafts fun _ _ => nofun]
      | activateVersion _ => rw [hchanged.drafts fun _ _ => nofun]
      | addAssetVersion _ _ => rw [hchanged.drafts fun _ _ => nofun]

/-- **The revision counts the saves** that returned. -/
theorem revision_afterAll (draftId : String) : ∀ (calls : List AgentCall) (s : AgentStore),
    (afterAll (AgentCall.exec lib) s calls).revision draftId =
      s.revision draftId + returns lib (AgentCall.saves lib draftId) s calls
  | [], s => (Nat.add_zero _).symm
  | c :: calls, s => by
    rw [afterAll_cons, revision_afterAll draftId calls, revision_exec, returns, Nat.add_assoc]

/-- A save over a revision returns at that revision only. -/
theorem savesOver_exec {c : AgentCall} {draftId : String} {revision : Int}
    (hsaves : c.savesOver lib draftId revision = true) (hreturn : (c.exec lib s).1.isOk = true) :
    (s.revision draftId : Int) = revision ∧ c.saves lib draftId = true := by
  rcases exec_cases lib c s with ⟨hraise, _⟩ | ⟨_, hchanged⟩
  · exact absurd (hraise.symm.trans hreturn) Bool.false_ne_true
  · cases c with
    | saveDraft draft expectedRevision =>
      obtain ⟨hsame, hexpected⟩ := Bool.and_eq_true_iff.mp hsaves
      cases hchanged with
      | saved hid hsaved =>
        rw [Option.some.inj (hid.symm.trans (of_decide_eq_true hsame))] at hsaved
        exact ⟨hsaved.revision.1.trans (of_decide_eq_true hexpected), hsame⟩
    | publishVersion _ _ => cases hsaves
    | activateVersion _ => cases hsaves
    | addAssetVersion _ _ => cases hsaves

/-- **One save over a revision** returns, at most. -/
theorem savesOver_once (draftId : String) (revision : Int) :
    ∀ (calls : List AgentCall) (s : AgentStore),
      returns lib (AgentCall.savesOver lib draftId revision) s calls ≤
        if revision < s.revision draftId then 0 else 1
  | [], s => Nat.zero_le _
  | c :: calls, s => by
    have ih := savesOver_once draftId revision calls (c.exec lib s).2
    have hstep := @revision_exec lib c s draftId
    rw [returns]
    cases hone : c.savesOver lib draftId revision && (c.exec lib s).1.isOk with
    | true =>
      obtain ⟨hsaves, hreturn⟩ := Bool.and_eq_true_iff.mp hone
      obtain ⟨hexact, hsaves⟩ := savesOver_exec hsaves hreturn
      rw [hsaves, hreturn] at hstep
      have hnext : revision < ((c.exec lib s).2.revision draftId : Int) := by
        rw [hstep, ← hexact]
        simp
      rw [if_pos hnext] at ih
      have hnot : ¬ revision < (s.revision draftId : Int) := by omega
      rw [if_neg hnot]
      simpa using ih
    | false =>
      by_cases hpast : revision < s.revision draftId
      · have hnext : revision < ((c.exec lib s).2.revision draftId : Int) := by
          rw [hstep]
          push_cast
          split <;> omega
        rw [if_pos hnext] at ih
        rw [if_pos hpast]
        simpa using ih
      · rw [if_neg hpast]
        have hle : (if revision < ((c.exec lib s).2.revision draftId : Int) then 0 else 1) ≤ 1 := by
          split <;> omega
        simpa using ih.trans hle

/-! ## Versions and their drafts -/

/-- The row stays, or a later revision of the draft is there. -/
def Succeeds (r r' : AgentDraftRow) : Prop :=
  r'.draftId = r.draftId ∧ r'.agentId = r.agentId ∧ (r' = r ∨ r.revision < r'.revision)

theorem Succeeds.refl (r : AgentDraftRow) : Succeeds r r := ⟨rfl, rfl, .inl rfl⟩

theorem Succeeds.trans {r r' r'' : AgentDraftRow} (h : Succeeds r r') (h' : Succeeds r' r'') :
    Succeeds r r'' := by
  refine ⟨h'.1.trans h.1, h'.2.1.trans h.2.1, ?_⟩
  rcases h.2.2 with rfl | hlt
  · exact h'.2.2
  · rcases h'.2.2 with rfl | hlt'
    · exact .inr hlt
    · exact .inr (hlt.trans hlt')

theorem drafts_exec (c : AgentCall) (s : AgentStore) :
    Table.Evolves Succeeds s.drafts (c.exec lib s).2.drafts := by
  rcases exec_cases lib c s with ⟨_, hsame⟩ | ⟨_, hchanged⟩
  · rw [hsame]
    exact .refl Succeeds.refl
  · generalize (c.exec lib s).2 = t at hchanged
    cases hchanged with
    | saved _ hsaved =>
      cases hsaved with
      | created new drafts _ _ _ _ hinsert hframe =>
        rw [hframe]
        exact .of_insert Succeeds.refl hinsert
      | revised old updatedAt drafts _ _ _ _ hreplaced hframe =>
        rw [hframe]
        exact .of_replaced Succeeds.refl hreplaced ⟨rfl, rfl, .inr (Nat.lt_succ_self _)⟩
    | published h =>
      rw [h.frame]
      exact .refl Succeeds.refl
    | activated h =>
      obtain ⟨_, _, _, _, hset⟩ := h.target
      rw [hset.frame]
      exact .refl Succeeds.refl
    | added h =>
      rw [h.frame]
      exact .refl Succeeds.refl

theorem drafts_afterAll (s : AgentStore) (calls : List AgentCall) :
    Table.Evolves Succeeds s.drafts (afterAll (AgentCall.exec lib) s calls).drafts :=
  afterAll_related (I := fun _ => True) (R := fun s t => Table.Evolves Succeeds s.drafts t.drafts)
    (fun _ _ _ => trivial) (fun _ _ => .refl Succeeds.refl)
    (fun _ _ _ => .trans fun _ _ _ h h' => h.trans h') (fun c s _ => drafts_exec c s) calls s trivial

theorem versions_exec (c : AgentCall) (s : AgentStore) :
    s.versions.rows <+: (c.exec lib s).2.versions.rows := by
  rcases exec_cases lib c s with ⟨_, hsame⟩ | ⟨_, hchanged⟩
  · rw [hsame]
  · generalize (c.exec lib s).2 = t at hchanged
    cases hchanged with
    | saved _ hsaved => cases hsaved with
      | created _ _ _ _ _ _ _ hframe => rw [hframe]
      | revised _ _ _ _ _ _ _ _ hframe => rw [hframe]
    | published h =>
      rw [(Table.insert?_some h.insert).1]
      exact List.prefix_append _ _
    | activated h =>
      obtain ⟨_, _, _, _, hset⟩ := h.target
      rw [hset.frame]
    | added h => rw [h.frame]

/-- **A version that is published** stays as it is. -/
theorem versions_afterAll (s : AgentStore) (calls : List AgentCall) :
    s.versions.rows <+: (afterAll (AgentCall.exec lib) s calls).versions.rows :=
  afterAll_related (I := fun _ => True) (R := fun s t => s.versions.rows <+: t.versions.rows)
    (fun _ _ _ => trivial) (fun _ _ => List.prefix_rfl) (fun _ _ _ => List.IsPrefix.trans)
    (fun c s _ => versions_exec c s) calls s trivial

/-! ## Versions, references and pointers -/

/-- The tables agree. -/
structure Sound (lib : AgentLibrary) (s : AgentStore) : Prop where
  columns : ∀ v ∈ s.versions.rows, v.versionJson.agentId = v.agentId ∧
    lib.uuid v.versionJson.versionId = some v.versionId ∧
    lib.uuid v.versionJson.sourceDraftId = some v.sourceDraftId
  referred : ∀ v ∈ s.versions.rows, ∀ item ∈ v.versionJson.resolvedSharedAssetVersions.versions,
    Referred lib s item
  recorded : ∀ row, row ∈ s.sharedAssetRefs.rows ↔ ∃ v ∈ s.versions.rows,
    Records lib v.versionId v.versionJson.resolvedSharedAssetVersions.versions row
  pointers : ∀ row ∈ s.active.rows, ∃ v ∈ s.versions.rows,
    v.versionId = row.versionId ∧ v.agentId = row.agentId

theorem sound_empty : Sound lib .empty where
  columns _ h := (nomatch h)
  referred _ h := (nomatch h)
  recorded _ := ⟨fun h => (nomatch h), fun ⟨_, h, _⟩ => (nomatch h)⟩
  pointers _ h := (nomatch h)

theorem Referred.mono {item : SharedAssetVersionRef} (h : Referred lib s item)
    (hkept : (s.sharedVersions item.kind).rows ⊆ (t.sharedVersions item.kind).rows) :
    Referred lib t item := by
  obtain ⟨row, hrow, hid, hasset, hrevision, hdigest⟩ := h
  exact ⟨row, hkept hrow, hid, hasset, hrevision, hdigest⟩

/-- After the pointer is set, the pointers are the old ones and the new one. -/
theorem PointerSet.mem {activation : ActiveAgentVersion} {versionId : String}
    (h : PointerSet activation versionId s t) {row : ActiveAgentVersionRow}
    (hrow : row ∈ t.active.rows) :
    row ∈ s.active.rows ∨ row.agentId = activation.agentId ∧ row.versionId = versionId := by
  obtain ⟨activatedAt, hrows⟩ := h.rows
  rw [hrows, Table.mem_upsert] at hrow
  rcases hrow with ⟨hrow, _⟩ | ⟨rfl, _⟩ | ⟨old, _, hkey, rfl⟩
  · exact .inl hrow
  · exact .inr ⟨rfl, rfl⟩
  · exact .inr ⟨hkey, rfl⟩

theorem PointerSet.pointers {activation : ActiveAgentVersion} {versionId : String}
    (h : PointerSet activation versionId s t)
    (hs : ∀ row ∈ s.active.rows, ∃ v ∈ s.versions.rows,
      v.versionId = row.versionId ∧ v.agentId = row.agentId)
    (htarget : ∃ v ∈ s.versions.rows, v.versionId = versionId ∧ v.agentId = activation.agentId) :
    ∀ row ∈ t.active.rows, ∃ v ∈ t.versions.rows,
      v.versionId = row.versionId ∧ v.agentId = row.agentId := by
  have hversions : t.versions = s.versions := by rw [h.frame]
  rw [hversions]
  intro row hrow
  rcases h.mem hrow with hrow | ⟨hagent, hid⟩
  · exact hs row hrow
  · rw [hagent, hid]
    exact htarget

/-- Calls that leave versions, references, pointers and shared assets alone. -/
theorem Sound.of_drafts (h : Sound lib s) (drafts : Table AgentDraftRow.draftId) :
    Sound lib { s with drafts } where
  columns := h.columns
  referred := h.referred
  recorded := h.recorded
  pointers := h.pointers

theorem Published.sound {publication : AgentPublicationRecord} {draft : AgentDraftRow}
    {new : AgentVersionRow} (h : Published lib publication s t draft new) (hs : Sound lib s) :
    Sound lib t := by
  have hrows := (Table.insert?_some h.insert).1
  have hassets : ∀ kind, t.sharedVersions kind = s.sharedVersions kind := by
    intro kind
    rw [h.frame]
    cases kind <;> rfl
  obtain ⟨s₁, hactive, hset⟩ := h.pointer
  have hnew : new ∈ t.versions.rows := by
    rw [hrows]
    exact List.mem_append_right _ (List.mem_singleton_self _)
  constructor
  · intro v hv
    rw [hrows] at hv
    rcases List.mem_append.mp hv with hv | hv
    · exact hs.columns v hv
    · obtain rfl := List.mem_singleton.mp hv
      rw [h.version, h.source.1]
      exact ⟨h.agent.symm, h.version_id, h.source_id⟩
  · intro v hv item hitem
    rw [hrows] at hv
    have hreferred : Referred lib s item := by
      rcases List.mem_append.mp hv with hv | hv
      · exact hs.referred v hv item hitem
      · obtain rfl := List.mem_singleton.mp hv
        rw [h.version] at hitem
        exact h.referred item hitem
    exact hreferred.mono (by rw [hassets]; exact List.Subset.refl _)
  · intro row
    rw [h.refs, hs.recorded, hrows]
    constructor
    · rintro (⟨v, hv, hrow⟩ | hrow)
      · exact ⟨v, List.mem_append_left _ hv, hrow⟩
      · refine ⟨new, List.mem_append_right _ (List.mem_singleton_self _), ?_⟩
        rw [h.version]
        exact hrow
    · rintro ⟨v, hv, hrow⟩
      rcases List.mem_append.mp hv with hv | hv
      · exact .inl ⟨v, hv, hrow⟩
      · obtain rfl := List.mem_singleton.mp hv
        rw [h.version] at hrow
        exact .inr hrow
  · intro row hrow
    rcases hset.mem hrow with hrow | ⟨hagent, hid⟩
    · rw [hactive] at hrow
      obtain ⟨v, hv, hversion⟩ := hs.pointers row hrow
      refine ⟨v, ?_, hversion⟩
      rw [hrows]
      exact List.mem_append_left _ hv
    · exact ⟨new, hnew, hid.symm, by rw [hagent, h.agent, publication.agent_id]⟩

theorem sound_exec (c : AgentCall) (s : AgentStore) (hs : Sound lib s) :
    Sound lib (c.exec lib s).2 := by
  rcases exec_cases lib c s with ⟨_, hsame⟩ | ⟨_, hchanged⟩
  · rw [hsame]
    exact hs
  · generalize (c.exec lib s).2 = t at hchanged
    cases hchanged with
    | saved _ hsaved => cases hsaved with
      | created _ drafts _ _ _ _ _ hframe =>
        rw [hframe]
        exact hs.of_drafts drafts
      | revised _ _ drafts _ _ _ _ _ hframe =>
        rw [hframe]
        exact hs.of_drafts drafts
    | published h => exact h.sound hs
    | activated h =>
      obtain ⟨v, hv, hagent, _, hset⟩ := h.target
      have hpointers := hset.pointers hs.pointers ⟨v, hv, rfl, hagent⟩
      rw [hset.frame] at hpointers ⊢
      exact ⟨hs.columns, hs.referred, hs.recorded, hpointers⟩
    | added h =>
      have hversions : t.versions = s.versions := by rw [h.frame]
      have hrefs : t.sharedAssetRefs = s.sharedAssetRefs := by rw [h.frame]
      have hactive : t.active = s.active := by rw [h.frame]
      constructor
      · rw [hversions]
        exact hs.columns
      · rw [hversions]
        exact fun v hv item hitem => (hs.referred v hv item hitem).mono (h.kept item.kind)
      · rw [hversions, hrefs]
        exact hs.recorded
      · rw [hversions, hactive]
        exact hs.pointers

/-- **The tables agree** after any calls. -/
theorem sound_afterAll (lib : AgentLibrary) (calls : List AgentCall) :
    Sound lib (afterAll (AgentCall.exec lib) .empty calls) :=
  afterAll_invariant (I := Sound lib) sound_exec calls .empty sound_empty

/-! ## The contracts of versions -/

theorem isDraft_iff {agentId draftId : String} {row : AgentDraftRow} :
    isDraft agentId draftId row = true ↔ row.draftId = draftId ∧ row.agentId = agentId := by
  unfold isDraft
  rw [Bool.and_eq_true, decide_eq_true_iff, decide_eq_true_iff]

/-- What `get_draft` finds is what a row says. -/
theorem getDraft_some {agentId draftId : String} {record : AgentDraftRecord} :
    (getDraft lib agentId draftId s).1 = .ok (some record) ↔ ∃ row ∈ s.drafts.rows,
      lib.uuid draftId = some row.draftId ∧ row.agentId = agentId ∧
      row.revision = record.revision ∧ lib.validateDraft row.draftJson = .ok record.draft := by
  unfold getDraft uuidValue
  cases hid : lib.uuid draftId with
  | none => exact ⟨nofun, fun ⟨_, _, h, _⟩ => (nomatch h)⟩
  | some id =>
    rw [orRaise_some, Effect.ok_then, Effect.read_then]
    cases hfound : s.drafts.rows.find? (isDraft agentId id) with
    | none =>
      refine ⟨nofun, fun ⟨row, hrow, hsame, hagent, _⟩ => ?_⟩
      have hnone := List.find?_eq_none.mp hfound row hrow
      exact absurd (isDraft_iff.mpr ⟨(Option.some.inj hsame).symm, hagent⟩) hnone
    | some row =>
      have hmem := List.mem_of_find?_eq_some hfound
      obtain ⟨hrow, hagent⟩ := isDraft_iff.mp (List.find?_some hfound)
      constructor
      · intro h
        cases hvalid : lib.validateDraft row.draftJson with
        | error e =>
          dsimp only at h
          rw [hvalid] at h
          cases h
        | ok draft =>
          dsimp only at h
          rw [hvalid] at h
          cases h
          exact ⟨row, hmem, congrArg some hrow.symm, hagent, rfl, hvalid⟩
      · rintro ⟨other, hother, hsame, _, hrevision, hvalid⟩
        obtain rfl := Table.eq_of_key hother hmem ((Option.some.inj hsame).symm.trans hrow.symm)
        dsimp only
        rw [hvalid]
        show Except.ok (some _) = _
        rw [hrevision]

/-- The version has the contract that its draft had at the revision that it names, after some
of the calls. -/
def Sourced (lib : AgentLibrary) (calls : List AgentCall) (v : AgentVersionRow) : Prop :=
  ∃ first rest, calls = first ++ rest ∧ ∃ record,
    (getDraft lib v.agentId v.versionJson.sourceDraftId
      (afterAll (AgentCall.exec lib) .empty first)).1 = .ok (some record) ∧
    record.revision = v.sourceDraftRevision ∧
    v.versionJson.contractBundle.eq record.draft.contractBundle = true

/-- **Every version is sourced.** -/
theorem sourced_afterAll (calls : List AgentCall) :
    ∀ v ∈ (afterAll (AgentCall.exec lib) .empty calls).versions.rows, Sourced lib calls v := by
  induction calls using List.reverseRecOn with
  | nil => exact fun _ h => (nomatch h)
  | append_singleton calls c ih =>
    intro v hv
    have hkept : v ∈ (afterAll (AgentCall.exec lib) .empty calls).versions.rows →
        Sourced lib (calls ++ [c]) v := by
      intro hv
      obtain ⟨first, rest, hcalls, hdraft⟩ := ih v hv
      exact ⟨first, rest ++ [c], by rw [hcalls, List.append_assoc], hdraft⟩
    rw [afterAll_append, afterAll_cons, afterAll_nil] at hv
    generalize hs : afterAll (AgentCall.exec lib) .empty calls = s at hv hkept
    rcases exec_cases lib c s with ⟨_, hsame⟩ | ⟨_, hchanged⟩
    · rw [hsame] at hv
      exact hkept hv
    · generalize (c.exec lib s).2 = t at hv hchanged
      cases hchanged with
      | saved _ hsaved => cases hsaved with
        | created _ _ _ _ _ _ _ hframe =>
          rw [hframe] at hv
          exact hkept hv
        | revised _ _ _ _ _ _ _ _ hframe =>
          rw [hframe] at hv
          exact hkept hv
      | activated h =>
        obtain ⟨_, _, _, _, hset⟩ := h.target
        rw [hset.frame] at hv
        exact hkept hv
      | added h =>
        rw [h.frame] at hv
        exact hkept hv
      | @published _ _ _ _ draft new h =>
        rw [(Table.insert?_some h.insert).1] at hv
        rcases List.mem_append.mp hv with hv | hv
        · exact hkept hv
        · obtain rfl := List.mem_singleton.mp hv
          obtain ⟨persisted, hvalid, hcontract⟩ := h.contract
          refine ⟨calls, [_], rfl, ⟨persisted, draft.revision⟩, ?_, h.source.2.symm, ?_⟩
          · rw [hs, getDraft_some, h.version]
            exact ⟨draft, h.draft_mem, h.source_id, h.draft_agent.trans h.agent.symm, rfl, hvalid⟩
          · rw [h.version]
            exact hcontract

/-- A revision of a draft stays as it is while it is there. -/
theorem revision_later {first more : List AgentCall} {row row' : AgentDraftRow}
    (hrow : row ∈ (afterAll (AgentCall.exec lib) .empty first).drafts.rows)
    (hrow' : row' ∈ (afterAll (AgentCall.exec lib) .empty (first ++ more)).drafts.rows)
    (hid : row'.draftId = row.draftId) (hrevision : row'.revision = row.revision) : row' = row := by
  rw [afterAll_append] at hrow'
  obtain ⟨later, hlater, hkey, _, hsucceeds⟩ := drafts_afterAll _ more row hrow
  obtain rfl := Table.eq_of_key hrow' hlater (hid.trans hkey.symm)
  rcases hsucceeds with hsame | hlt
  · exact hsame
  · omega

/-- **A revision of a draft has one content.** -/
theorem revision_content {first rest first' rest' : List AgentCall}
    (hcalls : first ++ rest = first' ++ rest') {agentId draftId : String}
    {record record' : AgentDraftRecord}
    (h : (getDraft lib agentId draftId (afterAll (AgentCall.exec lib) .empty first)).1 =
      .ok (some record))
    (h' : (getDraft lib agentId draftId (afterAll (AgentCall.exec lib) .empty first')).1 =
      .ok (some record')) (hrevision : record'.revision = record.revision) : record' = record := by
  obtain ⟨row, hrow, hid, _, hat, hvalid⟩ := getDraft_some.mp h
  obtain ⟨row', hrow', hid', _, hat', hvalid'⟩ := getDraft_some.mp h'
  have hkey : row'.draftId = row.draftId := Option.some.inj (hid'.symm.trans hid)
  have hsame : row' = row := by
    rcases List.append_eq_append_iff.mp hcalls with ⟨more, rfl, _⟩ | ⟨more, rfl, _⟩
    · exact revision_later hrow hrow' hkey (by omega)
    · exact (revision_later hrow' hrow hkey.symm (by omega)).symm
  subst hsame
  have hdraft := hvalid.symm.trans hvalid'
  obtain ⟨draft, revision⟩ := record
  obtain ⟨draft', revision'⟩ := record'
  cases hdraft
  cases hrevision
  rfl

/-! ## Expectations of the pointer -/

/-- The agent whose pointer a call expects to be at a version, and the version. -/
def AgentCall.expectation : AgentCall → Option (String × ActiveAgentPointerExpectation)
  | publishVersion publication _ =>
    publication.activePointerExpectation.map fun expectation =>
      (publication.version.agentId, expectation)
  | activateVersion record => some (record.activation.agentId, record.activePointerExpectation)
  | _ => none

/-- The call expects the pointer of the agent to be at the version. -/
def AgentCall.Expects (lib : AgentLibrary) (c : AgentCall) (agentId : String)
    (pointer : Option String) : Prop :=
  ∃ expectation, c.expectation = some (agentId, expectation) ∧
    expectedPointer lib expectation.versionId = .ok pointer

/-- **A call with an expectation** returns only where the pointer is as expected. -/
theorem expected_of_return {c : AgentCall} (hreturn : (c.exec lib s).1.isOk = true)
    {agentId : String} {expectation : ActiveAgentPointerExpectation}
    (hexpects : c.expectation = some (agentId, expectation)) :
    expectedPointer lib expectation.versionId = .ok (s.pointer agentId) := by
  rcases exec_cases lib c s with ⟨hraise, _⟩ | ⟨_, hchanged⟩
  · exact absurd (hraise.symm.trans hreturn) Bool.false_ne_true
  · generalize (c.exec lib s).2 = t at hchanged
    cases hchanged with
    | saved _ _ => cases hexpects
    | published h =>
      obtain ⟨e, he, heq⟩ := Option.map_eq_some_iff.mp hexpects
      cases heq
      exact h.expected _ he
    | activated h =>
      cases hexpects
      exact h.expected
    | added _ => cases hexpects

/-- What holds after any calls, in any order, from empty tables on. -/
structure LifecycleLaws (lib : AgentLibrary) (calls : List AgentCall) : Prop where
  /-- The revision of a draft counts the saves of it that returned. -/
  revision : ∀ draftId, (afterAll (AgentCall.exec lib) .empty calls).revision draftId =
    returns lib (AgentCall.saves lib draftId) .empty calls
  /-- Of the saves over one revision, one returns at most. -/
  once : ∀ draftId revision, returns lib (AgentCall.savesOver lib draftId revision) .empty calls ≤ 1
  /-- No published version is changed or removed. -/
  immutable : ∀ first rest, calls = first ++ rest →
    (afterAll (AgentCall.exec lib) .empty first).versions.rows <+:
      (afterAll (AgentCall.exec lib) .empty calls).versions.rows
  /-- Every version has the contract of its draft at the revision that it names, -/
  sourced : ∀ v ∈ (afterAll (AgentCall.exec lib) .empty calls).versions.rows, Sourced lib calls v
  /-- and a revision has one content. -/
  content : ∀ first rest first' rest', calls = first ++ rest → calls = first' ++ rest' →
    ∀ agentId draftId record record',
      (getDraft lib agentId draftId (afterAll (AgentCall.exec lib) .empty first)).1 =
        .ok (some record) →
      (getDraft lib agentId draftId (afterAll (AgentCall.exec lib) .empty first')).1 =
        .ok (some record') →
      record'.revision = record.revision → record' = record
  /-- References are to versions of shared assets, and pointers to versions of their agents. -/
  sound : Sound lib (afterAll (AgentCall.exec lib) .empty calls)
  /-- A call with an expectation returns only where the pointer is as expected. -/
  expected : ∀ first c rest, calls = first ++ c :: rest →
    (c.exec lib (afterAll (AgentCall.exec lib) .empty first)).1.isOk = true →
    ∀ agentId expectation, c.expectation = some (agentId, expectation) →
      expectedPointer lib expectation.versionId =
        .ok ((afterAll (AgentCall.exec lib) .empty first).pointer agentId)
  /-- Two calls with one expectation, of which the first moves the pointer, return only if
  another call, without that expectation, brings the pointer back in between. -/
  race : ∀ first c between c' rest, calls = first ++ c :: (between ++ c' :: rest) →
    ∀ agentId pointer, c.Expects lib agentId pointer → c'.Expects lib agentId pointer →
    (afterAll (AgentCall.exec lib) .empty (first ++ [c])).pointer agentId ≠ pointer →
    (c'.exec lib (afterAll (AgentCall.exec lib) .empty (first ++ c :: between))).1.isOk = true →
    ∃ before d more, between = before ++ d :: more ∧ ¬ d.Expects lib agentId pointer ∧
      (afterAll (AgentCall.exec lib) .empty (first ++ c :: before)).pointer agentId ≠ pointer ∧
      (afterAll (AgentCall.exec lib) .empty (first ++ c :: (before ++ [d]))).pointer agentId = pointer
  /-- A call that raises leaves all tables as they were. -/
  unchanged : ∀ first c rest, calls = first ++ c :: rest →
    (c.exec lib (afterAll (AgentCall.exec lib) .empty first)).1.isOk = false →
    afterAll (AgentCall.exec lib) .empty (first ++ [c]) = afterAll (AgentCall.exec lib) .empty first

theorem pointer_race {c' : AgentCall} {between : List AgentCall} {agentId : String}
    {pointer : Option String} (hexpects : c'.Expects lib agentId pointer)
    (hmoved : s.pointer agentId ≠ pointer)
    (hreturn : (c'.exec lib (afterAll (AgentCall.exec lib) s between)).1.isOk = true) :
    ∃ before d more, between = before ++ d :: more ∧ ¬ d.Expects lib agentId pointer ∧
      (afterAll (AgentCall.exec lib) s before).pointer agentId ≠ pointer ∧
      (d.exec lib (afterAll (AgentCall.exec lib) s before)).2.pointer agentId = pointer := by
  obtain ⟨expectation, hcarries, hpointer⟩ := hexpects
  have hback : (afterAll (AgentCall.exec lib) s between).pointer agentId = pointer :=
    Except.ok.inj ((expected_of_return hreturn hcarries).symm.trans hpointer)
  obtain ⟨before, d, more, hbetween, haway, hbrought⟩ :=
    afterAll_crossing (P := fun s : AgentStore => s.pointer agentId = pointer) hmoved hback
  refine ⟨before, d, more, hbetween, ?_, haway, hbrought⟩
  -- a call with that expectation would have raised
  rintro ⟨e, he, hd⟩
  rcases exec_cases lib d (afterAll (AgentCall.exec lib) s before) with ⟨_, hsame⟩ | ⟨hreturned, _⟩
  · rw [hsame] at hbrought
    exact haway hbrought
  · exact haway (Except.ok.inj ((expected_of_return hreturned he).symm.trans hd))

/-- **The lifecycle of agents.** -/
theorem lifecycle_laws (lib : AgentLibrary) (calls : List AgentCall) : LifecycleLaws lib calls where
  revision draftId := (revision_afterAll draftId calls .empty).trans (Nat.zero_add _)
  once draftId revision := by
    refine (savesOver_once draftId revision calls .empty).trans ?_
    split <;> omega
  immutable first rest hcalls := by
    rw [hcalls, afterAll_append]
    exact versions_afterAll _ rest
  sourced := sourced_afterAll calls
  content first rest first' rest' hcalls hcalls' agentId draftId record record' h h' :=
    revision_content (hcalls.symm.trans hcalls') h h'
  sound := sound_afterAll lib calls
  expected first c rest _ hreturn agentId expectation hexpects := expected_of_return hreturn hexpects
  race first c between c' rest _ agentId pointer _ hexpects hmoved hreturn := by
    rw [afterAll_append, afterAll_cons] at hmoved hreturn
    obtain ⟨before, d, more, hbetween, hnot, haway, hbrought⟩ :=
      pointer_race hexpects hmoved hreturn
    refine ⟨before, d, more, hbetween, hnot, ?_, ?_⟩
    · rw [afterAll_append, afterAll_cons]
      exact haway
    · rw [afterAll_append, afterAll_cons, afterAll_append]
      exact hbrought
  unchanged first c rest _ hraise := by
    rw [afterAll_append, afterAll_cons, afterAll_nil]
    rcases exec_cases lib c (afterAll (AgentCall.exec lib) .empty first) with ⟨_, hsame⟩ | ⟨hreturn, _⟩
    · exact hsame
    · exact absurd (hraise.symm.trans hreturn) Bool.false_ne_true

end ProofAgent.Agents
