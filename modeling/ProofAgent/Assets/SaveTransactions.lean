import ProofAgent.Persistence.VersionedAssets

/-! # What a save does

A transaction of a save looks, refuses, finds its content in place, or writes the next
version. The versions of an asset stay the revisions from one to that of its base row,
which holds the content of the last one. -/
namespace ProofAgent.Assets

open Base

variable (repository : VersionedAssetRepository)

/-! ## Consistent stores -/

/-- The revision of an asset, or zero where there is none. -/
def AssetStore.revision (s : AssetStore) (assetId : String) : Nat :=
  ((s.assets.find? assetId).map (·.revision)).getD 0

/-- The current content of an asset. -/
def AssetStore.content? (s : AssetStore) (assetId : String) : Option FrozenDict :=
  (s.assets.find? assetId).map (·.configuration)

/-- The versions of each asset are the revisions from one to that of its base row, each once,
and the base row holds the content of the last one. -/
structure Consistent (s : AssetStore) : Prop where
  current : ∀ asset ∈ s.assets.rows, ∃ row ∈ s.versions.rows, row.assetId = asset.assetId ∧
    row.revision = asset.revision ∧ row.version = asset.configuration
  digest : ∀ row ∈ s.versions.rows, row.contentSha256 = repository.payloadDigest row.version
  complete : ∀ asset ∈ s.assets.rows, ∀ k, 1 ≤ k → k ≤ asset.revision →
    ∃ row ∈ s.versions.rows, row.assetId = asset.assetId ∧ row.revision = k
  bounded : ∀ row ∈ s.versions.rows, ∃ asset ∈ s.assets.rows, asset.assetId = row.assetId ∧
    1 ≤ row.revision ∧ row.revision ≤ asset.revision
  unique : ∀ row ∈ s.versions.rows, ∀ other ∈ s.versions.rows, row.assetId = other.assetId →
    row.revision = other.revision → row = other

/-- What a save writes: the next version of its asset, and its base row. -/
structure Written (request : SaveRequest) (ref : SharedAssetVersionRef) (s t : AssetStore) : Prop where
  expected : (s.revision request.assetId : Int) = request.expectedRevision
  changed : s.content? request.assetId ≠ some request.payload
  version : ∃ updatedAt, t.versions.rows = s.versions.rows ++
      [versionRow repository request (s.revision request.assetId + 1) updatedAt] ∧
    ref = repository.versionRef
      (versionRow repository request (s.revision request.assetId + 1) updatedAt)
  base : ∃ asset ∈ t.assets.rows, asset.assetId = request.assetId ∧
    asset.revision = s.revision request.assetId + 1 ∧ asset.configuration = request.payload
  others : ∀ row, row.assetId ≠ request.assetId → (row ∈ t.assets.rows ↔ row ∈ s.assets.rows)

/-- The database takes the rows of a save. -/
structure Acceptable (request : SaveRequest) (s : AssetStore) : Prop where
  createdAt : request.createdAt.isSome = true
  updatedAt : request.updatedAt.isSome = true
  ordered : ∀ createdAt updatedAt, request.createdAt = some createdAt →
    request.updatedAt = some updatedAt →
    ((s.assets.find? request.assetId).map (·.createdAt)).getD createdAt ≤ updatedAt
  fresh : ∀ row ∈ s.versions.rows, row.versionId ≠ request.versionId

/-- What a transaction of a save does, that leaves it with the result `r`. -/
inductive Saved (request : SaveRequest) :
    Option (Except AssetError SharedAssetVersionRef) → AssetStore → AssetStore → Prop where
  | looked {s : AssetStore} (absent : s.revision request.assetId = 0)
      (expected : request.expectedRevision = 0) : Saved request none s s
  | refused {s : AssetStore} (e : AssetError)
      (why : (s.revision request.assetId : Int) ≠ request.expectedRevision ∨
        s.content? request.assetId ≠ some request.payload ∧ ¬ Acceptable request s) :
      Saved request (some (.error e)) s s
  | kept {s : AssetStore} {row : AssetVersionRow} (mem : row ∈ s.versions.rows)
      (asset : row.assetId = request.assetId)
      (revision : row.revision = s.revision request.assetId)
      (expected : (s.revision request.assetId : Int) = request.expectedRevision)
      (content : s.content? request.assetId = some request.payload) :
      Saved request (some (.ok (repository.versionRef row))) s s
  | written {ref : SharedAssetVersionRef} {s t : AssetStore} (h : Written repository request ref s t) :
      Saved request (some (.ok ref)) s t

section
variable {repository} {s t : AssetStore} {request : SaveRequest} {assetId : String}

theorem consistent_empty : Consistent repository .empty where
  current _ h := (nomatch h)
  digest _ h := (nomatch h)
  complete _ h := (nomatch h)
  bounded _ h := (nomatch h)
  unique _ h := (nomatch h)

theorem payloadDigest_inj {a b : FrozenDict} :
    repository.payloadDigest a = repository.payloadDigest b ↔ a = b :=
  ⟨fun h => repository.dumps_injective (repository.sha256_injective h), fun h => by rw [h]⟩

theorem revision_of_find {asset : AssetRow} (h : s.assets.find? assetId = some asset) :
    s.revision assetId = asset.revision := by
  unfold AssetStore.revision
  rw [h]
  rfl

theorem revision_of_absent (h : s.assets.find? assetId = none) : s.revision assetId = 0 := by
  unfold AssetStore.revision
  rw [h]
  rfl

theorem revision_of_mem {asset : AssetRow} (h : asset ∈ s.assets.rows) :
    s.revision asset.assetId = asset.revision :=
  revision_of_find (Table.find?_of_mem h)

/-- An asset has a base row from its first revision on. -/
theorem Consistent.revision_pos (h : Consistent repository s) {asset : AssetRow}
    (hasset : asset ∈ s.assets.rows) : 1 ≤ asset.revision := by
  obtain ⟨row, hrow, hid, hrevision, _⟩ := h.current asset hasset
  obtain ⟨_, _, _, hpos, _⟩ := h.bounded row hrow
  omega

/-- No version is past the revision of its asset. -/
theorem Consistent.bound (h : Consistent repository s) {row : AssetVersionRow}
    (hrow : row ∈ s.versions.rows) : row.revision ≤ s.revision row.assetId := by
  obtain ⟨asset, hasset, hid, _, hle⟩ := h.bounded row hrow
  rw [← hid, revision_of_mem hasset]
  exact hle

/-- The next version of an asset, in a store that has been consistent. -/
theorem Written.consistent {ref : SharedAssetVersionRef} (h : Written repository request ref s t)
    (hs : Consistent repository s) : Consistent repository t := by
  obtain ⟨updatedAt, hversions, _⟩ := h.version
  obtain ⟨base, hbase, hid, hrevision, hcontent⟩ := h.base
  have hold : ∀ row ∈ s.versions.rows, row ∈ t.versions.rows := fun row hrow => by
    rw [hversions]
    exact List.mem_append_left _ hrow
  have hnew : versionRow repository request (s.revision request.assetId + 1) updatedAt ∈
      t.versions.rows := by
    rw [hversions]
    exact List.mem_append_right _ (List.mem_singleton_self _)
  have hcases : ∀ row ∈ t.versions.rows, row ∈ s.versions.rows ∨
      row = versionRow repository request (s.revision request.assetId + 1) updatedAt := by
    intro row hrow
    rw [hversions] at hrow
    exact (List.mem_append.mp hrow).imp_right List.mem_singleton.mp
  have hassets : ∀ asset ∈ t.assets.rows, asset = base ∨
      asset.assetId ≠ request.assetId ∧ asset ∈ s.assets.rows := by
    intro asset hasset
    by_cases hsame : asset.assetId = request.assetId
    · exact .inl (Table.eq_of_key hasset hbase (hsame.trans hid.symm))
    · exact .inr ⟨hsame, (h.others asset hsame).mp hasset⟩
  refine ⟨fun asset hasset => ?_, fun row hrow => ?_, fun asset hasset k hpos hle => ?_,
    fun row hrow => ?_, fun row hrow other hother hasset hsame => ?_⟩
  · rcases hassets asset hasset with rfl | ⟨_, hasset⟩
    · exact ⟨_, hnew, hid.symm, hrevision.symm, hcontent.symm⟩
    · obtain ⟨row, hrow, hrest⟩ := hs.current asset hasset
      exact ⟨row, hold row hrow, hrest⟩
  · rcases hcases row hrow with hrow | rfl
    · exact hs.digest row hrow
    · rfl
  · rcases hassets asset hasset with rfl | ⟨_, hasset⟩
    · by_cases hlast : k = s.revision request.assetId + 1
      · exact ⟨_, hnew, hid.symm, hlast.symm⟩
      · cases hfind : s.assets.find? request.assetId with
        | none =>
          rw [revision_of_absent hfind] at hrevision hlast
          omega
        | some old =>
          obtain ⟨hmem, hkey⟩ := Table.find?_some hfind
          rw [revision_of_find hfind] at hrevision hlast
          obtain ⟨row, hrow, hrowAsset, hk⟩ := hs.complete old hmem k hpos (by omega)
          exact ⟨row, hold row hrow, hrowAsset.trans (hkey.trans hid.symm), hk⟩
    · obtain ⟨row, hrow, hrest⟩ := hs.complete asset hasset k hpos hle
      exact ⟨row, hold row hrow, hrest⟩
  · rcases hcases row hrow with hrow | rfl
    · obtain ⟨asset, hasset, hsame, hpos, hle⟩ := hs.bounded row hrow
      by_cases hkey : asset.assetId = request.assetId
      · refine ⟨base, hbase, hid.trans (hkey.symm.trans hsame), hpos, ?_⟩
        rw [← hkey, revision_of_mem hasset] at hrevision
        omega
      · exact ⟨asset, (h.others asset hkey).mpr hasset, hsame, hpos, hle⟩
    · refine ⟨base, hbase, hid, Nat.le_add_left _ _, ?_⟩
      rw [hrevision]
      exact le_refl _
  · have hfresh : ∀ row ∈ s.versions.rows, row.assetId = request.assetId →
        row.revision ≠ s.revision request.assetId + 1 := by
      intro row hrow hid hrevision
      have hle := hs.bound hrow
      rw [hid] at hle
      omega
    rcases hcases row hrow with hrow | rfl
    · rcases hcases other hother with hother | rfl
      · exact hs.unique row hrow other hother hasset hsame
      · exact absurd hsame (hfresh row hrow hasset)
    · rcases hcases other hother with hother | rfl
      · exact absurd hsame.symm (hfresh other hother hasset.symm)
      · rfl

theorem Written.revision {ref : SharedAssetVersionRef} (h : Written repository request ref s t) :
    t.revision request.assetId = s.revision request.assetId + 1 := by
  obtain ⟨base, hbase, hid, hrevision, _⟩ := h.base
  rw [← hid, revision_of_mem hbase, hid, hrevision]

/-- A save writes the base row of its own asset. -/
theorem Written.find?_other {ref : SharedAssetVersionRef} (h : Written repository request ref s t)
    (hne : assetId ≠ request.assetId) : t.assets.find? assetId = s.assets.find? assetId := by
  refine Option.ext fun row => ?_
  rw [Table.find?_eq_some_iff, Table.find?_eq_some_iff]
  exact ⟨fun ⟨hmem, hid⟩ => ⟨(h.others row (hid ▸ hne)).mp hmem, hid⟩,
    fun ⟨hmem, hid⟩ => ⟨(h.others row (hid ▸ hne)).mpr hmem, hid⟩⟩

theorem revision_congr (h : t.assets.find? assetId = s.assets.find? assetId) :
    t.revision assetId = s.revision assetId := by
  unfold AssetStore.revision
  rw [h]

theorem content_congr (h : t.assets.find? assetId = s.assets.find? assetId) :
    t.content? assetId = s.content? assetId := by
  unfold AssetStore.content?
  rw [h]

/-! ## The transactions of a save -/

/-- The base row has been written, and its version has not. -/
structure BaseWritten (request : SaveRequest) (s t : AssetStore) : Prop where
  expected : (s.revision request.assetId : Int) = request.expectedRevision
  changed : s.content? request.assetId ≠ some request.payload
  versions : t.versions = s.versions
  base : ∃ asset ∈ t.assets.rows, asset.assetId = request.assetId ∧
    asset.revision = s.revision request.assetId + 1 ∧ asset.configuration = request.payload
  others : ∀ row, row.assetId ≠ request.assetId → (row ∈ t.assets.rows ↔ row ∈ s.assets.rows)

/-- A version is not inserted where its id is taken. -/
theorem insertVersion_written (hs : Consistent repository s) (h : BaseWritten request s t)
    {revision : Nat} (hrevision : revision = s.revision request.assetId + 1) (updatedAt : Instant) :
    Triple (fun x => x = t) (insertVersion repository request revision updatedAt)
      (fun ref x => Written repository request ref s x)
      (fun _ _ => ∃ row ∈ s.versions.rows, row.versionId = request.versionId) := by
  subst hrevision
  rintro x rfl
  unfold insertVersion
  rw [Effect.read_then]
  cases hinsert : x.versions.insert?
      (versionRow repository request (s.revision request.assetId + 1) updatedAt) with
  | none =>
    refine ⟨fun _ _ hr => (nomatch hr), fun _ _ _ => ?_⟩
    rw [h.versions] at hinsert
    exact Table.insert?_eq_none_iff.mp hinsert
  | some versions =>
    have hnext : x.versions.rows.any
        (isRevision request.assetId (s.revision request.assetId + 1)) = false := by
      rw [h.versions, List.any_eq_false]
      intro row hrow hsame
      unfold isRevision at hsame
      rw [Bool.and_eq_true, decide_eq_true_iff, decide_eq_true_iff] at hsame
      have hle := hs.bound hrow
      rw [hsame.1, hsame.2] at hle
      omega
    dsimp only
    rw [Effect.require_then _ hnext, Effect.modify_then]
    refine ⟨fun ref u hr => ?_, fun _ _ hr => (nomatch hr)⟩
    cases hr
    have hrows := (Table.insert?_some hinsert).1
    rw [h.versions] at hrows
    exact ⟨h.expected, h.changed, ⟨updatedAt, hrows, rfl⟩, h.base, h.others⟩

/-- What is not accepted, is refused. -/
theorem refused_of_taken (hchanged : s.content? request.assetId ≠ some request.payload)
    (htaken : ∃ row ∈ s.versions.rows, row.versionId = request.versionId) (e : AssetError) :
    Saved repository request (some (.error e)) s s := by
  obtain ⟨row, hrow, hid⟩ := htaken
  exact .refused e (.inr ⟨hchanged, fun h => h.fresh row hrow hid⟩)

theorem timestampValue_some {value : Option Instant} {field : String} {a : Instant}
    (h : value = some a) : timestampValue value field = (pure a : AssetQuery Instant) := by
  rw [h]
  rfl

theorem timestampValue_none {value : Option Instant} {field : String} (h : value = none) :
    timestampValue value field =
      (Effect.raise (.invariant (field ++ " must be ISO-8601")) : AssetQuery Instant) := by
  rw [h]
  rfl

/-- A save over the base row of its asset. -/
theorem saveOver_saved (hs : Consistent repository s) {current : AssetRow}
    (hfind : s.assets.find? request.assetId = some current) :
    Triple (fun x => x = s) (saveOver repository request current)
      (fun ref t => Saved repository request (some (.ok ref)) s t)
      (fun e _ => Saved repository request (some (.error e)) s s) := by
  rintro x rfl
  have hrevision := revision_of_find hfind
  obtain ⟨hcurrent, hid⟩ := Table.find?_some hfind
  have hcontent : x.content? request.assetId = some current.configuration := by
    unfold AssetStore.content?
    rw [hfind]
    rfl
  unfold saveOver
  by_cases hexpected : (current.revision : Int) = request.expectedRevision
  swap
  · rw [Effect.require_not_then _ hexpected]
    refine ⟨fun _ _ hr => (nomatch hr), fun e _ _ => .refused e (.inl ?_)⟩
    rw [hrevision]
    exact hexpected
  rw [Effect.require_then _ hexpected]
  by_cases hdigest : repository.payloadDigest current.configuration =
      repository.payloadDigest request.payload
  · rw [if_pos hdigest, Effect.read_then]
    have hsame := payloadDigest_inj.mp hdigest
    obtain ⟨row, hrow, hasset, hlast, _⟩ := hs.current current hcurrent
    cases hversion : x.versions.rows.find? (isRevision request.assetId current.revision) with
    | none =>
      have hnone := List.find?_eq_none.mp hversion row hrow
      unfold isRevision at hnone
      rw [hasset, hid, hlast, decide_eq_true rfl, decide_eq_true rfl] at hnone
      exact absurd rfl hnone
    | some found =>
      refine ⟨fun _ _ hr => ?_, fun _ _ hr => (nomatch hr)⟩
      cases hr
      have hfound := List.find?_some hversion
      unfold isRevision at hfound
      rw [Bool.and_eq_true, decide_eq_true_iff, decide_eq_true_iff] at hfound
      refine .kept (List.mem_of_find?_eq_some hversion) hfound.1 ?_ ?_ ?_
      · rw [hrevision]
        exact hfound.2
      · rw [hrevision]
        exact hexpected
      · rw [hcontent, hsame]
  · rw [if_neg hdigest]
    have hchanged : x.content? request.assetId ≠ some request.payload := by
      rw [hcontent]
      exact fun h => hdigest (payloadDigest_inj.mpr (Option.some.inj h))
    have hrefused : ¬ Acceptable request x → ∀ e : AssetError,
        Saved repository request (some (.error e)) x x :=
      fun h e => .refused e (.inr ⟨hchanged, h⟩)
    cases hcreated : request.createdAt with
    | none =>
      rw [timestampValue_none rfl]
      refine ⟨fun _ _ hr => (nomatch hr), fun e _ _ => hrefused (fun h => ?_) e⟩
      have hsome := h.createdAt
      rw [hcreated] at hsome
      cases hsome
    | some createdAt =>
    rw [timestampValue_some rfl, Effect.pure_then]
    cases hupdated : request.updatedAt with
    | none =>
      rw [timestampValue_none rfl]
      refine ⟨fun _ _ hr => (nomatch hr), fun e _ _ => hrefused (fun h => ?_) e⟩
      have hsome := h.updatedAt
      rw [hupdated] at hsome
      cases hsome
    | some updatedAt =>
    rw [timestampValue_some rfl, Effect.pure_then]
    by_cases hordered : current.createdAt ≤ updatedAt
    swap
    · rw [Effect.require_not_then _ hordered]
      refine ⟨fun _ _ hr => (nomatch hr), fun e _ _ => hrefused (fun h => ?_) e⟩
      have hle := h.ordered createdAt updatedAt hcreated hupdated
      rw [hfind] at hle
      exact hordered hle
    rw [Effect.require_then _ hordered, Effect.modify_then]
    have hbase : BaseWritten request x { x with
        assets := x.assets.update (fun row => row.assetId = request.assetId)
          (fun row => { row with
            revision := current.revision + 1
            lifecycleState := request.lifecycleState
            configuration := request.payload
            updatedAt }) fun _ => rfl } := by
      refine ⟨hrevision ▸ hexpected, hchanged, rfl, ?_, ?_⟩
      · refine ⟨{ current with
            revision := current.revision + 1
            lifecycleState := request.lifecycleState
            configuration := request.payload
            updatedAt }, ?_, hid, ?_, rfl⟩
        · rw [Table.mem_update]
          exact ⟨current, hcurrent, (if_pos (decide_eq_true hid)).symm⟩
        · rw [hrevision]
      · intro row hne
        rw [Table.mem_update]
        constructor
        · rintro ⟨old, hold, rfl⟩
          by_cases hkey : old.assetId = request.assetId
          · rw [if_pos (decide_eq_true hkey)] at hne
            exact absurd hkey hne
          · rw [if_neg (fun h => hkey (of_decide_eq_true h))]
            exact hold
        · intro hrow
          exact ⟨row, hrow, (if_neg fun h => hne (of_decide_eq_true h)).symm⟩
    have hwritten := insertVersion_written hs hbase (congrArg (· + 1) hrevision.symm) updatedAt _ rfl
    exact ⟨fun ref t hr => .written (hwritten.1 ref t hr),
      fun e t hr => refused_of_taken hchanged (hwritten.2 e t hr) e⟩

/-- **The first transaction** of a save. -/
theorem saveLocked_saved (request : SaveRequest) (hs : Consistent repository s) :
    Triple (fun x => x = s) (saveLocked repository request)
      (fun ref t => Saved repository request (ref.map .ok) s t ∧
        (ref = none → request.expectedRevision = 0))
      (fun e _ => Saved repository request (some (.error e)) s s) := by
  rintro x rfl
  unfold saveLocked
  rw [Effect.read_then]
  cases hfind : x.assets.find? request.assetId with
  | some current =>
    have hover : Triple (fun y => y = x) (some <$> saveOver repository request current)
        (fun ref t => Saved repository request (ref.map .ok) x t ∧
          (ref = none → request.expectedRevision = 0))
        (fun e _ => Saved repository request (some (.error e)) x x) :=
      (saveOver_saved hs hfind).bind fun _ => .ret fun _ h => ⟨h, fun hnone => (nomatch hnone)⟩
    exact hover x rfl
  | none =>
    have hrevision := revision_of_absent hfind
    by_cases hexpected : request.expectedRevision = 0
    · dsimp only
      rw [Effect.require_then _ hexpected]
      refine ⟨fun _ _ hr => ?_, fun _ _ hr => (nomatch hr)⟩
      cases hr
      exact ⟨.looked hrevision hexpected, fun _ => hexpected⟩
    · dsimp only
      rw [Effect.require_not_then _ hexpected]
      refine ⟨fun _ _ hr => (nomatch hr), fun e _ _ => .refused e (.inl ?_)⟩
      rw [hrevision]
      exact fun h => hexpected h.symm

/-- **The second transaction** of a save that has found no base row. -/
theorem saveFirst_saved (hs : Consistent repository s) (hexpected : request.expectedRevision = 0) :
    Triple (fun x => x = s) (saveFirst repository request)
      (fun ref t => Saved repository request (some (.ok ref)) s t)
      (fun e _ => Saved repository request (some (.error e)) s s) := by
  rintro x rfl
  unfold saveFirst
  -- a row that has come in the meantime has a revision past the expected one
  have hrefused : (x.assets.find? request.assetId = none → ¬ Acceptable request x) →
      ∀ e : AssetError, Saved repository request (some (.error e)) x x := by
    intro h e
    cases hfind : x.assets.find? request.assetId with
    | some asset =>
      have hpos := hs.revision_pos (Table.find?_some hfind).1
      refine .refused e (.inl ?_)
      rw [revision_of_find hfind, hexpected]
      omega
    | none =>
      refine .refused e (.inr ⟨?_, h hfind⟩)
      unfold AssetStore.content?
      rw [hfind]
      nofun
  cases hcreated : request.createdAt with
  | none =>
    rw [timestampValue_none rfl]
    refine ⟨fun _ _ hr => (nomatch hr), fun e _ _ => hrefused (fun _ h => ?_) e⟩
    have hsome := h.createdAt
    rw [hcreated] at hsome
    cases hsome
  | some createdAt =>
  rw [timestampValue_some rfl, Effect.pure_then]
  cases hupdated : request.updatedAt with
  | none =>
    rw [timestampValue_none rfl]
    refine ⟨fun _ _ hr => (nomatch hr), fun e _ _ => hrefused (fun _ h => ?_) e⟩
    have hsome := h.updatedAt
    rw [hupdated] at hsome
    cases hsome
  | some updatedAt =>
  rw [timestampValue_some rfl, Effect.pure_then]
  by_cases hordered : createdAt ≤ updatedAt
  swap
  · rw [Effect.require_not_then _ hordered]
    refine ⟨fun _ _ hr => (nomatch hr), fun e _ _ => hrefused (fun hfind h => ?_) e⟩
    have hle := h.ordered createdAt updatedAt hcreated hupdated
    rw [hfind] at hle
    exact hordered hle
  rw [Effect.require_then _ hordered, Effect.read_then]
  cases hinsert : x.assets.insert?
      ⟨request.assetId, 1, request.lifecycleState, request.payload, createdAt, updatedAt⟩ with
  | none =>
    obtain ⟨row, hrow, hid⟩ := Table.insert?_eq_none_iff.mp hinsert
    refine ⟨fun _ _ hr => (nomatch hr), fun e _ _ => hrefused (fun hfind => ?_) e⟩
    exact absurd hid (Table.find?_eq_none_iff.mp hfind row hrow)
  | some assets =>
    obtain ⟨hrows, hfresh⟩ := Table.insert?_some hinsert
    have hfind : x.assets.find? request.assetId = none := Table.find?_eq_none_iff.mpr hfresh
    have hrevision := revision_of_absent hfind
    have hchanged : x.content? request.assetId ≠ some request.payload := by
      unfold AssetStore.content?
      rw [hfind]
      nofun
    have hbase : BaseWritten request x { x with assets } := by
      refine ⟨?_, hchanged, rfl, ?_, ?_⟩
      · rw [hrevision, hexpected]
        rfl
      · refine ⟨⟨request.assetId, 1, request.lifecycleState, request.payload, createdAt, updatedAt⟩,
          ?_, rfl, ?_, rfl⟩
        · dsimp only
          rw [hrows]
          exact List.mem_append_right _ (List.mem_singleton_self _)
        · rw [hrevision]
      · intro row hne
        dsimp only
        rw [hrows, List.mem_append, List.mem_singleton]
        refine ⟨fun h => h.resolve_right fun heq => hne ?_, .inl⟩
        rw [heq]
    have hnext : 1 = x.revision request.assetId + 1 := by rw [hrevision]
    have hwritten := insertVersion_written hs hbase hnext updatedAt _ rfl
    exact ⟨fun ref t hr => .written (hwritten.1 ref t hr),
      fun e t hr => refused_of_taken hchanged (hwritten.2 e t hr) e⟩

end

end ProofAgent.Assets
