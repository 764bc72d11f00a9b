import ProofAgent.Observability.ArtifactSteps

/-! # Artifacts after any calls

Whatever the order of the transactions, an owner keeps the manifest that it is bound to, and a
result that is out of sight stays so. A result is seen exactly while no version of its manifest
has been found corrupt or has expired, and a collection deletes none of these versions once the
manifest is committed; one that it deleted before, was older than a day. -/
namespace ProofAgent

open Base ArtifactRepository

/-! ## Manifests in the tables -/

/-- The manifest, as a commit files it, under the binding `b` of its owner. -/
structure Filed (db : ArtifactTables) (manifest : ArtifactManifest)
    (manifestRef : ArtifactObjectVersion) (b : BindingRow) : Prop where
  bound : b ∈ db.bindings.rows
  owner : b.owner = manifest.owner
  manifest_id : b.manifestId = manifest.manifestId
  visible_at : b.visibleAt.isSome = true
  kind : manifestRef.isManifest = true
  ref_owner : manifestRef.owner = manifest.owner
  row : manifest.row manifestRef ∈ db.manifests.rows
  members : ∀ row : MemberRow, row.manifestId = manifest.manifestId → (row ∈ db.members.rows ↔
    ∃ m ∈ manifest.members, row = ⟨manifest.manifestId, m.1, m.2.objectId⟩)
  versions : ∀ o ∈ manifest.versions manifestRef, ∃ row ∈ db.objects.rows, row.refJson = o

/-- The second tables have the versions and the manifests of the first ones. -/
structure Widened (db db' : ArtifactTables) : Prop where
  objects : ∀ row ∈ db.objects.rows, ∃ row' ∈ db'.objects.rows, row'.refJson = row.refJson
  manifests : ∀ row ∈ db.manifests.rows, row ∈ db'.manifests.rows
  members : ∀ row : MemberRow, (∃ m ∈ db.manifests.rows, m.manifestId = row.manifestId) →
    (row ∈ db'.members.rows ↔ row ∈ db.members.rows)

section
variable {db db' : ArtifactTables} {manifest : ArtifactManifest}
  {manifestRef : ArtifactObjectVersion} {b b' : BindingRow}

theorem Filed.widened (h : Filed db manifest manifestRef b) (hwide : Widened db db')
    (hb' : b' ∈ db'.bindings.rows) (howner : b'.owner = b.owner)
    (hmanifest : b'.manifestId = b.manifestId) (hvisible : b'.visibleAt = b.visibleAt) :
    Filed db' manifest manifestRef b' where
  bound := hb'
  owner := howner.trans h.owner
  manifest_id := hmanifest.trans h.manifest_id
  visible_at := by rw [hvisible]; exact h.visible_at
  kind := h.kind
  ref_owner := h.ref_owner
  row := hwide.manifests _ h.row
  members row hrow := (hwide.members row ⟨_, h.row, hrow.symm⟩).trans (h.members row hrow)
  versions o ho := by
    obtain ⟨row, hrow, rfl⟩ := h.versions o ho
    exact hwide.objects row hrow

theorem Filed.dims {affected : String → Prop} (h : Filed db manifest manifestRef b)
    (hwide : Widened db db') (hb' : b' ∈ db'.bindings.rows) (hdims : Dims affected b b') :
    Filed db' manifest manifestRef b' := by
  cases hdims with
  | same => exact h.widened hwide hb' rfl rfl rfl
  | hidden _ howner hmanifest hvisible _ => exact h.widened hwide hb' howner hmanifest hvisible

/-- The objects that the read of a binding looks at are the versions of its manifest. -/
theorem Filed.find_manifest (h : Filed db manifest manifestRef b) :
    db.manifests.find? b.manifestId = some (manifest.row manifestRef) := by
  rw [h.manifest_id]
  exact Table.find?_of_mem h.row

theorem Filed.find_object (h : Filed db manifest manifestRef b) {o : ArtifactObjectVersion}
    (ho : o ∈ manifest.versions manifestRef) :
    ∃ row, db.objects.find? o.objectId = some row ∧ row.refJson = o := by
  obtain ⟨row, hrow, rfl⟩ := h.versions o ho
  exact ⟨row, Table.find?_of_mem hrow, rfl⟩

theorem mem_versions {o : ArtifactObjectVersion} : o ∈ manifest.versions manifestRef ↔
    (∃ m ∈ manifest.members, m.2 = o) ∨ o = manifestRef := by
  unfold ArtifactManifest.versions
  rw [List.mem_append, List.mem_map, List.mem_singleton]

theorem Filed.mem_memberObjects (h : Filed db manifest manifestRef b) {row : ObjectRow} :
    row ∈ memberObjects db b.manifestId ↔
      row ∈ db.objects.rows ∧ ∃ m ∈ manifest.members, row.refJson = m.2 := by
  unfold memberObjects
  rw [List.mem_filterMap, h.manifest_id]
  constructor
  · rintro ⟨memberRow, hmember, hfound⟩
    obtain ⟨hmember, hid⟩ := List.mem_filter.mp hmember
    obtain ⟨m, hm, rfl⟩ := (h.members memberRow (of_decide_eq_true hid)).mp hmember
    obtain ⟨found, hfind, hsame⟩ := h.find_object (mem_versions.mpr (.inl ⟨m, hm, rfl⟩))
    have hrow : found = row := Option.some.inj (hfind.symm.trans hfound)
    exact ⟨hrow ▸ (Table.find?_some hfind).1, m, hm, hrow ▸ hsame⟩
  · rintro ⟨hrow, m, hm, hsame⟩
    refine ⟨⟨manifest.manifestId, m.1, m.2.objectId⟩,
      List.mem_filter.mpr ⟨(h.members _ rfl).mpr ⟨m, hm, rfl⟩, decide_eq_true rfl⟩, ?_⟩
    rw [← hsame]
    exact Table.find?_of_mem hrow

/-- Some version of the manifest has the object id. -/
theorem Filed.of_refersTo (h : Filed db manifest manifestRef b) {objectId : String}
    (hrefers : refersTo db objectId b.manifestId = true) :
    ∃ o ∈ manifest.versions manifestRef, o.objectId = objectId := by
  rcases Bool.or_eq_true_iff.mp hrefers with hany | hany
  · obtain ⟨row, hrow, hboth⟩ := List.any_eq_true.mp hany
    obtain ⟨hid, hobject⟩ := Bool.and_eq_true_iff.mp hboth
    have hkey : row.manifestId = (manifest.row manifestRef).manifestId :=
      (of_decide_eq_true hid).trans h.manifest_id
    rw [Table.eq_of_key hrow h.row hkey] at hobject
    exact ⟨manifestRef, mem_versions.mpr (.inr rfl), of_decide_eq_true hobject⟩
  · obtain ⟨row, hrow, hboth⟩ := List.any_eq_true.mp hany
    obtain ⟨hid, hobject⟩ := Bool.and_eq_true_iff.mp hboth
    obtain ⟨m, hm, rfl⟩ := (h.members row ((of_decide_eq_true hid).trans h.manifest_id)).mp hrow
    exact ⟨m.2, mem_versions.mpr (.inl ⟨m, hm, rfl⟩), of_decide_eq_true hobject⟩

/-- Some version of the manifest has expired. -/
theorem Filed.of_expiredManifest (h : Filed db manifest manifestRef b) {now : Instant}
    (hexpired : expiredManifest db now b.manifestId = true) :
    ∃ o ∈ manifest.versions manifestRef, o.expiresAt.any (· ≤ now) = true := by
  rcases Bool.or_eq_true_iff.mp hexpired with hany | hany
  · obtain ⟨row, hrow, hover⟩ := List.any_eq_true.mp hany
    obtain ⟨_, m, hm, hsame⟩ := h.mem_memberObjects.mp hrow
    exact ⟨m.2, mem_versions.mpr (.inl ⟨m, hm, rfl⟩), hsame ▸ hover⟩
  · have hself : manifestRef ∈ manifest.versions manifestRef := mem_versions.mpr (.inr rfl)
    obtain ⟨row, hfind, hsame⟩ := h.find_object hself
    rw [h.find_manifest, Option.bind_some] at hany
    have hobject : db.objects.find? (manifest.row manifestRef).manifestObjectId = some row := hfind
    rw [hobject] at hany
    exact ⟨manifestRef, hself, hsame ▸ hany⟩

end

/-! ## What holds after any steps -/

/-- The version has been found corrupt, or has expired at `now`. -/
def Lost (journal : List ArtifactEvent) (now : Instant) (ref : ArtifactObjectVersion) : Prop :=
  (∃ found, .marked found ∈ journal ∧ found.exact = ref.exact) ∨
    ref.expiresAt.any (· ≤ now) = true

theorem Lost.mono {journal journal' : List ArtifactEvent} {now later : Instant}
    {ref : ArtifactObjectVersion} (h : Lost journal now ref) (hmore : ∀ e ∈ journal, e ∈ journal')
    (hnow : now ≤ later) : Lost journal' later ref := by
  rcases h with ⟨found, hfound, hexact⟩ | hexpired
  · exact .inl ⟨found, hmore _ hfound, hexact⟩
  · refine .inr ?_
    cases hexpiry : ref.expiresAt with
    | none =>
      rw [hexpiry] at hexpired
      cases hexpired
    | some expiry =>
      rw [hexpiry] at hexpired
      exact decide_eq_true (le_trans (of_decide_eq_true hexpired) hnow)

/-- The first event came before the second one. -/
def EventsInOrder : ArtifactEvent → ArtifactEvent → Prop
  | .committed manifest manifestRef _, .deleted ref _ =>
    ∀ o ∈ manifest.versions manifestRef, ref.exact ≠ o.exact
  | .deleted ref now, .committed _ _ time => OldAt now ref ∧ now ≤ time
  | _, _ => True

structure ArtifactsSound (w : ArtifactWorld) : Prop where
  once : ExactOnce w.db
  referred : ∀ row ∈ w.db.members.rows, ∃ m ∈ w.db.manifests.rows, m.manifestId = row.manifestId
  filed : ∀ manifest manifestRef time, .committed manifest manifestRef time ∈ w.journal →
    ∃ b, Filed w.db manifest manifestRef b ∧
      (b.visibility ≠ .visible → ∃ o ∈ manifest.versions manifestRef, Lost w.journal w.clock o)
  committed : ∀ b ∈ w.db.bindings.rows, ∃ manifest manifestRef time,
    .committed manifest manifestRef time ∈ w.journal ∧ Filed w.db manifest manifestRef b
  marked : ∀ found, .marked found ∈ w.journal →
    ∃ row ∈ w.db.objects.rows, row.refJson.exact = found.exact ∧ row.state ≠ .verified
  corrupt : ∀ row ∈ w.db.objects.rows, row.state ≠ .verified →
    ∃ found, .marked found ∈ w.journal ∧ found.exact = row.refJson.exact
  deleted : ∀ ref now, .deleted ref now ∈ w.journal → OldAt now ref ∧ now ≤ w.clock
  ordered : w.journal.Pairwise EventsInOrder

theorem artifactsSound_empty (start : Instant) : ArtifactsSound ⟨start, .empty, [], []⟩ where
  once _ h := absurd h List.not_mem_nil
  referred _ h := absurd h List.not_mem_nil
  filed _ _ _ h := absurd h List.not_mem_nil
  committed _ h := absurd h List.not_mem_nil
  marked _ h := absurd h List.not_mem_nil
  corrupt _ h := absurd h List.not_mem_nil
  deleted _ _ h := absurd h List.not_mem_nil
  ordered := List.Pairwise.nil

theorem mem_concat {α : Type} {a e : α} {items : List α} :
    a ∈ items ++ [e] ↔ a ∈ items ∨ a = e := by
  rw [List.mem_append, List.mem_singleton]

section
variable {w : ArtifactWorld}

/-- Steps that leave the tables alone. -/
theorem ArtifactsSound.waits (h : ArtifactsSound w) {clock : Instant} (hclock : w.clock ≤ clock)
    (store : List ArtifactObjectVersion) : ArtifactsSound { w with clock, store } :=
  { h with
    filed := fun manifest manifestRef time hmem => by
      obtain ⟨b, hfiled, hhidden⟩ := h.filed manifest manifestRef time hmem
      refine ⟨b, hfiled, fun hv => ?_⟩
      obtain ⟨o, ho, hlost⟩ := hhidden hv
      exact ⟨o, ho, hlost.mono (fun _ he => he) hclock⟩
    deleted := fun ref now hmem => by
      obtain ⟨hold, hpast⟩ := h.deleted ref now hmem
      exact ⟨hold, le_trans hpast hclock⟩ }

/-- The new manifest in the tables. -/
theorem ManifestBound.widened {manifest : ArtifactManifest} {manifestRef : ArtifactObjectVersion}
    {db db' : ArtifactTables} (h : ManifestBound manifest manifestRef db db') : Widened db db' where
  objects row hrow := ⟨row, h.recorded.kept row hrow, rfl⟩
  manifests row hrow := by
    rw [(Table.insert?_some h.manifests).1]
    exact List.mem_append_left _ hrow
  members row hknown := by
    obtain ⟨m, hm, hid⟩ := hknown
    have hnew := (Table.insert?_some h.manifests).2 m hm
    rw [h.members, List.mem_append]
    refine or_iff_left ?_
    intro hrow
    obtain ⟨_, _, rfl⟩ := List.mem_map.mp hrow
    exact hnew hid

theorem ManifestBound.filed {manifest : ArtifactManifest} {manifestRef : ArtifactObjectVersion}
    {db db' : ArtifactTables} (h : ManifestBound manifest manifestRef db db')
    (hreferred : ∀ row ∈ db.members.rows, ∃ m ∈ db.manifests.rows, m.manifestId = row.manifestId) :
    Filed db' manifest manifestRef ⟨manifest.owner, manifest.manifestId, .visible,
      some manifest.createdAt, true, manifest.createdAt, rfl⟩ where
  bound := by
    rw [(Table.insert?_some h.bindings).1]
    exact mem_concat.mpr (.inr rfl)
  owner := rfl
  manifest_id := rfl
  visible_at := rfl
  kind := h.kind
  ref_owner := h.owner
  row := by
    rw [(Table.insert?_some h.manifests).1]
    exact mem_concat.mpr (.inr rfl)
  members row hrow := by
    rw [h.members, List.mem_append]
    constructor
    · rintro (hold | hnew)
      · -- no member of an earlier manifest has the new id
        obtain ⟨m, hm, hid⟩ := hreferred row hold
        exact absurd (hid.trans hrow) ((Table.insert?_some h.manifests).2 m hm)
      · obtain ⟨m, hm, hsame⟩ := List.mem_map.mp hnew
        exact ⟨m, hm, hsame.symm⟩
    · rintro ⟨m, hm, rfl⟩
      exact .inr (List.mem_map.mpr ⟨m, hm, rfl⟩)
  versions o ho := h.recorded.recorded o ho

theorem ArtifactsSound.commits (h : ArtifactsSound w) {manifest : ArtifactManifest}
    {manifestRef : ArtifactObjectVersion} {db : ArtifactTables}
    (hbound : ManifestBound manifest manifestRef w.db db) : ArtifactsSound
      { w with db, journal := w.journal ++ [.committed manifest manifestRef w.clock] } := by
  have hwide := hbound.widened
  have hfiled := hbound.filed h.referred
  obtain ⟨hbindings, _⟩ := Table.insert?_some hbound.bindings
  have hold : ∀ b ∈ w.db.bindings.rows, b ∈ db.bindings.rows := fun b hb => by
    rw [hbindings]
    exact List.mem_append_left _ hb
  refine ⟨hbound.recorded.once h.once, fun row hrow => ?_, fun m ref time hmem => ?_,
    fun b hb => ?_, fun found hfound => ?_, fun row hrow hstate => ?_, fun ref now hmem => ?_, ?_⟩
  · rw [hbound.members, List.mem_append] at hrow
    rcases hrow with hrow | hrow
    · obtain ⟨m, hm, hid⟩ := h.referred row hrow
      exact ⟨m, hwide.manifests m hm, hid⟩
    · obtain ⟨_, _, rfl⟩ := List.mem_map.mp hrow
      exact ⟨manifest.row manifestRef, hfiled.row, rfl⟩
  · rcases mem_concat.mp hmem with hmem | hnew
    · obtain ⟨b, hb, hhidden⟩ := h.filed m ref time hmem
      refine ⟨b, hb.widened hwide (hold b hb.bound) rfl rfl rfl, fun hv => ?_⟩
      obtain ⟨o, ho, hlost⟩ := hhidden hv
      exact ⟨o, ho, hlost.mono (fun _ he => List.mem_append_left _ he) (le_refl _)⟩
    · cases hnew
      exact ⟨_, hfiled, fun hv => absurd rfl hv⟩
  · rw [hbindings, mem_concat] at hb
    rcases hb with hb | rfl
    · obtain ⟨m, ref, time, hmem, hm⟩ := h.committed b hb
      exact ⟨m, ref, time, List.mem_append_left _ hmem,
        hm.widened hwide (hold b hb) rfl rfl rfl⟩
    · exact ⟨manifest, manifestRef, w.clock, mem_concat.mpr (.inr rfl), hfiled⟩
  · obtain ⟨row, hrow, hsame⟩ :=
      h.marked found ((mem_concat.mp hfound).resolve_right fun he => by cases he)
    exact ⟨row, hbound.recorded.kept row hrow, hsame⟩
  · rcases hbound.recorded.fresh row hrow with hrow | ⟨hverified, _⟩
    · obtain ⟨found, hfound, hsame⟩ := h.corrupt row hrow hstate
      exact ⟨found, List.mem_append_left _ hfound, hsame⟩
    · exact absurd hverified hstate
  · exact h.deleted ref now ((mem_concat.mp hmem).resolve_right fun he => by cases he)
  · refine List.pairwise_append.mpr ⟨h.ordered, List.pairwise_singleton _ _, ?_⟩
    intro e he e' he'
    rw [List.mem_singleton.mp he']
    cases e with
    | committed | marked => trivial
    | deleted ref now => exact h.deleted ref now he

theorem FoundCorrupt.widened {ref : ArtifactObjectVersion} {db db' : ArtifactTables}
    (h : FoundCorrupt ref db db') : Widened db db' where
  objects row hrow := by
    obtain ⟨old, new, _, _, hsame, _, hreplaced⟩ := h.object
    rcases hreplaced.successor hrow with ⟨rfl, hnew⟩ | ⟨_, hrow⟩
    · exact ⟨new, hnew, hsame⟩
    · exact ⟨row, hrow, rfl⟩
  manifests row hrow := by
    rw [h.manifests]
    exact hrow
  members row _ := by
    rw [h.members]

theorem FoundCorrupt.from_row {ref : ArtifactObjectVersion} {db db' : ArtifactTables}
    (h : FoundCorrupt ref db db') {row : ObjectRow} (hrow : row ∈ db'.objects.rows) :
    row ∈ db.objects.rows ∨ row.refJson.exact = ref.exact ∧
      ∃ old ∈ db.objects.rows, old.refJson = row.refJson := by
  obtain ⟨old, new, _, hexact, hsame, _, hreplaced⟩ := h.object
  rcases hreplaced.mem_cases hrow with rfl | ⟨hrow, _⟩
  · exact .inr ⟨hsame ▸ hexact, old, hreplaced.mem_old, hsame.symm⟩
  · exact .inl hrow

theorem ArtifactsSound.dims (h : ArtifactsSound w) {db : ArtifactTables}
    {affected : String → Prop} {journal : List ArtifactEvent} (hwide : Widened w.db db)
    (hdimmed : BindingsDimmed affected w.db.bindings db.bindings)
    (hmore : ∀ e ∈ w.journal, e ∈ journal)
    (hlost : ∀ manifest manifestRef b, Filed w.db manifest manifestRef b → affected b.manifestId →
      ∃ o ∈ manifest.versions manifestRef, Lost journal w.clock o) :
    (∀ manifest manifestRef time, .committed manifest manifestRef time ∈ w.journal →
      ∃ b, Filed db manifest manifestRef b ∧
        (b.visibility ≠ .visible → ∃ o ∈ manifest.versions manifestRef, Lost journal w.clock o)) ∧
    ∀ b ∈ db.bindings.rows, ∃ manifest manifestRef time,
      .committed manifest manifestRef time ∈ journal ∧ Filed db manifest manifestRef b := by
  refine ⟨fun manifest manifestRef time hmem => ?_, fun b' hb' => ?_⟩
  · obtain ⟨b, hfiled, hhidden⟩ := h.filed manifest manifestRef time hmem
    obtain ⟨b', hb', hdims⟩ := hdimmed.to_row b hfiled.bound
    refine ⟨b', hfiled.dims hwide hb' hdims, fun hv => ?_⟩
    cases hdims with
    | same =>
      obtain ⟨o, ho, hgone⟩ := hhidden hv
      exact ⟨o, ho, hgone.mono hmore (le_refl _)⟩
    | hidden haffected => exact hlost manifest manifestRef b hfiled haffected
  · obtain ⟨b, hb, hdims⟩ := hdimmed.from_row b' hb'
    obtain ⟨manifest, manifestRef, time, hmem, hfiled⟩ := h.committed b hb
    exact ⟨manifest, manifestRef, time, hmore _ hmem, hfiled.dims hwide hb' hdims⟩

theorem ArtifactsSound.marks (h : ArtifactsSound w) {ref : ArtifactObjectVersion}
    {db : ArtifactTables} (hfound : FoundCorrupt ref w.db db) :
    ArtifactsSound { w with db, journal := w.journal ++ [.marked ref] } := by
  have hwide := hfound.widened
  obtain ⟨old, new, hid, hexact, hsame, hstate, hreplaced⟩ := hfound.object
  have hlast : ArtifactEvent.marked ref ∈ w.journal ++ [.marked ref] := mem_concat.mpr (.inr rfl)
  obtain ⟨hfiled, hcommitted⟩ := h.dims hwide hfound.bindings
    (fun e he => List.mem_append_left [.marked ref] he) fun manifest manifestRef b hb hrefers => by
      -- the row of the version that the binding refers to, is the row that was found
      obtain ⟨o, ho, hoid⟩ := hb.of_refersTo hrefers
      obtain ⟨row, hrow, rfl⟩ := hb.versions o ho
      have hrowOld : row = old := Table.eq_of_key hrow hreplaced.mem_old (hoid.trans hid.symm)
      exact ⟨row.refJson, ho, .inl ⟨ref, hlast, by rw [hrowOld, hexact]⟩⟩
  refine ⟨fun r hr r' hr' hone => ?_, fun row hrow => ?_, fun m manifestRef time hmem => ?_,
    hcommitted, fun found hmem => ?_, fun row hrow hbad => ?_, fun v now hmem => ?_, ?_⟩
  · have hback : ∀ row ∈ db.objects.rows, ∃ before ∈ w.db.objects.rows,
        before.refJson = row.refJson := fun row hrow => by
      rcases hfound.from_row hrow with hrow | ⟨_, hbefore⟩
      · exact ⟨row, hrow, rfl⟩
      · exact hbefore
    obtain ⟨before, hbefore, hjson⟩ := hback r hr
    obtain ⟨before', hbefore', hjson'⟩ := hback r' hr'
    have heq := h.once before hbefore before' hbefore' (by rw [hjson, hjson', hone])
    refine Table.eq_of_key hr hr' ?_
    unfold ObjectRow.objectId
    rw [← hjson, ← hjson', heq]
  · rw [hfound.members] at hrow
    obtain ⟨m, hm, hkey⟩ := h.referred row hrow
    exact ⟨m, hwide.manifests m hm, hkey⟩
  · exact hfiled m manifestRef time ((mem_concat.mp hmem).resolve_right fun he => by cases he)
  · rcases mem_concat.mp hmem with hmem | hnew
    · obtain ⟨row, hrow, hrowExact, hbad⟩ := h.marked found hmem
      rcases hreplaced.successor hrow with ⟨rfl, hnew⟩ | ⟨_, hrow⟩
      · exact ⟨new, hnew, by rw [hsame, hrowExact], by rw [hstate]; decide⟩
      · exact ⟨row, hrow, hrowExact, hbad⟩
    · cases hnew
      exact ⟨new, hreplaced.mem_new, by rw [hsame, hexact], by rw [hstate]; decide⟩
  · rcases hfound.from_row hrow with hrow | ⟨hrowExact, _⟩
    · obtain ⟨found, hmem, hsame⟩ := h.corrupt row hrow hbad
      exact ⟨found, List.mem_append_left _ hmem, hsame⟩
    · exact ⟨ref, hlast, hrowExact.symm⟩
  · exact h.deleted v now ((mem_concat.mp hmem).resolve_right fun he => by cases he)
  · refine List.pairwise_append.mpr ⟨h.ordered, List.pairwise_singleton _ _, ?_⟩
    intro e _ e' he'
    rw [List.mem_singleton.mp he']
    cases e <;> trivial

theorem ArtifactsSound.expires (h : ArtifactsSound w) {now : Instant} (hnow : now ≤ w.clock) :
    ArtifactsSound { w with db := (expireDue now w.db).2 } := by
  have hwide : Widened w.db (expireDue now w.db).2 :=
    ⟨fun row hrow => ⟨row, hrow, rfl⟩, fun _ hrow => hrow, fun _ _ => .rfl⟩
  have hdimmed : BindingsDimmed (expiredManifest w.db now · = true) w.db.bindings
      (expireDue now w.db).2.bindings := hideBindings_dimmed (by decide)
  obtain ⟨hfiled, hcommitted⟩ := h.dims hwide hdimmed (fun e he => he)
    fun manifest manifestRef b hb hexpired => by
      obtain ⟨o, ho, hover⟩ := hb.of_expiredManifest hexpired
      have hlost : Lost w.journal now o := .inr hover
      exact ⟨o, ho, hlost.mono (fun _ he => he) hnow⟩
  exact { h with filed := hfiled, committed := hcommitted }

theorem ArtifactsSound.deletes (h : ArtifactsSound w) {ref : ArtifactObjectVersion} {now : Instant}
    (store : List ArtifactObjectVersion) (hold : OldAt now ref) (hpast : now ≤ w.clock)
    (hfree : containsExact w.db ref = false) :
    ArtifactsSound { w with store, journal := w.journal ++ [.deleted ref now] } := by
  refine { h with
    filed := fun m manifestRef time hmem => ?_
    committed := fun b hb => ?_
    marked := fun found hmem => ?_
    corrupt := fun row hrow hbad => ?_
    deleted := fun v time hmem => ?_
    ordered := List.pairwise_append.mpr ⟨h.ordered, List.pairwise_singleton _ _, ?_⟩ }
  · obtain ⟨b, hfiled, hhidden⟩ :=
      h.filed m manifestRef time ((mem_concat.mp hmem).resolve_right fun he => by cases he)
    refine ⟨b, hfiled, fun hv => ?_⟩
    obtain ⟨o, ho, hlost⟩ := hhidden hv
    exact ⟨o, ho, hlost.mono (fun _ he => List.mem_append_left _ he) (le_refl _)⟩
  · obtain ⟨m, manifestRef, time, hmem, hfiled⟩ := h.committed b hb
    exact ⟨m, manifestRef, time, List.mem_append_left _ hmem, hfiled⟩
  · exact h.marked found ((mem_concat.mp hmem).resolve_right fun he => by cases he)
  · obtain ⟨found, hmem, hsame⟩ := h.corrupt row hrow hbad
    exact ⟨found, List.mem_append_left _ hmem, hsame⟩
  · rcases mem_concat.mp hmem with hmem | hnew
    · exact h.deleted v time hmem
    · cases hnew
      exact ⟨hold, hpast⟩
  · intro e he e' he'
    rw [List.mem_singleton.mp he']
    cases e with
    | committed m manifestRef time =>
      -- what a committed manifest refers to is in the tables, so it was not free
      intro o ho hexact
      obtain ⟨b, hfiled, _⟩ := h.filed m manifestRef time he
      obtain ⟨row, hrow, rfl⟩ := hfiled.versions o ho
      exact List.any_eq_false.mp hfree row hrow (decide_eq_true hexact.symm)
    | marked | deleted => trivial

/-- **Every transaction keeps it.** -/
theorem ArtifactStep.sound {w' : ArtifactWorld} (hstep : ArtifactStep w w')
    (h : ArtifactsSound w) : ArtifactsSound w' := by
  cases hstep with
  | idle => exact h
  | waited elapsed =>
    exact h.waits (Int.le_add_of_nonneg_right (Int.natCast_nonneg elapsed)) w.store
  | stored store => exact h.waits (le_refl _) store
  | committed hbound => exact h.commits hbound
  | marked hfound => exact h.marks hfound
  | expired hnow => exact h.expires hnow
  | deleted store hold hpast hfree => exact h.deletes store hold hpast hfree

end

/-! ## Which results are seen -/

section
variable {w : ArtifactWorld}

theorem ArtifactsSound.hides_iff (h : ArtifactsSound w) {row : ObjectRow} {now : Instant}
    (hrow : row ∈ w.db.objects.rows) : row.hides now = true ↔ Lost w.journal now row.refJson := by
  unfold ObjectRow.hides
  rw [Bool.or_eq_true, decide_eq_true_iff]
  refine or_congr ⟨h.corrupt row hrow, ?_⟩ Iff.rfl
  rintro ⟨found, hmem, hexact⟩
  obtain ⟨row', hrow', hsame, hbad⟩ := h.marked found hmem
  rwa [← h.once row' hrow' row hrow (hsame.trans hexact)]

/-- The read of a binding whose manifest is filed. -/
theorem Filed.getVisibleBinding {db : ArtifactTables} {manifest : ArtifactManifest}
    {manifestRef : ArtifactObjectVersion} {b : BindingRow} (h : Filed db manifest manifestRef b)
    {object : ObjectRow} (hobject : db.objects.find? manifestRef.objectId = some object)
    (hsame : object.refJson = manifestRef) (now : Instant) :
    ∃ found, getVisibleBinding manifest.owner now db = .ok found ∧ (found.isSome = true ↔
      b.visibility = .visible ∧ object.hides now = false ∧
        ∀ row ∈ memberObjects db b.manifestId, row.hides now = false) := by
  have hbinding : db.bindings.find? manifest.owner = some b := by
    rw [← h.owner]
    exact Table.find?_of_mem h.bound
  have hfound : (db.manifests.find? b.manifestId).bind
      (fun m => db.objects.find? m.manifestObjectId) = some object := by
    rw [h.find_manifest, Option.bind_some]
    exact hobject
  have hchecks : requireAll (ArtifactOwnerBinding.checks
      ⟨manifest.owner, object.refJson, b.visibility, b.visibleAt, b.resultAvailable⟩) = .ok () := by
    refine requireAll_ok_iff.mpr ?_
    have hresult := b.visible_result
    have hvisible := h.visible_at
    have hkind := h.kind
    have howner := h.ref_owner
    simp [ArtifactOwnerBinding.checks, check, hsame, hresult, hvisible, hkind, howner]
  have hmembers : (∀ row ∈ memberObjects db b.manifestId, row.hides now = false) ↔
      (memberObjects db b.manifestId).any (·.hides now) = false := by
    simp [List.any_eq_false]
  rw [hmembers]
  unfold ArtifactRepository.getVisibleBinding bindingInConnection
  rw [hbinding]
  dsimp only
  rw [hfound]
  dsimp only
  rw [hchecks, b.visible_result]
  by_cases hv : b.visibility = .visible
  · rw [hv]
    cases object.hides now with
    | true => exact ⟨none, rfl, by simp⟩
    | false =>
      cases (memberObjects db b.manifestId).any (·.hides now) with
      | true => exact ⟨none, rfl, by simp⟩
      | false => exact ⟨_, rfl, by simp⟩
  · rw [decide_eq_false hv]
    exact ⟨none, rfl, by simp [hv]⟩

/-- Every result is seen exactly if its manifest has been committed and none of its versions has
been found corrupt or has expired. -/
def SeenExactly (w : ArtifactWorld) : Prop :=
  ∀ owner now, w.clock ≤ now → ∃ found, getVisibleBinding owner now w.db = .ok found ∧
    (found.isSome = true ↔ ∃ manifest manifestRef time,
      .committed manifest manifestRef time ∈ w.journal ∧ manifest.owner = owner ∧
        ∀ o ∈ manifest.versions manifestRef, ¬ Lost w.journal now o)

theorem ArtifactsSound.seenExactly (h : ArtifactsSound w) : SeenExactly w := by
  intro owner now hnow
  cases hbinding : w.db.bindings.find? owner with
  | none =>
    refine ⟨none, ?_, ⟨fun hsome => absurd hsome Bool.false_ne_true, ?_⟩⟩
    · unfold ArtifactRepository.getVisibleBinding bindingInConnection
      rw [hbinding]
    · rintro ⟨manifest, manifestRef, time, hmem, howner, _⟩
      obtain ⟨b, hfiled, _⟩ := h.filed manifest manifestRef time hmem
      exact absurd (hfiled.owner.trans howner) (Table.find?_eq_none_iff.mp hbinding b hfiled.bound)
  | some b =>
    obtain ⟨hb, rfl⟩ := Table.find?_some hbinding
    obtain ⟨manifest, manifestRef, time, hmem, hfiled⟩ := h.committed b hb
    have hself : manifestRef ∈ manifest.versions manifestRef := mem_versions.mpr (.inr rfl)
    obtain ⟨object, hobject, hsame⟩ := hfiled.find_object hself
    obtain ⟨found, hfound, hiff⟩ := hfiled.getVisibleBinding hobject hsame now
    refine ⟨found, by rw [hfiled.owner]; exact hfound, hiff.trans ⟨?_, ?_⟩⟩
    · rintro ⟨_, hobj, hmembers⟩
      refine ⟨manifest, manifestRef, time, hmem, hfiled.owner.symm, fun o ho hlost => ?_⟩
      obtain ⟨row, hrow, rfl⟩ := hfiled.versions o ho
      have hhides := (h.hides_iff hrow).mpr hlost
      rcases mem_versions.mp ho with ⟨m, hm, hmember⟩ | hmanifest
      · have hin : row ∈ memberObjects w.db b.manifestId :=
          hfiled.mem_memberObjects.mpr ⟨hrow, m, hm, hmember.symm⟩
        exact Bool.false_ne_true ((hmembers row hin).symm.trans hhides)
      · have hrowObject : row = object := by
          refine Table.eq_of_key hrow (Table.find?_some hobject).1 ?_
          unfold ObjectRow.objectId
          rw [hmanifest, hsame]
        rw [← hrowObject] at hobj
        exact Bool.false_ne_true (hobj.symm.trans hhides)
    · rintro ⟨manifest', manifestRef', time', hmem', howner, hkept⟩
      -- the binding of an owner is one, so both manifests are filed under it
      obtain ⟨b', hfiled', hhidden⟩ := h.filed manifest' manifestRef' time' hmem'
      have hsameRow : b' = b := Table.eq_of_key hfiled'.bound hb (hfiled'.owner.trans howner)
      subst hsameRow
      have hrefs : ∀ row ∈ w.db.objects.rows, row.refJson ∈ manifest'.versions manifestRef' →
          row.hides now = false := fun row hrow ho =>
        Bool.eq_false_iff.mpr fun hhides => hkept _ ho ((h.hides_iff hrow).mp hhides)
      have hmanifestRow : manifest'.row manifestRef' = manifest.row manifestRef :=
        Option.some.inj (hfiled'.find_manifest.symm.trans hfiled.find_manifest)
      refine ⟨?_, ?_, fun row hrow => ?_⟩
      · by_contra hv
        obtain ⟨o, ho, hlost⟩ := hhidden hv
        exact hkept o ho (hlost.mono (fun _ he => he) hnow)
      · obtain ⟨object', hobject', hsame'⟩ := hfiled'.find_object (mem_versions.mpr (.inr rfl))
        have hid : manifestRef'.objectId = manifestRef.objectId :=
          congrArg ManifestRow.manifestObjectId hmanifestRow
        rw [hid, hobject] at hobject'
        cases hobject'
        exact hrefs _ (Table.find?_some hobject).1 (mem_versions.mpr (.inr hsame'))
      · obtain ⟨hrow, m, hm, hmember⟩ := hfiled'.mem_memberObjects.mp hrow
        exact hrefs row hrow (mem_versions.mpr (.inl ⟨m, hm, hmember.symm⟩))

end

/-! ## Histories -/

/-- From one state to a later one: an owner stays with its manifest, and no result comes into
sight again. -/
structure Lasting (db db' : ArtifactTables) : Prop where
  bindings : ∀ b ∈ db.bindings.rows, ∃ b' ∈ db'.bindings.rows, b'.owner = b.owner ∧
    b'.manifestId = b.manifestId ∧ (b'.visibility = .visible → b.visibility = .visible)
  manifests : ∀ row ∈ db.manifests.rows, row ∈ db'.manifests.rows

theorem Lasting.refl (db : ArtifactTables) : Lasting db db where
  bindings b hb := ⟨b, hb, rfl, rfl, id⟩
  manifests _ h := h

theorem Lasting.trans {db db' db'' : ArtifactTables} (h : Lasting db db') (h' : Lasting db' db'') :
    Lasting db db'' where
  bindings b hb := by
    obtain ⟨b', hb', howner, hmanifest, hvisible⟩ := h.bindings b hb
    obtain ⟨b'', hb'', howner', hmanifest', hvisible'⟩ := h'.bindings b' hb'
    exact ⟨b'', hb'', howner'.trans howner, hmanifest'.trans hmanifest, hvisible ∘ hvisible'⟩
  manifests row hrow := h'.manifests row (h.manifests row hrow)

theorem BindingsDimmed.lasting {affected : String → Prop} {db db' : ArtifactTables}
    (h : BindingsDimmed affected db.bindings db'.bindings)
    (hmanifests : db'.manifests = db.manifests) : Lasting db db' where
  bindings b hb := by
    obtain ⟨b', hb', hdims⟩ := h.to_row b hb
    refine ⟨b', hb', ?_⟩
    cases hdims with
    | same => exact ⟨rfl, rfl, id⟩
    | hidden _ howner hmanifest _ hinvisible =>
      exact ⟨howner, hmanifest, fun hv => absurd hv hinvisible⟩
  manifests row hrow := by
    rw [hmanifests]
    exact hrow

theorem ArtifactStep.lasting {w w' : ArtifactWorld} (h : ArtifactStep w w') :
    Lasting w.db w'.db := by
  cases h with
  | idle | waited | stored | deleted => exact Lasting.refl _
  | committed hbound =>
    refine ⟨fun b hb => ⟨b, ?_, rfl, rfl, id⟩, hbound.widened.manifests⟩
    rw [(Table.insert?_some hbound.bindings).1]
    exact List.mem_append_left _ hb
  | marked hfound => exact hfound.bindings.lasting hfound.manifests
  | expired hnow => exact (hideBindings_dimmed (by decide)).lasting rfl

/-- The collector and a committed manifest: from the commit on none of its versions is deleted,
and what was deleted before was older than the grace window. -/
structure ReferencedKept (journal : List ArtifactEvent) : Prop where
  after : ∀ before manifest manifestRef time after,
    journal = before ++ .committed manifest manifestRef time :: after →
    ∀ ref now, .deleted ref now ∈ after → ∀ o ∈ manifest.versions manifestRef, ref.exact ≠ o.exact
  before : ∀ before manifest manifestRef time after,
    journal = before ++ .committed manifest manifestRef time :: after →
    ∀ ref now, .deleted ref now ∈ before → ref.createdAt + orphanGrace < now ∧ now ≤ time

theorem ArtifactsSound.referencedKept {w : ArtifactWorld} (h : ArtifactsSound w) :
    ReferencedKept w.journal where
  after before manifest manifestRef time after hsplit ref now hdeleted := by
    have hordered := h.ordered
    rw [hsplit] at hordered
    exact (List.pairwise_cons.mp (List.pairwise_append.mp hordered).2.1).1 _ hdeleted
  before before manifest manifestRef time after hsplit ref now hdeleted := by
    have hordered := h.ordered
    rw [hsplit] at hordered
    exact (List.pairwise_append.mp hordered).2.2 _ hdeleted _ (List.mem_cons_self ..)

/-- What holds of two states, one later than the other. -/
structure ArtifactLaws (earlier later : ArtifactWorld) : Prop where
  lasting : Lasting earlier.db later.db
  seen : SeenExactly later
  kept : ReferencedKept later.journal

theorem interleave_artifactsSound (start : Instant) (calls : List ArtifactCall)
    (schedule : List Nat) :
    ArtifactsSound ((artifactPool start calls).interleave schedule).state := by
  refine Pool.Obeys.invariant (I := fun c => ArtifactsSound c.state) artifact_cooperation ?_
    (artifactPool_obeys start calls) (artifactsSound_empty start)
  intro c i write next hsound hcall _ hstep
  rw [Pool.advance_step hcall]
  exact hstep.sound hsound

/-- **After any calls, by any schedule**: owners keep their manifests, results out of sight stay
out of sight, a result is seen exactly while its versions are sound, and none of them is
deleted. -/
theorem artifact_laws (start : Instant) (calls : List ArtifactCall) (first rest : List Nat) :
    ArtifactLaws ((artifactPool start calls).interleave first).state
      ((artifactPool start calls).interleave (first ++ rest)).state := by
  have hsound := interleave_artifactsSound start calls (first ++ rest)
  refine ⟨?_, hsound.seenExactly, hsound.referencedKept⟩
  rw [Pool.interleave_append]
  exact Pool.Obeys.related (T := fun w w' => Lasting w.db w'.db) artifact_cooperation
    (fun w => .refl w.db) .trans (fun _ hstep => hstep.lasting)
    ((artifactPool_obeys start calls).interleave artifact_cooperation)

/-! ## A late commit -/

namespace LateCommit

def owner : ArtifactOwner := ⟨"run", "run-1"⟩

def version (objectId : String) (kind : ArtifactKind) (createdAt : Instant) :
    ArtifactObjectVersion where
  objectId := objectId
  bucket := "artifacts"
  objectKey := objectId
  versionId := "1"
  sha256 := ""
  sizeBytes := 1
  kind := kind
  owner := owner
  contentType := "application/json"
  createdAt := createdAt

def trace : ArtifactObjectVersion := version "trace" .runTrace 0

def manifestRef : ArtifactObjectVersion := version "manifest" .artifactManifest 1

def manifest : ArtifactManifest where
  manifestId := "manifest-1"
  owner := owner
  members := [("trace", trace)]
  createdAt := 1
  member_ids := List.nodup_singleton _
  member_versions := List.nodup_singleton _
  member_owners := fun m hm => by rw [List.mem_singleton.mp hm]; rfl
  nonempty := List.cons_ne_nil _ _

/-- The trace is marked before it is recorded; the manifest is committed 25 hours after the
upload, when a collection has deleted its versions. -/
def calls : List ArtifactCall :=
  [.upload trace, .wait 1, .upload manifestRef, .markCorrupt trace, .wait 90000000000,
    .collect false ⟨true, fun _ => .deleted⟩, .commit manifest manifestRef]

def final : Pool ArtifactWorld ArtifactError ArtifactReply :=
  (artifactPool 0 calls).interleave [0, 1, 2, 3, 3, 4, 5, 5, 5, 5, 5, 5, 6]

end LateCommit

/-- **A commit after the grace window** refers to versions that are gone, and a version that was
marked before its commit is seen. -/
theorem lateCommit_dangles :
    LateCommit.final.state.journal =
      [.deleted LateCommit.trace 90000000001, .deleted LateCommit.manifestRef 90000000001,
        .committed LateCommit.manifest LateCommit.manifestRef 90000000001] ∧
    LateCommit.final.result 3 = some (.ok (.hidden 0)) ∧
    getVisibleBinding LateCommit.owner 90000000001 LateCommit.final.state.db =
      .ok (some ⟨LateCommit.owner, LateCommit.manifestRef, .visible, some 1, true⟩) := by
  decide +kernel

end ProofAgent
