import ProofAgent.Observability.ArtifactGc

/-! # What the calls on artifacts do

A commit records the versions of a manifest, files the manifest and binds it to its owner; a mark
and an expiry take bindings out of sight; a collection deletes versions that are old and free.
Every transaction of every call is one of these steps. -/
namespace ProofAgent

open Base ArtifactRepository

/-- The versions of a manifest: its members and the manifest object. -/
def ArtifactManifest.versions (manifest : ArtifactManifest) (manifestRef : ArtifactObjectVersion) :
    List ArtifactObjectVersion :=
  manifest.members.map (·.2) ++ [manifestRef]

def ArtifactManifest.row (manifest : ArtifactManifest) (manifestRef : ArtifactObjectVersion) :
    ManifestRow :=
  ⟨manifest.manifestId, manifest.owner, manifestRef.objectId⟩

/-- Rows of one exact version are one row. -/
def ExactOnce (db : ArtifactTables) : Prop :=
  ∀ r ∈ db.objects.rows, ∀ r' ∈ db.objects.rows, r.refJson.exact = r'.refJson.exact → r = r'

/-! ## What a commit writes -/

/-- The second tables have the versions of the first ones and `refs`. -/
structure RefsRecorded (refs : List ArtifactObjectVersion) (db db' : ArtifactTables) : Prop where
  frame : db' = { db with objects := db'.objects }
  kept : ∀ row ∈ db.objects.rows, row ∈ db'.objects.rows
  recorded : ∀ ref ∈ refs, ∃ row ∈ db'.objects.rows, row.refJson = ref
  fresh : ∀ row ∈ db'.objects.rows, row ∈ db.objects.rows ∨
    row.state = .verified ∧ ∀ r ∈ db.objects.rows, r.refJson.exact ≠ row.refJson.exact
  once : ExactOnce db → ExactOnce db'

theorem RefsRecorded.refl (db : ArtifactTables) : RefsRecorded [] db db where
  frame := rfl
  kept _ h := h
  recorded _ h := absurd h List.not_mem_nil
  fresh _ h := .inl h
  once h := h

theorem RefsRecorded.trans {refs refs' : List ArtifactObjectVersion}
    {db db' db'' : ArtifactTables} (h : RefsRecorded refs db db')
    (h' : RefsRecorded refs' db' db'') : RefsRecorded (refs ++ refs') db db'' where
  frame := by
    rw [h'.frame, h.frame]
  kept row hrow := h'.kept row (h.kept row hrow)
  recorded ref href := by
    rcases List.mem_append.mp href with href | href
    · obtain ⟨row, hrow, hsame⟩ := h.recorded ref href
      exact ⟨row, h'.kept row hrow, hsame⟩
    · exact h'.recorded ref href
  fresh row hrow := by
    rcases h'.fresh row hrow with hrow | ⟨hstate, hfresh⟩
    · exact h.fresh row hrow
    · exact .inr ⟨hstate, fun r hr => hfresh r (h.kept r hr)⟩
  once honce := h'.once (h.once honce)

theorem insertExactRef_ok {conflict : Error} {db db' : ArtifactTables} {ref : ArtifactObjectVersion}
    (h : insertExactRef conflict db ref = .ok db') : RefsRecorded [ref] db db' := by
  unfold insertExactRef at h
  split at h
  · rename_i existing hfound
    obtain ⟨_, hsame, h⟩ := bind_ok h
    cases pure_ok h
    refine { RefsRecorded.refl db with recorded := fun r hr => ?_ }
    rw [List.mem_singleton.mp hr]
    exact ⟨existing, (Table.find?_some hfound).1, require_ok hsame⟩
  · obtain ⟨_, hexact, h⟩ := bind_ok h
    obtain ⟨objects, hinsert, h⟩ := bind_ok h
    cases pure_ok h
    have hnew := require_ok hexact
    obtain ⟨hrows, _⟩ := Table.insert?_some (orRaise_ok hinsert)
    have hmem : ∀ row, row ∈ objects.rows ↔
        row ∈ db.objects.rows ∨ row = ⟨ref, .verified, none⟩ := by
      intro row
      rw [hrows, List.mem_append, List.mem_singleton]
    refine ⟨rfl, fun row hrow => (hmem row).mpr (.inl hrow), fun r hr => ?_, fun row hrow => ?_,
      fun honce r hr r' hr' hsame => ?_⟩
    · rw [List.mem_singleton.mp hr]
      exact ⟨_, (hmem _).mpr (.inr rfl), rfl⟩
    · rcases (hmem row).mp hrow with hold | rfl
      · exact .inl hold
      · exact .inr ⟨rfl, hnew⟩
    · rcases (hmem r).mp hr with hold | rfl <;> rcases (hmem r').mp hr' with hold' | rfl
      · exact honce r hold r' hold' hsame
      · exact absurd hsame (hnew r hold)
      · exact absurd hsame.symm (hnew r' hold')
      · rfl

theorem insertExactRefs_ok {conflict : Error} : ∀ {refs : List ArtifactObjectVersion}
    {db db' : ArtifactTables}, refs.foldlM (insertExactRef conflict) db = .ok db' →
    RefsRecorded refs db db'
  | [], db, db', h => by
    cases pure_ok h
    exact RefsRecorded.refl db
  | ref :: refs, db, db', h => by
    rw [List.foldlM_cons] at h
    obtain ⟨next, hfirst, hrest⟩ := bind_ok h
    exact (insertExactRef_ok hfirst).trans (insertExactRefs_ok hrest)

theorem insertMembers_ok {conflict : Error} {manifestId : String} :
    ∀ {members : List (String × ArtifactObjectVersion)} {db db' : ArtifactTables},
    members.foldlM (insertMember conflict manifestId) db = .ok db' →
      db' = { db with members := db'.members } ∧ db'.members.rows =
        db.members.rows ++ members.map fun m => ⟨manifestId, m.1, m.2.objectId⟩
  | [], db, db', h => by
    cases pure_ok h
    exact ⟨rfl, (List.append_nil _).symm⟩
  | member :: members, db, db', h => by
    rw [List.foldlM_cons] at h
    obtain ⟨next, hfirst, hrest⟩ := bind_ok h
    obtain ⟨hframe, hrows⟩ := insertMembers_ok hrest
    unfold insertMember at hfirst
    obtain ⟨_, _, hfirst⟩ := bind_ok hfirst
    obtain ⟨inserted, hinsert, hfirst⟩ := bind_ok hfirst
    cases pure_ok hfirst
    obtain ⟨hone, _⟩ := Table.insert?_some (orRaise_ok hinsert)
    refine ⟨hframe, ?_⟩
    rw [hrows, List.map_cons]
    dsimp only
    rw [hone, List.append_assoc]
    rfl

/-- The commit that binds a manifest to its owner. -/
structure ManifestBound (manifest : ArtifactManifest) (manifestRef : ArtifactObjectVersion)
    (db db' : ArtifactTables) : Prop where
  kind : manifestRef.isManifest = true
  owner : manifestRef.owner = manifest.owner
  recorded : RefsRecorded (manifest.versions manifestRef) db { db with objects := db'.objects }
  manifests : db.manifests.insert? (manifest.row manifestRef) = some db'.manifests
  members : db'.members.rows = db.members.rows ++
    manifest.members.map fun m => ⟨manifest.manifestId, m.1, m.2.objectId⟩
  bindings : db.bindings.insert? ⟨manifest.owner, manifest.manifestId, .visible,
    some manifest.createdAt, true, manifest.createdAt, rfl⟩ = some db'.bindings

/-- A commit that returns finds its owner bound, or binds it. -/
theorem commitVisibleManifest_ok {manifest : ArtifactManifest}
    {manifestRef : ArtifactObjectVersion} {db db' : ArtifactTables} {binding : ArtifactOwnerBinding}
    (h : commitVisibleManifest manifest manifestRef db = .ok (binding, db')) :
    (db' = db ∧ (db.bindings.find? manifest.owner).isSome = true) ∨
      ManifestBound manifest manifestRef db db' := by
  unfold commitVisibleManifest at h
  obtain ⟨_, hkind, h⟩ := bind_ok h
  obtain ⟨_, howner, h⟩ := bind_ok h
  split at h
  · rename_i existing hexisting
    obtain ⟨_, _, h⟩ := bind_ok h
    obtain ⟨_, _, h⟩ := bind_ok h
    obtain ⟨_, _, h⟩ := bind_ok h
    cases pure_ok h
    obtain ⟨b, hb, _⟩ := Option.bind_eq_some_iff.mp hexisting
    exact .inl ⟨rfl, by rw [hb]; rfl⟩
  · obtain ⟨db₁, hmembers, h⟩ := bind_ok h
    obtain ⟨db₂, hmanifest, h⟩ := bind_ok h
    obtain ⟨_, _, h⟩ := bind_ok h
    obtain ⟨manifests, hmanifests, h⟩ := bind_ok h
    obtain ⟨db₃, hrows, h⟩ := bind_ok h
    obtain ⟨_, _, h⟩ := bind_ok h
    obtain ⟨bindings, hbindings, h⟩ := bind_ok h
    cases pure_ok h
    have hrecorded := (insertExactRefs_ok hmembers).trans (insertExactRef_ok hmanifest)
    obtain ⟨hframe, hmemberRows⟩ := insertMembers_ok hrows
    have hobjects : db₂ = { db with objects := db₂.objects } := hrecorded.frame
    rw [hframe, hobjects] at hmemberRows hbindings ⊢
    rw [hobjects] at hmanifests
    exact .inr ⟨require_ok hkind, require_ok howner, by rw [← hobjects]; exact hrecorded,
      orRaise_ok hmanifests, hmemberRows, orRaise_ok hbindings⟩

/-! ## What takes a result out of sight -/

/-- The row as it was, or out of sight since `affected` holds of its manifest. -/
inductive Dims (affected : String → Prop) (b : BindingRow) : BindingRow → Prop
  | same : Dims affected b b
  | hidden {b' : BindingRow} (h : affected b.manifestId) (owner : b'.owner = b.owner)
      (manifest : b'.manifestId = b.manifestId) (visibleAt : b'.visibleAt = b.visibleAt)
      (invisible : b'.visibility ≠ .visible) : Dims affected b b'

theorem hideBinding_dims {affected : String → Bool} {visibility : ArtifactVisibility}
    {now : Instant} (hv : visibility ≠ .visible) (b : BindingRow) :
    Dims (affected · = true) b (if affected b.manifestId && b.visibility = .visible then
      hideBinding visibility now b else b) := by
  split
  · rename_i h
    exact .hidden (Bool.and_eq_true_iff.mp h).1 rfl rfl rfl hv
  · exact .same

/-- Every row of the second table comes from one of the first, and every row of the first one
has a successor. -/
structure BindingsDimmed (affected : String → Prop) (t t' : Table BindingRow.owner) : Prop where
  from_row : ∀ b' ∈ t'.rows, ∃ b ∈ t.rows, Dims affected b b'
  to_row : ∀ b ∈ t.rows, ∃ b' ∈ t'.rows, Dims affected b b'

theorem hideBindings_dimmed {affected : String → Bool} {visibility : ArtifactVisibility}
    {now : Instant} {db : ArtifactTables} (hv : visibility ≠ .visible) :
    BindingsDimmed (affected · = true) db.bindings
      (hideBindings affected visibility now db).2.bindings where
  from_row b' hb' := by
    unfold hideBindings at hb'
    dsimp only at hb'
    obtain ⟨b, hb, rfl⟩ := Table.mem_update.mp hb'
    exact ⟨b, hb, hideBinding_dims hv b⟩
  to_row b hb := by
    unfold hideBindings
    dsimp only
    exact ⟨_, Table.mem_update.mpr ⟨b, hb, rfl⟩, hideBinding_dims hv b⟩

/-- The update of `mark_corrupt`, which reaches the row of the version. -/
structure FoundCorrupt (ref : ArtifactObjectVersion) (db db' : ArtifactTables) : Prop where
  manifests : db'.manifests = db.manifests
  members : db'.members = db.members
  object : ∃ old new, old.objectId = ref.objectId ∧ old.refJson.exact = ref.exact ∧
    new.refJson = old.refJson ∧ new.state = .corrupt ∧
    Table.Replaced db.objects db'.objects old new
  bindings : BindingsDimmed (refersTo db ref.objectId · = true) db.bindings db'.bindings

theorem isRecorded_iff {db : ArtifactTables} {ref : ArtifactObjectVersion} :
    isRecorded db ref = true ↔
      ∃ row ∈ db.objects.rows, row.objectId = ref.objectId ∧ row.refJson.exact = ref.exact := by
  simp [isRecorded]

theorem markCorrupt_recorded {ref : ArtifactObjectVersion} {now : Instant} {db : ArtifactTables}
    (h : isRecorded db ref = true) : FoundCorrupt ref db (markCorrupt ref now db).2 := by
  obtain ⟨row, hrow, hid, hexact⟩ := isRecorded_iff.mp h
  have hcount : db.objects.count
      (fun row => row.objectId = ref.objectId && row.refJson.exact = ref.exact) = 1 := by
    refine Table.count_eq_one hrow (by simp [hid, hexact]) fun s _ hs => ?_
    exact (of_decide_eq_true (Bool.and_eq_true_iff.mp hs).1).trans hid.symm
  unfold markCorrupt
  rw [if_neg (not_not_intro hcount)]
  obtain ⟨old, hold, hp, hreplaced⟩ := Table.replaced_of_update
    (fun row : ObjectRow => { row with state := .corrupt, corruptAt := some now }) (fun _ => rfl)
    hcount
  obtain ⟨hsameId, hsame⟩ := Bool.and_eq_true_iff.mp hp
  refine ⟨rfl, rfl, ?_, hideBindings_dimmed (by decide)⟩
  exact ⟨old, { old with state := .corrupt, corruptAt := some now }, of_decide_eq_true hsameId,
    of_decide_eq_true hsame, rfl, rfl, hreplaced⟩

theorem markCorrupt_unrecorded {ref : ArtifactObjectVersion} {now : Instant} {db : ArtifactTables}
    (h : isRecorded db ref = false) : markCorrupt ref now db = (0, db) := by
  have hnone : ∀ row ∈ db.objects.rows,
      (row.objectId = ref.objectId && row.refJson.exact = ref.exact : Bool) = false :=
    fun row hrow => Bool.eq_false_iff.mpr (List.any_eq_false.mp h row hrow)
  have hcount := Table.count_eq_zero hnone
  unfold markCorrupt
  rw [if_pos (by rw [hcount]; exact Nat.zero_ne_one)]
  exact congrArg (fun objects => ((0 : Nat), ({ db with objects } : ArtifactTables)))
    (Table.update_none hcount)

/-! ## Transactions -/

/-- What a transaction of a call does. -/
inductive ArtifactStep (w : ArtifactWorld) : ArtifactWorld → Prop
  | idle : ArtifactStep w w
  | waited (elapsed : Nat) : ArtifactStep w { w with clock := w.clock + elapsed }
  | stored (store : List ArtifactObjectVersion) : ArtifactStep w { w with store }
  | committed {manifest : ArtifactManifest} {manifestRef : ArtifactObjectVersion}
      {db : ArtifactTables} (h : ManifestBound manifest manifestRef w.db db) :
      ArtifactStep w
        { w with db, journal := w.journal ++ [.committed manifest manifestRef w.clock] }
  | marked {ref : ArtifactObjectVersion} {db : ArtifactTables} (h : FoundCorrupt ref w.db db) :
      ArtifactStep w { w with db, journal := w.journal ++ [.marked ref] }
  | expired {now : Instant} (h : now ≤ w.clock) :
      ArtifactStep w { w with db := (expireDue now w.db).2 }
  | deleted {ref : ArtifactObjectVersion} {now : Instant} (store : List ArtifactObjectVersion)
      (old : ref.createdAt + orphanGrace < now) (past : now ≤ w.clock)
      (free : containsExact w.db ref = false) :
      ArtifactStep w { w with store, journal := w.journal ++ [.deleted ref now] }

/-- Time goes on. -/
def NotBefore (w w' : ArtifactWorld) : Prop := w.clock ≤ w'.clock

theorem ArtifactStep.notBefore {w w' : ArtifactWorld} (h : ArtifactStep w w') : NotBefore w w' := by
  cases h with
  | waited elapsed =>
    unfold NotBefore
    exact Int.le_add_of_nonneg_right (Int.natCast_nonneg elapsed)
  | idle | stored | committed | marked | expired | deleted => exact le_refl _

abbrev ArtifactProcess.DoesSteps {α : Type} (x : ArtifactProcess α)
    (Q : Except ArtifactError α → ArtifactWorld → Prop) (w : ArtifactWorld) : Prop :=
  x.Leads NotBefore ArtifactStep Q w

theorem readClock_steps (w : ArtifactWorld) :
    ArtifactProcess.DoesSteps readClock (fun r t => ∀ now, r = .ok now → now ≤ t.clock) w := by
  intro t _
  refine ⟨.idle, fun now hnow => ?_⟩
  cases hnow
  exact le_refl _

theorem putImmutable_step (ref : ArtifactObjectVersion) (w : ArtifactWorld) :
    ArtifactStep w (ArtifactWorld.putImmutable ref w).2 := by
  unfold ArtifactWorld.putImmutable
  dsimp only
  split
  · exact .idle
  · exact .stored _

theorem commitVisibleManifest_step (manifest : ArtifactManifest)
    (manifestRef : ArtifactObjectVersion) (w : ArtifactWorld) :
    ArtifactStep w (ArtifactWorld.commitVisibleManifest manifest manifestRef w).2 := by
  unfold ArtifactWorld.commitVisibleManifest
  split
  · exact .idle
  · rename_i binding db hcommit
    rcases commitVisibleManifest_ok hcommit with ⟨rfl, hbound⟩ | hbound
    · rw [if_pos hbound]
      exact .idle
    · obtain ⟨_, hnew⟩ := Table.insert?_some hbound.bindings
      have hunbound : w.db.bindings.find? manifest.owner = none := Table.find?_eq_none_iff.mpr hnew
      rw [hunbound]
      exact .committed hbound

theorem markCorrupt_step (ref : ArtifactObjectVersion) (now : Instant) (w : ArtifactWorld) :
    ArtifactStep w (ArtifactWorld.markCorrupt ref now w).2 := by
  unfold ArtifactWorld.markCorrupt
  cases hrecorded : isRecorded w.db ref with
  | true => exact .marked (markCorrupt_recorded hrecorded)
  | false =>
    rw [markCorrupt_unrecorded hrecorded]
    exact .idle

theorem deleteIfUnreferenced_run (ref : ArtifactObjectVersion) (deleter : ArtifactWorld.Call Unit)
    (w : ArtifactWorld) : ArtifactWorld.deleteIfUnreferenced ref deleter w =
      if containsExact w.db ref then (.ok false, w) else (deleter >>= fun _ => pure true) w := by
  unfold ArtifactWorld.deleteIfUnreferenced
  rw [Effect.run_bind]
  exact apply_ite (fun x : ArtifactWorld.Call Bool => x w) _ _ _

theorem deleteIfUnreferenced_step {ref : ArtifactObjectVersion} {now : Instant}
    {answers : StoreAnswers} {w : ArtifactWorld} (hold : ref.createdAt + orphanGrace < now)
    (hpast : now ≤ w.clock) :
    ArtifactStep w (ArtifactWorld.deleteIfUnreferenced ref
      (ArtifactWorld.deleteExact ref now answers) w).2 := by
  rw [deleteIfUnreferenced_run]
  cases hfree : containsExact w.db ref with
  | true => exact .idle
  | false =>
    rw [if_neg Bool.false_ne_true, ReadOnly.bind_snd fun _ => ReadOnly.pure _]
    unfold ArtifactWorld.deleteExact
    dsimp only
    split
    · exact .idle
    · split
      · exact .deleted _ hold hpast hfree
      · exact .idle
      · exact .deleted _ hold hpast hfree

/-! ## Calls -/

section
open ArtifactGarbageCollector
variable {now : Instant} {dryRun : Bool} {answers : StoreAnswers} {w : ArtifactWorld}

/-- A version that a collection of the time `now` may delete. -/
def OldAt (now : Instant) (ref : ArtifactObjectVersion) : Prop := ref.createdAt + orphanGrace < now

theorem collectVersion_steps (counts : Counts) {ref : ArtifactObjectVersion} (hold : OldAt now ref)
    (hpast : now ≤ w.clock) : ArtifactProcess.DoesSteps
      (collectVersion now dryRun answers counts ref) (fun _ t => now ≤ t.clock) w := by
  unfold collectVersion
  refine Process.Leads.bind (Q := fun _ t => now ≤ t.clock) (fun contained t ht => ?_)
    (fun _ _ ht => ht) ?_
  · cases contained with
    | true => exact ht
    | false =>
      cases dryRun with
      | true => exact ht
      | false =>
        refine Process.Leads.bind (Q := fun _ t => now ≤ t.clock) (fun removed t ht => ?_)
          (fun _ _ ht => ht) ?_
        · rcases removed with _ | _ | _ <;> exact ht
        · refine Process.Leads.caught (Process.Leads.atomic fun u hu => ?_)
          have hlater : now ≤ u.clock := le_trans ht hu
          have hstep := @deleteIfUnreferenced_step ref now answers u hold hlater
          exact ⟨hstep, le_trans hlater hstep.notBefore⟩
  · exact Process.Leads.atomic fun u hu => ⟨.idle, le_trans hpast hu⟩

theorem collectVersions_steps : ∀ {refs : List ArtifactObjectVersion} (counts : Counts)
    {w : ArtifactWorld}, (∀ ref ∈ refs, OldAt now ref) → now ≤ w.clock →
    ArtifactProcess.DoesSteps (refs.foldlM (collectVersion now dryRun answers) counts)
      (fun _ t => now ≤ t.clock) w
  | [], _, _, _, hpast => hpast
  | ref :: refs, counts, w, hold, hpast => by
    rw [List.foldlM_cons]
    refine Process.Leads.bind (fun counts t ht => ?_) (fun _ _ ht => ht)
      (collectVersion_steps counts (hold ref (List.mem_cons_self ..)) hpast)
    exact collectVersions_steps counts (fun r hr => hold r (List.mem_cons_of_mem _ hr)) ht

theorem iterVersionsBefore_old {refs : List ArtifactObjectVersion}
    (h : (ArtifactWorld.iterVersionsBefore (now - orphanGrace) answers w).1 = .ok refs) :
    ∀ ref ∈ refs, OldAt now ref := by
  unfold ArtifactWorld.iterVersionsBefore at h
  split at h
  · cases h
    intro ref href
    rw [List.mem_insertionSort] at href
    have hbefore := of_decide_eq_true (List.mem_filter.mp href).2
    exact Int.add_lt_of_lt_sub_right hbefore
  · cases h

theorem iterVersionsBefore_state (before : Instant) :
    (ArtifactWorld.iterVersionsBefore before answers w).2 = w := by
  unfold ArtifactWorld.iterVersionsBefore
  split <;> rfl

/-- What is made of a result. -/
theorem reply_steps {α β : Type} {x : ArtifactProcess α} {f : α → β}
    {Q : Except ArtifactError α → ArtifactWorld → Prop} (h : ArtifactProcess.DoesSteps x Q w) :
    ArtifactProcess.DoesSteps (x.map f) (fun _ _ => True) w :=
  Process.Leads.bind (f := fun a => pure (f a)) (P := fun _ _ => True) (fun _ _ _ => trivial)
    (fun _ _ _ => trivial) h

theorem collect_steps (hpast : now ≤ w.clock) : ArtifactProcess.DoesSteps
    (collect now dryRun answers) (fun _ _ => True) w := by
  unfold collect
  refine Process.Leads.bind
    (Q := fun r t => now ≤ t.clock ∧ ∀ refs, r = .ok refs → ∀ ref ∈ refs, OldAt now ref)
    (fun refs t ht => ?_) (fun _ _ _ => trivial) (Process.Leads.atomic fun u hu => ?_)
  · exact reply_steps (collectVersions_steps {} (ht.2 refs rfl) ht.1)
  · rw [iterVersionsBefore_state]
    exact ⟨.idle, le_trans hpast hu, fun refs hrefs => iterVersionsBefore_old hrefs⟩

/-- A call of one transaction. -/
theorem atomic_steps {α : Type} {x : ArtifactWorld.Call α} {reply : α → ArtifactReply}
    (h : ∀ t, NotBefore w t → ArtifactStep t (x t).2) :
    ArtifactProcess.DoesSteps ((Process.atomic x).map reply) (fun _ _ => True) w :=
  reply_steps (Q := fun _ _ => True) (Process.Leads.atomic fun t ht => ⟨h t ht, trivial⟩)

/-- **Whatever a call does, it does by such steps.** -/
theorem ArtifactCall.process_steps (c : ArtifactCall) (w : ArtifactWorld) :
    ArtifactProcess.DoesSteps c.process (fun _ _ => True) w := by
  cases c with
  | wait elapsed => exact fun t _ => ⟨.waited elapsed, trivial⟩
  | upload ref => exact atomic_steps fun t _ => putImmutable_step ref t
  | commit manifest manifestRef =>
    exact atomic_steps fun t _ => commitVisibleManifest_step manifest manifestRef t
  | markCorrupt ref =>
    exact Process.Leads.bind (fun now t _ => atomic_steps fun u _ => markCorrupt_step ref now u)
      (fun _ _ _ => trivial) (readClock_steps w)
  | expireDue =>
    refine Process.Leads.bind (fun now t ht => atomic_steps fun u hu => ?_) (fun _ _ _ => trivial)
      (readClock_steps w)
    exact .expired (le_trans (ht now rfl) hu)
  | collect dryRun answers =>
    refine Process.Leads.bind (fun now t ht => ?_) (fun _ _ _ => trivial) (readClock_steps w)
    exact reply_steps (collect_steps (ht now rfl))

end

theorem artifact_cooperation : Cooperation (fun _ _ => True) (fun _ => NotBefore)
    (fun (_ : Nat) (_ : Option (Except ArtifactError ArtifactReply)) => ArtifactStep) where
  refl _ w := le_refl w.clock
  trans h h' := le_trans h h'
  tolerates _ _ h := h.notBefore

theorem artifactPool_obeys (start : Instant) (calls : List ArtifactCall) :
    (artifactPool start calls).Obeys (fun _ _ => True) (fun _ => NotBefore)
      (fun (_ : Nat) (_ : Option (Except ArtifactError ArtifactReply)) => ArtifactStep) := by
  intro i x hx
  unfold artifactPool at hx
  rw [List.getElem?_map, Option.map_eq_some_iff] at hx
  obtain ⟨c, _, rfl⟩ := hx
  exact ((c.process_steps _).obeys (fun _ _ => trivial) (fun _ => trivial) trivial).weaken
    fun h => h.1

end ProofAgent
