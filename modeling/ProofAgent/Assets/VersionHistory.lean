import ProofAgent.Assets.SaveTransactions
import ProofAgent.Base.JsonText

/-! # The versions of shared assets

Saves of any assets run by any schedule. Every store that they reach is consistent, and
of the saves that would change an asset from one revision on, one does. -/
namespace ProofAgent.Assets

open Base

variable (repository : VersionedAssetRepository) (requests : List SaveRequest)

/-! ## Saves in a pool -/

abbrev SavePool : Type := Pool AssetStore AssetError SharedAssetVersionRef

/-- The saves, before the first of them. -/
def savePool : SavePool := ⟨.empty, requests.map (save repository)⟩

/-- What the save `i` guarantees. -/
def Saves (i : Nat) (r : Option (Except AssetError SharedAssetVersionRef)) (s t : AssetStore) : Prop :=
  ∃ request, requests[i]? = some request ∧ Saved repository request r s t

section
variable {repository} {requests} {s t : AssetStore} {request : SaveRequest}
  {r : Option (Except AssetError SharedAssetVersionRef)}

theorem Saved.consistent (h : Saved repository request r s t) (hs : Consistent repository s) :
    Consistent repository t := by
  cases h with
  | looked | refused | kept => exact hs
  | written h => exact h.consistent hs

/-- Versions are added, and none is changed. -/
theorem Saved.versions (h : Saved repository request r s t) :
    s.versions.rows <+: t.versions.rows := by
  cases h with
  | looked | refused | kept => exact List.prefix_rfl
  | written h =>
    obtain ⟨updatedAt, hversions, _⟩ := h.version
    rw [hversions]
    exact List.prefix_append _ _

theorem Saved.revision_le (h : Saved repository request r s t) (assetId : String) :
    s.revision assetId ≤ t.revision assetId := by
  cases h with
  | looked | refused | kept => exact le_refl _
  | written h =>
    by_cases hasset : assetId = request.assetId
    · rw [hasset, h.revision]
      exact Nat.le_succ _
    · exact (revision_congr (h.find?_other hasset)).ge

/-- The transaction of a save keeps what it has done, unless it raises. -/
theorem saved_transaction {x : AssetQuery SharedAssetVersionRef}
    (h : Triple (fun y => y = s) x (fun ref t => Saved repository request (some (.ok ref)) s t)
      (fun e _ => Saved repository request (some (.error e)) s s)) :
    Saved repository request (some (Effect.transaction x s).1) s (Effect.transaction x s).2 := by
  have hx := h s rfl
  unfold Effect.transaction
  rcases hr : x s with ⟨e | ref, t⟩
  · exact hx.2 e t hr
  · exact hx.1 ref t hr

theorem save_obeys (hs : Consistent repository s) :
    (save repository request).Obeys (Consistent repository)
      (fun s t => Consistent repository s → Consistent repository t) (Saved repository request) s := by
  unfold save
  by_cases hnegative : request.expectedRevision < 0
  · rw [if_pos hnegative]
    trivial
  rw [if_neg hnegative, Process.atomic_then]
  intro x hx
  have hlocked := saveLocked_saved request (hx hs) x rfl
  refine ⟨hx hs, ?_⟩
  beta_reduce
  rcases hr : saveLocked repository request x with ⟨e | _ | ref, t⟩
  · have hrun : Effect.transaction (saveLocked repository request) x = (.error e, x) := by
      unfold Effect.transaction
      rw [hr]
    rw [hrun]
    exact ⟨hlocked.2 e t hr, trivial⟩
  · have hrun : Effect.transaction (saveLocked repository request) x = (.ok none, t) := by
      unfold Effect.transaction
      rw [hr]
    obtain ⟨hsaved, hzero⟩ := hlocked.1 none t hr
    rw [hrun]
    refine ⟨hsaved, fun y hy => ?_⟩
    have hconsistent := hy (hsaved.consistent (hx hs))
    exact ⟨hconsistent, saved_transaction (saveFirst_saved hconsistent (hzero rfl)), trivial⟩
  · have hrun : Effect.transaction (saveLocked repository request) x = (.ok (some ref), t) := by
      unfold Effect.transaction
      rw [hr]
    rw [hrun]
    exact ⟨(hlocked.1 (some ref) t hr).1, trivial⟩

theorem saves_cooperation : Cooperation (fun _ => Consistent repository)
    (fun _ s t => Consistent repository s → Consistent repository t) (Saves repository requests) where
  refl _ _ hs := hs
  trans h h' hs := h' (h hs)
  tolerates _ _ h := by
    obtain ⟨_, _, hsaved⟩ := h
    exact hsaved.consistent

theorem savePool_obeys : (savePool repository requests).Obeys (fun _ => Consistent repository)
    (fun _ s t => Consistent repository s → Consistent repository t) (Saves repository requests) := by
  intro i x hx
  unfold savePool at hx
  dsimp only at hx
  rw [List.getElem?_map, Option.map_eq_some_iff] at hx
  obtain ⟨request, hrequest, rfl⟩ := hx
  exact (save_obeys consistent_empty).weaken fun h => ⟨request, hrequest, h⟩

theorem interleave_obeys (repository : VersionedAssetRepository) (requests : List SaveRequest)
    (schedule : List Nat) :
    ((savePool repository requests).interleave schedule).Obeys (fun _ => Consistent repository)
      (fun _ s t => Consistent repository s → Consistent repository t) (Saves repository requests) :=
  savePool_obeys.interleave saves_cooperation

theorem interleave_consistent (repository : VersionedAssetRepository) (requests : List SaveRequest)
    (schedule : List Nat) :
    Consistent repository ((savePool repository requests).interleave schedule).state := by
  refine Pool.Obeys.invariant (I := fun c => Consistent repository c.state) saves_cooperation ?_
    savePool_obeys consistent_empty
  rintro c i write next hc hcall _ ⟨_, _, hsaved⟩
  rw [Pool.advance_step hcall]
  exact hsaved.consistent hc

/-- A version that is stored, stays. -/
theorem versions_prefix {c : SavePool} (hobeys : c.Obeys (fun _ => Consistent repository)
      (fun _ s t => Consistent repository s → Consistent repository t) (Saves repository requests))
    (rest : List Nat) : c.state.versions.rows <+: (c.interleave rest).state.versions.rows := by
  refine Pool.Obeys.related (T := fun s t => s.versions.rows <+: t.versions.rows)
    saves_cooperation (fun _ => List.prefix_rfl) List.IsPrefix.trans ?_ hobeys
  rintro i r s t _ ⟨_, _, hsaved⟩
  exact hsaved.versions

/-- The next transaction of a save that runs. -/
theorem advance_saved {c : SavePool} (hobeys : c.Obeys (fun _ => Consistent repository)
      (fun _ s t => Consistent repository s → Consistent repository t) (Saves repository requests))
    {i : Nat} (hrequest : requests[i]? = some request) (hcalls : c.calls.length = requests.length)
    (hrunning : c.result i = none) :
    Saved repository request ((c.advance i).result i) c.state (c.advance i).state := by
  have hlt : i < c.calls.length := by
    rw [hcalls]
    exact (List.getElem?_eq_some_iff.mp hrequest).1
  have hcall : c.calls[i]? = some c.calls[i] := List.getElem?_eq_getElem hlt
  unfold Pool.result at hrunning
  rw [hcall, Option.bind_some] at hrunning
  cases hprocess : c.calls[i] with
  | done r =>
    rw [hprocess] at hrunning
    cases hrunning
  | step write next =>
    rw [hprocess] at hcall
    obtain ⟨_, ⟨other, hother, hsaved⟩, _⟩ := hobeys.step saves_cooperation hcall
    rw [hrequest] at hother
    cases hother
    rw [Pool.advance_step hcall, Pool.result_set_self hcall]
    exact hsaved

end

/-! ## Saves that race -/

/-- A save of the asset that runs, expects its current revision and would change it. -/
structure Races (c : SavePool) (assetId : String) (i : Nat) (request : SaveRequest) : Prop where
  call : requests[i]? = some request
  running : c.result i = none
  asset : request.assetId = assetId
  expected : request.expectedRevision = c.state.revision assetId
  changes : c.state.content? assetId ≠ some request.payload

/-- A save that has succeeded. -/
def Succeeds (c : SavePool) (i : Nat) : Prop := ∃ ref, c.result i = some (.ok ref)

/-- The race that begins at `c`, at `d`: none of its saves has ended and the asset is as it
was, or one save has won and the asset has moved on. -/
def RaceAt (c : SavePool) (assetId : String) (d : SavePool) : Prop :=
  d.state.assets.find? assetId = c.state.assets.find? assetId ∧
      (∀ i request, Races requests c assetId i request → d.result i = none) ∨
    c.state.revision assetId < d.state.revision assetId ∧
      ∃! i, (∃ request, Races requests c assetId i request) ∧ Succeeds d i

/-- The ids of the versions have been drawn by saves that have ended. -/
def IdsDrawn (c : SavePool) : Prop :=
  ∀ row ∈ c.state.versions.rows, ∃ i request, requests[i]? = some request ∧
    row.versionId = request.versionId ∧ c.result i ≠ none

section
variable {repository} {requests} {s t : AssetStore} {request : SaveRequest}

theorem idsDrawn_step {c : SavePool} {i : Nat} {write : AssetStore → AssetStore}
    {next : AssetStore → Process AssetStore AssetError SharedAssetVersionRef}
    (h : IdsDrawn requests c) (hcall : c.calls[i]? = some (.step write next))
    (hsaves : Saves repository requests i (next c.state).result c.state (write c.state)) :
    IdsDrawn requests (c.advance i) := by
  intro row hrow
  have hold : row ∈ c.state.versions.rows → ∃ j request, requests[j]? = some request ∧
      row.versionId = request.versionId ∧ (c.advance i).result j ≠ none := by
    intro hrow
    obtain ⟨j, request, hrequest, hid, hended⟩ := h row hrow
    obtain ⟨r, hr⟩ := Option.ne_none_iff_exists'.mp hended
    refine ⟨j, request, hrequest, hid, ?_⟩
    rw [Pool.result_advance hr]
    nofun
  rw [Pool.advance_step hcall] at hrow hold ⊢
  obtain ⟨request, hrequest, hsaved⟩ := hsaves
  dsimp only at hrow
  generalize hresult : (next c.state).result = r at hsaved
  generalize write c.state = t at hsaved hrow hold ⊢
  cases hsaved with
  | looked | refused | kept => exact hold hrow
  | written hwritten =>
    obtain ⟨updatedAt, hversions, _⟩ := hwritten.version
    rw [hversions, List.mem_append, List.mem_singleton] at hrow
    rcases hrow with hrow | rfl
    · exact hold hrow
    · refine ⟨i, request, hrequest, rfl, ?_⟩
      rw [Pool.result_set_self hcall, hresult]
      nofun

theorem idsDrawn_interleave {c : SavePool} (hobeys : c.Obeys (fun _ => Consistent repository)
      (fun _ s t => Consistent repository s → Consistent repository t) (Saves repository requests))
    (h : IdsDrawn requests c) (rest : List Nat) : IdsDrawn requests (c.interleave rest) := by
  refine Pool.Obeys.invariant (I := IdsDrawn requests) saves_cooperation ?_ hobeys h
  intro c i write next hc hcall _ hsaves
  exact idsDrawn_step hc hcall hsaves

/-- A save that runs has drawn an id that no version has. -/
theorem IdsDrawn.fresh {c : SavePool} (h : IdsDrawn requests c)
    (hdistinct : (requests.map (·.versionId)).Nodup) {i : Nat} (hrequest : requests[i]? = some request)
    (hrunning : c.result i = none) : ∀ row ∈ c.state.versions.rows, row.versionId ≠ request.versionId := by
  intro row hrow hid
  obtain ⟨j, other, hother, hdrawn, hended⟩ := h row hrow
  have hsame : i = j := by
    obtain ⟨hi, higet⟩ := List.getElem?_eq_some_iff.mp hrequest
    obtain ⟨hj, hjget⟩ := List.getElem?_eq_some_iff.mp hother
    have hi' : i < (requests.map (·.versionId)).length := by rwa [List.length_map]
    have hj' : j < (requests.map (·.versionId)).length := by rwa [List.length_map]
    refine (@List.Nodup.getElem_inj_iff _ _ hdistinct i hi' j hj').mp ?_
    rw [List.getElem_map, List.getElem_map, higet, hjget, ← hid, hdrawn]
  subst hsame
  exact hended hrunning

/-- What the database takes of a save, it takes as long as the base row stays. -/
theorem Acceptable.later (h : Acceptable request s)
    (hfind : t.assets.find? request.assetId = s.assets.find? request.assetId)
    (hfresh : ∀ row ∈ t.versions.rows, row.versionId ≠ request.versionId) : Acceptable request t where
  createdAt := h.createdAt
  updatedAt := h.updatedAt
  ordered := by
    rw [hfind]
    exact h.ordered
  fresh := hfresh

/-- A transaction of a race in which no save has ended. -/
theorem race_undecided {c d : SavePool} {assetId : String} {i : Nat}
    (hrequest : requests[i]? = some request)
    (haccepted : ∀ request, Races requests c assetId i request → Acceptable request d.state)
    (hfind : d.state.assets.find? assetId = c.state.assets.find? assetId)
    (hnone : ∀ i request, Races requests c assetId i request → d.result i = none)
    (hrunning : c.result i = none)
    (hsaved : Saved repository request ((d.advance i).result i) d.state (d.advance i).state) :
    RaceAt requests c assetId (d.advance i) := by
  have hrevision := revision_congr hfind
  have hcontent := content_congr hfind
  have hothers : ∀ j other, j ≠ i → Races requests c assetId j other →
      (d.advance i).result j = none := by
    intro j other hji hj
    rw [Pool.result_advance_ne hji.symm]
    exact hnone j other hj
  -- a step that ends no save of the race
  have hkept : (d.advance i).state.assets.find? assetId = d.state.assets.find? assetId →
      (∀ other, Races requests c assetId i other → (d.advance i).result i = none) →
      RaceAt requests c assetId (d.advance i) := by
    intro hstate hi
    refine .inl ⟨hstate.trans hfind, fun j other hj => ?_⟩
    by_cases hji : j = i
    · subst hji
      exact hi other hj
    · exact hothers j other hji hj
  generalize hr : (d.advance i).result i = r at hsaved
  generalize ht : (d.advance i).state = t at hsaved
  cases hsaved with
  | looked => exact hkept (by rw [ht]) fun _ _ => hr
  | refused e why =>
    refine hkept (by rw [ht]) fun other hraces => ?_
    cases hrequest.symm.trans hraces.call
    rcases why with hstale | ⟨_, hrejected⟩
    · rw [hraces.asset, hrevision] at hstale
      exact absurd hraces.expected.symm hstale
    · exact absurd (haccepted request hraces) hrejected
  | kept hmem hasset hlast hexpected hsame =>
    refine hkept (by rw [ht]) fun other hraces => ?_
    cases hrequest.symm.trans hraces.call
    rw [hraces.asset, hcontent] at hsame
    exact absurd hsame hraces.changes
  | written hwritten =>
    by_cases hasset : request.assetId = assetId
    swap
    · refine hkept ?_ fun other hraces => ?_
      · rw [ht]
        exact hwritten.find?_other fun h => hasset h.symm
      · cases hrequest.symm.trans hraces.call
        exact absurd hraces.asset hasset
    have hexpected := hwritten.expected
    have hchanged := hwritten.changed
    have hnext := hwritten.revision
    rw [hasset, hrevision] at hexpected hnext
    rw [hasset, hcontent] at hchanged
    refine .inr ⟨?_, i, ⟨⟨request, hrequest, hrunning, hasset, hexpected.symm, hchanged⟩, _, hr⟩, ?_⟩
    · rw [ht, hnext]
      exact Nat.lt_succ_self _
    · rintro j ⟨⟨other, hj⟩, ref, hended⟩
      by_contra hji
      rw [hothers j other hji hj] at hended
      cases hended

/-- A transaction after a race. -/
theorem race_decided {c d : SavePool} {assetId : String} {i : Nat}
    (hrequest : requests[i]? = some request)
    (hmoved : c.state.revision assetId < d.state.revision assetId)
    (hwinner : ∃! i, (∃ request, Races requests c assetId i request) ∧ Succeeds d i)
    (hrunning : d.result i = none)
    (hsaved : Saved repository request ((d.advance i).result i) d.state (d.advance i).state) :
    RaceAt requests c assetId (d.advance i) := by
  obtain ⟨winner, ⟨hraces, ref, hwon⟩, hunique⟩ := hwinner
  refine .inr ⟨hmoved.trans_le (hsaved.revision_le assetId), winner,
    ⟨hraces, ref, Pool.result_advance hwon⟩, ?_⟩
  rintro j ⟨⟨other, hj⟩, ref', hended⟩
  by_cases hji : j = i
  · subst hji
    cases hrequest.symm.trans hj.call
    -- a save that expects the revision at the start of the race comes too late
    have hlate : (d.state.revision request.assetId : Int) ≠ request.expectedRevision := by
      rw [hj.asset, hj.expected]
      exact fun h => absurd (Int.ofNat_inj.mp h) hmoved.ne'
    rw [hended] at hsaved
    generalize (d.advance j).state = t at hsaved
    cases hsaved with
    | kept _ _ _ hexpected => exact absurd hexpected hlate
    | written hwritten => exact absurd hwritten.expected hlate
  · rw [Pool.result_advance_ne (Ne.symm hji)] at hended
    exact hunique j ⟨⟨other, hj⟩, ref', hended⟩

/-- A race, at any later moment. -/
theorem raceAt_interleave {c : SavePool} {assetId : String} (hobeys : c.Obeys (fun _ => Consistent repository)
      (fun _ s t => Consistent repository s → Consistent repository t) (Saves repository requests))
    (hids : IdsDrawn requests c) (hdistinct : (requests.map (·.versionId)).Nodup)
    (haccepted : ∀ i request, Races requests c assetId i request → Acceptable request c.state)
    (rest : List Nat) : RaceAt requests c assetId (c.interleave rest) := by
  refine (Pool.Obeys.invariant (I := fun d => IdsDrawn requests d ∧
    (∀ i, d.result i = none → c.result i = none) ∧ RaceAt requests c assetId d) saves_cooperation ?_
    hobeys ⟨hids, fun _ h => h, .inl ⟨rfl, fun i request h => h.running⟩⟩).2.2
  rintro d i write next ⟨hids, hlater, hrace⟩ hcall _ hsaves
  refine ⟨idsDrawn_step hids hcall hsaves, fun j hj => ?_, ?_⟩
  · refine hlater j (Option.eq_none_iff_forall_ne_some.mpr fun r hr => ?_)
    rw [Pool.result_advance hr] at hj
    cases hj
  · obtain ⟨request, hrequest, hsaved⟩ := hsaves
    have hrunning : d.result i = none := by
      unfold Pool.result
      rw [hcall]
      rfl
    have hstate : (d.advance i).state = write d.state := by rw [Pool.advance_step hcall]
    have hresult : (d.advance i).result i = (next d.state).result := by
      rw [Pool.advance_step hcall, Pool.result_set_self hcall]
    rw [← hstate, ← hresult] at hsaved
    rcases hrace with ⟨hfind, hnone⟩ | ⟨hmoved, hwinner⟩
    · refine race_undecided hrequest (fun other hother => ?_) hfind hnone (hlater i hrunning) hsaved
      refine (haccepted i other hother).later ?_ (hids.fresh hdistinct hother.call hrunning)
      rw [hother.asset]
      exact hfind
    · exact race_decided hrequest hmoved hwinner hrunning hsaved

end

/-! ## The next version -/

/-- A save that has made the next version of its asset. -/
def Made (c : SavePool) (i : Nat) (request : SaveRequest) : Prop :=
  ∃ ref, requests[i]? = some request ∧ c.result i = some (.ok ref) ∧
    (ref.revision : Int) = request.expectedRevision + 1

/-- One save makes the next version, and the asset moves on. -/
structure MadeOnce (c : SavePool) : Prop where
  moved : ∀ i request, Made requests c i request →
    request.expectedRevision < c.state.revision request.assetId
  once : ∀ i j request other, Made requests c i request → Made requests c j other →
    request.assetId = other.assetId → request.expectedRevision = other.expectedRevision → i = j

section
variable {repository} {requests} {s t : AssetStore} {request : SaveRequest}

/-- The save that makes the next version writes it. -/
theorem Saved.made {ref : SharedAssetVersionRef}
    (h : Saved repository request (some (.ok ref)) s t)
    (hnext : (ref.revision : Int) = request.expectedRevision + 1) : Written repository request ref s t := by
  cases h with
  | kept hmem hasset hrevision hexpected hcontent =>
    unfold VersionedAssetRepository.versionRef at hnext
    dsimp only at hnext
    omega
  | written h => exact h

theorem madeOnce_step {c : SavePool} {i : Nat} (h : MadeOnce requests c)
    (hrequest : requests[i]? = some request)
    (hsaved : Saved repository request ((c.advance i).result i) c.state (c.advance i).state) :
    MadeOnce requests (c.advance i) := by
  have hearlier : ∀ j other, j ≠ i → Made requests (c.advance i) j other → Made requests c j other := by
    rintro j other hji ⟨ref, hother, hended, hnext⟩
    rw [Pool.result_advance_ne (Ne.symm hji)] at hended
    exact ⟨ref, hother, hended, hnext⟩
  have hnow : ∀ other, Made requests (c.advance i) i other →
      ∃ ref, Written repository other ref c.state (c.advance i).state := by
    rintro other ⟨ref, hother, hended, hnext⟩
    cases hrequest.symm.trans hother
    rw [hended] at hsaved
    exact ⟨ref, hsaved.made hnext⟩
  -- the asset is past the revision of every save that has made its version
  have hpast : ∀ j other own, j ≠ i → Made requests (c.advance i) i own →
      Made requests (c.advance i) j other → own.assetId = other.assetId →
      own.expectedRevision ≠ other.expectedRevision := by
    intro j other own hji hown hother hasset hexpected
    obtain ⟨ref, hwritten⟩ := hnow own hown
    have hmoved := h.moved j other (hearlier j other hji hother)
    have hcurrent := hwritten.expected
    rw [hasset] at hcurrent
    omega
  refine ⟨fun j other hj => ?_, fun j k request other hj hk hasset hexpected => ?_⟩
  · by_cases hji : j = i
    · subst hji
      obtain ⟨ref, hwritten⟩ := hnow other hj
      have hcurrent := hwritten.expected
      have hrevision := hwritten.revision
      omega
    · have hmoved := h.moved j other (hearlier j other hji hj)
      have hle := hsaved.revision_le other.assetId
      omega
  · by_cases hji : j = i
    · subst hji
      by_contra hne
      exact hpast k other request (Ne.symm hne) hj hk hasset hexpected
    · by_cases hki : k = i
      · subst hki
        exact absurd hexpected.symm (hpast j request other hji hk hj hasset.symm)
      · exact h.once j k request other (hearlier j request hji hj) (hearlier k other hki hk)
          hasset hexpected

theorem madeOnce_interleave (repository : VersionedAssetRepository) (requests : List SaveRequest)
    (schedule : List Nat) :
    MadeOnce requests ((savePool repository requests).interleave schedule) := by
  refine Pool.Obeys.invariant (I := MadeOnce requests) saves_cooperation ?_ savePool_obeys ?_
  · rintro c i write next hc hcall _ ⟨request, hrequest, hsaved⟩
    have hadvanced : Saved repository request ((c.advance i).result i) c.state (c.advance i).state := by
      rw [Pool.advance_step hcall, Pool.result_set_self hcall]
      exact hsaved
    exact madeOnce_step hc hrequest hadvanced
  · have hnone : ∀ i request, ¬ Made requests (savePool repository requests) i request := by
      rintro i request ⟨ref, hrequest, hended, _⟩
      unfold Pool.result savePool at hended
      dsimp only at hended
      rw [List.getElem?_map, hrequest, Option.map_some, Option.bind_some] at hended
      unfold save at hended
      split at hended
      · cases hended
      · rw [Process.atomic_then] at hended
        cases hended
    exact ⟨fun i request h => absurd h (hnone i request),
      fun i j request other h => absurd h (hnone i request)⟩

/-! ## The history -/

/-- The current version of an asset is found by its revision. -/
theorem resolveVersion_current (hs : Consistent repository s) {asset : AssetRow}
    (hasset : asset ∈ s.assets.rows) : ∃ row ∈ s.versions.rows, row.assetId = asset.assetId ∧
      row.revision = asset.revision ∧ row.version = asset.configuration ∧
      resolveVersion repository asset.assetId none s = (.ok (some (repository.versionRef row)), s) := by
  obtain ⟨row, hrow, hid, hrevision, hcontent⟩ := hs.current asset hasset
  refine ⟨row, hrow, hid, hrevision, hcontent, ?_⟩
  have hjoined : (row.assetId = asset.assetId && s.assets.rows.any fun other =>
      other.assetId = row.assetId && other.revision = row.revision) = true := by
    rw [Bool.and_eq_true, decide_eq_true_iff, List.any_eq_true]
    refine ⟨hid, asset, hasset, ?_⟩
    rw [Bool.and_eq_true, decide_eq_true_iff, decide_eq_true_iff]
    exact ⟨hid.symm, hrevision.symm⟩
  unfold resolveVersion
  rw [Effect.read_then]
  cases hfound : s.versions.rows.find? fun row => row.assetId = asset.assetId &&
      s.assets.rows.any fun other => other.assetId = row.assetId && other.revision = row.revision with
  | none => exact absurd hjoined (List.find?_eq_none.mp hfound row hrow)
  | some found =>
    have hmatch := List.find?_some hfound
    rw [Bool.and_eq_true, decide_eq_true_iff, List.any_eq_true] at hmatch
    obtain ⟨hfoundId, other, hother, hboth⟩ := hmatch
    rw [Bool.and_eq_true, decide_eq_true_iff, decide_eq_true_iff] at hboth
    have hsame : other = asset := Table.eq_of_key hother hasset (hboth.1.trans hfoundId)
    rw [hsame] at hboth
    have heq : found = row := hs.unique found (List.mem_of_find?_eq_some hfound) row hrow
      (hfoundId.trans hid.symm) (hboth.2.symm.trans hrevision.symm)
    rw [heq]
    rfl

end

/-- The history of the assets at `c`, and from there on. -/
structure Versioned (c : SavePool) : Prop where
  consistent : Consistent repository c.state
  immutable : ∀ rest, c.state.versions.rows <+: (c.interleave rest).state.versions.rows
  resolved : ∀ asset ∈ c.state.assets.rows, ∃ row ∈ c.state.versions.rows,
    row.assetId = asset.assetId ∧ row.revision = asset.revision ∧
      row.version = asset.configuration ∧ resolveVersion repository asset.assetId none c.state =
        (.ok (some (repository.versionRef row)), c.state)
  /-- A save of the current content at the current revision. -/
  unchanged : ∀ (i : Nat) request, requests[i]? = some request → c.result i = none →
    (c.state.revision request.assetId : Int) = request.expectedRevision →
    c.state.content? request.assetId = some request.payload →
    ∃ row ∈ c.state.versions.rows, row.assetId = request.assetId ∧
      row.revision = c.state.revision request.assetId ∧ (c.advance i).state = c.state ∧
      (c.advance i).result i = some (.ok (repository.versionRef row))
  /-- A save that expects another revision. -/
  refused : ∀ (i : Nat) request, requests[i]? = some request → c.result i = none →
    (c.state.revision request.assetId : Int) ≠ request.expectedRevision →
    (c.advance i).state = c.state ∧ ∃ e, (c.advance i).result i = some (.error e)
  negative : ∀ (i : Nat) request, requests[i]? = some request → request.expectedRevision < 0 →
    ∃ e, c.result i = some (.error e)
  /-- What a save raises, it raises without a trace. -/
  untraced : ∀ (i : Nat) e, c.Ends i (.error e) → (c.advance i).state = c.state
  once : ∀ i j request other, Made requests c i request → Made requests c j other →
    request.assetId = other.assetId → request.expectedRevision = other.expectedRevision → i = j
  /-- Of the saves that would change an asset from one revision on, one succeeds. -/
  race : ∀ assetId rest, (requests.map (·.versionId)).Nodup →
    (∀ i request, Races requests c assetId i request → Acceptable request c.state) →
    (∃ i request, Races requests c assetId i request) →
    (∀ i request, Races requests c assetId i request → (c.interleave rest).result i ≠ none) →
    ∃! i, (∃ request, Races requests c assetId i request) ∧ Succeeds (c.interleave rest) i

theorem assets_versioned (schedule : List Nat) :
    Versioned repository requests ((savePool repository requests).interleave schedule) := by
  have hobeys := interleave_obeys repository requests schedule
  have hconsistent := interleave_consistent repository requests schedule
  have hids : IdsDrawn requests ((savePool repository requests).interleave schedule) :=
    idsDrawn_interleave savePool_obeys (fun _ h => (nomatch h)) schedule
  have hlength : ((savePool repository requests).interleave schedule).calls.length =
      requests.length := by
    rw [Pool.length_interleave]
    exact List.length_map _
  have honce := madeOnce_interleave repository requests schedule
  have hnegative : ∀ (i : Nat) request, requests[i]? = some request → request.expectedRevision < 0 →
      ∃ e, ((savePool repository requests).interleave schedule).result i = some (.error e) := by
    intro i request hrequest hneg
    refine ⟨.value "expected_revision cannot be negative", Pool.result_interleave ?_⟩
    unfold Pool.result savePool
    dsimp only
    rw [List.getElem?_map, hrequest, Option.map_some, Option.bind_some]
    unfold save
    rw [if_pos hneg]
    rfl
  generalize (savePool repository requests).interleave schedule = c at *
  refine ⟨hconsistent, versions_prefix hobeys, fun _ => resolveVersion_current hconsistent,
    fun i request hrequest hrunning hexpected hcontent => ?_,
    fun i request hrequest hrunning hother => ?_, hnegative, fun i e hends => ?_, honce.once,
    fun assetId rest hdistinct haccepted hex hended => ?_⟩
  · have hsaved := advance_saved hobeys hrequest hlength hrunning
    generalize hr : (c.advance i).result i = r at hsaved
    generalize (c.advance i).state = t at hsaved
    cases hsaved with
    | looked habsent _ =>
      cases hfind : c.state.assets.find? request.assetId with
      | none =>
        unfold AssetStore.content? at hcontent
        rw [hfind] at hcontent
        cases hcontent
      | some asset =>
        have hpos := hconsistent.revision_pos (Table.find?_some hfind).1
        rw [revision_of_find hfind] at habsent
        omega
    | refused e why =>
      rcases why with hstale | ⟨hchanged, _⟩
      · exact absurd hexpected hstale
      · exact absurd hcontent hchanged
    | kept hmem hasset hrevision _ _ => exact ⟨_, hmem, hasset, hrevision, rfl, rfl⟩
    | written hwritten => exact absurd hcontent hwritten.changed
  · have hsaved := advance_saved hobeys hrequest hlength hrunning
    generalize hr : (c.advance i).result i = r at hsaved
    generalize (c.advance i).state = t at hsaved
    cases hsaved with
    | looked habsent hexpected =>
      rw [habsent, hexpected] at hother
      exact absurd rfl hother
    | refused e _ => exact ⟨rfl, e, rfl⟩
    | kept _ _ _ hexpected _ => exact absurd hexpected hother
    | written hwritten => exact absurd hwritten.expected hother
  · obtain ⟨_, request, _, hsaved⟩ := hobeys.ends saves_cooperation hends
    generalize (c.advance i).state = t at hsaved
    cases hsaved
    rfl
  · rcases raceAt_interleave hobeys hids hdistinct haccepted rest with ⟨_, hnone⟩ | ⟨_, hwinner⟩
    · obtain ⟨i, request, hraces⟩ := hex
      exact absurd (hnone i request hraces) (hended i request hraces)
    · exact hwinner

namespace Sample

/-- A repository of model connections. -/
def connections : VersionedAssetRepository where
  kind := .modelConnection
  sha256 := id
  dumps m := m.json.text
  uuid := some
  sha256_injective := Function.injective_id
  dumps_injective _ _ h := FrozenDict.ext_fields (Json.obj.inj (Json.text_injective h))

def model (name : String) : FrozenDict := .ofFields [("model", .str name)]

/-- A save of the asset at a second, over a revision. -/
def saveAt (name : String) (second expectedRevision : Nat) (versionId : String) : SaveRequest where
  payload := model name
  assetId := "a"
  lifecycleState := "active"
  createdAt := some (seconds 0)
  updatedAt := some (seconds second)
  expectedRevision
  versionId

/-- A first save, and two over it, of which one repeats its content. -/
def saves : List SaveRequest :=
  [saveAt "m1" 0 0 "v1", saveAt "m1" 1 1 "v2", saveAt "m2" 2 1 "v3"]

/-- The moment at which the first save has ended. -/
def saved : SavePool := (savePool connections saves).interleave [0, 0]

end Sample

/-- **Two saves succeed** over one revision with different contents, where one of them repeats
the current content. -/
theorem unchanged_save_races : ∃ request other : SaveRequest,
    Sample.saves[1]? = some request ∧ Sample.saves[2]? = some other ∧
    request.assetId = other.assetId ∧ request.payload ≠ other.payload ∧
    request.expectedRevision = other.expectedRevision ∧
    request.expectedRevision = Sample.saved.state.revision "a" ∧
    Sample.saved.result 1 = none ∧ Sample.saved.result 2 = none ∧
    Succeeds (Sample.saved.interleave [1, 2]) 1 ∧ Succeeds (Sample.saved.interleave [1, 2]) 2 := by
  refine ⟨_, _, rfl, rfl, rfl, by decide +kernel, rfl, by decide +kernel, rfl, rfl,
    ⟨⟨.modelConnection, "a", "v1", 1, (Sample.model "m1").json.text⟩, ?_⟩,
    ⟨.modelConnection, "a", "v3", 2, (Sample.model "m2").json.text⟩, ?_⟩
  · decide +kernel
  · decide +kernel

end ProofAgent.Assets
