import ProofAgent.WorkerRoles.Leases

/-! # Interleaved clients of a worker role

`Later` is what the row of a role can become: an epoch never falls, and within an
epoch the owner stays, its heartbeats do not go back, and standby is the end. An
object that is accepted is the row up to `updated_at`, so every write between the
call that returned it and the one that accepts it left the columns as they were. -/
namespace ProofAgent

open Base WorkerRoleRepository

variable {t t' : WorkerRoleTable} {x y : WorkerRoleActivation}

/-! ## The row of a role goes on -/

/-- What a row can become. -/
def Later (x y : WorkerRoleActivation) : Prop :=
  x.activationEpoch < y.activationEpoch ∨
    (x.activationEpoch = y.activationEpoch ∧
      (y.state = .standby ∨ (x.state ≠ .standby ∧
        ∃ m n, x.heartbeatAt = some m ∧ y.heartbeatAt = some n ∧ m ≤ n)))

theorem RoleActivationState.isOwned_iff {s : RoleActivationState} :
    s.isOwned = true ↔ s ≠ .standby := by
  cases s <;> simp [RoleActivationState.isOwned]

theorem Later.refl (h : x.Valid) : Later x x := by
  refine .inr ⟨rfl, ?_⟩
  by_cases hs : x.state = .standby
  · exact .inl hs
  · obtain ⟨n, hn⟩ := h.heartbeat (RoleActivationState.isOwned_iff.mpr hs)
    exact .inr ⟨hs, n, n, hn, hn, Int.le_refl n⟩

theorem Later.trans {z : WorkerRoleActivation} (h : Later x y) (h' : Later y z) : Later x z := by
  rcases h with h | ⟨he, h⟩
  · rcases h' with h' | ⟨he', _⟩
    · exact .inl (Nat.lt_trans h h')
    · exact .inl (he' ▸ h)
  · rcases h' with h' | ⟨he', h'⟩
    · exact .inl (he ▸ h')
    · refine .inr ⟨he.trans he', ?_⟩
      rcases h' with h' | ⟨hs, m, n, hm, hn, hle⟩
      · exact .inl h'
      · rcases h with h | ⟨hs', k, l, hk, hl, hle'⟩
        · exact absurd h hs
        · rw [hm] at hl
          cases hl
          exact .inr ⟨hs', k, n, hk, hn, Int.le_trans hle' hle⟩

theorem Later.epoch_le (h : Later x y) : x.activationEpoch ≤ y.activationEpoch := by
  rcases h with h | ⟨h, _⟩ <;> omega

theorem SameLease.later (h : SameLease x y) {z : WorkerRoleActivation} (hl : Later x z) :
    Later y z := by
  rw [SameLease] at h
  rw [h]
  exact hl

/-- An accepted call takes the object on. -/
theorem LeaseCall.Allowed.later {call : LeaseCall} (h : call.Allowed x) (hv : x.Valid) :
    Later x (call.result x) := by
  obtain ⟨n, hn⟩ := hv.heartbeat h.owned
  have howned := RoleActivationState.isOwned_iff.mp h.owned
  refine .inr ⟨by cases call <;> rfl, ?_⟩
  cases call with
  | heartbeat now leaseSeconds =>
    obtain ⟨_, _, ⟨m, hm, hle⟩, _⟩ := h
    exact .inr ⟨howned, m, now, hm, rfl, hle⟩
  | beginDraining now => exact .inr ⟨howned, n, n, hn, hn, Int.le_refl n⟩
  | resumeActive now => exact .inr ⟨howned, n, n, hn, hn, Int.le_refl n⟩
  | release now => exact .inl rfl

/-- An accepted call returns a valid object. -/
theorem LeaseCall.Allowed.valid {call : LeaseCall} (h : call.Allowed x) (hv : x.Valid) :
    (call.result x).Valid := by
  have howned := h.owned
  have hcomplete : x.hasCompleteLease = true := by rw [← hv.lease, howned]
  cases call with
  | heartbeat now leaseSeconds =>
    obtain ⟨_, ⟨hmin, _⟩, _, _⟩ := h
    refine ⟨hv.slot, hv.owner, ?_, fun hs => ?_, ?_⟩
    · simp only [WorkerRoleActivation.hasCompleteLease, Bool.and_eq_true] at hcomplete
      simp [LeaseCall.result, howned, WorkerRoleActivation.hasCompleteLease, hcomplete.1.1]
    · rw [show (LeaseCall.result x (.heartbeat now leaseSeconds)).state = x.state from rfl, howned] at hs
      cases hs
    · intro m hm n hn
      cases hm
      cases hn
      exact lt_add_seconds now hmin
  | beginDraining now =>
    exact ⟨hv.slot, hv.owner, hcomplete.symm, fun hs => (by cases hs), hv.expiry⟩
  | resumeActive now =>
    exact ⟨hv.slot, hv.owner, hcomplete.symm, fun hs => (by cases hs), hv.expiry⟩
  | release now =>
    exact ⟨hv.slot, fun _ h => (by cases h), rfl, fun _ => rfl, fun _ h => (by cases h)⟩

/-! ## One call -/

/-- The rows of the table are valid. -/
def ValidRoles (t : WorkerRoleTable) : Prop := ∀ row ∈ t.rows, row.Valid

/-- A call that returned an object wrote it into the row of its role. -/
structure Wrote (t t' : WorkerRoleTable) (y : WorkerRoleActivation) : Prop where
  row : ∃ row ∈ t.rows, row.role = y.role ∧ Later row y ∧ Table.Replaced t t' row y
  valid : y.Valid

theorem RoleActivated.wrote {expectedEpoch : Int} {now : Instant}
    (h : RoleActivated t t' expectedEpoch now y) : Wrote t t' y := by
  obtain ⟨⟨row, hrow, hrole, _, _, hepoch, hrep⟩, hvalid⟩ := h
  exact ⟨⟨row, hrow, hrole, .inl (by omega), hrep⟩, hvalid⟩

theorem LeaseCall.result_role {call : LeaseCall} : (call.result x).role = x.role := by
  cases call <;> rfl

theorem SameLease.columns (h : SameLease x y) : y.role = x.role ∧
    y.activationEpoch = x.activationEpoch ∧ y.heartbeatAt = x.heartbeatAt := by
  rw [SameLease] at h
  rw [h]
  exact ⟨rfl, rfl, rfl⟩

theorem LeaseAccepted.wrote {call : LeaseCall} (ht : ValidRoles t) (h : LeaseAccepted t t' x call) :
    Wrote t t' (call.result x) := by
  obtain ⟨hallowed, row, hrow, hsame, hrep⟩ := h
  have hx := hsame.valid (ht row hrow)
  refine ⟨⟨row, hrow, ?_, hsame.later (hallowed.later hx), hrep⟩, hallowed.valid hx⟩
  rw [LeaseCall.result_role, hsame.columns.1]

/-- **One call**, whoever makes it. -/
theorem WorkerRoleCall.run_ok {c : WorkerRoleCall} (ht : ValidRoles t) (h : c.run t = (.ok y, t')) :
    Wrote t t' y := by
  cases c with
  | activate role slot ownerId expectedEpoch now leaseSeconds => exact (activate_ok h).2.wrote
  | present x call =>
    obtain ⟨rfl, haccepted⟩ := LeaseCall.on_ok h
    exact haccepted.wrote ht

theorem WorkerRoleCall.run_atomic (c : WorkerRoleCall) : Atomic c.run := by
  cases c with
  | activate role slot ownerId expectedEpoch now leaseSeconds => exact activate_atomic
  | present x call => exact LeaseCall.on_atomic x call

/-! ## Interleavings of calls -/

/-- Each row has become a later one. -/
abbrev RolesLater (t t' : WorkerRoleTable) : Prop :=
  Table.Evolves (fun row row' => row'.role = row.role ∧ Later row row') t t'

theorem Wrote.keeps (ht : ValidRoles t) (h : Wrote t t' y) : ValidRoles t' ∧ RolesLater t t' := by
  obtain ⟨⟨row, hrow, hrole, hlater, hrep⟩, hvalid⟩ := h
  refine ⟨fun r hr => ?_, fun r hr => ?_⟩
  · rcases hrep.mem_cases hr with rfl | ⟨hr, _⟩
    · exact hvalid
    · exact ht r hr
  · rcases hrep.successor hr with ⟨rfl, hnew⟩ | ⟨_, hr'⟩
    · exact ⟨y, hnew, hrole.symm, hlater⟩
    · exact ⟨r, hr', rfl, .refl (ht r hr)⟩

theorem WorkerRoleCall.keeps (c : WorkerRoleCall) (ht : ValidRoles t) :
    ValidRoles (c.run t).2 ∧ RolesLater t (c.run t).2 := by
  rcases h : c.run t with ⟨e | y, t'⟩
  · rw [c.run_atomic t e t' h]
    exact ⟨ht, fun r hr => ⟨r, hr, rfl, .refl (ht r hr)⟩⟩
  · exact (WorkerRoleCall.run_ok ht h).keeps ht

theorem keeps_calls (calls : List WorkerRoleCall) (ht : ValidRoles t) :
    ValidRoles (afterAll WorkerRoleCall.run t calls) ∧
      RolesLater t (afterAll WorkerRoleCall.run t calls) := by
  have hkeep : ∀ c s, ValidRoles s → ValidRoles (WorkerRoleCall.run c s).2 := fun c s hs => (c.keeps hs).1
  refine ⟨afterAll_invariant hkeep calls t ht, afterAll_related hkeep ?_ ?_ ?_ calls t ht⟩
  · exact fun s hs r hr => ⟨r, hr, rfl, .refl (hs r hr)⟩
  · exact fun s u v => Table.Evolves.trans fun r r' r'' h h' =>
      ⟨h'.1.trans h.1, h.2.trans h'.2⟩
  · exact fun c s hs => (c.keeps hs).2

theorem initial_valid (createdAt : Instant) : ValidRoles (initial createdAt) := by
  intro row hrow
  rw [List.mem_singleton.mp hrow]
  exact ⟨⟨Nat.le_refl 1, Nat.le_succ 1⟩, fun _ h => (nomatch h), rfl, fun _ => rfl, fun _ h => (nomatch h)⟩

/-! ## Which objects are accepted -/

/-- Some call that presents the object returns. -/
def CanSucceed (t : WorkerRoleTable) (x : WorkerRoleActivation) : Prop :=
  ∃ call y t', LeaseCall.on x call t = (.ok y, t')

theorem CanSucceed.row (h : CanSucceed t x) :
    ∃ row ∈ t.rows, SameLease x row ∧ row.state.isOwned = true := by
  obtain ⟨call, y, t', h⟩ := h
  obtain ⟨_, haccepted⟩ := LeaseCall.on_ok h
  obtain ⟨row, hrow, hsame, _⟩ := haccepted.row
  refine ⟨row, hrow, hsame, ?_⟩
  rw [hsame]
  exact haccepted.allowed.owned

/-- A call that can leave the columns of a lease with heartbeat `heartbeatAt` as they were. -/
def KeepsLease (heartbeatAt : Option Instant) : WorkerRoleCall → Prop
  | .activate .. => False
  | .present _ (.heartbeat now _) => heartbeatAt = some now
  | .present _ (.beginDraining _) => True
  | .present _ (.resumeActive _) => True
  | .present _ (.release _) => False

/-- What a call writes under the epoch that it found. -/
theorem Wrote.row_of (h : Wrote t t' y) {r : WorkerRoleActivation} (hr : r ∈ t.rows)
    (hrole : r.role = y.role) : Later r y := by
  obtain ⟨row, hrow, hrole', hlater, _⟩ := h.row
  obtain rfl := Table.eq_of_key hr hrow (hrole.trans hrole'.symm)
  exact hlater

theorem Wrote.mem (h : Wrote t t' y) : y ∈ t'.rows := by
  obtain ⟨row, _, _, _, hrep⟩ := h.row
  exact hrep.mem_new

/-- Within an epoch an owned role was owned before, by an earlier heartbeat. -/
theorem Later.heartbeat_le (h : Later x y) (hepoch : y.activationEpoch = x.activationEpoch)
    (howned : y.state ≠ .standby) :
    x.state ≠ .standby ∧ ∃ m n, x.heartbeatAt = some m ∧ y.heartbeatAt = some n ∧ m ≤ n := by
  rcases h with hlt | ⟨_, hs | h⟩
  · omega
  · exact absurd hs howned
  · exact h

/-- The calls between the one that wrote a lease and a state with the same lease kept it. -/
theorem keepsLease_between {c : WorkerRoleCall} {row r : WorkerRoleActivation} (ht : ValidRoles t)
    (h : c.run t = (.ok y, t')) (hrow : row ∈ t.rows) (hrole : row.role = y.role)
    (hx : Later x row) (hy : Later y r) (hsame : SameLease x r) (howned : r.state.isOwned = true) :
    KeepsLease x.heartbeatAt c := by
  obtain ⟨_, hepoch, hheartbeat⟩ := hsame.columns
  have hlater := (WorkerRoleCall.run_ok ht h).row_of hrow hrole
  -- the epochs of the four rows are in order and the outer two are equal
  have hx_epoch := hx.epoch_le
  have hlater_epoch := hlater.epoch_le
  have hy_epoch := hy.epoch_le
  obtain ⟨hy_owned, k, l, hk, hl, hkl⟩ :=
    hy.heartbeat_le (by omega) (RoleActivationState.isOwned_iff.mp howned)
  obtain ⟨hrow_owned, n, k', hn, hk', hnk⟩ := hlater.heartbeat_le (by omega) hy_owned
  obtain ⟨_, m, n', hm, hn', hmn⟩ := hx.heartbeat_le (by omega) hrow_owned
  cases c with
  | activate role slot ownerId expectedEpoch now leaseSeconds =>
    obtain ⟨old, hold, hrole', _, _, hnext, _⟩ := (activate_ok h).2.row
    obtain rfl := Table.eq_of_key hrow hold (hrole.trans hrole'.symm)
    omega
  | present z call =>
    obtain ⟨rfl, _⟩ := LeaseCall.on_ok h
    cases call with
    | beginDraining now => trivial
    | resumeActive now => trivial
    | release now => exact absurd rfl hy_owned
    | heartbeat now leaseSeconds =>
      rw [hk] at hk'
      rw [hn] at hn'
      cases hk
      cases hk'
      cases hn'
      rw [hl, hm] at hheartbeat
      cases hheartbeat
      rw [KeepsLease, hm, Int.le_antisymm (Int.le_trans hmn hnk) hkl]

/-! ## The claims of an owner -/

/-- How the owners of a role exclude one another, after any calls `first`, however the
calls go on with `rest`. -/
structure RoleFenced (t : WorkerRoleTable) (rest : List WorkerRoleCall) : Prop where
  /-- Each activation has a larger epoch than those before it. -/
  increasing : ∀ {role slot ownerId expectedEpoch now leaseSeconds a t'},
    activate role slot ownerId expectedEpoch now leaseSeconds t = (.ok a, t') →
    ∀ {slot' ownerId' expectedEpoch' now' leaseSeconds' b t''},
      activate role slot' ownerId' expectedEpoch' now' leaseSeconds'
        (afterAll WorkerRoleCall.run t' rest) = (.ok b, t'') →
      a.activationEpoch < b.activationEpoch
  /-- A lease that is unexpired at the caller's clock, whoever holds it, refuses an activation. -/
  exclusive : ∀ {role slot ownerId expectedEpoch now leaseSeconds a t'},
    activate role slot ownerId expectedEpoch now leaseSeconds t = (.ok a, t') →
    ∀ row ∈ t.rows, row.role = role → ∀ expiry ∈ row.leaseExpiresAt, expiry ≤ now
  /-- An object that can still succeed is the row, up to `updated_at`. -/
  matching : ∀ x, CanSucceed t x → ∃ row ∈ t.rows, SameLease x row
  /-- A refused call changes nothing. -/
  refused : ∀ x call e t', LeaseCall.on x call t = (.error e, t') → t' = t
  /-- The objects that can still succeed are one lease. -/
  one_lease : ∀ x y, x.role = y.role → CanSucceed t x → CanSucceed t y → SameLease x y
  /-- An object that is older than a write succeeds only if the write kept its lease. -/
  older : ∀ {c x t'}, WorkerRoleCall.run c t = (.ok x, t') →
    ∀ {mid c' post y t''}, rest = mid ++ c' :: post →
      c'.run (afterAll WorkerRoleCall.run t' mid) = (.ok y, t'') → y.role = x.role →
      CanSucceed (afterAll WorkerRoleCall.run t' rest) x → KeepsLease x.heartbeatAt c'

theorem roleFenced (ht : ValidRoles t) (rest : List WorkerRoleCall) : RoleFenced t rest where
  increasing h := by
    intro slot' ownerId' expectedEpoch' now' leaseSeconds' b t'' h'
    obtain ⟨hrole, ha⟩ := activate_ok h
    have hwrote := ha.wrote
    obtain ⟨r, hr, hrole', hlater⟩ := (keeps_calls rest (hwrote.keeps ht).1).2 _ hwrote.mem
    obtain ⟨hbrole, hb⟩ := activate_ok h'
    obtain ⟨row, hrow, hrowrole, _, _, hepoch, _⟩ := hb.row
    obtain rfl := Table.eq_of_key hr hrow ((hrole'.trans hrole).trans (hrowrole.trans hbrole).symm)
    have := hlater.epoch_le
    omega
  exclusive h row hrow hrole expiry hexpiry := by
    obtain ⟨hrole', ha⟩ := activate_ok h
    obtain ⟨old, hold, holdrole, _, hlive, _, _⟩ := ha.row
    obtain rfl := Table.eq_of_key hrow hold (hrole.trans (holdrole.trans hrole').symm)
    by_contra hlt
    have howned : row.state.isOwned = true := by
      cases ho : row.state.isOwned with
      | true => rfl
      | false =>
        have hany := (ht row hrow).standby ho
        simp [WorkerRoleActivation.hasAnyLease, Option.mem_def.mp hexpiry] at hany
    simp [WorkerRoleActivation.isLive, howned, Option.mem_def.mp hexpiry] at hlive
    exact hlt hlive
  matching x h := by
    obtain ⟨row, hrow, hsame, _⟩ := h.row
    exact ⟨row, hrow, hsame⟩
  refused x call e t' h := LeaseCall.on_atomic x call t e t' h
  one_lease x y hrole hx hy := by
    obtain ⟨row, hrow, hsame, _⟩ := hx.row
    obtain ⟨row', hrow', hsame', _⟩ := hy.row
    obtain rfl := Table.eq_of_key hrow hrow' 
      ((hsame.columns.1.trans hrole).trans hsame'.columns.1.symm)
    exact hsame.trans hsame'.symm
  older {c x t'} h := by
    intro mid c' post y t'' hrest h' hrole hsucceed
    subst hrest
    obtain ⟨ht', _⟩ := (WorkerRoleCall.run_ok ht h).keeps ht
    obtain ⟨hmid, hlater⟩ := keeps_calls mid ht'
    obtain ⟨row, hrow, hrowrole, hx⟩ := hlater x (WorkerRoleCall.run_ok ht h).mem
    have hwrote := WorkerRoleCall.run_ok hmid h'
    obtain ⟨r, hr, hrole', hy⟩ := (keeps_calls post (hwrote.keeps hmid).1).2 _ hwrote.mem
    rw [afterAll_append, afterAll_cons, h'] at hsucceed
    obtain ⟨r', hr', hsame, howned⟩ := hsucceed.row
    obtain rfl := Table.eq_of_key hr hr' ((hrole'.trans hrole).trans hsame.columns.1.symm)
    exact keepsLease_between hmid h' hrow (hrowrole.trans hrole.symm) hx hy hsame howned

/-- **Owners of a worker role are fenced**, after any calls of any clients. -/
theorem worker_roles_fenced (createdAt : Instant) (first rest : List WorkerRoleCall) :
    RoleFenced (afterAll WorkerRoleCall.run (initial createdAt) first) rest :=
  roleFenced (keeps_calls first (initial_valid createdAt)).1 rest

namespace Sample

/-- What the activation of an executor returns. -/
def blueExecutor : WorkerRoleActivation where
  role := .runExecutor
  slot := 1
  state := .active
  activationEpoch := 1
  ownerId := some "executor-blue"
  heartbeatAt := some 0
  leaseExpiresAt := some (seconds 60)
  updatedAt := 0

def drainingExecutor : WorkerRoleActivation :=
  { blueExecutor with state := .draining, updatedAt := seconds 1 }

def resumedExecutor : WorkerRoleActivation := { blueExecutor with updatedAt := seconds 2 }

end Sample

open Sample in
/-- An object from before a cancelled drain is accepted after it, as the newest one is. -/
theorem cancelled_drain_revives :
    ∃ t₁ t₂ t₃, activate .runExecutor 1 "executor-blue" 0 0 60 (initial 0) = (.ok blueExecutor, t₁) ∧
      beginDraining blueExecutor (seconds 1) t₁ = (.ok drainingExecutor, t₂) ∧
      resumeActive drainingExecutor (seconds 2) t₂ = (.ok resumedExecutor, t₃) ∧
      CanSucceed t₃ blueExecutor ∧ CanSucceed t₃ resumedExecutor ∧ blueExecutor ≠ resumedExecutor := by
  refine ⟨_, _, _, rfl, rfl, rfl, ⟨.beginDraining (seconds 3), _, _, rfl⟩,
    ⟨.beginDraining (seconds 3), _, _, rfl⟩, by decide⟩

end ProofAgent
