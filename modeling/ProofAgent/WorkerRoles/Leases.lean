import ProofAgent.Persistence.WorkerRoleRepository

/-! # One owner of a worker role

The row of a role is the object that the last accepted call returned. A call compares
every column of its object but `updated_at`, so what is accepted is the row itself up
to that column; and the row only goes on: to a larger epoch or, within one epoch, to
later heartbeats of one owner and at last to standby. An object that was left behind
by a new epoch, a release or a later heartbeat never matches again. A drain that is
cancelled leads back to the columns from which it began. -/
namespace ProofAgent

open Base WorkerRoleRepository

variable {t t' : WorkerRoleTable} {x y : WorkerRoleActivation}

/-! ## The contract -/

/-- What the validators of an activation establish. -/
structure WorkerRoleActivation.Valid (a : WorkerRoleActivation) : Prop where
  slot : 1 ≤ a.slot ∧ a.slot ≤ 2
  owner : ∀ owner ∈ a.ownerId, 1 ≤ owner.length ∧ owner.length ≤ 255
  lease : a.state.isOwned = a.hasCompleteLease
  standby : a.state.isOwned = false → a.hasAnyLease = false
  expiry : ∀ h ∈ a.heartbeatAt, ∀ t ∈ a.leaseExpiresAt, h < t

theorem WorkerRoleActivation.checks_iff : (∀ c ∈ x.checks, c.1 = true) ↔ x.Valid := by
  simp only [WorkerRoleActivation.checks, List.forall_mem_cons, List.not_mem_nil, false_implies,
    implies_true, and_true, decide_eq_true_eq, Option.all_eq_true, Bool.or_eq_true,
    Bool.not_eq_true']
  constructor
  · rintro ⟨hslot, howner, hlease, hstandby, hexpiry⟩
    refine ⟨hslot, howner, hlease, fun h => ?_, hexpiry⟩
    rcases hstandby with hs | hs
    · rw [h] at hs
      cases hs
    · exact hs
  · intro h
    refine ⟨h.slot, h.owner, h.lease, ?_, h.expiry⟩
    cases ho : x.state.isOwned with
    | true => exact .inl rfl
    | false => exact .inr (h.standby ho)

theorem WorkerRoleActivation.validated_ok (h : x.validated = .ok y) : y = x ∧ x.Valid := by
  obtain ⟨u, hchecks, hret⟩ := bind_ok h
  exact ⟨(pure_ok hret).symm, checks_iff.mp (requireAll_ok_iff.mp hchecks)⟩

/-- An owned role has a heartbeat. -/
theorem WorkerRoleActivation.Valid.heartbeat (h : x.Valid) (howned : x.state.isOwned = true) :
    ∃ n, x.heartbeatAt = some n := by
  have hlease := h.lease
  rw [howned] at hlease
  simp only [WorkerRoleActivation.hasCompleteLease, Bool.true_eq, Bool.and_eq_true] at hlease
  exact Option.isSome_iff_exists.mp hlease.1.2

/-! ## The calls -/

/-- A call that presents an activation object. -/
inductive LeaseCall where
  | heartbeat (now : Instant) (leaseSeconds : Int)
  | beginDraining (now : Instant)
  | resumeActive (now : Instant)
  | release (now : Instant)

def LeaseCall.on (x : WorkerRoleActivation) : LeaseCall → WorkerRoleRepository.Call
  | .heartbeat now leaseSeconds => WorkerRoleRepository.heartbeat x now leaseSeconds
  | .beginDraining now => WorkerRoleRepository.beginDraining x now
  | .resumeActive now => WorkerRoleRepository.resumeActive x now
  | .release now => WorkerRoleRepository.release x now

inductive WorkerRoleCall where
  | activate (role : ProductionWorkerRole) (slot : Nat) (ownerId : String) (expectedEpoch : Int)
      (now : Instant) (leaseSeconds : Int)
  | present (x : WorkerRoleActivation) (call : LeaseCall)

/-- One call of any client, a transaction of its own. -/
def WorkerRoleCall.run : WorkerRoleCall → WorkerRoleRepository.Call
  | .activate role slot ownerId expectedEpoch now leaseSeconds =>
    WorkerRoleRepository.activate role slot ownerId expectedEpoch now leaseSeconds
  | .present x call => call.on x

/-- The object that an accepted call returns. -/
def LeaseCall.result (x : WorkerRoleActivation) : LeaseCall → WorkerRoleActivation
  | .heartbeat now leaseSeconds => { x with
      heartbeatAt := some now, leaseExpiresAt := some (now + seconds leaseSeconds), updatedAt := now }
  | .beginDraining now => { x with state := .draining, updatedAt := now }
  | .resumeActive now => { x with state := .active, updatedAt := now }
  | .release now => { x with
      state := .standby, ownerId := none, heartbeatAt := none, leaseExpiresAt := none, updatedAt := now }

/-- What a call asks of the object and of the clock. -/
def LeaseCall.Allowed (x : WorkerRoleActivation) : LeaseCall → Prop
  | .heartbeat now leaseSeconds => x.state.isOwned = true ∧ (1 ≤ leaseSeconds ∧ leaseSeconds ≤ 300) ∧
      (∃ h, x.heartbeatAt = some h ∧ h ≤ now) ∧ unexpired now x = true
  | .beginDraining now => x.state = .active ∧ unexpired now x = true
  | .resumeActive now => x.state = .draining ∧ unexpired now x = true
  | .release _ => x.state.isOwned = true

theorem LeaseCall.Allowed.owned {call : LeaseCall} (h : call.Allowed x) : x.state.isOwned = true := by
  cases call with
  | heartbeat now leaseSeconds => exact h.1
  | beginDraining now => rw [h.1]; rfl
  | resumeActive now => rw [h.1]; rfl
  | release now => exact h

/-- Equal in every column but `updated_at`. -/
def SameLease (x y : WorkerRoleActivation) : Prop := y = { x with updatedAt := y.updatedAt }

theorem matchesLease_iff : matchesLease x x.state y = true ↔ SameLease x y := by
  obtain ⟨role, slot, state, epoch, owner, hb, lease, updated⟩ := x
  obtain ⟨role', slot', state', epoch', owner', hb', lease', updated'⟩ := y
  simp [matchesLease, SameLease]

theorem SameLease.symm (h : SameLease x y) : SameLease y x := by
  unfold SameLease at h ⊢
  rw [h]

theorem SameLease.trans {z : WorkerRoleActivation} (h : SameLease x y) (h' : SameLease y z) :
    SameLease x z := by
  unfold SameLease at h h' ⊢
  rw [h', h]

theorem SameLease.valid (h : SameLease x y) (hv : y.Valid) : x.Valid := by
  rw [SameLease] at h
  rw [h] at hv
  exact ⟨hv.slot, hv.owner, hv.lease, hv.standby, hv.expiry⟩

theorem SameLease.unexpired {now : Instant} (h : SameLease x y) :
    unexpired now y = unexpired now x := by
  unfold SameLease at h
  rw [h]
  rfl

/-- The object matches the row of its role, which becomes the object that is returned. -/
structure LeaseAccepted (t t' : WorkerRoleTable) (x : WorkerRoleActivation) (call : LeaseCall) : Prop where
  allowed : call.Allowed x
  row : ∃ row ∈ t.rows, SameLease x row ∧ Table.Replaced t t' row (call.result x)

/-- The rows that an update reaches are the object up to `updated_at`. -/
theorem updateOne_sameLease {p : WorkerRoleActivation → Bool}
    {f : WorkerRoleActivation → WorkerRoleActivation} {hf : ∀ r, (f r).role = r.role}
    {e : WorkerRoleError} {u : Unit} {z : WorkerRoleActivation}
    (hp : ∀ row, p row = true → SameLease x row) (hz : ∀ row, SameLease x row → f row = z)
    (h : updateOne p f hf e t = (.ok u, t')) :
    ∃ row ∈ t.rows, p row = true ∧ SameLease x row ∧ Table.Replaced t t' row z := by
  obtain ⟨row, hrow, hmatch, hrep⟩ := updateOne_ok h
  have hsame := hp row hmatch
  rw [hz row hsame] at hrep
  exact ⟨row, hrow, hmatch, hsame, hrep⟩

theorem heartbeat_leased {now : Instant} {leaseSeconds : Int}
    (h : heartbeat x now leaseSeconds t = (.ok y, t')) :
    y = (LeaseCall.heartbeat now leaseSeconds).result x ∧
      LeaseAccepted t t' x (.heartbeat now leaseSeconds) := by
  unfold heartbeat at h
  obtain ⟨_, hlease, h₁⟩ := Effect.ofExcept_bind_ok h
  obtain ⟨hstate, h₂⟩ := Effect.require_bind_ok h₁
  obtain ⟨hclock, h₃⟩ := Effect.require_bind_ok h₂
  obtain ⟨_, hupdate, rfl⟩ := Effect.bind_pure_ok h₃
  have howned : x.state.isOwned = true := by
    rcases hstate with hs | hs <;> rw [hs] <;> rfl
  obtain ⟨row, hrow, hmatch, hsame, hrep⟩ := updateOne_sameLease (x := x)
    (z := (LeaseCall.heartbeat now leaseSeconds).result x)
    (fun row hp => matchesLease_iff.mp (by simp only [Bool.and_eq_true] at hp; exact hp.1))
    (fun row hs => by rw [hs]; rfl) hupdate
  simp only [Bool.and_eq_true] at hmatch
  refine ⟨rfl, ⟨howned, require_ok hlease, hclock, ?_⟩, row, hrow, hsame, hrep⟩
  rw [← hsame.unexpired]
  exact hmatch.2

theorem beginDraining_ok {now : Instant} (h : beginDraining x now t = (.ok y, t')) :
    y = (LeaseCall.beginDraining now).result x ∧ LeaseAccepted t t' x (.beginDraining now) := by
  unfold beginDraining at h
  obtain ⟨hstate, h₁⟩ := Effect.require_bind_ok h
  obtain ⟨_, hupdate, rfl⟩ := Effect.bind_pure_ok h₁
  rw [← hstate] at hupdate
  obtain ⟨row, hrow, hmatch, hsame, hrep⟩ := updateOne_sameLease (x := x)
    (z := (LeaseCall.beginDraining now).result x)
    (fun row hp => matchesLease_iff.mp (by simp only [Bool.and_eq_true] at hp; exact hp.1))
    (fun row hs => by rw [hs]; rfl) hupdate
  simp only [Bool.and_eq_true] at hmatch
  refine ⟨rfl, ⟨hstate, ?_⟩, row, hrow, hsame, hrep⟩
  rw [← hsame.unexpired]
  exact hmatch.2

theorem resumeActive_ok {now : Instant} (h : resumeActive x now t = (.ok y, t')) :
    y = (LeaseCall.resumeActive now).result x ∧ LeaseAccepted t t' x (.resumeActive now) := by
  unfold resumeActive at h
  obtain ⟨hstate, h₁⟩ := Effect.require_bind_ok h
  obtain ⟨_, hupdate, rfl⟩ := Effect.bind_pure_ok h₁
  rw [← hstate] at hupdate
  obtain ⟨row, hrow, hmatch, hsame, hrep⟩ := updateOne_sameLease (x := x)
    (z := (LeaseCall.resumeActive now).result x)
    (fun row hp => matchesLease_iff.mp (by simp only [Bool.and_eq_true] at hp; exact hp.1))
    (fun row hs => by rw [hs]; rfl) hupdate
  simp only [Bool.and_eq_true] at hmatch
  refine ⟨rfl, ⟨hstate, ?_⟩, row, hrow, hsame, hrep⟩
  rw [← hsame.unexpired]
  exact hmatch.2

theorem release_ok {now : Instant} (h : release x now t = (.ok y, t')) :
    y = (LeaseCall.release now).result x ∧ LeaseAccepted t t' x (.release now) := by
  unfold release at h
  obtain ⟨hstate, h₁⟩ := Effect.require_bind_ok h
  obtain ⟨_, hupdate, rfl⟩ := Effect.bind_pure_ok h₁
  have howned : x.state.isOwned = true := by
    rcases hstate with hs | hs <;> rw [hs] <;> rfl
  obtain ⟨row, hrow, _, hsame, hrep⟩ := updateOne_sameLease (x := x)
    (z := (LeaseCall.release now).result x) (fun row hp => matchesLease_iff.mp hp)
    (fun row hs => by rw [hs]; rfl) hupdate
  exact ⟨rfl, howned, row, hrow, hsame, hrep⟩

/-- **What is accepted is the row**, and the row becomes what is returned. -/
theorem LeaseCall.on_ok {call : LeaseCall} (h : call.on x t = (.ok y, t')) :
    y = call.result x ∧ LeaseAccepted t t' x call := by
  cases call with
  | heartbeat now leaseSeconds => exact heartbeat_leased h
  | beginDraining now => exact beginDraining_ok h
  | resumeActive now => exact resumeActive_ok h
  | release now => exact release_ok h

theorem matchesLease_role {state : RoleActivationState} (h : matchesLease x state y = true) :
    y.role = x.role := by
  unfold matchesLease at h
  exact (of_decide_eq_true h).1

/-- A call that is refused changes nothing. -/
theorem LeaseCall.on_atomic (x : WorkerRoleActivation) (call : LeaseCall) : Atomic (call.on x) := by
  have hkey : ∀ {state now} row, (matchesLease x state row && unexpired now row) = true →
      row.role = x.role := fun row hp => matchesLease_role (Bool.and_eq_true _ _ ▸ hp).1
  cases call with
  | heartbeat now leaseSeconds =>
    exact .bind .ofExcept fun _ => .bind .require fun _ => .bind .require fun _ =>
      .bind_pure (.updateOne hkey) _
  | beginDraining now => exact .bind .require fun _ => .bind_pure (.updateOne hkey) _
  | resumeActive now => exact .bind .require fun _ => .bind_pure (.updateOne hkey) _
  | release now =>
    exact .bind .require fun _ => .bind_pure (.updateOne fun row => matchesLease_role) _

/-! ## Activation -/

/-- What an activation found and what it wrote. -/
structure RoleActivated (t t' : WorkerRoleTable) (expectedEpoch : Int) (now : Instant)
    (a : WorkerRoleActivation) : Prop where
  row : ∃ row ∈ t.rows, row.role = a.role ∧ (row.activationEpoch : Int) = expectedEpoch ∧
    row.isLive now = false ∧ a.activationEpoch = row.activationEpoch + 1 ∧ Table.Replaced t t' row a
  valid : a.Valid

theorem activate_ok {role : ProductionWorkerRole} {slot : Nat} {ownerId : String}
    {expectedEpoch : Int} {now : Instant} {leaseSeconds : Int}
    (h : activate role slot ownerId expectedEpoch now leaseSeconds t = (.ok y, t')) :
    y.role = role ∧ RoleActivated t t' expectedEpoch now y := by
  unfold activate at h
  obtain ⟨_, _, h₁⟩ := Effect.ofExcept_bind_ok h
  obtain ⟨_, _, h₂⟩ := Effect.ofExcept_bind_ok h₁
  obtain ⟨_, h₃⟩ := Effect.require_bind_ok h₂
  obtain ⟨current, t₁, hcurrent, h₄⟩ := Effect.bind_ok (Effect.transaction_ok h₃)
  have hlocked := Effect.read_bind_ok hcurrent
  obtain ⟨rfl, hrow, hrole⟩ : t₁ = t ∧ current ∈ t.rows ∧ current.role = role := by
    obtain ⟨hvalid, rfl⟩ := Prod.mk.inj hlocked
    obtain ⟨row, hfind, hvalid⟩ := bind_ok hvalid
    obtain ⟨rfl, _⟩ := WorkerRoleActivation.validated_ok hvalid
    exact ⟨rfl, Table.find?_some (orRaise_ok hfind)⟩
  obtain ⟨hepoch, h₅⟩ := Effect.require_bind_ok h₄
  obtain ⟨hlive, h₆⟩ := Effect.require_bind_ok h₅
  obtain ⟨activation, hmade, h₇⟩ := Effect.ofExcept_bind_ok h₆
  obtain ⟨rfl, hvalid⟩ := WorkerRoleActivation.validated_ok hmade
  obtain ⟨_, hwrite, rfl⟩ := Effect.bind_pure_ok h₇
  obtain ⟨old, hold, hmatch, hrep⟩ := updateOne_ok hwrite
  have hold' : old.role = role ∧ old.activationEpoch = current.activationEpoch :=
    of_decide_eq_true hmatch
  obtain rfl := Table.eq_of_key hold hrow (hold'.1.trans hrole.symm)
  refine ⟨rfl, ⟨old, hold, hrole, hepoch, hlive, rfl, ?_⟩, hvalid⟩
  rw [hrole] at hrep
  exact hrep

theorem activate_atomic {role : ProductionWorkerRole} {slot : Nat} {ownerId : String}
    {expectedEpoch : Int} {now : Instant} {leaseSeconds : Int} :
    Atomic (activate role slot ownerId expectedEpoch now leaseSeconds) :=
  .bind .ofExcept fun _ => .bind .ofExcept fun _ => .bind .require fun _ => .transaction

end ProofAgent
