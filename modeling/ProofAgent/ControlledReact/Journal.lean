import ProofAgent.Base.Emits
import ProofAgent.Base.Trails
import ProofAgent.ControlledReact.RunLoop

/-! # The journal of a run

What a run did is read off its journal. A snapshot store that loads nothing but
what was saved in it keeps the journal sound: every snapshot that a run loads was
saved by one before. -/
namespace ProofAgent

open Base

variable {W T S α : Type}

/-! ## Snapshot stores -/

/-- A snapshot as it is read back: the dump of a context leaves its task out. -/
def ControlledReActRunStateSnapshot.reloaded (s : ControlledReActRunStateSnapshot) :
    ControlledReActRunStateSnapshot :=
  { s with state := { s.state with
      conversationContext := s.state.conversationContext.map fun c => { c with workflowTask := none } } }

/-- A store loads only what it holds, and holds only what was saved in it. -/
structure SnapshotStorePort.Keeps (store : SnapshotStorePort S)
    (holds : S → ControlledReActRunStateSnapshot → Prop) : Prop where
  saved : ∀ snapshot s x, holds (store.save snapshot s).2 x →
    holds s x ∨ x = snapshot ∨ x = snapshot.reloaded
  kept : ∀ reference s x, holds (store.load reference s).2 x → holds s x
  loaded : ∀ reference s s' x, store.load reference s = (.ok x, s') → holds s x

/-- Every store does, as far as one knows nothing of what it holds. -/
theorem SnapshotStorePort.keeps_anything (store : SnapshotStorePort S) :
    store.Keeps fun _ _ => True where
  saved := fun _ _ _ _ => .inl trivial
  kept := fun _ _ _ _ => trivial
  loaded := fun _ _ _ _ _ => trivial

/-- What is loaded was saved, perhaps with a task in its context. -/
def WasSaved (journal : List RunEvent) (x : ControlledReActRunStateSnapshot) : Prop :=
  ∃ saved, .snapshotSaved saved ∈ journal ∧ (x = saved ∨ x = saved.reloaded)

theorem WasSaved.append {journal : List RunEvent} {x : ControlledReActRunStateSnapshot}
    (h : WasSaved journal x) (events : List RunEvent) : WasSaved (journal ++ events) x := by
  obtain ⟨saved, hmem, hx⟩ := h
  exact ⟨saved, List.mem_append_left _ hmem, hx⟩

/-- A snapshot is loaded only after it was saved. -/
def LoadsSaved (before : List RunEvent) (e : RunEvent) : Prop :=
  ∀ x, e = .snapshotLoaded x → WasSaved before x

/-- Every snapshot that is held, and every one that was loaded, was saved before. -/
structure Machine.Sound (holds : S → ControlledReActRunStateSnapshot → Prop)
    (m : Machine W T S) : Prop where
  held : ∀ x, holds m.snapshots x → WasSaved m.journal x
  loads : Justified LoadsSaved m.journal

variable {holds : S → ControlledReActRunStateSnapshot → Prop}

/-- One more event. -/
theorem Machine.Sound.log {m m' : Machine W T S} {e : RunEvent} (h : m.Sound holds)
    (hj : m'.journal = m.journal ++ [e]) (hheld : ∀ x, holds m'.snapshots x → WasSaved m'.journal x)
    (he : LoadsSaved m.journal e) : m'.Sound holds := by
  refine ⟨hheld, ?_⟩
  rw [hj]
  exact h.loads.concat he

/-- **The journal**, and that it stays sound. -/
def journaled (W T : Type) (holds : S → ControlledReActRunStateSnapshot → Prop) :
    Tracing (Machine W T S) RunEvent where
  ran m m' events := m'.journal = m.journal ++ events ∧ (m.Sound holds → m'.Sound holds)
  refl m := ⟨(List.append_nil _).symm, fun h => h⟩
  trans := by
    intro a b c x y hab hbc
    refine ⟨?_, fun h => hbc.2 (hab.2 h)⟩
    rw [hbc.1, hab.1, List.append_assoc]

/-- What leaves the journal and the snapshots alone. -/
theorem journaled_quiet {m m' : Machine W T S} (hj : m'.journal = m.journal)
    (hs : m'.snapshots = m.snapshots) : (journaled W T holds).ran m m' [] := by
  refine ⟨by rw [hj, List.append_nil], fun h => ⟨?_, ?_⟩⟩
  · rw [hj, hs]
    exact h.held
  · rw [hj]
    exact h.loads

namespace Orchestration

/-! ## Calls -/


theorem callPort_silent (x : Effect W ReactError α) :
    Silent (journaled W T holds) (callPort x) :=
  Emits.focus fun _ => journaled_quiet rfl rfl

/-- What the truth store returns, it returns in some state of it. -/
theorem callTruths_emits (x : Effect T ReactError α) :
    Emits (journaled W T holds) (callTruths x : Orchestration W T S α)
      (fun a events => NoEvent events ∧ ∃ truths, (x truths).1 = .ok a) NoEvent := by
  intro m
  unfold callTruths Effect.focus
  rcases hx : x m.truths with ⟨r, t⟩
  refine ⟨fun a m' hr => ?_, fun e m' hr => ?_⟩
  · cases hr
    exact ⟨[], journaled_quiet rfl rfl, rfl, m.truths, by rw [hx]⟩
  · cases hr
    exact ⟨[], journaled_quiet rfl rfl, rfl⟩

theorem callTruths_silent (x : Effect T ReactError α) :
    Silent (journaled W T holds) (callTruths x : Orchestration W T S α) :=
  (callTruths_emits x).conseq (fun _ _ h => h.1) fun _ h => h

theorem modify_silent {g : Machine W T S → Machine W T S} (hj : ∀ m, (g m).journal = m.journal)
    (hs : ∀ m, (g m).snapshots = m.snapshots) :
    Silent (journaled W T holds) (Effect.modify g : Orchestration W T S Unit) :=
  Emits.conseq (Emits.modify fun m => journaled_quiet (hj m) (hs m)) (fun _ _ he => he)
    fun _ he => he.elim

/-- An event goes to the end of the journal. -/
theorem log_emits {e : RunEvent} (he : ∀ x, e ≠ .snapshotLoaded x) :
    Emits (journaled W T holds) (log e : Orchestration W T S Unit) (fun _ events => events = [e])
      fun _ => False :=
  Emits.modify fun _ => ⟨rfl, fun h => h.log rfl (fun x hx => (h.held x hx).append [e])
    fun x hx => absurd hx (he x)⟩

theorem whenPort_silent {β : Type} {port : Option β} {call : β → Orchestration W T S Unit}
    (h : ∀ p, Silent (journaled W T holds) (call p)) :
    Silent (journaled W T holds) (whenPort port call) := by
  unfold whenPort
  split
  · exact h _
  · exact Silent.ret

variable (ports : ControlledReActPorts W T S)

theorem emitTrace_silent (eventType status : String) :
    Silent (journaled W T holds) (emitTrace ports eventType status) :=
  whenPort_silent fun _ => callPort_silent _

theorem ensureAvailable_silent : Silent (journaled W T holds) (ensureAvailable ports) :=
  whenPort_silent fun _ => callPort_silent _

variable {ports} {store : SnapshotStorePort S}

theorem loadSnapshots_silent (hk : store.Keeps holds) (reference : String) :
    Silent (journaled W T holds) (callSnapshots (store.load reference)) :=
  Emits.focus fun _ => ⟨(List.append_nil _).symm, fun h =>
    ⟨fun x hx => h.held x (hk.kept _ _ x hx), h.loads⟩⟩

end Orchestration

namespace ControlledReActOrchestrator

open Orchestration

variable {store : SnapshotStorePort S}

/-- A snapshot is on the record before it is saved. -/
theorem publishSnapshot_emits (hk : store.Keeps holds) (snapshot : ControlledReActRunStateSnapshot) :
    Emits (journaled W T holds) (publishSnapshot store snapshot)
      (fun _ events => events = [.snapshotSaved snapshot])
      fun events => events = [.snapshotSaved snapshot] := by
  have hran : ∀ m : Machine W T S, (journaled W T holds).ran m
      (publishSnapshot store snapshot m).2 [.snapshotSaved snapshot] := by
    refine fun m => ⟨rfl, fun h => h.log rfl (fun x hx => ?_) fun _ hx => (nomatch hx)⟩
    rcases hk.saved snapshot m.snapshots x hx with hx | hx
    · exact (h.held x hx).append _
    · exact ⟨snapshot, List.mem_append_right _ (List.mem_singleton.mpr rfl), hx⟩
  intro m
  refine ⟨fun a m' hr => ⟨_, ?_, rfl⟩, fun e m' hr => ⟨_, ?_, rfl⟩⟩
  · have h := hran m
    rw [hr] at h
    exact h
  · have h := hran m
    rw [hr] at h
    exact h

/-- A snapshot goes on the record once it is loaded. -/
theorem fetchSnapshot_emits (hk : store.Keeps holds) (reference : String) :
    Emits (journaled W T holds) (fetchSnapshot store reference)
      (fun snapshot events => events = [.snapshotLoaded snapshot]) NoEvent := by
  intro m
  unfold fetchSnapshot
  rcases hl : store.load reference m.snapshots with ⟨e | snapshot, s⟩
  · have hcall : callSnapshots (T := T) (store.load reference) m
        = (.error e, { m with snapshots := s }) := by
      unfold callSnapshots Effect.focus
      rw [hl]
    rw [Effect.bind_of_error hcall]
    refine ⟨fun _ _ hr => (nomatch hr), fun e' m' hr => ?_⟩
    obtain ⟨events, hran, he⟩ := (loadSnapshots_silent (T := T) hk reference m).2 e _ hcall
    cases hr
    exact ⟨events, hran, he⟩
  · have hcall : callSnapshots (T := T) (store.load reference) m
        = (.ok snapshot, { m with snapshots := s }) := by
      unfold callSnapshots Effect.focus
      rw [hl]
    rw [Effect.bind_of_ok hcall]
    refine ⟨fun a m' hr => ?_, fun _ _ hr => (nomatch hr)⟩
    cases hr
    refine ⟨_, ⟨rfl, fun h => h.log rfl (fun x hx => ?_) fun x hx => ?_⟩, rfl⟩
    · refine (h.held x ?_).append _
      have hkept := hk.kept reference m.snapshots x
      rw [hl] at hkept
      exact hkept hx
    · cases hx
      exact h.held snapshot (hk.loaded reference _ _ _ hl)

end ControlledReActOrchestrator

/-! ## Snapshot stores

The store in memory keeps every snapshot under the reference that it binds to, and
one reference for each snapshot of a run. -/

/-- `_InMemorySnapshotStoreAdapter`. -/
structure InMemorySnapshotStore where
  snapshots : AList fun _ : String => ControlledReActRunStateSnapshot
  refByIdentity : AList fun _ : String × String => String

namespace InMemorySnapshotStore

def empty : InMemorySnapshotStore := ⟨∅, ∅⟩

variable (rt : Runtime)

def save (snapshot : ControlledReActRunStateSnapshot) :
    Effect InMemorySnapshotStore ReactError String := do
  let binding ← Effect.ofExcept (bindControlledReactSnapshot rt snapshot)
  let identity := (binding.runId, binding.snapshotId)
  let store ← Effect.read
  Effect.require ((store.refByIdentity.lookup identity).all (· = binding.reference))
    (runtimeError "conflicting controlled ReAct snapshot already exists"
      "Use a new immutable snapshot identity.")
  Effect.modify fun store =>
    { snapshots := store.snapshots.insert binding.reference snapshot
      refByIdentity := store.refByIdentity.insert identity binding.reference }
  return binding.reference

def load (snapshotRef : String) :
    Effect InMemorySnapshotStore ReactError ControlledReActRunStateSnapshot := do
  let store ← Effect.read
  let snapshot ← Effect.ofExcept (orRaise (store.snapshots.lookup snapshotRef) (.key snapshotRef))
  let _ ← Effect.ofExcept (verifyControlledReactSnapshotBinding rt snapshot snapshotRef)
  return snapshot

def port : SnapshotStorePort InMemorySnapshotStore where
  save := save rt
  load := load rt

/-- The store holds a snapshot under some reference. -/
def Holds (store : InMemorySnapshotStore) (x : ControlledReActRunStateSnapshot) : Prop :=
  ∃ reference, store.snapshots.lookup reference = some x

variable {rt}

theorem holds_empty (x : ControlledReActRunStateSnapshot) : ¬ Holds empty x := by
  rintro ⟨reference, h⟩
  cases h

theorem load_state (reference : String) (store : InMemorySnapshotStore) :
    (load rt reference store).2 = store := by
  unfold load
  rw [Effect.read_then]
  cases store.snapshots.lookup reference with
  | none => rfl
  | some snapshot =>
    rw [orRaise_some, Effect.ok_then]
    cases verifyControlledReactSnapshotBinding rt snapshot reference with
    | error e => rfl
    | ok binding => rfl

theorem load_ok {reference : String} {store store' : InMemorySnapshotStore}
    {x : ControlledReActRunStateSnapshot} (h : load rt reference store = (.ok x, store')) :
    store.snapshots.lookup reference = some x := by
  unfold load at h
  rw [Effect.read_then] at h
  cases hlook : store.snapshots.lookup reference with
  | none =>
    rw [hlook] at h
    cases h
  | some snapshot =>
    rw [hlook, orRaise_some, Effect.ok_then] at h
    cases hv : verifyControlledReactSnapshotBinding rt snapshot reference with
    | error e =>
      rw [hv] at h
      cases h
    | ok binding =>
      rw [hv] at h
      cases h
      rfl

/-- **The store in memory** loads what was saved in it. -/
theorem port_keeps : (port rt).Keeps Holds where
  saved snapshot store x h := by
    obtain ⟨reference, h⟩ := h
    simp only [port, save] at h
    cases hb : bindControlledReactSnapshot rt snapshot with
    | error e =>
      rw [hb] at h
      exact .inl ⟨reference, h⟩
    | ok binding =>
      rw [hb, Effect.ok_then, Effect.read_then] at h
      by_cases hid : (store.refByIdentity.lookup (binding.runId, binding.snapshotId)).all
          (· = binding.reference) = true
      · rw [Effect.require_then _ hid, Effect.modify_then] at h
        by_cases href : reference = binding.reference
        · subst href
          refine .inr (.inl ?_)
          simp only [Effect.run_pure, AList.lookup_insert, Option.some.injEq] at h
          exact h.symm
        · simp only [Effect.run_pure, AList.lookup_insert_ne href] at h
          exact .inl ⟨reference, h⟩
      · rw [Effect.require_not_then _ hid] at h
        exact .inl ⟨reference, h⟩
  kept reference store x h := by
    simp only [port, load_state] at h
    exact h
  loaded reference store store' x h := ⟨reference, load_ok h⟩

end InMemorySnapshotStore

end ProofAgent
