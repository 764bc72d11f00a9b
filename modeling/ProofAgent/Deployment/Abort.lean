import ProofAgent.Deployment.Rollback

/-! # What an abort undoes

The flags of `deploy` say which steps returned, not which ones took effect, and an
abort compensates the steps of the flags. So an abort leaves nothing behind exactly if
no step took its effect and then failed. -/
namespace ProofAgent.Deployment

open Base

variable {W : Type} {c : BlueGreenChoreographer W} {request : BlueGreenDeploymentRequest}
  {j : List OperationCall} {k : OperationCall} {p : Progress} {operation op : Operation}

/-! ## Nothing left behind -/

/-- The operation that compensates one before the switch. -/
def Operation.compensation : Operation → Option Operation
  | .startCandidateStandby => some .keepCandidateStandby
  | .beginOldWorkersDraining => some .restoreOldWorkersActive
  | .pauseAdmission => some .resumeAdmission
  | _ => none

/-- The slot that the gateway routes to, after a call. -/
def OperationCall.route (slot : DeploymentSlot) (k : OperationCall) : DeploymentSlot :=
  match k.operation with
  | .switchGateway target => if k.tookEffect then target else slot
  | _ => slot

/-- The slot that the gateway routes to, after the calls of a deployment. -/
def routedSlot (request : BlueGreenDeploymentRequest) (j : List OperationCall) : DeploymentSlot :=
  j.foldl OperationCall.route request.oldSlot

/-- Nothing has changed: the gateway routes to the old slot, and what took effect has been
compensated since. -/
structure Unchanged (request : BlueGreenDeploymentRequest) (j : List OperationCall) : Prop where
  routed : routedSlot request j = request.oldSlot
  compensated : ∀ before k after, j = before ++ k :: after → k.tookEffect = true →
    ∀ op, k.operation.compensation = some op → Called op after

/-- An operation that changes what is served. -/
def Altering (request : BlueGreenDeploymentRequest) (operation : Operation) : Prop :=
  operation.compensation.isSome = true ∨ operation = .switchGateway request.candidateSlot

/-- No operation failed after its effect took place. -/
def NoLateFailure (request : BlueGreenDeploymentRequest) (j : List OperationCall) : Prop :=
  ∀ k ∈ j, Altering request k.operation → k.tookEffect = true → k.succeeded = true

/-! ## Before the switch -/

/-- What the local variables say about an operation. -/
def Progress.notes (p : Progress) : Operation → Bool
  | .startCandidateStandby => p.candidateStarted
  | .beginOldWorkersDraining => p.oldWorkersDraining
  | .pauseAdmission => p.admissionPaused
  | .switchGateway _ => p.gateway.isSome
  | _ => false

/-- An operation that only an abort or a rollback calls. -/
def Recovers (request : BlueGreenDeploymentRequest) (operation : Operation) : Prop :=
  operation = .keepCandidateStandby ∨ operation = .restoreOldWorkersActive ∨
    operation = .resumeAdmission ∨ operation = .switchGateway request.oldSlot

/-- The local variables are right about every call, and the operations of `pending` are still
to come. -/
structure Noted (request : BlueGreenDeploymentRequest) (pending : List Operation) (p : Progress)
    (j : List OperationCall) : Prop where
  noted : ∀ k ∈ j, Altering request k.operation → k.succeeded = p.notes k.operation
  not_recovered : ∀ k ∈ j, ¬ Recovers request k.operation
  pending : ∀ op ∈ pending, p.notes op = false ∧ ¬ Called op j

section
variable {pending : List Operation}

theorem Noted.weaken (h : Noted request (op :: pending) p j) : Noted request pending p j :=
  ⟨h.noted, h.not_recovered, fun o ho => h.pending o (List.mem_cons_of_mem _ ho)⟩

theorem Noted.rest (h : Noted request pending p j) : Noted request [] p j :=
  ⟨h.noted, h.not_recovered, fun _ ho => (nomatch ho)⟩

theorem Noted.concat (h : Noted request pending p j)
    (hnoted : Altering request k.operation → k.succeeded = p.notes k.operation)
    (hrecovers : ¬ Recovers request k.operation) (hpending : k.operation ∉ pending) :
    Noted request pending p (j ++ [k]) := by
  refine ⟨fun a ha => ?_, fun a ha => ?_, fun o ho => ⟨(h.pending o ho).1, fun hc => ?_⟩⟩
  · rcases List.mem_append.mp ha with ha | ha
    · exact h.noted a ha
    · rw [List.mem_singleton.mp ha]
      exact hnoted
  · rcases List.mem_append.mp ha with ha | ha
    · exact h.not_recovered a ha
    · rw [List.mem_singleton.mp ha]
      exact hrecovers
  · rcases called_concat_iff.mp hc with hc | hc
    · exact (h.pending o ho).2 hc
    · rw [hc] at hpending
      exact hpending ho

/-- A pending operation failed. -/
theorem Noted.fail (h : Noted request (op :: pending) p j) (hk : k.operation = op)
    (hsucceeded : k.succeeded = false) (hrecovers : ¬ Recovers request k.operation) :
    Noted request [] p (j ++ [k]) := by
  refine h.rest.concat (fun _ => ?_) hrecovers List.not_mem_nil
  rw [hk, hsucceeded, (h.pending op (List.mem_cons_self ..)).1]

/-- A pending operation succeeded, and is noted. -/
theorem Noted.advance {p' : Progress} (h : Noted request (op :: pending) p j)
    (hk : k.operation = op) (hnotes : p'.notes op = k.succeeded)
    (hsame : ∀ o, o ≠ op → Altering request o ∨ o ∈ pending → p'.notes o = p.notes o)
    (hrecovers : ¬ Recovers request k.operation) (hpending : op ∉ pending) :
    Noted request pending p' (j ++ [k]) := by
  have hcalled := (h.pending op (List.mem_cons_self ..)).2
  have hj : Noted request pending p' j := by
    refine ⟨fun a ha halters => ?_, h.not_recovered, fun o ho => ⟨?_, ?_⟩⟩
    · have hne : a.operation ≠ op := fun hop => hcalled ⟨a, ha, hop⟩
      rw [hsame _ hne (.inl halters)]
      exact h.noted a ha halters
    · rw [hsame o (fun hop => hpending (hop ▸ ho)) (.inr ho)]
      exact (h.pending o (List.mem_cons_of_mem _ ho)).1
    · exact (h.pending o (List.mem_cons_of_mem _ ho)).2
  refine hj.concat (fun _ => ?_) hrecovers (hk ▸ hpending)
  rw [hk, hnotes]

end

/-! ## The steps before the switch -/

section
variable {α : Type} {action : Action W α} {accepted : α → Bool} {name : DeploymentStepName}
  {pending : List Operation}

/-- A step that changes nothing of what is served. -/
theorem noted_step (h : Answers operation action accepted) (halters : ¬ Altering request operation)
    (hrecovers : ¬ Recovers request operation) (hpending : operation ∉ pending) :
    Triple (On (Noted request pending)) (run c request name action)
      (fun _ => On (Noted request pending)) (Stopped (Noted request []) fun _ _ => True) :=
  run_triple (J := fun _ => Noted request pending) h
    (fun _ _ _ _ hj => hj.concat (fun ha => absurd ha halters) hrecovers hpending)
    (fun _ _ _ hj => (hj.concat (fun ha => absurd ha halters) hrecovers hpending).rest)
    (fun _ _ _ _ => trivial) fun _ _ _ => trivial

/-- A step that does, before its flag is set. -/
theorem noted_advance {action : Action W Unit} {f : Progress → Progress}
    (h : Answers operation action fun _ => true)
    (hnotes : ∀ p : Progress, (f p).notes operation = true)
    (hsame : ∀ (p : Progress) o, o ≠ operation → Altering request o ∨ o ∈ pending →
      (f p).notes o = p.notes o)
    (hrecovers : ¬ Recovers request operation) (hpending : operation ∉ pending) :
    Triple (On (Noted request (operation :: pending))) (run c request name action)
      (fun _ => On fun p => Noted request pending (f p))
      (Stopped (Noted request []) fun _ _ => True) :=
  run_triple (J := fun _ p => Noted request pending (f p)) h
    (fun p _ _ _ hj => hj.advance rfl (hnotes p) (hsame p) hrecovers hpending)
    (fun _ _ _ hj => hj.fail rfl rfl hrecovers) (fun _ _ _ _ => trivial) fun _ _ _ => trivial

end

theorem not_altering (h : operation.compensation = none)
    (hswitch : operation ≠ .switchGateway request.candidateSlot) : ¬ Altering request operation := by
  rintro (hsome | hop)
  · rw [h] at hsome
    cases hsome
  · exact hswitch hop

/-- The operations before the switch that are noted. -/
def alterations (request : BlueGreenDeploymentRequest) : List Operation :=
  [.startCandidateStandby, .pauseAdmission, .beginOldWorkersDraining,
    .switchGateway request.candidateSlot]

theorem beforeSwitch_noted :
    Triple (On (Noted request (alterations request))) (beforeSwitch c request)
      (fun _ => On (Noted request [.beginOldWorkersDraining, .switchGateway request.candidateSlot]))
      (Stopped (Noted request []) fun _ _ => True) := by
  have hplain : ∀ {operation : Operation}, operation.compensation = none →
      operation ≠ .switchGateway request.candidateSlot → ¬ Altering request operation :=
    not_altering
  unfold beforeSwitch alterations
  refine (noted_step (invoke_answers _ _) (hplain rfl (by nofun)) (by simp [Recovers])
    (by simp)).bind fun _ => ?_
  refine (noted_step (invoke_answers _ _) (hplain rfl (by nofun)) (by simp [Recovers])
    (by simp)).bind fun _ => ?_
  refine (noted_advance (f := fun p => { p with candidateStarted := true }) (invoke_answers _ _)
    (fun _ => rfl) ?_ (by simp [Recovers]) (by simp)).bind fun _ => ?_
  · intro p o hne _
    cases o <;> first | rfl | exact absurd rfl hne
  refine Triple.bind (setProgress_triple (J := Noted request _) fun _ _ hj => hj) fun _ => ?_
  refine (noted_step (invoke_answers _ _) (hplain rfl (by nofun)) (by simp [Recovers])
    (by simp)).bind fun _ => ?_
  refine (noted_step (invoke_answers _ _) (hplain rfl (by nofun)) (by simp [Recovers])
    (by simp)).bind fun _ => ?_
  refine (noted_step requireQueuePolicy_answers (hplain rfl (by nofun)) (by simp [Recovers])
    (by simp)).bind fun compatible => ?_
  refine .ite (fun _ => .ret fun _ hs => Noted.weaken hs) fun _ => ?_
  refine (noted_advance (f := fun p => { p with admissionPaused := true }) (invoke_answers _ _)
    (fun _ => rfl) ?_ (by simp [Recovers]) (by simp)).bind fun _ => ?_
  · intro p o hne _
    cases o <;> first | rfl | exact absurd rfl hne
  exact setProgress_triple fun _ _ hj => hj

/-- Once the gateway has switched, a deployment does not abort. -/
def Switched : Trace := fun p _ => p.gateway.isSome = true

theorem switchToCandidate_noted :
    Triple (On (Noted request [.beginOldWorkersDraining, .switchGateway request.candidateSlot]))
      (switchToCandidate c request) (fun _ => On Switched)
      (Stopped (Noted request []) fun _ _ => True) := by
  unfold switchToCandidate
  refine (noted_advance (f := fun p => { p with oldWorkersDraining := true }) (invoke_answers _ _)
    (fun _ => rfl) ?_ (by simp [Recovers]) (by simp)).bind fun _ => ?_
  · intro p o hne _
    cases o <;> first | rfl | exact absurd rfl hne
  refine Triple.bind (setProgress_triple (J := Noted request _) fun _ _ hj => hj) fun _ => ?_
  refine (noted_step requireOldClaimsZero_answers (not_altering rfl (by nofun)) (by simp [Recovers])
    (by simp)).bind fun _ => ?_
  have hslots : request.candidateSlot ≠ request.oldSlot := request.distinct_slots.symm
  refine Triple.bind (Q := fun _ => On fun _ _ => True) ?_ fun gateway => ?_
  · exact run_triple (J := fun _ _ _ => True) switchGateway_answers (fun _ _ _ _ _ => trivial)
      (fun _ _ _ hj => hj.fail rfl rfl (by simp [Recovers, hslots])) (fun _ _ _ _ => trivial)
      fun _ _ _ => trivial
  refine Triple.bind (Q := fun _ => On Switched) (setProgress_triple fun _ _ _ => rfl) fun _ => ?_
  exact now_triple.bind fun _ => setProgress_triple fun _ _ hp => hp

theorem switched_step {α : Type} {action : Action W α} {accepted : α → Bool}
    {name : DeploymentStepName} (h : Answers operation action accepted) :
    Triple (On Switched) (run c request name action) (fun _ => On Switched)
      (Stopped Switched fun _ _ => True) :=
  run_triple (J := fun _ => Switched) h (fun _ _ _ _ hp => hp) (fun _ _ _ hp => hp)
    (fun _ _ _ _ => trivial) fun _ _ _ => trivial

theorem afterSwitch_switched :
    Triple (On Switched) (afterSwitch c request) (fun _ => On Switched)
      (Stopped Switched fun _ _ => True) := by
  unfold afterSwitch
  refine (switched_step activateCandidate_answers).bind fun _ => ?_
  refine Triple.bind (setProgress_triple (J := Switched) fun _ _ hp => hp) fun _ => ?_
  refine (switched_step (invoke_answers _ _)).bind fun _ => ?_
  refine (switched_step (invoke_answers _ _)).bind fun _ => ?_
  refine (switched_step (invoke_answers _ _)).bind fun _ => ?_
  refine Triple.bind (Q := fun _ => On Switched) (.read fun _ hs => hs) fun s => ?_
  exact .ite (fun _ => switched_step (invoke_answers _ _)) fun _ => .ret fun _ hs => hs

/-! ## An abort -/

/-- The calls since `before`, which are of the operations `called`. -/
def Recovered (before : List OperationCall) (called : List Operation) (j : List OperationCall) : Prop :=
  ∃ since, j = before ++ since ∧ ∀ op, Called op since ↔ op ∈ called

theorem Recovered.concat {before : List OperationCall} {called : List Operation}
    (h : Recovered before called j) : Recovered before (called ++ [k.operation]) (j ++ [k]) := by
  obtain ⟨since, hj, hcalled⟩ := h
  refine ⟨since ++ [k], by rw [hj, List.append_assoc], fun op => ?_⟩
  rw [called_concat_iff, hcalled, List.mem_append, List.mem_singleton, eq_comm (a := k.operation)]

/-- The compensations that an abort calls for the local variables. -/
def Progress.compensations (p : Progress) : List Operation :=
  (if p.oldWorkersDraining then [.restoreOldWorkersActive] else []) ++
    (if p.candidateStarted then [.keepCandidateStandby] else []) ++
    if p.admissionPaused then [.resumeAdmission] else []

theorem abortBeforeSwitch_recovered {M : Trace} :
    Triple (On fun _ j' => j' = j) (abortBeforeSwitch c request p)
      (fun _ => On fun _ => Recovered j p.compensations)
      (Stopped (W := W) M fun _ _ => True) := by
  have hstep : ∀ {called : List Operation} {needed : Bool} {name : DeploymentStepName}
      {operation : Operation} {action : Action W Unit}, Answers operation action (fun _ => true) →
      Triple (On fun _ => Recovered j called) (recoverIf c request needed name action)
        (fun _ => On fun _ => Recovered j (called ++ if needed then [operation] else []))
        (Stopped M fun _ _ => True) := by
    intro called needed name operation action h
    refine recoverIf_triple (J := fun _ _ => Recovered j _) h (fun hneeded _ _ _ hj => ?_)
      (fun hneeded _ _ _ hj => ?_) (fun hneeded _ _ hj => ?_) fun _ _ _ _ => trivial
    · rw [hneeded]
      exact hj.concat
    · rw [hneeded]
      exact hj.concat
    · rw [hneeded]
      simpa using hj
  unfold abortBeforeSwitch
  refine Triple.pre (P := On fun _ => Recovered j []) ?_ fun s hs => ?_
  · refine (hstep (invoke_answers _ _)).bind fun _ => ?_
    refine (hstep (invoke_answers _ _)).bind fun _ => ?_
    exact (hstep (invoke_answers _ _)).bind fun _ => .ret fun _ hs => hs
  · have hj : s.journal = j := hs
    refine ⟨[], by rw [hj, List.append_nil], fun op => ⟨?_, nofun⟩⟩
    rintro ⟨_, hk, _⟩
    cases hk

theorem mem_compensations {op' : Operation} (h : op.compensation = some op') :
    op' ∈ p.compensations ↔ p.notes op = true := by
  unfold Progress.compensations
  cases op <;> cases h <;> simp [Progress.notes]

theorem compensations_recover (h : op ∈ p.compensations) :
    op = .keepCandidateStandby ∨ op = .restoreOldWorkersActive ∨ op = .resumeAdmission := by
  unfold Progress.compensations at h
  rcases List.mem_append.mp h with h | h
  · rcases List.mem_append.mp h with h | h <;> split at h <;> simp_all
  · split at h <;> simp_all

theorem recovers_of_compensation {op' : Operation} (h : op.compensation = some op') :
    Recovers request op' := by
  cases op <;> cases h <;> simp [Recovers]

/-! ## What an abort leaves behind -/

theorem route_of_not_switch {slot : DeploymentSlot}
    (h : ∀ target, k.operation ≠ .switchGateway target) : k.route slot = slot := by
  unfold OperationCall.route
  split
  · rename_i target hop
    exact absurd hop (h target)
  · rfl

/-- Calls that do not switch the gateway leave the route alone. -/
theorem foldl_route_of_not_switch : ∀ {j : List OperationCall} {slot : DeploymentSlot},
    (∀ k ∈ j, ∀ target, k.operation ≠ .switchGateway target) →
    j.foldl OperationCall.route slot = slot
  | [], _, _ => rfl
  | k :: j, slot, h => by
    rw [List.foldl_cons, route_of_not_switch (h k (List.mem_cons_self ..))]
    exact foldl_route_of_not_switch fun a ha => h a (List.mem_cons_of_mem _ ha)

/-- Where every switch is to `target`, the route is another one only if no switch took effect. -/
theorem foldl_route_ne {target : DeploymentSlot} : ∀ {j : List OperationCall} {slot : DeploymentSlot},
    (∀ k ∈ j, ∀ t, k.operation = .switchGateway t → t = target) →
    (j.foldl OperationCall.route slot ≠ target ↔
      slot ≠ target ∧ ∀ k ∈ j, k.operation = .switchGateway target → k.tookEffect = false)
  | [], slot, _ => by simp
  | k :: j, slot, h => by
    rw [List.foldl_cons, foldl_route_ne fun a ha => h a (List.mem_cons_of_mem _ ha),
      List.forall_mem_cons, ← and_assoc]
    refine and_congr_left fun _ => ?_
    by_cases hop : ∃ t, k.operation = .switchGateway t
    · obtain ⟨t, hop⟩ := hop
      obtain rfl := h k (List.mem_cons_self ..) t hop
      unfold OperationCall.route
      rw [hop]
      cases k.tookEffect <;> simp
    · have hswitch : ∀ t, k.operation ≠ .switchGateway t := fun t ht => hop ⟨t, ht⟩
      rw [route_of_not_switch hswitch]
      exact ⟨fun hs => ⟨hs, fun ht => absurd ht (hswitch _)⟩, fun hs => hs.1⟩

theorem DeploymentSlot.eq_old_iff {slot : DeploymentSlot} :
    slot = request.oldSlot ↔ slot ≠ request.candidateSlot := by
  have hslots := request.distinct_slots
  revert hslots
  cases slot <;> cases request.oldSlot <;> cases request.candidateSlot <;> decide

/-- **What an abort leaves behind.** -/
theorem unchanged_iff {before : List OperationCall} (hnoted : Noted request [] p before)
    (hgateway : p.gateway = none) (hrecovered : Recovered before p.compensations j) :
    Unchanged request j ↔ NoLateFailure request j := by
  obtain ⟨since, rfl, hcalled⟩ := hrecovered
  have hsince : ∀ k ∈ since, k.operation.compensation = none ∧
      ∀ target, k.operation ≠ .switchGateway target := fun k hk => by
    rcases compensations_recover ((hcalled _).mp ⟨k, hk, rfl⟩) with hop | hop | hop <;>
      rw [hop] <;> exact ⟨rfl, nofun⟩
  have htargets : ∀ k ∈ before, ∀ target, k.operation = .switchGateway target →
      target = request.candidateSlot := fun k hk target hop => by
    by_contra hne
    refine hnoted.not_recovered k hk (.inr (.inr (.inr ?_)))
    rw [hop, DeploymentSlot.eq_old_iff.mpr hne]
  have hroute : routedSlot request (before ++ since) = request.oldSlot ↔
      ∀ k ∈ before, k.operation = .switchGateway request.candidateSlot → k.tookEffect = false := by
    unfold routedSlot
    rw [List.foldl_append, foldl_route_of_not_switch fun k hk => (hsince k hk).2,
      DeploymentSlot.eq_old_iff, foldl_route_ne htargets]
    exact and_iff_right request.distinct_slots
  constructor
  · intro h k hk halters heffect
    rcases List.mem_append.mp hk with hk | hk
    · rw [hnoted.noted k hk halters]
      rcases halters with hsome | hop
      · obtain ⟨op, hop⟩ := Option.isSome_iff_exists.mp hsome
        obtain ⟨earlier, later, hsplit⟩ := List.append_of_mem hk
        have hcompensated : Called op (later ++ since) :=
          h.compensated earlier k (later ++ since) (by rw [hsplit]; simp) heffect op hop
        obtain ⟨a, ha, haop⟩ := hcompensated
        rcases List.mem_append.mp ha with ha | ha
        · refine absurd ?_ (hnoted.not_recovered a (by rw [hsplit]; simp [ha]))
          rw [haop]
          exact recovers_of_compensation hop
        · exact (mem_compensations hop).mp ((hcalled op).mp ⟨a, ha, haop⟩)
      · rw [hroute.mp h.routed k hk hop] at heffect
        cases heffect
    · rcases halters with hsome | hop
      · rw [(hsince k hk).1] at hsome
        cases hsome
      · exact absurd hop ((hsince k hk).2 _)
  · intro h
    refine ⟨hroute.mpr fun k hk hop => ?_, fun earlier k later hsplit heffect op hop => ?_⟩
    · by_contra heffect
      have hsucceeded := h k (List.mem_append_left _ hk) (.inr hop) (Bool.eq_true_of_not_eq_false heffect)
      rw [hnoted.noted k hk (.inr hop), hop] at hsucceeded
      simp [Progress.notes, hgateway] at hsucceeded
    · have halters : Altering request k.operation := .inl (by rw [hop]; rfl)
      rcases List.append_eq_append_iff.mp hsplit with ⟨rest, hearlier, hrest⟩ | ⟨rest, hbefore, hrest⟩
      · have hk : k ∈ since := by rw [hrest]; simp
        rw [(hsince k hk).1] at hop
        cases hop
      · cases rest with
        | nil =>
          have hk : k ∈ since := by rw [← List.nil_append since, ← hrest]; simp
          rw [(hsince k hk).1] at hop
          cases hop
        | cons a rest =>
          obtain ⟨rfl, rfl⟩ := List.cons.inj hrest
          have hk : k ∈ before := by rw [hbefore]; simp
          have hsucceeded := h k (List.mem_append_left _ hk) halters heffect
          rw [hnoted.noted k hk halters] at hsucceeded
          obtain ⟨a, ha, haop⟩ := (hcalled op).mpr ((mem_compensations hop).mpr hsucceeded)
          exact ⟨a, List.mem_append_right _ ha, haop⟩

/-! ## `deploy` -/

/-- What is known of a deployment that has ended. -/
def Settled (request : BlueGreenDeploymentRequest) (outcome : DeploymentOutcome)
    (j : List OperationCall) : Prop :=
  outcome = .aborted → (Unchanged request j ↔ NoLateFailure request j)

theorem result_settled {I : Trace} {outcome : DeploymentOutcome}
    {gateway : Option GatewayRoutingGeneration} {epoch : Option Int} {switchedAt : Option Instant}
    {E : Interruption → DeployState W → Prop}
    (h : ∀ p j, I p j → Settled request outcome j) :
    Triple (On I) (result c request outcome gateway epoch switchedAt)
      (fun r => On fun _ => Settled request r.outcome) E :=
  result_triple.post fun r s hs => by
    obtain ⟨hout, hj⟩ := hs
    simp only [On, hout]
    exact h _ _ hj

/-- Every run ends somehow. -/
theorem Triple.any {α : Type} {P : DeployState W → Prop} {x : Deploy W α} :
    Triple P x (fun _ => On fun _ _ => True) fun _ _ => True :=
  fun _ _ => ⟨fun _ _ _ => trivial, fun _ _ _ => trivial⟩

theorem contain_settled :
    Triple (On fun p j => p.gateway = none → Noted request [] p j) (contain c request)
      (fun r => On (W := W) fun _ => Settled request r.outcome) (fun _ _ => True) := by
  unfold contain
  refine Triple.bind (Q := fun seen s => s = seen ∧
    On (fun p j => p.gateway = none → Noted request [] p j) s) (.read fun _ hs => ⟨rfl, hs⟩)
    fun seen => ?_
  dsimp only
  split
  · rename_i hgateway
    refine Triple.pre (P := fun s => Noted request [] seen.progress seen.journal ∧
      On (fun _ j => j = seen.journal) s) (.given fun hnoted => ?_) fun s hs => ?_
    · refine Triple.bind ((abortBeforeSwitch_recovered (M := fun _ _ => True)).conseq
        (fun _ hs => hs) (fun _ _ hs => hs) fun _ _ _ => trivial) fun ok => result_settled fun _ j hj _ => ?_
      exact unchanged_iff hnoted hgateway hj
    · obtain ⟨rfl, hnoted⟩ := hs
      exact ⟨hnoted hgateway, rfl⟩
  · refine Triple.any.bind fun ok => result_settled fun _ _ _ hout => ?_
    split at hout <;> cases hout

theorem deploy_settled :
    Triple (On (Noted request (alterations request))) (deploy c request)
      (fun r => On fun _ => Settled request r.outcome) (fun _ _ => True) := by
  have hnoted : ∀ e (s : DeployState W), Stopped (Noted request []) (fun _ _ => True) e s →
      Stopped (fun p j => p.gateway = none → Noted request [] p j) (fun _ _ => True) e s :=
    fun e s hs => hs.mono (fun p _ hj (_ : p.gateway = none) => hj) fun _ _ hj => hj
  have hswitched : ∀ e (s : DeployState W), Stopped Switched (fun _ _ => True) e s →
      Stopped (fun p j => p.gateway = none → Noted request [] p j) (fun _ _ => True) e s :=
    fun e s hs => hs.mono (fun p _ hp hnone => by
      unfold Switched at hp
      rw [hnone] at hp
      cases hp) fun _ _ hj => hj
  refine Triple.attempt (F := Stopped (fun p j => p.gateway = none → Noted request [] p j)
    fun _ _ => True) ?_ fun e => ?_
  · refine Triple.bind (beforeSwitch_noted.conseq (fun _ hs => hs) (fun _ _ hs => hs)
      hnoted) fun _ => ?_
    refine Triple.bind (switchToCandidate_noted.conseq (fun _ hs => hs) (fun _ _ hs => hs)
      hnoted) fun _ => ?_
    refine Triple.bind (afterSwitch_switched.conseq (fun _ hs => hs) (fun _ _ hs => hs)
      hswitched) fun _ => ?_
    refine Triple.bind (Q := fun _ => On Switched) (.read fun _ hs => hs) fun s => ?_
    exact result_settled fun _ _ _ hout => (nomatch hout)
  · cases e with
    | stepFailed => exact contain_settled
    | invalidRecord => exact .raise fun _ _ => trivial

/-- **When an abort changes nothing**: exactly if no operation before the switch, and no switch,
failed after its effect took place. -/
theorem aborted_unchanged_iff (c : BlueGreenChoreographer W) (request : BlueGreenDeploymentRequest)
    (w : W) (r : BlueGreenDeploymentResult) (s : DeployState W)
    (hrun : deploy c request { world := w } = (.ok r, s)) (haborted : r.outcome = .aborted) :
    Unchanged request s.journal ↔ NoLateFailure request s.journal := by
  have hstart : On (Noted request (alterations request)) ({ world := w } : DeployState W) := by
    refine ⟨fun _ hk => (nomatch hk), fun _ hk => (nomatch hk), fun op hop => ⟨?_, ?_⟩⟩
    · unfold alterations at hop
      simp only [List.mem_cons, List.not_mem_nil, or_false] at hop
      rcases hop with rfl | rfl | rfl | rfl <;> rfl
    · rintro ⟨_, hk, _⟩
      cases hk
  exact (deploy_settled _ hstart).1 r s hrun haborted

namespace Sample

/-- A run of the small deployment. -/
def deployed (c : BlueGreenChoreographer Unit) : Except Interruption BlueGreenDeploymentResult × DeployState Unit :=
  deploy c release { world := () }

/-- The candidate does not answer as ready. -/
def unready : BlueGreenChoreographer Unit := choreographer (operations [.assertCandidateReady])

/-- The candidate is started, and then its start raises. -/
def lateStart : BlueGreenChoreographer Unit :=
  choreographer { operations [] with startCandidateStandby := fun w => (⟨true, .error .other⟩, w) }

/-- The gateway switches, and reports a generation that was not asked for. -/
def ambiguousSwitch : BlueGreenChoreographer Unit :=
  { choreographer (operations []) with
    switch := fun target binding generation w =>
      (⟨true, .ok ⟨generation.toNat, target, binding, "include"⟩⟩, w) }

end Sample

open ProofAgent.Deployment.Sample

theorem unready_unchanged_iff :
    Unchanged release (deployed unready).2.journal ↔
      NoLateFailure release (deployed unready).2.journal := by
  rcases h : deployed unready with ⟨e | r, s⟩
  · have hok : (deployed unready).1.isOk = true := by decide
    rw [h] at hok
    cases hok
  · refine aborted_unchanged_iff unready release () r s h ?_
    have hout : (deployed unready).1.toOption.map (·.outcome) = some .aborted := by decide
    rw [h] at hout
    exact Option.some.inj hout

/-- An abort leaves a started candidate behind, and one leaves the gateway at the candidate. -/
theorem late_failures_abort :
    ((deployed lateStart).1.toOption.map (·.outcome) = some .aborted ∧
      (∃ k ∈ (deployed lateStart).2.journal,
        k.operation = .startCandidateStandby ∧ k.tookEffect = true) ∧
      ¬ Called .keepCandidateStandby (deployed lateStart).2.journal ∧
      ¬ Unchanged release (deployed lateStart).2.journal) ∧
    (deployed ambiguousSwitch).1.toOption.map (·.outcome) = some .aborted ∧
      routedSlot release (deployed ambiguousSwitch).2.journal = .green ∧
      ¬ Unchanged release (deployed ambiguousSwitch).2.journal := by
  have hroute : routedSlot release (deployed ambiguousSwitch).2.journal = .green := by decide
  have hnever : ¬ Called .keepCandidateStandby (deployed lateStart).2.journal := by
    unfold Called
    decide
  have hstarted : ∃ k ∈ (deployed lateStart).2.journal,
      k.operation = .startCandidateStandby ∧ k.tookEffect = true := by decide
  refine ⟨⟨by decide, hstarted, hnever, fun h => ?_⟩, by decide, hroute, fun h => ?_⟩
  · obtain ⟨k, hk, hop, heffect⟩ := hstarted
    obtain ⟨before, after, hsplit⟩ := List.append_of_mem hk
    obtain ⟨a, ha, haop⟩ := h.compensated before k after hsplit heffect .keepCandidateStandby
      (by rw [hop]; rfl)
    exact hnever ⟨a, by rw [hsplit]; simp [ha], haop⟩
  · have hrouted := h.routed
    rw [hroute] at hrouted
    cases hrouted

end ProofAgent.Deployment
