import ProofAgent.Base.Trails
import ProofAgent.Deployment.Journal

/-! # The order of a rollback

A rollback goes on whatever a step answers: it routes to the old slot also when the
old API was not ready, and it activates the old workers also when the candidate was
neither drained nor fenced. What does hold is the order of the calls, so a rollback is
safe exactly if the calls that guard the two have succeeded. -/
namespace ProofAgent.Deployment

open Base

variable {W : Type} {c : BlueGreenChoreographer W} {request : BlueGreenDeploymentRequest}
  {j : List OperationCall} {k : OperationCall}

/-! ## Safe calls -/

/-- A call that observed the candidate's claims at zero or fenced the candidate. -/
def Contains (k : OperationCall) : Prop :=
  k.succeeded = true ∧ (k.operation = .waitCandidateClaimsZero ∨
    k.operation = .fenceCandidateAndWaitForLeaseExpiry)

/-- A call that confirmed the old API as ready. -/
def Confirms (k : OperationCall) : Prop := k.succeeded = true ∧ k.operation = .assertOldApiReady

/-- The old workers are activated after the candidate was contained, and traffic is routed to
the old slot after its API was confirmed. -/
structure SafeCall (request : BlueGreenDeploymentRequest) (before : List OperationCall)
    (k : OperationCall) : Prop where
  activation : k.operation = .activateOldWorkers → ∃ d ∈ before, Contains d
  routing : k.operation = .switchGateway request.oldSlot → ∃ d ∈ before, Confirms d

/-- Every call of the deployment was safe. -/
def SafeRollback (request : BlueGreenDeploymentRequest) (j : List OperationCall) : Prop :=
  Justified (SafeCall request) j

/-- The guards of a rollback succeeded: the old API answered as ready, and the candidate's
claims were seen at zero or the candidate was fenced. -/
structure Guarded (j : List OperationCall) : Prop where
  contained : ∃ d ∈ j, Contains d
  confirmed : ∃ d ∈ j, Confirms d

/-- A guard that would come after the call that it guards. -/
def Late (request : BlueGreenDeploymentRequest) (k d : OperationCall) : Prop :=
  (k.operation = .activateOldWorkers ∧ Contains d) ∨
    (k.operation = .switchGateway request.oldSlot ∧ Confirms d)

/-- No guard comes late. -/
def Ordered (request : BlueGreenDeploymentRequest) (j : List OperationCall) : Prop :=
  j.Pairwise fun k d => ¬ Late request k d

theorem Ordered.safe (h : Ordered request j) (hguarded : Guarded j) : SafeRollback request j := by
  intro before k after hj
  subst hj
  obtain ⟨_, hafter, _⟩ := List.pairwise_append.mp h
  have hlate := (List.pairwise_cons.mp hafter).1
  refine ⟨fun hk => ?_, fun hk => ?_⟩
  · obtain ⟨d, hd, hcontains⟩ := hguarded.contained
    rcases List.mem_append.mp hd with hd | hd
    · exact ⟨d, hd, hcontains⟩
    · rcases List.mem_cons.mp hd with rfl | hd
      · rcases hcontains.2 with hop | hop <;> rw [hk] at hop <;> cases hop
      · exact absurd (.inl ⟨hk, hcontains⟩) (hlate d hd)
  · obtain ⟨d, hd, hconfirms⟩ := hguarded.confirmed
    rcases List.mem_append.mp hd with hd | hd
    · exact ⟨d, hd, hconfirms⟩
    · rcases List.mem_cons.mp hd with rfl | hd
      · have hop := hconfirms.2
        rw [hk] at hop
        cases hop
      · exact absurd (.inr ⟨hk, hconfirms⟩) (hlate d hd)

/-- The operation has been called. -/
def Called (operation : Operation) (j : List OperationCall) : Prop :=
  ∃ k ∈ j, k.operation = operation

theorem SafeRollback.guarded (h : SafeRollback request j) (hactivated : Called .activateOldWorkers j)
    (hrouted : Called (.switchGateway request.oldSlot) j) : Guarded j := by
  obtain ⟨k, hk, hop⟩ := hactivated
  obtain ⟨k', hk', hop'⟩ := hrouted
  obtain ⟨before, after, hj⟩ := List.append_of_mem hk
  obtain ⟨before', after', hj'⟩ := List.append_of_mem hk'
  obtain ⟨d, hd, hcontains⟩ := (h before k after hj).activation hop
  obtain ⟨d', hd', hconfirms⟩ := (h before' k' after' hj').routing hop'
  refine ⟨⟨d, ?_, hcontains⟩, d', ?_, hconfirms⟩
  · rw [hj]
    exact List.mem_append_left _ hd
  · rw [hj']
    exact List.mem_append_left _ hd'

/-! ## The calls of a deployment -/

theorem Ordered.concat (h : Ordered request j) (hk : ∀ a ∈ j, ¬ Late request a k) :
    Ordered request (j ++ [k]) := by
  refine List.pairwise_append.mpr ⟨h, List.pairwise_singleton _ _, fun a ha b hb => ?_⟩
  rw [List.mem_singleton.mp hb]
  exact hk a ha

theorem Called.concat {operation : Operation} (h : Called operation j) :
    Called operation (j ++ [k]) := by
  obtain ⟨a, ha, hop⟩ := h
  exact ⟨a, List.mem_append_left _ ha, hop⟩

theorem called_concat_iff {operation : Operation} :
    Called operation (j ++ [k]) ↔ Called operation j ∨ k.operation = operation := by
  constructor
  · rintro ⟨a, ha, hop⟩
    rcases List.mem_append.mp ha with ha | ha
    · exact .inl ⟨a, ha, hop⟩
    · rw [List.mem_singleton.mp ha] at hop
      exact .inr hop
  · rintro (h | hop)
    · exact h.concat
    · exact ⟨k, List.mem_append_right _ (List.mem_singleton_self k), hop⟩

/-- A call that confirms nothing and contains nothing is never late. -/
theorem Ordered.concat_plain (h : Ordered request j)
    (hplain : k.operation ≠ .assertOldApiReady ∧ k.operation ≠ .waitCandidateClaimsZero ∧
      k.operation ≠ .fenceCandidateAndWaitForLeaseExpiry) : Ordered request (j ++ [k]) := by
  refine h.concat fun a _ hlate => ?_
  rcases hlate with ⟨_, _, hop | hop⟩ | ⟨_, _, hop⟩
  · exact hplain.2.1 hop
  · exact hplain.2.2 hop
  · exact hplain.1 hop

/-- The calls before a rollback. -/
structure Forward (request : BlueGreenDeploymentRequest) (j : List OperationCall) : Prop where
  ordered : Ordered request j
  not_routed : ¬ Called (.switchGateway request.oldSlot) j
  not_activated : ¬ Called .activateOldWorkers j

/-- A rollback that has routed traffic but not activated the old workers. -/
structure Routed (request : BlueGreenDeploymentRequest) (j : List OperationCall) : Prop where
  ordered : Ordered request j
  routed : Called (.switchGateway request.oldSlot) j
  not_activated : ¬ Called .activateOldWorkers j

/-- A rollback that has activated the old workers. -/
structure Reactivated (request : BlueGreenDeploymentRequest) (j : List OperationCall) : Prop where
  ordered : Ordered request j
  routed : Called (.switchGateway request.oldSlot) j
  activated : Called .activateOldWorkers j

theorem Forward.concat (h : Forward request j) (hop : k.operation ≠ .switchGateway request.oldSlot)
    (hop' : k.operation ≠ .activateOldWorkers) : Forward request (j ++ [k]) := by
  refine ⟨h.ordered.concat fun a ha hlate => ?_, fun hc => ?_, fun hc => ?_⟩
  · rcases hlate with ⟨hact, _⟩ | ⟨hroute, _⟩
    · exact h.not_activated ⟨a, ha, hact⟩
    · exact h.not_routed ⟨a, ha, hroute⟩
  · exact (called_concat_iff.mp hc).elim h.not_routed hop
  · exact (called_concat_iff.mp hc).elim h.not_activated hop'

theorem Forward.route (h : Forward request j) (hop : k.operation = .switchGateway request.oldSlot) :
    Routed request (j ++ [k]) := by
  refine ⟨h.ordered.concat_plain ?_, called_concat_iff.mpr (.inr hop), fun hc => ?_⟩
  · rw [hop]
    exact ⟨nofun, nofun, nofun⟩
  · rcases called_concat_iff.mp hc with hc | hc
    · exact h.not_activated hc
    · rw [hop] at hc
      cases hc

theorem Routed.concat (h : Routed request j) (hop : k.operation ≠ .activateOldWorkers)
    (hop' : k.operation ≠ .assertOldApiReady) : Routed request (j ++ [k]) := by
  refine ⟨h.ordered.concat fun a ha hlate => ?_, h.routed.concat, fun hc => ?_⟩
  · rcases hlate with ⟨hact, _⟩ | ⟨_, hconfirms⟩
    · exact h.not_activated ⟨a, ha, hact⟩
    · exact hop' hconfirms.2
  · exact (called_concat_iff.mp hc).elim h.not_activated hop

theorem Routed.activate (h : Routed request j) (hop : k.operation = .activateOldWorkers) :
    Reactivated request (j ++ [k]) := by
  refine ⟨h.ordered.concat_plain ?_, h.routed.concat, called_concat_iff.mpr (.inr hop)⟩
  rw [hop]
  exact ⟨nofun, nofun, nofun⟩

theorem Reactivated.concat (h : Reactivated request j)
    (hplain : k.operation ≠ .assertOldApiReady ∧ k.operation ≠ .waitCandidateClaimsZero ∧
      k.operation ≠ .fenceCandidateAndWaitForLeaseExpiry) : Reactivated request (j ++ [k]) :=
  ⟨h.ordered.concat_plain hplain, h.routed.concat, h.activated.concat⟩

/-! ## The steps of a deployment -/

section
variable {α : Type} {operation : Operation} {action : Action W α} {accepted : α → Bool}
  {name : DeploymentStepName}

/-- A forward step, or the first step of a rollback. -/
theorem forward_step (h : Answers operation action accepted)
    (hop : operation ≠ .switchGateway request.oldSlot) (hop' : operation ≠ .activateOldWorkers) :
    Triple (On fun _ => Forward request) (run c request name action)
      (fun _ => On fun _ => Forward request)
      (Stopped (fun _ => Forward request) fun _ => Ordered request) :=
  run_triple (J := fun _ _ => Forward request) h (fun _ _ _ _ hj => hj.concat hop hop')
    (fun _ _ _ hj => hj.concat hop hop') (fun _ _ _ hj => hj.ordered) fun _ _ hj => hj.ordered

theorem forward_set {f : Progress → Progress} {E : Interruption → DeployState W → Prop} :
    Triple (On fun _ => Forward request) (setProgress f) (fun _ => On fun _ => Forward request) E :=
  setProgress_triple fun _ _ hj => hj

end

/-- What a forward phase keeps, whether it returns or stops. -/
def KeepsForward (request : BlueGreenDeploymentRequest) (phase : Deploy W Unit) : Prop :=
  Triple (On fun _ => Forward request) phase (fun _ => On fun _ => Forward request)
    (Stopped (fun _ => Forward request) fun _ => Ordered request)

theorem beforeSwitch_forward : KeepsForward request (beforeSwitch c request) := by
  unfold beforeSwitch
  refine (forward_step (invoke_answers _ _) (by nofun) (by nofun)).bind fun _ => ?_
  refine (forward_step (invoke_answers _ _) (by nofun) (by nofun)).bind fun _ => ?_
  refine (forward_step (invoke_answers _ _) (by nofun) (by nofun)).bind fun _ => ?_
  refine forward_set.bind fun _ => ?_
  refine (forward_step (invoke_answers _ _) (by nofun) (by nofun)).bind fun _ => ?_
  refine (forward_step (invoke_answers _ _) (by nofun) (by nofun)).bind fun _ => ?_
  refine (forward_step requireQueuePolicy_answers (by nofun) (by nofun)).bind fun compatible => ?_
  refine .ite (fun _ => .ret fun _ hs => hs) fun _ => ?_
  exact (forward_step (invoke_answers _ _) (by nofun) (by nofun)).bind fun _ => forward_set

theorem switchToCandidate_forward : KeepsForward request (switchToCandidate c request) := by
  unfold switchToCandidate
  refine (forward_step (invoke_answers _ _) (by nofun) (by nofun)).bind fun _ => ?_
  refine forward_set.bind fun _ => ?_
  refine (forward_step requireOldClaimsZero_answers (by nofun) (by nofun)).bind fun _ => ?_
  have hslots : Operation.switchGateway request.candidateSlot ≠ .switchGateway request.oldSlot :=
    fun h => request.distinct_slots (Operation.switchGateway.inj h).symm
  refine (forward_step switchGateway_answers hslots (by nofun)).bind fun _ => ?_
  exact forward_set.bind fun _ => now_triple.bind fun _ => forward_set

theorem afterSwitch_forward : KeepsForward request (afterSwitch c request) := by
  unfold afterSwitch
  refine (forward_step activateCandidate_answers (by nofun) (by nofun)).bind fun _ => ?_
  refine forward_set.bind fun _ => ?_
  refine (forward_step (invoke_answers _ _) (by nofun) (by nofun)).bind fun _ => ?_
  refine (forward_step (invoke_answers _ _) (by nofun) (by nofun)).bind fun _ => ?_
  refine (forward_step (invoke_answers _ _) (by nofun) (by nofun)).bind fun _ => ?_
  refine Triple.bind (Q := fun _ => On fun _ => Forward request) (.read fun _ hs => hs) fun s => ?_
  exact .ite (fun _ => forward_step (invoke_answers _ _) (by nofun) (by nofun)) fun _ => .ret fun _ hs => hs

/-- An abort calls nothing that a rollback guards. -/
theorem abortBeforeSwitch_forward {p : Progress} {M : Trace} :
    Triple (On fun _ => Forward request) (abortBeforeSwitch c request p)
      (fun _ => On fun _ => Forward request) (Stopped (W := W) M fun _ => Ordered request) := by
  have hstep : ∀ {needed : Bool} {name : DeploymentStepName} {operation : Operation}
      {action : Action W Unit}, Answers operation action (fun _ => true) →
      operation ≠ .switchGateway request.oldSlot → operation ≠ .activateOldWorkers →
      Triple (On fun _ => Forward request) (recoverIf c request needed name action)
        (fun _ => On fun _ => Forward request) (Stopped M fun _ => Ordered request) :=
    fun h hop hop' => recoverIf_triple (J := fun _ _ => Forward request) h
      (fun _ _ _ _ hj => hj.concat hop hop') (fun _ _ _ _ hj => hj.concat hop hop')
      (fun _ _ _ hj => hj) fun _ _ _ hj => hj.ordered
  unfold abortBeforeSwitch
  refine (hstep (invoke_answers _ _) (by nofun) (by nofun)).bind fun _ => ?_
  refine (hstep (invoke_answers _ _) (by nofun) (by nofun)).bind fun _ => ?_
  exact (hstep (invoke_answers _ _) (by nofun) (by nofun)).bind fun _ => .ret fun _ hs => hs

theorem routeOld_routed {generation : Int} {M : Trace} :
    Triple (On fun _ => Forward request) (routeOld c request generation)
      (fun _ => On fun _ => Routed request) (Stopped (W := W) M fun _ => Ordered request) := by
  refine Triple.attempt (F := Stopped (fun _ => Routed request) fun _ => Ordered request) ?_
    fun e => ?_
  · refine Triple.bind (Q := fun _ => On fun _ => Routed request) ?_ fun _ => .ret fun _ hs => hs
    exact run_triple (J := fun _ _ => Routed request) switchGateway_answers
      (fun _ _ _ _ hj => hj.route rfl) (fun _ _ _ hj => hj.route rfl)
      (fun _ _ _ hj => hj.ordered) fun _ _ hj => hj.ordered
  · cases e with
    | stepFailed => exact .ret fun _ hs => hs
    | invalidRecord => exact .raise fun _ hs => hs

/-- **A rollback** routes to the old slot and activates the old workers, in this order. -/
theorem rollbackAfterSwitch_reactivated {generation epoch : Int} {paused : Bool} {M : Trace} :
    Triple (On fun _ => Forward request) (rollbackAfterSwitch c request generation epoch paused)
      (fun _ => On fun _ => Reactivated request)
      (Stopped (W := W) M fun _ => Ordered request) := by
  have hrouted : ∀ (needed : Bool) {name : DeploymentStepName} {operation : Operation}
      {action : Action W Unit}, Answers operation action (fun _ => true) →
      operation ≠ .activateOldWorkers → operation ≠ .assertOldApiReady →
      Triple (On fun _ => Routed request) (recoverIf c request needed name action)
        (fun _ => On fun _ => Routed request) (Stopped M fun _ => Ordered request) :=
    fun _ _ _ _ h hop hop' => recoverIf_triple (J := fun _ _ => Routed request) h
      (fun _ _ _ _ hj => hj.concat hop hop') (fun _ _ _ _ hj => hj.concat hop hop')
      (fun _ _ _ hj => hj) fun _ _ _ hj => hj.ordered
  unfold rollbackAfterSwitch
  refine Triple.bind (Q := fun _ => On fun _ => Forward request) ?_ fun _ => ?_
  · exact recover_triple (J := fun _ _ => Forward request) (invoke_answers _ _)
      (fun _ _ _ _ hj => hj.concat (by nofun) (by nofun)) (fun _ _ _ hj => hj.concat (by nofun) (by nofun))
      fun _ _ _ hj => hj.ordered
  refine routeOld_routed.bind fun r => ?_
  refine (hrouted true (invoke_answers _ _) (by nofun) (by nofun)).bind fun started => ?_
  refine Triple.bind (Q := fun _ => On fun _ => Routed request) ?_ fun drained => ?_
  · exact .ite (fun _ => hrouted true waitCandidate_answers (by nofun) (by nofun))
      fun _ => .ret fun _ hs => hs
  refine (hrouted _ (invoke_answers _ _) (by nofun) (by nofun)).bind fun _ => ?_
  refine Triple.bind (Q := fun _ => On fun _ => Reactivated request) ?_ fun _ => ?_
  · exact recover_triple (J := fun _ _ => Reactivated request) activateOld_answers
      (fun _ _ _ _ hj => hj.activate rfl) (fun _ _ _ hj => hj.activate rfl)
      fun _ _ _ hj => hj.ordered
  refine Triple.bind (Q := fun _ => On fun _ => Reactivated request) ?_ fun _ => ?_
  · exact recover_triple (J := fun _ _ => Reactivated request) (invoke_answers _ _)
      (fun _ _ _ _ hj => hj.concat ⟨by nofun, by nofun, by nofun⟩)
      (fun _ _ _ hj => hj.concat ⟨by nofun, by nofun, by nofun⟩) fun _ _ _ hj => hj.ordered
  refine Triple.bind (Q := fun _ => On fun _ => Reactivated request) ?_ fun _ => .ret fun _ hs => hs
  exact recoverIf_triple (J := fun _ _ => Reactivated request) (invoke_answers _ _)
    (fun _ _ _ _ hj => hj.concat ⟨by nofun, by nofun, by nofun⟩)
    (fun _ _ _ _ hj => hj.concat ⟨by nofun, by nofun, by nofun⟩) (fun _ _ _ hj => hj)
    fun _ _ _ hj => hj.ordered

/-! ## `deploy` -/

/-- Whether a deployment was rolled back after the gateway switch. -/
def DeploymentOutcome.isRollback : DeploymentOutcome → Bool
  | .rolledBack | .rollbackFailed => true
  | .deployed | .aborted | .abortFailed => false

/-- The calls of a deployment that returned. -/
def Ended (request : BlueGreenDeploymentRequest) (outcome : DeploymentOutcome)
    (j : List OperationCall) : Prop :=
  if outcome.isRollback = true then Reactivated request j else Forward request j

theorem result_triple {I : Trace} {outcome : DeploymentOutcome}
    {gateway : Option GatewayRoutingGeneration} {epoch : Option Int} {switchedAt : Option Instant}
    {E : Interruption → DeployState W → Prop} :
    Triple (On I) (result c request outcome gateway epoch switchedAt)
      (fun r s => r.outcome = outcome ∧ On I s) E :=
  Triple.bind (Q := fun _ => On I) (.read fun _ hs => hs) fun _ => .ret fun _ hs => ⟨rfl, hs⟩

theorem contain_ended {M : Trace} :
    Triple (On fun _ => Forward request) (contain c request)
      (fun r => On fun _ => Ended request r.outcome)
      (Stopped (W := W) M fun _ => Ordered request) := by
  unfold contain
  refine Triple.bind (Q := fun _ => On fun _ => Forward request) (.read fun _ hs => hs) fun s => ?_
  dsimp only
  split
  · refine abortBeforeSwitch_forward.bind fun ok => result_triple.post fun r s hs => ?_
    obtain ⟨hout, hj⟩ := hs
    cases ok <;> simp only [On, Ended, hout] <;> exact hj
  · refine rollbackAfterSwitch_reactivated.bind fun ok => result_triple.post fun r s hs => ?_
    obtain ⟨hout, hj⟩ := hs
    obtain ⟨ok, gateway⟩ := ok
    cases ok <;> simp only [On, Ended, hout] <;> exact hj

theorem deploy_ended : Triple (On fun _ => Forward request) (deploy c request)
    (fun r => On fun _ => Ended request r.outcome)
    (fun (_ : Interruption) => On (W := W) fun _ => Ordered request) := by
  refine Triple.attempt (F := Stopped (fun _ => Forward request) fun _ => Ordered request) ?_
    fun e => ?_
  · refine beforeSwitch_forward.bind fun _ => switchToCandidate_forward.bind fun _ =>
      afterSwitch_forward.bind fun _ => ?_
    refine Triple.bind (Q := fun _ => On fun _ => Forward request) (.read fun _ hs => hs) fun s => ?_
    refine result_triple.post fun r s hs => ?_
    obtain ⟨hout, hj⟩ := hs
    simp only [On, Ended, hout]
    exact hj
  · cases e with
    | stepFailed =>
      refine (contain_ended (M := fun _ => Ordered request)).conseq (fun _ hs => hs)
        (fun _ _ hs => hs) fun e s he => ?_
      cases e <;> exact he
    | invalidRecord => exact .raise fun _ hs => hs

/-- **When a rollback is safe.** A guarded rollback is safe in every run; a deployment that
returned was safe exactly if it was not rolled back or its rollback was guarded. -/
theorem rollback_safe_iff (c : BlueGreenChoreographer W) (request : BlueGreenDeploymentRequest)
    (w : W) :
    (Guarded (deploy c request { world := w }).2.journal →
      SafeRollback request (deploy c request { world := w }).2.journal) ∧
    ∀ r s, deploy c request { world := w } = (.ok r, s) →
      (SafeRollback request s.journal ↔ (r.outcome.isRollback = true → Guarded s.journal)) := by
  have hstart : On (fun _ => Forward request) ({ world := w } : DeployState W) :=
    ⟨List.Pairwise.nil, fun ⟨_, hk, _⟩ => (nomatch hk), fun ⟨_, hk, _⟩ => (nomatch hk)⟩
  obtain ⟨hok, herror⟩ := deploy_ended (c := c) _ hstart
  have hended : ∀ {outcome j}, Ended request outcome j → Ordered request j := fun h => by
    unfold Ended at h
    split at h
    · exact h.ordered
    · exact h.ordered
  refine ⟨fun hguarded => ?_, fun r s h => ?_⟩
  · rcases h : deploy c request { world := w } with ⟨e | r, s⟩
    · rw [h] at hguarded
      exact (herror e s h : Ordered request s.journal).safe hguarded
    · rw [h] at hguarded
      exact (hended (hok r s h)).safe hguarded
  · have hj : Ended request r.outcome s.journal := hok r s h
    constructor
    · intro hsafe hrollback
      unfold Ended at hj
      rw [if_pos hrollback] at hj
      exact hsafe.guarded hj.activated hj.routed
    · intro hguarded
      by_cases hrollback : r.outcome.isRollback = true
      · exact (hended hj).safe (hguarded hrollback)
      · unfold Ended at hj
        rw [if_neg hrollback] at hj
        intro before k after hsplit
        have hk : k ∈ s.journal := by
          rw [hsplit]
          exact List.mem_append_right _ (List.mem_cons_self ..)
        exact ⟨fun hop => absurd ⟨k, hk, hop⟩ hj.not_activated,
          fun hop => absurd ⟨k, hk, hop⟩ hj.not_routed⟩

instance : Decidable (Contains k) := by
  unfold Contains
  infer_instance

instance : Decidable (Confirms k) := by
  unfold Confirms
  infer_instance

/-- The smoke test of the candidate fails, and so do the readiness of the old API, the drain
of the candidate and its fencing. -/
def Sample.unguarded : BlueGreenChoreographer Unit :=
  choreographer (operations [.runStableOriginSmoke, .assertOldApiReady,
    .beginCandidateWorkersDraining, .fenceCandidateAndWaitForLeaseExpiry])

/-- A rollback routes to a slot that is not ready, and runs two sets of workers. -/
theorem unguarded_rollback_unsafe :
    let r := deploy Sample.unguarded Sample.release { world := () }
    r.1.toOption.map (·.outcome) = some .rollbackFailed ∧
      Called (.switchGateway .blue) r.2.journal ∧ (∀ d ∈ r.2.journal, ¬ Confirms d) ∧
      Called .activateOldWorkers r.2.journal ∧ (∀ d ∈ r.2.journal, ¬ Contains d) ∧
      ¬ SafeRollback Sample.release r.2.journal := by
  intro r
  have hrouted : Called (.switchGateway .blue) r.2.journal := by
    unfold Called
    decide
  have hactivated : Called .activateOldWorkers r.2.journal := by
    unfold Called
    decide
  have hcontained : ∀ d ∈ r.2.journal, ¬ Contains d := by decide
  refine ⟨by decide, hrouted, by decide, hactivated, hcontained, fun hsafe => ?_⟩
  obtain ⟨d, hd, hcontains⟩ := (hsafe.guarded hactivated hrouted).contained
  exact hcontained d hd hcontains

end ProofAgent.Deployment
