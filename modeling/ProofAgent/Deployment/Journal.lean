import ProofAgent.Deployment.Choreography

/-! # What a deployment has called

A step calls one operation and sees whether the call succeeded; the clock and the step
records play no part in what is called next, unless a record is refused. The rules
below follow the journal and the local variables of `deploy` through a step. -/
namespace ProofAgent.Deployment

open Base

variable {W α β : Type} {c : BlueGreenChoreographer W} {request : BlueGreenDeploymentRequest}

/-- A condition on the local variables and the journal. -/
abbrev Trace := Progress → List OperationCall → Prop

/-- A condition on the parts of the state that the steps are about. -/
def On (I : Trace) (s : DeployState W) : Prop := I s.progress s.journal

/-- What holds after a step has failed and after a record was refused. -/
def Stopped (K L : Trace) : Interruption → DeployState W → Prop
  | .stepFailed, s => On K s
  | .invalidRecord, s => On L s

theorem Stopped.mono {K K' L L' : Trace} (hK : ∀ p j, K p j → K' p j) (hL : ∀ p j, L p j → L' p j)
    {e : Interruption} {s : DeployState W} (h : Stopped K L e s) : Stopped K' L' e s := by
  cases e with
  | stepFailed => exact hK _ _ h
  | invalidRecord => exact hL _ _ h

/-! ## Actions -/

/-- Whether a call was answered as asked for. -/
def answered (accepted : α → Bool) : Except OperationFailure α → Bool
  | .ok a => accepted a
  | .error _ => false

/-- An action that makes one call of an operation, which succeeds as `accepted` says. -/
def Answers (operation : Operation) (action : Action W α) (accepted : α → Bool) : Prop :=
  ∀ s : DeployState W, ∃ effect, (action s).2.progress = s.progress ∧
    (action s).2.journal = s.journal ++ [⟨operation, effect, answered accepted (action s).1⟩]

theorem call_answers (operation : Operation) (port : OperationPort W α) (accepts : α → Bool) :
    Answers operation (call operation port accepts) accepts := by
  intro s
  refine ⟨(port s.world).1.tookEffect, rfl, ?_⟩
  unfold call
  rcases hr : (port s.world).1.result with f | a <;> simp only [hr] <;> rfl

theorem invoke_answers (operation : Operation) (port : OperationPort W Unit) :
    Answers operation (invoke operation port) fun _ => true :=
  call_answers operation port fun _ => true

/-- What is made of an answer without another call. -/
theorem Answers.bind {operation : Operation} {action : Action W α} {accepted : α → Bool}
    {accepted' : β → Bool} {f : α → Action W β} (h : Answers operation action accepted)
    (hf : ∀ a s, (f a s).2 = s ∧ answered accepted' (f a s).1 = accepted a) :
    Answers operation (action >>= f) accepted' := by
  intro s
  obtain ⟨effect, hprogress, hjournal⟩ := h s
  refine ⟨effect, ?_⟩
  rw [Effect.run_bind]
  rcases ha : action s with ⟨e | a, t⟩
  · rw [ha] at hprogress hjournal
    exact ⟨hprogress, hjournal⟩
  · rw [ha] at hprogress hjournal
    obtain ⟨hsame, hanswer⟩ := hf a t
    rw [hsame, hanswer]
    exact ⟨hprogress, hjournal⟩

/-- A check of what was answered. -/
theorem require_answer {p : Prop} [Decidable p] {e : OperationFailure} {ok : Bool}
    (hp : decide p = ok) (s : DeployState W) :
    (Effect.require p e s).2 = s ∧ answered (fun _ => true) (Effect.require p e s).1 = ok := by
  subst hp
  unfold Effect.require
  split
  · rename_i hp
    rw [decide_eq_true hp]
    exact ⟨rfl, rfl⟩
  · rename_i hp
    rw [decide_eq_false hp]
    exact ⟨rfl, rfl⟩

/-- A check of what was answered, which is then returned. -/
theorem require_return_answer {p : Prop} [Decidable p] {e : OperationFailure} {a : α}
    {accepted : α → Bool} {ok : Bool} (htrue : p → accepted a = ok) (hfalse : ¬ p → ok = false)
    (s : DeployState W) :
    ((Effect.require p e >>= fun _ => pure a) s).2 = s ∧
      answered accepted ((Effect.require p e >>= fun _ => pure a) s).1 = ok := by
  by_cases hp : p
  · rw [Effect.require_then _ hp]
    exact ⟨rfl, htrue hp⟩
  · rw [Effect.require_not_then _ hp]
    exact ⟨rfl, (hfalse hp).symm⟩

theorem requireQueuePolicy_answers :
    Answers .queueContractsAreBidirectionallyCompatible (requireQueuePolicy c request) id :=
  (call_answers _ _ _).bind fun compatible => require_return_answer (fun _ => rfl) fun hp => by
    rw [not_or] at hp
    exact Bool.eq_false_iff.mpr hp.1

theorem requireOldClaimsZero_answers :
    Answers .waitOldClaimsZero (requireOldClaimsZero c request) fun _ => true :=
  (call_answers _ _ _).bind fun drained => require_answer (by cases drained <;> rfl)

theorem waitCandidate_answers :
    Answers .waitCandidateClaimsZero (waitCandidate c request) fun _ => true :=
  (call_answers _ _ _).bind fun drained => require_answer (by cases drained <;> rfl)

theorem activateOld_answers {authorityEpoch : Int} :
    Answers .activateOldWorkers (activateOld c authorityEpoch) fun _ => true :=
  (call_answers _ _ _).bind fun _ => require_answer rfl

theorem activateCandidate_answers :
    Answers .activateCandidateWorkers (activateCandidate c request) fun _ => true :=
  (call_answers _ _ _).bind fun _ =>
    require_return_answer (fun hp => (decide_eq_true hp).symm) decide_eq_false

theorem attempt_answers {operation : Operation} {action : Action W α} {accepted : α → Bool}
    {handler : OperationFailure → Action W α} (h : Answers operation action accepted)
    (hraise : ∀ e, ∃ e', handler e = Effect.raise e') :
    Answers operation (Effect.attempt action handler) accepted := by
  intro s
  obtain ⟨effect, hprogress, hjournal⟩ := h s
  refine ⟨effect, ?_⟩
  unfold Effect.attempt
  rcases ha : action s with ⟨e | a, t⟩ <;> rw [ha] at hprogress hjournal
  · obtain ⟨e', he⟩ := hraise e
    dsimp only
    rw [he]
    exact ⟨hprogress, hjournal⟩
  · exact ⟨hprogress, hjournal⟩

theorem switchGateway_answers {target : DeploymentSlot} {generation : Int} :
    Answers (.switchGateway target) (switchGateway c request target generation) fun _ => true := by
  have hcall := call_answers (.switchGateway target)
    (c.switch target (request.binding.bindingSha256 c.runtime) generation)
    (isRequested c request target generation)
  refine Answers.bind (attempt_answers hcall fun e => ?_)
    fun result => require_return_answer (·.symm) (Bool.eq_false_iff.mpr ·)
  cases e <;> exact ⟨_, rfl⟩

/-! ## Steps -/

section
variable {name : DeploymentStepName} {operation : Operation} {action : Action W α}
  {accepted : α → Bool} {I K L : Trace} {J : α → Trace}

theorem now_triple {E : Interruption → DeployState W → Prop} :
    Triple (On I) (now c) (fun _ => On I) E := by
  intro s hs
  refine ⟨fun a s' h => ?_, fun e s' h => (nomatch h)⟩
  cases h
  exact hs

/-- A step record says nothing about the journal. -/
theorem appendStep_triple {startedAt : Instant} {status : DeploymentStepStatus}
    {errorCode : Option String} :
    Triple (On I) (appendStep c request name startedAt status errorCode) (fun _ => On I)
      (Stopped (fun _ _ => False) I) := by
  refine now_triple.bind fun completedAt => ?_
  refine Triple.bind (Q := fun _ => On I) ?_ fun _ => .modify fun _ hs => hs
  exact .require (fun _ _ hs => hs) fun _ _ hs => hs

/-- **A step** makes its call, and goes on or stops. -/
theorem run_triple (h : Answers operation action accepted)
    (hok : ∀ p j e a, I p j → J a p (j ++ [⟨operation, e, accepted a⟩]))
    (hfail : ∀ p j e, I p j → K p (j ++ [⟨operation, e, false⟩]))
    (hJ : ∀ a p j, J a p j → L p j) (hK : ∀ p j, K p j → L p j) :
    Triple (On I) (run c request name action) (fun a => On (J a)) (Stopped K L) := by
  refine now_triple.bind fun startedAt => ?_
  have houtcome : Triple (On I) (outcome action)
      (fun r s => match r with | .ok a => On (J a) s | .error _ => On K s) (Stopped K L) := by
    intro s hs
    obtain ⟨effect, hprogress, hjournal⟩ := h s
    refine ⟨fun r s' hr => ?_, fun e s' hr => (nomatch hr)⟩
    cases hr
    rcases ha : action s with ⟨f | a, t⟩
    · rw [ha] at hprogress hjournal
      change K t.progress t.journal
      rw [hprogress, hjournal]
      exact hfail _ _ _ hs
    · rw [ha] at hprogress hjournal
      change J a t.progress t.journal
      rw [hprogress, hjournal]
      exact hok _ _ _ _ hs
  refine houtcome.bind fun r => ?_
  cases r with
  | ok a =>
    refine Triple.bind (Q := fun _ => On (J a)) ?_ fun _ => .ret fun _ hs => hs
    exact appendStep_triple.conseq (fun _ hs => hs) (fun _ _ hs => hs)
      fun _ _ => Stopped.mono (fun _ _ h => h.elim) (hJ a)
  | error f =>
    refine Triple.bind (Q := fun _ => On K) ?_ fun _ => .raise fun _ hs => hs
    exact appendStep_triple.conseq (fun _ hs => hs) (fun _ _ hs => hs)
      fun _ _ => Stopped.mono (fun _ _ h => h.elim) hK

/-- **A recovery step** goes on in either case. -/
theorem recover_triple {J : Bool → Trace} {M : Trace} (h : Answers operation action accepted)
    (hok : ∀ p j e a, I p j → J true p (j ++ [⟨operation, e, accepted a⟩]))
    (hfail : ∀ p j e, I p j → J false p (j ++ [⟨operation, e, false⟩]))
    (hJ : ∀ b p j, J b p j → L p j) :
    Triple (On I) (recover c request name action) (fun b => On (J b)) (Stopped M L) := by
  refine Triple.attempt (F := Stopped (J false) L) ?_ fun e => ?_
  · exact (run_triple h hok hfail (fun _ => hJ true) (hJ false)).bind fun _ => .ret fun _ hs => hs
  · cases e with
    | stepFailed => exact .ret fun _ hs => hs
    | invalidRecord => exact .raise fun _ hs => hs

theorem recoverIf_triple {action : Action W Unit} {accepted : Unit → Bool} {needed : Bool}
    {J : Bool → Trace} {M : Trace} (h : Answers operation action accepted)
    (hok : needed = true → ∀ p j e, I p j → J true p (j ++ [⟨operation, e, accepted ()⟩]))
    (hfail : needed = true → ∀ p j e, I p j → J false p (j ++ [⟨operation, e, false⟩]))
    (hskip : needed = false → ∀ p j, I p j → J true p j) (hJ : ∀ b p j, J b p j → L p j) :
    Triple (On I) (recoverIf c request needed name action) (fun b => On (J b)) (Stopped M L) := by
  cases needed with
  | true => exact recover_triple h (fun p j e _ => hok rfl p j e) (hfail rfl) hJ
  | false => exact .ret fun s hs => hskip rfl _ _ hs

theorem setProgress_triple {J : Trace} {f : Progress → Progress}
    {E : Interruption → DeployState W → Prop} (h : ∀ p j, I p j → J (f p) j) :
    Triple (On I) (setProgress f) (fun _ => On J) E :=
  .modify fun _ hs => h _ _ hs

end

end ProofAgent.Deployment
