import ProofAgent.Base.LeastRecentlyServed
import ProofAgent.RunQueue.Growth

/-! # Fair claims

`run_operator_fairness` is the memory of the claims made: the last claim time of
an operator is the time of its latest successful claim. A claim takes the
first run of an operator that may come before every other waiting operator,
which is the rule of serving the least recently served. -/
namespace ProofAgent

open Base RunQueueRepository

variable {rt : Runtime} {db db' : Database}

/-! ## The order of the candidates -/

theorem createdBefore_iff {r s : RunRow} : createdBefore r s = true ↔
    r.createdAt < s.createdAt ∨ (r.createdAt = s.createdAt ∧ r.runId < s.runId) := by
  simp [createdBefore]

theorem createdBefore_trans {r s o : RunRow} (h : createdBefore r s = true)
    (h' : createdBefore s o = true) : createdBefore r o = true := by
  rw [createdBefore_iff] at *
  rcases h with h | ⟨h, hid⟩
  · rcases h' with h' | ⟨h', _⟩
    · exact .inl (lt_trans h h')
    · exact .inl (h' ▸ h)
  · rcases h' with h' | ⟨h', hid'⟩
    · exact .inl (h ▸ h')
    · exact .inr ⟨h.trans h', String.lt_trans hid hid'⟩

theorem createdBefore_total {r s : RunRow} (hne : r.runId ≠ s.runId) :
    createdBefore r s = true ∨ createdBefore s r = true := by
  rw [createdBefore_iff, createdBefore_iff]
  rcases lt_trichotomy r.createdAt s.createdAt with h | h | h
  · exact .inl (.inl h)
  · by_cases hid : r.runId < s.runId
    · exact .inl (.inr ⟨h, hid⟩)
    · exact .inr (.inr ⟨h.symm, Std.lt_of_le_of_ne hid (Ne.symm hne)⟩)
  · exact .inr (.inl h)

theorem claimBefore_total (q : QueueTables) (r s : RunRow) :
    claimBefore q r s = true ∨ claimBefore q s r = true := by
  unfold claimBefore
  cases lastClaimedAt q r.submittedBy <;> cases lastClaimedAt q s.submittedBy
  all_goals grind [createdBefore]

theorem claimBefore_trans {q : QueueTables} {r s o : RunRow} (h : claimBefore q r s = true)
    (h' : claimBefore q s o = true) : claimBefore q r o = true := by
  unfold claimBefore at *
  cases hr : lastClaimedAt q r.submittedBy <;> cases hs : lastClaimedAt q s.submittedBy <;>
    cases ho : lastClaimedAt q o.submittedBy <;> simp only [hr, hs, ho] at h h' ⊢
  all_goals grind [createdBefore]

/-- A list of runs has a first one among those that satisfy a condition. -/
theorem exists_first {p : RunRow → Prop} {rows : List RunRow} (h : ∃ r ∈ rows, p r) :
    ∃ r ∈ rows, p r ∧ ∀ s ∈ rows, p s → createdBefore s r = false := by
  induction rows with
  | nil => simp at h
  | cons x rows ih =>
    by_cases hrest : ∃ r ∈ rows, p r
    · obtain ⟨r, hr, hp, hfirst⟩ := ih hrest
      by_cases hx : p x ∧ createdBefore x r = true
      · refine ⟨x, by simp, hx.1, fun s hs hps => ?_⟩
        rw [Bool.eq_false_iff]
        intro hsx
        rcases List.mem_cons.mp hs with rfl | hs
        · simp [createdBefore] at hsx
        · have := hfirst s hs hps
          rw [createdBefore_trans hsx hx.2] at this
          cases this
      · refine ⟨r, by simp [hr], hp, fun s hs hps => ?_⟩
        rcases List.mem_cons.mp hs with rfl | hs
        · rw [Bool.eq_false_iff]
          exact fun hb => hx ⟨hps, hb⟩
        · exact hfirst s hs hps
    · obtain ⟨r, hr, hp⟩ := h
      rcases List.mem_cons.mp hr with rfl | hr
      · refine ⟨r, by simp, hp, fun s hs hps => ?_⟩
        rcases List.mem_cons.mp hs with rfl | hs
        · simp [createdBefore]
        · exact absurd ⟨s, hs, hps⟩ hrest
      · exact absurd ⟨r, hr, hp⟩ hrest

/-- The operator has a run in the queue. -/
def Waiting (q : QueueTables) (operator : String) : Prop :=
  ∃ r ∈ q.runs.rows, r.submittedBy = operator ∧ r.state = .queued

/-- A waiting operator has a candidate for the next claim. -/
theorem Waiting.head {q : QueueTables} {operator : String} (h : Waiting q operator) :
    ∃ r ∈ q.runs.rows, r.submittedBy = operator ∧ isOperatorHead q r = true := by
  obtain ⟨r, hr, ⟨hop, hqueued⟩, hfirst⟩ := exists_first h
  refine ⟨r, hr, hop, ?_⟩
  simp only [isOperatorHead, Bool.and_eq_true, decide_eq_true_eq, List.all_eq_true,
    Bool.not_eq_true', Bool.and_eq_false_iff]
  refine ⟨hqueued, fun s hs => ?_⟩
  by_cases hp : s.submittedBy = operator ∧ s.state = .queued
  · exact .inr (hfirst s hs hp)
  · left
    simp only [decide_eq_false_iff_not]
    rw [hop]
    tauto

theorem fairClaimSelect_first {q : QueueTables} {row s : RunRow}
    (h : fairClaimSelect q = some row) (hs : s ∈ q.runs.rows) (hhead : isOperatorHead q s = true) :
    claimBefore q row s = true := by
  have : Std.Total (fun r s : RunRow => claimBefore q r s = true) := ⟨claimBefore_total q⟩
  have : IsTrans RunRow (fun r s => claimBefore q r s = true) :=
    ⟨fun _ _ _ => claimBefore_trans⟩
  have hsorted := List.pairwise_insertionSort (fun r s : RunRow => claimBefore q r s = true)
    (q.runs.rows.filter (isOperatorHead q))
  have hmem : s ∈ (q.runs.rows.filter (isOperatorHead q)).insertionSort
      fun r s => claimBefore q r s = true := by
    rw [List.mem_insertionSort, List.mem_filter]
    exact ⟨hs, hhead⟩
  unfold fairClaimSelect at h
  cases hsort : (q.runs.rows.filter (isOperatorHead q)).insertionSort
      fun r s => claimBefore q r s = true with
  | nil => rw [hsort] at h; cases h
  | cons x rest =>
    rw [hsort] at h hsorted hmem
    cases h
    rcases List.mem_cons.mp hmem with rfl | hmem
    · rcases claimBefore_total q s s with h | h <;> exact h
    · exact (List.pairwise_cons.mp hsorted).1 s hmem

/-- **The selected run's operator** may come before every waiting one. -/
theorem fairClaimSelect_precedes {q : QueueTables} {row : RunRow} {operator : String}
    (h : fairClaimSelect q = some row) (hwait : Waiting q operator) :
    mayPrecede (lastClaimedAt q row.submittedBy) (lastClaimedAt q operator) := by
  obtain ⟨s, hs, rfl, hhead⟩ := hwait.head
  have hbefore := fairClaimSelect_first h hs hhead
  unfold claimBefore at hbefore
  split at hbefore
  · rename_i hr _
    rw [hr]; trivial
  · cases hbefore
  · rename_i hr _
    rw [hr]; trivial
  · rename_i a b hr hs
    rw [hr, hs]
    simp only [Bool.or_eq_true, Bool.and_eq_true, decide_eq_true_eq] at hbefore
    rcases hbefore with hlt | ⟨heq, _⟩
    · exact le_of_lt hlt
    · exact le_of_eq heq

/-! ## The claims of a history -/

/-- The time and the operator of the claim that a call makes, if it makes one. -/
def claimOf (rt : Runtime) (db : Database) : Call → Option (Instant × String)
  | .queue (.claimNext c) =>
    match claimNext rt c db with
    | .ok (some claim, _) => some (c.now, claim.runRequest.operatorSubject)
    | _ => none
  | _ => none

/-- The claims of a history, the latest first. -/
def claimsMade (rt : Runtime) : Database → List Call → List (Instant × String)
  | _, [] => []
  | db, call :: calls => claimsMade rt (step (exec rt) db call) calls ++ (claimOf rt db call).toList

theorem claimsMade_append (rt : Runtime) (db : Database) (first rest : List Call) :
    claimsMade rt db (first ++ rest) =
      claimsMade rt (after (exec rt) db first) rest ++ claimsMade rt db first := by
  induction first generalizing db with
  | nil => simp [claimsMade]
  | cons call first ih => simp [claimsMade, ih]

theorem claimsMade_singleton (db : Database) (call : Call) :
    claimsMade rt db [call] = (claimOf rt db call).toList := rfl

/-- What is remembered of the claims made. -/
def Remembers (q : QueueTables) (log : List (Instant × String)) : Prop :=
  ∀ operator, lastClaimedAt q operator = lastServed log operator

theorem lastClaimedAt_congr {q q' : QueueTables}
    (h : q'.runOperatorFairness = q.runOperatorFairness) (operator : String) :
    lastClaimedAt q' operator = lastClaimedAt q operator := by
  rw [lastClaimedAt, lastClaimedAt, h]

/-- A claim sets the time of its operator. -/
theorem lastClaimedAt_countClaim (q : QueueTables) (operator other : String) (now : Instant) :
    lastClaimedAt (countClaim operator now q) other =
      if operator = other then some now else lastClaimedAt q other := by
  rw [lastClaimedAt, countClaim, Table.find?_upsert]
  by_cases h : other = operator
  · subst h
    rw [if_pos rfl, if_pos rfl]
    cases q.runOperatorFairness.find? other <;> rfl
  · rw [if_neg h, if_neg (Ne.symm h)]
    rfl

/-- A call that makes a claim takes the selected run of its operator. -/
theorem claimOf_some {call : Call} {t : Instant} {operator : String}
    (hinv : QueueInvariant rt db.queue) (h : claimOf rt db call = some (t, operator)) :
    ∃ row attempt, Claimed rt db.queue (step (exec rt) db call).queue row attempt t ∧
      row.submittedBy = operator := by
  unfold claimOf at h
  split at h
  · split at h
    · rename_i _ c _ claim db' hok
      cases h
      obtain ⟨_, ⟨hnone, _⟩ | ⟨row, claim', hsome, hc, hrequest, _⟩⟩ := claimNext_ok hinv hok
      · cases hnone
      · cases hsome
        have hstep : step (exec rt) db (.queue (.claimNext c)) = db' :=
          step_ok (o := .claim (some claim)) (by simp [exec, QueueCall.exec, hok, reply, Except.map])
        obtain ⟨hrow, _⟩ := fairClaimSelect_some hc.selected
        refine ⟨row, _, hstep ▸ hc, ?_⟩
        rw [hrequest]
        exact (hinv.runs row hrow).operator
    · cases h
  · cases h

/-- A call that makes no claim leaves the memory of the claims alone. -/
theorem claimOf_none {call : Call} {o : Reply} (hinv : QueueInvariant rt db.queue)
    (hok : exec rt call db = .ok (o, db')) (h : claimOf rt db call = none) :
    db'.queue.runOperatorFairness = db.queue.runOperatorFairness := by
  cases call with
  | queue call =>
    cases call with
    | admitRun request =>
      rw [exec, QueueCall.exec] at hok
      obtain ⟨r, hok, _⟩ := reply_ok hok
      rw [(admit_chain hok).2]
    | activateRole slot executorId now =>
      obtain ⟨r, hok, _⟩ := reply_ok hok
      rw [(activateRole_ok hok).2.2.2.2.1.frame]
    | claimNext c =>
      obtain ⟨claim, hok, _⟩ := reply_ok hok
      obtain ⟨_, ⟨_, rfl, _⟩ | ⟨row, claim', rfl, _⟩⟩ := claimNext_ok hinv hok
      · rfl
      · simp [claimOf, hok] at h
    | heartbeat claim now lease =>
      obtain ⟨r, hok, _⟩ := reply_ok hok
      obtain ⟨⟨_, _, _, hr⟩, _⟩ := heartbeat_ok hinv hok
      rw [hr.frame]
    | markFinalizing claim now =>
      obtain ⟨r, hok, _⟩ := reply_ok hok
      obtain ⟨⟨_, _, hm, _⟩, _⟩ := markFinalizing_ok hinv hok
      rw [hm.moved.frame]
    | requestCancel runId operator now =>
      obtain ⟨r, hok, _⟩ := reply_ok hok
      obtain ⟨_, _, _, ⟨rfl, _⟩ | ⟨hw, _⟩ | ⟨_, hm, _⟩⟩ := requestCancel_ok hinv hok
      · rfl
      · rw [hw.frame]
      · rw [hm.frame]
    | commitTerminalFailure claim target failure now =>
      obtain ⟨r, hok, _⟩ := reply_ok hok
      obtain ⟨_, _, hm, _⟩ := commitTerminalFailure_ok hinv hok
      rw [hm.moved.frame]
    | commitSuccess claim a now =>
      obtain ⟨r, hok, _⟩ := reply_ok hok
      obtain ⟨_, _, _, _, hm, _⟩ := commitSuccess_ok hinv hok
      rw [hm.moved.frame]
    | reapExpiredLeases now =>
      obtain ⟨n, hok, _⟩ := reply_ok hok
      rw [(reapExpiredLeases_ok hinv hok).2]
  | task call =>
    obtain ⟨r, _, hok⟩ := bind_ok hok
    cases pure_ok hok
    rfl
  | createTask a =>
    rw [exec] at hok
    obtain ⟨r, hok, _⟩ := reply_ok hok
    rw [(taskCreate_chain hok).2]
  | dispatch intent owner agent now admission turns =>
    obtain ⟨r, hok, _⟩ := reply_ok hok
    rw [(dispatch_chain hok).2]
  | submit agent admission submission now =>
    rw [exec] at hok
    obtain ⟨r, hok, _⟩ := reply_ok hok
    rw [(submit_chain hok).2]
  | outside call => rw [call.queue_eq hok]

theorem Remembers.step {log : List (Instant × String)} (hinv : QueueInvariant rt db.queue)
    (h : Remembers db.queue log) (call : Call) :
    Remembers (step (exec rt) db call).queue ((claimOf rt db call).toList ++ log) := by
  intro operator
  cases hclaim : claimOf rt db call with
  | some entry =>
    obtain ⟨t, claimed⟩ := entry
    obtain ⟨row, attempt, hc, rfl⟩ := claimOf_some hinv hclaim
    rw [hc.frame, lastClaimedAt_countClaim, Option.toList_some, List.singleton_append, lastServed]
    by_cases hop : row.submittedBy = operator
    · rw [if_pos hop, if_pos hop]
    · rw [if_neg hop, if_neg hop]
      exact h operator
  | none =>
    rw [Option.toList_none, List.nil_append, ← h operator]
    refine lastClaimedAt_congr ?_ operator
    cases hok : exec rt call db with
    | error e => rw [step_error hok]
    | ok r => rw [step_ok hok]; exact claimOf_none hinv hok hclaim

/-- **The database remembers the claims** of every history. -/
theorem history_remembers (calls : List Call) :
    Remembers (after (exec rt) Database.initial calls).queue
      (claimsMade rt Database.initial calls) := by
  induction calls using List.reverseRecOn with
  | nil => exact fun _ => rfl
  | append_singleton calls call ih =>
    have hstep := ih.step (Reachable.queue ⟨calls, rfl⟩) call
    rwa [after_append, claimsMade_append, claimsMade_singleton]

/-! ## Whole histories -/

/-- The claims of the history carry strictly increasing times. -/
def IncreasingClaims (rt : Runtime) (calls : List Call) : Prop :=
  Timed (claimsMade rt Database.initial calls)

instance (calls : List Call) : Decidable (IncreasingClaims rt calls) := by
  unfold IncreasingClaims Timed; infer_instance

/-- How the claims of a history treat the operators. -/
structure FairHistory (rt : Runtime) (calls : List Call) : Prop where
  /-- A claim takes the first of its operator's queued runs. -/
  in_order : ∀ first c rest claim db', calls = first ++ .queue (.claimNext c) :: rest →
    let q := (after (exec rt) Database.initial first).queue
    claimNext rt c (after (exec rt) Database.initial first) = .ok (some claim, db') →
      ∃ r ∈ q.runs.rows, r.runId = claim.runRequest.runId ∧ r.state = .queued ∧
        ∀ s ∈ q.runs.rows, s.submittedBy = r.submittedBy → s.state = .queued → s ≠ r →
          createdBefore r s = true
  /-- Between two claims of one operator, every operator that waits is served. -/
  alternate : ∀ first x middle y rest a b t t', calls = first ++ x :: (middle ++ y :: rest) →
    claimOf rt (after (exec rt) Database.initial first) x = some (t, a) →
    claimOf rt (after (exec rt) Database.initial (first ++ x :: middle)) y = some (t', a) →
    b ≠ a → Waiting (after (exec rt) Database.initial (first ++ x :: middle)).queue b →
      ∃ s, (s, b) ∈ claimsMade rt (after (exec rt) Database.initial (first ++ [x])) middle
  /-- While an operator waits and is not served, no other is served twice. -/
  once : ∀ first middle rest b, calls = first ++ (middle ++ rest) →
    (∀ made, made <+: middle →
      Waiting (after (exec rt) Database.initial (first ++ made)).queue b) →
    let claims := claimsMade rt (after (exec rt) Database.initial first) middle
    b ∉ claims.map Prod.snd → (claims.map Prod.snd).Nodup

theorem claim_precedes {calls : List Call} {call : Call} {t : Instant} {a b : String}
    (h : claimOf rt (after (exec rt) Database.initial calls) call = some (t, a))
    (hwait : Waiting (after (exec rt) Database.initial calls).queue b) :
    mayPrecede (lastServed (claimsMade rt Database.initial calls) a)
      (lastServed (claimsMade rt Database.initial calls) b) := by
  obtain ⟨row, attempt, hc, rfl⟩ := claimOf_some (Reachable.queue ⟨calls, rfl⟩) h
  rw [← history_remembers calls, ← history_remembers calls]
  exact fairClaimSelect_precedes hc.selected hwait

/-- The claims made while an operator waits are fair to it. -/
theorem claims_fairTo (first middle : List Call) {b : String}
    (hwait : ∀ made, made <+: middle →
      Waiting (after (exec rt) Database.initial (first ++ made)).queue b) :
    FairTo b (claimsMade rt Database.initial first)
      (claimsMade rt (after (exec rt) Database.initial first) middle) := by
  induction middle using List.reverseRecOn with
  | nil => trivial
  | append_singleton middle call ih =>
    have hrest := ih fun made hmade => hwait made (hmade.trans (List.prefix_append ..))
    rw [claimsMade_append, claimsMade_singleton, ← after_append]
    cases hclaim : claimOf rt (after (exec rt) Database.initial (first ++ middle)) call with
    | none => exact hrest
    | some entry =>
      obtain ⟨t, a⟩ := entry
      have hprec := claim_precedes hclaim (hwait middle (List.prefix_append ..))
      rw [claimsMade_append] at hprec
      exact ⟨hprec, hrest⟩

/-- **The queue is fair**, in every history whose claims carry increasing times. -/
theorem history_fair (rt : Runtime) (calls : List Call) (htimes : IncreasingClaims rt calls) :
    FairHistory rt calls where
  in_order := by
    intro first c rest claim db' _ q hclaim
    have hinv : QueueInvariant rt q := Reachable.queue ⟨first, rfl⟩
    obtain ⟨_, ⟨hnone, _⟩ | ⟨row, claim', hsome, hc, _⟩⟩ := claimNext_ok hinv hclaim
    · cases hnone
    cases hsome
    obtain ⟨hrow, hhead⟩ := fairClaimSelect_some hc.selected
    refine ⟨row, hrow, hc.same_run.symm.trans claim.same_run.symm, isOperatorHead_queued hhead,
      fun s hs hop hqueued hne => ?_⟩
    simp only [isOperatorHead, Bool.and_eq_true, List.all_eq_true] at hhead
    have hnot := hhead.2 s hs
    have hids : row.runId ≠ s.runId := fun he => hne (Table.eq_of_key hs hrow he.symm)
    rcases createdBefore_total hids with hb | hb
    · exact hb
    · simp [hqueued, hop, hb] at hnot
  alternate := by
    intro first x middle y rest a b t t' hcalls hx hy hne hwait
    subst hcalls
    have hlog : claimsMade rt Database.initial (first ++ x :: middle) =
        claimsMade rt (after (exec rt) Database.initial (first ++ [x])) middle ++
          (t, a) :: claimsMade rt Database.initial first := by
      rw [show first ++ x :: middle = (first ++ [x]) ++ middle by simp, claimsMade_append,
        claimsMade_append rt _ first [x], claimsMade_singleton, hx]
      rfl
    have htimed : Timed (claimsMade rt Database.initial (first ++ x :: middle)) := by
      have hall : first ++ x :: (middle ++ y :: rest) = (first ++ x :: middle) ++ y :: rest := by
        simp
      rw [IncreasingClaims, hall, claimsMade_append] at htimes
      exact (List.pairwise_append.mp htimes).2.1
    have hprec := claim_precedes hy hwait
    rw [hlog] at htimed hprec
    exact served_between hne htimed hprec
  once := by
    intro first middle rest b hcalls hwait claims hnot
    subst hcalls
    have htimed : Timed (claims ++ claimsMade rt Database.initial first) := by
      rw [IncreasingClaims, ← List.append_assoc, claimsMade_append, claimsMade_append rt _ first]
        at htimes
      exact (List.pairwise_append.mp htimes).2.1
    exact served_once htimed (claims_fairTo first middle hwait) hnot

/-- Alice has two runs in the queue before Bob comes, and yet Bob is served in between. -/
def twoOperators : List Call :=
  Sample.activated ++
    [.queue (.admitRun Sample.aliceFirst), .queue (.admitRun Sample.aliceSecond),
     .queue (.admitRun Sample.bob), .queue (.claimNext (Sample.claim "first" 1)),
     .queue (.claimNext (Sample.claim "second" 2)), .queue (.claimNext (Sample.claim "third" 3))]

theorem twoOperators_claims : claimsMade Sample.runtime Database.initial twoOperators =
    [(3, "alice"), (2, "bob"), (1, "alice")] := by
  decide +kernel

theorem history_fair_twoOperators : FairHistory Sample.runtime twoOperators :=
  history_fair Sample.runtime twoOperators (by
    rw [IncreasingClaims, twoOperators_claims]
    simp [Timed])

end ProofAgent
