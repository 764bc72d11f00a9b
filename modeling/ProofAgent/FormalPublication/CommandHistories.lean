import ProofAgent.FormalPublication.CommandCalls

/-! # Interleaved owners of publication commands

Each call leaves the table alone, inserts one row or changes one row in one of three
ways. A row keeps its key and digest for good, its fencing token only grows, a
checkpoint stays, and a terminal row never changes; a claim whose token was passed
owns nothing any more. -/
namespace ProofAgent.FormalPublication

open Base

variable {codec : TextCodec} {t t' : CommandTable} {row row' : CommandRow}
  {record : CommandRecord}

/-! ## One call -/

/-- How a call can change a row. -/
inductive Changes (codec : TextCodec) : CommandCall → CommandRow → CommandRow → Prop
  | takeOver {record leaseDuration now lockedAt row ownerId expiry} : row.state = .inProgress →
    (∀ expiry ∈ row.leaseExpiresAt, expiry ≤ lockedAt) →
    Changes codec (.reserve record leaseDuration now lockedAt) row
      (row.taken ownerId expiry lockedAt)
  | checkpoint {record formal knowledge now row checkpointedAt} : row.state = .inProgress →
    row.checkpointColumns = (none, none, none) →
    Changes codec (.checkpointCandidate record formal knowledge now) row
      (row.checkpointed formal knowledge checkpointedAt now)
  | complete {record row current completedAt} : row.state = .inProgress → Reads codec row current →
    requireSameIdentity current record = .ok () → record.receipt.state ≠ .inProgress →
    Changes codec (.complete record) row (row.completed record.receipt completedAt)

/-- What a call has done to the table, whether it returned or raised. -/
inductive Outcome (codec : TextCodec) (c : CommandCall) (t t' : CommandTable) : Prop
  | same : t' = t → Outcome codec c t t'
  | inserted {proposed : CommandRecord} {new : CommandRow} : Inserted codec proposed t t' new →
    new.state = .inProgress → Outcome codec c t t'
  | changed {old new : CommandRow} : Changes codec c old new → Table.Replaced t t' old new →
    Outcome codec c t t'

theorem run_reserve {leaseDuration : Int} {now lockedAt : Instant} :
    (CommandCall.run codec (.reserve record leaseDuration now lockedAt) t).2 =
      (reserve codec record leaseDuration now lockedAt t).2 :=
  ReadOnly.bind_snd (fun _ => .pure _) t

theorem run_checkpointCandidate {formal knowledge : String} {now : Instant} :
    (CommandCall.run codec (.checkpointCandidate record formal knowledge now) t).2 =
      (checkpointCandidate codec record formal knowledge now t).2 :=
  ReadOnly.bind_snd (fun _ => .pure _) t

theorem run_complete :
    (CommandCall.run codec (.complete record) t).2 = (complete codec record t).2 :=
  ReadOnly.bind_snd (fun _ => .pure _) t

theorem Reserved.outcome {leaseDuration : Int} {now lockedAt : Instant} {r : CommandReservation}
    (h : Reserved codec record lockedAt t t' r) (hcreated : r.created = false) :
    Outcome codec (.reserve record leaseDuration now lockedAt) t t' := by
  cases h with
  | created _ _ _ => cases hcreated
  | held hsame _ _ _ => exact .same hsame
  | takenOver hstate hexpired _ hrep _ => exact .changed (.takeOver hstate hexpired) hrep

theorem CommandCall.outcome (c : CommandCall) (hinv : CommandInvariant codec t) :
    Outcome codec c t (c.run codec t).2 := by
  cases c with
  | reserve record leaseDuration now lockedAt =>
    rw [run_reserve]
    rcases reserve_cases codec record leaseDuration now lockedAt t with
      ⟨e, hraise⟩ | ⟨hstate, claim, out, t', hrow, hafter⟩
    · rw [hraise]
      exact .same rfl
    · rw [hafter]
      rcases reserveRow_ok hinv hrow with ⟨new, _, hnew⟩ | ⟨r, _, hreserved, old, hold, hkey, _⟩
      · exact .inserted hnew (hnew.state.trans hstate)
      · refine hreserved.outcome ?_
        cases hreserved with
        | created hinsert hnewkey _ =>
          exact absurd (hkey.trans hnewkey.symm) ((Table.insert?_some hinsert).2 old hold)
        | held _ _ _ _ => rfl
        | takenOver _ _ _ _ _ => rfl
  | checkpointCandidate record formal knowledge now =>
    rw [run_checkpointCandidate]
    rcases checkpointCandidate_cases codec record formal knowledge now t with
      ⟨e, hraise⟩ | ⟨claim, out, t', hrow, hafter⟩
    · rw [hraise]
      exact .same rfl
    · rw [hafter]
      obtain ⟨row, current, _, ⟨_, hsame⟩ | ⟨hstate, hcolumns, at_, hrep⟩⟩ :=
        checkpointRow_ok hinv hrow
      · exact .same hsame
      · exact .changed (.checkpoint hstate hcolumns) hrep
  | complete record =>
    rw [run_complete]
    rcases complete_cases codec record t with ⟨e, hraise⟩ | ⟨hterminal, out, t', hrow, hafter⟩
    · rw [hraise]
      exact .same rfl
    · rw [hafter]
      obtain ⟨row, current, howns, _, ⟨_, hsame, _⟩ | ⟨hstate, at_, hrep⟩⟩ :=
        completeRow_ok hinv hrow
      · exact .same hsame
      · exact .changed (.complete hstate howns.reads howns.identity hterminal) hrep

/-! ## Rows go on -/

/-- What a row can become. -/
structure RowFollows (row row' : CommandRow) : Prop where
  actor_key : row'.actorKey = row.actorKey
  command_id : row'.commandId = row.commandId
  digest : row'.requestSha256 = row.requestSha256
  token : row.token ≤ row'.token
  checkpoint : row.checkpointColumns ≠ (none, none, none) →
    row'.checkpointColumns = row.checkpointColumns
  terminal : row.state ≠ .inProgress → row' = row

theorem RowFollows.refl (row : CommandRow) : RowFollows row row :=
  ⟨rfl, rfl, rfl, Nat.le_refl _, fun _ => rfl, fun _ => rfl⟩

theorem RowFollows.trans {row'' : CommandRow} (h : RowFollows row row')
    (h' : RowFollows row' row'') : RowFollows row row'' where
  actor_key := h'.actor_key.trans h.actor_key
  command_id := h'.command_id.trans h.command_id
  digest := h'.digest.trans h.digest
  token := Nat.le_trans h.token h'.token
  checkpoint hcolumns := by
    have hkept := h.checkpoint hcolumns
    rw [← hkept] at hcolumns
    exact (h'.checkpoint hcolumns).trans hkept
  terminal hstate := by
    have hsame := h.terminal hstate
    subst hsame
    exact h'.terminal hstate

theorem Changes.state {c : CommandCall} (h : Changes codec c row row') :
    row.state = .inProgress := by
  cases h <;> assumption

theorem Changes.follows {c : CommandCall} (h : Changes codec c row row') : RowFollows row row' where
  actor_key := by cases h <;> rfl
  command_id := by cases h <;> rfl
  digest := by cases h <;> rfl
  token := by
    cases h with
    | takeOver _ _ => exact Nat.le_succ _
    | checkpoint _ _ => exact Nat.le_refl _
    | complete _ _ _ _ => exact Nat.le_refl _
  checkpoint hcolumns := by
    cases h with
    | takeOver _ _ => rfl
    | checkpoint _ hnone => exact absurd hnone hcolumns
    | complete _ _ _ _ => rfl
  terminal hstate := absurd h.state hstate

/-- A completed row can be read. -/
theorem Reads.completed {current : CommandRecord} {completedAt : Instant}
    (h : Reads codec row current) (hidentity : requireSameIdentity current record = .ok ()) :
    Reads codec (row.completed record.receipt completedAt)
      { current with receipt := record.receipt } := by
  obtain ⟨_, _, hid, hdigest, hagent, hdraft, hrevision⟩ := require_ok hidentity
  rw [h.receipt] at hid hdigest hagent hdraft hrevision
  obtain ⟨hid', hdigest', _, hagent', hdraft', hrevision'⟩ := h.agree
  exact ⟨h.actor_key, rfl, h.claim, h.checkpoint, hid'.trans hid, hdigest'.trans hdigest, rfl,
    hagent'.trans hagent, hdraft'.trans hdraft, hrevision'.trans hrevision⟩

theorem Changes.readable {c : CommandCall} (h : Changes codec c row row')
    (hterminal : row'.state ≠ .inProgress) : ∃ record, Reads codec row' record := by
  cases h with
  | takeOver hstate _ => exact absurd hstate hterminal
  | checkpoint hstate _ => exact absurd hstate hterminal
  | complete _ hreads hidentity _ => exact ⟨_, hreads.completed hidentity⟩

/-! ## Interleavings of calls -/

theorem Outcome.keeps {c : CommandCall} (hinv : CommandInvariant codec t)
    (h : Outcome codec c t t') : CommandInvariant codec t' ∧ Table.Evolves RowFollows t t' := by
  cases h with
  | same hsame =>
    subst hsame
    exact ⟨hinv, .refl RowFollows.refl⟩
  | @inserted record row hnew hstate =>
    refine ⟨?_, .of_insert RowFollows.refl hnew.insert⟩
    obtain ⟨hrows, _⟩ := Table.insert?_some hnew.insert
    have hmem : ∀ r ∈ t'.rows, r ∈ t.rows ∨ r = row := fun r hr => by
      rw [hrows, List.mem_append, List.mem_singleton] at hr
      exact hr
    refine ⟨fun r hr s hs he => ?_, fun r hr => ?_, fun r hr hterminal => ?_⟩
    · rcases hmem r hr with hr | rfl
      · rcases hmem s hs with hs | rfl
        · exact hinv.command_ids r hr s hs he
        · exact absurd he (hnew.fresh r hr)
      · rcases hmem s hs with hs | rfl
        · exact absurd he.symm (hnew.fresh s hs)
        · rfl
    · rcases hmem r hr with hr | rfl
      · exact hinv.canonical r hr
      · exact hnew.canonical
    · rcases hmem r hr with hr | rfl
      · exact hinv.terminal r hr hterminal
      · exact absurd hstate hterminal
  | changed hchange hrep =>
    have hfollows := hchange.follows
    refine ⟨⟨fun r hr s hs he => ?_, fun r hr => ?_, fun r hr hterminal => ?_⟩,
      .of_replaced RowFollows.refl hrep hfollows⟩
    · rcases hrep.mem_cases hr with rfl | ⟨hr, hrkey⟩
      · rcases hrep.mem_cases hs with rfl | ⟨hs, hskey⟩
        · rfl
        · have hsame := hinv.command_ids s hs _ hrep.mem_old (he.symm.trans hfollows.command_id)
          exact absurd (congrArg CommandRow.actorKey hsame) hskey
      · rcases hrep.mem_cases hs with rfl | ⟨hs, _⟩
        · have hsame := hinv.command_ids r hr _ hrep.mem_old (he.trans hfollows.command_id)
          exact absurd (congrArg CommandRow.actorKey hsame) hrkey
        · exact hinv.command_ids r hr s hs he
    · rcases hrep.mem_cases hr with rfl | ⟨hr, _⟩
      · rw [hfollows.command_id]
        exact hinv.canonical _ hrep.mem_old
      · exact hinv.canonical r hr
    · rcases hrep.mem_cases hr with rfl | ⟨hr, _⟩
      · exact hchange.readable hterminal
      · exact hinv.terminal r hr hterminal

/-- The table after calls of any owners. -/
abbrev afterCalls (codec : TextCodec) (t : CommandTable) (calls : List CommandCall) : CommandTable :=
  afterAll (CommandCall.run codec) t calls

theorem afterCalls_keeps (hinv : CommandInvariant codec t) (calls : List CommandCall) :
    CommandInvariant codec (afterCalls codec t calls) ∧
      Table.Evolves RowFollows t (afterCalls codec t calls) := by
  have hkeep : ∀ c s, CommandInvariant codec s → CommandInvariant codec (CommandCall.run codec c s).2 :=
    fun c s hs => ((c.outcome hs).keeps hs).1
  refine ⟨afterAll_invariant hkeep calls t hinv, afterAll_related hkeep ?_ ?_ ?_ calls t hinv⟩
  · exact fun s _ => .refl RowFollows.refl
  · exact fun s u v => Table.Evolves.trans fun _ _ _ => RowFollows.trans
  · exact fun c s hs => ((c.outcome hs).keeps hs).2

theorem empty_invariant (codec : TextCodec) : CommandInvariant codec .empty :=
  ⟨fun _ h => (nomatch h), fun _ h => (nomatch h), fun _ h => (nomatch h)⟩

/-! ## Claims that were taken over -/

/-- A claim that can do nothing: both calls raise and leave no trace. -/
def Refused (codec : TextCodec) (record : CommandRecord) (t : CommandTable) : Prop :=
  (∀ formal knowledge now,
    ∃ e, checkpointCandidate codec record formal knowledge now t = (.error e, t)) ∧
    ∃ e, complete codec record t = (.error e, t)

/-- The columns of the claim. -/
def CommandRow.claimColumns (row : CommandRow) : Option Nat × Option String × Option Instant :=
  (row.executionFencingToken, row.leaseOwner, row.leaseExpiresAt)

/-- A claim with a smaller token than the row has. -/
theorem refused_of_token {claim : ExecutionClaim} (hinv : CommandInvariant codec t)
    (hrow : row ∈ t.rows) (hkey : record.actorKey = row.actorKey)
    (hclaim : record.executionClaim = some claim) (htoken : claim.fencingToken < row.token) :
    Refused codec record t := by
  refine not_owner_refused hinv fun r current howns => ?_
  obtain rfl := Table.eq_of_key howns.mem hrow (howns.actor_key.trans hkey)
  have hread := howns.reads.claim
  rw [howns.claim.2, hclaim] at hread
  rw [CommandRow.token, (rowClaim_some hread).1] at htoken
  exact absurd htoken (Nat.lt_irrefl _)

/-- The claim of a reservation that was acquired is that of its row. -/
theorem Reserved.acquired {lockedAt : Instant} {r : CommandReservation}
    (h : Reserved codec record lockedAt t t' r) (hacquired : r.acquired = true) :
    ∃ row ∈ t'.rows, row.actorKey = record.actorKey ∧ Reads codec row r.record := by
  cases h with
  | created hinsert hkey hreads =>
    refine ⟨_, ?_, hkey, hreads⟩
    rw [(Table.insert?_some hinsert).1]
    exact List.mem_append_right _ (List.mem_singleton_self _)
  | held _ _ _ _ => cases hacquired
  | takenOver _ _ hkey hrep hreads => exact ⟨_, hrep.mem_new, hkey, hreads⟩

/-- Whoever acquires a command that is there takes it over, with a larger token. -/
theorem Reserved.token_lt {lockedAt : Instant} {r : CommandReservation}
    (h : Reserved codec record lockedAt t t' r) (hacquired : r.acquired = true)
    (hrow : row ∈ t.rows) (hkey : row.actorKey = record.actorKey) :
    ∃ row' ∈ t'.rows, row'.actorKey = record.actorKey ∧ row'.token = row.token + 1 := by
  cases h with
  | created hinsert hnewkey _ =>
    exact absurd (hkey.trans hnewkey.symm) ((Table.insert?_some hinsert).2 row hrow)
  | held _ _ _ _ => cases hacquired
  | takenOver _ _ hoddkey hrep _ =>
    obtain rfl := Table.eq_of_key hrow hrep.mem_old (hkey.trans hoddkey.symm)
    exact ⟨_, hrep.mem_new, hkey, rfl⟩

/-! ## Whole histories -/

/-- How the owners of publication commands exclude one another in the table `t`, however the
calls go on with `rest`. -/
structure CommandsLeased (codec : TextCodec) (t : CommandTable) (rest : List CommandCall) : Prop where
  /-- A claim changes only by the reservation of an expired lease, under a larger token. -/
  takeover : ∀ c, ∀ row ∈ t.rows, ∀ row' ∈ (CommandCall.run codec c t).2.rows,
    row'.actorKey = row.actorKey → row'.claimColumns ≠ row.claimColumns →
    row.token < row'.token ∧ ∃ record leaseDuration now lockedAt,
      c = .reserve record leaseDuration now lockedAt ∧ ∀ expiry ∈ row.leaseExpiresAt, expiry ≤ lockedAt
  /-- Who acquires a command after another does so under a larger token, and the claim that
  was passed is refused from then on. -/
  superseded : ∀ {record leaseDuration now lockedAt r t₁},
    reserve codec record leaseDuration now lockedAt t = (.ok r, t₁) → r.acquired = true →
    ∀ {mid taker leaseDuration' now' lockedAt' r' t₂ post},
      rest = mid ++ .reserve taker leaseDuration' now' lockedAt' :: post →
      reserve codec taker leaseDuration' now' lockedAt' (afterCalls codec t₁ mid) = (.ok r', t₂) →
      r'.acquired = true → taker.actorKey = record.actorKey →
      ∀ stale, stale.actorKey = record.actorKey → stale.executionClaim = r.record.executionClaim →
        Refused codec stale (afterCalls codec t₁ rest)
  /-- A checkpoint stays as it was written. -/
  checkpoint_kept : ∀ row ∈ t.rows, row.checkpointColumns ≠ (none, none, none) →
    ∃ row' ∈ (afterCalls codec t rest).rows, row'.actorKey = row.actorKey ∧
      row'.checkpointColumns = row.checkpointColumns
  /-- Whoever reserves a command gets its checkpoint. -/
  checkpoint_returned : ∀ {record leaseDuration now lockedAt r t'},
    reserve codec record leaseDuration now lockedAt t = (.ok r, t') →
    ∀ row ∈ t.rows, row.actorKey = record.actorKey →
      rowCheckpoint codec row = .ok r.record.candidateCheckpoint
  /-- A terminal row never changes, and every later reservation returns it. -/
  terminal : ∀ row ∈ t.rows, row.state ≠ .inProgress →
    row ∈ (afterCalls codec t rest).rows ∧ ∃ persisted, Reads codec row persisted ∧
      ∀ record leaseDuration now lockedAt, record.actorKey = row.actorKey →
        record.receipt.requestSha256 = row.requestSha256 →
        ReserveArguments codec record leaseDuration →
        reserve codec record leaseDuration now lockedAt (afterCalls codec t rest) =
          (.ok ⟨persisted, false, false⟩, afterCalls codec t rest)
  /-- A key stays bound to its digest, and a reservation with another digest is refused. -/
  one_digest : ∀ row ∈ t.rows,
    (∃ row' ∈ (afterCalls codec t rest).rows, row'.actorKey = row.actorKey ∧
      row'.requestSha256 = row.requestSha256) ∧
    ∀ record leaseDuration now lockedAt, record.actorKey = row.actorKey →
      record.receipt.requestSha256 ≠ row.requestSha256 →
      ∃ e, reserve codec record leaseDuration now lockedAt (afterCalls codec t rest) =
        (.error e, afterCalls codec t rest)

theorem Outcome.claim {c : CommandCall} (h : Outcome codec c t t') (hrow : row ∈ t.rows)
    (hrow' : row' ∈ t'.rows) (hkey : row'.actorKey = row.actorKey)
    (hchanged : row'.claimColumns ≠ row.claimColumns) :
    row.token < row'.token ∧ ∃ record leaseDuration now lockedAt,
      c = .reserve record leaseDuration now lockedAt ∧
      ∀ expiry ∈ row.leaseExpiresAt, expiry ≤ lockedAt := by
  cases h with
  | same hsame =>
    subst hsame
    obtain rfl := Table.eq_of_key hrow' hrow hkey
    exact absurd rfl hchanged
  | @inserted proposed new hnew hstate =>
    have hmem : row ∈ t'.rows := by
      rw [(Table.insert?_some hnew.insert).1]
      exact List.mem_append_left _ hrow
    obtain rfl := Table.eq_of_key hrow' hmem hkey
    exact absurd rfl hchanged
  | changed hchange hrep =>
    rcases hrep.mem_cases hrow' with rfl | ⟨hrow', _⟩
    · obtain rfl := Table.eq_of_key hrow hrep.mem_old
        (hkey.symm.trans hchange.follows.actor_key)
      cases hchange with
      | takeOver _ hexpired => exact ⟨Nat.lt_succ_self _, _, _, _, _, rfl, hexpired⟩
      | checkpoint _ _ => exact absurd rfl hchanged
      | complete _ _ _ _ => exact absurd rfl hchanged
    · obtain rfl := Table.eq_of_key hrow' hrow hkey
      exact absurd rfl hchanged

/-- The table after a reservation that returned. -/
theorem reserve_keeps {leaseDuration : Int} {now lockedAt : Instant} {r : CommandReservation}
    (hinv : CommandInvariant codec t)
    (h : reserve codec record leaseDuration now lockedAt t = (.ok r, t')) :
    CommandInvariant codec t' := by
  have hkeeps := ((CommandCall.reserve record leaseDuration now lockedAt).outcome hinv).keeps hinv
  rw [run_reserve, h] at hkeeps
  exact hkeeps.1

theorem superseded_refused {leaseDuration leaseDuration' : Int} {now lockedAt now' lockedAt' : Instant}
    {r r' : CommandReservation} {t₁ t₂ : CommandTable} {taker stale : CommandRecord}
    {mid post : List CommandCall} (hinv : CommandInvariant codec t)
    (h : reserve codec record leaseDuration now lockedAt t = (.ok r, t₁))
    (hacquired : r.acquired = true)
    (h' : reserve codec taker leaseDuration' now' lockedAt' (afterCalls codec t₁ mid) = (.ok r', t₂))
    (hacquired' : r'.acquired = true) (htaker : taker.actorKey = record.actorKey)
    (hstale : stale.actorKey = record.actorKey)
    (hclaim : stale.executionClaim = r.record.executionClaim) :
    Refused codec stale
      (afterCalls codec t₁ (mid ++ .reserve taker leaseDuration' now' lockedAt' :: post)) := by
  obtain ⟨row, hrow, hkey, hreads⟩ := (reserve_ok hinv h).acquired hacquired
  obtain ⟨hmid, hevolves⟩ := afterCalls_keeps (reserve_keeps hinv h) mid
  obtain ⟨row₁, hrow₁, hfollows⟩ := hevolves row hrow
  have hkey₁ : row₁.actorKey = taker.actorKey := by
    rw [hfollows.actor_key, hkey, htaker]
  obtain ⟨row₂, hrow₂, hkey₂, htoken₂⟩ := (reserve_ok hmid h').token_lt hacquired' hrow₁ hkey₁
  obtain ⟨hlast, hevolves'⟩ := afterCalls_keeps (reserve_keeps hmid h') post
  obtain ⟨row₃, hrow₃, hfollows'⟩ := hevolves' row₂ hrow₂
  rw [afterCalls, afterAll_append, afterAll_cons, run_reserve, h']
  have hkey₃ : stale.actorKey = row₃.actorKey := by
    rw [hfollows'.actor_key, hkey₂, htaker, hstale]
  have htoken := hreads.token
  cases hown : r.record.executionClaim with
  | none =>
    -- a claim that is missing owns nothing
    refine not_owner_refused hlast fun row current howns => ?_
    have hsome := howns.claim.1
    rw [howns.claim.2, hclaim, hown] at hsome
    cases hsome
  | some claim =>
    rw [hown, nextFencingToken] at htoken
    refine refused_of_token hlast hrow₃ hkey₃ (hclaim.trans hown) ?_
    have hle := hfollows.token
    have hle' := hfollows'.token
    omega

theorem commandsLeased (hinv : CommandInvariant codec t) (rest : List CommandCall) :
    CommandsLeased codec t rest where
  takeover c row hrow row' hrow' hkey hchanged := (c.outcome hinv).claim hrow hrow' hkey hchanged
  superseded h hacquired := by
    intro mid taker leaseDuration' now' lockedAt' r' t₂ post hrest h' hacquired' htaker stale hstale hclaim
    subst hrest
    exact superseded_refused hinv h hacquired h' hacquired' htaker hstale hclaim
  checkpoint_kept row hrow hcolumns := by
    obtain ⟨row', hrow', hfollows⟩ := (afterCalls_keeps hinv rest).2 row hrow
    exact ⟨row', hrow', hfollows.actor_key, hfollows.checkpoint hcolumns⟩
  checkpoint_returned h := by
    intro row hrow hkey
    cases reserve_ok hinv h with
    | created hinsert hnewkey _ =>
      exact absurd (hkey.trans hnewkey.symm) ((Table.insert?_some hinsert).2 row hrow)
    | held _ hheld hheldkey hreads =>
      obtain rfl := Table.eq_of_key hrow hheld (hkey.trans hheldkey.symm)
      exact hreads.checkpoint
    | takenOver _ _ holdkey hrep hreads =>
      obtain rfl := Table.eq_of_key hrow hrep.mem_old (hkey.trans holdkey.symm)
      exact hreads.checkpoint
  terminal row hrow hterminal := by
    obtain ⟨row', hrow', hfollows⟩ := (afterCalls_keeps hinv rest).2 row hrow
    obtain rfl := hfollows.terminal hterminal
    obtain ⟨persisted, hreads⟩ := hinv.terminal row' hrow hterminal
    exact ⟨hrow', persisted, hreads, fun record leaseDuration now lockedAt hkey hdigest harguments =>
      reserve_terminal hrow' hreads hterminal hkey hdigest harguments⟩
  one_digest row hrow := by
    obtain ⟨hlast, hevolves⟩ := afterCalls_keeps hinv rest
    obtain ⟨row', hrow', hfollows⟩ := hevolves row hrow
    refine ⟨⟨row', hrow', hfollows.actor_key, hfollows.digest⟩, ?_⟩
    intro record leaseDuration now lockedAt hkey hdigest
    refine reserve_other_digest hlast hrow' (hkey.trans hfollows.actor_key.symm) ?_
    rw [hfollows.digest]
    exact hdigest

end ProofAgent.FormalPublication
