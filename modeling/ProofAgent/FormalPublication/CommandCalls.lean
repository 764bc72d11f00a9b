import ProofAgent.Persistence.PublicationCommandRepository

/-! # What a publication command can become

A call leaves the table alone, inserts a row under a new key, or changes one row in
one of three ways: the claim of an expired lease passes to another owner, a candidate
is checkpointed where there was none, a command in progress is completed. -/
namespace ProofAgent.FormalPublication

open Base

variable {codec : TextCodec} {t t' : CommandTable} {row : CommandRow} {record : CommandRecord}

/-! ## Rows that can be read -/

/-- What a row says when it is read. -/
structure Reads (codec : TextCodec) (row : CommandRow) (record : CommandRecord) : Prop where
  actor_key : record.actorKey = row.actorKey
  receipt : record.receipt = row.receiptJson
  claim : rowClaim codec row = .ok record.executionClaim
  checkpoint : rowCheckpoint codec row = .ok record.candidateCheckpoint
  agree : row.columnsAgree

theorem rowRecord_ok (h : rowRecord codec row = .ok record) : Reads codec row record := by
  obtain ⟨claim, hclaim, h₁⟩ := bind_ok h
  obtain ⟨checkpoint, hcheckpoint, h₂⟩ := bind_ok h₁
  obtain ⟨_, hagree, h₃⟩ := bind_ok h₂
  cases pure_ok h₃
  exact ⟨rfl, rfl, hclaim, hcheckpoint, require_ok hagree⟩

theorem Reads.rowRecord (h : Reads codec row record) : rowRecord codec row = .ok record := by
  obtain ⟨actor, key, receipt, claim, checkpoint⟩ := record
  obtain ⟨hkey, hreceipt, hclaim, hcheckpoint, hagree⟩ := h
  obtain ⟨rfl, rfl⟩ := Prod.mk.inj hkey
  simp only at hreceipt hclaim hcheckpoint
  rw [FormalPublication.rowRecord, hclaim, ok_bind, hcheckpoint, ok_bind,
    require_true _ hagree, ok_bind, hreceipt]
  rfl

theorem Reads.digest (h : Reads codec row record) :
    record.receipt.requestSha256 = row.requestSha256 := by
  rw [h.receipt, h.agree.2.1]

theorem Reads.state (h : Reads codec row record) : record.receipt.state = row.state := by
  rw [h.receipt, h.agree.2.2.1]

theorem Reads.command_id (h : Reads codec row record) :
    record.receipt.commandId = row.commandId := by
  rw [h.receipt, h.agree.1]

theorem make_claim_ok {token : Nat} {owner expiry : String} {claim : ExecutionClaim}
    (h : ExecutionClaim.make token owner expiry = .ok claim) :
    claim.fencingToken = token ∧ claim.ownerId = owner ∧ claim.leaseExpiresAt = expiry := by
  unfold ExecutionClaim.make at h
  split at h
  · split at h
    · cases h
      exact ⟨rfl, rfl, rfl⟩
    · cases h
  · cases h

/-- The columns of a claim. -/
theorem rowClaim_some {claim : ExecutionClaim} (h : rowClaim codec row = .ok (some claim)) :
    row.executionFencingToken = some claim.fencingToken ∧ row.leaseOwner = some claim.ownerId ∧
      ∃ expiry, row.leaseExpiresAt = some expiry ∧
        claim.leaseExpiresAt = codec.timestampText expiry := by
  unfold rowClaim at h
  split at h
  · cases h
  · rename_i token owner expiry htoken howner hexpiry
    rcases hmade : ExecutionClaim.make token owner (codec.timestampText expiry) with e | made
    · rw [hmade] at h
      cases h
    · rw [hmade] at h
      obtain ⟨rfl, rfl, hexpiry'⟩ := make_claim_ok hmade
      cases h
      exact ⟨htoken, howner, expiry, hexpiry, hexpiry'⟩
  · cases h

theorem rowClaim_none (h : rowClaim codec row = .ok none) :
    row.executionFencingToken = none ∧ row.leaseExpiresAt = none := by
  unfold rowClaim at h
  split at h
  · rename_i htoken _ hexpiry
    exact ⟨htoken, hexpiry⟩
  · rename_i token owner expiry _ _ _
    rcases hmade : ExecutionClaim.make token owner (codec.timestampText expiry) with e | made
    · rw [hmade] at h
      cases h
    · rw [hmade] at h
      cases h
  · cases h

/-- The token of a row, zero before the first claim. -/
def CommandRow.token (row : CommandRow) : Nat := row.executionFencingToken.getD 0

/-- The columns of the candidate checkpoint. -/
def CommandRow.checkpointColumns (row : CommandRow) :
    Option String × Option String × Option Instant :=
  (row.formalCandidateSha256, row.knowledgeReleaseCandidateSha256, row.candidateCheckpointedAt)

theorem Reads.token (h : Reads codec row record) :
    nextFencingToken record.executionClaim = row.token + 1 := by
  cases hclaim : record.executionClaim with
  | none =>
    rw [CommandRow.token, (rowClaim_none (hclaim ▸ h.claim)).1]
    rfl
  | some claim =>
    rw [CommandRow.token, (rowClaim_some (hclaim ▸ h.claim)).1]
    rfl

/-- A claim that is not live has expired. -/
theorem Reads.expired (h : Reads codec row record) {now : Instant}
    (hlive : claimLive codec record.executionClaim now = .ok false) :
    ∀ expiry ∈ row.leaseExpiresAt, expiry ≤ now := by
  intro expiry hexpiry
  cases hclaim : record.executionClaim with
  | none =>
    rw [(rowClaim_none (hclaim ▸ h.claim)).2] at hexpiry
    cases hexpiry
  | some claim =>
    obtain ⟨_, _, expiry', hrow, htext⟩ := rowClaim_some (hclaim ▸ h.claim)
    rw [hrow] at hexpiry
    cases hexpiry
    rw [hclaim, claimLive, htext, timestampValue, codec.fromIsoformat_text, orRaise_some,
      ok_bind] at hlive
    exact Int.not_lt.mp (of_decide_eq_false (pure_ok hlive))

/-! ## The table -/

/-- What the primary key and the inserted values establish. -/
structure CommandInvariant (codec : TextCodec) (t : CommandTable) : Prop where
  command_ids : ∀ r ∈ t.rows, ∀ s ∈ t.rows, r.commandId = s.commandId → r = s
  canonical : ∀ r ∈ t.rows, codec.uuid r.commandId = some r.commandId
  terminal : ∀ r ∈ t.rows, r.state ≠ .inProgress → ∃ record, Reads codec r record

theorem lockedRow_then {α : Type} {f : CommandRow → Command α} {a : α}
    (h : (lockedRow record >>= f) t = (.ok a, t')) :
    ∃ row ∈ t.rows, row.actorKey = record.actorKey ∧ f row t = (.ok a, t') := by
  obtain ⟨row, t₁, hlocked, hf⟩ := Effect.bind_ok h
  rw [lockedRow, Effect.read_then] at hlocked
  obtain ⟨hfind, rfl⟩ := Prod.mk.inj hlocked
  obtain ⟨hrow, hkey⟩ := Table.find?_some (orRaise_ok hfind)
  exact ⟨row, hrow, hkey, hf⟩

/-- The update of the row under the command id of a record that was read from it. -/
theorem updateReturning_row {p : CommandRow → Bool} {f : CommandRow → CommandRow}
    {hf : ∀ r, (f r).actorKey = r.actorKey} {e : Error} {updated : CommandRow} {commandId : String}
    (hinv : CommandInvariant codec t) (hrow : row ∈ t.rows)
    (hid : codec.uuid row.commandId = some commandId)
    (hp : ∀ r, p r = true → r.commandId = commandId)
    (h : updateReturning p f hf e t = (.ok updated, t')) :
    p row = true ∧ updated = f row ∧ Table.Replaced t t' row (f row) := by
  obtain ⟨old, hold, hpold, rfl, hrep⟩ := updateReturning_ok h
  have hcommand : row.commandId = commandId :=
    Option.some.inj ((hinv.canonical row hrow).symm.trans hid)
  obtain rfl := hinv.command_ids old hold row hrow ((hp old hpold).trans hcommand.symm)
  exact ⟨hpold, rfl, hrep⟩

/-! ## Calls -/

/-- A call of any owner. -/
inductive CommandCall where
  | reserve (record : CommandRecord) (leaseDuration : Int) (now lockedAt : Instant)
  | checkpointCandidate (record : CommandRecord)
      (formalCandidateSha256 knowledgeReleaseCandidateSha256 : String) (now : Instant)
  | complete (record : CommandRecord)

/-- What a call returns. -/
inductive CommandReply where
  | reserved (reservation : CommandReservation)
  | record (record : CommandRecord)

def CommandCall.run (codec : TextCodec) : CommandCall → Command CommandReply
  | .reserve record leaseDuration now lockedAt => do
    let reservation ← FormalPublication.reserve codec record leaseDuration now lockedAt
    return .reserved reservation
  | .checkpointCandidate record formal knowledge now => do
    let record ← FormalPublication.checkpointCandidate codec record formal knowledge now
    return .record record
  | .complete record => do
    let record ← FormalPublication.complete codec record
    return .record record

/-! ## `reserve` -/

/-- The row after a takeover. -/
def CommandRow.taken (row : CommandRow) (ownerId : String) (expiry now : Instant) : CommandRow :=
  { row with
    executionFencingToken := some (row.token + 1), leaseOwner := some ownerId
    leaseExpiresAt := some expiry, updatedAt := now }

/-- What a reservation that returned has done. -/
inductive Reserved (codec : TextCodec) (record : CommandRecord) (lockedAt : Instant)
    (t t' : CommandTable) : CommandReservation → Prop
  | created {row persisted} : t.insert? row = some t' → row.actorKey = record.actorKey →
    Reads codec row persisted → Reserved codec record lockedAt t t' ⟨persisted, true, true⟩
  | held {row persisted} : t' = t → row ∈ t.rows → row.actorKey = record.actorKey →
    Reads codec row persisted → Reserved codec record lockedAt t t' ⟨persisted, false, false⟩
  | takenOver {row ownerId expiry persisted} : row.state = .inProgress →
    (∀ expiry ∈ row.leaseExpiresAt, expiry ≤ lockedAt) → row.actorKey = record.actorKey →
    Table.Replaced t t' row (row.taken ownerId expiry lockedAt) →
    Reads codec (row.taken ownerId expiry lockedAt) persisted →
    Reserved codec record lockedAt t t' ⟨persisted, false, true⟩

theorem takeOver_ok {persisted : CommandRecord} {ownerId : String} {leaseDuration : Int}
    {now : Instant} {r : CommandReservation} (hinv : CommandInvariant codec t)
    (hrow : row ∈ t.rows) (hreads : Reads codec row persisted)
    (hexpired : ∀ expiry ∈ row.leaseExpiresAt, expiry ≤ now)
    (hkey : row.actorKey = record.actorKey)
    (h : takeOver codec persisted ownerId leaseDuration now t = (.ok r, t')) :
    Reserved codec record now t t' r := by
  unfold takeOver at h
  obtain ⟨claim, hclaim, h₁⟩ := Effect.ofExcept_bind_ok h
  obtain ⟨commandId, hid, h₂⟩ := Effect.ofExcept_bind_ok h₁
  obtain ⟨expiry, _, h₃⟩ := Effect.ofExcept_bind_ok h₂
  obtain ⟨updated, t₁, hupdate, h₄⟩ := Effect.bind_ok h₃
  obtain ⟨taken, hread, h₅⟩ := Effect.ofExcept_bind_ok h₄
  obtain ⟨_, h₆⟩ := Effect.require_bind_ok h₅
  cases h₆
  obtain ⟨htoken, howner, _⟩ := make_claim_ok hclaim
  have hid' := orRaise_ok hid
  rw [hreads.command_id] at hid'
  obtain ⟨hp, rfl, hrep⟩ := updateReturning_row hinv hrow hid'
    (fun r hr => (of_decide_eq_true hr).1) hupdate
  have htaken : ({ row with
      executionFencingToken := some claim.fencingToken, leaseOwner := some claim.ownerId
      leaseExpiresAt := some expiry, updatedAt := now } : CommandRow) =
      row.taken ownerId expiry now := by
    rw [CommandRow.taken, htoken, howner, hreads.token]
  rw [htaken] at hrep hread
  exact .takenOver (of_decide_eq_true hp).2 hexpired hkey hrep (rowRecord_ok hread)

theorem reserveTaken_ok {ownerId : String} {leaseDuration : Int} {now : Instant}
    {r : CommandReservation} (hinv : CommandInvariant codec t)
    (h : reserveTaken codec record ownerId leaseDuration now t = (.ok r, t')) :
    Reserved codec record now t t' r ∧ ∃ row ∈ t.rows, row.actorKey = record.actorKey ∧
      row.requestSha256 = record.receipt.requestSha256 := by
  unfold reserveTaken at h
  obtain ⟨row, hrow, hkey, h₁⟩ := lockedRow_then h
  obtain ⟨persisted, hread, h₂⟩ := Effect.ofExcept_bind_ok h₁
  obtain ⟨_, hidentity, h₃⟩ := Effect.ofExcept_bind_ok h₂
  have hreads := rowRecord_ok hread
  have hdigest := require_ok hidentity
  rw [hreads.digest] at hdigest
  refine ⟨?_, row, hrow, hkey, hdigest⟩
  split at h₃
  · cases h₃
    exact .held rfl hrow hkey hreads
  · obtain ⟨live, hlive, h₄⟩ := Effect.ofExcept_bind_ok h₃
    cases live with
    | true =>
      cases h₄
      exact .held rfl hrow hkey hreads
    | false => exact takeOver_ok hinv hrow hreads (hreads.expired hlive) hkey h₄

/-- A row that was inserted. -/
structure Inserted (codec : TextCodec) (record : CommandRecord) (t t' : CommandTable)
    (row : CommandRow) : Prop where
  insert : t.insert? row = some t'
  fresh : ∀ r ∈ t.rows, r.commandId ≠ row.commandId
  canonical : codec.uuid row.commandId = some row.commandId
  state : row.state = record.receipt.state
  actor_key : row.actorKey = record.actorKey

theorem values_ok {now : Instant} (h : values codec record now = .ok row) :
    codec.uuid row.commandId = some row.commandId ∧ row.state = record.receipt.state ∧
      row.actorKey = record.actorKey := by
  unfold values at h
  obtain ⟨claim, _, h₁⟩ := bind_ok h
  obtain ⟨startedAt, _, h₂⟩ := bind_ok h₁
  obtain ⟨commandId, hid, h₃⟩ := bind_ok h₂
  obtain ⟨draftId, _, h₄⟩ := bind_ok h₃
  obtain ⟨expiry, _, h₅⟩ := bind_ok h₄
  cases pure_ok h₅
  exact ⟨codec.uuid_canonical _ _ (orRaise_ok hid), rfl, rfl⟩

theorem insertCommand_ok {inserted : Option CommandRow}
    (h : insertCommand row t = (.ok inserted, t')) :
    (inserted = none ∧ t' = t) ∨
      (inserted = some row ∧ t.insert? row = some t' ∧ ∀ r ∈ t.rows, r.commandId ≠ row.commandId) := by
  rw [insertCommand, Effect.read_then] at h
  cases hinsert : t.insert? row with
  | none =>
    rw [hinsert] at h
    cases h
    exact .inl ⟨rfl, rfl⟩
  | some t₁ =>
    rw [hinsert] at h
    obtain ⟨hfresh, h₁⟩ := Effect.require_bind_ok h
    rw [Effect.modify_then] at h₁
    cases h₁
    exact .inr ⟨rfl, rfl, hfresh⟩

theorem reserveRow_ok {claim : ExecutionClaim} {leaseDuration : Int} {now lockedAt : Instant}
    {out : CommandReservation ⊕ CommandRow} (hinv : CommandInvariant codec t)
    (h : reserveRow codec record claim leaseDuration now lockedAt t = (.ok out, t')) :
    (∃ row, out = .inr row ∧ Inserted codec record t t' row) ∨
      ∃ r, out = .inl r ∧ Reserved codec record lockedAt t t' r ∧
        ∃ row ∈ t.rows, row.actorKey = record.actorKey ∧
          row.requestSha256 = record.receipt.requestSha256 := by
  unfold reserveRow at h
  obtain ⟨first, _, h₁⟩ := Effect.ofExcept_bind_ok h
  obtain ⟨row, hvalues, h₂⟩ := Effect.ofExcept_bind_ok h₁
  obtain ⟨inserted, t₁, hinsert, h₃⟩ := Effect.bind_ok h₂
  obtain ⟨hcanonical, hstate, hkey⟩ := values_ok hvalues
  rcases insertCommand_ok hinsert with ⟨rfl, rfl⟩ | ⟨rfl, hnew, hfresh⟩
  · obtain ⟨r, hr, rfl⟩ := Effect.bind_pure_ok h₃
    exact .inr ⟨r, rfl, reserveTaken_ok hinv hr⟩
  · cases h₃
    exact .inl ⟨row, rfl, hnew, hfresh, hcanonical, hstate, hkey⟩

theorem reserve_ok {leaseDuration : Int} {now lockedAt : Instant} {r : CommandReservation}
    (hinv : CommandInvariant codec t)
    (h : reserve codec record leaseDuration now lockedAt t = (.ok r, t')) :
    Reserved codec record lockedAt t t' r := by
  unfold reserve at h
  obtain ⟨_, h₁⟩ := Effect.require_bind_ok h
  obtain ⟨claim, _, h₂⟩ := Effect.ofExcept_bind_ok h₁
  obtain ⟨_, _, h₃⟩ := Effect.ofExcept_bind_ok h₂
  obtain ⟨out, t₁, hrow, h₄⟩ := Effect.bind_ok h₃
  rcases reserveRow_ok hinv (Effect.transaction_ok hrow) with
    ⟨row, rfl, hnew⟩ | ⟨r', rfl, hreserved, _⟩
  · obtain ⟨persisted, hread, h₅⟩ := Effect.ofExcept_bind_ok h₄
    obtain ⟨_, _, h₆⟩ := Effect.ofExcept_bind_ok h₅
    cases h₆
    exact .created hnew.insert hnew.actor_key (rowRecord_ok hread)
  · cases h₄
    exact hreserved

/-- A reservation either goes through its transaction or raises and leaves no trace. -/
theorem reserve_cases (codec : TextCodec) (record : CommandRecord) (leaseDuration : Int)
    (now lockedAt : Instant) (t : CommandTable) :
    (∃ e, reserve codec record leaseDuration now lockedAt t = (.error e, t)) ∨
      record.receipt.state = .inProgress ∧ ∃ claim out t',
        reserveRow codec record claim leaseDuration now lockedAt t = (.ok out, t') ∧
        (reserve codec record leaseDuration now lockedAt t).2 = t' := by
  unfold reserve
  by_cases hstate : record.receipt.state = .inProgress
  swap
  · rw [Effect.require_not_then _ hstate]
    exact .inl ⟨_, rfl⟩
  rw [Effect.require_then _ hstate]
  rcases requireExecutionClaim record with e | claim
  · exact .inl ⟨e, rfl⟩
  rw [Effect.ok_then]
  rcases requireLeaseDuration leaseDuration with e | ⟨⟩
  · exact .inl ⟨e, rfl⟩
  rw [Effect.ok_then]
  rcases hrow : Effect.transaction (reserveRow codec record claim leaseDuration now lockedAt) t
    with ⟨e | out, t₁⟩
  · cases Effect.transaction_error hrow
    rw [Effect.bind_of_error hrow]
    exact .inl ⟨e, rfl⟩
  · refine .inr ⟨hstate, claim, out, t₁, Effect.transaction_ok hrow, ?_⟩
    rw [ReadOnly.bind_snd, hrow]
    intro out
    cases out with
    | inl r => exact .pure r
    | inr row => exact .bind .ofExcept fun _ => .bind .ofExcept fun _ => .pure _

/-- Another request under a taken key is refused. -/
theorem reserve_other_digest {leaseDuration : Int} {now lockedAt : Instant}
    (hinv : CommandInvariant codec t) (hrow : row ∈ t.rows) (hkey : record.actorKey = row.actorKey)
    (hdigest : record.receipt.requestSha256 ≠ row.requestSha256) :
    ∃ e, reserve codec record leaseDuration now lockedAt t = (.error e, t) := by
  rcases reserve_cases codec record leaseDuration now lockedAt t with
    hraise | ⟨_, claim, out, t', hreserve, _⟩
  · exact hraise
  · rcases reserveRow_ok hinv hreserve with ⟨new, _, hnew⟩ | ⟨r, _, _, old, hold, holdkey, hsame⟩
    · have hfresh := (Table.insert?_some hnew.insert).2 row hrow
      exact absurd (hkey.symm.trans hnew.actor_key.symm) hfresh
    · obtain rfl := Table.eq_of_key hold hrow (holdkey.trans hkey)
      exact absurd hsame.symm hdigest

/-- What a reservation asks of its arguments. -/
structure ReserveArguments (codec : TextCodec) (record : CommandRecord) (leaseDuration : Int) :
    Prop where
  state : record.receipt.state = .inProgress
  claim : record.executionClaim.isSome = true
  lease : 0 < leaseDuration ∧ leaseDuration ≤ seconds 3600
  command_id : (codec.uuid record.receipt.commandId).isSome = true
  draft_id : (codec.uuid record.receipt.draftId).isSome = true
  started_at : (codec.fromIsoformat record.receipt.startedAt).isSome = true

theorem values_of_arguments {leaseDuration : Int} {claim : ExecutionClaim} {expiry : Instant}
    (now : Instant) (h : ReserveArguments codec record leaseDuration)
    (hclaim : record.executionClaim = some claim)
    (hexpiry : claim.leaseExpiresAt = codec.timestampText expiry) :
    ∃ row, values codec record now = .ok row ∧ row.actorKey = record.actorKey := by
  obtain ⟨commandId, hcommand⟩ := Option.isSome_iff_exists.mp h.command_id
  obtain ⟨draftId, hdraft⟩ := Option.isSome_iff_exists.mp h.draft_id
  obtain ⟨startedAt, hstarted⟩ := Option.isSome_iff_exists.mp h.started_at
  simp only [values, requireExecutionClaim, timestampValue, uuidValue, hclaim, hcommand, hdraft,
    hstarted, hexpiry, codec.fromIsoformat_text, orRaise_some, ok_bind]
  exact ⟨_, rfl, rfl⟩

/-- The first claim of an owner. -/
def ExecutionClaim.first (claim : ExecutionClaim) (expiry : String) : ExecutionClaim :=
  ⟨1, claim.ownerId, expiry, Nat.le_refl 1, claim.owner_length⟩

theorem make_first_claim (claim : ExecutionClaim) (expiry : String) :
    ExecutionClaim.make 1 claim.ownerId expiry = .ok (claim.first expiry) := by
  unfold ExecutionClaim.make
  rw [dif_pos (Nat.le_refl 1), dif_pos claim.owner_length]
  rfl

/-- A terminal command is returned to whoever reserves it again. -/
theorem reserve_terminal {persisted : CommandRecord} {leaseDuration : Int}
    {now lockedAt : Instant} (hrow : row ∈ t.rows) (hreads : Reads codec row persisted)
    (hterminal : row.state ≠ .inProgress) (hkey : record.actorKey = row.actorKey)
    (hdigest : record.receipt.requestSha256 = row.requestSha256)
    (h : ReserveArguments codec record leaseDuration) :
    reserve codec record leaseDuration now lockedAt t = (.ok ⟨persisted, false, false⟩, t) := by
  obtain ⟨claim, hclaim⟩ := Option.isSome_iff_exists.mp h.claim
  have htaken : reserveTaken codec record claim.ownerId leaseDuration lockedAt t =
      (.ok ⟨persisted, false, false⟩, t) := by
    have hlocked : lockedRow record t = (.ok row, t) := by
      rw [lockedRow, Effect.read_then, Table.find?_eq_some_iff.mpr ⟨hrow, hkey.symm⟩]
      rfl
    have hidentity : requireRequestIdentity persisted record = .ok () :=
      require_true _ (by rw [hreads.digest, hdigest])
    rw [reserveTaken, Effect.bind_of_ok hlocked, hreads.rowRecord, Effect.ok_then, hidentity,
      Effect.ok_then, if_pos (by rw [hreads.state]; exact hterminal)]
    rfl
  have hreserve : reserveRow codec record claim leaseDuration now lockedAt t =
      (.ok (.inl ⟨persisted, false, false⟩), t) := by
    have hfirst : ReserveArguments codec { record with
        executionClaim := some (claim.first (codec.timestampText (now + leaseDuration))) }
        leaseDuration := ⟨h.state, rfl, h.lease, h.command_id, h.draft_id, h.started_at⟩
    obtain ⟨new, hnew, hnewkey⟩ := values_of_arguments now hfirst rfl rfl
    have hinsert : insertCommand new t = (.ok none, t) := by
      have htaken : t.insert? new = none :=
        Table.insert?_eq_none_iff.mpr ⟨row, hrow, hkey.symm.trans hnewkey.symm⟩
      rw [insertCommand, Effect.read_then, htaken]
      rfl
    rw [reserveRow, make_first_claim, Effect.ok_then, hnew, Effect.ok_then,
      Effect.bind_of_ok hinsert]
    exact Effect.bind_of_ok htaken
  have hclaim' : requireExecutionClaim record = .ok claim := by
    rw [requireExecutionClaim, hclaim, orRaise_some]
  have htransaction : Effect.transaction (reserveRow codec record claim leaseDuration now lockedAt) t =
      (.ok (.inl ⟨persisted, false, false⟩), t) := by
    rw [Effect.transaction, hreserve]
  rw [reserve, Effect.require_then _ h.state, hclaim', Effect.ok_then, requireLeaseDuration,
    require_true _ h.lease, Effect.ok_then, Effect.bind_of_ok htransaction]
  rfl

/-! ## `checkpoint_candidate` and `complete` -/

/-- The row of a record whose claim is the current one. -/
structure Owns (codec : TextCodec) (record : CommandRecord) (t : CommandTable) (row : CommandRow)
    (current : CommandRecord) : Prop where
  mem : row ∈ t.rows
  actor_key : row.actorKey = record.actorKey
  reads : Reads codec row current
  identity : requireSameIdentity current record = .ok ()
  claim : current.executionClaim.isSome = true ∧ current.executionClaim = record.executionClaim

/-- The row after a checkpoint. -/
def CommandRow.checkpointed (row : CommandRow) (formal knowledge : String)
    (checkpointedAt now : Instant) : CommandRow :=
  { row with
    formalCandidateSha256 := some formal, knowledgeReleaseCandidateSha256 := some knowledge
    candidateCheckpointedAt := some checkpointedAt, updatedAt := now }

/-- The row after a completion. -/
def CommandRow.completed (row : CommandRow) (receipt : CommandReceipt) (completedAt : Instant) :
    CommandRow :=
  { row with
    state := receipt.state, receiptJson := receipt
    completedAt := some completedAt, updatedAt := completedAt }

theorem make_checkpoint_ok {formal knowledge at_ : String} {checkpoint : CandidateCheckpoint}
    (h : CandidateCheckpoint.make formal knowledge at_ = .ok checkpoint) :
    checkpoint.formalCandidateSha256 = formal ∧
      checkpoint.knowledgeReleaseCandidateSha256 = knowledge := by
  unfold CandidateCheckpoint.make at h
  split at h
  · cases h
    exact ⟨rfl, rfl⟩
  · cases h

theorem checkpointRow_ok {claim : ExecutionClaim} {formal knowledge : String} {now : Instant}
    {out : CommandRecord ⊕ CommandRow × CandidateCheckpoint} (hinv : CommandInvariant codec t)
    (h : checkpointRow codec record claim formal knowledge now t = (.ok out, t')) :
    ∃ row current, Owns codec record t row current ∧
      ((out = .inl current ∧ t' = t) ∨
        (row.state = .inProgress ∧ row.checkpointColumns = (none, none, none) ∧
          ∃ at_, Table.Replaced t t' row (row.checkpointed formal knowledge at_ now))) := by
  unfold checkpointRow at h
  obtain ⟨row, hrow, hkey, h₁⟩ := lockedRow_then h
  obtain ⟨current, hread, h₂⟩ := Effect.ofExcept_bind_ok h₁
  obtain ⟨⟨⟩, hidentity, h₃⟩ := Effect.ofExcept_bind_ok h₂
  obtain ⟨_, hclaim, h₄⟩ := Effect.ofExcept_bind_ok h₃
  obtain ⟨_, h₅⟩ := Effect.require_bind_ok h₄
  have hreads := rowRecord_ok hread
  have hsame := require_ok hclaim
  refine ⟨row, current, ⟨hrow, hkey, hreads, hidentity, hsame.1, hsame.2.2⟩, ?_⟩
  split at h₅
  · cases h₅
    exact .inl ⟨rfl, rfl⟩
  · obtain ⟨checkpoint, hmade, h₆⟩ := Effect.ofExcept_bind_ok h₅
    obtain ⟨commandId, hid, h₇⟩ := Effect.ofExcept_bind_ok h₆
    obtain ⟨at_, _, h₈⟩ := Effect.ofExcept_bind_ok h₇
    obtain ⟨updated, hupdate, _⟩ := Effect.bind_pure_ok h₈
    obtain ⟨rfl, rfl⟩ := make_checkpoint_ok hmade
    have hid' := orRaise_ok hid
    rw [← (require_ok hidentity).2.2.1, hreads.command_id] at hid'
    obtain ⟨hp, _, hrep⟩ := updateReturning_row hinv hrow hid'
      (fun r hr => (of_decide_eq_true hr).1) hupdate
    obtain ⟨_, hstate, _, _, hformal, hknowledge, hat⟩ := of_decide_eq_true hp
    refine .inr ⟨hstate, ?_, at_, hrep⟩
    rw [CommandRow.checkpointColumns, hformal, hknowledge, hat]

theorem completeRow_ok {out : CommandRecord ⊕ CommandRow} (hinv : CommandInvariant codec t)
    (h : completeRow codec record t = (.ok out, t')) :
    ∃ row current, Owns codec record t row current ∧
      current.candidateCheckpoint = record.candidateCheckpoint ∧
      ((out = .inl current ∧ t' = t ∧ row.state ≠ .inProgress) ∨
        (row.state = .inProgress ∧
          ∃ at_, Table.Replaced t t' row (row.completed record.receipt at_))) := by
  unfold completeRow at h
  obtain ⟨row, hrow, hkey, h₁⟩ := lockedRow_then h
  obtain ⟨current, hread, h₂⟩ := Effect.ofExcept_bind_ok h₁
  obtain ⟨⟨⟩, hidentity, h₃⟩ := Effect.ofExcept_bind_ok h₂
  obtain ⟨_, hclaim, h₄⟩ := Effect.ofExcept_bind_ok h₃
  obtain ⟨_, hcheckpoint, h₅⟩ := Effect.ofExcept_bind_ok h₄
  obtain ⟨claim, _, h₆⟩ := Effect.ofExcept_bind_ok h₅
  have hreads := rowRecord_ok hread
  have hsame := require_ok hclaim
  refine ⟨row, current, ⟨hrow, hkey, hreads, hidentity, hsame.1, hsame.2.2⟩,
    require_ok hcheckpoint, ?_⟩
  split at h₆
  · rename_i hterminal
    cases h₆
    exact .inl ⟨rfl, rfl, by rw [← hreads.state]; exact hterminal⟩
  · obtain ⟨completed, _, h₇⟩ := Effect.ofExcept_bind_ok h₆
    obtain ⟨commandId, hid, h₈⟩ := Effect.ofExcept_bind_ok h₇
    obtain ⟨at_, _, h₉⟩ := Effect.ofExcept_bind_ok h₈
    obtain ⟨updated, hupdate, _⟩ := Effect.bind_pure_ok h₉
    have hid' := orRaise_ok hid
    rw [← (require_ok hidentity).2.2.1, hreads.command_id] at hid'
    obtain ⟨hp, _, hrep⟩ := updateReturning_row hinv hrow hid'
      (fun r hr => (of_decide_eq_true hr).1) hupdate
    exact .inr ⟨(of_decide_eq_true hp).2.1, at_, hrep⟩

/-- A checkpoint either goes through its transaction or raises and leaves no trace. -/
theorem checkpointCandidate_cases (codec : TextCodec) (record : CommandRecord)
    (formal knowledge : String) (now : Instant) (t : CommandTable) :
    (∃ e, checkpointCandidate codec record formal knowledge now t = (.error e, t)) ∨
      ∃ claim out t', checkpointRow codec record claim formal knowledge now t = (.ok out, t') ∧
        (checkpointCandidate codec record formal knowledge now t).2 = t' := by
  unfold checkpointCandidate
  by_cases hstate : record.receipt.state = .inProgress
  swap
  · rw [Effect.require_not_then _ hstate]
    exact .inl ⟨_, rfl⟩
  rw [Effect.require_then _ hstate]
  rcases requireExecutionClaim record with e | claim
  · exact .inl ⟨e, rfl⟩
  rw [Effect.ok_then]
  rcases hrow : Effect.transaction (checkpointRow codec record claim formal knowledge now) t
    with ⟨e | out, t₁⟩
  · cases Effect.transaction_error hrow
    rw [Effect.bind_of_error hrow]
    exact .inl ⟨e, rfl⟩
  · refine .inr ⟨claim, out, t₁, Effect.transaction_ok hrow, ?_⟩
    rw [ReadOnly.bind_snd, hrow]
    intro out
    cases out with
    | inl current => exact .pure current
    | inr written => exact .bind .ofExcept fun _ => .bind .require fun _ => .pure _

/-- The same for a completion. -/
theorem complete_cases (codec : TextCodec) (record : CommandRecord) (t : CommandTable) :
    (∃ e, complete codec record t = (.error e, t)) ∨
      record.receipt.state ≠ .inProgress ∧ ∃ out t', completeRow codec record t = (.ok out, t') ∧
        (complete codec record t).2 = t' := by
  unfold complete
  by_cases hstate : record.receipt.state ≠ .inProgress
  swap
  · rw [Effect.require_not_then _ hstate]
    exact .inl ⟨_, rfl⟩
  rw [Effect.require_then _ hstate]
  rcases hrow : Effect.transaction (completeRow codec record) t with ⟨e | out, t₁⟩
  · cases Effect.transaction_error hrow
    rw [Effect.bind_of_error hrow]
    exact .inl ⟨e, rfl⟩
  · refine .inr ⟨hstate, out, t₁, Effect.transaction_ok hrow, ?_⟩
    rw [ReadOnly.bind_snd, hrow]
    intro out
    cases out with
    | inl current => exact .pure current
    | inr written => exact .bind .ofExcept fun _ => .bind .require fun _ => .pure _

/-- A claim that is not the current one can neither checkpoint nor complete. -/
theorem not_owner_refused (hinv : CommandInvariant codec t)
    (h : ∀ row current, ¬ Owns codec record t row current) :
    (∀ formal knowledge now,
      ∃ e, checkpointCandidate codec record formal knowledge now t = (.error e, t)) ∧
      ∃ e, complete codec record t = (.error e, t) := by
  refine ⟨fun formal knowledge now => ?_, ?_⟩
  · rcases checkpointCandidate_cases codec record formal knowledge now t with
      hraise | ⟨claim, out, t', hrow, _⟩
    · exact hraise
    · obtain ⟨row, current, howns, _⟩ := checkpointRow_ok hinv hrow
      exact absurd howns (h row current)
  · rcases complete_cases codec record t with hraise | ⟨_, out, t', hrow, _⟩
    · exact hraise
    · obtain ⟨row, current, howns, _⟩ := completeRow_ok hinv hrow
      exact absurd howns (h row current)

end ProofAgent.FormalPublication
