import ProofAgent.Memory.Isolation

/-! # The two memory stores

After the same admissions and expiries the rows of the repository are the memories that are meant,
whatever the spelling of a time; so the local store and the repository give a query the same
memories when the local store reads plainly. Each store draws ids of its own. -/
namespace ProofAgent.Memory

open Base

variable {library : MemoryLibrary}

/-- An operation that both stores have, with the id that each of them draws. -/
inductive CaseMemoryOperation (library : MemoryLibrary) where
  | admitCase (admission : CaseMemoryAdmission library) (memoryId rowId : String)
  | expireDue (asOf : String)

/-- The operation, at the local store. -/
def CaseMemoryOperation.atFiles : CaseMemoryOperation library → MemoryOperation library
  | admitCase admission memoryId _ => .admitCase admission memoryId
  | expireDue asOf => .expireDue asOf

/-- The operation, at the repository. -/
def CaseMemoryOperation.atRows : CaseMemoryOperation library → MemoryOperation library
  | admitCase admission _ rowId => .admitCase admission rowId
  | expireDue asOf => .expireDue asOf

/-- An operation on the rows of the repository. -/
def CaseMemoryOperation.perform : CaseMemoryOperation library → CaseMemoryTable →
    Except MemoryError CaseMemoryTable
  | admitCase admission _ rowId, rows => do
    let (_, rows) ← PostgresCaseMemoryRepository.admitMemory library admission rowId rows
    return rows
  | expireDue asOf, rows => do
    let (_, rows) ← PostgresCaseMemoryRepository.expireDue library asOf rows
    return rows

/-- The rows after some operations. -/
def performRows (operations : List (CaseMemoryOperation library)) (rows : CaseMemoryTable) :
    Except MemoryError CaseMemoryTable :=
  operations.foldlM (fun rows operation => operation.perform rows) rows

/-- A record without the id that a store has drawn for it. -/
def anonymous (r : MemoryRecord) : MemoryRecord := { r with memoryId := "" }

/-! ## The repository -/

theorem timestampValue_ok {value field : String} {instant : Instant}
    (h : timestampValue library value field = .ok instant) : library.timestamp value = some instant := by
  unfold timestampValue at h
  unfold MemoryLibrary.timestamp
  cases hvalue : library.fromisoformat value with
  | none => rw [hvalue] at h; cases h
  | some aware =>
    rw [hvalue] at h
    cases aware with
    | none => cases h
    | some i => exact congrArg some (Except.ok.inj h)

theorem timestampValue_some {value : String} (field : String) {instant : Instant}
    (h : library.timestamp value = some instant) : timestampValue library value field = .ok instant := by
  unfold timestampValue
  rw [Option.join_eq_some_iff.mp h]

/-- The columns of a row are those of its memory. -/
structure Plain (library : MemoryLibrary) (row : CaseMemoryRow) : Prop where
  memoryId : row.memoryJson.memoryId = row.memoryId
  scope : row.memoryJson.scope = .CASE
  caseId : library.uuid row.memoryJson.caseId = some row.caseId
  agentId : row.memoryJson.agentId = row.agentId
  status : row.memoryJson.status = row.status
  createdAt : library.timestamp row.memoryJson.createdAt = some row.createdAt
  expiresAt : library.timestamp row.memoryJson.expiresAt = some row.expiresAt

/-- The rows are some memories; each case id that is the one of the query as a UUID is so as a text. -/
structure Mirrors (library : MemoryLibrary) (q : MemoryQuery) (rows : CaseMemoryTable)
    (records : List MemoryRecord) : Prop where
  same : rows.rows.map (·.memoryJson) = records
  plain : ∀ row ∈ rows.rows, Plain library row
  alike : ∀ row ∈ rows.rows, library.uuid row.memoryJson.caseId = library.uuid q.caseId →
    row.memoryJson.caseId = q.caseId

section
variable {q : MemoryQuery} {rows rows' : CaseMemoryTable} {records : List MemoryRecord}

theorem Mirrors.empty (library : MemoryLibrary) (q : MemoryQuery) : Mirrors library q .empty [] where
  same := rfl
  plain := fun _ h => (nomatch h)
  alike := fun _ h => (nomatch h)

theorem Mirrors.admitted (h : Mirrors library q rows records)
    {admission : CaseMemoryAdmission library} {memoryId : String} {record : MemoryRecord}
    (halike : library.uuid admission.candidate.caseId = library.uuid q.caseId →
      admission.candidate.caseId = q.caseId)
    (hstep : PostgresCaseMemoryRepository.admitMemory library admission memoryId rows = .ok (record, rows')) :
    Mirrors library q rows' ((MemoryOperation.admitCase admission memoryId).intended records) := by
  unfold PostgresCaseMemoryRepository.admitMemory at hstep
  obtain ⟨caseId, hcase, hstep⟩ := bind_ok hstep
  obtain ⟨runId, _, hstep⟩ := bind_ok hstep
  obtain ⟨turnId, _, hstep⟩ := bind_ok hstep
  obtain ⟨createdAt, hcreated, hstep⟩ := bind_ok hstep
  obtain ⟨expiresAt, hexpires, hstep⟩ := bind_ok hstep
  obtain ⟨inserted, hinsert, hstep⟩ := bind_ok hstep
  obtain ⟨rfl, rfl⟩ := Prod.mk.inj (pure_ok hstep)
  have hrows := (Table.insert?_some (orRaise_ok hinsert)).1
  rw [MemoryOperation.intended_of_kept rfl rfl]
  refine ⟨?_, fun row hrow => ?_, fun row hrow => ?_⟩
  · rw [hrows, List.map_append, h.same]
    rfl
  · rw [hrows] at hrow
    rcases List.mem_append.mp hrow with hrow | hrow
    · exact h.plain row hrow
    · rw [List.mem_singleton.mp hrow]
      exact ⟨rfl, admission.case_only, orRaise_ok hcase, rfl, rfl, timestampValue_ok hcreated,
        timestampValue_ok hexpires⟩
  · rw [hrows] at hrow
    rcases List.mem_append.mp hrow with hrow | hrow
    · exact h.alike row hrow
    · rw [List.mem_singleton.mp hrow]
      exact halike

/-- The memory of a row that is expired is the one that is meant to be deleted. -/
theorem Mirrors.expired (h : Mirrors library q rows records) {asOf : String} {n : Nat}
    (hstep : PostgresCaseMemoryRepository.expireDue library asOf rows = .ok (n, rows')) :
    Mirrors library q rows' ((MemoryOperation.expireDue asOf : MemoryOperation library).intended records) := by
  unfold PostgresCaseMemoryRepository.expireDue at hstep
  obtain ⟨now, hnow, hstep⟩ := bind_ok hstep
  have hnow := timestampValue_ok hnow
  obtain ⟨rfl, rfl⟩ := Prod.mk.inj (pure_ok hstep)
  have hdeletes : ∀ row ∈ rows.rows, (MemoryOperation.expireDue asOf : MemoryOperation library).deletes
      row.memoryJson = decide (row.expiresAt ≤ now) := by
    intro row hrow
    have hplain := h.plain row hrow
    simp [MemoryOperation.deletes, MemoryOperation.expiry, MemoryOperation.emptied, expiredBy,
      hplain.scope, hplain.expiresAt, hnow]
  refine ⟨?_, fun row hrow => ?_, fun row hrow => ?_⟩
  · show (rows.rows.map _).map _ = _ ++ []
    rw [List.append_nil, List.map_map, ← h.same, List.map_map]
    refine List.map_congr_left fun row hrow => ?_
    simp only [Function.comp, hdeletes row hrow, (h.plain row hrow).status, Bool.and_eq_true,
      decide_eq_true_eq]
    split
    · rfl
    · rfl
  · obtain ⟨old, hold, rfl⟩ := Table.mem_update.mp hrow
    have hplain := h.plain old hold
    split
    · exact ⟨hplain.memoryId, hplain.scope, hplain.caseId, hplain.agentId, rfl, hplain.createdAt,
        hplain.expiresAt⟩
    · exact hplain
  · obtain ⟨old, hold, rfl⟩ := Table.mem_update.mp hrow
    have halike := h.alike old hold
    split
    · exact halike
    · exact halike

/-- No admission has the case id of the query in another spelling. -/
def SpelledAlike (q : MemoryQuery) (operations : List (CaseMemoryOperation library)) : Prop :=
  ∀ operation ∈ operations, ∀ r ∈ operation.atRows.stored,
    library.uuid r.caseId = library.uuid q.caseId → r.caseId = q.caseId

theorem Mirrors.perform (h : Mirrors library q rows records)
    {operation : CaseMemoryOperation library}
    (halike : ∀ r ∈ operation.atRows.stored,
      library.uuid r.caseId = library.uuid q.caseId → r.caseId = q.caseId)
    (hstep : operation.perform rows = .ok rows') :
    Mirrors library q rows' (operation.atRows.intended records) := by
  unfold CaseMemoryOperation.perform at hstep
  cases operation with
  | admitCase admission memoryId rowId =>
    obtain ⟨⟨record, inserted⟩, hstep, hrows⟩ := bind_ok hstep
    exact pure_ok hrows ▸ h.admitted (halike _ rfl) hstep
  | expireDue asOf =>
    obtain ⟨⟨n, updated⟩, hstep, hrows⟩ := bind_ok hstep
    exact pure_ok hrows ▸ h.expired hstep

theorem Mirrors.performRows : ∀ {operations : List (CaseMemoryOperation library)}
    {rows : CaseMemoryTable} {records : List MemoryRecord}, Mirrors library q rows records →
    SpelledAlike q operations → Memory.performRows operations rows = .ok rows' →
    Mirrors library q rows' (intendedAll (operations.map (·.atRows)) records)
  | [], _, _, h, _, hrun => pure_ok hrun ▸ h
  | operation :: rest, rows, records, h, halike, hrun => by
    obtain ⟨next, hstep, hrun⟩ := bind_ok hrun
    show Mirrors library q rows' (intendedAll (rest.map (·.atRows)) (operation.atRows.intended records))
    exact Mirrors.performRows (h.perform (halike operation List.mem_cons_self) hstep)
      (fun other hother => halike other (List.mem_cons_of_mem _ hother)) hrun

/-- The rows that a query finds are the memories that it is meant to get. -/
theorem Mirrors.found (h : Mirrors library q rows records) {caseId asOf : String} {now : Instant}
    (hq : q.scope = .CASE) (hcase : library.uuid q.caseId = some caseId)
    (hnow : library.timestamp asOf = some now) :
    (rows.rows.filter fun row => row.caseId = caseId && row.agentId = q.agentId &&
      row.status = .ACTIVE && decide (now < row.expiresAt) &&
      (q.allowRestricted || decide (row.memoryJson.sensitivity ≠ .RESTRICTED))).map (·.memoryJson) =
        q.matching library asOf records := by
  unfold MemoryQuery.matching
  rw [← h.same, List.filter_map]
  refine congrArg (List.map CaseMemoryRow.memoryJson) (List.filter_congr fun row hrow => ?_)
  have hplain := h.plain row hrow
  have hkey : row.memoryJson.key = q.key ↔ row.caseId = caseId ∧ row.agentId = q.agentId := by
    unfold MemoryCandidate.key MemoryQuery.key
    rw [hplain.scope, hq, MemoryKey.mk.injEq, if_neg nofun, if_neg nofun, hplain.agentId]
    constructor
    · rintro ⟨_, hagent, hsame⟩
      have hcases := hplain.caseId
      rw [hsame, hcase] at hcases
      exact ⟨(Option.some.inj hcases).symm, hagent⟩
    · rintro ⟨hsame, hagent⟩
      exact ⟨rfl, hagent, h.alike row hrow (by rw [hplain.caseId, hcase, hsame])⟩
  simp only [Function.comp, hkey, expiresAfter, hplain.expiresAt, hnow, hplain.status, Bool.decide_and]

/-- What the repository gives to a query. -/
theorem Mirrors.reads (h : Mirrors library q rows records) (rowOrder : RowOrder) {caseId asOf : String}
    {now : Instant} (hq : q.scope = .CASE) (hnamed : q.caseId ≠ "")
    (hcase : library.uuid q.caseId = some caseId) (hnow : library.timestamp asOf = some now)
    (hbounded : 0 ≤ q.maxRecords) :
    ∃ result, PostgresCaseMemoryRepository.read library rowOrder q asOf rows = .ok result ∧
      IsReading library (q.matching library asOf records) q.maxRecords.toNat result := by
  have hfound := h.found hq hcase hnow
  unfold PostgresCaseMemoryRepository.read uuidValue
  rw [if_neg (by simp [hq, hnamed]), hcase, timestampValue_some "as_of" hnow]
  simp only [orRaise_some, ok_bind, require, if_pos hbounded]
  refine ⟨_, rfl, _, ?_, ?_, List.map_take⟩
  · rw [← hfound]
    exact ((List.perm_insertionSort _ _).trans (rowOrder.perm _)).map _
  · have hsorted := List.pairwise_insertionSort (fun a b : CaseMemoryRow => b.createdAt ≤ a.createdAt)
      (rowOrder.order (rows.rows.filter fun row => row.caseId = caseId && row.agentId = q.agentId &&
        row.status = .ACTIVE && decide (now < row.expiresAt) &&
        (q.allowRestricted || decide (row.memoryJson.sensitivity ≠ .RESTRICTED))))
    have hplain : ∀ row ∈ rowOrder.order (rows.rows.filter fun row => row.caseId = caseId &&
        row.agentId = q.agentId && row.status = .ACTIVE && decide (now < row.expiresAt) &&
        (q.allowRestricted || decide (row.memoryJson.sensitivity ≠ .RESTRICTED))),
        Plain library row := by
      intro row hrow
      exact h.plain row (List.mem_of_mem_filter ((rowOrder.perm _).mem_iff.mp hrow))
    refine List.pairwise_map.mpr (hsorted.imp_of_mem fun ha hb hle => ?_)
    have ha := hplain _ ((List.perm_insertionSort _ _).mem_iff.mp ha)
    have hb := hplain _ ((List.perm_insertionSort _ _).mem_iff.mp hb)
    exact ⟨_, _, ha.createdAt, hb.createdAt, hle⟩

end

/-! ## Both stores -/

/-- An operation does not look at the ids of the memories. -/
theorem MemoryOperation.intended_anonymous (operation : MemoryOperation library)
    (records : List MemoryRecord) : (operation.intended records).map anonymous =
      ((records.map anonymous).map fun r => if r.status = .ACTIVE ∧ operation.deletes r = true then
        LocalMemoryStore.deleted r else r) ++ operation.stored.toList.map anonymous := by
  unfold intended
  rw [List.map_append, List.map_map, List.map_map]
  refine congrArg (· ++ _) (List.map_congr_left fun r _ => ?_)
  have hdeletes : operation.deletes (anonymous r) = operation.deletes r := rfl
  have hstatus : (anonymous r).status = r.status := rfl
  simp only [Function.comp, hdeletes, hstatus]
  split
  · rfl
  · rfl

theorem intendedAll_anonymous : ∀ (operations : List (CaseMemoryOperation library))
    {files rows : List MemoryRecord}, files.map anonymous = rows.map anonymous →
    (intendedAll (operations.map (·.atFiles)) files).map anonymous =
      (intendedAll (operations.map (·.atRows)) rows).map anonymous
  | [], _, _, h => h
  | operation :: rest, files, rows, h => by
    show (intendedAll (rest.map (·.atFiles)) (operation.atFiles.intended files)).map anonymous =
      (intendedAll (rest.map (·.atRows)) (operation.atRows.intended rows)).map anonymous
    refine intendedAll_anonymous rest ?_
    rw [MemoryOperation.intended_anonymous, MemoryOperation.intended_anonymous, h]
    cases operation with
    | admitCase admission memoryId rowId => rfl
    | expireDue asOf => rfl

theorem matching_anonymous (q : MemoryQuery) (asOf : String) (records : List MemoryRecord) :
    (q.matching library asOf records).map anonymous =
      q.matching library asOf (records.map anonymous) := by
  unfold MemoryQuery.matching
  rw [List.filter_map]
  rfl

theorem IsReading.anonymous {records result : List MemoryRecord} {n : Nat}
    (h : IsReading library records n result) :
    IsReading library (records.map anonymous) n (result.map anonymous) := by
  obtain ⟨sorted, hperm, hnewest, rfl⟩ := h
  refine ⟨sorted.map Memory.anonymous, hperm.map _, ?_, List.map_take⟩
  exact List.pairwise_map.mpr (hnewest.imp id)

/-- Two readings are one where no two memories were created at the same instant. -/
theorem IsReading.unique {records result other : List MemoryRecord} {n : Nat}
    (h : IsReading library records n result) (h' : IsReading library records n other)
    (hties : ∀ a ∈ records, ∀ b ∈ records,
      library.timestamp a.createdAt = library.timestamp b.createdAt → a = b) : result = other := by
  obtain ⟨sorted, hperm, hnewest, rfl⟩ := h
  obtain ⟨sorted', hperm', hnewest', rfl⟩ := h'
  refine congrArg (List.take n) (List.Perm.eq_of_pairwise (fun a b ha hb hab hba => ?_) hnewest hnewest'
    (hperm.trans hperm'.symm))
  obtain ⟨x, y, hx, hy, hle⟩ := hab
  obtain ⟨y', x', hy', hx', hle'⟩ := hba
  rw [hx] at hx'
  rw [hy] at hy'
  cases hx'
  cases hy'
  exact hties a (hperm.mem_iff.mp ha) b (hperm'.mem_iff.mp hb) (by rw [hx, hy, le_antisymm hle' hle])

theorem readAt_shared {listing : Listing} {q : MemoryQuery} (hq : q.scope = .SHARED) (asOf : String)
    (files : MemoryFiles) : LocalMemoryStore.readAt library listing q asOf files = [] := by
  unfold LocalMemoryStore.readAt
  rw [hq]

/-- The local store gives a query what it is meant to get. -/
theorem ReadsPlainly.reads {listing : Listing} {q : MemoryQuery} {asOf : String}
    {operations : List (MemoryOperation library)}
    (h : ReadsPlainly library listing q asOf operations) :
    IsReading library (q.matching library asOf (intendedAll operations [])) q.maxRecords.toNat
      (LocalMemoryStore.readAt library listing q asOf (performAll listing operations .empty)) := by
  by_cases hq : q.scope = .SHARED
  · have hnone : q.matching library asOf (intendedAll operations []) = [] := by
      refine List.filter_eq_nil_iff.mpr fun r hr => ?_
      have hkey := intendedAll_none hq (fun r hr => absurd hr List.not_mem_nil) h.tells r hr
      simp [hkey]
    rw [hnone, readAt_shared hq]
    exact ⟨[], .refl _, .nil, List.take_nil.symm⟩
  · exact ((Holds.empty library q).performAll hq h.tells).reads hq (h.expires hq) h.bounded

/-- What the agreement of the stores is about: a query for a case by its UUID. -/
structure ReadsBoth (library : MemoryLibrary) (listing : Listing) (q : MemoryQuery) (asOf : String)
    (operations : List (CaseMemoryOperation library)) : Prop where
  files : ReadsPlainly library listing q asOf (operations.map (·.atFiles))
  scope : q.scope = .CASE
  named : q.caseId ≠ ""
  caseId : ∃ caseId, library.uuid q.caseId = some caseId
  asOf : ∃ now, library.timestamp asOf = some now
  alike : SpelledAlike q operations

/-- **Memory isolation and agreement**. When the local store `ReadsPlainly`, a query gets the newest
memories of its own key; when the repository has done the same admissions and expiries, it gives
the same memories, up to the ids that were drawn and to the order of those that are as new. -/
theorem memory_isolated (library : MemoryLibrary) (listing : Listing) (rowOrder : RowOrder)
    (q : MemoryQuery) (asOf : String) :
    (∀ operations, ReadsPlainly library listing q asOf operations →
      IsReading library (q.matching library asOf (intendedAll operations [])) q.maxRecords.toNat
        (LocalMemoryStore.readAt library listing q asOf (performAll listing operations .empty))) ∧
    ∀ operations rows, ReadsBoth library listing q asOf operations →
      performRows operations .empty = .ok rows →
      ∃ records files result, PostgresCaseMemoryRepository.read library rowOrder q asOf rows = .ok result ∧
        files = LocalMemoryStore.readAt library listing q asOf
          (performAll listing (operations.map (·.atFiles)) .empty) ∧
        records = (q.matching library asOf
          (intendedAll (operations.map (·.atFiles)) [])).map anonymous ∧
        IsReading library records q.maxRecords.toNat (files.map anonymous) ∧
        IsReading library records q.maxRecords.toNat (result.map anonymous) ∧
        ((∀ a ∈ records, ∀ b ∈ records,
          library.timestamp a.createdAt = library.timestamp b.createdAt → a = b) →
          files.map anonymous = result.map anonymous) := by
  refine ⟨fun operations h => h.reads, fun operations rows h hrun => ?_⟩
  obtain ⟨caseId, hcase⟩ := h.caseId
  obtain ⟨now, hnow⟩ := h.asOf
  have hmirrors := (Mirrors.empty library q).performRows h.alike hrun
  obtain ⟨result, hread, hreading⟩ :=
    hmirrors.reads rowOrder h.scope h.named hcase hnow h.files.bounded
  have hsame : (q.matching library asOf (intendedAll (operations.map (·.atRows)) [])).map anonymous =
      (q.matching library asOf (intendedAll (operations.map (·.atFiles)) [])).map anonymous := by
    rw [matching_anonymous, matching_anonymous, intendedAll_anonymous operations rfl]
  have hfiles := h.files.reads.anonymous
  have hrows := hsame ▸ hreading.anonymous
  exact ⟨_, _, result, hread, rfl, rfl, hfiles, hrows, hfiles.unique hrows⟩

/-! ## A case memory in July -/

/-- Three times in July, and the UUIDs of two cases. -/
def julyLibrary : MemoryLibrary where
  isalnum c := c.isAlphanum
  fromisoformat value :=
    if value = "2026-07-01T00:00:00+00:00" then some (some 1782864000000000)
    else if value = "2026-07-10T00:00:00+00:00" then some (some 1783641600000000)
    else if value = "2026-07-20T00:00:00+00:00" then some (some 1784505600000000)
    else none
  uuid value :=
    if value.length = 36 then some value else none

/-- A memory of a case. -/
def julyCandidate (caseId : String) : MemoryCandidate where
  scope := .CASE
  caseId := caseId
  agentId := "claims_agent"
  summary := "The invoice is missing."
  sourceRunId := "0c1b1c53-6f7a-4f3e-9d41-5a8a3b7e0001"
  sourceTurnId := "0c1b1c53-6f7a-4f3e-9d41-5a8a3b7e0002"
  expiresAt := "2026-07-20T00:00:00+00:00"

def asListed : Listing := ⟨id, .refl⟩

def julyQuery (caseId : String) : MemoryQuery := { scope := .CASE, caseId, agentId := "claims_agent" }

/-- The admission of a case memory, for less than thirty days. -/
def julyAdmission : CaseMemoryAdmission julyLibrary where
  candidate := julyCandidate "7a0d3c5e-92b4-4c1f-8e66-3f1f5d2b9a10"
  admittedAt := "2026-07-01T00:00:00+00:00"
  case_only := rfl
  case_named := by decide +kernel
  no_subject := by decide +kernel
  bounded := ⟨1782864000000000, 1784505600000000, by decide +kernel, by decide +kernel, by decide,
    by decide⟩

def julyAdmit : CaseMemoryOperation julyLibrary :=
  .admitCase julyAdmission "mem_5f0c11d2" "f2f5a1de-3f5b-4f0e-b7c4-6f3b1a2c4d5e"

def julyReading : MemoryQuery := julyQuery "7a0d3c5e-92b4-4c1f-8e66-3f1f5d2b9a10"

def inOrder : RowOrder := ⟨id, .refl⟩

theorem julyAdmit_plain :
    ReadsPlainly julyLibrary asListed julyReading "2026-07-10T00:00:00+00:00" [julyAdmit.atFiles] := by
  have hfirst : TextOrdered julyLibrary "2026-07-01T00:00:00+00:00" "2026-07-01T00:00:00+00:00" :=
    ⟨1782864000000000, 1782864000000000, by decide +kernel, by decide +kernel, by decide +kernel⟩
  have hexpires : TextOrdered julyLibrary "2026-07-20T00:00:00+00:00" "2026-07-10T00:00:00+00:00" :=
    ⟨1784505600000000, 1783641600000000, by decide +kernel, by decide +kernel, by decide +kernel⟩
  refine ⟨⟨fun _ => ⟨?_, ?_, ?_, ?_, ?_, ?_⟩, nofun, trivial⟩, fun _ r hr => ?_, by decide⟩
  · rintro r ⟨⟩ _
    rfl
  · rintro r ⟨⟩ _ other hother
    exact absurd hother List.not_mem_nil
  · rintro r ⟨⟩ _
    exact .inr nofun
  · rintro r ⟨⟩ _
    exact ⟨hfirst, fun other hother => absurd hother List.not_mem_nil⟩
  · rintro asOf ⟨⟩
  · rintro e ⟨⟩
  · obtain ⟨file, hfile, _, rfl⟩ := mem_recordsIn.mp hr
    cases List.mem_singleton.mp hfile
    exact hexpires

/-- A case memory that both stores give back. -/
theorem memory_isolated_july :
    IsReading julyLibrary (julyReading.matching julyLibrary "2026-07-10T00:00:00+00:00"
        (intendedAll [julyAdmit.atFiles] [])) 5
      (LocalMemoryStore.readAt julyLibrary asListed julyReading "2026-07-10T00:00:00+00:00"
        (performAll asListed [julyAdmit.atFiles] .empty)) ∧
    ∃ rows records files result, performRows [julyAdmit] .empty = .ok rows ∧
      PostgresCaseMemoryRepository.read julyLibrary inOrder julyReading "2026-07-10T00:00:00+00:00" rows =
        .ok result ∧
      files = LocalMemoryStore.readAt julyLibrary asListed julyReading "2026-07-10T00:00:00+00:00"
        (performAll asListed [julyAdmit.atFiles] .empty) ∧
      IsReading julyLibrary records 5 (files.map anonymous) ∧
      IsReading julyLibrary records 5 (result.map anonymous) := by
  have hboth : ReadsBoth julyLibrary asListed julyReading "2026-07-10T00:00:00+00:00" [julyAdmit] :=
    ⟨julyAdmit_plain, rfl, by decide +kernel, ⟨_, rfl⟩, ⟨1783641600000000, by decide +kernel⟩, by
      rintro operation hoperation r hr _
      rw [List.mem_singleton.mp hoperation] at hr
      cases hr
      rfl⟩
  have hmain := memory_isolated julyLibrary asListed inOrder julyReading "2026-07-10T00:00:00+00:00"
  refine ⟨hmain.1 [julyAdmit.atFiles] julyAdmit_plain, ?_⟩
  obtain ⟨rows, hrows⟩ : ∃ rows, performRows [julyAdmit] .empty = .ok rows := ⟨_, rfl⟩
  obtain ⟨records, files, result, hread, hfiles, _, hleft, hright, _⟩ :=
    hmain.2 [julyAdmit] rows hboth hrows
  exact ⟨rows, records, files, result, hrows, hread, hfiles, hleft, hright⟩

/-- A case memory that is stored in July. -/
def julyAppend (caseId : String) : MemoryOperation julyLibrary :=
  .append (julyCandidate caseId) "mem_5f0c11d2" "2026-07-01T00:00:00+00:00"

/-- The cases `claim/1` and `claim_1` share a directory: a query for one gets the memory of the other. -/
theorem case_memory_shared :
    (LocalMemoryStore.readAt julyLibrary asListed (julyQuery "claim_1") "2026-07-10T00:00:00+00:00"
      (performAll asListed [julyAppend "claim/1"] .empty)).map (·.caseId) = ["claim/1"] ∧
    ¬ IsReading julyLibrary ((julyQuery "claim_1").matching julyLibrary "2026-07-10T00:00:00+00:00"
        (intendedAll [julyAppend "claim/1"] [])) 5
      (LocalMemoryStore.readAt julyLibrary asListed (julyQuery "claim_1") "2026-07-10T00:00:00+00:00"
        (performAll asListed [julyAppend "claim/1"] .empty)) := by
  have hread : (LocalMemoryStore.readAt julyLibrary asListed (julyQuery "claim_1")
      "2026-07-10T00:00:00+00:00" (performAll asListed [julyAppend "claim/1"] .empty)).map (·.caseId) =
        ["claim/1"] := by decide +kernel
  refine ⟨hread, ?_⟩
  have hnone : (julyQuery "claim_1").matching julyLibrary "2026-07-10T00:00:00+00:00"
      (intendedAll [julyAppend "claim/1"] []) = [] := rfl
  rw [hnone]
  rintro ⟨sorted, hperm, _, hresult⟩
  rw [hperm.eq_nil, List.take_nil] at hresult
  rw [hresult] at hread
  cases hread

end ProofAgent.Memory
