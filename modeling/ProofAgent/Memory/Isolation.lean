import ProofAgent.Memory.Stores

/-! # What a memory store is for

A query gets the memories of its own key that are active and have not expired, newest first. The
local store keeps to that as long as no other key shares the query's directory, the texts of its
times are ordered as the instants are, and nothing is asked of it that it does not look at. -/
namespace ProofAgent.Memory

open Base

/-! ## The abstract store -/

/-- Whom a memory belongs to. -/
structure MemoryKey where
  scope : MemoryScope
  agentId : String
  /-- The subject of a user memory, else the case. -/
  holder : String
  deriving DecidableEq

def MemoryCandidate.key (c : MemoryCandidate) : MemoryKey :=
  ⟨c.scope, c.agentId, if c.scope = .USER then c.subjectRef else c.caseId⟩

def MemoryQuery.key (q : MemoryQuery) : MemoryKey :=
  ⟨q.scope, q.agentId, if q.scope = .USER then q.subjectRef else q.caseId⟩

variable (library : MemoryLibrary)

/-- The record expires after an instant. -/
def expiresAfter (asOf : String) (r : MemoryRecord) : Bool :=
  match library.timestamp r.expiresAt, library.timestamp asOf with
  | some expires, some now => decide (now < expires)
  | _, _ => false

/-- The record has expired by an instant. -/
def expiredBy (asOf : String) (r : MemoryRecord) : Bool :=
  match library.timestamp r.expiresAt, library.timestamp asOf with
  | some expires, some now => decide (expires ≤ now)
  | _, _ => false

/-- The first record is not older than the second one. -/
def NotOlder (a b : MemoryRecord) : Prop :=
  ∃ x y, library.timestamp a.createdAt = some x ∧ library.timestamp b.createdAt = some y ∧ y ≤ x

/-- What an operation of a store is given, and what it draws. -/
inductive MemoryOperation where
  | append (candidate : MemoryCandidate) (memoryId now : String)
  | admitCase (admission : CaseMemoryAdmission library) (memoryId : String)
  | expireDue (asOf : String)
  | softDeleteCase (agentId caseId now : String)
  | softDeleteSubject (agentId subjectRef now : String)

variable {library}

/-- The record that an operation stores. -/
def MemoryOperation.stored : MemoryOperation library → Option MemoryRecord
  | append candidate memoryId now =>
    some { candidate with memoryId, createdAt := now, status := .ACTIVE }
  | admitCase admission memoryId =>
    some { admission.candidate with memoryId, createdAt := admission.admittedAt, status := .ACTIVE }
  | _ => none

/-- The instant by which an operation expires case memories. -/
def MemoryOperation.expiry : MemoryOperation library → Option String
  | expireDue asOf => some asOf
  | _ => none

/-- The key whose memories an operation deletes, and its clock. -/
def MemoryOperation.emptied : MemoryOperation library → Option (MemoryKey × String)
  | softDeleteCase agentId caseId now => some (⟨.CASE, agentId, caseId⟩, now)
  | softDeleteSubject agentId subjectRef now => some (⟨.USER, agentId, subjectRef⟩, now)
  | _ => none

/-- Whether an operation deletes an active memory. -/
def MemoryOperation.deletes (operation : MemoryOperation library) (r : MemoryRecord) : Bool :=
  operation.expiry.any (fun asOf => r.scope = .CASE && expiredBy library asOf r) ||
    operation.emptied.any fun e => r.key = e.1 && expiresAfter library e.2 r

/-- The memories, after an operation. -/
def MemoryOperation.intended (operation : MemoryOperation library) (records : List MemoryRecord) :
    List MemoryRecord :=
  (records.map fun r => if r.status = .ACTIVE ∧ operation.deletes r = true then
    LocalMemoryStore.deleted r else r) ++ operation.stored.toList

/-- The memories that a query is to get. -/
def MemoryQuery.matching (library : MemoryLibrary) (q : MemoryQuery) (asOf : String)
    (records : List MemoryRecord) : List MemoryRecord :=
  records.filter fun r => r.key = q.key && r.status = .ACTIVE && expiresAfter library asOf r &&
    (q.allowRestricted || decide (r.sensitivity ≠ .RESTRICTED))

/-- The newest of some records, at most as many as were asked for. -/
def IsReading (library : MemoryLibrary) (records : List MemoryRecord) (n : Nat)
    (result : List MemoryRecord) : Prop :=
  ∃ sorted : List MemoryRecord, sorted.Perm records ∧ sorted.Pairwise (NotOlder library) ∧ result = sorted.take n

/-! ## The local store -/

/-- An operation on the files of the local store. -/
def MemoryOperation.perform (listing : Listing) :
    MemoryOperation library → MemoryFiles → MemoryFiles
  | append candidate memoryId now, files =>
    (LocalMemoryStore.append library candidate memoryId now files).2
  | admitCase admission memoryId, files =>
    (LocalMemoryStore.admitCaseMemory library admission memoryId files).2
  | expireDue asOf, files => (LocalMemoryStore.expireDue library listing asOf files).2
  | softDeleteCase agentId caseId now, files =>
    (LocalMemoryStore.softDeleteCase library listing agentId caseId now files).2
  | softDeleteSubject agentId subjectRef now, files =>
    (LocalMemoryStore.softDeleteSubject library listing agentId subjectRef now files).2

/-- The directory of a key. -/
def MemoryKey.directory (library : MemoryLibrary) (k : MemoryKey) : List String :=
  if k.scope = .USER then LocalMemoryStore.subjectDir library k.agentId k.holder
  else LocalMemoryStore.caseDir library k.agentId k.holder

/-- Two times whose texts are ordered as their instants are. -/
def TextOrdered (library : MemoryLibrary) (s t : String) : Prop :=
  ∃ x y, library.timestamp s = some x ∧ library.timestamp t = some y ∧ (s ≤ t ↔ x ≤ y)

/-- The records in a directory. -/
def recordsIn (directory : List String) (files : MemoryFiles) : List MemoryRecord :=
  (files.rows.filter fun file => file.path.directory = directory).map (·.record)

/-- What an operation does to the directory of a query can be told from it: nothing of another
key is stored there or deleted there, no id is drawn again, nothing restricted is stored unless it
is asked for, and the times that are compared are `TextOrdered`. -/
structure Tells (listing : Listing) (q : MemoryQuery) (operation : MemoryOperation library)
    (files : MemoryFiles) : Prop where
  own : ∀ r ∈ operation.stored, r.key.directory library = q.key.directory library → r.key = q.key
  fresh : ∀ r ∈ operation.stored, r.key = q.key →
    ∀ other ∈ recordsIn (q.key.directory library) files, other.memoryId ≠ r.memoryId
  shown : ∀ r ∈ operation.stored, r.key = q.key →
    q.allowRestricted = true ∨ r.sensitivity ≠ .RESTRICTED
  created : ∀ r ∈ operation.stored, r.key = q.key → TextOrdered library r.createdAt r.createdAt ∧
    ∀ other ∈ recordsIn (q.key.directory library) files,
      TextOrdered library other.createdAt r.createdAt ∧ TextOrdered library r.createdAt other.createdAt
  expires : ∀ asOf ∈ operation.expiry, q.scope = .CASE → q.agentId ≠ "" ∧ q.caseId ≠ "" ∧
    ∀ r ∈ recordsIn (q.key.directory library) files, TextOrdered library r.expiresAt asOf
  deletes : ∀ e ∈ operation.emptied, e.1.directory library = q.key.directory library →
    e.1 = q.key ∧
    (LocalMemoryStore.activeIn listing (q.key.directory library) e.2 files).length ≤ 10000 ∧
    ∀ r ∈ recordsIn (q.key.directory library) files, TextOrdered library r.expiresAt e.2

/-! ## Files -/

theorem recordPath_directory (r : MemoryRecord) :
    (LocalMemoryStore.recordPath library r).directory = r.key.directory library := by
  unfold LocalMemoryStore.recordPath MemoryKey.directory MemoryCandidate.key
  dsimp only
  split
  · rfl
  · rfl

theorem mem_recordsIn {directory : List String} {files : MemoryFiles} {r : MemoryRecord} :
    r ∈ recordsIn directory files ↔
      ∃ file ∈ files.rows, file.path.directory = directory ∧ file.record = r := by
  simp only [recordsIn, List.mem_map, List.mem_filter, decide_eq_true_eq]
  exact ⟨fun ⟨file, ⟨hmem, hdir⟩, hr⟩ => ⟨file, hmem, hdir, hr⟩,
    fun ⟨file, hmem, hdir, hr⟩ => ⟨file, ⟨hmem, hdir⟩, hr⟩⟩

theorem mem_writeRecord {files : MemoryFiles} {r : MemoryRecord} {file : MemoryFile} :
    file ∈ (LocalMemoryStore.writeRecord library files r).rows ↔
      file = ⟨LocalMemoryStore.recordPath library r, r⟩ ∨
        (file ∈ files.rows ∧ file.path ≠ LocalMemoryStore.recordPath library r) := by
  unfold LocalMemoryStore.writeRecord
  rw [Table.mem_upsert]
  constructor
  · rintro (hold | ⟨rfl, _⟩ | ⟨other, _, hpath, rfl⟩)
    · exact .inr hold
    · exact .inl rfl
    · refine .inl ?_
      have hpath : other.path = LocalMemoryStore.recordPath library r := hpath
      rw [← hpath]
  · rintro (rfl | hold)
    · by_cases h : ∃ other ∈ files.rows, other.path = LocalMemoryStore.recordPath library r
      · obtain ⟨other, hother, hpath⟩ := h
        exact .inr (.inr ⟨other, hother, hpath, by rw [← hpath]⟩)
      · exact .inr (.inl ⟨rfl, fun other hother hpath => h ⟨other, hother, hpath⟩⟩)
    · exact .inl hold

/-- Deleting some records, each of which has its own file. -/
theorem mem_markDeleted {file : MemoryFile} : ∀ {records : List MemoryRecord} {files : MemoryFiles},
    (∀ r ∈ records, ∀ s ∈ records, LocalMemoryStore.recordPath library r =
      LocalMemoryStore.recordPath library s → r = s) →
    (file ∈ (LocalMemoryStore.markDeleted library records files).2.rows ↔
      (∃ r ∈ records, file = ⟨LocalMemoryStore.recordPath library r, LocalMemoryStore.deleted r⟩) ∨
        (file ∈ files.rows ∧ ∀ r ∈ records, file.path ≠ LocalMemoryStore.recordPath library r))
  | [], files, _ => by
    simp [LocalMemoryStore.markDeleted]
  | r :: records, files, hpaths => by
    have hrest : file ∈ (LocalMemoryStore.markDeleted library records
        (LocalMemoryStore.writeRecord library files (LocalMemoryStore.deleted r))).2.rows ↔ _ :=
      mem_markDeleted fun a ha b hb =>
        hpaths a (List.mem_cons_of_mem _ ha) b (List.mem_cons_of_mem _ hb)
    have hsame : LocalMemoryStore.recordPath library (LocalMemoryStore.deleted r) =
      LocalMemoryStore.recordPath library r := rfl
    refine Iff.trans hrest ?_
    rw [mem_writeRecord, hsame]
    constructor
    · rintro (⟨s, hs, rfl⟩ | ⟨rfl | ⟨hfile, hne⟩, hall⟩)
      · exact .inl ⟨s, List.mem_cons_of_mem _ hs, rfl⟩
      · exact .inl ⟨r, List.mem_cons_self, rfl⟩
      · refine .inr ⟨hfile, fun s hs => ?_⟩
        rcases List.mem_cons.mp hs with rfl | hs
        · exact hne
        · exact hall s hs
    · rintro (⟨s, hs, rfl⟩ | ⟨hfile, hall⟩)
      · rcases List.mem_cons.mp hs with rfl | hs
        · by_cases hagain : ∃ t ∈ records, LocalMemoryStore.recordPath library s =
              LocalMemoryStore.recordPath library t
          · obtain ⟨t, ht, hpath⟩ := hagain
            have hst := hpaths s List.mem_cons_self t (List.mem_cons_of_mem _ ht) hpath
            exact .inl ⟨t, ht, by rw [hst]⟩
          · exact .inr ⟨.inl rfl, fun t ht hpath => hagain ⟨t, ht, hpath⟩⟩
        · exact .inl ⟨s, hs, rfl⟩
      · exact .inr ⟨.inr ⟨hfile, hall r List.mem_cons_self⟩,
          fun s hs => hall s (List.mem_cons_of_mem _ hs)⟩

/-! ## The directory of a query -/

/-- The files in the directory of a query are the memories of its key. -/
structure Holds (library : MemoryLibrary) (q : MemoryQuery) (files : MemoryFiles)
    (records : List MemoryRecord) : Prop where
  located : ∀ file ∈ files.rows, file.path = LocalMemoryStore.recordPath library file.record
  same : ∀ r, r ∈ recordsIn (q.key.directory library) files ↔ r ∈ records ∧ r.key = q.key
  distinct : ((records.filter fun r => r.key = q.key).map (·.memoryId)).Nodup
  shown : ∀ r ∈ recordsIn (q.key.directory library) files,
    q.allowRestricted = true ∨ r.sensitivity ≠ .RESTRICTED
  created : ∀ r ∈ recordsIn (q.key.directory library) files,
    ∀ s ∈ recordsIn (q.key.directory library) files, TextOrdered library r.createdAt s.createdAt

theorem Holds.empty (library : MemoryLibrary) (q : MemoryQuery) : Holds library q .empty [] where
  located := fun _ h => (nomatch h)
  same := by simp [recordsIn]
  distinct := List.nodup_nil
  shown := fun _ h => (nomatch h)
  created := fun _ h => (nomatch h)

section
variable {q : MemoryQuery} {files : MemoryFiles} {records : List MemoryRecord}

/-- The file of a record. -/
theorem Holds.file (h : Holds library q files records) {r : MemoryRecord} :
    r ∈ recordsIn (q.key.directory library) files ↔
      ⟨LocalMemoryStore.recordPath library r, r⟩ ∈ files.rows ∧
        r.key.directory library = q.key.directory library := by
  rw [mem_recordsIn]
  constructor
  · rintro ⟨file, hfile, hdir, rfl⟩
    have hpath := h.located file hfile
    refine ⟨hpath ▸ hfile, ?_⟩
    rw [← recordPath_directory, ← hpath, hdir]
  · rintro ⟨hfile, hdir⟩
    exact ⟨_, hfile, (recordPath_directory r).trans hdir, rfl⟩

/-- A record that is stored under a new id. -/
theorem Holds.stored (h : Holds library q files records) {r : MemoryRecord}
    (hown : r.key.directory library = q.key.directory library → r.key = q.key)
    (hfresh : r.key = q.key → ∀ other ∈ recordsIn (q.key.directory library) files,
      other.memoryId ≠ r.memoryId)
    (hshown : r.key = q.key → q.allowRestricted = true ∨ r.sensitivity ≠ .RESTRICTED)
    (hcreated : r.key = q.key → TextOrdered library r.createdAt r.createdAt ∧
      ∀ other ∈ recordsIn (q.key.directory library) files,
        TextOrdered library other.createdAt r.createdAt ∧
          TextOrdered library r.createdAt other.createdAt) :
    Holds library q (LocalMemoryStore.writeRecord library files r) (records ++ [r]) := by
  have hmem : ∀ s, s ∈ recordsIn (q.key.directory library)
      (LocalMemoryStore.writeRecord library files r) ↔
        s ∈ recordsIn (q.key.directory library) files ∨ (s = r ∧ r.key = q.key) := by
    intro s
    rw [mem_recordsIn, h.file]
    constructor
    · rintro ⟨file, hfile, hdir, rfl⟩
      rcases mem_writeRecord.mp hfile with rfl | ⟨hold, _⟩
      · exact .inr ⟨rfl, hown ((recordPath_directory r).symm.trans hdir)⟩
      · have hpath := h.located file hold
        refine .inl ⟨hpath ▸ hold, ?_⟩
        rw [← recordPath_directory, ← hpath, hdir]
    · rintro (⟨hold, hdir⟩ | ⟨rfl, hkey⟩)
      · refine ⟨_, mem_writeRecord.mpr (.inr ⟨hold, fun hpath => ?_⟩),
          (recordPath_directory s).trans hdir, rfl⟩
        have hdir' : r.key.directory library = q.key.directory library := by
          rw [← recordPath_directory, ← hpath]
          exact (recordPath_directory s).trans hdir
        have hname : s.memoryId ++ ".json" = r.memoryId ++ ".json" := congrArg FilePath.name hpath
        exact hfresh (hown hdir') s (h.file.mpr ⟨hold, hdir⟩) ((String.append_left_inj ".json").mp hname)
      · refine ⟨_, mem_writeRecord.mpr (.inl rfl), ?_, rfl⟩
        rw [recordPath_directory, hkey]
  refine ⟨fun file hfile => ?_, fun s => ?_, ?_, fun s hs => ?_, fun s hs t ht => ?_⟩
  · rcases mem_writeRecord.mp hfile with rfl | ⟨hold, _⟩
    · rfl
    · exact h.located file hold
  · rw [hmem, h.same, List.mem_append, List.mem_singleton]
    constructor
    · rintro (⟨hs, hkey⟩ | ⟨rfl, hkey⟩)
      · exact ⟨.inl hs, hkey⟩
      · exact ⟨.inr rfl, hkey⟩
    · rintro ⟨hs | rfl, hkey⟩
      · exact .inl ⟨hs, hkey⟩
      · exact .inr ⟨rfl, hkey⟩
  · rw [List.filter_append, List.map_append, List.nodup_append]
    by_cases hkey : r.key = q.key
    · refine ⟨h.distinct, by simp [hkey], fun a ha b hb hab => ?_⟩
      obtain ⟨s, hs, rfl⟩ := List.mem_map.mp ha
      obtain ⟨hs, hskey⟩ := List.mem_filter.mp hs
      have hb : b = r.memoryId := by simpa [hkey] using hb
      exact hfresh hkey s ((h.same s).mpr ⟨hs, of_decide_eq_true hskey⟩) (hab.trans hb)
    · refine ⟨h.distinct, by simp [hkey], fun a _ b hb => ?_⟩
      simp [hkey] at hb
  · rcases (hmem s).mp hs with hs | ⟨rfl, hkey⟩
    · exact h.shown s hs
    · exact hshown hkey
  · rcases (hmem s).mp hs with hs' | ⟨rfl, hkey⟩
    · rcases (hmem t).mp ht with ht' | ⟨rfl, hkey⟩
      · exact h.created s hs' t ht'
      · exact ((hcreated hkey).2 s hs').1
    · rcases (hmem t).mp ht with ht' | ⟨rfl, _⟩
      · exact ((hcreated hkey).2 t ht').2
      · exact (hcreated hkey).1

/-- Some records are deleted: in the directory of the query, those that are meant. -/
theorem Holds.marked (h : Holds library q files records) {due : List MemoryRecord}
    {p : MemoryRecord → Bool}
    (hdue : ∀ r ∈ due, ⟨LocalMemoryStore.recordPath library r, r⟩ ∈ files.rows)
    (hmeant : ∀ r ∈ recordsIn (q.key.directory library) files,
      (r ∈ due ↔ r.status = .ACTIVE ∧ p r = true)) :
    Holds library q (LocalMemoryStore.markDeleted library due files).2
      (records.map fun r => if r.status = .ACTIVE ∧ p r = true then
        LocalMemoryStore.deleted r else r) := by
  have hpaths : ∀ r ∈ due, ∀ s ∈ due, LocalMemoryStore.recordPath library r =
      LocalMemoryStore.recordPath library s → r = s := by
    intro r hr s hs hpath
    have hfile : (⟨LocalMemoryStore.recordPath library r, r⟩ : MemoryFile) =
        ⟨LocalMemoryStore.recordPath library s, s⟩ :=
      Table.eq_of_key (hdue r hr) (hdue s hs) hpath
    exact congrArg MemoryFile.record hfile
  let f : MemoryRecord → MemoryRecord := fun r =>
    if r.status = .ACTIVE ∧ p r = true then LocalMemoryStore.deleted r else r
  have hkeeps : ∀ r, (f r).key = r.key ∧ (f r).memoryId = r.memoryId ∧
      (f r).sensitivity = r.sensitivity ∧ (f r).createdAt = r.createdAt := by
    intro r
    dsimp only [f]
    split
    · exact ⟨rfl, rfl, rfl, rfl⟩
    · exact ⟨rfl, rfl, rfl, rfl⟩
  have hmem : ∀ s, s ∈ recordsIn (q.key.directory library)
      (LocalMemoryStore.markDeleted library due files).2 ↔
        ∃ r ∈ recordsIn (q.key.directory library) files, s = f r := by
    intro s
    rw [mem_recordsIn]
    constructor
    · rintro ⟨file, hfile, hdir, rfl⟩
      rcases (mem_markDeleted hpaths).mp hfile with ⟨r, hr, rfl⟩ | ⟨hold, hne⟩
      · have hin := h.file.mpr ⟨hdue r hr, (recordPath_directory r).symm.trans hdir⟩
        exact ⟨r, hin, (if_pos ((hmeant r hin).mp hr)).symm⟩
      · have hin := mem_recordsIn.mpr ⟨file, hold, hdir, rfl⟩
        refine ⟨file.record, hin, (if_neg fun hmeans => ?_).symm⟩
        exact hne _ ((hmeant _ hin).mpr hmeans) (h.located file hold)
    · rintro ⟨r, hin, rfl⟩
      obtain ⟨hold, hdir⟩ := h.file.mp hin
      by_cases hr : r ∈ due
      · refine ⟨_, (mem_markDeleted hpaths).mpr (.inl ⟨r, hr, rfl⟩),
          (recordPath_directory r).trans hdir, (if_pos ((hmeant r hin).mp hr)).symm⟩
      · refine ⟨_, (mem_markDeleted hpaths).mpr (.inr ⟨hold, fun s hs hpath => ?_⟩),
          (recordPath_directory r).trans hdir, (if_neg fun hmeans => hr ((hmeant r hin).mpr hmeans)).symm⟩
        have hfile : (⟨LocalMemoryStore.recordPath library r, r⟩ : MemoryFile) =
            ⟨LocalMemoryStore.recordPath library s, s⟩ :=
          Table.eq_of_key hold (hdue s hs) hpath
        have hrs : r = s := congrArg MemoryFile.record hfile
        exact hr (hrs ▸ hs)
  refine ⟨fun file hfile => ?_, fun s => ?_, ?_, fun s hs => ?_, fun s hs t ht => ?_⟩
  · rcases (mem_markDeleted hpaths).mp hfile with ⟨r, _, rfl⟩ | ⟨hold, _⟩
    · rfl
    · exact h.located file hold
  · rw [hmem, List.mem_map]
    constructor
    · rintro ⟨r, hin, rfl⟩
      obtain ⟨hr, hkey⟩ := (h.same r).mp hin
      exact ⟨⟨r, hr, rfl⟩, (hkeeps r).1.trans hkey⟩
    · rintro ⟨⟨r, hr, rfl⟩, hkey⟩
      exact ⟨r, (h.same r).mpr ⟨hr, (hkeeps r).1.symm.trans hkey⟩, rfl⟩
  · have hsame : ((records.map f).filter fun r => r.key = q.key).map (·.memoryId) =
        (records.filter fun r => r.key = q.key).map (·.memoryId) := by
      rw [List.filter_map, List.map_map]
      have hfilter : (fun r => decide (r.key = q.key)) ∘ f =
          fun r : MemoryRecord => decide (r.key = q.key) := by
        funext r
        exact congrArg (fun k => decide (k = q.key)) (hkeeps r).1
      rw [hfilter]
      exact List.map_congr_left fun r _ => (hkeeps r).2.1
    exact hsame ▸ h.distinct
  · obtain ⟨r, hr, rfl⟩ := (hmem s).mp hs
    rw [(hkeeps r).2.2.1]
    exact h.shown r hr
  · obtain ⟨r, hr, rfl⟩ := (hmem s).mp hs
    obtain ⟨u, hu, rfl⟩ := (hmem t).mp ht
    rw [(hkeeps r).2.2.2, (hkeeps u).2.2.2]
    exact h.created r hr u hu

end

/-! ## One operation -/

theorem TextOrdered.expiredBy_iff {r : MemoryRecord} {asOf : String}
    (h : TextOrdered library r.expiresAt asOf) :
    expiredBy library asOf r = true ↔ r.expiresAt ≤ asOf := by
  obtain ⟨x, y, hx, hy, hle⟩ := h
  unfold expiredBy
  rw [hx, hy, hle]
  exact decide_eq_true_iff

theorem TextOrdered.expiresAfter_iff {r : MemoryRecord} {asOf : String}
    (h : TextOrdered library r.expiresAt asOf) :
    expiresAfter library asOf r = true ↔ ¬ r.expiresAt ≤ asOf := by
  obtain ⟨x, y, hx, hy, hle⟩ := h
  unfold expiresAfter
  rw [hx, hy, hle, not_le]
  exact decide_eq_true_iff

variable {listing : Listing} {q : MemoryQuery} {files : MemoryFiles} {records : List MemoryRecord}

theorem mem_activeIn {directory : List String} {asOf : String} {r : MemoryRecord} :
    r ∈ LocalMemoryStore.activeIn listing directory asOf files ↔
      r ∈ recordsIn directory files ∧ r.status = .ACTIVE ∧ ¬ r.expiresAt ≤ asOf := by
  unfold LocalMemoryStore.activeIn recordsIn
  simp only [List.mem_filter, List.mem_map, (listing.perm files.rows).mem_iff, Bool.and_eq_true,
    Bool.not_eq_true', decide_eq_true_eq, decide_eq_false_iff_not]

theorem readAt_eq (hq : q.scope ≠ .SHARED) (asOf : String) :
    LocalMemoryStore.readAt library listing q asOf files = LocalMemoryStore.upTo q.maxRecords
      ((LocalMemoryStore.activeIn listing (q.key.directory library) asOf files).insertionSort
        fun a b => b.createdAt ≤ a.createdAt) := by
  unfold LocalMemoryStore.readAt MemoryQuery.key MemoryKey.directory
  cases h : q.scope with
  | CASE => rfl
  | USER => rfl
  | SHARED => exact absurd h hq

/-- A read of at most ten thousand records that are at most ten thousand. -/
theorem mem_readAt_all {asOf : String} {r : MemoryRecord} (hq : q.scope ≠ .SHARED)
    (hmax : q.maxRecords = 10000)
    (hfew : (LocalMemoryStore.activeIn listing (q.key.directory library) asOf files).length ≤ 10000) :
    r ∈ LocalMemoryStore.readAt library listing q asOf files ↔
      r ∈ LocalMemoryStore.activeIn listing (q.key.directory library) asOf files := by
  have hlength := List.length_insertionSort (fun a b : MemoryRecord => b.createdAt ≤ a.createdAt)
    (LocalMemoryStore.activeIn listing (q.key.directory library) asOf files)
  rw [readAt_eq hq, hmax]
  unfold LocalMemoryStore.upTo
  rw [if_pos (by decide), List.take_of_length_le (by rw [hlength]; exact hfew)]
  exact (List.perm_insertionSort _ _).mem_iff

theorem mem_of_readAt {asOf : String} {r : MemoryRecord} (hq : q.scope ≠ .SHARED)
    (hr : r ∈ LocalMemoryStore.readAt library listing q asOf files) :
    r ∈ LocalMemoryStore.activeIn listing (q.key.directory library) asOf files := by
  rw [readAt_eq hq] at hr
  refine (List.perm_insertionSort (fun a b : MemoryRecord => b.createdAt ≤ a.createdAt) _).mem_iff.mp ?_
  unfold LocalMemoryStore.upTo at hr
  split at hr
  · exact List.mem_of_mem_take hr
  · exact List.mem_of_mem_take hr

theorem MemoryOperation.intended_of_kept {operation : MemoryOperation library}
    (hexpiry : operation.expiry = none) (hemptied : operation.emptied = none) :
    operation.intended records = records ++ operation.stored.toList := by
  unfold intended
  congr 1
  have hkept : ∀ r, operation.deletes r = false := by
    intro r
    unfold deletes
    rw [hexpiry, hemptied]
    rfl
  simp [hkept]

theorem Holds.perform_stored (h : Holds library q files records)
    {operation : MemoryOperation library} {r : MemoryRecord} (hstored : operation.stored = some r)
    (hexpiry : operation.expiry = none) (hemptied : operation.emptied = none)
    (hperform : operation.perform listing files = LocalMemoryStore.writeRecord library files r)
    (ht : Tells listing q operation files) :
    Holds library q (operation.perform listing files) (operation.intended records) := by
  rw [hperform, MemoryOperation.intended_of_kept hexpiry hemptied, hstored]
  exact h.stored (ht.own r hstored) (ht.fresh r hstored) (ht.shown r hstored) (ht.created r hstored)

/-- The memories of a key are deleted. -/
theorem Holds.perform_emptied (h : Holds library q files records) (query : MemoryQuery)
    {operation : MemoryOperation library} {now : String}
    (hscope : query.scope ≠ .SHARED) (hmax : query.maxRecords = 10000)
    (hexpiry : operation.expiry = none) (hemptied : operation.emptied = some (query.key, now))
    (hstored : operation.stored = none)
    (hperform : operation.perform listing files = (LocalMemoryStore.markDeleted library
      (LocalMemoryStore.readAt library listing query now files) files).2)
    (ht : Tells listing q operation files) :
    Holds library q (operation.perform listing files) (operation.intended records) := by
  have hdeletes : ∀ r, operation.deletes r = true ↔
      r.key = query.key ∧ expiresAfter library now r = true := by
    intro r
    unfold MemoryOperation.deletes
    rw [hexpiry, hemptied]
    simp
  rw [hperform]
  unfold MemoryOperation.intended
  rw [hstored, Option.toList_none, List.append_nil]
  refine h.marked (fun r hr => ?_) fun r hr => ?_
  · obtain ⟨hin, _⟩ := mem_activeIn.mp (mem_of_readAt hscope hr)
    obtain ⟨file, hfile, _, rfl⟩ := mem_recordsIn.mp hin
    exact h.located file hfile ▸ hfile
  · rw [hdeletes]
    have hkey := ((h.same r).mp hr).2
    constructor
    · intro hdue
      obtain ⟨hin, hactive, hnot⟩ := mem_activeIn.mp (mem_of_readAt hscope hdue)
      obtain ⟨file, hfile, hdir, rfl⟩ := mem_recordsIn.mp hin
      have hsame : query.key.directory library = q.key.directory library := by
        rw [← hdir, h.located file hfile, recordPath_directory, hkey]
      obtain ⟨howner, _, hordered⟩ := ht.deletes _ hemptied hsame
      exact ⟨hactive, hkey.trans howner.symm, (hordered _ hr).expiresAfter_iff.mpr hnot⟩
    · rintro ⟨hactive, howner, hafter⟩
      have howner : query.key = q.key := howner.symm.trans hkey
      obtain ⟨_, hfew, hordered⟩ := ht.deletes _ hemptied (by rw [howner])
      have hnot := (hordered r hr).expiresAfter_iff.mp hafter
      rw [← howner] at hfew hr
      exact (mem_readAt_all hscope hmax hfew).mpr (mem_activeIn.mpr ⟨hr, hactive, hnot⟩)

theorem safePathPart_eq_empty {value : String} (h : safePathPart library value = "") : value = "" := by
  have hlist := congrArg String.toList h
  unfold safePathPart at hlist
  rw [String.toList_ofList] at hlist
  exact String.toList_eq_nil_iff.mp (List.map_eq_nil_iff.mp hlist)

/-- The case memories of named agents and cases are found by `expire_due`. -/
theorem isCaseFile_iff {file : MemoryFile} (hdir : file.path.directory = q.key.directory library)
    (hq : q.scope ≠ .SHARED) (hnamed : q.scope = .CASE → q.agentId ≠ "" ∧ q.caseId ≠ "") :
    LocalMemoryStore.isCaseFile file = true ↔ q.scope = .CASE := by
  unfold LocalMemoryStore.isCaseFile
  rw [hdir]
  unfold MemoryQuery.key MemoryKey.directory
  cases hscope : q.scope with
  | SHARED => exact absurd hscope hq
  | USER => simp [LocalMemoryStore.subjectDir, below]
  | CASE =>
    obtain ⟨hagent, hcase⟩ := hnamed hscope
    have hagent : safePathPart library q.agentId ≠ "" := fun h => hagent (safePathPart_eq_empty h)
    have hcase : safePathPart library q.caseId ≠ "" := fun h => hcase (safePathPart_eq_empty h)
    simp [LocalMemoryStore.caseDir, below, hagent, hcase]

theorem Holds.perform_expired (h : Holds library q files records) {asOf : String}
    (hq : q.scope ≠ .SHARED) (ht : Tells listing q (.expireDue asOf : MemoryOperation library) files) :
    Holds library q ((MemoryOperation.expireDue asOf : MemoryOperation library).perform listing files)
      ((MemoryOperation.expireDue asOf : MemoryOperation library).intended records) := by
  have hintended : (MemoryOperation.expireDue asOf : MemoryOperation library).intended records =
      records.map fun r => if r.status = .ACTIVE ∧
        (r.scope = .CASE && expiredBy library asOf r) = true then LocalMemoryStore.deleted r else r := by
    simp [MemoryOperation.intended, MemoryOperation.stored, MemoryOperation.deletes,
      MemoryOperation.expiry, MemoryOperation.emptied]
  rw [hintended]
  have hexpires := ht.expires asOf rfl
  have hmem : ∀ r, r ∈ (((listing.order files.rows).filter LocalMemoryStore.isCaseFile).map
      (·.record)).filter (fun record => record.status = .ACTIVE && decide (record.expiresAt ≤ asOf)) ↔
        (∃ file ∈ files.rows, LocalMemoryStore.isCaseFile file = true ∧ file.record = r) ∧
          r.status = .ACTIVE ∧ r.expiresAt ≤ asOf := by
    intro r
    simp only [List.mem_filter, List.mem_map, (listing.perm files.rows).mem_iff, Bool.and_eq_true,
      decide_eq_true_eq, and_assoc]
  refine h.marked (fun r hr => ?_) fun r hr => ?_
  · obtain ⟨⟨file, hfile, _, rfl⟩, _⟩ := (hmem r).mp hr
    exact h.located file hfile ▸ hfile
  · obtain ⟨file, hfile, hdir, rfl⟩ := mem_recordsIn.mp hr
    have hkey := ((h.same _).mp hr).2
    have hscope : file.record.scope = q.scope := congrArg MemoryKey.scope hkey
    have hcase := isCaseFile_iff hdir hq fun hcase => ⟨(hexpires hcase).1, (hexpires hcase).2.1⟩
    rw [hmem, Bool.and_eq_true, decide_eq_true_eq, hscope]
    constructor
    · rintro ⟨⟨other, hother, hfound, hrecord⟩, hactive, hle⟩
      have hsame : other = file := by
        refine Table.eq_of_key hother hfile ?_
        rw [h.located other hother, h.located file hfile, hrecord]
      have hscope := hcase.mp (hsame ▸ hfound)
      exact ⟨hactive, hscope, ((hexpires hscope).2.2 _ hr).expiredBy_iff.mpr hle⟩
    · rintro ⟨hactive, hscope, hexpired⟩
      exact ⟨⟨file, hfile, hcase.mpr hscope, rfl⟩, hactive,
        ((hexpires hscope).2.2 _ hr).expiredBy_iff.mp hexpired⟩

/-- **One operation** keeps the directory of a query to the memories of its key. -/
theorem Holds.perform (h : Holds library q files records) (hq : q.scope ≠ .SHARED)
    {operation : MemoryOperation library} (ht : Tells listing q operation files) :
    Holds library q (operation.perform listing files) (operation.intended records) := by
  cases operation with
  | append candidate memoryId now => exact h.perform_stored rfl rfl rfl rfl ht
  | admitCase admission memoryId => exact h.perform_stored rfl rfl rfl rfl ht
  | expireDue asOf => exact h.perform_expired hq ht
  | softDeleteCase agentId caseId now =>
    exact h.perform_emptied { scope := .CASE, agentId, caseId, maxRecords := 10000 } nofun rfl rfl rfl rfl rfl ht
  | softDeleteSubject agentId subjectRef now =>
    exact h.perform_emptied { scope := .USER, agentId, subjectRef, maxRecords := 10000 } nofun rfl rfl rfl rfl rfl ht

/-! ## Histories -/

/-- The files after some operations. -/
def performAll (listing : Listing) (operations : List (MemoryOperation library))
    (files : MemoryFiles) : MemoryFiles :=
  operations.foldl (fun files operation => operation.perform listing files) files

/-- The memories after some operations. -/
def intendedAll (operations : List (MemoryOperation library)) (records : List MemoryRecord) :
    List MemoryRecord :=
  operations.foldl (fun records operation => operation.intended records) records

/-- Every operation of a history can be told by the query; nothing that is stored is for a query
that is answered with nothing. -/
def TellsAll (listing : Listing) (q : MemoryQuery) :
    List (MemoryOperation library) → MemoryFiles → Prop
  | [], _ => True
  | operation :: rest, files => (q.scope ≠ .SHARED → Tells listing q operation files) ∧
    (q.scope = .SHARED → ∀ r ∈ operation.stored, r.key ≠ q.key) ∧
    TellsAll listing q rest (operation.perform listing files)

/-- **Many operations** keep the directory of a query to the memories of its key. -/
theorem Holds.performAll (hq : q.scope ≠ .SHARED) : ∀ {operations : List (MemoryOperation library)}
    {files : MemoryFiles} {records : List MemoryRecord}, Holds library q files records →
    TellsAll listing q operations files →
    Holds library q (Memory.performAll listing operations files) (intendedAll operations records)
  | [], _, _, h, _ => h
  | operation :: rest, files, records, h, ht => by
    show Holds library q (Memory.performAll listing rest (operation.perform listing files))
      (intendedAll rest (operation.intended records))
    exact Holds.performAll hq (h.perform hq (ht.1 hq)) ht.2.2

/-- What is intended for a key that nothing is stored for. -/
theorem intendedAll_none (hq : q.scope = .SHARED) : ∀ {operations : List (MemoryOperation library)}
    {files : MemoryFiles} {records : List MemoryRecord}, (∀ r ∈ records, r.key ≠ q.key) →
    TellsAll listing q operations files → ∀ r ∈ intendedAll operations records, r.key ≠ q.key
  | [], _, _, h, _ => h
  | operation :: rest, files, records, h, ht => by
    show ∀ r ∈ intendedAll rest (operation.intended records), r.key ≠ q.key
    refine intendedAll_none hq (fun r hr => ?_) ht.2.2
    rcases List.mem_append.mp hr with hr | hr
    · obtain ⟨s, hs, rfl⟩ := List.mem_map.mp hr
      split
      · exact h s hs
      · exact h s hs
    · exact ht.2.1 hq r (Option.mem_toList.mp hr)

/-- A record is found once: its path is that of the file that holds it. -/
theorem Holds.activeIn_nodup (h : Holds library q files records) {directory : List String}
    {asOf : String} : (LocalMemoryStore.activeIn listing directory asOf files).Nodup := by
  unfold LocalMemoryStore.activeIn
  refine List.Nodup.filter _ ?_
  have hpaths : ((listing.order files.rows).map (·.path)).Nodup :=
    ((listing.perm files.rows).map _).nodup_iff.mpr files.distinct
  have hrecords : (((listing.order files.rows).map (·.record)).map
      (LocalMemoryStore.recordPath library)).Nodup := by
    rw [List.map_map]
    rw [List.map_congr_left fun file hfile =>
      h.located file ((listing.perm files.rows).mem_iff.mp hfile)] at hpaths
    exact hpaths
  exact (List.filter_sublist.map _).nodup (List.Nodup.of_map _ hrecords)

/-- A query is meant to get a memory once. -/
theorem Holds.matching_nodup (h : Holds library q files records) {asOf : String} :
    (q.matching library asOf records).Nodup := by
  have hsub : (q.matching library asOf records).Sublist
      (records.filter fun r => r.key = q.key) := by
    unfold MemoryQuery.matching
    refine List.monotone_filter_right records fun r hr => ?_
    simp only [Bool.and_eq_true] at hr
    exact hr.1.1.1
  exact hsub.nodup (List.Nodup.of_map _ h.distinct)

/-- When a query reads the local store as it is meant to. -/
structure ReadsPlainly (library : MemoryLibrary) (listing : Listing) (q : MemoryQuery)
    (asOf : String) (operations : List (MemoryOperation library)) : Prop where
  tells : TellsAll listing q operations .empty
  expires : q.scope ≠ .SHARED →
    ∀ r ∈ recordsIn (q.key.directory library) (performAll listing operations .empty),
      TextOrdered library r.expiresAt asOf
  bounded : 0 ≤ q.maxRecords

/-- The newest records of a list whose creation times can be compared. -/
theorem isReading_sorted {found records : List MemoryRecord} {n : Nat} (hperm : found.Perm records)
    (hcreated : ∀ r ∈ found, ∀ s ∈ found, TextOrdered library r.createdAt s.createdAt) :
    IsReading library records n
      ((found.insertionSort fun a b => b.createdAt ≤ a.createdAt).take n) := by
  have hsorted := List.perm_insertionSort (fun a b : MemoryRecord => b.createdAt ≤ a.createdAt) found
  refine ⟨_, hsorted.trans hperm, ?_, rfl⟩
  have htext := List.pairwise_insertionSort (fun a b : MemoryRecord => b.createdAt ≤ a.createdAt) found
  refine htext.imp_of_mem fun ha hb hle => ?_
  obtain ⟨y, x, hy, hx, hiff⟩ := hcreated _ (hsorted.mem_iff.mp hb) _ (hsorted.mem_iff.mp ha)
  exact ⟨x, y, hx, hy, hiff.mp hle⟩

theorem Holds.reads (h : Holds library q files records) (hq : q.scope ≠ .SHARED) {asOf : String}
    (hexpires : ∀ r ∈ recordsIn (q.key.directory library) files, TextOrdered library r.expiresAt asOf)
    (hbounded : 0 ≤ q.maxRecords) :
    IsReading library (q.matching library asOf records) q.maxRecords.toNat
      (LocalMemoryStore.readAt library listing q asOf files) := by
  rw [readAt_eq hq]
  unfold LocalMemoryStore.upTo
  rw [if_pos hbounded]
  refine isReading_sorted ?_ fun r hr s hs =>
    h.created r (mem_activeIn.mp hr).1 s (mem_activeIn.mp hs).1
  refine (List.perm_ext_iff_of_nodup h.activeIn_nodup h.matching_nodup).mpr fun r => ?_
  rw [mem_activeIn]
  unfold MemoryQuery.matching
  simp only [List.mem_filter, Bool.and_eq_true, Bool.or_eq_true, decide_eq_true_eq]
  constructor
  · rintro ⟨hin, hactive, hnot⟩
    obtain ⟨hr, hkey⟩ := (h.same r).mp hin
    exact ⟨hr, ⟨⟨hkey, hactive⟩, (hexpires r hin).expiresAfter_iff.mpr hnot⟩, h.shown r hin⟩
  · rintro ⟨hr, ⟨⟨hkey, hactive⟩, hafter⟩, _⟩
    have hin := (h.same r).mpr ⟨hr, hkey⟩
    exact ⟨hin, hactive, (hexpires r hin).expiresAfter_iff.mp hafter⟩

end ProofAgent.Memory
