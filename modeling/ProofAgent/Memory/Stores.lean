import Mathlib.Data.List.Sort
import Mathlib.Data.String.Basic
import ProofAgent.Base.Outcome
import ProofAgent.Base.Table
import ProofAgent.Contracts.Platform

/-! # Memory stores

A memory is stored for a scope, an agent and a case or a subject. Its times are the texts that it
came with; which instants they stand for is up to `datetime.fromisoformat`. Memories are kept by a
local store of files and by a repository of rows. -/
namespace ProofAgent.Memory

open Base

/-! ## Memories -/

inductive MemoryScope where
  | CASE | USER | SHARED
  deriving DecidableEq

inductive MemorySensitivity where
  | PUBLIC | INTERNAL | RESTRICTED
  deriving DecidableEq

inductive MemoryStatus where
  | ACTIVE | SUPERSEDED | DELETED
  deriving DecidableEq

structure MemoryCandidate where
  scope : MemoryScope
  caseId : String := ""
  subjectRef : String := ""
  agentId : String
  summary : String
  facts : Json := .obj []
  sourceRunId : String
  sourceTurnId : String
  expiresAt : String
  sensitivity : MemorySensitivity := .INTERNAL

/-- `MemoryRecord`, a candidate under a generated id. -/
structure MemoryRecord extends MemoryCandidate where
  memoryId : String
  createdAt : String
  status : MemoryStatus := .ACTIVE

structure MemoryQuery where
  scope : MemoryScope
  caseId : String := ""
  subjectRef : String := ""
  agentId : String
  maxRecords : Int := 5
  allowRestricted : Bool := false

/-- What the stores take from the standard library and from what lies below them. -/
structure MemoryLibrary where
  /-- `char.isalnum()`. -/
  isalnum : Char → Bool
  /-- `datetime.fromisoformat(value.replace("Z", "+00:00"))`: the instant of a timezone-aware time,
  `some none` for another one, `none` where it raises. -/
  fromisoformat : String → Option (Option Instant)
  /-- `UUID(value)`, by its canonical text. -/
  uuid : String → Option String

/-- The instant of a timezone-aware time. -/
def MemoryLibrary.timestamp (library : MemoryLibrary) (value : String) : Option Instant :=
  (library.fromisoformat value).join

/-- `CaseMemoryAdmission`, with what it has validated. -/
structure CaseMemoryAdmission (library : MemoryLibrary) where
  candidate : MemoryCandidate
  admittedAt : String
  case_only : candidate.scope = .CASE
  case_named : isBlank candidate.caseId = false
  no_subject : isBlank candidate.subjectRef = true
  bounded : ∃ admitted expires, library.timestamp admittedAt = some admitted ∧
    library.timestamp candidate.expiresAt = some expires ∧ admitted < expires ∧
    expires ≤ admitted + days 30

/-! ## The local store

A record is a file, in a directory that is named after its agent and its case or subject. The
names are sanitized, times are compared as texts, and a read goes by the directory alone. A
directory is listed in some order that the store does not know. -/

/-- The directory of a file, below the store's own, and its name. -/
structure FilePath where
  directory : List String
  name : String
  deriving DecidableEq

structure MemoryFile where
  path : FilePath
  record : MemoryRecord

/-- The files of a store. -/
abbrev MemoryFiles := Table MemoryFile.path

/-- The order in which `glob` lists files. -/
structure Listing where
  order : List MemoryFile → List MemoryFile
  perm : ∀ files, (order files).Perm files

variable (library : MemoryLibrary) (listing : Listing)

/-- `_safe_path_part`. -/
def safePathPart (value : String) : String :=
  String.ofList (value.toList.map fun c =>
    if library.isalnum c = true ∨ c = '-' ∨ c = '_' then c else '_')

/-- A path below a root; an empty part adds nothing to it. -/
def below (root : String) (parts : List String) : List String :=
  root :: parts.filter fun part => part ≠ ""

namespace LocalMemoryStore

/-- `_case_dir`. -/
def caseDir (agentId caseId : String) : List String :=
  below "case" [safePathPart library agentId, safePathPart library caseId]

/-- `_subject_dir`. -/
def subjectDir (agentId subjectRef : String) : List String :=
  below "user" [safePathPart library agentId, safePathPart library subjectRef]

/-- `_record_path`. -/
def recordPath (record : MemoryRecord) : FilePath where
  directory := if record.scope = .USER then subjectDir library record.agentId record.subjectRef
    else caseDir library record.agentId record.caseId
  name := record.memoryId ++ ".json"

/-- `_write_record`. -/
def writeRecord (files : MemoryFiles) (record : MemoryRecord) : MemoryFiles :=
  files.upsert ⟨recordPath library record, record⟩ (fun file => { file with record }) fun _ => rfl

/-- `_append_unlocked`, with the id that it draws. -/
def append (candidate : MemoryCandidate) (memoryId createdAt : String) (files : MemoryFiles) :
    MemoryRecord × MemoryFiles :=
  let record := { candidate with memoryId, createdAt, status := .ACTIVE }
  (record, writeRecord library files record)

/-- `admit_case_memory`. -/
def admitCaseMemory (admission : CaseMemoryAdmission library) (memoryId : String)
    (files : MemoryFiles) : MemoryRecord × MemoryFiles :=
  append library admission.candidate memoryId admission.admittedAt files

/-- `records[:n]`. -/
def upTo {α : Type} (n : Int) (records : List α) : List α :=
  if 0 ≤ n then records.take n.toNat else records.take (records.length - n.natAbs)

/-- The records of a directory that are active and have not expired. -/
def activeIn (directory : List String) (asOf : String) (files : MemoryFiles) : List MemoryRecord :=
  (((listing.order files.rows).filter fun file => file.path.directory = directory).map
    (·.record)).filter fun record => record.status = .ACTIVE && !decide (record.expiresAt ≤ asOf)

/-- `read_at`. -/
def readAt (query : MemoryQuery) (asOf : String) (files : MemoryFiles) : List MemoryRecord :=
  let newest (directory : List String) :=
    upTo query.maxRecords ((activeIn listing directory asOf files).insertionSort
      fun a b => b.createdAt ≤ a.createdAt)
  match query.scope with
  | .CASE => newest (caseDir library query.agentId query.caseId)
  | .USER => newest (subjectDir library query.agentId query.subjectRef)
  | .SHARED => []

/-- A record that is marked as deleted. -/
def deleted (record : MemoryRecord) : MemoryRecord := { record with status := .DELETED }

/-- The files that `case_root.glob("*/*/*.json")` finds. -/
def isCaseFile (file : MemoryFile) : Bool :=
  file.path.directory.head? = some "case" && file.path.directory.length = 3

/-- Write some records back as deleted; each has its own file, so all of them can be read first. -/
def markDeleted (records : List MemoryRecord) (files : MemoryFiles) : Nat × MemoryFiles :=
  (records.length, records.foldl (fun files record => writeRecord library files (deleted record)) files)

/-- `expire_due`. -/
def expireDue (asOf : String) (files : MemoryFiles) : Nat × MemoryFiles :=
  markDeleted library ((((listing.order files.rows).filter isCaseFile).map (·.record)).filter
    fun record => record.status = .ACTIVE && decide (record.expiresAt ≤ asOf)) files

def softDeleteCase (agentId caseId now : String) (files : MemoryFiles) : Nat × MemoryFiles :=
  let query : MemoryQuery := { scope := .CASE, agentId, caseId, maxRecords := 10000 }
  markDeleted library (readAt library listing query now files) files

def softDeleteSubject (agentId subjectRef now : String) (files : MemoryFiles) : Nat × MemoryFiles :=
  let query : MemoryQuery := { scope := .USER, agentId, subjectRef, maxRecords := 10000 }
  markDeleted library (readAt library listing query now files) files

end LocalMemoryStore

/-! ## The case memory repository

Case memories are rows with their times as instants; a read enforces the expiry and leaves
restricted memories out. -/

inductive MemoryError where
  /-- `PersistenceInvariantError`. -/
  | persistenceInvariant (message : String)
  /-- A constraint of the database. -/
  | integrity
  /-- `LIMIT` of a negative number. -/
  | limit
  deriving DecidableEq

structure CaseMemoryRow where
  memoryId : String
  caseId : String
  agentId : String
  sourceRunId : String
  sourceTurnId : String
  status : MemoryStatus
  memoryJson : MemoryRecord
  createdAt : Instant
  expiresAt : Instant

abbrev CaseMemoryTable := Table CaseMemoryRow.memoryId

/-- The order in which rows come that an `ORDER BY` leaves open. -/
structure RowOrder where
  order : List CaseMemoryRow → List CaseMemoryRow
  perm : ∀ rows, (order rows).Perm rows

variable (library : MemoryLibrary) (rowOrder : RowOrder)

/-- `uuid_value`. -/
def uuidValue (value field : String) : Except MemoryError String :=
  orRaise (library.uuid value) (.persistenceInvariant (field ++ " must be a full UUID"))

/-- `timestamp_value`. -/
def timestampValue (value field : String) : Except MemoryError Instant :=
  match library.fromisoformat value with
  | none => .error (.persistenceInvariant (field ++ " must be ISO-8601"))
  | some none => .error (.persistenceInvariant (field ++ " must be timezone-aware"))
  | some (some instant) => .ok instant

namespace PostgresCaseMemoryRepository

/-- `admit`, with the UUID that it draws. -/
def admitMemory (admission : CaseMemoryAdmission library) (memoryId : String) (rows : CaseMemoryTable) :
    Except MemoryError (MemoryRecord × CaseMemoryTable) := do
  let candidate := admission.candidate
  let record : MemoryRecord :=
    { candidate with memoryId, createdAt := admission.admittedAt, status := .ACTIVE }
  let caseId ← uuidValue library candidate.caseId "case_id"
  let sourceRunId ← uuidValue library candidate.sourceRunId "source_run_id"
  let sourceTurnId ← uuidValue library candidate.sourceTurnId "source_turn_id"
  let createdAt ← timestampValue library admission.admittedAt "admitted_at"
  let expiresAt ← timestampValue library candidate.expiresAt "expires_at"
  let rows ← orRaise (rows.insert? {
    memoryId, caseId, agentId := candidate.agentId, sourceRunId, sourceTurnId
    status := record.status, memoryJson := record, createdAt, expiresAt }) .integrity
  return (record, rows)

/-- `read`. -/
def read (query : MemoryQuery) (asOf : String) (rows : CaseMemoryTable) :
    Except MemoryError (List MemoryRecord) :=
  if query.scope ≠ .CASE ∨ query.caseId = "" then .ok []
  else do
    let caseId ← uuidValue library query.caseId "case_id"
    let asOf ← timestampValue library asOf "as_of"
    require (0 ≤ query.maxRecords) .limit
    let found := rows.rows.filter fun row => row.caseId = caseId && row.agentId = query.agentId &&
      row.status = .ACTIVE && decide (asOf < row.expiresAt) &&
      (query.allowRestricted || decide (row.memoryJson.sensitivity ≠ .RESTRICTED))
    return (((rowOrder.order found).insertionSort fun a b => b.createdAt ≤ a.createdAt).take
      query.maxRecords.toNat).map (·.memoryJson)

/-- `expire_due`. -/
def expireDue (asOf : String) (rows : CaseMemoryTable) :
    Except MemoryError (Nat × CaseMemoryTable) := do
  let asOf ← timestampValue library asOf "as_of"
  let due (row : CaseMemoryRow) : Bool := row.status = .ACTIVE && decide (row.expiresAt ≤ asOf)
  return (rows.count due, rows.update due (fun row => { row with
    status := .DELETED
    memoryJson := { row.memoryJson with status := .DELETED } }) fun _ => rfl)

end PostgresCaseMemoryRepository

end ProofAgent.Memory
