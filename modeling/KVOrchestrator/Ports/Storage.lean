import KVOrchestrator.Ports.Schema
import KVOrchestrator.Ports.Extractor
import KVOrchestrator.Verified.OrdDict
import KVOrchestrator.Verified.Ranking
import KVOrchestrator.Verified.Builtins
import Mathlib.Data.String.Basic
import Mathlib.Data.List.Flatten

/-!
# The Parquet backend (`src/telemetry/storage.py`)

The traces of a day live in one file of the output directory.  To append a
batch, `write_batch` reads that file, concatenates, and overwrites it in place;
`read_all` reads every Parquet file of the directory, and raises if one of them
cannot be read.

The directory maps file names to contents.  A call is given the fault the
environment has in store for it, if any; of an error in the middle of the
overwrite nothing is assumed but that it leaves the path truncated or removed.
What a directory holds is `readable`, and separates into the rows of one day
and the rest (`readable_perm`).
-/

namespace KVOrchestrator.Ports

open KVOrchestrator.Verified

/-! ## Column types -/

/-- An integer column of the schema: the values it can hold. -/
def fitsInt (bits : Nat) (n : Int) : Bool :=
  decide (-(2 ^ (bits - 1) : Int) ≤ n ∧ n < 2 ^ (bits - 1))

/-- The integer columns of a record fit `TELEMETRY_SCHEMA`. -/
def TelemetryRecord.fitsSchema (r : TelemetryRecord) : Bool :=
  [r.promptTokens, r.generatedTokens, r.contextLength, r.queueDepth, r.blockId, r.blockAgeSteps,
      r.lastAccessStep, (r.accessCount : Int)].all (fitsInt 32) &&
    [r.layerId, r.headGroup].all (fitsInt 16)

/-- A record as the columns of `TELEMETRY_SCHEMA` hold it. -/
def TelemetryRecord.toRow [Numerics] (r : TelemetryRecord) : TelemetryRecord :=
  { r with
    gpuMemUsedMb := Numerics.toFloat32 r.gpuMemUsedMb
    gpuMemFreeMb := Numerics.toFloat32 r.gpuMemFreeMb
    cpuMemUsedMb := Numerics.toFloat32 r.cpuMemUsedMb
    avgAttentionScore := Numerics.toFloat32 r.avgAttentionScore
    maxAttentionScore := Numerics.toFloat32 r.maxAttentionScore
    latencyMs := Numerics.toFloat32 r.latencyMs
    ttftMs := Numerics.toFloat32 r.ttftMs
    tpotMs := Numerics.toFloat32 r.tpotMs
    taskScore := Numerics.toFloat32 r.taskScore }

/-- `pa.Table.from_pylist`: a value out of the range of its column raises. -/
def fromPylist [Numerics] (records : List TelemetryRecord) :
    Except PyError (List TelemetryRecord) :=
  if records.all (·.fitsSchema) then .ok (records.map (·.toRow))
  else .error (.other "ArrowInvalid")

/-! ## The directory -/

/-- The content of a Parquet file: a table, or what a write broken off left. -/
inductive TraceFile where
  | table (rows : List TelemetryRecord)
  | truncated
  deriving DecidableEq

/-- The output directory: file name → content. -/
abbrev TraceDir := OrdDict String TraceFile

/-- `f.endswith(".parquet")` -/
def isParquet (name : String) : Bool := ".parquet".toList.isSuffixOf name.toList

/-- The file of the day with the given date string. -/
def dayFile (date : String) : String := "traces_" ++ date ++ ".parquet"

/-- `pq.read_table`: a truncated file has no footer and raises. -/
def readTable : TraceFile → Except PyError (List TelemetryRecord)
  | .table rows => .ok rows
  | .truncated => .error (.other "ArrowInvalid")

/-- Read the tables of a list of directory entries. -/
def readTables : List (String × TraceFile) → Except PyError (List (List TelemetryRecord))
  | [] => .ok []
  | entry :: rest =>
      match readTable entry.2 with
      | .error e => .error e
      | .ok rows =>
          match readTables rest with
          | .error e => .error e
          | .ok tables => .ok (rows :: tables)

/-- Read all stored records. -/
def readAll (files : TraceDir) : Except PyError (List TelemetryRecord) :=
  let parquetFiles := sortBy Prod.fst (files.entries.filter (fun entry => isParquet entry.1))
  (readTables parquetFiles).map List.flatten

/-- The records `read_all` returns, none if it raises. -/
def readable (files : TraceDir) : List TelemetryRecord :=
  match readAll files with
  | .ok rows => rows
  | .error _ => []

/-! ## Writing a batch -/

/-- What a broken-off overwrite leaves at the target path. -/
inductive Wreck where
  | truncated
  | removed
  deriving DecidableEq, Repr

/-- Where the environment makes a call of `write_batch` raise. -/
inductive WriteFault where
  | fromPylist
  | readTable
  | concatTables
  /-- `write_table` cannot open the target. -/
  | openTable
  /-- `write_table` fails after opening the target for overwriting. -/
  | writeTable (left : Wreck)
  /-- After the file is complete. -/
  | afterWrite
  deriving DecidableEq, Repr

/-- `pq.write_table`, and the end of the call. -/
def writeTable (files : TraceDir) (path : String) (rows : List TelemetryRecord) :
    Option WriteFault → Except PyError Unit × TraceDir
  | some .openTable => (.error (.other "OSError"), files)
  | some (.writeTable .truncated) => (.error (.other "OSError"), files.set path .truncated)
  | some (.writeTable .removed) => (.error (.other "OSError"), files.erase path)
  | some .afterWrite => (.error (.other "OSError"), files.set path (.table rows))
  | _ => (.ok (), files.set path (.table rows))

/-- The rows the day file has already: none if it does not exist. -/
def readExisting (files : TraceDir) (path : String) (fault : Option WriteFault) :
    Except PyError (List TelemetryRecord) :=
  match files.get? path with
  | none => .ok []
  | some file =>
      if fault = some .readTable then .error (.other "OSError")
      else
        match readTable file with
        | .error e => .error e
        | .ok existing =>
            if fault = some .concatTables then .error (.other "ArrowInvalid") else .ok existing

/-- Persist a batch of records in the file of the current date. -/
def writeBatch [Numerics] (files : TraceDir) (date : String) (records : List TelemetryRecord)
    (fault : Option WriteFault) : Except PyError Unit × TraceDir :=
  if records.isEmpty then (.ok (), files)
  else if fault = some .fromPylist then (.error (.other "ArrowInvalid"), files)
  else
    match fromPylist records with
    | .error e => (.error e, files)
    | .ok table =>
        let path := dayFile date
        match readExisting files path fault with
        | .error e => (.error e, files)
        | .ok existing => writeTable files path (existing ++ table) fault

/-! ## What a directory holds -/

/-- The rows of a file, none if it is truncated. -/
def TraceFile.rows : TraceFile → List TelemetryRecord
  | .table rows => rows
  | .truncated => []

/-- The rows at a path, none if there is no readable file. -/
def rowsAt (files : TraceDir) (path : String) : List TelemetryRecord :=
  match files.get? path with
  | some file => file.rows
  | none => []

/-- The rows of all Parquet files, in directory order. -/
def parquetRows (entries : List (String × TraceFile)) : List TelemetryRecord :=
  (entries.filter (fun entry => isParquet entry.1)).flatMap (fun entry => entry.2.rows)

/-- Every Parquet file of the directory can be read. -/
def Intact (files : TraceDir) : Prop :=
  ∀ entry ∈ files.entries, isParquet entry.1 = true → entry.2 ≠ .truncated

instance (files : TraceDir) : Decidable (Intact files) := by
  unfold Intact
  infer_instance

@[simp] theorem isParquet_dayFile (date : String) : isParquet (dayFile date) = true := by
  rw [isParquet, dayFile, List.isSuffixOf_iff_suffix, String.toList_append]
  exact List.suffix_append _ _

theorem readTables_of_readable {entries : List (String × TraceFile)}
    (h : ∀ entry ∈ entries, entry.2 ≠ .truncated) :
    readTables entries = .ok (entries.map (fun entry => entry.2.rows)) := by
  induction entries with
  | nil => rfl
  | cons entry rest ih =>
      have hrest := ih (fun e he => h e (List.mem_cons_of_mem entry he))
      cases hfile : entry.2 with
      | truncated => exact absurd hfile (h entry List.mem_cons_self)
      | table rows =>
          rw [readTables, hfile, hrest, List.map_cons, hfile]
          rfl

theorem readTables_of_truncated {entries : List (String × TraceFile)}
    (h : ∃ entry ∈ entries, entry.2 = .truncated) : ∃ e, readTables entries = .error e := by
  induction entries with
  | nil =>
      obtain ⟨entry, hmem, _⟩ := h
      cases hmem
  | cons entry rest ih =>
      cases hfile : entry.2 with
      | truncated =>
          rw [readTables, hfile]
          exact ⟨_, rfl⟩
      | table rows =>
          have hrest : ∃ entry ∈ rest, entry.2 = .truncated := by
            obtain ⟨bad, hmem, hbad⟩ := h
            rcases List.mem_cons.mp hmem with rfl | htail
            · rw [hfile] at hbad
              cases hbad
            · exact ⟨bad, htail, hbad⟩
          obtain ⟨e, he⟩ := ih hrest
          rw [readTables, hfile, he]
          exact ⟨_, rfl⟩

/-- An intact directory is read file by file, in the order of the names. -/
theorem readable_perm_parquetRows {files : TraceDir} (h : Intact files) :
    (readable files).Perm (parquetRows files.entries) := by
  have hsorted : ∀ entry ∈ sortBy Prod.fst
      (files.entries.filter (fun entry => isParquet entry.1)), entry.2 ≠ .truncated := by
    intro entry hentry
    have hmem := List.mem_filter.mp ((mem_sortBy _ _ _).mp hentry)
    exact h entry hmem.1 hmem.2
  rw [readable, readAll, readTables_of_readable hsorted]
  show (List.flatten (List.map _ _)).Perm _
  rw [← List.flatMap_def]
  exact (sortBy_perm _ _).flatMap_right _

/-- One truncated file makes all of the directory unreadable. -/
theorem readable_of_not_intact {files : TraceDir} (h : ¬Intact files) : readable files = [] := by
  have hbad : ∃ entry ∈ sortBy Prod.fst
      (files.entries.filter (fun entry => isParquet entry.1)), entry.2 = .truncated := by
    simp only [Intact, not_forall, not_not] at h
    obtain ⟨entry, hmem, hname, hfile⟩ := h
    exact ⟨entry, (mem_sortBy _ _ _).mpr (List.mem_filter.mpr ⟨hmem, hname⟩), hfile⟩
  obtain ⟨e, he⟩ := readTables_of_truncated hbad
  rw [readable, readAll, he]
  rfl

/-! ## One path and the rest -/

/-- The rows stored in other files than that of a path. -/
def restRows (files : TraceDir) (path : String) : List TelemetryRecord :=
  parquetRows (files.erase path).entries

theorem parquetRows_perm {entries entries' : List (String × TraceFile)}
    (h : entries.Perm entries') : (parquetRows entries).Perm (parquetRows entries') :=
  (h.filter _).flatMap_right _

theorem parquetRows_cons {path : String} (hpath : isParquet path = true) (file : TraceFile)
    (entries : List (String × TraceFile)) :
    parquetRows ((path, file) :: entries) = file.rows ++ parquetRows entries := by
  rw [parquetRows, List.filter_cons_of_pos (by simpa using hpath), List.flatMap_cons]
  rfl

theorem Intact.erase {files : TraceDir} (h : Intact files) (path : String) :
    Intact (files.erase path) := by
  intro entry hmem
  obtain ⟨name, file⟩ := entry
  exact h (name, file) ((files.mem_entries_erase path name file).mp hmem).2

theorem intact_set_table {files : TraceDir} (h : Intact files) (path : String)
    (rows : List TelemetryRecord) : Intact (files.set path (.table rows)) := by
  intro entry hmem hname
  obtain ⟨name, file⟩ := entry
  rcases files.mem_entries_set _ _ _ _ hmem with ⟨_, rfl⟩ | hold
  · intro hfile
    cases hfile
  · exact h (name, file) hold hname

theorem not_intact_of_truncated {files : TraceDir} {path : String}
    (hpath : isParquet path = true) (hfile : files.get? path = some .truncated) :
    ¬Intact files :=
  fun h => h _ ((files.get?_eq_some_iff _ _).mp hfile) hpath rfl

/-- **What an intact directory holds**: the rows at a path and the rest. -/
theorem readable_perm {files : TraceDir} (h : Intact files) {path : String}
    (hpath : isParquet path = true) :
    (readable files).Perm (rowsAt files path ++ restRows files path) := by
  refine (readable_perm_parquetRows h).trans ?_
  unfold rowsAt
  cases hfile : files.get? path with
  | none => exact parquetRows_perm (OrdDict.entries_perm_erase_of_none hfile)
  | some file =>
      have hperm := parquetRows_perm (OrdDict.entries_perm_cons_erase hfile)
      rwa [parquetRows_cons hpath] at hperm

/-- Overwriting a path with a table replaces its rows and keeps the rest. -/
theorem readable_set_table_perm {files : TraceDir} (h : Intact files) {path : String}
    (hpath : isParquet path = true) (rows : List TelemetryRecord) :
    (readable (files.set path (.table rows))).Perm (rows ++ restRows files path) := by
  refine (readable_perm_parquetRows (intact_set_table h path rows)).trans ?_
  have hperm := parquetRows_perm (files.entries_set_perm path (.table rows))
  rwa [parquetRows_cons hpath] at hperm

/-- Appending to the rows at a path adds to what is readable. -/
theorem readable_append_perm {files : TraceDir} (h : Intact files) {path : String}
    (hpath : isParquet path = true) (rows : List TelemetryRecord) :
    (readable (files.set path (.table (rowsAt files path ++ rows)))).Perm
      (readable files ++ rows) := by
  have hcomm : (rowsAt files path ++ rows ++ restRows files path).Perm
      (rowsAt files path ++ restRows files path ++ rows) := by
    rw [List.append_assoc, List.append_assoc]
    exact List.perm_append_comm.append_left _
  have hbefore := (readable_perm h hpath).symm.append_right rows
  exact ((readable_set_table_perm h hpath _).trans hcomm).trans hbefore

/-- Removing a path leaves the rest. -/
theorem readable_erase_perm {files : TraceDir} (h : Intact files) (path : String) :
    (readable (files.erase path)).Perm (restRows files path) :=
  readable_perm_parquetRows (h.erase path)

/-- Truncating a Parquet file leaves nothing readable. -/
theorem readable_set_truncated (files : TraceDir) {path : String}
    (hpath : isParquet path = true) : readable (files.set path .truncated) = [] :=
  readable_of_not_intact (not_intact_of_truncated hpath (files.get?_set_self path .truncated))

/-! ## What a call of `write_batch` does -/

theorem readExisting_eq (files : TraceDir) {path : String} {fault : Option WriteFault}
    {existing : List TelemetryRecord} (h : readExisting files path fault = .ok existing) :
    existing = rowsAt files path ∧ files.get? path ≠ some .truncated := by
  unfold readExisting at h
  unfold rowsAt
  cases hfile : files.get? path with
  | none =>
      rw [hfile] at h
      exact ⟨(Except.ok.inj h).symm, fun hc => by cases hc⟩
  | some file =>
      rw [hfile] at h
      cases file with
      | truncated =>
          simp only [readTable] at h
          split at h <;> cases h
      | table rows =>
          simp only [readTable] at h
          split at h
          · cases h
          · split at h
            · cases h
            · exact ⟨(Except.ok.inj h).symm, fun hc => by cases hc⟩

/-- Where the environment lets the reading pass, the day file is read or was
truncated before. -/
theorem readExisting_writeTable (files : TraceDir) {path : String} {left : Wreck}
    {e : PyError} (h : readExisting files path (some (.writeTable left)) = .error e) :
    files.get? path = some .truncated := by
  unfold readExisting at h
  cases hfile : files.get? path with
  | none =>
      rw [hfile] at h
      cases h
  | some file =>
      rw [hfile] at h
      cases file with
      | truncated => rfl
      | table rows => cases h

/-- **What a call can do**: nothing to write, an error that leaves the
directory as it was, or the overwrite of the day file with the old rows and the
new ones. -/
theorem writeBatch_cases [Numerics] (files : TraceDir) (date : String)
    (records : List TelemetryRecord) (fault : Option WriteFault) :
    (records = [] ∧ writeBatch files date records fault = (.ok (), files)) ∨
    ((∃ e, writeBatch files date records fault = (.error e, files)) ∧
      ∀ left, fault = some (.writeTable left) →
        records.all (·.fitsSchema) = false ∨ files.get? (dayFile date) = some .truncated) ∨
    (records.all (·.fitsSchema) = true ∧ records ≠ [] ∧
      files.get? (dayFile date) ≠ some .truncated ∧
      writeBatch files date records fault =
        writeTable files (dayFile date)
          (rowsAt files (dayFile date) ++ records.map (·.toRow)) fault) := by
  unfold writeBatch
  by_cases hempty : records = []
  · exact .inl ⟨hempty, by simp [hempty]⟩
  · rw [if_neg (by simpa using hempty)]
    by_cases hfault : fault = some .fromPylist
    · rw [if_pos hfault]
      refine .inr (.inl ⟨⟨_, rfl⟩, fun left hleft => ?_⟩)
      rw [hfault] at hleft
      cases hleft
    · rw [if_neg hfault, fromPylist]
      by_cases hfits : records.all (·.fitsSchema) = true
      · rw [if_pos hfits]
        cases hexisting : readExisting files (dayFile date) fault with
        | error e =>
            refine .inr (.inl ⟨⟨e, by simp only [hexisting]⟩, fun left hleft => .inr ?_⟩)
            rw [hleft] at hexisting
            exact readExisting_writeTable files hexisting
        | ok existing =>
            obtain ⟨hrows, hreadable⟩ := readExisting_eq files hexisting
            refine .inr (.inr ⟨hfits, hempty, hreadable, ?_⟩)
            simp only [hexisting, hrows]
      · rw [if_neg hfits]
        exact .inr (.inl ⟨⟨_, rfl⟩, fun _ _ => .inl (by simpa using hfits)⟩)

end KVOrchestrator.Ports
