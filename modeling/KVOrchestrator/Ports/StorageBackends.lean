import KVOrchestrator.Ports.Storage
import KVOrchestrator.Ports.Collector
import KVOrchestrator.Verified.Dynamics
import KVOrchestrator.Verified.FixedWidth

/-!
# The two storage backends

The memory backend is one list.  The Parquet backend is a file per day, each
re-read and rewritten with every batch, and read back in the order of the file
names.  `%Y-%m-%d` pads its fields with zeros, so for years of four digits the
names compare like the dates (`dayFile_lt`), and as long as the clock does not
run backwards a batch always goes to the last file of the directory, at its end.
`Chronicle` says what that keeps: the files in the order of their names are the
rows in the order of the calls.  Both backends then read the same rows in the
same order, the one as the columns of `TELEMETRY_SCHEMA` hold them
(`storage_backends_agree`).
-/

namespace KVOrchestrator.Ports

open KVOrchestrator.Verified

/-! ## Dates -/

/-- A UTC date with a year of four digits. -/
structure UtcDate where
  year : Nat
  month : Nat
  day : Nat
  fourDigits : 1000 ≤ year ∧ year ≤ 9999
  inYear : 1 ≤ month ∧ month ≤ 12
  inMonth : 1 ≤ day ∧ day ≤ 31
  deriving DecidableEq

namespace UtcDate

/-- One date is before another. -/
def Before (d e : UtcDate) : Prop :=
  d.year < e.year ∨ d.year = e.year ∧ (d.month < e.month ∨ d.month = e.month ∧ d.day < e.day)

instance (d e : UtcDate) : Decidable (Before d e) := by
  unfold Before
  infer_instance

/-- `strftime("%Y-%m-%d")` -/
def strftime (d : UtcDate) : String :=
  String.ofList (decimal 4 d.year ++ '-' :: (decimal 2 d.month ++ '-' :: decimal 2 d.day))

/-- Date strings compare like dates. -/
theorem strftime_lt {d e : UtcDate} (h : d.Before e) :
    (strftime d).toList < (strftime e).toList := by
  have hyear := e.fourDigits
  have hmonth := e.inYear
  have hday := e.inMonth
  rw [strftime, strftime, String.toList_ofList, String.toList_ofList]
  rcases h with hlt | ⟨heq, hlt | ⟨heq', hlt⟩⟩
  · apply append_lt_append_of_length
    · rw [length_decimal, length_decimal]
    · exact decimal_lt hlt (by omega)
  · rw [heq]
    apply List.append_left_lt
    rw [List.cons_lt_cons_iff]
    right
    refine ⟨rfl, append_lt_append_of_length ?_ (decimal_lt hlt (by omega)) _ _⟩
    rw [length_decimal, length_decimal]
  · rw [heq, heq']
    apply List.append_left_lt
    rw [List.cons_lt_cons_iff]
    right
    refine ⟨rfl, List.append_left_lt ?_⟩
    rw [List.cons_lt_cons_iff]
    exact .inr ⟨rfl, decimal_lt hlt (by omega)⟩

@[simp] theorem length_strftime (d : UtcDate) : (strftime d).toList.length = 10 := by
  rw [strftime, String.toList_ofList]
  simp

/-- The file of the day. -/
def file (d : UtcDate) : String := dayFile d.strftime

/-- File names compare like dates. -/
theorem file_lt {d e : UtcDate} (h : d.Before e) : d.file < e.file := by
  rw [String.lt_iff_toList_lt, file, file, dayFile, dayFile, String.toList_append,
    String.toList_append, String.toList_append, String.toList_append]
  apply append_lt_append_of_length
  · simp
  · exact List.append_left_lt (strftime_lt h)

end UtcDate

/-! ## Calls -/

/-- A batch, and the date of its `write_batch` call. -/
structure DatedBatch where
  date : UtcDate
  records : List TelemetryRecord

/-- The clock does not run backwards. -/
def DatedBatch.NotAfter (c c' : DatedBatch) : Prop :=
  c.date.Before c'.date ∨ c.date = c'.date

instance (c c' : DatedBatch) : Decidable (c.NotAfter c') := by
  unfold DatedBatch.NotAfter
  infer_instance

/-- A completed `write_batch` of the Parquet backend. -/
def parquetWrite [Numerics] (files : TraceDir) (c : DatedBatch) : TraceDir :=
  (writeBatch files c.date.strftime c.records none).2

/-- `write_batch` of the memory backend. -/
def memoryWrite (s : TelemetryStorage) (c : DatedBatch) : TelemetryStorage :=
  (s.writeBatch c.records).2

/-- `read_all` of the memory backend. -/
def TelemetryStorage.readAll (s : TelemetryStorage) : List TelemetryRecord := s.rows

/-- The memory backend holds the batches one after the other. -/
theorem readAll_memory (calls : List DatedBatch) :
    ∀ s : TelemetryStorage, s.backend = .memory →
      (run memoryWrite s calls).readAll = s.rows ++ calls.flatMap (·.records) := by
  induction calls with
  | nil =>
      intro s _
      exact (List.append_nil _).symm
  | cons c calls ih =>
      intro s hs
      have hwrite : (memoryWrite s c).backend = .memory ∧
          (memoryWrite s c).rows = s.rows ++ c.records := by
        rw [memoryWrite, TelemetryStorage.writeBatch]
        split
        · rename_i hempty
          rw [List.isEmpty_iff.mp hempty, List.append_nil]
          exact ⟨hs, rfl⟩
        · exact ⟨hs, rfl⟩
      show (run memoryWrite (memoryWrite s c) calls).readAll = _
      rw [ih _ hwrite.1, hwrite.2, List.append_assoc, List.flatMap_cons]

/-! ## The directory as a chronicle -/

/-- The files are readable and ordered by name, none is later than `last`, and
together they hold `rows`. -/
structure Chronicle (files : TraceDir) (last : String) (rows : List TelemetryRecord) :
    Prop where
  ordered : files.entries.Pairwise (fun a b => a.1 < b.1)
  parquet : ∀ entry ∈ files.entries, isParquet entry.1 = true
  readable : ∀ entry ∈ files.entries, entry.2 ≠ .truncated
  bounded : ∀ entry ∈ files.entries, entry.1 ≤ last
  rows : files.entries.flatMap (fun entry => entry.2.rows) = rows

namespace Chronicle

variable {files : TraceDir} {last : String} {rows : List TelemetryRecord}

/-- A chronicle is read back as its rows. -/
theorem readAll_eq (h : Chronicle files last rows) : readAll files = .ok rows := by
  have hall : files.entries.filter (fun entry => isParquet entry.1) = files.entries := by
    rw [List.filter_eq_self]
    exact h.parquet
  have hsorted : sortBy Prod.fst files.entries = files.entries :=
    sortBy_eq_self (h.ordered.imp (fun hlt => hlt.le))
  rw [readAll, hall, hsorted, readTables_of_readable h.readable]
  show Except.ok (List.flatten (List.map _ _)) = _
  rw [← List.flatMap_def, h.rows]

/-- If the last file allowed exists, it is the last one of the directory. -/
theorem entries_eq_of_mem (h : Chronicle files last rows) {file : TraceFile}
    (hmem : (last, file) ∈ files.entries) :
    ∃ init, files.entries = init ++ [(last, file)] := by
  obtain ⟨init, rest, hsplit⟩ := List.append_of_mem hmem
  have hrest : rest = [] := by
    rw [List.eq_nil_iff_forall_not_mem]
    intro entry hentry
    have hordered := h.ordered
    rw [hsplit, List.pairwise_append, List.pairwise_cons] at hordered
    have hlt := hordered.2.1.1 entry hentry
    have hle := h.bounded entry (by
      rw [hsplit]
      exact List.mem_append_right _ (List.mem_cons_of_mem _ hentry))
    exact absurd hlt (not_lt.mpr hle)
  exact ⟨init, by rw [hsplit, hrest]⟩

/-- Writing the last file leaves the earlier ones, whose rows come before what
it had. -/
theorem entries_set_last (h : Chronicle files last rows) (file : TraceFile) :
    ∃ init, (files.set last file).entries = init ++ [(last, file)] ∧
      init.Pairwise (fun a b => a.1 < b.1) ∧
      (∀ entry ∈ init, entry ∈ files.entries ∧ entry.1 < last) ∧
      init.flatMap (fun entry => entry.2.rows) ++ rowsAt files last = rows := by
  rw [← h.rows, rowsAt]
  cases hfile : files.get? last with
  | none =>
      have hkeys : last ∉ files.keys := (files.get?_eq_none_iff last).mp hfile
      refine ⟨files.entries, OrdDict.entries_set_of_not_mem hkeys file, h.ordered, ?_,
        List.append_nil _⟩
      intro entry hentry
      refine ⟨hentry, lt_of_le_of_ne (h.bounded entry hentry) ?_⟩
      intro hname
      rw [← hname] at hkeys
      exact hkeys (List.mem_map_of_mem hentry)
  | some old =>
      obtain ⟨init, hsplit⟩ := h.entries_eq_of_mem ((files.get?_eq_some_iff last old).mp hfile)
      have hordered := h.ordered
      rw [hsplit, List.pairwise_append] at hordered
      refine ⟨init, OrdDict.entries_set_of_last hsplit file, hordered.1, ?_, ?_⟩
      · intro entry hentry
        refine ⟨?_, hordered.2.2 entry hentry _ List.mem_cons_self⟩
        rw [hsplit]
        exact List.mem_append_left _ hentry
      · rw [hsplit, List.flatMap_append]
        simp

/-- **A batch appended to the last file** appends its rows to the chronicle. -/
theorem set_last (h : Chronicle files last rows) (hlast : isParquet last = true)
    (added : List TelemetryRecord) :
    Chronicle (files.set last (.table (rowsAt files last ++ added))) last (rows ++ added) := by
  obtain ⟨init, hentries, hordered, hinit, hrows⟩ :=
    h.entries_set_last (.table (rowsAt files last ++ added))
  have hmem : ∀ entry ∈ (files.set last (.table (rowsAt files last ++ added))).entries,
      entry ∈ files.entries ∧ entry.1 < last ∨
        entry = (last, .table (rowsAt files last ++ added)) := by
    intro entry hentry
    rw [hentries, List.mem_append, List.mem_singleton] at hentry
    rcases hentry with hold | hnew
    · exact .inl (hinit entry hold)
    · exact .inr hnew
  constructor
  · rw [hentries, List.pairwise_append]
    refine ⟨hordered, List.pairwise_singleton _ _, ?_⟩
    intro a ha b hb
    rw [List.mem_singleton.mp hb]
    exact (hinit a ha).2
  · intro entry hentry
    rcases hmem entry hentry with ⟨hold, _⟩ | rfl
    · exact h.parquet entry hold
    · exact hlast
  · intro entry hentry
    rcases hmem entry hentry with ⟨hold, _⟩ | rfl
    · exact h.readable entry hold
    · intro htable
      cases htable
  · intro entry hentry
    rcases hmem entry hentry with ⟨_, hlt⟩ | rfl
    · exact hlt.le
    · exact le_refl last
  · rw [hentries, List.flatMap_append, List.flatMap_singleton]
    show _ ++ (rowsAt files last ++ added) = _
    rw [← List.append_assoc, hrows]

theorem mono {last' : String} (h : Chronicle files last rows) (hle : last ≤ last') :
    Chronicle files last' rows where
  ordered := h.ordered
  parquet := h.parquet
  readable := h.readable
  bounded := fun entry hentry => (h.bounded entry hentry).trans hle
  rows := h.rows

end Chronicle

theorem chronicle_empty (last : String) : Chronicle OrdDict.empty last [] where
  ordered := List.Pairwise.nil
  parquet := fun entry hentry => by cases hentry
  readable := fun entry hentry => by cases hentry
  bounded := fun entry hentry => by cases hentry
  rows := rfl

/-! ## Runs of the Parquet backend -/

section Runs

variable [Numerics]

/-- A batch that fits the columns is written behind what the day has already. -/
theorem parquetWrite_eq {files : TraceDir} {rows : List TelemetryRecord} {c : DatedBatch}
    (h : Chronicle files c.date.file rows)
    (hfits : c.records.all (·.fitsSchema) = true) (hne : c.records ≠ []) :
    parquetWrite files c = files.set c.date.file
      (.table (rowsAt files c.date.file ++ c.records.map (·.toRow))) := by
  have hempty : c.records.isEmpty = false := by simpa using hne
  have hexisting : readExisting files (dayFile c.date.strftime) none =
      .ok (rowsAt files (dayFile c.date.strftime)) := by
    rw [readExisting, rowsAt]
    cases hfile : files.get? (dayFile c.date.strftime) with
    | none => rfl
    | some file =>
        have hreadable := h.readable _ ((files.get?_eq_some_iff _ _).mp hfile)
        cases file with
        | table old => rfl
        | truncated => exact absurd rfl hreadable
  rw [parquetWrite, writeBatch, hempty, fromPylist, if_pos hfits]
  simp only [Bool.false_eq_true, if_false, reduceCtorEq, hexisting]
  rfl

/-- **One call** appends its batch to the chronicle. -/
theorem chronicle_parquetWrite {files : TraceDir} {rows : List TelemetryRecord}
    {c : DatedBatch} (h : Chronicle files c.date.file rows)
    (hfits : c.records.all (·.fitsSchema) = true) :
    Chronicle (parquetWrite files c) c.date.file (rows ++ c.records.map (·.toRow)) := by
  by_cases hne : c.records = []
  · have hsame : parquetWrite files c = files := by
      rw [parquetWrite, writeBatch, hne]
      rfl
    rw [hsame, hne, List.map_nil, List.append_nil]
    exact h
  · rw [parquetWrite_eq h hfits hne]
    exact h.set_last (isParquet_dayFile _) _

/-- **A run** of calls at dates that do not decrease. -/
theorem readAll_run (calls : List DatedBatch) :
    ∀ (files : TraceDir) (rows : List TelemetryRecord),
      calls.Pairwise DatedBatch.NotAfter →
      (∀ c ∈ calls, c.records.all (·.fitsSchema) = true) →
      (∀ c ∈ calls, Chronicle files c.date.file rows) → readAll files = .ok rows →
      readAll (run parquetWrite files calls) =
        .ok (rows ++ (calls.flatMap (·.records)).map (·.toRow)) := by
  induction calls with
  | nil =>
      intro files rows _ _ _ hread
      rw [List.flatMap_nil, List.map_nil, List.append_nil]
      exact hread
  | cons c calls ih =>
      intro files rows hdates hfits hchronicle _
      have hstep := chronicle_parquetWrite (hchronicle c List.mem_cons_self)
        (hfits c List.mem_cons_self)
      rw [List.pairwise_cons] at hdates
      have hlater : ∀ c' ∈ calls, c.date.file ≤ c'.date.file := by
        intro c' hc'
        rcases hdates.1 c' hc' with hbefore | hsame
        · exact (UtcDate.file_lt hbefore).le
        · rw [hsame]
      show readAll (run parquetWrite (parquetWrite files c) calls) = _
      rw [ih _ _ hdates.2 (fun c' hc' => hfits c' (List.mem_cons_of_mem c hc'))
        (fun c' hc' => hstep.mono (hlater c' hc')) hstep.readAll_eq, List.flatMap_cons,
        List.map_append, List.append_assoc]

end Runs

/-- **The storage backends agree.**

Take any calls of `write_batch`, with any batches, at dates that do not decrease
and have years of four digits, into an empty directory.  If every field fits its
column, `read_all` of the Parquet backend returns the rows `read_all` of the
memory backend returns for the same calls, in the same order, each as the columns
of the schema hold it. -/
theorem storage_backends_agree [Numerics] (calls : List DatedBatch)
    (hdates : calls.Pairwise DatedBatch.NotAfter)
    (hfits : ∀ c ∈ calls, c.records.all (·.fitsSchema) = true) :
    readAll (run parquetWrite OrdDict.empty calls) =
      .ok ((run memoryWrite { backend := .memory } calls).readAll.map (·.toRow)) := by
  rw [readAll_run calls OrdDict.empty [] hdates hfits (fun c _ => chronicle_empty _) rfl,
    readAll_memory calls { backend := .memory } rfl]
  rfl

/-- A record of one block. -/
def blockRecord (blockId : Int) : TelemetryRecord :=
  TelemetryRecord.fromBlockState
    { blockId := blockId, layerId := 0, headGroup := 0, requestId := "r" } .keepGpu
    { modelName := "m", timestamp := 0 }

/-- Two batches of one day, and one of a day of the next month. -/
def monthTurn : List DatedBatch :=
  [ { date := { year := 2024, month := 9, day := 30, fourDigits := by omega,
                inYear := by omega, inMonth := by omega }
      records := [blockRecord 1] },
    { date := { year := 2024, month := 9, day := 30, fourDigits := by omega,
                inYear := by omega, inMonth := by omega }
      records := [blockRecord 2, blockRecord 3] },
    { date := { year := 2024, month := 10, day := 1, fourDigits := by omega,
                inYear := by omega, inMonth := by omega }
      records := [blockRecord 4] } ]

theorem storage_backends_agree_month_turn :
    letI : Numerics := lineNumerics.toNumerics
    readAll (run parquetWrite OrdDict.empty monthTurn) =
      .ok [blockRecord 1, blockRecord 2, blockRecord 3, blockRecord 4] := by
  let _ : Numerics := lineNumerics.toNumerics
  rw [storage_backends_agree monthTurn (by decide +kernel) (by decide +kernel)]
  rfl

end KVOrchestrator.Ports
