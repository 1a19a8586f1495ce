import KVOrchestrator.Ports.Storage
import KVOrchestrator.Ports.Collector
import Mathlib.Data.List.Perm.Subperm

/-!
# When a batch write fails

The append of a batch overwrites the whole day file in place, so an error in
the middle of the overwrite takes the rows of the day with it, or, if a
truncated file is left behind, whatever the directory held, because `read_all`
reads every file or none.  `failed_write_keeps_iff` says for which calls that
raise nothing is lost; a day whose file is truncated accepts no further batch
(`writeBatch_of_truncated`).

Where no overwrite is broken off the backend does what the collector relies on,
to persist a batch as a whole or not at all (`writeBatch_refines`).
-/

namespace KVOrchestrator.Ports

open KVOrchestrator.Verified

/-! ## Calls that keep the directory whole -/

/-- A completed call adds its batch, converted, to what was readable. -/
theorem writeBatch_of_ok [Numerics] {files : TraceDir} (h : Intact files) {date : String}
    {records : List TelemetryRecord} {fault : Option WriteFault}
    (hok : (writeBatch files date records fault).1 = .ok ()) :
    Intact (writeBatch files date records fault).2 ∧
      (readable (writeBatch files date records fault).2).Perm
        (readable files ++ records.map (·.toRow)) := by
  rcases writeBatch_cases files date records fault with
    ⟨hempty, hcall⟩ | ⟨⟨e, hcall⟩, _⟩ | ⟨_, _, _, hcall⟩
  · rw [hcall, hempty]
    exact ⟨h, by simp⟩
  · rw [hcall] at hok
    cases hok
  · have hwritten : (writeBatch files date records fault).2 =
        files.set (dayFile date)
          (.table (rowsAt files (dayFile date) ++ records.map (·.toRow))) := by
      rw [hcall] at hok ⊢
      cases fault with
      | none => rfl
      | some fault =>
          cases fault with
          | fromPylist | readTable | concatTables => rfl
          | openTable | afterWrite => cases hok
          | writeTable left => cases left <;> cases hok
    rw [hwritten]
    exact ⟨intact_set_table h _ _, readable_append_perm h (isParquet_dayFile date) _⟩

/-- A day whose file is truncated accepts no batch any more. -/
theorem writeBatch_of_truncated [Numerics] {files : TraceDir} {date : String}
    (hfile : files.get? (dayFile date) = some .truncated) {records : List TelemetryRecord}
    (hne : records ≠ []) (fault : Option WriteFault) :
    ∃ e, writeBatch files date records fault = (.error e, files) := by
  rcases writeBatch_cases files date records fault with
    ⟨hempty, _⟩ | ⟨hcall, _⟩ | ⟨_, _, hreadable, _⟩
  · exact absurd hempty hne
  · exact hcall
  · exact absurd hfile hreadable

/-- A call that raises without having touched the file changes nothing. -/
theorem writeBatch_of_error [Numerics] {files : TraceDir} {date : String}
    {records : List TelemetryRecord} {fault : Option WriteFault} {e : PyError}
    (hraise : (writeBatch files date records fault).1 = .error e)
    (hwhole : ∀ left, fault ≠ some (.writeTable left)) (hafter : fault ≠ some .afterWrite) :
    (writeBatch files date records fault).2 = files := by
  rcases writeBatch_cases files date records fault with
    ⟨_, hcall⟩ | ⟨⟨e', hcall⟩, _⟩ | ⟨_, _, _, hcall⟩
  · rw [hcall]
  · rw [hcall]
  · rw [hcall] at hraise ⊢
    cases fault with
    | none => cases hraise
    | some fault =>
        cases fault with
        | fromPylist | readTable | concatTables => cases hraise
        | openTable => rfl
        | afterWrite => exact absurd rfl hafter
        | writeTable left => exact absurd rfl (hwhole left)

/-- A directory holds what the collector's view of the storage says. -/
structure Represents [Numerics] (files : TraceDir) (s : TelemetryStorage) : Prop where
  parquet : s.backend = .parquet
  intact : Intact files
  rows : (readable files).Perm (s.rows.map (·.toRow))

/-- **The collector's view is right** as long as no overwrite is broken off: a
batch is persisted as a whole or not at all. -/
theorem writeBatch_refines [Numerics] {files : TraceDir} {s : TelemetryStorage}
    (h : Represents files s) (date : String) (records : List TelemetryRecord)
    {fault : Option WriteFault} (hwhole : ∀ left, fault ≠ some (.writeTable left))
    (hafter : fault ≠ some .afterWrite)
    (haccepts : s.accepts s.attempts = (writeBatch files date records fault).1.isOk) :
    (s.writeBatch records).1.isOk = (writeBatch files date records fault).1.isOk ∧
      Represents (writeBatch files date records fault).2 (s.writeBatch records).2 := by
  have hmem : s.backend ≠ .memory := by
    rw [h.parquet]
    decide
  by_cases hempty : records = []
  · subst hempty
    exact ⟨rfl, h⟩
  · have hne : records.isEmpty = false := by simpa using hempty
    cases hresult : (writeBatch files date records fault).1 with
    | ok u =>
        rw [hresult] at haccepts
        have hs : s.writeBatch records = (.ok (), { s with
            rows := s.rows ++ records
            attempts := s.attempts + 1 }) := by
          simp [TelemetryStorage.writeBatch, hne, hmem, haccepts, Except.isOk, Except.toBool]
        obtain ⟨hintact, hperm⟩ := writeBatch_of_ok h.intact hresult
        rw [hs]
        refine ⟨rfl, h.parquet, hintact, ?_⟩
        rw [List.map_append]
        exact hperm.trans (h.rows.append_right _)
    | error e =>
        rw [hresult] at haccepts
        have hs : s.writeBatch records = (.error (.other "OSError"), { s with
            attempts := s.attempts + 1 }) := by
          simp [TelemetryStorage.writeBatch, hne, hmem, haccepts, Except.isOk, Except.toBool]
        rw [hs, writeBatch_of_error hresult hwhole hafter]
        exact ⟨rfl, h.parquet, h.intact, h.rows⟩

/-! ## What an overwrite loses -/

section Overwrite

variable {files : TraceDir} {path : String}

/-- An overwrite that is completed loses nothing. -/
theorem subperm_readable_set_table (hpath : isParquet path = true)
    (rows : List TelemetryRecord) :
    (readable files).Subperm
      (readable (files.set path (.table (rowsAt files path ++ rows)))) := by
  by_cases hintact : Intact files
  · have hbefore := readable_perm hintact hpath
    have hafter := readable_set_table_perm hintact hpath (rowsAt files path ++ rows)
    have hgrows : (rowsAt files path ++ restRows files path).Sublist
        (rowsAt files path ++ rows ++ restRows files path) := by
      rw [List.append_assoc]
      exact (List.sublist_append_right _ _).append_left _
    exact hbefore.subperm.trans (hgrows.subperm.trans hafter.symm.subperm)
  · rw [readable_of_not_intact hintact]
    exact List.nil_subperm

/-- One that leaves the file truncated loses everything. -/
theorem subperm_readable_set_truncated_iff (hpath : isParquet path = true) :
    (readable files).Subperm (readable (files.set path .truncated)) ↔ readable files = [] := by
  rw [readable_set_truncated files hpath, List.subperm_nil]

/-- One that leaves the file removed loses its rows. -/
theorem subperm_readable_erase_iff (hpath : isParquet path = true) :
    (readable files).Subperm (readable (files.erase path)) ↔
      readable files = [] ∨ rowsAt files path = [] := by
  by_cases hintact : Intact files
  · have hbefore := readable_perm hintact hpath
    have hafter := readable_erase_perm hintact path
    constructor
    · intro hsub
      have hle := hsub.length_le
      rw [hbefore.length_eq, hafter.length_eq, List.length_append] at hle
      exact .inr (List.eq_nil_of_length_eq_zero (by omega))
    · intro hsmall
      rcases hsmall with hnil | hrows
      · rw [hnil]
        exact List.nil_subperm
      · rw [hrows, List.nil_append] at hbefore
        exact (hbefore.trans hafter.symm).subperm
  · have hnil := readable_of_not_intact hintact
    rw [hnil]
    exact ⟨fun _ => .inl rfl, fun _ => List.nil_subperm⟩

/-- **An overwrite that raises** loses nothing exactly when it was not broken
off in the middle, or there was nothing to lose. -/
theorem subperm_writeTable_iff (hpath : isParquet path = true) (rows : List TelemetryRecord)
    {fault : Option WriteFault} {e : PyError}
    (hraise : (writeTable files path (rowsAt files path ++ rows) fault).1 = .error e) :
    (readable files).Subperm
        (readable (writeTable files path (rowsAt files path ++ rows) fault).2) ↔
      ∀ left, fault = some (.writeTable left) →
        readable files = [] ∨ (left = .removed ∧ rowsAt files path = []) := by
  cases fault with
  | none => cases hraise
  | some fault =>
      cases fault with
      | fromPylist | readTable | concatTables => cases hraise
      | openTable => exact ⟨fun _ _ h => (by cases h), fun _ => List.Subperm.refl _⟩
      | afterWrite =>
          exact ⟨fun _ _ h => (by cases h), fun _ => subperm_readable_set_table hpath rows⟩
      | writeTable left =>
          have honly : (∀ left', some (WriteFault.writeTable left) = some (.writeTable left') →
              readable files = [] ∨ (left' = .removed ∧ rowsAt files path = [])) ↔
              readable files = [] ∨ (left = .removed ∧ rowsAt files path = []) := by
            constructor
            · intro h
              exact h left rfl
            · rintro h left' hleft
              cases hleft
              exact h
          rw [honly]
          cases left with
          | truncated =>
              refine (subperm_readable_set_truncated_iff hpath).trans ?_
              simp
          | removed =>
              refine (subperm_readable_erase_iff hpath).trans ?_
              simp

end Overwrite

/-- **When a failed write loses nothing.**

Let a call of `write_batch` raise.  Everything readable before is readable
after it, each record as often, exactly when the call was not broken off in the
middle of an overwrite: the environment did not let `write_table` fail after
opening the day file, or the records did not convert, so that the overwrite was
not reached; or else when there was nothing to lose, that is nothing readable,
or the day file removed and no rows in it. -/
theorem failed_write_keeps_iff [Numerics] (files : TraceDir) (date : String)
    (records : List TelemetryRecord) (fault : Option WriteFault) (e : PyError)
    (hraise : (writeBatch files date records fault).1 = .error e) :
    (readable files).Subperm (readable (writeBatch files date records fault).2) ↔
      ∀ left, fault = some (.writeTable left) →
        records.all (·.fitsSchema) = false ∨ readable files = [] ∨
          (left = .removed ∧ rowsAt files (dayFile date) = []) := by
  have hday := isParquet_dayFile date
  rcases writeBatch_cases files date records fault with
    ⟨_, hcall⟩ | ⟨⟨e', hcall⟩, hreason⟩ | ⟨hfits, _, _, hcall⟩
  · rw [hcall] at hraise
    cases hraise
  · -- the overwrite was not reached
    rw [hcall]
    constructor
    · intro _ left hleft
      rcases hreason left hleft with hconv | htrunc
      · exact .inl hconv
      · exact .inr (.inl (readable_of_not_intact (not_intact_of_truncated hday htrunc)))
    · intro _
      exact List.Subperm.refl _
  · rw [hcall] at hraise ⊢
    rw [subperm_writeTable_iff hday _ hraise, hfits]
    simp

/-- A record without block history. -/
def plainRecord (blockId : Int) : TelemetryRecord :=
  TelemetryRecord.fromBlockState
    { blockId := blockId, layerId := 0, headGroup := 0, requestId := "r" } .keepGpu
    { modelName := "m", timestamp := 0 }

/-- A day file with one row. -/
def oneDay : TraceDir :=
  OrdDict.empty.set (dayFile "2024-01-01") (.table [plainRecord 1])

/-- A batch that fails before the day file is opened loses nothing. -/
theorem failed_write_keeps_iff_open :
    letI : Numerics := lineNumerics.toNumerics
    (readable oneDay).Subperm
      (readable (writeBatch oneDay "2024-01-01" [plainRecord 2] (some .openTable)).2) := by
  let _ : Numerics := lineNumerics.toNumerics
  refine (failed_write_keeps_iff oneDay "2024-01-01" [plainRecord 2] (some .openTable)
    (.other "OSError") (by decide +kernel)).mpr ?_
  intro left hleft
  cases hleft

/-- An overwrite that breaks off and removes the file loses the row of the
day, and one that leaves it truncated makes `read_all` raise. -/
theorem failed_write_loses :
    letI : Numerics := lineNumerics.toNumerics
    readable oneDay = [plainRecord 1] ∧
      (∀ left, ∃ e, (writeBatch oneDay "2024-01-01" [plainRecord 2]
        (some (.writeTable left))).1 = .error e ∧
        readable (writeBatch oneDay "2024-01-01" [plainRecord 2]
          (some (.writeTable left))).2 = [] ∧
        ¬(readable oneDay).Subperm (readable (writeBatch oneDay "2024-01-01" [plainRecord 2]
          (some (.writeTable left))).2)) := by
  let _ : Numerics := lineNumerics.toNumerics
  have hbefore : readable oneDay = [plainRecord 1] := by decide +kernel
  refine ⟨hbefore, fun left => ?_⟩
  have hafter : readable (writeBatch oneDay "2024-01-01" [plainRecord 2]
      (some (.writeTable left))).2 = [] := by
    cases left <;> decide +kernel
  refine ⟨.other "OSError", ?_, hafter, ?_⟩
  · cases left <;> decide +kernel
  · rw [hafter, hbefore, List.subperm_nil]
    exact List.cons_ne_nil _ _

end KVOrchestrator.Ports
