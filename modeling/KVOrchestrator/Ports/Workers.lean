import KVOrchestrator.Ports.WriteFailure
import KVOrchestrator.Verified.Dynamics

/-!
# Several workers on one output directory

`make serve-prod` starts four processes, each with its own collector and its
own lock, over one `output_dir`.  The append of a batch is a check, a read and
an overwrite of the day's file, each atomic on its own, and nothing keeps two
workers from interleaving theirs.

An overwrite is *fresh* if the day file still is what the worker saw of it.
Fresh overwrites add their batch to the directory; one that is not fresh drops
the batches written since (`workers_complete_iff`).  A worker that runs its
three steps without interruption does what `writeBatch` does
(`run_uninterrupted`) and is always fresh.
-/

namespace KVOrchestrator.Ports

open KVOrchestrator.Verified

/-- Where a worker is in its `write_batch` call. -/
inductive WritePhase where
  | idle
  /-- The day file exists and is to be read. -/
  | toRead (path : String) (table : List TelemetryRecord)
  /-- The table is to be written behind the rows read; `none` if the day file
  did not exist. -/
  | toWrite (path : String) (table : List TelemetryRecord)
      (existing : Option (List TelemetryRecord))
  deriving DecidableEq

/-- The shared directory and the workers over it. -/
structure Workers (ω : Type) where
  files : TraceDir
  phase : ω → WritePhase
  /-- The rows of all calls that returned, a record of the run and no part of
  any worker. -/
  committed : List TelemetryRecord

/-- One atomic step of one worker. -/
inductive WorkerStep (ω : Type) where
  /-- Enter `write_batch` on a date: convert the batch and see whether the day
  file exists. -/
  | check (worker : ω) (date : String) (records : List TelemetryRecord)
  | read (worker : ω)
  | write (worker : ω)
  /-- The call raises before its overwrite. -/
  | fail (worker : ω)

namespace Workers

variable {ω : Type}

/-- All workers idle over a directory. -/
def init (files : TraceDir) : Workers ω where
  files := files
  phase := fun _ => .idle
  committed := []

/-- The same directory with one worker in another phase. -/
def setPhase [DecidableEq ω] (s : Workers ω) (worker : ω) (phase : WritePhase) : Workers ω :=
  { s with phase := Function.update s.phase worker phase }

/-- Perform one step; a step that is not the worker's next one does nothing. -/
def perform [Numerics] [DecidableEq ω] (s : Workers ω) : WorkerStep ω → Workers ω
  | .check worker date records =>
      match s.phase worker with
      | .idle =>
          if records.isEmpty then s
          else
            match fromPylist records with
            | .error _ => s
            | .ok table =>
                let path := dayFile date
                if (s.files.get? path).isSome then s.setPhase worker (.toRead path table)
                else s.setPhase worker (.toWrite path table none)
      | _ => s
  | .read worker =>
      match s.phase worker with
      | .toRead path table =>
          match s.files.get? path with
          | some (.table existing) => s.setPhase worker (.toWrite path table (some existing))
          | _ => s.setPhase worker .idle
      | _ => s
  | .write worker =>
      match s.phase worker with
      | .toWrite path table existing =>
          { files := s.files.set path (.table (existing.getD [] ++ table))
            phase := Function.update s.phase worker .idle
            committed := s.committed ++ table }
      | _ => s
  | .fail worker => s.setPhase worker .idle

/-- A write finds the day file as its worker saw it. -/
def FreshStep (s : Workers ω) : WorkerStep ω → Prop
  | .write worker =>
      match s.phase worker with
      | .toWrite path _ existing => s.files.get? path = existing.map .table
      | _ => True
  | _ => True

instance (s : Workers ω) (op : WorkerStep ω) : Decidable (s.FreshStep op) :=
  match op with
  | .check _ _ _ => .isTrue trivial
  | .read _ => .isTrue trivial
  | .fail _ => .isTrue trivial
  | .write worker =>
      match h : s.phase worker with
      | .idle => .isTrue (by simp only [FreshStep, h])
      | .toRead _ _ => .isTrue (by simp only [FreshStep, h])
      | .toWrite path _ existing =>
          decidable_of_iff (s.files.get? path = existing.map .table) (by simp only [FreshStep, h])

/-- Every record of every call that returned, and of every file there was at
the start, can be read. -/
def Complete (start : TraceDir) (s : Workers ω) : Prop :=
  (readable start ++ s.committed).Subperm (readable s.files)

/-! ## What a write does -/

/-- A pending call: its path is a Parquet file, it has rows to write, and if
it has read the day file, that has kept its rows or grown. -/
def PendingOk (files : TraceDir) : WritePhase → Prop
  | .idle => True
  | .toRead path table => isParquet path = true ∧ table ≠ []
  | .toWrite path table existing =>
      isParquet path = true ∧ table ≠ [] ∧
        (files.get? path = existing.map .table ∨
          (existing.getD []).length < (rowsAt files path).length)

/-- The state of a run whose writes have all been fresh. -/
structure Consistent (start : TraceDir) (s : Workers ω) : Prop where
  intact : Intact s.files
  rows : (readable s.files).Perm (readable start ++ s.committed)
  pending : ∀ worker, PendingOk s.files (s.phase worker)

theorem Consistent.complete {start : TraceDir} {s : Workers ω} (h : Consistent start s) :
    Complete start s :=
  h.rows.symm.subperm

theorem consistent_init {start : TraceDir} (h : Intact start) :
    Consistent start (init start : Workers ω) where
  intact := h
  rows := by
    show (readable start).Perm (readable start ++ [])
    rw [List.append_nil]
  pending _ := trivial

theorem rowsAt_of_get? {files : TraceDir} {path : String}
    {existing : Option (List TelemetryRecord)} (h : files.get? path = existing.map .table) :
    rowsAt files path = existing.getD [] := by
  rw [rowsAt, h]
  cases existing <;> rfl

/-- A fresh write leaves the pending calls of the others behind or untouched. -/
theorem pendingOk_set {files : TraceDir} {path : String} {table : List TelemetryRecord}
    {existing : Option (List TelemetryRecord)} (hfresh : files.get? path = existing.map .table)
    (htable : table ≠ []) {phase : WritePhase} (h : PendingOk files phase) :
    PendingOk (files.set path (.table (existing.getD [] ++ table))) phase := by
  cases phase with
  | idle => trivial
  | toRead path' table' => exact h
  | toWrite path' table' existing' =>
      obtain ⟨hpath', htable', hseen⟩ := h
      refine ⟨hpath', htable', ?_⟩
      by_cases hsame : path' = path
      · subst hsame
        right
        have hgrown : (existing'.getD []).length ≤ (existing.getD []).length := by
          rcases hseen with hfile | hlt
          · rw [← rowsAt_of_get? hfile, ← rowsAt_of_get? hfresh]
          · rw [rowsAt_of_get? hfresh] at hlt
            omega
        have hrows : rowsAt (files.set path' (.table (existing.getD [] ++ table))) path' =
            existing.getD [] ++ table := by
          rw [rowsAt, OrdDict.get?_set_self]
          rfl
        have hpos : 0 < table.length := List.length_pos_iff.mpr htable
        rw [hrows, List.length_append]
        omega
      · have hget : (files.set path (.table (existing.getD [] ++ table))).get? path' =
            files.get? path' := OrdDict.get?_set_of_ne _ hsame _
        rw [rowsAt, hget]
        exact hseen

section Steps

variable [DecidableEq ω] {start : TraceDir} {s : Workers ω}

theorem Consistent.setPhase (h : Consistent start s) (worker : ω) {phase : WritePhase}
    (hphase : PendingOk s.files phase) : Consistent start (s.setPhase worker phase) where
  intact := h.intact
  rows := h.rows
  pending worker' := by
    show PendingOk s.files (Function.update s.phase worker phase worker')
    by_cases hw : worker' = worker
    · rw [hw, Function.update_self]
      exact hphase
    · rw [Function.update_of_ne hw]
      exact h.pending worker'

/-- The state after an overwrite. -/
def overwrite (s : Workers ω) (worker : ω) (path : String) (table : List TelemetryRecord)
    (existing : Option (List TelemetryRecord)) : Workers ω where
  files := s.files.set path (.table (existing.getD [] ++ table))
  phase := Function.update s.phase worker .idle
  committed := s.committed ++ table

/-- A fresh overwrite adds its batch. -/
theorem Consistent.overwrite (h : Consistent start s) {worker : ω} {path : String}
    {table : List TelemetryRecord} {existing : Option (List TelemetryRecord)}
    (hphase : s.phase worker = .toWrite path table existing)
    (hfresh : s.files.get? path = existing.map .table) :
    Consistent start (s.overwrite worker path table existing) := by
  have hown := h.pending worker
  rw [hphase] at hown
  obtain ⟨hpath, htable, _⟩ := hown
  refine ⟨intact_set_table h.intact _ _, ?_, fun worker' => ?_⟩
  · have hperm := readable_append_perm h.intact hpath table
    rw [rowsAt_of_get? hfresh] at hperm
    show (readable (s.files.set path (.table (existing.getD [] ++ table)))).Perm
      (readable start ++ (s.committed ++ table))
    rw [← List.append_assoc]
    exact hperm.trans (h.rows.append_right table)
  · show PendingOk (s.files.set path (.table (existing.getD [] ++ table)))
      (Function.update s.phase worker .idle worker')
    by_cases hw : worker' = worker
    · rw [hw, Function.update_self]
      trivial
    · rw [Function.update_of_ne hw]
      exact pendingOk_set hfresh htable (h.pending worker')

/-- An overwrite that is not fresh drops rows. -/
theorem Consistent.not_complete_overwrite (h : Consistent start s) {worker : ω} {path : String}
    {table : List TelemetryRecord} {existing : Option (List TelemetryRecord)}
    (hphase : s.phase worker = .toWrite path table existing)
    (hstale : s.files.get? path ≠ existing.map .table) :
    ¬Complete start (s.overwrite worker path table existing) := by
  have hown := h.pending worker
  rw [hphase] at hown
  obtain ⟨hpath, _, hseen⟩ := hown
  have hlt : (existing.getD []).length < (rowsAt s.files path).length :=
    hseen.resolve_left hstale
  intro hcomplete
  have hle : (readable start ++ (s.committed ++ table)).length ≤
      (readable (s.files.set path (.table (existing.getD [] ++ table)))).length :=
    hcomplete.length_le
  have hafter := (readable_set_table_perm h.intact hpath (existing.getD [] ++ table)).length_eq
  have hbefore := (readable_perm h.intact hpath).length_eq
  have hrows := h.rows.length_eq
  simp only [List.length_append] at hle hafter hbefore hrows
  omega

/-- **What a step can do**: nothing, move its worker to another phase, or
overwrite the day file. -/
theorem perform_cases [Numerics] (s : Workers ω) (op : WorkerStep ω) :
    (s.perform op = s ∧ s.FreshStep op) ∨
    (∃ worker phase, s.perform op = s.setPhase worker phase ∧ s.FreshStep op ∧
      (PendingOk s.files (s.phase worker) → PendingOk s.files phase)) ∨
    (∃ worker path table existing, op = .write worker ∧
      s.phase worker = .toWrite path table existing ∧
      s.perform op = s.overwrite worker path table existing) := by
  cases op with
  | check worker date records =>
      cases hphase : s.phase worker with
      | toRead path table => exact .inl ⟨by simp only [perform, hphase], trivial⟩
      | toWrite path table existing => exact .inl ⟨by simp only [perform, hphase], trivial⟩
      | idle =>
          by_cases hempty : records = []
          · exact .inl ⟨by simp [perform, hphase, hempty], trivial⟩
          · have hne : records.isEmpty = false := by simpa using hempty
            cases htable : fromPylist records with
            | error e => exact .inl ⟨by simp [perform, hphase, htable], trivial⟩
            | ok table =>
                have hrows : table ≠ [] := by
                  unfold fromPylist at htable
                  split at htable
                  · rw [← Except.ok.inj htable]
                    simpa using hempty
                  · cases htable
                have hday := isParquet_dayFile date
                right; left
                by_cases hexists : (s.files.get? (dayFile date)).isSome = true
                · refine ⟨worker, .toRead (dayFile date) table, ?_, trivial,
                    fun _ => ⟨hday, hrows⟩⟩
                  simp [perform, hphase, hne, htable, hexists]
                · refine ⟨worker, .toWrite (dayFile date) table none, ?_, trivial, fun _ => ?_⟩
                  · simp [perform, hphase, hne, htable, hexists]
                  · exact ⟨hday, hrows, .inl (by simpa using hexists)⟩
  | read worker =>
      cases hphase : s.phase worker with
      | idle => exact .inl ⟨by simp only [perform, hphase], trivial⟩
      | toWrite path table existing => exact .inl ⟨by simp only [perform, hphase], trivial⟩
      | toRead path table =>
          right; left
          cases hfile : s.files.get? path with
          | none =>
              exact ⟨worker, .idle, by simp only [perform, hphase, hfile], trivial,
                fun _ => trivial⟩
          | some file =>
              cases file with
              | truncated =>
                  exact ⟨worker, .idle, by simp only [perform, hphase, hfile], trivial,
                    fun _ => trivial⟩
              | table existing =>
                  refine ⟨worker, .toWrite path table (some existing), ?_, trivial,
                    fun h => ?_⟩
                  · simp only [perform, hphase, hfile]
                  · rw [hphase] at h
                    exact ⟨h.1, h.2, .inl hfile⟩
  | write worker =>
      cases hphase : s.phase worker with
      | idle =>
          exact .inl ⟨by simp only [perform, hphase], by simp only [FreshStep, hphase]⟩
      | toRead path table =>
          exact .inl ⟨by simp only [perform, hphase], by simp only [FreshStep, hphase]⟩
      | toWrite path table existing =>
          refine .inr (.inr ⟨worker, path, table, existing, rfl, hphase, ?_⟩)
          simp only [perform, hphase]
          rfl
  | fail worker =>
      exact .inr (.inl ⟨worker, .idle, rfl, trivial, fun _ => trivial⟩)

/-- Fresh steps keep the state consistent. -/
theorem Consistent.perform [Numerics] (h : Consistent start s) {op : WorkerStep ω}
    (hfresh : s.FreshStep op) : Consistent start (s.perform op) := by
  rcases s.perform_cases op with
    ⟨hsame, _⟩ | ⟨worker, phase, hphase, _, hok⟩ | ⟨worker, path, table, existing, rfl, hw, hover⟩
  · rw [hsame]
    exact h
  · rw [hphase]
    exact h.setPhase worker (hok (h.pending worker))
  · rw [hover]
    simp only [FreshStep, hw] at hfresh
    exact h.overwrite hw hfresh

/-- The first step that is not fresh loses a record. -/
theorem Consistent.not_complete_perform [Numerics] (h : Consistent start s)
    {op : WorkerStep ω} (hstale : ¬s.FreshStep op) : ¬Complete start (s.perform op) := by
  rcases s.perform_cases op with
    ⟨_, hfresh⟩ | ⟨_, _, _, hfresh, _⟩ | ⟨worker, path, table, existing, rfl, hw, hover⟩
  · exact absurd hfresh hstale
  · exact absurd hfresh hstale
  · rw [hover]
    simp only [FreshStep, hw] at hstale
    exact h.not_complete_overwrite hw hstale

end Steps

/-- **When no worker's update is lost.**

Any number of workers interleave their steps over one directory without
truncated files.  Every record of every call that has returned is readable, in
every state the run passes through, exactly when every write of the run finds
the day file as its worker saw it. -/
theorem workers_complete_iff [Numerics] [DecidableEq ω] (start : TraceDir)
    (hintact : Intact start) (ops : List (WorkerStep ω)) :
    Throughout perform (Complete start) (init start) ops ↔
      StepsMeet perform FreshStep (init start) ops :=
  throughout_iff_stepsMeet (fun _ _ hfresh h => h.perform hfresh) (fun _ h => h.complete)
    (fun _ _ h hstale => h.not_complete_perform hstale) ops _ (consistent_init hintact)

/-! ## Calls that are not interrupted -/

/-- The steps of one call. -/
def callSteps (worker : ω) (date : String) (records : List TelemetryRecord) :
    List (WorkerStep ω) :=
  [.check worker date records, .read worker, .write worker]

section Uninterrupted

variable [DecidableEq ω] {s : Workers ω} {worker : ω}

@[simp] theorem phase_setPhase_self (s : Workers ω) (worker : ω) (phase : WritePhase) :
    (s.setPhase worker phase).phase worker = phase :=
  Function.update_self ..

@[simp] theorem setPhase_setPhase (s : Workers ω) (worker : ω) (phase phase' : WritePhase) :
    (s.setPhase worker phase).setPhase worker phase' = s.setPhase worker phase' := by
  simp [setPhase]

theorem setPhase_idle (hidle : s.phase worker = .idle) : s.setPhase worker .idle = s := by
  rw [setPhase, ← hidle, Function.update_eq_self]

theorem overwrite_setPhase (s : Workers ω) (worker : ω) (phase : WritePhase) (path : String)
    (table : List TelemetryRecord) (existing : Option (List TelemetryRecord)) :
    (s.setPhase worker phase).overwrite worker path table existing =
      s.overwrite worker path table existing := by
  simp [setPhase, overwrite]

/-- After its check and its read a worker has seen the day file as it is. -/
theorem perform_check_read [Numerics] (hidle : s.phase worker = .idle) {date : String}
    {records table : List TelemetryRecord} (hne : records ≠ [])
    (htable : fromPylist records = .ok table) {existing : Option (List TelemetryRecord)}
    (hfile : s.files.get? (dayFile date) = existing.map .table) :
    (s.perform (.check worker date records)).perform (.read worker) =
      s.setPhase worker (.toWrite (dayFile date) table existing) := by
  cases existing with
  | none =>
      have hcheck : s.perform (.check worker date records) =
          s.setPhase worker (.toWrite (dayFile date) table none) := by
        simp [perform, hidle, hne, htable, hfile]
      rw [hcheck]
      simp [perform]
  | some rows =>
      have hcheck : s.perform (.check worker date records) =
          s.setPhase worker (.toRead (dayFile date) table) := by
        simp [perform, hidle, hne, htable, hfile]
      have hkept : (s.setPhase worker (.toRead (dayFile date) table)).files.get? (dayFile date) =
          some (.table rows) := hfile
      rw [hcheck]
      simp [perform, hkept]

/-- Before a truncated file it gives up. -/
theorem perform_check_read_truncated [Numerics] (hidle : s.phase worker = .idle) {date : String}
    {records table : List TelemetryRecord} (hne : records ≠ [])
    (htable : fromPylist records = .ok table)
    (hfile : s.files.get? (dayFile date) = some .truncated) :
    (s.perform (.check worker date records)).perform (.read worker) = s := by
  have hcheck : s.perform (.check worker date records) =
      s.setPhase worker (.toRead (dayFile date) table) := by
    simp [perform, hidle, hne, htable, hfile]
  have hkept : (s.setPhase worker (.toRead (dayFile date) table)).files.get? (dayFile date) =
      some .truncated := hfile
  rw [hcheck]
  simp [perform, hkept, setPhase_idle hidle]

/-- A call that is not interrupted either gives up before its write, as
`write_batch` does, or is about to write what `write_batch` writes. -/
theorem perform_check_read_cases [Numerics] (hidle : s.phase worker = .idle) (date : String)
    (records : List TelemetryRecord) :
    ((s.perform (.check worker date records)).perform (.read worker) = s ∧
      (writeBatch s.files date records none).2 = s.files) ∨
    (∃ table existing, s.files.get? (dayFile date) = existing.map .table ∧
      (s.perform (.check worker date records)).perform (.read worker) =
        s.setPhase worker (.toWrite (dayFile date) table existing) ∧
      (writeBatch s.files date records none).2 =
        s.files.set (dayFile date) (.table (existing.getD [] ++ table))) := by
  by_cases hempty : records = []
  · exact .inl ⟨by simp [perform, hidle, hempty], by simp [writeBatch, hempty]⟩
  · cases htable : fromPylist records with
    | error e =>
        exact .inl ⟨by simp [perform, hidle, htable], by simp [writeBatch, hempty, htable]⟩
    | ok table =>
        cases hget : s.files.get? (dayFile date) with
        | none =>
            refine .inr ⟨table, none, rfl, perform_check_read hidle hempty htable hget, ?_⟩
            simp [writeBatch, hempty, htable, readExisting, hget, writeTable]
        | some file =>
            cases file with
            | truncated =>
                refine .inl ⟨perform_check_read_truncated hidle hempty htable hget, ?_⟩
                simp [writeBatch, hempty, htable, readExisting, hget, readTable]
            | table rows =>
                refine .inr ⟨table, some rows, rfl,
                  perform_check_read hidle hempty htable hget, ?_⟩
                simp [writeBatch, hempty, htable, readExisting, hget, readTable, writeTable]

/-- **A call that is not interrupted** is `write_batch`, its write is fresh,
and no worker that was idle is busy afterwards. -/
theorem run_uninterrupted [Numerics] (hidle : s.phase worker = .idle) (date : String)
    (records : List TelemetryRecord) :
    (run perform s (callSteps worker date records)).files =
        (writeBatch s.files date records none).2 ∧
      StepsMeet perform FreshStep s (callSteps worker date records) ∧
      ∀ worker', s.phase worker' = .idle →
        (run perform s (callSteps worker date records)).phase worker' = .idle := by
  have hsteps : StepsMeet perform FreshStep s (callSteps worker date records) ↔
      ((s.perform (.check worker date records)).perform (.read worker)).FreshStep
        (.write worker) := by
    simp [callSteps, StepsMeet, FreshStep]
  have hrun : run perform s (callSteps worker date records) =
      ((s.perform (.check worker date records)).perform (.read worker)).perform
        (.write worker) := rfl
  rw [hsteps, hrun]
  rcases perform_check_read_cases hidle date records with
    ⟨hsame, hcall⟩ | ⟨table, existing, hfile, hseen, hcall⟩
  · have hwrite : s.perform (.write worker) = s := by simp only [perform, hidle]
    rw [hsame, hwrite, hcall]
    exact ⟨rfl, by simp only [FreshStep, hidle], fun _ hw => hw⟩
  · have hwrite : (s.setPhase worker (.toWrite (dayFile date) table existing)).perform
        (.write worker) = s.overwrite worker (dayFile date) table existing := by
      rw [← overwrite_setPhase s worker (.toWrite (dayFile date) table existing)]
      simp only [perform, phase_setPhase_self]
      rfl
    rw [hseen, hwrite, hcall]
    refine ⟨rfl, ?_, fun worker' hw' => ?_⟩
    · simp only [FreshStep, phase_setPhase_self]
      exact hfile
    · by_cases hw : worker' = worker
      · rw [hw]
        exact Function.update_self ..
      · exact (Function.update_of_ne hw ..).trans hw'

end Uninterrupted

/-- Calls that are not interrupted, one after the other, lose nothing. -/
theorem complete_of_serial [Numerics] [DecidableEq ω] {start : TraceDir}
    (hintact : Intact start) (calls : List (ω × String × List TelemetryRecord)) :
    Throughout perform (Complete start) (init start)
      (calls.flatMap (fun call => callSteps call.1 call.2.1 call.2.2)) := by
  rw [workers_complete_iff start hintact]
  have hserial : ∀ (calls : List (ω × String × List TelemetryRecord)) (s : Workers ω),
      (∀ worker, s.phase worker = .idle) → StepsMeet perform FreshStep s
        (calls.flatMap (fun call => callSteps call.1 call.2.1 call.2.2)) := by
    intro calls
    induction calls with
    | nil => exact fun _ _ => trivial
    | cons call calls ih =>
        intro s hidle
        obtain ⟨_, hfresh, hafter⟩ := run_uninterrupted (hidle call.1) call.2.1 call.2.2
        rw [List.flatMap_cons, stepsMeet_append]
        exact ⟨hfresh, ih _ (fun worker => hafter worker (hidle worker))⟩
  exact hserial calls (init start) (fun _ => rfl)

end Workers

/-- Two workers flush one record each on a day without a file, and both look
for the file before either writes. -/
def racingSteps : List (WorkerStep Nat) :=
  [ .check 1 "2024-01-01" [plainRecord 1],
    .check 2 "2024-01-01" [plainRecord 2],
    .write 1,
    .write 2 ]

/-- The same two calls one after the other. -/
def serialSteps : List (WorkerStep Nat) :=
  [ .check 1 "2024-01-01" [plainRecord 1],
    .write 1,
    .check 2 "2024-01-01" [plainRecord 2],
    .read 2,
    .write 2 ]

theorem workers_complete_iff_serial :
    letI : Numerics := lineNumerics.toNumerics
    Throughout Workers.perform (Workers.Complete OrdDict.empty)
      (Workers.init OrdDict.empty) serialSteps := by
  let _ : Numerics := lineNumerics.toNumerics
  exact (Workers.workers_complete_iff OrdDict.empty (by decide +kernel) serialSteps).mpr
    (by decide +kernel)

/-- Both calls return, and the second overwrite drops the record of the
first. -/
theorem workers_lose_update :
    letI : Numerics := lineNumerics.toNumerics
    let s := run Workers.perform (Workers.init OrdDict.empty) racingSteps
    s.committed = [plainRecord 1, plainRecord 2] ∧ readable s.files = [plainRecord 2] ∧
      ¬Workers.Complete OrdDict.empty s := by
  let _ : Numerics := lineNumerics.toNumerics
  intro s
  have hcommitted : s.committed = [plainRecord 1, plainRecord 2] := by decide +kernel
  have hreadable : readable s.files = [plainRecord 2] := by decide +kernel
  refine ⟨hcommitted, hreadable, fun hcomplete => ?_⟩
  have hle := hcomplete.length_le
  rw [hcommitted, hreadable] at hle
  exact absurd hle (by decide +kernel)

end KVOrchestrator.Ports
