import KVOrchestrator.Ports.CollectorRun
import KVOrchestrator.Ports.WriteFailure

/-!
# The collector over a directory (`src/telemetry/collector.py`, `src/telemetry/storage.py`)

The collector proper, whose write calls go to the Parquet files: a flush hands
the whole buffer to `write_batch` of the current date, and takes it back if the
call raises.  What the environment has in store for a call, its date and its
fault, is given call by call.

Over a directory the collector still does what it does over a storage that
persists a batch as a whole or not at all, as long as no overwrite is broken
off; what such a storage answers is read off the calls (`simulates_run`).  Which
calls the schema refuses is another matter, since a refused batch comes back:
`unfit_record_blocks_iff`.
-/

namespace KVOrchestrator.Ports

open KVOrchestrator.Verified

/-- The circumstances of one `write_batch` call. -/
structure WriteTime where
  date : String
  fault : Option WriteFault := none

/-- An enabled collector with its output directory. -/
structure DiskCollector where
  modelName : String := "unknown"
  maxBufferSize : Int := 10000
  buffer : List TelemetryRecord := []
  files : TraceDir := OrdDict.empty
  requestCache : OrdDict String RequestMetrics := OrdDict.empty
  totalRecords : Nat := 0
  totalFlushes : Nat := 0
  clock : Nat → ℚ := fun _ => 0
  /-- How the write calls made so far ended. -/
  outcomes : List Bool := []
  /-- The circumstances of the write call of this number. -/
  times : Nat → WriteTime

namespace DiskCollector

/-- A new collector over a directory. -/
def init (modelName : String) (maxBufferSize : Int) (files : TraceDir) (clock : Nat → ℚ)
    (times : Nat → WriteTime) : DiskCollector where
  modelName := modelName
  maxBufferSize := maxBufferSize
  files := files
  clock := clock
  times := times

section Model

variable [Numerics]

/-- The write call of a flush. -/
def writeCall (d : DiskCollector) : Except PyError Unit × TraceDir :=
  let time := d.times d.outcomes.length
  writeBatch d.files time.date d.buffer time.fault

/-- Hand the buffer to the storage; it is taken back if the storage raises. -/
def flushLocked (d : DiskCollector) : DiskCollector :=
  if d.buffer.isEmpty then d
  else
    match d.writeCall with
    | (.ok _, files) => { d with
        files := files
        buffer := []
        totalFlushes := d.totalFlushes + 1
        outcomes := d.outcomes ++ [true] }
    | (.error _, files) => { d with
        files := files
        outcomes := d.outcomes ++ [false] }

/-- The collector with a record appended to its buffer. -/
def buffered (d : DiskCollector) (record : TelemetryRecord) : DiskCollector :=
  { d with
    buffer := d.buffer ++ [record]
    totalRecords := d.totalRecords + 1 }

/-- The critical section of an event: buffer its record, and flush a full
buffer. -/
def pushRecord (d : DiskCollector) (record : TelemetryRecord) : DiskCollector :=
  if ((d.buffered record).buffer.length : Int) ≥ d.maxBufferSize then
    (d.buffered record).flushLocked
  else d.buffered record

/-- Perform one operation. -/
def perform (d : DiskCollector) : CollectorOp → DiskCollector
  | .recordBlockEvent event =>
      d.pushRecord (event.record d.modelName (d.clock d.totalRecords))
  | .recordRequestCompletion metrics =>
      { d with requestCache := d.requestCache.set metrics.requestId metrics }
  | .flush => d.flushLocked
  | .flushTick => d.flushLocked

/-- `stop`: the background thread has ended, and the buffer is flushed once
more. -/
def stop (d : DiskCollector) : DiskCollector := d.flushLocked

/-! ## What a flush can do -/

/-- Nothing on an empty buffer; or the batch is written and the buffer empty;
or the call has raised, and the buffer is as before. -/
theorem flushLocked_cases (d : DiskCollector) :
    (d.buffer = [] ∧ d.flushLocked = d) ∨
    (d.buffer ≠ [] ∧ d.writeCall.1 = .ok () ∧
      d.flushLocked = { d with
        files := d.writeCall.2
        buffer := []
        totalFlushes := d.totalFlushes + 1
        outcomes := d.outcomes ++ [true] }) ∨
    (d.buffer ≠ [] ∧ (∃ e, d.writeCall.1 = .error e) ∧
      d.flushLocked = { d with
        files := d.writeCall.2
        outcomes := d.outcomes ++ [false] }) := by
  by_cases hempty : d.buffer = []
  · exact .inl ⟨hempty, by simp [flushLocked, hempty]⟩
  · have hne : d.buffer.isEmpty = false := by simpa using hempty
    obtain ⟨⟨result, files⟩, hcall⟩ : ∃ r, d.writeCall = r := ⟨_, rfl⟩
    cases result with
    | ok u => exact .inr (.inl ⟨hempty, by rw [hcall], by simp [flushLocked, hne, hcall]⟩)
    | error e =>
        exact .inr (.inr ⟨hempty, ⟨e, by rw [hcall]⟩, by simp [flushLocked, hne, hcall]⟩)

/-- The calls made stay made. -/
theorem outcomes_flushLocked (d : DiskCollector) : d.outcomes <+: d.flushLocked.outcomes := by
  rcases d.flushLocked_cases with ⟨_, h⟩ | ⟨_, _, h⟩ | ⟨_, _, h⟩
  · simp [h]
  · rw [h]
    exact List.prefix_append _ _
  · rw [h]
    exact List.prefix_append _ _

theorem outcomes_perform (d : DiskCollector) (op : CollectorOp) :
    d.outcomes <+: (d.perform op).outcomes := by
  cases op with
  | recordBlockEvent event =>
      show d.outcomes <+: (d.pushRecord _).outcomes
      unfold pushRecord
      split
      · exact (d.buffered _).outcomes_flushLocked
      · exact List.prefix_refl _
  | recordRequestCompletion metrics => exact List.prefix_refl _
  | flush => exact d.outcomes_flushLocked
  | flushTick => exact d.outcomes_flushLocked

theorem outcomes_run (ops : List CollectorOp) :
    ∀ d : DiskCollector, d.outcomes <+: (run perform d ops).outcomes := by
  induction ops with
  | nil => exact fun d => List.prefix_refl _
  | cons op ops ih => exact fun d => (d.outcomes_perform op).trans (ih (d.perform op))

/-! ## A storage that takes a batch as a whole or not at all -/

/-- No overwrite is broken off, and none raises after it is complete. -/
def WritesWhole (times : Nat → WriteTime) : Prop :=
  ∀ k, (∀ left, (times k).fault ≠ some (.writeTable left)) ∧ (times k).fault ≠ some .afterWrite

/-- The collector over the directory is in the state of one over a storage that
has answered the same way so far. -/
structure Simulates (d : DiskCollector) (c : TelemetryCollector) : Prop where
  enabled : c.enabled = true
  modelName : d.modelName = c.modelName
  maxBufferSize : d.maxBufferSize = c.maxBufferSize
  buffer : d.buffer = c.buffer
  requestCache : d.requestCache = c.requestCache
  totalRecords : d.totalRecords = c.totalRecords
  totalFlushes : d.totalFlushes = c.totalFlushes
  clock : d.clock = c.clock
  attempts : d.outcomes.length = c.storage.attempts
  storage : Represents d.files c.storage

/-- The storage answers as the calls on the directory end. -/
def Answers (accepts : Nat → Bool) (outcomes : List Bool) : Prop :=
  ∀ k (hk : k < outcomes.length), accepts k = outcomes[k]

omit [Numerics] in
theorem Answers.of_prefix {accepts : Nat → Bool} {outcomes outcomes' : List Bool}
    (h : Answers accepts outcomes') (hpre : outcomes <+: outcomes') :
    Answers accepts outcomes := by
  intro k hk
  rw [h k (Nat.lt_of_lt_of_le hk hpre.length_le)]
  exact (hpre.getElem hk).symm

/-! ### The storage of the collector -/

section Abstract

omit [Numerics]

theorem accepts_writeBatch (s : TelemetryStorage) (records : List TelemetryRecord) :
    (s.writeBatch records).2.accepts = s.accepts := by
  unfold TelemetryStorage.writeBatch
  split
  · rfl
  · split
    · rfl
    · split <;> rfl

theorem attempts_writeBatch {s : TelemetryStorage} (hs : s.backend = .parquet)
    {records : List TelemetryRecord} (hne : records ≠ []) :
    (s.writeBatch records).2.attempts = s.attempts + 1 := by
  have hne' : records.isEmpty = false := by simpa using hne
  have hmem : s.backend ≠ .memory := by
    rw [hs]
    decide
  unfold TelemetryStorage.writeBatch
  rw [if_neg (by simp [hne']), if_neg hmem]
  split <;> rfl

theorem isOk_writeBatch {s : TelemetryStorage} (hs : s.backend = .parquet)
    {records : List TelemetryRecord} (hne : records ≠ []) :
    (s.writeBatch records).1.isOk = s.accepts s.attempts := by
  have hne' : records.isEmpty = false := by simpa using hne
  have hmem : s.backend ≠ .memory := by
    rw [hs]
    decide
  unfold TelemetryStorage.writeBatch
  rw [if_neg (by simp [hne']), if_neg hmem]
  cases haccepts : s.accepts s.attempts <;> rfl

/-- The storage takes the batch. -/
theorem flushLocked_of_accepts {c : TelemetryCollector} (hs : c.storage.backend = .parquet)
    (hne : c.buffer ≠ []) (haccepts : c.storage.accepts c.storage.attempts = true) :
    c.flushLocked = { c with
      storage := (c.storage.writeBatch c.buffer).2
      buffer := []
      totalFlushes := c.totalFlushes + 1 } := by
  have hok := isOk_writeBatch hs hne
  obtain ⟨⟨result, storage⟩, hcall⟩ : ∃ r, c.storage.writeBatch c.buffer = r := ⟨_, rfl⟩
  rw [hcall, haccepts] at hok
  cases result with
  | ok u => simp [TelemetryCollector.flushLocked, hne, hcall]
  | error e => cases hok

/-- The storage refuses the batch. -/
theorem flushLocked_of_refuses {c : TelemetryCollector} (hs : c.storage.backend = .parquet)
    (hne : c.buffer ≠ []) (haccepts : c.storage.accepts c.storage.attempts = false) :
    c.flushLocked = { c with storage := (c.storage.writeBatch c.buffer).2 } := by
  have hok := isOk_writeBatch hs hne
  obtain ⟨⟨result, storage⟩, hcall⟩ : ∃ r, c.storage.writeBatch c.buffer = r := ⟨_, rfl⟩
  rw [hcall, haccepts] at hok
  cases result with
  | ok u => cases hok
  | error e => simp [TelemetryCollector.flushLocked, hne, hcall]

theorem accepts_flushLocked (c : TelemetryCollector) :
    c.flushLocked.storage.accepts = c.storage.accepts := by
  have hsame := accepts_writeBatch c.storage c.buffer
  unfold TelemetryCollector.flushLocked
  split
  · rfl
  · obtain ⟨⟨result, storage⟩, hcall⟩ : ∃ r, c.storage.writeBatch c.buffer = r := ⟨_, rfl⟩
    rw [hcall] at hsame
    cases result with
    | ok u =>
        simp only [hcall]
        exact hsame
    | error e =>
        simp only [hcall]
        exact hsame

theorem pushRecord_eq (c : TelemetryCollector) (record : TelemetryRecord) :
    c.pushRecord record =
      if ((c.buffered record).buffer.length : Int) ≥ c.maxBufferSize then
        (c.buffered record).flushLocked
      else c.buffered record := rfl

theorem accepts_perform (c : TelemetryCollector) (op : CollectorOp) :
    (c.perform op).storage.accepts = c.storage.accepts := by
  cases op with
  | recordBlockEvent event =>
      cases hc : c.enabled with
      | false => simp [TelemetryCollector.perform, TelemetryCollector.recordBlockEvent, hc]
      | true =>
          rw [TelemetryCollector.perform_recordBlockEvent hc]
          rw [pushRecord_eq]
          split
          · exact accepts_flushLocked _
          · rfl
  | recordRequestCompletion metrics =>
      rw [TelemetryCollector.perform, TelemetryCollector.recordRequestCompletion]
      split <;> rfl
  | flush => exact accepts_flushLocked c
  | flushTick => exact accepts_flushLocked c

end Abstract

/-! ### One step of both -/

/-- **A flush** over the directory and over the storage. -/
theorem Simulates.flushLocked {d : DiskCollector} {c : TelemetryCollector} (h : d.Simulates c)
    (hwhole : WritesWhole d.times) (haccepts : Answers c.storage.accepts d.flushLocked.outcomes) :
    d.flushLocked.Simulates c.flushLocked := by
  have hlast : ∀ b, d.flushLocked.outcomes = d.outcomes ++ [b] →
      c.storage.accepts c.storage.attempts = b := by
    intro b houtcomes
    have hlt : c.storage.attempts < d.flushLocked.outcomes.length := by
      rw [houtcomes, List.length_append, ← h.attempts, List.length_singleton]
      omega
    rw [haccepts c.storage.attempts hlt]
    simp [houtcomes, ← h.attempts]
  have hrefines : ∀ b, d.writeCall.1.isOk = b → c.storage.accepts c.storage.attempts = b →
      Represents d.writeCall.2 (c.storage.writeBatch c.buffer).2 := by
    intro b hb haccept
    rw [← h.buffer]
    exact (writeBatch_refines h.storage (d.times d.outcomes.length).date d.buffer (hwhole _).1
      (hwhole _).2 (haccept.trans hb.symm)).2
  rcases d.flushLocked_cases with ⟨hempty, hd⟩ | ⟨hne, hok, hd⟩ | ⟨hne, ⟨e, herr⟩, hd⟩
  · have hc : c.flushLocked = c := by
      rw [h.buffer] at hempty
      simp [TelemetryCollector.flushLocked, hempty]
    rwa [hd, hc]
  · have htrue := hlast true (by rw [hd])
    have hne' : c.buffer ≠ [] := h.buffer ▸ hne
    have hattempts := attempts_writeBatch h.storage.parquet hne'
    have hrepresents := hrefines true (by rw [hok]; rfl) htrue
    rw [hd, flushLocked_of_accepts h.storage.parquet hne' htrue]
    exact
      { enabled := h.enabled
        modelName := h.modelName
        maxBufferSize := h.maxBufferSize
        buffer := rfl
        requestCache := h.requestCache
        totalRecords := h.totalRecords
        totalFlushes := congrArg (· + 1) h.totalFlushes
        clock := h.clock
        attempts := by
          show (d.outcomes ++ [true]).length = (c.storage.writeBatch c.buffer).2.attempts
          rw [hattempts, List.length_append, h.attempts, List.length_singleton]
        storage := hrepresents }
  · have hfalse := hlast false (by rw [hd])
    have hne' : c.buffer ≠ [] := h.buffer ▸ hne
    have hattempts := attempts_writeBatch h.storage.parquet hne'
    have hrepresents := hrefines false (by rw [herr]; rfl) hfalse
    rw [hd, flushLocked_of_refuses h.storage.parquet hne' hfalse]
    exact
      { enabled := h.enabled
        modelName := h.modelName
        maxBufferSize := h.maxBufferSize
        buffer := h.buffer
        requestCache := h.requestCache
        totalRecords := h.totalRecords
        totalFlushes := h.totalFlushes
        clock := h.clock
        attempts := by
          show (d.outcomes ++ [false]).length = (c.storage.writeBatch c.buffer).2.attempts
          rw [hattempts, List.length_append, h.attempts, List.length_singleton]
        storage := hrepresents }

theorem Simulates.buffered {d : DiskCollector} {c : TelemetryCollector} (h : d.Simulates c)
    (record : TelemetryRecord) : (d.buffered record).Simulates (c.buffered record) where
  enabled := h.enabled
  modelName := h.modelName
  maxBufferSize := h.maxBufferSize
  buffer := congrArg (· ++ [record]) h.buffer
  requestCache := h.requestCache
  totalRecords := congrArg (· + 1) h.totalRecords
  totalFlushes := h.totalFlushes
  clock := h.clock
  attempts := h.attempts
  storage := h.storage

/-- **One operation** over the directory and over the storage. -/
theorem Simulates.perform {d : DiskCollector} {c : TelemetryCollector} (h : d.Simulates c)
    (hwhole : WritesWhole d.times) (op : CollectorOp)
    (haccepts : Answers c.storage.accepts (d.perform op).outcomes) :
    (d.perform op).Simulates (c.perform op) := by
  cases op with
  | recordBlockEvent event =>
      rw [TelemetryCollector.perform_recordBlockEvent h.enabled, ← h.modelName, ← h.clock,
        ← h.totalRecords]
      have hpush := h.buffered (event.record d.modelName (d.clock d.totalRecords))
      have hlen : ((d.buffered (event.record d.modelName
          (d.clock d.totalRecords))).buffer.length : Int) ≥ d.maxBufferSize ↔
          ((c.buffered (event.record d.modelName
            (d.clock d.totalRecords))).buffer.length : Int) ≥ c.maxBufferSize := by
        rw [hpush.buffer, h.maxBufferSize]
      have hperform : d.perform (.recordBlockEvent event) =
          d.pushRecord (event.record d.modelName (d.clock d.totalRecords)) := rfl
      rw [hperform, pushRecord] at haccepts ⊢
      rw [pushRecord_eq]
      by_cases hfull : ((d.buffered (event.record d.modelName
          (d.clock d.totalRecords))).buffer.length : Int) ≥ d.maxBufferSize
      · rw [if_pos hfull] at haccepts ⊢
        rw [if_pos (hlen.mp hfull)]
        exact hpush.flushLocked hwhole haccepts
      · rw [if_neg hfull, if_neg (fun hc => hfull (hlen.mpr hc))]
        exact hpush
  | recordRequestCompletion metrics =>
      have hperform : c.perform (.recordRequestCompletion metrics) =
          { c with requestCache := c.requestCache.set metrics.requestId metrics } := by
        rw [TelemetryCollector.perform, TelemetryCollector.recordRequestCompletion,
          if_neg (by simp [h.enabled])]
      rw [hperform]
      exact
        { enabled := h.enabled
          modelName := h.modelName
          maxBufferSize := h.maxBufferSize
          buffer := h.buffer
          requestCache := congrArg (·.set metrics.requestId metrics) h.requestCache
          totalRecords := h.totalRecords
          totalFlushes := h.totalFlushes
          clock := h.clock
          attempts := h.attempts
          storage := h.storage }
  | flush => exact h.flushLocked hwhole haccepts
  | flushTick => exact h.flushLocked hwhole haccepts

theorem times_flushLocked (d : DiskCollector) : d.flushLocked.times = d.times := by
  rcases d.flushLocked_cases with ⟨_, h⟩ | ⟨_, _, h⟩ | ⟨_, _, h⟩ <;> rw [h]

theorem times_perform (d : DiskCollector) (op : CollectorOp) :
    (d.perform op).times = d.times := by
  cases op with
  | recordBlockEvent event =>
      show (d.pushRecord _).times = d.times
      unfold pushRecord
      split
      · exact (d.buffered _).times_flushLocked
      · rfl
  | recordRequestCompletion metrics => rfl
  | flush => exact d.times_flushLocked
  | flushTick => exact d.times_flushLocked

/-- **A run** over the directory and over the storage. -/
theorem simulates_run (ops : List CollectorOp) :
    ∀ (d : DiskCollector) (c : TelemetryCollector), d.Simulates c → WritesWhole d.times →
      Answers c.storage.accepts (run perform d ops).outcomes →
        (run perform d ops).Simulates (run TelemetryCollector.perform c ops) := by
  induction ops with
  | nil => exact fun _ _ h _ _ => h
  | cons op ops ih =>
      intro d c h hwhole haccepts
      have hop := h.perform hwhole op (haccepts.of_prefix (outcomes_run ops (d.perform op)))
      apply ih _ _ hop
      · rw [times_perform]
        exact hwhole
      · rw [accepts_perform]
        exact haccepts

/-! ## Nothing is lost on the way to the directory -/

/-- What `read_all` returns, and the buffer as it would be stored. -/
def recorded (d : DiskCollector) : List TelemetryRecord :=
  readable d.files ++ d.buffer.map (·.toRow)

theorem recorded_flushLocked {d : DiskCollector} (hintact : Intact d.files)
    (hwhole : WritesWhole d.times) :
    Intact d.flushLocked.files ∧ d.flushLocked.recorded.Perm d.recorded := by
  rcases d.flushLocked_cases with ⟨_, hd⟩ | ⟨_, hok, hd⟩ | ⟨_, ⟨e, herr⟩, hd⟩
  · rw [hd]
    exact ⟨hintact, .refl _⟩
  · obtain ⟨hfiles, hperm⟩ := writeBatch_of_ok hintact hok
    rw [hd]
    refine ⟨hfiles, ?_⟩
    show (readable d.writeCall.2 ++ []).Perm _
    rw [List.append_nil]
    exact hperm
  · have hsame : d.writeCall.2 = d.files :=
      writeBatch_of_error herr (hwhole _).1 (hwhole _).2
    rw [hd]
    unfold recorded
    rw [hsame]
    exact ⟨hintact, .refl _⟩

theorem recorded_buffered (d : DiskCollector) (record : TelemetryRecord) :
    (d.buffered record).recorded = d.recorded ++ [record.toRow] := by
  simp [recorded, buffered]

/-- What the operations do not touch. -/
structure SameSetting (d d' : DiskCollector) : Prop where
  modelName : d'.modelName = d.modelName
  clock : d'.clock = d.clock
  times : d'.times = d.times

theorem sameSetting_flushLocked (d : DiskCollector) :
    SameSetting d d.flushLocked ∧ d.flushLocked.totalRecords = d.totalRecords := by
  rcases d.flushLocked_cases with ⟨_, h⟩ | ⟨_, _, h⟩ | ⟨_, _, h⟩
  · rw [h]
    exact ⟨⟨rfl, rfl, rfl⟩, rfl⟩
  · rw [h]
    exact ⟨⟨rfl, rfl, rfl⟩, rfl⟩
  · rw [h]
    exact ⟨⟨rfl, rfl, rfl⟩, rfl⟩

/-- An operation adds the record of its event to the setting. -/
theorem sameSetting_perform (d : DiskCollector) (op : CollectorOp) :
    SameSetting d (d.perform op) ∧ (d.perform op).totalRecords =
      d.totalRecords +
        (TelemetryCollector.eventRecords d.modelName d.clock d.totalRecords [op]).length := by
  cases op with
  | recordBlockEvent event =>
      show SameSetting d (d.pushRecord _) ∧ (d.pushRecord _).totalRecords = d.totalRecords + 1
      unfold pushRecord
      split
      · obtain ⟨hsame, htotal⟩ := sameSetting_flushLocked
          (d.buffered (event.record d.modelName (d.clock d.totalRecords)))
        exact ⟨⟨hsame.modelName, hsame.clock, hsame.times⟩, htotal⟩
      · exact ⟨⟨rfl, rfl, rfl⟩, rfl⟩
  | recordRequestCompletion metrics => exact ⟨⟨rfl, rfl, rfl⟩, rfl⟩
  | flush => exact d.sameSetting_flushLocked
  | flushTick => exact d.sameSetting_flushLocked

/-- **One operation** adds the record of its event. -/
theorem recorded_perform {d : DiskCollector} (hintact : Intact d.files)
    (hwhole : WritesWhole d.times) (op : CollectorOp) :
    Intact (d.perform op).files ∧ (d.perform op).recorded.Perm (d.recorded ++
      (TelemetryCollector.eventRecords d.modelName d.clock d.totalRecords [op]).map
        (·.toRow)) := by
  cases op with
  | recordBlockEvent event =>
      have hadd := d.recorded_buffered (event.record d.modelName (d.clock d.totalRecords))
      show Intact (d.pushRecord _).files ∧ (d.pushRecord _).recorded.Perm (d.recorded ++ [_])
      unfold pushRecord
      split
      · obtain ⟨hfiles, hperm⟩ := recorded_flushLocked
          (d := d.buffered (event.record d.modelName (d.clock d.totalRecords))) hintact hwhole
        rw [hadd] at hperm
        exact ⟨hfiles, hperm⟩
      · rw [hadd]
        exact ⟨hintact, .refl _⟩
  | recordRequestCompletion metrics =>
      refine ⟨hintact, ?_⟩
      show d.recorded.Perm (d.recorded ++ [])
      rw [List.append_nil]
  | flush =>
      show Intact d.flushLocked.files ∧ d.flushLocked.recorded.Perm (d.recorded ++ [])
      rw [List.append_nil]
      exact recorded_flushLocked hintact hwhole
  | flushTick =>
      show Intact d.flushLocked.files ∧ d.flushLocked.recorded.Perm (d.recorded ++ [])
      rw [List.append_nil]
      exact recorded_flushLocked hintact hwhole

theorem recorded_run (ops : List CollectorOp) :
    ∀ d : DiskCollector, Intact d.files → WritesWhole d.times →
      Intact (run perform d ops).files ∧ (run perform d ops).recorded.Perm (d.recorded ++
        (TelemetryCollector.eventRecords d.modelName d.clock d.totalRecords ops).map
          (·.toRow)) := by
  induction ops with
  | nil =>
      intro d hintact _
      exact ⟨hintact, by simp [TelemetryCollector.eventRecords, run]⟩
  | cons op ops ih =>
      intro d hintact hwhole
      obtain ⟨hsame, htotal⟩ := d.sameSetting_perform op
      obtain ⟨hfiles, hperm⟩ := recorded_perform hintact hwhole op
      obtain ⟨hfiles', hperm'⟩ := ih (d.perform op) hfiles (by rw [hsame.times]; exact hwhole)
      rw [hsame.modelName, hsame.clock, htotal] at hperm'
      refine ⟨hfiles', ?_⟩
      rw [TelemetryCollector.eventRecords_cons, List.map_append, ← List.append_assoc]
      exact hperm'.trans (hperm.append_right _)

/-! ## A record the schema refuses -/

/-- The buffer holds a record that does not fit its columns. -/
def Blocked (d : DiskCollector) : Prop := ∃ r ∈ d.buffer, r.fitsSchema = false

/-- No batch with such a record is written, at whatever time. -/
theorem writeBatch_of_blocked {d : DiskCollector} (h : d.Blocked) :
    ∃ e, d.writeCall = (.error e, d.files) := by
  obtain ⟨r, hr, hfits⟩ := h
  have hne : d.buffer.isEmpty = false := by
    cases hbuffer : d.buffer with
    | nil =>
        rw [hbuffer] at hr
        cases hr
    | cons => rfl
  have hall : d.buffer.all (·.fitsSchema) = false := by
    rw [List.all_eq_false]
    exact ⟨r, hr, by simp [hfits]⟩
  unfold writeCall writeBatch fromPylist
  rw [if_neg (by simp [hne])]
  split
  · exact ⟨_, rfl⟩
  · rw [if_neg (by simp [hall])]
    exact ⟨_, rfl⟩

/-- The batch comes back, and the directory stays as it is. -/
theorem Blocked.flushLocked {d : DiskCollector} (h : d.Blocked) :
    d.flushLocked.Blocked ∧ d.flushLocked.files = d.files := by
  obtain ⟨e, hcall⟩ := writeBatch_of_blocked h
  rcases d.flushLocked_cases with ⟨_, hd⟩ | ⟨_, hok, _⟩ | ⟨_, _, hd⟩
  · rw [hd]
    exact ⟨h, rfl⟩
  · rw [hcall] at hok
    cases hok
  · rw [hd, hcall]
    exact ⟨h, rfl⟩

omit [Numerics] in
theorem Blocked.buffered {d : DiskCollector} (h : d.Blocked) (record : TelemetryRecord) :
    (d.buffered record).Blocked := by
  obtain ⟨r, hr, hfits⟩ := h
  exact ⟨r, List.mem_append_left _ hr, hfits⟩

theorem Blocked.perform {d : DiskCollector} (h : d.Blocked) (op : CollectorOp) :
    (d.perform op).Blocked ∧ (d.perform op).files = d.files := by
  cases op with
  | recordBlockEvent event =>
      show (d.pushRecord _).Blocked ∧ (d.pushRecord _).files = d.files
      unfold pushRecord
      split
      · exact (h.buffered _).flushLocked
      · exact ⟨h.buffered _, rfl⟩
  | recordRequestCompletion metrics => exact ⟨h, rfl⟩
  | flush => exact h.flushLocked
  | flushTick => exact h.flushLocked

theorem Blocked.run (ops : List CollectorOp) :
    ∀ d : DiskCollector, d.Blocked →
      (Verified.run DiskCollector.perform d ops).Blocked ∧
        (Verified.run DiskCollector.perform d ops).files = d.files := by
  induction ops with
  | nil => exact fun _ h => ⟨h, rfl⟩
  | cons op ops ih =>
      intro d h
      obtain ⟨hop, hfiles⟩ := h.perform op
      obtain ⟨hrun, hfiles'⟩ := ih (d.perform op) hop
      exact ⟨hrun, hfiles'.trans hfiles⟩

/-- Recording a record that does not fit blocks the buffer at once. -/
theorem blocked_recordBlockEvent {d : DiskCollector} {event : BlockEvent}
    (hfits : (event.record d.modelName (d.clock d.totalRecords)).fitsSchema = false) :
    (d.perform (.recordBlockEvent event)).Blocked ∧
      (d.perform (.recordBlockEvent event)).files = d.files := by
  have hblocked : (d.buffered (event.record d.modelName (d.clock d.totalRecords))).Blocked :=
    ⟨_, List.mem_append_right _ (List.mem_singleton_self _), hfits⟩
  show (d.pushRecord _).Blocked ∧ (d.pushRecord _).files = d.files
  unfold pushRecord
  split
  · exact hblocked.flushLocked
  · exact ⟨hblocked, rfl⟩

/-! ## Without faults -/

/-- The environment lets every call go through. -/
def Faultless (times : Nat → WriteTime) : Prop := ∀ k, (times k).fault = none

omit [Numerics] in
theorem Faultless.writesWhole {times : Nat → WriteTime} (h : Faultless times) :
    WritesWhole times := by
  intro k
  rw [h k]
  constructor
  · intro left heq
    cases heq
  · intro heq
    cases heq

/-- A buffer whose records fit is written. -/
theorem buffer_flushLocked {d : DiskCollector} (hintact : Intact d.files)
    (hfree : Faultless d.times) (hfits : ∀ r ∈ d.buffer, r.fitsSchema = true) :
    d.flushLocked.buffer = [] := by
  rcases d.flushLocked_cases with ⟨hempty, hd⟩ | ⟨_, _, hd⟩ | ⟨hne, ⟨e, herr⟩, _⟩
  · rw [hd, hempty]
  · rw [hd]
  · exfalso
    have hne' : d.buffer.isEmpty = false := by simpa using hne
    have hall : d.buffer.all (·.fitsSchema) = true := List.all_eq_true.mpr hfits
    have hexisting : ∃ existing, readExisting d.files
        (dayFile (d.times d.outcomes.length).date) none = .ok existing := by
      cases hfile : d.files.get? (dayFile (d.times d.outcomes.length).date) with
      | none => exact ⟨[], by simp only [readExisting, hfile]⟩
      | some file =>
          have hreadable := hintact _ ((d.files.get?_eq_some_iff _ _).mp hfile)
            (isParquet_dayFile _)
          cases file with
          | table rows => exact ⟨rows, by simp [readExisting, hfile, readTable]⟩
          | truncated => exact absurd rfl hreadable
    obtain ⟨existing, hexisting⟩ := hexisting
    have hok : d.writeCall.1 = .ok () := by
      simp [writeCall, writeBatch, fromPylist, hne', hfree _, hall, hexisting, writeTable]
    rw [hok] at herr
    cases herr

/-- Where all records fit, the buffered ones do. -/
theorem fits_perform {d : DiskCollector} (h : ∀ r ∈ d.buffer, r.fitsSchema = true)
    (op : CollectorOp)
    (hop : ∀ r ∈ TelemetryCollector.eventRecords d.modelName d.clock d.totalRecords [op],
      r.fitsSchema = true) :
    ∀ r ∈ (d.perform op).buffer, r.fitsSchema = true := by
  have hflush : ∀ {d : DiskCollector}, (∀ r ∈ d.buffer, r.fitsSchema = true) →
      ∀ r ∈ d.flushLocked.buffer, r.fitsSchema = true := by
    intro d h
    rcases d.flushLocked_cases with ⟨_, hd⟩ | ⟨_, _, hd⟩ | ⟨_, _, hd⟩
    · rwa [hd]
    · rw [hd]
      intro r hr
      cases hr
    · rwa [hd]
  cases op with
  | recordBlockEvent event =>
      have hpush : ∀ r ∈ (d.buffered (event.record d.modelName
          (d.clock d.totalRecords))).buffer, r.fitsSchema = true := by
        intro r hr
        rcases List.mem_append.mp hr with hold | hnew
        · exact h r hold
        · exact hop r hnew
      show ∀ r ∈ (d.pushRecord _).buffer, r.fitsSchema = true
      unfold pushRecord
      split
      · exact hflush hpush
      · exact hpush
  | recordRequestCompletion metrics => exact h
  | flush => exact hflush h
  | flushTick => exact hflush h

theorem fits_run (ops : List CollectorOp) :
    ∀ d : DiskCollector, (∀ r ∈ d.buffer, r.fitsSchema = true) →
      (∀ r ∈ TelemetryCollector.eventRecords d.modelName d.clock d.totalRecords ops,
        r.fitsSchema = true) →
      ∀ r ∈ (run perform d ops).buffer, r.fitsSchema = true := by
  induction ops with
  | nil => exact fun _ h _ => h
  | cons op ops ih =>
      intro d h hops
      rw [TelemetryCollector.eventRecords_cons] at hops
      obtain ⟨hsame, htotal⟩ := d.sameSetting_perform op
      apply ih (d.perform op)
      · exact fits_perform h op fun r hr => hops r (List.mem_append_left _ hr)
      · rw [hsame.modelName, hsame.clock, htotal]
        exact fun r hr => hops r (List.mem_append_right _ hr)

/-- Where some record does not fit, the buffer is blocked in the end. -/
theorem blocked_run (ops : List CollectorOp) :
    ∀ d : DiskCollector,
      (∃ r ∈ TelemetryCollector.eventRecords d.modelName d.clock d.totalRecords ops,
        r.fitsSchema = false) →
      (run perform d ops).Blocked := by
  induction ops with
  | nil =>
      intro d hex
      obtain ⟨r, hr, _⟩ := hex
      cases hr
  | cons op ops ih =>
      intro d hex
      obtain ⟨r, hr, hfits⟩ := hex
      rw [TelemetryCollector.eventRecords_cons] at hr
      obtain ⟨hsame, htotal⟩ := d.sameSetting_perform op
      rcases List.mem_append.mp hr with hnow | hlater
      · have hop : (d.perform op).Blocked := by
          cases op with
          | recordBlockEvent event =>
              rw [List.mem_singleton.mp hnow] at hfits
              exact (blocked_recordBlockEvent hfits).1
          | recordRequestCompletion | flush | flushTick => cases hnow
        exact (Blocked.run ops _ hop).1
      · apply ih (d.perform op)
        rw [hsame.modelName, hsame.clock, htotal]
        exact ⟨r, hlater, hfits⟩

/-! ## The pipeline -/

/-- **Telemetry over a directory.**

Take any run of an enabled collector over an intact directory, with a date and
a fault of the environment for every write call, in which no overwrite is broken
off or raises after it is complete.  The directory stays intact; what `read_all`
returns together with the buffer is what it returned before, together with the
record of every event, once each.  And the run is, step by step, one of the
collector over a storage that takes each batch as a whole or not at all. -/
theorem disk_telemetry_lossless (modelName : String) (maxBufferSize : Int) (files : TraceDir)
    (clock : Nat → ℚ) (times : Nat → WriteTime) (ops : List CollectorOp)
    (hintact : Intact files) (hwhole : WritesWhole times) :
    let d := run perform (init modelName maxBufferSize files clock times) ops
    let records := TelemetryCollector.eventRecords modelName clock 0 ops
    Intact d.files ∧
      (readable d.files ++ d.buffer.map (·.toRow)).Perm
        (readable files ++ records.map (·.toRow)) ∧
      ∀ rows : List TelemetryRecord, (readable files).Perm (rows.map (·.toRow)) →
        ∃ accepts : Nat → Bool, d.Simulates (run TelemetryCollector.perform
          (TelemetryCollector.init modelName maxBufferSize { rows := rows, accepts := accepts }
            clock) ops) := by
  intro d records
  have hrun := recorded_run ops (init modelName maxBufferSize files clock times) hintact hwhole
  refine ⟨hrun.1, ?_, ?_⟩
  · have hstart : (init modelName maxBufferSize files clock times).recorded =
        readable files := List.append_nil _
    have hperm := hrun.2
    rw [hstart] at hperm
    exact hperm
  · intro rows hrows
    refine ⟨fun k => d.outcomes.getD k true, ?_⟩
    apply simulates_run
    · exact
        { enabled := rfl
          modelName := rfl
          maxBufferSize := rfl
          buffer := rfl
          requestCache := rfl
          totalRecords := rfl
          totalFlushes := rfl
          clock := rfl
          attempts := rfl
          storage := ⟨rfl, hintact, hrows⟩ }
    · exact hwhole
    · intro k hk
      show d.outcomes.getD k true = d.outcomes[k]
      rw [List.getD_eq_getElem?_getD, List.getElem?_eq_getElem hk, Option.getD_some]

/-- The first write call cannot open its file. -/
def shutOnce (k : Nat) : WriteTime where
  date := "2024-01-01"
  fault := if k = 0 then some .openTable else none

omit [Numerics] in
/-- Two events fill the buffer, whose first write is refused, and a background
flush. -/
theorem disk_telemetry_lossless_shut_once :
    letI : Numerics := lineNumerics.toNumerics
    let d := run perform (init "m" 2 OrdDict.empty (fun _ => 0) shutOnce) refusedOnceOps
    d.outcomes = [false, true] ∧ d.buffer = [] ∧
      (readable d.files).Perm
        [(plainEvent 1).record "m" 0, (plainEvent 2).record "m" 0] := by
  let _ : Numerics := lineNumerics.toNumerics
  intro d
  have hwhole : WritesWhole shutOnce := by
    intro k
    unfold shutOnce
    by_cases hk : k = 0
    · simp [hk]
    · simp [hk]
  have hrun := (disk_telemetry_lossless "m" 2 OrdDict.empty (fun _ => 0) shutOnce refusedOnceOps
    (by decide) hwhole).2.1
  have hbuffer : d.buffer = [] := by decide +kernel
  refine ⟨by decide +kernel, hbuffer, ?_⟩
  rw [hbuffer, List.map_nil, List.append_nil] at hrun
  exact hrun

/-- **A record the schema refuses blocks the trace for good.**

From the first record on whose integers do not fit their columns the directory
never changes again, whatever the environment does, through the flush of `stop`.
And in a run without faults over an intact directory, the flush of `stop` leaves
every record readable and none behind exactly when every record fits. -/
theorem unfit_record_blocks_iff (modelName : String) (maxBufferSize : Int) (files : TraceDir)
    (clock : Nat → ℚ) (times : Nat → WriteTime) :
    (∀ (before : List CollectorOp) (event : BlockEvent) (after : List CollectorOp),
      let d := run perform (init modelName maxBufferSize files clock times) before
      (event.record d.modelName (d.clock d.totalRecords)).fitsSchema = false →
        (run perform (init modelName maxBufferSize files clock times)
          (before ++ .recordBlockEvent event :: after)).stop.files = d.files) ∧
    (Intact files → Faultless times → ∀ ops : List CollectorOp,
      let d := run perform (init modelName maxBufferSize files clock times) ops
      let records := TelemetryCollector.eventRecords modelName clock 0 ops
      ((d.stop.buffer = [] ∧
          (readable d.stop.files).Perm (readable files ++ records.map (·.toRow))) ↔
        ∀ r ∈ records, r.fitsSchema = true)) := by
  constructor
  · intro before event after d hfits
    obtain ⟨hblocked, hfiles⟩ := blocked_recordBlockEvent hfits
    obtain ⟨hblocked', hfiles'⟩ := Blocked.run after _ hblocked
    have hrun : run perform (init modelName maxBufferSize files clock times)
        (before ++ .recordBlockEvent event :: after) =
          run perform (d.perform (.recordBlockEvent event)) after := by
      unfold run
      rw [List.foldl_append]
      rfl
    rw [hrun]
    exact (hblocked'.flushLocked.2.trans hfiles').trans hfiles
  · intro hintact hfree ops d records
    have hstart : (init modelName maxBufferSize files clock times).recorded =
        readable files := List.append_nil _
    obtain ⟨hfiles, hperm⟩ := recorded_run ops
      (init modelName maxBufferSize files clock times) hintact hfree.writesWhole
    rw [hstart] at hperm
    constructor
    · intro hstop r hr
      by_contra hfits
      have hblocked : d.Blocked := blocked_run ops _ ⟨r, hr, by simpa using hfits⟩
      obtain ⟨r', hr', _⟩ := hblocked.flushLocked.1
      have hempty : d.flushLocked.buffer = [] := hstop.1
      rw [hempty] at hr'
      cases hr'
    · intro hfits
      have hbuffer : ∀ r ∈ d.buffer, r.fitsSchema = true :=
        fits_run ops _ (fun r hr => by cases hr) hfits
      have htimes : d.times = times := by
        have hkeep : ∀ (s : DiskCollector) op, s.times = times → (s.perform op).times = times :=
          fun s op h => (s.times_perform op).trans h
        exact run_invariant hkeep ops _ rfl
      have hempty : d.stop.buffer = [] :=
        buffer_flushLocked hfiles (by rw [htimes]; exact hfree) hbuffer
      have hstop := (recorded_flushLocked (d := d) hfiles
        (by rw [htimes]; exact hfree.writesWhole)).2
      refine ⟨hempty, ?_⟩
      have hall : d.flushLocked.recorded = readable d.stop.files := by
        show readable d.stop.files ++ d.stop.buffer.map (·.toRow) = _
        rw [hempty, List.map_nil, List.append_nil]
      rw [hall] at hstop
      exact hstop.trans hperm

/-- An event whose number of prompt tokens has no place in a 32-bit column. -/
def hugeEvent : BlockEvent :=
  { plainEvent 2 with promptTokens := 2 ^ 31 }

omit [Numerics] in
/-- A flush and the flush of `stop` store nothing after it, and both parts of
the theorem apply to this run. -/
theorem unfit_record_blocks_iff_huge :
    letI : Numerics := lineNumerics.toNumerics
    let start := init "m" 10 OrdDict.empty (fun _ => 0) (fun _ => { date := "2024-01-01" })
    let d := run perform start [.recordBlockEvent (plainEvent 1), .flush]
    (run perform start ([.recordBlockEvent (plainEvent 1), .flush] ++
        .recordBlockEvent hugeEvent :: [.recordBlockEvent (plainEvent 3), .flush])).stop.files =
      d.files ∧
    ¬((run perform start [.recordBlockEvent hugeEvent]).stop.buffer = [] ∧
      (readable (run perform start [.recordBlockEvent hugeEvent]).stop.files).Perm
        (readable OrdDict.empty ++ [(hugeEvent.record "m" 0).toRow])) := by
  let _ : Numerics := lineNumerics.toNumerics
  intro start d
  obtain ⟨hblocks, hiff⟩ := unfit_record_blocks_iff "m" 10 OrdDict.empty (fun _ => 0)
    (fun _ => { date := "2024-01-01" })
  refine ⟨hblocks _ hugeEvent _ (by decide +kernel), ?_⟩
  intro hstop
  have hfits := (hiff (by decide) (fun _ => rfl) [.recordBlockEvent hugeEvent]).mp hstop
    (hugeEvent.record "m" 0) (List.mem_singleton_self _)
  exact absurd hfits (by decide +kernel)

end Model

end DiskCollector

end KVOrchestrator.Ports
