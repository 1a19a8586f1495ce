import KVOrchestrator.Ports.Collector
import KVOrchestrator.Verified.Dynamics

/-!
# Runs of the telemetry collector

Flushes come from three places: a full buffer, a caller, and the background
thread.  All of them run `_flush_locked` under the collector's lock, so a run is
a list of operations performed one after the other, and each flush calls the
storage at most once.  Whether such a call persists its batch or raises is
decided by the storage, call by call.

The spec of a flush is `flushLocked_cases`: nothing to do, a batch persisted, or
a batch refused and taken back.  Each operation's effect on the trace, the two
counters and the buffer is read off it, and `telemetry_lossless` adds the
effects up along a run.
-/

namespace KVOrchestrator.Ports

open KVOrchestrator.Verified

/-- The arguments of one `record_block_event` call. -/
structure BlockEvent where
  block : BlockState
  decision : BlockDecision
  requestMetrics : Option RequestMetrics := none
  workloadType : WorkloadType := .unknown
  promptTokens : Int := 0
  generatedTokens : Int := 0
  contextLength : Int := 0
  queueDepth : Int := 0
  cpuMemUsedMb : ℚ := 0
  deriving DecidableEq

/-- The record an event is to leave in the trace. -/
def BlockEvent.record (event : BlockEvent) (modelName : String) (timestamp : ℚ) :
    TelemetryRecord :=
  TelemetryRecord.fromBlockState event.block event.decision
    { modelName := modelName
      workloadType := event.workloadType
      promptTokens := event.promptTokens
      generatedTokens := event.generatedTokens
      contextLength := event.contextLength
      queueDepth := event.queueDepth
      cpuMemUsedMb := event.cpuMemUsedMb
      latencyMs := (event.requestMetrics.map (·.latencyMs)).getD 0
      ttftMs := (event.requestMetrics.map (·.ttftMs)).getD 0
      tpotMs := (event.requestMetrics.map (·.tpotMs)).getD 0
      taskScore := (event.requestMetrics.bind (·.taskScore)).getD (-1)
      timestamp := timestamp }

/-- One operation on a collector. -/
inductive CollectorOp where
  | recordBlockEvent (event : BlockEvent)
  | recordRequestCompletion (metrics : RequestMetrics)
  | flush
  /-- A turn of the background thread's loop. -/
  | flushTick
  deriving DecidableEq

/-- One call of `write_batch`: the batch, and how it ended. -/
structure WriteCall where
  batch : List TelemetryRecord
  result : Except PyError Unit

/-- The call had something to write and wrote it. -/
def WriteCall.succeeded (w : WriteCall) : Bool := !w.batch.isEmpty && w.result.isOk

namespace TelemetryCollector

/-- A new collector over a storage. -/
def init (modelName : String) (maxBufferSize : Int) (storage : TelemetryStorage)
    (clock : Nat → ℚ) : TelemetryCollector where
  modelName := modelName
  maxBufferSize := maxBufferSize
  storage := storage
  clock := clock

/-- Perform one operation. -/
def perform (c : TelemetryCollector) (op : CollectorOp) : TelemetryCollector :=
  match op with
  | .recordBlockEvent event =>
      c.recordBlockEvent event.block event.decision event.requestMetrics event.workloadType
        event.promptTokens event.generatedTokens event.contextLength event.queueDepth
        event.cpuMemUsedMb
  | .recordRequestCompletion metrics => c.recordRequestCompletion metrics
  | .flush => c.flush
  | .flushTick => c.flushLocked

/-- The records of the events among `ops`, the first of them made as number
`n`. -/
def eventRecords (modelName : String) (clock : Nat → ℚ) :
    Nat → List CollectorOp → List TelemetryRecord
  | _, [] => []
  | n, .recordBlockEvent event :: ops =>
      event.record modelName (clock n) :: eventRecords modelName clock (n + 1) ops
  | n, .recordRequestCompletion _ :: ops => eventRecords modelName clock n ops
  | n, .flush :: ops => eventRecords modelName clock n ops
  | n, .flushTick :: ops => eventRecords modelName clock n ops

/-- The collector with a record appended to its buffer. -/
def buffered (c : TelemetryCollector) (record : TelemetryRecord) : TelemetryCollector :=
  { c with
    buffer := c.buffer ++ [record]
    totalRecords := c.totalRecords + 1 }

/-- The `write_batch` calls of a flush. -/
def flushWrites (c : TelemetryCollector) : List WriteCall :=
  if c.buffer.isEmpty then []
  else
    [ { batch := c.buffer
        result := (c.storage.writeBatch c.buffer).1 } ]

/-- The `write_batch` calls of buffering a record. -/
def pushWrites (c : TelemetryCollector) (record : TelemetryRecord) : List WriteCall :=
  if ((c.buffered record).buffer.length : Int) ≥ c.maxBufferSize then
    (c.buffered record).flushWrites
  else []

/-- The `write_batch` calls of one operation. -/
def writes (c : TelemetryCollector) : CollectorOp → List WriteCall
  | .recordBlockEvent event =>
      if c.enabled = false then []
      else c.pushWrites (event.record c.modelName (c.clock c.totalRecords))
  | .recordRequestCompletion _ => []
  | .flush => c.flushWrites
  | .flushTick => c.flushWrites

/-- The `write_batch` calls of a run. -/
def runWrites (c : TelemetryCollector) : List CollectorOp → List WriteCall
  | [] => []
  | op :: ops => c.writes op ++ (c.perform op).runWrites ops

/-! ## The effect of a flush -/

/-- **What a flush can do**: nothing on an empty buffer, or hand the whole
buffer over, or be refused and keep it. -/
theorem flushLocked_cases (c : TelemetryCollector) :
    (c.buffer = [] ∧ c.flushWrites = [] ∧ c.flushLocked = c) ∨
    (∃ w storage, c.flushWrites = [w] ∧ w.succeeded = true ∧ w.batch = c.buffer ∧
      storage.rows = c.storage.rows ++ c.buffer ∧
      c.flushLocked = { c with
        storage := storage
        buffer := []
        totalFlushes := c.totalFlushes + 1 }) ∨
    (∃ w storage, c.flushWrites = [w] ∧ w.succeeded = false ∧
      storage.rows = c.storage.rows ∧ c.flushLocked = { c with storage := storage }) := by
  by_cases hempty : c.buffer = []
  · exact .inl ⟨hempty, by simp [flushWrites, hempty], by simp [flushLocked, hempty]⟩
  · have hne : c.buffer.isEmpty = false := by simpa using hempty
    obtain ⟨⟨result, storage⟩, hcall⟩ : ∃ r, c.storage.writeBatch c.buffer = r := ⟨_, rfl⟩
    have hwrites : c.flushWrites = [{ batch := c.buffer, result := result }] := by
      simp [flushWrites, hne, hcall]
    cases result with
    | ok u =>
        refine .inr (.inl ⟨_, storage, hwrites, ?_, rfl, rows_writeBatch_ok hcall, ?_⟩)
        · simp [WriteCall.succeeded, hne, Except.isOk, Except.toBool]
        · simp [flushLocked, hne, hcall]
    | error err =>
        refine .inr (.inr ⟨_, storage, hwrites, ?_, rows_writeBatch_error hcall, ?_⟩)
        · simp [WriteCall.succeeded, Except.isOk, Except.toBool]
        · simp [flushLocked, hne, hcall]

/-- A step from `c` to `c'` that made `records` and called the storage
`writes`. -/
structure Effect (c c' : TelemetryCollector) (records : List TelemetryRecord)
    (writes : List WriteCall) : Prop where
  enabled : c'.enabled = c.enabled
  modelName : c'.modelName = c.modelName
  maxBufferSize : c'.maxBufferSize = c.maxBufferSize
  clock : c'.clock = c.clock
  recorded : c'.recorded = c.recorded ++ records
  totalRecords : c'.totalRecords = c.totalRecords + records.length
  totalFlushes : c'.totalFlushes = c.totalFlushes + writes.countP (·.succeeded)
  rows : c'.storage.rows =
    c.storage.rows ++ (writes.filter (·.succeeded)).flatMap (·.batch)

theorem Effect.refl (c : TelemetryCollector) : Effect c c [] [] where
  enabled := rfl
  modelName := rfl
  maxBufferSize := rfl
  clock := rfl
  recorded := by simp
  totalRecords := rfl
  totalFlushes := rfl
  rows := by simp

theorem Effect.trans {c c' c'' : TelemetryCollector} {records records' : List TelemetryRecord}
    {writes writes' : List WriteCall} (h : Effect c c' records writes)
    (h' : Effect c' c'' records' writes') :
    Effect c c'' (records ++ records') (writes ++ writes') where
  enabled := h'.enabled.trans h.enabled
  modelName := h'.modelName.trans h.modelName
  maxBufferSize := h'.maxBufferSize.trans h.maxBufferSize
  clock := h'.clock.trans h.clock
  recorded := by rw [h'.recorded, h.recorded, List.append_assoc]
  totalRecords := by
    rw [h'.totalRecords, h.totalRecords, List.length_append]
    omega
  totalFlushes := by
    rw [h'.totalFlushes, h.totalFlushes, List.countP_append]
    omega
  rows := by
    rw [h'.rows, h.rows, List.filter_append, List.flatMap_append, List.append_assoc]

/-- A flush makes no record, and counts and stores what it wrote. -/
theorem effect_flushLocked (c : TelemetryCollector) :
    Effect c c.flushLocked [] c.flushWrites := by
  rcases c.flushLocked_cases with
    ⟨_, hw, h⟩ | ⟨w, _, hw, hok, hbatch, hrows, h⟩ | ⟨w, _, hw, hfail, hrows, h⟩
  · rw [h, hw]
    exact Effect.refl c
  · rw [h, hw]
    exact
      { enabled := rfl
        modelName := rfl
        maxBufferSize := rfl
        clock := rfl
        recorded := by simp [recorded, hrows]
        totalRecords := rfl
        totalFlushes := by simp [hok]
        rows := by simp [hok, hbatch, hrows] }
  · rw [h, hw]
    exact
      { enabled := rfl
        modelName := rfl
        maxBufferSize := rfl
        clock := rfl
        recorded := by simp [recorded, hrows]
        totalRecords := rfl
        totalFlushes := by simp [hfail]
        rows := by simp [hfail, hrows] }

theorem effect_buffered (c : TelemetryCollector) (record : TelemetryRecord) :
    Effect c (c.buffered record) [record] [] where
  enabled := rfl
  modelName := rfl
  maxBufferSize := rfl
  clock := rfl
  recorded := (List.append_assoc _ _ _).symm
  totalRecords := rfl
  totalFlushes := rfl
  rows := by simp [buffered]

/-- Buffering a record makes that record, with or without a flush after it. -/
theorem effect_pushRecord (c : TelemetryCollector) (record : TelemetryRecord) :
    Effect c (c.pushRecord record) [record] (c.pushWrites record) := by
  have hpush : c.pushRecord record =
      if ((c.buffered record).buffer.length : Int) ≥ c.maxBufferSize then
        (c.buffered record).flushLocked
      else c.buffered record := rfl
  rw [hpush, pushWrites]
  split
  · exact (c.effect_buffered record).trans (c.buffered record).effect_flushLocked
  · exact c.effect_buffered record

theorem perform_recordBlockEvent {c : TelemetryCollector} (hc : c.enabled = true)
    (event : BlockEvent) :
    c.perform (.recordBlockEvent event) =
      c.pushRecord (event.record c.modelName (c.clock c.totalRecords)) := by
  rw [perform, recordBlockEvent, if_neg (by simp [hc])]
  rfl

theorem writes_recordBlockEvent {c : TelemetryCollector} (hc : c.enabled = true)
    (event : BlockEvent) :
    c.writes (.recordBlockEvent event) =
      c.pushWrites (event.record c.modelName (c.clock c.totalRecords)) := by
  rw [writes, if_neg (by simp [hc])]

/-- **One operation** makes the record of its event, if it is one. -/
theorem effect_perform {c : TelemetryCollector} (hc : c.enabled = true) (op : CollectorOp) :
    Effect c (c.perform op) (eventRecords c.modelName c.clock c.totalRecords [op])
      (c.writes op) := by
  cases op with
  | recordBlockEvent event =>
      rw [perform_recordBlockEvent hc, writes_recordBlockEvent hc]
      exact c.effect_pushRecord _
  | recordRequestCompletion metrics =>
      have hperform : c.perform (.recordRequestCompletion metrics) =
          { c with requestCache := c.requestCache.set metrics.requestId metrics } := by
        rw [perform, recordRequestCompletion, if_neg (by simp [hc])]
      rw [hperform]
      exact { Effect.refl c with }
  | flush => exact c.effect_flushLocked
  | flushTick => exact c.effect_flushLocked

/-- The records of a run are those of its first operation and of the rest,
numbered on. -/
theorem eventRecords_cons (modelName : String) (clock : Nat → ℚ) (n : Nat) (op : CollectorOp)
    (ops : List CollectorOp) :
    eventRecords modelName clock n (op :: ops) =
      eventRecords modelName clock n [op] ++
        eventRecords modelName clock (n + (eventRecords modelName clock n [op]).length) ops := by
  cases op <;> rfl

/-- **A run** makes the records of its events, in order. -/
theorem effect_run (ops : List CollectorOp) :
    ∀ c : TelemetryCollector, c.enabled = true →
      Effect c (run perform c ops) (eventRecords c.modelName c.clock c.totalRecords ops)
        (c.runWrites ops) := by
  induction ops with
  | nil => exact fun c _ => Effect.refl c
  | cons op ops ih =>
      intro c hc
      have hop := effect_perform hc op
      have hrest := ih (c.perform op) (hop.enabled.trans hc)
      rw [hop.modelName, hop.clock, hop.totalRecords] at hrest
      rw [eventRecords_cons, runWrites]
      exact hop.trans hrest

/-! ## The bound on the buffer -/

/-- A flush whose write is not refused leaves the buffer empty. -/
theorem buffer_flushLocked_of_succeeded {c : TelemetryCollector}
    (hok : ∀ w ∈ c.flushWrites, w.succeeded = true) : c.flushLocked.buffer = [] := by
  rcases c.flushLocked_cases with ⟨hempty, _, h⟩ | ⟨_, _, _, _, _, _, h⟩ | ⟨w, _, hw, hfail, _, h⟩
  · rw [h, hempty]
  · rw [h]
  · have hw' := hok w (by rw [hw]; exact List.mem_singleton_self w)
    rw [hfail] at hw'
    cases hw'

/-- Without a failed write an operation leaves room in the buffer. -/
theorem buffer_perform_lt {c : TelemetryCollector} (hc : c.enabled = true)
    (hmax : 1 ≤ c.maxBufferSize) (hlt : (c.buffer.length : Int) < c.maxBufferSize)
    (op : CollectorOp) (hok : ∀ w ∈ c.writes op, w.succeeded = true) :
    ((c.perform op).buffer.length : Int) < c.maxBufferSize := by
  have hflush : ∀ {c' : TelemetryCollector}, (∀ w ∈ c'.flushWrites, w.succeeded = true) →
      (c'.flushLocked.buffer.length : Int) < c.maxBufferSize := by
    intro c' hok'
    rw [buffer_flushLocked_of_succeeded hok', List.length_nil]
    omega
  cases op with
  | recordBlockEvent event =>
      rw [writes_recordBlockEvent hc, pushWrites] at hok
      rw [perform_recordBlockEvent hc]
      show ((if ((c.buffered _).buffer.length : Int) ≥ c.maxBufferSize then
        (c.buffered _).flushLocked else c.buffered _).buffer.length : Int) < c.maxBufferSize
      split
      · rename_i hfull
        rw [if_pos hfull] at hok
        exact hflush hok
      · rename_i hroom
        exact not_le.mp hroom
  | recordRequestCompletion metrics =>
      rw [perform, recordRequestCompletion, if_neg (by simp [hc])]
      exact hlt
  | flush => exact hflush hok
  | flushTick => exact hflush hok

theorem buffer_run_lt (ops : List CollectorOp) :
    ∀ c : TelemetryCollector, c.enabled = true → 1 ≤ c.maxBufferSize →
      (c.buffer.length : Int) < c.maxBufferSize →
      (∀ w ∈ c.runWrites ops, w.succeeded = true) →
      ((run perform c ops).buffer.length : Int) < c.maxBufferSize := by
  induction ops with
  | nil => exact fun c _ _ hlt _ => hlt
  | cons op ops ih =>
      intro c hc hmax hlt hok
      have hop := effect_perform hc op
      have hnext := buffer_perform_lt hc hmax hlt op
        (fun w hw => hok w (List.mem_append_left _ hw))
      have hrest := ih (c.perform op) (hop.enabled.trans hc)
      rw [hop.maxBufferSize] at hrest
      exact hrest hmax hnext (fun w hw => hok w (List.mem_append_right _ hw))

end TelemetryCollector

/-- **No telemetry is lost, duplicated or reordered.**

Take any run of a new collector over any storage, however its write calls end.
The rows stored followed by the buffer are the rows the storage had before,
followed by the records of the events in recording order; `total_records` is
their number and `total_flushes` the number of write calls that had a batch and
wrote it; these batches are what the storage gained.  If no call failed, the
buffer is not full afterwards. -/
theorem telemetry_lossless (modelName : String) (maxBufferSize : Int)
    (storage : TelemetryStorage) (clock : Nat → ℚ) (ops : List CollectorOp) :
    let c := TelemetryCollector.init modelName maxBufferSize storage clock
    let c' := run TelemetryCollector.perform c ops
    let records := TelemetryCollector.eventRecords modelName clock 0 ops
    c'.storage.rows ++ c'.buffer = storage.rows ++ records ∧
      c'.totalRecords = records.length ∧
      c'.totalFlushes = (c.runWrites ops).countP (·.succeeded) ∧
      c'.storage.rows =
        storage.rows ++ ((c.runWrites ops).filter (·.succeeded)).flatMap (·.batch) ∧
      (1 ≤ maxBufferSize → (∀ w ∈ c.runWrites ops, w.succeeded = true) →
        (c'.buffer.length : Int) < maxBufferSize) := by
  intro c c' records
  have heffect := TelemetryCollector.effect_run ops c rfl
  refine ⟨?_, ?_, ?_, heffect.rows, ?_⟩
  · have hstart : c.recorded = storage.rows := List.append_nil _
    have hrecorded := heffect.recorded
    rw [hstart] at hrecorded
    exact hrecorded
  · exact heffect.totalRecords.trans (Nat.zero_add _)
  · exact heffect.totalFlushes.trans (Nat.zero_add _)
  · intro hmax hok
    refine TelemetryCollector.buffer_run_lt ops c rfl hmax ?_ hok
    show ((0 : Nat) : Int) < maxBufferSize
    omega

/-- An event of a block without history. -/
def plainEvent (blockId : Int) : BlockEvent where
  block := { blockId := blockId, layerId := 0, headGroup := 0, requestId := "r" }
  decision := .keepGpu

/-- Two events fill the buffer, a storage that refuses its first write, and a
background flush. -/
def refusedOnceOps : List CollectorOp :=
  [.recordBlockEvent (plainEvent 1), .recordBlockEvent (plainEvent 2), .flushTick]

theorem telemetry_lossless_refused_once :
    let c := TelemetryCollector.init "m" 2 { accepts := fun n => decide (n ≠ 0) } (fun _ => 0)
    let c' := run TelemetryCollector.perform c refusedOnceOps
    c'.storage.rows ++ c'.buffer = [(plainEvent 1).record "m" 0, (plainEvent 2).record "m" 0] ∧
      c'.totalRecords = 2 ∧ c'.totalFlushes = 1 ∧ (c'.buffer.length : Int) < 2 := by
  intro c c'
  obtain ⟨htrace, hrecords, hflushes, _, _⟩ :=
    telemetry_lossless "m" 2 { accepts := fun n => decide (n ≠ 0) } (fun _ => 0) refusedOnceOps
  refine ⟨htrace, hrecords, hflushes, ?_⟩
  decide +kernel

end KVOrchestrator.Ports
