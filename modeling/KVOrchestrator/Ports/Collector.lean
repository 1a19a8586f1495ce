import KVOrchestrator.Ports.Schema
import KVOrchestrator.Verified.OrdDict
import KVOrchestrator.Verified.Builtins

/-!
# The telemetry collector (`src/telemetry/collector.py`, `src/telemetry/storage.py`)

Records are buffered and handed to the storage in batches; a batch the storage
refuses goes back to the buffer.  Whether a write of the Parquet backend goes
through is up to the file system and is given by `accepts`, attempt by
attempt; the memory backend never fails.  The rows of all files together are
one list.

`recorded`, the rows stored so far followed by the buffered ones, is what the
outside can ever see of the trace: a flush does not change it
(`recorded_flush`), and an event appends one row to it
(`recorded_recordBlockEvent`).
-/

namespace KVOrchestrator.Ports

open KVOrchestrator.Verified

inductive StorageBackend where
  | parquet
  | memory
  deriving DecidableEq, Repr

structure TelemetryStorage where
  backend : StorageBackend := .parquet
  /-- The rows stored so far. -/
  rows : List TelemetryRecord := []
  attempts : Nat := 0
  /-- Whether the write attempt of this number succeeds. -/
  accepts : Nat → Bool := fun _ => true

/-- Persist a batch of records, or raise. -/
def TelemetryStorage.writeBatch (s : TelemetryStorage) (records : List TelemetryRecord) :
    Except PyError Unit × TelemetryStorage :=
  if records.isEmpty then (.ok (), s)
  else if s.backend = .memory then (.ok (), { s with rows := s.rows ++ records })
  else if s.accepts s.attempts then
    (.ok (), { s with
      rows := s.rows ++ records
      attempts := s.attempts + 1 })
  else (.error (.other "OSError"), { s with attempts := s.attempts + 1 })

structure TelemetryCollector where
  enabled : Bool := true
  modelName : String := "unknown"
  maxBufferSize : Int := 10000
  buffer : List TelemetryRecord := []
  storage : TelemetryStorage := {}
  requestCache : OrdDict String RequestMetrics := OrdDict.empty
  totalRecords : Nat := 0
  totalFlushes : Nat := 0
  /-- The clock reading when the record of this number is made. -/
  clock : Nat → ℚ := fun _ => 0

namespace TelemetryCollector

/-- Hand the buffer to the storage; it is taken back if the storage raises. -/
def flushLocked (c : TelemetryCollector) : TelemetryCollector :=
  if c.buffer.isEmpty then c
  else
    let batch := c.buffer
    let c := { c with buffer := [] }
    match c.storage.writeBatch batch with
    | (.ok _, storage) => { c with
        storage := storage
        totalFlushes := c.totalFlushes + 1 }
    | (.error _, storage) => { c with
        storage := storage
        buffer := c.buffer ++ batch }

/-- What the background thread and the callers of `flush` run. -/
def flush (c : TelemetryCollector) : TelemetryCollector := c.flushLocked

/-- The critical section of an event: buffer its record, and flush a full
buffer. -/
def pushRecord (c : TelemetryCollector) (record : TelemetryRecord) : TelemetryCollector :=
  let c := { c with
    buffer := c.buffer ++ [record]
    totalRecords := c.totalRecords + 1 }
  if (c.buffer.length : Int) ≥ c.maxBufferSize then c.flushLocked else c

/-- Create and buffer the record of one block event. -/
def recordBlockEvent (c : TelemetryCollector) (block : BlockState) (decision : BlockDecision)
    (requestMetrics : Option RequestMetrics := none)
    (workloadType : WorkloadType := .unknown)
    (promptTokens generatedTokens contextLength queueDepth : Int := 0)
    (cpuMemUsedMb : ℚ := 0) : TelemetryCollector :=
  if c.enabled = false then c
  else
    c.pushRecord (TelemetryRecord.fromBlockState block decision
      { modelName := c.modelName
        workloadType := workloadType
        promptTokens := promptTokens
        generatedTokens := generatedTokens
        contextLength := contextLength
        queueDepth := queueDepth
        cpuMemUsedMb := cpuMemUsedMb
        latencyMs := (requestMetrics.map (·.latencyMs)).getD 0
        ttftMs := (requestMetrics.map (·.ttftMs)).getD 0
        tpotMs := (requestMetrics.map (·.tpotMs)).getD 0
        taskScore := (requestMetrics.bind (·.taskScore)).getD (-1)
        timestamp := c.clock c.totalRecords })

/-- Cache the metrics of a request for later block events. -/
def recordRequestCompletion (c : TelemetryCollector) (metrics : RequestMetrics) :
    TelemetryCollector :=
  if c.enabled = false then c
  else { c with requestCache := c.requestCache.set metrics.requestId metrics }

def getRequestMetrics (c : TelemetryCollector) (requestId : String) : Option RequestMetrics :=
  c.requestCache.get? requestId

/-! ## The trace -/

/-- Every record made so far, oldest first. -/
def recorded (c : TelemetryCollector) : List TelemetryRecord := c.storage.rows ++ c.buffer

theorem rows_writeBatch_ok {s s' : TelemetryStorage} {records : List TelemetryRecord}
    {u : Unit} (h : s.writeBatch records = (.ok u, s')) : s'.rows = s.rows ++ records := by
  unfold TelemetryStorage.writeBatch at h
  split at h
  · rename_i hempty
    have hs : s = s' := (Prod.mk.inj h).2
    rw [← hs, List.isEmpty_iff.mp hempty, List.append_nil]
  · split at h
    · rw [← (Prod.mk.inj h).2]
    · split at h
      · rw [← (Prod.mk.inj h).2]
      · exact absurd (Prod.mk.inj h).1 (by simp)

theorem rows_writeBatch_error {s s' : TelemetryStorage}
    {records : List TelemetryRecord} {e : PyError}
    (h : s.writeBatch records = (.error e, s')) : s'.rows = s.rows := by
  unfold TelemetryStorage.writeBatch at h
  split at h
  · exact absurd (Prod.mk.inj h).1 (by simp)
  · split at h
    · exact absurd (Prod.mk.inj h).1 (by simp)
    · split at h
      · exact absurd (Prod.mk.inj h).1 (by simp)
      · rw [← (Prod.mk.inj h).2]

/-- A flush loses and reorders nothing, whether or not the write succeeds. -/
@[simp] theorem recorded_flushLocked (c : TelemetryCollector) :
    c.flushLocked.recorded = c.recorded := by
  simp only [flushLocked]
  split
  · rfl
  · split
    · rename_i hw
      simp only [recorded, rows_writeBatch_ok hw, List.append_nil]
    · rename_i hw
      simp only [recorded, rows_writeBatch_error hw, List.nil_append]

@[simp] theorem recorded_flush (c : TelemetryCollector) : c.flush.recorded = c.recorded :=
  recorded_flushLocked c

@[simp] theorem enabled_flushLocked (c : TelemetryCollector) :
    c.flushLocked.enabled = c.enabled := by
  simp only [flushLocked]
  split
  · rfl
  · split <;> rfl

theorem recorded_pushRecord (c : TelemetryCollector) (record : TelemetryRecord) :
    (c.pushRecord record).recorded = c.recorded ++ [record] := by
  simp only [pushRecord]
  split
  · rw [recorded_flushLocked]
    exact (List.append_assoc _ _ _).symm
  · exact (List.append_assoc _ _ _).symm

@[simp] theorem enabled_recordBlockEvent (c : TelemetryCollector) (block : BlockState)
    (decision : BlockDecision) : (c.recordBlockEvent block decision).enabled = c.enabled := by
  unfold recordBlockEvent pushRecord
  split
  · rfl
  · simp only []
    split
    · exact enabled_flushLocked _
    · rfl

/-- An event at an enabled collector appends one record, which names the block
and the decision. -/
theorem recorded_recordBlockEvent {c : TelemetryCollector} (hc : c.enabled = true)
    (block : BlockState) (decision : BlockDecision) :
    ∃ r : TelemetryRecord, r.blockId = block.blockId ∧ r.decisionLabel = decision.value ∧
      (c.recordBlockEvent block decision).recorded = c.recorded ++ [r] := by
  rw [recordBlockEvent, if_neg (by simp [hc]), recorded_pushRecord]
  exact ⟨_, rfl, rfl, rfl⟩

end TelemetryCollector

end KVOrchestrator.Ports
