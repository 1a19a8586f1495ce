import Mathlib.Data.Rat.Defs
import Mathlib.Order.Lattice
import Mathlib.Order.Basic
import Mathlib.Algebra.Order.Ring.Rat

/-!
# The shared data model (`src/telemetry/schema.py`)

Enumerations, block states and telemetry records, field for field.  Memory
sizes, scores and times are exact rationals; ids and steps are Python `int`s.
-/

namespace KVOrchestrator.Ports

/-- High-level characterisation of the request being served. -/
inductive WorkloadType where
  | singleDocQa
  | multiDocQa
  | summarization
  | dialogue
  | code
  | structuredData
  | unknown
  deriving DecidableEq, Repr

/-- `WorkloadType.value`. -/
def WorkloadType.value : WorkloadType → String
  | .singleDocQa => "single_doc_qa"
  | .multiDocQa => "multi_doc_qa"
  | .summarization => "summarization"
  | .dialogue => "dialogue"
  | .code => "code"
  | .structuredData => "structured_data"
  | .unknown => "unknown"

/-- `WorkloadType(value)`; `none` where the constructor raises `ValueError`. -/
def WorkloadType.ofValue? (value : String) : Option WorkloadType :=
  [singleDocQa, multiDocQa, summarization, dialogue, code, structuredData, unknown].find?
    (fun wt => decide (wt.value = value))

/-- Storage tier that a block currently occupies. -/
inductive BlockTier where
  | gpuFp16
  | gpuQuantized
  | cpuOffloaded
  | evicted
  deriving DecidableEq, Repr

/-- Policy decision applied to a block. -/
inductive BlockDecision where
  | keepGpu
  | quantize
  | offloadCpu
  | evict
  deriving DecidableEq, Repr

/-- `BlockDecision.value`. -/
def BlockDecision.value : BlockDecision → String
  | .keepGpu => "keep_gpu"
  | .quantize => "quantize"
  | .offloadCpu => "offload_cpu"
  | .evict => "evict"

/-- Position of a decision in the order `KEEP_GPU > QUANTIZE > OFFLOAD_CPU >
EVICT` of the tiers it sends a block to. -/
def BlockDecision.rank : BlockDecision → Nat
  | .evict => 0
  | .offloadCpu => 1
  | .quantize => 2
  | .keepGpu => 3

theorem BlockDecision.rank_injective : Function.Injective BlockDecision.rank := by
  intro d e h
  cases d <;> cases e <;> first | rfl | simp [BlockDecision.rank] at h

instance : LinearOrder BlockDecision :=
  LinearOrder.lift' BlockDecision.rank BlockDecision.rank_injective

theorem BlockDecision.le_iff_rank (d e : BlockDecision) : d ≤ e ↔ d.rank ≤ e.rank := Iff.rfl

theorem BlockDecision.lt_iff_rank (d e : BlockDecision) : d < e ↔ d.rank < e.rank := Iff.rfl

theorem BlockDecision.le_keepGpu (d : BlockDecision) : d ≤ .keepGpu := by
  cases d <;> decide

theorem BlockDecision.evict_le (d : BlockDecision) : .evict ≤ d := by
  cases d <;> decide

/-- Distinct decisions are written to telemetry under distinct labels. -/
theorem BlockDecision.value_injective : Function.Injective BlockDecision.value := by
  intro d e h
  cases d <;> cases e <;> first | rfl | exact absurd h (by decide)

/-- Runtime state of a single KV-cache block. -/
structure BlockState where
  blockId : Int
  layerId : Int
  headGroup : Int
  requestId : String
  -- lifecycle counters
  blockAgeSteps : Int := 0
  lastAccessStep : Int := 0
  accessCount : Nat := 0
  -- attention statistics
  avgAttentionScore : ℚ := 0
  maxAttentionScore : ℚ := 0
  prefixReuseFlag : Bool := false
  currentTier : BlockTier := .gpuFp16
  -- snapshot of system memory at the last update
  gpuMemUsedMb : ℚ := 0
  gpuMemFreeMb : ℚ := 0
  importanceScore : ℚ := 0
  deriving DecidableEq, Repr

def BlockState.quantizedFlag (b : BlockState) : Bool := b.currentTier = .gpuQuantized

def BlockState.offloadedFlag (b : BlockState) : Bool := b.currentTier = .cpuOffloaded

def BlockState.evictedFlag (b : BlockState) : Bool := b.currentTier = .evicted

/-- One row of telemetry. -/
structure TelemetryRecord where
  requestId : String
  timestamp : ℚ
  workloadType : String
  modelName : String
  promptTokens : Int
  generatedTokens : Int
  contextLength : Int
  queueDepth : Int
  gpuMemUsedMb : ℚ
  gpuMemFreeMb : ℚ
  cpuMemUsedMb : ℚ
  blockId : Int
  layerId : Int
  headGroup : Int
  blockAgeSteps : Int
  lastAccessStep : Int
  accessCount : Nat
  avgAttentionScore : ℚ
  maxAttentionScore : ℚ
  prefixReuseFlag : Bool
  quantizedFlag : Bool
  offloadedFlag : Bool
  evictedFlag : Bool
  decisionLabel : String
  latencyMs : ℚ
  ttftMs : ℚ
  tpotMs : ℚ
  taskScore : ℚ := -1
  deriving DecidableEq, Repr

/-- The keyword arguments of `TelemetryRecord.from_block_state`. -/
structure RecordContext where
  modelName : String
  workloadType : WorkloadType := .unknown
  promptTokens : Int := 0
  generatedTokens : Int := 0
  contextLength : Int := 0
  queueDepth : Int := 0
  cpuMemUsedMb : ℚ := 0
  latencyMs : ℚ := 0
  ttftMs : ℚ := 0
  tpotMs : ℚ := 0
  taskScore : ℚ := -1
  /-- The clock reading, or the override of it. -/
  timestamp : ℚ
  deriving DecidableEq, Repr

def TelemetryRecord.fromBlockState (block : BlockState) (decision : BlockDecision)
    (ctx : RecordContext) : TelemetryRecord where
  requestId := block.requestId
  timestamp := ctx.timestamp
  workloadType := ctx.workloadType.value
  modelName := ctx.modelName
  promptTokens := ctx.promptTokens
  generatedTokens := ctx.generatedTokens
  contextLength := ctx.contextLength
  queueDepth := ctx.queueDepth
  gpuMemUsedMb := block.gpuMemUsedMb
  gpuMemFreeMb := block.gpuMemFreeMb
  cpuMemUsedMb := ctx.cpuMemUsedMb
  blockId := block.blockId
  layerId := block.layerId
  headGroup := block.headGroup
  blockAgeSteps := block.blockAgeSteps
  lastAccessStep := block.lastAccessStep
  accessCount := block.accessCount
  avgAttentionScore := block.avgAttentionScore
  maxAttentionScore := block.maxAttentionScore
  prefixReuseFlag := block.prefixReuseFlag
  quantizedFlag := block.quantizedFlag
  offloadedFlag := block.offloadedFlag
  evictedFlag := block.evictedFlag
  decisionLabel := decision.value
  latencyMs := ctx.latencyMs
  ttftMs := ctx.ttftMs
  tpotMs := ctx.tpotMs
  taskScore := ctx.taskScore

/-- Per-request latency and token-count telemetry. -/
structure RequestMetrics where
  requestId : String
  startTime : ℚ
  endTime : ℚ
  latencyMs : ℚ
  ttftMs : ℚ
  tpotMs : ℚ
  promptTokens : Int
  generatedTokens : Int
  queueWaitMs : ℚ := 0
  taskScore : Option ℚ := none
  deriving DecidableEq, Repr

end KVOrchestrator.Ports
