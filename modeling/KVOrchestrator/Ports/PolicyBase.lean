import KVOrchestrator.Ports.Schema
import KVOrchestrator.Verified.OrdDict
import KVOrchestrator.Verified.Ranking
import KVOrchestrator.Verified.Builtins

/-!
# The policy interface (`src/cache_policies/base.py`)

A policy maps a snapshot of the live blocks and a metrics dictionary to one
decision per block, and keeps the statistics of its last evaluation.
`PolicyInterface` is the abstract class: whatever a policy's own state is,
`decide` may change it.  `BasePolicy` holds the fields every built-in policy
shares.  Timestamps and latencies of the statistics are left out: they are
clock readings nothing else depends on.
-/

namespace KVOrchestrator.Ports

open KVOrchestrator.Verified

/-- Unified configuration of the policies, with the defaults of
`configs/default.yaml`. -/
structure PolicyConfig where
  memoryPressureLow : ℚ := 65 / 100
  memoryPressureHigh : ℚ := 85 / 100
  slidingWindowBlocks : Int := 512
  heavyHitterFraction : ℚ := 20 / 100
  sinkTokenBlocks : Int := 4
  recencyWeight : ℚ := 40 / 100
  attentionWeight : ℚ := 40 / 100
  reuseWeight : ℚ := 20 / 100
  quantizationEnabled : Bool := true
  quantizationMinImportance : ℚ := 30 / 100
  offloadEnabled : Bool := true
  offloadMaxFraction : ℚ := 40 / 100
  offloadThresholdScore : ℚ := 15 / 100
  deriving DecidableEq, Repr

/-- The `system_metrics` dictionary; `none` is an absent key. -/
structure SystemMetrics where
  gpuMemUsedMb : Option ℚ := none
  gpuMemFreeMb : Option ℚ := none
  globalStep : Option Int := none
  attnMax : Option ℚ := none
  workloadType : Option String := none
  queueDepth : Option Int := none
  contextLength : Option Int := none
  outputLength : Option Int := none
  deriving DecidableEq, Repr

/-- The policy's verdict for one block. -/
structure PolicyDecision where
  blockId : Int
  decision : BlockDecision
  score : ℚ
  reason : String := ""
  deriving DecidableEq, Repr

/-- Summary of one policy evaluation round. -/
structure PolicyStats where
  policyName : String
  numBlocksEvaluated : Nat
  /-- decision label → count -/
  decisions : OrdDict String Nat
  gpuMemPressure : ℚ
  deriving DecidableEq

/-- GPU memory pressure as a fraction of the total. -/
def computeMemoryPressure (gpuMemUsedMb gpuMemFreeMb : ℚ) : ℚ :=
  let total := gpuMemUsedMb + gpuMemFreeMb
  if total > 0 then gpuMemUsedMb / total else 0

/-- The pressure every policy reads off its metrics. -/
def SystemMetrics.pressure (m : SystemMetrics) : ℚ :=
  computeMemoryPressure (m.gpuMemUsedMb.getD 0) (m.gpuMemFreeMb.getD 1)

/-- With nothing free, any used memory is full pressure. -/
theorem computeMemoryPressure_zero_free {used : ℚ} (h : 0 < used) :
    computeMemoryPressure used 0 = 1 := by
  simp only [computeMemoryPressure, add_zero, gt_iff_lt, if_pos h]
  exact div_self (ne_of_gt h)

@[simp] theorem computeMemoryPressure_zero_zero : computeMemoryPressure 0 0 = 0 := by
  simp [computeMemoryPressure]

/-- Fields shared by every policy. -/
structure BasePolicy where
  config : PolicyConfig
  evalCount : Nat := 0
  lastStats : Option PolicyStats := none
  deriving DecidableEq

/-- Count the labels of a decision list, in order of first occurrence. -/
def countDecisions (decisions : List PolicyDecision) : OrdDict String Nat :=
  decisions.foldl
    (fun counts d => counts.set d.decision.value ((counts.get? d.decision.value).getD 0 + 1))
    OrdDict.empty

/-- Record the statistics of an evaluation round. -/
def BasePolicy.makeStats (p : BasePolicy) (name : String) (decisions : List PolicyDecision)
    (pressure : ℚ) : BasePolicy :=
  { p with
    lastStats := some
      { policyName := name
        numBlocksEvaluated := decisions.length
        decisions := countDecisions decisions
        gpuMemPressure := pressure }
    evalCount := p.evalCount + 1 }

/-- `KEEP_GPU` for every block, used under low pressure. -/
def keepAll (blocks : List BlockState) : List PolicyDecision :=
  blocks.map (fun b =>
    { blockId := b.blockId
      decision := .keepGpu
      score := 1
      reason := "low_pressure" })

/-- Ids of the first `n` blocks by position in the context. -/
def leadingIds (blocks : List BlockState) (n : Int) : List Int :=
  (sliceTo (sortBy (·.blockId) blocks) n).map (·.blockId)

/-- The leading ids depend on the ids only. -/
theorem leadingIds_eq (blocks : List BlockState) (n : Int) :
    leadingIds blocks n = sliceTo (sortBy id (blocks.map (·.blockId))) n := by
  have hsort := map_sortBy (fun b : BlockState => b.blockId) (·.blockId) id (fun _ => rfl) blocks
  rw [leadingIds, map_sliceTo, hsort]

/-- Rewriting blocks under their ids keeps the leading ids. -/
theorem leadingIds_map {σ : BlockState → BlockState} (hσ : ∀ b, (σ b).blockId = b.blockId)
    (blocks : List BlockState) (n : Int) :
    leadingIds (blocks.map σ) n = leadingIds blocks n := by
  have hids : (blocks.map σ).map (·.blockId) = blocks.map (·.blockId) := by
    rw [List.map_map]
    exact List.map_congr_left (fun b _ => hσ b)
  rw [leadingIds_eq, leadingIds_eq, hids]

/-- What every policy implements. -/
class PolicyInterface (π : Type) where
  decide : π → List BlockState → SystemMetrics → List PolicyDecision × π
  getName : π → String
  getLastStats : π → Option PolicyStats

/-! ## Reading a decision list -/

/-- The verdict of the first decision on a block id. -/
def decisionOf (decisions : List PolicyDecision) (blockId : Int) : Option BlockDecision :=
  (decisions.find? (fun d => decide (d.blockId = blockId))).map (·.decision)

/-- In a list with one decision per item of a uniquely named list, each item
is found under its name. -/
theorem decisionOf_map {α : Type*} {f : α → Int} {l : List α} (hl : (l.map f).Nodup)
    (g : α → PolicyDecision) (hg : ∀ a ∈ l, (g a).blockId = f a) {a : α} (ha : a ∈ l) :
    decisionOf (l.map g) (f a) = some (g a).decision := by
  rw [decisionOf, find?_map_of_name hl g (·.blockId) hg ha]
  rfl

end KVOrchestrator.Ports
