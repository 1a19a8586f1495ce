import KVOrchestrator.Ports.BlockTracker
import KVOrchestrator.Ports.PolicyBase
import KVOrchestrator.Ports.Collector

/-!
# The policy engine (`src/cache_policies/policy_engine.py`)

One cycle takes a snapshot of the tracked blocks, lets the active policy
decide, applies the decisions to the tracker one after the other, and then
records telemetry by looking every decided block up again.  The engine is
generic in its policy, which may be any implementation of `PolicyInterface`.

The cycle is modelled as one atomic step: the tracker is shared with the
serving side, and a run (`EngineRun`) interleaves whole cycles with whole
tracker operations.
-/

namespace KVOrchestrator.Ports

open KVOrchestrator.Verified

/-- `_DECISION_TO_TIER` -/
def BlockDecision.tier : BlockDecision → BlockTier
  | .keepGpu => .gpuFp16
  | .quantize => .gpuQuantized
  | .offloadCpu => .cpuOffloaded
  | .evict => .evicted

structure PolicyEngine (π : Type) where
  policy : π
  blockTracker : BlockTracker
  telemetryCollector : Option TelemetryCollector := none
  statsBufferSize : Nat := 500
  history : List PolicyStats := []
  cycleCount : Nat := 0

/-- Apply one decision to the block tracker. -/
def applyDecision (t : BlockTracker) (d : PolicyDecision) : BlockTracker :=
  if d.decision = .evict then (t.evictBlock d.blockId).1
  else (t.updateTier d.blockId d.decision.tier).setImportanceScore d.blockId d.score

/-- Apply policy decisions to the block tracker, in list order. -/
def applyDecisions (t : BlockTracker) (decisions : List PolicyDecision) : BlockTracker :=
  decisions.foldl applyDecision t

/-- The metrics a cycle computes from the tracker.  The free memory is a
placeholder of the source: the number of blocks times zero. -/
def systemMetrics (t : BlockTracker) : SystemMetrics where
  gpuMemUsedMb := some t.getMemoryStats.estimatedGpuMb
  gpuMemFreeMb := some (max 0 ((t.ids.length : ℚ) * 0))
  globalStep := some (maxD (t.getAllBlocks.map (·.lastAccessStep)) 0)
  attnMax := some (maxD (t.getAllBlocks.map (·.maxAttentionScore)) 1)

/-- Record one decision, if its block is still tracked. -/
def recordDecision (t : BlockTracker) (c : TelemetryCollector) (d : PolicyDecision) :
    TelemetryCollector :=
  match t.getBlock d.blockId with
  | some block => c.recordBlockEvent block d.decision
  | none => c

/-- The telemetry pass of a cycle. -/
def recordDecisions (t : BlockTracker) (c : TelemetryCollector)
    (decisions : List PolicyDecision) : TelemetryCollector :=
  decisions.foldl (recordDecision t) c

/-- Append to a `deque` of bounded length. -/
def dequeAppend {α : Type} (maxlen : Nat) (q : List α) (a : α) : List α :=
  (q ++ [a]).drop ((q ++ [a]).length - maxlen)

namespace PolicyEngine

variable {π : Type} [PolicyInterface π]

/-- One full evaluation: snapshot blocks, decide, apply, record. -/
def runPolicyCycle (e : PolicyEngine π) : Option PolicyStats × PolicyEngine π :=
  let blocks := e.blockTracker.getAllBlocks
  if blocks.isEmpty then (none, e)
  else
    let r := PolicyInterface.decide e.policy blocks (systemMetrics e.blockTracker)
    let tracker := applyDecisions e.blockTracker r.1
    let collector := e.telemetryCollector.map (fun c => recordDecisions tracker c r.1)
    let stats := PolicyInterface.getLastStats r.2
    ( stats,
      { e with
        policy := r.2
        blockTracker := tracker
        telemetryCollector := collector
        history := match stats with
          | some s => dequeAppend e.statsBufferSize e.history s
          | none => e.history
        cycleCount := e.cycleCount + 1 } )

/-- The engine after one cycle. -/
def cycle (e : PolicyEngine π) : PolicyEngine π := e.runPolicyCycle.2

/-- Swap the active policy. -/
def overridePolicy (e : PolicyEngine π) (newPolicy : π) : PolicyEngine π :=
  { e with policy := newPolicy }

/-- What the policy decides in the next cycle. -/
def cycleDecisions (e : PolicyEngine π) : List PolicyDecision :=
  if e.blockTracker.getAllBlocks.isEmpty then []
  else (PolicyInterface.decide e.policy e.blockTracker.getAllBlocks
    (systemMetrics e.blockTracker)).1

/-- A cycle changes the tracker by its decisions only. -/
theorem blockTracker_cycle (e : PolicyEngine π) :
    e.cycle.blockTracker = applyDecisions e.blockTracker e.cycleDecisions := by
  unfold cycle runPolicyCycle cycleDecisions
  simp only []
  split
  · rfl
  · rfl

/-- With nothing tracked a cycle does nothing. -/
theorem cycle_of_empty {e : PolicyEngine π} (h : e.blockTracker.getAllBlocks = []) :
    e.cycle = e := by
  simp [cycle, runPolicyCycle, h]

theorem cycleDecisions_of_ne_nil {e : PolicyEngine π} (h : e.blockTracker.getAllBlocks ≠ []) :
    e.cycleDecisions = (PolicyInterface.decide e.policy e.blockTracker.getAllBlocks
      (systemMetrics e.blockTracker)).1 := by
  rw [cycleDecisions, if_neg (by simpa using h)]

/-- A policy with one verdict per block has one for each tracked block. -/
theorem cycleDecisions_eq_map {e : PolicyEngine π} {verdict : BlockState → PolicyDecision}
    (h : (PolicyInterface.decide e.policy e.blockTracker.getAllBlocks
      (systemMetrics e.blockTracker)).1 = e.blockTracker.getAllBlocks.map verdict) :
    e.cycleDecisions = e.blockTracker.getAllBlocks.map verdict := by
  by_cases hblocks : e.blockTracker.getAllBlocks = []
  · rw [cycleDecisions, hblocks]
    rfl
  · rw [cycleDecisions_of_ne_nil hblocks, h]

theorem policy_cycle (e : PolicyEngine π) (h : e.blockTracker.getAllBlocks ≠ []) :
    e.cycle.policy = (PolicyInterface.decide e.policy e.blockTracker.getAllBlocks
      (systemMetrics e.blockTracker)).2 := by
  have hempty : e.blockTracker.getAllBlocks.isEmpty = false := by simpa using h
  simp [cycle, runPolicyCycle, hempty]

/-- What deciding keeps of the policy, a cycle keeps. -/
theorem policy_cycle_of_decide {P : π → Prop}
    (hP : ∀ p blocks m, P p → P (PolicyInterface.decide p blocks m).2) {e : PolicyEngine π}
    (h : P e.policy) : P e.cycle.policy := by
  by_cases hblocks : e.blockTracker.getAllBlocks = []
  · rw [cycle_of_empty hblocks]
    exact h
  · rw [e.policy_cycle hblocks]
    exact hP _ _ _ h

/-- A property of the decisions of a nonempty batch, and of no decisions. -/
theorem cycleDecisions_of_decide {P : List PolicyDecision → Prop} {e : PolicyEngine π}
    (hnil : P []) (hP : P (PolicyInterface.decide e.policy e.blockTracker.getAllBlocks
      (systemMetrics e.blockTracker)).1) : P e.cycleDecisions := by
  unfold cycleDecisions
  split
  · exact hnil
  · exact hP

theorem telemetryCollector_cycle (e : PolicyEngine π) :
    e.cycle.telemetryCollector = e.telemetryCollector.map (fun c =>
      recordDecisions e.cycle.blockTracker c e.cycleDecisions) := by
  rw [blockTracker_cycle]
  unfold cycle runPolicyCycle cycleDecisions
  simp only []
  split
  · simp [recordDecisions]
  · rfl

end PolicyEngine

/-! ## The pressure a cycle computes -/

theorem gpuMemFreeMb_systemMetrics (t : BlockTracker) :
    (systemMetrics t).gpuMemFreeMb = some 0 := by
  simp [systemMetrics]

theorem pressure_systemMetrics (t : BlockTracker) :
    (systemMetrics t).pressure =
      computeMemoryPressure t.getMemoryStats.estimatedGpuMb 0 := by
  rw [SystemMetrics.pressure, gpuMemFreeMb_systemMetrics]
  rfl

/-- With anything on the GPU a cycle sees full pressure. -/
theorem pressure_systemMetrics_of_pos {t : BlockTracker}
    (h : 0 < t.getMemoryStats.estimatedGpuMb) : (systemMetrics t).pressure = 1 := by
  rw [pressure_systemMetrics, computeMemoryPressure_zero_free h]

/-- With nothing on the GPU a cycle sees no pressure. -/
theorem pressure_systemMetrics_of_zero {t : BlockTracker}
    (h : t.getMemoryStats.estimatedGpuMb = 0) : (systemMetrics t).pressure = 0 := by
  rw [pressure_systemMetrics, h, computeMemoryPressure_zero_zero]

end KVOrchestrator.Ports
