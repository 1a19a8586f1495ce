import KVOrchestrator.Ports.EngineRun
import KVOrchestrator.Ports.Heuristic

/-!
# Accounting for evictions

`blocks_per_tier` counts the tracked blocks by tier, and `evict_block` pops the
block it marks as evicted, so the evicted tier is empty in every state of a run.
The count the status endpoint serves, and the stress runner reads as
`blocks_evicted`, therefore matches the number of evictions exactly as long as
there are none (`evictions_accounted_iff`).
-/

namespace KVOrchestrator.Ports

open KVOrchestrator.Verified

/-- An engine with the number of blocks its cycles have evicted so far. -/
structure EvictionAudit (π : Type) where
  engine : PolicyEngine π
  evictions : Nat := 0

namespace EvictionAudit

variable {π : Type} [PolicyInterface π]

/-- How many tracked blocks the next cycle evicts. -/
def evictedNext (e : PolicyEngine π) : Nat :=
  e.blockTracker.ids.countP (fun i => decide (EvictedBy e.cycleDecisions i))

def perform (s : EvictionAudit π) (op : EngineOp π) : EvictionAudit π where
  engine := s.engine.perform op
  evictions :=
    match op with
    | .runPolicyCycle => s.evictions + evictedNext s.engine
    | _ => s.evictions

/-- `blocks_per_tier['evicted']` is the number of evictions. -/
def Accounted (s : EvictionAudit π) : Prop :=
  s.engine.blockTracker.getMemoryStats.blocksPerTier .evicted = s.evictions

/-- The step is no cycle that evicts a tracked block. -/
def EvictsNone (s : EvictionAudit π) (op : EngineOp π) : Prop :=
  match op with
  | .runPolicyCycle =>
      ∀ i ∈ s.engine.blockTracker.ids, ¬EvictedBy s.engine.cycleDecisions i
  | _ => True

/-- The evicted are what a cycle takes from the tracked ids. -/
theorem length_ids_cycle (e : PolicyEngine π) :
    e.cycle.blockTracker.ids.length + evictedNext e = e.blockTracker.ids.length := by
  rw [e.blockTracker_cycle, ids_applyDecisions, evictedNext, ← List.countP_eq_length_filter,
    List.length_eq_countP_add_countP (fun i => decide (¬EvictedBy e.cycleDecisions i))]
  congr 2
  funext i
  simp

/-- The evicted tier of a live tracker is empty. -/
theorem blocksPerTier_evicted {t : BlockTracker} (h : t.LiveTiers) :
    t.getMemoryStats.blocksPerTier .evicted = 0 := by
  show t.tierCount .evicted = 0
  rw [BlockTracker.tierCount, List.countP_eq_zero]
  intro b hb hevicted
  exact h b hb (of_decide_eq_true hevicted)

/-- What holds as long as nothing is evicted. -/
structure NoneYet (s : EvictionAudit π) : Prop where
  liveTiers : s.engine.blockTracker.LiveTiers
  evictions : s.evictions = 0

omit [PolicyInterface π] in
theorem NoneYet.accounted {s : EvictionAudit π} (h : s.NoneYet) : s.Accounted := by
  rw [Accounted, blocksPerTier_evicted h.liveTiers, h.evictions]

theorem evictedNext_eq_zero_iff (e : PolicyEngine π) :
    evictedNext e = 0 ↔ ∀ i ∈ e.blockTracker.ids, ¬EvictedBy e.cycleDecisions i := by
  rw [evictedNext, List.countP_eq_zero]
  simp only [decide_eq_true_eq]

theorem NoneYet.perform {s : EvictionAudit π} {op : EngineOp π} (h : s.NoneYet)
    (hop : s.EvictsNone op) : (s.perform op).NoneYet := by
  refine ⟨s.engine.liveTiers_perform op h.liveTiers, ?_⟩
  cases op with
  | runPolicyCycle =>
      show s.evictions + evictedNext s.engine = 0
      have hnext := (evictedNext_eq_zero_iff s.engine).mpr hop
      have hnow := h.evictions
      omega
  | registerBlock | evictBlock | releaseRequestBlocks | updateAttention | markAccessed
  | updateMemorySnapshot | markPrefixReuse | incrementAge | overridePolicy => exact h.evictions

/-- An eviction is not accounted for. -/
theorem not_accounted_perform {s : EvictionAudit π} {op : EngineOp π} (h : s.NoneYet)
    (hop : ¬s.EvictsNone op) : ¬(s.perform op).Accounted := by
  cases op with
  | runPolicyCycle =>
      intro haccounted
      have hlive := s.engine.liveTiers_perform .runPolicyCycle h.liveTiers
      have hcount : s.evictions + evictedNext s.engine = 0 :=
        haccounted.symm.trans (blocksPerTier_evicted hlive)
      apply hop
      apply (evictedNext_eq_zero_iff s.engine).mp
      omega
  | registerBlock | evictBlock | releaseRequestBlocks | updateAttention | markAccessed
  | updateMemorySnapshot | markPrefixReuse | incrementAge | overridePolicy =>
      exact absurd trivial hop

end EvictionAudit

/-- **Evictions are accounted for as long as there are none.**

In a run from an empty tracker, cycles interleaved with registrations or any
other operation of the serving side, `blocks_per_tier['evicted']` equals the
number of blocks the cycles have evicted in every state exactly if no cycle
evicts a tracked block: the count is zero throughout, whatever was evicted. -/
theorem evictions_accounted_iff {π : Type} [PolicyInterface π] (policy : π)
    (numLayers numHeads blockSize headDim : Nat)
    (telemetryCollector : Option TelemetryCollector) (ops : List (EngineOp π)) :
    let start : EvictionAudit π :=
      { engine := PolicyEngine.init policy numLayers numHeads blockSize headDim
          telemetryCollector }
    (Throughout EvictionAudit.perform EvictionAudit.Accounted start ops ↔
      StepsMeet EvictionAudit.perform EvictionAudit.EvictsNone start ops) ∧
    (run EvictionAudit.perform start ops).engine.blockTracker.getMemoryStats.blocksPerTier
      .evicted = 0 := by
  intro start
  have hstart : start.engine.blockTracker.LiveTiers :=
    PolicyEngine.liveTiers_init policy numLayers numHeads blockSize headDim telemetryCollector
  constructor
  · have hstep : ∀ (s : EvictionAudit π) (op : EngineOp π), s.EvictsNone op → s.NoneYet →
        (s.perform op).NoneYet := fun s op hop h => h.perform hop
    have hbreak : ∀ (s : EvictionAudit π) (op : EngineOp π), s.NoneYet → ¬s.EvictsNone op →
        ¬(s.perform op).Accounted := fun s op h hop => EvictionAudit.not_accounted_perform h hop
    exact throughout_iff_stepsMeet hstep (fun s h => h.accounted) hbreak ops start ⟨hstart, rfl⟩
  · have hlive : ∀ (s : EvictionAudit π) (op : EngineOp π), s.engine.blockTracker.LiveTiers →
        (s.perform op).engine.blockTracker.LiveTiers :=
      fun s op h => s.engine.liveTiers_perform op h
    exact EvictionAudit.blocksPerTier_evicted (run_invariant hlive ops start hstart)

/-- Two registrations and a cycle under full pressure. -/
def fullCacheAudit : EvictionAudit FullCachePolicy :=
  run EvictionAudit.perform
    { engine := PolicyEngine.init ⟨{ config := {} }⟩ 2 4 16 128 }
    [.registerBlock 1 0 0 "r", .registerBlock 2 1 0 "r", .runPolicyCycle]

/-- The cycle evicts one of the blocks, and the served count stays zero. -/
theorem evictions_accounted_fails :
    fullCacheAudit.evictions = 1 ∧
      fullCacheAudit.engine.blockTracker.getMemoryStats.blocksPerTier .evicted = 0 ∧
      ¬fullCacheAudit.Accounted := by
  have hevictions : fullCacheAudit.evictions = 1 := by decide +kernel
  have htier : fullCacheAudit.engine.blockTracker.getMemoryStats.blocksPerTier .evicted = 0 := by
    decide +kernel
  refine ⟨hevictions, htier, ?_⟩
  intro haccounted
  have hcount := haccounted.symm.trans htier
  omega

end KVOrchestrator.Ports
