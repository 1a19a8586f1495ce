import KVOrchestrator.Ports.TrackerUpdates
import KVOrchestrator.Ports.PressureFeedback
import KVOrchestrator.Verified.SortedEnds

/-!
# The sliding window over runs

`SlidingWindowPolicy` keeps the ids at both ends of the ordered list of tracked
ids and evicts the others.  It knows no tier but FP16, so with blocks of
positive size every cycle that finds a block finds full pressure, and what a
cycle leaves is a function of the ids alone (`ids_cycle_slidingWindow`).  The
ids it leaves are few enough to be at the ends again, which is why a second
cycle changes nothing.
-/

namespace KVOrchestrator.Ports

open KVOrchestrator.Verified

/-- The ids the window keeps. -/
def windowIds (cfg : PolicyConfig) (ids : List Int) : List Int :=
  ends cfg.sinkTokenBlocks.toNat cfg.slidingWindowBlocks.toNat (sortBy id ids)

/-- `sorted_by_id[max(0, total - window):]`, the ids of the window. -/
def recentIds (blocks : List BlockState) (window : Int) : List Int :=
  (sliceFrom (sortBy (·.blockId) blocks)
    (max 0 (((sortBy (·.blockId) blocks).length : Int) - window))).map (·.blockId)

/-- The policy keeps the sinks and the window. -/
theorem decisions_slidingWindow {cfg : PolicyConfig} {m : SystemMetrics}
    (hm : ¬m.pressure < cfg.memoryPressureLow) (blocks : List BlockState) :
    SlidingWindowPolicy.decisions cfg blocks m = blocks.map (fun b =>
      if b.blockId ∈ leadingIds blocks cfg.sinkTokenBlocks ++
          recentIds blocks cfg.slidingWindowBlocks then
        { blockId := b.blockId
          decision := .keepGpu
          score := 1
          reason := "sink_or_window" }
      else
        { blockId := b.blockId
          decision := .evict
          score := 0
          reason := "outside_window" }) :=
  if_neg hm

/-- The window is the end of the ordered ids. -/
theorem recentIds_eq (blocks : List BlockState) {window : Int} (hwindow : 0 ≤ window) :
    recentIds blocks window =
      (sortBy id (blocks.map (·.blockId))).drop (blocks.length - window.toNat) := by
  have hsort : (sortBy (·.blockId) blocks).map (·.blockId) =
      sortBy id (blocks.map (·.blockId)) :=
    map_sortBy (fun b : BlockState => b.blockId) (·.blockId) id (fun _ => rfl) blocks
  have hstart : (max 0 (((sortBy (·.blockId) blocks).length : Int) - window)).toNat =
      blocks.length - window.toNat := by
    rw [length_sortBy]
    omega
  rw [recentIds, sliceFrom, if_pos (le_max_left 0 _), List.map_drop, hsort, hstart]

/-! ## One cycle -/

/-- Beyond the low threshold the verdict on a block depends on its id. -/
theorem slidingWindow_decisions_eq {cfg : PolicyConfig} (hsink : 0 ≤ cfg.sinkTokenBlocks)
    (hwindow : 0 ≤ cfg.slidingWindowBlocks) {m : SystemMetrics}
    (hm : cfg.memoryPressureLow ≤ m.pressure) (blocks : List BlockState) :
    ∃ verdict : BlockState → PolicyDecision,
      SlidingWindowPolicy.decisions cfg blocks m = blocks.map verdict ∧
      (∀ b, (verdict b).blockId = b.blockId) ∧
      ∀ b, (verdict b).decision =
        if b.blockId ∈ windowIds cfg (blocks.map (·.blockId)) then .keepGpu else .evict := by
  have hfirst : leadingIds blocks cfg.sinkTokenBlocks =
      (sortBy id (blocks.map (·.blockId))).take cfg.sinkTokenBlocks.toNat := by
    rw [leadingIds_eq, sliceTo_of_nonneg _ hsink]
  have hlast : recentIds blocks cfg.slidingWindowBlocks =
      (sortBy id (blocks.map (·.blockId))).drop
        ((sortBy id (blocks.map (·.blockId))).length - cfg.slidingWindowBlocks.toNat) := by
    rw [recentIds_eq blocks hwindow, length_sortBy, List.length_map]
  refine ⟨_, decisions_slidingWindow (not_lt.mpr hm) blocks, ?_, ?_⟩
  · intro b
    split <;> rfl
  · intro b
    rw [windowIds, ends, ← hfirst, ← hlast]
    split <;> rfl

/-- What every state of a run under the window satisfies. -/
structure InWindowRun (cfg : PolicyConfig) (e : PolicyEngine SlidingWindowPolicy) : Prop where
  config : e.policy.config = cfg
  allFp16 : e.blockTracker.AllFp16
  bytes : 0 < e.blockTracker.blockBytesInt8

section Cycle

variable {cfg : PolicyConfig} {e : PolicyEngine SlidingWindowPolicy}

/-- With anything tracked a cycle finds full pressure. -/
theorem InWindowRun.pressure (h : InWindowRun cfg e) (hblocks : e.blockTracker.getAllBlocks ≠ []) :
    (systemMetrics e.blockTracker).pressure = 1 := by
  obtain ⟨b, hb⟩ := List.exists_mem_of_ne_nil _ hblocks
  have hgpu : ∀ b ∈ e.blockTracker.getAllBlocks, 0 < b.currentTier.gpuWeight := by
    intro b hb
    rw [h.allFp16 b hb]
    decide
  have hbytes := h.bytes
  rw [pressure_of_onGpu hgpu hb, if_neg (by omega)]

/-- A cycle leaves the ids at the ends. -/
theorem ids_cycle_slidingWindow (h : InWindowRun cfg e) (hsink : 0 ≤ cfg.sinkTokenBlocks)
    (hwindow : 0 ≤ cfg.slidingWindowBlocks) (hlow : cfg.memoryPressureLow ≤ 1) :
    e.cycle.blockTracker.ids =
      e.blockTracker.ids.filter (fun i => decide (i ∈ windowIds cfg e.blockTracker.ids)) := by
  rw [e.blockTracker_cycle]
  by_cases hblocks : e.blockTracker.getAllBlocks = []
  · have hids : e.blockTracker.ids = [] := by
      rw [← e.blockTracker.map_blockId_getAllBlocks, hblocks]
      rfl
    rw [ids_applyDecisions, hids]
    rfl
  · have hm : cfg.memoryPressureLow ≤ (systemMetrics e.blockTracker).pressure := by
      rw [h.pressure hblocks]
      exact hlow
    obtain ⟨verdict, hlist, hids, hdecision⟩ :=
      slidingWindow_decisions_eq hsink hwindow hm e.blockTracker.getAllBlocks
    rw [← h.config] at hlist
    have hcycle : e.cycleDecisions = e.blockTracker.getAllBlocks.map verdict :=
      PolicyEngine.cycleDecisions_eq_map hlist
    rw [e.blockTracker.map_blockId_getAllBlocks] at hdecision
    rw [hcycle, ids_applyDecisions_map hids (fun b _ => hdecision b)]

/-- The window's decisions keep or evict. -/
theorem keepOrEvictList_cycle_slidingWindow (e : PolicyEngine SlidingWindowPolicy) :
    KeepOrEvictList e.cycleDecisions := by
  apply PolicyEngine.cycleDecisions_of_decide
  · intro d hd
    cases hd
  · apply keepOrEvictList_guarded
    intro b
    split <;> simp

theorem InWindowRun.cycle (h : InWindowRun cfg e) : InWindowRun cfg e.cycle := by
  constructor
  · have hkeep : ∀ (p : SlidingWindowPolicy) blocks m, p.config = cfg →
        (PolicyInterface.decide p blocks m).2.config = cfg := fun _ _ _ hp => hp
    exact PolicyEngine.policy_cycle_of_decide hkeep h.config
  · rw [e.blockTracker_cycle]
    exact h.allFp16.applyDecisions (keepOrEvictList_cycle_slidingWindow e)
  · rw [e.blockTracker_cycle, blockBytesInt8_applyDecisions]
    exact h.bytes

end Cycle

/-! ## Runs -/

/-- Anything but swapping the policy. -/
def EngineOp.KeepsPolicy {π : Type} : EngineOp π → Prop
  | .overridePolicy _ => False
  | .registerBlock _ _ _ _ => True
  | .evictBlock _ => True
  | .releaseRequestBlocks _ => True
  | .updateAttention _ _ => True
  | .markAccessed _ _ => True
  | .updateMemorySnapshot _ _ _ => True
  | .markPrefixReuse _ _ => True
  | .incrementAge _ => True
  | .runPolicyCycle => True

theorem InWindowRun.perform {cfg : PolicyConfig} {e : PolicyEngine SlidingWindowPolicy}
    (h : InWindowRun cfg e) {op : EngineOp SlidingWindowPolicy} (hop : op.KeepsPolicy) :
    InWindowRun cfg (e.perform op) := by
  cases op with
  | runPolicyCycle => exact h.cycle
  | overridePolicy newPolicy => exact hop.elim
  | registerBlock | evictBlock | releaseRequestBlocks | updateAttention | markAccessed
  | updateMemorySnapshot | markPrefixReuse | incrementAge =>
      constructor
      · exact h.config
      · exact h.allFp16.onTracker _
      · rw [e.blockBytesInt8_perform]
        exact h.bytes

theorem inWindowRun_run (policy : SlidingWindowPolicy)
    (numLayers numHeads blockSize headDim : Nat)
    (telemetryCollector : Option TelemetryCollector)
    (hbytes : 0 < (PolicyEngine.init policy numLayers numHeads blockSize headDim
      telemetryCollector).blockTracker.blockBytesFp16)
    {ops : List (EngineOp SlidingWindowPolicy)} (hops : ∀ op ∈ ops, op.KeepsPolicy) :
    InWindowRun policy.config (run PolicyEngine.perform
      (PolicyEngine.init policy numLayers numHeads blockSize headDim telemetryCollector)
      ops) := by
  have hstep : ∀ (e : PolicyEngine SlidingWindowPolicy) op, op.KeepsPolicy →
      InWindowRun policy.config e → InWindowRun policy.config (e.perform op) := by
    intro e op hop h
    exact h.perform hop
  apply run_invariant_of_forall hstep ops _ hops
  constructor
  · rfl
  · intro b hb
    cases hb
  · rw [BlockTracker.blockBytesFp16_eq] at hbytes
    omega

theorem BlockTracker.AllFp16.tierMap_eq {t : BlockTracker} (h : t.AllFp16) :
    t.tierMap = t.ids.map (fun i => (i, .gpuFp16)) := by
  rw [BlockTracker.tierMap, ← t.map_blockId_getAllBlocks, List.map_map]
  apply List.map_congr_left
  intro b hb
  rw [h b hb]
  rfl

/-- **What the window leaves.**

Take any run from an empty tracker under the sliding window, with operations of
any kind but a change of the policy.  A cycle leaves exactly the first
`min s n` and the last `min w n` of the `n` tracked ids in increasing order,
which are `min n (s + w)` blocks, all in FP16; and a second cycle right after it
changes no id and no tier. -/
theorem sliding_window_run (policy : SlidingWindowPolicy)
    (hsink : 0 ≤ policy.config.sinkTokenBlocks) (hwindow : 0 ≤ policy.config.slidingWindowBlocks)
    (hlow : policy.config.memoryPressureLow ≤ 1) (numLayers numHeads blockSize headDim : Nat)
    (telemetryCollector : Option TelemetryCollector)
    (hbytes : 0 < (PolicyEngine.init policy numLayers numHeads blockSize headDim
      telemetryCollector).blockTracker.blockBytesFp16)
    (ops : List (EngineOp SlidingWindowPolicy)) (hops : ∀ op ∈ ops, op.KeepsPolicy) :
    let e := run PolicyEngine.perform
      (PolicyEngine.init policy numLayers numHeads blockSize headDim telemetryCollector) ops
    let ids := sortBy id e.blockTracker.ids
    let n := ids.length
    let s := policy.config.sinkTokenBlocks.toNat
    let w := policy.config.slidingWindowBlocks.toNat
    (∀ i, i ∈ e.cycle.blockTracker.ids ↔
      i ∈ ids.take (min s n) ∨ i ∈ ids.drop (n - min w n)) ∧
    e.cycle.blockTracker.ids.length = min n (s + w) ∧
    (∀ b ∈ e.cycle.blockTracker.getAllBlocks, b.currentTier = .gpuFp16) ∧
    e.cycle.cycle.blockTracker.tierMap = e.cycle.blockTracker.tierMap := by
  intro e ids n s w
  have hrun := inWindowRun_run policy numLayers numHeads blockSize headDim telemetryCollector
    hbytes hops
  have hleft : e.cycle.blockTracker.ids =
      e.blockTracker.ids.filter (fun i => decide (i ∈ ends s w ids)) :=
    ids_cycle_slidingWindow hrun hsink hwindow hlow
  have hcount : e.cycle.blockTracker.ids.length = min n (s + w) := by
    have hperm := (sortBy_perm id e.blockTracker.ids).filter (fun i => decide (i ∈ ends s w ids))
    have hnodup : ids.Nodup :=
      (sortBy_perm id e.blockTracker.ids).nodup_iff.mpr e.blockTracker.blocks.nodup_keys
    rw [hleft, ← hperm.length_eq]
    exact length_filter_mem_ends hnodup
  refine ⟨?_, hcount, hrun.cycle.allFp16, ?_⟩
  · intro i
    have htake : ids.take (min s n) = ids.take s := by
      rw [List.take_eq_take_iff]
      omega
    have hdrop : n - min w n = n - w := by omega
    rw [hleft, List.mem_filter, decide_eq_true_iff, htake, hdrop, ← List.mem_append]
    constructor
    · intro h
      exact h.2
    · intro h
      exact ⟨(mem_sortBy id _ i).mp (mem_of_mem_ends h), h⟩
  · -- what is left is short enough to be at the ends again
    have hsecond := ids_cycle_slidingWindow hrun.cycle hsink hwindow hlow
    have hall : e.cycle.cycle.blockTracker.ids = e.cycle.blockTracker.ids := by
      rw [hsecond, List.filter_eq_self]
      intro i hi
      apply decide_eq_true
      apply mem_ends_of_length_le
      · rw [length_sortBy, hcount]
        omega
      · exact (mem_sortBy id _ i).mpr hi
    rw [hrun.cycle.cycle.allFp16.tierMap_eq, hrun.cycle.allFp16.tierMap_eq, hall]

/-- One sink and a window of one over three blocks, registered out of order. -/
def threeBlocks : List (EngineOp SlidingWindowPolicy) :=
  [ .registerBlock 7 0 0 "r",
    .registerBlock 2 0 0 "r",
    .markAccessed 2 1,
    .registerBlock 4 0 0 "r" ]

theorem sliding_window_run_three_blocks :
    let policy : SlidingWindowPolicy :=
      ⟨{ config := { sinkTokenBlocks := 1, slidingWindowBlocks := 1 } }⟩
    let e := run PolicyEngine.perform (PolicyEngine.init policy 2 4 16 128) threeBlocks
    e.cycle.blockTracker.ids = [7, 2] ∧ e.cycle.blockTracker.ids.length = min 3 2 ∧
      e.cycle.cycle.blockTracker.tierMap = e.cycle.blockTracker.tierMap := by
  intro policy e
  obtain ⟨_, hcount, _, hsecond⟩ := sliding_window_run policy (by decide) (by decide)
    (by decide +kernel) 2 4 16 128 none (by decide +kernel) threeBlocks
    (by
      intro op hop
      simp only [threeBlocks, List.mem_cons, List.not_mem_nil, or_false] at hop
      rcases hop with rfl | rfl | rfl | rfl <;> trivial)
  exact ⟨by decide +kernel, hcount.trans (by decide +kernel), hsecond⟩

end KVOrchestrator.Ports
