import KVOrchestrator.Ports.PressureOrder

/-!
# The CPU-offload cap

The configuration bounds the share of blocks that may be offloaded.  Only
`OffloadOnlyPolicy` counts: its scan stops at the bound.  The hybrid
controller and the learned policy offload every block whose score falls in a
band between two thresholds, so they respect the bound exactly on the batches
with few enough scores in that band (`offload_cap_iff`).
-/

namespace KVOrchestrator.Ports

open KVOrchestrator.Verified

/-- The number of `OFFLOAD_CPU` decisions. -/
def offloadCount (decisions : List PolicyDecision) : Nat :=
  decisions.countP (fun d => decide (d.decision = .offloadCpu))

/-- A block outside the sinks whose score the selective ladder offloads. -/
def InSelectiveBand (cfg : PolicyConfig) (sinkIds : List Int) (x : BlockState × ℚ) : Prop :=
  x.1.blockId ∉ sinkIds ∧ cfg.offloadEnabled = true ∧
    cfg.offloadThresholdScore * (5 / 10) ≤ x.2 ∧ x.2 < cfg.quantizationMinImportance ∧
    (cfg.quantizationEnabled = true → x.2 < cfg.offloadThresholdScore)

/-- A block outside sinks and heavy hitters whose score the aggressive ladder
offloads. -/
def InAggressiveBand (cfg : PolicyConfig) (sinkIds hhIds : List Int) (x : BlockState × ℚ) :
    Prop :=
  x.1.blockId ∉ sinkIds ∧ x.1.blockId ∉ hhIds ∧ cfg.offloadEnabled = true ∧
    cfg.offloadThresholdScore ≤ x.2 ∧
    (cfg.quantizationEnabled = true → x.2 < cfg.quantizationMinImportance)

instance (cfg : PolicyConfig) (sinkIds : List Int) (x : BlockState × ℚ) :
    Decidable (InSelectiveBand cfg sinkIds x) := by
  unfold InSelectiveBand
  infer_instance

instance (cfg : PolicyConfig) (sinkIds hhIds : List Int) (x : BlockState × ℚ) :
    Decidable (InAggressiveBand cfg sinkIds hhIds x) := by
  unfold InAggressiveBand
  infer_instance

/-- How many scored blocks lie in the offload band of the regime the pressure
selects; below the low threshold there is none. -/
def hybridBandCount (cfg : PolicyConfig) (blocks : List BlockState) (scores : List ℚ)
    (pressure : ℚ) : Nat :=
  let sinkIds := HybridAdaptivePolicy.sinkIds cfg blocks
  if pressure < cfg.memoryPressureLow then 0
  else if pressure < cfg.memoryPressureHigh then
    (blocks.zip scores).countP (fun x => decide (InSelectiveBand cfg sinkIds x))
  else
    (blocks.zip scores).countP (fun x =>
      decide (InAggressiveBand cfg sinkIds (HybridAdaptivePolicy.hhIds cfg blocks scores) x))

/-- The same for the learned policy, which has the selective regime only. -/
def learnedBandCount (cfg : PolicyConfig) (blocks : List BlockState) (scores : List ℚ)
    (pressure : ℚ) : Nat :=
  if pressure < cfg.memoryPressureLow then 0
  else
    (blocks.zip scores).countP (fun x =>
      decide (InSelectiveBand cfg (leadingIds blocks cfg.sinkTokenBlocks) x))

/-! ## Which scores are offloaded -/

theorem ladder_selective_eq_offloadCpu_iff (cfg : PolicyConfig) (s : ℚ) :
    ladder .evict s (selectiveRungs cfg) = BlockDecision.offloadCpu ↔
      cfg.offloadEnabled = true ∧ cfg.offloadThresholdScore * (5 / 10) ≤ s ∧
        s < cfg.quantizationMinImportance ∧
        (cfg.quantizationEnabled = true → s < cfg.offloadThresholdScore) := by
  rw [HybridAdaptivePolicy.ladder_selectiveRungs]
  grind

theorem ladder_aggressive_eq_offloadCpu_iff (cfg : PolicyConfig) (s : ℚ) :
    ladder .evict s (HybridAdaptivePolicy.aggressiveRungs cfg) = BlockDecision.offloadCpu ↔
      cfg.offloadEnabled = true ∧ cfg.offloadThresholdScore ≤ s ∧
        (cfg.quantizationEnabled = true → s < cfg.quantizationMinImportance) := by
  rw [HybridAdaptivePolicy.ladder_aggressiveRungs]
  grind

theorem blockDecision_eq_offloadCpu_iff (cfg : PolicyConfig) (sinkIds : List Int)
    (x : BlockState × ℚ) :
    (LearnedPolicy.blockDecision cfg sinkIds x).decision = .offloadCpu ↔
      InSelectiveBand cfg sinkIds x := by
  rw [decision_blockDecision]
  by_cases hsink : x.1.blockId ∈ sinkIds
  · simp [hsink, InSelectiveBand]
  · rw [if_neg hsink, ladder_selective_eq_offloadCpu_iff]
    simp [hsink, InSelectiveBand]

theorem highDecision_eq_offloadCpu_iff (cfg : PolicyConfig) (sinkIds hhIds : List Int)
    (x : BlockState × ℚ) :
    (HybridAdaptivePolicy.highDecision cfg sinkIds hhIds x).decision = .offloadCpu ↔
      InAggressiveBand cfg sinkIds hhIds x := by
  rw [HybridAdaptivePolicy.decision_highDecision]
  by_cases hkeep : x.1.blockId ∈ sinkIds ∨ x.1.blockId ∈ hhIds
  · rw [if_pos hkeep]
    rcases hkeep with hsink | hhh
    · simp [hsink, InAggressiveBand]
    · simp [hhh, InAggressiveBand]
  · rw [if_neg hkeep, ladder_aggressive_eq_offloadCpu_iff]
    simp [not_or.mp hkeep, InAggressiveBand]

theorem verdict_eq_offloadCpu_iff (offloadSet : List Int) (x : BlockState × ℚ) :
    (OffloadOnlyPolicy.verdict offloadSet x).decision = .offloadCpu ↔
      x.1.blockId ∈ offloadSet := by
  rw [OffloadOnlyPolicy.decision_verdict]
  split <;> simp_all

/-- Counting offloads in a list of verdicts is counting the blocks whose
verdict is to offload. -/
theorem offloadCount_map {α : Type} (l : List α) (g : α → PolicyDecision) {P : α → Prop}
    [DecidablePred P] (h : ∀ a ∈ l, (g a).decision = .offloadCpu ↔ P a) :
    offloadCount (l.map g) = l.countP (fun a => decide (P a)) := by
  rw [offloadCount, List.countP_map]
  refine List.countP_congr ?_
  intro a ha
  simpa using h a ha

@[simp] theorem offloadCount_keepAll (blocks : List BlockState) :
    offloadCount (keepAll blocks) = 0 := by
  simp [offloadCount, keepAll, List.countP_eq_zero]

/-! ## The counts of the three policies -/

theorem offloadCount_hybrid [Numerics] (p : HybridAdaptivePolicy) (blocks : List BlockState)
    (m : SystemMetrics) :
    offloadCount (PolicyInterface.decide p blocks m).1 =
      hybridBandCount p.config blocks (p.scoreAll blocks m) m.pressure := by
  change offloadCount (p.decisions blocks m) = _
  rw [HybridAdaptivePolicy.decisions, hybridBandCount]
  split
  · exact offloadCount_keepAll blocks
  · split
    · refine offloadCount_map _ _ (fun x _ => ?_)
      rw [HybridAdaptivePolicy.decision_mediumDecision_eq_blockDecision]
      exact blockDecision_eq_offloadCpu_iff _ _ x
    · exact offloadCount_map _ _ (fun x _ => highDecision_eq_offloadCpu_iff _ _ _ x)

theorem offloadCount_learned [Numerics] {p : LearnedPolicy} (hready : p.isReady = true)
    (blocks : List BlockState) (m : SystemMetrics) :
    offloadCount (PolicyInterface.decide p blocks m).1 =
      learnedBandCount p.config blocks (p.scoreBlocks blocks m) m.pressure := by
  have hdecide : (PolicyInterface.decide p blocks m).1 = p.decisions blocks m := by
    simp only [PolicyInterface.decide, hready]
    rfl
  rw [hdecide, LearnedPolicy.decisions, learnedBandCount]
  split
  · exact offloadCount_keepAll blocks
  · exact offloadCount_map _ _ (fun x _ => blockDecision_eq_offloadCpu_iff _ _ x)

/-- What the scan takes: the first eligible blocks, up to the cap. -/
def OffloadOnlyPolicy.taken (cfg : PolicyConfig) (blocks : List BlockState) :
    List (BlockState × ℚ) :=
  ((OffloadOnlyPolicy.scored blocks).filter
    (OffloadOnlyPolicy.eligible cfg (leadingIds blocks cfg.sinkTokenBlocks))).take
    (maxOffload cfg blocks).toNat

theorem OffloadOnlyPolicy.taken_sublist (cfg : PolicyConfig) (blocks : List BlockState) :
    (OffloadOnlyPolicy.taken cfg blocks).Sublist (OffloadOnlyPolicy.scored blocks) :=
  (List.take_sublist _ _).trans List.filter_sublist

/-- The scan offloads what it takes. -/
theorem offloadCount_taken (cfg : PolicyConfig) {blocks : List BlockState}
    (hids : (blocks.map (·.blockId)).Nodup) :
    offloadCount ((OffloadOnlyPolicy.scored blocks).map
        (OffloadOnlyPolicy.verdict (OffloadOnlyPolicy.offloadSet cfg blocks))) =
      (OffloadOnlyPolicy.taken cfg blocks).length := by
  have hset : OffloadOnlyPolicy.offloadSet cfg blocks =
      (OffloadOnlyPolicy.taken cfg blocks).map (fun x => x.1.blockId) :=
    OffloadOnlyPolicy.offloadSet_eq cfg blocks
  rw [offloadCount_map _ _ (fun x _ => verdict_eq_offloadCpu_iff _ x), hset,
    countP_name_mem (OffloadOnlyPolicy.nodup_scored_ids hids)
      (OffloadOnlyPolicy.taken_sublist cfg blocks)]

/-- The counter bounds what is offloaded. -/
theorem offloadCount_offloadOnly_le (p : OffloadOnlyPolicy) {blocks : List BlockState}
    (hids : (blocks.map (·.blockId)).Nodup) (m : SystemMetrics) :
    offloadCount (PolicyInterface.decide p blocks m).1 ≤
      (maxOffload p.config blocks).toNat := by
  change offloadCount (OffloadOnlyPolicy.decisions p.config blocks m) ≤ _
  rw [OffloadOnlyPolicy.decisions]
  split
  · simp
  · rw [offloadCount_taken p.config hids]
    exact List.length_take_le _ _

/-- **When the offload cap is respected.**

`OffloadOnlyPolicy` respects it whenever it is not negative; the other two
exactly when no more scores lie in their offload band than the cap allows. -/
theorem offload_cap_iff [Numerics] {blocks : List BlockState}
    (hids : (blocks.map (·.blockId)).Nodup) (m : SystemMetrics) :
    (∀ p : OffloadOnlyPolicy,
      (offloadCount (PolicyInterface.decide p blocks m).1 : Int) ≤ maxOffload p.config blocks ↔
        0 ≤ maxOffload p.config blocks) ∧
    (∀ p : HybridAdaptivePolicy,
      (offloadCount (PolicyInterface.decide p blocks m).1 : Int) ≤ maxOffload p.config blocks ↔
        (hybridBandCount p.config blocks (p.scoreAll blocks m) m.pressure : Int) ≤
          maxOffload p.config blocks) ∧
    (∀ p : LearnedPolicy, p.isReady = true →
      ((offloadCount (PolicyInterface.decide p blocks m).1 : Int) ≤ maxOffload p.config blocks ↔
        (learnedBandCount p.config blocks (p.scoreBlocks blocks m) m.pressure : Int) ≤
          maxOffload p.config blocks)) := by
  refine ⟨?_, ?_, ?_⟩
  · intro p
    have hle := offloadCount_offloadOnly_le p hids m
    omega
  · intro p
    rw [offloadCount_hybrid]
  · intro p hready
    rw [offloadCount_learned hready]

/-- Three equal blocks, last used at step 2 of 8. -/
def equalBlocks : List BlockState :=
  [1, 2, 3].map (fun i =>
    { blockId := i
      layerId := 0
      headGroup := 0
      requestId := "r"
      lastAccessStep := 2 })

theorem offload_cap_iff_offload_only :
    (offloadCount (OffloadOnlyPolicy.decisions { sinkTokenBlocks := 0 } equalBlocks
      (metricsAt 7 3)) : Int) ≤ maxOffload { sinkTokenBlocks := 0 } equalBlocks :=
  ((@offload_cap_iff lineNumerics.toNumerics equalBlocks (by decide) (metricsAt 7 3)).1
    ⟨{ config := { sinkTokenBlocks := 0 } }⟩).mpr (by decide +kernel)

/-- All three blocks score 0.1, in the offload band of the default thresholds;
the default cap for three blocks is one. -/
theorem offload_cap_fails :
    maxOffload hybridWithoutSinks.config equalBlocks = 1 ∧
      offloadCount (@HybridAdaptivePolicy.decisions lineNumerics.toNumerics hybridWithoutSinks
        equalBlocks (metricsAt 7 3)) = 3 ∧
      ¬(offloadCount (@HybridAdaptivePolicy.decisions lineNumerics.toNumerics
        hybridWithoutSinks equalBlocks (metricsAt 7 3)) : Int) ≤
          maxOffload hybridWithoutSinks.config equalBlocks := by
  decide +kernel

end KVOrchestrator.Ports
