import KVOrchestrator.Ports.DecisionOrder

/-!
# The regimes of the hybrid controller compared

On one batch and one set of scores, rising pressure moves a block down from
tier to tier, with one designed exception: the aggressive regime keeps its
heavy hitters, a share relative to the batch, at full precision even where
their score is too low for the selective regime to keep them.  A second
exception needs a negative offload threshold, whose half lies above it.
`pressure_monotone_iff` says exactly when a block is moved up.
-/

namespace KVOrchestrator.Ports

open KVOrchestrator.Verified

/-- The same metrics with another GPU memory reading. -/
def SystemMetrics.withGpuMem (m : SystemMetrics) (used free : Option ℚ) : SystemMetrics :=
  { m with
    gpuMemUsedMb := used
    gpuMemFreeMb := free }

namespace HybridAdaptivePolicy

/-- The scores do not read the GPU memory. -/
theorem scoreAll_withGpuMem [Numerics] (p : HybridAdaptivePolicy) (blocks : List BlockState)
    (m : SystemMetrics) (used free : Option ℚ) :
    p.scoreAll blocks (m.withGpuMem used free) = p.scoreAll blocks m := rfl

/-- The decision on a scored block, by regime. -/
theorem decisionOf_decide [Numerics] (p : HybridAdaptivePolicy) {blocks : List BlockState}
    (hids : (blocks.map (·.blockId)).Nodup) (m : SystemMetrics) {x : BlockState × ℚ}
    (hx : x ∈ blocks.zip (p.scoreAll blocks m)) :
    decisionOf (PolicyInterface.decide p blocks m).1 x.1.blockId =
      some
        (if m.pressure < p.config.memoryPressureLow then .keepGpu
        else if m.pressure < p.config.memoryPressureHigh then
          (mediumDecision p.config (sinkIds p.config blocks) x).decision
        else
          (highDecision p.config (sinkIds p.config blocks)
            (hhIds p.config blocks (p.scoreAll blocks m)) x).decision) := by
  change decisionOf (p.decisions blocks m) x.1.blockId = _
  rw [decisions]
  split
  · exact decisionOf_map hids _ (fun _ _ => rfl) (List.of_mem_zip hx).1
  · split
    · exact decisionOf_map (nodup_zip_map_fst hids _) _
        (fun y _ => blockId_mediumDecision _ _ y) hx
    · exact decisionOf_map (nodup_zip_map_fst hids _) _
        (fun y _ => blockId_highDecision _ _ _ y) hx

/-! ## The two ladders on one score -/

theorem ladder_selectiveRungs (cfg : PolicyConfig) (s : ℚ) :
    ladder .evict s (selectiveRungs cfg) =
      if cfg.quantizationMinImportance ≤ s then BlockDecision.keepGpu
      else if cfg.quantizationEnabled = true ∧ cfg.offloadThresholdScore ≤ s then .quantize
      else if cfg.offloadEnabled = true ∧ cfg.offloadThresholdScore * (5 / 10) ≤ s then
        .offloadCpu
      else .evict := by
  simp only [ladder, selectiveRungs, Rung.reached]
  grind

theorem ladder_aggressiveRungs (cfg : PolicyConfig) (s : ℚ) :
    ladder .evict s (aggressiveRungs cfg) =
      if cfg.quantizationEnabled = true ∧ cfg.quantizationMinImportance ≤ s then
        BlockDecision.quantize
      else if cfg.offloadEnabled = true ∧ cfg.offloadThresholdScore ≤ s then .offloadCpu
      else .evict := by
  simp only [ladder, aggressiveRungs, Rung.reached]

/-- The selective ladder keeps exactly the scores from the top threshold on. -/
theorem ladder_selective_lt_keepGpu_iff (cfg : PolicyConfig) (s : ℚ) :
    ladder BlockDecision.evict s (selectiveRungs cfg) < .keepGpu ↔
      s < cfg.quantizationMinImportance := by
  rw [ladder_selectiveRungs]
  by_cases hq : cfg.quantizationMinImportance ≤ s
  · simp [hq]
  · have hlt : s < cfg.quantizationMinImportance := lt_of_not_ge hq
    simp only [hlt, iff_true, if_neg hq]
    split
    · decide
    · split <;> decide

/-- The aggressive ladder grades a score above the selective one only between
a negative threshold and its half. -/
theorem ladder_selective_lt_aggressive_iff (cfg : PolicyConfig) (s : ℚ) :
    ladder BlockDecision.evict s (selectiveRungs cfg) <
        ladder .evict s (aggressiveRungs cfg) ↔
      cfg.quantizationEnabled = false ∧ cfg.offloadEnabled = true ∧
        s < cfg.quantizationMinImportance ∧ cfg.offloadThresholdScore ≤ s ∧
        s < cfg.offloadThresholdScore * (5 / 10) := by
  rw [ladder_selectiveRungs, ladder_aggressiveRungs]
  by_cases hq : cfg.quantizationMinImportance ≤ s
  · -- the selective ladder is at its top
    rw [if_pos hq]
    have htop := BlockDecision.le_keepGpu
    simp [not_lt_of_ge hq, not_lt_of_ge (htop _)]
  · have hlt : s < cfg.quantizationMinImportance := lt_of_not_ge hq
    have hquantize : ¬(cfg.quantizationEnabled = true ∧ cfg.quantizationMinImportance ≤ s) :=
      fun h => hq h.2
    rw [if_neg hq, if_neg hquantize]
    by_cases hoff : cfg.offloadThresholdScore ≤ s
    · by_cases hhalf : cfg.offloadThresholdScore * (5 / 10) ≤ s
      · cases hquant : cfg.quantizationEnabled <;> cases hen : cfg.offloadEnabled <;>
          simp [hoff, hhalf, not_lt_of_ge hhalf, BlockDecision.lt_iff_rank,
            BlockDecision.rank]
      · have hhalf' : s < cfg.offloadThresholdScore * (5 / 10) := lt_of_not_ge hhalf
        cases hquant : cfg.quantizationEnabled <;> cases hen : cfg.offloadEnabled <;>
          simp [hoff, hhalf, hlt, hhalf', BlockDecision.lt_iff_rank, BlockDecision.rank]
    · -- the aggressive ladder is at its bottom
      have hbot := BlockDecision.evict_le
      simp [hoff, not_lt_of_ge (hbot _)]

/-- When the aggressive verdict on a block is above the selective one. -/
theorem mediumDecision_lt_highDecision_iff (cfg : PolicyConfig) (sinkIds hhIds : List Int)
    (x : BlockState × ℚ) :
    (mediumDecision cfg sinkIds x).decision < (highDecision cfg sinkIds hhIds x).decision ↔
      x.1.blockId ∉ sinkIds ∧
        ((x.1.blockId ∈ hhIds ∧ x.2 < cfg.quantizationMinImportance) ∨
          (x.1.blockId ∉ hhIds ∧ cfg.quantizationEnabled = false ∧
            cfg.offloadEnabled = true ∧ x.2 < cfg.quantizationMinImportance ∧
            cfg.offloadThresholdScore ≤ x.2 ∧ x.2 < cfg.offloadThresholdScore * (5 / 10))) := by
  rw [decision_mediumDecision, decision_highDecision]
  by_cases hsink : x.1.blockId ∈ sinkIds
  · simp [hsink]
  · by_cases hhh : x.1.blockId ∈ hhIds
    · simp only [hsink, hhh, if_false, or_true, if_true, ladder_selective_lt_keepGpu_iff]
      simp
    · simp only [hsink, hhh, if_false, or_false, ladder_selective_lt_aggressive_iff]
      simp

end HybridAdaptivePolicy

open HybridAdaptivePolicy in
/-- **Where more pressure moves a block up.**

Take one batch and two metrics that agree except on the GPU memory, the second
of no less pressure.  A block gets a higher tier under the second if and only
if the two pressures lie in the selective and the aggressive regime, the block
is no sink, and it is a heavy hitter the selective regime would not keep, or
else quantisation is off and the score lies between a negative offload
threshold and its half. -/
theorem pressure_monotone_iff [Numerics] (p : HybridAdaptivePolicy)
    {blocks : List BlockState} (hids : (blocks.map (·.blockId)).Nodup) (m : SystemMetrics)
    (used₁ free₁ used₂ free₂ : Option ℚ)
    (hle : (m.withGpuMem used₁ free₁).pressure ≤ (m.withGpuMem used₂ free₂).pressure)
    {x : BlockState × ℚ} (hx : x ∈ blocks.zip (p.scoreAll blocks m)) :
    ∃ d₁ d₂,
      decisionOf (PolicyInterface.decide p blocks (m.withGpuMem used₁ free₁)).1 x.1.blockId =
          some d₁ ∧
        decisionOf (PolicyInterface.decide p blocks (m.withGpuMem used₂ free₂)).1 x.1.blockId =
          some d₂ ∧
        (d₁ < d₂ ↔
          (p.config.memoryPressureLow ≤ (m.withGpuMem used₁ free₁).pressure ∧
            (m.withGpuMem used₁ free₁).pressure < p.config.memoryPressureHigh ∧
            p.config.memoryPressureHigh ≤ (m.withGpuMem used₂ free₂).pressure) ∧
          x.1.blockId ∉ sinkIds p.config blocks ∧
          ((x.1.blockId ∈ hhIds p.config blocks (p.scoreAll blocks m) ∧
              x.2 < p.config.quantizationMinImportance) ∨
            (x.1.blockId ∉ hhIds p.config blocks (p.scoreAll blocks m) ∧
              p.config.quantizationEnabled = false ∧ p.config.offloadEnabled = true ∧
              x.2 < p.config.quantizationMinImportance ∧
              p.config.offloadThresholdScore ≤ x.2 ∧
              x.2 < p.config.offloadThresholdScore * (5 / 10)))) := by
  have h₁ := p.decisionOf_decide hids (m.withGpuMem used₁ free₁) (x := x)
    (by rwa [scoreAll_withGpuMem])
  have h₂ := p.decisionOf_decide hids (m.withGpuMem used₂ free₂) (x := x)
    (by rwa [scoreAll_withGpuMem])
  rw [scoreAll_withGpuMem] at h₁ h₂
  refine ⟨_, _, h₁, h₂, ?_⟩
  rw [← mediumDecision_lt_highDecision_iff]
  generalize (m.withGpuMem used₁ free₁).pressure = p₁ at hle ⊢
  generalize (m.withGpuMem used₂ free₂).pressure = p₂ at hle ⊢
  by_cases hlow₁ : p₁ < p.config.memoryPressureLow
  · -- everything is kept at the lower pressure
    rw [if_pos hlow₁]
    simp [not_lt_of_ge (BlockDecision.le_keepGpu _), not_le_of_gt hlow₁]
  · have hlow₂ : ¬p₂ < p.config.memoryPressureLow := fun h => hlow₁ (lt_of_le_of_lt hle h)
    rw [if_neg hlow₁, if_neg hlow₂]
    by_cases hhigh₁ : p₁ < p.config.memoryPressureHigh
    · by_cases hhigh₂ : p₂ < p.config.memoryPressureHigh
      · rw [if_pos hhigh₁, if_pos hhigh₂]
        simp [not_le_of_gt hhigh₂]
      · rw [if_pos hhigh₁, if_neg hhigh₂]
        simp [le_of_not_gt hlow₁, hhigh₁, le_of_not_gt hhigh₂]
    · have hhigh₂ : ¬p₂ < p.config.memoryPressureHigh := fun h =>
        hhigh₁ (lt_of_le_of_lt hle h)
      rw [if_neg hhigh₁, if_neg hhigh₂]
      simp [hhigh₁]

/-- A lone block without any signal is the heavy hitter of its batch. -/
def loneBlock : List BlockState :=
  [ { blockId := 1
      layerId := 0
      headGroup := 0
      requestId := "r" } ]

theorem pressure_monotone_iff_lone :
    ∃ d₁ d₂,
      decisionOf (@HybridAdaptivePolicy.decisions lineNumerics.toNumerics hybridWithoutSinks
          loneBlock (metricsAt 7 3)) 1 = some d₁ ∧
        decisionOf (@HybridAdaptivePolicy.decisions lineNumerics.toNumerics hybridWithoutSinks
          loneBlock (metricsAt 9 1)) 1 = some d₂ ∧ d₁ < d₂ := by
  obtain ⟨d₁, d₂, h₁, h₂, hiff⟩ := @pressure_monotone_iff lineNumerics.toNumerics
    hybridWithoutSinks loneBlock (by decide) (metricsAt 0 0)
    (some 7) (some 3) (some 9) (some 1) (by decide +kernel)
    ({ blockId := 1, layerId := 0, headGroup := 0, requestId := "r" }, 0) (by decide +kernel)
  exact ⟨d₁, d₂, h₁, h₂, hiff.mpr (by decide +kernel)⟩

/-- The lone block is evicted at pressure 0.7 and kept on the GPU at pressure
0.9. -/
theorem pressure_monotone_fails :
    (metricsAt 7 3).pressure ≤ (metricsAt 9 1).pressure ∧
      decisionOf (@HybridAdaptivePolicy.decisions lineNumerics.toNumerics hybridWithoutSinks
        loneBlock (metricsAt 7 3)) 1 = some .evict ∧
      decisionOf (@HybridAdaptivePolicy.decisions lineNumerics.toNumerics hybridWithoutSinks
        loneBlock (metricsAt 9 1)) 1 = some .keepGpu ∧
      BlockDecision.evict < .keepGpu := by
  decide +kernel

end KVOrchestrator.Ports
