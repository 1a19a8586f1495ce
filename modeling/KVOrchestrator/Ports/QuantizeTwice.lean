import KVOrchestrator.Ports.TrackerUpdates
import KVOrchestrator.Ports.BuiltinPolicy
import KVOrchestrator.Ports.PressureFeedback

/-!
# Quantising twice

`QuantizeOnlyPolicy` answers `KEEP_GPU` for a block that is quantised already,
meaning that it is to stay as it is.  The engine reads `KEEP_GPU` as the FP16
tier.  So a cycle quantises the blocks of low attention that were not quantised
before and takes every other block, the quantised ones included, to FP16
(`getAllBlocks_cycle_quantizeOnly`), and the next cycle does the opposite.

`quantize_twice_iff` says for which trackers two cycles nevertheless agree with
one: those in which there is nothing to quantise.
-/

namespace KVOrchestrator.Ports

open KVOrchestrator.Verified

/-! ## What one cycle does -/

/-- A block the policy would quantise if it were not quantised already: no
sink, and of low relative attention. -/
def LowAttention (cfg : PolicyConfig) (blocks : List BlockState) (b : BlockState) : Prop :=
  b.blockId ∉ leadingIds blocks cfg.sinkTokenBlocks ∧
    normAttention (maxAvgAttention blocks) b < cfg.quantizationMinImportance

instance (cfg : PolicyConfig) (blocks : List BlockState) (b : BlockState) :
    Decidable (LowAttention cfg blocks b) := by
  unfold LowAttention
  infer_instance

/-- A block the next cycle quantises. -/
def Quantises (cfg : PolicyConfig) (t : BlockTracker) (b : BlockState) : Prop :=
  cfg.memoryPressureLow ≤ (systemMetrics t).pressure ∧ b.currentTier ≠ .gpuQuantized ∧
    LowAttention cfg t.getAllBlocks b

instance (cfg : PolicyConfig) (t : BlockTracker) (b : BlockState) :
    Decidable (Quantises cfg t b) := by
  unfold Quantises
  infer_instance

/-- The tier a cycle leaves a block in. -/
def tierAfterQuantise (cfg : PolicyConfig) (t : BlockTracker) (b : BlockState) : BlockTier :=
  if Quantises cfg t b then .gpuQuantized else .gpuFp16

/-- The verdict on each block, with the decision spelled out. -/
theorem quantizeOnly_decisions_eq {cfg : PolicyConfig} (henabled : cfg.quantizationEnabled = true)
    (t : BlockTracker) :
    ∃ verdict : BlockState → PolicyDecision,
      QuantizeOnlyPolicy.decisions cfg t.getAllBlocks (systemMetrics t) =
        t.getAllBlocks.map verdict ∧
      (∀ b, (verdict b).blockId = b.blockId) ∧
      ∀ b, (verdict b).decision = if Quantises cfg t b then .quantize else .keepGpu := by
  by_cases hlow : (systemMetrics t).pressure < cfg.memoryPressureLow
  · refine ⟨_, if_pos (.inr hlow), fun b => rfl, fun b => ?_⟩
    have hnone : ¬Quantises cfg t b := fun h => absurd h.1 (not_le_of_gt hlow)
    rw [if_neg hnone]
  · have hguard : ¬(cfg.quantizationEnabled = false ∨
        (systemMetrics t).pressure < cfg.memoryPressureLow) := by
      intro hguard
      rcases hguard with hoff | h
      · rw [henabled] at hoff
        cases hoff
      · exact hlow h
    refine ⟨_, if_neg hguard, fun b => ?_, fun b => ?_⟩
    · by_cases hkept : b.blockId ∈ leadingIds t.getAllBlocks cfg.sinkTokenBlocks ∨
          b.currentTier = .gpuQuantized
      · rw [if_pos hkept]
      · simp only [if_neg hkept]
        split <;> rfl
    · by_cases hkept : b.blockId ∈ leadingIds t.getAllBlocks cfg.sinkTokenBlocks ∨
          b.currentTier = .gpuQuantized
      · have hnone : ¬Quantises cfg t b := by
          intro hquantises
          obtain ⟨_, htier, hsink, _⟩ := hquantises
          exact hkept.elim hsink htier
        rw [if_pos hkept, if_neg hnone]
      · rw [not_or] at hkept
        have hiff : Quantises cfg t b ↔ normAttention (maxAvgAttention t.getAllBlocks) b <
            cfg.quantizationMinImportance :=
          ⟨fun h => h.2.2.2, fun h => ⟨not_lt.mp hlow, hkept.2, hkept.1, h⟩⟩
        rw [if_neg (not_or.mpr hkept)]
        simp only [hiff]
        split <;> rfl

/-- **One cycle**: the blocks that are quantised, and all others in FP16. -/
theorem getAllBlocks_cycle_quantizeOnly {e : PolicyEngine QuantizeOnlyPolicy}
    (henabled : e.policy.config.quantizationEnabled = true) :
    ∃ score : BlockState → ℚ,
      e.cycle.blockTracker.getAllBlocks = e.blockTracker.getAllBlocks.map (fun b => { b with
        currentTier := tierAfterQuantise e.policy.config e.blockTracker b
        importanceScore := score b }) := by
  obtain ⟨verdict, hlist, hids, hdecision⟩ := quantizeOnly_decisions_eq henabled e.blockTracker
  have hcycle : e.cycleDecisions = e.blockTracker.getAllBlocks.map verdict :=
    PolicyEngine.cycleDecisions_eq_map hlist
  refine ⟨fun b => (verdict b).score, ?_⟩
  rw [e.blockTracker_cycle, hcycle,
    getAllBlocks_applyDecisions_map _ (fun b _ => hids b), ← List.filterMap_eq_map]
  apply List.filterMap_congr
  intro b _
  simp only [PolicyDecision.outcome, hdecision, tierAfterQuantise, Function.comp]
  split <;> rfl

theorem policy_cycle_quantizeOnly (e : PolicyEngine QuantizeOnlyPolicy) :
    e.cycle.policy.config = e.policy.config := by
  have hkeep : ∀ (p : QuantizeOnlyPolicy) blocks m, p.config = e.policy.config →
      (PolicyInterface.decide p blocks m).2.config = e.policy.config := fun _ _ _ hp => hp
  exact PolicyEngine.policy_cycle_of_decide hkeep rfl

/-! ## What the second cycle sees -/

/-- Rewriting blocks under their ids and averages keeps the attention order. -/
theorem lowAttention_map {ρ : BlockState → BlockState} (hid : ∀ b, (ρ b).blockId = b.blockId)
    (hattn : KeepsAttention ρ) (cfg : PolicyConfig) (blocks : List BlockState) (b : BlockState) :
    LowAttention cfg (blocks.map ρ) (ρ b) ↔ LowAttention cfg blocks b := by
  have hnorm : normAttention (maxAvgAttention blocks) (ρ b) =
      normAttention (maxAvgAttention blocks) b := by
    rw [normAttention, normAttention, hattn b]
  rw [LowAttention, LowAttention, leadingIds_map hid, maxAvgAttention_map hattn, hnorm, hid b]

theorem gpuWeight_tierAfterQuantise (cfg : PolicyConfig) (t : BlockTracker) (b : BlockState) :
    0 < (tierAfterQuantise cfg t b).gpuWeight := by
  unfold tierAfterQuantise
  split <;> decide

theorem tierAfterQuantise_eq_gpuQuantized_iff (cfg : PolicyConfig) (t : BlockTracker)
    (b : BlockState) : tierAfterQuantise cfg t b = .gpuQuantized ↔ Quantises cfg t b := by
  unfold tierAfterQuantise
  split
  · rename_i h
    exact ⟨fun _ => h, fun _ => rfl⟩
  · rename_i h
    exact ⟨fun htier => absurd htier (by decide), fun hq => absurd hq h⟩

section TwoCycles

variable {cfg : PolicyConfig} {t t' : BlockTracker} {ρ : BlockState → BlockState}

/-- In a tracker rewritten by a first cycle, the second one quantises the
blocks of low attention the first one did not quantise. -/
theorem quantises_second_iff (hblocks : t'.getAllBlocks = t.getAllBlocks.map ρ)
    (hid : ∀ b, (ρ b).blockId = b.blockId) (hattn : KeepsAttention ρ)
    (htier : ∀ b, (ρ b).currentTier = tierAfterQuantise cfg t b) (b : BlockState) :
    Quantises cfg t' (ρ b) ↔
      cfg.memoryPressureLow ≤ (systemMetrics t').pressure ∧ ¬Quantises cfg t b ∧
        LowAttention cfg t.getAllBlocks b := by
  rw [Quantises, hblocks, lowAttention_map hid hattn, htier, Ne,
    tierAfterQuantise_eq_gpuQuantized_iff]

/-- Neither cycle quantises anything exactly when there is no block of low
attention, or the pressure stays under the threshold for lack of bytes. -/
theorem forall_not_quantises_iff (hlow : cfg.memoryPressureLow ≤ 1)
    (hblocks : t'.getAllBlocks = t.getAllBlocks.map ρ)
    (hbytes : t'.blockBytesInt8 = t.blockBytesInt8)
    (hid : ∀ b, (ρ b).blockId = b.blockId) (hattn : KeepsAttention ρ)
    (htier : ∀ b, (ρ b).currentTier = tierAfterQuantise cfg t b) :
    (∀ b ∈ t.getAllBlocks, ¬Quantises cfg t b ∧ ¬Quantises cfg t' (ρ b)) ↔
      (∀ b ∈ t.getAllBlocks, ¬LowAttention cfg t.getAllBlocks b) ∨
        (t.blockBytesInt8 = 0 ∧ 0 < cfg.memoryPressureLow) := by
  have hgpu : ∀ b ∈ t'.getAllBlocks, 0 < b.currentTier.gpuWeight := by
    intro b' hb'
    rw [hblocks] at hb'
    obtain ⟨b, _, rfl⟩ := List.mem_map.mp hb'
    rw [htier b]
    exact gpuWeight_tierAfterQuantise cfg t b
  have hpressure : ∀ b ∈ t.getAllBlocks,
      (systemMetrics t').pressure = if t.blockBytesInt8 = 0 then 0 else 1 := by
    intro b hb
    have hb' : ρ b ∈ t'.getAllBlocks := by
      rw [hblocks]
      exact List.mem_map_of_mem hb
    rw [← hbytes]
    exact pressure_of_onGpu hgpu hb'
  have hsecond := quantises_second_iff hblocks hid hattn htier
  constructor
  · intro hnone
    by_contra hcond
    rw [not_or] at hcond
    obtain ⟨hexists, hsize⟩ := hcond
    apply hexists
    intro b hb hlowattn
    have hactive : cfg.memoryPressureLow ≤ (systemMetrics t').pressure := by
      rw [hpressure b hb]
      split
      · rename_i hzero
        exact not_lt.mp (fun hpos => hsize ⟨hzero, hpos⟩)
      · exact hlow
    obtain ⟨hfirst, hthen⟩ := hnone b hb
    exact hthen ((hsecond b).mpr ⟨hactive, hfirst, hlowattn⟩)
  · intro hcond b hb
    rcases hcond with hnolow | ⟨hzero, hpos⟩
    · exact ⟨fun h => hnolow b hb h.2.2, fun h => hnolow b hb ((hsecond b).mp h).2.2⟩
    · have hquiet : (systemMetrics t').pressure = 0 := by
        rw [hpressure b hb, if_pos hzero]
      have hbefore := pressure_of_bytes_zero hzero
      constructor
      · intro h
        have := h.1
        rw [hbefore] at this
        exact absurd hpos (not_lt_of_ge this)
      · intro h
        have := h.1
        rw [hquiet] at this
        exact absurd hpos (not_lt_of_ge this)

/-- The tier map of a rewritten tracker. -/
theorem tierMap_of_map (hblocks : t'.getAllBlocks = t.getAllBlocks.map ρ)
    (hid : ∀ b, (ρ b).blockId = b.blockId)
    {tier : BlockState → BlockTier} (htier : ∀ b, (ρ b).currentTier = tier b) :
    t'.tierMap = t.getAllBlocks.map (fun b => (b.blockId, tier b)) := by
  rw [BlockTracker.tierMap, hblocks, List.map_map]
  refine List.map_congr_left (fun b _ => ?_)
  show ((ρ b).blockId, (ρ b).currentTier) = (b.blockId, tier b)
  rw [hid b, htier b]

/-- Where one map says the block of an id is quantised, that block is. -/
theorem mem_map_gpuQuantized_iff {tier : BlockState → BlockTier} {b : BlockState}
    (hb : b ∈ t.getAllBlocks) :
    (b.blockId, BlockTier.gpuQuantized) ∈ t.getAllBlocks.map (fun b => (b.blockId, tier b)) ↔
      tier b = .gpuQuantized := by
  rw [List.mem_map]
  constructor
  · intro hex
    obtain ⟨b', hb', heq⟩ := hex
    rw [Prod.mk.injEq] at heq
    rw [← eq_of_name_eq t.nodup_blockIds hb' hb heq.1]
    exact heq.2
  · intro h
    exact ⟨b, hb, by rw [h]⟩

section Alternating

variable (halternate : ∀ b, Quantises cfg t b → ¬Quantises cfg t' (ρ b))

include halternate

/-- What the first cycle quantises stays quantised exactly if it quantises
nothing. -/
theorem quantised_stay_iff :
    (∀ i, (i, BlockTier.gpuQuantized) ∈
        t.getAllBlocks.map (fun b => (b.blockId, tierAfterQuantise cfg t b)) →
      (i, BlockTier.gpuQuantized) ∈
        t.getAllBlocks.map (fun b => (b.blockId, tierAfterQuantise cfg t' (ρ b)))) ↔
      (systemMetrics t).pressure < cfg.memoryPressureLow ∨
        ∀ b ∈ t.getAllBlocks, b.currentTier ≠ .gpuQuantized →
          ¬LowAttention cfg t.getAllBlocks b := by
  constructor
  · intro hstay
    by_contra hcond
    rw [not_or, not_lt] at hcond
    obtain ⟨hactive, hsome⟩ := hcond
    apply hsome
    intro b hb htierb hlowb
    have hq : Quantises cfg t b := ⟨hactive, htierb, hlowb⟩
    have hone := (mem_map_gpuQuantized_iff hb).mpr
      ((tierAfterQuantise_eq_gpuQuantized_iff cfg t b).mpr hq)
    have htwo := (mem_map_gpuQuantized_iff hb).mp (hstay b.blockId hone)
    exact halternate b hq ((tierAfterQuantise_eq_gpuQuantized_iff _ _ _).mp htwo)
  · intro hcond i hi
    obtain ⟨b, hb, heq⟩ := List.mem_map.mp hi
    rw [Prod.mk.injEq, tierAfterQuantise_eq_gpuQuantized_iff] at heq
    rcases hcond with hlowp | hnone
    · exact absurd heq.2.1 (not_le_of_gt hlowp)
    · exact absurd heq.2.2.2 (hnone b hb heq.2.2.1)

/-- The two cycles leave the same tiers exactly if neither quantises a block. -/
theorem tiers_agree_iff :
    t.getAllBlocks.map (fun b => (b.blockId, tierAfterQuantise cfg t' (ρ b))) =
        t.getAllBlocks.map (fun b => (b.blockId, tierAfterQuantise cfg t b)) ↔
      ∀ b ∈ t.getAllBlocks, ¬Quantises cfg t b ∧ ¬Quantises cfg t' (ρ b) := by
  rw [List.map_inj_left]
  constructor
  · intro hsame b hb
    have heq := hsame b hb
    rw [Prod.mk.injEq] at heq
    have hiff : Quantises cfg t' (ρ b) ↔ Quantises cfg t b := by
      rw [← tierAfterQuantise_eq_gpuQuantized_iff, ← tierAfterQuantise_eq_gpuQuantized_iff,
        heq.2]
    have hfirst : ¬Quantises cfg t b := fun h => halternate b h (hiff.mpr h)
    exact ⟨hfirst, fun h => hfirst (hiff.mp h)⟩
  · intro hnone b hb
    obtain ⟨hfirst, hsecond⟩ := hnone b hb
    rw [tierAfterQuantise, tierAfterQuantise, if_neg hfirst, if_neg hsecond]

end Alternating

end TwoCycles

/-! ## Two cycles against one -/

/-- Two cycles with a rewriting in place between them, block by block. -/
theorem tierMap_two_cycles {e mid : PolicyEngine QuantizeOnlyPolicy}
    (henabled : e.policy.config.quantizationEnabled = true)
    (hpolicy : mid.policy = e.cycle.policy) {σ : BlockState → BlockState} (hσ : InPlace σ)
    (hσattn : KeepsAttention σ)
    (hmid : mid.blockTracker.getAllBlocks = e.cycle.blockTracker.getAllBlocks.map σ) :
    ∃ ρ : BlockState → BlockState,
      mid.blockTracker.getAllBlocks = e.blockTracker.getAllBlocks.map ρ ∧
      (∀ b, (ρ b).blockId = b.blockId) ∧ KeepsAttention ρ ∧
      (∀ b, (ρ b).currentTier = tierAfterQuantise e.policy.config e.blockTracker b) ∧
      e.cycle.blockTracker.tierMap = e.blockTracker.getAllBlocks.map (fun b =>
        (b.blockId, tierAfterQuantise e.policy.config e.blockTracker b)) ∧
      mid.cycle.blockTracker.tierMap = e.blockTracker.getAllBlocks.map (fun b =>
        (b.blockId, tierAfterQuantise e.policy.config mid.blockTracker (ρ b))) := by
  have hcfg : mid.policy.config = e.policy.config := by
    rw [hpolicy]
    exact policy_cycle_quantizeOnly e
  obtain ⟨score, hfirst⟩ := getAllBlocks_cycle_quantizeOnly henabled
  obtain ⟨score', hsecond⟩ :=
    getAllBlocks_cycle_quantizeOnly (e := mid) (by rw [hcfg]; exact henabled)
  rw [hfirst, List.map_map] at hmid
  rw [hcfg, hmid, List.map_map] at hsecond
  refine ⟨_, hmid, fun b => hσ.blockId _, fun b => hσattn _, fun b => hσ.currentTier _,
    ?_, ?_⟩
  · exact tierMap_of_map hfirst (fun _ => rfl) (fun _ => rfl)
  · exact tierMap_of_map hsecond (fun b => hσ.blockId _) (fun _ => rfl)

/-- **When quantised blocks stay quantised.**

Take two cycles with nothing between them but updates that touch neither the
attention statistics nor the set of blocks.  Every block the first cycle leaves
quantised is still quantised after the second one exactly when the first cycle
quantises nothing: the pressure is under the threshold, or no block that is not
quantised already has low attention.  The two cycles leave the tier map of the
first one exactly when no block has low attention, or blocks have no bytes and
the threshold is positive. -/
theorem quantize_twice_iff (e : PolicyEngine QuantizeOnlyPolicy)
    (henabled : e.policy.config.quantizationEnabled = true)
    (hlow : e.policy.config.memoryPressureLow ≤ 1)
    (between : List (EngineOp QuantizeOnlyPolicy)) (hquiet : ∀ op ∈ between, op.IsQuiet) :
    let cfg := e.policy.config
    let t := e.blockTracker
    let first := e.cycle
    let second := (run PolicyEngine.perform first between).cycle
    ((∀ i, (i, BlockTier.gpuQuantized) ∈ first.blockTracker.tierMap →
        (i, BlockTier.gpuQuantized) ∈ second.blockTracker.tierMap) ↔
      (systemMetrics t).pressure < cfg.memoryPressureLow ∨
        ∀ b ∈ t.getAllBlocks, b.currentTier ≠ .gpuQuantized →
          ¬LowAttention cfg t.getAllBlocks b) ∧
    (second.blockTracker.tierMap = first.blockTracker.tierMap ↔
      (∀ b ∈ t.getAllBlocks, ¬LowAttention cfg t.getAllBlocks b) ∨
        (t.blockBytesInt8 = 0 ∧ 0 < cfg.memoryPressureLow)) := by
  intro cfg t first second
  obtain ⟨σ, hσ, hσattn, hbetween, hbytes, hpolicy⟩ :=
    PolicyEngine.getAllBlocks_run first hquiet
  obtain ⟨ρ, hblocks, hid, hattn, htier, hmap₁, hmap₂⟩ :=
    tierMap_two_cycles henabled hpolicy hσ hσattn hbetween
  have hmidBytes : (run PolicyEngine.perform first between).blockTracker.blockBytesInt8 =
      t.blockBytesInt8 := by
    rw [hbytes]
    show e.cycle.blockTracker.blockBytesInt8 = t.blockBytesInt8
    rw [e.blockTracker_cycle, blockBytesInt8_applyDecisions]
  -- what the first cycle quantises, the second one does not
  have halternate : ∀ b, Quantises cfg t b →
      ¬Quantises cfg (run PolicyEngine.perform first between).blockTracker (ρ b) := by
    intro b hfirst hsecond
    exact ((quantises_second_iff hblocks hid hattn htier b).mp hsecond).2.1 hfirst
  show (_ ↔ _) ∧ (_ ↔ _)
  rw [hmap₂, hmap₁, ← forall_not_quantises_iff hlow hblocks hmidBytes hid hattn htier]
  exact ⟨quantised_stay_iff halternate, tiers_agree_iff halternate⟩

/-- Five registered blocks of one request, none of them with attention
statistics: one more than there are sinks. -/
def fiveBlocks : BlockTracker :=
  [3, 4, 5].foldl (fun t i => t.registerBlock i 0 0 "r") twoBlocks

/-- Quantisation of five blocks under the default configuration. -/
def quantizeEngine : PolicyEngine QuantizeOnlyPolicy where
  policy := ⟨{ config := {} }⟩
  blockTracker := fiveBlocks

/-- The fifth block is no sink and has low attention, so that both properties
fail, whatever is accessed in between. -/
theorem quantize_twice_iff_five_blocks :
    ¬((systemMetrics quantizeEngine.blockTracker).pressure <
          quantizeEngine.policy.config.memoryPressureLow ∨
        ∀ b ∈ quantizeEngine.blockTracker.getAllBlocks, b.currentTier ≠ .gpuQuantized →
          ¬LowAttention quantizeEngine.policy.config
            quantizeEngine.blockTracker.getAllBlocks b) ∧
      ¬∀ i, (i, BlockTier.gpuQuantized) ∈ quantizeEngine.cycle.blockTracker.tierMap →
        (i, BlockTier.gpuQuantized) ∈
          (run PolicyEngine.perform quantizeEngine.cycle
            [.markAccessed 5 1]).cycle.blockTracker.tierMap := by
  have hiff := (quantize_twice_iff quantizeEngine (by decide +kernel) (by decide +kernel)
    [.markAccessed 5 1] (by simp [EngineOp.IsQuiet, EngineOp.IsUpdate])).1
  have hcond : ¬((systemMetrics quantizeEngine.blockTracker).pressure <
        quantizeEngine.policy.config.memoryPressureLow ∨
      ∀ b ∈ quantizeEngine.blockTracker.getAllBlocks, b.currentTier ≠ .gpuQuantized →
        ¬LowAttention quantizeEngine.policy.config
          quantizeEngine.blockTracker.getAllBlocks b) := by
    decide +kernel
  exact ⟨hcond, fun h => hcond (hiff.mp h)⟩

/-- The first cycle quantises the fifth block and the second one, right after
it, takes it back to FP16. -/
theorem quantize_twice_fails :
    quantizeEngine.policy.config.quantizationEnabled = true ∧
      quantizeEngine.policy.config.memoryPressureLow ≤ 1 ∧
      (5, BlockTier.gpuQuantized) ∈ quantizeEngine.cycle.blockTracker.tierMap ∧
      (5, BlockTier.gpuFp16) ∈ quantizeEngine.cycle.cycle.blockTracker.tierMap ∧
      ¬(∀ i, (i, BlockTier.gpuQuantized) ∈ quantizeEngine.cycle.blockTracker.tierMap →
        (i, BlockTier.gpuQuantized) ∈ quantizeEngine.cycle.cycle.blockTracker.tierMap) ∧
      quantizeEngine.cycle.cycle.blockTracker.tierMap ≠
        quantizeEngine.cycle.blockTracker.tierMap := by
  have hone : (5, BlockTier.gpuQuantized) ∈ quantizeEngine.cycle.blockTracker.tierMap := by
    decide +kernel
  have hlost : (5, BlockTier.gpuQuantized) ∉ quantizeEngine.cycle.cycle.blockTracker.tierMap := by
    decide +kernel
  refine ⟨by decide +kernel, by decide +kernel, hone, by decide +kernel,
    fun h => hlost (h 5 hone), fun h => hlost ?_⟩
  rw [h]
  exact hone

end KVOrchestrator.Ports
