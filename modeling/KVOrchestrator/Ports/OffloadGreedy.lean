import KVOrchestrator.Ports.AblationTiers
import KVOrchestrator.Ports.OffloadCap
import KVOrchestrator.Ports.PressureFeedback
import KVOrchestrator.Ports.TrackerUpdates

/-!
# The offload policy is greedy and settles at once

`OffloadOnlyPolicy` takes the first eligible blocks of a stable ranking, as many
as its cap allows, so what it offloads has the least attention among the
eligible blocks (`taken_least`).  A fraction below one leaves a block on the GPU;
the next cycle then sees the same pressure, the same ranking and the same cap,
and the same list applied twice changes nothing (`applyDecisions_applyDecisions`).
-/

namespace KVOrchestrator.Ports

open KVOrchestrator.Verified

namespace OffloadOnlyPolicy

/-! ## What is offloaded -/

/-- A block that may be offloaded: no sink, and of low relative attention. -/
def MayOffload (cfg : PolicyConfig) (blocks : List BlockState) (b : BlockState) : Prop :=
  b.blockId ∉ leadingIds blocks cfg.sinkTokenBlocks ∧
    normAttention (maxAvgAttention blocks) b ≤ cfg.offloadThresholdScore

instance (cfg : PolicyConfig) (blocks : List BlockState) :
    DecidablePred (MayOffload cfg blocks) := by
  unfold MayOffload
  infer_instance

/-- A block with its relative attention. -/
def scoredBlock (blocks : List BlockState) (b : BlockState) : BlockState × ℚ :=
  (b, normAttention (maxAvgAttention blocks) b)

section Batch

variable {cfg : PolicyConfig} {blocks : List BlockState}

theorem scoredBlock_mem {b : BlockState} (hb : b ∈ blocks) : scoredBlock blocks b ∈ scored blocks :=
  (scored_perm blocks).mem_iff.mpr (List.mem_map_of_mem hb)

theorem eligible_scoredBlock (b : BlockState) :
    eligible cfg (leadingIds blocks cfg.sinkTokenBlocks) (scoredBlock blocks b) = true ↔
      MayOffload cfg blocks b := by
  rw [eligible, decide_eq_true_iff]
  rfl

/-- As many blocks are taken as may be, up to the cap. -/
theorem length_taken (cfg : PolicyConfig) (blocks : List BlockState) :
    (taken cfg blocks).length =
      min (maxOffload cfg blocks).toNat (blocks.countP (fun b => MayOffload cfg blocks b)) := by
  have hcount : (scored blocks).countP
      (eligible cfg (leadingIds blocks cfg.sinkTokenBlocks)) =
        blocks.countP (fun b => MayOffload cfg blocks b) := by
    rw [(scored_perm blocks).countP_eq, List.countP_map]
    apply List.countP_congr
    intro b _
    rw [decide_eq_true_iff]
    exact eligible_scoredBlock b
  rw [taken, List.length_take, ← List.countP_eq_length_filter, hcount]

variable (hids : (blocks.map (·.blockId)).Nodup)

include hids

/-- The decision on a block. -/
theorem decisionOf_block {b : BlockState} (hb : b ∈ blocks) :
    decisionOf ((scored blocks).map (verdict (offloadSet cfg blocks))) b.blockId =
      some (if scoredBlock blocks b ∈ taken cfg blocks then .offloadCpu else .keepGpu) := by
  have hmem := scoredBlock_mem hb
  have hset : offloadSet cfg blocks = (taken cfg blocks).map (fun x => x.1.blockId) :=
    offloadSet_eq cfg blocks
  have hfind := decisionOf_map (nodup_scored_ids hids) (verdict (offloadSet cfg blocks))
    (fun x _ => blockId_verdict _ x) hmem
  have hiff : b.blockId ∈ offloadSet cfg blocks ↔ scoredBlock blocks b ∈ taken cfg blocks := by
    rw [hset]
    exact name_mem_map_iff (nodup_scored_ids hids)
      (fun x hx => (taken_sublist cfg blocks).subset hx) hmem
  rw [decision_verdict] at hfind
  simp only [← hiff]
  exact hfind

omit hids in
/-- **What is taken may be**, and has the least attention of all that may. -/
theorem taken_least {b b' : BlockState} (hb : scoredBlock blocks b ∈ taken cfg blocks)
    (hb' : b' ∈ blocks) (hmay : MayOffload cfg blocks b')
    (hleft : scoredBlock blocks b' ∉ taken cfg blocks) :
    normAttention (maxAvgAttention blocks) b ≤ normAttention (maxAvgAttention blocks) b' := by
  by_contra hlt
  have hmem : scoredBlock blocks b' ∈ (scored blocks).filter
      (eligible cfg (leadingIds blocks cfg.sinkTokenBlocks)) :=
    List.mem_filter.mpr ⟨scoredBlock_mem hb', (eligible_scoredBlock b').mpr hmay⟩
  have hsorted : ((scored blocks).filter
      (eligible cfg (leadingIds blocks cfg.sinkTokenBlocks))).Pairwise (fun x y => x.2 ≤ y.2) :=
    (pairwise_sortBy Prod.snd _).filter _
  exact hleft (mem_take_of_pairwise hsorted hmem hb hlt)

omit hids in
theorem mayOffload_of_taken {b : BlockState} (hb : scoredBlock blocks b ∈ taken cfg blocks) :
    MayOffload cfg blocks b :=
  (eligible_scoredBlock b).mp (List.mem_filter.mp (List.mem_of_mem_take hb)).2

end Batch

/-- Relative attention compares as attention does. -/
theorem le_of_normAttention_le {blocks : List BlockState}
    (hattn : ∀ b ∈ blocks, 0 ≤ b.avgAttentionScore) {b b' : BlockState} (hb : b ∈ blocks)
    (hb' : b' ∈ blocks)
    (hle : normAttention (maxAvgAttention blocks) b ≤ normAttention (maxAvgAttention blocks) b') :
    b.avgAttentionScore ≤ b'.avgAttentionScore := by
  rw [normAttention, normAttention] at hle
  split at hle
  · rename_i hpos
    exact (div_le_div_iff_of_pos_right hpos).mp hle
  · rename_i hzero
    exact ((le_maxAvgAttention hb).trans (not_lt.mp hzero)).trans (hattn b' hb')

/-! ## Rewritten blocks -/

section Rewritten

variable {ρ : BlockState → BlockState} (hid : ∀ b, (ρ b).blockId = b.blockId)
  (hattn : KeepsAttention ρ) (cfg : PolicyConfig) (blocks : List BlockState)

include hattn

/-- The ranking depends on ids and averages only. -/
theorem scored_map : scored (blocks.map ρ) = (scored blocks).map (fun x => (ρ x.1, x.2)) := by
  have hpairs : (blocks.map ρ).map (fun b => (b, normAttention (maxAvgAttention blocks) b)) =
      (blocks.map (fun b => (b, normAttention (maxAvgAttention blocks) b))).map
        (fun x => (ρ x.1, x.2)) := by
    rw [List.map_map, List.map_map]
    apply List.map_congr_left
    intro b _
    rw [Function.comp_apply, Function.comp_apply, normAttention, hattn b]
    rfl
  rw [scored, maxAvgAttention_map hattn, hpairs, scored]
  exact (map_sortBy (fun x : BlockState × ℚ => (ρ x.1, x.2)) Prod.snd Prod.snd
    (fun _ => rfl) _).symm

include hid

theorem taken_map : taken cfg (blocks.map ρ) = (taken cfg blocks).map (fun x => (ρ x.1, x.2)) := by
  have heligible : eligible cfg (leadingIds blocks cfg.sinkTokenBlocks) ∘
      (fun x : BlockState × ℚ => (ρ x.1, x.2)) =
        eligible cfg (leadingIds blocks cfg.sinkTokenBlocks) := by
    funext x
    rw [Function.comp_apply, eligible, eligible, hid]
  have hcap : maxOffload cfg (blocks.map ρ) = maxOffload cfg blocks := by
    rw [maxOffload, maxOffload, List.length_map]
  rw [taken, scored_map hattn, leadingIds_map hid, List.filter_map, heligible, ← List.map_take,
    hcap, taken]

/-- So does the decision list. -/
theorem verdicts_map :
    (scored (blocks.map ρ)).map (verdict (offloadSet cfg (blocks.map ρ))) =
      (scored blocks).map (verdict (offloadSet cfg blocks)) := by
  have hset : offloadSet cfg (blocks.map ρ) = offloadSet cfg blocks := by
    have htaken := congrArg (List.map (fun x : BlockState × ℚ => x.1.blockId))
      (taken_map hid hattn cfg blocks)
    rw [List.map_map] at htaken
    rw [offloadSet_eq, offloadSet_eq]
    refine htaken.trans ?_
    apply List.map_congr_left
    intro x _
    exact hid x.1
  rw [scored_map hattn, hset, List.map_map]
  apply List.map_congr_left
  intro x _
  rw [Function.comp_apply, verdict, verdict, hid]

end Rewritten

/-! ## Two cycles -/

/-- A fraction below one leaves a block. -/
theorem exists_not_taken {cfg : PolicyConfig} (hfrac : 0 ≤ cfg.offloadMaxFraction)
    (hfrac1 : cfg.offloadMaxFraction < 1) {blocks : List BlockState} (hne : blocks ≠ [])
    (hids : (blocks.map (·.blockId)).Nodup) :
    ∃ b ∈ blocks, scoredBlock blocks b ∉ taken cfg blocks := by
  by_contra hall
  have hlength : 0 < blocks.length := List.length_pos_iff.mpr hne
  have hpos : (0 : ℚ) < blocks.length := by exact_mod_cast hlength
  have hcap : maxOffload cfg blocks < blocks.length := by
    rw [maxOffload, pyInt_of_nonneg (by positivity), Int.floor_lt]
    push_cast
    exact mul_lt_of_lt_one_right hpos hfrac1
  have hsub : (scored blocks).Subperm (taken cfg blocks) := by
    apply List.Nodup.subperm ((nodup_scored_ids hids).of_map _)
    intro x hx
    obtain ⟨b, hb, rfl⟩ := List.mem_map.mp ((scored_perm blocks).mem_iff.mp hx)
    by_contra hleft
    exact hall ⟨b, hb, hleft⟩
  have hle := hsub.length_le
  rw [(scored_perm blocks).length_eq, List.length_map, length_taken] at hle
  omega

theorem config_cycle (e : PolicyEngine OffloadOnlyPolicy) :
    e.cycle.policy.config = e.policy.config := by
  have hkeep : ∀ (p : OffloadOnlyPolicy) blocks m, p.config = e.policy.config →
      (PolicyInterface.decide p blocks m).2.config = e.policy.config := fun _ _ _ hp => hp
  exact PolicyEngine.policy_cycle_of_decide hkeep rfl

/-- The decisions under pressure. -/
theorem decide_eq {p : OffloadOnlyPolicy} (henabled : p.config.offloadEnabled = true)
    {m : SystemMetrics} (hlow : p.config.memoryPressureLow ≤ m.pressure)
    (blocks : List BlockState) :
    (PolicyInterface.decide p blocks m).1 =
      (scored blocks).map (verdict (offloadSet p.config blocks)) := by
  apply if_neg
  rintro (hoff | hlt)
  · rw [henabled] at hoff
    cases hoff
  · exact absurd hlow (not_le_of_gt hlt)

section TwoCycles

variable {e : PolicyEngine OffloadOnlyPolicy}
  (henabled : e.policy.config.offloadEnabled = true)
  (hlow : e.policy.config.memoryPressureLow ≤ 1) (hbytes : 0 < e.blockTracker.blockBytesInt8)
  {b : BlockState} (hb : b ∈ e.blockTracker.getAllBlocks) (hgpu : 0 < b.currentTier.gpuWeight)

include henabled hlow hbytes hb hgpu

/-- A block on the GPU puts the engine under pressure. -/
theorem cycleDecisions_of_gpu : e.cycleDecisions = (scored e.blockTracker.getAllBlocks).map
    (verdict (offloadSet e.policy.config e.blockTracker.getAllBlocks)) := by
  rw [PolicyEngine.cycleDecisions_of_ne_nil (List.ne_nil_of_mem hb)]
  exact decide_eq henabled (by rwa [pressure_of_mem hb hgpu hbytes]) _

/-- A cycle rewrites the blocks where they stand. -/
theorem getAllBlocks_cycle : e.cycle.blockTracker.getAllBlocks =
    e.blockTracker.getAllBlocks.map (fun b =>
      stamp (lastDecision e.cycleDecisions b.blockId) b) := by
  have hkeep : ∀ d ∈ e.cycleDecisions, d.decision ≠ .evict := by
    intro d hd
    rw [cycleDecisions_of_gpu henabled hlow hbytes hb hgpu] at hd
    obtain ⟨x, _, rfl⟩ := List.mem_map.mp hd
    rw [decision_verdict]
    split <;> decide
  rw [e.blockTracker_cycle]
  exact getAllBlocks_applyDecisions_of_no_evict hkeep e.blockTracker

variable (hfrac : 0 ≤ e.policy.config.offloadMaxFraction)
  (hfrac1 : e.policy.config.offloadMaxFraction < 1)

include hfrac hfrac1

/-- A block that is not taken is on the GPU afterwards. -/
theorem pressure_cycle : (systemMetrics e.cycle.blockTracker).pressure = 1 := by
  have hids := e.blockTracker.nodup_blockIds
  have hfirst := cycleDecisions_of_gpu henabled hlow hbytes hb hgpu
  obtain ⟨kept, hkept, hleft⟩ := exists_not_taken hfrac hfrac1 (List.ne_nil_of_mem hb) hids
  have hdecision : decisionOf e.cycleDecisions kept.blockId = some .keepGpu := by
    rw [hfirst, decisionOf_block hids hkept, if_neg hleft]
  obtain ⟨d, hd, hkeepGpu⟩ := Option.map_eq_some_iff.mp hdecision
  have hnodup : (e.cycleDecisions.map (·.blockId)).Nodup := by
    rw [hfirst, blockIds_map_verdict _ (fun x => x.1.blockId) (fun x _ => blockId_verdict _ x)]
    exact nodup_scored_ids hids
  have hlast : lastDecision e.cycleDecisions kept.blockId = some d := by
    rw [lastDecision_of_nodup hnodup]
    exact hd
  have hmem : stamp (some d) kept ∈ e.cycle.blockTracker.getAllBlocks := by
    rw [getAllBlocks_cycle henabled hlow hbytes hb hgpu, ← hlast]
    exact List.mem_map_of_mem hkept
  have hweight : 0 < (stamp (some d) kept).currentTier.gpuWeight := by
    show 0 < d.decision.tier.gpuWeight
    rw [hkeepGpu]
    decide
  apply pressure_of_mem hmem hweight
  rw [e.blockTracker_cycle, blockBytesInt8_applyDecisions]
  exact hbytes

/-- The second cycle decides as the first one did. -/
theorem cycleDecisions_cycle : e.cycle.cycleDecisions = e.cycleDecisions := by
  have hblocks := getAllBlocks_cycle henabled hlow hbytes hb hgpu
  have hne : e.cycle.blockTracker.getAllBlocks ≠ [] := by
    rw [hblocks, Ne, List.map_eq_nil_iff]
    exact List.ne_nil_of_mem hb
  have hpressure := pressure_cycle henabled hlow hbytes hb hgpu hfrac hfrac1
  rw [PolicyEngine.cycleDecisions_of_ne_nil hne, decide_eq (by rw [config_cycle]; exact henabled)
    (by rw [config_cycle, hpressure]; exact hlow), config_cycle,
    cycleDecisions_of_gpu henabled hlow hbytes hb hgpu, hblocks]
  apply verdicts_map
  · exact fun b => blockId_stamp _ b
  · exact fun b => avgAttentionScore_stamp _ b

/-- **The second cycle changes nothing.** -/
theorem cycle_cycle : e.cycle.cycle.blockTracker = e.cycle.blockTracker := by
  rw [e.cycle.blockTracker_cycle,
    cycleDecisions_cycle henabled hlow hbytes hb hgpu hfrac hfrac1, e.blockTracker_cycle,
    applyDecisions_applyDecisions]

end TwoCycles

/-- The decision on a block under pressure, by what is taken. -/
theorem decisionOf_decide {p : OffloadOnlyPolicy} (henabled : p.config.offloadEnabled = true)
    {m : SystemMetrics} (hlow : p.config.memoryPressureLow ≤ m.pressure)
    {blocks : List BlockState} (hids : (blocks.map (·.blockId)).Nodup) {b : BlockState}
    (hb : b ∈ blocks) :
    (decisionOf (PolicyInterface.decide p blocks m).1 b.blockId = some .offloadCpu ↔
      scoredBlock blocks b ∈ taken p.config blocks) ∧
    (decisionOf (PolicyInterface.decide p blocks m).1 b.blockId = some .keepGpu ↔
      scoredBlock blocks b ∉ taken p.config blocks) := by
  rw [decide_eq henabled hlow, decisionOf_block hids hb]
  split <;> simp [*]

end OffloadOnlyPolicy

/-! ## Greedy, and settled -/

/-- The default configuration without sinks, over two FP16 blocks. -/
def offloadEngine : PolicyEngine OffloadOnlyPolicy where
  policy := ⟨{ config := { sinkTokenBlocks := 0 } }⟩
  blockTracker := twoBlocks

end KVOrchestrator.Ports
