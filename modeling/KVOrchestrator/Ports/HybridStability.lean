import KVOrchestrator.Ports.DecisionOrder
import KVOrchestrator.Ports.EngineRun

/-!
# The hybrid controller settles

Iterate the engine cycle under `HybridAdaptivePolicy` with nothing else
touching the tracker.  A cycle that finds something on the GPU runs the
aggressive regime; one that finds nothing there keeps every block, which puts
all of them on the GPU.  The verdicts of the aggressive regime read the ids and
the scores of the blocks, and neither the tiers nor the stored importance
scores a cycle writes (`verdicts_replace`).  So a cycle either evicts, or
leaves a state in which the next cycle repeats its verdicts and changes
nothing.

The measure is the number of blocks beyond the first, plus one while the GPU
is empty: it cannot go below zero because a heavy hitter always survives.
-/

namespace KVOrchestrator.Ports

open KVOrchestrator.Verified

/-! ## The cycle as a function of the tracker -/

/-- What the controller without a learned policy decides on a tracker. -/
def heuristicDecisions [Numerics] (cfg : PolicyConfig) (t : BlockTracker) :
    List PolicyDecision :=
  if t.getAllBlocks.isEmpty then []
  else
    HybridAdaptivePolicy.decisions { config := cfg } t.getAllBlocks (systemMetrics t)

/-- One cycle on a tracker. -/
def heuristicCycle [Numerics] (cfg : PolicyConfig) (t : BlockTracker) : BlockTracker :=
  applyDecisions t (heuristicDecisions cfg t)

/-- Without a learned policy the verdicts depend on the configuration only. -/
theorem decisions_of_not_learned [Numerics] {p : HybridAdaptivePolicy}
    (hp : p.learnedPolicy = none) (blocks : List BlockState) (m : SystemMetrics) :
    p.decisions blocks m =
      HybridAdaptivePolicy.decisions { config := p.config } blocks m := by
  have hscores : p.scoreAll blocks m =
      HybridAdaptivePolicy.scoreAll { config := p.config } blocks m := by
    rw [HybridAdaptivePolicy.scoreAll_of_not_learned hp,
      HybridAdaptivePolicy.scoreAll_of_not_learned rfl]
  simp only [HybridAdaptivePolicy.decisions, HybridAdaptivePolicy.mediumPressure,
    HybridAdaptivePolicy.highPressure, hscores]

theorem blockTracker_cycle_hybrid [Numerics] {e : PolicyEngine HybridAdaptivePolicy}
    (hp : e.policy.learnedPolicy = none) :
    e.cycle.blockTracker = heuristicCycle e.policy.config e.blockTracker := by
  rw [e.blockTracker_cycle, heuristicCycle, heuristicDecisions, PolicyEngine.cycleDecisions]
  split
  · rfl
  · rw [← decisions_of_not_learned hp]
    rfl

/-- A cycle changes neither the configuration nor the learned policy. -/
theorem policy_cycle_hybrid [Numerics] (e : PolicyEngine HybridAdaptivePolicy) :
    e.cycle.policy.config = e.policy.config ∧
      e.cycle.policy.learnedPolicy = e.policy.learnedPolicy := by
  have hkeep : ∀ (p : HybridAdaptivePolicy) blocks m,
      p.config = e.policy.config ∧ p.learnedPolicy = e.policy.learnedPolicy →
        (PolicyInterface.decide p blocks m).2.config = e.policy.config ∧
          (PolicyInterface.decide p blocks m).2.learnedPolicy = e.policy.learnedPolicy :=
    fun _ _ _ hp => hp
  exact PolicyEngine.policy_cycle_of_decide hkeep ⟨rfl, rfl⟩

/-- Iterated cycles are iterated functions of the tracker. -/
theorem blockTracker_iterate_cycle [Numerics] (cfg : PolicyConfig) :
    ∀ (n : Nat) (e : PolicyEngine HybridAdaptivePolicy), e.policy.learnedPolicy = none →
      e.policy.config = cfg →
      (PolicyEngine.cycle^[n] e).blockTracker = (heuristicCycle cfg)^[n] e.blockTracker := by
  intro n
  induction n with
  | zero => intro e _ _; rfl
  | succ n ih =>
      intro e hp hcfg
      obtain ⟨hconfig, hlearned⟩ := policy_cycle_hybrid e
      rw [Function.iterate_succ_apply, Function.iterate_succ_apply,
        ih e.cycle (hlearned.trans hp) (hconfig.trans hcfg), blockTracker_cycle_hybrid hp, hcfg]

/-! ## What the aggressive verdicts read -/

/-- The aggressive verdict on a block of a batch. -/
def aggressiveVerdict (cfg : PolicyConfig) (blocks : List BlockState) (m : SystemMetrics)
    (b : BlockState) : PolicyDecision :=
  HybridAdaptivePolicy.highDecision cfg (HybridAdaptivePolicy.sinkIds cfg blocks)
    (HybridAdaptivePolicy.hhIds cfg blocks
      (blocks.map (fun b => HybridAdaptivePolicy.scoreBlock cfg b m)))
    (b, HybridAdaptivePolicy.scoreBlock cfg b m)

theorem highPressure_eq_map [Numerics] (cfg : PolicyConfig) (blocks : List BlockState)
    (m : SystemMetrics) :
    HybridAdaptivePolicy.highPressure { config := cfg } blocks m =
      blocks.map (aggressiveVerdict cfg blocks m) := by
  have hscores : HybridAdaptivePolicy.scoreAll { config := cfg } blocks m =
      blocks.map (fun b => HybridAdaptivePolicy.scoreBlock cfg b m) :=
    HybridAdaptivePolicy.scoreAll_of_not_learned rfl blocks m
  simp only [HybridAdaptivePolicy.highPressure, hscores]
  rw [← List.map_prod_left_eq_zip, List.map_map]
  rfl

/-- A block at another place: with another tier and another stored score. -/
def Replaces (σ : BlockState → BlockState) : Prop :=
  ∀ b, ∃ tier score, σ b =
    { b with
      currentTier := tier
      importanceScore := score }

theorem Replaces.blockId {σ : BlockState → BlockState} (hσ : Replaces σ) (b : BlockState) :
    (σ b).blockId = b.blockId := by
  obtain ⟨tier, score, hb⟩ := hσ b
  rw [hb]

theorem Replaces.scoreBlock {σ : BlockState → BlockState} (hσ : Replaces σ)
    (cfg : PolicyConfig) (b : BlockState) {m m' : SystemMetrics}
    (hstep : m'.globalStep = m.globalStep) (hattn : m'.attnMax = m.attnMax)
    (hwt : m'.workloadType = m.workloadType) :
    HybridAdaptivePolicy.scoreBlock cfg (σ b) m' = HybridAdaptivePolicy.scoreBlock cfg b m := by
  obtain ⟨tier, score, hb⟩ := hσ b
  rw [hb]
  simp only [HybridAdaptivePolicy.scoreBlock, HybridAdaptivePolicy.workloadOf, hstep, hattn, hwt]

/-- Replacing blocks changes neither the heavy hitters nor any verdict. -/
theorem verdicts_replace {σ : BlockState → BlockState} (hσ : Replaces σ) (cfg : PolicyConfig)
    (blocks : List BlockState) {m m' : SystemMetrics} (hstep : m'.globalStep = m.globalStep)
    (hattn : m'.attnMax = m.attnMax) (hwt : m'.workloadType = m.workloadType)
    (b : BlockState) :
    aggressiveVerdict cfg (blocks.map σ) m' (σ b) = aggressiveVerdict cfg blocks m b := by
  have hscore := fun b => hσ.scoreBlock cfg b hstep hattn hwt
  have hscores : (blocks.map σ).map (fun b => HybridAdaptivePolicy.scoreBlock cfg b m') =
      blocks.map (fun b => HybridAdaptivePolicy.scoreBlock cfg b m) := by
    rw [List.map_map]
    exact List.map_congr_left (fun b _ => hscore b)
  have hzip : (blocks.map σ).zip
        (blocks.map (fun b => HybridAdaptivePolicy.scoreBlock cfg b m)) =
      (blocks.zip (blocks.map (fun b => HybridAdaptivePolicy.scoreBlock cfg b m))).map
        (fun x => (σ x.1, x.2)) := by
    rw [← List.map_prod_left_eq_zip, List.map_map, List.zip_map']
    rfl
  have hhh : HybridAdaptivePolicy.hhIds cfg (blocks.map σ)
        (blocks.map (fun b => HybridAdaptivePolicy.scoreBlock cfg b m)) =
      HybridAdaptivePolicy.hhIds cfg blocks
        (blocks.map (fun b => HybridAdaptivePolicy.scoreBlock cfg b m)) := by
    have hcount : heavyHitterCount cfg (blocks.map σ) = heavyHitterCount cfg blocks := by
      simp [heavyHitterCount]
    rw [HybridAdaptivePolicy.hhIds, HybridAdaptivePolicy.hhIds, hcount, hzip,
      ← map_sortByDesc (fun x : BlockState × ℚ => (σ x.1, x.2)) Prod.snd Prod.snd
        (fun _ => rfl), ← map_sliceTo, List.map_map]
    exact List.map_congr_left (fun x _ => hσ.blockId x.1)
  have hsink : HybridAdaptivePolicy.sinkIds cfg (blocks.map σ) =
      HybridAdaptivePolicy.sinkIds cfg blocks := leadingIds_map hσ.blockId blocks _
  rw [aggressiveVerdict, aggressiveVerdict, hscores, hhh, hsink, hscore]
  simp only [HybridAdaptivePolicy.highDecision, hσ.blockId]

@[simp] theorem blockId_aggressiveVerdict (cfg : PolicyConfig) (blocks : List BlockState)
    (m : SystemMetrics) (b : BlockState) :
    (aggressiveVerdict cfg blocks m b).blockId = b.blockId :=
  HybridAdaptivePolicy.blockId_highDecision _ _ _ _

/-- A batch has a heavy hitter, which is kept. -/
theorem exists_aggressiveVerdict_keepGpu (cfg : PolicyConfig) {blocks : List BlockState}
    (hblocks : blocks ≠ []) (m : SystemMetrics) :
    ∃ b ∈ blocks, (aggressiveVerdict cfg blocks m b).decision = .keepGpu := by
  have hcount := one_le_heavyHitterCount cfg blocks
  generalize hscores : blocks.map (fun b => HybridAdaptivePolicy.scoreBlock cfg b m) = scores
  cases hsorted : sortByDesc Prod.snd (blocks.zip scores) with
  | nil =>
      have hlen := congrArg List.length hsorted
      have hpos := List.length_pos_iff.mpr hblocks
      rw [length_sortByDesc, List.length_zip, ← hscores, List.length_map,
        List.length_nil] at hlen
      omega
  | cons x rest =>
      have hx : x ∈ blocks.zip scores := by
        rw [← mem_sortByDesc Prod.snd, hsorted]
        exact List.mem_cons_self
      have htop : x.1.blockId ∈ HybridAdaptivePolicy.hhIds cfg blocks scores := by
        obtain ⟨n, hn⟩ : ∃ n, (heavyHitterCount cfg blocks).toNat = n + 1 :=
          ⟨(heavyHitterCount cfg blocks).toNat - 1, by omega⟩
        rw [HybridAdaptivePolicy.hhIds, sliceTo_of_nonneg _ (by omega), hsorted, hn,
          List.take_succ_cons]
        exact List.mem_map_of_mem List.mem_cons_self
      refine ⟨x.1, (List.of_mem_zip hx).1, ?_⟩
      rw [aggressiveVerdict, HybridAdaptivePolicy.decision_highDecision, hscores,
        if_pos (.inr htop)]

/-! ## The two kinds of cycle -/

section Regimes

variable [Numerics] {cfg : PolicyConfig}

/-- Something on the GPU: the aggressive regime. -/
theorem heuristicDecisions_of_pos (hle : cfg.memoryPressureLow ≤ cfg.memoryPressureHigh)
    (hhigh : cfg.memoryPressureHigh ≤ 1) {t : BlockTracker}
    (hpos : 0 < t.getMemoryStats.estimatedGpuMb) :
    heuristicDecisions cfg t =
      t.getAllBlocks.map (aggressiveVerdict cfg t.getAllBlocks (systemMetrics t)) := by
  have hpressure := pressure_systemMetrics_of_pos hpos
  have hnotlow : ¬(1 : ℚ) < cfg.memoryPressureLow := by linarith
  have hnothigh : ¬(1 : ℚ) < cfg.memoryPressureHigh := by linarith
  rw [heuristicDecisions]
  split
  · rename_i hempty
    rw [List.isEmpty_iff.mp hempty]
    rfl
  · rw [HybridAdaptivePolicy.decisions, hpressure, if_neg hnotlow, if_neg hnothigh,
      highPressure_eq_map]

/-- Nothing on the GPU: every block is kept. -/
theorem heuristicDecisions_of_zero (hlow : 0 < cfg.memoryPressureLow) {t : BlockTracker}
    (hzero : t.getMemoryStats.estimatedGpuMb = 0) :
    heuristicDecisions cfg t = keepAll t.getAllBlocks := by
  rw [heuristicDecisions]
  split
  · rename_i hempty
    rw [List.isEmpty_iff.mp hempty]
    rfl
  · rw [HybridAdaptivePolicy.decisions, pressure_systemMetrics_of_zero hzero, if_pos hlow]

/-- After a keep-all cycle every block is on the GPU. -/
theorem getAllBlocks_heuristicCycle_of_zero (hlow : 0 < cfg.memoryPressureLow)
    {t : BlockTracker} (hzero : t.getMemoryStats.estimatedGpuMb = 0) :
    (heuristicCycle cfg t).getAllBlocks =
      t.getAllBlocks.map (fun b =>
        { b with
          currentTier := .gpuFp16
          importanceScore := 1 }) := by
  rw [heuristicCycle, heuristicDecisions_of_zero hlow hzero, keepAll,
    getAllBlocks_applyDecisions_map _ (fun _ _ => rfl), ← List.filterMap_eq_map]
  rfl

theorem getAllBlocks_heuristicCycle_of_pos
    (hle : cfg.memoryPressureLow ≤ cfg.memoryPressureHigh)
    (hhigh : cfg.memoryPressureHigh ≤ 1) {t : BlockTracker}
    (hpos : 0 < t.getMemoryStats.estimatedGpuMb) :
    (heuristicCycle cfg t).getAllBlocks =
      t.getAllBlocks.filterMap (fun b =>
        (aggressiveVerdict cfg t.getAllBlocks (systemMetrics t) b).outcome b) := by
  rw [heuristicCycle, heuristicDecisions_of_pos hle hhigh hpos,
    getAllBlocks_applyDecisions_map _ (fun b _ => blockId_aggressiveVerdict _ _ _ b)]

/-- A nonempty tracker has something on the GPU after any cycle. -/
theorem estimatedGpuMb_heuristicCycle_pos (hlow : 0 < cfg.memoryPressureLow)
    (hle : cfg.memoryPressureLow ≤ cfg.memoryPressureHigh)
    (hhigh : cfg.memoryPressureHigh ≤ 1) {t : BlockTracker} (hblocks : t.getAllBlocks ≠ [])
    (hbytes : 0 < t.blockBytesInt8) :
    0 < (heuristicCycle cfg t).getMemoryStats.estimatedGpuMb := by
  rw [BlockTracker.estimatedGpuMb_pos_iff]
  refine ⟨?_, by rwa [heuristicCycle, blockBytesInt8_applyDecisions]⟩
  rcases lt_or_eq_of_le t.estimatedGpuMb_nonneg with hpos | hzero
  · obtain ⟨b, hb, hkeep⟩ := exists_aggressiveVerdict_keepGpu cfg hblocks (systemMetrics t)
    have hmem : stamp (some (aggressiveVerdict cfg t.getAllBlocks (systemMetrics t) b)) b ∈
        (heuristicCycle cfg t).getAllBlocks := by
      rw [getAllBlocks_heuristicCycle_of_pos hle hhigh hpos, List.mem_filterMap]
      exact ⟨b, hb, by simp [PolicyDecision.outcome, hkeep, stamp]⟩
    refine BlockTracker.gpuUnits_pos_of_mem hmem ?_
    simp [stamp, hkeep, BlockDecision.tier, BlockTier.gpuWeight]
  · obtain ⟨b, hb⟩ := List.exists_mem_of_ne_nil _ hblocks
    refine BlockTracker.gpuUnits_pos_of_mem
      (b := { b with
        currentTier := .gpuFp16
        importanceScore := 1 }) ?_ (by simp [BlockTier.gpuWeight])
    rw [getAllBlocks_heuristicCycle_of_zero hlow hzero.symm]
    exact List.mem_map_of_mem hb

/-! ## Settling -/

/-- A cycle that evicts nothing is repeated by the next one to the letter. -/
theorem heuristicCycle_fixed_of_no_evict (hlow : 0 < cfg.memoryPressureLow)
    (hle : cfg.memoryPressureLow ≤ cfg.memoryPressureHigh)
    (hhigh : cfg.memoryPressureHigh ≤ 1) {t : BlockTracker} (hblocks : t.getAllBlocks ≠ [])
    (hbytes : 0 < t.blockBytesInt8) (hpos : 0 < t.getMemoryStats.estimatedGpuMb)
    (hkeep : ∀ b ∈ t.getAllBlocks,
      (aggressiveVerdict cfg t.getAllBlocks (systemMetrics t) b).decision ≠ .evict) :
    heuristicCycle cfg (heuristicCycle cfg t) = heuristicCycle cfg t := by
  -- the first cycle replaces every block where it stands
  let σ : BlockState → BlockState := fun b =>
    stamp (some (aggressiveVerdict cfg t.getAllBlocks (systemMetrics t) b)) b
  have hσ : Replaces σ := fun b => ⟨_, _, rfl⟩
  have hnext : (heuristicCycle cfg t).getAllBlocks = t.getAllBlocks.map σ := by
    rw [getAllBlocks_heuristicCycle_of_pos hle hhigh hpos, ← List.filterMap_eq_map]
    refine List.filterMap_congr ?_
    intro b hb
    rw [PolicyDecision.outcome, if_neg (hkeep b hb)]
    rfl
  have hstep : (systemMetrics (heuristicCycle cfg t)).globalStep =
      (systemMetrics t).globalStep := by
    simp only [systemMetrics, hnext, List.map_map]
    rfl
  have hattn : (systemMetrics (heuristicCycle cfg t)).attnMax = (systemMetrics t).attnMax := by
    simp only [systemMetrics, hnext, List.map_map]
    rfl
  -- so the second cycle comes to the same verdicts
  have hverdict : ∀ b, aggressiveVerdict cfg (t.getAllBlocks.map σ)
      (systemMetrics (heuristicCycle cfg t)) (σ b) =
        aggressiveVerdict cfg t.getAllBlocks (systemMetrics t) b :=
    verdicts_replace hσ cfg t.getAllBlocks hstep hattn rfl
  have hpos' := estimatedGpuMb_heuristicCycle_pos hlow hle hhigh hblocks hbytes
  have hdecisions := heuristicDecisions_of_pos hle hhigh hpos'
  calc heuristicCycle cfg (heuristicCycle cfg t)
      = applyDecisions (heuristicCycle cfg t)
          (heuristicDecisions cfg (heuristicCycle cfg t)) := rfl
    _ = applyDecisions (heuristicCycle cfg t)
          ((heuristicCycle cfg t).getAllBlocks.map
            (aggressiveVerdict cfg (heuristicCycle cfg t).getAllBlocks
              (systemMetrics (heuristicCycle cfg t)))) := by
        rw [hdecisions]
    _ = heuristicCycle cfg t := by
        refine applyDecisions_map_eq_self (fun b _ => blockId_aggressiveVerdict _ _ _ b) ?_
        intro b' hb'
        rw [hnext] at hb' ⊢
        obtain ⟨b, hb, rfl⟩ := List.mem_map.mp hb'
        rw [hverdict, PolicyDecision.outcome, if_neg (hkeep b hb)]
        rfl

/-- A cycle that evicts leaves fewer blocks. -/
theorem length_heuristicCycle_lt (hle : cfg.memoryPressureLow ≤ cfg.memoryPressureHigh)
    (hhigh : cfg.memoryPressureHigh ≤ 1) {t : BlockTracker}
    (hpos : 0 < t.getMemoryStats.estimatedGpuMb) {b : BlockState} (hb : b ∈ t.getAllBlocks)
    (hevict : (aggressiveVerdict cfg t.getAllBlocks (systemMetrics t) b).decision = .evict) :
    (heuristicCycle cfg t).getAllBlocks.length < t.getAllBlocks.length := by
  have hids := ids_applyDecisions t (heuristicDecisions cfg t)
  have hlen : ∀ t : BlockTracker, t.getAllBlocks.length = t.ids.length := fun t => by
    rw [← t.map_blockId_getAllBlocks, List.length_map]
  rw [hlen, hlen, heuristicCycle, hids, List.length_filter_lt_length_iff_exists]
  refine ⟨b.blockId, ?_, ?_⟩
  · rw [← t.map_blockId_getAllBlocks]
    exact List.mem_map_of_mem hb
  · rw [heuristicDecisions_of_pos hle hhigh hpos]
    simp only [decide_not, Bool.not_eq_true', decide_eq_false_iff_not, not_not]
    exact ⟨_, List.mem_map_of_mem hb, blockId_aggressiveVerdict _ _ _ b, hevict⟩

/-- The blocks beyond the first, plus one while the GPU is empty. -/
def unsettled (t : BlockTracker) : Nat :=
  (t.getAllBlocks.length - 1) + (if t.getMemoryStats.estimatedGpuMb = 0 then 1 else 0)

/-- What the controller preserves: some block, of positive size. -/
def Occupied (t : BlockTracker) : Prop := t.getAllBlocks ≠ [] ∧ 0 < t.blockBytesInt8

theorem occupied_heuristicCycle (hlow : 0 < cfg.memoryPressureLow)
    (hle : cfg.memoryPressureLow ≤ cfg.memoryPressureHigh)
    (hhigh : cfg.memoryPressureHigh ≤ 1) (t : BlockTracker) (ht : Occupied t) :
    Occupied (heuristicCycle cfg t) := by
  have hpos := estimatedGpuMb_heuristicCycle_pos hlow hle hhigh ht.1 ht.2
  refine ⟨?_, by rw [heuristicCycle, blockBytesInt8_applyDecisions]; exact ht.2⟩
  intro hempty
  have hunits := ((heuristicCycle cfg t).estimatedGpuMb_pos_iff.mp hpos).1
  rw [BlockTracker.gpuUnits, hempty] at hunits
  exact absurd hunits (by simp)

/-- The step of the measure: every cycle lowers it or has just settled. -/
theorem unsettled_heuristicCycle (hlow : 0 < cfg.memoryPressureLow)
    (hle : cfg.memoryPressureLow ≤ cfg.memoryPressureHigh)
    (hhigh : cfg.memoryPressureHigh ≤ 1) (t : BlockTracker) (ht : Occupied t) :
    unsettled (heuristicCycle cfg t) < unsettled t ∨
      heuristicCycle cfg (heuristicCycle cfg t) = heuristicCycle cfg t := by
  have hpos' := estimatedGpuMb_heuristicCycle_pos hlow hle hhigh ht.1 ht.2
  have hcount : 0 < (heuristicCycle cfg t).getAllBlocks.length :=
    List.length_pos_iff.mpr (occupied_heuristicCycle hlow hle hhigh t ht).1
  rcases lt_or_eq_of_le t.estimatedGpuMb_nonneg with hpos | hzero
  · by_cases hkeep : ∀ b ∈ t.getAllBlocks,
        (aggressiveVerdict cfg t.getAllBlocks (systemMetrics t) b).decision ≠ .evict
    · exact .inr (heuristicCycle_fixed_of_no_evict hlow hle hhigh ht.1 ht.2 hpos hkeep)
    · obtain ⟨b, hb, hevict⟩ : ∃ b ∈ t.getAllBlocks,
          (aggressiveVerdict cfg t.getAllBlocks (systemMetrics t) b).decision = .evict := by
        simpa using hkeep
      have hlt := length_heuristicCycle_lt hle hhigh hpos hb hevict
      left
      rw [unsettled, unsettled, if_neg hpos'.ne', if_neg hpos.ne']
      omega
  · have hlen : (heuristicCycle cfg t).getAllBlocks.length = t.getAllBlocks.length := by
      rw [getAllBlocks_heuristicCycle_of_zero hlow hzero.symm, List.length_map]
    left
    rw [unsettled, unsettled, if_neg hpos'.ne', if_pos hzero.symm]
    omega

/-- An empty tracker stays as it is. -/
theorem heuristicCycle_of_empty {t : BlockTracker} (ht : t.getAllBlocks = []) :
    heuristicCycle cfg t = t := by
  have hdecisions : heuristicDecisions cfg t = [] := by
    rw [heuristicDecisions, ht]
    rfl
  rw [heuristicCycle, hdecisions]
  rfl

/-- A tracker settles within one cycle more than it has blocks. -/
theorem settles_heuristicCycle (hlow : 0 < cfg.memoryPressureLow)
    (hle : cfg.memoryPressureLow ≤ cfg.memoryPressureHigh)
    (hhigh : cfg.memoryPressureHigh ≤ 1) {t : BlockTracker} (hbytes : 0 < t.blockBytesInt8) :
    ∃ k, k ≤ t.getAllBlocks.length + 1 ∧ SettledFrom (heuristicCycle cfg) t k := by
  by_cases ht : t.getAllBlocks = []
  · exact ⟨0, by omega, settledFrom_of_fixed (heuristicCycle_of_empty ht)⟩
  · obtain ⟨k, hk, hset⟩ := settles_of_measure unsettled
      (occupied_heuristicCycle hlow hle hhigh) (unsettled_heuristicCycle hlow hle hhigh) t
      ⟨ht, hbytes⟩
    have hbound : unsettled t ≤ t.getAllBlocks.length := by
      have hpos := List.length_pos_iff.mpr ht
      rw [unsettled]
      split <;> omega
    exact ⟨k, by omega, hset⟩

end Regimes

/-- **The hybrid controller does not thrash.**

Without a learned policy, iterated cycles reach, after at most one cycle more
than there are blocks, a tracker that every further cycle leaves unchanged; a
tracker state that recurs is already the final one, and a nonempty tracker is
never emptied. -/
theorem hybrid_settles [Numerics] (e : PolicyEngine HybridAdaptivePolicy)
    (hlearned : e.policy.learnedPolicy = none) (hbytes : 0 < e.blockTracker.blockBytesInt8)
    (hlow : 0 < e.policy.config.memoryPressureLow)
    (hle : e.policy.config.memoryPressureLow ≤ e.policy.config.memoryPressureHigh)
    (hhigh : e.policy.config.memoryPressureHigh ≤ 1) :
    (∃ k, k ≤ e.blockTracker.getAllBlocks.length + 1 ∧
      ∀ j, k ≤ j → (PolicyEngine.cycle^[j] e).blockTracker =
        (PolicyEngine.cycle^[k] e).blockTracker) ∧
    (∀ i j, i < j →
      (PolicyEngine.cycle^[i] e).blockTracker = (PolicyEngine.cycle^[j] e).blockTracker →
      ∀ l, i ≤ l → (PolicyEngine.cycle^[l] e).blockTracker =
        (PolicyEngine.cycle^[i] e).blockTracker) ∧
    (e.blockTracker.getAllBlocks ≠ [] →
      ∀ j, (PolicyEngine.cycle^[j] e).blockTracker.getAllBlocks ≠ []) := by
  have hiter := fun n => blockTracker_iterate_cycle e.policy.config n e hlearned rfl
  simp only [hiter]
  obtain ⟨k, hk, hset⟩ := settles_heuristicCycle hlow hle hhigh hbytes
  refine ⟨⟨k, hk, hset⟩, ?_, ?_⟩
  · intro i j hij hrec
    exact no_recurrence_of_settles hset hij hrec
  · intro hne j
    have hocc : Occupied ((heuristicCycle e.policy.config)^[j] e.blockTracker) := by
      induction j with
      | zero => exact ⟨hne, hbytes⟩
      | succ j ih =>
          rw [Function.iterate_succ_apply']
          exact occupied_heuristicCycle hlow hle hhigh _ ih
    exact hocc.1

/-- The controller over two registered blocks. -/
def hybridEngine : PolicyEngine HybridAdaptivePolicy where
  policy := hybridWithoutSinks
  blockTracker := twoBlocks

theorem hybrid_settles_two_blocks :
    letI : Numerics := lineNumerics.toNumerics
    ∃ k, k ≤ 3 ∧ ∀ j, k ≤ j →
      (PolicyEngine.cycle^[j] hybridEngine).blockTracker =
        (PolicyEngine.cycle^[k] hybridEngine).blockTracker :=
  (@hybrid_settles lineNumerics.toNumerics hybridEngine rfl (by decide) (by decide +kernel)
    (by decide +kernel) (by decide +kernel)).1

end KVOrchestrator.Ports
