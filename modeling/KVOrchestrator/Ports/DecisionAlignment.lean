import KVOrchestrator.Ports.SinkRetention

/-!
# Decision lists against their blocks

`BasePolicy.decide` promises one decision per block, in the order of the blocks,
so that a caller may zip the two lists.  Seven of the eight policies build their
list along the blocks.  `OffloadOnlyPolicy` builds it along its ranking, so past
its guard the promise holds where ranking the blocks does not move an id
(`decide_aligned_iff`).
-/

namespace KVOrchestrator.Ports

open KVOrchestrator.Verified

/-- One decision per block, the `i`-th for the `i`-th block. -/
structure Aligned (blocks : List BlockState) (decisions : List PolicyDecision) : Prop where
  length : decisions.length = blocks.length
  blockId : ∀ (i : Nat) (d : PolicyDecision) (b : BlockState), decisions[i]? = some d →
    blocks[i]? = some b → d.blockId = b.blockId

theorem aligned_iff (blocks : List BlockState) (decisions : List PolicyDecision) :
    Aligned blocks decisions ↔ decisions.map (·.blockId) = blocks.map (·.blockId) := by
  constructor
  · intro h
    apply List.ext_getElem
    · rw [List.length_map, List.length_map, h.length]
    · intro i hi hi'
      rw [List.length_map] at hi hi'
      rw [List.getElem_map, List.getElem_map]
      exact h.blockId i _ _ (List.getElem?_eq_getElem hi) (List.getElem?_eq_getElem hi')
  · intro hids
    constructor
    · have hlen := congrArg List.length hids
      rwa [List.length_map, List.length_map] at hlen
    · intro i d b hd hb
      have hat := congrArg (fun ids => ids[i]?) hids
      simpa [hd, hb] using hat

/-! ## The policies that decide along the blocks -/

/-- Pairing blocks with scores loses no block, whatever the empty batch is
scored with. -/
theorem names_zip_scores {blocks : List BlockState} {scores : List ℚ}
    (hlen : blocks ≠ [] → scores.length = blocks.length) :
    (blocks.zip scores).map (fun x => x.1.blockId) = blocks.map (·.blockId) := by
  cases blocks with
  | nil => rfl
  | cons b rest => exact names_zip_of_length _ (hlen (List.cons_ne_nil b rest))

section Scored

variable [Numerics]

theorem blockIds_hybrid_of_scores {p : HybridAdaptivePolicy}
    (hp : ∀ lp, p.learnedPolicy = some lp → lp.ScoresEveryRow) (blocks : List BlockState)
    (m : SystemMetrics) : (p.decisions blocks m).map (·.blockId) = blocks.map (·.blockId) := by
  rcases blockIds_hybrid_eq p blocks m with hall | hscored
  · exact hall
  · rw [hscored]
    exact names_zip_scores (fun hblocks => HybridAdaptivePolicy.length_scoreAll hp hblocks m)

theorem blockIds_learned_of_scores {p : LearnedPolicy} (hp : p.ScoresEveryRow)
    (blocks : List BlockState) (m : SystemMetrics) :
    (p.decisions blocks m).map (·.blockId) = blocks.map (·.blockId) := by
  rcases blockIds_learned_eq p blocks m with hall | hscored
  · exact hall
  · rw [hscored]
    exact names_zip_scores (fun hblocks => hp.length_scoreBlocks hblocks)

end Scored

/-! ## The policy that decides along its ranking -/

/-- Dividing by a positive maximum does not change the ranking. -/
theorem blockIds_scored {blocks : List BlockState} (hpos : 0 < maxAvgAttention blocks) :
    (OffloadOnlyPolicy.scored blocks).map (fun x => x.1.blockId) =
      (sortBy (·.avgAttentionScore) blocks).map (·.blockId) := by
  have hrank : sortBy (normAttention (maxAvgAttention blocks)) blocks =
      sortBy (·.avgAttentionScore) blocks := by
    apply sortBy_congr
    intro a b
    simp only [normAttention, gt_iff_lt, if_pos hpos]
    exact div_le_div_iff_of_pos_right hpos
  have hscored := map_sortBy (fun b => (b, normAttention (maxAvgAttention blocks) b))
    (normAttention (maxAvgAttention blocks)) Prod.snd (fun _ => rfl) blocks
  rw [OffloadOnlyPolicy.scored, ← hscored, hrank, List.map_map]
  rfl

/-- Where no block has positive attention, all tie. -/
theorem blockIds_scored_of_nonpos {blocks : List BlockState}
    (hmax : maxAvgAttention blocks ≤ 0) :
    (OffloadOnlyPolicy.scored blocks).map (fun x => x.1.blockId) = blocks.map (·.blockId) := by
  have htie : ∀ b, normAttention (maxAvgAttention blocks) b = 0 := by
    intro b
    rw [normAttention, if_neg (not_lt.mpr hmax)]
  rw [OffloadOnlyPolicy.scored, sortBy_eq_self, List.map_map]
  · rfl
  · rw [List.pairwise_map]
    apply List.pairwise_of_forall
    intro a b
    show normAttention _ a ≤ normAttention _ b
    rw [htie, htie]

/-- The ranking of `OffloadOnlyPolicy` moves no id: nobody is ranked, or the
ids read in ascending order of attention, ties as given, are the ids as given. -/
def OffloadOnlyPolicy.RanksInPlace (blocks : List BlockState) : Prop :=
  maxAvgAttention blocks ≤ 0 ∨
    (sortBy (·.avgAttentionScore) blocks).map (·.blockId) = blocks.map (·.blockId)

theorem blockIds_offloadOnly_iff (cfg : PolicyConfig) (blocks : List BlockState)
    (m : SystemMetrics) :
    (OffloadOnlyPolicy.decisions cfg blocks m).map (·.blockId) = blocks.map (·.blockId) ↔
      (cfg.offloadEnabled = false ∨ m.pressure < cfg.memoryPressureLow) ∨
        OffloadOnlyPolicy.RanksInPlace blocks := by
  rw [OffloadOnlyPolicy.decisions, OffloadOnlyPolicy.RanksInPlace]
  by_cases hguard : cfg.offloadEnabled = false ∨ m.pressure < cfg.memoryPressureLow
  · rw [if_pos hguard, blockIds_keepAll]
    exact ⟨fun _ => .inl hguard, fun _ => rfl⟩
  · rw [if_neg hguard, or_iff_right hguard,
      blockIds_map_verdict _ (fun x : BlockState × ℚ => x.1.blockId)
        (fun x _ => OffloadOnlyPolicy.blockId_verdict _ x)]
    rcases lt_or_ge 0 (maxAvgAttention blocks) with hpos | hmax
    · rw [blockIds_scored hpos, or_iff_right (not_le.mpr hpos)]
    · rw [blockIds_scored_of_nonpos hmax]
      exact ⟨fun _ => .inl hmax, fun _ => rfl⟩

/-! ## Every policy -/

/-- Deciding follows the order of the blocks: always, but for the ranking of
`OffloadOnlyPolicy`. -/
def BuiltinPolicy.DecidesInOrder (p : BuiltinPolicy) (blocks : List BlockState)
    (m : SystemMetrics) : Prop :=
  match p with
  | .offloadOnly p =>
      (p.config.offloadEnabled = false ∨ m.pressure < p.config.memoryPressureLow) ∨
        OffloadOnlyPolicy.RanksInPlace blocks
  | .fullCache _ => True
  | .slidingWindow _ => True
  | .h2o _ => True
  | .prefixCaching _ => True
  | .quantizeOnly _ => True
  | .hybrid _ => True
  | .learned _ => True

/-- The ids a policy decides on are those of the blocks, in order, exactly if
it decides in order. -/
theorem BuiltinPolicy.blockIds_decide_iff [Numerics] {p : BuiltinPolicy}
    (hp : p.ScoresEveryRow) (blocks : List BlockState) (m : SystemMetrics) :
    (PolicyInterface.decide p blocks m).1.map (·.blockId) = blocks.map (·.blockId) ↔
      p.DecidesInOrder blocks m := by
  cases p with
  | offloadOnly p => exact blockIds_offloadOnly_iff p.config blocks m
  | fullCache p => exact iff_of_true (blockIds_fullCache p.config blocks m) trivial
  | slidingWindow p => exact iff_of_true (blockIds_slidingWindow p.config blocks m) trivial
  | h2o p => exact iff_of_true (blockIds_h2o p.config blocks m) trivial
  | prefixCaching p => exact iff_of_true (blockIds_prefixCaching p.config blocks m) trivial
  | quantizeOnly p => exact iff_of_true (blockIds_quantizeOnly p.config blocks m) trivial
  | hybrid p => exact iff_of_true (blockIds_hybrid_of_scores hp blocks m) trivial
  | learned p =>
      apply iff_of_true _ trivial
      cases hready : p.isReady with
      | false =>
          rw [decide_learned_of_not_ready hready]
          exact blockIds_h2o p.config blocks m
      | true =>
          rw [decide_learned_of_ready hready]
          exact blockIds_learned_of_scores hp blocks m

/-- **Decision lists are aligned with their blocks, but for the ranking of
`OffloadOnlyPolicy`.**

The other seven policies return one decision per block in the order of the
blocks.  `OffloadOnlyPolicy` does so when offloading is disabled, under low
pressure, and where its ranking moves no id; for blocks of distinct ids that is
where no block has positive attention or attention ascends along the list. -/
theorem decide_aligned_iff [Numerics] (p : BuiltinPolicy) (hp : p.ScoresEveryRow)
    (blocks : List BlockState) (m : SystemMetrics) :
    (Aligned blocks (PolicyInterface.decide p blocks m).1 ↔ p.DecidesInOrder blocks m) ∧
      ((blocks.map (·.blockId)).Nodup →
        (OffloadOnlyPolicy.RanksInPlace blocks ↔
          maxAvgAttention blocks ≤ 0 ∨
            blocks.Pairwise (fun a b => a.avgAttentionScore ≤ b.avgAttentionScore))) := by
  constructor
  · rw [aligned_iff]
    exact p.blockIds_decide_iff hp blocks m
  · intro hids
    rw [OffloadOnlyPolicy.RanksInPlace, names_sortBy_eq_iff hids]

/-- Two blocks, the second with less attention. -/
def fadingPair : List BlockState :=
  [ { blockId := 0, layerId := 0, headGroup := 0, requestId := "r", avgAttentionScore := 1 / 2 },
    { blockId := 1, layerId := 0, headGroup := 0, requestId := "r", avgAttentionScore := 1 / 4 } ]

/-- Full pressure. -/
def fullPressure : SystemMetrics where
  gpuMemUsedMb := some 1
  gpuMemFreeMb := some 0

theorem decide_aligned_iff_fading_pair :
    letI : Numerics := lineNumerics.toNumerics
    Aligned fadingPair
      (PolicyInterface.decide (BuiltinPolicy.h2o ⟨{ config := {} }⟩) fadingPair fullPressure).1 :=
  (@decide_aligned_iff lineNumerics.toNumerics (.h2o ⟨{ config := {} }⟩) trivial fadingPair
    fullPressure).1.mpr trivial

theorem decide_aligned_fails :
    letI : Numerics := lineNumerics.toNumerics
    let decisions := (PolicyInterface.decide (BuiltinPolicy.offloadOnly ⟨{ config := {} }⟩)
      fadingPair fullPressure).1
    decisions.map (·.blockId) = [1, 0] ∧ ¬Aligned fadingPair decisions := by
  intro decisions
  have hids : decisions.map (·.blockId) = [1, 0] := by decide +kernel
  refine ⟨hids, ?_⟩
  rw [aligned_iff, hids]
  decide

end KVOrchestrator.Ports
