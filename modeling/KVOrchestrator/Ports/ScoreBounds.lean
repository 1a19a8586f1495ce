import KVOrchestrator.Ports.SinkRetention
import KVOrchestrator.Verified.MovingAverage
import Mathlib.Tactic.Linarith
import Mathlib.Tactic.Positivity

/-!
# The values of the block store stay in range

Attention weights lie between zero and one.  So do the averages and maxima kept
of them, with the average below the maximum (`inRange_updateAttention`), and so
does every score a policy derives: it is an average relative to a batch maximum,
a prediction rescaled by its extremes, or a weighted sum whose weights add up to
one.  `values_in_range` puts the two together over runs, since a cycle writes
the scores back as importance.
-/

namespace KVOrchestrator.Ports

open KVOrchestrator.Verified

/-! ## Relative values -/

theorem div_mem_Icc {a b : ℚ} (ha : 0 ≤ a) (hab : a ≤ b) : a / b ∈ Set.Icc (0 : ℚ) 1 :=
  ⟨div_nonneg ha (ha.trans hab), div_le_one_of_le₀ hab (ha.trans hab)⟩

/-- A weighted sum of values in range, by weights that add up to at most one. -/
theorem weightedSum_mem_Icc {w₁ w₂ w₃ x y z : ℚ} (h₁ : 0 ≤ w₁) (h₂ : 0 ≤ w₂) (h₃ : 0 ≤ w₃)
    (hsum : w₁ + w₂ + w₃ ≤ 1) (hx : x ∈ Set.Icc (0 : ℚ) 1) (hy : y ∈ Set.Icc (0 : ℚ) 1)
    (hz : z ∈ Set.Icc (0 : ℚ) 1) : w₁ * x + w₂ * y + w₃ * z ∈ Set.Icc (0 : ℚ) 1 := by
  constructor
  · have hx0 := mul_nonneg h₁ hx.1
    have hy0 := mul_nonneg h₂ hy.1
    have hz0 := mul_nonneg h₃ hz.1
    linarith
  · calc w₁ * x + w₂ * y + w₃ * z
        ≤ w₁ * 1 + w₂ * 1 + w₃ * 1 := by
          have hx1 := mul_le_mul_of_nonneg_left hx.2 h₁
          have hy1 := mul_le_mul_of_nonneg_left hy.2 h₂
          have hz1 := mul_le_mul_of_nonneg_left hz.2 h₃
          linarith
      _ ≤ 1 := by linarith

/-- The mean of a nonempty list of values in range, up to its maximum. -/
theorem mean_bounds {xs : List ℚ} (hne : xs ≠ []) (hxs : ∀ x ∈ xs, x ∈ Set.Icc (0 : ℚ) 1) :
    0 ≤ xs.sum / xs.length ∧ xs.sum / xs.length ≤ maxD xs 0 ∧ maxD xs 0 ≤ 1 := by
  have hlen : (0 : ℚ) ≤ xs.length := Nat.cast_nonneg _
  refine ⟨?_, mean_le_maxD hne 0, (hxs _ (maxD_mem hne 0)).2⟩
  exact div_nonneg (List.sum_nonneg (fun x hx => (hxs x hx).1)) hlen

/-! ## Blocks -/

/-- The statistics of a block are in range. -/
structure BlockState.InRange (b : BlockState) : Prop where
  avg_nonneg : 0 ≤ b.avgAttentionScore
  avg_le_max : b.avgAttentionScore ≤ b.maxAttentionScore
  max_le_one : b.maxAttentionScore ≤ 1
  importance : b.importanceScore ∈ Set.Icc (0 : ℚ) 1

theorem BlockState.InRange.avg_le_one {b : BlockState} (h : b.InRange) :
    b.avgAttentionScore ≤ 1 := h.avg_le_max.trans h.max_le_one

theorem BlockState.InRange.avg_mem {b : BlockState} (h : b.InRange) :
    b.avgAttentionScore ∈ Set.Icc (0 : ℚ) 1 := ⟨h.avg_nonneg, h.avg_le_one⟩

/-- The range is one of the averages, the maximum and the importance. -/
theorem BlockState.InRange.congr {b b' : BlockState} (h : b.InRange)
    (havg : b'.avgAttentionScore = b.avgAttentionScore)
    (hmax : b'.maxAttentionScore = b.maxAttentionScore)
    (himportance : b'.importanceScore = b.importanceScore) : b'.InRange := by
  constructor
  · rw [havg]
    exact h.avg_nonneg
  · rw [havg, hmax]
    exact h.avg_le_max
  · rw [hmax]
    exact h.max_le_one
  · rw [himportance]
    exact h.importance

/-- Every block of the list is in range. -/
def AllInRange (blocks : List BlockState) : Prop := ∀ b ∈ blocks, b.InRange

/-! ## Scores -/

/-- Every decision has a score in range. -/
def ScoresInRange (decisions : List PolicyDecision) : Prop :=
  ∀ d ∈ decisions, d.score ∈ Set.Icc (0 : ℚ) 1

theorem zero_mem_Icc : (0 : ℚ) ∈ Set.Icc (0 : ℚ) 1 := ⟨le_refl 0, zero_le_one⟩

theorem one_mem_Icc : (1 : ℚ) ∈ Set.Icc (0 : ℚ) 1 := ⟨zero_le_one, le_refl 1⟩

theorem scoresInRange_map {α : Type} {l : List α} {g : α → PolicyDecision}
    (hg : ∀ a ∈ l, (g a).score ∈ Set.Icc (0 : ℚ) 1) : ScoresInRange (l.map g) := by
  intro d hd
  obtain ⟨a, ha, rfl⟩ := List.mem_map.mp hd
  exact hg a ha

/-- A policy that keeps everything under its guard. -/
theorem scoresInRange_guarded (guard : Prop) [Decidable guard] (blocks : List BlockState)
    {decisions : List PolicyDecision} (hdecisions : ScoresInRange decisions) :
    ScoresInRange (if guard then keepAll blocks else decisions) := by
  split
  · exact scoresInRange_map (fun _ _ => one_mem_Icc)
  · exact hdecisions

section Heuristic

variable {blocks : List BlockState} (hblocks : AllInRange blocks) (cfg : PolicyConfig)
  (m : SystemMetrics)

include hblocks

theorem normAttention_mem {b : BlockState} (hb : b ∈ blocks) :
    normAttention (maxAvgAttention blocks) b ∈ Set.Icc (0 : ℚ) 1 := by
  unfold normAttention
  split
  · exact div_mem_Icc (hblocks b hb).avg_nonneg (le_maxAvgAttention hb)
  · exact zero_mem_Icc

theorem scoresInRange_h2o : ScoresInRange (H2OPolicy.decisions cfg blocks m) := by
  apply scoresInRange_guarded
  apply scoresInRange_map
  intro b hb
  split <;> exact (hblocks b hb).avg_mem

theorem scoresInRange_prefixCaching :
    ScoresInRange (PrefixCachingPolicy.decisions cfg blocks m) := by
  apply scoresInRange_guarded
  apply scoresInRange_map
  intro b hb
  have hnorm := normAttention_mem hblocks hb
  by_cases hreuse : b.prefixReuseFlag = true
  · rw [if_pos hreuse]
    exact one_mem_Icc
  · simp only [if_neg hreuse]
    split <;> exact hnorm

theorem scoresInRange_quantizeOnly :
    ScoresInRange (QuantizeOnlyPolicy.decisions cfg blocks m) := by
  apply scoresInRange_guarded
  apply scoresInRange_map
  intro b hb
  have hnorm := normAttention_mem hblocks hb
  by_cases hkept : b.blockId ∈ leadingIds blocks cfg.sinkTokenBlocks ∨
      b.currentTier = .gpuQuantized
  · rw [if_pos hkept]
    exact one_mem_Icc
  · simp only [if_neg hkept]
    split <;> exact hnorm

theorem scoresInRange_offloadOnly :
    ScoresInRange (OffloadOnlyPolicy.decisions cfg blocks m) := by
  apply scoresInRange_guarded
  apply scoresInRange_map
  intro x hx
  have hscored := (OffloadOnlyPolicy.scored_perm blocks).subset hx
  obtain ⟨b, hb, rfl⟩ := List.mem_map.mp hscored
  have hnorm := normAttention_mem hblocks hb
  unfold OffloadOnlyPolicy.verdict
  split <;> exact hnorm

end Heuristic

theorem scoresInRange_fullCache (cfg : PolicyConfig) (blocks : List BlockState)
    (m : SystemMetrics) : ScoresInRange (FullCachePolicy.decisions cfg blocks m) := by
  apply scoresInRange_guarded
  apply scoresInRange_map
  intro b _
  dsimp only
  split
  · exact zero_mem_Icc
  · exact one_mem_Icc

theorem scoresInRange_slidingWindow (cfg : PolicyConfig) (blocks : List BlockState)
    (m : SystemMetrics) : ScoresInRange (SlidingWindowPolicy.decisions cfg blocks m) := by
  apply scoresInRange_guarded
  apply scoresInRange_map
  intro b _
  split
  · exact one_mem_Icc
  · exact zero_mem_Icc

/-! ## Learned scores -/

namespace LearnedPolicy

/-- Predictions rescaled by their extremes. -/
theorem normalise_mem {n : Nat} {raw : List ℚ} {lo hi : ℚ} (hlo : raw.min? = some lo)
    (hhi : raw.max? = some hi) {score : ℚ} (hscore : score ∈ normalise n raw lo hi) :
    score ∈ Set.Icc (0 : ℚ) 1 := by
  unfold normalise at hscore
  split at hscore
  · obtain ⟨r, hr, rfl⟩ := List.mem_map.mp hscore
    have hle : lo ≤ r := (List.min?_eq_some_iff.mp hlo).2 r hr
    have hge : r ≤ hi := (List.max?_eq_some_iff.mp hhi).2 r hr
    apply div_mem_Icc
    · linarith
    · linarith
  · rw [List.mem_replicate] at hscore
    rw [hscore.2]
    norm_num

theorem attentionFallback_mem {blocks : List BlockState} (hblocks : AllInRange blocks) {score : ℚ}
    (hscore : score ∈ attentionFallback blocks) : score ∈ Set.Icc (0 : ℚ) 1 := by
  unfold attentionFallback at hscore
  obtain ⟨b, hb, rfl⟩ := List.mem_map.mp hscore
  show (if maxAvgAttention blocks > 0 then _ else _) ∈ _
  split
  · exact div_mem_Icc (hblocks b hb).avg_nonneg (le_maxAvgAttention hb)
  · norm_num

variable [Numerics]

theorem scoreBlocks_mem (p : LearnedPolicy) {blocks : List BlockState}
    (hblocks : AllInRange blocks) (m : SystemMetrics) {score : ℚ}
    (hscore : score ∈ p.scoreBlocks blocks m) : score ∈ Set.Icc (0 : ℚ) 1 := by
  unfold scoreBlocks at hscore
  cases hscores : p.modelScores blocks m with
  | error e =>
      rw [hscores] at hscore
      exact attentionFallback_mem hblocks hscore
  | ok scores =>
      rw [hscores] at hscore
      obtain ⟨raw, lo, hi, _, hlo, hhi, rfl⟩ := exists_raw_of_modelScores hscores
      exact normalise_mem hlo hhi hscore

end LearnedPolicy

/-! ## The policies that ask for scores -/

theorem zip_mem {blocks : List BlockState} {scores : List ℚ}
    (hscores : ∀ score ∈ scores, score ∈ Set.Icc (0 : ℚ) 1) {x : BlockState × ℚ}
    (hx : x ∈ blocks.zip scores) : x.2 ∈ Set.Icc (0 : ℚ) 1 :=
  hscores x.2 (List.of_mem_zip hx).2

namespace HybridAdaptivePolicy

/-- The weights are not negative and add up to at most one. -/
theorem weights_bounds (cfg : PolicyConfig) (wt : WorkloadType) :
    0 ≤ (weights cfg wt).1 ∧ 0 ≤ (weights cfg wt).2.1 ∧ 0 ≤ (weights cfg wt).2.2 ∧
      (weights cfg wt).1 + (weights cfg wt).2.1 + (weights cfg wt).2.2 ≤ 1 := by
  unfold weights
  have hrec : 0 ≤ max 0 (cfg.recencyWeight + wt.deltas.1) := le_max_left 0 _
  have hatt : 0 ≤ max 0 (cfg.attentionWeight + wt.deltas.2.1) := le_max_left 0 _
  have hreu : 0 ≤ max 0 (cfg.reuseWeight + wt.deltas.2.2) := le_max_left 0 _
  generalize max 0 (cfg.recencyWeight + wt.deltas.1) = wRec at hrec ⊢
  generalize max 0 (cfg.attentionWeight + wt.deltas.2.1) = wAtt at hatt ⊢
  generalize max 0 (cfg.reuseWeight + wt.deltas.2.2) = wReu at hreu ⊢
  dsimp only
  split
  · rename_i hpos
    refine ⟨div_nonneg hrec hpos.le, div_nonneg hatt hpos.le, div_nonneg hreu hpos.le, ?_⟩
    show wRec / (wRec + wAtt + wReu) + wAtt / (wRec + wAtt + wReu) +
      wReu / (wRec + wAtt + wReu) ≤ 1
    rw [← add_div, ← add_div, div_self (ne_of_gt hpos)]
  · rename_i hzero
    refine ⟨hrec, hatt, hreu, ?_⟩
    show wRec + wAtt + wReu ≤ 1
    linarith [not_lt.mp hzero]

/-- Recency relative to a step that no block is ahead of. -/
theorem recency_mem {step last : Int} (hle : last ≤ step) :
    max (0 : ℚ) (1 - (step - last : Int) / (max step 1 : Int)) ∈ Set.Icc (0 : ℚ) 1 := by
  have hinactive : (0 : ℚ) ≤ (step - last : Int) := by
    exact_mod_cast Int.sub_nonneg_of_le hle
  have hmax : (0 : ℚ) ≤ (max step 1 : Int) := by
    exact_mod_cast (by omega : (0 : Int) ≤ max step 1)
  have hquot := div_nonneg hinactive hmax
  refine ⟨le_max_left 0 _, max_le zero_le_one ?_⟩
  linarith

theorem scoreBlock_mem (cfg : PolicyConfig) {b : BlockState} (hb : b.InRange) {m : SystemMetrics}
    (hstep : ∀ step, m.globalStep = some step → b.lastAccessStep ≤ step) :
    scoreBlock cfg b m ∈ Set.Icc (0 : ℚ) 1 := by
  obtain ⟨hrec, hatt, hreu, hsum⟩ := weights_bounds cfg (workloadOf m)
  unfold scoreBlock
  apply weightedSum_mem_Icc hrec hatt hreu hsum
  · apply recency_mem
    cases hglobal : m.globalStep with
    | none =>
        show b.lastAccessStep ≤ max b.lastAccessStep 1
        omega
    | some step => exact hstep step hglobal
  · -- the quotient is capped at one, whatever maximum the metrics name
    refine ⟨le_min zero_le_one ?_, min_le_left _ _⟩
    split
    · rename_i hpos
      exact div_nonneg hb.avg_nonneg hpos.le
    · exact le_refl 0
  · split
    · exact one_mem_Icc
    · exact zero_mem_Icc

variable [Numerics]

theorem scoreAll_mem (p : HybridAdaptivePolicy) {blocks : List BlockState}
    (hblocks : AllInRange blocks) {m : SystemMetrics}
    (hstep : ∀ b ∈ blocks, ∀ step, m.globalStep = some step → b.lastAccessStep ≤ step)
    {score : ℚ} (hscore : score ∈ p.scoreAll blocks m) : score ∈ Set.Icc (0 : ℚ) 1 := by
  have hcomposite : score ∈ blocks.map (fun b => scoreBlock p.config b m) →
      score ∈ Set.Icc (0 : ℚ) 1 := by
    intro hmem
    obtain ⟨b, hb, rfl⟩ := List.mem_map.mp hmem
    exact scoreBlock_mem p.config (hblocks b hb) (hstep b hb)
  unfold scoreAll at hscore
  cases hlearned : p.learnedPolicy with
  | none =>
      rw [hlearned] at hscore
      exact hcomposite hscore
  | some lp =>
      rw [hlearned] at hscore
      dsimp only at hscore
      split at hscore
      · exact lp.scoreBlocks_mem hblocks m hscore
      · exact hcomposite hscore

theorem scoresInRange (p : HybridAdaptivePolicy) {blocks : List BlockState}
    (hblocks : AllInRange blocks) {m : SystemMetrics}
    (hstep : ∀ b ∈ blocks, ∀ step, m.globalStep = some step → b.lastAccessStep ≤ step) :
    ScoresInRange (p.decisions blocks m) := by
  have hscores : ∀ score ∈ p.scoreAll blocks m, score ∈ Set.Icc (0 : ℚ) 1 :=
    fun score => p.scoreAll_mem hblocks hstep
  apply scoresInRange_guarded
  split
  · apply scoresInRange_map
    intro x hx
    have hscore := zip_mem hscores hx
    unfold mediumDecision
    split
    · exact one_mem_Icc
    · split
      · exact hscore
      · split
        · exact hscore
        · split <;> exact hscore
  · apply scoresInRange_map
    intro x hx
    have hscore := zip_mem hscores hx
    unfold highDecision
    split
    · exact hscore
    · split
      · exact hscore
      · split <;> exact hscore

end HybridAdaptivePolicy

theorem LearnedPolicy.scoresInRange [Numerics] (p : LearnedPolicy) {blocks : List BlockState}
    (hblocks : AllInRange blocks) (m : SystemMetrics) : ScoresInRange (p.decisions blocks m) := by
  have hscores : ∀ score ∈ p.scoreBlocks blocks m, score ∈ Set.Icc (0 : ℚ) 1 :=
    fun score => p.scoreBlocks_mem hblocks m
  apply scoresInRange_guarded
  apply scoresInRange_map
  intro x hx
  have hscore := zip_mem hscores hx
  unfold blockDecision
  split
  · exact one_mem_Icc
  · unfold scoreToDecision
    dsimp only
    split
    · exact hscore
    · split
      · exact hscore
      · split <;> exact hscore

/-- No policy leaves the range, where no block is ahead of the global step. -/
theorem BuiltinPolicy.scoresInRange_decide [Numerics] (p : BuiltinPolicy)
    {blocks : List BlockState} (hblocks : AllInRange blocks) {m : SystemMetrics}
    (hstep : ∀ b ∈ blocks, ∀ step, m.globalStep = some step → b.lastAccessStep ≤ step) :
    ScoresInRange (PolicyInterface.decide p blocks m).1 := by
  cases p with
  | fullCache p => exact scoresInRange_fullCache p.config blocks m
  | slidingWindow p => exact scoresInRange_slidingWindow p.config blocks m
  | h2o p => exact scoresInRange_h2o hblocks p.config m
  | prefixCaching p => exact scoresInRange_prefixCaching hblocks p.config m
  | quantizeOnly p => exact scoresInRange_quantizeOnly hblocks p.config m
  | offloadOnly p => exact scoresInRange_offloadOnly hblocks p.config m
  | hybrid p => exact p.scoresInRange hblocks hstep
  | learned p =>
      cases hready : p.isReady with
      | false =>
          rw [decide_learned_of_not_ready hready]
          exact scoresInRange_h2o hblocks p.config m
      | true =>
          rw [decide_learned_of_ready hready]
          exact p.scoresInRange hblocks m

/-! ## The operations -/

/-- Attention arrays carry weights between zero and one; non-finite entries may
stand anywhere. -/
def EngineOp.WeightsInRange {π : Type} : EngineOp π → Prop
  | .updateAttention _ attentionScores => ∀ x, some x ∈ attentionScores → x ∈ Set.Icc (0 : ℚ) 1
  | .registerBlock _ _ _ _ => True
  | .evictBlock _ => True
  | .releaseRequestBlocks _ => True
  | .markAccessed _ _ => True
  | .updateMemorySnapshot _ _ _ => True
  | .markPrefixReuse _ _ => True
  | .incrementAge _ => True
  | .runPolicyCycle => True
  | .overridePolicy _ => True

section Tracker

variable {t : BlockTracker} (h : AllInRange t.getAllBlocks)

include h

theorem inRange_modifyBlock {i : Int} {f : BlockState → BlockState}
    (hid : ∀ b, (f b).blockId = b.blockId) (hf : ∀ b, b.InRange → (f b).InRange) :
    AllInRange (t.modifyBlock i f hid).getAllBlocks := by
  intro b hb
  obtain ⟨b', hb', hnew | hsame⟩ := BlockTracker.mem_modifyBlock hb
  · rw [hnew]
    exact hf b' (h b' hb')
  · rw [hsame]
    exact h b' hb'

/-- Both modes of the update keep the average below the maximum. -/
theorem inRange_updateAttention (blockId : Int) {attentionScores : List (Option ℚ)}
    (hscores : ∀ x, some x ∈ attentionScores → x ∈ Set.Icc (0 : ℚ) 1) :
    AllInRange (t.updateAttention blockId attentionScores).getAllBlocks := by
  unfold BlockTracker.updateAttention
  dsimp only
  split
  · exact h
  · rename_i hnonempty
    have hne : attentionScores.filterMap id ≠ [] := by simpa using hnonempty
    have hfinite : ∀ x ∈ attentionScores.filterMap id, x ∈ Set.Icc (0 : ℚ) 1 := by
      intro x hx
      rw [List.mem_filterMap] at hx
      obtain ⟨y, hy, hyx⟩ := hx
      exact hscores x (hyx ▸ hy)
    obtain ⟨hmean0, hmeanMax, hmax1⟩ := mean_bounds hne hfinite
    apply inRange_modifyBlock h
    intro b hb
    split
    · exact ⟨hmean0, hmeanMax, hmax1, hb.importance⟩
    · -- the average moves between two values that are below the new maximum
      refine ⟨?_, ?_, max_le hb.max_le_one hmax1, hb.importance⟩
      · show 0 ≤ BlockTracker.attentionAlpha * _ + (1 - BlockTracker.attentionAlpha) * _
        have havg := hb.avg_nonneg
        rw [BlockTracker.attentionAlpha]
        linarith
      · show BlockTracker.attentionAlpha * _ + (1 - BlockTracker.attentionAlpha) * _ ≤ max _ _
        have hold : b.avgAttentionScore ≤
            max b.maxAttentionScore (maxD (attentionScores.filterMap id) 0) :=
          hb.avg_le_max.trans (le_max_left _ _)
        have hnew : (attentionScores.filterMap id).sum / (attentionScores.filterMap id).length ≤
            max b.maxAttentionScore (maxD (attentionScores.filterMap id) 0) :=
          hmeanMax.trans (le_max_right _ _)
        rw [BlockTracker.attentionAlpha]
        linarith

theorem inRange_onTracker {π : Type} {op : EngineOp π} (hop : op.WeightsInRange) :
    AllInRange (op.onTracker t).getAllBlocks := by
  cases op with
  | registerBlock blockId layerId headGroup requestId =>
      intro b hb
      rcases BlockTracker.mem_registerBlock hb with hfresh | hold
      · rw [hfresh]
        exact ⟨le_refl 0, le_refl 0, zero_le_one, zero_mem_Icc⟩
      · exact h b hold
  | evictBlock blockId =>
      intro b hb
      rw [EngineOp.onTracker, BlockTracker.getAllBlocks_evictBlock] at hb
      exact h b (List.mem_of_mem_filter hb)
  | releaseRequestBlocks requestId =>
      intro b hb
      rw [EngineOp.onTracker, BlockTracker.getAllBlocks_releaseRequestBlocks] at hb
      exact h b (List.mem_of_mem_filter hb)
  | updateAttention blockId attentionScores => exact inRange_updateAttention h blockId hop
  | markAccessed blockId step =>
      apply inRange_modifyBlock h
      · intro b
        rfl
      · exact fun b hb => hb.congr rfl rfl rfl
  | updateMemorySnapshot blockId gpuMemUsedMb gpuMemFreeMb =>
      apply inRange_modifyBlock h
      · intro b
        rfl
      · exact fun b hb => hb.congr rfl rfl rfl
  | markPrefixReuse blockId reused =>
      apply inRange_modifyBlock h
      · intro b
        rfl
      · exact fun b hb => hb.congr rfl rfl rfl
  | incrementAge step =>
      intro b hb
      rw [EngineOp.onTracker, BlockTracker.incrementAge,
        BlockTracker.getAllBlocks_updateBlocks, List.mem_filterMap] at hb
      obtain ⟨b', hb', heq⟩ := hb
      rw [← Option.some.inj heq]
      exact (h b' hb').congr rfl rfl rfl
  | runPolicyCycle => exact h
  | overridePolicy newPolicy => exact h

/-- A decision pass writes scores in range back as importance. -/
theorem inRange_applyDecisions {decisions : List PolicyDecision}
    (hdecisions : ScoresInRange decisions) :
    AllInRange (applyDecisions t decisions).getAllBlocks := by
  intro b hb
  obtain ⟨b', hb', _, hstamp⟩ := mem_getAllBlocks_applyDecisions.mp hb
  have hold := h b' hb'
  cases hlast : lastDecision decisions b'.blockId with
  | none =>
      rw [← hstamp, hlast]
      exact hold
  | some d =>
      rw [← hstamp, hlast]
      exact ⟨hold.avg_nonneg, hold.avg_le_max, hold.max_le_one,
        hdecisions d (mem_of_lastDecision hlast).1⟩

end Tracker

/-! ## Runs -/

section Run

variable [Numerics]

theorem scoresInRange_cycleDecisions {e : PolicyEngine BuiltinPolicy}
    (h : AllInRange e.blockTracker.getAllBlocks) : ScoresInRange e.cycleDecisions := by
  apply PolicyEngine.cycleDecisions_of_decide
  · intro d hd
    cases hd
  · apply e.policy.scoresInRange_decide h
    intro b hb step hstep
    cases hstep
    exact le_maxD (List.mem_map_of_mem (f := (·.lastAccessStep)) hb) 0

theorem inRange_perform (e : PolicyEngine BuiltinPolicy) (op : EngineOp BuiltinPolicy)
    (hop : op.WeightsInRange) (h : AllInRange e.blockTracker.getAllBlocks) :
    AllInRange (e.perform op).blockTracker.getAllBlocks := by
  cases op with
  | runPolicyCycle =>
      show AllInRange e.cycle.blockTracker.getAllBlocks
      rw [e.blockTracker_cycle]
      exact inRange_applyDecisions h (scoresInRange_cycleDecisions h)
  | overridePolicy newPolicy => exact h
  | registerBlock | evictBlock | releaseRequestBlocks | updateAttention | markAccessed
  | updateMemorySnapshot | markPrefixReuse | incrementAge => exact inRange_onTracker h hop

/-- **The value invariant of the block store.**

In every state of a run whose attention arrays carry weights between zero and
one, under any built-in policies with any weights and any model, every tracked
block has `0 ≤ avg ≤ max ≤ 1` and an importance between zero and one, and so has
every decision of a cycle its score. -/
theorem values_in_range (policy : BuiltinPolicy) (numLayers numHeads blockSize headDim : Nat)
    (telemetryCollector : Option TelemetryCollector) (ops : List (EngineOp BuiltinPolicy))
    (hops : ∀ op ∈ ops, op.WeightsInRange) :
    let e := run PolicyEngine.perform
      (PolicyEngine.init policy numLayers numHeads blockSize headDim telemetryCollector) ops
    (∀ b ∈ e.blockTracker.getAllBlocks,
      (0 ≤ b.avgAttentionScore ∧ b.avgAttentionScore ≤ b.maxAttentionScore ∧
        b.maxAttentionScore ≤ 1) ∧
      0 ≤ b.importanceScore ∧ b.importanceScore ≤ 1) ∧
    ∀ d ∈ e.cycleDecisions, 0 ≤ d.score ∧ d.score ≤ 1 := by
  intro e
  have hinit : AllInRange (PolicyEngine.init policy numLayers numHeads blockSize headDim
      telemetryCollector).blockTracker.getAllBlocks := by
    intro b hb
    cases hb
  have hrun : AllInRange e.blockTracker.getAllBlocks :=
    run_invariant_of_forall inRange_perform ops _ hops hinit
  constructor
  · intro b hb
    have hrange := hrun b hb
    exact ⟨⟨hrange.avg_nonneg, hrange.avg_le_max, hrange.max_le_one⟩, hrange.importance⟩
  · intro d hd
    exact scoresInRange_cycleDecisions hrun d hd

end Run

/-- A block seen twice around an access and a cycle, once with a non-finite
entry. -/
def seenTwice : List (EngineOp BuiltinPolicy) :=
  [ .registerBlock 1 0 0 "r",
    .updateAttention 1 [some (1 / 2), none, some 1],
    .markAccessed 1 3,
    .runPolicyCycle,
    .updateAttention 1 [some 0] ]

theorem values_in_range_seen_twice :
    letI : Numerics := lineNumerics.toNumerics
    let e := run PolicyEngine.perform
      (PolicyEngine.init (.hybrid { config := {} }) 2 4 16 128) seenTwice
    ∀ d ∈ e.cycleDecisions, 0 ≤ d.score ∧ d.score ≤ 1 := by
  refine (@values_in_range lineNumerics.toNumerics (.hybrid { config := {} }) 2 4 16 128 none
    seenTwice ?_).2
  intro op hop
  simp only [seenTwice, List.mem_cons, List.not_mem_nil, or_false] at hop
  rcases hop with rfl | rfl | rfl | rfl | rfl
  · trivial
  · intro x hx
    simp only [List.mem_cons, Option.some.injEq, reduceCtorEq, List.not_mem_nil, or_false,
      false_or] at hx
    rcases hx with rfl | rfl <;> norm_num
  · trivial
  · trivial
  · intro x hx
    simp only [List.mem_cons, Option.some.injEq, List.not_mem_nil, or_false] at hx
    rw [hx]
    exact zero_mem_Icc

end KVOrchestrator.Ports
