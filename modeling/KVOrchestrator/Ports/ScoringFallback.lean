import KVOrchestrator.Ports.Hybrid

/-!
# Which fallback a failed learned scoring takes

Two handlers wait for the same failure.  `score_blocks` catches whatever the
feature extraction or the model raises and answers with relative attention;
`_score_all` of the hybrid controller catches whatever `score_blocks` raises and
falls back to its own composite.  The inner handler divides by a positive number
only and raises nothing (`scoreBlocksCall_eq`), so the outer one is never
entered: workload, recency and reuse do not count after a failure.  The scores
are the composite ones exactly where the two formulas meet
(`learned_fallback_iff`).
-/

namespace KVOrchestrator.Ports

open KVOrchestrator.Verified

namespace LearnedPolicy

/-- `b.avg_attention_score / max_attn if max_attn > 0 else 0.5` -/
def relativeAttention (blocks : List BlockState) (b : BlockState) : ℚ :=
  if maxAvgAttention blocks > 0 then b.avgAttentionScore / maxAvgAttention blocks else 5 / 10

theorem attentionFallback_eq_map (blocks : List BlockState) :
    attentionFallback blocks = blocks.map (relativeAttention blocks) := rfl

/-- The handler of `score_blocks`, its divisions checked. -/
def fallbackCall (blocks : List BlockState) : Except PyError (List ℚ) :=
  let maxAttn := maxAvgAttention blocks
  blocks.mapM (fun b => if maxAttn > 0 then pyDiv b.avgAttentionScore maxAttn else .ok (5 / 10))

/-- `score_blocks` as a call that may raise. -/
def scoreBlocksCall [Numerics] (p : LearnedPolicy) (blocks : List BlockState)
    (m : SystemMetrics) : Except PyError (List ℚ) :=
  match p.modelScores blocks m with
  | .ok scores => .ok scores
  | .error _ => fallbackCall blocks

theorem fallbackCall_eq (blocks : List BlockState) :
    fallbackCall blocks = .ok (attentionFallback blocks) := by
  rw [attentionFallback_eq_map]
  apply mapM_ok
  intro b _
  rw [relativeAttention]
  split
  · rename_i hpos
    exact pyDiv_of_ne_zero _ hpos.ne'
  · rfl

/-- **The inner handler** leaves nothing for the outer one. -/
theorem scoreBlocksCall_eq [Numerics] (p : LearnedPolicy) (blocks : List BlockState)
    (m : SystemMetrics) : p.scoreBlocksCall blocks m = .ok (p.scoreBlocks blocks m) := by
  rw [scoreBlocksCall, scoreBlocks]
  cases p.modelScores blocks m with
  | ok scores => rfl
  | error e => exact fallbackCall_eq blocks

/-- What raises before the normalisation ends in the attention fallback. -/
theorem scoreBlocks_of_raise [Numerics] {p : LearnedPolicy} {blocks : List BlockState}
    {m : SystemMetrics} {e : PyError} (hraise : p.rawPredictions blocks m = .error e) :
    p.scoreBlocks blocks m = attentionFallback blocks := by
  have hscores : p.modelScores blocks m = .error e := by
    rw [modelScores, hraise]
    rfl
  rw [scoreBlocks, hscores]

end LearnedPolicy

namespace HybridAdaptivePolicy

/-- `_score_all` with its handler. -/
def scoreAllCall [Numerics] (p : HybridAdaptivePolicy) (blocks : List BlockState)
    (m : SystemMetrics) : List ℚ :=
  match p.learnedPolicy with
  | some lp =>
      if lp.isReady then
        match lp.scoreBlocksCall blocks m with
        | .ok scores => scores
        | .error _ => blocks.map (fun b => scoreBlock p.config b m)
      else blocks.map (fun b => scoreBlock p.config b m)
  | none => blocks.map (fun b => scoreBlock p.config b m)

theorem scoreAllCall_eq [Numerics] (p : HybridAdaptivePolicy) (blocks : List BlockState)
    (m : SystemMetrics) : p.scoreAllCall blocks m = p.scoreAll blocks m := by
  rw [scoreAllCall, scoreAll]
  cases p.learnedPolicy with
  | none => rfl
  | some lp =>
      simp only [LearnedPolicy.scoreBlocksCall_eq]

/-- Relative attention is what recency, attention and reuse add up to under the
weights of the workload. -/
def FormulasMeet (cfg : PolicyConfig) (blocks : List BlockState) (m : SystemMetrics)
    (b : BlockState) : Prop :=
  LearnedPolicy.relativeAttention blocks b =
    (weights cfg (workloadOf m)).1 * recencyTerm b m +
      (weights cfg (workloadOf m)).2.1 * attentionTerm b m +
      (weights cfg (workloadOf m)).2.2 * reuseTerm b

instance (cfg : PolicyConfig) (blocks : List BlockState) (m : SystemMetrics)
    (b : BlockState) : Decidable (FormulasMeet cfg blocks m b) := by
  unfold FormulasMeet
  infer_instance

/-- **After a failure the scores are those of relative attention.**

Whenever a learned policy with a loaded model is attached and the feature
extraction or the model raises, the scores are the composite ones exactly if
relative attention meets the composite at every block of the batch. -/
theorem learned_fallback_iff [Numerics] {p : HybridAdaptivePolicy} {lp : LearnedPolicy}
    (hlp : p.learnedPolicy = some lp) (hready : lp.isReady = true)
    {blocks : List BlockState} {m : SystemMetrics} {e : PyError}
    (hraise : lp.rawPredictions blocks m = .error e) :
    p.scoreAllCall blocks m = blocks.map (fun b => scoreBlock p.config b m) ↔
      ∀ b ∈ blocks, FormulasMeet p.config blocks m b := by
  have hscores : p.scoreAllCall blocks m =
      blocks.map (LearnedPolicy.relativeAttention blocks) := by
    rw [scoreAllCall_eq, scoreAll, hlp]
    show (if lp.isReady = true then lp.scoreBlocks blocks m else _) = _
    rw [if_pos hready, LearnedPolicy.scoreBlocks_of_raise hraise,
      LearnedPolicy.attentionFallback_eq_map]
  rw [hscores, List.map_inj_left]
  exact Iff.rfl

/-- A loaded model whose `predict` raises. -/
def raisingModel : Model where
  predict _ := .error (.valueError "feature_names mismatch")

/-- A learned policy that has loaded it. -/
def learnedWithRaisingModel (config : PolicyConfig) : LearnedPolicy where
  config := config
  model := some raisingModel

/-- A controller with that policy attached. -/
def hybridWithRaisingModel : HybridAdaptivePolicy where
  config := {}
  learnedPolicy := some (learnedWithRaisingModel {})

/-- A block that was just read, has all the attention and reuses no prefix. -/
def freshBlock : BlockState where
  blockId := 7
  layerId := 0
  headGroup := 0
  requestId := "r"
  lastAccessStep := 8
  avgAttentionScore := 1
  maxAttentionScore := 1

/-- The metrics of a cycle at step 8. -/
def stepEightMetrics : SystemMetrics where
  globalStep := some 8
  attnMax := some 1

/-- The block has 1.0 by relative attention and 0.8 by the composite. -/
theorem learned_fallback_differs :
    letI : Numerics := lineNumerics.toNumerics
    hybridWithRaisingModel.scoreAllCall [freshBlock] stepEightMetrics = [1] ∧
      [freshBlock].map (fun b => scoreBlock hybridWithRaisingModel.config b stepEightMetrics) =
        [8 / 10] ∧
      hybridWithRaisingModel.scoreAllCall [freshBlock] stepEightMetrics ≠
        [freshBlock].map (fun b =>
          scoreBlock hybridWithRaisingModel.config b stepEightMetrics) := by
  decide +kernel

/-- A reused prefix makes the two formulas meet. -/
theorem learned_fallback_iff_reused :
    letI : Numerics := lineNumerics.toNumerics
    hybridWithRaisingModel.scoreAllCall [{ freshBlock with prefixReuseFlag := true }]
        stepEightMetrics =
      [{ freshBlock with prefixReuseFlag := true }].map (fun b =>
        scoreBlock hybridWithRaisingModel.config b stepEightMetrics) := by
  let _ : Numerics := lineNumerics.toNumerics
  have hlp : hybridWithRaisingModel.learnedPolicy = some (learnedWithRaisingModel {}) := rfl
  have hraise : (learnedWithRaisingModel {}).rawPredictions
      [{ freshBlock with prefixReuseFlag := true }] stepEightMetrics =
        .error (.valueError "feature_names mismatch") := by decide +kernel
  exact (learned_fallback_iff hlp rfl hraise).mpr (by decide +kernel)

end HybridAdaptivePolicy

end KVOrchestrator.Ports
