import KVOrchestrator.Ports.RecencyMeasures
import KVOrchestrator.Ports.ScoreBounds

/-!
# The hybrid score is monotone

The composite of `_score_block` is a sum of three terms by weights that are
clipped at zero, so it moves with its terms (`scoreBlock_le_scoreBlock`), and
each term moves with one signal of the block and against one metric of the
cycle.  The recency term needs the clamp: before it, a block last accessed in a
negative step would gain from a later global step.
-/

namespace KVOrchestrator.Ports

open KVOrchestrator.Verified

namespace HybridAdaptivePolicy

/-- The composite follows its terms where the metrics name one workload. -/
theorem scoreBlock_le_scoreBlock (cfg : PolicyConfig) {b b' : BlockState} {m m' : SystemMetrics}
    (hworkload : m'.workloadType = m.workloadType) (hrec : recencyTerm b m ≤ recencyTerm b' m')
    (hatt : attentionTerm b m ≤ attentionTerm b' m') (hreu : reuseTerm b ≤ reuseTerm b') :
    scoreBlock cfg b m ≤ scoreBlock cfg b' m' := by
  have hsame : workloadOf m' = workloadOf m := by rw [workloadOf, workloadOf, hworkload]
  obtain ⟨hwRec, hwAtt, hwReu, _⟩ := weights_bounds cfg (workloadOf m)
  rw [scoreBlock_eq, scoreBlock_eq, hsame]
  apply add_le_add
  · apply add_le_add
    · exact mul_le_mul_of_nonneg_left hrec hwRec
    · exact mul_le_mul_of_nonneg_left hatt hwAtt
  · exact mul_le_mul_of_nonneg_left hreu hwReu

/-! ## Signals of the block -/

/-- A higher average relative to the same maximum. -/
theorem attentionTerm_mono (m : SystemMetrics) {b b' : BlockState}
    (hmax : b'.maxAttentionScore = b.maxAttentionScore)
    (hle : b.avgAttentionScore ≤ b'.avgAttentionScore) :
    attentionTerm b m ≤ attentionTerm b' m := by
  simp only [attentionTerm, hmax]
  apply min_le_min_left
  split
  · rename_i hpos
    exact div_le_div_of_nonneg_right hle hpos.le
  · exact le_refl 0

theorem reuseTerm_le_one (b : BlockState) : reuseTerm b ≤ 1 := by
  unfold reuseTerm
  split
  · exact le_refl 1
  · exact zero_le_one

/-- Without a global step a block accessed in a positive step counts as
accessed last, any other as never accessed. -/
theorem recencyTerm_of_no_step {m : SystemMetrics} (hm : m.globalStep = none) (b : BlockState) :
    recencyTerm b m = if 1 ≤ b.lastAccessStep then 1 else 0 := by
  simp only [recencyTerm, hm, Option.getD_none]
  split
  · rename_i hpos
    rw [max_eq_left hpos, sub_self]
    norm_num
  · rename_i hneg
    have hlast : (b.lastAccessStep : ℚ) ≤ 0 := by
      exact_mod_cast (by omega : b.lastAccessStep ≤ 0)
    rw [max_eq_right (by omega : b.lastAccessStep ≤ 1), max_self]
    apply max_eq_left
    push_cast
    linarith

/-- A later access, whether or not the metrics name a step. -/
theorem recencyTerm_le_recencyTerm (m : SystemMetrics) {b b' : BlockState}
    (hle : b.lastAccessStep ≤ b'.lastAccessStep) : recencyTerm b m ≤ recencyTerm b' m := by
  cases hm : m.globalStep with
  | some step => exact recencyTerm_mono hle hm
  | none =>
      rw [recencyTerm_of_no_step hm, recencyTerm_of_no_step hm]
      split
      · rename_i hpos
        rw [if_pos (by omega)]
      · split
        · exact zero_le_one
        · exact le_refl 0

/-! ## Metrics of the cycle -/

/-- From step one on, recency is the quotient of the steps. -/
theorem recency_eq_div {step : Int} (hstep : 1 ≤ step) (last : Int) :
    (1 : ℚ) - (step - last : Int) / (max step 1 : Int) = last / step := by
  have hne : (step : ℚ) ≠ 0 := by exact_mod_cast (by omega : step ≠ 0)
  rw [max_eq_left hstep, one_sub_div hne]
  push_cast
  rw [sub_sub_cancel]

/-- Recency relative to an earlier step that the block is not ahead of. -/
theorem recency_antitone {last step step' : Int} (hle : step' ≤ step) (hlast : last ≤ step') :
    max (0 : ℚ) (1 - (step - last : Int) / (max step 1 : Int)) ≤
      max (0 : ℚ) (1 - (step' - last : Int) / (max step' 1 : Int)) := by
  by_cases hstep : 1 ≤ step
  · have hpos : (0 : ℚ) < step := by exact_mod_cast hstep
    rw [recency_eq_div hstep]
    by_cases hone : 1 ≤ last
    · have hpos' : (0 : ℚ) < step' := by exact_mod_cast hone.trans hlast
      have hlastQ : (0 : ℚ) ≤ last := by exact_mod_cast (by omega : 0 ≤ last)
      rw [recency_eq_div (hone.trans hlast)]
      apply max_le_max_left
      exact div_le_div_of_nonneg_left hlastQ hpos' (by exact_mod_cast hle)
    · -- the clamp hides that the quotient of a negative step grows with the global one
      have hlastQ : (last : ℚ) ≤ 0 := by exact_mod_cast (by omega : last ≤ 0)
      rw [max_eq_left (div_nonpos_of_nonpos_of_nonneg hlastQ hpos.le)]
      exact le_max_left 0 _
  · have hsub : ((step' - last : Int) : ℚ) ≤ (step - last : Int) := by
      exact_mod_cast (by omega : step' - last ≤ step - last)
    rw [max_eq_right (by omega : step ≤ 1), max_eq_right (by omega : step' ≤ 1)]
    apply max_le_max_left
    apply sub_le_sub_left
    exact div_le_div_of_nonneg_right hsub zero_le_one

/-- An earlier global step. -/
theorem recencyTerm_antitone {b : BlockState} {m m' : SystemMetrics} {step step' : Int}
    (hm : m.globalStep = some step) (hm' : m'.globalStep = some step') (hle : step' ≤ step)
    (hlast : b.lastAccessStep ≤ step') : recencyTerm b m ≤ recencyTerm b m' := by
  simp only [recencyTerm, hm, hm', Option.getD_some]
  exact recency_antitone hle hlast

/-- A smaller maximum that is still positive. -/
theorem attentionTerm_antitone {b : BlockState} {m m' : SystemMetrics} {attnMax attnMax' : ℚ}
    (hm : m.attnMax = some attnMax) (hm' : m'.attnMax = some attnMax') (hpos : 0 < attnMax')
    (hle : attnMax' ≤ attnMax) (hnonneg : 0 ≤ b.avgAttentionScore) :
    attentionTerm b m ≤ attentionTerm b m' := by
  simp only [attentionTerm, hm, hm', Option.getD_some]
  rw [if_pos (hpos.trans_le hle), if_pos hpos]
  apply min_le_min_left
  exact div_le_div_of_nonneg_left hnonneg hpos hle

/-- **The hybrid score is monotone in every signal.**

For every configuration and all metrics, whatever workload they name, a higher
average of attention, a later access and the reuse flag never lower the score of
a block.  Neither does an earlier global step that the block is not ahead of,
nor a smaller positive maximum of attention where the average is not negative. -/
theorem hybrid_score_monotone (cfg : PolicyConfig) (m : SystemMetrics) (b : BlockState) :
    (∀ avg, b.avgAttentionScore ≤ avg →
      scoreBlock cfg b m ≤ scoreBlock cfg { b with avgAttentionScore := avg } m) ∧
    (∀ last, b.lastAccessStep ≤ last → (∀ step, m.globalStep = some step → last ≤ step) →
      scoreBlock cfg b m ≤ scoreBlock cfg { b with lastAccessStep := last } m) ∧
    scoreBlock cfg b m ≤ scoreBlock cfg { b with prefixReuseFlag := true } m ∧
    (∀ step step', m.globalStep = some step → step' ≤ step → b.lastAccessStep ≤ step' →
      scoreBlock cfg b m ≤ scoreBlock cfg b { m with globalStep := some step' }) ∧
    ∀ attnMax attnMax', m.attnMax = some attnMax → 0 < attnMax' → attnMax' ≤ attnMax →
      0 ≤ b.avgAttentionScore →
      scoreBlock cfg b m ≤ scoreBlock cfg b { m with attnMax := some attnMax' } := by
  refine ⟨?_, ?_, ?_, ?_, ?_⟩
  · intro avg havg
    apply scoreBlock_le_scoreBlock
    · rfl
    · exact le_refl _
    · exact attentionTerm_mono m rfl havg
    · exact le_refl _
  · intro last hlast _
    apply scoreBlock_le_scoreBlock
    · rfl
    · exact recencyTerm_le_recencyTerm m hlast
    · exact le_refl _
    · exact le_refl _
  · apply scoreBlock_le_scoreBlock
    · rfl
    · exact le_refl _
    · exact le_refl _
    · exact reuseTerm_le_one b
  · intro step step' hm hle hlast
    apply scoreBlock_le_scoreBlock
    · rfl
    · exact recencyTerm_antitone hm rfl hle hlast
    · exact le_refl _
    · exact le_refl _
  · intro attnMax attnMax' hm hpos hle hnonneg
    apply scoreBlock_le_scoreBlock
    · rfl
    · exact le_refl _
    · exact attentionTerm_antitone hm rfl hpos hle hnonneg
    · exact le_refl _

/-- Negative weights and a workload that is none, over a block of step 2. -/
theorem hybrid_score_monotone_negative_weights :
    let cfg : PolicyConfig := { recencyWeight := -1, attentionWeight := 1 / 2 }
    let m : SystemMetrics :=
      { workloadType := some "poetry", globalStep := some 8, attnMax := some 1 }
    let b := accessedAt 1 2
    scoreBlock cfg b m ≤ scoreBlock cfg { b with avgAttentionScore := 1 / 2 } m ∧
      scoreBlock cfg b m ≤ scoreBlock cfg { b with lastAccessStep := 8 } m ∧
      scoreBlock cfg b m ≤ scoreBlock cfg b { m with globalStep := some 2 } ∧
      scoreBlock cfg b m ≤ scoreBlock cfg b { m with attnMax := some (1 / 4) } := by
  intro cfg m b
  obtain ⟨havg, hlast, _, hstep, hmax⟩ := hybrid_score_monotone cfg m b
  refine ⟨?_, ?_, ?_, ?_⟩
  · exact havg (1 / 2) (by decide +kernel)
  · apply hlast 8 (by decide)
    intro step hm
    rw [← Option.some.inj hm]
  · exact hstep 8 2 rfl (by decide) (by decide)
  · exact hmax 1 (1 / 4) rfl (by decide +kernel) (by decide +kernel) (by decide +kernel)

end HybridAdaptivePolicy

end KVOrchestrator.Ports
