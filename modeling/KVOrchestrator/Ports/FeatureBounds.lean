import KVOrchestrator.Ports.FeatureParity
import KVOrchestrator.Ports.RecencyMeasures
import KVOrchestrator.Ports.ScoreBounds
import Mathlib.Algebra.BigOperators.Field

/-!
# Feature extraction is total and bounded

Each denominator of `extract` has its own guard, and the guards rely on the
statistics of the batch the block is from: no block is older, or accessed later,
than the maximum, and no block has more attention than the total.  In exact
arithmetic every block of a batch therefore has a row (`features_bounded`).
Quotients by a maximum, capped quotients and flags lie between zero and one, the
rank counts the blocks with less attention, and the shares of attention add up
to one unless there is none.
-/

namespace KVOrchestrator.Ports

open KVOrchestrator.Verified

/-- The values extraction reads from a block are not negative; an access count
never is. -/
structure BlockState.Nonnegative (b : BlockState) : Prop where
  blockAgeSteps : 0 ≤ b.blockAgeSteps
  lastAccessStep : 0 ≤ b.lastAccessStep
  avgAttentionScore : 0 ≤ b.avgAttentionScore
  gpuMemUsedMb : 0 ≤ b.gpuMemUsedMb
  gpuMemFreeMb : 0 ≤ b.gpuMemFreeMb

/-- The entries extraction reads from the metrics are not negative; an absent
one counts as zero. -/
structure SystemMetrics.Nonnegative (m : SystemMetrics) : Prop where
  queueDepth : 0 ≤ m.queueDepth.getD 0
  contextLength : 0 ≤ m.contextLength.getD 0
  outputLength : 0 ≤ m.outputLength.getD 0

/-- The positions of the features that are normalised. -/
def normalisedFeatures : List Nat := [0, 1, 5, 10, 11, 12, 13, 14, 15, 16, 18, 19, 20]

/-- The rows of a batch are in range. -/
structure FeaturesBounded (blocks : List BlockState) (row : BlockState → List ℚ) : Prop where
  length : ∀ b ∈ blocks, (row b).length = 21
  normalised : ∀ b ∈ blocks, ∀ i ∈ normalisedFeatures, (row b).getD i 0 ∈ Set.Icc (0 : ℚ) 1
  recency_pos : ∀ b ∈ blocks, 0 < (row b).getD 1 0
  /-- The rank is the fraction of the batch with strictly lower attention. -/
  rank : ∀ b ∈ blocks, (row b).getD 5 0 =
    (blocks.countP (fun b' => decide (b'.avgAttentionScore < b.avgAttentionScore)) : ℚ) /
      blocks.length
  shares : (∃ b ∈ blocks, b.avgAttentionScore ≠ 0) →
    (blocks.map (fun b => (row b).getD 18 0)).sum = 1
  shares_zero : (∀ b ∈ blocks, b.avgAttentionScore = 0) → ∀ b ∈ blocks, (row b).getD 18 0 = 0

/-! ## Kinds of normalised features -/

theorem flag_mem (p : Prop) [Decidable p] : (if p then 1 else 0 : ℚ) ∈ Set.Icc (0 : ℚ) 1 := by
  split
  · exact one_mem_Icc
  · exact zero_mem_Icc

theorem min_one_mem {x : ℚ} (hx : 0 ≤ x) : min 1 x ∈ Set.Icc (0 : ℚ) 1 :=
  ⟨le_min zero_le_one hx, min_le_left 1 x⟩

/-- A value relative to a maximum that is at least one. -/
theorem div_max_one_mem {a top : Int} (ha : 0 ≤ a) (hle : a ≤ top) :
    (a : ℚ) / (max top 1 : Int) ∈ Set.Icc (0 : ℚ) 1 := by
  apply div_mem_Icc
  · exact_mod_cast ha
  · exact_mod_cast le_max_of_le_left hle

theorem workloadEncoding_div_mem (value : String) :
    workloadEncoding value / 6 ∈ Set.Icc (0 : ℚ) 1 := by
  have hrange : ∀ wt : WorkloadType, 0 ≤ wt.encoding ∧ wt.encoding ≤ 6 := by
    intro wt
    cases wt <;> norm_num [WorkloadType.encoding]
  unfold workloadEncoding
  cases WorkloadType.ofValue? value with
  | none => exact div_mem_Icc (le_refl 0) (by norm_num)
  | some wt => exact div_mem_Icc (hrange wt).1 (hrange wt).2

theorem tierEncoding_div_mem (tier : BlockTier) : tier.encoding / 3 ∈ Set.Icc (0 : ℚ) 1 := by
  apply div_mem_Icc
  · cases tier <;> norm_num [BlockTier.encoding]
  · cases tier <;> norm_num [BlockTier.encoding]

/-- The share of the used memory, where there is any memory. -/
theorem memoryShare_mem {b : BlockState} (hb : b.Nonnegative) :
    (if b.gpuMemUsedMb + b.gpuMemFreeMb > 0 then
      b.gpuMemUsedMb / (b.gpuMemUsedMb + b.gpuMemFreeMb) else 0) ∈ Set.Icc (0 : ℚ) 1 := by
  split
  · exact div_mem_Icc hb.gpuMemUsedMb (le_add_of_nonneg_right hb.gpuMemFreeMb)
  · exact zero_mem_Icc

/-! ## Recency -/

/-- The reciprocal of the distance to the latest access, plus one. -/
theorem reciprocal_mem {last top : Int} (hle : last ≤ top) :
    0 < 1 / (1 + (top : ℚ) - last) ∧ 1 / (1 + (top : ℚ) - last) ≤ 1 := by
  have hleQ : (last : ℚ) ≤ top := by exact_mod_cast hle
  constructor
  · apply one_div_pos.mpr
    linarith
  · apply div_le_one_of_le₀
    · linarith
    · linarith

/-- The distance to the latest access relative to it. -/
theorem interval_mem {last top : Int} (hlast : 0 ≤ last) (hle : last ≤ top) :
    ((top - last : Int) : ℚ) / top ∈ Set.Icc (0 : ℚ) 1 := by
  apply div_mem_Icc
  · exact_mod_cast Int.sub_nonneg_of_le hle
  · exact_mod_cast (by omega : top - last ≤ top)

/-! ## Attention -/

section Attention

variable {blocks : List BlockState}

/-- Binary search in the sorted scores counts the lower ones, ties apart. -/
theorem searchsorted_attnSorted (blocks : List BlockState) (v : ℚ) :
    searchsorted (attnSorted blocks) v =
      blocks.countP (fun b => decide (b.avgAttentionScore < v)) := by
  rw [searchsorted, attnSorted, (sortBy_perm id _).countP_eq, List.countP_map]
  rfl

theorem rank_mem (blocks : List BlockState) (v : ℚ) :
    (searchsorted (attnSorted blocks) v : ℚ) / (attnSorted blocks).length ∈ Set.Icc (0 : ℚ) 1 := by
  apply div_mem_Icc
  · exact Nat.cast_nonneg _
  · exact_mod_cast List.countP_le_length

variable (hblocks : ∀ b ∈ blocks, b.Nonnegative)

include hblocks

/-- No block has more attention than the batch. -/
theorem attention_le_sum {b : BlockState} (hb : b ∈ blocks) :
    b.avgAttentionScore ≤ (blocks.map (·.avgAttentionScore)).sum := by
  apply List.single_le_sum
  · intro x hx
    obtain ⟨b', hb', rfl⟩ := List.mem_map.mp hx
    exact (hblocks b' hb').avgAttentionScore
  · exact List.mem_map_of_mem hb

theorem attentionShare_mem {b : BlockState} (hb : b ∈ blocks) :
    b.avgAttentionScore / orOne (blocks.map (·.avgAttentionScore)).sum ∈ Set.Icc (0 : ℚ) 1 := by
  have hle := attention_le_sum hblocks hb
  apply div_mem_Icc (hblocks b hb).avgAttentionScore
  unfold orOne
  split
  · rename_i hzero
    linarith
  · exact hle

/-- The shares of attention add up to one where there is any. -/
theorem sum_attentionShare {b : BlockState} (hb : b ∈ blocks) (hne : b.avgAttentionScore ≠ 0) :
    (blocks.map (fun b =>
      b.avgAttentionScore / orOne (blocks.map (·.avgAttentionScore)).sum)).sum = 1 := by
  have hsum : (blocks.map (·.avgAttentionScore)).sum ≠ 0 := by
    have hpos : 0 < b.avgAttentionScore :=
      lt_of_le_of_ne (hblocks b hb).avgAttentionScore (Ne.symm hne)
    exact (hpos.trans_le (attention_le_sum hblocks hb)).ne'
  rw [orOne, if_neg hsum]
  simp only [div_eq_mul_inv]
  rw [List.sum_map_mul_right]
  exact mul_inv_cancel₀ hsum

end Attention

/-! ## Rows -/

section Row

variable [ExactNumerics] {blocks : List BlockState} (fx : FeatureExtractor) (m : SystemMetrics)

/-- The row of a block by the statistics of its batch. -/
theorem extract_exact {b : BlockState} (hb : b ∈ blocks) (hctx : 0 < fx.maxContextLength) :
    fx.extract b m (FeatureExtractor.computeBatchStats blocks) =
      .ok (fx.vector b m (FeatureExtractor.computeBatchStats blocks)) := by
  rw [FeatureExtractor.extract_of_mem hb hctx.ne', map_toFloat32]

variable (hblocks : ∀ b ∈ blocks, b.Nonnegative) (hm : m.Nonnegative)
  (hctx : 0 < fx.maxContextLength)

include hblocks hm hctx

/-- The normalised features of one block, one kind after the other. -/
theorem vector_mem {b : BlockState} (hb : b ∈ blocks) {i : Nat} (hi : i ∈ normalisedFeatures) :
    (fx.vector b m (FeatureExtractor.computeBatchStats blocks)).getD i 0 ∈
      Set.Icc (0 : ℚ) 1 := by
  have hnonneg := hblocks b hb
  have hctxQ : (0 : ℚ) ≤ fx.maxContextLength := by exact_mod_cast hctx.le
  have hstep : b.lastAccessStep ≤ max (maxField blocks (·.lastAccessStep)) 1 :=
    le_max_of_le_left (le_maxField hb (·.lastAccessStep))
  rw [computeBatchStats_exact (List.ne_nil_of_mem hb)]
  simp only [normalisedFeatures, List.mem_cons, List.not_mem_nil, or_false] at hi
  rcases hi with rfl | rfl | rfl | rfl | rfl | rfl | rfl | rfl | rfl | rfl | rfl | rfl | rfl
  · exact div_max_one_mem hnonneg.blockAgeSteps (le_maxField hb (·.blockAgeSteps))
  · exact ⟨(reciprocal_mem hstep).1.le, (reciprocal_mem hstep).2⟩
  · exact rank_mem blocks b.avgAttentionScore
  · exact memoryShare_mem hnonneg
  · apply min_one_mem
    exact div_nonneg (by exact_mod_cast hm.queueDepth) (by norm_num)
  · apply min_one_mem
    exact div_nonneg (by exact_mod_cast hm.contextLength) hctxQ
  · apply min_one_mem
    exact div_nonneg (by exact_mod_cast hm.outputLength) hctxQ
  · exact workloadEncoding_div_mem _
  · exact flag_mem _
  · exact flag_mem _
  · exact attentionShare_mem hblocks hb
  · exact tierEncoding_div_mem b.currentTier
  · exact interval_mem hnonneg.lastAccessStep hstep

/-- **Feature extraction is total and bounded.**

In exact arithmetic, for every batch of blocks without negative values and
metrics without negative entries, every block has a row by the statistics of the
batch, so no division is by zero, and the rows are in range. -/
theorem features_bounded :
    ∃ row : BlockState → List ℚ,
      (∀ b ∈ blocks,
        fx.extract b m (FeatureExtractor.computeBatchStats blocks) = .ok (row b)) ∧
      FeaturesBounded blocks row := by
  refine ⟨fun b => fx.vector b m (FeatureExtractor.computeBatchStats blocks), ?_, ?_⟩
  · intro b hb
    exact extract_exact fx m hb hctx
  · constructor
    · intro b hb
      rfl
    · intro b hb i hi
      exact vector_mem fx m hblocks hm hctx hb hi
    · intro b hb
      rw [computeBatchStats_exact (List.ne_nil_of_mem hb)]
      exact (reciprocal_mem (le_max_of_le_left (le_maxField hb (·.lastAccessStep)))).1
    · intro b hb
      rw [computeBatchStats_exact (List.ne_nil_of_mem hb)]
      show (searchsorted (attnSorted blocks) b.avgAttentionScore : ℚ) /
        (attnSorted blocks).length = _
      rw [searchsorted_attnSorted, length_attnSorted]
    · rintro ⟨b, hb, hne⟩
      rw [computeBatchStats_exact (List.ne_nil_of_mem hb)]
      exact sum_attentionShare hblocks hb hne
    · intro hzero b hb
      rw [computeBatchStats_exact (List.ne_nil_of_mem hb)]
      show b.avgAttentionScore / _ = 0
      rw [hzero b hb, zero_div]

end Row

/-- Two blocks with attention apart by a tie and one without any. -/
def tiedBatch : List BlockState :=
  [ { accessedAt 1 8 with avgAttentionScore := 1 / 4, gpuMemUsedMb := 100 },
    { accessedAt 2 2 with avgAttentionScore := 1 / 4, gpuMemFreeMb := 100 },
    accessedAt 3 0 ]

theorem features_bounded_tied_batch :
    letI : ExactNumerics := lineNumerics
    ∃ row : BlockState → List ℚ,
      (∀ b ∈ tiedBatch, ({} : FeatureExtractor).extract b { queueDepth := some 4 }
        (FeatureExtractor.computeBatchStats tiedBatch) = .ok (row b)) ∧
      FeaturesBounded tiedBatch row := by
  let _ : ExactNumerics := lineNumerics
  apply features_bounded {} { queueDepth := some 4 }
  · intro b hb
    simp only [tiedBatch, List.mem_cons, List.not_mem_nil, or_false] at hb
    rcases hb with rfl | rfl | rfl
    · constructor <;> decide +kernel
    · constructor <;> decide +kernel
    · constructor <;> decide +kernel
  · constructor <;> decide
  · decide

end KVOrchestrator.Ports
