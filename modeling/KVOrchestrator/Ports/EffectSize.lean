import KVOrchestrator.Verified.SampleVariance
import Mathlib.Analysis.Real.Sqrt
import Mathlib.Data.Sign.Basic

/-!
# Cohen's d (`src/evaluators/pareto.py`)

The effect size divides the difference of two means by a pooled standard
deviation, and is zero where that is.  The deviation vanishes for two constant
lists, equal or not, so two different constants have the effect size of two
equal ones; everywhere else it has the sign of the difference
(`sign_effectSizeCohensD`).  The arithmetic is that of the real numbers.
-/

namespace KVOrchestrator.Ports

open KVOrchestrator.Verified

noncomputable section

/-- `xs.std(ddof=ddof)` -/
def standardDeviation (ddof : Nat) (xs : List ℝ) : ℝ := √(sampleVariance ddof xs)

/-- Cohen's d = (mean_a - mean_b) / pooled_std. -/
def effectSizeCohensD (a b : List ℝ) : ℝ :=
  let meanDiff := sampleMean a - sampleMean b
  let pooledStd := √((standardDeviation 1 a ^ 2 + standardDeviation 1 b ^ 2) / 2)
  if pooledStd = 0 then 0 else meanDiff / pooledStd

end

/-- The effect size tells the means apart, and which of them is larger. -/
structure SeparatesMeans (a b : List ℝ) : Prop where
  zero_iff : effectSizeCohensD a b = 0 ↔ sampleMean a = sampleMean b
  sign : sampleMean a ≠ sampleMean b →
    SignType.sign (effectSizeCohensD a b) = SignType.sign (sampleMean a - sampleMean b)
  antisymm : effectSizeCohensD b a = -effectSizeCohensD a b

/-! ## The pooled deviation -/

section Pooled

variable {a b : List ℝ}

/-- Exchanging the lists changes the sign. -/
theorem effectSizeCohensD_comm (a b : List ℝ) :
    effectSizeCohensD b a = -effectSizeCohensD a b := by
  rw [effectSizeCohensD, effectSizeCohensD, add_comm (standardDeviation 1 b ^ 2)]
  split
  · exact neg_zero.symm
  · rw [← neg_div, neg_sub]

variable (ha : 1 < a.length) (hb : 1 < b.length)

include ha hb

/-- The deviation vanishes exactly for two constant lists. -/
theorem pooledStd_eq_zero_iff :
    √((standardDeviation 1 a ^ 2 + standardDeviation 1 b ^ 2) / 2) = 0 ↔
      Constant a ∧ Constant b := by
  have hvarA := sampleVariance_nonneg ha
  have hvarB := sampleVariance_nonneg hb
  rw [standardDeviation, standardDeviation, Real.sq_sqrt hvarA, Real.sq_sqrt hvarB,
    Real.sqrt_eq_zero (div_nonneg (add_nonneg hvarA hvarB) zero_le_two),
    div_eq_zero_iff, or_iff_left two_ne_zero, add_eq_zero_iff_of_nonneg hvarA hvarB,
    sampleVariance_eq_zero_iff ha, sampleVariance_eq_zero_iff hb]

theorem effectSizeCohensD_of_constant (hconst : Constant a ∧ Constant b) :
    effectSizeCohensD a b = 0 :=
  if_pos ((pooledStd_eq_zero_iff ha hb).mpr hconst)

/-- Where something varies, the effect size has the sign of the difference. -/
theorem sign_effectSizeCohensD (hvaries : ¬(Constant a ∧ Constant b)) :
    SignType.sign (effectSizeCohensD a b) = SignType.sign (sampleMean a - sampleMean b) := by
  have hne := mt (pooledStd_eq_zero_iff ha hb).mp hvaries
  have hpos : 0 < √((standardDeviation 1 a ^ 2 + standardDeviation 1 b ^ 2) / 2) :=
    lt_of_le_of_ne (Real.sqrt_nonneg _) (Ne.symm hne)
  rw [effectSizeCohensD, if_neg hne, div_eq_mul_inv, sign_mul, sign_pos (inv_pos.mpr hpos), mul_one]

end Pooled

/-- **Effect sizes and means.**

The effect size of two lists of at least two scores is zero exactly for equal
means, has the sign of their difference otherwise, and is negated when the lists
are exchanged, exactly if one of the lists is not constant or the means are
equal. -/
theorem effect_size_separates_iff {a b : List ℝ} (ha : 2 ≤ a.length) (hb : 2 ≤ b.length) :
    SeparatesMeans a b ↔ ¬(Constant a ∧ Constant b) ∨ sampleMean a = sampleMean b := by
  constructor
  · intro h
    by_cases hconst : Constant a ∧ Constant b
    · exact .inr (h.zero_iff.mp (effectSizeCohensD_of_constant ha hb hconst))
    · exact .inl hconst
  · intro h
    have hzero : effectSizeCohensD a b = 0 ↔ sampleMean a = sampleMean b := by
      by_cases hconst : Constant a ∧ Constant b
      · exact iff_of_true (effectSizeCohensD_of_constant ha hb hconst)
          (h.resolve_left (not_not_intro hconst))
      · rw [← sign_eq_zero_iff, sign_effectSizeCohensD ha hb hconst, sign_eq_zero_iff, sub_eq_zero]
    refine { zero_iff := hzero, sign := ?_, antisymm := effectSizeCohensD_comm a b }
    intro hne
    exact sign_effectSizeCohensD ha hb (h.resolve_right hne)

theorem constant_replicate (n : Nat) (x : ℝ) : Constant (List.replicate n x) := by
  intro y hy z hz
  rw [List.eq_of_mem_replicate hy, List.eq_of_mem_replicate hz]

/-- Scores that are all one and scores that are all zero. -/
theorem effect_size_of_constants :
    effectSizeCohensD (List.replicate 20 1) (List.replicate 20 0) = 0 ∧
      ¬SeparatesMeans (List.replicate 20 1) (List.replicate 20 0) := by
  have hzero : effectSizeCohensD (List.replicate 20 1) (List.replicate 20 0) = 0 :=
    effectSizeCohensD_of_constant (by simp) (by simp)
      ⟨constant_replicate 20 1, constant_replicate 20 0⟩
  refine ⟨hzero, ?_⟩
  intro h
  have hmeans := h.zero_iff.mp hzero
  rw [sampleMean_of_constant (constant_replicate 20 1) List.mem_cons_self,
    sampleMean_of_constant (constant_replicate 20 0) List.mem_cons_self] at hmeans
  exact one_ne_zero hmeans

theorem effect_size_separates_two :
    2 ≤ ([1, 0] : List ℝ).length ∧ 2 ≤ ([0, 0] : List ℝ).length ∧ SeparatesMeans [1, 0] [0, 0] := by
  have hvaries : ¬(Constant [(1 : ℝ), 0] ∧ Constant [(0 : ℝ), 0]) := by
    intro hconst
    exact one_ne_zero (hconst.1 1 (by simp) 0 (by simp))
  exact ⟨le_rfl, le_rfl, (effect_size_separates_iff le_rfl le_rfl).mpr (.inl hvaries)⟩

end KVOrchestrator.Ports
