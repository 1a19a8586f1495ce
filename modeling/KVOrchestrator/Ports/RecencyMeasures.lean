import KVOrchestrator.Ports.BlockTracker
import KVOrchestrator.Ports.Hybrid

/-!
# Five measures of recency

Recency is computed in five places: by `_recency_score` of the heuristic
policies, as a term of the hybrid composite, as the features `recency_score` and
`inter_access_interval_normalized`, and as the position among the LRU candidates
of the tracker.  On a batch whose last-access steps are not negative, four of
them order any two blocks alike (`recencyTerm_mono`, `recencyFeatures_mono`,
`lru_mono`).  `_recency_score` orders them the other way round: it subtracts the
normalised step from one, so a block scores the lower the more recently it was
accessed (`recencyScore_lt`), and all measures agree only on blocks last accessed
in the same step (`recency_measures_agree_iff`).
-/

namespace KVOrchestrator.Ports

open KVOrchestrator.Verified

/-- `_norm`: normalise `val` to `[0, 1]` in `[lo, hi]`. -/
def norm (val lo hi : ℚ) : ℚ :=
  if hi ≤ lo then 0 else max 0 (min 1 ((val - lo) / (hi - lo)))

/-- `_recency_score` -/
def recencyScore (block : BlockState) (maxStep : Int) : ℚ :=
  if maxStep = 0 then 1 else 1 - norm block.lastAccessStep 0 maxStep

/-- The latest access to a block of the batch. -/
def maxStep (blocks : List BlockState) : Int := maxD (blocks.map (·.lastAccessStep)) 0

theorem le_maxStep {blocks : List BlockState} {b : BlockState} (hb : b ∈ blocks) :
    b.lastAccessStep ≤ maxStep blocks :=
  le_maxD (List.mem_map_of_mem hb) 0

/-- No measure ranks `a` below `b`. -/
structure RecencyAgrees [Numerics] (blocks : List BlockState) (a b : BlockState) : Prop where
  heuristic : recencyScore b (maxStep blocks) ≤ recencyScore a (maxStep blocks)
  hybrid : ∀ m : SystemMetrics, m.globalStep = some (maxStep blocks) →
    HybridAdaptivePolicy.recencyTerm b m ≤ HybridAdaptivePolicy.recencyTerm a m
  /-- Feature 1 grows with recency, feature 20 falls. -/
  features : ∀ (fx : FeatureExtractor) (m : SystemMetrics) (rowA rowB : List ℚ),
    fx.extract a m (FeatureExtractor.computeBatchStats blocks) = .ok rowA →
    fx.extract b m (FeatureExtractor.computeBatchStats blocks) = .ok rowB →
    rowB.getD 1 0 ≤ rowA.getD 1 0 ∧ rowA.getD 20 0 ≤ rowB.getD 20 0
  /-- Of different steps the earlier one is the earlier candidate. -/
  lru : ∀ (t : BlockTracker) (n : Int) (candidates : List BlockState) (i j : Nat),
    t.getAllBlocks = blocks → t.getCandidateBlocks n "lru" = .ok candidates →
    candidates[i]? = some a → candidates[j]? = some b →
    a.lastAccessStep ≠ b.lastAccessStep → j < i

/-! ## Rows of a batch -/

section Rows

variable [Numerics] {blocks : List BlockState} {b : BlockState} (hb : b ∈ blocks)

include hb

theorem row_eq_vector {fx : FeatureExtractor} {m : SystemMetrics} {row : List ℚ}
    (hrow : fx.extract b m (FeatureExtractor.computeBatchStats blocks) = .ok row) :
    row = (fx.vector b m (FeatureExtractor.computeBatchStats blocks)).map
      Numerics.toFloat32 := by
  have hctx := FeatureExtractor.maxContextLength_ne_zero hrow
  rw [FeatureExtractor.extract_of_mem hb hctx] at hrow
  exact (Except.ok.inj hrow).symm

/-- The two recency features of a row. -/
theorem recencyFeatures_eq {fx : FeatureExtractor} {m : SystemMetrics} {row : List ℚ}
    (hrow : fx.extract b m (FeatureExtractor.computeBatchStats blocks) = .ok row) :
    row.getD 1 0 = Numerics.toFloat32
        (1 / (1 + (max (maxStep blocks) 1 : Int) - b.lastAccessStep)) ∧
      row.getD 20 0 = Numerics.toFloat32
        (((max (maxStep blocks) 1 - b.lastAccessStep : Int) : ℚ) /
          (max (maxStep blocks) 1 : Int)) := by
  rw [row_eq_vector hb hrow,
    FeatureExtractor.computeBatchStats_of_ne_nil (List.ne_nil_of_mem hb)]
  exact ⟨rfl, rfl⟩

end Rows

section Pair

variable {blocks : List BlockState} {a b : BlockState}

/-! ## The measures that agree -/

/-- Whatever step the metrics name. -/
theorem recencyTerm_mono (hle : b.lastAccessStep ≤ a.lastAccessStep) {m : SystemMetrics}
    {step : Int} (hm : m.globalStep = some step) :
    HybridAdaptivePolicy.recencyTerm b m ≤ HybridAdaptivePolicy.recencyTerm a m := by
  have hpos : (0 : ℚ) < (max step 1 : Int) := by
    have hone : (0 : Int) < max step 1 := by omega
    exact_mod_cast hone
  have hinactive : ((step - a.lastAccessStep : Int) : ℚ) ≤ (step - b.lastAccessStep : Int) := by
    have hsub : step - a.lastAccessStep ≤ step - b.lastAccessStep := by omega
    exact_mod_cast hsub
  simp only [HybridAdaptivePolicy.recencyTerm, hm, Option.getD_some]
  apply max_le_max_left
  apply sub_le_sub_left
  exact div_le_div_of_nonneg_right hinactive hpos.le

/-- The rounding to `float32` keeps the order of the two quotients. -/
theorem recencyFeatures_mono [Numerics] (ha : a ∈ blocks) (hb : b ∈ blocks)
    (hle : b.lastAccessStep ≤ a.lastAccessStep) {fx : FeatureExtractor} {m : SystemMetrics}
    {rowA rowB : List ℚ}
    (hrowA : fx.extract a m (FeatureExtractor.computeBatchStats blocks) = .ok rowA)
    (hrowB : fx.extract b m (FeatureExtractor.computeBatchStats blocks) = .ok rowB) :
    rowB.getD 1 0 ≤ rowA.getD 1 0 ∧ rowA.getD 20 0 ≤ rowB.getD 20 0 := by
  have hleQ : (b.lastAccessStep : ℚ) ≤ a.lastAccessStep := by exact_mod_cast hle
  have hmaxQ : (a.lastAccessStep : ℚ) ≤ (max (maxStep blocks) 1 : Int) := by
    have hmax : a.lastAccessStep ≤ max (maxStep blocks) 1 := le_max_of_le_left (le_maxStep ha)
    exact_mod_cast hmax
  rw [(recencyFeatures_eq ha hrowA).1, (recencyFeatures_eq ha hrowA).2,
    (recencyFeatures_eq hb hrowB).1, (recencyFeatures_eq hb hrowB).2]
  constructor
  · apply Numerics.toFloat32_mono
    apply one_div_le_one_div_of_le
    · linarith
    · linarith
  · apply Numerics.toFloat32_mono
    apply div_le_div_of_nonneg_right
    · push_cast
      linarith
    · have hone : (0 : Int) ≤ max (maxStep blocks) 1 := by omega
      exact_mod_cast hone

/-- Of two candidates with different steps the earlier accessed one comes
first. -/
theorem lru_mono (hle : b.lastAccessStep ≤ a.lastAccessStep) {t : BlockTracker} {n : Int}
    {candidates : List BlockState} (hlru : t.getCandidateBlocks n "lru" = .ok candidates)
    {i j : Nat} (hi : candidates[i]? = some a) (hj : candidates[j]? = some b)
    (hne : a.lastAccessStep ≠ b.lastAccessStep) : j < i := by
  have hsorted : candidates.Pairwise (fun x y => x.lastAccessStep ≤ y.lastAccessStep) := by
    rw [BlockTracker.getCandidateBlocks, if_pos rfl] at hlru
    rw [← Except.ok.inj hlru]
    exact (pairwise_sortBy (fun x : BlockState => x.lastAccessStep) _).sublist
      (List.take_sublist _ _)
  by_contra hij
  rcases Nat.lt_or_eq_of_le (Nat.not_lt.mp hij) with hlt | heq
  · obtain ⟨hilt, hia⟩ := List.getElem?_eq_some_iff.mp hi
    obtain ⟨hjlt, hjb⟩ := List.getElem?_eq_some_iff.mp hj
    have hge := List.pairwise_iff_getElem.mp hsorted i j hilt hjlt hlt
    rw [hia, hjb] at hge
    omega
  · rw [heq, hj] at hi
    rw [Option.some.inj hi] at hne
    exact hne rfl

/-! ## The measure that disagrees -/

/-- Within the range of the batch nothing is clamped. -/
theorem recencyScore_eq (ha : a ∈ blocks) (hnonneg : 0 ≤ a.lastAccessStep)
    (hpos : 0 < maxStep blocks) :
    recencyScore a (maxStep blocks) = 1 - (a.lastAccessStep : ℚ) / maxStep blocks := by
  have hposQ : (0 : ℚ) < maxStep blocks := by exact_mod_cast hpos
  have hnonnegQ : (0 : ℚ) ≤ a.lastAccessStep := by exact_mod_cast hnonneg
  have hleQ : (a.lastAccessStep : ℚ) ≤ maxStep blocks := by exact_mod_cast le_maxStep ha
  have hquot : (a.lastAccessStep : ℚ) / maxStep blocks ≤ 1 := (div_le_one hposQ).mpr hleQ
  have hquot' : 0 ≤ (a.lastAccessStep : ℚ) / maxStep blocks := div_nonneg hnonnegQ hposQ.le
  rw [recencyScore, if_neg hpos.ne', norm, if_neg (not_le.mpr hposQ), sub_zero, sub_zero,
    min_eq_right hquot, max_eq_right hquot']

/-- `_recency_score` ranks the later accessed block below. -/
theorem recencyScore_lt (ha : a ∈ blocks) (hb : b ∈ blocks) (hnonneg : 0 ≤ b.lastAccessStep)
    (hlt : b.lastAccessStep < a.lastAccessStep) :
    recencyScore a (maxStep blocks) < recencyScore b (maxStep blocks) := by
  have hmax := le_maxStep ha
  have hpos : 0 < maxStep blocks := by omega
  have hposQ : (0 : ℚ) < maxStep blocks := by exact_mod_cast hpos
  have hltQ : (b.lastAccessStep : ℚ) < a.lastAccessStep := by exact_mod_cast hlt
  rw [recencyScore_eq ha (by omega) hpos, recencyScore_eq hb hnonneg hpos]
  exact sub_lt_sub_left (div_lt_div_of_pos_right hltQ hposQ) 1

end Pair

/-- **The recency measures agree on equal steps only.**

For any two blocks of a batch without negative steps, one accessed no earlier
than the other: no measure ranks it below the other exactly if both were last
accessed in the same step. -/
theorem recency_measures_agree_iff [Numerics] {blocks : List BlockState}
    (hnonneg : ∀ b ∈ blocks, 0 ≤ b.lastAccessStep) {a b : BlockState} (ha : a ∈ blocks)
    (hb : b ∈ blocks) (hle : b.lastAccessStep ≤ a.lastAccessStep) :
    RecencyAgrees blocks a b ↔ a.lastAccessStep = b.lastAccessStep := by
  constructor
  · intro h
    by_contra hne
    have hlt : b.lastAccessStep < a.lastAccessStep := by omega
    have hreversed := recencyScore_lt ha hb (hnonneg b hb) hlt
    exact absurd h.heuristic (not_le.mpr hreversed)
  · intro heq
    exact
      { heuristic := by rw [recencyScore, recencyScore, heq]
        hybrid := fun m hm => recencyTerm_mono hle hm
        features := fun fx m rowA rowB hrowA hrowB =>
          recencyFeatures_mono ha hb hle hrowA hrowB
        lru := fun t n candidates i j _ hlru hi hj hne => lru_mono hle hlru hi hj hne }

/-- A block accessed last in a given step. -/
def accessedAt (blockId step : Int) : BlockState where
  blockId := blockId
  layerId := 0
  headGroup := 0
  requestId := "r"
  lastAccessStep := step

/-- A block of step 8 and one of step 2. -/
def lateAndEarly : List BlockState := [accessedAt 1 8, accessedAt 2 2]

theorem recency_measures_disagree :
    recencyScore (accessedAt 1 8) (maxStep lateAndEarly) = 0 ∧
      recencyScore (accessedAt 2 2) (maxStep lateAndEarly) = 3 / 4 ∧
      ¬@RecencyAgrees lineNumerics.toNumerics lateAndEarly (accessedAt 1 8) (accessedAt 2 2) := by
  refine ⟨by decide +kernel, by decide +kernel, ?_⟩
  intro h
  have hscores : recencyScore (accessedAt 2 2) (maxStep lateAndEarly) ≤
      recencyScore (accessedAt 1 8) (maxStep lateAndEarly) :=
    @RecencyAgrees.heuristic lineNumerics.toNumerics _ _ _ h
  exact absurd hscores (by decide +kernel)

theorem recency_measures_agree_iff_same_step :
    @RecencyAgrees lineNumerics.toNumerics [accessedAt 1 8, accessedAt 2 8] (accessedAt 1 8)
      (accessedAt 2 8) := by
  let _ : Numerics := lineNumerics.toNumerics
  exact (recency_measures_agree_iff (by decide) (by decide) (by decide) (by decide)).mpr rfl

end KVOrchestrator.Ports
