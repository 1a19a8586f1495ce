import KVOrchestrator.Ports.LabelGenerator
import Mathlib.Tactic.NormNum

/-!
# Training features against serving features

`LabelGenerator` builds the training matrix from telemetry rows and
`FeatureExtractor` builds the matrix the trained model is queried with from
live blocks.  Here both are computed from the same blocks: `telemetry` writes
one row per block of a cycle, and `FeatureParity` asks for equal matrices.

Most features are the same function of the block computed twice.  The others
differ in a normaliser, a clip or a threshold, and `FeaturesAgree` collects
where each of them still coincides: `feature_parity_iff` shows the matrices
equal exactly there.
-/

namespace KVOrchestrator.Ports

open KVOrchestrator.Verified

/-- The rows written for a list of blocks in one cycle. -/
def telemetry (blocks : List BlockState) (decision : BlockState → BlockDecision)
    (ctx : BlockState → RecordContext) : List TelemetryRecord :=
  blocks.map (fun b => TelemetryRecord.fromBlockState b (decision b) (ctx b))

/-- A row's request context agrees with the serving metrics. -/
structure SameCycle (ctx : RecordContext) (m : SystemMetrics) : Prop where
  queueDepth : m.queueDepth = some ctx.queueDepth
  contextLength : m.contextLength = some ctx.contextLength
  generatedTokens : m.outputLength = some ctx.generatedTokens
  workloadType : m.workloadType = some ctx.workloadType.value

/-- Training on `df` and serving `blocks` use the same feature matrix. -/
def FeatureParity [Numerics] (blocks : List BlockState) (m : SystemMetrics)
    (df : List TelemetryRecord) : Prop :=
  ∃ X, LabelGenerator.buildFeatureMatrix df = .ok X ∧
    ({} : FeatureExtractor).extractBatch blocks m
      (FeatureExtractor.computeBatchStats blocks) = .ok X

/-- The largest value of an integer field over the batch. -/
def maxField (blocks : List BlockState) (f : BlockState → Int) : Int := maxD (blocks.map f) 0

theorem exists_eq_maxField {blocks : List BlockState} (hblocks : blocks ≠ [])
    (f : BlockState → Int) : ∃ b ∈ blocks, f b = maxField blocks f := by
  have hmap : blocks.map f ≠ [] := fun h => hblocks (List.map_eq_nil_iff.mp h)
  exact List.mem_map.mp (maxD_mem hmap 0)

theorem le_maxField {blocks : List BlockState} {b : BlockState} (hb : b ∈ blocks)
    (f : BlockState → Int) : f b ≤ maxField blocks f :=
  le_maxD (List.mem_map_of_mem hb) 0

/-- The attention scores of the batch, ascending. -/
def attnSorted (blocks : List BlockState) : List ℚ :=
  sortBy id (blocks.map (·.avgAttentionScore))

theorem length_attnSorted (blocks : List BlockState) :
    (attnSorted blocks).length = blocks.length := by
  rw [attnSorted, length_sortBy, List.length_map]

/-! ## Scalars -/

theorem orOne_intCast (a : Int) : orOne (a : ℚ) = ((if a = 0 then 1 else a : Int) : ℚ) := by
  unfold orOne
  by_cases ha : a = 0
  · simp [ha]
  · have haQ : (a : ℚ) ≠ 0 := by exact_mod_cast ha
    rw [if_neg haQ, if_neg ha]

/-- The two ways of guarding a normaliser agree from zero on. -/
theorem orOne_eq_max_iff (a : Int) : orOne (a : ℚ) = ((max a 1 : Int) : ℚ) ↔ 0 ≤ a := by
  rw [orOne_intCast, Int.cast_inj]
  split <;> omega

/-- Guarding twice hides the difference. -/
theorem max_orOne (a : Int) : max (orOne (a : ℚ)) 1 = ((max a 1 : Int) : ℚ) := by
  have hint : max (if a = 0 then 1 else a) 1 = max a 1 := by
    split <;> omega
  rw [orOne_intCast, ← hint, Int.cast_max, Int.cast_one]

theorem div_eq_div_iff_eq_zero_or (x a b : ℚ) : x / a = x / b ↔ x = 0 ∨ a = b := by
  rw [div_eq_mul_inv, div_eq_mul_inv, mul_eq_mul_left_iff, inv_inj, or_comm]

theorem clip01_eq_min_iff (x : ℚ) : clip01 x = min 1 x ↔ 0 ≤ x := by
  unfold clip01
  constructor
  · intro h
    by_contra hneg
    have hx : x < 0 := not_le.mp hneg
    rw [max_eq_right hx.le, min_eq_left zero_le_one, min_eq_right (by linarith)] at h
    exact hx.ne h.symm
  · intro h
    rw [max_eq_left h, min_comm]

theorem clip01_eq_one_iff (x : ℚ) : clip01 x = 1 ↔ 1 ≤ x := by
  unfold clip01
  rw [min_eq_right_iff, le_max_iff]
  exact or_iff_left (by norm_num)

theorem clip01_eq_zero_iff (x : ℚ) : clip01 x = 0 ↔ x ≤ 0 := by
  unfold clip01
  constructor
  · intro h
    by_contra hpos
    have hx : 0 < x := not_le.mp hpos
    have hmin : 0 < min (max x 0) 1 := lt_min (lt_max_of_lt_left hx) one_pos
    exact hmin.ne' h
  · intro h
    rw [max_eq_right h, min_eq_left zero_le_one]

theorem ite_one_zero_eq_iff (p q : Prop) [Decidable p] [Decidable q] :
    ((if p then 1 else 0 : ℚ) = if q then 1 else 0) ↔ (p ↔ q) := by
  by_cases hp : p <;> by_cases hq : q <;> simp [hp, hq]

/-- Rows keep their values in exact arithmetic. -/
theorem map_toFloat32 [ExactNumerics] (row : List ℚ) : row.map Numerics.toFloat32 = row := by
  have hid : ∀ x ∈ row, Numerics.toFloat32 x = id x := fun x _ => ExactNumerics.toFloat32_eq x
  rw [List.map_congr_left hid, List.map_id]

/-! ## Heavy hitters -/

/-- `max(1, int(n * 0.20))` is `max(1, n // 5)`. -/
theorem nHeavy_default (bs : BatchStats) (hn : 0 < bs.totalBlocks) :
    ({} : FeatureExtractor).nHeavy bs = (max 1 (bs.totalBlocks / 5) : Nat) := by
  have hmax : max bs.totalBlocks 1 = bs.totalBlocks := by omega
  have hfifth : ((bs.totalBlocks : Nat) : ℚ) * (20 / 100) =
      (bs.totalBlocks : ℚ) / (5 : Nat) := by
    push_cast
    ring
  have hnonneg : (0 : ℚ) ≤ (bs.totalBlocks : ℚ) / (5 : Nat) := by positivity
  rw [FeatureExtractor.nHeavy, hmax, hfifth, pyInt_of_nonneg hnonneg,
    Rat.floor_natCast_div_natCast]
  push_cast
  rfl

/-- The entry next to the position of the 80th percentile of `n` values. -/
theorem ceil_percentile_80 (n : Nat) :
    ⌈((n : ℚ) - 1) * (80 / 100)⌉₊ = 4 * n / 5 := by
  refine eq_of_forall_ge_iff (fun k => ?_)
  have hdiv : 4 * n / 5 ≤ k ↔ 4 * n ≤ 5 * k + 4 := by omega
  have hcast : ((n : ℚ) - 1) * (80 / 100) ≤ k ↔ (4 : ℚ) * n ≤ 5 * k + 4 := by
    constructor
    · intro h
      linarith
    · intro h
      linarith
  rw [Nat.ceil_le, hdiv, hcast]
  exact_mod_cast Iff.rfl

/-- The statistics of a nonempty batch in exact arithmetic. -/
theorem computeBatchStats_exact [ExactNumerics] {blocks : List BlockState}
    (hblocks : blocks ≠ []) :
    FeatureExtractor.computeBatchStats blocks =
      { maxAge := maxField blocks (·.blockAgeSteps)
        maxStep := maxField blocks (·.lastAccessStep)
        maxAttention := maxD (blocks.map (·.avgAttentionScore)) 0
        totalBlocks := blocks.length
        attnSorted := attnSorted blocks
        totalAttention := orOne (blocks.map (·.avgAttentionScore)).sum
        maxBlockId := maxField blocks (·.blockId) } := by
  rw [FeatureExtractor.computeBatchStats_of_ne_nil hblocks]
  simp only [ExactNumerics.toFloat32_eq]
  rfl

/-- Serving flags a block from the `max(1, n // 5)`-th largest score on. -/
theorem isHeavyHitter_iff [ExactNumerics] {blocks : List BlockState} (hblocks : blocks ≠ [])
    (b : BlockState) :
    ({} : FeatureExtractor).isHeavyHitter b (FeatureExtractor.computeBatchStats blocks) = true ↔
      (attnSorted blocks).getD (blocks.length - max 1 (blocks.length / 5)) 0 ≤
        b.avgAttentionScore := by
  have hpos : 0 < blocks.length := List.length_pos_iff.mpr hblocks
  have hheavy : ({} : FeatureExtractor).nHeavy (FeatureExtractor.computeBatchStats blocks) =
      (max 1 (blocks.length / 5) : Nat) := by
    rw [computeBatchStats_exact hblocks, nHeavy_default _ hpos]
  have hroom : ({} : FeatureExtractor).nHeavy (FeatureExtractor.computeBatchStats blocks) ≤
      blocks.length := by
    rw [hheavy]
    omega
  rw [FeatureExtractor.isHeavyHitter_computeBatchStats_iff _ hblocks hroom, hheavy,
    Int.toNat_natCast]
  simp only [ExactNumerics.toFloat32_eq]
  rfl

/-- Training flags a block from the `4 n // 5`-th smallest score on. -/
theorem percentile_80_le_iff {blocks : List BlockState} {b : BlockState} (hb : b ∈ blocks) :
    percentile (blocks.map (·.avgAttentionScore)) 80 ≤ b.avgAttentionScore ↔
      (attnSorted blocks).getD (4 * blocks.length / 5) 0 ≤ b.avgAttentionScore := by
  rw [percentile_le_iff (by norm_num) (by norm_num) (List.mem_map_of_mem hb), List.length_map,
    ceil_percentile_80, attnSorted]

/-- The two flags agree on the whole batch when the two order statistics do. -/
theorem heavyHitters_agree_iff {blocks : List BlockState} (hblocks : blocks ≠ []) :
    (∀ b ∈ blocks,
      ((attnSorted blocks).getD (4 * blocks.length / 5) 0 ≤ b.avgAttentionScore ↔
        (attnSorted blocks).getD (blocks.length - max 1 (blocks.length / 5)) 0 ≤
          b.avgAttentionScore)) ↔
    (attnSorted blocks).getD (4 * blocks.length / 5) 0 =
      (attnSorted blocks).getD (blocks.length - max 1 (blocks.length / 5)) 0 := by
  have hpos : 0 < blocks.length := List.length_pos_iff.mpr hblocks
  have hlen := length_attnSorted blocks
  rw [← forall_mem_le_iff (getD_mem (by omega)) (getD_mem (by omega))]
  simp only [attnSorted, mem_sortBy, List.forall_mem_map]

/-! ## The recent window -/

/-- The training ramp over the last 512 ids and the serving flag of the last
512 ids agree on an id where the ramp has saturated on the flag's side. -/
theorem recent_agree_iff (maxId id : Int) :
    (clip01 ((id - (orOne (maxId : ℚ) - 512)) / 512) =
      if id ≥ max maxId 1 - 512 then 1 else 0) ↔
    ((if maxId = 0 then 1 else maxId) ≤ id ∧ max maxId 1 - 512 ≤ id) ∨
      (id ≤ (if maxId = 0 then 1 else maxId) - 512 ∧ id < max maxId 1 - 512) := by
  rw [orOne_intCast]
  generalize (if maxId = 0 then 1 else maxId) = top
  have hone : (1 : ℚ) ≤ ((id : ℚ) - ((top : ℚ) - 512)) / 512 ↔ top ≤ id := by
    rw [le_div_iff₀ (by norm_num), ← Int.cast_le (R := ℚ)]
    constructor
    · intro h
      linarith
    · intro h
      linarith
  have hzero : ((id : ℚ) - ((top : ℚ) - 512)) / 512 ≤ 0 ↔ id ≤ top - 512 := by
    rw [div_le_iff₀ (by norm_num), ← Int.cast_le (R := ℚ)]
    push_cast
    constructor
    · intro h
      linarith
    · intro h
      linarith
  by_cases hflag : id ≥ max maxId 1 - 512
  · rw [if_pos hflag, clip01_eq_one_iff, hone]
    omega
  · rw [if_neg hflag, clip01_eq_zero_iff, hzero]
    omega

/-- On a whole batch the ramp has to be saturated everywhere: one id at the
top, every other one below the window. -/
theorem recents_agree_iff {blocks : List BlockState} (hblocks : blocks ≠ []) :
    (∀ b ∈ blocks,
      clip01 ((b.blockId - (orOne (maxField blocks (·.blockId) : ℚ) - 512)) / 512) =
        if b.blockId ≥ max (maxField blocks (·.blockId)) 1 - 512 then 1 else 0) ↔
    maxField blocks (·.blockId) ≠ 0 ∧ -511 ≤ maxField blocks (·.blockId) ∧
      ∀ b ∈ blocks, b.blockId = maxField blocks (·.blockId) ∨
        b.blockId < maxField blocks (·.blockId) - 512 ∨
        (b.blockId = maxField blocks (·.blockId) - 512 ∧ maxField blocks (·.blockId) < 0) := by
  have hle : ∀ b ∈ blocks, b.blockId ≤ maxField blocks (·.blockId) := fun b hb =>
    le_maxField hb (·.blockId)
  obtain ⟨top, htop, htopId⟩ := exists_eq_maxField hblocks (·.blockId)
  generalize maxField blocks (·.blockId) = maxId at hle htopId ⊢
  simp only [recent_agree_iff]
  constructor
  · intro h
    have hatTop := h top htop
    rw [htopId] at hatTop
    have hne : maxId ≠ 0 := by
      intro hzero
      rw [hzero] at hatTop
      simp at hatTop
    rw [if_neg hne] at hatTop
    refine ⟨hne, by omega, fun b hb => ?_⟩
    have hatb := h b hb
    have hbLe := hle b hb
    rw [if_neg hne] at hatb
    omega
  · intro h b hb
    obtain ⟨hne, hlow, hids⟩ := h
    have hatb := hids b hb
    rw [if_neg hne]
    omega

/-! ## Rows -/

/-- Where the two rows of one block coincide. -/
structure RowAgrees (blocks : List BlockState) (m : SystemMetrics) (b : BlockState) : Prop where
  age : b.blockAgeSteps = 0 ∨ 0 ≤ maxField blocks (·.blockAgeSteps)
  step : 0 ≤ maxField blocks (·.lastAccessStep)
  layer : b.layerId = 0 ∨ maxField blocks (·.layerId) = 31
  headGroup : b.headGroup = 0
  gpuMem : 0 < b.gpuMemUsedMb + b.gpuMemFreeMb ∨ b.gpuMemUsedMb = 0
  queueDepth : 0 ≤ m.queueDepth.getD 0
  contextLength : 0 ≤ m.contextLength.getD 0
  outputLength : 0 ≤ m.outputLength.getD 0
  heavyHitter :
    (attnSorted blocks).getD (4 * blocks.length / 5) 0 ≤ b.avgAttentionScore ↔
      (attnSorted blocks).getD (blocks.length - max 1 (blocks.length / 5)) 0 ≤
        b.avgAttentionScore
  recent :
    clip01 ((b.blockId - (orOne (maxField blocks (·.blockId) : ℚ) - 512)) / 512) =
      if b.blockId ≥ max (maxField blocks (·.blockId)) 1 - 512 then 1 else 0

/-- A column maximum of the frame is the maximum of the block field. -/
theorem colMax_telemetry {blocks : List BlockState} (hblocks : blocks ≠ [])
    (decision : BlockState → BlockDecision) (ctx : BlockState → RecordContext)
    (c : TelemetryRecord → ℚ) (f : BlockState → Int)
    (hc : ∀ b d x, c (TelemetryRecord.fromBlockState b d x) = f b) :
    LabelGenerator.colMax (telemetry blocks decision ctx) c = (maxField blocks f : ℚ) := by
  have hmap : (telemetry blocks decision ctx).map c =
      (blocks.map f).map (fun i : Int => (i : ℚ)) := by
    rw [telemetry, List.map_map, List.map_map]
    exact List.map_congr_left (fun b _ => hc b (decision b) (ctx b))
  have hmono : Monotone (fun i : Int => (i : ℚ)) := Int.cast_mono
  have hne : blocks.map f ≠ [] := fun h => hblocks (List.map_eq_nil_iff.mp h)
  rw [LabelGenerator.colMax, hmap, maxD_map hmono hne 0 0, maxField]

/-- The attention column of the frame. -/
theorem attention_telemetry (blocks : List BlockState) (decision : BlockState → BlockDecision)
    (ctx : BlockState → RecordContext) :
    (telemetry blocks decision ctx).map (·.avgAttentionScore) =
      blocks.map (·.avgAttentionScore) := by
  rw [telemetry, List.map_map]
  rfl

/-- The trainer's workload table encodes like the extractor's. -/
theorem wtEncoded_value (wt : WorkloadType) :
    LabelGenerator.wtEncoded wt.value = workloadEncoding wt.value := by
  cases wt <;> decide +kernel

/-- The tier read back from the flags is the tier. -/
theorem tierEncoded_fromBlockState (b : BlockState) (d : BlockDecision) (ctx : RecordContext) :
    LabelGenerator.tierEncoded (TelemetryRecord.fromBlockState b d ctx) =
      b.currentTier.encoding := by
  cases htier : b.currentTier <;>
    simp [LabelGenerator.tierEncoded, TelemetryRecord.fromBlockState, BlockState.evictedFlag,
      BlockState.offloadedFlag, BlockState.quantizedFlag, BlockTier.encoding, htier]

/-- The row of a block in the training frame, in terms of the batch. -/
theorem featureRow_telemetry [Numerics] {blocks : List BlockState} (hblocks : blocks ≠ [])
    {m : SystemMetrics} {decision : BlockState → BlockDecision}
    {ctx : BlockState → RecordContext} {b : BlockState} (hctx : SameCycle (ctx b) m) :
    LabelGenerator.featureRow (telemetry blocks decision ctx)
        (TelemetryRecord.fromBlockState b (decision b) (ctx b)) =
      [ b.blockAgeSteps / orOne (maxField blocks (·.blockAgeSteps)),
        1 / (1 + orOne (maxField blocks (·.lastAccessStep)) - b.lastAccessStep),
        b.accessCount / (max (maxField blocks (·.lastAccessStep)) 1 : Int),
        b.avgAttentionScore,
        b.maxAttentionScore,
        searchsorted (attnSorted blocks) b.avgAttentionScore /
          (max (attnSorted blocks).length 1 : Nat),
        if b.blockId < 4 then 1 else 0,
        if b.prefixReuseFlag then 1 else 0,
        b.layerId / (max (maxField blocks (·.layerId)) 1 : Int),
        b.headGroup / 8,
        b.gpuMemUsedMb / (if b.gpuMemUsedMb + b.gpuMemFreeMb > 0
          then b.gpuMemUsedMb + b.gpuMemFreeMb else 1),
        clip01 ((m.queueDepth.getD 0) / 64),
        clip01 ((m.contextLength.getD 0) / 32768),
        clip01 ((m.outputLength.getD 0) / 32768),
        workloadEncoding (m.workloadType.getD WorkloadType.unknown.value) / 6,
        if b.avgAttentionScore ≥ percentile (blocks.map (·.avgAttentionScore)) 80
          then 1 else 0,
        clip01 ((b.blockId - (orOne (maxField blocks (·.blockId) : ℚ) - 512)) / 512),
        Numerics.log1p b.accessCount /
          Numerics.log1p (max (maxField blocks (·.lastAccessStep)) 1 : Int),
        b.avgAttentionScore / orOne (blocks.map (·.avgAttentionScore)).sum,
        b.currentTier.encoding / 3,
        (orOne (maxField blocks (·.lastAccessStep)) - b.lastAccessStep) /
          (max (maxField blocks (·.lastAccessStep)) 1 : Int) ] := by
  have hage := colMax_telemetry hblocks decision ctx (fun r => r.blockAgeSteps)
    (·.blockAgeSteps) (fun _ _ _ => rfl)
  have hstep := colMax_telemetry hblocks decision ctx (fun r => r.lastAccessStep)
    (·.lastAccessStep) (fun _ _ _ => rfl)
  have hlayer := colMax_telemetry hblocks decision ctx (fun r => r.layerId)
    (·.layerId) (fun _ _ _ => rfl)
  have hid := colMax_telemetry hblocks decision ctx (fun r => r.blockId)
    (·.blockId) (fun _ _ _ => rfl)
  have hlayerCast : max (maxField blocks (·.layerId) : ℚ) 1 =
      (max (maxField blocks (·.layerId)) 1 : Int) := by
    push_cast
    rfl
  simp only [LabelGenerator.featureRow, hage, hstep, hlayer, hid, attention_telemetry,
    LabelGenerator.colSum, tierEncoded_fromBlockState, max_orOne, hlayerCast]
  simp only [TelemetryRecord.fromBlockState, wtEncoded_value, hctx.queueDepth,
    hctx.contextLength, hctx.generatedTokens, hctx.workloadType, Option.getD_some]
  rfl

/-- The recency features agree when the step normalisers do. -/
theorem recency_agree_iff (maxStep step : Int) :
    (1 / (1 + orOne (maxStep : ℚ) - step) : ℚ) = 1 / (1 + (max maxStep 1 : Int) - step) ↔
      0 ≤ maxStep := by
  rw [div_eq_div_iff_eq_zero_or, or_iff_right one_ne_zero, ← orOne_eq_max_iff]
  constructor
  · intro h
    linarith
  · intro h
    rw [h]

theorem gpuMemPressure_agree_iff (used total : ℚ) :
    used / (if total > 0 then total else 1) = (if total > 0 then used / total else 0) ↔
      0 < total ∨ used = 0 := by
  by_cases htotal : 0 < total
  · simp [htotal]
  · simp [htotal]

theorem clip01_div_agree_iff (a : Int) {c : ℚ} (hc : 0 < c) :
    clip01 ((a : ℚ) / c) = min 1 ((a : ℚ) / c) ↔ 0 ≤ a := by
  rw [clip01_eq_min_iff, le_div_iff₀ hc, zero_mul, ← Int.cast_zero, Int.cast_le]

/-- **The two rows of a block coincide exactly where each feature does.** -/
theorem featureRow_eq_vector_iff [ExactNumerics] {blocks : List BlockState} {m : SystemMetrics}
    {decision : BlockState → BlockDecision} {ctx : BlockState → RecordContext}
    {b : BlockState} (hb : b ∈ blocks) (hctx : SameCycle (ctx b) m) :
    LabelGenerator.featureRow (telemetry blocks decision ctx)
        (TelemetryRecord.fromBlockState b (decision b) (ctx b)) =
      ({} : FeatureExtractor).vector b m (FeatureExtractor.computeBatchStats blocks) ↔
    RowAgrees blocks m b := by
  have hblocks : blocks ≠ [] := List.ne_nil_of_mem hb
  have hserve := isHeavyHitter_iff hblocks b
  have htrain : b.avgAttentionScore ≥ percentile (blocks.map (·.avgAttentionScore)) 80 ↔ _ :=
    percentile_80_le_iff hb
  have hrank : ((max (attnSorted blocks).length 1 : Nat) : ℚ) = (attnSorted blocks).length := by
    have hpos : 0 < (attnSorted blocks).length := by
      rw [length_attnSorted]
      exact List.length_pos_iff.mpr hblocks
    rw [max_eq_left (by omega)]
  have hlayer : (max (maxField blocks (·.layerId)) 1 : Int) = ((max (32 - 1) 1 : Int) : ℚ) ↔
      maxField blocks (·.layerId) = 31 := by
    rw [Int.cast_inj]
    omega
  have hhead : ¬ (8 : ℚ) = ((max (8 - 1) 1 : Int) : ℚ) := by norm_num
  have hcontext : ((32768 : Int) : ℚ) = 32768 := by norm_num
  rw [featureRow_telemetry hblocks hctx, FeatureExtractor.vector]
  rw [computeBatchStats_exact hblocks] at hserve ⊢
  simp only [hserve, htrain, ite_one_zero_eq_iff, List.cons.injEq, hrank, hcontext,
    div_eq_div_iff_eq_zero_or b.blockAgeSteps, div_eq_div_iff_eq_zero_or b.layerId,
    div_eq_div_iff_eq_zero_or b.headGroup, orOne_eq_max_iff, recency_agree_iff, hlayer, hhead,
    Int.cast_eq_zero, or_false, gpuMemPressure_agree_iff,
    clip01_div_agree_iff _ (by norm_num : (0 : ℚ) < 64),
    clip01_div_agree_iff _ (by norm_num : (0 : ℚ) < 32768), true_and, and_true]
  constructor
  · intro h
    obtain ⟨hage, hstep, hlayers, hheads, hgpu, hqueue, hctxLen, hout, hhh, hrecent, _⟩ := h
    exact ⟨hage, hstep, hlayers, hheads, hgpu, hqueue, hctxLen, hout, hhh, hrecent⟩
  · intro h
    refine ⟨h.age, h.step, h.layer, h.headGroup, h.gpuMem, h.queueDepth, h.contextLength,
      h.outputLength, h.heavyHitter, h.recent, ?_⟩
    -- the interval since the last access is normalised like the recency
    rw [(orOne_eq_max_iff _).mpr h.step]
    push_cast
    rfl

/-! ## Matrices -/

/-- Where the two feature matrices of a batch coincide. -/
structure FeaturesAgree (blocks : List BlockState) (m : SystemMetrics) : Prop where
  age : 0 ≤ maxField blocks (·.blockAgeSteps)
  step : 0 ≤ maxField blocks (·.lastAccessStep)
  layer : ∀ b ∈ blocks, b.layerId = 0 ∨ maxField blocks (·.layerId) = 31
  headGroup : ∀ b ∈ blocks, b.headGroup = 0
  gpuMem : ∀ b ∈ blocks, 0 < b.gpuMemUsedMb + b.gpuMemFreeMb ∨ b.gpuMemUsedMb = 0
  queueDepth : 0 ≤ m.queueDepth.getD 0
  contextLength : 0 ≤ m.contextLength.getD 0
  outputLength : 0 ≤ m.outputLength.getD 0
  /-- The two order statistics that serve as heavy-hitter thresholds coincide. -/
  heavyHitter : (attnSorted blocks).getD (4 * blocks.length / 5) 0 =
    (attnSorted blocks).getD (blocks.length - max 1 (blocks.length / 5)) 0
  /-- Every block is either the newest or older than the recent window. -/
  recent : maxField blocks (·.blockId) ≠ 0 ∧ -511 ≤ maxField blocks (·.blockId) ∧
    ∀ b ∈ blocks, b.blockId = maxField blocks (·.blockId) ∨
      b.blockId < maxField blocks (·.blockId) - 512 ∨
      (b.blockId = maxField blocks (·.blockId) - 512 ∧ maxField blocks (·.blockId) < 0)

/-- The conditions on single rows, over the whole batch. -/
theorem forall_rowAgrees_iff {blocks : List BlockState} (hblocks : blocks ≠ [])
    (m : SystemMetrics) :
    (∀ b ∈ blocks, RowAgrees blocks m b) ↔ FeaturesAgree blocks m := by
  constructor
  · intro h
    obtain ⟨first, hfirst⟩ := List.exists_mem_of_ne_nil blocks hblocks
    obtain ⟨oldest, holdest, hage⟩ := exists_eq_maxField hblocks (·.blockAgeSteps)
    have hrow := h first hfirst
    refine
      { age := ?_
        step := hrow.step
        layer := fun b hb => (h b hb).layer
        headGroup := fun b hb => (h b hb).headGroup
        gpuMem := fun b hb => (h b hb).gpuMem
        queueDepth := hrow.queueDepth
        contextLength := hrow.contextLength
        outputLength := hrow.outputLength
        heavyHitter := (heavyHitters_agree_iff hblocks).mp (fun b hb => (h b hb).heavyHitter)
        recent := (recents_agree_iff hblocks).mp (fun b hb => (h b hb).recent) }
    -- the oldest block carries the maximum age itself
    have holdestRow := (h oldest holdest).age
    omega
  · intro h b hb
    exact
      { age := Or.inr h.age
        step := h.step
        layer := h.layer b hb
        headGroup := h.headGroup b hb
        gpuMem := h.gpuMem b hb
        queueDepth := h.queueDepth
        contextLength := h.contextLength
        outputLength := h.outputLength
        heavyHitter := (heavyHitters_agree_iff hblocks).mpr h.heavyHitter b hb
        recent := (recents_agree_iff hblocks).mpr h.recent b hb }

/-- **When training and serving see the same features.**

The matrix built from the telemetry of a cycle equals the matrix extracted
from its live blocks if and only if the batch satisfies `FeaturesAgree`. -/
theorem feature_parity_iff [ExactNumerics] {blocks : List BlockState} (hblocks : blocks ≠ [])
    {m : SystemMetrics} (decision : BlockState → BlockDecision)
    {ctx : BlockState → RecordContext} (hctx : ∀ b ∈ blocks, SameCycle (ctx b) m) :
    FeatureParity blocks m (telemetry blocks decision ctx) ↔ FeaturesAgree blocks m := by
  have hempty : (telemetry blocks decision ctx).isEmpty = false := by
    simpa [telemetry] using hblocks
  have htrain : LabelGenerator.buildFeatureMatrix (telemetry blocks decision ctx) =
      .ok (blocks.map (fun b => LabelGenerator.featureRow (telemetry blocks decision ctx)
        (TelemetryRecord.fromBlockState b (decision b) (ctx b)))) := by
    rw [LabelGenerator.buildFeatureMatrix, hempty]
    simp only [Bool.false_eq_true, if_false, map_toFloat32]
    rw [telemetry, List.map_map]
    rfl
  have hserve : ({} : FeatureExtractor).extractBatch blocks m
      (FeatureExtractor.computeBatchStats blocks) =
      .ok (blocks.map (fun b => ({} : FeatureExtractor).vector b m
        (FeatureExtractor.computeBatchStats blocks))) := by
    rw [FeatureExtractor.extractBatch_computeBatchStats _ hblocks m (by decide)]
    simp only [map_toFloat32]
  rw [FeatureParity, htrain, hserve, ← forall_rowAgrees_iff hblocks m]
  constructor
  · rintro ⟨X, hX, hX'⟩ b hb
    have hrows := List.map_inj_left.mp (Except.ok.inj (hX.trans hX'.symm)) b hb
    exact (featureRow_eq_vector_iff hb (hctx b hb)).mp hrows
  · intro h
    refine ⟨_, rfl, congrArg Except.ok (List.map_congr_left (fun b hb => ?_))⟩
    exact ((featureRow_eq_vector_iff hb (hctx b hb)).mpr (h b hb)).symm

/-- A block at a given place in the model. -/
def placedBlock (blockId layerId headGroup : Int) (attention : ℚ) : BlockState where
  blockId := blockId
  layerId := layerId
  headGroup := headGroup
  requestId := "r"
  blockAgeSteps := 3
  lastAccessStep := 1
  accessCount := 1
  avgAttentionScore := attention
  maxAttentionScore := attention
  gpuMemUsedMb := 6
  gpuMemFreeMb := 2

/-- The request context of a short cycle. -/
def shortContext : RecordContext where
  modelName := "m"
  workloadType := .dialogue
  generatedTokens := 16
  contextLength := 128
  queueDepth := 4
  timestamp := 0

/-- The serving metrics of the same cycle. -/
def shortMetrics : SystemMetrics where
  workloadType := some "dialogue"
  queueDepth := some 4
  contextLength := some 128
  outputLength := some 16

theorem feature_parity_iff_two_layers :
    letI : Numerics := lineNumerics.toNumerics
    FeatureParity [placedBlock 1 0 0 (1 / 4), placedBlock 600 31 0 (3 / 4)] shortMetrics
      (telemetry [placedBlock 1 0 0 (1 / 4), placedBlock 600 31 0 (3 / 4)]
        (fun _ => .keepGpu) (fun _ => shortContext)) := by
  refine (@feature_parity_iff lineNumerics _ (by decide) shortMetrics (fun _ => .keepGpu)
    (fun _ => shortContext) (fun _ _ => ⟨rfl, rfl, rfl, rfl⟩)).mpr ?_
  exact
    { age := by decide +kernel
      step := by decide +kernel
      layer := by decide +kernel
      headGroup := by decide +kernel
      gpuMem := by decide +kernel
      queueDepth := by decide +kernel
      contextLength := by decide +kernel
      outputLength := by decide +kernel
      heavyHitter := by decide +kernel
      recent := by decide +kernel }

/-- Head group 1 is `1 / 8` in training and `1 / 7` in serving. -/
theorem feature_parity_fails :
    letI : Numerics := lineNumerics.toNumerics
    ¬ FeatureParity [placedBlock 1 0 1 (1 / 4)] shortMetrics
      (telemetry [placedBlock 1 0 1 (1 / 4)] (fun _ => .keepGpu) (fun _ => shortContext)) := by
  rintro ⟨X, htrain, hserve⟩
  have heq := htrain.trans hserve.symm
  revert heq
  decide +kernel

end KVOrchestrator.Ports
