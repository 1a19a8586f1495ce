import KVOrchestrator.Ports.PolicyBase
import Mathlib.Algebra.BigOperators.Group.List.Basic
import Mathlib.Tactic.Linarith

/-!
# Feature extraction (`src/feature_engineering/extractor.py`)

A feature vector is computed from one block, the system metrics and the
statistics of its batch.  Every division is a checked one: Python floats raise
`ZeroDivisionError`, so extraction is partial as written, and its value is
given in closed form by `FeatureExtractor.vector` where no denominator
vanishes (`extract_eq_vector`).

Two operations leave the rationals: `math.log1p` and the rounding to
`float32`.  They are the operations of the class `Numerics`, with the
properties the code relies on; `ExactNumerics` is the case without rounding.
-/

namespace KVOrchestrator.Ports

open KVOrchestrator.Verified

/-- The transcendental and rounding operations of the Python runtime. -/
class Numerics where
  /-- `math.log1p` -/
  log1p : ℚ → ℚ
  /-- Conversion of a float to `np.float32`. -/
  toFloat32 : ℚ → ℚ
  log1p_zero : log1p 0 = 0
  log1p_pos : ∀ x, 0 < x → 0 < log1p x
  log1p_mono : ∀ x y, 0 ≤ x → x ≤ y → log1p x ≤ log1p y
  toFloat32_mono : ∀ x y, x ≤ y → toFloat32 x ≤ toFloat32 y

/-- Exact arithmetic: the conversion to `float32` loses nothing. -/
class ExactNumerics extends Numerics where
  toFloat32_eq : ∀ x, toFloat32 x = x

/-- A runtime that does not round, with `log1p` on the line through its double
precision values at 0 and 1, the arguments of the examples. -/
@[reducible] def lineNumerics : ExactNumerics where
  log1p x := x * (6243314768165359 / 9007199254740992)
  toFloat32 x := x
  log1p_zero := by norm_num
  log1p_pos x hx := by positivity
  log1p_mono x y hx hxy := by
    have hslope : (0 : ℚ) ≤ 6243314768165359 / 9007199254740992 := by norm_num
    exact mul_le_mul_of_nonneg_right hxy hslope
  toFloat32_mono x y hxy := hxy
  toFloat32_eq _ := rfl

/-- Workload type → ordinal encoding. -/
def WorkloadType.encoding : WorkloadType → ℚ
  | .unknown => 0
  | .singleDocQa => 1
  | .multiDocQa => 2
  | .summarization => 3
  | .dialogue => 4
  | .code => 5
  | .structuredData => 6

/-- `_WORKLOAD_ENCODING.get(value, 0.0)`. -/
def workloadEncoding (value : String) : ℚ :=
  ((WorkloadType.ofValue? value).map WorkloadType.encoding).getD 0

def BlockTier.encoding : BlockTier → ℚ
  | .gpuFp16 => 0
  | .gpuQuantized => 1
  | .cpuOffloaded => 2
  | .evicted => 3

/-- The dictionary `compute_batch_stats` returns. -/
structure BatchStats where
  maxAge : Int
  maxStep : Int
  maxAttention : ℚ
  totalBlocks : Nat
  attnSorted : List ℚ
  totalAttention : ℚ
  maxBlockId : Int
  deriving DecidableEq, Repr

structure FeatureExtractor where
  numLayers : Int := 32
  numHeadGroups : Int := 8
  maxContextLength : Int := 32768
  sinkTokenBlocks : Int := 4
  heavyHitterFraction : ℚ := 20 / 100
  recentWindowBlocks : Int := 512
  deriving DecidableEq, Repr

/-- `x or 1.0` for a float `x`. -/
def orOne (x : ℚ) : ℚ := if x = 0 then 1 else x

theorem orOne_ne_zero (x : ℚ) : orOne x ≠ 0 := by
  unfold orOne
  split
  · exact one_ne_zero
  · assumption

/-- `np.searchsorted(values, v)` for ascending `values`: the leftmost insertion
point, which is the number of strictly smaller values. -/
def searchsorted (values : List ℚ) (v : ℚ) : Nat := values.countP (fun x => decide (x < v))

theorem exists_of_bind_ok {ε α β : Type} {x : Except ε α} {f : α → Except ε β} {r : β}
    (h : (x >>= f) = .ok r) : ∃ a, x = .ok a ∧ f a = .ok r := by
  cases x with
  | error e => cases h
  | ok a => exact ⟨a, rfl, h⟩

theorem pyDiv_zero (a : ℚ) : pyDiv a 0 = .error .zeroDivisionError := if_pos rfl

namespace FeatureExtractor

variable [Numerics]

/-- Aggregates of a batch needed for normalisation.  The rounding of the
`float32` sum is taken once. -/
def computeBatchStats (blocks : List BlockState) : BatchStats :=
  if blocks.isEmpty then
    { maxAge := 1
      maxStep := 1
      maxAttention := 1
      totalBlocks := 0
      attnSorted := []
      totalAttention := 1
      maxBlockId := 0 }
  else
    let attnVals := blocks.map (fun b => Numerics.toFloat32 b.avgAttentionScore)
    { maxAge := maxD (blocks.map (·.blockAgeSteps)) 0
      maxStep := maxD (blocks.map (·.lastAccessStep)) 0
      maxAttention := maxD attnVals 0
      totalBlocks := blocks.length
      attnSorted := sortBy id attnVals
      totalAttention := orOne (Numerics.toFloat32 attnVals.sum)
      maxBlockId := maxD (blocks.map (·.blockId)) 0 }

/-- How many blocks of the batch count as heavy hitters. -/
def nHeavy (fx : FeatureExtractor) (bs : BatchStats) : Int :=
  max 1 (pyInt (((max bs.totalBlocks 1 : Nat) : ℚ) * fx.heavyHitterFraction))

/-- `is_heavy_hitter`: in the top fraction of the batch by attention. -/
def isHeavyHitter (fx : FeatureExtractor) (block : BlockState) (bs : BatchStats) : Bool :=
  decide (bs.attnSorted ≠ [] ∧ fx.nHeavy bs ≤ bs.attnSorted.length ∧
    bs.attnSorted.getD (bs.attnSorted.length - (fx.nHeavy bs).toNat) 0 ≤
      block.avgAttentionScore)

/-- The feature vector of one block, in the canonical order. -/
def extract (fx : FeatureExtractor) (block : BlockState) (sm : SystemMetrics)
    (bs : BatchStats) : Except PyError (List ℚ) := do
  let maxAge : Int := max bs.maxAge 1
  let maxStep : Int := max bs.maxStep 1
  let maxBlockId : Int := max bs.maxBlockId 1
  let f0 ← pyDiv block.blockAgeSteps maxAge
  let f1 ← pyDiv 1 (1 + maxStep - block.lastAccessStep)
  let f2 ← pyDiv block.accessCount (max maxStep 1 : Int)
  let f3 := block.avgAttentionScore
  let f4 := block.maxAttentionScore
  let f5 ←
    if bs.attnSorted ≠ [] then
      pyDiv (searchsorted bs.attnSorted block.avgAttentionScore) bs.attnSorted.length
    else .ok (5 / 10)
  let f6 : ℚ := if block.blockId < fx.sinkTokenBlocks then 1 else 0
  let f7 : ℚ := if block.prefixReuseFlag then 1 else 0
  let f8 ← pyDiv block.layerId (max (fx.numLayers - 1) 1 : Int)
  let f9 ← pyDiv block.headGroup (max (fx.numHeadGroups - 1) 1 : Int)
  let gpuTotal := block.gpuMemUsedMb + block.gpuMemFreeMb
  let f10 ← if gpuTotal > 0 then pyDiv block.gpuMemUsedMb gpuTotal else .ok 0
  let q11 ← pyDiv (sm.queueDepth.getD 0) 64
  let f11 := min 1 q11
  let q12 ← pyDiv (sm.contextLength.getD 0) fx.maxContextLength
  let f12 := min 1 q12
  let q13 ← pyDiv (sm.outputLength.getD 0) fx.maxContextLength
  let f13 := min 1 q13
  let f14 ← pyDiv (workloadEncoding (sm.workloadType.getD WorkloadType.unknown.value)) 6
  let f15 : ℚ := if fx.isHeavyHitter block bs then 1 else 0
  let f16 : ℚ := if block.blockId ≥ maxBlockId - fx.recentWindowBlocks then 1 else 0
  let f17 ← pyDiv (Numerics.log1p block.accessCount) (Numerics.log1p maxStep)
  let f18 ← pyDiv block.avgAttentionScore bs.totalAttention
  let f19 ← pyDiv block.currentTier.encoding 3
  let inter : Int := maxStep - block.lastAccessStep
  let f20 ← if maxStep > 0 then pyDiv inter maxStep else .ok 0
  return ([f0, f1, f2, f3, f4, f5, f6, f7, f8, f9, f10, f11, f12, f13, f14, f15, f16, f17,
    f18, f19, f20].map Numerics.toFloat32)

/-- The feature matrix of a batch, one row per block. -/
def extractBatch (fx : FeatureExtractor) (blocks : List BlockState) (sm : SystemMetrics)
    (bs : BatchStats) : Except PyError (List (List ℚ)) :=
  if blocks.isEmpty then .ok []
  else blocks.mapM (fun b => fx.extract b sm bs)

/-! ## The value of an extraction -/

/-- The feature vector, with ordinary division. -/
def vector (fx : FeatureExtractor) (block : BlockState) (sm : SystemMetrics)
    (bs : BatchStats) : List ℚ :=
  let maxStep : Int := max bs.maxStep 1
  let gpuTotal := block.gpuMemUsedMb + block.gpuMemFreeMb
  [ block.blockAgeSteps / (max bs.maxAge 1 : Int),
    1 / (1 + maxStep - block.lastAccessStep),
    block.accessCount / maxStep,
    block.avgAttentionScore,
    block.maxAttentionScore,
    searchsorted bs.attnSorted block.avgAttentionScore / bs.attnSorted.length,
    if block.blockId < fx.sinkTokenBlocks then 1 else 0,
    if block.prefixReuseFlag then 1 else 0,
    block.layerId / (max (fx.numLayers - 1) 1 : Int),
    block.headGroup / (max (fx.numHeadGroups - 1) 1 : Int),
    if gpuTotal > 0 then block.gpuMemUsedMb / gpuTotal else 0,
    min 1 ((sm.queueDepth.getD 0) / 64),
    min 1 ((sm.contextLength.getD 0) / fx.maxContextLength),
    min 1 ((sm.outputLength.getD 0) / fx.maxContextLength),
    workloadEncoding (sm.workloadType.getD WorkloadType.unknown.value) / 6,
    if fx.isHeavyHitter block bs then 1 else 0,
    if block.blockId ≥ max bs.maxBlockId 1 - fx.recentWindowBlocks then 1 else 0,
    Numerics.log1p block.accessCount / Numerics.log1p maxStep,
    block.avgAttentionScore / bs.totalAttention,
    block.currentTier.encoding / 3,
    (maxStep - block.lastAccessStep : Int) / maxStep ]

/-- Extraction succeeds, with the value `vector`, for a block whose step is at
most the batch maximum and statistics that are not degenerate. -/
theorem extract_eq_vector (fx : FeatureExtractor) {block : BlockState} (sm : SystemMetrics)
    {bs : BatchStats} (hstep : block.lastAccessStep ≤ max bs.maxStep 1)
    (hattn : bs.attnSorted ≠ []) (htotal : bs.totalAttention ≠ 0)
    (hctx : fx.maxContextLength ≠ 0) :
    fx.extract block sm bs = .ok ((fx.vector block sm bs).map Numerics.toFloat32) := by
  have hmaxStep : (0 : Int) < max bs.maxStep 1 := by omega
  have hmaxStepQ : ((max bs.maxStep 1 : Int) : ℚ) ≠ 0 := by
    exact_mod_cast hmaxStep.ne'
  have hage : ((max bs.maxAge 1 : Int) : ℚ) ≠ 0 := by
    have : (0 : Int) < max bs.maxAge 1 := by omega
    exact_mod_cast this.ne'
  have hrec : (1 + ((max bs.maxStep 1 : Int) : ℚ) - (block.lastAccessStep : ℚ)) ≠ 0 := by
    have hle : ((block.lastAccessStep : Int) : ℚ) ≤ ((max bs.maxStep 1 : Int) : ℚ) := by
      exact_mod_cast hstep
    linarith
  have hmm : max (max bs.maxStep 1) 1 = max bs.maxStep 1 := by omega
  have hlen : ((bs.attnSorted.length : Nat) : ℚ) ≠ 0 := by
    have := List.length_pos_iff.mpr hattn
    exact_mod_cast this.ne'
  have hlayers : ((max (fx.numLayers - 1) 1 : Int) : ℚ) ≠ 0 := by
    have : (0 : Int) < max (fx.numLayers - 1) 1 := by omega
    exact_mod_cast this.ne'
  have hheads : ((max (fx.numHeadGroups - 1) 1 : Int) : ℚ) ≠ 0 := by
    have : (0 : Int) < max (fx.numHeadGroups - 1) 1 := by omega
    exact_mod_cast this.ne'
  have hctxQ : ((fx.maxContextLength : Int) : ℚ) ≠ 0 := by
    exact_mod_cast hctx
  have hlog : Numerics.log1p ((max bs.maxStep 1 : Int) : ℚ) ≠ 0 := by
    refine (Numerics.log1p_pos _ ?_).ne'
    exact_mod_cast hmaxStep
  unfold extract vector
  simp only [hmm, pyDiv_of_ne_zero _ hage, pyDiv_of_ne_zero _ hrec,
    pyDiv_of_ne_zero _ hmaxStepQ, pyDiv_of_ne_zero _ hlen, pyDiv_of_ne_zero _ hlayers,
    pyDiv_of_ne_zero _ hheads, pyDiv_of_ne_zero _ hctxQ, pyDiv_of_ne_zero _ hlog,
    pyDiv_of_ne_zero _ htotal, pyDiv_of_ne_zero _ (by norm_num : (64 : ℚ) ≠ 0),
    pyDiv_of_ne_zero _ (by norm_num : (6 : ℚ) ≠ 0),
    pyDiv_of_ne_zero _ (by norm_num : (3 : ℚ) ≠ 0), if_pos hattn, gt_iff_lt, if_pos hmaxStep]
  by_cases hgpu : 0 < block.gpuMemUsedMb + block.gpuMemFreeMb
  · simp only [if_pos hgpu, pyDiv_of_ne_zero _ hgpu.ne']
    rfl
  · simp only [if_neg hgpu]
    rfl

/-- The statistics of a nonempty batch. -/
theorem computeBatchStats_of_ne_nil {blocks : List BlockState} (hblocks : blocks ≠ []) :
    computeBatchStats blocks =
      { maxAge := maxD (blocks.map (·.blockAgeSteps)) 0
        maxStep := maxD (blocks.map (·.lastAccessStep)) 0
        maxAttention := maxD (blocks.map (fun b => Numerics.toFloat32 b.avgAttentionScore)) 0
        totalBlocks := blocks.length
        attnSorted := sortBy id (blocks.map (fun b => Numerics.toFloat32 b.avgAttentionScore))
        totalAttention := orOne (Numerics.toFloat32
          (blocks.map (fun b => Numerics.toFloat32 b.avgAttentionScore)).sum)
        maxBlockId := maxD (blocks.map (·.blockId)) 0 } := by
  rw [computeBatchStats, if_neg (by simpa using hblocks)]

/-- A batch with room for its heavy hitters flags a block from the threshold
among the rounded scores on. -/
theorem isHeavyHitter_computeBatchStats_iff (fx : FeatureExtractor) {blocks : List BlockState}
    (hblocks : blocks ≠ []) (hroom : fx.nHeavy (computeBatchStats blocks) ≤ blocks.length)
    (b : BlockState) :
    fx.isHeavyHitter b (computeBatchStats blocks) = true ↔
      (sortBy id (blocks.map (fun b => Numerics.toFloat32 b.avgAttentionScore))).getD
          (blocks.length - (fx.nHeavy (computeBatchStats blocks)).toNat) 0 ≤
        b.avgAttentionScore := by
  have hattn : (computeBatchStats blocks).attnSorted =
      sortBy id (blocks.map (fun b => Numerics.toFloat32 b.avgAttentionScore)) := by
    rw [computeBatchStats_of_ne_nil hblocks]
  have hlen : (sortBy id (blocks.map (fun b => Numerics.toFloat32 b.avgAttentionScore))).length =
      blocks.length := by
    rw [length_sortBy, List.length_map]
  have hne : sortBy id (blocks.map (fun b => Numerics.toFloat32 b.avgAttentionScore)) ≠ [] := by
    rw [← List.length_pos_iff, hlen]
    exact List.length_pos_iff.mpr hblocks
  rw [isHeavyHitter, decide_eq_true_iff, hattn, hlen]
  constructor
  · intro h
    exact h.2.2
  · intro h
    exact ⟨hne, hroom, h⟩

/-- A block of a batch has its row by the statistics of the batch. -/
theorem extract_of_mem {fx : FeatureExtractor} {blocks : List BlockState} {b : BlockState}
    (hb : b ∈ blocks) (hctx : fx.maxContextLength ≠ 0) (sm : SystemMetrics) :
    fx.extract b sm (computeBatchStats blocks) =
      .ok ((fx.vector b sm (computeBatchStats blocks)).map Numerics.toFloat32) := by
  have hblocks : blocks ≠ [] := List.ne_nil_of_mem hb
  have hstep : b.lastAccessStep ≤ maxD (blocks.map (·.lastAccessStep)) 0 :=
    le_maxD (List.mem_map_of_mem hb) 0
  apply fx.extract_eq_vector sm
  · rw [computeBatchStats_of_ne_nil hblocks]
    exact le_max_of_le_left hstep
  · rw [computeBatchStats_of_ne_nil hblocks]
    intro hnil
    have hlen := congrArg List.length hnil
    rw [length_sortBy, List.length_map] at hlen
    exact hblocks (List.length_eq_zero_iff.mp hlen)
  · rw [computeBatchStats_of_ne_nil hblocks]
    exact orOne_ne_zero _
  · exact hctx

/-- Extraction from a batch by its own statistics succeeds row by row. -/
theorem extractBatch_computeBatchStats (fx : FeatureExtractor) {blocks : List BlockState}
    (hblocks : blocks ≠ []) (sm : SystemMetrics) (hctx : fx.maxContextLength ≠ 0) :
    fx.extractBatch blocks sm (computeBatchStats blocks) =
      .ok (blocks.map (fun b =>
        (fx.vector b sm (computeBatchStats blocks)).map Numerics.toFloat32)) := by
  rw [extractBatch, if_neg (by simpa using hblocks)]
  apply mapM_ok
  intro b hb
  exact extract_of_mem hb hctx sm

/-! ## Rows that exist -/

/-- An extractor that extracts has a positive context length to divide by. -/
theorem maxContextLength_ne_zero {fx : FeatureExtractor} {b : BlockState}
    {sm : SystemMetrics} {bs : BatchStats} {row : List ℚ} (h : fx.extract b sm bs = .ok row) :
    fx.maxContextLength ≠ 0 := by
  intro hzero
  unfold extract at h
  -- the three quotients before the first branch
  obtain ⟨_, _, h⟩ := exists_of_bind_ok h
  obtain ⟨_, _, h⟩ := exists_of_bind_ok h
  obtain ⟨_, _, h⟩ := exists_of_bind_ok h
  dsimp only at h
  split at h
  all_goals
    obtain ⟨_, _, h⟩ := exists_of_bind_ok h
    obtain ⟨_, _, h⟩ := exists_of_bind_ok h
    obtain ⟨_, _, h⟩ := exists_of_bind_ok h
    split at h
    all_goals
      obtain ⟨_, _, h⟩ := exists_of_bind_ok h
      obtain ⟨_, _, h⟩ := exists_of_bind_ok h
      obtain ⟨_, hctx, _⟩ := exists_of_bind_ok h
      rw [hzero, Int.cast_zero, pyDiv_zero] at hctx
      cases hctx

/-- The rows of a nonempty batch are its vectors, rounded. -/
theorem rows_eq {fx : FeatureExtractor} {blocks : List BlockState}
    (hblocks : blocks ≠ []) {sm : SystemMetrics} {rows : List (List ℚ)}
    (hrows : fx.extractBatch blocks sm (computeBatchStats blocks) = .ok rows) :
    rows = blocks.map (fun b =>
      (fx.vector b sm (computeBatchStats blocks)).map Numerics.toFloat32) := by
  have hctx : fx.maxContextLength ≠ 0 := by
    obtain ⟨b, rest, rfl⟩ := List.exists_cons_of_ne_nil hblocks
    rw [extractBatch, if_neg (by simp), List.mapM_cons] at hrows
    obtain ⟨row, hrow, _⟩ := exists_of_bind_ok hrows
    exact maxContextLength_ne_zero hrow
  rw [fx.extractBatch_computeBatchStats hblocks sm hctx] at hrows
  exact (Except.ok.inj hrows).symm

end FeatureExtractor

end KVOrchestrator.Ports
