import KVOrchestrator.Ports.Heuristic
import KVOrchestrator.Ports.Extractor
import KVOrchestrator.Verified.Ladder

/-!
# The ML-based policy (`src/cache_policies/learned.py`)

`LearnedPolicy` queries a loaded ranker on the feature matrix of the live
blocks, renormalises the raw predictions by the minimum and maximum of the
batch, and thresholds the result.  An exception anywhere on the way falls back
to relative attention; without a model the whole decision is delegated to
`H2OPolicy`.

The ranker itself is a parameter: `Model.predict` returns one number per row
of the matrix, or raises.
-/

namespace KVOrchestrator.Ports

open KVOrchestrator.Verified

/-- A loaded XGBoost or LightGBM ranker. -/
structure Model where
  predict : List (List ℚ) → Except PyError (List ℚ)

structure LearnedPolicy extends BasePolicy where
  model : Option Model := none
  fallback : H2OPolicy := ⟨{ config := config }⟩
  fallback_config : fallback.config = config := by rfl

namespace LearnedPolicy

/-- A model is loaded and ready for inference. -/
def isReady (p : LearnedPolicy) : Bool := p.model.isSome

/-- `raw` rescaled to `[0, 1]` by its extremes `lo` and `hi`; a constant batch
scores one half throughout. -/
def normalise (n : Nat) (raw : List ℚ) (lo hi : ℚ) : List ℚ :=
  if hi > lo then raw.map (fun r => (r - lo) / (hi - lo)) else List.replicate n (5 / 10)

/-- Relative attention, one half if no block has positive attention. -/
def attentionFallback (blocks : List BlockState) : List ℚ :=
  let maxAttn := maxAvgAttention blocks
  blocks.map (fun b => if maxAttn > 0 then b.avgAttentionScore / maxAttn else 5 / 10)

/-- Map a continuous importance score to a four-way decision.  The pressure
the source passes along is not read. -/
def scoreToDecision (cfg : PolicyConfig) (blockId : Int) (score : ℚ) : PolicyDecision :=
  let qThresh := cfg.quantizationMinImportance
  let oThresh := cfg.offloadThresholdScore
  if score ≥ qThresh then
    { blockId := blockId
      decision := .keepGpu
      score := score
      reason := "high_importance" }
  else if score ≥ oThresh ∧ cfg.quantizationEnabled = true then
    { blockId := blockId
      decision := .quantize
      score := score
      reason := "medium_importance_quantize" }
  else if score ≥ oThresh * (5 / 10) ∧ cfg.offloadEnabled = true then
    { blockId := blockId
      decision := .offloadCpu
      score := score
      reason := "low_medium_offload" }
  else
    { blockId := blockId
      decision := .evict
      score := score
      reason := "low_importance_evict" }

/-- The verdict on one scored block. -/
def blockDecision (cfg : PolicyConfig) (sinkIds : List Int) (x : BlockState × ℚ) :
    PolicyDecision :=
  if x.1.blockId ∈ sinkIds then
    { blockId := x.1.blockId
      decision := .keepGpu
      score := 1
      reason := "sink" }
  else scoreToDecision cfg x.1.blockId x.2

section Scoring

variable [Numerics]

/-- The raw predictions of the model for a batch. -/
def rawPredictions (p : LearnedPolicy) (blocks : List BlockState) (m : SystemMetrics) :
    Except PyError (List ℚ) := do
  let extractor : FeatureExtractor := {}
  let batchStats := FeatureExtractor.computeBatchStats blocks
  let x ← extractor.extractBatch blocks m batchStats
  match p.model with
  | some model => model.predict x
  | none => .error (.attributeError "'NoneType' object has no attribute 'predict'")

/-- The `try` block of `score_blocks`. -/
def modelScores (p : LearnedPolicy) (blocks : List BlockState) (m : SystemMetrics) :
    Except PyError (List ℚ) := do
  let raw ← p.rawPredictions blocks m
  match raw.min?, raw.max? with
  | some lo, some hi => return normalise blocks.length raw lo hi
  | _, _ =>
      .error (.valueError
        "zero-size array to reduction operation minimum which has no identity")

/-- Importance scores of a batch. -/
def scoreBlocks (p : LearnedPolicy) (blocks : List BlockState) (m : SystemMetrics) : List ℚ :=
  match p.modelScores blocks m with
  | .ok scores => scores
  | .error _ => attentionFallback blocks

/-- The verdicts once a model is loaded. -/
def decisions (p : LearnedPolicy) (blocks : List BlockState) (m : SystemMetrics) :
    List PolicyDecision :=
  if m.pressure < p.config.memoryPressureLow then keepAll blocks
  else
    (blocks.zip (p.scoreBlocks blocks m)).map
      (blockDecision p.config (leadingIds blocks p.config.sinkTokenBlocks))

instance : PolicyInterface LearnedPolicy where
  decide p blocks m :=
    if p.isReady = false then
      let r := PolicyInterface.decide p.fallback blocks m
      (r.1, { p with
        fallback := r.2
        fallback_config := p.fallback_config })
    else
      let ds := p.decisions blocks m
      (ds, { p with toBasePolicy := p.toBasePolicy.makeStats "learned" ds m.pressure })
  getName _ := "learned"
  getLastStats p := p.lastStats

end Scoring

end LearnedPolicy

/-! ## The selective ladder -/

/-- The rungs of `_score_to_decision`, which `_medium_pressure` of the hybrid
controller repeats. -/
def selectiveRungs (cfg : PolicyConfig) : List (Rung ℚ BlockDecision) :=
  [ { cut := cfg.quantizationMinImportance
      enabled := true
      label := .keepGpu },
    { cut := cfg.offloadThresholdScore
      enabled := cfg.quantizationEnabled
      label := .quantize },
    { cut := cfg.offloadThresholdScore * (5 / 10)
      enabled := cfg.offloadEnabled
      label := .offloadCpu } ]

theorem descending_selectiveRungs (cfg : PolicyConfig) :
    Descending BlockDecision.evict (selectiveRungs cfg) := by
  constructor
  · simp [selectiveRungs, BlockDecision.lt_iff_rank, BlockDecision.rank]
  · simp [selectiveRungs, BlockDecision.lt_iff_rank, BlockDecision.rank]

namespace LearnedPolicy

@[simp] theorem blockId_scoreToDecision (cfg : PolicyConfig) (blockId : Int) (score : ℚ) :
    (scoreToDecision cfg blockId score).blockId = blockId := by
  unfold scoreToDecision
  grind

theorem decision_scoreToDecision (cfg : PolicyConfig) (blockId : Int) (score : ℚ) :
    (scoreToDecision cfg blockId score).decision =
      ladder .evict score (selectiveRungs cfg) := by
  simp only [scoreToDecision, ladder, selectiveRungs, Rung.reached]
  grind

@[simp] theorem blockId_blockDecision (cfg : PolicyConfig) (sinkIds : List Int)
    (x : BlockState × ℚ) : (blockDecision cfg sinkIds x).blockId = x.1.blockId := by
  unfold blockDecision
  split
  · rfl
  · exact blockId_scoreToDecision cfg _ _

/-- A batch is scored from its raw predictions when there are some. -/
theorem scoreBlocks_of_raw [Numerics] {p : LearnedPolicy} {blocks : List BlockState}
    {m : SystemMetrics} {raw : List ℚ} (hraw : p.rawPredictions blocks m = .ok raw)
    {lo hi : ℚ} (hlo : raw.min? = some lo) (hhi : raw.max? = some hi) :
    p.scoreBlocks blocks m = normalise blocks.length raw lo hi := by
  have hscores : p.modelScores blocks m = .ok (normalise blocks.length raw lo hi) := by
    rw [modelScores, hraw]
    simp only [bind, Except.bind, hlo, hhi]
    rfl
  rw [scoreBlocks, hscores]

/-- The feature matrix of a nonempty batch always exists, so the raw
predictions are the model's answer to it. -/
theorem rawPredictions_eq [Numerics] {p : LearnedPolicy} {model : Model}
    (hmodel : p.model = some model) {blocks : List BlockState} (hblocks : blocks ≠ [])
    (m : SystemMetrics) :
    p.rawPredictions blocks m =
      model.predict (blocks.map (fun b =>
        (({} : FeatureExtractor).vector b m (FeatureExtractor.computeBatchStats blocks)).map
          Numerics.toFloat32)) := by
  rw [rawPredictions,
    FeatureExtractor.extractBatch_computeBatchStats _ hblocks m (by decide), hmodel]
  rfl

end LearnedPolicy

end KVOrchestrator.Ports
