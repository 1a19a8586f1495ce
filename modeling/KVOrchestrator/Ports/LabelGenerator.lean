import KVOrchestrator.Ports.Extractor
import KVOrchestrator.Verified.Percentile

/-!
# Feature matrices from telemetry (`src/trainers/label_generator.py`)

`_build_feature_matrix` computes the training features column by column from
a telemetry frame.  A frame is a list of records here, so every column it
reads is present.  It shares no code with `FeatureExtractor`: the
normalisers, the workload table and the clips below are its own.

Division is numpy's, which does not raise.  No denominator vanishes: the
maxima and sums go through `or 1.0`, `max(…, 1)` or `np.where`, and no step of
a column exceeds its maximum (`recency_denominator_pos`).  A frame without rows
raises in the first `.max()`.
-/

namespace KVOrchestrator.Ports

open KVOrchestrator.Verified

/-- `np.clip(x, 0, 1)`. -/
def clip01 (x : ℚ) : ℚ := min (max x 0) 1

namespace LabelGenerator

/-- The workload table of the trainer. -/
def wtMap : List (String × ℚ) :=
  [ ("unknown", 0), ("single_doc_qa", 1), ("multi_doc_qa", 2), ("summarization", 3),
    ("dialogue", 4), ("code", 5), ("structured_data", 6) ]

/-- `.map(wt_map).fillna(0)` on one cell. -/
def wtEncoded (value : String) : ℚ := (wtMap.lookup value).getD 0

/-- `col(c).max()`. -/
def colMax (df : List TelemetryRecord) (c : TelemetryRecord → ℚ) : ℚ := maxD (df.map c) 0

/-- `col(c).sum()`. -/
def colSum (df : List TelemetryRecord) (c : TelemetryRecord → ℚ) : ℚ := (df.map c).sum

/-- The tier read back from the flag columns; later assignments win. -/
def tierEncoded (r : TelemetryRecord) : ℚ :=
  if r.evictedFlag then 3 else if r.offloadedFlag then 2 else if r.quantizedFlag then 1 else 0

/-- The denominator of the recency column is positive on every row. -/
theorem recency_denominator_pos {df : List TelemetryRecord} {r : TelemetryRecord}
    (hr : r ∈ df) :
    0 < 1 + orOne (colMax df (fun r => r.lastAccessStep)) - (r.lastAccessStep : ℚ) := by
  have hmem : (r.lastAccessStep : ℚ) ∈ df.map (fun r => (r.lastAccessStep : ℚ)) :=
    List.mem_map_of_mem hr
  have hmax : (r.lastAccessStep : ℚ) ≤ colMax df (fun r => r.lastAccessStep) := by
    unfold colMax
    exact le_maxD hmem 0
  have hor : ∀ x : ℚ, x ≤ orOne x := by
    intro x
    unfold orOne
    split
    · linarith
    · exact le_refl x
  have hle := hor (colMax df (fun r => r.lastAccessStep))
  linarith

variable [Numerics]

/-- One row of the matrix, before the rounding to `float32`. -/
def featureRow (df : List TelemetryRecord) (r : TelemetryRecord) : List ℚ :=
  let maxAge := orOne (colMax df (fun r => r.blockAgeSteps))
  let maxStep := orOne (colMax df (fun r => r.lastAccessStep))
  let totalAttn := orOne (colSum df (·.avgAttentionScore))
  let attnVals := df.map (·.avgAttentionScore)
  let sortedAttn := sortBy id attnVals
  let maxLayer := colMax df (fun r => r.layerId)
  let gpuTotal := r.gpuMemUsedMb + r.gpuMemFreeMb
  let hhThreshold := percentile attnVals 80
  let maxBid := orOne (colMax df (fun r => r.blockId))
  [ r.blockAgeSteps / maxAge,
    1 / (1 + maxStep - r.lastAccessStep),
    r.accessCount / max maxStep 1,
    r.avgAttentionScore,
    r.maxAttentionScore,
    searchsorted sortedAttn r.avgAttentionScore / (max sortedAttn.length 1 : Nat),
    if r.blockId < 4 then 1 else 0,
    if r.prefixReuseFlag then 1 else 0,
    r.layerId / max maxLayer 1,
    r.headGroup / 8,
    r.gpuMemUsedMb / (if gpuTotal > 0 then gpuTotal else 1),
    clip01 (r.queueDepth / 64),
    clip01 (r.contextLength / 32768),
    clip01 (r.generatedTokens / 32768),
    wtEncoded r.workloadType / 6,
    if r.avgAttentionScore ≥ hhThreshold then 1 else 0,
    clip01 ((r.blockId - (maxBid - 512)) / 512),
    Numerics.log1p r.accessCount / Numerics.log1p (max maxStep 1),
    r.avgAttentionScore / totalAttn,
    tierEncoded r / 3,
    (maxStep - r.lastAccessStep) / max maxStep 1 ]

/-- `_build_feature_matrix`. -/
def buildFeatureMatrix (df : List TelemetryRecord) : Except PyError (List (List ℚ)) :=
  if df.isEmpty then
    .error (.valueError
      "zero-size array to reduction operation maximum which has no identity")
  else .ok (df.map (fun r => (featureRow df r).map Numerics.toFloat32))

end LabelGenerator

end KVOrchestrator.Ports
