import KVOrchestrator.Ports.Learned

/-!
# The adaptive multi-tier controller (`src/cache_policies/hybrid.py`)

Three pressure regimes: keep everything, be selective, be aggressive.  The
selective regime uses the ladder of the learned policy; the aggressive one has
a ladder without the top rung and keeps a relative share of heavy hitters
instead.  Scores are the learned ones where a ready `LearnedPolicy` is
attached, a weighted sum of recency, attention and reuse otherwise.
-/

namespace KVOrchestrator.Ports

open KVOrchestrator.Verified

structure HybridAdaptivePolicy extends BasePolicy where
  learnedPolicy : Option LearnedPolicy := none
  pressureHistory : List ℚ := []

/-- `_WORKLOAD_DELTAS`: adjustments of the recency, attention and reuse
weights. -/
def WorkloadType.deltas : WorkloadType → ℚ × ℚ × ℚ
  | .singleDocQa => (0, 10 / 100, 0)
  | .multiDocQa => (0, 10 / 100, 5 / 100)
  | .summarization => (10 / 100, 0, 0)
  | .dialogue => (5 / 100, 0, 5 / 100)
  | .code => (-5 / 100, 5 / 100, 15 / 100)
  | .structuredData => (0, 5 / 100, 5 / 100)
  | .unknown => (0, 0, 0)

namespace HybridAdaptivePolicy

/-! ## Scoring -/

/-- The workload the metrics name; an unknown name counts as `UNKNOWN`. -/
def workloadOf (m : SystemMetrics) : WorkloadType :=
  (WorkloadType.ofValue? (m.workloadType.getD WorkloadType.unknown.value)).getD .unknown

/-- The weights of recency, attention and reuse for a workload, normalised. -/
def weights (cfg : PolicyConfig) (wt : WorkloadType) : ℚ × ℚ × ℚ :=
  let wRec := max 0 (cfg.recencyWeight + wt.deltas.1)
  let wAtt := max 0 (cfg.attentionWeight + wt.deltas.2.1)
  let wReu := max 0 (cfg.reuseWeight + wt.deltas.2.2)
  let totalW := wRec + wAtt + wReu
  if totalW > 0 then (wRec / totalW, wAtt / totalW, wReu / totalW) else (wRec, wAtt, wReu)

/-- Heuristic composite importance score for a single block. -/
def scoreBlock (cfg : PolicyConfig) (block : BlockState) (m : SystemMetrics) : ℚ :=
  let w := weights cfg (workloadOf m)
  let maxStep : Int := m.globalStep.getD (max block.lastAccessStep 1)
  let inactive : Int := maxStep - block.lastAccessStep
  let recency : ℚ := max 0 (1 - inactive / (max maxStep 1 : Int))
  let attnMax := m.attnMax.getD (max block.maxAttentionScore (1 / 10 ^ 9))
  let attention := min 1 (if attnMax > 0 then block.avgAttentionScore / attnMax else 0)
  let reuse : ℚ := if block.prefixReuseFlag then 1 else 0
  w.1 * recency + w.2.1 * attention + w.2.2 * reuse

/-- The recency term of the composite. -/
def recencyTerm (block : BlockState) (m : SystemMetrics) : ℚ :=
  let maxStep : Int := m.globalStep.getD (max block.lastAccessStep 1)
  let inactive : Int := maxStep - block.lastAccessStep
  max 0 (1 - inactive / (max maxStep 1 : Int))

/-- The attention term of the composite. -/
def attentionTerm (block : BlockState) (m : SystemMetrics) : ℚ :=
  let attnMax := m.attnMax.getD (max block.maxAttentionScore (1 / 10 ^ 9))
  min 1 (if attnMax > 0 then block.avgAttentionScore / attnMax else 0)

/-- The reuse term of the composite. -/
def reuseTerm (block : BlockState) : ℚ := if block.prefixReuseFlag then 1 else 0

/-- The composite is the weighted sum of its three terms. -/
theorem scoreBlock_eq (cfg : PolicyConfig) (block : BlockState) (m : SystemMetrics) :
    scoreBlock cfg block m =
      (weights cfg (workloadOf m)).1 * recencyTerm block m +
        (weights cfg (workloadOf m)).2.1 * attentionTerm block m +
        (weights cfg (workloadOf m)).2.2 * reuseTerm block := rfl

/-- A composite score for each block, or the learned one. -/
def scoreAll [Numerics] (p : HybridAdaptivePolicy) (blocks : List BlockState)
    (m : SystemMetrics) : List ℚ :=
  match p.learnedPolicy with
  | some lp =>
      if lp.isReady then lp.scoreBlocks blocks m
      else blocks.map (fun b => scoreBlock p.config b m)
  | none => blocks.map (fun b => scoreBlock p.config b m)

/-! ## Pressure regimes -/

/-- Ids of the first `sink_token_blocks` blocks. -/
def sinkIds (cfg : PolicyConfig) (blocks : List BlockState) : List Int :=
  leadingIds blocks cfg.sinkTokenBlocks

/-- The verdict of the selective regime on one scored block. -/
def mediumDecision (cfg : PolicyConfig) (sinkIds : List Int) (x : BlockState × ℚ) :
    PolicyDecision :=
  if x.1.blockId ∈ sinkIds then
    { blockId := x.1.blockId
      decision := .keepGpu
      score := 1
      reason := "sink" }
  else if x.2 ≥ cfg.quantizationMinImportance then
    { blockId := x.1.blockId
      decision := .keepGpu
      score := x.2
      reason := "high_score" }
  else if x.2 ≥ cfg.offloadThresholdScore ∧ cfg.quantizationEnabled = true then
    { blockId := x.1.blockId
      decision := .quantize
      score := x.2
      reason := "medium_score_quantize" }
  else if x.2 ≥ cfg.offloadThresholdScore * (5 / 10) ∧ cfg.offloadEnabled = true then
    { blockId := x.1.blockId
      decision := .offloadCpu
      score := x.2
      reason := "low_medium_offload" }
  else
    { blockId := x.1.blockId
      decision := .evict
      score := x.2
      reason := "very_low_evict" }

/-- Selective: quantise or offload blocks of low importance. -/
def mediumPressure [Numerics] (p : HybridAdaptivePolicy) (blocks : List BlockState)
    (m : SystemMetrics) : List PolicyDecision :=
  (blocks.zip (p.scoreAll blocks m)).map (mediumDecision p.config (sinkIds p.config blocks))

/-- Heavy-hitter ids: the top fraction by score. -/
def hhIds (cfg : PolicyConfig) (blocks : List BlockState) (scores : List ℚ) : List Int :=
  (sliceTo (sortByDesc Prod.snd (blocks.zip scores)) (heavyHitterCount cfg blocks)).map
    (fun x => x.1.blockId)

/-- The verdict of the aggressive regime on one scored block. -/
def highDecision (cfg : PolicyConfig) (sinkIds hhIds : List Int) (x : BlockState × ℚ) :
    PolicyDecision :=
  if x.1.blockId ∈ sinkIds ∨ x.1.blockId ∈ hhIds then
    { blockId := x.1.blockId
      decision := .keepGpu
      score := x.2
      reason := "hh_or_sink" }
  else if x.2 ≥ cfg.quantizationMinImportance ∧ cfg.quantizationEnabled = true then
    { blockId := x.1.blockId
      decision := .quantize
      score := x.2
      reason := "medium_high_quantize" }
  else if x.2 ≥ cfg.offloadThresholdScore ∧ cfg.offloadEnabled = true then
    { blockId := x.1.blockId
      decision := .offloadCpu
      score := x.2
      reason := "medium_offload" }
  else
    { blockId := x.1.blockId
      decision := .evict
      score := x.2
      reason := "aggressive_evict" }

/-- Aggressive: keep only heavy hitters and sinks at full precision. -/
def highPressure [Numerics] (p : HybridAdaptivePolicy) (blocks : List BlockState)
    (m : SystemMetrics) : List PolicyDecision :=
  let scores := p.scoreAll blocks m
  (blocks.zip scores).map
    (highDecision p.config (sinkIds p.config blocks) (hhIds p.config blocks scores))

/-- The verdicts by regime. -/
def decisions [Numerics] (p : HybridAdaptivePolicy) (blocks : List BlockState)
    (m : SystemMetrics) : List PolicyDecision :=
  if m.pressure < p.config.memoryPressureLow then keepAll blocks
  else if m.pressure < p.config.memoryPressureHigh then p.mediumPressure blocks m
  else p.highPressure blocks m

/-- Append to the pressure history, of which the last 1000 entries are kept. -/
def pushPressure (history : List ℚ) (pressure : ℚ) : List ℚ :=
  let history := history ++ [pressure]
  if history.length > 1000 then sliceFrom history (-1000) else history

instance [Numerics] : PolicyInterface HybridAdaptivePolicy where
  decide p blocks m :=
    let ds := p.decisions blocks m
    (ds, { p with
      toBasePolicy := p.toBasePolicy.makeStats "hybrid" ds m.pressure
      pressureHistory := pushPressure p.pressureHistory m.pressure })
  getName _ := "hybrid"
  getLastStats p := p.lastStats

/-! ## The regimes as ladders -/

/-- The rungs of `_high_pressure` below the heavy hitters. -/
def aggressiveRungs (cfg : PolicyConfig) : List (Rung ℚ BlockDecision) :=
  [ { cut := cfg.quantizationMinImportance
      enabled := cfg.quantizationEnabled
      label := .quantize },
    { cut := cfg.offloadThresholdScore
      enabled := cfg.offloadEnabled
      label := .offloadCpu } ]

theorem descending_aggressiveRungs (cfg : PolicyConfig) :
    Descending BlockDecision.evict (aggressiveRungs cfg) := by
  constructor
  · simp [aggressiveRungs, BlockDecision.lt_iff_rank, BlockDecision.rank]
  · simp [aggressiveRungs, BlockDecision.lt_iff_rank, BlockDecision.rank]

@[simp] theorem blockId_mediumDecision (cfg : PolicyConfig) (sinkIds : List Int)
    (x : BlockState × ℚ) : (mediumDecision cfg sinkIds x).blockId = x.1.blockId := by
  unfold mediumDecision
  grind

@[simp] theorem blockId_highDecision (cfg : PolicyConfig) (sinkIds hhIds : List Int)
    (x : BlockState × ℚ) : (highDecision cfg sinkIds hhIds x).blockId = x.1.blockId := by
  unfold highDecision
  grind

theorem decision_mediumDecision (cfg : PolicyConfig) (sinkIds : List Int)
    (x : BlockState × ℚ) :
    (mediumDecision cfg sinkIds x).decision =
      if x.1.blockId ∈ sinkIds then .keepGpu else ladder .evict x.2 (selectiveRungs cfg) := by
  simp only [mediumDecision, ladder, selectiveRungs, Rung.reached]
  grind

theorem decision_highDecision (cfg : PolicyConfig) (sinkIds hhIds : List Int)
    (x : BlockState × ℚ) :
    (highDecision cfg sinkIds hhIds x).decision =
      if x.1.blockId ∈ sinkIds ∨ x.1.blockId ∈ hhIds then .keepGpu
      else ladder .evict x.2 (aggressiveRungs cfg) := by
  simp only [highDecision, ladder, aggressiveRungs, Rung.reached]
  grind

/-- The selective verdicts differ from those of `LearnedPolicy` in the reasons
they give only. -/
theorem decision_mediumDecision_eq_blockDecision (cfg : PolicyConfig) (sinkIds : List Int)
    (x : BlockState × ℚ) :
    (mediumDecision cfg sinkIds x).decision =
      (LearnedPolicy.blockDecision cfg sinkIds x).decision := by
  rw [decision_mediumDecision, LearnedPolicy.blockDecision]
  split
  · rfl
  · rw [LearnedPolicy.decision_scoreToDecision]

/-- Without a ready learned policy every block has its composite score. -/
theorem scoreAll_of_not_learned [Numerics] {p : HybridAdaptivePolicy}
    (hp : p.learnedPolicy = none) (blocks : List BlockState) (m : SystemMetrics) :
    p.scoreAll blocks m = blocks.map (fun b => scoreBlock p.config b m) := by
  rw [scoreAll, hp]

end HybridAdaptivePolicy

end KVOrchestrator.Ports
