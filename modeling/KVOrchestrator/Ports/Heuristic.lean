import KVOrchestrator.Ports.PolicyBase
import Mathlib.Tactic.Linarith

/-!
# Rule-based policies (`src/cache_policies/heuristic.py`)

Each policy's verdicts are a function of its configuration, the block list and
the metrics (`decisions`); `decide` adds the bookkeeping of `_make_stats`.
The policies differ in what they rank by: `FullCache` by last access,
`SlidingWindow` by position, `H2O` by average attention.  `OffloadOnly` walks
its ranking with a counter; `offloadScan_fst` gives the set it ends with in
closed form.
-/

namespace KVOrchestrator.Ports

open KVOrchestrator.Verified

/-- Average attention relative to the batch maximum, zero if that is not
positive. -/
def normAttention (maxAttn : ℚ) (b : BlockState) : ℚ :=
  if maxAttn > 0 then b.avgAttentionScore / maxAttn else 0

/-- `max((b.avg_attention_score for b in blocks), default=1.0)`. -/
def maxAvgAttention (blocks : List BlockState) : ℚ :=
  maxD (blocks.map (·.avgAttentionScore)) 1

theorem le_maxAvgAttention {blocks : List BlockState} {b : BlockState} (hb : b ∈ blocks) :
    b.avgAttentionScore ≤ maxAvgAttention blocks :=
  le_maxD (List.mem_map_of_mem (f := (·.avgAttentionScore)) hb) 1

/-- Rewriting blocks under their averages keeps the greatest average. -/
theorem maxAvgAttention_map {ρ : BlockState → BlockState}
    (hattn : ∀ b, (ρ b).avgAttentionScore = b.avgAttentionScore) (blocks : List BlockState) :
    maxAvgAttention (blocks.map ρ) = maxAvgAttention blocks := by
  rw [maxAvgAttention, List.map_map]
  exact congrArg (maxD · 1) (List.map_congr_left (fun b _ => hattn b))

/-! ## Full-cache baseline -/

structure FullCachePolicy extends BasePolicy
  deriving DecidableEq

/-- Keep everything below the high threshold; from there on evict the least
recently accessed tenth. -/
def FullCachePolicy.decisions (cfg : PolicyConfig) (blocks : List BlockState)
    (m : SystemMetrics) : List PolicyDecision :=
  if m.pressure < cfg.memoryPressureHigh then keepAll blocks
  else
    let sortedBlocks := sortBy (·.lastAccessStep) blocks
    let nEvict := max 1 (pyInt ((sortedBlocks.length : ℚ) * (10 / 100)))
    let evictSet : List Int := (sliceTo sortedBlocks nEvict).map (·.blockId)
    blocks.map (fun b =>
      { blockId := b.blockId
        decision := if b.blockId ∈ evictSet then .evict else .keepGpu
        score := if b.blockId ∈ evictSet then 0 else 1
        reason := if b.blockId ∈ evictSet then "lru_evict" else "keep" })

/-! ## Sliding window -/

structure SlidingWindowPolicy extends BasePolicy
  deriving DecidableEq

/-- Keep the last `sliding_window_blocks` blocks and the first
`sink_token_blocks`. -/
def SlidingWindowPolicy.decisions (cfg : PolicyConfig) (blocks : List BlockState)
    (m : SystemMetrics) : List PolicyDecision :=
  if m.pressure < cfg.memoryPressureLow then keepAll blocks
  else
    let window := cfg.slidingWindowBlocks
    let sink := cfg.sinkTokenBlocks
    let sortedById := sortBy (·.blockId) blocks
    let total : Int := sortedById.length
    let keepIds := (sliceTo sortedById sink).map (·.blockId) ++
      (sliceFrom sortedById (max 0 (total - window))).map (·.blockId)
    blocks.map (fun b =>
      if b.blockId ∈ keepIds then
        { blockId := b.blockId
          decision := .keepGpu
          score := 1
          reason := "sink_or_window" }
      else
        { blockId := b.blockId
          decision := .evict
          score := 0
          reason := "outside_window" })

/-! ## Heavy-hitter oracle -/

structure H2OPolicy extends BasePolicy
  deriving DecidableEq

/-- How many heavy hitters a batch has: at least one. -/
def heavyHitterCount (cfg : PolicyConfig) (blocks : List BlockState) : Int :=
  max 1 (pyInt ((blocks.length : ℚ) * cfg.heavyHitterFraction))

theorem one_le_heavyHitterCount (cfg : PolicyConfig) (blocks : List BlockState) :
    1 ≤ heavyHitterCount cfg blocks :=
  le_max_left 1 _

/-- Heavy-hitter ids: the top fraction by average attention. -/
def H2OPolicy.hhIds (cfg : PolicyConfig) (blocks : List BlockState) : List Int :=
  (sliceTo (sortByDesc (·.avgAttentionScore) blocks) (heavyHitterCount cfg blocks)).map
    (·.blockId)

/-- Retain the heavy hitters and the sinks, evict the rest. -/
def H2OPolicy.decisions (cfg : PolicyConfig) (blocks : List BlockState)
    (m : SystemMetrics) : List PolicyDecision :=
  if m.pressure < cfg.memoryPressureLow then keepAll blocks
  else
    let sinkIds := leadingIds blocks cfg.sinkTokenBlocks
    let hhIds := H2OPolicy.hhIds cfg blocks
    blocks.map (fun b =>
      if b.blockId ∈ sinkIds ∨ b.blockId ∈ hhIds then
        { blockId := b.blockId
          decision := .keepGpu
          score := b.avgAttentionScore
          reason := if b.blockId ∈ hhIds then "heavy_hitter" else "sink" }
      else
        { blockId := b.blockId
          decision := .evict
          score := b.avgAttentionScore
          reason := "low_attention" })

/-! ## Prefix caching -/

structure PrefixCachingPolicy extends BasePolicy
  deriving DecidableEq

/-- Below which relative attention a block without reuse is evicted. -/
def PrefixCachingPolicy.evictBelow (cfg : PolicyConfig) (m : SystemMetrics) : ℚ :=
  if m.pressure ≥ cfg.memoryPressureHigh then 20 / 100 else 10 / 100

/-- Keep reused prefixes; evict the other blocks of low relative attention. -/
def PrefixCachingPolicy.decisions (cfg : PolicyConfig) (blocks : List BlockState)
    (m : SystemMetrics) : List PolicyDecision :=
  if m.pressure < cfg.memoryPressureLow then keepAll blocks
  else
    let maxAttn := maxAvgAttention blocks
    blocks.map (fun b =>
      if b.prefixReuseFlag then
        { blockId := b.blockId
          decision := .keepGpu
          score := 1
          reason := "prefix_reuse" }
      else
        let score := normAttention maxAttn b
        if score < PrefixCachingPolicy.evictBelow cfg m then
          { blockId := b.blockId
            decision := .evict
            score := score
            reason := "low_score" }
        else
          { blockId := b.blockId
            decision := .keepGpu
            score := score
            reason := "keep" })

/-! ## Quantise only -/

structure QuantizeOnlyPolicy extends BasePolicy
  deriving DecidableEq

/-- Quantise blocks of low relative attention; never evict or offload. -/
def QuantizeOnlyPolicy.decisions (cfg : PolicyConfig) (blocks : List BlockState)
    (m : SystemMetrics) : List PolicyDecision :=
  if cfg.quantizationEnabled = false ∨ m.pressure < cfg.memoryPressureLow then keepAll blocks
  else
    let sinkIds := leadingIds blocks cfg.sinkTokenBlocks
    let maxAttn := maxAvgAttention blocks
    blocks.map (fun b =>
      if b.blockId ∈ sinkIds ∨ b.currentTier = .gpuQuantized then
        { blockId := b.blockId
          decision := .keepGpu
          score := 1
          reason := "sink_or_already_quantized" }
      else
        let normAttn := normAttention maxAttn b
        if normAttn < cfg.quantizationMinImportance then
          { blockId := b.blockId
            decision := .quantize
            score := normAttn
            reason := "low_attention_quantize" }
        else
          { blockId := b.blockId
            decision := .keepGpu
            score := normAttn
            reason := "high_attention_keep" })

/-! ## Offload only -/

structure OffloadOnlyPolicy extends BasePolicy
  deriving DecidableEq

/-- `int(len(blocks) * offload_max_fraction)`. -/
def maxOffload (cfg : PolicyConfig) (blocks : List BlockState) : Int :=
  pyInt ((blocks.length : ℚ) * cfg.offloadMaxFraction)

/-- Blocks with their relative attention, lowest first. -/
def OffloadOnlyPolicy.scored (blocks : List BlockState) : List (BlockState × ℚ) :=
  let maxAttn := maxAvgAttention blocks
  sortBy Prod.snd (blocks.map (fun b => (b, normAttention maxAttn b)))

/-- A block the scan may offload: no sink, and of low relative attention. -/
def OffloadOnlyPolicy.eligible (cfg : PolicyConfig) (sinkIds : List Int)
    (x : BlockState × ℚ) : Bool :=
  decide (x.1.blockId ∉ sinkIds ∧ x.2 ≤ cfg.offloadThresholdScore)

/-- One turn of the scan: the offload set and its counter. -/
def OffloadOnlyPolicy.offloadStep (cfg : PolicyConfig) (sinkIds : List Int)
    (maxOffload : Int) (acc : List Int × Int) (x : BlockState × ℚ) : List Int × Int :=
  if x.1.blockId ∈ sinkIds then acc
  else if x.2 ≤ cfg.offloadThresholdScore ∧ acc.2 < maxOffload then
    (acc.1 ++ [x.1.blockId], acc.2 + 1)
  else acc

/-- The offload set after the whole ranking. -/
def OffloadOnlyPolicy.offloadSet (cfg : PolicyConfig) (blocks : List BlockState) : List Int :=
  ((OffloadOnlyPolicy.scored blocks).foldl
    (OffloadOnlyPolicy.offloadStep cfg (leadingIds blocks cfg.sinkTokenBlocks)
      (maxOffload cfg blocks)) ([], 0)).1

/-- The verdict on a scored block, given the offload set. -/
def OffloadOnlyPolicy.verdict (offloadSet : List Int) (x : BlockState × ℚ) : PolicyDecision :=
  if x.1.blockId ∈ offloadSet then
    { blockId := x.1.blockId
      decision := .offloadCpu
      score := x.2
      reason := "low_score_offload" }
  else
    { blockId := x.1.blockId
      decision := .keepGpu
      score := x.2
      reason := "keep" }

/-- Offload blocks of low relative attention up to the cap; never evict.  The
decisions come in ranking order. -/
def OffloadOnlyPolicy.decisions (cfg : PolicyConfig) (blocks : List BlockState)
    (m : SystemMetrics) : List PolicyDecision :=
  if cfg.offloadEnabled = false ∨ m.pressure < cfg.memoryPressureLow then keepAll blocks
  else
    (OffloadOnlyPolicy.scored blocks).map
      (OffloadOnlyPolicy.verdict (OffloadOnlyPolicy.offloadSet cfg blocks))

/-! ## The policies as policies -/

/-- `decide` of a policy whose verdicts read its configuration only. -/
def BasePolicy.decideWith (p : BasePolicy) (name : String)
    (decisions : PolicyConfig → List BlockState → SystemMetrics → List PolicyDecision)
    (blocks : List BlockState) (m : SystemMetrics) : List PolicyDecision × BasePolicy :=
  let ds := decisions p.config blocks m
  (ds, p.makeStats name ds m.pressure)

instance : PolicyInterface FullCachePolicy where
  decide p blocks m :=
    let r := p.toBasePolicy.decideWith "full_cache" FullCachePolicy.decisions blocks m
    (r.1, ⟨r.2⟩)
  getName _ := "full_cache"
  getLastStats p := p.lastStats

instance : PolicyInterface SlidingWindowPolicy where
  decide p blocks m :=
    let r := p.toBasePolicy.decideWith "sliding_window" SlidingWindowPolicy.decisions blocks m
    (r.1, ⟨r.2⟩)
  getName _ := "sliding_window"
  getLastStats p := p.lastStats

instance : PolicyInterface H2OPolicy where
  decide p blocks m :=
    let r := p.toBasePolicy.decideWith "h2o" H2OPolicy.decisions blocks m
    (r.1, ⟨r.2⟩)
  getName _ := "h2o"
  getLastStats p := p.lastStats

instance : PolicyInterface PrefixCachingPolicy where
  decide p blocks m :=
    let r := p.toBasePolicy.decideWith "prefix_caching" PrefixCachingPolicy.decisions blocks m
    (r.1, ⟨r.2⟩)
  getName _ := "prefix_caching"
  getLastStats p := p.lastStats

instance : PolicyInterface QuantizeOnlyPolicy where
  decide p blocks m :=
    let r := p.toBasePolicy.decideWith "quantize_only" QuantizeOnlyPolicy.decisions blocks m
    (r.1, ⟨r.2⟩)
  getName _ := "quantize_only"
  getLastStats p := p.lastStats

instance : PolicyInterface OffloadOnlyPolicy where
  decide p blocks m :=
    let r := p.toBasePolicy.decideWith "offload_only" OffloadOnlyPolicy.decisions blocks m
    (r.1, ⟨r.2⟩)
  getName _ := "offload_only"
  getLastStats p := p.lastStats

/-! ## The offload scan in closed form -/

namespace OffloadOnlyPolicy

@[simp] theorem blockId_verdict (offloadSet : List Int) (x : BlockState × ℚ) :
    (verdict offloadSet x).blockId = x.1.blockId := by
  unfold verdict
  split <;> rfl

theorem decision_verdict (offloadSet : List Int) (x : BlockState × ℚ) :
    (verdict offloadSet x).decision =
      if x.1.blockId ∈ offloadSet then .offloadCpu else .keepGpu := by
  unfold verdict
  split <;> rfl

/-- The scan takes the first eligible blocks of the ranking, as many as the
counter still allows. -/
theorem offloadScan_fst (cfg : PolicyConfig) (sinkIds : List Int) (cap : Int) :
    ∀ (l : List (BlockState × ℚ)) (taken : List Int) (count : Int),
      (l.foldl (offloadStep cfg sinkIds cap) (taken, count)).1 =
        taken ++ ((l.filter (eligible cfg sinkIds)).take (cap - count).toNat).map
          (fun x => x.1.blockId) := by
  intro l
  induction l with
  | nil => intro taken count; simp
  | cons x rest ih =>
      intro taken count
      by_cases hsink : x.1.blockId ∈ sinkIds
      · have hel : eligible cfg sinkIds x = false := by simp [eligible, hsink]
        rw [List.foldl_cons, List.filter_cons_of_neg (by simp [hel])]
        have hstep : offloadStep cfg sinkIds cap (taken, count) x = (taken, count) := by
          simp [offloadStep, hsink]
        rw [hstep, ih]
      · by_cases hscore : x.2 ≤ cfg.offloadThresholdScore
        · have hel : eligible cfg sinkIds x = true := by simp [eligible, hsink, hscore]
          rw [List.foldl_cons, List.filter_cons_of_pos hel]
          by_cases hcap : count < cap
          · have hstep : offloadStep cfg sinkIds cap (taken, count) x =
                (taken ++ [x.1.blockId], count + 1) := by
              simp [offloadStep, hsink, hscore, hcap]
            have hnat : (cap - count).toNat = (cap - (count + 1)).toNat + 1 := by omega
            rw [hstep, ih, hnat, List.take_succ_cons]
            simp
          · have hstep : offloadStep cfg sinkIds cap (taken, count) x = (taken, count) := by
              simp [offloadStep, hsink, hcap]
            have hnat : (cap - count).toNat = 0 := by omega
            rw [hstep, ih, hnat]
            simp
        · have hel : eligible cfg sinkIds x = false := by simp [eligible, hscore]
          have hstep : offloadStep cfg sinkIds cap (taken, count) x = (taken, count) := by
            simp [offloadStep, hsink, hscore]
          rw [List.foldl_cons, List.filter_cons_of_neg (by simp [hel]), hstep, ih]

theorem offloadSet_eq (cfg : PolicyConfig) (blocks : List BlockState) :
    offloadSet cfg blocks =
      (((scored blocks).filter
          (eligible cfg (leadingIds blocks cfg.sinkTokenBlocks))).take
        (maxOffload cfg blocks).toNat).map (fun x => x.1.blockId) := by
  rw [offloadSet, offloadScan_fst]
  simp

/-- The ranking is a rearrangement of the scored blocks. -/
theorem scored_perm (blocks : List BlockState) :
    (scored blocks).Perm
      (blocks.map (fun b => (b, normAttention (maxAvgAttention blocks) b))) :=
  sortBy_perm _ _

theorem nodup_scored_ids {blocks : List BlockState} (h : (blocks.map (·.blockId)).Nodup) :
    ((scored blocks).map (fun x => x.1.blockId)).Nodup := by
  have hperm := (scored_perm blocks).map (fun x => x.1.blockId)
  rw [hperm.nodup_iff, List.map_map]
  exact h

end OffloadOnlyPolicy

end KVOrchestrator.Ports
