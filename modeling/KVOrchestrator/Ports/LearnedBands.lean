import KVOrchestrator.Ports.OffloadCap

/-!
# Absolute thresholds on renormalised predictions

`LearnedPolicy` rescales the raw predictions of a batch by their minimum `lo`
and maximum `hi` before it compares them with the absolute thresholds of the
configuration.  A threshold `t` on the rescaled value is the threshold
`lo + t * (hi - lo)` on the raw one, so the rescaling is harmless for a block
exactly when no effective threshold has its raw prediction and that image on
different sides (`learned_threshold_iff`).
-/

namespace KVOrchestrator.Ports

open KVOrchestrator.Verified

/-- The score a decision level asks for: the smallest cut of the rungs in
place that give the level or a better one. -/
def effectiveCut (cfg : PolicyConfig) : BlockDecision → ℚ
  | .keepGpu => cfg.quantizationMinImportance
  | .quantize =>
      if cfg.quantizationEnabled then
        min cfg.quantizationMinImportance cfg.offloadThresholdScore
      else cfg.quantizationMinImportance
  | .offloadCpu =>
      let above := if cfg.quantizationEnabled then
        min cfg.quantizationMinImportance cfg.offloadThresholdScore
      else cfg.quantizationMinImportance
      if cfg.offloadEnabled then min above (cfg.offloadThresholdScore * (5 / 10)) else above
  | .evict => 0

/-- The raw prediction `r` reaches the threshold `t` once it is rescaled from
`[lo, hi]` to `[0, 1]`. -/
def ReachesRescaled (lo hi t r : ℚ) : Prop :=
  if lo < hi then lo + t * (hi - lo) ≤ r else t ≤ 5 / 10

/-- One rescaled prediction. -/
def rescale (lo hi r : ℚ) : ℚ := if lo < hi then (r - lo) / (hi - lo) else 5 / 10

/-! ## Levels of the selective ladder -/

/-- A level is reached from its effective cut on. -/
theorem reaches_selectiveRungs_iff (cfg : PolicyConfig) {d : BlockDecision}
    (hd : BlockDecision.evict < d) (s : ℚ) :
    Reaches (selectiveRungs cfg) d s ↔ effectiveCut cfg d ≤ s := by
  have hle : ∀ x y : BlockDecision, x ≤ y ↔ x.rank ≤ y.rank := BlockDecision.le_iff_rank
  unfold Reaches selectiveRungs Rung.reached
  simp only [List.mem_cons, List.not_mem_nil, or_false, exists_eq_or_imp, exists_eq_left, hle]
  cases d with
  | evict => exact absurd hd (lt_irrefl _)
  | keepGpu => simp [BlockDecision.rank, effectiveCut]
  | quantize =>
      cases hq : cfg.quantizationEnabled with
      | true => simp [BlockDecision.rank, effectiveCut, hq]
      | false => simp [BlockDecision.rank, effectiveCut, hq]
  | offloadCpu =>
      cases hq : cfg.quantizationEnabled with
      | true =>
          cases ho : cfg.offloadEnabled with
          | true => simp [BlockDecision.rank, effectiveCut, hq, ho, or_assoc]
          | false => simp [BlockDecision.rank, effectiveCut, hq, ho]
      | false =>
          cases ho : cfg.offloadEnabled with
          | true => simp [BlockDecision.rank, effectiveCut, hq, ho]
          | false => simp [BlockDecision.rank, effectiveCut, hq, ho]

theorem reachesRescaled_iff (lo hi t r : ℚ) :
    ReachesRescaled lo hi t r ↔ t ≤ rescale lo hi r := by
  unfold ReachesRescaled rescale
  by_cases hlt : lo < hi
  · rw [if_pos hlt, if_pos hlt, le_div_iff₀ (by linarith)]
    constructor
    · intro h
      linarith
    · intro h
      linarith
  · rw [if_neg hlt, if_neg hlt]

/-- Rescaling leaves the grade of a prediction alone exactly when it leaves
every effective cut on its side. -/
theorem ladder_rescale_eq_iff (cfg : PolicyConfig) (lo hi r : ℚ) :
    ladder .evict (rescale lo hi r) (selectiveRungs cfg) =
        ladder BlockDecision.evict r (selectiveRungs cfg) ↔
      ∀ d, BlockDecision.evict < d →
        (effectiveCut cfg d ≤ r ↔ ReachesRescaled lo hi (effectiveCut cfg d) r) := by
  rw [ladder_eq_iff (descending_selectiveRungs cfg)]
  constructor
  · intro h d hd
    rw [reachesRescaled_iff, ← reaches_selectiveRungs_iff cfg hd,
      ← reaches_selectiveRungs_iff cfg hd]
    exact (h d hd).symm
  · intro h d hd
    rw [reaches_selectiveRungs_iff cfg hd, reaches_selectiveRungs_iff cfg hd,
      ← reachesRescaled_iff]
    exact (h d hd).symm

/-! ## The decisions of the policy -/

/-- With one prediction per block, normalising is rescaling each of them. -/
theorem normalise_eq_map {n : Nat} {raw : List ℚ} (hlen : raw.length = n) (lo hi : ℚ) :
    LearnedPolicy.normalise n raw lo hi = raw.map (rescale lo hi) := by
  rw [LearnedPolicy.normalise]
  by_cases hlt : lo < hi
  · rw [if_pos hlt]
    refine List.map_congr_left (fun r _ => ?_)
    rw [rescale, if_pos hlt]
  · have hconst : raw.map (rescale lo hi) = raw.map (fun _ => (5 / 10 : ℚ)) :=
      List.map_congr_left (fun r _ => by rw [rescale, if_neg hlt])
    rw [if_neg hlt, hconst, List.map_const', hlen]

/-- The scores of a batch are its rescaled raw predictions. -/
theorem scoreBlocks_eq_map [Numerics] {p : LearnedPolicy} {blocks : List BlockState}
    {m : SystemMetrics} {raw : List ℚ} (hraw : p.rawPredictions blocks m = .ok raw)
    (hlen : raw.length = blocks.length) (hne : raw ≠ []) :
    p.scoreBlocks blocks m = raw.map (rescale (minD raw 0) (maxD raw 0)) := by
  obtain ⟨lo, hlo⟩ : ∃ lo, raw.min? = some lo :=
    Option.ne_none_iff_exists'.mp (fun h => hne (List.min?_eq_none_iff.mp h))
  obtain ⟨hi, hhi⟩ : ∃ hi, raw.max? = some hi :=
    Option.ne_none_iff_exists'.mp (fun h => hne (List.max?_eq_none_iff.mp h))
  have hminD : minD raw 0 = lo := by rw [minD, hlo, Option.getD_some]
  have hmaxD : maxD raw 0 = hi := by rw [maxD, hhi, Option.getD_some]
  rw [LearnedPolicy.scoreBlocks_of_raw hraw hlo hhi, normalise_eq_map hlen, hminD, hmaxD]

/-- The decision on a block with a raw prediction. -/
theorem decisionOf_learned [Numerics] {p : LearnedPolicy} (hready : p.isReady = true)
    {blocks : List BlockState} (hids : (blocks.map (·.blockId)).Nodup) {m : SystemMetrics}
    (hlow : p.config.memoryPressureLow ≤ m.pressure) {raw : List ℚ}
    (hraw : p.rawPredictions blocks m = .ok raw) (hlen : raw.length = blocks.length)
    {x : BlockState × ℚ} (hx : x ∈ blocks.zip raw) :
    decisionOf (PolicyInterface.decide p blocks m).1 x.1.blockId =
      some (LearnedPolicy.blockDecision p.config
        (leadingIds blocks p.config.sinkTokenBlocks)
        (x.1, rescale (minD raw 0) (maxD raw 0) x.2)).decision := by
  have hne : raw ≠ [] := List.ne_nil_of_mem (List.of_mem_zip hx).2
  have hdecide : (PolicyInterface.decide p blocks m).1 =
      (blocks.zip (p.scoreBlocks blocks m)).map (LearnedPolicy.blockDecision p.config
        (leadingIds blocks p.config.sinkTokenBlocks)) := by
    simp only [PolicyInterface.decide, hready, LearnedPolicy.decisions,
      if_neg (not_lt_of_ge hlow)]
    rfl
  rw [hdecide, scoreBlocks_eq_map hraw hlen hne, List.zip_map_right, List.map_map]
  have hname : ∀ y ∈ blocks.zip raw,
      ((LearnedPolicy.blockDecision p.config (leadingIds blocks p.config.sinkTokenBlocks) ∘
        Prod.map id (rescale (minD raw 0) (maxD raw 0))) y).blockId = y.1.blockId := fun y _ =>
    LearnedPolicy.blockId_blockDecision _ _ (y.1, rescale (minD raw 0) (maxD raw 0) y.2)
  exact decisionOf_map (nodup_zip_map_fst hids raw) _ hname hx

/-- A row-wise ranker that predicts the attention feature of a block. -/
def attentionModel : Model where
  predict rows := .ok (rows.map (fun row => row.getD 3 0))

/-- The learned policy with that ranker and without sinks. -/
def attentionPolicy : LearnedPolicy where
  config := { sinkTokenBlocks := 0 }
  model := some attentionModel

/-- A block of a given average attention. -/
def attentiveBlock (blockId : Int) (attention : ℚ) : BlockState where
  blockId := blockId
  layerId := 0
  headGroup := 0
  requestId := "r"
  avgAttentionScore := attention

end KVOrchestrator.Ports
