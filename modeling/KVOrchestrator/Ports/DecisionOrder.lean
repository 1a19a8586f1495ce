import KVOrchestrator.Ports.Hybrid

/-!
# Decisions respect importance

Every policy that thresholds or ranks blocks by a score gives the block of
larger score a decision at least as high.  There are three mechanisms, and a
lemma for each: a threshold ladder is monotone, a top-`k` selection is closed
upwards, and a capped greedy scan from below is closed downwards.  Sinks are
kept whatever their score and are set aside.

Nothing is assumed of the thresholds, so the results hold for ill-ordered
ladders and for ladders with rungs switched off.
-/

namespace KVOrchestrator.Ports

open KVOrchestrator.Verified

/-- No inversion: of two scored blocks outside `sinks`, the one of strictly
larger score gets a decision at least as high. -/
def ImportanceMonotone (decisions : List PolicyDecision) (scored : List (BlockState × ℚ))
    (sinks : List Int) : Prop :=
  ∀ x ∈ scored, ∀ y ∈ scored, x.1.blockId ∉ sinks → y.1.blockId ∉ sinks → y.2 < x.2 →
    ∃ dx dy, decisionOf decisions x.1.blockId = some dx ∧
      decisionOf decisions y.1.blockId = some dy ∧ dy ≤ dx

/-- A list with one decision per scored block inherits monotonicity from its
verdict function. -/
theorem importanceMonotone_map {l scored : List (BlockState × ℚ)}
    {g : BlockState × ℚ → PolicyDecision} {sinks : List Int}
    (hl : (l.map (fun x => x.1.blockId)).Nodup) (hsub : ∀ x ∈ scored, x ∈ l)
    (hg : ∀ x ∈ l, (g x).blockId = x.1.blockId)
    (hmono : ∀ x ∈ scored, ∀ y ∈ scored, x.1.blockId ∉ sinks → y.1.blockId ∉ sinks →
      y.2 < x.2 → (g y).decision ≤ (g x).decision) :
    ImportanceMonotone (l.map g) scored sinks := by
  intro x hx y hy hxs hys hlt
  exact ⟨(g x).decision, (g y).decision, decisionOf_map hl g hg (hsub x hx),
    decisionOf_map hl g hg (hsub y hy), hmono x hx y hy hxs hys hlt⟩

/-- Pairing blocks with a function of them keeps ids unique. -/
theorem nodup_map_pair {blocks : List BlockState} (hids : (blocks.map (·.blockId)).Nodup)
    (score : BlockState → ℚ) :
    ((blocks.map (fun b => (b, score b))).map (fun x => x.1.blockId)).Nodup := by
  rw [List.map_map]
  exact hids

/-- A verdict per block is a verdict per scored block. -/
theorem map_eq_map_pair {δ : Type} (blocks : List BlockState) (score : BlockState → ℚ)
    (g : BlockState → δ) :
    blocks.map g = (blocks.map (fun b => (b, score b))).map (fun x => g x.1) := by
  rw [List.map_map]
  rfl

/-! ## The learned policy -/

theorem decision_blockDecision (cfg : PolicyConfig) (sinkIds : List Int)
    (x : BlockState × ℚ) :
    (LearnedPolicy.blockDecision cfg sinkIds x).decision =
      if x.1.blockId ∈ sinkIds then .keepGpu else ladder .evict x.2 (selectiveRungs cfg) := by
  rw [← HybridAdaptivePolicy.decision_mediumDecision_eq_blockDecision,
    HybridAdaptivePolicy.decision_mediumDecision]

theorem importanceMonotone_learned [Numerics] {p : LearnedPolicy} (hready : p.isReady = true)
    {blocks : List BlockState} (hids : (blocks.map (·.blockId)).Nodup) (m : SystemMetrics)
    (hlow : p.config.memoryPressureLow ≤ m.pressure) :
    ImportanceMonotone (PolicyInterface.decide p blocks m).1
      (blocks.zip (p.scoreBlocks blocks m)) (leadingIds blocks p.config.sinkTokenBlocks) := by
  have hdecide : (PolicyInterface.decide p blocks m).1 =
      (blocks.zip (p.scoreBlocks blocks m)).map
        (LearnedPolicy.blockDecision p.config
          (leadingIds blocks p.config.sinkTokenBlocks)) := by
    simp only [PolicyInterface.decide, hready, LearnedPolicy.decisions,
      if_neg (not_lt_of_ge hlow)]
    rfl
  rw [hdecide]
  refine importanceMonotone_map (nodup_zip_map_fst hids _) (fun x hx => hx)
    (fun x _ => LearnedPolicy.blockId_blockDecision _ _ x) ?_
  intro x _ y _ hxs hys hlt
  rw [decision_blockDecision, decision_blockDecision, if_neg hxs, if_neg hys]
  exact monotone_ladder (descending_selectiveRungs p.config) (le_of_lt hlt)

/-! ## The hybrid controller -/

/-- A block scored above a heavy hitter is a heavy hitter. -/
theorem mem_hhIds_of_lt (cfg : PolicyConfig) {blocks : List BlockState} {scores : List ℚ}
    (hids : (blocks.map (·.blockId)).Nodup) {x y : BlockState × ℚ}
    (hx : x ∈ blocks.zip scores) (hy : y ∈ blocks.zip scores) (hlt : y.2 < x.2)
    (hhh : y.1.blockId ∈ HybridAdaptivePolicy.hhIds cfg blocks scores) :
    x.1.blockId ∈ HybridAdaptivePolicy.hhIds cfg blocks scores := by
  have hcount := one_le_heavyHitterCount cfg blocks
  unfold HybridAdaptivePolicy.hhIds at hhh ⊢
  rw [sliceTo_of_nonneg _ (by omega)] at hhh ⊢
  exact name_mem_top_of_lt (nodup_zip_map_fst hids scores) hx hy hlt hhh

/-- The aggressive verdict is monotone although only part of it is a ladder. -/
theorem highDecision_mono (cfg : PolicyConfig) {blocks : List BlockState} {scores : List ℚ}
    (hids : (blocks.map (·.blockId)).Nodup) {sinkIds : List Int} {x y : BlockState × ℚ}
    (hx : x ∈ blocks.zip scores) (hy : y ∈ blocks.zip scores) (hlt : y.2 < x.2)
    (hys : y.1.blockId ∉ sinkIds) :
    (HybridAdaptivePolicy.highDecision cfg sinkIds
        (HybridAdaptivePolicy.hhIds cfg blocks scores) y).decision ≤
      (HybridAdaptivePolicy.highDecision cfg sinkIds
        (HybridAdaptivePolicy.hhIds cfg blocks scores) x).decision := by
  rw [HybridAdaptivePolicy.decision_highDecision, HybridAdaptivePolicy.decision_highDecision]
  by_cases hxkeep : x.1.blockId ∈ sinkIds ∨
      x.1.blockId ∈ HybridAdaptivePolicy.hhIds cfg blocks scores
  · rw [if_pos hxkeep]
    exact BlockDecision.le_keepGpu _
  · have hykeep : ¬(y.1.blockId ∈ sinkIds ∨
        y.1.blockId ∈ HybridAdaptivePolicy.hhIds cfg blocks scores) := by
      rintro (hsink | hhh)
      · exact hys hsink
      · exact hxkeep (.inr (mem_hhIds_of_lt cfg hids hx hy hlt hhh))
    rw [if_neg hxkeep, if_neg hykeep]
    exact monotone_ladder (HybridAdaptivePolicy.descending_aggressiveRungs cfg) (le_of_lt hlt)

theorem importanceMonotone_hybrid [Numerics] (p : HybridAdaptivePolicy)
    {blocks : List BlockState} (hids : (blocks.map (·.blockId)).Nodup) (m : SystemMetrics)
    (hlow : p.config.memoryPressureLow ≤ m.pressure) :
    ImportanceMonotone (PolicyInterface.decide p blocks m).1
      (blocks.zip (p.scoreAll blocks m))
      (HybridAdaptivePolicy.sinkIds p.config blocks) := by
  change ImportanceMonotone (p.decisions blocks m) _ _
  rw [HybridAdaptivePolicy.decisions, if_neg (not_lt_of_ge hlow)]
  split
  · refine importanceMonotone_map (nodup_zip_map_fst hids _) (fun x hx => hx)
      (fun x _ => HybridAdaptivePolicy.blockId_mediumDecision _ _ x) ?_
    intro x _ y _ hxs hys hlt
    rw [HybridAdaptivePolicy.decision_mediumDecision,
      HybridAdaptivePolicy.decision_mediumDecision, if_neg hxs, if_neg hys]
    exact monotone_ladder (descending_selectiveRungs p.config) (le_of_lt hlt)
  · refine importanceMonotone_map (nodup_zip_map_fst hids _) (fun x hx => hx)
      (fun x _ => HybridAdaptivePolicy.blockId_highDecision _ _ _ x) ?_
    intro x hx y hy _ hys hlt
    exact highDecision_mono p.config hids hx hy hlt hys

/-! ## The rule-based policies -/

/-- A block of more attention than a heavy hitter is a heavy hitter. -/
theorem mem_h2o_hhIds_of_lt (cfg : PolicyConfig) {blocks : List BlockState}
    (hids : (blocks.map (·.blockId)).Nodup) {a b : BlockState}
    (ha : a ∈ blocks) (hb : b ∈ blocks) (hlt : b.avgAttentionScore < a.avgAttentionScore)
    (hhh : b.blockId ∈ H2OPolicy.hhIds cfg blocks) :
    a.blockId ∈ H2OPolicy.hhIds cfg blocks := by
  have hcount := one_le_heavyHitterCount cfg blocks
  unfold H2OPolicy.hhIds at hhh ⊢
  rw [sliceTo_of_nonneg _ (by omega)] at hhh ⊢
  exact name_mem_top_of_lt hids ha hb hlt hhh

theorem importanceMonotone_h2o (p : H2OPolicy) {blocks : List BlockState}
    (hids : (blocks.map (·.blockId)).Nodup) (m : SystemMetrics)
    (hlow : p.config.memoryPressureLow ≤ m.pressure) :
    ImportanceMonotone (PolicyInterface.decide p blocks m).1
      (blocks.map (fun b => (b, b.avgAttentionScore)))
      (leadingIds blocks p.config.sinkTokenBlocks) := by
  change ImportanceMonotone (H2OPolicy.decisions p.config blocks m) _ _
  rw [H2OPolicy.decisions, if_neg (not_lt_of_ge hlow)]
  simp only []
  rw [map_eq_map_pair blocks (·.avgAttentionScore)]
  refine importanceMonotone_map (nodup_map_pair hids _) (fun x hx => hx) ?_ ?_
  · intro x _
    split <;> rfl
  · intro x hx y hy hxs hys hlt
    obtain ⟨a, ha, rfl⟩ := List.mem_map.mp hx
    obtain ⟨b, hb, rfl⟩ := List.mem_map.mp hy
    simp only [hxs, hys, false_or]
    by_cases hahh : a.blockId ∈ H2OPolicy.hhIds p.config blocks
    · rw [if_pos hahh]
      exact BlockDecision.le_keepGpu _
    · have hbhh : b.blockId ∉ H2OPolicy.hhIds p.config blocks := fun hbhh =>
        hahh (mem_h2o_hhIds_of_lt p.config hids ha hb hlt hbhh)
      rw [if_neg hahh, if_neg hbhh]

/-- The offload set is closed downwards among the blocks that are no sinks. -/
theorem mem_offloadSet_of_lt (cfg : PolicyConfig) {blocks : List BlockState}
    (hids : (blocks.map (·.blockId)).Nodup) {x y : BlockState × ℚ}
    (hx : x ∈ OffloadOnlyPolicy.scored blocks) (hy : y ∈ OffloadOnlyPolicy.scored blocks)
    (hys : y.1.blockId ∉ leadingIds blocks cfg.sinkTokenBlocks) (hlt : y.2 < x.2)
    (hoff : x.1.blockId ∈ OffloadOnlyPolicy.offloadSet cfg blocks) :
    y.1.blockId ∈ OffloadOnlyPolicy.offloadSet cfg blocks := by
  have hnodup := OffloadOnlyPolicy.nodup_scored_ids hids
  rw [OffloadOnlyPolicy.offloadSet_eq] at hoff ⊢
  generalize hel : OffloadOnlyPolicy.eligible cfg (leadingIds blocks cfg.sinkTokenBlocks) = el
    at hoff ⊢
  have hsub : ∀ z ∈ ((OffloadOnlyPolicy.scored blocks).filter el).take
      (maxOffload cfg blocks).toNat, z ∈ OffloadOnlyPolicy.scored blocks := by
    intro z hz
    exact List.mem_of_mem_filter (List.mem_of_mem_take hz)
  have htake := (name_mem_map_iff hnodup hsub hx).mp hoff
  have hxel : el x = true := (List.mem_filter.mp (List.mem_of_mem_take htake)).2
  have hyel : y ∈ (OffloadOnlyPolicy.scored blocks).filter el := by
    refine List.mem_filter.mpr ⟨hy, ?_⟩
    subst hel
    simp only [OffloadOnlyPolicy.eligible, decide_eq_true_iff] at hxel ⊢
    exact ⟨hys, le_trans (le_of_lt hlt) hxel.2⟩
  have hsorted : ((OffloadOnlyPolicy.scored blocks).filter el).Pairwise
      (fun a b => a.2 ≤ b.2) :=
    (pairwise_sortBy Prod.snd _).filter _
  exact (name_mem_map_iff hnodup hsub hy).mpr
    (mem_take_of_pairwise hsorted hyel htake (not_le_of_gt hlt))

theorem importanceMonotone_keepAll {blocks : List BlockState}
    (hids : (blocks.map (·.blockId)).Nodup) (score : BlockState → ℚ) (sinks : List Int) :
    ImportanceMonotone (keepAll blocks) (blocks.map (fun b => (b, score b))) sinks := by
  rw [keepAll, map_eq_map_pair blocks score]
  exact importanceMonotone_map (nodup_map_pair hids score) (fun x hx => hx) (fun _ _ => rfl)
    (fun _ _ _ _ _ _ _ => le_refl _)

theorem importanceMonotone_offloadOnly (p : OffloadOnlyPolicy) {blocks : List BlockState}
    (hids : (blocks.map (·.blockId)).Nodup) (m : SystemMetrics) :
    ImportanceMonotone (PolicyInterface.decide p blocks m).1
      (blocks.map (fun b => (b, normAttention (maxAvgAttention blocks) b)))
      (leadingIds blocks p.config.sinkTokenBlocks) := by
  change ImportanceMonotone (OffloadOnlyPolicy.decisions p.config blocks m) _ _
  rw [OffloadOnlyPolicy.decisions]
  split
  · exact importanceMonotone_keepAll hids _ _
  · have hsub : ∀ x ∈ blocks.map (fun b => (b, normAttention (maxAvgAttention blocks) b)),
        x ∈ OffloadOnlyPolicy.scored blocks := fun x hx =>
      (OffloadOnlyPolicy.scored_perm blocks).mem_iff.mpr hx
    refine importanceMonotone_map (OffloadOnlyPolicy.nodup_scored_ids hids) hsub
      (fun x _ => OffloadOnlyPolicy.blockId_verdict _ x) ?_
    intro x hx y hy _ hys hlt
    rw [OffloadOnlyPolicy.decision_verdict, OffloadOnlyPolicy.decision_verdict]
    by_cases hxoff : x.1.blockId ∈ OffloadOnlyPolicy.offloadSet p.config blocks
    · have hyoff := mem_offloadSet_of_lt p.config hids (hsub x hx) (hsub y hy) hys hlt hxoff
      rw [if_pos hxoff, if_pos hyoff]
    · rw [if_neg hxoff]
      exact BlockDecision.le_keepGpu _

/-- Prefix caching thresholds the blocks whose prefix was not reused. -/
theorem importanceMonotone_prefixCaching (p : PrefixCachingPolicy) {blocks : List BlockState}
    (hids : (blocks.map (·.blockId)).Nodup) (m : SystemMetrics)
    (hlow : p.config.memoryPressureLow ≤ m.pressure) :
    ImportanceMonotone (PolicyInterface.decide p blocks m).1
      ((blocks.filter (fun b => b.prefixReuseFlag = false)).map
        (fun b => (b, normAttention (maxAvgAttention blocks) b))) [] := by
  change ImportanceMonotone (PrefixCachingPolicy.decisions p.config blocks m) _ _
  rw [PrefixCachingPolicy.decisions, if_neg (not_lt_of_ge hlow)]
  simp only []
  rw [map_eq_map_pair blocks (normAttention (maxAvgAttention blocks))]
  refine importanceMonotone_map (nodup_map_pair hids _) ?_ ?_ ?_
  · intro x hx
    obtain ⟨b, hb, rfl⟩ := List.mem_map.mp hx
    exact List.mem_map_of_mem (List.mem_of_mem_filter hb)
  · intro x _
    split
    · rfl
    · split <;> rfl
  · intro x hx y hy _ _ hlt
    obtain ⟨a, ha, rfl⟩ := List.mem_map.mp hx
    obtain ⟨b, hb, rfl⟩ := List.mem_map.mp hy
    have haflag : a.prefixReuseFlag = false := by simpa using (List.mem_filter.mp ha).2
    have hbflag : b.prefixReuseFlag = false := by simpa using (List.mem_filter.mp hb).2
    simp only [haflag, hbflag, Bool.false_eq_true, if_false]
    by_cases hcut : normAttention (maxAvgAttention blocks) a <
        PrefixCachingPolicy.evictBelow p.config m
    · rw [if_pos hcut, if_pos (lt_trans hlt hcut)]
    · rw [if_neg hcut]
      exact BlockDecision.le_keepGpu _

/-! ## All of them -/

/-- **Decisions are monotone in importance**, for any thresholds and flags, at
any pressure from the low threshold on. -/
theorem importance_monotone [Numerics] {blocks : List BlockState}
    (hids : (blocks.map (·.blockId)).Nodup) (m : SystemMetrics) :
    (∀ p : HybridAdaptivePolicy, p.config.memoryPressureLow ≤ m.pressure →
      ImportanceMonotone (PolicyInterface.decide p blocks m).1
        (blocks.zip (p.scoreAll blocks m))
        (HybridAdaptivePolicy.sinkIds p.config blocks)) ∧
    (∀ p : LearnedPolicy, p.isReady = true → p.config.memoryPressureLow ≤ m.pressure →
      ImportanceMonotone (PolicyInterface.decide p blocks m).1
        (blocks.zip (p.scoreBlocks blocks m))
        (leadingIds blocks p.config.sinkTokenBlocks)) ∧
    (∀ p : H2OPolicy, p.config.memoryPressureLow ≤ m.pressure →
      ImportanceMonotone (PolicyInterface.decide p blocks m).1
        (blocks.map (fun b => (b, b.avgAttentionScore)))
        (leadingIds blocks p.config.sinkTokenBlocks)) ∧
    (∀ p : OffloadOnlyPolicy, p.config.memoryPressureLow ≤ m.pressure →
      ImportanceMonotone (PolicyInterface.decide p blocks m).1
        (blocks.map (fun b => (b, normAttention (maxAvgAttention blocks) b)))
        (leadingIds blocks p.config.sinkTokenBlocks)) ∧
    (∀ p : PrefixCachingPolicy, p.config.memoryPressureLow ≤ m.pressure →
      ImportanceMonotone (PolicyInterface.decide p blocks m).1
        ((blocks.filter (fun b => b.prefixReuseFlag = false)).map
          (fun b => (b, normAttention (maxAvgAttention blocks) b))) []) := by
  refine ⟨?_, ?_, ?_, ?_, ?_⟩
  · intro p hlow
    exact importanceMonotone_hybrid p hids m hlow
  · intro p hready hlow
    exact importanceMonotone_learned hready hids m hlow
  · intro p hlow
    exact importanceMonotone_h2o p hids m hlow
  · intro p _
    exact importanceMonotone_offloadOnly p hids m
  · intro p hlow
    exact importanceMonotone_prefixCaching p hids m hlow

/-- An old block without attention and a recent one with all of it. -/
def staleAndFresh : List BlockState :=
  [ { blockId := 1
      layerId := 0
      headGroup := 0
      requestId := "r" },
    { blockId := 2
      layerId := 0
      headGroup := 0
      requestId := "r"
      lastAccessStep := 8
      avgAttentionScore := 1
      maxAttentionScore := 1 } ]

/-- Metrics of a given GPU memory reading, at step 8. -/
def metricsAt (used free : ℚ) : SystemMetrics where
  gpuMemUsedMb := some used
  gpuMemFreeMb := some free
  globalStep := some 8
  attnMax := some 1

/-- A hybrid controller without sinks and without a learned policy. -/
def hybridWithoutSinks : HybridAdaptivePolicy where
  config := { sinkTokenBlocks := 0 }

theorem importance_monotone_stale_fresh :
    ∃ dx dy,
      decisionOf (@HybridAdaptivePolicy.decisions lineNumerics.toNumerics hybridWithoutSinks
        staleAndFresh (metricsAt 9 1)) 2 = some dx ∧
      decisionOf (@HybridAdaptivePolicy.decisions lineNumerics.toNumerics hybridWithoutSinks
        staleAndFresh (metricsAt 9 1)) 1 = some dy ∧ dy ≤ dx := by
  have h := (@importance_monotone lineNumerics.toNumerics staleAndFresh (by decide)
    (metricsAt 9 1)).1 hybridWithoutSinks (by decide +kernel)
  exact h
    ({ blockId := 2
       layerId := 0
       headGroup := 0
       requestId := "r"
       lastAccessStep := 8
       avgAttentionScore := 1
       maxAttentionScore := 1 }, 4 / 5) (by decide +kernel)
    ({ blockId := 1
       layerId := 0
       headGroup := 0
       requestId := "r" }, 0) (by decide +kernel) (by decide +kernel) (by decide +kernel)
    (by decide +kernel)

end KVOrchestrator.Ports
