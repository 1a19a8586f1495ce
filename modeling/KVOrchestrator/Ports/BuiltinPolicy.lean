import KVOrchestrator.Ports.Hybrid

/-!
# The eight built-in policies as one type

An engine whose policy may be overridden at runtime runs over the sum of the
policy types.  Each policy returns at most one decision per block of its
batch (`nodup_decide`): the rule-based ones decide on every block, the scored
ones on every block that has a score.
-/

namespace KVOrchestrator.Ports

open KVOrchestrator.Verified

/-- Any of the policies `src/cache_policies` exports. -/
inductive BuiltinPolicy where
  | fullCache (p : FullCachePolicy)
  | slidingWindow (p : SlidingWindowPolicy)
  | h2o (p : H2OPolicy)
  | prefixCaching (p : PrefixCachingPolicy)
  | quantizeOnly (p : QuantizeOnlyPolicy)
  | offloadOnly (p : OffloadOnlyPolicy)
  | hybrid (p : HybridAdaptivePolicy)
  | learned (p : LearnedPolicy)

namespace BuiltinPolicy

/-- The configuration of the policy. -/
def config : BuiltinPolicy → PolicyConfig
  | .fullCache p => p.config
  | .slidingWindow p => p.config
  | .h2o p => p.config
  | .prefixCaching p => p.config
  | .quantizeOnly p => p.config
  | .offloadOnly p => p.config
  | .hybrid p => p.config
  | .learned p => p.config

/-- Run a policy and put its new state back into the sum. -/
def wrap {π : Type} [PolicyInterface π] (mk : π → BuiltinPolicy) (p : π)
    (blocks : List BlockState) (m : SystemMetrics) : List PolicyDecision × BuiltinPolicy :=
  let r := PolicyInterface.decide p blocks m
  (r.1, mk r.2)

instance policyInterface [Numerics] : PolicyInterface BuiltinPolicy where
  decide p blocks m :=
    match p with
    | .fullCache p => wrap .fullCache p blocks m
    | .slidingWindow p => wrap .slidingWindow p blocks m
    | .h2o p => wrap .h2o p blocks m
    | .prefixCaching p => wrap .prefixCaching p blocks m
    | .quantizeOnly p => wrap .quantizeOnly p blocks m
    | .offloadOnly p => wrap .offloadOnly p blocks m
    | .hybrid p => wrap .hybrid p blocks m
    | .learned p => wrap .learned p blocks m
  getName
    | .fullCache p => PolicyInterface.getName p
    | .slidingWindow p => PolicyInterface.getName p
    | .h2o p => PolicyInterface.getName p
    | .prefixCaching p => PolicyInterface.getName p
    | .quantizeOnly p => PolicyInterface.getName p
    | .offloadOnly p => PolicyInterface.getName p
    | .hybrid p => PolicyInterface.getName p
    | .learned p => PolicyInterface.getName p
  getLastStats
    | .fullCache p => PolicyInterface.getLastStats p
    | .slidingWindow p => PolicyInterface.getLastStats p
    | .h2o p => PolicyInterface.getLastStats p
    | .prefixCaching p => PolicyInterface.getLastStats p
    | .quantizeOnly p => PolicyInterface.getLastStats p
    | .offloadOnly p => PolicyInterface.getLastStats p
    | .hybrid p => PolicyInterface.getLastStats p
    | .learned p => PolicyInterface.getLastStats p

end BuiltinPolicy

/-! ## One decision per block -/

/-- One verdict per block, in batch order, names the blocks of the batch. -/
theorem blockIds_map_verdict {α : Type} (l : List α) (name : α → Int) {g : α → PolicyDecision}
    (hg : ∀ a ∈ l, (g a).blockId = name a) : (l.map g).map (·.blockId) = l.map name := by
  rw [List.map_map]
  exact List.map_congr_left hg

theorem blockIds_keepAll (blocks : List BlockState) :
    (keepAll blocks).map (·.blockId) = blocks.map (·.blockId) :=
  blockIds_map_verdict blocks _ (fun _ _ => rfl)

/-- A policy that keeps everything under its guard and judges block by block
beyond it. -/
theorem blockIds_guarded (guard : Prop) [Decidable guard] (blocks : List BlockState)
    {verdict : BlockState → PolicyDecision} (hverdict : ∀ b, (verdict b).blockId = b.blockId) :
    (if guard then keepAll blocks else blocks.map verdict).map (·.blockId) =
      blocks.map (·.blockId) := by
  split
  · exact blockIds_keepAll blocks
  · exact blockIds_map_verdict blocks _ (fun b _ => hverdict b)

theorem blockIds_fullCache (cfg : PolicyConfig) (blocks : List BlockState) (m : SystemMetrics) :
    (FullCachePolicy.decisions cfg blocks m).map (·.blockId) = blocks.map (·.blockId) :=
  blockIds_guarded _ blocks (fun _ => rfl)

theorem blockIds_slidingWindow (cfg : PolicyConfig) (blocks : List BlockState)
    (m : SystemMetrics) :
    (SlidingWindowPolicy.decisions cfg blocks m).map (·.blockId) = blocks.map (·.blockId) := by
  refine blockIds_guarded _ blocks (fun b => ?_)
  split <;> rfl

theorem blockIds_h2o (cfg : PolicyConfig) (blocks : List BlockState) (m : SystemMetrics) :
    (H2OPolicy.decisions cfg blocks m).map (·.blockId) = blocks.map (·.blockId) := by
  refine blockIds_guarded _ blocks (fun b => ?_)
  split <;> rfl

theorem blockIds_prefixCaching (cfg : PolicyConfig) (blocks : List BlockState)
    (m : SystemMetrics) :
    (PrefixCachingPolicy.decisions cfg blocks m).map (·.blockId) = blocks.map (·.blockId) := by
  refine blockIds_guarded _ blocks (fun b => ?_)
  by_cases hreuse : b.prefixReuseFlag = true
  · rw [if_pos hreuse]
  · simp only [if_neg hreuse]
    split <;> rfl

theorem blockIds_quantizeOnly (cfg : PolicyConfig) (blocks : List BlockState)
    (m : SystemMetrics) :
    (QuantizeOnlyPolicy.decisions cfg blocks m).map (·.blockId) = blocks.map (·.blockId) := by
  refine blockIds_guarded _ blocks (fun b => ?_)
  by_cases hkept : b.blockId ∈ leadingIds blocks cfg.sinkTokenBlocks ∨
      b.currentTier = .gpuQuantized
  · rw [if_pos hkept]
  · simp only [if_neg hkept]
    split <;> rfl

/-- `OffloadOnlyPolicy` names the blocks in ranking order. -/
theorem blockIds_offloadOnly (cfg : PolicyConfig) (blocks : List BlockState)
    (m : SystemMetrics) :
    ((OffloadOnlyPolicy.decisions cfg blocks m).map (·.blockId)).Perm
      (blocks.map (·.blockId)) := by
  rw [OffloadOnlyPolicy.decisions]
  split
  · rw [blockIds_keepAll]
  · rw [blockIds_map_verdict _ (fun x : BlockState × ℚ => x.1.blockId)
      (fun x _ => OffloadOnlyPolicy.blockId_verdict _ x)]
    have hperm := (OffloadOnlyPolicy.scored_perm blocks).map (fun x => x.1.blockId)
    rwa [List.map_map] at hperm

section Learned

variable [Numerics]

/-- The hybrid controller names every block, or the blocks paired with a
score. -/
theorem blockIds_hybrid_eq (p : HybridAdaptivePolicy) (blocks : List BlockState)
    (m : SystemMetrics) :
    (p.decisions blocks m).map (·.blockId) = blocks.map (·.blockId) ∨
      (p.decisions blocks m).map (·.blockId) =
        (blocks.zip (p.scoreAll blocks m)).map (fun x => x.1.blockId) := by
  rw [HybridAdaptivePolicy.decisions]
  split
  · exact .inl (blockIds_keepAll blocks)
  · apply Or.inr
    split
    · exact blockIds_map_verdict _ (fun x : BlockState × ℚ => x.1.blockId)
        (fun x _ => HybridAdaptivePolicy.blockId_mediumDecision _ _ x)
    · exact blockIds_map_verdict _ (fun x : BlockState × ℚ => x.1.blockId)
        (fun x _ => HybridAdaptivePolicy.blockId_highDecision _ _ _ x)

theorem blockIds_learned_eq (p : LearnedPolicy) (blocks : List BlockState) (m : SystemMetrics) :
    (p.decisions blocks m).map (·.blockId) = blocks.map (·.blockId) ∨
      (p.decisions blocks m).map (·.blockId) =
        (blocks.zip (p.scoreBlocks blocks m)).map (fun x => x.1.blockId) := by
  rw [LearnedPolicy.decisions]
  split
  · exact .inl (blockIds_keepAll blocks)
  · apply Or.inr
    exact blockIds_map_verdict _ (fun x : BlockState × ℚ => x.1.blockId)
      (fun x _ => LearnedPolicy.blockId_blockDecision _ _ x)

/-- The scored policies name the blocks that have a score. -/
theorem blockIds_hybrid (p : HybridAdaptivePolicy) (blocks : List BlockState)
    (m : SystemMetrics) :
    ((p.decisions blocks m).map (·.blockId)).Sublist (blocks.map (·.blockId)) := by
  rcases blockIds_hybrid_eq p blocks m with hall | hscored
  · rw [hall]
  · rw [hscored]
    exact names_zip_sublist _ blocks _

theorem blockIds_learned (p : LearnedPolicy) (blocks : List BlockState) (m : SystemMetrics) :
    ((p.decisions blocks m).map (·.blockId)).Sublist (blocks.map (·.blockId)) := by
  rcases blockIds_learned_eq p blocks m with hall | hscored
  · rw [hall]
  · rw [hscored]
    exact names_zip_sublist _ blocks _

namespace BuiltinPolicy

/-- Without a model the learned policy is `H2OPolicy`. -/
theorem decide_learned_of_not_ready {p : LearnedPolicy} (hready : p.isReady = false)
    (blocks : List BlockState) (m : SystemMetrics) :
    (PolicyInterface.decide (BuiltinPolicy.learned p) blocks m).1 =
      H2OPolicy.decisions p.config blocks m := by
  show (PolicyInterface.decide p blocks m).1 = _
  simp only [PolicyInterface.decide, hready, ← p.fallback_config]
  rfl

theorem decide_learned_of_ready {p : LearnedPolicy} (hready : p.isReady = true)
    (blocks : List BlockState) (m : SystemMetrics) :
    (PolicyInterface.decide (BuiltinPolicy.learned p) blocks m).1 = p.decisions blocks m := by
  show (PolicyInterface.decide p blocks m).1 = _
  simp only [PolicyInterface.decide, hready]
  rfl

end BuiltinPolicy

/-- No built-in policy decides on a block twice. -/
theorem BuiltinPolicy.nodup_decide (p : BuiltinPolicy) {blocks : List BlockState}
    (hids : (blocks.map (·.blockId)).Nodup) (m : SystemMetrics) :
    ((PolicyInterface.decide p blocks m).1.map (·.blockId)).Nodup := by
  cases p with
  | fullCache p => exact (blockIds_fullCache p.config blocks m).symm ▸ hids
  | slidingWindow p => exact (blockIds_slidingWindow p.config blocks m).symm ▸ hids
  | h2o p => exact (blockIds_h2o p.config blocks m).symm ▸ hids
  | prefixCaching p => exact (blockIds_prefixCaching p.config blocks m).symm ▸ hids
  | quantizeOnly p => exact (blockIds_quantizeOnly p.config blocks m).symm ▸ hids
  | offloadOnly p => exact (blockIds_offloadOnly p.config blocks m).nodup_iff.mpr hids
  | hybrid p => exact hids.sublist (blockIds_hybrid p blocks m)
  | learned p =>
      cases hready : p.isReady with
      | false =>
          rw [BuiltinPolicy.decide_learned_of_not_ready hready, blockIds_h2o]
          exact hids
      | true =>
          rw [BuiltinPolicy.decide_learned_of_ready hready]
          exact hids.sublist (blockIds_learned p blocks m)

end Learned

end KVOrchestrator.Ports
