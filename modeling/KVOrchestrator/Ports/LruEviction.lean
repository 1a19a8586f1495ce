import KVOrchestrator.Ports.EngineRun
import KVOrchestrator.Ports.Heuristic

/-!
# LRU eviction in the policy and in the tracker

`FullCachePolicy` and `get_candidate_blocks` each sort by the last access and take
a prefix.  The policy's prefix is a tenth of the blocks, at least one, so it
never evicts a block accessed later than one it keeps; over a tracker with all
blocks on the GPU the candidates are the same list.
-/

namespace KVOrchestrator.Ports

open KVOrchestrator.Verified

namespace FullCachePolicy

/-- `max(1, n // 10)`, the size of the prefix. -/
def evictBudget (blocks : List BlockState) : Nat := max 1 (blocks.length / 10)

/-- The least recently accessed blocks that fit in the budget. -/
def oldest (blocks : List BlockState) : List BlockState :=
  (sortBy (·.lastAccessStep) blocks).take (evictBudget blocks)

variable {cfg : PolicyConfig} {blocks : List BlockState} {m : SystemMetrics}

theorem oldest_sublist (blocks : List BlockState) :
    (oldest blocks).Sublist (sortBy (·.lastAccessStep) blocks) := List.take_sublist _ _

theorem mem_of_mem_oldest {b : BlockState} (hb : b ∈ oldest blocks) : b ∈ blocks :=
  (mem_sortBy _ _ _).mp ((oldest_sublist blocks).subset hb)

/-- `int(n * 0.10)` is the tenth, rounded down. -/
theorem pyInt_tenth (n : Nat) : pyInt ((n : ℚ) * (10 / 100)) = (n / 10 : Nat) := by
  have htenth : (n : ℚ) * (10 / 100) = (n : ℚ) / (10 : Nat) := by
    push_cast
    ring
  rw [pyInt_of_nonneg (by positivity), htenth, Rat.floor_natCast_div_natCast]
  omega

theorem sliceTo_evictBudget (blocks l : List BlockState) (hlength : l.length = blocks.length) :
    sliceTo l (max 1 (pyInt ((l.length : ℚ) * (10 / 100)))) = l.take (evictBudget blocks) := by
  rw [pyInt_tenth, sliceTo_of_nonneg _ (by omega), hlength, evictBudget]
  congr 1
  omega

/-- Under pressure the blocks of the prefix are evicted, the others kept. -/
theorem decisions_eq (hhigh : cfg.memoryPressureHigh ≤ m.pressure) :
    decisions cfg blocks m = blocks.map (fun b =>
      { blockId := b.blockId
        decision := if b.blockId ∈ (oldest blocks).map (·.blockId) then .evict else .keepGpu
        score := if b.blockId ∈ (oldest blocks).map (·.blockId) then 0 else 1
        reason := if b.blockId ∈ (oldest blocks).map (·.blockId) then "lru_evict" else "keep" }) := by
  rw [decisions, if_neg (not_lt.mpr hhigh)]
  dsimp only
  rw [sliceTo_evictBudget blocks _ (length_sortBy _ _)]
  rfl

variable (hids : (blocks.map (·.blockId)).Nodup) (hhigh : cfg.memoryPressureHigh ≤ m.pressure)

include hids

theorem mem_oldest_ids_iff {b : BlockState} (hb : b ∈ blocks) :
    b.blockId ∈ (oldest blocks).map (·.blockId) ↔ b ∈ oldest blocks :=
  name_mem_map_iff hids (fun _ hx => mem_of_mem_oldest hx) hb

include hhigh

theorem decisionOf_block {b : BlockState} (hb : b ∈ blocks) :
    decisionOf (decisions cfg blocks m) b.blockId =
      some (if b ∈ oldest blocks then .evict else .keepGpu) := by
  rw [decisions_eq hhigh, decisionOf_map hids _ (fun _ _ => rfl) hb]
  simp only [mem_oldest_ids_iff hids hb]

/-- The evictions fill the budget. -/
theorem countP_evict (hne : blocks ≠ []) :
    (decisions cfg blocks m).countP (fun d => d.decision = .evict) = evictBudget blocks := by
  have hperm : (sortBy (·.lastAccessStep) blocks).Perm blocks := sortBy_perm _ _
  have hnodup : ((sortBy (·.lastAccessStep) blocks).map (·.blockId)).Nodup :=
    (hperm.map _).nodup_iff.mpr hids
  have hbudget : evictBudget blocks ≤ blocks.length := by
    have hpos := List.length_pos_iff.mpr hne
    rw [evictBudget]
    omega
  have hlength : (oldest blocks).length = evictBudget blocks := by
    rw [oldest, List.length_take, length_sortBy, Nat.min_eq_left hbudget]
  have hevict : ∀ b : BlockState,
      decide ((if b.blockId ∈ (oldest blocks).map (·.blockId) then BlockDecision.evict
        else .keepGpu) = .evict) = decide (b.blockId ∈ (oldest blocks).map (·.blockId)) := by
    intro b
    split <;> simp [*]
  rw [decisions_eq hhigh, List.countP_map, ← hlength,
    ← countP_name_mem hnodup (oldest_sublist blocks), hperm.countP_eq]
  apply List.countP_congr
  intro b _
  rw [Function.comp_apply, hevict b]

omit hids hhigh in
/-- The candidates of a tracker that is on the GPU as a whole. -/
theorem getCandidateBlocks_lru {t : BlockTracker}
    (hgpu : ∀ b ∈ t.getAllBlocks, b.currentTier = .gpuFp16 ∨ b.currentTier = .gpuQuantized) :
    t.getCandidateBlocks (evictBudget t.getAllBlocks) "lru" = .ok (oldest t.getAllBlocks) := by
  have hall : t.getAllBlocks.filter
      (fun b => b.currentTier = .gpuFp16 ∨ b.currentTier = .gpuQuantized) = t.getAllBlocks := by
    rw [List.filter_eq_self]
    exact fun b hb => decide_eq_true (hgpu b hb)
  rw [BlockTracker.getCandidateBlocks, if_pos rfl, hall, sliceTo_of_nonneg _ (by omega)]
  rfl

end FullCachePolicy

/-- **Full-cache eviction is LRU, a tenth, and the tracker's own choice.**

At or above the high threshold, `FullCachePolicy` evicts a tenth of the blocks,
rounded down and at least one, and no block accessed later than a kept one.  On
the blocks of a tracker that are all on the GPU it evicts exactly the
candidates that `get_candidate_blocks` gives for that number. -/
theorem full_cache_lru {p : FullCachePolicy} {m : SystemMetrics}
    (hhigh : p.config.memoryPressureHigh ≤ m.pressure) :
    (∀ blocks : List BlockState, blocks ≠ [] → (blocks.map (·.blockId)).Nodup →
      let decisions := (PolicyInterface.decide p blocks m).1
      decisions.countP (fun d => d.decision = .evict) = max 1 (blocks.length / 10) ∧
      ∀ b ∈ blocks, ∀ b' ∈ blocks, decisionOf decisions b.blockId = some .evict →
        decisionOf decisions b'.blockId ≠ some .evict → b.lastAccessStep ≤ b'.lastAccessStep) ∧
    ∀ t : BlockTracker, t.getAllBlocks ≠ [] →
      (∀ b ∈ t.getAllBlocks, b.currentTier = .gpuFp16 ∨ b.currentTier = .gpuQuantized) →
      ∃ candidates, t.getCandidateBlocks (max 1 (t.getAllBlocks.length / 10) : Nat) "lru" =
          .ok candidates ∧
        ∀ b, b ∈ candidates ↔ b ∈ t.getAllBlocks ∧
          decisionOf (PolicyInterface.decide p t.getAllBlocks m).1 b.blockId = some .evict := by
  have hevicted : ∀ {blocks : List BlockState}, (blocks.map (·.blockId)).Nodup → ∀ b ∈ blocks,
      (decisionOf (FullCachePolicy.decisions p.config blocks m) b.blockId = some .evict ↔
        b ∈ FullCachePolicy.oldest blocks) := by
    intro blocks hids b hb
    rw [FullCachePolicy.decisionOf_block hids hhigh hb]
    split <;> simp [*]
  constructor
  · intro blocks hne hids
    refine ⟨FullCachePolicy.countP_evict hids hhigh hne, ?_⟩
    intro b hb b' hb' hold hkept
    have hold' := (hevicted hids b hb).mp hold
    have hkept' := mt (hevicted hids b' hb').mpr hkept
    by_contra hlt
    exact hkept' (mem_take_of_pairwise (pairwise_sortBy _ _) ((mem_sortBy _ _ _).mpr hb') hold' hlt)
  · intro t hne hgpu
    refine ⟨_, FullCachePolicy.getCandidateBlocks_lru hgpu, ?_⟩
    intro b
    constructor
    · intro hb
      have hmem := FullCachePolicy.mem_of_mem_oldest hb
      exact ⟨hmem, (hevicted t.nodup_blockIds b hmem).mpr hb⟩
    · rintro ⟨hmem, hold⟩
      exact (hevicted t.nodup_blockIds b hmem).mp hold

/-- Two blocks under full pressure: one is evicted, the tracker's candidate. -/
theorem full_cache_lru_two_blocks :
    ((PolicyInterface.decide (⟨{ config := {} }⟩ : FullCachePolicy) twoBlocks.getAllBlocks
        { gpuMemUsedMb := some 9, gpuMemFreeMb := some 1 }).1.countP
          (fun d => d.decision = .evict) = 1) ∧
      ∃ candidates, twoBlocks.getCandidateBlocks 1 "lru" = .ok candidates ∧
        ∀ b ∈ candidates, b ∈ twoBlocks.getAllBlocks := by
  have h := @full_cache_lru ⟨{ config := {} }⟩
    { gpuMemUsedMb := some 9, gpuMemFreeMb := some 1 } (by decide +kernel)
  have hne : twoBlocks.getAllBlocks ≠ [] := by decide +kernel
  obtain ⟨candidates, hcandidates, hmem⟩ := h.2 twoBlocks hne (by decide +kernel)
  refine ⟨(h.1 _ hne twoBlocks.nodup_blockIds).1, candidates, hcandidates, ?_⟩
  exact fun b hb => ((hmem b).mp hb).1

end KVOrchestrator.Ports
