import KVOrchestrator.Ports.LruEviction
import KVOrchestrator.Ports.PressureFeedback
import KVOrchestrator.Verified.SortedEnds

/-!
# The full cache without traffic

A cycle computes its pressure with no free memory, so that it is full as long as
anything is on the GPU, and a cycle of `FullCachePolicy` brings everything it
keeps back to FP16.  While no request comes in, the engine therefore goes on
evicting a tenth of what is left in every cycle: the baseline that is meant to
evict only when it must drains an idle cache to the last block, oldest first
(`full_cache_drains_iff`).
-/

namespace KVOrchestrator.Ports

open KVOrchestrator.Verified

/-- Each tracked block with the step of its last access. -/
def BlockTracker.lastAccesses (t : BlockTracker) : List (Int × Int) :=
  t.getAllBlocks.map (fun b => (b.blockId, b.lastAccessStep))

theorem BlockTracker.map_fst_lastAccesses (t : BlockTracker) :
    t.lastAccesses.map Prod.fst = t.ids := by
  rw [lastAccesses, List.map_map, ← t.map_blockId_getAllBlocks]
  rfl

theorem BlockTracker.length_lastAccesses (t : BlockTracker) :
    t.lastAccesses.length = t.ids.length := by
  rw [← t.map_fst_lastAccesses, List.length_map]

theorem BlockTracker.getAllBlocks_eq_nil_iff (t : BlockTracker) :
    t.getAllBlocks = [] ↔ t.ids.length = 0 := by
  rw [← t.map_blockId_getAllBlocks, List.length_map, List.length_eq_zero_iff]

namespace FullCachePolicy

/-- The ids a cycle evicts. -/
def dropped (cfg : PolicyConfig) (t : BlockTracker) : List Int :=
  if (systemMetrics t).pressure < cfg.memoryPressureHigh then []
  else (oldest t.getAllBlocks).map (·.blockId)

/-- A cycle keeps or evicts, block by block. -/
theorem exists_verdict (cfg : PolicyConfig) (t : BlockTracker) :
    ∃ verdict : BlockState → PolicyDecision,
      decisions cfg t.getAllBlocks (systemMetrics t) = t.getAllBlocks.map verdict ∧
      (∀ b, (verdict b).blockId = b.blockId) ∧
      ∀ b ∈ t.getAllBlocks, (verdict b).decision =
        if b.blockId ∈ t.ids.filter (fun i => decide (i ∉ dropped cfg t)) then .keepGpu
        else .evict := by
  have hmem : ∀ b ∈ t.getAllBlocks, b.blockId ∈ t.ids := by
    intro b hb
    rw [← t.map_blockId_getAllBlocks]
    exact List.mem_map_of_mem hb
  by_cases hlow : (systemMetrics t).pressure < cfg.memoryPressureHigh
  · refine ⟨fun b =>
        { blockId := b.blockId
          decision := .keepGpu
          score := 1
          reason := "low_pressure" }, ?_, fun b => rfl, ?_⟩
    · rw [decisions, if_pos hlow]
      rfl
    · intro b hb
      have hkept : b.blockId ∈ t.ids.filter (fun i => decide (i ∉ dropped cfg t)) := by
        rw [List.mem_filter, dropped, if_pos hlow]
        exact ⟨hmem b hb, by simp⟩
      rw [if_pos hkept]
  · refine ⟨_, decisions_eq (not_lt.mp hlow), fun b => rfl, ?_⟩
    intro b hb
    have hiff : b.blockId ∈ t.ids.filter (fun i => decide (i ∉ dropped cfg t)) ↔
        b.blockId ∉ (oldest t.getAllBlocks).map (·.blockId) := by
      rw [List.mem_filter, decide_eq_true_iff, dropped, if_neg hlow]
      exact and_iff_right (hmem b hb)
    by_cases hold : b.blockId ∈ (oldest t.getAllBlocks).map (·.blockId)
    · rw [if_pos hold, if_neg (fun hkept => hiff.mp hkept hold)]
    · rw [if_neg hold, if_pos (hiff.mpr hold)]

section Cycle

variable (e : PolicyEngine FullCachePolicy)

theorem config_cycle_fullCache : e.cycle.policy.config = e.policy.config := by
  have hkeep : ∀ (p : FullCachePolicy) blocks m, p.config = e.policy.config →
      (PolicyInterface.decide p blocks m).2.config = e.policy.config := fun _ _ _ hp => hp
  exact PolicyEngine.policy_cycle_of_decide hkeep rfl

/-- What a cycle leaves, in FP16. -/
theorem getAllBlocks_cycle_fullCache :
    ∃ score : BlockState → ℚ, e.cycle.blockTracker.getAllBlocks =
      (e.blockTracker.getAllBlocks.filter (fun b =>
        decide (b.blockId ∈ e.blockTracker.ids.filter (fun i =>
          decide (i ∉ dropped e.policy.config e.blockTracker))))).map (fun b => { b with
            currentTier := .gpuFp16
            importanceScore := score b }) := by
  obtain ⟨verdict, hdecisions, hids, hdecision⟩ :=
    exists_verdict e.policy.config e.blockTracker
  have hcycle : e.cycleDecisions = e.blockTracker.getAllBlocks.map verdict :=
    PolicyEngine.cycleDecisions_eq_map hdecisions
  refine ⟨fun b => (verdict b).score, ?_⟩
  rw [e.blockTracker_cycle, hcycle, getAllBlocks_applyDecisions_kept hids hdecision]

theorem allFp16_cycle_fullCache : e.cycle.blockTracker.AllFp16 := by
  intro b hb
  obtain ⟨score, hblocks⟩ := getAllBlocks_cycle_fullCache e
  rw [hblocks] at hb
  obtain ⟨b', _, rfl⟩ := List.mem_map.mp hb
  rfl

theorem lastAccesses_cycle :
    e.cycle.blockTracker.lastAccesses = e.blockTracker.lastAccesses.filter (fun a =>
      decide (a.1 ∉ dropped e.policy.config e.blockTracker)) := by
  obtain ⟨score, hblocks⟩ := getAllBlocks_cycle_fullCache e
  unfold BlockTracker.lastAccesses
  rw [hblocks, List.map_map, List.filter_map]
  have hsame : e.blockTracker.getAllBlocks.filter (fun b =>
      decide (b.blockId ∈ e.blockTracker.ids.filter (fun i =>
        decide (i ∉ dropped e.policy.config e.blockTracker)))) =
      e.blockTracker.getAllBlocks.filter ((fun a : Int × Int =>
        decide (a.1 ∉ dropped e.policy.config e.blockTracker)) ∘
          fun b => (b.blockId, b.lastAccessStep)) := by
    apply List.filter_congr
    intro b hb
    have hmem : b.blockId ∈ e.blockTracker.ids := by
      rw [← e.blockTracker.map_blockId_getAllBlocks]
      exact List.mem_map_of_mem hb
    rw [Function.comp_apply, decide_eq_decide, List.mem_filter, decide_eq_true_iff]
    exact and_iff_right hmem
  rw [hsame]
  rfl

/-- No evicted block was accessed later than one that is left. -/
theorem upperPart_cycle :
    UpperPart Prod.snd e.cycle.blockTracker.lastAccesses e.blockTracker.lastAccesses := by
  rw [lastAccesses_cycle]
  refine ⟨List.filter_sublist, ?_⟩
  intro a ha hout a' ha'
  obtain ⟨b, hb, rfl⟩ := List.mem_map.mp ha
  obtain ⟨hmem', hkept'⟩ := List.mem_filter.mp ha'
  obtain ⟨b', hb', rfl⟩ := List.mem_map.mp hmem'
  have hdropped : b.blockId ∈ dropped e.policy.config e.blockTracker := by
    by_contra hkept
    exact hout (List.mem_filter.mpr ⟨ha, decide_eq_true hkept⟩)
  have hkept : b'.blockId ∉ dropped e.policy.config e.blockTracker := of_decide_eq_true hkept'
  unfold dropped at hdropped hkept
  split at hdropped
  · exact absurd hdropped List.not_mem_nil
  · rename_i hhigh
    rw [if_neg hhigh] at hkept
    have hids := e.blockTracker.nodup_blockIds
    rw [mem_oldest_ids_iff hids hb] at hdropped
    rw [mem_oldest_ids_iff hids hb'] at hkept
    by_contra hlt
    exact hkept (mem_take_of_pairwise (pairwise_sortBy _ _) ((mem_sortBy _ _ _).mpr hb') hdropped
      hlt)

/-- Under pressure a cycle evicts its budget. -/
theorem length_ids_cycle_of_high
    (hhigh : e.policy.config.memoryPressureHigh ≤ (systemMetrics e.blockTracker).pressure) :
    e.cycle.blockTracker.ids.length =
      e.blockTracker.ids.length - max 1 (e.blockTracker.ids.length / 10) := by
  have hids := e.blockTracker.nodup_blockIds
  have hperm : (sortBy (·.lastAccessStep) e.blockTracker.getAllBlocks).Perm
      e.blockTracker.getAllBlocks := sortBy_perm _ _
  have hnodup : ((sortBy (·.lastAccessStep) e.blockTracker.getAllBlocks).map
      (·.blockId)).Nodup := (hperm.map _).nodup_iff.mpr hids
  have hcount : e.blockTracker.lastAccesses.countP (fun a =>
      decide (a.1 ∈ (oldest e.blockTracker.getAllBlocks).map (·.blockId))) =
        min (evictBudget e.blockTracker.getAllBlocks) e.blockTracker.getAllBlocks.length := by
    have hlength : (oldest e.blockTracker.getAllBlocks).length =
        min (evictBudget e.blockTracker.getAllBlocks) e.blockTracker.getAllBlocks.length := by
      rw [oldest, List.length_take, length_sortBy]
    rw [← hlength, ← countP_name_mem hnodup (oldest_sublist _), hperm.countP_eq,
      BlockTracker.lastAccesses, List.countP_map]
    rfl
  have hsplit := List.length_eq_countP_add_countP (fun a : Int × Int =>
    decide (a.1 ∈ (oldest e.blockTracker.getAllBlocks).map (·.blockId)))
    (l := e.blockTracker.lastAccesses)
  have hleft : e.cycle.blockTracker.ids.length = e.blockTracker.lastAccesses.countP (fun a =>
      decide ¬(decide (a.1 ∈ (oldest e.blockTracker.getAllBlocks).map (·.blockId)) = true)) := by
    rw [← BlockTracker.length_lastAccesses, lastAccesses_cycle, dropped,
      if_neg (not_lt.mpr hhigh), ← List.countP_eq_length_filter]
    simp only [decide_eq_true_iff]
  have hn : e.blockTracker.getAllBlocks.length = e.blockTracker.ids.length := by
    rw [← e.blockTracker.map_blockId_getAllBlocks, List.length_map]
  rw [e.blockTracker.length_lastAccesses, hcount, ← hleft, evictBudget, hn] at hsplit
  omega

theorem length_ids_cycle_of_low
    (hlow : (systemMetrics e.blockTracker).pressure < e.policy.config.memoryPressureHigh) :
    e.cycle.blockTracker.ids.length = e.blockTracker.ids.length := by
  rw [← BlockTracker.length_lastAccesses, lastAccesses_cycle, dropped, if_pos hlow,
    ← BlockTracker.length_lastAccesses]
  simp

theorem blockBytesInt8_cycle :
    e.cycle.blockTracker.blockBytesInt8 = e.blockTracker.blockBytesInt8 := by
  rw [e.blockTracker_cycle, blockBytesInt8_applyDecisions]

/-- A cycle leaves blocks in FP16 only, so the next one finds full pressure, or
nothing. -/
theorem pressure_cycle_fullCache (hbytes : 0 < e.blockTracker.blockBytesInt8)
    (hleft : e.cycle.blockTracker.getAllBlocks ≠ []) :
    (systemMetrics e.cycle.blockTracker).pressure = 1 := by
  obtain ⟨b, hb⟩ := List.exists_mem_of_ne_nil _ hleft
  have hgpu : ∀ b ∈ e.cycle.blockTracker.getAllBlocks, 0 < b.currentTier.gpuWeight := by
    intro b hb
    rw [allFp16_cycle_fullCache e b hb]
    decide
  rw [pressure_of_onGpu hgpu hb, blockBytesInt8_cycle, if_neg (by omega)]

end Cycle

/-! ## Cycle after cycle -/

section Idle

variable (e : PolicyEngine FullCachePolicy)

theorem config_idle (k : Nat) : (PolicyEngine.cycle^[k] e).policy.config = e.policy.config := by
  induction k with
  | zero => rfl
  | succ k ih => rw [Function.iterate_succ_apply', config_cycle_fullCache, ih]

theorem blockBytesInt8_idle (k : Nat) :
    (PolicyEngine.cycle^[k] e).blockTracker.blockBytesInt8 = e.blockTracker.blockBytesInt8 := by
  induction k with
  | zero => rfl
  | succ k ih => rw [Function.iterate_succ_apply', blockBytesInt8_cycle, ih]

theorem upperPart_idle (k : Nat) :
    UpperPart Prod.snd (PolicyEngine.cycle^[k] e).blockTracker.lastAccesses
      e.blockTracker.lastAccesses := by
  induction k with
  | zero => exact UpperPart.refl _ _
  | succ k ih =>
      rw [Function.iterate_succ_apply']
      exact (upperPart_cycle _).trans ih

/-- From the second cycle on every cycle evicts a tenth. -/
theorem length_ids_idle (hbytes : 0 < e.blockTracker.blockBytesInt8)
    (hhigh : e.policy.config.memoryPressureHigh ≤ 1) {k : Nat} (hk : 1 ≤ k) :
    (PolicyEngine.cycle^[k + 1] e).blockTracker.ids.length =
      (PolicyEngine.cycle^[k] e).blockTracker.ids.length -
        max 1 ((PolicyEngine.cycle^[k] e).blockTracker.ids.length / 10) := by
  obtain ⟨j, rfl⟩ : ∃ j, k = j + 1 := ⟨k - 1, by omega⟩
  have hconfig := config_idle e (j + 1)
  have hsize := blockBytesInt8_idle e j
  rw [Function.iterate_succ_apply' _ (j + 1)]
  by_cases hleft : (PolicyEngine.cycle^[j + 1] e).blockTracker.getAllBlocks = []
  · rw [PolicyEngine.cycle_of_empty hleft, (BlockTracker.getAllBlocks_eq_nil_iff _).mp hleft]
    rfl
  · apply length_ids_cycle_of_high
    rw [hconfig]
    rw [Function.iterate_succ_apply'] at hleft ⊢
    rw [pressure_cycle_fullCache _ (by omega) hleft]
    exact hhigh

/-- One block at least goes with each cycle but the first. -/
theorem length_ids_idle_le (hbytes : 0 < e.blockTracker.blockBytesInt8)
    (hhigh : e.policy.config.memoryPressureHigh ≤ 1) (k : Nat) :
    (PolicyEngine.cycle^[k + 1] e).blockTracker.ids.length ≤ e.blockTracker.ids.length - k := by
  induction k with
  | zero =>
      have hsub := (upperPart_idle e 1).sublist.length_le
      rw [BlockTracker.length_lastAccesses, BlockTracker.length_lastAccesses] at hsub
      exact hsub
  | succ k ih =>
      rw [length_ids_idle e hbytes hhigh (by omega)]
      omega

/-- Below the threshold nothing is ever evicted. -/
theorem length_ids_idle_of_low
    (hlow : 1 < e.policy.config.memoryPressureHigh) (k : Nat) :
    (PolicyEngine.cycle^[k] e).blockTracker.ids.length = e.blockTracker.ids.length := by
  induction k with
  | zero => rfl
  | succ k ih =>
      rw [Function.iterate_succ_apply', length_ids_cycle_of_low, ih]
      rw [config_idle]
      rcases pressure_eq_zero_or_one (PolicyEngine.cycle^[k] e).blockTracker with hnone | hfull
      · rw [hnone]
        linarith
      · rw [hfull]
        exact hlow

end Idle

end FullCachePolicy

/-- **A full cache without traffic drains.**

Take any tracker whose blocks have a size, and let the engine run its cycles
under `FullCachePolicy` with nothing else happening.  At any time no block that
was evicted had been accessed later than one that is left.  If the high
threshold is at most one, every cycle from the second on evicts a tenth of what
is left, at least one block, and after one cycle more than there were blocks
none is left; if it is more than one, no block is ever evicted. -/
theorem full_cache_drains_iff (e : PolicyEngine FullCachePolicy)
    (hbytes : 0 < e.blockTracker.blockBytesInt8) (hblocks : e.blockTracker.getAllBlocks ≠ []) :
    let after := fun k => (PolicyEngine.cycle^[k] e).blockTracker
    let n := fun k => (after k).ids.length
    (∀ k, UpperPart Prod.snd (after k).lastAccesses e.blockTracker.lastAccesses) ∧
    ((∃ k, (after k).getAllBlocks = []) ↔ e.policy.config.memoryPressureHigh ≤ 1) ∧
    (e.policy.config.memoryPressureHigh ≤ 1 →
      (∀ k, 1 ≤ k → n (k + 1) = n k - max 1 (n k / 10)) ∧ (after (n 0 + 1)).getAllBlocks = []) ∧
    (1 < e.policy.config.memoryPressureHigh → ∀ k, n k = n 0) := by
  intro after n
  have hdrained : e.policy.config.memoryPressureHigh ≤ 1 →
      (after (n 0 + 1)).getAllBlocks = [] := by
    intro hhigh
    have hle := FullCachePolicy.length_ids_idle_le e hbytes hhigh (n 0)
    have hzero : e.blockTracker.ids.length - n 0 = 0 := Nat.sub_self _
    rw [BlockTracker.getAllBlocks_eq_nil_iff]
    show (PolicyEngine.cycle^[n 0 + 1] e).blockTracker.ids.length = 0
    omega
  refine ⟨FullCachePolicy.upperPart_idle e, ⟨?_, fun hhigh => ⟨_, hdrained hhigh⟩⟩, ?_, ?_⟩
  · rintro ⟨k, hnone⟩
    by_contra hlow
    have hsame := FullCachePolicy.length_ids_idle_of_low e (not_le.mp hlow) k
    have hnone' := (BlockTracker.getAllBlocks_eq_nil_iff _).mp hnone
    rw [hsame] at hnone'
    exact hblocks ((BlockTracker.getAllBlocks_eq_nil_iff _).mpr hnone')
  · exact fun hhigh =>
      ⟨fun k hk => FullCachePolicy.length_ids_idle e hbytes hhigh hk, hdrained hhigh⟩
  · exact fun hlow k => FullCachePolicy.length_ids_idle_of_low e hlow k

/-- Two blocks are gone after three cycles. -/
theorem full_cache_drains_iff_two_blocks :
    let e : PolicyEngine FullCachePolicy :=
      { policy := ⟨{ config := {} }⟩, blockTracker := twoBlocks }
    (PolicyEngine.cycle^[3] e).blockTracker.getAllBlocks = [] ∧
      UpperPart Prod.snd (PolicyEngine.cycle^[1] e).blockTracker.lastAccesses
        twoBlocks.lastAccesses := by
  intro e
  have hbytes : 0 < e.blockTracker.blockBytesInt8 := by decide
  obtain ⟨hupper, -, hdrains, -⟩ := full_cache_drains_iff e hbytes (by decide)
  have hhigh : e.policy.config.memoryPressureHigh ≤ 1 := by decide +kernel
  exact ⟨(hdrains hhigh).2, hupper 1⟩

end KVOrchestrator.Ports
