import KVOrchestrator.Ports.PressureFeedback
import KVOrchestrator.Ports.SinkRetention
import KVOrchestrator.Verified.SortedEnds

/-!
# The heavy-hitter budget over two cycles

`H2OPolicy` keeps a fraction of the blocks that are tracked, and a cycle changes
how many there are: after one cycle the fraction is taken of what that cycle
left.  Survivors keep their order by id and by attention, so the second cycle
finds the same sinks and a shorter prefix of the same ranking, and it evicts what
is ranked between the two budgets and is no sink (`h2o_second_cycle_iff`).
-/

namespace KVOrchestrator.Ports

open KVOrchestrator.Verified

/-- The ids of a batch, by falling average attention. -/
def rankedIds (blocks : List BlockState) : List Int :=
  (sortByDesc (·.avgAttentionScore) blocks).map (·.blockId)

/-- `max(1, int(len(blocks) * hh_frac))` as a count. -/
def heavyBudget (cfg : PolicyConfig) (blocks : List BlockState) : Nat :=
  (heavyHitterCount cfg blocks).toNat

/-- `keep_ids` -/
def H2OPolicy.keepIds (cfg : PolicyConfig) (blocks : List BlockState) : List Int :=
  leadingIds blocks cfg.sinkTokenBlocks ++ H2OPolicy.hhIds cfg blocks

/-- The ids a batch of decisions keeps. -/
def H2OPolicy.retainedIds (cfg : PolicyConfig) (blocks : List BlockState) (m : SystemMetrics) :
    List Int :=
  if m.pressure < cfg.memoryPressureLow then blocks.map (·.blockId)
  else H2OPolicy.keepIds cfg blocks

/-- Every block ranked beyond the budget is a sink. -/
def BudgetCovers (cfg : PolicyConfig) (blocks : List BlockState) : Prop :=
  ∀ i ∈ (rankedIds blocks).drop (heavyBudget cfg blocks), i ∈ leadingIds blocks cfg.sinkTokenBlocks

instance (cfg : PolicyConfig) (blocks : List BlockState) : Decidable (BudgetCovers cfg blocks) := by
  unfold BudgetCovers
  infer_instance

theorem hhIds_eq_take (cfg : PolicyConfig) (blocks : List BlockState) :
    H2OPolicy.hhIds cfg blocks = (rankedIds blocks).take (heavyBudget cfg blocks) := by
  have hone := one_le_heavyHitterCount cfg blocks
  rw [H2OPolicy.hhIds, map_sliceTo, sliceTo_of_nonneg _ (by omega)]
  rfl

theorem rankedIds_perm (blocks : List BlockState) :
    (rankedIds blocks).Perm (blocks.map (·.blockId)) :=
  (List.perm_insertionSort _ blocks).map _

/-- The ranking depends on the ids and the scores only. -/
theorem rankedIds_eq (blocks : List BlockState) :
    rankedIds blocks = (sortByDesc Prod.snd
      (blocks.map (fun b => (b.blockId, b.avgAttentionScore)))).map Prod.fst := by
  rw [← map_sortByDesc (fun b : BlockState => (b.blockId, b.avgAttentionScore))
    (·.avgAttentionScore) Prod.snd (fun _ => rfl), List.map_map]
  rfl

/-! ## One cycle -/

/-- The verdict on a block depends on its id. -/
theorem h2o_decisions_eq (cfg : PolicyConfig) (blocks : List BlockState) (m : SystemMetrics) :
    ∃ verdict : BlockState → PolicyDecision,
      H2OPolicy.decisions cfg blocks m = blocks.map verdict ∧
      (∀ b, (verdict b).blockId = b.blockId) ∧
      ∀ b ∈ blocks, (verdict b).decision =
        if b.blockId ∈ H2OPolicy.retainedIds cfg blocks m then .keepGpu else .evict := by
  unfold H2OPolicy.decisions H2OPolicy.retainedIds
  split
  · refine ⟨_, rfl, fun _ => rfl, ?_⟩
    intro b hb
    rw [if_pos (List.mem_map_of_mem hb)]
  · refine ⟨_, rfl, ?_, ?_⟩
    · intro b
      split <;> rfl
    · intro b _
      simp only [H2OPolicy.keepIds, List.mem_append]
      split <;> rfl

section Cycle

variable (e : PolicyEngine H2OPolicy)

/-- What a cycle keeps of an engine's tracker. -/
def PolicyEngine.retained (e : PolicyEngine H2OPolicy) : List Int :=
  H2OPolicy.retainedIds e.policy.config e.blockTracker.getAllBlocks (systemMetrics e.blockTracker)

/-- A cycle leaves the retained blocks, with a new tier and importance. -/
theorem getAllBlocks_cycle_h2o :
    ∃ σ : BlockState → BlockState,
      (∀ b, (σ b).blockId = b.blockId ∧ (σ b).avgAttentionScore = b.avgAttentionScore ∧
        (σ b).currentTier = .gpuFp16) ∧
      e.cycle.blockTracker.getAllBlocks =
        (e.blockTracker.getAllBlocks.filter (fun b => decide (b.blockId ∈ e.retained))).map σ := by
  obtain ⟨verdict, hlist, hids, hdecision⟩ := h2o_decisions_eq e.policy.config
    e.blockTracker.getAllBlocks (systemMetrics e.blockTracker)
  have hcycle : e.cycleDecisions = e.blockTracker.getAllBlocks.map verdict :=
    PolicyEngine.cycleDecisions_eq_map hlist
  refine ⟨fun b => { b with
    currentTier := .gpuFp16
    importanceScore := (verdict b).score }, fun b => ⟨rfl, rfl, rfl⟩, ?_⟩
  rw [e.blockTracker_cycle, hcycle]
  exact getAllBlocks_applyDecisions_kept hids hdecision

theorem ids_cycle_h2o :
    e.cycle.blockTracker.ids = e.blockTracker.ids.filter (fun i => decide (i ∈ e.retained)) := by
  obtain ⟨σ, hσ, hblocks⟩ := getAllBlocks_cycle_h2o e
  rw [← BlockTracker.map_blockId_getAllBlocks, hblocks, List.map_map,
    ← BlockTracker.map_blockId_getAllBlocks, List.filter_map]
  apply List.map_congr_left
  intro b _
  exact (hσ b).1

/-- Survivors keep their ranking. -/
theorem rankedIds_cycle_h2o :
    rankedIds e.cycle.blockTracker.getAllBlocks =
      (rankedIds e.blockTracker.getAllBlocks).filter (fun i => decide (i ∈ e.retained)) := by
  obtain ⟨σ, hσ, hblocks⟩ := getAllBlocks_cycle_h2o e
  have hpairs : e.cycle.blockTracker.getAllBlocks.map (fun b => (b.blockId, b.avgAttentionScore)) =
      (e.blockTracker.getAllBlocks.map (fun b => (b.blockId, b.avgAttentionScore))).filter
        (fun x => decide (x.1 ∈ e.retained)) := by
    rw [hblocks, List.map_map, List.filter_map]
    apply List.map_congr_left
    intro b _
    rw [Function.comp_apply, (hσ b).1, (hσ b).2.1]
  rw [rankedIds_eq, hpairs, sortByDesc_filter, rankedIds_eq, List.filter_map]
  rfl

/-- The sinks stay the sinks. -/
theorem leadingIds_cycle_h2o (hsink : 0 ≤ e.policy.config.sinkTokenBlocks) :
    leadingIds e.cycle.blockTracker.getAllBlocks e.policy.config.sinkTokenBlocks =
      leadingIds e.blockTracker.getAllBlocks e.policy.config.sinkTokenBlocks := by
  rw [leadingIds_getAllBlocks _ hsink, leadingIds_getAllBlocks _ hsink, e.blockTracker_cycle]
  apply smallestIds_applyDecisions hsink
  apply PolicyEngine.cycleDecisions_of_decide
  · intro d hd
    cases hd
  · exact keepsLeading_h2o _ _ _

theorem allFp16_cycle_h2o : e.cycle.blockTracker.AllFp16 := by
  intro b hb
  obtain ⟨σ, hσ, hblocks⟩ := getAllBlocks_cycle_h2o e
  rw [hblocks] at hb
  obtain ⟨b', _, rfl⟩ := List.mem_map.mp hb
  exact (hσ b').2.2

theorem config_cycle_h2o : e.cycle.policy.config = e.policy.config := by
  have hkeep : ∀ (p : H2OPolicy) blocks m, p.config = e.policy.config →
      (PolicyInterface.decide p blocks m).2.config = e.policy.config := fun _ _ _ hp => hp
  exact PolicyEngine.policy_cycle_of_decide hkeep rfl

/-- A cycle evicts nothing exactly if everything tracked is retained. -/
theorem ids_cycle_h2o_eq_self_iff :
    e.cycle.blockTracker.ids = e.blockTracker.ids ↔ ∀ i ∈ e.blockTracker.ids, i ∈ e.retained := by
  rw [ids_cycle_h2o, List.filter_eq_self]
  simp only [decide_eq_true_iff]

end Cycle

/-! ## The second cycle -/

/-- Every tracked block is a sink or in the budget exactly if those beyond the
budget are sinks. -/
theorem forall_mem_keepIds_iff (cfg : PolicyConfig) (t : BlockTracker) :
    (∀ i ∈ t.ids, i ∈ H2OPolicy.keepIds cfg t.getAllBlocks) ↔ BudgetCovers cfg t.getAllBlocks := by
  have hperm : (rankedIds t.getAllBlocks).Perm t.ids := by
    rw [← t.map_blockId_getAllBlocks]
    exact rankedIds_perm t.getAllBlocks
  have hnodup : (rankedIds t.getAllBlocks).Nodup := hperm.nodup_iff.mpr t.blocks.nodup_keys
  constructor
  · intro h i hi
    have hkept := h i (hperm.mem_iff.mp (List.mem_of_mem_drop hi))
    rw [H2OPolicy.keepIds, List.mem_append, hhIds_eq_take] at hkept
    rcases hkept with hsink | hheavy
    · exact hsink
    · exact absurd hi (List.disjoint_take_drop hnodup le_rfl hheavy)
  · intro h i hi
    rw [H2OPolicy.keepIds, List.mem_append, hhIds_eq_take]
    have hranked := hperm.mem_iff.mpr hi
    rw [← List.take_append_drop (heavyBudget cfg t.getAllBlocks) (rankedIds t.getAllBlocks),
      List.mem_append] at hranked
    rcases hranked with hheavy | hbeyond
    · exact .inr hheavy
    · exact .inl (h i hbeyond)

section Second

variable (e : PolicyEngine H2OPolicy)

/-- The pressure after a cycle, as every block left is in FP16. -/
theorem pressure_cycle_h2o {b : BlockState} (hb : b ∈ e.cycle.blockTracker.getAllBlocks) :
    (systemMetrics e.cycle.blockTracker).pressure =
      if e.blockTracker.blockBytesInt8 = 0 then 0 else 1 := by
  have hgpu : ∀ b ∈ e.cycle.blockTracker.getAllBlocks, 0 < b.currentTier.gpuWeight := by
    intro b hb
    rw [allFp16_cycle_h2o e b hb]
    decide
  have hbytes : e.cycle.blockTracker.blockBytesInt8 = e.blockTracker.blockBytesInt8 := by
    rw [e.blockTracker_cycle, blockBytesInt8_applyDecisions]
  rw [pressure_of_onGpu hgpu hb, hbytes]

/-- Blocks of no size under a positive threshold: the second cycle keeps all. -/
def KeepsAllNext (e : PolicyEngine H2OPolicy) : Prop :=
  e.blockTracker.blockBytesInt8 = 0 ∧ 0 < e.policy.config.memoryPressureLow

/-- The second cycle evicts nothing exactly if it does not select, or the budget
of what is left covers it. -/
theorem ids_second_cycle_eq_iff (hlow : e.policy.config.memoryPressureLow ≤ 1) :
    e.cycle.cycle.blockTracker.ids = e.cycle.blockTracker.ids ↔
      KeepsAllNext e ∨ BudgetCovers e.policy.config e.cycle.blockTracker.getAllBlocks := by
  rw [ids_cycle_h2o_eq_self_iff, ← forall_mem_keepIds_iff]
  unfold PolicyEngine.retained
  rw [config_cycle_h2o]
  by_cases hblocks : e.cycle.blockTracker.getAllBlocks = []
  · have hids : e.cycle.blockTracker.ids = [] := by
      rw [← BlockTracker.map_blockId_getAllBlocks, hblocks]
      rfl
    rw [hids]
    exact iff_of_true (fun i hi => absurd hi List.not_mem_nil)
      (.inr (fun i hi => absurd hi List.not_mem_nil))
  · obtain ⟨b, hb⟩ := List.exists_mem_of_ne_nil _ hblocks
    have hpressure := pressure_cycle_h2o e hb
    by_cases hkeeps : KeepsAllNext e
    · have hguard : (systemMetrics e.cycle.blockTracker).pressure <
          e.policy.config.memoryPressureLow := by
        rw [hpressure, if_pos hkeeps.1]
        exact hkeeps.2
      apply iff_of_true _ (.inl hkeeps)
      intro i hi
      rwa [H2OPolicy.retainedIds, if_pos hguard, BlockTracker.map_blockId_getAllBlocks]
    · have hguard : ¬(systemMetrics e.cycle.blockTracker).pressure <
          e.policy.config.memoryPressureLow := by
        rw [hpressure]
        split
        · rename_i hbytes
          exact fun hpos => hkeeps ⟨hbytes, hpos⟩
        · exact not_lt.mpr hlow
      rw [H2OPolicy.retainedIds, if_neg hguard, or_iff_right hkeeps]

/-- A cycle that selects is followed by one that selects. -/
theorem not_keepsAllNext (hm : e.policy.config.memoryPressureLow ≤
    (systemMetrics e.blockTracker).pressure) : ¬KeepsAllNext e := by
  rintro ⟨hbytes, hpos⟩
  rw [pressure_of_bytes_zero hbytes] at hm
  exact absurd hpos (not_lt.mpr hm)

/-- After a cycle that selects, what is at stake lies between the budgets. -/
theorem budgetCovers_cycle_iff (hsink : 0 ≤ e.policy.config.sinkTokenBlocks)
    (hm : e.policy.config.memoryPressureLow ≤ (systemMetrics e.blockTracker).pressure) :
    BudgetCovers e.policy.config e.cycle.blockTracker.getAllBlocks ↔
      ∀ i ∈ ((rankedIds e.blockTracker.getAllBlocks).take
          (heavyBudget e.policy.config e.blockTracker.getAllBlocks)).drop
            (heavyBudget e.policy.config e.cycle.blockTracker.getAllBlocks),
        i ∈ leadingIds e.blockTracker.getAllBlocks e.policy.config.sinkTokenBlocks := by
  have hretained : e.retained = H2OPolicy.keepIds e.policy.config e.blockTracker.getAllBlocks :=
    if_neg (not_lt.mpr hm)
  have hnodup : (rankedIds e.blockTracker.getAllBlocks).Nodup :=
    (rankedIds_perm _).nodup_iff.mpr e.blockTracker.nodup_blockIds
  rw [BudgetCovers, leadingIds_cycle_h2o e hsink, rankedIds_cycle_h2o, hretained,
    H2OPolicy.keepIds, hhIds_eq_take]
  exact forall_mem_drop_filter_iff hnodup _ _ _

/-- No more blocks are left in peace than sinks and the budget of what is left. -/
theorem length_le_of_budgetCovers {cfg : PolicyConfig} (hsink : 0 ≤ cfg.sinkTokenBlocks)
    {t : BlockTracker} (h : BudgetCovers cfg t.getAllBlocks) :
    t.ids.length ≤ cfg.sinkTokenBlocks.toNat + heavyBudget cfg t.getAllBlocks := by
  have hsub : t.ids.Subperm (H2OPolicy.keepIds cfg t.getAllBlocks) :=
    List.Nodup.subperm t.blocks.nodup_keys ((forall_mem_keepIds_iff cfg t).mpr h)
  have hlength := hsub.length_le
  rw [H2OPolicy.keepIds, List.length_append, leadingIds_getAllBlocks t hsink, length_smallestIds,
    hhIds_eq_take, List.length_take] at hlength
  omega

end Second

/-- **A second cycle of `H2OPolicy` evicts what the shrunken budget leaves out.**

Take any tracker, a threshold `memory_pressure_low` of at most one, and two
cycles with nothing in between.  The second one evicts no block exactly if
blocks have no size and the threshold is positive, or every block that is left
and ranked beyond the budget of what is left is a sink.  If the first cycle
selects, these are the blocks ranked before it beyond the new budget and within
the old one; and what a second cycle leaves alone is no more than the sinks and
the new budget. -/
theorem h2o_second_cycle_iff (e : PolicyEngine H2OPolicy)
    (hlow : e.policy.config.memoryPressureLow ≤ 1) :
    let cfg := e.policy.config
    let blocks := e.blockTracker.getAllBlocks
    let left := e.cycle.blockTracker.getAllBlocks
    (e.cycle.cycle.blockTracker.ids = e.cycle.blockTracker.ids ↔
      KeepsAllNext e ∨ BudgetCovers cfg left) ∧
    (0 ≤ cfg.sinkTokenBlocks → cfg.memoryPressureLow ≤ (systemMetrics e.blockTracker).pressure →
      (e.cycle.cycle.blockTracker.ids = e.cycle.blockTracker.ids ↔
        ∀ i ∈ ((rankedIds blocks).take (heavyBudget cfg blocks)).drop (heavyBudget cfg left),
          i ∈ leadingIds blocks cfg.sinkTokenBlocks) ∧
      (e.cycle.cycle.blockTracker.ids = e.cycle.blockTracker.ids →
        left.length ≤ cfg.sinkTokenBlocks.toNat + heavyBudget cfg left)) := by
  intro cfg blocks left
  have hsecond := ids_second_cycle_eq_iff e hlow
  refine ⟨hsecond, ?_⟩
  intro hsink hm
  have hcovers : e.cycle.cycle.blockTracker.ids = e.cycle.blockTracker.ids ↔
      BudgetCovers cfg left := hsecond.trans (or_iff_right (not_keepsAllNext e hm))
  constructor
  · exact hcovers.trans (budgetCovers_cycle_iff e hsink hm)
  · intro hsame
    have hlength := length_le_of_budgetCovers hsink (hcovers.mp hsame)
    rwa [← BlockTracker.map_blockId_getAllBlocks, List.length_map] at hlength

/-- Registrations of the ids below `n`, and attention for the greatest two. -/
def fadingRun (n : Nat) : List (EngineOp H2OPolicy) :=
  (List.range n).map (fun i => .registerBlock i 0 0 "r") ++
    [.updateAttention (n - 2 : Int) [some (4 / 5)], .updateAttention (n - 1 : Int) [some (9 / 10)]]

/-- An engine of the default configuration after such a run. -/
def fadingEngine (n : Nat) : PolicyEngine H2OPolicy :=
  run PolicyEngine.perform (PolicyEngine.init ⟨{ config := {} }⟩ 2 4 16 128) (fadingRun n)

/-- Five blocks are four sinks and one heavy hitter. -/
theorem h2o_second_cycle_iff_five_blocks :
    (fadingEngine 5).cycle.blockTracker.ids = [0, 1, 2, 3, 4] ∧
      (fadingEngine 5).cycle.cycle.blockTracker.ids = (fadingEngine 5).cycle.blockTracker.ids := by
  have hcovers : BudgetCovers (fadingEngine 5).policy.config
      (fadingEngine 5).cycle.blockTracker.getAllBlocks := by
    decide +kernel
  have hsecond := h2o_second_cycle_iff (fadingEngine 5) (by decide +kernel)
  exact ⟨by decide +kernel, hsecond.1.mpr (.inr hcovers)⟩

/-- Ten blocks have two heavy hitters, the six that are left have one. -/
theorem h2o_second_cycle_evicts :
    (fadingEngine 10).policy.config.memoryPressureLow ≤ 1 ∧
      (fadingEngine 10).cycle.blockTracker.ids = [0, 1, 2, 3, 8, 9] ∧
      (fadingEngine 10).cycle.cycle.blockTracker.ids = [0, 1, 2, 3, 9] ∧
      (fadingEngine 10).cycle.cycle.blockTracker.ids ≠
        (fadingEngine 10).cycle.blockTracker.ids := by
  decide +kernel

end KVOrchestrator.Ports
