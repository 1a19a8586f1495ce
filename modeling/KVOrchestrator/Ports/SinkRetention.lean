import KVOrchestrator.Ports.TrackerUpdates
import KVOrchestrator.Ports.BuiltinPolicy
import KVOrchestrator.Verified.SortedEnds

/-!
# Sinks are never lost

Four policies protect the first `sink_token_blocks` blocks by position.  Each of
them computes the ids from the blocks that are tracked at the time, so nothing
in the code says that they are the same ones in the next cycle.  They are: a
cycle keeps the smallest ids and evicts from the others only, an update keeps
all ids, and a block that arrives last has the largest id
(`smallestIds_perform`).

That the sinks are also in FP16 needs a decision on each of them.  The policies
that ask a model pair blocks with its scores, and a ranker returns one score for
each row of its input (`ScoresEveryRow`).
-/

namespace KVOrchestrator.Ports

open KVOrchestrator.Verified

/-! ## Decision lists that keep the leading ids -/

/-- Decisions on leading ids keep them on the GPU. -/
def KeepsLeading (n : Int) (blocks : List BlockState) (decisions : List PolicyDecision) : Prop :=
  ∀ d ∈ decisions, d.blockId ∈ leadingIds blocks n → d.decision = .keepGpu

theorem keepsLeading_map {α : Type} {n : Int} {blocks : List BlockState} {l : List α}
    {g : α → PolicyDecision} (name : α → Int) (hname : ∀ a, (g a).blockId = name a)
    (hg : ∀ a, name a ∈ leadingIds blocks n → (g a).decision = .keepGpu) :
    KeepsLeading n blocks (l.map g) := by
  intro d hd hlead
  obtain ⟨a, _, rfl⟩ := List.mem_map.mp hd
  rw [hname] at hlead
  exact hg a hlead

theorem keepsLeading_keepAll (n : Int) (blocks : List BlockState) :
    KeepsLeading n blocks (keepAll blocks) :=
  keepsLeading_map _ (fun _ => rfl) (fun _ _ => rfl)

theorem keepsLeading_slidingWindow (cfg : PolicyConfig) (blocks : List BlockState)
    (m : SystemMetrics) :
    KeepsLeading cfg.sinkTokenBlocks blocks (SlidingWindowPolicy.decisions cfg blocks m) := by
  unfold SlidingWindowPolicy.decisions
  split
  · exact keepsLeading_keepAll _ blocks
  · apply keepsLeading_map (fun b : BlockState => b.blockId)
    · intro b
      split <;> rfl
    · intro b hlead
      rw [leadingIds] at hlead
      rw [if_pos (List.mem_append_left _ hlead)]

theorem keepsLeading_h2o (cfg : PolicyConfig) (blocks : List BlockState) (m : SystemMetrics) :
    KeepsLeading cfg.sinkTokenBlocks blocks (H2OPolicy.decisions cfg blocks m) := by
  unfold H2OPolicy.decisions
  split
  · exact keepsLeading_keepAll _ blocks
  · apply keepsLeading_map (fun b : BlockState => b.blockId)
    · intro b
      split <;> rfl
    · intro b hlead
      rw [if_pos (.inl hlead)]

section Scored

variable [Numerics]

theorem keepsLeading_hybrid (p : HybridAdaptivePolicy) (blocks : List BlockState)
    (m : SystemMetrics) :
    KeepsLeading p.config.sinkTokenBlocks blocks (p.decisions blocks m) := by
  unfold HybridAdaptivePolicy.decisions
  split
  · exact keepsLeading_keepAll _ blocks
  · split
    · apply keepsLeading_map (fun x : BlockState × ℚ => x.1.blockId)
      · exact HybridAdaptivePolicy.blockId_mediumDecision _ _
      · intro x hlead
        rw [HybridAdaptivePolicy.decision_mediumDecision]
        exact if_pos hlead
    · apply keepsLeading_map (fun x : BlockState × ℚ => x.1.blockId)
      · exact HybridAdaptivePolicy.blockId_highDecision _ _ _
      · intro x hlead
        rw [HybridAdaptivePolicy.decision_highDecision]
        exact if_pos (.inl hlead)

theorem keepsLeading_learned (p : LearnedPolicy) (blocks : List BlockState)
    (m : SystemMetrics) :
    KeepsLeading p.config.sinkTokenBlocks blocks (p.decisions blocks m) := by
  unfold LearnedPolicy.decisions
  split
  · exact keepsLeading_keepAll _ blocks
  · apply keepsLeading_map (fun x : BlockState × ℚ => x.1.blockId)
    · exact LearnedPolicy.blockId_blockDecision _ _
    · intro x hlead
      rw [LearnedPolicy.blockDecision, if_pos hlead]

end Scored

/-! ## A score for every block -/

/-- The ranker returns one score for each row, whenever it returns. -/
def LearnedPolicy.ScoresEveryRow (p : LearnedPolicy) : Prop :=
  ∀ model, p.model = some model → ∀ x raw, model.predict x = .ok raw → raw.length = x.length

namespace LearnedPolicy

theorem length_normalise {n : Nat} {raw : List ℚ} (hraw : raw.length = n) (lo hi : ℚ) :
    (normalise n raw lo hi).length = n := by
  unfold normalise
  split
  · rw [List.length_map, hraw]
  · rw [List.length_replicate]

variable [Numerics] {p : LearnedPolicy} {blocks : List BlockState} {m : SystemMetrics}

/-- Scores that come from the model are its predictions, normalised by their
extremes. -/
theorem exists_raw_of_modelScores {scores : List ℚ}
    (hscores : p.modelScores blocks m = .ok scores) :
    ∃ raw lo hi, p.rawPredictions blocks m = .ok raw ∧ raw.min? = some lo ∧
      raw.max? = some hi ∧ scores = normalise blocks.length raw lo hi := by
  unfold modelScores at hscores
  cases hraw : p.rawPredictions blocks m with
  | error e =>
      rw [hraw] at hscores
      cases hscores
  | ok raw =>
      rw [hraw] at hscores
      cases hlo : raw.min? with
      | none => simp [bind, Except.bind, hlo] at hscores
      | some lo =>
          cases hhi : raw.max? with
          | none => simp [bind, Except.bind, hlo, hhi] at hscores
          | some hi =>
              simp only [bind, Except.bind, hlo, hhi] at hscores
              exact ⟨raw, lo, hi, rfl, hlo, hhi, (Except.ok.inj hscores).symm⟩

theorem ScoresEveryRow.length_rawPredictions (hp : p.ScoresEveryRow) (hblocks : blocks ≠ [])
    {raw : List ℚ} (hraw : p.rawPredictions blocks m = .ok raw) :
    raw.length = blocks.length := by
  cases hmodel : p.model with
  | none =>
      rw [rawPredictions, FeatureExtractor.extractBatch_computeBatchStats _ hblocks m (by decide),
        hmodel] at hraw
      cases hraw
  | some model =>
      rw [rawPredictions_eq hmodel hblocks] at hraw
      rw [hp model hmodel _ _ hraw, List.length_map]

/-- Every block has a score: the model's, or the fallback's. -/
theorem ScoresEveryRow.length_scoreBlocks (hp : p.ScoresEveryRow) (hblocks : blocks ≠ []) :
    (p.scoreBlocks blocks m).length = blocks.length := by
  cases hscores : p.modelScores blocks m with
  | error e =>
      rw [scoreBlocks, hscores]
      exact List.length_map _
  | ok scores =>
      obtain ⟨raw, lo, hi, hraw, _, _, hnorm⟩ := exists_raw_of_modelScores hscores
      rw [scoreBlocks, hscores, hnorm]
      exact length_normalise (hp.length_rawPredictions hblocks hraw) lo hi

end LearnedPolicy

/-- The ranker the policy asks, if it asks one, scores every row. -/
def BuiltinPolicy.ScoresEveryRow : BuiltinPolicy → Prop
  | .learned p => p.ScoresEveryRow
  | .hybrid p => ∀ lp, p.learnedPolicy = some lp → lp.ScoresEveryRow
  | .fullCache _ => True
  | .slidingWindow _ => True
  | .h2o _ => True
  | .prefixCaching _ => True
  | .quantizeOnly _ => True
  | .offloadOnly _ => True

theorem HybridAdaptivePolicy.length_scoreAll [Numerics] {p : HybridAdaptivePolicy}
    (hp : ∀ lp, p.learnedPolicy = some lp → lp.ScoresEveryRow) {blocks : List BlockState}
    (hblocks : blocks ≠ []) (m : SystemMetrics) :
    (p.scoreAll blocks m).length = blocks.length := by
  unfold scoreAll
  cases hlearned : p.learnedPolicy with
  | none => exact List.length_map _
  | some lp =>
      simp only []
      split
      · exact (hp lp hlearned).length_scoreBlocks hblocks
      · exact List.length_map _

/-! ## The four policies -/

/-- The policies that protect sinks. -/
def BuiltinPolicy.KeepsSinks : BuiltinPolicy → Prop
  | .slidingWindow _ => True
  | .h2o _ => True
  | .hybrid _ => True
  | .learned _ => True
  | .fullCache _ => False
  | .prefixCaching _ => False
  | .quantizeOnly _ => False
  | .offloadOnly _ => False

namespace BuiltinPolicy

variable [Numerics] {p : BuiltinPolicy}

theorem KeepsSinks.keepsLeading (hp : p.KeepsSinks) (blocks : List BlockState)
    (m : SystemMetrics) :
    KeepsLeading p.config.sinkTokenBlocks blocks (PolicyInterface.decide p blocks m).1 := by
  cases p with
  | slidingWindow p => exact keepsLeading_slidingWindow p.config blocks m
  | h2o p => exact keepsLeading_h2o p.config blocks m
  | hybrid p => exact keepsLeading_hybrid p blocks m
  | learned p =>
      cases hready : p.isReady with
      | false =>
          rw [decide_learned_of_not_ready hready]
          exact keepsLeading_h2o p.config blocks m
      | true =>
          rw [decide_learned_of_ready hready]
          exact keepsLeading_learned p blocks m
  | fullCache | prefixCaching | quantizeOnly | offloadOnly => exact hp.elim

/-- They decide on every block. -/
theorem KeepsSinks.blockIds_decide (hp : p.KeepsSinks) (hscores : p.ScoresEveryRow)
    {blocks : List BlockState} (hblocks : blocks ≠ []) (m : SystemMetrics) :
    (PolicyInterface.decide p blocks m).1.map (·.blockId) = blocks.map (·.blockId) := by
  cases p with
  | slidingWindow p => exact blockIds_slidingWindow p.config blocks m
  | h2o p => exact blockIds_h2o p.config blocks m
  | hybrid p =>
      rcases blockIds_hybrid_eq p blocks m with hall | hscored
      · exact hall
      · exact hscored.trans
          (names_zip_of_length _ (HybridAdaptivePolicy.length_scoreAll hscores hblocks m))
  | learned p =>
      cases hready : p.isReady with
      | false =>
          rw [decide_learned_of_not_ready hready]
          exact blockIds_h2o p.config blocks m
      | true =>
          rw [decide_learned_of_ready hready]
          rcases blockIds_learned_eq p blocks m with hall | hscored
          · exact hall
          · exact hscored.trans (names_zip_of_length _
              (LearnedPolicy.ScoresEveryRow.length_scoreBlocks hscores hblocks))
  | fullCache | prefixCaching | quantizeOnly | offloadOnly => exact hp.elim

end BuiltinPolicy

/-- A policy that protects `k` sinks. -/
structure ProtectsSinks (k : Int) (p : BuiltinPolicy) : Prop where
  keepsSinks : p.KeepsSinks
  sinkTokenBlocks : p.config.sinkTokenBlocks = k

/-- Deciding changes the bookkeeping of a policy only. -/
theorem ProtectsSinks.decide [Numerics] {k : Int} {p : BuiltinPolicy} (h : ProtectsSinks k p)
    (blocks : List BlockState) (m : SystemMetrics) :
    ProtectsSinks k (PolicyInterface.decide p blocks m).2 := by
  obtain ⟨hp, hk⟩ := h
  cases p with
  | slidingWindow | h2o | hybrid => exact ⟨trivial, hk⟩
  | learned p =>
      refine ⟨trivial, ?_⟩
      show (PolicyInterface.decide p blocks m).2.config.sinkTokenBlocks = k
      simp only [PolicyInterface.decide]
      split <;> exact hk
  | fullCache | prefixCaching | quantizeOnly | offloadOnly => exact hp.elim

theorem BuiltinPolicy.ScoresEveryRow.decide [Numerics] {p : BuiltinPolicy}
    (h : p.ScoresEveryRow) (blocks : List BlockState) (m : SystemMetrics) :
    (PolicyInterface.decide p blocks m).2.ScoresEveryRow := by
  cases p with
  | learned p =>
      show (PolicyInterface.decide p blocks m).2.ScoresEveryRow
      simp only [PolicyInterface.decide]
      split <;> exact h
  | fullCache | slidingWindow | h2o | prefixCaching | quantizeOnly | offloadOnly | hybrid =>
      exact h

/-! ## The smallest ids -/

/-- The `k` smallest tracked ids, in increasing order. -/
def smallestIds (k : Nat) (t : BlockTracker) : List Int := (sortBy id t.ids).take k

theorem mem_ids_of_mem_smallestIds {k : Nat} {t : BlockTracker} {i : Int}
    (hi : i ∈ smallestIds k t) : i ∈ t.ids :=
  (mem_sortBy id t.ids i).mp (List.mem_of_mem_take hi)

theorem length_smallestIds {k : Nat} {t : BlockTracker} :
    (smallestIds k t).length = min k t.ids.length := by
  rw [smallestIds, List.length_take, length_sortBy]

/-- The code's sinks are the smallest ids. -/
theorem leadingIds_getAllBlocks (t : BlockTracker) {n : Int} (hn : 0 ≤ n) :
    leadingIds t.getAllBlocks n = smallestIds n.toNat t := by
  rw [leadingIds_eq, t.map_blockId_getAllBlocks, sliceTo_of_nonneg _ hn, smallestIds]

/-- A block that arrives last is not among the smallest. -/
theorem smallestIds_registerBlock {k : Nat} {t : BlockTracker} (hk : k ≤ t.ids.length)
    {blockId : Int} (hlast : ∀ i ∈ t.ids, i < blockId) (layerId headGroup : Int)
    (requestId : String) :
    smallestIds k (t.registerBlock blockId layerId headGroup requestId) = smallestIds k t := by
  have hnew : blockId ∉ t.ids := fun hmem => lt_irrefl _ (hlast blockId hmem)
  have hids : (t.registerBlock blockId layerId headGroup requestId).ids = t.ids ++ [blockId] :=
    OrdDict.keys_set_of_not_mem hnew _
  rw [smallestIds, hids, sortBy_id_append (fun i hi => (hlast i hi).le),
    List.take_append_of_le_length (by rwa [length_sortBy]), smallestIds]

/-- An update keeps all ids. -/
theorem ids_onTracker_of_isUpdate {π : Type} {op : EngineOp π} (hop : op.IsUpdate)
    (t : BlockTracker) : (op.onTracker t).ids = t.ids := by
  obtain ⟨σ, hσ, _, hblocks, _⟩ := hop.getAllBlocks_onTracker t
  rw [← BlockTracker.map_blockId_getAllBlocks, hblocks, List.map_map,
    ← BlockTracker.map_blockId_getAllBlocks]
  apply List.map_congr_left
  intro b _
  exact hσ.blockId b

/-- A pass that keeps the leading blocks evicts from the others only. -/
theorem smallestIds_applyDecisions {n : Int} (hn : 0 ≤ n) {t : BlockTracker}
    {decisions : List PolicyDecision} (hkeep : KeepsLeading n t.getAllBlocks decisions) :
    smallestIds n.toNat (applyDecisions t decisions) = smallestIds n.toNat t := by
  rw [smallestIds, ids_applyDecisions, sortBy_id_filter]
  apply take_filter_of_forall
  intro i hi
  apply decide_eq_true
  intro hevicted
  obtain ⟨d, hd, hid, hevict⟩ := hevicted
  have hlead : d.blockId ∈ leadingIds t.getAllBlocks n := by
    rw [leadingIds_getAllBlocks t hn, hid]
    exact hi
  rw [hkeep d hd hlead] at hevict
  cases hevict

/-- A kept sink ends up in FP16. -/
theorem currentTier_applyDecisions_of_kept {n : Int} (hn : 0 ≤ n) {t : BlockTracker}
    {decisions : List PolicyDecision} (hkeep : KeepsLeading n t.getAllBlocks decisions)
    (hall : decisions.map (·.blockId) = t.getAllBlocks.map (·.blockId)) {i : Int}
    (hi : i ∈ smallestIds n.toNat t) :
    ((applyDecisions t decisions).getBlock i).map (·.currentTier) = some .gpuFp16 := by
  have hnodup : (decisions.map (·.blockId)).Nodup := hall ▸ t.nodup_blockIds
  have hids := mem_ids_of_mem_smallestIds hi
  rw [← t.map_blockId_getAllBlocks, ← hall, List.mem_map] at hids
  obtain ⟨d, hd, rfl⟩ := hids
  have hlead : d.blockId ∈ leadingIds t.getAllBlocks n := by
    rw [leadingIds_getAllBlocks t hn]
    exact hi
  have hdecision := hkeep d hd hlead
  have hmem : d.blockId ∈ t.getAllBlocks.map (·.blockId) := hall ▸ List.mem_map_of_mem hd
  obtain ⟨b, hb, hbid⟩ := List.mem_map.mp hmem
  rw [getBlock_applyDecisions, (t.getBlock_eq_some_iff _ _).mpr ⟨hb, hbid⟩, Option.bind_some,
    replay_of_nodup hnodup, hbid, decisionFor_of_mem hnodup hd]
  simp [PolicyDecision.outcome, hdecision, BlockDecision.tier]

/-! ## Runs -/

/-- A block arrives with an id beyond all tracked ones (as one beyond all ids
ever tracked is), a tracked block is updated, or the engine runs a cycle. -/
def Arrives (e : PolicyEngine BuiltinPolicy) : EngineOp BuiltinPolicy → Prop
  | .registerBlock blockId _ _ _ => ∀ i ∈ e.blockTracker.ids, i < blockId
  | .updateAttention _ _ => True
  | .markAccessed _ _ => True
  | .updateMemorySnapshot _ _ _ => True
  | .markPrefixReuse _ _ => True
  | .incrementAge _ => True
  | .runPolicyCycle => True
  | .evictBlock _ => False
  | .releaseRequestBlocks _ => False
  | .overridePolicy _ => False

instance (e : PolicyEngine BuiltinPolicy) : ∀ op, Decidable (Arrives e op)
  | .registerBlock blockId _ _ _ =>
      inferInstanceAs (Decidable (∀ i ∈ e.blockTracker.ids, i < blockId))
  | .updateAttention _ _ => .isTrue trivial
  | .markAccessed _ _ => .isTrue trivial
  | .updateMemorySnapshot _ _ _ => .isTrue trivial
  | .markPrefixReuse _ _ => .isTrue trivial
  | .incrementAge _ => .isTrue trivial
  | .runPolicyCycle => .isTrue trivial
  | .evictBlock _ => .isFalse id
  | .releaseRequestBlocks _ => .isFalse id
  | .overridePolicy _ => .isFalse id

section Runs

variable [Numerics] {e : PolicyEngine BuiltinPolicy} {op : EngineOp BuiltinPolicy}

/-- What deciding keeps of a policy, a step keeps. -/
theorem policy_perform_of_arrives {P : BuiltinPolicy → Prop}
    (hP : ∀ p blocks m, P p → P (PolicyInterface.decide p blocks m).2) (hop : Arrives e op)
    (h : P e.policy) : P (e.perform op).policy := by
  cases op with
  | runPolicyCycle =>
      show P e.cycle.policy
      exact PolicyEngine.policy_cycle_of_decide hP h
  | evictBlock | releaseRequestBlocks | overridePolicy => exact hop.elim
  | registerBlock | updateAttention | markAccessed | updateMemorySnapshot | markPrefixReuse
  | incrementAge => exact h

theorem ProtectsSinks.keepsLeading_cycle {k : Int} (h : ProtectsSinks k e.policy) :
    KeepsLeading k e.blockTracker.getAllBlocks e.cycleDecisions := by
  apply PolicyEngine.cycleDecisions_of_decide
  · intro d hd
    cases hd
  · rw [← h.sinkTokenBlocks]
    exact h.keepsSinks.keepsLeading _ _

/-- One step keeps the smallest ids. -/
theorem smallestIds_perform {k : Int} (hk : 0 ≤ k) (h : ProtectsSinks k e.policy)
    (hmany : k.toNat ≤ e.blockTracker.ids.length) (hop : Arrives e op) :
    smallestIds k.toNat (e.perform op).blockTracker = smallestIds k.toNat e.blockTracker := by
  have hupdate : op.IsUpdate →
      smallestIds k.toNat (op.onTracker e.blockTracker) = smallestIds k.toNat e.blockTracker := by
    intro hop
    rw [smallestIds, smallestIds, ids_onTracker_of_isUpdate hop]
  cases op with
  | registerBlock blockId layerId headGroup requestId =>
      exact smallestIds_registerBlock hmany hop layerId headGroup requestId
  | runPolicyCycle =>
      show smallestIds k.toNat e.cycle.blockTracker = _
      rw [e.blockTracker_cycle]
      exact smallestIds_applyDecisions hk h.keepsLeading_cycle
  | updateAttention | markAccessed | updateMemorySnapshot | markPrefixReuse | incrementAge =>
      exact hupdate trivial
  | evictBlock | releaseRequestBlocks | overridePolicy => exact hop.elim

/-- The sinks of a state are held: the policy protects them, and they are the
smallest tracked ids. -/
structure HoldsSinks (k : Int) (sinks : List Int) (e : PolicyEngine BuiltinPolicy) : Prop where
  policy : ProtectsSinks k e.policy
  many : k.toNat ≤ e.blockTracker.ids.length
  smallest : smallestIds k.toNat e.blockTracker = sinks

theorem HoldsSinks.perform {k : Int} (hk : 0 ≤ k) {sinks : List Int}
    (h : HoldsSinks k sinks e) (hop : Arrives e op) : HoldsSinks k sinks (e.perform op) := by
  have hsame := smallestIds_perform hk h.policy h.many hop
  constructor
  · exact policy_perform_of_arrives (fun _ blocks m hp => hp.decide blocks m) hop h.policy
  · have hlen := congrArg List.length hsame
    rw [length_smallestIds, length_smallestIds] at hlen
    have hmany := h.many
    omega
  · rw [hsame, h.smallest]

theorem policy_run_of_arrives {P : BuiltinPolicy → Prop}
    (hP : ∀ p blocks m, P p → P (PolicyInterface.decide p blocks m).2)
    {ops : List (EngineOp BuiltinPolicy)} (hrun : StepsMeet PolicyEngine.perform Arrives e ops)
    (h : P e.policy) : P (run PolicyEngine.perform e ops).policy := by
  have hstep : ∀ (e : PolicyEngine BuiltinPolicy) op, Arrives e op → P e.policy →
      P (e.perform op).policy := by
    intro e op hop h
    exact policy_perform_of_arrives hP hop h
  exact run_of_stepsMeet hstep ops e hrun h

theorem HoldsSinks.run {k : Int} (hk : 0 ≤ k) {sinks : List Int} (h : HoldsSinks k sinks e)
    {ops : List (EngineOp BuiltinPolicy)}
    (hrun : StepsMeet PolicyEngine.perform Arrives e ops) :
    HoldsSinks k sinks (run PolicyEngine.perform e ops) := by
  have hstep : ∀ (e : PolicyEngine BuiltinPolicy) op, Arrives e op → HoldsSinks k sinks e →
      HoldsSinks k sinks (e.perform op) := by
    intro e op hop h
    exact h.perform hk hop
  exact run_of_stepsMeet hstep ops e hrun h

/-- Where the sinks are held, a cycle puts them into FP16. -/
theorem HoldsSinks.currentTier_cycle {k : Int} (hk : 0 ≤ k) {sinks : List Int}
    (h : HoldsSinks k sinks e) (hscores : e.policy.ScoresEveryRow) {i : Int} (hi : i ∈ sinks) :
    (e.cycle.blockTracker.getBlock i).map (·.currentTier) = some .gpuFp16 := by
  rw [← h.smallest] at hi
  have hblocks : e.blockTracker.getAllBlocks ≠ [] := by
    intro hempty
    have hids := mem_ids_of_mem_smallestIds hi
    rw [← e.blockTracker.map_blockId_getAllBlocks, hempty] at hids
    cases hids
  have hall : e.cycleDecisions.map (·.blockId) = e.blockTracker.getAllBlocks.map (·.blockId) := by
    rw [PolicyEngine.cycleDecisions_of_ne_nil hblocks]
    exact h.policy.keepsSinks.blockIds_decide hscores hblocks _
  rw [e.blockTracker_cycle]
  exact currentTier_applyDecisions_of_kept hk h.policy.keepsLeading_cycle hall hi

end Runs

/-- **Sinks are never lost.**

Take an engine with the sliding window, the heavy-hitter, the hybrid or the
learned policy, and any run of cycles, updates and registrations of ids beyond
all tracked ones.  Once `k` blocks are tracked, the `k` smallest ids stay
tracked and stay the `k` smallest in every later state, and after every cycle
each of them is in FP16, provided that the ranker, if the policy asks one,
scores every row. -/
theorem sinks_never_lost [Numerics] (e : PolicyEngine BuiltinPolicy)
    (hpolicy : e.policy.KeepsSinks) (hsink : 0 ≤ e.policy.config.sinkTokenBlocks)
    (before after : List (EngineOp BuiltinPolicy))
    (hrun : StepsMeet PolicyEngine.perform Arrives e (before ++ after)) :
    let k := e.policy.config.sinkTokenBlocks.toNat
    let now := run PolicyEngine.perform e before
    let later := run PolicyEngine.perform e (before ++ after)
    k ≤ now.blockTracker.ids.length →
      (∀ i ∈ smallestIds k now.blockTracker, i ∈ later.blockTracker.ids) ∧
      smallestIds k later.blockTracker = smallestIds k now.blockTracker ∧
      (e.policy.ScoresEveryRow → ∀ i ∈ smallestIds k now.blockTracker,
        (later.cycle.blockTracker.getBlock i).map (·.currentTier) = some .gpuFp16) := by
  intro k now later hmany
  obtain ⟨hbefore, hafter⟩ := (stepsMeet_append before after e).mp hrun
  have hlater : later = run PolicyEngine.perform now after := List.foldl_append
  have hprotects : ProtectsSinks e.policy.config.sinkTokenBlocks now.policy :=
    policy_run_of_arrives (fun _ blocks m hp => hp.decide blocks m) hbefore ⟨hpolicy, rfl⟩
  have hnow : HoldsSinks e.policy.config.sinkTokenBlocks (smallestIds k now.blockTracker) now :=
    ⟨hprotects, hmany, rfl⟩
  have hheld : HoldsSinks e.policy.config.sinkTokenBlocks (smallestIds k now.blockTracker)
      later := by
    rw [hlater]
    exact hnow.run hsink hafter
  refine ⟨?_, hheld.smallest, ?_⟩
  · intro i hi
    rw [← hheld.smallest] at hi
    exact mem_ids_of_mem_smallestIds hi
  · intro hscores i hi
    have hlaterScores : later.policy.ScoresEveryRow :=
      policy_run_of_arrives (fun _ blocks m hp => hp.decide blocks m) hrun hscores
    exact hheld.currentTier_cycle hsink hlaterScores hi

/-- Two sinks under a ranker that scores every row of its input alike. -/
def constantRanker : LearnedPolicy where
  config := { sinkTokenBlocks := 2 }
  model := some { predict := fun rows => .ok (rows.map (fun _ => 1)) }

def arrivals : List (EngineOp BuiltinPolicy) :=
  [ .registerBlock 1 0 0 "r",
    .registerBlock 2 0 0 "r",
    .registerBlock 3 0 0 "r" ]

def laterArrivals : List (EngineOp BuiltinPolicy) :=
  [ .runPolicyCycle,
    .registerBlock 9 0 0 "r",
    .markPrefixReuse 9 true ]

theorem sinks_never_lost_constant_ranker :
    letI : Numerics := lineNumerics.toNumerics
    let later := run PolicyEngine.perform
      (PolicyEngine.init (BuiltinPolicy.learned constantRanker) 2 4 16 128)
      (arrivals ++ laterArrivals)
    smallestIds 2 later.blockTracker = [1, 2] ∧
      (later.cycle.blockTracker.getBlock 2).map (·.currentTier) = some .gpuFp16 := by
  obtain ⟨_, hsame, htier⟩ := @sinks_never_lost lineNumerics.toNumerics
    (PolicyEngine.init (.learned constantRanker) 2 4 16 128) trivial (by decide) arrivals
    laterArrivals (by decide +kernel) (by decide +kernel)
  have hscores : (BuiltinPolicy.learned constantRanker).ScoresEveryRow := by
    intro model hmodel x raw hraw
    rw [← Option.some.inj hmodel] at hraw
    rw [← Except.ok.inj hraw, List.length_map]
  exact ⟨hsame.trans (by decide +kernel), htier hscores 2 (by decide +kernel)⟩

end KVOrchestrator.Ports
