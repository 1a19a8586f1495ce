import KVOrchestrator.Ports.ApplyDecisions
import KVOrchestrator.Verified.Dynamics

/-!
# Runs of the serving side and the engine

The tracker is written by two parties: the serving side registers, touches and
releases blocks, and the engine runs cycles, possibly under a policy that was
swapped in at runtime.  `EngineOp` lists what either can do in one atomic step;
a run is a list of them, in any order.

`EngineOp.mem_onTracker` and `mem_applyDecisions` say where the tier of a
tracked block can come from in one step.  From them no run ever leaves a block
tracked as evicted (`liveTiers_run`), so that the three live tiers account for
every block.
-/

namespace KVOrchestrator.Ports

open KVOrchestrator.Verified

/-- One atomic step on the shared state. -/
inductive EngineOp (π : Type) where
  | registerBlock (blockId layerId headGroup : Int) (requestId : String)
  | evictBlock (blockId : Int)
  | releaseRequestBlocks (requestId : String)
  | updateAttention (blockId : Int) (attentionScores : List (Option ℚ))
  | markAccessed (blockId step : Int)
  | updateMemorySnapshot (blockId : Int) (gpuMemUsedMb gpuMemFreeMb : ℚ)
  | markPrefixReuse (blockId : Int) (reused : Bool)
  | incrementAge (step : Int)
  | runPolicyCycle
  | overridePolicy (newPolicy : π)

/-- An operation of the serving side, on the tracker alone. -/
def EngineOp.onTracker {π : Type} (op : EngineOp π) (t : BlockTracker) : BlockTracker :=
  match op with
  | .registerBlock blockId layerId headGroup requestId =>
      t.registerBlock blockId layerId headGroup requestId
  | .evictBlock blockId => (t.evictBlock blockId).1
  | .releaseRequestBlocks requestId => (t.releaseRequestBlocks requestId).1
  | .updateAttention blockId attentionScores => t.updateAttention blockId attentionScores
  | .markAccessed blockId step => t.markAccessed blockId step
  | .updateMemorySnapshot blockId gpuMemUsedMb gpuMemFreeMb =>
      t.updateMemorySnapshot blockId gpuMemUsedMb gpuMemFreeMb
  | .markPrefixReuse blockId reused => t.markPrefixReuse blockId reused
  | .incrementAge step => t.incrementAge step
  | .runPolicyCycle => t
  | .overridePolicy _ => t

namespace PolicyEngine

variable {π : Type}

/-- A new engine over an empty tracker. -/
def init (policy : π) (numLayers numHeads blockSize headDim : Nat)
    (telemetryCollector : Option TelemetryCollector := none) : PolicyEngine π where
  policy := policy
  blockTracker :=
    { numLayers := numLayers
      numHeads := numHeads
      blockSize := blockSize
      headDim := headDim }
  telemetryCollector := telemetryCollector

/-- Perform one atomic step. -/
def perform [PolicyInterface π] (e : PolicyEngine π) (op : EngineOp π) : PolicyEngine π :=
  match op with
  | .runPolicyCycle => e.cycle
  | .overridePolicy newPolicy => e.overridePolicy newPolicy
  | op => { e with blockTracker := op.onTracker e.blockTracker }

end PolicyEngine

/-! ## Where a tier comes from -/

/-- Rewriting a block without touching its tier brings no new tier about. -/
theorem BlockTracker.exists_tier_of_mem_modifyBlock {t : BlockTracker} {i : Int}
    {f : BlockState → BlockState} {hf : ∀ b, (f b).blockId = b.blockId}
    {b : BlockState} (hb : b ∈ (t.modifyBlock i f hf).getAllBlocks)
    (htier : ∀ b, (f b).currentTier = b.currentTier) :
    ∃ b' ∈ t.getAllBlocks, b.currentTier = b'.currentTier := by
  obtain ⟨b', hb', rfl | rfl⟩ := BlockTracker.mem_modifyBlock hb
  · exact ⟨b', hb', htier b'⟩
  · exact ⟨b, hb', rfl⟩

/-- A block tracked after an operation of the serving side is fresh, or has
the tier of a block tracked before. -/
theorem EngineOp.mem_onTracker {π : Type} {op : EngineOp π} {t : BlockTracker}
    {b : BlockState} (hb : b ∈ (op.onTracker t).getAllBlocks) :
    b.currentTier = .gpuFp16 ∨ ∃ b' ∈ t.getAllBlocks, b.currentTier = b'.currentTier := by
  cases op with
  | registerBlock blockId layerId headGroup requestId =>
      rcases BlockTracker.mem_registerBlock hb with rfl | hold
      · exact .inl rfl
      · exact .inr ⟨b, hold, rfl⟩
  | evictBlock blockId =>
      rw [EngineOp.onTracker, BlockTracker.getAllBlocks_evictBlock] at hb
      exact .inr ⟨b, List.mem_of_mem_filter hb, rfl⟩
  | releaseRequestBlocks requestId =>
      rw [EngineOp.onTracker, BlockTracker.getAllBlocks_releaseRequestBlocks] at hb
      exact .inr ⟨b, List.mem_of_mem_filter hb, rfl⟩
  | updateAttention blockId attentionScores =>
      simp only [EngineOp.onTracker, BlockTracker.updateAttention] at hb
      split at hb
      · exact .inr ⟨b, hb, rfl⟩
      · refine .inr (BlockTracker.exists_tier_of_mem_modifyBlock hb ?_)
        intro b
        split <;> rfl
  | markAccessed blockId step =>
      rw [EngineOp.onTracker, BlockTracker.markAccessed] at hb
      exact .inr (BlockTracker.exists_tier_of_mem_modifyBlock hb (fun _ => rfl))
  | updateMemorySnapshot blockId gpuMemUsedMb gpuMemFreeMb =>
      rw [EngineOp.onTracker, BlockTracker.updateMemorySnapshot] at hb
      exact .inr (BlockTracker.exists_tier_of_mem_modifyBlock hb (fun _ => rfl))
  | markPrefixReuse blockId reused =>
      rw [EngineOp.onTracker, BlockTracker.markPrefixReuse] at hb
      exact .inr (BlockTracker.exists_tier_of_mem_modifyBlock hb (fun _ => rfl))
  | incrementAge step =>
      rw [EngineOp.onTracker, BlockTracker.incrementAge,
        BlockTracker.getAllBlocks_updateBlocks, List.mem_filterMap] at hb
      obtain ⟨b', hb', heq⟩ := hb
      exact .inr ⟨b', hb', by rw [← Option.some.inj heq]⟩
  | runPolicyCycle => exact .inr ⟨b, hb, rfl⟩
  | overridePolicy newPolicy => exact .inr ⟨b, hb, rfl⟩

/-- A block tracked after a decision pass has the tier of a decision that does
not evict, or is as before. -/
theorem mem_applyDecisions {t : BlockTracker} {decisions : List PolicyDecision}
    {b : BlockState} (hb : b ∈ (applyDecisions t decisions).getAllBlocks) :
    (∃ d ∈ decisions, d.decision ≠ .evict ∧ b.currentTier = d.decision.tier) ∨
      b ∈ t.getAllBlocks := by
  obtain ⟨b', hb', hstays, hstamp⟩ := mem_getAllBlocks_applyDecisions.mp hb
  cases hlast : lastDecision decisions b'.blockId with
  | none =>
      rw [hlast] at hstamp
      exact .inr (hstamp ▸ hb')
  | some d =>
      obtain ⟨hd, hid⟩ := mem_of_lastDecision hlast
      refine .inl ⟨d, hd, fun hevict => hstays ⟨d, hd, hid, hevict⟩, ?_⟩
      rw [← hstamp, hlast]
      rfl

theorem BlockDecision.tier_ne_evicted {d : BlockDecision} (h : d ≠ .evict) :
    d.tier ≠ .evicted := by
  cases d with
  | evict => exact absurd rfl h
  | keepGpu => decide
  | quantize => decide
  | offloadCpu => decide

/-! ## No run leaves an evicted block tracked -/

/-- Every tracked block is in a live tier. -/
def BlockTracker.LiveTiers (t : BlockTracker) : Prop :=
  ∀ b ∈ t.getAllBlocks, b.currentTier ≠ .evicted

theorem liveTiers_applyDecisions {t : BlockTracker} (h : t.LiveTiers)
    (decisions : List PolicyDecision) : (applyDecisions t decisions).LiveTiers := by
  intro b hb
  rcases mem_applyDecisions hb with ⟨d, _, hd, htier⟩ | hold
  · rw [htier]
    exact BlockDecision.tier_ne_evicted hd
  · exact h b hold

theorem liveTiers_onTracker {π : Type} {t : BlockTracker} (h : t.LiveTiers)
    (op : EngineOp π) : (op.onTracker t).LiveTiers := by
  intro b hb
  rcases EngineOp.mem_onTracker hb with hfresh | ⟨b', hb', htier⟩
  · rw [hfresh]
    decide
  · rw [htier]
    exact h b' hb'

namespace PolicyEngine

variable {π : Type} [PolicyInterface π]

theorem liveTiers_perform (e : PolicyEngine π) (op : EngineOp π)
    (h : e.blockTracker.LiveTiers) : (e.perform op).blockTracker.LiveTiers := by
  cases op with
  | runPolicyCycle =>
      change e.cycle.blockTracker.LiveTiers
      rw [blockTracker_cycle]
      exact liveTiers_applyDecisions h _
  | overridePolicy newPolicy => exact h
  | registerBlock | evictBlock | releaseRequestBlocks | updateAttention | markAccessed
  | updateMemorySnapshot | markPrefixReuse | incrementAge =>
      exact liveTiers_onTracker h _

omit [PolicyInterface π] in
theorem liveTiers_init (policy : π) (numLayers numHeads blockSize headDim : Nat)
    (telemetryCollector : Option TelemetryCollector) :
    (init policy numLayers numHeads blockSize headDim
      telemetryCollector).blockTracker.LiveTiers := by
  intro b hb
  cases hb

theorem liveTiers_run (policy : π) (numLayers numHeads blockSize headDim : Nat)
    (telemetryCollector : Option TelemetryCollector) (ops : List (EngineOp π)) :
    (run perform (init policy numLayers numHeads blockSize headDim telemetryCollector)
      ops).blockTracker.LiveTiers :=
  @run_invariant _ _ perform (fun e => e.blockTracker.LiveTiers) liveTiers_perform ops _
    (liveTiers_init policy numLayers numHeads blockSize headDim telemetryCollector)

end PolicyEngine

/-! ## Keeping and evicting leaves every block in FP16 -/

/-- A list of keeps and evictions. -/
def KeepOrEvictList (decisions : List PolicyDecision) : Prop :=
  ∀ d ∈ decisions, d.decision = .keepGpu ∨ d.decision = .evict

theorem keepOrEvictList_map {α : Type} {l : List α} {g : α → PolicyDecision}
    (hg : ∀ a, (g a).decision = .keepGpu ∨ (g a).decision = .evict) :
    KeepOrEvictList (l.map g) := by
  intro d hd
  obtain ⟨a, _, rfl⟩ := List.mem_map.mp hd
  exact hg a

/-- A policy that keeps everything under its guard and keeps or evicts block
by block beyond it. -/
theorem keepOrEvictList_guarded (guard : Prop) [Decidable guard] (blocks : List BlockState)
    {verdict : BlockState → PolicyDecision}
    (hverdict : ∀ b, (verdict b).decision = .keepGpu ∨ (verdict b).decision = .evict) :
    KeepOrEvictList (if guard then keepAll blocks else blocks.map verdict) := by
  split
  · exact keepOrEvictList_map (fun _ => .inl rfl)
  · exact keepOrEvictList_map hverdict

/-- Every tracked block is in the FP16 tier. -/
def BlockTracker.AllFp16 (t : BlockTracker) : Prop :=
  ∀ b ∈ t.getAllBlocks, b.currentTier = .gpuFp16

theorem BlockTracker.AllFp16.onTracker {π : Type} {t : BlockTracker} (h : t.AllFp16)
    (op : EngineOp π) : (op.onTracker t).AllFp16 := by
  intro b hb
  rcases EngineOp.mem_onTracker hb with hfresh | ⟨b', hb', htier⟩
  · exact hfresh
  · rw [htier]
    exact h b' hb'

theorem BlockTracker.AllFp16.applyDecisions {t : BlockTracker} (h : t.AllFp16)
    {decisions : List PolicyDecision} (hlist : KeepOrEvictList decisions) :
    (applyDecisions t decisions).AllFp16 := by
  intro b hb
  rcases mem_applyDecisions hb with ⟨d, hd, hevict, htier⟩ | hold
  · rcases hlist d hd with hkeep | hev
    · rw [htier, hkeep]
      rfl
    · exact absurd hev hevict
  · exact h b hold

/-! ## The block size is fixed -/

theorem blockBytesInt8_releaseRequestBlocks (t : BlockTracker) (requestId : String) :
    (t.releaseRequestBlocks requestId).1.blockBytesInt8 = t.blockBytesInt8 := by
  rw [BlockTracker.releaseRequestBlocks]
  generalize (t.getAllBlocks.filter (fun b => b.requestId = requestId)).map (·.blockId) = stale
  induction stale generalizing t with
  | nil => rfl
  | cons i stale ih => exact (ih (t.evictBlock i).1).trans rfl

theorem blockBytesInt8_onTracker {π : Type} (op : EngineOp π) (t : BlockTracker) :
    (op.onTracker t).blockBytesInt8 = t.blockBytesInt8 := by
  cases op with
  | releaseRequestBlocks requestId => exact blockBytesInt8_releaseRequestBlocks t requestId
  | updateAttention blockId attentionScores =>
      simp only [EngineOp.onTracker, BlockTracker.updateAttention]
      split <;> rfl
  | registerBlock | evictBlock | markAccessed | updateMemorySnapshot | markPrefixReuse
  | incrementAge | runPolicyCycle | overridePolicy => rfl

theorem PolicyEngine.blockBytesInt8_perform {π : Type} [PolicyInterface π]
    (e : PolicyEngine π) (op : EngineOp π) :
    (e.perform op).blockTracker.blockBytesInt8 = e.blockTracker.blockBytesInt8 := by
  cases op with
  | runPolicyCycle =>
      show e.cycle.blockTracker.blockBytesInt8 = e.blockTracker.blockBytesInt8
      rw [e.blockTracker_cycle, blockBytesInt8_applyDecisions]
  | overridePolicy newPolicy => rfl
  | registerBlock | evictBlock | releaseRequestBlocks | updateAttention | markAccessed
  | updateMemorySnapshot | markPrefixReuse | incrementAge =>
      exact blockBytesInt8_onTracker _ _

/-- In a tracker of live tiers the three counts add up to the block count. -/
theorem BlockTracker.LiveTiers.sum_tierCount {t : BlockTracker} (h : t.LiveTiers) :
    t.tierCount .gpuFp16 + t.tierCount .gpuQuantized + t.tierCount .cpuOffloaded =
      t.getAllBlocks.length := by
  unfold LiveTiers at h
  simp only [tierCount]
  generalize t.getAllBlocks = blocks at h ⊢
  induction blocks with
  | nil => rfl
  | cons b rest ih =>
      have hb := h b List.mem_cons_self
      have hrest := ih (fun b' hb' => h b' (List.mem_cons_of_mem b hb'))
      simp only [List.countP_cons, List.length_cons, ← hrest]
      cases htier : b.currentTier with
      | evicted => exact absurd htier hb
      | gpuFp16 => simp; omega
      | gpuQuantized => simp; omega
      | cpuOffloaded => simp; omega

/-! ## Exactness of the apply pass -/

/-- **Applying decisions is exact**, and tiers stay accounted for.

After any decision list the tracked ids are those without an `EVICT` decision,
in the old order; a surviving block carries the tier and the score of the last
decision on it and is otherwise as it was.  In every state a run can reach,
whatever the policy, no tracked block is in tier `EVICTED` and the other three
tier counts sum to the number of tracked blocks. -/
theorem applyDecisions_exact :
    (∀ (t : BlockTracker) (decisions : List PolicyDecision),
      (applyDecisions t decisions).ids =
          t.ids.filter (fun i => decide (¬EvictedBy decisions i)) ∧
        (∀ b ∈ t.getAllBlocks, ¬EvictedBy decisions b.blockId →
          (applyDecisions t decisions).getBlock b.blockId =
            some (match lastDecision decisions b.blockId with
              | some d => { b with
                  currentTier := d.decision.tier
                  importanceScore := d.score }
              | none => b)) ∧
        (applyDecisions t decisions).numLayers = t.numLayers ∧
        (applyDecisions t decisions).numHeads = t.numHeads ∧
        (applyDecisions t decisions).blockSize = t.blockSize ∧
        (applyDecisions t decisions).headDim = t.headDim) ∧
    (∀ (π : Type) [PolicyInterface π] (policy : π) (numLayers numHeads blockSize headDim : Nat)
        (telemetryCollector : Option TelemetryCollector) (ops : List (EngineOp π)),
      let t := (run PolicyEngine.perform
        (PolicyEngine.init policy numLayers numHeads blockSize headDim telemetryCollector)
        ops).blockTracker
      (∀ b ∈ t.getAllBlocks, b.currentTier ≠ .evicted) ∧
        t.getMemoryStats.blocksPerTier .gpuFp16 + t.getMemoryStats.blocksPerTier .gpuQuantized +
            t.getMemoryStats.blocksPerTier .cpuOffloaded =
          t.getMemoryStats.totalBlocks) := by
  constructor
  · intro t decisions
    refine ⟨ids_applyDecisions t decisions, ?_, ?_⟩
    · intro b hb hevict
      rw [getBlock_applyDecisions_of_mem hb, if_neg hevict]
      rfl
    · rw [applyDecisions_eq]
      exact ⟨rfl, rfl, rfl, rfl⟩
  · intro π _ policy numLayers numHeads blockSize headDim telemetryCollector ops
    have hlive := PolicyEngine.liveTiers_run policy numLayers numHeads blockSize headDim
      telemetryCollector ops
    exact ⟨hlive, hlive.sum_tierCount⟩

/-- Two blocks of one request in a fresh tracker. -/
def twoBlocks : BlockTracker :=
  (BlockTracker.registerBlock
    { numLayers := 2
      numHeads := 4 } 1 0 0 "r").registerBlock 2 1 0 "r"

/-- Conflicting decisions on block `1`, an eviction of block `2` followed by a
late one, and an unknown id. -/
def conflictingDecisions : List PolicyDecision :=
  [ { blockId := 1, decision := .quantize, score := 1 / 4 },
    { blockId := 2, decision := .evict, score := 0 },
    { blockId := 9, decision := .evict, score := 0 },
    { blockId := 1, decision := .offloadCpu, score := 1 / 8 },
    { blockId := 2, decision := .keepGpu, score := 1 } ]

theorem applyDecisions_exact_conflicting :
    (applyDecisions twoBlocks conflictingDecisions).ids = [1] ∧
      (applyDecisions twoBlocks conflictingDecisions).getBlock 1 =
        some
          { blockId := 1
            layerId := 0
            headGroup := 0
            requestId := "r"
            currentTier := .cpuOffloaded
            importanceScore := 1 / 8 } := by
  obtain ⟨hids, hblock, _⟩ := applyDecisions_exact.1 twoBlocks conflictingDecisions
  refine ⟨hids.trans (by decide +kernel), ?_⟩
  have h := hblock { blockId := 1, layerId := 0, headGroup := 0, requestId := "r" }
    (by decide +kernel) (by decide +kernel)
  exact h.trans (by decide +kernel)

end KVOrchestrator.Ports
