import KVOrchestrator.Ports.BuiltinPolicy
import KVOrchestrator.Ports.EngineRun

/-!
# GPU memory across a cycle

GPU memory is a weighted block count, so a cycle changes it block by block:
what a decision weighs less than the block it is applied to is freed, what it
weighs more is taken.  The engine maps `KEEP_GPU` to the FP16 tier whatever
tier the block is in, so keeping a quantised or an offloaded block takes
memory.

`memory_relief` states both directions over the cycles of a run from an empty
tracker: a cycle that promotes no block never takes memory, and one that
promotes a block without demoting another always does.
-/

namespace KVOrchestrator.Ports

open KVOrchestrator.Verified

/-! ## The decisions that take memory -/

/-- No decision moves its block to a tier of more GPU memory: only FP16 blocks
are kept, and no offloaded block is quantised. -/
def NoPromotion (t : BlockTracker) (decisions : List PolicyDecision) : Prop :=
  ∀ b ∈ t.getAllBlocks, ∀ d ∈ decisions, d.blockId = b.blockId →
    (d.decision = .keepGpu → b.currentTier = .gpuFp16) ∧
      (d.decision = .quantize → b.currentTier ≠ .cpuOffloaded)

/-- No decision moves its block to a tier of less GPU memory: no FP16 block is
quantised, and only offloaded blocks are offloaded or evicted. -/
def NoDemotion (t : BlockTracker) (decisions : List PolicyDecision) : Prop :=
  ∀ b ∈ t.getAllBlocks, ∀ d ∈ decisions, d.blockId = b.blockId →
    (d.decision = .quantize → b.currentTier ≠ .gpuFp16) ∧
      (d.decision = .offloadCpu ∨ d.decision = .evict → b.currentTier = .cpuOffloaded)

instance (t : BlockTracker) (decisions : List PolicyDecision) :
    Decidable (NoPromotion t decisions) := by
  unfold NoPromotion
  infer_instance

instance (t : BlockTracker) (decisions : List PolicyDecision) :
    Decidable (NoDemotion t decisions) := by
  unfold NoDemotion
  infer_instance

/-- A decision takes no memory exactly when it keeps FP16 blocks only and
quantises GPU blocks only. -/
theorem gpuWeight_le_iff {d : BlockDecision} {tier : BlockTier} (htier : tier ≠ .evicted) :
    d.tier.gpuWeight ≤ tier.gpuWeight ↔
      (d = .keepGpu → tier = .gpuFp16) ∧ (d = .quantize → tier ≠ .cpuOffloaded) := by
  cases d <;> cases tier <;> simp_all [BlockDecision.tier, BlockTier.gpuWeight]

theorem gpuWeight_ge_iff {d : BlockDecision} {tier : BlockTier} (htier : tier ≠ .evicted) :
    tier.gpuWeight ≤ d.tier.gpuWeight ↔
      (d = .quantize → tier ≠ .gpuFp16) ∧
        (d = .offloadCpu ∨ d = .evict → tier = .cpuOffloaded) := by
  cases d <;> cases tier <;> simp_all [BlockDecision.tier, BlockTier.gpuWeight]

/-! ## The weight of a block after the apply pass -/

/-- GPU weight of what a decision list makes of a block. -/
def gpuWeightAfter (decisions : List PolicyDecision) (b : BlockState) : Nat :=
  match replay decisions b with
  | some b' => b'.currentTier.gpuWeight
  | none => 0

theorem gpuUnits_applyDecisions (t : BlockTracker) (decisions : List PolicyDecision) :
    (applyDecisions t decisions).gpuUnits =
      (t.getAllBlocks.map (gpuWeightAfter decisions)).sum := by
  rw [BlockTracker.gpuUnits, getAllBlocks_applyDecisions]
  induction t.getAllBlocks with
  | nil => rfl
  | cons b rest ih =>
      rw [List.map_cons, List.sum_cons, ← ih, List.filterMap_cons, gpuWeightAfter]
      cases replay decisions b with
      | none => simp
      | some b' => simp

/-- Where ids do not repeat, the weight after is that of the one decision. -/
theorem gpuWeightAfter_of_nodup {decisions : List PolicyDecision}
    (hnodup : (decisions.map (·.blockId)).Nodup) (b : BlockState) :
    gpuWeightAfter decisions b =
      match decisionFor decisions b.blockId with
      | some d => d.decision.tier.gpuWeight
      | none => b.currentTier.gpuWeight := by
  rw [gpuWeightAfter, replay_of_nodup hnodup]
  cases decisionFor decisions b.blockId with
  | none => rfl
  | some d =>
      by_cases hevict : d.decision = .evict
      · simp [PolicyDecision.outcome, hevict, BlockDecision.tier, BlockTier.gpuWeight]
      · simp [PolicyDecision.outcome, hevict]

section OneDecisionPerBlock

variable {t : BlockTracker} {decisions : List PolicyDecision}

theorem gpuWeightAfter_le (hlive : t.LiveTiers) (hnodup : (decisions.map (·.blockId)).Nodup)
    (hno : NoPromotion t decisions) {b : BlockState} (hb : b ∈ t.getAllBlocks) :
    gpuWeightAfter decisions b ≤ b.currentTier.gpuWeight := by
  rw [gpuWeightAfter_of_nodup hnodup]
  cases hfor : decisionFor decisions b.blockId with
  | none => exact le_refl _
  | some d =>
      obtain ⟨hd, hid⟩ := (decisionFor_eq_some_iff hnodup _ _).mp hfor
      exact (gpuWeight_le_iff (hlive b hb)).mpr (hno b hb d hd hid)

theorem le_gpuWeightAfter (hlive : t.LiveTiers) (hnodup : (decisions.map (·.blockId)).Nodup)
    (hno : NoDemotion t decisions) {b : BlockState} (hb : b ∈ t.getAllBlocks) :
    b.currentTier.gpuWeight ≤ gpuWeightAfter decisions b := by
  rw [gpuWeightAfter_of_nodup hnodup]
  cases hfor : decisionFor decisions b.blockId with
  | none => exact le_refl _
  | some d =>
      obtain ⟨hd, hid⟩ := (decisionFor_eq_some_iff hnodup _ _).mp hfor
      exact (gpuWeight_ge_iff (hlive b hb)).mpr (hno b hb d hd hid)

/-- Without promotions the weighted count does not grow. -/
theorem gpuUnits_applyDecisions_le (hlive : t.LiveTiers)
    (hnodup : (decisions.map (·.blockId)).Nodup) (hno : NoPromotion t decisions) :
    (applyDecisions t decisions).gpuUnits ≤ t.gpuUnits := by
  rw [gpuUnits_applyDecisions, BlockTracker.gpuUnits]
  exact List.sum_le_sum (fun b hb => gpuWeightAfter_le hlive hnodup hno hb)

/-- With a promotion and no demotion it does. -/
theorem gpuUnits_lt_applyDecisions (hlive : t.LiveTiers)
    (hnodup : (decisions.map (·.blockId)).Nodup) (hpromotes : ¬NoPromotion t decisions)
    (hno : NoDemotion t decisions) :
    t.gpuUnits < (applyDecisions t decisions).gpuUnits := by
  obtain ⟨b, hb, d, hd, hid, hgain⟩ : ∃ b ∈ t.getAllBlocks, ∃ d ∈ decisions,
      d.blockId = b.blockId ∧ ¬((d.decision = .keepGpu → b.currentTier = .gpuFp16) ∧
        (d.decision = .quantize → b.currentTier ≠ .cpuOffloaded)) := by
    by_contra hnone
    refine hpromotes (fun b hb d hd hid => ?_)
    by_contra hgain
    exact hnone ⟨b, hb, d, hd, hid, hgain⟩
  rw [gpuUnits_applyDecisions, BlockTracker.gpuUnits]
  refine List.sum_lt_sum _ _ (fun b hb => le_gpuWeightAfter hlive hnodup hno hb) ⟨b, hb, ?_⟩
  have hfor : decisionFor decisions b.blockId = some d :=
    (decisionFor_eq_some_iff hnodup _ _).mpr ⟨hd, hid⟩
  rw [gpuWeightAfter_of_nodup hnodup, hfor]
  rw [← gpuWeight_le_iff (hlive b hb)] at hgain
  exact lt_of_not_ge hgain

end OneDecisionPerBlock

/-- At equal block sizes, memory compares as the weighted counts do. -/
theorem estimatedGpuMb_le_of_gpuUnits_le {t t' : BlockTracker}
    (hbytes : t'.blockBytesInt8 = t.blockBytesInt8) (hunits : t'.gpuUnits ≤ t.gpuUnits) :
    t'.getMemoryStats.estimatedGpuMb ≤ t.getMemoryStats.estimatedGpuMb := by
  rw [BlockTracker.estimatedGpuMb_eq, BlockTracker.estimatedGpuMb_eq, hbytes]
  gcongr

theorem estimatedGpuMb_lt_of_gpuUnits_lt {t t' : BlockTracker}
    (hbytes : t'.blockBytesInt8 = t.blockBytesInt8) (hpos : 0 < t.blockBytesInt8)
    (hunits : t.gpuUnits < t'.gpuUnits) :
    t.getMemoryStats.estimatedGpuMb < t'.getMemoryStats.estimatedGpuMb := by
  rw [BlockTracker.estimatedGpuMb_eq, BlockTracker.estimatedGpuMb_eq, hbytes]
  have hposQ : (0 : ℚ) < t.blockBytesInt8 := by exact_mod_cast hpos
  gcongr

/-! ## The cycles of a run -/

namespace PolicyEngine

/-- The engine states in which the cycles of a run start. -/
def cycleStarts {π : Type} [PolicyInterface π] (e : PolicyEngine π) :
    List (EngineOp π) → List (PolicyEngine π)
  | [] => []
  | .runPolicyCycle :: rest => e :: cycleStarts (e.perform .runPolicyCycle) rest
  | op :: rest => cycleStarts (e.perform op) rest

/-- What every step of a run preserves holds when its cycles start. -/
theorem forall_cycleStarts {π : Type} [PolicyInterface π] {Inv : PolicyEngine π → Prop}
    {Ok : EngineOp π → Prop} (hstep : ∀ e op, Ok op → Inv e → Inv (e.perform op)) :
    ∀ (ops : List (EngineOp π)) (e : PolicyEngine π), (∀ op ∈ ops, Ok op) → Inv e →
      ∀ e' ∈ e.cycleStarts ops, Inv e' := by
  intro ops
  induction ops with
  | nil =>
      intro e _ _ e' he'
      cases he'
  | cons op rest ih =>
      intro e hok he e' he'
      have hrest := ih (e.perform op) (fun o ho => hok o (List.mem_cons_of_mem op ho))
        (hstep e op (hok op List.mem_cons_self) he) e'
      cases op with
      | runPolicyCycle =>
          rcases List.mem_cons.mp he' with rfl | hlater
          · exact he
          · exact hrest hlater
      | registerBlock | evictBlock | releaseRequestBlocks | updateAttention | markAccessed
      | updateMemorySnapshot | markPrefixReuse | incrementAge | overridePolicy =>
          exact hrest he'

theorem nodup_cycleDecisions [Numerics] (e : PolicyEngine BuiltinPolicy) :
    (e.cycleDecisions.map (·.blockId)).Nodup := by
  unfold cycleDecisions
  split
  · exact List.nodup_nil
  · exact e.policy.nodup_decide e.blockTracker.nodup_blockIds _

end PolicyEngine

/-- The pressure of the next cycle is at or above the high threshold. -/
def HighPressureCycle (e : PolicyEngine BuiltinPolicy) : Prop :=
  e.policy.config.memoryPressureHigh ≤ (systemMetrics e.blockTracker).pressure

/-- **Memory relief under high pressure**, and its limit.

Take a run from an empty tracker, under any built-in policies.  If none of its
high-pressure cycles promotes a block, none of them increases the estimated
GPU memory.  A high-pressure cycle that does promote a block, and demotes
none, increases it. -/
theorem memory_relief [Numerics] (policy : BuiltinPolicy)
    (numLayers numHeads blockSize headDim : Nat)
    (telemetryCollector : Option TelemetryCollector) (ops : List (EngineOp BuiltinPolicy)) :
    let cycles := (PolicyEngine.init policy numLayers numHeads blockSize headDim
      telemetryCollector).cycleStarts ops
    ((∀ e ∈ cycles, HighPressureCycle e → NoPromotion e.blockTracker e.cycleDecisions) →
      ∀ e ∈ cycles, HighPressureCycle e →
        e.cycle.blockTracker.getMemoryStats.estimatedGpuMb ≤
          e.blockTracker.getMemoryStats.estimatedGpuMb) ∧
    (∀ e ∈ cycles, HighPressureCycle e → 0 < e.blockTracker.blockBytesInt8 →
      ¬NoPromotion e.blockTracker e.cycleDecisions →
      NoDemotion e.blockTracker e.cycleDecisions →
        e.blockTracker.getMemoryStats.estimatedGpuMb <
          e.cycle.blockTracker.getMemoryStats.estimatedGpuMb) := by
  intro cycles
  have hlive : ∀ e ∈ cycles, e.blockTracker.LiveTiers :=
    @PolicyEngine.forall_cycleStarts _ _ (fun e => e.blockTracker.LiveTiers) (fun _ => True)
      (fun e op _ h => e.liveTiers_perform op h) ops _ (fun _ _ => trivial)
      (PolicyEngine.liveTiers_init policy numLayers numHeads blockSize headDim
        telemetryCollector)
  constructor
  · intro hno e he hhigh
    rw [e.blockTracker_cycle]
    exact estimatedGpuMb_le_of_gpuUnits_le (blockBytesInt8_applyDecisions _ _)
      (gpuUnits_applyDecisions_le (hlive e he) e.nodup_cycleDecisions (hno e he hhigh))
  · intro e he _ hbytes hpromotes hdemotes
    rw [e.blockTracker_cycle]
    exact estimatedGpuMb_lt_of_gpuUnits_lt (blockBytesInt8_applyDecisions _ _) hbytes
      (gpuUnits_lt_applyDecisions (hlive e he) e.nodup_cycleDecisions hpromotes hdemotes)

/-- Two registrations and a cycle under the full-cache baseline. -/
def fullCacheOps : List (EngineOp BuiltinPolicy) :=
  [ .registerBlock 1 0 0 "r",
    .registerBlock 2 1 0 "r",
    .runPolicyCycle ]

/-- The full-cache baseline over an empty tracker. -/
def fullCacheInit : PolicyEngine BuiltinPolicy :=
  PolicyEngine.init (.fullCache ⟨{ config := {} }⟩) 2 4 16 128

theorem memory_relief_full_cache :
    letI : Numerics := lineNumerics.toNumerics
    ∀ e ∈ fullCacheInit.cycleStarts fullCacheOps, HighPressureCycle e →
      e.cycle.blockTracker.getMemoryStats.estimatedGpuMb ≤
        e.blockTracker.getMemoryStats.estimatedGpuMb := by
  refine (@memory_relief lineNumerics.toNumerics (.fullCache ⟨{ config := {} }⟩) 2 4 16 128
    none fullCacheOps).1 ?_
  intro e he _
  rw [List.mem_singleton.mp he]
  decide +kernel

/-- Quantisation of one block without sinks, after its first cycle. -/
def quantizedOnce : PolicyEngine BuiltinPolicy :=
  letI : Numerics := lineNumerics.toNumerics
  run PolicyEngine.perform
    (PolicyEngine.init (.quantizeOnly ⟨{ config := { sinkTokenBlocks := 0 } }⟩) 2 4 16 128)
    [.registerBlock 1 0 0 "r", .runPolicyCycle]

/-- The second cycle keeps the quantised block, which puts it back into the
FP16 tier. -/
theorem memory_relief_fails :
    letI : Numerics := lineNumerics.toNumerics
    quantizedOnce.policy.config.memoryPressureHigh ≤
        (systemMetrics quantizedOnce.blockTracker).pressure ∧
      quantizedOnce.blockTracker.getAllBlocks.map (·.currentTier) = [.gpuQuantized] ∧
      quantizedOnce.cycle.blockTracker.getAllBlocks.map (·.currentTier) = [.gpuFp16] ∧
      ¬quantizedOnce.cycle.blockTracker.getMemoryStats.estimatedGpuMb ≤
        quantizedOnce.blockTracker.getMemoryStats.estimatedGpuMb := by
  decide +kernel

/-! ## The policies that never promote -/

/-- The policies that know two actions only, to keep and to evict. -/
def BuiltinPolicy.KeepsOrEvicts : BuiltinPolicy → Prop
  | .fullCache _ => True
  | .slidingWindow _ => True
  | .h2o _ => True
  | .prefixCaching _ => True
  | .quantizeOnly _ => False
  | .offloadOnly _ => False
  | .hybrid _ => False
  | .learned _ => False

theorem BuiltinPolicy.KeepsOrEvicts.decide [Numerics] {p : BuiltinPolicy}
    (hp : p.KeepsOrEvicts) (blocks : List BlockState) (m : SystemMetrics) :
    KeepOrEvictList (PolicyInterface.decide p blocks m).1 ∧
      (PolicyInterface.decide p blocks m).2.KeepsOrEvicts := by
  cases p with
  | fullCache p =>
      refine ⟨keepOrEvictList_guarded _ blocks (fun b => ?_), trivial⟩
      simp only []
      split <;> simp
  | slidingWindow p =>
      refine ⟨keepOrEvictList_guarded _ blocks (fun b => ?_), trivial⟩
      split <;> simp
  | h2o p =>
      refine ⟨keepOrEvictList_guarded _ blocks (fun b => ?_), trivial⟩
      split <;> simp
  | prefixCaching p =>
      refine ⟨keepOrEvictList_guarded _ blocks (fun b => ?_), trivial⟩
      by_cases hreuse : b.prefixReuseFlag = true
      · rw [if_pos hreuse]
        exact .inl rfl
      · simp only [if_neg hreuse]
        split <;> simp
  | quantizeOnly p => exact absurd hp id
  | offloadOnly p => exact absurd hp id
  | hybrid p => exact absurd hp id
  | learned p => exact absurd hp id

/-- Only keeping and evicting, an engine has every block in the FP16 tier. -/
def FullPrecision (e : PolicyEngine BuiltinPolicy) : Prop :=
  e.policy.KeepsOrEvicts ∧ ∀ b ∈ e.blockTracker.getAllBlocks, b.currentTier = .gpuFp16

/-- An override by one of the keep-or-evict policies. -/
def EngineOp.OverridesPlainly : EngineOp BuiltinPolicy → Prop
  | .overridePolicy newPolicy => newPolicy.KeepsOrEvicts
  | _ => True

theorem fullPrecision_perform [Numerics] (e : PolicyEngine BuiltinPolicy)
    (op : EngineOp BuiltinPolicy) (hop : op.OverridesPlainly) (h : FullPrecision e) :
    FullPrecision (e.perform op) := by
  obtain ⟨hpolicy, htiers⟩ := h
  have htracker : (op.onTracker e.blockTracker).AllFp16 :=
    BlockTracker.AllFp16.onTracker htiers op
  cases op with
  | runPolicyCycle =>
      constructor
      · show e.cycle.policy.KeepsOrEvicts
        exact PolicyEngine.policy_cycle_of_decide (fun _ blocks m hp => (hp.decide blocks m).2)
          hpolicy
      · show e.cycle.blockTracker.AllFp16
        have hlist : KeepOrEvictList e.cycleDecisions := by
          apply PolicyEngine.cycleDecisions_of_decide
          · intro d hd
            cases hd
          · exact (hpolicy.decide _ _).1
        rw [e.blockTracker_cycle]
        exact BlockTracker.AllFp16.applyDecisions htiers hlist
  | overridePolicy newPolicy => exact ⟨hop, htiers⟩
  | registerBlock | evictBlock | releaseRequestBlocks | updateAttention | markAccessed
  | updateMemorySnapshot | markPrefixReuse | incrementAge =>
      exact ⟨hpolicy, htracker⟩

/-- Runs under the keep-or-evict policies alone never take memory in a cycle. -/
theorem estimatedGpuMb_cycle_le_of_keepsOrEvicts [Numerics] {policy : BuiltinPolicy}
    (hpolicy : policy.KeepsOrEvicts) (numLayers numHeads blockSize headDim : Nat)
    (telemetryCollector : Option TelemetryCollector) {ops : List (EngineOp BuiltinPolicy)}
    (hops : ∀ op ∈ ops, op.OverridesPlainly) :
    ∀ e ∈ (PolicyEngine.init policy numLayers numHeads blockSize headDim
        telemetryCollector).cycleStarts ops,
      e.cycle.blockTracker.getMemoryStats.estimatedGpuMb ≤
        e.blockTracker.getMemoryStats.estimatedGpuMb := by
  intro e he
  have hinit : FullPrecision (PolicyEngine.init policy numLayers numHeads blockSize headDim
      telemetryCollector) := ⟨hpolicy, by intro b hb; cases hb⟩
  obtain ⟨hkeeps, htiers⟩ := PolicyEngine.forall_cycleStarts fullPrecision_perform ops _ hops
    hinit e he
  have hlive : e.blockTracker.LiveTiers := fun b hb => by
    rw [htiers b hb]
    decide
  have hno : NoPromotion e.blockTracker e.cycleDecisions := by
    intro b hb d _ _
    rw [htiers b hb]
    simp
  rw [e.blockTracker_cycle]
  exact estimatedGpuMb_le_of_gpuUnits_le (blockBytesInt8_applyDecisions _ _)
    (gpuUnits_applyDecisions_le hlive e.nodup_cycleDecisions hno)

end KVOrchestrator.Ports
