import KVOrchestrator.Ports.BuiltinPolicy
import KVOrchestrator.Ports.MemoryRelief

/-!
# The ablation policies lose no block

`QuantizeOnlyPolicy` and `OffloadOnlyPolicy` isolate one action each.  Their
decision lists name every tracked block exactly once, the second one in ranking
order, and only ever ask for two of the four tiers.  A pass over such a list
drops nothing and leaves every block in one of the two, whichever tier it was
in (`applyDecisions_of_covers`).
-/

namespace KVOrchestrator.Ports

open KVOrchestrator.Verified

/-! ## Passes that decide on every block and evict none -/

/-- Every decision is one of two that do not evict. -/
def OnlyDecides (d₁ d₂ : BlockDecision) (decisions : List PolicyDecision) : Prop :=
  ∀ d ∈ decisions, d.decision = d₁ ∨ d.decision = d₂

theorem onlyDecides_map {d₁ d₂ : BlockDecision} {α : Type} {l : List α} {g : α → PolicyDecision}
    (hg : ∀ a, (g a).decision = d₁ ∨ (g a).decision = d₂) : OnlyDecides d₁ d₂ (l.map g) := by
  intro d hd
  obtain ⟨a, _, rfl⟩ := List.mem_map.mp hd
  exact hg a

theorem ids_applyDecisions_of_no_evict {decisions : List PolicyDecision}
    (hkeep : ∀ d ∈ decisions, d.decision ≠ .evict) (t : BlockTracker) :
    (applyDecisions t decisions).ids = t.ids := by
  rw [ids_applyDecisions, List.filter_eq_self]
  intro i _
  apply decide_eq_true
  intro hevicted
  obtain ⟨d, hd, _, hevict⟩ := hevicted
  exact hkeep d hd hevict

/-- A tracked block that is decided on ends in the tier of a decision. -/
theorem exists_tier_of_covers {t : BlockTracker} {decisions : List PolicyDecision}
    (hcovers : ∀ i ∈ t.ids, i ∈ decisions.map (·.blockId)) {b : BlockState}
    (hb : b ∈ (applyDecisions t decisions).getAllBlocks) :
    ∃ d ∈ decisions, b.currentTier = d.decision.tier := by
  obtain ⟨b', hb', _, hstamp⟩ := mem_getAllBlocks_applyDecisions.mp hb
  have hid : b'.blockId ∈ t.ids := by
    rw [← t.map_blockId_getAllBlocks]
    exact List.mem_map_of_mem hb'
  obtain ⟨d', hd', hd'id⟩ := List.mem_map.mp (hcovers _ hid)
  cases hlast : lastDecision decisions b'.blockId with
  | none =>
      rw [lastDecision, List.getLast?_eq_none_iff, List.filter_eq_nil_iff] at hlast
      exact absurd (decide_eq_true hd'id) (hlast d' hd')
  | some d =>
      refine ⟨d, (mem_of_lastDecision hlast).1, ?_⟩
      rw [← hstamp, hlast]
      rfl

/-- A pass that decides on every block, with two non-evicting decisions, keeps
all ids and leaves two tiers. -/
theorem applyDecisions_of_covers {d₁ d₂ : BlockDecision} (h₁ : d₁ ≠ .evict) (h₂ : d₂ ≠ .evict)
    {t : BlockTracker} {decisions : List PolicyDecision} (honly : OnlyDecides d₁ d₂ decisions)
    (hcovers : ∀ i ∈ t.ids, i ∈ decisions.map (·.blockId)) :
    (applyDecisions t decisions).ids = t.ids ∧
      ∀ b ∈ (applyDecisions t decisions).getAllBlocks,
        b.currentTier = d₁.tier ∨ b.currentTier = d₂.tier := by
  constructor
  · apply ids_applyDecisions_of_no_evict
    intro d hd
    rcases honly d hd with hfirst | hsecond
    · rw [hfirst]
      exact h₁
    · rw [hsecond]
      exact h₂
  · intro b hb
    obtain ⟨d, hd, htier⟩ := exists_tier_of_covers hcovers hb
    rw [htier]
    rcases honly d hd with hfirst | hsecond
    · exact .inl (by rw [hfirst])
    · exact .inr (by rw [hsecond])

/-! ## The two policies -/

theorem onlyDecides_quantizeOnly (cfg : PolicyConfig) (blocks : List BlockState)
    (m : SystemMetrics) :
    OnlyDecides .keepGpu .quantize (QuantizeOnlyPolicy.decisions cfg blocks m) := by
  unfold QuantizeOnlyPolicy.decisions
  split
  · exact onlyDecides_map (fun _ => .inl rfl)
  · apply onlyDecides_map
    intro b
    by_cases hkept : b.blockId ∈ leadingIds blocks cfg.sinkTokenBlocks ∨
        b.currentTier = .gpuQuantized
    · rw [if_pos hkept]
      exact .inl rfl
    · simp only [if_neg hkept]
      split <;> simp

theorem onlyDecides_offloadOnly (cfg : PolicyConfig) (blocks : List BlockState)
    (m : SystemMetrics) :
    OnlyDecides .keepGpu .offloadCpu (OffloadOnlyPolicy.decisions cfg blocks m) := by
  unfold OffloadOnlyPolicy.decisions
  split
  · exact onlyDecides_map (fun _ => .inl rfl)
  · apply onlyDecides_map
    intro x
    rw [OffloadOnlyPolicy.decision_verdict]
    split <;> simp

/-- A pass over `t` that names every block once, keeps all ids and leaves no
block in the tier `unused`, nor evicted. -/
structure KeepsBlocks (unused : BlockTier) (t : BlockTracker) (decisions : List PolicyDecision)
    (t' : BlockTracker) : Prop where
  once : (decisions.map (·.blockId)).Perm t.ids
  ids : t'.ids = t.ids
  tiers : ∀ b ∈ t'.getAllBlocks, b.currentTier ≠ unused ∧ b.currentTier ≠ .evicted

/-- A pass that asks for two tiers leaves no block in a third one. -/
theorem keepsBlocks_applyDecisions {d₁ d₂ : BlockDecision} {unused : BlockTier}
    (h₁ : d₁ ≠ .evict) (h₂ : d₂ ≠ .evict) (hu₁ : d₁.tier ≠ unused) (hu₂ : d₂.tier ≠ unused)
    {t : BlockTracker} {decisions : List PolicyDecision} (honly : OnlyDecides d₁ d₂ decisions)
    (honce : (decisions.map (·.blockId)).Perm t.ids) :
    KeepsBlocks unused t decisions (applyDecisions t decisions) := by
  obtain ⟨hids, htiers⟩ := applyDecisions_of_covers h₁ h₂ honly (fun i hi => honce.symm.subset hi)
  refine ⟨honce, hids, ?_⟩
  intro b hb
  rcases htiers b hb with hfirst | hsecond
  · rw [hfirst]
    exact ⟨hu₁, BlockDecision.tier_ne_evicted h₁⟩
  · rw [hsecond]
    exact ⟨hu₂, BlockDecision.tier_ne_evicted h₂⟩

theorem keepsBlocks_quantizeOnly (cfg : PolicyConfig) (t : BlockTracker) (m : SystemMetrics) :
    KeepsBlocks .cpuOffloaded t (QuantizeOnlyPolicy.decisions cfg t.getAllBlocks m)
      (applyDecisions t (QuantizeOnlyPolicy.decisions cfg t.getAllBlocks m)) := by
  apply keepsBlocks_applyDecisions (by decide) (by decide) (by decide) (by decide)
    (onlyDecides_quantizeOnly cfg t.getAllBlocks m)
  rw [blockIds_quantizeOnly, t.map_blockId_getAllBlocks]

theorem keepsBlocks_offloadOnly (cfg : PolicyConfig) (t : BlockTracker) (m : SystemMetrics) :
    KeepsBlocks .gpuQuantized t (OffloadOnlyPolicy.decisions cfg t.getAllBlocks m)
      (applyDecisions t (OffloadOnlyPolicy.decisions cfg t.getAllBlocks m)) := by
  apply keepsBlocks_applyDecisions (by decide) (by decide) (by decide) (by decide)
    (onlyDecides_offloadOnly cfg t.getAllBlocks m)
  rw [← t.map_blockId_getAllBlocks]
  exact blockIds_offloadOnly cfg t.getAllBlocks m

/-- What a policy's decisions keep of every tracker, its cycles keep. -/
theorem keepsBlocks_cycle {π : Type} [PolicyInterface π] {unused : BlockTier}
    {e : PolicyEngine π}
    (hdecide : KeepsBlocks unused e.blockTracker
      (PolicyInterface.decide e.policy e.blockTracker.getAllBlocks
        (systemMetrics e.blockTracker)).1
      (applyDecisions e.blockTracker (PolicyInterface.decide e.policy
        e.blockTracker.getAllBlocks (systemMetrics e.blockTracker)).1)) :
    KeepsBlocks unused e.blockTracker e.cycleDecisions e.cycle.blockTracker := by
  rw [e.blockTracker_cycle]
  by_cases hblocks : e.blockTracker.getAllBlocks = []
  · have hids : e.blockTracker.ids = [] := by
      rw [← e.blockTracker.map_blockId_getAllBlocks, hblocks]
      rfl
    have hnone : e.cycleDecisions = [] := by
      rw [PolicyEngine.cycleDecisions, hblocks]
      rfl
    rw [hnone]
    refine ⟨by rw [hids]; exact List.Perm.nil, rfl, ?_⟩
    intro b hb
    rw [show applyDecisions e.blockTracker [] = e.blockTracker from rfl, hblocks] at hb
    cases hb
  · rw [PolicyEngine.cycleDecisions_of_ne_nil hblocks]
    exact hdecide

/-- **The ablation policies never lose a block.**

Through no cycle of a run do the tracked ids change, wherever the run starts and
whatever the serving side does between its cycles.  `QuantizeOnlyPolicy` leaves
no block offloaded and `OffloadOnlyPolicy` none quantised, and neither leaves
one evicted.  The same holds of a decision pass under any metrics, so of any
pressure. -/
theorem ablation_never_loses :
    ((∀ (e₀ : PolicyEngine QuantizeOnlyPolicy) (ops : List (EngineOp QuantizeOnlyPolicy)),
        ∀ e ∈ e₀.cycleStarts ops,
          KeepsBlocks .cpuOffloaded e.blockTracker e.cycleDecisions e.cycle.blockTracker) ∧
      ∀ (p : QuantizeOnlyPolicy) (t : BlockTracker) (m : SystemMetrics),
        KeepsBlocks .cpuOffloaded t (PolicyInterface.decide p t.getAllBlocks m).1
          (applyDecisions t (PolicyInterface.decide p t.getAllBlocks m).1)) ∧
    ((∀ (e₀ : PolicyEngine OffloadOnlyPolicy) (ops : List (EngineOp OffloadOnlyPolicy)),
        ∀ e ∈ e₀.cycleStarts ops,
          KeepsBlocks .gpuQuantized e.blockTracker e.cycleDecisions e.cycle.blockTracker) ∧
      ∀ (p : OffloadOnlyPolicy) (t : BlockTracker) (m : SystemMetrics),
        KeepsBlocks .gpuQuantized t (PolicyInterface.decide p t.getAllBlocks m).1
          (applyDecisions t (PolicyInterface.decide p t.getAllBlocks m).1)) := by
  constructor
  · constructor
    · intro e₀ ops e _
      exact keepsBlocks_cycle (keepsBlocks_quantizeOnly e.policy.config _ _)
    · intro p t m
      exact keepsBlocks_quantizeOnly p.config t m
  · constructor
    · intro e₀ ops e _
      exact keepsBlocks_cycle (keepsBlocks_offloadOnly e.policy.config _ _)
    · intro p t m
      exact keepsBlocks_offloadOnly p.config t m

end KVOrchestrator.Ports
