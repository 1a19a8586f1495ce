import KVOrchestrator.Ports.EngineRun

/-!
# Updates that keep the tier map

Access, attention, memory and prefix updates rewrite blocks where they stand:
ids and tiers stay, and all but the attention update keep the attention
average as well.  Whatever their number and order, the block list afterwards is
the old one mapped through a rewriting of that kind (`getAllBlocks_run`), so
that what a policy reads of ids, tiers and averages can be carried over.
-/

namespace KVOrchestrator.Ports

open KVOrchestrator.Verified

/-! ## The tier map -/

namespace BlockTracker

/-- The tracked ids with their tiers, in dictionary order. -/
def tierMap (t : BlockTracker) : List (Int × BlockTier) :=
  t.getAllBlocks.map (fun b => (b.blockId, b.currentTier))

theorem getAllBlocks_modifyBlock (t : BlockTracker) (i : Int) (f : BlockState → BlockState)
    (hf : ∀ b, (f b).blockId = b.blockId) :
    (t.modifyBlock i f hf).getAllBlocks =
      t.getAllBlocks.map (fun b => if b.blockId = i then f b else b) := by
  rw [modifyBlock, getAllBlocks_updateBlocks, List.filterMap_eq_map']

end BlockTracker

/-! ## Rewriting in place -/

/-- A rewriting of block states that keeps ids and tiers. -/
structure InPlace (σ : BlockState → BlockState) : Prop where
  blockId : ∀ b, (σ b).blockId = b.blockId
  currentTier : ∀ b, (σ b).currentTier = b.currentTier

/-- A rewriting that keeps the attention average. -/
def KeepsAttention (σ : BlockState → BlockState) : Prop :=
  ∀ b, (σ b).avgAttentionScore = b.avgAttentionScore

theorem InPlace.id : InPlace id := ⟨fun _ => rfl, fun _ => rfl⟩

theorem InPlace.comp {σ τ : BlockState → BlockState} (hτ : InPlace τ) (hσ : InPlace σ) :
    InPlace (τ ∘ σ) where
  blockId b := (hτ.blockId (σ b)).trans (hσ.blockId b)
  currentTier b := (hτ.currentTier (σ b)).trans (hσ.currentTier b)

theorem KeepsAttention.comp {σ τ : BlockState → BlockState} (hτ : KeepsAttention τ)
    (hσ : KeepsAttention σ) : KeepsAttention (τ ∘ σ) :=
  fun b => (hτ (σ b)).trans (hσ b)

/-- Rewriting one block in place. -/
theorem InPlace.single {f : BlockState → BlockState} (hf : InPlace f) (i : Int) :
    InPlace (fun b => if b.blockId = i then f b else b) := by
  constructor
  · intro b
    show (if b.blockId = i then f b else b).blockId = b.blockId
    split
    · exact hf.blockId b
    · rfl
  · intro b
    show (if b.blockId = i then f b else b).currentTier = b.currentTier
    split
    · exact hf.currentTier b
    · rfl

theorem KeepsAttention.single {f : BlockState → BlockState} (hf : KeepsAttention f) (i : Int) :
    KeepsAttention (fun b => if b.blockId = i then f b else b) := by
  intro b
  show (if b.blockId = i then f b else b).avgAttentionScore = b.avgAttentionScore
  split
  · exact hf b
  · rfl

/-! ## The operations that rewrite in place -/

/-- Updates of tracked blocks: no registration, release or eviction, and no
step of the engine. -/
def EngineOp.IsUpdate {π : Type} : EngineOp π → Prop
  | .updateAttention _ _ => True
  | .markAccessed _ _ => True
  | .updateMemorySnapshot _ _ _ => True
  | .markPrefixReuse _ _ => True
  | .incrementAge _ => True
  | .registerBlock _ _ _ _ => False
  | .evictBlock _ => False
  | .releaseRequestBlocks _ => False
  | .runPolicyCycle => False
  | .overridePolicy _ => False

/-- Updates that leave the attention statistics alone. -/
def EngineOp.IsQuiet {π : Type} : EngineOp π → Prop
  | .updateAttention _ _ => False
  | op => op.IsUpdate

theorem EngineOp.IsQuiet.isUpdate {π : Type} {op : EngineOp π} (h : op.IsQuiet) :
    op.IsUpdate := by
  cases op <;> first | exact h | trivial

/-- Rewriting one tracked block maps the block list. -/
theorem BlockTracker.exists_rewriting_modifyBlock (t : BlockTracker) (i : Int)
    {f : BlockState → BlockState} (hf : ∀ b, (f b).blockId = b.blockId)
    (htier : ∀ b, (f b).currentTier = b.currentTier) {quiet : Prop}
    (hattn : quiet → KeepsAttention f) :
    ∃ σ, InPlace σ ∧ (quiet → KeepsAttention σ) ∧
      (t.modifyBlock i f hf).getAllBlocks = t.getAllBlocks.map σ ∧
      (t.modifyBlock i f hf).blockBytesInt8 = t.blockBytesInt8 :=
  ⟨_, InPlace.single ⟨hf, htier⟩ i, fun h => (hattn h).single i,
    t.getAllBlocks_modifyBlock i f hf, rfl⟩

/-- An update maps the block list through a rewriting in place, which keeps
the attention averages unless it is the attention update. -/
theorem EngineOp.IsUpdate.getAllBlocks_onTracker {π : Type} {op : EngineOp π}
    (hop : op.IsUpdate) (t : BlockTracker) :
    ∃ σ, InPlace σ ∧ (op.IsQuiet → KeepsAttention σ) ∧
      (op.onTracker t).getAllBlocks = t.getAllBlocks.map σ ∧
      (op.onTracker t).blockBytesInt8 = t.blockBytesInt8 := by
  cases op with
  | updateAttention blockId attentionScores =>
      simp only [EngineOp.onTracker, BlockTracker.updateAttention]
      split
      · exact ⟨id, InPlace.id, fun h => h.elim, by simp, rfl⟩
      · refine t.exists_rewriting_modifyBlock blockId ?_ ?_ (fun h => h.elim)
        all_goals
          intro b
          split <;> rfl
  | markAccessed blockId step =>
      refine t.exists_rewriting_modifyBlock blockId ?_ ?_ ?_
      · intro b
        rfl
      · intro b
        rfl
      · intro _ b
        rfl
  | updateMemorySnapshot blockId gpuMemUsedMb gpuMemFreeMb =>
      refine t.exists_rewriting_modifyBlock blockId ?_ ?_ ?_
      · intro b
        rfl
      · intro b
        rfl
      · intro _ b
        rfl
  | markPrefixReuse blockId reused =>
      refine t.exists_rewriting_modifyBlock blockId ?_ ?_ ?_
      · intro b
        rfl
      · intro b
        rfl
      · intro _ b
        rfl
  | incrementAge step =>
      refine ⟨fun b => { b with blockAgeSteps := step }, ⟨fun _ => rfl, fun _ => rfl⟩,
        fun _ _ => rfl, ?_, rfl⟩
      rw [EngineOp.onTracker, BlockTracker.incrementAge,
        BlockTracker.getAllBlocks_updateBlocks, List.filterMap_eq_map']
  | registerBlock | evictBlock | releaseRequestBlocks | runPolicyCycle | overridePolicy =>
      exact hop.elim

namespace PolicyEngine

variable {π : Type} [PolicyInterface π]

theorem perform_of_isUpdate (e : PolicyEngine π) {op : EngineOp π} (hop : op.IsUpdate) :
    e.perform op = { e with blockTracker := op.onTracker e.blockTracker } := by
  cases op with
  | updateAttention | markAccessed | updateMemorySnapshot | markPrefixReuse | incrementAge => rfl
  | registerBlock | evictBlock | releaseRequestBlocks | runPolicyCycle | overridePolicy =>
      exact hop.elim

/-- **A run of quiet updates rewrites the block list in place.** -/
theorem getAllBlocks_run {ops : List (EngineOp π)} :
    ∀ (e : PolicyEngine π), (∀ op ∈ ops, op.IsQuiet) →
      ∃ σ, InPlace σ ∧ KeepsAttention σ ∧
        (run perform e ops).blockTracker.getAllBlocks = e.blockTracker.getAllBlocks.map σ ∧
        (run perform e ops).blockTracker.blockBytesInt8 = e.blockTracker.blockBytesInt8 ∧
        (run perform e ops).policy = e.policy := by
  induction ops with
  | nil =>
      intro e _
      exact ⟨id, InPlace.id, fun _ => rfl, by simp [run], rfl, rfl⟩
  | cons op rest ih =>
      intro e hquiet
      have hop : op.IsQuiet := hquiet op List.mem_cons_self
      obtain ⟨σ, hσ, hattn, hblocks, hbytes⟩ :=
        hop.isUpdate.getAllBlocks_onTracker e.blockTracker
      have hstep := e.perform_of_isUpdate hop.isUpdate
      obtain ⟨τ, hτ, hτattn, hrun, hrunBytes, hpolicy⟩ :=
        ih (e.perform op) (fun o ho => hquiet o (List.mem_cons_of_mem op ho))
      have hblocks' : (e.perform op).blockTracker.getAllBlocks =
          e.blockTracker.getAllBlocks.map σ := by
        rw [hstep, ← hblocks]
      have hbytes' : (e.perform op).blockTracker.blockBytesInt8 =
          e.blockTracker.blockBytesInt8 := by
        rw [hstep, ← hbytes]
      have hpolicy' : (e.perform op).policy = e.policy := by
        rw [hstep]
      rw [hblocks', List.map_map] at hrun
      exact ⟨τ ∘ σ, hτ.comp hσ, hτattn.comp (hattn hop), hrun, hrunBytes.trans hbytes',
        hpolicy.trans hpolicy'⟩

end PolicyEngine

end KVOrchestrator.Ports
