import KVOrchestrator.Ports.CandidateSelection
import KVOrchestrator.Ports.TrackerUpdates
import KVOrchestrator.Verified.Dynamics

/-!
# Ages and the order of registration

The strategy `age` lists the oldest blocks first, by the largest
`block_age_steps`.  `increment_age` sets this field of every block to the global
step, but `mark_accessed` sets it as well, for the accessed block alone, so an
access to a young block before the next `increment_age` makes it the oldest.
The order of the ages follows the order of registration as long as no access
does that, and no block is registered while an age is negative
(`ages_follow_registration_iff`).
-/

namespace KVOrchestrator.Ports

open KVOrchestrator.Verified

/-- The operations that write `block_age_steps`. -/
inductive AgeOp where
  | registerBlock (blockId layerId headGroup : Int) (requestId : String)
  | markAccessed (blockId step : Int)
  | incrementAge (step : Int)

/-- A tracker with the ids registered so far, the earliest first. -/
structure RegistryRun where
  tracker : BlockTracker
  registered : List Int := []

namespace RegistryRun

def perform (s : RegistryRun) : AgeOp → RegistryRun
  | .registerBlock blockId layerId headGroup requestId =>
      { tracker := s.tracker.registerBlock blockId layerId headGroup requestId
        registered := s.registered ++ [blockId] }
  | .markAccessed blockId step => { s with tracker := s.tracker.markAccessed blockId step }
  | .incrementAge step => { s with tracker := s.tracker.incrementAge step }

/-- An id is registered once. -/
def FreshId (s : RegistryRun) : AgeOp → Prop
  | .registerBlock blockId _ _ _ => blockId ∉ s.registered
  | .markAccessed _ _ => True
  | .incrementAge _ => True

/-- The tracked blocks stand in the order of their registration, their ages fall
along it, and so do the candidates of the strategy `age`. -/
structure AgesFollowRegistration (s : RegistryRun) : Prop where
  ids : s.tracker.getAllBlocks.map (·.blockId) = s.registered
  ages : s.tracker.getAllBlocks.Pairwise (fun older younger =>
    younger.blockAgeSteps ≤ older.blockAgeSteps)
  candidates : ∀ n, s.tracker.getCandidateBlocks n "age" = .ok (sliceTo s.tracker.gpuBlocks n)

/-- A block is registered while no age is negative, and accessed at a step that
no block before it is below and no block after it above. -/
def AgesInOrder (s : RegistryRun) : AgeOp → Prop
  | .registerBlock _ _ _ _ => ∀ b ∈ s.tracker.getAllBlocks, 0 ≤ b.blockAgeSteps
  | .markAccessed blockId step => s.tracker.getAllBlocks.Pairwise (fun older younger =>
      (younger.blockId = blockId → step ≤ older.blockAgeSteps) ∧
        (older.blockId = blockId → younger.blockAgeSteps ≤ step))
  | .incrementAge _ => True

instance (s : RegistryRun) : (op : AgeOp) → Decidable (s.FreshId op)
  | .registerBlock blockId _ _ _ => inferInstanceAs (Decidable (blockId ∉ s.registered))
  | .markAccessed _ _ => .isTrue trivial
  | .incrementAge _ => .isTrue trivial

instance (s : RegistryRun) : (op : AgeOp) → Decidable (s.AgesInOrder op)
  | .registerBlock _ _ _ _ =>
      inferInstanceAs (Decidable (∀ b ∈ s.tracker.getAllBlocks, 0 ≤ b.blockAgeSteps))
  | .markAccessed blockId step =>
      inferInstanceAs (Decidable (s.tracker.getAllBlocks.Pairwise (fun older younger =>
        (younger.blockId = blockId → step ≤ older.blockAgeSteps) ∧
          (older.blockId = blockId → younger.blockAgeSteps ≤ step))))
  | .incrementAge _ => .isTrue trivial

end RegistryRun

/-! ## The block list after each operation -/

namespace BlockTracker

/-- A fresh block goes last. -/
theorem getAllBlocks_registerBlock_of_not_mem {t : BlockTracker} {blockId : Int}
    (hfresh : blockId ∉ t.ids) (layerId headGroup : Int) (requestId : String) :
    (t.registerBlock blockId layerId headGroup requestId).getAllBlocks =
      t.getAllBlocks ++
        [{ blockId := blockId, layerId := layerId, headGroup := headGroup,
           requestId := requestId }] := by
  rw [getAllBlocks, registerBlock, blocks_withBlocks, OrdDict.values,
    OrdDict.entries_set_of_not_mem hfresh, List.map_append]
  rfl

theorem getAllBlocks_markAccessed (t : BlockTracker) (blockId step : Int) :
    (t.markAccessed blockId step).getAllBlocks = t.getAllBlocks.map (fun b =>
      if b.blockId = blockId then
        { b with
          accessCount := b.accessCount + 1
          lastAccessStep := step
          blockAgeSteps := step }
      else b) := by
  rw [markAccessed, getAllBlocks_modifyBlock]

theorem getAllBlocks_incrementAge (t : BlockTracker) (step : Int) :
    (t.incrementAge step).getAllBlocks =
      t.getAllBlocks.map (fun b => { b with blockAgeSteps := step }) := by
  rw [incrementAge, getAllBlocks_updateBlocks, List.filterMap_eq_map']

/-- Candidates whose ages fall along the dictionary are in its order. -/
theorem getCandidateBlocks_age {t : BlockTracker}
    (hages : t.getAllBlocks.Pairwise (fun older younger =>
      younger.blockAgeSteps ≤ older.blockAgeSteps)) (n : Int) :
    t.getCandidateBlocks n "age" = .ok (sliceTo t.gpuBlocks n) := by
  have hgpu : t.gpuBlocks.Pairwise (fun a b => -a.blockAgeSteps ≤ -b.blockAgeSteps) :=
    (hages.filter _).imp Int.neg_le_neg
  show Except.ok (sliceTo (sortBy (fun b : BlockState => -b.blockAgeSteps) t.gpuBlocks) n) = _
  rw [sortBy_eq_self hgpu]

end BlockTracker

/-! ## Runs -/

namespace RegistryRun

/-- Order and ages are all there is to show. -/
theorem agesFollowRegistration_iff (s : RegistryRun) :
    s.AgesFollowRegistration ↔ s.tracker.getAllBlocks.map (·.blockId) = s.registered ∧
      s.tracker.getAllBlocks.Pairwise (fun older younger =>
        younger.blockAgeSteps ≤ older.blockAgeSteps) := by
  constructor
  · intro h
    exact ⟨h.ids, h.ages⟩
  · rintro ⟨hids, hages⟩
    exact ⟨hids, hages, fun n => BlockTracker.getCandidateBlocks_age hages n⟩

/-- Two blocks after an access, one before the other. -/
theorem age_le_after_access_iff {older younger : BlockState}
    (hne : older.blockId ≠ younger.blockId) (hle : younger.blockAgeSteps ≤ older.blockAgeSteps)
    (blockId step : Int) :
    (if younger.blockId = blockId then step else younger.blockAgeSteps) ≤
        (if older.blockId = blockId then step else older.blockAgeSteps) ↔
      (younger.blockId = blockId → step ≤ older.blockAgeSteps) ∧
        (older.blockId = blockId → younger.blockAgeSteps ≤ step) := by
  by_cases hyounger : younger.blockId = blockId
  · have holder : older.blockId ≠ blockId := fun h => hne (h.trans hyounger.symm)
    simp [hyounger, holder]
  · by_cases holder : older.blockId = blockId
    · simp [hyounger, holder]
    · simp [hyounger, holder, hle]

theorem map_blockId_markAccessed (t : BlockTracker) (blockId step : Int) :
    (t.markAccessed blockId step).getAllBlocks.map (·.blockId) =
      t.getAllBlocks.map (·.blockId) := by
  rw [BlockTracker.getAllBlocks_markAccessed, List.map_map]
  apply List.map_congr_left
  intro b _
  exact (apply_ite BlockState.blockId _ _ b).trans (ite_self _)

/-- An access keeps the ages falling if it is in order. -/
theorem pairwise_markAccessed_iff {t : BlockTracker}
    (hages : t.getAllBlocks.Pairwise (fun older younger =>
      younger.blockAgeSteps ≤ older.blockAgeSteps)) (blockId step : Int) :
    (t.markAccessed blockId step).getAllBlocks.Pairwise (fun older younger =>
        younger.blockAgeSteps ≤ older.blockAgeSteps) ↔
      t.getAllBlocks.Pairwise (fun older younger =>
        (younger.blockId = blockId → step ≤ older.blockAgeSteps) ∧
          (older.blockId = blockId → younger.blockAgeSteps ≤ step)) := by
  have hdistinct : t.getAllBlocks.Pairwise (fun a b => a.blockId ≠ b.blockId) :=
    List.pairwise_map.mp t.nodup_blockIds
  have hboth := hdistinct.and hages
  rw [BlockTracker.getAllBlocks_markAccessed, List.pairwise_map]
  simp only [apply_ite BlockState.blockAgeSteps]
  constructor
  · intro h
    refine (hboth.and h).imp (fun hpair => ?_)
    exact (age_le_after_access_iff hpair.1.1 hpair.1.2 blockId step).mp hpair.2
  · intro h
    refine (hboth.and h).imp (fun hpair => ?_)
    exact (age_le_after_access_iff hpair.1.1 hpair.1.2 blockId step).mpr hpair.2

/-- What one operation does to order and ages. -/
theorem agesFollowRegistration_perform_iff {s : RegistryRun} {op : AgeOp}
    (hs : s.AgesFollowRegistration) (hfresh : s.FreshId op) :
    (s.perform op).AgesFollowRegistration ↔ s.AgesInOrder op := by
  have hids := hs.ids
  have hages := hs.ages
  rw [agesFollowRegistration_iff]
  cases op with
  | registerBlock blockId layerId headGroup requestId =>
      have hnew : blockId ∉ s.tracker.ids := by
        rw [← s.tracker.map_blockId_getAllBlocks, hids]
        exact hfresh
      have hlist :=
        BlockTracker.getAllBlocks_registerBlock_of_not_mem hnew layerId headGroup requestId
      show (_ ∧ _) ↔ ∀ b ∈ s.tracker.getAllBlocks, 0 ≤ b.blockAgeSteps
      simp only [perform, hlist, List.map_append, hids, List.pairwise_append, hages,
        List.mem_singleton, forall_eq, List.map_cons, List.map_nil, List.pairwise_singleton,
        true_and]
  | markAccessed blockId step =>
      have hidsAfter : (s.tracker.markAccessed blockId step).getAllBlocks.map (·.blockId) =
          s.registered := (map_blockId_markAccessed s.tracker blockId step).trans hids
      show (_ ∧ _) ↔ s.tracker.getAllBlocks.Pairwise _
      rw [← pairwise_markAccessed_iff hages]
      exact and_iff_right hidsAfter
  | incrementAge step =>
      show (_ ∧ _) ↔ True
      simp only [perform, BlockTracker.getAllBlocks_incrementAge, List.map_map, List.pairwise_map,
        iff_true]
      exact ⟨hids, List.pairwise_of_forall (fun _ _ => le_refl step)⟩

theorem keyed_empty (k : Int) (b : BlockState)
    (h : (k, b) ∈ (OrdDict.empty : OrdDict Int BlockState).entries) : b.blockId = k := by
  cases h

/-- A run that starts with nothing registered. -/
def init (numLayers numHeads blockSize headDim : Nat) : RegistryRun where
  tracker :=
    { numLayers := numLayers
      numHeads := numHeads
      blockSize := blockSize
      headDim := headDim
      keyed := keyed_empty }

theorem agesFollowRegistration_init (numLayers numHeads blockSize headDim : Nat) :
    (init numLayers numHeads blockSize headDim).AgesFollowRegistration :=
  (agesFollowRegistration_iff _).mpr ⟨rfl, List.Pairwise.nil⟩

end RegistryRun

/-- **Ages and the order of registration.**

In a run of registrations with fresh ids, accesses and increments, the ages fall
along the order of registration in every state, and the candidates of the
strategy `age` come in this order, exactly if every block is accessed at a step
that no block registered before it is below, and none after it above, and no
block is registered while an age is negative. -/
theorem ages_follow_registration_iff (numLayers numHeads blockSize headDim : Nat)
    (ops : List AgeOp)
    (hfresh : StepsMeet RegistryRun.perform RegistryRun.FreshId
      (RegistryRun.init numLayers numHeads blockSize headDim) ops) :
    Throughout RegistryRun.perform RegistryRun.AgesFollowRegistration
        (RegistryRun.init numLayers numHeads blockSize headDim) ops ↔
      StepsMeet RegistryRun.perform RegistryRun.AgesInOrder
        (RegistryRun.init numLayers numHeads blockSize headDim) ops := by
  have hstep : ∀ (s : RegistryRun) (op : AgeOp), s.FreshId op → s.AgesInOrder op →
      s.AgesFollowRegistration → (s.perform op).AgesFollowRegistration := by
    intro s op hnew hop hs
    exact (RegistryRun.agesFollowRegistration_perform_iff hs hnew).mpr hop
  have hbreak : ∀ (s : RegistryRun) (op : AgeOp), s.FreshId op → s.AgesFollowRegistration →
      ¬s.AgesInOrder op → ¬(s.perform op).AgesFollowRegistration := by
    intro s op hnew hs hop
    exact mt (RegistryRun.agesFollowRegistration_perform_iff hs hnew).mp hop
  exact throughout_iff_stepsMeet_of_stepsMeet hstep (fun _ h => h) hbreak ops _ hfresh
    (RegistryRun.agesFollowRegistration_init numLayers numHeads blockSize headDim)

/-- A younger block is accessed before the next increment. -/
theorem young_block_overtakes :
    let ops : List AgeOp :=
      [.registerBlock 1 0 0 "r", .registerBlock 2 0 0 "r", .markAccessed 2 5]
    StepsMeet RegistryRun.perform RegistryRun.FreshId (RegistryRun.init 1 1 16 128) ops ∧
      ¬Throughout RegistryRun.perform RegistryRun.AgesFollowRegistration
        (RegistryRun.init 1 1 16 128) ops := by
  intro ops
  refine ⟨by decide, ?_⟩
  intro h
  exact absurd (h ops (List.prefix_refl ops)).ages (by decide)

theorem ages_follow_registration_incremented :
    Throughout RegistryRun.perform RegistryRun.AgesFollowRegistration (RegistryRun.init 1 1 16 128)
      [.registerBlock 1 0 0 "r", .incrementAge 5, .registerBlock 2 0 0 "r", .markAccessed 2 5,
        .incrementAge 6, .markAccessed 1 7, .markAccessed 2 7] := by
  apply (ages_follow_registration_iff 1 1 16 128 _ (by decide)).mpr
  decide

end KVOrchestrator.Ports
