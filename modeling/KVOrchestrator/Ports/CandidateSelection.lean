import KVOrchestrator.Ports.BlockTracker

/-!
# Candidate selection as a query

`get_candidate_blocks` sorts the blocks that are on the GPU by the key of its
strategy and returns a prefix.  Whatever the strategy, the prefix is the answer
to the query for the `n` smallest keys (`SmallestByKey`): `sortBy` is stable, so
equal keys come in the order of the dictionary, and no block left out has a
smaller key than one returned.
-/

namespace KVOrchestrator.Ports

open KVOrchestrator.Verified

/-- `b.current_tier in (BlockTier.GPU_FP16, BlockTier.GPU_QUANTIZED)` -/
def BlockState.OnGpu (b : BlockState) : Prop :=
  b.currentTier = .gpuFp16 ∨ b.currentTier = .gpuQuantized

instance (b : BlockState) : Decidable b.OnGpu := inferInstanceAs (Decidable (_ ∨ _))

namespace BlockTracker

/-- The blocks on the GPU, in dictionary order. -/
def gpuBlocks (t : BlockTracker) : List BlockState :=
  t.getAllBlocks.filter (fun b => decide b.OnGpu)

/-- The list answers the query for `n` GPU blocks of smallest key. -/
structure SmallestByKey {κ : Type} [LinearOrder κ] (t : BlockTracker) (key : BlockState → κ)
    (n : Nat) (result : List BlockState) : Prop where
  length_result : result.length = min n t.gpuBlocks.length
  distinct : (result.map (·.blockId)).Nodup
  onGpu : ∀ b ∈ result, b ∈ t.getAllBlocks ∧ b.OnGpu
  /-- Smaller keys first, equal keys in dictionary order. -/
  ordered : result.Pairwise (fun a b =>
    key a < key b ∨ key a = key b ∧ [a, b].Sublist t.getAllBlocks)
  smallest : ∀ b ∈ t.getAllBlocks, b.OnGpu → b ∉ result → ∀ a ∈ result, key a ≤ key b

/-- The call as a step on the tracker: listing, sorting and cutting read it
only. -/
def candidateCall (n : Int) (strategy : String) :
    StateM BlockTracker (Except PyError (List BlockState)) := do
  let t ← get
  return t.getCandidateBlocks n strategy

/-- The call returns the tracker it got, and the answer to the query of its
strategy. -/
def AnswersByKey {κ : Type} [LinearOrder κ] (strategy : String) (key : BlockState → κ) : Prop :=
  ∀ (t : BlockTracker) (n : Nat), ∃ result,
    (candidateCall n strategy).run t = (.ok result, t) ∧ t.SmallestByKey key n result

variable {κ : Type} [LinearOrder κ]

/-- The first blocks of the ranking answer the query. -/
theorem smallestByKey_take (t : BlockTracker) (key : BlockState → κ) (n : Nat) :
    t.SmallestByKey key n ((sortBy key t.gpuBlocks).take n) := by
  have hperm : (sortBy key t.gpuBlocks).Perm t.gpuBlocks := sortBy_perm key t.gpuBlocks
  have hsub : t.gpuBlocks.Sublist t.getAllBlocks := List.filter_sublist
  have hties : t.gpuBlocks.Pairwise (fun a b => [a, b].Sublist t.getAllBlocks) :=
    List.pairwise_iff_forall_sublist.mpr (fun hab => hab.trans hsub)
  constructor
  case length_result => rw [List.length_take, length_sortBy]
  case distinct =>
    have hids : (t.gpuBlocks.map (·.blockId)).Nodup := (hsub.map _).nodup t.nodup_blockIds
    have hsorted := (hperm.map (·.blockId)).nodup_iff.mpr hids
    exact ((List.take_sublist n _).map _).nodup hsorted
  case onGpu =>
    intro b hb
    have hmem := List.mem_filter.mp (hperm.mem_iff.mp (List.mem_of_mem_take hb))
    exact ⟨hmem.1, of_decide_eq_true hmem.2⟩
  case ordered => exact (pairwise_sortBy_ties hties).sublist (List.take_sublist n _)
  case smallest =>
    intro b hb hgpu hout a ha
    by_contra hlt
    have hmem : b ∈ sortBy key t.gpuBlocks :=
      hperm.mem_iff.mpr (List.mem_filter.mpr ⟨hb, decide_eq_true hgpu⟩)
    exact hout (mem_take_of_pairwise (pairwise_sortBy key t.gpuBlocks) hmem ha hlt)

/-- A strategy that sorts by a key answers the query of the key. -/
theorem answersByKey_of_eq {strategy : String} {key : BlockState → κ}
    (hsort : ∀ (t : BlockTracker) (n : Int),
      t.getCandidateBlocks n strategy = .ok (sliceTo (sortBy key t.gpuBlocks) n)) :
    AnswersByKey strategy key := by
  intro t n
  refine ⟨_, ?_, t.smallestByKey_take key n⟩
  show (t.getCandidateBlocks n strategy, t) = _
  rw [hsort, sliceTo_of_nonneg _ (Int.natCast_nonneg n), Int.toNat_natCast]

end BlockTracker

/-- **Candidate selection is a query for the smallest keys.**

On every tracker and for every number of blocks, each of the four strategies
returns the blocks on the GPU of smallest key, as many as there are, smaller
keys first and equal keys in dictionary order; `age` ranks by the negated age. -/
theorem candidate_selection :
    BlockTracker.AnswersByKey "lru" (·.lastAccessStep) ∧
    BlockTracker.AnswersByKey "low_attention" (·.avgAttentionScore) ∧
    BlockTracker.AnswersByKey "age" (fun b => -b.blockAgeSteps) ∧
    BlockTracker.AnswersByKey "importance" (·.importanceScore) := by
  refine ⟨?_, ?_, ?_, ?_⟩
  · exact BlockTracker.answersByKey_of_eq (fun _ _ => rfl)
  · exact BlockTracker.answersByKey_of_eq (fun _ _ => rfl)
  · exact BlockTracker.answersByKey_of_eq (fun _ _ => rfl)
  · exact BlockTracker.answersByKey_of_eq (fun _ _ => rfl)

end KVOrchestrator.Ports
