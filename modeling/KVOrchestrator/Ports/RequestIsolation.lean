import KVOrchestrator.Ports.AttentionHistory
import KVOrchestrator.Verified.Dynamics

/-!
# Requests on a shared tracker

All requests of a server write to one tracker, under a lock that makes each
method atomic, and their calls interleave in any order.  The docstring of the
registry calls it the single source of truth for block placement and lifecycle
counters; this module says for whom.  A call changes one block as that block
alone determines (`localStep_perform`).  So where no id is used by two requests,
what a request sees of its blocks, and what its calls return, are what its own
calls would have left and returned without the others
(`request_unaffected_by_others`), and the order in which the requests were
interleaved leaves no trace but the order of the dictionary
(`interleavings_agree`).
-/

namespace KVOrchestrator.Ports

open KVOrchestrator.Verified

/-- A call of a tracker method that writes. -/
inductive BlockOp where
  | registerBlock (blockId layerId headGroup : Int) (requestId : String)
  | evictBlock (blockId : Int)
  | updateAttention (blockId : Int) (attentionScores : List (Option ℚ))
  | markAccessed (blockId step : Int)
  | updateTier (blockId : Int) (tier : BlockTier)
  | updateMemorySnapshot (blockId : Int) (gpuMemUsedMb gpuMemFreeMb : ℚ)
  | setImportanceScore (blockId : Int) (score : ℚ)
  | markPrefixReuse (blockId : Int) (reused : Bool)
  | releaseRequestBlocks (requestId : String)
  | incrementAge (step : Int)

/-- What a call returns. -/
inductive Returned where
  | nothing
  | state (b : Option BlockState)
  | count (n : Nat)

namespace BlockTracker

def perform (t : BlockTracker) : BlockOp → BlockTracker
  | .registerBlock blockId layerId headGroup requestId =>
      t.registerBlock blockId layerId headGroup requestId
  | .evictBlock blockId => (t.evictBlock blockId).1
  | .updateAttention blockId attentionScores => t.updateAttention blockId attentionScores
  | .markAccessed blockId step => t.markAccessed blockId step
  | .updateTier blockId tier => t.updateTier blockId tier
  | .updateMemorySnapshot blockId gpuMemUsedMb gpuMemFreeMb =>
      t.updateMemorySnapshot blockId gpuMemUsedMb gpuMemFreeMb
  | .setImportanceScore blockId score => t.setImportanceScore blockId score
  | .markPrefixReuse blockId reused => t.markPrefixReuse blockId reused
  | .releaseRequestBlocks requestId => (t.releaseRequestBlocks requestId).1
  | .incrementAge step => t.incrementAge step

/-- What the caller gets back: the state registered, the state popped, or the
number of blocks released. -/
def returned (t : BlockTracker) : BlockOp → Returned
  | .registerBlock blockId layerId headGroup requestId =>
      .state ((t.registerBlock blockId layerId headGroup requestId).getBlock blockId)
  | .evictBlock blockId => .state (t.evictBlock blockId).2
  | .releaseRequestBlocks requestId => .count (t.releaseRequestBlocks requestId).2
  | _ => .nothing

end BlockTracker

/-! ## One call at one block -/

/-- A block after an attention update. -/
def attended (attentionScores : List (Option ℚ)) (b : BlockState) : BlockState :=
  let finite := attentionScores.filterMap id
  if finite.isEmpty then b
  else if b.accessCount = 0 then
    { b with
      avgAttentionScore := finite.sum / finite.length
      maxAttentionScore := maxD finite 0 }
  else
    { b with
      avgAttentionScore :=
        BlockTracker.attentionAlpha * (finite.sum / finite.length) +
          (1 - BlockTracker.attentionAlpha) * b.avgAttentionScore
      maxAttentionScore := max b.maxAttentionScore (maxD finite 0) }

namespace BlockOp

/-- What a call makes of the entry of block `i`. -/
def effect (i : Int) (v : Option BlockState) : BlockOp → Option BlockState
  | .registerBlock blockId layerId headGroup requestId =>
      if i = blockId then
        some
          { blockId := blockId
            layerId := layerId
            headGroup := headGroup
            requestId := requestId
            currentTier := .gpuFp16 }
      else v
  | .evictBlock blockId => if i = blockId then none else v
  | .updateAttention blockId attentionScores =>
      if i = blockId then v.map (attended attentionScores) else v
  | .markAccessed blockId step =>
      if i = blockId then
        v.map (fun b =>
          { b with
            accessCount := b.accessCount + 1
            lastAccessStep := step
            blockAgeSteps := step })
      else v
  | .updateTier blockId tier =>
      if i = blockId then v.map (fun b => { b with currentTier := tier }) else v
  | .updateMemorySnapshot blockId gpuMemUsedMb gpuMemFreeMb =>
      if i = blockId then
        v.map (fun b =>
          { b with
            gpuMemUsedMb := gpuMemUsedMb
            gpuMemFreeMb := gpuMemFreeMb })
      else v
  | .setImportanceScore blockId score =>
      if i = blockId then v.map (fun b => { b with importanceScore := score }) else v
  | .markPrefixReuse blockId reused =>
      if i = blockId then v.map (fun b => { b with prefixReuseFlag := reused }) else v
  | .releaseRequestBlocks requestId => v.filter (fun b => decide (b.requestId ≠ requestId))
  | .incrementAge step => v.map (fun b => { b with blockAgeSteps := step })

end BlockOp

namespace BlockTracker

/-- Rewriting one block is seen at its id only. -/
theorem getBlock_modifyBlock_eq (t : BlockTracker) (j i : Int) (f : BlockState → BlockState)
    (hf : ∀ b, (f b).blockId = b.blockId) :
    (t.modifyBlock j f hf).getBlock i = if i = j then (t.getBlock i).map f else t.getBlock i := by
  cases hb : t.getBlock i with
  | none =>
      rw [getBlock_modifyBlock, hb]
      simp
  | some b =>
      rw [exists_getBlock_modifyBlock hb]
      split <;> rfl

theorem getBlock_registerBlock (t : BlockTracker) (blockId layerId headGroup : Int)
    (requestId : String) (i : Int) :
    (t.registerBlock blockId layerId headGroup requestId).getBlock i =
      (BlockOp.registerBlock blockId layerId headGroup requestId).effect i (t.getBlock i) := by
  rw [getBlock, registerBlock, blocks_withBlocks, BlockOp.effect]
  by_cases hi : i = blockId
  · rw [if_pos hi, hi, OrdDict.get?_set_self]
  · rw [if_neg hi, OrdDict.get?_set_of_ne _ hi]
    rfl

theorem getBlock_evictBlock (t : BlockTracker) (blockId i : Int) :
    (t.evictBlock blockId).1.getBlock i = if i = blockId then none else t.getBlock i := by
  rw [evictBlock, getBlock_updateBlocks]
  cases hb : t.getBlock i with
  | none => simp
  | some b =>
      rw [Option.bind_some, ((t.getBlock_eq_some_iff i b).mp hb).2]

theorem getBlock_updateAttention (t : BlockTracker) (blockId : Int)
    (attentionScores : List (Option ℚ)) (i : Int) :
    (t.updateAttention blockId attentionScores).getBlock i =
      if i = blockId then (t.getBlock i).map (attended attentionScores) else t.getBlock i := by
  simp only [updateAttention]
  by_cases hempty : (attentionScores.filterMap id).isEmpty
  · have hid : attended attentionScores = id := by
      funext b
      exact if_pos hempty
    rw [if_pos hempty, hid, Option.map_id, id, ite_self]
  · rw [if_neg hempty, getBlock_modifyBlock_eq]
    have hone : attended attentionScores = _ := funext (fun b => if_neg hempty)
    rw [hone]

theorem getBlock_releaseRequestBlocks (t : BlockTracker) (requestId : String) (i : Int) :
    (t.releaseRequestBlocks requestId).1.getBlock i =
      (t.getBlock i).filter (fun b => decide (b.requestId ≠ requestId)) := by
  apply Option.ext
  intro b
  rw [getBlock_eq_some_iff, getAllBlocks_releaseRequestBlocks, List.mem_filter,
    Option.filter_eq_some_iff, getBlock_eq_some_iff]
  tauto

/-- A call changes a block as that block alone determines. -/
theorem localStep_perform :
    LocalStep perform getBlock (fun op i v => BlockOp.effect i v op) := by
  intro t op i
  cases op with
  | registerBlock blockId layerId headGroup requestId =>
      exact t.getBlock_registerBlock blockId layerId headGroup requestId i
  | evictBlock blockId => exact t.getBlock_evictBlock blockId i
  | updateAttention blockId attentionScores =>
      exact t.getBlock_updateAttention blockId attentionScores i
  | markAccessed blockId step =>
      refine t.getBlock_modifyBlock_eq blockId i _ ?_
      intro b
      rfl
  | updateTier blockId tier =>
      refine t.getBlock_modifyBlock_eq blockId i _ ?_
      intro b
      rfl
  | updateMemorySnapshot blockId gpuMemUsedMb gpuMemFreeMb =>
      refine t.getBlock_modifyBlock_eq blockId i _ ?_
      intro b
      rfl
  | setImportanceScore blockId score =>
      refine t.getBlock_modifyBlock_eq blockId i _ ?_
      intro b
      rfl
  | markPrefixReuse blockId reused =>
      refine t.getBlock_modifyBlock_eq blockId i _ ?_
      intro b
      rfl
  | releaseRequestBlocks requestId => exact t.getBlock_releaseRequestBlocks requestId i
  | incrementAge step =>
      show (t.incrementAge step).getBlock i =
        (t.getBlock i).map (fun b => { b with blockAgeSteps := step })
      rw [incrementAge, getBlock_updateBlocks, Option.map_eq_bind]
      rfl

end BlockTracker

/-! ## Ownership -/

section Ownership

variable (owner : Int → String)

namespace BlockOp

/-- The request on whose behalf a call is made; the age tick serves all. -/
def request : BlockOp → Option String
  | .registerBlock blockId _ _ _ => some (owner blockId)
  | .evictBlock blockId => some (owner blockId)
  | .updateAttention blockId _ => some (owner blockId)
  | .markAccessed blockId _ => some (owner blockId)
  | .updateTier blockId _ => some (owner blockId)
  | .updateMemorySnapshot blockId _ _ => some (owner blockId)
  | .setImportanceScore blockId _ => some (owner blockId)
  | .markPrefixReuse blockId _ => some (owner blockId)
  | .releaseRequestBlocks requestId => some requestId
  | .incrementAge _ => none

/-- The calls that matter to request `r`. -/
def concerns (r : String) (op : BlockOp) : Bool :=
  decide (op.request owner = none ∨ op.request owner = some r)

/-- An id is registered for its owner only. -/
def Respects : BlockOp → Prop
  | .registerBlock blockId _ _ requestId => requestId = owner blockId
  | _ => True

instance (op : BlockOp) : Decidable (op.Respects owner) := by
  cases op <;> unfold Respects <;> infer_instance

end BlockOp

/-- The entry at `i` is a block of the owner of `i`, if it is there. -/
def Held (i : Int) (v : Option BlockState) : Prop :=
  ∀ b, v = some b → b.requestId = owner i

variable {owner}

theorem Held.map {i : Int} {v : Option BlockState} (h : Held owner i v)
    {f : BlockState → BlockState} (hf : ∀ b, (f b).requestId = b.requestId) :
    Held owner i (v.map f) := by
  intro b hb
  rw [Option.map_eq_some_iff] at hb
  obtain ⟨b', hb', rfl⟩ := hb
  rw [hf, h b' hb']

theorem Held.ite {i : Int} {v w : Option BlockState} (hv : Held owner i v)
    (hw : Held owner i w) (p : Prop) [Decidable p] : Held owner i (if p then w else v) := by
  by_cases hp : p
  · rwa [if_pos hp]
  · rwa [if_neg hp]

theorem requestId_attended (attentionScores : List (Option ℚ)) (b : BlockState) :
    (attended attentionScores b).requestId = b.requestId := by
  unfold attended
  dsimp only
  split
  · rfl
  · split <;> rfl

/-- A call that registers ids for their owners only keeps every entry with the
owner of its id. -/
theorem Held.effect {i : Int} {v : Option BlockState} {op : BlockOp} (h : Held owner i v)
    (hop : op.Respects owner) : Held owner i (op.effect i v) := by
  cases op with
  | registerBlock blockId layerId headGroup requestId =>
      by_cases hi : i = blockId
      · intro b hb
        rw [BlockOp.effect, if_pos hi, Option.some.injEq] at hb
        rw [← hb, hi]
        exact hop
      · rwa [BlockOp.effect, if_neg hi]
  | evictBlock blockId =>
      refine h.ite ?_ (i = blockId)
      intro b hb
      cases hb
  | updateAttention blockId attentionScores =>
      exact h.ite (h.map (requestId_attended attentionScores)) (i = blockId)
  | markAccessed blockId step =>
      refine h.ite (h.map ?_) (i = blockId)
      intro b
      rfl
  | updateTier blockId tier =>
      refine h.ite (h.map ?_) (i = blockId)
      intro b
      rfl
  | updateMemorySnapshot blockId gpuMemUsedMb gpuMemFreeMb =>
      refine h.ite (h.map ?_) (i = blockId)
      intro b
      rfl
  | setImportanceScore blockId score =>
      refine h.ite (h.map ?_) (i = blockId)
      intro b
      rfl
  | markPrefixReuse blockId reused =>
      refine h.ite (h.map ?_) (i = blockId)
      intro b
      rfl
  | releaseRequestBlocks requestId =>
      intro b hb
      rw [BlockOp.effect, Option.filter_eq_some_iff] at hb
      exact h b hb.1
  | incrementAge step =>
      refine h.map ?_
      intro b
      rfl

/-- A call of another request leaves the entry. -/
theorem BlockOp.effect_of_not_concerns {i : Int} {v : Option BlockState} {op : BlockOp}
    (hop : op.concerns owner (owner i) = false) (h : Held owner i v) : op.effect i v = v := by
  rw [BlockOp.concerns, decide_eq_false_iff_not, not_or] at hop
  have hother : ∀ blockId, op.request owner = some (owner blockId) → i ≠ blockId := by
    intro blockId hreq hi
    rw [← hi] at hreq
    exact hop.2 hreq
  cases op with
  | registerBlock blockId layerId headGroup requestId => exact if_neg (hother blockId rfl)
  | evictBlock blockId => exact if_neg (hother blockId rfl)
  | updateAttention blockId attentionScores => exact if_neg (hother blockId rfl)
  | markAccessed blockId step => exact if_neg (hother blockId rfl)
  | updateTier blockId tier => exact if_neg (hother blockId rfl)
  | updateMemorySnapshot blockId gpuMemUsedMb gpuMemFreeMb => exact if_neg (hother blockId rfl)
  | setImportanceScore blockId score => exact if_neg (hother blockId rfl)
  | markPrefixReuse blockId reused => exact if_neg (hother blockId rfl)
  | releaseRequestBlocks requestId =>
      cases hv : v with
      | none => rfl
      | some b =>
          rw [BlockOp.effect, Option.filter_some, if_pos]
          rw [decide_eq_true_eq, h b hv]
          intro hsame
          exact hop.2 (by rw [BlockOp.request, hsame])
  | incrementAge step => exact absurd rfl hop.1

/-- Every tracked block belongs to the owner of its id. -/
def Owned (owner : Int → String) (t : BlockTracker) : Prop :=
  ∀ b ∈ t.getAllBlocks, b.requestId = owner b.blockId

theorem Owned.held {t : BlockTracker} (h : Owned owner t) (i : Int) :
    Held owner i (t.getBlock i) := by
  intro b hb
  obtain ⟨hmem, hid⟩ := (t.getBlock_eq_some_iff i b).mp hb
  rw [h b hmem, hid]

theorem Owned.run {t : BlockTracker} (h : Owned owner t) {ops : List BlockOp}
    (hops : ∀ op ∈ ops, op.Respects owner) :
    Owned owner (Verified.run BlockTracker.perform t ops) := by
  intro b hb
  have hget := BlockTracker.getBlock_of_mem _ hb
  rw [BlockTracker.localStep_perform.run] at hget
  have hheld : Held owner b.blockId
      (Verified.run (fun v op => BlockOp.effect b.blockId v op) (t.getBlock b.blockId) ops) :=
    run_invariant_of_forall (P := BlockOp.Respects owner) (fun v op hop hv => hv.effect hop)
      ops _ hops (h.held b.blockId)
  exact hheld b hget

/-- An entry after a run is what the calls of its owner alone make of it. -/
theorem getBlock_run_eq {t : BlockTracker} (h : Owned owner t) {ops : List BlockOp}
    (hops : ∀ op ∈ ops, op.Respects owner) (i : Int) :
    (run BlockTracker.perform t ops).getBlock i =
      (run BlockTracker.perform t (ops.filter (·.concerns owner (owner i)))).getBlock i := by
  have hkeep : ∀ op ∈ ops, ∀ v, Held owner i v → Held owner i (op.effect i v) :=
    fun op hop v hv => hv.effect (hops op hop)
  have hskip : ∀ op ∈ ops, ∀ v, Held owner i v → op.concerns owner (owner i) = false →
      op.effect i v = v := fun _ _ _ hv hno => BlockOp.effect_of_not_concerns hno hv
  rw [BlockTracker.localStep_perform.run, BlockTracker.localStep_perform.run]
  exact run_filter ops (t.getBlock i) hkeep hskip (h.held i)

/-! ## What a request sees -/

/-- A request's blocks after a run are those its own calls leave, in some
order. -/
theorem perm_own_blocks {t : BlockTracker} (h : Owned owner t) {ops : List BlockOp}
    (hops : ∀ op ∈ ops, op.Respects owner) (r : String) :
    ((run BlockTracker.perform t ops).getAllBlocks.filter (fun b => b.requestId = r)).Perm
      ((run BlockTracker.perform t (ops.filter (·.concerns owner r))).getAllBlocks.filter
        (fun b => b.requestId = r)) := by
  have hown := h.run hops
  have hown' := h.run (fun op hop => hops op (List.mem_of_mem_filter hop) :
    ∀ op ∈ ops.filter (·.concerns owner r), op.Respects owner)
  rw [List.perm_ext_iff_of_nodup ((BlockTracker.nodup_blockIds _).of_map.filter _)
    ((BlockTracker.nodup_blockIds _).of_map.filter _)]
  intro b
  simp only [List.mem_filter, decide_eq_true_eq]
  by_cases hr : owner b.blockId = r
  · have hget := getBlock_run_eq h hops b.blockId
    rw [hr] at hget
    have hmem : ∀ u : BlockTracker, b ∈ u.getAllBlocks ↔ u.getBlock b.blockId = some b := by
      intro u
      rw [BlockTracker.getBlock_eq_some_iff]
      tauto
    rw [hmem, hmem, hget]
  · constructor
    · intro hb
      exact absurd (by rw [← hown b hb.1, hb.2]) hr
    · intro hb
      exact absurd (by rw [← hown' b hb.1, hb.2]) hr

/-- Whatever the other requests do in between, a request finds its blocks as its
own calls and the age ticks leave them, and its next call returns what it would
return without the others. -/
theorem request_unaffected_by_others {t : BlockTracker} (h : Owned owner t)
    {ops : List BlockOp} (hops : ∀ op ∈ ops, op.Respects owner) (r : String) :
    (∀ i, owner i = r →
      (run BlockTracker.perform t ops).getBlock i =
        (run BlockTracker.perform t (ops.filter (·.concerns owner r))).getBlock i) ∧
    ∀ op : BlockOp, op.request owner = some r →
      (run BlockTracker.perform t ops).returned op =
        (run BlockTracker.perform t (ops.filter (·.concerns owner r))).returned op := by
  have hget : ∀ i, owner i = r →
      (run BlockTracker.perform t ops).getBlock i =
        (run BlockTracker.perform t (ops.filter (·.concerns owner r))).getBlock i := by
    intro i hi
    rw [← hi]
    exact getBlock_run_eq h hops i
  refine ⟨hget, fun op hop => ?_⟩
  cases op with
  | registerBlock blockId layerId headGroup requestId =>
      simp only [BlockTracker.returned, BlockTracker.getBlock_registerBlock, BlockOp.effect,
        if_true]
  | evictBlock blockId =>
      have hblock := hget blockId (Option.some.inj hop)
      simp only [BlockTracker.getBlock] at hblock
      simp only [BlockTracker.returned, BlockTracker.evictBlock, hblock]
  | releaseRequestBlocks requestId =>
      have hsame : requestId = r := Option.some.inj hop
      simp only [BlockTracker.returned, BlockTracker.releaseRequestBlocks, List.length_map,
        hsame, (perm_own_blocks h hops r).length_eq]
  | updateAttention _ _ => rfl
  | markAccessed _ _ => rfl
  | updateTier _ _ => rfl
  | updateMemorySnapshot _ _ _ => rfl
  | setImportanceScore _ _ => rfl
  | markPrefixReuse _ _ => rfl
  | incrementAge _ => rfl

/-- Ids below ten are request `a`'s, the others request `b`'s. -/
private def twoOwners (i : Int) : String := if i < 10 then "a" else "b"

private def mixedCalls : List BlockOp :=
  [.registerBlock 1 0 0 "a", .registerBlock 11 0 0 "b", .markAccessed 1 1, .incrementAge 2,
    .updateTier 11 .cpuOffloaded, .registerBlock 2 0 0 "a", .releaseRequestBlocks "b",
    .updateAttention 1 [some (1 / 2), none]]

private def reorderedCalls : List BlockOp :=
  [.registerBlock 11 0 0 "b", .registerBlock 1 0 0 "a", .markAccessed 1 1, .incrementAge 2,
    .updateTier 11 .cpuOffloaded, .releaseRequestBlocks "b", .registerBlock 2 0 0 "a",
    .updateAttention 1 [some (1 / 2), none]]

private theorem owned_empty : Owned twoOwners { numLayers := 1, numHeads := 1 } := by
  intro b hb
  cases hb

private theorem mixedCalls_respect : ∀ op ∈ mixedCalls, op.Respects twoOwners := by decide

theorem request_unaffected_by_others_two :
    ((run BlockTracker.perform { numLayers := 1, numHeads := 1 } mixedCalls).returned
        (.releaseRequestBlocks "a") =
      (run BlockTracker.perform { numLayers := 1, numHeads := 1 }
        (mixedCalls.filter (·.concerns twoOwners "a"))).returned (.releaseRequestBlocks "a")) ∧
    (mixedCalls.filter (·.concerns twoOwners "a")).length = 5 :=
  ⟨(request_unaffected_by_others owned_empty mixedCalls_respect "a").2
    (.releaseRequestBlocks "a") rfl, by decide⟩

/-! ## Interleavings -/

/-- The sizes a tracker is built with. -/
def BlockTracker.layout (t : BlockTracker) : Nat × Nat × Nat × Nat :=
  (t.numLayers, t.numHeads, t.blockSize, t.headDim)

theorem BlockTracker.layout_perform (t : BlockTracker) (op : BlockOp) :
    (t.perform op).layout = t.layout := by
  cases op with
  | updateAttention blockId attentionScores =>
      simp only [perform, updateAttention]
      split <;> rfl
  | releaseRequestBlocks requestId =>
      show ((((t.getAllBlocks.filter (fun b => b.requestId = requestId)).map (·.blockId)).foldl
        (fun t bid => (t.evictBlock bid).1) t)).layout = t.layout
      generalize (t.getAllBlocks.filter (fun b => b.requestId = requestId)).map (·.blockId) = stale
      induction stale generalizing t with
      | nil => rfl
      | cons bid stale ih => exact (ih _).trans rfl
  | _ => rfl

theorem BlockTracker.layout_run (t : BlockTracker) (ops : List BlockOp) :
    (run perform t ops).layout = t.layout := by
  have hstep : ∀ (u : BlockTracker) (op : BlockOp), u.layout = t.layout →
      (u.perform op).layout = t.layout := fun u op hu => (u.layout_perform op).trans hu
  exact run_invariant hstep ops t rfl

/-- The statistics see the layout and the multiset of blocks. -/
theorem BlockTracker.getMemoryStats_congr {t u : BlockTracker} (hlayout : t.layout = u.layout)
    (hblocks : t.getAllBlocks.Perm u.getAllBlocks) : t.getMemoryStats = u.getMemoryStats := by
  simp only [layout, Prod.mk.injEq] at hlayout
  have htier : t.tierCount = u.tierCount := by
    funext tier
    exact hblocks.countP_eq _
  simp only [getMemoryStats, htier, hblocks.length_eq, blockBytesFp16, blockBytesInt8, hlayout]

/-- Two interleavings of the same calls, each request's own calls in the same
order, leave the same blocks and the same memory statistics. -/
theorem interleavings_agree {t : BlockTracker} (h : Owned owner t) {ops ops' : List BlockOp}
    (hops : ∀ op ∈ ops, op.Respects owner) (hops' : ∀ op ∈ ops', op.Respects owner)
    (hsame : ∀ r, ops.filter (·.concerns owner r) = ops'.filter (·.concerns owner r)) :
    (∀ i, (run BlockTracker.perform t ops).getBlock i =
      (run BlockTracker.perform t ops').getBlock i) ∧
    (run BlockTracker.perform t ops).getAllBlocks.Perm
      (run BlockTracker.perform t ops').getAllBlocks ∧
    (run BlockTracker.perform t ops).getMemoryStats =
      (run BlockTracker.perform t ops').getMemoryStats := by
  have hget : ∀ i, (run BlockTracker.perform t ops).getBlock i =
      (run BlockTracker.perform t ops').getBlock i := by
    intro i
    rw [getBlock_run_eq h hops, getBlock_run_eq h hops', hsame]
  have hblocks : (run BlockTracker.perform t ops).getAllBlocks.Perm
      (run BlockTracker.perform t ops').getAllBlocks :=
    (OrdDict.entries_perm_of_get? hget).map Prod.snd
  refine ⟨hget, hblocks, BlockTracker.getMemoryStats_congr ?_ hblocks⟩
  rw [BlockTracker.layout_run, BlockTracker.layout_run]

theorem interleavings_agree_two :
    (run BlockTracker.perform { numLayers := 1, numHeads := 1 } mixedCalls).getMemoryStats =
      (run BlockTracker.perform { numLayers := 1, numHeads := 1 }
        reorderedCalls).getMemoryStats := by
  have hserved : ∀ op ∈ mixedCalls ++ reorderedCalls, op.request twoOwners = none ∨
      op.request twoOwners = some "a" ∨ op.request twoOwners = some "b" := by decide
  refine (interleavings_agree owned_empty mixedCalls_respect (by decide) ?_).2.2
  intro r
  by_cases ha : r = "a"
  · subst ha
    rfl
  · by_cases hb : r = "b"
    · subst hb
      rfl
    · have hother : ∀ op ∈ mixedCalls ++ reorderedCalls,
          op.concerns twoOwners r = op.concerns twoOwners "c" := by
        intro op hop
        rcases hserved op hop with hreq | hreq | hreq
        · simp [BlockOp.concerns, hreq]
        · simp [BlockOp.concerns, hreq, Ne.symm ha]
        · simp [BlockOp.concerns, hreq, Ne.symm hb]
      rw [List.filter_congr (fun op hop => hother op (List.mem_append_left _ hop)),
        List.filter_congr (fun op hop => hother op (List.mem_append_right _ hop))]
      rfl

end Ownership

end KVOrchestrator.Ports
