import KVOrchestrator.Ports.Schema
import KVOrchestrator.Verified.OrdDict
import KVOrchestrator.Verified.Ranking
import KVOrchestrator.Verified.Builtins
import Mathlib.Algebra.BigOperators.Group.List.Basic
import Mathlib.Algebra.Order.BigOperators.Group.List
import Mathlib.Algebra.Order.Field.Rat
import Mathlib.Tactic.Positivity
import Mathlib.Tactic.Ring

/-!
# The block registry (`src/telemetry/block_tracker.py`)

The tracker is a dictionary from block ids to block states.  Both facts the
source relies on, no id twice and every state stored under its own id, are
fields of the structure, so an ill-keyed tracker cannot be built.  Each method
is one atomic step: the source holds the reentrant lock around it.

Attention arrays are flattened lists whose non-finite entries are `none`.
-/

namespace KVOrchestrator.Ports

open KVOrchestrator.Verified

def bytesPerElementFp16 : Nat := 2

def bytesPerElementInt8 : Nat := 1

structure BlockTracker where
  numLayers : Nat
  numHeads : Nat
  blockSize : Nat := 16
  headDim : Nat := 128
  /-- block id → block state -/
  blocks : OrdDict Int BlockState := OrdDict.empty
  keyed : ∀ k b, (k, b) ∈ blocks.entries → b.blockId = k := by
    intro k b h
    cases h

namespace BlockTracker

/-- Bytes in one FP16 block. -/
def blockBytesFp16 (t : BlockTracker) : Nat :=
  2 * t.numHeads * t.blockSize * t.headDim * bytesPerElementFp16

/-- Bytes in one quantised block. -/
def blockBytesInt8 (t : BlockTracker) : Nat :=
  2 * t.numHeads * t.blockSize * t.headDim * bytesPerElementInt8

theorem blockBytesFp16_eq (t : BlockTracker) : t.blockBytesFp16 = 2 * t.blockBytesInt8 := by
  simp only [blockBytesFp16, blockBytesInt8, bytesPerElementFp16, bytesPerElementInt8]
  omega

/-- The same tracker with another dictionary. -/
def withBlocks (t : BlockTracker) (d : OrdDict Int BlockState)
    (h : ∀ k b, (k, b) ∈ d.entries → b.blockId = k) : BlockTracker where
  numLayers := t.numLayers
  numHeads := t.numHeads
  blockSize := t.blockSize
  headDim := t.headDim
  blocks := d
  keyed := h

@[simp] theorem blocks_withBlocks (t : BlockTracker) (d : OrdDict Int BlockState)
    (h : ∀ k b, (k, b) ∈ d.entries → b.blockId = k) : (t.withBlocks d h).blocks = d := rfl

theorem withBlocks_congr (t : BlockTracker) {d e : OrdDict Int BlockState} (hde : d = e)
    (hd : ∀ k b, (k, b) ∈ d.entries → b.blockId = k)
    (he : ∀ k b, (k, b) ∈ e.entries → b.blockId = k) :
    t.withBlocks d hd = t.withBlocks e he := by
  subst hde
  rfl

theorem withBlocks_self (t : BlockTracker) : t.withBlocks t.blocks t.keyed = t := rfl

/-- Rewrite or drop every block in place; the function may not rename a block. -/
def updateBlocks (t : BlockTracker) (f : BlockState → Option BlockState)
    (hf : ∀ b b', f b = some b' → b'.blockId = b.blockId) : BlockTracker :=
  t.withBlocks (t.blocks.update (fun _ b => f b)) (by
    intro k b' h
    obtain ⟨b, hb, hfb⟩ := (OrdDict.mem_entries_update _ _ _ _).mp h
    rw [hf b b' hfb, t.keyed k b hb])

/-! ## Block lifecycle -/

/-- Create and register a new block on the FP16 tier; an existing block of
that id is overwritten. -/
def registerBlock (t : BlockTracker) (blockId layerId headGroup : Int)
    (requestId : String) : BlockTracker :=
  t.withBlocks
    (t.blocks.set blockId
      { blockId := blockId
        layerId := layerId
        headGroup := headGroup
        requestId := requestId
        currentTier := .gpuFp16 })
    (by
      intro k b h
      rcases OrdDict.mem_entries_set _ _ _ _ _ h with ⟨rfl, rfl⟩ | hold
      · rfl
      · exact t.keyed k b hold)

/-- Remove a block; the popped state, marked `EVICTED`, is returned. -/
def evictBlock (t : BlockTracker) (blockId : Int) : BlockTracker × Option BlockState :=
  ( t.updateBlocks (fun b => if b.blockId = blockId then none else some b) (by
      intro b b' h
      by_cases hb : b.blockId = blockId
      · simp [hb] at h
      · simp only [if_neg hb, Option.some.injEq] at h
        rw [h]),
    (t.blocks.get? blockId).map (fun b => { b with currentTier := .evicted }) )

/-! ## State updates -/

/-- Replace the state of one block, if it is tracked. -/
def modifyBlock (t : BlockTracker) (blockId : Int) (f : BlockState → BlockState)
    (hf : ∀ b, (f b).blockId = b.blockId) : BlockTracker :=
  t.updateBlocks (fun b => some (if b.blockId = blockId then f b else b)) (by
    intro b b' h
    simp only [Option.some.injEq] at h
    subst h
    split
    · exact hf b
    · rfl)

/-- Smoothing factor of the attention average. -/
def attentionAlpha : ℚ := 1 / 10

/-- Update rolling attention statistics; only finite values are considered. -/
def updateAttention (t : BlockTracker) (blockId : Int)
    (attentionScores : List (Option ℚ)) : BlockTracker :=
  let finite := attentionScores.filterMap id
  if finite.isEmpty then t
  else
    let batchMean := finite.sum / finite.length
    let batchMax := maxD finite 0
    t.modifyBlock blockId
      (fun b =>
        if b.accessCount = 0 then
          { b with
            avgAttentionScore := batchMean
            maxAttentionScore := batchMax }
        else
          { b with
            avgAttentionScore :=
              attentionAlpha * batchMean + (1 - attentionAlpha) * b.avgAttentionScore
            maxAttentionScore := max b.maxAttentionScore batchMax })
      (by intro b; split <;> rfl)

/-- Increment the access counter and update the last-access step. -/
def markAccessed (t : BlockTracker) (blockId : Int) (step : Int) : BlockTracker :=
  t.modifyBlock blockId
    (fun b =>
      { b with
        accessCount := b.accessCount + 1
        lastAccessStep := step
        blockAgeSteps := step })
    (fun _ => rfl)

/-- Move a block to a different storage tier. -/
def updateTier (t : BlockTracker) (blockId : Int) (tier : BlockTier) : BlockTracker :=
  t.modifyBlock blockId (fun b => { b with currentTier := tier }) (fun _ => rfl)

/-- Attach the current memory snapshot to a block. -/
def updateMemorySnapshot (t : BlockTracker) (blockId : Int)
    (gpuMemUsedMb gpuMemFreeMb : ℚ) : BlockTracker :=
  t.modifyBlock blockId
    (fun b =>
      { b with
        gpuMemUsedMb := gpuMemUsedMb
        gpuMemFreeMb := gpuMemFreeMb })
    (fun _ => rfl)

/-- Write the importance score produced by the policy engine. -/
def setImportanceScore (t : BlockTracker) (blockId : Int) (score : ℚ) : BlockTracker :=
  t.modifyBlock blockId (fun b => { b with importanceScore := score }) (fun _ => rfl)

/-- Flag whether the block's prefix was reused from a prior request. -/
def markPrefixReuse (t : BlockTracker) (blockId : Int) (reused : Bool := true) :
    BlockTracker :=
  t.modifyBlock blockId (fun b => { b with prefixReuseFlag := reused }) (fun _ => rfl)

/-! ## Read accessors -/

def getBlock (t : BlockTracker) (blockId : Int) : Option BlockState := t.blocks.get? blockId

/-- A snapshot list of all tracked blocks, in dictionary order. -/
def getAllBlocks (t : BlockTracker) : List BlockState := t.blocks.values

/-- The tracked ids, in dictionary order. -/
def ids (t : BlockTracker) : List Int := t.blocks.keys

/-- The number of tracked blocks in one tier. -/
def tierCount (t : BlockTracker) (tier : BlockTier) : Nat :=
  t.getAllBlocks.countP (fun b => b.currentTier = tier)

/-! ## Memory statistics -/

structure MemoryStats where
  totalBlocks : Nat
  blocksPerTier : BlockTier → Nat
  estimatedGpuMb : ℚ
  estimatedCpuMb : ℚ
  blockSize : Nat
  numLayers : Nat
  numHeads : Nat

/-- Estimated memory consumption per tier. -/
def getMemoryStats (t : BlockTracker) : MemoryStats :=
  let fp16Blocks := t.tierCount .gpuFp16
  let quantBlocks := t.tierCount .gpuQuantized
  let cpuBlocks := t.tierCount .cpuOffloaded
  let gpuBytes := fp16Blocks * t.blockBytesFp16 + quantBlocks * t.blockBytesInt8
  let cpuBytes := cpuBlocks * t.blockBytesFp16
  { totalBlocks := t.getAllBlocks.length
    blocksPerTier := t.tierCount
    estimatedGpuMb := (gpuBytes : ℚ) / (1024 ^ 2 : ℚ)
    estimatedCpuMb := (cpuBytes : ℚ) / (1024 ^ 2 : ℚ)
    blockSize := t.blockSize
    numLayers := t.numLayers
    numHeads := t.numHeads }

/-! ## Candidate selection -/

/-- Up to `n` GPU blocks most likely to benefit from migration. -/
def getCandidateBlocks (t : BlockTracker) (n : Int) (strategy : String := "lru") :
    Except PyError (List BlockState) :=
  let candidates := t.getAllBlocks.filter
    (fun b => b.currentTier = .gpuFp16 ∨ b.currentTier = .gpuQuantized)
  if strategy = "lru" then .ok (sliceTo (sortBy (·.lastAccessStep) candidates) n)
  else if strategy = "low_attention" then
    .ok (sliceTo (sortBy (·.avgAttentionScore) candidates) n)
  else if strategy = "age" then
    .ok (sliceTo (sortBy (fun b => -b.blockAgeSteps) candidates) n)
  else if strategy = "importance" then
    .ok (sliceTo (sortBy (·.importanceScore) candidates) n)
  else
    .error (.valueError ("Unknown candidate strategy '" ++ strategy ++
      "'. Choose from: lru, low_attention, age, importance."))

/-! ## Bulk operations -/

/-- Remove all blocks of a completed request; returns how many there were. -/
def releaseRequestBlocks (t : BlockTracker) (requestId : String) : BlockTracker × Nat :=
  let stale := (t.getAllBlocks.filter (fun b => b.requestId = requestId)).map (·.blockId)
  (stale.foldl (fun t bid => (t.evictBlock bid).1) t, stale.length)

/-- Set the age of every tracked block to the global decoding step. -/
def incrementAge (t : BlockTracker) (step : Int) : BlockTracker :=
  t.updateBlocks (fun b => some { b with blockAgeSteps := step }) (by
    intro b b' h
    simp only [Option.some.injEq] at h
    subst h
    rfl)

/-! ## What the operations do to the block list -/

theorem map_blockId_getAllBlocks (t : BlockTracker) :
    t.getAllBlocks.map (·.blockId) = t.ids := by
  rw [getAllBlocks, ids, OrdDict.values, OrdDict.keys, List.map_map]
  refine List.map_congr_left ?_
  intro e he
  exact t.keyed e.1 e.2 he

theorem nodup_blockIds (t : BlockTracker) : (t.getAllBlocks.map (·.blockId)).Nodup := by
  rw [map_blockId_getAllBlocks]
  exact t.blocks.nodup_keys

theorem mem_getAllBlocks_iff (t : BlockTracker) (b : BlockState) :
    b ∈ t.getAllBlocks ↔ (b.blockId, b) ∈ t.blocks.entries := by
  rw [getAllBlocks, OrdDict.values, List.mem_map]
  constructor
  · rintro ⟨⟨k, b'⟩, hmem, rfl⟩
    rw [t.keyed k b' hmem]
    exact hmem
  · intro h
    exact ⟨_, h, rfl⟩

theorem getBlock_eq_some_iff (t : BlockTracker) (i : Int) (b : BlockState) :
    t.getBlock i = some b ↔ b ∈ t.getAllBlocks ∧ b.blockId = i := by
  rw [getBlock, OrdDict.get?_eq_some_iff, mem_getAllBlocks_iff]
  constructor
  · intro h
    have hi := t.keyed i b h
    rw [hi]
    exact ⟨h, rfl⟩
  · rintro ⟨h, rfl⟩
    exact h

theorem getBlock_of_mem (t : BlockTracker) {b : BlockState} (hb : b ∈ t.getAllBlocks) :
    t.getBlock b.blockId = some b :=
  (t.getBlock_eq_some_iff _ _).mpr ⟨hb, rfl⟩

theorem getBlock_eq_none_iff (t : BlockTracker) (i : Int) :
    t.getBlock i = none ↔ i ∉ t.ids :=
  t.blocks.get?_eq_none_iff i

theorem getAllBlocks_updateBlocks (t : BlockTracker) (f : BlockState → Option BlockState)
    (hf : ∀ b b', f b = some b' → b'.blockId = b.blockId) :
    (t.updateBlocks f hf).getAllBlocks = t.getAllBlocks.filterMap f := by
  rw [getAllBlocks, updateBlocks, blocks_withBlocks, OrdDict.values_update, getAllBlocks,
    OrdDict.values, List.filterMap_map]
  rfl

theorem getBlock_updateBlocks (t : BlockTracker) (f : BlockState → Option BlockState)
    (hf : ∀ b b', f b = some b' → b'.blockId = b.blockId) (i : Int) :
    (t.updateBlocks f hf).getBlock i = (t.getBlock i).bind f :=
  OrdDict.get?_update _ _ _

@[simp] theorem blockBytesInt8_updateBlocks (t : BlockTracker)
    (f : BlockState → Option BlockState)
    (hf : ∀ b b', f b = some b' → b'.blockId = b.blockId) :
    (t.updateBlocks f hf).blockBytesInt8 = t.blockBytesInt8 := rfl

/-- Two in-place passes are one pass with the composed function. -/
theorem updateBlocks_updateBlocks (t : BlockTracker) (f g : BlockState → Option BlockState)
    (hf : ∀ b b', f b = some b' → b'.blockId = b.blockId)
    (hg : ∀ b b', g b = some b' → b'.blockId = b.blockId) :
    (t.updateBlocks f hf).updateBlocks g hg =
      t.updateBlocks (fun b => (f b).bind g) (by
        intro b b'' h
        obtain ⟨b', hb, hb'⟩ := Option.bind_eq_some_iff.mp h
        rw [hg b' b'' hb', hf b b' hb]) := by
  exact withBlocks_congr t
    (OrdDict.update_update (fun _ b => f b) (fun _ b => g b) t.blocks) _ _

theorem updateBlocks_congr (t : BlockTracker) {f g : BlockState → Option BlockState}
    (hf : ∀ b b', f b = some b' → b'.blockId = b.blockId)
    (hg : ∀ b b', g b = some b' → b'.blockId = b.blockId)
    (h : ∀ b ∈ t.getAllBlocks, f b = g b) :
    t.updateBlocks f hf = t.updateBlocks g hg := by
  refine withBlocks_congr t (OrdDict.update_congr ?_) _ _
  intro k b hb
  exact h b ((t.mem_getAllBlocks_iff b).mpr (by rwa [t.keyed k b hb]))

/-- The in-place pass that returns every block is the identity. -/
theorem updateBlocks_some (t : BlockTracker) :
    t.updateBlocks some (by intro b b' h; cases h; rfl) = t := by
  have h := withBlocks_congr t (OrdDict.update_some t.blocks)
    (t.updateBlocks some (by intro b b' h; cases h; rfl)).keyed t.keyed
  exact h.trans t.withBlocks_self

theorem getAllBlocks_evictBlock (t : BlockTracker) (i : Int) :
    (t.evictBlock i).1.getAllBlocks = t.getAllBlocks.filter (fun b => decide (b.blockId ≠ i)) := by
  rw [evictBlock, getAllBlocks_updateBlocks, ← List.filterMap_eq_filter]
  refine List.filterMap_congr ?_
  intro b _
  by_cases hb : b.blockId = i <;> simp [hb, Option.guard]

theorem mem_modifyBlock {t : BlockTracker} {i : Int} {f : BlockState → BlockState}
    {hf : ∀ b, (f b).blockId = b.blockId} {b : BlockState}
    (hb : b ∈ (t.modifyBlock i f hf).getAllBlocks) :
    ∃ b' ∈ t.getAllBlocks, b = f b' ∨ b = b' := by
  rw [modifyBlock, getAllBlocks_updateBlocks, List.mem_filterMap] at hb
  obtain ⟨b', hb', heq⟩ := hb
  simp only [Option.some.injEq] at heq
  refine ⟨b', hb', ?_⟩
  by_cases hi : b'.blockId = i
  · exact .inl (by rw [← heq, if_pos hi])
  · exact .inr (by rw [← heq, if_neg hi])

/-- A registration adds one fresh FP16 block and nothing else. -/
theorem mem_registerBlock {t : BlockTracker} {blockId layerId headGroup : Int}
    {requestId : String} {b : BlockState}
    (hb : b ∈ (t.registerBlock blockId layerId headGroup requestId).getAllBlocks) :
    b = { blockId := blockId, layerId := layerId, headGroup := headGroup,
          requestId := requestId } ∨ b ∈ t.getAllBlocks := by
  rw [mem_getAllBlocks_iff] at hb
  rcases OrdDict.mem_entries_set _ _ _ _ _ hb with ⟨_, hfresh⟩ | hold
  · exact .inl hfresh
  · exact .inr ((t.mem_getAllBlocks_iff b).mpr hold)

private theorem getAllBlocks_foldl_evictBlock :
    ∀ (stale : List Int) (t : BlockTracker),
      (stale.foldl (fun t bid => (t.evictBlock bid).1) t).getAllBlocks =
        t.getAllBlocks.filter (fun b => decide (b.blockId ∉ stale)) := by
  intro stale
  induction stale with
  | nil => intro t; simp
  | cons i stale ih =>
      intro t
      rw [List.foldl_cons, ih, getAllBlocks_evictBlock, List.filter_filter]
      congr 1
      funext b
      simp only [List.mem_cons, not_or, Bool.decide_and]
      exact Bool.and_comm _ _

/-- Releasing a request removes exactly its own blocks. -/
theorem getAllBlocks_releaseRequestBlocks (t : BlockTracker) (requestId : String) :
    (t.releaseRequestBlocks requestId).1.getAllBlocks =
      t.getAllBlocks.filter (fun b => decide (b.requestId ≠ requestId)) := by
  rw [releaseRequestBlocks, getAllBlocks_foldl_evictBlock]
  refine List.filter_congr ?_
  intro b hb
  rw [decide_eq_decide]
  constructor
  · intro h hreq
    exact h (List.mem_map_of_mem (List.mem_filter.mpr ⟨hb, by simpa using hreq⟩))
  · intro h hmem
    obtain ⟨b', hb', hid⟩ := List.mem_map.mp hmem
    rw [List.mem_filter] at hb'
    have : b' = b := eq_of_name_eq t.nodup_blockIds hb'.1 hb hid
    subst this
    exact h (by simpa using hb'.2)

end BlockTracker

/-! ## GPU memory as a weighted block count -/

/-- GPU bytes a block takes in a tier, in units of one quantised block. -/
def BlockTier.gpuWeight : BlockTier → Nat
  | .gpuFp16 => 2
  | .gpuQuantized => 1
  | .cpuOffloaded => 0
  | .evicted => 0

namespace BlockTracker

/-- GPU bytes of all tracked blocks, in units of one quantised block. -/
def gpuUnits (t : BlockTracker) : Nat :=
  (t.getAllBlocks.map (fun b => b.currentTier.gpuWeight)).sum

theorem gpuUnits_eq (t : BlockTracker) :
    t.gpuUnits = 2 * t.tierCount .gpuFp16 + t.tierCount .gpuQuantized := by
  simp only [gpuUnits, tierCount]
  induction t.getAllBlocks with
  | nil => rfl
  | cons b rest ih =>
      simp only [List.map_cons, List.sum_cons, List.countP_cons, ih]
      cases b.currentTier <;> simp [BlockTier.gpuWeight] <;> omega

/-- `estimated_gpu_mb` is proportional to the weighted block count. -/
theorem estimatedGpuMb_eq (t : BlockTracker) :
    t.getMemoryStats.estimatedGpuMb =
      (t.gpuUnits : ℚ) * t.blockBytesInt8 / (1024 ^ 2 : ℚ) := by
  simp only [getMemoryStats, blockBytesFp16_eq, gpuUnits_eq]
  push_cast
  ring

theorem estimatedGpuMb_nonneg (t : BlockTracker) : 0 ≤ t.getMemoryStats.estimatedGpuMb := by
  rw [estimatedGpuMb_eq]
  positivity

theorem estimatedGpuMb_pos_iff (t : BlockTracker) :
    0 < t.getMemoryStats.estimatedGpuMb ↔ 0 < t.gpuUnits ∧ 0 < t.blockBytesInt8 := by
  rw [estimatedGpuMb_eq, div_pos_iff_of_pos_right (by positivity)]
  have hcast : ((t.gpuUnits : ℚ) * t.blockBytesInt8) =
      ((t.gpuUnits * t.blockBytesInt8 : Nat) : ℚ) := by
    push_cast
    rfl
  rw [hcast, Nat.cast_pos, Nat.pos_iff_ne_zero, Nat.mul_ne_zero_iff, Nat.pos_iff_ne_zero,
    Nat.pos_iff_ne_zero]

/-- Some block on the GPU makes the weighted count positive. -/
theorem gpuUnits_pos_of_mem {t : BlockTracker} {b : BlockState} (hb : b ∈ t.getAllBlocks)
    (hw : 0 < b.currentTier.gpuWeight) : 0 < t.gpuUnits :=
  lt_of_lt_of_le hw (List.single_le_sum (by simp) _ (List.mem_map_of_mem hb))

end BlockTracker

end KVOrchestrator.Ports
