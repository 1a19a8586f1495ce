import KVOrchestrator.Ports.PolicyEngine

/-!
# What a decision list does to the tracker

`applyDecisions` runs through an arbitrary list: ids may repeat, be unknown,
or vanish midway.  Because every decision rewrites or drops blocks where they
stand, the whole pass is one in-place update (`applyDecisions_eq`), and its
effect on a single block is decided by two questions about the list: does it
evict the block, and which decision on the block comes last (`replay_eq`).

For a list with one decision per id, as every built-in policy returns, the
effect is that of the one decision (`replay_of_nodup`).
-/

namespace KVOrchestrator.Ports

open KVOrchestrator.Verified

/-- What a decision makes of its own block. -/
def PolicyDecision.outcome (d : PolicyDecision) (b : BlockState) : Option BlockState :=
  if d.decision = .evict then none
  else some { b with
    currentTier := d.decision.tier
    importanceScore := d.score }

/-- What a decision makes of any block. -/
def replayOne (b : BlockState) (d : PolicyDecision) : Option BlockState :=
  if b.blockId = d.blockId then d.outcome b else some b

/-- What a decision list makes of a block. -/
def replay (decisions : List PolicyDecision) (b : BlockState) : Option BlockState :=
  decisions.foldlM replayOne b

/-- Some decision of the list evicts the id. -/
def EvictedBy (decisions : List PolicyDecision) (blockId : Int) : Prop :=
  ∃ d ∈ decisions, d.blockId = blockId ∧ d.decision = .evict

instance (decisions : List PolicyDecision) (blockId : Int) :
    Decidable (EvictedBy decisions blockId) := by
  unfold EvictedBy
  infer_instance

/-- The last decision of the list on the id. -/
def lastDecision (decisions : List PolicyDecision) (blockId : Int) : Option PolicyDecision :=
  (decisions.filter (fun d => decide (d.blockId = blockId))).getLast?

/-- A block with the tier and the score of a decision, or as it was. -/
def stamp (d? : Option PolicyDecision) (b : BlockState) : BlockState :=
  match d? with
  | some d => { b with
      currentTier := d.decision.tier
      importanceScore := d.score }
  | none => b

@[simp] theorem blockId_stamp (d? : Option PolicyDecision) (b : BlockState) :
    (stamp d? b).blockId = b.blockId := by
  cases d? <;> rfl

theorem avgAttentionScore_stamp (d? : Option PolicyDecision) (b : BlockState) :
    (stamp d? b).avgAttentionScore = b.avgAttentionScore := by
  cases d? <;> rfl

theorem stamp_stamp (d : PolicyDecision) (d? : Option PolicyDecision) (b : BlockState) :
    stamp d? (stamp (some d) b) = stamp (d?.or (some d)) b := by
  cases d? <;> rfl

theorem blockId_replayOne {d : PolicyDecision} {b b' : BlockState}
    (h : replayOne b d = some b') : b'.blockId = b.blockId := by
  unfold replayOne PolicyDecision.outcome at h
  split at h
  · split at h
    · cases h
    · rw [← Option.some.inj h]
  · rw [← Option.some.inj h]

theorem blockId_replay (decisions : List PolicyDecision) :
    ∀ b b', replay decisions b = some b' → b'.blockId = b.blockId := by
  unfold replay
  induction decisions with
  | nil =>
      intro b b' h
      rw [Option.some.inj h]
  | cons d rest ih =>
      intro b b' h
      rw [List.foldlM_cons] at h
      obtain ⟨b₁, hone, hrest⟩ := Option.bind_eq_some_iff.mp h
      rw [ih b₁ b' hrest, blockId_replayOne hone]

/-- One decision is one in-place update. -/
theorem applyDecision_eq (t : BlockTracker) (d : PolicyDecision) :
    applyDecision t d =
      t.updateBlocks (fun b => replayOne b d) (fun _ _ => blockId_replayOne) := by
  unfold applyDecision
  split
  · rename_i hevict
    simp only [BlockTracker.evictBlock]
    refine t.updateBlocks_congr _ _ ?_
    intro b _
    simp only [replayOne, PolicyDecision.outcome, if_pos hevict]
  · rename_i hkeep
    -- the tier and the score are written by two atomic updates
    rw [BlockTracker.setImportanceScore, BlockTracker.modifyBlock, BlockTracker.updateTier,
      BlockTracker.modifyBlock, BlockTracker.updateBlocks_updateBlocks]
    refine t.updateBlocks_congr _ _ ?_
    intro b _
    by_cases hid : b.blockId = d.blockId
    · simp [replayOne, PolicyDecision.outcome, hkeep, hid]
    · simp [replayOne, hid]

/-- **Applying decisions is one in-place update** by their replay. -/
theorem applyDecisions_eq (decisions : List PolicyDecision) :
    ∀ t : BlockTracker,
      applyDecisions t decisions =
        t.updateBlocks (replay decisions) (blockId_replay decisions) := by
  induction decisions with
  | nil =>
      intro t
      exact t.updateBlocks_some.symm
  | cons d rest ih =>
      intro t
      have hcons : applyDecisions t (d :: rest) = applyDecisions (applyDecision t d) rest := rfl
      rw [hcons, ih, applyDecision_eq, BlockTracker.updateBlocks_updateBlocks]
      refine t.updateBlocks_congr _ _ ?_
      intro b _
      rw [replay, List.foldlM_cons]
      rfl

theorem getAllBlocks_applyDecisions (t : BlockTracker) (decisions : List PolicyDecision) :
    (applyDecisions t decisions).getAllBlocks =
      t.getAllBlocks.filterMap (replay decisions) := by
  rw [applyDecisions_eq, BlockTracker.getAllBlocks_updateBlocks]

theorem getBlock_applyDecisions (t : BlockTracker) (decisions : List PolicyDecision) (i : Int) :
    (applyDecisions t decisions).getBlock i = (t.getBlock i).bind (replay decisions) := by
  rw [applyDecisions_eq, BlockTracker.getBlock_updateBlocks]

/-! ## The effect on one block -/

theorem evictedBy_cons (d : PolicyDecision) (rest : List PolicyDecision) (i : Int) :
    EvictedBy (d :: rest) i ↔ (d.blockId = i ∧ d.decision = .evict) ∨ EvictedBy rest i := by
  simp [EvictedBy]

theorem lastDecision_cons_self {d : PolicyDecision} (rest : List PolicyDecision) {i : Int}
    (h : d.blockId = i) :
    lastDecision (d :: rest) i = (lastDecision rest i).or (some d) := by
  rw [lastDecision, List.filter_cons_of_pos (by simpa using h), List.getLast?_cons, lastDecision]
  cases (rest.filter (fun d => decide (d.blockId = i))).getLast? <;> rfl

theorem lastDecision_cons_ne {d : PolicyDecision} (rest : List PolicyDecision) {i : Int}
    (h : d.blockId ≠ i) : lastDecision (d :: rest) i = lastDecision rest i := by
  rw [lastDecision, List.filter_cons_of_neg (by simpa using h), lastDecision]

/-- A block is dropped when some decision evicts it, and otherwise carries the
last decision on it. -/
theorem replay_eq (decisions : List PolicyDecision) :
    ∀ b : BlockState,
      replay decisions b =
        if EvictedBy decisions b.blockId then none
        else some (stamp (lastDecision decisions b.blockId) b) := by
  induction decisions with
  | nil =>
      intro b
      rw [if_neg (by simp [EvictedBy])]
      rfl
  | cons d rest ih =>
      intro b
      have hcons : replay (d :: rest) b = (replayOne b d).bind (replay rest) := by
        rw [replay, List.foldlM_cons]
        rfl
      by_cases hid : d.blockId = b.blockId
      · by_cases hevict : d.decision = .evict
        · rw [hcons, if_pos ((evictedBy_cons d rest _).mpr (.inl ⟨hid, hevict⟩))]
          simp [replayOne, PolicyDecision.outcome, hid, hevict]
        · have hone : replayOne b d = some (stamp (some d) b) := by
            simp [replayOne, PolicyDecision.outcome, hid, hevict, stamp]
          have hiff : EvictedBy (d :: rest) b.blockId ↔ EvictedBy rest b.blockId := by
            simp [evictedBy_cons, hevict]
          rw [hcons, hone, Option.bind_some, ih, blockId_stamp, stamp_stamp,
            lastDecision_cons_self rest hid]
          simp only [hiff]
      · have hone : replayOne b d = some b := if_neg (fun h => hid h.symm)
        have hiff : EvictedBy (d :: rest) b.blockId ↔ EvictedBy rest b.blockId := by
          simp [evictedBy_cons, hid]
        rw [hcons, hone, Option.bind_some, ih, lastDecision_cons_ne rest hid]
        simp only [hiff]

/-- The ids left are those no decision evicts, in the old order. -/
theorem ids_applyDecisions (t : BlockTracker) (decisions : List PolicyDecision) :
    (applyDecisions t decisions).ids =
      t.ids.filter (fun i => decide (¬EvictedBy decisions i)) := by
  rw [← BlockTracker.map_blockId_getAllBlocks, getAllBlocks_applyDecisions,
    ← BlockTracker.map_blockId_getAllBlocks]
  induction t.getAllBlocks with
  | nil => rfl
  | cons b rest ih =>
      rw [List.map_cons, List.filterMap_cons, replay_eq]
      by_cases hevict : EvictedBy decisions b.blockId
      · rw [if_pos hevict, List.filter_cons_of_neg (by simpa using hevict)]
        exact ih
      · rw [if_neg hevict, List.filter_cons_of_pos (by simpa using hevict)]
        simp only [List.map_cons, blockId_stamp]
        rw [ih]

/-- The decision that comes last is one of the list's on the id. -/
theorem mem_of_lastDecision {decisions : List PolicyDecision} {i : Int} {d : PolicyDecision}
    (h : lastDecision decisions i = some d) : d ∈ decisions ∧ d.blockId = i := by
  have hmem := List.mem_of_getLast? h
  rwa [List.mem_filter, decide_eq_true_iff] at hmem

/-- The blocks left are those no decision evicts, each with the last decision
on it. -/
theorem mem_getAllBlocks_applyDecisions {t : BlockTracker} {decisions : List PolicyDecision}
    {b : BlockState} :
    b ∈ (applyDecisions t decisions).getAllBlocks ↔
      ∃ b' ∈ t.getAllBlocks, ¬EvictedBy decisions b'.blockId ∧
        stamp (lastDecision decisions b'.blockId) b' = b := by
  rw [getAllBlocks_applyDecisions, List.mem_filterMap]
  apply exists_congr
  intro b'
  rw [replay_eq]
  by_cases hevicted : EvictedBy decisions b'.blockId
  · simp [hevicted]
  · simp [hevicted]

theorem getBlock_applyDecisions_of_mem {t : BlockTracker} {b : BlockState}
    (hb : b ∈ t.getAllBlocks) (decisions : List PolicyDecision) :
    (applyDecisions t decisions).getBlock b.blockId =
      if EvictedBy decisions b.blockId then none
      else some (stamp (lastDecision decisions b.blockId) b) := by
  rw [getBlock_applyDecisions, t.getBlock_of_mem hb, Option.bind_some, replay_eq]

/-- A list that evicts nothing rewrites the blocks where they stand. -/
theorem getAllBlocks_applyDecisions_of_no_evict {decisions : List PolicyDecision}
    (hkeep : ∀ d ∈ decisions, d.decision ≠ .evict) (t : BlockTracker) :
    (applyDecisions t decisions).getAllBlocks =
      t.getAllBlocks.map (fun b => stamp (lastDecision decisions b.blockId) b) := by
  rw [getAllBlocks_applyDecisions, ← List.filterMap_eq_map]
  apply List.filterMap_congr
  intro b _
  have hnone : ¬EvictedBy decisions b.blockId := by
    rintro ⟨d, hd, _, hevict⟩
    exact hkeep d hd hevict
  rw [replay_eq, if_neg hnone]
  rfl

/-- **The same list a second time changes nothing.** -/
theorem applyDecisions_applyDecisions (t : BlockTracker) (decisions : List PolicyDecision) :
    applyDecisions (applyDecisions t decisions) decisions = applyDecisions t decisions := by
  rw [applyDecisions_eq, applyDecisions_eq, BlockTracker.updateBlocks_updateBlocks]
  refine t.updateBlocks_congr _ _ ?_
  intro b _
  rw [replay_eq]
  split
  · rfl
  · rename_i hkept
    rw [Option.bind_some, replay_eq, blockId_stamp, if_neg hkept]
    cases lastDecision decisions b.blockId <;> rfl

/-! ## Lists with one decision per id -/

/-- The decision of a list on an id. -/
def decisionFor (decisions : List PolicyDecision) (blockId : Int) : Option PolicyDecision :=
  decisions.find? (fun d => decide (d.blockId = blockId))

theorem decisionFor_of_mem {decisions : List PolicyDecision}
    (hnodup : (decisions.map (·.blockId)).Nodup) {d : PolicyDecision} (hd : d ∈ decisions) :
    decisionFor decisions d.blockId = some d := by
  have h := find?_map_of_name (f := (·.blockId)) hnodup id (·.blockId) (fun _ _ => rfl) hd
  simpa [decisionFor] using h

theorem decisionFor_eq_some_iff {decisions : List PolicyDecision}
    (hnodup : (decisions.map (·.blockId)).Nodup) (i : Int) (d : PolicyDecision) :
    decisionFor decisions i = some d ↔ d ∈ decisions ∧ d.blockId = i := by
  constructor
  · intro h
    exact ⟨List.mem_of_find?_eq_some h, by simpa using List.find?_some h⟩
  · rintro ⟨hd, rfl⟩
    exact decisionFor_of_mem hnodup hd

/-- Where ids do not repeat, the last decision on an id is the only one. -/
theorem lastDecision_of_nodup {decisions : List PolicyDecision}
    (hnodup : (decisions.map (·.blockId)).Nodup) (i : Int) :
    lastDecision decisions i = decisionFor decisions i := by
  cases hlast : lastDecision decisions i with
  | some d =>
      have hmem := List.mem_of_getLast? hlast
      rw [List.mem_filter, decide_eq_true_iff] at hmem
      exact ((decisionFor_eq_some_iff hnodup i d).mpr hmem).symm
  | none =>
      rw [lastDecision, List.getLast?_eq_none_iff, List.filter_eq_nil_iff] at hlast
      rw [decisionFor, eq_comm, List.find?_eq_none]
      exact hlast

/-- Where ids do not repeat, a block meets its one decision or none. -/
theorem replay_of_nodup {decisions : List PolicyDecision}
    (hnodup : (decisions.map (·.blockId)).Nodup) (b : BlockState) :
    replay decisions b =
      match decisionFor decisions b.blockId with
      | some d => d.outcome b
      | none => some b := by
  rw [replay_eq, lastDecision_of_nodup hnodup]
  cases hfor : decisionFor decisions b.blockId with
  | none =>
      rw [if_neg]
      · rfl
      · rintro ⟨d, hd, hid, _⟩
        have := (decisionFor_eq_some_iff hnodup _ d).mpr ⟨hd, hid⟩
        rw [hfor] at this
        cases this
  | some d =>
      have hd := (decisionFor_eq_some_iff hnodup _ d).mp hfor
      have hiff : EvictedBy decisions b.blockId ↔ d.decision = .evict := by
        constructor
        · rintro ⟨d', hd', hid', hevict⟩
          have := (decisionFor_eq_some_iff hnodup _ d').mpr ⟨hd', hid'⟩
          rw [hfor] at this
          rw [Option.some.inj this]
          exact hevict
        · intro hevict
          exact ⟨d, hd.1, hd.2, hevict⟩
      simp only [hiff, PolicyDecision.outcome, stamp]

/-- Under one verdict per tracked block, each block meets its own. -/
theorem replay_map {t : BlockTracker} {g : BlockState → PolicyDecision}
    (hg : ∀ b ∈ t.getAllBlocks, (g b).blockId = b.blockId) {b : BlockState}
    (hb : b ∈ t.getAllBlocks) : replay (t.getAllBlocks.map g) b = (g b).outcome b := by
  have hids : (t.getAllBlocks.map g).map (·.blockId) = t.getAllBlocks.map (·.blockId) := by
    rw [List.map_map]
    exact List.map_congr_left hg
  have hnodup : ((t.getAllBlocks.map g).map (·.blockId)).Nodup := hids ▸ t.nodup_blockIds
  have hfor : decisionFor (t.getAllBlocks.map g) b.blockId = some (g b) :=
    (decisionFor_eq_some_iff hnodup _ _).mpr ⟨List.mem_map_of_mem hb, hg b hb⟩
  rw [replay_of_nodup hnodup, hfor]

/-- A cycle's decision list that is one verdict per tracked block acts on the
blocks one by one. -/
theorem getAllBlocks_applyDecisions_map (t : BlockTracker) {g : BlockState → PolicyDecision}
    (hg : ∀ b ∈ t.getAllBlocks, (g b).blockId = b.blockId) :
    (applyDecisions t (t.getAllBlocks.map g)).getAllBlocks =
      t.getAllBlocks.filterMap (fun b => (g b).outcome b) := by
  rw [getAllBlocks_applyDecisions]
  exact List.filterMap_congr (fun b hb => replay_map hg hb)

/-- Verdicts that agree with the blocks as they stand change nothing. -/
theorem applyDecisions_map_eq_self {t : BlockTracker} {g : BlockState → PolicyDecision}
    (hg : ∀ b ∈ t.getAllBlocks, (g b).blockId = b.blockId)
    (hself : ∀ b ∈ t.getAllBlocks, (g b).outcome b = some b) :
    applyDecisions t (t.getAllBlocks.map g) = t := by
  rw [applyDecisions_eq]
  calc t.updateBlocks _ (blockId_replay (t.getAllBlocks.map g))
      = t.updateBlocks some (by intro b b' h; cases h; rfl) := by
        refine t.updateBlocks_congr _ _ ?_
        intro b hb
        rw [replay_map hg hb, hself b hb]
    _ = t := t.updateBlocks_some

/-! ## Passes that keep or evict -/

section Kept

variable {t : BlockTracker} {verdict : BlockState → PolicyDecision} {kept : List Int}
  (hids : ∀ b, (verdict b).blockId = b.blockId)
  (hdecision : ∀ b ∈ t.getAllBlocks,
    (verdict b).decision = if b.blockId ∈ kept then .keepGpu else .evict)

include hids hdecision

/-- Where the verdicts keep some ids and evict the others, the kept blocks are
left, in FP16. -/
theorem getAllBlocks_applyDecisions_kept :
    (applyDecisions t (t.getAllBlocks.map verdict)).getAllBlocks =
      (t.getAllBlocks.filter (fun b => decide (b.blockId ∈ kept))).map (fun b => { b with
        currentTier := .gpuFp16
        importanceScore := (verdict b).score }) := by
  rw [getAllBlocks_applyDecisions_map t (fun b _ => hids b), ← List.filterMap_eq_map,
    List.filterMap_filter]
  apply List.filterMap_congr
  intro b hb
  rw [PolicyDecision.outcome, hdecision b hb]
  by_cases hkept : b.blockId ∈ kept
  · rw [if_pos hkept, if_pos (decide_eq_true hkept)]
    rfl
  · rw [if_neg hkept, if_pos rfl, if_neg (by rw [decide_eq_true_iff]; exact hkept)]

theorem ids_applyDecisions_map :
    (applyDecisions t (t.getAllBlocks.map verdict)).ids =
      t.ids.filter (fun i => decide (i ∈ kept)) := by
  rw [← BlockTracker.map_blockId_getAllBlocks, getAllBlocks_applyDecisions_kept hids hdecision,
    List.map_map, ← BlockTracker.map_blockId_getAllBlocks, List.filter_map]
  rfl

end Kept

@[simp] theorem blockBytesInt8_applyDecisions (t : BlockTracker)
    (decisions : List PolicyDecision) :
    (applyDecisions t decisions).blockBytesInt8 = t.blockBytesInt8 := by
  rw [applyDecisions_eq, BlockTracker.blockBytesInt8_updateBlocks]

end KVOrchestrator.Ports
