import KVOrchestrator.Ports.TrackerUpdates
import KVOrchestrator.Ports.Heuristic
import KVOrchestrator.Verified.MovingAverage
import Mathlib.Data.List.TakeWhile
import Mathlib.Tactic.Linarith
import Mathlib.Tactic.NormNum

/-!
# Attention statistics over a block's history

`update_attention` documents an exponential moving average.  Whether an update
seeds the average or moves it is decided by the access counter, which
`mark_accessed` increments: every update before the first access seeds anew and
forgets what came before, and if the first access comes first, the average and
the maximum move from zero.  The statistics are those of the attention alone
where exactly one update precedes the first access, and otherwise where the
values make up for it (`attention_history_iff`).
-/

namespace KVOrchestrator.Ports

open KVOrchestrator.Verified

/-! ## Histories of one block -/

/-- Mean of the finite values of an update. -/
def batchMean (batch : List ℚ) : ℚ := batch.sum / batch.length

/-- The finite values an operation supplies for a block. -/
def EngineOp.batchOn {π : Type} (i : Int) : EngineOp π → Option (List ℚ)
  | .updateAttention j attentionScores =>
      if j = i ∧ attentionScores.filterMap id ≠ [] then some (attentionScores.filterMap id)
      else none
  | _ => none

/-- The operation is an access of the block. -/
def EngineOp.accesses {π : Type} (i : Int) : EngineOp π → Bool
  | .markAccessed j _ => decide (j = i)
  | _ => false

/-- The batches supplied for a block, in order. -/
def batches {π : Type} (i : Int) (ops : List (EngineOp π)) : List (List ℚ) :=
  ops.filterMap (fun op => op.batchOn i)

/-- Those before the first access of the block. -/
def earlyBatches {π : Type} (i : Int) (ops : List (EngineOp π)) : List (List ℚ) :=
  batches i (ops.takeWhile (fun op => !op.accesses i))

/-- Those after it. -/
def laterBatches {π : Type} (i : Int) (ops : List (EngineOp π)) : List (List ℚ) :=
  batches i (ops.dropWhile (fun op => !op.accesses i))

theorem batches_cons {π : Type} (i : Int) (op : EngineOp π) (rest : List (EngineOp π)) :
    batches i (op :: rest) =
      match op.batchOn i with
      | some batch => batch :: batches i rest
      | none => batches i rest := by
  rw [batches, List.filterMap_cons]
  cases op.batchOn i <;> rfl

theorem batches_eq {π : Type} (i : Int) (ops : List (EngineOp π)) :
    batches i ops = earlyBatches i ops ++ laterBatches i ops := by
  simp only [earlyBatches, laterBatches, batches]
  rw [← List.filterMap_append, List.takeWhile_append_dropWhile]

/-! ## One operation -/

theorem BlockTracker.getBlock_modifyBlock (t : BlockTracker) (j i : Int)
    (f : BlockState → BlockState) (hf : ∀ b, (f b).blockId = b.blockId) :
    (t.modifyBlock j f hf).getBlock i =
      (t.getBlock i).map (fun b => if b.blockId = j then f b else b) := by
  rw [modifyBlock, getBlock_updateBlocks, Option.map_eq_bind]
  rfl

/-- The statistics of a block after an operation on the tracker. -/
structure Observed {π : Type} (i : Int) (op : EngineOp π) (b b' : BlockState) : Prop where
  accessCount : b'.accessCount = if op.accesses i then b.accessCount + 1 else b.accessCount
  unchanged : op.batchOn i = none →
    b'.avgAttentionScore = b.avgAttentionScore ∧ b'.maxAttentionScore = b.maxAttentionScore
  seeded : ∀ batch, op.batchOn i = some batch → b.accessCount = 0 →
    b'.avgAttentionScore = batchMean batch ∧ b'.maxAttentionScore = maxD batch 0
  moved : ∀ batch, op.batchOn i = some batch → b.accessCount ≠ 0 →
    b'.avgAttentionScore = BlockTracker.attentionAlpha * batchMean batch +
        (1 - BlockTracker.attentionAlpha) * b.avgAttentionScore ∧
      b'.maxAttentionScore = max b.maxAttentionScore (maxD batch 0)

/-- An operation that leaves the counter and the statistics of the block. -/
theorem Observed.of_eq {π : Type} {i : Int} {op : EngineOp π} {b b' : BlockState}
    (haccess : op.accesses i = false) (hbatch : op.batchOn i = none)
    (hcount : b'.accessCount = b.accessCount) (havg : b'.avgAttentionScore = b.avgAttentionScore)
    (hmax : b'.maxAttentionScore = b.maxAttentionScore) : Observed i op b b' where
  accessCount := by
    rw [haccess, hcount]
    rfl
  unchanged _ := ⟨havg, hmax⟩
  seeded batch hsome := by
    rw [hbatch] at hsome
    cases hsome
  moved batch hsome := by
    rw [hbatch] at hsome
    cases hsome

/-- A tracked block after the rewriting of one. -/
theorem exists_getBlock_modifyBlock {t : BlockTracker} {i : Int} {b : BlockState}
    (hb : t.getBlock i = some b) (j : Int) {f : BlockState → BlockState}
    (hf : ∀ b, (f b).blockId = b.blockId) :
    (t.modifyBlock j f hf).getBlock i = some (if i = j then f b else b) := by
  have hid := ((t.getBlock_eq_some_iff i b).mp hb).2
  rw [t.getBlock_modifyBlock, hb, Option.map_some, hid]

/-- An attention update feeds its own block the finite values, if there are any. -/
theorem observed_updateAttention {π : Type} {t : BlockTracker} {i : Int} {b : BlockState}
    (hb : t.getBlock i = some b) (j : Int) (attentionScores : List (Option ℚ)) :
    ∃ b', (t.updateAttention j attentionScores).getBlock i = some b' ∧
      Observed i (.updateAttention j attentionScores : EngineOp π) b b' := by
  simp only [BlockTracker.updateAttention]
  by_cases hempty : attentionScores.filterMap id = []
  · rw [if_pos (by simpa using hempty)]
    refine ⟨b, hb, Observed.of_eq rfl ?_ rfl rfl rfl⟩
    rw [EngineOp.batchOn, if_neg (fun h => h.2 hempty)]
  · rw [if_neg (by simpa using hempty)]
    refine ⟨_, exists_getBlock_modifyBlock hb j _, ?_⟩
    by_cases hij : i = j
    · rw [if_pos hij]
      have hbatch : (EngineOp.updateAttention j attentionScores : EngineOp π).batchOn i =
          some (attentionScores.filterMap id) := if_pos ⟨hij.symm, hempty⟩
      constructor
      · show _ = b.accessCount
        split <;> rfl
      · intro hnone
        rw [hbatch] at hnone
        cases hnone
      · intro batch hsome hzero
        rw [hbatch] at hsome
        cases hsome
        rw [if_pos hzero]
        exact ⟨rfl, rfl⟩
      · intro batch hsome hpos
        rw [hbatch] at hsome
        cases hsome
        rw [if_neg hpos]
        exact ⟨rfl, rfl⟩
    · rw [if_neg hij]
      refine Observed.of_eq rfl ?_ rfl rfl rfl
      rw [EngineOp.batchOn, if_neg (fun h => hij h.1.symm)]

/-- An access counts for its own block and feeds none. -/
theorem observed_markAccessed {π : Type} {t : BlockTracker} {i : Int} {b : BlockState}
    (hb : t.getBlock i = some b) (j step : Int) :
    ∃ b', (t.markAccessed j step).getBlock i = some b' ∧
      Observed i (.markAccessed j step : EngineOp π) b b' := by
  refine ⟨_, exists_getBlock_modifyBlock hb j (by intro b; rfl), ?_⟩
  by_cases hij : i = j
  · rw [if_pos hij]
    constructor
    · show b.accessCount + 1 = if decide (j = i) = true then _ else _
      rw [if_pos (decide_eq_true hij.symm)]
    · intro _
      exact ⟨rfl, rfl⟩
    · intro batch hsome
      cases hsome
    · intro batch hsome
      cases hsome
  · rw [if_neg hij]
    apply Observed.of_eq _ rfl rfl rfl rfl
    exact decide_eq_false (fun h => hij h.symm)

theorem EngineOp.IsUpdate.observed {π : Type} {op : EngineOp π} (hop : op.IsUpdate)
    {t : BlockTracker} {i : Int} {b : BlockState} (hb : t.getBlock i = some b) :
    ∃ b', (op.onTracker t).getBlock i = some b' ∧ Observed i op b b' := by
  cases op with
  | updateAttention j attentionScores => exact observed_updateAttention hb j attentionScores
  | markAccessed j step => exact observed_markAccessed hb j step
  | updateMemorySnapshot j gpuMemUsedMb gpuMemFreeMb =>
      refine ⟨_, exists_getBlock_modifyBlock hb j (by intro b; rfl), ?_⟩
      split <;> exact Observed.of_eq rfl rfl rfl rfl rfl
  | markPrefixReuse j reused =>
      refine ⟨_, exists_getBlock_modifyBlock hb j (by intro b; rfl), ?_⟩
      split <;> exact Observed.of_eq rfl rfl rfl rfl rfl
  | incrementAge step =>
      refine ⟨{ b with blockAgeSteps := step }, ?_, Observed.of_eq rfl rfl rfl rfl rfl⟩
      rw [EngineOp.onTracker, BlockTracker.incrementAge, BlockTracker.getBlock_updateBlocks, hb]
      rfl
  | registerBlock | evictBlock | releaseRequestBlocks | runPolicyCycle | overridePolicy =>
      exact hop.elim

/-! ## Two phases -/

/-- The statistics after updates that all find the counter at zero. -/
def reseeded (s : ℚ × ℚ) (bs : List (List ℚ)) : ℚ × ℚ :=
  bs.foldl (fun _ batch => (batchMean batch, maxD batch 0)) s

/-- The statistics after updates that all find it above zero. -/
def moved (s : ℚ × ℚ) (bs : List (List ℚ)) : ℚ × ℚ :=
  (movingAverage BlockTracker.attentionAlpha s.1 (bs.map batchMean),
    bs.foldl (fun greatest batch => max greatest (maxD batch 0)) s.2)

/-- Average and maximum of a block. -/
def BlockState.attention (b : BlockState) : ℚ × ℚ := (b.avgAttentionScore, b.maxAttentionScore)

/-- A sequence of operations on a tracker. -/
def onTrackerRun {π : Type} (t : BlockTracker) (ops : List (EngineOp π)) : BlockTracker :=
  run (fun t op => op.onTracker t) t ops

section Phases

variable {π : Type} {i : Int}

/-- Before the first access every update seeds. -/
theorem exists_block_before_access {ops : List (EngineOp π)} :
    ∀ {t : BlockTracker} {b : BlockState}, (∀ op ∈ ops, op.IsUpdate) →
      (∀ op ∈ ops, op.accesses i = false) → t.getBlock i = some b → b.accessCount = 0 →
      ∃ b', (onTrackerRun t ops).getBlock i = some b' ∧ b'.accessCount = 0 ∧
        b'.attention = reseeded b.attention (batches i ops) := by
  induction ops with
  | nil =>
      intro t b _ _ hb hzero
      exact ⟨b, hb, hzero, rfl⟩
  | cons op rest ih =>
      intro t b hops hquiet hb hzero
      obtain ⟨b₁, hb₁, hobs⟩ := (hops op List.mem_cons_self).observed hb
      have hcount : b₁.accessCount = 0 := by
        rw [hobs.accessCount, hquiet op List.mem_cons_self, if_neg Bool.false_ne_true, hzero]
      obtain ⟨b', hb', hzero', hattention⟩ := ih
        (fun o ho => hops o (List.mem_cons_of_mem op ho))
        (fun o ho => hquiet o (List.mem_cons_of_mem op ho)) hb₁ hcount
      refine ⟨b', hb', hzero', hattention.trans ?_⟩
      rw [batches_cons]
      cases hbatch : op.batchOn i with
      | none =>
          obtain ⟨havg, hmax⟩ := hobs.unchanged hbatch
          have hsame : b₁.attention = b.attention := Prod.ext havg hmax
          rw [hsame]
      | some batch =>
          obtain ⟨havg, hmax⟩ := hobs.seeded batch hbatch hzero
          have hseed : b₁.attention = (batchMean batch, maxD batch 0) := Prod.ext havg hmax
          rw [hseed]
          rfl

/-- After it every update moves. -/
theorem exists_block_after_access {ops : List (EngineOp π)} :
    ∀ {t : BlockTracker} {b : BlockState}, (∀ op ∈ ops, op.IsUpdate) →
      t.getBlock i = some b → b.accessCount ≠ 0 →
      ∃ b', (onTrackerRun t ops).getBlock i = some b' ∧
        b'.attention = moved b.attention (batches i ops) := by
  induction ops with
  | nil =>
      intro t b _ hb _
      exact ⟨b, hb, rfl⟩
  | cons op rest ih =>
      intro t b hops hb hpos
      obtain ⟨b₁, hb₁, hobs⟩ := (hops op List.mem_cons_self).observed hb
      have hcount : b₁.accessCount ≠ 0 := by
        rw [hobs.accessCount]
        split <;> omega
      obtain ⟨b', hb', hattention⟩ := ih (fun o ho => hops o (List.mem_cons_of_mem op ho)) hb₁
        hcount
      refine ⟨b', hb', hattention.trans ?_⟩
      rw [batches_cons]
      cases hbatch : op.batchOn i with
      | none =>
          obtain ⟨havg, hmax⟩ := hobs.unchanged hbatch
          have hsame : b₁.attention = b.attention := Prod.ext havg hmax
          rw [hsame]
      | some batch =>
          obtain ⟨havg, hmax⟩ := hobs.moved batch hbatch hpos
          have hmove : b₁.attention =
              (BlockTracker.attentionAlpha * batchMean batch +
                (1 - BlockTracker.attentionAlpha) * b.avgAttentionScore,
                max b.maxAttentionScore (maxD batch 0)) := Prod.ext havg hmax
          rw [hmove]
          rfl

/-- The statistics of a freshly registered block after a history. -/
theorem exists_block_of_history {ops : List (EngineOp π)} (hops : ∀ op ∈ ops, op.IsUpdate)
    {t : BlockTracker} {b : BlockState} (hb : t.getBlock i = some b) (hzero : b.accessCount = 0)
    (hfresh : b.attention = (0, 0)) :
    ∃ b', (onTrackerRun t ops).getBlock i = some b' ∧
      b'.attention = moved (reseeded (0, 0) (earlyBatches i ops)) (laterBatches i ops) := by
  have hsplit : ops = ops.takeWhile (fun op => !op.accesses i) ++
      ops.dropWhile (fun op => !op.accesses i) := List.takeWhile_append_dropWhile.symm
  have hearly : ∀ op ∈ ops.takeWhile (fun op => !op.accesses i), op.accesses i = false := by
    intro op hop
    simpa using List.mem_takeWhile_imp hop
  obtain ⟨b₁, hb₁, hzero₁, hattention₁⟩ := exists_block_before_access
    (fun op hop => hops op ((List.takeWhile_sublist _).subset hop)) hearly hb hzero
  rw [hfresh] at hattention₁
  have hrun : onTrackerRun t ops =
      onTrackerRun (onTrackerRun t (ops.takeWhile (fun op => !op.accesses i)))
        (ops.dropWhile (fun op => !op.accesses i)) := by
    conv_lhs => rw [hsplit]
    exact List.foldl_append
  rw [hrun, earlyBatches, ← hattention₁]
  have hsub : ∀ op ∈ ops.dropWhile (fun op => !op.accesses i), op.IsUpdate :=
    fun op hop => hops op ((List.dropWhile_sublist _).subset hop)
  have hhead : ∀ op rest, ops.dropWhile (fun op => !op.accesses i) = op :: rest →
      op.accesses i = true := by
    intro op rest hdrop
    have hnot := List.head?_dropWhile_not (fun op : EngineOp π => !op.accesses i) ops
    rw [hdrop] at hnot
    simpa using hnot
  rw [laterBatches]
  generalize ops.dropWhile (fun op => !op.accesses i) = late at hsub hhead ⊢
  cases late with
  | nil => exact ⟨b₁, hb₁, rfl⟩
  | cons op rest =>
      -- the first access itself supplies no values
      have haccess := hhead op rest rfl
      have hbatch : op.batchOn i = none := by
        cases op <;> first | rfl | cases haccess
      obtain ⟨b₂, hb₂, hobs⟩ := (hsub op List.mem_cons_self).observed hb₁
      have hcount : b₂.accessCount ≠ 0 := by
        rw [hobs.accessCount, if_pos haccess]
        omega
      obtain ⟨b', hb', hattention⟩ := exists_block_after_access
        (fun o ho => hsub o (List.mem_cons_of_mem op ho)) hb₂ hcount
      obtain ⟨havg, hmax⟩ := hobs.unchanged hbatch
      have hsame : b₂.attention = b₁.attention := Prod.ext havg hmax
      refine ⟨b', hb', ?_⟩
      rw [hattention, hsame, batches_cons, hbatch]

end Phases

/-! ## The statistics of the attention alone -/

/-- The moving average of the batch means, seeded with the first. -/
def seededAverage : List (List ℚ) → ℚ
  | [] => 0
  | first :: rest =>
      movingAverage BlockTracker.attentionAlpha (batchMean first) (rest.map batchMean)

/-- The greatest value of all batches. -/
def greatestOf (bs : List (List ℚ)) : ℚ := maxD bs.flatten 0

/-- The average and the maximum are those of the batches. -/
def AttentionOnly (bs : List (List ℚ)) (b : BlockState) : Prop :=
  bs ≠ [] → b.avgAttentionScore = seededAverage bs ∧ b.maxAttentionScore = greatestOf bs

/-- The first access finds the statistics seeded as the attention alone would
have it.  With no update before it the first batch has to have mean zero, the
value the average then moves from.  Otherwise the last update before it seeds
anew: its mean has to be the average so far, and no earlier value may exceed
those from it on. -/
def SeedsRight (early later : List (List ℚ)) : Prop :=
  match early.getLast? with
  | none => ∀ first, later.head? = some first → batchMean first = 0
  | some last =>
      batchMean last = seededAverage early ∧
        ∀ x ∈ early.flatten, ∃ y ∈ (last :: later).flatten, x ≤ y

/-- With a single update before the first access nothing is forgotten. -/
theorem seedsRight_singleton (batch : List ℚ) (later : List (List ℚ)) :
    SeedsRight [batch] later := by
  refine ⟨rfl, ?_⟩
  intro x hx
  refine ⟨x, ?_, le_refl x⟩
  rw [List.flatten_cons, List.mem_append]
  exact .inl (by simpa using hx)

theorem seededAverage_append {early : List (List ℚ)} (hearly : early ≠ []) (later : List (List ℚ)) :
    seededAverage (early ++ later) =
      movingAverage BlockTracker.attentionAlpha (seededAverage early) (later.map batchMean) := by
  cases early with
  | nil => exact absurd rfl hearly
  | cons first rest =>
      rw [List.cons_append, seededAverage, seededAverage, List.map_append, movingAverage_append]

/-- The running maximum is the maximum of where it started and the values. -/
theorem foldl_max_eq {bs : List (List ℚ)} (hbs : ∀ batch ∈ bs, batch ≠ []) :
    ∀ s : ℚ, bs.foldl (fun greatest batch => max greatest (maxD batch 0)) s =
      maxD (s :: bs.flatten) 0 := by
  induction bs with
  | nil =>
      intro s
      rfl
  | cons batch rest ih =>
      intro s
      have hbatch : batch ≠ [] := hbs batch List.mem_cons_self
      rw [List.foldl_cons, ih (fun b hb => hbs b (List.mem_cons_of_mem batch hb))]
      apply le_antisymm
      · have hmem := maxD_mem (List.cons_ne_nil (max s (maxD batch 0)) rest.flatten) 0
        rcases List.mem_cons.mp hmem with hhead | hrest
        · rw [hhead]
          apply max_le
          · exact le_maxD List.mem_cons_self 0
          · apply le_maxD
            rw [List.flatten_cons]
            exact List.mem_cons_of_mem s (List.mem_append_left _ (maxD_mem hbatch 0))
        · apply le_maxD
          rw [List.flatten_cons]
          exact List.mem_cons_of_mem s (List.mem_append_right _ hrest)
      · have hmem := maxD_mem (List.cons_ne_nil s (batch :: rest).flatten) 0
        have hhead : max s (maxD batch 0) ≤ maxD (max s (maxD batch 0) :: rest.flatten) 0 :=
          le_maxD List.mem_cons_self 0
        rcases List.mem_cons.mp hmem with hs | hlater
        · rw [hs]
          exact (le_max_left _ _).trans hhead
        · rw [List.flatten_cons, List.mem_append] at hlater
          rcases hlater with hin | hin
          · exact ((le_maxD hin 0).trans (le_max_right _ _)).trans hhead
          · exact le_maxD (List.mem_cons_of_mem _ hin) 0

theorem attentionAlpha_ne_one : BlockTracker.attentionAlpha ≠ 1 := by
  norm_num [BlockTracker.attentionAlpha]

/-- What moves from zero is right exactly if the first mean is zero. -/
theorem moved_zero_iff {first : List ℚ} {rest : List (List ℚ)}
    (hbs : ∀ batch ∈ first :: rest, batch ≠ []) :
    ((moved (0, 0) (first :: rest)).1 = seededAverage (first :: rest) ∧
        (moved (0, 0) (first :: rest)).2 = greatestOf (first :: rest)) ↔ batchMean first = 0 := by
  have havg : (moved (0, 0) (first :: rest)).1 = seededAverage (first :: rest) ↔
      batchMean first = 0 := by
    show movingAverage BlockTracker.attentionAlpha
        (BlockTracker.attentionAlpha * batchMean first + (1 - BlockTracker.attentionAlpha) * 0)
        (rest.map batchMean) =
      movingAverage BlockTracker.attentionAlpha (batchMean first) (rest.map batchMean) ↔ _
    rw [(movingAverage_injective attentionAlpha_ne_one (rest.map batchMean)).eq_iff,
      BlockTracker.attentionAlpha]
    constructor
    · intro h
      linarith
    · intro h
      rw [h]
      norm_num
  rw [havg]
  refine ⟨fun h => h.1, fun hzero => ⟨hzero, ?_⟩⟩
  -- a batch of mean zero has a value that is not negative
  have hfirst : first ≠ [] := hbs first List.mem_cons_self
  have hmax : 0 ≤ maxD first 0 := hzero.symm.le.trans (mean_le_maxD hfirst 0)
  have hne : (first :: rest).flatten ≠ [] := by
    rw [List.flatten_cons]
    exact List.append_ne_nil_of_left_ne_nil hfirst _
  show List.foldl _ 0 (first :: rest) = _
  rw [foldl_max_eq hbs, greatestOf, eq_comm,
    maxD_eq_of_subset_iff hne (fun x hx => List.mem_cons_of_mem 0 hx)]
  intro y hy
  rcases List.mem_cons.mp hy with hzeroY | hin
  · refine ⟨maxD first 0, ?_, hzeroY ▸ hmax⟩
    rw [List.flatten_cons]
    exact List.mem_append_left _ (maxD_mem hfirst 0)
  · exact ⟨y, hin, le_refl y⟩

/-- What moves from the last of several seeds is right exactly if that seed is
what the attention alone would have. -/
theorem moved_last_iff {early later : List (List ℚ)} {last : List ℚ}
    (hlast : early.getLast? = some last) (hearly : ∀ batch ∈ early, batch ≠ [])
    (hlater : ∀ batch ∈ later, batch ≠ []) :
    ((moved (batchMean last, maxD last 0) later).1 = seededAverage (early ++ later) ∧
        (moved (batchMean last, maxD last 0) later).2 = greatestOf (early ++ later)) ↔
      batchMean last = seededAverage early ∧
        ∀ x ∈ early.flatten, ∃ y ∈ (last :: later).flatten, x ≤ y := by
  have hmem : last ∈ early := List.mem_of_getLast? hlast
  have hne : last ≠ [] := hearly last hmem
  apply and_congr
  · show movingAverage _ (batchMean last) _ = _ ↔ _
    rw [seededAverage_append (List.ne_nil_of_mem hmem),
      (movingAverage_injective attentionAlpha_ne_one (later.map batchMean)).eq_iff]
  · have hrun : (moved (batchMean last, maxD last 0) later).2 =
        maxD (last :: later).flatten 0 := by
      show List.foldl _ (maxD last 0) later = _
      rw [foldl_max_eq hlater, maxD_eq_of_subset_iff (List.cons_ne_nil _ _)]
      · intro y hy
        rw [List.flatten_cons, List.mem_append] at hy
        rcases hy with hin | hin
        · exact ⟨maxD last 0, List.mem_cons_self, le_maxD hin 0⟩
        · exact ⟨y, List.mem_cons_of_mem _ hin, le_refl y⟩
      · intro x hx
        rw [List.flatten_cons, List.mem_append]
        rcases List.mem_cons.mp hx with hhead | hin
        · exact .inl (hhead ▸ maxD_mem hne 0)
        · exact .inr hin
    have hflat : (last :: later).flatten ≠ [] := by
      rw [List.flatten_cons]
      exact List.append_ne_nil_of_left_ne_nil hne _
    rw [hrun, greatestOf, maxD_eq_of_subset_iff hflat]
    · rw [List.flatten_append]
      constructor
      · intro hdom x hx
        exact hdom x (List.mem_append_left _ hx)
      · intro hdom y hy
        rcases List.mem_append.mp hy with hin | hin
        · exact hdom y hin
        · refine ⟨y, ?_, le_refl y⟩
          rw [List.flatten_cons]
          exact List.mem_append_right _ hin
    · intro x hx
      rw [List.flatten_append, List.mem_append]
      rw [List.flatten_cons, List.mem_append] at hx
      rcases hx with hin | hin
      · exact .inl (List.mem_flatten.mpr ⟨last, hmem, hin⟩)
      · exact .inr hin

theorem batchOn_ne_nil {π : Type} {i : Int} {op : EngineOp π} {batch : List ℚ}
    (h : op.batchOn i = some batch) : batch ≠ [] := by
  cases op with
  | updateAttention j attentionScores =>
      simp only [EngineOp.batchOn] at h
      split at h
      · rename_i hfinite
        cases h
        exact hfinite.2
      · cases h
  | registerBlock | evictBlock | releaseRequestBlocks | markAccessed | updateMemorySnapshot
  | markPrefixReuse | incrementAge | runPolicyCycle | overridePolicy => cases h

theorem ne_nil_of_mem_batches {π : Type} {i : Int} {ops : List (EngineOp π)} {batch : List ℚ}
    (h : batch ∈ batches i ops) : batch ≠ [] := by
  obtain ⟨op, _, hop⟩ := List.mem_filterMap.mp h
  exact batchOn_ne_nil hop

/-- The statistics a history leaves are those of the attention alone exactly
if the first access finds them so. -/
theorem moved_reseeded_iff {early later : List (List ℚ)} (hearly : ∀ batch ∈ early, batch ≠ [])
    (hlater : ∀ batch ∈ later, batch ≠ []) :
    (early ++ later ≠ [] →
      (moved (reseeded (0, 0) early) later).1 = seededAverage (early ++ later) ∧
        (moved (reseeded (0, 0) early) later).2 = greatestOf (early ++ later)) ↔
      SeedsRight early later := by
  rcases List.eq_nil_or_concat early with hnil | ⟨init, last, hconcat⟩
  · rw [hnil]
    cases later with
    | nil =>
        constructor
        · intro _ first hfirst
          cases hfirst
        · intro _ hne
          exact absurd rfl hne
    | cons first rest =>
        have hzero := moved_zero_iff hlater
        constructor
        · intro h first' hfirst'
          cases hfirst'
          exact hzero.mp (h (List.cons_ne_nil first rest))
        · intro h _
          exact hzero.mpr (h first rfl)
  · rw [List.concat_eq_append] at hconcat
    have hlast : early.getLast? = some last := by
      rw [hconcat, List.getLast?_concat]
    have hseed : reseeded (0, 0) early = (batchMean last, maxD last 0) := by
      rw [hconcat, reseeded, List.foldl_append]
      rfl
    have hne : early ++ later ≠ [] :=
      List.append_ne_nil_of_left_ne_nil (List.ne_nil_of_mem (List.mem_of_getLast? hlast)) _
    rw [hseed, SeedsRight, hlast]
    show (_ → _) ↔ (batchMean last = seededAverage early ∧ _)
    rw [← moved_last_iff hlast hearly hlater]
    exact ⟨fun h => h hne, fun h _ => h⟩

/-- A block as it has just been registered. -/
theorem getBlock_registerBlock_self (t : BlockTracker) (blockId layerId headGroup : Int)
    (requestId : String) :
    (t.registerBlock blockId layerId headGroup requestId).getBlock blockId =
      some { blockId := blockId, layerId := layerId, headGroup := headGroup,
             requestId := requestId } :=
  OrdDict.get?_set_self _ _ _

/-- **Attention statistics depend on the attention alone, if the first access
finds them seeded right.**

Take a freshly registered block and any interleaving of attention updates and
accesses, of this block and of others.  The average is the moving average of the
batch means seeded with the first mean, and the maximum the greatest value
supplied, exactly if the updates before the block's first access seed right; a
single one always does.  Histories that seed right and supply the same batches
leave the same statistics, wherever their accesses stand. -/
theorem attention_history_iff {π : Type} (t : BlockTracker) (blockId layerId headGroup : Int)
    (requestId : String) (ops : List (EngineOp π)) (hops : ∀ op ∈ ops, op.IsUpdate) :
    ∃ b, (onTrackerRun (t.registerBlock blockId layerId headGroup requestId) ops).getBlock
        blockId = some b ∧
      (AttentionOnly (batches blockId ops) b ↔
        SeedsRight (earlyBatches blockId ops) (laterBatches blockId ops)) ∧
      ((earlyBatches blockId ops).length = 1 → AttentionOnly (batches blockId ops) b) ∧
      ∀ ops' : List (EngineOp π), (∀ op ∈ ops', op.IsUpdate) →
        batches blockId ops' = batches blockId ops → batches blockId ops ≠ [] →
        SeedsRight (earlyBatches blockId ops) (laterBatches blockId ops) →
        SeedsRight (earlyBatches blockId ops') (laterBatches blockId ops') →
        ∃ b', (onTrackerRun (t.registerBlock blockId layerId headGroup requestId)
            ops').getBlock blockId = some b' ∧ b'.attention = b.attention := by
  have hhistory : ∀ ops : List (EngineOp π), (∀ op ∈ ops, op.IsUpdate) →
      ∃ b, (onTrackerRun (t.registerBlock blockId layerId headGroup requestId) ops).getBlock
          blockId = some b ∧
        (AttentionOnly (batches blockId ops) b ↔
          SeedsRight (earlyBatches blockId ops) (laterBatches blockId ops)) := by
    intro ops hops
    obtain ⟨b, hb, hattention⟩ := exists_block_of_history hops
      (getBlock_registerBlock_self t blockId layerId headGroup requestId) rfl rfl
    refine ⟨b, hb, ?_⟩
    have hearly : ∀ batch ∈ earlyBatches blockId ops, batch ≠ [] :=
      fun _ hbatch => ne_nil_of_mem_batches hbatch
    have hlater : ∀ batch ∈ laterBatches blockId ops, batch ≠ [] :=
      fun _ hbatch => ne_nil_of_mem_batches hbatch
    rw [← moved_reseeded_iff hearly hlater, ← batches_eq, ← hattention]
    exact Iff.rfl
  obtain ⟨b, hb, hiff⟩ := hhistory ops hops
  refine ⟨b, hb, hiff, ?_, ?_⟩
  · intro hone
    obtain ⟨batch, hbatch⟩ := List.length_eq_one_iff.mp hone
    rw [hiff, hbatch]
    exact seedsRight_singleton batch _
  · intro ops' hops' hsame hne hseeds hseeds'
    obtain ⟨b', hb', hiff'⟩ := hhistory ops' hops'
    obtain ⟨havg, hmax⟩ := hiff.mpr hseeds hne
    obtain ⟨havg', hmax'⟩ := hiff'.mpr hseeds' (hsame ▸ hne)
    refine ⟨b', hb', Prod.ext ?_ ?_⟩
    · show b'.avgAttentionScore = b.avgAttentionScore
      rw [havg', havg, hsame]
    · show b'.maxAttentionScore = b.maxAttentionScore
      rw [hmax', hmax, hsame]

/-- An update, an access and another update. -/
def accessBetween : List (EngineOp FullCachePolicy) :=
  [ .updateAttention 1 [some 1],
    .markAccessed 1 0,
    .updateAttention 1 [some 0] ]

theorem attention_history_iff_access_between :
    ∃ b, (onTrackerRun (twoBlocks.registerBlock 1 0 0 "r") accessBetween).getBlock 1 = some b ∧
      AttentionOnly (batches 1 accessBetween) b := by
  obtain ⟨b, hb, _, hone, _⟩ := attention_history_iff twoBlocks 1 0 0 "r" accessBetween (by
    intro op hop
    simp only [accessBetween, List.mem_cons, List.not_mem_nil, or_false] at hop
    rcases hop with rfl | rfl | rfl <;> trivial)
  exact ⟨b, hb, hone (by decide +kernel)⟩

/-- Two updates of a block that has not been accessed yet: the second mean
replaces the first, and the greatest value is forgotten. -/
theorem attention_history_fails :
    let ops : List (EngineOp FullCachePolicy) :=
      [ .updateAttention 1 [some 1],
        .updateAttention 1 [some 0] ]
    ∃ b, (onTrackerRun (twoBlocks.registerBlock 1 0 0 "r") ops).getBlock 1 = some b ∧
      b.avgAttentionScore = 0 ∧ seededAverage (batches 1 ops) = 9 / 10 ∧
      b.maxAttentionScore = 0 ∧ greatestOf (batches 1 ops) = 1 ∧
      ¬AttentionOnly (batches 1 ops) b := by
  intro ops
  refine ⟨{ blockId := 1, layerId := 0, headGroup := 0, requestId := "r" }, by decide +kernel,
    rfl, by decide +kernel, rfl, by decide +kernel, ?_⟩
  intro hattention
  have hmax := (hattention (by decide +kernel)).2
  exact absurd hmax (by decide +kernel)

end KVOrchestrator.Ports
