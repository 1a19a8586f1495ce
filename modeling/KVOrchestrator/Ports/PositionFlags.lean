import KVOrchestrator.Ports.FeatureParity
import KVOrchestrator.Ports.WindowRun
import Mathlib.Data.Int.Interval
import Mathlib.Data.Finset.Card

/-!
# Position in the features and in the policies

The policies order the blocks of a batch by id and slice: the first
`sink_token_blocks` are sinks, the last `sliding_window_blocks` the window.  The
feature extractor compares the id itself, with `sink_token_blocks` and with the
greatest id less `recent_window_blocks`.  On contiguous ids from zero the sinks
agree and the recent flag is one block too wide; with offsets and gaps both can
be off either way.  Each flag is settled by a count of ids (`position_flags_iff`).
-/

namespace KVOrchestrator.Ports

open KVOrchestrator.Verified

/-- A runtime whose `float32` holds the two values of a flag exactly. -/
class FlagNumerics extends Numerics where
  toFloat32_zero : toFloat32 0 = 0
  toFloat32_one : toFloat32 1 = 1

/-- Positions in the feature vector. -/
def sinkTokenFlag : Nat := 6

def isRecentWindow : Nat := 16

/-! ## Flags as counts -/

/-- A flag is one exactly for the blocks of the given ids. -/
def FlagsMatch (column : Nat) (blocks : List BlockState) (rows : List (List ℚ))
    (ids : List Int) : Prop :=
  ∀ (i : Nat) (b : BlockState) (row : List ℚ), blocks[i]? = some b → rows[i]? = some row →
    (row[column]? = some 1 ↔ b.blockId ∈ ids)

/-- A column that matches flags as many rows as blocks are named. -/
theorem countP_of_flagsMatch {column : Nat} {blocks : List BlockState}
    {vector : BlockState → List ℚ} {ids : List Int}
    (hmatch : FlagsMatch column blocks (blocks.map vector) ids) :
    (blocks.map vector).countP (fun row => decide (row[column]? = some 1)) =
      (blocks.map (·.blockId)).countP (fun i => decide (i ∈ ids)) := by
  rw [List.countP_map, List.countP_map]
  apply List.countP_congr
  intro b hb
  obtain ⟨j, hj⟩ := List.mem_iff_getElem?.mp hb
  have hat := hmatch j b _ hj (by rw [List.getElem?_map, hj, Option.map_some])
  rw [Function.comp_apply, Function.comp_apply, decide_eq_true_iff, decide_eq_true_iff]
  exact hat

/-- A flag column that is a predicate of the id, rounded. -/
theorem flagsMatch_iff [FlagNumerics] {column : Nat} (blocks : List BlockState)
    {vector : BlockState → List ℚ} {p : Int → Prop} [DecidablePred p]
    (hcolumn : ∀ b, (vector b)[column]? = some (if p b.blockId then 1 else 0))
    (ids : List Int) :
    FlagsMatch column blocks (blocks.map (fun b => (vector b).map Numerics.toFloat32)) ids ↔
      ∀ i ∈ blocks.map (·.blockId), p i ↔ i ∈ ids := by
  have hflag : ∀ b, ((vector b).map Numerics.toFloat32)[column]? = some 1 ↔ p b.blockId := by
    intro b
    rw [List.getElem?_map, hcolumn, Option.map_some, Option.some.injEq]
    by_cases hp : p b.blockId
    · rw [if_pos hp, FlagNumerics.toFloat32_one]
      exact iff_of_true rfl hp
    · rw [if_neg hp, FlagNumerics.toFloat32_zero]
      exact iff_of_false (by norm_num) hp
  constructor
  · intro h i hi
    obtain ⟨b, hb, rfl⟩ := List.mem_map.mp hi
    obtain ⟨j, hj⟩ := List.mem_iff_getElem?.mp hb
    rw [← hflag b]
    apply h j b _ hj
    rw [List.getElem?_map, hj, Option.map_some]
  · intro h j b row hb hrow
    rw [List.getElem?_map, hb, Option.map_some] at hrow
    rw [← Option.some.inj hrow, hflag b]
    exact h b.blockId (List.mem_map_of_mem (List.mem_of_getElem? hb))

/-- The ids below `k` are the `k` smallest: all ids are below, or none of them
is missing. -/
def SinksFromZero (k : Int) (ids : List Int) : Prop :=
  (∀ i ∈ ids, i < k) ∨ ∀ i, 0 ≤ i → i < k → i ∈ ids

/-- The ids from `top - w` on are the `w` greatest: there are no more than `w`
ids and none is below, or exactly one of the `w + 1` ids is missing. -/
def WindowAgrees (top w : Int) (ids : List Int) : Prop :=
  (ids.length ≤ w ∧ ∀ i ∈ ids, top - w ≤ i) ∨
    (w < ids.length ∧ ∃! i, (top - w ≤ i ∧ i ≤ top) ∧ i ∉ ids)

section Counts

variable {ids : List Int} (hnodup : ids.Nodup)

include hnodup

theorem pairwise_lt_sortBy_id : (sortBy id ids).Pairwise (· < ·) := by
  have hsorted : (sortBy id ids).Nodup := (sortBy_perm id ids).nodup_iff.mpr hnodup
  exact (pairwise_sortBy_id ids).imp₂ (fun _ _ hle hne => lt_of_le_of_ne hle hne) hsorted

theorem sinks_iff (hnonneg : ∀ i ∈ ids, 0 ≤ i) (k : Int) :
    (∀ i ∈ ids, i < k ↔ i ∈ (sortBy id ids).take k.toNat) ↔ SinksFromZero k ids := by
  have hperm : ((sortBy id ids).drop k.toNat ++ (sortBy id ids).take k.toNat).Perm ids := by
    have hsplit : ((sortBy id ids).drop k.toNat ++ (sortBy id ids).take k.toNat).Perm
        ((sortBy id ids).take k.toNat ++ (sortBy id ids).drop k.toNat) := List.perm_append_comm
    rw [List.take_append_drop] at hsplit
    exact hsplit.trans (sortBy_perm id ids)
  have hmono : ∀ a ∈ (sortBy id ids).drop k.toNat, ∀ b ∈ (sortBy id ids).take k.toNat,
      a < k → b < k := by
    intro a ha b hb hak
    have hordered := pairwise_lt_sortBy_id hnodup
    rw [← List.take_append_drop k.toNat (sortBy id ids)] at hordered
    exact ((List.pairwise_append.mp hordered).2.2 b hb a ha).trans hak
  have hlen : ((sortBy id ids).take k.toNat).length = min k.toNat ids.length := by
    rw [List.length_take, length_sortBy]
  have hcard := countP_eq_card_filter hnodup (Finset.Ico 0 k) (p := fun i => i < k) (by
    intro i hi
    rw [Finset.mem_Ico]
    exact ⟨fun h => ⟨hnonneg i hi, h⟩, fun h => h.2⟩)
  have hle : ids.countP (fun i => decide (i < k)) ≤ ids.length := List.countP_le_length
  have hiff := forall_iff_mem_iff_countP (hperm.nodup_iff.mpr hnodup) hmono
  rw [hperm.countP_eq, hlen] at hiff
  simp only [hperm.mem_iff] at hiff
  rw [hiff, SinksFromZero]
  have hall : ids.countP (fun i => decide (i < k)) = ids.length ↔ ∀ i ∈ ids, i < k := by
    rw [List.countP_eq_length]
    simp only [decide_eq_true_eq]
  have hpresent : ids.countP (fun i => decide (i < k)) = k.toNat ↔
      ∀ i, 0 ≤ i → i < k → i ∈ ids := by
    rw [hcard]
    have hsize : k.toNat = (Finset.Ico 0 k).card := by
      rw [Int.card_Ico, Int.sub_zero]
    rw [hsize, Finset.card_filter_eq_iff]
    simp only [Finset.mem_Ico, and_imp]
  rw [← hall, ← hpresent]
  have hbound : ids.countP (fun i => decide (i < k)) ≤ k.toNat := by
    rw [hcard]
    have hsub := Finset.card_filter_le (Finset.Ico 0 k) (fun i => i ∈ ids)
    rwa [Int.card_Ico, Int.sub_zero] at hsub
  omega

theorem window_iff {top : Int} (htop : ∀ i ∈ ids, i ≤ top) {w : Int} (hw : 0 ≤ w) :
    (∀ i ∈ ids, top - w ≤ i ↔ i ∈ (sortBy id ids).drop (ids.length - w.toNat)) ↔
      WindowAgrees top w ids := by
  have hperm : ((sortBy id ids).take (ids.length - w.toNat) ++
      (sortBy id ids).drop (ids.length - w.toNat)).Perm ids := by
    rw [List.take_append_drop]
    exact sortBy_perm id ids
  have hmono : ∀ a ∈ (sortBy id ids).take (ids.length - w.toNat),
      ∀ b ∈ (sortBy id ids).drop (ids.length - w.toNat), top - w ≤ a → top - w ≤ b := by
    intro a ha b hb hle
    have hordered := pairwise_sortBy_id ids
    rw [← List.take_append_drop (ids.length - w.toNat) (sortBy id ids)] at hordered
    exact hle.trans ((List.pairwise_append.mp hordered).2.2 a ha b hb)
  have hlen : ((sortBy id ids).drop (ids.length - w.toNat)).length =
      min ids.length w.toNat := by
    rw [List.length_drop, length_sortBy]
    omega
  have hcard := countP_eq_card_filter hnodup (Finset.Icc (top - w) top)
    (p := fun i => top - w ≤ i) (by
      intro i hi
      rw [Finset.mem_Icc]
      exact ⟨fun h => ⟨h, htop i hi⟩, fun h => h.1⟩)
  have hle : ids.countP (fun i => decide (top - w ≤ i)) ≤ ids.length := List.countP_le_length
  have hiff := forall_iff_mem_iff_countP (hperm.nodup_iff.mpr hnodup) hmono
  rw [hperm.countP_eq, hlen] at hiff
  simp only [hperm.mem_iff] at hiff
  rw [hiff, WindowAgrees]
  have hall : ids.countP (fun i => decide (top - w ≤ i)) = ids.length ↔
      ∀ i ∈ ids, top - w ≤ i := by
    rw [List.countP_eq_length]
    simp only [decide_eq_true_eq]
  have hmissing : (∃! i, (top - w ≤ i ∧ i ≤ top) ∧ i ∉ ids) ↔
      ((Finset.Icc (top - w) top).filter (fun i => i ∉ ids)).card = 1 := by
    rw [Finset.card_eq_one, Finset.singleton_iff_unique_mem]
    simp only [Finset.mem_filter, Finset.mem_Icc]
  have hsplit := Finset.card_filter_add_card_filter_not (s := Finset.Icc (top - w) top)
    (fun i => i ∈ ids)
  rw [Int.card_Icc, ← hcard] at hsplit
  rw [hmissing, ← hall]
  omega

end Counts

/-- As many blocks have an id in the window as the window has ids. -/
theorem countP_recentIds {blocks : List BlockState} (hids : (blocks.map (·.blockId)).Nodup)
    {w : Int} (hw : 0 ≤ w) :
    (blocks.map (·.blockId)).countP (fun i => decide (i ∈ recentIds blocks w)) =
      (recentIds blocks w).length := by
  rw [recentIds_eq blocks hw, ← (sortBy_perm id (blocks.map (·.blockId))).countP_eq]
  have hsorted : ((sortBy id (blocks.map (·.blockId))).map id).Nodup := by
    rw [List.map_id]
    exact (sortBy_perm id _).nodup_iff.mpr hids
  have hcount := countP_name_mem hsorted
    (List.drop_sublist (blocks.length - w.toNat) (sortBy id (blocks.map (·.blockId))))
  rw [List.map_id] at hcount
  exact hcount

/-! ## The two definitions of position -/

/-- **The flags of position are those of the policies where the ids allow it.**

For a nonempty batch of distinct ids from zero on, `sink_token_flag` marks the
`k` blocks the policies treat as sinks exactly if all ids are below `k` or none
of the ids below `k` is missing.  `is_recent_window` marks the window of
`SlidingWindowPolicy` exactly if the batch has no more than `w` blocks and none
further than `w` from the greatest id, or has more and exactly one of the `w + 1`
greatest ids is missing; it then marks at most `w` blocks. -/
theorem position_flags_iff [FlagNumerics] (fx : FeatureExtractor) {blocks : List BlockState}
    (hblocks : blocks ≠ []) (hids : (blocks.map (·.blockId)).Nodup)
    (hnonneg : ∀ b ∈ blocks, 0 ≤ b.blockId) (hsink : 0 ≤ fx.sinkTokenBlocks)
    (hwindow : 0 ≤ fx.recentWindowBlocks) {sm : SystemMetrics} {rows : List (List ℚ)}
    (hrows : fx.extractBatch blocks sm (FeatureExtractor.computeBatchStats blocks) = .ok rows) :
    (FlagsMatch sinkTokenFlag blocks rows (leadingIds blocks fx.sinkTokenBlocks) ↔
      SinksFromZero fx.sinkTokenBlocks (blocks.map (·.blockId))) ∧
    (FlagsMatch isRecentWindow blocks rows (recentIds blocks fx.recentWindowBlocks) ↔
      WindowAgrees (max (maxField blocks (·.blockId)) 1) fx.recentWindowBlocks
        (blocks.map (·.blockId))) ∧
    (FlagsMatch isRecentWindow blocks rows (recentIds blocks fx.recentWindowBlocks) →
      (rows.countP (fun row => decide (row[isRecentWindow]? = some 1)) : Int) ≤
        fx.recentWindowBlocks) := by
  have hmaxId : (FeatureExtractor.computeBatchStats blocks).maxBlockId =
      maxField blocks (·.blockId) := by
    rw [FeatureExtractor.computeBatchStats_of_ne_nil hblocks]
    rfl
  have hrowsEq := FeatureExtractor.rows_eq hblocks hrows
  have hsinkColumn : ∀ b, (fx.vector b sm (FeatureExtractor.computeBatchStats blocks))[
      sinkTokenFlag]? = some (if b.blockId < fx.sinkTokenBlocks then 1 else 0) := by
    intro b
    rfl
  have hrecentColumn : ∀ b, (fx.vector b sm (FeatureExtractor.computeBatchStats blocks))[
      isRecentWindow]? = some (if max (maxField blocks (·.blockId)) 1 - fx.recentWindowBlocks ≤
        b.blockId then 1 else 0) := by
    intro b
    rw [← hmaxId]
    rfl
  have hsinkFlag := flagsMatch_iff blocks (p := fun i => i < fx.sinkTokenBlocks) hsinkColumn
    (leadingIds blocks fx.sinkTokenBlocks)
  have hrecentFlag := flagsMatch_iff blocks
    (p := fun i => max (maxField blocks (·.blockId)) 1 - fx.recentWindowBlocks ≤ i) hrecentColumn
    (recentIds blocks fx.recentWindowBlocks)
  rw [← hrowsEq] at hsinkFlag hrecentFlag
  have hnonnegIds : ∀ i ∈ blocks.map (·.blockId), 0 ≤ i := by
    intro i hi
    obtain ⟨b, hb, rfl⟩ := List.mem_map.mp hi
    exact hnonneg b hb
  have htop : ∀ i ∈ blocks.map (·.blockId), i ≤ max (maxField blocks (·.blockId)) 1 := by
    intro i hi
    exact le_max_of_le_left (le_maxD hi 0)
  refine ⟨?_, ?_, ?_⟩
  · rw [hsinkFlag, leadingIds_eq, sliceTo_of_nonneg _ hsink]
    exact sinks_iff hids hnonnegIds fx.sinkTokenBlocks
  · rw [hrecentFlag, recentIds_eq blocks hwindow]
    have hiff := window_iff hids htop hwindow
    rwa [List.length_map] at hiff
  · intro hmatch
    rw [hrowsEq] at hmatch
    have hflagged : rows.countP (fun row => decide (row[isRecentWindow]? = some 1)) =
        (recentIds blocks fx.recentWindowBlocks).length := by
      rw [hrowsEq, countP_of_flagsMatch hmatch]
      exact countP_recentIds hids hwindow
    rw [hflagged, recentIds_eq blocks hwindow, List.length_drop, length_sortBy, List.length_map]
    omega

/-- Flags are exact in a runtime that does not round. -/
@[reducible] def lineFlagNumerics : FlagNumerics :=
  { lineNumerics.toNumerics with
    toFloat32_zero := rfl
    toFloat32_one := rfl }

/-- A batch of consecutive ids. -/
def consecutive (first : Int) (n : Nat) : List BlockState :=
  (List.range n).map (fun j =>
    { blockId := first + j, layerId := 0, headGroup := 0, requestId := "r" })

/-- With room for every block both flags agree. -/
theorem position_flags_iff_three_blocks :
    letI : FlagNumerics := lineFlagNumerics
    ∃ rows, ({} : FeatureExtractor).extractBatch (consecutive 0 3) {}
        (FeatureExtractor.computeBatchStats (consecutive 0 3)) = .ok rows ∧
      FlagsMatch sinkTokenFlag (consecutive 0 3) rows (leadingIds (consecutive 0 3) 4) := by
  let _ : FlagNumerics := lineFlagNumerics
  have hne : consecutive 0 3 ≠ [] := by decide
  have hrows := ({} : FeatureExtractor).extractBatch_computeBatchStats hne {} (by decide)
  have hflags := @position_flags_iff lineFlagNumerics {} (consecutive 0 3) (by decide) (by decide)
    (by decide) (by decide) (by decide) {} _ hrows
  exact ⟨_, hrows, hflags.1.mpr (.inl (by decide))⟩

/-- Two blocks away from zero, with one sink and a window of one: no block is
flagged as a sink, and both are flagged as recent. -/
theorem position_flags_fails :
    letI : FlagNumerics := lineFlagNumerics
    let fx : FeatureExtractor := { sinkTokenBlocks := 1, recentWindowBlocks := 1 }
    let blocks := consecutive 5 2
    ∃ rows, fx.extractBatch blocks {} (FeatureExtractor.computeBatchStats blocks) = .ok rows ∧
      rows.map (fun row => row[sinkTokenFlag]?) = [some 0, some 0] ∧
      leadingIds blocks 1 = [5] ∧
      rows.map (fun row => row[isRecentWindow]?) = [some 1, some 1] ∧
      recentIds blocks 1 = [6] ∧
      ¬FlagsMatch sinkTokenFlag blocks rows (leadingIds blocks 1) ∧
      ¬FlagsMatch isRecentWindow blocks rows (recentIds blocks 1) := by
  let _ : FlagNumerics := lineFlagNumerics
  intro fx blocks
  have hne : blocks ≠ [] := by decide
  have hrows := fx.extractBatch_computeBatchStats hne {} (by decide)
  refine ⟨_, hrows, by decide +kernel, by decide, by decide +kernel, by decide, ?_, ?_⟩
  · intro hmatch
    have hfirst := hmatch 0 _ _ rfl rfl
    exact absurd hfirst (by decide +kernel)
  · intro hmatch
    have hfirst := hmatch 0 _ _ rfl rfl
    exact absurd hfirst (by decide +kernel)

end KVOrchestrator.Ports
