import KVOrchestrator.Verified.OrderStatistics
import KVOrchestrator.Ports.Extractor
import KVOrchestrator.Ports.Heuristic

/-!
# The heavy-hitter feature under rounding

`is_heavy_hitter` compares the score of a block, in double precision, with a
threshold read from the sorted `float32` copy of the scores.  Rounding is
monotone, so the threshold is the rounded `k`-th greatest score, and the flag is
right exactly if rounding does not lift that score above itself
(`heavy_hitters_survive_iff`).  The policy `h2o` ranks the scores as they are.
-/

namespace KVOrchestrator.Ports

open KVOrchestrator.Verified

/-- Position in the feature vector. -/
def isHeavyHitterFlag : Nat := 15

/-- The blocks `H2OPolicy` takes its heavy-hitter ids from. -/
def H2OPolicy.heavyHitters (cfg : PolicyConfig) (blocks : List BlockState) : List BlockState :=
  sliceTo (sortByDesc (·.avgAttentionScore) blocks) (heavyHitterCount cfg blocks)

theorem H2OPolicy.mem_hhIds_iff (cfg : PolicyConfig) {blocks : List BlockState}
    (hids : (blocks.map (·.blockId)).Nodup) {b : BlockState} (hb : b ∈ blocks) :
    b.blockId ∈ H2OPolicy.hhIds cfg blocks ↔ b ∈ H2OPolicy.heavyHitters cfg blocks := by
  have hone := one_le_heavyHitterCount cfg blocks
  have hsub : ∀ c ∈ H2OPolicy.heavyHitters cfg blocks, c ∈ blocks := by
    intro c hc
    rw [H2OPolicy.heavyHitters, sliceTo_of_nonneg _ (by omega)] at hc
    exact (mem_sortByDesc _ blocks c).mp (List.mem_of_mem_take hc)
  exact name_mem_map_iff hids hsub hb

/-- The score from which on a block is a heavy hitter. -/
def heavyHitterScore (cfg : PolicyConfig) (blocks : List BlockState) : ℚ :=
  kthGreatest (heavyHitterCount cfg blocks).toNat (blocks.map (·.avgAttentionScore)) 0

/-- What the heavy-hitter flag of a batch is for: the top fraction has it, with
every block of greatest score, and where no two scores round to one value it
names the heavy hitters of the policy. -/
structure HeavyHittersSurvive [Numerics] (fx : FeatureExtractor) (cfg : PolicyConfig)
    (blocks : List BlockState) : Prop where
  enough : heavyHitterCount cfg blocks ≤
    blocks.countP (fun b => fx.isHeavyHitter b (FeatureExtractor.computeBatchStats blocks))
  greatest : ∀ b ∈ blocks, (∀ c ∈ blocks, c.avgAttentionScore ≤ b.avgAttentionScore) →
    fx.isHeavyHitter b (FeatureExtractor.computeBatchStats blocks) = true
  selected : (blocks.map (fun b => Numerics.toFloat32 b.avgAttentionScore)).Nodup →
    ∀ b ∈ blocks, fx.isHeavyHitter b (FeatureExtractor.computeBatchStats blocks) = true ↔
      b ∈ H2OPolicy.heavyHitters cfg blocks

/-- Rounding does not lift the threshold above the score it was read from; nor,
where no two scores round to one value, down to another score. -/
def ThresholdHolds [Numerics] (cfg : PolicyConfig) (blocks : List BlockState) : Prop :=
  Numerics.toFloat32 (heavyHitterScore cfg blocks) ≤ heavyHitterScore cfg blocks ∧
    ((blocks.map (fun b => Numerics.toFloat32 b.avgAttentionScore)).Nodup →
      ∀ b ∈ blocks,
        Numerics.toFloat32 (heavyHitterScore cfg blocks) ≤ b.avgAttentionScore →
          heavyHitterScore cfg blocks ≤ b.avgAttentionScore)

instance [Numerics] (cfg : PolicyConfig) (blocks : List BlockState) :
    Decidable (ThresholdHolds cfg blocks) := by
  unfold ThresholdHolds
  infer_instance

section Threshold

variable {fx : FeatureExtractor} {cfg : PolicyConfig} {blocks : List BlockState}
  (hblocks : blocks ≠ [])

include hblocks

/-- No more heavy hitters than blocks. -/
theorem heavyHitterCount_le (hfraction : cfg.heavyHitterFraction ≤ 1) :
    heavyHitterCount cfg blocks ≤ blocks.length := by
  have hpos : 0 < blocks.length := List.length_pos_iff.mpr hblocks
  have hint : pyInt ((blocks.length : ℚ) * cfg.heavyHitterFraction) ≤ blocks.length := by
    have hprod : (blocks.length : ℚ) * cfg.heavyHitterFraction ≤ blocks.length :=
      mul_le_of_le_one_right (Nat.cast_nonneg _) hfraction
    unfold pyInt
    split
    · rw [← Int.floor_natCast (R := ℚ) blocks.length]
      exact Int.floor_le_floor hprod
    · rename_i hneg
      rw [Int.ceil_le]
      exact hprod
  unfold heavyHitterCount
  omega

theorem nHeavy_computeBatchStats [Numerics]
    (hsame : cfg.heavyHitterFraction = fx.heavyHitterFraction) :
    fx.nHeavy (FeatureExtractor.computeBatchStats blocks) = heavyHitterCount cfg blocks := by
  have hpos : 0 < blocks.length := List.length_pos_iff.mpr hblocks
  have hmax : max blocks.length 1 = blocks.length := by omega
  rw [FeatureExtractor.nHeavy, FeatureExtractor.computeBatchStats_of_ne_nil hblocks,
    heavyHitterCount, hsame]
  show max 1 (pyInt (((max blocks.length 1 : Nat) : ℚ) * fx.heavyHitterFraction)) = _
  rw [hmax]

variable (hfraction : cfg.heavyHitterFraction ≤ 1)
  (hsame : cfg.heavyHitterFraction = fx.heavyHitterFraction)

include hfraction

theorem toNat_heavyHitterCount_bounds :
    1 ≤ (heavyHitterCount cfg blocks).toNat ∧
      (heavyHitterCount cfg blocks).toNat ≤ (blocks.map (·.avgAttentionScore)).length := by
  have hone := one_le_heavyHitterCount cfg blocks
  have hle := heavyHitterCount_le hblocks hfraction
  rw [List.length_map]
  omega

theorem exists_heavyHitterScore :
    ∃ b ∈ blocks, b.avgAttentionScore = heavyHitterScore cfg blocks := by
  obtain ⟨hone, hle⟩ := toNat_heavyHitterCount_bounds hblocks hfraction
  exact List.mem_map.mp (kthGreatest_mem hone hle 0)

include hsame

/-- The flag is set from the rounded `k`-th greatest score on. -/
theorem isHeavyHitter_iff_toFloat32_le [Numerics] (b : BlockState) :
    fx.isHeavyHitter b (FeatureExtractor.computeBatchStats blocks) = true ↔
      Numerics.toFloat32 (heavyHitterScore cfg blocks) ≤ b.avgAttentionScore := by
  obtain ⟨hone, hle⟩ := toNat_heavyHitterCount_bounds hblocks hfraction
  have hheavy := nHeavy_computeBatchStats hblocks hsame
  have hroom : fx.nHeavy (FeatureExtractor.computeBatchStats blocks) ≤ blocks.length := by
    rw [hheavy]
    exact heavyHitterCount_le hblocks hfraction
  have hmono : Monotone Numerics.toFloat32 := fun x y hxy => Numerics.toFloat32_mono x y hxy
  have hround := kthGreatest_map hone hle 0 hmono 0
  rw [kthGreatest, List.length_map, List.length_map, List.map_map] at hround
  rw [FeatureExtractor.isHeavyHitter_computeBatchStats_iff fx hblocks hroom, hheavy,
    heavyHitterScore, ← hround]
  rfl

/-- As many blocks are flagged as there are heavy hitters exactly if the
threshold is not lifted. -/
theorem heavyHitterCount_le_countP_iff [Numerics] :
    heavyHitterCount cfg blocks ≤
      blocks.countP (fun b => fx.isHeavyHitter b (FeatureExtractor.computeBatchStats blocks)) ↔
    Numerics.toFloat32 (heavyHitterScore cfg blocks) ≤ heavyHitterScore cfg blocks := by
  have hone := one_le_heavyHitterCount cfg blocks
  obtain ⟨hone', hle'⟩ := toNat_heavyHitterCount_bounds hblocks hfraction
  have hcount :
      blocks.countP (fun b => fx.isHeavyHitter b (FeatureExtractor.computeBatchStats blocks)) =
        (blocks.map (·.avgAttentionScore)).countP
          (fun x => decide (Numerics.toFloat32 (heavyHitterScore cfg blocks) ≤ x)) := by
    rw [List.countP_map]
    apply List.countP_congr
    intro b _
    rw [isHeavyHitter_iff_toFloat32_le hblocks hfraction hsame, Function.comp_apply,
      decide_eq_true_iff]
  have hkth := le_countP_iff hone' hle' 0 (Numerics.toFloat32 (heavyHitterScore cfg blocks))
  rw [← hcount] at hkth
  show _ ↔ Numerics.toFloat32 (heavyHitterScore cfg blocks) ≤
    kthGreatest (heavyHitterCount cfg blocks).toNat (blocks.map (·.avgAttentionScore)) 0
  rw [← hkth]
  omega

omit hsame in
/-- Among scores that round to different values the policy selects from the
`k`-th greatest on. -/
theorem mem_heavyHitters_iff [Numerics]
    (hdistinct : (blocks.map (fun b => Numerics.toFloat32 b.avgAttentionScore)).Nodup)
    {b : BlockState} (hb : b ∈ blocks) :
    b ∈ H2OPolicy.heavyHitters cfg blocks ↔ heavyHitterScore cfg blocks ≤ b.avgAttentionScore := by
  have hscores : (blocks.map (·.avgAttentionScore)).Nodup := by
    apply List.Nodup.of_map Numerics.toFloat32
    rw [List.map_map]
    exact hdistinct
  have hone := one_le_heavyHitterCount cfg blocks
  obtain ⟨hone', hle'⟩ := toNat_heavyHitterCount_bounds hblocks hfraction
  rw [List.length_map] at hle'
  rw [H2OPolicy.heavyHitters, sliceTo_of_nonneg _ (by omega)]
  exact mem_take_sortByDesc_iff hscores hone' hle' 0 hb

/-- The flags serve their purpose exactly if the threshold holds. -/
theorem heavyHittersSurvive_iff [Numerics] :
    HeavyHittersSurvive fx cfg blocks ↔ ThresholdHolds cfg blocks := by
  have hflag := fun b => isHeavyHitter_iff_toFloat32_le hblocks hfraction hsame b
  constructor
  · intro h
    constructor
    · exact (heavyHitterCount_le_countP_iff hblocks hfraction hsame).mp h.enough
    · intro hdistinct b hb hreached
      rw [← mem_heavyHitters_iff hblocks hfraction hdistinct hb]
      exact (h.selected hdistinct b hb).mp ((hflag b).mpr hreached)
  · rintro ⟨hle, hnone⟩
    constructor
    · exact (heavyHitterCount_le_countP_iff hblocks hfraction hsame).mpr hle
    · intro b _ hgreatest
      obtain ⟨c, hc, hscore⟩ := exists_heavyHitterScore hblocks hfraction
      have hreached := hgreatest c hc
      rw [hscore] at hreached
      exact (hflag b).mpr (hle.trans hreached)
    · intro hdistinct b hb
      rw [hflag b, mem_heavyHitters_iff hblocks hfraction hdistinct hb]
      constructor
      · exact hnone hdistinct b hb
      · exact hle.trans

omit hsame in
/-- A rounding that leaves rounded values alone moves no score past a threshold
it does not lift. -/
theorem thresholdHolds_iff_of_idempotent [Numerics]
    (hround : ∀ x, Numerics.toFloat32 (Numerics.toFloat32 x) = Numerics.toFloat32 x) :
    ThresholdHolds cfg blocks ↔
      Numerics.toFloat32 (heavyHitterScore cfg blocks) ≤ heavyHitterScore cfg blocks := by
  constructor
  · intro h
    exact h.1
  · intro hle
    refine ⟨hle, ?_⟩
    intro hdistinct b hb hreached
    by_contra hbelow
    obtain ⟨c, hc, hscore⟩ := exists_heavyHitterScore hblocks hfraction
    -- `b` lies between the threshold and the score, so the two round alike
    have hlow := Numerics.toFloat32_mono _ _ hreached
    have hhigh := Numerics.toFloat32_mono _ _ (not_le.mp hbelow).le
    rw [hround] at hlow
    rw [← hscore] at hlow hhigh
    have hsame := List.inj_on_of_nodup_map hdistinct hb hc (le_antisymm hhigh hlow)
    rw [hsame, hscore] at hbelow
    exact hbelow le_rfl

end Threshold

/-! ## The flag survives where the threshold does -/

/-- **The heavy-hitter feature survives rounding where the threshold is not
lifted.**

For a nonempty batch, any monotone conversion to `float32`, and a fraction of at
most one, the rows carry the flag of each block; the flags cover the top
fraction, include every block of greatest score and, where no two scores round
to one value, name the heavy hitters of `H2OPolicy`, exactly if the `k`-th
greatest score does not round up, and in that last case no other score lies
between it and what it rounds down to, which cannot happen to a conversion that
leaves rounded values alone. -/
theorem heavy_hitters_survive_iff [Numerics] (fx : FeatureExtractor) (cfg : PolicyConfig)
    {blocks : List BlockState} (hblocks : blocks ≠ []) (hfraction : cfg.heavyHitterFraction ≤ 1)
    (hsame : cfg.heavyHitterFraction = fx.heavyHitterFraction) {sm : SystemMetrics}
    {rows : List (List ℚ)}
    (hrows : fx.extractBatch blocks sm (FeatureExtractor.computeBatchStats blocks) = .ok rows) :
    rows.map (fun row => row[isHeavyHitterFlag]?) = blocks.map (fun b =>
      some (Numerics.toFloat32
        (if fx.isHeavyHitter b (FeatureExtractor.computeBatchStats blocks) then 1 else 0))) ∧
    ((blocks.map (·.blockId)).Nodup → ∀ b ∈ blocks,
      b ∈ H2OPolicy.heavyHitters cfg blocks ↔ b.blockId ∈ H2OPolicy.hhIds cfg blocks) ∧
    (HeavyHittersSurvive fx cfg blocks ↔ ThresholdHolds cfg blocks) ∧
    ((∀ x, Numerics.toFloat32 (Numerics.toFloat32 x) = Numerics.toFloat32 x) →
      (HeavyHittersSurvive fx cfg blocks ↔
        Numerics.toFloat32 (heavyHitterScore cfg blocks) ≤ heavyHitterScore cfg blocks)) := by
  refine ⟨?_, ?_, heavyHittersSurvive_iff hblocks hfraction hsame, ?_⟩
  · rw [FeatureExtractor.rows_eq hblocks hrows, List.map_map]
    rfl
  · intro hids b hb
    exact (H2OPolicy.mem_hhIds_iff cfg hids hb).symm
  · intro hround
    rw [heavyHittersSurvive_iff hblocks hfraction hsame]
    exact thresholdHolds_iff_of_idempotent hblocks hfraction hround

/-- Round to nearest on the multiples of `2⁻²⁷`, the `float32` values between
1/16 and 1/8. -/
@[reducible] def gridNumerics : Numerics :=
  { lineNumerics.toNumerics with
    toFloat32 := fun x => ⌊x * 2 ^ 27 + 1 / 2⌋ / 2 ^ 27
    toFloat32_mono := by
      intro x y hxy
      have hfloor : ⌊x * 2 ^ 27 + 1 / 2⌋ ≤ ⌊y * 2 ^ 27 + 1 / 2⌋ := by
        apply Int.floor_le_floor
        linarith
      have hcast : ((⌊x * 2 ^ 27 + 1 / 2⌋ : Int) : ℚ) ≤ (⌊y * 2 ^ 27 + 1 / 2⌋ : Int) := by
        exact_mod_cast hfloor
      exact div_le_div_of_nonneg_right hcast (by norm_num) }

/-- A batch of one block. -/
def scoredOnce (score : ℚ) : List BlockState :=
  [{ blockId := 0, layerId := 0, headGroup := 0, requestId := "r", avgAttentionScore := score }]

/-- A score of three quarters survives. -/
theorem heavy_hitters_survive_iff_three_quarters :
    letI : Numerics := gridNumerics
    ∃ rows, ({} : FeatureExtractor).extractBatch (scoredOnce (3 / 4)) {}
        (FeatureExtractor.computeBatchStats (scoredOnce (3 / 4))) = .ok rows ∧
      rows.map (fun row => row[isHeavyHitterFlag]?) = [some 1] ∧
      HeavyHittersSurvive {} {} (scoredOnce (3 / 4)) := by
  let _ : Numerics := gridNumerics
  have hne : scoredOnce (3 / 4) ≠ [] := by decide
  have hrows := ({} : FeatureExtractor).extractBatch_computeBatchStats hne {} (by decide)
  have hsurvive := heavy_hitters_survive_iff {} {} hne (by decide +kernel) rfl hrows
  refine ⟨_, hrows, ?_, ?_⟩
  · rw [hsurvive.1]
    decide +kernel
  · exact hsurvive.2.2.1.mpr (by decide +kernel)

/-- The double nearest 0.1 rounds up to `float32`, and the one block of the
batch has no flag. -/
theorem heavy_hitters_survive_fails :
    letI : Numerics := gridNumerics
    let fx : FeatureExtractor := {}
    let blocks := scoredOnce (3602879701896397 / 36028797018963968)
    ∃ rows, fx.extractBatch blocks {} (FeatureExtractor.computeBatchStats blocks) = .ok rows ∧
      Numerics.toFloat32 (3602879701896397 / 36028797018963968) = 13421773 / 134217728 ∧
      rows.map (fun row => row[isHeavyHitterFlag]?) = [some 0] ∧
      heavyHitterCount {} blocks = 1 ∧
      H2OPolicy.hhIds {} blocks = [0] ∧
      ¬HeavyHittersSurvive fx {} blocks := by
  let _ : Numerics := gridNumerics
  intro fx blocks
  have hne : blocks ≠ [] := by decide
  have hrows := fx.extractBatch_computeBatchStats hne {} (by decide)
  refine ⟨_, hrows, by decide +kernel, by decide +kernel, by decide +kernel, by decide +kernel, ?_⟩
  intro hsurvive
  have henough := hsurvive.enough
  exact absurd henough (by decide +kernel)

end KVOrchestrator.Ports
