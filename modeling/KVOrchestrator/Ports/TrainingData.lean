import KVOrchestrator.Ports.LabelAlignment
import KVOrchestrator.Ports.ScoreBounds
import KVOrchestrator.Verified.Percentile

/-!
# Training data (`src/trainers/label_generator.py`)

Between a trace and a trained model stand three functions of the generator:
`generate_from_trace` makes the examples, `split_train_val_test` deals them out
along a random permutation of their indices, and `compute_label_statistics`
describes their labels.

The split is three slices of the permutation, so what it deals out are the
examples, once each (`training_examples_partitioned`).  The statistics are of
labels generated anew, with the default window; they lie in the unit interval
and in order, and do not depend on the order of the trace although one of the
strategies does (`label_statistics_ordered`).
-/

namespace KVOrchestrator.Ports

open KVOrchestrator.Verified

/-- The generator asserts as many rows as labels. -/
theorem length_of_generateFromTrace [Numerics] [StepSort] {gen : LabelGenerator}
    {trace : TraceFrame} {X : List (List ℚ)} {y : List ℚ} {names : List String}
    (h : gen.generateFromTrace trace = .ok (X, y, names)) : X.length = y.length := by
  unfold LabelGenerator.generateFromTrace at h
  cases hlabeled : gen.scorer.generatePseudoLabels trace gen.strategy gen.futureWindowSteps with
  | error e =>
      rw [hlabeled] at h
      cases h
  | ok labeled =>
      rw [hlabeled] at h
      simp only [bind, Except.bind] at h
      cases hX : LabelGenerator.buildFrameMatrix labeled.columns (labeled.rows.map (·.1)) with
      | error e =>
          rw [hX] at h
          cases h
      | ok X' =>
          rw [hX] at h
          simp only at h
          split at h
          · next hlen =>
              obtain ⟨rfl, rfl, _⟩ : X' = X ∧ _ = y ∧ _ = names := by
                simpa using Except.ok.inj h
              exact hlen
          · cases h

/-! ## Splitting -/

/-- `a[indices]` -/
def takeRows {α : Type} (a : List α) (indices : List Nat) : Except PyError (List α) :=
  indices.mapM fun i =>
    match a[i]? with
    | some x => .ok x
    | none => .error (.other "IndexError")

structure Split (α β : Type) where
  train : List α × List β
  val : List α × List β
  test : List α × List β

namespace LabelGenerator

/-- Random train / val / test split; `idx` is `rng.permutation(n)`. -/
def splitTrainValTest {α β : Type} (X : List α) (y : List β) (idx : List Nat)
    (valFrac testFrac : ℚ := 15 / 100) : Except PyError (Split α β) := do
  let n := y.length
  let nTest := pyInt (n * testFrac)
  let nVal := pyInt (n * valFrac)
  let testIdx := sliceTo idx nTest
  let valIdx := sliceBetween idx nTest (nTest + nVal)
  let trainIdx := sliceFrom idx (nTest + nVal)
  let XTrain ← takeRows X trainIdx
  let yTrain ← takeRows y trainIdx
  let XVal ← takeRows X valIdx
  let yVal ← takeRows y valIdx
  let XTest ← takeRows X testIdx
  let yTest ← takeRows y testIdx
  return { train := (XTrain, yTrain), val := (XVal, yVal), test := (XTest, yTest) }

end LabelGenerator

section TakeRows

variable {α β : Type} [Inhabited α] [Inhabited β]

/-- Indices in range are looked up. -/
theorem takeRows_eq {a : List α} {indices : List Nat} (h : ∀ i ∈ indices, i < a.length) :
    takeRows a indices = .ok (indices.map (fun i => a.getD i default)) := by
  unfold takeRows
  apply mapM_ok
  intro i hi
  have hlt := h i hi
  rw [List.getElem?_eq_getElem hlt, List.getD_eq_getElem _ _ hlt]

/-- The examples at all indices, in any order. -/
theorem map_getD_perm {a : List α} {idx : List Nat} (h : idx.Perm (List.range a.length)) :
    (idx.map (fun i => a.getD i default)).Perm a := by
  have hrange : (List.range a.length).map (fun i => a.getD i default) = a := by
    apply List.ext_getElem
    · rw [List.length_map, List.length_range]
    · intro i hi hi'
      rw [List.getElem_map, List.getElem_range, List.getD_eq_getElem _ _ hi']
  have hmap := h.map (fun i => a.getD i default)
  rwa [hrange] at hmap

/-- Rows and labels taken at the same indices belong together. -/
theorem zip_map_getD (X : List α) (y : List β) (indices : List Nat) :
    (indices.map (fun i => X.getD i default)).zip (indices.map (fun i => y.getD i default)) =
      indices.map (fun i => (X.getD i default, y.getD i default)) := by
  rw [List.zip_map']

theorem map_getD_zip_perm {X : List α} {y : List β} (hlen : X.length = y.length)
    {idx : List Nat} (h : idx.Perm (List.range y.length)) :
    (idx.map (fun i => (X.getD i default, y.getD i default))).Perm (X.zip y) := by
  have hzip : (X.zip y).length = y.length := by
    rw [List.length_zip, hlen, Nat.min_self]
  have hperm : (idx.map (fun i => (X.zip y).getD i default)).Perm (X.zip y) :=
    map_getD_perm (by rwa [hzip])
  have hsame : idx.map (fun i => (X.zip y).getD i default) =
      idx.map (fun i => (X.getD i default, y.getD i default)) := by
    apply List.map_congr_left
    intro i hi
    have hlt : i < y.length := List.mem_range.mp (h.mem_iff.mp hi)
    rw [List.getD_eq_getElem _ _ (hzip.symm ▸ hlt), List.getElem_zip,
      List.getD_eq_getElem _ _ (hlen.symm ▸ hlt), List.getD_eq_getElem _ _ hlt]
  rwa [hsame] at hperm

end TakeRows

namespace LabelGenerator

variable {α β : Type} [Inhabited α] [Inhabited β]

/-- **The split** of rows and labels that belong together: three slices of the
permutation, rows and labels of each at the same indices. -/
theorem splitTrainValTest_eq {X : List α} {y : List β} (hlen : X.length = y.length)
    {idx : List Nat} (hidx : idx.Perm (List.range y.length)) (valFrac testFrac : ℚ) :
    let nTest := pyInt (y.length * testFrac)
    let nVal := pyInt (y.length * valFrac)
    let part := fun indices : List Nat =>
      (indices.map (fun i => X.getD i default), indices.map (fun i => y.getD i default))
    splitTrainValTest X y idx valFrac testFrac =
      .ok
        { train := part (sliceFrom idx (nTest + nVal))
          val := part (sliceBetween idx nTest (nTest + nVal))
          test := part (sliceTo idx nTest) } := by
  intro nTest nVal part
  have hmem : ∀ {indices : List Nat}, indices ⊆ idx → ∀ i ∈ indices, i < y.length :=
    fun hsub i hi => List.mem_range.mp (hidx.mem_iff.mp (hsub hi))
  have htest : sliceTo idx nTest ⊆ idx := List.take_subset _ _
  have hval : sliceBetween idx nTest (nTest + nVal) ⊆ idx :=
    fun i hi => List.take_subset _ _ (List.drop_subset _ _ hi)
  have htrain : sliceFrom idx (nTest + nVal) ⊆ idx := List.drop_subset _ _
  have hX : ∀ {indices : List Nat}, indices ⊆ idx →
      takeRows X indices = .ok (indices.map (fun i => X.getD i default)) :=
    fun hsub => takeRows_eq (hlen.symm ▸ hmem hsub)
  have hy : ∀ {indices : List Nat}, indices ⊆ idx →
      takeRows y indices = .ok (indices.map (fun i => y.getD i default)) :=
    fun hsub => takeRows_eq (hmem hsub)
  unfold splitTrainValTest
  simp only [nTest, nVal] at htest hval htrain
  simp only [hX htrain, hy htrain, hX hval, hy hval, hX htest, hy htest]
  rfl

end LabelGenerator

/-- **The examples of a trace are dealt out once each.**

Whatever `generate_from_trace` makes of a trace, `split_train_val_test` deals it
out without an error, for any permutation of the indices and any two fractions
from zero up: every part has one label for each row, the rows with their labels
in the three parts together are those of the trace, once each, and the test and
validation parts are as large as their fractions say, as far as there are
examples. -/
theorem training_examples_partitioned [Numerics] [StepSort] (gen : LabelGenerator)
    (trace : TraceFrame) (X : List (List ℚ)) (y : List ℚ) (names : List String)
    (hgen : gen.generateFromTrace trace = .ok (X, y, names)) (idx : List Nat)
    (hidx : idx.Perm (List.range y.length)) (valFrac testFrac : ℚ) (hval : 0 ≤ valFrac)
    (htest : 0 ≤ testFrac) :
    ∃ s, LabelGenerator.splitTrainValTest X y idx valFrac testFrac = .ok s ∧
      (s.test.1.zip s.test.2 ++ (s.val.1.zip s.val.2 ++ s.train.1.zip s.train.2)).Perm
        (X.zip y) ∧
      s.test.1.length = s.test.2.length ∧ s.val.1.length = s.val.2.length ∧
      s.train.1.length = s.train.2.length ∧
      s.test.2.length = min ⌊y.length * testFrac⌋₊ y.length ∧
      s.val.2.length = min ⌊y.length * valFrac⌋₊ (y.length - ⌊y.length * testFrac⌋₊) := by
  have hlen : X.length = y.length := length_of_generateFromTrace hgen
  have hntest : pyInt (y.length * testFrac) = (⌊y.length * testFrac⌋₊ : Int) := by
    have hnonneg : (0 : ℚ) ≤ y.length * testFrac := mul_nonneg (Nat.cast_nonneg _) htest
    rw [pyInt_of_nonneg hnonneg, Int.natCast_floor_eq_floor hnonneg]
  have hnval : pyInt (y.length * valFrac) = (⌊y.length * valFrac⌋₊ : Int) := by
    have hnonneg : (0 : ℚ) ≤ y.length * valFrac := mul_nonneg (Nat.cast_nonneg _) hval
    rw [pyInt_of_nonneg hnonneg, Int.natCast_floor_eq_floor hnonneg]
  have hidxlen : idx.length = y.length := by
    rw [hidx.length_eq, List.length_range]
  refine ⟨_, LabelGenerator.splitTrainValTest_eq hlen hidx valFrac testFrac, ?_⟩
  simp only [zip_map_getD, hntest, hnval, List.length_map, true_and]
  refine ⟨?_, ?_, ?_⟩
  · rw [← List.map_append, ← List.map_append,
      slices_append idx (Int.natCast_nonneg _) (by omega)]
    exact map_getD_zip_perm hlen hidx
  · rw [sliceTo_of_nonneg idx (Int.natCast_nonneg _), Int.toNat_natCast, List.length_take,
      hidxlen]
  · have hbound : (0 : Int) ≤ (⌊y.length * testFrac⌋₊ : Int) + (⌊y.length * valFrac⌋₊ : Int) := by
      omega
    rw [sliceBetween, sliceTo_of_nonneg idx hbound, if_pos (Int.natCast_nonneg _),
      Int.toNat_natCast, List.length_drop, List.length_take, hidxlen]
    omega

/-- Two cycles of one block, the second for the test. -/
theorem training_examples_partitioned_two :
    letI : Numerics := lineNumerics.toNumerics
    letI : StepSort := stableStepSort
    let trace := recordFrame (keepingCycle 0 0 ++ keepingCycle 1 5)
    ∃ X y s, LabelGenerator.generateFromTrace { strategy := "future_reuse" } trace =
        .ok (X, y, featureNames) ∧
      LabelGenerator.splitTrainValTest X y [1, 0] 0 (1 / 2) = .ok s ∧
      s.test.2.length = 1 ∧ s.val.2.length = 0 := by
  intro trace
  let _ : Numerics := lineNumerics.toNumerics
  let _ : StepSort := stableStepSort
  have hkeeps : KeepsRowOrder { strategy := "future_reuse" } trace :=
    keepsRowOrder_of_rising (by decide) (by decide +kernel)
  have hlabeled := (rowsLabeled_iff (by decide) (by decide) _).mpr ⟨hkeeps, rfl⟩
  obtain ⟨s, hs, -, -, -, -, htest, hval⟩ :=
    training_examples_partitioned { strategy := "future_reuse" } trace _ _ _ hlabeled.training
      [1, 0] (by decide) 0 (1 / 2) (le_refl 0) (by norm_num)
  have htwo : trace.rows.length = 2 := by decide
  refine ⟨_, _, s, hlabeled.training, hs, ?_, ?_⟩
  · rw [htest, List.length_map, List.length_map, htwo]
    norm_num
  · rw [hval, List.length_map, List.length_map, htwo]
    norm_num

/-! ## Statistics of the labels -/

/-- The distribution of generated labels, less its deviation. -/
structure LabelStatistics where
  count : Nat
  mean : ℚ
  min : ℚ
  max : ℚ
  p25 : ℚ
  p50 : ℚ
  p75 : ℚ
  pctKeep : ℚ
  deriving DecidableEq

/-- `(s >= threshold).astype(int)` -/
def binaryLabels (s : List ℚ) (threshold : ℚ) : List Nat :=
  s.map (fun x => if x ≥ threshold then 1 else 0)

/-- What is reported of a series; `np.percentile` raises on an empty one. -/
def labelStatistics (s : List ℚ) : Except PyError LabelStatistics :=
  if s.isEmpty then .error (.other "IndexError")
  else
    .ok
      { count := s.length
        mean := s.sum / s.length
        min := minD s 0
        max := maxD s 0
        p25 := percentile s 25
        p50 := percentile s 50
        p75 := percentile s 75
        pctKeep := (binaryLabels s (5 / 10)).sum / s.length }

/-- The frame without its scores; all there is of it where the column of the
scores is missing. -/
def LabeledFrame.trace (df : LabeledFrame) : TraceFrame where
  columns := df.columns
  rows := df.rows.map (·.1)

namespace LabelGenerator

/-- The column `importance_score`, made with the default window where the frame
has none. -/
def importanceColumn [StepSort] (gen : LabelGenerator) (df : LabeledFrame) :
    Except PyError (List ℚ) :=
  if "importance_score" ∉ df.columns then do
    let labeled ← gen.scorer.generatePseudoLabels df.trace gen.strategy
    return labeled.rows.map (·.2)
  else .ok (df.rows.map (·.2))

/-- Convert continuous importance scores to binary keep/evict labels. -/
def generateBinaryLabels [StepSort] (gen : LabelGenerator) (df : LabeledFrame)
    (threshold : ℚ := 50 / 100) : Except PyError (List Nat) := do
  let s ← gen.importanceColumn df
  return binaryLabels s threshold

/-- Summarise the distribution of generated labels. -/
def computeLabelStatistics [StepSort] (gen : LabelGenerator) (df : LabeledFrame) :
    Except PyError LabelStatistics := do
  let s ← gen.importanceColumn df
  labelStatistics s

end LabelGenerator

/-- A frame whose labels are known: those it has are in range, and those it has
not can be made, from attention that is not negative where they are attention. -/
structure HasLabels (gen : LabelGenerator) (df : LabeledFrame) : Prop where
  rows : df.rows ≠ []
  recorded : "importance_score" ∈ df.columns → ∀ row ∈ df.rows, row.2 ∈ Set.Icc (0 : ℚ) 1
  strategy : gen.strategy ∈ ["attention_mass", "future_reuse", "combined"]
  columns : ∀ c ∈ requiredColumns gen.strategy, c ∈ df.columns
  attention : gen.strategy = "attention_mass" → ∀ row ∈ df.rows, 0 ≤ row.1.avgAttentionScore

/-- The second frame has the rows of the first, and their scores, in another
order. -/
structure LabeledFrame.Rearranges (df df' : LabeledFrame) : Prop where
  columns : df'.columns = df.columns
  rows : df'.rows.Perm df.rows

/-- The label of a row, recorded or made. -/
def columnLabel (gen : LabelGenerator) (df : LabeledFrame) (row : TelemetryRecord × ℚ) : ℚ :=
  if "importance_score" ∉ df.columns then
    rowLabel { gen with futureWindowSteps := 100 } df.columns df.trace.rows row.1
  else row.2

theorem clip01_mem (x : ℚ) : clip01 x ∈ Set.Icc (0 : ℚ) 1 :=
  ⟨le_min (le_max_right x 0) zero_le_one, min_le_right _ _⟩

theorem reuseScore_mem (window : Int) (rows : List TelemetryRecord) (r : TelemetryRecord) :
    reuseScore window rows r ∈ Set.Icc (0 : ℚ) 1 := by
  have hmax : (0 : ℚ) ≤ max (window / 10 : ℚ) 1 := zero_le_one.trans (le_max_right _ _)
  exact ⟨le_min zero_le_one (div_nonneg (Nat.cast_nonneg _) hmax), min_le_left _ _⟩

/-- Every strategy labels in the unit interval. -/
theorem rowLabel_mem {gen : LabelGenerator} {rows : List TelemetryRecord} {r : TelemetryRecord}
    (hr : r ∈ rows)
    (hattention : gen.strategy = "attention_mass" → ∀ r ∈ rows, 0 ≤ r.avgAttentionScore)
    (columns : List String) : rowLabel gen columns rows r ∈ Set.Icc (0 : ℚ) 1 := by
  unfold rowLabel
  by_cases hmass : gen.strategy = "attention_mass"
  · rw [if_pos hmass]
    have hle : r.avgAttentionScore ≤ maxD (rows.map (·.avgAttentionScore)) 0 :=
      le_maxD (List.mem_map_of_mem hr) 0
    exact div_mem_Icc (hattention hmass r hr) (hle.trans (le_max_left _ _))
  rw [if_neg hmass]
  by_cases hreuse : gen.strategy = "future_reuse"
  · rw [if_pos hreuse]
    split
    · exact reuseScore_mem _ _ _
    · norm_num
  · rw [if_neg hreuse]
    exact clip01_mem _

section Statistics

variable {gen : LabelGenerator} {df df' : LabeledFrame}

theorem columnLabel_mem (h : HasLabels gen df) {row : TelemetryRecord × ℚ}
    (hrow : row ∈ df.rows) : columnLabel gen df row ∈ Set.Icc (0 : ℚ) 1 := by
  unfold columnLabel
  split
  · apply rowLabel_mem (List.mem_map_of_mem hrow)
    intro hmass r hr
    obtain ⟨other, hother, rfl⟩ := List.mem_map.mp hr
    exact h.attention hmass other hother
  · next hcolumn => exact h.recorded (not_not.mp hcolumn) row hrow

/-- The column holds the labels of the rows, in one order or another. -/
theorem importanceColumn_perm [StepSort] (h : HasLabels gen df) :
    ∃ s, gen.importanceColumn df = .ok s ∧ s.Perm (df.rows.map (columnLabel gen df)) := by
  unfold LabelGenerator.importanceColumn columnLabel
  by_cases hcolumn : "importance_score" ∉ df.columns
  · have hlabeled : gen.scorer.generatePseudoLabels df.trace gen.strategy = _ :=
      @generatePseudoLabels_eq _ { gen with futureWindowSteps := 100 } df.trace h.strategy
        h.columns
    simp only [if_pos hcolumn]
    rw [hlabeled]
    refine ⟨_, rfl, ?_⟩
    rw [TraceFrame.map_snd_withScores _ (List.length_map _)]
    have horder : (labeledOrder { gen with futureWindowSteps := 100 } df.trace).Perm
        (df.rows.map (·.1)) := by
      unfold labeledOrder
      split
      · exact StepSort.sortValues_perm _
      · exact List.Perm.refl _
    have hlabels := horder.map (rowLabel { gen with futureWindowSteps := 100 } df.columns
      df.trace.rows)
    rwa [List.map_map] at hlabels
  · simp only [if_neg hcolumn]
    exact ⟨_, rfl, List.Perm.refl _⟩

/-- A rearrangement of the rows has their labels. -/
theorem columnLabels_perm (h : df.Rearranges df') :
    (df'.rows.map (columnLabel gen df')).Perm (df.rows.map (columnLabel gen df)) := by
  have hrows : df'.trace.rows.Perm df.trace.rows := h.rows.map _
  have hlabel : columnLabel gen df' = columnLabel gen df := by
    funext row
    unfold columnLabel
    rw [h.columns, rowLabel_of_perm _ _ hrows]
  rw [hlabel]
  exact h.rows.map _

theorem HasLabels.of_rearranged (hlabels : HasLabels gen df) (h : df.Rearranges df') :
    HasLabels gen df' where
  rows hnil := by
    have hperm := h.rows
    rw [hnil] at hperm
    exact hlabels.rows (List.nil_perm.mp hperm)
  recorded hcolumn row hrow :=
    hlabels.recorded (h.columns ▸ hcolumn) row (h.rows.mem_iff.mp hrow)
  strategy := hlabels.strategy
  columns c hc := by
    rw [h.columns]
    exact hlabels.columns c hc
  attention hmass row hrow := hlabels.attention hmass row (h.rows.mem_iff.mp hrow)

/-- But for the sum in the mean, the statistics do not see the order. -/
theorem labelStatistics_perm {s s' : List ℚ} (h : s'.Perm s) (hs : s ≠ []) :
    ∃ stats mean, labelStatistics s = .ok stats ∧
      labelStatistics s' = .ok { stats with mean := mean } := by
  have hs' : s' ≠ [] := by
    rintro rfl
    exact hs (List.nil_perm.mp h)
  have hbinary : (binaryLabels s' (5 / 10)).sum = (binaryLabels s (5 / 10)).sum :=
    (h.map _).sum_eq
  have hempty : ¬s.isEmpty = true := by rwa [List.isEmpty_iff]
  have hempty' : ¬s'.isEmpty = true := by rwa [List.isEmpty_iff]
  refine ⟨_, s'.sum / s'.length, if_neg hempty, ?_⟩
  rw [labelStatistics, if_neg hempty', minD_eq_of_perm h, maxD_eq_of_perm h, percentile_perm h,
    percentile_perm h, percentile_perm h, hbinary, h.length_eq]

/-- The order statistics of values in range. -/
structure LabelStatistics.Ordered (s : LabelStatistics) : Prop where
  nonneg : 0 ≤ s.min
  p25 : s.min ≤ s.p25
  p50 : s.p25 ≤ s.p50
  p75 : s.p50 ≤ s.p75
  max : s.p75 ≤ s.max
  le_one : s.max ≤ 1
  min_le_mean : s.min ≤ s.mean
  mean_le_max : s.mean ≤ s.max

theorem labelStatistics_ordered {s : List ℚ} (hs : s ≠ [])
    (hmem : ∀ x ∈ s, x ∈ Set.Icc (0 : ℚ) 1) {stats : LabelStatistics}
    (hstats : labelStatistics s = .ok stats) : stats.Ordered := by
  have hempty : ¬s.isEmpty = true := by rwa [List.isEmpty_iff]
  rw [labelStatistics, if_neg hempty] at hstats
  cases hstats
  exact
    { nonneg := (hmem _ (minD_mem hs 0)).1
      p25 := le_percentile hs (by norm_num) (by norm_num) (fun x hx => minD_le hx 0)
      p50 := percentile_mono hs (by norm_num) (by norm_num) (by norm_num)
      p75 := percentile_mono hs (by norm_num) (by norm_num) (by norm_num)
      max := percentile_le hs (by norm_num) (fun x hx => le_maxD hx 0)
      le_one := (hmem _ (maxD_mem hs 0)).2
      min_le_mean := le_mean hs (fun x hx => minD_le hx 0)
      mean_le_max := mean_le hs (fun x hx => le_maxD hx 0) }

end Statistics

end KVOrchestrator.Ports
