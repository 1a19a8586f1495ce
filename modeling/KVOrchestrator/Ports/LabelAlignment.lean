import KVOrchestrator.Ports.ReuseLabels

/-!
# Labels next to their rows

`generate_from_trace` labels a trace and computes its feature matrix from the
labelled frame, so the entries of `X` and `y` always belong together.  Whether
they belong to the rows of the trace as well depends on the order of the
labelled frame: `future_reuse` returns it in the order of its `sort_values`,
though its counts do not depend on that order, and the other strategies in the
order of the trace (`generatePseudoLabels_eq`).
-/

namespace KVOrchestrator.Ports

open KVOrchestrator.Verified

/-- `FEATURE_NAMES` -/
def featureNames : List String :=
  [ "block_age_normalized", "recency_score", "access_frequency", "avg_attention_score",
    "max_attention_score", "attention_rank_normalized", "sink_token_flag",
    "prefix_reuse_flag", "layer_depth_normalized", "head_group_normalized",
    "gpu_mem_pressure", "queue_depth_normalized", "context_length_normalized",
    "output_length_normalized", "workload_type_encoded", "is_heavy_hitter",
    "is_recent_window", "access_frequency_log",
    "cumulative_attention_mass_rank", "tier_encoded", "inter_access_interval_normalized" ]

structure LabelGenerator where
  strategy : String := "combined"
  futureWindowSteps : Int := 100
  scorer : ImportanceScorer := {}
  deriving DecidableEq

namespace LabelGenerator

/-- `df[c].values if c in df.columns else default`, on one row. -/
def col {α : Type} (columns : List String) (c : String) (value default : α) : α :=
  if c ∈ columns then value else default

/-- What the feature matrix reads of a row in a frame of these columns. -/
def readColumns (columns : List String) (r : TelemetryRecord) : TelemetryRecord :=
  { r with
    blockAgeSteps := col columns "block_age_steps" r.blockAgeSteps 0
    lastAccessStep := col columns "last_access_step" r.lastAccessStep 0
    avgAttentionScore := col columns "avg_attention_score" r.avgAttentionScore 0
    accessCount := col columns "access_count" r.accessCount 0
    maxAttentionScore := col columns "max_attention_score" r.maxAttentionScore 0
    blockId := col columns "block_id" r.blockId 0
    prefixReuseFlag := col columns "prefix_reuse_flag" r.prefixReuseFlag false
    layerId := col columns "layer_id" r.layerId 0
    headGroup := col columns "head_group" r.headGroup 0
    gpuMemUsedMb := col columns "gpu_mem_used_mb" r.gpuMemUsedMb 0
    gpuMemFreeMb := col columns "gpu_mem_free_mb" r.gpuMemFreeMb 0
    queueDepth := col columns "queue_depth" r.queueDepth 0
    contextLength := col columns "context_length" r.contextLength 0
    generatedTokens := col columns "generated_tokens" r.generatedTokens 0
    workloadType := col columns "workload_type" r.workloadType "unknown"
    quantizedFlag := col columns "quantized_flag" r.quantizedFlag false
    offloadedFlag := col columns "offloaded_flag" r.offloadedFlag false
    evictedFlag := col columns "evicted_flag" r.evictedFlag false }

/-- Two features are written only where their columns are there. -/
def clearMissing (columns : List String) (row : List ℚ) : List ℚ :=
  let row := if "block_id" ∈ columns then row else row.set 16 0
  if "quantized_flag" ∈ columns ∧ "offloaded_flag" ∈ columns then row else row.set 19 0

variable [Numerics]

/-- `_build_feature_matrix` on a frame of any columns. -/
def buildFrameMatrix (columns : List String) (df : List TelemetryRecord) :
    Except PyError (List (List ℚ)) := do
  let X ← buildFeatureMatrix (df.map (readColumns columns))
  return X.map (clearMissing columns)

/-- Build (X, y, feature_names) from a raw telemetry trace. -/
def generateFromTrace [StepSort] (gen : LabelGenerator) (traceDf : TraceFrame) :
    Except PyError (List (List ℚ) × List ℚ × List String) := do
  let labeled ← gen.scorer.generatePseudoLabels traceDf gen.strategy gen.futureWindowSteps
  let y := labeled.rows.map (fun row => Numerics.toFloat32 row.2)
  let X ← buildFrameMatrix labeled.columns (labeled.rows.map (·.1))
  if X.length = y.length then return (X, y, featureNames)
  else .error (.other "AssertionError: Feature rows must match label count.")

/-- The features of one row of a trace. -/
def rowFeatures (trace : TraceFrame) (r : TelemetryRecord) : List ℚ :=
  clearMissing trace.columns
    ((featureRow (trace.rows.map (readColumns trace.columns)) (readColumns trace.columns r)).map
      Numerics.toFloat32)

end LabelGenerator

/-- The columns without which a strategy raises. -/
def requiredColumns (strategy : String) : List String :=
  if strategy = "attention_mass" then ["avg_attention_score"]
  else if strategy = "combined" then
    ["avg_attention_score", "prefix_reuse_flag", "access_count", "max_attention_score"]
  else []

/-- The scores stand next to the rows of the trace: in the labelled frame, with
the columns of the trace as they are, and in the training data. -/
structure RowsLabeled [Numerics] [StepSort] (gen : LabelGenerator) (trace : TraceFrame)
    (scores : List ℚ) : Prop where
  length_scores : scores.length = trace.rows.length
  labeled : gen.scorer.generatePseudoLabels trace gen.strategy gen.futureWindowSteps =
    .ok (trace.withScores scores)
  training : gen.generateFromTrace trace =
    .ok (trace.rows.map (LabelGenerator.rowFeatures trace), scores.map Numerics.toFloat32,
      featureNames)

/-- The second trace has the rows of the first in another order. -/
structure RearrangesRows (trace trace' : TraceFrame) : Prop where
  columns : trace'.columns = trace.columns
  rows : trace'.rows.Perm trace.rows

/-- Both traces are labelled in their own order, and a row has the same label in
both, wherever it stands. -/
def LabelsAligned [Numerics] [StepSort] (gen : LabelGenerator) (trace trace' : TraceFrame) :
    Prop :=
  ∃ scores scores', RowsLabeled gen trace scores ∧ RowsLabeled gen trace' scores' ∧
    ∀ i j : Nat, trace'.rows[i]? = trace.rows[j]? → scores'[i]? = scores[j]?

/-- There are rows, and the sort of `future_reuse` leaves them where they are. -/
def KeepsRowOrder [StepSort] (gen : LabelGenerator) (trace : TraceFrame) : Prop :=
  trace.rows ≠ [] ∧ (gen.strategy = "future_reuse" → trace.HasReuseColumns →
    StepSort.sortValues trace.rows = trace.rows)

/-! ## The labels of a row -/

/-- The label of a row among the rows of a frame. -/
def rowLabel (gen : LabelGenerator) (columns : List String) (rows : List TelemetryRecord)
    (r : TelemetryRecord) : ℚ :=
  let att : ℚ := r.avgAttentionScore / max (maxD (rows.map (·.avgAttentionScore)) 0) (1 / 10 ^ 9)
  if gen.strategy = "attention_mass" then att
  else if gen.strategy = "future_reuse" then
    if "last_access_step" ∈ columns ∧ "block_id" ∈ columns then
      reuseScore gen.futureWindowSteps rows r
    else 5 / 10
  else
    let maxCount := maxD (rows.map (fun r => max (r.accessCount : ℚ) 1)) 1
    let reu := clip01 ((if r.prefixReuseFlag then 1 else 0) + r.accessCount / maxCount * (5 / 10))
    let qd : ℚ :=
      r.maxAttentionScore / max (maxD (rows.map (·.maxAttentionScore)) 0) (1 / 10 ^ 9)
    clip01 (gen.scorer.alpha * att + gen.scorer.beta * reu + gen.scorer.gamma * qd -
      gen.scorer.delta * 1)

/-- Labels do not depend on the order of the frame. -/
theorem rowLabel_of_perm (gen : LabelGenerator) (columns : List String)
    {rows rows' : List TelemetryRecord} (hperm : rows.Perm rows') (r : TelemetryRecord) :
    rowLabel gen columns rows r = rowLabel gen columns rows' r := by
  have hmax (cell : TelemetryRecord → ℚ) (d : ℚ) :
      maxD (rows.map cell) d = maxD (rows'.map cell) d :=
    maxD_eq_of_perm (hperm.map cell) d
  simp only [rowLabel, hmax, reuseScore_of_perm gen.futureWindowSteps hperm]

/-- The order in which a strategy returns the rows. -/
def labeledOrder [StepSort] (gen : LabelGenerator) (trace : TraceFrame) : List TelemetryRecord :=
  if gen.strategy = "future_reuse" ∧ trace.HasReuseColumns then StepSort.sortValues trace.rows
  else trace.rows

namespace TraceFrame

theorem column_of_mem {α : Type} {df : TraceFrame} {name : String} (hname : name ∈ df.columns)
    (cell : TelemetryRecord → α) : df.column name cell = .ok (df.rows.map cell) :=
  if_pos hname

end TraceFrame

section Strategies

variable (sc : ImportanceScorer) {trace : TraceFrame}

theorem labelAttentionMass_eq (hcolumn : "avg_attention_score" ∈ trace.columns) (window : Int) :
    ImportanceScorer.labelAttentionMass trace =
      .ok (trace.withScores (trace.rows.map
        (rowLabel ⟨"attention_mass", window, sc⟩ trace.columns trace.rows))) := by
  rw [ImportanceScorer.labelAttentionMass, TraceFrame.column_of_mem hcolumn]
  show Except.ok (trace.withScores _) = _
  rw [List.map_map]
  rfl

theorem labelCombined_eq (hcolumns : ∀ c ∈ requiredColumns "combined", c ∈ trace.columns)
    (window : Int) :
    sc.labelCombined trace = .ok (trace.withScores (trace.rows.map
      (rowLabel ⟨"combined", window, sc⟩ trace.columns trace.rows))) := by
  have hcolumn (c : String) (hc : c ∈ requiredColumns "combined") (α : Type)
      (cell : TelemetryRecord → α) : trace.column c cell = .ok (trace.rows.map cell) :=
    TraceFrame.column_of_mem (hcolumns c hc) cell
  rw [ImportanceScorer.labelCombined, hcolumn _ (by decide), hcolumn _ (by decide),
    hcolumn _ (by decide), hcolumn _ (by decide)]
  show Except.ok (trace.withScores _) = _
  rw [List.map_map]
  rfl

/-- The counts of a label are those of the rows in any order. -/
theorem labelFutureReuse_eq [StepSort] (window : Int) :
    ImportanceScorer.labelFutureReuse trace window =
      TraceFrame.withScores ⟨trace.columns, labeledOrder ⟨"future_reuse", window, sc⟩ trace⟩
        ((labeledOrder ⟨"future_reuse", window, sc⟩ trace).map
          (rowLabel ⟨"future_reuse", window, sc⟩ trace.columns trace.rows)) := by
  by_cases hcolumns : trace.HasReuseColumns
  · have hpresent : ¬("last_access_step" ∉ trace.columns ∨ "block_id" ∉ trace.columns) := by
      rw [not_or, not_not, not_not]
      exact hcolumns
    have hlabel (r : TelemetryRecord) :
        rowLabel ⟨"future_reuse", window, sc⟩ trace.columns trace.rows r =
          reuseScore window (StepSort.sortValues trace.rows) r := by
      rw [reuseScore_of_perm window (StepSort.sortValues_perm trace.rows)]
      exact if_pos hcolumns
    rw [ImportanceScorer.labelFutureReuse, if_neg hpresent, labeledOrder, if_pos ⟨rfl, hcolumns⟩,
      funext hlabel]
    simp only [futureAccesses_eq_laterRows]
    rfl
  · have hmissing : "last_access_step" ∉ trace.columns ∨ "block_id" ∉ trace.columns := by
      rw [← not_and_or]
      exact hcolumns
    have hlabel (r : TelemetryRecord) :
        rowLabel ⟨"future_reuse", window, sc⟩ trace.columns trace.rows r = 5 / 10 :=
      if_neg hcolumns
    rw [ImportanceScorer.labelFutureReuse, if_pos hmissing, labeledOrder,
      if_neg fun h => hcolumns h.2, funext hlabel]

end Strategies

/-! ## The training data of a trace -/

/-- The new column is none that the features read. -/
theorem TraceFrame.mem_columns_withScores (df : TraceFrame) (scores : List ℚ) {c : String}
    (hc : c ≠ "importance_score") : c ∈ (df.withScores scores).columns ↔ c ∈ df.columns := by
  rw [TraceFrame.withScores]
  split
  · exact Iff.rfl
  · rw [List.mem_append, List.mem_singleton]
    exact or_iff_left hc

namespace LabelGenerator

theorem readColumns_withScores (df : TraceFrame) (scores : List ℚ) :
    readColumns (df.withScores scores).columns = readColumns df.columns := by
  funext r
  have hcol {α : Type} (c : String) (hc : c ≠ "importance_score") (value default : α) :
      col (df.withScores scores).columns c value default = col df.columns c value default := by
    simp only [col, df.mem_columns_withScores scores hc]
  unfold readColumns
  simp (disch := decide) only [hcol]

theorem clearMissing_withScores (df : TraceFrame) (scores : List ℚ) :
    clearMissing (df.withScores scores).columns = clearMissing df.columns := by
  funext row
  unfold clearMissing
  simp (disch := decide) only [df.mem_columns_withScores scores]

variable [Numerics]

theorem buildFrameMatrix_nil (columns : List String) :
    ∃ e, buildFrameMatrix columns [] = .error e := ⟨_, rfl⟩

theorem buildFrameMatrix_eq {trace : TraceFrame} (hrows : trace.rows ≠ []) :
    buildFrameMatrix trace.columns trace.rows = .ok (trace.rows.map (rowFeatures trace)) := by
  have hmap : ¬(trace.rows.map (readColumns trace.columns)).isEmpty := by
    rw [List.isEmpty_map, List.isEmpty_iff]
    exact hrows
  rw [buildFrameMatrix, buildFeatureMatrix, if_neg hmap]
  show Except.ok _ = _
  rw [List.map_map, List.map_map]
  rfl

end LabelGenerator

/-- Scores next to rows are read back row by row. -/
theorem TraceFrame.map_fst_withScores (df : TraceFrame) {scores : List ℚ}
    (hlen : scores.length = df.rows.length) :
    (df.withScores scores).rows.map (·.1) = df.rows := by
  rw [TraceFrame.withScores]
  exact List.map_fst_zip hlen.ge

theorem TraceFrame.map_snd_withScores (df : TraceFrame) {scores : List ℚ}
    (hlen : scores.length = df.rows.length) :
    (df.withScores scores).rows.map (·.2) = scores := by
  rw [TraceFrame.withScores]
  exact List.map_snd_zip hlen.le

section Aligned

variable [StepSort] {gen : LabelGenerator} {trace trace' : TraceFrame}

/-- The labelled frame: every row with its label, in the order of the strategy. -/
theorem generatePseudoLabels_eq
    (hstrategy : gen.strategy ∈ ["attention_mass", "future_reuse", "combined"])
    (hcolumns : ∀ c ∈ requiredColumns gen.strategy, c ∈ trace.columns) :
    gen.scorer.generatePseudoLabels trace gen.strategy gen.futureWindowSteps =
      .ok (TraceFrame.withScores ⟨trace.columns, labeledOrder gen trace⟩
        ((labeledOrder gen trace).map (rowLabel gen trace.columns trace.rows))) := by
  obtain ⟨strategy, window, sc⟩ := gen
  rcases List.mem_cons.mp hstrategy with rfl | hstrategy
  · exact labelAttentionMass_eq sc (hcolumns _ (List.mem_singleton.mpr rfl)) window
  rcases List.mem_cons.mp hstrategy with rfl | hstrategy
  · show Except.ok (ImportanceScorer.labelFutureReuse trace window) = _
    rw [labelFutureReuse_eq sc window]
  · rcases List.mem_singleton.mp hstrategy with rfl
    exact labelCombined_eq sc hcolumns window

variable [Numerics]

/-- `X` and `y` follow the labelled frame. -/
theorem generateFromTrace_of_labeled {frame : TraceFrame} {scores : List ℚ}
    (hlen : scores.length = frame.rows.length)
    (hlabeled : gen.scorer.generatePseudoLabels trace gen.strategy gen.futureWindowSteps =
      .ok (frame.withScores scores)) :
    gen.generateFromTrace trace =
      (LabelGenerator.buildFrameMatrix frame.columns frame.rows).bind (fun X =>
        if X.length = scores.length then
          .ok (X, scores.map Numerics.toFloat32, featureNames)
        else .error (.other "AssertionError: Feature rows must match label count.")) := by
  have hy : (frame.withScores scores).rows.map (fun row => Numerics.toFloat32 row.2) =
      scores.map Numerics.toFloat32 := by
    rw [← frame.map_snd_withScores hlen, List.map_map, frame.map_snd_withScores hlen]
    rfl
  have hX : LabelGenerator.buildFrameMatrix (frame.withScores scores).columns frame.rows =
      LabelGenerator.buildFrameMatrix frame.columns frame.rows := by
    rw [LabelGenerator.buildFrameMatrix, LabelGenerator.readColumns_withScores,
      LabelGenerator.clearMissing_withScores]
    rfl
  rw [LabelGenerator.generateFromTrace, hlabeled]
  show (LabelGenerator.buildFrameMatrix (frame.withScores scores).columns
    ((frame.withScores scores).rows.map (·.1))).bind _ = _
  rw [frame.map_fst_withScores hlen, hX, hy, List.length_map]
  rfl

omit [Numerics] in
theorem keepsRowOrder_iff :
    KeepsRowOrder gen trace ↔ trace.rows ≠ [] ∧ labeledOrder gen trace = trace.rows := by
  rw [KeepsRowOrder, labeledOrder]
  apply and_congr_right
  intro _
  split
  · next h =>
      constructor
      · intro hkeeps
        exact hkeeps h.1 h.2
      · intro heq _ _
        exact heq
  · next h =>
      constructor
      · intro _
        rfl
      · intro _ hreuse hcolumns
        exact absurd ⟨hreuse, hcolumns⟩ h

/-- Rows and scores are in place exactly where the order of the trace is kept,
and the scores are the labels then. -/
theorem rowsLabeled_iff
    (hstrategy : gen.strategy ∈ ["attention_mass", "future_reuse", "combined"])
    (hcolumns : ∀ c ∈ requiredColumns gen.strategy, c ∈ trace.columns) (scores : List ℚ) :
    RowsLabeled gen trace scores ↔ KeepsRowOrder gen trace ∧
      scores = trace.rows.map (rowLabel gen trace.columns trace.rows) := by
  have hall := generatePseudoLabels_eq hstrategy hcolumns
  have hlabels : ((labeledOrder gen trace).map (rowLabel gen trace.columns trace.rows)).length =
      (labeledOrder gen trace).length := List.length_map _
  rw [keepsRowOrder_iff]
  constructor
  · intro h
    have hframe : TraceFrame.withScores ⟨trace.columns, labeledOrder gen trace⟩
        ((labeledOrder gen trace).map (rowLabel gen trace.columns trace.rows)) =
          trace.withScores scores := Except.ok.inj (hall.symm.trans h.labeled)
    have horder : labeledOrder gen trace = trace.rows := by
      rw [← trace.map_fst_withScores h.length_scores, ← hframe]
      exact (TraceFrame.map_fst_withScores ⟨trace.columns, labeledOrder gen trace⟩ hlabels).symm
    have hscores : scores = trace.rows.map (rowLabel gen trace.columns trace.rows) := by
      rw [← trace.map_snd_withScores h.length_scores, ← hframe,
        TraceFrame.map_snd_withScores ⟨trace.columns, labeledOrder gen trace⟩ hlabels, horder]
    refine ⟨⟨?_, horder⟩, hscores⟩
    -- without rows there is no maximum to normalise by
    intro hnil
    have htraining := h.training
    obtain ⟨e, he⟩ := LabelGenerator.buildFrameMatrix_nil trace.columns
    rw [generateFromTrace_of_labeled h.length_scores h.labeled, hnil, he] at htraining
    cases htraining
  · rintro ⟨⟨hrows, horder⟩, rfl⟩
    have hlen : (trace.rows.map (rowLabel gen trace.columns trace.rows)).length =
        trace.rows.length := List.length_map _
    rw [horder] at hall
    refine { length_scores := hlen, labeled := hall, training := ?_ }
    rw [generateFromTrace_of_labeled hlen hall, LabelGenerator.buildFrameMatrix_eq hrows]
    exact if_pos ((List.length_map _).trans hlen.symm)

/-- **Labels next to their rows.**

A trace and a rearrangement of it are labelled in place, by the labelled frame
and by the training data, and each row keeps its label, exactly if neither is
empty and, where the strategy is `future_reuse` and its columns are there, the
sort by step moves no row of either. -/
theorem labels_aligned_iff
    (hstrategy : gen.strategy ∈ ["attention_mass", "future_reuse", "combined"])
    (hcolumns : ∀ c ∈ requiredColumns gen.strategy, c ∈ trace.columns)
    (h : RearrangesRows trace trace') :
    LabelsAligned gen trace trace' ↔ KeepsRowOrder gen trace ∧ KeepsRowOrder gen trace' := by
  have hcolumns' : ∀ c ∈ requiredColumns gen.strategy, c ∈ trace'.columns := by
    rw [h.columns]
    exact hcolumns
  constructor
  · rintro ⟨scores, scores', hlabeled, hlabeled', -⟩
    exact ⟨((rowsLabeled_iff hstrategy hcolumns scores).mp hlabeled).1,
      ((rowsLabeled_iff hstrategy hcolumns' scores').mp hlabeled').1⟩
  · rintro ⟨hkeeps, hkeeps'⟩
    refine ⟨_, _, (rowsLabeled_iff hstrategy hcolumns _).mpr ⟨hkeeps, rfl⟩,
      (rowsLabeled_iff hstrategy hcolumns' _).mpr ⟨hkeeps', rfl⟩, ?_⟩
    intro i j hsame
    have hlabel :
        rowLabel gen trace'.columns trace'.rows = rowLabel gen trace.columns trace.rows := by
      rw [h.columns]
      exact funext (rowLabel_of_perm gen trace.columns h.rows)
    rw [List.getElem?_map, List.getElem?_map, hsame, hlabel]

omit [Numerics] in
/-- Steps that rise from row to row are in order already. -/
theorem keepsRowOrder_of_rising (hrows : trace.rows ≠ [])
    (hrising : trace.rows.Pairwise (fun a b => a.lastAccessStep < b.lastAccessStep)) :
    KeepsRowOrder gen trace := by
  refine ⟨hrows, fun _ _ => ?_⟩
  have hperm := StepSort.sortValues_perm trace.rows
  have hsteps : (trace.rows.map (·.lastAccessStep)).Nodup :=
    (List.pairwise_map.mpr hrising).imp ne_of_lt
  apply hperm.eq_of_pairwise _ (StepSort.sortValues_ascending trace.rows) (hrising.imp le_of_lt)
  intro a b ha hb hab hba
  exact List.inj_on_of_nodup_map hsteps (hperm.mem_iff.mp ha) hb (le_antisymm hab hba)

omit [Numerics] in
/-- Steps that fall somewhere are not. -/
theorem KeepsRowOrder.ascending (h : KeepsRowOrder gen trace)
    (hreuse : gen.strategy = "future_reuse") (hcolumns : trace.HasReuseColumns) :
    trace.rows.Pairwise (fun a b => a.lastAccessStep ≤ b.lastAccessStep) := by
  rw [← h.2 hreuse hcolumns]
  exact StepSort.sortValues_ascending trace.rows

end Aligned

/-! ## Two cycles -/

/-- A frame with a column for every field of a record. -/
def recordFrame (rows : List TelemetryRecord) : TraceFrame where
  columns :=
    [ "request_id", "timestamp", "workload_type", "model_name", "prompt_tokens",
      "generated_tokens", "context_length", "queue_depth", "gpu_mem_used_mb",
      "gpu_mem_free_mb", "cpu_mem_used_mb", "block_id", "layer_id", "head_group",
      "block_age_steps", "last_access_step", "access_count", "avg_attention_score",
      "max_attention_score", "prefix_reuse_flag", "quantized_flag", "offloaded_flag",
      "evicted_flag", "decision_label", "latency_ms", "ttft_ms", "tpot_ms", "task_score" ]
  rows := rows

/-- A frame whose later cycle comes first is labelled in the other order. -/
theorem future_reuse_moves_rows :
    letI : Numerics := lineNumerics.toNumerics
    letI : StepSort := stableStepSort
    let trace := recordFrame (keepingCycle 1 5 ++ keepingCycle 0 0)
    RearrangesRows trace trace ∧
      ¬LabelsAligned { strategy := "future_reuse" } trace trace := by
  intro trace
  let _ : Numerics := lineNumerics.toNumerics
  let _ : StepSort := stableStepSort
  refine ⟨⟨rfl, List.Perm.refl _⟩, ?_⟩
  rintro ⟨scores, _, hlabeled, -⟩
  have hkeeps := ((rowsLabeled_iff (by decide) (by decide) scores).mp hlabeled).1
  exact absurd (hkeeps.ascending rfl (by decide)) (by decide +kernel)

theorem labels_aligned_two_cycles :
    letI : Numerics := lineNumerics.toNumerics
    letI : StepSort := stableStepSort
    let trace := recordFrame (keepingCycle 0 0 ++ keepingCycle 1 5)
    LabelsAligned {} trace (recordFrame (keepingCycle 1 5 ++ keepingCycle 0 0)) ∧
      LabelsAligned { strategy := "future_reuse" } trace trace := by
  intro trace
  let _ : Numerics := lineNumerics.toNumerics
  let _ : StepSort := stableStepSort
  have hswap : RearrangesRows trace (recordFrame (keepingCycle 1 5 ++ keepingCycle 0 0)) :=
    ⟨rfl, List.perm_append_comm⟩
  have hsame : RearrangesRows trace trace := ⟨rfl, List.Perm.refl _⟩
  have hinOrder : KeepsRowOrder { strategy := "future_reuse" } trace :=
    keepsRowOrder_of_rising (by decide) (by decide +kernel)
  constructor
  · apply (labels_aligned_iff (by decide) (by decide) hswap).mpr
    exact ⟨⟨by decide, fun h => absurd h (by decide)⟩, ⟨by decide, fun h => absurd h (by decide)⟩⟩
  · exact (labels_aligned_iff (by decide) (by decide) hsame).mpr ⟨hinOrder, hinOrder⟩

end KVOrchestrator.Ports
