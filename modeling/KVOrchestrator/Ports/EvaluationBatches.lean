import KVOrchestrator.Ports.PolicyComparison
import KVOrchestrator.Verified.RoundedMeans
import Mathlib.Data.String.Basic

/-!
# Batches of evaluations (`src/evaluators/quality_metrics.py`)

A list of answers is scored in one of two ways: by one `evaluate` call, or answer
by answer with `evaluate_batch`, whose frame `compute_aggregate` then reduces to
means, over all answers and over those of each workload type.  The scores are
rounded to four places once on the first way and twice on the second.

Both ways report the same metrics, with means that are equal or neighbours among
the numbers of four places; and so is the mean put together from those of the
workload types (`batch_evaluation_agrees`).
-/

namespace KVOrchestrator.Ports

open KVOrchestrator.Verified

/-! ## The frame and its aggregate -/

/-- What `evaluate_batch` reads of a result. -/
structure EvalResult where
  prediction : String := ""
  reference : String := ""
  taskType : String := "qa"
  workloadType : String := ""
  requestId : String := ""

structure EvaluationRow where
  requestId : String
  workloadType : String
  taskType : String
  scores : OrdDict String ℚ

structure MetricAggregate where
  mean : ℚ
  std : Option ℚ
  p5 : ℚ
  p95 : ℚ

structure EvaluationAggregate where
  metrics : OrdDict String MetricAggregate
  perWorkload : Option (OrdDict String (OrdDict String ℚ))

/-- The columns of the frame that are no scores. -/
def textColumns : List String := ["request_id", "workload_type", "task_type"]

/-- The values of a column, without the missing ones. -/
def scoreColumn (df : List EvaluationRow) (m : String) : List ℚ :=
  df.filterMap (fun row => row.scores.get? m)

namespace QualityEvaluator

/-- Evaluate a list of results, one row for each. -/
def evaluateBatch [UnicodeTables] (ev : QualityEvaluator) (results : List EvalResult) :
    Except PyError (List EvaluationRow) :=
  results.mapM (fun r => do
    let single ← ev.evaluate [r.prediction] [r.reference]
    return {
      requestId := r.requestId
      workloadType := r.workloadType
      taskType := r.taskType
      scores := single })

/-- The columns that are metrics; columns are in order of their first occurrence. -/
def metricCols (ev : QualityEvaluator) (df : List EvaluationRow) : List String :=
  let columns :=
    if df.isEmpty then []
    else textColumns ++ (df.flatMap (fun row => row.scores.keys)).eraseDups
  columns.filter (fun c => decide (c ∈ ev.metrics))

/-- The mean of each metric over some of the rows. -/
def metricMeans (cols : List String) (group : List EvaluationRow) : OrdDict String ℚ :=
  OrdDict.ofEntries (cols.filterMap (fun m =>
    let vals := scoreColumn group m
    if vals.isEmpty then none else some (m, pyRound (sampleMean vals) 4)))

/-- The statistics of a column. -/
def metricAggregate [ScoreStatistics] (vals : List ℚ) : MetricAggregate where
  mean := pyRound (sampleMean vals) 4
  std := (ScoreStatistics.std vals).map (pyRound · 4)
  p5 := pyRound (percentile vals 5) 4
  p95 := pyRound (percentile vals 95) 4

/-- Compute mean ± std per metric, broken down by workload type.  A column of texts
has no mean. -/
def computeAggregate [ScoreStatistics] (ev : QualityEvaluator) (df : List EvaluationRow) :
    Except PyError EvaluationAggregate :=
  let cols := ev.metricCols df
  if cols.any (fun c => decide (c ∈ textColumns)) then .error (.other "TypeError")
  else .ok
    { metrics := OrdDict.ofEntries (cols.map (fun m => (m, metricAggregate (scoreColumn df m))))
      perWorkload :=
        if df.isEmpty then none
        else some ((OrdDict.groups (·.workloadType) id df).mapValues (metricMeans cols)) }

/-! ## One evaluation -/

section Evaluate

variable [UnicodeTables] (ev : QualityEvaluator)

/-- The metrics of the evaluator that `evaluate` knows. -/
def knownMetrics : List String := ev.metrics.filter (fun name => (metric? name).isSome)

/-- The best score of a prediction under a metric of a name. -/
def scoreUnder (name : String) (p : String × String) : ℚ :=
  match metric? name with
  | some metric => bestScore metric p.1 p.2
  | none => 0

/-- An evaluation has an entry for each known metric. -/
theorem evaluate_eq {predictions refs : List String} (hlength : predictions.length = refs.length)
    (hne : predictions ≠ []) :
    ev.evaluate predictions refs = .ok (OrdDict.ofEntries (ev.knownMetrics.map (fun name =>
      (name, pyRound (sampleMean ((predictions.zip refs).map (scoreUnder name))) 4)))) := by
  rw [evaluate, if_neg (by simpa using hlength), knownMetrics]
  congr 1
  generalize ev.metrics = names
  unfold OrdDict.ofEntries
  generalize OrdDict.empty = d
  induction names generalizing d with
  | nil => rfl
  | cons name names ih =>
      rw [List.foldl_cons, ih]
      cases hmetric : metric? name with
      | none =>
          rw [List.filter_cons_of_neg (by simp [hmetric]), addMean, hmetric]
      | some metric =>
          have hscores : (predictions.zip refs).map (fun p => bestScore metric p.1 p.2) =
              (predictions.zip refs).map (scoreUnder name) := by
            apply List.map_congr_left
            intro p _
            rw [scoreUnder, hmetric]
          have hscored : ((predictions.zip refs).map (scoreUnder name)).isEmpty = false := by
            cases predictions with
            | nil => exact absurd rfl hne
            | cons p predictions =>
                cases refs with
                | nil => cases hlength
                | cons r refs => rfl
          rw [List.filter_cons_of_pos (by simp [hmetric]), List.map_cons, List.foldl_cons, addMean,
            hmetric]
          dsimp only
          rw [hscores, hscored]
          rfl

/-- Nothing is reported of no predictions. -/
theorem evaluate_nil : ev.evaluate [] [] = .ok OrdDict.empty := by
  rw [evaluate, if_neg (by simp)]
  congr 1
  generalize OrdDict.empty = d
  induction ev.metrics with
  | nil => rfl
  | cons name names ih =>
      have hsame : addMean [] [] d name = d := by
        rw [addMean]
        cases metric? name <;> rfl
      rw [List.foldl_cons, hsame, ih]

/-- The evaluation of one result. -/
def rowOf (r : EvalResult) : EvaluationRow where
  requestId := r.requestId
  workloadType := r.workloadType
  taskType := r.taskType
  scores := OrdDict.ofEntries (ev.knownMetrics.map (fun name =>
    (name, pyRound (scoreUnder name (r.prediction, r.reference)) 4)))

theorem evaluateBatch_eq (results : List EvalResult) :
    ev.evaluateBatch results = .ok (results.map ev.rowOf) := by
  apply mapM_ok
  intro r _
  have hmean : ∀ name, sampleMean (([r.prediction].zip [r.reference]).map (scoreUnder name)) =
      scoreUnder name (r.prediction, r.reference) := by
    intro name
    simp [sampleMean]
  have hsingle := @evaluate_eq _ ev [r.prediction] [r.reference] rfl (List.cons_ne_nil _ _)
  simp only [hmean] at hsingle
  rw [hsingle]
  rfl

theorem keys_rowOf (r : EvalResult) :
    (ev.rowOf r).scores.keys = ev.knownMetrics.eraseDups :=
  OrdDict.keys_ofEntries_map _ _

/-- A column of the frame, and of a part of it. -/
theorem scoreColumn_map_rowOf {name : String} (hname : name ∈ ev.knownMetrics)
    (results : List EvalResult) :
    scoreColumn (results.map ev.rowOf) name =
      results.map (fun r => pyRound (scoreUnder name (r.prediction, r.reference)) 4) := by
  rw [scoreColumn, List.filterMap_map, ← List.filterMap_eq_map]
  apply List.filterMap_congr
  intro r _
  rw [Function.comp_apply, rowOf, OrdDict.get?_ofEntries_map, if_pos hname]
  rfl

end Evaluate

/-! ## Its columns -/

/-- Rows with the same columns make a frame with these. -/
theorem eraseDups_flatMap_const {α : Type} {rows : List α} (hne : rows ≠ []) {cols : List String}
    (hcols : cols.Nodup) : (rows.flatMap (fun _ => cols)).eraseDups = cols := by
  cases rows with
  | nil => exact absurd rfl hne
  | cons row rows =>
      have hrest : (rows.flatMap (fun _ => cols)).removeAll cols = [] := by
        rw [List.removeAll, List.filter_eq_nil_iff]
        intro c hc
        obtain ⟨_, _, hmem⟩ := List.mem_flatMap.mp hc
        simpa using hmem
      rw [List.flatMap_cons, List.eraseDups_append, hrest, OrdDict.eraseDups_of_nodup hcols,
        List.eraseDups_nil, List.append_nil]

section Aggregate

variable [UnicodeTables] {ev : QualityEvaluator} {results : List EvalResult}

theorem mem_knownMetrics_eraseDups {name : String} :
    name ∈ ev.knownMetrics.eraseDups ↔ name ∈ ev.knownMetrics := List.mem_eraseDups

/-- The metrics of a frame that can be aggregated are those that are known. -/
theorem metricCols_map_rowOf (hne : results ≠ [])
    (htexts : (ev.metricCols (results.map ev.rowOf)).any (fun c => decide (c ∈ textColumns)) =
      false) :
    ev.metricCols (results.map ev.rowOf) = ev.knownMetrics.eraseDups := by
  have hkeys : ((results.map ev.rowOf).flatMap (fun row => row.scores.keys)).eraseDups =
      ev.knownMetrics.eraseDups := by
    rw [List.flatMap_map]
    simp only [keys_rowOf]
    exact eraseDups_flatMap_const hne (OrdDict.nodup_eraseDups _)
  have hcols : ev.metricCols (results.map ev.rowOf) =
      (textColumns ++ ev.knownMetrics.eraseDups).filter (fun c => decide (c ∈ ev.metrics)) := by
    rw [metricCols, hkeys, if_neg (by simpa using hne)]
  have hnotexts : textColumns.filter (fun c => decide (c ∈ ev.metrics)) = [] := by
    rw [List.filter_eq_nil_iff]
    intro c hc hmetric
    rw [List.any_eq_false] at htexts
    apply htexts c
    · rw [hcols]
      exact List.mem_filter.mpr ⟨List.mem_append_left _ hc, hmetric⟩
    · exact decide_eq_true hc
  rw [hcols, List.filter_append, hnotexts, List.nil_append, List.filter_eq_self]
  intro c hc
  exact decide_eq_true (List.mem_filter.mp (mem_knownMetrics_eraseDups.mp hc)).1

/-- The means of a group of results. -/
theorem get?_metricMeans {name : String} (hname : name ∈ ev.knownMetrics)
    {group : List EvalResult} (hne : group ≠ []) :
    (metricMeans ev.knownMetrics.eraseDups (group.map ev.rowOf)).get? name =
      some (pyRound (sampleMean (group.map
        (fun r => pyRound (scoreUnder name (r.prediction, r.reference)) 4))) 4) := by
  have hentries : ev.knownMetrics.eraseDups.filterMap (fun m =>
        let vals := scoreColumn (group.map ev.rowOf) m
        if vals.isEmpty then none else some (m, pyRound (sampleMean vals) 4)) =
      ev.knownMetrics.eraseDups.map (fun m =>
        (m, pyRound (sampleMean (scoreColumn (group.map ev.rowOf) m)) 4)) := by
    refine (List.filterMap_congr ?_).trans (congrFun List.filterMap_eq_map' _)
    intro m hm
    have hvals : scoreColumn (group.map ev.rowOf) m ≠ [] := by
      rw [scoreColumn_map_rowOf ev (mem_knownMetrics_eraseDups.mp hm)]
      simpa using hne
    exact if_neg (by simpa using hvals)
  rw [metricMeans, hentries, OrdDict.get?_ofEntries_map,
    if_pos (mem_knownMetrics_eraseDups.mpr hname), scoreColumn_map_rowOf ev hname]

/-- The aggregate of a batch. -/
theorem computeAggregate_map_rowOf [ScoreStatistics] (hne : results ≠ [])
    {aggregate : EvaluationAggregate}
    (h : ev.computeAggregate (results.map ev.rowOf) = .ok aggregate) :
    aggregate.metrics = OrdDict.ofEntries (ev.knownMetrics.eraseDups.map (fun m =>
        (m, metricAggregate (scoreColumn (results.map ev.rowOf) m)))) ∧
      aggregate.perWorkload = some ((OrdDict.groups (·.workloadType) id
        (results.map ev.rowOf)).mapValues (metricMeans ev.knownMetrics.eraseDups)) := by
  rw [computeAggregate] at h
  split at h
  · cases h
  · rename_i htexts
    rw [metricCols_map_rowOf hne (Bool.eq_false_iff.mpr htexts)] at h
    rw [if_neg (by simpa using hne)] at h
    cases h
    exact ⟨rfl, rfl⟩

/-- The mean of the workload types of a batch. -/
theorem abs_workload_mean_sub_le (hne : results ≠ []) {name : String}
    (hname : name ∈ ev.knownMetrics) :
    let groups := (OrdDict.groups (·.workloadType) id (results.map ev.rowOf)).mapValues
      (metricMeans ev.knownMetrics.eraseDups)
    (∀ group ∈ groups.entries, (group.2.get? name).isSome) ∧
      |(groups.entries.map (fun group =>
          (results.countP (fun r => decide (r.workloadType = group.1)) : ℚ) *
            (group.2.get? name).getD 0)).sum / results.length -
        pyRound (sampleMean (results.map
          (fun r => pyRound (scoreUnder name (r.prediction, r.reference)) 4))) 4| ≤ 1 / 10 ^ 4 := by
  intro groups
  obtain ⟨types, htypes⟩ : ∃ types, types =
    sortBy id ((results.map ev.rowOf).map (·.workloadType)).dedup := ⟨_, rfl⟩
  have hentries : groups.entries = types.map (fun type =>
      (type, metricMeans ev.knownMetrics.eraseDups
        ((results.filter (fun r => decide (r.workloadType = type))).map ev.rowOf))) := by
    show ((OrdDict.groups (·.workloadType) id (results.map ev.rowOf)).entries).map _ = _
    rw [OrdDict.groups, List.map_map, htypes]
    apply List.map_congr_left
    intro type _
    rw [Function.comp_apply, List.map_id, List.filter_map]
    rfl
  have hmem : ∀ type, type ∈ types ↔ ∃ r ∈ results, r.workloadType = type := by
    intro type
    rw [htypes, mem_sortBy, List.mem_dedup, List.map_map, List.mem_map]
    rfl
  have hnodup : types.Nodup := by
    rw [htypes]
    exact (sortBy_perm id _).nodup_iff.mpr (List.nodup_dedup _)
  have hmeans : ∀ type ∈ types, (metricMeans ev.knownMetrics.eraseDups
        ((results.filter (fun r => decide (r.workloadType = type))).map ev.rowOf)).get? name =
      some (pyRound (sampleMean ((results.filter (fun r => decide (r.workloadType = type))).map
        (fun r => pyRound (scoreUnder name (r.prediction, r.reference)) 4))) 4) := by
    intro type htype
    obtain ⟨r, hr, hsame⟩ := (hmem type).mp htype
    exact get?_metricMeans hname
      (List.ne_nil_of_mem (List.mem_filter.mpr ⟨hr, decide_eq_true hsame⟩))
  have hweighted := abs_weighted_sub_le (fun r : EvalResult => r.workloadType) hnodup
    (fun r => pyRound (scoreUnder name (r.prediction, r.reference)) 4) hne
    (fun r hr => (hmem _).mpr ⟨r, hr, rfl⟩) 4
  rw [hentries]
  constructor
  · intro group hgroup
    obtain ⟨type, htype, rfl⟩ := List.mem_map.mp hgroup
    rw [hmeans type htype]
    rfl
  · rw [List.map_map]
    have hterms : types.map ((fun group : String × OrdDict String ℚ =>
          (results.countP (fun r => decide (r.workloadType = group.1)) : ℚ) *
            (group.2.get? name).getD 0) ∘ fun type => (type, metricMeans
              ev.knownMetrics.eraseDups
              ((results.filter (fun r => decide (r.workloadType = type))).map ev.rowOf))) =
        types.map (fun type =>
          (results.countP (fun r => decide (r.workloadType = type)) : ℚ) *
            pyRound (sampleMean ((results.filter (fun r => decide (r.workloadType = type))).map
              (fun r => pyRound (scoreUnder name (r.prediction, r.reference)) 4))) 4) := by
      apply List.map_congr_left
      intro type htype
      rw [Function.comp_apply, hmeans type htype, Option.getD_some]
    rw [hterms]
    exact hweighted

/-- **Batches are aggregated to what one evaluation reports.**

Whenever the frame of a batch can be aggregated, its metrics are those of an
evaluation of all results at once, in the same order.  The means of a metric
differ by a unit of the fourth place at most, and so do the mean over all results
and the mean of the workload types, each weighted by the number of its results. -/
theorem batch_evaluation_agrees [ScoreStatistics] {aggregate : EvaluationAggregate}
    (haggregate : (ev.evaluateBatch results >>= ev.computeAggregate) = .ok aggregate) :
    ∃ quality, ev.evaluate (results.map (·.prediction)) (results.map (·.reference)) =
        .ok quality ∧
      aggregate.metrics.keys = quality.keys ∧
      ∀ name score, quality.get? name = some score →
        ∃ metric groups, aggregate.metrics.get? name = some metric ∧
          aggregate.perWorkload = some groups ∧
          |metric.mean - score| ≤ 1 / 10 ^ 4 ∧
          (∀ group ∈ groups.entries, (group.2.get? name).isSome) ∧
          |(groups.entries.map (fun group =>
              (results.countP (fun r => decide (r.workloadType = group.1)) : ℚ) *
                (group.2.get? name).getD 0)).sum / results.length - metric.mean| ≤
            1 / 10 ^ 4 := by
  rw [evaluateBatch_eq] at haggregate
  have haggregate : ev.computeAggregate (results.map ev.rowOf) = .ok aggregate := haggregate
  by_cases hne : results = []
  · rw [hne] at haggregate ⊢
    cases haggregate
    exact ⟨OrdDict.empty, evaluate_nil ev, rfl, fun name score hscore => by cases hscore⟩
  · obtain ⟨hmetrics, hworkloads⟩ := computeAggregate_map_rowOf hne haggregate
    have hevaluate := @evaluate_eq _ ev (results.map (·.prediction)) (results.map (·.reference))
      (by simp) (by simpa using hne)
    refine ⟨_, hevaluate, ?_, ?_⟩
    · rw [hmetrics, OrdDict.keys_ofEntries_map, OrdDict.keys_ofEntries_map,
        OrdDict.eraseDups_of_nodup (OrdDict.nodup_eraseDups _)]
    · intro name score hscore
      rw [OrdDict.get?_ofEntries_map] at hscore
      by_cases hname : name ∈ ev.knownMetrics
      · rw [if_pos hname, List.zip_map', List.map_map] at hscore
        cases hscore
        obtain ⟨hall, hweighted⟩ := abs_workload_mean_sub_le hne hname
        refine ⟨metricAggregate (scoreColumn (results.map ev.rowOf) name), _, ?_, hworkloads, ?_,
          hall, ?_⟩
        · rw [hmetrics, OrdDict.get?_ofEntries_map,
            if_pos (mem_knownMetrics_eraseDups.mpr hname)]
        · rw [metricAggregate, scoreColumn_map_rowOf ev hname]
          exact abs_pyRound_mean_sub_le hne
            (fun r : EvalResult => scoreUnder name (r.prediction, r.reference)) 4
        · rw [metricAggregate, scoreColumn_map_rowOf ev hname]
          exact hweighted
      · rw [if_neg hname] at hscore
        cases hscore

end Aggregate

/-! ## Two workload types -/

/-- Right answers to two questions and a summary. -/
def threeResults : List EvalResult :=
  [ { prediction := "cat", reference := "cat", workloadType := "single_doc_qa" },
    { prediction := "dog", reference := "dog", workloadType := "summarization" },
    { prediction := "sun", reference := "sun", workloadType := "single_doc_qa" } ]

theorem batch_evaluation_agrees_three :
    ∃ aggregate quality,
      (@evaluateBatch asciiTables {} threeResults >>=
        @computeAggregate constantStatistics {}) = .ok aggregate ∧
      @evaluate asciiTables {} ["cat", "dog", "sun"] ["cat", "dog", "sun"] = .ok quality ∧
      aggregate.metrics.keys = quality.keys := by
  obtain ⟨aggregate, haggregate⟩ : ∃ aggregate,
      (@evaluateBatch asciiTables {} threeResults >>=
        @computeAggregate constantStatistics {}) = .ok aggregate := ⟨_, rfl⟩
  obtain ⟨quality, hquality, hkeys, _⟩ :=
    @batch_evaluation_agrees asciiTables {} threeResults constantStatistics aggregate haggregate
  exact ⟨aggregate, quality, haggregate, hquality, hkeys⟩

end QualityEvaluator

end KVOrchestrator.Ports
