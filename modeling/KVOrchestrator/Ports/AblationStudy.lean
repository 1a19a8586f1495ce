import KVOrchestrator.Ports.AnswerMetrics
import KVOrchestrator.Ports.PolicyComparison

/-!
# Ablation studies (`src/benchmarks/harness.py`)

`run_ablation` runs the base policy and each ablation on one list of tasks, and
compares the scores of their tasks, without the negative ones.  A score is
negative only where a task has no samples (`qualityScore_nonneg_iff`), and which
samples a task has does not depend on the policy.  So the columns compared are
the scores of the same tasks in the same order (`ablation_pairs_tasks`), although
nothing in them says which task a score is of.
-/

namespace KVOrchestrator.Ports

open KVOrchestrator.Verified

/-! ## The study -/

structure AblationResults where
  basePolicy : String
  ablations : List String
  results : OrdDict String ResultFiles.BenchmarkResult
  comparisonTable : List ComparisonRow

/-- The arguments of a `run_ablation` call, the dataset and its limits, and what
the calls of each task of each run do. -/
structure AblationCall where
  basePolicy : String
  ablations : List String
  tasks : List String := []
  memoryBudget : ℚ := 3 / 4
  dataset : String → Except PyError (List RawSample)
  maxSamples : Int := 200
  maxInputTokens : Int := 31500
  ops : Nat → Nat → List (PoolStep CallReply)
  clock : Nat → Nat → ℚ := fun _ _ => 0

namespace AblationCall

/-- `[base_policy] + ablations` -/
def policies (call : AblationCall) : List String := call.basePolicy :: call.ablations

/-- The runs are those of a sweep over one budget and one level. -/
def sweep (call : AblationCall) : Sweep where
  experimentName := call.basePolicy
  policies := call.policies
  memoryBudgets := [call.memoryBudget]
  tasks := call.tasks
  concurrencyLevels := some [4]
  dataset := call.dataset
  maxSamples := call.maxSamples
  maxInputTokens := call.maxInputTokens
  ops := call.ops
  clock := call.clock

/-- The scores of a run that enter the comparison. -/
def scores (br : ResultFiles.BenchmarkResult) : List ℚ :=
  (br.taskResults.filter (fun t => decide (t.qualityScore ≥ 0))).map (·.qualityScore)

variable [UnicodeTables]

/-- The runs of the policies from run `k` on. -/
def runPolicies (call : AblationCall) :
    List String → Nat → OrdDict String ResultFiles.BenchmarkResult →
      Ending (OrdDict String ResultFiles.BenchmarkResult)
  | [], _, results => some (.ok results)
  | policy :: rest, k, results =>
      match call.sweep.benchmarkRun k policy call.memoryBudget 4 with
      | none => none
      | some (.error e) => some (.error e)
      | some (.ok br) => runPolicies call rest (k + 1) (results.set policy br)

/-- Run base policy and each ablation; compare statistically. -/
def runAblation [ScoreStatistics] (call : AblationCall) : Ending AblationResults :=
  (call.runPolicies call.policies 0 OrdDict.empty).map (fun ending => ending.map (fun results =>
    { basePolicy := call.basePolicy
      ablations := call.ablations
      results := results
      comparisonTable := formatComparisonTable
        (results.mapValues (fun br => qualityScores (scores br))) call.basePolicy }))

end AblationCall

/-! ## Scores -/

section Scores

variable [UnicodeTables]

theorem metric?_nonneg {name : String} {metric : String → String → ℚ}
    (h : QualityEvaluator.metric? name = some metric) (p r : String) : 0 ≤ metric p r := by
  have htoken : 0 ≤ tokenF1 p r := (rougeL_nonneg p r).trans (rougeL_le_tokenF1 p r)
  have hexact : 0 ≤ exactMatch p r := by
    rw [exactMatch]
    split <;> norm_num
  unfold QualityEvaluator.metric? at h
  split at h
  · rw [← Option.some.inj h]
    exact htoken
  · rw [← Option.some.inj h]
    exact hexact
  · rw [← Option.some.inj h]
    exact rougeL_nonneg p r
  · rw [← Option.some.inj h]
    exact editSimilarity_nonneg p r
  · exact absurd h (by simp)

omit [UnicodeTables] in
theorem bestScore_nonneg {metric : String → String → ℚ} (h : ∀ p r, 0 ≤ metric p r)
    (pred ref : String) : 0 ≤ QualityEvaluator.bestScore metric pred ref := by
  have hne : (references ref).map (metric pred) ≠ [] := by simpa using references_ne_nil ref
  have hmem := maxD_mem hne 0
  obtain ⟨answer, _, hanswer⟩ := List.mem_map.mp hmem
  rw [QualityEvaluator.bestScore, ← hanswer]
  exact h pred answer

/-- No score of a dictionary is negative. -/
def ScoresNonneg (d : OrdDict String ℚ) : Prop :=
  ∀ name value, d.get? name = some value → 0 ≤ value

theorem ScoresNonneg.addMean {d : OrdDict String ℚ} (h : ScoresNonneg d)
    (predictions refs : List String) (name : String) :
    ScoresNonneg (QualityEvaluator.addMean predictions refs d name) := by
  unfold QualityEvaluator.addMean
  cases hmetric : QualityEvaluator.metric? name with
  | none => exact h
  | some metric =>
      dsimp only
      split
      · exact h
      · intro name' value hget
        by_cases hname : name' = name
        · rw [hname, OrdDict.get?_set_self] at hget
          cases hget
          apply pyRound_nonneg
          apply div_nonneg _ (Nat.cast_nonneg _)
          apply List.sum_nonneg
          intro score hscore
          obtain ⟨p, _, rfl⟩ := List.mem_map.mp hscore
          exact bestScore_nonneg (metric?_nonneg hmetric) p.1 p.2
        · rw [OrdDict.get?_set_of_ne _ hname] at hget
          exact h name' value hget

theorem ScoresNonneg.foldl_addMean (predictions refs metrics : List String)
    {d : OrdDict String ℚ} (h : ScoresNonneg d) :
    ScoresNonneg (metrics.foldl (QualityEvaluator.addMean predictions refs) d) := by
  induction metrics generalizing d with
  | nil => exact h
  | cons name metrics ih => exact ih (h.addMean predictions refs name)

/-- A task that was evaluated has a score. -/
theorem qualityScore_of_evaluateRun {runner : LongBenchClient} {taskName : String}
    {samples : List Sample} {now : ℚ} {run : TaskRun} {t : ResultFiles.TaskResult}
    (h : runner.evaluateRun taskName samples now run = .ok t) :
    0 ≤ t.qualityScore ∧ t.taskName = taskName := by
  rw [LongBenchClient.evaluateRun, QualityEvaluator.evaluate] at h
  by_cases hlength : run.predictions.length ≠ (samples.map (·.reference)).length
  · rw [if_pos hlength] at h
    cases h
  · rw [if_neg hlength] at h
    cases h
    refine ⟨?_, rfl⟩
    dsimp only
    cases hget : (runner.evaluator.metrics.foldl (QualityEvaluator.addMean run.predictions
      (samples.map (·.reference))) OrdDict.empty).get? (primaryMetricOf taskName) with
    | none => exact le_refl _
    | some value =>
        have hempty : ScoresNonneg OrdDict.empty := fun name value hnone => by cases hnone
        exact hempty.foldl_addMean _ _ _ _ _ hget

/-- **A task has a negative score exactly when it has no samples.** -/
theorem qualityScore_nonneg_iff {runner : LongBenchClient}
    {dataset : String → Except PyError (List RawSample)} {taskName : String}
    {maxSamples : Option Int} {concurrency : Int} {ops : List (PoolStep CallReply)} {now : ℚ}
    {t : ResultFiles.TaskResult}
    (h : runner.runTaskAsync dataset taskName maxSamples concurrency ops now = some (.ok t)) :
    t.taskName = taskName ∧
      (0 ≤ t.qualityScore ↔ runner.loadTask dataset taskName maxSamples ≠ []) := by
  cases LongBenchClient.runTaskAsync_ok h with
  | inl hempty =>
      rw [hempty.1, hempty.2]
      exact ⟨rfl, iff_of_false (by norm_num [LongBenchClient.emptyResult]) (fun hne => hne rfl)⟩
  | inr hevaluated =>
      obtain ⟨hsamples, run, hr⟩ := hevaluated
      obtain ⟨hnonneg, hname⟩ := qualityScore_of_evaluateRun hr
      exact ⟨hname, iff_of_true hnonneg hsamples⟩

end Scores

/-! ## What is compared -/

namespace AblationCall

section Study

variable [UnicodeTables] {call : AblationCall}

/-- The result kept for a policy is the one of its last run. -/
theorem get?_runPolicies {policies : List String} {k : Nat}
    {results final : OrdDict String ResultFiles.BenchmarkResult}
    (h : call.runPolicies policies k results = some (.ok final)) (q : String) :
    (q ∈ policies → ∃ j br, final.get? q = some br ∧
        call.sweep.benchmarkRun j q call.memoryBudget 4 = some (.ok br)) ∧
      (q ∉ policies → final.get? q = results.get? q) := by
  induction policies generalizing k results with
  | nil =>
      cases h
      exact ⟨fun hq => absurd hq List.not_mem_nil, fun _ => rfl⟩
  | cons policy rest ih =>
      rw [runPolicies] at h
      cases hend : call.sweep.benchmarkRun k policy call.memoryBudget 4 with
      | none =>
          rw [hend] at h
          cases h
      | some ending =>
          cases ending with
          | error e =>
              rw [hend] at h
              cases h
          | ok br =>
              rw [hend] at h
              obtain ⟨hlater, hkept⟩ := ih h
              by_cases hrest : q ∈ rest
              · exact ⟨fun _ => hlater hrest, fun hq => absurd (List.mem_cons_of_mem _ hrest) hq⟩
              · constructor
                · intro hq
                  have hpolicy : q = policy := by simpa [hrest] using hq
                  refine ⟨k, br, ?_, by rw [hpolicy, hend]⟩
                  rw [hkept hrest, hpolicy, OrdDict.get?_set_self]
                · intro hq
                  have hpolicy : q ≠ policy := fun heq => hq (heq ▸ List.mem_cons_self)
                  rw [hkept hrest, OrdDict.get?_set_of_ne _ hpolicy]

/-- The tasks with samples, in their order. -/
def scoredTasks (call : AblationCall) : List String :=
  call.sweep.taskNames.filter (fun taskName => !(call.sweep.samples taskName).isEmpty)

/-- The results with a score are those of the tasks with samples. -/
theorem map_taskName_scored {k : Nat} {policy : String} {br : ResultFiles.BenchmarkResult}
    (h : call.sweep.benchmarkRun k policy call.memoryBudget 4 = some (.ok br)) :
    (br.taskResults.filter (fun t => decide (t.qualityScore ≥ 0))).map (·.taskName) =
      call.scoredTasks := by
  have hall := Sweep.forall_runTasks (Sweep.runTasks_of_benchmarkRun h).1
  have hnames : call.scoredTasks = (call.sweep.taskNames.zipIdx.filter
      (fun e => !(call.sweep.samples e.1).isEmpty)).map Prod.fst := by
    rw [scoredTasks]
    conv_lhs => rw [← List.zipIdx_map_fst 0 call.sweep.taskNames, List.filter_map]
    rfl
  rw [hnames]
  generalize br.taskResults = ts at hall
  generalize call.sweep.taskNames.zipIdx = names at hall
  induction hall with
  | nil => rfl
  | @cons e t _ _ hrun _ ih =>
      obtain ⟨hname, hscored⟩ := qualityScore_nonneg_iff hrun
      by_cases hempty : call.sweep.samples e.1 = []
      · have hneg : ¬0 ≤ t.qualityScore := fun hnonneg => hscored.mp hnonneg hempty
        rw [List.filter_cons_of_neg (by simpa using hneg),
          List.filter_cons_of_neg (by simp [hempty])]
        exact ih
      · have hnonneg : 0 ≤ t.qualityScore := hscored.mpr hempty
        rw [List.filter_cons_of_pos (by simpa using hnonneg),
          List.filter_cons_of_pos (by simpa using hempty), List.map_cons, List.map_cons, hname, ih]

/-- A study that ends has run its policies. -/
theorem runPolicies_of_runAblation [ScoreStatistics] {r : AblationResults}
    (hrun : call.runAblation = some (.ok r)) :
    call.runPolicies call.policies 0 OrdDict.empty = some (.ok r.results) ∧
      r.comparisonTable = formatComparisonTable
        (r.results.mapValues (fun br => qualityScores (scores br))) call.basePolicy := by
  rw [runAblation] at hrun
  cases hend : call.runPolicies call.policies 0 OrdDict.empty with
  | none =>
      rw [hend] at hrun
      cases hrun
  | some ending =>
      rw [hend] at hrun
      cases ending with
      | error e => cases hrun
      | ok results =>
          cases hrun
          exact ⟨rfl, rfl⟩

theorem length_scores {k : Nat} {policy : String} {br : ResultFiles.BenchmarkResult}
    (h : call.sweep.benchmarkRun k policy call.memoryBudget 4 = some (.ok br)) :
    (scores br).length = call.scoredTasks.length := by
  rw [← map_taskName_scored h, scores, List.length_map, List.length_map]

/-- **An ablation is compared with the base policy task by task.**

In the table of a study, each ablation has one row.  The scores compared are
those of the results of the two policies that have one, all of them, and both
lists of results are of the tasks with samples, in the same order. -/
theorem ablation_pairs_tasks [ScoreStatistics] {r : AblationResults} {q : String}
    (hrun : call.runAblation = some (.ok r)) (hq : q ∈ call.ablations)
    (hne : q ≠ call.basePolicy) :
    ∃ br base, r.results.get? q = some br ∧ r.results.get? call.basePolicy = some base ∧
      let tested := br.taskResults.filter (fun t => decide (t.qualityScore ≥ 0))
      let reference := base.taskResults.filter (fun t => decide (t.qualityScore ≥ 0))
      tested.map (·.taskName) = call.scoredTasks ∧
        reference.map (·.taskName) = call.scoredTasks ∧
        ∃ row, (∀ row', row' ∈ r.comparisonTable ∧ row'.policyName = q ↔ row' = row) ∧
          row.n = call.scoredTasks.length ∧
          (call.scoredTasks ≠ [] → ∃ comparison, row.vsBaseline = some comparison ∧
            let test := pairedTtest (tested.map (·.qualityScore))
              (reference.map (·.qualityScore))
            comparison.pValue = test.pValue ∧ comparison.effectSizeD = test.effectSizeD ∧
              comparison.significant = test.significantAt05) := by
  obtain ⟨hend, htable⟩ := runPolicies_of_runAblation hrun
  obtain ⟨_, br, hget, hbr⟩ := (get?_runPolicies hend q).1 (List.mem_cons_of_mem _ hq)
  obtain ⟨_, base, hgetBase, hbase⟩ :=
    (get?_runPolicies hend call.basePolicy).1 List.mem_cons_self
  refine ⟨br, base, hget, hgetBase, map_taskName_scored hbr, map_taskName_scored hbase,
    comparisonRow call.basePolicy q "quality_score" (scores br) (scores base), ?_,
    length_scores hbr, ?_⟩
  · rw [htable]
    apply mem_formatComparisonTable_iff
    · rw [OrdDict.get?_mapValues, hget]
      rfl
    · rw [OrdDict.get?_mapValues, hgetBase]
      rfl
  · intro hscored
    have hnonempty : scores base ≠ [] := by
      rw [← List.length_pos_iff, length_scores hbase]
      exact List.length_pos_iff.mpr hscored
    exact ⟨compareScores (scores br) (scores base), if_pos ⟨hnonempty, hne⟩,
      compareScores_of_length_eq ((length_scores hbr).trans (length_scores hbase).symm)⟩

end Study

/-! ## A study with an empty task -/

/-- One ablation on two tasks, of which the first has no samples. -/
def emptyTaskCall : AblationCall where
  basePolicy := "hybrid"
  ablations := ["recency"]
  tasks := ["qasper", "trec"]
  dataset name := if name = "qasper" then .ok [] else .error (.other "offline")
  maxSamples := 1
  ops _ _ := [.enter 0, .leave 0 (.reply (some "location") 10)]

theorem ablation_pairs_tasks_empty :
    ∃ r, @runAblation asciiTables constantStatistics emptyTaskCall = some (.ok r) ∧
      ∃ row ∈ r.comparisonTable, row.policyName = "recency" ∧
        row.n = (scoredTasks emptyTaskCall).length := by
  obtain ⟨r, hr⟩ : ∃ r,
      @runAblation asciiTables constantStatistics emptyTaskCall = some (.ok r) := ⟨_, rfl⟩
  obtain ⟨_, _, _, _, _, _, row, hrow, hn, _⟩ :=
    @ablation_pairs_tasks asciiTables emptyTaskCall constantStatistics r "recency" hr
      (List.mem_singleton_self _) (by decide)
  exact ⟨r, hr, row, ((hrow row).mpr rfl).1, ((hrow row).mpr rfl).2, hn⟩

end AblationCall

end KVOrchestrator.Ports
