import KVOrchestrator.Ports.ServedSweep
import KVOrchestrator.Verified.GridRuns

/-!
# Paired comparisons (`src/benchmarks/harness.py`, `src/evaluators/pareto.py`)

`format_comparison_table` pairs the scores of a policy with those of the baseline
by their position, and cuts the longer list.  What a position stands for is up to
the caller.  In `compare_policies` it is a run, and the loops of `run_experiment`
visit the budgets and concurrency levels in the same order for every policy, so a
pair is two runs of one budget and one level, also where a policy is listed more
than once (`comparison_pairs_cells`).

The test statistics are left to `scipy`, and the resampling and the deviations to
`numpy`.
-/

namespace KVOrchestrator.Ports

open KVOrchestrator.Verified

/-! ## The table -/

/-- The numbers taken of lists of scores; `none` is not a number. -/
class ScoreStatistics where
  /-- `scipy_stats.ttest_rel(a, b)` -/
  ttestRel : List ℚ → List ℚ → Option ℚ × Option ℚ
  effectSizeCohensD : List ℚ → List ℚ → Option ℚ
  bootstrapCi : List ℚ → Option ℚ × Option ℚ
  /-- `np.std(scores)` -/
  std : List ℚ → Option ℚ

/-- `float(np.mean(scores))` -/
def meanOf (scores : List ℚ) : Option ℚ :=
  if scores.isEmpty then none else some (scores.sum / scores.length)

structure TestResult where
  tStatistic : Option ℚ
  pValue : Option ℚ
  effectSizeD : Option ℚ
  significantAt05 : Bool
  n : Nat

/-- The columns of a policy compared with the baseline. -/
structure Comparison where
  vsBaselineDelta : Option ℚ
  pValue : Option ℚ
  effectSizeD : Option ℚ
  significant : Bool
  ci95Lo : Option ℚ
  ci95Hi : Option ℚ

structure ComparisonRow where
  policyName : String
  metric : String
  mean : Option ℚ
  std : Option ℚ
  n : Nat
  vsBaseline : Option Comparison

section Table

variable [ScoreStatistics]

/-- Two-sided paired t-test. -/
def pairedTtest (scoresA scoresB : List ℚ) : TestResult :=
  let (tStat, pVal) := ScoreStatistics.ttestRel scoresA scoresB
  let d := ScoreStatistics.effectSizeCohensD scoresA scoresB
  { tStatistic := tStat.map (pyRound · 4)
    pValue := pVal.map (pyRound · 6)
    effectSizeD := d.map (pyRound · 4)
    significantAt05 := pVal.any (fun p => decide (p < 5 / 100))
    n := scoresA.length }

/-- The comparison of some scores with those of the baseline. -/
def compareScores (scores base : List ℚ) : Comparison :=
  let mean := (meanOf scores).map (pyRound · 4)
  let minLen := min scores.length base.length
  let test := pairedTtest (scores.take minLen) (base.take minLen)
  let (lo, hi) := ScoreStatistics.bootstrapCi scores
  { vsBaselineDelta := do
      let m ← mean
      let b ← meanOf base
      return pyRound (m - b) 4
    pValue := test.pValue
    effectSizeD := test.effectSizeD
    significant := test.significantAt05
    ci95Lo := lo.map (pyRound · 4)
    ci95Hi := hi.map (pyRound · 4) }

/-- Lists of one length are tested whole. -/
theorem compareScores_of_length_eq {scores base : List ℚ} (h : scores.length = base.length) :
    (compareScores scores base).pValue = (pairedTtest scores base).pValue ∧
      (compareScores scores base).effectSizeD = (pairedTtest scores base).effectSizeD ∧
      (compareScores scores base).significant = (pairedTtest scores base).significantAt05 := by
  have htest : pairedTtest (scores.take (min scores.length base.length))
      (base.take (min scores.length base.length)) = pairedTtest scores base := by
    rw [h, min_self, List.take_length, ← h, List.take_length]
  rw [← htest]
  exact ⟨rfl, rfl, rfl⟩

/-- The row of one policy and one metric. -/
def comparisonRow (baseline policy metric : String) (scores base : List ℚ) : ComparisonRow where
  policyName := policy
  metric := metric
  mean := (meanOf scores).map (pyRound · 4)
  std := (ScoreStatistics.std scores).map (pyRound · 4)
  n := scores.length
  vsBaseline :=
    if base ≠ [] ∧ policy ≠ baseline then some (compareScores scores base) else none

/-- Build a comparison table: policy × metric with significance flags. -/
def formatComparisonTable (results : OrdDict String (OrdDict String (List ℚ)))
    (baseline : String := "full_cache") : List ComparisonRow :=
  let baseScores := (results.get? baseline).getD OrdDict.empty
  results.entries.flatMap (fun p =>
    p.2.entries.map (fun m =>
      comparisonRow baseline p.1 m.1 m.2 ((baseScores.get? m.1).getD [])))

end Table

/-- `{"quality_score": scores}` -/
def qualityScores (scores : List ℚ) : OrdDict String (List ℚ) :=
  OrdDict.empty.set "quality_score" scores

theorem entries_qualityScores (scores : List ℚ) :
    (qualityScores scores).entries = [("quality_score", scores)] := rfl

theorem modify_qualityScores (scores : List ℚ) (f : List ℚ → List ℚ) :
    (qualityScores scores).modify "quality_score" f = qualityScores (f scores) := rfl

/-- A policy with quality scores has one row, against those of the baseline. -/
theorem mem_formatComparisonTable_iff [ScoreStatistics]
    {results : OrdDict String (OrdDict String (List ℚ))} {baseline policy : String}
    {scores base : List ℚ} (hpolicy : results.get? policy = some (qualityScores scores))
    (hbase : results.get? baseline = some (qualityScores base)) (row : ComparisonRow) :
    row ∈ formatComparisonTable results baseline ∧ row.policyName = policy ↔
      row = comparisonRow baseline policy "quality_score" scores base := by
  have hentry := (results.get?_eq_some_iff _ _).mp hpolicy
  rw [formatComparisonTable, hbase]
  constructor
  · intro h
    obtain ⟨p, hp, hrow⟩ := List.mem_flatMap.mp h.1
    obtain ⟨m, hm, hm'⟩ := List.mem_map.mp hrow
    have hname : p.1 = policy := by
      rw [← h.2, ← hm']
      rfl
    have hmetrics : p.2 = qualityScores scores := by
      have hget := (results.get?_eq_some_iff _ _).mpr hp
      rw [hname, hpolicy] at hget
      exact (Option.some.inj hget).symm
    rw [hmetrics, entries_qualityScores, List.mem_singleton] at hm
    rw [← hm', hm, hname]
    rfl
  · intro h
    rw [h]
    refine ⟨List.mem_flatMap.mpr ⟨(policy, qualityScores scores), hentry, ?_⟩, rfl⟩
    exact List.mem_singleton_self _

/-! ## Comparing the policies of an experiment -/

/-- Append a score to those of its policy. -/
def addScore (d : OrdDict String (OrdDict String (List ℚ))) (policy : String) (score : ℚ) :
    OrdDict String (OrdDict String (List ℚ)) :=
  let d := if policy ∈ d.keys then d else d.set policy (qualityScores [])
  d.modify policy (fun metrics => metrics.modify "quality_score" (· ++ [score]))

/-- Paired statistical comparison of all policies with the first one. -/
def ExperimentResults.comparePolicies [ScoreStatistics] (results : ExperimentResults) :
    List ComparisonRow :=
  if results.benchmarkResults.isEmpty then []
  else
    let scoreDict := results.benchmarkResults.foldl
      (fun d br => addScore d br.policyName br.aggregateQuality) OrdDict.empty
    let baseline :=
      match results.policies with
      | policy :: _ => policy
      | [] => scoreDict.keys.headD ""
    formatComparisonTable scoreDict baseline

/-- The aggregate qualities of the runs of a policy. -/
def scoresOf (brs : List BenchmarkResult) (policy : String) : List ℚ :=
  (brs.filter (fun br => decide (br.policyName = policy))).map (·.aggregateQuality)

theorem get?_addScore (d : OrdDict String (OrdDict String (List ℚ))) (policy : String)
    (score : ℚ) (q : String) :
    (addScore d policy score).get? q =
      if q = policy then
        some (((d.get? policy).getD (qualityScores [])).modify "quality_score" (· ++ [score]))
      else d.get? q := by
  unfold addScore
  dsimp only
  by_cases hkey : policy ∈ d.keys
  · rw [if_pos hkey]
    obtain ⟨metrics, hmetrics⟩ : ∃ metrics, d.get? policy = some metrics := by
      cases hget : d.get? policy with
      | none => exact absurd hkey ((d.get?_eq_none_iff policy).mp hget)
      | some metrics => exact ⟨metrics, rfl⟩
    by_cases hq : q = policy
    · rw [if_pos hq, hq, OrdDict.get?_modify_self, hmetrics]
      rfl
    · rw [if_neg hq, OrdDict.get?_modify_of_ne _ hq]
  · rw [if_neg hkey, (d.get?_eq_none_iff policy).mpr hkey]
    by_cases hq : q = policy
    · rw [if_pos hq, hq, OrdDict.get?_modify_self, OrdDict.get?_set_self]
      rfl
    · rw [if_neg hq, OrdDict.get?_modify_of_ne _ hq, OrdDict.get?_set_of_ne _ hq]

/-- The score dictionary holds the scores of each policy that ran. -/
theorem get?_scoreDict (brs : List BenchmarkResult) (q : String) :
    (brs.foldl (fun d br => addScore d br.policyName br.aggregateQuality)
        OrdDict.empty).get? q =
      if q ∈ brs.map (·.policyName) then some (qualityScores (scoresOf brs q)) else none := by
  induction brs using List.reverseRecOn with
  | nil => rfl
  | append_singleton brs br ih =>
      rw [List.foldl_append, List.foldl_cons, List.foldl_nil, get?_addScore]
      have hscores : scoresOf (brs ++ [br]) q =
          scoresOf brs q ++ if br.policyName = q then [br.aggregateQuality] else [] := by
        rw [scoresOf, List.filter_append, List.map_append]
        by_cases hq : br.policyName = q
        · simp [scoresOf, hq]
        · simp [scoresOf, hq]
      by_cases hq : q = br.policyName
      · have hlisted : q ∈ (brs ++ [br]).map (·.policyName) :=
          List.mem_map.mpr ⟨br, List.mem_append_right _ (List.mem_singleton_self _), hq.symm⟩
        rw [if_pos hq, ← hq, ih, hscores, if_pos hq.symm, if_pos hlisted]
        by_cases hmem : q ∈ brs.map (·.policyName)
        · rw [if_pos hmem]
          exact congrArg some (modify_qualityScores _ _)
        · have hnone : scoresOf brs q = [] := by
            rw [scoresOf, List.map_eq_nil_iff, List.filter_eq_nil_iff]
            intro b hb hpolicy
            exact hmem (List.mem_map.mpr ⟨b, hb, of_decide_eq_true hpolicy⟩)
          rw [if_neg hmem, hnone]
          exact congrArg some (modify_qualityScores _ _)
      · rw [if_neg hq, ih, hscores, if_neg (Ne.symm hq), List.append_nil]
        simp [hq]

/-! ## The runs of an experiment -/

section Cells

variable (h : BenchmarkHarness) (c : ExperimentCall)

/-- The budget and the concurrency level of each run of a policy. -/
def cellGrid : List (ℚ × Int) :=
  c.memoryBudgets.flatMap (fun budget => (levelsOf h c).map (fun level => (budget, level)))

/-- The loops run each cell of the grid for each policy. -/
theorem map_gridRuns_cellGrid :
    (gridRuns c.policies (cellGrid h c)).map (fun run => (run.1, run.2.1)) = runPlan h c := by
  rw [gridRuns, runPlan, List.map_flatMap]
  congr 1
  funext policy
  rw [cellGrid, List.map_flatMap, List.map_flatMap]
  congr 1
  funext budget
  rw [List.map_map, List.map_map]
  rfl

/-- The runs of an experiment, with the policy and the cell of each. -/
def experimentRuns (r : ExperimentResults) : List ((String × ℚ × Int) × BenchmarkResult) :=
  (gridRuns c.policies (cellGrid h c)).zip r.benchmarkResults

variable {h c}

/-- Each run leaves a result of its policy and its budget. -/
theorem runLoop_ok {outcome : Nat → RunOutcome} {plan : List (String × ℚ)} {k : Nat}
    {pa : ParetoAnalyzer} {results brs : List BenchmarkResult}
    (hloop : (runLoop outcome plan k pa results).1 = .ok brs) :
    ∃ added, brs = results ++ added ∧
      added.map (fun br => (br.policyName, br.memoryBudget)) = plan := by
  induction plan generalizing k pa results with
  | nil =>
      cases hloop
      exact ⟨[], (List.append_nil _).symm, rfl⟩
  | cons run rest ih =>
      obtain ⟨policy, budget⟩ := run
      rw [runLoop] at hloop
      cases houtcome : outcome k with
      | error e =>
          rw [houtcome] at hloop
          cases hloop
      | ok taskResults =>
          rw [houtcome] at hloop
          obtain ⟨added, hbrs, hplan⟩ := ih hloop
          refine ⟨benchmarkResult policy budget taskResults :: added, ?_, ?_⟩
          · rw [hbrs, List.append_assoc, List.singleton_append]
          · rw [List.map_cons, hplan]
            rfl

variable [FrameSort] {r : ExperimentResults} (hrun : (h.runExperiment c).1 = .ok r)

include hrun

theorem results_of_runExperiment :
    r.policies = c.policies ∧
      r.benchmarkResults.map (fun br => (br.policyName, br.memoryBudget)) = runPlan h c := by
  rw [BenchmarkHarness.runExperiment] at hrun
  cases hloop : runLoop c.outcome (runPlan h c) 0 h.pareto [] with
  | mk ending pa =>
      rw [hloop] at hrun
      cases ending with
      | error e => cases hrun
      | ok results =>
          dsimp only at hrun
          cases hreport : pa.generateReport with
          | error e =>
              rw [hreport] at hrun
              cases hrun
          | ok report =>
              rw [hreport] at hrun
              cases hrun
              obtain ⟨added, hresults, hplan⟩ :=
                runLoop_ok (congrArg Prod.fst hloop : _ = Except.ok results)
              rw [List.nil_append] at hresults
              exact ⟨rfl, hresults ▸ hplan⟩

theorem length_gridRuns_cellGrid :
    (gridRuns c.policies (cellGrid h c)).length = r.benchmarkResults.length := by
  have hplan := (results_of_runExperiment hrun).2
  rw [← map_gridRuns_cellGrid] at hplan
  simpa using (congrArg List.length hplan).symm

theorem map_fst_experimentRuns :
    (experimentRuns h c r).map Prod.fst = gridRuns c.policies (cellGrid h c) := by
  rw [experimentRuns, List.map_fst_zip (length_gridRuns_cellGrid hrun).le]

theorem map_snd_experimentRuns :
    (experimentRuns h c r).map Prod.snd = r.benchmarkResults := by
  rw [experimentRuns, List.map_snd_zip (length_gridRuns_cellGrid hrun).ge]

/-- A run is listed under its own policy and budget. -/
theorem eq_of_mem_experimentRuns {run : (String × ℚ × Int) × BenchmarkResult}
    (hmem : run ∈ experimentRuns h c r) :
    run.2.policyName = run.1.1 ∧ run.2.memoryBudget = run.1.2.1 := by
  have hlists : (experimentRuns h c r).map
        ((fun br => (br.policyName, br.memoryBudget)) ∘ Prod.snd) =
      (experimentRuns h c r).map ((fun e => (e.1, e.2.1)) ∘ Prod.fst) := by
    rw [← List.map_map, ← List.map_map, map_snd_experimentRuns hrun,
      map_fst_experimentRuns hrun, map_gridRuns_cellGrid, (results_of_runExperiment hrun).2]
  exact Prod.ext_iff.mp (List.map_inj_left.mp hlists run hmem)

/-- The scores of a policy are those of its runs, in their order. -/
theorem scoresOf_benchmarkResults (q : String) :
    scoresOf r.benchmarkResults q =
      (runsOf (experimentRuns h c r) q).map (fun run => run.2.aggregateQuality) := by
  rw [scoresOf, ← map_snd_experimentRuns hrun, List.filter_map, List.map_map, runsOf]
  congr 1
  apply List.filter_congr
  intro run hmem
  rw [Function.comp_apply, (eq_of_mem_experimentRuns hrun hmem).1]

theorem length_scoresOf (q : String) :
    (scoresOf r.benchmarkResults q).length = c.policies.count q * (cellGrid h c).length := by
  rw [scoresOf_benchmarkResults hrun, List.length_map,
    length_runsOf (map_fst_experimentRuns hrun)]

/-- A policy of the call has one row, against the first policy. -/
theorem mem_comparePolicies_iff [ScoreStatistics] {base q : String}
    {others : List String} (hpolicies : c.policies = base :: others) (hq : q ∈ c.policies)
    (hcells : cellGrid h c ≠ []) (row : ComparisonRow) :
    row ∈ r.comparePolicies ∧ row.policyName = q ↔
      row = comparisonRow base q "quality_score" (scoresOf r.benchmarkResults q)
        (scoresOf r.benchmarkResults base) := by
  have hran : ∀ p ∈ c.policies, p ∈ r.benchmarkResults.map (·.policyName) := by
    intro p hp
    have hpos : 0 < (scoresOf r.benchmarkResults p).length := by
      rw [length_scoresOf hrun]
      exact Nat.mul_pos (List.count_pos_iff.mpr hp) (List.length_pos_iff.mpr hcells)
    rw [scoresOf, List.length_map] at hpos
    obtain ⟨br, hbr⟩ := List.exists_mem_of_length_pos hpos
    obtain ⟨hmem, hname⟩ := List.mem_filter.mp hbr
    exact List.mem_map.mpr ⟨br, hmem, of_decide_eq_true hname⟩
  have hbase : base ∈ c.policies := by
    rw [hpolicies]
    exact List.mem_cons_self
  have hresults : r.benchmarkResults.isEmpty = false := by
    obtain ⟨br, hbr, _⟩ := List.mem_map.mp (hran base hbase)
    simpa using List.ne_nil_of_mem hbr
  rw [ExperimentResults.comparePolicies, hresults, (results_of_runExperiment hrun).1, hpolicies]
  apply mem_formatComparisonTable_iff
  · rw [get?_scoreDict, if_pos (hran q hq)]
  · rw [get?_scoreDict, if_pos (hran base hbase)]

/-- **The comparison of two policies pairs runs of one cell.**

In the table of an experiment, the test of a policy against the first policy is
made on pairs of one run of each, both with the same budget and the same
concurrency level.  No run of the policy listed less often is left out. -/
theorem comparison_pairs_cells [ScoreStatistics] {base q : String} {others : List String}
    (hpolicies : c.policies = base :: others) (hq : q ∈ others) (hne : q ≠ base)
    (hcells : cellGrid h c ≠ []) :
    let pairs := pairedRuns (experimentRuns h c r) q base
    (∀ pair ∈ pairs, pair.1.1.1 = q ∧ pair.2.1.1 = base ∧ pair.1.1.2 = pair.2.1.2) ∧
      pairs.length =
        min (c.policies.count q) (c.policies.count base) * (cellGrid h c).length ∧
      ∃ row comparison,
        (∀ row', row' ∈ r.comparePolicies ∧ row'.policyName = q ↔ row' = row) ∧
        row.n = c.policies.count q * (cellGrid h c).length ∧
        row.vsBaseline = some comparison ∧
        let test := pairedTtest (pairs.map (fun pair => pair.1.2.aggregateQuality))
          (pairs.map (fun pair => pair.2.2.aggregateQuality))
        comparison.pValue = test.pValue ∧ comparison.effectSizeD = test.effectSizeD ∧
          comparison.significant = test.significantAt05 := by
  intro pairs
  have hruns := map_fst_experimentRuns hrun
  have hmem : q ∈ c.policies := by
    rw [hpolicies]
    exact List.mem_cons_of_mem _ hq
  have htested : pairs.map (fun pair => pair.1.2.aggregateQuality) =
      (scoresOf r.benchmarkResults q).take (min (scoresOf r.benchmarkResults q).length
        (scoresOf r.benchmarkResults base).length) := by
    rw [scoresOf_benchmarkResults hrun, scoresOf_benchmarkResults hrun]
    exact map_fst_pairedRuns _ _ _ _
  have hbaseline : pairs.map (fun pair => pair.2.2.aggregateQuality) =
      (scoresOf r.benchmarkResults base).take (min (scoresOf r.benchmarkResults q).length
        (scoresOf r.benchmarkResults base).length) := by
    rw [scoresOf_benchmarkResults hrun, scoresOf_benchmarkResults hrun]
    exact map_snd_pairedRuns _ _ _ _
  refine ⟨?_, length_pairs hruns q base, ?_⟩
  · intro pair hpair
    obtain ⟨⟨_, hleft⟩, _, hright⟩ := keys_of_mem_pairs hpair
    exact ⟨hleft, hright, cell_eq_of_mem_pairs hruns hpair⟩
  · refine ⟨_, compareScores (scoresOf r.benchmarkResults q) (scoresOf r.benchmarkResults base),
      mem_comparePolicies_iff hrun hpolicies hmem hcells, length_scoresOf hrun q, ?_, ?_⟩
    · have hbase : scoresOf r.benchmarkResults base ≠ [] := by
        rw [← List.length_pos_iff, length_scoresOf hrun, hpolicies, List.count_cons_self]
        exact Nat.mul_pos (Nat.succ_pos _) (List.length_pos_iff.mpr hcells)
      exact if_pos ⟨hbase, hne⟩
    · rw [htested, hbaseline]
      exact ⟨rfl, rfl, rfl⟩

end Cells

/-! ## Two policies with one score -/

/-- The statistics of lists that repeat one score. -/
@[reducible] def constantStatistics : ScoreStatistics where
  ttestRel _ _ := (none, none)
  effectSizeCohensD _ _ := some 0
  bootstrapCi scores := (meanOf scores, meanOf scores)
  std _ := some 0

/-- Two policies, of which the second is listed twice, over two budgets and two
levels. -/
def repeatedPolicyCall : ExperimentCall where
  experimentName := "repeated"
  policies := ["full_cache", "hybrid", "hybrid"]
  memoryBudgets := [1 / 2, 1]
  concurrencyLevels := some [1, 4]
  outcome _ := .ok [{ qualityScore := 1 / 2 }]

theorem comparison_pairs_cells_repeated :
    let h := BenchmarkHarness.init [1]
    ∃ r, (@BenchmarkHarness.runExperiment stableFrameSort h repeatedPolicyCall).1 = .ok r ∧
      (pairedRuns (experimentRuns h repeatedPolicyCall r) "hybrid" "full_cache").length = 4 ∧
      ∃ row ∈ @ExperimentResults.comparePolicies constantStatistics r, row.n = 8 := by
  intro h
  obtain ⟨r, hr⟩ : ∃ r,
      (@BenchmarkHarness.runExperiment stableFrameSort h repeatedPolicyCall).1 = .ok r := by
    have hok : (@BenchmarkHarness.runExperiment stableFrameSort h
        repeatedPolicyCall).1.toOption.isSome = true := by
      decide +kernel
    cases hresult : (@BenchmarkHarness.runExperiment stableFrameSort h repeatedPolicyCall).1 with
    | ok r => exact ⟨r, rfl⟩
    | error e =>
        rw [hresult] at hok
        cases hok
  obtain ⟨_, hlength, row, _, hrow, hn, _⟩ :=
    @comparison_pairs_cells h repeatedPolicyCall stableFrameSort r hr constantStatistics
      "full_cache" "hybrid" ["hybrid", "hybrid"] rfl (by decide) (by decide)
      (List.cons_ne_nil _ _)
  exact ⟨r, hr, hlength, row, ((hrow row).mpr rfl).1, hn⟩

end KVOrchestrator.Ports
