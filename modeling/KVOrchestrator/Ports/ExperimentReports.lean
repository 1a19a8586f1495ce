import KVOrchestrator.Ports.Pareto
import KVOrchestrator.Verified.Dynamics
import KVOrchestrator.Verified.Percentile

/-!
# Experiments on one harness (`src/benchmarks/harness.py`)

`run_experiment` runs a benchmark for each policy, memory budget and concurrency
level, adds each result to the analyzer of the harness and reports on what the
analyzer holds.  The analyzer is made once, with the harness, and never emptied,
so a report covers the results of all experiments so far.  Its number of results
tells: a report is the one of a fresh harness exactly if no experiment before it
ran a benchmark (`reports_isolated_iff`).

How a benchmark run ends is up to the serving side: each call is given the
outcomes of its runs in the order it makes them.
-/

namespace KVOrchestrator.Ports

open KVOrchestrator.Verified

/-! ## The report on the accumulated results -/

/-- What the report says of one policy. -/
structure PolicySummary where
  meanQuality : ℚ
  meanP95Ms : ℚ
  meanGpuMb : ℚ
  nResults : Nat
  deriving DecidableEq, Repr

structure ReportSummary where
  totalResults : Nat
  policies : List String
  paretoFrontierSize : Nat
  paretoFrontierPolicies : List String
  perPolicy : List (String × PolicySummary)
  deriving DecidableEq, Repr

/-- The dictionary `generate_report` returns. -/
inductive Report where
  | error (message : String)
  | summary (summary : ReportSummary)
  deriving DecidableEq, Repr

/-- `sub[column].mean()`: missing values are skipped. -/
def columnMean (rows : List ResultRow) (column : String) : ℚ :=
  let values := rows.filterMap (fun row => row.metrics.get? column)
  values.sum / values.length

/-- The summary of the rows of one policy. -/
def policySummary (sub : List ResultRow) : PolicySummary where
  meanQuality := pyRound (columnMean sub "quality_score") 4
  meanP95Ms := pyRound (columnMean sub "p95_latency_ms") 2
  meanGpuMb := pyRound (columnMean sub "gpu_mem_peak_mb") 1
  nResults := sub.length

namespace ParetoAnalyzer

/-- The summary of the results, given their frontier. -/
def reportSummary (pa : ParetoAnalyzer) (frontier : List ResultRow) : ReportSummary :=
  let df := pa.results
  -- `unique()` keeps the order of first occurrence
  let policies := (df.map (·.policyName)).eraseDups
  { totalResults := df.length
    policies := policies
    paretoFrontierSize := frontier.length
    paretoFrontierPolicies := frontier.map (·.policyName)
    perPolicy := policies.map (fun p =>
      (p, policySummary (df.filter (fun row => row.policyName = p)))) }

/-- Produce a summary report across all accumulated results. -/
def generateReport [FrameSort] (pa : ParetoAnalyzer) : Except PyError Report :=
  if pa.results.isEmpty then .ok (.error "No results accumulated.")
  else
    match pa.computeParetoFrontier with
    | .ok frontier => .ok (.summary (pa.reportSummary frontier))
    | .error e => .error e

/-- Every result has a memory and a quality to compare by. -/
def Complete (pa : ParetoAnalyzer) : Prop :=
  ∀ row ∈ pa.results, HasMetrics "gpu_mem_peak_mb" "quality_score" row.metrics

/-- Complete results have a report, which counts them. -/
theorem generateReport_of_complete [FrameSort] {pa : ParetoAnalyzer} (h : pa.Complete)
    (hne : pa.results ≠ []) :
    ∃ s, pa.generateReport = .ok (.summary s) ∧ s.totalResults = pa.results.length := by
  obtain ⟨frontier, hfrontier, _⟩ := exists_frontier false true h
  have hempty : pa.results.isEmpty = false := by simpa using hne
  refine ⟨pa.reportSummary frontier, ?_, rfl⟩
  rw [generateReport, hempty, hfrontier]
  rfl

theorem generateReport_of_empty [FrameSort] {pa : ParetoAnalyzer} (h : pa.results = []) :
    pa.generateReport = .ok (.error "No results accumulated.") := by
  rw [generateReport, h]
  rfl

/-- Reports on different numbers of results differ. -/
theorem length_eq_of_generateReport_eq [FrameSort] {pa pa' : ParetoAnalyzer}
    (h : pa.Complete) (h' : pa'.Complete) (heq : pa.generateReport = pa'.generateReport) :
    pa.results.length = pa'.results.length := by
  by_cases hne : pa.results = []
  · by_cases hne' : pa'.results = []
    · rw [hne, hne']
    · obtain ⟨s, hs, _⟩ := generateReport_of_complete h' hne'
      rw [generateReport_of_empty hne, hs] at heq
      cases heq
  · obtain ⟨s, hs, htotal⟩ := generateReport_of_complete h hne
    by_cases hne' : pa'.results = []
    · rw [generateReport_of_empty hne', hs] at heq
      cases heq
    · obtain ⟨s', hs', htotal'⟩ := generateReport_of_complete h' hne'
      rw [hs, hs'] at heq
      cases heq
      rw [← htotal, htotal']

end ParetoAnalyzer

/-! ## The harness -/

/-- The columns of a task's result the harness reads. -/
structure TaskResult where
  qualityScore : ℚ
  systemMetrics : OrdDict String ℚ := OrdDict.empty
  latenciesMs : List ℚ := []
  deriving DecidableEq

structure BenchmarkResult where
  policyName : String
  memoryBudget : ℚ
  taskResults : List TaskResult := []
  aggregateQuality : ℚ := 0
  deriving DecidableEq

/-- Macro-average over the tasks with a score. -/
def BenchmarkResult.computeAggregate (br : BenchmarkResult) : BenchmarkResult :=
  let scores := (br.taskResults.map (·.qualityScore)).filter (fun q => decide (q ≥ 0))
  { br with aggregateQuality := if scores.isEmpty then 0 else scores.sum / scores.length }

/-- How one benchmark run ends: with the results of its tasks, or by raising. -/
abbrev RunOutcome := Except PyError (List TaskResult)

/-- The result of a benchmark run that returned. -/
def benchmarkResult (policy : String) (budget : ℚ) (taskResults : List TaskResult) :
    BenchmarkResult :=
  BenchmarkResult.computeAggregate
    { policyName := policy
      memoryBudget := budget
      taskResults := taskResults }

def extractP95 (br : BenchmarkResult) : ℚ :=
  let allLatencies := br.taskResults.flatMap (·.latenciesMs)
  if allLatencies.isEmpty then 0 else percentile allLatencies 95

def extractGpuMem (br : BenchmarkResult) : ℚ :=
  let memVals := (br.taskResults.filter (fun tr => !tr.systemMetrics.entries.isEmpty)).map
    (fun tr => (tr.systemMetrics.get? "gpu_mem_peak_mb").getD 0)
  maxD memVals 0

structure ExperimentResults where
  experimentName : String
  policies : List String
  memoryBudgets : List ℚ
  benchmarkResults : List BenchmarkResult
  comparisonReport : Report
  deriving DecidableEq

structure BenchmarkHarness where
  /-- `concurrency_levels` of the configuration. -/
  concurrencyLevels : List Int := [1]
  pareto : ParetoAnalyzer := {}

/-- The arguments of one `run_experiment` call, and how its benchmark runs end.
The tasks are passed on to the runs. -/
structure ExperimentCall where
  experimentName : String
  policies : List String
  memoryBudgets : List ℚ
  concurrencyLevels : Option (List Int) := none
  outcome : Nat → RunOutcome

/-- `concurrency_levels or bc.get(…)` -/
def levelsOf (h : BenchmarkHarness) (c : ExperimentCall) : List Int :=
  match c.concurrencyLevels with
  | some (level :: levels) => level :: levels
  | _ => h.concurrencyLevels

/-- The policy and budget of each benchmark run, in the order of the three
loops. -/
def runPlan (h : BenchmarkHarness) (c : ExperimentCall) : List (String × ℚ) :=
  c.policies.flatMap (fun policy =>
    c.memoryBudgets.flatMap (fun budget => (levelsOf h c).map (fun _ => (policy, budget))))

/-- Add the result of one benchmark run to the analyzer. -/
def addBenchmark (pa : ParetoAnalyzer) (policy : String) (budget : ℚ) (br : BenchmarkResult) :
    ParetoAnalyzer :=
  pa.addResult policy budget 0 br.aggregateQuality (extractP95 br) (extractGpuMem br)

/-- The loops of `run_experiment` from run `k` on; a run that raises ends them. -/
def runLoop (outcome : Nat → RunOutcome) :
    List (String × ℚ) → Nat → ParetoAnalyzer → List BenchmarkResult →
      Except PyError (List BenchmarkResult) × ParetoAnalyzer
  | [], _, pa, results => (.ok results, pa)
  | (policy, budget) :: rest, k, pa, results =>
      match outcome k with
      | .error e => (.error e, pa)
      | .ok taskResults =>
          let br := benchmarkResult policy budget taskResults
          runLoop outcome rest (k + 1) (addBenchmark pa policy budget br) (results ++ [br])

/-- Full sweep: each policy, each memory budget, each concurrency level. -/
def BenchmarkHarness.runExperiment [FrameSort] (h : BenchmarkHarness) (c : ExperimentCall) :
    Except PyError ExperimentResults × BenchmarkHarness :=
  match runLoop c.outcome (runPlan h c) 0 h.pareto [] with
  | (.error e, pa) => (.error e, { h with pareto := pa })
  | (.ok results, pa) =>
      ( match pa.generateReport with
        | .error e => .error e
        | .ok report => .ok
            { experimentName := c.experimentName
              policies := c.policies
              memoryBudgets := c.memoryBudgets
              benchmarkResults := results
              comparisonReport := report },
        { h with pareto := pa } )

/-! ## What a call adds to the analyzer -/

/-- The rows of the benchmark runs from run `k` on, up to one that raises. -/
def loopRows (outcome : Nat → RunOutcome) : List (String × ℚ) → Nat → List ResultRow
  | [], _ => []
  | (policy, budget) :: rest, k =>
      match outcome k with
      | .error _ => []
      | .ok taskResults =>
          (addBenchmark {} policy budget (benchmarkResult policy budget taskResults)).results ++
            loopRows outcome rest (k + 1)

theorem results_addBenchmark (pa : ParetoAnalyzer) (policy : String) (budget : ℚ)
    (br : BenchmarkResult) :
    (addBenchmark pa policy budget br).results =
      pa.results ++ (addBenchmark {} policy budget br).results := rfl

theorem complete_addBenchmark (policy : String) (budget : ℚ) (br : BenchmarkResult) :
    (addBenchmark {} policy budget br).Complete := by
  intro row hrow
  rw [addBenchmark, ParetoAnalyzer.addResult, List.nil_append, List.mem_singleton] at hrow
  rw [hrow]
  have hnone : (OrdDict.empty : OrdDict String ℚ).entries = [] := rfl
  constructor
  · dsimp only
    rw [hnone, List.foldl_nil, OrdDict.get?_set_self]
    rfl
  · dsimp only
    rw [hnone, List.foldl_nil, OrdDict.get?_set_of_ne _ (by decide),
      OrdDict.get?_set_of_ne _ (by decide), OrdDict.get?_set_self]
    rfl

section Loop

variable (outcome : Nat → RunOutcome) (plan : List (String × ℚ))

/-- The loops append their rows to what the analyzer holds. -/
theorem results_runLoop (k : Nat) (pa : ParetoAnalyzer) (results : List BenchmarkResult) :
    (runLoop outcome plan k pa results).2.results = pa.results ++ loopRows outcome plan k := by
  induction plan generalizing k pa results with
  | nil => exact (List.append_nil _).symm
  | cons run rest ih =>
      obtain ⟨policy, budget⟩ := run
      rw [runLoop, loopRows]
      cases outcome k with
      | error e => exact (List.append_nil _).symm
      | ok taskResults =>
          dsimp only
          rw [ih, results_addBenchmark, List.append_assoc]

/-- How the loops end does not depend on what the analyzer holds. -/
theorem fst_runLoop (k : Nat) (pa pa' : ParetoAnalyzer) (results : List BenchmarkResult) :
    (runLoop outcome plan k pa results).1 = (runLoop outcome plan k pa' results).1 := by
  induction plan generalizing k pa pa' results with
  | nil => rfl
  | cons run rest ih =>
      obtain ⟨policy, budget⟩ := run
      rw [runLoop, runLoop]
      cases outcome k with
      | error e => rfl
      | ok taskResults => exact ih _ _ _ _

theorem complete_loopRows (k : Nat) : (ParetoAnalyzer.mk (loopRows outcome plan k)).Complete := by
  induction plan generalizing k with
  | nil =>
      intro row hrow
      cases hrow
  | cons run rest ih =>
      obtain ⟨policy, budget⟩ := run
      rw [loopRows]
      cases outcome k with
      | error e =>
          intro row hrow
          cases hrow
      | ok taskResults =>
          intro row hrow
          rcases List.mem_append.mp hrow with hfirst | hrest
          · exact complete_addBenchmark policy budget _ row hfirst
          · exact ih (k + 1) row hrest

/-- The loops return if every run does. -/
theorem runLoop_ok_iff (k : Nat) (pa : ParetoAnalyzer) (results : List BenchmarkResult) :
    (∃ brs, (runLoop outcome plan k pa results).1 = .ok brs) ↔
      ∀ i < plan.length, ∃ taskResults, outcome (k + i) = .ok taskResults := by
  induction plan generalizing k pa results with
  | nil =>
      constructor
      · intro _ i hi
        cases hi
      · intro _
        exact ⟨results, rfl⟩
  | cons run rest ih =>
      obtain ⟨policy, budget⟩ := run
      rw [runLoop]
      cases houtcome : outcome k with
      | error e =>
          constructor
          · rintro ⟨brs, hbrs⟩
            cases hbrs
          · intro h
            obtain ⟨taskResults, ht⟩ := h 0 (by simp)
            rw [Nat.add_zero, houtcome] at ht
            cases ht
      | ok taskResults =>
          dsimp only
          rw [ih]
          constructor
          · intro h i hi
            cases i with
            | zero => exact ⟨taskResults, houtcome⟩
            | succ i =>
                have hnext := h i (by simpa using hi)
                rwa [Nat.add_right_comm, Nat.add_assoc] at hnext
          · intro h i hi
            have hnext := h (i + 1) (by simpa using hi)
            rwa [← Nat.add_assoc, Nat.add_right_comm] at hnext

end Loop

/-! ## Reports of a harness -/

namespace ExperimentCall

/-- Every benchmark run of the call returns. -/
def Completes (h : BenchmarkHarness) (c : ExperimentCall) : Prop :=
  ∀ k < (runPlan h c).length, ∃ taskResults, c.outcome k = .ok taskResults

/-- No benchmark run of the call returns: there is none, or the first raises. -/
def RunsNothing (h : BenchmarkHarness) (c : ExperimentCall) : Prop :=
  runPlan h c = [] ∨ ∃ e, c.outcome 0 = .error e

end ExperimentCall

theorem loopRows_eq_nil_iff (h : BenchmarkHarness) (c : ExperimentCall) :
    loopRows c.outcome (runPlan h c) 0 = [] ↔ c.RunsNothing h := by
  rw [ExperimentCall.RunsNothing]
  cases hplan : runPlan h c with
  | nil => exact iff_of_true rfl (.inl rfl)
  | cons run rest =>
      obtain ⟨policy, budget⟩ := run
      rw [loopRows]
      cases houtcome : c.outcome 0 with
      | error e => exact iff_of_true rfl (.inr ⟨e, rfl⟩)
      | ok taskResults =>
          constructor
          · intro hnil
            cases hnil
          · rintro (hnil | ⟨e, he⟩)
            · cases hnil
            · cases he

namespace BenchmarkHarness

variable [FrameSort]

/-- A harness as `__init__` makes it. -/
def init (concurrencyLevels : List Int) : BenchmarkHarness where
  concurrencyLevels := concurrencyLevels

/-- The harness after a call. -/
def after (h : BenchmarkHarness) (c : ExperimentCall) : BenchmarkHarness :=
  (h.runExperiment c).2

/-- The `comparison_report` of a call, or what the call raises. -/
def report (h : BenchmarkHarness) (c : ExperimentCall) : Except PyError Report :=
  (h.runExperiment c).1.map (·.comparisonReport)

theorem after_eq (h : BenchmarkHarness) (c : ExperimentCall) :
    h.after c = { h with pareto :=
      { results := h.pareto.results ++ loopRows c.outcome (runPlan h c) 0 } } := by
  have hresults := results_runLoop c.outcome (runPlan h c) 0 h.pareto []
  rw [after, runExperiment]
  split
  · rename_i e pa hloop
    rw [hloop] at hresults
    rw [← hresults]
  · rename_i brs pa hloop
    rw [hloop] at hresults
    rw [← hresults]

/-- A call whose runs all return reports on the results before it and its own. -/
theorem report_of_completes {h : BenchmarkHarness} {c : ExperimentCall} (hc : c.Completes h) :
    h.report c = ParetoAnalyzer.generateReport
      { results := h.pareto.results ++ loopRows c.outcome (runPlan h c) 0 } := by
  have hresults := results_runLoop c.outcome (runPlan h c) 0 h.pareto []
  obtain ⟨brs, hbrs⟩ := (runLoop_ok_iff c.outcome (runPlan h c) 0 h.pareto []).mpr (by
    intro i hi
    rw [Nat.zero_add]
    exact hc i hi)
  obtain ⟨pa, hloop⟩ : ∃ pa, runLoop c.outcome (runPlan h c) 0 h.pareto [] = (.ok brs, pa) :=
    ⟨_, Prod.ext hbrs rfl⟩
  rw [hloop] at hresults
  rw [report, runExperiment, hloop, ← hresults]
  dsimp only
  cases pa.generateReport with
  | error e => rfl
  | ok r => rfl

/-- A call with a run that raises raises the same on every harness of the
configuration. -/
theorem report_of_not_completes {h : BenchmarkHarness} {c : ExperimentCall}
    (hc : ¬c.Completes h) (pa : ParetoAnalyzer) :
    h.report c = report { h with pareto := pa } c := by
  have hraise : ∃ e, (runLoop c.outcome (runPlan h c) 0 h.pareto []).1 = .error e := by
    cases hfst : (runLoop c.outcome (runPlan h c) 0 h.pareto []).1 with
    | error e => exact ⟨e, rfl⟩
    | ok brs =>
        exfalso
        apply hc
        intro i hi
        have hall := (runLoop_ok_iff c.outcome (runPlan h c) 0 h.pareto []).mp ⟨brs, hfst⟩ i hi
        rwa [Nat.zero_add] at hall
  obtain ⟨e, he⟩ := hraise
  have he' : (runLoop c.outcome (runPlan { h with pareto := pa } c) 0 pa []).1 = .error e := by
    rw [← he]
    exact fst_runLoop _ _ 0 _ _ _
  obtain ⟨left, hloop⟩ : ∃ left, runLoop c.outcome (runPlan h c) 0 h.pareto [] =
      (.error e, left) := ⟨_, Prod.ext he rfl⟩
  obtain ⟨left', hloop'⟩ : ∃ left,
      runLoop c.outcome (runPlan { h with pareto := pa } c) 0 pa [] = (.error e, left) :=
    ⟨_, Prod.ext he' rfl⟩
  rw [report, report, runExperiment, runExperiment, hloop, hloop']

end BenchmarkHarness

/-! ## Sequences of calls -/

section Calls

variable [FrameSort]

theorem concurrencyLevels_run (calls : List ExperimentCall) :
    ∀ h : BenchmarkHarness,
      (run BenchmarkHarness.after h calls).concurrencyLevels = h.concurrencyLevels := by
  induction calls with
  | nil => exact fun _ => rfl
  | cons c calls ih =>
      intro h
      show (run BenchmarkHarness.after (h.after c) calls).concurrencyLevels = _
      rw [ih, h.after_eq]

omit [FrameSort] in
/-- What the calls are run with depends on the configuration only. -/
theorem runPlan_congr {h h' : BenchmarkHarness}
    (hlevels : h.concurrencyLevels = h'.concurrencyLevels) (c : ExperimentCall) :
    runPlan h c = runPlan h' c := by
  rw [runPlan, runPlan, levelsOf, levelsOf, hlevels]

/-- After some calls the analyzer holds the rows of all of them. -/
theorem results_run (calls : List ExperimentCall) :
    ∀ h : BenchmarkHarness, (run BenchmarkHarness.after h calls).pareto.results =
      h.pareto.results ++ calls.flatMap (fun c => loopRows c.outcome (runPlan h c) 0) := by
  induction calls with
  | nil => exact fun _ => (List.append_nil _).symm
  | cons c calls ih =>
      intro h
      have hplan : ∀ c', runPlan (h.after c) c' = runPlan h c' := by
        intro c'
        apply runPlan_congr
        rw [h.after_eq]
      show (run BenchmarkHarness.after (h.after c) calls).pareto.results = _
      rw [ih, List.flatMap_cons, ← List.append_assoc]
      simp only [hplan]
      rw [h.after_eq]

omit [FrameSort] in
theorem complete_flatMap_loopRows (h : BenchmarkHarness) (calls : List ExperimentCall) :
    (ParetoAnalyzer.mk (calls.flatMap (fun c => loopRows c.outcome (runPlan h c) 0))).Complete := by
  intro row hrow
  obtain ⟨c, _, hc⟩ := List.mem_flatMap.mp hrow
  exact complete_loopRows c.outcome (runPlan h c) 0 row hc

omit [FrameSort] in
/-- No rows are collected exactly if no call runs anything. -/
theorem flatMap_loopRows_eq_nil_iff (h : BenchmarkHarness) (calls : List ExperimentCall) :
    calls.flatMap (fun c => loopRows c.outcome (runPlan h c) 0) = [] ↔
      ∀ c ∈ calls, c.RunsNothing h := by
  rw [List.flatMap_eq_nil_iff]
  exact forall₂_congr (fun c _ => loopRows_eq_nil_iff h c)

/-- Each report of the calls is the one a fresh harness gives for the same
benchmark runs. -/
def ReportsIsolated (h : BenchmarkHarness) (calls : List ExperimentCall) : Prop :=
  ∀ done c, done ++ [c] <+: calls →
    (run BenchmarkHarness.after h done).report c = h.report c

/-- One call, after the calls `done` on a new harness. -/
theorem report_run_eq_iff {h : BenchmarkHarness} (hempty : h.pareto.results = [])
    (done : List ExperimentCall) (c : ExperimentCall) :
    (run BenchmarkHarness.after h done).report c = h.report c ↔
      (c.Completes h → ∀ c' ∈ done, c'.RunsNothing h) := by
  have hlevels := concurrencyLevels_run done h
  have hplan := runPlan_congr hlevels c
  have hresults := results_run done h
  rw [hempty, List.nil_append] at hresults
  by_cases hc : c.Completes h
  · have hc' : c.Completes (run BenchmarkHarness.after h done) := by
      rw [ExperimentCall.Completes, hplan]
      exact hc
    rw [BenchmarkHarness.report_of_completes hc, BenchmarkHarness.report_of_completes hc', hplan,
      hresults, hempty, List.nil_append]
    constructor
    · intro heq _ c' hc'
      have hown := complete_loopRows c.outcome (runPlan h c) 0
      have hall : (ParetoAnalyzer.mk
          (done.flatMap (fun c => loopRows c.outcome (runPlan h c) 0) ++
            loopRows c.outcome (runPlan h c) 0)).Complete := by
        intro row hrow
        rcases List.mem_append.mp hrow with hearlier | hlast
        · exact complete_flatMap_loopRows h done row hearlier
        · exact hown row hlast
      have hlength : (done.flatMap (fun c => loopRows c.outcome (runPlan h c) 0) ++
          loopRows c.outcome (runPlan h c) 0).length =
            (loopRows c.outcome (runPlan h c) 0).length :=
        ParetoAnalyzer.length_eq_of_generateReport_eq hall hown heq
      rw [List.length_append] at hlength
      refine (flatMap_loopRows_eq_nil_iff h done).mp ?_ c' hc'
      apply List.eq_nil_of_length_eq_zero
      omega
    · intro hnothing
      rw [(flatMap_loopRows_eq_nil_iff h done).mpr (hnothing hc), List.nil_append]
  · have hraise := BenchmarkHarness.report_of_not_completes hc
      (run BenchmarkHarness.after h done).pareto
    have hh : ({ h with pareto := (run BenchmarkHarness.after h done).pareto } :
        BenchmarkHarness) = run BenchmarkHarness.after h done := by
      rw [← hlevels]
    rw [hh] at hraise
    constructor
    · intro _ hcompletes
      exact absurd hcompletes hc
    · intro _
      exact hraise.symm

/-- **A report is isolated exactly if nothing was run before it.**

For every sequence of `run_experiment` calls on one new harness, however the
benchmark runs end: each call reports what a fresh harness would report for its
own benchmark runs exactly if, whenever all runs of a call return, no earlier
call had a run that returned. -/
theorem reports_isolated_iff (concurrencyLevels : List Int) (calls : List ExperimentCall) :
    ReportsIsolated (BenchmarkHarness.init concurrencyLevels) calls ↔
      ∀ done c, done ++ [c] <+: calls →
        c.Completes (BenchmarkHarness.init concurrencyLevels) →
        ∀ c' ∈ done, c'.RunsNothing (BenchmarkHarness.init concurrencyLevels) := by
  constructor
  · intro h done c hprefix
    exact (report_run_eq_iff rfl done c).mp (h done c hprefix)
  · intro h done c hprefix
    exact (report_run_eq_iff rfl done c).mpr (h done c hprefix)

end Calls

/-! ## Two experiments of one run each -/

/-- A call with one policy and one budget whose run gives one task result. -/
def singleRunCall (policy : String) (quality : ℚ) : ExperimentCall where
  experimentName := policy
  policies := [policy]
  memoryBudgets := [1]
  outcome _ := .ok [{ qualityScore := quality }]

/-- The second of two experiments reports on both. -/
theorem second_report_not_isolated :
    let _ : FrameSort := stableFrameSort
    ¬ReportsIsolated (BenchmarkHarness.init [1])
      [singleRunCall "recency" (1 / 2), singleRunCall "hybrid" (3 / 4)] := by
  intro _ h
  have h := h [singleRunCall "recency" (1 / 2)] (singleRunCall "hybrid" (3 / 4))
    (List.prefix_refl _)
  revert h
  decide +kernel

end KVOrchestrator.Ports
