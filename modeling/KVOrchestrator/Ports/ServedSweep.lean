import KVOrchestrator.Ports.EngineResults
import KVOrchestrator.Ports.ExperimentReports
import KVOrchestrator.Ports.LongBench

/-!
# Sweeps with LongBench (`src/benchmarks/harness.py`, `src/benchmarks/longbench.py`)

`run_experiment` with the runs that `LongBenchRunner` makes for it.  A task
result of the runner has no system metrics, so every row of the analyzer has a
peak memory of zero, and the Pareto frontier over memory and quality is the rows
of best quality (`sweep_frontier_is_best_quality`).

Against the mock engine the text of an answer depends on its prompt only.  All
runs of a sweep then have the same quality, whatever the policy, the budget and
the concurrency, and all of them are on the frontier
(`sweep_of_mock_engine_ties`).
-/

namespace KVOrchestrator.Ports

open KVOrchestrator.Verified

/-! ## What the harness reads of a task result -/

/-- The numbers of a dictionary of metrics. -/
def numbers (d : OrdDict String Json) : OrdDict String ℚ :=
  OrdDict.ofEntries (d.entries.filterMap (fun e =>
    match e.2.asFloat with
    | .ok value => some (e.1, value)
    | .error _ => none))

/-- The columns the harness reads of a task result. -/
def columnsRead (t : ResultFiles.TaskResult) : TaskResult where
  qualityScore := t.qualityScore
  systemMetrics := numbers t.systemMetrics
  latenciesMs := t.latenciesMs

/-! ## Sweeps -/

/-- The arguments of a `run_experiment` call, the dataset and its limits, and
what the calls of each task of each run do. -/
structure Sweep where
  experimentName : String
  policies : List String
  memoryBudgets : List ℚ
  tasks : List String
  concurrencyLevels : Option (List Int) := none
  dataset : String → Except PyError (List RawSample)
  maxSamples : Int := 200
  maxInputTokens : Int := 31500
  ops : Nat → Nat → List (PoolStep CallReply)
  clock : Nat → Nat → ℚ := fun _ _ => 0

namespace Sweep

/-- The runner for a policy and a budget. -/
def runner (sweep : Sweep) (policy : String) (budget : ℚ) : LongBenchClient where
  policyName := policy
  memoryBudget := budget
  maxSamples := sweep.maxSamples
  maxInputTokens := sweep.maxInputTokens

/-- The `run_experiment` call of the sweep, given the results of its runs. -/
def call (sweep : Sweep) (results : Nat → ResultFiles.BenchmarkResult) : ExperimentCall where
  experimentName := sweep.experimentName
  policies := sweep.policies
  memoryBudgets := sweep.memoryBudgets
  concurrencyLevels := sweep.concurrencyLevels
  outcome k := .ok ((results k).taskResults.map columnsRead)

/-- `concurrency_levels or bc.get(…)` -/
def levels (sweep : Sweep) (h : BenchmarkHarness) : List Int :=
  match sweep.concurrencyLevels with
  | some (level :: levels) => level :: levels
  | _ => h.concurrencyLevels

/-- The policy, budget and concurrency of each run, in the order of the loops. -/
def plan (sweep : Sweep) (h : BenchmarkHarness) : List (String × ℚ × Int) :=
  sweep.policies.flatMap (fun policy =>
    sweep.memoryBudgets.flatMap (fun budget =>
      (sweep.levels h).map (fun level => (policy, budget, level))))

/-- A run of the sweep. -/
def benchmarkRun [UnicodeTables] (sweep : Sweep) (k : Nat) (policy : String) (budget : ℚ)
    (level : Int) : Ending ResultFiles.BenchmarkResult :=
  (sweep.runner policy budget).runAllAsync sweep.dataset (some sweep.tasks) none level
    (sweep.ops k) (sweep.clock k) 0

/-- Each run of the sweep ends with its result. -/
def Ends [UnicodeTables] (sweep : Sweep) (h : BenchmarkHarness)
    (results : Nat → ResultFiles.BenchmarkResult) : Prop :=
  ∀ k policy budget level, (sweep.plan h)[k]? = some (policy, budget, level) →
    sweep.benchmarkRun k policy budget level = some (.ok (results k))

/-- The policy and the quality of each run. -/
def qualities (sweep : Sweep) (h : BenchmarkHarness)
    (results : Nat → ResultFiles.BenchmarkResult) : List (String × ℚ) :=
  (sweep.plan h).zipIdx.map (fun e => (e.1.1, (results e.2).aggregateQuality))

/-- The entries no other exceeds in quality. -/
def best (l : List (String × ℚ)) : List (String × ℚ) :=
  l.filter (fun e => decide (∀ e' ∈ l, e'.2 ≤ e.2))

theorem runPlan_call (sweep : Sweep) (h : BenchmarkHarness)
    (results : Nat → ResultFiles.BenchmarkResult) :
    runPlan h (sweep.call results) = (sweep.plan h).map (fun e => (e.1, e.2.1)) := by
  have hlevels : levelsOf h (sweep.call results) = sweep.levels h := rfl
  rw [runPlan, plan, List.map_flatMap, hlevels]
  congr 1
  funext policy
  rw [List.map_flatMap]
  congr 1
  funext budget
  rw [List.map_map]
  rfl

/-! ## The rows of a sweep -/

/-- The row of a run. -/
def rowOf (policy : String) (budget : ℚ) (br : BenchmarkResult) : ResultRow where
  policyName := policy
  metrics :=
    ((((OrdDict.empty.set "memory_budget" budget).set "context_length" ((0 : Int) : ℚ)).set
      "quality_score" br.aggregateQuality).set "p95_latency_ms" (extractP95 br)).set
      "gpu_mem_peak_mb" (extractGpuMem br)

theorem results_addBenchmark_empty (policy : String) (budget : ℚ) (br : BenchmarkResult) :
    (addBenchmark {} policy budget br).results = [rowOf policy budget br] := rfl

/-- The rows when no run raises. -/
theorem loopRows_ok (taskResults : Nat → List TaskResult) (plan : List (String × ℚ)) (k : Nat) :
    loopRows (fun i => .ok (taskResults i)) plan k =
      (plan.zipIdx k).map (fun e =>
        rowOf e.1.1 e.1.2 (benchmarkResult e.1.1 e.1.2 (taskResults e.2))) := by
  induction plan generalizing k with
  | nil => rfl
  | cons e plan ih =>
      obtain ⟨policy, budget⟩ := e
      rw [loopRows]
      dsimp only
      rw [results_addBenchmark_empty, ih, List.zipIdx_cons, List.map_cons]
      rfl

theorem get?_quality_rowOf (policy : String) (budget : ℚ) (br : BenchmarkResult) :
    (rowOf policy budget br).metrics.get? "quality_score" = some br.aggregateQuality := by
  rw [rowOf, OrdDict.get?_set_of_ne _ (by decide), OrdDict.get?_set_of_ne _ (by decide),
    OrdDict.get?_set_self]

theorem get?_gpu_rowOf (policy : String) (budget : ℚ) (br : BenchmarkResult) :
    (rowOf policy budget br).metrics.get? "gpu_mem_peak_mb" = some (extractGpuMem br) := by
  rw [rowOf, OrdDict.get?_set_self]

/-! ## What LongBench leaves out -/

section Runs

variable [UnicodeTables]

/-- A task result of the runner has no system metrics. -/
theorem systemMetrics_of_runTaskAsync {runner : LongBenchClient}
    {dataset : String → Except PyError (List RawSample)} {taskName : String}
    {maxSamples : Option Int} {concurrency : Int} {ops : List (PoolStep CallReply)} {now : ℚ}
    {t : ResultFiles.TaskResult}
    (h : runner.runTaskAsync dataset taskName maxSamples concurrency ops now = some (.ok t)) :
    t.systemMetrics = OrdDict.empty := by
  cases LongBenchClient.runTaskAsync_ok h with
  | inl hempty =>
      rw [hempty.2]
      rfl
  | inr hevaluated =>
      obtain ⟨_, r, hr⟩ := hevaluated
      rw [LongBenchClient.evaluateRun] at hr
      cases hquality : runner.evaluator.evaluate r.predictions
          ((runner.loadTask dataset taskName maxSamples).map (·.reference)) with
      | error e =>
          rw [hquality] at hr
          cases hr
      | ok quality =>
          rw [hquality] at hr
          cases hr
          rfl

/-- Each of the results is the end of its task. -/
theorem forall_runTasks {runner : LongBenchClient}
    {dataset : String → Except PyError (List RawSample)} {maxSamples : Option Int}
    {concurrency : Int} {ops : Nat → List (PoolStep CallReply)} {clock : Nat → ℚ}
    {taskNames : List String} {k : Nat} {results : List ResultFiles.TaskResult}
    (h : runner.runTasks dataset maxSamples concurrency ops clock taskNames k =
      some (.ok results)) :
    List.Forall₂ (fun e t => runner.runTaskAsync dataset e.1 maxSamples concurrency (ops e.2)
      (clock e.2) = some (.ok t)) (taskNames.zipIdx k) results := by
  induction taskNames generalizing k results with
  | nil =>
      cases h
      exact List.Forall₂.nil
  | cons taskName taskNames ih =>
      rw [LongBenchClient.runTasks] at h
      cases hend : runner.runTaskAsync dataset taskName maxSamples concurrency (ops k) (clock k) with
      | none =>
          rw [hend] at h
          cases h
      | some ending =>
          cases ending with
          | error e =>
              rw [hend] at h
              cases h
          | ok t =>
              rw [hend] at h
              dsimp only at h
              cases hrest : runner.runTasks dataset maxSamples concurrency ops clock taskNames
                (k + 1) with
              | none =>
                  rw [hrest] at h
                  cases h
              | some rest =>
                  cases rest with
                  | error e =>
                      rw [hrest] at h
                      cases h
                  | ok ts =>
                      rw [hrest] at h
                      cases h
                      exact List.Forall₂.cons hend (ih hrest)

/-- The tasks of the sweep: those asked for, or all there are. -/
def taskNames (sweep : Sweep) : List String :=
  match sweep.tasks with
  | taskName :: rest => taskName :: rest
  | [] => taskToWorkload.map Prod.fst

variable {sweep : Sweep} {k : Nat} {policy : String} {budget : ℚ} {level : Int}
  {br : ResultFiles.BenchmarkResult}

/-- A run that ends has run its tasks and averaged over them. -/
theorem runTasks_of_benchmarkRun
    (h : sweep.benchmarkRun k policy budget level = some (.ok br)) :
    (sweep.runner policy budget).runTasks sweep.dataset none level (sweep.ops k) (sweep.clock k)
        sweep.taskNames 0 = some (.ok br.taskResults) ∧
      br.aggregateQuality = LongBenchClient.aggregateOf br.taskResults := by
  have hrun : ((sweep.runner policy budget).runTasks sweep.dataset none level (sweep.ops k)
      (sweep.clock k) sweep.taskNames 0).map (fun ending => ending.map (fun results =>
        ({ policyName := policy
           memoryBudget := budget
           taskResults := results
           aggregateQuality := LongBenchClient.aggregateOf results
           timestamp := 0 } : ResultFiles.BenchmarkResult))) = some (.ok br) := by
    rw [← h]
    unfold benchmarkRun LongBenchClient.runAllAsync taskNames
    cases sweep.tasks <;> rfl
  cases hend : (sweep.runner policy budget).runTasks sweep.dataset none level (sweep.ops k)
    (sweep.clock k) sweep.taskNames 0 with
  | none =>
      rw [hend] at hrun
      cases hrun
  | some ending =>
      rw [hend] at hrun
      cases ending with
      | error e => cases hrun
      | ok results =>
          cases hrun
          exact ⟨rfl, rfl⟩

omit [UnicodeTables] in
theorem aggregateQuality_columnsRead (ts : List ResultFiles.TaskResult) :
    (benchmarkResult policy budget (ts.map columnsRead)).aggregateQuality =
      LongBenchClient.aggregateOf ts := by
  have hscores : (ts.map columnsRead).map (·.qualityScore) = ts.map (·.qualityScore) := by
    rw [List.map_map]
    rfl
  rw [benchmarkResult, BenchmarkResult.computeAggregate, LongBenchClient.aggregateOf, ← hscores]

/-- There is no memory to report. -/
theorem extractGpuMem_of_benchmarkRun
    (h : sweep.benchmarkRun k policy budget level = some (.ok br)) :
    extractGpuMem (benchmarkResult policy budget (br.taskResults.map columnsRead)) = 0 := by
  have hempty : ∀ t ∈ br.taskResults, t.systemMetrics = OrdDict.empty := by
    have hall := forall_runTasks (runTasks_of_benchmarkRun h).1
    generalize br.taskResults = ts at hall
    generalize sweep.taskNames.zipIdx = names at hall
    induction hall with
    | nil =>
        intro t ht
        cases ht
    | cons hrun _ ih =>
        intro t ht
        rcases List.mem_cons.mp ht with rfl | hrest
        · exact systemMetrics_of_runTaskAsync hrun
        · exact ih t hrest
  have hnone : (br.taskResults.map columnsRead).filter
      (fun tr => !tr.systemMetrics.entries.isEmpty) = [] := by
    rw [List.filter_eq_nil_iff]
    intro tr htr
    obtain ⟨t, ht, rfl⟩ := List.mem_map.mp htr
    rw [columnsRead, hempty t ht]
    show ¬(!(numbers OrdDict.empty).entries.isEmpty) = true
    decide
  show maxD ((((br.taskResults.map columnsRead).filter
    (fun tr => !tr.systemMetrics.entries.isEmpty)).map
      (fun tr => (tr.systemMetrics.get? "gpu_mem_peak_mb").getD 0)) : List ℚ) 0 = 0
  rw [hnone]
  rfl

end Runs

/-! ## The frontier of a sweep -/

section Frontier

variable {sweep : Sweep} {h : BenchmarkHarness} {results : Nat → ResultFiles.BenchmarkResult}

/-- The row of the run of a number. -/
def runRow (results : Nat → ResultFiles.BenchmarkResult) (e : (String × ℚ × Int) × Nat) :
    ResultRow :=
  rowOf e.1.1 e.1.2.1 (benchmarkResult e.1.1 e.1.2.1 ((results e.2).taskResults.map columnsRead))

/-- What a sweep adds to the analyzer. -/
theorem loopRows_call (sweep : Sweep) (h : BenchmarkHarness)
    (results : Nat → ResultFiles.BenchmarkResult) :
    loopRows (sweep.call results).outcome (runPlan h (sweep.call results)) 0 =
      (sweep.plan h).zipIdx.map (runRow results) := by
  rw [runPlan_call]
  show loopRows (fun k => .ok ((results k).taskResults.map columnsRead)) _ 0 = _
  rw [loopRows_ok, List.zipIdx_map, List.map_map]
  rfl

/-- A sweep on a new harness reports on its own rows. -/
theorem report_call [FrameSort] (hempty : h.pareto.results = []) :
    h.report (sweep.call results) = ParetoAnalyzer.generateReport
      { results := (sweep.plan h).zipIdx.map (runRow results) } := by
  have hcompletes : (sweep.call results).Completes h := fun k _ => ⟨_, rfl⟩
  rw [BenchmarkHarness.report_of_completes hcompletes, hempty, List.nil_append, loopRows_call]

variable [UnicodeTables]

theorem objectives_runRow (hends : sweep.Ends h results) {e : (String × ℚ × Int) × Nat}
    (he : e ∈ (sweep.plan h).zipIdx) :
    objectives "gpu_mem_peak_mb" "quality_score" false true (runRow results e).metrics =
      (0, (results e.2).aggregateQuality) := by
  obtain ⟨⟨policy, budget, level⟩, k⟩ := e
  have hrun := hends k policy budget level (List.mem_zipIdx_iff_getElem?.mp he)
  rw [objectives, runRow, get?_gpu_rowOf, get?_quality_rowOf, extractGpuMem_of_benchmarkRun hrun,
    aggregateQuality_columnsRead, (runTasks_of_benchmarkRun hrun).2]
  exact Prod.ext neg_zero rfl

/-- The undominated rows are those of best quality. -/
theorem map_undominated_runRows (hends : sweep.Ends h results) :
    (undominated (fun row => objectives "gpu_mem_peak_mb" "quality_score" false true row.metrics)
        ((sweep.plan h).zipIdx.map (runRow results))).map (·.policyName) =
      (best (sweep.qualities h results)).map Prod.fst := by
  have hconst : ∀ row ∈ (sweep.plan h).zipIdx.map (runRow results),
      (objectives "gpu_mem_peak_mb" "quality_score" false true row.metrics).1 = 0 := by
    intro row hrow
    obtain ⟨e, he, rfl⟩ := List.mem_map.mp hrow
    rw [objectives_runRow hends he]
  rw [undominated_of_const_fst hconst, best, qualities, List.filter_map, List.filter_map,
    List.map_map, List.map_map]
  congr 1
  apply List.filter_congr
  intro e he
  simp only [Function.comp_apply]
  rw [decide_eq_decide, List.forall_mem_map, List.forall_mem_map]
  apply forall₂_congr
  intro e' he'
  rw [objectives_runRow hends he, objectives_runRow hends he']

/-- The report of a sweep names the policies of the rows of best quality. -/
theorem exists_summary [FrameSort] (hempty : h.pareto.results = []) (hplan : sweep.plan h ≠ [])
    (hends : sweep.Ends h results) :
    ∃ s, h.report (sweep.call results) = .ok (.summary s) ∧
      s.totalResults = (sweep.plan h).length ∧
      s.paretoFrontierSize = (best (sweep.qualities h results)).length ∧
      s.paretoFrontierPolicies.Perm ((best (sweep.qualities h results)).map Prod.fst) := by
  let pa : ParetoAnalyzer := { results := (sweep.plan h).zipIdx.map (runRow results) }
  have hcomplete : ∀ row ∈ pa.results, HasMetrics "gpu_mem_peak_mb" "quality_score" row.metrics := by
    intro row hrow
    obtain ⟨e, _, rfl⟩ := List.mem_map.mp hrow
    constructor
    · rw [runRow, get?_gpu_rowOf]
      rfl
    · rw [runRow, get?_quality_rowOf]
      rfl
  have hrows : pa.results.isEmpty = false := by
    simpa [pa] using hplan
  obtain ⟨frontier, hfrontier, hperm, -⟩ := exists_frontier false true hcomplete
  have hpolicies : (frontier.map (·.policyName)).Perm
      ((best (sweep.qualities h results)).map Prod.fst) := by
    rw [← map_undominated_runRows hends]
    have hnames := hperm.map (·.policyName)
    rw [List.map_map] at hnames
    exact hnames
  refine ⟨pa.reportSummary frontier, ?_, ?_, ?_, hpolicies⟩
  · rw [report_call hempty, ParetoAnalyzer.generateReport]
    show (if pa.results.isEmpty = true then _ else _) = _
    rw [hrows, if_neg Bool.false_ne_true, hfrontier]
  · show pa.results.length = _
    rw [List.length_map, List.length_zipIdx]
  · show frontier.length = _
    have hlen := hpolicies.length_eq
    rwa [List.length_map, List.length_map] at hlen

/-- **Without memory metrics the frontier is the best quality.**

For every sweep whose runs end, on a new harness: `comparison_report` counts one
result for each policy, budget and concurrency level, and its Pareto frontier is
the results no other exceeds in quality, whatever they cost. -/
theorem sweep_frontier_is_best_quality [FrameSort] (sweep : Sweep) (h : BenchmarkHarness)
    (results : Nat → ResultFiles.BenchmarkResult) (hempty : h.pareto.results = [])
    (hplan : sweep.plan h ≠ []) (hends : sweep.Ends h results) :
    ∃ s, h.report (sweep.call results) = .ok (.summary s) ∧
      s.totalResults = (sweep.plan h).length ∧
      s.paretoFrontierSize = (best (sweep.qualities h results)).length ∧
      s.paretoFrontierPolicies.Perm ((best (sweep.qualities h results)).map Prod.fst) :=
  exists_summary hempty hplan hends

end Frontier

/-! ## The mock engine -/

section Mock

variable [UnicodeTables]

/-- The reply is what the mock engine answers to the prompt of the sample, whatever
else it is doing. -/
def AnsweredByMock (sample : Sample) (reply : CallReply) : Prop :=
  ∃ (engine : InstrumentedVLLMEngine) (steps : List EngineStep) (rid : String)
    (r : GenerationResult) (latencyMs : ℚ),
    engine.Untouched ∧ engine.vllmAvailable = false ∧
    (rid, EngineCallEnd.returned r) ∈ (run InstrumentedVLLMEngine.step engine steps).ended ∧
    (∀ prompt, InstrumentedVLLMEngine.StartsWith steps rid prompt → prompt = sample.prompt) ∧
    reply = .reply (some r.response.text) latencyMs

/-- What the mock engine says to a prompt. -/
def mockText (prompt : String) : String :=
  "[MOCK] Response to: " ++ String.ofList (prompt.toList.take 80)

omit [UnicodeTables] in
theorem AnsweredByMock.prediction {sample : Sample} {reply : CallReply}
    (h : AnsweredByMock sample reply) : reply.prediction = mockText sample.prompt := by
  obtain ⟨engine, steps, rid, r, latencyMs, huntouched, hmock, hr, hown, rfl⟩ := h
  have hresult : (InstrumentedVLLMEngine.promptFacts steps).result rid r :=
    (InstrumentedVLLMEngine.holds_promptFacts_run huntouched hmock steps).ended _ hr
  obtain ⟨prompt, start, now, hstarts, rfl⟩ := hresult
  rw [← hown prompt hstarts]
  rfl

/-- The samples of a task. -/
def samples (sweep : Sweep) (taskName : String) : List Sample :=
  (sweep.runner "" 0).loadTask sweep.dataset taskName none

/-- Every request of the sweep is answered by the mock engine. -/
def ServedByMock (sweep : Sweep) : Prop :=
  ∀ k j taskName i reply, sweep.taskNames[j]? = some taskName →
    PoolStep.leave i reply ∈ sweep.ops k j →
      ∃ sample, (sweep.samples taskName)[i]? = some sample ∧ AnsweredByMock sample reply

/-- The quality of a task answered by the mock engine. -/
def mockQuality (sweep : Sweep) (taskName : String) : ℚ :=
  if (sweep.samples taskName).isEmpty then -1
  else
    let predictions := (sweep.samples taskName).map (fun sample => mockText sample.prompt)
    match (sweep.runner "" 0).evaluator.evaluate predictions
      ((sweep.samples taskName).map (·.reference)) with
    | .ok quality => (quality.get? (primaryMetricOf taskName)).getD 0
    | .error _ => 0

/-- The quality of a run answered by the mock engine. -/
def mockAggregate (sweep : Sweep) : ℚ :=
  let scores := (sweep.taskNames.map sweep.mockQuality).filter (fun q => decide (q ≥ 0))
  if scores.isEmpty then 0 else scores.sum / scores.length

variable {sweep : Sweep}

/-- The quality of a task does not depend on the run. -/
theorem qualityScore_of_servedByMock (hserved : sweep.ServedByMock) {k j : Nat}
    {policy taskName : String} {budget : ℚ} {level : Int} {now : ℚ} {t : ResultFiles.TaskResult}
    (htask : sweep.taskNames[j]? = some taskName)
    (hend : (sweep.runner policy budget).runTaskAsync sweep.dataset taskName none level
      (sweep.ops k j) now = some (.ok t)) :
    t.qualityScore = sweep.mockQuality taskName := by
  have hload : (sweep.runner policy budget).loadTask sweep.dataset taskName none =
      sweep.samples taskName := rfl
  by_cases hempty : sweep.samples taskName = []
  · rw [mockQuality, hempty]
    rw [LongBenchClient.runTaskAsync, hload, hempty] at hend
    cases hend
    rfl
  · have hsamples : (sweep.samples taskName).isEmpty = false := by simpa using hempty
    have hsem : 0 ≤ level := by
      by_contra hneg
      rw [LongBenchClient.runTaskAsync, hload] at hend
      simp only [hsamples, if_pos (not_le.mp hneg), Bool.false_eq_true, if_false] at hend
      cases hend
    obtain ⟨replies, hlen, hleft, hpredictions, -, -, hresult⟩ :=
      LongBenchClient.exists_replies hsem hload hempty hend
    have htexts : replies.map CallReply.prediction =
        (sweep.samples taskName).map (fun sample => mockText sample.prompt) := by
      apply List.ext_getElem?
      intro i
      rw [List.getElem?_map, List.getElem?_map]
      cases hreply : replies[i]? with
      | none =>
          have hout : (sweep.samples taskName)[i]? = none := by
            rw [List.getElem?_eq_none_iff] at hreply ⊢
            omega
          rw [hout]
          rfl
      | some reply =>
          obtain ⟨sample, hsample, hanswered⟩ :=
            hserved k j taskName i reply htask (hleft i reply hreply)
          rw [hsample, Option.map_some, Option.map_some, hanswered.prediction]
    rw [LongBenchClient.evaluateRun, hpredictions, htexts] at hresult
    rw [mockQuality, hsamples]
    simp only [Bool.false_eq_true, if_false]
    cases hquality : (sweep.runner "" 0).evaluator.evaluate
      ((sweep.samples taskName).map (fun sample => mockText sample.prompt))
      ((sweep.samples taskName).map (·.reference)) with
    | error e =>
        have hraised : (sweep.runner policy budget).evaluator.evaluate
            ((sweep.samples taskName).map (fun sample => mockText sample.prompt))
            ((sweep.samples taskName).map (·.reference)) = .error e := hquality
        rw [hraised] at hresult
        cases hresult
    | ok quality =>
        have hevaluated : (sweep.runner policy budget).evaluator.evaluate
            ((sweep.samples taskName).map (fun sample => mockText sample.prompt))
            ((sweep.samples taskName).map (·.reference)) = .ok quality := hquality
        rw [hevaluated] at hresult
        cases hresult
        rfl

/-- The quality of a run does not depend on its policy, budget and concurrency. -/
theorem aggregateQuality_of_servedByMock (hserved : sweep.ServedByMock) {k : Nat}
    {policy : String} {budget : ℚ} {level : Int} {br : ResultFiles.BenchmarkResult}
    (hrun : sweep.benchmarkRun k policy budget level = some (.ok br)) :
    br.aggregateQuality = sweep.mockAggregate := by
  obtain ⟨htasks, haggregate⟩ := runTasks_of_benchmarkRun hrun
  have hall := forall_runTasks htasks
  have hnames : sweep.taskNames.map sweep.mockQuality =
      sweep.taskNames.zipIdx.map (fun e => sweep.mockQuality e.1) := by
    conv_lhs => rw [← List.zipIdx_map_fst 0 sweep.taskNames, List.map_map]
    rfl
  have hmem : ∀ e ∈ sweep.taskNames.zipIdx, sweep.taskNames[e.2]? = some e.1 :=
    fun e he => List.mem_zipIdx_iff_getElem?.mp he
  have hscores : br.taskResults.map (·.qualityScore) = sweep.taskNames.map sweep.mockQuality := by
    rw [hnames]
    generalize sweep.taskNames.zipIdx = names at hall hmem
    generalize br.taskResults = ts at hall
    induction hall with
    | nil => rfl
    | cons hend _ ih =>
        rw [List.map_cons, List.map_cons,
          qualityScore_of_servedByMock hserved (hmem _ List.mem_cons_self) hend,
          ih (fun e he => hmem e (List.mem_cons_of_mem _ he))]
  rw [haggregate, LongBenchClient.aggregateOf, hscores, mockAggregate]

/-- **Against the mock engine every run of a sweep is on the frontier.**

If every request of a sweep is answered by the mock engine, all its runs have
the same quality, and the Pareto frontier of the report consists of all of
them: the sweep cannot tell the policies, the budgets or the concurrency levels
apart. -/
theorem sweep_of_mock_engine_ties [FrameSort] (sweep : Sweep) (h : BenchmarkHarness)
    (results : Nat → ResultFiles.BenchmarkResult) (hempty : h.pareto.results = [])
    (hplan : sweep.plan h ≠ []) (hends : sweep.Ends h results) (hserved : sweep.ServedByMock) :
    (∀ i j, i < (sweep.plan h).length → j < (sweep.plan h).length →
      (results i).aggregateQuality = (results j).aggregateQuality) ∧
    ∃ s, h.report (sweep.call results) = .ok (.summary s) ∧
      s.totalResults = (sweep.plan h).length ∧
      s.paretoFrontierSize = s.totalResults ∧
      s.paretoFrontierPolicies.Perm ((sweep.plan h).map Prod.fst) := by
  have hquality : ∀ e ∈ (sweep.plan h).zipIdx,
      (results e.2).aggregateQuality = sweep.mockAggregate := by
    intro e he
    obtain ⟨⟨policy, budget, level⟩, k⟩ := e
    exact aggregateQuality_of_servedByMock hserved
      (hends k policy budget level (List.mem_zipIdx_iff_getElem?.mp he))
  have hindex : ∀ i, i < (sweep.plan h).length → ∃ e ∈ (sweep.plan h).zipIdx, e.2 = i := by
    intro i hi
    exact ⟨((sweep.plan h)[i], i), List.mem_zipIdx_iff_getElem?.mpr (List.getElem?_eq_getElem hi),
      rfl⟩
  have hbest : best (sweep.qualities h results) = sweep.qualities h results := by
    rw [best, List.filter_eq_self]
    intro q hq
    rw [decide_eq_true_eq]
    intro q' hq'
    obtain ⟨e, he, rfl⟩ := List.mem_map.mp hq
    obtain ⟨e', he', rfl⟩ := List.mem_map.mp hq'
    exact le_of_eq ((hquality e' he').trans (hquality e he).symm)
  constructor
  · intro i j hi hj
    obtain ⟨e, he, rfl⟩ := hindex i hi
    obtain ⟨e', he', rfl⟩ := hindex j hj
    exact (hquality e he).trans (hquality e' he').symm
  · obtain ⟨s, hs, htotal, hsize, hpolicies⟩ := exists_summary hempty hplan hends
    rw [hbest] at hsize hpolicies
    refine ⟨s, hs, htotal, ?_, ?_⟩
    · rw [hsize, htotal, qualities, List.length_map, List.length_zipIdx]
    · rw [qualities, List.map_map] at hpolicies
      have hfst : (sweep.plan h).zipIdx.map
          (Prod.fst ∘ fun e => (e.1.1, (results e.2).aggregateQuality)) =
            (sweep.plan h).map Prod.fst := by
        conv_rhs => rw [← List.zipIdx_map_fst 0 (sweep.plan h), List.map_map]
        rfl
      rwa [hfst] at hpolicies

end Mock

/-! ## Two policies on one mock engine -/

/-- One call of the mock engine. -/
def oneMockCall (prompt : String) : List EngineStep :=
  [.start (.generate prompt) (some "r1") "u1" 0 none none, .resume "r1" (1 / 100)]

theorem answeredByMock_oneMockCall (sample : Sample) (latencyMs : ℚ) :
    AnsweredByMock sample (.reply (some (mockText sample.prompt)) latencyMs) := by
  refine ⟨{ vllmAvailable := false }, oneMockCall sample.prompt, "r1",
    mockResult "r1" sample.prompt 0 (1 / 100), latencyMs, ⟨rfl, rfl⟩, rfl, ?_, ?_, rfl⟩
  · exact List.mem_singleton_self _
  · intro prompt hstarts
    obtain ⟨a, ha, -, requestId, uuid, now, initError, paramsError, rfl⟩ := hstarts
    rcases List.mem_cons.mp ha with hstart | hresume
    · cases hstart
      rfl
    · cases List.mem_singleton.mp hresume

/-- The prompt of the only sample of `pairSweep`. -/
def syntheticPrompt : String := "This is a synthetic trec prompt 0. Answer the question."

/-- Two policies on one made-up sample of one task. -/
def pairSweep : Sweep where
  experimentName := "pair"
  policies := ["full_cache", "hybrid"]
  memoryBudgets := [1]
  tasks := ["trec"]
  dataset _ := .error (.other "offline")
  maxSamples := 1
  ops _ _ := [.enter 0, .leave 0 (.reply (some (mockText syntheticPrompt)) 10)]

/-- What the two runs end with. -/
def pairResults (k : Nat) : ResultFiles.BenchmarkResult :=
  let policy := if k = 0 then "full_cache" else "hybrid"
  match @benchmarkRun asciiTables pairSweep k policy 1 1 with
  | some (.ok br) => br
  | _ => { policyName := policy, memoryBudget := 1, timestamp := 0 }

theorem ends_pairSweep :
    @Ends asciiTables pairSweep (BenchmarkHarness.init [1]) pairResults := by
  intro k policy budget level hrun
  have hplan : pairSweep.plan (BenchmarkHarness.init [1]) =
      [("full_cache", 1, 1), ("hybrid", 1, 1)] := rfl
  rw [hplan] at hrun
  rcases k with _ | _ | k
  · cases hrun
    rfl
  · cases hrun
    rfl
  · cases hrun

theorem servedByMock_pairSweep : ServedByMock pairSweep := by
  intro k j taskName i reply htask hleave
  have hnames : pairSweep.taskNames = ["trec"] := rfl
  rw [hnames] at htask
  rcases j with _ | j
  · cases htask
    have hops : pairSweep.ops k 0 =
        [.enter 0, .leave 0 (.reply (some (mockText syntheticPrompt)) 10)] := rfl
    rw [hops] at hleave
    rcases List.mem_cons.mp hleave with henter | hlast
    · cases henter
    · cases List.mem_singleton.mp hlast
      exact ⟨_, rfl, answeredByMock_oneMockCall _ 10⟩
  · cases htask

theorem sweep_frontier_is_best_quality_pair :
    ∃ s, @BenchmarkHarness.report stableFrameSort (BenchmarkHarness.init [1])
        (pairSweep.call pairResults) = .ok (.summary s) ∧
      s.totalResults = 2 ∧
      s.paretoFrontierSize =
        (best (pairSweep.qualities (BenchmarkHarness.init [1]) pairResults)).length ∧
      s.paretoFrontierPolicies.Perm
        ((best (pairSweep.qualities (BenchmarkHarness.init [1]) pairResults)).map Prod.fst) :=
  @sweep_frontier_is_best_quality asciiTables stableFrameSort pairSweep
    (BenchmarkHarness.init [1]) pairResults rfl (List.cons_ne_nil _ _) ends_pairSweep

theorem sweep_of_mock_engine_ties_pair :
    (pairResults 0).aggregateQuality = (pairResults 1).aggregateQuality ∧
    ∃ s, @BenchmarkHarness.report stableFrameSort (BenchmarkHarness.init [1])
        (pairSweep.call pairResults) = .ok (.summary s) ∧
      s.paretoFrontierSize = 2 ∧ s.paretoFrontierPolicies.Perm ["full_cache", "hybrid"] := by
  obtain ⟨hsame, s, hs, htotal, hsize, hpolicies⟩ :=
    @sweep_of_mock_engine_ties asciiTables stableFrameSort pairSweep (BenchmarkHarness.init [1])
      pairResults rfl (List.cons_ne_nil _ _) ends_pairSweep servedByMock_pairSweep
  exact ⟨hsame 0 1 (by decide) (by decide), s, hs, hsize.trans htotal, hpolicies⟩

end Sweep

end KVOrchestrator.Ports
