import KVOrchestrator.Ports.ThroughputCounters
import KVOrchestrator.Ports.StressTests

/-!
# What the reports say of a distribution

Three reports of the repository describe a list of numbers by percentiles: the
summary of the system metrics (`src/evaluators/system_metrics.py`), the result
of a stress test (`src/benchmarks/stress_tests.py`), and the bootstrap interval
of a mean (`src/evaluators/pareto.py`).  Each takes percentiles of its own at
its own places and rounds them or not.  That they are in order, and within the
values described, rests on the order of interpolated percentiles alone
(`percentile_mono`, `le_percentile`, `percentile_le`).
-/

namespace KVOrchestrator.Ports

open KVOrchestrator.Verified

/-! ## Latencies -/

/-- Three reported percentiles are in order, and within bounds of the values. -/
structure PercentilesWithin (p50 p95 p99 lo hi : ℚ) : Prop where
  lower : lo ≤ p50
  low : p50 ≤ p95
  high : p95 ≤ p99
  upper : p99 ≤ hi

theorem percentilesWithin {xs : List ℚ} (hxs : xs ≠ []) {lo hi : ℚ}
    (hlo : ∀ x ∈ xs, lo ≤ x) (hhi : ∀ x ∈ xs, x ≤ hi) :
    PercentilesWithin (percentile xs 50) (percentile xs 95) (percentile xs 99) lo hi where
  lower := le_percentile hxs (by norm_num) (by norm_num) hlo
  low := percentile_mono hxs (by norm_num) (by norm_num) (by norm_num)
  high := percentile_mono hxs (by norm_num) (by norm_num) (by norm_num)
  upper := percentile_le hxs (by norm_num) hhi

/-- Rounding keeps the order. -/
theorem PercentilesWithin.round {p50 p95 p99 lo hi : ℚ}
    (h : PercentilesWithin p50 p95 p99 lo hi) (digits : Nat) :
    PercentilesWithin (pyRound p50 digits) (pyRound p95 digits) (pyRound p99 digits)
      (pyRound lo digits) (pyRound hi digits) where
  lower := pyRound_mono h.lower digits
  low := pyRound_mono h.low digits
  high := pyRound_mono h.high digits
  upper := pyRound_mono h.upper digits

/-- The latencies in the window are latencies of calls. -/
theorem SystemMetricsCollector.window_subset (calls : List RequestCall) :
    (run SystemMetricsCollector.recordRequest {} calls).latency.window ⊆
      calls.map (·.latencyMs) := by
  rw [(holdsEnd_run calls).latencies]
  exact List.drop_subset _ _

theorem SystemMetricsCollector.window_ne_nil {calls : List RequestCall} (hcalls : calls ≠ []) :
    (run SystemMetricsCollector.recordRequest {} calls).latency.window ≠ [] := by
  have hpos := List.length_pos_iff.mpr hcalls
  rw [(holdsEnd_run calls).latencies, ← List.length_pos_iff, List.length_drop, List.length_map]
  omega

/-- As long as nothing is dropped the window holds the latencies of all
calls. -/
theorem SystemMetricsCollector.window_eq {calls : List RequestCall}
    (hlen : calls.length ≤ 10000) :
    (run SystemMetricsCollector.recordRequest {} calls).latency.window =
      calls.map (·.latencyMs) := by
  have hzero : (calls.map (·.latencyMs)).length - 10000 = 0 := by
    rw [List.length_map]
    omega
  rw [(holdsEnd_run calls).latencies, hzero, List.drop_zero]

theorem LatencyTracker.percentile_eq {t : LatencyTracker} (h : t.window ≠ []) (p : ℚ) :
    t.percentile p = KVOrchestrator.Verified.percentile t.window p := by
  rw [LatencyTracker.percentile, if_neg (by simpa using h)]

theorem StressTestResult.finalise_percentiles {result : StressTestResult}
    (h : result.latenciesMs ≠ []) :
    result.finalise.p50Ms = percentile result.latenciesMs 50 ∧
      result.finalise.p95Ms = percentile result.latenciesMs 95 ∧
      result.finalise.p99Ms = percentile result.latenciesMs 99 := by
  have hne : result.latenciesMs.isEmpty = false := by simpa using h
  unfold StressTestResult.finalise
  simp only [hne, Bool.false_eq_true, if_false]
  split_ifs <;> exact ⟨rfl, rfl, rfl⟩

/-- **Latency reports are in order.**

After any run of requests and at any time, the three percentiles of
`get_summary` ascend and lie, up to the rounding, between any bounds of the
latencies recorded so far; as long as the window has dropped nothing they are
the same for the requests in any other order.  The percentiles a stress test
reports ascend and lie between the bounds of its latencies. -/
theorem latency_reports_ordered (calls : List RequestCall) (hcalls : calls ≠ [])
    (now windowS : ℚ) (gpuMemory : ℚ × ℚ) (result : StressTestResult)
    (hresult : result.latenciesMs ≠ []) :
    let summary := (run SystemMetricsCollector.recordRequest {} calls).getSummary now gpuMemory
      windowS
    (∀ lo hi, (∀ call ∈ calls, lo ≤ call.latencyMs) → (∀ call ∈ calls, call.latencyMs ≤ hi) →
      PercentilesWithin summary.p50LatencyMs summary.p95LatencyMs summary.p99LatencyMs
        (pyRound lo 2) (pyRound hi 2)) ∧
    (∀ calls', calls.Perm calls' → calls.length ≤ 10000 →
      let summary' := (run SystemMetricsCollector.recordRequest {} calls').getSummary now
        gpuMemory windowS
      summary'.p50LatencyMs = summary.p50LatencyMs ∧
        summary'.p95LatencyMs = summary.p95LatencyMs ∧
        summary'.p99LatencyMs = summary.p99LatencyMs) ∧
    (∀ lo hi, (∀ x ∈ result.latenciesMs, lo ≤ x) → (∀ x ∈ result.latenciesMs, x ≤ hi) →
      PercentilesWithin result.finalise.p50Ms result.finalise.p95Ms result.finalise.p99Ms
        lo hi) := by
  intro summary
  have hwindow := SystemMetricsCollector.window_ne_nil hcalls
  refine ⟨?_, ?_, ?_⟩
  · intro lo hi hlo hhi
    have hmem : ∀ x ∈ (run SystemMetricsCollector.recordRequest {} calls).latency.window,
        lo ≤ x ∧ x ≤ hi := by
      intro x hx
      obtain ⟨call, hcall, rfl⟩ :=
        List.mem_map.mp (SystemMetricsCollector.window_subset calls hx)
      exact ⟨hlo call hcall, hhi call hcall⟩
    have hwithin := percentilesWithin hwindow (fun x hx => (hmem x hx).1)
      (fun x hx => (hmem x hx).2)
    rw [← LatencyTracker.percentile_eq hwindow, ← LatencyTracker.percentile_eq hwindow,
      ← LatencyTracker.percentile_eq hwindow] at hwithin
    exact hwithin.round 2
  · intro calls' hperm hlen
    have hcalls' : calls' ≠ [] := by
      intro hnil
      rw [hnil] at hperm
      exact hcalls hperm.eq_nil
    have hsame : ∀ p, (run SystemMetricsCollector.recordRequest {} calls').latency.percentile p =
        (run SystemMetricsCollector.recordRequest {} calls).latency.percentile p := by
      intro p
      rw [LatencyTracker.percentile_eq hwindow,
        LatencyTracker.percentile_eq (SystemMetricsCollector.window_ne_nil hcalls'),
        SystemMetricsCollector.window_eq hlen,
        SystemMetricsCollector.window_eq (hperm.length_eq ▸ hlen)]
      exact percentile_perm (hperm.symm.map _) p
    refine ⟨?_, ?_, ?_⟩
    · exact congrArg (pyRound · 2) (hsame 50)
    · exact congrArg (pyRound · 2) (hsame 95)
    · exact congrArg (pyRound · 2) (hsame 99)
  · intro lo hi hlo hhi
    obtain ⟨h50, h95, h99⟩ := StressTestResult.finalise_percentiles hresult
    rw [h50, h95, h99]
    exact percentilesWithin hresult hlo hhi

/-- A call of some latency. -/
def latencyCall (latencyMs : ℚ) : RequestCall where
  requestId := "r"
  latencyMs := latencyMs
  ttftMs := 1
  tpotMs := 1
  tokensGenerated := 8
  now := 0

/-- A stress test with two latencies. -/
def twoLatencies : StressTestResult where
  testName := "bursty"
  policyName := "hybrid"
  config := []
  latenciesMs := [30, 10]

theorem latency_reports_ordered_two :
    let summary := (run SystemMetricsCollector.recordRequest {}
      [latencyCall 30, latencyCall 10]).getSummary 0 (0, 0) 60
    PercentilesWithin summary.p50LatencyMs summary.p95LatencyMs summary.p99LatencyMs
        (pyRound 10 2) (pyRound 30 2) ∧
      PercentilesWithin twoLatencies.finalise.p50Ms twoLatencies.finalise.p95Ms
        twoLatencies.finalise.p99Ms 10 30 := by
  intro summary
  obtain ⟨hsummary, _, hresult⟩ := latency_reports_ordered [latencyCall 30, latencyCall 10]
    (by simp) 0 60 (0, 0) twoLatencies (by simp [twoLatencies])
  constructor
  · apply hsummary 10 30
    · norm_num [latencyCall]
    · norm_num [latencyCall]
  · apply hresult 10 30
    · norm_num [twoLatencies]
    · norm_num [twoLatencies]

/-! ## Bootstrap intervals -/

/-- `rng.choice(arr, size=len(arr), replace=True)`: an entry for each place. -/
abbrev Resample (values : List ℚ) : Type := Fin values.length → Fin values.length

/-- The mean of a resample. -/
def resampleMean (values : List ℚ) (draw : Resample values) : ℚ :=
  let sample := List.ofFn fun i => values.get (draw i)
  sample.sum / sample.length

/-- `bootstrap_ci`: percentiles of the means of the resamples. -/
def bootstrapCi (values : List ℚ) (draws : List (Resample values)) (ci : ℚ := 95 / 100) : ℚ × ℚ :=
  let bootMeans := draws.map (resampleMean values)
  let alpha := 1 - ci
  let lo := percentile bootMeans (100 * alpha / 2)
  let hi := percentile bootMeans (100 * (1 - alpha / 2))
  (lo, hi)

/-- The mean of a resample lies where the values lie. -/
theorem resampleMean_mem {values : List ℚ} (hvalues : values ≠ []) (draw : Resample values)
    {lo hi : ℚ} (hlo : ∀ x ∈ values, lo ≤ x) (hhi : ∀ x ∈ values, x ≤ hi) :
    lo ≤ resampleMean values draw ∧ resampleMean values draw ≤ hi := by
  have hsample : ∀ x ∈ List.ofFn (fun i => values.get (draw i)), x ∈ values := by
    intro x hx
    obtain ⟨i, rfl⟩ := List.mem_ofFn.mp hx
    exact List.get_mem values (draw i)
  have hne : List.ofFn (fun i => values.get (draw i)) ≠ [] := by
    rw [← List.length_pos_iff, List.length_ofFn]
    exact List.length_pos_iff.mpr hvalues
  exact ⟨le_mean hne fun x hx => hlo x (hsample x hx),
    mean_le hne fun x hx => hhi x (hsample x hx)⟩

end KVOrchestrator.Ports
