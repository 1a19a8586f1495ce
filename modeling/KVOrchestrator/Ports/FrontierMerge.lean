import KVOrchestrator.Ports.Pareto

/-!
# Frontiers in parts

Results come in one by one, from several sweeps.  The frontier of all of them is
that of the frontiers of the sweeps (`frontier_of_parts`), so a sweep's dominated
results can be thrown away.  And `is_dominated`, asked of the frontier so far,
decides what a further result does to it: nothing, or it takes the place of the
points it dominates (`frontier_after_add_result`).
-/

namespace KVOrchestrator.Ports

open KVOrchestrator.Verified

section Merge

variable {x y : String} (hx hy : Bool)

theorem restrict_restrict {row : ResultRow} (h : HasMetrics x y row.metrics) :
    (row.restrict x y).restrict x y = row.restrict x y := by
  rw [ResultRow.restrict, get?_x_restrict h, get?_y_restrict h]
  rfl

/-- Cutting complete rows down to the two metrics leaves their order. -/
theorem undominated_map_restrict {rows : List ResultRow}
    (hrows : ∀ row ∈ rows, HasMetrics x y row.metrics) :
    undominated (fun row => objectives x y hx hy row.metrics) (rows.map (·.restrict x y)) =
      (undominated (fun row => objectives x y hx hy row.metrics) rows).map (·.restrict x y) := by
  rw [undominated_map]
  congr 1
  apply undominated_congr
  intro row hrow
  exact objectives_restrict hx hy (hrows row hrow)

/-- The frontier of rows that are, in some order, complete rows cut down. -/
theorem frontier_of_restricted [FrameSort] {rows rows' : List ResultRow}
    (hrows : ∀ row ∈ rows, HasMetrics x y row.metrics)
    (hperm : rows'.Perm (rows.map (·.restrict x y))) :
    ∃ frontier, ParetoAnalyzer.computeParetoFrontier { results := rows' } x y hx hy =
        .ok frontier ∧
      frontier.Perm ((undominated (fun row => objectives x y hx hy row.metrics) rows).map
        (·.restrict x y)) := by
  have hcomplete : ∀ row ∈ rows', HasMetrics x y row.metrics := by
    intro row hrow
    obtain ⟨row', hrow', rfl⟩ := List.mem_map.mp (hperm.mem_iff.mp hrow)
    exact hasMetrics_restrict (hrows row' hrow')
  obtain ⟨frontier, hfrontier, hpoints, -⟩ :=
    @exists_frontier { results := rows' } x y hx hy hcomplete _
  refine ⟨frontier, hfrontier, hpoints.trans ?_⟩
  have hundominated :
      (undominated (fun row => objectives x y hx hy row.metrics) rows').Perm
        (undominated (fun row => objectives x y hx hy row.metrics)
          (rows.map (·.restrict x y))) := undominated_perm hperm
  replace hundominated := hundominated.map (·.restrict x y)
  rw [undominated_map_restrict hx hy hrows, List.map_map] at hundominated
  refine hundominated.trans ?_
  rw [List.map_congr_left]
  intro row hrow
  exact restrict_restrict (hrows row (mem_undominated_iff.mp hrow).1)

/-- Complete results may be cut into parts, each of them reduced to its frontier,
and the frontiers put together again: the frontier of what is left has the points
of the frontier of all results. -/
theorem frontier_of_parts [FrameSort] (parts : List ParetoAnalyzer)
    (hcomplete : ∀ pa ∈ parts, ∀ row ∈ pa.results, HasMetrics x y row.metrics) :
    ∃ fronts whole merged,
      parts.mapM (fun pa => pa.computeParetoFrontier x y hx hy) = .ok fronts ∧
      ParetoAnalyzer.computeParetoFrontier { results := parts.flatMap (·.results) } x y hx hy =
        .ok whole ∧
      ParetoAnalyzer.computeParetoFrontier { results := fronts.flatten } x y hx hy =
        .ok merged ∧
      merged.Perm whole := by
  let front := fun pa : ParetoAnalyzer =>
    (pa.computeParetoFrontier x y hx hy).toOption.getD []
  have hfront : ∀ pa ∈ parts, pa.computeParetoFrontier x y hx hy = .ok (front pa) ∧
      (front pa).Perm ((pa.undominatedResults x y hx hy).map (·.restrict x y)) := by
    intro pa hpa
    obtain ⟨frontier, hfrontier, hperm, -⟩ := exists_frontier hx hy (hcomplete pa hpa)
    have hsame : front pa = frontier := by
      simp only [front, hfrontier]
      rfl
    rw [hsame]
    exact ⟨hfrontier, hperm⟩
  have hall : ∀ row ∈ parts.flatMap (·.results), HasMetrics x y row.metrics := by
    intro row hrow
    obtain ⟨pa, hpa, hrow⟩ := List.mem_flatMap.mp hrow
    exact hcomplete pa hpa row hrow
  have hkept : ∀ row ∈ parts.flatMap (fun pa => pa.undominatedResults x y hx hy),
      HasMetrics x y row.metrics := by
    intro row hrow
    obtain ⟨pa, hpa, hrow⟩ := List.mem_flatMap.mp hrow
    exact hcomplete pa hpa row (mem_undominated_iff.mp hrow).1
  have hfronts : ((parts.map front).flatten).Perm
      ((parts.flatMap (fun pa => pa.undominatedResults x y hx hy)).map (·.restrict x y)) := by
    rw [← List.flatMap_def, List.map_flatMap]
    exact List.Perm.flatMap_left parts (fun pa hpa => (hfront pa hpa).2)
  obtain ⟨whole, hwhole, hwholePerm, -⟩ :=
    @exists_frontier { results := parts.flatMap (·.results) } x y hx hy hall _
  obtain ⟨merged, hmerged, hmergedPerm⟩ := frontier_of_restricted hx hy hkept hfronts
  refine ⟨parts.map front, whole, merged, mapM_ok (fun pa hpa => (hfront pa hpa).1), hwhole,
    hmerged, hmergedPerm.trans ?_⟩
  have hparts := undominated_flatMap (fun row : ResultRow => objectives x y hx hy row.metrics)
    (parts.map (·.results))
  rw [List.flatMap_map, ← List.flatMap_def] at hparts
  refine .trans (.of_eq ?_) hwholePerm.symm
  exact congrArg (List.map (·.restrict x y)) hparts

end Merge

/-- The results of a second sweep: one policy better than all of the first, and
one worse. -/
private def secondSweep : ParetoAnalyzer :=
  (({} : ParetoAnalyzer).addResult "policy_d" (1 / 2) 8192 (9 / 10) 200 2000).addResult
    "policy_e" (1 / 2) 8192 (1 / 2) 200 9000

theorem frontier_of_parts_two_sweeps :
    letI : FrameSort := stableFrameSort
    ∃ fronts whole merged,
      [threePolicies, secondSweep].mapM (fun pa => pa.computeParetoFrontier) = .ok fronts ∧
      ParetoAnalyzer.computeParetoFrontier
        { results := [threePolicies, secondSweep].flatMap (·.results) } = .ok whole ∧
      ParetoAnalyzer.computeParetoFrontier { results := fronts.flatten } = .ok merged ∧
      merged.Perm whole ∧ whole.map (·.policyName) = ["policy_d"] := by
  let _ : FrameSort := stableFrameSort
  obtain ⟨fronts, whole, merged, hfronts, hwhole, hmerged, hperm⟩ :=
    @frontier_of_parts "gpu_mem_peak_mb" "quality_score" false true _
      [threePolicies, secondSweep] (by decide +kernel)
  have hnames : ((ParetoAnalyzer.computeParetoFrontier
      { results := [threePolicies, secondSweep].flatMap (·.results) }).toOption.map
        (fun rows => rows.map (·.policyName))) = some ["policy_d"] := by
    decide +kernel
  rw [hwhole] at hnames
  exact ⟨fronts, whole, merged, hfronts, hwhole, hmerged, hperm, Option.some.inj hnames⟩

section AddResult

variable {x y : String} (hx hy : Bool)

/-- `is_dominated` on the frontier so far decides what a further result does to it:
a dominated result leaves its points, any other joins them and drops those it
dominates. -/
theorem frontier_after_add_result [FrameSort] (pa : ParetoAnalyzer) (policyName : String)
    (memoryBudget : ℚ) (contextLength : Int) (qualityScore p95LatencyMs gpuMemPeakMb : ℚ)
    (kwargs : OrdDict String ℚ)
    (hcomplete : ∀ row ∈ (pa.addResult policyName memoryBudget contextLength qualityScore
      p95LatencyMs gpuMemPeakMb kwargs).results, HasMetrics x y row.metrics) :
    ∃ row frontier frontier' dominated,
      (pa.addResult policyName memoryBudget contextLength qualityScore p95LatencyMs
        gpuMemPeakMb kwargs).results = pa.results ++ [row] ∧
      pa.computeParetoFrontier x y hx hy = .ok frontier ∧
      (pa.addResult policyName memoryBudget contextLength qualityScore p95LatencyMs
        gpuMemPeakMb kwargs).computeParetoFrontier x y hx hy = .ok frontier' ∧
      ParetoAnalyzer.isDominated row.metrics (frontier.map (·.metrics)) x y hx hy =
        .ok dominated ∧
      (dominated = true → frontier'.Perm frontier) ∧
      (dominated = false → frontier'.Perm (row.restrict x y :: frontier.filter (fun f =>
        (ParetoAnalyzer.isDominated f.metrics [row.metrics] x y hx hy).toOption = some false))) := by
  generalize hpa' : pa.addResult policyName memoryBudget contextLength qualityScore p95LatencyMs
    gpuMemPeakMb kwargs = pa' at hcomplete ⊢
  obtain ⟨row, hrow⟩ : ∃ row, pa'.results = pa.results ++ [row] := ⟨_, by rw [← hpa']; rfl⟩
  have hold : ∀ r ∈ pa.results, HasMetrics x y r.metrics := by
    intro r hr
    exact hcomplete r (by rw [hrow]; exact List.mem_append_left _ hr)
  have hnew : HasMetrics x y row.metrics :=
    hcomplete row (by rw [hrow]; exact List.mem_append_right _ List.mem_cons_self)
  obtain ⟨frontier, hfrontier, hperm, -⟩ := exists_frontier hx hy hold
  obtain ⟨frontier', hfrontier', hperm', -⟩ := exists_frontier hx hy hcomplete
  have hmetrics : ∀ f ∈ frontier, HasMetrics x y f.metrics := by
    intro f hf
    obtain ⟨-, -, hf', -⟩ := exists_result_of_mem hx hy hold hperm hf
    exact hf'
  have hdominated := isDominated_eq hx hy hnew (List.forall_mem_map.mpr hmetrics)
  have hgreater := exists_frontier_gt_iff hx hy hold hperm (objectives x y hx hy row.metrics)
  refine ⟨row, frontier, frontier', _, hrow, hfrontier, hfrontier', hdominated, ?_, ?_⟩
  · intro hyes
    rw [decide_eq_true_iff] at hyes
    simp only [List.mem_map, exists_exists_and_eq_and] at hyes
    rw [ParetoAnalyzer.undominatedResults, hrow, undominated_concat_of_gt (hgreater.mp hyes)]
      at hperm'
    exact hperm'.trans hperm.symm
  · intro hno
    rw [decide_eq_false_iff_not] at hno
    simp only [List.mem_map, exists_exists_and_eq_and] at hno
    have hkeep : ∀ f ∈ frontier,
        decide ((ParetoAnalyzer.isDominated f.metrics [row.metrics] x y hx hy).toOption =
          some false) =
        decide (¬objectives x y hx hy f.metrics < objectives x y hx hy row.metrics) := by
      intro f hf
      rw [isDominated_eq hx hy (hmetrics f hf) (List.forall_mem_singleton.mpr hnew)]
      simp [Except.toOption]
    rw [ParetoAnalyzer.undominatedResults, hrow,
      undominated_concat_of_not_gt (mt hgreater.mpr hno), List.map_append] at hperm'
    refine hperm'.trans (.trans List.perm_append_comm ?_)
    rw [List.map_singleton, List.singleton_append, List.filter_congr hkeep]
    refine List.Perm.cons _ ?_
    refine .trans ?_ (hperm.filter _).symm
    rw [List.filter_map]
    refine .of_eq (congrArg (List.map (fun r : ResultRow => r.restrict x y)) ?_)
    apply List.filter_congr
    intro r hr
    have hcut := objectives_restrict hx hy (hold r (mem_undominated_iff.mp hr).1)
    rw [Function.comp_apply, hcut]

end AddResult

theorem frontier_after_add_result_worse :
    letI : FrameSort := stableFrameSort
    ∃ frontier frontier',
      threePolicies.computeParetoFrontier = .ok frontier ∧
      (threePolicies.addResult "policy_d" (1 / 2) 8192 (1 / 2) 200 5000).computeParetoFrontier =
        .ok frontier' ∧
      frontier'.Perm frontier := by
  let _ : FrameSort := stableFrameSort
  obtain ⟨row, frontier, frontier', dominated, hrow, hfrontier, hfrontier', -, hyes, hno⟩ :=
    @frontier_after_add_result "gpu_mem_peak_mb" "quality_score" false true _ threePolicies
      "policy_d" (1 / 2) 8192 (1 / 2) 200 5000 .empty (by decide +kernel)
  refine ⟨frontier, frontier', hfrontier, hfrontier', ?_⟩
  cases dominated with
  | true => exact hyes rfl
  | false =>
      have hnames : ((threePolicies.addResult "policy_d" (1 / 2) 8192 (1 / 2) 200
          5000).computeParetoFrontier.toOption.map (fun rows => rows.map (·.policyName))) =
            some ["policy_c", "policy_a"] := by
        decide +kernel
      rw [hfrontier'] at hnames
      have hnames' : frontier'.map (·.policyName) = ["policy_c", "policy_a"] :=
        Option.some.inj hnames
      have hmem := (hno rfl).mem_iff.mpr List.mem_cons_self
      have hname : row.policyName ∈ frontier'.map (·.policyName) :=
        List.mem_map.mpr ⟨_, hmem, rfl⟩
      have hlast := congrArg (fun rows => rows.getLast?.map (·.policyName)) hrow
      simp only [List.getLast?_concat, Option.map_some] at hlast
      have hpolicy : row.policyName = "policy_d" := (Option.some.inj hlast).symm
      rw [hnames', hpolicy] at hname
      exact absurd hname (by decide)

end KVOrchestrator.Ports
