import KVOrchestrator.Verified.Builtins
import KVOrchestrator.Verified.Dominance
import KVOrchestrator.Verified.OrdDict
import KVOrchestrator.Verified.Ranking
import Mathlib.Algebra.Order.Ring.Rat

/-!
# Pareto frontiers (`src/evaluators/pareto.py`)

Results are rows of a frame: a policy name and numeric columns.  The frontier
of two metrics drops the rows that lack one of them, keeps the rows no other
row dominates and orders them by the first metric.  Dominance is tested by two
loops, over the rows of the frame and over the rows of a frontier; both are the
strict order of pairs of objectives, each turned so that more is better
(`dominates_eq`, `isDominated_eq`).
-/

namespace KVOrchestrator.Ports

open KVOrchestrator.Verified

/-- One row of the results frame, or of a frontier. -/
structure ResultRow where
  policyName : String
  metrics : OrdDict String ℚ
  deriving DecidableEq

structure ParetoAnalyzer where
  results : List ResultRow := []
  deriving DecidableEq

/-- `DataFrame.sort_values`: ascending, rows of one value in any order. -/
class FrameSort where
  sortValues : String → List ResultRow → List ResultRow
  sortValues_perm : ∀ column rows, (sortValues column rows).Perm rows
  sortValues_ascending : ∀ column rows, (sortValues column rows).Pairwise (fun a b =>
    ∀ v w, a.metrics.get? column = some v → b.metrics.get? column = some w → v ≤ w)

/-- `point[metric]` -/
def getItem (point : OrdDict String ℚ) (metric : String) : Except PyError ℚ :=
  match point.get? metric with
  | some value => .ok value
  | none => .error (.other s!"KeyError: {metric}")

/-- `value if higher_is_better else -value` -/
def oriented (higherIsBetter : Bool) (value : ℚ) : ℚ :=
  if higherIsBetter then value else -value

/-- `df[[x_metric, y_metric, "policy_name"]].dropna()` on one row. -/
def ResultRow.select (row : ResultRow) (xMetric yMetric : String) : Option ResultRow := do
  let x ← row.metrics.get? xMetric
  let y ← row.metrics.get? yMetric
  return { row with metrics := (OrdDict.empty.set xMetric x).set yMetric y }

namespace ParetoAnalyzer

/-- Add a single benchmark result point. -/
def addResult (pa : ParetoAnalyzer) (policyName : String) (memoryBudget : ℚ)
    (contextLength : Int) (qualityScore p95LatencyMs gpuMemPeakMb : ℚ)
    (kwargs : OrdDict String ℚ := .empty) : ParetoAnalyzer :=
  let fields : OrdDict String ℚ :=
    ((((OrdDict.empty.set "memory_budget" memoryBudget).set
      "context_length" contextLength).set
      "quality_score" qualityScore).set
      "p95_latency_ms" p95LatencyMs).set
      "gpu_mem_peak_mb" gpuMemPeakMb
  { results := pa.results ++ [
      { policyName
        metrics := kwargs.entries.foldl (fun d e => d.set e.1 e.2) fields }] }

/-- The inner `dominates` of `compute_pareto_frontier`. -/
def dominates (xMetric yMetric : String) (higherIsBetterX higherIsBetterY : Bool)
    (a b : OrdDict String ℚ) : Except PyError Bool := do
  let xa ← getItem a xMetric
  let ya ← getItem a yMetric
  let xb ← getItem b xMetric
  let yb ← getItem b yMetric
  -- convert to maximisation
  let ax := oriented higherIsBetterX xa
  let bx := oriented higherIsBetterX xb
  let ay := oriented higherIsBetterY ya
  let by' := oriented higherIsBetterY yb
  return decide ((ax ≥ bx ∧ ay ≥ by') ∧ (ax > bx ∨ ay > by'))

/-- The loop that collects the frontier.  `q is not p` compares objects, which
is to compare positions. -/
def frontierLoop (dominates : ResultRow → ResultRow → Except PyError Bool)
    (points : List (ResultRow × Nat)) :
    List (ResultRow × Nat) → List ResultRow → Except PyError (List ResultRow)
  | [], frontier => .ok frontier
  | (p, i) :: rest, frontier => do
      let dominated ← (points.filter (fun q => decide (q.2 ≠ i))).anyM (fun q => dominates q.1 p)
      frontierLoop dominates points rest (if dominated then frontier else frontier ++ [p])

/-- Return the non-dominated set of points. -/
def computeParetoFrontier [FrameSort] (pa : ParetoAnalyzer)
    (xMetric : String := "gpu_mem_peak_mb") (yMetric : String := "quality_score")
    (higherIsBetterX : Bool := false) (higherIsBetterY : Bool := true) :
    Except PyError (List ResultRow) := do
  let df := pa.results
  if df.isEmpty then .ok df
  else
    -- a metric no row has is not a column of the frame
    if df.all (fun row => (row.metrics.get? xMetric).isNone) then
      .error (.other s!"KeyError: {xMetric}")
    else if df.all (fun row => (row.metrics.get? yMetric).isNone) then
      .error (.other s!"KeyError: {yMetric}")
    else
      let points := (df.filterMap (fun row => row.select xMetric yMetric)).zipIdx
      let frontier ← frontierLoop
        (fun q p => dominates xMetric yMetric higherIsBetterX higherIsBetterY q.metrics p.metrics)
        points points []
      -- a frame without rows has no column to sort by
      if frontier.isEmpty then .error (.other s!"KeyError: {xMetric}")
      else .ok (FrameSort.sortValues xMetric frontier)

/-- Check whether `point` is dominated by any point in `frontier`. -/
def isDominated (point : OrdDict String ℚ) (frontier : List (OrdDict String ℚ))
    (xMetric yMetric : String) (higherIsBetterX : Bool := false)
    (higherIsBetterY : Bool := true) : Except PyError Bool :=
  match frontier with
  | [] => .ok false
  | f :: rest => do
      let xf ← getItem f xMetric
      let xp ← getItem point xMetric
      let yf ← getItem f yMetric
      let yp ← getItem point yMetric
      let ax := oriented higherIsBetterX xf
      let bx := oriented higherIsBetterX xp
      let ay := oriented higherIsBetterY yf
      let by' := oriented higherIsBetterY yp
      if (ax ≥ bx ∧ ay ≥ by') ∧ (ax > bx ∨ ay > by') then .ok true
      else isDominated point rest xMetric yMetric higherIsBetterX higherIsBetterY

end ParetoAnalyzer

/-! ## Dominance as an order of objectives -/

/-- Neither metric is missing. -/
def HasMetrics (xMetric yMetric : String) (point : OrdDict String ℚ) : Prop :=
  (point.get? xMetric).isSome ∧ (point.get? yMetric).isSome

instance (xMetric yMetric : String) (point : OrdDict String ℚ) :
    Decidable (HasMetrics xMetric yMetric point) := by
  unfold HasMetrics
  infer_instance

/-- The two objectives of a point, both to be maximised. -/
def objectives (xMetric yMetric : String) (higherIsBetterX higherIsBetterY : Bool)
    (point : OrdDict String ℚ) : ℚ × ℚ :=
  (oriented higherIsBetterX ((point.get? xMetric).getD 0),
    oriented higherIsBetterY ((point.get? yMetric).getD 0))

/-- As good on both axes and better on one is greater as a pair. -/
theorem better_iff (p q : ℚ × ℚ) :
    ((q.1 ≥ p.1 ∧ q.2 ≥ p.2) ∧ (q.1 > p.1 ∨ q.2 > p.2)) ↔ p < q := by
  rw [Prod.lt_iff]
  constructor
  · rintro ⟨⟨hx, hy⟩, hx' | hy'⟩
    · exact .inl ⟨hx', hy⟩
    · exact .inr ⟨hx, hy'⟩
  · rintro (⟨hx, hy⟩ | ⟨hx, hy⟩)
    · exact ⟨⟨hx.le, hy⟩, .inl hx⟩
    · exact ⟨⟨hx, hy.le⟩, .inr hy⟩

instance decidableLTPair : DecidableLT (ℚ × ℚ) := fun p q => decidable_of_iff _ (better_iff p q)

theorem getItem_of_isSome {point : OrdDict String ℚ} {metric : String}
    (h : (point.get? metric).isSome) :
    getItem point metric = .ok ((point.get? metric).getD 0) := by
  obtain ⟨value, hvalue⟩ := Option.isSome_iff_exists.mp h
  rw [getItem, hvalue]
  rfl

/-! ## The two tests are the order -/

section Dominance

variable {x y : String} (hx hy : Bool)

theorem dominates_eq {a b : OrdDict String ℚ} (ha : HasMetrics x y a) (hb : HasMetrics x y b) :
    ParetoAnalyzer.dominates x y hx hy a b =
      .ok (decide (objectives x y hx hy b < objectives x y hx hy a)) := by
  rw [ParetoAnalyzer.dominates, getItem_of_isSome ha.1, getItem_of_isSome ha.2,
    getItem_of_isSome hb.1, getItem_of_isSome hb.2]
  have hiff := better_iff (objectives x y hx hy b) (objectives x y hx hy a)
  exact congrArg Except.ok (decide_eq_decide.mpr hiff)

theorem isDominated_eq {point : OrdDict String ℚ} (hpoint : HasMetrics x y point)
    {frontier : List (OrdDict String ℚ)} (hfrontier : ∀ f ∈ frontier, HasMetrics x y f) :
    ParetoAnalyzer.isDominated point frontier x y hx hy =
      .ok (decide (∃ f ∈ frontier, objectives x y hx hy point < objectives x y hx hy f)) := by
  induction frontier with
  | nil => rfl
  | cons f rest ih =>
      have hf := hfrontier f List.mem_cons_self
      have hrest := ih (fun g hg => hfrontier g (List.mem_cons_of_mem f hg))
      have hiff := better_iff (objectives x y hx hy point) (objectives x y hx hy f)
      rw [ParetoAnalyzer.isDominated, getItem_of_isSome hf.1, getItem_of_isSome hf.2,
        getItem_of_isSome hpoint.1, getItem_of_isSome hpoint.2, hrest]
      simp only [List.exists_mem_cons_iff]
      by_cases hlt : objectives x y hx hy point < objectives x y hx hy f
      · rw [decide_eq_true (Or.inl hlt)]
        exact if_pos (hiff.mpr hlt)
      · rw [decide_eq_decide.mpr (or_iff_right hlt)]
        exact if_neg (mt hiff.mp hlt)

end Dominance

/-! ## The loop keeps the undominated rows -/

/-- A loop that raises nowhere. -/
theorem anyM_ok {α ε : Type} {f : α → Except ε Bool} {p : α → Bool} {l : List α}
    (h : ∀ a ∈ l, f a = .ok (p a)) : l.anyM f = .ok (l.any p) := by
  induction l with
  | nil => rfl
  | cons a rest ih =>
      have hrest := ih (fun b hb => h b (List.mem_cons_of_mem a hb))
      rw [List.anyM_cons, h a List.mem_cons_self, hrest, List.any_cons]
      cases p a <;> rfl

section Loop

variable {dominates : ResultRow → ResultRow → Except PyError Bool} {key : ResultRow → ℚ × ℚ}
  {points : List ResultRow}
  (hdominates : ∀ q ∈ points, ∀ p ∈ points, dominates q p = .ok (decide (key p < key q)))

include hdominates

theorem dominated_eq {p : ResultRow} {i : Nat} (hp : (p, i) ∈ points.zipIdx) :
    (points.zipIdx.filter (fun q => decide (q.2 ≠ i))).anyM (fun q => dominates q.1 p) =
      .ok (decide (∃ q ∈ points, key p < key q)) := by
  have hpmem := List.mem_of_getElem? (List.mem_zipIdx_iff_getElem?.mp hp)
  have hloop : ∀ q ∈ points.zipIdx.filter (fun q => decide (q.2 ≠ i)),
      dominates q.1 p = .ok (decide (key p < key q.1)) := by
    intro q hq
    have hqmem := List.mem_zipIdx_iff_getElem?.mp (List.mem_of_mem_filter hq)
    exact hdominates q.1 (List.mem_of_getElem? hqmem) p hpmem
  rw [anyM_ok hloop, Except.ok.injEq, Bool.eq_iff_iff, decide_eq_true_iff, List.any_eq_true,
    ← exists_other_gt_iff key hp]
  simp only [List.mem_filter, decide_eq_true_iff, and_assoc]

theorem frontierLoop_eq {todo : List (ResultRow × Nat)} (htodo : ∀ p ∈ todo, p ∈ points.zipIdx)
    (frontier : List ResultRow) :
    ParetoAnalyzer.frontierLoop dominates points.zipIdx todo frontier =
      .ok (frontier ++ (todo.map Prod.fst).filter
        (fun p => decide (∀ q ∈ points, ¬key p < key q))) := by
  induction todo generalizing frontier with
  | nil => rw [ParetoAnalyzer.frontierLoop, List.map_nil, List.filter_nil, List.append_nil]
  | cons head rest ih =>
      obtain ⟨p, i⟩ := head
      have hp := htodo (p, i) List.mem_cons_self
      have hrest := fun acc => ih (fun q hq => htodo q (List.mem_cons_of_mem _ hq)) acc
      rw [ParetoAnalyzer.frontierLoop, dominated_eq hdominates hp, List.map_cons]
      show ParetoAnalyzer.frontierLoop dominates points.zipIdx rest _ = _
      rw [hrest]
      by_cases hdom : ∃ q ∈ points, key p < key q
      · have hfalse : ¬∀ q ∈ points, ¬key p < key q := by
          intro hnone
          obtain ⟨q, hq, hlt⟩ := hdom
          exact hnone q hq hlt
        rw [List.filter_cons_of_neg (by simpa using hfalse), if_pos (decide_eq_true hdom)]
      · have htrue : ∀ q ∈ points, ¬key p < key q := by
          intro q hq hlt
          exact hdom ⟨q, hq, hlt⟩
        rw [List.filter_cons_of_pos (by simpa using htrue),
          if_neg (by rw [decide_eq_true_iff]; exact hdom), List.append_assoc]
        rfl

end Loop

/-! ## Rows cut down to two metrics -/

/-- The row with its two metrics only. -/
def ResultRow.restrict (row : ResultRow) (xMetric yMetric : String) : ResultRow :=
  { row with
    metrics := (OrdDict.empty.set xMetric ((row.metrics.get? xMetric).getD 0)).set yMetric
      ((row.metrics.get? yMetric).getD 0) }

section Restrict

variable {x y : String} {row : ResultRow}

theorem get?_x_restrict (h : HasMetrics x y row.metrics) :
    (row.restrict x y).metrics.get? x = row.metrics.get? x := by
  obtain ⟨v, hv⟩ := Option.isSome_iff_exists.mp h.1
  by_cases hxy : x = y
  · subst hxy
    rw [ResultRow.restrict, OrdDict.get?_set_self, hv]
    rfl
  · rw [ResultRow.restrict, OrdDict.get?_set_of_ne _ hxy, OrdDict.get?_set_self, hv]
    rfl

theorem get?_y_restrict (h : HasMetrics x y row.metrics) :
    (row.restrict x y).metrics.get? y = row.metrics.get? y := by
  obtain ⟨v, hv⟩ := Option.isSome_iff_exists.mp h.2
  rw [ResultRow.restrict, OrdDict.get?_set_self, hv]
  rfl

theorem select_eq_restrict (h : HasMetrics x y row.metrics) :
    row.select x y = some (row.restrict x y) := by
  obtain ⟨v, hv⟩ := Option.isSome_iff_exists.mp h.1
  obtain ⟨w, hw⟩ := Option.isSome_iff_exists.mp h.2
  rw [ResultRow.select, ResultRow.restrict, hv, hw]
  rfl

theorem hasMetrics_restrict (h : HasMetrics x y row.metrics) :
    HasMetrics x y (row.restrict x y).metrics := by
  rw [HasMetrics, get?_x_restrict h, get?_y_restrict h]
  exact h

theorem objectives_restrict (hx hy : Bool) (h : HasMetrics x y row.metrics) :
    objectives x y hx hy (row.restrict x y).metrics = objectives x y hx hy row.metrics := by
  rw [objectives, get?_x_restrict h, get?_y_restrict h]
  rfl

end Restrict

/-! ## The frontier -/

/-- The results no result dominates. -/
def ParetoAnalyzer.undominatedResults (pa : ParetoAnalyzer) (x y : String) (hx hy : Bool) :
    List ResultRow :=
  undominated (fun row => objectives x y hx hy row.metrics) pa.results

section Frontier

variable {pa : ParetoAnalyzer} {x y : String} (hx hy : Bool)
  (hcomplete : ∀ row ∈ pa.results, HasMetrics x y row.metrics)

include hcomplete

/-- The loop over the rows of complete results. -/
theorem frontierLoop_restrict :
    ParetoAnalyzer.frontierLoop
        (fun q p => ParetoAnalyzer.dominates x y hx hy q.metrics p.metrics)
        (pa.results.map (·.restrict x y)).zipIdx (pa.results.map (·.restrict x y)).zipIdx [] =
      .ok ((pa.undominatedResults x y hx hy).map (·.restrict x y)) := by
  have hmetrics : ∀ p ∈ pa.results.map (·.restrict x y), HasMetrics x y p.metrics := by
    intro p hp
    obtain ⟨row, hrow, rfl⟩ := List.mem_map.mp hp
    exact hasMetrics_restrict (hcomplete row hrow)
  have hdominates : ∀ q ∈ pa.results.map (·.restrict x y),
      ∀ p ∈ pa.results.map (·.restrict x y),
        ParetoAnalyzer.dominates x y hx hy q.metrics p.metrics =
          .ok (decide (objectives x y hx hy p.metrics < objectives x y hx hy q.metrics)) :=
    fun q hq p hp => dominates_eq hx hy (hmetrics q hq) (hmetrics p hp)
  have hloop := frontierLoop_eq hdominates
    (fun p hp => hp) []
  rw [hloop, List.zipIdx_map_fst, List.nil_append]
  have hsame : undominated (fun row => objectives x y hx hy row.metrics)
      (pa.results.map (·.restrict x y)) =
        (pa.undominatedResults x y hx hy).map (·.restrict x y) := by
    rw [undominated_map, ParetoAnalyzer.undominatedResults]
    congr 1
    apply undominated_congr
    intro row hrow
    exact objectives_restrict hx hy (hcomplete row hrow)
  exact congrArg Except.ok hsame

/-- Complete results have a frontier: the undominated ones, ordered. -/
theorem computeParetoFrontier_eq [FrameSort] (hne : pa.results ≠ []) :
    pa.computeParetoFrontier x y hx hy =
      .ok (FrameSort.sortValues x
        ((pa.undominatedResults x y hx hy).map (·.restrict x y))) := by
  have hempty : pa.results.isEmpty = false := by simpa using hne
  obtain ⟨first, rest, hcons⟩ := List.exists_cons_of_ne_nil hne
  have hfirst : first ∈ pa.results := by
    rw [hcons]
    exact List.mem_cons_self
  have hcolumn : ∀ metric, (first.metrics.get? metric).isSome →
      pa.results.all (fun row => (row.metrics.get? metric).isNone) = false := by
    intro metric hmetric
    rw [List.all_eq_false]
    refine ⟨first, hfirst, ?_⟩
    rw [Option.isNone_iff_eq_none, ← Option.not_isSome_iff_eq_none, not_not]
    exact hmetric
  have hx' := hcolumn x (hcomplete first hfirst).1
  have hy' := hcolumn y (hcomplete first hfirst).2
  have hpoints : pa.results.filterMap (fun row => row.select x y) =
      pa.results.map (·.restrict x y) := by
    rw [← List.filterMap_eq_map]
    apply List.filterMap_congr
    intro row hrow
    exact select_eq_restrict (hcomplete row hrow)
  obtain ⟨m, hm, -⟩ := exists_undominated_ge
    (fun row => objectives x y hx hy row.metrics) hfirst
  have hfrontier : ((pa.undominatedResults x y hx hy).map (·.restrict x y)).isEmpty = false := by
    rw [List.isEmpty_eq_false_iff]
    exact List.ne_nil_of_mem (List.mem_map_of_mem hm)
  rw [ParetoAnalyzer.computeParetoFrontier]
  simp only [hempty, hx', hy', hpoints, frontierLoop_restrict hx hy hcomplete, Bool.false_eq_true,
    if_false]
  show (if ((pa.undominatedResults x y hx hy).map (·.restrict x y)).isEmpty = true then _ else _) =
    _
  rw [hfrontier]
  rfl

/-- Complete results have a frontier, if only an empty one. -/
theorem exists_frontier [FrameSort] :
    ∃ frontier, pa.computeParetoFrontier x y hx hy = .ok frontier ∧
      frontier.Perm ((pa.undominatedResults x y hx hy).map (·.restrict x y)) ∧
      frontier.Pairwise (fun a b =>
        ∀ v w, a.metrics.get? x = some v → b.metrics.get? x = some w → v ≤ w) := by
  by_cases hne : pa.results = []
  · refine ⟨[], ?_, ?_, List.Pairwise.nil⟩
    · rw [ParetoAnalyzer.computeParetoFrontier, hne]
      rfl
    · rw [ParetoAnalyzer.undominatedResults, hne]
      exact List.Perm.nil
  · exact ⟨_, computeParetoFrontier_eq hx hy hcomplete hne, FrameSort.sortValues_perm _ _,
      FrameSort.sortValues_ascending _ _⟩

section Points

variable {frontier : List ResultRow}
  (hperm : frontier.Perm ((pa.undominatedResults x y hx hy).map (·.restrict x y)))

include hperm

/-- A point of the frontier is an undominated result. -/
theorem exists_result_of_mem {f : ResultRow} (hf : f ∈ frontier) :
    ∃ row ∈ pa.undominatedResults x y hx hy, HasMetrics x y f.metrics ∧
      objectives x y hx hy f.metrics = objectives x y hx hy row.metrics := by
  obtain ⟨row, hrow, rfl⟩ := List.mem_map.mp (hperm.mem_iff.mp hf)
  have hmetrics := hcomplete row (mem_undominated_iff.mp hrow).1
  exact ⟨row, hrow, hasMetrics_restrict hmetrics, objectives_restrict hx hy hmetrics⟩

/-- The frontier exceeds what some result exceeds. -/
theorem exists_frontier_gt_iff (v : ℚ × ℚ) :
    (∃ f ∈ frontier, v < objectives x y hx hy f.metrics) ↔
      ∃ row ∈ pa.results, v < objectives x y hx hy row.metrics := by
  rw [← exists_undominated_gt_iff (fun row => objectives x y hx hy row.metrics) pa.results v]
  constructor
  · rintro ⟨f, hf, hlt⟩
    obtain ⟨row, hrow, -, hsame⟩ := exists_result_of_mem hx hy hcomplete hperm hf
    rw [hsame] at hlt
    exact ⟨row, hrow, hlt⟩
  · rintro ⟨row, hrow, hlt⟩
    refine ⟨row.restrict x y, hperm.mem_iff.mpr (List.mem_map_of_mem hrow), ?_⟩
    rw [objectives_restrict hx hy (hcomplete row (mem_undominated_iff.mp hrow).1)]
    exact hlt

end Points

end Frontier

/-- **The Pareto frontier is sound and complete.**

For results without missing values, any two metrics and any choice of the two
directions, the frontier is the results no result dominates, each once for every
time it occurs, in ascending order of the first metric.  No point of it
dominates another, every result left out is dominated by a point of it, and a
point is dominated by the frontier exactly if some result dominates it. -/
theorem pareto_frontier_complete [FrameSort] (pa : ParetoAnalyzer) (x y : String) (hx hy : Bool)
    (hcomplete : ∀ row ∈ pa.results, HasMetrics x y row.metrics) :
    ∃ frontier, pa.computeParetoFrontier x y hx hy = .ok frontier ∧
      frontier.Perm ((pa.undominatedResults x y hx hy).map (·.restrict x y)) ∧
      frontier.Pairwise (fun a b =>
        ∀ v w, a.metrics.get? x = some v → b.metrics.get? x = some w → v ≤ w) ∧
      (∀ a ∈ frontier, ∀ b ∈ frontier,
        ¬objectives x y hx hy b.metrics < objectives x y hx hy a.metrics) ∧
      (∀ row ∈ pa.results, row ∉ pa.undominatedResults x y hx hy →
        ∃ f ∈ frontier, objectives x y hx hy row.metrics < objectives x y hx hy f.metrics) ∧
      ∀ point, HasMetrics x y point →
        ParetoAnalyzer.isDominated point (frontier.map (·.metrics)) x y hx hy =
          .ok (decide (∃ row ∈ pa.results,
            objectives x y hx hy point < objectives x y hx hy row.metrics)) := by
  obtain ⟨frontier, hresult, hperm, hascending⟩ := exists_frontier hx hy hcomplete
  have hmem := fun f (hf : f ∈ frontier) => exists_result_of_mem hx hy hcomplete hperm hf
  have hgreater := exists_frontier_gt_iff hx hy hcomplete hperm
  refine ⟨frontier, hresult, hperm, hascending, ?_, ?_, ?_⟩
  · intro a ha b hb hlt
    obtain ⟨row, hrow, -, hsame⟩ := hmem b hb
    obtain ⟨dominator, hdominator, -, hsame'⟩ := hmem a ha
    rw [hsame, hsame'] at hlt
    exact (mem_undominated_iff.mp hrow).2 dominator (mem_undominated_iff.mp hdominator).1 hlt
  · intro row hrow hout
    rw [hgreater]
    by_contra hnone
    apply hout
    rw [ParetoAnalyzer.undominatedResults, mem_undominated_iff]
    exact ⟨hrow, fun b hb hlt => hnone ⟨b, hb, hlt⟩⟩
  · intro point hpoint
    have hmetrics : ∀ f ∈ frontier.map (·.metrics), HasMetrics x y f := by
      intro f hf
      obtain ⟨row, hrow, rfl⟩ := List.mem_map.mp hf
      exact (hmem row hrow).choose_spec.2.1
    rw [isDominated_eq hx hy hpoint hmetrics, Except.ok.injEq, decide_eq_decide, ← hgreater]
    simp only [List.mem_map, exists_exists_and_eq_and]

/-- A sort that keeps rows of one value in their order. -/
@[reducible] def stableFrameSort : FrameSort where
  sortValues column rows := sortBy (fun row => (row.metrics.get? column).getD 0) rows
  sortValues_perm column rows := sortBy_perm _ rows
  sortValues_ascending column rows := by
    apply (pairwise_sortBy (fun row : ResultRow => (row.metrics.get? column).getD 0) rows).imp
    intro a b hle v w hv hw
    rw [hv, hw] at hle
    exact hle

/-- Three policies, of which the second is worse than the first on both axes. -/
def threePolicies : ParetoAnalyzer :=
  ((({} : ParetoAnalyzer).addResult "policy_a" (3 / 4) 8192 (4 / 5) 200 4000).addResult
    "policy_b" (3 / 4) 8192 (3 / 5) 400 6000).addResult
    "policy_c" (3 / 4) 8192 (7 / 10) 150 3000

/-- The frontier of the three policies holds the two others, the smaller one
first, and the second is dominated by it. -/
theorem pareto_frontier_complete_three_policies :
    letI : FrameSort := stableFrameSort
    ∃ frontier, threePolicies.computeParetoFrontier = .ok frontier ∧
      frontier.map (·.policyName) = ["policy_c", "policy_a"] ∧
      ∀ point, HasMetrics "gpu_mem_peak_mb" "quality_score" point →
        ParetoAnalyzer.isDominated point (frontier.map (·.metrics)) "gpu_mem_peak_mb"
            "quality_score" =
          .ok (decide (∃ row ∈ threePolicies.results,
            objectives "gpu_mem_peak_mb" "quality_score" false true point <
              objectives "gpu_mem_peak_mb" "quality_score" false true row.metrics)) := by
  let _ : FrameSort := stableFrameSort
  obtain ⟨frontier, hfrontier, -, -, -, -, hdominated⟩ :=
    pareto_frontier_complete threePolicies "gpu_mem_peak_mb" "quality_score" false true
      (by decide +kernel)
  have hnames : (threePolicies.computeParetoFrontier.toOption.map
      (fun rows => rows.map (·.policyName))) = some ["policy_c", "policy_a"] := by
    decide +kernel
  rw [hfrontier] at hnames
  exact ⟨frontier, hfrontier, Option.some.inj hnames, hdominated⟩

end KVOrchestrator.Ports
