import KVOrchestrator.Ports.FeatureParity
import KVOrchestrator.Ports.ImportanceScorer
import KVOrchestrator.Ports.RecencyMeasures

/-!
# Future-reuse labels and repeated observations

A cycle writes one row per block, accessed or not, so a trace may repeat the
block and the step of a row.  The label of `future_reuse` is meant to say
whether the block is accessed again; it counts the rows of the block in the
window instead, every repetition once more (`reuseScore`).  A repetition inside
the window of a row therefore raises the label of the row until it has reached
one (`reuse_labels_kept_iff`).  Windows of at most ten steps are the kind on
which this never shows: there one row is enough
(`reuse_labels_kept_of_window_le`).
-/

namespace KVOrchestrator.Ports

open KVOrchestrator.Verified

/-- The second row has the block of the first and a step of the window after
it. -/
def FollowsWithin (window : Int) (r a : TelemetryRecord) : Prop :=
  a.blockId = r.blockId ∧ r.lastAccessStep < a.lastAccessStep ∧
    a.lastAccessStep ≤ r.lastAccessStep + window

instance (window : Int) (r a : TelemetryRecord) : Decidable (FollowsWithin window r a) :=
  inferInstanceAs (Decidable (_ ∧ _ ∧ _))

/-- How many rows of the block follow a row within the window. -/
def laterRows (window : Int) (rows : List TelemetryRecord) (r : TelemetryRecord) : Nat :=
  rows.countP (fun a => decide (FollowsWithin window r a))

/-- The label of a row, by the rows that follow it. -/
def reuseScore (window : Int) (rows : List TelemetryRecord) (r : TelemetryRecord) : ℚ :=
  min 1 (laterRows window rows r / max (window / 10 : ℚ) 1)

/-- The second trace has the rows of the first, in any order, and the added
ones, each with the block and the step of a row of the first. -/
structure RepeatsObservations (trace trace' : TraceFrame) (added : List TelemetryRecord) :
    Prop where
  columns : trace'.columns = trace.columns
  rows : trace'.rows.Perm (trace.rows ++ added)
  repeated : ∀ a ∈ added, ∃ r ∈ trace.rows,
    a.blockId = r.blockId ∧ a.lastAccessStep = r.lastAccessStep

/-- Both traces are labelled, and each row of the first has the label of the
first in the second, and no other. -/
def ReuseLabelsKept [StepSort] (sc : ImportanceScorer) (trace trace' : TraceFrame)
    (window : Int) : Prop :=
  ∃ labeled labeled',
    sc.generatePseudoLabels trace "future_reuse" window = .ok labeled ∧
    sc.generatePseudoLabels trace' "future_reuse" window = .ok labeled' ∧
    ∀ r score, (r, score) ∈ labeled.rows →
      ∀ score', (r, score') ∈ labeled'.rows ↔ score' = score

/-- Neither column the strategy reads is missing. -/
def TraceFrame.HasReuseColumns (df : TraceFrame) : Prop :=
  "last_access_step" ∈ df.columns ∧ "block_id" ∈ df.columns

instance (df : TraceFrame) : Decidable df.HasReuseColumns :=
  inferInstanceAs (Decidable (_ ∧ _))

/-! ## The labels of one trace -/

/-- The steps of the group of a row that count are its later rows. -/
theorem futureAccesses_eq_laterRows (window : Int) (rows : List TelemetryRecord)
    (r : TelemetryRecord) :
    ImportanceScorer.futureAccesses (((blockGroups rows).get? r.blockId).getD [])
      r.lastAccessStep window = laterRows window rows r := by
  rw [blockGroups, OrdDict.getD_get?_groups, ImportanceScorer.futureAccesses, List.countP_map,
    List.countP_filter, laterRows]
  apply List.countP_congr
  intro a _
  simp only [Function.comp_apply, Bool.and_eq_true, decide_eq_true_eq]
  constructor
  · rintro ⟨hwindow, hid⟩
    exact ⟨hid, hwindow⟩
  · rintro ⟨hid, hwindow⟩
    exact ⟨hwindow, hid⟩

theorem laterRows_of_perm (window : Int) {rows rows' : List TelemetryRecord}
    (hperm : rows.Perm rows') (r : TelemetryRecord) :
    laterRows window rows r = laterRows window rows' r :=
  hperm.countP_eq _

theorem reuseScore_of_perm (window : Int) {rows rows' : List TelemetryRecord}
    (hperm : rows.Perm rows') (r : TelemetryRecord) :
    reuseScore window rows r = reuseScore window rows' r := by
  rw [reuseScore, reuseScore, laterRows_of_perm window hperm]

/-- A labelled trace pairs every row with its label. -/
theorem mem_labelFutureReuse [StepSort] {df : TraceFrame} (hcolumns : df.HasReuseColumns)
    (window : Int) (r : TelemetryRecord) (score : ℚ) :
    (r, score) ∈ (ImportanceScorer.labelFutureReuse df window).rows ↔
      r ∈ df.rows ∧ score = reuseScore window df.rows r := by
  have hperm := StepSort.sortValues_perm df.rows
  have hpresent : ¬("last_access_step" ∉ df.columns ∨ "block_id" ∉ df.columns) := by
    rw [not_or, not_not, not_not]
    exact hcolumns
  rw [ImportanceScorer.labelFutureReuse, if_neg hpresent]
  simp only [futureAccesses_eq_laterRows]
  rw [TraceFrame.rows_withScores_map { df with rows := StepSort.sortValues df.rows }]
  rw [List.mem_map]
  constructor
  · rintro ⟨a, ha, heq⟩
    obtain ⟨rfl, rfl⟩ := Prod.mk.inj heq
    exact ⟨hperm.mem_iff.mp ha, reuseScore_of_perm window hperm a⟩
  · rintro ⟨hr, rfl⟩
    refine ⟨r, hperm.mem_iff.mpr hr, ?_⟩
    rw [← reuseScore_of_perm window hperm r]
    rfl

/-- Without the columns every row has the same label. -/
theorem mem_labelFutureReuse_of_missing [StepSort] {df : TraceFrame}
    (hcolumns : ¬df.HasReuseColumns) (window : Int) (r : TelemetryRecord) (score : ℚ) :
    (r, score) ∈ (ImportanceScorer.labelFutureReuse df window).rows ↔
      r ∈ df.rows ∧ score = 5 / 10 := by
  have hmissing : "last_access_step" ∉ df.columns ∨ "block_id" ∉ df.columns := by
    rw [← not_and_or]
    exact hcolumns
  rw [ImportanceScorer.labelFutureReuse, if_pos hmissing, TraceFrame.rows_withScores_map,
    List.mem_map]
  constructor
  · rintro ⟨a, ha, heq⟩
    obtain ⟨rfl, rfl⟩ := Prod.mk.inj heq
    exact ⟨ha, rfl⟩
  · rintro ⟨hr, rfl⟩
    exact ⟨r, hr, rfl⟩

/-! ## Two traces -/

section Repeated

variable {trace trace' : TraceFrame} {added : List TelemetryRecord}
  (h : RepeatsObservations trace trace' added)

include h

theorem RepeatsObservations.mem {r : TelemetryRecord} (hr : r ∈ trace.rows) : r ∈ trace'.rows :=
  h.rows.mem_iff.mpr (List.mem_append_left added hr)

theorem RepeatsObservations.hasReuseColumns_iff :
    trace'.HasReuseColumns ↔ trace.HasReuseColumns := by
  rw [TraceFrame.HasReuseColumns, TraceFrame.HasReuseColumns, h.columns]

/-- The rows that follow a row are those of the trace and the added ones. -/
theorem RepeatsObservations.laterRows_eq (window : Int) (r : TelemetryRecord) :
    laterRows window trace'.rows r =
      laterRows window trace.rows r + laterRows window added r := by
  rw [laterRows_of_perm window h.rows]
  exact List.countP_append

/-- Labels are kept where the scores are. -/
theorem reuseLabelsKept_iff_score [StepSort] (sc : ImportanceScorer) (window : Int) :
    ReuseLabelsKept sc trace trace' window ↔ (trace.HasReuseColumns → ∀ r ∈ trace.rows,
      reuseScore window trace'.rows r = reuseScore window trace.rows r) := by
  constructor
  · rintro ⟨labeled, labeled', hlabeled, hlabeled', hkept⟩ hcolumns r hr
    rw [ImportanceScorer.generatePseudoLabels_futureReuse] at hlabeled hlabeled'
    obtain rfl := Except.ok.inj hlabeled
    obtain rfl := Except.ok.inj hlabeled'
    have hold : (r, reuseScore window trace.rows r) ∈
        (ImportanceScorer.labelFutureReuse trace window).rows :=
      (mem_labelFutureReuse hcolumns window r _).mpr ⟨hr, rfl⟩
    have hnew : (r, reuseScore window trace'.rows r) ∈
        (ImportanceScorer.labelFutureReuse trace' window).rows :=
      (mem_labelFutureReuse (h.hasReuseColumns_iff.mpr hcolumns) window r _).mpr ⟨h.mem hr, rfl⟩
    exact (hkept r _ hold _).mp hnew
  · intro hscores
    refine ⟨_, _, sc.generatePseudoLabels_futureReuse trace window,
      sc.generatePseudoLabels_futureReuse trace' window, ?_⟩
    intro r score hold score'
    by_cases hcolumns : trace.HasReuseColumns
    · rw [mem_labelFutureReuse hcolumns] at hold
      rw [mem_labelFutureReuse (h.hasReuseColumns_iff.mpr hcolumns), hold.2,
        hscores hcolumns r hold.1]
      exact and_iff_right (h.mem hold.1)
    · rw [mem_labelFutureReuse_of_missing hcolumns] at hold
      rw [mem_labelFutureReuse_of_missing (mt h.hasReuseColumns_iff.mp hcolumns), hold.2]
      exact and_iff_right (h.mem hold.1)

end Repeated

/-! ## When a label changes -/

/-- A capped quotient stays as it is where nothing is added or it is capped. -/
theorem min_one_div_add_eq_iff {n k : ℚ} (hk : 0 ≤ k) {cap : ℚ} (hcap : 0 < cap) :
    min 1 ((n + k) / cap) = min 1 (n / cap) ↔ k = 0 ∨ cap ≤ n := by
  constructor
  · intro heq
    by_contra hnot
    rw [not_or, not_le] at hnot
    have hbelow : n / cap < 1 := (div_lt_one hcap).mpr hnot.2
    have hpos : 0 < k := lt_of_le_of_ne hk (Ne.symm hnot.1)
    have hgrows : n / cap < (n + k) / cap := div_lt_div_of_pos_right (by linarith) hcap
    rw [min_eq_right hbelow.le] at heq
    exact absurd heq (lt_min hbelow hgrows).ne'
  · rintro (rfl | hle)
    · rw [add_zero]
    · have hone : 1 ≤ n / cap := (one_le_div hcap).mpr hle
      have hone' : 1 ≤ (n + k) / cap := (one_le_div hcap).mpr (by linarith)
      rw [min_eq_left hone, min_eq_left hone']

theorem cap_pos (window : Int) : (0 : ℚ) < max (window / 10 : ℚ) 1 :=
  lt_of_lt_of_le one_pos (le_max_right _ 1)

/-- The label of one row is kept exactly where no added row follows it within
the window, or the rows that do already bring it to one. -/
theorem RepeatsObservations.reuseScore_eq_iff {trace trace' : TraceFrame}
    {added : List TelemetryRecord} (h : RepeatsObservations trace trace' added) (window : Int)
    (r : TelemetryRecord) :
    reuseScore window trace'.rows r = reuseScore window trace.rows r ↔
      (∀ a ∈ added, ¬FollowsWithin window r a) ∨
        max (window / 10 : ℚ) 1 ≤ laterRows window trace.rows r := by
  have hnone : ((laterRows window added r : Nat) : ℚ) = 0 ↔
      ∀ a ∈ added, ¬FollowsWithin window r a := by
    rw [Nat.cast_eq_zero, laterRows, List.countP_eq_zero]
    simp only [decide_eq_true_eq]
  rw [reuseScore, reuseScore, h.laterRows_eq, Nat.cast_add,
    min_one_div_add_eq_iff (Nat.cast_nonneg _) (cap_pos window), hnone]

/-- Within at most ten steps one row is as good as many. -/
theorem reuse_labels_kept_of_window_le [StepSort] (sc : ImportanceScorer)
    {trace trace' : TraceFrame} {added : List TelemetryRecord}
    (h : RepeatsObservations trace trace' added) {window : Int} (hwindow : window ≤ 10) :
    ReuseLabelsKept sc trace trace' window := by
  rw [reuseLabelsKept_iff_score h]
  intro _ r _
  rw [h.reuseScore_eq_iff]
  by_cases hnone : ∀ a ∈ added, ¬FollowsWithin window r a
  · exact .inl hnone
  · right
    push Not at hnone
    obtain ⟨a, ha, hfollows⟩ := hnone
    -- the row that was observed again follows as well
    obtain ⟨b, hb, hid, hstep⟩ := h.repeated a ha
    have hfollows' : FollowsWithin window r b := by
      rw [FollowsWithin, ← hid, ← hstep]
      exact hfollows
    have hpos : 1 ≤ laterRows window trace.rows r :=
      List.countP_pos_iff.mpr ⟨b, hb, decide_eq_true hfollows'⟩
    have hwindowQ : (window : ℚ) / 10 ≤ 1 := by
      have hle : (window : ℚ) ≤ 10 := by exact_mod_cast hwindow
      linarith
    rw [max_eq_right hwindowQ]
    exact_mod_cast hpos

/-- **Future-reuse labels count observations.**

Adding rows that repeat the block and the step of existing ones leaves the
label of every original row as it was exactly if the trace lacks one of the two
columns, or no original row has an added row of its block in the window after
it unless its own trace holds a tenth of the window of such rows, and one. -/
theorem reuse_labels_kept_iff [StepSort] (sc : ImportanceScorer) {trace trace' : TraceFrame}
    {added : List TelemetryRecord} (h : RepeatsObservations trace trace' added) (window : Int) :
    ReuseLabelsKept sc trace trace' window ↔
      (trace.HasReuseColumns → ∀ r ∈ trace.rows,
        (∀ a ∈ added, ¬FollowsWithin window r a) ∨
          max (window / 10 : ℚ) 1 ≤ laterRows window trace.rows r) := by
  rw [reuseLabelsKept_iff_score h]
  simp only [h.reuseScore_eq_iff]

/-! ## Cycles without accesses -/

/-- The columns of a trace of two cycles, of which the strategy reads two. -/
def reuseTrace (rows : List TelemetryRecord) : TraceFrame where
  columns := ["request_id", "block_id", "last_access_step", "access_count"]
  rows := rows

/-- The rows of a cycle over blocks that an earlier cycle saw, and that were not
accessed since, repeat observations. -/
theorem repeatsObservations_telemetry (columns : List String) {rows : List TelemetryRecord}
    {blocks : List BlockState} {decision decision' : BlockState → BlockDecision}
    {ctx ctx' : BlockState → RecordContext} (hseen : telemetry blocks decision ctx ⊆ rows) :
    RepeatsObservations ⟨columns, rows⟩ ⟨columns, rows ++ telemetry blocks decision' ctx'⟩
      (telemetry blocks decision' ctx') := by
  refine { columns := rfl, rows := List.Perm.refl _, repeated := ?_ }
  intro a ha
  obtain ⟨b, hb, rfl⟩ := List.mem_map.mp ha
  exact ⟨_, hseen (List.mem_map_of_mem hb), rfl, rfl⟩

/-- The rows of a cycle at a given time that keeps one block. -/
def keepingCycle (time step : Int) : List TelemetryRecord :=
  telemetry [accessedAt 1 step] (fun _ => .keepGpu)
    (fun _ => { modelName := "m", timestamp := time })

/-- One access after a first cycle, and two further cycles. -/
theorem reuse_label_of_observed_again :
    letI : StepSort := stableStepSort
    let trace : TraceFrame := reuseTrace (keepingCycle 0 0 ++ keepingCycle 1 5)
    let trace' : TraceFrame :=
      reuseTrace (keepingCycle 0 0 ++ keepingCycle 1 5 ++ keepingCycle 2 5)
    RepeatsObservations trace trace' (keepingCycle 2 5) ∧
      ¬ReuseLabelsKept {} trace trace' 100 := by
  intro trace trace'
  have hrepeats : RepeatsObservations trace trace' (keepingCycle 2 5) :=
    repeatsObservations_telemetry _ (List.subset_append_right _ _)
  refine ⟨hrepeats, ?_⟩
  let _ : StepSort := stableStepSort
  rw [reuseLabelsKept_iff_score hrepeats]
  intro hkept
  have hscore := hkept (by decide) _ (List.mem_append_left _ (List.mem_singleton.mpr rfl))
  exact absurd hscore (by decide +kernel)

theorem reuse_labels_kept_short_window :
    letI : StepSort := stableStepSort
    ReuseLabelsKept {} (reuseTrace (keepingCycle 0 0 ++ keepingCycle 1 5))
      (reuseTrace (keepingCycle 0 0 ++ keepingCycle 1 5 ++ keepingCycle 2 5)) 4 := by
  let _ : StepSort := stableStepSort
  apply (reuse_labels_kept_iff {} (repeatsObservations_telemetry _
    (List.subset_append_right _ _)) 4).mpr
  intro _ r hr
  left
  intro a ha
  revert r a
  decide +kernel

end KVOrchestrator.Ports
