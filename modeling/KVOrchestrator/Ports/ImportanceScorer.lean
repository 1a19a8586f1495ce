import KVOrchestrator.Ports.LabelGenerator
import KVOrchestrator.Verified.OrdDict

/-!
# Pseudo-labels from traces (`src/feature_engineering/importance_scorer.py`)

`generate_pseudo_labels` adds a column of importance scores to a telemetry
frame, by one of three strategies.  Two of them score a row by its own cells
relative to the maxima of the frame; `future_reuse` sorts the frame by step and
counts, for each row, the rows of its block in the steps after it.
-/

namespace KVOrchestrator.Ports

open KVOrchestrator.Verified

/-- A telemetry frame.  A field of a row whose name is no column is not part of
the frame. -/
structure TraceFrame where
  columns : List String
  rows : List TelemetryRecord
  deriving DecidableEq

/-- A frame with the column `importance_score`. -/
structure LabeledFrame where
  columns : List String
  rows : List (TelemetryRecord × ℚ)
  deriving DecidableEq

/-- `DataFrame.sort_values("last_access_step")`: ascending, rows of one step in
any order. -/
class StepSort where
  sortValues : List TelemetryRecord → List TelemetryRecord
  sortValues_perm : ∀ rows, (sortValues rows).Perm rows
  sortValues_ascending : ∀ rows,
    (sortValues rows).Pairwise (fun a b => a.lastAccessStep ≤ b.lastAccessStep)

/-- A sort that keeps rows of one step in their order. -/
@[reducible] def stableStepSort : StepSort where
  sortValues rows := sortBy (·.lastAccessStep) rows
  sortValues_perm rows := sortBy_perm _ rows
  sortValues_ascending rows := pairwise_sortBy (fun r : TelemetryRecord => r.lastAccessStep) rows

namespace TraceFrame

/-- `df[name]` -/
def column {α : Type} (df : TraceFrame) (name : String) (cell : TelemetryRecord → α) :
    Except PyError (List α) :=
  if name ∈ df.columns then .ok (df.rows.map cell) else .error (.other s!"KeyError: {name}")

/-- `df["importance_score"] = scores`: an existing column keeps its place. -/
def withScores (df : TraceFrame) (scores : List ℚ) : LabeledFrame where
  columns :=
    if "importance_score" ∈ df.columns then df.columns else df.columns ++ ["importance_score"]
  rows := df.rows.zip scores

/-- Scores computed row by row stand next to their rows. -/
@[simp] theorem rows_withScores_map (df : TraceFrame) (score : TelemetryRecord → ℚ) :
    (df.withScores (df.rows.map score)).rows = df.rows.map (fun r => (r, score r)) := by
  rw [withScores]
  exact List.map_prod_left_eq_zip.symm

end TraceFrame

/-- The steps of each block id, `df.groupby("block_id")["last_access_step"]`
as a dictionary of lists. -/
def blockGroups (rows : List TelemetryRecord) : OrdDict Int (List Int) :=
  OrdDict.groups (·.blockId) (·.lastAccessStep) rows

structure ImportanceScorer where
  alpha : ℚ := 40 / 100
  beta : ℚ := 30 / 100
  gamma : ℚ := 30 / 100
  delta : ℚ := 10 / 100
  deriving DecidableEq

namespace ImportanceScorer

/-- The strategy `attention_mass`. -/
def labelAttentionMass (df : TraceFrame) : Except PyError LabeledFrame := do
  let att ← df.column "avg_attention_score" (·.avgAttentionScore)
  let maxAttn := maxD att 0
  return df.withScores (att.map (fun a => a / max maxAttn (1 / 10 ^ 9)))

/-- Steps of a block in the window after `currentStep`. -/
def futureAccesses (steps : List Int) (currentStep window : Int) : Nat :=
  steps.countP (fun s => decide (currentStep < s ∧ s ≤ currentStep + window))

/-- Label = 1 if the block is accessed again within `window` steps. -/
def labelFutureReuse [StepSort] (df : TraceFrame) (window : Int) : LabeledFrame :=
  if "last_access_step" ∉ df.columns ∨ "block_id" ∉ df.columns then
    df.withScores (df.rows.map (fun _ => 5 / 10))
  else
    let df := { df with rows := StepSort.sortValues df.rows }
    let groups := blockGroups df.rows
    df.withScores (df.rows.map (fun row =>
      let steps := (groups.get? row.blockId).getD []
      min 1 (futureAccesses steps row.lastAccessStep window / max (window / 10 : ℚ) 1)))

/-- Full oracle: attention, reuse and quality terms less the memory cost. -/
def labelCombined (sc : ImportanceScorer) (df : TraceFrame) : Except PyError LabeledFrame := do
  -- attention component
  let avgAttention ← df.column "avg_attention_score" (·.avgAttentionScore)
  let maxAttn := maxD avgAttention 0
  let att (r : TelemetryRecord) : ℚ := r.avgAttentionScore / max maxAttn (1 / 10 ^ 9)
  -- reuse probability from the reuse flag and the access count
  let _ ← df.column "prefix_reuse_flag" (·.prefixReuseFlag)
  let accessCounts ← df.column "access_count" (fun r => (r.accessCount : ℚ))
  let maxCount := maxD (accessCounts.map (fun c => max c 1)) 1
  let reu (r : TelemetryRecord) : ℚ :=
    clip01 ((if r.prefixReuseFlag then 1 else 0) + r.accessCount / maxCount * (5 / 10))
  -- quality drop proxy: maximal attention
  let maxAttention ← df.column "max_attention_score" (·.maxAttentionScore)
  let maxMaxAttn := maxD maxAttention 0
  let qd (r : TelemetryRecord) : ℚ := r.maxAttentionScore / max maxMaxAttn (1 / 10 ^ 9)
  return df.withScores (df.rows.map (fun r =>
    clip01 (sc.alpha * att r + sc.beta * reu r + sc.gamma * qd r - sc.delta * 1)))

/-- Generate block importance pseudo-labels from a telemetry trace. -/
def generatePseudoLabels [StepSort] (sc : ImportanceScorer) (traceDf : TraceFrame)
    (strategy : String := "combined") (futureWindowSteps : Int := 100) :
    Except PyError LabeledFrame :=
  if strategy = "attention_mass" then labelAttentionMass traceDf
  else if strategy = "future_reuse" then .ok (labelFutureReuse traceDf futureWindowSteps)
  else if strategy = "combined" then sc.labelCombined traceDf
  else .error (.valueError (s!"Unknown labeling strategy: '{strategy}'. " ++
    "Choose from: attention_mass, future_reuse, combined."))

theorem generatePseudoLabels_futureReuse [StepSort] (sc : ImportanceScorer) (df : TraceFrame)
    (window : Int) :
    sc.generatePseudoLabels df "future_reuse" window = .ok (labelFutureReuse df window) := rfl

end ImportanceScorer

end KVOrchestrator.Ports
