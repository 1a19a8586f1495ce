import KVOrchestrator.Ports.PressureFeedback

/-!
# What a cycle writes to the trace

The recording pass looks every decided block up in the tracker the apply pass
has already changed, and writes nothing for a block it does not find.  The
rows of a cycle are therefore those of the decisions whose block is still
tracked (`rows_recordDecisions`): an evicted block never gets one, so a trace
is complete exactly for the cycles that evict nothing
(`telemetry_complete_iff`).
-/

namespace KVOrchestrator.Ports

open KVOrchestrator.Verified

/-- The part of a record that names its decision. -/
def TelemetryRecord.label (r : TelemetryRecord) : Int × String := (r.blockId, r.decisionLabel)

/-- The block and the label of a decision. -/
def PolicyDecision.label (d : PolicyDecision) : Int × String := (d.blockId, d.decision.value)

/-- Between two collector states, one record per decision was added, in
decision order. -/
def EmitsDecisions (c c' : TelemetryCollector) (decisions : List PolicyDecision) : Prop :=
  ∃ rows, c'.recorded = c.recorded ++ rows ∧
    rows.map (·.label) = decisions.map (·.label)

/-- One decision adds one row if its block is still tracked, and none
otherwise. -/
theorem rows_recordDecision (t : BlockTracker) {c : TelemetryCollector}
    (hc : c.enabled = true) (d : PolicyDecision) :
    (recordDecision t c d).enabled = true ∧
      ∃ rows, (recordDecision t c d).recorded = c.recorded ++ rows ∧
        rows.map (·.label) =
          ([d].filter (fun d => decide (d.blockId ∈ t.ids))).map (·.label) := by
  cases hblock : t.getBlock d.blockId with
  | none =>
      have htracked : d.blockId ∉ t.ids := (t.getBlock_eq_none_iff _).mp hblock
      simp only [recordDecision, hblock]
      exact ⟨hc, [], by simp, by simp [htracked]⟩
  | some b =>
      have hb := (t.getBlock_eq_some_iff _ _).mp hblock
      have htracked : d.blockId ∈ t.ids := by
        rw [← hb.2, ← t.map_blockId_getAllBlocks]
        exact List.mem_map_of_mem hb.1
      simp only [recordDecision, hblock]
      obtain ⟨r, hid, hlabel, hrec⟩ :=
        TelemetryCollector.recorded_recordBlockEvent hc b d.decision
      refine ⟨by simpa using hc, [r], hrec, ?_⟩
      simp [htracked, TelemetryRecord.label, PolicyDecision.label, hid, hlabel, hb.2]

/-- The rows of the recording pass are those of the decisions whose block is
still tracked. -/
theorem rows_recordDecisions (t : BlockTracker) (decisions : List PolicyDecision) :
    ∀ {c : TelemetryCollector}, c.enabled = true →
      ∃ rows, (recordDecisions t c decisions).recorded = c.recorded ++ rows ∧
        rows.map (·.label) =
          (decisions.filter (fun d => decide (d.blockId ∈ t.ids))).map (·.label) := by
  induction decisions with
  | nil =>
      intro c _
      exact ⟨[], by simp [recordDecisions], rfl⟩
  | cons d rest ih =>
      intro c hc
      obtain ⟨hen, first, hfirst, hlabel⟩ := rows_recordDecision t hc d
      obtain ⟨others, hothers, hlabels⟩ := ih hen
      refine ⟨first ++ others, ?_, ?_⟩
      · change (recordDecisions t (recordDecision t c d) rest).recorded = _
        rw [hothers, hfirst, List.append_assoc]
      · rw [List.map_append, hlabel, hlabels, ← List.map_append, ← List.filter_append]
        rfl

/-- After the apply pass every decided block is still tracked exactly when
every decision names a tracked block and none evicts. -/
theorem forall_tracked_iff (t : BlockTracker) (decisions : List PolicyDecision) :
    (∀ d ∈ decisions, d.blockId ∈ (applyDecisions t decisions).ids) ↔
      ∀ d ∈ decisions, d.decision ≠ .evict ∧ d.blockId ∈ t.ids := by
  simp only [ids_applyDecisions, List.mem_filter, decide_eq_true_iff]
  constructor
  · intro h d hd
    exact ⟨fun hevict => (h d hd).2 ⟨d, hd, rfl, hevict⟩, (h d hd).1⟩
  · intro h d hd
    refine ⟨(h d hd).2, ?_⟩
    rintro ⟨d', hd', _, hevict⟩
    exact (h d' hd').1 hevict

/-- The recording pass covers the whole list exactly when every decided block
is still tracked. -/
theorem emitsDecisions_iff (t : BlockTracker) {c : TelemetryCollector}
    (hc : c.enabled = true) (decisions : List PolicyDecision) :
    EmitsDecisions c (recordDecisions t c decisions) decisions ↔
      ∀ d ∈ decisions, d.blockId ∈ t.ids := by
  obtain ⟨rows, hrec, hlabels⟩ := rows_recordDecisions t decisions hc
  constructor
  · rintro ⟨rows', hrec', hlabels'⟩
    have hrows : rows = rows' := List.append_cancel_left (hrec.symm.trans hrec')
    have hlen := congrArg List.length (hlabels.symm.trans (hrows ▸ hlabels'))
    rw [List.length_map, List.length_map, List.length_filter_eq_length_iff] at hlen
    intro d hd
    simpa using hlen d hd
  · intro h
    have hall : decisions.filter (fun d => decide (d.blockId ∈ t.ids)) = decisions :=
      List.filter_eq_self.mpr (fun d hd => by simpa using h d hd)
    exact ⟨rows, hrec, by rw [hlabels, hall]⟩

/-- **Completeness of the trace.**  With an enabled collector, a cycle emits
one record per decision, in decision order, if and only if none of its
decisions is `EVICT` and all of them name tracked blocks. -/
theorem telemetry_complete_iff {π : Type} [PolicyInterface π] (e : PolicyEngine π)
    {c : TelemetryCollector} (hcollector : e.telemetryCollector = some c)
    (henabled : c.enabled = true) :
    (∃ c', e.cycle.telemetryCollector = some c' ∧ EmitsDecisions c c' e.cycleDecisions) ↔
      ∀ d ∈ e.cycleDecisions, d.decision ≠ .evict ∧ d.blockId ∈ e.blockTracker.ids := by
  rw [e.telemetryCollector_cycle, hcollector, Option.map_some, e.blockTracker_cycle,
    ← forall_tracked_iff, ← emitsDecisions_iff _ henabled]
  constructor
  · rintro ⟨c', hc', hemits⟩
    rw [Option.some.inj hc']
    exact hemits
  · intro hemits
    exact ⟨_, rfl, hemits⟩

/-- Quantisation over two FP16 blocks, with telemetry. -/
def recordedQuantizeEngine : PolicyEngine QuantizeOnlyPolicy where
  policy := ⟨{ config := { sinkTokenBlocks := 0 } }⟩
  blockTracker := twoBlocks
  telemetryCollector := some {}

theorem telemetry_complete_iff_quantize :
    ∃ c', recordedQuantizeEngine.cycle.telemetryCollector = some c' ∧
      EmitsDecisions {} c' recordedQuantizeEngine.cycleDecisions :=
  (telemetry_complete_iff recordedQuantizeEngine rfl rfl).mpr (by decide +kernel)

/-- The full-cache baseline over two FP16 blocks, with telemetry. -/
def recordedFullCacheEngine : PolicyEngine FullCachePolicy where
  policy := ⟨{ config := {} }⟩
  blockTracker := twoBlocks
  telemetryCollector := some {}

/-- The cycle keeps one block and evicts the other; the eviction leaves no
record. -/
theorem telemetry_incomplete_full_cache :
    recordedFullCacheEngine.cycleDecisions.map (·.label) = [(1, "evict"), (2, "keep_gpu")] ∧
      recordedFullCacheEngine.cycle.telemetryCollector.map
        (fun c => c.recorded.map (·.label)) = some [(2, "keep_gpu")] ∧
      ¬∃ c', recordedFullCacheEngine.cycle.telemetryCollector = some c' ∧
        EmitsDecisions {} c' recordedFullCacheEngine.cycleDecisions := by
  have hdecisions : recordedFullCacheEngine.cycleDecisions.map (·.label) =
      [(1, "evict"), (2, "keep_gpu")] := by
    decide +kernel
  have hrows : recordedFullCacheEngine.cycle.telemetryCollector.map
      (fun c => c.recorded.map (·.label)) = some [(2, "keep_gpu")] := by
    decide +kernel
  refine ⟨hdecisions, hrows, ?_⟩
  rintro ⟨c', hc', rows, hrec, hlabels⟩
  rw [hc', Option.map_some, hrec] at hrows
  have hlabels' : rows.map (·.label) = [(2, "keep_gpu")] := Option.some.inj hrows
  rw [hdecisions, hlabels'] at hlabels
  exact absurd hlabels (by decide)

end KVOrchestrator.Ports
