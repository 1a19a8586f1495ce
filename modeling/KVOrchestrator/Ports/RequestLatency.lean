import KVOrchestrator.Ports.CollectorRun
import KVOrchestrator.Ports.PolicyEngine

/-!
# Which latency a record carries

`record_request_completion` keeps the metrics of a finished request for the
block events that follow it, and `get_request_metrics` returns them
(`getRequestMetrics_run`).  `record_block_event` does not ask for them: it takes
its latency columns from its own argument, and without that argument they are
the defaults (`latencyColumns_perform`).  So the metrics of a request reach its
records exactly if they look like the defaults themselves
(`request_latency_reaches_iff`).  The policy engine passes no metrics in any
cycle (`latencyColumns_recordDecisions`).
-/

namespace KVOrchestrator.Ports

open KVOrchestrator.Verified

/-- The metrics an operation registers for a request. -/
def CollectorOp.registers (requestId : String) : CollectorOp → Option RequestMetrics
  | .recordRequestCompletion metrics =>
      if metrics.requestId = requestId then some metrics else none
  | _ => none

/-- The metrics registered last for a request in the course of `ops`. -/
def lastRegistered (requestId : String) : List CollectorOp → Option RequestMetrics
  | [] => none
  | op :: ops => (lastRegistered requestId ops).or (op.registers requestId)

/-- The latency columns and the task score of a record are those of `m`. -/
def CarriesMetrics (record : TelemetryRecord) (m : RequestMetrics) : Prop :=
  record.latencyMs = m.latencyMs ∧ record.ttftMs = m.ttftMs ∧ record.tpotMs = m.tpotMs ∧
    record.taskScore = m.taskScore.getD (-1)

/-- The latency columns and the task score of a record are the defaults. -/
def DefaultLatency (record : TelemetryRecord) : Prop :=
  record.latencyMs = 0 ∧ record.ttftMs = 0 ∧ record.tpotMs = 0 ∧ record.taskScore = -1

/-- Metrics that cannot be told from no metrics in a record. -/
def RequestMetrics.LooksDefault (m : RequestMetrics) : Prop :=
  m.latencyMs = 0 ∧ m.ttftMs = 0 ∧ m.tpotMs = 0 ∧ m.taskScore.getD (-1) = -1

/-- An event without metrics of its own, of a request whose metrics are known. -/
structure UnannotatedEvent (ops : List CollectorOp) where
  done : List CollectorOp
  event : BlockEvent
  metrics : RequestMetrics
  performed : done ++ [.recordBlockEvent event] <+: ops
  unannotated : event.requestMetrics = none
  registered : lastRegistered event.block.requestId done = some metrics

namespace TelemetryCollector

/-! ## What the cache holds -/

@[simp] theorem requestCache_flushLocked (c : TelemetryCollector) :
    c.flushLocked.requestCache = c.requestCache := by
  rcases c.flushLocked_cases with ⟨_, _, h⟩ | ⟨_, _, _, _, _, _, h⟩ | ⟨_, _, _, _, _, h⟩
  · rw [h]
  · rw [h]
  · rw [h]

@[simp] theorem requestCache_pushRecord (c : TelemetryCollector) (record : TelemetryRecord) :
    (c.pushRecord record).requestCache = c.requestCache := by
  simp only [pushRecord]
  split
  · rw [requestCache_flushLocked]
  · rfl

theorem getRequestMetrics_perform {c : TelemetryCollector} (hc : c.enabled = true)
    (op : CollectorOp) (requestId : String) :
    (c.perform op).getRequestMetrics requestId =
      (op.registers requestId).or (c.getRequestMetrics requestId) := by
  cases op with
  | recordBlockEvent event =>
      rw [perform_recordBlockEvent hc, getRequestMetrics, requestCache_pushRecord]
      rfl
  | recordRequestCompletion metrics =>
      rw [perform, recordRequestCompletion, if_neg (by simp [hc])]
      show (c.requestCache.set metrics.requestId metrics).get? requestId = _
      by_cases hid : metrics.requestId = requestId
      · rw [← hid, OrdDict.get?_set_self, CollectorOp.registers, if_pos rfl]
        rfl
      · rw [OrdDict.get?_set_of_ne _ (Ne.symm hid), CollectorOp.registers, if_neg hid]
        rfl
  | flush =>
      rw [perform, flush, getRequestMetrics, requestCache_flushLocked]
      rfl
  | flushTick =>
      rw [perform, getRequestMetrics, requestCache_flushLocked]
      rfl

/-- **The cache** answers with the metrics registered last. -/
theorem getRequestMetrics_run (ops : List CollectorOp) (requestId : String) :
    ∀ c : TelemetryCollector, c.enabled = true →
      (run perform c ops).getRequestMetrics requestId =
        (lastRegistered requestId ops).or (c.getRequestMetrics requestId) := by
  induction ops with
  | nil => exact fun c _ => rfl
  | cons op ops ih =>
      intro c hc
      have hop := effect_perform hc op
      have hrest := ih (c.perform op) (hop.enabled.trans hc)
      rw [getRequestMetrics_perform hc] at hrest
      show (run perform (c.perform op) ops).getRequestMetrics requestId = _
      rw [hrest, lastRegistered, Option.or_assoc]

/-! ## What an event writes -/

/-- An event without metrics writes the default latency. -/
theorem latencyColumns_perform {c : TelemetryCollector} (hc : c.enabled = true)
    {event : BlockEvent} (hevent : event.requestMetrics = none) :
    ∃ record, (c.perform (.recordBlockEvent event)).recorded = c.recorded ++ [record] ∧
      DefaultLatency record := by
  refine ⟨event.record c.modelName (c.clock c.totalRecords), ?_, ?_⟩
  · rw [perform_recordBlockEvent hc, recorded_pushRecord]
  · unfold BlockEvent.record
    rw [hevent]
    exact ⟨rfl, rfl, rfl, rfl⟩

/-- The records of a cycle have the default latency. -/
theorem latencyColumns_recordDecisions (t : BlockTracker) (decisions : List PolicyDecision) :
    ∀ c : TelemetryCollector, c.enabled = true →
      ∃ records, (recordDecisions t c decisions).recorded = c.recorded ++ records ∧
        ∀ record ∈ records, DefaultLatency record := by
  induction decisions with
  | nil =>
      intro c _
      exact ⟨[], (List.append_nil _).symm, fun record hrecord => by cases hrecord⟩
  | cons d decisions ih =>
      intro c hc
      cases hblock : t.getBlock d.blockId with
      | none =>
          have hstep : recordDecision t c d = c := by rw [recordDecision, hblock]
          show ∃ records, (recordDecisions t (recordDecision t c d) decisions).recorded =
            c.recorded ++ records ∧ _
          rw [hstep]
          exact ih c hc
      | some block =>
          have hstep : recordDecision t c d =
              c.perform (.recordBlockEvent { block := block, decision := d.decision }) := by
            rw [recordDecision, hblock]
            rfl
          have hnone : ({ block := block, decision := d.decision } : BlockEvent).requestMetrics =
              none := rfl
          obtain ⟨record, hrecord, hdefault⟩ := latencyColumns_perform hc hnone
          obtain ⟨records, hrecords, hall⟩ := ih (recordDecision t c d) (by
            rw [hstep]
            exact (effect_perform hc _).enabled.trans hc)
          refine ⟨record :: records, ?_, ?_⟩
          · show (recordDecisions t (recordDecision t c d) decisions).recorded = _
            rw [hrecords, hstep, hrecord, List.append_assoc]
            rfl
          · intro r hr
            rcases List.mem_cons.mp hr with rfl | htail
            · exact hdefault
            · exact hall r htail

end TelemetryCollector

/-- The records of unannotated events carry the metrics of their requests. -/
def LatencyReaches (c : TelemetryCollector) (ops : List CollectorOp) : Prop :=
  ∀ e : UnannotatedEvent ops, ∀ record,
    (run TelemetryCollector.perform c (e.done ++ [.recordBlockEvent e.event])).recorded =
      (run TelemetryCollector.perform c e.done).recorded ++ [record] →
    CarriesMetrics record e.metrics

/-- Default columns carry metrics that look like them, and no others. -/
theorem carriesMetrics_iff {record : TelemetryRecord} (h : DefaultLatency record)
    (m : RequestMetrics) : CarriesMetrics record m ↔ m.LooksDefault := by
  obtain ⟨hlatency, httft, htpot, hscore⟩ := h
  rw [CarriesMetrics, RequestMetrics.LooksDefault, hlatency, httft, htpot, hscore]
  constructor
  · rintro ⟨h1, h2, h3, h4⟩
    exact ⟨h1.symm, h2.symm, h3.symm, h4.symm⟩
  · rintro ⟨h1, h2, h3, h4⟩
    exact ⟨h1.symm, h2.symm, h3.symm, h4.symm⟩

/-- **Registered latency reaches the records only if it is the default.**

In any run of an enabled collector, the records of events that pass no metrics
carry the metrics registered last for their requests exactly if all these
metrics have zero latency, TTFT and TPOT, and no task score or the score -1. -/
theorem request_latency_reaches_iff {c : TelemetryCollector} (hc : c.enabled = true)
    (ops : List CollectorOp) :
    LatencyReaches c ops ↔ ∀ e : UnannotatedEvent ops, e.metrics.LooksDefault := by
  have hemitted : ∀ e : UnannotatedEvent ops, ∃ record,
      (run TelemetryCollector.perform c (e.done ++ [.recordBlockEvent e.event])).recorded =
        (run TelemetryCollector.perform c e.done).recorded ++ [record] ∧
      DefaultLatency record := by
    intro e
    have henabled := (TelemetryCollector.effect_run e.done c hc).enabled.trans hc
    have hlast : run TelemetryCollector.perform c (e.done ++ [.recordBlockEvent e.event]) =
        (run TelemetryCollector.perform c e.done).perform (.recordBlockEvent e.event) :=
      List.foldl_append
    rw [hlast]
    exact TelemetryCollector.latencyColumns_perform henabled e.unannotated
  constructor
  · intro h e
    obtain ⟨record, hrecord, hdefault⟩ := hemitted e
    exact (carriesMetrics_iff hdefault e.metrics).mp (h e record hrecord)
  · intro h e record hrecord
    obtain ⟨record', hrecord', hdefault⟩ := hemitted e
    have hsame : record = record' := by
      rw [hrecord'] at hrecord
      exact (List.singleton_inj.mp (List.append_cancel_left hrecord)).symm
    rw [hsame]
    exact (carriesMetrics_iff hdefault e.metrics).mpr (h e)

/-- A request of 120 ms completes, and one of its blocks is decided on. -/
def completedRequestOps : List CollectorOp :=
  [ .recordRequestCompletion
      { requestId := "r"
        startTime := 0
        endTime := 12 / 100
        latencyMs := 120
        ttftMs := 30
        tpotMs := 15
        promptTokens := 100
        generatedTokens := 6
        taskScore := some (9 / 10) },
    .recordBlockEvent (plainEvent 1) ]

/-- The event of the completed request. -/
def completedRequestEvent : UnannotatedEvent completedRequestOps where
  done := completedRequestOps.take 1
  event := plainEvent 1
  metrics :=
    { requestId := "r"
      startTime := 0
      endTime := 12 / 100
      latencyMs := 120
      ttftMs := 30
      tpotMs := 15
      promptTokens := 100
      generatedTokens := 6
      taskScore := some (9 / 10) }
  performed := List.prefix_refl _
  unannotated := rfl
  registered := by decide +kernel

theorem request_latency_reaches_completed :
    ¬LatencyReaches (TelemetryCollector.init "m" 10 {} (fun _ => 0)) completedRequestOps := by
  have hiff := request_latency_reaches_iff
    (c := TelemetryCollector.init "m" 10 {} (fun _ => 0)) rfl completedRequestOps
  intro h
  have hzero := (hiff.mp h completedRequestEvent).1
  exact absurd hzero (by decide +kernel)

/-- The completed request took 120 ms, and its block is recorded with 0 ms. -/
theorem completed_request_latency_lost :
    ¬LatencyReaches (TelemetryCollector.init "m" 10 {} (fun _ => 0)) completedRequestOps ∧
      completedRequestEvent.metrics.latencyMs = 120 ∧
      (run TelemetryCollector.perform (TelemetryCollector.init "m" 10 {} (fun _ => 0))
        completedRequestOps).recorded.map (·.latencyMs) = [0] := by
  refine ⟨?_, rfl, by decide +kernel⟩
  intro h
  have hcarries := h completedRequestEvent ((plainEvent 1).record "m" 0) (by decide +kernel)
  exact absurd hcarries.1 (by decide +kernel)

end KVOrchestrator.Ports
