import KVOrchestrator.Ports.CollectorRun
import KVOrchestrator.Ports.EngineRun
import KVOrchestrator.Ports.Heuristic
import KVOrchestrator.Ports.RequestLifecycle

/-!
# Queries for the most recent items

Three buffers keep the latest items of a serving process: the records a
collector has not flushed yet, the statistics of the last policy cycles, and the
requests completed last.  Each has a query for its `n` most recent items, and
all three slice `[-n:]`.  For `n = 0` this is `[0:]`, the whole buffer
(`isTail_sliceFrom_neg_iff`); the telemetry endpoint hands the number of its
client through as it is.
-/

namespace KVOrchestrator.Ports

open KVOrchestrator.Verified

/-- Up to `n` most recently buffered records. -/
def TelemetryCollector.getRecentRecords (c : TelemetryCollector) (n : Int := 1000) :
    List TelemetryRecord := sliceFrom c.buffer (-n)

/-- The `n` most recent statistics. -/
def PolicyEngine.getDecisionHistory {π : Type} (e : PolicyEngine π) (n : Int := 100) :
    List PolicyStats := sliceFrom e.history (-n)

/-- The `n` most recently completed requests. -/
def RequestHandler.getRecentCompleted (h : RequestHandler) (n : Int := 100) :
    List RequestRecord := sliceFrom h.completed (-n)

/-- The response of the endpoint. -/
structure TelemetryResponse where
  records : List TelemetryRecord
  count : Option Nat := none

/-- `/v1/cache/telemetry/recent` -/
def recentTelemetry (collector : Option TelemetryCollector) (n : Int := 200) :
    TelemetryResponse :=
  match collector with
  | none => { records := [] }
  | some c =>
      let records := c.getRecentRecords n
      { records := records
        count := some records.length }

/-- A serving process: an engine, with the collector it may have, and a
handler. -/
structure ServingProcess (π : Type) where
  engine : PolicyEngine π
  handler : RequestHandler

/-- One operation on the engine, its collector or the handler. -/
inductive ProcessOp (π : Type) where
  | engine (op : EngineOp π)
  | collector (op : CollectorOp)
  | handler (op : HandlerOp)

namespace ServingProcess

variable {π : Type}

def perform [PolicyInterface π] (s : ServingProcess π) : ProcessOp π → ServingProcess π
  | .engine op => { s with engine := s.engine.perform op }
  | .collector op =>
      { s with
        engine :=
          { s.engine with
            telemetryCollector := s.engine.telemetryCollector.map (·.perform op) } }
  | .handler op => { s with handler := s.handler.perform op }

/-- A process whose buffers are empty. -/
def init (policy : π) (numLayers numHeads blockSize headDim maxConcurrent : Nat)
    (router : WorkloadRouter) (collector : Option TelemetryCollector) : ServingProcess π where
  engine := PolicyEngine.init policy numLayers numHeads blockSize headDim collector
  handler := RequestHandler.init maxConcurrent router

/-- The records buffered by the collector, if there is one. -/
def buffered (s : ServingProcess π) : List TelemetryRecord :=
  (s.engine.telemetryCollector.map (·.buffer)).getD []

/-- Every query for `n` items returns the end of its buffer. -/
structure TailQueries (n : Nat) (s : ServingProcess π) : Prop where
  records : ∀ c, s.engine.telemetryCollector = some c → IsTail n (c.getRecentRecords n) c.buffer
  endpoint : IsTail n (recentTelemetry s.engine.telemetryCollector n).records s.buffered
  decisions : IsTail n (s.engine.getDecisionHistory n) s.engine.history
  completed : IsTail n (s.handler.getRecentCompleted n) s.handler.completed

/-- None of the buffers holds an item. -/
structure HoldsNothing (s : ServingProcess π) : Prop where
  buffered : s.buffered = []
  history : s.engine.history = []
  completed : s.handler.completed = []

/-- The endpoint answers as the collector does, and without one as an empty
buffer would. -/
theorem isTail_endpoint_iff (n : Nat) (s : ServingProcess π) :
    IsTail n (recentTelemetry s.engine.telemetryCollector n).records s.buffered ↔
      0 < n ∨ s.buffered = [] := by
  rw [buffered]
  cases s.engine.telemetryCollector with
  | none =>
      have hempty : IsTail n ([] : List TelemetryRecord) [] :=
        ⟨List.suffix_refl [], (Nat.min_zero n).symm⟩
      exact iff_of_true hempty (.inr rfl)
  | some c => exact isTail_sliceFrom_neg_iff c.buffer n

theorem tailQueries_iff (n : Nat) (s : ServingProcess π) :
    s.TailQueries n ↔ 0 < n ∨ s.HoldsNothing := by
  constructor
  · intro h
    rcases Nat.eq_zero_or_pos n with rfl | hn
    · right
      exact
        { buffered := ((isTail_endpoint_iff 0 s).mp h.endpoint).resolve_left (Nat.lt_irrefl 0)
          history := ((isTail_sliceFrom_neg_iff s.engine.history 0).mp
            h.decisions).resolve_left (Nat.lt_irrefl 0)
          completed := ((isTail_sliceFrom_neg_iff s.handler.completed 0).mp
            h.completed).resolve_left (Nat.lt_irrefl 0) }
    · exact .inl hn
  · intro h
    exact
      { records := by
          intro c hc
          rw [TelemetryCollector.getRecentRecords, isTail_sliceFrom_neg_iff]
          apply h.imp_right
          intro hnothing
          have hbuffered := hnothing.buffered
          rw [buffered, hc] at hbuffered
          exact hbuffered
        endpoint := (isTail_endpoint_iff n s).mpr (h.imp_right (·.buffered))
        decisions := (isTail_sliceFrom_neg_iff s.engine.history n).mpr (h.imp_right (·.history))
        completed :=
          (isTail_sliceFrom_neg_iff s.handler.completed n).mpr (h.imp_right (·.completed)) }

end ServingProcess

/-- **Queries for the most recent items.**

In every run of a process, the queries for `n` items return the end of their
buffers in each state exactly if `n` is positive or nothing is ever held. -/
theorem tail_queries_iff {π : Type} [PolicyInterface π] (n : Nat) (s : ServingProcess π)
    (ops : List (ProcessOp π)) :
    Throughout ServingProcess.perform (ServingProcess.TailQueries n) s ops ↔
      0 < n ∨ Throughout ServingProcess.perform ServingProcess.HoldsNothing s ops := by
  constructor
  · intro h
    rcases Nat.eq_zero_or_pos n with rfl | hn
    · right
      intro done hdone
      exact ((ServingProcess.tailQueries_iff 0 _).mp (h done hdone)).resolve_left
        (Nat.lt_irrefl 0)
    · exact .inl hn
  · intro h done hdone
    exact (ServingProcess.tailQueries_iff n _).mpr (h.imp_right (fun hall => hall done hdone))

/-- A process with the collector of a memory storage. -/
def bufferingProcess : ServingProcess FullCachePolicy :=
  ServingProcess.init { config := {} } 1 1 16 128 32 plainRouter
    (some (TelemetryCollector.init "m" 10 { backend := .memory } (fun _ => 0)))

/-- Asked for no records, the endpoint returns the one it has. -/
theorem tail_query_of_none :
    let ops : List (ProcessOp FullCachePolicy) :=
      [ .collector (.recordBlockEvent
        { block := { blockId := 1, layerId := 0, headGroup := 0, requestId := "r" }
          decision := .keepGpu }) ]
    (recentTelemetry (run ServingProcess.perform bufferingProcess ops).engine.telemetryCollector
        0).records.length = 1 ∧
      ¬Throughout ServingProcess.perform (ServingProcess.TailQueries 0) bufferingProcess ops := by
  intro ops
  have hone : (recentTelemetry
      (run ServingProcess.perform bufferingProcess ops).engine.telemetryCollector
        0).records.length = 1 := by decide
  refine ⟨hone, ?_⟩
  intro h
  have hlength := (h ops (List.prefix_refl ops)).endpoint.2
  rw [Nat.zero_min] at hlength
  exact absurd (hone.symm.trans hlength) (by decide)

end KVOrchestrator.Ports
