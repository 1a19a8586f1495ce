import KVOrchestrator.Ports.PolicyEngine
import KVOrchestrator.Verified.Dynamics
import KVOrchestrator.Verified.Percentile
import KVOrchestrator.Verified.SortedEnds

/-!
# Throughput counters (`src/evaluators/system_metrics.py`)

The collector keeps latencies, token counts and times of the requests in deques
of bounded length and reads its counters back from them.  After a run of
requests each deque holds the last ten thousand entries (`holdsEnd_run`), so
`total_requests` is right for as many requests, and the counts over a window for
as many requests within the window (`recentRequests_run`).

The clock readings of the calls are given to them.  Hardware polling and the
memory it reads are left to the caller of `get_summary`.
-/

namespace KVOrchestrator.Ports

open KVOrchestrator.Verified

/-! ## Latency tracker -/

/-- A window over the last observations. -/
structure LatencyTracker where
  windowSize : Nat := 10000
  window : List ℚ := []
  deriving DecidableEq

namespace LatencyTracker

def record (t : LatencyTracker) (value : ℚ) : LatencyTracker :=
  { t with window := dequeAppend t.windowSize t.window value }

/-- The `p`-th percentile of the window. -/
def percentile (t : LatencyTracker) (p : ℚ) : ℚ :=
  if t.window.isEmpty then 0 else KVOrchestrator.Verified.percentile t.window p

def mean (t : LatencyTracker) : ℚ :=
  if t.window.isEmpty then 0 else t.window.sum / t.window.length

def count (t : LatencyTracker) : Nat := t.window.length

end LatencyTracker

/-! ## The collector -/

/-- The arguments of `record_request`, and the clock reading. -/
structure RequestCall where
  requestId : String
  latencyMs : ℚ
  ttftMs : ℚ
  tpotMs : ℚ
  tokensGenerated : Int
  now : ℚ
  deriving DecidableEq

/-- The length of the two deques of times. -/
def maxTimestamps : Nat := 10000

structure SystemMetricsCollector where
  latency : LatencyTracker := {}
  ttft : LatencyTracker := {}
  tpot : LatencyTracker := {}
  tokenTimestamps : List (ℚ × Int) := []
  requestTimestamps : List ℚ := []
  deriving DecidableEq

/-- What `get_summary` reports. -/
structure MetricsSummary where
  rps : ℚ
  throughputTps : ℚ
  p50LatencyMs : ℚ
  p95LatencyMs : ℚ
  p99LatencyMs : ℚ
  avgTtftMs : ℚ
  avgTpotMs : ℚ
  totalRequests : Nat
  gpuMemUsedMb : ℚ
  gpuMemFreeMb : ℚ
  deriving DecidableEq

namespace SystemMetricsCollector

/-- Record per-request metrics. -/
def recordRequest (c : SystemMetricsCollector) (call : RequestCall) : SystemMetricsCollector where
  latency := c.latency.record call.latencyMs
  ttft := c.ttft.record call.ttftMs
  tpot := c.tpot.record call.tpotMs
  tokenTimestamps :=
    dequeAppend maxTimestamps c.tokenTimestamps (call.now, call.tokensGenerated)
  requestTimestamps := dequeAppend maxTimestamps c.requestTimestamps call.now

@[simp] theorem latency_recordRequest (c : SystemMetricsCollector) (call : RequestCall) :
    (c.recordRequest call).latency = c.latency.record call.latencyMs := by rw [recordRequest]

@[simp] theorem tokenTimestamps_recordRequest (c : SystemMetricsCollector) (call : RequestCall) :
    (c.recordRequest call).tokenTimestamps =
      dequeAppend maxTimestamps c.tokenTimestamps (call.now, call.tokensGenerated) := by
  rw [recordRequest]

@[simp] theorem requestTimestamps_recordRequest (c : SystemMetricsCollector)
    (call : RequestCall) :
    (c.recordRequest call).requestTimestamps =
      dequeAppend maxTimestamps c.requestTimestamps call.now := by rw [recordRequest]

/-- Requests in the deque from the cutoff on. -/
def recentRequests (c : SystemMetricsCollector) (cutoff : ℚ) : Nat :=
  c.requestTimestamps.countP (fun t => decide (cutoff ≤ t))

/-- Tokens in the deque from the cutoff on. -/
def recentTokens (c : SystemMetricsCollector) (cutoff : ℚ) : Int :=
  ((c.tokenTimestamps.filter (fun entry => decide (cutoff ≤ entry.1))).map (·.2)).sum

/-- Aggregate metrics over the last `windowS` seconds. -/
def getSummary (c : SystemMetricsCollector) (now : ℚ) (gpuMemory : ℚ × ℚ)
    (windowS : ℚ := 60) : MetricsSummary :=
  let cutoff := now - windowS
  let rps := if windowS > 0 then c.recentRequests cutoff / windowS else 0
  let tps := if windowS > 0 then c.recentTokens cutoff / windowS else 0
  { rps := pyRound rps 2
    throughputTps := pyRound tps 2
    p50LatencyMs := pyRound (c.latency.percentile 50) 2
    p95LatencyMs := pyRound (c.latency.percentile 95) 2
    p99LatencyMs := pyRound (c.latency.percentile 99) 2
    avgTtftMs := pyRound c.ttft.mean 2
    avgTpotMs := pyRound c.tpot.mean 2
    totalRequests := c.latency.count
    gpuMemUsedMb := pyRound gpuMemory.1 1
    gpuMemFreeMb := pyRound gpuMemory.2 1 }

end SystemMetricsCollector

/-- The calls in the last `windowS` seconds. -/
def callsInWindow (calls : List RequestCall) (now windowS : ℚ) : List RequestCall :=
  calls.filter (fun call => decide (now - windowS ≤ call.now))

/-- The counters of a summary are those of all calls. -/
structure CountsAllCalls (calls : List RequestCall) (now windowS : ℚ) (summary : MetricsSummary) :
    Prop where
  total : summary.totalRequests = calls.length
  rps : summary.rps = pyRound ((callsInWindow calls now windowS).length / windowS) 2
  throughput : summary.throughputTps =
    pyRound ((((callsInWindow calls now windowS).map (·.tokensGenerated)).sum : Int) / windowS) 2

/-! ## What the deques hold -/

section Deque

variable {α : Type}

/-- The end of a list, as long as the deque is. -/
theorem dequeAppend_drop (maxlen : Nat) (items : List α) (a : α) :
    dequeAppend maxlen (items.drop (items.length - maxlen)) a =
      (items ++ [a]).drop ((items ++ [a]).length - maxlen) := by
  have hle : items.length - maxlen ≤ items.length := Nat.sub_le _ _
  rw [dequeAppend, ← List.drop_append_of_le_length hle, List.drop_drop]
  congr 1
  simp only [List.length_drop, List.length_append, List.length_singleton]
  omega

end Deque

/-- The deques hold the end of what these calls gave them. -/
structure HoldsEnd (c : SystemMetricsCollector) (calls : List RequestCall) : Prop where
  windowSize : c.latency.windowSize = 10000
  latencies : c.latency.window = (calls.map (·.latencyMs)).drop
    ((calls.map (·.latencyMs)).length - 10000)
  requests : c.requestTimestamps = (calls.map (·.now)).drop
    ((calls.map (·.now)).length - maxTimestamps)
  tokens : c.tokenTimestamps = (calls.map (fun call => (call.now, call.tokensGenerated))).drop
    ((calls.map (fun call => (call.now, call.tokensGenerated))).length - maxTimestamps)

theorem holdsEnd_init : HoldsEnd {} [] := ⟨rfl, rfl, rfl, rfl⟩

/-- One call more. -/
theorem HoldsEnd.recordRequest {c : SystemMetricsCollector} {calls : List RequestCall}
    (h : HoldsEnd c calls) (call : RequestCall) :
    HoldsEnd (c.recordRequest call) (calls ++ [call]) := by
  constructor
  case windowSize => exact h.windowSize
  case latencies =>
    rw [SystemMetricsCollector.latency_recordRequest, LatencyTracker.record, h.windowSize,
      h.latencies, dequeAppend_drop, List.map_append, List.map_singleton]
  case requests =>
    rw [SystemMetricsCollector.requestTimestamps_recordRequest, h.requests, dequeAppend_drop,
      List.map_append, List.map_singleton]
  case tokens =>
    rw [SystemMetricsCollector.tokenTimestamps_recordRequest, h.tokens, dequeAppend_drop,
      List.map_append, List.map_singleton]

/-- Any number of calls. -/
theorem holdsEnd_run (calls : List RequestCall) :
    HoldsEnd (run SystemMetricsCollector.recordRequest {} calls) calls := by
  induction calls using List.reverseRecOn with
  | nil => exact holdsEnd_init
  | append_singleton calls call ih =>
      rw [run, List.foldl_append]
      exact ih.recordRequest call

/-! ## The counters -/

section Counters

variable {c : SystemMetricsCollector} {calls : List RequestCall}

/-- The number of requests saturates at the length of the window. -/
theorem HoldsEnd.count_latency (h : HoldsEnd c calls) :
    c.latency.count = min calls.length 10000 := by
  rw [LatencyTracker.count, h.latencies, List.length_drop, List.length_map]
  omega

/-- With few calls nothing is dropped. -/
theorem HoldsEnd.recent_of_length_le (h : HoldsEnd c calls) (hlen : calls.length ≤ 10000)
    (now windowS : ℚ) :
    c.recentRequests (now - windowS) = (callsInWindow calls now windowS).length ∧
      c.recentTokens (now - windowS) =
        ((callsInWindow calls now windowS).map (·.tokensGenerated)).sum := by
  have hzero : calls.length - maxTimestamps = 0 := Nat.sub_eq_zero_of_le hlen
  constructor
  · rw [SystemMetricsCollector.recentRequests, h.requests, List.length_map, hzero, List.drop_zero,
      List.countP_map, callsInWindow, ← List.countP_eq_length_filter]
    rfl
  · rw [SystemMetricsCollector.recentTokens, h.tokens, List.length_map, hzero, List.drop_zero,
      List.filter_map, List.map_map, callsInWindow]
    rfl

end Counters

/-- At non-decreasing times the requests of the window are the last ones, so
their number is right up to the length of the deque. -/
theorem recentRequests_run {calls : List RequestCall}
    (htimes : (calls.map (·.now)).Pairwise (· ≤ ·)) (now windowS : ℚ) :
    (run SystemMetricsCollector.recordRequest {} calls).recentRequests (now - windowS) =
      min (callsInWindow calls now windowS).length maxTimestamps := by
  have hstays : (calls.map (·.now)).Pairwise (fun t t' =>
      decide (now - windowS ≤ t) = true → decide (now - windowS ≤ t') = true) := by
    apply htimes.imp
    intro t t' hle ht
    exact decide_eq_true ((of_decide_eq_true ht).trans hle)
  rw [SystemMetricsCollector.recentRequests, (holdsEnd_run calls).requests,
    countP_drop_of_pairwise hstays, List.countP_map, callsInWindow, ← List.countP_eq_length_filter]
  rfl

/-- A right total is one of few calls. -/
theorem length_le_of_countsAllCalls {calls : List RequestCall} {now windowS : ℚ}
    {gpuMemory : ℚ × ℚ} (hall : CountsAllCalls calls now windowS
      ((run SystemMetricsCollector.recordRequest {} calls).getSummary now gpuMemory windowS)) :
    calls.length ≤ 10000 := by
  have htotal : min calls.length 10000 = calls.length :=
    (holdsEnd_run calls).count_latency.symm.trans hall.total
  exact min_eq_left_iff.mp htotal

/-- **Throughput counters over runs.**

After any calls of `record_request`, and for every window, the summary counts
all requests and its two rates are those of the requests in the window, exactly
if there were at most ten thousand calls. -/
theorem throughput_counters_iff (calls : List RequestCall) (now : ℚ) (gpuMemory : ℚ × ℚ)
    {windowS : ℚ} (hwindow : 0 < windowS) :
    CountsAllCalls calls now windowS
        ((run SystemMetricsCollector.recordRequest {} calls).getSummary now gpuMemory windowS) ↔
      calls.length ≤ 10000 := by
  have h := holdsEnd_run calls
  constructor
  · exact length_le_of_countsAllCalls
  · intro hlen
    obtain ⟨hrequests, htokens⟩ := h.recent_of_length_le hlen now windowS
    constructor
    case total => exact h.count_latency.trans (min_eq_left hlen)
    case rps =>
      show pyRound (if windowS > 0 then _ else 0) 2 = _
      rw [if_pos hwindow, hrequests]
    case throughput =>
      show pyRound (if windowS > 0 then _ else 0) 2 = _
      rw [if_pos hwindow, htokens]

/-- A call of one token at time zero. -/
def tokenCall : RequestCall where
  requestId := "r"
  latencyMs := 1
  ttftMs := 1
  tpotMs := 1
  tokensGenerated := 1
  now := 0

/-- One call more than the deques hold. -/
theorem counters_saturate :
    ((List.replicate 10001 tokenCall).map (·.now)).Pairwise (· ≤ ·) ∧
      ¬CountsAllCalls (List.replicate 10001 tokenCall) 0 60
        ((run SystemMetricsCollector.recordRequest {} (List.replicate 10001 tokenCall)).getSummary
          0 (0, 0) 60) := by
  constructor
  · rw [List.map_replicate]
    exact List.pairwise_replicate.mpr (.inr le_rfl)
  · intro hall
    have hlen := length_le_of_countsAllCalls hall
    rw [List.length_replicate] at hlen
    exact absurd hlen (by norm_num)

theorem throughput_counters_two_calls :
    0 < (60 : ℚ) ∧ CountsAllCalls [tokenCall, tokenCall] 0 60
      ((run SystemMetricsCollector.recordRequest {} [tokenCall, tokenCall]).getSummary
        0 (0, 0) 60) :=
  ⟨by norm_num, (throughput_counters_iff _ 0 (0, 0) (by norm_num)).mpr (by decide)⟩

end KVOrchestrator.Ports
