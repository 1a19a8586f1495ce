import KVOrchestrator.Ports.ConcurrencyBound

/-!
# The Prometheus metrics of the generate endpoint (`src/serving/api_server.py`)

`generate` keeps its metrics beside the request handler, not through it: the
gauge of active requests goes up after `mark_started` and down in a `finally`
clause, the counter and the two histograms move before the first
`mark_completed`, and the queue depth gauge is set when a request starts and at
no other time.  Here they are carried along any interleaving of calls.

The `finally` clause makes the gauge exact however a call ends
(`Monitored.activeExact_run`).  The counter has no such clause: a response that
cannot be built is counted as a success and as an error
(`success_counter_exact_iff`).  The two views of a server, `/v1/health` from the
handler and `/v1/metrics` from here, are compared in
`health_against_metrics`.
-/

namespace KVOrchestrator.Ports

open KVOrchestrator.Verified

/-- The label of a request: `req.workload_type or "unknown"`. -/
def GenerateRequest.workloadLabel (req : GenerateRequest) : String :=
  match req.workloadType with
  | none => "unknown"
  | some workloadType => if workloadType = "" then "unknown" else workloadType

/-- The metrics that `generate` updates. -/
structure ServingMetrics where
  activeRequests : Int := 0
  queueDepth : Nat := 0
  /-- By status and workload type. -/
  requestCount : OrdDict (String × String) Nat := OrdDict.empty
  /-- Observations, in order. -/
  requestLatency : List ℚ := []
  ttft : List ℚ := []

namespace ServingMetrics

/-- The value of the counter under a pair of labels. -/
def countOf (m : ServingMetrics) (status workload : String) : Nat :=
  (m.requestCount.get? (status, workload)).getD 0

/-- `_REQUEST_COUNT.labels(...).inc()`. -/
def incCount (m : ServingMetrics) (status workload : String) : ServingMetrics :=
  { m with
    requestCount := m.requestCount.set (status, workload) (m.countOf status workload + 1) }

/-- The updates after `mark_started`. -/
def started (m : ServingMetrics) (depth : Nat) : ServingMetrics :=
  { m with
    activeRequests := m.activeRequests + 1
    queueDepth := depth }

/-- The updates after the engine has returned. -/
def succeeded (m : ServingMetrics) (workload : String) (result : GenerationResult) :
    ServingMetrics :=
  let counted := m.incCount "success" workload
  { counted with
    requestLatency := counted.requestLatency ++ [result.totalLatencyMs]
    ttft := counted.ttft ++ [result.ttftMs] }

/-- The update of the `except` clause. -/
def failed (m : ServingMetrics) (workload : String) : ServingMetrics :=
  m.incCount "error" workload

/-- The `finally` clause. -/
def exited (m : ServingMetrics) : ServingMetrics :=
  { m with activeRequests := m.activeRequests - 1 }

theorem countOf_incCount (m : ServingMetrics) (status workload status' workload' : String) :
    (m.incCount status workload).countOf status' workload' =
      m.countOf status' workload' +
        if status' = status ∧ workload' = workload then 1 else 0 := by
  by_cases hsame : status' = status ∧ workload' = workload
  · obtain ⟨rfl, rfl⟩ := hsame
    simp [incCount, countOf]
  · have hne : (status', workload') ≠ (status, workload) := by
      intro heq
      exact hsame (Prod.mk.injEq _ _ _ _ ▸ heq)
    simp only [incCount, countOf, if_neg hsame, OrdDict.get?_set_of_ne _ hne, Nat.add_zero]

@[simp] theorem countOf_exited (m : ServingMetrics) (status workload : String) :
    m.exited.countOf status workload = m.countOf status workload := rfl

@[simp] theorem countOf_started (m : ServingMetrics) (depth : Nat) (status workload : String) :
    (m.started depth).countOf status workload = m.countOf status workload := rfl

theorem countOf_succeeded (m : ServingMetrics) (workload : String) (result : GenerationResult)
    (status' workload' : String) :
    (m.succeeded workload result).countOf status' workload' =
      m.countOf status' workload' +
        if status' = "success" ∧ workload' = workload then 1 else 0 :=
  m.countOf_incCount "success" workload status' workload'

end ServingMetrics

/-- The calls and the metrics. -/
structure Monitored (κ : Type) where
  serving : Serving κ
  metrics : ServingMetrics := {}

/-- The call is in the `try` statement of `generate`. -/
def CallPhase.inTry : CallPhase → Bool
  | .submitted => false
  | .generating => true
  | .responseFailed _ => true
  | .left _ => false
  | .cancelled _ => false

/-- The call has been marked started at some time. -/
def CallPhase.hasStarted : CallPhase → Bool
  | .submitted => false
  | .generating => true
  | .responseFailed _ => true
  | .left _ => true
  | .cancelled started => started

/-- The client has its response. -/
def CallPhase.answered : CallPhase → Bool
  | .left client => client.isSuccess
  | .submitted => false
  | .generating => false
  | .responseFailed _ => false
  | .cancelled _ => false

/-- The response that the client has. -/
def CallPhase.response? : CallPhase → Option GenerateResponse
  | .left (.success response) => some response
  | .left (.httpError _ _) => none
  | .left .aborted => none
  | .submitted => none
  | .generating => none
  | .responseFailed _ => none
  | .cancelled _ => none

/-- The client has an error. -/
def CallPhase.refused : CallPhase → Bool
  | .left (.httpError _ _) => true
  | .left (.success _) => false
  | .left .aborted => false
  | .submitted => false
  | .generating => false
  | .responseFailed _ => false
  | .cancelled _ => false

/-- The call was cancelled while the engine worked on it. -/
def CallPhase.abandoned : CallPhase → Bool
  | .cancelled started => started
  | .submitted => false
  | .generating => false
  | .responseFailed _ => false
  | .left _ => false

/-- A call in the `try` statement has started, and its client has nothing yet. -/
theorem CallPhase.of_inTry {phase : CallPhase} (h : phase.inTry = true) :
    phase.hasStarted = true ∧ phase.answered = false ∧ phase.response? = none ∧
      phase.refused = false := by
  cases phase with
  | generating | responseFailed => exact ⟨rfl, rfl, rfl, rfl⟩
  | submitted | left | cancelled => cases h

namespace Serving

variable {κ : Type}

/-- The number of calls of a kind. -/
def countWhere (s : Serving κ) (p : Call → Bool) : Nat := s.calls.values.countP p

/-- The ids of the calls in a phase of some kind are as many as the calls. -/
theorem length_idsWhere (s : Serving κ) (p : CallPhase → Bool) :
    (s.idsWhere p).length = s.countWhere (fun c => p c.phase) := by
  rw [idsWhere, List.length_map, countWhere, OrdDict.values, List.countP_map,
    List.countP_eq_length_filter]
  rfl

section CountWhere

variable [DecidableEq κ] {s : Serving κ} {call : κ} {c : Call}

private theorem countWhere_withCall_others (s : Serving κ) (handler : RequestHandler) (call : κ)
    (c : Call) (p : Call → Bool) :
    (s.withCall handler call c).countWhere p =
      (s.calls.erase call).values.countP p + (p c).toNat := by
  have hperm := ((s.calls.entries_set_perm call c).map Prod.snd).countP_eq p
  rw [List.map_cons, List.countP_cons] at hperm
  show ((s.calls.set call c).entries.map Prod.snd).countP p = _
  rw [hperm]
  cases p c <;> rfl

/-- A call that moves on counts as what it was before and as what it is then. -/
theorem countWhere_withCall (hc : s.calls.get? call = some c) (handler : RequestHandler)
    (c' : Call) (p : Call → Bool) :
    (s.withCall handler call c').countWhere p + (p c).toNat =
      s.countWhere p + (p c').toNat := by
  have hperm := ((OrdDict.entries_perm_cons_erase hc).map Prod.snd).countP_eq p
  rw [List.map_cons, List.countP_cons] at hperm
  have hbefore : s.countWhere p = (s.calls.erase call).values.countP p + (p c).toNat := by
    show (s.calls.entries.map Prod.snd).countP p = _
    rw [hperm]
    cases p c <;> rfl
  rw [countWhere_withCall_others, hbefore]
  omega

/-- A new call counts as one more. -/
theorem countWhere_withCall_new (hc : s.calls.get? call = none) (handler : RequestHandler)
    (c' : Call) (p : Call → Bool) :
    (s.withCall handler call c').countWhere p = s.countWhere p + (p c').toNat := by
  have hperm := ((OrdDict.entries_perm_erase_of_none hc).map Prod.snd).countP_eq p
  have hbefore : s.countWhere p = (s.calls.erase call).values.countP p := hperm
  rw [countWhere_withCall_others, hbefore]

/-- No call is of the kind. -/
theorem countWhere_eq_zero_iff (s : Serving κ) (p : Call → Bool) :
    s.countWhere p = 0 ↔ ∀ call c, s.calls.get? call = some c → p c = false := by
  rw [countWhere, List.countP_eq_zero]
  constructor
  · intro h call c hc
    have hmem : c ∈ s.calls.values :=
      List.mem_map.mpr ⟨(call, c), (s.calls.get?_eq_some_iff call c).mp hc, rfl⟩
    simpa using h c hmem
  · intro h c hmem
    obtain ⟨⟨call, c'⟩, hentry, heq⟩ := List.mem_map.mp hmem
    have hc := (s.calls.get?_eq_some_iff call c').mpr hentry
    rw [← heq, h call c' hc]
    exact Bool.false_ne_true

end CountWhere

end Serving

namespace Monitored

variable {κ : Type}

/-- A server before its first call. -/
def init (maxConcurrent : Nat) (router : WorkloadRouter) (maxConcurrency : Nat → Nat) :
    Monitored κ where
  serving := Serving.init maxConcurrent router maxConcurrency

variable [DecidableEq κ]

/-- The metrics after a step of a call. -/
def metricsAfter (s : Monitored κ) : ServingOp κ → ServingMetrics
  | .submit _ _ _ _ _ => s.metrics
  | .start call now =>
      match s.serving.calls.get? call with
      | none => s.metrics
      | some c =>
          match c.phase with
          | .submitted =>
              s.metrics.started (s.serving.perform (.start call now)).handler.getQueueDepth
          | _ => s.metrics
  | .complete call result buildError _ =>
      match s.serving.calls.get? call with
      | none => s.metrics
      | some c =>
          match c.phase with
          | .generating =>
              let counted := s.metrics.succeeded c.request.workloadLabel result
              match buildError with
              | none => counted.exited
              | some _ => counted
          | _ => s.metrics
  | .fail call _ _ =>
      match s.serving.calls.get? call with
      | none => s.metrics
      | some c =>
          match c.phase with
          | .generating => (s.metrics.failed c.request.workloadLabel).exited
          | _ => s.metrics
  | .failResponse call _ =>
      match s.serving.calls.get? call with
      | none => s.metrics
      | some c =>
          match c.phase with
          | .responseFailed _ => (s.metrics.failed c.request.workloadLabel).exited
          | _ => s.metrics
  | .cancel call =>
      match s.serving.calls.get? call with
      | none => s.metrics
      | some c => if c.phase.inTry then s.metrics.exited else s.metrics

/-- Take a step. -/
def perform (s : Monitored κ) (op : ServingOp κ) : Monitored κ where
  serving := s.serving.perform op
  metrics := s.metricsAfter op

/-- The metrics do not decide anything. -/
theorem serving_run (ops : List (ServingOp κ)) :
    ∀ s : Monitored κ, (run perform s ops).serving = run Serving.perform s.serving ops := by
  induction ops with
  | nil => exact fun _ => rfl
  | cons op ops ih => exact fun s => ih (s.perform op)

/-! ## What a step can do -/

/-- The call has been moved to another phase, and the metrics are these. -/
def MovesTo (s t : Monitored κ) (call : κ) (c : Call) (next : CallPhase)
    (metrics : ServingMetrics) : Prop :=
  (∃ handler, t.serving = s.serving.withCall handler call { c with phase := next }) ∧
    t.metrics = metrics

/-- The effect of a step on the calls and on the metrics. -/
inductive Effect (s : Monitored κ) : ServingOp κ → Prop where
  | idle (op : ServingOp κ) (hstep : s.perform op = s) : Effect s op
  | submit (call : κ) (request : GenerateRequest) (batch : Option Nat) (uuid : String) (now : ℚ)
      (c : Call) (hnew : s.serving.calls.get? call = none) (hphase : c.phase = .submitted)
      (hserving : ∃ handler, (s.serving.perform (.submit call request batch uuid now)) =
        s.serving.withCall handler call c) :
      Effect s (.submit call request batch uuid now)
  | start (call : κ) (now : ℚ) (c : Call) (hc : s.serving.calls.get? call = some c)
      (hphase : c.phase = .submitted)
      (hmoves : s.MovesTo (s.perform (.start call now)) call c .generating
        (s.metrics.started (s.serving.perform (.start call now)).handler.getQueueDepth)) :
      Effect s (.start call now)
  | returned (call : κ) (result : GenerationResult) (now : ℚ) (c : Call)
      (hc : s.serving.calls.get? call = some c) (hphase : c.phase = .generating)
      (hmoves : s.MovesTo (s.perform (.complete call result none now)) call c
        (.left (.success result.response))
        (s.metrics.succeeded c.request.workloadLabel result).exited) :
      Effect s (.complete call result none now)
  | unbuilt (call : κ) (result : GenerationResult) (message : String) (now : ℚ) (c : Call)
      (hc : s.serving.calls.get? call = some c) (hphase : c.phase = .generating)
      (hmoves : s.MovesTo (s.perform (.complete call result (some message) now)) call c
        (.responseFailed message) (s.metrics.succeeded c.request.workloadLabel result)) :
      Effect s (.complete call result (some message) now)
  /-- The engine has raised, or the response could not be built. -/
  | refused (op : ServingOp κ) (call : κ) (message : String) (c : Call)
      (hc : s.serving.calls.get? call = some c) (hphase : c.phase.inTry = true)
      (hmoves : s.MovesTo (s.perform op) call c (.left (.httpError 500 message))
        (s.metrics.failed c.request.workloadLabel).exited) : Effect s op
  | cancel (call : κ) (c : Call) (hc : s.serving.calls.get? call = some c)
      (hmoves : s.MovesTo (s.perform (.cancel call)) call c (Serving.phaseAfterCancel c.phase)
        (if c.phase.inTry then s.metrics.exited else s.metrics)) :
      Effect s (.cancel call)

private theorem idle_of {s : Monitored κ} {op : ServingOp κ}
    (hserving : s.serving.step op = ([], s.serving)) (hmetrics : s.metricsAfter op = s.metrics) : s.Effect op := by
  apply Effect.idle
  rw [perform, hmetrics, Serving.perform, hserving]

/-- The engine has returned. -/
theorem movesTo_complete {s : Monitored κ} {call : κ} {c : Call}
    (hc : s.serving.calls.get? call = some c) (hphase : c.phase = .generating)
    (result : GenerationResult) (buildError : Option String) (now : ℚ) :
    s.MovesTo (s.perform (.complete call result buildError now)) call c
      (Serving.phaseAfterReturn result buildError)
      (match buildError with
        | none => (s.metrics.succeeded c.request.workloadLabel result).exited
        | some _ => s.metrics.succeeded c.request.workloadLabel result) := by
  constructor
  · refine ⟨(s.serving.handler.markCompleted c.rid none now).2, ?_⟩
    simp only [perform, Serving.perform, Serving.step, hc, hphase, Serving.markCall]
  · simp only [perform, metricsAfter, hc, hphase]

theorem effect (s : Monitored κ) (op : ServingOp κ) : s.Effect op := by
  cases op with
  | submit call request batch uuid now =>
      cases Serving.stepEffect s.serving (.submit call request batch uuid now) with
      | idle _ _ hstep => exact idle_of hstep rfl
      | submit _ _ _ _ _ hnew hadmits =>
          have hstep : s.serving.step (.submit call request batch uuid now) = _ :=
            Serving.step_submit hnew hadmits uuid now
          exact .submit call request batch uuid now _ hnew rfl ⟨_, congrArg Prod.snd hstep⟩
      | mark _ _ _ _ _ _ _ _ _ _ hsome _ => cases hsome
  | start call now =>
      cases hc : s.serving.calls.get? call with
      | none => exact idle_of (by simp only [Serving.step, hc]) (by simp only [metricsAfter, hc])
      | some c =>
          cases hphase : c.phase with
          | submitted =>
              refine .start call now c hc hphase
                ⟨⟨_, congrArg Prod.snd (Serving.step_start hc hphase now)⟩, ?_⟩
              show s.metricsAfter (.start call now) = _
              simp only [metricsAfter, hc, hphase]
          | generating | responseFailed | left | cancelled =>
              exact idle_of (by simp only [Serving.step, hc, hphase])
                (by simp only [metricsAfter, hc, hphase])
  | complete call result buildError now =>
      cases hc : s.serving.calls.get? call with
      | none => exact idle_of (by simp only [Serving.step, hc]) (by simp only [metricsAfter, hc])
      | some c =>
          cases hphase : c.phase with
          | generating =>
              cases buildError with
              | none =>
                  exact .returned call result now c hc hphase
                    (movesTo_complete hc hphase result none now)
              | some message =>
                  exact .unbuilt call result message now c hc hphase
                    (movesTo_complete hc hphase result (some message) now)
          | submitted | responseFailed | left | cancelled =>
              exact idle_of (by simp only [Serving.step, hc, hphase])
                (by simp only [metricsAfter, hc, hphase])
  | fail call message now =>
      cases hc : s.serving.calls.get? call with
      | none => exact idle_of (by simp only [Serving.step, hc]) (by simp only [metricsAfter, hc])
      | some c =>
          cases hphase : c.phase with
          | generating =>
              have hserving : s.serving.perform (.fail call message now) =
                  s.serving.withCall
                    (s.serving.handler.markCompleted c.rid (some message) now).2 call
                    { c with phase := .left (.httpError 500 message) } := by
                simp only [Serving.perform, Serving.step, hc, hphase, Serving.markCall]
              refine .refused _ call message c hc (by rw [hphase]; rfl) ⟨⟨_, hserving⟩, ?_⟩
              show s.metricsAfter (.fail call message now) = _
              simp only [metricsAfter, hc, hphase]
          | submitted | responseFailed | left | cancelled =>
              exact idle_of (by simp only [Serving.step, hc, hphase])
                (by simp only [metricsAfter, hc, hphase])
  | failResponse call now =>
      cases hc : s.serving.calls.get? call with
      | none => exact idle_of (by simp only [Serving.step, hc]) (by simp only [metricsAfter, hc])
      | some c =>
          cases hphase : c.phase with
          | responseFailed message =>
              have hserving := congrArg Prod.snd (Serving.step_failResponse hc hphase now)
              refine .refused _ call message c hc (by rw [hphase]; rfl) ⟨⟨_, hserving⟩, ?_⟩
              show s.metricsAfter (.failResponse call now) = _
              simp only [metricsAfter, hc, hphase]
          | submitted | generating | left | cancelled =>
              exact idle_of (by simp only [Serving.step, hc, hphase])
                (by simp only [metricsAfter, hc, hphase])
  | cancel call =>
      cases hc : s.serving.calls.get? call with
      | none => exact idle_of (by simp only [Serving.step, hc]) (by simp only [metricsAfter, hc])
      | some c =>
          refine .cancel call c hc ⟨⟨_, congrArg Prod.snd (Serving.step_cancel hc)⟩, ?_⟩
          show s.metricsAfter (.cancel call) = _
          simp only [metricsAfter, hc]

/-- How many calls are of a kind after one has moved. -/
theorem MovesTo.countWhere {s t : Monitored κ} {call : κ} {c : Call} {next : CallPhase}
    {metrics : ServingMetrics} (h : s.MovesTo t call c next metrics)
    (hc : s.serving.calls.get? call = some c) (p : Call → Bool) :
    t.serving.countWhere p + (p c).toNat =
      s.serving.countWhere p + (p { c with phase := next }).toNat := by
  obtain ⟨⟨handler, hserving⟩, _⟩ := h
  rw [hserving]
  exact Serving.countWhere_withCall hc handler _ p

/-- The same for a kind of phase. -/
theorem MovesTo.countPhase {s t : Monitored κ} {call : κ} {c : Call} {next : CallPhase}
    {metrics : ServingMetrics} (h : s.MovesTo t call c next metrics)
    (hc : s.serving.calls.get? call = some c) (p : CallPhase → Bool) :
    (t.serving.countWhere fun c => p c.phase) + (p c.phase).toNat =
      (s.serving.countWhere fun c => p c.phase) + (p next).toNat :=
  h.countWhere hc fun c => p c.phase

/-! ## The gauge -/

/-- The gauge of active requests is the number of calls in the `try`
statement. -/
def ActiveExact (s : Monitored κ) : Prop :=
  s.metrics.activeRequests = s.serving.countWhere (fun c => c.phase.inTry)

/-- Whoever enters the `try` statement leaves it through `finally`. -/
theorem ActiveExact.perform {s : Monitored κ} (h : s.ActiveExact) (op : ServingOp κ) :
    (s.perform op).ActiveExact := by
  unfold ActiveExact at h ⊢
  cases s.effect op with
  | idle _ hstep => rw [hstep, h]
  | submit call request batch uuid now c hnew hphase hserving =>
      obtain ⟨handler, hserving⟩ := hserving
      have hcount := Serving.countWhere_withCall_new hnew handler c (fun c => c.phase.inTry)
      rw [hphase] at hcount
      show s.metrics.activeRequests = ((s.serving.perform _).countWhere _ : Int)
      rw [hserving, hcount, h]
      rfl
  | start call now c hc hphase hmoves =>
      have hcount := hmoves.countPhase hc CallPhase.inTry
      rw [hphase] at hcount
      rw [hmoves.2]
      show s.metrics.activeRequests + 1 = _
      have henter : ((s.perform (.start call now)).serving.countWhere fun c => c.phase.inTry) =
          (s.serving.countWhere fun c => c.phase.inTry) + 1 := hcount
      omega
  | returned call result now c hc hphase hmoves =>
      have hcount := hmoves.countPhase hc CallPhase.inTry
      rw [hphase] at hcount
      rw [hmoves.2]
      show s.metrics.activeRequests - 1 = _
      have hleave : ((s.perform (.complete call result none now)).serving.countWhere
          fun c => c.phase.inTry) + 1 = s.serving.countWhere fun c => c.phase.inTry := hcount
      omega
  | unbuilt call result message now c hc hphase hmoves =>
      have hcount := hmoves.countPhase hc CallPhase.inTry
      rw [hphase] at hcount
      rw [hmoves.2]
      show s.metrics.activeRequests = _
      have hstay : ((s.perform (.complete call result (some message) now)).serving.countWhere
          fun c => c.phase.inTry) + 1 = (s.serving.countWhere fun c => c.phase.inTry) + 1 :=
        hcount
      omega
  | refused op call message c hc hphase hmoves =>
      have hcount := hmoves.countPhase hc CallPhase.inTry
      rw [hphase] at hcount
      rw [hmoves.2]
      show s.metrics.activeRequests - 1 = _
      have hleave : ((s.perform op).serving.countWhere fun c => c.phase.inTry) + 1 =
          s.serving.countWhere fun c => c.phase.inTry := hcount
      omega
  | cancel call c hc hmoves =>
      have hcount := hmoves.countPhase hc CallPhase.inTry
      have hout : (Serving.phaseAfterCancel c.phase).inTry = false := by
        cases c.phase <;> rfl
      rw [hout] at hcount
      rw [hmoves.2]
      cases hin : c.phase.inTry with
      | true =>
          rw [hin] at hcount
          show s.metrics.activeRequests - 1 = _
          have hleave : ((s.perform (.cancel call)).serving.countWhere fun c => c.phase.inTry) +
              1 = s.serving.countWhere fun c => c.phase.inTry := hcount
          omega
      | false =>
          rw [hin] at hcount
          show s.metrics.activeRequests = _
          have hstay : ((s.perform (.cancel call)).serving.countWhere fun c => c.phase.inTry) =
              s.serving.countWhere fun c => c.phase.inTry := hcount
          omega

/-! ## The counters -/

/-- The number of calls in a phase of some kind whose request has a label. -/
def countFor (s : Monitored κ) (p : CallPhase → Bool) (workload : String) : Nat :=
  s.serving.countWhere fun c => p c.phase && decide (workload = c.request.workloadLabel)

/-- The responses that the clients have. -/
def responses (s : Monitored κ) : List GenerateResponse :=
  s.serving.calls.values.filterMap fun c => c.phase.response?

section CountFor

variable {s t : Monitored κ} {call : κ} {c : Call} {next : CallPhase} {metrics : ServingMetrics}
  {p : CallPhase → Bool}

/-- A move within the kind, or outside of it. -/
theorem MovesTo.countFor_same (h : s.MovesTo t call c next metrics)
    (hc : s.serving.calls.get? call = some c) (hp : p next = p c.phase) (workload : String) :
    t.countFor p workload = s.countFor p workload := by
  have hcount := h.countWhere hc
    (fun c => p c.phase && decide (workload = c.request.workloadLabel))
  simp only [hp] at hcount
  exact Nat.add_right_cancel hcount

/-- A move into the kind. -/
theorem MovesTo.countFor_joins (h : s.MovesTo t call c next metrics)
    (hc : s.serving.calls.get? call = some c) (hout : p c.phase = false) (hin : p next = true)
    (workload : String) :
    t.countFor p workload =
      s.countFor p workload + if workload = c.request.workloadLabel then 1 else 0 := by
  have hcount := h.countWhere hc
    (fun c => p c.phase && decide (workload = c.request.workloadLabel))
  simp only [hout, hin, Bool.false_and, Bool.true_and, Bool.toNat_false, Nat.add_zero] at hcount
  rw [countFor, countFor, hcount]
  by_cases hlabel : workload = c.request.workloadLabel
  · simp [hlabel]
  · simp [hlabel]

/-- A new call is not of a kind that a submitted call is not of. -/
theorem countFor_submit {op : ServingOp κ} (hnew : s.serving.calls.get? call = none)
    (hserving : ∃ handler, s.serving.perform op = s.serving.withCall handler call c)
    (hp : p c.phase = false) (workload : String) :
    (s.perform op).countFor p workload = s.countFor p workload := by
  obtain ⟨handler, hserving⟩ := hserving
  have hcount := Serving.countWhere_withCall_new hnew handler c
    (fun c => p c.phase && decide (workload = c.request.workloadLabel))
  simp only [hp, Bool.false_and, Bool.toNat_false, Nat.add_zero] at hcount
  show (s.serving.perform op).countWhere _ = _
  rw [hserving, hcount, countFor]

/-- Responses after a move that gives the client none. -/
theorem MovesTo.responses_same (h : s.MovesTo t call c next metrics)
    (hc : s.serving.calls.get? call = some c) (hp : next.response? = c.phase.response?) :
    t.responses.Perm s.responses := by
  obtain ⟨⟨handler, hserving⟩, _⟩ := h
  have hset := ((s.serving.calls.entries_set_perm call { c with phase := next }).map
    Prod.snd).filterMap (fun c => c.phase.response?)
  have hold := ((OrdDict.entries_perm_cons_erase hc).map Prod.snd).filterMap
    (fun c => c.phase.response?)
  rw [List.map_cons, List.filterMap_cons, hp] at hset
  rw [List.map_cons, List.filterMap_cons] at hold
  rw [responses, hserving]
  exact hset.trans hold.symm

/-- Responses after a move that gives the client one. -/
theorem MovesTo.responses_joins (h : s.MovesTo t call c next metrics)
    (hc : s.serving.calls.get? call = some c) (hout : c.phase.response? = none)
    {response : GenerateResponse} (hin : next.response? = some response) :
    t.responses.Perm (response :: s.responses) := by
  obtain ⟨⟨handler, hserving⟩, _⟩ := h
  have hset := ((s.serving.calls.entries_set_perm call { c with phase := next }).map
    Prod.snd).filterMap (fun c => c.phase.response?)
  have hold := ((OrdDict.entries_perm_cons_erase hc).map Prod.snd).filterMap
    (fun c => c.phase.response?)
  rw [List.map_cons, List.filterMap_cons, hin] at hset
  rw [List.map_cons, List.filterMap_cons, hout] at hold
  rw [responses, hserving]
  exact hset.trans (hold.symm.cons response)

theorem responses_submit {op : ServingOp κ} (hnew : s.serving.calls.get? call = none)
    (hserving : ∃ handler, s.serving.perform op = s.serving.withCall handler call c)
    (hp : c.phase.response? = none) : (s.perform op).responses.Perm s.responses := by
  obtain ⟨handler, hserving⟩ := hserving
  have hset := ((s.serving.calls.entries_set_perm call c).map
    Prod.snd).filterMap (fun c => c.phase.response?)
  have hold := ((OrdDict.entries_perm_erase_of_none hnew).map Prod.snd).filterMap
    (fun c => c.phase.response?)
  rw [List.map_cons, List.filterMap_cons, hp] at hset
  show ((s.serving.perform op).calls.values.filterMap _).Perm _
  rw [hserving]
  exact hset.trans hold.symm

end CountFor

/-- The error counter has, under each label, the number of calls that ended in
an HTTP error. -/
def ErrorExact (s : Monitored κ) : Prop :=
  ∀ workload, s.metrics.countOf "error" workload = s.countFor CallPhase.refused workload

/-- The success counter has, under each label, the number of calls that ended in
a response, and the histograms have the latencies of these responses. -/
structure SuccessExact (s : Monitored κ) : Prop where
  count : ∀ workload,
    s.metrics.countOf "success" workload = s.countFor CallPhase.answered workload
  latency : (s.metrics.requestLatency.map (pyRound · 2)).Perm (s.responses.map (·.latencyMs))
  ttft : (s.metrics.ttft.map (pyRound · 2)).Perm (s.responses.map (·.ttftMs))

private theorem success_ne_error : ("success" : String) ≠ "error" := by decide

theorem ErrorExact.perform {s : Monitored κ} (h : s.ErrorExact) (op : ServingOp κ) :
    (s.perform op).ErrorExact := by
  intro workload
  have hbefore := h workload
  cases s.effect op with
  | idle _ hstep => rw [hstep, hbefore]
  | submit call request batch uuid now c hnew hphase hserving =>
      rw [countFor_submit hnew hserving (by rw [hphase]; rfl) workload]
      exact hbefore
  | start call now c hc hphase hmoves =>
      rw [hmoves.2, hmoves.countFor_same hc (by rw [hphase]; rfl)]
      exact hbefore
  | returned call result now c hc hphase hmoves =>
      rw [hmoves.2, hmoves.countFor_same hc (by rw [hphase]; rfl), ServingMetrics.countOf_exited,
        ServingMetrics.countOf_succeeded, if_neg (fun h => success_ne_error h.1.symm)]
      exact hbefore
  | unbuilt call result message now c hc hphase hmoves =>
      rw [hmoves.2, hmoves.countFor_same hc (by rw [hphase]; rfl),
        ServingMetrics.countOf_succeeded, if_neg (fun h => success_ne_error h.1.symm)]
      exact hbefore
  | refused _ call message c hc hphase hmoves =>
      obtain ⟨_, _, _, hout⟩ := CallPhase.of_inTry hphase
      rw [hmoves.2, hmoves.countFor_joins hc hout rfl, ServingMetrics.countOf_exited,
        ServingMetrics.failed, ServingMetrics.countOf_incCount, hbefore]
      simp only [true_and]
  | cancel call c hc hmoves =>
      have hsame : (Serving.phaseAfterCancel c.phase).refused = c.phase.refused := by
        cases c.phase <;> rfl
      rw [hmoves.2, hmoves.countFor_same hc hsame, ← hbefore]
      cases c.phase.inTry <;> rfl

/-- A response that is to be built can be built. -/
def Builds (s : Monitored κ) : ServingOp κ → Prop
  | .complete call _ buildError _ =>
      ∀ c ∈ s.serving.calls.get? call, c.phase = .generating → buildError = none
  | .submit _ _ _ _ _ => True
  | .start _ _ => True
  | .fail _ _ _ => True
  | .failResponse _ _ => True
  | .cancel _ => True

omit [DecidableEq κ] in
/-- A step that counts no success and gives no client a response. -/
theorem SuccessExact.of_same {s t : Monitored κ} (h : s.SuccessExact)
    (hcount : ∀ workload, t.metrics.countOf "success" workload =
      s.metrics.countOf "success" workload)
    (hfor : ∀ workload, t.countFor CallPhase.answered workload =
      s.countFor CallPhase.answered workload)
    (hlatency : t.metrics.requestLatency = s.metrics.requestLatency)
    (httft : t.metrics.ttft = s.metrics.ttft) (hresponses : t.responses.Perm s.responses) :
    t.SuccessExact where
  count := by
    intro workload
    rw [hcount, hfor, h.count]
  latency := by
    rw [hlatency]
    exact h.latency.trans (hresponses.symm.map _)
  ttft := by
    rw [httft]
    exact h.ttft.trans (hresponses.symm.map _)

theorem SuccessExact.perform {s : Monitored κ} (h : s.SuccessExact) {op : ServingOp κ}
    (hop : s.Builds op) : (s.perform op).SuccessExact := by
  cases s.effect op with
  | idle _ hstep => rwa [hstep]
  | submit call request batch uuid now c hnew hphase hserving =>
      exact h.of_same (fun _ => rfl) (countFor_submit hnew hserving (by rw [hphase]; rfl)) rfl rfl
        (responses_submit hnew hserving (by rw [hphase]; rfl))
  | start call now c hc hphase hmoves =>
      apply h.of_same
      · intro workload
        rw [hmoves.2]
        rfl
      · exact hmoves.countFor_same hc (by rw [hphase]; rfl)
      · rw [hmoves.2]
        rfl
      · rw [hmoves.2]
        rfl
      · exact hmoves.responses_same hc (by rw [hphase]; rfl)
  | returned call result now c hc hphase hmoves =>
      have hjoin := hmoves.responses_joins hc (by rw [hphase]; rfl) rfl
      constructor
      · intro workload
        rw [hmoves.2, hmoves.countFor_joins hc (by rw [hphase]; rfl) rfl,
          ServingMetrics.countOf_exited, ServingMetrics.countOf_succeeded, h.count workload]
        simp only [true_and]
      · rw [hmoves.2]
        show ((s.metrics.requestLatency ++ [result.totalLatencyMs]).map _).Perm _
        rw [List.map_append]
        refine (List.perm_append_singleton _ _).trans ?_
        exact (h.latency.cons _).trans (hjoin.symm.map GenerateResponse.latencyMs)
      · rw [hmoves.2]
        show ((s.metrics.ttft ++ [result.ttftMs]).map _).Perm _
        rw [List.map_append]
        refine (List.perm_append_singleton _ _).trans ?_
        exact (h.ttft.cons _).trans (hjoin.symm.map GenerateResponse.ttftMs)
  | unbuilt call result message now c hc hphase hmoves => cases hop c hc hphase
  | refused _ call message c hc hphase hmoves =>
      obtain ⟨_, hanswered, hresponse, _⟩ := CallPhase.of_inTry hphase
      apply h.of_same
      · intro workload
        rw [hmoves.2, ServingMetrics.countOf_exited, ServingMetrics.failed,
          ServingMetrics.countOf_incCount, if_neg (fun h => success_ne_error h.1), Nat.add_zero]
      · exact hmoves.countFor_same hc hanswered.symm
      · rw [hmoves.2]
        rfl
      · rw [hmoves.2]
        rfl
      · exact hmoves.responses_same hc hresponse.symm
  | cancel call c hc hmoves =>
      have hsame : (Serving.phaseAfterCancel c.phase).answered = c.phase.answered ∧
          (Serving.phaseAfterCancel c.phase).response? = c.phase.response? := by
        cases c.phase <;> exact ⟨rfl, rfl⟩
      have hmetrics : (s.perform (.cancel call)).metrics.requestCount = s.metrics.requestCount ∧
          (s.perform (.cancel call)).metrics.requestLatency = s.metrics.requestLatency ∧
          (s.perform (.cancel call)).metrics.ttft = s.metrics.ttft := by
        rw [hmoves.2]
        cases c.phase.inTry <;> exact ⟨rfl, rfl, rfl⟩
      apply h.of_same
      · intro workload
        simp only [ServingMetrics.countOf, hmetrics.1]
      · exact hmoves.countFor_same hc hsame.1
      · exact hmetrics.2.1
      · exact hmetrics.2.2
      · exact hmoves.responses_same hc hsame.2

/-- A response that cannot be built is counted all the same. -/
theorem SuccessExact.not_perform {s : Monitored κ} (h : s.SuccessExact) {op : ServingOp κ}
    (hop : ¬s.Builds op) : ¬(s.perform op).SuccessExact := by
  cases op with
  | complete call result buildError now =>
      simp only [Builds, Classical.not_forall] at hop
      obtain ⟨c, hc, hphase, hmessage⟩ := hop
      intro hafter
      cases buildError with
      | none => exact hmessage rfl
      | some message =>
          have hmoves := movesTo_complete hc hphase result (some message) now
          have hnow := hafter.count c.request.workloadLabel
          rw [hmoves.2, hmoves.countFor_same hc (by rw [hphase]; rfl),
            ServingMetrics.countOf_succeeded, if_pos ⟨rfl, rfl⟩,
            h.count c.request.workloadLabel] at hnow
          omega
  | submit | start | fail | failResponse | cancel => exact absurd trivial hop

/-! ## Two views of one server -/

private theorem countP_add_countP {p q p' q' : Call → Bool}
    (h : ∀ c, (p c).toNat + (q c).toNat = (p' c).toNat + (q' c).toNat) (calls : List Call) :
    calls.countP p + calls.countP q = calls.countP p' + calls.countP q' := by
  induction calls with
  | nil => rfl
  | cons c calls ih =>
      have hstep : ∀ r : Call → Bool, (c :: calls).countP r = calls.countP r + (r c).toNat := by
        intro r
        rw [List.countP_cons]
        cases r c <;> rfl
      rw [hstep p, hstep q, hstep p', hstep q']
      have hc := h c
      omega

/-- The queue depth gauge is zero only as long as no call has been started. -/
def DepthStarted (s : Monitored κ) : Prop :=
  s.metrics.queueDepth = 0 ↔ s.serving.countWhere (fun c => c.phase.hasStarted) = 0

/-- The gauge is set at a start, when the call's own record is registered, and
at no other time. -/
theorem DepthStarted.perform {s : Monitored κ} {router : WorkloadRouter} (h : s.DepthStarted)
    (htracked : s.serving.Tracked router) {op : ServingOp κ} (hop : s.serving.NoCollision op) :
    (s.perform op).DepthStarted := by
  have hsame : ∀ {call c next metrics}, s.MovesTo (s.perform op) call c next metrics →
      s.serving.calls.get? call = some c → next.hasStarted = c.phase.hasStarted →
      metrics.queueDepth = s.metrics.queueDepth → (s.perform op).DepthStarted := by
    intro call c next metrics hmoves hc hstarted hdepth
    have hcount := hmoves.countPhase hc CallPhase.hasStarted
    rw [hstarted] at hcount
    rw [DepthStarted, hmoves.2, hdepth, Nat.add_right_cancel hcount]
    exact h
  cases s.effect op with
  | idle _ hstep => rwa [hstep]
  | submit call request batch uuid now c hnew hphase hserving =>
      obtain ⟨handler, hserving⟩ := hserving
      have hcount := Serving.countWhere_withCall_new hnew handler c (fun c => c.phase.hasStarted)
      rw [hphase] at hcount
      show s.metrics.queueDepth = 0 ↔ (s.serving.perform _).countWhere _ = 0
      rw [hserving, hcount]
      exact h
  | start call now c hc hphase hmoves =>
      have hcount := hmoves.countPhase hc CallPhase.hasStarted
      have hdepth := (htracked.perform hop).depthExact
      have hopen : c.rid ∈ (s.serving.perform (.start call now)).openIds := by
        rw [Serving.perform, Serving.step_start hc hphase]
        have hmoved : (s.serving.withCall (s.serving.handler.markStarted c.rid now) call
            { c with phase := .generating }).calls.get? call =
              some { c with phase := .generating } := OrdDict.get?_set_self _ _ _
        apply Serving.mem_openIds hmoved
        rfl
      have hlen := List.length_pos_of_mem hopen
      have hone : (s.perform (.start call now)).serving.countWhere
          (fun c => c.phase.hasStarted) =
            s.serving.countWhere (fun c => c.phase.hasStarted) + 1 := by
        rw [hphase] at hcount
        exact hcount
      have hgauge : (s.perform (.start call now)).metrics.queueDepth =
          (s.serving.perform (.start call now)).handler.getQueueDepth := by
        rw [hmoves.2]
        rfl
      unfold Serving.DepthExact at hdepth
      unfold DepthStarted
      omega
  | returned call result now c hc hphase hmoves =>
      exact hsame hmoves hc (by rw [hphase]; rfl) rfl
  | unbuilt call result message now c hc hphase hmoves =>
      exact hsame hmoves hc (by rw [hphase]; rfl) rfl
  | refused _ call message c hc hphase hmoves =>
      exact hsame hmoves hc (CallPhase.of_inTry hphase).1.symm rfl
  | cancel call c hc hmoves =>
      refine hsame hmoves hc ?_ ?_
      · cases c.phase <;> rfl
      · cases c.phase.inTry <;> rfl

/-- **What `/v1/health` and `/v1/metrics` say of one server.**

Take any run in which no two calls in flight share an id.  The active requests
of `/v1/health`, with the calls whose response could not be built and which
have not been answered yet, are the gauge of active requests with the calls
that were cancelled while the engine worked on them: a cancelled call leaves
the gauge and never leaves the registry.  The queue depth gauge is zero only
as long as no call has been started, also when every call has ended. -/
theorem health_against_metrics (maxConcurrent : Nat) (router : WorkloadRouter)
    (maxConcurrency : Nat → Nat) (ops : List (ServingOp κ))
    (hmeet : StepsMeet perform (fun s op => s.serving.NoCollision op)
      (init maxConcurrent router maxConcurrency) ops) :
    let s := run perform (init maxConcurrent router maxConcurrency) ops
    (s.serving.handler.getActiveCount : Int) +
        s.serving.countWhere (fun c => c.phase.hasFailedResponse) =
      s.metrics.activeRequests + s.serving.countWhere (fun c => c.phase.abandoned) ∧
    (s.metrics.queueDepth = 0 ↔
      ∀ call c, s.serving.calls.get? call = some c → c.phase.hasStarted = false) := by
  intro s
  have hinv : s.serving.Tracked router ∧ s.ActiveExact ∧ s.DepthStarted := by
    have hstep : ∀ (s : Monitored κ) op, s.serving.NoCollision op →
        s.serving.Tracked router ∧ s.ActiveExact ∧ s.DepthStarted →
          (s.perform op).serving.Tracked router ∧ (s.perform op).ActiveExact ∧
            (s.perform op).DepthStarted :=
      fun s op hop h => ⟨h.1.perform hop, h.2.1.perform op, h.2.2.perform h.1 hop⟩
    exact run_of_stepsMeet hstep ops _ hmeet
      ⟨Serving.tracked_init maxConcurrent router maxConcurrency, rfl, Iff.rfl⟩
  obtain ⟨htracked, hactive, hdepth⟩ := hinv
  constructor
  · have hcount : s.serving.handler.getActiveCount =
        s.serving.countWhere (fun c => c.phase.isOccupying) := by
      rw [RequestHandler.getActiveCount_eq, htracked.activeIds_perm.length_eq,
        Serving.occupyingIds, Serving.length_idsWhere]
    have hphases : s.serving.countWhere (fun c => c.phase.isOccupying) +
        s.serving.countWhere (fun c => c.phase.hasFailedResponse) =
          s.serving.countWhere (fun c => c.phase.inTry) +
            s.serving.countWhere (fun c => c.phase.abandoned) := by
      apply countP_add_countP
      intro c
      cases c.phase with
      | submitted | generating | responseFailed | left => rfl
      | cancelled started => cases started <;> rfl
    unfold ActiveExact at hactive
    omega
  · exact hdepth.trans (s.serving.countWhere_eq_zero_iff _)

/-- A call that is cancelled while the engine works on it. -/
def cancelledCall : List (ServingOp Nat) :=
  [ .submit 0 { prompt := "p" } none "u" 0,
    .start 0 0,
    .cancel 0 ]

/-- One request in progress for `/v1/health`, none for the gauge, and a queue
depth of one. -/
theorem health_against_metrics_cancelled :
    let start : Monitored Nat := init 32 plainRouter (fun _ => 8)
    let s := run perform start cancelledCall
    s.serving.handler.getActiveCount = 1 ∧ s.metrics.activeRequests = 0 ∧
      (s.serving.handler.getActiveCount : Int) +
          s.serving.countWhere (fun c => c.phase.hasFailedResponse) =
        s.metrics.activeRequests + s.serving.countWhere (fun c => c.phase.abandoned) ∧
      s.metrics.queueDepth = 1 := by
  intro start s
  have hmeet : StepsMeet perform (fun s op => s.serving.NoCollision op) start cancelledCall := by
    decide +kernel
  exact ⟨by decide +kernel, by decide +kernel,
    (health_against_metrics 32 plainRouter (fun _ => 8) cancelledCall hmeet).1,
    by decide +kernel⟩

/-! ## The metrics of a run -/

/-- **When the Prometheus metrics are exact.**

Take any run of calls, on their own or in batches, with errors and
cancellations anywhere.  In every state of it the gauge of active requests is
the number of calls in the `try` statement of `generate`, and the error counter
has under each workload type the number of calls that ended in an HTTP error.
The success counter has the number of calls that ended in a response, and the
histograms have the latencies of these responses, in every state of the run
exactly when every response that is to be built can be. -/
theorem metrics_exact_iff (maxConcurrent : Nat) (router : WorkloadRouter)
    (maxConcurrency : Nat → Nat) (ops : List (ServingOp κ)) :
    Throughout perform ActiveExact (init maxConcurrent router maxConcurrency) ops ∧
    Throughout perform ErrorExact (init maxConcurrent router maxConcurrency) ops ∧
    (Throughout perform SuccessExact (init maxConcurrent router maxConcurrency) ops ↔
      StepsMeet perform Builds (init maxConcurrent router maxConcurrency) ops) := by
  refine ⟨?_, ?_, ?_⟩
  · intro done _
    have hstep : ∀ (s : Monitored κ) op, s.ActiveExact → (s.perform op).ActiveExact :=
      fun _ op h => h.perform op
    exact run_invariant hstep done _ rfl
  · intro done _
    have hstep : ∀ (s : Monitored κ) op, s.ErrorExact → (s.perform op).ErrorExact :=
      fun _ op h => h.perform op
    exact run_invariant hstep done _ (fun _ => rfl)
  · exact throughout_iff_stepsMeet (fun _ _ hop h => h.perform hop) (fun _ h => h)
      (fun _ _ h hop => h.not_perform hop) ops _ ⟨fun _ => rfl, .nil, .nil⟩

end Monitored

end KVOrchestrator.Ports
