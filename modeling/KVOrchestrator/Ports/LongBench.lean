import KVOrchestrator.Ports.ReferenceAnswers
import KVOrchestrator.Ports.ResultFiles
import KVOrchestrator.Ports.StressTests
import KVOrchestrator.Verified.TaskPool

/-!
# LongBench evaluation (`src/benchmarks/longbench.py`)

`run_task_async` sends one request for each sample of a task, `concurrency` of
them at a time, and writes what comes back into variables the calls share:
predictions by index, latencies and the number of failures as the calls end.

The calls are the tasks of a `TaskPool`.  However they interleave, the result is
that of sending the requests one by one, up to the order of the latencies
(`run_task_as_one_by_one`).  A run has an end exactly if the semaphore has a
place or there is nothing to send (`run_task_ends_iff`): with `concurrency = 0`
it waits for ever.

What the dataset holds and how each request ends are parameters.  A sample has
the four fields the runner reads, with texts in them, and the limits of the
configuration are arguments.
-/

namespace KVOrchestrator.Ports

open KVOrchestrator.Verified
open KVOrchestrator.Ports.ResultFiles

/-! ## Tasks -/

/-- `TASK_METRIC` -/
def taskMetric : OrdDict String String where
  entries :=
    [("narrativeqa", "rouge_l"),
      ("qasper", "f1"),
      ("multifieldqa_en", "f1"),
      ("hotpotqa", "f1"),
      ("2wikimqa", "f1"),
      ("musique", "f1"),
      ("gov_report", "rouge_l"),
      ("qmsum", "rouge_l"),
      ("multi_news", "rouge_l"),
      ("trec", "em"),
      ("triviaqa", "f1"),
      ("samsum", "rouge_l"),
      ("passage_count", "em"),
      ("passage_retrieval_en", "em"),
      ("lcc", "edit_sim"),
      ("repobench-p", "edit_sim")]
  nodup := by decide

/-- `TASK_TO_WORKLOAD.get(task_name, WorkloadType.UNKNOWN)` -/
def workloadOf (taskName : String) : WorkloadType :=
  (taskToWorkload.lookup taskName).getD .unknown

/-- `TASK_METRIC.get(task_name, "f1")` -/
def primaryMetricOf (taskName : String) : String :=
  (taskMetric.get? taskName).getD "f1"

/-! ## Samples -/

/-- `LongBenchRunner` with the other attributes its runs read. -/
structure LongBenchClient extends LongBenchRunner where
  policyName : String := "unknown"
  memoryBudget : ℚ := 1
  evaluator : QualityEvaluator := {}
  /-- `max_samples_per_task` of the configuration. -/
  maxSamples : Int := 200

namespace LongBenchClient

/-- Minimal synthetic fallback. -/
def syntheticSamples (taskName : String) (n : Int) : List Sample :=
  (List.range (min n 10).toNat).map (fun i =>
    { prompt := "This is a synthetic " ++ taskName ++ " prompt " ++ toString i ++
        ". Answer the question."
      reference := "synthetic answer " ++ toString i
      taskName := taskName
      workloadType := (workloadOf taskName).value })

/-- Load the samples of a task, or make some up if the dataset cannot be
loaded. -/
def loadTask (runner : LongBenchClient) (dataset : String → Except PyError (List RawSample))
    (taskName : String) (maxSamples : Option Int) : List Sample :=
  -- `max_samples or self.max_samples`
  let n : Int :=
    match maxSamples with
    | some n => if n = 0 then runner.maxSamples else n
    | none => runner.maxSamples
  match dataset taskName with
  | .ok rows =>
      (rows.take (min n (rows.length : Int)).toNat).map
        (fun s => runner.preprocessSample s taskName)
  | .error _ => syntheticSamples taskName n

end LongBenchClient

/-! ## The calls of a task -/

/-- How the request of a call ends: with a reply, whose `text` may be missing,
after some milliseconds, or by raising. -/
inductive CallReply where
  | reply (text : Option String) (latencyMs : ℚ)
  | raised (message : String)
  deriving DecidableEq, Repr

namespace CallReply

/-- What the call leaves in its slot of the predictions. -/
def prediction : CallReply → String
  | .reply text _ => text.getD ""
  | .raised _ => ""

def latency? : CallReply → Option ℚ
  | .reply _ latencyMs => some latencyMs
  | .raised _ => none

def isRaised : CallReply → Bool
  | .reply _ _ => false
  | .raised _ => true

end CallReply

/-- The variables the calls of a task share, and the calls under their
semaphore. -/
structure TaskRun where
  pool : TaskPool CallReply
  predictions : List String
  latencies : List ℚ := []
  failed : Nat := 0
  deriving DecidableEq

namespace TaskRun

/-- The variables before the first call. -/
def start (concurrency n : Nat) : TaskRun where
  pool := TaskPool.start concurrency n
  predictions := List.replicate n ""

/-- What `_call` does with the reply to request `idx`. -/
def record (r : TaskRun) (idx : Nat) : CallReply → TaskRun
  | .reply text latencyMs =>
      { r with
        predictions := r.predictions.set idx (text.getD "")
        latencies := r.latencies ++ [latencyMs] }
  | .raised _ => { r with failed := r.failed + 1 }

/-- A call enters the semaphore, or its request ends and it leaves. -/
def step (r : TaskRun) : PoolStep CallReply → TaskRun
  | .enter idx => { r with pool := r.pool.step (.enter idx) }
  | .leave idx reply =>
      if r.pool.phases[idx]? = some .running then
        { r.record idx reply with pool := r.pool.step (.leave idx reply) }
      else r

/-- A call writes its prediction, or leaves an empty slot as it is. -/
theorem record_predictions (r : TaskRun) {idx : Nat} (reply : CallReply)
    (hempty : r.predictions[idx]? = some "") :
    (r.record idx reply).predictions = r.predictions.set idx reply.prediction := by
  cases reply with
  | reply text latencyMs => rfl
  | raised message =>
      obtain ⟨hidx, hget⟩ := List.getElem?_eq_some_iff.mp hempty
      have hsame := List.set_getElem_self hidx
      rw [hget] at hsame
      exact hsame.symm

theorem record_latencies (r : TaskRun) (idx : Nat) (reply : CallReply) :
    (r.record idx reply).latencies = r.latencies ++ reply.latency?.toList := by
  cases reply with
  | reply text latencyMs => rfl
  | raised message => exact (List.append_nil _).symm

theorem record_failed (r : TaskRun) (idx : Nat) (reply : CallReply) :
    (r.record idx reply).failed = r.failed + [reply].countP CallReply.isRaised := by
  cases reply <;> rfl

/-- The shared variables hold what the calls that have ended brought. -/
structure Recorded (r : TaskRun) : Prop where
  predictions : r.predictions = r.pool.slots "" CallReply.prediction
  latencies : r.latencies = r.pool.log.filterMap (fun e => e.2.latency?)
  failed : r.failed = r.pool.log.countP (fun e => e.2.isRaised)

theorem recorded_start (concurrency n : Nat) : (start concurrency n).Recorded where
  predictions := by
    simp [start, TaskPool.start, TaskPool.slots, TaskPhase.outcome?]
  latencies := rfl
  failed := rfl

theorem Recorded.step {r : TaskRun} (h : r.Recorded) (op : PoolStep CallReply) :
    (r.step op).Recorded := by
  obtain ⟨hpredictions, hlatencies, hfailed⟩ := h
  cases op with
  | enter idx =>
      refine ⟨?_, ?_, ?_⟩
      · show r.predictions = (r.pool.step (.enter idx)).slots "" CallReply.prediction
        rw [TaskPool.slots_enter, hpredictions]
      · show r.latencies = (r.pool.step (.enter idx)).log.filterMap (fun e => e.2.latency?)
        rw [TaskPool.log_enter, hlatencies]
      · show r.failed = (r.pool.step (.enter idx)).log.countP (fun e => e.2.isRaised)
        rw [TaskPool.log_enter, hfailed]
  | leave idx reply =>
      by_cases hrunning : r.pool.phases[idx]? = some .running
      · have hslots := TaskPool.slots_leave "" CallReply.prediction hrunning reply
        have hlog := congrArg TaskPool.log (TaskPool.step_leave_of_running hrunning reply)
        rw [TaskRun.step, if_pos hrunning]
        refine ⟨?_, ?_, ?_⟩
        · -- the slot of a call that has not ended is empty
          have hempty : r.predictions[idx]? = some "" := by
            rw [hpredictions, TaskPool.slots, List.getElem?_map, hrunning]
            rfl
          show (r.record idx reply).predictions = _
          rw [record_predictions r reply hempty, hslots, hpredictions]
        · show (r.record idx reply).latencies = _
          rw [record_latencies, hlog, List.filterMap_append, hlatencies]
          cases reply <;> rfl
        · show (r.record idx reply).failed = _
          rw [record_failed, hlog, List.countP_append, hfailed]
          cases reply <;> rfl
      · rw [TaskRun.step, if_neg hrunning]
        exact ⟨hpredictions, hlatencies, hfailed⟩

theorem Recorded.run {r : TaskRun} (h : r.Recorded) (ops : List (PoolStep CallReply)) :
    (run TaskRun.step r ops).Recorded := by
  have hstep : ∀ (r : TaskRun) op, r.Recorded → (TaskRun.step r op).Recorded :=
    fun _ op hr => hr.step op
  exact run_invariant hstep ops r h

/-- The calls go their way whatever they write. -/
theorem pool_step (r : TaskRun) (op : PoolStep CallReply) :
    (r.step op).pool = r.pool.step op := by
  cases op with
  | enter idx => rfl
  | leave idx reply =>
      by_cases hrunning : r.pool.phases[idx]? = some .running
      · rw [TaskRun.step, if_pos hrunning]
      · rw [TaskRun.step, if_neg hrunning, TaskPool.step_leave_of_not_running hrunning]

theorem pool_run (ops : List (PoolStep CallReply)) (r : TaskRun) :
    (run TaskRun.step r ops).pool = run TaskPool.step r.pool ops := by
  induction ops generalizing r with
  | nil => rfl
  | cons op ops ih =>
      show (run TaskRun.step (r.step op) ops).pool =
        run TaskPool.step (r.pool.step op) ops
      rw [ih, pool_step]

end TaskRun

/-! ## A task -/

namespace LongBenchClient

variable [UnicodeTables]

/-- The result of a task without samples. -/
def emptyResult (runner : LongBenchClient) (taskName : String) (now : ℚ) :
    ResultFiles.TaskResult where
  taskName := taskName
  workloadType := workloadOf taskName
  policyName := runner.policyName
  memoryBudget := runner.memoryBudget
  nSamples := 0
  qualityScore := -1
  primaryMetric := primaryMetricOf taskName
  timestamp := now

/-- Evaluate what the calls have left behind. -/
def evaluateRun (runner : LongBenchClient) (taskName : String) (samples : List Sample) (now : ℚ)
    (r : TaskRun) : Except PyError ResultFiles.TaskResult := do
  let quality ← runner.evaluator.evaluate r.predictions (samples.map (·.reference))
  let score := (quality.get? (primaryMetricOf taskName)).getD 0
  return {
    taskName := taskName
    workloadType := workloadOf taskName
    policyName := runner.policyName
    memoryBudget := runner.memoryBudget
    nSamples := samples.length
    qualityScore := score
    primaryMetric := primaryMetricOf taskName
    qualityBreakdown := quality.mapValues Json.float
    latenciesMs := r.latencies
    failedRequests := r.failed
    timestamp := now }

/-- Run a task.  `ops` is what the calls do, in the order they do it; the task
has an end once all of them have left. -/
def runTaskAsync (runner : LongBenchClient) (dataset : String → Except PyError (List RawSample))
    (taskName : String) (maxSamples : Option Int) (concurrency : Int)
    (ops : List (PoolStep CallReply)) (now : ℚ) : Ending ResultFiles.TaskResult :=
  let samples := runner.loadTask dataset taskName maxSamples
  if samples.isEmpty then some (.ok (runner.emptyResult taskName now))
  else if concurrency < 0 then some (.error (.valueError "Semaphore initial value must be >= 0"))
  else
    let r := run TaskRun.step (TaskRun.start concurrency.toNat samples.length) ops
    if r.pool.Complete then some (runner.evaluateRun taskName samples now r) else none

end LongBenchClient

/-! ## One request after the other -/

namespace TaskRun

/-- The loop that sends a request, waits for its reply and goes on to the
next. -/
def oneByOne : Nat → List CallReply → TaskRun → TaskRun
  | _, [], r => r
  | idx, reply :: replies, r => oneByOne (idx + 1) replies (r.record idx reply)

theorem oneByOne_eq (replies : List CallReply) (r : TaskRun) (before : List String)
    (hslots : r.predictions = before ++ List.replicate replies.length "") :
    (oneByOne before.length replies r).predictions =
        before ++ replies.map CallReply.prediction ∧
      (oneByOne before.length replies r).latencies =
        r.latencies ++ replies.filterMap CallReply.latency? ∧
      (oneByOne before.length replies r).failed =
        r.failed + replies.countP CallReply.isRaised := by
  induction replies generalizing r before with
  | nil => exact ⟨hslots, (List.append_nil _).symm, rfl⟩
  | cons reply replies ih =>
      have hempty : r.predictions[before.length]? = some "" := by
        rw [hslots, List.getElem?_append_right (Nat.le_refl _), Nat.sub_self]
        rfl
      have hnext : (r.record before.length reply).predictions =
          (before ++ [reply.prediction]) ++ List.replicate replies.length "" := by
        rw [record_predictions r reply hempty, hslots,
          List.set_append_right _ _ (Nat.le_refl _), Nat.sub_self, List.append_assoc]
        rfl
      have hrest := ih (r.record before.length reply) (before ++ [reply.prediction]) hnext
      rw [List.length_append, List.length_singleton, List.append_assoc,
        record_latencies, record_failed] at hrest
      refine ⟨hrest.1, ?_, ?_⟩
      · rw [oneByOne, hrest.2.1, List.append_assoc]
        cases reply <;> rfl
      · have happend : (reply :: replies).countP CallReply.isRaised =
            [reply].countP CallReply.isRaised + replies.countP CallReply.isRaised :=
          @List.countP_append _ CallReply.isRaised [reply] replies
        rw [oneByOne, hrest.2.2, happend, Nat.add_assoc]

/-- What the loop leaves behind. -/
theorem oneByOne_start {replies : List CallReply} {n : Nat} (hlen : replies.length = n) :
    (oneByOne 0 replies (start 1 n)).predictions = replies.map CallReply.prediction ∧
      (oneByOne 0 replies (start 1 n)).latencies = replies.filterMap CallReply.latency? ∧
      (oneByOne 0 replies (start 1 n)).failed = replies.countP CallReply.isRaised := by
  obtain ⟨hpredictions, hlatencies, hfailed⟩ :=
    oneByOne_eq replies (start 1 n) [] (by rw [hlen]; rfl)
  exact ⟨hpredictions, hlatencies, hfailed.trans (Nat.zero_add _)⟩

/-- Each reply brings a latency or a failure. -/
theorem length_latencies_add_failed (replies : List CallReply) :
    (replies.filterMap CallReply.latency?).length + replies.countP CallReply.isRaised =
      replies.length := by
  induction replies with
  | nil => rfl
  | cons reply replies ih =>
      cases reply with
      | reply text latencyMs =>
          simp only [List.filterMap_cons, CallReply.latency?, List.length_cons, List.countP_cons,
            CallReply.isRaised]
          simp only [Bool.false_eq_true, if_false]
          omega
      | raised message =>
          simp only [List.filterMap_cons, CallReply.latency?, List.length_cons, List.countP_cons,
            CallReply.isRaised, if_true]
          omega

end TaskRun

namespace LongBenchClient

section Run

variable {concurrency : Int} {samples : List Sample} {ops : List (PoolStep CallReply)}

/-- The variables after a run of the calls. -/
def finalRun (concurrency : Int) (samples : List Sample) (ops : List (PoolStep CallReply)) :
    TaskRun :=
  run TaskRun.step (TaskRun.start concurrency.toNat samples.length) ops

theorem pool_finalRun : (finalRun concurrency samples ops).pool =
    run TaskPool.step (TaskPool.start concurrency.toNat samples.length) ops :=
  TaskRun.pool_run ops _

theorem sound_finalRun :
    (finalRun concurrency samples ops).pool.Sound concurrency.toNat samples.length := by
  rw [pool_finalRun]
  exact (TaskPool.sound_start _ _).run ops

theorem recorded_finalRun : (finalRun concurrency samples ops).Recorded :=
  (TaskRun.recorded_start _ _).run ops

/-- Once all calls have ended, the shared variables hold the replies. -/
theorem finalRun_of_replies {replies : List CallReply}
    (hreplies : (finalRun concurrency samples ops).pool.phases = replies.map .finished) :
    (finalRun concurrency samples ops).predictions = replies.map CallReply.prediction ∧
      (finalRun concurrency samples ops).latencies.Perm
        (replies.filterMap CallReply.latency?) ∧
      (finalRun concurrency samples ops).failed = replies.countP CallReply.isRaised := by
  have hrecorded : (finalRun concurrency samples ops).Recorded := recorded_finalRun
  have hlog := sound_finalRun.log_perm hreplies
  refine ⟨?_, ?_, ?_⟩
  · rw [hrecorded.predictions, TaskPool.slots_eq _ _ hreplies]
  · have hmeasured := hlog.filterMap CallReply.latency?
    rw [List.filterMap_map] at hmeasured
    rw [hrecorded.latencies]
    exact hmeasured
  · rw [hrecorded.failed, ← hlog.countP_eq, List.countP_map]
    rfl

end Run

variable [UnicodeTables]

/-- Run a task by sending one request after the other. -/
def runTaskOneByOne (runner : LongBenchClient) (taskName : String) (samples : List Sample)
    (replies : List CallReply) (now : ℚ) : Except PyError ResultFiles.TaskResult :=
  runner.evaluateRun taskName samples now
    (TaskRun.oneByOne 0 replies (TaskRun.start 1 samples.length))

/-- A result with its latencies in another order. -/
def withLatencies (latencies : List ℚ) (t : ResultFiles.TaskResult) : ResultFiles.TaskResult :=
  { t with latenciesMs := latencies }

theorem evaluateRun_ok {runner : LongBenchClient} {taskName : String} {samples : List Sample}
    {now : ℚ} {r : TaskRun} (hlen : r.predictions.length = samples.length) :
    ∃ t, runner.evaluateRun taskName samples now r = .ok t ∧ t.nSamples = samples.length ∧
      t.latenciesMs = r.latencies ∧ t.failedRequests = r.failed := by
  have hquality : runner.evaluator.evaluate r.predictions (samples.map (·.reference)) =
      .ok (runner.evaluator.metrics.foldl
        (QualityEvaluator.addMean r.predictions (samples.map (·.reference)))
        OrdDict.empty) := by
    rw [QualityEvaluator.evaluate, if_neg (by simp [hlen])]
  exact ⟨_, by rw [evaluateRun, hquality]; rfl, rfl, rfl, rfl⟩

/-- The evaluation reads the predictions; latencies and failures it passes on. -/
theorem evaluateRun_congr {runner : LongBenchClient} {taskName : String} {samples : List Sample}
    {now : ℚ} {r r' : TaskRun} (hpredictions : r'.predictions = r.predictions)
    (hfailed : r'.failed = r.failed) :
    runner.evaluateRun taskName samples now r' =
      (runner.evaluateRun taskName samples now r).map (withLatencies r'.latencies) := by
  rw [evaluateRun, evaluateRun, hpredictions, hfailed]
  cases runner.evaluator.evaluate r.predictions (samples.map (·.reference)) with
  | error e => rfl
  | ok quality => rfl

theorem runTaskAsync_eq {runner : LongBenchClient}
    {dataset : String → Except PyError (List RawSample)} {taskName : String}
    {maxSamples : Option Int} {concurrency : Int} {samples : List Sample}
    {ops : List (PoolStep CallReply)} {now : ℚ} (hsem : 0 ≤ concurrency)
    (hload : runner.loadTask dataset taskName maxSamples = samples) (hsamples : samples ≠ []) :
    runner.runTaskAsync dataset taskName maxSamples concurrency ops now =
      if (finalRun concurrency samples ops).pool.Complete then
        some (runner.evaluateRun taskName samples now (finalRun concurrency samples ops))
      else none := by
  have hempty : samples.isEmpty = false := by simpa using hsamples
  have hnonneg : ¬concurrency < 0 := by omega
  rw [runTaskAsync, hload]
  simp only [hempty, if_neg hnonneg, Bool.false_eq_true, if_false]
  rfl

/-- A task result is the one of a task without samples, or an evaluation. -/
theorem runTaskAsync_ok {runner : LongBenchClient}
    {dataset : String → Except PyError (List RawSample)} {taskName : String}
    {maxSamples : Option Int} {concurrency : Int} {ops : List (PoolStep CallReply)} {now : ℚ}
    {t : ResultFiles.TaskResult}
    (h : runner.runTaskAsync dataset taskName maxSamples concurrency ops now = some (.ok t)) :
    (runner.loadTask dataset taskName maxSamples = [] ∧ t = runner.emptyResult taskName now) ∨
      (runner.loadTask dataset taskName maxSamples ≠ [] ∧ ∃ r,
        runner.evaluateRun taskName (runner.loadTask dataset taskName maxSamples) now r =
          .ok t) := by
  rw [runTaskAsync] at h
  dsimp only at h
  split at h
  · rename_i hempty
    cases h
    exact .inl ⟨List.isEmpty_iff.mp hempty, rfl⟩
  · rename_i hsamples
    split at h
    · cases h
    · split at h
      · exact .inr ⟨by simpa using hsamples, _, Option.some.inj h⟩
      · cases h

/-- A run that has ended has a reply to each request, with which its call has
ended, and evaluates what the replies have left behind. -/
theorem exists_replies {runner : LongBenchClient}
    {dataset : String → Except PyError (List RawSample)} {taskName : String}
    {maxSamples : Option Int} {concurrency : Int} {samples : List Sample}
    {ops : List (PoolStep CallReply)} {now : ℚ} {result : Except PyError ResultFiles.TaskResult}
    (hsem : 0 ≤ concurrency) (hload : runner.loadTask dataset taskName maxSamples = samples)
    (hsamples : samples ≠ [])
    (hend : runner.runTaskAsync dataset taskName maxSamples concurrency ops now = some result) :
    ∃ replies : List CallReply, replies.length = samples.length ∧
      (∀ i reply, replies[i]? = some reply → PoolStep.leave i reply ∈ ops) ∧
      (finalRun concurrency samples ops).predictions = replies.map CallReply.prediction ∧
      (finalRun concurrency samples ops).latencies.Perm
        (replies.filterMap CallReply.latency?) ∧
      (finalRun concurrency samples ops).failed = replies.countP CallReply.isRaised ∧
      result = runner.evaluateRun taskName samples now (finalRun concurrency samples ops) := by
  rw [runTaskAsync_eq hsem hload hsamples] at hend
  split at hend
  case isFalse => cases hend
  case isTrue hcomplete =>
    cases hend
    obtain ⟨replies, hreplies⟩ := TaskPool.exists_outcomes hcomplete
    obtain ⟨hpredictions, hlatencies, hfailed⟩ := finalRun_of_replies hreplies
    refine ⟨replies, ?_, ?_, hpredictions, hlatencies, hfailed, rfl⟩
    · rw [← sound_finalRun.length, hreplies, List.length_map]
    · intro i reply hreply
      have hlogged := sound_finalRun.mem_log hreplies hreply
      rw [pool_finalRun] at hlogged
      rcases TaskPool.mem_log_run ops _ hlogged with hnone | hleft
      · cases hnone
      · exact hleft

/-- **A concurrent run gives what sending the requests one by one gives.**

However the calls of a task interleave under the semaphore, once all have ended
there is a reply to each request, by index, with which the call has ended in the
run, and the result is that of the sequential loop over these replies, except
for the order of the latencies.  The latencies and the failures together account
for all samples. -/
theorem run_task_as_one_by_one (runner : LongBenchClient)
    (dataset : String → Except PyError (List RawSample)) (taskName : String)
    (maxSamples : Option Int) (concurrency : Int) (ops : List (PoolStep CallReply)) (now : ℚ)
    (result : Except PyError ResultFiles.TaskResult) (hsem : 0 ≤ concurrency)
    (hsamples : runner.loadTask dataset taskName maxSamples ≠ [])
    (hend : runner.runTaskAsync dataset taskName maxSamples concurrency ops now = some result) :
    ∃ (replies : List CallReply) (plain : ResultFiles.TaskResult) (latencies : List ℚ),
      replies.length = (runner.loadTask dataset taskName maxSamples).length ∧
      (∀ i reply, replies[i]? = some reply → PoolStep.leave i reply ∈ ops) ∧
      runner.runTaskOneByOne taskName (runner.loadTask dataset taskName maxSamples) replies now =
        .ok plain ∧
      result = .ok (withLatencies latencies plain) ∧
      latencies.Perm plain.latenciesMs ∧
      plain.latenciesMs.length + plain.failedRequests = plain.nSamples := by
  obtain ⟨samples, hload⟩ : ∃ samples, runner.loadTask dataset taskName maxSamples = samples :=
    ⟨_, rfl⟩
  rw [hload] at hsamples ⊢
  obtain ⟨replies, hlen, hleft, hpredictions, hlatencies, hfailed, hresult⟩ :=
    exists_replies hsem hload hsamples hend
  obtain ⟨hplainPredictions, hplainLatencies, hplainFailed⟩ := TaskRun.oneByOne_start hlen
  obtain ⟨plain, hplain, hsampled, hmeasured, hcounted⟩ :=
    @evaluateRun_ok _ runner taskName samples now
      (TaskRun.oneByOne 0 replies (TaskRun.start 1 samples.length))
      (by rw [hplainPredictions, List.length_map, hlen])
  refine ⟨replies, plain, (finalRun concurrency samples ops).latencies, hlen, hleft, hplain, ?_, ?_,
    ?_⟩
  · rw [hresult, evaluateRun_congr
      (r := TaskRun.oneByOne 0 replies (TaskRun.start 1 samples.length))
      (hpredictions.trans hplainPredictions.symm) (hfailed.trans hplainFailed.symm), hplain]
    rfl
  · rw [hmeasured, hplainLatencies]
    exact hlatencies
  · rw [hmeasured, hcounted, hsampled, hplainLatencies, hplainFailed, ← hlen]
    exact_mod_cast TaskRun.length_latencies_add_failed replies

omit [UnicodeTables] in
/-- Two samples made up for a dataset that cannot be loaded; their replies arrive
in the opposite order, and the second is an error. -/
theorem run_task_as_one_by_one_two_samples :
    ∃ (replies : List CallReply) (plain : ResultFiles.TaskResult) (latencies : List ℚ),
      replies.length = 2 ∧
      (∀ i reply, replies[i]? = some reply →
        PoolStep.leave i reply ∈
          [.enter 0, .enter 1, .leave 1 (.raised "500"), .leave 0 (.reply (some "yes") 12)]) ∧
      @runTaskOneByOne asciiTables {} "trec" (syntheticSamples "trec" 2) replies 0 = .ok plain ∧
      @runTaskAsync asciiTables {} (fun _ => .error (.other "offline")) "trec" (some 2) 2
          [.enter 0, .enter 1, .leave 1 (.raised "500"), .leave 0 (.reply (some "yes") 12)] 0 =
        some (.ok (withLatencies latencies plain)) ∧
      latencies.Perm plain.latenciesMs ∧
      plain.latenciesMs.length + plain.failedRequests = plain.nSamples := by
  let _ := asciiTables
  obtain ⟨replies, plain, latencies, hlen, hleft, hplain, hresult, hperm, hcount⟩ :=
    run_task_as_one_by_one {} (fun _ => .error (.other "offline")) "trec" (some 2) 2
      [.enter 0, .enter 1, .leave 1 (.raised "500"), .leave 0 (.reply (some "yes") 12)] 0 _
      (by decide) (List.cons_ne_nil _ _) rfl
  exact ⟨replies, plain, latencies, hlen, hleft, hplain, congrArg some hresult, hperm, hcount⟩

/-- Without a place in the semaphore no call ever enters. -/
theorem runTaskAsync_ne_of_no_place {runner : LongBenchClient}
    {dataset : String → Except PyError (List RawSample)} {taskName : String}
    {maxSamples : Option Int} {concurrency : Int} {samples : List Sample} {now : ℚ}
    (hsem : concurrency ≤ 0) (hload : runner.loadTask dataset taskName maxSamples = samples)
    (hsamples : samples ≠ []) (ops : List (PoolStep CallReply)) (t : ResultFiles.TaskResult) :
    runner.runTaskAsync dataset taskName maxSamples concurrency ops now ≠ some (.ok t) := by
  intro hend
  rcases Int.lt_or_eq_of_le hsem with hneg | hzero
  · rw [runTaskAsync, hload] at hend
    have hempty : samples.isEmpty = false := by simpa using hsamples
    simp only [hempty, if_pos hneg, Bool.false_eq_true, if_false] at hend
    cases hend
  · rw [runTaskAsync_eq (Int.le_of_eq hzero.symm) hload hsamples] at hend
    have hstuck : ¬(finalRun concurrency samples ops).pool.Complete := by
      rw [pool_finalRun, hzero]
      show ¬(run TaskPool.step (TaskPool.start 0 samples.length) _).Complete
      rw [TaskPool.run_start_zero, ← TaskPool.remaining_eq_zero_iff, TaskPool.remaining_start]
      have := List.length_pos_of_ne_nil hsamples
      omega
    rw [if_neg hstuck] at hend
    cases hend

/-- With one, whatever the calls have done so far, they can all end. -/
theorem exists_runTaskAsync_ok {runner : LongBenchClient}
    {dataset : String → Except PyError (List RawSample)} {taskName : String}
    {maxSamples : Option Int} {concurrency : Int} {samples : List Sample} {now : ℚ}
    (hpos : 0 < concurrency) (hload : runner.loadTask dataset taskName maxSamples = samples)
    (hsamples : samples ≠ []) (ops : List (PoolStep CallReply)) :
    ∃ rest t, rest.length ≤ 2 * samples.length ∧
      runner.runTaskAsync dataset taskName maxSamples concurrency (ops ++ rest) now =
        some (.ok t) := by
  have hsound :
      (finalRun concurrency samples ops).pool.Sound concurrency.toNat samples.length :=
    sound_finalRun
  obtain ⟨rest, hlen, hcomplete⟩ :=
    TaskPool.exists_completion (by omega) (.raised "") _ _ hsound rfl
  have hend : (finalRun concurrency samples (ops ++ rest)).pool.Complete := by
    rw [pool_finalRun, run, List.foldl_append]
    rw [pool_finalRun] at hcomplete
    exact hcomplete
  obtain ⟨replies, hreplies⟩ := TaskPool.exists_outcomes hend
  have hpredictions : (finalRun concurrency samples (ops ++ rest)).predictions.length =
      samples.length := by
    rw [(finalRun_of_replies hreplies).1, List.length_map, ← sound_finalRun.length, hreplies,
      List.length_map]
  obtain ⟨t, ht, _⟩ := @evaluateRun_ok _ runner taskName samples now _ hpredictions
  refine ⟨rest, t, ?_, ?_⟩
  · rw [hlen]
    exact hsound.remaining_le
  · rw [runTaskAsync_eq hpos.le hload hsamples, if_pos hend, ht]

/-- **A task ends exactly if its semaphore has a place or there is nothing to
send.**

Then whatever the calls have done so far, they can all end, two steps a sample
being enough.  At no time more than `concurrency` requests are in flight, and
no run has more than two steps a sample that do anything. -/
theorem run_task_ends_iff (runner : LongBenchClient)
    (dataset : String → Except PyError (List RawSample)) (taskName : String)
    (maxSamples : Option Int) (concurrency : Int) (now : ℚ) :
    ((∀ ops : List (PoolStep CallReply), ∃ rest t,
        rest.length ≤ 2 * (runner.loadTask dataset taskName maxSamples).length ∧
        runner.runTaskAsync dataset taskName maxSamples concurrency (ops ++ rest) now =
          some (.ok t)) ↔
      0 < concurrency ∨ runner.loadTask dataset taskName maxSamples = []) ∧
    (∀ ops, (finalRun concurrency (runner.loadTask dataset taskName maxSamples) ops).pool.inFlight ≤
      concurrency.toNat) ∧
    ∀ ops : List (PoolStep CallReply), StepsMeet TaskPool.step (fun s op => s.step op ≠ s)
        (TaskPool.start concurrency.toNat (runner.loadTask dataset taskName maxSamples).length)
        ops →
      ops.length ≤ 2 * (runner.loadTask dataset taskName maxSamples).length := by
  obtain ⟨samples, hload⟩ : ∃ samples, runner.loadTask dataset taskName maxSamples = samples :=
    ⟨_, rfl⟩
  rw [hload]
  refine ⟨⟨?_, ?_⟩, ?_, ?_⟩
  · intro h
    by_contra hnone
    rw [not_or] at hnone
    obtain ⟨rest, t, _, hend⟩ := h []
    exact runTaskAsync_ne_of_no_place (Int.not_lt.mp hnone.1) hload hnone.2 _ t hend
  · intro h ops
    by_cases hsamples : samples = []
    · refine ⟨[], runner.emptyResult taskName now, Nat.zero_le _, ?_⟩
      rw [runTaskAsync, hload, hsamples]
      rfl
    · exact exists_runTaskAsync_ok (h.resolve_right hsamples) hload hsamples ops
  · intro ops
    exact sound_finalRun.inFlight_le
  · intro ops hmoves
    have htotal := TaskPool.steps_add_remaining ops _ hmoves
    rw [TaskPool.remaining_start] at htotal
    omega

/-! ## All tasks -/

/-- Run tasks one after the other.  `ops` and `clock` are for the task of each
number. -/
def runTasks (runner : LongBenchClient) (dataset : String → Except PyError (List RawSample))
    (maxSamples : Option Int) (concurrency : Int) (ops : Nat → List (PoolStep CallReply))
    (clock : Nat → ℚ) : List String → Nat → Ending (List ResultFiles.TaskResult)
  | [], _ => some (.ok [])
  | taskName :: rest, k =>
      match runner.runTaskAsync dataset taskName maxSamples concurrency (ops k) (clock k) with
      | none => none
      | some (.error e) => some (.error e)
      | some (.ok result) =>
          (runner.runTasks dataset maxSamples concurrency ops clock rest (k + 1)).map
            (fun ending => ending.map (fun results => result :: results))

/-- The macro-average over the tasks with a score. -/
def aggregateOf (results : List ResultFiles.TaskResult) : ℚ :=
  let scores := (results.map (·.qualityScore)).filter (fun q => decide (q ≥ 0))
  if scores.isEmpty then 0 else scores.sum / scores.length

/-- Run all requested tasks, or all there are. -/
def runAllAsync (runner : LongBenchClient) (dataset : String → Except PyError (List RawSample))
    (tasks : Option (List String)) (maxSamples : Option Int) (concurrency : Int)
    (ops : Nat → List (PoolStep CallReply)) (clock : Nat → ℚ) (startedAt : ℚ) :
    Ending ResultFiles.BenchmarkResult :=
  let taskNames :=
    match tasks with
    | some (taskName :: rest) => taskName :: rest
    | _ => taskToWorkload.map Prod.fst
  (runner.runTasks dataset maxSamples concurrency ops clock taskNames 0).map
    (fun ending => ending.map (fun results =>
      { policyName := runner.policyName
        memoryBudget := runner.memoryBudget
        taskResults := results
        aggregateQuality := aggregateOf results
        timestamp := startedAt }))

end LongBenchClient

end KVOrchestrator.Ports
