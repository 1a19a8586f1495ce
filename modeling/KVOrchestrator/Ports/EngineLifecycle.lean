import KVOrchestrator.Ports.EngineRun
import KVOrchestrator.Ports.Heuristic

/-!
# Starting and stopping the engine

`start` creates a task that runs `_loop`; `stop` clears `_running`, cancels the
task and waits for it.  Both can be called again while an earlier task has not
noticed its cancellation yet, so several tasks may exist at once, and `_running`
is one flag for all of them.

A task runs from one `await` to the next without interruption, and the only one
at which a loop can be suspended is the sleep at its end.  So a step here is a
call of `start`, the part of `stop` before its `await`, one wake-up of a task,
or a step of someone else on the shared state.

At any time the task of the engine, as long as it is running, is the one that
would run a further cycle, and no other is (`Sound`).  Hence a run of all of
these steps is one of `EngineRun` (`loop_runs_one_cycle_at_a_time`), and after
`stop` there is none of its own (`stopped_loop_is_quiet`).
-/

namespace KVOrchestrator.Ports

open KVOrchestrator.Verified

/-- Where a task of the engine is. -/
inductive LoopTask where
  /-- not run yet -/
  | created
  /-- at the `asyncio.sleep` of `_loop` -/
  | sleeping
  /-- `cancel()` has been called; the next wake-up raises `CancelledError` -/
  | cancelling
  | done
  deriving DecidableEq

namespace LoopTask

/-- The next wake-up evaluates the condition of the loop. -/
def live : LoopTask → Bool
  | .created => true
  | .sleeping => true
  | .cancelling => false
  | .done => false

/-- `task.cancel()`, if it is not done. -/
def cancel : LoopTask → LoopTask
  | .done => .done
  | _ => .cancelling

@[simp] theorem live_cancel (t : LoopTask) : t.cancel.live = false := by
  cases t <;> rfl

end LoopTask

/-- An engine with its lifecycle; tasks are numbered as they are created. -/
structure EngineLoop (π : Type) where
  engine : PolicyEngine π
  intervalMs : ℚ := 50
  running : Bool := false
  task : Option Nat := none
  tasks : List LoopTask := []

/-- One step of the event loop. -/
inductive LoopOp (π : Type) where
  | start
  | stop
  | wake (k : Nat)
  | other (op : EngineOp π)

/-- What `get_current_stats` reports. -/
structure EngineStats where
  policyName : String
  cycleCount : Nat
  running : Bool
  intervalMs : ℚ
  lastStats : Option PolicyStats

namespace EngineLoop

variable {π : Type} [PolicyInterface π]

/-- Start the background scheduling loop. -/
def start (s : EngineLoop π) : EngineLoop π :=
  if s.running then s
  else
    { s with
      running := true
      task := some s.tasks.length
      tasks := s.tasks ++ [.created] }

/-- `stop`, up to its `await`. -/
def stop (s : EngineLoop π) : EngineLoop π :=
  { s with
    running := false
    tasks := match s.task with
      | some k => s.tasks.modify k LoopTask.cancel
      | none => s.tasks }

/-- A task runs until it sleeps again or is done. -/
def wake (s : EngineLoop π) (k : Nat) : EngineLoop π :=
  match s.tasks[k]? with
  | none => s
  | some .done => s
  | some .cancelling => { s with tasks := s.tasks.set k .done }
  | some _ =>
      if s.running then
        { s with
          engine := s.engine.cycle
          tasks := s.tasks.set k .sleeping }
      else { s with tasks := s.tasks.set k .done }

def step (s : EngineLoop π) : LoopOp π → EngineLoop π
  | .start => s.start
  | .stop => s.stop
  | .wake k => s.wake k
  | .other op => { s with engine := s.engine.perform op }

/-- Return a summary of the engine's recent activity. -/
def getCurrentStats (s : EngineLoop π) : EngineStats where
  policyName := PolicyInterface.getName s.engine.policy
  cycleCount := s.engine.cycleCount
  running := s.running
  intervalMs := s.intervalMs
  lastStats := s.engine.history.getLast?

/-- Task `k` would go on with its loop. -/
def liveAt (s : EngineLoop π) (k : Nat) : Bool := s.tasks[k]?.any LoopTask.live

/-- The step on the engine that a step of the event loop is meant to be: the task
of a running engine runs a cycle, and no other task does anything. -/
def engineOps (s : EngineLoop π) : LoopOp π → List (EngineOp π)
  | .start => []
  | .stop => []
  | .wake k => if s.running = true ∧ s.task = some k then [.runPolicyCycle] else []
  | .other op => [op]

/-- Those of a run. -/
def runOps : EngineLoop π → List (LoopOp π) → List (EngineOp π)
  | _, [] => []
  | s, op :: ops => s.engineOps op ++ runOps (s.step op) ops

/-- While the engine is running its task is the one live task, and there is none
when it is not. -/
structure Sound (s : EngineLoop π) : Prop where
  task : s.running = true → ∃ k, s.task = some k
  live : ∀ k, s.liveAt k = true ↔ s.running = true ∧ s.task = some k

section Steps

variable {s : EngineLoop π}

omit [PolicyInterface π] in
theorem liveAt_set (k : Nat) (t : LoopTask) (j : Nat) :
    ({ s with tasks := s.tasks.set k t }).liveAt j =
      if j = k ∧ k < s.tasks.length then t.live else s.liveAt j := by
  unfold liveAt
  dsimp only
  rw [List.getElem?_set]
  by_cases hjk : k = j
  · subst hjk
    by_cases hlt : k < s.tasks.length
    · simp [hlt]
    · have hnone : s.tasks[k]? = none := by simp [Nat.le_of_not_lt hlt]
      simp [hlt]
  · have hne : ¬j = k := fun h => hjk h.symm
    simp [hjk, hne]

omit [PolicyInterface π] in
theorem Sound.start (h : s.Sound) : s.start.Sound := by
  unfold EngineLoop.start
  by_cases hrunning : s.running = true
  · rwa [if_pos hrunning]
  · rw [if_neg hrunning]
    have hdead : ∀ k, s.liveAt k = false := by
      intro k
      by_contra hlive
      exact hrunning ((h.live k).mp (by simpa using hlive)).1
    refine ⟨fun _ => ⟨_, rfl⟩, ?_⟩
    intro k
    have hk := hdead k
    unfold liveAt at hk ⊢
    dsimp only
    rcases Nat.lt_trichotomy k s.tasks.length with hlt | heq | hgt
    · rw [List.getElem?_append_left hlt, hk]
      simp
      omega
    · subst heq
      simp [LoopTask.live]
    · rw [List.getElem?_eq_none (by simp; omega)]
      simp
      omega

omit [PolicyInterface π] in
theorem Sound.stop (h : s.Sound) : s.stop.Sound := by
  refine ⟨fun hrunning => Bool.noConfusion hrunning, ?_⟩
  intro k
  have hdead : s.stop.liveAt k = false := by
    have hlive := h.live k
    unfold liveAt EngineLoop.stop at *
    dsimp only
    cases htask : s.task with
    | none =>
        rw [htask] at hlive
        simpa using hlive
    | some j =>
        dsimp only
        rw [List.getElem?_modify]
        rw [htask] at hlive
        by_cases hjk : j = k
        · cases s.tasks[k]? <;> simp [hjk]
        · have hold : s.tasks[k]?.any LoopTask.live = false := by
            simpa [hjk] using hlive
          simpa [hjk] using hold
  rw [hdead]
  simp [EngineLoop.stop]

/-- What a wake-up does, and to which tasks. -/
theorem wake_cases (s : EngineLoop π) (k : Nat) :
    (s.liveAt k = false ∧ s.wake k = s) ∨
      (s.liveAt k = false ∧ s.wake k = { s with tasks := s.tasks.set k .done }) ∨
      (s.liveAt k = true ∧ s.running = true ∧
        s.wake k = { s with engine := s.engine.cycle, tasks := s.tasks.set k .sleeping }) ∨
      (s.liveAt k = true ∧ s.running = false ∧
        s.wake k = { s with tasks := s.tasks.set k .done }) := by
  unfold liveAt wake
  cases htask : s.tasks[k]? with
  | none => exact .inl ⟨rfl, rfl⟩
  | some t =>
      cases t with
      | done => exact .inl ⟨rfl, rfl⟩
      | cancelling => exact .inr (.inl ⟨rfl, rfl⟩)
      | created | sleeping =>
          cases hrunning : s.running with
          | true => exact .inr (.inr (.inl ⟨rfl, rfl, rfl⟩))
          | false => exact .inr (.inr (.inr ⟨rfl, rfl, rfl⟩))

theorem Sound.wake (h : s.Sound) (k : Nat) : (s.wake k).Sound := by
  rcases s.wake_cases k with ⟨_, hwake⟩ | ⟨hdead, hwake⟩ | ⟨hlive, hrunning, hwake⟩ |
      ⟨hlive, hrunning, hwake⟩
  · rwa [hwake]
  · rw [hwake]
    refine ⟨h.task, ?_⟩
    intro j
    rw [liveAt_set, ← h.live j]
    by_cases hjk : j = k ∧ k < s.tasks.length
    · rw [if_pos hjk, hjk.1, hdead]
      rfl
    · rw [if_neg hjk]
  · rw [hwake]
    refine ⟨h.task, ?_⟩
    intro j
    have hset := liveAt_set (s := { s with engine := s.engine.cycle }) k .sleeping j
    have hsame : ({ s with engine := s.engine.cycle } : EngineLoop π).liveAt j = s.liveAt j := rfl
    rw [hset, hsame, ← h.live j]
    by_cases hjk : j = k ∧ k < s.tasks.length
    · rw [if_pos hjk, hjk.1, hlive]
      rfl
    · rw [if_neg hjk]
  · have himpossible := ((h.live k).mp hlive).1
    rw [hrunning] at himpossible
    exact Bool.noConfusion himpossible

theorem Sound.step (h : s.Sound) (op : LoopOp π) : (s.step op).Sound := by
  cases op with
  | start => exact h.start
  | stop => exact h.stop
  | wake k => exact h.wake k
  | other op => exact ⟨h.task, h.live⟩

/-- On the engine a step is what it is meant to be. -/
theorem Sound.engine_step (h : s.Sound) (op : LoopOp π) :
    (s.step op).engine = run PolicyEngine.perform s.engine (s.engineOps op) := by
  cases op with
  | start =>
      show s.start.engine = s.engine
      unfold EngineLoop.start
      split <;> rfl
  | stop => rfl
  | wake k =>
      show (s.wake k).engine = _
      dsimp only [engineOps]
      rcases s.wake_cases k with ⟨hdead, hwake⟩ | ⟨hdead, hwake⟩ | ⟨hlive, _, hwake⟩ |
          ⟨hlive, hrunning, hwake⟩
      · have hmeant : ¬(s.running = true ∧ s.task = some k) := by simp [← h.live k, hdead]
        rw [hwake, if_neg hmeant]
        rfl
      · have hmeant : ¬(s.running = true ∧ s.task = some k) := by simp [← h.live k, hdead]
        rw [hwake, if_neg hmeant]
        rfl
      · rw [hwake, if_pos ((h.live k).mp hlive)]
        rfl
      · have himpossible := ((h.live k).mp hlive).1
        rw [hrunning] at himpossible
        exact Bool.noConfusion himpossible
  | other op => rfl

theorem Sound.engine_run : ∀ (ops : List (LoopOp π)) (s : EngineLoop π), s.Sound →
    (Verified.run EngineLoop.step s ops).engine =
      Verified.run PolicyEngine.perform s.engine (s.runOps ops) := by
  intro ops
  induction ops with
  | nil =>
      intro s _
      rfl
  | cons op ops ih =>
      intro s h
      show (Verified.run EngineLoop.step (s.step op) ops).engine = _
      rw [ih (s.step op) (h.step op), h.engine_step op, runOps]
      unfold Verified.run
      rw [List.foldl_append]

theorem Sound.run (h : s.Sound) (ops : List (LoopOp π)) :
    (Verified.run EngineLoop.step s ops).Sound :=
  run_invariant (fun _ op hs => hs.step op) ops s h

omit [PolicyInterface π] in
/-- An engine that has not been started. -/
theorem sound_new (e : PolicyEngine π) (intervalMs : ℚ) :
    ({ engine := e, intervalMs := intervalMs } : EngineLoop π).Sound := by
  refine ⟨fun hrunning => Bool.noConfusion hrunning, ?_⟩
  intro k
  simp [liveAt]

end Steps

/-! ## Stopping -/

/-- What the others do in a run. -/
def othersOps (ops : List (LoopOp π)) : List (EngineOp π) :=
  ops.filterMap fun op =>
    match op with
    | .other op => some op
    | _ => none

section Stopped

variable {s : EngineLoop π}

/-- Without a call of `start`, an engine that is not running stays so, and its
tasks do nothing to it. -/
theorem stopped_run : ∀ (ops : List (LoopOp π)) (s : EngineLoop π), s.running = false →
    LoopOp.start ∉ ops →
      (Verified.run EngineLoop.step s ops).running = false ∧ s.runOps ops = othersOps ops := by
  intro ops
  induction ops with
  | nil =>
      intro s hrunning _
      exact ⟨hrunning, rfl⟩
  | cons op ops ih =>
      intro s hrunning hstart
      obtain ⟨hop, hrest⟩ : LoopOp.start ≠ op ∧ LoopOp.start ∉ ops := by simpa using hstart
      have hnext : (s.step op).running = false := by
        cases op with
        | start => exact absurd rfl hop
        | stop => rfl
        | wake k =>
            show (s.wake k).running = false
            rcases s.wake_cases k with ⟨_, h⟩ | ⟨_, h⟩ | ⟨_, _, h⟩ | ⟨_, _, h⟩ <;>
              rw [h] <;> exact hrunning
        | other op => exact hrunning
      obtain ⟨hend, hops⟩ := ih (s.step op) hnext hrest
      refine ⟨hend, ?_⟩
      rw [runOps, hops]
      cases op with
      | start => exact absurd rfl hop
      | stop => rfl
      | wake k => simp [engineOps, hrunning, othersOps]
      | other op => rfl

/-- A task that is done stays done, and so does one whose cancellation has been
delivered. -/
theorem done_step (s : EngineLoop π) (op : LoopOp π) {k : Nat}
    (hdone : s.tasks[k]? = some .done) : (s.step op).tasks[k]? = some .done := by
  have hlt : k < s.tasks.length := (List.getElem?_eq_some_iff.mp hdone).1
  cases op with
  | start =>
      show s.start.tasks[k]? = _
      unfold EngineLoop.start
      split
      · exact hdone
      · dsimp only
        rw [List.getElem?_append_left hlt, hdone]
  | stop =>
      show s.stop.tasks[k]? = _
      unfold EngineLoop.stop
      dsimp only
      cases s.task with
      | none => exact hdone
      | some j =>
          dsimp only
          rw [List.getElem?_modify, hdone]
          by_cases hjk : j = k <;> simp [hjk, LoopTask.cancel]
  | wake j =>
      show (s.wake j).tasks[k]? = _
      by_cases hjk : j = k
      · subst hjk
        unfold EngineLoop.wake
        rw [hdone]
        exact hdone
      · rcases s.wake_cases j with ⟨_, h⟩ | ⟨_, h⟩ | ⟨_, _, h⟩ | ⟨_, _, h⟩ <;> rw [h]
        · exact hdone
        · simpa [List.getElem?_set, hjk] using hdone
        · simpa [List.getElem?_set, hjk] using hdone
        · simpa [List.getElem?_set, hjk] using hdone
  | other op => exact hdone

/-- One wake-up ends any task of an engine that is not running. -/
theorem done_wake (hrunning : s.running = false) {k : Nat} (hk : k < s.tasks.length) :
    (s.wake k).tasks[k]? = some .done := by
  have htask : s.tasks[k]? = some s.tasks[k] := List.getElem?_eq_getElem hk
  unfold EngineLoop.wake
  rw [htask]
  cases hstate : s.tasks[k] with
  | done =>
      rw [hstate] at htask
      exact htask
  | cancelling => simp [hk]
  | created | sleeping => simp [hrunning, hk]

theorem length_tasks_step_of_ne_start (s : EngineLoop π) {op : LoopOp π} (hop : op ≠ .start) :
    (s.step op).tasks.length = s.tasks.length := by
  cases op with
  | start => exact absurd rfl hop
  | stop =>
      show s.stop.tasks.length = _
      unfold EngineLoop.stop
      cases s.task <;> simp
  | wake k =>
      show (s.wake k).tasks.length = _
      rcases s.wake_cases k with ⟨_, h⟩ | ⟨_, h⟩ | ⟨_, _, h⟩ | ⟨_, _, h⟩ <;> simp [h]
  | other op => rfl

/-- Every task of an engine that is not running is done as soon as it has been
woken up. -/
theorem done_run_of_wake : ∀ (ops : List (LoopOp π)) (s : EngineLoop π), s.running = false →
    LoopOp.start ∉ ops → ∀ k, k < s.tasks.length → LoopOp.wake k ∈ ops →
      (Verified.run EngineLoop.step s ops).tasks[k]? = some .done := by
  intro ops
  induction ops with
  | nil =>
      intro s _ _ k _ hmem
      exact absurd hmem List.not_mem_nil
  | cons op ops ih =>
      intro s hrunning hstart k hk hmem
      obtain ⟨hop, hrest⟩ : LoopOp.start ≠ op ∧ LoopOp.start ∉ ops := by simpa using hstart
      have hone : LoopOp.start ∉ [op] := by simpa using hop
      have hnext : (s.step op).running = false := (stopped_run [op] s hrunning hone).1
      have hlen := s.length_tasks_step_of_ne_start (Ne.symm hop)
      rcases List.mem_cons.mp hmem with hwake | hlater
      · subst hwake
        have hdone := done_wake hrunning hk
        have hkeep : ∀ (s : EngineLoop π) op, s.tasks[k]? = some .done →
            (s.step op).tasks[k]? = some .done := fun s op => s.done_step op
        exact run_invariant hkeep ops (s.step (.wake k)) hdone
      · exact ih (s.step op) hnext hrest k (by omega) hlater

end Stopped

/-- **One cycle at a time.**

Take any interleaving of calls of `start` and `stop`, wake-ups of the tasks they
leave behind, and other steps on the tracker and the policy.  What
`get_current_stats` reports as running is what there is: the task of the engine
would go on with its loop, and no other task would.  And the engine is where the
same steps take it one after the other, with one cycle for each wake-up of its
task while it is running, and none for any other. -/
theorem loop_runs_one_cycle_at_a_time (e : PolicyEngine π) (intervalMs : ℚ)
    (ops : List (LoopOp π)) :
    let s₀ : EngineLoop π := { engine := e, intervalMs := intervalMs }
    let s := Verified.run EngineLoop.step s₀ ops
    (s.getCurrentStats.running = true → ∃ k, s.task = some k) ∧
    (∀ k, s.liveAt k = true ↔ s.getCurrentStats.running = true ∧ s.task = some k) ∧
    s.engine = Verified.run PolicyEngine.perform e (s₀.runOps ops) := by
  intro s₀ s
  have hnew : s₀.Sound := sound_new e intervalMs
  have hsound : s.Sound := hnew.run ops
  exact ⟨hsound.task, hsound.live, Sound.engine_run ops s₀ hnew⟩

/-- **A stopped engine is quiet.**

After `stop`, in whatever state of whatever run, no task of the engine runs a
cycle until `start` is called again: the engine changes by what the others do
and nothing else.  The task `stop` waits for, and any other one left over, is
done after one wake-up. -/
theorem stopped_loop_is_quiet (e : PolicyEngine π) (intervalMs : ℚ)
    (before after : List (LoopOp π)) (hstart : LoopOp.start ∉ after) :
    let s₀ : EngineLoop π := { engine := e, intervalMs := intervalMs }
    let s := Verified.run EngineLoop.step s₀ before
    let s' := Verified.run EngineLoop.step s (.stop :: after)
    s'.getCurrentStats.running = false ∧
    s'.engine = Verified.run PolicyEngine.perform s.engine (othersOps after) ∧
    ∀ k, k < s.tasks.length → LoopOp.wake k ∈ after → s'.tasks[k]? = some .done := by
  intro s₀ s s'
  have hsound : s.Sound := (sound_new e intervalMs).run before
  have hstopped : (s.step .stop).running = false := rfl
  obtain ⟨hend, hops⟩ := stopped_run after (s.step .stop) hstopped hstart
  have hne : (LoopOp.stop : LoopOp π) ≠ .start := by
    intro h
    cases h
  have hlen := s.length_tasks_step_of_ne_start hne
  refine ⟨hend, ?_, ?_⟩
  · rw [← hops]
    exact Sound.engine_run after (s.step .stop) (hsound.step .stop)
  · intro k hk hwake
    exact done_run_of_wake after (s.step .stop) hstopped hstart k (by omega) hwake

end EngineLoop

/-- A loop that is stopped after its first cycle, and started and stopped again
before the first task has noticed. -/
theorem stopped_loop_is_quiet_restarted :
    let s₀ : EngineLoop FullCachePolicy :=
      { engine := PolicyEngine.init ⟨{ config := {} }⟩ 1 1 16 64 }
    let s' := run EngineLoop.step s₀
      [.start, .wake 0, .stop, .start, .wake 1, .stop, .wake 0, .wake 1]
    s'.getCurrentStats.running = false ∧ s'.tasks = [.done, .done] := by
  intro s₀ s'
  obtain ⟨hrunning, -, hdone⟩ := EngineLoop.stopped_loop_is_quiet s₀.engine 50
    [.start, .wake 0, .stop, .start, .wake 1] [.wake 0, .wake 1] (by simp)
  have hfirst : s'.tasks[0]? = some .done := hdone 0 (by decide) (by simp)
  have hsecond : s'.tasks[1]? = some .done := hdone 1 (by decide) (by simp)
  have hlen : s'.tasks.length = 2 := by decide
  refine ⟨hrunning, ?_⟩
  obtain ⟨a, b, htasks⟩ := List.length_eq_two.mp hlen
  rw [htasks] at hfirst hsecond
  have ha : a = .done := by simpa using hfirst
  have hb : b = .done := by simpa using hsecond
  rw [htasks, ha, hb]

end KVOrchestrator.Ports
