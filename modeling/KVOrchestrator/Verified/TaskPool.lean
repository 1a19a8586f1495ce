import KVOrchestrator.Verified.Dynamics
import Mathlib.Algebra.GroupWithZero.Nat
import Mathlib.Data.List.Basic

/-!
# Tasks under a semaphore

A fixed list of tasks runs under a semaphore.  A waiting task may enter while a
permit is free, a running one may leave with an outcome, in any order.  The
outcomes are logged in the order in which the tasks leave.

`Sound` holds in every state that can be reached: no permit is lost or made up,
and the log holds the outcome of each finished task exactly once.  Hence what is
collected by index does not depend on the order (`Sound.slots_eq`), and what is
appended does so only up to a permutation (`Sound.log_perm`).  Each step that
does something lowers `remaining`, and while there is a permit at all some step
does (`Sound.exists_step`), so a run ends after two steps a task
(`steps_add_remaining`).
-/

namespace KVOrchestrator.Verified

/-- Where a task is. -/
inductive TaskPhase (ρ : Type*) where
  | waiting
  | running
  | finished (outcome : ρ)
  deriving DecidableEq, Repr

namespace TaskPhase

variable {ρ : Type*}

def isRunning : TaskPhase ρ → Bool
  | .waiting => false
  | .running => true
  | .finished _ => false

def isFinished : TaskPhase ρ → Bool
  | .waiting => false
  | .running => false
  | .finished _ => true

def outcome? : TaskPhase ρ → Option ρ
  | .waiting => none
  | .running => none
  | .finished o => some o

/-- Steps the task has yet to take. -/
def stepsLeft : TaskPhase ρ → Nat
  | .waiting => 2
  | .running => 1
  | .finished _ => 0

end TaskPhase

/-- The semaphore, the tasks, and the outcomes in the order of leaving. -/
structure TaskPool (ρ : Type*) where
  free : Nat
  phases : List (TaskPhase ρ)
  log : List (Nat × ρ) := []
  deriving DecidableEq, Repr

inductive PoolStep (ρ : Type*) where
  | enter (i : Nat)
  | leave (i : Nat) (outcome : ρ)
  deriving DecidableEq, Repr

namespace TaskPool

variable {ρ : Type*}

/-- All tasks wait. -/
def start (permits n : Nat) : TaskPool ρ where
  free := permits
  phases := List.replicate n .waiting

/-- Take a step.  One the task cannot take now does nothing. -/
def step (s : TaskPool ρ) : PoolStep ρ → TaskPool ρ
  | .enter i =>
      match s.phases[i]? with
      | some .waiting =>
          if s.free = 0 then s
          else { s with free := s.free - 1, phases := s.phases.set i .running }
      | _ => s
  | .leave i o =>
      match s.phases[i]? with
      | some .running =>
          { free := s.free + 1
            phases := s.phases.set i (.finished o)
            log := s.log ++ [(i, o)] }
      | _ => s

/-- Number of tasks that hold a permit. -/
def inFlight (s : TaskPool ρ) : Nat := s.phases.countP TaskPhase.isRunning

/-- All tasks have left. -/
def Complete (s : TaskPool ρ) : Prop := ∀ p ∈ s.phases, p.isFinished = true

instance (s : TaskPool ρ) : Decidable s.Complete :=
  inferInstanceAs (Decidable (∀ p ∈ s.phases, p.isFinished = true))

/-- Steps the tasks have yet to take. -/
def remaining (s : TaskPool ρ) : Nat := (s.phases.map TaskPhase.stepsLeft).sum

/-- The outcomes of the finished tasks, each with its index counted from
`k`. -/
def outcomesFrom : Nat → List (TaskPhase ρ) → List (Nat × ρ)
  | _, [] => []
  | k, p :: ps => (p.outcome?.map (fun o => (k, o))).toList ++ outcomesFrom (k + 1) ps

/-- A list with one slot a task, into which finished tasks have written. -/
def slots {β : Type*} (empty : β) (write : ρ → β) (s : TaskPool ρ) : List β :=
  s.phases.map (fun p => (p.outcome?.map write).getD empty)

/-! ## One task among the others -/

theorem outcomesFrom_append (ps qs : List (TaskPhase ρ)) (k : Nat) :
    outcomesFrom k (ps ++ qs) = outcomesFrom k ps ++ outcomesFrom (k + ps.length) qs := by
  induction ps generalizing k with
  | nil => rfl
  | cons p ps ih =>
      rw [List.cons_append, outcomesFrom, outcomesFrom, ih, List.append_assoc, List.length_cons]
      congr 3
      omega

/-- The task at an index, and those before and after it. -/
theorem split_phases {ps : List (TaskPhase ρ)} {i : Nat} {p : TaskPhase ρ}
    (hp : ps[i]? = some p) :
    ∃ before after, ps = before ++ p :: after ∧ before.length = i ∧
      ∀ q, ps.set i q = before ++ q :: after := by
  obtain ⟨hi, hget⟩ := List.getElem?_eq_some_iff.mp hp
  refine ⟨ps.take i, ps.drop (i + 1), ?_, ?_, ?_⟩
  · rw [← hget, List.getElem_cons_drop, List.take_append_drop]
  · rw [List.length_take]
    omega
  · intro q
    rw [List.set_eq_take_append_cons_drop, if_pos hi]

/-- The effect of a step, case by case. -/
inductive StepEffect (s : TaskPool ρ) : PoolStep ρ → Prop where
  | idle (op : PoolStep ρ) (hstep : s.step op = s) : StepEffect s op
  | enter (i : Nat) (before after : List (TaskPhase ρ))
      (hphases : s.phases = before ++ .waiting :: after) (hlen : before.length = i)
      (hfree : 0 < s.free)
      (hstep : s.step (.enter i) =
        { s with free := s.free - 1, phases := before ++ .running :: after }) :
      StepEffect s (.enter i)
  | leave (i : Nat) (o : ρ) (before after : List (TaskPhase ρ))
      (hphases : s.phases = before ++ .running :: after) (hlen : before.length = i)
      (hstep : s.step (.leave i o) =
        { free := s.free + 1
          phases := before ++ .finished o :: after
          log := s.log ++ [(i, o)] }) :
      StepEffect s (.leave i o)

theorem stepEffect (s : TaskPool ρ) (op : PoolStep ρ) : StepEffect s op := by
  cases op with
  | enter i =>
      cases hp : s.phases[i]? with
      | none => exact .idle _ (by simp only [step, hp])
      | some p =>
          cases p with
          | running | finished => exact .idle _ (by simp only [step, hp])
          | waiting =>
              by_cases hfree : s.free = 0
              · exact .idle _ (by simp only [step, hp, if_pos hfree])
              · obtain ⟨before, after, hphases, hlen, hset⟩ := split_phases hp
                refine .enter i before after hphases hlen (by omega) ?_
                simp only [step, hp, if_neg hfree, hset]
  | leave i o =>
      cases hp : s.phases[i]? with
      | none => exact .idle _ (by simp only [step, hp])
      | some p =>
          cases p with
          | waiting | finished => exact .idle _ (by simp only [step, hp])
          | running =>
              obtain ⟨before, after, hphases, hlen, hset⟩ := split_phases hp
              refine .leave i o before after hphases hlen ?_
              simp only [step, hp, hset]

/-! ## Reachable states -/

/-- No permit is lost, and each finished task is logged once. -/
structure Sound (permits n : Nat) (s : TaskPool ρ) : Prop where
  length : s.phases.length = n
  permits : s.free + s.inFlight = permits
  logged : s.log.Perm (outcomesFrom 0 s.phases)

section Sound

variable {permits n : Nat} {s : TaskPool ρ}

theorem outcomesFrom_replicate_waiting (n k : Nat) :
    outcomesFrom k (List.replicate n (TaskPhase.waiting (ρ := ρ))) = [] := by
  induction n generalizing k with
  | zero => rfl
  | succ n ih => exact ih (k + 1)

theorem sound_start (permits n : Nat) : (start permits n : TaskPool ρ).Sound permits n where
  length := List.length_replicate
  permits := by
    simp [start, inFlight, List.countP_replicate, TaskPhase.isRunning]
  logged := by
    rw [start, outcomesFrom_replicate_waiting]

theorem Sound.step (h : s.Sound permits n) (op : PoolStep ρ) : (s.step op).Sound permits n := by
  obtain ⟨hlength, hpermits, hlogged⟩ := h
  rw [inFlight] at hpermits
  cases s.stepEffect op with
  | idle _ hstep =>
      rw [hstep]
      exact ⟨hlength, hpermits, hlogged⟩
  | enter i before after hphases hlen hfree hstep =>
      rw [hstep]
      rw [hphases] at hlength hpermits hlogged
      refine ⟨?_, ?_, ?_⟩
      · simpa using hlength
      · simp only [inFlight, List.countP_append, List.countP_cons, TaskPhase.isRunning,
          if_true] at hpermits ⊢
        simp only [Bool.false_eq_true, if_false] at hpermits
        omega
      · rw [outcomesFrom_append] at hlogged ⊢
        exact hlogged
  | leave i o before after hphases hlen hstep =>
      rw [hstep]
      rw [hphases] at hlength hpermits hlogged
      refine ⟨?_, ?_, ?_⟩
      · simpa using hlength
      · simp only [inFlight, List.countP_append, List.countP_cons, TaskPhase.isRunning,
          if_true] at hpermits ⊢
        simp only [Bool.false_eq_true, if_false]
        omega
      · rw [outcomesFrom_append, Nat.zero_add, hlen] at hlogged ⊢
        show (s.log ++ [(i, o)]).Perm
          (outcomesFrom 0 before ++ (i, o) :: outcomesFrom (i + 1) after)
        exact (List.perm_append_singleton _ _).trans
          ((hlogged.cons _).trans List.perm_middle.symm)

theorem Sound.run (h : s.Sound permits n) (ops : List (PoolStep ρ)) :
    (run TaskPool.step s ops).Sound permits n := by
  have hstep : ∀ (s : TaskPool ρ) op, s.Sound permits n → (TaskPool.step s op).Sound permits n :=
    fun _ op hs => hs.step op
  exact run_invariant hstep ops s h

/-- There are never more tasks in flight than permits. -/
theorem Sound.inFlight_le (h : s.Sound permits n) : s.inFlight ≤ permits := by
  have := h.permits
  omega

end Sound

/-! ## What is collected -/

section Collect

variable {permits n : Nat} {s s' : TaskPool ρ}

theorem outcomesFrom_map_finished (os : List ρ) (k : Nat) :
    outcomesFrom k (os.map TaskPhase.finished) = (os.zipIdx k).map (fun e => (e.2, e.1)) := by
  induction os generalizing k with
  | nil => rfl
  | cons o os ih =>
      rw [List.zipIdx_cons, List.map_cons, List.map_cons, ← ih]
      rfl

theorem exists_outcomes (h : s.Complete) : ∃ os : List ρ, s.phases = os.map .finished := by
  rw [Complete] at h
  generalize s.phases = ps at h
  induction ps with
  | nil => exact ⟨[], rfl⟩
  | cons p ps ih =>
      obtain ⟨os, hos⟩ := ih (fun q hq => h q (List.mem_cons_of_mem p hq))
      cases p with
      | finished o => exact ⟨o :: os, by rw [List.map_cons, hos]⟩
      | waiting | running => cases h _ List.mem_cons_self

/-- Tasks that have all left are logged once each, in some order. -/
theorem Sound.log_perm (h : s.Sound permits n) {os : List ρ}
    (hos : s.phases = os.map .finished) : (s.log.map Prod.snd).Perm os := by
  have hlog := h.logged.map Prod.snd
  rw [hos, outcomesFrom_map_finished, List.map_map] at hlog
  have hsnd : (os.zipIdx 0).map (Prod.snd ∘ fun e : ρ × Nat => (e.2, e.1)) = os := by
    simp [Function.comp_def]
  rwa [hsnd] at hlog

/-- A finished task fills its slot. -/
theorem slots_eq {β : Type*} (empty : β) (write : ρ → β) {os : List ρ}
    (hos : s.phases = os.map .finished) : s.slots empty write = os.map write := by
  rw [slots, hos, List.map_map]
  rfl

theorem step_leave_of_running {i : Nat} (hp : s.phases[i]? = some .running) (o : ρ) :
    s.step (.leave i o) =
      { free := s.free + 1
        phases := s.phases.set i (.finished o)
        log := s.log ++ [(i, o)] } := by
  simp only [step, hp]

theorem step_leave_of_not_running {i : Nat} (hp : s.phases[i]? ≠ some .running) (o : ρ) :
    s.step (.leave i o) = s := by
  simp only [step]

/-- Who enters is neither logged nor written down. -/
theorem log_enter (s : TaskPool ρ) (i : Nat) : (s.step (.enter i)).log = s.log := by
  cases s.stepEffect (.enter i) with
  | idle _ hstep => rw [hstep]
  | enter _ before after hphases hlen hfree hstep => rw [hstep]

theorem slots_enter {β : Type*} (empty : β) (write : ρ → β) (s : TaskPool ρ) (i : Nat) :
    (s.step (.enter i)).slots empty write = s.slots empty write := by
  cases s.stepEffect (.enter i) with
  | idle _ hstep => rw [hstep]
  | enter _ before after hphases hlen hfree hstep =>
      rw [hstep, slots, slots, hphases, List.map_append, List.map_append]
      rfl

/-- A task that leaves writes its slot. -/
theorem slots_leave {β : Type*} (empty : β) (write : ρ → β) {i : Nat}
    (hp : s.phases[i]? = some .running) (o : ρ) :
    (s.step (.leave i o)).slots empty write = (s.slots empty write).set i (write o) := by
  rw [step_leave_of_running hp, slots, slots, List.map_set]
  rfl

/-- What is logged was logged before, or has left in the run. -/
theorem mem_log_run {e : Nat × ρ} (ops : List (PoolStep ρ)) (s : TaskPool ρ)
    (he : e ∈ (run TaskPool.step s ops).log) : e ∈ s.log ∨ PoolStep.leave e.1 e.2 ∈ ops := by
  induction ops generalizing s with
  | nil => exact .inl he
  | cons op ops ih =>
      rcases ih (s.step op) he with hlog | hlater
      · cases s.stepEffect op with
        | idle _ hstep =>
            rw [hstep] at hlog
            exact .inl hlog
        | enter i before after hphases hlen hfree hstep =>
            rw [hstep] at hlog
            exact .inl hlog
        | leave i o before after hphases hlen hstep =>
            rw [hstep] at hlog
            rcases List.mem_append.mp hlog with hold | hnew
            · exact .inl hold
            · rw [List.mem_singleton.mp hnew]
              exact .inr List.mem_cons_self
      · exact .inr (List.mem_cons_of_mem op hlater)

/-- The outcome of a finished task is logged under its index. -/
theorem Sound.mem_log (h : s.Sound permits n) {os : List ρ}
    (hos : s.phases = os.map .finished) {i : Nat} {o : ρ} (ho : os[i]? = some o) :
    (i, o) ∈ s.log := by
  rw [h.logged.mem_iff, hos, outcomesFrom_map_finished]
  refine List.mem_map.mpr ⟨(o, i), ?_, rfl⟩
  exact List.mem_zipIdx_iff_getElem?.mpr ho

end Collect

/-! ## Progress -/

section Progress

variable {permits n : Nat} {s : TaskPool ρ}

theorem remaining_start (permits n : Nat) : (start permits n : TaskPool ρ).remaining = 2 * n := by
  simp [start, remaining, TaskPhase.stepsLeft, Nat.mul_comm]

theorem sum_stepsLeft_le (ps : List (TaskPhase ρ)) :
    (ps.map TaskPhase.stepsLeft).sum ≤ 2 * ps.length := by
  induction ps with
  | nil => exact Nat.le_refl 0
  | cons p ps ih =>
      rw [List.map_cons, List.sum_cons, List.length_cons]
      have hp : p.stepsLeft ≤ 2 := by
        cases p <;> simp [TaskPhase.stepsLeft]
      omega

/-- No task has more than two steps to take. -/
theorem Sound.remaining_le (h : s.Sound permits n) : s.remaining ≤ 2 * n := by
  rw [remaining, ← h.length]
  exact sum_stepsLeft_le s.phases

theorem remaining_eq_zero_iff : s.remaining = 0 ↔ s.Complete := by
  rw [remaining, List.sum_eq_zero_iff_forall_eq_nat, Complete]
  constructor
  · intro h p hp
    have hzero := h _ (List.mem_map_of_mem hp)
    cases p with
    | finished => rfl
    | waiting | running => cases hzero
  · intro h k hk
    obtain ⟨p, hp, rfl⟩ := List.mem_map.mp hk
    cases p with
    | finished => rfl
    | waiting | running => cases h _ hp

/-- A step that does something is one less to take. -/
theorem remaining_step {op : PoolStep ρ} (hmoves : s.step op ≠ s) :
    (s.step op).remaining + 1 = s.remaining := by
  cases s.stepEffect op with
  | idle _ hstep => exact absurd hstep hmoves
  | enter i before after hphases hlen hfree hstep =>
      rw [hstep]
      simp only [remaining, hphases, List.map_append, List.map_cons, List.sum_append,
        List.sum_cons, TaskPhase.stepsLeft]
      omega
  | leave i o before after hphases hlen hstep =>
      rw [hstep]
      simp only [remaining, hphases, List.map_append, List.map_cons, List.sum_append,
        List.sum_cons, TaskPhase.stepsLeft]
      omega

/-- Along steps that all do something, each is one less to take. -/
theorem steps_add_remaining (ops : List (PoolStep ρ)) (s : TaskPool ρ)
    (hmoves : StepsMeet TaskPool.step (fun s op => s.step op ≠ s) s ops) :
    ops.length + (run TaskPool.step s ops).remaining = s.remaining := by
  induction ops generalizing s with
  | nil => exact Nat.zero_add _
  | cons op ops ih =>
      have hrest := ih (s.step op) hmoves.2
      have hfirst := remaining_step hmoves.1
      show ops.length + 1 + (run TaskPool.step (s.step op) ops).remaining = s.remaining
      omega

/-- While there is a permit at all, some task that has not left can move. -/
theorem Sound.exists_step (h : s.Sound permits n) (hpermits : 0 < permits)
    (hopen : ¬s.Complete) (o : ρ) :
    ∃ i, s.step (.enter i) ≠ s ∨ s.step (.leave i o) ≠ s := by
  by_cases hrunning : s.inFlight = 0
  · -- no task holds a permit, so a waiting one can take it
    have hex : ∃ p ∈ s.phases, p.isFinished = false := by
      simpa [Complete] using hopen
    obtain ⟨p, hp, hunfinished⟩ := hex
    have hidle := List.countP_eq_zero.mp hrunning p hp
    obtain ⟨i, hi⟩ := List.mem_iff_getElem?.mp hp
    have hfree : s.free ≠ 0 := by
      have := h.permits
      omega
    refine ⟨i, .inl ?_⟩
    cases p with
    | finished => cases hunfinished
    | running => exact absurd rfl hidle
    | waiting =>
        intro hsame
        have hfewer := congrArg TaskPool.free hsame
        simp only [TaskPool.step, hi, if_neg hfree] at hfewer
        omega
  · obtain ⟨p, hp, hisRunning⟩ := List.countP_pos_iff.mp (Nat.pos_of_ne_zero hrunning)
    obtain ⟨i, hi⟩ := List.mem_iff_getElem?.mp hp
    refine ⟨i, .inr ?_⟩
    cases p with
    | finished | waiting => cases hisRunning
    | running =>
        intro hsame
        have hmore := congrArg TaskPool.free hsame
        simp only [TaskPool.step, hi] at hmore
        omega

/-- While there is a permit at all, the tasks that have not left can do so. -/
theorem exists_completion (hpermits : 0 < permits) (o : ρ) :
    ∀ (k : Nat) (s : TaskPool ρ), s.Sound permits n → s.remaining = k →
      ∃ ops, ops.length = k ∧ (run TaskPool.step s ops).Complete := by
  intro k
  induction k with
  | zero =>
      intro s _ hk
      exact ⟨[], rfl, remaining_eq_zero_iff.mp hk⟩
  | succ k ih =>
      intro s h hk
      have hopen : ¬s.Complete := by
        rw [← remaining_eq_zero_iff]
        omega
      have hstep : ∃ op, s.step op ≠ s := by
        obtain ⟨i, henter | hleave⟩ := h.exists_step hpermits hopen o
        · exact ⟨_, henter⟩
        · exact ⟨_, hleave⟩
      obtain ⟨op, hmoves⟩ := hstep
      have hfewer := remaining_step hmoves
      obtain ⟨ops, hlen, hcomplete⟩ := ih (s.step op) (h.step op) (by omega)
      exact ⟨op :: ops, by rw [List.length_cons, hlen], hcomplete⟩

/-- Without a permit no task ever enters. -/
theorem run_start_zero (n : Nat) (ops : List (PoolStep ρ)) :
    run TaskPool.step (start 0 n : TaskPool ρ) ops = start 0 n := by
  refine @run_invariant _ _ TaskPool.step (fun s => s = start 0 n) ?_ ops _ rfl
  intro s op hs
  subst hs
  cases op with
  | enter i =>
      simp only [step, start]
      split <;> rfl
  | leave i o =>
      have hnone : (start 0 n : TaskPool ρ).phases[i]? ≠ some .running := by
        simp [start, List.getElem?_replicate]
      cases (start 0 n).stepEffect (.leave i o) with
      | idle _ hstep => exact hstep
      | leave _ _ before after hphases hlen hstep =>
          rw [hphases, ← hlen, List.getElem?_append_right (Nat.le_refl _), Nat.sub_self] at hnone
          exact absurd rfl hnone

end Progress

end TaskPool

end KVOrchestrator.Verified
