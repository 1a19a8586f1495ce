import Mathlib.Logic.Function.Iterate
import Mathlib.Order.Basic

/-!
# Runs of a deterministic step

The ways a development over runs is used here: a property that every operation
keeps holds along a whole run (`run_invariant`), and so does a relation of two
systems (`run_simulation`); what a step does at one place of the state it does
there whatever stands elsewhere (`LocalStep.run`); a property that the operations
keep under a condition holds throughout the runs whose steps meet it
(`throughout_of_stepsMeet`, and `throughout_iff_stepsMeet` where the condition is
exact); and a step that either lowers a measure or has just reached a fixed point
settles within the measure (`settles_of_measure`).  A run that settles never
revisits a state it has left (`no_recurrence_of_settles`).
-/

namespace KVOrchestrator.Verified

variable {σ ι : Type*}

/-- The state after performing `ops` in order. -/
def run (step : σ → ι → σ) (s : σ) (ops : List ι) : σ := ops.foldl step s

/-- What every step keeps, every run keeps. -/
theorem run_invariant {step : σ → ι → σ} {Inv : σ → Prop}
    (hstep : ∀ s op, Inv s → Inv (step s op)) :
    ∀ (ops : List ι) (s : σ), Inv s → Inv (run step s ops) := by
  intro ops
  induction ops with
  | nil => intro s hs; exact hs
  | cons op ops ih => intro s hs; exact ih (step s op) (hstep s op hs)

/-- What the operations of a kind keep, a run of such operations keeps. -/
theorem run_invariant_of_forall {step : σ → ι → σ} {P : ι → Prop} {Inv : σ → Prop}
    (hstep : ∀ s op, P op → Inv s → Inv (step s op)) :
    ∀ (ops : List ι) (s : σ), (∀ op ∈ ops, P op) → Inv s → Inv (run step s ops) := by
  intro ops
  induction ops with
  | nil => intro s _ hs; exact hs
  | cons op ops ih =>
      intro s hops hs
      apply ih
      · intro op' hop'
        exact hops op' (List.mem_cons_of_mem op hop')
      · exact hstep s op (hops op List.mem_cons_self) hs

/-- Steps that change nothing, as long as an invariant of the run holds, can be
left out. -/
theorem run_filter {step : σ → ι → σ} {Inv : σ → Prop} {p : ι → Bool} :
    ∀ (ops : List ι) (s : σ), (∀ op ∈ ops, ∀ s, Inv s → Inv (step s op)) →
      (∀ op ∈ ops, ∀ s, Inv s → p op = false → step s op = s) → Inv s →
      run step s ops = run step s (ops.filter p) := by
  intro ops
  induction ops with
  | nil => exact fun _ _ _ _ => rfl
  | cons op ops ih =>
      intro s hstep hskip hs
      have hrest := ih (step s op) (fun op' hop' => hstep op' (List.mem_cons_of_mem op hop'))
        (fun op' hop' => hskip op' (List.mem_cons_of_mem op hop'))
        (hstep op List.mem_cons_self s hs)
      show run step (step s op) ops = _
      rw [hrest]
      cases hp : p op with
      | true =>
          rw [List.filter_cons_of_pos hp]
          rfl
      | false =>
          rw [List.filter_cons_of_neg (by simp [hp]), hskip op List.mem_cons_self s hs hp]

/-- Two systems whose steps keep a relation stay related along a run of the one
and the corresponding run of the other. -/
theorem run_simulation {τ κ : Type*} {step : σ → ι → σ} {step' : τ → κ → τ} {P : ι → Prop}
    {R : σ → τ → Prop} (f : ι → κ)
    (hstep : ∀ s t op, P op → R s t → R (step s op) (step' t (f op))) :
    ∀ (ops : List ι) (s : σ) (t : τ), (∀ op ∈ ops, P op) → R s t →
      R (run step s ops) (run step' t (ops.map f)) := by
  intro ops
  induction ops with
  | nil => exact fun _ _ _ hst => hst
  | cons op ops ih =>
      intro s t hops hst
      apply ih (step s op) (step' t (f op))
      · intro op' hop'
        exact hops op' (List.mem_cons_of_mem op hop')
      · exact hstep s t op (hops op List.mem_cons_self) hst

/-! ## Local steps -/

section Local

variable {κ ν : Type*} {step : σ → ι → σ} {get : σ → κ → ν} {eff : ι → κ → ν → ν}

/-- What a step does at a place is decided by what is there. -/
def LocalStep (step : σ → ι → σ) (get : σ → κ → ν) (eff : ι → κ → ν → ν) : Prop :=
  ∀ s op k, get (step s op) k = eff op k (get s k)

/-- Then so is what a run does. -/
theorem LocalStep.run (h : LocalStep step get eff) (k : κ) :
    ∀ (ops : List ι) (s : σ),
      get (Verified.run step s ops) k = Verified.run (fun v op => eff op k v) (get s k) ops := by
  intro ops
  induction ops with
  | nil => exact fun _ => rfl
  | cons op ops ih =>
      intro s
      show get (Verified.run step (step s op) ops) k =
        Verified.run (fun v op => eff op k v) (eff op k (get s k)) ops
      rw [ih (step s op), h s op k]

end Local

/-! ## Conditions on the steps of a run -/

/-- Every step of the run meets `P` in the state it is taken in. -/
def StepsMeet (step : σ → ι → σ) (P : σ → ι → Prop) : σ → List ι → Prop
  | _, [] => True
  | s, op :: ops => P s op ∧ StepsMeet step P (step s op) ops

instance {step : σ → ι → σ} {P : σ → ι → Prop} [∀ s op, Decidable (P s op)] :
    ∀ (s : σ) (ops : List ι), Decidable (StepsMeet step P s ops)
  | _, [] => .isTrue trivial
  | s, op :: ops =>
      have : Decidable (StepsMeet step P (step s op) ops) :=
        instDecidableStepsMeet (step s op) ops
      inferInstanceAs (Decidable (P s op ∧ StepsMeet step P (step s op) ops))

theorem stepsMeet_append {step : σ → ι → σ} {P : σ → ι → Prop} (first second : List ι) :
    ∀ s : σ, StepsMeet step P s (first ++ second) ↔
      StepsMeet step P s first ∧ StepsMeet step P (run step s first) second := by
  induction first with
  | nil =>
      intro s
      simp [StepsMeet, run]
  | cons op first ih =>
      intro s
      show (P s op ∧ StepsMeet step P (step s op) (first ++ second)) ↔
        (P s op ∧ StepsMeet step P (step s op) first) ∧
          StepsMeet step P (run step (step s op) first) second
      rw [ih, and_assoc]

/-- Every state the run passes through, its last one included, satisfies
`Q`. -/
def Throughout (step : σ → ι → σ) (Q : σ → Prop) (s : σ) (ops : List ι) : Prop :=
  ∀ done, done <+: ops → Q (run step s done)

theorem throughout_cons (step : σ → ι → σ) (Q : σ → Prop) (s : σ) (op : ι) (ops : List ι) :
    Throughout step Q s (op :: ops) ↔ Q s ∧ Throughout step Q (step s op) ops := by
  constructor
  · intro h
    refine ⟨h [] List.nil_prefix, fun done hdone => ?_⟩
    exact h (op :: done) (List.cons_prefix_cons.mpr ⟨rfl, hdone⟩)
  · intro hboth done hdone
    obtain ⟨hs, hrest⟩ := hboth
    cases done with
    | nil => exact hs
    | cons op' done =>
        obtain ⟨rfl, htail⟩ := List.cons_prefix_cons.mp hdone
        exact hrest done htail

/-- Along a run whose steps meet `P`, they meet whatever `P` implies where the
invariant holds. -/
theorem stepsMeet_of_stepsMeet {step : σ → ι → σ} {P R : σ → ι → Prop} {Inv : σ → Prop}
    (hstep : ∀ s op, P s op → Inv s → Inv (step s op))
    (himp : ∀ s op, P s op → Inv s → R s op) :
    ∀ (ops : List ι) (s : σ), StepsMeet step P s ops → Inv s → StepsMeet step R s ops := by
  intro ops
  induction ops with
  | nil => exact fun _ _ _ => trivial
  | cons op ops ih =>
      intro s hmeet hs
      exact ⟨himp s op hmeet.1 hs, ih (step s op) hmeet.2 (hstep s op hmeet.1 hs)⟩

/-- What every step that meets `P` keeps holds throughout a run of such
steps. -/
theorem throughout_of_stepsMeet {step : σ → ι → σ} {P : σ → ι → Prop} {Inv : σ → Prop}
    (hstep : ∀ s op, P s op → Inv s → Inv (step s op)) :
    ∀ (ops : List ι) (s : σ), StepsMeet step P s ops → Inv s → Throughout step Inv s ops := by
  intro ops
  induction ops with
  | nil =>
      intro s _ hs done hdone
      rw [List.prefix_nil.mp hdone]
      exact hs
  | cons op ops ih =>
      intro s hmeet hs
      rw [throughout_cons]
      exact ⟨hs, ih (step s op) hmeet.2 (hstep s op hmeet.1 hs)⟩

/-- What every step that meets `P` keeps, a run of such steps keeps. -/
theorem run_of_stepsMeet {step : σ → ι → σ} {P : σ → ι → Prop} {Inv : σ → Prop}
    (hstep : ∀ s op, P s op → Inv s → Inv (step s op)) (ops : List ι) (s : σ)
    (hmeet : StepsMeet step P s ops) (hs : Inv s) : Inv (run step s ops) :=
  throughout_of_stepsMeet hstep ops s hmeet hs ops (List.prefix_refl ops)

/-- If no step that meets `G` repairs `Q`, then `Q` holds throughout a run of such
steps exactly if it holds in the end. -/
theorem throughout_iff_run_of_stepsMeet {step : σ → ι → σ} {G : σ → ι → Prop} {Q : σ → Prop}
    (hback : ∀ s op, G s op → Q (step s op) → Q s) :
    ∀ (ops : List ι) (s : σ), StepsMeet step G s ops →
      (Throughout step Q s ops ↔ Q (run step s ops)) := by
  intro ops
  induction ops with
  | nil =>
      intro s _
      constructor
      · intro h
        exact h [] List.nil_prefix
      · intro hs done hdone
        rw [List.prefix_nil.mp hdone]
        exact hs
  | cons op ops ih =>
      intro s hmeet
      rw [throughout_cons, ih (step s op) hmeet.2]
      constructor
      · intro hboth
        exact hboth.2
      · intro hend
        have hnext := (ih (step s op) hmeet.2).mpr hend [] List.nil_prefix
        exact ⟨hback s op hmeet.1 hnext, hend⟩

/-- Along a run whose steps meet `G`: if the first step that does not meet `P`
breaks `Q`, then `Q` holds throughout exactly if the steps meet `P`. -/
theorem throughout_iff_stepsMeet_of_stepsMeet {step : σ → ι → σ} {G P : σ → ι → Prop}
    {Inv Q : σ → Prop} (hstep : ∀ s op, G s op → P s op → Inv s → Inv (step s op))
    (hQ : ∀ s, Inv s → Q s) (hbreak : ∀ s op, G s op → Inv s → ¬P s op → ¬Q (step s op)) :
    ∀ (ops : List ι) (s : σ), StepsMeet step G s ops → Inv s →
      (Throughout step Q s ops ↔ StepsMeet step P s ops) := by
  intro ops
  induction ops with
  | nil =>
      intro s _ hs
      constructor
      · intro _
        trivial
      · intro _ done hdone
        rw [List.prefix_nil.mp hdone]
        exact hQ s hs
  | cons op ops ih =>
      intro s hmeet hs
      rw [throughout_cons]
      constructor
      · intro hboth
        obtain ⟨_, hrest⟩ := hboth
        have hnext : Q (step s op) := hrest [] List.nil_prefix
        have hop : P s op := by
          by_contra hno
          exact hbreak s op hmeet.1 hs hno hnext
        exact ⟨hop, (ih _ hmeet.2 (hstep s op hmeet.1 hop hs)).mp hrest⟩
      · intro hboth
        obtain ⟨hop, hrest⟩ := hboth
        exact ⟨hQ s hs, (ih _ hmeet.2 (hstep s op hmeet.1 hop hs)).mpr hrest⟩

/-- If the first step that does not meet `P` breaks `Q`, then `Q` holds
throughout exactly the runs whose steps meet `P`. -/
theorem throughout_iff_stepsMeet {step : σ → ι → σ} {P : σ → ι → Prop} {Inv Q : σ → Prop}
    (hstep : ∀ s op, P s op → Inv s → Inv (step s op)) (hQ : ∀ s, Inv s → Q s)
    (hbreak : ∀ s op, Inv s → ¬P s op → ¬Q (step s op)) (ops : List ι) (s : σ) (hs : Inv s) :
    Throughout step Q s ops ↔ StepsMeet step P s ops := by
  have hfree : ∀ (ops : List ι) (s : σ), StepsMeet step (fun _ _ => True) s ops := by
    intro ops
    induction ops with
    | nil => exact fun _ => trivial
    | cons op ops ih => exact fun s => ⟨trivial, ih (step s op)⟩
  exact throughout_iff_stepsMeet_of_stepsMeet (fun s op _ => hstep s op) hQ
    (fun s op _ => hbreak s op) ops s (hfree ops s) hs

/-! ## Settling -/

/-- The iteration of `f` from `s` is constant from step `k` on. -/
def SettledFrom (f : σ → σ) (s : σ) (k : Nat) : Prop :=
  ∀ j, k ≤ j → f^[j] s = f^[k] s

theorem settledFrom_of_fixed {f : σ → σ} {s : σ} {k : Nat}
    (h : f (f^[k] s) = f^[k] s) : SettledFrom f s k := by
  intro j hj
  induction j with
  | zero =>
      have hk : k = 0 := by omega
      rw [hk]
  | succ j ih =>
      by_cases hkj : k ≤ j
      · rw [Function.iterate_succ_apply', ih hkj, h]
      · have hk : k = j + 1 := by omega
        rw [hk]

theorem SettledFrom.fixed {f : σ → σ} {s : σ} {k : Nat} (h : SettledFrom f s k) :
    f (f^[k] s) = f^[k] s := by
  have hsucc := h (k + 1) (Nat.le_succ k)
  rwa [Function.iterate_succ_apply'] at hsucc

/-- A step that lowers the measure, unless the state it produces is fixed,
settles after at most one step more than the measure. -/
theorem settles_of_measure {f : σ → σ} {Inv : σ → Prop} (μ : σ → Nat)
    (hinv : ∀ s, Inv s → Inv (f s))
    (hstep : ∀ s, Inv s → μ (f s) < μ s ∨ f (f s) = f s) :
    ∀ s, Inv s → ∃ k, k ≤ μ s + 1 ∧ SettledFrom f s k := by
  intro s
  induction hμ : μ s using Nat.strongRecOn generalizing s with
  | ind n ih =>
      intro hs
      rcases hstep s hs with hlt | hfix
      · obtain ⟨k, hk, hset⟩ := ih (μ (f s)) (hμ ▸ hlt) (f s) rfl (hinv s hs)
        refine ⟨k + 1, by omega, settledFrom_of_fixed ?_⟩
        rw [Function.iterate_succ_apply]
        exact hset.fixed
      · exact ⟨1, by omega, settledFrom_of_fixed (by simpa using hfix)⟩

/-- A run that settles has no cycle: a state that comes back is already the
final one. -/
theorem no_recurrence_of_settles {f : σ → σ} {s : σ} {k : Nat} (hset : SettledFrom f s k)
    {i j : Nat} (hij : i < j) (hrec : f^[i] s = f^[j] s) : SettledFrom f s i := by
  obtain ⟨p, hp, rfl⟩ : ∃ p, 0 < p ∧ j = i + p := ⟨j - i, by omega, by omega⟩
  have hperiod : ∀ n, f^[i + n * p] s = f^[i] s := by
    intro n
    induction n with
    | zero => simp
    | succ n ih =>
        have hsplit : i + (n + 1) * p = p + (i + n * p) := by
          rw [Nat.succ_mul]
          omega
        rw [hsplit, Function.iterate_add_apply, ih, ← Function.iterate_add_apply,
          Nat.add_comm p i, ← hrec]
  have hlarge : k ≤ i + k * p := by
    have := Nat.le_mul_of_pos_right k hp
    omega
  apply settledFrom_of_fixed
  rw [← hperiod k, hset _ hlarge]
  exact hset.fixed

end KVOrchestrator.Verified
